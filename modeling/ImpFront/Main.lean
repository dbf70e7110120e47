import ImpFront.Parse.Program
import ImpFront.Syntax.Printer

/-!
# Command line

`impfront [FILE]` reads a source file, or standard input when no file is named, and prints
the listing of the program it holds. When reading fails it prints `error: ` and the message
on standard error instead, and exits with status 1.
-/

open ImpFront

/-- Reads the source text: the named file, or standard input. -/
def readSource : List String → IO String
  | [] => do (← IO.getStdin).readToEnd
  | path :: _ => IO.FS.readFile path

/-- Prints the listing of the source, or the error, and answers the exit status. -/
def main (args : List String) : IO UInt32 := do
  match ← (readSource args).toBaseIO with
  | .error e =>
    IO.eprintln ("error: " ++ toString e)
    return 1
  | .ok text =>
    match (Program.ofSource text).result with
    | .ok p =>
      IO.print p.render
      return 0
    | .error e =>
      IO.eprintln ("error: " ++ e.message)
      return 1
