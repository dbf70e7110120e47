import ImpFront.Source.Location
import ImpFront.Token.Kind

/-!
# Tokens and scanning errors

A token is a kind, its lexeme and the location of its first character. For a string
literal the lexeme is the decoded contents, without the quotes; the end of the input is a
token of kind `eof` with the lexeme "$".

Scanning fails in two ways, each at a location: a character that starts no token, and a
string literal that the input ends inside of.
-/

namespace ImpFront

/-- A token: its kind, its lexeme, and where it starts. -/
structure Token where
  kind : TokenKind
  lexeme : String
  loc : Location
deriving DecidableEq, Repr, Inhabited

namespace Token

/-- The end-of-input token at a location. -/
def eofAt (loc : Location) : Token := ⟨.eof, "$", loc⟩

/--
How messages show a token of a kind with a lexeme: an identifier with its quoted name, a
number or boolean literal followed by its text, a string literal with its contents in
double quotes, and every other token by the display text of its kind.
-/
def describe (kind : TokenKind) (lexeme : String) : String :=
  match kind with
  | .ident => "identifier '" ++ lexeme ++ "'"
  | .intLit | .floatLit | .boolLit => kind.display ++ " " ++ lexeme
  | .stringLit => "string literal \"" ++ lexeme ++ "\""
  | _ => kind.display

/-- How messages show this token. -/
def text (t : Token) : String := describe t.kind t.lexeme

@[simp]
theorem eofAt_kind (loc : Location) : (eofAt loc).kind = .eof := rfl

end Token

/-- The ways scanning fails. -/
inductive LexError where
  /-- A character that starts no token; the text is up to ten characters from it. -/
  | invalidCharacter (text : String) (loc : Location)
  /-- The input ends inside a string literal that opens at the location. -/
  | unterminatedString (loc : Location)
deriving DecidableEq, Repr, Inhabited

namespace LexError

/-- Where the error is: the offending character, or the opening quote. -/
def loc : LexError → Location
  | invalidCharacter _ l => l
  | unterminatedString l => l

/-- The message of a scanning error. -/
def message : LexError → String
  | invalidCharacter text l => "invalid character at " ++ l.render ++ ": '" ++ text ++ "'"
  | unterminatedString l => "unterminated string literal starting at " ++ l.render

end LexError

end ImpFront
