import ImpFront.Token.Scanner

/-!
# Token feeds

A feed is what the reader pulls tokens from, one at a time: a list of pending results, each
a token or a scanning error, and after them the end-of-input token at a fixed location,
again and again. The scanner gives one feed for each text; any list of tokens and errors
with a final location is a feed too, so the reader can be run on token streams that no text
produces.
-/

namespace ImpFront

/-- Pending tokens and errors, then the end-of-input token at `last` forever. -/
structure Feed where
  pending : List (Except LexError Token)
  last : Location
deriving Inhabited

namespace Feed

/-- The next result, and the feed after it. -/
def pull (f : Feed) : Except LexError Token × Feed :=
  match f.pending with
  | [] => (.ok (Token.eofAt f.last), f)
  | x :: xs => (x, ⟨xs, f.last⟩)

/-- The results of `n` pulls in a row. -/
def pulls (f : Feed) : Nat → List (Except LexError Token)
  | 0 => []
  | n + 1 => (f.pull).1 :: (f.pull).2.pulls n

/-- The feed of a text: what the scanner yields, up to its end-of-input token. -/
def ofSource (src : String) : Feed :=
  let (results, eof) := (Scanner.ofString src).run
  ⟨results, eof.loc⟩

@[simp]
theorem pull_nil (loc : Location) : pull ⟨[], loc⟩ = (.ok (Token.eofAt loc), ⟨[], loc⟩) := rfl

@[simp]
theorem pull_cons (x : Except LexError Token) (xs : List (Except LexError Token))
    (loc : Location) : pull ⟨x :: xs, loc⟩ = (x, ⟨xs, loc⟩) := rfl

end Feed

end ImpFront
