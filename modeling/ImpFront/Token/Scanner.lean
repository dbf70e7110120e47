import ImpFront.Token.Basic
import ImpFront.Text.Blank

/-!
# The scanner

The scanner reads source text front to back and hands out one token at a time. Before a
token it skips blanks and line comments: a comment starts with two slashes and runs through
the next line feed, or to the end of the input.

A token is the longest run of its kind: a number is a run of ASCII digits, optionally
followed by a point and more digits (so `7.` is a float literal); a word is an ASCII letter
or underscore followed by letters, digits and underscores, and is a keyword, a boolean
literal or an identifier; `==`, `!=`, `<=`, `>=`, `&&` and `||` take two characters. A
string literal runs from a double quote to the next unescaped one, and a backslash takes
the following character literally, except that `\n` and `\t` stand for a line feed and a
tab.

A character that starts no token is an error, and the scanner goes on right after it; an
unterminated string literal is an error that takes the rest of the input. At the end of the
input the scanner answers the end-of-input token, again and again, at the same location.

Main statements: `Scan.raw_append_rest` (a scan reads a non-empty part of the input and
leaves the rest) and `rest_length_lt_of_step` (every step that is not at the end shortens
the input), on which the termination of `Scanner.run` rests.
-/

namespace ImpFront

/-- The scanner's state: the input not yet read, and the location of its first character. -/
structure Scanner where
  rest : List Char
  loc : Location
deriving DecidableEq, Repr, Inhabited

/-- One scanned piece: its result, the characters read for it, and the input after them. -/
structure Scan where
  result : Except LexError Token
  raw : List Char
  rest : List Char

namespace Scan

/-- A character that may continue a word. -/
def isWordChar (c : Char) : Bool := c.isAlphanum || c = '_'

/-- A character that may start a word. -/
def isWordStart (c : Char) : Bool := c.isAlpha || c = '_'

/-- The character that a backslash followed by `c` stands for inside a string literal. -/
def unescape (c : Char) : Char :=
  if c = 'n' then '\n' else if c = 't' then '\t' else c

/--
Reads the body of a string literal, after its opening quote: the decoded contents, the raw
characters up to and including the closing quote, and the input after it. Nothing if the
input ends first, also right after a backslash.
-/
def readString : List Char → Option (List Char × List Char × List Char)
  | [] => none
  | '"' :: r => some ([], ['"'], r)
  | '\\' :: [] => none
  | '\\' :: e :: r =>
    (readString r).map fun (body, raw, rest) => (unescape e :: body, '\\' :: e :: raw, rest)
  | c :: r =>
    (readString r).map fun (body, raw, rest) => (c :: body, c :: raw, rest)

/--
The operator or punctuation token that starts with `c`, followed by `r`: its kind, the
characters it takes, and the input after them. A second character is taken whenever it
makes a two-character operator.
-/
def operator? : Char → List Char → Option (TokenKind × List Char × List Char)
  | '+', r => some (.plus, ['+'], r)
  | '-', r => some (.minus, ['-'], r)
  | '*', r => some (.star, ['*'], r)
  | '/', r => some (.slash, ['/'], r)
  | '(', r => some (.lParen, ['('], r)
  | ')', r => some (.rParen, [')'], r)
  | '\x7b', r => some (.lBrace, ['\x7b'], r)
  | '\x7d', r => some (.rBrace, ['\x7d'], r)
  | '[', r => some (.lBracket, ['['], r)
  | ']', r => some (.rBracket, [']'], r)
  | ',', r => some (.comma, [','], r)
  | ':', r => some (.colon, [':'], r)
  | ';', r => some (.semicolon, [';'], r)
  | '.', r => some (.dot, ['.'], r)
  | '=', '=' :: r => some (.eqEq, ['=', '='], r)
  | '=', r => some (.eq, ['='], r)
  | '!', '=' :: r => some (.notEq, ['!', '='], r)
  | '!', r => some (.bang, ['!'], r)
  | '<', '=' :: r => some (.le, ['<', '='], r)
  | '<', r => some (.lt, ['<'], r)
  | '>', '=' :: r => some (.ge, ['>', '='], r)
  | '>', r => some (.gt, ['>'], r)
  | '&', '&' :: r => some (.andAnd, ['&', '&'], r)
  | '|', '|' :: r => some (.orOr, ['|', '|'], r)
  | _, _ => none

/-- A token whose lexeme is exactly the characters read for it. -/
def token (kind : TokenKind) (raw rest : List Char) (loc : Location) : Scan :=
  ⟨.ok ⟨kind, String.ofList raw, loc⟩, raw, rest⟩

/-- Scans a number that starts with the digit `c`, followed by `r`. -/
def number (c : Char) (r : List Char) (loc : Location) : Scan :=
  let whole := r.takeWhile Char.isDigit
  match r.dropWhile Char.isDigit with
  | '.' :: r2 =>
    token .floatLit (c :: whole ++ '.' :: r2.takeWhile Char.isDigit)
      (r2.dropWhile Char.isDigit) loc
  | r1 => token .intLit (c :: whole) r1 loc

/-- Scans a keyword, boolean literal or identifier that starts with `c`, followed by `r`. -/
def word (c : Char) (r : List Char) (loc : Location) : Scan :=
  let w := c :: r.takeWhile isWordChar
  token (TokenKind.ofWord (String.ofList w)) w (r.dropWhile isWordChar) loc

/-- Scans a string literal whose opening quote is followed by `r`. -/
def string (r : List Char) (loc : Location) : Scan :=
  match readString r with
  | some (body, raw, rest) => ⟨.ok ⟨.stringLit, String.ofList body, loc⟩, '"' :: raw, rest⟩
  | none => ⟨.error (.unterminatedString loc), '"' :: r, []⟩

/--
Scans the token that starts with the character `c`, followed by `r`, at `loc`. A
character that starts no token is an error that takes only that character; its text shows
up to ten characters from it.
-/
def first (c : Char) (r : List Char) (loc : Location) : Scan :=
  if c = '"' then string r loc
  else if c.isDigit then number c r loc
  else if isWordStart c then word c r loc
  else match operator? c r with
    | some (kind, raw, rest) => token kind raw rest loc
    | none => ⟨.error (.invalidCharacter (String.ofList ((c :: r).take 10)) loc), [c], r⟩

theorem readString_append {cs body raw rest : List Char}
    (h : readString cs = some (body, raw, rest)) : raw ++ rest = cs := by
  induction cs using readString.induct generalizing body raw rest with
  | case1 => simp [readString] at h
  | case2 r =>
    simp only [readString, Option.some.injEq, Prod.mk.injEq] at h
    obtain ⟨-, rfl, rfl⟩ := h
    rfl
  | case3 => simp [readString] at h
  | case4 e r ih =>
    simp only [readString, Option.map_eq_some_iff, Prod.exists] at h
    obtain ⟨b, w, t, hr, hb⟩ := h
    simp only [Prod.mk.injEq] at hb
    obtain ⟨-, rfl, rfl⟩ := hb
    simp [ih hr]
  | case5 c r h1 h2 h3 ih =>
    rw [readString.eq_5 c r h1 h2 h3] at h
    simp only [Option.map_eq_some_iff, Prod.exists] at h
    obtain ⟨b, w, t, hr, hb⟩ := h
    simp only [Prod.mk.injEq] at hb
    obtain ⟨-, rfl, rfl⟩ := hb
    simp [ih hr]

theorem operator?_spec {c : Char} {r raw rest : List Char} {kind : TokenKind}
    (h : operator? c r = some (kind, raw, rest)) : ∃ raw', raw = c :: raw' ∧ raw' ++ rest = r := by
  unfold operator? at h
  split at h <;> simp only [Option.some.injEq, Prod.mk.injEq, reduceCtorEq] at h <;>
    obtain ⟨rfl, rfl, rfl⟩ := h <;> exact ⟨_, rfl, rfl⟩

/-- A scan reads a non-empty part of the input, starting with its first character. -/
theorem first_raw_append_rest (c : Char) (r : List Char) (loc : Location) :
    ∃ raw', (first c r loc).raw = c :: raw' ∧ (first c r loc).raw ++ (first c r loc).rest = c :: r := by
  unfold first
  split
  · rename_i hc
    subst hc
    unfold string
    split
    · rename_i body raw rest h
      exact ⟨raw, rfl, by simp [readString_append h]⟩
    · exact ⟨r, rfl, by simp⟩
  split
  · unfold number
    split
    · rename_i r2 h
      refine ⟨_, rfl, ?_⟩
      have e := List.takeWhile_append_dropWhile (p := Char.isDigit) (l := r)
      rw [h] at e
      simp only [token, List.cons_append, List.append_assoc, List.takeWhile_append_dropWhile]
      exact congrArg (c :: ·) e
    · refine ⟨_, rfl, ?_⟩
      simp [token, List.takeWhile_append_dropWhile]
  split
  · refine ⟨_, rfl, ?_⟩
    simp [word, token, List.takeWhile_append_dropWhile]
  split
  · rename_i kind raw rest h
    obtain ⟨raw', rfl, h2⟩ := operator?_spec h
    exact ⟨raw', rfl, by simp [token, h2]⟩
  · exact ⟨[], rfl, rfl⟩

theorem first_rest_length_lt (c : Char) (r : List Char) (loc : Location) :
    (first c r loc).rest.length < (c :: r).length := by
  obtain ⟨raw', h1, h2⟩ := first_raw_append_rest c r loc
  have := congrArg List.length h2
  rw [h1] at this
  simp only [List.length_append, List.length_cons] at this ⊢
  omega

end Scan

namespace Scanner

/-- The scanner at the start of a text. -/
def ofString (s : String) : Scanner := ⟨s.toList, Location.start⟩

/--
Skips blanks and line comments. The flag says whether a comment is open; a comment closes
after the line feed that ends it.
-/
def skip : Bool → List Char → Location → Scanner
  | _, [], loc => ⟨[], loc⟩
  | true, c :: r, loc => skip (c != '\n') r (loc.next c)
  | false, '/' :: '/' :: r, loc => skip true r ((loc.next '/').next '/')
  | false, c :: r, loc => if Text.isBlank c then skip false r (loc.next c) else ⟨c :: r, loc⟩

theorem skip_rest_length_le (b : Bool) (cs : List Char) (loc : Location) :
    (skip b cs loc).rest.length ≤ cs.length := by
  fun_induction skip b cs loc <;> simp_all <;> omega

/--
One step: skip blanks and comments, then scan one token, or answer the end-of-input token
when nothing is left.
-/
def step (s : Scanner) : Except LexError Token × Scanner :=
  match skip false s.rest s.loc with
  | ⟨[], loc⟩ => (.ok (Token.eofAt loc), ⟨[], loc⟩)
  | ⟨c :: r, loc⟩ =>
    let p := Scan.first c r loc
    (p.result, ⟨p.rest, loc.after p.raw⟩)

/--
Scans to the end of the input: every result before the end-of-input token, in order, and
that token. Scanning goes on after an error, right after the characters the error took.
-/
def run (s : Scanner) : List (Except LexError Token) × Token :=
  match _hskip : skip false s.rest s.loc with
  | ⟨[], loc⟩ => ([], Token.eofAt loc)
  | ⟨c :: r, loc⟩ =>
    let p := Scan.first c r loc
    let tail := run ⟨p.rest, loc.after p.raw⟩
    (p.result :: tail.1, tail.2)
termination_by s.rest.length
decreasing_by
  have h1 := skip_rest_length_le false s.rest s.loc
  rw [_hskip] at h1
  have h2 := Scan.first_rest_length_lt c r loc
  simp only [List.length_cons] at h1 h2 ⊢
  omega

/--
The tokens of a whole text, ending with the end-of-input token, or the first scanning
error.
-/
def tokenize (src : String) : Except LexError (List Token) :=
  let (results, eof) := (ofString src).run
  (results.mapM id).map (· ++ [eof])

end Scanner

end ImpFront
