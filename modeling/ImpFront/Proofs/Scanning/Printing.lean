import Mathlib
import ImpFront.Token.Scanner

/-!
# Scanning printed tokens

The tokens the scanner produces (`Token.Scannable`) are names made of ASCII letters, digits and
underscores that are not reserved words, the keywords and the operators and punctuation with
their own spelling, the boolean literals `true` and `false`, integer literals of decimal digits,
float literals of digits, a point and more digits, and string literals of any contents. Such
tokens are printed one after the other with a single space between two (`Token.render`): a
string literal between double quotes, with a backslash written before every backslash and
double quote of its contents, and every other token as its lexeme.

Main statement: `Scanner.tokenize_render`. Scanning a printed list of such tokens gives them
back, kinds and lexemes, followed by the end of input; so printing what a text scans to and
scanning that again gives the same kinds and lexemes. It rests on `Scannable.run_print`: the
scanner reads a printed token as that token, whenever a space or the end of the text follows.
-/

namespace ImpFront

namespace TokenKind

/-- How a keyword, an operator or a punctuation token is written; none for the other kinds. -/
def spelling? : TokenKind → Option String
  | plus => some "+"
  | minus => some "-"
  | star => some "*"
  | slash => some "/"
  | lParen => some "("
  | rParen => some ")"
  | lBrace => some "\x7b"
  | rBrace => some "\x7d"
  | lBracket => some "["
  | rBracket => some "]"
  | comma => some ","
  | colon => some ":"
  | semicolon => some ";"
  | dot => some "."
  | eq => some "="
  | bang => some "!"
  | lt => some "<"
  | gt => some ">"
  | eqEq => some "=="
  | notEq => some "!="
  | le => some "<="
  | ge => some ">="
  | andAnd => some "&&"
  | orOr => some "||"
  | ifKw => some "if"
  | elseKw => some "else"
  | whileKw => some "while"
  | forKw => some "for"
  | returnKw => some "return"
  | varKw => some "var"
  | boolLit | intLit | floatLit | stringLit | ident | eof => none

end TokenKind

namespace Token

/-- The words that are not names: the keywords and the two boolean literals. -/
def reservedWords : List String := ["if", "else", "while", "for", "return", "var", "true", "false"]

/-- The tokens the scanner produces, each with the lexeme it has. -/
inductive Scannable : Token → Prop
  /-- A name: a letter or underscore, then letters, digits and underscores; no reserved word. -/
  | ident {c : Char} {cs : List Char} {loc : Location} (start : c.isAlpha ∨ c = '_')
      (rest : ∀ d ∈ cs, d.isAlphanum ∨ d = '_')
      (notReserved : String.ofList (c :: cs) ∉ reservedWords) :
      Scannable ⟨.ident, String.ofList (c :: cs), loc⟩
  /-- A keyword, an operator or a punctuation token, with its spelling. -/
  | spelled {k : TokenKind} {s : String} {loc : Location} (spelling : k.spelling? = some s) :
      Scannable ⟨k, s, loc⟩
  | bool {s : String} {loc : Location} (isBool : s = "true" ∨ s = "false") :
      Scannable ⟨.boolLit, s, loc⟩
  | int {ds : List Char} {loc : Location} (nonempty : ds ≠ []) (digits : ∀ d ∈ ds, d.isDigit) :
      Scannable ⟨.intLit, String.ofList ds, loc⟩
  | float {ds fs : List Char} {loc : Location} (nonempty : ds ≠ [])
      (digits : ∀ d ∈ ds, d.isDigit) (fraction : ∀ d ∈ fs, d.isDigit) :
      Scannable ⟨.floatLit, String.ofList (ds ++ '.' :: fs), loc⟩
  | string {s : String} {loc : Location} : Scannable ⟨.stringLit, s, loc⟩

/-- How a character of a string literal's contents is printed: a backslash before a backslash
or a double quote. -/
def escapeChar (c : Char) : List Char :=
  if c = '\\' ∨ c = '"' then ['\\', c] else [c]

/--
How a token is printed: a string literal between double quotes with its contents escaped,
every other token as its lexeme.
-/
def print (t : Token) : List Char :=
  if t.kind = .stringLit then '"' :: t.lexeme.toList.flatMap escapeChar ++ ['"']
  else t.lexeme.toList

theorem print_of_ne {t : Token} (notString : t.kind ≠ .stringLit) : t.print = t.lexeme.toList :=
  if_neg notString

/-- Tokens printed in order, with a single space between two. -/
def printAll : List Token → List Char
  | [] => []
  | [t] => t.print
  | t :: ts => t.print ++ ' ' :: printAll ts

/-- The text of tokens printed in order. -/
def render (ts : List Token) : String := String.ofList (printAll ts)

/-- What scanning compares: a token's kind and lexeme, without its location. -/
def shape (t : Token) : TokenKind × String := (t.kind, t.lexeme)

/-- What may follow a printed token: the end of the text, or a space. -/
def Separated (after : List Char) : Prop := after = [] ∨ ∃ r, after = ' ' :: r

/-- A run of characters that a space stops is taken whole from before a separator. -/
theorem Separated.takeWhile_append {p : Char → Bool} {cs after : List Char} (sep : Separated after)
    (stop : p ' ' = false) (all : ∀ d ∈ cs, p d = true) :
    (cs ++ after).takeWhile p = cs ∧ (cs ++ after).dropWhile p = after := by
  rw [List.takeWhile_append_of_pos all, List.dropWhile_append_of_pos all]
  rcases sep with rfl | ⟨r, rfl⟩
  · simp
  · simp [stop]

/-- The ASCII letters are the code points 65 to 90 and 97 to 122. -/
theorem toNat_of_isAlpha {c : Char} (alpha : c.isAlpha = true) :
    (65 ≤ c.toNat ∧ c.toNat ≤ 90) ∨ (97 ≤ c.toNat ∧ c.toNat ≤ 122) := by
  simp only [Char.isAlpha, Char.isUpper, Char.isLower, Bool.or_eq_true, Bool.and_eq_true,
    decide_eq_true_eq, ge_iff_le, UInt32.le_iff_toNat_le] at alpha
  exact alpha

/-- The decimal digits are the code points 48 to 57. -/
theorem toNat_of_isDigit {c : Char} (digit : c.isDigit = true) : 48 ≤ c.toNat ∧ c.toNat ≤ 57 := by
  simp only [Char.isDigit, Bool.and_eq_true, decide_eq_true_eq, ge_iff_le,
    UInt32.le_iff_toNat_le] at digit
  exact digit

/-- No visible ASCII character is blank. -/
theorem isBlank_of_visible {c : Char} (visible : 33 ≤ c.toNat ∧ c.toNat ≤ 126) :
    Text.isBlank c = false := by
  simp [Text.isBlank, Text.blankRanges]
  omega

theorem visible_of_wordStart {c : Char} (start : c.isAlpha ∨ c = '_') :
    33 ≤ c.toNat ∧ c.toNat ≤ 126 := by
  rcases start with alpha | rfl
  · have := toNat_of_isAlpha alpha
    omega
  · decide

theorem visible_of_isDigit {c : Char} (digit : c.isDigit = true) : 33 ≤ c.toNat ∧ c.toNat ≤ 126 := by
  have := toNat_of_isDigit digit
  omega

/-- A word that is no reserved word is a name. -/
theorem ofWord_of_not_reserved {w : String} (notReserved : w ∉ reservedWords) :
    TokenKind.ofWord w = .ident := by
  simp only [reservedWords, List.mem_cons, List.not_mem_nil, or_false, not_or] at notReserved
  obtain ⟨notIf, notElse, notWhile, notFor, notReturn, notVar, notTrue, notFalse⟩ := notReserved
  simp [TokenKind.ofWord, notIf, notElse, notWhile, notFor, notReturn, notVar, notTrue, notFalse]

end Token

namespace Scan

open Token

/-- The body of a printed string literal reads back as its contents, up to the closing quote. -/
theorem readString_escaped (s after : List Char) :
    readString (s.flatMap escapeChar ++ '"' :: after) =
      some (s, s.flatMap escapeChar ++ ['"'], after) := by
  induction s with
  | nil => rfl
  | cons c s ih =>
    by_cases special : c = '\\' ∨ c = '"'
    · have escaped : escapeChar c = ['\\', c] := if_pos special
      simp only [List.flatMap_cons, escaped, List.cons_append, List.nil_append]
      rw [readString.eq_4, ih]
      rcases special with rfl | rfl <;> rfl
    · have plain : escapeChar c = [c] := if_neg special
      obtain ⟨notEscape, notQuote⟩ := not_or.1 special
      simp only [List.flatMap_cons, plain, List.cons_append, List.nil_append]
      rw [readString.eq_5 c _ notQuote (fun isEscape => absurd isEscape notEscape)
        (fun _ _ isEscape => absurd isEscape notEscape), ih]
      rfl

/-- A word before a separator is scanned whole, as the kind of word it is. -/
theorem first_word {c : Char} {cs after : List Char} (loc : Location) (start : c.isAlpha ∨ c = '_')
    (rest : ∀ d ∈ cs, d.isAlphanum ∨ d = '_') (sep : Separated after) :
    first c (cs ++ after) loc =
      token (TokenKind.ofWord (String.ofList (c :: cs))) (c :: cs) after loc := by
  have visible := visible_of_wordStart start
  have notQuote : c ≠ '"' := by
    rintro rfl
    simp at start
  have notDigit : c.isDigit = false := by
    rcases start with alpha | rfl
    · have := toNat_of_isAlpha alpha
      cases digit : c.isDigit
      · rfl
      · have := toNat_of_isDigit digit
        omega
    · decide
  have wordStart : isWordStart c = true := by simpa [isWordStart] using start
  obtain ⟨taken, dropped⟩ := sep.takeWhile_append (p := isWordChar) (by decide)
    (fun d listed => by simpa [isWordChar] using rest d listed)
  unfold first word
  rw [if_neg notQuote, if_neg (by simp [notDigit]), if_pos wordStart, taken, dropped]

/-- An integer literal before a separator is scanned whole. -/
theorem first_int {c : Char} {ds after : List Char} (loc : Location) (digit : c.isDigit = true)
    (digits : ∀ d ∈ ds, d.isDigit = true) (sep : Separated after) :
    first c (ds ++ after) loc = token .intLit (c :: ds) after loc := by
  have notQuote : c ≠ '"' := by
    rintro rfl
    simp at digit
  obtain ⟨taken, dropped⟩ := sep.takeWhile_append (p := Char.isDigit) (by decide) digits
  unfold first number
  rw [if_neg notQuote, if_pos digit]
  simp only [taken, dropped]
  rcases sep with rfl | ⟨r, rfl⟩ <;> rfl

/-- A float literal before a separator is scanned whole, its point and its fraction included. -/
theorem first_float {c : Char} {ds fs after : List Char} (loc : Location) (digit : c.isDigit = true)
    (digits : ∀ d ∈ ds, d.isDigit = true) (fraction : ∀ d ∈ fs, d.isDigit = true)
    (sep : Separated after) :
    first c (ds ++ '.' :: (fs ++ after)) loc = token .floatLit (c :: ds ++ '.' :: fs) after loc := by
  have notQuote : c ≠ '"' := by
    rintro rfl
    simp at digit
  have beforePoint : (ds ++ '.' :: (fs ++ after)).takeWhile Char.isDigit = ds ∧
      (ds ++ '.' :: (fs ++ after)).dropWhile Char.isDigit = '.' :: (fs ++ after) := by
    rw [List.takeWhile_append_of_pos digits, List.dropWhile_append_of_pos digits]
    exact ⟨by simp [List.takeWhile_cons_of_neg], by simp [List.dropWhile_cons_of_neg]⟩
  obtain ⟨taken, dropped⟩ := sep.takeWhile_append (p := Char.isDigit) (by decide) fraction
  unfold first number
  rw [if_neg notQuote, if_pos digit]
  simp only [beforePoint.1, beforePoint.2, taken, dropped, List.cons_append]

/-- The spelling of an operator is the characters the scanner takes for it. -/
theorem operator?_spelling {c : Char} {r raw rest : List Char} {kind : TokenKind}
    (found : operator? c r = some (kind, raw, rest)) : kind.spelling? = some (String.ofList raw) := by
  unfold operator? at found
  split at found <;> simp only [Option.some.injEq, Prod.mk.injEq, reduceCtorEq] at found <;>
    obtain ⟨rfl, rfl, -⟩ := found <;> rfl

/-- A word the scanner reads is a keyword, a boolean literal or a name. -/
theorem word_scannable {c : Char} {cs : List Char} (loc : Location) (start : isWordStart c = true)
    (rest : ∀ d ∈ cs, isWordChar d = true) :
    Scannable ⟨TokenKind.ofWord (String.ofList (c :: cs)), String.ofList (c :: cs), loc⟩ := by
  unfold TokenKind.ofWord
  split_ifs with isIf isElse isWhile isFor isReturn isVar isBool
  · rw [isIf]; exact .spelled rfl
  · rw [isElse]; exact .spelled rfl
  · rw [isWhile]; exact .spelled rfl
  · rw [isFor]; exact .spelled rfl
  · rw [isReturn]; exact .spelled rfl
  · rw [isVar]; exact .spelled rfl
  · exact .bool isBool
  · refine .ident (by simpa [isWordStart] using start)
      (fun d listed => by simpa [isWordChar] using rest d listed) ?_
    simp only [reservedWords, List.mem_cons, List.not_mem_nil, or_false, not_or] at isBool ⊢
    exact ⟨isIf, isElse, isWhile, isFor, isReturn, isVar, isBool⟩

/-- Every token the scanner reads is one it produces: a scannable token. -/
theorem first_scannable {c : Char} {r : List Char} {loc : Location} {t : Token}
    (scanned : (first c r loc).result = .ok t) : t.Scannable := by
  unfold first at scanned
  split at scanned
  · unfold string at scanned
    split at scanned
    · cases scanned
      exact .string
    · cases scanned
  split at scanned
  · rename_i digit
    unfold number at scanned
    split at scanned
    · cases scanned
      exact .float (List.cons_ne_nil _ _)
        (by simpa [digit] using List.all_eq_true.1 List.all_takeWhile)
        (List.all_eq_true.1 List.all_takeWhile)
    · cases scanned
      exact .int (List.cons_ne_nil _ _) (by simpa [digit] using List.all_eq_true.1 List.all_takeWhile)
  split at scanned
  · rename_i start
    cases scanned
    exact word_scannable loc start (List.all_eq_true.1 List.all_takeWhile)
  split at scanned
  · rename_i kind raw rest found
    cases scanned
    exact .spelled (operator?_spelling found)
  · cases scanned

end Scan

namespace Scanner

open Token

/-- Nothing is skipped before a token that starts with a visible character and no comment. -/
theorem skip_at_token {c : Char} {x : List Char} (loc : Location) (notBlank : Text.isBlank c = false)
    (notComment : ∀ r, c = '/' → x = '/' :: r → False) : skip false (c :: x) loc = ⟨c :: x, loc⟩ := by
  rw [skip.eq_4 loc c x notComment, if_neg (by simp [notBlank])]

/-- Scanning what skips to the end of the text answers the end of input there. -/
theorem run_of_skip_nil {s : Scanner} {loc : Location} (skipped : skip false s.rest s.loc = ⟨[], loc⟩) :
    s.run = ([], Token.eofAt loc) := by
  rw [Scanner.run]
  split
  · rename_i loc' skipped'
    rw [skipped] at skipped'
    cases skipped'
    rfl
  · rename_i c r loc' skipped'
    rw [skipped] at skipped'
    cases skipped'

/-- Scanning what skips to a character answers the token scanned there, then scans on after it. -/
theorem run_of_skip_cons {s : Scanner} {c : Char} {r : List Char} {loc : Location}
    (skipped : skip false s.rest s.loc = ⟨c :: r, loc⟩) :
    s.run = ((Scan.first c r loc).result ::
        (Scanner.run ⟨(Scan.first c r loc).rest, loc.after (Scan.first c r loc).raw⟩).1,
      (Scanner.run ⟨(Scan.first c r loc).rest, loc.after (Scan.first c r loc).raw⟩).2) := by
  rw [Scanner.run]
  split
  · rename_i loc' skipped'
    rw [skipped] at skipped'
    cases skipped'
  · rename_i c' r' loc' skipped'
    rw [skipped] at skipped'
    cases skipped'
    rfl

/-- Two states that skip to the same state scan alike. -/
theorem run_eq_of_skip_eq {s s' : Scanner}
    (same : skip false s.rest s.loc = skip false s'.rest s'.loc) : s.run = s'.run := by
  rcases skipped : skip false s'.rest s'.loc with ⟨_ | ⟨c, r⟩, loc⟩
  · rw [run_of_skip_nil (same.trans skipped), run_of_skip_nil skipped]
  · rw [run_of_skip_cons (same.trans skipped), run_of_skip_cons skipped]

/-- A space is skipped. -/
theorem run_space (x : List Char) (loc : Location) :
    Scanner.run ⟨' ' :: x, loc⟩ = Scanner.run ⟨x, loc.next ' '⟩ :=
  run_eq_of_skip_eq (by
    show skip false (' ' :: x) loc = skip false x (loc.next ' ')
    rw [skip.eq_4 loc ' ' x (fun _ isSlash => absurd isSlash (by decide)), if_pos (by decide)])

/-- The scanner reads every result with `Scan.first`, and ends with the end of input. -/
theorem run_results (s : Scanner) :
    (∀ x ∈ s.run.1, ∃ c r loc, x = (Scan.first c r loc).result) ∧ ∃ last, s.run.2 = Token.eofAt last := by
  fun_induction Scanner.run s with
  | case1 s loc _ => exact ⟨by simp, loc, rfl⟩
  | case2 s c r loc _ piece tail ih =>
    refine ⟨fun x listed => ?_, ih.2⟩
    rcases List.mem_cons.1 listed with rfl | later
    · exact ⟨c, r, loc, rfl⟩
    · exact ih.1 x later

end Scanner

namespace Token

open Scanner

/--
A scannable token, printed before the end of the text or a space, is scanned as itself: nothing
is skipped before it, and the scan takes exactly its printed characters.
-/
theorem Scannable.scan_print {t : Token} (scannable : t.Scannable) (after : List Char)
    (sep : Separated after) (loc : Location) :
    ∃ c cs, t.print = c :: cs ∧ skip false (c :: (cs ++ after)) loc = ⟨c :: (cs ++ after), loc⟩ ∧
      Scan.first c (cs ++ after) loc = ⟨.ok ⟨t.kind, t.lexeme, loc⟩, c :: cs, after⟩ := by
  cases scannable with
  | @ident c cs _ start rest notReserved =>
    refine ⟨c, cs, by simp [print], skip_at_token loc (isBlank_of_visible (visible_of_wordStart start))
      (fun _ isSlash => by subst isSlash; simp at start), ?_⟩
    rw [Scan.first_word loc start rest sep, ofWord_of_not_reserved notReserved]
    rfl
  | @spelled k _ _ spelling =>
    -- every spelling is checked on the two things that may follow it
    cases k <;> simp only [TokenKind.spelling?, Option.some.injEq, reduceCtorEq] at spelling <;>
      subst spelling <;> rw [print_of_ne (by simp)] <;> dsimp only <;> rcases sep with rfl | ⟨r, rfl⟩ <;>
      exact ⟨_, _, rfl, by rfl, by rfl⟩
  | @bool _ _ isBool =>
    rcases isBool with rfl | rfl <;> rw [print_of_ne (by simp)] <;> dsimp only <;> rcases sep with rfl | ⟨r, rfl⟩ <;>
      exact ⟨_, _, rfl, by rfl, by rfl⟩
  | @int ds _ nonempty digits =>
    obtain ⟨c, ds, rfl⟩ := List.exists_cons_of_ne_nil nonempty
    have digit := digits c (by simp)
    refine ⟨c, ds, by simp [print], skip_at_token loc (isBlank_of_visible (visible_of_isDigit digit))
      (fun _ isSlash => by subst isSlash; simp at digit), ?_⟩
    rw [Scan.first_int loc digit (fun d listed => digits d (by simp [listed])) sep]
    rfl
  | @float ds fs _ nonempty digits fraction =>
    obtain ⟨c, ds, rfl⟩ := List.exists_cons_of_ne_nil nonempty
    have digit := digits c (by simp)
    refine ⟨c, ds ++ '.' :: fs, by simp [print], ?_, ?_⟩
    · exact skip_at_token loc (isBlank_of_visible (visible_of_isDigit digit))
        (fun _ isSlash => by subst isSlash; simp at digit)
    · rw [List.append_assoc, List.cons_append,
        Scan.first_float loc digit (fun d listed => digits d (by simp [listed])) fraction sep]
      rfl
  | @string lexeme _ =>
    refine ⟨'"', lexeme.toList.flatMap escapeChar ++ ['"'], by simp [print],
      skip_at_token loc (by decide) (fun _ isSlash => absurd isSlash (by decide)), ?_⟩
    rw [List.append_assoc, List.singleton_append]
    unfold Scan.first Scan.string
    rw [if_pos rfl, Scan.readString_escaped]
    simp

/-- A scannable token printed before the end of the text or a space is scanned as itself, and
scanning goes on after it. -/
theorem Scannable.run_print {t : Token} (scannable : t.Scannable) (after : List Char)
    (sep : Separated after) (loc : Location) :
    Scanner.run ⟨t.print ++ after, loc⟩ = (.ok ⟨t.kind, t.lexeme, loc⟩ ::
      (Scanner.run ⟨after, loc.after t.print⟩).1, (Scanner.run ⟨after, loc.after t.print⟩).2) := by
  obtain ⟨c, cs, printed, skipped, scanned⟩ := scannable.scan_print after sep loc
  rw [printed, List.cons_append, run_of_skip_cons (s := ⟨c :: (cs ++ after), loc⟩) skipped, scanned]

/-- Scannable tokens printed in order are scanned back, with their kinds and lexemes, and then
the end of input. -/
theorem run_printAll : ∀ ts : List Token, (∀ t ∈ ts, t.Scannable) → ∀ loc : Location,
    ∃ (toks : List Token) (last : Location),
      Scanner.run ⟨printAll ts, loc⟩ = (toks.map .ok, Token.eofAt last) ∧
      toks.map shape = ts.map shape
  | [], _, loc => ⟨[], loc, run_of_skip_nil rfl, rfl⟩
  | [t], scannable, loc => by
    have ran := (scannable t (by simp)).run_print [] (Or.inl rfl) loc
    rw [List.append_nil] at ran
    refine ⟨[⟨t.kind, t.lexeme, loc⟩], loc.after t.print, ?_, rfl⟩
    rw [printAll, ran, run_of_skip_nil rfl]
    rfl
  | t :: t' :: ts, scannable, loc => by
    have ran := (scannable t (by simp)).run_print (' ' :: printAll (t' :: ts))
      (Or.inr ⟨_, rfl⟩) loc
    obtain ⟨toks, last, restRan, shapes⟩ :=
      run_printAll (t' :: ts) (fun u listed => scannable u (by simp [listed]))
        ((loc.after t.print).next ' ')
    refine ⟨⟨t.kind, t.lexeme, loc⟩ :: toks, last, ?_, by simp [shapes, shape]⟩
    have printed : printAll (t :: t' :: ts) = t.print ++ ' ' :: printAll (t' :: ts) := rfl
    rw [printed, ran, run_space, restRan]
    rfl

end Token

namespace Scanner

open Token

/-- Collecting tokens that are all results gives them back. -/
theorem mapM_id_map_ok (ys : List Token) :
    (ys.map (Except.ok : Token → Except LexError Token)).mapM id = .ok ys := by
  induction ys with
  | nil => rfl
  | cons y ys ih => simp [List.mapM_cons, ih, bind, Except.bind, pure, Except.pure]

/-- Collecting the results of a scan succeeds only when all of them are tokens. -/
theorem eq_map_ok_of_mapM_id {xs : List (Except LexError Token)} {ys : List Token}
    (collected : xs.mapM id = .ok ys) : xs = ys.map .ok := by
  induction xs generalizing ys with
  | nil =>
    cases collected
    rfl
  | cons x xs ih =>
    cases x with
    | error e => cases collected
    | ok y =>
      cases rest : xs.mapM id with
      | error e => simp [List.mapM_cons, rest, bind, Except.bind] at collected
      | ok zs =>
        simp only [List.mapM_cons, rest, id, bind, Except.bind, pure, Except.pure,
          Except.ok.injEq] at collected
        subst collected
        simp [ih rest]

/-- Scanning scannable tokens printed in order gives their kinds and lexemes, then the end of
input. -/
theorem tokenize_printed {ts : List Token} (scannable : ∀ t ∈ ts, t.Scannable) :
    (tokenize (render ts)).map (List.map shape) = .ok (ts.map shape ++ [(.eof, "$")]) := by
  obtain ⟨toks, last, ran, shapes⟩ := run_printAll ts scannable Location.start
  have scanned : (ofString (render ts)).run = (toks.map .ok, Token.eofAt last) := by
    rw [ofString, render, String.toList_ofList]
    exact ran
  simp only [tokenize, scanned, mapM_id_map_ok]
  simp [Except.map, shapes, shape, Token.eofAt]

/-- A text that scans gives scannable tokens, then the end of input. -/
theorem tokenize_scannable {src : String} {ts : List Token} (tokenized : tokenize src = .ok ts) :
    ∃ toks last, ts = toks ++ [Token.eofAt last] ∧ ∀ t ∈ toks, t.Scannable := by
  obtain ⟨firsts, last, ends⟩ := run_results (ofString src)
  unfold tokenize at tokenized
  rcases ran : (ofString src).run with ⟨results, eof⟩
  rw [ran] at tokenized firsts ends
  dsimp only at tokenized firsts ends
  cases collected : results.mapM id with
  | error e =>
    rw [collected] at tokenized
    cases tokenized
  | ok toks =>
    rw [collected] at tokenized
    cases tokenized
    refine ⟨toks, last, by rw [← ends], fun t listed => ?_⟩
    have result : .ok t ∈ results := by
      rw [eq_map_ok_of_mapM_id collected]
      exact List.mem_map_of_mem listed
    obtain ⟨c, r, loc, isFirst⟩ := firsts _ result
    exact Scan.first_scannable isFirst.symm

/--
Scanning undoes printing. Scannable tokens printed in order, with a space between two and
string literals quoted and escaped, scan back to the same kinds and lexemes followed by the end
of input; so the tokens of any text that scans, printed without their end of input, scan back
to the same kinds and lexemes as the text.
-/
theorem tokenize_render :
    (∀ ts : List Token, (∀ t ∈ ts, t.Scannable) →
      (tokenize (render ts)).map (List.map shape) = .ok (ts.map shape ++ [(.eof, "$")])) ∧
    (∀ (src : String) (ts : List Token), tokenize src = .ok ts →
      (tokenize (render ts.dropLast)).map (List.map shape) = .ok (ts.map shape)) := by
  refine ⟨fun ts scannable => tokenize_printed scannable, fun src ts tokenized => ?_⟩
  obtain ⟨toks, last, rfl, scannable⟩ := tokenize_scannable tokenized
  rw [List.dropLast_concat, tokenize_printed scannable]
  simp [shape, Token.eofAt]

/-- A name, `=`, a string literal holding a double quote, and `;`, printed, scan back. -/
theorem tokenize_render_assignment :
    (tokenize (render [⟨.ident, "x", ⟨1, 1⟩⟩, ⟨.eq, "=", ⟨1, 3⟩⟩, ⟨.stringLit, "a\"b", ⟨1, 5⟩⟩,
      ⟨.semicolon, ";", ⟨1, 11⟩⟩])).map (List.map shape) =
      .ok [(.ident, "x"), (.eq, "="), (.stringLit, "a\"b"), (.semicolon, ";"), (.eof, "$")] :=
  tokenize_render.1 _ (by
    intro t listed
    simp only [List.mem_cons, List.not_mem_nil, or_false] at listed
    rcases listed with rfl | rfl | rfl | rfl
    · show (⟨.ident, String.ofList ['x'], ⟨1, 1⟩⟩ : Token).Scannable
      exact .ident (Or.inl rfl) (by simp) (by decide)
    · exact .spelled rfl
    · exact .string
    · exact .spelled rfl)

end Scanner

end ImpFront
