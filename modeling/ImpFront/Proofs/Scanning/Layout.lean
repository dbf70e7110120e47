import Mathlib.Data.List.Induction
import ImpFront.Token.Feed

/-!
# Where the scanner's results stand in the text

The scanner cuts a text into pieces: before each result a gap of blanks and line comments,
then the characters the result was scanned from, and after the last result a final gap and the
end of input. `Layout` says this of the results of a scan, by character index: each result
starts at an index at or after the end of the one before, the characters between are a gap
(`Skippable`), and the characters from its start to its end are what it reads (`Reads`): its
lexeme for a token other than a string literal, a quoted string whose escapes decode to its
lexeme for a string literal, the offending character for an invalid one, and everything from
the opening quote for a string literal that the input ends inside of. Every result and the
end-of-input token are located at the line and column of their index (`Location.ofIndex`):
one more than the line feeds before it, and one more than the characters after the last of them.

Main statement: `Feed.ofSource_layout`, for every text and every number of pulls from its feed.
The scanner keeps its location by moving it over each character it reads; that this is the
line and column of the index it has reached is `Location.ofIndex_after`.
-/

namespace ImpFront

namespace Location

/--
The location of the character at index `p` of a text: one more than the line feeds before it,
and one more than the characters between the last of them and it.
-/
def ofIndex (cs : List Char) (p : Nat) : Location :=
  ⟨1 + (cs.take p).count '\n', 1 + ((cs.take p).reverse.takeWhile (· != '\n')).length⟩

/-- `a` comes before `b`: on an earlier line, or further left on the same line. -/
def Before (a b : Location) : Prop :=
  a.line < b.line ∨ a.line = b.line ∧ a.column < b.column

theorem Before.trans {a b c : Location} (first : Before a b) (second : Before b c) : Before a c := by
  unfold Before at *
  omega

/-- Reading a text from its start ends at the line and column that its line feeds give. -/
theorem start_after (cs : List Char) :
    start.after cs = ⟨1 + cs.count '\n', 1 + (cs.reverse.takeWhile (· != '\n')).length⟩ := by
  induction cs using List.reverseRecOn with
  | nil => rfl
  | append_singleton cs c ih =>
    rw [after_append, ih]
    by_cases isFeed : c = '\n'
    · subst isFeed
      simp [after, next, List.count_append, Nat.add_assoc]
    · simp [after, next, isFeed, List.count_append, Nat.add_assoc]

theorem ofIndex_eq_after (cs : List Char) (p : Nat) : ofIndex cs p = start.after (cs.take p) :=
  (start_after _).symm

/-- Moving over the characters from one index to a later one reaches the later one's location. -/
theorem ofIndex_after (cs : List Char) {p q : Nat} (le : p ≤ q) :
    (ofIndex cs p).after (cs.extract p q) = ofIndex cs q := by
  rw [ofIndex_eq_after, ofIndex_eq_after, ← after_append, List.extract_eq_take_drop,
    ← List.take_add, Nat.add_sub_cancel' le]

theorem before_next (loc : Location) (c : Char) : Before loc (loc.next c) := by
  unfold next
  split <;> simp [Before]

/-- Every character read moves the location on. -/
theorem before_after (loc : Location) (c : Char) (cs : List Char) :
    Before loc (loc.after (c :: cs)) := by
  induction cs generalizing loc c with
  | nil => exact before_next loc c
  | cons d ds ih => exact (before_next loc c).trans (ih (loc.next c) d)

/-- A later index of the text is at a later location. -/
theorem ofIndex_before {cs : List Char} {p q : Nat} (lt : p < q) (within : q ≤ cs.length) :
    Before (ofIndex cs p) (ofIndex cs q) := by
  rw [← ofIndex_after cs (Nat.le_of_lt lt)]
  cases slice : cs.extract p q with
  | nil =>
    simp only [List.extract_eq_take_drop, List.take_eq_nil_iff, List.drop_eq_nil_iff] at slice
    omega
  | cons c rest => exact before_after _ c rest

end Location

/--
Text the scanner skips between tokens: blanks, and line comments, each running from two
slashes through the next line feed, or to the end of the input.
-/
inductive Skippable : List Char → Prop
  | nil : Skippable []
  | blank {c : Char} {rest : List Char} (isBlank : Text.isBlank c = true)
      (later : Skippable rest) : Skippable (c :: rest)
  | comment {body rest : List Char} (oneLine : '\n' ∉ body) (later : Skippable rest) :
      Skippable ('/' :: '/' :: (body ++ '\n' :: rest))
  | lastComment {body : List Char} (oneLine : '\n' ∉ body) : Skippable ('/' :: '/' :: body)

/--
The rest of a line comment, `gap`, with `rest` after it: the comment runs through the next
line feed and a gap follows it, or it runs to the end of the input.
-/
def CommentTail (gap rest : List Char) : Prop :=
  ∃ body, '\n' ∉ body ∧
    ((∃ later, gap = body ++ '\n' :: later ∧ Skippable later) ∨ (gap = body ∧ rest = []))

/--
The raw text between the quotes of a string literal, and the contents it stands for: a
backslash and the character after it stand for a line feed after `n`, a tab after `t`, and
that character otherwise; every other character but a quote stands for itself.
-/
inductive StringBody : List Char → List Char → Prop
  | nil : StringBody [] []
  | plain {c : Char} {raw body : List Char} (notQuote : c ≠ '"') (notEscape : c ≠ '\\')
      (later : StringBody raw body) : StringBody (c :: raw) (c :: body)
  | escape {e : Char} {raw body : List Char} (later : StringBody raw body) :
      StringBody ('\\' :: e :: raw) ((if e = 'n' then '\n' else if e = 't' then '\t' else e) :: body)

/--
What one piece of the text is scanned as: a token other than a string literal whose lexeme is
the piece, a string literal between quotes whose raw text decodes to its lexeme, an invalid
character, or a string literal that the input ends inside of.
-/
inductive Reads : List Char → Except LexError Token → Prop
  | token {t : Token} (notString : t.kind ≠ .stringLit) (notEnd : t.kind ≠ .eof) :
      Reads t.lexeme.toList (.ok t)
  | string {t : Token} {raw : List Char} (isString : t.kind = .stringLit)
      (body : StringBody raw t.lexeme.toList) : Reads ('"' :: raw ++ ['"']) (.ok t)
  | invalid {c : Char} {text : String} {loc : Location} :
      Reads [c] (.error (.invalidCharacter text loc))
  | unterminated {raw : List Char} {loc : Location} :
      Reads ('"' :: raw) (.error (.unterminatedString loc))

/-- Where a result of the scanner is: the token's location, or the error's. -/
def Scan.locOf : Except LexError Token → Location
  | .ok t => t.loc
  | .error e => e.loc

/--
`Layout cs p results eof`: scanning the text `cs` from the index `p` gives `results`, then the
end-of-input token `eof`. Each result starts at an index `q` after a gap from `p`, reads the
characters up to an index `e`, from which the rest is scanned, and is located at the line and
column of `q`; after the last result a gap runs to the end of the text, where `eof` is.
-/
inductive Layout (cs : List Char) : Nat → List (Except LexError Token) → Token → Prop
  | last {p : Nat} (within : p ≤ cs.length) (gap : Skippable (cs.drop p)) :
      Layout cs p [] ⟨.eof, "$", Location.ofIndex cs cs.length⟩
  | piece {p q e : Nat} {r : Except LexError Token} {rs : List (Except LexError Token)}
      {eof : Token} (gapFirst : p ≤ q) (nonempty : q < e) (within : e ≤ cs.length)
      (gap : Skippable (cs.extract p q)) (reads : Reads (cs.extract q e) r)
      (located : Scan.locOf r = Location.ofIndex cs q) (later : Layout cs e rs eof) :
      Layout cs p (r :: rs) eof

namespace Scan

/-- The raw text a string literal's body reads ends with the closing quote, and decodes to the body. -/
theorem readString_body {cs body raw rest : List Char}
    (read : readString cs = some (body, raw, rest)) :
    ∃ text, raw = text ++ ['"'] ∧ StringBody text body := by
  induction cs using readString.induct generalizing body raw rest with
  | case1 => simp [readString] at read
  | case2 r =>
    simp only [readString, Option.some.injEq, Prod.mk.injEq] at read
    obtain ⟨rfl, rfl, -⟩ := read
    exact ⟨[], rfl, .nil⟩
  | case3 => simp [readString] at read
  | case4 e r ih =>
    simp only [readString, Option.map_eq_some_iff, Prod.exists, Prod.mk.injEq] at read
    obtain ⟨body', raw', rest', inner, rfl, rfl, -⟩ := read
    obtain ⟨text, rfl, decoded⟩ := ih inner
    exact ⟨'\\' :: e :: text, rfl, .escape decoded⟩
  | case5 c r notQuote notLoneEscape notEscape ih =>
    rw [readString.eq_5 c r notQuote notLoneEscape notEscape] at read
    simp only [Option.map_eq_some_iff, Prod.exists, Prod.mk.injEq] at read
    obtain ⟨body', raw', rest', inner, rfl, rfl, -⟩ := read
    obtain ⟨text, rfl, decoded⟩ := ih inner
    have plainChar : c ≠ '\\' := by
      intro isEscape
      cases r with
      | nil => exact notLoneEscape isEscape rfl
      | cons e r => exact notEscape e r isEscape rfl
    exact ⟨c :: text, rfl, .plain notQuote plainChar decoded⟩

/-- A token scanned from its characters reads them, and is where the scan started. -/
theorem token_reads {kind : TokenKind} (raw rest : List Char) (loc : Location)
    (notString : kind ≠ .stringLit) (notEnd : kind ≠ .eof) :
    Reads (token kind raw rest loc).raw (token kind raw rest loc).result ∧
      locOf (token kind raw rest loc).result = loc := by
  have reads := Reads.token (t := ⟨kind, String.ofList raw, loc⟩) notString notEnd
  rw [String.toList_ofList] at reads
  exact ⟨reads, rfl⟩

theorem ofWord_ne_stringLit (w : String) : TokenKind.ofWord w ≠ .stringLit := by
  unfold TokenKind.ofWord
  split_ifs <;> decide

theorem ofWord_ne_eof (w : String) : TokenKind.ofWord w ≠ .eof := by
  unfold TokenKind.ofWord
  split_ifs <;> decide

theorem operator?_kind {c : Char} {r raw rest : List Char} {kind : TokenKind}
    (found : operator? c r = some (kind, raw, rest)) : kind ≠ .stringLit ∧ kind ≠ .eof := by
  unfold operator? at found
  split at found <;> simp only [Option.some.injEq, Prod.mk.injEq, reduceCtorEq] at found <;>
    obtain ⟨rfl, -, -⟩ := found <;> decide

/--
A scan reads the characters it took, and is located where it started: a token other than a
string literal has them as its lexeme, a string literal is quoted and decodes to its lexeme, an
invalid character is that character alone, and an unterminated string takes the rest.
-/
theorem first_reads (c : Char) (r : List Char) (loc : Location) :
    Reads (first c r loc).raw (first c r loc).result ∧ locOf (first c r loc).result = loc := by
  unfold first
  split
  · unfold string
    split
    · rename_i body raw rest read
      obtain ⟨text, rfl, decoded⟩ := readString_body read
      refine ⟨?_, rfl⟩
      have reads := Reads.string (t := ⟨.stringLit, String.ofList body, loc⟩) rfl
        (by rw [String.toList_ofList]; exact decoded)
      exact reads
    · exact ⟨.unterminated, rfl⟩
  split
  · unfold number
    split <;> exact token_reads _ _ loc (by decide) (by decide)
  split
  · exact token_reads _ _ loc (ofWord_ne_stringLit _) (ofWord_ne_eof _)
  split
  · rename_i kind raw rest found
    obtain ⟨notString, notEnd⟩ := operator?_kind found
    exact token_reads raw rest loc notString notEnd
  · exact ⟨.invalid, rfl⟩

end Scan

namespace Scanner

/--
Skipping reads a gap and leaves the rest, at the location moved over the gap; inside a comment
the gap is the comment's rest and what follows it.
-/
theorem skip_gap (inComment : Bool) (cs : List Char) (loc : Location) :
    ∃ gap, cs = gap ++ (skip inComment cs loc).rest ∧ (skip inComment cs loc).loc = loc.after gap ∧
      (if inComment then CommentTail gap (skip inComment cs loc).rest else Skippable gap) := by
  fun_induction skip inComment cs loc with
  | case1 inComment loc =>
    refine ⟨[], rfl, rfl, ?_⟩
    cases inComment
    · exact .nil
    · exact ⟨[], by simp, Or.inr ⟨rfl, rfl⟩⟩
  | case2 c r loc ih =>
    obtain ⟨gap, split, moved, shape⟩ := ih
    refine ⟨c :: gap, congrArg (c :: ·) split, moved, ?_⟩
    rw [if_pos rfl]
    by_cases isFeed : c = '\n'
    · subst isFeed
      simp only [bne_self_eq_false, Bool.false_eq_true, if_false] at shape
      exact ⟨[], by simp, Or.inl ⟨gap, rfl, shape⟩⟩
    · rw [if_pos (bne_iff_ne.2 isFeed)] at shape
      obtain ⟨body, oneLine, ⟨later, rfl, skippable⟩ | ⟨isBody, atEnd⟩⟩ := shape
      · exact ⟨c :: body, by simp [oneLine, Ne.symm isFeed], Or.inl ⟨later, rfl, skippable⟩⟩
      · subst isBody
        exact ⟨c :: gap, by simp [oneLine, Ne.symm isFeed], Or.inr ⟨rfl, atEnd⟩⟩
  | case3 r loc ih =>
    obtain ⟨gap, split, moved, tail⟩ := ih
    refine ⟨'/' :: '/' :: gap, congrArg (fun rest => '/' :: '/' :: rest) split, moved, ?_⟩
    rw [if_pos rfl] at tail
    simp only [Bool.false_eq_true, if_false]
    obtain ⟨body, oneLine, ⟨later, rfl, skippable⟩ | ⟨isBody, -⟩⟩ := tail
    · exact .comment oneLine skippable
    · subst isBody
      exact .lastComment oneLine
  | case4 c r loc notComment isBlank ih =>
    obtain ⟨gap, split, moved, shape⟩ := ih
    exact ⟨c :: gap, congrArg (c :: ·) split, moved, .blank isBlank shape⟩
  | case5 c r loc notComment notBlank => exact ⟨[], rfl, rfl, .nil⟩


/-- The text from an index on, cut in two: the first part is the slice up to its end. -/
theorem extract_of_drop_eq {cs xs ys : List Char} {p : Nat} (within : p ≤ cs.length)
    (split : cs.drop p = xs ++ ys) :
    cs.extract p (p + xs.length) = xs ∧ cs.drop (p + xs.length) = ys ∧
      p + xs.length ≤ cs.length := by
  have lengths := congrArg List.length split
  simp only [List.length_drop, List.length_append] at lengths
  refine ⟨?_, ?_, by omega⟩
  · rw [List.extract_eq_take_drop, Nat.add_sub_cancel_left, split, List.take_left']
    rfl
  · rw [← List.drop_drop, split, List.drop_left]

/-- Scanning a text from an index, with the location of that index, lays the rest of it out. -/
theorem run_layout (cs : List Char) (s : Scanner) (p : Nat) (within : p ≤ cs.length)
    (atRest : s.rest = cs.drop p) (atLoc : s.loc = Location.ofIndex cs p) :
    Layout cs p s.run.1 s.run.2 := by
  fun_induction Scanner.run s generalizing p with
  | case1 s loc skipped =>
    obtain ⟨gap, split, moved, skippable⟩ := skip_gap false s.rest s.loc
    rw [skipped] at split moved skippable
    simp only [List.append_nil, Bool.false_eq_true, if_false] at split moved skippable
    have wholeRest : cs.extract p cs.length = cs.drop p := by
      rw [List.extract_eq_take_drop]
      exact List.take_of_length_le (by simp)
    have atEnd : loc = Location.ofIndex cs cs.length := by
      rw [moved, atLoc, ← split, atRest, ← wholeRest, Location.ofIndex_after cs within]
    rw [atEnd]
    exact .last within (by rw [← atRest, split]; exact skippable)
  | case2 s c r loc skipped piece tail ih =>
    obtain ⟨gap, split, moved, skippable⟩ := skip_gap false s.rest s.loc
    rw [skipped] at split moved skippable
    simp only [Bool.false_eq_true, if_false] at moved skippable
    rw [atRest] at split
    obtain ⟨gapSlice, atStart, startWithin⟩ := extract_of_drop_eq within split
    obtain ⟨raw', rawStart, rawSplit⟩ := Scan.first_raw_append_rest c r loc
    obtain ⟨reads, located⟩ := Scan.first_reads c r loc
    rw [← rawSplit] at atStart
    obtain ⟨rawSlice, atPieceEnd, endWithin⟩ := extract_of_drop_eq startWithin atStart
    have startLoc : loc = Location.ofIndex cs (p + gap.length) := by
      have overGap := Location.ofIndex_after cs (Nat.le_add_right p gap.length)
      rw [gapSlice] at overGap
      rw [moved, atLoc, overGap]
    have endLoc : loc.after piece.raw = Location.ofIndex cs (p + gap.length + piece.raw.length) := by
      have overRaw := Location.ofIndex_after cs
        (Nat.le_add_right (p + gap.length) piece.raw.length)
      rw [rawSlice] at overRaw
      rw [startLoc, overRaw]
    have nonempty : p + gap.length < p + gap.length + piece.raw.length := by
      simp [piece, rawStart]
    refine .piece (Nat.le_add_right p _) nonempty endWithin ?_ ?_ (located.trans startLoc)
      (ih _ endWithin atPieceEnd.symm endLoc)
    · rw [gapSlice]
      exact skippable
    · rw [rawSlice]
      exact reads

end Scanner

/-- The end-of-input token of a layout is at the end of the text. -/
theorem Layout.eof_eq {cs : List Char} {p : Nat} {rs : List (Except LexError Token)} {eof : Token}
    (laid : Layout cs p rs eof) : eof = Token.eofAt (Location.ofIndex cs cs.length) := by
  induction laid with
  | last => rfl
  | piece _ _ _ _ _ _ _ ih => exact ih

/-- Every result of a layout and its end of input stand at an index from its start on. -/
theorem Layout.located_from {cs : List Char} {p : Nat} {rs : List (Except LexError Token)}
    {eof : Token} (laid : Layout cs p rs eof) :
    ∀ x ∈ rs.map Scan.locOf ++ [eof.loc], ∃ q, p ≤ q ∧ q ≤ cs.length ∧ x = Location.ofIndex cs q := by
  induction laid with
  | @last p within _ =>
    intro x listed
    simp only [List.map_nil, List.nil_append, List.mem_singleton] at listed
    subst listed
    exact ⟨cs.length, within, Nat.le_refl _, rfl⟩
  | @piece p q e r rs eof gapFirst nonempty within _ _ located _ ih =>
    intro x listed
    simp only [List.map_cons, List.cons_append, List.mem_cons] at listed
    rcases listed with rfl | later
    · exact ⟨q, gapFirst, by omega, located⟩
    · obtain ⟨q', after, bounded, rfl⟩ := ih x later
      exact ⟨q', by omega, bounded, rfl⟩

/-- The results of a layout, and then its end of input, stand at strictly later locations. -/
theorem Layout.locations_increase {cs : List Char} {p : Nat} {rs : List (Except LexError Token)}
    {eof : Token} (laid : Layout cs p rs eof) :
    (rs.map Scan.locOf ++ [eof.loc]).Pairwise Location.Before := by
  induction laid with
  | last => exact List.pairwise_singleton _ _
  | @piece p q e r rs eof gapFirst nonempty within _ _ located later ih =>
    refine List.pairwise_cons.2 ⟨fun x listed => ?_, ih⟩
    obtain ⟨q', after, bounded, rfl⟩ := later.located_from x listed
    rw [located]
    exact Location.ofIndex_before (by omega) bounded

/-- No piece of the text is scanned as the end of input. -/
theorem Reads.kind_ne_eof {raw : List Char} {t : Token} (reads : Reads raw (.ok t)) :
    t.kind ≠ .eof := by
  cases reads with
  | token _ notEnd => exact notEnd
  | string isString _ =>
    rw [isString]
    decide

/-- No result of a layout is an end-of-input token. -/
theorem Layout.not_eof {cs : List Char} {p : Nat} {rs : List (Except LexError Token)}
    {eof : Token} (laid : Layout cs p rs eof) : ∀ t : Token, .ok t ∈ rs → t.kind ≠ .eof := by
  induction laid with
  | last => simp
  | @piece p q e r rs eof _ _ _ _ reads _ _ ih =>
    intro t listed
    rcases List.mem_cons.1 listed with rfl | later
    · exact reads.kind_ne_eof
    · exact ih t later

namespace Feed

/-- A feed answers its pending results, then the end of input at its last location, again and again. -/
theorem pulls_mk (xs : List (Except LexError Token)) (last : Location) (n : Nat) :
    Feed.pulls ⟨xs, last⟩ n = xs.take n ++ List.replicate (n - xs.length) (.ok (Token.eofAt last)) := by
  induction n generalizing xs with
  | zero => simp [Feed.pulls]
  | succ n ih =>
    cases xs with
    | nil =>
      show .ok (Token.eofAt last) :: Feed.pulls ⟨[], last⟩ n = _
      simp [ih, List.replicate_succ]
    | cons x xs =>
      show x :: Feed.pulls ⟨xs, last⟩ n = _
      simp [ih]

/--
Every sequence of pulls from the feed of a text answers the results of a layout of the text,
then its end-of-input token again and again: each result is located at the line and column of
the index it starts at, starts after the previous one ends with only blanks and comments
between, and reads the characters up to its end; the end of input is after a last gap.
-/
theorem ofSource_layout (src : String) :
    ∃ results eof, Layout src.toList 0 results eof ∧
      ∀ n, (Feed.ofSource src).pulls n =
        results.take n ++ List.replicate (n - results.length) (.ok eof) := by
  have laid := Scanner.run_layout src.toList (Scanner.ofString src) 0 (Nat.zero_le _) rfl
    (by simp [Scanner.ofString, Location.ofIndex, Location.start])
  refine ⟨_, _, laid, fun n => ?_⟩
  rw [Feed.ofSource, pulls_mk, laid.eof_eq]
  rfl

end Feed

end ImpFront
