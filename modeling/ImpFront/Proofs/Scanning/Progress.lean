import ImpFront.Proofs.Scanning.Layout
import ImpFront.Proofs.Scanning.Printing

/-!
# Every call of the scanner moves on, and the end of input stays

The reader pulls its tokens from the scanner one call at a time (`Scanner.step`). What one call
does to the input is `Scanner.MovesOn`: a call that answers a token other than the end of input,
or an error, reads at least one character; an invalid character is read alone, after the
blanks and comments before it, so the next call starts right after it; an unterminated string
literal reads the rest of the input, so the next call answers the end of input; and a call that
answers the end of input, `$` at its location, leaves the scanner as it was, so every later call
answers the same.

Hence a sequence of calls (`Scanner.calls`) answers the results of `Scanner.run`, none of them
the end of input and at most one for each character, and then the end of input for ever; every
sequence of more calls than there are characters ends with the end of input, and `tokenize` is
the loop of calls up to the first end of input. Main statement: `Scanner.calls_reach_end`.
-/

namespace ImpFront

namespace Scan

variable {c : Char} {r : List Char} {loc : Location}

/-- No piece of the text is scanned as the end of input. -/
theorem first_ne_eof {t : Token} (scanned : (first c r loc).result = .ok t) : t.kind ≠ .eof := by
  have reads := (first_reads c r loc).1
  rw [scanned] at reads
  exact reads.kind_ne_eof

/-- An invalid character is scanned alone, at the location of the scan. -/
theorem first_of_invalid {text : String} {l : Location}
    (scanned : (first c r loc).result = .error (.invalidCharacter text l)) :
    (first c r loc).raw = [c] ∧ (first c r loc).rest = r ∧ l = loc := by
  obtain ⟨reads, located⟩ := first_reads c r loc
  obtain ⟨raw', rawStart, split⟩ := first_raw_append_rest c r loc
  rw [scanned] at reads located
  generalize (first c r loc).raw = raw at reads rawStart split ⊢
  cases reads with
  | invalid =>
    simp only [List.cons.injEq] at rawStart
    obtain ⟨rfl, rfl⟩ := rawStart
    simp only [List.cons_append, List.nil_append, List.cons.injEq, true_and] at split
    exact ⟨rfl, split, located⟩

/-- A string literal that the input ends inside of takes the rest of the input. -/
theorem first_of_unterminated {l : Location}
    (scanned : (first c r loc).result = .error (.unterminatedString l)) :
    (first c r loc).rest = [] := by
  unfold first at scanned ⊢
  split_ifs at scanned ⊢
  · unfold string at scanned ⊢
    rcases read : readString r with _ | ⟨body, raw, rest⟩
    · rfl
    · simp [read] at scanned
  · unfold number at scanned
    split at scanned <;> simp [token] at scanned
  · simp [word, token] at scanned
  · split at scanned <;> simp [token] at scanned

end Scan

namespace Scanner

/-- The results of `n` calls of the scanner in a row. -/
def calls (s : Scanner) : Nat → List (Except LexError Token)
  | 0 => []
  | n + 1 => s.step.1 :: s.step.2.calls n

/-- The scanner after `n` calls. -/
def afterCalls (s : Scanner) : Nat → Scanner
  | 0 => s
  | n + 1 => s.step.2.afterCalls n

/--
A call skips blanks and comments; then it answers the end of input where nothing is left, and
otherwise scans one piece from the character it stopped at and goes on after that piece.
-/
theorem step_cases (s : Scanner) :
    (∃ loc, skip false s.rest s.loc = ⟨[], loc⟩ ∧ s.step = (.ok (Token.eofAt loc), ⟨[], loc⟩)) ∨
      ∃ c r loc, skip false s.rest s.loc = ⟨c :: r, loc⟩ ∧
        s.step = ((Scan.first c r loc).result,
          ⟨(Scan.first c r loc).rest, loc.after (Scan.first c r loc).raw⟩) := by
  rcases skipped : skip false s.rest s.loc with ⟨_ | ⟨c, r⟩, loc⟩
  · refine .inl ⟨loc, rfl, ?_⟩
    unfold step
    rw [skipped]
  · refine .inr ⟨c, r, loc, rfl, ?_⟩
    unfold step
    rw [skipped]

/-- At the end of the input a call answers the end of input and leaves the scanner as it was. -/
theorem step_nil (loc : Location) : step ⟨[], loc⟩ = (.ok (Token.eofAt loc), ⟨[], loc⟩) := rfl

/--
What one call does to what is left of the input. A token other than the end of input, or an
error, takes at least one character. An invalid character takes the character at its location,
after the blanks and comments before it, and nothing more. An unterminated string literal takes
the rest of the input, so the next call answers the end of input. The end of input is `$` at its
location, and the call after it answers the same and leaves the scanner as it was.
-/
structure MovesOn (s : Scanner) : Prop where
  consumes : (∀ t, s.step.1 = .ok t → t.kind ≠ .eof) →
    ∃ taken, taken ≠ [] ∧ s.rest = taken ++ s.step.2.rest
  invalid : ∀ text l, s.step.1 = .error (.invalidCharacter text l) →
    ∃ c, skip false s.rest s.loc = ⟨c :: s.step.2.rest, l⟩ ∧ s.step.2.loc = l.next c
  unterminated : ∀ l, s.step.1 = .error (.unterminatedString l) →
    s.step.2.rest = [] ∧ s.step.2.step.1 = .ok (Token.eofAt s.step.2.loc)
  eof : ∀ t, s.step.1 = .ok t → t.kind = .eof → t = Token.eofAt t.loc ∧ s.step.2.step = s.step

/-- Every call of the scanner moves on: one case for the end of the input, one for a piece. -/
theorem movesOn (s : Scanner) : s.MovesOn := by
  rcases step_cases s with ⟨loc, skipped, stepped⟩ | ⟨c, r, loc, skipped, stepped⟩
  · refine ⟨?_, ?_, ?_, ?_⟩ <;> rw [stepped]
    · exact fun notEof => absurd rfl (notEof _ rfl)
    · intro text l answered
      cases answered
    · intro l answered
      cases answered
    · intro t answered _
      cases answered
      exact ⟨rfl, rfl⟩
  · obtain ⟨gap, split, -, -⟩ := skip_gap false s.rest s.loc
    rw [skipped] at split
    refine ⟨?_, ?_, ?_, ?_⟩ <;> rw [stepped]
    · intro _
      obtain ⟨raw', rawStart, pieces⟩ := Scan.first_raw_append_rest c r loc
      refine ⟨gap ++ (Scan.first c r loc).raw, by simp [rawStart], ?_⟩
      rw [split, List.append_assoc, pieces]
    · intro text l answered
      obtain ⟨rawEq, restEq, rfl⟩ := Scan.first_of_invalid answered
      refine ⟨c, ?_, ?_⟩
      · rw [skipped, restEq]
      · show l.after (Scan.first c r l).raw = l.next c
        rw [rawEq]
        rfl
    · intro l answered
      have ended := Scan.first_of_unterminated answered
      refine ⟨ended, ?_⟩
      show (step ⟨(Scan.first c r loc).rest, _⟩).1 = _
      rw [ended]
      rfl
    · intro t answered isEof
      exact absurd isEof (Scan.first_ne_eof answered)

/-- After the end of input every call answers it again. -/
theorem calls_of_eof {s : Scanner} {t : Token} (answered : s.step.1 = .ok t) (isEof : t.kind = .eof)
    (n : Nat) : s.step.2.calls n = List.replicate n (.ok t) := by
  induction n with
  | zero => rfl
  | succ n ih =>
    have stays := ((movesOn s).eof t answered isEof).2
    show s.step.2.step.1 :: s.step.2.step.2.calls n = _
    rw [stays, ih, answered, List.replicate_succ]

/-- The run's results are never the end of input, and it ends with the end of input. -/
theorem run_ends (s : Scanner) :
    (∀ t, .ok t ∈ s.run.1 → t.kind ≠ .eof) ∧ s.run.2 = Token.eofAt s.run.2.loc := by
  fun_induction Scanner.run s with
  | case1 s loc _ => exact ⟨by simp, rfl⟩
  | case2 s c r loc _ piece tail ih =>
    refine ⟨fun t listed => ?_, ih.2⟩
    rcases List.mem_cons.1 listed with first | later
    · exact Scan.first_ne_eof first.symm
    · exact ih.1 t later

/-- A run answers at most one result for each character left. -/
theorem run_length_le (s : Scanner) : s.run.1.length ≤ s.rest.length := by
  fun_induction Scanner.run s with
  | case1 => exact Nat.zero_le _
  | case2 s c r loc skipped piece tail ih =>
    -- the piece and the blanks before it take at least one character
    have skippedShorter := skip_rest_length_le false s.rest s.loc
    rw [skipped] at skippedShorter
    have pieceShorter : piece.rest.length < r.length + 1 := Scan.first_rest_length_lt c r loc
    have tailBounded : tail.1.length ≤ piece.rest.length := ih
    show tail.1.length + 1 ≤ s.rest.length
    simp only [List.length_cons] at skippedShorter
    omega

/--
Calls answer what the run answers, in order, and then its end of input again and again, by
induction on the number of calls with one case for each kind of call.
-/
theorem calls_eq_run (s : Scanner) (n : Nat) :
    s.calls n = s.run.1.take n ++ List.replicate (n - s.run.1.length) (.ok s.run.2) := by
  induction n generalizing s with
  | zero => simp [calls]
  | succ n ih =>
    rcases step_cases s with ⟨loc, skipped, stepped⟩ | ⟨c, r, loc, skipped, stepped⟩
    · have atEnd : calls ⟨[], loc⟩ n = List.replicate n (.ok (Token.eofAt loc)) :=
        calls_of_eof (s := ⟨[], loc⟩) rfl rfl n
      rw [calls, stepped, run_of_skip_nil skipped]
      simp [atEnd, List.replicate_succ]
    · rw [calls, stepped, run_of_skip_cons skipped, ih]
      simp

/- An invalid character is answered alone; the scanner goes on after it, then stays at the end. -/
example : (ofString "@x").calls 4 = [.error (.invalidCharacter "@x" ⟨1, 1⟩),
    .ok ⟨.ident, "x", ⟨1, 2⟩⟩, .ok (Token.eofAt ⟨1, 3⟩), .ok (Token.eofAt ⟨1, 3⟩)] := by
  decide

end Scanner

/-- The feed of a text answers, pull by pull, what the scanner answers call by call. -/
theorem Feed.ofSource_pulls (src : String) (n : Nat) :
    (Feed.ofSource src).pulls n = (Scanner.ofString src).calls n := by
  rw [Scanner.calls_eq_run, Feed.ofSource, Feed.pulls_mk, ← (Scanner.run_ends _).2]

namespace Scanner

/--
The scanner always moves on, and its end of input stays. Every call of every sequence of calls
on a text takes at least one character when it answers a token other than the end of input or
an error, an invalid character alone and an unterminated string literal the rest of the text,
and after the end of input answers it again, `$` at the same location. So the calls answer at
most one result for each character of the text, none of them the end of input, then the end of
input for ever: every sequence of more calls than the text has characters ends with it,
`tokenize` is the loop of calls up to the first end of input, and the feed the reader pulls
from answers what the calls answer.
-/
theorem calls_reach_end (src : String) :
    (∀ k, ((ofString src).afterCalls k).MovesOn) ∧
      (∀ t, .ok t ∈ (ofString src).run.1 → t.kind ≠ .eof) ∧
      (ofString src).run.1.length ≤ src.length ∧
      (∀ k, (ofString src).calls k = (ofString src).run.1.take k ++
        List.replicate (k - (ofString src).run.1.length) (.ok (Token.eofAt (ofString src).run.2.loc))) ∧
      (∀ k, src.length < k →
        ((ofString src).calls k).getLast? = some (.ok (Token.eofAt (ofString src).run.2.loc))) ∧
      tokenize src = ((ofString src).calls ((ofString src).run.1.length + 1)).mapM id ∧
      ∀ k, (Feed.ofSource src).pulls k = (ofString src).calls k := by
  have ended := run_ends (ofString src)
  have bounded : (ofString src).run.1.length ≤ src.length := by
    simpa [ofString, String.length_toList] using run_length_le (ofString src)
  have answered := calls_eq_run (ofString src)
  rw [ended.2] at answered
  refine ⟨fun k => movesOn _, ended.1, bounded, answered, fun k longer => ?_, ?_,
    Feed.ofSource_pulls src⟩
  · have more : k - (ofString src).run.1.length = k - (ofString src).run.1.length - 1 + 1 := by
      omega
    rw [answered, more, List.replicate_succ', ← List.append_assoc, List.getLast?_concat]
  · rw [answered, List.take_of_length_le (by omega), Nat.add_sub_cancel_left, tokenize]
    simp only [List.mapM_append, ← ended.2]
    cases (ofString src).run.1.mapM id <;> rfl

end Scanner

end ImpFront
