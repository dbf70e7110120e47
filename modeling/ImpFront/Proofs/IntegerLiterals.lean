import Mathlib
import ImpFront.Proofs.Prefix.Cut

/-!
# Integer literals are read exactly, up to the largest 64-bit integer

An integer literal is a non-empty run of decimal digits, leading zeros allowed. Its value is the
number the digits stand for (`Numeral.decimalValue`, through `Nat.ofDigits`), however many digits
there are. The reader takes the literal as a primary expression, reads its lexeme, and types it by
what `int` names where it stands. Main statement: `Parse.primary_intLiteral_exact`: a literal
whose value is at most `2^63 - 1` becomes the literal of exactly that value, and a larger one is
refused with an invalid literal at the token, carrying its lexeme.
-/

namespace ImpFront

namespace Numeral

/-- The number that decimal digits stand for, the most significant digit first. -/
def decimalValue (ds : List Char) : Nat :=
  Nat.ofDigits 10 (ds.reverse.map fun d => d.toNat - '0'.toNat)

/-- Reading digits left to right, ten times what was read plus the next digit, gives their value. -/
theorem digitsValue_eq_decimalValue (ds : List Char) : digitsValue ds = decimalValue ds := by
  induction ds using List.reverseRecOn with
  | nil => rfl
  | append_singleton ds d ih =>
    rw [digitsValue, List.foldl_append, ← digitsValue, ih]
    simp [decimalValue, Nat.ofDigits_cons]
    ring

/-- One or more digits with no sign before them read as their decimal value. -/
theorem readSigned?_digits {ds : List Char} (nonempty : ds ≠ [])
    (digits : ∀ d ∈ ds, d.isDigit) : readSigned? ds = some (decimalValue ds : Int) := by
  obtain ⟨d, rest, rfl⟩ := List.exists_cons_of_ne_nil nonempty
  have isDigit := digits d List.mem_cons_self
  have unsigned : splitSign (d :: rest) = (false, d :: rest) := by
    unfold splitSign
    split
    · rename_i sign
      rw [(List.cons.inj sign).1] at isDigit
      exact absurd isDigit (by decide)
    · rename_i sign
      rw [(List.cons.inj sign).1] at isDigit
      exact absurd isDigit (by decide)
    · rfl
  have restDigits : ∀ x ∈ rest, x.isDigit := fun x listed => digits x (List.mem_cons_of_mem d listed)
  simp [readSigned?, unsigned, isDigit, digitsValue_eq_decimalValue]
  exact restDigits

/-- Digits read as an integer literal exactly when their value fits in 64 bits. -/
theorem readInt?_digits {ds : List Char} (nonempty : ds ≠ []) (digits : ∀ d ∈ ds, d.isDigit) :
    readInt? (String.ofList ds) =
      if decimalValue ds ≤ 9223372036854775807 then some (decimalValue ds : Int) else none := by
  rw [readInt?, String.toList_ofList, readSigned?_digits nonempty digits]
  dsimp only
  by_cases fits : decimalValue ds ≤ 9223372036854775807
  · rw [if_pos fits, if_pos (by omega)]
  · rw [if_neg fits, if_neg (by omega)]

/- The largest 64-bit integer is read, with leading zeros; one more is not. -/
example : readInt? "009223372036854775807" = some 9223372036854775807 ∧
    readInt? "9223372036854775808" = none := by
  decide

end Numeral

namespace Parse

variable {ctx : Context} {c c1 : Cursor}

/--
An integer literal whose token is taken is read as a number: one that does not read is an invalid
literal at the token, and one that reads is a literal typed by what `int` names at the token.
-/
theorem primary_intLit (isInt : c.look.kind = .intLit) (taken : c.Takes c.look c1) :
    primary ctx c = (Numeral.readInt? c.look.lexeme).elim
      (.error (c1.fail (.invalidLiteral c.look.lexeme c.look.loc)))
      fun v => (c1.lift (ctx.lookupType "int" c.look.loc)).map
        fun ty => ⟨.lit (.int v) ty c.look.loc, c1, taken.left_lt⟩ := by
  rw [primary]
  split
  case h_1 =>
    simp only [bind, Except.bind, Cursor.advance_eq_of_takes taken]
    cases Numeral.readInt? c.look.lexeme with
    | none => rfl
    | some v => cases ctx.lookupType "int" c.look.loc <;> rfl
  all_goals
    rename_i other
    first
      | (rw [isInt] at other; cases other)
      | exact absurd isInt ‹_›

/--
Integer literals are exact up to the largest 64-bit integer. A literal of decimal digits, any
number of them and leading zeros allowed, whose next token is pulled without error, is read as
the literal of exactly the value of its digits when that value is at most `2^63 - 1`, typed by
what `int` names there (and the reading fails as that lookup does); a larger value is refused
with an invalid literal carrying the lexeme and the token's location.
-/
theorem primary_intLiteral_exact {ds : List Char} {t : Token} {f : Feed}
    (isInt : c.look.kind = .intLit) (spelled : c.look.lexeme = String.ofList ds) (nonempty : ds ≠ [])
    (digits : ∀ d ∈ ds, d.isDigit) (pulled : c.feed.pull = (.ok t, f)) :
    (Numeral.decimalValue ds ≤ 9223372036854775807 → ∀ ty,
      ctx.lookupType "int" c.look.loc = .ok ty → ∃ r, primary ctx c = .ok r ∧
        r.value = .lit (.int (Numeral.decimalValue ds)) ty c.look.loc ∧ r.cursor = ⟨t, f, c.pulled + 1⟩) ∧
    (Numeral.decimalValue ds ≤ 9223372036854775807 → ∀ e,
      ctx.lookupType "int" c.look.loc = .error e → primary ctx c = .error ⟨e, c.pulled + 1⟩) ∧
    (9223372036854775807 < Numeral.decimalValue ds →
      primary ctx c = .error ⟨.invalidLiteral c.look.lexeme c.look.loc, c.pulled + 1⟩) := by
  have taken : c.Takes c.look ⟨t, f, c.pulled + 1⟩ := ⟨rfl, by simp [isInt], pulled, rfl⟩
  have read : primary ctx c = _ := primary_intLit isInt taken
  rw [spelled, Numeral.readInt?_digits nonempty digits] at read
  refine ⟨fun fits ty typed => ?_, fun fits e failed => ?_, fun tooLarge => ?_⟩
  · rw [if_pos fits] at read
    rw [read, ← spelled]
    simp only [Option.elim, typed, Cursor.lift_ok]
    exact ⟨_, rfl, rfl, rfl⟩
  · rw [if_pos fits, ← spelled] at read
    rw [read]
    simp only [Option.elim, failed, Cursor.lift_error]
    rfl
  · rw [if_neg (Nat.not_le_of_lt tooLarge), ← spelled] at read
    exact read

/-- The first integer past the 64-bit range, written with leading zeros, is refused. -/
theorem primary_intLiteral_exact_boundary :
    (⟨.intLit, "009223372036854775808", ⟨1, 9⟩⟩ : Token).kind = .intLit ∧
      (⟨.intLit, "009223372036854775808", ⟨1, 9⟩⟩ : Token).lexeme =
        String.ofList "009223372036854775808".toList ∧
      "009223372036854775808".toList ≠ [] ∧ (∀ d ∈ "009223372036854775808".toList, d.isDigit) ∧
      Feed.pull ⟨[], ⟨1, 30⟩⟩ = (.ok (Token.eofAt ⟨1, 30⟩), ⟨[], ⟨1, 30⟩⟩) ∧
      9223372036854775807 < Numeral.decimalValue "009223372036854775808".toList ∧
      primary Context.initial ⟨⟨.intLit, "009223372036854775808", ⟨1, 9⟩⟩, ⟨[], ⟨1, 30⟩⟩, 4⟩ =
        .error ⟨.invalidLiteral "009223372036854775808" ⟨1, 9⟩, 5⟩ :=
  ⟨rfl, String.ofList_toList.symm, by simp, by simp, rfl, by decide +kernel,
    (@primary_intLiteral_exact Context.initial
      ⟨⟨.intLit, "009223372036854775808", ⟨1, 9⟩⟩, ⟨[], ⟨1, 30⟩⟩, 4⟩ _ _ _
      rfl String.ofList_toList.symm (by simp) (by simp) rfl).2.2 (by decide +kernel)⟩

end Parse

end ImpFront
