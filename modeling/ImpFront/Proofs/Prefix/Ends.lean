import ImpFront.Proofs.Prefix.Cut

/-!
# Reading stops at the first end of its source

The reader asks its feed for one result at a time, and it asks for none past the first
end-of-input token or scanning error: no rule advances over the end, and every rule that loops or
re-enters itself at the same level has consumed a token first. That is the measure each rule
terminates by: `14 * left + rank` for the expression rules, `3 * left + rank` for the statement
rules and `left` for the declaration and parameter loops.

This module follows a reading of a feed `f` and a reading of a feed `g` that gives the same
results up to that end (`Agree`), and shows rule by rule that the two runs end alike (`Alike`): with
the same failure, or with the same value and cursors at the same point of their feeds. A reading
of a whole program is then the same on both (`Program.read_eq_of_agree`). For a source that may go
on for ever, `Program.read_stopsAtEnd` says that every prefix running past its first end is read the
same way, and no reading pulls past that end.
-/

namespace ImpFront

/-- A result that ends a source: a scanning error or the end-of-input token. -/
def EndsInput : Except LexError Token → Prop
  | .error _ => True
  | .ok t => t.kind = .eof

instance : DecidablePred EndsInput
  | .error _ => inferInstanceAs (Decidable True)
  | .ok t => inferInstanceAs (Decidable (t.kind = .eof))

/-- The cursor `c` of one feed moved to the same point of the feed `g`. -/
def Cursor.retarget (c : Cursor) (g : Feed) : Cursor := ⟨c.look, g.skip c.pulled, c.pulled⟩

/--
Two runs end alike: with the same failure, or both with results related by `R`.
-/
def Alike {β β' : Type} (R : β → β' → Prop) (run : Except Failure β) (run' : Except Failure β') :
    Prop :=
  (∀ e, run = .error e → run' = .error e) ∧ ∀ b, run = .ok b → ∃ b', run' = .ok b' ∧ R b b'

namespace Alike

variable {β β' γ γ' : Type} {R : β → β' → Prop} {S : γ → γ' → Prop}

theorem pure {b : β} {b' : β'} (related : R b b') :
    Alike R (Pure.pure b : Except Failure β) (Pure.pure b') := by
  refine ⟨fun e failed => ?_, fun b₀ succeeded => ?_⟩
  · cases failed
  · cases succeeded
    exact ⟨b', rfl, related⟩

theorem throw {e e' : Failure} (same : e' = e) :
    Alike R (MonadExcept.throw e : Except Failure β) (MonadExcept.throw e' : Except Failure β') := by
  refine ⟨fun e₀ failed => ?_, fun b₀ succeeded => ?_⟩
  · cases failed
    rw [same]
    rfl
  · cases succeeded

theorem bind {x : Except Failure β} {x' : Except Failure β'} {k : β → Except Failure γ}
    {k' : β' → Except Failure γ'} (first : Alike R x x') (next : ∀ b b', R b b' → Alike S (k b) (k' b')) :
    Alike S (x >>= k) (x' >>= k') := by
  cases x with
  | error e =>
      rw [first.1 e rfl]
      refine ⟨fun e₀ failed => ?_, fun c₀ succeeded => ?_⟩
      · cases failed
        rfl
      · cases succeeded
  | ok b =>
      obtain ⟨b', run', related⟩ := first.2 b rfl
      rw [run']
      exact next b b' related

theorem dite {p : Prop} [Decidable p] {a : p → Except Failure β} {a' : p → Except Failure β'}
    {b : ¬p → Except Failure β} {b' : ¬p → Except Failure β'} (yes : ∀ h, Alike R (a h) (a' h))
    (no : ∀ h, Alike R (b h) (b' h)) : Alike R (if h : p then a h else b h) (if h : p then a' h else b' h) := by
  by_cases h : p
  · rw [dif_pos h, dif_pos h]
    exact yes h
  · rw [dif_neg h, dif_neg h]
    exact no h

theorem ite {p : Prop} [Decidable p] {a b : Except Failure β} {a' b' : Except Failure β'}
    (yes : p → Alike R a a') (no : ¬p → Alike R b b') :
    Alike R (if p then a else b) (if p then a' else b') := by
  by_cases h : p
  · rw [if_pos h, if_pos h]
    exact yes h
  · rw [if_neg h, if_neg h]
    exact no h

end Alike

/-- Two feeds that give the same first `n + 1` results, the last of which ends the input. -/
structure Agree (f g : Feed) (n : Nat) : Prop where
  pulls_eq : f.pulls (n + 1) = g.pulls (n + 1)
  ends : EndsInput ((f.skip n).pull.1)

/-- No reading of `f` gets past a result that ends it: its pulls are tokens that are not the end
of input, then one more, and so they reach no further than that result. -/
theorem Feed.pulled_le_of_ends {f : Feed} {n : Nat} (ends : EndsInput ((f.skip n).pull.1))
    {k : Nat} {u : List Token} {x : Except LexError Token} (pulls : f.pulls k = u.map .ok ++ [x])
    (noEof : ∀ t ∈ u, t.kind ≠ .eof) : k ≤ n + 1 := by
  by_contra past
  have count := Feed.count_of_pulls pulls
  have within : f.pulls (n + 1) <+: u.map .ok ++ [x] := pulls ▸ f.pulls_prefix (by omega)
  have before : f.pulls (n + 1) <+: u.map .ok :=
    List.prefix_of_prefix_length_le within (List.prefix_append _ _) (by simp [Feed.length_pulls]; omega)
  have member : (f.skip n).pull.1 ∈ u.map .ok := before.subset (by rw [Feed.pulls_succ]; simp)
  obtain ⟨t, inU, isT⟩ := List.mem_map.1 member
  rw [← isT] at ends
  exact noEof t inU ends

namespace Agree

variable {f g : Feed} {n : Nat} {c : Cursor}

/-- A cursor of a reading of `f` whose lookahead is a token stands before the end. -/
theorem pulled_le (agree : Agree f g n) (on : c.On f) (notEof : c.look.kind ≠ .eof) :
    c.pulled ≤ n := by
  obtain ⟨-, u, pulls, noEof⟩ := on
  have pullsAfter : f.pulls (c.pulled + 1) = (u ++ [c.look]).map .ok ++ [(f.skip c.pulled).pull.1] := by
    rw [Feed.pulls_succ, pulls]
    simp
  have noEofAfter : ∀ t ∈ u ++ [c.look], t.kind ≠ .eof := by
    intro t member
    rcases List.mem_append.1 member with inU | isLook
    · exact noEof t inU
    · rw [List.mem_singleton.1 isLook]
      exact notEof
  have bound := Feed.pulled_le_of_ends agree.ends pullsAfter noEofAfter
  omega

/-- Up to the end the two feeds give the same result at every pull. -/
theorem pull_eq (agree : Agree f g n) {m : Nat} (before : m ≤ n) :
    (g.skip m).pull.1 = (f.skip m).pull.1 := by
  have prefixF := Feed.pulls_prefix f (Nat.succ_le_succ before)
  have prefixG := Feed.pulls_prefix g (Nat.succ_le_succ before)
  rw [← agree.pulls_eq] at prefixG
  have same : g.pulls (m + 1) = f.pulls (m + 1) :=
    (List.prefix_of_prefix_length_le prefixG prefixF (by simp [Feed.length_pulls])).eq_of_length
      (by simp [Feed.length_pulls])
  rw [Feed.pulls_succ, Feed.pulls_succ] at same
  exact List.singleton_inj.1 (List.append_inj' same (by simp)).2

end Agree

/-- Results of two readings alike: the first at a point of a reading of `f`, the second with the same value at the same point of `g`. -/
def Read.Matches (f g : Feed) {c : Cursor} {α : Type} (r : Read c α) (r' : Read (c.retarget g) α) :
    Prop :=
  r.cursor.On f ∧ r.value = r'.value ∧ r.cursor.retarget g = r'.cursor

namespace Cursor

variable {f g : Feed} {n : Nat} {c : Cursor}

/-- A step of a reading of `f` before the end is a step of `g` too. -/
theorem advance_alike (agree : Agree f g n) (on : c.On f) (notEof : c.look.kind ≠ .eof)
    (notEof' : (c.retarget g).look.kind ≠ .eof) :
    Alike (Read.Matches f g) (c.advance notEof) ((c.retarget g).advance notEof') := by
  have before := agree.pulled_le on notEof
  have sameNext : (c.retarget g).feed.pull = (c.feed.pull.1, g.skip (c.pulled + 1)) := by
    show (g.skip c.pulled).pull = _
    rw [Feed.skip_succ, on.1, ← agree.pull_eq before]
  refine ⟨fun e failed => ?_, fun r succeeded => ?_⟩
  · obtain ⟨err, pulledError, rfl⟩ := advance_eq_error failed
    rw [pulledError] at sameNext
    unfold advance
    split
    · rename_i t rest pulled
      rw [sameNext] at pulled
      cases pulled
    · rename_i err' rest pulled
      rw [sameNext] at pulled
      cases pulled
      rfl
  · have taken := takes_of_advance succeeded
    have taken' : (c.retarget g).Takes r.value (r.cursor.retarget g) := by
      refine ⟨taken.1, notEof', ?_, by simp [retarget, taken.2.2.2]⟩
      rw [sameNext, taken.2.2.1]
      simp [retarget, taken.2.2.2]
    exact ⟨_, advance_eq_of_takes taken' notEof', taken.on on, rfl, rfl⟩

/-- Expecting a kind before the end is the same on both feeds. -/
theorem expect_alike (agree : Agree f g n) (on : c.On f) (kinds : List TokenKind) :
    Alike (Read.Matches f g) (c.expect kinds) ((c.retarget g).expect kinds) := by
  unfold expect
  dsimp only [retarget]
  refine Alike.dite (fun expected => ?_) (fun _ => Alike.throw rfl)
  exact advance_alike agree on _ _

/-- A check made at the same point of both readings, and what follows it. -/
theorem lift_bind_alike {α γ γ' : Type} {S : γ → γ' → Prop} {c' : Cursor}
    (samePulled : c'.pulled = c.pulled) {x : Except ParseError α} {k : α → Except Failure γ}
    {k' : α → Except Failure γ'} (next : ∀ a, x = .ok a → Alike S (k a) (k' a)) :
    Alike S (c.lift x >>= k) (c'.lift x >>= k') := by
  cases x with
  | error e =>
      refine Alike.throw ?_
      show (⟨e, c'.pulled⟩ : Failure) = ⟨e, c.pulled⟩
      rw [samePulled]
  | ok a => exact next a rfl

end Cursor

namespace Parse

variable {f g : Feed} {n : Nat} {ctx : Context}

/--
A primary expression is read alike from both feeds, given that the calls and the parenthesized
expressions it reads further on are.
-/
theorem primary_alike (agree : Agree f g n) {c : Cursor} (on : c.On f)
    (callAlike : c.look.kind = .ident → ∀ name c1, c1.left < c.left → c1.On f →
      Alike (Read.Matches f g) (call name ctx c1) (call name ctx (c1.retarget g)))
    (exprAlike : c.look.kind = .lParen → ∀ c1, c1.left < c.left → c1.On f →
      Alike (Read.Matches f g) (expression ctx c1) (expression ctx (c1.retarget g))) :
    Alike (Read.Matches f g) (primary ctx c) (primary ctx (c.retarget g)) := by
  rw [primary, primary]
  dsimp only [Cursor.retarget]
  split
  case h_1 | h_2 =>
    refine Alike.bind (c.advance_alike agree on _ _) ?_
    rintro ⟨tok, c1, h1⟩ ⟨tok', c1', h1'⟩ ⟨on1, rfl, rfl⟩
    dsimp only [Cursor.retarget]
    split
    · exact Alike.throw rfl
    · exact c1.lift_bind_alike rfl fun _ _ => Alike.pure ⟨on1, rfl, rfl⟩
  case h_3 | h_4 =>
    refine Alike.bind (c.advance_alike agree on _ _) ?_
    rintro ⟨tok, c1, h1⟩ ⟨tok', c1', h1'⟩ ⟨on1, rfl, rfl⟩
    exact c1.lift_bind_alike rfl fun _ _ => Alike.pure ⟨on1, rfl, rfl⟩
  case h_5 isIdent =>
    refine Alike.bind (c.advance_alike agree on _ _) ?_
    rintro ⟨name, c1, h1⟩ ⟨name', c1', h1'⟩ ⟨on1, rfl, rfl⟩
    dsimp only [Cursor.retarget]
    refine Alike.ite (fun _ => ?_) (fun _ => ?_)
    · refine Alike.bind (callAlike isIdent name c1 h1 on1) ?_
      rintro ⟨e, c2, h2⟩ ⟨e', c2', h2'⟩ ⟨on2, rfl, rfl⟩
      exact Alike.pure ⟨on2, rfl, rfl⟩
    · refine c1.lift_bind_alike rfl fun id _ => ?_
      split
      · exact Alike.pure ⟨on1, rfl, rfl⟩
      · exact Alike.throw rfl
  case h_6 isParen =>
    refine Alike.bind (c.advance_alike agree on _ _) ?_
    rintro ⟨_, c1, h1⟩ ⟨_, c1', h1'⟩ ⟨on1, rfl, rfl⟩
    refine Alike.bind (exprAlike isParen c1 h1 on1) ?_
    rintro ⟨e, c2, h2⟩ ⟨e', c2', h2'⟩ ⟨on2, rfl, rfl⟩
    refine Alike.bind (c2.expect_alike agree on2 _) ?_
    rintro ⟨_, c3, h3⟩ ⟨_, c3', h3'⟩ ⟨on3, rfl, rfl⟩
    exact Alike.pure ⟨on3, rfl, rfl⟩
  case h_7 =>
    exact Alike.throw rfl

/-- Every expression rule reads alike from both feeds, by the reader's own mutual recursion. -/
theorem expression_alike_all (agree : Agree f g n) :
    (∀ c, c.On f → Alike (Read.Matches f g) (expression ctx c) (expression ctx (c.retarget g))) ∧
    (∀ k c, c.On f → Alike (Read.Matches f g) (tier k ctx c) (tier k ctx (c.retarget g))) ∧
    (∀ k lhs c, c.On f → Alike (fun a a' => a.2.1.On f ∧ a.1 = a'.1 ∧ a.2.1.retarget g = a'.2.1)
      (tierRest k lhs ctx c) (tierRest k lhs ctx (c.retarget g))) ∧
    (∀ c, c.On f → Alike (Read.Matches f g) (primary ctx c) (primary ctx (c.retarget g))) ∧
    (∀ name c, c.On f → Alike (Read.Matches f g) (call name ctx c) (call name ctx (c.retarget g))) ∧
    (∀ c, c.On f → Alike (Read.Matches f g) (arguments ctx c) (arguments ctx (c.retarget g))) := by
  refine expression.mutual_induct _ _ _ _ _ _ ?assignment ?tierZero ?tierSucc ?restNone
    ?restSome ?intLit ?floatLit ?boolLit ?stringLit ?ident ?paren ?other ?call ?arguments
  case assignment =>
    intro c tierIH exprIH on
    rw [expression, expression]
    refine Alike.bind (tierIH on) ?_
    rintro ⟨lhs, c1, h1⟩ ⟨lhs', c1', h1'⟩ ⟨on1, rfl, rfl⟩
    dsimp only [Cursor.retarget]
    refine Alike.dite (fun _ => ?_) (fun _ => Alike.pure ⟨on1, rfl, rfl⟩)
    refine Alike.bind (c1.advance_alike agree on1 _ _) ?_
    rintro ⟨op, c2, h2⟩ ⟨op', c2', h2'⟩ ⟨on2, rfl, rfl⟩
    dsimp only [Cursor.retarget]
    refine Alike.ite (fun _ => ?_) (fun _ => Alike.throw rfl)
    refine Alike.bind (exprIH c1 h1 c2 h2 on2) ?_
    rintro ⟨rhs, c3, h3⟩ ⟨rhs', c3', h3'⟩ ⟨on3, rfl, rfl⟩
    exact c3.lift_bind_alike rfl fun e _ => Alike.pure ⟨on3, rfl, rfl⟩
  case tierZero =>
    intro c primaryIH on
    rw [tier_zero, tier_zero]
    exact primaryIH on
  case tierSucc =>
    intro c k tierIH restIH on
    rw [tier, tier]
    refine Alike.bind (tierIH on) ?_
    rintro ⟨lhs, c1, h1⟩ ⟨lhs', c1', h1'⟩ ⟨on1, rfl, rfl⟩
    refine Alike.bind (restIH lhs c1 h1 on1) ?_
    rintro ⟨e, c2, h2⟩ ⟨e', c2', h2'⟩ ⟨on2, rfl, rfl⟩
    exact Alike.pure ⟨on2, rfl, rfl⟩
  case restNone =>
    intro k lhs c noOp on
    rw [tierRest, tierRest]
    dsimp only [Cursor.retarget]
    split
    · exact Alike.pure ⟨on, rfl, rfl⟩
    · rename_i someOp
      rw [noOp] at someOp
      cases someOp
  case restSome =>
    intro k lhs c op someOp tierIH restIH on
    rw [tierRest, tierRest]
    dsimp only [Cursor.retarget]
    split
    · rename_i noOp
      rw [noOp] at someOp
      cases someOp
    · refine Alike.bind (c.advance_alike agree on _ _) ?_
      rintro ⟨opTok, c1, h1⟩ ⟨opTok', c1', h1'⟩ ⟨on1, rfl, rfl⟩
      refine Alike.bind (tierIH c1 h1 on1) ?_
      rintro ⟨rhs, c2, h2⟩ ⟨rhs', c2', h2'⟩ ⟨on2, rfl, rfl⟩
      refine c2.lift_bind_alike rfl fun e _ => ?_
      refine Alike.bind (restIH c1 h1 c2 h2 e on2) ?_
      rintro ⟨e', ⟨c3, h3⟩⟩ ⟨e'', ⟨c3', h3'⟩⟩ ⟨on3, rfl, rfl⟩
      exact Alike.pure ⟨on3, rfl, rfl⟩
  case intLit | floatLit | boolLit | stringLit =>
    intro c isLiteral on
    exact primary_alike agree on (by simp [isLiteral]) (by simp [isLiteral])
  case ident =>
    intro c isIdent callIH on
    exact primary_alike agree on (fun _ => callIH) (by simp [isIdent])
  case paren =>
    intro c isParen exprIH on
    exact primary_alike agree on (by simp [isParen]) (fun _ => exprIH)
  case other =>
    intro c notInt notFloat notBool notString notIdent notParen on
    exact primary_alike agree on (fun isIdent => absurd isIdent notIdent)
      (fun isParen => absurd isParen notParen)
  case call =>
    intro name c argsIH on
    rw [call, call]
    refine c.lift_bind_alike rfl fun callee _ => ?_
    split
    · exact Alike.throw rfl
    · rename_i info _
      refine Alike.bind (c.expect_alike agree on _) ?_
      rintro ⟨_, c1, h1⟩ ⟨_, c1', h1'⟩ ⟨on1, rfl, rfl⟩
      dsimp only [Cursor.retarget]
      refine Alike.bind (?args : Alike (Read.Matches f g) _ _) ?_
      case args =>
        refine Alike.dite (fun _ => ?_) (fun _ => argsIH c1 h1 on1)
        refine Alike.bind (c1.advance_alike agree on1 _ _) ?_
        rintro ⟨_, c2, h2⟩ ⟨_, c2', h2'⟩ ⟨on2, rfl, rfl⟩
        exact Alike.pure ⟨on2, rfl, rfl⟩
      rintro ⟨args, c2, h2⟩ ⟨args', c2', h2'⟩ ⟨on2, rfl, rfl⟩
      dsimp only [Cursor.retarget]
      by_cases arity : args.length ≠ info.params.length
      · rw [if_pos arity, if_pos arity]
        exact Alike.throw rfl
      · rw [if_neg arity, if_neg arity]
        exact c2.lift_bind_alike rfl fun _ _ => Alike.pure ⟨on2, rfl, rfl⟩
  case arguments =>
    intro c exprIH argsIH on
    rw [arguments, arguments]
    refine Alike.bind (exprIH on) ?_
    rintro ⟨e, c1, h1⟩ ⟨e', c1', h1'⟩ ⟨on1, rfl, rfl⟩
    refine Alike.bind (c1.expect_alike agree on1 _) ?_
    rintro ⟨sep, c2, h2⟩ ⟨sep', c2', h2'⟩ ⟨on2, rfl, rfl⟩
    refine Alike.ite (fun _ => Alike.pure ⟨on2, rfl, rfl⟩) (fun _ => ?_)
    refine Alike.bind (argsIH c1 h1 c2 h2 on2) ?_
    rintro ⟨rest, c3, h3⟩ ⟨rest', c3', h3'⟩ ⟨on3, rfl, rfl⟩
    exact Alike.pure ⟨on3, rfl, rfl⟩

theorem expression_alike (agree : Agree f g n) {c : Cursor} (on : c.On f) :
    Alike (Read.Matches f g) (expression ctx c) (expression ctx (c.retarget g)) :=
  (expression_alike_all agree).1 c on

theorem varDecl_alike (agree : Agree f g n) {c : Cursor} (on : c.On f) :
    Alike (Read.Matches f g) (varDecl ctx c) (varDecl ctx (c.retarget g)) := by
  rw [varDecl, varDecl]
  refine Alike.bind (c.expect_alike agree on _) ?_
  rintro ⟨kw, c1, h1⟩ ⟨_, c1', h1'⟩ ⟨on1, rfl, rfl⟩
  refine Alike.bind (c1.expect_alike agree on1 _) ?_
  rintro ⟨name, c2, h2⟩ ⟨_, c2', h2'⟩ ⟨on2, rfl, rfl⟩
  refine Alike.bind (c2.expect_alike agree on2 _) ?_
  rintro ⟨_, c3, h3⟩ ⟨_, c3', h3'⟩ ⟨on3, rfl, rfl⟩
  refine Alike.bind (expression_alike agree on3) ?_
  rintro ⟨init, c4, h4⟩ ⟨_, c4', h4'⟩ ⟨on4, rfl, rfl⟩
  refine Alike.bind (c4.expect_alike agree on4 _) ?_
  rintro ⟨_, c5, h5⟩ ⟨_, c5', h5'⟩ ⟨on5, rfl, rfl⟩
  exact c5.lift_bind_alike rfl fun _ _ => Alike.pure ⟨on5, rfl, rfl⟩

theorem exprStatement_alike (agree : Agree f g n) {c : Cursor} (on : c.On f) :
    Alike (Read.Matches f g) (exprStatement ctx c) (exprStatement ctx (c.retarget g)) := by
  rw [exprStatement, exprStatement]
  refine Alike.bind (expression_alike agree on) ?_
  rintro ⟨e, c1, h1⟩ ⟨_, c1', h1'⟩ ⟨on1, rfl, rfl⟩
  refine Alike.bind (c1.expect_alike agree on1 _) ?_
  rintro ⟨_, c2, h2⟩ ⟨_, c2', h2'⟩ ⟨on2, rfl, rfl⟩
  exact Alike.pure ⟨on2, rfl, rfl⟩

theorem condition_alike (agree : Agree f g n) {c : Cursor} (on : c.On f) :
    Alike (Read.Matches f g) (condition ctx c) (condition ctx (c.retarget g)) := by
  rw [condition, condition]
  refine Alike.bind (c.expect_alike agree on _) ?_
  rintro ⟨_, c1, h1⟩ ⟨_, c1', h1'⟩ ⟨on1, rfl, rfl⟩
  refine Alike.bind (expression_alike agree on1) ?_
  rintro ⟨cond, c2, h2⟩ ⟨_, c2', h2'⟩ ⟨on2, rfl, rfl⟩
  refine c2.lift_bind_alike rfl fun _ _ => ?_
  refine Alike.bind (c2.expect_alike agree on2 _) ?_
  rintro ⟨_, c3, h3⟩ ⟨_, c3', h3'⟩ ⟨on3, rfl, rfl⟩
  exact Alike.pure ⟨on3, rfl, rfl⟩

/--
A statement reads alike from both feeds, given that the block it may be and the statements it
reads further on do.
-/
theorem statement_alike (agree : Agree f g n) {c : Cursor} (on : c.On f)
    (blockAlike : ∀ ctx, Alike (Read.Matches f g) (block ctx c) (block ctx (c.retarget g)))
    (stmtAlike : ∀ ctx (c' : Cursor), c'.left < c.left → c'.On f →
      Alike (Read.Matches f g) (statement ctx c') (statement ctx (c'.retarget g))) :
    Alike (Read.Matches f g) (statement ctx c) (statement ctx (c.retarget g)) := by
  rw [statement, statement]
  dsimp only [Cursor.retarget]
  split
  case h_1 =>
    refine Alike.bind (blockAlike ctx) ?_
    rintro ⟨⟨b, ctx1⟩, c1, h1⟩ ⟨_, c1', h1'⟩ ⟨on1, rfl, rfl⟩
    exact Alike.pure ⟨on1, rfl, rfl⟩
  case h_2 =>
    refine Alike.bind (c.advance_alike agree on _ _) ?_
    rintro ⟨kw, c1, h1⟩ ⟨_, c1', h1'⟩ ⟨on1, rfl, rfl⟩
    refine Alike.bind (condition_alike agree on1) ?_
    rintro ⟨cond, c2, h2⟩ ⟨_, c2', h2'⟩ ⟨on2, rfl, rfl⟩
    refine Alike.bind (stmtAlike ctx c2 (Cursor.left_lt_trans h1 h2) on2) ?_
    rintro ⟨⟨thenBranch, ctx3⟩, c3, h3⟩ ⟨_, c3', h3'⟩ ⟨on3, rfl, rfl⟩
    dsimp only [Cursor.retarget]
    refine Alike.dite (fun _ => ?_) (fun _ => Alike.pure ⟨on3, rfl, rfl⟩)
    refine Alike.bind (c3.advance_alike agree on3 _ _) ?_
    rintro ⟨_, c4, h4⟩ ⟨_, c4', h4'⟩ ⟨on4, rfl, rfl⟩
    have shorter : c4.left < c.left :=
      Cursor.left_lt_trans (Cursor.left_lt_trans (Cursor.left_lt_trans h1 h2) h3) h4
    refine Alike.bind (stmtAlike ctx3 c4 shorter on4) ?_
    rintro ⟨⟨elseBranch, ctx5⟩, c5, h5⟩ ⟨_, c5', h5'⟩ ⟨on5, rfl, rfl⟩
    exact Alike.pure ⟨on5, rfl, rfl⟩
  case h_3 =>
    refine Alike.bind (c.advance_alike agree on _ _) ?_
    rintro ⟨kw, c1, h1⟩ ⟨_, c1', h1'⟩ ⟨on1, rfl, rfl⟩
    refine Alike.bind (condition_alike agree on1) ?_
    rintro ⟨cond, c2, h2⟩ ⟨_, c2', h2'⟩ ⟨on2, rfl, rfl⟩
    refine Alike.bind (stmtAlike ctx c2 (Cursor.left_lt_trans h1 h2) on2) ?_
    rintro ⟨⟨body, ctx3⟩, c3, h3⟩ ⟨_, c3', h3'⟩ ⟨on3, rfl, rfl⟩
    exact Alike.pure ⟨on3, rfl, rfl⟩
  case h_4 =>
    refine Alike.bind (c.advance_alike agree on _ _) ?_
    rintro ⟨kw, c1, h1⟩ ⟨_, c1', h1'⟩ ⟨on1, rfl, rfl⟩
    refine Alike.bind (c1.expect_alike agree on1 _) ?_
    rintro ⟨_, c2, h2⟩ ⟨_, c2', h2'⟩ ⟨on2, rfl, rfl⟩
    dsimp only [Cursor.retarget]
    refine Alike.bind (?init : Alike (Read.Matches f g) _ _) ?_
    case init =>
      refine Alike.ite (fun _ => ?_) (fun _ => exprStatement_alike agree on2)
      refine Alike.bind (varDecl_alike agree on2) ?_
      rintro ⟨⟨d, ctx3⟩, c3, h3⟩ ⟨_, c3', h3'⟩ ⟨on3, rfl, rfl⟩
      exact Alike.pure ⟨on3, rfl, rfl⟩
    rintro ⟨⟨init, ctx3⟩, c3, h3⟩ ⟨_, c3', h3'⟩ ⟨on3, rfl, rfl⟩
    refine Alike.bind (expression_alike agree on3) ?_
    rintro ⟨test, c4, h4⟩ ⟨_, c4', h4'⟩ ⟨on4, rfl, rfl⟩
    refine c4.lift_bind_alike rfl fun _ _ => ?_
    refine Alike.bind (c4.expect_alike agree on4 _) ?_
    rintro ⟨_, c5, h5⟩ ⟨_, c5', h5'⟩ ⟨on5, rfl, rfl⟩
    dsimp only [Cursor.retarget]
    refine Alike.bind (expression_alike agree on5) ?_
    rintro ⟨step, c6, h6⟩ ⟨_, c6', h6'⟩ ⟨on6, rfl, rfl⟩
    refine Alike.bind (c6.expect_alike agree on6 _) ?_
    rintro ⟨_, c7, h7⟩ ⟨_, c7', h7'⟩ ⟨on7, rfl, rfl⟩
    dsimp only
    -- the steps between are each stated from a cursor given as a projection
    have shorter : c7.left < c.left := by
      have s2 : c2.left < c1.left := h2
      have s3 : c3.left < c2.left := h3
      have s4 : c4.left < c3.left := h4
      have s5 : c5.left < c4.left := h5
      have s6 : c6.left < c5.left := h6
      have s7 : c7.left < c6.left := h7
      omega
    refine Alike.bind (stmtAlike _ c7 shorter on7) ?_
    rintro ⟨⟨body, ctx8⟩, c8, h8⟩ ⟨_, c8', h8'⟩ ⟨on8, rfl, rfl⟩
    exact Alike.pure ⟨on8, rfl, rfl⟩
  case h_5 =>
    refine Alike.bind (varDecl_alike agree on) ?_
    rintro ⟨⟨d, ctx1⟩, c1, h1⟩ ⟨_, c1', h1'⟩ ⟨on1, rfl, rfl⟩
    exact Alike.pure ⟨on1, rfl, rfl⟩
  case h_6 =>
    refine Alike.bind (c.advance_alike agree on _ _) ?_
    rintro ⟨kw, c1, h1⟩ ⟨_, c1', h1'⟩ ⟨on1, rfl, rfl⟩
    refine Alike.bind (expression_alike agree on1) ?_
    rintro ⟨value, c2, h2⟩ ⟨_, c2', h2'⟩ ⟨on2, rfl, rfl⟩
    refine Alike.bind (c2.expect_alike agree on2 _) ?_
    rintro ⟨_, c3, h3⟩ ⟨_, c3', h3'⟩ ⟨on3, rfl, rfl⟩
    exact Alike.pure ⟨on3, rfl, rfl⟩
  case h_7 =>
    exact Alike.ite (fun _ => exprStatement_alike agree on) (fun _ => Alike.throw rfl)

theorem block_alike (agree : Agree f g n) {c : Cursor} (on : c.On f)
    (bodyAlike : ∀ ctx (c' : Cursor), c'.left < c.left → c'.On f →
      Alike (fun a a' => a.2.2.1.On f ∧ (a.1, a.2.1) = (a'.1, a'.2.1) ∧ a.2.2.1.retarget g = a'.2.2.1)
        (blockBody ctx c') (blockBody ctx (c'.retarget g))) :
    Alike (Read.Matches f g) (block ctx c) (block ctx (c.retarget g)) := by
  rw [block, block]
  refine Alike.bind (c.expect_alike agree on _) ?_
  rintro ⟨brace, c1, h1⟩ ⟨_, c1', h1'⟩ ⟨on1, rfl, rfl⟩
  refine Alike.bind (bodyAlike _ c1 h1 on1) ?_
  rintro ⟨stmts, ctx2, c2, h2⟩ ⟨stmts', ctx2', c2', h2'⟩ ⟨on2, same, rfl⟩
  cases same
  refine Alike.bind (c2.expect_alike agree on2 _) ?_
  rintro ⟨_, c3, h3⟩ ⟨_, c3', h3'⟩ ⟨on3, rfl, rfl⟩
  exact Alike.pure ⟨on3, rfl, rfl⟩

theorem blockBody_alike {c : Cursor} (on : c.On f)
    (stmtAlike : ∀ ctx, Alike (Read.Matches f g) (statement ctx c) (statement ctx (c.retarget g)))
    (bodyAlike : ∀ ctx (c' : Cursor), c'.left < c.left → c'.On f →
      Alike (fun a a' => a.2.2.1.On f ∧ (a.1, a.2.1) = (a'.1, a'.2.1) ∧ a.2.2.1.retarget g = a'.2.2.1)
        (blockBody ctx c') (blockBody ctx (c'.retarget g))) :
    Alike (fun a a' => a.2.2.1.On f ∧ (a.1, a.2.1) = (a'.1, a'.2.1) ∧ a.2.2.1.retarget g = a'.2.2.1)
      (blockBody ctx c) (blockBody ctx (c.retarget g)) := by
  rw [blockBody, blockBody]
  dsimp only [Cursor.retarget]
  refine Alike.ite (fun _ => Alike.pure ⟨on, rfl, rfl⟩) (fun _ => ?_)
  refine Alike.bind (stmtAlike ctx) ?_
  rintro ⟨⟨s, ctx1⟩, c1, h1⟩ ⟨_, c1', h1'⟩ ⟨on1, rfl, rfl⟩
  refine Alike.bind (bodyAlike ctx1 c1 h1 on1) ?_
  rintro ⟨rest, ctx2, c2, h2⟩ ⟨rest', ctx2', c2', h2'⟩ ⟨on2, same, rfl⟩
  cases same
  exact Alike.pure ⟨on2, rfl, rfl⟩

/--
Every statement rule reads alike from both feeds, by strong induction on the input left, as the
statement rules themselves recurse.
-/
theorem statements_alike (agree : Agree f g n) (m : Nat) : ∀ c : Cursor, c.left = m → c.On f →
    (∀ ctx, Alike (Read.Matches f g) (statement ctx c) (statement ctx (c.retarget g))) ∧
      (∀ ctx, Alike (Read.Matches f g) (block ctx c) (block ctx (c.retarget g))) ∧
      ∀ ctx, Alike (fun a a' => a.2.2.1.On f ∧ (a.1, a.2.1) = (a'.1, a'.2.1) ∧
        a.2.2.1.retarget g = a'.2.2.1) (blockBody ctx c) (blockBody ctx (c.retarget g)) := by
  induction m using Nat.strongRecOn with
  | _ m ih =>
    intro c atM on
    have blockAlike : ∀ ctx, Alike (Read.Matches f g) (block ctx c) (block ctx (c.retarget g)) :=
      fun ctx => block_alike agree on fun ctx' c' shorter on' =>
        (ih c'.left (atM ▸ shorter) c' rfl on').2.2 ctx'
    have stmtAlike : ∀ ctx, Alike (Read.Matches f g) (statement ctx c)
        (statement ctx (c.retarget g)) := fun ctx =>
      statement_alike agree on blockAlike fun ctx' c' shorter on' =>
        (ih c'.left (atM ▸ shorter) c' rfl on').1 ctx'
    refine ⟨stmtAlike, blockAlike, fun ctx => blockBody_alike on stmtAlike ?_⟩
    intro ctx' c' shorter on'
    exact (ih c'.left (atM ▸ shorter) c' rfl on').2.2 ctx'

theorem params_alike (agree : Agree f g n) : ∀ offset ctx (c : Cursor), c.On f →
    Alike (Read.Matches f g) (params offset ctx c) (params offset ctx (c.retarget g)) := by
  refine params.induct _ ?_
  intro offset ctx c restIH on
  rw [params, params]
  refine Alike.bind (c.expect_alike agree on _) ?_
  rintro ⟨name, c1, h1⟩ ⟨_, c1', h1'⟩ ⟨on1, rfl, rfl⟩
  refine Alike.bind (c1.expect_alike agree on1 _) ?_
  rintro ⟨_, c2, h2⟩ ⟨_, c2', h2'⟩ ⟨on2, rfl, rfl⟩
  refine Alike.bind (c2.expect_alike agree on2 _) ?_
  rintro ⟨tyName, c3, h3⟩ ⟨_, c3', h3'⟩ ⟨on3, rfl, rfl⟩
  refine c3.lift_bind_alike rfl fun ty _ => ?_
  refine c3.lift_bind_alike rfl fun defined _ => ?_
  obtain ⟨ctx4, id⟩ := defined
  refine Alike.bind (c3.expect_alike agree on3 _) ?_
  rintro ⟨sep, c5, h5⟩ ⟨_, c5', h5'⟩ ⟨on5, rfl, rfl⟩
  refine Alike.ite (fun _ => Alike.pure ⟨on5, rfl, rfl⟩) (fun _ => ?_)
  refine Alike.bind (restIH c1 h1 c2 h2 c3 h3 ty ctx4 c5 h5 on5) ?_
  rintro ⟨⟨rest, ctx6⟩, c6, h6⟩ ⟨_, c6', h6'⟩ ⟨on6, rfl, rfl⟩
  exact Alike.pure ⟨on6, rfl, rfl⟩

theorem paramList_alike (agree : Agree f g n) {c : Cursor} (on : c.On f) :
    Alike (Read.Matches f g) (paramList ctx c) (paramList ctx (c.retarget g)) := by
  rw [paramList, paramList]
  refine Alike.bind (c.expect_alike agree on _) ?_
  rintro ⟨_, c1, h1⟩ ⟨_, c1', h1'⟩ ⟨on1, rfl, rfl⟩
  dsimp only [Cursor.retarget]
  refine Alike.ite (fun _ => ?_) (fun _ => ?_)
  · refine Alike.bind (c1.expect_alike agree on1 _) ?_
    rintro ⟨_, c2, h2⟩ ⟨_, c2', h2'⟩ ⟨on2, rfl, rfl⟩
    exact Alike.pure ⟨on2, rfl, rfl⟩
  · refine Alike.bind (params_alike agree 0 ctx c1 on1) ?_
    rintro ⟨result, c2, h2⟩ ⟨_, c2', h2'⟩ ⟨on2, rfl, rfl⟩
    exact Alike.pure ⟨on2, rfl, rfl⟩

theorem funcDef_alike (agree : Agree f g n) {index : Nat} {c : Cursor} (on : c.On f) :
    Alike (Read.Matches f g) (funcDef index ctx c) (funcDef index ctx (c.retarget g)) := by
  rw [funcDef, funcDef]
  refine Alike.bind (c.expect_alike agree on _) ?_
  rintro ⟨name, c1, h1⟩ ⟨_, c1', h1'⟩ ⟨on1, rfl, rfl⟩
  dsimp only
  refine Alike.bind (paramList_alike agree on1) ?_
  rintro ⟨⟨paramIds, ctx2⟩, c2, h2⟩ ⟨_, c2', h2'⟩ ⟨on2, rfl, rfl⟩
  refine Alike.bind ((statements_alike agree c2.left c2 rfl on2).2.1 ctx2) ?_
  rintro ⟨⟨body, ctx3⟩, c3, h3⟩ ⟨_, c3', h3'⟩ ⟨on3, rfl, rfl⟩
  dsimp only
  split
  · rename_i ty _
    refine Alike.bind (Alike.pure rfl : Alike (fun a b : EntryId => a = b) (pure ty) (pure ty))
      fun _ _ same => ?_
    subst same
    exact c3.lift_bind_alike rfl fun _ _ => Alike.pure ⟨on3, rfl, rfl⟩
  · exact Alike.throw rfl
  · exact Alike.throw rfl

theorem declaration_alike (agree : Agree f g n) {index : Nat} {c : Cursor} (on : c.On f) :
    Alike (Read.Matches f g) (declaration index ctx c) (declaration index ctx (c.retarget g)) := by
  rw [declaration, declaration]
  dsimp only [Cursor.retarget]
  refine Alike.ite (fun _ => ?_) (fun _ => Alike.ite (fun _ => ?_) (fun _ => Alike.throw rfl))
  · refine Alike.bind (varDecl_alike agree on) ?_
    rintro ⟨⟨d, ctx1⟩, c1, h1⟩ ⟨_, c1', h1'⟩ ⟨on1, rfl, rfl⟩
    exact Alike.pure ⟨on1, rfl, rfl⟩
  · refine Alike.bind (funcDef_alike agree on) ?_
    rintro ⟨⟨fd, ctx1⟩, c1, h1⟩ ⟨_, c1', h1'⟩ ⟨on1, rfl, rfl⟩
    exact Alike.pure ⟨on1, rfl, rfl⟩

theorem declarations_alike (agree : Agree f g n) : ∀ index ctx (c : Cursor), c.On f →
    Alike (fun a a' => a.2.2.On f ∧ (a.1, a.2.1) = (a'.1, a'.2.1) ∧ a.2.2.retarget g = a'.2.2)
      (declarations index ctx c) (declarations index ctx (c.retarget g)) := by
  refine declarations.induct _ ?atEnd ?more
  case atEnd =>
    intro index ctx c isEnd on
    rw [declarations, declarations]
    dsimp only [Cursor.retarget]
    exact Alike.ite (fun _ => Alike.pure ⟨on, rfl, rfl⟩) (fun notEnd => absurd isEnd notEnd)
  case more =>
    intro index ctx c notEnd restIH on
    rw [declarations, declarations]
    dsimp only [Cursor.retarget]
    refine Alike.ite (fun isEnd => absurd isEnd notEnd) (fun _ => ?_)
    refine Alike.bind (declaration_alike agree on) ?_
    rintro ⟨⟨d, ctx1⟩, c1, h1⟩ ⟨_, c1', h1'⟩ ⟨on1, rfl, rfl⟩
    refine Alike.bind (restIH ctx1 c1 h1 on1) ?_
    rintro ⟨rest, ctx2, c2⟩ ⟨rest', ctx2', c2'⟩ ⟨on2, same, rfl⟩
    cases same
    exact Alike.pure ⟨on2, rfl, rfl⟩

end Parse

namespace Cursor

variable {f g : Feed} {n : Nat}

/-- The first pull is the same on both feeds. -/
theorem start_alike (agree : Agree f g n) :
    Alike (fun c c' => c.On f ∧ c.retarget g = c') (Cursor.start f) (Cursor.start g) := by
  have sameFirst : g.pull.1 = f.pull.1 := agree.pull_eq (Nat.zero_le n)
  have started := Cursor.start_readsOn f
  unfold Cursor.start at started ⊢
  cases pulledF : f.pull with
  | mk first rest =>
    cases pulledG : g.pull with
    | mk first' rest' =>
      rw [pulledF, pulledG] at sameFirst
      subst sameFirst
      rw [pulledF] at started
      cases first' with
      | ok t =>
          refine Alike.pure ⟨started, ?_⟩
          show (⟨t, g.pull.2, 1⟩ : Cursor) = ⟨t, rest', 1⟩
          rw [pulledG]
      | error e => exact Alike.throw rfl

end Cursor

/--
Two feeds that agree up to an end of input or a scanning error read alike: the reader never pulls
past that result, so nothing after it matters.
-/
theorem Program.read_eq_of_agree {f g : Feed} {n : Nat} (agree : Agree f g n) :
    Program.read g = Program.read f := by
  have started := Cursor.start_alike agree
  unfold Program.read
  cases startF : Cursor.start f with
  | error fl =>
      rw [started.1 fl startF]
  | ok c =>
      obtain ⟨c', startG, on, retargeted⟩ := started.2 c startF
      rw [startG, ← retargeted]
      dsimp only
      have loop := Parse.declarations_alike agree 0
        (Parse.defineBuiltins { Context.initial with current := some ScopeTable.root } c.look.loc) c on
      cases declsF : Parse.declarations 0
          (Parse.defineBuiltins { Context.initial with current := some ScopeTable.root } c.look.loc) c with
      | error e =>
          rw [show (c.retarget g).look = c.look from rfl, loop.1 e declsF]
      | ok res =>
          obtain ⟨res', declsG, -, same, moved⟩ := loop.2 res declsF
          rw [show (c.retarget g).look = c.look from rfl, declsG]
          obtain ⟨decls, ctx', c1⟩ := res
          obtain ⟨decls', ctx'', c1'⟩ := res'
          simp only [Prod.mk.injEq] at same
          obtain ⟨rfl, rfl⟩ := same
          dsimp only at moved
          subst moved
          rfl

/-- A reading of a feed ends no later than the first result that ends the input. -/
theorem Program.read_pulled_le {f : Feed} {n : Nat} (ends : EndsInput ((f.skip n).pull.1)) :
    (Program.read f).pulled ≤ n + 1 := by
  have started := Cursor.start_readsOn f
  unfold Program.read
  cases startF : Cursor.start f with
  | error fl =>
      rw [startF] at started
      obtain ⟨u, last, pulls, noEof, -⟩ := started
      exact Feed.pulled_le_of_ends ends pulls noEof
  | ok c =>
      rw [startF] at started
      dsimp only
      have loop := Parse.declarations_readsOn 0
        (Parse.defineBuiltins { Context.initial with current := some ScopeTable.root } c.look.loc) c started
      cases declsF : Parse.declarations 0
          (Parse.defineBuiltins { Context.initial with current := some ScopeTable.root } c.look.loc) c with
      | error e =>
          rw [declsF] at loop
          obtain ⟨u, last, pulls, noEof, -⟩ := loop
          exact Feed.pulled_le_of_ends ends pulls noEof
      | ok res =>
          rw [declsF] at loop
          obtain ⟨-, u, pulls, noEof⟩ := loop
          exact Feed.pulled_le_of_ends ends pulls noEof

/-- The feed of the first `m` results of a source, followed by an end of input at `last`. -/
def Feed.prefixOf (s : Nat → Except LexError Token) (m : Nat) (last : Location) : Feed :=
  ⟨(List.range m).map s, last⟩

theorem Feed.pulls_prefixOf (s : Nat → Except LexError Token) {k m : Nat} (within : k ≤ m)
    (last : Location) : (Feed.prefixOf s m last).pulls k = (List.range k).map s := by
  rw [prefixOf, pulls_mk_of_le (by simpa using within), ← List.map_take, List.take_range,
    Nat.min_eq_left within]

theorem Feed.pull_skip_prefixOf (s : Nat → Except LexError Token) {k m : Nat} (within : k < m)
    (last : Location) : ((Feed.prefixOf s m last).skip k).pull.1 = s k := by
  have pulls := pulls_prefixOf s within last
  rw [pulls_succ, List.range_succ, List.map_append, pulls_prefixOf s (Nat.le_of_lt within)] at pulls
  exact List.singleton_inj.1 (List.append_inj' pulls (by simp)).2

/--
Reading terminates on every source that ends: once a source has given an end of input or a
scanning error, at its `n + 1`-th result, the reading of its first `m` results is the same for
every `m` past it, and pulls at most those `n + 1` results. Whatever the source would give
after, and whether it ever gives more, the reader never asks for it.
-/
theorem Program.read_stopsAtEnd (s : Nat → Except LexError Token) {n m : Nat}
    (ends : EndsInput (s n)) (longer : n < m) (last last' : Location) :
    Program.read (Feed.prefixOf s m last) = Program.read (Feed.prefixOf s (n + 1) last') ∧
      (Program.read (Feed.prefixOf s (n + 1) last')).pulled ≤ n + 1 := by
  have endsAt : EndsInput (((Feed.prefixOf s (n + 1) last').skip n).pull.1) := by
    rw [Feed.pull_skip_prefixOf s (Nat.lt_succ_self n)]
    exact ends
  have agree : Agree (Feed.prefixOf s (n + 1) last') (Feed.prefixOf s m last) n := by
    refine ⟨?_, endsAt⟩
    rw [Feed.pulls_prefixOf s (Nat.le_refl _), Feed.pulls_prefixOf s longer]
  exact ⟨Program.read_eq_of_agree agree, Program.read_pulled_le endsAt⟩

/--
A source that never runs dry: `var a = 1;`, an end of input, and then `var` after `var` forever.
Reading any of its prefixes past the end gives the reading of the first six results.
-/
theorem Program.read_stopsAtEnd_endless :
    EndsInput ((fun i => .ok (([⟨.varKw, "var", .start⟩, ⟨.ident, "a", .start⟩, ⟨.eq, "=", .start⟩,
        ⟨.intLit, "1", .start⟩, ⟨.semicolon, ";", .start⟩, ⟨.eof, "", .start⟩] : List Token).getD i
        ⟨.varKw, "var", .start⟩) : Nat → Except LexError Token) 5) ∧ 5 < 8 ∧
      Program.read (Feed.prefixOf (fun i => .ok (([⟨.varKw, "var", .start⟩, ⟨.ident, "a", .start⟩,
          ⟨.eq, "=", .start⟩, ⟨.intLit, "1", .start⟩, ⟨.semicolon, ";", .start⟩, ⟨.eof, "", .start⟩] :
          List Token).getD i ⟨.varKw, "var", .start⟩)) 8 .start) =
        Program.read (Feed.prefixOf (fun i => .ok (([⟨.varKw, "var", .start⟩, ⟨.ident, "a", .start⟩,
          ⟨.eq, "=", .start⟩, ⟨.intLit, "1", .start⟩, ⟨.semicolon, ";", .start⟩, ⟨.eof, "", .start⟩] :
          List Token).getD i ⟨.varKw, "var", .start⟩)) 6 .start) ∧
      (Program.read (Feed.prefixOf (fun i => .ok (([⟨.varKw, "var", .start⟩, ⟨.ident, "a", .start⟩,
          ⟨.eq, "=", .start⟩, ⟨.intLit, "1", .start⟩, ⟨.semicolon, ";", .start⟩, ⟨.eof, "", .start⟩] :
          List Token).getD i ⟨.varKw, "var", .start⟩)) 6 .start)).pulled ≤ 6 :=
  ⟨by decide, by decide, Program.read_stopsAtEnd _ (by decide) (by decide) .start .start⟩

end ImpFront
