import ImpFront.Proofs.ExpressionTrees
import ImpFront.Proofs.Prefix.Cut

/-!
# Expressions read from the same tokens in another stream and another context

A rule of the reader sees of its input only the tokens it takes and the lookaheads it tests, and
of its context only what names resolve to. This module reads the same tokens `x` from two streams
that go on differently after them, `x` then `A` and `x` then `B` (`Cursor.Mirror`), in two contexts
where every name that `x` makes the reader look up (`Token.namesUsed`, `Cursor.NamesBefore`)
resolves to the same entry (`Context.ResolvesAlike`). A run from the first that ends inside the
tokens, or at their end where the second stream has a token the rule cannot go on with
(`Cursor.Halts`), is matched by a run from the second with the same value, stopped at the same
point of the tokens (`Cursor.Carries`).

Where a run ends is stated by what its cursor still has to read; a rule that decides on its
lookahead decides alike on both streams, unless the lookahead is past the tokens, where `Halts`
says the second stream stops the rule as the first does.
-/

namespace ImpFront

open Grammar

namespace Cursor

variable {A B : List (Except LexError Token)} {K K' : TokenKind → Prop} {c c' d : Cursor}
  {t : Token} {u w x y : List Token}

theorem map_ok_cancel {x y : List Token} (same : x.map .ok ++ A = y.map .ok ++ A) : x = y :=
  (List.map_injective_iff.2 fun _ _ sameOk => Except.ok.inj sameOk) (List.append_cancel_right same)

/-- The tokens a cursor took, then what the cursor after them holds, are what it held. -/
theorem Consumed.ahead_of (consumed : c.Consumed u c') (rest : c'.ahead = w.map .ok ++ A) :
    c.ahead = (u ++ w).map .ok ++ A := by
  rw [consumed, rest, List.map_append, List.append_assoc]

/-- A cursor takes its lookahead when the next result after it is a token. -/
theorem takes_of_ahead {t₁ : Token} {rest : List (Except LexError Token)}
    (ahead : d.ahead = .ok t :: .ok t₁ :: rest) (notEof : t.kind ≠ .eof) :
    ∃ d', d.Takes t d' ∧ d'.ahead = .ok t₁ :: rest := by
  obtain ⟨look, ⟨pending, last⟩, count⟩ := d
  obtain rfl : look = t := look_eq_of_ahead ahead
  simp only [Cursor.ahead, notEof, if_false, List.cons.injEq, true_and] at ahead
  cases pending with
  | nil =>
      simp only [Feed.untilEof, List.cons.injEq, Except.ok.injEq] at ahead
      obtain ⟨rfl, rfl⟩ := ahead
      exact ⟨⟨Token.eofAt last, ⟨[], last⟩, count + 1⟩, ⟨rfl, notEof, rfl, rfl⟩, by
        simp [Cursor.ahead, Token.eofAt]⟩
  | cons first more =>
      cases first with
      | error e => simp [Feed.untilEof] at ahead
      | ok t' =>
          refine ⟨⟨t', ⟨more, last⟩, count + 1⟩, ⟨rfl, notEof, rfl, rfl⟩, ?_⟩
          by_cases endHere : t'.kind = .eof
          · simp only [Feed.untilEof, endHere, if_true] at ahead
            simp [Cursor.ahead, endHere, ahead]
          · simp only [Feed.untilEof, endHere, if_false] at ahead
            simp [Cursor.ahead, endHere, ahead]

/-- Two cursors hold the same tokens, followed by `A` in the first and by `B` in the second. -/
def Mirror (A B : List (Except LexError Token)) (c d : Cursor) : Prop :=
  ∃ x : List Token, c.ahead = x.map .ok ++ A ∧ d.ahead = x.map .ok ++ B

/-- The second stream goes on with a token that no kind in `K` is. -/
def Halts (K : TokenKind → Prop) (B : List (Except LexError Token)) : Prop :=
  ∃ b B', B = .ok b :: B' ∧ ¬K b.kind

theorem Halts.mono (halts : Halts K B) (weaker : ∀ k, K' k → K k) : Halts K' B := by
  obtain ⟨b, B', rfl, notK⟩ := halts
  exact ⟨b, B', rfl, fun continues => notK (weaker _ continues)⟩

theorem Mirror.ahead_eq (mirror : Mirror A B c d) (cAhead : c.ahead = w.map .ok ++ A) :
    d.ahead = w.map .ok ++ B := by
  obtain ⟨x, cAhead', dAhead⟩ := mirror
  rw [dAhead, map_ok_cancel (cAhead'.symm.trans cAhead)]

/-- A token the first cursor takes before the end of the tokens, the second takes too. -/
theorem Mirror.takes (mirror : Mirror A B c d) (taken : c.Takes t c')
    (rest : c'.ahead = y.map .ok ++ A) (next : y = [] → Halts K B) :
    ∃ d', d.Takes t d' ∧ Mirror A B c' d' := by
  have dAhead : d.ahead = (t :: y).map .ok ++ B :=
    mirror.ahead_eq (by rw [taken.ahead_eq, rest]; rfl)
  obtain ⟨t₁, rest', after⟩ : ∃ t₁ rest', y.map .ok ++ B = .ok t₁ :: rest' := by
    cases y with
    | nil =>
        obtain ⟨b, B', rfl, -⟩ := next rfl
        exact ⟨b, B', rfl⟩
    | cons t₁ y => exact ⟨t₁, _, rfl⟩
  rw [List.map_cons, List.cons_append, after] at dAhead
  obtain ⟨d', taken', ahead'⟩ := takes_of_ahead dAhead taken.kind_ne_eof
  exact ⟨d', taken', y, rest, ahead'.trans after.symm⟩

/-- A token the first cursor takes with more tokens after it, the second takes too. -/
theorem Mirror.takes_of_ne_nil (mirror : Mirror A B c d) (taken : c.Takes t c')
    (rest : c'.ahead = y.map .ok ++ A) (nonempty : y ≠ []) :
    ∃ d', d.Takes t d' ∧ Mirror A B c' d' :=
  mirror.takes taken rest (fun atEnd => absurd atEnd nonempty : y = [] → Halts (fun _ => False) B)

/--
Where a run from the first cursor stops, a lookahead test of the second agrees: inside the
tokens both look at the same token, and past them the second looks at a token outside `K`.
-/
theorem look_of_mirror {P : TokenKind → Prop} (cAhead : c.ahead = w.map .ok ++ A)
    (dAhead : d.ahead = w.map .ok ++ B) (halts : w = [] → Halts K B) (here : P c.look.kind)
    (beyond : ∀ k, ¬K k → P k) : P d.look.kind := by
  cases w with
  | nil =>
      obtain ⟨b, B', rfl, notK⟩ := halts rfl
      rw [look_eq_of_ahead dAhead]
      exact beyond _ notK
  | cons t w =>
      rw [look_eq_of_ahead dAhead, ← look_eq_of_ahead cAhead]
      exact here

/-- Where the tokens still to read are not empty, both cursors look at the same token. -/
theorem look_eq_of_mirror (cAhead : c.ahead = x.map .ok ++ A) (dAhead : d.ahead = x.map .ok ++ B)
    (nonempty : x ≠ []) : d.look = c.look := by
  cases x with
  | nil => exact absurd rfl nonempty
  | cons t x => rw [look_eq_of_ahead dAhead, ← look_eq_of_ahead cAhead]

theorem halts_of_append (halts : w = [] → Halts K B) : u ++ w = [] → Halts K B :=
  fun atEnd => halts (List.append_eq_nil_iff.1 atEnd).2

/-- A rule that tests no lookahead after its last token halts wherever the second stream goes on. -/
theorem halts_false (halts : w = [] → Halts K B) : w = [] → Halts (fun _ => False) B :=
  fun atEnd => (halts atEnd).mono fun _ => False.elim

/--
A run from `d` carries a run from `c`: whenever the run from `c` succeeds and stops with the tokens
`w` still to read before `A`, and the second stream halts the rule when `w` is empty, the run
from `d` succeeds with the same value and stops with `w` still to read before `B`.
-/
def Carries {α : Type} (K : TokenKind → Prop) (A B : List (Except LexError Token)) {c d : Cursor}
    (run : Except Failure (Read c α)) (run' : Except Failure (Read d α)) : Prop :=
  ∀ r, run = .ok r → ∀ w : List Token, r.cursor.ahead = w.map .ok ++ A → (w = [] → Halts K B) →
    ∃ r' : Read d α, run' = .ok r' ∧ r'.value = r.value ∧ r'.cursor.ahead = w.map .ok ++ B

end Cursor

/-! ## The names a run looks up -/

/--
The names the reader looks up when it takes a token in an expression: an identifier's own, the
type name of a literal, and `bool` for the operators whose operands or result it checks against
`bool`.
-/
def Token.namesUsed (t : Token) : List String :=
  match t.kind with
  | .ident => [t.lexeme]
  | .intLit => ["int"]
  | .floatLit => ["float"]
  | .boolLit | .orOr | .andAnd | .lt | .le | .gt | .ge | .eqEq | .notEq => ["bool"]
  | .stringLit => ["string"]
  | _ => []

/-- The operators whose operands or result `Context.binary` checks against `bool`. -/
def BinOp.checksBool (op : BinOp) : Bool :=
  op == .or || op == .and || op.isComparison

theorem Token.namesUsed_of_ident {t : Token} (isName : t.kind = .ident) :
    t.namesUsed = [t.lexeme] := by
  simp [Token.namesUsed, isName]

theorem Token.namesUsed_of_literal {t : Token} {v : Literal} (lit : Parse.literalOf? t = some v) :
    t.namesUsed = [v.typeName] := by
  unfold Parse.literalOf? at lit
  unfold Token.namesUsed
  cases kind : t.kind <;> simp only [kind, Option.map_eq_some_iff, Option.some.injEq,
    reduceCtorEq] at lit ⊢
  · rw [← lit]
    rfl
  · obtain ⟨b, -, rfl⟩ := lit
    rfl
  · obtain ⟨b, -, rfl⟩ := lit
    rfl
  · rw [← lit]
    rfl

/-- An operator token whose operator checks against `bool` makes the reader look `bool` up. -/
theorem Token.bool_mem_namesUsed {t : Token} {n : Nat} {op : BinOp}
    (someOp : Parse.tierOp? n t.kind = some op) (checks : op.checksBool = true) :
    "bool" ∈ t.namesUsed := by
  unfold Parse.tierOp? at someOp
  unfold Token.namesUsed
  split at someOp <;> rename_i kind <;> cases someOp <;>
    simp_all [BinOp.checksBool, BinOp.isComparison]

namespace Cursor

variable {A : List (Except LexError Token)} {N : String → Prop} {c c' : Cursor} {t : Token}
  {u x y : List Token}

/-- The tokens a cursor holds before `A` make the reader look up only names that satisfy `N`. -/
def NamesBefore (N : String → Prop) (A : List (Except LexError Token)) (c : Cursor) : Prop :=
  ∀ x : List Token, c.ahead = x.map .ok ++ A → ∀ t ∈ x, ∀ n ∈ t.namesUsed, N n

namespace NamesBefore

theorem of_ahead (ahead : c.ahead = x.map .ok ++ A) (named : ∀ t ∈ x, ∀ n ∈ t.namesUsed, N n) :
    c.NamesBefore N A := by
  intro y ahead'
  rw [← map_ok_cancel (ahead.symm.trans ahead')]
  exact named

theorem any (A : List (Except LexError Token)) (c : Cursor) : c.NamesBefore (fun _ => True) A :=
  fun _ _ _ _ _ _ => trivial

theorem of_consumed (names : c.NamesBefore N A) (consumed : c.Consumed u c') :
    c'.NamesBefore N A :=
  fun y ahead t member =>
    names (u ++ y) (consumed.ahead_of ahead) t (List.mem_append_right u member)

theorem of_takes (names : c.NamesBefore N A) (taken : c.Takes t c') : c'.NamesBefore N A :=
  names.of_consumed taken.consumed

/-- A token taken before `A` makes the reader look up only names that satisfy `N`. -/
theorem head (names : c.NamesBefore N A) (taken : c.Takes t c') (rest : c'.ahead = y.map .ok ++ A) :
    ∀ n ∈ t.namesUsed, N n :=
  names (t :: y) (taken.consumed.ahead_of rest) t (List.mem_cons_self ..)

theorem ident (names : c.NamesBefore N A) (taken : c.Takes t c') (rest : c'.ahead = y.map .ok ++ A)
    (isName : t.kind = .ident) : N t.lexeme :=
  names.head taken rest _ (by rw [Token.namesUsed_of_ident isName]; exact List.mem_singleton_self _)

theorem literal {v : Literal} (names : c.NamesBefore N A) (taken : c.Takes t c')
    (rest : c'.ahead = y.map .ok ++ A) (lit : Parse.literalOf? t = some v) : N v.typeName :=
  names.head taken rest _ (by rw [Token.namesUsed_of_literal lit]; exact List.mem_singleton_self _)

theorem bool {n : Nat} {op : BinOp} (names : c.NamesBefore N A) (taken : c.Takes t c')
    (rest : c'.ahead = y.map .ok ++ A) (someOp : Parse.tierOp? n t.kind = some op) :
    op.checksBool = true → N "bool" :=
  fun checks => names.head taken rest _ (Token.bool_mem_namesUsed someOp checks)

end NamesBefore

end Cursor

/-! ## Contexts that resolve alike -/

/--
Reading in `ctx'` finds what reading in `ctx` finds for the names that satisfy `N`: each resolves
to the same entry, which stands unchanged in `ctx'`, and so do the parameters of a function found.
-/
structure Context.ResolvesAlike (N : String → Prop) (ctx ctx' : Context) : Prop where
  lookup : ∀ name, N name → ∀ loc, ctx'.lookup name loc = ctx.lookup name loc
  found : ∀ name, N name → ∀ loc id, ctx.lookup name loc = .ok id →
    ctx'.table.entry? id = ctx.table.entry? id
  params : ∀ name, N name → ∀ loc id f, ctx.lookup name loc = .ok id →
    ctx.table.funcInfo? id = some f → ∀ p ∈ f.params, ctx'.table.entry? p = ctx.table.entry? p

namespace Context

theorem expectType_eq_ok_iff {ctx : Context} {expected found : EntryId} {loc : Location} :
    ctx.expectType expected found loc = .ok () ↔ expected = found := by
  unfold expectType
  split <;> simp_all

theorem expectBool_of_lookupType {ctx : Context} {e : Expr}
    (found : ctx.lookupType "bool" e.loc = .ok e.ty) : ctx.expectBool e = .ok () := by
  unfold expectBool
  rw [found]
  exact expectType_eq_ok_iff.2 rfl

namespace ResolvesAlike

variable {N : String → Prop} {ctx ctx' : Context} {name : String} {loc : Location} {id : EntryId}

theorem refl (N : String → Prop) (ctx : Context) : ctx.ResolvesAlike N ctx :=
  ⟨fun _ _ _ => rfl, fun _ _ _ _ _ => rfl, fun _ _ _ _ _ _ _ _ _ => rfl⟩

variable (alike : ctx.ResolvesAlike N ctx')
include alike

theorem entry_eq (named : N name) (found : ctx.lookup name loc = .ok id) :
    ctx'.table.entry id = ctx.table.entry id := by
  unfold ScopeTable.entry
  rw [alike.found name named loc id found]

theorem funcInfo?_eq (named : N name) (found : ctx.lookup name loc = .ok id) :
    ctx'.table.funcInfo? id = ctx.table.funcInfo? id := by
  unfold ScopeTable.funcInfo?
  rw [alike.found name named loc id found]

theorem lookupType_eq (named : N name) (loc : Location) :
    ctx'.lookupType name loc = ctx.lookupType name loc := by
  unfold lookupType
  rw [alike.lookup name named]
  cases found : ctx.lookup name loc with
  | error e => rfl
  | ok id =>
      dsimp only
      rw [alike.entry_eq named found]

theorem expectBool {e : Expr} (named : N "bool") (checked : ctx.expectBool e = .ok ()) :
    ctx'.expectBool e = .ok () :=
  expectBool_of_lookupType (by rw [alike.lookupType_eq named]; exact expectBool_eq_ok checked)

theorem binary {op : BinOp} {lhs rhs e : Expr} (typed : ctx.binary op lhs rhs loc = .ok e)
    (named : op.checksBool = true → N "bool") : ctx'.binary op lhs rhs loc = .ok e := by
  obtain ⟨ty, rfl, logicalCase, otherCase⟩ := binary_eq_ok typed
  unfold Context.binary
  by_cases logical : op = .or ∨ op = .and
  · obtain ⟨lhsBool, rhsBool, rfl⟩ := logicalCase logical
    have checks : op.checksBool = true := by rcases logical with rfl | rfl <;> rfl
    rw [if_pos logical, alike.expectBool (named checks) lhsBool,
      alike.expectBool (named checks) rhsBool]
  · obtain ⟨same, comparisonCase, plainCase⟩ := otherCase logical
    rw [if_neg logical, expectType_eq_ok_iff.2 same]
    cases comparing : op.isComparison with
    | true =>
        simp only [if_true]
        rw [alike.lookupType_eq (named (by simp [BinOp.checksBool, comparing])),
          comparisonCase comparing]
    | false =>
        rw [plainCase comparing]
        simp

end ResolvesAlike

end Context

namespace Parse

/-- Arguments checked against parameters whose entries stand unchanged pass the check again. -/
theorem checkArgs_of_entries {ctx ctx' : Context} {args : List Expr} {params : List EntryId}
    (same : ∀ p ∈ params, ctx'.table.entry? p = ctx.table.entry? p)
    (checked : checkArgs ctx args params = .ok ()) : checkArgs ctx' args params = .ok () := by
  induction args generalizing params with
  | nil => cases params <;> rfl
  | cons a args ih =>
      cases params with
      | nil => rfl
      | cons p ps =>
          unfold checkArgs at checked ⊢
          split at checked
          · cases checked
          · rename_i paramTyped
            have sameInfo : ctx'.table.varInfo? p = ctx.table.varInfo? p := by
              unfold ScopeTable.varInfo?
              rw [same p (List.mem_cons_self ..)]
            rw [sameInfo, Context.expectType_eq_ok_iff.2 (Context.expectType_eq_ok paramTyped)]
            exact ih (fun q member => same q (List.mem_cons_of_mem _ member)) checked

variable {A B : List (Except LexError Token)} {N : String → Prop} {ctx ctx' : Context}
  {c d : Cursor}

/-! ## What a run takes -/

theorem expression_consumed {r : Read c Expr} (parsed : expression ctx c = .ok r) :
    ∃ u, c.Consumed u r.cursor :=
  (expression_munches parsed).imp fun _ munched => munched.1

theorem tier_consumed {n : Nat} {r : Read c Expr} (parsed : tier n ctx c = .ok r) :
    ∃ u, c.Consumed u r.cursor :=
  (tier_munches parsed).imp fun _ munched => munched.1

theorem tierRest_consumed {n : Nat} {lhs : Expr} {res : Expr × { c' : Cursor // c'.left ≤ c.left }}
    (parsed : tierRest n lhs ctx c = .ok res) : ∃ u, c.Consumed u res.2.1 :=
  (expression_munches_all.2.2.1 n lhs c res parsed).imp fun _ munched => munched.1

/-- Arguments take at least their separator. -/
theorem arguments_consumed {r : Read c (List Expr)} (parsed : arguments ctx c = .ok r) :
    ∃ u, u ≠ [] ∧ c.Consumed u r.cursor := by
  obtain ⟨e, sep, c2, first, separated, -, ⟨-, -, cursorEq⟩ | ⟨-, rest, restRead, -, cursorEq⟩⟩ :=
    arguments_eq_ok parsed
  · obtain ⟨q, consumed⟩ := expression_consumed first
    rw [cursorEq]
    exact ⟨q ++ [sep], by simp, consumed.trans separated.consumed⟩
  · obtain ⟨q, consumed⟩ := expression_consumed first
    obtain ⟨q', consumed'⟩ :=
      (expression_munches_all.2.2.2.2.2 c2 rest restRead).imp fun _ munched => munched.1
    rw [cursorEq]
    exact ⟨q ++ sep :: q', by simp, consumed.trans (separated.cons consumed')⟩

/-- A call takes at least its opening parenthesis. -/
theorem call_consumed {name : Token} {r : Read c Expr} (parsed : call name ctx c = .ok r) :
    ∃ u, u ≠ [] ∧ c.Consumed u r.cursor := by
  obtain ⟨-, -, lp, c1, -, -, -, taken, -, ⟨rp, closing, -, -⟩ | ⟨-, a, argsRead, -, cursorEq⟩,
    -⟩ := call_eq_ok parsed
  · exact ⟨[lp, rp], by simp, taken.cons closing.consumed⟩
  · obtain ⟨q, -, consumed⟩ := arguments_consumed argsRead
    rw [cursorEq]
    exact ⟨lp :: q, by simp, taken.cons consumed⟩

theorem tierOp?_eq_none_of_not_continues {n : Nat} {k : TokenKind} (stops : ¬Continues n k) :
    tierOp? n k = none := by
  cases made : tierOp? n k with
  | none => rfl
  | some op => exact absurd (continues_of_mem (tierOp?_eq_some_iff.1 made)) stops

/-! ## Expressions carried over -/

open Cursor

/-- A literal is read from the second stream as from the first. -/
theorem primary_carries_literal (alike : ctx.ResolvesAlike N ctx') (mirror : Mirror A B c d)
    (names : c.NamesBefore N A)
    (literal : c.look.kind ∈ [.intLit, .floatLit, .boolLit, .stringLit]) :
    Carries (Continues 0) A B (primary ctx c) (primary ctx' d) := by
  intro r parsed w final halts
  obtain ⟨tok, value, ty, taken, lit, typed, valueEq⟩ := primary_eq_ok_of_literal parsed literal
  obtain ⟨d1, taken', mirror1⟩ := mirror.takes taken final halts
  have typed' := (alike.lookupType_eq (names.literal taken final lit) _).trans typed
  exact ⟨_, primary_eq_of_literal taken' lit typed', valueEq.symm, mirror1.ahead_eq final⟩

/--
Every expression rule reads from the second stream what it reads from the first, in a context
that resolves alike the names the tokens make it look up, by the reader's own mutual recursion:
each token taken is taken from both, each lookahead tested inside the tokens is the same, and one
tested past them is one the rule stops at on both. A tier stops at a kind that does not continue
it, an assignment at one that continues no assignment; a call and arguments end with `)` and test
nothing after it.
-/
theorem expression_carries_all (alike : ctx.ResolvesAlike N ctx') :
    (∀ c d, Mirror A B c d → c.NamesBefore N A →
      Carries ContinuesAssign A B (expression ctx c) (expression ctx' d)) ∧
    (∀ n c d, Mirror A B c d → c.NamesBefore N A →
      Carries (Continues n) A B (tier n ctx c) (tier n ctx' d)) ∧
    (∀ n lhs c d, Mirror A B c d → c.NamesBefore N A → ∀ res, tierRest n lhs ctx c = .ok res →
      ∀ w : List Token, res.2.1.ahead = w.map .ok ++ A → (w = [] → Halts (Continues n) B) →
      ∃ res', tierRest n lhs ctx' d = .ok res' ∧ res'.1 = res.1 ∧
        res'.2.1.ahead = w.map .ok ++ B) ∧
    (∀ c d, Mirror A B c d → c.NamesBefore N A →
      Carries (Continues 0) A B (primary ctx c) (primary ctx' d)) ∧
    (∀ name c d, Mirror A B c d → c.NamesBefore N A → N name.lexeme →
      Carries (fun _ => False) A B (call name ctx c) (call name ctx' d)) ∧
    (∀ c d, Mirror A B c d → c.NamesBefore N A →
      Carries (fun _ => False) A B (arguments ctx c) (arguments ctx' d)) := by
  refine expression.mutual_induct _ _ _ _ _ _ ?assignment ?tierZero ?tierSucc ?restNone
    ?restSome ?intLit ?floatLit ?boolLit ?stringLit ?ident ?paren ?other ?call ?arguments
  case assignment =>
    intro c tierIH exprIH d mirror names r parsed w final halts
    obtain ⟨lhs, lhsRead, ⟨notEq, valueEq, cursorEq⟩ |
        ⟨op, c2, rhs, taken, isEq, isVar, rhsRead, typed, cursorEq⟩⟩ := expression_eq_ok parsed
    · rw [cursorEq] at final
      obtain ⟨lhs', small1, sameLhs, ahead1⟩ :=
        tierIH d mirror names lhs lhsRead w final fun atEnd => (halts atEnd).mono fun _ => Or.inr
      have notEq' : lhs'.cursor.look.kind ≠ .eq :=
        look_of_mirror final ahead1 halts notEq fun _ stops isEq => stops (Or.inl isEq)
      exact ⟨lhs', expression_eq_of_tier small1 notEq', by rw [sameLhs, valueEq], ahead1⟩
    · rw [cursorEq] at final
      obtain ⟨q, consumed⟩ := expression_consumed rhsRead
      have ahead2 := consumed.ahead_of final
      have ahead1 := taken.consumed.ahead_of ahead2
      obtain ⟨lhs', small1, sameLhs, dAhead1⟩ :=
        tierIH d mirror names lhs lhsRead _ ahead1 fun atEnd => by simp at atEnd
      obtain ⟨d2, taken', mirror2⟩ := Mirror.takes ⟨_, ahead1, dAhead1⟩ taken ahead2
        (halts_of_append halts)
      obtain ⟨q₀, consumedLhs⟩ := tier_consumed lhsRead
      obtain ⟨rhs', small3, sameRhs, dAhead3⟩ :=
        exprIH lhs.cursor lhs.lt c2 taken.left_lt d2 mirror2
          (names.of_consumed (consumedLhs.trans taken.consumed)) rhs rhsRead w final halts
      rw [← sameLhs] at isVar typed
      rw [← sameRhs] at typed
      obtain ⟨r', run', valueEq', cursorEq'⟩ := expression_eq_of_assign small1 taken' isEq isVar
        small3 (alike.binary typed fun checks => absurd checks (by decide))
      exact ⟨r', run', valueEq', by rw [cursorEq']; exact dAhead3⟩
  case tierZero =>
    intro c primaryIH d mirror names
    rw [tier_zero, tier_zero]
    exact primaryIH d mirror names
  case tierSucc =>
    intro c k tierIH restIH d mirror names r parsed w final halts
    obtain ⟨lhs, lhsRead, rest, restRead, valueEq, cursorEq⟩ := tier_succ_eq_ok parsed
    rw [cursorEq] at final
    obtain ⟨q, consumed⟩ := tierRest_consumed restRead
    have ahead1 := consumed.ahead_of final
    -- the operand of the tier below stops where this tier's operators do, or before one
    obtain ⟨lhs', small1, sameLhs, dAhead1⟩ := tierIH d mirror names lhs lhsRead _ ahead1
      fun atEnd => (halts_of_append halts atEnd).mono fun _ => Continues.mono (Nat.le_succ k)
    obtain ⟨q₀, consumedLhs⟩ := tier_consumed lhsRead
    obtain ⟨rest', small2, sameE, dAhead2⟩ :=
      restIH lhs.value lhs.cursor lhs.lt lhs'.cursor ⟨_, ahead1, dAhead1⟩
        (names.of_consumed consumedLhs) rest restRead w final halts
    rw [← sameLhs] at small2
    obtain ⟨r', run', valueEq', cursorEq'⟩ := tier_succ_eq_of small1 small2
    exact ⟨r', run', by rw [valueEq', sameE, valueEq], by rw [cursorEq']; exact dAhead2⟩
  case restNone =>
    intro n lhs c noOp d mirror _ res parsed w final halts
    rw [tierRest_eq_of_none noOp] at parsed
    cases parsed
    have dAhead := mirror.ahead_eq final
    have noOp' : tierOp? n d.look.kind = none :=
      look_of_mirror final dAhead halts noOp fun _ stops => tierOp?_eq_none_of_not_continues stops
    exact ⟨_, tierRest_eq_of_none noOp', rfl, dAhead⟩
  case restSome =>
    intro n lhs c op someOp tierIH restIH d mirror names res parsed w final halts
    obtain ⟨noOp, -, -⟩ | ⟨op', opTok, c1, rhs, e, rest, someOp', taken, rhsRead, typed, restRead,
        valueEq, cursorEq⟩ := tierRest_eq_ok parsed
    · rw [someOp] at noOp
      cases noOp
    rw [someOp, Option.some.injEq] at someOp'
    subst someOp'
    rw [cursorEq] at final
    obtain ⟨q, consumed⟩ := tierRest_consumed restRead
    have aheadRhs := consumed.ahead_of final
    obtain ⟨q', consumed'⟩ := tier_consumed rhsRead
    have ahead1 := consumed'.ahead_of aheadRhs
    obtain ⟨d1, taken', mirror1⟩ :=
      mirror.takes taken ahead1 (halts_of_append (halts_of_append halts))
    obtain ⟨rhs', small2, sameRhs, dAhead2⟩ := tierIH c1 taken.left_lt d1 mirror1
      (names.of_takes taken) rhs rhsRead _ aheadRhs fun atEnd =>
        (halts_of_append halts atEnd).mono fun _ => Continues.mono (Nat.sub_le n 1)
    obtain ⟨rest', small3, sameE, dAhead3⟩ :=
      restIH c1 taken.left_lt rhs.cursor rhs.lt e rhs'.cursor ⟨_, aheadRhs, dAhead2⟩
        (names.of_consumed (taken.consumed.trans consumed')) rest restRead w final halts
    have opKind : tierOp? n opTok.kind = some op := by rw [taken.1]; exact someOp
    have someOp'' : tierOp? n d.look.kind = some op := by rw [← taken'.1]; exact opKind
    rw [← sameRhs] at typed
    obtain ⟨res', run', valueEq', cursorEq'⟩ := tierRest_eq_of_some someOp'' taken' small2
      (alike.binary typed (names.bool taken ahead1 opKind)) small3
    exact ⟨res', run', by rw [valueEq', sameE, valueEq], by rw [cursorEq']; exact dAhead3⟩
  case intLit | floatLit | boolLit | stringLit =>
    intro c isLiteral d mirror names
    exact primary_carries_literal alike mirror names (by simp [isLiteral])
  case ident =>
    intro c isIdent callIH d mirror names r parsed w final halts
    obtain ⟨name, c1, taken, ⟨isCall, e, called, valueEq, cursorEq⟩ |
        ⟨notCall, id, v, found, isVar, valueEq, cursorEq⟩⟩ := primary_eq_ok_of_ident parsed isIdent
    all_goals have isName : name.kind = .ident := by rw [taken.1]; exact isIdent
    · rw [cursorEq] at final
      obtain ⟨q, nonempty, consumed⟩ := call_consumed called
      have ahead1 := consumed.ahead_of final
      obtain ⟨d1, taken', mirror1⟩ := mirror.takes taken ahead1 (halts_of_append halts)
      obtain ⟨⟨v2, d2, lt2⟩, small2, rfl, dAhead2⟩ := callIH name c1 taken.left_lt d1 mirror1
        (names.of_takes taken) (names.ident taken ahead1 isName) e called w final
        fun atEnd => (halts atEnd).mono fun _ => False.elim
      have isCall' : d1.look.kind = .lParen := by
        rw [look_eq_of_mirror ahead1 (mirror1.ahead_eq ahead1) (by simp [nonempty])]
        exact isCall
      obtain ⟨r', run', valueEq', cursorEq'⟩ := primary_eq_of_call taken' isName isCall' small2
      exact ⟨r', run', by rw [valueEq', valueEq], by rw [cursorEq']; exact dAhead2⟩
    · rw [cursorEq] at final
      have named := names.ident taken final isName
      obtain ⟨d1, taken', mirror1⟩ := mirror.takes taken final halts
      have dAhead1 := mirror1.ahead_eq final
      have notCall' : d1.look.kind ≠ .lParen :=
        look_of_mirror final dAhead1 halts notCall fun _ stops isParen => stops (Or.inl isParen)
      obtain ⟨r', run', valueEq', cursorEq'⟩ := primary_eq_of_var taken' isName notCall'
        ((alike.lookup _ named _).trans found) ((alike.entry_eq named found).trans isVar)
      exact ⟨r', run', by rw [valueEq', valueEq], by rw [cursorEq']; exact dAhead1⟩
  case paren =>
    intro c isParen exprIH d mirror names r parsed w final halts
    obtain ⟨openTok, c1, inner, closeTok, taken, innerRead, closing, isClose, valueEq⟩ :=
      primary_eq_ok_of_lParen parsed isParen
    have aheadInner := closing.consumed.ahead_of final
    obtain ⟨q, consumed⟩ := expression_consumed innerRead
    have ahead1 := consumed.ahead_of aheadInner
    obtain ⟨d1, taken', mirror1⟩ :=
      mirror.takes taken ahead1 (halts_of_append (halts_of_append halts))
    obtain ⟨⟨v2, d2, lt2⟩, small2, rfl, dAhead2⟩ := exprIH c1 taken.left_lt d1 mirror1
      (names.of_takes taken) inner innerRead _ aheadInner fun atEnd => by simp at atEnd
    obtain ⟨d3, closing', mirror3⟩ := Mirror.takes ⟨_, aheadInner, dAhead2⟩ closing final halts
    have isOpen : openTok.kind = .lParen := by rw [taken.1]; exact isParen
    obtain ⟨r', run', valueEq', cursorEq'⟩ :=
      primary_eq_of_paren taken' isOpen small2 closing' isClose
    exact ⟨r', run', by rw [valueEq', valueEq], by rw [cursorEq']; exact mirror3.ahead_eq final⟩
  case other =>
    intro c notInt notFloat notBool notString notIdent notParen d mirror names r parsed
    have start := primary_start parsed
    simp only [TokenKind.exprStart, List.mem_cons, List.not_mem_nil, or_false] at start
    rcases start with isKind | isKind | isKind | isKind | isKind | isKind <;> contradiction
  case call =>
    intro name c argsIH d mirror names named r parsed w final halts
    obtain ⟨callee, info, lp, c1, args, found, isFunc, taken, isLp,
        ⟨rp, closing, isRp, rfl⟩ | ⟨notClose, a, argsRead, rfl, cursorEq⟩,
        arity, checked, valueEq⟩ := call_eq_ok parsed
    all_goals
      have found' : ctx'.lookup name.lexeme name.loc = .ok callee :=
        (alike.lookup _ named _).trans found
      have isFunc' : ctx'.table.funcInfo? callee = some info :=
        (alike.funcInfo?_eq named found).trans isFunc
    · have ahead1 := closing.consumed.ahead_of final
      obtain ⟨d1, taken', mirror1⟩ := mirror.takes taken ahead1 (halts_of_append halts)
      obtain ⟨d2, closing', mirror2⟩ := mirror1.takes closing final halts
      obtain ⟨r', run', valueEq', cursorEq'⟩ :=
        call_eq_of_noArgs found' isFunc' taken' isLp closing' isRp arity
      exact ⟨r', run', by rw [valueEq', valueEq], by rw [cursorEq']; exact mirror2.ahead_eq final⟩
    · rw [cursorEq] at final
      obtain ⟨q, nonempty, consumed⟩ := arguments_consumed argsRead
      have ahead1 := consumed.ahead_of final
      obtain ⟨d1, taken', mirror1⟩ := mirror.takes taken ahead1 (halts_of_append halts)
      obtain ⟨a', small2, sameArgs, dAhead2⟩ :=
        argsIH c1 taken.left_lt d1 mirror1 (names.of_takes taken) a argsRead w final halts
      have notClose' : d1.look.kind ≠ .rParen := by
        rw [look_eq_of_mirror ahead1 (mirror1.ahead_eq ahead1) (by simp [nonempty])]
        exact notClose
      have checked' := checkArgs_of_entries (alike.params _ named _ _ _ found isFunc) checked
      rw [← sameArgs] at arity checked'
      obtain ⟨r', run', valueEq', cursorEq'⟩ :=
        call_eq_of_args found' isFunc' taken' isLp notClose' small2 arity checked'
      exact ⟨r', run', by rw [valueEq', valueEq, sameArgs], by rw [cursorEq']; exact dAhead2⟩
  case arguments =>
    intro c exprIH argsIH d mirror names r parsed w final halts
    obtain ⟨e, sep, c2, first, separated, sepKind, ⟨isClose, valueEq, cursorEq⟩ |
        ⟨notClose, rest, restRead, valueEq, cursorEq⟩⟩ := arguments_eq_ok parsed
    · rw [cursorEq] at final
      have aheadE := separated.consumed.ahead_of final
      obtain ⟨e', small1, sameE, dAhead1⟩ :=
        exprIH d mirror names e first _ aheadE fun atEnd => by simp at atEnd
      obtain ⟨d2, separated', mirror2⟩ := Mirror.takes ⟨_, aheadE, dAhead1⟩ separated final halts
      obtain ⟨r', run', valueEq', cursorEq'⟩ := arguments_eq_of_last small1 separated' isClose
      exact ⟨r', run', by rw [valueEq', valueEq, sameE],
        by rw [cursorEq']; exact mirror2.ahead_eq final⟩
    · rw [cursorEq] at final
      obtain ⟨q, nonempty, consumed⟩ := arguments_consumed restRead
      have ahead2 := consumed.ahead_of final
      have aheadE := separated.consumed.ahead_of ahead2
      obtain ⟨e', small1, sameE, dAhead1⟩ :=
        exprIH d mirror names e first _ aheadE fun atEnd => by simp at atEnd
      obtain ⟨d2, separated', mirror2⟩ := Mirror.takes ⟨_, aheadE, dAhead1⟩ separated ahead2
        (halts_of_append halts)
      obtain ⟨q₀, consumedE⟩ := expression_consumed first
      obtain ⟨rest', small3, sameRest, dAhead3⟩ :=
        argsIH e.cursor e.lt c2 separated.left_lt d2 mirror2
          (names.of_consumed (consumedE.trans separated.consumed)) rest restRead w final halts
      obtain ⟨r', run', valueEq', cursorEq'⟩ :=
        arguments_eq_of_more small1 separated' sepKind notClose small3
      exact ⟨r', run', by rw [valueEq', valueEq, sameE, sameRest], by rw [cursorEq']; exact dAhead3⟩

/-- An expression is read from the second stream as from the first, in the same context. -/
theorem expression_carries (mirror : Mirror A B c d) :
    Carries ContinuesAssign A B (expression ctx c) (expression ctx d) :=
  (expression_carries_all (.refl (fun _ => True) ctx)).1 c d mirror (.any A c)

/--
An expression is read from the second stream as from the first, in a context that resolves alike
the names its tokens make the reader look up.
-/
theorem expression_carries_alike (alike : ctx.ResolvesAlike N ctx') (mirror : Mirror A B c d)
    (names : c.NamesBefore N A) :
    Carries ContinuesAssign A B (expression ctx c) (expression ctx' d) :=
  (expression_carries_all alike).1 c d mirror names

end Parse

end ImpFront
