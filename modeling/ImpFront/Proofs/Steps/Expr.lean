import ImpFront.Parse.Program

/-!
# Steps of the expression reader

The reader's rules consume tokens through a cursor, one at a time. This module says once,
for each rule of the expression reader, what a successful run of it consists of: the tokens
it took, the rules it ran on the cursors in between, and the checks that passed. Proofs
about the reader cite these statements instead of unfolding a rule.

A consumed token is a step `Cursor.Takes c t c'`: the lookahead `t` of `c`, which is not the
end of input, is taken, and the next pull fills the lookahead of `c'`. The results a cursor
still holds, up to and including the first end of input, are `Cursor.ahead`; a step takes
the first of them.
-/

namespace ImpFront

/--
The results of a feed's pending list up to and including the first end-of-input token;
after the list, the feed yields the end of input at `last`.
-/
def Feed.untilEof (last : Location) :
    List (Except LexError Token) → List (Except LexError Token)
  | [] => [.ok (Token.eofAt last)]
  | .ok t :: rest => if t.kind = .eof then [.ok t] else .ok t :: untilEof last rest
  | .error e :: rest => .error e :: untilEof last rest

namespace Cursor

/-- The cursor takes its lookahead `t`, not the end of input, and the next pull gives `c'`. -/
def Takes (c : Cursor) (t : Token) (c' : Cursor) : Prop :=
  t = c.look ∧ c.look.kind ≠ .eof ∧ c.feed.pull = (.ok c'.look, c'.feed) ∧
    c'.pulled = c.pulled + 1

/-- The results still to be read, up to and including the first end of input. -/
def ahead (c : Cursor) : List (Except LexError Token) :=
  if c.look.kind = .eof then [.ok c.look] else .ok c.look :: Feed.untilEof c.feed.last c.feed.pending

theorem Takes.kind_ne_eof {c c' : Cursor} {t : Token} (taken : c.Takes t c') :
    t.kind ≠ .eof := by
  rcases taken with ⟨rfl, notEof, -⟩
  exact notEof

/-- A step leaves one token less to be read. -/
theorem Takes.left_lt {c c' : Cursor} {t : Token} (taken : c.Takes t c') : c'.left < c.left := by
  rcases taken with ⟨-, notEof, pulled, -⟩
  exact left_pull_lt c c'.look c'.feed notEof pulled

/-- A step takes the first result still to be read. -/
theorem Takes.ahead_eq {c c' : Cursor} {t : Token} (taken : c.Takes t c') :
    c.ahead = .ok t :: c'.ahead := by
  rcases taken with ⟨rfl, notEof, pulled, -⟩
  rcases c with ⟨look, ⟨pending, last⟩, count⟩
  rcases c' with ⟨look', ⟨pending', last'⟩, count'⟩
  simp only [ahead, notEof, if_false]
  cases pending with
  | nil =>
      simp only [Feed.pull_nil, Prod.mk.injEq, Except.ok.injEq, Feed.mk.injEq] at pulled
      rcases pulled with ⟨rfl, rfl, rfl⟩
      simp [Feed.untilEof]
  | cons first rest =>
      simp only [Feed.pull_cons, Prod.mk.injEq, Feed.mk.injEq] at pulled
      rcases pulled with ⟨rfl, rfl, rfl⟩
      by_cases endHere : look'.kind = .eof <;> simp [Feed.untilEof, endHere]

theorem takes_of_advance {c : Cursor} {notEof : c.look.kind ≠ .eof} {r : Read c Token}
    (advanced : c.advance notEof = .ok r) : c.Takes r.value r.cursor := by
  unfold advance at advanced
  split at advanced
  · rename_i t f pulled
    cases advanced
    exact ⟨rfl, notEof, pulled, rfl⟩
  · cases advanced

/-- An expected token was the lookahead, of one of the expected kinds, and was taken. -/
theorem takes_of_expect {c : Cursor} {kinds : List TokenKind} {r : Read c Token}
    (expected : c.expect kinds = .ok r) : r.value.kind ∈ kinds ∧ c.Takes r.value r.cursor := by
  unfold expect at expected
  split at expected
  · rename_i expectedKind
    have taken := takes_of_advance expected
    refine ⟨?_, taken⟩
    rw [taken.1]
    exact expectedKind.1
  · cases expected

@[simp]
theorem lift_eq_ok {α : Type} {c : Cursor} {x : Except ParseError α} {a : α} :
    c.lift x = .ok a ↔ x = .ok a := by
  cases x <;> simp [lift]

end Cursor

theorem Except.ok_of_bind_eq_ok {ε α β : Type} {x : Except ε α} {f : α → Except ε β} {b : β}
    (h : (x >>= f) = .ok b) : ∃ a, x = .ok a ∧ f a = .ok b :=
  (Except.bind_eq_ok_iff x f b).1 h

/-- A run that succeeds has a result, and whatever holds of every result holds of it. -/
theorem Except.exists_ok_and {ε α : Type} {x : Except ε α} {P : α → Prop} (ok : x.isOk = true)
    (holds : ∀ a, x = .ok a → P a) : ∃ a, x = .ok a ∧ P a := by
  cases x with
  | error e => cases ok
  | ok a => exact ⟨a, rfl, holds a rfl⟩

/-- A run whose result passes a decidable check has a result that satisfies it. -/
theorem Except.exists_ok_of_check {ε α : Type} {x : Except ε α} {P Q : α → Prop}
    [DecidablePred P] (checked : (x.toOption.map fun a => decide (P a)) = some true)
    (holds : ∀ a, x = .ok a → P a → Q a) : ∃ a, x = .ok a ∧ P a ∧ Q a := by
  cases x with
  | error e => cases checked
  | ok a =>
      have passed : P a := of_decide_eq_true (Option.some.inj checked)
      exact ⟨a, rfl, passed, holds a rfl passed⟩

/-- A run whose result, once computed, leads to a further result has that result. -/
theorem Except.ok_of_toOption_bind {ε α β : Type} {x : Except ε α} {f : α → Option β} {b : β}
    (h : x.toOption.bind f = some b) : ∃ a, x = .ok a ∧ f a = some b := by
  cases x with
  | error e => cases h
  | ok a => exact ⟨a, rfl, h⟩

/-- The name of the type of a literal value. -/
def Literal.typeName : Literal → String
  | .int _ => "int"
  | .float _ => "float"
  | .bool _ => "bool"
  | .str _ => "string"

namespace Parse

/--
The value of a literal token: an integer or a float as its lexeme reads, a boolean as
whether its lexeme is `true`, a string as its lexeme; none for a number that does not read
and for every other kind of token.
-/
def literalOf? (t : Token) : Option Literal :=
  match t.kind with
  | .intLit => (Numeral.readInt? t.lexeme).map .int
  | .floatLit => (Numeral.readFloat? t.lexeme).map .float
  | .boolLit => some (.bool (t.lexeme == "true"))
  | .stringLit => some (.str t.lexeme)
  | _ => none

section

variable {ctx : Context} {c : Cursor}

/-- An assignment is a disjunction, then possibly `=` and an assignment to the right. -/
theorem expression_eq_ok {r : Read c Expr} (parsed : expression ctx c = .ok r) :
    ∃ lhs : Read c Expr, tier 5 ctx c = .ok lhs ∧
      ((lhs.cursor.look.kind ≠ .eq ∧ r.value = lhs.value ∧ r.cursor = lhs.cursor) ∨
        ∃ (op : Token) (c2 : Cursor) (rhs : Read c2 Expr),
          lhs.cursor.Takes op c2 ∧ op.kind = .eq ∧ lhs.value.isVar ∧
          expression ctx c2 = .ok rhs ∧
          ctx.binary .assign lhs.value rhs.value op.loc = .ok r.value ∧
          r.cursor = rhs.cursor) := by
  rw [expression] at parsed
  rcases Except.ok_of_bind_eq_ok parsed with ⟨⟨lhs, c1, h1⟩, lhsRead, parsed⟩
  refine ⟨_, lhsRead, ?_⟩
  dsimp only at parsed
  split at parsed
  · rename_i isEq
    rcases Except.ok_of_bind_eq_ok parsed with ⟨⟨op, c2, h2⟩, advanced, parsed⟩
    have taken : c1.Takes op c2 := Cursor.takes_of_advance advanced
    dsimp only at parsed
    split at parsed
    · rename_i isVar
      rcases Except.ok_of_bind_eq_ok parsed with ⟨⟨rhs, c3, h3⟩, rhsRead, parsed⟩
      rcases Except.ok_of_bind_eq_ok parsed with ⟨e, typed, parsed⟩
      cases parsed
      refine Or.inr ⟨op, c2, _, taken, ?_, isVar, rhsRead, Cursor.lift_eq_ok.1 typed, rfl⟩
      rw [taken.1]
      exact isEq
    · cases parsed
  · cases parsed
    exact Or.inl ⟨‹_›, rfl, rfl⟩

/-- No tier makes an assignment: `=` is read by the assignment rule alone. -/
theorem tierOp?_ne_assign {n : Nat} {k : TokenKind} {op : BinOp} (made : tierOp? n k = some op) :
    op ≠ .assign := by
  intro isAssign
  subst isAssign
  unfold tierOp? at made
  split at made <;> cases made

theorem tier_zero : tier 0 ctx c = primary ctx c := by
  rw [tier]

/-- A tier above the primaries is an operand of the tier below and the operators after it. -/
theorem tier_succ_eq_ok {k : Nat} {r : Read c Expr} (parsed : tier (k + 1) ctx c = .ok r) :
    ∃ lhs : Read c Expr, tier k ctx c = .ok lhs ∧
      ∃ rest, tierRest (k + 1) lhs.value ctx lhs.cursor = .ok rest ∧
        r.value = rest.1 ∧ r.cursor = rest.2.1 := by
  rw [tier] at parsed
  rcases Except.ok_of_bind_eq_ok parsed with ⟨⟨lhs, c1, h1⟩, lhsRead, parsed⟩
  rcases Except.ok_of_bind_eq_ok parsed with ⟨⟨e, c2, h2⟩, restRead, parsed⟩
  cases parsed
  exact ⟨_, lhsRead, _, restRead, rfl, rfl⟩

/--
The operators of a tier after its first operand: none when the lookahead is no operator of
the tier, otherwise the operator, an operand of the tier below, and the rest, the operation
typed and grouped to the left.
-/
theorem tierRest_eq_ok {n : Nat} {lhs : Expr} {res : Expr × { c' : Cursor // c'.left ≤ c.left }}
    (parsed : tierRest n lhs ctx c = .ok res) :
    (tierOp? n c.look.kind = none ∧ res.1 = lhs ∧ res.2.1 = c) ∨
      ∃ (op : BinOp) (opTok : Token) (c1 : Cursor) (rhs : Read c1 Expr) (e : Expr)
        (rest : Expr × { c' : Cursor // c'.left ≤ rhs.cursor.left }),
        tierOp? n c.look.kind = some op ∧ c.Takes opTok c1 ∧
        tier (n - 1) ctx c1 = .ok rhs ∧ ctx.binary op lhs rhs.value opTok.loc = .ok e ∧
        tierRest n e ctx rhs.cursor = .ok rest ∧ res.1 = rest.1 ∧ res.2.1 = rest.2.1 := by
  rw [tierRest] at parsed
  split at parsed
  · rename_i noOp
    cases parsed
    exact Or.inl ⟨noOp, rfl, rfl⟩
  · rename_i op someOp
    rcases Except.ok_of_bind_eq_ok parsed with ⟨⟨opTok, c1, h1⟩, advanced, parsed⟩
    rcases Except.ok_of_bind_eq_ok parsed with ⟨⟨rhs, c2, h2⟩, rhsRead, parsed⟩
    rcases Except.ok_of_bind_eq_ok parsed with ⟨e, typed, parsed⟩
    rcases Except.ok_of_bind_eq_ok parsed with ⟨⟨e', c3, h3⟩, restRead, parsed⟩
    cases parsed
    exact Or.inr ⟨op, opTok, c1, _, e, _, someOp, Cursor.takes_of_advance advanced, rhsRead,
      Cursor.lift_eq_ok.1 typed, restRead, rfl, rfl⟩

/-- A tier's operators end at a lookahead that is none of them. -/
theorem tierRest_eq_of_none {n : Nat} {lhs : Expr} (noOp : tierOp? n c.look.kind = none) :
    tierRest n lhs ctx c = .ok (lhs, ⟨c, Nat.le_refl _⟩) := by
  rw [tierRest]
  split
  · rfl
  · rename_i op someOp
    rw [noOp] at someOp
    cases someOp

/--
A literal token is taken and read into its value, typed by the entry that its type's name
resolves to here.
-/
theorem primary_eq_ok_of_literal {r : Read c Expr} (parsed : primary ctx c = .ok r)
    (literal : c.look.kind ∈ [.intLit, .floatLit, .boolLit, .stringLit]) :
    ∃ (tok : Token) (value : Literal) (ty : EntryId), c.Takes tok r.cursor ∧
      literalOf? tok = some value ∧ ctx.lookupType value.typeName tok.loc = .ok ty ∧
      r.value = .lit value ty tok.loc := by
  rw [primary] at parsed
  split at parsed
  · rename_i isInt
    rcases Except.ok_of_bind_eq_ok parsed with ⟨⟨tok, c1, h1⟩, advanced, parsed⟩
    have taken : c.Takes tok c1 := Cursor.takes_of_advance advanced
    dsimp only at parsed
    split at parsed
    · cases parsed
    · rename_i v readOk
      rcases Except.ok_of_bind_eq_ok parsed with ⟨ty, typed, parsed⟩
      cases parsed
      refine ⟨tok, .int v, ty, taken, ?_, Cursor.lift_eq_ok.1 typed, rfl⟩
      have tokKind : tok.kind = .intLit := by rw [taken.1]; exact isInt
      simp [literalOf?, tokKind, readOk]
  · rename_i isFloat
    rcases Except.ok_of_bind_eq_ok parsed with ⟨⟨tok, c1, h1⟩, advanced, parsed⟩
    have taken : c.Takes tok c1 := Cursor.takes_of_advance advanced
    dsimp only at parsed
    split at parsed
    · cases parsed
    · rename_i x readOk
      rcases Except.ok_of_bind_eq_ok parsed with ⟨ty, typed, parsed⟩
      cases parsed
      refine ⟨tok, .float x, ty, taken, ?_, Cursor.lift_eq_ok.1 typed, rfl⟩
      have tokKind : tok.kind = .floatLit := by rw [taken.1]; exact isFloat
      simp [literalOf?, tokKind, readOk]
  · rename_i isBool
    rcases Except.ok_of_bind_eq_ok parsed with ⟨⟨tok, c1, h1⟩, advanced, parsed⟩
    have taken : c.Takes tok c1 := Cursor.takes_of_advance advanced
    rcases Except.ok_of_bind_eq_ok parsed with ⟨ty, typed, parsed⟩
    cases parsed
    refine ⟨tok, _, ty, taken, ?_, Cursor.lift_eq_ok.1 typed, rfl⟩
    have tokKind : tok.kind = .boolLit := by rw [taken.1]; exact isBool
    simp [literalOf?, tokKind]
  · rename_i isString
    rcases Except.ok_of_bind_eq_ok parsed with ⟨⟨tok, c1, h1⟩, advanced, parsed⟩
    have taken : c.Takes tok c1 := Cursor.takes_of_advance advanced
    rcases Except.ok_of_bind_eq_ok parsed with ⟨ty, typed, parsed⟩
    cases parsed
    refine ⟨tok, _, ty, taken, ?_, Cursor.lift_eq_ok.1 typed, rfl⟩
    have tokKind : tok.kind = .stringLit := by rw [taken.1]; exact isString
    simp [literalOf?, tokKind]
  all_goals first
    | cases parsed
    | rename_i kindEq; rw [kindEq] at literal; simp at literal

/-- A primary expression starts with a literal, a name or an opening parenthesis. -/
theorem primary_start {r : Read c Expr} (parsed : primary ctx c = .ok r) :
    c.look.kind ∈ TokenKind.exprStart := by
  rw [primary] at parsed
  split at parsed
  all_goals first
    | (rename_i kindEq; rw [kindEq]; decide)
    | cases parsed

/-- Every tier starts with a token that starts an expression. -/
theorem tier_start : ∀ {n : Nat} {c : Cursor} {r : Read c Expr}, tier n ctx c = .ok r →
    c.look.kind ∈ TokenKind.exprStart
  | 0, c, r, parsed => by
      rw [tier_zero] at parsed
      exact primary_start parsed
  | k + 1, c, r, parsed => by
      obtain ⟨lhs, lhsRead, -⟩ := tier_succ_eq_ok parsed
      exact tier_start lhsRead

theorem expression_start {r : Read c Expr} (parsed : expression ctx c = .ok r) :
    c.look.kind ∈ TokenKind.exprStart := by
  obtain ⟨lhs, lhsRead, -⟩ := expression_eq_ok parsed
  exact tier_start lhsRead

/--
A name is taken; followed by an opening parenthesis it is a call, otherwise a read of the
variable it resolves to here.
-/
theorem primary_eq_ok_of_ident {r : Read c Expr} (parsed : primary ctx c = .ok r)
    (isIdent : c.look.kind = .ident) :
    ∃ (name : Token) (c1 : Cursor), c.Takes name c1 ∧
      ((c1.look.kind = .lParen ∧ ∃ e : Read c1 Expr, call name ctx c1 = .ok e ∧
          r.value = e.value ∧ r.cursor = e.cursor) ∨
        (c1.look.kind ≠ .lParen ∧ ∃ (id : EntryId) (v : VarInfo),
          ctx.lookup name.lexeme name.loc = .ok id ∧ ctx.table.entry id = .var v ∧
          r.value = .var id v.ty name.loc ∧ r.cursor = c1)) := by
  rw [primary] at parsed
  split at parsed
  case h_5 =>
    rcases Except.ok_of_bind_eq_ok parsed with ⟨⟨name, c1, h1⟩, advanced, parsed⟩
    have taken : c.Takes name c1 := Cursor.takes_of_advance advanced
    refine ⟨name, c1, taken, ?_⟩
    dsimp only at parsed
    split at parsed
    · rename_i isCall
      rcases Except.ok_of_bind_eq_ok parsed with ⟨⟨e, c2, h2⟩, called, parsed⟩
      cases parsed
      exact Or.inl ⟨isCall, _, called, rfl, rfl⟩
    · rename_i notCall
      rcases Except.ok_of_bind_eq_ok parsed with ⟨id, found, parsed⟩
      split at parsed
      · rename_i v isVar
        cases parsed
        exact Or.inr ⟨notCall, id, v, Cursor.lift_eq_ok.1 found, isVar, rfl, rfl⟩
      · cases parsed
  all_goals first
    | cases parsed
    | rename_i kindEq; rw [isIdent] at kindEq; cases kindEq

/-- An opening parenthesis, an assignment, and the closing parenthesis, which leave no node. -/
theorem primary_eq_ok_of_lParen {r : Read c Expr} (parsed : primary ctx c = .ok r)
    (isParen : c.look.kind = .lParen) :
    ∃ (openTok : Token) (c1 : Cursor) (inner : Read c1 Expr) (closeTok : Token),
      c.Takes openTok c1 ∧ expression ctx c1 = .ok inner ∧
      inner.cursor.Takes closeTok r.cursor ∧ closeTok.kind = .rParen ∧ r.value = inner.value := by
  rw [primary] at parsed
  split at parsed
  case h_6 =>
    rcases Except.ok_of_bind_eq_ok parsed with ⟨⟨openTok, c1, h1⟩, advanced, parsed⟩
    rcases Except.ok_of_bind_eq_ok parsed with ⟨⟨inner, c2, h2⟩, innerRead, parsed⟩
    rcases Except.ok_of_bind_eq_ok parsed with ⟨⟨closeTok, c3, h3⟩, closed, parsed⟩
    cases parsed
    have closing := Cursor.takes_of_expect closed
    exact ⟨openTok, c1, _, closeTok, Cursor.takes_of_advance advanced, innerRead, closing.2,
      List.mem_singleton.1 closing.1, rfl⟩
  all_goals first
    | cases parsed
    | rename_i kindEq; rw [isParen] at kindEq; cases kindEq

/--
A call: the name resolves here to a function, the opening parenthesis is taken, then the
arguments up to the closing one; there are as many as the function has parameters, and each
has its parameter's type.
-/
theorem call_eq_ok {name : Token} {r : Read c Expr} (parsed : call name ctx c = .ok r) :
    ∃ (callee : EntryId) (info : FuncInfo) (lp : Token) (c1 : Cursor) (args : List Expr),
      ctx.lookup name.lexeme name.loc = .ok callee ∧ ctx.table.funcInfo? callee = some info ∧
      c.Takes lp c1 ∧ lp.kind = .lParen ∧
      ((∃ rp : Token, c1.Takes rp r.cursor ∧ rp.kind = .rParen ∧ args = []) ∨
        (c1.look.kind ≠ .rParen ∧ ∃ a : Read c1 (List Expr), arguments ctx c1 = .ok a ∧
          args = a.value ∧ r.cursor = a.cursor)) ∧
      args.length = info.params.length ∧ checkArgs ctx args info.params = .ok () ∧
      r.value = .call callee args info.returnType name.loc := by
  rw [call] at parsed
  rcases Except.ok_of_bind_eq_ok parsed with ⟨callee, found, parsed⟩
  split at parsed
  · cases parsed
  · rename_i info isFunc
    rcases Except.ok_of_bind_eq_ok parsed with ⟨⟨lp, c1, h1⟩, opened, parsed⟩
    have opening := Cursor.takes_of_expect opened
    rcases Except.ok_of_bind_eq_ok parsed with ⟨⟨args, c2, h2⟩, argsRead, parsed⟩
    dsimp only at parsed
    split at parsed
    · cases parsed
    · rename_i arity
      rcases Except.ok_of_bind_eq_ok parsed with ⟨u, checked, parsed⟩
      cases parsed
      refine ⟨callee, info, lp, c1, args, Cursor.lift_eq_ok.1 found, isFunc, opening.2,
        List.mem_singleton.1 opening.1, ?_, Decidable.of_not_not arity, Cursor.lift_eq_ok.1 checked, rfl⟩
      split at argsRead
      · rename_i isClose
        rcases Except.ok_of_bind_eq_ok argsRead with ⟨⟨rp, c3, h3⟩, advanced, argsRead⟩
        have closing : c1.Takes rp c3 := Cursor.takes_of_advance advanced
        cases argsRead
        refine Or.inl ⟨rp, closing, ?_, rfl⟩
        rw [closing.1]
        exact isClose
      · rename_i notClose
        exact Or.inr ⟨notClose, _, argsRead, rfl, rfl⟩

/--
Arguments: an assignment and a separator, a comma, a semicolon or the closing parenthesis;
after a comma or a semicolon, more arguments.
-/
theorem arguments_eq_ok {r : Read c (List Expr)} (parsed : arguments ctx c = .ok r) :
    ∃ (e : Read c Expr) (sep : Token) (c2 : Cursor), expression ctx c = .ok e ∧
      e.cursor.Takes sep c2 ∧ sep.kind ∈ [.comma, .semicolon, .rParen] ∧
      ((sep.kind = .rParen ∧ r.value = [e.value] ∧ r.cursor = c2) ∨
        (sep.kind ≠ .rParen ∧ ∃ rest : Read c2 (List Expr), arguments ctx c2 = .ok rest ∧
          r.value = e.value :: rest.value ∧ r.cursor = rest.cursor)) := by
  rw [arguments] at parsed
  rcases Except.ok_of_bind_eq_ok parsed with ⟨⟨e, c1, h1⟩, first, parsed⟩
  rcases Except.ok_of_bind_eq_ok parsed with ⟨⟨sep, c2, h2⟩, separated, parsed⟩
  have separator := Cursor.takes_of_expect separated
  refine ⟨_, sep, c2, first, separator.2, separator.1, ?_⟩
  dsimp only at parsed
  split at parsed
  · rename_i isClose
    cases parsed
    exact Or.inl ⟨isClose, rfl, rfl⟩
  · rename_i notClose
    rcases Except.ok_of_bind_eq_ok parsed with ⟨⟨rest, c3, h3⟩, restRead, parsed⟩
    cases parsed
    exact Or.inr ⟨notClose, _, restRead, rfl, rfl⟩

end

end Parse

end ImpFront
