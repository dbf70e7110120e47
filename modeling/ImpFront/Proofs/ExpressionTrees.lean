import ImpFront.Proofs.Grammar.Expressions
import ImpFront.Proofs.Steps.Failure
import ImpFront.Proofs.TypeSoundness
import ImpFront.Syntax.Printer

/-!
# Expression trees are derivation trees

The expression reader builds its trees by precedence, one function per level and a loop for
the operators of a level. This module shows that it reads the grammar's expressions and
nothing else:

* a successful reading took a word of the grammar's assignments, the tree it returns is the
  tree of that word's only derivation, and the token after the word continues no assignment
  (`Parse.expression_derivation`);
* a reading that stops at an unexpected token stops where the tokens taken still start a
  word of the rule read and that token does not continue any (`Parse.expression_blocked_all`).

Both follow the reader's own mutual recursion, and each case of it is one of the rule lemmas
of `Grammar.Munches` and `Grammar.Blocked`. Positions in the input are what a cursor still
has to read (`Cursor.ahead`): `Cursor.Consumed c u c'` says a reading from `c` took the tokens
`u` and stopped at `c'`, and `Cursor.FailsOn c f p t` that it took `p` and failed at `t`.
-/

namespace ImpFront

open Grammar

namespace Cursor

variable {c c' c₁ c₂ : Cursor} {u u₁ u₂ p : List Token} {t t₀ : Token} {f : Failure}

/-- A reading from `c` takes the tokens `u` and stops at `c'`. -/
def Consumed (c : Cursor) (u : List Token) (c' : Cursor) : Prop :=
  c.ahead = u.map .ok ++ c'.ahead

/--
A reading from `c` fails with `f` at the token `t`, after taking the tokens `p`: the failure
is an unexpected token, and it is `t`.
-/
def FailsOn (c : Cursor) (f : Failure) (p : List Token) (t : Token) : Prop :=
  (∃ rest, c.ahead = p.map .ok ++ .ok t :: rest) ∧
    ∃ expected, f.error = .unexpectedToken t.kind t.lexeme expected t.loc

/-- What is still to be read starts with the lookahead. -/
theorem ahead_eq_cons (c : Cursor) : ∃ rest, c.ahead = .ok c.look :: rest := by
  unfold ahead
  split
  · exact ⟨[], rfl⟩
  · exact ⟨_, rfl⟩

theorem look_eq_of_ahead {rest : List (Except LexError Token)}
    (ahead : c.ahead = .ok t :: rest) : c.look = t := by
  obtain ⟨rest', same⟩ := c.ahead_eq_cons
  rw [same] at ahead
  exact Except.ok.inj (List.cons.inj ahead).1

theorem Consumed.refl (c : Cursor) : c.Consumed [] c := rfl

theorem Takes.consumed (taken : c.Takes t c') : c.Consumed [t] c' := taken.ahead_eq

theorem Consumed.trans (first : c.Consumed u₁ c₁) (second : c₁.Consumed u₂ c₂) :
    c.Consumed (u₁ ++ u₂) c₂ := by
  unfold Consumed at *
  rw [first, second, List.map_append, List.append_assoc]

theorem Takes.cons (taken : c.Takes t c₁) (rest : c₁.Consumed u c₂) : c.Consumed (t :: u) c₂ :=
  taken.consumed.trans rest

/-- The tokens taken, then what the cursor after them holds, start with the lookahead. -/
theorem Consumed.startsLike (consumed : c.Consumed u c') {x : List Token}
    (starts : StartsLike c'.look x) : StartsLike c.look (u ++ x) := by
  cases u with
  | nil =>
      obtain ⟨rest, ahead⟩ := c'.ahead_eq_cons
      have same : c.look = c'.look := look_eq_of_ahead (by rw [consumed]; exact ahead)
      rw [same]
      exact starts
  | cons t₁ u =>
      rw [look_eq_of_ahead consumed]
      simp

theorem Refuses.failsOn {kinds : List TokenKind} (refused : c.Refuses kinds f) :
    c.FailsOn f [] c.look := by
  obtain ⟨-, rfl⟩ := refused
  obtain ⟨rest, ahead⟩ := c.ahead_eq_cons
  exact ⟨⟨rest, ahead⟩, kinds, rfl⟩

theorem Consumed.failsOn (consumed : c.Consumed u c') (fails : c'.FailsOn f p t) :
    c.FailsOn f (u ++ p) t := by
  obtain ⟨⟨rest, ahead⟩, error⟩ := fails
  refine ⟨⟨rest, ?_⟩, error⟩
  rw [consumed, ahead, List.map_append, List.append_assoc]

theorem Takes.failsOn (taken : c.Takes t₀ c') (fails : c'.FailsOn f p t) :
    c.FailsOn f (t₀ :: p) t :=
  taken.consumed.failsOn fails

/-- The tokens taken before a failure, and the token it fails at, start with the lookahead. -/
theorem FailsOn.startsLike (fails : c.FailsOn f p t) (s : List Token) :
    StartsLike c.look (p ++ t :: s) := by
  obtain ⟨⟨rest, ahead⟩, -⟩ := fails
  cases p with
  | nil =>
      rw [look_eq_of_ahead ahead]
      simp
  | cons t₁ p =>
      rw [look_eq_of_ahead ahead]
      simp

end Cursor

/-- A typed operation has the tree of the operation on its operands' trees. -/
theorem Context.binary_ast {ctx : Context} {op : BinOp} {lhs rhs e : Expr} {loc : Location}
    (typed : ctx.binary op lhs rhs loc = .ok e) : e.ast = .binary op lhs.ast rhs.ast loc := by
  obtain ⟨ty, rfl, -⟩ := Context.binary_eq_ok typed
  rfl

namespace Parse

/-- The reader's operators of a tier are the grammar's operators of that level. -/
theorem tierOp?_eq_some_iff {n : Nat} {k : TokenKind} {op : BinOp} :
    tierOp? n k = some op ↔ (k, op) ∈ levelOps n := by
  constructor
  · intro made
    unfold tierOp? at made
    split at made <;> first | (cases made; simp [levelOps]) | cases made
  · intro listed
    rcases n with _ | _ | _ | _ | _ | _ | n <;> simp [levelOps] at listed <;> grind [tierOp?]

variable {ctx : Context}

/-- A literal token is a primary expression by itself, whatever comes after it. -/
theorem primary_munches_of_literal {c : Cursor} {r : Read c Expr} (parsed : primary ctx c = .ok r)
    (literal : c.look.kind ∈ literalKinds) :
    ∃ u, c.Consumed u r.cursor ∧ Munches Primary (Continues 0) u r.cursor.look r.value.ast := by
  rcases primary_eq_ok_of_literal parsed literal with ⟨tok, value, ty, taken, -, -, valueEq⟩
  refine ⟨[tok], taken.consumed, ?_⟩
  rw [valueEq]
  exact Munches.primary_lit (taken.1 ▸ literal)

/--
Every expression rule of the reader reads a longest derivation of its rule of the grammar, and
the tree of that derivation is the tree of the expression it returns.
-/
theorem expression_munches_all :
    (∀ c (r : Read c Expr), expression ctx c = .ok r →
      ∃ u, c.Consumed u r.cursor ∧ Munches Assign ContinuesAssign u r.cursor.look r.value.ast) ∧
    (∀ n c (r : Read c Expr), tier n ctx c = .ok r →
      ∃ u, c.Consumed u r.cursor ∧ Munches (Level n) (Continues n) u r.cursor.look r.value.ast) ∧
    (∀ n lhs c (res : Expr × { c' : Cursor // c'.left ≤ c.left }), tierRest n lhs ctx c = .ok res →
      ∃ u, c.Consumed u res.2.1 ∧
        Munches (Tail n lhs.ast) (Continues n) u res.2.1.look res.1.ast) ∧
    (∀ c (r : Read c Expr), primary ctx c = .ok r →
      ∃ u, c.Consumed u r.cursor ∧ Munches Primary (Continues 0) u r.cursor.look r.value.ast) ∧
    (∀ name c (r : Read c Expr), call name ctx c = .ok r → name.kind = .ident →
      ∃ u, c.Consumed u r.cursor ∧
        Munches Primary (Continues 0) (name :: u) r.cursor.look r.value.ast) ∧
    (∀ c (r : Read c (List Expr)), arguments ctx c = .ok r →
      ∃ u, c.Consumed u r.cursor ∧
        Munches ArgsFrom (Continues 0) u r.cursor.look (Expr.astList r.value)) := by
  refine expression.mutual_induct _ _ _ _ _ _ ?assignment ?tierZero ?tierSucc ?restNone
    ?restSome ?intLit ?floatLit ?boolLit ?stringLit ?ident ?paren ?other ?call ?arguments
  case assignment =>
    intro c tierIH exprIH r parsed
    rcases expression_eq_ok parsed with ⟨lhs, lhsRead, ⟨notEq, valueEq, cursorEq⟩ | assigned⟩
    · obtain ⟨u, consumed, munches⟩ := tierIH lhs lhsRead
      rw [valueEq, cursorEq]
      exact ⟨u, consumed, munches.assign_plain notEq⟩
    · rcases assigned with ⟨op, c2, rhs, taken, isEq, -, rhsRead, typed, cursorEq⟩
      obtain ⟨u₁, lhsConsumed, lhsMunches⟩ := tierIH lhs lhsRead
      obtain ⟨u₂, rhsConsumed, rhsMunches⟩ :=
        exprIH lhs.cursor lhs.lt c2 taken.left_lt rhs rhsRead
      rw [taken.1] at isEq
      rw [Context.binary_ast typed, cursorEq, taken.1]
      exact ⟨u₁ ++ lhs.cursor.look :: u₂, lhsConsumed.trans (taken.1 ▸ taken.cons rhsConsumed),
        lhsMunches.assign isEq rhsMunches⟩
  case tierZero =>
    intro c primaryIH r parsed
    rw [tier_zero] at parsed
    obtain ⟨u, consumed, munches⟩ := primaryIH r parsed
    exact ⟨u, consumed, munches.level_zero⟩
  case tierSucc =>
    intro c k tierIH restIH r parsed
    rcases tier_succ_eq_ok parsed with ⟨lhs, lhsRead, rest, restRead, valueEq, cursorEq⟩
    obtain ⟨u₁, lhsConsumed, lhsMunches⟩ := tierIH lhs lhsRead
    obtain ⟨u₂, restConsumed, restMunches⟩ := restIH lhs.value lhs.cursor lhs.lt rest restRead
    rw [valueEq, cursorEq]
    exact ⟨u₁ ++ u₂, lhsConsumed.trans restConsumed,
      lhsMunches.level_succ restMunches fun _ starts => restConsumed.startsLike starts⟩
  case restNone =>
    intro n lhs c noOp res parsed
    rcases tierRest_eq_ok parsed with ⟨-, valueEq, cursorEq⟩ | ⟨op, -, -, -, -, -, someOp, -⟩
    · rw [valueEq, cursorEq]
      refine ⟨[], Cursor.Consumed.refl c, Munches.tail_done fun op listed => ?_⟩
      rw [← tierOp?_eq_some_iff, noOp] at listed
      cases listed
    · rw [noOp] at someOp
      cases someOp
  case restSome =>
    intro n lhs c op someOp tierIH restIH res parsed
    rcases tierRest_eq_ok parsed with ⟨noOp, -, -⟩ | stepped
    · rw [noOp] at someOp
      cases someOp
    · rcases stepped with ⟨op', opTok, c1, rhs, e, rest, someOp', taken, rhsRead, typed, restRead,
        valueEq, cursorEq⟩
      have listed : (opTok.kind, op') ∈ levelOps n := by
        rw [taken.1]
        exact tierOp?_eq_some_iff.1 someOp'
      obtain ⟨u₁, rhsConsumed, rhsMunches⟩ := tierIH c1 taken.left_lt rhs rhsRead
      obtain ⟨u₂, restConsumed, restMunches⟩ :=
        restIH c1 taken.left_lt rhs.cursor rhs.lt e rest restRead
      rw [Context.binary_ast typed] at restMunches
      rw [valueEq, cursorEq]
      exact ⟨opTok :: (u₁ ++ u₂), taken.cons (rhsConsumed.trans restConsumed),
        Munches.tail_more listed rhsMunches restMunches fun _ starts =>
          restConsumed.startsLike starts⟩
  case intLit =>
    intro c isInt r parsed
    exact primary_munches_of_literal parsed (by simp [isInt, literalKinds])
  case floatLit =>
    intro c isFloat r parsed
    exact primary_munches_of_literal parsed (by simp [isFloat, literalKinds])
  case boolLit =>
    intro c isBool r parsed
    exact primary_munches_of_literal parsed (by simp [isBool, literalKinds])
  case stringLit =>
    intro c isString r parsed
    exact primary_munches_of_literal parsed (by simp [isString, literalKinds])
  case ident =>
    intro c isIdent callIH r parsed
    rcases primary_eq_ok_of_ident parsed isIdent with ⟨name, c1, taken, called | read⟩
    · rcases called with ⟨-, e, calledRead, valueEq, cursorEq⟩
      obtain ⟨u, consumed, munches⟩ :=
        callIH name c1 taken.left_lt e calledRead (taken.1 ▸ isIdent)
      rw [valueEq, cursorEq]
      exact ⟨name :: u, taken.cons consumed, munches⟩
    · rcases read with ⟨notCall, id, v, -, -, valueEq, cursorEq⟩
      rw [valueEq, cursorEq]
      exact ⟨[name], taken.consumed, Munches.primary_var (taken.1 ▸ isIdent) notCall⟩
  case paren =>
    intro c isParen exprIH r parsed
    rcases primary_eq_ok_of_lParen parsed isParen with ⟨openTok, c1, inner, closeTok, taken,
      innerRead, closing, isClose, valueEq⟩
    obtain ⟨u, consumed, munches⟩ := exprIH c1 taken.left_lt inner innerRead
    rw [← closing.1] at munches
    rw [valueEq]
    exact ⟨openTok :: (u ++ [closeTok]), taken.cons (consumed.trans closing.consumed),
      Munches.primary_paren (taken.1 ▸ isParen) munches isClose⟩
  case other =>
    intro c notInt notFloat notBool notString notIdent notParen r parsed
    have start := primary_start parsed
    simp only [TokenKind.exprStart, List.mem_cons, List.not_mem_nil, or_false] at start
    rcases start with kindEq | kindEq | kindEq | kindEq | kindEq | kindEq
    · exact absurd kindEq notInt
    · exact absurd kindEq notFloat
    · exact absurd kindEq notBool
    · exact absurd kindEq notString
    · exact absurd kindEq notIdent
    · exact absurd kindEq notParen
  case call =>
    intro name c argsIH r parsed isName
    rcases call_eq_ok parsed with ⟨callee, info, lp, c1, args, -, -, taken, isOpen, argsRead, -, -,
      valueEq⟩
    rw [valueEq]
    rcases argsRead with ⟨rp, closing, isClose, rfl⟩ | ⟨-, a, argumentsRead, rfl, cursorEq⟩
    · exact ⟨[lp, rp], taken.cons closing.consumed,
        Munches.primary_call isName isOpen (Munches.callArgs_none isClose)⟩
    · obtain ⟨u, consumed, munches⟩ := argsIH c1 taken.left_lt a argumentsRead
      rw [cursorEq]
      exact ⟨lp :: u, taken.cons consumed, Munches.primary_call isName isOpen munches.callArgs_some⟩
  case arguments =>
    intro c exprIH argsIH r parsed
    rcases arguments_eq_ok parsed with ⟨e, sep, c2, first, taken, isSep, closed | more⟩
    · rcases closed with ⟨isClose, valueEq, cursorEq⟩
      obtain ⟨u, consumed, munches⟩ := exprIH e first
      rw [← taken.1] at munches
      rw [valueEq, cursorEq]
      exact ⟨u ++ [sep], consumed.trans taken.consumed,
        munches.argsFrom (Munches.argsRest_close isClose) fun _ _ => by simp⟩
    · rcases more with ⟨notClose, rest, restRead, valueEq, cursorEq⟩
      have isSep' : sep.kind = .comma ∨ sep.kind = .semicolon := by
        simp only [List.mem_cons, List.not_mem_nil, or_false] at isSep
        rcases isSep with isKind | isKind | isKind
        · exact Or.inl isKind
        · exact Or.inr isKind
        · exact absurd isKind notClose
      obtain ⟨u₁, firstConsumed, firstMunches⟩ := exprIH e first
      obtain ⟨u₂, restConsumed, restMunches⟩ := argsIH e.cursor e.lt c2 taken.left_lt rest restRead
      rw [← taken.1] at firstMunches
      rw [valueEq, cursorEq]
      exact ⟨u₁ ++ sep :: u₂, firstConsumed.trans (taken.cons restConsumed),
        firstMunches.argsFrom (Munches.argsRest_more isSep' restMunches) fun _ _ => by simp⟩

theorem expression_munches {c : Cursor} {r : Read c Expr} (parsed : expression ctx c = .ok r) :
    ∃ u, c.Consumed u r.cursor ∧ Munches Assign ContinuesAssign u r.cursor.look r.value.ast :=
  expression_munches_all.1 c r parsed

theorem tier_munches {n : Nat} {c : Cursor} {r : Read c Expr} (parsed : tier n ctx c = .ok r) :
    ∃ u, c.Consumed u r.cursor ∧ Munches (Level n) (Continues n) u r.cursor.look r.value.ast :=
  expression_munches_all.2.1 n c r parsed

/-- A literal never fails at an unexpected token: once taken, only its value and type can fail. -/
theorem primary_literal_expected {c : Cursor} {f : Failure} (failed : primary ctx c = .error f)
    (literal : c.look.kind ∈ literalKinds) : f.error.isUnexpected = false := by
  cases unexpected : f.error.isUnexpected
  · rfl
  · rcases primary_eq_error failed unexpected with ⟨notStart, -⟩ | ⟨name, _, taken, isName, -⟩ |
      ⟨lp, _, taken, isOpen, -⟩
    · simp only [literalKinds, List.mem_cons, List.not_mem_nil, or_false] at literal
      rcases literal with kindEq | kindEq | kindEq | kindEq <;>
        simp [kindEq, TokenKind.exprStart] at notStart
    · rw [taken.1] at isName
      simp [isName, literalKinds] at literal
    · rw [taken.1] at isOpen
      simp [isOpen, literalKinds] at literal

/--
Every expression rule of the reader that fails at an unexpected token took tokens that start a
word of its rule of the grammar, and failed at a token that no such word has after them.
-/
theorem expression_blocked_all :
    (∀ c f, expression ctx c = .error f → f.error.isUnexpected →
      ∃ p t, c.FailsOn f p t ∧ Blocked Assign ContinuesAssign p t) ∧
    (∀ n c f, tier n ctx c = .error f → f.error.isUnexpected →
      ∃ p t, c.FailsOn f p t ∧ Blocked (Level n) (Continues n) p t) ∧
    (∀ n lhs c f, tierRest n lhs ctx c = .error f → f.error.isUnexpected →
      ∃ p t, c.FailsOn f p t ∧ Blocked (Tail n lhs.ast) (Continues n) p t) ∧
    (∀ c f, primary ctx c = .error f → f.error.isUnexpected →
      ∃ p t, c.FailsOn f p t ∧ Blocked Primary (Continues 0) p t) ∧
    (∀ name c f, call name ctx c = .error f → f.error.isUnexpected → name.kind = .ident →
      c.look.kind = .lParen → ∃ p t, c.FailsOn f p t ∧ Blocked Primary (Continues 0) (name :: p) t) ∧
    (∀ c f, arguments ctx c = .error f → f.error.isUnexpected →
      ∃ p t, c.FailsOn f p t ∧ Blocked ArgsFrom (Continues 0) p t) := by
  refine expression.mutual_induct _ _ _ _ _ _ ?assignment ?tierZero ?tierSucc ?restNone
    ?restSome ?intLit ?floatLit ?boolLit ?stringLit ?ident ?paren ?other ?call ?arguments
  case assignment =>
    intro c tierIH exprIH f failed unexpected
    rcases expression_eq_error failed unexpected with lhsFailed | ⟨lhs, op, c2, lhsRead, taken, isEq,
      rhsFailed⟩
    · obtain ⟨p, t, fails, blocked⟩ := tierIH f lhsFailed unexpected
      exact ⟨p, t, fails, blocked.assign_lhs⟩
    · obtain ⟨u, consumed, munches⟩ := tier_munches lhsRead
      obtain ⟨p, t, fails, blocked⟩ := exprIH lhs.cursor lhs.lt c2 taken.left_lt f rhsFailed unexpected
      rw [← taken.1] at munches
      exact ⟨u ++ op :: p, t, consumed.failsOn (taken.failsOn fails), Blocked.assign_rhs munches isEq blocked⟩
  case tierZero =>
    intro c primaryIH f failed unexpected
    rw [tier_zero] at failed
    obtain ⟨p, t, fails, blocked⟩ := primaryIH f failed unexpected
    exact ⟨p, t, fails, blocked.level_zero⟩
  case tierSucc =>
    intro c k tierIH restIH f failed unexpected
    rcases tier_succ_eq_error failed with lhsFailed | ⟨lhs, lhsRead, restFailed⟩
    · obtain ⟨p, t, fails, blocked⟩ := tierIH f lhsFailed unexpected
      exact ⟨p, t, fails, blocked.level_operand⟩
    · obtain ⟨u, consumed, munches⟩ := tier_munches lhsRead
      obtain ⟨p, t, fails, blocked⟩ := restIH lhs.value lhs.cursor lhs.lt f restFailed unexpected
      exact ⟨u ++ p, t, consumed.failsOn fails, Blocked.level_tail munches blocked fails.startsLike⟩
  case restNone =>
    intro n lhs c noOp f failed unexpected
    obtain ⟨op, -, -, someOp, -⟩ := tierRest_eq_error failed unexpected
    rw [noOp] at someOp
    cases someOp
  case restSome =>
    intro n lhs c op someOp tierIH restIH f failed unexpected
    obtain ⟨op', opTok, c1, someOp', taken, stopped⟩ := tierRest_eq_error failed unexpected
    have listed : (opTok.kind, op') ∈ levelOps n := by
      rw [taken.1]
      exact tierOp?_eq_some_iff.1 someOp'
    rcases stopped with rhsFailed | ⟨rhs, e, rhsRead, typed, restFailed⟩
    · obtain ⟨p, t, fails, blocked⟩ := tierIH c1 taken.left_lt f rhsFailed unexpected
      exact ⟨opTok :: p, t, taken.failsOn fails, Blocked.tail_operand listed blocked⟩
    · obtain ⟨u, consumed, munches⟩ := tier_munches rhsRead
      obtain ⟨p, t, fails, blocked⟩ :=
        restIH c1 taken.left_lt rhs.cursor rhs.lt e f restFailed unexpected
      rw [Context.binary_ast typed] at blocked
      exact ⟨opTok :: (u ++ p), t, taken.failsOn (consumed.failsOn fails),
        Blocked.tail_rest listed munches blocked fails.startsLike⟩
  case intLit =>
    intro c isInt f failed unexpected
    rw [primary_literal_expected failed (by simp [isInt, literalKinds])] at unexpected
    cases unexpected
  case floatLit =>
    intro c isFloat f failed unexpected
    rw [primary_literal_expected failed (by simp [isFloat, literalKinds])] at unexpected
    cases unexpected
  case boolLit =>
    intro c isBool f failed unexpected
    rw [primary_literal_expected failed (by simp [isBool, literalKinds])] at unexpected
    cases unexpected
  case stringLit =>
    intro c isString f failed unexpected
    rw [primary_literal_expected failed (by simp [isString, literalKinds])] at unexpected
    cases unexpected
  case ident =>
    intro c isIdent callIH f failed unexpected
    rcases primary_eq_error failed unexpected with ⟨notStart, -⟩ | ⟨name, c1, taken, isName, isCall,
      callFailed⟩ | ⟨lp, _, taken, isOpen, -⟩
    · simp [isIdent, TokenKind.exprStart] at notStart
    · obtain ⟨p, t, fails, blocked⟩ := callIH name c1 taken.left_lt f callFailed unexpected isName isCall
      exact ⟨name :: p, t, taken.failsOn fails, blocked⟩
    · rw [taken.1, isIdent] at isOpen
      cases isOpen
  case paren =>
    intro c isParen exprIH f failed unexpected
    rcases primary_eq_error failed unexpected with ⟨notStart, -⟩ | ⟨name, _, taken, isName, -⟩ |
      ⟨lp, c1, taken, isOpen, innerFailed | ⟨inner, innerRead, refused⟩⟩
    · simp [isParen, TokenKind.exprStart] at notStart
    · rw [taken.1, isParen] at isName
      cases isName
    · obtain ⟨p, t, fails, blocked⟩ := exprIH c1 taken.left_lt f innerFailed unexpected
      exact ⟨lp :: p, t, taken.failsOn fails, Blocked.primary_paren isOpen blocked⟩
    · obtain ⟨u, consumed, munches⟩ := expression_munches innerRead
      have fails := taken.failsOn (consumed.failsOn refused.failsOn)
      rw [List.append_nil] at fails
      have notClose : inner.cursor.look.kind ≠ .rParen := fun isClose =>
        refused.1 (List.mem_singleton.2 isClose)
      exact ⟨lp :: u, _, fails, Blocked.primary_close isOpen munches notClose⟩
  case other =>
    intro c notInt notFloat notBool notString notIdent notParen f failed unexpected
    rcases primary_eq_error failed unexpected with refused | ⟨name, _, taken, isName, -⟩ |
      ⟨lp, _, taken, isOpen, -⟩
    · exact ⟨[], _, refused.failsOn, Blocked.primary_start refused.1⟩
    · rw [taken.1] at isName
      exact absurd isName notIdent
    · rw [taken.1] at isOpen
      exact absurd isOpen notParen
  case call =>
    intro name c argsIH f failed unexpected isName isOpen
    obtain ⟨lp, c1, taken, notClose, argsFailed⟩ := call_eq_error failed unexpected isOpen
    obtain ⟨p, t, fails, blocked⟩ := argsIH c1 taken.left_lt f argsFailed unexpected
    exact ⟨lp :: p, t, taken.failsOn fails,
      Blocked.primary_call isName (taken.1 ▸ isOpen) (blocked.callArgs_some fails.startsLike notClose)⟩
  case arguments =>
    intro c exprIH argsIH f failed unexpected
    rcases arguments_eq_error failed unexpected with exprFailed | ⟨e, first, refused | ⟨sep, c2, taken,
      isSep, restFailed⟩⟩
    · obtain ⟨p, t, fails, blocked⟩ := exprIH f exprFailed unexpected
      exact ⟨p, t, fails, blocked.argsFrom_first⟩
    · obtain ⟨u, consumed, munches⟩ := expression_munches first
      have fails := consumed.failsOn refused.failsOn
      rw [List.append_nil] at fails
      exact ⟨u, _, fails, Blocked.argsFrom_sep munches refused.1⟩
    · obtain ⟨u, consumed, munches⟩ := expression_munches first
      obtain ⟨p, t, fails, blocked⟩ := argsIH e.cursor e.lt c2 taken.left_lt f restFailed unexpected
      have isSep' : sep.kind = .comma ∨ sep.kind = .semicolon := by
        simpa using isSep
      rw [← taken.1] at munches
      exact ⟨u ++ sep :: p, t, consumed.failsOn (taken.failsOn fails),
        Blocked.argsFrom_rest munches isSep' blocked⟩

theorem expression_blocked {c : Cursor} {f : Failure} (failed : expression ctx c = .error f)
    (unexpected : f.error.isUnexpected) :
    ∃ p t, c.FailsOn f p t ∧ Blocked Assign ContinuesAssign p t :=
  expression_blocked_all.1 c f failed unexpected

/--
An assignment read from a cursor is a word of the grammar's assignments taken from the input;
the tree of the expression returned is the tree of a derivation of that word and of no other,
and no word of the grammar's assignments starts with the word and the token after it.
-/
theorem expression_derivation {c : Cursor} {r : Read c Expr} (parsed : expression ctx c = .ok r) :
    ∃ u, c.ahead = u.map .ok ++ r.cursor.ahead ∧ Assign u [] r.value.ast ∧
      (∀ a, Assign u [] a → a = r.value.ast) ∧ ∀ s a, ¬Assign (u ++ r.cursor.look :: s) [] a := by
  obtain ⟨u, consumed, munches⟩ := expression_munches_all.1 c r parsed
  exact ⟨u, consumed, munches.word, fun _ derived => munches.unique derived,
    fun s _ => munches.not_prefix s⟩

/--
A chain of two assignments whose value mixes a call of two arguments, subtractions in a row, a
sum in parentheses, products, a comparison, `&&` and `||`, read at the top level of a program
that declares the two variables and the function. Written out with every operation in
parentheses, its tree nests each level below the looser ones and groups `-` to the left and `=`
to the right; it is the tree of its derivation.
-/
theorem expression_mixedOperators_derivation :
    ∃ p, (Program.ofSource
        "var a = true; var b = false; g(x: int, y: int) { return x - y; }").result = .ok p ∧
      ∃ c, Cursor.start
          (Feed.ofSource "a = b = g(1 - 2 - 3, (4 + 5) * 6) < 7 * 8 && true || false") = .ok c ∧
        ∃ r : Read c Expr, expression ⟨p.table, some ScopeTable.root⟩ c = .ok r ∧
          r.value.render p.table =
            "(a = (b = (((g(((1 - 2) - 3), ((4 + 5) * 6)) < (7 * 8)) && true) || false)))" ∧
          ∃ u, c.ahead = u.map .ok ++ r.cursor.ahead ∧ Assign u [] r.value.ast ∧
            (∀ a, Assign u [] a → a = r.value.ast) ∧
            ∀ s a, ¬Assign (u ++ r.cursor.look :: s) [] a := by
  have decided : ((Program.ofSource
      "var a = true; var b = false; g(x: int, y: int) { return x - y; }").result.toOption.bind
        fun p => (Cursor.start
          (Feed.ofSource "a = b = g(1 - 2 - 3, (4 + 5) * 6) < 7 * 8 && true || false")).toOption.bind
        fun c => (expression ⟨p.table, some ScopeTable.root⟩ c).toOption.map
        fun r => decide (r.value.render p.table =
          "(a = (b = (((g(((1 - 2) - 3), ((4 + 5) * 6)) < (7 * 8)) && true) || false)))")) =
      some true := by
    decide +kernel
  obtain ⟨p, read, decided⟩ := Except.ok_of_toOption_bind decided
  obtain ⟨c, started, decided⟩ := Except.ok_of_toOption_bind decided
  exact ⟨p, read, c, started,
    Except.exists_ok_of_check decided fun _ parsed _ => expression_derivation parsed⟩

end Parse

end ImpFront
