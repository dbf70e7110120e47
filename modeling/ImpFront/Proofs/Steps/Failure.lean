import ImpFront.Proofs.Steps.Program

/-!
# Where a reading meets a token it does not expect

The reader stops at its first error. For each rule of the reader this module says how a run
of it can stop with an unexpected token (`ParseError.isUnexpected`): at the rule's own check
of the lookahead (`Cursor.Refuses`), or inside a rule it runs after the tokens it has taken.
Errors of names, types and literals are never such a stop, since the checks of the context
fail, if they do, with errors of their own kind (`Checked`, so `NoUnexpected`), and neither is
a scanning error met by a pull.
-/

namespace ImpFront

/-- Whether an error is a token that the grammar does not allow where it stands. -/
def ParseError.isUnexpected : ParseError → Bool
  | .unexpectedToken .. => true
  | _ => false

/-- A check that never reports an unexpected token. -/
def NoUnexpected {α : Type} (x : Except ParseError α) : Prop :=
  ∀ e, x = .error e → e.isUnexpected = false

/-- The errors of checks of names and types: neither scanning errors nor unexpected tokens. -/
def ParseError.isCheck : ParseError → Bool
  | .lex _ | .unexpectedToken .. => false
  | _ => true

/-- A check of names or types, which fails, if it does, with an error of its own kind. -/
def Checked {α : Type} (x : Except ParseError α) : Prop :=
  ∀ e, x = .error e → e.isCheck

theorem Except.error_of_bind {ε α β : Type} {x : Except ε α} {g : α → Except ε β} {e : ε}
    (failed : (x >>= g) = .error e) : x = .error e ∨ ∃ a, x = .ok a ∧ g a = .error e := by
  cases x with
  | error e' => exact Or.inl (by simpa [Bind.bind, Except.bind] using failed)
  | ok a => exact Or.inr ⟨a, rfl, failed⟩

/-- A check fails, if it does, with an error of its own kind, so never at an unexpected token. -/
theorem Checked.noUnexpected {α : Type} {x : Except ParseError α} (checked : Checked x) :
    NoUnexpected x := by
  intro e failed
  have check := checked e failed
  cases e with
  | lex _ => cases check
  | unexpectedToken _ _ _ _ => cases check
  | _ => rfl

namespace Context

variable (ctx : Context) {name : String} {loc : Location}

theorem lookup_checked : Checked (ctx.lookup name loc) := by
  intro e failed
  unfold lookup at failed
  split at failed <;> cases failed
  rfl

theorem lookupType_checked : Checked (ctx.lookupType name loc) := by
  intro e failed
  unfold lookupType at failed
  cases looked : ctx.lookup name loc with
  | error e' =>
      rw [looked] at failed
      cases failed
      exact ctx.lookup_checked _ looked
  | ok id =>
      rw [looked] at failed
      dsimp only at failed
      split at failed <;> cases failed
      rfl

theorem define_checked {x : Entry} : Checked (ctx.define name x loc) := by
  intro e failed
  unfold define at failed
  split at failed <;> cases failed
  rfl

theorem expectType_checked {expected found : EntryId} :
    Checked (ctx.expectType expected found loc) := by
  intro e failed
  unfold expectType at failed
  split at failed <;> cases failed
  rfl

theorem expectBool_checked {x : Expr} : Checked (ctx.expectBool x) := by
  intro e failed
  unfold expectBool at failed
  cases boolType : ctx.lookupType "bool" x.loc with
  | error e' =>
      rw [boolType] at failed
      cases failed
      exact ctx.lookupType_checked _ boolType
  | ok b =>
      rw [boolType] at failed
      exact ctx.expectType_checked e failed

theorem binary_checked {op : BinOp} {lhs rhs : Expr} : Checked (ctx.binary op lhs rhs loc) := by
  intro e failed
  unfold binary at failed
  split at failed
  · -- both operands of a logical operator are checked to be booleans, the left one first
    cases lhsBool : ctx.expectBool lhs with
    | error e' =>
        rw [lhsBool] at failed
        cases failed
        exact ctx.expectBool_checked _ lhsBool
    | ok u =>
        cases rhsBool : ctx.expectBool rhs with
        | error e' =>
            rw [lhsBool, rhsBool] at failed
            cases failed
            exact ctx.expectBool_checked _ rhsBool
        | ok u' =>
            rw [lhsBool, rhsBool] at failed
            cases failed
  · cases same : ctx.expectType lhs.ty rhs.ty rhs.loc with
    | error e' =>
        rw [same] at failed
        cases failed
        exact ctx.expectType_checked _ same
    | ok u =>
        rw [same] at failed
        dsimp only at failed
        split at failed
        · cases boolType : ctx.lookupType "bool" loc with
          | error e' =>
              rw [boolType] at failed
              cases failed
              exact ctx.lookupType_checked _ boolType
          | ok b =>
              rw [boolType] at failed
              cases failed
        · cases failed

end Context

theorem Parse.checkArgs_checked (ctx : Context) (args : List Expr) (params : List EntryId) :
    Checked (Parse.checkArgs ctx args params) := by
  intro e failed
  fun_induction Parse.checkArgs ctx args params with
  | case1 a args p params e' typeFailed =>
      cases failed
      exact ctx.expectType_checked _ typeFailed
  | case2 a args p params typed ih => exact ih failed
  | case3 => cases failed

namespace Cursor

variable {c : Cursor} {f : Failure}

/-- The lookahead of `c` is none of `kinds`, and the reading stopped there with them listed. -/
def Refuses (c : Cursor) (kinds : List TokenKind) (f : Failure) : Prop :=
  c.look.kind ∉ kinds ∧ f = c.fail (c.unexpected kinds)

@[simp]
theorem fail_error (c : Cursor) (e : ParseError) : (c.fail e).error = e := rfl

theorem advance_noUnexpected {notEof : c.look.kind ≠ .eof} (failed : c.advance notEof = .error f) :
    f.error.isUnexpected = false := by
  obtain ⟨err, -, rfl⟩ := advance_eq_error failed
  rfl

theorem refuses_of_expect {kinds : List TokenKind} (failed : c.expect kinds = .error f)
    (unexpected : f.error.isUnexpected) (noEof : .eof ∉ kinds) : c.Refuses kinds f := by
  unfold expect at failed
  split at failed
  · simp [advance_noUnexpected failed] at unexpected
  · rename_i notExpected
    cases failed
    exact ⟨fun listed => notExpected ⟨listed, fun isEof => noEof (isEof ▸ listed)⟩, rfl⟩

theorem lift_noUnexpected {α : Type} {x : Except ParseError α} (never : NoUnexpected x)
    (failed : c.lift x = .error f) : f.error.isUnexpected = false := by
  cases x with
  | ok a => cases failed
  | error e =>
      cases failed
      exact never e rfl

/-- The lookahead that a rule takes is no unexpected token: it is listed. -/
theorem not_refuses_of_mem {kinds : List TokenKind} (listed : c.look.kind ∈ kinds) :
    ¬c.Refuses kinds f :=
  fun refuses => refuses.1 listed

end Cursor

namespace Parse

section

variable {ctx : Context} {c : Cursor} {f : Failure}

/-- An assignment stops in its left operand, or after `=` in its right one. -/
theorem expression_eq_error (failed : expression ctx c = .error f)
    (unexpected : f.error.isUnexpected) :
    tier 5 ctx c = .error f ∨
      ∃ (lhs : Read c Expr) (op : Token) (c2 : Cursor), tier 5 ctx c = .ok lhs ∧
        lhs.cursor.Takes op c2 ∧ op.kind = .eq ∧ expression ctx c2 = .error f := by
  rw [expression] at failed
  rcases Except.error_of_bind failed with failed | ⟨⟨lhs, c1, h1⟩, lhsRead, failed⟩
  · exact Or.inl failed
  dsimp only at failed
  split at failed
  · rename_i isEq
    rcases Except.error_of_bind failed with failed | ⟨⟨op, c2, h2⟩, advanced, failed⟩
    · simp [Cursor.advance_noUnexpected failed] at unexpected
    have taken : c1.Takes op c2 := Cursor.takes_of_advance advanced
    split at failed
    · rcases Except.error_of_bind failed with failed | ⟨⟨rhs, c3, h3⟩, -, failed⟩
      · exact Or.inr ⟨_, op, c2, lhsRead, taken, by rw [taken.1]; exact isEq, failed⟩
      rcases Except.error_of_bind failed with failed | ⟨e, -, failed⟩
      · simp [Cursor.lift_noUnexpected ctx.binary_checked.noUnexpected failed] at unexpected
      · cases failed
    · cases failed
      simp [ParseError.isUnexpected] at unexpected
  · cases failed

/-- A tier stops in its first operand or in the operators after it. -/
theorem tier_succ_eq_error {k : Nat} (failed : tier (k + 1) ctx c = .error f) :
    tier k ctx c = .error f ∨
      ∃ lhs : Read c Expr, tier k ctx c = .ok lhs ∧
        tierRest (k + 1) lhs.value ctx lhs.cursor = .error f := by
  rw [tier] at failed
  rcases Except.error_of_bind failed with failed | ⟨⟨lhs, c1, h1⟩, lhsRead, failed⟩
  · exact Or.inl failed
  rcases Except.error_of_bind failed with failed | ⟨⟨e, c2, h2⟩, -, failed⟩
  · exact Or.inr ⟨_, lhsRead, failed⟩
  · cases failed

/-- The operators of a tier stop in the right operand of one, or in those after it. -/
theorem tierRest_eq_error {n : Nat} {lhs : Expr} (failed : tierRest n lhs ctx c = .error f)
    (unexpected : f.error.isUnexpected) :
    ∃ (op : BinOp) (opTok : Token) (c1 : Cursor), tierOp? n c.look.kind = some op ∧
      c.Takes opTok c1 ∧
      (tier (n - 1) ctx c1 = .error f ∨
        ∃ (rhs : Read c1 Expr) (e : Expr), tier (n - 1) ctx c1 = .ok rhs ∧
          ctx.binary op lhs rhs.value opTok.loc = .ok e ∧
          tierRest n e ctx rhs.cursor = .error f) := by
  rw [tierRest] at failed
  split at failed
  · cases failed
  · rename_i op someOp
    rcases Except.error_of_bind failed with failed | ⟨⟨opTok, c1, h1⟩, advanced, failed⟩
    · simp [Cursor.advance_noUnexpected failed] at unexpected
    have taken : c.Takes opTok c1 := Cursor.takes_of_advance advanced
    refine ⟨op, opTok, c1, someOp, taken, ?_⟩
    rcases Except.error_of_bind failed with failed | ⟨⟨rhs, c2, h2⟩, rhsRead, failed⟩
    · exact Or.inl failed
    rcases Except.error_of_bind failed with failed | ⟨e, typed, failed⟩
    · simp [Cursor.lift_noUnexpected ctx.binary_checked.noUnexpected failed] at unexpected
    rcases Except.error_of_bind failed with failed | ⟨⟨e', c3, h3⟩, -, failed⟩
    · exact Or.inr ⟨_, e, rhsRead, Cursor.lift_eq_ok.1 typed, failed⟩
    · cases failed

/--
A primary expression stops at a first token that starts no expression, in the call after a
name, or in the expression after `(` or at the token that should close it.
-/
theorem primary_eq_error (failed : primary ctx c = .error f) (unexpected : f.error.isUnexpected) :
    c.Refuses TokenKind.exprStart f ∨
      (∃ (name : Token) (c1 : Cursor), c.Takes name c1 ∧ name.kind = .ident ∧
        c1.look.kind = .lParen ∧ call name ctx c1 = .error f) ∨
      ∃ (lp : Token) (c1 : Cursor), c.Takes lp c1 ∧ lp.kind = .lParen ∧
        (expression ctx c1 = .error f ∨
          ∃ inner : Read c1 Expr, expression ctx c1 = .ok inner ∧
            inner.cursor.Refuses [.rParen] f) := by
  rw [primary] at failed
  split at failed
  case h_5 isIdent =>
    rcases Except.error_of_bind failed with failed | ⟨⟨name, c1, h1⟩, advanced, failed⟩
    · simp [Cursor.advance_noUnexpected failed] at unexpected
    have taken : c.Takes name c1 := Cursor.takes_of_advance advanced
    dsimp only at failed
    split at failed
    · rename_i isCall
      rcases Except.error_of_bind failed with failed | ⟨⟨e, c2, h2⟩, -, failed⟩
      · exact Or.inr (Or.inl ⟨name, c1, taken, by rw [taken.1]; exact isIdent, isCall, failed⟩)
      · cases failed
    · rcases Except.error_of_bind failed with failed | ⟨id, -, failed⟩
      · simp [Cursor.lift_noUnexpected ctx.lookup_checked.noUnexpected failed] at unexpected
      split at failed
      · cases failed
      · cases failed
        simp [ParseError.isUnexpected] at unexpected
  case h_6 isParen =>
    rcases Except.error_of_bind failed with failed | ⟨⟨lp, c1, h1⟩, advanced, failed⟩
    · simp [Cursor.advance_noUnexpected failed] at unexpected
    have taken : c.Takes lp c1 := Cursor.takes_of_advance advanced
    refine Or.inr (Or.inr ⟨lp, c1, taken, by rw [taken.1]; exact isParen, ?_⟩)
    rcases Except.error_of_bind failed with failed | ⟨⟨inner, c2, h2⟩, innerRead, failed⟩
    · exact Or.inl failed
    rcases Except.error_of_bind failed with failed | ⟨⟨rp, c3, h3⟩, -, failed⟩
    · exact Or.inr ⟨_, innerRead, Cursor.refuses_of_expect failed unexpected (by decide)⟩
    · cases failed
  case h_7 notInt notFloat notBool notString notIdent notParen =>
    cases failed
    refine Or.inl ⟨fun start => ?_, rfl⟩
    simp only [TokenKind.exprStart, List.mem_cons, List.not_mem_nil, or_false] at start
    rcases start with h | h | h | h | h | h <;> contradiction
  all_goals
    rcases Except.error_of_bind failed with failed | ⟨⟨tok, c1, h1⟩, -, failed⟩
    · simp [Cursor.advance_noUnexpected failed] at unexpected
    try dsimp only at failed
    try split at failed
    all_goals first
      | (cases failed; simp [ParseError.isUnexpected] at unexpected)
      | skip
    all_goals
      rcases Except.error_of_bind failed with failed | ⟨ty, -, failed⟩
      · simp [Cursor.lift_noUnexpected ctx.lookupType_checked.noUnexpected failed] at unexpected
      · cases failed

/-- A call stops in its arguments, which are not empty. -/
theorem call_eq_error {name : Token} (failed : call name ctx c = .error f)
    (unexpected : f.error.isUnexpected) (isParen : c.look.kind = .lParen) :
    ∃ (lp : Token) (c1 : Cursor), c.Takes lp c1 ∧ c1.look.kind ≠ .rParen ∧
      arguments ctx c1 = .error f := by
  rw [call] at failed
  rcases Except.error_of_bind failed with failed | ⟨callee, -, failed⟩
  · simp [Cursor.lift_noUnexpected ctx.lookup_checked.noUnexpected failed] at unexpected
  split at failed
  · cases failed
    simp [ParseError.isUnexpected] at unexpected
  rcases Except.error_of_bind failed with failed | ⟨⟨lp, c1, h1⟩, opened, failed⟩
  · exact absurd (Cursor.refuses_of_expect failed unexpected (by decide))
      (Cursor.not_refuses_of_mem (by simp [isParen]))
  rcases Except.error_of_bind failed with failed | ⟨⟨args, c2, h2⟩, -, failed⟩
  · split at failed
    · rcases Except.error_of_bind failed with failed | ⟨⟨rp, c3, h3⟩, -, failed⟩
      · simp [Cursor.advance_noUnexpected failed] at unexpected
      · cases failed
    · rename_i notClose
      exact ⟨lp, c1, (Cursor.takes_of_expect opened).2, notClose, failed⟩
  dsimp only at failed
  split at failed
  · cases failed
    simp [ParseError.isUnexpected] at unexpected
  rcases Except.error_of_bind failed with failed | ⟨u, -, failed⟩
  · simp [Cursor.lift_noUnexpected (checkArgs_checked ctx _ _).noUnexpected failed] at unexpected
  · cases failed

/-- Arguments stop in an assignment, at the token after it, or in the arguments after a separator. -/
theorem arguments_eq_error (failed : arguments ctx c = .error f)
    (unexpected : f.error.isUnexpected) :
    expression ctx c = .error f ∨
      ∃ e : Read c Expr, expression ctx c = .ok e ∧
        (e.cursor.Refuses [.comma, .semicolon, .rParen] f ∨
          ∃ (sep : Token) (c2 : Cursor), e.cursor.Takes sep c2 ∧
            sep.kind ∈ [.comma, .semicolon] ∧ arguments ctx c2 = .error f) := by
  rw [arguments] at failed
  rcases Except.error_of_bind failed with failed | ⟨⟨e, c1, h1⟩, first, failed⟩
  · exact Or.inl failed
  refine Or.inr ⟨_, first, ?_⟩
  rcases Except.error_of_bind failed with failed | ⟨⟨sep, c2, h2⟩, separated, failed⟩
  · exact Or.inl (Cursor.refuses_of_expect failed unexpected (by decide))
  have separator := Cursor.takes_of_expect separated
  dsimp only at failed
  split at failed
  · cases failed
  · rename_i notClose
    rcases Except.error_of_bind failed with failed | ⟨⟨rest, c3, h3⟩, -, failed⟩
    · refine Or.inr ⟨sep, c2, separator.2, ?_, failed⟩
      have listed := separator.1
      simp only [List.mem_cons, List.not_mem_nil, or_false] at listed ⊢
      rcases listed with h | h | h
      · exact Or.inl h
      · exact Or.inr h
      · exact absurd h notClose
    · cases failed

/-- A variable declaration stops at one of its four tokens or in its initial value. -/
theorem varDecl_eq_error (failed : varDecl ctx c = .error f) (unexpected : f.error.isUnexpected) :
    c.Refuses [.varKw] f ∨ ∃ (kw : Token) (c1 : Cursor), c.Takes kw c1 ∧ kw.kind = .varKw ∧
      (c1.Refuses [.ident] f ∨ ∃ (name : Token) (c2 : Cursor), c1.Takes name c2 ∧
        name.kind = .ident ∧
        (c2.Refuses [.eq] f ∨ ∃ (eqTok : Token) (c3 : Cursor), c2.Takes eqTok c3 ∧
          eqTok.kind = .eq ∧
          (expression ctx c3 = .error f ∨ ∃ init : Read c3 Expr, expression ctx c3 = .ok init ∧
            init.cursor.Refuses [.semicolon] f))) := by
  rw [varDecl] at failed
  rcases Except.error_of_bind failed with failed | ⟨⟨kw, c1, h1⟩, kwRead, failed⟩
  · exact Or.inl (Cursor.refuses_of_expect failed unexpected (by decide))
  have kwStep := Cursor.takes_of_expect kwRead
  refine Or.inr ⟨kw, c1, kwStep.2, List.mem_singleton.1 kwStep.1, ?_⟩
  rcases Except.error_of_bind failed with failed | ⟨⟨name, c2, h2⟩, nameRead, failed⟩
  · exact Or.inl (Cursor.refuses_of_expect failed unexpected (by decide))
  have nameStep := Cursor.takes_of_expect nameRead
  refine Or.inr ⟨name, c2, nameStep.2, List.mem_singleton.1 nameStep.1, ?_⟩
  rcases Except.error_of_bind failed with failed | ⟨⟨eqTok, c3, h3⟩, eqRead, failed⟩
  · exact Or.inl (Cursor.refuses_of_expect failed unexpected (by decide))
  have eqStep := Cursor.takes_of_expect eqRead
  refine Or.inr ⟨eqTok, c3, eqStep.2, List.mem_singleton.1 eqStep.1, ?_⟩
  rcases Except.error_of_bind failed with failed | ⟨⟨init, c4, h4⟩, initRead, failed⟩
  · exact Or.inl failed
  rcases Except.error_of_bind failed with failed | ⟨⟨semi, c5, h5⟩, -, failed⟩
  · exact Or.inr ⟨_, initRead, Cursor.refuses_of_expect failed unexpected (by decide)⟩
  rcases Except.error_of_bind failed with failed | ⟨⟨ctx6, id⟩, -, failed⟩
  · simp [Cursor.lift_noUnexpected ctx.define_checked.noUnexpected failed] at unexpected
  · cases failed

/-- An expression statement stops in its assignment or at the token after it. -/
theorem exprStatement_eq_error (failed : exprStatement ctx c = .error f)
    (unexpected : f.error.isUnexpected) :
    expression ctx c = .error f ∨
      ∃ e : Read c Expr, expression ctx c = .ok e ∧ e.cursor.Refuses [.semicolon] f := by
  rw [exprStatement] at failed
  rcases Except.error_of_bind failed with failed | ⟨⟨e, c1, h1⟩, exprRead, failed⟩
  · exact Or.inl failed
  rcases Except.error_of_bind failed with failed | ⟨⟨semi, c2, h2⟩, -, failed⟩
  · exact Or.inr ⟨_, exprRead, Cursor.refuses_of_expect failed unexpected (by decide)⟩
  · cases failed

/-- A condition stops at `(`, in its assignment, or at the token after it. -/
theorem condition_eq_error (failed : condition ctx c = .error f)
    (unexpected : f.error.isUnexpected) :
    c.Refuses [.lParen] f ∨ ∃ (lp : Token) (c1 : Cursor), c.Takes lp c1 ∧ lp.kind = .lParen ∧
      (expression ctx c1 = .error f ∨
        ∃ cond : Read c1 Expr, expression ctx c1 = .ok cond ∧ cond.cursor.Refuses [.rParen] f) := by
  rw [condition] at failed
  rcases Except.error_of_bind failed with failed | ⟨⟨lp, c1, h1⟩, lpRead, failed⟩
  · exact Or.inl (Cursor.refuses_of_expect failed unexpected (by decide))
  have lpStep := Cursor.takes_of_expect lpRead
  refine Or.inr ⟨lp, c1, lpStep.2, List.mem_singleton.1 lpStep.1, ?_⟩
  rcases Except.error_of_bind failed with failed | ⟨⟨cond, c2, h2⟩, condRead, failed⟩
  · exact Or.inl failed
  rcases Except.error_of_bind failed with failed | ⟨u, -, failed⟩
  · simp [Cursor.lift_noUnexpected ctx.expectBool_checked.noUnexpected failed] at unexpected
  rcases Except.error_of_bind failed with failed | ⟨⟨rp, c3, h3⟩, -, failed⟩
  · exact Or.inr ⟨_, condRead, Cursor.refuses_of_expect failed unexpected (by decide)⟩
  · cases failed

theorem statement_eq_error_of_lBrace (failed : statement ctx c = .error f)
    (isBrace : c.look.kind = .lBrace) : block ctx c = .error f := by
  rw [statement] at failed
  split at failed
  case h_1 =>
    rcases Except.error_of_bind failed with failed | ⟨b, -, failed⟩
    · exact failed
    · cases failed
  all_goals first
    | (rename_i kindEq; rw [isBrace] at kindEq; cases kindEq)
    | contradiction

/-- An `if` stops in its condition, in its branch, or in the branch after `else`. -/
theorem statement_eq_error_of_if (failed : statement ctx c = .error f)
    (unexpected : f.error.isUnexpected) (isIf : c.look.kind = .ifKw) :
    ∃ (kw : Token) (c1 : Cursor), c.Takes kw c1 ∧
      (condition ctx c1 = .error f ∨ ∃ cond : Read c1 Expr, condition ctx c1 = .ok cond ∧
        (statement ctx cond.cursor = .error f ∨
          ∃ thenRead : Read cond.cursor (Stmt × Context),
            statement ctx cond.cursor = .ok thenRead ∧
            ∃ (elseTok : Token) (c4 : Cursor), thenRead.cursor.Takes elseTok c4 ∧
              elseTok.kind = .elseKw ∧ statement thenRead.value.2 c4 = .error f)) := by
  rw [statement] at failed
  split at failed
  case h_2 =>
    rcases Except.error_of_bind failed with failed | ⟨⟨kw, c1, h1⟩, advanced, failed⟩
    · simp [Cursor.advance_noUnexpected failed] at unexpected
    refine ⟨kw, c1, Cursor.takes_of_advance advanced, ?_⟩
    rcases Except.error_of_bind failed with failed | ⟨⟨cond, c2, h2⟩, condRead, failed⟩
    · exact Or.inl failed
    refine Or.inr ⟨_, condRead, ?_⟩
    rcases Except.error_of_bind failed with failed | ⟨⟨⟨thenBranch, ctx3⟩, c3, h3⟩, thenRead,
      failed⟩
    · exact Or.inl failed
    dsimp only at failed
    split at failed
    · rename_i isElse
      rcases Except.error_of_bind failed with failed | ⟨⟨elseTok, c4, h4⟩, elseTaken, failed⟩
      · simp [Cursor.advance_noUnexpected failed] at unexpected
      have elseStep : c3.Takes elseTok c4 := Cursor.takes_of_advance elseTaken
      rcases Except.error_of_bind failed with failed | ⟨e, -, failed⟩
      · exact Or.inr ⟨_, thenRead, elseTok, c4, elseStep, by rw [elseStep.1]; exact isElse,
          failed⟩
      · cases failed
    · cases failed
  all_goals first
    | (rename_i kindEq; rw [isIf] at kindEq; cases kindEq)
    | contradiction

/-- A `while` stops in its condition or in its body. -/
theorem statement_eq_error_of_while (failed : statement ctx c = .error f)
    (unexpected : f.error.isUnexpected) (isWhile : c.look.kind = .whileKw) :
    ∃ (kw : Token) (c1 : Cursor), c.Takes kw c1 ∧
      (condition ctx c1 = .error f ∨ ∃ cond : Read c1 Expr, condition ctx c1 = .ok cond ∧
        statement ctx cond.cursor = .error f) := by
  rw [statement] at failed
  split at failed
  case h_3 =>
    rcases Except.error_of_bind failed with failed | ⟨⟨kw, c1, h1⟩, advanced, failed⟩
    · simp [Cursor.advance_noUnexpected failed] at unexpected
    refine ⟨kw, c1, Cursor.takes_of_advance advanced, ?_⟩
    rcases Except.error_of_bind failed with failed | ⟨⟨cond, c2, h2⟩, condRead, failed⟩
    · exact Or.inl failed
    rcases Except.error_of_bind failed with failed | ⟨body, -, failed⟩
    · exact Or.inr ⟨_, condRead, failed⟩
    · cases failed
  all_goals first
    | (rename_i kindEq; rw [isWhile] at kindEq; cases kindEq)
    | contradiction

/--
A `for` stops at `(`, in its first statement, in its test, at `;`, in its step, at `)`, or in
its body; the contexts do not matter here.
-/
theorem statement_eq_error_of_for (failed : statement ctx c = .error f)
    (unexpected : f.error.isUnexpected) (isFor : c.look.kind = .forKw) :
    ∃ (kw : Token) (c1 : Cursor), c.Takes kw c1 ∧
      (c1.Refuses [.lParen] f ∨ ∃ (lp : Token) (c2 : Cursor), c1.Takes lp c2 ∧
        lp.kind = .lParen ∧ ∃ ctx2 : Context,
        ((c2.look.kind = .varKw ∧ varDecl ctx2 c2 = .error f) ∨
          (c2.look.kind ≠ .varKw ∧ exprStatement ctx2 c2 = .error f) ∨
          ∃ (ctx3 : Context) (c3 : Cursor),
            ((c2.look.kind = .varKw ∧ ∃ d : Read c2 (VarDecl × Context),
                varDecl ctx2 c2 = .ok d ∧ d.cursor = c3) ∨
              (c2.look.kind ≠ .varKw ∧ ∃ s : Read c2 (Stmt × Context),
                exprStatement ctx2 c2 = .ok s ∧ s.cursor = c3)) ∧
            (expression ctx3 c3 = .error f ∨ ∃ test : Read c3 Expr,
              expression ctx3 c3 = .ok test ∧
              (test.cursor.Refuses [.semicolon] f ∨ ∃ (semi : Token) (c5 : Cursor),
                test.cursor.Takes semi c5 ∧ semi.kind = .semicolon ∧
                (expression ctx3 c5 = .error f ∨ ∃ step : Read c5 Expr,
                  expression ctx3 c5 = .ok step ∧
                  (step.cursor.Refuses [.rParen] f ∨ ∃ (rp : Token) (c7 : Cursor),
                    step.cursor.Takes rp c7 ∧ rp.kind = .rParen ∧
                    ∃ ctx7 : Context, statement ctx7 c7 = .error f)))))) := by
  rw [statement] at failed
  split at failed
  case h_4 =>
    rcases Except.error_of_bind failed with failed | ⟨⟨kw, c1, h1⟩, advanced, failed⟩
    · simp [Cursor.advance_noUnexpected failed] at unexpected
    refine ⟨kw, c1, Cursor.takes_of_advance advanced, ?_⟩
    rcases Except.error_of_bind failed with failed | ⟨⟨lp, c2, h2⟩, lpRead, failed⟩
    · exact Or.inl (Cursor.refuses_of_expect failed unexpected (by decide))
    have lpStep := Cursor.takes_of_expect lpRead
    refine Or.inr ⟨lp, c2, lpStep.2, List.mem_singleton.1 lpStep.1, ctx.enter.1, ?_⟩
    rcases Except.error_of_bind failed with failed | ⟨⟨⟨init, ctx3⟩, c3, h3⟩, initRead, failed⟩
    · split at failed
      · rename_i isVar
        rcases Except.error_of_bind failed with failed | ⟨d, -, failed⟩
        · exact Or.inl ⟨isVar, failed⟩
        · cases failed
      · rename_i notVar
        exact Or.inr (Or.inl ⟨notVar, failed⟩)
    refine Or.inr (Or.inr ⟨ctx3, c3, ?_, ?_⟩)
    · split at initRead
      · rename_i isVar
        rcases Except.ok_of_bind_eq_ok initRead with ⟨d, declRead, initRead⟩
        cases initRead
        exact Or.inl ⟨isVar, d, declRead, rfl⟩
      · rename_i notVar
        exact Or.inr ⟨notVar, _, initRead, rfl⟩
    rcases Except.error_of_bind failed with failed | ⟨⟨test, c4, h4⟩, testRead, failed⟩
    · exact Or.inl failed
    refine Or.inr ⟨_, testRead, ?_⟩
    rcases Except.error_of_bind failed with failed | ⟨u, -, failed⟩
    · simp [Cursor.lift_noUnexpected ctx3.expectBool_checked.noUnexpected failed] at unexpected
    rcases Except.error_of_bind failed with failed | ⟨⟨semi, c5, h5⟩, semiRead, failed⟩
    · exact Or.inl (Cursor.refuses_of_expect failed unexpected (by decide))
    have semiStep := Cursor.takes_of_expect semiRead
    refine Or.inr ⟨semi, c5, semiStep.2, List.mem_singleton.1 semiStep.1, ?_⟩
    rcases Except.error_of_bind failed with failed | ⟨⟨step, c6, h6⟩, stepRead, failed⟩
    · exact Or.inl failed
    refine Or.inr ⟨_, stepRead, ?_⟩
    rcases Except.error_of_bind failed with failed | ⟨⟨rp, c7, h7⟩, rpRead, failed⟩
    · exact Or.inl (Cursor.refuses_of_expect failed unexpected (by decide))
    have rpStep := Cursor.takes_of_expect rpRead
    rcases Except.error_of_bind failed with failed | ⟨body, -, failed⟩
    · exact Or.inr ⟨rp, c7, rpStep.2, List.mem_singleton.1 rpStep.1, _, failed⟩
    · cases failed
  all_goals first
    | (rename_i kindEq; rw [isFor] at kindEq; cases kindEq)
    | contradiction

theorem statement_eq_error_of_var (failed : statement ctx c = .error f)
    (isVar : c.look.kind = .varKw) : varDecl ctx c = .error f := by
  rw [statement] at failed
  split at failed
  case h_5 =>
    rcases Except.error_of_bind failed with failed | ⟨d, -, failed⟩
    · exact failed
    · cases failed
  all_goals first
    | (rename_i kindEq; rw [isVar] at kindEq; cases kindEq)
    | contradiction

/-- A `return` stops in its value or at the token after it. -/
theorem statement_eq_error_of_return (failed : statement ctx c = .error f)
    (unexpected : f.error.isUnexpected) (isReturn : c.look.kind = .returnKw) :
    ∃ (kw : Token) (c1 : Cursor), c.Takes kw c1 ∧
      (expression ctx c1 = .error f ∨
        ∃ value : Read c1 Expr, expression ctx c1 = .ok value ∧
          value.cursor.Refuses [.semicolon] f) := by
  rw [statement] at failed
  split at failed
  case h_6 =>
    rcases Except.error_of_bind failed with failed | ⟨⟨kw, c1, h1⟩, advanced, failed⟩
    · simp [Cursor.advance_noUnexpected failed] at unexpected
    refine ⟨kw, c1, Cursor.takes_of_advance advanced, ?_⟩
    rcases Except.error_of_bind failed with failed | ⟨⟨value, c2, h2⟩, valueRead, failed⟩
    · exact Or.inl failed
    rcases Except.error_of_bind failed with failed | ⟨⟨semi, c3, h3⟩, -, failed⟩
    · exact Or.inr ⟨_, valueRead, Cursor.refuses_of_expect failed unexpected (by decide)⟩
    · cases failed
  all_goals first
    | (rename_i kindEq; rw [isReturn] at kindEq; cases kindEq)
    | contradiction

/-- A first token that starts no statement is refused. -/
theorem statement_eq_error_of_not_start (failed : statement ctx c = .error f)
    (notStart : c.look.kind ∉ statementStart) : c.Refuses statementStart f := by
  rw [statement] at failed
  split at failed
  all_goals first
    | (rename_i kindEq; rw [kindEq] at notStart; exact absurd (by decide) notStart)
    | skip
  split at failed
  · rename_i start
    exact absurd (List.mem_append_right _ start) notStart
  · cases failed
    exact ⟨notStart, rfl⟩

/-- A block stops at `{`, in its statements, or at the token after them. -/
theorem block_eq_error (failed : block ctx c = .error f) (unexpected : f.error.isUnexpected) :
    c.Refuses [.lBrace] f ∨ ∃ (lb : Token) (c1 : Cursor), c.Takes lb c1 ∧ lb.kind = .lBrace ∧
      (blockBody ctx.enter.1 c1 = .error f ∨
        ∃ body : List Stmt × Context × { c' : Cursor // c'.left ≤ c1.left },
          blockBody ctx.enter.1 c1 = .ok body ∧ body.2.2.1.Refuses [.rBrace] f) := by
  rw [block] at failed
  rcases Except.error_of_bind failed with failed | ⟨⟨lb, c1, h1⟩, lbRead, failed⟩
  · exact Or.inl (Cursor.refuses_of_expect failed unexpected (by decide))
  have lbStep := Cursor.takes_of_expect lbRead
  refine Or.inr ⟨lb, c1, lbStep.2, List.mem_singleton.1 lbStep.1, ?_⟩
  rcases Except.error_of_bind failed with failed | ⟨⟨stmts, ctx2, c2, h2⟩, bodyRead, failed⟩
  · exact Or.inl failed
  rcases Except.error_of_bind failed with failed | ⟨⟨rb, c3, h3⟩, -, failed⟩
  · exact Or.inr ⟨_, bodyRead, Cursor.refuses_of_expect failed unexpected (by decide)⟩
  · cases failed

/-- The statements of a block stop in one of them, never at the closing brace. -/
theorem blockBody_eq_error (failed : blockBody ctx c = .error f) :
    c.look.kind ≠ .rBrace ∧
      (statement ctx c = .error f ∨ ∃ s : Read c (Stmt × Context), statement ctx c = .ok s ∧
        blockBody s.value.2 s.cursor = .error f) := by
  rw [blockBody] at failed
  split at failed
  · cases failed
  · rename_i notClose
    refine ⟨notClose, ?_⟩
    rcases Except.error_of_bind failed with failed | ⟨⟨⟨s, ctx1⟩, c1, h1⟩, stmtRead, failed⟩
    · exact Or.inl failed
    rcases Except.error_of_bind failed with failed | ⟨rest, -, failed⟩
    · exact Or.inr ⟨_, stmtRead, failed⟩
    · cases failed

/--
Parameters stop at one of a parameter's three tokens, at the token after them, or in the
parameters after a comma.
-/
theorem params_eq_error {offset : Nat} (failed : params offset ctx c = .error f)
    (unexpected : f.error.isUnexpected) :
    c.Refuses [.ident] f ∨ ∃ (name : Token) (c1 : Cursor), c.Takes name c1 ∧ name.kind = .ident ∧
      (c1.Refuses [.colon] f ∨ ∃ (colon : Token) (c2 : Cursor), c1.Takes colon c2 ∧
        colon.kind = .colon ∧
        (c2.Refuses [.ident] f ∨ ∃ (tyName : Token) (c3 : Cursor), c2.Takes tyName c3 ∧
          tyName.kind = .ident ∧
          (c3.Refuses [.comma, .rParen] f ∨ ∃ (comma : Token) (c5 : Cursor),
            c3.Takes comma c5 ∧ comma.kind = .comma ∧
            ∃ (offset' : Nat) (ctx' : Context), params offset' ctx' c5 = .error f))) := by
  rw [params] at failed
  rcases Except.error_of_bind failed with failed | ⟨⟨name, c1, h1⟩, nameRead, failed⟩
  · exact Or.inl (Cursor.refuses_of_expect failed unexpected (by decide))
  have nameStep := Cursor.takes_of_expect nameRead
  refine Or.inr ⟨name, c1, nameStep.2, List.mem_singleton.1 nameStep.1, ?_⟩
  rcases Except.error_of_bind failed with failed | ⟨⟨colon, c2, h2⟩, colonRead, failed⟩
  · exact Or.inl (Cursor.refuses_of_expect failed unexpected (by decide))
  have colonStep := Cursor.takes_of_expect colonRead
  refine Or.inr ⟨colon, c2, colonStep.2, List.mem_singleton.1 colonStep.1, ?_⟩
  rcases Except.error_of_bind failed with failed | ⟨⟨tyName, c3, h3⟩, tyNameRead, failed⟩
  · exact Or.inl (Cursor.refuses_of_expect failed unexpected (by decide))
  have tyNameStep := Cursor.takes_of_expect tyNameRead
  refine Or.inr ⟨tyName, c3, tyNameStep.2, List.mem_singleton.1 tyNameStep.1, ?_⟩
  rcases Except.error_of_bind failed with failed | ⟨ty, -, failed⟩
  · simp [Cursor.lift_noUnexpected ctx.lookupType_checked.noUnexpected failed] at unexpected
  rcases Except.error_of_bind failed with failed | ⟨⟨ctx4, id⟩, -, failed⟩
  · simp [Cursor.lift_noUnexpected ctx.define_checked.noUnexpected failed] at unexpected
  rcases Except.error_of_bind failed with failed | ⟨⟨sep, c5, h5⟩, sepRead, failed⟩
  · exact Or.inl (Cursor.refuses_of_expect failed unexpected (by decide))
  have sepStep := Cursor.takes_of_expect sepRead
  dsimp only at failed
  split at failed
  · cases failed
  · rename_i notClose
    rcases Except.error_of_bind failed with failed | ⟨rest, -, failed⟩
    · refine Or.inr ⟨sep, c5, sepStep.2, ?_, _, _, failed⟩
      have listed := sepStep.1
      simp only [List.mem_cons, List.not_mem_nil, or_false] at listed
      exact listed.resolve_right notClose
    · cases failed

/-- A parameter list stops at `(` or in its parameters, which are not empty. -/
theorem paramList_eq_error (failed : paramList ctx c = .error f)
    (unexpected : f.error.isUnexpected) :
    c.Refuses [.lParen] f ∨ ∃ (lp : Token) (c1 : Cursor), c.Takes lp c1 ∧ lp.kind = .lParen ∧
      c1.look.kind ≠ .rParen ∧ params 0 ctx c1 = .error f := by
  rw [paramList] at failed
  rcases Except.error_of_bind failed with failed | ⟨⟨lp, c1, h1⟩, lpRead, failed⟩
  · exact Or.inl (Cursor.refuses_of_expect failed unexpected (by decide))
  have lpStep := Cursor.takes_of_expect lpRead
  dsimp only at failed
  split at failed
  · rename_i isClose
    rcases Except.error_of_bind failed with failed | ⟨rp, -, failed⟩
    · exact absurd (Cursor.refuses_of_expect failed unexpected (by decide))
        (Cursor.not_refuses_of_mem (by simp [isClose]))
    · cases failed
  · rename_i notClose
    rcases Except.error_of_bind failed with failed | ⟨ps, -, failed⟩
    · exact Or.inr ⟨lp, c1, lpStep.2, List.mem_singleton.1 lpStep.1, notClose, failed⟩
    · cases failed

/-- A function definition stops at its name, in its parameter list, or in its body. -/
theorem funcDef_eq_error {index : Nat} (failed : funcDef index ctx c = .error f)
    (unexpected : f.error.isUnexpected) :
    c.Refuses [.ident] f ∨ ∃ (name : Token) (c1 : Cursor), c.Takes name c1 ∧ name.kind = .ident ∧
      (paramList ctx.enter.1 c1 = .error f ∨
        ∃ ps : Read c1 (List EntryId × Context), paramList ctx.enter.1 c1 = .ok ps ∧
          block ps.value.2 ps.cursor = .error f) := by
  rw [funcDef] at failed
  rcases Except.error_of_bind failed with failed | ⟨⟨name, c1, h1⟩, nameRead, failed⟩
  · exact Or.inl (Cursor.refuses_of_expect failed unexpected (by decide))
  have nameStep := Cursor.takes_of_expect nameRead
  refine Or.inr ⟨name, c1, nameStep.2, List.mem_singleton.1 nameStep.1, ?_⟩
  rcases Except.error_of_bind failed with failed | ⟨⟨⟨ids, ctx2⟩, c2, h2⟩, psRead, failed⟩
  · exact Or.inl failed
  rcases Except.error_of_bind failed with failed | ⟨⟨⟨body, ctx3⟩, c3, h3⟩, -, failed⟩
  · exact Or.inr ⟨_, psRead, failed⟩
  dsimp only at failed
  split at failed
  · rcases Except.error_of_bind failed with failed | ⟨returnType, -, failed⟩
    · cases failed
    rcases Except.error_of_bind failed with failed | ⟨⟨ctx5, entry⟩, -, failed⟩
    · simp [Cursor.lift_noUnexpected (Context.define_checked _).noUnexpected failed] at unexpected
    · cases failed
  all_goals
    rcases Except.error_of_bind failed with failed | ⟨returnType, thrown, -⟩
    · cases failed
      simp [ParseError.isUnexpected] at unexpected
    · cases thrown

/-- A declaration stops in a variable declaration, in a function definition, or at its start. -/
theorem declaration_eq_error {index : Nat} (failed : declaration index ctx c = .error f) :
    (c.look.kind = .varKw ∧ varDecl ctx c = .error f) ∨
      (c.look.kind = .ident ∧ funcDef index ctx c = .error f) ∨
      c.Refuses [.varKw, .ident] f := by
  rw [declaration] at failed
  split at failed
  · rename_i isVar
    rcases Except.error_of_bind failed with failed | ⟨d, -, failed⟩
    · exact Or.inl ⟨isVar, failed⟩
    · cases failed
  · rename_i notVar
    split at failed
    · rename_i isIdent
      rcases Except.error_of_bind failed with failed | ⟨d, -, failed⟩
      · exact Or.inr (Or.inl ⟨isIdent, failed⟩)
      · cases failed
    · rename_i notIdent
      cases failed
      refine Or.inr (Or.inr ⟨?_, rfl⟩)
      simp only [List.mem_cons, List.not_mem_nil, or_false]
      exact fun listed => listed.elim notVar notIdent

/-- Declarations stop in one of them, never at the end of input. -/
theorem declarations_eq_error {index : Nat} (failed : declarations index ctx c = .error f) :
    c.look.kind ≠ .eof ∧
      (declaration index ctx c = .error f ∨ ∃ d : Read c (Decl × Context),
        declaration index ctx c = .ok d ∧
        declarations (index + 1) d.value.2 d.cursor = .error f) := by
  rw [declarations] at failed
  split at failed
  · cases failed
  · rename_i notEof
    refine ⟨notEof, ?_⟩
    rcases Except.error_of_bind failed with failed | ⟨⟨⟨d, ctx1⟩, c1, h1⟩, declRead, failed⟩
    · exact Or.inl failed
    rcases Except.error_of_bind failed with failed | ⟨rest, -, failed⟩
    · exact Or.inr ⟨_, declRead, failed⟩
    · cases failed

end

end Parse

end ImpFront
