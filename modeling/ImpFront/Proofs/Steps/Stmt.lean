import ImpFront.Proofs.Steps.Expr

/-!
# Steps of the statement reader

For each rule of the statement reader, what a successful run of it consists of: the tokens
it took, the rules it ran in between with the contexts they ran in, and the checks that
passed. A statement rule is chosen by the kind of its first token, so there is one
statement for each kind that starts a statement.
-/

namespace ImpFront

/-- The storage of a variable declared in the current scope: global at the top level. -/
def Context.varKind (ctx : Context) : VarKind :=
  if (ctx.table.parent ctx.scope).isNone then .global else .blockLocal

namespace Parse

section

variable {ctx : Context} {c : Cursor}

/--
A variable declaration: `var`, a name, `=`, the initial value and `;`; the variable is
defined after its value is read, in the current scope, as a global at the top level and a
local elsewhere.
-/
theorem varDecl_eq_ok {r : Read c (VarDecl × Context)} (parsed : varDecl ctx c = .ok r) :
    ∃ (kw name eqTok semi : Token) (c1 c2 c3 : Cursor) (init : Read c3 Expr) (id : EntryId),
      c.Takes kw c1 ∧ kw.kind = .varKw ∧ c1.Takes name c2 ∧ name.kind = .ident ∧
      c2.Takes eqTok c3 ∧ eqTok.kind = .eq ∧ expression ctx c3 = .ok init ∧
      init.cursor.Takes semi r.cursor ∧ semi.kind = .semicolon ∧
      ctx.define name.lexeme (.var { name := name.lexeme, ty := init.value.ty, kind := ctx.varKind })
        name.loc = .ok (r.value.2, id) ∧
      r.value.1 = ⟨id, init.value, kw.loc⟩ := by
  rw [varDecl] at parsed
  rcases Except.ok_of_bind_eq_ok parsed with ⟨⟨kw, c1, h1⟩, kwRead, parsed⟩
  rcases Except.ok_of_bind_eq_ok parsed with ⟨⟨name, c2, h2⟩, nameRead, parsed⟩
  rcases Except.ok_of_bind_eq_ok parsed with ⟨⟨eqTok, c3, h3⟩, eqRead, parsed⟩
  rcases Except.ok_of_bind_eq_ok parsed with ⟨⟨init, c4, h4⟩, initRead, parsed⟩
  rcases Except.ok_of_bind_eq_ok parsed with ⟨⟨semi, c5, h5⟩, semiRead, parsed⟩
  rcases Except.ok_of_bind_eq_ok parsed with ⟨⟨ctx6, id⟩, defined, parsed⟩
  cases parsed
  have kwStep := Cursor.takes_of_expect kwRead
  have nameStep := Cursor.takes_of_expect nameRead
  have eqStep := Cursor.takes_of_expect eqRead
  have semiStep := Cursor.takes_of_expect semiRead
  exact ⟨kw, name, eqTok, semi, c1, c2, c3, _, id, kwStep.2, List.mem_singleton.1 kwStep.1,
    nameStep.2, List.mem_singleton.1 nameStep.1, eqStep.2, List.mem_singleton.1 eqStep.1,
    initRead, semiStep.2, List.mem_singleton.1 semiStep.1, Cursor.lift_eq_ok.1 defined, rfl⟩

/-- An expression statement: an assignment and `;`, located at its first token. -/
theorem exprStatement_eq_ok {r : Read c (Stmt × Context)} (parsed : exprStatement ctx c = .ok r) :
    ∃ (e : Read c Expr) (semi : Token), expression ctx c = .ok e ∧
      e.cursor.Takes semi r.cursor ∧ semi.kind = .semicolon ∧
      r.value = (.expr e.value c.look.loc, ctx) := by
  rw [exprStatement] at parsed
  rcases Except.ok_of_bind_eq_ok parsed with ⟨⟨e, c1, h1⟩, exprRead, parsed⟩
  rcases Except.ok_of_bind_eq_ok parsed with ⟨⟨semi, c2, h2⟩, semiRead, parsed⟩
  cases parsed
  have semiStep := Cursor.takes_of_expect semiRead
  exact ⟨_, semi, exprRead, semiStep.2, List.mem_singleton.1 semiStep.1, rfl⟩

/-- A condition: `(`, an assignment that is a boolean here, and `)`. -/
theorem condition_eq_ok {r : Read c Expr} (parsed : condition ctx c = .ok r) :
    ∃ (lp rp : Token) (c1 : Cursor) (cond : Read c1 Expr), c.Takes lp c1 ∧ lp.kind = .lParen ∧
      expression ctx c1 = .ok cond ∧ ctx.expectBool cond.value = .ok () ∧
      cond.cursor.Takes rp r.cursor ∧ rp.kind = .rParen ∧ r.value = cond.value := by
  rw [condition] at parsed
  rcases Except.ok_of_bind_eq_ok parsed with ⟨⟨lp, c1, h1⟩, lpRead, parsed⟩
  rcases Except.ok_of_bind_eq_ok parsed with ⟨⟨cond, c2, h2⟩, condRead, parsed⟩
  rcases Except.ok_of_bind_eq_ok parsed with ⟨u, isBool, parsed⟩
  rcases Except.ok_of_bind_eq_ok parsed with ⟨⟨rp, c3, h3⟩, rpRead, parsed⟩
  cases parsed
  have lpStep := Cursor.takes_of_expect lpRead
  have rpStep := Cursor.takes_of_expect rpRead
  exact ⟨lp, rp, c1, _, lpStep.2, List.mem_singleton.1 lpStep.1, condRead,
    Cursor.lift_eq_ok.1 isBool, rpStep.2, List.mem_singleton.1 rpStep.1, rfl⟩

/-- A statement that starts with `{` is a block. -/
theorem statement_eq_ok_of_lBrace {r : Read c (Stmt × Context)}
    (parsed : statement ctx c = .ok r) (isBrace : c.look.kind = .lBrace) :
    ∃ b : Read c (Block × Context), block ctx c = .ok b ∧
      r.value = (b.value.1.toStmt, b.value.2) ∧ r.cursor = b.cursor := by
  rw [statement] at parsed
  split at parsed
  case h_1 =>
    rcases Except.ok_of_bind_eq_ok parsed with ⟨⟨⟨b, ctx1⟩, c1, h1⟩, blockRead, parsed⟩
    cases parsed
    exact ⟨_, blockRead, rfl, rfl⟩
  all_goals first
    | (rename_i kindEq; rw [isBrace] at kindEq; cases kindEq)
    | contradiction

/--
An `if`: the keyword, a condition and the branch, read in the context of the `if`; then, if
`else` follows, the other branch, read in the context the first one left.
-/
theorem statement_eq_ok_of_if {r : Read c (Stmt × Context)}
    (parsed : statement ctx c = .ok r) (isIf : c.look.kind = .ifKw) :
    ∃ (kw : Token) (c1 : Cursor) (cond : Read c1 Expr)
      (thenRead : Read cond.cursor (Stmt × Context)),
      c.Takes kw c1 ∧ condition ctx c1 = .ok cond ∧ statement ctx cond.cursor = .ok thenRead ∧
      ((thenRead.cursor.look.kind ≠ .elseKw ∧
          r.value = (.ifElse cond.value thenRead.value.1 none kw.loc, thenRead.value.2) ∧
          r.cursor = thenRead.cursor) ∨
        ∃ (elseTok : Token) (c4 : Cursor) (elseRead : Read c4 (Stmt × Context)),
          thenRead.cursor.Takes elseTok c4 ∧ elseTok.kind = .elseKw ∧
          statement thenRead.value.2 c4 = .ok elseRead ∧
          r.value = (.ifElse cond.value thenRead.value.1 (some elseRead.value.1) kw.loc,
            elseRead.value.2) ∧ r.cursor = elseRead.cursor) := by
  rw [statement] at parsed
  split at parsed
  case h_2 =>
    rcases Except.ok_of_bind_eq_ok parsed with ⟨⟨kw, c1, h1⟩, advanced, parsed⟩
    rcases Except.ok_of_bind_eq_ok parsed with ⟨⟨cond, c2, h2⟩, condRead, parsed⟩
    rcases Except.ok_of_bind_eq_ok parsed with ⟨⟨⟨thenBranch, ctx3⟩, c3, h3⟩, thenRead, parsed⟩
    refine ⟨kw, c1, _, _, Cursor.takes_of_advance advanced, condRead, thenRead, ?_⟩
    dsimp only at parsed
    split at parsed
    · rename_i isElse
      rcases Except.ok_of_bind_eq_ok parsed with ⟨⟨elseTok, c4, h4⟩, elseTaken, parsed⟩
      have elseStep : c3.Takes elseTok c4 := Cursor.takes_of_advance elseTaken
      rcases Except.ok_of_bind_eq_ok parsed with ⟨⟨⟨elseBranch, ctx5⟩, c5, h5⟩, elseRead, parsed⟩
      cases parsed
      refine Or.inr ⟨elseTok, c4, _, elseStep, ?_, elseRead, rfl, rfl⟩
      rw [elseStep.1]
      exact isElse
    · rename_i notElse
      cases parsed
      exact Or.inl ⟨notElse, rfl, rfl⟩
  all_goals first
    | (rename_i kindEq; rw [isIf] at kindEq; cases kindEq)
    | contradiction

/-- A `while`: the keyword, a condition and the body, read in the context of the loop. -/
theorem statement_eq_ok_of_while {r : Read c (Stmt × Context)}
    (parsed : statement ctx c = .ok r) (isWhile : c.look.kind = .whileKw) :
    ∃ (kw : Token) (c1 : Cursor) (cond : Read c1 Expr) (body : Read cond.cursor (Stmt × Context)),
      c.Takes kw c1 ∧ condition ctx c1 = .ok cond ∧ statement ctx cond.cursor = .ok body ∧
      r.value = (.whileLoop cond.value body.value.1 kw.loc, body.value.2) ∧
      r.cursor = body.cursor := by
  rw [statement] at parsed
  split at parsed
  case h_3 =>
    rcases Except.ok_of_bind_eq_ok parsed with ⟨⟨kw, c1, h1⟩, advanced, parsed⟩
    rcases Except.ok_of_bind_eq_ok parsed with ⟨⟨cond, c2, h2⟩, condRead, parsed⟩
    rcases Except.ok_of_bind_eq_ok parsed with ⟨⟨⟨body, ctx3⟩, c3, h3⟩, bodyRead, parsed⟩
    cases parsed
    exact ⟨kw, c1, _, _, Cursor.takes_of_advance advanced, condRead, bodyRead, rfl, rfl⟩
  all_goals first
    | (rename_i kindEq; rw [isWhile] at kindEq; cases kindEq)
    | contradiction

/-- How a `for` loop reads its first statement: a declaration, or else an expression statement. -/
def ForInitRead (ctx : Context) (c : Cursor) (init : Read c (Stmt × Context)) : Prop :=
  (c.look.kind = .varKw ∧ ∃ d : Read c (VarDecl × Context),
      varDecl ctx c = .ok d ∧ init.value = (.varDecl d.value.1, d.value.2) ∧
        init.cursor = d.cursor) ∨
    (c.look.kind ≠ .varKw ∧ exprStatement ctx c = .ok init)

/--
A `for`: the keyword and `(`, then, in a new scope, the first statement (a declaration or an
expression statement), the test, which is a boolean, `;`, the step and `)`, then the body in
a second new scope. It is read as a block of the first statement and a `while` loop whose
body is a block of the statement and the step.
-/
theorem statement_eq_ok_of_for {r : Read c (Stmt × Context)}
    (parsed : statement ctx c = .ok r) (isFor : c.look.kind = .forKw) :
    ∃ (kw lp semi rp : Token) (c1 c2 c5 c7 : Cursor) (init : Read c2 (Stmt × Context))
      (test : Read init.cursor Expr) (step : Read c5 Expr) (body : Read c7 (Stmt × Context)),
      c.Takes kw c1 ∧ c1.Takes lp c2 ∧ lp.kind = .lParen ∧
      ForInitRead ctx.enter.1 c2 init ∧
      expression init.value.2 init.cursor = .ok test ∧
      init.value.2.expectBool test.value = .ok () ∧
      test.cursor.Takes semi c5 ∧ semi.kind = .semicolon ∧
      expression init.value.2 c5 = .ok step ∧
      step.cursor.Takes rp c7 ∧ rp.kind = .rParen ∧
      statement init.value.2.enter.1 c7 = .ok body ∧
      r.value = (.block ctx.enter.2 [init.value.1, .whileLoop test.value
          (.block init.value.2.enter.2 [body.value.1, .expr step.value c5.look.loc] kw.loc) kw.loc]
          kw.loc,
        (body.value.2.exit init.value.2.enter.2).exit ctx.enter.2) ∧
      r.cursor = body.cursor := by
  rw [statement] at parsed
  split at parsed
  case h_4 =>
    rcases Except.ok_of_bind_eq_ok parsed with ⟨⟨kw, c1, h1⟩, advanced, parsed⟩
    rcases Except.ok_of_bind_eq_ok parsed with ⟨⟨lp, c2, h2⟩, lpRead, parsed⟩
    rcases Except.ok_of_bind_eq_ok parsed with ⟨⟨⟨init, ctx3⟩, c3, h3⟩, initRead, parsed⟩
    rcases Except.ok_of_bind_eq_ok parsed with ⟨⟨test, c4, h4⟩, testRead, parsed⟩
    rcases Except.ok_of_bind_eq_ok parsed with ⟨u, testBool, parsed⟩
    rcases Except.ok_of_bind_eq_ok parsed with ⟨⟨semi, c5, h5⟩, semiRead, parsed⟩
    rcases Except.ok_of_bind_eq_ok parsed with ⟨⟨step, c6, h6⟩, stepRead, parsed⟩
    rcases Except.ok_of_bind_eq_ok parsed with ⟨⟨rp, c7, h7⟩, rpRead, parsed⟩
    rcases Except.ok_of_bind_eq_ok parsed with ⟨⟨⟨body, ctx8⟩, c8, h8⟩, bodyRead, parsed⟩
    cases parsed
    have lpStep := Cursor.takes_of_expect lpRead
    have semiStep := Cursor.takes_of_expect semiRead
    have rpStep := Cursor.takes_of_expect rpRead
    refine ⟨kw, lp, semi, rp, c1, c2, c5, c7, ⟨(init, ctx3), c3, h3⟩, ⟨test, c4, h4⟩,
      ⟨step, c6, h6⟩, ⟨(body, ctx8), c8, h8⟩, Cursor.takes_of_advance advanced,
      lpStep.2, List.mem_singleton.1 lpStep.1, ?_, testRead, Cursor.lift_eq_ok.1 testBool,
      semiStep.2, List.mem_singleton.1 semiStep.1, stepRead, rpStep.2,
      List.mem_singleton.1 rpStep.1, bodyRead, rfl, rfl⟩
    split at initRead
    · rename_i isVar
      rcases Except.ok_of_bind_eq_ok initRead with ⟨⟨⟨d, ctx3'⟩, c3', h3'⟩, declRead, initRead⟩
      cases initRead
      exact Or.inl ⟨isVar, _, declRead, rfl, rfl⟩
    · rename_i notVar
      exact Or.inr ⟨notVar, initRead⟩
  all_goals first
    | (rename_i kindEq; rw [isFor] at kindEq; cases kindEq)
    | contradiction

/-- A statement that starts with `var` is a variable declaration. -/
theorem statement_eq_ok_of_var {r : Read c (Stmt × Context)}
    (parsed : statement ctx c = .ok r) (isVar : c.look.kind = .varKw) :
    ∃ d : Read c (VarDecl × Context), varDecl ctx c = .ok d ∧
      r.value = (.varDecl d.value.1, d.value.2) ∧ r.cursor = d.cursor := by
  rw [statement] at parsed
  split at parsed
  case h_5 =>
    rcases Except.ok_of_bind_eq_ok parsed with ⟨⟨⟨d, ctx1⟩, c1, h1⟩, declRead, parsed⟩
    cases parsed
    exact ⟨_, declRead, rfl, rfl⟩
  all_goals first
    | (rename_i kindEq; rw [isVar] at kindEq; cases kindEq)
    | contradiction

/-- A `return`: the keyword, the value and `;`; the context does not change. -/
theorem statement_eq_ok_of_return {r : Read c (Stmt × Context)}
    (parsed : statement ctx c = .ok r) (isReturn : c.look.kind = .returnKw) :
    ∃ (kw semi : Token) (c1 : Cursor) (value : Read c1 Expr), c.Takes kw c1 ∧
      expression ctx c1 = .ok value ∧ value.cursor.Takes semi r.cursor ∧
      semi.kind = .semicolon ∧ r.value = (.ret value.value kw.loc, ctx) := by
  rw [statement] at parsed
  split at parsed
  case h_6 =>
    rcases Except.ok_of_bind_eq_ok parsed with ⟨⟨kw, c1, h1⟩, advanced, parsed⟩
    rcases Except.ok_of_bind_eq_ok parsed with ⟨⟨value, c2, h2⟩, valueRead, parsed⟩
    rcases Except.ok_of_bind_eq_ok parsed with ⟨⟨semi, c3, h3⟩, semiRead, parsed⟩
    cases parsed
    have semiStep := Cursor.takes_of_expect semiRead
    exact ⟨kw, semi, c1, _, Cursor.takes_of_advance advanced, valueRead, semiStep.2,
      List.mem_singleton.1 semiStep.1, rfl⟩
  all_goals first
    | (rename_i kindEq; rw [isReturn] at kindEq; cases kindEq)
    | contradiction

/-- A statement starts with one of the kinds that can start one. -/
theorem statement_start {r : Read c (Stmt × Context)} (parsed : statement ctx c = .ok r) :
    c.look.kind ∈ statementStart := by
  rw [statement] at parsed
  split at parsed
  all_goals first
    | (rename_i kindEq; rw [kindEq]; decide)
    | skip
  split at parsed
  · rename_i start
    exact List.mem_append_right _ start
  · cases parsed

/-- A statement that starts an expression is an expression statement. -/
theorem statement_of_exprStart (start : c.look.kind ∈ TokenKind.exprStart) :
    statement ctx c = exprStatement ctx c := by
  rw [statement]
  split
  all_goals first
    | (rename_i kindEq; rw [kindEq] at start; simp [TokenKind.exprStart] at start)
    | (rw [if_pos start])

/-- A block: `{`, statements in a new scope, and `}`, after which the scope is closed. -/
theorem block_eq_ok {r : Read c (Block × Context)} (parsed : block ctx c = .ok r) :
    ∃ (lb rb : Token) (c1 : Cursor)
      (body : List Stmt × Context × { c' : Cursor // c'.left ≤ c1.left }),
      c.Takes lb c1 ∧ lb.kind = .lBrace ∧ blockBody ctx.enter.1 c1 = .ok body ∧
      body.2.2.1.Takes rb r.cursor ∧ rb.kind = .rBrace ∧
      r.value = (⟨ctx.enter.2, body.1, lb.loc⟩, body.2.1.exit ctx.enter.2) := by
  rw [block] at parsed
  rcases Except.ok_of_bind_eq_ok parsed with ⟨⟨lb, c1, h1⟩, lbRead, parsed⟩
  rcases Except.ok_of_bind_eq_ok parsed with ⟨⟨stmts, ctx2, c2, h2⟩, bodyRead, parsed⟩
  rcases Except.ok_of_bind_eq_ok parsed with ⟨⟨rb, c3, h3⟩, rbRead, parsed⟩
  cases parsed
  have lbStep := Cursor.takes_of_expect lbRead
  have rbStep := Cursor.takes_of_expect rbRead
  exact ⟨lb, rb, c1, _, lbStep.2, List.mem_singleton.1 lbStep.1, bodyRead, rbStep.2,
    List.mem_singleton.1 rbStep.1, rfl⟩

/-- The statements of a block: none before `}`, otherwise a statement and the rest. -/
theorem blockBody_eq_ok {res : List Stmt × Context × { c' : Cursor // c'.left ≤ c.left }}
    (parsed : blockBody ctx c = .ok res) :
    (c.look.kind = .rBrace ∧ res.1 = [] ∧ res.2.1 = ctx ∧ res.2.2.1 = c) ∨
      (c.look.kind ≠ .rBrace ∧ ∃ (s : Read c (Stmt × Context))
        (rest : List Stmt × Context × { c' : Cursor // c'.left ≤ s.cursor.left }),
        statement ctx c = .ok s ∧ blockBody s.value.2 s.cursor = .ok rest ∧
        res.1 = s.value.1 :: rest.1 ∧ res.2.1 = rest.2.1 ∧ res.2.2.1 = rest.2.2.1) := by
  rw [blockBody] at parsed
  split at parsed
  · rename_i isClose
    cases parsed
    exact Or.inl ⟨isClose, rfl, rfl, rfl⟩
  · rename_i notClose
    rcases Except.ok_of_bind_eq_ok parsed with ⟨⟨⟨s, ctx1⟩, c1, h1⟩, stmtRead, parsed⟩
    rcases Except.ok_of_bind_eq_ok parsed with ⟨⟨rest, ctx2, c2, h2⟩, restRead, parsed⟩
    cases parsed
    exact Or.inr ⟨notClose, _, _, stmtRead, restRead, rfl, rfl, rfl⟩

end

end Parse

end ImpFront
