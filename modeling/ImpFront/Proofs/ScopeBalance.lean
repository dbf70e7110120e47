import ImpFront.Proofs.Definitions
import ImpFront.Proofs.ForLoops

/-!
# Every rule of the reader closes the scopes it opens

The reader keeps a current scope (`Context.current`). A block opens a scope after its opening
brace and closes it after its closing brace; a `for` loop opens a scope for its first statement,
test and step, and a second one for its body, and closes the second before the first; a function
opens a scope for its parameters, inside which its body's block opens its own, and closes it
after the body. Closing a scope makes its parent current (`Context.exit`), and the reader asserts
that the scope it closes is the current one. Expressions only read the context: no expression
rule returns one.

`Context.KeepsCurrent ctx ctx'` says that the scope current in `ctx`, if one is, is current in
`ctx'` again, and that names are defined in the same scope in both. Every statement the reader
builds keeps the current scope (`StmtsRead.keepsCurrent`), by induction over the judgment of
`ImpFront.Proofs.Derivations`: at a block, the statements read inside keep the block's own scope
current, so it is the current scope when the block closes it (`Context.closes_enter`), and its
parent, the scope around the block, becomes current again. Main statement: `Parse.scopes_balanced`.
-/

namespace ImpFront

namespace Context

/--
The scope current in `ctx`, if one is, is current in `ctx'` again, and names are defined in the
same scope in both.
-/
structure KeepsCurrent (ctx ctx' : Context) : Prop where
  current : ∀ s, ctx.current = some s → ctx'.current = some s
  scope : ctx'.scope = ctx.scope

variable {ctx ctx₁ ctx₂ : Context}

theorem KeepsCurrent.refl (ctx : Context) : ctx.KeepsCurrent ctx := ⟨fun _ current => current, rfl⟩

theorem KeepsCurrent.trans (first : ctx.KeepsCurrent ctx₁) (second : ctx₁.KeepsCurrent ctx₂) :
    ctx.KeepsCurrent ctx₂ :=
  ⟨fun s current => second.current s (first.current s current), second.scope.trans first.scope⟩

/-- Defining a name changes no scope. -/
theorem keepsCurrent_define {name : String} {x : Entry} {loc : Location} {id : EntryId}
    (defined : ctx.define name x loc = .ok (ctx₁, id)) : ctx.KeepsCurrent ctx₁ :=
  ⟨fun _ current => (define_eq_ok defined).2.trans current, scope_define defined⟩

/--
A scope opened from `ctx`, and kept current by what is read inside it, is the current scope when
it is closed; closing it makes the scope of `ctx` current again.
-/
theorem closes_enter (grows : ctx.enter.1.table.GrowsTo ctx₁.table)
    (keeps : ctx.enter.1.KeepsCurrent ctx₁) :
    ctx₁.current = some ctx.enter.2 ∧ ctx.KeepsCurrent (ctx₁.exit ctx.enter.2) := by
  refine ⟨keeps.current _ (enter_current ctx), ⟨fun s isCurrent => ?_, scope_exit_enter grows⟩⟩
  rw [exit_current, grows.parent _ ctx.enter_present, parent_enter]
  simp [scope, isCurrent]

end Context

/--
A `for` loop closes its body's scope while it is current, inside the scope of its first statement,
and then that scope while it is current, when what is read in each keeps it current.
-/
theorem StmtsRead.closes_loop {ctx ctx₁ ctx₂ : Context} {init body : Stmt}
    (initRead : StmtsRead ctx.enter.1 [init] ctx₁) (bodyRead : StmtsRead ctx₁.enter.1 [body] ctx₂)
    (initKeeps : ctx.enter.1.KeepsCurrent ctx₁) (bodyKeeps : ctx₁.enter.1.KeepsCurrent ctx₂) :
    ctx₂.current = some ctx₁.enter.2 ∧ (ctx₂.exit ctx₁.enter.2).current = some ctx.enter.2 ∧
      ctx.KeepsCurrent ((ctx₂.exit ctx₁.enter.2).exit ctx.enter.2) := by
  have bodyGrows := (bodyRead.changes (Context.enter_present ctx₁)).grows
  have inner := Context.closes_enter bodyGrows bodyKeeps
  have outerGrows : ctx.enter.1.table.GrowsTo (ctx₂.exit ctx₁.enter.2).table :=
    (initRead.changes (Context.enter_present ctx)).grows.trans (ctx₁.grows_enter.trans bodyGrows)
  have outer := Context.closes_enter outerGrows (initKeeps.trans inner.2)
  exact ⟨inner.1, outer.1, outer.2⟩

/--
Every statement the reader builds keeps the current scope, by induction over the judgment: a
block, and each of the two blocks of a `for` loop, closes the scope it opened while it is current.
-/
theorem StmtsRead.keepsCurrent {ctx ctx' : Context} {stmts : List Stmt}
    (read : StmtsRead ctx stmts ctx') : ctx.KeepsCurrent ctx' := by
  induction read with
  | nil ctx => exact .refl ctx
  | cons _ _ firstIH laterIH => exact firstIH.trans laterIH
  | block body bodyIH =>
    exact (Context.closes_enter (body.changes (Context.enter_present _)).grows bodyIH).2
  | ifThen _ _ _ thenIH => exact thenIH
  | ifElse _ _ _ _ thenIH elseIH => exact thenIH.trans elseIH
  | whileLoop _ _ _ bodyIH => exact bodyIH
  | forLoop initRead _ _ _ bodyRead initIH bodyIH =>
    exact (closes_loop initRead bodyRead initIH bodyIH).2.2
  | varDecl _ defined => exact Context.keepsCurrent_define defined
  | ret _ => exact .refl _
  | expr _ => exact .refl _

/-- Parameters are defined in the current scope, which stays current. -/
theorem ParamsRead.keepsCurrent {ctx ctx' : Context} {ids : List EntryId}
    (read : ParamsRead ctx ids ctx') : ctx.KeepsCurrent ctx' := by
  induction read with
  | nil ctx => exact .refl ctx
  | cons _ defined _ laterIH => exact (Context.keepsCurrent_define defined).trans laterIH

/-- Reading parameters grows the table: it opens no scope and appends their bindings. -/
theorem ParamsRead.grows {ctx ctx' : Context} {ids : List EntryId} (read : ParamsRead ctx ids ctx')
    (present : ctx.scope.index < ctx.table.scopeCount) : ctx.table.GrowsTo ctx'.table :=
  ScopeTable.GrowsTo.of_opens read.opens (read.defines present)

namespace Parse

variable {ctx : Context} {c : Cursor}

/--
A function closes its parameters' scope after its body while that scope is current, and then
defines its name in the scope that was current before it.
-/
theorem funcDef_closes {index : Nat} {r : Read c (FuncDef × Context)}
    (parsed : funcDef index ctx c = .ok r) :
    ∃ (c1 : Cursor) (ps : Read c1 (List EntryId × Context)) (body : Read ps.cursor (Block × Context)),
      paramList ctx.enter.1 c1 = .ok ps ∧ block ps.value.2 ps.cursor = .ok body ∧
      body.value.2.current = some ctx.enter.2 ∧ ctx.KeepsCurrent r.value.2 := by
  obtain ⟨name, c1, ps, body, returnType, entry, -, -, psRead, bodyRead, -, defined, -, -⟩ :=
    funcDef_eq_ok parsed
  have params := paramList_reads psRead
  have paramsKeep := params.keepsCurrent
  have paramsGrow := params.grows (Context.enter_present ctx)
  have bodyPresent : ps.value.2.scope.index < ps.value.2.table.scopeCount := by
    rw [paramsKeep.scope]
    exact Nat.lt_of_lt_of_le (Context.enter_present ctx) paramsGrow.scopeCount_le
  have bodyStmts := block_reads bodyRead
  have closed := Context.closes_enter (paramsGrow.trans (bodyStmts.changes bodyPresent).grows)
    (paramsKeep.trans bodyStmts.keepsCurrent)
  exact ⟨c1, ps, body, psRead, bodyRead, closed.1,
    closed.2.trans (Context.keepsCurrent_define defined)⟩

end Parse

/--
The scope discipline of the reader. Every rule that succeeds (a statement of any form, a block, a
variable declaration, a parameter list, a function definition, a declaration) leaves the scope
that was current current again, and each scope it closes is the current one when it is closed: a
block's own scope after its statements, a `for` loop's body scope and then its outer scope, a
function's parameters' scope after its body.
-/
structure Parse.ScopesBalanced : Prop where
  statement : ∀ ctx c (r : Read c (Stmt × Context)), Parse.statement ctx c = .ok r →
    ctx.KeepsCurrent r.value.2
  block : ∀ ctx c (r : Read c (Block × Context)), Parse.block ctx c = .ok r →
    ctx.KeepsCurrent r.value.2
  varDecl : ∀ ctx c (r : Read c (VarDecl × Context)), Parse.varDecl ctx c = .ok r →
    ctx.KeepsCurrent r.value.2
  paramList : ∀ ctx c (r : Read c (List EntryId × Context)), Parse.paramList ctx c = .ok r →
    ctx.KeepsCurrent r.value.2
  funcDef : ∀ index ctx c (r : Read c (FuncDef × Context)), Parse.funcDef index ctx c = .ok r →
    ctx.KeepsCurrent r.value.2
  declaration : ∀ index ctx c (r : Read c (Decl × Context)),
    Parse.declaration index ctx c = .ok r → ctx.KeepsCurrent r.value.2
  blockCloses : ∀ ctx c (r : Read c (Block × Context)), Parse.block ctx c = .ok r →
    ∃ c1 body, Parse.blockBody ctx.enter.1 c1 = .ok body ∧
      body.2.1.current = some ctx.enter.2 ∧ r.value.2 = body.2.1.exit ctx.enter.2
  forCloses : ∀ ctx c (r : Read c (Stmt × Context)), c.look.kind = .forKw →
    Parse.statement ctx c = .ok r → ∃ (c2 : Cursor) (init : Read c2 (Stmt × Context)) (c7 : Cursor)
      (body : Read c7 (Stmt × Context)),
      Parse.ForInitRead ctx.enter.1 c2 init ∧
      Parse.statement init.value.2.enter.1 c7 = .ok body ∧
      body.value.2.current = some init.value.2.enter.2 ∧
      (body.value.2.exit init.value.2.enter.2).current = some ctx.enter.2 ∧
      r.value.2 = (body.value.2.exit init.value.2.enter.2).exit ctx.enter.2
  funcDefCloses : ∀ index ctx c (r : Read c (FuncDef × Context)),
    Parse.funcDef index ctx c = .ok r → ∃ (c1 : Cursor) (ps : Read c1 (List EntryId × Context))
      (body : Read ps.cursor (Block × Context)),
      Parse.paramList ctx.enter.1 c1 = .ok ps ∧ Parse.block ps.value.2 ps.cursor = .ok body ∧
      body.value.2.current = some ctx.enter.2

namespace Parse

/--
Scopes are balanced by every rule of the reader: each one that succeeds leaves the current scope
as it found it, and closes each scope it opened while that scope is current, the last opened first.
-/
theorem scopes_balanced : ScopesBalanced where
  statement _ _ _ parsed := (statement_reads_all.1 _ _ _ parsed).keepsCurrent
  block _ _ _ parsed := (block_reads parsed).keepsCurrent
  varDecl _ _ _ parsed := (varDecl_reads parsed).keepsCurrent
  paramList _ _ _ parsed := (paramList_reads parsed).keepsCurrent
  funcDef _ _ _ _ parsed := by
    obtain ⟨-, -, -, -, -, -, keeps⟩ := funcDef_closes parsed
    exact keeps
  declaration index ctx c r parsed := by
    rcases declaration_eq_ok parsed with ⟨-, d, declRead, valueEq, -⟩ | ⟨-, f, funcRead, valueEq, -⟩
    · rw [valueEq]
      exact (varDecl_reads declRead).keepsCurrent
    · obtain ⟨-, -, -, -, -, -, keeps⟩ := funcDef_closes funcRead
      rw [valueEq]
      exact keeps
  blockCloses ctx c r parsed := by
    obtain ⟨lb, rb, c1, body, -, -, bodyRead, -, -, valueEq⟩ := block_eq_ok parsed
    have inside := statement_reads_all.2.2 _ _ _ bodyRead
    have closed := Context.closes_enter (inside.changes (Context.enter_present ctx)).grows
      inside.keepsCurrent
    exact ⟨c1, body, bodyRead, closed.1, by rw [valueEq]⟩
  forCloses ctx c r isFor parsed := by
    obtain ⟨kw, lp, semi, rp, c1, c2, c5, c7, init, test, step, body, -, -, -, initAlt, -, -, -, -,
      -, -, -, bodyRead, valueEq, -⟩ := statement_eq_ok_of_for parsed isFor
    have initStmts := initAlt.reads
    have bodyStmts := statement_reads_all.1 _ _ _ bodyRead
    obtain ⟨innerCurrent, outerCurrent, -⟩ :=
      initStmts.closes_loop bodyStmts initStmts.keepsCurrent bodyStmts.keepsCurrent
    exact ⟨c2, init, c7, body, initAlt, bodyRead, innerCurrent, outerCurrent, by rw [valueEq]⟩
  funcDefCloses _ _ _ _ parsed := by
    obtain ⟨c1, ps, body, psRead, bodyRead, closing, -⟩ := funcDef_closes parsed
    exact ⟨c1, ps, body, psRead, bodyRead, closing⟩

end Parse

end ImpFront
