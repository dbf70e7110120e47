import ImpFront.Proofs.Transport.Statements
import ImpFront.Proofs.NameResolution
import ImpFront.Proofs.TableFrames

/-!
# A `for` loop and its `while` form

The reader reads `for ( I T ; P ) S` as the tree of `{ I while ( T ) { S P ; } }`
(`LoopParts.tree`), with both blocks and the loop at the `for` keyword. The hand-written form
reads the same tokens `I`, `T`, `P` and `S` in another order, and this module compares the two
readings, each way.

They differ where the step `P` is resolved. The `for` loop reads it before the body, in the scope
of `I`; the `while` form reads it after the body, in the scope of the loop body, which holds what
`S` itself declares there. Every other name resolves alike in the two scopes, both ways
(`Parse.ForInitRead.resolvesAlike`). So when `P` makes the reader look up no name that `S`
declares directly in that scope (`LoopParts.StepClear`), a `for` loop makes its `while` form read
to the same tree up to the locations of the two blocks and the loop
(`Parse.statement_for_reads_as_while`), and a `while` form makes its `for` loop read so
(`Parse.statement_while_reads_as_for`), as long as no `else` follows, which the `for` loop's body
could take. Otherwise the two can part: a step that assigns a variable the body declares is an
error in the `for` loop and fine in the `while` form (`Program.ofSource_forStep_readBeforeBody`).
-/

namespace ImpFront

/-! ## The parts of a loop -/

/--
A statement declares no variable named `name` in the scope it stands in, the variables' names as
the table `t` has them.
-/
def Stmt.Undeclared (t : ScopeTable) (x : Stmt) (name : String) : Prop :=
  ∀ d ∈ x.declaredHere, (t.entry d).name ≠ name

/-- Whether a statement can be a `for` loop's first one: a declaration or an expression statement. -/
def Stmt.isForInit : Stmt → Bool
  | .varDecl _ | .expr .. => true
  | _ => false

/-- The kinds of token that a statement read as this tree starts with. -/
def Stmt.startKinds : Stmt → List TokenKind
  | .block .. => [.lBrace, .forKw]
  | .ifElse .. => [.ifKw]
  | .whileLoop .. => [.whileKw]
  | .ret .. => [.returnKw]
  | .expr .. => TokenKind.exprStart
  | .varDecl _ => [.varKw]

/--
What the tree of a loop is made of: the scope of the loop's first statement and that statement,
the test, the scope of the loop body, the body's statement, and the step with the location of its
first token.
-/
structure LoopParts where
  outer : ScopeId
  init : Stmt
  test : Expr
  inner : ScopeId
  body : Stmt
  step : Expr
  stepLoc : Location

namespace LoopParts

/--
The tree `{ init while ( test ) { body step ; } }`: the outer block at `blockLoc`, the loop at
`whileLoc` and the loop body's block at `bodyLoc`. A `for` loop reads as this tree with all three
at its keyword; its hand-written form, with each at its own token.
-/
def tree (l : LoopParts) (blockLoc whileLoc bodyLoc : Location) : Stmt :=
  .block l.outer [l.init, .whileLoop l.test
    (.block l.inner [l.body, .expr l.step l.stepLoc] bodyLoc) whileLoc] blockLoc

/-- The parts and the three locations of the tree of a loop, if a statement is one. -/
def ofTree? : Stmt → Option (LoopParts × Location × Location × Location)
  | .block outer [init, .whileLoop test (.block inner [body, .expr step stepLoc] bodyLoc) whileLoc]
      blockLoc => some (⟨outer, init, test, inner, body, step, stepLoc⟩, blockLoc, whileLoc, bodyLoc)
  | _ => none

theorem eq_tree_of_ofTree? {x : Stmt} {l : LoopParts} {blockLoc whileLoc bodyLoc : Location}
    (found : ofTree? x = some (l, blockLoc, whileLoc, bodyLoc)) :
    x = l.tree blockLoc whileLoc bodyLoc := by
  unfold ofTree? at found
  split at found
  · cases found
    rfl
  · cases found

/--
The step, written as the tokens `P`, makes the reader look up no name that the loop's body
declares directly in the loop body's scope, the declarations' names as the table `t` has them.
-/
def StepClear (l : LoopParts) (t : ScopeTable) (P : List Token) : Prop :=
  ∀ name ∈ P.flatMap Token.namesUsed, l.body.Undeclared t name

/-- Each token of a clear step looks up only names that the body leaves undeclared. -/
theorem StepClear.names {l : LoopParts} {t : ScopeTable} {P : List Token}
    (clear : l.StepClear t P) : ∀ tok ∈ P, ∀ name ∈ tok.namesUsed, l.body.Undeclared t name :=
  fun tok member name used => clear name (List.mem_flatMap.2 ⟨tok, member, used⟩)

end LoopParts

/-! ## The scope of the loop body -/

/-- A scope that does not bind a name looks it up as its parent does. -/
theorem ScopeTable.lookup_eq_of_unbound {t : ScopeTable} {s p : ScopeId} {name : String}
    (unbound : (t.bindingsOf s).lookup name = none) (isParent : t.parent s = some p)
    (below : p.index < s.index) : t.lookup s name = t.lookup p name := by
  have resolved : t.resolve name s = t.resolve name p := by
    rw [ScopeTable.resolve.eq_1 t name s]
    simp [ScopeTable.lookupLocal_eq, unbound, isParent, below]
  unfold ScopeTable.lookup
  rw [resolved]

/--
After a `for` loop's body, the scope of the loop body looks a name up as the scope of the loop's
first statement did, when the body declares no variable of that name directly in it: the inner
scope does not bind the name, its parent is that scope, and the body changed no scope from there
up to the root.
-/
theorem StmtsScoped.lookup_eq {ctx ctx' : Context} {body : Stmt} {name : String}
    (sound' : ctx'.table.TypeSound) (present : ctx.scope.index < ctx.table.scopeCount)
    (changes : StmtsScoped ctx.enter.1 ctx' [body]) (clear : body.Undeclared ctx'.table name)
    (loc : Location) : ctx'.lookup name loc = ctx.lookup name loc := by
  have grows : ctx.table.GrowsTo ctx'.table := ctx.grows_enter.trans changes.grows
  have unbound := changes.lookup_inner_eq_none sound' (.refl _) clear
  have innerParent : ctx'.table.parent ctx.enter.2 = some ctx.scope := by
    rw [changes.grows.parent _ ctx.enter_present, Context.parent_enter]
  have below : ctx.scope.index < ctx.enter.2.index := by
    rw [Context.enter_scope]
    exact present
  have sameAbove : ctx'.table.lookup ctx.scope name = ctx.table.lookup ctx.scope name := by
    apply ScopeTable.lookup_congr
    intro s le
    have present' : s.index < ctx.table.scopeCount := Nat.lt_of_le_of_lt le present
    refine ⟨?_, grows.parent s present'⟩
    rw [changes.elsewhere s (Nat.lt_of_lt_of_le present' ctx.grows_enter.scopeCount_le)
      (Context.ne_enter present'), Context.bindingsOf_enter]
  unfold Context.lookup
  rw [changes.scope, Context.scope_enter, ScopeTable.lookup_eq_of_unbound unbound innerParent below,
    sameAbove]

/--
A context and one grown from it that look the names in `N` up alike resolve them alike both ways,
when the first table is type-sound: what either finds is an entry of the first table, which the
second keeps, and so are the parameters of a function found.
-/
theorem Context.resolvesAlike_of_grows {N : String → Prop} {ctx ctx' : Context}
    (sound : ctx.table.TypeSound) (grows : ctx.table.GrowsTo ctx'.table)
    (same : ∀ name, N name → ∀ loc, ctx'.lookup name loc = ctx.lookup name loc) :
    ctx.ResolvesAlike N ctx' ∧ ctx'.ResolvesAlike N ctx := by
  have kept (name : String) (loc : Location) (id : EntryId) (found : ctx.lookup name loc = .ok id) :
      ctx'.table.entry? id = ctx.table.entry? id := by
    obtain ⟨x, entryFound, -⟩ := sound.entry?_of_lookup found
    rw [grows.entries _ _ entryFound, entryFound]
  have paramsKept (id : EntryId) (f : FuncInfo) (isFunc : ctx.table.funcInfo? id = some f) :
      ∀ p ∈ f.params, ctx'.table.entry? p = ctx.table.entry? p := by
    intro p listed
    obtain ⟨v, isVar⟩ := (sound.funcSigs id f (ScopeTable.funcInfo?_eq_some isFunc)).2 p listed
    rw [grows.entries _ _ isVar, isVar]
  refine ⟨⟨same, fun name _ => kept name, fun _ _ _ id f _ isFunc => paramsKept id f isFunc⟩,
    ⟨fun name named loc => (same name named loc).symm, fun name named loc id found => ?_,
      fun name named loc id f found isFunc p listed => ?_⟩⟩
  · exact (kept name loc id ((same name named loc).symm.trans found)).symm
  · have found₀ := (same name named loc).symm.trans found
    have isFunc₀ : ctx.table.funcInfo? id = some f := by
      rw [← isFunc]
      unfold ScopeTable.funcInfo?
      rw [kept name loc id found₀]
    exact (paramsKept id f isFunc₀ p listed).symm

namespace Parse

variable {ctx : Context} {c : Cursor}

/-- The first statement of a `for` loop reads as a list of one statement. -/
theorem ForInitRead.reads {init : Read c (Stmt × Context)}
    (initAlt : ForInitRead ctx c init) :
    StmtsRead ctx [init.value.1] init.value.2 := by
  rcases initAlt with ⟨-, decl, declRead, initValue, -⟩ | ⟨-, initRead⟩
  · rw [initValue]
    exact varDecl_reads declRead
  · exact exprStatement_reads initRead

/--
The context after a `for` loop's body and the context of the loop's first statement resolve
alike, both ways, every name that the body declares no variable of directly in the loop body's
scope.
-/
theorem ForInitRead.resolvesAlike {c' : Cursor} {init : Read c (Stmt × Context)}
    {body : Read c' (Stmt × Context)} (sound : ctx.table.TypeSound)
    (initAlt : ForInitRead ctx.enter.1 c init)
    (bodyRead : statement init.value.2.enter.1 c' = .ok body) :
    init.value.2.ResolvesAlike (body.value.1.Undeclared body.value.2.table) body.value.2 ∧
      body.value.2.ResolvesAlike (body.value.1.Undeclared body.value.2.table) init.value.2 := by
  have initReads := ForInitRead.reads initAlt
  have initSound := (initReads.typed (Context.enter_sound sound)).sound
  have initPresent :=
    (initReads.changes (Context.enter_present ctx)).present (Context.enter_present ctx)
  have bodyReads := statement_reads_all.1 _ _ body bodyRead
  have bodyChanges := bodyReads.changes (Context.enter_present _)
  have bodySound := (bodyReads.typed (Context.enter_sound initSound)).sound
  exact Context.resolvesAlike_of_grows initSound (init.value.2.grows_enter.trans bodyChanges.grows)
    fun _ clear loc => bodyChanges.lookup_eq bodySound initPresent clear loc

/-! ## What a reading shows of its rule -/

/-- A statement starts with a token of the kinds its tree can start with. -/
theorem statement_look_mem {r : Read c (Stmt × Context)} (parsed : statement ctx c = .ok r) :
    c.look.kind ∈ r.value.1.startKinds := by
  by_cases start : c.look.kind ∈ TokenKind.exprStart
  · rw [statement_of_exprStart start] at parsed
    obtain ⟨e, semi, -, -, -, valueEq⟩ := exprStatement_eq_ok parsed
    rw [valueEq]
    exact start
  · have keyword := statement_start parsed
    simp only [statementStart, List.mem_append, start, or_false, List.mem_cons,
      List.not_mem_nil] at keyword
    rcases keyword with kind | kind | kind | kind | kind | kind
    · obtain ⟨b, -, valueEq, -⟩ := statement_eq_ok_of_lBrace parsed kind
      simp [valueEq, kind, Block.toStmt, Stmt.startKinds]
    · obtain ⟨_, _, _, _, -, -, -, ⟨-, valueEq, -⟩ | ⟨_, _, _, -, -, -, valueEq, -⟩⟩ :=
        statement_eq_ok_of_if parsed kind
      all_goals simp [valueEq, kind, Stmt.startKinds]
    · obtain ⟨_, _, _, _, -, -, -, valueEq, -⟩ := statement_eq_ok_of_while parsed kind
      simp [valueEq, kind, Stmt.startKinds]
    · obtain ⟨_, _, _, _, _, _, _, _, _, _, _, _, -, -, -, -, -, -, -, -, -, -, -, -, valueEq, -⟩ :=
        statement_eq_ok_of_for parsed kind
      simp [valueEq, kind, Stmt.startKinds]
    · obtain ⟨_, -, valueEq, -⟩ := statement_eq_ok_of_var parsed kind
      simp [valueEq, kind, Stmt.startKinds]
    · obtain ⟨_, _, _, _, -, -, -, -, valueEq⟩ := statement_eq_ok_of_return parsed kind
      simp [valueEq, kind, Stmt.startKinds]

/-- A statement read as a declaration or an expression statement is a `for` loop's first one. -/
theorem ForInitRead.of_statement {init : Read c (Stmt × Context)}
    (parsed : statement ctx c = .ok init) (form : init.value.1.isForInit = true) :
    ForInitRead ctx c init := by
  have start := statement_look_mem parsed
  cases isValue : init.value.1 with
  | varDecl v =>
      rw [isValue] at start
      have isVar : c.look.kind = .varKw := List.mem_singleton.1 start
      obtain ⟨decl, declRead, valueEq, cursorEq⟩ := statement_eq_ok_of_var parsed isVar
      exact .inl ⟨isVar, decl, declRead, valueEq, cursorEq⟩
  | expr e loc =>
      rw [isValue] at start
      simp only [Stmt.startKinds] at start
      refine .inr ⟨fun isVar => ?_, ?_⟩
      · rw [isVar] at start
        exact absurd start (by decide)
      · rw [← statement_of_exprStart start]
        exact parsed
  | block | ifElse | whileLoop | ret =>
      rw [isValue] at form
      cases form

/-- A statement read as a block whose second statement is an expression statement is a block. -/
theorem statement_look_of_block_expr {r : Read c (Stmt × Context)} {s : ScopeId} {x : Stmt}
    {e : Expr} {loc loc' : Location} (parsed : statement ctx c = .ok r)
    (isBlock : r.value.1 = .block s [x, .expr e loc'] loc) : c.look.kind = .lBrace := by
  have start := statement_look_mem parsed
  simp only [isBlock, Stmt.startKinds, List.mem_cons, List.not_mem_nil, or_false] at start
  rcases start with isBrace | isFor
  · exact isBrace
  · obtain ⟨_, _, _, _, _, _, _, _, _, _, _, _, -, -, -, -, -, -, -, -, -, -, -, -, valueEq, -⟩ :=
      statement_eq_ok_of_for parsed isFor
    rw [valueEq] at isBlock
    simp at isBlock

/-- An expression takes at least one token. -/
theorem expression_consumed_ne_nil {r : Read c Expr} {u : List Token}
    (parsed : expression ctx c = .ok r) (consumed : c.Consumed u r.cursor) : u ≠ [] := by
  obtain ⟨u', consumed', munched⟩ := expression_munches parsed
  obtain ⟨t, w, rfl, -⟩ := munched.word.head
  rw [Cursor.map_ok_cancel (consumed.symm.trans consumed')]
  exact List.cons_ne_nil t w

end Parse

namespace Cursor

variable {d e : Cursor} {t : Token} {x : List Token}

/-- A cursor takes its lookahead when a cursor's results follow the tokens after it. -/
theorem takes_of_ahead_append (ahead : d.ahead = (t :: x).map .ok ++ e.ahead)
    (notEof : t.kind ≠ .eof) : ∃ d', d.Takes t d' ∧ d'.ahead = x.map .ok ++ e.ahead := by
  obtain ⟨rest, eAhead⟩ := e.ahead_eq_cons
  obtain ⟨t₁, rest', after⟩ : ∃ t₁ rest', x.map .ok ++ e.ahead = .ok t₁ :: rest' := by
    cases x with
    | nil => exact ⟨e.look, rest, eAhead⟩
    | cons t₁ x => exact ⟨t₁, _, rfl⟩
  rw [List.map_cons, List.cons_append, after] at ahead
  obtain ⟨d', taken, ahead'⟩ := takes_of_ahead ahead notEof
  exact ⟨d', taken, ahead'.trans after.symm⟩

theorem Mirror.of_append {A B : List (Except LexError Token)} {c : Cursor} {y z : List Token}
    (cAhead : c.ahead = (x ++ y).map .ok ++ A) (dAhead : d.ahead = (x ++ z).map .ok ++ B) :
    Mirror (y.map .ok ++ A) (z.map .ok ++ B) c d :=
  ⟨x, by rw [cAhead]; simp, by rw [dAhead]; simp⟩

/--
After tokens that an expression starts from, then a token that is not `else`, a statement stops:
the first of them is no `else`.
-/
theorem halts_else_of_start {A B : List (Except LexError Token)} {c : Cursor} {y z : List Token}
    (cAhead : c.ahead = (x ++ z).map .ok ++ A) (start : c.look.kind ∈ TokenKind.exprStart)
    (notElse : t.kind ≠ .elseKw) : Halts (· = .elseKw) ((x ++ t :: y).map .ok ++ B) := by
  cases x with
  | nil => exact ⟨t, _, rfl, notElse⟩
  | cons p x =>
      refine ⟨p, _, rfl, fun isElse => ?_⟩
      rw [look_eq_of_ahead cAhead, isElse] at start
      exact absurd start (by decide)

/-- A stream with a token in it goes on with a token. -/
theorem halts_false_of_cons {B : List (Except LexError Token)} {y : List Token} :
    Halts (fun _ => False) ((x ++ t :: y).map .ok ++ B) := by
  cases x with
  | nil => exact ⟨t, _, rfl, id⟩
  | cons p x => exact ⟨p, _, rfl, id⟩

/-- What a cursor holds goes on with its lookahead. -/
theorem halts_of_look {K : TokenKind → Prop} (notK : ¬K d.look.kind) : Halts K d.ahead := by
  obtain ⟨rest, ahead⟩ := d.ahead_eq_cons
  exact ⟨d.look, rest, ahead, notK⟩

/-- An expression stops before a `,`, a `;` or a `)`. -/
theorem halts_of_closer {B : List (Except LexError Token)} (closes : t.kind ∈ Grammar.argCloser) :
    Halts Grammar.ContinuesAssign (.ok t :: B) :=
  ⟨t, B, rfl, Grammar.not_continuesAssign closes⟩

end Cursor

namespace Parse

open Cursor

variable {ctx : Context} {c d : Cursor}

/-! ## Blocks of two statements -/

/-- A block of two statements, read one after the other inside its braces. -/
theorem statement_eq_of_pair {lb rb : Token} {d1 d' : Cursor} {s₁ : Read d1 (Stmt × Context)}
    {s₂ : Read s₁.cursor (Stmt × Context)} (opened : d.Takes lb d1) (isOpen : lb.kind = .lBrace)
    (first : statement ctx.enter.1 d1 = .ok s₁) (second : statement s₁.value.2 s₁.cursor = .ok s₂)
    (closed : s₂.cursor.Takes rb d') (isClose : rb.kind = .rBrace) :
    ∃ r : Read d (Stmt × Context), statement ctx d = .ok r ∧
      r.value = (.block ctx.enter.2 [s₁.value.1, s₂.value.1] lb.loc, s₂.value.2.exit ctx.enter.2) ∧
      r.cursor = d' := by
  have startsStmt (k : TokenKind) (start : k ∈ statementStart) : k ≠ .rBrace := by
    rintro rfl
    exact absurd start (by decide)
  have atClose : s₂.cursor.look.kind = .rBrace := by rw [← closed.1]; exact isClose
  obtain ⟨rest, restRead, restStmts, restCtx, restCursor⟩ := blockBody_eq_of_cons
    (startsStmt _ (statement_start second)) second
    (blockBody_eq_of_close atClose : blockBody s₂.value.2 s₂.cursor = _)
  obtain ⟨body, bodyRead, bodyStmts, bodyCtx, bodyCursor⟩ :=
    blockBody_eq_of_cons (startsStmt _ (statement_start first)) first restRead
  obtain ⟨b, blockRead, blockValue, blockCursor⟩ :=
    block_eq_of opened isOpen bodyRead (by rw [bodyCursor, restCursor]; exact closed) isClose
  have isBrace : d.look.kind = .lBrace := by rw [← opened.1]; exact isOpen
  refine ⟨_, statement_eq_of_block isBrace blockRead, ?_, blockCursor⟩
  simp only [blockValue, bodyStmts, restStmts, bodyCtx, restCtx, Block.toStmt]

/-- A block read as two statements: its braces, and the two statements read one after the other. -/
theorem statement_eq_ok_of_pair {r : Read d (Stmt × Context)} {s : ScopeId} {x₁ x₂ : Stmt}
    {loc : Location} (parsed : statement ctx d = .ok r) (isBrace : d.look.kind = .lBrace)
    (isPair : r.value.1 = .block s [x₁, x₂] loc) :
    ∃ (lb rb : Token) (d1 : Cursor) (s₁ : Read d1 (Stmt × Context))
      (s₂ : Read s₁.cursor (Stmt × Context)),
      d.Takes lb d1 ∧ statement ctx.enter.1 d1 = .ok s₁ ∧
      statement s₁.value.2 s₁.cursor = .ok s₂ ∧ s₂.cursor.Takes rb r.cursor ∧
      s₁.value.1 = x₁ ∧ s₂.value.1 = x₂ ∧ s = ctx.enter.2 ∧
      r.value.2 = s₂.value.2.exit ctx.enter.2 := by
  obtain ⟨b, blockRead, valueEq, cursorEq⟩ := statement_eq_ok_of_lBrace parsed isBrace
  obtain ⟨lb, rb, d1, body, lbTaken, -, bodyRead, rbTaken, -, blockValue⟩ := block_eq_ok blockRead
  rw [valueEq, blockValue] at isPair
  simp only [Block.toStmt, Stmt.block.injEq] at isPair
  obtain ⟨scopeEq, stmtsEq, -⟩ := isPair
  rcases blockBody_eq_ok bodyRead with ⟨-, noStmts, -, -⟩ |
      ⟨-, s₁, rest, firstRead, restRead, stmts₁, ctx₁, cursor₁⟩
  · rw [noStmts] at stmtsEq
    cases stmtsEq
  rcases blockBody_eq_ok restRead with ⟨-, noStmts, -, -⟩ |
      ⟨-, s₂, rest₂, secondRead, restRead₂, stmts₂, ctx₂, cursor₂⟩
  · rw [stmts₁, noStmts] at stmtsEq
    cases stmtsEq
  rcases blockBody_eq_ok restRead₂ with ⟨-, noStmts, ctx₃, cursor₃⟩ | ⟨-, s₃, _, -, -, stmts₃, -, -⟩
  · rw [stmts₁, stmts₂, noStmts, List.cons.injEq, List.cons.injEq] at stmtsEq
    refine ⟨lb, rb, d1, s₁, s₂, lbTaken, firstRead, secondRead, ?_, stmtsEq.1, stmtsEq.2.1,
      scopeEq.symm, ?_⟩
    · rw [cursorEq, ← cursor₃, ← cursor₂, ← cursor₁]
      exact rbTaken
    · simp only [valueEq, blockValue, ctx₁, ctx₂, ctx₃]
  · rw [stmts₁, stmts₂, stmts₃] at stmtsEq
    simp at stmtsEq

/-! ## From the `for` loop to its `while` form -/

/--
The loop of the hand-written form. A `for` loop reads its test `T`, its step `P` and its body `S`
in that order, the first two in the context `ctx` of its first statement. When the context after
the body resolves the names `P` makes the reader look up as `ctx` does, `while ( T ) { S P ; }` is
read in `ctx` as the loop on the same test whose body is the block of the same body and step, the
step at its first token.
-/
theorem statement_carries_whileForm {N : String → Prop} {e c5 c7 : Cursor} {test : Read c Expr}
    {step : Read c5 Expr} {body : Read c7 (Stmt × Context)} {semi rp wh lp rp' lb semi' rb : Token}
    {T P S Z : List Token}
    (testRead : expression ctx c = .ok test) (testBool : ctx.expectBool test.value = .ok ())
    (consumedTest : c.Consumed T test.cursor) (semiTaken : test.cursor.Takes semi c5)
    (stepRead : expression ctx c5 = .ok step) (consumedStep : c5.Consumed P step.cursor)
    (rpTaken : step.cursor.Takes rp c7)
    (bodyRead : statement ctx.enter.1 c7 = .ok body) (consumedBody : c7.Consumed S body.cursor)
    (alike : ctx.ResolvesAlike N body.value.2) (named : ∀ t ∈ P, ∀ n ∈ t.namesUsed, N n)
    (isWh : wh.kind = .whileKw) (isLp : lp.kind = .lParen) (isRp' : rp'.kind = .rParen)
    (isLb : lb.kind = .lBrace) (isSemi' : semi'.kind = .semicolon) (isRb : rb.kind = .rBrace)
    (dAhead : d.ahead =
      (wh :: lp :: T ++ rp' :: lb :: S ++ P ++ semi' :: rb :: Z).map .ok ++ e.ahead) :
    ∃ loop : Read d (Stmt × Context), statement ctx d = .ok loop ∧
      loop.value = (.whileLoop test.value
        (.block ctx.enter.2 [body.value.1, .expr step.value c5.look.loc] lb.loc) wh.loc,
        body.value.2.exit ctx.enter.2) ∧
      loop.cursor.ahead = Z.map .ok ++ e.ahead := by
  simp only [List.append_assoc, List.cons_append] at dAhead
  have aheadStep := rpTaken.consumed.ahead_of consumedBody
  have ahead5 := consumedStep.ahead_of aheadStep
  have aheadTest := semiTaken.consumed.ahead_of ahead5
  have aheadC := consumedTest.ahead_of aheadTest
  have stepStart := expression_start stepRead
  have stepNonempty := expression_consumed_ne_nil stepRead consumedStep
  obtain ⟨d1, whTaken, ahead1⟩ := takes_of_ahead_append dAhead (by rw [isWh]; decide)
  obtain ⟨d2, lpTaken, ahead2⟩ := takes_of_ahead_append ahead1 (by rw [isLp]; decide)
  obtain ⟨⟨v3, d3, lt3⟩, testRun, rfl, ahead3⟩ := expression_carries
    (Mirror.of_append aheadC ahead2) test testRead [] aheadTest
    fun _ => halts_of_closer (by rw [isRp']; decide)
  simp only [List.map_nil, List.nil_append] at ahead3
  obtain ⟨d4, rpTaken', ahead4⟩ := takes_of_ahead_append ahead3 (by rw [isRp']; decide)
  obtain ⟨⟨v4, d4', lt4⟩, condRun, rfl, condCursor⟩ :=
    condition_eq_of lpTaken isLp testRun testBool rpTaken' isRp'
  subst condCursor
  obtain ⟨d5, lbTaken, ahead5'⟩ := takes_of_ahead_append ahead4 (by rw [isLb]; decide)
  have bodyMirror : Mirror body.cursor.ahead
      ((P ++ semi' :: rb :: Z).map .ok ++ e.ahead) c7 d5 :=
    ⟨S, consumedBody, by rw [ahead5']; simp⟩
  obtain ⟨⟨v6, d6, lt6⟩, bodyRun, rfl, ahead6⟩ := statement_carries_all.1 _ c7 d5 bodyMirror body
    bodyRead [] rfl fun _ => halts_else_of_start ahead5 stepStart (by rw [isSemi']; decide)
  simp only [List.map_nil, List.nil_append] at ahead6
  have stepMirror : Mirror step.cursor.ahead ((semi' :: rb :: Z).map .ok ++ e.ahead) c5 d6 :=
    ⟨P, consumedStep, by rw [ahead6]; simp⟩
  obtain ⟨⟨v7, d7, lt7⟩, stepRun, rfl, ahead7⟩ := expression_carries_alike alike stepMirror
    (NamesBefore.of_ahead consumedStep named) step stepRead [] rfl
    fun _ => halts_of_closer (by rw [isSemi']; decide)
  simp only [List.map_nil, List.nil_append] at ahead7
  obtain ⟨d8, semiTaken', ahead8⟩ := takes_of_ahead_append ahead7 (by rw [isSemi']; decide)
  obtain ⟨stepStmt, stepStmtRun, stepStmtValue, stepStmtCursor⟩ :=
    exprStatement_eq_of stepRun semiTaken' isSemi'
  have sameLook : d6.look = c5.look :=
    look_eq_of_mirror consumedStep (stepMirror.ahead_eq consumedStep) stepNonempty
  have stepStatement : statement body.value.2 d6 = .ok stepStmt := by
    rw [statement_of_exprStart (expression_start stepRun)]
    exact stepStmtRun
  obtain ⟨d9, rbTaken, ahead9⟩ := takes_of_ahead_append ahead8 (by rw [isRb]; decide)
  obtain ⟨loopBody, loopBodyRun, loopBodyValue, loopBodyCursor⟩ := statement_eq_of_pair lbTaken
    isLb bodyRun stepStatement (by rw [stepStmtCursor]; exact rbTaken) isRb
  subst loopBodyCursor
  obtain ⟨loop, loopRun, loopValue, loopCursor⟩ :=
    statement_eq_of_while whTaken isWh condRun loopBodyRun
  refine ⟨loop, loopRun, ?_, by rw [loopCursor]; exact ahead9⟩
  simp only [loopValue, loopBodyValue, stepStmtValue, sameLook]

/--
A `for` loop is read from its hand-written `while` form too. A `for` loop read from `c` took the
tokens `for ( I T ; P ) S`, with `I` a declaration or an expression statement and its `;`, and
read them as the tree of its parts with both blocks and the loop at the `for` keyword. When the
step `P` looks up no name that the body `S` declares directly in the loop body's scope, the tokens
`{ I while ( T ) { S P ; } }` followed by what followed the loop are read, in the same context, as
the tree of the same parts with the two blocks and the loop at their own tokens, leave the same
context, and leave the same tokens to read.
-/
theorem statement_for_reads_as_while {r : Read c (Stmt × Context)} (sound : ctx.table.TypeSound)
    (parsed : statement ctx c = .ok r) (isFor : c.look.kind = .forKw) :
    ∃ (kw lp semi rp : Token) (I T P S : List Token) (l : LoopParts),
      c.Consumed (kw :: lp :: I ++ T ++ semi :: P ++ rp :: S) r.cursor ∧
      r.value.1 = l.tree kw.loc kw.loc kw.loc ∧
      (l.StepClear r.value.2.table P → ∀ (d : Cursor) (lb wh lp' rp' lb' semi' rb' rb : Token),
        lb.kind = .lBrace → wh.kind = .whileKw → lp'.kind = .lParen → rp'.kind = .rParen →
        lb'.kind = .lBrace → semi'.kind = .semicolon → rb'.kind = .rBrace → rb.kind = .rBrace →
        d.ahead = (lb :: I ++ wh :: lp' :: T ++ rp' :: lb' :: S ++ P ++ [semi', rb', rb]).map .ok ++
          r.cursor.ahead →
        ∃ r' : Read d (Stmt × Context), statement ctx d = .ok r' ∧
          r'.value = (l.tree lb.loc wh.loc lb'.loc, r.value.2) ∧
          r'.cursor.ahead = r.cursor.ahead) := by
  obtain ⟨kw, lp, semi, rp, c1, c2, c5, c7, init, test, step, body, kwTaken, lpTaken, isLp,
    initAlt, testRead, testBool, semiTaken, isSemi, stepRead, rpTaken, isRp, bodyRead, valueEq,
    cursorEq⟩ := statement_eq_ok_of_for parsed isFor
  obtain ⟨qInit, consumedInit⟩ := ForInitRead.consumed initAlt
  obtain ⟨qTest, consumedTest⟩ := expression_consumed testRead
  obtain ⟨qStep, consumedStep⟩ := expression_consumed stepRead
  obtain ⟨qBody, consumedBody⟩ := statement_consumed bodyRead
  have sameTable : r.value.2.table = body.value.2.table := by rw [valueEq]; rfl
  rw [cursorEq]
  refine ⟨kw, lp, semi, rp, qInit, qTest, qStep, qBody, ⟨ctx.enter.2, init.value.1, test.value,
    init.value.2.enter.2, body.value.1, step.value, c5.look.loc⟩, ?_, by rw [valueEq]; rfl, ?_⟩
  · simpa using kwTaken.cons (lpTaken.cons (consumedInit.trans (consumedTest.trans
      (semiTaken.cons (consumedStep.trans (rpTaken.cons consumedBody))))))
  intro clear d lb wh lp' rp' lb' semi' rb' rb isLb isWh isLp' isRp' isLb' isSemi' isRb'
    isRb dAhead
  rw [sameTable] at clear
  simp only [List.append_assoc, List.cons_append] at dAhead
  obtain ⟨alike, -⟩ := ForInitRead.resolvesAlike sound initAlt bodyRead
  have aheadInit := consumedTest.ahead_of (semiTaken.consumed.ahead_of
    (consumedStep.ahead_of (rpTaken.consumed.ahead_of consumedBody)))
  obtain ⟨d1, lbTaken, ahead1⟩ := takes_of_ahead_append dAhead (by rw [isLb]; decide)
  obtain ⟨⟨v2, d2, lt2⟩, initRun, rfl, ahead2⟩ := ForInitRead.carries initAlt
    (Mirror.of_append (consumedInit.ahead_of aheadInit) ahead1) [] aheadInit
    fun _ => ⟨wh, _, rfl, id⟩
  obtain ⟨loop, loopRun, loopValue, loopAhead⟩ := statement_carries_whileForm testRead testBool
    consumedTest semiTaken stepRead consumedStep rpTaken bodyRead consumedBody alike clear.names
    isWh isLp' isRp' isLb' isSemi' isRb'
    (show d2.ahead = (wh :: lp' :: qTest ++ rp' :: lb' :: qBody ++ qStep ++ [semi', rb', rb]).map
      .ok ++ body.cursor.ahead by rw [ahead2]; simp)
  obtain ⟨d3, rbTaken, ahead3⟩ := takes_of_ahead_append loopAhead (by rw [isRb]; decide)
  obtain ⟨outer, outerRun, outerValue, outerCursor⟩ :=
    statement_eq_of_pair lbTaken isLb (ForInitRead.statement_eq initRun) loopRun rbTaken isRb
  refine ⟨outer, outerRun, ?_, by rw [outerCursor]; exact ahead3⟩
  simp only [outerValue, loopValue, valueEq, LoopParts.tree]

/-! ## From the `while` form to its `for` loop -/

/--
The hand-written form of a loop, taken apart: `{`, the first statement, `while`, `(`, the test,
which is a boolean, `)`, then the loop's body: `{`, the body's statement in a new scope, the step
read after it, `;` and `}`; then `}`. The parts of the tree are what these readings give, the step
at its first token.
-/
theorem statement_eq_ok_of_whileForm {r : Read d (Stmt × Context)} {l : LoopParts}
    {blockLoc whileLoc bodyLoc : Location} (parsed : statement ctx d = .ok r)
    (isBrace : d.look.kind = .lBrace) (shape : r.value.1 = l.tree blockLoc whileLoc bodyLoc) :
    ∃ (lb wh lp rp lb' semi rb' rb : Token) (d1 e1 e2 e3 f1 f2 f3 : Cursor)
      (init : Read d1 (Stmt × Context)) (test : Read e2 Expr) (body : Read f1 (Stmt × Context))
      (step : Read body.cursor Expr),
      d.Takes lb d1 ∧ statement ctx.enter.1 d1 = .ok init ∧ init.cursor.Takes wh e1 ∧
      e1.Takes lp e2 ∧ expression init.value.2 e2 = .ok test ∧
      init.value.2.expectBool test.value = .ok () ∧ test.cursor.Takes rp e3 ∧ e3.Takes lb' f1 ∧
      statement init.value.2.enter.1 f1 = .ok body ∧ expression body.value.2 body.cursor = .ok step ∧
      step.cursor.Takes semi f2 ∧ f2.Takes rb' f3 ∧ f3.Takes rb r.cursor ∧
      l = ⟨ctx.enter.2, init.value.1, test.value, init.value.2.enter.2, body.value.1, step.value,
        body.cursor.look.loc⟩ ∧
      r.value.2 = (body.value.2.exit init.value.2.enter.2).exit ctx.enter.2 := by
  obtain ⟨outer, init₀, test₀, inner, body₀, step₀, stepLoc₀⟩ := l
  obtain ⟨lb, rb, d1, init, loop, lbTaken, initRead, loopRead, rbTaken, initValue, loopValue,
    outerEq, ctxAfter⟩ := statement_eq_ok_of_pair parsed isBrace shape
  dsimp only at initValue loopValue outerEq
  subst initValue outerEq
  have isWhile : init.cursor.look.kind = .whileKw := by
    simpa [loopValue, Stmt.startKinds] using statement_look_mem loopRead
  obtain ⟨wh, e1, cond, loopBody, whTaken, condRead, loopBodyRead, loopEq, loopCursor⟩ :=
    statement_eq_ok_of_while loopRead isWhile
  obtain ⟨lp, rp, e2, test, lpTaken, -, testRead, testBool, rpTaken, -, condValue⟩ :=
    condition_eq_ok condRead
  simp only [loopEq, Stmt.whileLoop.injEq] at loopValue
  obtain ⟨rfl, loopBodyValue, -⟩ := loopValue
  obtain ⟨lb', rb', f1, body, stepStmt, lb'Taken, bodyRead, stepStmtRead, rb'Taken, rfl,
    stepValue, rfl, loopBodyCtx⟩ := statement_eq_ok_of_pair loopBodyRead
      (statement_look_of_block_expr loopBodyRead loopBodyValue) loopBodyValue
  have stepStart : body.cursor.look.kind ∈ TokenKind.exprStart := by
    simpa [stepValue, Stmt.startKinds] using statement_look_mem stepStmtRead
  rw [statement_of_exprStart stepStart] at stepStmtRead
  obtain ⟨step, semi, stepRead, semiTaken, -, stepStmtValue⟩ := exprStatement_eq_ok stepStmtRead
  simp only [stepStmtValue, Stmt.expr.injEq] at stepValue
  obtain ⟨rfl, rfl⟩ := stepValue
  refine ⟨lb, wh, lp, rp, lb', semi, rb', rb, d1, e1, e2, cond.cursor, f1, stepStmt.cursor,
    loopBody.cursor, init, test, body, step, lbTaken, initRead, whTaken, lpTaken, testRead, testBool,
    rpTaken, lb'Taken, bodyRead, stepRead, semiTaken, rb'Taken, by rw [← loopCursor]; exact rbTaken,
    by rw [condValue], ?_⟩
  simp only [ctxAfter, loopEq, loopBodyCtx, stepStmtValue]

/--
The `for` loop of the hand-written form. The form reads its first statement `I` in a new scope,
the test `T` after it, the body `S` in the loop body's scope and the step `P` after the body.
When the context after the body resolves the names `P` makes the reader look up as the context of
the first statement does, and what follows is no `else`, `for ( I T ; P ) S` is read as the block
of the same first statement and the loop on the same test whose body is the block of the same
body and step, all at the `for` keyword.
-/
theorem statement_carries_forForm {N : String → Prop} {d1 e2 f1 : Cursor}
    {init : Read d1 (Stmt × Context)} {test : Read e2 Expr} {body : Read f1 (Stmt × Context)}
    {step : Read body.cursor Expr} {kw lp semi rp : Token} {I T P S : List Token} {e : Cursor}
    (initAlt : ForInitRead ctx.enter.1 d1 init) (consumedInit : d1.Consumed I init.cursor)
    (testRead : expression init.value.2 e2 = .ok test)
    (testBool : init.value.2.expectBool test.value = .ok ())
    (consumedTest : e2.Consumed T test.cursor)
    (bodyRead : statement init.value.2.enter.1 f1 = .ok body)
    (consumedBody : f1.Consumed S body.cursor)
    (stepRead : expression body.value.2 body.cursor = .ok step)
    (consumedStep : body.cursor.Consumed P step.cursor)
    (alike : body.value.2.ResolvesAlike N init.value.2) (named : ∀ t ∈ P, ∀ n ∈ t.namesUsed, N n)
    (notElse : e.look.kind ≠ .elseKw) (isFor : kw.kind = .forKw) (isLp : lp.kind = .lParen)
    (isSemi : semi.kind = .semicolon) (isRp : rp.kind = .rParen)
    (cAhead : c.ahead = (kw :: lp :: I ++ T ++ semi :: P ++ rp :: S).map .ok ++ e.ahead) :
    ∃ r : Read c (Stmt × Context), statement ctx c = .ok r ∧
      r.value = (.block ctx.enter.2 [init.value.1, .whileLoop test.value
          (.block init.value.2.enter.2 [body.value.1, .expr step.value body.cursor.look.loc] kw.loc)
          kw.loc] kw.loc, (body.value.2.exit init.value.2.enter.2).exit ctx.enter.2) ∧
      r.cursor.ahead = e.ahead := by
  simp only [List.append_assoc, List.cons_append] at cAhead
  have stepNonempty := expression_consumed_ne_nil stepRead consumedStep
  obtain ⟨c1, kwTaken, ahead1⟩ := takes_of_ahead_append cAhead (by rw [isFor]; decide)
  obtain ⟨c2, lpTaken, ahead2⟩ := takes_of_ahead_append ahead1 (by rw [isLp]; decide)
  obtain ⟨⟨v3, c3, lt3⟩, initRun, rfl, ahead3⟩ := ForInitRead.carries initAlt
    (⟨I, consumedInit, by rw [ahead2]; simp⟩ :
      Mirror init.cursor.ahead ((T ++ semi :: (P ++ rp :: S)).map .ok ++ e.ahead) d1 c2)
    [] rfl fun _ => halts_false_of_cons
  obtain ⟨⟨v4, c4, lt4⟩, testRun, rfl, ahead4⟩ := expression_carries
    (⟨T, consumedTest, by rw [ahead3]; simp⟩ :
      Mirror test.cursor.ahead ((semi :: (P ++ rp :: S)).map .ok ++ e.ahead) e2 c3)
    test testRead [] rfl
    fun _ => halts_of_closer (by rw [isSemi]; decide)
  obtain ⟨c5, semiTaken, ahead5⟩ := takes_of_ahead_append ahead4 (by rw [isSemi]; decide)
  have stepMirror : Mirror step.cursor.ahead ((rp :: S).map .ok ++ e.ahead) body.cursor c5 :=
    ⟨P, consumedStep, by rw [ahead5]; simp⟩
  obtain ⟨⟨v6, c6, lt6⟩, stepRun, rfl, ahead6⟩ := expression_carries_alike alike stepMirror
    (NamesBefore.of_ahead consumedStep named) step stepRead [] rfl
    fun _ => halts_of_closer (by rw [isRp]; decide)
  obtain ⟨c7, rpTaken, ahead7⟩ := takes_of_ahead_append ahead6 (by rw [isRp]; decide)
  obtain ⟨⟨v8, c8, lt8⟩, bodyRun, rfl, ahead8⟩ := statement_carries_all.1 _ f1 c7
    (⟨S, consumedBody, ahead7⟩ : Mirror body.cursor.ahead e.ahead f1 c7) body bodyRead [] rfl
    fun _ => halts_of_look notElse
  obtain ⟨r, run, valueEq, cursorEq⟩ := statement_eq_of_for kwTaken isFor lpTaken isLp initRun
    testRun testBool semiTaken isSemi stepRun rpTaken isRp bodyRun
  have sameLook : c5.look = body.cursor.look :=
    look_eq_of_mirror consumedStep (stepMirror.ahead_eq consumedStep) stepNonempty
  refine ⟨r, run, ?_, by rw [cursorEq]; exact ahead8⟩
  rw [valueEq, sameLook]

/--
A hand-written `while` form is read as its `for` loop too. A form read from `d` as a block in
braces of a declaration or an expression statement and a `while` loop whose body is a block of a
statement and an expression statement took the tokens `{ I while ( T ) { S P ; } }`. When the step
`P` looks up no name that the body `S` declares directly in the loop body's scope, and the tokens
after the form are not `else`, the tokens `for ( I T ; P ) S` followed by the same tokens are
read, in the same context, as the tree of the same parts with both blocks and the loop at the
`for` keyword, leave the same context, and leave the same tokens to read.
-/
theorem statement_while_reads_as_for {r : Read d (Stmt × Context)} {l : LoopParts}
    {blockLoc whileLoc bodyLoc : Location} (sound : ctx.table.TypeSound)
    (parsed : statement ctx d = .ok r) (isBrace : d.look.kind = .lBrace)
    (shape : r.value.1 = l.tree blockLoc whileLoc bodyLoc) (initForm : l.init.isForInit = true)
    (notElse : r.cursor.look.kind ≠ .elseKw) :
    ∃ (lb wh lp rp lb' semi rb' rb : Token) (I T P S : List Token),
      d.Consumed (lb :: I ++ wh :: lp :: T ++ rp :: lb' :: S ++ P ++ [semi, rb', rb]) r.cursor ∧
      (l.StepClear r.value.2.table P → ∀ (c : Cursor) (kw lp' semi' rp' : Token),
        kw.kind = .forKw → lp'.kind = .lParen → semi'.kind = .semicolon → rp'.kind = .rParen →
        c.ahead = (kw :: lp' :: I ++ T ++ semi' :: P ++ rp' :: S).map .ok ++ r.cursor.ahead →
        ∃ r' : Read c (Stmt × Context), statement ctx c = .ok r' ∧
          r'.value = (l.tree kw.loc kw.loc kw.loc, r.value.2) ∧
          r'.cursor.ahead = r.cursor.ahead) := by
  obtain ⟨lb, wh, lp, rp, lb', semi, rb', rb, d1, e1, e2, e3, f1, f2, f3, init, test, body, step,
    lbTaken, initRead, whTaken, lpTaken, testRead, testBool, rpTaken, lb'Taken, bodyRead, stepRead,
    semiTaken, rb'Taken, rbTaken, rfl, ctxAfter⟩ := statement_eq_ok_of_whileForm parsed isBrace shape
  have initAlt := ForInitRead.of_statement initRead initForm
  obtain ⟨qInit, consumedInit⟩ := ForInitRead.consumed initAlt
  obtain ⟨qTest, consumedTest⟩ := expression_consumed testRead
  obtain ⟨qBody, consumedBody⟩ := statement_consumed bodyRead
  obtain ⟨qStep, consumedStep⟩ := expression_consumed stepRead
  refine ⟨lb, wh, lp, rp, lb', semi, rb', rb, qInit, qTest, qStep, qBody, ?_, ?_⟩
  · simpa using lbTaken.cons (consumedInit.trans (whTaken.cons (lpTaken.cons (consumedTest.trans
      (rpTaken.cons (lb'Taken.cons (consumedBody.trans (consumedStep.trans (semiTaken.cons
      (rb'Taken.cons rbTaken.consumed))))))))))
  intro clear c kw lp' semi' rp' isFor isLp' isSemi' isRp' cAhead
  have sameTable : r.value.2.table = body.value.2.table := by rw [ctxAfter]; rfl
  rw [sameTable] at clear
  obtain ⟨-, alike⟩ := ForInitRead.resolvesAlike sound initAlt bodyRead
  obtain ⟨r', run, valueEq, cursorAhead⟩ := statement_carries_forForm initAlt consumedInit testRead
    testBool consumedTest bodyRead consumedBody stepRead consumedStep alike clear.names notElse
    isFor isLp' isSemi' isRp' cAhead
  refine ⟨r', run, ?_, cursorAhead⟩
  rw [valueEq, ctxAfter]
  rfl

/-! ## Both ways -/

/--
A `for` loop and its hand-written `while` form read alike, each from the other, in the same
context. A `for` loop read from its tokens `for ( I T ; P ) S` makes `{ I while ( T ) { S P ; } }`,
followed by the same tokens, read as the tree of the same parts with the two blocks and the loop
at their own tokens; a `while` form read from `{ I while ( T ) { S P ; } }`, with a declaration
or an expression statement first and no `else` after it, makes `for ( I T ; P ) S` read as the
tree of the same parts with all three at the `for` keyword. Either way the step `P` looks up no
name that `S` declares directly in the loop body's scope, and the two leave the same context and
the same tokens to read.
-/
theorem statement_for_while_alike (sound : ctx.table.TypeSound) :
    (∀ (c : Cursor) (r : Read c (Stmt × Context)), statement ctx c = .ok r →
      c.look.kind = .forKw →
      ∃ (kw lp semi rp : Token) (I T P S : List Token) (l : LoopParts),
        c.Consumed (kw :: lp :: I ++ T ++ semi :: P ++ rp :: S) r.cursor ∧
        r.value.1 = l.tree kw.loc kw.loc kw.loc ∧
        (l.StepClear r.value.2.table P → ∀ (d : Cursor) (lb wh lp' rp' lb' semi' rb' rb : Token),
          lb.kind = .lBrace → wh.kind = .whileKw → lp'.kind = .lParen → rp'.kind = .rParen →
          lb'.kind = .lBrace → semi'.kind = .semicolon → rb'.kind = .rBrace → rb.kind = .rBrace →
          d.ahead = (lb :: I ++ wh :: lp' :: T ++ rp' :: lb' :: S ++ P ++ [semi', rb', rb]).map
            .ok ++ r.cursor.ahead →
          ∃ r' : Read d (Stmt × Context), statement ctx d = .ok r' ∧
            r'.value = (l.tree lb.loc wh.loc lb'.loc, r.value.2) ∧
            r'.cursor.ahead = r.cursor.ahead)) ∧
    (∀ (d : Cursor) (r : Read d (Stmt × Context)) (l : LoopParts)
      (blockLoc whileLoc bodyLoc : Location), statement ctx d = .ok r →
      d.look.kind = .lBrace → r.value.1 = l.tree blockLoc whileLoc bodyLoc →
      l.init.isForInit = true → r.cursor.look.kind ≠ .elseKw →
      ∃ (lb wh lp rp lb' semi rb' rb : Token) (I T P S : List Token),
        d.Consumed (lb :: I ++ wh :: lp :: T ++ rp :: lb' :: S ++ P ++ [semi, rb', rb]) r.cursor ∧
        (l.StepClear r.value.2.table P → ∀ (c : Cursor) (kw lp' semi' rp' : Token),
          kw.kind = .forKw → lp'.kind = .lParen → semi'.kind = .semicolon →
          rp'.kind = .rParen →
          c.ahead = (kw :: lp' :: I ++ T ++ semi' :: P ++ rp' :: S).map .ok ++ r.cursor.ahead →
          ∃ r' : Read c (Stmt × Context), statement ctx c = .ok r' ∧
            r'.value = (l.tree kw.loc kw.loc kw.loc, r.value.2) ∧
            r'.cursor.ahead = r.cursor.ahead)) :=
  ⟨fun _ _ parsed isFor => statement_for_reads_as_while sound parsed isFor,
    fun _ _ _ _ _ _ parsed isBrace shape initForm notElse =>
      statement_while_reads_as_for sound parsed isBrace shape initForm notElse⟩

/--
A counting loop whose body declares a variable its step does not use, and the loop's hand-written
form, each read at the start of a source in the context of the built-in types, are taken apart
into the tokens of their parts.
-/
theorem statement_for_while_alike_counting :
    (∃ (c : Cursor) (r : Read c (Stmt × Context)),
      Cursor.start (Feed.ofSource "for (var i = 0; i < 3; i = i + 1) var x = i;") = .ok c ∧
      statement (Context.builtin ⟨1, 1⟩) c = .ok r ∧ c.look.kind = .forKw ∧
      ∃ (kw lp semi rp : Token) (I T P S : List Token) (l : LoopParts),
        c.Consumed (kw :: lp :: I ++ T ++ semi :: P ++ rp :: S) r.cursor ∧
        r.value.1 = l.tree kw.loc kw.loc kw.loc) ∧
    (∃ (d : Cursor) (r : Read d (Stmt × Context)) (l : LoopParts)
      (blockLoc whileLoc bodyLoc : Location),
      Cursor.start (Feed.ofSource "{ var i = 0; while (i < 3) { var x = i; i = i + 1; } }") =
        .ok d ∧
      statement (Context.builtin ⟨1, 1⟩) d = .ok r ∧ d.look.kind = .lBrace ∧
      r.value.1 = l.tree blockLoc whileLoc bodyLoc ∧ l.init.isForInit = true ∧
      r.cursor.look.kind ≠ .elseKw ∧
      ∃ (lb wh lp rp lb' semi rb' rb : Token) (I T P S : List Token),
        d.Consumed (lb :: I ++ wh :: lp :: T ++ rp :: lb' :: S ++ P ++ [semi, rb', rb])
          r.cursor) := by
  have alike := statement_for_while_alike (Context.builtin_typeSound ⟨1, 1⟩)
  have forDecided : ((Cursor.start
      (Feed.ofSource "for (var i = 0; i < 3; i = i + 1) var x = i;")).toOption.bind
      fun c => (statement (Context.builtin ⟨1, 1⟩) c).toOption.map
        fun _ => decide (c.look.kind = .forKw)) = some true := by
    decide +kernel
  have whileDecided : ((Cursor.start
      (Feed.ofSource "{ var i = 0; while (i < 3) { var x = i; i = i + 1; } }")).toOption.bind
      fun d => (statement (Context.builtin ⟨1, 1⟩) d).toOption.map
        fun r => decide (d.look.kind = .lBrace ∧
          (LoopParts.ofTree? r.value.1).any (fun p => p.1.init.isForInit) = true ∧
          r.cursor.look.kind ≠ .elseKw)) = some true := by
    decide +kernel
  constructor
  · obtain ⟨c, started, decided⟩ := Except.ok_of_toOption_bind forDecided
    obtain ⟨r, parsed, isFor, kw, lp, semi, rp, I, T, P, S, l, consumed, isTree, -⟩ :=
      Except.exists_ok_of_check decided fun r parsed isFor => alike.1 c r parsed isFor
    exact ⟨c, r, started, parsed, isFor, kw, lp, semi, rp, I, T, P, S, l, consumed, isTree⟩
  · obtain ⟨d, started, decided⟩ := Except.ok_of_toOption_bind whileDecided
    obtain ⟨r, parsed, ⟨isBrace, isLoop, notElse⟩, -⟩ :=
      Except.exists_ok_of_check decided fun _ _ _ => trivial
    obtain ⟨⟨l, blockLoc, whileLoc, bodyLoc⟩, found, initForm⟩ := (Option.any_eq_true _ _).1 isLoop
    have shape := LoopParts.eq_tree_of_ofTree? found
    obtain ⟨lb, wh, lp, rp, lb', semi, rb', rb, I, T, P, S, consumed, -⟩ :=
      alike.2 d r l blockLoc whileLoc bodyLoc parsed isBrace shape initForm notElse
    exact ⟨d, r, l, blockLoc, whileLoc, bodyLoc, started, parsed, isBrace, shape, initForm,
      notElse, lb, wh, lp, rp, lb', semi, rb', rb, I, T, P, S, consumed⟩

end Parse

/--
A step that assigns a variable the body declares. The `for` loop resolves the step before it reads
the body and finds no such name; its `while` form reads the step after the declaration.
-/
theorem Program.ofSource_forStep_readBeforeBody :
    ((Program.ofSource "f() { for (var i = 0; i < 3; x = 1) var x = 2; return 1; }").result.map
        fun _ => ()) = .error (.undefinedName "x" ⟨1, 30⟩) ∧
      ((Program.ofSource
        "f() { { var i = 0; while (i < 3) { var x = 2; x = 1; } } return 1; }").result.map
        fun _ => ()) = .ok () := by
  constructor <;> decide +kernel

end ImpFront
