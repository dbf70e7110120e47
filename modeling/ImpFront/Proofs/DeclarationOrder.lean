import ImpFront.Proofs.EntrySites

/-!
# Declarations come before their uses

In every program the reader returns, each entry is defined before anything that mentions it. The
entries an initial value mentions (the variables it reads, the functions it calls and the types of
its nodes) are numbered below the variable it initialises, and the entries a function mentions
(its parameters, the variables and expressions of its body, its return type) below the function.
Since a function is defined only after its body, the calls of the `i`-th declaration are of
functions declared before it, and the call graph has no cycle: no function calls itself, directly
or through others.

The table grows one entry at a time, each numbered by the count before it (`define_eq_ok`). An
expression is read in a context whose table holds every entry it mentions
(`Expr.WellTyped.ids_present`), and reading statements or parameters defines no function
(`StmtsRead.noNewFuncs`): the only function a declaration defines is its own, after its body.
-/

namespace ImpFront

/-! ## What a tree mentions -/

mutual

/-- The entries an expression mentions, in order: its variables, its callees and its types. -/
def Expr.ids : Expr → List EntryId
  | .binary _ lhs rhs ty _ => lhs.ids ++ rhs.ids ++ [ty]
  | .call callee args ty _ => callee :: Expr.idsOfList args ++ [ty]
  | .var e ty _ => [e, ty]
  | .lit _ ty _ => [ty]

/-- The entries a list of expressions mentions, in order. -/
def Expr.idsOfList : List Expr → List EntryId
  | [] => []
  | a :: rest => a.ids ++ Expr.idsOfList rest

end

mutual

/-- The functions an expression calls, in order. -/
def Expr.callees : Expr → List EntryId
  | .binary _ lhs rhs _ _ => lhs.callees ++ rhs.callees
  | .call callee args _ _ => callee :: Expr.calleesOfList args
  | .var .. | .lit .. => []

/-- The functions a list of expressions calls, in order. -/
def Expr.calleesOfList : List Expr → List EntryId
  | [] => []
  | a :: rest => a.callees ++ Expr.calleesOfList rest

end

theorem Expr.mem_idsOfList {x : EntryId} {args : List Expr} :
    x ∈ Expr.idsOfList args ↔ ∃ a ∈ args, x ∈ a.ids := by
  induction args with
  | nil => simp [Expr.idsOfList]
  | cons a rest ih => simp [Expr.idsOfList, ih]

theorem Expr.mem_calleesOfList {x : EntryId} {args : List Expr} :
    x ∈ Expr.calleesOfList args ↔ ∃ a ∈ args, x ∈ a.callees := by
  induction args with
  | nil => simp [Expr.calleesOfList]
  | cons a rest ih => simp [Expr.calleesOfList, ih]

mutual

/--
The expressions a statement holds, in the order of the tree: its conditions, the values it
returns or evaluates, and the initial values of the variables it declares.
-/
def Stmt.exprs : Stmt → List Expr
  | .block _ stmts _ => Stmt.exprsOfList stmts
  | .ifElse cond thenBranch elseBranch _ =>
      cond :: thenBranch.exprs ++ Stmt.exprsOfOption elseBranch
  | .whileLoop cond body _ => cond :: body.exprs
  | .ret value _ => [value]
  | .expr value _ => [value]
  | .varDecl d => [d.init]

/-- The expressions of statements, one after the other. -/
def Stmt.exprsOfList : List Stmt → List Expr
  | [] => []
  | s :: rest => s.exprs ++ Stmt.exprsOfList rest

/-- The expressions of an optional statement. -/
def Stmt.exprsOfOption : Option Stmt → List Expr
  | none => []
  | some s => s.exprs

end

/-- The expressions of a declaration: a global's initial value, or those of a function's body. -/
def Decl.exprs : Decl → List Expr
  | .var d => [d.init]
  | .func f => f.body.toStmt.exprs

/-- The functions a declaration calls, in order. -/
def Decl.callees (d : Decl) : List EntryId := d.exprs.flatMap Expr.callees

/--
The entries a function definition mentions, with its parameters as the table `t` records them:
its parameters, the variables its body declares, the entries the expressions of its body mention,
and its return type.
-/
def FuncDef.ids (t : ScopeTable) (f : FuncDef) : List EntryId :=
  f.paramsIn t ++ (f.body.toStmt.varDecls f.params).map (·.1.var) ++
    f.body.toStmt.exprs.flatMap Expr.ids ++ [f.returnType]

/-- The call graph of a program: its `i`-th declaration calls the function declared `j`-th. -/
def Program.Calls (p : Program) (i j : Nat) : Prop :=
  ∃ d callee info, p.decls[i]? = some d ∧ callee ∈ d.callees ∧
    p.table.funcInfo? callee = some info ∧ info.decl.index = j

/-! ## Tables that grow without functions -/

namespace ScopeTable

theorem index_lt_of_entry? {t : ScopeTable} {e : EntryId} {x : Entry}
    (found : t.entry? e = some x) : e.index < t.entryCount :=
  (Array.getElem?_eq_some_iff.1 found).1

theorem funcInfo?_of_entry? {t : ScopeTable} {e : EntryId} {f : FuncInfo}
    (found : t.entry? e = some (.func f)) : t.funcInfo? e = some f := by
  simp [funcInfo?, found]

/-- A table that keeps the entries of another has at least as many. -/
theorem Extends.entryCount_le {t t' : ScopeTable} (kept : t.Extends t') :
    t.entryCount ≤ t'.entryCount := by
  rcases Nat.eq_zero_or_pos t.entryCount with empty | nonempty
  · rw [empty]
    exact Nat.zero_le _
  · have bound : t.entryCount - 1 < t.entries.size := by
      unfold entryCount at nonempty ⊢
      omega
    obtain ⟨x, last⟩ : ∃ x, t.entry? ⟨t.entryCount - 1⟩ = some x :=
      ⟨_, Array.getElem?_eq_getElem bound⟩
    have keptLast := index_lt_of_entry? (kept _ _ last)
    dsimp only at keptLast
    omega

theorem Extends.funcInfo? {t t' : ScopeTable} (kept : t.Extends t') {e : EntryId} {f : FuncInfo}
    (found : t.funcInfo? e = some f) : t'.funcInfo? e = some f :=
  funcInfo?_of_entry? (kept _ _ (funcInfo?_eq_some found))

/-- Every function of `t'` is one of `t`: whatever `t'` adds, it adds no function. -/
def NoNewFuncs (t t' : ScopeTable) : Prop :=
  ∀ e f, t'.funcInfo? e = some f → t.funcInfo? e = some f

namespace NoNewFuncs

variable {t₁ t₂ t₃ : ScopeTable}

theorem refl (t : ScopeTable) : NoNewFuncs t t := fun _ _ found => found

theorem trans (first : NoNewFuncs t₁ t₂) (second : NoNewFuncs t₂ t₃) : NoNewFuncs t₁ t₃ :=
  fun e f found => first e f (second e f found)

theorem addChild (t : ScopeTable) (p : ScopeId) : NoNewFuncs t (t.addChild p).1 :=
  fun _ _ found => found

/-- Defining a variable adds no function. -/
theorem of_define_var {t t' : ScopeTable} {s : ScopeId} {name : String} {v : VarInfo}
    {id : EntryId} (defined : t.define s name (.var v) = .ok (t', id)) : NoNewFuncs t t' := by
  intro e f found
  have entryFound := funcInfo?_eq_some found
  rw [entry?_of_define defined] at entryFound
  split at entryFound
  · cases entryFound
  · exact funcInfo?_of_entry? entryFound

end NoNewFuncs

/-- Every function of the table `t` is declared before the `n`-th declaration. -/
def FuncsBefore (t : ScopeTable) (n : Nat) : Prop :=
  ∀ e f, t.funcInfo? e = some f → f.decl.index < n

theorem FuncsBefore.mono {t t' : ScopeTable} {n m : Nat} (before : t.FuncsBefore n)
    (noNew : NoNewFuncs t t') (le : n ≤ m) : t'.FuncsBefore m :=
  fun e f found => Nat.lt_of_lt_of_le (before e f (noNew e f found)) le

end ScopeTable

/-! ## Expressions -/

namespace Expr.WellTyped

variable {t : ScopeTable}

/-- Every entry that a well-typed expression mentions is in its table. -/
theorem ids_present {e : Expr} (typed : e.WellTyped t) (builtins : 4 ≤ t.entryCount) :
    ∀ x ∈ e.ids, x.index < t.entryCount := by
  have builtin : ∀ {ty : EntryId}, ty.IsBuiltinType → ty.index < t.entryCount :=
    fun isBuiltin => Nat.lt_of_lt_of_le isBuiltin builtins
  induction typed with
  | lit typed =>
      intro x member
      rw [Expr.ids, List.mem_singleton] at member
      rw [member, typed]
      exact builtin (Literal.type_isBuiltinType _)
  | var v isVar typed isBuiltin =>
      intro x member
      simp only [Expr.ids, List.mem_cons, List.not_mem_nil, or_false] at member
      rcases member with isEntry | isType
      · rw [isEntry]
        exact ScopeTable.index_lt_of_entry? isVar
      · rw [isType, typed]
        exact builtin isBuiltin
  | logical _ _ _ _ _ typed lhsIH rhsIH | comparison _ _ _ _ typed lhsIH rhsIH =>
      intro x member
      simp only [Expr.ids, List.mem_append, List.mem_singleton] at member
      rcases member with (inLhs | inRhs) | isType
      · exact lhsIH x inLhs
      · exact rhsIH x inRhs
      · rw [isType, typed]
        exact builtin (by decide)
  | arithmetic _ lhsTyped _ _ typed lhsIH rhsIH | assign _ lhsTyped _ _ typed lhsIH rhsIH =>
      intro x member
      simp only [Expr.ids, List.mem_append, List.mem_singleton] at member
      rcases member with (inLhs | inRhs) | isType
      · exact lhsIH x inLhs
      · exact rhsIH x inRhs
      · rw [isType, typed]
        exact builtin lhsTyped.ty_isBuiltinType
  | call f isFunc _ _ typed isBuiltin argsIH =>
      intro x member
      simp only [Expr.ids, List.cons_append, List.mem_cons, List.mem_append, List.not_mem_nil,
        or_false] at member
      rcases member with isCallee | inArgs | isType
      · rw [isCallee]
        exact ScopeTable.index_lt_of_entry? isFunc
      · obtain ⟨a, isArg, inArg⟩ := Expr.mem_idsOfList.1 inArgs
        exact argsIH a isArg x inArg
      · rw [isType, typed]
        exact builtin isBuiltin

/-- Every function that a well-typed expression calls is a function of its table. -/
theorem callees_funcs {e : Expr} (typed : e.WellTyped t) :
    ∀ x ∈ e.callees, ∃ f, t.funcInfo? x = some f := by
  induction typed with
  | lit _ | var _ _ _ _ =>
      intro x member
      cases member
  | logical _ _ _ _ _ _ lhsIH rhsIH | comparison _ _ _ _ _ lhsIH rhsIH
  | arithmetic _ _ _ _ _ lhsIH rhsIH | assign _ _ _ _ _ lhsIH rhsIH =>
      intro x member
      rcases List.mem_append.1 member with inLhs | inRhs
      · exact lhsIH x inLhs
      · exact rhsIH x inRhs
  | call f isFunc _ _ _ _ argsIH =>
      intro x member
      rcases List.mem_cons.1 member with isCallee | inArgs
      · rw [isCallee]
        exact ⟨f, ScopeTable.funcInfo?_of_entry? isFunc⟩
      · obtain ⟨a, isArg, inArg⟩ := Expr.mem_calleesOfList.1 inArgs
        exact argsIH a isArg x inArg

end Expr.WellTyped

/-! ## Statements -/

/-- Reading statements defines no function. -/
theorem StmtsRead.noNewFuncs {ctx ctx' : Context} {stmts : List Stmt}
    (read : StmtsRead ctx stmts ctx') : ctx.table.NoNewFuncs ctx'.table := by
  induction read with
  | nil ctx => exact .refl _
  | cons _ _ firstIH laterIH => exact firstIH.trans laterIH
  | block _ bodyIH => exact (ScopeTable.NoNewFuncs.addChild _ _).trans bodyIH
  | ifThen _ _ _ thenIH => exact thenIH
  | ifElse _ _ _ _ thenIH elseIH => exact thenIH.trans elseIH
  | whileLoop _ _ _ bodyIH => exact bodyIH
  | forLoop _ _ _ _ _ initIH bodyIH =>
      exact (ScopeTable.NoNewFuncs.addChild _ _).trans
        (initIH.trans ((ScopeTable.NoNewFuncs.addChild _ _).trans bodyIH))
  | varDecl _ defined => exact .of_define_var (Context.define_eq_ok defined).1
  | ret _ => exact .refl _
  | expr _ => exact .refl _

/-- Reading parameters defines no function. -/
theorem ParamsRead.noNewFuncs {ctx ctx' : Context} {ids : List EntryId}
    (read : ParamsRead ctx ids ctx') : ctx.table.NoNewFuncs ctx'.table := by
  induction read with
  | nil ctx => exact .refl _
  | cons _ defined _ laterIH => exact (ScopeTable.NoNewFuncs.of_define_var
      (Context.define_eq_ok defined).1).trans laterIH

namespace ScopeTable

/--
The table `mid` is one that reading from the table `t` to the table `t'` passes through: it is
sound, has no function that `t` lacks, and has its entries kept by `t'`.
-/
structure Between (t mid t' : ScopeTable) : Prop where
  sound : mid.TypeSound
  noNewFuncs : t.NoNewFuncs mid
  kept : mid.Extends t'

namespace Between

variable {t₀ t mid t' t'' : ScopeTable}

theorem start (sound : t.TypeSound) (kept : t.Extends t') : t.Between t t' :=
  ⟨sound, .refl _, kept⟩

theorem before (earlier : t₀.NoNewFuncs t) (between : t.Between mid t') : t₀.Between mid t' :=
  ⟨between.sound, earlier.trans between.noNewFuncs, between.kept⟩

theorem after (between : t.Between mid t') (later : t'.Extends t'') : t.Between mid t'' :=
  ⟨between.sound, between.noNewFuncs, between.kept.trans later⟩

/-- The entries an expression read on the way mentions are in the table at the end. -/
theorem ids_present {ctx : Context} (between : t.Between ctx.table t') {e : Expr}
    (read : ExprRead ctx e) : ∀ x ∈ e.ids, x.index < t'.entryCount := by
  intro x member
  have present := (read.wellTyped between.sound).ids_present between.sound.entryCount_ge x member
  exact Nat.lt_of_lt_of_le present between.kept.entryCount_le

/-- The functions an expression read on the way calls are functions at the start. -/
theorem callees_funcs {ctx : Context} (between : t.Between ctx.table t') {e : Expr}
    (read : ExprRead ctx e) : ∀ x ∈ e.callees, ∃ f, t.funcInfo? x = some f := by
  intro x member
  obtain ⟨f, found⟩ := (read.wellTyped between.sound).callees_funcs x member
  exact ⟨f, between.noNewFuncs x f found⟩

end Between

end ScopeTable

/-- Every expression of statements is read in a context that their reading passes through. -/
theorem StmtsRead.exprs_read {ctx ctx' : Context} {stmts : List Stmt}
    (read : StmtsRead ctx stmts ctx') (sound : ctx.table.TypeSound) :
    ∀ e ∈ Stmt.exprsOfList stmts, ∃ mid : Context, ExprRead mid e ∧ ctx.table.Between mid.table ctx'.table := by
  induction read with
  | nil ctx =>
      intro e member
      cases member
  | @cons ctx ctx₁ ctx₂ s rest first later firstIH laterIH =>
      have sound₁ := (first.typed sound).sound
      intro e member
      rw [Stmt.exprsOfList, List.mem_append] at member
      rcases member with inFirst | inLater
      · obtain ⟨mid, exprRead, between⟩ :=
          firstIH sound e (by simpa [Stmt.exprsOfList] using inFirst)
        exact ⟨mid, exprRead, between.after (later.typed sound₁).grows⟩
      · obtain ⟨mid, exprRead, between⟩ := laterIH sound₁ e inLater
        exact ⟨mid, exprRead, between.before first.noNewFuncs⟩
  | @block ctx ctx₁ stmts loc _ bodyIH =>
      intro e member
      simp only [Stmt.exprsOfList, Stmt.exprs, List.append_nil] at member
      obtain ⟨mid, exprRead, between⟩ := bodyIH (Context.enter_sound sound) e member
      exact ⟨mid, exprRead, between.before (ScopeTable.NoNewFuncs.addChild _ _)⟩
  | @ifThen ctx ctx₁ cond thenBranch loc condRead _ thenRead thenIH =>
      intro e member
      simp only [Stmt.exprsOfList, Stmt.exprs, Stmt.exprsOfOption, List.append_nil,
        List.mem_cons] at member
      rcases member with isCond | inThen
      · rw [isCond]
        exact ⟨ctx, condRead, .start sound (thenRead.typed sound).grows⟩
      · exact thenIH sound e (by simpa [Stmt.exprsOfList] using inThen)
  | @ifElse ctx ctx₁ ctx₂ cond thenBranch elseBranch loc condRead _ thenRead elseRead thenIH
      elseIH =>
      have thenTyped := thenRead.typed sound
      have elseTyped := elseRead.typed thenTyped.sound
      intro e member
      simp only [Stmt.exprsOfList, Stmt.exprs, Stmt.exprsOfOption, List.append_nil,
        List.cons_append, List.mem_cons, List.mem_append] at member
      rcases member with isCond | inThen | inElse
      · rw [isCond]
        exact ⟨ctx, condRead, .start sound (thenTyped.grows.trans elseTyped.grows)⟩
      · obtain ⟨mid, exprRead, between⟩ :=
          thenIH sound e (by simpa [Stmt.exprsOfList] using inThen)
        exact ⟨mid, exprRead, between.after elseTyped.grows⟩
      · obtain ⟨mid, exprRead, between⟩ :=
          elseIH thenTyped.sound e (by simpa [Stmt.exprsOfList] using inElse)
        exact ⟨mid, exprRead, between.before thenRead.noNewFuncs⟩
  | @whileLoop ctx ctx₁ cond body loc condRead _ bodyRead bodyIH =>
      intro e member
      simp only [Stmt.exprsOfList, Stmt.exprs, List.append_nil, List.mem_cons] at member
      rcases member with isCond | inBody
      · rw [isCond]
        exact ⟨ctx, condRead, .start sound (bodyRead.typed sound).grows⟩
      · exact bodyIH sound e (by simpa [Stmt.exprsOfList] using inBody)
  | @forLoop ctx ctx₁ ctx₂ init body test step stepLoc loc initRead testRead _ stepRead bodyRead
      initIH bodyIH =>
      have initTyped := initRead.typed (Context.enter_sound sound)
      have bodyTyped := bodyRead.typed (Context.enter_sound initTyped.sound)
      have bodyKept := ctx₁.extends_enter.trans bodyTyped.grows
      have atLoop : ctx.table.Between ctx₁.table ctx₂.table :=
        ⟨initTyped.sound, (ScopeTable.NoNewFuncs.addChild _ _).trans initRead.noNewFuncs,
          bodyKept⟩
      intro e member
      simp only [Stmt.exprsOfList, Stmt.exprs, List.append_nil, List.mem_append, List.mem_cons,
        List.not_mem_nil, or_false] at member
      rcases member with inInit | isTest | inBody | isStep
      · obtain ⟨mid, exprRead, between⟩ :=
          initIH (Context.enter_sound sound) e (by simpa [Stmt.exprsOfList] using inInit)
        exact ⟨mid, exprRead,
          (between.before (ScopeTable.NoNewFuncs.addChild _ _)).after bodyKept⟩
      · rw [isTest]
        exact ⟨ctx₁, testRead, atLoop⟩
      · obtain ⟨mid, exprRead, between⟩ :=
          bodyIH (Context.enter_sound initTyped.sound) e (by simpa [Stmt.exprsOfList] using inBody)
        exact ⟨mid, exprRead,
          (between.before (ScopeTable.NoNewFuncs.addChild _ _)).before atLoop.noNewFuncs⟩
      · rw [isStep]
        exact ⟨ctx₁, stepRead, atLoop⟩
  | @varDecl ctx ctx₁ name init id nameLoc loc initRead defined =>
      intro e member
      simp only [Stmt.exprsOfList, Stmt.exprs, List.append_nil, List.mem_singleton] at member
      rw [member]
      exact ⟨ctx, initRead, .start sound (ScopeTable.Extends.of_define
        (Context.define_eq_ok defined).1)⟩
  | @ret ctx value loc valueRead =>
      intro e member
      simp only [Stmt.exprsOfList, Stmt.exprs, List.append_nil, List.mem_singleton] at member
      rw [member]
      exact ⟨ctx, valueRead, .start sound (.refl _)⟩
  | @expr ctx value loc valueRead =>
      intro e member
      simp only [Stmt.exprsOfList, Stmt.exprs, List.append_nil, List.mem_singleton] at member
      rw [member]
      exact ⟨ctx, valueRead, .start sound (.refl _)⟩

/--
The entries the initial value of each variable that statements declare mentions are numbered
below the variable.
-/
theorem StmtsRead.inits_before {ctx ctx' : Context} {stmts : List Stmt}
    (read : StmtsRead ctx stmts ctx') (sound : ctx.table.TypeSound) :
    ∀ s, ∀ x ∈ Stmt.varDeclsOfList s stmts, ∀ e ∈ x.1.init.ids, e.index < x.1.var.index := by
  induction read with
  | nil ctx =>
      intro s x member
      cases member
  | cons first _ firstIH laterIH =>
      intro s x member
      rw [Stmt.varDeclsOfList, List.mem_append] at member
      rcases member with inFirst | inLater
      · exact firstIH sound s x (by simpa [Stmt.varDeclsOfList] using inFirst)
      · exact laterIH (first.typed sound).sound s x inLater
  | block _ bodyIH =>
      intro s x member
      simp only [Stmt.varDeclsOfList, Stmt.varDecls, List.append_nil] at member
      exact bodyIH (Context.enter_sound sound) _ x member
  | ifThen _ _ _ thenIH =>
      intro s x member
      simp only [Stmt.varDeclsOfList, Stmt.varDecls, Stmt.varDeclsOfOption, List.append_nil]
        at member
      exact thenIH sound s x (by simpa [Stmt.varDeclsOfList] using member)
  | ifElse _ _ thenRead _ thenIH elseIH =>
      intro s x member
      simp only [Stmt.varDeclsOfList, Stmt.varDecls, Stmt.varDeclsOfOption, List.append_nil,
        List.mem_append] at member
      rcases member with inThen | inElse
      · exact thenIH sound s x (by simpa [Stmt.varDeclsOfList] using inThen)
      · exact elseIH (thenRead.typed sound).sound s x
          (by simpa [Stmt.varDeclsOfList] using inElse)
  | whileLoop _ _ _ bodyIH =>
      intro s x member
      simp only [Stmt.varDeclsOfList, Stmt.varDecls, List.append_nil] at member
      exact bodyIH sound s x (by simpa [Stmt.varDeclsOfList] using member)
  | forLoop initRead _ _ _ _ initIH bodyIH =>
      intro s x member
      simp only [Stmt.varDeclsOfList, Stmt.varDecls, List.append_nil, List.mem_append] at member
      have initSound := (initRead.typed (Context.enter_sound sound)).sound
      rcases member with inInit | inBody
      · exact initIH (Context.enter_sound sound) _ x
          (by simpa [Stmt.varDeclsOfList] using inInit)
      · exact bodyIH (Context.enter_sound initSound) _ x
          (by simpa [Stmt.varDeclsOfList] using inBody)
  | varDecl initRead defined =>
      intro s x member
      simp only [Stmt.varDeclsOfList, Stmt.varDecls, List.append_nil, List.mem_singleton]
        at member
      rw [member]
      intro e mentioned
      rw [(ScopeTable.define_eq_ok (Context.define_eq_ok defined).1).2.1]
      exact (ScopeTable.Between.start sound (.refl _)).ids_present initRead e mentioned
  | ret _ =>
      intro s x member
      simp [Stmt.varDeclsOfList, Stmt.varDecls] at member
  | expr _ =>
      intro s x member
      simp [Stmt.varDeclsOfList, Stmt.varDecls] at member

/-! ## Declarations -/

/-- The functions that the first of declarations calls are functions of the table it is read from. -/
theorem DeclsRead.first_callees {ctx ctx' : Context} {d : Decl} {rest : List Decl}
    (read : DeclsRead ctx (d :: rest) ctx') (sound : ctx.table.TypeSound) :
    ∀ x ∈ d.callees, ∃ f, ctx.table.funcInfo? x = some f := by
  intro x member
  obtain ⟨e, inExprs, called⟩ := List.mem_flatMap.1 member
  cases read with
  | var declRead _ =>
      obtain ⟨mid, exprRead, between⟩ := declRead.exprs_read sound e
        (by simpa [Decl.exprs, Stmt.exprsOfList, Stmt.exprs] using inExprs)
      exact between.callees_funcs exprRead x called
  | func paramsRead bodyRead _ _ _ =>
      have paramsSound := (paramsRead.typed (Context.enter_sound sound)).sound
      obtain ⟨mid, exprRead, between⟩ := bodyRead.exprs_read paramsSound e
        (by simpa [Decl.exprs, Stmt.exprsOfList] using inExprs)
      exact ((between.before paramsRead.noNewFuncs).before
        (ScopeTable.NoNewFuncs.addChild _ _)).callees_funcs exprRead x called

/--
The entries that a function the reader defines from the root mentions are numbered below it, with
its parameters as any table that keeps its entry records them.
-/
theorem Context.funcIds_before {ctx ctx₁ ctx₂ ctx₃ : Context} {ids : List EntryId} {body : Block}
    {name : String} {nameLoc : Location} {index : Nat} {returnType entry : EntryId}
    (paramsRead : ParamsRead ctx.enter.1 ids ctx₁) (bodyRead : StmtsRead ctx₁ [body.toStmt] ctx₂)
    (resolved : resolveReturnType body.returns = .ok returnType)
    (defined : (ctx₂.exit ctx.enter.2).define name (.func ⟨name, ⟨index⟩, ids, returnType⟩)
      nameLoc = .ok (ctx₃, entry))
    (sound : ctx.table.TypeSound) (atRoot : ctx.scope = ScopeTable.root)
    (present : ctx.scope.index < ctx.table.scopeCount) {T : ScopeTable}
    (kept : ctx₃.table.Extends T) :
    ∀ x ∈ FuncDef.ids T ⟨name, entry, ctx.enter.2, body, returnType, nameLoc⟩,
      x.index < entry.index := by
  have scopes := Context.funcScopes paramsRead bodyRead defined atRoot present
  have paramsTyped := paramsRead.typed (Context.enter_sound sound)
  have bodyTyped := bodyRead.typed paramsTyped.sound
  have tableDefined := (Context.define_eq_ok defined).1
  have entryEq : entry = ⟨ctx₂.table.entryCount⟩ := (ScopeTable.define_eq_ok tableDefined).2.1
  have recorded := ScopeTable.entry?_of_define tableDefined entry
  rw [if_pos rfl] at recorded
  have paramsEq : FuncDef.paramsIn T ⟨name, entry, ctx.enter.2, body, returnType, nameLoc⟩ = ids :=
    FuncDef.paramsIn_eq (kept _ _ recorded)
  have paramsDefine := paramsRead.defines (Context.enter_present ctx)
  have bodyDefines := bodyRead.defines scopes.params_present
  have bodyCount : ctx₁.table.entryCount ≤ ctx₂.table.entryCount := bodyTyped.grows.entryCount_le
  intro x member
  rw [FuncDef.ids, paramsEq] at member
  simp only [List.mem_append, List.mem_map, List.mem_flatMap, List.mem_singleton] at member
  rw [entryEq]
  rcases member with ((isParam | ⟨y, declared, rfl⟩) | ⟨y, inExprs, mentioned⟩) | isReturn
  · have bounds := paramsDefine.bounds (List.mem_map.2 ⟨x, isParam, rfl⟩)
    exact Nat.lt_of_lt_of_le bounds.2 bodyCount
  · have inBody : y ∈ Stmt.varDeclsOfList ctx₁.scope [body.toStmt] := by
      rw [scopes.params, Stmt.varDeclsOfList, Stmt.varDeclsOfList, List.append_nil]
      exact declared
    exact (bodyDefines.bounds (List.mem_map.2 ⟨y, inBody, rfl⟩)).2
  · obtain ⟨mid, exprRead, between⟩ := bodyRead.exprs_read paramsTyped.sound y
      (by simpa [Stmt.exprsOfList] using inExprs)
    exact between.ids_present exprRead x mentioned
  · obtain ⟨-, -, -, isBuiltin, -⟩ :=
      (DeclsTyped.func paramsTyped bodyTyped resolved defined).typed _ (List.mem_singleton_self _)
    rw [isReturn]
    exact Nat.lt_of_lt_of_le isBuiltin bodyTyped.sound.entryCount_ge

/--
The entries the initial value of each variable that declarations declare mentions are numbered
below the variable.
-/
theorem DeclsRead.inits_before {ctx ctx' : Context} {decls : List Decl}
    (read : DeclsRead ctx decls ctx') (sound : ctx.table.TypeSound) :
    ∀ x ∈ decls.flatMap Decl.varDecls, ∀ e ∈ x.1.init.ids, e.index < x.1.var.index := by
  induction read with
  | nil ctx =>
      intro x member
      simp at member
  | var declRead _ laterIH =>
      intro x member
      rw [List.flatMap_cons, List.mem_append] at member
      rcases member with isThis | inRest
      · exact declRead.inits_before sound ScopeTable.root x
          (by simpa [Stmt.varDeclsOfList, Stmt.varDecls, Decl.varDecls] using isThis)
      · exact laterIH (declRead.typed sound).sound x inRest
  | func paramsRead bodyRead resolved defined _ laterIH =>
      have paramsTyped := paramsRead.typed (Context.enter_sound sound)
      have bodyTyped := bodyRead.typed paramsTyped.sound
      intro x member
      rw [List.flatMap_cons, List.mem_append] at member
      rcases member with inBody | inRest
      · exact bodyRead.inits_before paramsTyped.sound _ x
          (by simpa [Stmt.varDeclsOfList, Decl.varDecls] using inBody)
      · exact laterIH (DeclsTyped.func paramsTyped bodyTyped resolved defined).sound x inRest

/-- The entries each function that declarations define mentions are numbered below it. -/
theorem DeclsRead.funcIds_before {ctx ctx' : Context} {decls : List Decl}
    (read : DeclsRead ctx decls ctx') (sound : ctx.table.TypeSound)
    (atRoot : ctx.scope = ScopeTable.root) (present : ctx.scope.index < ctx.table.scopeCount) :
    ∀ fd, Decl.func fd ∈ decls → ∀ x ∈ fd.ids ctx'.table, x.index < fd.entry.index := by
  induction read with
  | nil ctx =>
      intro fd member
      cases member
  | var declRead _ laterIH =>
      have changes := declRead.changes present
      intro fd member
      rcases List.mem_cons.1 member with isThis | inRest
      · cases isThis
      · exact laterIH (declRead.typed sound).sound (changes.scope.trans atRoot)
          (changes.present present) fd inRest
  | func paramsRead bodyRead resolved defined later laterIH =>
      have scopes := Context.funcScopes paramsRead bodyRead defined atRoot present
      have paramsTyped := paramsRead.typed (Context.enter_sound sound)
      have declTyped := DeclsTyped.func paramsTyped (bodyRead.typed paramsTyped.sound) resolved
        defined
      intro fd member
      rcases List.mem_cons.1 member with isThis | inRest
      · cases isThis
        exact Context.funcIds_before paramsRead bodyRead resolved defined sound atRoot present
          (later.typed declTyped.sound).grows
      · exact laterIH declTyped.sound scopes.defined scopes.defined_present fd inRest

namespace Parse

/-- A declaration defines at most one function, at its own position. -/
theorem declaration_funcsBefore {index : Nat} {ctx : Context} {c : Cursor}
    {d : Read c (Decl × Context)} (parsed : declaration index ctx c = .ok d)
    (before : ctx.table.FuncsBefore index) : d.value.2.table.FuncsBefore (index + 1) := by
  rcases declaration_eq_ok parsed with ⟨-, v, varRead, valueEq, -⟩ | ⟨-, f, funcRead, valueEq, -⟩
  · rw [valueEq]
    exact before.mono (varDecl_reads varRead).noNewFuncs (Nat.le_succ index)
  · rw [valueEq]
    rcases funcDef_eq_ok funcRead with ⟨name, c1, ps, body, returnType, entry, -, -, psRead,
      bodyRead, -, defined, -, -⟩
    have bodyBefore : body.value.2.table.FuncsBefore index :=
      before.mono ((ScopeTable.NoNewFuncs.addChild _ _).trans
        ((paramList_reads psRead).noNewFuncs.trans (block_reads bodyRead).noNewFuncs))
        (Nat.le_refl _)
    intro e info found
    have entryFound := ScopeTable.funcInfo?_eq_some found
    rw [ScopeTable.entry?_of_define (Context.define_eq_ok defined).1] at entryFound
    split at entryFound
    · cases entryFound
      exact Nat.lt_succ_self index
    · exact Nat.lt_succ_of_lt (bodyBefore e info (ScopeTable.funcInfo?_of_entry? entryFound))

/--
The declarations read from the `index`-th on call only functions declared before the calling one:
a call in the `i`-th is of a function whose entry records a position below `index + i`.
-/
theorem declarations_callsBefore : ∀ index ctx c res, declarations index ctx c = .ok res →
    ctx.table.TypeSound → ctx.table.FuncsBefore index →
    ∀ i d, res.1[i]? = some d → ∀ x ∈ d.callees,
      ∃ f, res.2.1.table.funcInfo? x = some f ∧ f.decl.index < index + i := by
  refine declarations.induct _ ?atEnd ?more
  case atEnd =>
    intro index ctx c isEnd res parsed _ _ i d found
    rcases declarations_eq_ok parsed with ⟨-, resEq⟩ | ⟨notEnd, -⟩
    · rw [resEq] at found
      simp at found
    · exact absurd isEnd notEnd
  case more =>
    intro index ctx c notEnd restIH res parsed sound before i d found
    rcases declarations_eq_ok parsed with ⟨isEnd, -⟩ |
      ⟨-, first, rest, declRead, restRead, resEq⟩
    · exact absurd isEnd notEnd
    · have firstRead := declaration_reads declRead
      have firstTyped := firstRead.typed sound
      have restKept := ((declarations_reads _ _ _ rest restRead).typed firstTyped.sound).grows
      rw [resEq] at found ⊢
      intro x called
      cases i with
      | zero =>
          rw [List.getElem?_cons_zero, Option.some.injEq] at found
          rw [← found] at called
          obtain ⟨f, isFunc⟩ := firstRead.first_callees sound x called
          exact ⟨f, (firstTyped.grows.trans restKept).funcInfo? isFunc, before x f isFunc⟩
      | succ k =>
          rw [List.getElem?_cons_succ] at found
          obtain ⟨f, isFunc, earlier⟩ := restIH first.value.2 first.cursor first.lt rest restRead
            firstTyped.sound (declaration_funcsBefore declRead before) k d found x called
          refine ⟨f, isFunc, ?_⟩
          omega

end Parse

/-! ## Programs -/

/-- The table of the built-in types holds no function. -/
theorem Context.builtin_funcsBefore (loc : Location) : (builtin loc).table.FuncsBefore 0 := by
  intro e f found
  have entryFound := ScopeTable.funcInfo?_eq_some found
  rw [entry?_builtin] at entryFound
  cases listed : Parse.builtinTypes[e.index]? with
  | none =>
      rw [listed] at entryFound
      cases entryFound
  | some info =>
      rw [listed] at entryFound
      cases entryFound

/-- Every program the reader returns numbers what each initial value mentions below its variable. -/
theorem Program.read_initsBefore {f : Feed} {p : Program}
    (parsed : (Program.read f).result = .ok p) :
    ∀ x ∈ p.varDecls, ∀ e ∈ x.1.init.ids, e.index < x.1.var.index := by
  rcases Program.read_reads parsed with ⟨loc, ctx, declsRead, -⟩
  exact declsRead.inits_before (Context.builtin_typeSound loc)

/-- Every program the reader returns numbers what each function mentions below the function. -/
theorem Program.read_funcIdsBefore {f : Feed} {p : Program}
    (parsed : (Program.read f).result = .ok p) :
    ∀ fd, Decl.func fd ∈ p.decls → ∀ x ∈ fd.ids p.table, x.index < fd.entry.index := by
  rcases Program.read_reads parsed with ⟨loc, ctx, declsRead, tableEq⟩
  rw [tableEq]
  exact declsRead.funcIds_before (Context.builtin_typeSound loc) (Context.builtin_scope loc)
    (Context.builtin_present loc)

/-- In every program the reader returns, each declaration calls functions declared before it. -/
theorem Program.read_callsBefore {f : Feed} {p : Program}
    (parsed : (Program.read f).result = .ok p) :
    ∀ i d, p.decls[i]? = some d → ∀ x ∈ d.callees,
      ∃ fn, p.table.funcInfo? x = some fn ∧ fn.decl.index < i := by
  rcases Program.read_eq_ok parsed with ⟨c, decls, ctx, c', -, declsRead, rfl⟩
  intro i d found x called
  obtain ⟨fn, isFunc, earlier⟩ := Parse.declarations_callsBefore 0 _ c _ declsRead
    (Context.builtin_typeSound _) (Context.builtin_funcsBefore _) i d found x called
  refine ⟨fn, isFunc, ?_⟩
  omega

/-- In every program the reader returns, a declaration calls only declarations before it. -/
theorem Program.Calls.lt_of_read {f : Feed} {p : Program}
    (parsed : (Program.read f).result = .ok p) {i j : Nat} (calls : p.Calls i j) : j < i := by
  obtain ⟨d, x, fn, found, called, isFunc, declared⟩ := calls
  obtain ⟨fn', isFunc', earlier⟩ := Program.read_callsBefore parsed i d found x called
  rw [isFunc] at isFunc'
  cases isFunc'
  rw [← declared]
  exact earlier

/-- In every program the reader returns, every chain of calls ends before the declaration it starts from. -/
theorem Program.read_callChain_lt {f : Feed} {p : Program}
    (parsed : (Program.read f).result = .ok p) {i j : Nat}
    (chain : Relation.TransGen p.Calls i j) : j < i := by
  induction chain with
  | single calls => exact calls.lt_of_read parsed
  | tail _ calls chainLt => exact Nat.lt_trans (calls.lt_of_read parsed) chainLt

/--
In every program the reader returns, declarations come before their uses. The entries the initial
value of a variable mentions (the variables it reads, the functions it calls and its types) are
numbered below the variable, and the entries a function mentions (its parameters, its body's
variables and expressions, its return type) below the function. The calls of the `i`-th
declaration are of functions whose entries record positions below `i`. So no initial value
mentions its own variable, and the call graph has no cycle.
-/
theorem Program.read_declaredBeforeUse {f : Feed} {p : Program}
    (parsed : (Program.read f).result = .ok p) :
    (∀ x ∈ p.varDecls, ∀ e ∈ x.1.init.ids, e.index < x.1.var.index) ∧
      (∀ fd, Decl.func fd ∈ p.decls → ∀ e ∈ fd.ids p.table, e.index < fd.entry.index) ∧
      (∀ i d, p.decls[i]? = some d → ∀ x ∈ d.callees,
        ∃ fn, p.table.funcInfo? x = some fn ∧ fn.decl.index < i) ∧
      (∀ x ∈ p.varDecls, x.1.var ∉ x.1.init.ids) ∧
      ∀ i, ¬ Relation.TransGen p.Calls i i := by
  have initsBefore := Program.read_initsBefore parsed
  refine ⟨initsBefore, Program.read_funcIdsBefore parsed, Program.read_callsBefore parsed, ?_, ?_⟩
  · intro x declared mentionsItself
    exact Nat.lt_irrefl _ (initsBefore x declared x.1.var mentionsItself)
  · intro i cycle
    exact Nat.lt_irrefl i (Program.read_callChain_lt parsed cycle)

/--
A function calling an earlier one from the initial value of a local variable, then a global that
calls it: each initial value and each function mentions only earlier entries, and the calls go back
to earlier declarations.
-/
theorem Program.ofSource_chainedCalls_declaredBeforeUse :
    ∃ p, (Program.ofSource
        "g(x: int) { return x; } f(a: int) { var b = g(a); return b + 1; } var c = f(2);").result = .ok p ∧
      p.decls.length = 3 ∧
      ((∀ x ∈ p.varDecls, ∀ e ∈ x.1.init.ids, e.index < x.1.var.index) ∧
        (∀ fd, Decl.func fd ∈ p.decls → ∀ e ∈ fd.ids p.table, e.index < fd.entry.index) ∧
        (∀ i d, p.decls[i]? = some d → ∀ x ∈ d.callees,
          ∃ fn, p.table.funcInfo? x = some fn ∧ fn.decl.index < i) ∧
        (∀ x ∈ p.varDecls, x.1.var ∉ x.1.init.ids) ∧
        ∀ i, ¬ Relation.TransGen p.Calls i i) := by
  have decided : ((Program.ofSource
      "g(x: int) { return x; } f(a: int) { var b = g(a); return b + 1; } var c = f(2);").result.toOption.map
        fun p => decide (p.decls.length = 3)) = some true := by
    decide +kernel
  revert decided
  cases parsed : (Program.ofSource
    "g(x: int) { return x; } f(a: int) { var b = g(a); return b + 1; } var c = f(2);").result with
  | ok p =>
      intro decided
      exact ⟨p, rfl, of_decide_eq_true (Option.some.inj decided),
        Program.read_declaredBeforeUse parsed⟩
  | error e =>
      intro decided
      cases decided

end ImpFront
