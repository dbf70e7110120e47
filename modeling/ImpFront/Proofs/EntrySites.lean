import ImpFront.Proofs.Definitions

/-!
# Where each entry is declared

Every entry of the table of a program the reader returns is declared by one node of its tree,
and records what that node says. The first four entries are the built-in types, in the root. The
entry of a variable declaration is a variable of the type of its initial value, bound in the scope
of the innermost block around it, and global exactly when that scope is the root. The parameters
of a function are the entries of its parameters' scope, where nothing else is defined; its entry
records its name, its position among the declarations, those parameters and its return type, and
its name, looked up in the root, gives the function back.

Each rule of the derivations keeps what a table holds of the entries defined before it
(`HoldsVar.mono`, `HoldsFunc.mono`) and makes it hold of the entry it defines. The positions of
functions come from the reader's own recursion over the declarations.
-/

namespace ImpFront

namespace ScopeTable

/-- Each item a step adds is numbered from the count before the step and below the count after. -/
theorem Appends.bounds {ι : Type} {number : ι → Nat} {count : ScopeTable → Nat}
    {listed : ScopeTable → ScopeId → List ι} {t t' : ScopeTable} {added : List (ι × ScopeId)}
    (appends : Appends number count listed t t' added) {x : ι × ScopeId} (member : x ∈ added) :
    count t ≤ number x.1 ∧ number x.1 < count t' := by
  have numbered : number x.1 ∈ List.range' (count t) added.length := by
    rw [← appends.numbered]
    exact List.mem_map.2 ⟨x, member, rfl⟩
  rw [List.mem_range'_1] at numbered
  rw [appends.count_eq]
  exact numbered

/-- A scope that none of the added items is paired with lists what it listed. -/
theorem Appends.listed_of_outside {ι : Type} {number : ι → Nat} {count : ScopeTable → Nat}
    {listed : ScopeTable → ScopeId → List ι} {t t' : ScopeTable} {added : List (ι × ScopeId)}
    {s : ScopeId} (appends : Appends number count listed t t' added)
    (outside : ∀ x ∈ added, x.2 ≠ s) : listed t' s = listed t s := by
  rw [appends.listed_eq s, List.filter_eq_nil_iff.2, List.map_nil, List.append_nil]
  intro x member
  simpa using outside x member

/-- A scope that is not there yet has no entries. -/
theorem entriesOf_of_scopeCount_le {t : ScopeTable} {s : ScopeId}
    (absent : t.scopeCount ≤ s.index) : t.entriesOf s = [] := by
  rw [entriesOf_eq, bindingsOf_of_scopeCount_le absent]
  rfl

/-- A scope binds a name to the same entry in a table whose bindings there start with its own. -/
theorem lookupLocal_of_prefix {t t' : ScopeTable} {s : ScopeId} {name : String} {e : EntryId}
    (found : t.lookupLocal s name = some e) (kept : t.bindingsOf s <+: t'.bindingsOf s) :
    t'.lookupLocal s name = some e := by
  obtain ⟨later, extended⟩ := kept
  rw [lookupLocal_eq] at found ⊢
  rw [← extended, List.lookup_append, found]
  rfl

/-- Defining a name in a scope that is there binds it there to the new entry. -/
theorem lookupLocal_of_define {t t' : ScopeTable} {s : ScopeId} {name : String} {x : Entry}
    {id : EntryId} (defined : t.define s name x = .ok (t', id)) (present : s.index < t.scopeCount) :
    t'.lookupLocal s name = some id := by
  have fresh := (define_eq_ok defined).1
  rw [lookupLocal_eq] at fresh ⊢
  rw [bindingsOf_of_define defined, if_pos ⟨rfl, present⟩, List.lookup_append, fresh,
    Option.none_or, List.lookup_cons_self]

/--
The table `t` holds the variable that the declaration `d` declares in the scope `s`: `s` is there
and binds a name to the variable, which is a variable of that name and of the type of the initial
value, global when `s` has no parent and local otherwise, with no offset, active, alive and no
temporary.
-/
def HoldsVar (t : ScopeTable) (d : VarDecl) (s : ScopeId) : Prop :=
  s.index < t.scopeCount ∧ ∃ name, t.entry? d.var = some (.var
      { name, ty := d.init.ty, kind := if (t.parent s).isNone then .global else .blockLocal }) ∧
    t.lookupLocal s name = some d.var

/-- A table grown from one that holds a variable holds it too, if its scope keeps its bindings. -/
theorem HoldsVar.mono {t t' : ScopeTable} {d : VarDecl} {s : ScopeId} (holds : t.HoldsVar d s)
    (grows : t.GrowsTo t') (kept : t.bindingsOf s <+: t'.bindingsOf s) : t'.HoldsVar d s := by
  obtain ⟨present, name, found, bound⟩ := holds
  refine ⟨Nat.lt_of_lt_of_le present grows.scopeCount_le, name, ?_,
    lookupLocal_of_prefix bound kept⟩
  rw [grows.parent s present]
  exact grows.entries _ _ found

/--
The table `t` holds the function that the definition `f` defines: its entry records its name, a
position among the declarations, the entries of its parameters' scope as its parameters, and its
return type; the root binds its name to it; and each of its parameters is a parameter variable.
-/
def HoldsFunc (t : ScopeTable) (f : FuncDef) : Prop :=
  (∃ index, t.entry? f.entry =
      some (.func ⟨f.name, ⟨index⟩, t.entriesOf f.params, f.returnType⟩)) ∧
    t.lookupLocal root f.name = some f.entry ∧
    ∀ x ∈ t.entriesOf f.params, ∃ v, t.entry? x = some (.var v) ∧ v.kind = .param

/--
A table grown from one that holds a function holds it too, if the root keeps its bindings and
nothing more is defined in the function's parameters' scope.
-/
theorem HoldsFunc.mono {t t' : ScopeTable} {f : FuncDef} (holds : t.HoldsFunc f)
    (grows : t.GrowsTo t') (kept : t.bindingsOf root <+: t'.bindingsOf root)
    (sameParams : t'.entriesOf f.params = t.entriesOf f.params) : t'.HoldsFunc f := by
  obtain ⟨⟨index, found⟩, bound, params⟩ := holds
  refine ⟨⟨index, ?_⟩, lookupLocal_of_prefix bound kept, ?_⟩
  · rw [sameParams]
    exact grows.entries _ _ found
  · intro x member
    rw [sameParams] at member
    obtain ⟨v, isVar, isParam⟩ := params x member
    exact ⟨v, grows.entries _ _ isVar, isParam⟩

end ScopeTable

/-! ## Variables -/

/-- The variable the reader defines for a declaration is held in the current scope. -/
theorem Context.holdsVar_define {ctx ctx' : Context} {name : String} {init : Expr}
    {nameLoc loc : Location} {id : EntryId}
    (defined : ctx.define name (.var { name, ty := init.ty, kind := ctx.varKind }) nameLoc =
      .ok (ctx', id))
    (present : ctx.scope.index < ctx.table.scopeCount) :
    ctx'.table.HoldsVar ⟨id, init, loc⟩ ctx.scope := by
  have tableDefined := (define_eq_ok defined).1
  refine ⟨?_, name, ?_, ScopeTable.lookupLocal_of_define tableDefined present⟩
  · rw [ScopeTable.scopeCount_of_define tableDefined]
    exact present
  · rw [ScopeTable.entry?_of_define tableDefined, if_pos rfl,
      ScopeTable.parent_of_define tableDefined]
    rfl

/-- Reading statements leaves every variable they declare held in its scope. -/
theorem StmtsRead.holdsVars {ctx ctx' : Context} {stmts : List Stmt}
    (read : StmtsRead ctx stmts ctx') (present : ctx.scope.index < ctx.table.scopeCount) :
    ∀ x ∈ Stmt.varDeclsOfList ctx.scope stmts, ctx'.table.HoldsVar x.1 x.2 := by
  induction read with
  | nil ctx =>
      intro x member
      simp [Stmt.varDeclsOfList] at member
  | @cons ctx ctx₁ ctx₂ s rest first later firstIH laterIH =>
      have changes := first.changes present
      have present₁ := changes.present present
      intro x member
      rw [Stmt.varDeclsOfList, List.mem_append] at member
      rcases member with inFirst | inLater
      · have held := firstIH present x (by simpa [Stmt.varDeclsOfList] using inFirst)
        exact held.mono (later.changes present₁).grows ((later.defines present₁).bindings x.2)
      · rw [← changes.scope] at inLater
        exact laterIH present₁ x inLater
  | @block ctx ctx₁ stmts loc _ bodyIH =>
      intro x member
      simp only [Stmt.varDeclsOfList, Stmt.varDecls, List.append_nil] at member
      rw [Context.exit_table]
      rw [← Context.scope_enter] at member
      exact bodyIH (Context.enter_present ctx) x member
  | ifThen _ _ _ thenIH =>
      intro x member
      simp only [Stmt.varDeclsOfList, Stmt.varDecls, Stmt.varDeclsOfOption, List.append_nil]
        at member
      exact thenIH present x (by simpa [Stmt.varDeclsOfList] using member)
  | @ifElse ctx ctx₁ ctx₂ cond thenBranch elseBranch loc _ _ thenRead elseRead thenIH elseIH =>
      have changes := thenRead.changes present
      have present₁ := changes.present present
      intro x member
      simp only [Stmt.varDeclsOfList, Stmt.varDecls, Stmt.varDeclsOfOption, List.append_nil,
        List.mem_append] at member
      rcases member with inThen | inElse
      · have held := thenIH present x (by simpa [Stmt.varDeclsOfList] using inThen)
        exact held.mono (elseRead.changes present₁).grows
          ((elseRead.defines present₁).bindings x.2)
      · rw [← changes.scope] at inElse
        exact elseIH present₁ x (by simpa [Stmt.varDeclsOfList] using inElse)
  | whileLoop _ _ _ bodyIH =>
      intro x member
      simp only [Stmt.varDeclsOfList, Stmt.varDecls, List.append_nil] at member
      exact bodyIH present x (by simpa [Stmt.varDeclsOfList] using member)
  | @forLoop ctx ctx₁ ctx₂ init body test step stepLoc loc initRead _ _ _ bodyRead initIH
      bodyIH =>
      have initPresent := (initRead.changes (Context.enter_present ctx)).present
        (Context.enter_present ctx)
      intro x member
      simp only [Stmt.varDeclsOfList, Stmt.varDecls, List.append_nil, List.mem_append]
        at member
      rw [Context.exit_table, Context.exit_table]
      rcases member with inInit | inBody
      · rw [← Context.scope_enter] at inInit
        have held := initIH (Context.enter_present ctx) x
          (by simpa [Stmt.varDeclsOfList] using inInit)
        have grows := ctx₁.grows_enter.trans (bodyRead.changes (Context.enter_present ctx₁)).grows
        have defines := ctx₁.defines_enter.trans (bodyRead.defines (Context.enter_present ctx₁))
        exact held.mono grows (defines.bindings x.2)
      · rw [← Context.scope_enter] at inBody
        exact bodyIH (Context.enter_present ctx₁) x (by simpa [Stmt.varDeclsOfList] using inBody)
  | varDecl _ defined =>
      intro x member
      simp only [Stmt.varDeclsOfList, Stmt.varDecls, List.append_nil, List.mem_singleton] at member
      rw [member]
      exact Context.holdsVar_define defined present
  | ret _ =>
      intro x member
      simp [Stmt.varDeclsOfList, Stmt.varDecls] at member
  | expr _ =>
      intro x member
      simp [Stmt.varDeclsOfList, Stmt.varDecls] at member

/-- Every parameter the reader defines is a parameter variable. -/
theorem ParamsRead.params_kind {ctx ctx' : Context} {ids : List EntryId}
    (read : ParamsRead ctx ids ctx') (present : ctx.scope.index < ctx.table.scopeCount) :
    ∀ x ∈ ids, ∃ v, ctx'.table.entry? x = some (.var v) ∧ v.kind = .param := by
  induction read with
  | nil ctx =>
      intro x member
      cases member
  | @cons ctx ctx₁ ctx₂ name tyName nameLoc tyLoc ty id offset rest _ defined later laterIH =>
      have present₁ : ctx₁.scope.index < ctx₁.table.scopeCount := by
        rw [Context.scope_define defined]
        exact Nat.lt_of_lt_of_le present (Context.grows_define defined).scopeCount_le
      intro x member
      rcases List.mem_cons.1 member with first | inRest
      · have found := ScopeTable.entry?_of_define (Context.define_eq_ok defined).1 id
        rw [if_pos rfl] at found
        rw [first]
        exact ⟨_, (later.defines present₁).entries _ _ found, rfl⟩
      · exact laterIH present₁ x inRest

/-- A block read in a context declares its variables in scopes opened after the context's. -/
theorem StmtsRead.block_declares_after {ctx ctx' : Context} {b : Block}
    (read : StmtsRead ctx [b.toStmt] ctx') (present : ctx.scope.index < ctx.table.scopeCount) :
    ∀ x ∈ Stmt.varDeclsOfList ctx.scope [b.toStmt], ctx.table.scopeCount ≤ x.2.index := by
  intro x member
  rw [Stmt.varDeclsOfList, Stmt.varDeclsOfList, List.append_nil] at member
  obtain ⟨q, opened, same⟩ := List.mem_map.1 (Block.varDecls_scope b ctx.scope x member)
  have listed : q ∈ Stmt.scopesOfList ctx.scope [b.toStmt] := by
    rw [Stmt.scopesOfList, Stmt.scopesOfList, List.append_nil]
    exact opened
  rw [← same]
  exact ((read.opens present).bounds listed).1

/-! ## Functions -/

/--
A function the reader defines from the root is held by the table it leaves: the entries of its
parameters' scope are the parameters it read, which its entry records.
-/
theorem Context.holdsFunc_define {ctx ctx₁ ctx₂ ctx₃ : Context} {ids : List EntryId}
    {body : Block} {name : String} {nameLoc : Location} {index : Nat} {returnType entry : EntryId}
    (paramsRead : ParamsRead ctx.enter.1 ids ctx₁) (bodyRead : StmtsRead ctx₁ [body.toStmt] ctx₂)
    (defined : (ctx₂.exit ctx.enter.2).define name (.func ⟨name, ⟨index⟩, ids, returnType⟩)
      nameLoc = .ok (ctx₃, entry))
    (atRoot : ctx.scope = ScopeTable.root) (present : ctx.scope.index < ctx.table.scopeCount) :
    ctx₃.table.HoldsFunc ⟨name, entry, ctx.enter.2, body, returnType, nameLoc⟩ := by
  have scopes := Context.funcScopes paramsRead bodyRead defined atRoot present
  have paramsDefine := paramsRead.defines (Context.enter_present ctx)
  rw [Context.scope_enter] at paramsDefine
  have bodyDefines := bodyRead.defines scopes.params_present
  have funcDefine := Context.defines_define defined scopes.closed_present
  rw [Context.exit_table, scopes.closed] at funcDefine
  have tableDefined := (Context.define_eq_ok defined).1
  rw [Context.exit_table, scopes.closed] at tableDefined
  have rootPresent := scopes.closed_present
  rw [scopes.closed] at rootPresent
  have opened : ctx.enter.1.table.entriesOf ctx.enter.2 = [] := by
    rw [ctx.defines_enter.listed_of_outside (fun x member => by cases member)]
    exact ScopeTable.entriesOf_of_scopeCount_le (Nat.le_refl _)
  have paramsOnly : ctx₃.table.entriesOf ctx.enter.2 = ids := by
    have bodyOutside : ∀ x ∈ (Stmt.varDeclsOfList ctx₁.scope [body.toStmt]).map
        (fun x => (x.1.var, x.2)), x.2 ≠ ctx.enter.2 := by
      intro x member
      obtain ⟨y, declared, rfl⟩ := List.mem_map.1 member
      show y.2 ≠ ctx.enter.2
      have after := bodyRead.block_declares_after scopes.params_present y declared
      have here := scopes.params_present
      rw [scopes.params] at here
      intro same
      rw [← same] at here
      omega
    have rootOutside : ∀ x ∈ [(entry, ScopeTable.root)], x.2 ≠ ctx.enter.2 := by
      intro x member
      rw [List.mem_singleton.1 member, ← atRoot]
      exact Context.ne_enter present
    rw [funcDefine.listed_of_outside rootOutside, bodyDefines.listed_of_outside bodyOutside,
      paramsDefine.listed_eq, opened]
    simp [List.filter_map, Function.comp_def]
  have recorded := ScopeTable.entry?_of_define tableDefined entry
  rw [if_pos rfl] at recorded
  refine ⟨⟨index, ?_⟩, ?_, ?_⟩
  · rw [paramsOnly]
    exact recorded
  · exact ScopeTable.lookupLocal_of_define tableDefined rootPresent
  · intro x member
    rw [paramsOnly] at member
    obtain ⟨v, found, isParam⟩ := paramsRead.params_kind (Context.enter_present ctx) x member
    exact ⟨v, (bodyDefines.entries.trans funcDefine.entries) _ _ found, isParam⟩

/-! ## Declarations -/

/-- Reading declarations from the root ends in the root, which is there. -/
theorem DeclsRead.endsAtRoot {ctx ctx' : Context} {decls : List Decl}
    (read : DeclsRead ctx decls ctx') (atRoot : ctx.scope = ScopeTable.root)
    (present : ctx.scope.index < ctx.table.scopeCount) :
    ctx'.scope = ScopeTable.root ∧ ctx'.scope.index < ctx'.table.scopeCount := by
  induction read with
  | nil ctx => exact ⟨atRoot, present⟩
  | var declRead _ laterIH =>
      have changes := declRead.changes present
      exact laterIH (changes.scope.trans atRoot) (changes.present present)
  | func paramsRead bodyRead _ defined _ laterIH =>
      have scopes := Context.funcScopes paramsRead bodyRead defined atRoot present
      exact laterIH scopes.defined scopes.defined_present

/-- Declarations read from the root define in the root or in scopes opened after its context's. -/
theorem DeclsRead.definitions_outside {ctx ctx' : Context} {decls : List Decl}
    (read : DeclsRead ctx decls ctx') (atRoot : ctx.scope = ScopeTable.root)
    (present : ctx.scope.index < ctx.table.scopeCount) (T : ScopeTable) :
    ∀ x ∈ decls.flatMap (Decl.definitions T),
      x.2 = ScopeTable.root ∨ ctx.table.scopeCount ≤ x.2.index := by
  intro x member
  obtain ⟨d, declared, defined⟩ := List.mem_flatMap.1 member
  rcases Decl.definitions_scope T d x defined with isRoot | opened
  · exact Or.inl isRoot
  · obtain ⟨q, listed, same⟩ := List.mem_map.1 opened
    have bounds := (read.opens atRoot present).bounds (List.mem_flatMap.2 ⟨d, declared, listed⟩)
    rw [← same]
    exact Or.inr bounds.1

/-- Reading declarations from the root leaves every variable and function they declare held. -/
theorem DeclsRead.holds {ctx ctx' : Context} {decls : List Decl} (read : DeclsRead ctx decls ctx')
    (atRoot : ctx.scope = ScopeTable.root) (present : ctx.scope.index < ctx.table.scopeCount) :
    (∀ x ∈ decls.flatMap Decl.varDecls, ctx'.table.HoldsVar x.1 x.2) ∧
      ∀ f, Decl.func f ∈ decls → ctx'.table.HoldsFunc f := by
  induction read with
  | nil ctx =>
      refine ⟨fun x member => ?_, fun f member => ?_⟩
      · simp at member
      · cases member
  | @var ctx ctx₁ ctx₂ d rest declRead later laterIH =>
      have changes := declRead.changes present
      have atRoot₁ := changes.scope.trans atRoot
      have present₁ := changes.present present
      have laterDefines := later.defines atRoot₁ present₁ (.refl _)
      have grows := ScopeTable.GrowsTo.of_opens (later.opens atRoot₁ present₁) laterDefines
      obtain ⟨varsHeld, funcsHeld⟩ := laterIH atRoot₁ present₁
      refine ⟨?_, ?_⟩
      · intro x member
        rw [List.flatMap_cons, List.mem_append] at member
        rcases member with isThis | inRest
        · have declared : x ∈ Stmt.varDeclsOfList ctx.scope [.varDecl d] := by
            simpa [Stmt.varDeclsOfList, Stmt.varDecls, Decl.varDecls, atRoot] using isThis
          exact (declRead.holdsVars present x declared).mono grows (laterDefines.bindings x.2)
        · exact varsHeld x inRest
      · intro f member
        rcases List.mem_cons.1 member with isThis | inRest
        · cases isThis
        · exact funcsHeld f inRest
  | @func ctx ctx₁ ctx₂ ctx₃ ctx₄ ids body name nameLoc index returnType entry rest paramsRead
      bodyRead _ defined later laterIH =>
      have scopes := Context.funcScopes paramsRead bodyRead defined atRoot present
      have laterDefines := later.defines scopes.defined scopes.defined_present (.refl _)
      have grows := ScopeTable.GrowsTo.of_opens (later.opens scopes.defined scopes.defined_present)
        laterDefines
      have funcGrows := Context.grows_define defined
      obtain ⟨varsHeld, funcsHeld⟩ := laterIH scopes.defined scopes.defined_present
      refine ⟨?_, ?_⟩
      · intro x member
        rw [List.flatMap_cons, List.mem_append] at member
        rcases member with inBody | inRest
        · have declared : x ∈ Stmt.varDeclsOfList ctx₁.scope [body.toStmt] := by
            simpa [Stmt.varDeclsOfList, Decl.varDecls, scopes.params] using inBody
          have funcDefine := Context.defines_define defined scopes.closed_present
          have bodyHeld := bodyRead.holdsVars scopes.params_present x declared
          exact (bodyHeld.mono funcGrows (funcDefine.bindings x.2)).mono grows
            (laterDefines.bindings x.2)
        · exact varsHeld x inRest
      · intro f member
        rcases List.mem_cons.1 member with isThis | inRest
        · cases isThis
          have paramsPresent : ctx.enter.2.index < ctx₃.table.scopeCount := by
            have here := scopes.params_present
            rw [scopes.params] at here
            exact Nat.lt_of_lt_of_le here
              ((bodyRead.changes scopes.params_present).grows.trans funcGrows).scopeCount_le
          have outside : ∀ x ∈ rest.flatMap (Decl.definitions ctx₄.table), x.2 ≠ ctx.enter.2 := by
            intro x member same
            rcases later.definitions_outside scopes.defined scopes.defined_present _ x member with
              isRoot | after
            · rw [same, ← atRoot] at isRoot
              exact Context.ne_enter present isRoot.symm
            · rw [same] at after
              omega
          exact (Context.holdsFunc_define paramsRead bodyRead defined atRoot present).mono grows
            (laterDefines.bindings _) (laterDefines.listed_of_outside outside)
        · exact funcsHeld f inRest

namespace Parse

/-- One declaration read from a context is a derivation on its own. -/
theorem declaration_reads {index : Nat} {ctx : Context} {c : Cursor} {d : Read c (Decl × Context)}
    (parsed : declaration index ctx c = .ok d) : DeclsRead ctx [d.value.1] d.value.2 := by
  rcases declaration_eq_ok parsed with ⟨-, v, varRead, valueEq, -⟩ | ⟨-, f, funcRead, valueEq, -⟩
  · rw [valueEq]
    exact .var (varDecl_reads varRead) (.nil _)
  · rw [valueEq]
    rcases funcDef_eq_ok funcRead with ⟨name, c1, ps, body, returnType, entry, -, -, psRead,
      bodyRead, resolved, defined, funcEq, -⟩
    rw [funcEq]
    exact .func (paramList_reads psRead) (block_reads bodyRead) resolved defined (.nil _)

/--
The reader records the position of each function among the declarations in its entry: of the
declarations read from the `index`-th on, the `i`-th, if it is a function, has an entry that
records the position `index + i`.
-/
theorem declarations_funcIndex : ∀ index ctx c res, declarations index ctx c = .ok res →
    ctx.scope = ScopeTable.root → ctx.scope.index < ctx.table.scopeCount →
    ∀ i fd, res.1[i]? = some (.func fd) → ∃ ids,
      res.2.1.table.entry? fd.entry = some (.func ⟨fd.name, ⟨index + i⟩, ids, fd.returnType⟩) := by
  refine declarations.induct _ ?atEnd ?more
  case atEnd =>
    intro index ctx c isEnd res parsed _ _ i fd found
    rcases declarations_eq_ok parsed with ⟨-, resEq⟩ | ⟨notEnd, -⟩
    · rw [resEq] at found
      simp at found
    · exact absurd isEnd notEnd
  case more =>
    intro index ctx c notEnd restIH res parsed atRoot present i fd found
    rcases declarations_eq_ok parsed with ⟨isEnd, -⟩ | ⟨-, d, rest, declRead, restRead, resEq⟩
    · exact absurd isEnd notEnd
    · obtain ⟨atRoot₁, present₁⟩ := (declaration_reads declRead).endsAtRoot atRoot present
      have kept := ((declarations_reads _ _ _ rest restRead).defines atRoot₁ present₁
        (.refl _)).entries
      rw [resEq] at found ⊢
      cases i with
      | zero =>
          rw [List.getElem?_cons_zero, Option.some.injEq] at found
          rcases declaration_eq_ok declRead with ⟨-, v, -, valueEq, -⟩ |
            ⟨-, f, funcRead, valueEq, -⟩
          · rw [valueEq] at found
            cases found
          · rcases funcDef_eq_ok funcRead with ⟨name, c1, ps, body, returnType, entry, -, -, -, -,
              -, defined, funcEq, -⟩
            rw [valueEq, funcEq] at found
            cases found
            have recorded := ScopeTable.entry?_of_define (Context.define_eq_ok defined).1 entry
            rw [if_pos rfl] at recorded
            rw [valueEq] at kept
            exact ⟨ps.value.1, kept _ _ recorded⟩
      | succ k =>
          rw [List.getElem?_cons_succ] at found
          obtain ⟨ids, entryFound⟩ :=
            restIH d.value.2 d.cursor d.lt rest restRead atRoot₁ present₁ k fd found
          rw [show index + (k + 1) = index + 1 + k by omega]
          exact ⟨ids, entryFound⟩

end Parse

/-! ## Programs -/

/-- The table of the built-in types holds their four entries, in the root. -/
theorem Context.builtin_entries (loc : Location) :
    (builtin loc).table.entryCount = 4 ∧
      ∀ s, (builtin loc).table.entriesOf s =
        (ScopeTable.builtinDefinitions.filter (·.2 = s)).map Prod.fst := by
  refine ⟨rfl, fun s => ?_⟩
  rw [ScopeTable.entriesOf_eq, builtin_bindingsOf]
  by_cases isRoot : s = ScopeTable.root
  · subst isRoot
    rfl
  · have notZero : s.index ≠ 0 := fun zero => isRoot (congrArg ScopeId.mk zero)
    rw [if_neg notZero]
    simp [ScopeTable.builtinDefinitions, List.filter_map, Function.comp_def, Ne.symm isRoot]

/-- In every program the reader returns, the root is the one scope there without a parent. -/
theorem Program.read_parent_isNone {f : Feed} {p : Program}
    (parsed : (Program.read f).result = .ok p) {s : ScopeId}
    (present : s.index < p.table.scopeCount) :
    (p.table.parent s).isNone ↔ s = ScopeTable.root := by
  obtain ⟨loc, opens⟩ := Program.read_opens parsed
  obtain ⟨single, noParent, -⟩ := Context.builtin_scopes loc
  have numbered := opens.numbered
  have count := opens.count_eq
  rw [single] at numbered count
  rw [opens.parent, single]
  by_cases atRoot : s.index < 1
  · have isRoot : s = ScopeTable.root := congrArg ScopeId.mk (Nat.lt_one_iff.1 atRoot)
    rw [if_pos atRoot, noParent]
    exact ⟨fun _ => isRoot, fun _ => rfl⟩
  · rw [if_neg atRoot]
    have listed := ScopeTable.lookup_isSome_of_numbered numbered (Nat.le_of_not_lt atRoot)
      (by omega)
    constructor
    · intro noParentFound
      rw [Option.isNone_iff_eq_none] at noParentFound
      rw [noParentFound] at listed
      cases listed
    · intro isRoot
      rw [isRoot] at atRoot
      exact absurd Nat.zero_lt_one atRoot

/-- Every program the reader returns defines, after the built-in types, what its tree declares. -/
theorem Program.read_defines {f : Feed} {p : Program} (parsed : (Program.read f).result = .ok p) :
    ∃ loc, (Context.builtin loc).table.Defines p.table
      (p.decls.flatMap (Decl.definitions p.table)) := by
  rcases Program.read_reads parsed with ⟨loc, ctx, declsRead, tableEq⟩
  refine ⟨loc, ?_⟩
  rw [tableEq]
  exact declsRead.defines (Context.builtin_scope loc) (Context.builtin_present loc) (.refl _)

/-- Every program the reader returns holds each variable and each function its tree declares. -/
theorem Program.read_holds {f : Feed} {p : Program} (parsed : (Program.read f).result = .ok p) :
    (∀ x ∈ p.varDecls, p.table.HoldsVar x.1 x.2) ∧
      ∀ fd, Decl.func fd ∈ p.decls → p.table.HoldsFunc fd := by
  rcases Program.read_reads parsed with ⟨loc, ctx, declsRead, tableEq⟩
  rw [tableEq]
  exact declsRead.holds (Context.builtin_scope loc) (Context.builtin_present loc)

/-- Every program the reader returns records each function's position among its declarations. -/
theorem Program.read_funcIndex {f : Feed} {p : Program} (parsed : (Program.read f).result = .ok p)
    {i : Nat} {fd : FuncDef} (found : p.decls[i]? = some (.func fd)) :
    ∃ ids, p.table.entry? fd.entry = some (.func ⟨fd.name, ⟨i⟩, ids, fd.returnType⟩) := by
  rcases Program.read_eq_ok parsed with ⟨c, decls, ctx, c', -, declsRead, rfl⟩
  have recorded := Parse.declarations_funcIndex 0 _ c _ declsRead (Context.builtin_scope _)
    (Context.builtin_present _) i fd found
  rw [Nat.zero_add] at recorded
  exact recorded

/--
The table and the tree of every program the reader returns agree on every declaration. The first
four entries are the built-in types. Every entry is defined by exactly one node of the tree, in the
scope it is paired with there, and each scope lists exactly the entries defined in it, in order. A
variable declaration's entry is a variable of the type of its initial value, bound under its name in
the scope of the innermost block around it, global exactly when that scope is the root. A function's
entry records its name, its position among the declarations, the entries of its parameters' scope
as its parameters and its return type; its parameters are parameter variables, and its name looked
up in the root gives the function back.
-/
theorem Program.read_declarationsAgree {f : Feed} {p : Program}
    (parsed : (Program.read f).result = .ok p) :
    (∀ i info, Parse.builtinTypes[i]? = some info → p.table.entry? ⟨i⟩ = some (.type info)) ∧
      p.definitions.map Prod.fst = (List.range p.table.entryCount).map EntryId.mk ∧
      (∀ s, p.table.entriesOf s = (p.definitions.filter (·.2 = s)).map Prod.fst) ∧
      (∀ d s, (d, s) ∈ p.varDecls → ∃ name, p.table.entry? d.var = some (.var
          { name, ty := d.init.ty, kind := if s = ScopeTable.root then .global else .blockLocal }) ∧
        p.table.lookupLocal s name = some d.var) ∧
      (∀ i fd, p.decls[i]? = some (.func fd) →
        p.table.entry? fd.entry =
          some (.func ⟨fd.name, ⟨i⟩, p.table.entriesOf fd.params, fd.returnType⟩) ∧
        (∀ x ∈ p.table.entriesOf fd.params,
          ∃ v, p.table.entry? x = some (.var v) ∧ v.kind = .param) ∧
        p.function? fd.name = some fd) := by
  obtain ⟨loc, defines⟩ := Program.read_defines parsed
  obtain ⟨count, builtinListed⟩ := Context.builtin_entries loc
  obtain ⟨varsHeld, funcsHeld⟩ := Program.read_holds parsed
  refine ⟨?builtins, ?numbered, ?listed, ?vars, ?funcs⟩
  case builtins =>
    intro i info listed
    have found : (Context.builtin loc).table.entry? ⟨i⟩ = (Parse.builtinTypes[i]?).map .type :=
      Context.entry?_builtin loc ⟨i⟩
    rw [listed] at found
    exact defines.entries _ _ found
  case numbered =>
    have numbered := defines.numbered
    have counted := defines.count_eq
    rw [count] at numbered counted
    rw [counted, Program.definitions, List.range_eq_range', ← List.range'_append_1,
      List.map_append, List.map_append, Nat.zero_add, ← numbered, List.map_map]
    rfl
  case listed =>
    intro s
    rw [defines.listed_eq, builtinListed, Program.definitions, List.filter_append,
      List.map_append]
  case vars =>
    intro d s declared
    obtain ⟨present, name, found, bound⟩ := varsHeld (d, s) declared
    refine ⟨name, ?_, bound⟩
    rw [found]
    by_cases isRoot : s = ScopeTable.root
    · rw [if_pos ((Program.read_parent_isNone parsed present).2 isRoot), if_pos isRoot]
    · rw [if_neg (mt (Program.read_parent_isNone parsed present).1 isRoot), if_neg isRoot]
  case funcs =>
    intro i fd found
    obtain ⟨⟨index, recorded⟩, bound, params⟩ := funcsHeld fd (List.mem_of_getElem? found)
    obtain ⟨ids, positioned⟩ := Program.read_funcIndex parsed found
    have same := recorded.symm.trans positioned
    cases same
    refine ⟨recorded, params, ?_⟩
    simp [Program.function?, ScopeTable.funcInfo?, bound, recorded, found]

/--
A function whose body shadows a variable in an inner block, then a global that calls it: its two
parameters, three variables and the function follow the built-in types, and the table and the tree
agree on each of them.
-/
theorem Program.ofSource_shadowing_declarationsAgree :
    ∃ p, (Program.ofSource
        "f(a: int, b: float) { var c = a; { var c = b; } return c; } var d = f(1, 2.5);").result = .ok p ∧
      p.varDecls.length = 3 ∧ p.table.entryCount = 10 ∧
      ((∀ i info, Parse.builtinTypes[i]? = some info → p.table.entry? ⟨i⟩ = some (.type info)) ∧
        p.definitions.map Prod.fst = (List.range p.table.entryCount).map EntryId.mk ∧
        (∀ s, p.table.entriesOf s = (p.definitions.filter (·.2 = s)).map Prod.fst) ∧
        (∀ d s, (d, s) ∈ p.varDecls → ∃ name, p.table.entry? d.var = some (.var
            { name, ty := d.init.ty, kind := if s = ScopeTable.root then .global else .blockLocal }) ∧
          p.table.lookupLocal s name = some d.var) ∧
        (∀ i fd, p.decls[i]? = some (.func fd) →
          p.table.entry? fd.entry =
            some (.func ⟨fd.name, ⟨i⟩, p.table.entriesOf fd.params, fd.returnType⟩) ∧
          (∀ x ∈ p.table.entriesOf fd.params,
            ∃ v, p.table.entry? x = some (.var v) ∧ v.kind = .param) ∧
          p.function? fd.name = some fd)) := by
  have decided : ((Program.ofSource
      "f(a: int, b: float) { var c = a; { var c = b; } return c; } var d = f(1, 2.5);").result.toOption.map
        fun p => decide (p.varDecls.length = 3 ∧ p.table.entryCount = 10)) = some true := by
    decide +kernel
  revert decided
  cases parsed : (Program.ofSource
    "f(a: int, b: float) { var c = a; { var c = b; } return c; } var d = f(1, 2.5);").result with
  | ok p =>
      intro decided
      have counted := of_decide_eq_true (Option.some.inj decided)
      exact ⟨p, rfl, counted.1, counted.2, Program.read_declarationsAgree parsed⟩
  | error e =>
      intro decided
      cases decided

end ImpFront
