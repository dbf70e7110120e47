import ImpFront.Proofs.ScopeTree

/-!
# The entries a program defines

Every entry of the table after the built-in types is defined by one node of the tree: a variable
declaration, a parameter of a function, or a function. `Program.definitions` lists them in the
order of the tree as the reader defines them: a global variable in the root; for a function, its
parameters in its parameters' scope, then the variables of its body, each in the scope of the
innermost block around it, and last the function itself in the root, after its body.

The reader defines exactly these entries, numbered in this order, and binds each last in its
scope (`ScopeTable.Defines`, `Program.read_defines`): reading statements defines their variables
(`StmtsRead.defines`), opening a scope defines nothing. The scopes a declaration defines entries in
are the root and the scopes it opens (`Decl.definitions_scope`), which is what keeps the entries of
one scope apart from those of another.
-/

namespace ImpFront

/-! ## The declarations of the tree -/

mutual

/--
The variable declarations of a statement that stands in the scope `s`, in the order of the tree,
each with the scope of the innermost block around it.
-/
def Stmt.varDecls (s : ScopeId) : Stmt → List (VarDecl × ScopeId)
  | .block scope stmts _ => Stmt.varDeclsOfList scope stmts
  | .ifElse _ thenBranch elseBranch _ => thenBranch.varDecls s ++ Stmt.varDeclsOfOption s elseBranch
  | .whileLoop _ body _ => body.varDecls s
  | .varDecl d => [(d, s)]
  | .ret .. | .expr .. => []

/-- The variable declarations of statements that stand in the scope `s`, one after the other. -/
def Stmt.varDeclsOfList (s : ScopeId) : List Stmt → List (VarDecl × ScopeId)
  | [] => []
  | x :: rest => x.varDecls s ++ Stmt.varDeclsOfList s rest

/-- The variable declarations of an optional statement that stands in the scope `s`. -/
def Stmt.varDeclsOfOption (s : ScopeId) : Option Stmt → List (VarDecl × ScopeId)
  | none => []
  | some x => x.varDecls s

end

/-- The variable declarations of a declaration: a global in the root, a function's in its body. -/
def Decl.varDecls : Decl → List (VarDecl × ScopeId)
  | .var d => [(d, ScopeTable.root)]
  | .func f => f.body.toStmt.varDecls f.params

/-- The variable declarations of a program, in the order of the tree, each with its scope. -/
def Program.varDecls (p : Program) : List (VarDecl × ScopeId) := p.decls.flatMap Decl.varDecls

/-- The parameters that a table records for the function entry of a definition. -/
def FuncDef.paramsIn (t : ScopeTable) (f : FuncDef) : List EntryId :=
  ((t.funcInfo? f.entry).map (·.params)).getD []

/--
The entries a declaration defines, with the scopes it binds them in, in the order it defines them:
a global in the root; a function's parameters in its parameters' scope, the variables of its body,
and the function itself in the root.
-/
def Decl.definitions (t : ScopeTable) : Decl → List (EntryId × ScopeId)
  | .var d => [(d.var, ScopeTable.root)]
  | .func f => (f.paramsIn t).map (fun e => (e, f.params)) ++
      (f.body.toStmt.varDecls f.params).map (fun x => (x.1.var, x.2)) ++ [(f.entry, ScopeTable.root)]

/-- The built-in types, the first four entries, all of the root. -/
def ScopeTable.builtinDefinitions : List (EntryId × ScopeId) :=
  (List.range 4).map fun i => (⟨i⟩, ScopeTable.root)

/--
The entries of a program with the scopes that bind them, in the order they are defined: the
built-in types, then what each declaration defines.
-/
def Program.definitions (p : Program) : List (EntryId × ScopeId) :=
  ScopeTable.builtinDefinitions ++ p.decls.flatMap (Decl.definitions p.table)

/-! ## Where a tree declares its variables -/

mutual

/-- A statement declares its variables in the scope it stands in or in scopes its blocks open. -/
theorem Stmt.varDecls_scope (s : ScopeId) :
    ∀ (x : Stmt), ∀ d ∈ x.varDecls s, d.2 ∈ s :: (x.scopes s).map Prod.fst
  | .block scope stmts _, d, member => by
      have inner := Stmt.varDeclsOfList_scope scope stmts d member
      simp only [Stmt.scopes, List.map_cons, List.mem_cons] at inner ⊢
      exact Or.inr inner
  | .ifElse _ thenBranch elseBranch _, d, member => by
      simp only [Stmt.varDecls, List.mem_append] at member
      simp only [Stmt.scopes, List.map_append, List.mem_cons, List.mem_append]
      rcases member with inThen | inElse
      · rcases List.mem_cons.1 (Stmt.varDecls_scope s thenBranch d inThen) with here | below
        · exact Or.inl here
        · exact Or.inr (Or.inl below)
      · rcases List.mem_cons.1 (Stmt.varDeclsOfOption_scope s elseBranch d inElse) with here | below
        · exact Or.inl here
        · exact Or.inr (Or.inr below)
  | .whileLoop _ body _, d, member => Stmt.varDecls_scope s body d member
  | .varDecl _, d, member => by
      rw [Stmt.varDecls, List.mem_singleton] at member
      rw [member]
      exact List.mem_cons_self
  | .ret .., d, member => by simp [Stmt.varDecls] at member
  | .expr .., d, member => by simp [Stmt.varDecls] at member

/-- Statements declare their variables in the scope they stand in or in scopes their blocks open. -/
theorem Stmt.varDeclsOfList_scope (s : ScopeId) :
    ∀ (xs : List Stmt), ∀ d ∈ Stmt.varDeclsOfList s xs, d.2 ∈ s :: (Stmt.scopesOfList s xs).map Prod.fst
  | [], d, member => by simp [Stmt.varDeclsOfList] at member
  | x :: rest, d, member => by
      simp only [Stmt.varDeclsOfList, List.mem_append] at member
      simp only [Stmt.scopesOfList, List.map_append, List.mem_cons, List.mem_append]
      rcases member with first | later
      · rcases List.mem_cons.1 (Stmt.varDecls_scope s x d first) with here | below
        · exact Or.inl here
        · exact Or.inr (Or.inl below)
      · rcases List.mem_cons.1 (Stmt.varDeclsOfList_scope s rest d later) with here | below
        · exact Or.inl here
        · exact Or.inr (Or.inr below)

/-- An optional statement declares its variables where it stands or in scopes its blocks open. -/
theorem Stmt.varDeclsOfOption_scope (s : ScopeId) :
    ∀ (x : Option Stmt), ∀ d ∈ Stmt.varDeclsOfOption s x, d.2 ∈ s :: (Stmt.scopesOfOption s x).map Prod.fst
  | none, d, member => by simp [Stmt.varDeclsOfOption] at member
  | some x, d, member => Stmt.varDecls_scope s x d member

end

/-- A block declares its variables in the scopes it opens. -/
theorem Block.varDecls_scope (b : Block) (s : ScopeId) :
    ∀ d ∈ b.toStmt.varDecls s, d.2 ∈ (b.toStmt.scopes s).map Prod.fst := by
  intro d member
  have inner := Stmt.varDeclsOfList_scope b.scope b.stmts d member
  simpa [Block.toStmt, Stmt.scopes] using inner

/-- A declaration defines its entries in the root or in scopes it opens. -/
theorem Decl.definitions_scope (t : ScopeTable) :
    ∀ (d : Decl), ∀ x ∈ d.definitions t, x.2 = ScopeTable.root ∨ x.2 ∈ d.scopes.map Prod.fst
  | .var _, x, member => by
      rw [Decl.definitions, List.mem_singleton] at member
      exact Or.inl (by rw [member])
  | .func f, x, member => by
      simp only [Decl.definitions, List.mem_append, List.mem_map, List.mem_singleton] at member
      simp only [Decl.scopes, List.map_cons, List.mem_cons]
      rcases member with (⟨e, -, rfl⟩ | ⟨v, declared, rfl⟩) | rfl
      · exact Or.inr (Or.inl rfl)
      · exact Or.inr (Or.inr (f.body.varDecls_scope f.params v declared))
      · exact Or.inl rfl

/-! ## Defining names -/

namespace ScopeTable

theorem entriesOf_eq (t : ScopeTable) (s : ScopeId) : t.entriesOf s = (t.bindingsOf s).map Prod.snd := by
  unfold entriesOf bindingsOf
  cases t.scope? s <;> rfl

/--
The table `t'` is `t` with the entries `added` defined after its own: they are numbered on from the
entries of `t`, in order, and each is bound last in the scope it is paired with; the entries of `t`
are kept, and every scope binds first what it bound in `t`.
-/
structure Defines (t t' : ScopeTable) (added : List (EntryId × ScopeId)) : Prop
    extends Appends EntryId.index entryCount entriesOf t t' added where
  entries : t.Extends t'
  bindings : ∀ s, t.bindingsOf s <+: t'.bindingsOf s

namespace Defines

variable {t₁ t₂ t₃ : ScopeTable} {a b : List (EntryId × ScopeId)}

theorem refl (t : ScopeTable) : t.Defines t [] where
  toAppends := .refl t
  entries := .refl t
  bindings := fun _ => List.prefix_refl _

theorem trans (first : t₁.Defines t₂ a) (second : t₂.Defines t₃ b) : t₁.Defines t₃ (a ++ b) where
  toAppends := first.toAppends.trans second.toAppends
  entries := first.entries.trans second.entries
  bindings := fun s => (first.bindings s).trans (second.bindings s)

/-- Defining a name in a scope that is there defines its entry, last in that scope. -/
theorem of_define {t t' : ScopeTable} {s : ScopeId} {name : String} {x : Entry} {id : EntryId}
    (defined : t.define s name x = .ok (t', id)) (present : s.index < t.scopeCount) :
    t.Defines t' [(id, s)] where
  numbered := by
    rw [(define_eq_ok defined).2.1]
    rfl
  count_eq := by
    rw [entryCount, (define_eq_ok defined).2.2.1, Array.size_push]
    rfl
  listed_eq := by
    intro s'
    rw [entriesOf_eq, entriesOf_eq, bindingsOf_of_define defined]
    by_cases same : s' = s
    · simp [same, present]
    · simp [same, Ne.symm same]
  entries := Extends.of_define defined
  bindings := by
    intro s'
    rw [bindingsOf_of_define defined]
    split
    · exact List.prefix_append _ _
    · exact List.prefix_refl _

/-- Opening a scope defines nothing. -/
theorem addChild (t : ScopeTable) (p : ScopeId) : t.Defines (t.addChild p).1 [] where
  numbered := rfl
  count_eq := rfl
  listed_eq := by
    intro s
    rw [entriesOf_eq, entriesOf_eq, bindingsOf_addChild]
    simp
  entries := fun _ _ found => found
  bindings s := bindingsOf_addChild t p s ▸ List.prefix_refl _

end Defines

/-- A table that opens scopes and defines entries after `t` grows from it. -/
theorem GrowsTo.of_opens {t t' : ScopeTable} {a : List (ScopeId × ScopeId)}
    {b : List (EntryId × ScopeId)} (opens : t.Opens t' a) (defines : t.Defines t' b) :
    t.GrowsTo t' where
  entries := defines.entries
  scopeCount_le := by
    rw [opens.count_eq]
    exact Nat.le_add_right _ _
  parent := by
    intro s present
    rw [opens.parent, if_pos present]

end ScopeTable

/-! ## What reading defines -/

namespace Context

variable {ctx : Context}

theorem defines_enter (ctx : Context) : ctx.table.Defines ctx.enter.1.table [] := by
  rw [enter_table]
  exact ScopeTable.Defines.addChild _ _

theorem defines_define {ctx' : Context} {name : String} {x : Entry} {loc : Location} {id : EntryId}
    (defined : ctx.define name x loc = .ok (ctx', id))
    (present : ctx.scope.index < ctx.table.scopeCount) :
    ctx.table.Defines ctx'.table [(id, ctx.scope)] :=
  ScopeTable.Defines.of_define (define_eq_ok defined).1 present

end Context

/-- Reading statements defines their variables, in the order of the tree, each in its scope. -/
theorem StmtsRead.defines {ctx ctx' : Context} {stmts : List Stmt} (read : StmtsRead ctx stmts ctx')
    (present : ctx.scope.index < ctx.table.scopeCount) :
    ctx.table.Defines ctx'.table
      ((Stmt.varDeclsOfList ctx.scope stmts).map fun x => (x.1.var, x.2)) := by
  induction read with
  | nil ctx => exact .refl _
  | cons first _ firstIH laterIH =>
      have changes := first.changes present
      have defined := (firstIH present).trans (laterIH (changes.present present))
      rw [changes.scope] at defined
      simpa [Stmt.varDeclsOfList] using defined
  | @block ctx ctx₁ stmts loc _ bodyIH =>
      have inner := bodyIH (Context.enter_present ctx)
      rw [Context.scope_enter] at inner
      simpa [Stmt.varDeclsOfList, Stmt.varDecls] using ctx.defines_enter.trans inner
  | ifThen _ _ _ thenIH =>
      simpa [Stmt.varDeclsOfList, Stmt.varDecls, Stmt.varDeclsOfOption] using thenIH present
  | ifElse _ _ thenRead _ thenIH elseIH =>
      have changes := thenRead.changes present
      have defined := (thenIH present).trans (elseIH (changes.present present))
      rw [changes.scope] at defined
      simpa [Stmt.varDeclsOfList, Stmt.varDecls, Stmt.varDeclsOfOption] using defined
  | whileLoop _ _ _ bodyIH =>
      simpa [Stmt.varDeclsOfList, Stmt.varDecls] using bodyIH present
  | @forLoop ctx ctx₁ ctx₂ init body test step stepLoc loc initRead _ _ _ _ initIH bodyIH =>
      have initChanges := initRead.changes (Context.enter_present ctx)
      have initDefines := initIH (Context.enter_present ctx)
      have bodyDefines := bodyIH (Context.enter_present ctx₁)
      rw [Context.scope_enter] at initDefines bodyDefines
      simpa [Stmt.varDeclsOfList, Stmt.varDecls] using
        ctx.defines_enter.trans (initDefines.trans (ctx₁.defines_enter.trans bodyDefines))
  | varDecl _ defined =>
      simpa [Stmt.varDeclsOfList, Stmt.varDecls] using Context.defines_define defined present
  | ret _ => exact .refl _
  | expr _ => exact .refl _

/-- Reading parameters defines them, in order, in the current scope. -/
theorem ParamsRead.defines {ctx ctx' : Context} {ids : List EntryId} (read : ParamsRead ctx ids ctx')
    (present : ctx.scope.index < ctx.table.scopeCount) :
    ctx.table.Defines ctx'.table (ids.map fun e => (e, ctx.scope)) := by
  induction read with
  | nil ctx => exact .refl _
  | cons _ defined _ laterIH =>
      have scope₁ := Context.scope_define defined
      have present₁ := Nat.lt_of_lt_of_le present (Context.grows_define defined).scopeCount_le
      rw [← scope₁] at present₁
      have later := laterIH present₁
      rw [scope₁] at later
      exact (Context.defines_define defined present).trans later

/-- The parameters a function entry records, in a table that keeps it. -/
theorem FuncDef.paramsIn_eq {t : ScopeTable} {f : FuncDef} {name : String} {index : Nat}
    {ids : List EntryId} {returnType : EntryId}
    (found : t.entry? f.entry = some (.func ⟨name, ⟨index⟩, ids, returnType⟩)) :
    f.paramsIn t = ids := by
  simp [FuncDef.paramsIn, ScopeTable.funcInfo?, found]

/--
Reading declarations from the root defines what they declare, in order: the parameters of a
function as the table `T`, which keeps what the reading ends with, records them.
-/
theorem DeclsRead.defines {ctx ctx' : Context} {decls : List Decl} (read : DeclsRead ctx decls ctx')
    (atRoot : ctx.scope = ScopeTable.root) (present : ctx.scope.index < ctx.table.scopeCount)
    {T : ScopeTable} (kept : ctx'.table.Extends T) :
    ctx.table.Defines ctx'.table (decls.flatMap (Decl.definitions T)) := by
  induction read with
  | nil ctx => exact .refl _
  | var declRead _ laterIH =>
      have changes := declRead.changes present
      have defined := (declRead.defines present).trans
        (laterIH (changes.scope.trans atRoot) (changes.present present) kept)
      rw [atRoot] at defined
      simpa [Stmt.varDeclsOfList, Stmt.varDecls, Decl.definitions] using defined
  | @func ctx ctx₁ ctx₂ ctx₃ ctx₄ ids body name nameLoc index returnType entry rest paramsRead
      bodyRead _ defined _ laterIH =>
      have scopes := Context.funcScopes paramsRead bodyRead defined atRoot present
      have later := laterIH scopes.defined scopes.defined_present kept
      have paramsDefine := paramsRead.defines (Context.enter_present ctx)
      have bodyDefines := bodyRead.defines scopes.params_present
      rw [Context.scope_enter] at paramsDefine
      rw [scopes.params] at bodyDefines
      have funcDefine := Context.defines_define defined scopes.closed_present
      rw [Context.exit_table, scopes.closed] at funcDefine
      have recorded := ScopeTable.entry?_of_define (Context.define_eq_ok defined).1 entry
      rw [if_pos rfl] at recorded
      have paramsEq : FuncDef.paramsIn T ⟨name, entry, ctx.enter.2, body, returnType, nameLoc⟩ = ids :=
        FuncDef.paramsIn_eq (kept _ _ (later.entries _ _ recorded))
      have defined' := ctx.defines_enter.trans (paramsDefine.trans
        (bodyDefines.trans (funcDefine.trans later)))
      simpa [Decl.definitions, Stmt.varDeclsOfList, paramsEq] using defined'

end ImpFront
