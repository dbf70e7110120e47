import ImpFront.Proofs.TypeSoundness

/-!
# Names and the scopes of the finished tree

The reader resolves a name the moment it reads it, against the table as it stands then. The
finished tree shows its own scoping: a walk of it (`Stmt.walk`) binds the built-in types in
the root, a function's parameters in its parameters' scope before its body and its name in
the root after the body, and a variable in the scope of its innermost block after its initial
value; a name is found from the innermost block around it outwards, through the parents the
table records (`ScopeTable.findIn`). `Program.NamesAgree` says that every variable and every
call refers to the entry that this walk finds for its name where it stands.

The two agree except in one place. A `for` loop is read as
`{ init while (test) { body step; } }`, but its step is read before its body. A body that
declares, in the loop's own scope, a name the step uses makes the walk find the body's
variable where the reader found the outer one (`Stmt.ShadowsStep`). Every program without
such a loop has its names agree with the walk (`Program.read_namesAgree`).

The proof runs over the derivations of `ImpFront.Proofs.Derivations`. Between statements, the
walk's bindings are exactly the table's (`StmtsRead.agrees`); what a statement changes in the
table is the bindings of its own scope, by the variables it declares there, and the scopes it
opens (`StmtsScoped`).
-/

namespace ImpFront

/-! ## The walk -/

mutual

/-- The entries an expression refers to by name, in order: its variables and its callees. -/
def Expr.refs : Expr → List EntryId
  | .binary _ lhs rhs _ _ => lhs.refs ++ rhs.refs
  | .call callee args _ _ => callee :: Expr.refsOfList args
  | .var e _ _ => [e]
  | .lit .. => []

/-- The entries a list of expressions refers to, in order. -/
def Expr.refsOfList : List Expr → List EntryId
  | [] => []
  | a :: rest => a.refs ++ Expr.refsOfList rest

end

theorem Expr.mem_refsOfList {r : EntryId} {args : List Expr} :
    r ∈ Expr.refsOfList args ↔ ∃ a ∈ args, r ∈ a.refs := by
  induction args with
  | nil => simp [Expr.refsOfList]
  | cons a rest ih => simp [Expr.refsOfList, ih]

/-- Bindings made by a walk, scope by scope, each scope's in the order they were made. -/
abbrev Bindings := ScopeId → List (String × EntryId)

/-- Binds a name in a scope, after the bindings the scope holds. -/
def Bindings.bind (w : Bindings) (s : ScopeId) (b : String × EntryId) : Bindings :=
  fun s' => if s' = s then w s' ++ [b] else w s'

@[simp]
theorem Bindings.bind_self (w : Bindings) (s : ScopeId) (b : String × EntryId) :
    w.bind s b s = w s ++ [b] := by
  simp [Bindings.bind]

theorem Bindings.bind_of_ne {w : Bindings} {s s' : ScopeId} (b : String × EntryId)
    (other : s' ≠ s) : w.bind s b s' = w s' := by
  simp [Bindings.bind, other]

/-- The built-in types, bound in the root. -/
def Bindings.builtin : Bindings :=
  fun s => if s = ScopeTable.root then
    [("int", ⟨0⟩), ("float", ⟨1⟩), ("bool", ⟨2⟩), ("string", ⟨3⟩)] else []

/--
The entry that the bindings `w` give a name from the scope `s`: the binding of the nearest
scope on the way to the root, through the parents recorded in `t`.
-/
def ScopeTable.findIn (t : ScopeTable) (w : Bindings) (name : String) (s : ScopeId) :
    Option EntryId :=
  match (w s).lookup name with
  | some e => some e
  | none =>
    match t.parent s with
    | some p => if p.index < s.index then t.findIn w name p else none
    | none => none
termination_by s.index

/-- Every name an expression refers to is found, from the scope `s`, to be the entry it holds. -/
def Expr.FoundIn (t : ScopeTable) (w : Bindings) (s : ScopeId) (e : Expr) : Prop :=
  ∀ r ∈ e.refs, t.findIn w (t.entry r).name s = some r

mutual

/--
The bindings after walking a statement that stands in the scope `s`: a declaration binds its
variable in `s`, a block walks its statements in its own scope, a conditional its branches
and a loop its body.
-/
def Stmt.walk (t : ScopeTable) (s : ScopeId) (w : Bindings) : Stmt → Bindings
  | .block scope stmts _ => Stmt.walkList t scope w stmts
  | .ifElse _ thenBranch elseBranch _ => Stmt.walkOption t s (thenBranch.walk t s w) elseBranch
  | .whileLoop _ body _ => body.walk t s w
  | .varDecl d => w.bind s ((t.entry d.var).name, d.var)
  | .ret .. | .expr .. => w

/-- The bindings after walking statements one after the other. -/
def Stmt.walkList (t : ScopeTable) (s : ScopeId) (w : Bindings) : List Stmt → Bindings
  | [] => w
  | x :: rest => Stmt.walkList t s (x.walk t s w) rest

/-- The bindings after walking an optional statement. -/
def Stmt.walkOption (t : ScopeTable) (s : ScopeId) (w : Bindings) : Option Stmt → Bindings
  | none => w
  | some x => x.walk t s w

end

mutual

/--
The names of a statement that stands in the scope `s`, walked from the bindings `w`, refer to
what the walk finds: conditions, values and initial values where they stand, the parts of a
statement each after the ones before it.
-/
def Stmt.Agrees (t : ScopeTable) (s : ScopeId) (w : Bindings) : Stmt → Prop
  | .block scope stmts _ => Stmt.AgreesList t scope w stmts
  | .ifElse cond thenBranch elseBranch _ => cond.FoundIn t w s ∧ thenBranch.Agrees t s w ∧
      Stmt.AgreesOption t s (thenBranch.walk t s w) elseBranch
  | .whileLoop cond body _ => cond.FoundIn t w s ∧ body.Agrees t s w
  | .ret value _ | .expr value _ => value.FoundIn t w s
  | .varDecl d => d.init.FoundIn t w s

/-- The names of statements one after the other refer to what the walk finds. -/
def Stmt.AgreesList (t : ScopeTable) (s : ScopeId) (w : Bindings) : List Stmt → Prop
  | [] => True
  | x :: rest => x.Agrees t s w ∧ Stmt.AgreesList t s (x.walk t s w) rest

/-- The names of an optional statement refer to what the walk finds. -/
def Stmt.AgreesOption (t : ScopeTable) (s : ScopeId) (w : Bindings) : Option Stmt → Prop
  | none => True
  | some x => x.Agrees t s w

end

/-- A function's parameters, bound in order in its parameters' scope. -/
def FuncDef.bindParams (t : ScopeTable) (f : FuncDef) (w : Bindings) : Bindings :=
  (((t.funcInfo? f.entry).map (·.params)).getD []).foldl
    (fun w p => w.bind f.params ((t.entry p).name, p)) w

/-- The bindings after a declaration: a variable and a function are bound in the root. -/
def Decl.walk (t : ScopeTable) (w : Bindings) : Decl → Bindings
  | .var d => w.bind ScopeTable.root ((t.entry d.var).name, d.var)
  | .func f => (Stmt.walkList t f.body.scope (f.bindParams t w) f.body.stmts).bind
      ScopeTable.root (f.name, f.entry)

/-- The names of a declaration refer to what the walk finds. -/
def Decl.Agrees (t : ScopeTable) (w : Bindings) : Decl → Prop
  | .var d => d.init.FoundIn t w ScopeTable.root
  | .func f => Stmt.AgreesList t f.body.scope (f.bindParams t w) f.body.stmts

/-- The names of declarations one after the other refer to what the walk finds. -/
def Decl.AgreesList (t : ScopeTable) : Bindings → List Decl → Prop
  | _, [] => True
  | w, d :: rest => d.Agrees t w ∧ Decl.AgreesList t (d.walk t w) rest

/-- Every variable and every call of a program refers to the entry the walk finds for it. -/
def Program.NamesAgree (p : Program) : Prop :=
  Decl.AgreesList p.table Bindings.builtin p.decls

/-! ## Steps of `for` loops that the loop's statement shadows -/

mutual

/-- The variables a statement declares in the scope it stands in, not in a block of its own. -/
def Stmt.declaredHere : Stmt → List EntryId
  | .ifElse _ thenBranch elseBranch _ =>
      thenBranch.declaredHere ++ Stmt.declaredHereOption elseBranch
  | .whileLoop _ body _ => body.declaredHere
  | .varDecl d => [d.var]
  | .block .. | .ret .. | .expr .. => []

/-- The variables an optional statement declares in the scope it stands in. -/
def Stmt.declaredHereOption : Option Stmt → List EntryId
  | none => []
  | some x => x.declaredHere

end

/--
The body of a `while` at `loc` is the body a `for` loop makes, a block at `loc` of the loop's
statement and its step, and the statement declares in the block a name the step refers to.
-/
def Stmt.ShadowsStep (t : ScopeTable) (loc : Location) : Stmt → Prop
  | .block _ [body, .expr step _] blockLoc =>
      blockLoc = loc ∧ ∃ d ∈ body.declaredHere, ∃ r ∈ step.refs, (t.entry d).name = (t.entry r).name
  | _ => False

mutual

/-- No loop in a statement has a body whose statement shadows the loop's step. -/
def Stmt.StepsUnshadowed (t : ScopeTable) : Stmt → Prop
  | .block _ stmts _ => Stmt.StepsUnshadowedList t stmts
  | .ifElse _ thenBranch elseBranch _ =>
      thenBranch.StepsUnshadowed t ∧ Stmt.StepsUnshadowedOption t elseBranch
  | .whileLoop _ body loc => ¬body.ShadowsStep t loc ∧ body.StepsUnshadowed t
  | .ret .. | .expr .. | .varDecl _ => True

/-- No loop in a list of statements has its step shadowed. -/
def Stmt.StepsUnshadowedList (t : ScopeTable) : List Stmt → Prop
  | [] => True
  | x :: rest => x.StepsUnshadowed t ∧ Stmt.StepsUnshadowedList t rest

/-- No loop in an optional statement has its step shadowed. -/
def Stmt.StepsUnshadowedOption (t : ScopeTable) : Option Stmt → Prop
  | none => True
  | some x => x.StepsUnshadowed t

end

/-- No loop of a declaration has its step shadowed. -/
def Decl.StepsUnshadowed (t : ScopeTable) : Decl → Prop
  | .var _ => True
  | .func f => Stmt.StepsUnshadowedList t f.body.stmts

/-- No loop of a program has its step shadowed. -/
def Program.StepsUnshadowed (p : Program) : Prop :=
  ∀ d ∈ p.decls, d.StepsUnshadowed p.table

/-! ## Deciding the walk's properties -/

instance (t : ScopeTable) (w : Bindings) (s : ScopeId) (e : Expr) : Decidable (e.FoundIn t w s) :=
  inferInstanceAs (Decidable (∀ r ∈ e.refs, t.findIn w (t.entry r).name s = some r))

mutual

/-- Whether a statement's names agree with the walk, decided by the statement's structure. -/
def Stmt.decAgrees (t : ScopeTable) (s : ScopeId) (w : Bindings) :
    (x : Stmt) → Decidable (x.Agrees t s w)
  | .block scope stmts _ => Stmt.decAgreesList t scope w stmts
  | .ifElse _ thenBranch elseBranch _ =>
      @instDecidableAnd _ _ inferInstance (@instDecidableAnd _ _ (thenBranch.decAgrees t s w)
        (Stmt.decAgreesOption t s (thenBranch.walk t s w) elseBranch))
  | .whileLoop _ body _ => @instDecidableAnd _ _ inferInstance (body.decAgrees t s w)
  | .ret value _ => inferInstanceAs (Decidable (value.FoundIn t w s))
  | .expr value _ => inferInstanceAs (Decidable (value.FoundIn t w s))
  | .varDecl d => inferInstanceAs (Decidable (d.init.FoundIn t w s))

def Stmt.decAgreesList (t : ScopeTable) (s : ScopeId) (w : Bindings) :
    (xs : List Stmt) → Decidable (Stmt.AgreesList t s w xs)
  | [] => instDecidableTrue
  | x :: rest => @instDecidableAnd _ _ (x.decAgrees t s w)
      (Stmt.decAgreesList t s (x.walk t s w) rest)

def Stmt.decAgreesOption (t : ScopeTable) (s : ScopeId) (w : Bindings) :
    (x : Option Stmt) → Decidable (Stmt.AgreesOption t s w x)
  | none => instDecidableTrue
  | some x => x.decAgrees t s w

end

instance (t : ScopeTable) (s : ScopeId) (w : Bindings) (x : Stmt) : Decidable (x.Agrees t s w) :=
  x.decAgrees t s w

instance (t : ScopeTable) (s : ScopeId) (w : Bindings) (xs : List Stmt) :
    Decidable (Stmt.AgreesList t s w xs) :=
  Stmt.decAgreesList t s w xs

instance (t : ScopeTable) (w : Bindings) (d : Decl) : Decidable (d.Agrees t w) := by
  cases d <;> unfold Decl.Agrees <;> infer_instance

/-- Whether declarations' names agree with the walk, one declaration after the other. -/
def Decl.decAgreesList (t : ScopeTable) : (w : Bindings) → (ds : List Decl) →
    Decidable (Decl.AgreesList t w ds)
  | _, [] => instDecidableTrue
  | w, d :: rest => @instDecidableAnd _ _ inferInstance (Decl.decAgreesList t (d.walk t w) rest)

instance (p : Program) : Decidable p.NamesAgree :=
  Decl.decAgreesList p.table Bindings.builtin p.decls

instance (t : ScopeTable) (loc : Location) (x : Stmt) : Decidable (x.ShadowsStep t loc) := by
  unfold Stmt.ShadowsStep
  split <;> infer_instance

mutual

/-- Whether no loop of a statement has its step shadowed, decided by the statement's structure. -/
def Stmt.decStepsUnshadowed (t : ScopeTable) : (x : Stmt) → Decidable (x.StepsUnshadowed t)
  | .block _ stmts _ => Stmt.decStepsUnshadowedList t stmts
  | .ifElse _ thenBranch elseBranch _ => @instDecidableAnd _ _
      (thenBranch.decStepsUnshadowed t) (Stmt.decStepsUnshadowedOption t elseBranch)
  | .whileLoop _ body _ => @instDecidableAnd _ _ inferInstance (body.decStepsUnshadowed t)
  | .ret .. => instDecidableTrue
  | .expr .. => instDecidableTrue
  | .varDecl _ => instDecidableTrue

def Stmt.decStepsUnshadowedList (t : ScopeTable) :
    (xs : List Stmt) → Decidable (Stmt.StepsUnshadowedList t xs)
  | [] => instDecidableTrue
  | x :: rest => @instDecidableAnd _ _ (x.decStepsUnshadowed t)
      (Stmt.decStepsUnshadowedList t rest)

def Stmt.decStepsUnshadowedOption (t : ScopeTable) :
    (x : Option Stmt) → Decidable (Stmt.StepsUnshadowedOption t x)
  | none => instDecidableTrue
  | some x => x.decStepsUnshadowed t

end

instance (t : ScopeTable) (d : Decl) : Decidable (d.StepsUnshadowed t) := by
  cases d with
  | var _ => exact instDecidableTrue
  | func f => exact Stmt.decStepsUnshadowedList t f.body.stmts

instance (p : Program) : Decidable p.StepsUnshadowed :=
  inferInstanceAs (Decidable (∀ d ∈ p.decls, d.StepsUnshadowed p.table))

/-! ## Finding names -/

namespace ScopeTable

/-- A table resolves a name as its own bindings find it. -/
theorem findIn_bindingsOf (t : ScopeTable) (name : String) (s : ScopeId) :
    t.findIn t.bindingsOf name s = t.resolve name s := by
  fun_induction t.resolve name s with
  | case1 s e bound =>
      rw [findIn, ← lookupLocal_eq, bound]
  | case2 s notLocal p isParent below ih =>
      rw [findIn, ← lookupLocal_eq, notLocal]
      simp only [isParent, if_pos below]
      exact ih
  | case3 s notLocal p isParent notBelow =>
      rw [findIn, ← lookupLocal_eq, notLocal]
      simp only [isParent, if_neg notBelow]
  | case4 s notLocal noParent =>
      rw [findIn, ← lookupLocal_eq, notLocal]
      simp only [noParent]

/-- What a name is found to be depends only on the bindings and parents of the scopes up to
the one it is found from. -/
theorem findIn_congr {t t' : ScopeTable} {w w' : Bindings} {name : String} (s : ScopeId)
    (same : ∀ s' : ScopeId, s'.index ≤ s.index → w s' = w' s' ∧ t.parent s' = t'.parent s') :
    t.findIn w name s = t'.findIn w' name s := by
  fun_induction t.findIn w name s with
  | case1 s e found =>
      rw [findIn, ← (same s (Nat.le_refl _)).1, found]
  | case2 s notFound p isParent below ih =>
      obtain ⟨sameBindings, sameParent⟩ := same s (Nat.le_refl _)
      rw [findIn.eq_1 t' w' name s, ← sameBindings, notFound]
      simp only [← sameParent, isParent, if_pos below]
      exact ih (fun s' le => same s' (Nat.le_trans le (Nat.le_of_lt below)))
  | case3 s notFound p isParent notBelow =>
      obtain ⟨sameBindings, sameParent⟩ := same s (Nat.le_refl _)
      rw [findIn.eq_1 t' w' name s, ← sameBindings, notFound]
      simp only [← sameParent, isParent, if_neg notBelow]
  | case4 s notFound noParent =>
      obtain ⟨sameBindings, sameParent⟩ := same s (Nat.le_refl _)
      rw [findIn.eq_1 t' w' name s, ← sameBindings, notFound]
      simp only [← sameParent, noParent]

/-- A name its scope does not bind is found from the scope's parent. -/
theorem findIn_of_lookup_none {t : ScopeTable} {w : Bindings} {name : String} {s p : ScopeId}
    (notFound : (w s).lookup name = none) (isParent : t.parent s = some p)
    (below : p.index < s.index) : t.findIn w name s = t.findIn w name p := by
  rw [findIn, notFound]
  simp only [isParent, if_pos below]

/-- A table grown from `t` finds names from a scope of `t` as `t` does. -/
theorem GrowsTo.findIn_eq {t t' : ScopeTable} (grows : t.GrowsTo t') {w : Bindings}
    {name : String} {s : ScopeId} (present : s.index < t.scopeCount) :
    t'.findIn w name s = t.findIn w name s := by
  apply findIn_congr
  intro s' le
  exact ⟨rfl, grows.parent s' (Nat.lt_of_le_of_lt le present)⟩

end ScopeTable

namespace Context

variable {ctx ctx' : Context} {T : ScopeTable}

theorem scope_enter (ctx : Context) : ctx.enter.1.scope = ctx.enter.2 := rfl

theorem bindingsOf_enter (ctx : Context) :
    ctx.enter.1.table.bindingsOf = ctx.table.bindingsOf := by
  funext s
  exact ScopeTable.bindingsOf_addChild _ _ _

theorem grows_enter (ctx : Context) : ctx.table.GrowsTo ctx.enter.1.table :=
  ScopeTable.GrowsTo.addChild _ _

theorem enter_present (ctx : Context) : ctx.enter.2.index < ctx.enter.1.table.scopeCount := by
  rw [enter_scope, enter_table, ScopeTable.scopeCount_addChild]
  exact Nat.lt_succ_self _

/-- A scope that is there already is not the one a block opens. -/
theorem ne_enter {s : ScopeId} (present : s.index < ctx.table.scopeCount) : s ≠ ctx.enter.2 := by
  intro same
  rw [same, enter_scope] at present
  exact Nat.lt_irrefl _ present

/-- The scope a block opens is a child of the current one. -/
theorem parent_enter (ctx : Context) : ctx.enter.1.table.parent ctx.enter.2 = some ctx.scope := by
  rw [enter_table, ScopeTable.parent_addChild, if_pos (by rw [enter_scope])]

/-- Closing the scope a block opened makes the scope around the block current again. -/
theorem scope_exit_enter (grows : ctx.enter.1.table.GrowsTo ctx'.table) :
    (ctx'.exit ctx.enter.2).scope = ctx.scope := by
  show (ctx'.table.parent ctx.enter.2).getD ScopeTable.root = ctx.scope
  rw [grows.parent _ ctx.enter_present, parent_enter]
  rfl

section

variable {name : String} {x : Entry} {loc : Location} {id : EntryId}

theorem scope_define (defined : ctx.define name x loc = .ok (ctx', id)) : ctx'.scope = ctx.scope := by
  unfold scope
  rw [(define_eq_ok defined).2]

theorem grows_define (defined : ctx.define name x loc = .ok (ctx', id)) :
    ctx.table.GrowsTo ctx'.table :=
  ScopeTable.GrowsTo.of_define (define_eq_ok defined).1

/-- Defining a name binds it in the current scope, after the bindings made there before. -/
theorem bindingsOf_define (defined : ctx.define name x loc = .ok (ctx', id))
    (present : ctx.scope.index < ctx.table.scopeCount) :
    ctx'.table.bindingsOf = Bindings.bind ctx.table.bindingsOf ctx.scope (name, id) := by
  funext s
  rw [ScopeTable.bindingsOf_of_define (define_eq_ok defined).1]
  unfold Bindings.bind
  by_cases same : s = ctx.scope
  · simp [same, present]
  · simp [same]

theorem entry_define (defined : ctx.define name x loc = .ok (ctx', id))
    (grows : ctx'.table.GrowsTo T) : T.entry id = x := by
  have found := ScopeTable.entry?_of_define (define_eq_ok defined).1 id
  rw [if_pos rfl] at found
  exact grows.entry_eq found

/-- A name looked up from the current scope is found there by the table's bindings, in every
table grown from it. -/
theorem findIn_of_lookup (sound : ctx.table.TypeSound)
    (present : ctx.scope.index < ctx.table.scopeCount) (grows : ctx.table.GrowsTo T)
    (found : ctx.lookup name loc = .ok id) :
    T.findIn ctx.table.bindingsOf (T.entry id).name ctx.scope = some id := by
  rcases sound.entry?_of_lookup found with ⟨y, entryFound, named⟩
  rw [grows.entry_eq entryFound, named, grows.findIn_eq present, ScopeTable.findIn_bindingsOf]
  exact ScopeTable.resolve_of_lookup (lookup_eq_ok found)

end

end Context

/-- Every name of an expression the reader builds is found from the current scope, by the
bindings of the table it was read with. -/
theorem ExprRead.foundIn {ctx : Context} {T : ScopeTable} (sound : ctx.table.TypeSound)
    (present : ctx.scope.index < ctx.table.scopeCount) (grows : ctx.table.GrowsTo T) {e : Expr}
    (read : ExprRead ctx e) : e.FoundIn T ctx.table.bindingsOf ctx.scope := by
  induction read with
  | lit _ =>
      intro r member
      simp [Expr.refs] at member
  | var found _ =>
      intro r member
      rw [Expr.refs, List.mem_singleton] at member
      rw [member]
      exact Context.findIn_of_lookup sound present grows found
  | binary _ _ _ typed lhsFound rhsFound =>
      rcases Context.binary_eq_ok typed with ⟨ty, rfl, -, -⟩
      intro r member
      rw [Expr.refs, List.mem_append] at member
      rcases member with inLhs | inRhs
      · exact lhsFound r inLhs
      · exact rhsFound r inRhs
  | call found _ _ _ _ argsFound =>
      intro r member
      rw [Expr.refs, List.mem_cons] at member
      rcases member with rfl | inArgs
      · exact Context.findIn_of_lookup sound present grows found
      · rcases Expr.mem_refsOfList.1 inArgs with ⟨a, inList, inA⟩
        exact argsFound a inList r inA

/-! ## What a statement changes in the table -/

/--
What reading statements from `ctx` to `ctx'` changes: the current scope is the same after,
the table only grows, the current scope gains bindings only of variables the statements
declare in it, and every other scope that was there keeps its bindings.
-/
structure StmtsScoped (ctx ctx' : Context) (stmts : List Stmt) : Prop where
  scope : ctx'.scope = ctx.scope
  grows : ctx.table.GrowsTo ctx'.table
  here : ∀ b ∈ ctx'.table.bindingsOf ctx.scope,
    b ∈ ctx.table.bindingsOf ctx.scope ∨ b.2 ∈ stmts.flatMap Stmt.declaredHere
  elsewhere : ∀ s : ScopeId, s.index < ctx.table.scopeCount → s ≠ ctx.scope →
    ctx'.table.bindingsOf s = ctx.table.bindingsOf s

namespace StmtsScoped

variable {ctx ctx₁ ctx₂ : Context}

theorem refl (ctx : Context) (stmts : List Stmt) : StmtsScoped ctx ctx stmts :=
  ⟨rfl, .refl _, fun _ member => Or.inl member, fun _ _ _ => rfl⟩

/-- The current scope of a context is there, and stays there as the context is read on. -/
theorem present {stmts : List Stmt} (changes : StmtsScoped ctx ctx₁ stmts)
    (present : ctx.scope.index < ctx.table.scopeCount) :
    ctx₁.scope.index < ctx₁.table.scopeCount := by
  rw [changes.scope]
  exact Nat.lt_of_lt_of_le present changes.grows.scopeCount_le

theorem append {xs ys : List Stmt} (first : StmtsScoped ctx ctx₁ xs)
    (second : StmtsScoped ctx₁ ctx₂ ys) : StmtsScoped ctx ctx₂ (xs ++ ys) where
  scope := second.scope.trans first.scope
  grows := first.grows.trans second.grows
  here := by
    intro b member
    rw [← first.scope] at member
    rcases second.here b member with old | declared
    · rw [first.scope] at old
      rcases first.here b old with older | declaredFirst
      · exact Or.inl older
      · exact Or.inr (by simp [List.flatMap_append, declaredFirst])
    · exact Or.inr (by simp [List.flatMap_append, declared])
  elsewhere := by
    intro s present' other
    have presentFirst := Nat.lt_of_lt_of_le present' first.grows.scopeCount_le
    rw [second.elsewhere s presentFirst (first.scope ▸ other), first.elsewhere s present' other]

/-- Statements with the same declarations change the table in the same way. -/
theorem of_declared_eq {xs ys : List Stmt} (changes : StmtsScoped ctx ctx₁ xs)
    (same : xs.flatMap Stmt.declaredHere = ys.flatMap Stmt.declaredHere) :
    StmtsScoped ctx ctx₁ ys where
  scope := changes.scope
  grows := changes.grows
  here := by
    intro b member
    rw [← same]
    exact changes.here b member
  elsewhere := changes.elsewhere

/-- A block changes only scopes it opens: the scope it stands in keeps its bindings. -/
theorem block {stmts : List Stmt} {loc : Location} (inner : StmtsScoped ctx.enter.1 ctx₁ stmts)
    (present : ctx.scope.index < ctx.table.scopeCount) :
    StmtsScoped ctx (ctx₁.exit ctx.enter.2) [.block ctx.enter.2 stmts loc] where
  scope := Context.scope_exit_enter inner.grows
  grows := ctx.grows_enter.trans inner.grows
  here := by
    intro b member
    left
    have kept := inner.elsewhere ctx.scope
      (Nat.lt_of_lt_of_le present ctx.grows_enter.scopeCount_le) (Context.ne_enter present)
    rw [Context.exit_table, kept, Context.bindingsOf_enter] at member
    exact member
  elsewhere := by
    intro s present' _
    rw [Context.exit_table, inner.elsewhere s
      (Nat.lt_of_lt_of_le present' ctx.grows_enter.scopeCount_le) (Context.ne_enter present'),
      Context.bindingsOf_enter]

end StmtsScoped

/-- What reading statements changes in the table, by induction over the derivation. -/
theorem StmtsRead.changes {ctx ctx' : Context} {stmts : List Stmt}
    (read : StmtsRead ctx stmts ctx') (present : ctx.scope.index < ctx.table.scopeCount) :
    StmtsScoped ctx ctx' stmts := by
  induction read with
  | nil ctx => exact .refl ctx []
  | cons _ _ firstIH laterIH =>
      have first := firstIH present
      exact first.append (laterIH (first.present present))
  | block _ bodyIH => exact (bodyIH (Context.enter_present _)).block present
  | ifThen _ _ _ thenIH =>
      exact (thenIH present).of_declared_eq
        (by simp [Stmt.declaredHere, Stmt.declaredHereOption])
  | ifElse _ _ _ _ thenIH elseIH =>
      have thenBranch := thenIH present
      exact (thenBranch.append (elseIH (thenBranch.present present))).of_declared_eq
        (by simp [Stmt.declaredHere, Stmt.declaredHereOption])
  | whileLoop _ _ _ bodyIH =>
      exact (bodyIH present).of_declared_eq (by simp [Stmt.declaredHere])
  | @forLoop ctx ctx₁ ctx₂ init body test step stepLoc loc _ _ _ _ _ initIH bodyIH =>
      have initScoped := initIH (Context.enter_present ctx)
      have bodyScoped := bodyIH (Context.enter_present ctx₁)
      have stepScoped := StmtsScoped.refl ctx₂ [.expr step stepLoc]
      have loopBody : StmtsScoped ctx₁ (ctx₂.exit ctx₁.enter.2)
          [.block ctx₁.enter.2 ([body] ++ [.expr step stepLoc]) loc] :=
        (bodyScoped.append stepScoped).block
          (initScoped.present (Context.enter_present ctx))
      exact (initScoped.append (loopBody.of_declared_eq (by simp [Stmt.declaredHere]))).block
        present
  | varDecl _ defined =>
      refine ⟨Context.scope_define defined, Context.grows_define defined, ?_, ?_⟩
      · intro b member
        rw [Context.bindingsOf_define defined present, Bindings.bind_self, List.mem_append,
          List.mem_singleton] at member
        rcases member with old | rfl
        · exact Or.inl old
        · exact Or.inr (by simp [Stmt.declaredHere])
      · intro s _ other
        rw [Context.bindingsOf_define defined present, Bindings.bind_of_ne _ other]
  | ret _ => exact .refl _ _
  | expr _ => exact .refl _ _

/-! ## The reader's names agree with the walk -/

/--
After a loop's body, read in the scope the loop opens for it, that scope binds a name only where
the body declares a variable of that name directly in it.
-/
theorem StmtsScoped.lookup_inner_eq_none {ctx₁ ctx₂ : Context} {T : ScopeTable} {body : Stmt}
    {name : String} (bodyChanges : StmtsScoped ctx₁.enter.1 ctx₂ [body])
    (sound₂ : ctx₂.table.TypeSound) (grows : ctx₂.table.GrowsTo T)
    (clear : ∀ d ∈ body.declaredHere, (T.entry d).name ≠ name) :
    (ctx₂.table.bindingsOf ctx₁.enter.2).lookup name = none := by
  cases lookedUp : (ctx₂.table.bindingsOf ctx₁.enter.2).lookup name with
  | none => rfl
  | some e =>
    exfalso
    obtain ⟨before, after, split, -⟩ := List.lookup_eq_some_iff.1 lookedUp
    have bound : (name, e) ∈ ctx₂.table.bindingsOf ctx₁.enter.2 := by
      rw [split]
      simp
    rcases bodyChanges.here _ bound with old | declared
    · rw [Context.scope_enter, Context.bindingsOf_enter,
        ScopeTable.bindingsOf_of_scopeCount_le (Nat.le_of_eq (by rw [Context.enter_scope]))]
        at old
      cases old
    · rcases sound₂.bindingsNamed _ _ bound with ⟨x, entryFound, named⟩
      have sameName : (T.entry e).name = name := by
        rw [grows.entry_eq entryFound]
        exact named
      exact clear e (by simpa using declared) sameName

/--
The step of a `for` loop, read from the loop's outer scope before the body, is found by the
walk from the inner scope after the body, when the body declares none of its names there.
-/
theorem ExprRead.step_foundIn {ctx₁ ctx₂ : Context} {T : ScopeTable} {body : Stmt} {step : Expr}
    (stepRead : ExprRead ctx₁ step) (sound₁ : ctx₁.table.TypeSound)
    (present₁ : ctx₁.scope.index < ctx₁.table.scopeCount)
    (bodyChanges : StmtsScoped ctx₁.enter.1 ctx₂ [body]) (sound₂ : ctx₂.table.TypeSound)
    (grows : ctx₂.table.GrowsTo T)
    (clear : ∀ d ∈ body.declaredHere, ∀ r ∈ step.refs, (T.entry d).name ≠ (T.entry r).name) :
    step.FoundIn T ctx₂.table.bindingsOf ctx₁.enter.2 := by
  have grows₁ : ctx₁.table.GrowsTo T := ctx₁.grows_enter.trans (bodyChanges.grows.trans grows)
  intro r member
  have notInner : (ctx₂.table.bindingsOf ctx₁.enter.2).lookup (T.entry r).name = none :=
    bodyChanges.lookup_inner_eq_none sound₂ grows fun d declared => clear d declared r member
  have innerParent : T.parent ctx₁.enter.2 = some ctx₁.scope := by
    rw [(bodyChanges.grows.trans grows).parent _ ctx₁.enter_present, Context.parent_enter]
  have below : ctx₁.scope.index < ctx₁.enter.2.index := by
    rw [Context.enter_scope]
    exact present₁
  have sameAbove : T.findIn ctx₂.table.bindingsOf (T.entry r).name ctx₁.scope =
      T.findIn ctx₁.table.bindingsOf (T.entry r).name ctx₁.scope := by
    apply ScopeTable.findIn_congr
    intro s le
    have present : s.index < ctx₁.table.scopeCount := Nat.lt_of_le_of_lt le present₁
    refine ⟨?_, rfl⟩
    rw [bodyChanges.elsewhere s (Nat.lt_of_lt_of_le present ctx₁.grows_enter.scopeCount_le)
      (Context.ne_enter present), Context.bindingsOf_enter]
  rw [ScopeTable.findIn_of_lookup_none notInner innerParent below, sameAbove]
  exact stepRead.foundIn sound₁ present₁ grows₁ r member

/--
Between statements the walk's bindings are the table's, and the names of the statements
agree with the walk, as long as no `for` loop among them has its step shadowed.
-/
theorem StmtsRead.agrees {T : ScopeTable} {ctx ctx' : Context} {stmts : List Stmt}
    (read : StmtsRead ctx stmts ctx') (sound : ctx.table.TypeSound)
    (present : ctx.scope.index < ctx.table.scopeCount) (grows : ctx'.table.GrowsTo T)
    (unshadowed : Stmt.StepsUnshadowedList T stmts) :
    Stmt.walkList T ctx.scope ctx.table.bindingsOf stmts = ctx'.table.bindingsOf ∧
      Stmt.AgreesList T ctx.scope ctx.table.bindingsOf stmts := by
  induction read with
  | nil ctx => exact ⟨rfl, trivial⟩
  | @cons ctx ctx₁ ctx₂ s rest first later firstIH laterIH =>
      have firstChanges := first.changes present
      have present₁ := firstChanges.present present
      obtain ⟨restWalk, restAgrees⟩ :=
        laterIH (first.typed sound).sound present₁ grows unshadowed.2
      obtain ⟨firstWalk, firstAgrees⟩ := firstIH sound present
        ((later.changes present₁).grows.trans grows) ⟨unshadowed.1, trivial⟩
      simp only [Stmt.walkList, Stmt.AgreesList, and_true] at firstWalk firstAgrees ⊢
      rw [firstChanges.scope] at restWalk restAgrees
      rw [firstWalk]
      exact ⟨restWalk, firstAgrees, restAgrees⟩
  | @block ctx ctx₁ stmts loc _ bodyIH =>
      obtain ⟨walked, agrees⟩ := bodyIH (Context.enter_sound sound) (Context.enter_present ctx)
        grows unshadowed.1
      rw [Context.scope_enter, Context.bindingsOf_enter] at walked agrees
      simp only [Stmt.walkList, Stmt.walk, Stmt.AgreesList, Stmt.Agrees, Context.exit_table,
        and_true]
      exact ⟨walked, agrees⟩
  | ifThen condRead _ thenRead thenIH =>
      obtain ⟨walked, agrees⟩ := thenIH sound present grows ⟨unshadowed.1.1, trivial⟩
      have condFound := condRead.foundIn sound present ((thenRead.changes present).grows.trans grows)
      simp only [Stmt.walkList, Stmt.walk, Stmt.walkOption, Stmt.AgreesList, Stmt.Agrees,
        Stmt.AgreesOption, and_true] at walked agrees ⊢
      exact ⟨walked, condFound, agrees⟩
  | ifElse condRead _ thenRead elseRead thenIH elseIH =>
      have thenChanges := thenRead.changes present
      have present₁ := thenChanges.present present
      obtain ⟨elseWalked, elseAgrees⟩ :=
        elseIH (thenRead.typed sound).sound present₁ grows ⟨unshadowed.1.2, trivial⟩
      have grows₁ := (elseRead.changes present₁).grows.trans grows
      obtain ⟨thenWalked, thenAgrees⟩ := thenIH sound present grows₁ ⟨unshadowed.1.1, trivial⟩
      have condFound := condRead.foundIn sound present (thenChanges.grows.trans grows₁)
      simp only [Stmt.walkList, Stmt.walk, Stmt.walkOption, Stmt.AgreesList, Stmt.Agrees,
        Stmt.AgreesOption, and_true] at thenWalked thenAgrees elseWalked elseAgrees ⊢
      rw [thenChanges.scope] at elseWalked elseAgrees
      rw [thenWalked]
      exact ⟨elseWalked, condFound, thenAgrees, elseAgrees⟩
  | whileLoop condRead _ bodyRead bodyIH =>
      obtain ⟨walked, agrees⟩ := bodyIH sound present grows ⟨unshadowed.1.2, trivial⟩
      have condFound := condRead.foundIn sound present ((bodyRead.changes present).grows.trans grows)
      simp only [Stmt.walkList, Stmt.AgreesList, and_true] at walked agrees
      simp only [Stmt.walkList, Stmt.walk, Stmt.AgreesList, Stmt.Agrees, and_true]
      exact ⟨walked, condFound, agrees⟩
  | @forLoop ctx ctx₁ ctx₂ init body test step stepLoc loc initRead testRead _ stepRead bodyRead
      initIH bodyIH =>
      simp only [Stmt.StepsUnshadowedList, Stmt.StepsUnshadowed, and_true] at unshadowed
      obtain ⟨initUnshadowed, notShadowed, bodyUnshadowed⟩ := unshadowed
      have clear : ∀ d ∈ body.declaredHere, ∀ r ∈ step.refs,
          (T.entry d).name ≠ (T.entry r).name :=
        fun d declared r member same => notShadowed ⟨rfl, d, declared, r, member, same⟩
      have initChanges := initRead.changes (Context.enter_present ctx)
      have sound₁ := (initRead.typed (Context.enter_sound sound)).sound
      have present₁ := initChanges.present (Context.enter_present ctx)
      have bodyChanges := bodyRead.changes (Context.enter_present ctx₁)
      have sound₂ := (bodyRead.typed (Context.enter_sound sound₁)).sound
      have grows₁ : ctx₁.table.GrowsTo T := ctx₁.grows_enter.trans (bodyChanges.grows.trans grows)
      obtain ⟨bodyWalked, bodyAgrees⟩ := bodyIH (Context.enter_sound sound₁)
        (Context.enter_present ctx₁) grows ⟨bodyUnshadowed, trivial⟩
      obtain ⟨initWalked, initAgrees⟩ := initIH (Context.enter_sound sound)
        (Context.enter_present ctx) grows₁ ⟨initUnshadowed, trivial⟩
      have testFound := testRead.foundIn sound₁ present₁ grows₁
      have stepFound := stepRead.step_foundIn sound₁ present₁ bodyChanges sound₂ grows clear
      rw [Context.scope_enter, Context.bindingsOf_enter] at initWalked initAgrees
      rw [Context.scope_enter, Context.bindingsOf_enter] at bodyWalked bodyAgrees
      rw [initChanges.scope, Context.scope_enter] at testFound
      simp only [Stmt.walkList, Stmt.AgreesList, and_true] at initWalked initAgrees
      simp only [Stmt.walkList, Stmt.AgreesList, and_true] at bodyWalked bodyAgrees
      simp only [Stmt.walkList, Stmt.walk, Stmt.AgreesList, Stmt.Agrees, Context.exit_table,
        and_true]
      rw [initWalked, bodyWalked]
      exact ⟨rfl, initAgrees, testFound, bodyAgrees, stepFound⟩
  | @varDecl ctx ctx₁ name init id nameLoc loc initRead defined =>
      have entryEq := Context.entry_define defined grows
      simp only [Stmt.walkList, Stmt.walk, Stmt.AgreesList, Stmt.Agrees, and_true]
      refine ⟨?_, initRead.foundIn sound present ((Context.grows_define defined).trans grows)⟩
      rw [Context.bindingsOf_define defined present, entryEq]
      rfl
  | ret valueRead =>
      simp only [Stmt.walkList, Stmt.walk, Stmt.AgreesList, Stmt.Agrees, and_true]
      exact ⟨trivial, valueRead.foundIn sound present grows⟩
  | expr valueRead =>
      simp only [Stmt.walkList, Stmt.walk, Stmt.AgreesList, Stmt.Agrees, and_true]
      exact ⟨trivial, valueRead.foundIn sound present grows⟩

/-- Reading parameters binds them, in order, in the current scope. -/
theorem ParamsRead.bindings {T : ScopeTable} {ctx ctx' : Context} {ids : List EntryId}
    (read : ParamsRead ctx ids ctx') (present : ctx.scope.index < ctx.table.scopeCount)
    (grows : ctx'.table.GrowsTo T) :
    ctx'.scope = ctx.scope ∧ ctx.table.GrowsTo ctx'.table ∧
      ctx'.table.bindingsOf =
        ids.foldl (fun w p => Bindings.bind w ctx.scope ((T.entry p).name, p))
          ctx.table.bindingsOf := by
  induction read with
  | nil ctx => exact ⟨rfl, .refl _, rfl⟩
  | @cons ctx ctx₁ ctx₂ name tyName nameLoc tyLoc ty id offset rest _ defined _ laterIH =>
      have scope₁ := Context.scope_define defined
      have grows₁ := Context.grows_define defined
      have present₁ : ctx₁.scope.index < ctx₁.table.scopeCount := by
        rw [scope₁]
        exact Nat.lt_of_lt_of_le present grows₁.scopeCount_le
      obtain ⟨scope₂, grows₂, bound⟩ := laterIH present₁ grows
      have entryEq := Context.entry_define defined (grows₂.trans grows)
      refine ⟨scope₂.trans scope₁, grows₁.trans grows₂, ?_⟩
      rw [bound, scope₁, List.foldl_cons, Context.bindingsOf_define defined present, entryEq]
      rfl

/--
Declarations, read from the root, agree with the walk: the table's bindings after each are
the walk's, and each declaration's names refer to what the walk finds.
-/
theorem DeclsRead.agrees {T : ScopeTable} {ctx ctx' : Context} {decls : List Decl}
    (read : DeclsRead ctx decls ctx') (sound : ctx.table.TypeSound)
    (atRoot : ctx.scope = ScopeTable.root) (present : ctx.scope.index < ctx.table.scopeCount)
    (grows : ctx'.table.GrowsTo T) (unshadowed : ∀ d ∈ decls, d.StepsUnshadowed T) :
    ctx.table.GrowsTo ctx'.table ∧ Decl.AgreesList T ctx.table.bindingsOf decls := by
  induction read with
  | nil ctx => exact ⟨.refl _, trivial⟩
  | @var ctx ctx₁ ctx₂ d rest declRead _ laterIH =>
      have changes := declRead.changes present
      obtain ⟨laterGrows, laterAgrees⟩ := laterIH (declRead.typed sound).sound
        (changes.scope.trans atRoot) (changes.present present) grows
        (fun d' member => unshadowed d' (List.mem_cons_of_mem _ member))
      obtain ⟨walked, agrees⟩ := declRead.agrees sound present (laterGrows.trans grows)
        ⟨trivial, trivial⟩
      simp only [Stmt.walkList, Stmt.walk, Stmt.AgreesList, Stmt.Agrees, and_true]
        at walked agrees
      rw [atRoot] at walked agrees
      simp only [Decl.AgreesList, Decl.Agrees, Decl.walk]
      rw [walked]
      exact ⟨changes.grows.trans laterGrows, agrees, laterAgrees⟩
  | @func ctx ctx₁ ctx₂ ctx₃ ctx₄ ids body name nameLoc index returnType entry rest paramsRead
      bodyRead resolved defined _ laterIH =>
      have paramsTyped := paramsRead.typed (Context.enter_sound sound)
      have bodyTyped := bodyRead.typed paramsTyped.sound
      have declTyped := DeclsTyped.func paramsTyped bodyTyped resolved defined
      have paramsScope : ctx₁.scope = ctx.enter.2 := by
        rw [(paramsRead.bindings (Context.enter_present ctx) (.refl _)).1, Context.scope_enter]
      have paramsGrows := (paramsRead.bindings (Context.enter_present ctx) (.refl _)).2.1
      have present₁ : ctx₁.scope.index < ctx₁.table.scopeCount := by
        rw [paramsScope]
        exact Nat.lt_of_lt_of_le (Context.enter_present ctx) paramsGrows.scopeCount_le
      have bodyChanges := bodyRead.changes present₁
      have grows₂ : ctx.enter.1.table.GrowsTo ctx₂.table := paramsGrows.trans bodyChanges.grows
      have exitScope : (ctx₂.exit ctx.enter.2).scope = ctx.scope := Context.scope_exit_enter grows₂
      have definedGrows := Context.grows_define defined
      have scope₃ : ctx₃.scope = ScopeTable.root := by
        rw [Context.scope_define defined, exitScope, atRoot]
      have grows₃ : ctx.table.GrowsTo ctx₃.table :=
        ctx.grows_enter.trans (grows₂.trans definedGrows)
      have present₃ : ctx₃.scope.index < ctx₃.table.scopeCount := by
        rw [scope₃, ← atRoot]
        exact Nat.lt_of_lt_of_le present grows₃.scopeCount_le
      obtain ⟨laterGrows, laterAgrees⟩ := laterIH declTyped.sound scope₃ present₃ grows
        (fun d' member => unshadowed d' (List.mem_cons_of_mem _ member))
      have toT : ctx₃.table.GrowsTo T := laterGrows.trans grows
      obtain ⟨-, -, paramsBound⟩ := paramsRead.bindings (Context.enter_present ctx)
        (bodyChanges.grows.trans (definedGrows.trans toT))
      obtain ⟨bodyWalked, bodyAgrees⟩ := bodyRead.agrees paramsTyped.sound present₁
        (definedGrows.trans toT) ⟨unshadowed _ List.mem_cons_self, trivial⟩
      simp only [Stmt.walkList, Stmt.walk, Stmt.AgreesList, Stmt.Agrees, Block.toStmt, and_true]
        at bodyWalked bodyAgrees
      have funcFound := ScopeTable.entry?_of_define (Context.define_eq_ok defined).1 entry
      rw [if_pos rfl] at funcFound
      have paramsWalked : FuncDef.bindParams T ⟨name, entry, ctx.enter.2, body, returnType, nameLoc⟩
          ctx.table.bindingsOf = ctx₁.table.bindingsOf := by
        unfold FuncDef.bindParams
        simp only [ScopeTable.funcInfo?, toT.entries _ _ funcFound, Option.map_some,
          Option.getD_some]
        rw [paramsBound, Context.bindingsOf_enter]
        rfl
      have present₂ : (ctx₂.exit ctx.enter.2).scope.index <
          (ctx₂.exit ctx.enter.2).table.scopeCount := by
        rw [exitScope, Context.exit_table]
        exact Nat.lt_of_lt_of_le present (ctx.grows_enter.trans grows₂).scopeCount_le
      have bound : ctx₃.table.bindingsOf =
          Bindings.bind ctx₂.table.bindingsOf ScopeTable.root (name, entry) := by
        rw [Context.bindingsOf_define defined present₂, exitScope, atRoot, Context.exit_table]
      simp only [Decl.AgreesList, Decl.Agrees, Decl.walk]
      rw [paramsWalked, bodyWalked, ← bound]
      exact ⟨grows₃.trans laterGrows, bodyAgrees, laterAgrees⟩

/--
The names of every program the reader returns agree with the walk of its tree, when no `for`
loop of it has a body that declares, in the loop's own scope, a name its step uses: every
variable and every call refers to the entry of its name that the tree makes visible where it
stands.
-/
theorem Program.read_namesAgree {f : Feed} {p : Program}
    (parsed : (Program.read f).result = .ok p) (unshadowed : p.StepsUnshadowed) :
    p.NamesAgree := by
  rcases Program.read_reads parsed with ⟨loc, ctx, declsRead, tableEq⟩
  have builtinBindings : (Context.builtin loc).table.bindingsOf = Bindings.builtin := by
    funext s
    rw [Context.builtin_bindingsOf]
    unfold Bindings.builtin
    by_cases atRoot : s = ScopeTable.root
    · simp [atRoot, ScopeTable.root]
    · have notZero : s.index ≠ 0 := fun zero => atRoot (by cases s; simp_all [ScopeTable.root])
      simp [atRoot, notZero]
  have rootPresent : (Context.builtin loc).scope.index < (Context.builtin loc).table.scopeCount := by
    have single : (Context.builtin loc).table.scopeCount = 1 := rfl
    rw [single]
    exact Nat.zero_lt_one
  have agrees := declsRead.agrees (Context.builtin_typeSound loc) rfl rootPresent (.refl _)
    (fun d member => tableEq ▸ unshadowed d member)
  unfold Program.NamesAgree
  rw [← builtinBindings, tableEq]
  exact agrees.2

/--
A global read in a loop test and hidden by a block, a `for` loop whose step calls a function and
whose body declares, in the loop's own scope, a variable of a name the step does not use, and a
block that hides the global: the program is read, and its names agree with the walk.
-/
theorem Program.ofSource_loopAndBlocks_namesAgree :
    ∃ p, (Program.ofSource "var n = 3;
inc(x: int) { return x + 1; }
f() { var s = 0; for (var i = 0; i < n; i = inc(i)) var s = i + n; { var n = 5; s = n; } return s; }").result = .ok p ∧
      p.StepsUnshadowed ∧ p.NamesAgree :=
  Except.exists_ok_of_check (by decide +kernel) fun _ read unshadowed =>
    Program.read_namesAgree read unshadowed

/--
The input on which the walk and the reader part: the body of the `for` loop declares `i` again,
in the loop's own scope, so the walk finds that `i` at the step, where the reader found the
loop's.
-/
theorem Program.ofSource_forStep_namesDisagree :
    ∃ p, (Program.ofSource
        "f() { for (var i = 0; i < 3; i = i + 1) var i = 2; return 1; }").result = .ok p ∧
      ¬p.StepsUnshadowed ∧ ¬p.NamesAgree := by
  have decided : ((Program.ofSource
      "f() { for (var i = 0; i < 3; i = i + 1) var i = 2; return 1; }").result.toOption.map
        fun p => decide (¬p.StepsUnshadowed ∧ ¬p.NamesAgree)) = some true := by
    decide +kernel
  revert decided
  cases (Program.ofSource
    "f() { for (var i = 0; i < 3; i = i + 1) var i = 2; return 1; }").result with
  | ok p =>
      intro decided
      exact ⟨p, rfl, of_decide_eq_true (Option.some.inj decided)⟩
  | error e =>
      intro decided
      cases decided

end ImpFront
