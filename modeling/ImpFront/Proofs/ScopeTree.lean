import ImpFront.Proofs.NameResolution

/-!
# The scope tree mirrors the blocks of the tree

The reader opens a scope for the parameters of each function and one for each block, the two
blocks of every `for` loop included, and no other. The tree records these scopes: a function
its parameters' scope and its body, a block the scope it opened. `Program.scopes` lists them in
the order of the tree, a function's parameters before its body and a block before the blocks
inside it, each with the scope it stands in: the root for a function's parameters, the
parameters' scope for the function's body, and the scope of the innermost block around it for
every other block.

`Program.read_scopeTree` says that the reader's table is exactly this tree: the scopes after the
root are numbered in the order of `Program.scopes`, each has the parent it is listed with, the
children of a scope are the scopes listed below it, in order, and no scope is current once the
reading is over.

The invariant is `ScopeTable.Opens t t' added`: the table `t'` is `t` with the scopes `added`
opened after its own. Opening a scope is one such step and defining a name is none; reading
statements opens the scopes of their blocks (`StmtsRead.opens`), by induction over the judgment
of `ImpFront.Proofs.Derivations`.
-/

namespace ImpFront

/-! ## The scopes of the tree -/

mutual

/--
The scopes of the blocks of a statement that stands in the scope `s`, in the order of the tree,
each with the scope it stands in.
-/
def Stmt.scopes (s : ScopeId) : Stmt → List (ScopeId × ScopeId)
  | .block scope stmts _ => (scope, s) :: Stmt.scopesOfList scope stmts
  | .ifElse _ thenBranch elseBranch _ => thenBranch.scopes s ++ Stmt.scopesOfOption s elseBranch
  | .whileLoop _ body _ => body.scopes s
  | .ret .. | .expr .. | .varDecl _ => []

/-- The scopes of the blocks of statements that stand in the scope `s`, one after the other. -/
def Stmt.scopesOfList (s : ScopeId) : List Stmt → List (ScopeId × ScopeId)
  | [] => []
  | x :: rest => x.scopes s ++ Stmt.scopesOfList s rest

/-- The scopes of the blocks of an optional statement that stands in the scope `s`. -/
def Stmt.scopesOfOption (s : ScopeId) : Option Stmt → List (ScopeId × ScopeId)
  | none => []
  | some x => x.scopes s

end

/--
The scopes of a declaration: a function's parameters' scope, in the root, then the scopes of its
body, below the parameters.
-/
def Decl.scopes : Decl → List (ScopeId × ScopeId)
  | .var _ => []
  | .func f => (f.params, ScopeTable.root) :: f.body.toStmt.scopes f.params

/--
The scopes a program's functions and blocks stand for, one for each function's parameters and one
for each block, in the order of the tree, each with the scope it stands in.
-/
def Program.scopes (p : Program) : List (ScopeId × ScopeId) := p.decls.flatMap Decl.scopes

/-! ## Opening scopes -/

namespace ScopeTable

theorem parent_of_scopeCount_le {t : ScopeTable} {s : ScopeId} (absent : t.scopeCount ≤ s.index) :
    t.parent s = none := by
  unfold parent scope?
  rw [Array.getElem?_eq_none absent]
  rfl

theorem children_of_scopeCount_le {t : ScopeTable} {s : ScopeId}
    (absent : t.scopeCount ≤ s.index) : t.children s = [] := by
  unfold children scope?
  rw [Array.getElem?_eq_none absent]
  rfl

/-- A new scope is the last child of its parent, and has no children of its own. -/
theorem children_addChild (t : ScopeTable) {p : ScopeId} (present : p.index < t.scopeCount)
    (s : ScopeId) :
    (t.addChild p).1.children s = if s = p then t.children s ++ [⟨t.scopeCount⟩] else t.children s := by
  unfold children scope? addChild scopeCount at *
  simp only [Array.getElem?_modify, Array.getElem?_push]
  by_cases same : s = p
  · subst same
    simp [Nat.ne_of_lt present, present]
  · have index : p.index ≠ s.index := fun equal => same (by cases s; cases p; simp_all)
    by_cases isNew : s.index = t.scopes.size
    · simp [same, isNew, Nat.ne_of_lt present]
    · simp [same, index, isNew]

theorem children_of_define {t t' : ScopeTable} {s : ScopeId} {name : String} {x : Entry}
    {id : EntryId} (defined : t.define s name x = .ok (t', id)) (s' : ScopeId) :
    t'.children s' = t.children s' := by
  rcases define_eq_ok defined with ⟨-, -, -, scopes⟩
  unfold children scope?
  rw [scopes, Array.getElem?_modify]
  split <;> cases t.scopes[s'.index]? <;> rfl

/--
The table `t'` holds what `t` lists in each scope, of one kind of numbered item (the scopes opened
below it, or the entries defined in it), and after it the items `added`: these are numbered on from
the count of such items in `t`, in order, and each is listed last in the scope it is paired with.
-/
structure Appends {ι : Type} (number : ι → Nat) (count : ScopeTable → Nat)
    (listed : ScopeTable → ScopeId → List ι) (t t' : ScopeTable) (added : List (ι × ScopeId)) :
    Prop where
  numbered : added.map (number ·.1) = List.range' (count t) added.length
  count_eq : count t' = count t + added.length
  listed_eq : ∀ s, listed t' s = listed t s ++ (added.filter (·.2 = s)).map Prod.fst

namespace Appends

variable {ι : Type} {number : ι → Nat} {count : ScopeTable → Nat}
  {listed : ScopeTable → ScopeId → List ι} {t₁ t₂ t₃ : ScopeTable} {a b : List (ι × ScopeId)}

theorem refl (t : ScopeTable) : Appends number count listed t t [] where
  numbered := rfl
  count_eq := rfl
  listed_eq := by simp

theorem trans (first : Appends number count listed t₁ t₂ a)
    (second : Appends number count listed t₂ t₃ b) : Appends number count listed t₁ t₃ (a ++ b) where
  numbered := by
    rw [List.map_append, first.numbered, second.numbered, first.count_eq, List.length_append,
      List.range'_append_1]
  count_eq := by rw [second.count_eq, first.count_eq, List.length_append, Nat.add_assoc]
  listed_eq := by
    intro s
    rw [second.listed_eq, first.listed_eq, List.filter_append, List.map_append, List.append_assoc]

end Appends

variable {a b : List (ScopeId × ScopeId)} {n : Nat} {s : ScopeId}

/-- A scope numbered outside the numbers of a list is not listed. -/
theorem lookup_eq_none_of_numbered (numbered : a.map (·.1.index) = List.range' n a.length)
    (outside : s.index < n ∨ n + a.length ≤ s.index) : a.lookup s = none := by
  rw [List.lookup_eq_none_iff]
  intro q member
  have listed : q.1.index ∈ List.range' n a.length := by
    rw [← numbered]
    exact List.mem_map.2 ⟨q, member, rfl⟩
  rw [List.mem_range'_1] at listed
  have differ : s ≠ q.1 := by
    intro same
    rw [same] at outside
    omega
  simpa using differ

/-- A scope numbered among the numbers of a list is listed. -/
theorem lookup_isSome_of_numbered (numbered : a.map (·.1.index) = List.range' n a.length)
    (inside : n ≤ s.index) (below : s.index < n + a.length) : (a.lookup s).isSome := by
  have listed : s.index ∈ a.map (·.1.index) := by
    rw [numbered]
    exact List.mem_range'_1.2 ⟨inside, below⟩
  obtain ⟨q, member, same⟩ := List.mem_map.1 listed
  have named : q.1 = s := by
    cases q with
    | mk first _ => cases first; cases s; simp_all
  subst named
  cases found : a.lookup q.1 with
  | some _ => rfl
  | none =>
      rw [List.lookup_eq_none_iff] at found
      simp at found
      exact absurd rfl (found q.1 q.2 member)

/--
The table `t'` is `t` with the scopes `added` opened after its own: they are numbered on from the
scopes of `t`, in order, each has the parent it is listed with, and each is the last child of its
parent when it is opened.
-/
structure Opens (t t' : ScopeTable) (added : List (ScopeId × ScopeId)) : Prop
    extends Appends ScopeId.index scopeCount children t t' added where
  parent : ∀ s, t'.parent s = if s.index < t.scopeCount then t.parent s else added.lookup s

namespace Opens

variable {t₁ t₂ t₃ : ScopeTable}

theorem refl (t : ScopeTable) : t.Opens t [] where
  toAppends := .refl t
  parent := by
    intro s
    split
    · rfl
    · rename_i absent
      exact parent_of_scopeCount_le (Nat.le_of_not_lt absent)

theorem trans (first : t₁.Opens t₂ a) (second : t₂.Opens t₃ b) : t₁.Opens t₃ (a ++ b) where
  toAppends := first.toAppends.trans second.toAppends
  parent := by
    intro s
    rw [second.parent, first.parent, first.count_eq, List.lookup_append]
    by_cases old : s.index < t₁.scopeCount
    · simp [old, Nat.lt_add_right]
    · by_cases inFirst : s.index < t₁.scopeCount + a.length
      -- the first scopes list `s`, so the later ones are never asked
      · obtain ⟨q, found⟩ := Option.isSome_iff_exists.1
          (lookup_isSome_of_numbered first.numbered (Nat.le_of_not_lt old) inFirst)
        simp [old, inFirst, found]
      · have notFirst := lookup_eq_none_of_numbered first.numbered (Or.inr (Nat.le_of_not_lt inFirst))
        simp [old, inFirst, notFirst]

/-- Opening a scope below a scope that is there. -/
theorem addChild (t : ScopeTable) {p : ScopeId} (present : p.index < t.scopeCount) :
    t.Opens (t.addChild p).1 [(⟨t.scopeCount⟩, p)] where
  numbered := rfl
  count_eq := scopeCount_addChild t p
  listed_eq := by
    intro s
    rw [children_addChild t present]
    by_cases same : s = p
    · simp [same]
    · simp [same, Ne.symm same]
  parent := by
    intro s
    rw [parent_addChild]
    by_cases isNew : s.index = t.scopeCount
    · have same : s = ⟨t.scopeCount⟩ := by cases s; simp_all
      subst same
      simp
    · by_cases old : s.index < t.scopeCount
      · simp [isNew, old]
      · have notNew : [((⟨t.scopeCount⟩ : ScopeId), p)].lookup s = none := by
          rw [List.lookup_eq_none_iff]
          intro q listed
          rw [List.mem_singleton] at listed
          subst listed
          simpa using fun same => isNew (by rw [same])
        simp [isNew, old, parent_of_scopeCount_le (Nat.le_of_not_lt old), notNew]

/-- Defining a name opens no scope. -/
theorem of_define {t t' : ScopeTable} {s : ScopeId} {name : String} {x : Entry} {id : EntryId}
    (defined : t.define s name x = .ok (t', id)) : t.Opens t' [] where
  numbered := rfl
  count_eq := scopeCount_of_define defined
  listed_eq := by
    intro s'
    rw [children_of_define defined]
    simp
  parent := by
    intro s'
    rw [parent_of_define defined]
    exact (refl t).parent s'

end Opens

end ScopeTable

/-! ## What reading opens -/

namespace Context

variable {ctx : Context}

/-- Opening a scope from a context whose current scope is there. -/
theorem opens_enter (present : ctx.scope.index < ctx.table.scopeCount) :
    ctx.table.Opens ctx.enter.1.table [(ctx.enter.2, ctx.scope)] := by
  rw [enter_table, enter_scope]
  exact ScopeTable.Opens.addChild _ present

theorem opens_define {ctx' : Context} {name : String} {x : Entry} {loc : Location} {id : EntryId}
    (defined : ctx.define name x loc = .ok (ctx', id)) : ctx.table.Opens ctx'.table [] :=
  ScopeTable.Opens.of_define (define_eq_ok defined).1

end Context

/-- Reading statements opens the scopes of their blocks, in the order of the tree. -/
theorem StmtsRead.opens {ctx ctx' : Context} {stmts : List Stmt} (read : StmtsRead ctx stmts ctx')
    (present : ctx.scope.index < ctx.table.scopeCount) :
    ctx.table.Opens ctx'.table (Stmt.scopesOfList ctx.scope stmts) := by
  induction read with
  | nil ctx => exact .refl _
  | cons first _ firstIH laterIH =>
      have changes := first.changes present
      have opened := (firstIH present).trans (laterIH (changes.present present))
      rw [changes.scope] at opened
      simpa [Stmt.scopesOfList] using opened
  | @block ctx ctx₁ stmts loc _ bodyIH =>
      have inner := bodyIH (Context.enter_present ctx)
      rw [Context.scope_enter] at inner
      simpa [Stmt.scopesOfList, Stmt.scopes] using (Context.opens_enter present).trans inner
  | ifThen _ _ _ thenIH =>
      simpa [Stmt.scopesOfList, Stmt.scopes, Stmt.scopesOfOption] using thenIH present
  | ifElse _ _ thenRead _ thenIH elseIH =>
      have changes := thenRead.changes present
      have opened := (thenIH present).trans (elseIH (changes.present present))
      rw [changes.scope] at opened
      simpa [Stmt.scopesOfList, Stmt.scopes, Stmt.scopesOfOption] using opened
  | whileLoop _ _ _ bodyIH =>
      simpa [Stmt.scopesOfList, Stmt.scopes] using bodyIH present
  | @forLoop ctx ctx₁ ctx₂ init body test step stepLoc loc initRead _ _ _ _ initIH bodyIH =>
      have initChanges := initRead.changes (Context.enter_present ctx)
      have present₁ := initChanges.present (Context.enter_present ctx)
      have initOpens := initIH (Context.enter_present ctx)
      have bodyOpens := bodyIH (Context.enter_present ctx₁)
      rw [Context.scope_enter] at initOpens bodyOpens
      have innerOpens := Context.opens_enter present₁
      rw [initChanges.scope, Context.scope_enter] at innerOpens
      simpa [Stmt.scopesOfList, Stmt.scopes] using
        (Context.opens_enter present).trans (initOpens.trans (innerOpens.trans bodyOpens))
  | varDecl _ defined => exact Context.opens_define defined
  | ret _ => exact .refl _
  | expr _ => exact .refl _

/-- Reading parameters opens no scope. -/
theorem ParamsRead.opens {ctx ctx' : Context} {ids : List EntryId} (read : ParamsRead ctx ids ctx') :
    ctx.table.Opens ctx'.table [] := by
  induction read with
  | nil ctx => exact .refl _
  | cons _ defined _ laterIH => exact (Context.opens_define defined).trans laterIH

/--
The contexts a function is read through from the root: its parameters' scope is current for its
parameters and its body, and the root once that scope is closed and after the function is
defined; each current scope is there in its table.
-/
structure Context.FuncScopes (ctx ctx₁ ctx₂ ctx₃ : Context) : Prop where
  params : ctx₁.scope = ctx.enter.2
  params_present : ctx₁.scope.index < ctx₁.table.scopeCount
  closed : (ctx₂.exit ctx.enter.2).scope = ScopeTable.root
  closed_present : (ctx₂.exit ctx.enter.2).scope.index < ctx₂.table.scopeCount
  defined : ctx₃.scope = ScopeTable.root
  defined_present : ctx₃.scope.index < ctx₃.table.scopeCount

/-- A function is read from the root through its parameters' scope and back. -/
theorem Context.funcScopes {ctx ctx₁ ctx₂ ctx₃ : Context} {ids : List EntryId} {body : Block}
    {name : String} {x : Entry} {nameLoc : Location} {entry : EntryId}
    (paramsRead : ParamsRead ctx.enter.1 ids ctx₁) (bodyRead : StmtsRead ctx₁ [body.toStmt] ctx₂)
    (defined : (ctx₂.exit ctx.enter.2).define name x nameLoc = .ok (ctx₃, entry))
    (atRoot : ctx.scope = ScopeTable.root) (present : ctx.scope.index < ctx.table.scopeCount) :
    Context.FuncScopes ctx ctx₁ ctx₂ ctx₃ := by
  obtain ⟨paramsScope, paramsGrows, -⟩ := paramsRead.bindings (Context.enter_present ctx) (.refl _)
  rw [Context.scope_enter] at paramsScope
  have present₁ : ctx₁.scope.index < ctx₁.table.scopeCount := by
    rw [paramsScope]
    exact Nat.lt_of_lt_of_le (Context.enter_present ctx) paramsGrows.scopeCount_le
  have bodyChanges := bodyRead.changes present₁
  have closed : (ctx₂.exit ctx.enter.2).scope = ScopeTable.root :=
    (Context.scope_exit_enter (paramsGrows.trans bodyChanges.grows)).trans atRoot
  have grows₂ := ctx.grows_enter.trans (paramsGrows.trans bodyChanges.grows)
  have definedGrows := Context.grows_define defined
  have grows₃ := grows₂.trans definedGrows
  refine ⟨paramsScope, present₁, closed, ?_, ?_, ?_⟩
  · rw [closed, ← atRoot]
    exact Nat.lt_of_lt_of_le present grows₂.scopeCount_le
  · rw [Context.scope_define defined, closed]
  · rw [Context.scope_define defined, closed, ← atRoot]
    exact Nat.lt_of_lt_of_le present grows₃.scopeCount_le

/-- Reading declarations from the root opens the scopes of their functions and blocks. -/
theorem DeclsRead.opens {ctx ctx' : Context} {decls : List Decl} (read : DeclsRead ctx decls ctx')
    (atRoot : ctx.scope = ScopeTable.root) (present : ctx.scope.index < ctx.table.scopeCount) :
    ctx.table.Opens ctx'.table (decls.flatMap Decl.scopes) := by
  induction read with
  | nil ctx => exact .refl _
  | var declRead _ laterIH =>
      have changes := declRead.changes present
      have opened := (declRead.opens present).trans
        (laterIH (changes.scope.trans atRoot) (changes.present present))
      simpa [Stmt.scopesOfList, Stmt.scopes, Decl.scopes] using opened
  | func paramsRead bodyRead _ defined _ laterIH =>
      have scopes := Context.funcScopes paramsRead bodyRead defined atRoot present
      have bodyOpens := bodyRead.opens scopes.params_present
      rw [scopes.params] at bodyOpens
      have defineOpens := Context.opens_define defined
      rw [Context.exit_table] at defineOpens
      have opened := (Context.opens_enter present).trans (paramsRead.opens.trans
        (bodyOpens.trans (defineOpens.trans (laterIH scopes.defined scopes.defined_present))))
      rw [atRoot] at opened
      simpa [Stmt.scopesOfList, Decl.scopes] using opened

/-! ## The scopes of a program -/

/-- The table of the built-in types holds the root alone, with no parent and no children. -/
theorem Context.builtin_scopes (loc : Location) :
    (builtin loc).table.scopeCount = 1 ∧ (∀ s, (builtin loc).table.parent s = none) ∧
      ∀ s, (builtin loc).table.children s = [] := by
  have single : (builtin loc).table.scopes = #[{ parent := none, bindings :=
      [("int", ⟨0⟩), ("float", ⟨1⟩), ("bool", ⟨2⟩), ("string", ⟨3⟩)] }] := rfl
  refine ⟨by simp [ScopeTable.scopeCount, single], ?_, ?_⟩
  · intro s
    unfold ScopeTable.parent ScopeTable.scope?
    rcases s with ⟨_ | k⟩ <;> simp [single]
  · intro s
    unfold ScopeTable.children ScopeTable.scope?
    rcases s with ⟨_ | k⟩ <;> simp [single]

/-- The root is current in the context of the built-in types, and there. -/
theorem Context.builtin_present (loc : Location) :
    (builtin loc).scope.index < (builtin loc).table.scopeCount := by
  rw [builtin_scope, (builtin_scopes loc).1]
  exact Nat.zero_lt_one

/-- Every program the reader returns opens, after the root, exactly the scopes of its tree. -/
theorem Program.read_opens {f : Feed} {p : Program} (parsed : (Program.read f).result = .ok p) :
    ∃ loc, (Context.builtin loc).table.Opens p.table p.scopes := by
  rcases Program.read_reads parsed with ⟨loc, ctx, declsRead, tableEq⟩
  refine ⟨loc, ?_⟩
  rw [tableEq]
  exact declsRead.opens (Context.builtin_scope loc) (Context.builtin_present loc)

/-- The reading of a program that succeeds ends with the root's parent current, which is none. -/
theorem Program.read_scopeAfter {f : Feed} {p : Program} (parsed : (Program.read f).result = .ok p) :
    (Program.read f).scopeAfter = p.table.parent ScopeTable.root := by
  unfold Program.read at parsed ⊢
  split at parsed
  · cases parsed
  · dsimp only at parsed ⊢
    split at parsed
    · cases parsed
      rfl
    · cases parsed

/--
The scope tree of every program the reader returns mirrors the blocks of its tree. The scopes of
the table are the root and, after it, the scopes of the program's functions and blocks in the order
of the tree, all distinct, so there is one more than there are functions and blocks. Each scope has
the parent it is listed with: the root for a function's parameters, the parameters' scope for its
body, and the scope of the innermost block around it for every other block. The children of each
scope are the scopes listed below it, in increasing order. No scope is current before the reading
or after it.
-/
theorem Program.read_scopeTree {f : Feed} {p : Program} (parsed : (Program.read f).result = .ok p) :
    ScopeTable.root :: p.scopes.map Prod.fst = (List.range p.table.scopeCount).map ScopeId.mk ∧
      p.table.scopeCount = p.scopes.length + 1 ∧
      (∀ s, p.table.parent s = p.scopes.lookup s) ∧
      (∀ s, p.table.children s = (p.scopes.filter (·.2 = s)).map Prod.fst ∧
        (p.table.children s).Pairwise (·.index < ·.index)) ∧
      Context.initial.current = none ∧ (Program.read f).scopeAfter = none := by
  obtain ⟨loc, opens⟩ := Program.read_opens parsed
  obtain ⟨single, noParent, noChildren⟩ := Context.builtin_scopes loc
  have count : p.table.scopeCount = p.scopes.length + 1 := by
    rw [opens.count_eq, single, Nat.add_comm]
  have numbered := opens.numbered
  rw [single] at numbered
  have parentEq : ∀ s, p.table.parent s = p.scopes.lookup s := by
    intro s
    rw [opens.parent, single]
    split
    · rename_i atRoot
      rw [noParent, ScopeTable.lookup_eq_none_of_numbered numbered (Or.inl atRoot)]
    · rfl
  have childrenEq : ∀ s, p.table.children s = (p.scopes.filter (·.2 = s)).map Prod.fst := by
    intro s
    rw [opens.listed_eq, noChildren, List.nil_append]
  have increasing : (p.scopes.map Prod.fst).Pairwise (·.index < ·.index) := by
    have sorted : (p.scopes.map (·.1.index)).Pairwise (· < ·) := by
      rw [numbered]
      exact @List.pairwise_lt_range' 1 p.scopes.length 1 Nat.one_pos
    rw [List.pairwise_map] at sorted ⊢
    exact sorted
  refine ⟨?_, count, parentEq, fun s => ⟨childrenEq s, ?_⟩, rfl, ?_⟩
  · have ids : p.scopes.map Prod.fst = (List.range' 1 p.scopes.length).map ScopeId.mk := by
      rw [← numbered, List.map_map]
      rfl
    rw [ids, count, List.range_eq_range', List.range'_succ]
    rfl
  · rw [childrenEq s]
    exact increasing.sublist (List.filter_sublist.map Prod.fst)
  · rw [Program.read_scopeAfter parsed, parentEq]
    exact ScopeTable.lookup_eq_none_of_numbered numbered (Or.inl Nat.zero_lt_one)

/--
A function with a block in its body, then a global that calls it: the parameters' scope, the
body's and the inner block's follow the root, and the scope tree is the program's.
-/
theorem Program.ofSource_nestedBlock_scopeTree :
    ∃ p, (Program.ofSource "f(a: int) { { var b = a; } return a; } var c = f(1);").result =
        .ok p ∧ p.scopes.length = 3 ∧
      (ScopeTable.root :: p.scopes.map Prod.fst = (List.range p.table.scopeCount).map ScopeId.mk ∧
        p.table.scopeCount = p.scopes.length + 1 ∧
        (∀ s, p.table.parent s = p.scopes.lookup s) ∧
        (∀ s, p.table.children s = (p.scopes.filter (·.2 = s)).map Prod.fst ∧
          (p.table.children s).Pairwise (·.index < ·.index)) ∧
        Context.initial.current = none ∧ (Program.ofSource
          "f(a: int) { { var b = a; } return a; } var c = f(1);").scopeAfter = none) := by
  have decided : ((Program.ofSource
      "f(a: int) { { var b = a; } return a; } var c = f(1);").result.toOption.map
        fun p => decide (p.scopes.length = 3)) = some true := by
    decide +kernel
  revert decided
  cases parsed : (Program.ofSource
    "f(a: int) { { var b = a; } return a; } var c = f(1);").result with
  | ok p =>
      intro decided
      exact ⟨p, rfl, of_decide_eq_true (Option.some.inj decided), Program.read_scopeTree parsed⟩
  | error e =>
      intro decided
      cases decided

end ImpFront
