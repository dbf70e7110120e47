import ImpFront.Proofs.Steps.Program

/-!
# What the updates of the scope table change

The reader changes the scope table in two ways only: opening a scope (`ScopeTable.addChild`)
and defining a name (`ScopeTable.define`). This module states what each of them does to the
entries, the bindings and the parents of the table, and that the reader's contexts only ever
extend the entries they start with (`ScopeTable.Extends`).
-/

namespace ImpFront

namespace ScopeTable

/-- The bindings of a scope, in the order they were made; none for a scope that is not there. -/
def bindingsOf (t : ScopeTable) (s : ScopeId) : List (String × EntryId) :=
  ((t.scope? s).map (·.bindings)).getD []

/-- Every entry of `t` is an entry of `t'`, unchanged. -/
def Extends (t t' : ScopeTable) : Prop :=
  ∀ (e : EntryId) (x : Entry), t.entry? e = some x → t'.entry? e = some x

theorem Extends.refl (t : ScopeTable) : t.Extends t := fun _ _ found => found

theorem Extends.trans {t₁ t₂ t₃ : ScopeTable} (first : t₁.Extends t₂) (second : t₂.Extends t₃) :
    t₁.Extends t₃ :=
  fun e x found => second e x (first e x found)

theorem lookupLocal_eq (t : ScopeTable) (s : ScopeId) (name : String) :
    t.lookupLocal s name = (t.bindingsOf s).lookup name := by
  unfold lookupLocal bindingsOf
  cases t.scope? s <;> rfl

/-- A name found from a scope is bound, to the entry found, in some scope of the table. -/
theorem exists_binding_of_resolve {t : ScopeTable} {name : String} {s : ScopeId} {e : EntryId}
    (found : t.resolve name s = some e) : ∃ s', (name, e) ∈ t.bindingsOf s' := by
  fun_induction t.resolve name s with
  | case1 s e' bound =>
      cases found
      rw [lookupLocal_eq, List.lookup_eq_some_iff] at bound
      rcases bound with ⟨before, after, split, -⟩
      exact ⟨s, by rw [split]; simp⟩
  | case2 s notLocal p isParent below ih => exact ih found
  | case3 => cases found
  | case4 => cases found

theorem resolve_of_lookup {t : ScopeTable} {s : ScopeId} {name : String} {e : EntryId}
    (found : t.lookup s name = .ok e) : t.resolve name s = some e := by
  unfold lookup at found
  split at found
  · rename_i e' resolved
    cases found
    exact resolved
  · cases found

theorem exists_binding_of_lookup {t : ScopeTable} {s : ScopeId} {name : String} {e : EntryId}
    (found : t.lookup s name = .ok e) : ∃ s', (name, e) ∈ t.bindingsOf s' := by
  exact exists_binding_of_resolve (resolve_of_lookup found)

/-- Defining a name appends its entry, numbered by the count of entries before. -/
theorem define_eq_ok {t t' : ScopeTable} {s : ScopeId} {name : String} {x : Entry} {id : EntryId}
    (defined : t.define s name x = .ok (t', id)) :
    t.lookupLocal s name = none ∧ id = ⟨t.entryCount⟩ ∧ t'.entries = t.entries.push x ∧
      t'.scopes = t.scopes.modify s.index
        (fun sc => { sc with bindings := sc.bindings ++ [(name, id)] }) := by
  unfold define at defined
  split at defined
  · cases defined
  · rename_i fresh
    cases defined
    exact ⟨Option.not_isSome_iff_eq_none.1 fresh, rfl, rfl, rfl⟩

theorem entry?_of_define {t t' : ScopeTable} {s : ScopeId} {name : String} {x : Entry}
    {id : EntryId} (defined : t.define s name x = .ok (t', id)) (e : EntryId) :
    t'.entry? e = if e = id then some x else t.entry? e := by
  rcases define_eq_ok defined with ⟨-, rfl, entries, -⟩
  unfold entry?
  rw [entries, Array.getElem?_push]
  by_cases isNew : e = ⟨t.entryCount⟩
  · subst isNew
    simp [entryCount]
  · have index : e.index ≠ t.entries.size := fun same => isNew (by cases e; simp_all [entryCount])
    simp [isNew, index]

theorem Extends.of_define {t t' : ScopeTable} {s : ScopeId} {name : String} {x : Entry}
    {id : EntryId} (defined : t.define s name x = .ok (t', id)) : t.Extends t' := by
  intro e y found
  rw [entry?_of_define defined]
  have before : e.index < t.entries.size := by
    unfold entry? at found
    exact (Array.getElem?_eq_some_iff.1 found).1
  rcases define_eq_ok defined with ⟨-, rfl, -, -⟩
  have notNew : e ≠ ⟨t.entryCount⟩ := by
    intro same
    subst same
    simp [entryCount] at before
  simp [notNew, found]

theorem bindingsOf_of_define {t t' : ScopeTable} {s : ScopeId} {name : String} {x : Entry}
    {id : EntryId} (defined : t.define s name x = .ok (t', id)) (s' : ScopeId) :
    t'.bindingsOf s' =
      if s' = s ∧ s.index < t.scopeCount then t.bindingsOf s' ++ [(name, id)]
      else t.bindingsOf s' := by
  rcases define_eq_ok defined with ⟨-, -, -, scopes⟩
  unfold bindingsOf scope?
  rw [scopes, Array.getElem?_modify]
  by_cases same : s' = s
  · subst same
    by_cases present : s'.index < t.scopes.size
    · simp [present, scopeCount]
    · simp [present, scopeCount]
  · have index : s.index ≠ s'.index := fun equal => same (by cases s; cases s'; simp_all)
    simp [same, index]

theorem scopeCount_of_define {t t' : ScopeTable} {s : ScopeId} {name : String} {x : Entry}
    {id : EntryId} (defined : t.define s name x = .ok (t', id)) : t'.scopeCount = t.scopeCount := by
  rcases define_eq_ok defined with ⟨-, -, -, scopes⟩
  unfold scopeCount
  rw [scopes, Array.size_modify]

theorem parent_of_define {t t' : ScopeTable} {s : ScopeId} {name : String} {x : Entry}
    {id : EntryId} (defined : t.define s name x = .ok (t', id)) (s' : ScopeId) :
    t'.parent s' = t.parent s' := by
  rcases define_eq_ok defined with ⟨-, -, -, scopes⟩
  unfold parent scope?
  rw [scopes, Array.getElem?_modify]
  split <;> cases t.scopes[s'.index]? <;> rfl

@[simp]
theorem entry?_addChild (t : ScopeTable) (p : ScopeId) :
    ScopeTable.entry? (t.addChild p).1 = t.entry? := rfl

theorem bindingsOf_addChild (t : ScopeTable) (p s : ScopeId) :
    (t.addChild p).1.bindingsOf s = t.bindingsOf s := by
  unfold bindingsOf scope? addChild
  simp only [Array.getElem?_modify, Array.getElem?_push]
  by_cases isNew : s.index = t.scopes.size
  · split <;> simp [isNew]
  · split <;> cases t.scopes[s.index]? <;> simp

/-- A scope that is not there yet binds nothing. -/
theorem bindingsOf_of_scopeCount_le {t : ScopeTable} {s : ScopeId} (absent : t.scopeCount ≤ s.index) :
    t.bindingsOf s = [] := by
  unfold bindingsOf scope?
  rw [Array.getElem?_eq_none absent]
  rfl

theorem parent_addChild (t : ScopeTable) (p s : ScopeId) :
    (t.addChild p).1.parent s = if s.index = t.scopeCount then some p else t.parent s := by
  unfold parent scope? addChild scopeCount
  simp only [Array.getElem?_modify, Array.getElem?_push]
  by_cases isNew : s.index = t.scopes.size
  · split <;> simp_all
  · split <;> cases t.scopes[s.index]? <;> simp

/--
The table `t'` grows from `t`: it keeps every entry and every scope of `t`, with the scope's
parent; it may hold more of both.
-/
structure GrowsTo (t t' : ScopeTable) : Prop where
  entries : t.Extends t'
  scopeCount_le : t.scopeCount ≤ t'.scopeCount
  parent : ∀ s : ScopeId, s.index < t.scopeCount → t'.parent s = t.parent s

namespace GrowsTo

theorem refl (t : ScopeTable) : t.GrowsTo t := ⟨.refl t, Nat.le_refl _, fun _ _ => rfl⟩

theorem trans {t₁ t₂ t₃ : ScopeTable} (first : t₁.GrowsTo t₂) (second : t₂.GrowsTo t₃) :
    t₁.GrowsTo t₃ where
  entries := first.entries.trans second.entries
  scopeCount_le := Nat.le_trans first.scopeCount_le second.scopeCount_le
  parent := by
    intro s present
    rw [second.parent s (Nat.lt_of_lt_of_le present first.scopeCount_le), first.parent s present]

theorem of_define {t t' : ScopeTable} {s : ScopeId} {name : String} {x : Entry} {id : EntryId}
    (defined : t.define s name x = .ok (t', id)) : t.GrowsTo t' where
  entries := Extends.of_define defined
  scopeCount_le := Nat.le_of_eq (scopeCount_of_define defined).symm
  parent := fun s' _ => parent_of_define defined s'

theorem addChild (t : ScopeTable) (p : ScopeId) : t.GrowsTo (t.addChild p).1 where
  entries := fun _ _ found => found
  scopeCount_le := by simp
  parent := by
    intro s present
    rw [parent_addChild, if_neg (Nat.ne_of_lt present)]

/-- An entry of `t` reads the same in every table grown from it. -/
theorem entry_eq {t t' : ScopeTable} (grows : t.GrowsTo t') {e : EntryId} {x : Entry}
    (found : t.entry? e = some x) : t'.entry e = x := by
  unfold entry
  rw [grows.entries e x found]
  rfl

end GrowsTo

end ScopeTable

/-! ## The reader's context -/

namespace Context

variable {ctx ctx' : Context} {name : String} {loc : Location}

@[simp]
theorem enter_table (ctx : Context) : ctx.enter.1.table = (ctx.table.addChild ctx.scope).1 := rfl

@[simp]
theorem enter_current (ctx : Context) : ctx.enter.1.current = some ctx.enter.2 := rfl

theorem enter_scope (ctx : Context) : ctx.enter.2 = ⟨ctx.table.scopeCount⟩ := rfl

/-- Opening a scope keeps every entry. -/
theorem extends_enter (ctx : Context) : ctx.table.Extends ctx.enter.1.table :=
  fun _ _ found => found

@[simp]
theorem exit_table (ctx : Context) (s : ScopeId) : (ctx.exit s).table = ctx.table := rfl

@[simp]
theorem exit_current (ctx : Context) (s : ScopeId) :
    (ctx.exit s).current = ctx.table.parent s := rfl

/-- Defining a name in the context defines it in the table, in the current scope. -/
theorem define_eq_ok {x : Entry} {id : EntryId} (defined : ctx.define name x loc = .ok (ctx', id)) :
    ctx.table.define ctx.scope name x = .ok (ctx'.table, id) ∧ ctx'.current = ctx.current := by
  unfold define at defined
  split at defined
  · rename_i t id' tableDefined
    cases defined
    exact ⟨tableDefined, rfl⟩
  · cases defined

theorem lookup_eq_ok {e : EntryId} (found : ctx.lookup name loc = .ok e) :
    ctx.table.lookup ctx.scope name = .ok e := by
  unfold lookup at found
  split at found
  · rename_i e' resolved
    cases found
    exact resolved
  · cases found

/-- A name that resolves to a type resolves to a type entry of the table. -/
theorem lookupType_eq_ok {e : EntryId} (found : ctx.lookupType name loc = .ok e) :
    ctx.lookup name loc = .ok e ∧ ∃ info, ctx.table.entry e = .type info := by
  unfold lookupType at found
  split at found
  · cases found
  · rename_i e' looked
    split at found
    · rename_i info isType
      cases found
      exact ⟨looked, info, isType⟩
    · cases found

theorem expectType_eq_ok {expected found : EntryId}
    (checked : ctx.expectType expected found loc = .ok ()) : expected = found := by
  unfold expectType at checked
  split at checked
  · assumption
  · cases checked

/-- A boolean condition has the type that `bool` names where it stands. -/
theorem expectBool_eq_ok {e : Expr} (checked : ctx.expectBool e = .ok ()) :
    ctx.lookupType "bool" e.loc = .ok e.ty := by
  unfold expectBool at checked
  split at checked
  · cases checked
  · rename_i b found
    rw [found, expectType_eq_ok checked]

/--
A typed binary operation is the operation's node: for `||` and `&&` both operands are
booleans and the node has the left operand's type; for every other operator the operands
have one type, and the node has the type `bool` names for a comparison and the left
operand's type otherwise.
-/
theorem binary_eq_ok {op : BinOp} {lhs rhs e : Expr}
    (typed : ctx.binary op lhs rhs loc = .ok e) :
    ∃ ty, e = .binary op lhs rhs ty loc ∧
      ((op = .or ∨ op = .and) →
        ctx.expectBool lhs = .ok () ∧ ctx.expectBool rhs = .ok () ∧ ty = lhs.ty) ∧
      (¬(op = .or ∨ op = .and) → lhs.ty = rhs.ty ∧
        (op.isComparison → ctx.lookupType "bool" loc = .ok ty) ∧
        (op.isComparison = false → ty = lhs.ty)) := by
  unfold binary at typed
  split at typed
  · rename_i logical
    split at typed
    · cases typed
    · cases typed
    · rename_i lhsBool rhsBool
      cases typed
      exact ⟨lhs.ty, rfl, fun _ => ⟨lhsBool, rhsBool, rfl⟩, fun notLogical => absurd logical notLogical⟩
  · rename_i notLogical
    split at typed
    · cases typed
    · rename_i same
      have sameTy := expectType_eq_ok same
      split at typed
      · rename_i isComparison
        split at typed
        · cases typed
        · rename_i b found
          cases typed
          refine ⟨b, rfl, fun logical => absurd logical notLogical, fun _ => ⟨sameTy, ?_, ?_⟩⟩
          · intro _
            exact found
          · intro notComparison
            rw [isComparison] at notComparison
            cases notComparison
      · rename_i notComparison
        cases typed
        refine ⟨lhs.ty, rfl, fun logical => absurd logical notLogical, fun _ => ⟨sameTy, ?_, ?_⟩⟩
        · intro isComparison
          exact absurd isComparison notComparison
        · intro _
          rfl

end Context

end ImpFront
