import Mathlib.Data.List.Nodup
import ImpFront.Proofs.EntrySites

/-!
# The scope table over every run of its operations

Three operations change the scope table (`TableOp`): opening a scope below a scope that is there,
defining a name in a scope that is there, and setting the offset of an entry that is there. A
define of a name that the scope binds already, and an offset set on an entry that is not a
variable, leave the table as it was. Everything else the table answers (parents, children,
bindings, lookups, entries) is a function of it, so a run is a list of operations
(`ScopeTable.run`), each naming only scopes and entries issued before it (`ScopeTable.IssuedRun`).

The table keeps four views of one tree: the parent of each scope, the children of each scope,
the names each scope binds, and the order in which it defined its entries. `ScopeTable.WellFormed`
says that they agree: the root is the only scope without a parent and every other parent is
numbered below its child; the children of a scope are the scopes whose parent it is, in order; a
scope binds each name once and lists its entries in increasing order; and the entries of all
scopes together are every entry once. The empty table is well formed, every operation keeps it so
(`ScopeTable.WellFormed.apply`), and so does every run from it (`ScopeTable.Reachable.wellFormed`).
`ScopeTable.Reachable.representation` spells the invariant out as the properties of the views.
-/

namespace ImpFront

/-- An operation that changes the scope table. -/
inductive TableOp where
  /-- Opens a new scope below `parent`. -/
  | addChild (parent : ScopeId)
  /-- Binds `name` in `scope` to a new entry. -/
  | define (scope : ScopeId) (name : String) (entry : Entry)
  /-- Sets or clears the offset of a variable entry. -/
  | setOffset (entry : EntryId) (offset : Option Nat)
deriving DecidableEq, Repr

namespace TableOp

/-- The table after an operation; a refused operation leaves it as it was. -/
def apply (t : ScopeTable) : TableOp → ScopeTable
  | addChild p => (t.addChild p).1
  | define s name x =>
    match t.define s name x with
    | .ok (t', _) => t'
    | .error _ => t
  | setOffset e offset => (t.setOffset e offset).getD t

/-- The operation names only a scope or an entry that the table has issued. -/
def Issued (t : ScopeTable) : TableOp → Prop
  | addChild p => p.index < t.scopeCount
  | define s _ _ => s.index < t.scopeCount
  | setOffset e _ => e.index < t.entryCount

instance (t : ScopeTable) : (op : TableOp) → Decidable (op.Issued t)
  | addChild p => inferInstanceAs (Decidable (p.index < t.scopeCount))
  | define s _ _ => inferInstanceAs (Decidable (s.index < t.scopeCount))
  | setOffset e _ => inferInstanceAs (Decidable (e.index < t.entryCount))

end TableOp

namespace ScopeTable

/-- The table after a run of operations, applied one after the other. -/
def run (t : ScopeTable) (ops : List TableOp) : ScopeTable := ops.foldl TableOp.apply t

/-- Each operation of the run names only what the table has issued when it comes. -/
def IssuedRun : ScopeTable → List TableOp → Prop
  | _, [] => True
  | t, op :: ops => op.Issued t ∧ IssuedRun (op.apply t) ops

/-- Whether each operation of a run names only what the table has issued. -/
def decIssuedRun : (t : ScopeTable) → (ops : List TableOp) → Decidable (t.IssuedRun ops)
  | _, [] => isTrue trivial
  | t, op :: ops =>
    have := decIssuedRun (op.apply t) ops
    inferInstanceAs (Decidable (op.Issued t ∧ (op.apply t).IssuedRun ops))

instance (t : ScopeTable) (ops : List TableOp) : Decidable (t.IssuedRun ops) := decIssuedRun t ops

/-- A table that a run of operations makes from the empty table. -/
def Reachable (t : ScopeTable) : Prop :=
  ∃ ops, empty.IssuedRun ops ∧ empty.run ops = t

/-- The scopes of the table, in the order they were opened. -/
def scopeIds (t : ScopeTable) : List ScopeId := (List.range t.scopeCount).map ScopeId.mk

/-- The entries of the table, in the order they were made. -/
def entryIds (t : ScopeTable) : List EntryId := (List.range t.entryCount).map EntryId.mk

/--
The `n`-th scope on the way from `s` to the root: `s` itself, its parent, its parent's parent,
and so on; none once the root is passed.
-/
def ancestor (t : ScopeTable) : Nat → ScopeId → Option ScopeId
  | 0, s => some s
  | n + 1, s => (t.parent s).bind (t.ancestor n)

/-- The parents, children, bindings and entry lists of the table describe one tree. -/
structure WellFormed (t : ScopeTable) : Prop where
  /-- The root is there. -/
  root_present : 0 < t.scopeCount
  /-- The root is the only scope without a parent. -/
  parent_eq_none_iff : ∀ s : ScopeId, s.index < t.scopeCount → (t.parent s = none ↔ s = root)
  /-- A parent is numbered below its child. -/
  parent_lt : ∀ s p : ScopeId, t.parent s = some p → p.index < s.index
  /-- The children of a scope are the scopes whose parent it is, in the order they were opened. -/
  children_eq : ∀ p : ScopeId, t.children p = t.scopeIds.filter (t.parent · = some p)
  /-- A scope binds each name at most once. -/
  names_nodup : ∀ s : ScopeId, ((t.bindingsOf s).map Prod.fst).Nodup
  /-- The entries of a scope are listed in increasing order. -/
  entries_increasing : ∀ s : ScopeId, ((t.entriesOf s).map EntryId.index).Pairwise (· < ·)
  /-- The entries of all scopes together are every entry once. -/
  entries_perm : (t.scopeIds.flatMap t.entriesOf).Perm t.entryIds

/-! ## The views of the table -/

@[simp]
theorem mem_scopeIds {t : ScopeTable} {s : ScopeId} : s ∈ t.scopeIds ↔ s.index < t.scopeCount := by
  cases s
  simp [scopeIds]

@[simp]
theorem mem_entryIds {t : ScopeTable} {e : EntryId} : e ∈ t.entryIds ↔ e.index < t.entryCount := by
  cases e
  simp [entryIds]

theorem scopeIds_nodup (t : ScopeTable) : t.scopeIds.Nodup :=
  List.nodup_range.map (fun _ _ same => ScopeId.mk.inj same)

theorem entryIds_nodup (t : ScopeTable) : t.entryIds.Nodup :=
  List.nodup_range.map (fun _ _ same => EntryId.mk.inj same)

@[simp]
theorem ancestor_zero (t : ScopeTable) (s : ScopeId) : t.ancestor 0 s = some s := rfl

theorem ancestor_succ (t : ScopeTable) (n : Nat) (s : ScopeId) :
    t.ancestor (n + 1) s = (t.parent s).bind (t.ancestor n) := rfl

theorem lookupLocal_congr {t t' : ScopeTable} (scopes : t'.scopes = t.scopes) :
    t'.lookupLocal = t.lookupLocal := by
  funext s name
  simp only [lookupLocal, scope?, scopes]

theorem parent_congr {t t' : ScopeTable} (scopes : t'.scopes = t.scopes) : t'.parent = t.parent := by
  funext s
  simp only [parent, scope?, scopes]

theorem children_congr {t t' : ScopeTable} (scopes : t'.scopes = t.scopes) :
    t'.children = t.children := by
  funext s
  simp only [children, scope?, scopes]

theorem bindingsOf_congr {t t' : ScopeTable} (scopes : t'.scopes = t.scopes) :
    t'.bindingsOf = t.bindingsOf := by
  funext s
  simp only [bindingsOf, scope?, scopes]

@[simp]
theorem entryCount_addChild (t : ScopeTable) (p : ScopeId) :
    (t.addChild p).1.entryCount = t.entryCount := rfl

theorem scopeIds_addChild (t : ScopeTable) (p : ScopeId) :
    (t.addChild p).1.scopeIds = t.scopeIds ++ [⟨t.scopeCount⟩] := by
  simp [scopeIds, List.range_succ]

theorem entriesOf_addChild (t : ScopeTable) (p s : ScopeId) :
    (t.addChild p).1.entriesOf s = t.entriesOf s := by
  rw [entriesOf_eq, entriesOf_eq, bindingsOf_addChild]

theorem entryCount_of_define {t t' : ScopeTable} {s : ScopeId} {name : String} {x : Entry}
    {id : EntryId} (defined : t.define s name x = .ok (t', id)) :
    t'.entryCount = t.entryCount + 1 := by
  rw [entryCount, (define_eq_ok defined).2.2.1, Array.size_push]
  rfl

theorem entryIds_of_define {t t' : ScopeTable} {s : ScopeId} {name : String} {x : Entry}
    {id : EntryId} (defined : t.define s name x = .ok (t', id)) :
    t'.entryIds = t.entryIds ++ [id] := by
  rw [entryIds, entryCount_of_define defined, (define_eq_ok defined).2.1]
  simp [entryIds, List.range_succ]

theorem scopeIds_of_define {t t' : ScopeTable} {s : ScopeId} {name : String} {x : Entry}
    {id : EntryId} (defined : t.define s name x = .ok (t', id)) : t'.scopeIds = t.scopeIds := by
  rw [scopeIds, scopeCount_of_define defined, scopeIds]

/-- A name that a scope does not bind yet is bound, by a define there, to the new entry only. -/
theorem lookupLocal_define {t t' : ScopeTable} {s : ScopeId} {name : String} {x : Entry}
    {id : EntryId} (defined : t.define s name x = .ok (t', id)) (present : s.index < t.scopeCount)
    (s' : ScopeId) (m : String) :
    t'.lookupLocal s' m = if s' = s ∧ m = name then some id else t.lookupLocal s' m := by
  have fresh := (define_eq_ok defined).1
  rw [lookupLocal_eq, lookupLocal_eq, bindingsOf_of_define defined]
  by_cases same : s' = s
  · subst same
    rw [lookupLocal_eq] at fresh
    by_cases named : m = name
    · subst named
      simp only [and_self, present, if_true, List.lookup_append, fresh, Option.none_or]
      simp
    · simp [present, named, List.lookup_append, List.lookup_cons, beq_false_of_ne named]
  · simp [same]

/-- Setting an offset changes no scope and no count. -/
theorem setOffset_scopes {t t' : ScopeTable} {e : EntryId} {offset : Option Nat}
    (set : t.setOffset e offset = some t') : t'.scopes = t.scopes ∧ t'.entryCount = t.entryCount := by
  unfold setOffset at set
  split at set
  · cases set
    exact ⟨rfl, by simp [entryCount]⟩
  · cases set

/-! ## Lists of numbered items -/

/-- In a list of pairs whose keys differ, a key is looked up to exactly the values it is paired with. -/
theorem lookup_eq_some_iff_of_nodup {α β : Type} [BEq α] [LawfulBEq α] {l : List (α × β)} {k : α}
    {v : β} (nodup : (l.map Prod.fst).Nodup) : l.lookup k = some v ↔ (k, v) ∈ l := by
  constructor
  · intro found
    obtain ⟨before, after, split, -⟩ := List.lookup_eq_some_iff.1 found
    rw [split]
    simp
  · intro member
    induction l with
    | nil => cases member
    | cons p l ih =>
        rw [List.map_cons, List.nodup_cons] at nodup
        rcases List.mem_cons.1 member with rfl | later
        · simp
        · have differ : k ≠ p.1 := fun same =>
            nodup.1 (same ▸ List.mem_map.2 ⟨(k, v), later, rfl⟩)
          rw [List.lookup_cons]
          simp only [beq_false_of_ne differ]
          exact ih nodup.2 later

/-- In a list whose parts hold each item once, an item is in the part of one member only. -/
theorem eq_of_mem_flatMap_nodup {α β : Type} {l : List α} {f : α → List β} {x : β} {a b : α}
    (nodup : (l.flatMap f).Nodup) (inA : a ∈ l) (inB : b ∈ l) (fromA : x ∈ f a)
    (fromB : x ∈ f b) : a = b := by
  induction l with
  | nil => simp at inA
  | cons c l ih =>
      rw [List.flatMap_cons, List.nodup_append] at nodup
      obtain ⟨-, rest, apart⟩ := nodup
      have notLater : ∀ d ∈ l, x ∈ f c → x ∈ f d → False :=
        fun d member here there => apart x here x (List.mem_flatMap.2 ⟨d, member, there⟩) rfl
      rcases List.mem_cons.1 inA with rfl | laterA <;> rcases List.mem_cons.1 inB with rfl | laterB
      · rfl
      · exact (notLater b laterB fromA fromB).elim
      · exact (notLater a laterA fromB fromA).elim
      · exact ih rest laterA laterB

/-- Appending an item to the part of one member appends it to the whole, up to order. -/
theorem flatMap_append_at_perm {α β : Type} [DecidableEq α] {l : List α} {f : α → List β} {a : α}
    (x : β) (nodup : l.Nodup) (member : a ∈ l) :
    (l.flatMap fun b => if b = a then f b ++ [x] else f b).Perm (l.flatMap f ++ [x]) := by
  induction l with
  | nil => simp at member
  | cons c l ih =>
      rw [List.nodup_cons] at nodup
      by_cases here : c = a
      · subst here
        have later : (l.flatMap fun b => if b = c then f b ++ [x] else f b) = l.flatMap f := by
          apply List.flatMap_congr
          intro b inL
          rw [if_neg (fun same : b = c => nodup.1 (same ▸ inL))]
        rw [List.flatMap_cons, List.flatMap_cons, if_pos rfl, later, List.append_assoc,
          List.append_assoc]
        exact List.Perm.append_left _ List.perm_append_comm
      · rw [List.flatMap_cons, List.flatMap_cons, if_neg here, List.append_assoc]
        exact List.Perm.append_left _ (ih nodup.2 ((List.mem_cons.1 member).resolve_left (Ne.symm here)))

/-! ## Consequences of the invariant -/

namespace WellFormed

variable {t : ScopeTable} (wf : t.WellFormed)
include wf

/-- Every parent is a scope of the table. -/
theorem parent_present {s p : ScopeId} (isParent : t.parent s = some p) : p.index < t.scopeCount := by
  have there : s.index < t.scopeCount := by
    by_contra absent
    rw [parent_of_scopeCount_le (Nat.le_of_not_lt absent)] at isParent
    cases isParent
  exact Nat.lt_trans (wf.parent_lt s p isParent) there

/-- The way from a scope to the root passes only scopes numbered at most as high, and ends at the root. -/
theorem ancestor_reaches_root (s : ScopeId) (present : s.index < t.scopeCount) :
    ∃ n, t.ancestor n s = some root ∧ t.ancestor (n + 1) s = none := by
  induction s using (measure ScopeId.index).wf.induction with
  | h s ih =>
      cases isParent : t.parent s with
      | none =>
          have isRoot := (wf.parent_eq_none_iff s present).1 isParent
          exact ⟨0, by rw [isRoot]; rfl, by rw [ancestor_succ, isParent]; rfl⟩
      | some p =>
          obtain ⟨n, reaches, ends⟩ := ih p (wf.parent_lt s p isParent) (wf.parent_present isParent)
          exact ⟨n + 1, by rw [ancestor_succ, isParent]; exact reaches,
            by rw [ancestor_succ, isParent]; exact ends⟩

theorem entries_nodup (s : ScopeId) : (t.entriesOf s).Nodup :=
  List.Nodup.of_map EntryId.index ((wf.entries_increasing s).imp Nat.ne_of_lt)

/-- The entries of a scope are entries of the table. -/
theorem index_lt_of_mem_entriesOf {s : ScopeId} {e : EntryId} (member : e ∈ t.entriesOf s) :
    e.index < t.entryCount := by
  have present : s.index < t.scopeCount := by
    by_contra absent
    rw [entriesOf_of_scopeCount_le (Nat.le_of_not_lt absent)] at member
    cases member
  exact mem_entryIds.1 (wf.entries_perm.subset (List.mem_flatMap.2 ⟨s, mem_scopeIds.2 present, member⟩))

/-- The entries of a scope are the entries its names stand for. -/
theorem mem_entriesOf_iff (s : ScopeId) (e : EntryId) :
    e ∈ t.entriesOf s ↔ ∃ name, t.lookupLocal s name = some e := by
  rw [entriesOf_eq]
  constructor
  · intro member
    obtain ⟨⟨name, e'⟩, bound, rfl⟩ := List.mem_map.1 member
    refine ⟨name, ?_⟩
    rw [lookupLocal_eq]
    exact (lookup_eq_some_iff_of_nodup (wf.names_nodup s)).2 bound
  · rintro ⟨name, found⟩
    rw [lookupLocal_eq, List.lookup_eq_some_iff] at found
    obtain ⟨before, after, split, -⟩ := found
    rw [split]
    simp

/-- Two names of one scope never stand for the same entry. -/
theorem name_unique {s : ScopeId} {name₁ name₂ : String} {e : EntryId}
    (found₁ : t.lookupLocal s name₁ = some e) (found₂ : t.lookupLocal s name₂ = some e) :
    name₁ = name₂ := by
  rw [lookupLocal_eq] at found₁ found₂
  have bound₁ := (lookup_eq_some_iff_of_nodup (wf.names_nodup s)).1 found₁
  have bound₂ := (lookup_eq_some_iff_of_nodup (wf.names_nodup s)).1 found₂
  have entriesNodup := wf.entries_nodup s
  rw [entriesOf_eq] at entriesNodup
  exact congrArg Prod.fst (List.inj_on_of_nodup_map entriesNodup bound₁ bound₂ rfl)

/-- Every entry of the table is an entry of exactly one scope. -/
theorem home_unique (e : EntryId) (present : e.index < t.entryCount) :
    ∃! s : ScopeId, s.index < t.scopeCount ∧ e ∈ t.entriesOf s := by
  obtain ⟨s, inScopes, member⟩ :=
    List.mem_flatMap.1 (wf.entries_perm.symm.subset (mem_entryIds.2 present))
  refine ⟨s, ⟨mem_scopeIds.1 inScopes, member⟩, ?_⟩
  rintro s' ⟨present', member'⟩
  exact eq_of_mem_flatMap_nodup ((t.entryIds_nodup).perm wf.entries_perm.symm)
    (mem_scopeIds.2 present') inScopes member' member

end WellFormed

/-! ## Each operation keeps the invariant -/

theorem empty_wellFormed : empty.WellFormed where
  root_present := by decide
  parent_eq_none_iff := by
    intro s present
    have isRoot : s = root := by
      cases s
      simp_all [root, scopeCount_empty]
    subst isRoot
    exact iff_of_true rfl rfl
  parent_lt := by
    intro s p isParent
    by_cases present : s.index < empty.scopeCount
    · have isRoot : s = root := by
        cases s
        simp_all [root, scopeCount_empty]
      subst isRoot
      cases isParent
    · rw [parent_of_scopeCount_le (Nat.le_of_not_lt present)] at isParent
      cases isParent
  children_eq := by
    intro p
    by_cases present : p.index < empty.scopeCount
    · have isRoot : p = root := by
        cases p
        simp_all [root, scopeCount_empty]
      subst isRoot
      rfl
    · rw [children_of_scopeCount_le (Nat.le_of_not_lt present)]
      rfl
  names_nodup := by
    intro s
    by_cases present : s.index < empty.scopeCount
    · have isRoot : s = root := by
        cases s
        simp_all [root, scopeCount_empty]
      subst isRoot
      exact List.nodup_nil
    · rw [bindingsOf_of_scopeCount_le (Nat.le_of_not_lt present)]
      exact List.nodup_nil
  entries_increasing := by
    intro s
    by_cases present : s.index < empty.scopeCount
    · have isRoot : s = root := by
        cases s
        simp_all [root, scopeCount_empty]
      subst isRoot
      exact List.Pairwise.nil
    · rw [entriesOf_of_scopeCount_le (Nat.le_of_not_lt present)]
      exact List.Pairwise.nil
  entries_perm := List.Perm.refl _

namespace WellFormed

variable {t : ScopeTable}

/-- Opening a scope below a scope that is there keeps the invariant. -/
theorem addChild (wf : t.WellFormed) {p : ScopeId} (present : p.index < t.scopeCount) :
    (t.addChild p).1.WellFormed where
  root_present := by
    rw [scopeCount_addChild]
    exact Nat.succ_pos _
  parent_eq_none_iff := by
    intro s there
    rw [scopeCount_addChild] at there
    rw [parent_addChild]
    by_cases isNew : s.index = t.scopeCount
    · have notRoot : s ≠ root := fun same => by
        rw [same] at isNew
        exact Nat.ne_of_lt wf.root_present isNew
      simp [isNew, notRoot]
    · rw [if_neg isNew]
      exact wf.parent_eq_none_iff s (by omega)
  parent_lt := by
    intro s q isParent
    rw [parent_addChild] at isParent
    split at isParent
    · rename_i isNew
      cases isParent
      rw [isNew]
      exact present
    · exact wf.parent_lt s q isParent
  children_eq := by
    intro q
    rw [children_addChild t present, scopeIds_addChild, List.filter_append]
    have old : t.scopeIds.filter ((t.addChild p).1.parent · = some q) =
        t.scopeIds.filter (t.parent · = some q) := by
      apply List.filter_congr
      intro s member
      rw [parent_addChild, if_neg (Nat.ne_of_lt (mem_scopeIds.1 member))]
    rw [old, ← wf.children_eq]
    by_cases same : q = p
    · subst same
      simp [parent_addChild]
    · simp [parent_addChild, same, Ne.symm same]
  names_nodup := by
    intro s
    rw [bindingsOf_addChild]
    exact wf.names_nodup s
  entries_increasing := by
    intro s
    rw [entriesOf_addChild]
    exact wf.entries_increasing s
  entries_perm := by
    have newEmpty : t.entriesOf ⟨t.scopeCount⟩ = [] := entriesOf_of_scopeCount_le (Nat.le_refl _)
    rw [scopeIds_addChild, List.flatMap_append, List.flatMap_singleton, entriesOf_addChild,
      newEmpty, List.append_nil]
    have same : t.scopeIds.flatMap (t.addChild p).1.entriesOf = t.scopeIds.flatMap t.entriesOf :=
      List.flatMap_congr fun s _ => entriesOf_addChild t p s
    rw [same]
    exact wf.entries_perm

/-- A successful define in a scope that is there keeps the invariant. -/
theorem define (wf : t.WellFormed) {t' : ScopeTable} {s : ScopeId} {name : String} {x : Entry}
    {id : EntryId} (defined : t.define s name x = .ok (t', id)) (present : s.index < t.scopeCount) :
    t'.WellFormed where
  root_present := by
    rw [scopeCount_of_define defined]
    exact wf.root_present
  parent_eq_none_iff := by
    intro s' there
    rw [scopeCount_of_define defined] at there
    rw [parent_of_define defined]
    exact wf.parent_eq_none_iff s' there
  parent_lt := by
    intro s' p isParent
    rw [parent_of_define defined] at isParent
    exact wf.parent_lt s' p isParent
  children_eq := by
    intro p
    rw [children_of_define defined, scopeIds_of_define defined, wf.children_eq]
    exact List.filter_congr fun s' _ => by rw [parent_of_define defined]
  names_nodup := by
    intro s'
    rw [bindingsOf_of_define defined]
    split
    · rename_i here
      obtain ⟨rfl, -⟩ := here
      have fresh := (define_eq_ok defined).1
      rw [lookupLocal_eq, List.lookup_eq_none_iff] at fresh
      rw [List.map_append, List.nodup_append]
      refine ⟨wf.names_nodup s', by simp, ?_⟩
      intro a member b isName same
      obtain ⟨⟨a', e⟩, bound, rfl⟩ := List.mem_map.1 member
      have named : b = name := by simpa using isName
      have differ := fresh (a', e) bound
      rw [named] at same
      subst same
      simp at differ
    · exact wf.names_nodup s'
  entries_increasing := by
    intro s'
    rw [entriesOf_eq, bindingsOf_of_define defined]
    split
    · rw [List.map_append, List.map_append, ← entriesOf_eq, List.pairwise_append]
      refine ⟨wf.entries_increasing s', by simp, ?_⟩
      intro a member b isNew
      obtain ⟨e, inScope, rfl⟩ := List.mem_map.1 member
      rw [(define_eq_ok defined).2.1] at isNew
      simp only [List.map_cons, List.map_nil, List.mem_singleton] at isNew
      rw [isNew]
      exact wf.index_lt_of_mem_entriesOf inScope
    · rw [← entriesOf_eq]
      exact wf.entries_increasing s'
  entries_perm := by
    have grown : t.scopeIds.flatMap t'.entriesOf =
        t.scopeIds.flatMap fun s' => if s' = s then t.entriesOf s' ++ [id] else t.entriesOf s' := by
      apply List.flatMap_congr
      intro s' _
      rw [entriesOf_eq, bindingsOf_of_define defined, entriesOf_eq]
      by_cases same : s' = s
      · simp [same, present]
      · simp [same]
    rw [scopeIds_of_define defined, grown, entryIds_of_define defined]
    exact (flatMap_append_at_perm id (scopeIds_nodup t) (mem_scopeIds.2 present)).trans
      (wf.entries_perm.append_right _)

/-- Setting an offset keeps the invariant. -/
theorem setOffset (wf : t.WellFormed) {t' : ScopeTable} {e : EntryId} {offset : Option Nat}
    (set : t.setOffset e offset = some t') : t'.WellFormed := by
  obtain ⟨scopes, count⟩ := setOffset_scopes set
  have sameCount : t'.scopeCount = t.scopeCount := by rw [scopeCount, scopes, scopeCount]
  have sameScopeIds : t'.scopeIds = t.scopeIds := by rw [scopeIds, sameCount, scopeIds]
  have sameEntries : t'.entriesOf = t.entriesOf := by
    funext s
    rw [entriesOf_eq, entriesOf_eq, bindingsOf_congr scopes]
  refine ⟨?_, ?_, ?_, ?_, ?_, ?_, ?_⟩
  · rw [sameCount]
    exact wf.root_present
  · rw [sameCount, parent_congr scopes]
    exact wf.parent_eq_none_iff
  · rw [parent_congr scopes]
    exact wf.parent_lt
  · rw [children_congr scopes, parent_congr scopes, sameScopeIds]
    exact wf.children_eq
  · rw [bindingsOf_congr scopes]
    exact wf.names_nodup
  · rw [sameEntries]
    exact wf.entries_increasing
  · rw [sameScopeIds, sameEntries, entryIds, count]
    exact wf.entries_perm

/-- Every operation on what the table has issued keeps the invariant. -/
theorem apply (wf : t.WellFormed) {op : TableOp} (issued : op.Issued t) : (op.apply t).WellFormed := by
  cases op with
  | addChild p => exact wf.addChild issued
  | define s name x =>
      simp only [TableOp.apply]
      split
      · rename_i t' id defined
        exact wf.define defined issued
      · exact wf
  | setOffset e offset =>
      simp only [TableOp.apply]
      cases set : t.setOffset e offset with
      | none => exact wf
      | some t' => exact wf.setOffset set

/-- A run of operations on what the table has issued keeps the invariant. -/
theorem run (wf : t.WellFormed) {ops : List TableOp} (issued : t.IssuedRun ops) :
    (t.run ops).WellFormed := by
  induction ops generalizing t with
  | nil => exact wf
  | cons op ops ih => exact ih (wf.apply issued.1) issued.2

end WellFormed

theorem Reachable.wellFormed {t : ScopeTable} (reach : t.Reachable) : t.WellFormed := by
  obtain ⟨ops, issued, rfl⟩ := reach
  exact empty_wellFormed.run issued

/--
The answers of a well-formed table: beyond the invariant itself, the way from every scope to the
root ends there, the entries of a scope are exactly those its names stand for and no two of its
names stand for one entry, every entry has exactly one scope, and a new scope or entry is
numbered by the count before it.
-/
structure Coherent (t : ScopeTable) : Prop extends t.WellFormed where
  reaches_root : ∀ s : ScopeId, s.index < t.scopeCount →
    ∃ n, t.ancestor n s = some root ∧ t.ancestor (n + 1) s = none
  mem_entriesOf_iff : ∀ (s : ScopeId) (e : EntryId),
    e ∈ t.entriesOf s ↔ ∃ name, t.lookupLocal s name = some e
  name_unique : ∀ (s : ScopeId) (name₁ name₂ : String) (e : EntryId),
    t.lookupLocal s name₁ = some e → t.lookupLocal s name₂ = some e → name₁ = name₂
  home_unique : ∀ e : EntryId, e.index < t.entryCount →
    ∃! s : ScopeId, s.index < t.scopeCount ∧ e ∈ t.entriesOf s
  addChild_id : ∀ p : ScopeId, (t.addChild p).2 = ⟨t.scopeCount⟩
  define_id : ∀ (s : ScopeId) (name : String) (x : Entry) (t' : ScopeTable) (id : EntryId),
    t.define s name x = .ok (t', id) → id = ⟨t.entryCount⟩

theorem coherent_of_wellFormed {t : ScopeTable} (wf : t.WellFormed) : t.Coherent where
  toWellFormed := wf
  reaches_root := wf.ancestor_reaches_root
  mem_entriesOf_iff := wf.mem_entriesOf_iff
  name_unique := fun _ _ _ _ found₁ found₂ => wf.name_unique found₁ found₂
  home_unique := wf.home_unique
  addChild_id := addChild_id t
  define_id := fun _ _ _ _ _ defined => (define_eq_ok defined).2.1

/--
Every table that a run of operations on issued scopes and entries makes from the empty table is
coherent: the root is the only scope without a parent, every other parent is numbered below its
child and the way from each scope ends at the root; the children of a scope are the scopes whose
parent it is, each once, in increasing order; each scope lists its entries in increasing order,
they are exactly the entries its names stand for, and distinct names stand for distinct entries;
the entries of all scopes together are every entry once; and a new scope or entry is numbered by
the count before it.
-/
theorem Reachable.coherent {t : ScopeTable} (reach : t.Reachable) : t.Coherent :=
  coherent_of_wellFormed reach.wellFormed

/-- A run that opens a scope, shadows a name there, and sets the offset of a variable. -/
def shadowingRun : List TableOp :=
  [.define root "int" (.type ⟨"int", 4⟩), .addChild root,
    .define root "a" (.var { name := "a", ty := ⟨0⟩, kind := .global }),
    .define ⟨1⟩ "a" (.var { name := "a", ty := ⟨0⟩, kind := .blockLocal }),
    .define ⟨1⟩ "a" (.type ⟨"a", 1⟩), .setOffset ⟨2⟩ (some 8), .addChild ⟨1⟩]

theorem Reachable.shadowingRun_coherent :
    (empty.run shadowingRun).Reachable ∧ (empty.run shadowingRun).Coherent :=
  ⟨⟨shadowingRun, by decide, rfl⟩, Reachable.coherent ⟨shadowingRun, by decide, rfl⟩⟩

end ScopeTable

end ImpFront
