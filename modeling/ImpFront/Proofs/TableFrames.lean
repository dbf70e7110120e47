import ImpFront.Proofs.TableInvariant

/-!
# What each operation of the scope table changes

A lookup walks from a scope towards the root (`ScopeTable.ancestor`) and stops at the first
scope that binds the name. `ScopeTable.VisibleFrom t s a name` says that a binding of `name` in
`a` is where such a walk from `s` stops if `a` binds it: `a` is on the way from `s`, and no scope
before it there binds the name. Since every parent is numbered below its child, the walk of the
table's own lookup never stops short of the root, and a lookup finds the entry of the first
binding on the way, or fails when no scope on the way binds the name
(`ScopeTable.WellFormed.resolve_eq_some_iff`).

Each operation is then described by what it changes (`ScopeTable.OperationsExact`). A define is
refused exactly for a name its scope binds already; otherwise it binds a fresh entry, and the
lookups it changes are exactly those of its name from the scopes whose walk reaches its scope
before any other binding (`ScopeTable.WellFormed.resolve_define`). Opening a scope appends it to
its parent's children and changes no answer of a scope already there; setting an offset changes
that variable's entry and nothing else (`ScopeTable.SameAnswers`).
-/

namespace ImpFront

namespace ScopeTable

/--
A binding of `name` in `a` is where a lookup from `s` stops: `a` is on the way from `s` to the root,
and no scope before it there binds the name.
-/
def VisibleFrom (t : ScopeTable) (s a : ScopeId) (name : String) : Prop :=
  ∃ k, t.ancestor k s = some a ∧ ∀ j < k, ∀ b, t.ancestor j s = some b → t.lookupLocal b name = none

/-- The scope `s` answers the same in `t'` as in `t`: its parent, its entries and its names. -/
structure SameAnswers (t t' : ScopeTable) (s : ScopeId) : Prop where
  parent : t'.parent s = t.parent s
  entriesOf : t'.entriesOf s = t.entriesOf s
  lookupLocal : ∀ name, t'.lookupLocal s name = t.lookupLocal s name
  lookup : ∀ name, t'.lookup s name = t.lookup s name

/-! ## The way to the root -/

variable {t : ScopeTable} {s p a : ScopeId} {name : String}

theorem ancestor_succ_of_parent (isParent : t.parent s = some p) (k : Nat) :
    t.ancestor (k + 1) s = t.ancestor k p := by
  rw [ancestor_succ, isParent, Option.bind_some]

theorem ancestor_succ_of_parent_none (noParent : t.parent s = none) (k : Nat) :
    t.ancestor (k + 1) s = none := by
  rw [ancestor_succ, noParent, Option.bind_none]

theorem visibleFrom_self (t : ScopeTable) (s : ScopeId) (name : String) : t.VisibleFrom s s name :=
  ⟨0, rfl, fun _ before => absurd before (Nat.not_lt_zero _)⟩

/-- Past a scope that does not bind the name, the walk goes on from its parent. -/
theorem visibleFrom_of_parent (notLocal : t.lookupLocal s name = none)
    (isParent : t.parent s = some p) : t.VisibleFrom s a name ↔ a = s ∨ t.VisibleFrom p a name := by
  constructor
  · rintro ⟨k, reaches, earlier⟩
    cases k with
    | zero => exact Or.inl (Option.some.inj reaches).symm
    | succ k =>
        rw [ancestor_succ_of_parent isParent] at reaches
        refine Or.inr ⟨k, reaches, fun j before b atJ => earlier (j + 1) (by omega) b ?_⟩
        rw [ancestor_succ_of_parent isParent]
        exact atJ
  · rintro (rfl | ⟨k, reaches, earlier⟩)
    · exact visibleFrom_self t a name
    · refine ⟨k + 1, by rw [ancestor_succ_of_parent isParent]; exact reaches, ?_⟩
      intro j before b atJ
      cases j with
      | zero =>
          cases atJ
          exact notLocal
      | succ j =>
          rw [ancestor_succ_of_parent isParent] at atJ
          exact earlier j (by omega) b atJ

/-- A scope that binds the name ends the walk. -/
theorem visibleFrom_of_bound {e : EntryId} (bound : t.lookupLocal s name = some e) :
    t.VisibleFrom s a name ↔ a = s := by
  constructor
  · rintro ⟨k, reaches, earlier⟩
    cases k with
    | zero => exact (Option.some.inj reaches).symm
    | succ k =>
        rw [earlier 0 (Nat.succ_pos k) s rfl] at bound
        cases bound
  · rintro rfl
    exact visibleFrom_self t a name

/-- The root, or any scope without a parent, ends the walk. -/
theorem visibleFrom_of_parent_none (noParent : t.parent s = none) :
    t.VisibleFrom s a name ↔ a = s := by
  constructor
  · rintro ⟨k, reaches, -⟩
    cases k with
    | zero => exact (Option.some.inj reaches).symm
    | succ k =>
        rw [ancestor_succ_of_parent_none noParent] at reaches
        cases reaches
  · rintro rfl
    exact visibleFrom_self t a name

/-! ## Lookups follow the way to the root -/

theorem lookup_eq_ok_iff {t : ScopeTable} {s : ScopeId} {name : String} {e : EntryId} :
    t.lookup s name = .ok e ↔ t.resolve name s = some e := by
  unfold lookup
  cases t.resolve name s <;> simp

theorem lookup_eq_error_iff {t : ScopeTable} {s : ScopeId} {name : String} {err : NameError} :
    t.lookup s name = .error err ↔ t.resolve name s = none ∧ err = .undefined name := by
  unfold lookup
  cases t.resolve name s <;> simp [eq_comm]

/-- Two tables whose scopes agree look names up alike. -/
theorem lookup_congr {t t' : ScopeTable} {s : ScopeId}
    (same : ∀ s' : ScopeId, s'.index ≤ s.index →
      t'.bindingsOf s' = t.bindingsOf s' ∧ t'.parent s' = t.parent s') (name : String) :
    t'.lookup s name = t.lookup s name := by
  have resolved : t'.resolve name s = t.resolve name s := by
    rw [← findIn_bindingsOf, ← findIn_bindingsOf]
    exact findIn_congr s fun s' below => same s' below
  unfold lookup
  rw [resolved]

namespace WellFormed

variable {t : ScopeTable} (wf : t.WellFormed)
include wf

/-- A lookup finds the entry of the first binding on the way to the root. -/
theorem resolve_eq_some_iff (name : String) (s : ScopeId) (e : EntryId) :
    t.resolve name s = some e ↔ ∃ a, t.VisibleFrom s a name ∧ t.lookupLocal a name = some e := by
  fun_induction t.resolve name s with
  | case1 s e' bound => simp only [visibleFrom_of_bound bound, exists_eq_left, bound]
  | case2 s notLocal p isParent below ih =>
      rw [ih]
      simp only [visibleFrom_of_parent notLocal isParent]
      constructor
      · rintro ⟨a, visible, found⟩
        exact ⟨a, Or.inr visible, found⟩
      · rintro ⟨a, rfl | visible, found⟩
        · rw [notLocal] at found
          cases found
        · exact ⟨a, visible, found⟩
  | case3 s notLocal p isParent notBelow => exact absurd (wf.parent_lt s p isParent) notBelow
  | case4 s notLocal noParent =>
      simp only [visibleFrom_of_parent_none noParent, exists_eq_left, notLocal, reduceCtorEq]

/-- A lookup fails exactly when no scope on the way to the root binds the name. -/
theorem resolve_eq_none_iff (name : String) (s : ScopeId) :
    t.resolve name s = none ↔ ∀ k a, t.ancestor k s = some a → t.lookupLocal a name = none := by
  fun_induction t.resolve name s with
  | case1 s e bound =>
      constructor
      · intro found
        cases found
      · intro unbound
        rw [unbound 0 s rfl] at bound
        cases bound
  | case2 s notLocal p isParent below ih =>
      rw [ih]
      constructor
      · intro unbound k a reaches
        cases k with
        | zero =>
            cases reaches
            exact notLocal
        | succ k =>
            rw [ancestor_succ_of_parent isParent] at reaches
            exact unbound k a reaches
      · intro unbound k a reaches
        exact unbound (k + 1) a (by rw [ancestor_succ_of_parent isParent]; exact reaches)
  | case3 s notLocal p isParent notBelow => exact absurd (wf.parent_lt s p isParent) notBelow
  | case4 s notLocal noParent =>
      simp only [true_iff]
      intro k a reaches
      cases k with
      | zero =>
          cases reaches
          exact notLocal
      | succ k =>
          rw [ancestor_succ_of_parent_none noParent] at reaches
          cases reaches

open Classical in
/--
After a define of `name` in `s`, a lookup finds the new entry exactly where a binding in `s` is
visible, and finds what it found before everywhere else.
-/
theorem resolve_define {t' : ScopeTable} {s : ScopeId} {x : Entry} {id : EntryId}
    (defined : t.define s name x = .ok (t', id)) (present : s.index < t.scopeCount) (m : String)
    (u : ScopeId) :
    t'.resolve m u = if m = name ∧ t.VisibleFrom u s name then some id else t.resolve m u := by
  have fresh := (define_eq_ok defined).1
  have local' := lookupLocal_define defined present
  fun_induction t.resolve m u with
  | case1 u e bound =>
      -- `u` binds `m` already, so it is not the scope of the new binding, and it hides it
      have notNew : ¬(u = s ∧ m = name) := by
        rintro ⟨rfl, rfl⟩
        rw [fresh] at bound
        cases bound
      have hidden : ¬(m = name ∧ t.VisibleFrom u s name) := by
        rintro ⟨rfl, visible⟩
        exact notNew ⟨((visibleFrom_of_bound bound).1 visible).symm, rfl⟩
      rw [resolve.eq_1 t' m u, local' u m, if_neg notNew, bound, if_neg hidden]
  | case2 u notLocal q isParent below ih =>
      by_cases isNew : u = s ∧ m = name
      · obtain ⟨rfl, rfl⟩ := isNew
        rw [resolve.eq_1 t' m u, local' u m, if_pos ⟨rfl, rfl⟩,
          if_pos ⟨rfl, visibleFrom_self t u m⟩]
      · have sameParent : t'.parent u = some q := by rw [parent_of_define defined, isParent]
        rw [resolve.eq_1 t' m u, local' u m, if_neg isNew, notLocal]
        simp only [sameParent, if_pos below]
        rw [ih]
        -- past `u`, which is not `s` and does not bind the name, the walk goes on from `q`
        have sameSight : (m = name ∧ t.VisibleFrom q s name) ↔ (m = name ∧ t.VisibleFrom u s name) := by
          constructor
          · rintro ⟨rfl, visible⟩
            exact ⟨rfl, (visibleFrom_of_parent notLocal isParent).2 (Or.inr visible)⟩
          · rintro ⟨rfl, visible⟩
            refine ⟨rfl, ((visibleFrom_of_parent notLocal isParent).1 visible).resolve_left ?_⟩
            rintro rfl
            exact isNew ⟨rfl, rfl⟩
        simp only [sameSight]
  | case3 u notLocal q isParent notBelow => exact absurd (wf.parent_lt u q isParent) notBelow
  | case4 u notLocal noParent =>
      by_cases isNew : u = s ∧ m = name
      · obtain ⟨rfl, rfl⟩ := isNew
        rw [resolve.eq_1 t' m u, local' u m, if_pos ⟨rfl, rfl⟩,
          if_pos ⟨rfl, visibleFrom_self t u m⟩]
      · have noParent' : t'.parent u = none := by rw [parent_of_define defined, noParent]
        have unseen : ¬(m = name ∧ t.VisibleFrom u s name) := by
          rintro ⟨rfl, visible⟩
          exact isNew ⟨((visibleFrom_of_parent_none noParent).1 visible).symm, rfl⟩
        rw [resolve.eq_1 t' m u, local' u m, if_neg isNew, notLocal, if_neg unseen]
        simp only [noParent']

end WellFormed

/-! ## Opening a scope and setting an offset -/

/-- Opening a scope changes no answer of a scope that is there already. -/
theorem addChild_sameAnswers (t : ScopeTable) (p : ScopeId) {s : ScopeId}
    (present : s.index < t.scopeCount) : t.SameAnswers (t.addChild p).1 s := by
  have sameParent : ∀ s' : ScopeId, s'.index ≤ s.index → (t.addChild p).1.parent s' = t.parent s' :=
    fun s' below => by rw [parent_addChild, if_neg (by omega)]
  refine ⟨sameParent s (Nat.le_refl _), entriesOf_addChild t p s, ?_, ?_⟩
  · intro name
    rw [lookupLocal_eq, lookupLocal_eq, bindingsOf_addChild]
  · exact lookup_congr fun s' below => ⟨bindingsOf_addChild t p s', sameParent s' below⟩

theorem setOffset_eq_some_iff {t t' : ScopeTable} {e : EntryId} {offset : Option Nat} :
    t.setOffset e offset = some t' ↔ ∃ v, t.entry? e = some (.var v) ∧
      t' = { t with entries := t.entries.set! e.index (.var { v with offset }) } := by
  unfold setOffset
  split
  · rename_i v isVar
    simp [isVar, eq_comm]
  · rename_i notVar
    simp only [reduceCtorEq, false_iff, not_exists, not_and]
    intro v isVar
    exact absurd isVar (notVar v)

/-- An offset is set only on a variable entry. -/
theorem setOffset_eq_none_iff {t : ScopeTable} {e : EntryId} {offset : Option Nat} :
    t.setOffset e offset = none ↔ ∀ v, t.entry? e ≠ some (.var v) := by
  constructor
  · intro refused v isVar
    obtain ⟨t', set⟩ : ∃ t', t.setOffset e offset = some t' :=
      ⟨_, setOffset_eq_some_iff.2 ⟨v, isVar, rfl⟩⟩
    rw [refused] at set
    cases set
  · intro notVar
    cases set : t.setOffset e offset with
    | none => rfl
    | some t' =>
        obtain ⟨v, isVar, -⟩ := setOffset_eq_some_iff.1 set
        exact absurd isVar (notVar v)

/-- Setting an offset changes that variable's entry, and no other. -/
theorem entry?_setOffset {t t' : ScopeTable} {e : EntryId} {offset : Option Nat} {v : VarInfo}
    (set : t.setOffset e offset = some t') (isVar : t.entry? e = some (.var v)) (e' : EntryId) :
    t'.entry? e' = if e' = e then some (.var { v with offset }) else t.entry? e' := by
  obtain ⟨v', isVar', rfl⟩ := setOffset_eq_some_iff.1 set
  rw [isVar] at isVar'
  cases isVar'
  have present : e.index < t.entries.size := by
    unfold entry? at isVar
    exact (Array.getElem?_eq_some_iff.1 isVar).1
  unfold entry?
  rw [Array.set!_eq_setIfInBounds, Array.getElem?_setIfInBounds]
  by_cases same : e' = e
  · subst same
    simp [present]
  · have index : e.index ≠ e'.index := fun equal => same (by cases e; cases e'; simp_all)
    simp [same, index]

/-- Setting an offset changes no answer of any scope. -/
theorem setOffset_sameAnswers {t t' : ScopeTable} {e : EntryId} {offset : Option Nat}
    (set : t.setOffset e offset = some t') (s : ScopeId) : t.SameAnswers t' s := by
  have scopes := (setOffset_scopes set).1
  refine ⟨by rw [parent_congr scopes], by rw [entriesOf_eq, entriesOf_eq, bindingsOf_congr scopes],
    fun name => by rw [lookupLocal_congr scopes], ?_⟩
  exact lookup_congr fun s' _ => ⟨by rw [bindingsOf_congr scopes], by rw [parent_congr scopes]⟩

/-! ## The operations of a well-formed table -/

open Classical in
/--
What the lookups and the operations of the table do, and that they do nothing else: a lookup
finds the first binding on the way to the root, and fails exactly when there is none; a define is
refused exactly for a name its scope binds, and then changes nothing, and otherwise binds a fresh
entry that the lookups of its name find exactly from the scopes that see its scope; opening a
scope appends it to its parent's children and changes no answer of a scope already there;
setting an offset is refused for any entry but a variable, and otherwise changes that variable's
offset and nothing else.
-/
structure OperationsExact (t : ScopeTable) : Prop where
  lookup_ok : ∀ (s : ScopeId) (name : String) (e : EntryId),
    t.lookup s name = .ok e ↔ ∃ a, t.VisibleFrom s a name ∧ t.lookupLocal a name = some e
  lookup_undefined : ∀ (s : ScopeId) (name : String),
    t.lookup s name = .error (.undefined name) ↔
      ∀ k a, t.ancestor k s = some a → t.lookupLocal a name = none
  define_refused : ∀ (s : ScopeId) (name : String) (x : Entry), s.index < t.scopeCount →
    (t.define s name x = .error (.duplicate name) ↔ (t.lookupLocal s name).isSome) ∧
      ((t.lookupLocal s name).isSome → (TableOp.define s name x).apply t = t)
  define_fresh : ∀ (s : ScopeId) (name : String) (x : Entry), s.index < t.scopeCount →
    t.lookupLocal s name = none →
    ∃ t' id, t.define s name x = .ok (t', id) ∧ t.entry? id = none ∧ t'.entry? id = some x ∧
      (∀ e, e ≠ id → t'.entry? e = t.entry? e) ∧
      ∀ (u : ScopeId) (m : String),
        t'.lookup u m = if m = name ∧ t.VisibleFrom u s name then .ok id else t.lookup u m
  addChild : ∀ p : ScopeId, p.index < t.scopeCount → ∀ s : ScopeId, s.index < t.scopeCount →
    t.SameAnswers (t.addChild p).1 s ∧
      (t.addChild p).1.children s = if s = p then t.children s ++ [(t.addChild p).2] else t.children s
  setOffset_refused : ∀ (e : EntryId) (offset : Option Nat),
    (t.setOffset e offset = none ↔ ∀ v, t.entry? e ≠ some (.var v)) ∧
      (t.setOffset e offset = none → (TableOp.setOffset e offset).apply t = t)
  setOffset_done : ∀ (e : EntryId) (offset : Option Nat) (t' : ScopeTable),
    t.setOffset e offset = some t' →
    (∃ v, t.entry? e = some (.var v) ∧ t'.entry? e = some (.var { v with offset })) ∧
      (∀ e', e' ≠ e → t'.entry? e' = t.entry? e') ∧
      ∀ s, t.SameAnswers t' s ∧ t'.children s = t.children s

theorem define_eq_duplicate_iff {t : ScopeTable} {s : ScopeId} {name : String} {x : Entry} :
    t.define s name x = .error (.duplicate name) ↔ (t.lookupLocal s name).isSome := by
  unfold define
  split <;> simp_all

namespace WellFormed

variable {t : ScopeTable} (wf : t.WellFormed)
include wf

open Classical in
theorem define_fresh {s : ScopeId} {name : String} (x : Entry) (present : s.index < t.scopeCount)
    (fresh : t.lookupLocal s name = none) :
    ∃ t' id, t.define s name x = .ok (t', id) ∧ t.entry? id = none ∧ t'.entry? id = some x ∧
      (∀ e, e ≠ id → t'.entry? e = t.entry? e) ∧
      ∀ (u : ScopeId) (m : String),
        t'.lookup u m = if m = name ∧ t.VisibleFrom u s name then .ok id else t.lookup u m := by
  have notBound : ¬(t.lookupLocal s name).isSome := by simp [fresh]
  obtain ⟨t', id, defined⟩ : ∃ t' id, t.define s name x = .ok (t', id) := by
    unfold ScopeTable.define
    simp [notBound]
  refine ⟨t', id, defined, ?_, by simp [entry?_of_define defined], ?_, ?_⟩
  · unfold entry?
    rw [(define_eq_ok defined).2.1]
    exact Array.getElem?_eq_none (Nat.le_refl _)
  · intro e other
    rw [entry?_of_define defined, if_neg other]
  · intro u m
    have resolved := wf.resolve_define defined present m u
    unfold lookup
    by_cases seen : m = name ∧ t.VisibleFrom u s name
    · rw [resolved, if_pos seen, if_pos seen]
    · rw [resolved, if_neg seen, if_neg seen]

theorem operations_exact : t.OperationsExact where
  lookup_ok s name e := by rw [lookup_eq_ok_iff, wf.resolve_eq_some_iff]
  lookup_undefined s name := by simp [lookup_eq_error_iff, wf.resolve_eq_none_iff]
  define_refused s name x _ := by
    refine ⟨define_eq_duplicate_iff, fun bound => ?_⟩
    simp only [TableOp.apply, ScopeTable.define, bound, if_true]
  define_fresh s name x present fresh := wf.define_fresh x present fresh
  addChild p present s there := ⟨addChild_sameAnswers t p there, by
    rw [children_addChild t present]
    rfl⟩
  setOffset_refused e offset := by
    refine ⟨setOffset_eq_none_iff, fun refused => ?_⟩
    simp only [TableOp.apply, refused, Option.getD_none]
  setOffset_done e offset t' set := by
    obtain ⟨v, isVar, -⟩ := setOffset_eq_some_iff.1 set
    refine ⟨⟨v, isVar, by simp [entry?_setOffset set isVar]⟩, fun e' other => ?_, fun s => ?_⟩
    · rw [entry?_setOffset set isVar, if_neg other]
    · exact ⟨setOffset_sameAnswers set s, by rw [children_congr (setOffset_scopes set).1]⟩

end WellFormed

/-- Every table reachable from the empty table by operations on what it has issued. -/
theorem Reachable.operationsExact {t : ScopeTable} (reach : t.Reachable) : t.OperationsExact :=
  reach.wellFormed.operations_exact

theorem Reachable.shadowingRun_operationsExact :
    (empty.run shadowingRun).Reachable ∧ (empty.run shadowingRun).OperationsExact :=
  ⟨⟨shadowingRun, by decide, rfl⟩, Reachable.operationsExact ⟨shadowingRun, by decide, rfl⟩⟩

end ScopeTable

end ImpFront
