import ImpFront.Proofs.Prefix.Statements
import ImpFront.Proofs.EntrySites

/-!
# Reading is single-pass

The reader reads declarations one after another and never looks back: when the first `k`
declarations of a reading of the tokens `P` then `Q` are read from exactly the tokens of `P`,
reading `P` alone gives the same `k` declarations. Its table is the table
the longer reading had after them, and the final table of the longer reading extends it without
touching it: every later scope and entry is numbered after it, parents never change, and a scope
binds each name once (`ScopeTable.RestrictionOf`).

`Parse.declarationsUpTo` is the declarations loop stopped after `k` declarations; the loop is
those declarations followed by the loop from where they end (`declarations_eq_of_upTo`). The
declarations themselves are transported by the lemmas on cuts, and the table by the facts on
openings and definitions of `ScopeTree` and `Definitions`.
-/

namespace ImpFront

namespace Parse

/--
The declarations loop stopped after at most `k` declarations: the first `k` declarations of the
input, or all of them when it ends before, with the context and the cursor after them.
-/
def declarationsUpTo : Nat → Nat → Context → Cursor →
    Except Failure (List Decl × Context × Cursor)
  | 0, _, ctx, c => pure ([], ctx, c)
  | k + 1, index, ctx, c =>
    if c.look.kind = .eof then pure ([], ctx, c)
    else do
      let ⟨(d, ctx1), c1, _⟩ ← declaration index ctx c
      let (rest, ctx2, c2) ← declarationsUpTo k (index + 1) ctx1 c1
      pure (d :: rest, ctx2, c2)

variable {ctx : Context} {c : Cursor}

theorem declarationsUpTo_succ_eq_ok {k index : Nat} {res : List Decl × Context × Cursor}
    (parsed : declarationsUpTo (k + 1) index ctx c = .ok res) :
    (c.look.kind = .eof ∧ res = ([], ctx, c)) ∨
      (c.look.kind ≠ .eof ∧ ∃ (d : Read c (Decl × Context)) (rest : List Decl × Context × Cursor),
        declaration index ctx c = .ok d ∧ declarationsUpTo k (index + 1) d.value.2 d.cursor = .ok rest ∧
        res = (d.value.1 :: rest.1, rest.2)) := by
  rw [declarationsUpTo] at parsed
  split at parsed
  · rename_i isEnd
    cases parsed
    exact Or.inl ⟨isEnd, rfl⟩
  · rename_i notEnd
    rcases Except.ok_of_bind_eq_ok parsed with ⟨⟨⟨d, ctx1⟩, c1, h1⟩, declRead, parsed⟩
    rcases Except.ok_of_bind_eq_ok parsed with ⟨⟨rest, ctx2, c2⟩, restRead, parsed⟩
    cases parsed
    exact Or.inr ⟨notEnd, _, _, declRead, restRead, rfl⟩

/-- The whole loop is its first `k` declarations followed by the loop from where they end. -/
theorem declarations_eq_of_upTo : ∀ k index ctx c {ds : List Decl} {ctx1 : Context} {c1 : Cursor},
    declarationsUpTo k index ctx c = .ok (ds, ctx1, c1) →
    declarations index ctx c =
      (declarations (index + ds.length) ctx1 c1).map fun rest => (ds ++ rest.1, rest.2) := by
  intro k
  induction k with
  | zero =>
      intro index ctx c ds ctx1 c1 parsed
      cases parsed
      cases declarations index ctx c <;> rfl
  | succ k ih =>
      intro index ctx c ds ctx1 c1 parsed
      rcases declarationsUpTo_succ_eq_ok parsed with ⟨-, resEq⟩ | ⟨notEnd, d, rest, declRead, restRead, resEq⟩
      · cases resEq
        cases declarations index ctx c <;> rfl
      · obtain ⟨rest, ctx2, c2⟩ := rest
        simp only [Prod.mk.injEq] at resEq
        obtain ⟨rfl, rfl, rfl⟩ := resEq
        have later := ih (index + 1) d.value.2 d.cursor restRead
        rw [show index + (d.value.1 :: rest).length = index + 1 + rest.length by
          simp only [List.length_cons]; omega]
        conv_lhs => rw [declarations, if_neg notEnd]
        simp only [bind, Except.bind, declRead, later]
        cases declarations (index + 1 + rest.length) ctx1 c1 <;> rfl

/-- The loop stopped after `k` declarations reads as many, unless the input ends first. -/
theorem declarationsUpTo_length : ∀ k index ctx c {res : List Decl × Context × Cursor},
    declarationsUpTo k index ctx c = .ok res →
    res.1.length = k ∨ (res.1.length < k ∧ res.2.2.look.kind = .eof) := by
  intro k
  induction k with
  | zero =>
      intro index ctx c res parsed
      cases parsed
      exact Or.inl rfl
  | succ k ih =>
      intro index ctx c res parsed
      rcases declarationsUpTo_succ_eq_ok parsed with ⟨isEnd, rfl⟩ | ⟨-, d, rest, -, restRead, rfl⟩
      · exact Or.inr ⟨Nat.succ_pos k, isEnd⟩
      · rcases ih (index + 1) d.value.2 d.cursor restRead with counted | ⟨fewer, atEnd⟩
        · exact Or.inl (by simp [counted])
        · exact Or.inr ⟨by simp only [List.length_cons]; omega, atEnd⟩

theorem declarationsUpTo_readsOn {f : Feed} : ∀ k index ctx (c : Cursor), c.On f →
    ReadsOn f (·.2.2) (declarationsUpTo k index ctx c) := by
  intro k
  induction k with
  | zero =>
      intro index ctx c on
      exact ReadsOn.pure on
  | succ k ih =>
      intro index ctx c on
      rw [declarationsUpTo]
      split
      · exact ReadsOn.pure on
      · refine ReadsOn.bind (declaration_readsOn on) ?_
        rintro ⟨⟨d, ctx1⟩, c1, h1⟩ on1
        refine ReadsOn.bind (ih (index + 1) ctx1 c1 on1) ?_
        rintro ⟨rest, ctx2, c2⟩ on2
        exact ReadsOn.pure on2

theorem declarationsUpTo_left_le : ∀ k index ctx c {res : List Decl × Context × Cursor},
    declarationsUpTo k index ctx c = .ok res → res.2.2.left ≤ c.left := by
  intro k
  induction k with
  | zero =>
      intro index ctx c res parsed
      cases parsed
      exact Nat.le_refl _
  | succ k ih =>
      intro index ctx c res parsed
      rcases declarationsUpTo_succ_eq_ok parsed with ⟨-, rfl⟩ | ⟨-, d, rest, -, restRead, rfl⟩
      · exact Nat.le_refl _
      · have later := ih (index + 1) d.value.2 d.cursor restRead
        exact Nat.le_trans later (Nat.le_of_lt d.lt)

variable {x : Cut}

/--
The first `k` declarations, when they end within the tokens of the part or at its end, are read
from the part too, to the same declarations and context.
-/
theorem declarationsUpTo_follows : ∀ k index ctx (c c' : Cursor), x.Abreast c c' →
    ∀ res, declarationsUpTo k index ctx c = .ok res → res.2.2.pulled ≤ x.taken.length + 1 →
    ∃ c1', declarationsUpTo k index ctx c' = .ok (res.1, res.2.1, c1') ∧ x.Abreast res.2.2 c1' := by
  intro k
  induction k with
  | zero =>
      intro index ctx c c' abreast res parsed bound
      cases parsed
      exact ⟨c', rfl, abreast⟩
  | succ k ih =>
      intro index ctx c c' abreast res parsed bound
      rcases declarationsUpTo_succ_eq_ok parsed with ⟨isEnd, rfl⟩ |
        ⟨notEnd, d, rest, declRead, restRead, rfl⟩
      · have isEnd' := abreast.look_eof_of_eof isEnd
        refine ⟨c', ?_, abreast⟩
        rw [declarationsUpTo, if_pos isEnd']
        rfl
      · -- the declaration ends no later than the loop does, so within the bound too
        have onD := (declaration_readsOn abreast.on).on_of_eq_ok declRead
        have onRest := (declarationsUpTo_readsOn k (index + 1) d.value.2 d.cursor onD).on_of_eq_ok
          restRead
        have boundRest : rest.2.2.pulled ≤ x.taken.length + 1 := bound
        have boundD := onD.pulled_le onRest (declarationsUpTo_left_le k _ _ _ restRead)
        have later := abreast.on.pulled_lt onD d.lt
        have insideC : x.Inside c := Cut.inside_of_pulled_le abreast.on (by omega)
        obtain ⟨⟨v1, d1, lt1⟩, small1, rfl, abreast1⟩ :=
          declaration_follows abreast d declRead (Nat.le_trans boundD boundRest)
        obtain ⟨c2', small2, abreast2⟩ := ih (index + 1) d.value.2 d.cursor d1 abreast1 rest
          restRead boundRest
        have notEnd' : ¬c'.look.kind = .eof := by rw [abreast.look_eq insideC]; exact notEnd
        refine ⟨c2', ?_, abreast2⟩
        rw [declarationsUpTo, if_neg notEnd']
        simp only [bind, Except.bind, small1, small2]
        rfl

end Parse

/-- Reads the first `k` declarations of a feed, after the built-in types, as a program does. -/
def Program.readUpTo (k : Nat) (f : Feed) : Except Failure (List Decl × Context × Cursor) := do
  let c ← Cursor.start f
  Parse.declarationsUpTo k 0 (Context.builtin c.look.loc) c

namespace ScopeTable

/--
`t` is `t'` cut back to the scopes and entries it has: each entry of `t` is the entry of `t'`
with its number, and each scope of `t` has in `t'` the same parent and, among the scopes and
entries numbered below the counts of `t`, the same children, bindings and entries.
-/
structure RestrictionOf (t t' : ScopeTable) : Prop where
  scopeCount_le : t.scopeCount ≤ t'.scopeCount
  entryCount_le : t.entryCount ≤ t'.entryCount
  entry_eq : ∀ e : EntryId, e.index < t.entryCount → t'.entry? e = t.entry? e
  parent_eq : ∀ s : ScopeId, s.index < t.scopeCount → t'.parent s = t.parent s
  children_eq : ∀ s : ScopeId, s.index < t.scopeCount →
    (t'.children s).filter (·.index < t.scopeCount) = t.children s
  lookupLocal_eq : ∀ (s : ScopeId) (name : String), s.index < t.scopeCount →
    (t'.lookupLocal s name).filter (·.index < t.entryCount) = t.lookupLocal s name
  entriesOf_eq : ∀ s : ScopeId, s.index < t.scopeCount →
    (t'.entriesOf s).filter (·.index < t.entryCount) = t.entriesOf s

section

variable {ι : Type} {number : ι → Nat} {count : ScopeTable → Nat}
  {listed : ScopeTable → ScopeId → List ι} {t t' : ScopeTable} {added : List (ι × ScopeId)}

/-- What a step adds is numbered on from the count before it, so the lists stay below the count. -/
theorem Appends.listed_lt (appends : Appends number count listed t t' added)
    (below : ∀ s, ∀ i ∈ listed t s, number i < count t) :
    ∀ s, ∀ i ∈ listed t' s, number i < count t' := by
  intro s i member
  rw [appends.listed_eq] at member
  rcases List.mem_append.1 member with old | new
  · have before := below s i old
    rw [appends.count_eq]
    omega
  · obtain ⟨y, kept, rfl⟩ := List.mem_map.1 new
    exact (appends.bounds (List.mem_filter.1 kept).1).2

/-- Cut back to the count before a step, a list is what it was before the step. -/
theorem Appends.filter_listed (appends : Appends number count listed t t' added)
    (below : ∀ s, ∀ i ∈ listed t s, number i < count t) (s : ScopeId) :
    (listed t' s).filter (number · < count t) = listed t s := by
  have old : (listed t s).filter (number · < count t) = listed t s :=
    List.filter_eq_self.2 fun i member => by simpa using below s i member
  have new : ((added.filter (·.2 = s)).map Prod.fst).filter (number · < count t) = [] := by
    refine List.filter_eq_nil_iff.2 fun i member => ?_
    obtain ⟨y, kept, rfl⟩ := List.mem_map.1 member
    have after := (appends.bounds (List.mem_filter.1 kept).1).1
    simp only [decide_eq_true_eq]
    omega
  rw [appends.listed_eq, List.filter_append, old, new, List.append_nil]

end

variable {t t' : ScopeTable}

private theorem mem_map_snd_of_lookup {l : List (String × EntryId)} {name : String} {e : EntryId}
    (found : l.lookup name = some e) : e ∈ l.map Prod.snd := by
  obtain ⟨before, after, split, -⟩ := List.lookup_eq_some_iff.1 found
  rw [split]
  simp

/--
Cut back to the entries before a run of definitions, a scope binds each name as it did before:
the bindings the run adds are to entries numbered from that count on.
-/
theorem Defines.filter_lookupLocal {added : List (EntryId × ScopeId)} (defines : t.Defines t' added)
    (below : ∀ s, ∀ e ∈ t.entriesOf s, e.index < t.entryCount) (s : ScopeId) (name : String) :
    (t'.lookupLocal s name).filter (·.index < t.entryCount) = t.lookupLocal s name := by
  obtain ⟨more, extended⟩ := defines.bindings s
  have listed := defines.listed_eq s
  rw [entriesOf_eq, entriesOf_eq, ← extended, List.map_append] at listed
  have moreIds : more.map Prod.snd = (added.filter (·.2 = s)).map Prod.fst :=
    List.append_cancel_left listed
  rw [lookupLocal_eq, lookupLocal_eq, ← extended, List.lookup_append]
  cases found : (t.bindingsOf s).lookup name with
  | some e =>
      have member : e ∈ t.entriesOf s := by
        rw [entriesOf_eq]
        exact mem_map_snd_of_lookup found
      simp [below s e member]
  | none =>
      -- only a later binding can hold the name, and its entry is numbered from the count on
      cases later : more.lookup name with
      | none => rfl
      | some e =>
          have member := mem_map_snd_of_lookup later
          rw [moreIds] at member
          obtain ⟨y, kept, rfl⟩ := List.mem_map.1 member
          have after := (defines.bounds (List.mem_filter.1 kept).1).1
          simp only [Option.none_or, Option.filter_some, decide_eq_true_eq]
          rw [if_neg (by omega)]

/-- A table that a run of openings and definitions turns into `t'` is `t'` cut back. -/
theorem RestrictionOf.of_opens {a : List (ScopeId × ScopeId)} {b : List (EntryId × ScopeId)}
    (opens : t.Opens t' a) (defines : t.Defines t' b)
    (childrenBelow : ∀ s, ∀ q ∈ t.children s, q.index < t.scopeCount)
    (entriesBelow : ∀ s, ∀ e ∈ t.entriesOf s, e.index < t.entryCount) : t.RestrictionOf t' where
  scopeCount_le := by rw [opens.count_eq]; omega
  entryCount_le := by rw [defines.count_eq]; omega
  entry_eq e present := by
    obtain ⟨x, found⟩ : ∃ x, t.entry? e = some x :=
      Option.isSome_iff_exists.1 (by simpa [ScopeTable.entry?, entryCount] using present)
    rw [found, defines.entries e x found]
  parent_eq s present := by rw [opens.parent s, if_pos present]
  children_eq s _ := opens.filter_listed childrenBelow s
  lookupLocal_eq s name _ := defines.filter_lookupLocal entriesBelow s name
  entriesOf_eq s _ := defines.filter_listed entriesBelow s

end ScopeTable

/-- The built-in types leave the children and the entries of every scope below the counts. -/
theorem Context.builtin_below (loc : Location) :
    (∀ s, ∀ q ∈ (builtin loc).table.children s, q.index < (builtin loc).table.scopeCount) ∧
      ∀ s, ∀ e ∈ (builtin loc).table.entriesOf s, e.index < (builtin loc).table.entryCount := by
  obtain ⟨-, -, noChildren⟩ := builtin_scopes loc
  obtain ⟨count, listed⟩ := builtin_entries loc
  refine ⟨fun s q member => by simp [noChildren] at member, fun s e member => ?_⟩
  rw [listed] at member
  rw [count]
  obtain ⟨y, kept, rfl⟩ := List.mem_map.1 member
  have builtin := (List.mem_filter.1 kept).1
  simp only [ScopeTable.builtinDefinitions, List.mem_map, List.mem_range] at builtin
  obtain ⟨i, below, rfl⟩ := builtin
  exact below

/--
Reading is single-pass: when the first `k` declarations of a reading of `P` then `Q` are read from
exactly the tokens of `P`, reading `P` alone gives those `k` declarations, over the table the
longer reading had after them, which its final table extends without touching it.
-/
theorem Program.read_prefix {P Q : List Token} {L L' : Location} {p : Program} {k : Nat}
    {ds : List Decl} {ctx : Context} {c : Cursor}
    (parsed : (Program.read ⟨(P ++ Q).map .ok, L⟩).result = .ok p)
    (first : Program.readUpTo k ⟨(P ++ Q).map .ok, L⟩ = .ok (ds, ctx, c))
    (exact : c.pulled = P.length + 1) :
    ∃ p', (Program.read ⟨P.map .ok, L'⟩).result = .ok p' ∧ p'.decls = p.decls.take k ∧
      p'.table.RestrictionOf p.table := by
  rw [List.map_append] at parsed first
  obtain ⟨c0, decls, ctxF, cF, started, declsRead, rfl⟩ := Program.read_eq_ok parsed
  have firstRead : Parse.declarationsUpTo k 0 (Context.builtin c0.look.loc) c0 = .ok (ds, ctx, c) := by
    simpa [Program.readUpTo, started, bind, Except.bind] using first
  have on0 : c0.On ⟨P.map .ok ++ Q.map .ok, L⟩ :=
    (Cursor.start_readsOn _).on_of_eq_ok started
  have onC : c.On ⟨P.map .ok ++ Q.map .ok, L⟩ :=
    (Parse.declarationsUpTo_readsOn k 0 _ c0 on0).on_of_eq_ok firstRead
  let x : Cut := ⟨P, Q.map .ok, L, L', onC.ne_eof_of_pulled (by omega)⟩
  obtain ⟨c0', started', abreast0⟩ := Cut.start_abreast (x := x) started
  obtain ⟨c', firstRead', abreast⟩ :=
    Parse.declarationsUpTo_follows k 0 _ c0 c0' abreast0 _ firstRead (by simp [exact, x])
  have atEnd : c'.look.kind = .eof := abreast.look_eof (by simp [exact, x])
  have partRead : Parse.declarations 0 (Context.builtin c0'.look.loc) c0' = .ok (ds, ctx, c') := by
    rw [show Context.builtin c0'.look.loc = Context.builtin c0.look.loc from rfl,
      Parse.declarations_eq_of_upTo k 0 _ c0' firstRead', Parse.declarations, if_pos atEnd]
    simp [Except.map, pure, Except.pure]
  have started'' : Cursor.start ⟨P.map .ok, L'⟩ = .ok c0' := started'
  have partProgram : (Program.read ⟨P.map .ok, L'⟩).result = .ok ⟨ds, ctx.table⟩ := by
    unfold Program.read
    rw [started'']
    dsimp only
    rw [show Parse.defineBuiltins { Context.initial with current := some ScopeTable.root }
      c0'.look.loc = Context.builtin c0'.look.loc from rfl, partRead]
  rw [Parse.declarations_eq_of_upTo k 0 _ c0 firstRead] at declsRead
  cases restRead : Parse.declarations (0 + ds.length) ctx c with
  | error e =>
      rw [restRead] at declsRead
      cases declsRead
  | ok res =>
      obtain ⟨rest, ctxR, cR⟩ := res
      rw [restRead] at declsRead
      simp only [Except.map, Except.ok.injEq, Prod.mk.injEq] at declsRead
      obtain ⟨rfl, rfl, rfl⟩ := declsRead
      refine ⟨⟨ds, ctx.table⟩, partProgram, ?_, ?_⟩
      · -- fewer than `k` declarations only when the input ended, and then nothing follows
        show ds = (ds ++ rest).take k
        rcases Parse.declarationsUpTo_length k 0 _ c0 firstRead with counted | ⟨fewer, ended⟩
        · rw [List.take_left' counted]
        · rcases Parse.declarations_eq_ok restRead with ⟨-, restEq⟩ | ⟨notEnd, -⟩
          · simp only [Prod.mk.injEq] at restEq
            rw [restEq.1, List.append_nil, List.take_of_length_le (Nat.le_of_lt fewer)]
          · exact absurd ended notEnd
      · have partReads := Parse.declarations_reads 0 _ c0' _ partRead
        have restReads := Parse.declarations_reads _ _ c _ restRead
        obtain ⟨atRoot, present⟩ :=
          partReads.endsAtRoot (Context.builtin_scope _) (Context.builtin_present _)
        obtain ⟨childrenBelow, entriesBelow⟩ := Context.builtin_below c0'.look.loc
        exact ScopeTable.RestrictionOf.of_opens (restReads.opens atRoot present)
          (restReads.defines atRoot present (.refl _))
          ((partReads.opens (Context.builtin_scope _) (Context.builtin_present _)).listed_lt
            childrenBelow)
          ((partReads.defines (Context.builtin_scope _) (Context.builtin_present _)
            (.refl _)).listed_lt entriesBelow)

/--
Two globals, the second reading the first, cut after the first: the first alone reads as the first
declaration, over the table as it was after it.
-/
theorem Program.read_prefix_globals :
    ∃ p p', (Program.read ⟨(([⟨.varKw, "var", .start⟩, ⟨.ident, "a", .start⟩, ⟨.eq, "=", .start⟩,
        ⟨.intLit, "1", .start⟩, ⟨.semicolon, ";", .start⟩] : List Token) ++
        ([⟨.varKw, "var", .start⟩, ⟨.ident, "b", .start⟩, ⟨.eq, "=", .start⟩,
        ⟨.ident, "a", .start⟩, ⟨.semicolon, ";", .start⟩] : List Token)).map .ok, .start⟩).result = .ok p ∧
      (Program.read ⟨([⟨.varKw, "var", .start⟩, ⟨.ident, "a", .start⟩, ⟨.eq, "=", .start⟩,
        ⟨.intLit, "1", .start⟩, ⟨.semicolon, ";", .start⟩] : List Token).map .ok, .start⟩).result = .ok p' ∧
      p'.decls = p.decls.take 1 ∧ p'.table.RestrictionOf p.table := by
  have readOk : (Program.read ⟨(([⟨.varKw, "var", .start⟩, ⟨.ident, "a", .start⟩, ⟨.eq, "=", .start⟩,
        ⟨.intLit, "1", .start⟩, ⟨.semicolon, ";", .start⟩] : List Token) ++
      ([⟨.varKw, "var", .start⟩, ⟨.ident, "b", .start⟩, ⟨.eq, "=", .start⟩,
        ⟨.ident, "a", .start⟩, ⟨.semicolon, ";", .start⟩] : List Token)).map .ok, .start⟩).result.isOk = true := by
    decide +kernel
  have firstEnds : (Program.readUpTo 1 ⟨(([⟨.varKw, "var", .start⟩, ⟨.ident, "a", .start⟩, ⟨.eq, "=", .start⟩,
        ⟨.intLit, "1", .start⟩, ⟨.semicolon, ";", .start⟩] : List Token) ++
      ([⟨.varKw, "var", .start⟩, ⟨.ident, "b", .start⟩, ⟨.eq, "=", .start⟩,
        ⟨.ident, "a", .start⟩, ⟨.semicolon, ";", .start⟩] : List Token)).map .ok, .start⟩).toOption.map (·.2.2.pulled) = some 6 := by
    decide +kernel
  cases parsed : (Program.read ⟨(([⟨.varKw, "var", .start⟩, ⟨.ident, "a", .start⟩, ⟨.eq, "=", .start⟩,
        ⟨.intLit, "1", .start⟩, ⟨.semicolon, ";", .start⟩] : List Token) ++
      ([⟨.varKw, "var", .start⟩, ⟨.ident, "b", .start⟩, ⟨.eq, "=", .start⟩,
        ⟨.ident, "a", .start⟩, ⟨.semicolon, ";", .start⟩] : List Token)).map .ok, .start⟩).result with
  | error e => rw [parsed] at readOk; cases readOk
  | ok p =>
      cases first : Program.readUpTo 1 ⟨(([⟨.varKw, "var", .start⟩, ⟨.ident, "a", .start⟩, ⟨.eq, "=", .start⟩,
        ⟨.intLit, "1", .start⟩, ⟨.semicolon, ";", .start⟩] : List Token) ++
          ([⟨.varKw, "var", .start⟩, ⟨.ident, "b", .start⟩, ⟨.eq, "=", .start⟩,
        ⟨.ident, "a", .start⟩, ⟨.semicolon, ";", .start⟩] : List Token)).map .ok, .start⟩ with
      | error e => rw [first] at firstEnds; cases firstEnds
      | ok res =>
          obtain ⟨ds, ctx, c⟩ := res
          rw [first] at firstEnds
          have exact : c.pulled = 5 + 1 := Option.some.inj (firstEnds : some c.pulled = some 6)
          obtain ⟨p', partParsed, declsEq, restricted⟩ := Program.read_prefix parsed first exact
          exact ⟨p, p', rfl, partParsed, declsEq, restricted⟩

end ImpFront
