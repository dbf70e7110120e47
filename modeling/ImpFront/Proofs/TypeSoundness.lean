import ImpFront.Proofs.Typing
import ImpFront.Proofs.Derivations

/-!
# Type soundness of the reader

Every program the reader accepts is well typed over its own table (`Program.read_wellTyped`),
whatever feed it was read from.

Types are computed while reading, by looking names up from the current scope: a literal
takes the type that its type's name resolves to, a condition is checked against the type
that `bool` resolves to. What makes these lookups give the built-in entries is the invariant
`ScopeTable.TypeSound`: only the built-in types are type entries, and every binding names an
entry of its own name, so a type found under the name `bool` is entry 2 whatever the scope.
The reader keeps the invariant at every step, since it defines only variables of built-in
types and functions with built-in return types, and every judgment it establishes survives
the later growth of the table.
-/

namespace ImpFront

namespace ScopeTable

/-- An entry that can be bound to `name` in a table whose invariant holds. -/
def SoundEntry (t : ScopeTable) (name : String) : Entry → Prop
  | .type _ => False
  | .var v => v.name = name ∧ v.ty.IsBuiltinType
  | .func f => f.name = name ∧ f.returnType.IsBuiltinType ∧
      ∀ p ∈ f.params, ∃ v, t.entry? p = some (.var v)

namespace TypeSound

variable {t t' : ScopeTable}

/-- The four built-in types have four names. -/
theorem builtinTypes_name_injective : ∀ i, i < 4 → ∀ j, j < 4 →
    (Parse.builtinTypes[i]?).map (·.name) = (Parse.builtinTypes[j]?).map (·.name) → i = j := by
  decide

theorem entryCount_ge (sound : t.TypeSound) : 4 ≤ t.entryCount := by
  have last := sound.builtin 3 (by decide)
  unfold entry? at last
  have present : 3 < t.entries.size := by
    apply (Array.getElem?_eq_some_iff.1 _).1
    exact .type ⟨"string", 8⟩
    rw [last]
    rfl
  exact present

theorem addChild (sound : t.TypeSound) (p : ScopeId) : (t.addChild p).1.TypeSound where
  builtin := sound.builtin
  onlyBuiltin := sound.onlyBuiltin
  bindingsNamed := by
    intro s b bound
    rw [bindingsOf_addChild] at bound
    exact sound.bindingsNamed s b bound
  varTypes := sound.varTypes
  funcSigs := sound.funcSigs

/-- Binding a name to a sound entry keeps the invariant. -/
theorem define (sound : t.TypeSound) {s : ScopeId} {name : String} {x : Entry} {id : EntryId}
    (defined : t.define s name x = .ok (t', id)) (fits : t.SoundEntry name x) : t'.TypeSound := by
  have grows := Extends.of_define defined
  have newId : id = ⟨t.entryCount⟩ := (define_eq_ok defined).2.1
  have entries := entry?_of_define defined
  constructor
  · intro i small
    have old : (⟨i⟩ : EntryId) ≠ id := by
      rw [newId]
      intro same
      have := sound.entryCount_ge
      simp only [EntryId.mk.injEq] at same
      omega
    rw [entries, if_neg old]
    exact sound.builtin i small
  · intro e info found
    rw [entries] at found
    split at found
    · cases found
      exact fits.elim
    · exact sound.onlyBuiltin e info found
  · intro s' b bound
    rw [bindingsOf_of_define defined] at bound
    split at bound
    · rcases List.mem_append.1 bound with old | fresh
      · rcases sound.bindingsNamed s' b old with ⟨y, found, named⟩
        exact ⟨y, grows _ _ found, named⟩
      · rw [List.mem_singleton] at fresh
        subst fresh
        refine ⟨x, by rw [entries, if_pos rfl], ?_⟩
        cases x with
        | type info => exact fits.elim
        | var v => exact fits.1
        | func f => exact fits.1
    · rcases sound.bindingsNamed s' b bound with ⟨y, found, named⟩
      exact ⟨y, grows _ _ found, named⟩
  · intro e v found
    rw [entries] at found
    split at found
    · cases found
      exact fits.2
    · exact sound.varTypes e v found
  · intro e f found
    rw [entries] at found
    split at found
    · cases found
      refine ⟨fits.2.1, ?_⟩
      intro p member
      rcases fits.2.2 p member with ⟨v, isVar⟩
      exact ⟨v, grows _ _ isVar⟩
    · rcases sound.funcSigs e f found with ⟨builtin, params⟩
      refine ⟨builtin, ?_⟩
      intro p member
      rcases params p member with ⟨v, isVar⟩
      exact ⟨v, grows _ _ isVar⟩

/-- A name that resolves to a type resolves to a built-in type of that name. -/
theorem type_of_lookupType {ctx : Context} (sound : ctx.table.TypeSound) {name : String}
    {loc : Location} {e : EntryId} (found : ctx.lookupType name loc = .ok e) :
    ∃ info, ctx.table.entry? e = some (.type info) ∧ info.name = name ∧ e.IsBuiltinType := by
  rcases Context.lookupType_eq_ok found with ⟨looked, info, isType⟩
  rcases exists_binding_of_lookup (Context.lookup_eq_ok looked) with ⟨s, bound⟩
  rcases sound.bindingsNamed s _ bound with ⟨x, entryFound, named⟩
  have sameEntry : x = .type info := by
    unfold entry at isType
    rw [entryFound] at isType
    exact isType
  subst sameEntry
  exact ⟨info, entryFound, named, sound.onlyBuiltin e info entryFound⟩

/-- The type that the name of the `i`-th built-in type resolves to is entry `i`. -/
theorem lookupType_eq {ctx : Context} (sound : ctx.table.TypeSound) {name : String}
    {loc : Location} {e : EntryId} (found : ctx.lookupType name loc = .ok e) {i : Nat}
    (small : i < 4) (named : (Parse.builtinTypes[i]?).map (·.name) = some name) : e = ⟨i⟩ := by
  rcases sound.type_of_lookupType found with ⟨info, entryFound, infoNamed, builtin⟩
  have seeded := sound.builtin e.index builtin
  rw [entryFound] at seeded
  have sameName : (Parse.builtinTypes[e.index]?).map (·.name) =
      (Parse.builtinTypes[i]?).map (·.name) := by
    rw [named]
    cases lookedUp : Parse.builtinTypes[e.index]? with
    | none => rw [lookedUp] at seeded; cases seeded
    | some info' =>
        rw [lookedUp] at seeded
        simp only [Option.map_some, Option.some.injEq, Entry.type.injEq] at seeded
        simp [← seeded, infoNamed]
  have sameIndex := builtinTypes_name_injective e.index builtin i small sameName
  cases e
  simp only at sameIndex
  rw [sameIndex]

/-- A literal takes its built-in type. -/
theorem lookupType_literal {ctx : Context} (sound : ctx.table.TypeSound) {value : Literal}
    {loc : Location} {ty : EntryId} (found : ctx.lookupType value.typeName loc = .ok ty) :
    ty = value.type := by
  cases value with
  | int v => exact sound.lookupType_eq found (i := 0) (by decide) rfl
  | float x => exact sound.lookupType_eq found (i := 1) (by decide) rfl
  | bool b => exact sound.lookupType_eq found (i := 2) (by decide) rfl
  | str s => exact sound.lookupType_eq found (i := 3) (by decide) rfl

/-- The type that `bool` resolves to is the built-in `bool`, whatever the scope. -/
theorem lookupType_bool {ctx : Context} (sound : ctx.table.TypeSound) {loc : Location}
    {ty : EntryId} (found : ctx.lookupType "bool" loc = .ok ty) : ty = .boolType :=
  sound.lookupType_eq found (i := 2) (by decide) rfl

/-- A name that resolves from some scope names an entry of its own name. -/
theorem entry?_of_lookup {ctx : Context} (sound : ctx.table.TypeSound) {name : String}
    {loc : Location} {e : EntryId} (found : ctx.lookup name loc = .ok e) :
    ∃ x, ctx.table.entry? e = some x ∧ x.name = name := by
  rcases exists_binding_of_lookup (Context.lookup_eq_ok found) with ⟨s, bound⟩
  exact sound.bindingsNamed s _ bound

end TypeSound

theorem funcInfo?_eq_some {t : ScopeTable} {e : EntryId} {f : FuncInfo}
    (isFunc : t.funcInfo? e = some f) : t.entry? e = some (.func f) := by
  unfold funcInfo? at isFunc
  split at isFunc
  · rename_i found
    cases isFunc
    exact found
  · cases isFunc

theorem entry?_eq_of_entry {t : ScopeTable} {e : EntryId} {x y : Entry}
    (found : t.entry? e = some x) (entryEq : t.entry e = y) : t.entry? e = some y := by
  unfold entry at entryEq
  rw [found] at entryEq ⊢
  rw [← entryEq]
  rfl

end ScopeTable

namespace Context

theorem enter_sound {ctx : Context} (sound : ctx.table.TypeSound) : ctx.enter.1.table.TypeSound :=
  sound.addChild ctx.scope

/-- The table of the built-in types holds them as its entries, in order. -/
theorem entry?_builtin (loc : Location) (e : EntryId) :
    (builtin loc).table.entry? e = (Parse.builtinTypes[e.index]?).map .type := by
  rcases e with ⟨n⟩
  have entries : (builtin loc).table.entries =
      #[.type ⟨"int", 4⟩, .type ⟨"float", 4⟩, .type ⟨"bool", 1⟩, .type ⟨"string", 8⟩] := rfl
  unfold ScopeTable.entry?
  rw [entries]
  match n with
  | 0 | 1 | 2 | 3 => rfl
  | n + 4 => simp [Parse.builtinTypes]

/-- The table of the built-in types binds them in the root, by their names, and nothing else. -/
theorem builtin_bindingsOf (loc : Location) (s : ScopeId) :
    (builtin loc).table.bindingsOf s =
      if s.index = 0 then [("int", ⟨0⟩), ("float", ⟨1⟩), ("bool", ⟨2⟩), ("string", ⟨3⟩)]
      else [] := by
  unfold ScopeTable.bindingsOf ScopeTable.scope?
  rcases s with ⟨_ | k⟩
  · rfl
  · have single : (builtin loc).table.scopes.size = 1 := rfl
    simp [single]

/-- Programs are read from a table whose invariant holds. -/
theorem builtin_typeSound (loc : Location) : (builtin loc).table.TypeSound where
  builtin := by
    intro i _
    exact entry?_builtin loc ⟨i⟩
  onlyBuiltin := by
    intro e info found
    rw [entry?_builtin] at found
    by_contra outside
    have absent : Parse.builtinTypes[e.index]? = none :=
      List.getElem?_eq_none (Nat.le_of_not_lt outside)
    rw [absent] at found
    cases found
  bindingsNamed := by
    intro s b bound
    rw [builtin_bindingsOf] at bound
    split at bound
    · simp only [List.mem_cons, List.not_mem_nil, or_false] at bound
      rcases bound with rfl | rfl | rfl | rfl <;>
        exact ⟨_, entry?_builtin loc _, rfl⟩
    · cases bound
  varTypes := by
    intro e v found
    rw [entry?_builtin] at found
    cases listed : Parse.builtinTypes[e.index]? <;> simp [listed] at found
  funcSigs := by
    intro e f found
    rw [entry?_builtin] at found
    cases listed : Parse.builtinTypes[e.index]? <;> simp [listed] at found

/-- Defining the built-in types leaves the current scope as it was. -/
theorem defineBuiltins_current (ctx : Context) (loc : Location) :
    (Parse.defineBuiltins ctx loc).current = ctx.current := by
  unfold Parse.defineBuiltins
  induction Parse.builtinTypes generalizing ctx with
  | nil => rfl
  | cons info rest ih =>
      rw [List.foldl_cons, ih]
      split
      · rename_i ctx' id defined
        unfold define at defined
        split at defined <;> cases defined
        rfl
      · rfl

/-- Declarations are read in the root scope. -/
theorem builtin_scope (loc : Location) : (builtin loc).scope = ScopeTable.root := by
  simp [scope, builtin, defineBuiltins_current]

/-- In the context of the built-in types, the name of each resolves to it. -/
theorem builtin_lookupType (loc loc' : Location) {i : Nat} {info : TypeInfo}
    (listed : Parse.builtinTypes[i]? = some info) :
    (builtin loc).lookupType info.name loc' = .ok ⟨i⟩ := by
  have resolved : (builtin loc).table.resolve info.name ScopeTable.root = some ⟨i⟩ := by
    rw [ScopeTable.resolve, ScopeTable.lookupLocal_eq, builtin_bindingsOf]
    rcases i with _ | _ | _ | _ | i <;> simp [Parse.builtinTypes] at listed <;> subst listed <;>
      simp [ScopeTable.root, List.lookup_cons]
  have entry : (builtin loc).table.entry ⟨i⟩ = .type info := by
    simp [ScopeTable.entry, entry?_builtin, listed]
  simp [lookupType, lookup, ScopeTable.lookup, builtin_scope, resolved, entry]

end Context

/-! ## Expressions -/

namespace Parse

variable {ctx : Context}

/-- A typed binary operation over well-typed operands is well typed. -/
theorem binary_wellTyped (sound : ctx.table.TypeSound) {op : BinOp} {lhs rhs e : Expr}
    {loc : Location} (typed : ctx.binary op lhs rhs loc = .ok e)
    (lhsTyped : lhs.WellTyped ctx.table) (rhsTyped : rhs.WellTyped ctx.table)
    (target : op = .assign → lhs.isVar) : e.WellTyped ctx.table := by
  rcases Context.binary_eq_ok typed with ⟨ty, rfl, logicalCase, otherCase⟩
  by_cases logical : op = .or ∨ op = .and
  · rcases logicalCase logical with ⟨lhsBool, rhsBool, tyEq⟩
    have lhsIsBool := sound.lookupType_bool (Context.expectBool_eq_ok lhsBool)
    have rhsIsBool := sound.lookupType_bool (Context.expectBool_eq_ok rhsBool)
    exact .logical logical lhsTyped rhsTyped lhsIsBool rhsIsBool (tyEq.trans lhsIsBool)
  · rcases otherCase logical with ⟨same, comparisonCase, plainCase⟩
    cases comparing : op.isComparison with
    | true =>
        exact .comparison comparing lhsTyped rhsTyped same
          (sound.lookupType_bool (comparisonCase comparing))
    | false =>
        have tyEq := plainCase comparing
        cases op with
        | assign => exact .assign (target rfl) lhsTyped rhsTyped same tyEq
        | add | sub | mul | div => exact .arithmetic (by decide) lhsTyped rhsTyped same tyEq
        | or | and => exact absurd (by decide) logical
        | lt | le | gt | ge | eq | ne => cases comparing

/-- Arguments that pass the check have the types of the parameters, one for one. -/
theorem checkArgs_forall₂ {args : List Expr} {params : List EntryId}
    (checked : checkArgs ctx args params = .ok ()) (arity : args.length = params.length)
    (paramsVar : ∀ p ∈ params, ∃ v, ctx.table.entry? p = some (.var v)) :
    List.Forall₂ (fun a p => ∃ v, ctx.table.entry? p = some (.var v) ∧ a.ty = v.ty) args params := by
  induction args generalizing params with
  | nil =>
      cases params with
      | nil => exact .nil
      | cons p ps => cases arity
  | cons a args ih =>
      cases params with
      | nil => cases arity
      | cons p ps =>
          unfold checkArgs at checked
          split at checked
          · cases checked
          · rename_i paramTyped
            rcases paramsVar p (by simp) with ⟨v, isVar⟩
            have sameTy := Context.expectType_eq_ok paramTyped
            simp only [ScopeTable.varInfo?, isVar, Option.map_some, Option.getD_some] at sameTy
            refine .cons ⟨v, isVar, sameTy.symm⟩ (ih checked (by simpa using arity) ?_)
            intro q member
            exact paramsVar q (by simp [member])

end Parse

/--
Everything the expression reader can build is well typed over the table it reads with. The
invariant is what turns the reader's lookups of type names into the built-in entries.
-/
theorem ExprRead.wellTyped {ctx : Context} (sound : ctx.table.TypeSound) {e : Expr}
    (read : ExprRead ctx e) : e.WellTyped ctx.table := by
  induction read with
  | lit typeFound => exact .lit (sound.lookupType_literal typeFound)
  | var found isVar =>
      rcases sound.entry?_of_lookup found with ⟨x, entryFound, -⟩
      have varFound := ScopeTable.entry?_eq_of_entry entryFound isVar
      exact .var _ varFound rfl (sound.varTypes _ _ varFound)
  | binary _ _ target typed lhsTyped rhsTyped =>
      exact Parse.binary_wellTyped sound typed lhsTyped rhsTyped target
  | call _ isFunc _ arity checked argsTyped =>
      have funcFound := ScopeTable.funcInfo?_eq_some isFunc
      rcases sound.funcSigs _ _ funcFound with ⟨builtin, paramsVar⟩
      exact .call _ funcFound argsTyped (Parse.checkArgs_forall₂ checked arity paramsVar) rfl builtin

/-! ## Statements -/

/--
What reading statements from the context `ctx` to the context `ctx'` guarantees: the
invariant holds after, the entries of before are kept, every return has a built-in type, and
the statements are well typed in any function whose return type all their returns have.
-/
structure StmtsTyped (ctx ctx' : Context) (stmts : List Stmt) : Prop where
  sound : ctx'.table.TypeSound
  grows : ctx.table.Extends ctx'.table
  returnsBuiltin : ∀ p ∈ Stmt.returnsOfList stmts, p.1.IsBuiltinType
  typed : ∀ ret, (∀ p ∈ Stmt.returnsOfList stmts, p.1 = ret) →
    ∀ s ∈ stmts, s.WellTyped ctx'.table ret

namespace StmtsTyped

variable {ctx ctx₁ ctx₂ : Context}

theorem nil (sound : ctx.table.TypeSound) : StmtsTyped ctx ctx [] where
  sound := sound
  grows := ScopeTable.Extends.refl _
  returnsBuiltin := by simp
  typed := by simp

/-- Statements read one after the other. -/
theorem append {xs ys : List Stmt} (first : StmtsTyped ctx ctx₁ xs)
    (second : StmtsTyped ctx₁ ctx₂ ys) : StmtsTyped ctx ctx₂ (xs ++ ys) where
  sound := second.sound
  grows := first.grows.trans second.grows
  returnsBuiltin := by
    intro p member
    rw [Stmt.returnsOfList_append] at member
    rcases List.mem_append.1 member with inFirst | inSecond
    · exact first.returnsBuiltin p inFirst
    · exact second.returnsBuiltin p inSecond
  typed := by
    intro ret returned s member
    rw [Stmt.returnsOfList_append] at returned
    rcases List.mem_append.1 member with inFirst | inSecond
    · exact (first.typed ret (fun p inReturns => returned p (List.mem_append_left _ inReturns)) s
        inFirst).mono second.grows
    · exact second.typed ret (fun p inReturns => returned p (List.mem_append_right _ inReturns)) s
        inSecond

/-- A statement that is read without changing the context and holds no return. -/
theorem of_typed {s : Stmt} (sound : ctx.table.TypeSound) (noReturns : s.returns = [])
    (typed : ∀ ret, s.WellTyped ctx.table ret) : StmtsTyped ctx ctx [s] where
  sound := sound
  grows := ScopeTable.Extends.refl _
  returnsBuiltin := by simp [noReturns]
  typed := by
    intro ret _ s' member
    rw [List.mem_singleton] at member
    rw [member]
    exact typed ret

/-- The statements of a block, read in the scope it opened, make the block. -/
theorem block {stmts : List Stmt} {scope : ScopeId} {loc : Location} (s : ScopeId)
    (inner : StmtsTyped ctx.enter.1 ctx₁ stmts) :
    StmtsTyped ctx (ctx₁.exit s) [.block scope stmts loc] where
  sound := inner.sound
  grows := (Context.extends_enter ctx).trans inner.grows
  returnsBuiltin := by simpa [Stmt.returns] using inner.returnsBuiltin
  typed := by
    intro ret returned s' member
    rw [List.mem_singleton] at member
    rw [member]
    exact .block (inner.typed ret (by simpa [Stmt.returns] using returned))

/-- A loop whose condition is a well-typed boolean where the loop stands. -/
theorem whileLoop {b : Stmt} {c : Expr} {loc : Location}
    (bodyRead : StmtsTyped ctx ctx₁ [b]) (condTyped : c.WellTyped ctx.table)
    (condBool : c.ty = .boolType) : StmtsTyped ctx ctx₁ [.whileLoop c b loc] where
  sound := bodyRead.sound
  grows := bodyRead.grows
  returnsBuiltin := by simpa [Stmt.returns] using bodyRead.returnsBuiltin
  typed := by
    intro ret returned s member
    rw [List.mem_singleton] at member
    rw [member]
    exact .whileLoop (condTyped.mono bodyRead.grows) condBool
      (bodyRead.typed ret (by simpa [Stmt.returns] using returned) b (List.mem_singleton_self b))

/-- A conditional whose condition is a well-typed boolean where it stands. -/
theorem ifElse {thenBranch : Stmt} {elseBranch : Option Stmt} {c : Expr} {loc : Location}
    (branches : StmtsTyped ctx ctx₁ (thenBranch :: elseBranch.toList))
    (condTyped : c.WellTyped ctx.table) (condBool : c.ty = .boolType) :
    StmtsTyped ctx ctx₁ [.ifElse c thenBranch elseBranch loc] where
  sound := branches.sound
  grows := branches.grows
  returnsBuiltin := by
    cases elseBranch <;> simpa [Stmt.returns, Stmt.returnsOfOption] using branches.returnsBuiltin
  typed := by
    intro ret returned s member
    rw [List.mem_singleton] at member
    rw [member]
    have typedBranches := branches.typed ret
      (by cases elseBranch <;> simpa [Stmt.returns, Stmt.returnsOfOption] using returned)
    refine .ifElse (condTyped.mono branches.grows) condBool
      (typedBranches thenBranch List.mem_cons_self) ?_
    intro e member
    exact typedBranches e (List.mem_cons_of_mem _ (Option.mem_toList.2 member))

end StmtsTyped


/--
Reading statements keeps the table sound, only adds entries, and gives well-typed statements
whose returns have built-in types.
-/
theorem StmtsRead.typed {ctx ctx' : Context} {stmts : List Stmt}
    (read : StmtsRead ctx stmts ctx') (sound : ctx.table.TypeSound) :
    StmtsTyped ctx ctx' stmts := by
  induction read with
  | nil ctx => exact .nil sound
  | cons _ _ firstIH laterIH =>
      have first := firstIH sound
      exact first.append (laterIH first.sound)
  | block _ bodyIH => exact (bodyIH (Context.enter_sound sound)).block _
  | ifThen condRead isBool _ thenIH =>
      exact StmtsTyped.ifElse (thenIH sound) (condRead.wellTyped sound)
        (sound.lookupType_bool (Context.expectBool_eq_ok isBool))
  | ifElse condRead isBool _ _ thenIH elseIH =>
      have thenBranch := thenIH sound
      exact StmtsTyped.ifElse (thenBranch.append (elseIH thenBranch.sound))
        (condRead.wellTyped sound) (sound.lookupType_bool (Context.expectBool_eq_ok isBool))
  | whileLoop condRead isBool _ bodyIH =>
      exact (bodyIH sound).whileLoop (condRead.wellTyped sound)
        (sound.lookupType_bool (Context.expectBool_eq_ok isBool))
  | @forLoop ctx ctx₁ ctx₂ init body test step stepLoc loc _ testRead isBool stepRead _ initIH
      bodyIH =>
      have initTyped := initIH (Context.enter_sound sound)
      have ctx₁Sound := initTyped.sound
      have testIsBool := ctx₁Sound.lookupType_bool (Context.expectBool_eq_ok isBool)
      have bodyTyped := bodyIH (Context.enter_sound ctx₁Sound)
      have stepStmt : StmtsTyped ctx₂ ctx₂ [.expr step stepLoc] :=
        StmtsTyped.of_typed bodyTyped.sound rfl
          (fun _ => .expr ((stepRead.wellTyped ctx₁Sound).mono
            ((Context.extends_enter _).trans bodyTyped.grows)))
      have loopBody : StmtsTyped ctx₁ (ctx₂.exit ctx₁.enter.2)
          [.block ctx₁.enter.2 [body, .expr step stepLoc] loc] :=
        (bodyTyped.append stepStmt).block ctx₁.enter.2
      have loop : StmtsTyped ctx₁ (ctx₂.exit ctx₁.enter.2)
          [.whileLoop test (.block ctx₁.enter.2 [body, .expr step stepLoc] loc) loc] :=
        loopBody.whileLoop (testRead.wellTyped ctx₁Sound) testIsBool
      exact (initTyped.append loop).block ctx.enter.2
  | @varDecl ctx ctx₁ name init id nameLoc loc initRead defined =>
      have initTyped := initRead.wellTyped sound
      rcases Context.define_eq_ok defined with ⟨tableDefined, -⟩
      have grows := ScopeTable.Extends.of_define tableDefined
      have isVar := ScopeTable.entry?_of_define tableDefined id
      rw [if_pos rfl] at isVar
      refine ⟨sound.define tableDefined ⟨rfl, initTyped.ty_isBuiltinType⟩, grows,
        by simp [Stmt.returns], ?_⟩
      intro ret _ s member
      rw [List.mem_singleton] at member
      rw [member]
      exact .varDecl _ (initTyped.mono grows) isVar rfl
  | @ret ctx value loc valueRead =>
      have valueTyped := valueRead.wellTyped sound
      refine ⟨sound, ScopeTable.Extends.refl _, ?_, ?_⟩
      · simpa [Stmt.returns] using valueTyped.ty_isBuiltinType
      · intro ret returned s member
        rw [List.mem_singleton] at member
        rw [member]
        exact .ret valueTyped (returned (value.ty, loc) (by simp [Stmt.returns]))
  | expr valueRead => exact StmtsTyped.of_typed sound rfl (fun _ => .expr (valueRead.wellTyped sound))

/-! ## Declarations -/

/-- What reading parameters guarantees: the invariant holds after, the entries of before are
kept, and every parameter is a variable. -/
structure ParamsTyped (ctx ctx' : Context) (ids : List EntryId) : Prop where
  sound : ctx'.table.TypeSound
  grows : ctx.table.Extends ctx'.table
  vars : ∀ p ∈ ids, ∃ v, ctx'.table.entry? p = some (.var v)

/-- What reading declarations guarantees: the invariant holds after, the entries of before are
kept, and the declarations are well typed over the table after. -/
structure DeclsTyped (ctx ctx' : Context) (decls : List Decl) : Prop where
  sound : ctx'.table.TypeSound
  grows : ctx.table.Extends ctx'.table
  typed : ∀ d ∈ decls, d.WellTyped ctx'.table


theorem ParamsRead.typed {ctx ctx' : Context} {ids : List EntryId}
    (read : ParamsRead ctx ids ctx') (sound : ctx.table.TypeSound) : ParamsTyped ctx ctx' ids := by
  induction read with
  | nil ctx => exact ⟨sound, .refl _, by simp⟩
  | @cons ctx ctx₁ ctx₂ name tyName nameLoc tyLoc ty id offset rest typeFound defined _ laterIH =>
      rcases Context.define_eq_ok defined with ⟨tableDefined, -⟩
      obtain ⟨-, -, -, tyBuiltin⟩ := sound.type_of_lookupType typeFound
      have grows := ScopeTable.Extends.of_define tableDefined
      have isVar := ScopeTable.entry?_of_define tableDefined id
      rw [if_pos rfl] at isVar
      have later := laterIH (sound.define tableDefined ⟨rfl, tyBuiltin⟩)
      refine ⟨later.sound, grows.trans later.grows, ?_⟩
      intro p member
      rcases List.mem_cons.1 member with rfl | inRest
      · exact ⟨_, later.grows _ _ isVar⟩
      · exact later.vars p inRest

/--
A function definition is well typed: its body is read after its parameters, its return type
is the type all its returns agree on, and its entry, defined after the body, records them.
-/
theorem DeclsTyped.func {ctx ctx₁ ctx₂ ctx₃ : Context} {ids : List EntryId} {body : Block}
    {name : String} {nameLoc : Location} {index : Nat} {returnType entry : EntryId}
    (params : ParamsTyped ctx.enter.1 ctx₁ ids) (bodyTyped : StmtsTyped ctx₁ ctx₂ [body.toStmt])
    (resolved : resolveReturnType body.returns = .ok returnType)
    (defined : (ctx₂.exit ctx.enter.2).define name (.func ⟨name, ⟨index⟩, ids, returnType⟩)
      nameLoc = .ok (ctx₃, entry)) :
    DeclsTyped ctx ctx₃ [.func ⟨name, entry, ctx.enter.2, body, returnType, nameLoc⟩] := by
  have returnsEq : Stmt.returnsOfList [body.toStmt] = body.returns := by
    simp [Block.toStmt, Stmt.returns, Block.returns]
  obtain ⟨agree, ⟨p, returned, isReturnType⟩⟩ := resolveReturnType_eq_ok resolved
  rw [← returnsEq] at agree returned
  have retBuiltin : returnType.IsBuiltinType := isReturnType ▸ bodyTyped.returnsBuiltin p returned
  have paramsVar : ∀ p ∈ ids, ∃ v, ctx₂.table.entry? p = some (.var v) := by
    intro p member
    rcases params.vars p member with ⟨v, isVar⟩
    exact ⟨v, bodyTyped.grows _ _ isVar⟩
  rcases Context.define_eq_ok defined with ⟨tableDefined, -⟩
  rw [Context.exit_table] at tableDefined
  have grows := ScopeTable.Extends.of_define tableDefined
  have isFunc := ScopeTable.entry?_of_define tableDefined entry
  rw [if_pos rfl] at isFunc
  have blockTyped := bodyTyped.typed returnType agree _ (List.mem_singleton_self _)
  simp only [Block.toStmt] at blockTyped
  cases blockTyped with
  | block stmtsTyped =>
    refine ⟨bodyTyped.sound.define tableDefined ⟨rfl, retBuiltin, paramsVar⟩,
      (Context.extends_enter ctx).trans (params.grows.trans (bodyTyped.grows.trans grows)), ?_⟩
    intro d member
    rw [List.mem_singleton] at member
    rw [member]
    refine ⟨_, isFunc, rfl, retBuiltin, ?_, ?_⟩
    · intro p member
      rcases paramsVar p member with ⟨v, isVar⟩
      exact ⟨v, grows _ _ isVar⟩
    · intro s member
      exact (stmtsTyped s member).mono grows

/-- Reading declarations keeps the table sound and gives well-typed declarations. -/
theorem DeclsRead.typed {ctx ctx' : Context} {decls : List Decl}
    (read : DeclsRead ctx decls ctx') (sound : ctx.table.TypeSound) : DeclsTyped ctx ctx' decls := by
  induction read with
  | nil ctx => exact ⟨sound, .refl _, by simp⟩
  | var declRead _ laterIH =>
      have declTyped := declRead.typed sound
      -- a declaration holds no return, so any return type will do
      have stmtTyped := declTyped.typed default (by simp [Stmt.returns]) _
        (List.mem_singleton_self _)
      have later := laterIH declTyped.sound
      refine ⟨later.sound, declTyped.grows.trans later.grows, ?_⟩
      intro d member
      rcases List.mem_cons.1 member with rfl | inRest
      · cases stmtTyped with
        | varDecl v initTyped isVar tyEq =>
          exact ⟨initTyped.mono later.grows, v, later.grows _ _ isVar, tyEq⟩
      · exact later.typed d inRest
  | func paramsRead bodyRead resolved defined _ laterIH =>
      have params := paramsRead.typed (Context.enter_sound sound)
      have first := DeclsTyped.func params (bodyRead.typed params.sound) resolved defined
      have later := laterIH first.sound
      refine ⟨later.sound, first.grows.trans later.grows, ?_⟩
      intro d member
      rcases List.mem_cons.1 member with rfl | inRest
      · exact (first.typed _ (List.mem_singleton_self _)).mono later.grows
      · exact later.typed d inRest

/--
Every program the reader returns is well typed over its own table: every type it records is
one of the four built-in types, literals have their own types, operators and calls are typed
by their operands and signatures, conditions are booleans, and every return of a function has
the function's return type.
-/
theorem Program.read_wellTyped {f : Feed} {p : Program} (parsed : (Program.read f).result = .ok p) :
    p.WellTyped := by
  rcases Program.read_reads parsed with ⟨loc, ctx, declsRead, tableEq⟩
  have declsTyped := declsRead.typed (Context.builtin_typeSound loc)
  constructor
  · rw [tableEq]
    exact declsTyped.sound
  · rw [tableEq]
    exact declsTyped.typed

/--
Two globals, a function and a loop that calls it, with arithmetic, comparisons, both logical
operators, literals of all four types and two returns: the program is read and is well typed.
-/
theorem Program.ofSource_loopAndCall_wellTyped :
    ∃ p, (Program.ofSource "var m = 9;
var r = 2.5 * 2.0;
var go = \"go\";
sq(n: int) { return n * n; }
f(k: int, s: string) { var t = 0; while (t < k && s == go) t = t + sq(k); if (t > m || true) return t; return 0 - t; }").result = .ok p ∧ p.WellTyped := by
  exact Except.exists_ok_and (by decide +kernel) fun _ read => Program.read_wellTyped read

end ImpFront
