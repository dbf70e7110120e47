import Mathlib
import ImpFront.Proofs.Recognition
import ImpFront.Proofs.Definitions
import ImpFront.Proofs.ScopeBalance

/-!
# Where a function's parameters are stored

The parameters of a function are stored one after the other. The reader gives each parameter,
as it defines it, the offset it has reached, and moves the offset on by the size of the
parameter's type once the parameter is defined. This module shows what that loop computes
(`Parse.funcDef_paramsLaidOut`): for a function whose parameters are written
`( n₁ : T₁ , … , nₖ : Tₖ )`, the entries its table entry records as its parameters are, in
order, parameter variables named `n₁` to `nₖ`, each bound to its name in the parameters' scope,
each of the built-in type named `Tᵢ`, and each at the sum of the sizes of the types before it.

The sizes are those the table holds for the type entries. Under the table's invariant
(`ScopeTable.TypeSound`) a type name that resolves at all resolves to the built-in type of that
name, so the size of a parameter's type is always there: the reader's fallback of a zero size
for an entry that is not a type is never taken.
-/

namespace ImpFront

namespace Parse

/-- A parameter as written: the identifiers of its name and of its type's name. -/
structure WrittenParam where
  name : Token
  tyName : Token

/--
The tokens `n₁ : T₁ , … , nₖ : Tₖ )` that write the parameters `ps`, at least one, up to the
closing parenthesis. The colons, the commas and the parenthesis are any tokens of their kinds.
-/
inductive ParamsWritten : List WrittenParam → List Token → Prop
  | last {p : WrittenParam} {colon close : Token} (isName : p.name.kind = .ident)
      (isColon : colon.kind = .colon) (isType : p.tyName.kind = .ident)
      (isClose : close.kind = .rParen) :
      ParamsWritten [p] [p.name, colon, p.tyName, close]
  | more {p : WrittenParam} {colon comma : Token} {ps : List WrittenParam} {u : List Token}
      (isName : p.name.kind = .ident) (isColon : colon.kind = .colon)
      (isType : p.tyName.kind = .ident) (isComma : comma.kind = .comma)
      (rest : ParamsWritten ps u) :
      ParamsWritten (p :: ps) (p.name :: colon :: p.tyName :: comma :: u)

/-- The tokens `( n₁ : T₁ , … , nₖ : Tₖ )` of a parameter list that writes `ps`; `( )` for none. -/
inductive ParamListWritten : List WrittenParam → List Token → Prop
  | empty {lp rp : Token} (isOpen : lp.kind = .lParen) (isClose : rp.kind = .rParen) :
      ParamListWritten [] [lp, rp]
  | params {lp : Token} {ps : List WrittenParam} {u : List Token} (isOpen : lp.kind = .lParen)
      (written : ParamsWritten ps u) :
      ParamListWritten ps (lp :: u)

end Parse

namespace ScopeTable

/--
The entry `id` of `t` is the parameter `p`, of the type `info`, stored at `offset`: the scope `s`
binds `p`'s name to it, and it is a parameter variable of that name, stored at `offset`, whose type
is the entry of the built-in type `info`. That type is the one `p`'s type name names, and the table
holds it at its entry.
-/
def ParamAt (t : ScopeTable) (s : ScopeId) (p : Parse.WrittenParam) (info : TypeInfo)
    (offset : Nat) (id : EntryId) : Prop :=
  ∃ ty : EntryId, Parse.builtinTypes[ty.index]? = some info ∧ info.name = p.tyName.lexeme ∧
    t.typeInfo? ty = some info ∧ t.lookupLocal s p.name.lexeme = some id ∧
    t.entry? id = some (.var { name := p.name.lexeme, ty, kind := .param, offset := some offset })

/--
The entries `ids` of `t` are the parameters `ps`, of the types `types`, stored one after the
other from `offset`: the `i`-th is stored at `offset` and the sizes of the `i` types before it.
-/
structure ParamsLaidOut (t : ScopeTable) (s : ScopeId) (offset : Nat)
    (ps : List Parse.WrittenParam) (types : List TypeInfo) (ids : List EntryId) : Prop where
  length_ids : ids.length = ps.length
  length_types : types.length = ps.length
  param : ∀ i p info id, ps[i]? = some p → types[i]? = some info → ids[i]? = some id →
    t.ParamAt s p info (offset + ((types.take i).map (·.size)).sum) id

theorem typeInfo?_eq_some_iff {t : ScopeTable} {e : EntryId} {info : TypeInfo} :
    t.typeInfo? e = some info ↔ t.entry? e = some (.type info) := by
  unfold typeInfo?
  split <;> simp_all

/-- A define keeps what every scope bound before, and binds its name after it. -/
theorem bindingsOf_prefix_of_define {t t' : ScopeTable} {s : ScopeId} {name : String}
    {x : Entry} {id : EntryId} (defined : t.define s name x = .ok (t', id)) (s' : ScopeId) :
    t.bindingsOf s' <+: t'.bindingsOf s' := by
  rw [bindingsOf_of_define defined]
  split
  · exact List.prefix_append _ _
  · exact List.prefix_refl _

variable {t t' : ScopeTable} {s : ScopeId}

/-- A parameter stays where it is in a table that keeps the entries and the scope's bindings. -/
theorem ParamAt.mono {p : Parse.WrittenParam} {info : TypeInfo} {offset : Nat} {id : EntryId}
    (held : t.ParamAt s p info offset id) (entries : t.Extends t')
    (bindings : t.bindingsOf s <+: t'.bindingsOf s) : t'.ParamAt s p info offset id := by
  obtain ⟨ty, listed, named, typed, bound, isParam⟩ := held
  exact ⟨ty, listed, named, typeInfo?_eq_some_iff.2 (entries _ _ (typeInfo?_eq_some_iff.1 typed)),
    lookupLocal_of_prefix bound bindings, entries _ _ isParam⟩

namespace ParamsLaidOut

variable {offset : Nat} {ps : List Parse.WrittenParam} {types : List TypeInfo} {ids : List EntryId}

theorem nil (t : ScopeTable) (s : ScopeId) (offset : Nat) : t.ParamsLaidOut s offset [] [] [] where
  length_ids := rfl
  length_types := rfl
  param := by simp

/-- A parameter at `offset`, then parameters laid out from the end of its type. -/
theorem cons {p : Parse.WrittenParam} {info : TypeInfo} {id : EntryId}
    (first : t.ParamAt s p info offset id)
    (rest : t.ParamsLaidOut s (offset + info.size) ps types ids) :
    t.ParamsLaidOut s offset (p :: ps) (info :: types) (id :: ids) where
  length_ids := by simp [rest.length_ids]
  length_types := by simp [rest.length_types]
  param := by
    intro i q info' id' named typed numbered
    cases i with
    | zero =>
        simp only [List.getElem?_cons_zero, Option.some.injEq] at named typed numbered
        subst named typed numbered
        simpa using first
    | succ j =>
        simp only [List.getElem?_cons_succ] at named typed numbered
        have shifted : offset + (((info :: types).take (j + 1)).map (·.size)).sum =
            offset + info.size + ((types.take j).map (·.size)).sum := by
          simp [Nat.add_assoc]
        rw [shifted]
        exact rest.param j q info' id' named typed numbered

theorem mono (laidOut : t.ParamsLaidOut s offset ps types ids) (entries : t.Extends t')
    (bindings : t.bindingsOf s <+: t'.bindingsOf s) : t'.ParamsLaidOut s offset ps types ids where
  length_ids := laidOut.length_ids
  length_types := laidOut.length_types
  param i p info id named typed numbered :=
    (laidOut.param i p info id named typed numbered).mono entries bindings

end ParamsLaidOut

end ScopeTable

namespace Context

variable {ctx ctx' : Context} {name tyName : Token} {ty id : EntryId} {offset : Nat}

/--
Defining one parameter: its type name resolves to a built-in type, whose size the table holds,
and the parameter is stored at `offset`; the table keeps its invariant.
-/
theorem param_define (sound : ctx.table.TypeSound)
    (present : ctx.scope.index < ctx.table.scopeCount)
    (typeFound : ctx.lookupType tyName.lexeme tyName.loc = .ok ty)
    (defined : ctx.define name.lexeme
      (.var { name := name.lexeme, ty, kind := .param, offset := some offset }) name.loc =
      .ok (ctx', id)) :
    ∃ info : TypeInfo, ctx'.table.ParamAt ctx.scope ⟨name, tyName⟩ info offset id ∧
      ((ctx.table.typeInfo? ty).map (·.size)).getD 0 = info.size ∧ ctx'.table.TypeSound := by
  obtain ⟨info, isType, named, builtin⟩ := sound.type_of_lookupType typeFound
  have seeded : ctx.table.entry? ty = (Parse.builtinTypes[ty.index]?).map .type :=
    sound.builtin ty.index builtin
  rw [isType] at seeded
  obtain ⟨listedInfo, listed, same⟩ := Option.map_eq_some_iff.1 seeded.symm
  cases same
  have tableDefined := (define_eq_ok defined).1
  have isParam := ScopeTable.entry?_of_define tableDefined id
  rw [if_pos rfl] at isParam
  have kept := ScopeTable.Extends.of_define tableDefined
  refine ⟨info, ⟨ty, listed, named, ?_, ScopeTable.lookupLocal_of_define tableDefined present,
    isParam⟩, ?_, sound.define tableDefined ⟨rfl, builtin⟩⟩
  · exact ScopeTable.typeInfo?_eq_some_iff.2 (kept _ _ isType)
  · rw [ScopeTable.typeInfo?_eq_some_iff.2 isType]
    rfl

end Context

namespace Parse

variable {ctx : Context} {c : Cursor}

/--
Parameters read from `offset` on are laid out from it, in the order they are written, each in the
current scope.
-/
theorem params_laidOut : ∀ offset ctx c (r : Read c (List EntryId × Context)),
    params offset ctx c = .ok r → ctx.table.TypeSound →
    ctx.scope.index < ctx.table.scopeCount →
    ∃ (ps : List WrittenParam) (u : List Token) (types : List TypeInfo),
      c.Consumed u r.cursor ∧ ParamsWritten ps u ∧
      r.value.2.table.ParamsLaidOut ctx.scope offset ps types r.value.1 := by
  refine params.induct _ ?_
  intro offset ctx c restIH r parsed sound present
  obtain ⟨name, colon, tyName, sep, c1, c2, c3, c5, ty, id, ctx4, nameStep, isName, colonStep,
    isColon, tyStep, isType, typeFound, defined, sepStep, sepListed, more⟩ := params_eq_ok parsed
  obtain ⟨info, first, size, sound4⟩ := Context.param_define sound present typeFound defined
  have scope4 := Context.scope_define defined
  have present4 : ctx4.scope.index < ctx4.table.scopeCount := by
    rw [scope4]
    exact Nat.lt_of_lt_of_le present (Context.grows_define defined).scopeCount_le
  rcases more with ⟨isClose, valueEq, cursorEq⟩ | ⟨notClose, rest, restRead, valueEq, cursorEq⟩
  · rw [valueEq, cursorEq]
    exact ⟨[⟨name, tyName⟩], [name, colon, tyName, sep], [info],
      nameStep.cons (colonStep.cons (tyStep.cons sepStep.consumed)),
      .last isName isColon isType isClose, .cons first (.nil _ _ _)⟩
  · have isComma : sep.kind = .comma := by simpa [notClose] using sepListed
    obtain ⟨ps, u, types, consumed, written, laidOut⟩ := restIH c1 nameStep.left_lt c2
      colonStep.left_lt c3 tyStep.left_lt ty ctx4 c5 sepStep.left_lt rest restRead sound4 present4
    rw [size, scope4] at laidOut
    have kept := (params_reads _ _ _ _ restRead).defines present4
    rw [scope4] at kept
    rw [valueEq, cursorEq]
    exact ⟨⟨name, tyName⟩ :: ps, name :: colon :: tyName :: sep :: u, info :: types,
      nameStep.cons (colonStep.cons (tyStep.cons (sepStep.cons consumed))),
      .more isName isColon isType isComma written,
      .cons (first.mono kept.entries (kept.bindings _)) laidOut⟩

/-- A parameter list is laid out from offset zero, in the current scope. -/
theorem paramList_laidOut {r : Read c (List EntryId × Context)} (parsed : paramList ctx c = .ok r)
    (sound : ctx.table.TypeSound) (present : ctx.scope.index < ctx.table.scopeCount) :
    ∃ (ps : List WrittenParam) (u : List Token) (types : List TypeInfo),
      c.Consumed u r.cursor ∧ ParamListWritten ps u ∧
      r.value.2.table.ParamsLaidOut ctx.scope 0 ps types r.value.1 := by
  obtain ⟨lp, c1, lpStep, isOpen, ⟨rp, rpStep, isClose, valueEq⟩ |
    ⟨-, ps, psRead, valueEq, cursorEq⟩⟩ := paramList_eq_ok parsed
  · rw [valueEq]
    exact ⟨[], [lp, rp], [], lpStep.cons rpStep.consumed, .empty isOpen isClose, .nil _ _ _⟩
  · obtain ⟨qs, u, types, consumed, written, laidOut⟩ :=
      params_laidOut 0 ctx c1 ps psRead sound present
    rw [valueEq, cursorEq]
    exact ⟨qs, lp :: u, types, lpStep.cons consumed, .params isOpen written, laidOut⟩

/--
The parameters a function records are laid out from offset zero. For a function read from a
context whose table keeps its invariant, with its parameters written `( n₁ : T₁ , … , nₖ : Tₖ )`
right after its name, the function's entry records `k` parameter entries; the `i`-th is bound to
`nᵢ` in the parameters' scope and is a parameter variable named `nᵢ` of the built-in type named
`Tᵢ`, which the table holds as a type, stored at the sum of the sizes of `T₁` to `Tᵢ₋₁`.
-/
theorem funcDef_paramsLaidOut {index : Nat} {r : Read c (FuncDef × Context)}
    (sound : ctx.table.TypeSound) (parsed : funcDef index ctx c = .ok r) :
    ∃ (name : Token) (ps : List WrittenParam) (u w : List Token) (types : List TypeInfo)
      (info : FuncInfo),
      c.Consumed (name :: (u ++ w)) r.cursor ∧ ParamListWritten ps u ∧
      r.value.2.table.entry? r.value.1.entry = some (.func info) ∧
      r.value.2.table.ParamsLaidOut r.value.1.params 0 ps types info.params := by
  obtain ⟨name, c1, ps, body, returnType, entry, nameStep, -, psRead, bodyRead, -, defined,
    valueEq, cursorEq⟩ := funcDef_eq_ok parsed
  obtain ⟨qs, u, types, consumed, written, laidOut⟩ :=
    paramList_laidOut psRead (Context.enter_sound sound) (Context.enter_present ctx)
  obtain ⟨w, bodyConsumed, -⟩ := block_recognized bodyRead
  have paramsRead := paramList_reads psRead
  have present₁ : ps.value.2.scope.index < ps.value.2.table.scopeCount := by
    rw [paramsRead.keepsCurrent.scope]
    exact Nat.lt_of_lt_of_le (Context.enter_present ctx)
      (paramsRead.grows (Context.enter_present ctx)).scopeCount_le
  have bodyDefines := (block_reads bodyRead).defines present₁
  have tableDefined := (Context.define_eq_ok defined).1
  rw [Context.exit_table] at tableDefined
  have recorded := ScopeTable.entry?_of_define tableDefined entry
  rw [if_pos rfl] at recorded
  rw [valueEq, cursorEq]
  exact ⟨name, qs, u, w, types, _, nameStep.cons (consumed.trans bodyConsumed), written, recorded,
    (laidOut.mono bodyDefines.entries (bodyDefines.bindings _)).mono
      (ScopeTable.Extends.of_define tableDefined)
      (ScopeTable.bindingsOf_prefix_of_define tableDefined _)⟩

/-- The function of the reader's own test, with parameters `a : int`, `b : bool` and `c : float`. -/
theorem funcDef_paramsLaidOut_mixed :
    ∃ (c : Cursor) (r : Read c (FuncDef × Context)),
      Cursor.start (Feed.ofSource "f(a: int, b: bool, c: float) \x7b return c; \x7d") = .ok c ∧
      (Context.builtin ⟨1, 1⟩).table.TypeSound ∧ funcDef 0 (Context.builtin ⟨1, 1⟩) c = .ok r ∧
      ∃ (name : Token) (ps : List WrittenParam) (u w : List Token) (types : List TypeInfo)
        (info : FuncInfo),
        c.Consumed (name :: (u ++ w)) r.cursor ∧ ParamListWritten ps u ∧
        r.value.2.table.entry? r.value.1.entry = some (.func info) ∧
        r.value.2.table.ParamsLaidOut r.value.1.params 0 ps types info.params := by
  have decided :
      ((Cursor.start (Feed.ofSource "f(a: int, b: bool, c: float) \x7b return c; \x7d")).toOption.bind
        fun c => (funcDef 0 (Context.builtin ⟨1, 1⟩) c).toOption.map fun _ => true) = some true := by
    decide +kernel
  revert decided
  cases Cursor.start (Feed.ofSource "f(a: int, b: bool, c: float) \x7b return c; \x7d") with
  | error e =>
      intro decided
      cases decided
  | ok c =>
      cases parsed : funcDef 0 (Context.builtin ⟨1, 1⟩) c with
      | error e =>
          intro decided
          simp [Except.toOption, parsed] at decided
      | ok r =>
          intro _
          exact ⟨c, r, rfl, Context.builtin_typeSound _, parsed,
            funcDef_paramsLaidOut (Context.builtin_typeSound _) parsed⟩

/-- In the reader's own test, `a : int` is stored at 0, `b : bool` at 4 and `c : float` at 5. -/
example : ((Program.ofSource "f(a: int, b: bool, c: float) \x7b return c; \x7d").result.toOption.map
    fun p => [4, 5, 6].map fun i => (p.table.varInfo? ⟨i⟩).bind (·.offset)) =
    some [some 0, some 4, some 5] := by
  decide +kernel

end Parse

end ImpFront
