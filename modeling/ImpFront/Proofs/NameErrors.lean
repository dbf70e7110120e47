import ImpFront.Proofs.ScopeBalance
import ImpFront.Proofs.EntrySites

/-!
# Errors of names stand at the identifiers that the reader consumed

Four errors name what they are about: an undefined name, a name defined twice in one scope, a
call of a name that is not a function, and a read of a name that is not a variable
(`ParseError.nameRef`). The reader raises each with the lexeme and the location of an identifier
token it has consumed: the name read, the name declared, or the type name of a parameter. A
function's own name is defined, and so found to be a duplicate, only after its body is read and
its return type resolved, at the cursor after the body.

The other lookups the reader makes are of the built-in type names, for the type of a literal, a
condition, a logical operator or a comparison, and they are never undefined: the root binds the
four names, and every context the reader works in sees them (`Context.SeesBuiltins`), since
opening a scope, defining a name and closing a scope keep the bindings visible from the current
scope, or shadow them by variables and functions, which give `notAType` instead.

`Failure.NamesTaken f fl` says that a failure of a reading of the feed `f` names, if it names
anything, an identifier the reading took from `f`, and is never an undefined built-in type name.
Every rule of the reader keeps it, by the reader's own recursion, as in
`ImpFront.Proofs.Lookahead`, whose cursor positions it uses. Main statement:
`Program.read_nameErrors_at_identifiers`.
-/

namespace ImpFront

/-- The name and the location that an error of a name carries. -/
def ParseError.nameRef : ParseError → Option (String × Location)
  | .undefinedName n l => some (n, l)
  | .duplicateName n l => some (n, l)
  | .notCallable n _ l => some (n, l)
  | .notAVariable n _ l => some (n, l)
  | _ => none

namespace Feed

/--
The reading of `f` that has made `n` pulls took the token `t`: it is among the results of all
pulls but the last, whose result is the lookahead.
-/
def Took (f : Feed) (n : Nat) (t : Token) : Prop := .ok t ∈ f.pulls (n - 1)

variable {f : Feed} {n m : Nat} {t : Token}

theorem Took.mono (taken : f.Took n t) (le : n ≤ m) : f.Took m t :=
  (f.pulls_prefix (Nat.sub_le_sub_right le 1)).subset taken

/-- An identifier taken, as the name and location an error carries. -/
theorem Took.refers (taken : f.Took n t) (isIdent : t.kind = .ident) :
    ∀ n' l, some (t.lexeme, t.loc) = some (n', l) → f.Took n ⟨.ident, n', l⟩ := by
  intro n' l same
  obtain ⟨rfl, rfl⟩ := Prod.mk.inj (Option.some.inj same)
  obtain ⟨kind, lexeme, loc⟩ := t
  cases isIdent
  exact taken

end Feed

/--
A failure of a reading of `f` that names a name names an identifier the reading took, of that
lexeme and at that location; and it never says that a built-in type name is undefined.
-/
structure Failure.NamesTaken (f : Feed) (fl : Failure) : Prop where
  taken : ∀ n l, fl.error.nameRef = some (n, l) → f.Took fl.pulled ⟨.ident, n, l⟩
  builtin : ∀ n l, fl.error = .undefinedName n l → ∀ info ∈ Parse.builtinTypes, info.name ≠ n

/-- An outcome of a rule run on `f` whose failure, if it fails, is `Failure.NamesTaken`. -/
def NamesTaken {β : Type} (f : Feed) (x : Except Failure β) : Prop :=
  ∀ fl, x = .error fl → fl.NamesTaken f

/--
A check whose error, if it fails, names nothing or names `ref`, and is never an undefined
built-in type name.
-/
structure Checks {α : Type} (ref : Option (String × Location)) (x : Except ParseError α) : Prop where
  named : ∀ e, x = .error e → e.nameRef = none ∨ e.nameRef = ref
  builtin : ∀ e n l, x = .error e → e = .undefinedName n l →
    ∀ info ∈ Parse.builtinTypes, info.name ≠ n

section

variable {f : Feed} {β γ : Type}

/-- An error that names nothing. -/
theorem Failure.namesTaken_of_unnamed {fl : Failure} (unnamed : fl.error.nameRef = none) :
    fl.NamesTaken f where
  taken n l named := by rw [unnamed] at named; cases named
  builtin n l undefined := by rw [undefined] at unnamed; cases unnamed

namespace NamesTaken

theorem bind {x : Except Failure β} {g : β → Except Failure γ} (first : NamesTaken f x)
    (next : ∀ b, x = .ok b → NamesTaken f (g b)) : NamesTaken f (x >>= g) := by
  intro fl failed
  rcases Except.error_of_bind failed with early | ⟨b, ran, later⟩
  · exact first fl early
  · exact next b ran fl later

/-- The same, where what follows reads on from where the first step stopped. -/
theorem bind_on {cx : β → Cursor} {x : Except Failure β} {g : β → Except Failure γ}
    (first : NamesTaken f x) (reads : ReadsOn f cx x)
    (next : ∀ b, x = .ok b → (cx b).On f → NamesTaken f (g b)) : NamesTaken f (x >>= g) :=
  first.bind fun b ran => next b ran (reads.on_of_eq_ok ran)

theorem pure {b : γ} : NamesTaken f (Pure.pure b : Except Failure γ) := by
  intro fl failed
  cases failed

theorem throw {fl : Failure} (named : fl.NamesTaken f) :
    NamesTaken f (MonadExcept.throw fl : Except Failure γ) := by
  intro fl' failed
  cases failed
  exact named

theorem throw_unnamed {fl : Failure} (unnamed : fl.error.nameRef = none) :
    NamesTaken f (MonadExcept.throw fl : Except Failure γ) :=
  throw (Failure.namesTaken_of_unnamed unnamed)

end NamesTaken

namespace Cursor

variable {c : Cursor}

/-- A token that cannot be taken is a scanning error or an unexpected token: no name. -/
theorem expect_eq_error_unnamed {kinds : List TokenKind} {fl : Failure}
    (failed : c.expect kinds = .error fl) : fl.error.nameRef = none := by
  unfold expect at failed
  split at failed
  · obtain ⟨err, -, rfl⟩ := advance_eq_error failed
    rfl
  · cases failed
    rfl

theorem advance_namesTaken (notEof : c.look.kind ≠ .eof) : NamesTaken f (c.advance notEof) := by
  intro fl failed
  obtain ⟨err, -, rfl⟩ := advance_eq_error failed
  exact Failure.namesTaken_of_unnamed rfl

theorem expect_namesTaken (kinds : List TokenKind) : NamesTaken f (c.expect kinds) :=
  fun _ failed => Failure.namesTaken_of_unnamed (expect_eq_error_unnamed failed)

/-- A token taken from a point of a reading is among the tokens the reading took. -/
theorem Takes.took {t : Token} {d : Cursor} (on : c.On f) (taken : c.Takes t d) :
    f.Took d.pulled t := by
  obtain ⟨-, u, pulled, -⟩ := on
  rw [Feed.Took, taken.2.2.2, Nat.add_sub_cancel, pulled, taken.1]
  simp

/-- A check made at a cursor, whose error names at most an identifier taken before it. -/
theorem lift_bind_namesTaken {α : Type} {ref : Option (String × Location)}
    {x : Except ParseError α} {g : α → Except Failure γ} (check : Checks ref x)
    (taken : ∀ n l, ref = some (n, l) → f.Took c.pulled ⟨.ident, n, l⟩)
    (next : ∀ a, x = .ok a → NamesTaken f (g a)) : NamesTaken f (c.lift x >>= g) := by
  cases checked : x with
  | ok a => exact next a checked
  | error e =>
    intro fl failed
    cases failed
    refine ⟨fun n l named => ?_, fun n l undefined => check.builtin e n l checked undefined⟩
    rcases check.named e checked with unnamed | isRef
    · rw [fail_error, unnamed] at named
      cases named
    · exact taken n l (isRef.symm.trans named)

/-- A check whose error names nothing. -/
theorem lift_bind_unnamed {α : Type} {x : Except ParseError α} {g : α → Except Failure γ}
    (check : Checks none x) (next : ∀ a, x = .ok a → NamesTaken f (g a)) :
    NamesTaken f (c.lift x >>= g) :=
  lift_bind_namesTaken check (fun _ _ isNone => by cases isNone) next

end Cursor

end

/-! ## The checks of the context -/

namespace Context

/--
Every scope from the current one outwards that the reader works in sees the built-in type
names: the current scope is in the table, and each name resolves from it.
-/
structure SeesBuiltins (ctx : Context) : Prop where
  present : ctx.scope.index < ctx.table.scopeCount
  resolves : ∀ info ∈ Parse.builtinTypes, (ctx.table.resolve info.name ctx.scope).isSome

variable {ctx ctx' : Context} {name : String} {loc : Location}

theorem expectType_checks {expected found : EntryId} :
    Checks none (ctx.expectType expected found loc) where
  named e failed := by
    unfold expectType at failed
    split at failed <;> cases failed
    exact Or.inl rfl
  builtin e n l failed undefined := by
    unfold expectType at failed
    split at failed <;> cases failed
    cases undefined

namespace SeesBuiltins

variable (sees : ctx.SeesBuiltins)
include sees

/-- A built-in type name is never undefined where the context sees the built-in types. -/
theorem lookup_ne_undefined {n : String} {l : Location}
    (undefined : ctx.lookup n loc = .error (.undefinedName n l)) :
    ∀ info ∈ Parse.builtinTypes, info.name ≠ n := by
  intro info listed same
  obtain ⟨id, resolved⟩ := Option.isSome_iff_exists.1 (sees.resolves info listed)
  rw [same] at resolved
  simp [lookup, ScopeTable.lookup, resolved] at undefined

theorem lookup_checks : Checks (some (name, loc)) (ctx.lookup name loc) where
  named e failed := by
    unfold lookup at failed
    split at failed <;> cases failed
    exact Or.inr rfl
  builtin e n l failed undefined := by
    rw [undefined] at failed
    have sameName : n = name := by
      unfold lookup at failed
      split at failed <;> cases failed
      rfl
    subst sameName
    exact sees.lookup_ne_undefined failed

theorem lookupType_checks : Checks (some (name, loc)) (ctx.lookupType name loc) where
  named e failed := by
    unfold lookupType at failed
    split at failed
    · rename_i e' looked
      cases failed
      exact (sees.lookup_checks).named e looked
    · split at failed <;> cases failed
      exact Or.inl rfl
  builtin e n l failed undefined := by
    unfold lookupType at failed
    split at failed
    · rename_i e' looked
      cases failed
      exact (sees.lookup_checks).builtin e n l looked undefined
    · split at failed <;> cases failed
      cases undefined

/-- The type of a built-in name is looked up without an error of a name. -/
theorem lookupType_builtin (info : TypeInfo) (listed : info ∈ Parse.builtinTypes) :
    Checks none (ctx.lookupType info.name loc) where
  named e failed := by
    obtain ⟨id, resolved⟩ := Option.isSome_iff_exists.1 (sees.resolves info listed)
    have looked : ctx.lookup info.name loc = .ok id := by simp [lookup, ScopeTable.lookup, resolved]
    rw [lookupType, looked] at failed
    dsimp only at failed
    split at failed <;> cases failed
    exact Or.inl rfl
  builtin e n l failed := (sees.lookupType_checks).builtin e n l failed

theorem expectBool_checks {x : Expr} : Checks none (ctx.expectBool x) where
  named e failed := by
    unfold expectBool at failed
    split at failed
    · rename_i e' typeFailed
      cases failed
      exact (sees.lookupType_builtin ⟨"bool", 1⟩ (by simp [Parse.builtinTypes])).named e typeFailed
    · exact expectType_checks.named e failed
  builtin e n l failed := by
    unfold expectBool at failed
    split at failed
    · rename_i e' typeFailed
      cases failed
      exact (sees.lookupType_checks).builtin e n l typeFailed
    · exact expectType_checks.builtin e n l failed

theorem binary_checks {op : BinOp} {lhs rhs : Expr} : Checks none (ctx.binary op lhs rhs loc) where
  named e failed := by
    unfold binary at failed
    split at failed
    · -- both operands of a logical operator are checked to be booleans, the left one first
      split at failed <;> cases failed
      · exact (sees.expectBool_checks).named e ‹_›
      · exact (sees.expectBool_checks).named e ‹_›
    · split at failed
      · cases failed
        exact expectType_checks.named e ‹_›
      · split at failed
        · split at failed <;> cases failed
          exact (sees.lookupType_builtin ⟨"bool", 1⟩ (by simp [Parse.builtinTypes])).named e ‹_›
        · cases failed
  builtin e n l failed := by
    unfold binary at failed
    split at failed
    · split at failed <;> cases failed
      · exact (sees.expectBool_checks).builtin e n l ‹_›
      · exact (sees.expectBool_checks).builtin e n l ‹_›
    · split at failed
      · cases failed
        exact expectType_checks.builtin e n l ‹_›
      · split at failed
        · split at failed <;> cases failed
          exact (sees.lookupType_checks).builtin e n l ‹_›
        · cases failed

end SeesBuiltins

/-- A definition fails only as a duplicate of the name defined, at the location given. -/
theorem define_eq_error {x : Entry} {e : ParseError} (failed : ctx.define name x loc = .error e) :
    e = .duplicateName name loc := by
  unfold define at failed
  split at failed <;> cases failed
  rfl

theorem define_checks {x : Entry} : Checks (some (name, loc)) (ctx.define name x loc) where
  named e failed := by
    rw [define_eq_error failed]
    exact Or.inr rfl
  builtin e n l failed undefined := by
    rw [define_eq_error failed] at undefined
    cases undefined

end Context

theorem Parse.checkArgs_checks (ctx : Context) (args : List Expr) (params : List EntryId) :
    Checks none (Parse.checkArgs ctx args params) where
  named e failed := by
    fun_induction Parse.checkArgs ctx args params with
    | case1 a args p params e' typeFailed =>
        cases failed
        exact Context.expectType_checks.named e typeFailed
    | case2 a args p params typed ih => exact ih failed
    | case3 => cases failed
  builtin e n l failed := by
    fun_induction Parse.checkArgs ctx args params with
    | case1 a args p params e' typeFailed =>
        cases failed
        exact Context.expectType_checks.builtin e n l typeFailed
    | case2 a args p params typed ih => exact ih failed
    | case3 => cases failed

/-! ## Every context the reader works in sees the built-in types -/

/--
A name that resolves from a scope of a table resolves from it in every table grown from it whose
scopes keep their bindings in front, by induction over the walk towards the root.
-/
theorem ScopeTable.resolve_isSome_of_grows {t t' : ScopeTable} (grows : t.GrowsTo t')
    (kept : ∀ s, t.bindingsOf s <+: t'.bindingsOf s) (name : String) (s : ScopeId) :
    s.index < t.scopeCount → (t.resolve name s).isSome → (t'.resolve name s).isSome := by
  fun_induction t.resolve name s with
  | case1 s e bound =>
    intro _ _
    rw [resolve, lookupLocal_of_prefix bound (kept s)]
    rfl
  | case2 s notLocal p isParent below ih =>
    intro present found
    rw [resolve]
    split
    · rfl
    · rw [grows.parent s present, isParent]
      dsimp only
      rw [if_pos below]
      exact ih (Nat.lt_trans below present) found
  | case3 => simp
  | case4 => simp

namespace Context.SeesBuiltins

variable {ctx ctx' : Context} (sees : ctx.SeesBuiltins)
include sees

/-- What the current scope sees survives growth of the table that keeps bindings in front. -/
theorem of_grows (scope : ctx'.scope = ctx.scope) (grows : ctx.table.GrowsTo ctx'.table)
    (kept : ∀ s, ctx.table.bindingsOf s <+: ctx'.table.bindingsOf s) : ctx'.SeesBuiltins where
  present := by
    rw [scope]
    exact Nat.lt_of_lt_of_le sees.present grows.scopeCount_le
  resolves info listed := by
    rw [scope]
    exact ScopeTable.resolve_isSome_of_grows grows kept _ _ sees.present (sees.resolves info listed)

/-- A scope just opened binds nothing, so its names are those its parent sees. -/
theorem enter : ctx.enter.1.SeesBuiltins where
  present := ctx.enter_present
  resolves info listed := by
    have fromParent := ScopeTable.resolve_isSome_of_grows ctx.grows_enter ctx.defines_enter.bindings
      _ _ sees.present (sees.resolves info listed)
    have empty : ctx.enter.1.table.lookupLocal ctx.enter.2 info.name = none := by
      rw [ScopeTable.lookupLocal_eq, bindingsOf_enter,
        ScopeTable.bindingsOf_of_scopeCount_le (Nat.le_of_eq (by rw [enter_scope]))]
      rfl
    have below : ctx.scope.index < ctx.enter.2.index := by
      rw [enter_scope]
      exact sees.present
    rw [scope_enter, ScopeTable.resolve, empty, parent_enter]
    dsimp only
    rw [if_pos below]
    exact fromParent

theorem define {name : String} {x : Entry} {loc : Location} {id : EntryId}
    (defined : ctx.define name x loc = .ok (ctx', id)) : ctx'.SeesBuiltins :=
  sees.of_grows (scope_define defined) (grows_define defined)
    (defines_define defined sees.present).bindings

theorem stmts {stmts : List Stmt} (read : StmtsRead ctx stmts ctx') : ctx'.SeesBuiltins :=
  have changes := read.changes sees.present
  sees.of_grows changes.scope changes.grows (read.defines sees.present).bindings

theorem params {ids : List EntryId} (read : ParamsRead ctx ids ctx') : ctx'.SeesBuiltins := by
  induction read with
  | nil ctx => exact sees
  | cons _ defined _ laterIH => exact laterIH (sees.define defined)

theorem decls {decls : List Decl} (read : DeclsRead ctx decls ctx') : ctx'.SeesBuiltins := by
  induction read with
  | nil ctx => exact sees
  | var declRead _ laterIH => exact laterIH (sees.stmts declRead)
  | func paramsRead bodyRead _ defined _ laterIH =>
    have inner := sees.enter.params paramsRead
    have grows := (paramsRead.grows (enter_present _)).trans (bodyRead.changes inner.present).grows
    have kept := ((defines_enter _).trans ((paramsRead.defines (enter_present _)).trans
      (bodyRead.defines inner.present))).bindings
    exact laterIH ((sees.of_grows (scope_exit_enter grows) ((grows_enter _).trans grows) kept).define
      defined)

end Context.SeesBuiltins

/-- The root of a program's table binds the built-in types and is current. -/
theorem Context.builtin_seesBuiltins (loc : Location) : (builtin loc).SeesBuiltins where
  present := builtin_present loc
  resolves info listed := by
    obtain ⟨i, found⟩ := List.mem_iff_getElem?.1 listed
    have looked := lookup_eq_ok (lookupType_eq_ok (builtin_lookupType loc loc found)).1
    rw [ScopeTable.resolve_of_lookup looked]
    rfl

/-! ## Expressions -/

namespace Parse

variable {f : Feed} {ctx : Context}

/--
A primary expression read from a point of a reading, in a context that sees the built-in
types, given that the call and the parenthesized expression it may read further on keep the
names they report taken.
-/
theorem primary_namesTaken (sees : ctx.SeesBuiltins) {c : Cursor} (on : c.On f)
    (callIH : c.look.kind = .ident → ∀ name c1, c1.left < c.left → c1.On f → name.kind = .ident →
      f.Took c1.pulled name → NamesTaken f (call name ctx c1))
    (exprIH : c.look.kind = .lParen → ∀ c1, c1.left < c.left → c1.On f →
      NamesTaken f (expression ctx c1)) :
    NamesTaken f (primary ctx c) := by
  rw [primary]
  split
  case h_1 =>
    refine NamesTaken.bind (Cursor.advance_namesTaken _) ?_
    rintro ⟨tok, c1, h1⟩ -
    dsimp only
    split
    · exact NamesTaken.throw_unnamed rfl
    · exact Cursor.lift_bind_unnamed (sees.lookupType_builtin ⟨"int", 4⟩ (by simp [builtinTypes]))
        fun _ _ => NamesTaken.pure
  case h_2 =>
    refine NamesTaken.bind (Cursor.advance_namesTaken _) ?_
    rintro ⟨tok, c1, h1⟩ -
    dsimp only
    split
    · exact NamesTaken.throw_unnamed rfl
    · exact Cursor.lift_bind_unnamed (sees.lookupType_builtin ⟨"float", 4⟩ (by simp [builtinTypes]))
        fun _ _ => NamesTaken.pure
  case h_3 =>
    refine NamesTaken.bind (Cursor.advance_namesTaken _) ?_
    rintro ⟨tok, c1, h1⟩ -
    exact Cursor.lift_bind_unnamed (sees.lookupType_builtin ⟨"bool", 1⟩ (by simp [builtinTypes]))
      fun _ _ => NamesTaken.pure
  case h_4 =>
    refine NamesTaken.bind (Cursor.advance_namesTaken _) ?_
    rintro ⟨tok, c1, h1⟩ -
    exact Cursor.lift_bind_unnamed (sees.lookupType_builtin ⟨"string", 8⟩ (by simp [builtinTypes]))
      fun _ _ => NamesTaken.pure
  case h_5 isIdent =>
    refine NamesTaken.bind_on (Cursor.advance_namesTaken _) (c.advance_readsOn on _) ?_
    rintro ⟨name, c1, h1⟩ advanced on1
    -- the name is the identifier just taken, so each error of it names a token the reading took
    have taken : c.Takes name c1 := Cursor.takes_of_advance advanced
    have nameIdent : name.kind = .ident := by rw [taken.1]; exact isIdent
    have took := Cursor.Takes.took on taken
    dsimp only
    split
    · refine NamesTaken.bind (callIH isIdent name c1 h1 on1 nameIdent took) ?_
      rintro ⟨e, c2, h2⟩ -
      exact NamesTaken.pure
    · refine Cursor.lift_bind_namesTaken sees.lookup_checks (took.refers nameIdent) fun id _ => ?_
      split
      · exact NamesTaken.pure
      · exact NamesTaken.throw ⟨took.refers nameIdent, fun n l undefined => by cases undefined⟩
  case h_6 isParen =>
    refine NamesTaken.bind_on (Cursor.advance_namesTaken _) (c.advance_readsOn on _) ?_
    rintro ⟨_, c1, h1⟩ - on1
    refine NamesTaken.bind (exprIH isParen c1 h1 on1) ?_
    rintro ⟨e, c2, h2⟩ -
    refine NamesTaken.bind (Cursor.expect_namesTaken _) ?_
    rintro _ -
    exact NamesTaken.pure
  case h_7 =>
    exact NamesTaken.throw_unnamed rfl

/-- A primary expression that is neither a name nor in parentheses reads no expression further. -/
theorem primary_namesTaken_of_other (sees : ctx.SeesBuiltins) {c : Cursor} (on : c.On f)
    (notIdent : c.look.kind ≠ .ident) (notParen : c.look.kind ≠ .lParen) :
    NamesTaken f (primary ctx c) :=
  primary_namesTaken sees on (fun isIdent => absurd isIdent notIdent)
    (fun isParen => absurd isParen notParen)

/--
Every expression rule reports only names it took, in a context that sees the built-in types, by
the reader's own mutual recursion. A call is read after its name, which the reading took.
-/
theorem expression_namesTaken_all (sees : ctx.SeesBuiltins) :
    (∀ c, c.On f → NamesTaken f (expression ctx c)) ∧
    (∀ n c, c.On f → NamesTaken f (tier n ctx c)) ∧
    (∀ n lhs c, c.On f → NamesTaken f (tierRest n lhs ctx c)) ∧
    (∀ c, c.On f → NamesTaken f (primary ctx c)) ∧
    (∀ name c, c.On f → name.kind = .ident → f.Took c.pulled name →
      NamesTaken f (call name ctx c)) ∧
    (∀ c, c.On f → NamesTaken f (arguments ctx c)) := by
  refine expression.mutual_induct _ _ _ _ _ _ ?assignment ?tierZero ?tierSucc ?restNone
    ?restSome ?intLit ?floatLit ?boolLit ?stringLit ?ident ?paren ?other ?call ?arguments
  case assignment =>
    intro c tierIH exprIH on
    rw [expression]
    refine NamesTaken.bind_on (tierIH on) (expression_readsOn_all.2.1 5 c on) ?_
    rintro ⟨lhs, c1, h1⟩ - on1
    dsimp only
    split
    · refine NamesTaken.bind_on (Cursor.advance_namesTaken _) (c1.advance_readsOn on1 _) ?_
      rintro ⟨op, c2, h2⟩ - on2
      dsimp only
      split
      · refine NamesTaken.bind (exprIH c1 h1 c2 h2 on2) ?_
        rintro ⟨rhs, c3, h3⟩ -
        exact Cursor.lift_bind_unnamed sees.binary_checks fun _ _ => NamesTaken.pure
      · exact NamesTaken.throw_unnamed rfl
    · exact NamesTaken.pure
  case tierZero =>
    intro c primaryIH on
    rw [tier_zero]
    exact primaryIH on
  case tierSucc =>
    intro c k tierIH restIH on
    rw [tier]
    refine NamesTaken.bind_on (tierIH on) (expression_readsOn_all.2.1 k c on) ?_
    rintro ⟨lhs, c1, h1⟩ - on1
    refine NamesTaken.bind (restIH lhs c1 h1 on1) ?_
    rintro ⟨e, c2, h2⟩ -
    exact NamesTaken.pure
  case restNone =>
    intro n lhs c noOp on
    rw [tierRest]
    split
    · exact NamesTaken.pure
    · rename_i someOp
      rw [noOp] at someOp
      cases someOp
  case restSome =>
    intro n lhs c op someOp tierIH restIH on
    rw [tierRest]
    split
    · rename_i noOp
      rw [noOp] at someOp
      cases someOp
    · refine NamesTaken.bind_on (Cursor.advance_namesTaken _) (c.advance_readsOn on _) ?_
      rintro ⟨opTok, c1, h1⟩ - on1
      refine NamesTaken.bind_on (tierIH c1 h1 on1) (expression_readsOn_all.2.1 (n - 1) c1 on1) ?_
      rintro ⟨rhs, c2, h2⟩ - on2
      refine Cursor.lift_bind_unnamed sees.binary_checks fun e _ => ?_
      refine NamesTaken.bind (restIH c1 h1 c2 h2 e on2) ?_
      rintro ⟨e', c3, h3⟩ -
      exact NamesTaken.pure
  case intLit =>
    intro c isInt on
    exact primary_namesTaken_of_other sees on (by simp [isInt]) (by simp [isInt])
  case floatLit =>
    intro c isFloat on
    exact primary_namesTaken_of_other sees on (by simp [isFloat]) (by simp [isFloat])
  case boolLit =>
    intro c isBool on
    exact primary_namesTaken_of_other sees on (by simp [isBool]) (by simp [isBool])
  case stringLit =>
    intro c isString on
    exact primary_namesTaken_of_other sees on (by simp [isString]) (by simp [isString])
  case ident =>
    intro c isIdent callIH on
    exact primary_namesTaken sees on (fun _ => callIH) (by simp [isIdent])
  case paren =>
    intro c isParen exprIH on
    exact primary_namesTaken sees on (by simp [isParen]) (fun _ => exprIH)
  case other =>
    intro c notInt notFloat notBool notString notIdent notParen on
    exact primary_namesTaken_of_other sees on notIdent notParen
  case call =>
    intro name c argsIH on isIdent took
    rw [call]
    refine Cursor.lift_bind_namesTaken sees.lookup_checks (took.refers isIdent) fun callee _ => ?_
    split
    · exact NamesTaken.throw ⟨took.refers isIdent, fun n l undefined => by cases undefined⟩
    · refine NamesTaken.bind_on (Cursor.expect_namesTaken _) (c.expect_readsOn on _) ?_
      rintro ⟨_, c1, h1⟩ - on1
      refine NamesTaken.bind (?args : NamesTaken f _) ?_
      case args =>
        split
        · refine NamesTaken.bind (Cursor.advance_namesTaken _) ?_
          rintro _ -
          exact NamesTaken.pure
        · exact argsIH c1 h1 on1
      rintro ⟨args, c2, h2⟩ -
      dsimp only
      split
      · exact NamesTaken.throw_unnamed rfl
      · exact Cursor.lift_bind_unnamed (checkArgs_checks ctx _ _) fun _ _ => NamesTaken.pure
  case arguments =>
    intro c exprIH argsIH on
    rw [arguments]
    refine NamesTaken.bind_on (exprIH on) (expression_readsOn on) ?_
    rintro ⟨e, c1, h1⟩ - on1
    refine NamesTaken.bind_on (Cursor.expect_namesTaken _) (c1.expect_readsOn on1 _) ?_
    rintro ⟨sep, c2, h2⟩ - on2
    dsimp only
    split
    · exact NamesTaken.pure
    · refine NamesTaken.bind (argsIH c1 h1 c2 h2 on2) ?_
      rintro ⟨rest, c3, h3⟩ -
      exact NamesTaken.pure

theorem expression_namesTaken (sees : ctx.SeesBuiltins) {c : Cursor} (on : c.On f) :
    NamesTaken f (expression ctx c) :=
  (expression_namesTaken_all sees).1 c on

/-! ## Statements -/

theorem varDecl_namesTaken (sees : ctx.SeesBuiltins) {c : Cursor} (on : c.On f) :
    NamesTaken f (varDecl ctx c) := by
  rw [varDecl]
  refine NamesTaken.bind_on (Cursor.expect_namesTaken _) (c.expect_readsOn on _) ?_
  rintro ⟨kw, c1, h1⟩ - on1
  refine NamesTaken.bind_on (Cursor.expect_namesTaken _) (c1.expect_readsOn on1 _) ?_
  rintro ⟨name, c2, h2⟩ nameRead on2
  have nameStep := Cursor.takes_of_expect nameRead
  have took : f.Took c2.pulled name := Cursor.Takes.took on1 nameStep.2
  refine NamesTaken.bind_on (Cursor.expect_namesTaken _) (c2.expect_readsOn on2 _) ?_
  rintro ⟨_, c3, h3⟩ - on3
  refine NamesTaken.bind_on (expression_namesTaken sees on3) (expression_readsOn on3) ?_
  rintro ⟨init, c4, h4⟩ - on4
  refine NamesTaken.bind_on (Cursor.expect_namesTaken _) (c4.expect_readsOn on4 _) ?_
  rintro ⟨_, c5, h5⟩ - on5
  have later : c2.pulled ≤ c5.pulled := on2.pulled_le on5 (by dsimp only; omega)
  exact Cursor.lift_bind_namesTaken Context.define_checks
    ((took.mono later).refers (List.mem_singleton.1 nameStep.1)) fun _ _ => NamesTaken.pure

theorem exprStatement_namesTaken (sees : ctx.SeesBuiltins) {c : Cursor} (on : c.On f) :
    NamesTaken f (exprStatement ctx c) := by
  rw [exprStatement]
  refine NamesTaken.bind (expression_namesTaken sees on) ?_
  rintro ⟨e, c1, h1⟩ -
  refine NamesTaken.bind (Cursor.expect_namesTaken _) ?_
  rintro _ -
  exact NamesTaken.pure

theorem condition_namesTaken (sees : ctx.SeesBuiltins) {c : Cursor} (on : c.On f) :
    NamesTaken f (condition ctx c) := by
  rw [condition]
  refine NamesTaken.bind_on (Cursor.expect_namesTaken _) (c.expect_readsOn on _) ?_
  rintro ⟨_, c1, h1⟩ - on1
  refine NamesTaken.bind (expression_namesTaken sees on1) ?_
  rintro ⟨cond, c2, h2⟩ -
  refine Cursor.lift_bind_unnamed sees.expectBool_checks fun _ _ => ?_
  refine NamesTaken.bind (Cursor.expect_namesTaken _) ?_
  rintro _ -
  exact NamesTaken.pure

/--
A statement read from a point of a reading in a context that sees the built-in types, given
that the block it may be and the statements it reads further on keep the names they report taken.
The contexts it reads on in, after a `then` branch or a `for` loop's first statement, see the
built-in types as the one before.
-/
theorem statement_namesTaken {c : Cursor} (on : c.On f)
    (blockIH : ∀ ctx : Context, ctx.SeesBuiltins → NamesTaken f (block ctx c))
    (stmtIH : ∀ (ctx : Context) (c' : Cursor), c'.left < c.left → c'.On f → ctx.SeesBuiltins →
      NamesTaken f (statement ctx c'))
    (sees : ctx.SeesBuiltins) : NamesTaken f (statement ctx c) := by
  rw [statement]
  split
  case h_1 =>
    refine NamesTaken.bind (blockIH ctx sees) ?_
    rintro ⟨⟨b, ctx1⟩, c1, h1⟩ -
    exact NamesTaken.pure
  case h_2 =>
    refine NamesTaken.bind_on (Cursor.advance_namesTaken _) (c.advance_readsOn on _) ?_
    rintro ⟨kw, c1, h1⟩ - on1
    refine NamesTaken.bind_on (condition_namesTaken sees on1) (condition_readsOn on1) ?_
    rintro ⟨cond, c2, h2⟩ - on2
    refine NamesTaken.bind_on (stmtIH ctx c2 (by omega) on2 sees)
      ((statements_readsOn c2.left c2 rfl on2).1 ctx) ?_
    rintro ⟨⟨thenBranch, ctx3⟩, c3, h3⟩ thenRan on3
    have sees3 : ctx3.SeesBuiltins := sees.stmts (statement_reads_all.1 _ _ _ thenRan)
    dsimp only
    split
    · refine NamesTaken.bind_on (Cursor.advance_namesTaken _) (c3.advance_readsOn on3 _) ?_
      rintro ⟨_, c4, h4⟩ - on4
      refine NamesTaken.bind (stmtIH ctx3 c4 (by omega) on4 sees3) ?_
      rintro ⟨⟨elseBranch, ctx5⟩, c5, h5⟩ -
      exact NamesTaken.pure
    · exact NamesTaken.pure
  case h_3 =>
    refine NamesTaken.bind_on (Cursor.advance_namesTaken _) (c.advance_readsOn on _) ?_
    rintro ⟨kw, c1, h1⟩ - on1
    refine NamesTaken.bind_on (condition_namesTaken sees on1) (condition_readsOn on1) ?_
    rintro ⟨cond, c2, h2⟩ - on2
    refine NamesTaken.bind (stmtIH ctx c2 (by omega) on2 sees) ?_
    rintro ⟨⟨body, ctx3⟩, c3, h3⟩ -
    exact NamesTaken.pure
  case h_4 =>
    refine NamesTaken.bind_on (Cursor.advance_namesTaken _) (c.advance_readsOn on _) ?_
    rintro ⟨kw, c1, h1⟩ - on1
    refine NamesTaken.bind_on (Cursor.expect_namesTaken _) (c1.expect_readsOn on1 _) ?_
    rintro ⟨_, c2, h2⟩ - on2
    dsimp only
    refine NamesTaken.bind_on (?init : NamesTaken f _) (?initReads : ReadsOn f Read.cursor _) ?_
    case init =>
      split
      · refine NamesTaken.bind (varDecl_namesTaken sees.enter on2) ?_
        rintro _ -
        exact NamesTaken.pure
      · exact exprStatement_namesTaken sees.enter on2
    case initReads =>
      split
      · refine ReadsOn.bind (varDecl_readsOn on2) ?_
        rintro ⟨⟨d, ctx3⟩, c3, h3⟩ on3
        exact ReadsOn.pure on3
      · exact exprStatement_readsOn on2
    rintro ⟨⟨init, ctx3⟩, c3, h3⟩ initRan on3
    have sees3 : ctx3.SeesBuiltins := by
      split at initRan
      · rcases Except.ok_of_bind_eq_ok initRan with ⟨⟨⟨d, ctx3'⟩, c3', h3'⟩, declRead, initRan⟩
        cases initRan
        exact sees.enter.stmts (varDecl_reads declRead)
      · exact sees.enter.stmts (exprStatement_reads initRan)
    refine NamesTaken.bind_on (expression_namesTaken sees3 on3) (expression_readsOn on3) ?_
    rintro ⟨test, c4, h4⟩ - on4
    refine Cursor.lift_bind_unnamed sees3.expectBool_checks fun _ _ => ?_
    refine NamesTaken.bind_on (Cursor.expect_namesTaken _) (c4.expect_readsOn on4 _) ?_
    rintro ⟨_, c5, h5⟩ - on5
    refine NamesTaken.bind_on (expression_namesTaken sees3 on5) (expression_readsOn on5) ?_
    rintro ⟨step, c6, h6⟩ - on6
    refine NamesTaken.bind_on (Cursor.expect_namesTaken _) (c6.expect_readsOn on6 _) ?_
    rintro ⟨_, c7, h7⟩ - on7
    dsimp only
    have shorter : c7.left < c.left := by
      dsimp only at h4 h5 h6 h7
      omega
    refine NamesTaken.bind (stmtIH _ c7 shorter on7 sees3.enter) ?_
    rintro ⟨⟨body, ctx8⟩, c8, h8⟩ -
    exact NamesTaken.pure
  case h_5 =>
    refine NamesTaken.bind (varDecl_namesTaken sees on) ?_
    rintro _ -
    exact NamesTaken.pure
  case h_6 =>
    refine NamesTaken.bind_on (Cursor.advance_namesTaken _) (c.advance_readsOn on _) ?_
    rintro ⟨kw, c1, h1⟩ - on1
    refine NamesTaken.bind (expression_namesTaken sees on1) ?_
    rintro ⟨value, c2, h2⟩ -
    refine NamesTaken.bind (Cursor.expect_namesTaken _) ?_
    rintro _ -
    exact NamesTaken.pure
  case h_7 =>
    split
    · exact exprStatement_namesTaken sees on
    · exact NamesTaken.throw_unnamed rfl

theorem block_namesTaken {c : Cursor} (on : c.On f)
    (bodyIH : ∀ (ctx : Context) (c' : Cursor), c'.left < c.left → c'.On f → ctx.SeesBuiltins →
      NamesTaken f (blockBody ctx c'))
    (sees : ctx.SeesBuiltins) : NamesTaken f (block ctx c) := by
  rw [block]
  refine NamesTaken.bind_on (Cursor.expect_namesTaken _) (c.expect_readsOn on _) ?_
  rintro ⟨brace, c1, h1⟩ - on1
  refine NamesTaken.bind (bodyIH _ c1 h1 on1 sees.enter) ?_
  rintro ⟨stmts, ctx2, c2, h2⟩ -
  refine NamesTaken.bind (Cursor.expect_namesTaken _) ?_
  rintro _ -
  exact NamesTaken.pure

theorem blockBody_namesTaken {c : Cursor} (on : c.On f)
    (stmtIH : ∀ ctx : Context, ctx.SeesBuiltins → NamesTaken f (statement ctx c))
    (bodyIH : ∀ (ctx : Context) (c' : Cursor), c'.left < c.left → c'.On f → ctx.SeesBuiltins →
      NamesTaken f (blockBody ctx c'))
    (sees : ctx.SeesBuiltins) : NamesTaken f (blockBody ctx c) := by
  rw [blockBody]
  split
  · exact NamesTaken.pure
  · refine NamesTaken.bind_on (stmtIH ctx sees) ((statements_readsOn c.left c rfl on).1 ctx) ?_
    rintro ⟨⟨s, ctx1⟩, c1, h1⟩ ran on1
    have sees1 : ctx1.SeesBuiltins := sees.stmts (statement_reads_all.1 _ _ _ ran)
    refine NamesTaken.bind (bodyIH ctx1 c1 h1 on1 sees1) ?_
    rintro ⟨rest, ctx2, c2, h2⟩ -
    exact NamesTaken.pure

/--
Every statement rule reports only names it took, by strong induction on the input left, as
`statements_readsOn`.
-/
theorem statements_namesTaken (n : Nat) : ∀ c : Cursor, c.left = n → c.On f →
    (∀ ctx : Context, ctx.SeesBuiltins → NamesTaken f (statement ctx c)) ∧
      (∀ ctx : Context, ctx.SeesBuiltins → NamesTaken f (block ctx c)) ∧
      ∀ ctx : Context, ctx.SeesBuiltins → NamesTaken f (blockBody ctx c) := by
  induction n using Nat.strongRecOn with
  | _ n ih =>
    intro c atN on
    have bodyIH : ∀ (ctx : Context) (c' : Cursor), c'.left < c.left → c'.On f →
        ctx.SeesBuiltins → NamesTaken f (blockBody ctx c') := fun ctx c' shorter on' =>
      (ih c'.left (atN ▸ shorter) c' rfl on').2.2 ctx
    have blockIH : ∀ ctx : Context, ctx.SeesBuiltins → NamesTaken f (block ctx c) :=
      fun _ => block_namesTaken on bodyIH
    have stmtIH : ∀ ctx : Context, ctx.SeesBuiltins → NamesTaken f (statement ctx c) :=
      fun _ => statement_namesTaken on blockIH fun ctx' c' shorter on' =>
        (ih c'.left (atN ▸ shorter) c' rfl on').1 ctx'
    exact ⟨stmtIH, blockIH, fun _ => blockBody_namesTaken on stmtIH bodyIH⟩

/-! ## Declarations -/

theorem params_namesTaken :
    ∀ offset ctx (c : Cursor), c.On f → ctx.SeesBuiltins → NamesTaken f (params offset ctx c) := by
  refine params.induct _ ?_
  intro offset ctx c restIH on sees
  rw [params]
  refine NamesTaken.bind_on (Cursor.expect_namesTaken _) (c.expect_readsOn on _) ?_
  rintro ⟨name, c1, h1⟩ nameRead on1
  have nameStep := Cursor.takes_of_expect nameRead
  have nameTook : f.Took c1.pulled name := Cursor.Takes.took on nameStep.2
  refine NamesTaken.bind_on (Cursor.expect_namesTaken _) (c1.expect_readsOn on1 _) ?_
  rintro ⟨_, c2, h2⟩ - on2
  refine NamesTaken.bind_on (Cursor.expect_namesTaken _) (c2.expect_readsOn on2 _) ?_
  rintro ⟨tyName, c3, h3⟩ tyRead on3
  have tyStep := Cursor.takes_of_expect tyRead
  have tyTook : f.Took c3.pulled tyName := Cursor.Takes.took on2 tyStep.2
  refine Cursor.lift_bind_namesTaken sees.lookupType_checks
    (tyTook.refers (List.mem_singleton.1 tyStep.1)) fun ty _ => ?_
  have later : c1.pulled ≤ c3.pulled := on1.pulled_le on3 (by dsimp only; omega)
  refine Cursor.lift_bind_namesTaken Context.define_checks
    ((nameTook.mono later).refers (List.mem_singleton.1 nameStep.1)) fun defined definedEq => ?_
  obtain ⟨ctx4, id⟩ := defined
  refine NamesTaken.bind_on (Cursor.expect_namesTaken _) (c3.expect_readsOn on3 _) ?_
  rintro ⟨sep, c5, h5⟩ - on5
  dsimp only
  split
  · exact NamesTaken.pure
  · refine NamesTaken.bind (restIH c1 h1 c2 h2 c3 h3 ty ctx4 c5 h5 on5 (sees.define definedEq)) ?_
    rintro ⟨⟨rest, ctx6⟩, c6, h6⟩ -
    exact NamesTaken.pure

theorem paramList_namesTaken (sees : ctx.SeesBuiltins) {c : Cursor} (on : c.On f) :
    NamesTaken f (paramList ctx c) := by
  rw [paramList]
  refine NamesTaken.bind_on (Cursor.expect_namesTaken _) (c.expect_readsOn on _) ?_
  rintro ⟨_, c1, h1⟩ - on1
  dsimp only
  split
  · refine NamesTaken.bind (Cursor.expect_namesTaken _) ?_
    rintro _ -
    exact NamesTaken.pure
  · refine NamesTaken.bind (params_namesTaken 0 ctx c1 on1 sees) ?_
    rintro _ -
    exact NamesTaken.pure

theorem funcDef_namesTaken {index : Nat} (sees : ctx.SeesBuiltins) {c : Cursor} (on : c.On f) :
    NamesTaken f (funcDef index ctx c) := by
  rw [funcDef]
  refine NamesTaken.bind_on (Cursor.expect_namesTaken _) (c.expect_readsOn on _) ?_
  rintro ⟨name, c1, h1⟩ nameRead on1
  have nameStep := Cursor.takes_of_expect nameRead
  have took : f.Took c1.pulled name := Cursor.Takes.took on nameStep.2
  dsimp only
  refine NamesTaken.bind_on (paramList_namesTaken sees.enter on1) (paramList_readsOn on1) ?_
  rintro ⟨⟨paramIds, ctx2⟩, c2, h2⟩ psRan on2
  have sees2 : ctx2.SeesBuiltins := sees.enter.params (paramList_reads psRan)
  refine NamesTaken.bind_on ((statements_namesTaken c2.left c2 rfl on2).2.1 ctx2 sees2)
    ((statements_readsOn c2.left c2 rfl on2).2.1 ctx2) ?_
  rintro ⟨⟨body, ctx3⟩, c3, h3⟩ - on3
  have later : c1.pulled ≤ c3.pulled := on1.pulled_le on3 (by dsimp only at h3 ⊢; omega)
  split
  · exact Cursor.lift_bind_namesTaken Context.define_checks
      ((took.mono later).refers (List.mem_singleton.1 nameStep.1)) fun _ _ => NamesTaken.pure
  · exact NamesTaken.throw_unnamed rfl
  · exact NamesTaken.throw_unnamed rfl

theorem declaration_namesTaken {index : Nat} (sees : ctx.SeesBuiltins) {c : Cursor} (on : c.On f) :
    NamesTaken f (declaration index ctx c) := by
  rw [declaration]
  split
  · refine NamesTaken.bind (varDecl_namesTaken sees on) ?_
    rintro _ -
    exact NamesTaken.pure
  · split
    · refine NamesTaken.bind (funcDef_namesTaken sees on) ?_
      rintro _ -
      exact NamesTaken.pure
    · exact NamesTaken.throw_unnamed rfl

/-- Declarations are read each in the context the one before leaves, which sees the built-in types. -/
theorem declarations_namesTaken :
    ∀ index ctx (c : Cursor), c.On f → ctx.SeesBuiltins →
      NamesTaken f (declarations index ctx c) := by
  refine declarations.induct _ ?atEnd ?more
  case atEnd =>
    intro index ctx c isEnd on sees
    rw [declarations, if_pos isEnd]
    exact NamesTaken.pure
  case more =>
    intro index ctx c notEnd restIH on sees
    rw [declarations, if_neg notEnd]
    refine NamesTaken.bind_on (declaration_namesTaken sees on) (declaration_readsOn on) ?_
    rintro ⟨⟨d, ctx1⟩, c1, h1⟩ ran on1
    refine NamesTaken.bind (restIH ctx1 c1 h1 on1 (sees.decls (declaration_reads ran))) ?_
    rintro ⟨rest, ctx2, c2⟩ -
    exact NamesTaken.pure

/--
A function definition fails with a duplicate in its parameter list, in its body, or at its own
name: then the name was taken, the parameters and the body read and the return type resolved, and
the failure stands at the cursor after the body.
-/
theorem funcDef_eq_duplicate {index : Nat} {c : Cursor} {fl : Failure} {n : String} {l : Location}
    (failed : funcDef index ctx c = .error fl) (duplicate : fl.error = .duplicateName n l) :
    (∃ c1, paramList ctx.enter.1 c1 = .error fl) ∨
      (∃ (c1 : Cursor) (ps : Read c1 (List EntryId × Context)), paramList ctx.enter.1 c1 = .ok ps ∧
        block ps.value.2 ps.cursor = .error fl) ∨
      ∃ (name : Token) (c1 : Cursor) (ps : Read c1 (List EntryId × Context))
        (body : Read ps.cursor (Block × Context)) (returnType : EntryId),
        c.Takes name c1 ∧ name.kind = .ident ∧ paramList ctx.enter.1 c1 = .ok ps ∧
        block ps.value.2 ps.cursor = .ok body ∧
        resolveReturnType body.value.1.returns = .ok returnType ∧
        n = name.lexeme ∧ l = name.loc ∧ fl.pulled = body.cursor.pulled := by
  have named : fl.error.nameRef ≠ none := by
    rw [duplicate]
    exact Option.some_ne_none _
  rw [funcDef] at failed
  rcases Except.error_of_bind failed with nameFailed | ⟨⟨name, c1, h1⟩, nameRead, failed⟩
  · exact absurd (Cursor.expect_eq_error_unnamed nameFailed) named
  rcases Except.error_of_bind failed with psFailed | ⟨⟨⟨ids, ctx2⟩, c2, h2⟩, psRead, failed⟩
  · exact Or.inl ⟨c1, psFailed⟩
  rcases Except.error_of_bind failed with bodyFailed | ⟨⟨⟨body, ctx3⟩, c3, h3⟩, bodyRead, failed⟩
  · exact Or.inr (Or.inl ⟨c1, _, psRead, bodyFailed⟩)
  dsimp only at failed
  split at failed
  · rename_i returnType resolved
    rcases Except.error_of_bind failed with pureFailed | ⟨returnType', isPure, failed⟩
    · cases pureFailed
    cases isPure
    rcases Except.error_of_bind failed with defineFailed | ⟨⟨ctx5, entry⟩, -, failed⟩
    · unfold Cursor.lift at defineFailed
      split at defineFailed
      · cases defineFailed
      · rename_i e defineError
        cases defineFailed
        rw [Cursor.fail_error, Context.define_eq_error defineError] at duplicate
        cases duplicate
        have nameStep := Cursor.takes_of_expect nameRead
        exact Or.inr (Or.inr ⟨name, c1, _, ⟨(body, ctx3), c3, h3⟩, returnType, nameStep.2,
          List.mem_singleton.1 nameStep.1, psRead, bodyRead, resolved, rfl, rfl, rfl⟩)
    · cases failed
  all_goals
    rcases Except.error_of_bind failed with thrown | ⟨returnType, thrown, -⟩
    · cases thrown
      exact absurd rfl named
    · cases thrown

end Parse

/-- A reading that fails reports only names it took, and no built-in type name as undefined. -/
theorem Program.read_namesTaken (f : Feed) :
    ∀ e, (Program.read f).result = .error e → (Failure.mk e (Program.read f).pulled).NamesTaken f := by
  have started := Cursor.start_readsOn f
  unfold Program.read
  split
  · rename_i fl startFailed
    intro e failed
    cases failed
    unfold Cursor.start at startFailed
    split at startFailed <;> cases startFailed
    exact Failure.namesTaken_of_unnamed rfl
  · rename_i c startOk
    rw [startOk] at started
    have sees := Context.builtin_seesBuiltins c.look.loc
    dsimp only [Context.builtin] at sees
    dsimp only
    split
    · intro e failed
      cases failed
    · rename_i fl declsFailed
      intro e failed
      cases failed
      exact Parse.declarations_namesTaken 0 _ c started sees fl declsFailed

/-- A token the reading took is among the tokens it consumed before its last pull. -/
theorem Feed.Took.mem_consumed {f : Feed} {n : Nat} {t : Token} {u : List Token}
    {last : Except LexError Token} (taken : f.Took n t) (pulled : f.pulls n = u.map .ok ++ [last]) :
    t ∈ u := by
  have count := Feed.count_of_pulls pulled
  rw [Feed.Took, count, Nat.add_sub_cancel] at taken
  rw [count, Feed.pulls_succ] at pulled
  rw [(List.append_inj' pulled rfl).1] at taken
  obtain ⟨t', member, same⟩ := List.mem_map.1 taken
  cases same
  exact member

/--
Errors of names stand at identifiers the reader consumed. When the reading of a token stream
stops with an undefined name, a duplicate, a call of a name that is not a function or a read of a
name that is not a variable, of name `n` at location `l`, the results it pulled are the tokens it
consumed and then one last result, and an identifier `n` at `l` is among the consumed tokens. No
built-in type name is ever reported undefined. And a function's own name is found to be a
duplicate only after its body is read and its return type resolved: a duplicate raised by a
function definition is raised in its parameter list, in its body, or at its name token, at the
cursor after the body.
-/
theorem Program.read_nameErrors_at_identifiers (f : Feed) :
    (∀ e n l, (Program.read f).result = .error e → e.nameRef = some (n, l) →
      ∃ (u : List Token) (last : Except LexError Token),
        f.pulls (Program.read f).pulled = u.map .ok ++ [last] ∧ ⟨.ident, n, l⟩ ∈ u) ∧
    (∀ n l, (Program.read f).result = .error (.undefinedName n l) →
      ∀ info ∈ Parse.builtinTypes, info.name ≠ n) ∧
    ∀ index ctx c fl n l, Parse.funcDef index ctx c = .error fl → fl.error = .duplicateName n l →
      (∃ c1, Parse.paramList ctx.enter.1 c1 = .error fl) ∨
      (∃ (c1 : Cursor) (ps : Read c1 (List EntryId × Context)),
        Parse.paramList ctx.enter.1 c1 = .ok ps ∧ Parse.block ps.value.2 ps.cursor = .error fl) ∨
      ∃ (name : Token) (c1 : Cursor) (ps : Read c1 (List EntryId × Context))
        (body : Read ps.cursor (Block × Context)) (returnType : EntryId),
        c.Takes name c1 ∧ name.kind = .ident ∧ Parse.paramList ctx.enter.1 c1 = .ok ps ∧
        Parse.block ps.value.2 ps.cursor = .ok body ∧
        resolveReturnType body.value.1.returns = .ok returnType ∧
        n = name.lexeme ∧ l = name.loc ∧ fl.pulled = body.cursor.pulled := by
  refine ⟨fun e n l failed named => ?_, fun n l failed => ?_,
    fun _ _ _ _ _ _ failed duplicate => Parse.funcDef_eq_duplicate failed duplicate⟩
  · obtain ⟨u, last, pulled, -⟩ := Program.read_pullsOneAhead f
    exact ⟨u, last, pulled, ((read_namesTaken f e failed).taken n l named).mem_consumed pulled⟩
  · exact (read_namesTaken f _ failed).builtin n l rfl

end ImpFront
