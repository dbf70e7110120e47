import Mathlib.Data.List.Forall2
import ImpFront.Proofs.TableUpdates

/-!
# The typing judgment of read programs

Every expression the reader builds holds the entry of its type. This module states, over a
scope table, when those entries are right: a judgment on expressions, on statements (with
the return type of the function they stand in), on declarations and on whole programs, and
the invariant of the table that the judgment relies on (`ScopeTable.TypeSound`): the four
built-in types are entries 0 to 3 and the only type entries, every binding names an entry of
that name, variables have built-in types, and functions have built-in return types and
variable parameters.

The judgment only ever looks entries up, so it survives the growth of the table
(`Expr.WellTyped.mono` and its companions).
-/

namespace ImpFront

/-! ## Built-in types -/

namespace EntryId

/-- The entry of `int`, the first built-in type. -/
def intType : EntryId := ⟨0⟩

/-- The entry of `float`. -/
def floatType : EntryId := ⟨1⟩

/-- The entry of `bool`. -/
def boolType : EntryId := ⟨2⟩

/-- The entry of `string`, the last built-in type. -/
def stringType : EntryId := ⟨3⟩

/-- One of the four entries of the built-in types. -/
def IsBuiltinType (e : EntryId) : Prop := e.index < 4

instance : DecidablePred IsBuiltinType := fun e => inferInstanceAs (Decidable (e.index < 4))

end EntryId

/-- The built-in type of a literal value. -/
def Literal.type : Literal → EntryId
  | .int _ => .intType
  | .float _ => .floatType
  | .bool _ => .boolType
  | .str _ => .stringType

theorem Literal.type_isBuiltinType (value : Literal) : value.type.IsBuiltinType := by
  cases value <;> simp only [Literal.type] <;> decide

/-! ## The invariant of the table -/

/--
The table's side of typing: the built-in types are entries 0 to 3, in the order `int`,
`float`, `bool`, `string`, and no other entry is a type; every binding of a name is to an
entry of that name; variables have built-in types, and functions built-in return types and
parameters that are variables.
-/
structure ScopeTable.TypeSound (t : ScopeTable) : Prop where
  builtin : ∀ i, i < 4 → t.entry? ⟨i⟩ = (Parse.builtinTypes[i]?).map .type
  onlyBuiltin : ∀ e info, t.entry? e = some (.type info) → e.IsBuiltinType
  bindingsNamed : ∀ s b, b ∈ t.bindingsOf s → ∃ x, t.entry? b.2 = some x ∧ x.name = b.1
  varTypes : ∀ e v, t.entry? e = some (.var v) → v.ty.IsBuiltinType
  funcSigs : ∀ e f, t.entry? e = some (.func f) →
    f.returnType.IsBuiltinType ∧ ∀ p ∈ f.params, ∃ v, t.entry? p = some (.var v)

/-! ## The judgment -/

/--
The typing of expressions over a table. Literals have their built-in type; a variable read
has the type of its variable entry; `||` and `&&` take and give booleans; a comparison takes
two operands of one type and gives a boolean; `+ - * /` take two operands of one type and
give it; `=` assigns to a variable read an operand of its type and gives that type; a call
names a function entry and passes one argument of each parameter's type, and gives the
function's return type.
-/
inductive Expr.WellTyped (t : ScopeTable) : Expr → Prop
  | lit {value : Literal} {ty : EntryId} {loc : Location} (typed : ty = value.type) :
      WellTyped t (.lit value ty loc)
  | var {entry ty : EntryId} {loc : Location} (v : VarInfo)
      (isVar : t.entry? entry = some (.var v)) (typed : ty = v.ty) (builtin : v.ty.IsBuiltinType) :
      WellTyped t (.var entry ty loc)
  | logical {op : BinOp} {lhs rhs : Expr} {ty : EntryId} {loc : Location}
      (isLogical : op = .or ∨ op = .and) (lhsTyped : WellTyped t lhs) (rhsTyped : WellTyped t rhs)
      (lhsBool : lhs.ty = .boolType) (rhsBool : rhs.ty = .boolType) (typed : ty = .boolType) :
      WellTyped t (.binary op lhs rhs ty loc)
  | comparison {op : BinOp} {lhs rhs : Expr} {ty : EntryId} {loc : Location}
      (isComparison : op.isComparison) (lhsTyped : WellTyped t lhs) (rhsTyped : WellTyped t rhs)
      (same : lhs.ty = rhs.ty) (typed : ty = .boolType) :
      WellTyped t (.binary op lhs rhs ty loc)
  | arithmetic {op : BinOp} {lhs rhs : Expr} {ty : EntryId} {loc : Location}
      (isArithmetic : op ∈ [.add, .sub, .mul, .div]) (lhsTyped : WellTyped t lhs)
      (rhsTyped : WellTyped t rhs) (same : lhs.ty = rhs.ty) (typed : ty = lhs.ty) :
      WellTyped t (.binary op lhs rhs ty loc)
  | assign {lhs rhs : Expr} {ty : EntryId} {loc : Location} (target : lhs.isVar)
      (lhsTyped : WellTyped t lhs) (rhsTyped : WellTyped t rhs) (same : lhs.ty = rhs.ty)
      (typed : ty = lhs.ty) :
      WellTyped t (.binary .assign lhs rhs ty loc)
  | call {callee ty : EntryId} {args : List Expr} {loc : Location} (f : FuncInfo)
      (isFunc : t.entry? callee = some (.func f)) (argsTyped : ∀ a ∈ args, WellTyped t a)
      (matching : List.Forall₂ (fun a p => ∃ v, t.entry? p = some (.var v) ∧ a.ty = v.ty)
        args f.params)
      (typed : ty = f.returnType) (builtin : f.returnType.IsBuiltinType) :
      WellTyped t (.call callee args ty loc)

/--
The typing of statements inside a function returning `ret`: conditions are booleans, a
`return` gives a value of type `ret`, and a declared variable has its initial value's type.
-/
inductive Stmt.WellTyped (t : ScopeTable) (ret : EntryId) : Stmt → Prop
  | block {scope : ScopeId} {stmts : List Stmt} {loc : Location}
      (typed : ∀ s ∈ stmts, WellTyped t ret s) : WellTyped t ret (.block scope stmts loc)
  | ifElse {cond : Expr} {thenBranch : Stmt} {elseBranch : Option Stmt} {loc : Location}
      (condTyped : cond.WellTyped t) (condBool : cond.ty = .boolType)
      (thenTyped : WellTyped t ret thenBranch) (elseTyped : ∀ s ∈ elseBranch, WellTyped t ret s) :
      WellTyped t ret (.ifElse cond thenBranch elseBranch loc)
  | whileLoop {cond : Expr} {body : Stmt} {loc : Location} (condTyped : cond.WellTyped t)
      (condBool : cond.ty = .boolType) (bodyTyped : WellTyped t ret body) :
      WellTyped t ret (.whileLoop cond body loc)
  | ret {value : Expr} {loc : Location} (valueTyped : value.WellTyped t) (returned : value.ty = ret) :
      WellTyped t ret (.ret value loc)
  | expr {value : Expr} {loc : Location} (valueTyped : value.WellTyped t) :
      WellTyped t ret (.expr value loc)
  | varDecl {decl : VarDecl} (v : VarInfo) (initTyped : decl.init.WellTyped t)
      (isVar : t.entry? decl.var = some (.var v)) (declared : v.ty = decl.init.ty) :
      WellTyped t ret (.varDecl decl)

/-- A variable declaration is typed when its variable has its initial value's type. -/
def VarDecl.WellTyped (t : ScopeTable) (d : VarDecl) : Prop :=
  d.init.WellTyped t ∧ ∃ v : VarInfo, t.entry? d.var = some (.var v) ∧ v.ty = d.init.ty

/--
A function definition is typed when its entry is a function with its parameters and its
built-in return type, and its body is typed for that return type.
-/
def FuncDef.WellTyped (t : ScopeTable) (f : FuncDef) : Prop :=
  ∃ info : FuncInfo, t.entry? f.entry = some (.func info) ∧ info.returnType = f.returnType ∧
    f.returnType.IsBuiltinType ∧ (∀ p ∈ info.params, ∃ v, t.entry? p = some (.var v)) ∧
    ∀ s ∈ f.body.stmts, s.WellTyped t f.returnType

/-- The typing of a top-level declaration. -/
def Decl.WellTyped (t : ScopeTable) : Decl → Prop
  | .var d => d.WellTyped t
  | .func f => f.WellTyped t

/-- A program is well typed over its own table, whose invariant holds. -/
structure Program.WellTyped (p : Program) : Prop where
  table : p.table.TypeSound
  decls : ∀ d ∈ p.decls, d.WellTyped p.table

/-! ## Consequences of the judgment -/

namespace Expr.WellTyped

variable {t t' : ScopeTable}

/-- The type of a well-typed expression is a built-in type. -/
theorem ty_isBuiltinType {e : Expr} (typed : e.WellTyped t) : e.ty.IsBuiltinType := by
  induction typed with
  | lit typed =>
      rw [Expr.ty, typed]
      exact Literal.type_isBuiltinType _
  | var v _ typed builtin =>
      rw [Expr.ty, typed]
      exact builtin
  | logical _ _ _ _ _ typed =>
      rw [Expr.ty, typed]
      decide
  | comparison _ _ _ _ typed =>
      rw [Expr.ty, typed]
      decide
  | arithmetic _ _ _ _ typed lhsBuiltin =>
      rw [Expr.ty, typed]
      exact lhsBuiltin
  | assign _ _ _ _ typed lhsBuiltin =>
      rw [Expr.ty, typed]
      exact lhsBuiltin
  | call f _ _ _ typed builtin =>
      rw [Expr.ty, typed]
      exact builtin

/-- Typing survives the growth of the table. -/
theorem mono {e : Expr} (grows : t.Extends t') (typed : e.WellTyped t) : e.WellTyped t' := by
  induction typed with
  | lit typed => exact .lit typed
  | var v isVar typed builtin => exact .var v (grows _ _ isVar) typed builtin
  | logical isLogical _ _ lhsBool rhsBool typed lhsIH rhsIH =>
      exact .logical isLogical lhsIH rhsIH lhsBool rhsBool typed
  | comparison isComparison _ _ same typed lhsIH rhsIH =>
      exact .comparison isComparison lhsIH rhsIH same typed
  | arithmetic isArithmetic _ _ same typed lhsIH rhsIH =>
      exact .arithmetic isArithmetic lhsIH rhsIH same typed
  | assign target _ _ same typed lhsIH rhsIH => exact .assign target lhsIH rhsIH same typed
  | call f isFunc _ matching typed builtin argsIH =>
      refine .call f (grows _ _ isFunc) argsIH ?_ typed builtin
      apply matching.imp
      rintro a p ⟨v, isVar, same⟩
      exact ⟨v, grows _ _ isVar, same⟩

end Expr.WellTyped

theorem Stmt.WellTyped.mono {t t' : ScopeTable} {ret : EntryId} {s : Stmt}
    (grows : t.Extends t') (typed : s.WellTyped t ret) : s.WellTyped t' ret := by
  induction typed with
  | block _ ih => exact .block ih
  | ifElse condTyped condBool _ _ thenIH elseIH =>
      exact .ifElse (condTyped.mono grows) condBool thenIH elseIH
  | whileLoop condTyped condBool _ bodyIH => exact .whileLoop (condTyped.mono grows) condBool bodyIH
  | ret valueTyped returned => exact .ret (valueTyped.mono grows) returned
  | expr valueTyped => exact .expr (valueTyped.mono grows)
  | varDecl v initTyped isVar declared =>
      exact .varDecl v (initTyped.mono grows) (grows _ _ isVar) declared

theorem VarDecl.WellTyped.mono {t t' : ScopeTable} {d : VarDecl} (grows : t.Extends t')
    (typed : d.WellTyped t) : d.WellTyped t' := by
  rcases typed with ⟨initTyped, v, isVar, declared⟩
  exact ⟨initTyped.mono grows, v, grows _ _ isVar, declared⟩

theorem FuncDef.WellTyped.mono {t t' : ScopeTable} {f : FuncDef} (grows : t.Extends t')
    (typed : f.WellTyped t) : f.WellTyped t' := by
  rcases typed with ⟨info, isFunc, returnEq, builtin, paramsVar, bodyTyped⟩
  refine ⟨info, grows _ _ isFunc, returnEq, builtin, ?_, ?_⟩
  · intro p member
    rcases paramsVar p member with ⟨v, isVar⟩
    exact ⟨v, grows _ _ isVar⟩
  · intro s member
    exact (bodyTyped s member).mono grows

theorem Decl.WellTyped.mono {t t' : ScopeTable} {d : Decl} (grows : t.Extends t')
    (typed : d.WellTyped t) : d.WellTyped t' := by
  cases d with
  | var d => exact VarDecl.WellTyped.mono grows typed
  | func f => exact FuncDef.WellTyped.mono grows typed

/-! ## Returns -/

@[simp]
theorem Stmt.returnsOfList_nil : Stmt.returnsOfList [] = [] := rfl

@[simp]
theorem Stmt.returnsOfList_cons (s : Stmt) (rest : List Stmt) :
    Stmt.returnsOfList (s :: rest) = s.returns ++ Stmt.returnsOfList rest := rfl

@[simp]
theorem Stmt.returnsOfList_append (xs ys : List Stmt) :
    Stmt.returnsOfList (xs ++ ys) = Stmt.returnsOfList xs ++ Stmt.returnsOfList ys := by
  induction xs with
  | nil => rfl
  | cons s rest ih => simp [ih]

/-- A resolved return type is the type of every return, and of at least one. -/
theorem resolveReturnType_eq_ok {rs : List (EntryId × Location)} {ty : EntryId}
    (resolved : resolveReturnType rs = .ok ty) : (∀ p ∈ rs, p.1 = ty) ∧ ∃ p ∈ rs, p.1 = ty := by
  cases rs with
  | nil => cases resolved
  | cons first rest =>
      rcases first with ⟨firstTy, firstLoc⟩
      simp only [resolveReturnType] at resolved
      split at resolved
      · cases resolved
      · rename_i noOther
        cases resolved
        refine ⟨?_, (ty, firstLoc), List.mem_cons_self, rfl⟩
        intro p member
        rcases List.mem_cons.1 member with rfl | later
        · rfl
        · have agrees := List.find?_eq_none.1 noOther p later
          simpa using agrees

end ImpFront
