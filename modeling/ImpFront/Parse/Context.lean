import ImpFront.Parse.Error
import ImpFront.Syntax.Tree

/-!
# The reader's context

While it reads, the reader keeps the scope table and the scope it is in. Opening a scope
makes a child of the current one current; closing a scope makes its parent current again.
Names are defined in the current scope and looked up from it outwards, and the checks of
names and types that the reader makes are stated here, each with the error it gives.

Outside of every scope, before and after a program, the current scope is none, and names
are defined in and looked up from the root.
-/

namespace ImpFront

/-- The scope table, and the scope that names are defined in now. -/
structure Context where
  table : ScopeTable
  current : Option ScopeId
deriving Inhabited

namespace Context

/-- The context before reading: an empty table and no current scope. -/
def initial : Context := ⟨ScopeTable.empty, none⟩

/-- The scope that names are defined in and looked up from. -/
def scope (ctx : Context) : ScopeId := ctx.current.getD ScopeTable.root

/-- Opens a child of the current scope and makes it current. -/
def enter (ctx : Context) : Context × ScopeId :=
  let (table, s) := ctx.table.addChild ctx.scope
  (⟨table, some s⟩, s)

/-- Closes a scope: its parent becomes current. -/
def exit (ctx : Context) (s : ScopeId) : Context :=
  { ctx with current := ctx.table.parent s }

/-- Defines a name in the current scope; a duplicate is an error at `loc`. -/
def define (ctx : Context) (name : String) (e : Entry) (loc : Location) :
    Except ParseError (Context × EntryId) :=
  match ctx.table.define ctx.scope name e with
  | .ok (table, id) => .ok ({ ctx with table }, id)
  | .error _ => .error (.duplicateName name loc)

/-- Looks a name up from the current scope; an unbound name is an error at `loc`. -/
def lookup (ctx : Context) (name : String) (loc : Location) : Except ParseError EntryId :=
  match ctx.table.lookup ctx.scope name with
  | .ok id => .ok id
  | .error _ => .error (.undefinedName name loc)

/-- Looks a name up and requires a type entry. -/
def lookupType (ctx : Context) (name : String) (loc : Location) : Except ParseError EntryId :=
  match ctx.lookup name loc with
  | .error e => .error e
  | .ok id =>
    match ctx.table.entry id with
    | .type _ => .ok id
    | other => .error (.notAType name other.role loc)

/-- Requires two type entries to be the same one. -/
def expectType (ctx : Context) (expected found : EntryId) (loc : Location) :
    Except ParseError Unit :=
  if expected = found then .ok ()
  else .error (.typeMismatch (ctx.table.typeName expected) (ctx.table.typeName found) loc)

/-- Requires an expression to have the type that `bool` names here. -/
def expectBool (ctx : Context) (e : Expr) : Except ParseError Unit :=
  match ctx.lookupType "bool" e.loc with
  | .error err => .error err
  | .ok b => ctx.expectType b e.ty e.loc

/--
Types a binary operation. The operands of `||` and `&&` must be booleans, the left one
checked first; the operands of every other operator must have the same type, checked at the
right operand. Comparisons give the type that `bool` names at the operator, every other
operator the type of its left operand.
-/
def binary (ctx : Context) (op : BinOp) (lhs rhs : Expr) (loc : Location) :
    Except ParseError Expr :=
  if op = .or ∨ op = .and then
    match ctx.expectBool lhs, ctx.expectBool rhs with
    | .error e, _ => .error e
    | .ok (), .error e => .error e
    | .ok (), .ok () => .ok (.binary op lhs rhs lhs.ty loc)
  else
    match ctx.expectType lhs.ty rhs.ty rhs.loc with
    | .error e => .error e
    | .ok () =>
      if op.isComparison then
        match ctx.lookupType "bool" loc with
        | .error e => .error e
        | .ok b => .ok (.binary op lhs rhs b loc)
      else .ok (.binary op lhs rhs lhs.ty loc)

end Context

end ImpFront
