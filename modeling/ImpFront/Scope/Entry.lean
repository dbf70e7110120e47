/-!
# Scope entries

The scope table is an arena: scopes and entries are numbered in the order they are made,
from zero, and everything else refers to them by number. An entry is what a name stands
for: a type with its size, a variable with its type and storage, or a function with its
parameters and return type.
-/

namespace ImpFront

/--
The number of a scope in the table; the root scope is number zero. Numbers are kept as
naturals: a table is assumed to hold fewer than 2^32 scopes, the most a 32-bit number can tell
apart.
-/
structure ScopeId where
  index : Nat
deriving DecidableEq, Repr, Inhabited

/--
The number of an entry in the table, under the same assumption: fewer than 2^32 entries, so
that the natural number is the 32-bit one.
-/
structure EntryId where
  index : Nat
deriving DecidableEq, Repr, Inhabited

/-- The position of a declaration in a program; here too fewer than 2^32 are assumed. -/
structure DeclId where
  index : Nat
deriving DecidableEq, Repr, Inhabited

/-- A type: its name and its size in bytes. -/
structure TypeInfo where
  name : String
  size : Nat
deriving DecidableEq, Repr, Inhabited

/-- Where a variable lives: at the top level, among a function's parameters, or in a block. -/
inductive VarKind where
  | global
  | param
  | blockLocal
deriving DecidableEq, Repr, Inhabited

/-- How listings name the storage of a variable. -/
def VarKind.text : VarKind → String
  | .global => "global"
  | .param => "param"
  | .blockLocal => "local"

/--
A variable: its name, its type, its storage, and its offset among the parameters of its
function. The three flags are for later stages; a new variable is active, alive and not a
temporary.
-/
structure VarInfo where
  name : String
  ty : EntryId
  kind : VarKind
  offset : Option Nat := none
  active : Bool := true
  alive : Bool := true
  temporary : Bool := false
deriving DecidableEq, Repr, Inhabited

/-- A function: its name, its declaration, its parameters in order, and its return type. -/
structure FuncInfo where
  name : String
  decl : DeclId
  params : List EntryId
  returnType : EntryId
deriving DecidableEq, Repr, Inhabited

/-- What a name stands for. -/
inductive Entry where
  | type (info : TypeInfo)
  | var (info : VarInfo)
  | func (info : FuncInfo)
deriving DecidableEq, Repr, Inhabited

/-- The three roles an entry can play, as messages name them. -/
inductive Role where
  | type
  | var
  | func
deriving DecidableEq, Repr, Inhabited

/-- The word for a role in messages. -/
def Role.text : Role → String
  | .type => "type"
  | .var => "variable"
  | .func => "function"

namespace Entry

/-- The name stored in an entry. -/
def name : Entry → String
  | type info => info.name
  | var info => info.name
  | func info => info.name

/-- The role of an entry. -/
def role : Entry → Role
  | type _ => .type
  | var _ => .var
  | func _ => .func

end Entry

end ImpFront
