import ImpFront.Source.Location
import ImpFront.Scope.Table
import ImpFront.Number.Binary64

/-!
# Typed program trees

The reader builds trees whose names are already resolved: a variable or a call holds the
number of its entry in the scope table, every expression holds the entry of its type, and
every block holds the scope it opened. A tree is therefore read together with its table
(`Program`).

A `for` loop has no node of its own: it is read as a block holding its first statement and a
`while` loop, whose body is a block of the loop's statement followed by its step.
-/

namespace ImpFront

/-- The binary operators, from assignment to multiplication. -/
inductive BinOp where
  | assign | or | and
  | lt | le | gt | ge | eq | ne
  | add | sub | mul | div
deriving DecidableEq, Repr, Inhabited

namespace BinOp

/-- How an operator is written. -/
def symbol : BinOp → String
  | assign => "="
  | or => "||"
  | and => "&&"
  | lt => "<"
  | le => "<="
  | gt => ">"
  | ge => ">="
  | eq => "=="
  | ne => "!="
  | add => "+"
  | sub => "-"
  | mul => "*"
  | div => "/"

/-- The six comparisons, whose value is a boolean. -/
def isComparison : BinOp → Bool
  | lt | le | gt | ge | eq | ne => true
  | _ => false

end BinOp

/-- A literal value. -/
inductive Literal where
  | int (value : Int)
  | float (value : Binary64)
  | bool (value : Bool)
  | str (value : String)
deriving DecidableEq, Repr, Inhabited

/-- An expression, with the entry of its type and its location. -/
inductive Expr where
  /-- An operator applied to two operands; located at the operator. -/
  | binary (op : BinOp) (lhs rhs : Expr) (ty : EntryId) (loc : Location)
  /-- A call of a function entry; located at the function's name. -/
  | call (callee : EntryId) (args : List Expr) (ty : EntryId) (loc : Location)
  /-- A read of a variable entry. -/
  | var (entry : EntryId) (ty : EntryId) (loc : Location)
  /-- A literal. -/
  | lit (value : Literal) (ty : EntryId) (loc : Location)
deriving Repr, Inhabited

namespace Expr

/-- The entry of an expression's type. -/
def ty : Expr → EntryId
  | binary _ _ _ ty _ => ty
  | call _ _ ty _ => ty
  | var _ ty _ => ty
  | lit _ ty _ => ty

/-- The location of an expression. -/
def loc : Expr → Location
  | binary _ _ _ _ loc => loc
  | call _ _ _ loc => loc
  | var _ _ loc => loc
  | lit _ _ loc => loc

/-- Whether an expression is a read of a variable, the only thing that can be assigned. -/
def isVar : Expr → Bool
  | var .. => true
  | _ => false

end Expr

/-- A variable declaration: the variable's entry, its initial value, and the `var` keyword's location. -/
structure VarDecl where
  var : EntryId
  init : Expr
  loc : Location
deriving Repr, Inhabited

/-- A statement. -/
inductive Stmt where
  /-- A block with the scope it opened; located at its opening brace. -/
  | block (scope : ScopeId) (stmts : List Stmt) (loc : Location)
  /-- A conditional, with an optional else branch. -/
  | ifElse (cond : Expr) (thenBranch : Stmt) (elseBranch : Option Stmt) (loc : Location)
  /-- A loop that runs its body while the condition holds. -/
  | whileLoop (cond : Expr) (body : Stmt) (loc : Location)
  /-- A return of a value; located at the `return` keyword. -/
  | ret (value : Expr) (loc : Location)
  /-- An expression evaluated for its effect; located at its first token. -/
  | expr (value : Expr) (loc : Location)
  /-- A variable declaration. -/
  | varDecl (decl : VarDecl)
deriving Repr, Inhabited

/-- A block: the scope it opened, its statements, and the location of its opening brace. -/
structure Block where
  scope : ScopeId
  stmts : List Stmt
  loc : Location
deriving Repr, Inhabited

/-- A block as a statement. -/
def Block.toStmt (b : Block) : Stmt := .block b.scope b.stmts b.loc

/--
A function definition: its name and entry, the scope of its parameters, its body, the
return type inferred from its returns, and the location of its name.
-/
structure FuncDef where
  name : String
  entry : EntryId
  params : ScopeId
  body : Block
  returnType : EntryId
  loc : Location
deriving Repr, Inhabited

/-- A top-level declaration. -/
inductive Decl where
  | var (decl : VarDecl)
  | func (defn : FuncDef)
deriving Repr, Inhabited

/-- A program: its declarations in order, and the table that their numbers refer to. -/
structure Program where
  decls : List Decl
  table : ScopeTable
deriving Inhabited

namespace Program

/--
The definition of the function that the root scope binds a name to: none if the name is
unbound there, bound to something else, or its declaration is not a function definition.
-/
def function? (p : Program) (name : String) : Option FuncDef :=
  match p.table.lookupLocal ScopeTable.root name with
  | none => none
  | some e =>
    match p.table.funcInfo? e with
    | none => none
    | some info =>
      match p.decls[info.decl.index]? with
      | some (.func f) => some f
      | _ => none

end Program

end ImpFront
