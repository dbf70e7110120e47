import ImpFront.Syntax.Tree

/-!
# Return types

A function declares no return type: it is read off the `return` statements of its body. The
returns are collected in the order they stand, through nested blocks, both branches of a
conditional and the bodies of loops; an expression statement or a declaration holds none.
All returns must agree: the first fixes the type, and the first one after it with another
type is reported. A body without returns has no type.
-/

namespace ImpFront

mutual

/-- The returns in a statement, in order: the type of each value and the location of each. -/
def Stmt.returns : Stmt → List (EntryId × Location)
  | .block _ stmts _ => Stmt.returnsOfList stmts
  | .ifElse _ thenBranch elseBranch _ => thenBranch.returns ++ Stmt.returnsOfOption elseBranch
  | .whileLoop _ body _ => body.returns
  | .ret value loc => [(value.ty, loc)]
  | .expr .. => []
  | .varDecl _ => []

/-- The returns in a list of statements, in order. -/
def Stmt.returnsOfList : List Stmt → List (EntryId × Location)
  | [] => []
  | s :: rest => s.returns ++ Stmt.returnsOfList rest

/-- The returns in an optional statement. -/
def Stmt.returnsOfOption : Option Stmt → List (EntryId × Location)
  | none => []
  | some s => s.returns

end

/-- The returns in a block, in order. -/
def Block.returns (b : Block) : List (EntryId × Location) := Stmt.returnsOfList b.stmts

/-- Why a function body has no return type. -/
inductive ReturnError where
  /-- The body holds no return. -/
  | missing
  /-- The return at this location disagrees with the first one. -/
  | inconsistent (loc : Location)
deriving DecidableEq, Repr

/-- The type of the first return, if every return has it. -/
def resolveReturnType : List (EntryId × Location) → Except ReturnError EntryId
  | [] => .error .missing
  | (ty, _) :: rest =>
    match rest.find? (·.1 != ty) with
    | some (_, loc) => .error (.inconsistent loc)
    | none => .ok ty

end ImpFront
