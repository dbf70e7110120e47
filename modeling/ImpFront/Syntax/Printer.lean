import ImpFront.Syntax.Tree
import ImpFront.Number.Write
import ImpFront.Text.Quoted

/-!
# Listing programs

A program is listed one line per declaration and statement, each line indented by two
spaces per level of nesting and ended by a line feed. Names are shown as their entries
store them and types by their names, so a listing shows what every name was resolved to:

* a variable declaration as `var x: int [global] = 1`, with the storage in brackets;
* a function as `fn f(a: int @0, b: bool @4) -> int`, each parameter with its offset,
  followed by its body one level deeper;
* a block as `block #2`, the number of its scope, followed by its statements;
* a conditional as `if` and its condition, the branch one level deeper, then `else` and the
  other branch; a loop as `while` and its condition, then its body;
* a return as `return e : t` and an expression statement as `e : t`, with the type `t`.

Operators are written fully parenthesised, `(a + (b * c))`, calls as `f(a, b)`, floating-point
literals in `FloatStyle.listing` and strings quoted by `Text.quote`.
-/

namespace ImpFront

/-- How a listing writes a literal. -/
def Literal.render : Literal → String
  | .int v => toString v
  | .float x => FloatStyle.listing.write x
  | .bool b => if b then "true" else "false"
  | .str s => Text.quote s

mutual

/-- An expression as a listing writes it, names taken from the table. -/
def Expr.render (t : ScopeTable) : Expr → String
  | .binary op lhs rhs _ _ => "(" ++ lhs.render t ++ " " ++ op.symbol ++ " " ++ rhs.render t ++ ")"
  | .call callee args _ _ =>
    (t.entry callee).name ++ "(" ++ ", ".intercalate (Expr.renderList t args) ++ ")"
  | .var e _ _ => (t.entry e).name
  | .lit v _ _ => v.render

/-- A list of expressions, each as a listing writes it. -/
def Expr.renderList (t : ScopeTable) : List Expr → List String
  | [] => []
  | e :: rest => e.render t :: Expr.renderList t rest

end

/-- The indentation of a nesting depth: two spaces per level. -/
def indent (depth : Nat) : String := String.join (List.replicate depth "  ")

/-- The line of a variable declaration, without indentation. -/
def VarDecl.line (t : ScopeTable) (d : VarDecl) : String :=
  match t.varInfo? d.var with
  | some v =>
    "var " ++ v.name ++ ": " ++ t.typeName v.ty ++ " [" ++ v.kind.text ++ "] = " ++ d.init.render t
  | none => "var ? = " ++ d.init.render t

mutual

/-- The lines of a statement at a nesting depth. -/
def Stmt.lines (t : ScopeTable) (depth : Nat) : Stmt → List String
  | .block scope stmts _ =>
    (indent depth ++ "block #" ++ toString scope.index) :: Stmt.linesOfList t (depth + 1) stmts
  | .ifElse cond thenBranch elseBranch _ =>
    (indent depth ++ "if " ++ cond.render t) :: thenBranch.lines t (depth + 1) ++
      Stmt.elseLines t depth elseBranch
  | .whileLoop cond body _ =>
    (indent depth ++ "while " ++ cond.render t) :: body.lines t (depth + 1)
  | .ret value _ => [indent depth ++ "return " ++ value.render t ++ " : " ++ t.typeName value.ty]
  | .expr value _ => [indent depth ++ value.render t ++ " : " ++ t.typeName value.ty]
  | .varDecl d => [indent depth ++ d.line t]

/-- The lines of a list of statements at a nesting depth. -/
def Stmt.linesOfList (t : ScopeTable) (depth : Nat) : List Stmt → List String
  | [] => []
  | s :: rest => s.lines t depth ++ Stmt.linesOfList t depth rest

/-- The lines of an else branch: `else` at the depth of its `if`, the branch one deeper. -/
def Stmt.elseLines (t : ScopeTable) (depth : Nat) : Option Stmt → List String
  | none => []
  | some s => (indent depth ++ "else") :: s.lines t (depth + 1)

end

/-- How a function's heading shows a parameter: name, type, and offset if it has one. -/
def VarInfo.paramText (t : ScopeTable) (v : VarInfo) : String :=
  match v.offset with
  | some off => v.name ++ ": " ++ t.typeName v.ty ++ " @" ++ toString off
  | none => v.name ++ ": " ++ t.typeName v.ty

/-- The lines of a function: its heading, then its body one level deeper. -/
def FuncDef.lines (t : ScopeTable) (f : FuncDef) : List String :=
  let params := (t.entriesOf f.params).filterMap t.varInfo?
  ("fn " ++ f.name ++ "(" ++ ", ".intercalate (params.map (VarInfo.paramText t)) ++ ") -> " ++
    t.typeName f.returnType) :: f.body.toStmt.lines t 1

/-- The lines of a declaration. -/
def Decl.lines (t : ScopeTable) : Decl → List String
  | .var d => [d.line t]
  | .func f => f.lines t

/-- The listing of a program: every line followed by a line feed. -/
def Program.render (p : Program) : String :=
  String.join ((p.decls.flatMap (Decl.lines p.table)).map (· ++ "\n"))

end ImpFront
