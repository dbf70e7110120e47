import ImpFront.Parse.Expr

/-!
# Reading statements

```text
statement  := block
            | 'if' '(' assignment ')' statement ('else' statement)?
            | 'while' '(' assignment ')' statement
            | 'for' '(' (varDecl | assignment ';') assignment ';' assignment ')' statement
            | varDecl
            | 'return' assignment ';'
            | assignment ';'
block      := '{' statement* '}'
varDecl    := 'var' IDENT '=' assignment ';'
```

A block opens a scope for its statements and closes it after its closing brace. A variable
is defined after its initial value is read, so the value cannot mention it, in the current
scope: as a global at the top level and as a local inside a function. Conditions must be
booleans.

A `for` loop opens a scope after `for (`, reads its first statement, its condition and its
step into it, and opens a second scope for its body after the closing parenthesis; it is
read as `{ init while (test) { body step; } }` with both blocks and the loop at the `for`
keyword, and the step at its first token.
-/

namespace ImpFront

namespace Parse

/-- Reads a variable declaration and defines the variable in the current scope. -/
def varDecl (ctx : Context) (c : Cursor) : Except Failure (Read c (VarDecl × Context)) := do
  let ⟨kw, c1, h1⟩ ← c.expect [.varKw]
  let ⟨name, c2, h2⟩ ← c1.expect [.ident]
  let ⟨_, c3, h3⟩ ← c2.expect [.eq]
  let ⟨init, c4, h4⟩ ← expression ctx c3
  let ⟨_, c5, h5⟩ ← c4.expect [.semicolon]
  let kind := if (ctx.table.parent ctx.scope).isNone then VarKind.global else .blockLocal
  let (ctx6, id) ← c5.lift
    (ctx.define name.lexeme (.var { name := name.lexeme, ty := init.ty, kind }) name.loc)
  have h2 := Cursor.left_lt_trans h1 h2
  have h3 := Cursor.left_lt_trans h2 h3
  have h4 := Cursor.left_lt_trans h3 h4
  pure ⟨(⟨id, init, kw.loc⟩, ctx6), c5, Cursor.left_lt_trans h4 h5⟩

/-- Reads an expression statement, located at its first token. -/
def exprStatement (ctx : Context) (c : Cursor) : Except Failure (Read c (Stmt × Context)) := do
  let loc := c.look.loc
  let ⟨e, c1, h1⟩ ← expression ctx c
  let ⟨_, c2, h2⟩ ← c1.expect [.semicolon]
  pure ⟨(.expr e loc, ctx), c2, Cursor.left_lt_trans h1 h2⟩

/-- Reads a condition in parentheses, which must be a boolean. -/
def condition (ctx : Context) (c : Cursor) : Except Failure (Read c Expr) := do
  let ⟨_, c1, h1⟩ ← c.expect [.lParen]
  let ⟨cond, c2, h2⟩ ← expression ctx c1
  c2.lift (ctx.expectBool cond)
  let ⟨_, c3, h3⟩ ← c2.expect [.rParen]
  have h2 := Cursor.left_lt_trans h1 h2
  pure ⟨cond, c3, Cursor.left_lt_trans h2 h3⟩

/-- The kinds that can start a statement. -/
def statementStart : List TokenKind :=
  [.lBrace, .ifKw, .whileKw, .forKw, .varKw, .returnKw] ++ TokenKind.exprStart

mutual

/-- Reads one statement. -/
def statement (ctx : Context) (c : Cursor) : Except Failure (Read c (Stmt × Context)) :=
  match hk : c.look.kind with
  | .lBrace => do
    let ⟨(b, ctx1), c1, h1⟩ ← block ctx c
    pure ⟨(b.toStmt, ctx1), c1, h1⟩
  | .ifKw => do
    let ⟨kw, c1, h1⟩ ← c.advance (by simp [hk])
    let ⟨cond, c2, h2⟩ ← condition ctx c1
    let ⟨(thenBranch, ctx3), c3, h3⟩ ← statement ctx c2
    if he : c3.look.kind = .elseKw then
      let ⟨_, c4, h4⟩ ← c3.advance (by simp [he])
      let ⟨(elseBranch, ctx5), c5, h5⟩ ← statement ctx3 c4
      pure ⟨(.ifElse cond thenBranch (some elseBranch) kw.loc, ctx5), c5, by omega⟩
    else pure ⟨(.ifElse cond thenBranch none kw.loc, ctx3), c3, by omega⟩
  | .whileKw => do
    let ⟨kw, c1, h1⟩ ← c.advance (by simp [hk])
    let ⟨cond, c2, h2⟩ ← condition ctx c1
    let ⟨(body, ctx3), c3, h3⟩ ← statement ctx c2
    pure ⟨(.whileLoop cond body kw.loc, ctx3), c3, by omega⟩
  | .forKw => do
    let ⟨kw, c1, h1⟩ ← c.advance (by simp [hk])
    let ⟨_, c2, h2⟩ ← c1.expect [.lParen]
    let (ctx2, outer) := ctx.enter
    let ⟨(init, ctx3), c3, h3⟩ ← (if c2.look.kind = .varKw then do
        let ⟨(d, ctx3), c3, h3⟩ ← varDecl ctx2 c2
        pure (⟨(.varDecl d, ctx3), c3, h3⟩ : Read c2 (Stmt × Context))
      else exprStatement ctx2 c2)
    let ⟨test, c4, h4⟩ ← expression ctx3 c3
    c4.lift (ctx3.expectBool test)
    let ⟨_, c5, h5⟩ ← c4.expect [.semicolon]
    let stepLoc := c5.look.loc
    let ⟨step, c6, h6⟩ ← expression ctx3 c5
    let ⟨_, c7, h7⟩ ← c6.expect [.rParen]
    let (ctx7, inner) := ctx3.enter
    let ⟨(body, ctx8), c8, h8⟩ ← statement ctx7 c7
    let loopBody := Stmt.block inner [body, .expr step stepLoc] kw.loc
    let ctx9 := (ctx8.exit inner).exit outer
    pure ⟨(.block outer [init, .whileLoop test loopBody kw.loc] kw.loc, ctx9), c8, by omega⟩
  | .varKw => do
    let ⟨(d, ctx1), c1, h1⟩ ← varDecl ctx c
    pure ⟨(.varDecl d, ctx1), c1, h1⟩
  | .returnKw => do
    let ⟨kw, c1, h1⟩ ← c.advance (by simp [hk])
    let ⟨value, c2, h2⟩ ← expression ctx c1
    let ⟨_, c3, h3⟩ ← c2.expect [.semicolon]
    pure ⟨(.ret value kw.loc, ctx), c3, by omega⟩
  | k =>
    if k ∈ TokenKind.exprStart then exprStatement ctx c
    else throw (c.fail (c.unexpected statementStart))
termination_by 3 * c.left + 1

/-- Reads a block: its statements in a new scope, closed after the closing brace. -/
def block (ctx : Context) (c : Cursor) : Except Failure (Read c (Block × Context)) := do
  let ⟨brace, c1, h1⟩ ← c.expect [.lBrace]
  let (ctx1, scope) := ctx.enter
  let (stmts, ctx2, ⟨c2, h2⟩) ← blockBody ctx1 c1
  let ⟨_, c3, h3⟩ ← c2.expect [.rBrace]
  pure ⟨(⟨scope, stmts, brace.loc⟩, ctx2.exit scope), c3, by omega⟩
termination_by 3 * c.left

/-- Reads statements up to the closing brace of a block, which it leaves unconsumed. -/
def blockBody (ctx : Context) (c : Cursor) :
    Except Failure (List Stmt × Context × { c' : Cursor // c'.left ≤ c.left }) :=
  if c.look.kind = .rBrace then pure ([], ctx, ⟨c, Nat.le_refl _⟩)
  else do
    let ⟨(s, ctx1), c1, h1⟩ ← statement ctx c
    let (rest, ctx2, ⟨c2, h2⟩) ← blockBody ctx1 c1
    pure (s :: rest, ctx2, ⟨c2, by omega⟩)
termination_by 3 * c.left + 2

end

end Parse

end ImpFront
