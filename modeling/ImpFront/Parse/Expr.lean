import ImpFront.Parse.Cursor
import ImpFront.Parse.Context
import ImpFront.Number.Read

/-!
# Reading expressions

Expressions are read by precedence, loosest first:

```text
assignment  := tier5 ('=' assignment)?
tier5       := tier4 ('||' tier4)*
tier4       := tier3 ('&&' tier3)*
tier3       := tier2 (('<' | '<=' | '>' | '>=' | '==' | '!=') tier2)*
tier2       := tier1 (('+' | '-') tier1)*
tier1       := primary (('*' | '/') primary)*
primary     := literal | IDENT | IDENT '(' arguments? ')' | '(' assignment ')'
arguments   := assignment ((',' | ';') assignment)*
```

Operators of one tier group to the left and assignment to the right; parentheses group but
leave no node. Each node is typed as soon as it is built (`Context.binary`), names are
resolved where they are read, and a call must name a function defined before it, with as
many arguments as it has parameters, each of the parameter's type.

Every rule consumes at least one token when it succeeds. The rules call each other at the
same cursor only downwards in the grammar, from `arguments` through `assignment` and the
tiers to `primary`, so the pair (tokens left, grammar rank) decreases on every call. Since
no call to fewer tokens rises by more than thirteen ranks, the number
`14 * tokens left + rank` decreases too, and it is the measure the rules are defined by.
-/

namespace ImpFront

namespace Parse

/--
The operator that a token kind makes at a binding tier: products at tier 1, sums at 2,
comparisons at 3, conjunction at 4 and disjunction at 5.
-/
def tierOp? : Nat → TokenKind → Option BinOp
  | 1, .star => some .mul
  | 1, .slash => some .div
  | 2, .plus => some .add
  | 2, .minus => some .sub
  | 3, .lt => some .lt
  | 3, .le => some .le
  | 3, .gt => some .gt
  | 3, .ge => some .ge
  | 3, .eqEq => some .eq
  | 3, .notEq => some .ne
  | 4, .andAnd => some .and
  | 5, .orOr => some .or
  | _, _ => none

theorem tierOp?_eof (n : Nat) : tierOp? n .eof = none := by
  rcases n with _ | _ | _ | _ | _ | _ | n <;> rfl

/-- Checks each argument against the type of its parameter, in order. -/
def checkArgs (ctx : Context) : List Expr → List EntryId → Except ParseError Unit
  | a :: args, p :: params =>
    match ctx.expectType (((ctx.table.varInfo? p).map (·.ty)).getD a.ty) a.ty a.loc with
    | .error e => .error e
    | .ok () => checkArgs ctx args params
  | _, _ => .ok ()

mutual

/-- Reads an assignment, the loosest expression. -/
def expression (ctx : Context) (c : Cursor) : Except Failure (Read c Expr) := do
  let ⟨lhs, c1, h1⟩ ← tier 5 ctx c
  if hk : c1.look.kind = .eq then
    let ⟨op, c2, h2⟩ ← c1.advance (by simp [hk])
    if lhs.isVar then
      let ⟨rhs, c3, h3⟩ ← expression ctx c2
      let e ← c3.lift (ctx.binary .assign lhs rhs op.loc)
      pure ⟨e, c3, by omega⟩
    else throw (c2.fail (.invalidAssignTarget lhs.loc))
  else pure ⟨lhs, c1, h1⟩
termination_by 14 * c.left + 12

/-- Reads an expression of a binding tier; tier 0 is a primary expression. -/
def tier (n : Nat) (ctx : Context) (c : Cursor) : Except Failure (Read c Expr) :=
  match n with
  | 0 => primary ctx c
  | k + 1 => do
    let ⟨lhs, c1, h1⟩ ← tier k ctx c
    let (e, ⟨c2, h2⟩) ← tierRest (k + 1) lhs ctx c1
    pure ⟨e, c2, by omega⟩
termination_by 14 * c.left + (2 * n + 1)

/--
Reads the operators of a tier that follow its first operand, with their right operands,
grouping to the left.
-/
def tierRest (n : Nat) (lhs : Expr) (ctx : Context) (c : Cursor) :
    Except Failure (Expr × { c' : Cursor // c'.left ≤ c.left }) :=
  match hop : tierOp? n c.look.kind with
  | none => pure (lhs, ⟨c, Nat.le_refl _⟩)
  | some op => do
    let ⟨opTok, c1, h1⟩ ← c.advance (fun h => by rw [h, tierOp?_eof] at hop; cases hop)
    let ⟨rhs, c2, h2⟩ ← tier (n - 1) ctx c1
    let e ← c2.lift (ctx.binary op lhs rhs opTok.loc)
    let (e', ⟨c3, h3⟩) ← tierRest n e ctx c2
    pure (e', ⟨c3, by omega⟩)
termination_by 14 * c.left + 2 * n

/-- Reads a literal, a variable, a call, or an expression in parentheses. -/
def primary (ctx : Context) (c : Cursor) : Except Failure (Read c Expr) :=
  match hk : c.look.kind with
  | .intLit => do
    let ⟨tok, c1, h1⟩ ← c.advance (by simp [hk])
    match Numeral.readInt? tok.lexeme with
    | none => throw (c1.fail (.invalidLiteral tok.lexeme tok.loc))
    | some v =>
      let ty ← c1.lift (ctx.lookupType "int" tok.loc)
      pure ⟨.lit (.int v) ty tok.loc, c1, h1⟩
  | .floatLit => do
    let ⟨tok, c1, h1⟩ ← c.advance (by simp [hk])
    match Numeral.readFloat? tok.lexeme with
    | none => throw (c1.fail (.invalidLiteral tok.lexeme tok.loc))
    | some x =>
      let ty ← c1.lift (ctx.lookupType "float" tok.loc)
      pure ⟨.lit (.float x) ty tok.loc, c1, h1⟩
  | .boolLit => do
    let ⟨tok, c1, h1⟩ ← c.advance (by simp [hk])
    let ty ← c1.lift (ctx.lookupType "bool" tok.loc)
    pure ⟨.lit (.bool (tok.lexeme == "true")) ty tok.loc, c1, h1⟩
  | .stringLit => do
    let ⟨tok, c1, h1⟩ ← c.advance (by simp [hk])
    let ty ← c1.lift (ctx.lookupType "string" tok.loc)
    pure ⟨.lit (.str tok.lexeme) ty tok.loc, c1, h1⟩
  | .ident => do
    let ⟨name, c1, h1⟩ ← c.advance (by simp [hk])
    if c1.look.kind = .lParen then
      let ⟨e, c2, h2⟩ ← call name ctx c1
      pure ⟨e, c2, by omega⟩
    else
      let id ← c1.lift (ctx.lookup name.lexeme name.loc)
      match ctx.table.entry id with
      | .var v => pure ⟨.var id v.ty name.loc, c1, h1⟩
      | other => throw (c1.fail (.notAVariable name.lexeme other.role name.loc))
  | .lParen => do
    let ⟨_, c1, h1⟩ ← c.advance (by simp [hk])
    let ⟨e, c2, h2⟩ ← expression ctx c1
    let ⟨_, c3, h3⟩ ← c2.expect [.rParen]
    pure ⟨e, c3, by omega⟩
  | _ => throw (c.fail (c.unexpected TokenKind.exprStart))
termination_by 14 * c.left

/--
Reads the arguments of a call of the function named by `name`, whose opening parenthesis
is the lookahead. The function is looked up first; the arity and then each argument's
type are checked after the closing parenthesis.
-/
def call (name : Token) (ctx : Context) (c : Cursor) : Except Failure (Read c Expr) := do
  let callee ← c.lift (ctx.lookup name.lexeme name.loc)
  match ctx.table.funcInfo? callee with
  | none => throw (c.fail (.notCallable name.lexeme (ctx.table.entry callee).role name.loc))
  | some info =>
    let ⟨_, c1, h1⟩ ← c.expect [.lParen]
    let ⟨args, c2, h2⟩ ← (if hr : c1.look.kind = .rParen then do
        let ⟨_, c2, h2⟩ ← c1.advance (by simp [hr])
        pure (⟨[], c2, h2⟩ : Read c1 (List Expr))
      else arguments ctx c1)
    if args.length ≠ info.params.length then
      throw (c2.fail (.arityMismatch name.lexeme info.params.length args.length name.loc))
    c2.lift (checkArgs ctx args info.params)
    pure ⟨.call callee args info.returnType name.loc, c2, by omega⟩
termination_by 14 * c.left

/--
Reads one or more arguments, each followed by a comma, a semicolon, or the closing
parenthesis that ends the list.
-/
def arguments (ctx : Context) (c : Cursor) : Except Failure (Read c (List Expr)) := do
  let ⟨e, c1, h1⟩ ← expression ctx c
  let ⟨sep, c2, h2⟩ ← c1.expect [.comma, .semicolon, .rParen]
  if sep.kind = .rParen then pure ⟨[e], c2, by omega⟩
  else
    let ⟨rest, c3, h3⟩ ← arguments ctx c2
    pure ⟨e :: rest, c3, by omega⟩
termination_by 14 * c.left + 13

end

end Parse

end ImpFront
