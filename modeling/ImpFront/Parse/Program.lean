import ImpFront.Parse.Stmt
import ImpFront.Syntax.Returns

/-!
# Reading programs

```text
program     := declaration* EOF
declaration := varDecl | IDENT '(' params? ')' block
params      := IDENT ':' IDENT (',' IDENT ':' IDENT)*
```

Reading starts by defining the four built-in types in the root scope: `int` and `float` of
four bytes, `bool` of one and `string` of eight, as entries 0 to 3. Declarations follow until
the end of input.

A function opens a scope for its parameters, each with the type its type name resolves to
and its offset, the sum of the sizes of the parameters before it; its body is a block inside
that scope. The return type comes from the body's returns, and only then is the function
defined in the root, so its body cannot call it, and a second function of the same name is
refused at its name after its body.

`Program.read` answers the result together with the number of pulls made from the feed and
the current scope at the end, which is none, as before the reading.
-/

namespace ImpFront

namespace Parse

/-- The built-in types with their sizes, in the order they are defined. -/
def builtinTypes : List TypeInfo :=
  [⟨"int", 4⟩, ⟨"float", 4⟩, ⟨"bool", 1⟩, ⟨"string", 8⟩]

/--
Defines the built-in types in the current scope; a name defined already is skipped. The
location is that of a duplicate, which the root scope of a new table never has.
-/
def defineBuiltins (ctx : Context) (loc : Location) : Context :=
  builtinTypes.foldl
    (fun ctx info =>
      match ctx.define info.name (.type info) loc with
      | .ok (ctx', _) => ctx'
      | .error _ => ctx)
    ctx

/--
Reads parameters, each a name, a colon and a type name, separated by commas, up to and
including the closing parenthesis. `offset` is the sum of the sizes of the parameters before.
-/
def params (offset : Nat) (ctx : Context) (c : Cursor) :
    Except Failure (Read c (List EntryId × Context)) := do
  let ⟨name, c1, h1⟩ ← c.expect [.ident]
  let ⟨_, c2, h2⟩ ← c1.expect [.colon]
  let ⟨tyName, c3, h3⟩ ← c2.expect [.ident]
  let ty ← c3.lift (ctx.lookupType tyName.lexeme tyName.loc)
  let size := ((ctx.table.typeInfo? ty).map (·.size)).getD 0
  let (ctx4, id) ← c3.lift (ctx.define name.lexeme
    (.var { name := name.lexeme, ty, kind := .param, offset := some offset }) name.loc)
  let ⟨sep, c5, h5⟩ ← c3.expect [.comma, .rParen]
  if sep.kind = .rParen then pure ⟨([id], ctx4), c5, by omega⟩
  else
    let ⟨(rest, ctx6), c6, h6⟩ ← params (offset + size) ctx4 c5
    pure ⟨(id :: rest, ctx6), c6, by omega⟩
termination_by c.left

/-- Reads a parameter list in parentheses, possibly empty. -/
def paramList (ctx : Context) (c : Cursor) : Except Failure (Read c (List EntryId × Context)) := do
  let ⟨_, c1, h1⟩ ← c.expect [.lParen]
  if c1.look.kind = .rParen then
    let ⟨_, c2, h2⟩ ← c1.expect [.rParen]
    pure ⟨([], ctx), c2, Cursor.left_lt_trans h1 h2⟩
  else
    let ⟨result, c2, h2⟩ ← params 0 ctx c1
    pure ⟨result, c2, Cursor.left_lt_trans h1 h2⟩

/--
Reads a function definition, the `index`-th declaration: its name, its parameters in a new
scope, and its body; then infers its return type and defines it in the current scope.
-/
def funcDef (index : Nat) (ctx : Context) (c : Cursor) :
    Except Failure (Read c (FuncDef × Context)) := do
  let ⟨name, c1, h1⟩ ← c.expect [.ident]
  let (ctx1, paramScope) := ctx.enter
  let ⟨(paramIds, ctx2), c2, h2⟩ ← paramList ctx1 c1
  let ⟨(body, ctx3), c3, h3⟩ ← block ctx2 c2
  let ctx4 := ctx3.exit paramScope
  let returnType ← match resolveReturnType body.returns with
    | .ok ty => pure ty
    | .error .missing => throw (c3.fail (.missingReturn name.lexeme name.loc))
    | .error (.inconsistent loc) => throw (c3.fail (.inconsistentReturnType name.lexeme loc))
  let (ctx5, entry) ← c3.lift (ctx4.define name.lexeme
    (.func ⟨name.lexeme, ⟨index⟩, paramIds, returnType⟩) name.loc)
  have h2 := Cursor.left_lt_trans h1 h2
  pure ⟨(⟨name.lexeme, entry, paramScope, body, returnType, name.loc⟩, ctx5), c3,
    Cursor.left_lt_trans h2 h3⟩

/-- Reads the `index`-th declaration: a variable declaration or a function definition. -/
def declaration (index : Nat) (ctx : Context) (c : Cursor) :
    Except Failure (Read c (Decl × Context)) :=
  if c.look.kind = .varKw then do
    let ⟨(d, ctx1), c1, h1⟩ ← varDecl ctx c
    pure ⟨(.var d, ctx1), c1, h1⟩
  else if c.look.kind = .ident then do
    let ⟨(f, ctx1), c1, h1⟩ ← funcDef index ctx c
    pure ⟨(.func f, ctx1), c1, h1⟩
  else throw (c.fail (c.unexpected [.varKw, .ident]))

/-- Reads declarations from the `index`-th on, up to the end of input. -/
def declarations (index : Nat) (ctx : Context) (c : Cursor) :
    Except Failure (List Decl × Context × Cursor) :=
  if c.look.kind = .eof then pure ([], ctx, c)
  else do
    let ⟨(d, ctx1), c1, _h1⟩ ← declaration index ctx c
    let (rest, ctx2, c2) ← declarations (index + 1) ctx1 c1
    pure (d :: rest, ctx2, c2)
termination_by c.left

end Parse

/-- The outcome of reading a feed. -/
structure Reading where
  /-- The program, or the first error. -/
  result : Except ParseError Program
  /-- How many results were pulled from the feed. -/
  pulled : Nat
  /--
  The current scope when reading ended. A failed reading reports the root scope here, not the
  scope that was current where the error arose; only a successful reading's scope is meant.
  -/
  scopeAfter : Option ScopeId

/--
Reads a whole program from a feed: the first pull fills the lookahead, the built-in types
are defined in the root scope, which becomes current, then declarations are read up to the
end of input, and the reading leaves every scope.
-/
def Program.read (f : Feed) : Reading :=
  match Cursor.start f with
  | .error e => ⟨.error e.error, e.pulled, Context.initial.current⟩
  | .ok c =>
    let ctx := Parse.defineBuiltins { Context.initial with current := some ScopeTable.root } c.look.loc
    match Parse.declarations 0 ctx c with
    | .ok (decls, ctx', c') =>
      ⟨.ok ⟨decls, ctx'.table⟩, c'.pulled, ctx'.table.parent ScopeTable.root⟩
    | .error e => ⟨.error e.error, e.pulled, ctx.current⟩

/-- Reads a program from source text. -/
def Program.ofSource (src : String) : Reading := Program.read (Feed.ofSource src)

end ImpFront
