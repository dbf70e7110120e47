import ImpFront.Proofs.Steps.Stmt

/-!
# Steps of the declaration reader

For parameters, function definitions, declarations and whole programs, what a successful
run consists of. A program is read from the context `Context.builtin`, in which the four
built-in types are defined in the root scope.
-/

namespace ImpFront

namespace Parse

section

variable {ctx : Context} {c : Cursor}

/--
Parameters: a name, `:` and a type name, which must resolve here to a type; the parameter is
defined in the current scope at offset `offset`. After a comma, the next parameters follow at
the offset moved on by the type's size; a closing parenthesis ends the list.
-/
theorem params_eq_ok {offset : Nat} {r : Read c (List EntryId × Context)}
    (parsed : params offset ctx c = .ok r) :
    ∃ (name colon tyName sep : Token) (c1 c2 c3 c5 : Cursor) (ty id : EntryId) (ctx4 : Context),
      c.Takes name c1 ∧ name.kind = .ident ∧ c1.Takes colon c2 ∧ colon.kind = .colon ∧
      c2.Takes tyName c3 ∧ tyName.kind = .ident ∧
      ctx.lookupType tyName.lexeme tyName.loc = .ok ty ∧
      ctx.define name.lexeme
        (.var { name := name.lexeme, ty, kind := .param, offset := some offset }) name.loc =
        .ok (ctx4, id) ∧
      c3.Takes sep c5 ∧ sep.kind ∈ [.comma, .rParen] ∧
      ((sep.kind = .rParen ∧ r.value = ([id], ctx4) ∧ r.cursor = c5) ∨
        (sep.kind ≠ .rParen ∧ ∃ rest : Read c5 (List EntryId × Context),
          params (offset + ((ctx.table.typeInfo? ty).map (·.size)).getD 0) ctx4 c5 = .ok rest ∧
          r.value = (id :: rest.value.1, rest.value.2) ∧ r.cursor = rest.cursor)) := by
  rw [params] at parsed
  rcases Except.ok_of_bind_eq_ok parsed with ⟨⟨name, c1, h1⟩, nameRead, parsed⟩
  rcases Except.ok_of_bind_eq_ok parsed with ⟨⟨colon, c2, h2⟩, colonRead, parsed⟩
  rcases Except.ok_of_bind_eq_ok parsed with ⟨⟨tyName, c3, h3⟩, tyNameRead, parsed⟩
  rcases Except.ok_of_bind_eq_ok parsed with ⟨ty, typed, parsed⟩
  rcases Except.ok_of_bind_eq_ok parsed with ⟨⟨ctx4, id⟩, defined, parsed⟩
  rcases Except.ok_of_bind_eq_ok parsed with ⟨⟨sep, c5, h5⟩, sepRead, parsed⟩
  have nameStep := Cursor.takes_of_expect nameRead
  have colonStep := Cursor.takes_of_expect colonRead
  have tyNameStep := Cursor.takes_of_expect tyNameRead
  have sepStep := Cursor.takes_of_expect sepRead
  refine ⟨name, colon, tyName, sep, c1, c2, c3, c5, ty, id, ctx4, nameStep.2,
    List.mem_singleton.1 nameStep.1, colonStep.2, List.mem_singleton.1 colonStep.1,
    tyNameStep.2, List.mem_singleton.1 tyNameStep.1, Cursor.lift_eq_ok.1 typed,
    Cursor.lift_eq_ok.1 defined, sepStep.2, sepStep.1, ?_⟩
  dsimp only at parsed
  split at parsed
  · rename_i isClose
    cases parsed
    exact Or.inl ⟨isClose, rfl, rfl⟩
  · rename_i notClose
    rcases Except.ok_of_bind_eq_ok parsed with ⟨⟨⟨rest, ctx6⟩, c6, h6⟩, restRead, parsed⟩
    cases parsed
    exact Or.inr ⟨notClose, _, restRead, rfl, rfl⟩

/-- A parameter list: `(`, then `)` at once or parameters from offset zero. -/
theorem paramList_eq_ok {r : Read c (List EntryId × Context)} (parsed : paramList ctx c = .ok r) :
    ∃ (lp : Token) (c1 : Cursor), c.Takes lp c1 ∧ lp.kind = .lParen ∧
      ((∃ rp : Token, c1.Takes rp r.cursor ∧ rp.kind = .rParen ∧ r.value = ([], ctx)) ∨
        (c1.look.kind ≠ .rParen ∧ ∃ ps : Read c1 (List EntryId × Context),
          params 0 ctx c1 = .ok ps ∧ r.value = ps.value ∧ r.cursor = ps.cursor)) := by
  rw [paramList] at parsed
  rcases Except.ok_of_bind_eq_ok parsed with ⟨⟨lp, c1, h1⟩, lpRead, parsed⟩
  have lpStep := Cursor.takes_of_expect lpRead
  refine ⟨lp, c1, lpStep.2, List.mem_singleton.1 lpStep.1, ?_⟩
  dsimp only at parsed
  split at parsed
  · rcases Except.ok_of_bind_eq_ok parsed with ⟨⟨rp, c2, h2⟩, rpRead, parsed⟩
    cases parsed
    have rpStep := Cursor.takes_of_expect rpRead
    exact Or.inl ⟨rp, rpStep.2, List.mem_singleton.1 rpStep.1, rfl⟩
  · rename_i notClose
    rcases Except.ok_of_bind_eq_ok parsed with ⟨⟨ps, c2, h2⟩, psRead, parsed⟩
    cases parsed
    exact Or.inr ⟨notClose, _, psRead, rfl, rfl⟩

/--
A function definition: its name, the parameters in a new scope and the body inside it; the
return type is resolved from the body's returns, and the function is defined after the
parameter scope is closed.
-/
theorem funcDef_eq_ok {index : Nat} {r : Read c (FuncDef × Context)}
    (parsed : funcDef index ctx c = .ok r) :
    ∃ (name : Token) (c1 : Cursor) (ps : Read c1 (List EntryId × Context))
      (body : Read ps.cursor (Block × Context)) (returnType entry : EntryId),
      c.Takes name c1 ∧ name.kind = .ident ∧ paramList ctx.enter.1 c1 = .ok ps ∧
      block ps.value.2 ps.cursor = .ok body ∧
      resolveReturnType body.value.1.returns = .ok returnType ∧
      (body.value.2.exit ctx.enter.2).define name.lexeme
        (.func ⟨name.lexeme, ⟨index⟩, ps.value.1, returnType⟩) name.loc = .ok (r.value.2, entry) ∧
      r.value.1 = ⟨name.lexeme, entry, ctx.enter.2, body.value.1, returnType, name.loc⟩ ∧
      r.cursor = body.cursor := by
  rw [funcDef] at parsed
  rcases Except.ok_of_bind_eq_ok parsed with ⟨⟨name, c1, h1⟩, nameRead, parsed⟩
  rcases Except.ok_of_bind_eq_ok parsed with ⟨⟨⟨paramIds, ctx2⟩, c2, h2⟩, psRead, parsed⟩
  rcases Except.ok_of_bind_eq_ok parsed with ⟨⟨⟨body, ctx3⟩, c3, h3⟩, bodyRead, parsed⟩
  have nameStep := Cursor.takes_of_expect nameRead
  dsimp only at parsed
  split at parsed
  · rename_i returnType resolved
    rcases Except.ok_of_bind_eq_ok parsed with ⟨returnType', isPure, parsed⟩
    cases isPure
    rcases Except.ok_of_bind_eq_ok parsed with ⟨⟨ctx5, entry⟩, defined, parsed⟩
    cases parsed
    exact ⟨name, c1, ⟨(paramIds, ctx2), c2, h2⟩, ⟨(body, ctx3), c3, h3⟩, returnType, entry,
      nameStep.2, List.mem_singleton.1 nameStep.1, psRead, bodyRead, resolved,
      Cursor.lift_eq_ok.1 defined, rfl, rfl⟩
  all_goals
    rcases Except.ok_of_bind_eq_ok parsed with ⟨_, thrown, -⟩
    cases thrown

/-- A declaration is a variable declaration after `var` and a function definition after a name. -/
theorem declaration_eq_ok {index : Nat} {r : Read c (Decl × Context)}
    (parsed : declaration index ctx c = .ok r) :
    (c.look.kind = .varKw ∧ ∃ d : Read c (VarDecl × Context), varDecl ctx c = .ok d ∧
        r.value = (.var d.value.1, d.value.2) ∧ r.cursor = d.cursor) ∨
      (c.look.kind = .ident ∧ ∃ f : Read c (FuncDef × Context), funcDef index ctx c = .ok f ∧
        r.value = (.func f.value.1, f.value.2) ∧ r.cursor = f.cursor) := by
  rw [declaration] at parsed
  split at parsed
  · rename_i isVar
    rcases Except.ok_of_bind_eq_ok parsed with ⟨⟨⟨d, ctx1⟩, c1, h1⟩, declRead, parsed⟩
    cases parsed
    exact Or.inl ⟨isVar, _, declRead, rfl, rfl⟩
  · split at parsed
    · rename_i isIdent
      rcases Except.ok_of_bind_eq_ok parsed with ⟨⟨⟨f, ctx1⟩, c1, h1⟩, funcRead, parsed⟩
      cases parsed
      exact Or.inr ⟨isIdent, _, funcRead, rfl, rfl⟩
    · cases parsed

/-- Declarations up to the end of input: none there, otherwise a declaration and the rest. -/
theorem declarations_eq_ok {index : Nat} {res : List Decl × Context × Cursor}
    (parsed : declarations index ctx c = .ok res) :
    (c.look.kind = .eof ∧ res = ([], ctx, c)) ∨
      (c.look.kind ≠ .eof ∧ ∃ (d : Read c (Decl × Context)) (rest : List Decl × Context × Cursor),
        declaration index ctx c = .ok d ∧ declarations (index + 1) d.value.2 d.cursor = .ok rest ∧
        res = (d.value.1 :: rest.1, rest.2)) := by
  rw [declarations] at parsed
  split at parsed
  · rename_i isEnd
    cases parsed
    exact Or.inl ⟨isEnd, rfl⟩
  · rename_i notEnd
    rcases Except.ok_of_bind_eq_ok parsed with ⟨⟨⟨d, ctx1⟩, c1, h1⟩, declRead, parsed⟩
    rcases Except.ok_of_bind_eq_ok parsed with ⟨⟨rest, ctx2, c2⟩, restRead, parsed⟩
    cases parsed
    exact Or.inr ⟨notEnd, _, _, declRead, restRead, rfl⟩

end

end Parse

/-- The context in which declarations are read: the built-in types defined in the root. -/
def Context.builtin (loc : Location) : Context :=
  Parse.defineBuiltins { Context.initial with current := some ScopeTable.root } loc

/--
A program is read when the first pull gives a token and the declarations after it are read
from the context of the built-in types, up to the end of input.
-/
theorem Program.read_eq_ok {f : Feed} {p : Program} (parsed : (Program.read f).result = .ok p) :
    ∃ (c : Cursor) (decls : List Decl) (ctx : Context) (c' : Cursor),
      Cursor.start f = .ok c ∧
      Parse.declarations 0 (Context.builtin c.look.loc) c = .ok (decls, ctx, c') ∧
      p = ⟨decls, ctx.table⟩ := by
  unfold Program.read at parsed
  split at parsed
  · cases parsed
  · rename_i c started
    dsimp only at parsed
    split at parsed
    · rename_i decls ctx c' declsRead
      cases parsed
      exact ⟨c, decls, ctx, c', started, declsRead, rfl⟩
    · cases parsed

/-- An empty feed reads as the program of no declarations over the built-in types. -/
theorem Program.read_empty (loc : Location) :
    (Program.read ⟨[], loc⟩).result = .ok ⟨[], (Context.builtin loc).table⟩ := by
  simp [Program.read, Cursor.start, Feed.pull, Parse.declarations, Token.eofAt, Context.builtin]
  rfl

end ImpFront
