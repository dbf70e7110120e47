import ImpFront.Proofs.Steps.Program

/-!
# Runs put together from their steps

The converses of the step lemmas of `Steps.Expr`, `Steps.Stmt` and `Steps.Program`. A run of a
rule is determined by the tokens it takes, the runs of the rules it calls, and the checks that
pass: each lemma here says that a rule succeeds, with a given value and a given cursor after it,
once those are known. A proof that relates two runs, on two feeds or on two token streams, takes
the first run apart with the step lemmas and puts the second together with these, and never
unfolds a rule.

There is one lemma for each way a rule can succeed, so one for each disjunct of its step lemma.
-/

namespace ImpFront

namespace Cursor

variable {c d : Cursor} {t : Token}

/-- A step is what consuming the lookahead does. -/
theorem advance_eq_of_takes (taken : c.Takes t d) (notEof : c.look.kind ≠ .eof) :
    c.advance notEof = .ok ⟨t, d, taken.left_lt⟩ := by
  obtain ⟨rfl, -, pulled, count⟩ := taken
  unfold advance
  split
  · rename_i t' f' pulled'
    rw [pulled, Prod.mk.injEq, Except.ok.injEq] at pulled'
    obtain ⟨look, feed, n⟩ := d
    simp only at pulled' count
    obtain ⟨rfl, rfl⟩ := pulled'
    subst count
    rfl
  · rename_i e f' pulled'
    rw [pulled] at pulled'
    cases pulled'

/-- A step of an expected kind is what expecting it does. -/
theorem expect_eq_of_takes {kinds : List TokenKind} (taken : c.Takes t d) (expected : t.kind ∈ kinds) :
    c.expect kinds = .ok ⟨t, d, taken.left_lt⟩ := by
  have notEof := taken.2.1
  have isLook : c.look.kind ∈ kinds := taken.1 ▸ expected
  rw [expect, dif_pos ⟨isLook, notEof⟩, advance_eq_of_takes taken notEof]

end Cursor

namespace Parse

open Cursor

variable {ctx : Context} {c : Cursor}

/-! ## Expressions -/

/-- A disjunction not followed by `=` is the whole assignment. -/
theorem expression_eq_of_tier {lhs : Read c Expr} (lhsRead : tier 5 ctx c = .ok lhs)
    (notEq : lhs.cursor.look.kind ≠ .eq) : expression ctx c = .ok lhs := by
  obtain ⟨v, c1, h1⟩ := lhs
  rw [expression, lhsRead]
  simp only [bind, Except.bind, dif_neg notEq]
  rfl

theorem expression_eq_of_assign {lhs : Read c Expr} {op : Token} {c2 : Cursor} {rhs : Read c2 Expr}
    {e : Expr} (lhsRead : tier 5 ctx c = .ok lhs) (taken : lhs.cursor.Takes op c2)
    (isEq : op.kind = .eq) (isVar : lhs.value.isVar) (rhsRead : expression ctx c2 = .ok rhs)
    (typed : ctx.binary .assign lhs.value rhs.value op.loc = .ok e) :
    ∃ r : Read c Expr, expression ctx c = .ok r ∧ r.value = e ∧ r.cursor = rhs.cursor := by
  have isEq' : lhs.cursor.look.kind = .eq := by rw [← taken.1]; exact isEq
  have lt1 := lhs.lt
  have lt2 := taken.left_lt
  have lt3 := rhs.lt
  refine ⟨⟨e, rhs.cursor, by omega⟩, ?_, rfl, rfl⟩
  obtain ⟨v1, c1, h1⟩ := lhs
  obtain ⟨v3, c3, h3⟩ := rhs
  rw [expression, lhsRead]
  simp only [bind, Except.bind, dif_pos isEq', advance_eq_of_takes taken, if_pos isVar, rhsRead,
    typed, lift_ok]
  rfl

theorem tier_succ_eq_of {k : Nat} {lhs : Read c Expr}
    {rest : Expr × { c' : Cursor // c'.left ≤ lhs.cursor.left }} (lhsRead : tier k ctx c = .ok lhs)
    (restRead : tierRest (k + 1) lhs.value ctx lhs.cursor = .ok rest) :
    ∃ r : Read c Expr, tier (k + 1) ctx c = .ok r ∧ r.value = rest.1 ∧ r.cursor = rest.2.1 := by
  have lt1 := lhs.lt
  have le2 := rest.2.2
  refine ⟨⟨rest.1, rest.2.1, by omega⟩, ?_, rfl, rfl⟩
  obtain ⟨v1, c1, h1⟩ := lhs
  obtain ⟨e2, c2, h2⟩ := rest
  rw [tier, lhsRead]
  simp only [bind, Except.bind, restRead]
  rfl

theorem tierRest_eq_of_some {n : Nat} {lhs e : Expr} {op : BinOp} {opTok : Token} {c1 : Cursor}
    {rhs : Read c1 Expr} {rest : Expr × { c' : Cursor // c'.left ≤ rhs.cursor.left }}
    (someOp : tierOp? n c.look.kind = some op) (taken : c.Takes opTok c1)
    (rhsRead : tier (n - 1) ctx c1 = .ok rhs) (typed : ctx.binary op lhs rhs.value opTok.loc = .ok e)
    (restRead : tierRest n e ctx rhs.cursor = .ok rest) :
    ∃ res : Expr × { c' : Cursor // c'.left ≤ c.left }, tierRest n lhs ctx c = .ok res ∧
      res.1 = rest.1 ∧ res.2.1 = rest.2.1 := by
  have lt1 := taken.left_lt
  have lt2 := rhs.lt
  have le3 := rest.2.2
  refine ⟨(rest.1, ⟨rest.2.1, by omega⟩), ?_, rfl, rfl⟩
  obtain ⟨v2, c2, h2⟩ := rhs
  obtain ⟨e3, c3, h3⟩ := rest
  rw [tierRest]
  split
  · rename_i noOp
    rw [someOp] at noOp
    cases noOp
  · rename_i op' someOp'
    rw [someOp, Option.some.injEq] at someOp'
    subst someOp'
    simp only [bind, Except.bind, advance_eq_of_takes taken, rhsRead, typed, lift_ok, restRead]
    rfl

/-- Only a token of a literal kind has a literal value. -/
theorem literalOf?_kind {t : Token} {value : Literal} (lit : literalOf? t = some value) :
    t.kind ∈ [.intLit, .floatLit, .boolLit, .stringLit] := by
  unfold literalOf? at lit
  split at lit <;> simp_all

/-- A literal token taken is read into its value, typed by what its type's name resolves to. -/
theorem primary_eq_of_literal {tok : Token} {c1 : Cursor} {value : Literal} {ty : EntryId}
    (taken : c.Takes tok c1) (lit : literalOf? tok = some value)
    (typed : ctx.lookupType value.typeName tok.loc = .ok ty) :
    primary ctx c = .ok ⟨.lit value ty tok.loc, c1, taken.left_lt⟩ := by
  have sameKind : c.look.kind = tok.kind := by rw [taken.1]
  have literal := literalOf?_kind lit
  rw [primary]
  split
  case h_1 isInt =>
    obtain ⟨v, readOk, rfl⟩ : ∃ v, Numeral.readInt? tok.lexeme = some v ∧ .int v = value := by
      simpa [literalOf?, ← sameKind, isInt] using lit
    simp only [bind, Except.bind, advance_eq_of_takes taken, readOk]
    simp [Literal.typeName] at typed
    simp [typed, pure, Except.pure]
  case h_2 isFloat =>
    obtain ⟨v, readOk, rfl⟩ : ∃ v, Numeral.readFloat? tok.lexeme = some v ∧ .float v = value := by
      simpa [literalOf?, ← sameKind, isFloat] using lit
    simp only [bind, Except.bind, advance_eq_of_takes taken, readOk]
    simp [Literal.typeName] at typed
    simp [typed, pure, Except.pure]
  case h_3 isBool =>
    obtain rfl : value = .bool (tok.lexeme == "true") := by
      simpa [literalOf?, ← sameKind, isBool] using lit.symm
    simp only [bind, Except.bind, advance_eq_of_takes taken]
    simp [Literal.typeName] at typed
    simp [typed, pure, Except.pure]
  case h_4 isString =>
    obtain rfl : value = .str tok.lexeme := by
      simpa [literalOf?, ← sameKind, isString] using lit.symm
    simp only [bind, Except.bind, advance_eq_of_takes taken]
    simp [Literal.typeName] at typed
    simp [typed, pure, Except.pure]
  case h_5 isIdent | h_6 isIdent =>
    rw [← sameKind, isIdent] at literal
    simp at literal
  case h_7 notInt notFloat notBool notString _ _ =>
    rw [← sameKind] at literal
    simp only [List.mem_cons, List.not_mem_nil, or_false] at literal
    rcases literal with isKind | isKind | isKind | isKind <;> contradiction

theorem primary_eq_of_call {name : Token} {c1 : Cursor} {e : Read c1 Expr}
    (taken : c.Takes name c1) (isIdent : name.kind = .ident) (isCall : c1.look.kind = .lParen)
    (called : call name ctx c1 = .ok e) :
    ∃ r : Read c Expr, primary ctx c = .ok r ∧ r.value = e.value ∧ r.cursor = e.cursor := by
  have isIdent' : c.look.kind = .ident := by rw [← taken.1]; exact isIdent
  have lt1 := taken.left_lt
  have lt2 := e.lt
  refine ⟨⟨e.value, e.cursor, by omega⟩, ?_, rfl, rfl⟩
  obtain ⟨v, c2, h2⟩ := e
  rw [primary]
  split
  case h_5 =>
    simp only [bind, Except.bind, advance_eq_of_takes taken, if_pos isCall, called]
    rfl
  all_goals
    rename_i other
    first
      | (rw [isIdent'] at other; cases other)
      | exact absurd isIdent' ‹_›

theorem primary_eq_of_var {name : Token} {c1 : Cursor} {id : EntryId} {v : VarInfo}
    (taken : c.Takes name c1) (isIdent : name.kind = .ident) (notCall : c1.look.kind ≠ .lParen)
    (found : ctx.lookup name.lexeme name.loc = .ok id) (isVar : ctx.table.entry id = .var v) :
    ∃ r : Read c Expr, primary ctx c = .ok r ∧ r.value = .var id v.ty name.loc ∧ r.cursor = c1 := by
  have isIdent' : c.look.kind = .ident := by rw [← taken.1]; exact isIdent
  refine ⟨⟨_, c1, taken.left_lt⟩, ?_, rfl, rfl⟩
  rw [primary]
  split
  case h_5 =>
    simp only [bind, Except.bind, advance_eq_of_takes taken, if_neg notCall, found, lift_ok, isVar]
    rfl
  all_goals
    rename_i other
    first
      | (rw [isIdent'] at other; cases other)
      | exact absurd isIdent' ‹_›

theorem primary_eq_of_paren {openTok closeTok : Token} {c1 c3 : Cursor} {inner : Read c1 Expr}
    (taken : c.Takes openTok c1) (isParen : openTok.kind = .lParen)
    (innerRead : expression ctx c1 = .ok inner) (closing : inner.cursor.Takes closeTok c3)
    (isClose : closeTok.kind = .rParen) :
    ∃ r : Read c Expr, primary ctx c = .ok r ∧ r.value = inner.value ∧ r.cursor = c3 := by
  have isParen' : c.look.kind = .lParen := by rw [← taken.1]; exact isParen
  have lt1 := taken.left_lt
  have lt2 := inner.lt
  have lt3 := closing.left_lt
  refine ⟨⟨inner.value, c3, by omega⟩, ?_, rfl, rfl⟩
  have closeKind : closeTok.kind ∈ [TokenKind.rParen] := by simp [isClose]
  obtain ⟨v, c2, h2⟩ := inner
  rw [primary]
  split
  case h_6 =>
    simp only [bind, Except.bind, advance_eq_of_takes taken, innerRead,
      expect_eq_of_takes closing closeKind]
    rfl
  all_goals
    rename_i other
    first
      | (rw [isParen'] at other; cases other)
      | exact absurd isParen' ‹_›

/-- A call of a function without parameters: `(` and at once `)`. -/
theorem call_eq_of_noArgs {name lp rp : Token} {callee : EntryId} {info : FuncInfo} {c1 c2 : Cursor}
    (found : ctx.lookup name.lexeme name.loc = .ok callee)
    (isFunc : ctx.table.funcInfo? callee = some info) (taken : c.Takes lp c1)
    (isLp : lp.kind = .lParen) (closing : c1.Takes rp c2) (isRp : rp.kind = .rParen)
    (arity : ([] : List Expr).length = info.params.length) :
    ∃ r : Read c Expr, call name ctx c = .ok r ∧
      r.value = .call callee [] info.returnType name.loc ∧ r.cursor = c2 := by
  have isClose : c1.look.kind = .rParen := by rw [← closing.1]; exact isRp
  have lt1 := taken.left_lt
  have lt2 := closing.left_lt
  refine ⟨⟨_, c2, by omega⟩, ?_, rfl, rfl⟩
  have lpKind : lp.kind ∈ [TokenKind.lParen] := by simp [isLp]
  rw [call]
  simp only [bind, Except.bind, found, lift_ok, isFunc, expect_eq_of_takes taken lpKind,
    dif_pos isClose, advance_eq_of_takes closing, pure, Except.pure]
  simp [arity, checkArgs]

/-- A call with arguments up to the closing parenthesis, as many as the parameters, each typed. -/
theorem call_eq_of_args {name lp : Token} {callee : EntryId} {info : FuncInfo} {c1 : Cursor}
    {a : Read c1 (List Expr)} (found : ctx.lookup name.lexeme name.loc = .ok callee)
    (isFunc : ctx.table.funcInfo? callee = some info) (taken : c.Takes lp c1)
    (isLp : lp.kind = .lParen) (notClose : c1.look.kind ≠ .rParen)
    (argsRead : arguments ctx c1 = .ok a) (arity : a.value.length = info.params.length)
    (checked : checkArgs ctx a.value info.params = .ok ()) :
    ∃ r : Read c Expr, call name ctx c = .ok r ∧
      r.value = .call callee a.value info.returnType name.loc ∧ r.cursor = a.cursor := by
  have lt1 := taken.left_lt
  have lt2 := a.lt
  refine ⟨⟨_, a.cursor, by omega⟩, ?_, rfl, rfl⟩
  have lpKind : lp.kind ∈ [TokenKind.lParen] := by simp [isLp]
  obtain ⟨args, c2, h2⟩ := a
  rw [call]
  simp only [bind, Except.bind, found, lift_ok, isFunc, expect_eq_of_takes taken lpKind,
    dif_neg notClose, argsRead, pure, Except.pure]
  simp [arity, checked]

/-- The last argument, closed by `)`. -/
theorem arguments_eq_of_last {e : Read c Expr} {sep : Token} {c2 : Cursor}
    (first : expression ctx c = .ok e) (separated : e.cursor.Takes sep c2)
    (isClose : sep.kind = .rParen) :
    ∃ r : Read c (List Expr), arguments ctx c = .ok r ∧ r.value = [e.value] ∧ r.cursor = c2 := by
  have lt1 := e.lt
  have lt2 := separated.left_lt
  refine ⟨⟨_, c2, by omega⟩, ?_, rfl, rfl⟩
  have sepKind : sep.kind ∈ [TokenKind.comma, .semicolon, .rParen] := by simp [isClose]
  obtain ⟨v1, c1, h1⟩ := e
  rw [arguments, first]
  simp only [bind, Except.bind, expect_eq_of_takes separated sepKind, if_pos isClose]
  rfl

/-- An argument, a comma or a semicolon, and more arguments. -/
theorem arguments_eq_of_more {e : Read c Expr} {sep : Token} {c2 : Cursor}
    {rest : Read c2 (List Expr)} (first : expression ctx c = .ok e)
    (separated : e.cursor.Takes sep c2) (sepKind : sep.kind ∈ [.comma, .semicolon, .rParen])
    (notClose : sep.kind ≠ .rParen) (restRead : arguments ctx c2 = .ok rest) :
    ∃ r : Read c (List Expr), arguments ctx c = .ok r ∧ r.value = e.value :: rest.value ∧
      r.cursor = rest.cursor := by
  have lt1 := e.lt
  have lt2 := separated.left_lt
  have lt3 := rest.lt
  refine ⟨⟨_, rest.cursor, by omega⟩, ?_, rfl, rfl⟩
  obtain ⟨v1, c1, h1⟩ := e
  obtain ⟨v3, c3, h3⟩ := rest
  rw [arguments, first]
  simp only [bind, Except.bind, expect_eq_of_takes separated sepKind, if_neg notClose, restRead]
  rfl

/-! ## Statements -/

theorem varDecl_eq_of {kw name eqTok semi : Token} {c1 c2 c3 c5 : Cursor} {init : Read c3 Expr}
    {ctx6 : Context} {id : EntryId} (kwTaken : c.Takes kw c1) (isKw : kw.kind = .varKw)
    (nameTaken : c1.Takes name c2) (isName : name.kind = .ident) (eqTaken : c2.Takes eqTok c3)
    (isEq : eqTok.kind = .eq) (initRead : expression ctx c3 = .ok init)
    (semiTaken : init.cursor.Takes semi c5) (isSemi : semi.kind = .semicolon)
    (defined : ctx.define name.lexeme
      (.var { name := name.lexeme, ty := init.value.ty, kind := ctx.varKind }) name.loc =
        .ok (ctx6, id)) :
    ∃ r : Read c (VarDecl × Context), varDecl ctx c = .ok r ∧
      r.value = (⟨id, init.value, kw.loc⟩, ctx6) ∧ r.cursor = c5 := by
  have lt1 := kwTaken.left_lt
  have lt2 := nameTaken.left_lt
  have lt3 := eqTaken.left_lt
  have lt4 := init.lt
  have lt5 := semiTaken.left_lt
  refine ⟨⟨_, c5, by omega⟩, ?_, rfl, rfl⟩
  have kwKind : kw.kind ∈ [TokenKind.varKw] := by simp [isKw]
  have nameKind : name.kind ∈ [TokenKind.ident] := by simp [isName]
  have eqKind : eqTok.kind ∈ [TokenKind.eq] := by simp [isEq]
  have semiKind : semi.kind ∈ [TokenKind.semicolon] := by simp [isSemi]
  simp only [Context.varKind] at defined
  obtain ⟨v, c4, h4⟩ := init
  rw [varDecl]
  simp only [bind, Except.bind, expect_eq_of_takes kwTaken kwKind,
    expect_eq_of_takes nameTaken nameKind, expect_eq_of_takes eqTaken eqKind,
    initRead, expect_eq_of_takes semiTaken semiKind, defined, lift_ok]
  rfl

theorem exprStatement_eq_of {e : Read c Expr} {semi : Token} {c2 : Cursor}
    (exprRead : expression ctx c = .ok e) (semiTaken : e.cursor.Takes semi c2)
    (isSemi : semi.kind = .semicolon) :
    ∃ r : Read c (Stmt × Context), exprStatement ctx c = .ok r ∧
      r.value = (.expr e.value c.look.loc, ctx) ∧ r.cursor = c2 := by
  have lt1 := e.lt
  have lt2 := semiTaken.left_lt
  refine ⟨⟨_, c2, by omega⟩, ?_, rfl, rfl⟩
  have semiKind : semi.kind ∈ [TokenKind.semicolon] := by simp [isSemi]
  obtain ⟨v, c1, h1⟩ := e
  rw [exprStatement]
  simp only [bind, Except.bind, exprRead, expect_eq_of_takes semiTaken semiKind]
  rfl

theorem condition_eq_of {lp rp : Token} {c1 c3 : Cursor} {cond : Read c1 Expr}
    (opened : c.Takes lp c1) (isOpen : lp.kind = .lParen) (condRead : expression ctx c1 = .ok cond)
    (isBool : ctx.expectBool cond.value = .ok ()) (closed : cond.cursor.Takes rp c3)
    (isClose : rp.kind = .rParen) :
    ∃ r : Read c Expr, condition ctx c = .ok r ∧ r.value = cond.value ∧ r.cursor = c3 := by
  have lt1 := opened.left_lt
  have lt2 := cond.lt
  have lt3 := closed.left_lt
  refine ⟨⟨_, c3, by omega⟩, ?_, rfl, rfl⟩
  have lpKind : lp.kind ∈ [TokenKind.lParen] := by simp [isOpen]
  have rpKind : rp.kind ∈ [TokenKind.rParen] := by simp [isClose]
  obtain ⟨v, c2, h2⟩ := cond
  rw [condition]
  simp only [bind, Except.bind, expect_eq_of_takes opened lpKind, condRead, isBool, lift_ok,
    expect_eq_of_takes closed rpKind]
  rfl

theorem block_eq_of {lb rb : Token} {c1 c3 : Cursor}
    {body : List Stmt × Context × { c' : Cursor // c'.left ≤ c1.left }}
    (opened : c.Takes lb c1) (isOpen : lb.kind = .lBrace)
    (bodyRead : blockBody ctx.enter.1 c1 = .ok body) (closed : body.2.2.1.Takes rb c3)
    (isClose : rb.kind = .rBrace) :
    ∃ r : Read c (Block × Context), block ctx c = .ok r ∧
      r.value = (⟨ctx.enter.2, body.1, lb.loc⟩, body.2.1.exit ctx.enter.2) ∧ r.cursor = c3 := by
  obtain ⟨stmts, ctx2, c2, le2⟩ := body
  have lt1 := opened.left_lt
  have lt3 := closed.left_lt
  refine ⟨⟨_, c3, by simp only at le2 lt3; omega⟩, ?_, rfl, rfl⟩
  have lbKind : lb.kind ∈ [TokenKind.lBrace] := by simp [isOpen]
  have rbKind : rb.kind ∈ [TokenKind.rBrace] := by simp [isClose]
  rw [block]
  simp only [bind, Except.bind, expect_eq_of_takes opened lbKind, bodyRead,
    expect_eq_of_takes closed rbKind]
  rfl

theorem blockBody_eq_of_close (isClose : c.look.kind = .rBrace) :
    blockBody ctx c = .ok ([], ctx, ⟨c, Nat.le_refl _⟩) := by
  rw [blockBody, if_pos isClose]
  rfl

theorem blockBody_eq_of_cons {s : Read c (Stmt × Context)}
    {rest : List Stmt × Context × { c' : Cursor // c'.left ≤ s.cursor.left }}
    (notClose : c.look.kind ≠ .rBrace) (stmtRead : statement ctx c = .ok s)
    (restRead : blockBody s.value.2 s.cursor = .ok rest) :
    ∃ res : List Stmt × Context × { c' : Cursor // c'.left ≤ c.left }, blockBody ctx c = .ok res ∧
      res.1 = s.value.1 :: rest.1 ∧ res.2.1 = rest.2.1 ∧ res.2.2.1 = rest.2.2.1 := by
  obtain ⟨⟨stmt, ctx1⟩, c1, lt1⟩ := s
  obtain ⟨stmts, ctx2, c2, le2⟩ := rest
  refine ⟨(stmt :: stmts, ctx2, ⟨c2, by simp only at le2; omega⟩), ?_, rfl, rfl, rfl⟩
  rw [blockBody, if_neg notClose]
  simp only [bind, Except.bind, stmtRead, restRead]
  rfl

theorem statement_eq_of_block {b : Read c (Block × Context)} (isBrace : c.look.kind = .lBrace)
    (blockRead : block ctx c = .ok b) :
    statement ctx c = .ok ⟨(b.value.1.toStmt, b.value.2), b.cursor, b.lt⟩ := by
  rw [statement]
  split
  case h_1 =>
    simp only [bind, Except.bind, blockRead]
    rfl
  all_goals
    rename_i other
    first
      | (rw [isBrace] at other; cases other)
      | exact absurd isBrace ‹_›

theorem statement_eq_of_var {decl : Read c (VarDecl × Context)} (isVar : c.look.kind = .varKw)
    (declRead : varDecl ctx c = .ok decl) :
    statement ctx c = .ok ⟨(.varDecl decl.value.1, decl.value.2), decl.cursor, decl.lt⟩ := by
  rw [statement]
  split
  case h_5 =>
    simp only [bind, Except.bind, declRead]
    rfl
  all_goals
    rename_i other
    first
      | (rw [isVar] at other; cases other)
      | exact absurd isVar ‹_›

theorem statement_eq_of_while {kw : Token} {c1 : Cursor} {cond : Read c1 Expr}
    {body : Read cond.cursor (Stmt × Context)} (taken : c.Takes kw c1)
    (isWhile : kw.kind = .whileKw)
    (condRead : condition ctx c1 = .ok cond) (bodyRead : statement ctx cond.cursor = .ok body) :
    ∃ r : Read c (Stmt × Context), statement ctx c = .ok r ∧
      r.value = (.whileLoop cond.value body.value.1 kw.loc, body.value.2) ∧
      r.cursor = body.cursor := by
  have isWhile' : c.look.kind = .whileKw := by rw [← taken.1]; exact isWhile
  have lt1 := taken.left_lt
  have lt2 := cond.lt
  have lt3 := body.lt
  refine ⟨⟨_, body.cursor, by omega⟩, ?_, rfl, rfl⟩
  obtain ⟨v2, c2, h2⟩ := cond
  obtain ⟨v3, c3, h3⟩ := body
  rw [statement]
  split
  case h_3 =>
    simp only [bind, Except.bind, advance_eq_of_takes taken, condRead, bodyRead]
    rfl
  all_goals
    rename_i other
    first
      | (rw [isWhile'] at other; cases other)
      | exact absurd isWhile' ‹_›

theorem statement_eq_of_ifThen {kw : Token} {c1 : Cursor} {cond : Read c1 Expr}
    {thenRead : Read cond.cursor (Stmt × Context)} (taken : c.Takes kw c1) (isIf : kw.kind = .ifKw)
    (condRead : condition ctx c1 = .ok cond) (thenStmt : statement ctx cond.cursor = .ok thenRead)
    (notElse : thenRead.cursor.look.kind ≠ .elseKw) :
    ∃ r : Read c (Stmt × Context), statement ctx c = .ok r ∧
      r.value = (.ifElse cond.value thenRead.value.1 none kw.loc, thenRead.value.2) ∧
      r.cursor = thenRead.cursor := by
  have isIf' : c.look.kind = .ifKw := by rw [← taken.1]; exact isIf
  have lt1 := taken.left_lt
  have lt2 := cond.lt
  have lt3 := thenRead.lt
  refine ⟨⟨_, thenRead.cursor, by omega⟩, ?_, rfl, rfl⟩
  obtain ⟨v2, c2, h2⟩ := cond
  obtain ⟨v3, c3, h3⟩ := thenRead
  have notElse' : c3.look.kind ≠ .elseKw := notElse
  rw [statement]
  split
  case h_2 =>
    simp only [bind, Except.bind, advance_eq_of_takes taken, condRead, thenStmt, dif_neg notElse']
    rfl
  all_goals
    rename_i other
    first
      | (rw [isIf'] at other; cases other)
      | exact absurd isIf' ‹_›

theorem statement_eq_of_ifElse {kw elseTok : Token} {c1 c4 : Cursor} {cond : Read c1 Expr}
    {thenRead : Read cond.cursor (Stmt × Context)} {elseRead : Read c4 (Stmt × Context)}
    (taken : c.Takes kw c1) (isIf : kw.kind = .ifKw) (condRead : condition ctx c1 = .ok cond)
    (thenStmt : statement ctx cond.cursor = .ok thenRead)
    (elseTaken : thenRead.cursor.Takes elseTok c4) (isElse : elseTok.kind = .elseKw)
    (elseStmt : statement thenRead.value.2 c4 = .ok elseRead) :
    ∃ r : Read c (Stmt × Context), statement ctx c = .ok r ∧
      r.value = (.ifElse cond.value thenRead.value.1 (some elseRead.value.1) kw.loc,
        elseRead.value.2) ∧ r.cursor = elseRead.cursor := by
  have isIf' : c.look.kind = .ifKw := by rw [← taken.1]; exact isIf
  have lt1 := taken.left_lt
  have lt2 := cond.lt
  have lt3 := thenRead.lt
  have lt4 := elseTaken.left_lt
  have lt5 := elseRead.lt
  refine ⟨⟨_, elseRead.cursor, by omega⟩, ?_, rfl, rfl⟩
  obtain ⟨v2, c2, h2⟩ := cond
  obtain ⟨v3, c3, h3⟩ := thenRead
  obtain ⟨v5, c5, h5⟩ := elseRead
  have isElse' : c3.look.kind = .elseKw := by rw [← elseTaken.1]; exact isElse
  rw [statement]
  split
  case h_2 =>
    simp only [bind, Except.bind, advance_eq_of_takes taken, condRead, thenStmt, dif_pos isElse',
      advance_eq_of_takes elseTaken, elseStmt]
    rfl
  all_goals
    rename_i other
    first
      | (rw [isIf'] at other; cases other)
      | exact absurd isIf' ‹_›

theorem statement_eq_of_return {kw semi : Token} {c1 c3 : Cursor} {value : Read c1 Expr}
    (taken : c.Takes kw c1) (isReturn : kw.kind = .returnKw)
    (valueRead : expression ctx c1 = .ok value) (semiTaken : value.cursor.Takes semi c3)
    (isSemi : semi.kind = .semicolon) :
    ∃ r : Read c (Stmt × Context), statement ctx c = .ok r ∧
      r.value = (.ret value.value kw.loc, ctx) ∧ r.cursor = c3 := by
  have isReturn' : c.look.kind = .returnKw := by rw [← taken.1]; exact isReturn
  have lt1 := taken.left_lt
  have lt2 := value.lt
  have lt3 := semiTaken.left_lt
  refine ⟨⟨_, c3, by omega⟩, ?_, rfl, rfl⟩
  have semiKind : semi.kind ∈ [TokenKind.semicolon] := by simp [isSemi]
  obtain ⟨v2, c2, h2⟩ := value
  rw [statement]
  split
  case h_6 =>
    simp only [bind, Except.bind, advance_eq_of_takes taken, valueRead,
      expect_eq_of_takes semiTaken semiKind]
    rfl
  all_goals
    rename_i other
    first
      | (rw [isReturn'] at other; cases other)
      | exact absurd isReturn' ‹_›

theorem statement_eq_of_for {kw lp semi rp : Token} {c1 c2 c5 c7 : Cursor}
    {init : Read c2 (Stmt × Context)} {test : Read init.cursor Expr} {step : Read c5 Expr}
    {body : Read c7 (Stmt × Context)} (kwTaken : c.Takes kw c1) (isFor : kw.kind = .forKw)
    (lpTaken : c1.Takes lp c2) (isLp : lp.kind = .lParen)
    (initRead : ForInitRead ctx.enter.1 c2 init)
    (testRead : expression init.value.2 init.cursor = .ok test)
    (testBool : init.value.2.expectBool test.value = .ok ())
    (semiTaken : test.cursor.Takes semi c5) (isSemi : semi.kind = .semicolon)
    (stepRead : expression init.value.2 c5 = .ok step)
    (rpTaken : step.cursor.Takes rp c7) (isRp : rp.kind = .rParen)
    (bodyRead : statement init.value.2.enter.1 c7 = .ok body) :
    ∃ r : Read c (Stmt × Context), statement ctx c = .ok r ∧
      r.value = (.block ctx.enter.2 [init.value.1, .whileLoop test.value
          (.block init.value.2.enter.2 [body.value.1, .expr step.value c5.look.loc] kw.loc) kw.loc]
          kw.loc, (body.value.2.exit init.value.2.enter.2).exit ctx.enter.2) ∧
      r.cursor = body.cursor := by
  have isFor' : c.look.kind = .forKw := by rw [← kwTaken.1]; exact isFor
  have lt1 := kwTaken.left_lt
  have lt2 := lpTaken.left_lt
  have lt3 := init.lt
  have lt4 := test.lt
  have lt5 := semiTaken.left_lt
  have lt6 := step.lt
  have lt7 := rpTaken.left_lt
  have lt8 := body.lt
  refine ⟨⟨_, body.cursor, by omega⟩, ?_, rfl, rfl⟩
  have lpKind : lp.kind ∈ [TokenKind.lParen] := by simp [isLp]
  have semiKind : semi.kind ∈ [TokenKind.semicolon] := by simp [isSemi]
  have rpKind : rp.kind ∈ [TokenKind.rParen] := by simp [isRp]
  obtain ⟨v8, c8, h8⟩ := body
  obtain ⟨v6, c6, h6⟩ := step
  obtain ⟨v4, c4, h4⟩ := test
  obtain ⟨v3, c3, h3⟩ := init
  rw [statement]
  split
  case h_4 =>
    simp only [bind, Except.bind, advance_eq_of_takes kwTaken, expect_eq_of_takes lpTaken lpKind]
    rcases initRead with ⟨isVar, decl, declRead, initValue, initCursor⟩ | ⟨notVar, initRead⟩
    · simp only at initValue initCursor
      subst initValue initCursor
      rw [if_pos isVar]
      simp only [declRead, pure, Except.pure, testRead, testBool, lift_ok,
        expect_eq_of_takes semiTaken semiKind, stepRead, expect_eq_of_takes rpTaken rpKind,
        bodyRead]
    · rw [if_neg notVar]
      simp only [initRead, testRead, testBool, lift_ok, expect_eq_of_takes semiTaken semiKind,
        stepRead, expect_eq_of_takes rpTaken rpKind, bodyRead]
      rfl
  all_goals
    rename_i other
    first
      | (rw [isFor'] at other; cases other)
      | exact absurd isFor' ‹_›

/-- The first statement of a `for` loop is read as a statement too. -/
theorem ForInitRead.statement_eq {init : Read c (Stmt × Context)}
    (initRead : ForInitRead ctx c init) :
    statement ctx c = .ok init := by
  rcases initRead with ⟨isVar, decl, declRead, initValue, initCursor⟩ | ⟨-, initRead⟩
  · obtain ⟨v, e, lt⟩ := init
    simp only at initValue initCursor
    subst initValue initCursor
    exact statement_eq_of_var isVar declRead
  · obtain ⟨e, _, exprRead, _⟩ := exprStatement_eq_ok initRead
    rw [statement_of_exprStart (expression_start exprRead)]
    exact initRead

/-! ## Parameters and declarations -/

/-- The last parameter, closed by `)`. -/
theorem params_eq_of_last {offset : Nat} {name colon tyName sep : Token} {c1 c2 c3 c5 : Cursor}
    {ty id : EntryId} {ctx4 : Context} (nameTaken : c.Takes name c1) (isName : name.kind = .ident)
    (colonTaken : c1.Takes colon c2) (isColon : colon.kind = .colon)
    (tyTaken : c2.Takes tyName c3) (isTyName : tyName.kind = .ident)
    (typed : ctx.lookupType tyName.lexeme tyName.loc = .ok ty)
    (defined : ctx.define name.lexeme
      (.var { name := name.lexeme, ty, kind := .param, offset := some offset }) name.loc =
        .ok (ctx4, id))
    (sepTaken : c3.Takes sep c5) (isClose : sep.kind = .rParen) :
    ∃ r : Read c (List EntryId × Context), params offset ctx c = .ok r ∧
      r.value = ([id], ctx4) ∧ r.cursor = c5 := by
  have lt1 := nameTaken.left_lt
  have lt2 := colonTaken.left_lt
  have lt3 := tyTaken.left_lt
  have lt5 := sepTaken.left_lt
  refine ⟨⟨_, c5, by omega⟩, ?_, rfl, rfl⟩
  have nameKind : name.kind ∈ [TokenKind.ident] := by simp [isName]
  have colonKind : colon.kind ∈ [TokenKind.colon] := by simp [isColon]
  have tyKind : tyName.kind ∈ [TokenKind.ident] := by simp [isTyName]
  have sepKind : sep.kind ∈ [TokenKind.comma, .rParen] := by simp [isClose]
  rw [params]
  simp only [bind, Except.bind, expect_eq_of_takes nameTaken nameKind,
    expect_eq_of_takes colonTaken colonKind, expect_eq_of_takes tyTaken tyKind, typed, lift_ok,
    defined, expect_eq_of_takes sepTaken sepKind, if_pos isClose]
  rfl

/-- A parameter, a comma, and the next parameters at the offset moved on by its type's size. -/
theorem params_eq_of_more {offset : Nat} {name colon tyName sep : Token} {c1 c2 c3 c5 : Cursor}
    {ty id : EntryId} {ctx4 : Context} {rest : Read c5 (List EntryId × Context)}
    (nameTaken : c.Takes name c1) (isName : name.kind = .ident)
    (colonTaken : c1.Takes colon c2) (isColon : colon.kind = .colon)
    (tyTaken : c2.Takes tyName c3) (isTyName : tyName.kind = .ident)
    (typed : ctx.lookupType tyName.lexeme tyName.loc = .ok ty)
    (defined : ctx.define name.lexeme
      (.var { name := name.lexeme, ty, kind := .param, offset := some offset }) name.loc =
        .ok (ctx4, id))
    (sepTaken : c3.Takes sep c5) (sepKind : sep.kind ∈ [.comma, .rParen])
    (notClose : sep.kind ≠ .rParen)
    (restRead : params (offset + ((ctx.table.typeInfo? ty).map (·.size)).getD 0) ctx4 c5 = .ok rest) :
    ∃ r : Read c (List EntryId × Context), params offset ctx c = .ok r ∧
      r.value = (id :: rest.value.1, rest.value.2) ∧ r.cursor = rest.cursor := by
  have lt1 := nameTaken.left_lt
  have lt2 := colonTaken.left_lt
  have lt3 := tyTaken.left_lt
  have lt5 := sepTaken.left_lt
  have lt6 := rest.lt
  refine ⟨⟨_, rest.cursor, by omega⟩, ?_, rfl, rfl⟩
  have nameKind : name.kind ∈ [TokenKind.ident] := by simp [isName]
  have colonKind : colon.kind ∈ [TokenKind.colon] := by simp [isColon]
  have tyKind : tyName.kind ∈ [TokenKind.ident] := by simp [isTyName]
  obtain ⟨⟨ids, ctx6⟩, c6, h6⟩ := rest
  rw [params]
  simp only [bind, Except.bind, expect_eq_of_takes nameTaken nameKind,
    expect_eq_of_takes colonTaken colonKind, expect_eq_of_takes tyTaken tyKind, typed, lift_ok,
    defined, expect_eq_of_takes sepTaken sepKind, if_neg notClose, restRead]
  rfl

/-- An empty parameter list: `(` and at once `)`. -/
theorem paramList_eq_of_empty {lp rp : Token} {c1 c2 : Cursor} (lpTaken : c.Takes lp c1)
    (isLp : lp.kind = .lParen) (closing : c1.Takes rp c2) (isRp : rp.kind = .rParen) :
    ∃ r : Read c (List EntryId × Context), paramList ctx c = .ok r ∧ r.value = ([], ctx) ∧
      r.cursor = c2 := by
  have isClose : c1.look.kind = .rParen := by rw [← closing.1]; exact isRp
  have lt1 := lpTaken.left_lt
  have lt2 := closing.left_lt
  refine ⟨⟨_, c2, by omega⟩, ?_, rfl, rfl⟩
  have lpKind : lp.kind ∈ [TokenKind.lParen] := by simp [isLp]
  have rpKind : rp.kind ∈ [TokenKind.rParen] := by simp [isRp]
  rw [paramList]
  simp only [bind, Except.bind, expect_eq_of_takes lpTaken lpKind, if_pos isClose,
    expect_eq_of_takes closing rpKind]
  rfl

/-- A parameter list that is not empty: `(` and the parameters from offset zero. -/
theorem paramList_eq_of_params {lp : Token} {c1 : Cursor} {ps : Read c1 (List EntryId × Context)}
    (lpTaken : c.Takes lp c1) (isLp : lp.kind = .lParen) (notClose : c1.look.kind ≠ .rParen)
    (psRead : params 0 ctx c1 = .ok ps) :
    ∃ r : Read c (List EntryId × Context), paramList ctx c = .ok r ∧ r.value = ps.value ∧
      r.cursor = ps.cursor := by
  have lt1 := lpTaken.left_lt
  have lt2 := ps.lt
  refine ⟨⟨_, ps.cursor, by omega⟩, ?_, rfl, rfl⟩
  have lpKind : lp.kind ∈ [TokenKind.lParen] := by simp [isLp]
  obtain ⟨v2, c2, h2⟩ := ps
  rw [paramList]
  simp only [bind, Except.bind, expect_eq_of_takes lpTaken lpKind, if_neg notClose, psRead]
  rfl

theorem funcDef_eq_of {index : Nat} {name : Token} {c1 : Cursor}
    {ps : Read c1 (List EntryId × Context)} {body : Read ps.cursor (Block × Context)}
    {returnType entry : EntryId} {ctx5 : Context} (nameTaken : c.Takes name c1)
    (isName : name.kind = .ident) (psRead : paramList ctx.enter.1 c1 = .ok ps)
    (bodyRead : block ps.value.2 ps.cursor = .ok body)
    (resolved : resolveReturnType body.value.1.returns = .ok returnType)
    (defined : (body.value.2.exit ctx.enter.2).define name.lexeme
      (.func ⟨name.lexeme, ⟨index⟩, ps.value.1, returnType⟩) name.loc = .ok (ctx5, entry)) :
    ∃ r : Read c (FuncDef × Context), funcDef index ctx c = .ok r ∧
      r.value = (⟨name.lexeme, entry, ctx.enter.2, body.value.1, returnType, name.loc⟩, ctx5) ∧
      r.cursor = body.cursor := by
  have lt1 := nameTaken.left_lt
  have lt2 := ps.lt
  have lt3 := body.lt
  refine ⟨⟨_, body.cursor, by omega⟩, ?_, rfl, rfl⟩
  have nameKind : name.kind ∈ [TokenKind.ident] := by simp [isName]
  obtain ⟨⟨ids, ctx2⟩, c2, h2⟩ := ps
  obtain ⟨⟨b, ctx3⟩, c3, h3⟩ := body
  rw [funcDef]
  simp only [bind, Except.bind, expect_eq_of_takes nameTaken nameKind, psRead, bodyRead, resolved,
    pure, Except.pure, defined, lift_ok]

theorem declaration_eq_of_var {index : Nat} {d : Read c (VarDecl × Context)}
    (isVar : c.look.kind = .varKw) (declRead : varDecl ctx c = .ok d) :
    declaration index ctx c = .ok ⟨(.var d.value.1, d.value.2), d.cursor, d.lt⟩ := by
  rw [declaration, if_pos isVar]
  simp only [bind, Except.bind, declRead]
  rfl

theorem declaration_eq_of_func {index : Nat} {f : Read c (FuncDef × Context)}
    (isIdent : c.look.kind = .ident) (funcRead : funcDef index ctx c = .ok f) :
    declaration index ctx c = .ok ⟨(.func f.value.1, f.value.2), f.cursor, f.lt⟩ := by
  have notVar : ¬c.look.kind = .varKw := by rw [isIdent]; decide
  rw [declaration, if_neg notVar, if_pos isIdent]
  simp only [bind, Except.bind, funcRead]
  rfl

end Parse

end ImpFront
