import ImpFront.Proofs.Steps.Program

/-!
# What the reader builds

The rules of the reader consume tokens, but what they build depends on the tokens only
through the choices the tokens make. This module states, without tokens, which trees the
reader can build from a context and which context it leaves after them: `ExprRead` for
expressions, `StmtsRead` for statements, `ParamsRead` for parameter lists and `DeclsRead`
for declarations. Each rule is shown to build only trees of these judgments
(`Parse.expression_reads`, `Parse.statement_reads`, `Parse.declarations_reads`), so that a
property of every tree the reader returns is proved once, by induction over the judgment,
with one case for each way the reader makes a node.
-/

namespace ImpFront

/--
The expressions the reader can build over the context `ctx`: literals of the type that
their type's name resolves to, variables found by name, typed binary operations whose left
operand is a variable when the operator is `=`, and calls of functions found by name, with
as many arguments as parameters, each checked against its parameter.
-/
inductive ExprRead (ctx : Context) : Expr → Prop
  | lit {value : Literal} {ty : EntryId} {loc : Location}
      (typeFound : ctx.lookupType value.typeName loc = .ok ty) :
      ExprRead ctx (.lit value ty loc)
  | var {name : String} {id : EntryId} {v : VarInfo} {loc : Location}
      (found : ctx.lookup name loc = .ok id) (isVar : ctx.table.entry id = .var v) :
      ExprRead ctx (.var id v.ty loc)
  | binary {op : BinOp} {lhs rhs e : Expr} {loc : Location}
      (lhsRead : ExprRead ctx lhs) (rhsRead : ExprRead ctx rhs)
      (target : op = .assign → lhs.isVar) (typed : ctx.binary op lhs rhs loc = .ok e) :
      ExprRead ctx e
  | call {name : String} {callee : EntryId} {info : FuncInfo} {args : List Expr}
      {loc : Location} (found : ctx.lookup name loc = .ok callee)
      (isFunc : ctx.table.funcInfo? callee = some info) (argsRead : ∀ a ∈ args, ExprRead ctx a)
      (arity : args.length = info.params.length)
      (checked : Parse.checkArgs ctx args info.params = .ok ()) :
      ExprRead ctx (.call callee args info.returnType loc)

/--
The statements the reader can build from the context `ctx`, one after the other, and the
context it leaves after them. A block is read in a new scope, closed after it; a `for`
loop is read as the block of its first statement and a `while` loop, whose body is a block,
in a second new scope, of the loop's statement and its step. The step is read before the
statement, in the context the first statement left.
-/
inductive StmtsRead : Context → List Stmt → Context → Prop
  | nil (ctx : Context) : StmtsRead ctx [] ctx
  | cons {ctx ctx₁ ctx₂ : Context} {s : Stmt} {rest : List Stmt}
      (first : StmtsRead ctx [s] ctx₁) (later : StmtsRead ctx₁ rest ctx₂) :
      StmtsRead ctx (s :: rest) ctx₂
  | block {ctx ctx₁ : Context} {stmts : List Stmt} {loc : Location}
      (body : StmtsRead ctx.enter.1 stmts ctx₁) :
      StmtsRead ctx [.block ctx.enter.2 stmts loc] (ctx₁.exit ctx.enter.2)
  | ifThen {ctx ctx₁ : Context} {cond : Expr} {thenBranch : Stmt} {loc : Location}
      (condRead : ExprRead ctx cond) (isBool : ctx.expectBool cond = .ok ())
      (thenRead : StmtsRead ctx [thenBranch] ctx₁) :
      StmtsRead ctx [.ifElse cond thenBranch none loc] ctx₁
  | ifElse {ctx ctx₁ ctx₂ : Context} {cond : Expr} {thenBranch elseBranch : Stmt}
      {loc : Location} (condRead : ExprRead ctx cond) (isBool : ctx.expectBool cond = .ok ())
      (thenRead : StmtsRead ctx [thenBranch] ctx₁) (elseRead : StmtsRead ctx₁ [elseBranch] ctx₂) :
      StmtsRead ctx [.ifElse cond thenBranch (some elseBranch) loc] ctx₂
  | whileLoop {ctx ctx₁ : Context} {cond : Expr} {body : Stmt} {loc : Location}
      (condRead : ExprRead ctx cond) (isBool : ctx.expectBool cond = .ok ())
      (bodyRead : StmtsRead ctx [body] ctx₁) :
      StmtsRead ctx [.whileLoop cond body loc] ctx₁
  | forLoop {ctx ctx₁ ctx₂ : Context} {init body : Stmt} {test step : Expr}
      {stepLoc loc : Location} (initRead : StmtsRead ctx.enter.1 [init] ctx₁)
      (testRead : ExprRead ctx₁ test) (isBool : ctx₁.expectBool test = .ok ())
      (stepRead : ExprRead ctx₁ step) (bodyRead : StmtsRead ctx₁.enter.1 [body] ctx₂) :
      StmtsRead ctx [.block ctx.enter.2 [init, .whileLoop test
          (.block ctx₁.enter.2 [body, .expr step stepLoc] loc) loc] loc]
        ((ctx₂.exit ctx₁.enter.2).exit ctx.enter.2)
  | varDecl {ctx ctx₁ : Context} {name : String} {init : Expr} {id : EntryId}
      {nameLoc loc : Location} (initRead : ExprRead ctx init)
      (defined : ctx.define name (.var { name, ty := init.ty, kind := ctx.varKind }) nameLoc =
        .ok (ctx₁, id)) :
      StmtsRead ctx [.varDecl ⟨id, init, loc⟩] ctx₁
  | ret {ctx : Context} {value : Expr} {loc : Location} (valueRead : ExprRead ctx value) :
      StmtsRead ctx [.ret value loc] ctx
  | expr {ctx : Context} {value : Expr} {loc : Location} (valueRead : ExprRead ctx value) :
      StmtsRead ctx [.expr value loc] ctx

/--
The parameters the reader can define from the context `ctx`: each one a variable of the type
its type name resolves to, defined in the current scope, in order.
-/
inductive ParamsRead : Context → List EntryId → Context → Prop
  | nil (ctx : Context) : ParamsRead ctx [] ctx
  | cons {ctx ctx₁ ctx₂ : Context} {name tyName : String} {nameLoc tyLoc : Location}
      {ty id : EntryId} {offset : Nat} {rest : List EntryId}
      (typeFound : ctx.lookupType tyName tyLoc = .ok ty)
      (defined : ctx.define name (.var { name, ty, kind := .param, offset := some offset })
        nameLoc = .ok (ctx₁, id))
      (later : ParamsRead ctx₁ rest ctx₂) :
      ParamsRead ctx (id :: rest) ctx₂

/--
The declarations the reader can build from the context `ctx`, and the context it leaves. A
function's parameters are defined in a new scope and its body is read below them; its return
type is the one its returns agree on, and the function is defined after its body, once the
parameters' scope is closed.
-/
inductive DeclsRead : Context → List Decl → Context → Prop
  | nil (ctx : Context) : DeclsRead ctx [] ctx
  | var {ctx ctx₁ ctx₂ : Context} {d : VarDecl} {rest : List Decl}
      (declRead : StmtsRead ctx [.varDecl d] ctx₁) (later : DeclsRead ctx₁ rest ctx₂) :
      DeclsRead ctx (.var d :: rest) ctx₂
  | func {ctx ctx₁ ctx₂ ctx₃ ctx₄ : Context} {ids : List EntryId} {body : Block}
      {name : String} {nameLoc : Location} {index : Nat} {returnType entry : EntryId}
      {rest : List Decl} (paramsRead : ParamsRead ctx.enter.1 ids ctx₁)
      (bodyRead : StmtsRead ctx₁ [body.toStmt] ctx₂)
      (resolved : resolveReturnType body.returns = .ok returnType)
      (defined : (ctx₂.exit ctx.enter.2).define name (.func ⟨name, ⟨index⟩, ids, returnType⟩)
        nameLoc = .ok (ctx₃, entry))
      (later : DeclsRead ctx₃ rest ctx₄) :
      DeclsRead ctx (.func ⟨name, entry, ctx.enter.2, body, returnType, nameLoc⟩ :: rest) ctx₄

namespace Parse

variable {ctx : Context}

/-- Every expression rule of the reader builds expressions of `ExprRead`. -/
theorem expression_reads_all :
    (∀ c (r : Read c Expr), expression ctx c = .ok r → ExprRead ctx r.value) ∧
    (∀ n c (r : Read c Expr), tier n ctx c = .ok r → ExprRead ctx r.value) ∧
    (∀ n lhs c, ExprRead ctx lhs → ∀ res, tierRest n lhs ctx c = .ok res → ExprRead ctx res.1) ∧
    (∀ c (r : Read c Expr), primary ctx c = .ok r → ExprRead ctx r.value) ∧
    (∀ name c (r : Read c Expr), call name ctx c = .ok r → ExprRead ctx r.value) ∧
    (∀ c (r : Read c (List Expr)), arguments ctx c = .ok r → ∀ a ∈ r.value, ExprRead ctx a) := by
  refine expression.mutual_induct _ _ _ _ _ _ ?assignment ?tierZero ?tierSucc ?restNone
    ?restSome ?intLit ?floatLit ?boolLit ?stringLit ?ident ?paren ?other ?call ?arguments
  case assignment =>
    intro c tierIH exprIH r parsed
    rcases expression_eq_ok parsed with ⟨lhs, lhsRead, ⟨-, valueEq, -⟩ | assigned⟩
    · rw [valueEq]
      exact tierIH lhs lhsRead
    · rcases assigned with ⟨op, c2, rhs, taken, -, isVar, rhsRead, typed, -⟩
      exact .binary (tierIH lhs lhsRead) (exprIH lhs.cursor lhs.lt c2 taken.left_lt rhs rhsRead)
        (fun _ => isVar) typed
  case tierZero =>
    intro c primaryIH r parsed
    rw [tier_zero] at parsed
    exact primaryIH r parsed
  case tierSucc =>
    intro c k tierIH restIH r parsed
    rcases tier_succ_eq_ok parsed with ⟨lhs, lhsRead, rest, restRead, valueEq, -⟩
    rw [valueEq]
    exact restIH lhs.value lhs.cursor lhs.lt (tierIH lhs lhsRead) rest restRead
  case restNone =>
    intro n lhs c noOp lhsRead res parsed
    rcases tierRest_eq_ok parsed with ⟨-, valueEq, -⟩ | ⟨op, -, -, -, -, -, someOp, -⟩
    · rw [valueEq]
      exact lhsRead
    · rw [noOp] at someOp
      cases someOp
  case restSome =>
    intro n lhs c op someOp tierIH restIH lhsRead res parsed
    rcases tierRest_eq_ok parsed with ⟨noOp, -, -⟩ | stepped
    · rw [noOp] at someOp
      cases someOp
    · rcases stepped with ⟨op', opTok, c1, rhs, e, rest, someOp', taken, rhsRead, typed, restRead,
        valueEq, -⟩
      -- the operators of the tiers are never `=`, so the left operand may be anything
      have made : ExprRead ctx e := .binary lhsRead (tierIH c1 taken.left_lt rhs rhsRead)
        (fun isAssign => absurd isAssign (tierOp?_ne_assign someOp')) typed
      rw [valueEq]
      exact restIH c1 taken.left_lt rhs.cursor rhs.lt e made rest restRead
  case intLit =>
    intro c isInt r parsed
    rcases primary_eq_ok_of_literal parsed (by simp [isInt]) with ⟨_, _, _, -, -, found, valueEq⟩
    rw [valueEq]
    exact .lit found
  case floatLit =>
    intro c isFloat r parsed
    rcases primary_eq_ok_of_literal parsed (by simp [isFloat]) with ⟨_, _, _, -, -, found, valueEq⟩
    rw [valueEq]
    exact .lit found
  case boolLit =>
    intro c isBool r parsed
    rcases primary_eq_ok_of_literal parsed (by simp [isBool]) with ⟨_, _, _, -, -, found, valueEq⟩
    rw [valueEq]
    exact .lit found
  case stringLit =>
    intro c isString r parsed
    rcases primary_eq_ok_of_literal parsed (by simp [isString]) with ⟨_, _, _, -, -, found,
      valueEq⟩
    rw [valueEq]
    exact .lit found
  case ident =>
    intro c isIdent callIH r parsed
    rcases primary_eq_ok_of_ident parsed isIdent with ⟨name, c1, taken, called | read⟩
    · rcases called with ⟨-, e, calledRead, valueEq, -⟩
      rw [valueEq]
      exact callIH name c1 taken.left_lt e calledRead
    · rcases read with ⟨-, id, v, found, isVar, valueEq, -⟩
      rw [valueEq]
      exact .var found isVar
  case paren =>
    intro c isParen exprIH r parsed
    rcases primary_eq_ok_of_lParen parsed isParen with ⟨_, c1, inner, _, taken, innerRead, -, -,
      valueEq⟩
    rw [valueEq]
    exact exprIH c1 taken.left_lt inner innerRead
  case other =>
    intro c notInt notFloat notBool notString notIdent notParen r parsed
    have start := primary_start parsed
    simp only [TokenKind.exprStart, List.mem_cons, List.not_mem_nil, or_false] at start
    rcases start with kindEq | kindEq | kindEq | kindEq | kindEq | kindEq
    · exact absurd kindEq notInt
    · exact absurd kindEq notFloat
    · exact absurd kindEq notBool
    · exact absurd kindEq notString
    · exact absurd kindEq notIdent
    · exact absurd kindEq notParen
  case call =>
    intro name c argsIH r parsed
    rcases call_eq_ok parsed with ⟨callee, info, _, c1, args, found, isFunc, taken, -, argsRead,
      arity, checked, valueEq⟩
    have argsMade : ∀ a ∈ args, ExprRead ctx a := by
      rcases argsRead with ⟨-, -, -, rfl⟩ | ⟨-, a, argumentsRead, rfl, -⟩
      · intro a member
        cases member
      · exact argsIH c1 taken.left_lt a argumentsRead
    rw [valueEq]
    exact .call found isFunc argsMade arity checked
  case arguments =>
    intro c exprIH argsIH r parsed
    rcases arguments_eq_ok parsed with ⟨e, _, c2, first, taken, -, ⟨-, valueEq, -⟩ | more⟩
    · rw [valueEq]
      intro a member
      rw [List.mem_singleton] at member
      rw [member]
      exact exprIH e first
    · rcases more with ⟨-, rest, restRead, valueEq, -⟩
      rw [valueEq]
      intro a member
      rcases List.mem_cons.1 member with isFirst | later
      · rw [isFirst]
        exact exprIH e first
      · exact argsIH e.cursor e.lt c2 taken.left_lt rest restRead a later

theorem expression_reads {c : Cursor} {r : Read c Expr} (parsed : expression ctx c = .ok r) :
    ExprRead ctx r.value :=
  expression_reads_all.1 c r parsed

theorem condition_reads {c : Cursor} {r : Read c Expr} (parsed : condition ctx c = .ok r) :
    ExprRead ctx r.value ∧ ctx.expectBool r.value = .ok () := by
  rcases condition_eq_ok parsed with ⟨_, _, c1, cond, -, -, condRead, isBool, -, -, valueEq⟩
  rw [valueEq]
  exact ⟨expression_reads condRead, isBool⟩

theorem varDecl_reads {c : Cursor} {r : Read c (VarDecl × Context)}
    (parsed : varDecl ctx c = .ok r) : StmtsRead ctx [.varDecl r.value.1] r.value.2 := by
  rcases varDecl_eq_ok parsed with ⟨kw, name, _, _, _, _, _, init, id, -, -, -, -, -, -, initRead,
    -, -, defined, declEq⟩
  rw [declEq]
  exact .varDecl (expression_reads initRead) defined

theorem exprStatement_reads {c : Cursor} {r : Read c (Stmt × Context)}
    (parsed : exprStatement ctx c = .ok r) : StmtsRead ctx [r.value.1] r.value.2 := by
  rcases exprStatement_eq_ok parsed with ⟨e, _, exprRead, -, -, valueEq⟩
  rw [valueEq]
  exact .expr (expression_reads exprRead)

end Parse

namespace Parse

/--
Every statement rule of the reader builds statements of `StmtsRead`: one statement, a block,
and the statements of a block, by the reader's own mutual recursion.
-/
theorem statement_reads_all :
    (∀ ctx c (r : Read c (Stmt × Context)), statement ctx c = .ok r →
      StmtsRead ctx [r.value.1] r.value.2) ∧
    (∀ ctx c (r : Read c (Block × Context)), block ctx c = .ok r →
      StmtsRead ctx [r.value.1.toStmt] r.value.2) ∧
    (∀ ctx c res, blockBody ctx c = .ok res → StmtsRead ctx res.1 res.2.1) := by
  refine statement.mutual_induct _ _ _ ?lBrace ?ifStmt ?whileStmt ?forStmt ?var ?ret ?exprStart
    ?other ?block ?bodyEnd ?bodyMore
  case lBrace =>
    intro ctx c isBrace blockIH r parsed
    rcases statement_eq_ok_of_lBrace parsed isBrace with ⟨b, blockRead, valueEq, -⟩
    rw [valueEq]
    exact blockIH b blockRead
  case ifStmt =>
    intro ctx c isIf thenIH elseIH r parsed
    rcases statement_eq_ok_of_if parsed isIf with ⟨kw, c1, cond, thenRead, kwStep, condRead,
      thenParsed, branches⟩
    have thenMade := thenIH c1 kwStep.left_lt cond.cursor cond.lt thenRead thenParsed
    obtain ⟨condMade, isBool⟩ := condition_reads condRead
    rcases branches with ⟨-, valueEq, -⟩ | ⟨elseTok, c4, elseRead, elseStep, -, elseParsed,
      valueEq, -⟩
    · rw [valueEq]
      exact .ifThen condMade isBool thenMade
    · have elseMade := elseIH c1 kwStep.left_lt cond.cursor cond.lt thenRead.value.2
        thenRead.cursor thenRead.lt c4 elseStep.left_lt elseRead elseParsed
      rw [valueEq]
      exact .ifElse condMade isBool thenMade elseMade
  case whileStmt =>
    intro ctx c isWhile bodyIH r parsed
    rcases statement_eq_ok_of_while parsed isWhile with ⟨kw, c1, cond, body, kwStep, condRead,
      bodyParsed, valueEq, -⟩
    obtain ⟨condMade, isBool⟩ := condition_reads condRead
    rw [valueEq]
    exact .whileLoop condMade isBool (bodyIH c1 kwStep.left_lt cond.cursor cond.lt body bodyParsed)
  case forStmt =>
    intro ctx c isFor bodyIH r parsed
    rcases statement_eq_ok_of_for parsed isFor with ⟨kw, lp, semi, rp, c1, c2, c5, c7, init, test,
      step, body, kwStep, lpStep, -, initParsed, testRead, isBool, semiStep, -, stepRead,
      rpStep, -, bodyParsed, valueEq, -⟩
    have initMade : StmtsRead ctx.enter.1 [init.value.1] init.value.2 := by
      rcases initParsed with ⟨-, d, declRead, initEq, -⟩ | ⟨-, exprRead⟩
      · rw [initEq]
        exact varDecl_reads declRead
      · exact exprStatement_reads exprRead
    have bodyMade := bodyIH c1 kwStep.left_lt c2 lpStep.left_lt init.cursor init.lt
      test.cursor test.lt c5 semiStep.left_lt step.cursor step.lt c7 rpStep.left_lt
      init.value.2.enter.1 body bodyParsed
    rw [valueEq]
    exact .forLoop initMade (expression_reads testRead) isBool (expression_reads stepRead) bodyMade
  case var =>
    intro ctx c isVar r parsed
    rcases statement_eq_ok_of_var parsed isVar with ⟨d, declRead, valueEq, -⟩
    rw [valueEq]
    exact varDecl_reads declRead
  case ret =>
    intro ctx c isReturn r parsed
    rcases statement_eq_ok_of_return parsed isReturn with ⟨kw, semi, c1, value, -, valueRead, -, -,
      valueEq⟩
    rw [valueEq]
    exact .ret (expression_reads valueRead)
  case exprStart =>
    intro ctx c _ _ _ _ _ _ start r parsed
    rw [statement_of_exprStart start] at parsed
    exact exprStatement_reads parsed
  case other =>
    intro ctx c _ _ _ _ _ _ notStart r parsed
    have start := statement_start parsed
    simp_all [statementStart]
  case block =>
    intro ctx c bodyIH r parsed
    rcases block_eq_ok parsed with ⟨lb, rb, c1, body, lbStep, -, bodyRead, -, -, valueEq⟩
    rw [valueEq]
    exact .block (bodyIH c1 lbStep.left_lt ctx.enter.1 body bodyRead)
  case bodyEnd =>
    intro ctx c isClose res parsed
    rcases blockBody_eq_ok parsed with ⟨-, stmtsEq, ctxEq, -⟩ | ⟨notClose, -⟩
    · rw [stmtsEq, ctxEq]
      exact .nil ctx
    · exact absurd isClose notClose
  case bodyMore =>
    intro ctx c notClose stmtIH restIH res parsed
    rcases blockBody_eq_ok parsed with ⟨isClose, -⟩ | ⟨-, s, rest, stmtRead, restRead, stmtsEq,
      ctxEq, -⟩
    · exact absurd isClose notClose
    · rw [stmtsEq, ctxEq]
      exact .cons (stmtIH s stmtRead) (restIH s.value.2 s.cursor s.lt rest restRead)

theorem block_reads {ctx : Context} {c : Cursor} {r : Read c (Block × Context)}
    (parsed : block ctx c = .ok r) : StmtsRead ctx [r.value.1.toStmt] r.value.2 :=
  statement_reads_all.2.1 ctx c r parsed

theorem params_reads : ∀ offset ctx c (r : Read c (List EntryId × Context)),
    params offset ctx c = .ok r → ParamsRead ctx r.value.1 r.value.2 := by
  refine params.induct _ ?_
  intro offset ctx c restIH r parsed
  rcases params_eq_ok parsed with ⟨name, colon, tyName, sep, c1, c2, c3, c5, ty, id, ctx4,
    nameStep, -, colonStep, -, tyStep, -, typeFound, defined, sepStep, -, more⟩
  rcases more with ⟨-, valueEq, -⟩ | ⟨-, rest, restRead, valueEq, -⟩
  · rw [valueEq]
    exact .cons typeFound defined (.nil ctx4)
  · rw [valueEq]
    exact .cons typeFound defined (restIH c1 nameStep.left_lt c2 colonStep.left_lt c3
      tyStep.left_lt ty ctx4 c5 sepStep.left_lt rest restRead)

theorem paramList_reads {ctx : Context} {c : Cursor} {r : Read c (List EntryId × Context)}
    (parsed : paramList ctx c = .ok r) : ParamsRead ctx r.value.1 r.value.2 := by
  rcases paramList_eq_ok parsed with ⟨lp, c1, -, -, ⟨rp, -, -, valueEq⟩ | ⟨-, ps, psRead, valueEq, -⟩⟩
  · rw [valueEq]
    exact .nil ctx
  · rw [valueEq]
    exact params_reads 0 ctx c1 ps psRead

/-- Every run of the declaration reader builds declarations of `DeclsRead`. -/
theorem declarations_reads : ∀ index ctx c res, declarations index ctx c = .ok res →
    DeclsRead ctx res.1 res.2.1 := by
  refine declarations.induct _ ?atEnd ?more
  case atEnd =>
    intro index ctx c isEnd res parsed
    rcases declarations_eq_ok parsed with ⟨-, resEq⟩ | ⟨notEnd, -⟩
    · rw [resEq]
      exact .nil ctx
    · exact absurd isEnd notEnd
  case more =>
    intro index ctx c notEnd restIH res parsed
    rcases declarations_eq_ok parsed with ⟨isEnd, -⟩ | ⟨-, d, rest, declRead, restRead, resEq⟩
    · exact absurd isEnd notEnd
    · have later := restIH d.value.2 d.cursor d.lt rest restRead
      rw [resEq]
      rcases declaration_eq_ok declRead with ⟨-, v, varRead, valueEq, -⟩ |
        ⟨-, f, funcRead, valueEq, -⟩
      · rw [valueEq] at later ⊢
        exact .var (varDecl_reads varRead) later
      · rw [valueEq] at later ⊢
        rcases funcDef_eq_ok funcRead with ⟨name, c1, ps, body, returnType, entry, -, -, psRead,
          bodyRead, resolved, defined, funcEq, -⟩
        rw [funcEq]
        exact .func (paramList_reads psRead) (block_reads bodyRead) resolved defined later

end Parse

/-- Every program the reader returns is made of declarations of `DeclsRead`, read from the
context of the built-in types, with the table they leave. -/
theorem Program.read_reads {f : Feed} {p : Program} (parsed : (Program.read f).result = .ok p) :
    ∃ (loc : Location) (ctx : Context), DeclsRead (Context.builtin loc) p.decls ctx ∧
      p.table = ctx.table := by
  rcases Program.read_eq_ok parsed with ⟨c, decls, ctx, c', -, declsRead, rfl⟩
  exact ⟨c.look.loc, ctx, Parse.declarations_reads 0 _ c _ declsRead, rfl⟩

end ImpFront
