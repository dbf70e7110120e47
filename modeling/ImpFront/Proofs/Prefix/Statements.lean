import ImpFront.Proofs.Prefix.Expressions

/-!
# Statements and declarations read from a prefix

Statements, blocks, parameter lists and declarations are read from the part of a cut as from the
whole feed. A rule whose last token may be the last of the tokens (a variable declaration ends
with `;`, a block and so a function with `}`) follows in the closed form `FollowsUpTo`: it may end
one pull past the tokens, where the part has nothing more and the whole feed may go on. The rest
follow in the open form, ending before the end of the tokens.

Each proof takes the run on the whole feed apart with the step lemmas, carries each step over to
the part, and puts the run on the part together with the lemmas of `Steps.Assembly`.
-/

namespace ImpFront

namespace Parse

variable {x : Cut} {ctx : Context} {c c' : Cursor}

/-- A variable declaration, whose `;` may be the last of the tokens, is read from the part too. -/
theorem varDecl_follows (abreast : x.Abreast c c') :
    x.FollowsUpTo (varDecl ctx c) (varDecl ctx c') := by
  intro r parsed bound
  obtain ⟨kw, name, eqTok, semi, c1, c2, c3, init, id, kwTaken, isKw, nameTaken, isName, eqTaken,
    isEq, initRead, semiTaken, isSemi, defined, valueEq⟩ := varDecl_eq_ok parsed
  -- the value ends before `;`, so within the tokens
  have onInit := (expression_readsOn
    (eqTaken.on (nameTaken.on (kwTaken.on abreast.on)))).on_of_eq_ok initRead
  have insideInit : x.Inside init.cursor :=
    Cut.inside_of_pulled_le onInit (by have := semiTaken.2.2.2; omega)
  have inside2 := (insideInit.of_left_lt init.lt).of_left_lt eqTaken.left_lt
  have inside1 := inside2.of_left_lt nameTaken.left_lt
  obtain ⟨d1, kwTaken', abreast1⟩ := abreast.takes (inside1.of_left_lt kwTaken.left_lt) kwTaken
  obtain ⟨d2, nameTaken', abreast2⟩ := abreast1.takes inside1 nameTaken
  obtain ⟨d3, eqTaken', abreast3⟩ := abreast2.takes inside2 eqTaken
  obtain ⟨init', small4, sameInit, abreast4⟩ := expression_follows abreast3 init initRead insideInit
  obtain ⟨d5, semiTaken', abreast5⟩ := abreast4.takes insideInit semiTaken
  rw [← sameInit] at defined
  obtain ⟨r', run', valueEq', cursorEq'⟩ :=
    varDecl_eq_of kwTaken' isKw nameTaken' isName eqTaken' isEq small4 semiTaken' isSemi defined
  exact ⟨r', run', by rw [valueEq', sameInit, ← valueEq], by rw [cursorEq']; exact abreast5⟩

/-- An expression statement is read from the part too. -/
theorem exprStatement_follows (abreast : x.Abreast c c') :
    x.Follows (exprStatement ctx c) (exprStatement ctx c') := by
  intro r parsed inside
  obtain ⟨e, semi, exprRead, semiTaken, isSemi, valueEq⟩ := exprStatement_eq_ok parsed
  have insideE := inside.of_left_lt semiTaken.left_lt
  obtain ⟨e', small1, sameE, abreast1⟩ := expression_follows abreast e exprRead insideE
  obtain ⟨d2, semiTaken', abreast2⟩ := abreast1.takes insideE semiTaken
  obtain ⟨r', run', valueEq', cursorEq'⟩ := exprStatement_eq_of small1 semiTaken' isSemi
  have sameLoc : c'.look.loc = c.look.loc := by rw [abreast.look_eq (insideE.of_left_lt e.lt)]
  exact ⟨r', run', by rw [valueEq', valueEq, sameE, sameLoc], by rw [cursorEq']; exact abreast2⟩

/-- A condition is read from the part too. -/
theorem condition_follows (abreast : x.Abreast c c') :
    x.Follows (condition ctx c) (condition ctx c') := by
  intro r parsed inside
  obtain ⟨lp, rp, c1, cond, lpTaken, isLp, condRead, isBool, rpTaken, isRp, valueEq⟩ :=
    condition_eq_ok parsed
  have insideCond := inside.of_left_lt rpTaken.left_lt
  have inside1 := insideCond.of_left_lt cond.lt
  obtain ⟨d1, lpTaken', abreast1⟩ := abreast.takes (inside1.of_left_lt lpTaken.left_lt) lpTaken
  obtain ⟨cond', small2, sameCond, abreast2⟩ := expression_follows abreast1 cond condRead insideCond
  obtain ⟨d3, rpTaken', abreast3⟩ := abreast2.takes insideCond rpTaken
  rw [← sameCond] at isBool
  obtain ⟨r', run', valueEq', cursorEq'⟩ := condition_eq_of lpTaken' isLp small2 isBool rpTaken' isRp
  exact ⟨r', run', by rw [valueEq', valueEq, sameCond], by rw [cursorEq']; exact abreast3⟩

/-- The first statement of a `for` loop is read from the part too. -/
theorem ForInitRead.follows {init : Read c (Stmt × Context)} (abreast : x.Abreast c c')
    (initRead : ForInitRead ctx c init) (inside : x.Inside init.cursor) :
    ∃ init' : Read c' (Stmt × Context), ForInitRead ctx c' init' ∧ init'.value = init.value ∧
      x.Abreast init.cursor init'.cursor := by
  have sameKind : c'.look.kind = c.look.kind := by rw [abreast.look_eq (inside.of_left_lt init.lt)]
  rcases initRead with ⟨isVar, d, declRead, initValue, initCursor⟩ | ⟨notVar, initRead⟩
  · rw [initCursor] at inside ⊢
    obtain ⟨d', small, sameD, abreastD⟩ :=
      (varDecl_follows abreast).follows (varDecl_readsOn abreast.on) d declRead inside
    exact ⟨⟨(.varDecl d'.value.1, d'.value.2), d'.cursor, d'.lt⟩,
      Or.inl ⟨sameKind ▸ isVar, d', small, rfl, rfl⟩, by rw [initValue, sameD], abreastD⟩
  · obtain ⟨init', small, sameInit, abreastInit⟩ := exprStatement_follows abreast init initRead inside
    exact ⟨init', Or.inr ⟨sameKind ▸ notVar, small⟩, sameInit, abreastInit⟩

/--
Every statement rule reads from the part what it reads from the whole feed: a statement and the
statements of a block as long as they end before the end of the tokens, a block as long as its
`}` is at most the last of them.
-/
theorem statement_follows_all :
    (∀ ctx c c', x.Abreast c c' → x.Follows (statement ctx c) (statement ctx c')) ∧
    (∀ ctx c c', x.Abreast c c' → x.FollowsUpTo (block ctx c) (block ctx c')) ∧
    (∀ ctx c c', x.Abreast c c' → ∀ res, blockBody ctx c = .ok res → x.Inside res.2.2.1 →
      ∃ res', blockBody ctx c' = .ok res' ∧ res'.1 = res.1 ∧ res'.2.1 = res.2.1 ∧
        x.Abreast res.2.2.1 res'.2.2.1) := by
  refine statement.mutual_induct _ _ _ ?lBrace ?ifThen ?whileLoop ?forLoop ?varDecl ?ret ?expr
    ?other ?block ?bodyEnd ?bodyMore
  case lBrace =>
    intro ctx c isBrace blockIH c' abreast r parsed inside
    obtain ⟨b, blockRead, valueEq, cursorEq⟩ := statement_eq_ok_of_lBrace parsed isBrace
    rw [cursorEq] at inside ⊢
    have blockOn := (statements_readsOn c.left c rfl abreast.on).2.1 ctx
    obtain ⟨b', small1, sameB, abreast1⟩ := (blockIH c' abreast).follows blockOn b blockRead inside
    have isBrace' : c'.look.kind = .lBrace := by
      rw [abreast.look_eq (inside.of_left_lt b.lt)]; exact isBrace
    exact ⟨_, statement_eq_of_block isBrace' small1, by rw [valueEq, sameB], abreast1⟩
  case ifThen =>
    intro ctx c isIf thenIH elseIH c' abreast r parsed inside
    obtain ⟨kw, c1, cond, thenRead, taken, condRead, thenStmt,
        ⟨notElse, valueEq, cursorEq⟩ | ⟨elseTok, c4, elseRead, elseTaken, isElse, elseStmt, valueEq,
          cursorEq⟩⟩ := statement_eq_ok_of_if parsed isIf
    all_goals have isKw : kw.kind = .ifKw := by rw [taken.1]; exact isIf
    · rw [cursorEq] at inside ⊢
      have insideCond := inside.of_left_lt thenRead.lt
      have inside1 := insideCond.of_left_lt cond.lt
      obtain ⟨d1, taken', abreast1⟩ := abreast.takes (inside1.of_left_lt taken.left_lt) taken
      obtain ⟨cond', small2, sameCond, abreast2⟩ :=
        condition_follows abreast1 cond condRead insideCond
      obtain ⟨then', small3, sameThen, abreast3⟩ :=
        thenIH c1 taken.left_lt cond.cursor cond.lt cond'.cursor abreast2 thenRead thenStmt inside
      have notElse' : then'.cursor.look.kind ≠ .elseKw := by
        rw [abreast3.look_eq inside]; exact notElse
      obtain ⟨r', run', valueEq', cursorEq'⟩ :=
        statement_eq_of_ifThen taken' isKw small2 small3 notElse'
      exact ⟨r', run', by rw [valueEq', valueEq, sameCond, sameThen],
        by rw [cursorEq']; exact abreast3⟩
    · rw [cursorEq] at inside ⊢
      have insideThen := (inside.of_left_lt elseRead.lt).of_left_lt elseTaken.left_lt
      have insideCond := insideThen.of_left_lt thenRead.lt
      have inside1 := insideCond.of_left_lt cond.lt
      obtain ⟨d1, taken', abreast1⟩ := abreast.takes (inside1.of_left_lt taken.left_lt) taken
      obtain ⟨cond', small2, sameCond, abreast2⟩ :=
        condition_follows abreast1 cond condRead insideCond
      obtain ⟨then', small3, sameThen, abreast3⟩ :=
        thenIH c1 taken.left_lt cond.cursor cond.lt cond'.cursor abreast2 thenRead thenStmt
          insideThen
      obtain ⟨d4, elseTaken', abreast4⟩ := abreast3.takes insideThen elseTaken
      obtain ⟨else', small5, sameElse, abreast5⟩ :=
        elseIH c1 taken.left_lt cond.cursor cond.lt thenRead.value.2 thenRead.cursor thenRead.lt c4
          elseTaken.left_lt d4 abreast4 elseRead elseStmt inside
      rw [← sameThen] at small5
      obtain ⟨r', run', valueEq', cursorEq'⟩ :=
        statement_eq_of_ifElse taken' isKw small2 small3 elseTaken' isElse small5
      exact ⟨r', run', by rw [valueEq', valueEq, sameCond, sameThen, sameElse],
        by rw [cursorEq']; exact abreast5⟩
  case whileLoop =>
    intro ctx c isWhile bodyIH c' abreast r parsed inside
    obtain ⟨kw, c1, cond, body, taken, condRead, bodyRead, valueEq, cursorEq⟩ :=
      statement_eq_ok_of_while parsed isWhile
    rw [cursorEq] at inside ⊢
    have insideCond := inside.of_left_lt body.lt
    have inside1 := insideCond.of_left_lt cond.lt
    obtain ⟨d1, taken', abreast1⟩ := abreast.takes (inside1.of_left_lt taken.left_lt) taken
    obtain ⟨cond', small2, sameCond, abreast2⟩ := condition_follows abreast1 cond condRead insideCond
    obtain ⟨body', small3, sameBody, abreast3⟩ :=
      bodyIH c1 taken.left_lt cond.cursor cond.lt cond'.cursor abreast2 body bodyRead inside
    have isKw : kw.kind = .whileKw := by rw [taken.1]; exact isWhile
    obtain ⟨r', run', valueEq', cursorEq'⟩ := statement_eq_of_while taken' isKw small2 small3
    exact ⟨r', run', by rw [valueEq', valueEq, sameCond, sameBody],
      by rw [cursorEq']; exact abreast3⟩
  case forLoop =>
    intro ctx c isFor bodyIH c' abreast r parsed inside
    obtain ⟨kw, lp, semi, rp, c1, c2, c5, c7, init, test, step, body, kwTaken, lpTaken, isLp,
      initRead, testRead, testBool, semiTaken, isSemi, stepRead, rpTaken, isRp, bodyRead, valueEq,
      cursorEq⟩ := statement_eq_ok_of_for parsed isFor
    rw [cursorEq] at inside ⊢
    have insideStep := (inside.of_left_lt body.lt).of_left_lt rpTaken.left_lt
    have inside5 := insideStep.of_left_lt step.lt
    have insideTest := inside5.of_left_lt semiTaken.left_lt
    have insideInit := insideTest.of_left_lt test.lt
    have inside1 := (insideInit.of_left_lt init.lt).of_left_lt lpTaken.left_lt
    obtain ⟨d1, kwTaken', abreast1⟩ := abreast.takes (inside1.of_left_lt kwTaken.left_lt) kwTaken
    obtain ⟨d2, lpTaken', abreast2⟩ := abreast1.takes inside1 lpTaken
    obtain ⟨init', small3, sameInit, abreast3⟩ := initRead.follows abreast2 insideInit
    obtain ⟨test', small4, sameTest, abreast4⟩ :=
      expression_follows abreast3 test testRead insideTest
    obtain ⟨d5, semiTaken', abreast5⟩ := abreast4.takes insideTest semiTaken
    obtain ⟨step', small6, sameStep, abreast6⟩ :=
      expression_follows abreast5 step stepRead insideStep
    obtain ⟨d7, rpTaken', abreast7⟩ := abreast6.takes insideStep rpTaken
    obtain ⟨body', small8, sameBody, abreast8⟩ :=
      bodyIH c1 kwTaken.left_lt c2 lpTaken.left_lt init.cursor init.lt test.cursor test.lt c5
        semiTaken.left_lt step.cursor step.lt c7 rpTaken.left_lt init.value.2.enter.1 d7 abreast7
        body bodyRead inside
    have isKw : kw.kind = .forKw := by rw [kwTaken.1]; exact isFor
    have stepLoc : d5.look.loc = c5.look.loc := by rw [abreast5.look_eq inside5]
    rw [← sameInit] at small4 small6 small8 testBool
    rw [← sameTest] at testBool
    obtain ⟨r', run', valueEq', cursorEq'⟩ := statement_eq_of_for kwTaken' isKw lpTaken' isLp small3
      small4 testBool semiTaken' isSemi small6 rpTaken' isRp small8
    exact ⟨r', run', by rw [valueEq', valueEq, sameInit, sameTest, sameStep, sameBody, stepLoc],
      by rw [cursorEq']; exact abreast8⟩
  case varDecl =>
    intro ctx c isVar c' abreast r parsed inside
    obtain ⟨d, declRead, valueEq, cursorEq⟩ := statement_eq_ok_of_var parsed isVar
    rw [cursorEq] at inside ⊢
    obtain ⟨d', small1, sameD, abreast1⟩ :=
      (varDecl_follows abreast).follows (varDecl_readsOn abreast.on) d declRead inside
    have isVar' : c'.look.kind = .varKw := by
      rw [abreast.look_eq (inside.of_left_lt d.lt)]; exact isVar
    exact ⟨_, statement_eq_of_var isVar' small1, by rw [valueEq, sameD], abreast1⟩
  case ret =>
    intro ctx c isReturn c' abreast r parsed inside
    obtain ⟨kw, semi, c1, value, taken, valueRead, semiTaken, isSemi, valueEq⟩ :=
      statement_eq_ok_of_return parsed isReturn
    have insideValue := inside.of_left_lt semiTaken.left_lt
    have inside1 := insideValue.of_left_lt value.lt
    obtain ⟨d1, taken', abreast1⟩ := abreast.takes (inside1.of_left_lt taken.left_lt) taken
    obtain ⟨value', small2, sameValue, abreast2⟩ :=
      expression_follows abreast1 value valueRead insideValue
    obtain ⟨d3, semiTaken', abreast3⟩ := abreast2.takes insideValue semiTaken
    have isKw : kw.kind = .returnKw := by rw [taken.1]; exact isReturn
    obtain ⟨r', run', valueEq', cursorEq'⟩ :=
      statement_eq_of_return taken' isKw small2 semiTaken' isSemi
    exact ⟨r', run', by rw [valueEq', valueEq, sameValue], by rw [cursorEq']; exact abreast3⟩
  case expr =>
    intro ctx c _ _ _ _ _ _ start c' abreast r parsed inside
    rw [statement_of_exprStart start] at parsed
    have start' : c'.look.kind ∈ TokenKind.exprStart := by
      rw [abreast.look_eq (inside.of_left_lt r.lt)]; exact start
    rw [statement_of_exprStart start']
    exact exprStatement_follows abreast r parsed inside
  case other =>
    intro ctx c notBrace notIf notWhile notFor notVar notReturn notExpr c' abreast r parsed inside
    have start := statement_start parsed
    simp only [statementStart, List.cons_append, List.nil_append, List.mem_cons] at start
    rcases start with isKind | isKind | isKind | isKind | isKind | isKind | isExpr <;> contradiction
  case block =>
    intro ctx c bodyIH c' abreast r parsed bound
    obtain ⟨lb, rb, c1, body, taken, isLb, bodyRead, closing, isRb, valueEq⟩ := block_eq_ok parsed
    -- the statements end before `}`, so within the tokens
    have on1 := taken.on abreast.on
    have onBody := ((statements_readsOn c1.left c1 rfl on1).2.2 ctx.enter.1).on_of_eq_ok bodyRead
    have insideBody : x.Inside body.2.2.1 :=
      Cut.inside_of_pulled_le onBody (by have := closing.2.2.2; omega)
    have inside1 := insideBody.of_left_le body.2.2.2
    obtain ⟨d1, taken', abreast1⟩ := abreast.takes (inside1.of_left_lt taken.left_lt) taken
    obtain ⟨body', small2, sameStmts, sameCtx, abreast2⟩ :=
      bodyIH c1 taken.left_lt ctx.enter.1 d1 abreast1 body bodyRead insideBody
    obtain ⟨d3, closing', abreast3⟩ := abreast2.takes insideBody closing
    obtain ⟨r', run', valueEq', cursorEq'⟩ := block_eq_of taken' isLb small2 closing' isRb
    exact ⟨r', run', by rw [valueEq', valueEq, sameStmts, sameCtx],
      by rw [cursorEq']; exact abreast3⟩
  case bodyEnd =>
    intro ctx c isClose c' abreast res parsed inside
    obtain ⟨-, stmtsEq, ctxEq, cursorEq⟩ | ⟨notClose, -⟩ := blockBody_eq_ok parsed
    · rw [cursorEq] at inside ⊢
      have isClose' : c'.look.kind = .rBrace := by rw [abreast.look_eq inside]; exact isClose
      exact ⟨_, blockBody_eq_of_close isClose', stmtsEq.symm, ctxEq.symm, abreast⟩
    · contradiction
  case bodyMore =>
    intro ctx c notClose stmtIH restIH c' abreast res parsed inside
    obtain ⟨isClose, -⟩ | ⟨-, s, rest, stmtRead, restRead, stmtsEq, ctxEq, cursorEq⟩ :=
      blockBody_eq_ok parsed
    · exact absurd isClose notClose
    rw [cursorEq] at inside ⊢
    have insideS := inside.of_left_le rest.2.2.2
    obtain ⟨s', small1, sameS, abreast1⟩ := stmtIH c' abreast s stmtRead insideS
    obtain ⟨rest', small2, sameStmts, sameCtx, abreast2⟩ :=
      restIH s.value.2 s.cursor s.lt s'.cursor abreast1 rest restRead inside
    have notClose' : c'.look.kind ≠ .rBrace := by
      rw [abreast.look_eq (insideS.of_left_lt s.lt)]; exact notClose
    rw [← sameS] at small2
    obtain ⟨res', run', stmtsEq', ctxEq', cursorEq'⟩ := blockBody_eq_of_cons notClose' small1 small2
    exact ⟨res', run', by rw [stmtsEq', stmtsEq, sameS, sameStmts], by rw [ctxEq', ctxEq, sameCtx],
      by rw [cursorEq']; exact abreast2⟩

theorem block_follows (abreast : x.Abreast c c') :
    x.FollowsUpTo (block ctx c) (block ctx c') :=
  statement_follows_all.2.1 ctx c c' abreast

/-- Parameters are read from the part too. -/
theorem params_follows : ∀ offset ctx (c c' : Cursor), x.Abreast c c' →
    x.Follows (params offset ctx c) (params offset ctx c') := by
  refine params.induct _ ?_
  intro offset ctx c restIH c' abreast r parsed inside
  obtain ⟨name, colon, tyName, sep, c1, c2, c3, c5, ty, id, ctx4, nameTaken, isName, colonTaken,
    isColon, tyTaken, isTyName, typed, defined, sepTaken, sepKind, more⟩ := params_eq_ok parsed
  have inside5 : x.Inside c5 := by
    rcases more with ⟨-, -, cursorEq⟩ | ⟨-, rest, -, -, cursorEq⟩
    · rw [cursorEq] at inside; exact inside
    · rw [cursorEq] at inside; exact inside.of_left_lt rest.lt
  have inside3 := inside5.of_left_lt sepTaken.left_lt
  have inside2 := inside3.of_left_lt tyTaken.left_lt
  have inside1 := inside2.of_left_lt colonTaken.left_lt
  obtain ⟨d1, nameTaken', abreast1⟩ :=
    abreast.takes (inside1.of_left_lt nameTaken.left_lt) nameTaken
  obtain ⟨d2, colonTaken', abreast2⟩ := abreast1.takes inside1 colonTaken
  obtain ⟨d3, tyTaken', abreast3⟩ := abreast2.takes inside2 tyTaken
  obtain ⟨d5, sepTaken', abreast5⟩ := abreast3.takes inside3 sepTaken
  rcases more with ⟨isClose, valueEq, cursorEq⟩ | ⟨notClose, rest, restRead, valueEq, cursorEq⟩
  · rw [cursorEq]
    obtain ⟨r', run', valueEq', cursorEq'⟩ := params_eq_of_last nameTaken' isName colonTaken'
      isColon tyTaken' isTyName typed defined sepTaken' isClose
    exact ⟨r', run', by rw [valueEq', valueEq], by rw [cursorEq']; exact abreast5⟩
  · rw [cursorEq] at inside ⊢
    obtain ⟨rest', small6, sameRest, abreast6⟩ :=
      restIH c1 nameTaken.left_lt c2 colonTaken.left_lt c3 tyTaken.left_lt ty ctx4 c5
        sepTaken.left_lt d5 abreast5 rest restRead inside
    obtain ⟨r', run', valueEq', cursorEq'⟩ := params_eq_of_more nameTaken' isName colonTaken'
      isColon tyTaken' isTyName typed defined sepTaken' sepKind notClose small6
    exact ⟨r', run', by rw [valueEq', valueEq, sameRest], by rw [cursorEq']; exact abreast6⟩

/-- A parameter list is read from the part too. -/
theorem paramList_follows (abreast : x.Abreast c c') :
    x.Follows (paramList ctx c) (paramList ctx c') := by
  intro r parsed inside
  obtain ⟨lp, c1, lpTaken, isLp, ⟨rp, closing, isRp, valueEq⟩ |
      ⟨notClose, ps, psRead, valueEq, cursorEq⟩⟩ := paramList_eq_ok parsed
  · have inside1 := inside.of_left_lt closing.left_lt
    obtain ⟨d1, lpTaken', abreast1⟩ := abreast.takes (inside1.of_left_lt lpTaken.left_lt) lpTaken
    obtain ⟨d2, closing', abreast2⟩ := abreast1.takes inside1 closing
    obtain ⟨r', run', valueEq', cursorEq'⟩ := paramList_eq_of_empty lpTaken' isLp closing' isRp
    exact ⟨r', run', by rw [valueEq', valueEq], by rw [cursorEq']; exact abreast2⟩
  · rw [cursorEq] at inside ⊢
    have inside1 := inside.of_left_lt ps.lt
    obtain ⟨d1, lpTaken', abreast1⟩ := abreast.takes (inside1.of_left_lt lpTaken.left_lt) lpTaken
    obtain ⟨ps', small2, samePs, abreast2⟩ := params_follows 0 ctx c1 d1 abreast1 ps psRead inside
    have notClose' : d1.look.kind ≠ .rParen := by rw [abreast1.look_eq inside1]; exact notClose
    obtain ⟨r', run', valueEq', cursorEq'⟩ := paramList_eq_of_params lpTaken' isLp notClose' small2
    exact ⟨r', run', by rw [valueEq', valueEq, samePs], by rw [cursorEq']; exact abreast2⟩

/-- A function definition, whose `}` may be the last of the tokens, is read from the part too. -/
theorem funcDef_follows {index : Nat} (abreast : x.Abreast c c') :
    x.FollowsUpTo (funcDef index ctx c) (funcDef index ctx c') := by
  intro r parsed bound
  obtain ⟨name, c1, ps, body, returnType, entry, nameTaken, isName, psRead, bodyRead, resolved,
    defined, valueEq, cursorEq⟩ := funcDef_eq_ok parsed
  -- the parameters end before the body's `{`, so within the tokens
  have onPs := (paramList_readsOn (nameTaken.on abreast.on)).on_of_eq_ok psRead
  have onBody := ((statements_readsOn ps.cursor.left ps.cursor rfl onPs).2.1 ps.value.2).on_of_eq_ok
    bodyRead
  have later := onPs.pulled_lt onBody body.lt
  rw [cursorEq] at bound ⊢
  have insidePs : x.Inside ps.cursor := Cut.inside_of_pulled_le onPs (by omega)
  have inside1 := insidePs.of_left_lt ps.lt
  obtain ⟨d1, nameTaken', abreast1⟩ :=
    abreast.takes (inside1.of_left_lt nameTaken.left_lt) nameTaken
  obtain ⟨ps', small2, samePs, abreast2⟩ := paramList_follows abreast1 ps psRead insidePs
  obtain ⟨body', small3, sameBody, abreast3⟩ := block_follows abreast2 body bodyRead bound
  rw [← samePs] at small3
  rw [← sameBody] at resolved
  rw [← sameBody, ← samePs] at defined
  obtain ⟨r', run', valueEq', cursorEq'⟩ := funcDef_eq_of nameTaken' isName small2 small3 resolved
    defined
  exact ⟨r', run', by rw [valueEq', sameBody, ← valueEq], by rw [cursorEq']; exact abreast3⟩

/-- A declaration, whose last token may be the last of the tokens, is read from the part too. -/
theorem declaration_follows {index : Nat} (abreast : x.Abreast c c') :
    x.FollowsUpTo (declaration index ctx c) (declaration index ctx c') := by
  intro r parsed bound
  have later := abreast.on.pulled_lt ((declaration_readsOn abreast.on).on_of_eq_ok parsed) r.lt
  have insideC : x.Inside c := Cut.inside_of_pulled_le abreast.on (by omega)
  obtain ⟨isVar, d, declRead, valueEq, cursorEq⟩ | ⟨isIdent, f, funcRead, valueEq, cursorEq⟩ :=
    declaration_eq_ok parsed
  · rw [cursorEq] at bound ⊢
    obtain ⟨d', small1, sameD, abreast1⟩ := varDecl_follows abreast d declRead bound
    have isVar' : c'.look.kind = .varKw := by rw [abreast.look_eq insideC]; exact isVar
    exact ⟨_, declaration_eq_of_var isVar' small1, by rw [valueEq, sameD], abreast1⟩
  · rw [cursorEq] at bound ⊢
    obtain ⟨f', small1, sameF, abreast1⟩ := funcDef_follows abreast f funcRead bound
    have isIdent' : c'.look.kind = .ident := by rw [abreast.look_eq insideC]; exact isIdent
    exact ⟨_, declaration_eq_of_func isIdent' small1, by rw [valueEq, sameF], abreast1⟩

end Parse

end ImpFront
