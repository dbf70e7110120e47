import ImpFront.Proofs.Transport.Expressions
import ImpFront.Proofs.Recognition

/-!
# Statements read from the same tokens in another stream

The statement rules read from the second of two streams that share some tokens what they read
from the first (`Parse.statement_carries_all`), in the same context: a statement that ends inside
the tokens, or at their end where the second stream does not go on with `else`, a block, and the
statements of a block that end inside the tokens or where both streams have `}` next.

The runs on the second stream are put together from their steps by the lemmas of
`Steps.Assembly` (`Parse.block_eq_of`, `Parse.statement_eq_of_while` and the others): a run of a
rule is determined by the tokens it takes, the runs of the rules it calls, and its checks.
-/

namespace ImpFront

namespace Parse

open Cursor

variable {ctx : Context} {c : Cursor}

/-! ## What a run takes -/

theorem statement_consumed {r : Read c (Stmt × Context)} (parsed : statement ctx c = .ok r) :
    ∃ u, c.Consumed u r.cursor :=
  (statement_recognized parsed).imp fun _ recognized => recognized.1

theorem blockBody_consumed {res : List Stmt × Context × { c' : Cursor // c'.left ≤ c.left }}
    (parsed : blockBody ctx c = .ok res) : ∃ u, c.Consumed u res.2.2.1 :=
  (blockBody_recognized parsed).2.imp fun _ recognized => recognized.1

theorem condition_consumed {r : Read c Expr} (parsed : condition ctx c = .ok r) :
    ∃ u, c.Consumed u r.cursor :=
  (condition_recognized parsed).imp fun _ recognized => recognized.1

theorem varDecl_consumed {r : Read c (VarDecl × Context)} (parsed : varDecl ctx c = .ok r) :
    ∃ u, c.Consumed u r.cursor :=
  (varDecl_recognized parsed).imp fun _ recognized => recognized.1

theorem exprStatement_consumed {r : Read c (Stmt × Context)}
    (parsed : exprStatement ctx c = .ok r) :
    ∃ u, c.Consumed u r.cursor := by
  obtain ⟨e, semi, exprRead, semiTaken, -, -⟩ := exprStatement_eq_ok parsed
  obtain ⟨q, consumed⟩ := expression_consumed exprRead
  exact ⟨q ++ [semi], consumed.trans semiTaken.consumed⟩

theorem ForInitRead.consumed {init : Read c (Stmt × Context)}
    (initRead : ForInitRead ctx c init) :
    ∃ u, c.Consumed u init.cursor := by
  rcases initRead with ⟨-, decl, declRead, -, initCursor⟩ | ⟨-, initRead⟩
  · rw [initCursor]
    exact varDecl_consumed declRead
  · exact exprStatement_consumed initRead

/-! ## Statements carried over -/

variable {A B : List (Except LexError Token)} {d : Cursor}

/-- A variable declaration, which ends with `;`, is read from the second stream too. -/
theorem varDecl_carries (mirror : Mirror A B c d) :
    Carries (fun _ => False) A B (varDecl ctx c) (varDecl ctx d) := by
  intro r parsed w final halts
  obtain ⟨kw, name, eqTok, semi, c1, c2, c3, init, id, kwTaken, isKw, nameTaken, isName, eqTaken,
    isEq, initRead, semiTaken, isSemi, defined, valueEq⟩ := varDecl_eq_ok parsed
  have aheadInit := semiTaken.consumed.ahead_of final
  obtain ⟨q, consumed⟩ := expression_consumed initRead
  have ahead3 := consumed.ahead_of aheadInit
  have ahead2 := eqTaken.consumed.ahead_of ahead3
  have ahead1 := nameTaken.consumed.ahead_of ahead2
  obtain ⟨d1, kwTaken', mirror1⟩ := mirror.takes_of_ne_nil kwTaken ahead1 (by simp)
  obtain ⟨d2, nameTaken', mirror2⟩ := mirror1.takes_of_ne_nil nameTaken ahead2 (by simp)
  obtain ⟨d3, eqTaken', mirror3⟩ := mirror2.takes_of_ne_nil eqTaken ahead3 (by simp)
  obtain ⟨⟨v4, d4, lt4⟩, small4, rfl, dAhead4⟩ :=
    expression_carries mirror3 init initRead _ aheadInit fun atEnd => by simp at atEnd
  obtain ⟨d5, semiTaken', mirror5⟩ := Mirror.takes ⟨_, aheadInit, dAhead4⟩ semiTaken final halts
  obtain ⟨r', run', valueEq', cursorEq'⟩ :=
    varDecl_eq_of kwTaken' isKw nameTaken' isName eqTaken' isEq small4 semiTaken' isSemi defined
  refine ⟨r', run', ?_, by rw [cursorEq']; exact mirror5.ahead_eq final⟩
  rw [valueEq', ← valueEq]

/-- An expression statement, located at its first token, is read from the second stream too. -/
theorem exprStatement_carries (mirror : Mirror A B c d) :
    Carries (fun _ => False) A B (exprStatement ctx c) (exprStatement ctx d) := by
  intro r parsed w final halts
  obtain ⟨e, semi, exprRead, semiTaken, isSemi, valueEq⟩ := exprStatement_eq_ok parsed
  have aheadE := semiTaken.consumed.ahead_of final
  obtain ⟨q, consumed⟩ := expression_consumed exprRead
  have aheadC := consumed.ahead_of aheadE
  obtain ⟨⟨v1, d1, lt1⟩, small1, rfl, dAhead1⟩ :=
    expression_carries mirror e exprRead _ aheadE fun atEnd => by simp at atEnd
  obtain ⟨d2, semiTaken', mirror2⟩ := Mirror.takes ⟨_, aheadE, dAhead1⟩ semiTaken final halts
  obtain ⟨r', run', valueEq', cursorEq'⟩ := exprStatement_eq_of small1 semiTaken' isSemi
  have sameLoc : d.look = c.look := look_eq_of_mirror aheadC (mirror.ahead_eq aheadC) (by simp)
  refine ⟨r', run', ?_, by rw [cursorEq']; exact mirror2.ahead_eq final⟩
  rw [valueEq', valueEq, sameLoc]

/-- The first statement of a `for` loop is read from the second stream too, the same way. -/
theorem ForInitRead.carries {init : Read c (Stmt × Context)}
    (initRead : ForInitRead ctx c init)
    (mirror : Mirror A B c d) (w : List Token) (final : init.cursor.ahead = w.map .ok ++ A)
    (halts : w = [] → Halts (fun _ => False) B) :
    ∃ init' : Read d (Stmt × Context), ForInitRead ctx d init' ∧ init'.value = init.value ∧
      init'.cursor.ahead = w.map .ok ++ B := by
  rcases initRead with ⟨-, decl, declRead, initValue, initCursor⟩ | ⟨-, initRead⟩
  · rw [initCursor] at final
    obtain ⟨decl', declRun, sameValue, ahead'⟩ := varDecl_carries mirror decl declRead w final halts
    obtain ⟨kw, _, _, _, _, _, _, _, _, kwTaken, isKw, _⟩ := varDecl_eq_ok declRun
    have isVar : d.look.kind = .varKw := by rw [← kwTaken.1]; exact isKw
    refine ⟨⟨(.varDecl decl'.value.1, decl'.value.2), decl'.cursor, decl'.lt⟩,
      .inl ⟨isVar, decl', declRun, rfl, rfl⟩, ?_, ahead'⟩
    rw [initValue, sameValue]
  · obtain ⟨init', initRun, sameValue, ahead'⟩ :=
      exprStatement_carries mirror init initRead w final halts
    obtain ⟨e, _, exprRead, _⟩ := exprStatement_eq_ok initRun
    have notVar : d.look.kind ≠ .varKw := by
      intro isVar
      have start := expression_start exprRead
      rw [isVar] at start
      exact absurd start (by decide)
    exact ⟨init', .inr ⟨notVar, initRun⟩, sameValue, ahead'⟩

/-- A condition, which ends with `)`, is read from the second stream too. -/
theorem condition_carries (mirror : Mirror A B c d) :
    Carries (fun _ => False) A B (condition ctx c) (condition ctx d) := by
  intro r parsed w final halts
  obtain ⟨lp, rp, c1, cond, lpTaken, isLp, condRead, isBool, rpTaken, isRp, valueEq⟩ :=
    condition_eq_ok parsed
  have aheadCond := rpTaken.consumed.ahead_of final
  obtain ⟨q, consumed⟩ := expression_consumed condRead
  have ahead1 := consumed.ahead_of aheadCond
  obtain ⟨d1, lpTaken', mirror1⟩ := mirror.takes_of_ne_nil lpTaken ahead1 (by simp)
  obtain ⟨⟨v2, d2, lt2⟩, small2, rfl, dAhead2⟩ :=
    expression_carries mirror1 cond condRead _ aheadCond fun atEnd => by simp at atEnd
  obtain ⟨d3, rpTaken', mirror3⟩ := Mirror.takes ⟨_, aheadCond, dAhead2⟩ rpTaken final halts
  obtain ⟨r', run', valueEq', cursorEq'⟩ :=
    condition_eq_of lpTaken' isLp small2 isBool rpTaken' isRp
  exact ⟨r', run', valueEq'.trans valueEq.symm, by rw [cursorEq']; exact mirror3.ahead_eq final⟩

/--
Every statement rule reads from the second stream what it reads from the first, in the same
context, by the reader's own mutual recursion. A statement may end at the end of the tokens where
the second stream does not go on with `else`, which an `if` without one would take; a block ends
with `}` and tests nothing after it; the statements of a block end where both streams have `}`.
-/
theorem statement_carries_all :
    (∀ ctx c d, Mirror A B c d →
      Carries (· = .elseKw) A B (statement ctx c) (statement ctx d)) ∧
    (∀ ctx c d, Mirror A B c d → Carries (fun _ => False) A B (block ctx c) (block ctx d)) ∧
    (∀ ctx c d, Mirror A B c d → ∀ res, blockBody ctx c = .ok res → ∀ w : List Token,
      res.2.2.1.ahead = w.map .ok ++ A → (w = [] → Halts (· ≠ .rBrace) B) →
      ∃ res', blockBody ctx d = .ok res' ∧ res'.1 = res.1 ∧ res'.2.1 = res.2.1 ∧
        res'.2.2.1.ahead = w.map .ok ++ B) := by
  refine statement.mutual_induct _ _ _ ?lBrace ?ifThen ?whileLoop ?forLoop ?varDecl ?ret ?expr
    ?other ?block ?bodyEnd ?bodyMore
  case lBrace =>
    intro ctx c isBrace blockIH d mirror r parsed w final halts
    obtain ⟨b, blockRead, valueEq, cursorEq⟩ := statement_eq_ok_of_lBrace parsed isBrace
    rw [cursorEq] at final
    obtain ⟨b', small, sameValue, ahead'⟩ :=
      blockIH d mirror b blockRead w final (halts_false halts)
    obtain ⟨lb, _, _, _, opened, isLb, _⟩ := block_eq_ok small
    have isBrace' : d.look.kind = .lBrace := by rw [← opened.1]; exact isLb
    exact ⟨_, statement_eq_of_block isBrace' small, by simp only [valueEq, sameValue], ahead'⟩
  case ifThen =>
    intro ctx c isIf thenIH elseIH d mirror r parsed w final halts
    obtain ⟨kw, c1, cond, thenRead, taken, condRead, thenStmt,
        ⟨notElse, valueEq, cursorEq⟩ | ⟨elseTok, c4, elseRead, elseTaken, isElse, elseStmt, valueEq,
          cursorEq⟩⟩ := statement_eq_ok_of_if parsed isIf
    · rw [cursorEq] at final
      obtain ⟨q, consumed⟩ := statement_consumed thenStmt
      have aheadCond := consumed.ahead_of final
      obtain ⟨q', consumed'⟩ := condition_consumed condRead
      have ahead1 := consumed'.ahead_of aheadCond
      obtain ⟨d1, taken', mirror1⟩ :=
        mirror.takes taken ahead1 (halts_of_append (halts_of_append halts))
      obtain ⟨⟨v2, d2, lt2⟩, small2, rfl, dAhead2⟩ :=
        condition_carries mirror1 cond condRead _ aheadCond (halts_false (halts_of_append halts))
      obtain ⟨⟨v3, d3, lt3⟩, small3, rfl, dAhead3⟩ := thenIH c1 taken.left_lt cond.cursor cond.lt d2
        ⟨_, aheadCond, dAhead2⟩ thenRead thenStmt w final halts
      have isIf' : kw.kind = .ifKw := by rw [taken.1]; exact isIf
      have notElse' : d3.look.kind ≠ .elseKw :=
        look_of_mirror final dAhead3 halts notElse fun _ stops => stops
      obtain ⟨r', run', valueEq', cursorEq'⟩ :=
        statement_eq_of_ifThen taken' isIf' small2 small3 notElse'
      exact ⟨r', run', by rw [valueEq', valueEq], by rw [cursorEq']; exact dAhead3⟩
    · rw [cursorEq] at final
      obtain ⟨qe, consumedE⟩ := statement_consumed elseStmt
      have ahead4 := consumedE.ahead_of final
      have aheadThen := elseTaken.consumed.ahead_of ahead4
      obtain ⟨q, consumed⟩ := statement_consumed thenStmt
      have aheadCond := consumed.ahead_of aheadThen
      obtain ⟨q', consumed'⟩ := condition_consumed condRead
      have ahead1 := consumed'.ahead_of aheadCond
      obtain ⟨d1, taken', mirror1⟩ := mirror.takes_of_ne_nil taken ahead1 (by simp)
      obtain ⟨⟨v2, d2, lt2⟩, small2, rfl, dAhead2⟩ :=
        condition_carries mirror1 cond condRead _ aheadCond fun atEnd => by simp at atEnd
      obtain ⟨⟨v3, d3, lt3⟩, small3, rfl, dAhead3⟩ := thenIH c1 taken.left_lt cond.cursor cond.lt d2
        ⟨_, aheadCond, dAhead2⟩ thenRead thenStmt _ aheadThen fun atEnd => by simp at atEnd
      obtain ⟨d4, elseTaken', mirror4⟩ :=
        Mirror.takes ⟨_, aheadThen, dAhead3⟩ elseTaken ahead4 (halts_of_append halts)
      obtain ⟨⟨v5, d5, lt5⟩, small5, rfl, dAhead5⟩ :=
        elseIH c1 taken.left_lt cond.cursor cond.lt thenRead.value.2 thenRead.cursor thenRead.lt c4
          elseTaken.left_lt d4 mirror4 elseRead elseStmt w final halts
      have isIf' : kw.kind = .ifKw := by rw [taken.1]; exact isIf
      obtain ⟨r', run', valueEq', cursorEq'⟩ :=
        statement_eq_of_ifElse taken' isIf' small2 small3 elseTaken' isElse small5
      exact ⟨r', run', by rw [valueEq', valueEq], by rw [cursorEq']; exact dAhead5⟩
  case whileLoop =>
    intro ctx c isWhile bodyIH d mirror r parsed w final halts
    obtain ⟨kw, c1, cond, body, taken, condRead, bodyRead, valueEq, cursorEq⟩ :=
      statement_eq_ok_of_while parsed isWhile
    rw [cursorEq] at final
    obtain ⟨q, consumed⟩ := statement_consumed bodyRead
    have aheadCond := consumed.ahead_of final
    obtain ⟨q', consumed'⟩ := condition_consumed condRead
    have ahead1 := consumed'.ahead_of aheadCond
    obtain ⟨d1, taken', mirror1⟩ :=
      mirror.takes taken ahead1 (halts_of_append (halts_of_append halts))
    obtain ⟨⟨v2, d2, lt2⟩, small2, rfl, dAhead2⟩ :=
      condition_carries mirror1 cond condRead _ aheadCond (halts_false (halts_of_append halts))
    obtain ⟨⟨v3, d3, lt3⟩, small3, rfl, dAhead3⟩ := bodyIH c1 taken.left_lt cond.cursor cond.lt d2
      ⟨_, aheadCond, dAhead2⟩ body bodyRead w final halts
    have isWhile' : kw.kind = .whileKw := by rw [taken.1]; exact isWhile
    obtain ⟨r', run', valueEq', cursorEq'⟩ := statement_eq_of_while taken' isWhile' small2 small3
    exact ⟨r', run', by rw [valueEq', valueEq], by rw [cursorEq']; exact dAhead3⟩
  case forLoop =>
    intro ctx c isFor bodyIH d mirror r parsed w final halts
    obtain ⟨kw, lp, semi, rp, c1, c2, c5, c7, init, test, step, body, kwTaken, lpTaken, isLp,
      initAlt, testRead, testBool, semiTaken, isSemi, stepRead, rpTaken, isRp, bodyRead, valueEq,
      cursorEq⟩ := statement_eq_ok_of_for parsed isFor
    rw [cursorEq] at final
    obtain ⟨qBody, consumedBody⟩ := statement_consumed bodyRead
    have ahead7 := consumedBody.ahead_of final
    have aheadStep := rpTaken.consumed.ahead_of ahead7
    obtain ⟨qStep, consumedStep⟩ := expression_consumed stepRead
    have ahead5 := consumedStep.ahead_of aheadStep
    have aheadTest := semiTaken.consumed.ahead_of ahead5
    obtain ⟨qTest, consumedTest⟩ := expression_consumed testRead
    have aheadInit := consumedTest.ahead_of aheadTest
    obtain ⟨qInit, consumedInit⟩ := ForInitRead.consumed initAlt
    have ahead2 := consumedInit.ahead_of aheadInit
    have ahead1 := lpTaken.consumed.ahead_of ahead2
    obtain ⟨d1, kwTaken', mirror1⟩ := mirror.takes_of_ne_nil kwTaken ahead1 (by simp)
    obtain ⟨d2, lpTaken', mirror2⟩ := mirror1.takes_of_ne_nil lpTaken ahead2 (by simp)
    obtain ⟨⟨v3, d3, lt3⟩, initRun, rfl, dAhead3⟩ :=
      ForInitRead.carries initAlt mirror2 _ aheadInit fun atEnd => by simp at atEnd
    obtain ⟨⟨v4, d4, lt4⟩, testRun, rfl, dAhead4⟩ := expression_carries
      ⟨_, aheadInit, dAhead3⟩ test testRead _ aheadTest fun atEnd => by simp at atEnd
    obtain ⟨d5, semiTaken', mirror5⟩ :=
      Mirror.takes_of_ne_nil ⟨_, aheadTest, dAhead4⟩ semiTaken ahead5 (by simp)
    obtain ⟨⟨v6, d6, lt6⟩, stepRun, rfl, dAhead6⟩ := expression_carries mirror5 step
      stepRead _ aheadStep fun atEnd => by simp at atEnd
    obtain ⟨d7, rpTaken', mirror7⟩ :=
      Mirror.takes ⟨_, aheadStep, dAhead6⟩ rpTaken ahead7 (halts_of_append halts)
    obtain ⟨⟨v8, d8, lt8⟩, bodyRun, rfl, dAhead8⟩ :=
      bodyIH c1 kwTaken.left_lt c2 lpTaken.left_lt init.cursor init.lt test.cursor test.lt c5
        semiTaken.left_lt step.cursor step.lt c7 rpTaken.left_lt init.value.2.enter.1 d7 mirror7
        body bodyRead w final halts
    have isFor' : kw.kind = .forKw := by rw [kwTaken.1]; exact isFor
    have stepLoc : d5.look = c5.look := look_eq_of_mirror ahead5 (mirror5.ahead_eq ahead5) (by simp)
    obtain ⟨r', run', valueEq', cursorEq'⟩ := statement_eq_of_for kwTaken' isFor' lpTaken' isLp
      initRun testRun testBool semiTaken' isSemi stepRun rpTaken' isRp bodyRun
    refine ⟨r', run', ?_, by rw [cursorEq']; exact dAhead8⟩
    rw [valueEq', valueEq, stepLoc]
  case varDecl =>
    intro ctx c isVar d mirror r parsed w final halts
    obtain ⟨decl, declRead, valueEq, cursorEq⟩ := statement_eq_ok_of_var parsed isVar
    rw [cursorEq] at final
    obtain ⟨⟨v1, d1, lt1⟩, small1, rfl, dAhead1⟩ :=
      varDecl_carries mirror decl declRead w final (halts_false halts)
    obtain ⟨kw, _, _, _, _, _, _, _, _, kwTaken, isKw, _⟩ := varDecl_eq_ok small1
    have isVar' : d.look.kind = .varKw := by rw [← kwTaken.1]; exact isKw
    exact ⟨_, statement_eq_of_var isVar' small1, by simp only [valueEq], dAhead1⟩
  case ret =>
    intro ctx c isReturn d mirror r parsed w final halts
    obtain ⟨kw, semi, c1, value, taken, valueRead, semiTaken, isSemi, valueEq⟩ :=
      statement_eq_ok_of_return parsed isReturn
    have aheadValue := semiTaken.consumed.ahead_of final
    obtain ⟨q, consumed⟩ := expression_consumed valueRead
    have ahead1 := consumed.ahead_of aheadValue
    obtain ⟨d1, taken', mirror1⟩ := mirror.takes_of_ne_nil taken ahead1 (by simp)
    obtain ⟨⟨v2, d2, lt2⟩, small2, rfl, dAhead2⟩ := expression_carries mirror1 value
      valueRead _ aheadValue fun atEnd => by simp at atEnd
    obtain ⟨d3, semiTaken', mirror3⟩ := Mirror.takes ⟨_, aheadValue, dAhead2⟩ semiTaken final halts
    have isReturn' : kw.kind = .returnKw := by rw [taken.1]; exact isReturn
    obtain ⟨r', run', valueEq', cursorEq'⟩ :=
      statement_eq_of_return taken' isReturn' small2 semiTaken' isSemi
    exact ⟨r', run', by rw [valueEq', valueEq], by rw [cursorEq']; exact mirror3.ahead_eq final⟩
  case expr =>
    intro ctx c _ _ _ _ _ _ start d mirror r parsed w final halts
    rw [statement_of_exprStart start] at parsed
    obtain ⟨r', run', valueEq', ahead'⟩ :=
      exprStatement_carries mirror r parsed w final (halts_false halts)
    obtain ⟨e, -, exprRead, -⟩ := exprStatement_eq_ok run'
    rw [statement_of_exprStart (expression_start exprRead)]
    exact ⟨r', run', valueEq', ahead'⟩
  case other =>
    intro ctx c notBrace notIf notWhile notFor notVar notReturn notExpr d mirror r parsed
    have start := statement_start parsed
    simp only [statementStart, List.cons_append, List.nil_append, List.mem_cons] at start
    rcases start with isKind | isKind | isKind | isKind | isKind | isKind | isExpr <;> contradiction
  case block =>
    intro ctx c bodyIH d mirror r parsed w final halts
    obtain ⟨lb, rb, c1, body, taken, isLb, bodyRead, closing, isRb, valueEq⟩ := block_eq_ok parsed
    have aheadBody := closing.consumed.ahead_of final
    obtain ⟨q, consumed⟩ := blockBody_consumed bodyRead
    have ahead1 := consumed.ahead_of aheadBody
    obtain ⟨d1, taken', mirror1⟩ := mirror.takes_of_ne_nil taken ahead1 (by simp)
    obtain ⟨⟨stmts, ctx2, d2, le2⟩, small2, sameStmts, sameCtx, dAhead2⟩ :=
      bodyIH c1 taken.left_lt ctx.enter.1 d1 mirror1 body bodyRead _ aheadBody
        fun atEnd => by simp at atEnd
    obtain ⟨d3, closing', mirror3⟩ := Mirror.takes ⟨_, aheadBody, dAhead2⟩ closing final halts
    obtain ⟨r', run', valueEq', cursorEq'⟩ := block_eq_of taken' isLb small2 closing' isRb
    refine ⟨r', run', ?_, by rw [cursorEq']; exact mirror3.ahead_eq final⟩
    simp only at sameStmts sameCtx
    rw [valueEq', valueEq, sameStmts, sameCtx]
  case bodyEnd =>
    intro ctx c isClose d mirror res parsed w final halts
    obtain ⟨-, stmtsEq, ctxEq, cursorEq⟩ | ⟨notClose, -⟩ := blockBody_eq_ok parsed
    · rw [cursorEq] at final
      have dAhead := mirror.ahead_eq final
      have isClose' : d.look.kind = .rBrace :=
        look_of_mirror final dAhead halts isClose fun _ stops => not_not.1 stops
      exact ⟨_, blockBody_eq_of_close isClose', stmtsEq.symm, ctxEq.symm, dAhead⟩
    · contradiction
  case bodyMore =>
    intro ctx c notClose stmtIH restIH d mirror res parsed w final halts
    obtain ⟨isClose, -⟩ | ⟨-, s, rest, stmtRead, restRead, stmtsEq, ctxEq, cursorEq⟩ :=
      blockBody_eq_ok parsed
    · exact absurd isClose notClose
    rw [cursorEq] at final
    obtain ⟨q, consumed⟩ := blockBody_consumed restRead
    have aheadS := consumed.ahead_of final
    -- a statement the block goes on after ends before `}`, which is no `else`
    obtain ⟨⟨v1, d1, lt1⟩, small1, rfl, dAhead1⟩ := stmtIH d mirror s stmtRead _ aheadS
      fun atEnd => (halts_of_append halts atEnd).mono fun _ isElse => by rw [isElse]; decide
    obtain ⟨⟨stmts, ctx2, d2, le2⟩, small2, sameStmts, sameCtx, dAhead2⟩ :=
      restIH s.value.2 s.cursor s.lt d1 ⟨_, aheadS, dAhead1⟩ rest restRead w final halts
    have notClose' : d.look.kind ≠ .rBrace := by
      intro isClose'
      have start := statement_start small1
      rw [isClose'] at start
      exact absurd start (by decide)
    obtain ⟨res', run', stmtsEq', ctxEq', cursorEq'⟩ := blockBody_eq_of_cons notClose' small1 small2
    simp only at sameStmts sameCtx
    refine ⟨res', run', ?_, ?_, ?_⟩
    · rw [stmtsEq', stmtsEq, sameStmts]
    · rw [ctxEq', ctxEq, sameCtx]
    · rw [cursorEq']
      exact dAhead2

end Parse

end ImpFront
