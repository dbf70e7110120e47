import ImpFront.Proofs.Grammar.Statements
import ImpFront.Proofs.ExpressionTrees

/-!
# The reader recognizes the grammar

A run of a rule of the reader that succeeds recognizes a word of the rule's grammar
(`Cursor.Recognized`): the tokens it took form a word of the rule, and in every context the
rule can be cut short in, a derivation over them and what follows ends right after them. A
run that stops at an unexpected token is stuck on the rule (`Cursor.Stuck`): the tokens it took
start a word of the rule, and no derivation of the rule in such a context goes on with the
token it stopped at. Both are proved by the reader's own recursion, one case for each branch
of a rule, from the sequences and alternatives of `Grammar.Statements`.

For a whole program this is `Program.read_recognizes`, on the tokens up to the first end of
input: the reader reads only programs of the grammar, never stops at an unexpected token on a
program, and stops at one only after tokens that start a program that no program continues
with that token.
-/

namespace ImpFront

open Grammar

namespace Cursor

/--
Reading from `c` up to `c'` took a word of `R`, and in every context that `C` allows, a
derivation of `R` over it and what follows ends after it.
-/
def Recognized (R : List Token → List Token → Prop) (C : (List Token → Prop) → Prop)
    (c c' : Cursor) : Prop :=
  ∃ u, c.Consumed u c' ∧ Accepts R C u c'.look

/--
Reading from `c` stopped with `f` at a token, after tokens that start a word of `R`, and no
derivation of `R` in a context that `C` allows goes on with that token.
-/
def Stuck (R : List Token → List Token → Prop) (C : (List Token → Prop) → Prop) (c : Cursor)
    (f : Failure) : Prop :=
  ∃ p t, c.FailsOn f p t ∧ Rejects R C p t

/--
Reading from `c` up to `c'`, whose lookahead closes the list `L` with a token of kind `k`, took
the elements of a word of `L`.
-/
def RecognizedUpTo (L : List Token → List Token → Prop) (k : TokenKind) (c c' : Cursor) : Prop :=
  c'.look.kind = k ∧ ∃ u, c.Consumed u c' ∧ ∀ n, Accepts L (fun _ => True) (u ++ [c'.look]) n

variable {R S L : List Token → List Token → Prop} {C D : (List Token → Prop) → Prop}
  {c c₁ c₂ c₃ : Cursor} {f : Failure} {t e : Token} {k : TokenKind} {kinds : List TokenKind}

theorem Takes.kind_eq (taken : c.Takes t c₁) : t.kind = c.look.kind := congrArg Token.kind taken.1

/-! ## Sequences and alternatives -/

theorem Recognized.seq (first : c.Recognized R C c₁) (second : c₁.Recognized S D c₂)
    (passes : Passes S C D) : c.Recognized (Seq R S) D c₂ := by
  obtain ⟨u₁, consumed₁, accepts₁⟩ := first
  obtain ⟨u₂, consumed₂, accepts₂⟩ := second
  exact ⟨u₁ ++ u₂, consumed₁.trans consumed₂,
    accepts₁.seq accepts₂ passes fun _ starts => consumed₂.startsLike starts⟩

theorem Recognized.seq_stuck (first : c.Recognized R C c₁) (second : c₁.Stuck S D f)
    (passes : Passes S C D) : c.Stuck (Seq R S) D f := by
  obtain ⟨u, consumed, accepts⟩ := first
  obtain ⟨p, t, fails, rejects⟩ := second
  exact ⟨u ++ p, t, consumed.failsOn fails, accepts.seq_rejects rejects passes fails.startsLike⟩

theorem Stuck.seq (first : c.Stuck R C f) (word : HasWord S) (passes : Passes S C D) :
    c.Stuck (Seq R S) D f := by
  obtain ⟨p, t, fails, rejects⟩ := first
  exact ⟨p, t, fails, rejects.seq word passes⟩

theorem Recognized.mono (recognized : c.Recognized R C c₁) (fewer : ∀ K, D K → C K) :
    c.Recognized R D c₁ := by
  obtain ⟨u, consumed, accepts⟩ := recognized
  exact ⟨u, consumed, accepts.mono fewer⟩

theorem Stuck.mono (stuck : c.Stuck R C f) (fewer : ∀ K, D K → C K) : c.Stuck R D f := by
  obtain ⟨p, t, fails, rejects⟩ := stuck
  exact ⟨p, t, fails, rejects.mono fewer⟩

/-- What the lookahead selected is recognized as the whole rule. -/
theorem Recognized.alternative (recognized : c.Recognized R C c₁) (alt : Alternative k R S)
    (isKind : c.look.kind = k) : c.Recognized S C c₁ := by
  obtain ⟨u, consumed, accepts⟩ := recognized
  refine ⟨u, consumed, fun y => alt.sub _ _ (accepts.derives y), ?_⟩
  intro K closed x y starts derived follows
  exact accepts.exact K closed x y starts
    (alt.back_of_startsLike isKind (consumed.startsLike starts) derived) follows

theorem Stuck.alternative (stuck : c.Stuck R C f) (alt : Alternative k R S)
    (isKind : c.look.kind = k) : c.Stuck S C f := by
  obtain ⟨p, t, fails, rejects⟩ := stuck
  refine ⟨p, t, fails, ?_, ?_⟩
  · obtain ⟨x, derived⟩ := rejects.viable
    exact ⟨x, fun y => alt.sub _ _ (derived y)⟩
  · intro K closed s y derived
    exact rejects.blocked K closed s y (alt.back_of_startsLike isKind (fails.startsLike s) derived)

/-! ## Terminals -/

theorem Takes.recognized (taken : c.Takes t c₁) (isKind : t.kind = k) :
    c.Recognized (Tok k) C c₁ :=
  ⟨[t], taken.consumed, accepts_tok isKind⟩

theorem Takes.recognized_seq (taken : c.Takes t c₁) (isKind : t.kind = k)
    (rest : c₁.Recognized S D c₂) : c.Recognized (Seq (Tok k) S) D c₂ :=
  (taken.recognized isKind).seq rest passes_any

theorem Takes.stuck_seq (taken : c.Takes t c₁) (isKind : t.kind = k) (rest : c₁.Stuck S D f) :
    c.Stuck (Seq (Tok k) S) D f :=
  (taken.recognized isKind).seq_stuck rest passes_any

theorem Refuses.stuck (refused : c.Refuses kinds f) (listed : k ∈ kinds) :
    c.Stuck (Tok k) C f :=
  ⟨[], c.look, refused.failsOn, rejects_tok fun isKind => refused.1 (isKind ▸ listed)⟩

theorem Refuses.stuck_seq (refused : c.Refuses kinds f) (listed : k ∈ kinds) (word : HasWord S) :
    c.Stuck (Seq (Tok k) S) D f :=
  (refused.stuck listed).seq word passes_any

/-- A lookahead that starts no word of `R` is refused before anything is taken. -/
theorem Refuses.stuck_refused (refused : c.Refuses kinds f) (word : HasWord R)
    (none : ∀ s y, ¬R (c.look :: s) y) : c.Stuck R C f :=
  ⟨[], c.look, refused.failsOn, Rejects.refused word none⟩

/-! ## The branches of an `if` -/

theorem Recognized.thenElse_none (branch : c.Recognized Statement ElseClosed c₁)
    (notElse : c₁.look.kind ≠ .elseKw) : c.Recognized ThenElse ElseClosed c₁ := by
  obtain ⟨u, consumed, accepts⟩ := branch
  exact ⟨u, consumed, accepts.thenElse_none notElse⟩

theorem Recognized.thenElse_some (branch : c.Recognized Statement ElseClosed c₁)
    (taken : c₁.Takes e c₂) (isElse : e.kind = .elseKw)
    (other : c₂.Recognized Statement ElseClosed c₃) : c.Recognized ThenElse ElseClosed c₃ := by
  obtain ⟨u₁, consumed₁, accepts₁⟩ := branch
  obtain ⟨u₂, consumed₂, accepts₂⟩ := other
  have same : e = c₁.look := taken.1
  subst same
  exact ⟨u₁ ++ c₁.look :: u₂, consumed₁.trans (taken.cons consumed₂),
    accepts₁.thenElse_some isElse accepts₂⟩

theorem Stuck.thenElse_branch (branch : c.Stuck Statement ElseClosed f) :
    c.Stuck ThenElse ElseClosed f := by
  obtain ⟨p, t, fails, rejects⟩ := branch
  exact ⟨p, t, fails, rejects.thenElse_branch⟩

theorem Recognized.thenElse_other (branch : c.Recognized Statement ElseClosed c₁)
    (taken : c₁.Takes e c₂) (isElse : e.kind = .elseKw) (other : c₂.Stuck Statement ElseClosed f) :
    c.Stuck ThenElse ElseClosed f := by
  obtain ⟨u, consumed, accepts⟩ := branch
  obtain ⟨p, t, fails, rejects⟩ := other
  have same : e = c₁.look := taken.1
  subst same
  exact ⟨u ++ c₁.look :: p, t, consumed.failsOn (taken.failsOn fails),
    Rejects.thenElse_other accepts isElse rejects⟩

/-! ## Lists closed by a terminal -/

theorem recognizedUpTo_close {C : (List Token → Prop) → Prop} (list : ClosedList L R C k)
    (isKind : c.look.kind = k) : c.RecognizedUpTo L k c :=
  ⟨isKind, [], Consumed.refl c, fun _ => list.accepts_close isKind⟩

theorem Recognized.upTo_cons (first : c.Recognized R C c₁) (list : ClosedList L R C k)
    (rest : c₁.RecognizedUpTo L k c₂) : c.RecognizedUpTo L k c₂ := by
  obtain ⟨u₁, consumed₁, accepts₁⟩ := first
  obtain ⟨isKind, u₂, consumed₂, accepts₂⟩ := rest
  refine ⟨isKind, u₁ ++ u₂, consumed₁.trans consumed₂, fun n => ?_⟩
  rw [List.append_assoc]
  exact list.accepts_cons accepts₁ (accepts₂ n) fun x _ => by
    simpa using consumed₂.startsLike (x := c₂.look :: x) (startsLike_cons.2 rfl)

/-- The closing token, taken after the elements, ends a word of the list. -/
theorem RecognizedUpTo.takes (upTo : c.RecognizedUpTo L k c₁) (taken : c₁.Takes t c₂) :
    c.Recognized L (fun _ => True) c₂ := by
  obtain ⟨-, u, consumed, accepts⟩ := upTo
  have same : t = c₁.look := taken.1
  subst same
  exact ⟨u ++ [c₁.look], consumed.trans taken.consumed, accepts c₂.look⟩

theorem Stuck.list_first (first : c.Stuck R C f) (list : ClosedList L R C k)
    (notClose : c.look.kind ≠ k) : c.Stuck L (fun _ => True) f := by
  obtain ⟨p, t, fails, rejects⟩ := first
  refine ⟨p, t, fails, list.rejects_first rejects fun s y closes => notClose ?_⟩
  obtain ⟨t', same, isKind⟩ := closes
  have starts := fails.startsLike s
  rw [same] at starts
  exact (startsLike_cons.1 starts).symm.trans isKind

theorem Recognized.list_stuck (first : c.Recognized R C c₁) (list : ClosedList L R C k)
    (rest : c₁.Stuck L (fun _ => True) f) : c.Stuck L (fun _ => True) f := by
  obtain ⟨u, consumed, accepts⟩ := first
  obtain ⟨p, t, fails, rejects⟩ := rest
  exact ⟨u ++ p, t, consumed.failsOn fails, list.rejects_cons accepts rejects fails.startsLike⟩

end Cursor

namespace Parse

variable {ctx : Context} {c c' : Cursor} {f : Failure} {C : (List Token → Prop) → Prop}

/-! ## Expressions and what closes them -/

theorem expression_recognized {r : Read c Expr} (parsed : expression ctx c = .ok r) :
    c.Recognized Expression (StopsBefore ContinuesAssign) r.cursor := by
  obtain ⟨u, consumed, munches⟩ := expression_munches parsed
  exact ⟨u, consumed, munches.accepts⟩

theorem expression_stuck (failed : expression ctx c = .error f) (unexpected : f.error.isUnexpected) :
    c.Stuck Expression (StopsBefore ContinuesAssign) f := by
  obtain ⟨p, t, fails, blocked⟩ := expression_blocked failed unexpected
  exact ⟨p, t, fails, blocked.rejects⟩

/-- An expression and the token that closes it, which no operator continues. -/
theorem closed_expression_recognized {k : TokenKind} {e : Read c Expr} {t : Token}
    (parsed : expression ctx c = .ok e) (taken : e.cursor.Takes t c') (isKind : t.kind = k)
    (closes : k ∈ argCloser) : c.Recognized (Seq Expression (Tok k)) C c' :=
  (expression_recognized parsed).seq (taken.recognized isKind)
    (passes_tok_only (not_continuesAssign closes))

theorem closed_expression_stuck {k : TokenKind}
    (failed : expression ctx c = .error f ∨
      ∃ e : Read c Expr, expression ctx c = .ok e ∧ e.cursor.Refuses [k] f)
    (closes : k ∈ argCloser) (unexpected : f.error.isUnexpected) :
    c.Stuck (Seq Expression (Tok k)) C f := by
  rcases failed with failedValue | ⟨e, valueRead, refused⟩
  · exact (expression_stuck failedValue unexpected).seq hasWord_tok
      (passes_tok_only (not_continuesAssign closes))
  · exact (expression_recognized valueRead).seq_stuck (refused.stuck (List.mem_singleton_self _))
      (passes_tok_only (not_continuesAssign closes))

/-! ## Declarations of variables, expression statements and conditions -/

theorem varDecl_recognized {r : Read c (VarDecl × Context)} (parsed : varDecl ctx c = .ok r) :
    c.Recognized Grammar.VarDecl (fun _ => True) r.cursor := by
  obtain ⟨kw, name, eqTok, semi, c1, c2, c3, init, id, kwStep, isVar, nameStep, isName, eqStep, isEq,
    initRead, semiStep, isSemi, -, -⟩ := varDecl_eq_ok parsed
  rw [varDecl_eq]
  exact kwStep.recognized_seq isVar (nameStep.recognized_seq isName (eqStep.recognized_seq isEq
    (closed_expression_recognized initRead semiStep isSemi (by decide))))

theorem varDecl_stuck (failed : varDecl ctx c = .error f) (unexpected : f.error.isUnexpected) :
    c.Stuck Grammar.VarDecl (fun _ => True) f := by
  rw [varDecl_eq]
  rcases varDecl_eq_error failed unexpected with refused | ⟨kw, c1, kwStep, isVar, refused |
    ⟨name, c2, nameStep, isName, refused | ⟨eqTok, c3, eqStep, isEq, failedInit⟩⟩⟩
  · exact refused.stuck_seq (List.mem_singleton_self _)
      (hasWord_tok.seq (hasWord_tok.seq (hasWord_expression.seq hasWord_tok)))
  · exact kwStep.stuck_seq isVar (refused.stuck_seq (List.mem_singleton_self _)
      (hasWord_tok.seq (hasWord_expression.seq hasWord_tok)))
  · exact kwStep.stuck_seq isVar (nameStep.stuck_seq isName
      (refused.stuck_seq (List.mem_singleton_self _) (hasWord_expression.seq hasWord_tok)))
  · exact kwStep.stuck_seq isVar (nameStep.stuck_seq isName (eqStep.stuck_seq isEq
      (closed_expression_stuck failedInit (by decide) unexpected)))

theorem exprStatement_recognized {r : Read c (Stmt × Context)}
    (parsed : exprStatement ctx c = .ok r) :
    c.Recognized (Seq Expression (Tok .semicolon)) C r.cursor := by
  obtain ⟨e, semi, exprRead, semiStep, isSemi, -⟩ := exprStatement_eq_ok parsed
  exact closed_expression_recognized exprRead semiStep isSemi (by decide)

theorem exprStatement_stuck (failed : exprStatement ctx c = .error f)
    (unexpected : f.error.isUnexpected) : c.Stuck (Seq Expression (Tok .semicolon)) C f :=
  closed_expression_stuck (exprStatement_eq_error failed unexpected) (by decide) unexpected

theorem condition_recognized {r : Read c Expr} (parsed : condition ctx c = .ok r) :
    c.Recognized Condition (fun _ => True) r.cursor := by
  obtain ⟨lp, rp, c1, cond, lpStep, isLp, condRead, -, rpStep, isRp, -⟩ := condition_eq_ok parsed
  rw [condition_eq]
  exact lpStep.recognized_seq isLp (closed_expression_recognized condRead rpStep isRp (by decide))

theorem condition_stuck (failed : condition ctx c = .error f) (unexpected : f.error.isUnexpected) :
    c.Stuck Condition (fun _ => True) f := by
  rw [condition_eq]
  rcases condition_eq_error failed unexpected with refused | ⟨lp, c1, lpStep, isLp, failedRest⟩
  · exact refused.stuck_seq (List.mem_singleton_self _) (hasWord_expression.seq hasWord_tok)
  · exact lpStep.stuck_seq isLp (closed_expression_stuck failedRest (by decide) unexpected)

/-! ## Statements -/

/--
Every successful run of a statement rule recognizes its words: a statement in every context
that reads an `else` only as an `if` further in would, a block in every context, and the
statements of a block up to the closing brace it stops at.
-/
theorem statement_recognized_all :
    (∀ ctx c (r : Read c (Stmt × Context)), statement ctx c = .ok r →
      c.Recognized Statement ElseClosed r.cursor) ∧
    (∀ ctx c (r : Read c (Block × Context)), block ctx c = .ok r →
      c.Recognized Grammar.Block (fun _ => True) r.cursor) ∧
    (∀ ctx c res, blockBody ctx c = .ok res → c.RecognizedUpTo StmtsClose .rBrace res.2.2.1) := by
  refine statement.mutual_induct _ _ _ ?lBrace ?ifStmt ?whileStmt ?forStmt ?var ?ret ?exprStart
    ?other ?block ?bodyEnd ?bodyMore
  case lBrace =>
    intro ctx c isBrace blockIH r parsed
    rcases statement_eq_ok_of_lBrace parsed isBrace with ⟨b, blockRead, -, cursorEq⟩
    rw [cursorEq]
    exact ((blockIH b blockRead).mono fun _ _ => trivial).alternative
      (statement_alternative .lBrace) isBrace
  case ifStmt =>
    intro ctx c isIf thenIH elseIH r parsed
    rcases statement_eq_ok_of_if parsed isIf with ⟨kw, c1, cond, thenRead, kwStep, condRead,
      thenParsed, branches⟩
    have thenRec := thenIH c1 kwStep.left_lt cond.cursor cond.lt thenRead thenParsed
    have branchesRec : cond.cursor.Recognized ThenElse ElseClosed r.cursor := by
      rcases branches with ⟨notElse, -, cursorEq⟩ | ⟨elseTok, c4, elseRead, elseStep, isElse,
        elseParsed, -, cursorEq⟩
      · rw [cursorEq]
        exact thenRec.thenElse_none notElse
      · have elseRec := elseIH c1 kwStep.left_lt cond.cursor cond.lt thenRead.value.2
          thenRead.cursor thenRead.lt c4 elseStep.left_lt elseRead elseParsed
        rw [cursorEq]
        exact thenRec.thenElse_some elseStep isElse elseRec
    exact (kwStep.recognized_seq (kwStep.kind_eq.trans isIf)
      ((condition_recognized condRead).seq branchesRec passes_any)).alternative
      (statement_alternative .ifKw) isIf
  case whileStmt =>
    intro ctx c isWhile bodyIH r parsed
    rcases statement_eq_ok_of_while parsed isWhile with ⟨kw, c1, cond, body, kwStep, condRead,
      bodyParsed, -, cursorEq⟩
    have bodyRec := bodyIH c1 kwStep.left_lt cond.cursor cond.lt body bodyParsed
    rw [cursorEq]
    exact (kwStep.recognized_seq (kwStep.kind_eq.trans isWhile)
      ((condition_recognized condRead).seq bodyRec passes_any)).alternative
      (statement_alternative .whileKw) isWhile
  case forStmt =>
    intro ctx c isFor bodyIH r parsed
    rcases statement_eq_ok_of_for parsed isFor with ⟨kw, lp, semi, rp, c1, c2, c5, c7, init, test,
      step, body, kwStep, lpStep, isLp, initParsed, testRead, -, semiStep, isSemi, stepRead,
      rpStep, isRp, bodyParsed, -, cursorEq⟩
    have initRec : c2.Recognized ForInit (fun _ => True) init.cursor := by
      rcases initParsed with ⟨isVar, d, declRead, -, initCursor⟩ | ⟨notVar, exprRead⟩
      · rw [initCursor]
        exact (varDecl_recognized declRead).alternative (forInit_alternative .varKw) isVar
      · exact (exprStatement_recognized exprRead).alternative (forInit_alternative_expr notVar) rfl
    have bodyRec := bodyIH c1 kwStep.left_lt c2 lpStep.left_lt init.cursor init.lt test.cursor
      test.lt c5 semiStep.left_lt step.cursor step.lt c7 rpStep.left_lt init.value.2.enter.1 body
      bodyParsed
    have tailRec : init.cursor.Recognized ForTail ElseClosed body.cursor :=
      (expression_recognized testRead).seq (semiStep.recognized_seq isSemi
        ((expression_recognized stepRead).seq (rpStep.recognized_seq isRp bodyRec)
          (passes_tok (not_continuesAssign (by decide)))))
        (passes_tok (not_continuesAssign (by decide)))
    rw [cursorEq]
    exact (kwStep.recognized_seq (kwStep.kind_eq.trans isFor)
      (lpStep.recognized_seq isLp (initRec.seq tailRec passes_any))).alternative
      (statement_alternative .forKw) isFor
  case var =>
    intro ctx c isVar r parsed
    rcases statement_eq_ok_of_var parsed isVar with ⟨d, declRead, -, cursorEq⟩
    rw [cursorEq]
    exact ((varDecl_recognized declRead).mono fun _ _ => trivial).alternative
      (statement_alternative .varKw) isVar
  case ret =>
    intro ctx c isReturn r parsed
    rcases statement_eq_ok_of_return parsed isReturn with ⟨kw, semi, c1, value, kwStep, valueRead,
      semiStep, isSemi, -⟩
    exact (kwStep.recognized_seq (kwStep.kind_eq.trans isReturn)
      (closed_expression_recognized valueRead semiStep isSemi (by decide))).alternative
      (statement_alternative .returnKw) isReturn
  case exprStart =>
    intro ctx c _ _ _ _ _ _ start r parsed
    rw [statement_of_exprStart start] at parsed
    exact (exprStatement_recognized parsed).alternative (statement_alternative_expr start) rfl
  case other =>
    intro ctx c _ _ _ _ _ _ notStart r parsed
    have start := statement_start parsed
    simp_all [statementStart]
  case block =>
    intro ctx c bodyIH r parsed
    rcases block_eq_ok parsed with ⟨lb, rb, c1, body, lbStep, isBrace, bodyRead, rbStep, -, -⟩
    rw [block_eq]
    exact lbStep.recognized_seq isBrace ((bodyIH c1 lbStep.left_lt ctx.enter.1 body bodyRead).takes
      rbStep)
  case bodyEnd =>
    intro ctx c isClose res parsed
    rcases blockBody_eq_ok parsed with ⟨-, -, -, cursorEq⟩ | ⟨notClose, -⟩
    · rw [cursorEq]
      exact Cursor.recognizedUpTo_close stmtsClose_closedList isClose
    · exact absurd isClose notClose
  case bodyMore =>
    intro ctx c notClose stmtIH restIH res parsed
    rcases blockBody_eq_ok parsed with ⟨isClose, -⟩ | ⟨-, s, rest, stmtRead, restRead, -, -,
      cursorEq⟩
    · exact absurd isClose notClose
    · rw [cursorEq]
      exact (stmtIH s stmtRead).upTo_cons stmtsClose_closedList
        (restIH s.value.2 s.cursor s.lt rest restRead)

theorem statement_recognized {r : Read c (Stmt × Context)} (parsed : statement ctx c = .ok r) :
    c.Recognized Statement ElseClosed r.cursor :=
  statement_recognized_all.1 ctx c r parsed

theorem block_recognized {r : Read c (Block × Context)} (parsed : block ctx c = .ok r) :
    c.Recognized Grammar.Block (fun _ => True) r.cursor :=
  statement_recognized_all.2.1 ctx c r parsed

theorem blockBody_recognized {res : List Stmt × Context × { c' : Cursor // c'.left ≤ c.left }}
    (parsed : blockBody ctx c = .ok res) : c.RecognizedUpTo StmtsClose .rBrace res.2.2.1 :=
  statement_recognized_all.2.2 ctx c res parsed

/--
Every run of a statement rule that stops at an unexpected token is stuck on its rule: a
statement in every context that reads an `else` only as an `if` further in would, and a block
and the statements of a block in every context.
-/
theorem statement_stuck_all :
    (∀ ctx c f, statement ctx c = .error f → f.error.isUnexpected →
      c.Stuck Statement ElseClosed f) ∧
    (∀ ctx c f, block ctx c = .error f → f.error.isUnexpected →
      c.Stuck Grammar.Block (fun _ => True) f) ∧
    (∀ ctx c f, blockBody ctx c = .error f → f.error.isUnexpected →
      c.Stuck StmtsClose (fun _ => True) f) := by
  refine statement.mutual_induct _ _ _ ?lBrace ?ifStmt ?whileStmt ?forStmt ?var ?ret ?exprStart
    ?other ?block ?bodyEnd ?bodyMore
  case lBrace =>
    intro ctx c isBrace blockIH f failed unexpected
    exact ((blockIH f (statement_eq_error_of_lBrace failed isBrace) unexpected).mono
      fun _ _ => trivial).alternative (statement_alternative .lBrace) isBrace
  case ifStmt =>
    intro ctx c isIf thenIH elseIH f failed unexpected
    obtain ⟨kw, c1, kwStep, failedAfter⟩ := statement_eq_error_of_if failed unexpected isIf
    suffices afterKw : c1.Stuck (Seq Condition ThenElse) ElseClosed f from
      (kwStep.stuck_seq (kwStep.kind_eq.trans isIf) afterKw).alternative
        (statement_alternative .ifKw) isIf
    rcases failedAfter with failedCond | ⟨cond, condRead, failedThen | ⟨thenRead, thenParsed,
      elseTok, c4, elseStep, isElse, failedElse⟩⟩
    · exact (condition_stuck failedCond unexpected).seq hasWord_thenElse passes_any
    · have thenStuck := thenIH c1 kwStep.left_lt cond.cursor cond.lt f failedThen unexpected
      exact (condition_recognized condRead).seq_stuck thenStuck.thenElse_branch passes_any
    · have elseStuck := elseIH c1 kwStep.left_lt cond.cursor cond.lt thenRead.value.2
        thenRead.cursor thenRead.lt c4 elseStep.left_lt f failedElse unexpected
      exact (condition_recognized condRead).seq_stuck
        ((statement_recognized thenParsed).thenElse_other elseStep isElse elseStuck) passes_any
  case whileStmt =>
    intro ctx c isWhile bodyIH f failed unexpected
    obtain ⟨kw, c1, kwStep, failedAfter⟩ := statement_eq_error_of_while failed unexpected isWhile
    suffices afterKw : c1.Stuck (Seq Condition Statement) ElseClosed f from
      (kwStep.stuck_seq (kwStep.kind_eq.trans isWhile) afterKw).alternative
        (statement_alternative .whileKw) isWhile
    rcases failedAfter with failedCond | ⟨cond, condRead, failedBody⟩
    · exact (condition_stuck failedCond unexpected).seq hasWord_statement passes_any
    · exact (condition_recognized condRead).seq_stuck
        (bodyIH c1 kwStep.left_lt cond.cursor cond.lt f failedBody unexpected) passes_any
  case forStmt =>
    intro ctx c isFor bodyIH f failed unexpected
    obtain ⟨kw, c1, kwStep, failedAfter⟩ := statement_eq_error_of_for failed unexpected isFor
    suffices afterKw : c1.Stuck (Seq (Tok .lParen) (Seq ForInit ForTail)) ElseClosed f from
      (kwStep.stuck_seq (kwStep.kind_eq.trans isFor) afterKw).alternative
        (statement_alternative .forKw) isFor
    rcases failedAfter with refused | ⟨lp, c2, lpStep, isLp, ctx2, failedInit⟩
    · exact refused.stuck_seq (List.mem_singleton_self _) (hasWord_forInit.seq hasWord_forTail)
    refine lpStep.stuck_seq isLp ?_
    rcases failedInit with ⟨isVar, failedDecl⟩ | ⟨notVar, failedExpr⟩ | ⟨ctx3, c3, initRead,
      failedTail⟩
    · exact ((varDecl_stuck failedDecl unexpected).alternative (forInit_alternative .varKw)
        isVar).seq hasWord_forTail passes_any
    · exact ((exprStatement_stuck failedExpr unexpected).alternative
        (forInit_alternative_expr notVar) rfl).seq hasWord_forTail passes_any
    obtain ⟨initRec, initLt⟩ : c2.Recognized ForInit (fun _ => True) c3 ∧ c3.left < c2.left := by
      rcases initRead with ⟨isVar, d, declRead, rfl⟩ | ⟨notVar, s, exprRead, rfl⟩
      · exact ⟨(varDecl_recognized declRead).alternative (forInit_alternative .varKw) isVar, d.lt⟩
      · exact ⟨(exprStatement_recognized exprRead).alternative (forInit_alternative_expr notVar)
          rfl, s.lt⟩
    refine initRec.seq_stuck ?_ passes_any
    rcases failedTail with failedTest | ⟨test, testRead, refusedSemi | ⟨semi, c5, semiStep, isSemi,
      failedStep | ⟨step, stepRead, refusedRp | ⟨rp, c7, rpStep, isRp, ctx7, failedBody⟩⟩⟩⟩
    · exact (expression_stuck failedTest unexpected).seq
        (hasWord_tok.seq (hasWord_expression.seq (hasWord_tok.seq hasWord_statement)))
        (passes_tok (not_continuesAssign (by decide)))
    · exact (expression_recognized testRead).seq_stuck
        (refusedSemi.stuck_seq (List.mem_singleton_self _)
          (hasWord_expression.seq (hasWord_tok.seq hasWord_statement)))
        (passes_tok (not_continuesAssign (by decide)))
    · exact (expression_recognized testRead).seq_stuck (semiStep.stuck_seq isSemi
        ((expression_stuck failedStep unexpected).seq (hasWord_tok.seq hasWord_statement)
          (passes_tok (not_continuesAssign (by decide)))))
        (passes_tok (not_continuesAssign (by decide)))
    · exact (expression_recognized testRead).seq_stuck (semiStep.stuck_seq isSemi
        ((expression_recognized stepRead).seq_stuck
          (refusedRp.stuck_seq (List.mem_singleton_self _) hasWord_statement)
          (passes_tok (not_continuesAssign (by decide)))))
        (passes_tok (not_continuesAssign (by decide)))
    · have bodyStuck := bodyIH c1 kwStep.left_lt c2 lpStep.left_lt c3 initLt test.cursor test.lt
        c5 semiStep.left_lt step.cursor step.lt c7 rpStep.left_lt ctx7 f failedBody unexpected
      exact (expression_recognized testRead).seq_stuck (semiStep.stuck_seq isSemi
        ((expression_recognized stepRead).seq_stuck (rpStep.stuck_seq isRp bodyStuck)
          (passes_tok (not_continuesAssign (by decide)))))
        (passes_tok (not_continuesAssign (by decide)))
  case var =>
    intro ctx c isVar f failed unexpected
    exact ((varDecl_stuck (statement_eq_error_of_var failed isVar) unexpected).mono
      fun _ _ => trivial).alternative (statement_alternative .varKw) isVar
  case ret =>
    intro ctx c isReturn f failed unexpected
    obtain ⟨kw, c1, kwStep, failedAfter⟩ := statement_eq_error_of_return failed unexpected isReturn
    exact (kwStep.stuck_seq (kwStep.kind_eq.trans isReturn)
      (closed_expression_stuck failedAfter (by decide) unexpected)).alternative
      (statement_alternative .returnKw) isReturn
  case exprStart =>
    intro ctx c _ _ _ _ _ _ start f failed unexpected
    rw [statement_of_exprStart start] at failed
    exact (exprStatement_stuck failed unexpected).alternative (statement_alternative_expr start) rfl
  case other =>
    intro ctx c notBrace notIf notWhile notFor notVar notReturn notExpr f failed unexpected
    have notStart : c.look.kind ∉ statementStart := by
      simp only [statementStart, List.cons_append, List.mem_cons, not_or]
      exact ⟨notBrace, notIf, notWhile, notFor, notVar, notReturn, notExpr⟩
    exact (statement_eq_error_of_not_start failed notStart).stuck_refused hasWord_statement
      fun _ _ => Statement.not_cons notStart
  case block =>
    intro ctx c bodyIH f failed unexpected
    rw [block_eq]
    rcases block_eq_error failed unexpected with refused | ⟨lb, c1, lbStep, isBrace, failedBody |
      ⟨body, bodyRead, refused⟩⟩
    · exact refused.stuck_seq (List.mem_singleton_self _) hasWord_stmtsClose
    · exact lbStep.stuck_seq isBrace (bodyIH c1 lbStep.left_lt ctx.enter.1 f failedBody unexpected)
    · -- the statements stop only before `}`, which is then taken
      exact (refused.1 (List.mem_singleton.2 (blockBody_recognized bodyRead).1)).elim
  case bodyEnd =>
    intro ctx c isClose f failed unexpected
    exact absurd isClose (blockBody_eq_error failed).1
  case bodyMore =>
    intro ctx c notClose stmtIH restIH f failed unexpected
    rcases (blockBody_eq_error failed).2 with failedStmt | ⟨s, stmtRead, failedRest⟩
    · exact (stmtIH f failedStmt unexpected).list_first stmtsClose_closedList notClose
    · exact (statement_recognized stmtRead).list_stuck stmtsClose_closedList
        (restIH s.value.2 s.cursor s.lt f failedRest unexpected)

theorem block_stuck (failed : block ctx c = .error f) (unexpected : f.error.isUnexpected) :
    c.Stuck Grammar.Block (fun _ => True) f :=
  statement_stuck_all.2.1 ctx c f failed unexpected

/-! ## Parameters and declarations -/

theorem params_recognized : ∀ offset ctx c (r : Read c (List EntryId × Context)),
    params offset ctx c = .ok r → c.Recognized ParamsFrom (fun _ => True) r.cursor := by
  refine params.induct _ ?_
  intro offset ctx c restIH r parsed
  rcases params_eq_ok parsed with ⟨name, colon, tyName, sep, c1, c2, c3, c5, ty, id, ctx4,
    nameStep, isName, colonStep, isColon, tyStep, isType, -, -, sepStep, sepListed, more⟩
  refine nameStep.recognized_seq isName (colonStep.recognized_seq isColon
    (tyStep.recognized_seq isType ?_))
  rcases more with ⟨isClose, -, cursorEq⟩ | ⟨notClose, rest, restRead, -, cursorEq⟩
  · rw [cursorEq]
    exact (sepStep.recognized isClose).alternative moreParams_close
      (sepStep.kind_eq.symm.trans isClose)
  · have isComma : sep.kind = .comma := by simpa [notClose] using sepListed
    have restRec := restIH c1 nameStep.left_lt c2 colonStep.left_lt c3 tyStep.left_lt ty ctx4 c5
      sepStep.left_lt rest restRead
    rw [cursorEq]
    exact (sepStep.recognized_seq isComma restRec).alternative moreParams_comma
      (sepStep.kind_eq.symm.trans isComma)

theorem params_stuck (c : Cursor) : ∀ offset ctx f, params offset ctx c = .error f →
    f.error.isUnexpected → c.Stuck ParamsFrom (fun _ => True) f := by
  -- the parameters after a comma are read at another offset and in another context, so the
  -- induction is over the cursor alone
  refine params.induct (motive := fun _ _ c => ∀ offset ctx f, params offset ctx c = .error f →
    f.error.isUnexpected → c.Stuck ParamsFrom (fun _ => True) f) ?_ 0 Context.initial c
  intro _ _ c restIH offset ctx f failed unexpected
  rcases params_eq_error failed unexpected with refused | ⟨name, c1, nameStep, isName, refused |
    ⟨colon, c2, colonStep, isColon, refused | ⟨tyName, c3, tyStep, isType, refused |
      ⟨comma, c5, commaStep, isComma, offset', ctx', failedRest⟩⟩⟩⟩
  · exact refused.stuck_seq (List.mem_singleton_self _)
      (hasWord_tok.seq (hasWord_tok.seq hasWord_moreParams))
  · exact nameStep.stuck_seq isName
      (refused.stuck_seq (List.mem_singleton_self _) (hasWord_tok.seq hasWord_moreParams))
  · exact nameStep.stuck_seq isName (colonStep.stuck_seq isColon
      (refused.stuck_seq (List.mem_singleton_self _) hasWord_moreParams))
  · refine nameStep.stuck_seq isName (colonStep.stuck_seq isColon (tyStep.stuck_seq isType ?_))
    refine refused.stuck_refused hasWord_moreParams fun s y derived => refused.1 ?_
    rcases moreParams_iff.1 derived with closes | ⟨w₁, opens, -⟩
    · simp [(tok_cons_iff.1 closes).1]
    · simp [(tok_cons_iff.1 opens).1]
  · have restStuck := restIH c1 nameStep.left_lt c2 colonStep.left_lt c3 tyStep.left_lt ⟨0⟩ ctx c5
      commaStep.left_lt offset' ctx' f failedRest unexpected
    exact nameStep.stuck_seq isName (colonStep.stuck_seq isColon (tyStep.stuck_seq isType
      ((commaStep.stuck_seq isComma restStuck).alternative moreParams_comma
        (commaStep.kind_eq.symm.trans isComma))))

theorem paramList_recognized {r : Read c (List EntryId × Context)}
    (parsed : paramList ctx c = .ok r) : c.Recognized ParamList (fun _ => True) r.cursor := by
  rcases paramList_eq_ok parsed with ⟨lp, c1, lpStep, isLp, ⟨rp, rpStep, isRp, -⟩ |
    ⟨notClose, ps, psRead, -, cursorEq⟩⟩
  · exact lpStep.recognized_seq isLp ((rpStep.recognized isRp).alternative paramsClose_close
      (rpStep.kind_eq.symm.trans isRp))
  · rw [cursorEq]
    exact lpStep.recognized_seq isLp ((params_recognized 0 ctx c1 ps psRead).alternative
      (paramsClose_params notClose) rfl)

theorem paramList_stuck (failed : paramList ctx c = .error f) (unexpected : f.error.isUnexpected) :
    c.Stuck ParamList (fun _ => True) f := by
  rcases paramList_eq_error failed unexpected with refused | ⟨lp, c1, lpStep, isLp, notClose,
    failedParams⟩
  · exact refused.stuck_seq (List.mem_singleton_self _) hasWord_paramsClose
  · exact lpStep.stuck_seq isLp ((params_stuck c1 0 ctx f failedParams unexpected).alternative
      (paramsClose_params notClose) rfl)

theorem funcDef_recognized {index : Nat} {r : Read c (FuncDef × Context)}
    (parsed : funcDef index ctx c = .ok r) : c.Recognized Grammar.FuncDef (fun _ => True) r.cursor := by
  rcases funcDef_eq_ok parsed with ⟨name, c1, ps, body, -, -, nameStep, isName, psRead, bodyRead, -,
    -, -, cursorEq⟩
  rw [cursorEq]
  exact nameStep.recognized_seq isName
    ((paramList_recognized psRead).seq (block_recognized bodyRead) passes_any)

theorem funcDef_stuck {index : Nat} (failed : funcDef index ctx c = .error f)
    (unexpected : f.error.isUnexpected) : c.Stuck Grammar.FuncDef (fun _ => True) f := by
  rcases funcDef_eq_error failed unexpected with refused | ⟨name, c1, nameStep, isName,
    failedParams | ⟨ps, psRead, failedBody⟩⟩
  · exact refused.stuck_seq (List.mem_singleton_self _)
      ((hasWord_tok.seq hasWord_paramsClose).seq hasWord_block)
  · exact nameStep.stuck_seq isName
      ((paramList_stuck failedParams unexpected).seq hasWord_block passes_any)
  · exact nameStep.stuck_seq isName
      ((paramList_recognized psRead).seq_stuck (block_stuck failedBody unexpected) passes_any)

theorem declaration_recognized {index : Nat} {r : Read c (Decl × Context)}
    (parsed : declaration index ctx c = .ok r) : c.Recognized Declaration (fun _ => True) r.cursor := by
  rcases declaration_eq_ok parsed with ⟨isVar, d, declRead, -, cursorEq⟩ |
    ⟨isName, g, funcRead, -, cursorEq⟩
  · rw [cursorEq]
    exact (varDecl_recognized declRead).alternative (declaration_alternative .varKw) isVar
  · rw [cursorEq]
    exact (funcDef_recognized funcRead).alternative (declaration_alternative .ident) isName

theorem declaration_stuck {index : Nat} (failed : declaration index ctx c = .error f)
    (unexpected : f.error.isUnexpected) : c.Stuck Declaration (fun _ => True) f := by
  rcases declaration_eq_error failed with ⟨isVar, failedDecl⟩ | ⟨isName, failedFunc⟩ | refused
  · exact (varDecl_stuck failedDecl unexpected).alternative (declaration_alternative .varKw) isVar
  · exact (funcDef_stuck failedFunc unexpected).alternative (declaration_alternative .ident) isName
  · exact refused.stuck_refused hasWord_declaration fun _ _ => Declaration.not_cons refused.1

/-- The declarations read up to the end of input are the elements of a program. -/
theorem declarations_recognized : ∀ index ctx c res, declarations index ctx c = .ok res →
    c.RecognizedUpTo DeclsEnd .eof res.2.2 := by
  refine declarations.induct _ ?atEnd ?more
  case atEnd =>
    intro index ctx c isEnd res parsed
    rcases declarations_eq_ok parsed with ⟨-, rfl⟩ | ⟨notEnd, -⟩
    · exact Cursor.recognizedUpTo_close declsEnd_closedList isEnd
    · exact absurd isEnd notEnd
  case more =>
    intro index ctx c notEnd restIH res parsed
    rcases declarations_eq_ok parsed with ⟨isEnd, -⟩ | ⟨-, d, rest, declRead, restRead, rfl⟩
    · exact absurd isEnd notEnd
    · exact (declaration_recognized declRead).upTo_cons declsEnd_closedList
        (restIH d.value.2 d.cursor d.lt rest restRead)

theorem declarations_stuck : ∀ index ctx c f, declarations index ctx c = .error f →
    f.error.isUnexpected → c.Stuck DeclsEnd (fun _ => True) f := by
  refine declarations.induct _ ?atEnd ?more
  case atEnd =>
    intro index ctx c isEnd f failed unexpected
    exact absurd isEnd (declarations_eq_error failed).1
  case more =>
    intro index ctx c notEnd restIH f failed unexpected
    rcases (declarations_eq_error failed).2 with failedDecl | ⟨d, declRead, failedRest⟩
    · exact (declaration_stuck failedDecl unexpected).list_first declsEnd_closedList notEnd
    · exact (declaration_recognized declRead).list_stuck declsEnd_closedList
        (restIH d.value.2 d.cursor d.lt f failedRest unexpected)

end Parse

/-! ## Programs -/

/-- The first pull leaves to be read the results of the feed up to its first end of input. -/
theorem Cursor.start_ahead {f : Feed} {c : Cursor} (started : Cursor.start f = .ok c) :
    c.ahead = Feed.untilEof f.last f.pending := by
  obtain ⟨pending, last⟩ := f
  cases pending with
  | nil =>
      simp only [Cursor.start, Feed.pull, Except.ok.injEq] at started
      subst started
      simp [Cursor.ahead, Feed.untilEof, Token.eofAt]
  | cons x xs =>
      cases x with
      | error e => simp [Cursor.start, Feed.pull] at started
      | ok t =>
          simp only [Cursor.start, Feed.pull, Except.ok.injEq] at started
          subst started
          by_cases isEnd : t.kind = .eof <;> simp [Cursor.ahead, Feed.untilEof, isEnd]

/-- A reading that stops at an unexpected token stops in its declarations. -/
theorem Program.read_eq_error {f : Feed} {e : ParseError}
    (failed : (Program.read f).result = .error e) (unexpected : e.isUnexpected) :
    ∃ c fl, Cursor.start f = .ok c ∧
      Parse.declarations 0 (Context.builtin c.look.loc) c = .error fl ∧ fl.error = e := by
  unfold Program.read at failed
  split at failed
  · -- the first pull fails only with a scanning error
    rename_i fl started
    cases failed
    unfold Cursor.start at started
    split at started <;> cases started
    simp [ParseError.isUnexpected] at unexpected
  · rename_i c started
    dsimp only at failed
    split at failed
    · cases failed
    · rename_i fl declsFailed
      cases failed
      exact ⟨c, fl, started, declsFailed, rfl⟩

/-- The results of a list of tokens that start with given results and a token. -/
theorem eq_append_cons_of_map_ok {ts before : List Token} {t : Token}
    {after : List (Except LexError Token)} (same : ts.map .ok = before.map .ok ++ .ok t :: after) :
    ∃ s, ts = before ++ t :: s := by
  obtain ⟨l₁, l₂, rfl, firstPart, secondPart⟩ := List.map_eq_append_iff.1 same
  obtain ⟨t', s, rfl, isOk, -⟩ := List.map_eq_cons_iff.1 secondPart
  have sameFirst : l₁ = before :=
    List.map_injective_iff.2 (fun _ _ sameOk => Except.ok.inj sameOk) firstPart
  cases isOk
  exact ⟨s, by rw [sameFirst]⟩

/-- What the reader reads is a program of the grammar, up to its end of input. -/
theorem Program.read_program {f : Feed} {p : Program} (parsed : (Program.read f).result = .ok p) :
    ∃ ts, Feed.untilEof f.last f.pending = ts.map .ok ∧ Grammar.Program ts := by
  obtain ⟨c, decls, ctx, c', started, declsRead, -⟩ := Program.read_eq_ok parsed
  obtain ⟨isEnd, u, consumed, accepts⟩ := Parse.declarations_recognized 0 _ c _ declsRead
  dsimp only at isEnd consumed accepts
  refine ⟨u ++ [c'.look], ?_, program_iff.2 (by simpa using (accepts c'.look).derives [])⟩
  rw [← Cursor.start_ahead started, consumed]
  simp [Cursor.ahead, isEnd]

/--
Where the reader stops at an unexpected token, the tokens before it start a program, and no
program goes on with that token.
-/
theorem Program.read_stuck {f : Feed} {found : TokenKind} {lexeme : String}
    {expected : List TokenKind} {loc : Location}
    (failed : (Program.read f).result = .error (.unexpectedToken found lexeme expected loc)) :
    ∃ before after, Feed.untilEof f.last f.pending =
        before.map .ok ++ .ok ⟨found, lexeme, loc⟩ :: after ∧
      (∃ x, Grammar.Program (before ++ x)) ∧
      ∀ s, ¬Grammar.Program (before ++ ⟨found, lexeme, loc⟩ :: s) := by
  obtain ⟨c, fl, started, declsFailed, sameError⟩ := Program.read_eq_error failed rfl
  obtain ⟨p, t, ⟨⟨rest, ahead⟩, expected', tokenError⟩, rejects⟩ :=
    Parse.declarations_stuck 0 _ c fl declsFailed (by rw [sameError]; rfl)
  have sameToken : t = ⟨found, lexeme, loc⟩ := by
    rw [sameError] at tokenError
    cases tokenError
    rfl
  subst sameToken
  refine ⟨p, rest, by rw [← Cursor.start_ahead started, ahead], ?_, fun s derived => ?_⟩
  · obtain ⟨x, derived⟩ := rejects.viable
    exact ⟨x, program_iff.2 (by simpa using derived [])⟩
  · exact rejects.blocked (fun y => y = []) trivial s [] (program_iff.1 derived) rfl

/--
The reader accepts exactly the programs of the grammar, on the tokens up to the first end of
input. What it reads is a program; on a program it never stops at an unexpected token, though it
may still stop at a name, a type, a literal or a scanning error; and where it stops at an
unexpected token, the tokens before it start a program and no program goes on with that token.
-/
theorem Program.read_recognizes (f : Feed) :
    (∀ p, (Program.read f).result = .ok p →
      ∃ ts, Feed.untilEof f.last f.pending = ts.map .ok ∧ Grammar.Program ts) ∧
    (∀ ts, Feed.untilEof f.last f.pending = ts.map .ok → Grammar.Program ts →
      ∀ found lexeme expected loc,
        (Program.read f).result ≠ .error (.unexpectedToken found lexeme expected loc)) ∧
    (∀ found lexeme expected loc,
      (Program.read f).result = .error (.unexpectedToken found lexeme expected loc) →
      ∃ before after, Feed.untilEof f.last f.pending =
          before.map .ok ++ .ok ⟨found, lexeme, loc⟩ :: after ∧
        (∃ x, Grammar.Program (before ++ x)) ∧
        ∀ s, ¬Grammar.Program (before ++ ⟨found, lexeme, loc⟩ :: s)) := by
  refine ⟨fun _ parsed => Program.read_program parsed, ?_, fun _ _ _ _ failed =>
    Program.read_stuck failed⟩
  intro ts tokens derived found lexeme expected loc failed
  obtain ⟨before, after, tokensAt, -, blocked⟩ := Program.read_stuck failed
  rw [tokens] at tokensAt
  obtain ⟨s, rfl⟩ := eq_append_cons_of_map_ok tokensAt
  exact blocked s derived

/-- A stray `)` is refused at once: no program starts with it. -/
theorem Program.read_stray_paren :
    ∃ before after, Feed.untilEof ⟨1, 2⟩ [.ok ⟨.rParen, ")", ⟨1, 1⟩⟩] =
        before.map .ok ++ .ok ⟨.rParen, ")", ⟨1, 1⟩⟩ :: after ∧
      (∃ x, Grammar.Program (before ++ x)) ∧
      ∀ s, ¬Grammar.Program (before ++ ⟨.rParen, ")", ⟨1, 1⟩⟩ :: s) :=
  (Program.read_recognizes ⟨[.ok ⟨.rParen, ")", ⟨1, 1⟩⟩], ⟨1, 2⟩⟩).2.2 .rParen ")"
    [.varKw, .ident] ⟨1, 1⟩ (by
      simp only [Program.read, Cursor.start, Feed.pull]
      rw [Parse.declarations]
      simp [Parse.declaration, Cursor.fail, Cursor.unexpected, bind, Except.bind, throw, throwThe,
        MonadExceptOf.throw])

end ImpFront
