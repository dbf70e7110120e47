import ImpFront.Proofs.Prefix.Cut
import ImpFront.Proofs.Scanning.Layout

/-!
# Where return types come from

A function's return type is read off the returns of its body (`Block.returns`). This module
says which returns those are and what is made of them:

* they are the `return` statements of the body at every depth, in pre-order
  (`Stmt.returns_eq_preorder`);
* reading a body takes one `return` keyword for each of them, in the same order, and no other
  (`Parse.statement_passesReturns_all`), so that in a program read from text they stand at
  increasing positions, those inside the body of a `for` loop included
  (`Program.ofSource_returns_increase`);
* the type is the one all of them have, there is none without a return, and otherwise the
  first return whose type differs from the first one's is reported
  (`resolveReturnType_eq_ok_iff`, `resolveReturnType_eq_missing_iff`,
  `resolveReturnType_eq_inconsistent_iff`), at the function's name or at that return.

The keywords taken are counted through `Cursor.PassesReturns`: a reading took tokens whose
`return` keywords stand at the given locations. Expressions hold none, which follows from
their grammar (`Grammar.Assign.returnFree`).
-/

namespace ImpFront

/-! ## Returns in pre-order -/

mutual

/-- A statement and the statements inside it, in pre-order: each before what it holds, the
statements it holds from left to right. -/
def Stmt.preorder : Stmt → List Stmt
  | .block scope stmts loc => .block scope stmts loc :: Stmt.preorderOfList stmts
  | .ifElse cond thenBranch elseBranch loc =>
      .ifElse cond thenBranch elseBranch loc ::
        (thenBranch.preorder ++ Stmt.preorderOfOption elseBranch)
  | .whileLoop cond body loc => .whileLoop cond body loc :: body.preorder
  | .ret value loc => [.ret value loc]
  | .expr value loc => [.expr value loc]
  | .varDecl d => [.varDecl d]

/-- Statements and the statements inside them, in pre-order. -/
def Stmt.preorderOfList : List Stmt → List Stmt
  | [] => []
  | s :: rest => s.preorder ++ Stmt.preorderOfList rest

/-- An optional statement and the statements inside it, in pre-order. -/
def Stmt.preorderOfOption : Option Stmt → List Stmt
  | none => []
  | some s => s.preorder

end

/-- The type of the value and the location of a statement that is a return. -/
def Stmt.returnOf? : Stmt → Option (EntryId × Location)
  | .ret value loc => some (value.ty, loc)
  | _ => none

mutual

/-- The returns of a statement are its `return` statements at every depth, in pre-order. -/
theorem Stmt.returns_eq_preorder :
    ∀ s : Stmt, s.returns = s.preorder.filterMap Stmt.returnOf?
  | .block _ stmts _ => by
      simp [Stmt.returns, Stmt.preorder, List.filterMap_cons, Stmt.returnOf?,
        Stmt.returnsOfList_eq_preorder stmts]
  | .ifElse _ thenBranch elseBranch _ => by
      simp [Stmt.returns, Stmt.preorder, List.filterMap_cons, Stmt.returnOf?,
        Stmt.returns_eq_preorder thenBranch, Stmt.returnsOfOption_eq_preorder elseBranch]
  | .whileLoop _ body _ => by
      simp [Stmt.returns, Stmt.preorder, List.filterMap_cons, Stmt.returnOf?,
        Stmt.returns_eq_preorder body]
  | .ret .. => rfl
  | .expr .. => rfl
  | .varDecl _ => rfl

theorem Stmt.returnsOfList_eq_preorder :
    ∀ stmts : List Stmt, Stmt.returnsOfList stmts = (Stmt.preorderOfList stmts).filterMap Stmt.returnOf?
  | [] => rfl
  | s :: rest => by
      simp [Stmt.returnsOfList, Stmt.preorderOfList, Stmt.returns_eq_preorder s,
        Stmt.returnsOfList_eq_preorder rest]

theorem Stmt.returnsOfOption_eq_preorder :
    ∀ x : Option Stmt, Stmt.returnsOfOption x = (Stmt.preorderOfOption x).filterMap Stmt.returnOf?
  | none => rfl
  | some s => Stmt.returns_eq_preorder s

end

/-- The returns of a block are its `return` statements at every depth, in pre-order. -/
theorem Block.returns_eq_preorder (b : Block) :
    b.returns = b.toStmt.preorder.filterMap Stmt.returnOf? :=
  Stmt.returns_eq_preorder b.toStmt

/-! ## Resolving the return type -/

/-- The type is the one every return has, when there is one. -/
theorem resolveReturnType_eq_ok_iff {rs : List (EntryId × Location)} {ty : EntryId} :
    resolveReturnType rs = .ok ty ↔ rs ≠ [] ∧ ∀ r ∈ rs, r.1 = ty := by
  cases rs with
  | nil => simp [resolveReturnType]
  | cons first rest =>
    obtain ⟨ty₀, loc₀⟩ := first
    simp only [resolveReturnType, ne_eq, reduceCtorEq, not_false_eq_true, List.mem_cons,
      forall_eq_or_imp, true_and]
    cases found : rest.find? (·.1 != ty₀) with
    | some r =>
      have differs : r.1 ≠ ty₀ := by simpa using List.find?_some found
      have listed := List.mem_of_find?_eq_some found
      simp only [reduceCtorEq, false_iff, not_and]
      intro first all
      exact differs ((all r listed).trans first.symm)
    | none =>
      have agree : ∀ r ∈ rest, r.1 = ty₀ := by simpa using List.find?_eq_none.1 found
      simp only [Except.ok.injEq]
      constructor
      · rintro rfl
        exact ⟨rfl, agree⟩
      · rintro ⟨rfl, -⟩
        rfl

/-- There is no type exactly when there is no return. -/
theorem resolveReturnType_eq_missing_iff {rs : List (EntryId × Location)} :
    resolveReturnType rs = .error .missing ↔ rs = [] := by
  cases rs with
  | nil => simp [resolveReturnType]
  | cons first rest =>
    simp only [resolveReturnType, reduceCtorEq, iff_false]
    split <;> simp

/--
The return reported is the first whose type differs from the first return's: all those before
it have the first one's type.
-/
theorem resolveReturnType_eq_inconsistent_iff {rs : List (EntryId × Location)} {loc : Location} :
    resolveReturnType rs = .error (.inconsistent loc) ↔
      ∃ ty₀ loc₀ agreeing ty later, rs = (ty₀, loc₀) :: (agreeing ++ (ty, loc) :: later) ∧
        (∀ r ∈ agreeing, r.1 = ty₀) ∧ ty ≠ ty₀ := by
  cases rs with
  | nil => simp [resolveReturnType]
  | cons first rest =>
    obtain ⟨ty₀, loc₀⟩ := first
    simp only [resolveReturnType, List.cons.injEq, Prod.mk.injEq]
    constructor
    · intro reported
      split at reported
      · rename_i ty loc' found
        cases reported
        obtain ⟨differs, agreeing, later, split, before⟩ := List.find?_eq_some_iff_append.1 found
        refine ⟨ty₀, loc₀, agreeing, ty, later, ⟨⟨rfl, rfl⟩, split⟩, ?_, by simpa using differs⟩
        intro x listed
        simpa using before x listed
      · cases reported
    · rintro ⟨_, _, agreeing, ty, later, ⟨⟨rfl, rfl⟩, rfl⟩, before, differs⟩
      have found : (agreeing ++ (ty, loc) :: later).find? (·.1 != ty₀) = some (ty, loc) :=
        List.find?_eq_some_iff_append.2
          ⟨by simpa using differs, agreeing, later, rfl, fun x listed => by simp [before x listed]⟩
      rw [found]

/-! ## The `return` keywords a reading takes -/

/-- The locations of the `return` keywords among tokens, in order. -/
def Token.returnLocs (u : List Token) : List Location :=
  (u.filter (·.kind == .returnKw)).map Token.loc

@[simp]
theorem Token.returnLocs_nil : Token.returnLocs [] = [] := rfl

@[simp]
theorem Token.returnLocs_append (u v : List Token) :
    Token.returnLocs (u ++ v) = Token.returnLocs u ++ Token.returnLocs v := by
  simp [Token.returnLocs]

@[simp]
theorem Token.returnLocs_cons (t : Token) (u : List Token) :
    Token.returnLocs (t :: u) =
      if t.kind = .returnKw then t.loc :: Token.returnLocs u else Token.returnLocs u := by
  by_cases isReturn : t.kind = .returnKw <;> simp [Token.returnLocs, isReturn]

namespace Grammar

/-- None of the tokens that `w` holds before `y` is a `return`. -/
def ReturnFree (w y : List Token) : Prop := ∃ v, w = v ++ y ∧ Token.returnLocs v = []

theorem ReturnFree.refl (w : List Token) : ReturnFree w w := ⟨[], rfl, rfl⟩

theorem ReturnFree.trans {w w₁ y : List Token} (first : ReturnFree w w₁) (second : ReturnFree w₁ y) :
    ReturnFree w y := by
  obtain ⟨v₁, rfl, none₁⟩ := first
  obtain ⟨v₂, rfl, none₂⟩ := second
  exact ⟨v₁ ++ v₂, by simp, by simp [none₁, none₂]⟩

theorem ReturnFree.cons {w y : List Token} {t : Token} (split : w = t :: y)
    (notReturn : t.kind ≠ .returnKw) : ReturnFree w y :=
  ⟨[t], split, by simp [notReturn]⟩

theorem ReturnFree.tok {k : TokenKind} {w y : List Token} (taken : Tok k w y)
    (notReturn : k ≠ .returnKw) : ReturnFree w y := by
  obtain ⟨t, split, isKind⟩ := taken
  exact .cons split (isKind ▸ notReturn)

/-- No operator of a level is a `return`. -/
theorem ne_returnKw_of_mem {k : TokenKind} {op : BinOp} {n : Nat} (listed : (k, op) ∈ levelOps n) :
    k ≠ .returnKw := by
  rintro rfl
  have level := levelOf_of_mem listed
  simp only [levelOf] at level
  subst level
  simp [levelOps] at listed

mutual

/-- An expression holds no `return`. -/
theorem Assign.returnFree {w y : List Token} {a : Ast} : Assign w y a → ReturnFree w y
  | .plain level => level.returnFree
  | .assign level split isEq rest =>
      level.returnFree.trans ((ReturnFree.cons split (by rw [isEq]; decide)).trans rest.returnFree)

theorem Level.returnFree {n : Nat} {w y : List Token} {a : Ast} : Level n w y a → ReturnFree w y
  | .primary primary => primary.returnFree
  | .operand operand tail => operand.returnFree.trans tail.returnFree

theorem Tail.returnFree {n : Nat} {acc : Ast} {w y : List Token} {b : Ast} :
    Tail n acc w y b → ReturnFree w y
  | .done => .refl _
  | .more split listed operand tail =>
      (ReturnFree.cons split (ne_returnKw_of_mem listed)).trans
        (operand.returnFree.trans tail.returnFree)

theorem Primary.returnFree {w y : List Token} {a : Ast} : Primary w y a → ReturnFree w y
  | .lit split isLit => .cons split (by
      simp only [literalKinds, List.mem_cons, List.not_mem_nil, or_false] at isLit
      rcases isLit with kind | kind | kind | kind <;> rw [kind] <;> decide)
  | .var split isName => .cons split (by rw [isName]; decide)
  | .call split isName opens args closes =>
      (ReturnFree.cons split (by rw [isName]; decide)).trans ((ReturnFree.tok opens (by decide)).trans
        (args.returnFree.trans (ReturnFree.tok closes (by decide))))
  | .paren opens inner closes =>
      (ReturnFree.tok opens (by decide)).trans (inner.returnFree.trans (ReturnFree.tok closes (by decide)))

theorem Args.returnFree {w y : List Token} {as : List Ast} : Args w y as → ReturnFree w y
  | .none => .refl _
  | .some first rest => first.returnFree.trans rest.returnFree

theorem ArgsTail.returnFree {w y : List Token} {as : List Ast} : ArgsTail w y as → ReturnFree w y
  | .done => .refl _
  | .more sep next rest =>
      (sep.elim (fun comma => ReturnFree.tok comma (by decide))
        (fun semi => ReturnFree.tok semi (by decide))).trans (next.returnFree.trans rest.returnFree)

end

end Grammar

namespace Cursor

variable {c c' c₁ c₂ : Cursor} {t : Token} {locs locs₁ locs₂ : List Location}

/-- Reading from `c` up to `c'` took tokens whose `return` keywords stand at `locs`, in order. -/
def PassesReturns (c : Cursor) (locs : List Location) (c' : Cursor) : Prop :=
  ∃ u, c.Consumed u c' ∧ Token.returnLocs u = locs

theorem PassesReturns.refl (c : Cursor) : c.PassesReturns [] c := ⟨[], Consumed.refl c, rfl⟩

theorem PassesReturns.trans (first : c.PassesReturns locs₁ c₁) (second : c₁.PassesReturns locs₂ c₂) :
    c.PassesReturns (locs₁ ++ locs₂) c₂ := by
  obtain ⟨u₁, consumed₁, rfl⟩ := first
  obtain ⟨u₂, consumed₂, rfl⟩ := second
  exact ⟨u₁ ++ u₂, consumed₁.trans consumed₂, Token.returnLocs_append u₁ u₂⟩

theorem PassesReturns.congr (passes : c.PassesReturns locs₁ c') (same : locs₁ = locs₂) :
    c.PassesReturns locs₂ c' :=
  same ▸ passes

theorem Takes.passesReturns (taken : c.Takes t c') : c.PassesReturns (Token.returnLocs [t]) c' :=
  ⟨[t], taken.consumed, rfl⟩

/-- A token other than `return` is taken without passing one. -/
theorem Takes.passesNoReturn (taken : c.Takes t c') (notReturn : t.kind ≠ .returnKw) :
    c.PassesReturns [] c' :=
  taken.passesReturns.congr (by simp [notReturn])

end Cursor

namespace Parse

variable {ctx : Context} {c : Cursor}

open Cursor

theorem expression_passesReturns {r : Read c Expr} (parsed : expression ctx c = .ok r) :
    c.PassesReturns [] r.cursor := by
  obtain ⟨u, consumed, munches⟩ := expression_munches parsed
  obtain ⟨v, split, none⟩ := (munches.derives []).returnFree
  rw [List.append_nil, List.append_nil] at split
  exact ⟨u, consumed, split ▸ none⟩

theorem condition_passesReturns {r : Read c Expr} (parsed : condition ctx c = .ok r) :
    c.PassesReturns [] r.cursor := by
  obtain ⟨lp, rp, c1, cond, lpStep, isLp, condRead, -, rpStep, isRp, -⟩ := condition_eq_ok parsed
  exact ((lpStep.passesNoReturn (by rw [isLp]; decide)).trans
    ((expression_passesReturns condRead).trans (rpStep.passesNoReturn (by rw [isRp]; decide))))

theorem varDecl_passesReturns {r : Read c (VarDecl × Context)} (parsed : varDecl ctx c = .ok r) :
    c.PassesReturns [] r.cursor := by
  obtain ⟨kw, name, eqTok, semi, c1, c2, c3, init, id, kwStep, isVar, nameStep, isName, eqStep,
    isEq, initRead, semiStep, isSemi, -, -⟩ := varDecl_eq_ok parsed
  exact (kwStep.passesNoReturn (by rw [isVar]; decide)).trans
    ((nameStep.passesNoReturn (by rw [isName]; decide)).trans
      ((eqStep.passesNoReturn (by rw [isEq]; decide)).trans
        ((expression_passesReturns initRead).trans (semiStep.passesNoReturn (by rw [isSemi]; decide)))))

theorem exprStatement_passesReturns {r : Read c (Stmt × Context)}
    (parsed : exprStatement ctx c = .ok r) :
    r.value.1.returns = [] ∧ c.PassesReturns [] r.cursor := by
  obtain ⟨e, semi, exprRead, semiStep, isSemi, valueEq⟩ := exprStatement_eq_ok parsed
  rw [valueEq]
  exact ⟨rfl, (expression_passesReturns exprRead).trans
    (semiStep.passesNoReturn (by rw [isSemi]; decide))⟩

/--
Reading a statement, a block or the statements of a block takes one `return` keyword for each
of their returns, at its location and in the same order, and no other: a `return` statement
takes its own, and every other statement those of the statements it holds, in the order it
holds them. A `for` loop reads its step before its body but puts it after, which changes
nothing, as the step is an expression.
-/
theorem statement_passesReturns_all :
    (∀ ctx c (r : Read c (Stmt × Context)), statement ctx c = .ok r →
      c.PassesReturns (r.value.1.returns.map Prod.snd) r.cursor) ∧
    (∀ ctx c (r : Read c (Block × Context)), block ctx c = .ok r →
      c.PassesReturns (r.value.1.returns.map Prod.snd) r.cursor) ∧
    (∀ ctx c res, blockBody ctx c = .ok res →
      c.PassesReturns ((Stmt.returnsOfList res.1).map Prod.snd) res.2.2.1) := by
  refine statement.mutual_induct _ _ _ ?lBrace ?ifStmt ?whileStmt ?forStmt ?var ?ret ?exprStart
    ?other ?block ?bodyEnd ?bodyMore
  case lBrace =>
    intro ctx c isBrace blockIH r parsed
    rcases statement_eq_ok_of_lBrace parsed isBrace with ⟨b, blockRead, valueEq, cursorEq⟩
    rw [valueEq, cursorEq]
    exact blockIH b blockRead
  case ifStmt =>
    intro ctx c isIf thenIH elseIH r parsed
    rcases statement_eq_ok_of_if parsed isIf with ⟨kw, c1, cond, thenRead, kwStep, condRead,
      thenParsed, branches⟩
    have upToBranch := (kwStep.passesNoReturn (by rw [kwStep.kind_eq, isIf]; decide)).trans
      (condition_passesReturns condRead)
    have thenPasses := thenIH c1 kwStep.left_lt cond.cursor cond.lt thenRead thenParsed
    rcases branches with ⟨-, valueEq, cursorEq⟩ | ⟨elseTok, c4, elseRead, elseStep, isElse,
      elseParsed, valueEq, cursorEq⟩
    · rw [valueEq, cursorEq]
      exact (upToBranch.trans thenPasses).congr (by simp [Stmt.returns, Stmt.returnsOfOption])
    · have elsePasses := elseIH c1 kwStep.left_lt cond.cursor cond.lt thenRead.value.2
        thenRead.cursor thenRead.lt c4 elseStep.left_lt elseRead elseParsed
      rw [valueEq, cursorEq]
      exact (upToBranch.trans (thenPasses.trans ((elseStep.passesNoReturn
        (by rw [isElse]; decide)).trans elsePasses))).congr
        (by simp [Stmt.returns, Stmt.returnsOfOption])
  case whileStmt =>
    intro ctx c isWhile bodyIH r parsed
    rcases statement_eq_ok_of_while parsed isWhile with ⟨kw, c1, cond, body, kwStep, condRead,
      bodyParsed, valueEq, cursorEq⟩
    have bodyPasses := bodyIH c1 kwStep.left_lt cond.cursor cond.lt body bodyParsed
    rw [valueEq, cursorEq]
    exact ((kwStep.passesNoReturn (by rw [kwStep.kind_eq, isWhile]; decide)).trans
      ((condition_passesReturns condRead).trans bodyPasses)).congr (by simp [Stmt.returns])
  case forStmt =>
    intro ctx c isFor bodyIH r parsed
    rcases statement_eq_ok_of_for parsed isFor with ⟨kw, lp, semi, rp, c1, c2, c5, c7, init, test,
      step, body, kwStep, lpStep, isLp, initParsed, testRead, -, semiStep, isSemi, stepRead,
      rpStep, isRp, bodyParsed, valueEq, cursorEq⟩
    -- the first statement is a declaration or an expression statement: it holds no return
    have initPasses : init.value.1.returns = [] ∧ c2.PassesReturns [] init.cursor := by
      rcases initParsed with ⟨-, d, declRead, initEq, initCursor⟩ | ⟨-, exprRead⟩
      · rw [initEq, initCursor]
        exact ⟨rfl, varDecl_passesReturns declRead⟩
      · exact exprStatement_passesReturns exprRead
    have bodyPasses := bodyIH c1 kwStep.left_lt c2 lpStep.left_lt init.cursor init.lt test.cursor
      test.lt c5 semiStep.left_lt step.cursor step.lt c7 rpStep.left_lt init.value.2.enter.1 body
      bodyParsed
    have header := (kwStep.passesNoReturn (by rw [kwStep.kind_eq, isFor]; decide)).trans
      ((lpStep.passesNoReturn (by rw [isLp]; decide)).trans (initPasses.2.trans
        ((expression_passesReturns testRead).trans ((semiStep.passesNoReturn
          (by rw [isSemi]; decide)).trans ((expression_passesReturns stepRead).trans
            (rpStep.passesNoReturn (by rw [isRp]; decide)))))))
    rw [valueEq, cursorEq]
    exact (header.trans bodyPasses).congr
      (by simp [Stmt.returns, Stmt.returnsOfList, initPasses.1])
  case var =>
    intro ctx c isVar r parsed
    rcases statement_eq_ok_of_var parsed isVar with ⟨d, declRead, valueEq, cursorEq⟩
    rw [valueEq, cursorEq]
    exact varDecl_passesReturns declRead
  case ret =>
    intro ctx c isReturn r parsed
    rcases statement_eq_ok_of_return parsed isReturn with ⟨kw, semi, c1, value, kwStep, valueRead,
      semiStep, isSemi, valueEq⟩
    rw [valueEq]
    exact (kwStep.passesReturns.trans ((expression_passesReturns valueRead).trans
      (semiStep.passesNoReturn (by rw [isSemi]; decide)))).congr
      (by simp [Stmt.returns, kwStep.kind_eq, isReturn])
  case exprStart =>
    intro ctx c _ _ _ _ _ _ start r parsed
    rw [statement_of_exprStart start] at parsed
    obtain ⟨none, passes⟩ := exprStatement_passesReturns parsed
    rw [none]
    exact passes
  case other =>
    intro ctx c _ _ _ _ _ _ notStart r parsed
    have start := statement_start parsed
    simp_all [statementStart]
  case block =>
    intro ctx c bodyIH r parsed
    rcases block_eq_ok parsed with ⟨lb, rb, c1, body, lbStep, isBrace, bodyRead, rbStep, isClose,
      valueEq⟩
    rw [valueEq]
    exact ((lbStep.passesNoReturn (by rw [isBrace]; decide)).trans
      ((bodyIH c1 lbStep.left_lt ctx.enter.1 body bodyRead).trans
        (rbStep.passesNoReturn (by rw [isClose]; decide)))).congr (by simp [Block.returns])
  case bodyEnd =>
    intro ctx c isClose res parsed
    rcases blockBody_eq_ok parsed with ⟨-, stmtsEq, -, cursorEq⟩ | ⟨notClose, -⟩
    · rw [stmtsEq, cursorEq]
      exact .refl c
    · exact absurd isClose notClose
  case bodyMore =>
    intro ctx c notClose stmtIH restIH res parsed
    rcases blockBody_eq_ok parsed with ⟨isClose, -⟩ | ⟨-, s, rest, stmtRead, restRead, stmtsEq,
      -, cursorEq⟩
    · exact absurd isClose notClose
    · rw [stmtsEq, cursorEq]
      exact ((stmtIH s stmtRead).trans (restIH s.value.2 s.cursor s.lt rest restRead)).congr
        (by simp [Stmt.returnsOfList])

theorem block_passesReturns {r : Read c (Block × Context)} (parsed : block ctx c = .ok r) :
    c.PassesReturns (r.value.1.returns.map Prod.snd) r.cursor :=
  statement_passesReturns_all.2.1 ctx c r parsed

/-! ## Functions -/

/-- A declaration takes the `return` keywords of the body of the function it defines, in order. -/
theorem declaration_returns {index : Nat} {r : Read c (Decl × Context)}
    (parsed : declaration index ctx c = .ok r) :
    ∃ u, c.Consumed u r.cursor ∧
      ∀ f, r.value.1 = .func f → (f.body.returns.map Prod.snd).Sublist (Token.returnLocs u) := by
  rcases declaration_eq_ok parsed with ⟨-, d, varRead, valueEq, cursorEq⟩ |
    ⟨-, g, funcRead, valueEq, cursorEq⟩
  · obtain ⟨u, consumed, -⟩ := varDecl_recognized varRead
    rw [valueEq, cursorEq]
    exact ⟨u, consumed, fun f isFunc => by cases isFunc⟩
  · obtain ⟨name, c1, ps, body, returnType, entry, nameStep, -, psRead, bodyRead, -, -, funcEq,
      funcCursor⟩ := funcDef_eq_ok funcRead
    obtain ⟨pu, psConsumed, -⟩ := paramList_recognized psRead
    obtain ⟨bu, bodyConsumed, bodyLocs⟩ := block_passesReturns bodyRead
    refine ⟨name :: pu ++ bu, ?_, fun f isFunc => ?_⟩
    · rw [cursorEq, funcCursor]
      exact nameStep.cons (psConsumed.trans bodyConsumed)
    · rw [valueEq] at isFunc
      obtain rfl := Decl.func.inj isFunc
      rw [funcEq, ← bodyLocs, Token.returnLocs_append]
      exact List.sublist_append_right _ _

/--
The tokens the declaration reader takes hold the `return` keywords of the body of every function
it reads, each body's in order.
-/
theorem declarations_returns : ∀ index ctx c res, declarations index ctx c = .ok res →
    ∃ u, c.Consumed u res.2.2 ∧
      ∀ f, .func f ∈ res.1 → (f.body.returns.map Prod.snd).Sublist (Token.returnLocs u) := by
  refine declarations.induct _ ?atEnd ?more
  case atEnd =>
    intro index ctx c isEnd res parsed
    rcases declarations_eq_ok parsed with ⟨-, resEq⟩ | ⟨notEnd, -⟩
    · rw [resEq]
      exact ⟨[], Consumed.refl c, fun f listed => by cases listed⟩
    · exact absurd isEnd notEnd
  case more =>
    intro index ctx c notEnd restIH res parsed
    rcases declarations_eq_ok parsed with ⟨isEnd, -⟩ | ⟨-, d, rest, declRead, restRead, resEq⟩
    · exact absurd isEnd notEnd
    · obtain ⟨u₁, consumed₁, here⟩ := declaration_returns declRead
      obtain ⟨u₂, consumed₂, later⟩ := restIH d.value.2 d.cursor d.lt rest restRead
      rw [resEq]
      refine ⟨u₁ ++ u₂, consumed₁.trans consumed₂, fun f listed => ?_⟩
      rw [Token.returnLocs_append]
      rcases List.mem_cons.1 listed with isFirst | inRest
      · exact (here f isFirst.symm).trans (List.sublist_append_left _ _)
      · exact (later f inRest).trans (List.sublist_append_right _ _)

/-- A function read has the type its body's returns resolve to. -/
theorem funcDef_resolved {index : Nat} {r : Read c (FuncDef × Context)}
    (parsed : funcDef index ctx c = .ok r) :
    resolveReturnType r.value.1.body.returns = .ok r.value.1.returnType := by
  obtain ⟨name, c1, ps, body, returnType, entry, -, -, -, -, resolved, -, funcEq, -⟩ :=
    funcDef_eq_ok parsed
  rw [funcEq]
  exact resolved

section

variable {index : Nat} {name : Token} {c1 : Cursor} {ps : Read c1 (List EntryId × Context)}
  {b : Read ps.cursor (Block × Context)}

/-- A function whose body holds no return is refused at its name. -/
theorem funcDef_eq_missing (nameStep : c.Takes name c1) (isName : name.kind = .ident)
    (psRead : paramList ctx.enter.1 c1 = .ok ps) (bodyRead : block ps.value.2 ps.cursor = .ok b)
    (none : b.value.1.returns = []) :
    funcDef index ctx c = .error ⟨.missingReturn name.lexeme name.loc, b.cursor.pulled⟩ := by
  rw [funcDef, expect_eq_of_takes nameStep (by simp [isName])]
  simp [bind, Except.bind, psRead, bodyRead, none, resolveReturnType, throw, throwThe,
    MonadExceptOf.throw, Cursor.fail]

/-- A function whose returns disagree is refused at the first return that differs. -/
theorem funcDef_eq_inconsistent {loc : Location} (nameStep : c.Takes name c1)
    (isName : name.kind = .ident) (psRead : paramList ctx.enter.1 c1 = .ok ps)
    (bodyRead : block ps.value.2 ps.cursor = .ok b)
    (disagree : resolveReturnType b.value.1.returns = .error (.inconsistent loc)) :
    funcDef index ctx c = .error ⟨.inconsistentReturnType name.lexeme loc, b.cursor.pulled⟩ := by
  rw [funcDef, expect_eq_of_takes nameStep (by simp [isName])]
  simp [bind, Except.bind, psRead, bodyRead, disagree, throw, throwThe, MonadExceptOf.throw,
    Cursor.fail]

end

end Parse

namespace Feed

/-- The results up to the end of input of a list that holds no end of input: all of them, then
the end of input at the last location. -/
theorem untilEof_of_not_eof {last : Location} :
    ∀ {xs : List (Except LexError Token)}, (∀ t, .ok t ∈ xs → t.kind ≠ .eof) →
      Feed.untilEof last xs = xs ++ [.ok (Token.eofAt last)]
  | [], _ => rfl
  | .ok t :: rest, noEof => by
      have later : Feed.untilEof last rest = rest ++ [.ok (Token.eofAt last)] :=
        untilEof_of_not_eof fun t' listed => noEof t' (List.mem_cons_of_mem _ listed)
      simp [Feed.untilEof, noEof t List.mem_cons_self, later]
  | .error e :: rest, noEof => by
      have later : Feed.untilEof last rest = rest ++ [.ok (Token.eofAt last)] :=
        untilEof_of_not_eof fun t' listed => noEof t' (List.mem_cons_of_mem _ listed)
      simp [Feed.untilEof, later]

end Feed

/--
The tokens a reading of a text takes stand at increasing positions, so the returns of every
function it reads, those inside the body of a `for` loop included, do.
-/
theorem Program.ofSource_returns_increase {src : String} {p : Program}
    (parsed : (Program.ofSource src).result = .ok p) :
    ∀ f, .func f ∈ p.decls → (f.body.returns.map Prod.snd).Pairwise Location.Before := by
  obtain ⟨c, decls, ctx, c', started, declsRead, rfl⟩ := Program.read_eq_ok parsed
  obtain ⟨u, consumed, bodies⟩ := Parse.declarations_returns 0 _ c _ declsRead
  have laid := Scanner.run_layout src.toList (Scanner.ofString src) 0 (Nat.zero_le _) rfl
    (by simp [Scanner.ofString, Location.ofIndex, Location.start])
  have ahead : c.ahead = (Scanner.ofString src).run.1 ++ [.ok (Scanner.ofString src).run.2] := by
    rw [Cursor.start_ahead started]
    show Feed.untilEof (Scanner.ofString src).run.2.loc (Scanner.ofString src).run.1 = _
    rw [Feed.untilEof_of_not_eof laid.not_eof, laid.eof_eq]
    rfl
  have taken : (u.map Token.loc).Sublist
      ((Scanner.ofString src).run.1.map Scan.locOf ++ [(Scanner.ofString src).run.2.loc]) := by
    rw [consumed] at ahead
    have locs := congrArg (List.map Scan.locOf) ahead
    rw [List.map_append, List.map_map] at locs
    have start : (u.map Token.loc) <+: _ := ⟨_, locs⟩
    simpa [Scan.locOf] using start.sublist
  intro f listed
  exact laid.locations_increase.sublist
    (((bodies f listed).trans (List.filter_sublist.map Token.loc)).trans taken)

/--
Return types are resolved from every return, in order. The returns of a block are its `return`
statements at every depth, in pre-order; reading a block takes one `return` keyword for each, at
its location and in the same order, and no other, so that in every function of a program read
from text they stand at increasing positions. The type resolved from them is the one all of them
have; there is none when there is no return, and otherwise the first return whose type differs
from the first one's is reported. A function that is read has that type; one whose body holds no
return is refused at its name, and one whose returns disagree at the first that differs.
-/
theorem returnType_resolved_from_returns :
    (∀ b : Block, b.returns = b.toStmt.preorder.filterMap Stmt.returnOf?) ∧
    (∀ ctx c (r : Read c (Block × Context)), Parse.block ctx c = .ok r →
      c.PassesReturns (r.value.1.returns.map Prod.snd) r.cursor) ∧
    (∀ src (p : Program), (Program.ofSource src).result = .ok p →
      ∀ f, .func f ∈ p.decls → (f.body.returns.map Prod.snd).Pairwise Location.Before) ∧
    (∀ rs ty, resolveReturnType rs = .ok ty ↔ rs ≠ [] ∧ ∀ r ∈ rs, r.1 = ty) ∧
    (∀ rs, resolveReturnType rs = .error .missing ↔ rs = []) ∧
    (∀ rs loc, resolveReturnType rs = .error (.inconsistent loc) ↔
      ∃ ty₀ loc₀ agreeing ty later, rs = (ty₀, loc₀) :: (agreeing ++ (ty, loc) :: later) ∧
        (∀ r ∈ agreeing, r.1 = ty₀) ∧ ty ≠ ty₀) ∧
    (∀ index ctx c (r : Read c (FuncDef × Context)), Parse.funcDef index ctx c = .ok r →
      resolveReturnType r.value.1.body.returns = .ok r.value.1.returnType) ∧
    (∀ index ctx c name c1 (ps : Read c1 (List EntryId × Context))
      (b : Read ps.cursor (Block × Context)), c.Takes name c1 → name.kind = .ident →
      Parse.paramList ctx.enter.1 c1 = .ok ps → Parse.block ps.value.2 ps.cursor = .ok b →
      (b.value.1.returns = [] →
        Parse.funcDef index ctx c = .error ⟨.missingReturn name.lexeme name.loc, b.cursor.pulled⟩) ∧
      ∀ loc, resolveReturnType b.value.1.returns = .error (.inconsistent loc) →
        Parse.funcDef index ctx c =
          .error ⟨.inconsistentReturnType name.lexeme loc, b.cursor.pulled⟩) :=
  ⟨Block.returns_eq_preorder, fun _ _ _ parsed => Parse.block_passesReturns parsed,
    fun _ _ parsed => Program.ofSource_returns_increase parsed,
    fun _ _ => resolveReturnType_eq_ok_iff, fun _ => resolveReturnType_eq_missing_iff,
    fun _ _ => resolveReturnType_eq_inconsistent_iff,
    fun _ _ _ _ parsed => Parse.funcDef_resolved parsed,
    fun _ _ _ _ _ _ _ nameStep isName psRead bodyRead =>
      ⟨Parse.funcDef_eq_missing nameStep isName psRead bodyRead,
        fun _ disagree => Parse.funcDef_eq_inconsistent nameStep isName psRead bodyRead disagree⟩⟩

/-- The returns of a function with a `for` loop, a `while` loop and a last return stand in order. -/
theorem returnType_resolved_from_returns_loops :
    ∃ p, (Program.ofSource
        "f() { for (var i = 0; i < 3; i = i + 1) return i; while (true) return 2; return 3; }").result =
        .ok p ∧
      ∀ f, .func f ∈ p.decls → (f.body.returns.map Prod.snd).Pairwise Location.Before := by
  have isOk : (Program.ofSource
      "f() { for (var i = 0; i < 3; i = i + 1) return i; while (true) return 2; return 3; }").result.toOption.isSome =
      true := by
    decide +kernel
  revert isOk
  cases read : (Program.ofSource
    "f() { for (var i = 0; i < 3; i = i + 1) return i; while (true) return 2; return 3; }").result with
  | ok p =>
      intro _
      exact ⟨p, rfl, returnType_resolved_from_returns.2.2.1 _ p read⟩
  | error e =>
      intro isOk
      cases isOk

end ImpFront
