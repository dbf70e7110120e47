import ImpFront.Proofs.Grammar.Expressions

/-!
# Statements and declarations as sequences

The reader decides which alternative of a statement or a declaration to read by its first
token, and reads each alternative as a sequence of terminals and rules. This module writes the
grammar's statement and declaration rules in that form:

* `StatementAt k`, `ForInitAt k` and `DeclarationAt k` are the alternatives that a first token
  of kind `k` selects (`statement_alternative` and its siblings);
* `Block`, `Condition` and `VarDecl` are sequences (`block_eq`, `condition_eq`, `varDecl_eq`);
* the statements of a block, the parameters of a function and the declarations of a program
  are lists closed by a terminal (`StmtsClose`, `MoreParams`, `DeclsEnd`).

For each of them it proves what `Accepts` and `Rejects` need: an `if` takes an `else` when one
follows (`Accepts.thenElse_some`), and a list of statements or declarations ends only at its
closing token (`ClosedList`).
-/

namespace ImpFront

namespace Grammar

/-! ## The rules as sequences -/

/-- What follows the condition of an `if`: `statement ('else' statement)?`. -/
def ThenElse (w y : List Token) : Prop :=
  Statement w y ∨ Seq Statement (Seq (Tok .elseKw) Statement) w y

/-- The header of a `for` loop after its first statement, and the body. -/
def ForTail : List Token → List Token → Prop :=
  Seq Expression (Seq (Tok .semicolon) (Seq Expression (Seq (Tok .rParen) Statement)))

/-- The statements of a block and its closing brace: `statement* '}'`. -/
def StmtsClose : List Token → List Token → Prop := Seq Stmts (Tok .rBrace)

/-- The alternative of `statement` that a first token of kind `k` selects. -/
def StatementAt : TokenKind → List Token → List Token → Prop
  | .lBrace => Block
  | .ifKw => Seq (Tok .ifKw) (Seq Condition ThenElse)
  | .whileKw => Seq (Tok .whileKw) (Seq Condition Statement)
  | .forKw => Seq (Tok .forKw) (Seq (Tok .lParen) (Seq ForInit ForTail))
  | .varKw => VarDecl
  | .returnKw => Seq (Tok .returnKw) (Seq Expression (Tok .semicolon))
  | _ => Seq Expression (Tok .semicolon)

/-- The alternative of the first part of a `for` loop that a first token of kind `k` selects. -/
def ForInitAt : TokenKind → List Token → List Token → Prop
  | .varKw => VarDecl
  | _ => Seq Expression (Tok .semicolon)

/-- The parameters after the first and the closing parenthesis: `(',' IDENT ':' IDENT)* ')'`. -/
def MoreParams (w y : List Token) : Prop := ∃ w₁, ParamsTail w w₁ ∧ Tok .rParen w₁ y

/-- One parameter or more and the closing parenthesis. -/
def ParamsFrom : List Token → List Token → Prop :=
  Seq (Tok .ident) (Seq (Tok .colon) (Seq (Tok .ident) MoreParams))

/-- The parameters of a function and the closing parenthesis: `params ')'`. -/
def ParamsClose (w y : List Token) : Prop := ∃ w₁, Params w w₁ ∧ Tok .rParen w₁ y

/-- A parameter list in parentheses: `'(' params ')'`. -/
def ParamList : List Token → List Token → Prop := Seq (Tok .lParen) ParamsClose

/-- A function definition: `IDENT '(' params ')' block`. -/
def FuncDef : List Token → List Token → Prop := Seq (Tok .ident) (Seq ParamList Block)

/-- The alternative of `declaration` that a first token of kind `k` selects, if any. -/
def DeclarationAt : TokenKind → List Token → List Token → Prop
  | .varKw => VarDecl
  | .ident => FuncDef
  | _ => fun _ _ => False

/-- The declarations of a program and the end-of-input token. -/
def DeclsEnd : List Token → List Token → Prop := Seq Decls (Tok .eof)

section Equations

variable {w y : List Token}

theorem block_eq : Block = Seq (Tok .lBrace) StmtsClose := by
  funext w y
  apply propext
  constructor
  · rintro ⟨opens, stmts, closes⟩
    exact ⟨_, opens, _, stmts, closes⟩
  · rintro ⟨w₁, opens, w₂, stmts, closes⟩
    exact ⟨opens, stmts, closes⟩

theorem condition_eq : Condition = Seq (Tok .lParen) (Seq Expression (Tok .rParen)) := by
  funext w y
  apply propext
  constructor
  · rintro ⟨opens, value, closes⟩
    exact ⟨_, opens, _, ⟨_, value⟩, closes⟩
  · rintro ⟨w₁, opens, w₂, ⟨a, value⟩, closes⟩
    exact ⟨opens, value, closes⟩

theorem varDecl_eq : VarDecl =
    Seq (Tok .varKw) (Seq (Tok .ident) (Seq (Tok .eq) (Seq Expression (Tok .semicolon)))) := by
  funext w y
  apply propext
  constructor
  · rintro ⟨kw, name, eqTok, value, semi⟩
    exact ⟨_, kw, _, name, _, eqTok, _, ⟨_, value⟩, semi⟩
  · rintro ⟨w₁, kw, w₂, name, w₃, eqTok, w₄, ⟨a, value⟩, semi⟩
    exact ⟨kw, name, eqTok, value, semi⟩

theorem program_iff : Program w ↔ DeclsEnd w [] := Iff.rfl

theorem stmtsClose_iff : StmtsClose w y ↔ Tok .rBrace w y ∨ Seq Statement StmtsClose w y := by
  constructor
  · rintro ⟨w₁, stmts, closes⟩
    cases stmts with
    | nil => exact Or.inl closes
    | cons first rest => exact Or.inr ⟨_, first, _, rest, closes⟩
  · rintro (closes | ⟨w₁, first, w₂, rest, closes⟩)
    · exact ⟨w, .nil, closes⟩
    · exact ⟨w₂, .cons first rest, closes⟩

theorem declsEnd_iff : DeclsEnd w y ↔ Tok .eof w y ∨ Seq Declaration DeclsEnd w y := by
  constructor
  · rintro ⟨w₁, decls, closes⟩
    cases decls with
    | nil => exact Or.inl closes
    | cons first rest => exact Or.inr ⟨_, first, _, rest, closes⟩
  · rintro (closes | ⟨w₁, first, w₂, rest, closes⟩)
    · exact ⟨w, .nil, closes⟩
    · exact ⟨w₂, .cons first rest, closes⟩

theorem moreParams_iff : MoreParams w y ↔ Tok .rParen w y ∨ Seq (Tok .comma) ParamsFrom w y := by
  constructor
  · rintro ⟨w₁, tail, closes⟩
    cases tail with
    | done => exact Or.inl closes
    | more comma name colon tyName tail =>
        exact Or.inr ⟨_, comma, _, name, _, colon, _, tyName, _, tail, closes⟩
  · rintro (closes | ⟨w₁, comma, w₂, name, w₃, colon, w₄, tyName, w₅, tail, closes⟩)
    · exact ⟨w, .done, closes⟩
    · exact ⟨w₅, .more comma name colon tyName tail, closes⟩

theorem paramsClose_iff : ParamsClose w y ↔ Tok .rParen w y ∨ ParamsFrom w y := by
  constructor
  · rintro ⟨w₁, params, closes⟩
    cases params with
    | none => exact Or.inl closes
    | some name colon tyName tail => exact Or.inr ⟨_, name, _, colon, _, tyName, _, tail, closes⟩
  · rintro (closes | ⟨w₁, name, w₂, colon, w₃, tyName, w₄, tail, closes⟩)
    · exact ⟨w, .none, closes⟩
    · exact ⟨w₄, .some name colon tyName tail, closes⟩

end Equations

/-! ## Alternatives by their first token -/

section Alternatives

variable {t : Token} {w y : List Token}

theorem VarDecl.head (decl : VarDecl w y) : ∃ t w', w = t :: w' ∧ t.kind = .varKw := by
  obtain ⟨⟨t, starts, isVar⟩, -, -, -, -⟩ := decl
  exact ⟨t, _, starts, isVar⟩

/-- A statement does not start with a kind outside those that start one. -/
theorem Statement.not_cons
    (notStart : t.kind ∉ [.lBrace, .ifKw, .whileKw, .forKw, .varKw, .returnKw] ++ TokenKind.exprStart) :
    ¬Statement (t :: w) y := by
  intro statement
  obtain ⟨t', w', same, start⟩ := statement.head
  cases same
  exact notStart start

theorem Declaration.head (decl : Declaration w y) :
    ∃ t w', w = t :: w' ∧ t.kind ∈ [TokenKind.varKw, .ident] := by
  cases decl with
  | var decl =>
      obtain ⟨t, w', starts, isVar⟩ := decl.head
      exact ⟨t, w', starts, by simp [isVar]⟩
  | func opens =>
      obtain ⟨t, starts, isName⟩ := opens
      exact ⟨t, _, starts, by simp [isName]⟩

/-- A declaration starts with `var` or a name. -/
theorem Declaration.not_cons (notStart : t.kind ∉ [TokenKind.varKw, .ident]) :
    ¬Declaration (t :: w) y := by
  intro decl
  obtain ⟨t', w', same, start⟩ := decl.head
  cases same
  exact notStart start

theorem statementAt_of_exprStart {k : TokenKind} (start : k ∈ TokenKind.exprStart) :
    StatementAt k = Seq Expression (Tok .semicolon) := by
  simp only [TokenKind.exprStart, List.mem_cons, List.not_mem_nil, or_false] at start
  rcases start with rfl | rfl | rfl | rfl | rfl | rfl <;> rfl

theorem statementAt_sub {k : TokenKind} (derived : StatementAt k w y) : Statement w y := by
  unfold StatementAt at derived
  split at derived
  · exact .block derived
  · obtain ⟨w₁, opens, w₂, cond, branch | ⟨w₃, branch, w₄, isElse, other⟩⟩ := derived
    · exact .ifThen opens cond branch
    · exact .ifElse opens cond branch isElse other
  · obtain ⟨w₁, opens, w₂, cond, body⟩ := derived
    exact .whileLoop opens cond body
  · obtain ⟨w₁, opens, w₂, lp, w₃, init, w₄, ⟨a, test⟩, w₅, semi, w₆, ⟨b, step⟩, w₇, rp,
      body⟩ := derived
    exact .forLoop opens lp init test semi step rp body
  · exact .varDecl derived
  · obtain ⟨w₁, opens, w₂, ⟨a, value⟩, semi⟩ := derived
    exact .ret opens value semi
  · obtain ⟨w₁, ⟨a, value⟩, semi⟩ := derived
    exact .expr value semi

/-- A statement is a word of the alternative its first token selects. -/
theorem statement_at (derived : Statement (t :: w) y) : StatementAt t.kind (t :: w) y := by
  cases derived with
  | block block =>
      cases block with
      | mk opens stmts closes =>
          rw [(tok_cons_iff.1 opens).1]
          exact Block.mk opens stmts closes
  | ifThen opens cond branch =>
      rw [(tok_cons_iff.1 opens).1]
      exact ⟨_, opens, _, cond, Or.inl branch⟩
  | ifElse opens cond branch isElse other =>
      rw [(tok_cons_iff.1 opens).1]
      exact ⟨_, opens, _, cond, Or.inr ⟨_, branch, _, isElse, other⟩⟩
  | whileLoop opens cond body =>
      rw [(tok_cons_iff.1 opens).1]
      exact ⟨_, opens, _, cond, body⟩
  | forLoop opens lp init test semi step rp body =>
      rw [(tok_cons_iff.1 opens).1]
      exact ⟨_, opens, _, lp, _, init, _, ⟨_, test⟩, _, semi, _, ⟨_, step⟩, _, rp, body⟩
  | varDecl decl =>
      obtain ⟨t', w', same, isVar⟩ := decl.head
      cases same
      rw [isVar]
      exact decl
  | ret opens value semi =>
      rw [(tok_cons_iff.1 opens).1]
      exact ⟨_, opens, _, ⟨_, value⟩, semi⟩
  | expr value semi =>
      obtain ⟨t', w', same, start⟩ := value.head
      cases same
      rw [statementAt_of_exprStart start]
      exact ⟨_, ⟨_, value⟩, semi⟩

theorem statement_alternative (k : TokenKind) : Alternative k (StatementAt k) Statement where
  sub _ _ := statementAt_sub
  back _ _ _ isKind derived := isKind ▸ statement_at derived
  nonempty y derived := by
    obtain ⟨t, w', same, -⟩ := derived.head
    cases same

/-- A first token that starts an expression selects an expression statement. -/
theorem statement_alternative_expr {k : TokenKind} (start : k ∈ TokenKind.exprStart) :
    Alternative k (Seq Expression (Tok .semicolon)) Statement :=
  statementAt_of_exprStart start ▸ statement_alternative k

theorem forInitAt_of_ne {k : TokenKind} (notVar : k ≠ .varKw) :
    ForInitAt k = Seq Expression (Tok .semicolon) := by
  unfold ForInitAt
  split
  · contradiction
  · rfl

theorem forInitAt_sub {k : TokenKind} (derived : ForInitAt k w y) : ForInit w y := by
  unfold ForInitAt at derived
  split at derived
  · exact .var derived
  · obtain ⟨w₁, ⟨a, value⟩, semi⟩ := derived
    exact .expr value semi

theorem forInit_at (derived : ForInit (t :: w) y) : ForInitAt t.kind (t :: w) y := by
  cases derived with
  | var decl =>
      obtain ⟨t', w', same, isVar⟩ := decl.head
      cases same
      rw [isVar]
      exact decl
  | expr value semi =>
      obtain ⟨t', w', same, start⟩ := value.head
      cases same
      rw [forInitAt_of_ne fun isVar => by simp [isVar, TokenKind.exprStart] at start]
      exact ⟨_, ⟨_, value⟩, semi⟩

theorem forInit_alternative (k : TokenKind) : Alternative k (ForInitAt k) ForInit where
  sub _ _ := forInitAt_sub
  back _ _ _ isKind derived := isKind ▸ forInit_at derived
  nonempty y derived := by
    cases derived with
    | var decl =>
        obtain ⟨t, w', same, -⟩ := decl.head
        cases same
    | expr value =>
        obtain ⟨t, w', same, -⟩ := value.head
        cases same

theorem forInit_alternative_expr {k : TokenKind} (notVar : k ≠ .varKw) :
    Alternative k (Seq Expression (Tok .semicolon)) ForInit :=
  forInitAt_of_ne notVar ▸ forInit_alternative k

theorem declarationAt_sub {k : TokenKind} (derived : DeclarationAt k w y) : Declaration w y := by
  unfold DeclarationAt at derived
  split at derived
  · exact .var derived
  · obtain ⟨w₁, opens, w₂, ⟨w₃, lp, w₄, params, rp⟩, body⟩ := derived
    exact .func opens lp params rp body
  · exact derived.elim

theorem declaration_at (derived : Declaration (t :: w) y) : DeclarationAt t.kind (t :: w) y := by
  cases derived with
  | var decl =>
      obtain ⟨t', w', same, isVar⟩ := decl.head
      cases same
      rw [isVar]
      exact decl
  | func opens lp params rp body =>
      rw [(tok_cons_iff.1 opens).1]
      exact ⟨_, opens, _, ⟨_, lp, _, params, rp⟩, body⟩

theorem declaration_alternative (k : TokenKind) : Alternative k (DeclarationAt k) Declaration where
  sub _ _ := declarationAt_sub
  back _ _ _ isKind derived := isKind ▸ declaration_at derived
  nonempty y derived := by
    obtain ⟨t, w', same, -⟩ := derived.head
    cases same

theorem moreParams_close : Alternative .rParen (Tok .rParen) MoreParams := by
  refine .of_or (fun _ _ => moreParams_iff) ?_ ?_
  · rintro t w y isClose ⟨w₁, opens, -⟩
    simp [isClose] at opens
  · intro y derived
    rcases moreParams_iff.1 derived with closes | ⟨w₁, opens, -⟩
    · exact not_tok_nil closes
    · exact not_tok_nil opens

theorem moreParams_comma : Alternative .comma (Seq (Tok .comma) ParamsFrom) MoreParams := by
  refine .of_or (fun _ _ => moreParams_iff.trans Or.comm) ?_ moreParams_close.nonempty
  intro t w y isComma closes
  simp [isComma] at closes

theorem paramsClose_close : Alternative .rParen (Tok .rParen) ParamsClose := by
  refine .of_or (fun _ _ => paramsClose_iff) ?_ ?_
  · rintro t w y isClose ⟨w₁, opens, -⟩
    simp [isClose] at opens
  · intro y derived
    rcases paramsClose_iff.1 derived with closes | ⟨w₁, opens, -⟩
    · exact not_tok_nil closes
    · exact not_tok_nil opens

/-- After `(`, any first token but `)` selects the parameters. -/
theorem paramsClose_params {k : TokenKind} (notClose : k ≠ .rParen) :
    Alternative k ParamsFrom ParamsClose := by
  refine .of_or (fun _ _ => paramsClose_iff.trans Or.comm) ?_ paramsClose_close.nonempty
  intro t w y isKind closes
  exact notClose (isKind ▸ (tok_cons_iff.1 closes).1)

end Alternatives

/-! ## Words -/

theorem hasWord_expression : HasWord Expression :=
  ⟨[Token.ofKind .intLit], fun _ => ⟨_, .plain (.operand (.operand (.operand (.operand (.operand
    (.primary (.lit rfl (by decide))) .done) .done) .done) .done) .done)⟩⟩

theorem hasWord_stmtsClose : HasWord StmtsClose :=
  ⟨[Token.ofKind .rBrace], fun _ => ⟨_, .nil, tok_cons_iff.2 ⟨rfl, rfl⟩⟩⟩

theorem hasWord_block : HasWord Block := block_eq ▸ hasWord_tok.seq hasWord_stmtsClose

theorem hasWord_statement : HasWord Statement := by
  obtain ⟨v, derived⟩ := hasWord_block
  exact ⟨v, fun y => .block (derived y)⟩

theorem hasWord_thenElse : HasWord ThenElse := by
  obtain ⟨v, derived⟩ := hasWord_statement
  exact ⟨v, fun y => Or.inl (derived y)⟩

theorem hasWord_varDecl : HasWord VarDecl :=
  varDecl_eq ▸ hasWord_tok.seq (hasWord_tok.seq (hasWord_tok.seq (hasWord_expression.seq hasWord_tok)))

theorem hasWord_forInit : HasWord ForInit := by
  obtain ⟨v, derived⟩ := hasWord_varDecl
  exact ⟨v, fun y => .var (derived y)⟩

theorem hasWord_forTail : HasWord ForTail :=
  hasWord_expression.seq (hasWord_tok.seq (hasWord_expression.seq (hasWord_tok.seq
    hasWord_statement)))

theorem hasWord_moreParams : HasWord MoreParams :=
  ⟨[Token.ofKind .rParen], fun _ => ⟨_, .done, tok_cons_iff.2 ⟨rfl, rfl⟩⟩⟩

theorem hasWord_paramsClose : HasWord ParamsClose :=
  ⟨[Token.ofKind .rParen], fun _ => ⟨_, .none, tok_cons_iff.2 ⟨rfl, rfl⟩⟩⟩

theorem hasWord_declaration : HasWord Declaration := by
  obtain ⟨v, derived⟩ := hasWord_varDecl
  exact ⟨v, fun y => .var (derived y)⟩

/-! ## The branches of an `if` -/

section Branches

variable {u u₁ u₂ p : List Token} {t e next : Token}

/-- An `if` without `else`: the token after its branch is not `else`. -/
theorem Accepts.thenElse_none (branch : Accepts Statement ElseClosed u next)
    (notElse : next.kind ≠ .elseKw) : Accepts ThenElse ElseClosed u next where
  derives y := Or.inl (branch.derives y)
  exact K closed x y starts := by
    rintro (derived | ⟨w₁, derived, w₂, isElse, other⟩) follows
    · exact branch.exact K closed x y starts derived follows
    · have after : afterThen K x := branch.exact (afterThen K) closed.afterThen x w₁ starts derived
        (Or.inr ⟨w₂, y, isElse, other, follows⟩)
      exact afterThen_of_startsLike after starts notElse

/--
An `if` that takes the `else` after its branch. A derivation may give that `else` to an `if`
inside the branch instead, but then what follows it is the same statement.
-/
theorem Accepts.thenElse_some (branch : Accepts Statement ElseClosed u₁ e)
    (isElse : e.kind = .elseKw) (other : Accepts Statement ElseClosed u₂ next) :
    Accepts ThenElse ElseClosed (u₁ ++ e :: u₂) next where
  derives y := Or.inr ⟨e :: (u₂ ++ y), by simpa using branch.derives (e :: (u₂ ++ y)), u₂ ++ y,
    tok_cons_iff.2 ⟨isElse, rfl⟩, other.derives y⟩
  exact K closed x y starts := by
    -- either way the `else` is read after the branch, by this `if` or by one inside it
    have afterElse : afterThen K (e :: (u₂ ++ x)) → K x := by
      intro follows
      obtain ⟨y', statement, follows'⟩ := afterThen_else closed follows (tok_cons_iff.2 ⟨isElse, rfl⟩)
      exact other.exact K closed x y' starts statement follows'
    rintro (derived | ⟨w₁, derived, w₂, isElse', rest⟩) follows
    · exact afterElse (Or.inl (branch.exact K closed _ y (by simp) (by simpa using derived) follows))
    · exact afterElse (branch.exact (afterThen K) closed.afterThen _ w₁ (by simp)
        (by simpa using derived) (Or.inr ⟨w₂, y, isElse', rest, follows⟩))

theorem Rejects.thenElse_branch (branch : Rejects Statement ElseClosed p t) :
    Rejects ThenElse ElseClosed p t where
  viable := by
    obtain ⟨x, derived⟩ := branch.viable
    exact ⟨x, fun y => Or.inl (derived y)⟩
  blocked K closed s y := by
    rintro (derived | ⟨w₁, derived, w₂, isElse, other⟩) follows
    · exact branch.blocked K closed s y derived follows
    · exact branch.blocked (afterThen K) closed.afterThen s w₁ derived
        (Or.inr ⟨w₂, y, isElse, other, follows⟩)

theorem Rejects.thenElse_other (branch : Accepts Statement ElseClosed u e)
    (isElse : e.kind = .elseKw) (other : Rejects Statement ElseClosed p t) :
    Rejects ThenElse ElseClosed (u ++ e :: p) t where
  viable := by
    obtain ⟨x, derived⟩ := other.viable
    exact ⟨x, fun y => Or.inr ⟨e :: (p ++ x ++ y),
      by simpa using branch.derives (e :: (p ++ x ++ y)), p ++ x ++ y,
      tok_cons_iff.2 ⟨isElse, rfl⟩, derived y⟩⟩
  blocked K closed s y := by
    have afterElse : afterThen K (e :: (p ++ t :: s)) → False := by
      intro follows
      obtain ⟨y', statement, follows'⟩ := afterThen_else closed follows (tok_cons_iff.2 ⟨isElse, rfl⟩)
      exact other.blocked K closed s y' statement follows'
    rintro (derived | ⟨w₁, derived, w₂, isElse', rest⟩) follows
    · exact afterElse (Or.inl (branch.exact K closed _ y (by simp) (by simpa using derived) follows))
    · exact afterElse (branch.exact (afterThen K) closed.afterThen _ w₁ (by simp)
        (by simpa using derived) (Or.inr ⟨w₂, y, isElse', rest, follows⟩))

end Branches

/-! ## Lists closed by a terminal -/

/--
`L` is a list of words of `R` closed by a token of kind `k`, which starts no word of `R`, and a
word of `R` can be cut short before the rest of such a list.
-/
structure ClosedList (L R : List Token → List Token → Prop) (C : (List Token → Prop) → Prop)
    (k : TokenKind) : Prop where
  unfold : ∀ w y, L w y ↔ Tok k w y ∨ Seq R L w y
  fresh : ∀ w w' y, Tok k w w' → ¬R w y
  context : ∀ K, C (Follows L K)

section ClosedLists

variable {L R : List Token → List Token → Prop} {C : (List Token → Prop) → Prop} {k : TokenKind}
  {u u₁ u₂ p : List Token} {t n₁ next : Token}

/-- A word of an element does not start with the closing token. -/
theorem ClosedList.not_close (list : ClosedList L R C k) (first : Accepts R C u n₁)
    {z y : List Token} (closes : Tok k (u ++ z) y) : False := by
  obtain ⟨t', same, isKind⟩ := closes
  have element := first.derives z
  rw [same] at element
  exact list.fresh _ y z (tok_cons_iff.2 ⟨isKind, rfl⟩) element

theorem ClosedList.accepts_close (list : ClosedList L R C k) (isKind : t.kind = k) :
    Accepts L (fun _ => True) [t] next where
  derives _ := (list.unfold _ _).2 (Or.inl (tok_cons_iff.2 ⟨isKind, rfl⟩))
  exact K _ x y _ derived follows := by
    rcases (list.unfold _ _).1 derived with closes | ⟨w₁, element, -⟩
    · obtain ⟨-, rfl⟩ := tok_cons_iff.1 closes
      exact follows
    · exact (list.fresh _ x w₁ (tok_cons_iff.2 ⟨isKind, rfl⟩) element).elim

theorem ClosedList.accepts_cons (list : ClosedList L R C k) (first : Accepts R C u₁ n₁)
    (rest : Accepts L (fun _ => True) u₂ next)
    (link : ∀ x, StartsLike next x → StartsLike n₁ (u₂ ++ x)) :
    Accepts L (fun _ => True) (u₁ ++ u₂) next where
  derives y := (list.unfold _ _).2
    (Or.inr ⟨u₂ ++ y, by simpa using first.derives (u₂ ++ y), rest.derives y⟩)
  exact K _ x y starts derived follows := by
    rw [List.append_assoc] at derived
    rcases (list.unfold _ _).1 derived with closes | ⟨w₁, element, others⟩
    · exact (list.not_close first closes).elim
    · obtain ⟨y', others', follows'⟩ := first.exact _ (list.context K) (u₂ ++ x) w₁ (link x starts)
        element ⟨y, others, follows⟩
      exact rest.exact K trivial x y' starts others' follows'

theorem ClosedList.rejects_first (list : ClosedList L R C k) (first : Rejects R C p t)
    (notClose : ∀ s y, ¬Tok k (p ++ t :: s) y) : Rejects L (fun _ => True) p t where
  viable := by
    obtain ⟨x, derived⟩ := first.viable
    refine ⟨x ++ [Token.ofKind k], fun y => (list.unfold _ _).2 (Or.inr ⟨Token.ofKind k :: y, ?_,
      (list.unfold _ _).2 (Or.inl (tok_cons_iff.2 ⟨rfl, rfl⟩))⟩)⟩
    simpa using derived (Token.ofKind k :: y)
  blocked K _ s y derived follows := by
    rcases (list.unfold _ _).1 derived with closes | ⟨w₁, element, others⟩
    · exact notClose s y closes
    · exact first.blocked _ (list.context K) s w₁ element ⟨y, others, follows⟩

theorem ClosedList.rejects_cons (list : ClosedList L R C k) (first : Accepts R C u n₁)
    (rest : Rejects L (fun _ => True) p t) (link : ∀ s, StartsLike n₁ (p ++ t :: s)) :
    Rejects L (fun _ => True) (u ++ p) t where
  viable := by
    obtain ⟨x, derived⟩ := rest.viable
    exact ⟨x, fun y => (list.unfold _ _).2
      (Or.inr ⟨p ++ x ++ y, by simpa using first.derives (p ++ x ++ y), derived y⟩)⟩
  blocked K _ s y derived follows := by
    rw [List.append_assoc] at derived
    rcases (list.unfold _ _).1 derived with closes | ⟨w₁, element, others⟩
    · exact list.not_close first closes
    · obtain ⟨y', others', follows'⟩ := first.exact _ (list.context K) (p ++ t :: s) w₁ (link s)
        element ⟨y, others, follows⟩
      exact rest.blocked K trivial s y' others' follows'

end ClosedLists

/-- The statements of a block: no statement starts with `}`, and none with `else`. -/
theorem stmtsClose_closedList : ClosedList StmtsClose Statement ElseClosed .rBrace where
  unfold _ _ := stmtsClose_iff
  fresh w w' y opens statement := by
    obtain ⟨t, rfl, isClose⟩ := opens
    exact Statement.not_cons (by simp [isClose, TokenKind.exprStart]) statement
  context K z w isElse := by
    rintro ⟨y, derived, -⟩
    obtain ⟨t, rfl, isElseKind⟩ := isElse
    rcases stmtsClose_iff.1 derived with closes | ⟨w₁, statement, -⟩
    · simp [isElseKind] at closes
    · exact (Statement.not_cons (by simp [isElseKind, TokenKind.exprStart]) statement).elim

/-- The declarations of a program: none starts with the end of input. -/
theorem declsEnd_closedList : ClosedList DeclsEnd Declaration (fun _ => True) .eof where
  unfold _ _ := declsEnd_iff
  fresh w w' y opens decl := by
    obtain ⟨t, rfl, isEnd⟩ := opens
    exact Declaration.not_cons (by simp [isEnd]) decl
  context _ := trivial

end Grammar

end ImpFront
