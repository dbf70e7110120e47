import ImpFront.Syntax.Tree
import ImpFront.Token.Basic

/-!
# The grammar of the language

The grammar over token kinds, written as relations between a list of tokens and the part of
it that follows a derivation: `Statement w y` holds when a prefix of `w` derives from
`statement` and `y` is what is left after it, so that a list `u` derives from `statement`
when `Statement (u ++ y) y` holds. Terminals are matched by their kind alone (`Tok`).

```text
program     → declaration* EOF
declaration → varDecl | IDENT '(' params ')' block
varDecl     → 'var' IDENT '=' assignment ';'
params      → (IDENT ':' IDENT (',' IDENT ':' IDENT)*)?
block       → '{' statement* '}'
statement   → block
            | 'if' '(' assignment ')' statement ('else' statement)?
            | 'while' '(' assignment ')' statement
            | 'for' '(' (varDecl | assignment ';') assignment ';' assignment ')' statement
            | varDecl | 'return' assignment ';' | assignment ';'
assignment  → logicalOr ('=' assignment)?
logicalOr   → logicalAnd ('||' logicalAnd)*
logicalAnd  → comparison ('&&' comparison)*
comparison  → term (('<' | '<=' | '>' | '>=' | '==' | '!=') term)*
term        → product (('+' | '-') product)*
product     → primary (('*' | '/') primary)*
primary     → INT | FLOAT | BOOL | STRING | IDENT ('(' args ')')? | '(' assignment ')'
args        → (assignment ((',' | ';') assignment)*)?
```

The binary levels are numbered from `product` (level 1) to `logicalOr` (level 5), with
`primary` as level 0. An expression's derivation carries its abstract tree (`Ast`): the
operators of one level group to the left, `=` groups to the right, parentheses leave no node,
and every node holds the location of its operator or of its first token.

The grammar is ambiguous at `else` only: a derivation may give an `else` to any `if` that is
still open. `afterThen` and `ElseClosed` say what can follow the branch of an `if`.
-/

namespace ImpFront

namespace Grammar

/-- `w` starts with a token of kind `k`, and `w'` follows it. -/
def Tok (k : TokenKind) (w w' : List Token) : Prop := ∃ t, w = t :: w' ∧ t.kind = k

@[simp]
theorem tok_cons_iff {k : TokenKind} {t : Token} {w w' : List Token} :
    Tok k (t :: w) w' ↔ t.kind = k ∧ w = w' := by
  constructor
  · rintro ⟨t', same, kind⟩
    cases same
    exact ⟨kind, rfl⟩
  · rintro ⟨kind, rfl⟩
    exact ⟨t, rfl, kind⟩

@[simp]
theorem not_tok_nil {k : TokenKind} {w' : List Token} : ¬Tok k [] w' := by
  rintro ⟨t, impossible, -⟩
  cases impossible

/--
The operators of each binary level with the operation each makes: products at level 1, sums
at 2, comparisons at 3, conjunction at 4 and disjunction at 5.
-/
def levelOps : Nat → List (TokenKind × BinOp)
  | 1 => [(.star, .mul), (.slash, .div)]
  | 2 => [(.plus, .add), (.minus, .sub)]
  | 3 => [(.lt, .lt), (.le, .le), (.gt, .gt), (.ge, .ge), (.eqEq, .eq), (.notEq, .ne)]
  | 4 => [(.andAnd, .and)]
  | 5 => [(.orOr, .or)]
  | _ => []

/-- The level of an operator's kind, and 0 for every other kind. -/
def levelOf : TokenKind → Nat
  | .star | .slash => 1
  | .plus | .minus => 2
  | .lt | .le | .gt | .ge | .eqEq | .notEq => 3
  | .andAnd => 4
  | .orOr => 5
  | _ => 0

theorem levelOf_of_mem {k : TokenKind} {op : BinOp} {n : Nat} (listed : (k, op) ∈ levelOps n) :
    levelOf k = n := by
  rcases n with _ | _ | _ | _ | _ | _ | n <;> simp [levelOps] at listed <;> grind [levelOf]

/-- A kind makes one operation at its level. -/
theorem op_unique {k : TokenKind} {op op' : BinOp} {n : Nat} (listed : (k, op) ∈ levelOps n)
    (listed' : (k, op') ∈ levelOps n) : op = op' := by
  rcases n with _ | _ | _ | _ | _ | _ | n <;> simp [levelOps] at listed listed' <;> grind

/-- The kinds of literal tokens. -/
def literalKinds : List TokenKind := [.intLit, .floatLit, .boolLit, .stringLit]

/--
The abstract tree of an expression: literals and variables at their token, calls at the
function's name with their arguments in order, and binary operations at their operator.
-/
inductive Ast where
  | lit (loc : Location)
  | var (loc : Location)
  | call (args : List Ast) (loc : Location)
  | binary (op : BinOp) (lhs rhs : Ast) (loc : Location)
deriving Inhabited

mutual

/-- `assignment → logicalOr ('=' assignment)?`; an assignment groups to the right. -/
inductive Assign : List Token → List Token → Ast → Prop
  | plain {w y : List Token} {a : Ast} : Level 5 w y a → Assign w y a
  | assign {w w₁ w₂ y : List Token} {t : Token} {a b : Ast} :
      Level 5 w w₁ a → w₁ = t :: w₂ → t.kind = .eq → Assign w₂ y b →
      Assign w y (.binary .assign a b t.loc)

/--
Level `n` of the binary operators: level 0 is `primary`, and level `n + 1` is an operand of
level `n` followed by the operators of level `n + 1` with their operands.
-/
inductive Level : Nat → List Token → List Token → Ast → Prop
  | primary {w y : List Token} {a : Ast} : Primary w y a → Level 0 w y a
  | operand {n : Nat} {w w₁ y : List Token} {a b : Ast} :
      Level n w w₁ a → Tail (n + 1) a w₁ y b → Level (n + 1) w y b

/--
The operators of level `n`, each with its right operand of level `n - 1`, after the tree
`acc` built so far: every operation takes `acc` as its left operand, so they group to the
left.
-/
inductive Tail : Nat → Ast → List Token → List Token → Ast → Prop
  | done {n : Nat} {acc : Ast} {w : List Token} : Tail n acc w w acc
  | more {n : Nat} {acc b c : Ast} {w w₁ w₂ y : List Token} {t : Token} {op : BinOp} :
      w = t :: w₁ → (t.kind, op) ∈ levelOps n → Level (n - 1) w₁ w₂ b →
      Tail n (.binary op acc b t.loc) w₂ y c → Tail n acc w y c

/-- `primary → INT | FLOAT | BOOL | STRING | IDENT ('(' args ')')? | '(' assignment ')'`. -/
inductive Primary : List Token → List Token → Ast → Prop
  | lit {w y : List Token} {t : Token} :
      w = t :: y → t.kind ∈ literalKinds → Primary w y (.lit t.loc)
  | var {w y : List Token} {t : Token} : w = t :: y → t.kind = .ident → Primary w y (.var t.loc)
  | call {w w₁ w₂ w₃ y : List Token} {t : Token} {args : List Ast} :
      w = t :: w₁ → t.kind = .ident → Tok .lParen w₁ w₂ → Args w₂ w₃ args →
      Tok .rParen w₃ y → Primary w y (.call args t.loc)
  | paren {w w₁ w₂ y : List Token} {a : Ast} :
      Tok .lParen w w₁ → Assign w₁ w₂ a → Tok .rParen w₂ y → Primary w y a

/-- `args → (assignment ((',' | ';') assignment)*)?`. -/
inductive Args : List Token → List Token → List Ast → Prop
  | none {w : List Token} : Args w w []
  | some {w w₁ y : List Token} {a : Ast} {as : List Ast} :
      Assign w w₁ a → ArgsTail w₁ y as → Args w y (a :: as)

/-- The arguments after the first, each after a comma or a semicolon. -/
inductive ArgsTail : List Token → List Token → List Ast → Prop
  | done {w : List Token} : ArgsTail w w []
  | more {w w₁ w₂ y : List Token} {a : Ast} {as : List Ast} :
      (Tok .comma w w₁ ∨ Tok .semicolon w w₁) → Assign w₁ w₂ a → ArgsTail w₂ y as →
      ArgsTail w y (a :: as)

end

/-- `varDecl → 'var' IDENT '=' assignment ';'`. -/
inductive VarDecl : List Token → List Token → Prop
  | mk {w w₁ w₂ w₃ w₄ y : List Token} {a : Ast} :
      Tok .varKw w w₁ → Tok .ident w₁ w₂ → Tok .eq w₂ w₃ → Assign w₃ w₄ a →
      Tok .semicolon w₄ y → VarDecl w y

/-- A condition in parentheses, as `if` and `while` have it: `'(' assignment ')'`. -/
inductive Condition : List Token → List Token → Prop
  | mk {w w₁ w₂ y : List Token} {a : Ast} :
      Tok .lParen w w₁ → Assign w₁ w₂ a → Tok .rParen w₂ y → Condition w y

/-- What opens the header of a `for` loop: `varDecl | assignment ';'`. -/
inductive ForInit : List Token → List Token → Prop
  | var {w y : List Token} : VarDecl w y → ForInit w y
  | expr {w w₁ y : List Token} {a : Ast} :
      Assign w w₁ a → Tok .semicolon w₁ y → ForInit w y

mutual

/-- `statement`, one constructor for each alternative; `if` has one with and one without `else`. -/
inductive Statement : List Token → List Token → Prop
  | block {w y : List Token} : Block w y → Statement w y
  | ifThen {w w₁ w₂ y : List Token} :
      Tok .ifKw w w₁ → Condition w₁ w₂ → Statement w₂ y → Statement w y
  | ifElse {w w₁ w₂ w₃ w₄ y : List Token} :
      Tok .ifKw w w₁ → Condition w₁ w₂ → Statement w₂ w₃ → Tok .elseKw w₃ w₄ →
      Statement w₄ y → Statement w y
  | whileLoop {w w₁ w₂ y : List Token} :
      Tok .whileKw w w₁ → Condition w₁ w₂ → Statement w₂ y → Statement w y
  | forLoop {w w₁ w₂ w₃ w₄ w₅ w₆ w₇ y : List Token} {a b : Ast} :
      Tok .forKw w w₁ → Tok .lParen w₁ w₂ → ForInit w₂ w₃ → Assign w₃ w₄ a →
      Tok .semicolon w₄ w₅ → Assign w₅ w₆ b → Tok .rParen w₆ w₇ → Statement w₇ y →
      Statement w y
  | varDecl {w y : List Token} : VarDecl w y → Statement w y
  | ret {w w₁ w₂ y : List Token} {a : Ast} :
      Tok .returnKw w w₁ → Assign w₁ w₂ a → Tok .semicolon w₂ y → Statement w y
  | expr {w w₁ y : List Token} {a : Ast} : Assign w w₁ a → Tok .semicolon w₁ y → Statement w y

/-- `block → '{' statement* '}'`. -/
inductive Block : List Token → List Token → Prop
  | mk {w w₁ w₂ y : List Token} :
      Tok .lBrace w w₁ → Stmts w₁ w₂ → Tok .rBrace w₂ y → Block w y

/-- `statement*`. -/
inductive Stmts : List Token → List Token → Prop
  | nil {w : List Token} : Stmts w w
  | cons {w w₁ y : List Token} : Statement w w₁ → Stmts w₁ y → Stmts w y

end

/-- The parameters after the first, each after a comma. -/
inductive ParamsTail : List Token → List Token → Prop
  | done {w : List Token} : ParamsTail w w
  | more {w w₁ w₂ w₃ w₄ y : List Token} :
      Tok .comma w w₁ → Tok .ident w₁ w₂ → Tok .colon w₂ w₃ → Tok .ident w₃ w₄ →
      ParamsTail w₄ y → ParamsTail w y

/-- `params → (IDENT ':' IDENT (',' IDENT ':' IDENT)*)?`. -/
inductive Params : List Token → List Token → Prop
  | none {w : List Token} : Params w w
  | some {w w₁ w₂ w₃ y : List Token} :
      Tok .ident w w₁ → Tok .colon w₁ w₂ → Tok .ident w₂ w₃ → ParamsTail w₃ y → Params w y

/-- `declaration → varDecl | IDENT '(' params ')' block`. -/
inductive Declaration : List Token → List Token → Prop
  | var {w y : List Token} : VarDecl w y → Declaration w y
  | func {w w₁ w₂ w₃ w₄ y : List Token} :
      Tok .ident w w₁ → Tok .lParen w₁ w₂ → Params w₂ w₃ → Tok .rParen w₃ w₄ → Block w₄ y →
      Declaration w y

/-- `declaration*`. -/
inductive Decls : List Token → List Token → Prop
  | nil {w : List Token} : Decls w w
  | cons {w w₁ y : List Token} : Declaration w w₁ → Decls w₁ y → Decls w y

/--
The words of the grammar: declarations up to the end-of-input token, which ends the word.
-/
def Program (w : List Token) : Prop := ∃ w₁, Decls w w₁ ∧ Tok .eof w₁ []

/-! ## What follows a derivation -/

/-- `y` does not start with a token of a kind in `stop`. -/
def Stops (stop : TokenKind → Prop) : List Token → Prop
  | [] => True
  | t :: _ => ¬stop t.kind

/-- `x` starts with a token of the kind of `next`, if it has a token at all. -/
def StartsLike (next : Token) : List Token → Prop
  | [] => True
  | t :: _ => t.kind = next.kind

@[simp]
theorem stops_nil (stop : TokenKind → Prop) : Stops stop [] := trivial

@[simp]
theorem stops_cons {stop : TokenKind → Prop} {t : Token} {y : List Token} :
    Stops stop (t :: y) ↔ ¬stop t.kind := Iff.rfl

@[simp]
theorem startsLike_nil (next : Token) : StartsLike next [] := trivial

@[simp]
theorem startsLike_cons {next t : Token} {x : List Token} :
    StartsLike next (t :: x) ↔ t.kind = next.kind := Iff.rfl

theorem Stops.mono {stop stop' : TokenKind → Prop} (sub : ∀ k, stop' k → stop k) :
    ∀ {y : List Token}, Stops stop y → Stops stop' y
  | [], _ => trivial
  | _ :: _, stops => fun continues => stops (sub _ continues)

/--
The kinds that can continue an expression of level `n` once a whole one is read: an operator
of a level up to `n`, or `(` after a name, which makes it a call.
-/
def Continues (n : Nat) (k : TokenKind) : Prop := k = .lParen ∨ (0 < levelOf k ∧ levelOf k ≤ n)

/-- The kinds that can continue an assignment: those of level 5, and `=`. -/
def ContinuesAssign (k : TokenKind) : Prop := k = .eq ∨ Continues 5 k

theorem Continues.mono {m n : Nat} (le : m ≤ n) {k : TokenKind} (continues : Continues m k) :
    Continues n k := by
  rcases continues with isParen | ⟨pos, below⟩
  · exact Or.inl isParen
  · exact Or.inr ⟨pos, Nat.le_trans below le⟩

theorem continues_of_mem {k : TokenKind} {op : BinOp} {n : Nat}
    (listed : (k, op) ∈ levelOps n) : Continues n k := by
  have level := levelOf_of_mem listed
  rcases n with _ | n
  · simp [levelOps] at listed
  · exact Or.inr ⟨by omega, by omega⟩

/-- An operator of level `n` does not continue an operand of the level below. -/
theorem not_continues_of_mem {k : TokenKind} {op : BinOp} {n : Nat}
    (listed : (k, op) ∈ levelOps n) : ¬Continues (n - 1) k := by
  have level := levelOf_of_mem listed
  rintro (isParen | ⟨-, below⟩)
  · subst isParen
    simp [levelOf] at level
    subst level
    simp [levelOps] at listed
  · rcases n with _ | n
    · simp [levelOps] at listed
    · omega

/-- What follows the operators of a level also ends the operand before them. -/
theorem Tail.stops {n : Nat} {acc c : Ast} {w y : List Token} (tail : Tail n acc w y c)
    (stops : Stops (Continues n) y) : Stops (Continues (n - 1)) w := by
  cases tail with
  | done => exact stops.mono fun _ => Continues.mono (Nat.sub_le n 1)
  | more starts listed _ _ =>
      subst starts
      exact not_continues_of_mem listed

/-! ## First tokens -/

/-- An expression starts with a literal, a name or `(`. -/
theorem Primary.head {w y : List Token} {a : Ast} (primary : Primary w y a) :
    ∃ t w', w = t :: w' ∧ t.kind ∈ TokenKind.exprStart := by
  cases primary with
  | lit starts isLit =>
      refine ⟨_, _, starts, ?_⟩
      simp only [literalKinds, List.mem_cons, List.not_mem_nil, or_false] at isLit
      rcases isLit with h | h | h | h <;> simp [h, TokenKind.exprStart]
  | var starts isName => exact ⟨_, _, starts, by simp [isName, TokenKind.exprStart]⟩
  | call starts isName => exact ⟨_, _, starts, by simp [isName, TokenKind.exprStart]⟩
  | paren opens =>
      obtain ⟨t, starts, isParen⟩ := opens
      exact ⟨t, _, starts, by simp [isParen, TokenKind.exprStart]⟩

theorem Level.head {n : Nat} {w y : List Token} {a : Ast} (level : Level n w y a) :
    ∃ t w', w = t :: w' ∧ t.kind ∈ TokenKind.exprStart := by
  induction n generalizing w y a with
  | zero =>
      cases level with
      | primary primary => exact primary.head
  | succ n ih =>
      cases level with
      | operand operand _ => exact ih operand

theorem Assign.head {w y : List Token} {a : Ast} (assign : Assign w y a) :
    ∃ t w', w = t :: w' ∧ t.kind ∈ TokenKind.exprStart := by
  cases assign with
  | plain level => exact level.head
  | assign level => exact level.head

/-- An expression does not start with a kind outside the six that start one. -/
theorem Assign.not_cons {w y : List Token} {a : Ast} {t : Token}
    (notStart : t.kind ∉ TokenKind.exprStart) : ¬Assign (t :: w) y a := by
  intro assign
  obtain ⟨t', w', same, start⟩ := assign.head
  cases same
  exact notStart start

/-- A statement starts with `{`, a keyword other than `else`, or what starts an expression. -/
theorem Statement.head {w y : List Token} (statement : Statement w y) :
    ∃ t w', w = t :: w' ∧
      t.kind ∈ [.lBrace, .ifKw, .whileKw, .forKw, .varKw, .returnKw] ++ TokenKind.exprStart := by
  cases statement with
  | block block =>
      cases block with
      | mk opens _ _ =>
          obtain ⟨t, starts, isBrace⟩ := opens
          exact ⟨t, _, starts, by simp [isBrace]⟩
  | ifThen opens | ifElse opens | whileLoop opens | forLoop opens | ret opens =>
      obtain ⟨t, starts, isKw⟩ := opens
      exact ⟨t, _, starts, by simp [isKw]⟩
  | varDecl decl =>
      cases decl with
      | mk opens =>
          obtain ⟨t, starts, isKw⟩ := opens
          exact ⟨t, _, starts, by simp [isKw]⟩
  | expr value =>
      obtain ⟨t, w', starts, start⟩ := value.head
      exact ⟨t, w', starts, List.mem_append_right _ start⟩

/-! ## What can follow the branch of an `if` -/

/--
What may follow the statement after `if (...)`, given what may follow the `if`: that, or
an `else`, a statement and then that.
-/
def afterThen (K : List Token → Prop) (z : List Token) : Prop :=
  K z ∨ ∃ w y, Tok .elseKw z w ∧ Statement w y ∧ K y

/--
Continuations that take an `else` only before a statement that they also take: such an
`else` can always go to an `if` further in.
-/
def ElseClosed (K : List Token → Prop) : Prop :=
  ∀ z w, Tok .elseKw z w → K z → ∃ y, Statement w y ∧ K y

variable {K : List Token → Prop}

theorem ElseClosed.afterThen (closed : ElseClosed K) : ElseClosed (afterThen K) := by
  rintro z w isElse (follows | ⟨w', y, isElse', statement, follows⟩)
  · obtain ⟨y, statement, follows⟩ := closed z w isElse follows
    exact ⟨y, statement, Or.inl follows⟩
  · obtain ⟨t, rfl, -⟩ := isElse
    obtain ⟨t', same, -⟩ := isElse'
    cases same
    exact ⟨y, statement, Or.inl follows⟩

/-- After the branch of an `if`, an `else` starts a statement that the `if` may be followed by. -/
theorem afterThen_else (closed : ElseClosed K) {z w : List Token} (follows : afterThen K z)
    (isElse : Tok .elseKw z w) : ∃ y, Statement w y ∧ K y := by
  rcases follows with follows | ⟨w', y, isElse', statement, follows⟩
  · exact closed z w isElse follows
  · obtain ⟨t, rfl, -⟩ := isElse
    obtain ⟨t', same, -⟩ := isElse'
    cases same
    exact ⟨y, statement, follows⟩

/-- After the branch of an `if`, what does not start with `else` may follow the `if` itself. -/
theorem afterThen_of_startsLike {z : List Token} {next : Token} (follows : afterThen K z)
    (starts : StartsLike next z) (notElse : next.kind ≠ .elseKw) : K z := by
  rcases follows with follows | ⟨w, y, ⟨t, rfl, isElse⟩, -, -⟩
  · exact follows
  · exact absurd (isElse ▸ starts.symm) notElse

end Grammar

mutual

/-- The abstract tree of a typed expression: its types and entries left out. -/
def Expr.ast : Expr → Grammar.Ast
  | .binary op lhs rhs _ loc => .binary op lhs.ast rhs.ast loc
  | .call _ args _ loc => .call (Expr.astList args) loc
  | .var _ _ loc => .var loc
  | .lit _ _ loc => .lit loc
termination_by structural e => e

/-- The abstract trees of a list of arguments, in order. -/
def Expr.astList : List Expr → List Grammar.Ast
  | [] => []
  | a :: as => a.ast :: Expr.astList as
termination_by structural es => es

end

@[simp]
theorem Expr.astList_eq_map (es : List Expr) : Expr.astList es = es.map Expr.ast := by
  induction es with
  | nil => rfl
  | cons e es ih => simp [Expr.astList, ih]

end ImpFront
