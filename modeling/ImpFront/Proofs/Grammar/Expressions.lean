import ImpFront.Proofs.Grammar.Continuations

/-!
# Longest derivations of expressions

An expression is read as far as it goes: after an operand the reader takes every operator of
its level, after a name it takes a `(`, and after a disjunction it takes an `=`. This module
states, for the expression relations of the grammar, what it means that such a reading was
right, with the derivation's tree:

* `Munches R stop u next a`: `u` derives from `R` with tree `a`, and every derivation from
  `R` over `u` and more tokens, followed by nothing that `stop` lists, is that one: it ends
  after `u` and has the tree `a`. `next` is the token after `u`, and what comes after `u`
  starts with it.
* `Blocked R stop p t`: `p` starts a word of `R`, and no derivation from `R` followed by
  nothing in `stop` reads `p` and then `t`.

`stop` is what could continue a derivation of the relation: `Continues n` after a level `n`,
`ContinuesAssign` after an assignment. Each rule of the grammar gets one lemma per way the
reader can go through it (`Munches.assign`, `Munches.level_succ`, `Blocked.tail_rest`, ...),
and the reader's proofs put these together along its own recursion.
-/

namespace ImpFront

namespace Grammar

/-! ## Arguments -/

/-- The arguments of a call and the closing parenthesis: `args ')'`. -/
def CallArgs (w y : List Token) (as : List Ast) : Prop := ∃ w₁, Args w w₁ as ∧ Tok .rParen w₁ y

/-- What follows the first argument of a call: `((',' | ';') assignment)* ')'`. -/
def ArgsRest (w y : List Token) (as : List Ast) : Prop :=
  ∃ w₁, ArgsTail w w₁ as ∧ Tok .rParen w₁ y

/-- One argument or more and the closing parenthesis: `assignment ((',' | ';') assignment)* ')'`. -/
def ArgsFrom (w y : List Token) (as : List Ast) : Prop :=
  ∃ w₁ a rest, Assign w w₁ a ∧ ArgsRest w₁ y rest ∧ as = a :: rest

theorem argsRest_iff {w y : List Token} {as : List Ast} :
    ArgsRest w y as ↔
      (as = [] ∧ Tok .rParen w y) ∨ ∃ w₁, (Tok .comma w w₁ ∨ Tok .semicolon w w₁) ∧ ArgsFrom w₁ y as := by
  constructor
  · rintro ⟨w₁, tail, closes⟩
    cases tail with
    | done => exact Or.inl ⟨rfl, closes⟩
    | more separated first tail => exact Or.inr ⟨_, separated, _, _, _, first, ⟨w₁, tail, closes⟩, rfl⟩
  · rintro (⟨rfl, closes⟩ | ⟨w₁, separated, w₂, a, rest, first, ⟨w₃, tail, closes⟩, rfl⟩)
    · exact ⟨w, .done, closes⟩
    · exact ⟨w₃, .more separated first tail, closes⟩

theorem callArgs_iff {w y : List Token} {as : List Ast} :
    CallArgs w y as ↔ (as = [] ∧ Tok .rParen w y) ∨ ArgsFrom w y as := by
  constructor
  · rintro ⟨w₁, args, closes⟩
    cases args with
    | none => exact Or.inl ⟨rfl, closes⟩
    | some first tail => exact Or.inr ⟨_, _, _, first, ⟨w₁, tail, closes⟩, rfl⟩
  · rintro (⟨rfl, closes⟩ | ⟨w₁, a, rest, first, ⟨w₂, tail, closes⟩, rfl⟩)
    · exact ⟨w, .none, closes⟩
    · exact ⟨w₂, .some first tail, closes⟩

/-- The kinds that end an argument. -/
def argCloser : List TokenKind := [.comma, .semicolon, .rParen]

theorem ArgsRest.head {w y : List Token} {as : List Ast} (rest : ArgsRest w y as) :
    ∃ t w', w = t :: w' ∧ t.kind ∈ argCloser := by
  rcases argsRest_iff.1 rest with ⟨-, t, starts, isClose⟩ | ⟨w₁, ⟨t, starts, isSep⟩ | ⟨t, starts, isSep⟩, -⟩
  all_goals exact ⟨t, _, starts, by simp [argCloser, *]⟩

/-! ## What continues an expression -/

/-- `=` continues no level: it is read by the assignment rule alone. -/
theorem stops_eq {n : Nat} {t : Token} {w : List Token} (isEq : t.kind = .eq) :
    Stops (Continues n) (t :: w) := by
  simp [Continues, levelOf, isEq]

/-- What ends an argument or a parenthesis does not continue an assignment. -/
theorem not_continuesAssign {k : TokenKind} (closes : k ∈ argCloser) : ¬ContinuesAssign k := by
  simp only [argCloser, List.mem_cons, List.not_mem_nil, or_false] at closes
  rcases closes with rfl | rfl | rfl <;> simp [ContinuesAssign, Continues, levelOf]

theorem stops_closer {t : Token} {w : List Token} (closes : t.kind ∈ argCloser) :
    Stops ContinuesAssign (t :: w) :=
  not_continuesAssign closes

theorem ArgsRest.stops {w y : List Token} {as : List Ast} (rest : ArgsRest w y as) :
    Stops ContinuesAssign w := by
  obtain ⟨t, w', rfl, closes⟩ := rest.head
  exact stops_closer closes

/-! ## Longest derivations -/

/--
`u` derives from `R` with tree `a`, and every derivation from `R` over `u` and tokens that
start like `next`, followed by nothing in `stop`, ends after `u` with tree `a`.
-/
structure Munches {α : Type} (R : List Token → List Token → α → Prop) (stop : TokenKind → Prop)
    (u : List Token) (next : Token) (a : α) : Prop where
  derives : ∀ y, R (u ++ y) y a
  exact : ∀ x y b, StartsLike next x → Stops stop y → R (u ++ x) y b → y = x ∧ b = a

/--
`p` starts a word of `R`, and no derivation from `R` followed by nothing in `stop` reads `p`
and then `t`.
-/
structure Blocked {α : Type} (R : List Token → List Token → α → Prop) (stop : TokenKind → Prop)
    (p : List Token) (t : Token) : Prop where
  viable : ∃ x a, ∀ y, R (p ++ x ++ y) y a
  blocked : ∀ s y a, Stops stop y → ¬R (p ++ t :: s) y a

section

variable {u u₁ u₂ p : List Token} {t next n₁ : Token} {a b : Ast} {stop : TokenKind → Prop}

/-! ### Words -/

section Words

variable {α : Type} {R : List Token → List Token → α → Prop} {a' : α}

/-- What a longest derivation reads is a word of its relation. -/
theorem Munches.word (munches : Munches R stop u next a') : R u [] a' := by
  simpa using munches.derives []

/-- The word has no derivation but the one with the tree found. -/
theorem Munches.unique (munches : Munches R stop u next a') {b' : α} (derived : R u [] b') :
    b' = a' :=
  (munches.exact [] [] b' trivial trivial (by simpa using derived)).2

/-- The word and the token after it start no word of the relation. -/
theorem Munches.not_prefix (munches : Munches R stop u next a') (s : List Token) {b' : α} :
    ¬R (u ++ next :: s) [] b' := by
  intro derived
  obtain ⟨impossible, -⟩ := munches.exact (next :: s) [] b' (by simp) trivial derived
  cases impossible

end Words

/-! ### Assignments -/

theorem Munches.assign_plain (lhs : Munches (Level 5) (Continues 5) u next a)
    (notEq : next.kind ≠ .eq) : Munches Assign ContinuesAssign u next a where
  derives y := .plain (lhs.derives y)
  exact x y b starts stops derived := by
    cases derived with
    | plain level => exact lhs.exact x y b starts (stops.mono fun _ => Or.inr) level
    | assign level follows isEq _ =>
        obtain ⟨rfl, -⟩ := lhs.exact x _ _ starts (follows ▸ stops_eq isEq) level
        subst follows
        exact absurd (isEq ▸ starts.symm) notEq

theorem Munches.assign {op : Token} (lhs : Munches (Level 5) (Continues 5) u₁ op a)
    (isEq : op.kind = .eq) (rhs : Munches Assign ContinuesAssign u₂ next b) :
    Munches Assign ContinuesAssign (u₁ ++ op :: u₂) next (.binary .assign a b op.loc) where
  derives y := .assign (by simpa using lhs.derives (op :: (u₂ ++ y))) rfl isEq (rhs.derives y)
  exact x y c starts stops derived := by
    simp only [List.append_assoc, List.cons_append] at derived
    cases derived with
    | plain level =>
        -- the disjunction alone would be followed by `=`
        obtain ⟨rfl, -⟩ := lhs.exact _ y _ (by simp) (stops.mono fun _ => Or.inr) level
        exact absurd (Or.inl isEq) stops
    | assign level follows isEq' rest =>
        obtain ⟨rfl, rfl⟩ := lhs.exact _ _ _ (by simp) (follows ▸ stops_eq isEq') level
        cases follows
        obtain ⟨rfl, rfl⟩ := rhs.exact x y _ starts stops rest
        exact ⟨rfl, rfl⟩

theorem Blocked.assign_lhs (lhs : Blocked (Level 5) (Continues 5) p t) :
    Blocked Assign ContinuesAssign p t where
  viable := by
    obtain ⟨x, a, derived⟩ := lhs.viable
    exact ⟨x, a, fun y => .plain (derived y)⟩
  blocked s y a stops derived := by
    cases derived with
    | plain level => exact lhs.blocked s y a (stops.mono fun _ => Or.inr) level
    | assign level follows isEq _ => exact lhs.blocked s _ _ (follows ▸ stops_eq isEq) level

theorem Blocked.assign_rhs {op : Token} (lhs : Munches (Level 5) (Continues 5) u op a)
    (isEq : op.kind = .eq) (rhs : Blocked Assign ContinuesAssign p t) :
    Blocked Assign ContinuesAssign (u ++ op :: p) t where
  viable := by
    obtain ⟨x, b, derived⟩ := rhs.viable
    refine ⟨x, .binary .assign a b op.loc, fun y => ?_⟩
    simpa using Assign.assign (lhs.derives (op :: (p ++ x ++ y))) rfl isEq (derived y)
  blocked s y c stops derived := by
    simp only [List.append_assoc, List.cons_append] at derived
    cases derived with
    | plain level =>
        obtain ⟨rfl, -⟩ := lhs.exact _ y _ (by simp) (stops.mono fun _ => Or.inr) level
        exact stops (Or.inl isEq)
    | assign level follows isEq' rest =>
        obtain ⟨rfl, rfl⟩ := lhs.exact _ _ _ (by simp) (follows ▸ stops_eq isEq') level
        cases follows
        exact rhs.blocked s y _ stops rest

/-! ### Levels -/

theorem Munches.level_zero (primary : Munches Primary (Continues 0) u next a) :
    Munches (Level 0) (Continues 0) u next a where
  derives y := .primary (primary.derives y)
  exact x y b starts stops derived := by
    cases derived with
    | primary derived => exact primary.exact x y b starts stops derived

theorem Munches.level_succ {n : Nat} (operand : Munches (Level n) (Continues n) u₁ n₁ a)
    (tail : Munches (Tail (n + 1) a) (Continues (n + 1)) u₂ next b)
    (link : ∀ x, StartsLike next x → StartsLike n₁ (u₂ ++ x)) :
    Munches (Level (n + 1)) (Continues (n + 1)) (u₁ ++ u₂) next b where
  derives y := .operand (by simpa using operand.derives (u₂ ++ y)) (tail.derives y)
  exact x y c starts stops derived := by
    cases derived with
    | operand level rest =>
        obtain ⟨rfl, rfl⟩ := operand.exact (u₂ ++ x) _ _ (link x starts) (rest.stops stops)
          (by simpa using level)
        exact tail.exact x y c starts stops rest

theorem Blocked.level_zero (primary : Blocked Primary (Continues 0) p t) :
    Blocked (Level 0) (Continues 0) p t where
  viable := by
    obtain ⟨x, a, derived⟩ := primary.viable
    exact ⟨x, a, fun y => .primary (derived y)⟩
  blocked s y a stops derived := by
    cases derived with
    | primary derived => exact primary.blocked s y a stops derived

theorem Blocked.level_operand {n : Nat} (operand : Blocked (Level n) (Continues n) p t) :
    Blocked (Level (n + 1)) (Continues (n + 1)) p t where
  viable := by
    obtain ⟨x, a, derived⟩ := operand.viable
    exact ⟨x, a, fun y => .operand (derived y) .done⟩
  blocked s y b stops derived := by
    cases derived with
    | operand level rest => exact operand.blocked s _ _ (rest.stops stops) level

theorem Blocked.level_tail {n : Nat} (operand : Munches (Level n) (Continues n) u n₁ a)
    (tail : Blocked (Tail (n + 1) a) (Continues (n + 1)) p t)
    (link : ∀ s, StartsLike n₁ (p ++ t :: s)) :
    Blocked (Level (n + 1)) (Continues (n + 1)) (u ++ p) t where
  viable := by
    obtain ⟨x, b, derived⟩ := tail.viable
    exact ⟨x, b, fun y => .operand (by simpa using operand.derives (p ++ x ++ y)) (derived y)⟩
  blocked s y b stops derived := by
    simp only [List.append_assoc] at derived
    cases derived with
    | operand level rest =>
        obtain ⟨rfl, rfl⟩ := operand.exact _ _ _ (link s) (rest.stops stops) level
        exact tail.blocked s y b stops rest

/-! ### The operators of a level -/

theorem Munches.tail_done {n : Nat} (noOp : ∀ op, (next.kind, op) ∉ levelOps n) :
    Munches (Tail n a) (Continues n) [] next a where
  derives _ := .done
  exact x y b starts _ derived := by
    cases derived with
    | done => exact ⟨rfl, rfl⟩
    | more follows listed =>
        subst follows
        rw [startsLike_cons] at starts
        rw [starts] at listed
        exact absurd listed (noOp _)

theorem Munches.tail_more {n : Nat} {c : Ast} {opTok : Token} {op : BinOp}
    (listed : (opTok.kind, op) ∈ levelOps n)
    (operand : Munches (Level (n - 1)) (Continues (n - 1)) u₁ n₁ b)
    (rest : Munches (Tail n (.binary op a b opTok.loc)) (Continues n) u₂ next c)
    (link : ∀ x, StartsLike next x → StartsLike n₁ (u₂ ++ x)) :
    Munches (Tail n a) (Continues n) (opTok :: (u₁ ++ u₂)) next c where
  derives y := .more rfl listed (by simpa using operand.derives (u₂ ++ y)) (rest.derives y)
  exact x y c' starts stops derived := by
    cases derived with
    | done => exact absurd (continues_of_mem listed) stops
    | more follows listed' level tail =>
        cases follows
        obtain rfl := op_unique listed listed'
        obtain ⟨rfl, rfl⟩ := operand.exact (u₂ ++ x) _ _ (link x starts) (tail.stops stops)
          (by simpa using level)
        exact rest.exact x y c' starts stops tail

theorem Blocked.tail_operand {n : Nat} {opTok : Token} {op : BinOp}
    (listed : (opTok.kind, op) ∈ levelOps n)
    (operand : Blocked (Level (n - 1)) (Continues (n - 1)) p t) :
    Blocked (Tail n a) (Continues n) (opTok :: p) t where
  viable := by
    obtain ⟨x, b, derived⟩ := operand.viable
    exact ⟨x, _, fun y => .more rfl listed (derived y) .done⟩
  blocked s y c stops derived := by
    cases derived with
    | done => exact stops (continues_of_mem listed)
    | more follows _ level rest =>
        cases follows
        exact operand.blocked s _ _ (rest.stops stops) level

theorem Blocked.tail_rest {n : Nat} {opTok : Token} {op : BinOp}
    (listed : (opTok.kind, op) ∈ levelOps n)
    (operand : Munches (Level (n - 1)) (Continues (n - 1)) u n₁ b)
    (rest : Blocked (Tail n (.binary op a b opTok.loc)) (Continues n) p t)
    (link : ∀ s, StartsLike n₁ (p ++ t :: s)) :
    Blocked (Tail n a) (Continues n) (opTok :: (u ++ p)) t where
  viable := by
    obtain ⟨x, c, derived⟩ := rest.viable
    exact ⟨x, c, fun y => .more rfl listed (by simpa using operand.derives (p ++ x ++ y))
      (derived y)⟩
  blocked s y c stops derived := by
    cases derived with
    | done => exact stops (continues_of_mem listed)
    | more follows listed' level tail =>
        cases follows
        obtain rfl := op_unique listed listed'
        obtain ⟨rfl, rfl⟩ := operand.exact (p ++ t :: s) _ _ (link s) (tail.stops stops)
          (by simpa using level)
        exact rest.blocked s y c stops tail

/-! ### Primary expressions -/

theorem Munches.primary_lit (isLit : t.kind ∈ literalKinds) :
    Munches Primary stop [t] next (.lit t.loc) where
  derives _ := .lit rfl isLit
  exact x y b _ _ derived := by
    cases derived with
    | lit follows _ =>
        cases follows
        exact ⟨rfl, rfl⟩
    | var follows isName | call follows isName =>
        cases follows
        simp [literalKinds, isName] at isLit
    | paren opens =>
        obtain ⟨isParen, -⟩ := tok_cons_iff.1 opens
        simp [literalKinds, isParen] at isLit

theorem Munches.primary_var (isName : t.kind = .ident) (notCall : next.kind ≠ .lParen) :
    Munches Primary stop [t] next (.var t.loc) where
  derives _ := .var rfl isName
  exact x y b starts _ derived := by
    cases derived with
    | lit follows isLit =>
        cases follows
        simp [literalKinds, isName] at isLit
    | var follows _ =>
        cases follows
        exact ⟨rfl, rfl⟩
    | call follows _ opens =>
        cases follows
        obtain ⟨lp, rfl, isParen⟩ := opens
        exact absurd (isParen ▸ starts.symm) notCall
    | paren opens =>
        obtain ⟨isParen, -⟩ := tok_cons_iff.1 opens
        rw [isName] at isParen
        cases isParen

/-- A name is no literal and no `(`, so the only derivations from it are variables and calls. -/
theorem primary_name_cases {name : Token} {w y : List Token} {a : Ast}
    (isName : name.kind = .ident) (derived : Primary (name :: w) y a) :
    (y = w ∧ a = .var name.loc) ∨
      ∃ w₂ w₃ as, Tok .lParen w w₂ ∧ Args w₂ w₃ as ∧ Tok .rParen w₃ y ∧ a = .call as name.loc := by
  cases derived with
  | lit follows isLit =>
      cases follows
      simp [literalKinds, isName] at isLit
  | var follows _ =>
      cases follows
      exact Or.inl ⟨rfl, rfl⟩
  | call follows _ opens args closes =>
      cases follows
      exact Or.inr ⟨_, _, _, opens, args, closes, rfl⟩
  | paren opens =>
      obtain ⟨isParen, -⟩ := tok_cons_iff.1 opens
      rw [isName] at isParen
      cases isParen

/-- A `(` is no literal and no name, so the only derivations from it are parentheses. -/
theorem primary_paren_cases {lp : Token} {w y : List Token} {a : Ast}
    (isOpen : lp.kind = .lParen) (derived : Primary (lp :: w) y a) :
    ∃ w₂, Assign w w₂ a ∧ Tok .rParen w₂ y := by
  cases derived with
  | lit follows isLit =>
      cases follows
      simp [literalKinds, isOpen] at isLit
  | var follows isName | call follows isName =>
      cases follows
      rw [isOpen] at isName
      cases isName
  | paren opens inner closes =>
      obtain ⟨-, rfl⟩ := tok_cons_iff.1 opens
      exact ⟨_, inner, closes⟩

theorem Munches.primary_paren {lp rp : Token} (isOpen : lp.kind = .lParen)
    (inner : Munches Assign ContinuesAssign u rp a) (isClose : rp.kind = .rParen) :
    Munches Primary stop (lp :: (u ++ [rp])) next a where
  derives y := by
    simpa using Primary.paren (tok_cons_iff.2 ⟨isOpen, rfl⟩) (inner.derives (rp :: y))
      (tok_cons_iff.2 ⟨isClose, rfl⟩)
  exact x y b _ _ derived := by
    obtain ⟨w₂, assign, t', rfl, isClose'⟩ := primary_paren_cases isOpen derived
    have closer : t'.kind ∈ argCloser := by simp [argCloser, isClose']
    obtain ⟨same, rfl⟩ := inner.exact (rp :: x) _ b (by simp) (stops_closer closer)
      (by simpa using assign)
    cases same
    exact ⟨rfl, rfl⟩

theorem Munches.primary_call {name lp : Token} {as : List Ast} (isName : name.kind = .ident)
    (isOpen : lp.kind = .lParen) (args : Munches CallArgs (Continues 0) u next as) :
    Munches Primary (Continues 0) (name :: lp :: u) next (.call as name.loc) where
  derives y := by
    obtain ⟨w₃, argsDerived, closes⟩ := args.derives y
    exact .call rfl isName (tok_cons_iff.2 ⟨isOpen, rfl⟩) argsDerived closes
  exact x y b starts stops derived := by
    rcases primary_name_cases isName derived with ⟨rfl, -⟩ | ⟨w₂, w₃, as', opens, argsDerived,
      closes, rfl⟩
    · exact absurd (Or.inl isOpen) stops
    · obtain ⟨-, rfl⟩ := tok_cons_iff.1 opens
      obtain ⟨rfl, rfl⟩ := args.exact x y as' starts stops ⟨w₃, argsDerived, closes⟩
      exact ⟨rfl, rfl⟩

theorem Blocked.primary_start (notStart : t.kind ∉ TokenKind.exprStart) :
    Blocked Primary stop [] t where
  viable := ⟨[Token.ofKind .intLit], .lit (Token.ofKind .intLit).loc, fun _ => .lit rfl (by decide)⟩
  blocked s y a _ derived := by
    obtain ⟨t', w', same, start⟩ := derived.head
    cases same
    exact notStart start

theorem Blocked.primary_paren {lp : Token} (isOpen : lp.kind = .lParen)
    (inner : Blocked Assign ContinuesAssign p t) : Blocked Primary stop (lp :: p) t where
  viable := by
    obtain ⟨x, a, derived⟩ := inner.viable
    refine ⟨x ++ [Token.ofKind .rParen], a, fun y => ?_⟩
    simpa using Primary.paren (tok_cons_iff.2 ⟨isOpen, rfl⟩) (derived (Token.ofKind .rParen :: y))
      (tok_cons_iff.2 ⟨rfl, rfl⟩)
  blocked s y a _ derived := by
    obtain ⟨w₂, assign, t', rfl, isClose⟩ := primary_paren_cases isOpen derived
    have closer : t'.kind ∈ argCloser := by simp [argCloser, isClose]
    exact inner.blocked s _ a (stops_closer closer) assign

theorem Blocked.primary_close {lp : Token} (isOpen : lp.kind = .lParen)
    (inner : Munches Assign ContinuesAssign u next a) (notClose : next.kind ≠ .rParen) :
    Blocked Primary stop (lp :: u) next where
  viable := by
    refine ⟨[Token.ofKind .rParen], a, fun y => ?_⟩
    simpa using Primary.paren (tok_cons_iff.2 ⟨isOpen, rfl⟩)
      (inner.derives (Token.ofKind .rParen :: y)) (tok_cons_iff.2 ⟨rfl, rfl⟩)
  blocked s y b _ derived := by
    obtain ⟨w₂, assign, t', rfl, isClose⟩ := primary_paren_cases isOpen derived
    have closer : t'.kind ∈ argCloser := by simp [argCloser, isClose]
    obtain ⟨same, -⟩ := inner.exact (next :: s) _ b (by simp) (stops_closer closer) assign
    have sameTok : t' = next := (List.cons.inj same).1
    subst sameTok
    exact notClose isClose

theorem Blocked.primary_call {name lp : Token} (isName : name.kind = .ident)
    (isOpen : lp.kind = .lParen) (args : Blocked CallArgs (Continues 0) p t) :
    Blocked Primary (Continues 0) (name :: lp :: p) t where
  viable := by
    obtain ⟨x, as, derived⟩ := args.viable
    refine ⟨x, .call as name.loc, fun y => ?_⟩
    obtain ⟨w₃, argsDerived, closes⟩ := derived y
    exact .call rfl isName (tok_cons_iff.2 ⟨isOpen, rfl⟩) argsDerived closes
  blocked s y b stops derived := by
    rcases primary_name_cases isName derived with ⟨rfl, -⟩ | ⟨w₂, w₃, as', opens, argsDerived,
      closes, -⟩
    · exact stops (Or.inl isOpen)
    · obtain ⟨-, rfl⟩ := tok_cons_iff.1 opens
      exact args.blocked s y as' stops ⟨w₃, argsDerived, closes⟩

/-! ### Arguments -/

section Arguments

variable {as : List Ast}

theorem Munches.callArgs_none {rp : Token} (isClose : rp.kind = .rParen) :
    Munches CallArgs stop [rp] next [] where
  derives _ := ⟨_, .none, tok_cons_iff.2 ⟨isClose, rfl⟩⟩
  exact x y bs _ _ derived := by
    rcases callArgs_iff.1 derived with ⟨rfl, closes⟩ | ⟨w₁, a, rest, assign, -, -⟩
    · exact ⟨(tok_cons_iff.1 closes).2.symm, rfl⟩
    · exact absurd assign (Assign.not_cons (by rw [isClose]; decide))

theorem Munches.callArgs_some (args : Munches ArgsFrom stop u next as) :
    Munches CallArgs stop u next as where
  derives y := callArgs_iff.2 (Or.inr (args.derives y))
  exact x y bs starts stops derived := by
    rcases callArgs_iff.1 derived with ⟨-, t', same, isClose⟩ | derived
    · -- the words of `ArgsFrom` start with an expression, never with `)`
      obtain ⟨w₁, a, rest, assign, -, -⟩ := args.derives x
      rw [same] at assign
      exact absurd assign (Assign.not_cons (by rw [isClose]; decide))
    · exact args.exact x y bs starts stops derived

theorem Munches.argsRest_close {rp : Token} (isClose : rp.kind = .rParen) :
    Munches ArgsRest stop [rp] next [] where
  derives _ := ⟨_, .done, tok_cons_iff.2 ⟨isClose, rfl⟩⟩
  exact x y bs _ _ derived := by
    rcases argsRest_iff.1 derived with ⟨rfl, closes⟩ | ⟨w₁, separated, -⟩
    · exact ⟨(tok_cons_iff.1 closes).2.symm, rfl⟩
    · simp [isClose] at separated

theorem Munches.argsRest_more {sep : Token} (isSep : sep.kind = .comma ∨ sep.kind = .semicolon)
    (rest : Munches ArgsFrom stop u next as) : Munches ArgsRest stop (sep :: u) next as where
  derives y := by
    refine argsRest_iff.2 (Or.inr ⟨_, ?_, rest.derives y⟩)
    rcases isSep with isKind | isKind <;> simp [isKind]
  exact x y bs starts stops derived := by
    rcases argsRest_iff.1 derived with ⟨-, closes⟩ | ⟨w₁, separated, derived⟩
    · rcases isSep with isKind | isKind <;> simp [isKind] at closes
    · have after : w₁ = u ++ x := by
        rcases separated with separated | separated <;> exact (tok_cons_iff.1 separated).2.symm
      subst after
      exact rest.exact x y bs starts stops derived

theorem Munches.argsFrom (first : Munches Assign ContinuesAssign u₁ n₁ a)
    (rest : Munches ArgsRest stop u₂ next as)
    (link : ∀ x, StartsLike next x → StartsLike n₁ (u₂ ++ x)) :
    Munches ArgsFrom stop (u₁ ++ u₂) next (a :: as) where
  derives y := ⟨u₂ ++ y, a, as, by simpa using first.derives (u₂ ++ y), rest.derives y, rfl⟩
  exact x y bs starts stops derived := by
    obtain ⟨w₁, a', as', assign, restDerived, rfl⟩ := derived
    obtain ⟨rfl, rfl⟩ := first.exact (u₂ ++ x) w₁ a' (link x starts) restDerived.stops
      (by simpa using assign)
    obtain ⟨rfl, rfl⟩ := rest.exact x y as' starts stops restDerived
    exact ⟨rfl, rfl⟩

/-- A token that is not `)` after `(` starts the arguments, so what blocks them blocks the call. -/
theorem Blocked.callArgs_some {look : Token} (args : Blocked ArgsFrom stop p t)
    (first : ∀ s, StartsLike look (p ++ t :: s)) (notClose : look.kind ≠ .rParen) :
    Blocked CallArgs stop p t where
  viable := by
    obtain ⟨x, as, derived⟩ := args.viable
    exact ⟨x, as, fun y => callArgs_iff.2 (Or.inr (derived y))⟩
  blocked s y as stops derived := by
    rcases callArgs_iff.1 derived with ⟨-, t', same, isClose⟩ | derived
    · have starts := first s
      rw [same, startsLike_cons, isClose] at starts
      exact notClose starts.symm
    · exact args.blocked s y as stops derived

theorem Blocked.argsFrom_first (first : Blocked Assign ContinuesAssign p t) :
    Blocked ArgsFrom stop p t where
  viable := by
    obtain ⟨x, a, derived⟩ := first.viable
    refine ⟨x ++ [Token.ofKind .rParen], [a], fun y => ?_⟩
    refine ⟨Token.ofKind .rParen :: y, a, [], by simpa using derived (Token.ofKind .rParen :: y),
      ⟨_, .done, tok_cons_iff.2 ⟨rfl, rfl⟩⟩, rfl⟩
  blocked s y as _ derived := by
    obtain ⟨w₁, a, rest, assign, restDerived, -⟩ := derived
    exact first.blocked s w₁ a restDerived.stops assign

theorem Blocked.argsFrom_sep (first : Munches Assign ContinuesAssign u next a)
    (notCloser : next.kind ∉ argCloser) : Blocked ArgsFrom stop u next where
  viable := by
    refine ⟨[Token.ofKind .rParen], [a], fun y => ?_⟩
    refine ⟨Token.ofKind .rParen :: y, a, [], by simpa using first.derives (Token.ofKind .rParen :: y),
      ⟨_, .done, tok_cons_iff.2 ⟨rfl, rfl⟩⟩, rfl⟩
  blocked s y as _ derived := by
    obtain ⟨w₁, a', rest, assign, restDerived, -⟩ := derived
    obtain ⟨rfl, -⟩ := first.exact (next :: s) w₁ a' (by simp) restDerived.stops assign
    obtain ⟨t', w', same, closer⟩ := restDerived.head
    have sameTok : next = t' := (List.cons.inj same).1
    subst sameTok
    exact notCloser closer

theorem Blocked.argsFrom_rest {sep : Token} (first : Munches Assign ContinuesAssign u sep a)
    (isSep : sep.kind = .comma ∨ sep.kind = .semicolon) (rest : Blocked ArgsFrom stop p t) :
    Blocked ArgsFrom stop (u ++ sep :: p) t where
  viable := by
    obtain ⟨x, as, derived⟩ := rest.viable
    refine ⟨x, a :: as, fun y => ⟨sep :: (p ++ x ++ y), a, as, by simpa using first.derives _,
      argsRest_iff.2 (Or.inr ⟨_, ?_, derived y⟩), rfl⟩⟩
    rcases isSep with isKind | isKind <;> simp [isKind]
  blocked s y as stops derived := by
    obtain ⟨w₁, a', rest', assign, restDerived, -⟩ := derived
    obtain ⟨rfl, -⟩ := first.exact (sep :: (p ++ t :: s)) w₁ a' (by simp) restDerived.stops
      (by simpa using assign)
    rcases argsRest_iff.1 restDerived with ⟨-, closes⟩ | ⟨w₂, separated, more⟩
    · rcases isSep with isKind | isKind <;> simp [isKind] at closes
    · have after : w₂ = p ++ t :: s := by
        rcases separated with separated | separated <;> exact (tok_cons_iff.1 separated).2.symm
      subst after
      exact rest.blocked s y _ stops more

end Arguments

/-! ### Forgetting the tree -/

theorem Munches.accepts {α : Type} {R : List Token → List Token → α → Prop} {a : α}
    (munches : Munches R stop u next a) :
    Accepts (fun w y => ∃ a, R w y a) (StopsBefore stop) u next where
  derives y := ⟨a, munches.derives y⟩
  exact K closed x y starts := by
    rintro ⟨b, derived⟩ follows
    obtain ⟨rfl, -⟩ := munches.exact x y b starts (closed y follows) derived
    exact follows

theorem Blocked.rejects {α : Type} {R : List Token → List Token → α → Prop}
    (blocked : Blocked R stop p t) : Rejects (fun w y => ∃ a, R w y a) (StopsBefore stop) p t where
  viable := by
    obtain ⟨x, a, derived⟩ := blocked.viable
    exact ⟨x, fun y => ⟨a, derived y⟩⟩
  blocked K closed s y := by
    rintro ⟨a, derived⟩ follows
    exact blocked.blocked s y a (closed y follows) derived

end

end Grammar

end ImpFront
