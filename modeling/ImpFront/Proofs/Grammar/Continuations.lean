import ImpFront.Proofs.Grammar

/-!
# Words, and what may follow them

The reader reads the tokens of a rule and stops before the next one, while the grammar's
relations leave what follows a derivation to the derivations around it. This module states,
for any relation `R` of the grammar, what a reading has to show to agree with it:

* `Accepts R C u next`: `u` derives from `R`, and every derivation from `R` over `u` and what
  follows, inside a context whose continuations satisfy `C`, can be taken to stop after `u`;
  `next` is the token after `u`.
* `Rejects R C p t`: `p` starts a word of `R`, and no derivation from `R` inside such a
  context reads `p` and then `t`.

`C` says which contexts a rule can be cut short in: a rule that ends with a terminal needs
none, an expression needs a context that does not go on with an operator, and a statement
one that reads an `else` only as an `if` further in would (`ElseClosed`). Both properties
compose along sequences (`Seq`), the way the rules of the grammar are built, and carry over
from an alternative of a rule to the rule when the first token selects it (`Alternative`).
-/

namespace ImpFront

namespace Grammar

/-- A derivation from `R`, and then one from `S`. -/
def Seq (R S : List Token → List Token → Prop) (w y : List Token) : Prop :=
  ∃ w₁, R w w₁ ∧ S w₁ y

/-- An assignment, whatever its tree. -/
def Expression (w y : List Token) : Prop := ∃ a, Assign w y a

/-- `R` has a word. -/
def HasWord (R : List Token → List Token → Prop) : Prop := ∃ v, ∀ y, R (v ++ y) y

/-- What derives from `S` and then goes on as `K` allows. -/
def Follows (S : List Token → List Token → Prop) (K : List Token → Prop) (w : List Token) :
    Prop :=
  ∃ y, S w y ∧ K y

/-- No continuation that `K` allows starts with a kind of `stop`. -/
def StopsBefore (stop : TokenKind → Prop) (K : List Token → Prop) : Prop :=
  ∀ y, K y → Stops stop y

/--
`u` derives from `R`, and in a context whose continuations satisfy `C`, a derivation from `R`
over `u` and what follows can be taken to end after `u`.
-/
structure Accepts (R : List Token → List Token → Prop) (C : (List Token → Prop) → Prop)
    (u : List Token) (next : Token) : Prop where
  derives : ∀ y, R (u ++ y) y
  exact : ∀ K, C K → ∀ x y, StartsLike next x → R (u ++ x) y → K y → K x

/--
`p` starts a word of `R`, and in a context whose continuations satisfy `C`, no derivation
from `R` reads `p` and then `t`.
-/
structure Rejects (R : List Token → List Token → Prop) (C : (List Token → Prop) → Prop)
    (p : List Token) (t : Token) : Prop where
  viable : ∃ x, ∀ y, R (p ++ x ++ y) y
  blocked : ∀ K, C K → ∀ s y, R (p ++ t :: s) y → ¬K y

section Sequences

variable {R S : List Token → List Token → Prop} {C D : (List Token → Prop) → Prop}

/-- Every context of a sequence that `D` allows gives its first part a context that `C` allows. -/
def Passes (S : List Token → List Token → Prop) (C D : (List Token → Prop) → Prop) : Prop :=
  ∀ K, D K → C (Follows S K)

theorem Accepts.seq {u₁ u₂ : List Token} {n₁ n₂ : Token} (first : Accepts R C u₁ n₁)
    (second : Accepts S D u₂ n₂) (passes : Passes S C D)
    (link : ∀ x, StartsLike n₂ x → StartsLike n₁ (u₂ ++ x)) :
    Accepts (Seq R S) D (u₁ ++ u₂) n₂ where
  derives y := ⟨u₂ ++ y, by simpa using first.derives (u₂ ++ y), second.derives y⟩
  exact K closed x y starts := by
    rintro ⟨w₁, firstPart, secondPart⟩ follows
    have rest : Follows S K (u₂ ++ x) :=
      first.exact _ (passes K closed) (u₂ ++ x) w₁ (link x starts)
        (by simpa using firstPart) ⟨y, secondPart, follows⟩
    obtain ⟨y', secondPart', follows'⟩ := rest
    exact second.exact K closed x y' starts secondPart' follows'

theorem Rejects.seq {p : List Token} {t : Token} (first : Rejects R C p t) (word : HasWord S)
    (passes : Passes S C D) : Rejects (Seq R S) D p t where
  viable := by
    obtain ⟨x, firstPart⟩ := first.viable
    obtain ⟨v, secondPart⟩ := word
    exact ⟨x ++ v, fun y => ⟨v ++ y, by simpa using firstPart (v ++ y), secondPart y⟩⟩
  blocked K closed s y := by
    rintro ⟨w₁, firstPart, secondPart⟩ follows
    exact first.blocked _ (passes K closed) s w₁ firstPart ⟨y, secondPart, follows⟩

theorem Accepts.seq_rejects {u p : List Token} {n t : Token} (first : Accepts R C u n)
    (second : Rejects S D p t) (passes : Passes S C D)
    (link : ∀ s, StartsLike n (p ++ t :: s)) : Rejects (Seq R S) D (u ++ p) t where
  viable := by
    obtain ⟨x, secondPart⟩ := second.viable
    exact ⟨x, fun y => ⟨p ++ x ++ y, by simpa using first.derives (p ++ x ++ y),
      secondPart y⟩⟩
  blocked K closed s y := by
    rintro ⟨w₁, firstPart, secondPart⟩ follows
    have rest : Follows S K (p ++ t :: s) :=
      first.exact _ (passes K closed) (p ++ t :: s) w₁ (link s) (by simpa using firstPart)
        ⟨y, secondPart, follows⟩
    obtain ⟨y', secondPart', follows'⟩ := rest
    exact second.blocked K closed s y' secondPart' follows'

theorem HasWord.seq (first : HasWord R) (second : HasWord S) : HasWord (Seq R S) := by
  obtain ⟨u, firstPart⟩ := first
  obtain ⟨v, secondPart⟩ := second
  exact ⟨u ++ v, fun y => ⟨v ++ y, by simpa using firstPart (v ++ y), secondPart y⟩⟩

/-- A part that ends with a terminal needs nothing of its context. -/
theorem passes_any : Passes S (fun _ => True) D := fun _ _ => trivial

/-- Before a part whose words start with a kind outside `stop`, the context stops. -/
theorem passes_stopsBefore {stop : TokenKind → Prop}
    (starts : ∀ w y, S w y → ∃ t w', w = t :: w' ∧ ¬stop t.kind) :
    Passes S (StopsBefore stop) D := by
  rintro K - w ⟨y, secondPart, -⟩
  obtain ⟨t, w', rfl, notStop⟩ := starts w y secondPart
  exact notStop

/-- A rule that holds in more contexts holds in fewer. -/
theorem Accepts.mono {u : List Token} {n : Token} (accepts : Accepts R C u n)
    (fewer : ∀ K, D K → C K) : Accepts R D u n where
  derives := accepts.derives
  exact K closed := accepts.exact K (fewer K closed)

theorem Rejects.mono {p : List Token} {t : Token} (rejects : Rejects R C p t)
    (fewer : ∀ K, D K → C K) : Rejects R D p t where
  viable := rejects.viable
  blocked K closed := rejects.blocked K (fewer K closed)

theorem Accepts.congr {R' : List Token → List Token → Prop} {u : List Token} {n : Token}
    (same : R = R') (accepts : Accepts R C u n) : Accepts R' C u n := same ▸ accepts

theorem Rejects.congr {R' : List Token → List Token → Prop} {p : List Token} {t : Token}
    (same : R = R') (rejects : Rejects R C p t) : Rejects R' C p t := same ▸ rejects

/--
`R` is the alternative of `S` that a first token of kind `k` selects: its derivations are
derivations of `S`, and every derivation of `S` over a word that starts with such a token is
one of `R`. No word of `S` is empty.
-/
structure Alternative (k : TokenKind) (R S : List Token → List Token → Prop) : Prop where
  sub : ∀ w y, R w y → S w y
  back : ∀ t w y, t.kind = k → S (t :: w) y → R (t :: w) y
  nonempty : ∀ y, ¬S [] y

/-- A derivation of `S` over what starts like a token of kind `k` is one of `R`. -/
theorem Alternative.back_of_startsLike {k : TokenKind} {next : Token} (alt : Alternative k R S)
    (isKind : next.kind = k) {w y : List Token} (starts : StartsLike next w) (derived : S w y) :
    R w y := by
  cases w with
  | nil => exact absurd derived (alt.nonempty y)
  | cons t w => exact alt.back t w y ((startsLike_cons.1 starts).trans isKind) derived

/-- The alternative of a rule made of two that a first token of kind `k` never starts on the other. -/
theorem Alternative.of_or {k : TokenKind} {R' : List Token → List Token → Prop}
    (unfold : ∀ w y, S w y ↔ R w y ∨ R' w y) (other : ∀ t w y, t.kind = k → ¬R' (t :: w) y)
    (nonempty : ∀ y, ¬S [] y) : Alternative k R S where
  sub w y derived := (unfold w y).2 (Or.inl derived)
  back t w y isKind derived := ((unfold _ _).1 derived).resolve_right (other t w y isKind)
  nonempty := nonempty

/-- A token that starts no word of `R` is refused before anything is read. -/
theorem Rejects.refused {t : Token} (word : HasWord R) (none : ∀ s y, ¬R (t :: s) y) :
    Rejects R C [] t where
  viable := word
  blocked _ _ s y derived _ := none s y derived

end Sequences

/-! ## Terminals -/

section Terminals

variable {C : (List Token → Prop) → Prop} {k : TokenKind}

/-- A token of kind `k`, which no one reads. -/
def Token.ofKind (k : TokenKind) : Token := ⟨k, "", Location.start⟩

theorem accepts_tok {t next : Token} (isKind : t.kind = k) : Accepts (Tok k) C [t] next where
  derives y := by simp [isKind]
  exact K _ x y _ derived follows := by
    simp only [List.cons_append, List.nil_append, tok_cons_iff] at derived
    rw [derived.2]
    exact follows

theorem rejects_tok {t : Token} (notKind : t.kind ≠ k) : Rejects (Tok k) C [] t where
  viable := ⟨[Token.ofKind k], fun y => by simp [Token.ofKind]⟩
  blocked _ _ s y derived := by
    simp only [List.nil_append, tok_cons_iff] at derived
    exact absurd derived.1 notKind

theorem hasWord_tok : HasWord (Tok k) := ⟨[Token.ofKind k], fun y => by simp [Token.ofKind]⟩

/-- What starts with a token of kind `k` stops before a context that does not go on with `k`. -/
theorem passes_tok {S : List Token → List Token → Prop} {D : (List Token → Prop) → Prop}
    {stop : TokenKind → Prop} (notStop : ¬stop k) :
    Passes (Seq (Tok k) S) (StopsBefore stop) D :=
  passes_stopsBefore fun _ _ ⟨_, ⟨t, starts, isKind⟩, _⟩ => ⟨t, _, starts, isKind ▸ notStop⟩

theorem passes_tok_only {D : (List Token → Prop) → Prop} {stop : TokenKind → Prop}
    (notStop : ¬stop k) : Passes (Tok k) (StopsBefore stop) D :=
  passes_stopsBefore fun _ _ ⟨t, starts, isKind⟩ => ⟨t, _, starts, isKind ▸ notStop⟩

section Sequences

variable {R S : List Token → List Token → Prop} {D : (List Token → Prop) → Prop}
  {u p : List Token} {t t₀ next : Token}

/-- A terminal, then a rule: the terminal is matched exactly, so nothing links the two. -/
theorem Accepts.tok_seq (isKind : t.kind = k) (rest : Accepts S D u next) :
    Accepts (Seq (Tok k) S) D (t :: u) next where
  derives y := ⟨u ++ y, tok_cons_iff.2 ⟨isKind, rfl⟩, rest.derives y⟩
  exact K closed x y starts := by
    rintro ⟨w₁, opens, derived⟩ follows
    obtain ⟨-, rfl⟩ := tok_cons_iff.1 opens
    exact rest.exact K closed x y starts derived follows

theorem Rejects.tok_seq (isKind : t₀.kind = k) (rest : Rejects S D p t) :
    Rejects (Seq (Tok k) S) D (t₀ :: p) t where
  viable := by
    obtain ⟨x, derived⟩ := rest.viable
    exact ⟨x, fun y => ⟨p ++ x ++ y, tok_cons_iff.2 ⟨isKind, rfl⟩, derived y⟩⟩
  blocked K closed s y := by
    rintro ⟨w₁, opens, derived⟩ follows
    obtain ⟨-, rfl⟩ := tok_cons_iff.1 opens
    exact rest.blocked K closed s y derived follows

/-- A rule, then a terminal that the token after the rule's word matches. -/
theorem Accepts.seq_tok {C : (List Token → Prop) → Prop} (first : Accepts R C u t)
    (isKind : t.kind = k) (passes : Passes (Tok k) C D) : Accepts (Seq R (Tok k)) D (u ++ [t]) next :=
  first.seq (accepts_tok isKind) passes fun _ _ => by simp

/-- A rule, then a terminal that the token after the rule's word does not match. -/
theorem Rejects.seq_tok {C : (List Token → Prop) → Prop} (first : Accepts R C u t)
    (notKind : t.kind ≠ k) (passes : Passes (Tok k) C D) : Rejects (Seq R (Tok k)) D u t := by
  simpa using first.seq_rejects (rejects_tok notKind) passes fun _ => by simp

end Sequences

end Terminals

end Grammar

end ImpFront
