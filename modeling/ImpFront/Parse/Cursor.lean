import ImpFront.Token.Feed
import ImpFront.Parse.Error

/-!
# The reader's cursor

The reader looks one token ahead. Its cursor holds that lookahead token, the feed it pulls
the following ones from, and how many pulls it has made. The first pull fills the lookahead
(`Cursor.start`); consuming the lookahead pulls the next token (`Cursor.advance`), and a
scanning error met by that pull stops the reading. The end-of-input token is never
consumed, so nothing is pulled after it.

`Cursor.left` counts the tokens still to be consumed: none once the lookahead is the end of
input, otherwise the lookahead and every pending result. Consuming a token makes it
smaller (`Cursor.advance` returns the proof), which is what makes the reader terminate.
-/

namespace ImpFront

/-- The lookahead token, the feed after it, and how many results were pulled so far. -/
structure Cursor where
  look : Token
  feed : Feed
  pulled : Nat
deriving Inhabited

/-- The number of tokens still to be consumed. -/
def Cursor.left (c : Cursor) : Nat :=
  if c.look.kind = .eof then 0 else c.feed.pending.length + 1

/-- A failed reading: the error, and how many results were pulled before it. -/
structure Failure where
  error : ParseError
  pulled : Nat
deriving Inhabited

/--
A rule that succeeded: its value, and the cursor after the tokens it consumed, of which
there was at least one.
-/
structure Read (c : Cursor) (α : Type) where
  value : α
  cursor : Cursor
  lt : cursor.left < c.left

namespace Cursor

/-- An error at this point of the reading. -/
def fail (c : Cursor) (e : ParseError) : Failure := ⟨e, c.pulled⟩

/-- A check made at this point of the reading. -/
def lift {α : Type} (c : Cursor) : Except ParseError α → Except Failure α
  | .ok a => .ok a
  | .error e => .error (c.fail e)

/-- The error for a lookahead that is none of the expected kinds. -/
def unexpected (c : Cursor) (expected : List TokenKind) : ParseError :=
  .unexpectedToken c.look.kind c.look.lexeme expected c.look.loc

/-- The cursor at the start of a feed: the first pull fills the lookahead. -/
def start (f : Feed) : Except Failure Cursor :=
  match f.pull with
  | (.ok t, rest) => .ok ⟨t, rest, 1⟩
  | (.error e, _) => .error ⟨.lex e, 1⟩

/-- Two rules read one after the other moved the cursor. -/
theorem left_lt_trans {a b c : Cursor} (h₁ : b.left < a.left) (h₂ : c.left < b.left) :
    c.left < a.left :=
  Nat.lt_trans h₂ h₁

theorem left_pull_lt (c : Cursor) (t : Token) (f : Feed) (hc : c.look.kind ≠ .eof)
    (hp : c.feed.pull = (.ok t, f)) : (Cursor.mk t f (c.pulled + 1)).left < c.left := by
  obtain ⟨look, ⟨pending, last⟩, pulled⟩ := c
  simp only [left] at hc ⊢
  simp only [hc, if_false]
  cases pending with
  | nil =>
    simp only [Feed.pull_nil, Prod.mk.injEq, Except.ok.injEq] at hp
    obtain ⟨rfl, -⟩ := hp
    simp
  | cons x xs =>
    simp only [Feed.pull_cons, Prod.mk.injEq] at hp
    obtain ⟨-, rfl⟩ := hp
    split <;> simp

/--
Consumes the lookahead, which is not the end of input: the next pull fills the lookahead,
and the consumed token is returned with the cursor after it.
-/
def advance (c : Cursor) (hc : c.look.kind ≠ .eof) : Except Failure (Read c Token) :=
  match hp : c.feed.pull with
  | (.ok t, f) => .ok ⟨c.look, ⟨t, f, c.pulled + 1⟩, left_pull_lt c t f hc hp⟩
  | (.error e, _) => .error ⟨.lex e, c.pulled + 1⟩

/--
Consumes the lookahead if it is one of the expected kinds, and fails with an unexpected
token otherwise. The end of input is never consumed.
-/
def expect (c : Cursor) (kinds : List TokenKind) : Except Failure (Read c Token) :=
  if h : c.look.kind ∈ kinds ∧ c.look.kind ≠ .eof then c.advance h.2
  else .error (c.fail (c.unexpected kinds))

@[simp]
theorem lift_ok {α : Type} (c : Cursor) (a : α) : c.lift (.ok a) = .ok a := rfl

@[simp]
theorem lift_error {α : Type} (c : Cursor) (e : ParseError) :
    c.lift (.error e : Except ParseError α) = .error (c.fail e) := rfl

/-- A successful consumption returns the lookahead and makes exactly one more pull. -/
theorem advance_eq_ok {c : Cursor} {hc : c.look.kind ≠ .eof} {r : Read c Token}
    (h : c.advance hc = .ok r) : r.value = c.look ∧ r.cursor.pulled = c.pulled + 1 := by
  unfold advance at h
  split at h
  · cases h
    exact ⟨rfl, rfl⟩
  · cases h

/-- A failed consumption is the scanning error met by the one more pull it made. -/
theorem advance_eq_error {c : Cursor} {hc : c.look.kind ≠ .eof} {e : Failure}
    (h : c.advance hc = .error e) :
    ∃ err, c.feed.pull.1 = .error err ∧ e = ⟨.lex err, c.pulled + 1⟩ := by
  unfold advance at h
  split at h
  · cases h
  · rename_i err f hp
    cases h
    exact ⟨err, by rw [hp], rfl⟩

end Cursor

/-- A bind of `Except` succeeds exactly when its first step does and then its second. -/
theorem Except.bind_eq_ok_iff {ε α β : Type} (r : Except ε α) (f : α → Except ε β) (b : β) :
    (r >>= f) = .ok b ↔ ∃ a, r = .ok a ∧ f a = .ok b := by
  cases r <;> simp [Bind.bind, Except.bind]

end ImpFront
