import ImpFront.Proofs.Lookahead
import ImpFront.Proofs.Steps.Assembly

/-!
# Reading a feed and a prefix of it side by side

A `Cut` splits a feed after some tokens: the whole feed holds the tokens and then whatever follows
them, and the part holds the tokens alone, followed by an end of input of its own. The reader
consumes a token only after it has seen it as lookahead, so up to the last of the tokens the two
readings see the same tokens and take the same steps. `Abreast` relates two cursors, one on each
feed, after as many pulls; `Inside` says a cursor of the whole feed still has some of the tokens to
consume; `Follows` and `FollowsUpTo` say that a rule which succeeds on the whole feed succeeds on
the part with the same value.

The first lemmas are about one reading: how many pulls a cursor has made orders its points, and
a step of the reader is what consuming the lookahead does.
-/

namespace ImpFront

namespace Feed

theorem skip_mk (xs : List (Except LexError Token)) (last : Location) (m : Nat) :
    Feed.skip ⟨xs, last⟩ m = ⟨xs.drop m, last⟩ := by
  induction m generalizing xs with
  | zero => rfl
  | succ m ih =>
      cases xs with
      | nil =>
          show Feed.skip ⟨[], last⟩ m = _
          rw [ih, List.drop_nil, List.drop_nil]
      | cons x xs => exact ih xs

theorem pulls_mk_of_le {xs : List (Except LexError Token)} {last : Location} {m : Nat}
    (within : m ≤ xs.length) : Feed.pulls ⟨xs, last⟩ m = xs.take m := by
  induction m generalizing xs with
  | zero => rfl
  | succ m ih =>
      cases xs with
      | nil => simp at within
      | cons x xs =>
          show x :: Feed.pulls ⟨xs, last⟩ m = (x :: xs).take (m + 1)
          rw [ih (by simpa using within), List.take_succ_cons]

theorem pulls_mk_length_succ (xs : List (Except LexError Token)) (last : Location) :
    Feed.pulls ⟨xs, last⟩ (xs.length + 1) = xs ++ [.ok (Token.eofAt last)] := by
  rw [pulls_succ, pulls_mk_of_le (Nat.le_refl _), List.take_length, skip_mk, List.drop_length]
  rfl

theorem pulls_prefix (f : Feed) {m k : Nat} (le : m ≤ k) : f.pulls m <+: f.pulls k := by
  induction k with
  | zero => exact Nat.le_zero.1 le ▸ List.prefix_refl _
  | succ k ih =>
      rcases Nat.lt_or_eq_of_le le with lt | rfl
      · rw [pulls_succ]
        exact (ih (Nat.le_of_lt_succ lt)).trans (List.prefix_append _ _)
      · exact List.prefix_refl _

theorem length_skip_pending (f : Feed) (m : Nat) : (f.skip m).pending.length = f.pending.length - m := by
  rw [show f = ⟨f.pending, f.last⟩ from rfl, skip_mk, List.length_drop]

/-- The `m + 1`-th pull gives what the feed holds after the first `m`. -/
theorem pull_skip_of_pulls {f : Feed} {m : Nat} {u : List (Except LexError Token)}
    {x : Except LexError Token} (pulled : f.pulls (m + 1) = u ++ [x]) (count : u.length = m) :
    (f.skip m).pull.1 = x := by
  rw [pulls_succ] at pulled
  have lengths : (f.pulls m).length = u.length := by rw [length_pulls, count]
  exact (List.append_inj' pulled (by simp)).2 |> List.singleton_inj.1

/-- Past its pending results a feed yields only the end of input. -/
theorem pull_skip_of_length_le {f : Feed} {m : Nat} (past : f.pending.length ≤ m) :
    (f.skip m).pull.1 = .ok (Token.eofAt f.last) := by
  rw [show f = ⟨f.pending, f.last⟩ from rfl, skip_mk, List.drop_eq_nil_of_le past]
  rfl

end Feed

namespace Cursor

variable {f : Feed} {c d : Cursor} {t : Token}

/-- A cursor of a reading has pulled no further than the feed's pending results, or it stands at the end of input. -/
theorem On.pulled_le_length (on : c.On f) (notEof : c.look.kind ≠ .eof) :
    c.pulled ≤ f.pending.length := by
  obtain ⟨-, u, pulled, -⟩ := on
  have count := Feed.count_of_pulls pulled
  rw [count] at pulled ⊢
  have last := Feed.pull_skip_of_pulls pulled (by simp)
  by_contra beyond
  rw [Feed.pull_skip_of_length_le (by omega), Except.ok.injEq] at last
  rw [← last] at notEof
  exact notEof (Token.eofAt_kind _)

theorem On.left_eq (on : c.On f) (notEof : c.look.kind ≠ .eof) :
    c.left = f.pending.length - c.pulled + 1 := by
  rw [left, if_neg notEof, on.1, Feed.length_skip_pending]

/-- Along one reading a cursor with no more to consume stands no earlier. -/
theorem On.pulled_le (on : c.On f) (on' : d.On f) (fewer : d.left ≤ c.left) : c.pulled ≤ d.pulled := by
  by_contra earlier
  have ⟨_, u, pullsC, noEofC⟩ := on
  have ⟨_, v, pullsD, _⟩ := on'
  have countU := Feed.count_of_pulls pullsC
  have countV := Feed.count_of_pulls pullsD
  -- the pulls up to `d` start those up to `c`, so the lookahead of `d` is one of `c`'s tokens
  obtain ⟨w, extended⟩ := f.pulls_prefix (Nat.le_of_lt (Nat.lt_of_not_le earlier))
  rw [pullsC, pullsD] at extended
  have atIndex := congrArg (·[v.length]?) extended
  simp only [List.append_assoc, List.singleton_append] at atIndex
  rw [List.getElem?_append_right (by simp), List.getElem?_append_left (by simp; omega)] at atIndex
  simp only [List.length_map, Nat.sub_self, List.getElem?_cons_zero, List.getElem?_map] at atIndex
  have inU : d.look ∈ u := by
    cases found : u[v.length]? with
    | none => rw [found] at atIndex; cases atIndex
    | some t =>
        rw [found] at atIndex
        cases atIndex
        exact List.mem_of_getElem? found
  have dNotEof := noEofC _ inU
  by_cases cEof : c.look.kind = .eof
  · have : c.left = 0 := by rw [left, if_pos cEof]
    have := on'.left_eq dNotEof
    omega
  · have bounded := on.pulled_le_length cEof
    rw [on.left_eq cEof, on'.left_eq dNotEof] at fewer
    omega

/-- Two cursors of one reading after as many pulls are the same point of it. -/
theorem On.left_eq_of_pulled (on : c.On f) (on' : d.On f) (same : c.pulled = d.pulled) :
    c.left = d.left := by
  obtain ⟨feedC, u, pullsC, -⟩ := on
  obtain ⟨feedD, v, pullsD, -⟩ := on'
  rw [same, pullsD] at pullsC
  have lasts := (List.append_inj' pullsC (by simp)).2
  simp only [List.singleton_inj, Except.ok.injEq] at lasts
  unfold left
  rw [feedC, feedD, same, lasts]

/-- Along one reading a cursor with less to consume stands later. -/
theorem On.pulled_lt (on : c.On f) (on' : d.On f) (fewer : d.left < c.left) : c.pulled < d.pulled := by
  rcases Nat.lt_or_eq_of_le (on.pulled_le on' (Nat.le_of_lt fewer)) with later | same
  · exact later
  · rw [on.left_eq_of_pulled on' same] at fewer
    exact absurd fewer (Nat.lt_irrefl _)

theorem Takes.on (on : c.On f) (taken : c.Takes t d) : d.On f := by
  have reads := c.advance_readsOn on taken.2.1
  rw [advance_eq_of_takes taken taken.2.1] at reads
  exact reads

/-- A cursor that has pulled past some tokens of a feed met no end of input among them. -/
theorem On.ne_eof_of_pulled {P : List Token} {rest : List (Except LexError Token)} {last : Location}
    (on : c.On ⟨P.map .ok ++ rest, last⟩) (past : P.length < c.pulled) :
    ∀ t ∈ P, t.kind ≠ .eof := by
  have ⟨_, u, pulls, noEof⟩ := on
  have lengths : P.length ≤ u.length := by
    have := congrArg List.length pulls
    simp only [Feed.length_pulls, List.length_append, List.length_map, List.length_singleton] at this
    omega
  -- the tokens are the first pulls, so they are among the tokens consumed before the lookahead
  have first : P.map (Except.ok : Token → Except LexError Token) <+: u.map .ok ++ [.ok c.look] := by
    have := Feed.pulls_prefix ⟨P.map .ok ++ rest, last⟩ (Nat.le_of_lt past)
    rwa [Feed.pulls_mk_of_le (by simp), List.take_left' (by simp), pulls] at this
  have intoU := List.prefix_of_prefix_length_le first (List.prefix_append _ _) (by simpa using lengths)
  intro t member
  obtain ⟨t', inU, same⟩ := List.mem_map.1 (intoU.subset (List.mem_map_of_mem member))
  cases same
  exact noEof t inU

/-- The cursor at the start of a feed has made one pull. -/
theorem start_pulled (started : Cursor.start f = .ok c) : c.pulled = 1 := by
  unfold Cursor.start at started
  split at started <;> cases started
  rfl

end Cursor

theorem ReadsOn.on_of_eq_ok {f : Feed} {β : Type} {cx : β → Cursor} {x : Except Failure β} {b : β}
    (reads : ReadsOn f cx x) (succeeded : x = .ok b) : (cx b).On f := by
  subst succeeded
  exact reads

/--
A feed cut after some tokens: the whole feed holds the tokens `taken` and then `rest`, and ends
at `wholeEnd`; the part holds the tokens alone and ends at `partEnd`.
-/
structure Cut where
  taken : List Token
  rest : List (Except LexError Token)
  wholeEnd : Location
  partEnd : Location
  taken_ne_eof : ∀ t ∈ taken, t.kind ≠ .eof

namespace Cut

/-- The feed of the tokens and what follows them. -/
def whole (x : Cut) : Feed := ⟨x.taken.map .ok ++ x.rest, x.wholeEnd⟩

/-- The feed of the tokens alone. -/
def part (x : Cut) : Feed := ⟨x.taken.map .ok, x.partEnd⟩

variable (x : Cut)

/-- Up to the end of the tokens the two feeds give the same. -/
theorem pulls_eq {m : Nat} (within : m ≤ x.taken.length) : x.whole.pulls m = x.part.pulls m := by
  have within' : m ≤ (x.taken.map (Except.ok : Token → Except LexError Token)).length := by simpa using within
  rw [whole, part, Feed.pulls_mk_of_le (by simp; omega), Feed.pulls_mk_of_le within',
    List.take_append_of_le_length within']

/-- The part gives a token at every pull. -/
theorem part_pull (m : Nat) : ∃ t, (x.part.skip m).pull.1 = .ok t := by
  rw [part, Feed.skip_mk]
  cases dropped : (x.taken.map Except.ok).drop m with
  | nil => exact ⟨_, rfl⟩
  | cons y ys =>
      have member : y ∈ x.taken.map Except.ok := List.mem_of_mem_drop (dropped ▸ List.mem_cons_self ..)
      obtain ⟨t, -, rfl⟩ := List.mem_map.1 member
      exact ⟨t, rfl⟩

/--
`c` and `c'` stand at the same point of the readings of the whole feed and of the part: each is
a point of its own reading, after as many pulls, at most one past the tokens.
-/
structure Abreast (c c' : Cursor) : Prop where
  on : c.On x.whole
  on' : c'.On x.part
  pulled_eq : c'.pulled = c.pulled
  pulled_le : c.pulled ≤ x.taken.length + 1

variable {x} {c c' d : Cursor} {t : Token}

/-- Within the tokens the lookaheads are the same. -/
theorem Abreast.look_eq_of_pulled_le (abreast : x.Abreast c c') (within : c.pulled ≤ x.taken.length) :
    c'.look = c.look := by
  obtain ⟨⟨-, u, pulls, -⟩, ⟨-, u', pulls', -⟩, same, -⟩ := abreast
  rw [same, ← x.pulls_eq within, pulls] at pulls'
  have lengths : u'.length = u.length := by
    have := congrArg List.length pulls'
    simp at this
    omega
  have lasts := (List.append_inj' pulls' (by simp)).2
  simp only [List.singleton_inj, Except.ok.injEq] at lasts
  exact lasts.symm

/-- One pull past the tokens the part is at its end. -/
theorem Abreast.look_eof (abreast : x.Abreast c c') (past : x.taken.length < c.pulled) :
    c'.look.kind = .eof := by
  obtain ⟨-, ⟨-, u', pulls', -⟩, same, bound⟩ := abreast
  have atEnd : c'.pulled = (x.taken.map (Except.ok : Token → Except LexError Token)).length + 1 := by simp; omega
  rw [atEnd, part, Feed.pulls_mk_length_succ] at pulls'
  have lasts := (List.append_inj' pulls' (by simp)).2
  simp only [List.singleton_inj, Except.ok.injEq] at lasts
  rw [← lasts]
  exact Token.eofAt_kind _

/-- A step taken within the tokens is taken by the part as well. -/
theorem Abreast.takes_of_pulled_le (abreast : x.Abreast c c') (within : c.pulled ≤ x.taken.length)
    (taken : c.Takes t d) : ∃ d', c'.Takes t d' ∧ x.Abreast d d' := by
  obtain ⟨t', pulledT⟩ := x.part_pull c'.pulled
  have sameLook := abreast.look_eq_of_pulled_le within
  refine ⟨⟨t', (x.part.skip c'.pulled).pull.2, c'.pulled + 1⟩, ⟨?_, ?_, ?_, rfl⟩, ?_⟩
  · rw [sameLook]
    exact taken.1
  · rw [sameLook]
    exact taken.2.1
  · rw [abreast.on'.1, ← pulledT]
  · have dOn := taken.on abreast.on
    refine ⟨dOn, ?_, ?_, ?_⟩
    · refine Cursor.Takes.on abreast.on' ⟨rfl, sameLook ▸ taken.2.1, ?_, rfl⟩
      rw [abreast.on'.1, ← pulledT]
    · rw [taken.2.2.2, abreast.pulled_eq]
    · rw [taken.2.2.2]
      omega

/-- The cursor `c` of the whole feed has some of the tokens still to consume. -/
def Inside (x : Cut) (c : Cursor) : Prop := x.rest.length < c.left

/-- A cursor with some of the tokens still to consume has pulled no further than the tokens. -/
theorem pulled_le_of_inside (on : c.On x.whole) (inside : x.Inside c) :
    c.pulled ≤ x.taken.length := by
  unfold Inside at inside
  have notEof : c.look.kind ≠ .eof := by
    intro atEnd
    rw [Cursor.left, if_pos atEnd] at inside
    exact Nat.not_lt_zero _ inside
  have count := on.pulled_le_length notEof
  rw [on.left_eq notEof] at inside
  simp only [whole, List.length_append, List.length_map] at count inside
  omega

/-- A cursor that has pulled no further than the tokens has some of them still to consume. -/
theorem inside_of_pulled_le (on : c.On x.whole) (within : c.pulled ≤ x.taken.length) :
    x.Inside c := by
  -- the lookahead is one of the tokens, so it is not the end of input
  have ⟨_, u, pulls, _⟩ := on
  have lookIn : c.look ∈ x.taken := by
    rw [whole, Feed.pulls_mk_of_le (by simp; omega),
      List.take_append_of_le_length (by simpa using within), ← List.map_take] at pulls
    have member : Except.ok c.look ∈
        (x.taken.take c.pulled).map (Except.ok : Token → Except LexError Token) := by
      rw [pulls]
      simp
    obtain ⟨t, inTake, same⟩ := List.mem_map.1 member
    cases same
    exact List.mem_of_mem_take inTake
  have notEof := x.taken_ne_eof _ lookIn
  unfold Inside
  rw [on.left_eq notEof]
  simp only [whole, List.length_append, List.length_map]
  omega

theorem Inside.of_left_le (inside : x.Inside d) (fewer : d.left ≤ c.left) : x.Inside c :=
  Nat.lt_of_lt_of_le inside fewer

theorem Inside.of_left_lt (inside : x.Inside d) (fewer : d.left < c.left) : x.Inside c :=
  inside.of_left_le (Nat.le_of_lt fewer)

/-- Before the end of the tokens the lookaheads are the same. -/
theorem Abreast.look_eq (abreast : x.Abreast c c') (inside : x.Inside c) : c'.look = c.look :=
  abreast.look_eq_of_pulled_le (pulled_le_of_inside abreast.on inside)

/-- A step taken before the end of the tokens is taken by the part as well. -/
theorem Abreast.takes (abreast : x.Abreast c c') (inside : x.Inside c) (taken : c.Takes t d) :
    ∃ d', c'.Takes t d' ∧ x.Abreast d d' :=
  abreast.takes_of_pulled_le (pulled_le_of_inside abreast.on inside) taken

/--
A rule that succeeds from `c` and ends before the end of the tokens succeeds from a cursor abreast
of `c` too, with the same value, and ends abreast.
-/
def Follows {α : Type} (x : Cut) {c c' : Cursor} (run : Except Failure (Read c α))
    (run' : Except Failure (Read c' α)) : Prop :=
  ∀ r, run = .ok r → x.Inside r.cursor →
    ∃ r' : Read c' α, run' = .ok r' ∧ r'.value = r.value ∧ x.Abreast r.cursor r'.cursor

/--
A rule whose last step may take the last of the tokens: where it succeeds from `c` having pulled
at most one past the tokens, it succeeds from a cursor abreast of `c` too, with the same value,
and ends abreast.
-/
def FollowsUpTo {α : Type} (x : Cut) {c c' : Cursor} (run : Except Failure (Read c α))
    (run' : Except Failure (Read c' α)) : Prop :=
  ∀ r, run = .ok r → r.cursor.pulled ≤ x.taken.length + 1 →
    ∃ r' : Read c' α, run' = .ok r' ∧ r'.value = r.value ∧ x.Abreast r.cursor r'.cursor

/-- A rule that may end at the end of the tokens follows in particular where it ends before. -/
theorem FollowsUpTo.follows {α : Type} {run : Except Failure (Read c α)}
    {run' : Except Failure (Read c' α)} (follows : x.FollowsUpTo run run')
    (reads : ReadsOn x.whole Read.cursor run) : x.Follows run run' := by
  intro r parsed inside
  exact follows r parsed (Nat.le_succ_of_le (pulled_le_of_inside (reads.on_of_eq_ok parsed) inside))

/-- Past the end of the part, or at an end of input among the tokens, both cursors see the end. -/
theorem Abreast.look_eof_of_eof (abreast : x.Abreast c c') (atEnd : c.look.kind = .eof) :
    c'.look.kind = .eof := by
  by_cases within : c.pulled ≤ x.taken.length
  · rw [abreast.look_eq_of_pulled_le within]; exact atEnd
  · exact abreast.look_eof (by omega)

/-- The readings of the whole feed and of the part start abreast. -/
theorem start_abreast (started : Cursor.start x.whole = .ok c) :
    ∃ c', Cursor.start x.part = .ok c' ∧ x.Abreast c c' := by
  obtain ⟨t, pulledT⟩ := x.part_pull 0
  have started' : Cursor.start x.part = .ok ⟨t, x.part.pull.2, 1⟩ := by
    unfold Cursor.start
    rw [show x.part.pull = (.ok t, x.part.pull.2) from Prod.ext pulledT rfl]
  have on : c.On x.whole := (Cursor.start_readsOn x.whole).on_of_eq_ok started
  have on' : Cursor.On x.part ⟨t, x.part.pull.2, 1⟩ :=
    (Cursor.start_readsOn x.part).on_of_eq_ok started'
  refine ⟨_, started', on, on', (Cursor.start_pulled started).symm, ?_⟩
  rw [Cursor.start_pulled started]
  omega

end Cut

end ImpFront
