import ImpFront.Proofs.Steps.Failure
import ImpFront.Proofs.Recognition

/-!
# One token of lookahead

The reader pulls from its feed once to fill its lookahead and once more each time it consumes
a token, and never consumes the end of input. So the results it has pulled, at any point of a
reading, are the tokens it consumed, none of them the end of input, and then the lookahead: it
never pulls again after the end of input or after a scanning error. A reading that succeeds ends
with the end of input as its lookahead, so it pulled the tokens before the first end of input and
that one. A reading that stops at an unexpected token stops at the last token it pulled, and one
that stops at a scanning error stops at the one its last pull met, which happened while it
consumed the token before.

`Cursor.On f c` says a cursor is such a point of a reading of the feed `f`, and `Failure.On f`
the same of a failure. The reader's primitive steps keep them (`Cursor.advance_readsOn`,
`Cursor.expect_readsOn`, `Cursor.fail_on`), checks of names and types fail with neither kind of
error (`Checked`), and every rule of the reader keeps them by its own recursion.
-/

namespace ImpFront

namespace Feed

/-- The feed after `n` pulls. -/
def skip (f : Feed) : Nat → Feed
  | 0 => f
  | n + 1 => f.pull.2.skip n

theorem skip_succ (f : Feed) (n : Nat) : f.skip (n + 1) = (f.skip n).pull.2 := by
  induction n generalizing f with
  | zero => rfl
  | succ n ih => exact ih f.pull.2

/-- The results of one more pull are those before and the result of pulling the feed after them. -/
theorem pulls_succ (f : Feed) (n : Nat) : f.pulls (n + 1) = f.pulls n ++ [(f.skip n).pull.1] := by
  induction n generalizing f with
  | zero => rfl
  | succ n ih =>
      show f.pull.1 :: f.pull.2.pulls (n + 1) = (f.pull.1 :: f.pull.2.pulls n) ++ _
      rw [ih f.pull.2]
      rfl

theorem length_pulls (f : Feed) (n : Nat) : (f.pulls n).length = n := by
  induction n generalizing f with
  | zero => rfl
  | succ n ih => exact congrArg (· + 1) (ih f.pull.2)

/-- Pulls that gave some tokens and then one last result were one more than those tokens. -/
theorem count_of_pulls {f : Feed} {n : Nat} {u : List Token} {last : Except LexError Token}
    (pulled : f.pulls n = u.map .ok ++ [last]) : n = u.length + 1 := by
  have lengths := congrArg List.length pulled
  rw [length_pulls, List.length_append, List.length_map, List.length_singleton] at lengths
  exact lengths

end Feed

/--
The cursor `c` is a point of a reading of the feed `f`: its feed is what `f` holds after its
pulls, and those gave tokens that are not the end of input, then its lookahead.
-/
def Cursor.On (f : Feed) (c : Cursor) : Prop :=
  c.feed = f.skip c.pulled ∧
    ∃ u : List Token, f.pulls c.pulled = u.map .ok ++ [.ok c.look] ∧ ∀ t ∈ u, t.kind ≠ .eof

/--
The failure `fl` ends a reading of the feed `f` at its last pull: the pulls before it gave tokens
that are not the end of input; it is a scanning error exactly when the last pull met that error,
and an unexpected token only when the last pull gave that token.
-/
def Failure.On (f : Feed) (fl : Failure) : Prop :=
  ∃ (u : List Token) (last : Except LexError Token), f.pulls fl.pulled = u.map .ok ++ [last] ∧
    (∀ t ∈ u, t.kind ≠ .eof) ∧
    (∀ e, fl.error = .lex e ↔ last = .error e) ∧
    ∀ k lexeme expected loc, fl.error = .unexpectedToken k lexeme expected loc →
      last = .ok ⟨k, lexeme, loc⟩

/--
An outcome of a rule run on the feed `f`: a success at a cursor (`cursorOf` finds it in the
value) that is a point of the reading, or a failure that ends it.
-/
def ReadsOn {β : Type} (f : Feed) (cursorOf : β → Cursor) : Except Failure β → Prop
  | .ok b => (cursorOf b).On f
  | .error fl => fl.On f

section

variable {f : Feed} {β γ : Type} {cx : β → Cursor} {cy : γ → Cursor}

namespace ReadsOn

theorem bind {x : Except Failure β} {g : β → Except Failure γ} (first : ReadsOn f cx x)
    (next : ∀ b, (cx b).On f → ReadsOn f cy (g b)) : ReadsOn f cy (x >>= g) := by
  cases x with
  | error fl => exact first
  | ok b => exact next b first

theorem pure {b : γ} (on : (cy b).On f) : ReadsOn f cy (Pure.pure b) := on

theorem throw {fl : Failure} (on : fl.On f) : ReadsOn f cy (MonadExcept.throw fl) := on

end ReadsOn

namespace Cursor

variable {c : Cursor}

/-- A cursor at the start of a feed, or the failure of its first pull. -/
theorem start_readsOn (f : Feed) : ReadsOn f id (Cursor.start f) := by
  unfold Cursor.start
  split
  · rename_i t rest pulled
    refine ⟨?_, [], ?_, by simp⟩
    · show rest = f.pull.2
      rw [pulled]
    · show [f.pull.1] = [.ok t]
      rw [pulled]
  · rename_i e rest pulled
    refine ⟨[], .error e, ?_, by simp, ?_, ?_⟩
    · show [f.pull.1] = [.error e]
      rw [pulled]
    · intro e'
      simp
    · intro k lexeme expected loc isUnexpected
      cases isUnexpected

/-- Consuming the lookahead pulls once more, from where the cursor stands. -/
theorem advance_readsOn (on : c.On f) (notEof : c.look.kind ≠ .eof) :
    ReadsOn f Read.cursor (c.advance notEof) := by
  obtain ⟨atFeed, u, pulled, noEof⟩ := on
  have pullsAfter : f.pulls (c.pulled + 1) = (u ++ [c.look]).map .ok ++ [c.feed.pull.1] := by
    rw [Feed.pulls_succ, pulled, atFeed]
    simp
  have noEofAfter : ∀ t ∈ u ++ [c.look], t.kind ≠ .eof := by
    intro t member
    rcases List.mem_append.1 member with before | isLook
    · exact noEof t before
    · rw [List.mem_singleton.1 isLook]
      exact notEof
  unfold advance
  split
  · rename_i t rest next
    rw [next] at pullsAfter
    refine ⟨?_, u ++ [c.look], pullsAfter, noEofAfter⟩
    show rest = f.skip (c.pulled + 1)
    rw [Feed.skip_succ, ← atFeed, next]
  · rename_i e rest next
    rw [next] at pullsAfter
    refine ⟨u ++ [c.look], .error e, pullsAfter, noEofAfter, ?_, ?_⟩
    · intro e'
      simp
    · intro k lexeme expected loc isUnexpected
      cases isUnexpected

/-- A failure at a cursor with an error of the lookahead, or of a check, ends the reading there. -/
theorem fail_on (on : c.On f) {e : ParseError} (notLex : ∀ le, e ≠ .lex le)
    (atLook : ∀ k lexeme expected loc, e = .unexpectedToken k lexeme expected loc →
      c.look = ⟨k, lexeme, loc⟩) : (c.fail e).On f := by
  obtain ⟨-, u, pulled, noEof⟩ := on
  refine ⟨u, .ok c.look, pulled, noEof, ?_, ?_⟩
  · intro le
    exact ⟨fun isLex => absurd isLex (notLex le), fun isError => by cases isError⟩
  · intro k lexeme expected loc isUnexpected
    rw [atLook k lexeme expected loc isUnexpected]

/-- A lookahead of none of the expected kinds ends the reading at it. -/
theorem unexpected_on (on : c.On f) (kinds : List TokenKind) :
    (c.fail (c.unexpected kinds)).On f := by
  refine c.fail_on on (fun le isLex => by cases isLex) ?_
  intro k lexeme expected loc isUnexpected
  cases isUnexpected
  rfl

/-- A failed check ends the reading at the cursor it is made at. -/
theorem check_on (on : c.On f) {e : ParseError} (check : e.isCheck) : (c.fail e).On f := by
  refine c.fail_on on ?_ ?_
  · intro le isLex
    rw [isLex] at check
    cases check
  · intro k lexeme expected loc isUnexpected
    rw [isUnexpected] at check
    cases check

theorem expect_readsOn (on : c.On f) (kinds : List TokenKind) :
    ReadsOn f Read.cursor (c.expect kinds) := by
  unfold expect
  split
  · rename_i expected
    exact c.advance_readsOn on expected.2
  · exact c.unexpected_on on kinds

/-- A check made at a cursor, and what the rule does after it passes. -/
theorem lift_bind {α : Type} (on : c.On f) {x : Except ParseError α} (checked : Checked x)
    {g : α → Except Failure γ} (next : ∀ a, x = .ok a → ReadsOn f cy (g a)) :
    ReadsOn f cy (c.lift x >>= g) := by
  cases x with
  | error e => exact c.check_on on (checked e rfl)
  | ok a => exact next a rfl

end Cursor

end

/-! ## Expressions -/

namespace Parse

variable {f : Feed} {ctx : Context}

/--
A primary expression read from a point of a reading, given that the calls and the
parenthesized expressions it reads further on keep the reading.
-/
theorem primary_readsOn {c : Cursor} (on : c.On f)
    (callOn : c.look.kind = .ident → ∀ name c1, c1.left < c.left → c1.On f →
      ReadsOn f Read.cursor (call name ctx c1))
    (exprOn : c.look.kind = .lParen → ∀ c1, c1.left < c.left → c1.On f →
      ReadsOn f Read.cursor (expression ctx c1)) :
    ReadsOn f Read.cursor (primary ctx c) := by
  rw [primary]
  split
  case h_1 | h_2 =>
    refine ReadsOn.bind (c.advance_readsOn on _) ?_
    rintro ⟨tok, c1, h1⟩ on1
    dsimp only
    split
    · exact ReadsOn.throw (c1.check_on on1 rfl)
    · exact c1.lift_bind on1 ctx.lookupType_checked fun _ _ => ReadsOn.pure on1
  case h_3 | h_4 =>
    refine ReadsOn.bind (c.advance_readsOn on _) ?_
    rintro ⟨tok, c1, h1⟩ on1
    exact c1.lift_bind on1 ctx.lookupType_checked fun _ _ => ReadsOn.pure on1
  case h_5 isIdent =>
    refine ReadsOn.bind (c.advance_readsOn on _) ?_
    rintro ⟨name, c1, h1⟩ on1
    dsimp only
    split
    · refine ReadsOn.bind (callOn isIdent name c1 h1 on1) ?_
      rintro ⟨e, c2, h2⟩ on2
      exact ReadsOn.pure on2
    · refine c1.lift_bind on1 ctx.lookup_checked fun id _ => ?_
      split
      · exact ReadsOn.pure on1
      · exact ReadsOn.throw (c1.check_on on1 rfl)
  case h_6 isParen =>
    refine ReadsOn.bind (c.advance_readsOn on _) ?_
    rintro ⟨_, c1, h1⟩ on1
    refine ReadsOn.bind (exprOn isParen c1 h1 on1) ?_
    rintro ⟨e, c2, h2⟩ on2
    refine ReadsOn.bind (c2.expect_readsOn on2 _) ?_
    rintro ⟨_, c3, h3⟩ on3
    exact ReadsOn.pure on3
  case h_7 =>
    exact ReadsOn.throw (c.unexpected_on on _)

/-- A primary expression that is neither a name nor in parentheses reads no expression further. -/
theorem primary_readsOn_of_other {c : Cursor} (on : c.On f) (notIdent : c.look.kind ≠ .ident)
    (notParen : c.look.kind ≠ .lParen) : ReadsOn f Read.cursor (primary ctx c) :=
  primary_readsOn on (fun isIdent => absurd isIdent notIdent) (fun isParen => absurd isParen notParen)

/-- Every expression rule of the reader keeps the reading, by the reader's own mutual recursion. -/
theorem expression_readsOn_all :
    (∀ c, c.On f → ReadsOn f Read.cursor (expression ctx c)) ∧
    (∀ n c, c.On f → ReadsOn f Read.cursor (tier n ctx c)) ∧
    (∀ n lhs c, c.On f → ReadsOn f (·.2.1) (tierRest n lhs ctx c)) ∧
    (∀ c, c.On f → ReadsOn f Read.cursor (primary ctx c)) ∧
    (∀ name c, c.On f → ReadsOn f Read.cursor (call name ctx c)) ∧
    (∀ c, c.On f → ReadsOn f Read.cursor (arguments ctx c)) := by
  refine expression.mutual_induct _ _ _ _ _ _ ?assignment ?tierZero ?tierSucc ?restNone
    ?restSome ?intLit ?floatLit ?boolLit ?stringLit ?ident ?paren ?other ?call ?arguments
  case assignment =>
    intro c tierIH exprIH on
    rw [expression]
    refine ReadsOn.bind (tierIH on) ?_
    rintro ⟨lhs, c1, h1⟩ on1
    dsimp only
    split
    · refine ReadsOn.bind (c1.advance_readsOn on1 _) ?_
      rintro ⟨op, c2, h2⟩ on2
      dsimp only
      split
      · refine ReadsOn.bind (exprIH c1 h1 c2 h2 on2) ?_
        rintro ⟨rhs, c3, h3⟩ on3
        exact c3.lift_bind on3 ctx.binary_checked fun e _ => ReadsOn.pure on3
      · exact ReadsOn.throw (c2.check_on on2 rfl)
    · exact ReadsOn.pure on1
  case tierZero =>
    intro c primaryIH on
    rw [tier_zero]
    exact primaryIH on
  case tierSucc =>
    intro c k tierIH restIH on
    rw [tier]
    refine ReadsOn.bind (tierIH on) ?_
    rintro ⟨lhs, c1, h1⟩ on1
    refine ReadsOn.bind (restIH lhs c1 h1 on1) ?_
    rintro ⟨e, c2, h2⟩ on2
    exact ReadsOn.pure on2
  case restNone =>
    intro n lhs c noOp on
    rw [tierRest]
    split
    · exact ReadsOn.pure on
    · rename_i someOp
      rw [noOp] at someOp
      cases someOp
  case restSome =>
    intro n lhs c op someOp tierIH restIH on
    rw [tierRest]
    split
    · rename_i noOp
      rw [noOp] at someOp
      cases someOp
    · refine ReadsOn.bind (c.advance_readsOn on _) ?_
      rintro ⟨opTok, c1, h1⟩ on1
      refine ReadsOn.bind (tierIH c1 h1 on1) ?_
      rintro ⟨rhs, c2, h2⟩ on2
      refine c2.lift_bind on2 ctx.binary_checked fun e _ => ?_
      refine ReadsOn.bind (restIH c1 h1 c2 h2 e on2) ?_
      rintro ⟨e', c3, h3⟩ on3
      exact ReadsOn.pure on3
  case intLit =>
    intro c isInt on
    exact primary_readsOn_of_other on (by simp [isInt]) (by simp [isInt])
  case floatLit =>
    intro c isFloat on
    exact primary_readsOn_of_other on (by simp [isFloat]) (by simp [isFloat])
  case boolLit =>
    intro c isBool on
    exact primary_readsOn_of_other on (by simp [isBool]) (by simp [isBool])
  case stringLit =>
    intro c isString on
    exact primary_readsOn_of_other on (by simp [isString]) (by simp [isString])
  case ident =>
    intro c isIdent callIH on
    exact primary_readsOn on (fun _ => callIH) (by simp [isIdent])
  case paren =>
    intro c isParen exprIH on
    exact primary_readsOn on (by simp [isParen]) (fun _ => exprIH)
  case other =>
    intro c notInt notFloat notBool notString notIdent notParen on
    exact primary_readsOn_of_other on notIdent notParen
  case call =>
    intro name c argsIH on
    rw [call]
    refine c.lift_bind on ctx.lookup_checked fun callee _ => ?_
    split
    · exact ReadsOn.throw (c.check_on on rfl)
    · refine ReadsOn.bind (c.expect_readsOn on _) ?_
      rintro ⟨_, c1, h1⟩ on1
      refine ReadsOn.bind (?args : ReadsOn f Read.cursor _) ?_
      case args =>
        split
        · refine ReadsOn.bind (c1.advance_readsOn on1 _) ?_
          rintro ⟨_, c2, h2⟩ on2
          exact ReadsOn.pure on2
        · exact argsIH c1 h1 on1
      rintro ⟨args, c2, h2⟩ on2
      dsimp only
      split
      · exact ReadsOn.throw (c2.check_on on2 rfl)
      · exact c2.lift_bind on2 (checkArgs_checked ctx _ _) fun _ _ => ReadsOn.pure on2
  case arguments =>
    intro c exprIH argsIH on
    rw [arguments]
    refine ReadsOn.bind (exprIH on) ?_
    rintro ⟨e, c1, h1⟩ on1
    refine ReadsOn.bind (c1.expect_readsOn on1 _) ?_
    rintro ⟨sep, c2, h2⟩ on2
    dsimp only
    split
    · exact ReadsOn.pure on2
    · refine ReadsOn.bind (argsIH c1 h1 c2 h2 on2) ?_
      rintro ⟨rest, c3, h3⟩ on3
      exact ReadsOn.pure on3

theorem expression_readsOn {c : Cursor} (on : c.On f) :
    ReadsOn f Read.cursor (expression ctx c) :=
  expression_readsOn_all.1 c on

/-! ## Statements -/

theorem varDecl_readsOn {c : Cursor} (on : c.On f) : ReadsOn f Read.cursor (varDecl ctx c) := by
  rw [varDecl]
  refine ReadsOn.bind (c.expect_readsOn on _) ?_
  rintro ⟨kw, c1, h1⟩ on1
  refine ReadsOn.bind (c1.expect_readsOn on1 _) ?_
  rintro ⟨name, c2, h2⟩ on2
  refine ReadsOn.bind (c2.expect_readsOn on2 _) ?_
  rintro ⟨_, c3, h3⟩ on3
  refine ReadsOn.bind (expression_readsOn on3) ?_
  rintro ⟨init, c4, h4⟩ on4
  refine ReadsOn.bind (c4.expect_readsOn on4 _) ?_
  rintro ⟨_, c5, h5⟩ on5
  exact c5.lift_bind on5 ctx.define_checked fun _ _ => ReadsOn.pure on5

theorem exprStatement_readsOn {c : Cursor} (on : c.On f) :
    ReadsOn f Read.cursor (exprStatement ctx c) := by
  rw [exprStatement]
  refine ReadsOn.bind (expression_readsOn on) ?_
  rintro ⟨e, c1, h1⟩ on1
  refine ReadsOn.bind (c1.expect_readsOn on1 _) ?_
  rintro ⟨_, c2, h2⟩ on2
  exact ReadsOn.pure on2

theorem condition_readsOn {c : Cursor} (on : c.On f) :
    ReadsOn f Read.cursor (condition ctx c) := by
  rw [condition]
  refine ReadsOn.bind (c.expect_readsOn on _) ?_
  rintro ⟨_, c1, h1⟩ on1
  refine ReadsOn.bind (expression_readsOn on1) ?_
  rintro ⟨cond, c2, h2⟩ on2
  refine c2.lift_bind on2 ctx.expectBool_checked fun _ _ => ?_
  refine ReadsOn.bind (c2.expect_readsOn on2 _) ?_
  rintro ⟨_, c3, h3⟩ on3
  exact ReadsOn.pure on3

/--
A statement read from a point of a reading, given that the block it may be and the
statements it reads further on keep the reading.
-/
theorem statement_readsOn {c : Cursor} (on : c.On f)
    (blockOn : ∀ ctx, ReadsOn f Read.cursor (block ctx c))
    (stmtOn : ∀ ctx (c' : Cursor), c'.left < c.left → c'.On f →
      ReadsOn f Read.cursor (statement ctx c')) :
    ReadsOn f Read.cursor (statement ctx c) := by
  rw [statement]
  split
  case h_1 =>
    refine ReadsOn.bind (blockOn ctx) ?_
    rintro ⟨⟨b, ctx1⟩, c1, h1⟩ on1
    exact ReadsOn.pure on1
  case h_2 =>
    refine ReadsOn.bind (c.advance_readsOn on _) ?_
    rintro ⟨kw, c1, h1⟩ on1
    refine ReadsOn.bind (condition_readsOn on1) ?_
    rintro ⟨cond, c2, h2⟩ on2
    refine ReadsOn.bind (stmtOn ctx c2 (by omega) on2) ?_
    rintro ⟨⟨thenBranch, ctx3⟩, c3, h3⟩ on3
    dsimp only
    split
    · refine ReadsOn.bind (c3.advance_readsOn on3 _) ?_
      rintro ⟨_, c4, h4⟩ on4
      refine ReadsOn.bind (stmtOn ctx3 c4 (by omega) on4) ?_
      rintro ⟨⟨elseBranch, ctx5⟩, c5, h5⟩ on5
      exact ReadsOn.pure on5
    · exact ReadsOn.pure on3
  case h_3 =>
    refine ReadsOn.bind (c.advance_readsOn on _) ?_
    rintro ⟨kw, c1, h1⟩ on1
    refine ReadsOn.bind (condition_readsOn on1) ?_
    rintro ⟨cond, c2, h2⟩ on2
    refine ReadsOn.bind (stmtOn ctx c2 (by omega) on2) ?_
    rintro ⟨⟨body, ctx3⟩, c3, h3⟩ on3
    exact ReadsOn.pure on3
  case h_4 =>
    refine ReadsOn.bind (c.advance_readsOn on _) ?_
    rintro ⟨kw, c1, h1⟩ on1
    refine ReadsOn.bind (c1.expect_readsOn on1 _) ?_
    rintro ⟨_, c2, h2⟩ on2
    dsimp only
    refine ReadsOn.bind (?init : ReadsOn f Read.cursor _) ?_
    case init =>
      split
      · refine ReadsOn.bind (varDecl_readsOn on2) ?_
        rintro ⟨⟨d, ctx3⟩, c3, h3⟩ on3
        exact ReadsOn.pure on3
      · exact exprStatement_readsOn on2
    rintro ⟨⟨init, ctx3⟩, c3, h3⟩ on3
    refine ReadsOn.bind (expression_readsOn on3) ?_
    rintro ⟨test, c4, h4⟩ on4
    refine c4.lift_bind on4 ctx3.expectBool_checked fun _ _ => ?_
    refine ReadsOn.bind (c4.expect_readsOn on4 _) ?_
    rintro ⟨_, c5, h5⟩ on5
    refine ReadsOn.bind (expression_readsOn on5) ?_
    rintro ⟨step, c6, h6⟩ on6
    refine ReadsOn.bind (c6.expect_readsOn on6 _) ?_
    rintro ⟨_, c7, h7⟩ on7
    dsimp only
    -- the steps between are each stated from a cursor given as a projection
    have shorter : c7.left < c.left := by
      dsimp only at h4 h5 h6 h7
      omega
    refine ReadsOn.bind (stmtOn _ c7 shorter on7) ?_
    rintro ⟨⟨body, ctx8⟩, c8, h8⟩ on8
    exact ReadsOn.pure on8
  case h_5 =>
    refine ReadsOn.bind (varDecl_readsOn on) ?_
    rintro ⟨⟨d, ctx1⟩, c1, h1⟩ on1
    exact ReadsOn.pure on1
  case h_6 =>
    refine ReadsOn.bind (c.advance_readsOn on _) ?_
    rintro ⟨kw, c1, h1⟩ on1
    refine ReadsOn.bind (expression_readsOn on1) ?_
    rintro ⟨value, c2, h2⟩ on2
    refine ReadsOn.bind (c2.expect_readsOn on2 _) ?_
    rintro ⟨_, c3, h3⟩ on3
    exact ReadsOn.pure on3
  case h_7 =>
    split
    · exact exprStatement_readsOn on
    · exact ReadsOn.throw (c.unexpected_on on _)

theorem block_readsOn {c : Cursor} (on : c.On f)
    (bodyOn : ∀ ctx (c' : Cursor), c'.left < c.left → c'.On f →
      ReadsOn f (·.2.2.1) (blockBody ctx c')) :
    ReadsOn f Read.cursor (block ctx c) := by
  rw [block]
  refine ReadsOn.bind (c.expect_readsOn on _) ?_
  rintro ⟨brace, c1, h1⟩ on1
  refine ReadsOn.bind (bodyOn _ c1 h1 on1) ?_
  rintro ⟨stmts, ctx2, c2, h2⟩ on2
  refine ReadsOn.bind (c2.expect_readsOn on2 _) ?_
  rintro ⟨_, c3, h3⟩ on3
  exact ReadsOn.pure on3

theorem blockBody_readsOn {c : Cursor} (on : c.On f)
    (stmtOn : ∀ ctx, ReadsOn f Read.cursor (statement ctx c))
    (bodyOn : ∀ ctx (c' : Cursor), c'.left < c.left → c'.On f →
      ReadsOn f (·.2.2.1) (blockBody ctx c')) :
    ReadsOn f (·.2.2.1) (blockBody ctx c) := by
  rw [blockBody]
  split
  · exact ReadsOn.pure on
  · refine ReadsOn.bind (stmtOn ctx) ?_
    rintro ⟨⟨s, ctx1⟩, c1, h1⟩ on1
    refine ReadsOn.bind (bodyOn ctx1 c1 h1 on1) ?_
    rintro ⟨rest, ctx2, c2, h2⟩ on2
    exact ReadsOn.pure on2

/--
Every statement rule keeps the reading, by strong induction on the input left: at one cursor a
block reads its body only after its opening brace, a statement may be that block, and a
block's body starts with one statement there.
-/
theorem statements_readsOn (n : Nat) : ∀ c : Cursor, c.left = n → c.On f →
    (∀ ctx, ReadsOn f Read.cursor (statement ctx c)) ∧
      (∀ ctx, ReadsOn f Read.cursor (block ctx c)) ∧
      ∀ ctx, ReadsOn f (·.2.2.1) (blockBody ctx c) := by
  induction n using Nat.strongRecOn with
  | _ n ih =>
    intro c atN on
    have blockOn : ∀ ctx, ReadsOn f Read.cursor (block ctx c) := fun ctx =>
      block_readsOn on fun ctx' c' shorter on' => (ih c'.left (atN ▸ shorter) c' rfl on').2.2 ctx'
    have stmtOn : ∀ ctx, ReadsOn f Read.cursor (statement ctx c) := fun ctx =>
      statement_readsOn on blockOn fun ctx' c' shorter on' =>
        (ih c'.left (atN ▸ shorter) c' rfl on').1 ctx'
    refine ⟨stmtOn, blockOn, fun ctx => blockBody_readsOn on stmtOn ?_⟩
    intro ctx' c' shorter on'
    exact (ih c'.left (atN ▸ shorter) c' rfl on').2.2 ctx'

/-! ## Declarations -/

theorem params_readsOn :
    ∀ offset ctx (c : Cursor), c.On f → ReadsOn f Read.cursor (params offset ctx c) := by
  refine params.induct _ ?_
  intro offset ctx c restIH on
  rw [params]
  refine ReadsOn.bind (c.expect_readsOn on _) ?_
  rintro ⟨name, c1, h1⟩ on1
  refine ReadsOn.bind (c1.expect_readsOn on1 _) ?_
  rintro ⟨_, c2, h2⟩ on2
  refine ReadsOn.bind (c2.expect_readsOn on2 _) ?_
  rintro ⟨tyName, c3, h3⟩ on3
  refine c3.lift_bind on3 ctx.lookupType_checked fun ty _ => ?_
  refine c3.lift_bind on3 ctx.define_checked fun defined _ => ?_
  obtain ⟨ctx4, id⟩ := defined
  refine ReadsOn.bind (c3.expect_readsOn on3 _) ?_
  rintro ⟨sep, c5, h5⟩ on5
  dsimp only
  split
  · exact ReadsOn.pure on5
  · refine ReadsOn.bind (restIH c1 h1 c2 h2 c3 h3 ty ctx4 c5 h5 on5) ?_
    rintro ⟨⟨rest, ctx6⟩, c6, h6⟩ on6
    exact ReadsOn.pure on6

theorem paramList_readsOn {c : Cursor} (on : c.On f) :
    ReadsOn f Read.cursor (paramList ctx c) := by
  rw [paramList]
  refine ReadsOn.bind (c.expect_readsOn on _) ?_
  rintro ⟨_, c1, h1⟩ on1
  dsimp only
  split
  · refine ReadsOn.bind (c1.expect_readsOn on1 _) ?_
    rintro ⟨_, c2, h2⟩ on2
    exact ReadsOn.pure on2
  · refine ReadsOn.bind (params_readsOn 0 ctx c1 on1) ?_
    rintro ⟨result, c2, h2⟩ on2
    exact ReadsOn.pure on2

theorem funcDef_readsOn {index : Nat} {c : Cursor} (on : c.On f) :
    ReadsOn f Read.cursor (funcDef index ctx c) := by
  rw [funcDef]
  refine ReadsOn.bind (c.expect_readsOn on _) ?_
  rintro ⟨name, c1, h1⟩ on1
  dsimp only
  refine ReadsOn.bind (paramList_readsOn on1) ?_
  rintro ⟨⟨paramIds, ctx2⟩, c2, h2⟩ on2
  refine ReadsOn.bind ((statements_readsOn c2.left c2 rfl on2).2.1 ctx2) ?_
  rintro ⟨⟨body, ctx3⟩, c3, h3⟩ on3
  split
  · exact c3.lift_bind on3 (Context.define_checked _) fun _ _ => ReadsOn.pure on3
  · exact ReadsOn.throw (c3.check_on on3 rfl)
  · exact ReadsOn.throw (c3.check_on on3 rfl)

theorem declaration_readsOn {index : Nat} {c : Cursor} (on : c.On f) :
    ReadsOn f Read.cursor (declaration index ctx c) := by
  rw [declaration]
  split
  · refine ReadsOn.bind (varDecl_readsOn on) ?_
    rintro ⟨⟨d, ctx1⟩, c1, h1⟩ on1
    exact ReadsOn.pure on1
  · split
    · refine ReadsOn.bind (funcDef_readsOn on) ?_
      rintro ⟨⟨g, ctx1⟩, c1, h1⟩ on1
      exact ReadsOn.pure on1
    · exact ReadsOn.throw (c.unexpected_on on _)

theorem declarations_readsOn :
    ∀ index ctx (c : Cursor), c.On f → ReadsOn f (·.2.2) (declarations index ctx c) := by
  refine declarations.induct _ ?atEnd ?more
  case atEnd =>
    intro index ctx c isEnd on
    rw [declarations, if_pos isEnd]
    exact ReadsOn.pure on
  case more =>
    intro index ctx c notEnd restIH on
    rw [declarations, if_neg notEnd]
    refine ReadsOn.bind (declaration_readsOn on) ?_
    rintro ⟨⟨d, ctx1⟩, c1, h1⟩ on1
    refine ReadsOn.bind (restIH ctx1 c1 h1 on1) ?_
    rintro ⟨rest, ctx2, c2⟩ on2
    exact ReadsOn.pure on2

end Parse

/-! ## Readings -/

/--
The pulls a reading made from the feed `f`: the tokens it consumed, none of them the end of
input, and then the result of its last pull, one pull more than the tokens consumed. A success ends with the end of input as that
result; a failure is a scanning error exactly when the last pull met that error, and an
unexpected token only when the last pull gave that token.
-/
def Reading.PullsOneAhead (f : Feed) (r : Reading) : Prop :=
  ∃ (u : List Token) (last : Except LexError Token), f.pulls r.pulled = u.map .ok ++ [last] ∧
    r.pulled = u.length + 1 ∧ (∀ t ∈ u, t.kind ≠ .eof) ∧
    (∀ p, r.result = .ok p → ∃ t, last = .ok t ∧ t.kind = .eof) ∧
    (∀ e, r.result = .error (.lex e) ↔ last = .error e) ∧
    ∀ k lexeme expected loc, r.result = .error (.unexpectedToken k lexeme expected loc) →
      last = .ok ⟨k, lexeme, loc⟩

namespace Reading

variable {f : Feed}

theorem pullsOneAhead_of_failure {fl : Failure} (on : fl.On f) (scope : Option ScopeId) :
    PullsOneAhead f ⟨.error fl.error, fl.pulled, scope⟩ := by
  obtain ⟨u, last, pulled, noEof, lex, unexpected⟩ := on
  refine ⟨u, last, pulled, Feed.count_of_pulls pulled, noEof, ?_, ?_, ?_⟩
  · intro p succeeded
    cases succeeded
  · intro e
    rw [← lex e, Except.error.injEq]
  · intro k lexeme expected loc failed
    exact unexpected k lexeme expected loc (Except.error.inj failed)

theorem pullsOneAhead_of_end {c : Cursor} (on : c.On f) (atEnd : c.look.kind = .eof)
    (p : Program) (scope : Option ScopeId) : PullsOneAhead f ⟨.ok p, c.pulled, scope⟩ := by
  obtain ⟨-, u, pulled, noEof⟩ := on
  refine ⟨u, .ok c.look, pulled, Feed.count_of_pulls pulled, noEof,
    fun _ _ => ⟨c.look, rfl, atEnd⟩, ?_, ?_⟩
  · intro e
    constructor
    · intro failed
      cases failed
    · intro pulledError
      cases pulledError
  · intro k lexeme expected loc failed
    cases failed

end Reading

/--
A reading pulls one token ahead of what it consumes: its pulls are the tokens it consumed,
never the end of input, and then one more. It never pulls again after the end of input or a
scanning error; a success has pulled the tokens before the first end of input and that one;
a scanning error is the outcome exactly when the last pull met it, so a scanning error met
while consuming a token is reported before any check of that token; and an unexpected token
is always the last token pulled.
-/
theorem Program.read_pullsOneAhead (f : Feed) : (Program.read f).PullsOneAhead f := by
  have started := Cursor.start_readsOn f
  unfold Program.read
  split
  · rename_i fl startFailed
    rw [startFailed] at started
    exact Reading.pullsOneAhead_of_failure started _
  · rename_i c startOk
    rw [startOk] at started
    have declsOn := Parse.declarations_readsOn 0 (Context.builtin c.look.loc) c started
    dsimp only [Context.builtin] at declsOn ⊢
    split
    · rename_i decls ctx' c' parsed
      rw [parsed] at declsOn
      have atEnd := (Parse.declarations_recognized _ _ _ _ parsed).1
      exact Reading.pullsOneAhead_of_end declsOn atEnd _ _
    · rename_i fl parsed
      rw [parsed] at declsOn
      exact Reading.pullsOneAhead_of_failure declsOn _

/- Five tokens before the end of input, and the end of input. -/
example : (Program.ofSource "var x = 1;").pulled = 6 := by decide +kernel

end ImpFront
