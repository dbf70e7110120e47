import ImpFront.Proofs.Prefix.Cut

/-!
# Expressions read from a prefix

An expression that ends before the end of a cut's tokens is read from the part alone as from the
whole feed: the same expression, and cursors abreast after it. The proof follows the reader's
mutual recursion over the six precedence tiers, primaries, calls and arguments; at each step the
token taken and each lookahead tested lie before the end of the tokens, where the two feeds agree.
-/

namespace ImpFront

namespace Parse

variable {x : Cut} {ctx : Context} {c c' : Cursor}

/--
Every expression rule reads from the part what it reads from the whole feed, as long as it ends
before the end of the tokens: by the reader's own mutual recursion, each step taken and each
lookahead tested is the same on both feeds, and the run on the part is put together from the same
steps by the lemmas of `Steps.Assembly`.
-/
theorem expression_follows_all :
    (∀ c c', x.Abreast c c' → x.Follows (expression ctx c) (expression ctx c')) ∧
    (∀ k c c', x.Abreast c c' → x.Follows (tier k ctx c) (tier k ctx c')) ∧
    (∀ k lhs c c', x.Abreast c c' → ∀ res, tierRest k lhs ctx c = .ok res → x.Inside res.2.1 →
      ∃ res', tierRest k lhs ctx c' = .ok res' ∧ res'.1 = res.1 ∧ x.Abreast res.2.1 res'.2.1) ∧
    (∀ c c', x.Abreast c c' → x.Follows (primary ctx c) (primary ctx c')) ∧
    (∀ name c c', x.Abreast c c' → x.Follows (call name ctx c) (call name ctx c')) ∧
    (∀ c c', x.Abreast c c' → x.Follows (arguments ctx c) (arguments ctx c')) := by
  refine expression.mutual_induct _ _ _ _ _ _ ?assignment ?tierZero ?tierSucc ?restNone
    ?restSome ?intLit ?floatLit ?boolLit ?stringLit ?ident ?paren ?other ?call ?arguments
  case assignment =>
    intro c tierIH exprIH c' abreast r parsed inside
    obtain ⟨lhs, lhsRead, ⟨notEq, valueEq, cursorEq⟩ |
        ⟨op, c2, rhs, taken, isEq, isVar, rhsRead, typed, cursorEq⟩⟩ := expression_eq_ok parsed
    · rw [cursorEq] at inside ⊢
      obtain ⟨lhs', small1, sameLhs, abreast1⟩ := tierIH c' abreast lhs lhsRead inside
      have notEq' : lhs'.cursor.look.kind ≠ .eq := by rw [abreast1.look_eq inside]; exact notEq
      exact ⟨lhs', expression_eq_of_tier small1 notEq', by rw [sameLhs, valueEq], abreast1⟩
    · rw [cursorEq] at inside ⊢
      have inside1 := (inside.of_left_lt rhs.lt).of_left_lt taken.left_lt
      obtain ⟨lhs', small1, sameLhs, abreast1⟩ := tierIH c' abreast lhs lhsRead inside1
      obtain ⟨d2, taken', abreast2⟩ := abreast1.takes inside1 taken
      obtain ⟨rhs', small3, sameRhs, abreast3⟩ :=
        exprIH lhs.cursor lhs.lt c2 taken.left_lt d2 abreast2 rhs rhsRead inside
      obtain ⟨r', run', valueEq', cursorEq'⟩ := expression_eq_of_assign small1 taken' isEq
        (by rw [sameLhs]; exact isVar) small3 (by rw [sameLhs, sameRhs]; exact typed)
      exact ⟨r', run', valueEq', by rw [cursorEq']; exact abreast3⟩
  case tierZero =>
    intro c primaryIH c' abreast
    rw [tier_zero, tier_zero]
    exact primaryIH c' abreast
  case tierSucc =>
    intro c k tierIH restIH c' abreast r parsed inside
    obtain ⟨lhs, lhsRead, rest, restRead, valueEq, cursorEq⟩ := tier_succ_eq_ok parsed
    rw [cursorEq] at inside ⊢
    obtain ⟨lhs', small1, sameLhs, abreast1⟩ :=
      tierIH c' abreast lhs lhsRead (inside.of_left_le rest.2.2)
    obtain ⟨rest', small2, sameE, abreast2⟩ :=
      restIH lhs.value lhs.cursor lhs.lt lhs'.cursor abreast1 rest restRead inside
    obtain ⟨r', run', valueEq', cursorEq'⟩ := tier_succ_eq_of small1 (by rw [sameLhs]; exact small2)
    exact ⟨r', run', by rw [valueEq', valueEq, sameE], by rw [cursorEq']; exact abreast2⟩
  case restNone =>
    intro n lhs c noOp c' abreast res parsed inside
    rw [tierRest_eq_of_none noOp] at parsed
    cases parsed
    have noOp' : tierOp? n c'.look.kind = none := by rw [abreast.look_eq inside]; exact noOp
    exact ⟨_, tierRest_eq_of_none noOp', rfl, abreast⟩
  case restSome =>
    intro n lhs c op someOp tierIH restIH c' abreast res parsed inside
    obtain ⟨noOp, -, -⟩ | ⟨op', opTok, c1, rhs, e, rest, someOp', taken, rhsRead, typed, restRead,
        valueEq, cursorEq⟩ := tierRest_eq_ok parsed
    · rw [someOp] at noOp
      cases noOp
    rw [someOp, Option.some.injEq] at someOp'
    subst someOp'
    rw [cursorEq] at inside ⊢
    have insideRhs := inside.of_left_le rest.2.2
    have insideC := (insideRhs.of_left_lt rhs.lt).of_left_lt taken.left_lt
    obtain ⟨d1, taken', abreast1⟩ := abreast.takes insideC taken
    obtain ⟨rhs', small2, sameRhs, abreast2⟩ :=
      tierIH c1 taken.left_lt d1 abreast1 rhs rhsRead insideRhs
    obtain ⟨rest', small3, sameE, abreast3⟩ :=
      restIH c1 taken.left_lt rhs.cursor rhs.lt e rhs'.cursor abreast2 rest restRead inside
    have someOp'' : tierOp? n c'.look.kind = some op := by rw [abreast.look_eq insideC]; exact someOp
    obtain ⟨res', run', valueEq', cursorEq'⟩ :=
      tierRest_eq_of_some someOp'' taken' small2 (by rw [sameRhs]; exact typed) small3
    exact ⟨res', run', by rw [valueEq', valueEq, sameE], by rw [cursorEq']; exact abreast3⟩
  case intLit | floatLit | boolLit | stringLit =>
    intro c isLiteral c' abreast r parsed inside
    obtain ⟨tok, value, ty, taken, lit, typed, valueEq⟩ :=
      primary_eq_ok_of_literal parsed (by simp [isLiteral])
    obtain ⟨d1, taken', abreast1⟩ := abreast.takes (inside.of_left_lt taken.left_lt) taken
    exact ⟨_, primary_eq_of_literal taken' lit typed, valueEq.symm, abreast1⟩
  case ident =>
    intro c isIdent callIH c' abreast r parsed inside
    obtain ⟨name, c1, taken, ⟨isCall, e, called, valueEq, cursorEq⟩ |
        ⟨notCall, id, v, found, isVar, valueEq, cursorEq⟩⟩ := primary_eq_ok_of_ident parsed isIdent
    all_goals have isName : name.kind = .ident := by rw [taken.1]; exact isIdent
    · rw [cursorEq] at inside ⊢
      have inside1 := inside.of_left_lt e.lt
      obtain ⟨d1, taken', abreast1⟩ := abreast.takes (inside1.of_left_lt taken.left_lt) taken
      obtain ⟨e', small2, sameE, abreast2⟩ := callIH name c1 taken.left_lt d1 abreast1 e called inside
      have isCall' : d1.look.kind = .lParen := by rw [abreast1.look_eq inside1]; exact isCall
      obtain ⟨r', run', valueEq', cursorEq'⟩ := primary_eq_of_call taken' isName isCall' small2
      exact ⟨r', run', by rw [valueEq', valueEq, sameE], by rw [cursorEq']; exact abreast2⟩
    · rw [cursorEq] at inside ⊢
      obtain ⟨d1, taken', abreast1⟩ := abreast.takes (inside.of_left_lt taken.left_lt) taken
      have notCall' : d1.look.kind ≠ .lParen := by rw [abreast1.look_eq inside]; exact notCall
      obtain ⟨r', run', valueEq', cursorEq'⟩ := primary_eq_of_var taken' isName notCall' found isVar
      exact ⟨r', run', by rw [valueEq', valueEq], by rw [cursorEq']; exact abreast1⟩
  case paren =>
    intro c isParen exprIH c' abreast r parsed inside
    obtain ⟨openTok, c1, inner, closeTok, taken, innerRead, closing, isClose, valueEq⟩ :=
      primary_eq_ok_of_lParen parsed isParen
    have insideInner := inside.of_left_lt closing.left_lt
    have inside1 := insideInner.of_left_lt inner.lt
    obtain ⟨d1, taken', abreast1⟩ := abreast.takes (inside1.of_left_lt taken.left_lt) taken
    obtain ⟨inner', small2, sameInner, abreast2⟩ :=
      exprIH c1 taken.left_lt d1 abreast1 inner innerRead insideInner
    obtain ⟨d3, closing', abreast3⟩ := abreast2.takes insideInner closing
    have isOpen : openTok.kind = .lParen := by rw [taken.1]; exact isParen
    obtain ⟨r', run', valueEq', cursorEq'⟩ :=
      primary_eq_of_paren taken' isOpen small2 closing' isClose
    exact ⟨r', run', by rw [valueEq', valueEq, sameInner], by rw [cursorEq']; exact abreast3⟩
  case other =>
    intro c notInt notFloat notBool notString notIdent notParen c' abreast r parsed inside
    have start := primary_start parsed
    simp only [TokenKind.exprStart, List.mem_cons, List.not_mem_nil, or_false] at start
    rcases start with isKind | isKind | isKind | isKind | isKind | isKind <;> contradiction
  case call =>
    intro name c argsIH c' abreast r parsed inside
    obtain ⟨callee, info, lp, c1, args, found, isFunc, taken, isLp,
        ⟨rp, closing, isRp, rfl⟩ | ⟨notClose, a, argsRead, rfl, cursorEq⟩,
        arity, checked, valueEq⟩ := call_eq_ok parsed
    · have inside1 := inside.of_left_lt closing.left_lt
      obtain ⟨d1, taken', abreast1⟩ := abreast.takes (inside1.of_left_lt taken.left_lt) taken
      obtain ⟨d2, closing', abreast2⟩ := abreast1.takes inside1 closing
      obtain ⟨r', run', valueEq', cursorEq'⟩ :=
        call_eq_of_noArgs found isFunc taken' isLp closing' isRp arity
      exact ⟨r', run', by rw [valueEq', valueEq], by rw [cursorEq']; exact abreast2⟩
    · rw [cursorEq] at inside ⊢
      have inside1 := inside.of_left_lt a.lt
      obtain ⟨d1, taken', abreast1⟩ := abreast.takes (inside1.of_left_lt taken.left_lt) taken
      obtain ⟨a', small2, sameArgs, abreast2⟩ :=
        argsIH c1 taken.left_lt d1 abreast1 a argsRead inside
      have notClose' : d1.look.kind ≠ .rParen := by rw [abreast1.look_eq inside1]; exact notClose
      obtain ⟨r', run', valueEq', cursorEq'⟩ := call_eq_of_args found isFunc taken' isLp notClose'
        small2 (by rw [sameArgs]; exact arity) (by rw [sameArgs]; exact checked)
      exact ⟨r', run', by rw [valueEq', valueEq, sameArgs], by rw [cursorEq']; exact abreast2⟩
  case arguments =>
    intro c exprIH argsIH c' abreast r parsed inside
    obtain ⟨e, sep, c2, first, separated, sepKind, ⟨isClose, valueEq, cursorEq⟩ |
        ⟨notClose, rest, restRead, valueEq, cursorEq⟩⟩ := arguments_eq_ok parsed
    · rw [cursorEq] at inside ⊢
      have insideE := inside.of_left_lt separated.left_lt
      obtain ⟨e', small1, sameE, abreast1⟩ := exprIH c' abreast e first insideE
      obtain ⟨d2, separated', abreast2⟩ := abreast1.takes insideE separated
      obtain ⟨r', run', valueEq', cursorEq'⟩ := arguments_eq_of_last small1 separated' isClose
      exact ⟨r', run', by rw [valueEq', valueEq, sameE], by rw [cursorEq']; exact abreast2⟩
    · rw [cursorEq] at inside ⊢
      have insideE := (inside.of_left_lt rest.lt).of_left_lt separated.left_lt
      obtain ⟨e', small1, sameE, abreast1⟩ := exprIH c' abreast e first insideE
      obtain ⟨d2, separated', abreast2⟩ := abreast1.takes insideE separated
      obtain ⟨rest', small3, sameRest, abreast3⟩ :=
        argsIH e.cursor e.lt c2 separated.left_lt d2 abreast2 rest restRead inside
      obtain ⟨r', run', valueEq', cursorEq'⟩ :=
        arguments_eq_of_more small1 separated' sepKind notClose small3
      exact ⟨r', run', by rw [valueEq', valueEq, sameE, sameRest], by rw [cursorEq']; exact abreast3⟩

theorem expression_follows (abreast : x.Abreast c c') :
    x.Follows (expression ctx c) (expression ctx c') :=
  expression_follows_all.1 c c' abreast

end Parse

end ImpFront
