import PatternSyntax.Proofs.Displacement.Productions
import PatternSyntax.Proofs.Soundness

/-!
# Expressions and places

A whole expression reads lexemes that are moved as it reads them where they stood.
-/

namespace PatternSyntax.Grammar

open PatternSyntax.Parser

variable {f : Span → Span}

/-! ## Operators -/

section Operators

variable (respects : RespectsJoin (fun _ => True) f) {operand : Parser Pattern}
  (moves : Moves f (Pattern.mapSpans f f) operand operand)

include moves

theorem moves_nextAlternative :
    Moves f (Pattern.mapSpans f f) (nextAlternative operand) (nextAlternative operand) :=
  (moves_accept _).bind fun _ => moves.orElse (moves_fail _)

theorem moves_operandOf : Moves f (Pattern.mapSpans f f) (operandOf operand) (operandOf operand) :=
  moves.orFail fun _ => rfl

theorem moves_nextOperand :
    Moves f (Pattern.mapSpans f f) (nextOperand operand) (nextOperand operand) :=
  (moves_accept _).bind fun _ => moves_operandOf moves

include respects

theorem moves_sequence : Moves f (Pattern.mapSpans f f) (sequence operand) (sequence operand) := by
  rw [sequence_eq]
  refine moves.bind fun first => moves.many.bind fun more => moves_pure_of_eq ?_
  rw [Pattern.mapSpans_sequenceOf respects trivial fun _ _ => trivial, Pattern.mapAllSpans_eq_map]

theorem moves_intersection :
    Moves f (Pattern.mapSpans f f) (intersection operand) (intersection operand) := by
  have next := moves_nextOperand moves
  rw [intersection_eq_choice]
  refine moves_here.bind fun start => (next.orElse moves).bind fun first =>
    next.many.bind fun more => moves_previous.bind fun stop => moves_pure_of_eq ?_
  rw [Pattern.mapSpans_intersectionOf, map_join respects, Pattern.mapAllSpans_eq_map]

theorem moves_alternation :
    Moves f (Pattern.mapSpans f f) (alternation operand) (alternation operand) := by
  have next := moves_nextAlternative moves
  have nothing := Pattern.mapSpans_empty f respects.absent
  rw [alternation, alternatives_eq_choice]
  refine .orElse (moves_here.bind fun start => ?_) (moves_pure_of_eq nothing.symm)
  refine (next.orElse moves).bind fun first => next.many.bind fun more => moves_pure_of_eq ?_
  rw [Pattern.mapSpans_alternationOf respects trivial fun _ _ => trivial, Pattern.mapAllSpans_eq_map]

theorem moves_lookaround :
    Moves f (Pattern.mapSpans f f) (lookaround operand) (lookaround operand) := by
  have opening : Moves f (Prod.map id f)
      (acceptMap fun lexeme =>
        if lexeme.kind = .lookAhead then some (Lookaround.ahead, lexeme.span)
        else if lexeme.kind = .lookBehind then some (Lookaround.behind, lexeme.span)
        else none)
      (acceptMap fun lexeme =>
        if lexeme.kind = .lookAhead then some (Lookaround.ahead, lexeme.span)
        else if lexeme.kind = .lookBehind then some (Lookaround.behind, lexeme.span)
        else none) := by
    refine moves_acceptMap fun lexeme => ?_
    simp only [Lexeme.mapSpan, apply_ite (Option.map (Prod.map id f))]
    rfl
  refine opening.bind fun found => moves.bind fun body => moves_pure_of_eq ?_
  rw [Pattern.mapSpans, ← map_join respects, ← Pattern.mapSpans_span f]
  rfl

omit moves in
theorem moves_repeated (lazyMode : Bool) (body : Pattern) : Moves f (Pattern.mapSpans f f)
    (repeated lazyMode body) (repeated lazyMode (body.mapSpans f f)) := by
  refine (moves_repetition respects lazyMode).optional.bind fun found => ?_
  cases found with
  | none => exact moves_pure body
  | some found =>
    refine moves_pure_of_eq ?_
    rw [Pattern.mapSpans, ← map_join respects, ← Pattern.mapSpans_span f]
    rfl

omit moves in
theorem moves_bangs (levels : Nat) (start : Span) :
    Moves f (Prod.map id f) (bangs levels start) (bangs levels (f start)) := by
  induction levels generalizing start with
  | zero => exact .orElse ((moves_accept _).bind fun _ => moves_fail _) (moves_pure _)
  | succ levels inductionHypothesis =>
    refine .orElse ((moves_accept _).bind fun bang => ?_) (moves_pure _)
    rw [Lexeme.mapSpan, map_join respects]
    exact (inductionHypothesis _).bind fun _ => moves_pure _

end Operators

/-! ## Nested levels -/

section Nested

variable (respects : RespectsJoin (fun _ => True) f) {levels : Nat}
  (nested : ∀ fewer < levels, ∀ modes,
    Moves f (Prod.map (Pattern.mapSpans f f) f) (scope fewer modes) (scope fewer modes))
  (modes : Modes)

include nested

theorem moves_expression_of_nested {within : Nat} (within_le : within ≤ levels) :
    Moves f (Pattern.mapSpans f f) (expression within modes) (expression within modes) := by
  cases within with
  | zero =>
    rw [expression]
    exact moves_failHere fun _ => rfl
  | succ fewer =>
    rw [expression]
    exact (nested fewer within_le modes).bind fun _ => moves_pure _

include respects

theorem moves_term_of_nested : Moves f (Pattern.mapSpans f f) (term levels modes) (term levels modes) := by
  have operands (count : Nat) : Moves f (Pattern.mapSpans f f)
      (lookaroundOrAtom (levels - count) modes) (lookaroundOrAtom (levels - count) modes) := by
    have expressions := moves_expression_of_nested nested modes (Nat.sub_le levels count)
    exact (moves_lookaround respects expressions).orElse (moves_atom respects expressions modes.unicode)
  have negations : Moves f (Pattern.mapSpans f f) (negation levels modes) (negation levels modes) := by
    refine moves_here.bind fun start => (moves_bangs respects levels start).bind ?_
    rintro ⟨count, notSpan⟩
    have negated (body : Pattern) : Moves f (Pattern.mapSpans f f) (pure (negate notSpan count body))
        (pure (negate (f notSpan) count (body.mapSpans f f))) :=
      moves_pure_of_eq (Pattern.mapSpans_negate f notSpan count body respects trivial trivial).symm
    exact .ite ((operands count).bind negated) ((moves_operandOf (operands count)).bind negated)
  rw [term_eq]
  exact negations.bind (moves_repeated respects modes.lazy)

theorem moves_bare_of_nested : Moves f (Pattern.mapSpans f f) (bare levels modes) (bare levels modes) :=
  moves_alternation respects (moves_intersection respects (moves_sequence respects
    (moves_term_of_nested respects nested modes)))

end Nested

theorem moves_scope (respects : RespectsJoin (fun _ => True) f) (levels : Nat) (modes : Modes) :
    Moves f (Prod.map (Pattern.mapSpans f f) f) (scope levels modes) (scope levels modes) := by
  induction levels using Nat.strongRecOn generalizing modes with
  | ind levels nested =>
    have bares := moves_bare_of_nested respects nested modes
    rw [scope_eq]
    refine .orElse ((moves_statement respects bares).bind ?_) (bares.bind fun body => ?_)
    · rintro ⟨content, span⟩
      cases levels with
      | zero => exact moves_fail _
      | succ fewer =>
        unfold underStatement
        dsimp only [Prod.map]
        rw [Statement.mapSpans_modes]
        refine (nested fewer (Nat.lt_succ_self fewer) _).bind fun stated => moves_pure_of_eq ?_
        dsimp only [Prod.map]
        rw [Statement.mapSpans_scope, map_join respects]
    · refine moves_pure_of_eq ?_
      rw [Prod.map, Pattern.mapSpans_span]

/-- An expression is read as the same one wherever the lexemes are moved to. -/
theorem moves_expression (respects : RespectsJoin (fun _ => True) f) (levels : Nat) (modes : Modes) :
    Moves f (Pattern.mapSpans f f) (expression levels modes) (expression levels modes) :=
  moves_expression_of_nested (fun fewer _ => moves_scope respects fewer) modes (Nat.le_refl levels)

end PatternSyntax.Grammar
