import PatternSyntax.Proofs.Composition.Productions

/-!
# Expressions before a closing parenthesis

An operator goes on only with lexemes of its own, none of which is a closing parenthesis. So
a whole expression ends before a closing parenthesis just as it ends with the lexemes, with
all that is left open in it: a lookaround that has no body, a statement that nothing stands
after, alternatives that are left out.
-/

namespace PatternSyntax.Grammar

open PatternSyntax.Parser

variable {aligned : Prop}

/-! ## Operators -/

section Operators

variable {operand : Parser Pattern} (closes : Closes aligned operand)

include closes

theorem closes_nextAlternative : Closes aligned (nextAlternative operand) :=
  (closes_accept (by decide)).bind fun _ => closes.orElse (closes_fail _)

theorem closes_operandOf : Closes aligned (operandOf operand) :=
  closes.orFail _

theorem closes_nextOperand : Closes aligned (nextOperand operand) :=
  (closes_accept (by decide)).bind fun _ => closes_operandOf closes

theorem closes_sequence : Closes aligned (sequence operand) := by
  rw [sequence_eq]
  exact closes.bind fun _ => closes.many.bind fun _ => closes_pure _

theorem closes_lookaround : Closes aligned (lookaround operand) :=
  (closes_acceptMap fun lexeme isClosing => by rw [isClosing]; rfl).bind fun _ =>
    closes.bind fun _ => closes_pure _

variable (needs : ∀ previous finish, operand ⟨[], previous, finish⟩ = .decline)

include needs

theorem closes_intersection (progresses : operand.Progresses) :
    Closes aligned (intersection operand) := by
  have next := closes_nextOperand closes
  have declines (previous finish : Span) :
      (nextOperand operand <|> operand) ⟨[], previous, finish⟩ = .decline :=
    orElse_eq_decline_iff.mpr ⟨nextOperand_eq_decline_iff.mpr nofun, needs previous finish⟩
  -- The place of the whole ends with the lexeme before, which has then been read.
  have first_progresses := (nextOperand_progresses progresses).orElse progresses
  rw [intersection_eq_choice]
  exact .here_bind_of_declines (fun _ _ _ => bind_eq_decline (declines _ _)) fun start =>
    (next.orElse closes).bind_aligned first_progresses fun first =>
      (next.weaken fun _ => trivial).many.bind fun more => closes_previous.bind fun stop => closes_pure _

theorem closes_alternation : Closes aligned (alternation operand) := by
  have next := closes_nextAlternative closes
  have declines (previous finish : Span) :
      (nextAlternative operand <|> operand) ⟨[], previous, finish⟩ = .decline :=
    orElse_eq_decline_iff.mpr ⟨nextAlternative_eq_decline_iff.mpr nofun, needs previous finish⟩
  rw [alternation, alternatives_eq_choice]
  refine .orElse (.here_bind_of_declines (fun _ _ _ => bind_eq_decline (declines _ _)) fun start => ?_)
    (closes_pure _)
  exact (next.orElse closes).bind fun first => next.many.bind fun more => closes_pure _

end Operators

theorem closes_bangs (levels : Nat) (start : Span) : Closes aligned (bangs levels start) := by
  induction levels generalizing start with
  | zero => exact .orElse ((closes_accept (by decide)).bind fun _ => closes_fail _) (closes_pure _)
  | succ levels inductionHypothesis =>
    exact .orElse ((closes_accept (by decide)).bind fun bang => (inductionHypothesis _).bind fun _ =>
      closes_pure _) (closes_pure _)

/-! ## Nested levels -/

section Nested

variable {levels : Nat}
  (nested : ∀ fewer < levels, ∀ modes, Closes aligned (scope fewer modes)) (modes : Modes)

include nested

theorem closes_expression_of_nested {within : Nat} (within_le : within ≤ levels) :
    Closes aligned (expression within modes) := by
  cases within with
  | zero =>
    rw [expression]
    exact closes_failHere _
  | succ fewer =>
    rw [expression]
    exact (nested fewer within_le modes).bind fun _ => closes_pure _

theorem closes_negation_of_nested : Closes aligned (negation levels modes) := by
  have operands (count : Nat) : Closes aligned (lookaroundOrAtom (levels - count) modes) :=
    have expressions := closes_expression_of_nested nested modes (Nat.sub_le levels count)
    (closes_lookaround expressions).orElse (closes_atom expressions modes.unicode)
  refine .here_bind_of_declines (fun previous finish start => ?_) fun start =>
    (closes_bangs levels start).bind fun counted => .ite ((operands _).bind fun _ => closes_pure _)
      ((closes_operandOf (operands _)).bind fun _ => closes_pure _)
  have noBangs : bangs levels start ⟨[], previous, finish⟩ = .accept (0, start) ⟨[], previous, finish⟩ :=
    bangs_eq_accept_iff.mpr ⟨[], List.forall_mem_nil _, Cursor.reads_nil_iff.mpr rfl, rfl, rfl,
      Nat.zero_le _, nofun⟩
  have noOperand : lookaroundOrAtom levels modes ⟨[], previous, finish⟩ = .decline :=
    lookaroundOrAtom_eq_decline_iff.mpr nofun
  rw [bind_apply, noBangs]
  exact bind_eq_decline noOperand

theorem closes_bare_of_nested : Closes aligned (bare levels modes) := by
  have terms : Closes aligned (term levels modes) := by
    rw [term_eq]
    exact (closes_negation_of_nested nested modes).bind (closes_repeated modes.lazy)
  have needsTerm (previous finish : Span) :
      sequence (term levels modes) ⟨[], previous, finish⟩ = .decline :=
    (sequence_eq_decline_iff (term_progresses levels modes)).mpr (term_eq_decline_iff.mpr nofun)
  exact closes_alternation (closes_intersection (closes_sequence terms) needsTerm
    (sequence_progresses levels modes)) fun previous finish =>
      (intersection_eq_decline_iff (sequence_progresses levels modes)).mpr
        ⟨nofun, needsTerm previous finish⟩

end Nested

theorem closes_scope (levels : Nat) (modes : Modes) : Closes aligned (scope levels modes) := by
  induction levels using Nat.strongRecOn generalizing modes with
  | ind levels nested =>
    have bares := closes_bare_of_nested nested modes
    rw [scope_eq]
    refine .orElse ((closes_statement bares).bind fun stated => ?_) (bares.bind fun _ => closes_pure _)
    cases levels with
    | zero => exact closes_fail _
    | succ fewer => exact (nested fewer (Nat.lt_succ_self fewer) _).bind fun _ => closes_pure _

/-- An expression that reaches to the end is read as the same one where a closing parenthesis
stands instead, whatever was read before it. -/
theorem closes_expression (levels : Nat) (modes : Modes) : Closes aligned (expression levels modes) :=
  closes_expression_of_nested (fun fewer _ => closes_scope fewer) modes (Nat.le_refl levels)

end PatternSyntax.Grammar
