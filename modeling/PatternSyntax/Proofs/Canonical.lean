import PatternSyntax.Proofs.Spelling.Expression

/-!
# Canonical trees

The operand of a lookaround reaches as far as an expression can. A tree is
canonical if it respects this everywhere: a pattern that ends in such an operand
stands last among its neighbours, and it is not repeated unless the operand was
left out, since a repetition cannot be part of nothing.

The nesting of a tree is the number of levels that its statements, negations,
lookarounds and groups take within each other.
-/

namespace PatternSyntax

namespace Pattern

mutual

/-- The pattern ends in the operand of a lookaround. -/
def runsOn : Pattern → Bool
  | .lookaround _ _ _ => true
  | .negation body _ _ => body.runsOn
  | .sequence members _ => lastRunsOn members
  | .alternation members _ => lastRunsOn members
  | .intersection members _ => lastRunsOn members
  | .directed _ body _ => body.runsOn
  | .binding _ _ _ body _ => body.runsOn
  | _ => false

/-- The last of the patterns ends in the operand of a lookaround. -/
def lastRunsOn : List Pattern → Bool
  | [] => false
  | [last] => last.runsOn
  | _ :: second :: more => lastRunsOn (second :: more)

end

/-- Nothing is left when all statements before the pattern are taken away. -/
def isVacant : Pattern → Bool
  | .literal text => text = ⟨"", .absent⟩
  | .directed _ body _ => body.isVacant
  | .binding _ _ _ body _ => body.isVacant
  | _ => false

/-- A repetition after the pattern is not part of it. -/
def admitsRepetition : Pattern → Bool
  | .lookaround _ body _ => body.isVacant
  | .negation body _ _ => body.admitsRepetition
  | _ => true

/-- Only the last of the patterns may end in the operand of a lookaround. -/
def onlyLastRunsOn : List Pattern → Bool
  | [] => true
  | [_] => true
  | first :: second :: more => !first.runsOn && onlyLastRunsOn (second :: more)

mutual

/-- The operand of every lookaround reaches as far as it can. -/
def isCanonical : Pattern → Bool
  | .group _ body _ => body.isCanonical
  | .sequence members _ => onlyLastRunsOn members && areCanonical members
  | .alternation members _ => onlyLastRunsOn members && areCanonical members
  | .intersection members _ => onlyLastRunsOn members && areCanonical members
  | .repetition body _ _ _ => body.admitsRepetition && body.isCanonical
  | .lookaround _ body _ => body.isCanonical
  | .negation body _ _ => body.isCanonical
  | .directed _ body _ => body.isCanonical
  | .binding _ _ bound body _ => bound.isCanonical && body.isCanonical
  | _ => true

/-- All of the patterns are canonical. -/
def areCanonical : List Pattern → Bool
  | [] => true
  | member :: members => member.isCanonical && areCanonical members

end

mutual

/-- The number of levels that parts of the pattern take within each other. -/
def nesting : Pattern → Nat
  | .group _ body _ => 1 + body.nesting
  | .sequence members _ => greatestNesting members
  | .alternation members _ => greatestNesting members
  | .intersection members _ => greatestNesting members
  | .repetition body _ _ _ => body.nesting
  | .lookaround _ body _ => 1 + body.nesting
  | .negation body _ _ => 1 + body.nesting
  | .directed _ body _ => 1 + body.nesting
  | .binding _ _ bound body _ => max bound.nesting (1 + body.nesting)
  | _ => 0

/-- The nesting of the most deeply nested of the patterns. -/
def greatestNesting : List Pattern → Nat
  | [] => 0
  | member :: members => max member.nesting (greatestNesting members)

end

attribute [local simp] runsOn lastRunsOn isVacant admitsRepetition onlyLastRunsOn isCanonical
  areCanonical nesting greatestNesting

@[simp]
theorem isVacant_empty : empty.isVacant = true :=
  rfl

theorem canonical_cons {first : Pattern} {more : List Pattern}
    (canonical : onlyLastRunsOn (first :: more) && areCanonical (first :: more)) :
    first.isCanonical ∧ onlyLastRunsOn (first :: more) ∧
      (onlyLastRunsOn more && areCanonical more) := by
  simp only [areCanonical, Bool.and_eq_true] at canonical ⊢
  obtain ⟨onlyLast, firstCanonical, moreCanonical⟩ := canonical
  refine ⟨firstCanonical, onlyLast, ?_, moreCanonical⟩
  cases more with
  | nil => rfl
  | cons second more =>
    rw [onlyLastRunsOn, Bool.and_eq_true] at onlyLast
    exact onlyLast.2

/-! ## Operands as one pattern -/

variable (span : Span) (first : Pattern) (more : List Pattern)

@[simp]
theorem alternationOf_runsOn :
    (alternationOf span first more).runsOn = lastRunsOn (first :: more) := by
  cases more <;> simp [alternationOf]

@[simp]
theorem alternationOf_isCanonical : (alternationOf span first more).isCanonical =
    (onlyLastRunsOn (first :: more) && areCanonical (first :: more)) := by
  cases more <;> simp [alternationOf]

@[simp]
theorem alternationOf_nesting :
    (alternationOf span first more).nesting = greatestNesting (first :: more) := by
  cases more <;> simp [alternationOf]

theorem alternationOf_isVacant (notVacant : first.isVacant = false) :
    (alternationOf span first more).isVacant = false := by
  cases more with
  | nil => exact notVacant
  | cons second more => rfl

@[simp]
theorem intersectionOf_runsOn :
    (intersectionOf span first more).runsOn = lastRunsOn (first :: more) := by
  cases more <;> simp [intersectionOf]

@[simp]
theorem intersectionOf_isCanonical : (intersectionOf span first more).isCanonical =
    (onlyLastRunsOn (first :: more) && areCanonical (first :: more)) := by
  cases more <;> simp [intersectionOf]

@[simp]
theorem intersectionOf_nesting :
    (intersectionOf span first more).nesting = greatestNesting (first :: more) := by
  cases more <;> simp [intersectionOf]

theorem intersectionOf_isVacant (notVacant : first.isVacant = false) :
    (intersectionOf span first more).isVacant = false := by
  cases more with
  | nil => exact notVacant
  | cons second more => rfl

@[simp]
theorem sequenceOf_runsOn : (sequenceOf first more).runsOn = lastRunsOn (first :: more) := by
  cases more with
  | nil => rw [lastRunsOn]; rfl
  | cons second more => rw [sequenceOf_cons, runsOn]

@[simp]
theorem sequenceOf_isCanonical : (sequenceOf first more).isCanonical =
    (onlyLastRunsOn (first :: more) && areCanonical (first :: more)) := by
  cases more with
  | nil => simp [sequenceOf]
  | cons second more => rw [sequenceOf_cons, isCanonical]

@[simp]
theorem sequenceOf_nesting :
    (sequenceOf first more).nesting = greatestNesting (first :: more) := by
  cases more with
  | nil => simp [sequenceOf]
  | cons second more => rw [sequenceOf_cons, nesting]

theorem sequenceOf_isVacant (notVacant : first.isVacant = false) :
    (sequenceOf first more).isVacant = false := by
  cases more with
  | nil => exact notVacant
  | cons second more => rw [sequenceOf_cons]; rfl

end Pattern

namespace Statement

/-- What is bound is canonical, if anything is. -/
def isCanonical : Statement → Bool
  | directive _ => true
  | binding _ _ bound => bound.isCanonical

/-- The nesting of what is bound, if anything is. -/
def nesting : Statement → Nat
  | directive _ => 0
  | binding _ _ bound => bound.nesting

variable (statement : Statement) (body : Pattern) (span : Span)

@[simp]
theorem scope_isVacant : (statement.scope body span).isVacant = body.isVacant := by
  cases statement <;> rfl

@[simp]
theorem scope_runsOn : (statement.scope body span).runsOn = body.runsOn := by
  cases statement <;> rw [scope, Pattern.runsOn]

@[simp]
theorem scope_isCanonical :
    (statement.scope body span).isCanonical = (statement.isCanonical && body.isCanonical) := by
  cases statement <;> simp [scope, isCanonical, Pattern.isCanonical]

@[simp]
theorem scope_nesting :
    (statement.scope body span).nesting = max statement.nesting (1 + body.nesting) := by
  cases statement <;> simp [scope, nesting, Pattern.nesting]

@[simp]
theorem scope_scopedSpan : (statement.scope body span).scopedSpan = body.scopedSpan := by
  cases statement <;> rw [scope, Pattern.scopedSpan]

end Statement

namespace Grammar

variable (notSpan : Span) (count : Nat) (body : Pattern)

@[simp]
theorem negate_runsOn : (negate notSpan count body).runsOn = body.runsOn := by
  induction count generalizing body with
  | zero => rfl
  | succ count inductionHypothesis => rw [negate, inductionHypothesis, Pattern.runsOn]

@[simp]
theorem negate_admitsRepetition :
    (negate notSpan count body).admitsRepetition = body.admitsRepetition := by
  induction count generalizing body with
  | zero => rfl
  | succ count inductionHypothesis => rw [negate, inductionHypothesis, Pattern.admitsRepetition]

@[simp]
theorem negate_isCanonical : (negate notSpan count body).isCanonical = body.isCanonical := by
  induction count generalizing body with
  | zero => rfl
  | succ count inductionHypothesis => rw [negate, inductionHypothesis, Pattern.isCanonical]

@[simp]
theorem negate_nesting : (negate notSpan count body).nesting = count + body.nesting := by
  induction count generalizing body with
  | zero => rw [negate, Nat.zero_add]
  | succ count inductionHypothesis =>
    rw [negate, inductionHypothesis, Pattern.nesting]
    omega

theorem negate_isVacant (notVacant : body.isVacant = false) :
    (negate notSpan count body).isVacant = false := by
  induction count generalizing body with
  | zero => exact notVacant
  | succ count inductionHypothesis => exact inductionHypothesis _ rfl

end Grammar

namespace Phrase

open Pattern

/-- All parts of the phrase are canonical, and so is what they make together. -/
def isCanonical : Phrase → Bool
  | .expression pattern | .alternation pattern | .intersection pattern | .sequence pattern
  | .term pattern | .negation pattern | .operand pattern => pattern.isCanonical
  | .statement content => content.isCanonical
  | .moreAlternatives patterns | .moreOperands patterns | .moreTerms patterns =>
    onlyLastRunsOn patterns && areCanonical patterns

/-- The nesting of the most deeply nested part of the phrase. -/
def nesting : Phrase → Nat
  | .expression pattern | .alternation pattern | .intersection pattern | .sequence pattern
  | .term pattern | .negation pattern | .operand pattern => pattern.nesting
  | .statement content => content.nesting
  | .moreAlternatives patterns | .moreOperands patterns | .moreTerms patterns =>
    greatestNesting patterns

/-- A lexeme of the given role does not go on with the phrase. -/
def Stops (next : Role) : Phrase → Prop
  | .expression pattern | .alternation pattern =>
    next ≠ .term ∧ next ≠ .ampersand ∧ next ≠ .bar ∧ (next = .repetition → pattern.isVacant)
  | .statement _ => True
  | .moreAlternatives patterns =>
    next ≠ .bar ∧ (patterns ≠ [] → next ≠ .term ∧ next ≠ .ampersand ∧ next ≠ .repetition)
  | .intersection pattern =>
    next ≠ .term ∧ next ≠ .ampersand ∧ next ≠ .repetition ∧ (pattern.runsOn → next ≠ .bar)
  | .moreOperands patterns =>
    next ≠ .ampersand ∧ (patterns ≠ [] →
      next ≠ .term ∧ next ≠ .repetition ∧ (lastRunsOn patterns → next ≠ .bar))
  | .sequence pattern =>
    next ≠ .term ∧ next ≠ .repetition ∧ (pattern.runsOn → next ≠ .ampersand ∧ next ≠ .bar)
  | .moreTerms patterns =>
    next ≠ .term ∧ (patterns ≠ [] →
      next ≠ .repetition ∧ (lastRunsOn patterns → next ≠ .ampersand ∧ next ≠ .bar))
  | .term pattern =>
    next ≠ .repetition ∧ (pattern.runsOn → next ≠ .term ∧ next ≠ .ampersand ∧ next ≠ .bar)
  | .negation pattern | .operand pattern =>
    (next = .repetition → pattern.admitsRepetition) ∧
      (pattern.runsOn → next ≠ .term ∧ next ≠ .ampersand ∧ next ≠ .bar)

end Phrase

/-- Every level is opened by a lexeme of its own. -/
theorem Spells.nesting_le {modes : Modes} {phrase : Phrase} {lexemes : List Lexeme}
    (spells : Spells modes phrase lexemes) : phrase.nesting ≤ lexemes.length := by
  induction spells with
  | bare _ fits => exact fits
  | stated spells _ fits bodyFits =>
    have nonempty := List.length_pos_iff.mpr (ne_nil_of_roleOf (by decide) spells.begins)
    simp only [Phrase.nesting, Statement.scope_nesting, List.length_append] at fits bodyFits ⊢
    omega
  | directive _ => exact Nat.zero_le _
  | binding _ _ _ _ _ fits =>
    simp only [Phrase.nesting, Statement.nesting, List.length_append] at fits ⊢
    omega
  | nothing => exact Nat.le_refl 0
  | alternatives _ _ _ fits fitsMore =>
    simp only [Phrase.nesting, Pattern.alternationOf_nesting, Pattern.greatestNesting,
      List.length_append] at fits fitsMore ⊢
    omega
  | noAlternative => exact Nat.le_refl 0
  | nextAlternative _ _ _ fits fitsMore =>
    simp only [Phrase.nesting, Pattern.greatestNesting, List.length_append] at fits fitsMore ⊢
    omega
  | intersected _ _ _ fits fitsMore =>
    simp only [Phrase.nesting, Pattern.intersectionOf_nesting, Pattern.greatestNesting,
      List.length_append] at fits fitsMore ⊢
    omega
  | noOperand => exact Nat.le_refl 0
  | nextOperand _ _ _ fits fitsMore =>
    simp only [Phrase.nesting, Pattern.greatestNesting, List.length_append] at fits fitsMore ⊢
    omega
  | terms _ _ fits fitsMore =>
    simp only [Phrase.nesting, Pattern.sequenceOf_nesting, Pattern.greatestNesting,
      List.length_append] at fits fitsMore ⊢
    omega
  | noTerm => exact Nat.le_refl 0
  | nextTerm _ _ fits fitsMore =>
    simp only [Phrase.nesting, Pattern.greatestNesting, List.length_append] at fits fitsMore ⊢
    omega
  | once _ fits => exact fits
  | repeated _ _ _ fits =>
    simp only [Phrase.nesting, Pattern.nesting, List.length_append] at fits ⊢
    omega
  | negated _ _ fits =>
    simp only [Phrase.nesting, Grammar.negate_nesting, List.length_append] at fits ⊢
    omega
  | lookaround _ _ fits =>
    simp only [Phrase.nesting, Pattern.nesting, List.length_append, List.length_singleton] at fits ⊢
    omega
  | group _ _ _ fits =>
    simp only [Phrase.nesting, Pattern.nesting, List.length_append, List.length_singleton] at fits ⊢
    omega
  | atom spells => cases spells <;> simp [Phrase.nesting, Pattern.nesting]

end PatternSyntax
