import PatternSyntax.Proofs.Choices
import PatternSyntax.Proofs.Soundness

/-!
# The cost of levels

Every level is paid for with a lexeme: what takes one has read a parenthesis, the
operator of a lookaround, an exclamation mark or a statement. So there is never a want
of levels while there are as many of them as lexemes. Only the parsers that take
levels can fail for want of them at all.
-/

namespace PatternSyntax

namespace Parser

variable {α β : Type} {cursor after : Cursor} {diagnostic : Diagnostic}

/-! ## Failures of composed parsers -/

theorem bind_eq_fail_iff {first : Parser α} {next : α → Parser β} :
    (first >>= next) cursor = .fail diagnostic ↔
      first cursor = .fail diagnostic ∨
        ∃ value between, first cursor = .accept value between ∧
          next value between = .fail diagnostic := by
  rw [bind_apply]
  cases first cursor <;> simp [and_assoc]

theorem bind_eq_fail_of_accept {first : Parser α} {next : α → Parser β} {value : α}
    (accepted : first cursor = .accept value after) (failed : next value after = .fail diagnostic) :
    (first >>= next) cursor = .fail diagnostic :=
  bind_eq_fail_iff.mpr (.inr ⟨value, after, accepted, failed⟩)

theorem orElse_eq_fail_iff {first second : Parser α} :
    (first <|> second) cursor = .fail diagnostic ↔
      first cursor = .fail diagnostic ∨
        first cursor = .decline ∧ second cursor = .fail diagnostic := by
  rw [orElse_apply]
  cases first cursor <;> simp

theorem optional_eq_fail_iff {parser : Parser α} :
    (optional parser) cursor = .fail diagnostic ↔ parser cursor = .fail diagnostic := by
  rw [optional]
  cases parser cursor <;> simp

/-- One of the items is what fails. -/
theorem exists_of_many_eq_fail {item : Parser α} (failed : (many item) cursor = .fail diagnostic) :
    ∃ place, place.rest.length ≤ cursor.rest.length ∧ item place = .fail diagnostic := by
  induction cursor using many.induct item with
  | case1 cursor value after accepted shorter inductionHypothesis =>
    rw [many, accepted] at failed
    simp only [if_pos shorter] at failed
    cases rest : (many item) after with
    | fail _ =>
      rw [rest] at failed
      obtain ⟨place, fewer, itemFails⟩ := inductionHypothesis (rest.trans failed)
      exact ⟨place, Nat.le_trans fewer (Nat.le_of_lt shorter), itemFails⟩
    | accept _ _ => rw [rest] at failed; cases failed
    | decline => rw [rest] at failed; cases failed
  | case2 cursor value after accepted stuck =>
    rw [many, accepted] at failed
    simp only [if_neg stuck] at failed
    cases failed
  | case3 cursor declined =>
    rw [many, declined] at failed
    cases failed
  | case4 cursor found itemFails =>
    rw [many, itemFails] at failed
    cases failed
    exact ⟨cursor, Nat.le_refl _, itemFails⟩

/-- Behind items that are read, the next one may fail. -/
theorem Each.many_eq_fail {item : Parser α} {spells : α → List Lexeme → Prop}
    (progresses : item.Progresses)
    (complete : ∀ cursor value lexemes after, spells value lexemes → cursor.Reads lexemes after →
      item cursor = .accept value after)
    {values : List α} {lexemes : List Lexeme} (each : Each spells values lexemes)
    (reads : cursor.Reads lexemes after) (failed : item after = .fail diagnostic) :
    (many item) cursor = .fail diagnostic := by
  induction each generalizing cursor with
  | nil =>
    rw [Cursor.reads_nil_iff] at reads
    subst reads
    rw [many, failed]
  | cons head _ inductionHypothesis =>
    obtain ⟨between, readsFirst, readsRest⟩ := Cursor.reads_append_iff.mp reads
    have accepted := complete _ _ _ _ head readsFirst
    rw [many, accepted]
    dsimp only
    rw [if_pos (progresses _ _ _ accepted), inductionHypothesis readsRest]
    rfl

/-! ## Parsers without levels -/

/-- The parser never fails for want of levels. -/
def Shallow (parser : Parser α) : Prop :=
  ∀ cursor diagnostic, parser cursor = .fail diagnostic → diagnostic.fault ≠ .tooDeep

theorem shallow_pure (value : α) : Shallow (pure value) := by
  rintro _ _ ⟨⟩

theorem shallow_fail {diagnostic : Diagnostic} (other : diagnostic.fault ≠ .tooDeep) :
    Shallow (fail diagnostic : Parser α) := by
  rintro _ _ ⟨⟩
  exact other

theorem shallow_failHere {diagnose : Span → Diagnostic}
    (other : ∀ span, (diagnose span).fault ≠ .tooDeep) :
    Shallow (failHere diagnose : Parser α) := by
  rintro _ _ ⟨⟩
  exact other _

theorem shallow_here : Shallow here := by
  rintro _ _ ⟨⟩

theorem shallow_previous : Shallow previous := by
  rintro _ _ ⟨⟩

theorem shallow_acceptMap (read : Lexeme → Option α) : Shallow (acceptMap read) := by
  intro cursor diagnostic failed
  unfold acceptMap at failed
  split at failed
  · cases failed
  · split at failed <;> cases failed

theorem shallow_accept (kind : TokenKind) : Shallow (accept kind) :=
  shallow_acceptMap _

theorem shallow_acceptText (kind : TokenKind) (text : String) : Shallow (acceptText kind text) :=
  shallow_acceptMap _

theorem Shallow.bind {first : Parser α} {next : α → Parser β} (firstShallow : first.Shallow)
    (nextShallow : ∀ value, (next value).Shallow) : (first >>= next).Shallow := by
  intro cursor diagnostic failed
  rcases bind_eq_fail_iff.mp failed with failed | ⟨value, between, -, failed⟩
  · exact firstShallow _ _ failed
  · exact nextShallow value _ _ failed

theorem Shallow.orElse {first second : Parser α} (firstShallow : first.Shallow)
    (secondShallow : second.Shallow) : (first <|> second).Shallow := by
  intro cursor diagnostic failed
  rcases orElse_eq_fail_iff.mp failed with failed | ⟨-, failed⟩
  · exact firstShallow _ _ failed
  · exact secondShallow _ _ failed

theorem Shallow.orFail {parser : Parser α} (shallow : parser.Shallow)
    {diagnose : Span → Diagnostic} (other : ∀ span, (diagnose span).fault ≠ .tooDeep) :
    (parser.orFail diagnose).Shallow :=
  shallow.orElse (shallow_failHere other)

theorem Shallow.optional {parser : Parser α} (shallow : parser.Shallow) :
    (optional parser).Shallow :=
  fun cursor diagnostic failed => shallow cursor diagnostic (optional_eq_fail_iff.mp failed)

theorem Shallow.many {item : Parser α} (shallow : item.Shallow) : (many item).Shallow := by
  intro cursor diagnostic failed
  obtain ⟨place, -, failed⟩ := exists_of_many_eq_fail failed
  exact shallow _ _ failed

theorem shallow_expect (kind : TokenKind) : Shallow (expect kind) :=
  (shallow_accept kind).orFail (by nofun)

/-! ## Parsers with levels -/

/-- The levels of the parser last for any smaller number of lexemes. -/
def Lasts (levels : Nat) (parser : Parser α) : Prop :=
  ∀ cursor diagnostic, parser cursor = .fail diagnostic → diagnostic.fault = .tooDeep →
    levels ≤ cursor.rest.length

variable {levels : Nat}

theorem Shallow.lasts {parser : Parser α} (shallow : parser.Shallow) : parser.Lasts levels :=
  fun cursor diagnostic failed deep => absurd deep (shallow cursor diagnostic failed)

theorem Lasts.mono {fewer : Nat} {parser : Parser α} (lasts : parser.Lasts levels)
    (fewer_le : fewer ≤ levels) : parser.Lasts fewer :=
  fun cursor diagnostic failed deep =>
    Nat.le_trans fewer_le (lasts cursor diagnostic failed deep)

theorem lasts_zero (parser : Parser α) : parser.Lasts 0 :=
  fun _ _ _ _ => Nat.zero_le _

/-- Something that is read pays for one level. -/
theorem Lasts.bind {first : Parser α} {next : α → Parser β} (firstLasts : first.Lasts levels)
    (progresses : first.Progresses) (nextLasts : ∀ value, (next value).Lasts (levels - 1)) :
    (first >>= next).Lasts levels := by
  intro cursor diagnostic failed deep
  rcases bind_eq_fail_iff.mp failed with failed | ⟨value, between, accepted, failed⟩
  · exact firstLasts _ _ failed deep
  · have enough := nextLasts value _ _ failed deep
    have shorter := progresses _ _ _ accepted
    omega

/-- What is read without levels after something else does not need any. -/
theorem Lasts.bind_shallow {first : Parser α} {next : α → Parser β}
    (firstLasts : first.Lasts levels) (nextShallow : ∀ value, (next value).Shallow) :
    (first >>= next).Lasts levels := by
  intro cursor diagnostic failed deep
  rcases bind_eq_fail_iff.mp failed with failed | ⟨value, between, -, failed⟩
  · exact firstLasts _ _ failed deep
  · exact absurd deep (nextShallow value _ _ failed)

theorem lasts_here_bind {next : Span → Parser β} (nextLasts : ∀ span, (next span).Lasts levels) :
    (here >>= next).Lasts levels :=
  fun cursor => nextLasts cursor.span cursor

theorem Lasts.orElse {first second : Parser α} (firstLasts : first.Lasts levels)
    (secondLasts : second.Lasts levels) : (first <|> second).Lasts levels := by
  intro cursor diagnostic failed deep
  rcases orElse_eq_fail_iff.mp failed with failed | ⟨-, failed⟩
  · exact firstLasts _ _ failed deep
  · exact secondLasts _ _ failed deep

theorem Lasts.orFail {parser : Parser α} (lasts : parser.Lasts levels)
    {diagnose : Span → Diagnostic} (other : ∀ span, (diagnose span).fault ≠ .tooDeep) :
    (parser.orFail diagnose).Lasts levels :=
  lasts.orElse (shallow_failHere other).lasts

theorem Lasts.many {item : Parser α} (lasts : item.Lasts levels) : (many item).Lasts levels := by
  intro cursor diagnostic failed deep
  obtain ⟨place, fewer, failed⟩ := exists_of_many_eq_fail failed
  exact Nat.le_trans (lasts _ _ failed deep) fewer

theorem acceptMap_progresses (read : Lexeme → Option α) : (acceptMap read).Progresses :=
  progresses_of_reads fun _ _ _ accepted => by
    obtain ⟨lexeme, -, reads⟩ := acceptMap_eq_accept_iff.mp accepted
    exact ⟨[lexeme], nofun, reads⟩

theorem Progresses.orElse {first second : Parser α} (firstProgresses : first.Progresses)
    (secondProgresses : second.Progresses) : (first <|> second).Progresses := by
  intro cursor value after accepted
  rcases orElse_eq_accept_iff.mp accepted with accepted | ⟨-, accepted⟩
  · exact firstProgresses _ _ _ accepted
  · exact secondProgresses _ _ _ accepted

theorem expect_progresses (kind : TokenKind) : (expect kind).Progresses :=
  progresses_of_reads fun _ value _ accepted =>
    ⟨[value], nofun, (expect_eq_accept_iff.mp accepted).2⟩

end Parser

namespace Grammar

open PatternSyntax.Parser

/-! ## Productions without levels -/

theorem shallow_keyword (word : String) : (keyword word).Shallow :=
  shallow_acceptText _ _

theorem shallow_contextual (word : String) : (contextual word).Shallow :=
  shallow_acceptText _ _

theorem shallow_number {α : Type} (read : List Char → Option α) : (number read).Shallow := by
  refine (shallow_accept _).bind fun lexeme => ?_
  split
  · exact shallow_pure _
  · exact shallow_fail (by nofun)

theorem shallow_expectNumber {α : Type} (read : List Char → Option α) :
    (expectNumber read).Shallow :=
  (shallow_number read).orFail (by nofun)

theorem shallow_literal : literal.Shallow :=
  (shallow_accept _).bind fun _ => shallow_pure _

theorem shallow_expectLiteral : expectLiteral.Shallow :=
  shallow_literal.orFail (by nofun)

theorem shallow_codePoint : codePoint.Shallow := by
  refine (shallow_accept _).bind fun lexeme => ?_
  split
  · exact shallow_pure _
  · exact shallow_fail (by nofun)

/-! ### Character classes -/

theorem shallow_endpoint (span : Span) (unit : ClassUnit) : (unit.endpoint span).Shallow := by
  unfold ClassUnit.endpoint
  split
  · exact shallow_pure _
  · exact shallow_fail (by nofun)
  · exact shallow_pure _
  · exact shallow_fail (by nofun)

theorem shallow_classUnit : classUnit.Shallow :=
  ((shallow_accept _).bind fun _ => shallow_pure _).orElse
    ((shallow_codePoint.bind fun _ => shallow_pure _).orElse (shallow_acceptMap _))

theorem shallow_unitOrRange : unitOrRange.Shallow := by
  refine shallow_here.bind fun firstSpan => shallow_classUnit.bind fun first =>
    (shallow_accept _).optional.bind fun dash => ?_
  cases dash with
  | none => exact shallow_pure _
  | some _ =>
    refine shallow_here.bind fun lastSpan => (shallow_classUnit.orFail (by nofun)).bind fun last =>
      (shallow_endpoint _ _).bind fun lower => (shallow_endpoint _ _).bind fun upper => ?_
    split
    · exact shallow_fail (by nofun)
    · exact shallow_pure _

theorem shallow_namedItem (negative : Bool) : (namedItem negative).Shallow := by
  refine (shallow_accept _).bind fun first => (shallow_accept _).optional.bind fun colon => ?_
  cases colon with
  | none => exact shallow_pure _
  | some _ => exact (shallow_expect _).bind fun _ => shallow_pure _

theorem shallow_negatedItem (bang : Lexeme) : (negatedItem bang).Shallow :=
  (shallow_unitOrRange.bind fun _ => shallow_fail (by nofun)).orElse
    (((shallow_namedItem true).bind fun _ => shallow_pure _).orElse (shallow_failHere (by nofun)))

theorem shallow_classItem : classItem.Shallow := by
  refine (shallow_accept _).optional.bind fun bang => ?_
  cases bang with
  | some bang => exact shallow_negatedItem bang
  | none => exact shallow_unitOrRange.orElse ((shallow_namedItem false).bind fun _ => shallow_pure _)

theorem shallow_charClass (unicode : Bool) : (charClass unicode).Shallow := by
  refine (shallow_accept _).bind fun opening => shallow_classItem.many.bind fun items =>
    ((shallow_accept _).orFail (by nofun)).bind fun closing => ?_
  dsimp only
  split
  · exact shallow_pure _
  · exact shallow_fail (by nofun)

/-! ### Atoms -/

theorem shallow_groupName (name : Lexeme) : (groupName name).Shallow := by
  unfold groupName
  split
  · exact shallow_fail (by nofun)
  · split
    · exact shallow_fail (by nofun)
    · exact shallow_pure _

theorem shallow_groupOpening : groupOpening.Shallow := by
  refine ((shallow_keyword _).bind fun _ => (shallow_expect _).bind fun _ => shallow_pure _).orElse
    (.orElse ?_ ((shallow_accept _).bind fun _ => shallow_pure _))
  refine (shallow_accept _).bind fun colon => (shallow_accept _).optional.bind fun name => ?_
  cases name with
  | none => exact (shallow_pure _).bind fun _ => (shallow_expect _).bind fun _ => shallow_pure _
  | some name =>
    exact (shallow_groupName name).bind fun _ => (shallow_expect _).bind fun _ => shallow_pure _

theorem groupOpening_progresses : groupOpening.Progresses :=
  progresses_of_reads fun _ _ _ accepted => by
    obtain ⟨lexemes, spells, reads, -⟩ := spellsOpening_of_groupOpening accepted
    exact ⟨lexemes, ne_nil_of_roleOf (by decide) spells.role_eq, reads⟩

theorem shallow_boundary : boundary.Shallow :=
  shallow_acceptMap _

theorem shallow_referenceTarget : referenceTarget.Shallow :=
  have signed (kind : TokenKind) (target : Int32 → ReferenceTarget) : Shallow (do
      let _ ← accept kind
      let offset ← expectNumber offset?
      return target offset) :=
    (shallow_accept _).bind fun _ => (shallow_expectNumber _).bind fun _ => shallow_pure _
  (signed _ _).orElse ((signed _ fun offset => .relative (-offset)).orElse
    (((shallow_number _).bind fun _ => shallow_pure _).orElse
      (((shallow_accept _).orFail (by nofun)).bind fun _ => shallow_pure _)))

theorem shallow_reference : reference.Shallow :=
  (shallow_accept _).bind fun _ => shallow_referenceTarget.bind fun _ =>
    shallow_previous.bind fun _ => shallow_pure _

theorem shallow_codePointClass (unicode : Bool) : (codePointClass unicode).Shallow :=
  shallow_codePoint.bind fun _ => shallow_pure _

theorem shallow_radix : radix.Shallow := by
  refine (shallow_keyword _).bind fun _ => (shallow_expectNumber _).bind fun base => ?_
  split
  · exact shallow_pure _
  · exact shallow_previous.bind fun _ => shallow_fail (by nofun)

theorem shallow_numberRange : numberRange.Shallow :=
  (shallow_keyword _).bind fun _ => (shallow_expect _).bind fun _ => (shallow_expect _).bind fun _ =>
    (shallow_expect _).bind fun _ => shallow_radix.optional.bind fun _ =>
      shallow_previous.bind fun _ => shallow_pure _

theorem shallow_regex : regex.Shallow :=
  (shallow_keyword _).bind fun _ => shallow_expectLiteral.bind fun _ => shallow_pure _

/-! ### Repetitions -/

theorem shallow_bracedBounds : bracedBounds.Shallow := by
  refine (shallow_accept _).bind fun _ => shallow_here.bind fun start =>
    (shallow_number _).optional.bind fun lower => (shallow_accept _).optional.bind fun comma =>
      (shallow_number _).optional.bind fun upper => shallow_previous.bind fun stop => ?_
  have closed (bounds : Bounds) : Shallow (do
      let _ ← expect .closeBrace
      return bounds) := (shallow_expect _).bind fun _ => shallow_pure _
  dsimp only
  split
  · exact (shallow_pure _).bind closed
  · split
    · exact (shallow_fail (by nofun)).bind closed
    · exact (shallow_pure _).bind closed
  · exact (shallow_fail (by nofun)).bind closed
  · exact (shallow_pure _).bind closed
  · exact (shallow_failHere (by nofun)).bind closed

theorem shallow_repetitionBounds : repetitionBounds.Shallow :=
  have single (kind : TokenKind) (bounds : Bounds) : Shallow (accept kind *> pure bounds) :=
    (shallow_accept kind).bind fun _ => shallow_pure bounds
  (single _ _).orElse ((single _ _).orElse ((single _ _).orElse shallow_bracedBounds))

theorem shallow_quantifier (lazyMode : Bool) : (quantifier lazyMode).Shallow :=
  have single (word : String) (preference : Quantifier) :
      Shallow (keyword word *> pure preference) :=
    (shallow_keyword word).bind fun _ => shallow_pure preference
  (single _ _).orElse ((single _ _).orElse (shallow_pure _))

theorem shallow_repetition (lazyMode : Bool) : (repetition lazyMode).Shallow := by
  refine shallow_here.bind fun start => shallow_repetitionBounds.bind fun bounds =>
    (shallow_quantifier _).bind fun preference => shallow_previous.bind fun stop =>
      shallow_here.bind fun secondStart => shallow_repetitionBounds.optional.bind fun second => ?_
  cases second with
  | none => exact shallow_pure _
  | some _ => exact shallow_previous.bind fun _ => shallow_fail (by nofun)

theorem shallow_repeated (lazyMode : Bool) (body : Pattern) : (repeated lazyMode body).Shallow := by
  refine (shallow_repetition lazyMode).optional.bind fun found => ?_
  cases found <;> exact shallow_pure _

/-! ### Statements -/

theorem shallow_setting : setting.Shallow :=
  ((shallow_keyword _).bind fun _ => shallow_pure _).orElse
    ((shallow_contextual _).bind fun _ => shallow_pure _)

theorem shallow_toggleWord : toggleWord.Shallow :=
  ((shallow_keyword _).bind fun _ => shallow_pure _).orElse
    ((shallow_keyword _).bind fun _ => shallow_pure _)

theorem shallow_toggle : toggle.Shallow :=
  shallow_toggleWord.bind fun _ => (shallow_setting.orFail (by nofun)).bind fun _ =>
    (shallow_expect _).bind fun _ => shallow_pure _

theorem shallow_captureLabel : captureLabel.Shallow :=
  ((shallow_number _).bind fun _ => shallow_pure _).orElse
    ((shallow_accept _).bind fun _ => shallow_pure _)

theorem shallow_capture : capture.Shallow :=
  shallow_captureLabel.bind fun _ => shallow_previous.bind fun _ => (shallow_expect _).bind fun _ =>
    shallow_expectLiteral.bind fun _ => shallow_pure _

theorem shallow_captures : captures.Shallow := by
  refine (shallow_contextual _).optional.bind fun found => ?_
  cases found with
  | none => exact shallow_pure _
  | some _ =>
    have separated : Shallow (capture <* accept .comma) :=
      shallow_capture.bind fun _ => (shallow_accept _).bind fun _ => shallow_pure _
    have listed : Shallow (sepEndBy capture (accept .comma)) :=
      separated.many.bind fun _ => shallow_capture.optional.bind fun _ => shallow_pure _
    exact (shallow_expect _).bind fun _ => listed.bind fun _ =>
      (shallow_expect _).bind fun _ => shallow_pure _

theorem shallow_testMatch : testMatch.Shallow :=
  shallow_expectLiteral.bind fun _ => shallow_captures.bind fun _ =>
    shallow_previous.bind fun _ => shallow_pure _

theorem shallow_testMatches : testMatches.Shallow := by
  have text : nextText.Shallow := by
    intro cursor diagnostic failed
    unfold nextText at failed
    split at failed <;> cases failed
  have next : Shallow (accept .comma *> testMatch) :=
    (shallow_accept _).bind fun _ => shallow_testMatch
  refine text.bind fun text => ?_
  split
  · exact shallow_pure _
  · exact shallow_testMatch.bind fun _ => next.many.bind fun _ => shallow_pure _

theorem shallow_haystack : haystack.Shallow :=
  (shallow_contextual _).bind fun _ => shallow_expectLiteral

theorem shallow_matchCase : matchCase.Shallow := by
  refine (shallow_contextual _).bind fun word => shallow_testMatches.bind fun expected =>
    shallow_haystack.optional.bind fun within => (shallow_expect _).bind fun stop => ?_
  split
  · exact shallow_pure _
  · exact shallow_pure _
  · exact shallow_failHere (by nofun)
  · exact shallow_fail (by nofun)

theorem shallow_rejectCase : rejectCase.Shallow :=
  (shallow_contextual _).bind fun _ => (shallow_contextual _).optional.bind fun _ =>
    shallow_expectLiteral.bind fun _ => (shallow_expect _).bind fun _ => shallow_pure _

theorem shallow_testBlock : testBlock.Shallow :=
  (shallow_keyword _).bind fun _ => (shallow_expect _).bind fun _ =>
    (shallow_matchCase.orElse shallow_rejectCase).many.bind fun _ =>
      (shallow_expect _).bind fun _ => shallow_pure _

/-! ## Productions with levels -/

section Operators

variable {levels : Nat} {operand : Parser Pattern} (lasts : operand.Lasts levels)

include lasts

theorem lasts_nextAlternative : (nextAlternative operand).Lasts levels :=
  (shallow_accept _).lasts.bind (acceptMap_progresses _) fun _ =>
    (lasts.mono (Nat.sub_le _ _)).orElse (shallow_fail (by nofun)).lasts

theorem lasts_nextOperand : (nextOperand operand).Lasts levels :=
  (shallow_accept _).lasts.bind (acceptMap_progresses _) fun _ =>
    (lasts.mono (Nat.sub_le _ _)).orFail (by nofun)

theorem lasts_lookaround : (lookaround operand).Lasts (levels + 1) :=
  (shallow_acceptMap _).lasts.bind (acceptMap_progresses _) fun _ =>
    lasts.bind_shallow fun _ => shallow_pure _

theorem lasts_group : (group operand).Lasts (levels + 1) :=
  shallow_groupOpening.lasts.bind groupOpening_progresses fun _ =>
    lasts.bind_shallow fun _ => ((shallow_accept _).orFail (by nofun)).bind fun _ => shallow_pure _

theorem lasts_atom (unicode : Bool) : (atom unicode operand).Lasts (levels + 1) :=
  (lasts_group lasts).orElse <| Shallow.lasts <|
    (shallow_literal.bind fun _ => shallow_pure _).orElse <|
    (shallow_charClass unicode).orElse <|
    shallow_boundary.orElse <|
    shallow_reference.orElse <|
    (shallow_codePointClass unicode).orElse <|
    shallow_numberRange.orElse <|
    shallow_regex.orElse <|
    ((shallow_accept _).bind fun _ => shallow_pure _).orElse <|
    ((shallow_accept _).bind fun _ => shallow_pure _).orElse <|
    (shallow_keyword _).bind fun _ => shallow_pure _

theorem lasts_statement : (statement operand).Lasts levels :=
  have bound : (binding operand).Lasts levels :=
    (shallow_keyword _).lasts.bind (acceptMap_progresses _) fun _ =>
      (shallow_expect _).lasts.bind (expect_progresses _) fun _ =>
        (shallow_expect _).lasts.bind (expect_progresses _) fun _ =>
          (lasts.mono (by omega)).bind_shallow fun _ =>
            ((shallow_accept _).orFail (by nofun)).bind fun _ => shallow_pure _
  (shallow_toggle.bind fun _ => shallow_pure _).lasts.orElse
    (bound.orElse (shallow_testBlock.bind fun _ => shallow_pure _).lasts)

variable (progresses : operand.Progresses)

include progresses

theorem lasts_sequence : (sequence operand).Lasts levels := by
  rw [sequence_eq]
  exact lasts.bind progresses fun _ =>
    (lasts.many.bind_shallow fun _ => shallow_pure _).mono (Nat.sub_le _ _)

theorem lasts_intersection : (intersection operand).Lasts levels := by
  rw [intersection_eq_choice]
  have next := lasts_nextOperand lasts
  have nextProgresses := nextOperand_progresses progresses
  refine lasts_here_bind fun _ => (next.orElse lasts).bind (nextProgresses.orElse progresses)
    fun _ => ?_
  exact (next.many.bind_shallow fun _ => shallow_previous.bind fun _ => shallow_pure _).mono
    (Nat.sub_le _ _)

theorem lasts_alternation : (alternation operand).Lasts levels := by
  rw [alternation, alternatives_eq_choice]
  have next := lasts_nextAlternative lasts
  have nextProgresses := nextAlternative_progresses progresses
  refine (lasts_here_bind fun _ => (next.orElse lasts).bind (nextProgresses.orElse progresses)
    fun _ => ?_).orElse (shallow_pure _).lasts
  exact (next.many.bind_shallow fun _ => shallow_pure _).mono (Nat.sub_le _ _)

end Operators

theorem lasts_bangs (levels : Nat) (start : Span) : (bangs levels start).Lasts (levels + 1) := by
  induction levels generalizing start with
  | zero =>
    exact ((shallow_accept _).lasts.bind (acceptMap_progresses _) fun _ => lasts_zero _).orElse
      (shallow_pure _).lasts
  | succ levels inductionHypothesis =>
    exact ((shallow_accept _).lasts.bind (acceptMap_progresses _) fun _ =>
      (inductionHypothesis _).bind_shallow fun _ => shallow_pure _).orElse (shallow_pure _).lasts

section Nested

variable {levels : Nat} (nested : ∀ fewer < levels, ∀ modes, (scope fewer modes).Lasts (fewer + 1))
  (modes : Modes)

include nested

theorem lasts_expression_of_nested {within : Nat} (within_le : within ≤ levels) :
    (expression within modes).Lasts within := by
  cases within with
  | zero => exact lasts_zero _
  | succ fewer =>
    rw [expression]
    exact (nested fewer within_le modes).bind_shallow fun _ => shallow_pure _

theorem lasts_negation_of_nested : (negation levels modes).Lasts (levels + 1) := by
  refine lasts_here_bind fun start => ?_
  intro cursor diagnostic failed deep
  rcases bind_eq_fail_iff.mp failed with failed | ⟨⟨count, span⟩, between, counted, failed⟩
  · exact lasts_bangs levels start _ _ failed deep
  · -- Every exclamation mark has taken a level and a lexeme.
    obtain ⟨marks, -, reads, rfl, -, fits, -⟩ := bangs_eq_accept_iff.mp counted
    have total := reads.length_eq
    have expressions := lasts_expression_of_nested nested modes (Nat.sub_le levels marks.length)
    have operand : (lookaroundOrAtom (levels - marks.length) modes).Lasts
        (levels - marks.length + 1) :=
      (lasts_lookaround expressions).orElse (lasts_atom expressions modes.unicode)
    have enough : levels - marks.length + 1 ≤ between.rest.length := by
      dsimp only at failed
      split at failed
      · exact operand.bind_shallow (fun _ => shallow_pure _) _ _ failed deep
      · exact (operand.orFail (by nofun)).bind_shallow (fun _ => shallow_pure _) _ _ failed deep
    omega

theorem lasts_bare_of_nested : (bare levels modes).Lasts (levels + 1) := by
  have terms : (term levels modes).Lasts (levels + 1) := by
    rw [term_eq]
    exact (lasts_negation_of_nested nested modes).bind_shallow (shallow_repeated _)
  exact lasts_alternation (lasts_intersection (lasts_sequence terms (term_progresses levels modes))
    (sequence_progresses levels modes)) (intersection_progresses levels modes)

end Nested

theorem statement_progresses (levels : Nat) (modes : Modes) :
    (statement (bare levels modes)).Progresses :=
  progresses_of_reads fun _ _ _ accepted => by
    obtain ⟨lexemes, reads, spells, -⟩ :=
      statement_isReading (fun fewer _ modes => sound_scope fewer modes) accepted
    exact ⟨lexemes, ne_nil_of_roleOf (by decide) spells.begins, reads⟩

theorem lasts_scope (levels : Nat) (modes : Modes) : (scope levels modes).Lasts (levels + 1) := by
  induction levels using Nat.strongRecOn generalizing modes with
  | ind levels nested =>
    have bares := lasts_bare_of_nested nested modes
    rw [scope_eq]
    refine ((lasts_statement bares).bind (statement_progresses levels modes) fun stated => ?_).orElse
      (bares.bind_shallow fun _ => shallow_pure _)
    cases levels with
    | zero => exact lasts_zero _
    | succ fewer =>
      exact (nested fewer (Nat.lt_succ_self fewer) _).bind_shallow fun _ => shallow_pure _

/-- The levels of an expression last for any smaller number of lexemes. -/
theorem lasts_expression (levels : Nat) (modes : Modes) : (expression levels modes).Lasts levels :=
  lasts_expression_of_nested (fun fewer _ => lasts_scope fewer) modes (Nat.le_refl levels)

end Grammar

end PatternSyntax
