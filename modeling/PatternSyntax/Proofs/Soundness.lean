import PatternSyntax.Proofs.Operators

/-!
# Soundness of reading

Whatever an expression is read as is spelled by the lexemes that were read, is
canonical, and does not take more levels than there are. What comes next does not
go on with it: this is where the lookahead of the parsers is paid back, and it is
what makes the tree around it canonical.
-/

namespace PatternSyntax.Grammar

open PatternSyntax.Parser
open PatternSyntax.Pattern (onlyLastRunsOn areCanonical greatestNesting lastRunsOn)

/-- The phrase is a right reading of what stands between two cursors. -/
structure IsReading (levels : Nat) (modes : Modes) (phrase : Phrase) (before after : Cursor) :
    Prop where
  spelled : ∃ lexemes, before.Reads lexemes after ∧ Spells modes phrase lexemes
  canonical : phrase.isCanonical
  fits : phrase.nesting ≤ levels
  stops : phrase.Stops (roleOf after.rest)

/-- Everything that the parser accepts is a reading of the given kind. -/
def Sound (levels : Nat) (modes : Modes) (phrase : Pattern → Phrase) (parser : Parser Pattern) :
    Prop :=
  ∀ before pattern after, parser before = .accept pattern after →
    IsReading levels modes (phrase pattern) before after

variable {levels : Nat} {modes : Modes}

theorem Sound.progresses {phrase : Pattern → Phrase} {parser : Parser Pattern}
    (sound : Sound levels modes phrase parser)
    (nonempty : ∀ pattern lexemes, Spells modes (phrase pattern) lexemes → lexemes ≠ []) :
    parser.Progresses := by
  refine progresses_of_reads fun before pattern after accepted => ?_
  obtain ⟨lexemes, reads, spells⟩ := (sound _ _ _ accepted).spelled
  exact ⟨lexemes, nonempty _ _ spells, reads⟩

/-! ## Atoms and lookarounds -/

theorem SpellsAtom.isReading {pattern : Pattern} {lexemes : List Lexeme} {before after : Cursor}
    (spells : SpellsAtom modes.unicode pattern lexemes) (reads : before.Reads lexemes after) :
    IsReading levels modes (.operand pattern) before after := by
  refine ⟨⟨lexemes, reads, .atom spells⟩, ?_, ?_, ?_⟩
  all_goals cases spells
  all_goals simp [Phrase.isCanonical, Phrase.nesting, Phrase.Stops, Pattern.isCanonical,
    Pattern.nesting, Pattern.runsOn, Pattern.admitsRepetition]

/-- Every expression that is read is a reading, and the place of what stands after
its last statement is known. -/
def SoundScope (levels : Nat) (modes : Modes) : Prop :=
  ∀ before pattern span after, scope levels modes before = .accept (pattern, span) after →
    span = pattern.scopedSpan ∧ IsReading levels modes (.expression pattern) before after

section Nested

variable (nested : ∀ fewer < levels, ∀ modes, SoundScope fewer modes)

include nested

theorem expression_isReading {within : Nat} (fits : within ≤ levels) {pattern : Pattern}
    {before after : Cursor} (accepted : expression within modes before = .accept pattern after) :
    ∃ fewer, within = fewer + 1 ∧ IsReading fewer modes (.expression pattern) before after := by
  obtain ⟨fewer, span, rfl, scopeAccepted⟩ := expression_eq_accept_iff.mp accepted
  exact ⟨fewer, rfl, (nested fewer fits modes before pattern span after scopeAccepted).2⟩

theorem sound_lookaroundOrAtom {within : Nat} (within_le : within ≤ levels) :
    Sound within modes .operand (lookaroundOrAtom within modes) := by
  intro before pattern after accepted
  rcases orElse_eq_accept_iff.mp accepted with looked | ⟨-, other⟩
  · obtain ⟨operator, kind, between, body, isLookaround, reads, bodyAccepted, rfl⟩ :=
      lookaround_eq_accept_iff.mp looked
    obtain ⟨fewer, rfl, ⟨lexemes, readsBody, spells⟩, canonical, fits, noTerm, noAmpersand, noBar,
      repetition⟩ := expression_isReading nested within_le bodyAccepted
    refine ⟨⟨[operator] ++ lexemes, reads.trans readsBody, .lookaround isLookaround spells⟩,
      ?_, ?_, ?_, ?_⟩
    · simpa only [Phrase.isCanonical, Pattern.isCanonical] using canonical
    · simp only [Phrase.nesting, Pattern.nesting] at fits ⊢
      omega
    · simpa only [Pattern.admitsRepetition] using repetition
    · exact fun _ => ⟨noTerm, noAmpersand, noBar⟩
  · rcases spells_of_atom other with grouped | ⟨lexemes, spells, reads⟩
    · obtain ⟨kind, opening, between, body, middle, closing, ⟨spellsOpening, readsOpening⟩,
        bodyAccepted, ⟨closes, readsClosing⟩, rfl⟩ := group_eq_accept_iff.mp grouped
      obtain ⟨fewer, rfl, ⟨inner, readsBody, spells⟩, canonical, fits, -⟩ :=
        expression_isReading nested within_le bodyAccepted
      have reads := (readsOpening.trans readsBody).trans readsClosing
      have span_eq : before.span.join closing.span = cover (opening ++ inner ++ [closing]) := by
        rw [reads.cover_eq (by simp), readsClosing.previous]
        rfl
      rw [span_eq]
      refine ⟨⟨_, reads, .group spellsOpening spells closes⟩, ?_, ?_, ?_⟩
      · simpa only [Phrase.isCanonical, Pattern.isCanonical] using canonical
      · simp only [Phrase.nesting, Pattern.nesting] at fits ⊢
        omega
      · simp [Phrase.Stops, Pattern.admitsRepetition, Pattern.runsOn]
    · exact spells.isReading reads

/-! ## Terms -/

theorem sound_negation : Sound levels modes .negation (negation levels modes) := by
  intro before pattern after accepted
  obtain ⟨marks, between, body, areBangs, readsMarks, marks_le, bodyAccepted, rfl⟩ :=
    negation_eq_accept_iff.mp accepted
  obtain ⟨⟨lexemes, readsBody, spells⟩, canonical, fits, stops⟩ :=
    sound_lookaroundOrAtom nested (Nat.sub_le _ _) _ _ _ bodyAccepted
  refine ⟨⟨marks ++ lexemes, readsMarks.trans readsBody, .negated areBangs spells⟩, ?_, ?_, ?_⟩
  · simpa only [Phrase.isCanonical, negate_isCanonical] using canonical
  · simp only [Phrase.nesting, negate_nesting] at fits ⊢
    omega
  · simpa only [Phrase.Stops, negate_runsOn, negate_admitsRepetition] using stops

theorem sound_term : Sound levels modes .term (term levels modes) := by
  intro before pattern after accepted
  rw [term_eq, bind_eq_accept_iff] at accepted
  obtain ⟨body, between, negated, repeats⟩ := accepted
  obtain ⟨⟨lexemes, readsBody, spells⟩, canonical, fits, admits, stops⟩ :=
    sound_negation nested _ _ _ negated
  obtain ⟨complete, ⟨-, rfl, rfl⟩ | ⟨bounds, preference, first, second, spellsBounds,
    spellsPreference, reads, rfl⟩⟩ := spells_of_repeated repeats
  · exact ⟨⟨lexemes, readsBody, .once spells⟩, canonical, fits, complete, stops⟩
  · have isRepetition : roleOf between.rest = .repetition := by
      rw [reads.rest, List.append_assoc]
      exact spellsBounds.role_eq _
    rw [← reads.cover_eq (by simp [spellsBounds.ne_nil])]
    refine ⟨⟨_, readsBody.trans reads, .repeated spells spellsBounds spellsPreference⟩,
      ?_, ?_, complete, nofun⟩
    · simp only [Phrase.isCanonical, Pattern.isCanonical, Bool.and_eq_true] at canonical ⊢
      exact ⟨admits isRepetition, canonical⟩
    · simpa only [Phrase.nesting, Pattern.nesting] using fits

theorem term_progresses_of_nested (modes : Modes) : (term levels modes).Progresses :=
  (sound_term nested).progresses fun _ _ spells => ne_nil_of_roleOf (by decide) spells.begins

end Nested

/-! ## Operands -/

/-- Operands in a row are canonical if an operator tells each of them from the
next. What follows the last of them stops all of them. -/
theorem chain {item : Parser Pattern} (separator : Role) (holds : Bool → Role → Prop)
    (apart : ¬holds true separator)
    (items : ∀ before pattern after, item before = .accept pattern after →
      roleOf before.rest = separator ∧ pattern.isCanonical ∧ pattern.nesting ≤ levels ∧
        holds pattern.runsOn (roleOf after.rest))
    {first : Pattern} {more : List Pattern} {middle after : Cursor}
    (canonical : first.isCanonical) (fits : first.nesting ≤ levels)
    (stops : holds first.runsOn (roleOf middle.rest)) (repeats : Repeats item middle more after) :
    (onlyLastRunsOn (first :: more) && areCanonical (first :: more)) ∧
      greatestNesting (first :: more) ≤ levels ∧
      holds (lastRunsOn (first :: more)) (roleOf after.rest) := by
  induction repeats generalizing first with
  | stop declined =>
    refine ⟨?_, ?_, ?_⟩
    · simp [onlyLastRunsOn, areCanonical, canonical]
    · simpa [greatestNesting] using fits
    · simpa only [lastRunsOn] using stops
  | step accepted more inductionHypothesis =>
    obtain ⟨separated, secondCanonical, secondFits, secondStops⟩ := items _ _ _ accepted
    obtain ⟨moreCanonical, moreFits, moreStops⟩ :=
      inductionHypothesis secondCanonical secondFits secondStops
    have firstEnds : first.runsOn = false := by
      rw [separated] at stops
      cases runs : first.runsOn with
      | false => rfl
      | true => exact absurd (runs ▸ stops) apart
    refine ⟨?_, ?_, ?_⟩
    · rw [Bool.and_eq_true] at moreCanonical
      rw [onlyLastRunsOn, areCanonical, firstEnds, canonical]
      simpa using moreCanonical
    · rw [greatestNesting]
      exact Nat.max_le.mpr ⟨fits, moreFits⟩
    · rwa [lastRunsOn]

section Nested

variable (nested : ∀ fewer < levels, ∀ modes, SoundScope fewer modes)

include nested

theorem spells_moreTerms {patterns : List Pattern} {before after : Cursor}
    (repeats : Repeats (term levels modes) before patterns after) :
    ∃ lexemes, before.Reads lexemes after ∧ Spells modes (.moreTerms patterns) lexemes := by
  induction repeats with
  | stop _ => exact ⟨[], Cursor.reads_nil_iff.mpr rfl, .noTerm⟩
  | step accepted _ inductionHypothesis =>
    obtain ⟨⟨lexemes, reads, spells⟩, -⟩ := sound_term nested _ _ _ accepted
    obtain ⟨moreLexemes, readsMore, spellsMore⟩ := inductionHypothesis
    exact ⟨_, reads.trans readsMore, .nextTerm spells spellsMore⟩

theorem sound_sequence : Sound levels modes .sequence (sequence (term levels modes)) := by
  intro before pattern after accepted
  obtain ⟨first, middle, more, firstAccepted, repeats, rfl⟩ :=
    (sequence_eq_accept_iff (term_progresses_of_nested nested modes)).mp accepted
  obtain ⟨⟨lexemes, reads, spells⟩, canonical, fits, stops⟩ :=
    sound_term nested _ _ _ firstAccepted
  obtain ⟨moreLexemes, readsMore, spellsMore⟩ := spells_moreTerms nested repeats
  obtain ⟨allCanonical, allFit, noRepetition, others⟩ := chain .term
    (fun runsOn next => next ≠ .repetition ∧
      (runsOn → next ≠ .term ∧ next ≠ .ampersand ∧ next ≠ .bar))
    (fun holds => (holds.2 rfl).1 rfl)
    (by
      intro before pattern after accepted
      obtain ⟨⟨lexemes, reads, spells⟩, canonical, fits, stops⟩ :=
        sound_term nested _ _ _ accepted
      exact ⟨reads.roleOf_eq_of_decisive (by decide) spells.begins, canonical, fits, stops⟩)
    canonical fits stops repeats
  refine ⟨⟨_, reads.trans readsMore, .terms spells spellsMore⟩, ?_, ?_,
    term_eq_decline_iff.mp repeats.declined, noRepetition, ?_⟩
  · simpa only [Phrase.isCanonical, Pattern.sequenceOf_isCanonical] using allCanonical
  · simpa only [Phrase.nesting, Pattern.sequenceOf_nesting] using allFit
  · rw [Pattern.sequenceOf_runsOn]
    exact fun runs => (others runs).2

theorem sequence_progresses_of_nested (modes : Modes) : (sequence (term levels modes)).Progresses :=
  (sound_sequence nested).progresses fun _ _ spells => ne_nil_of_roleOf (by decide) spells.begins

theorem spells_moreOperands {patterns : List Pattern} {before after : Cursor}
    (repeats : Repeats (nextOperand (sequence (term levels modes))) before patterns after) :
    ∃ lexemes, before.Reads lexemes after ∧ Spells modes (.moreOperands patterns) lexemes := by
  induction repeats with
  | stop _ => exact ⟨[], Cursor.reads_nil_iff.mpr rfl, .noOperand⟩
  | step accepted _ inductionHypothesis =>
    obtain ⟨ampersand, _, ⟨isAmpersand, readsAmpersand⟩, operandAccepted⟩ :=
      nextOperand_eq_accept_iff.mp accepted
    obtain ⟨⟨lexemes, reads, spells⟩, -⟩ := sound_sequence nested _ _ _ operandAccepted
    obtain ⟨moreLexemes, readsMore, spellsMore⟩ := inductionHypothesis
    exact ⟨_, (readsAmpersand.trans reads).trans readsMore,
      .nextOperand isAmpersand spells spellsMore⟩

theorem sound_intersection :
    Sound levels modes .intersection (intersection (sequence (term levels modes))) := by
  intro before pattern after accepted
  have progresses := sequence_progresses_of_nested nested modes
  obtain ⟨ampersand, between, first, middle, more, found, firstAccepted, repeats, rfl⟩ :=
    (intersection_eq_accept_iff progresses).mp accepted
  obtain ⟨isAmpersand, readsAmpersand, -⟩ := optional_accept_eq_accept_iff.mp found
  obtain ⟨⟨lexemes, reads, spells⟩, canonical, fits, stops⟩ :=
    sound_sequence nested _ _ _ firstAccepted
  obtain ⟨moreLexemes, readsMore, spellsMore⟩ := spells_moreOperands nested repeats
  obtain ⟨allCanonical, allFit, noTerm, noRepetition, others⟩ := chain .ampersand
    (fun runsOn next => next ≠ .term ∧ next ≠ .repetition ∧
      (runsOn → next ≠ .ampersand ∧ next ≠ .bar))
    (fun holds => (holds.2.2 rfl).1 rfl)
    (by
      intro before pattern after accepted
      obtain ⟨ampersand, between, ⟨isAmpersand, readsAmpersand⟩, operandAccepted⟩ :=
        nextOperand_eq_accept_iff.mp accepted
      obtain ⟨-, canonical, fits, stops⟩ := sound_sequence nested _ _ _ operandAccepted
      refine ⟨?_, canonical, fits, stops⟩
      rw [readsAmpersand.roleOf_eq, Lexeme.role_eq_ampersand_iff.mpr isAmpersand])
    canonical fits stops repeats
  have reads := (readsAmpersand.trans reads).trans readsMore
  have nonempty : ampersand.toList ++ lexemes ++ moreLexemes ≠ [] := by
    simp [ne_nil_of_roleOf (by decide) spells.begins]
  rw [← reads.cover_eq nonempty]
  refine ⟨⟨_, reads, .intersected isAmpersand spells spellsMore⟩, ?_, ?_, noTerm,
    nextOperand_eq_decline_iff.mp repeats.declined, noRepetition, ?_⟩
  · simpa only [Phrase.isCanonical, Pattern.intersectionOf_isCanonical] using allCanonical
  · simpa only [Phrase.nesting, Pattern.intersectionOf_nesting] using allFit
  · rw [Pattern.intersectionOf_runsOn]
    exact fun runs => (others runs).2

theorem intersection_progresses_of_nested (modes : Modes) :
    (intersection (sequence (term levels modes))).Progresses := by
  refine (sound_intersection nested).progresses fun _ _ spells none => ?_
  have begins := spells.begins
  simp [none, Phrase.Begins] at begins

theorem spells_moreAlternatives {patterns : List Pattern} {before after : Cursor}
    (repeats : Repeats (nextAlternative (intersection (sequence (term levels modes)))) before
      patterns after) :
    ∃ lexemes, before.Reads lexemes after ∧ Spells modes (.moreAlternatives patterns) lexemes := by
  induction repeats with
  | stop _ => exact ⟨[], Cursor.reads_nil_iff.mpr rfl, .noAlternative⟩
  | step accepted _ inductionHypothesis =>
    obtain ⟨bar, _, ⟨isBar, readsBar⟩, operandAccepted⟩ := nextAlternative_eq_accept_iff.mp accepted
    obtain ⟨⟨lexemes, reads, spells⟩, -⟩ := sound_intersection nested _ _ _ operandAccepted
    obtain ⟨moreLexemes, readsMore, spellsMore⟩ := inductionHypothesis
    exact ⟨_, (readsBar.trans reads).trans readsMore, .nextAlternative isBar spells spellsMore⟩

theorem sound_alternatives :
    Sound levels modes .alternation (alternatives (intersection (sequence (term levels modes)))) := by
  intro before pattern after accepted
  have progresses := intersection_progresses_of_nested nested modes
  obtain ⟨bar, between, first, middle, more, found, firstAccepted, repeats, rfl⟩ :=
    (alternatives_eq_accept_iff progresses).mp accepted
  obtain ⟨isBar, readsBar, -⟩ := optional_accept_eq_accept_iff.mp found
  obtain ⟨⟨lexemes, reads, spells⟩, canonical, fits, stops⟩ :=
    sound_intersection nested _ _ _ firstAccepted
  obtain ⟨moreLexemes, readsMore, spellsMore⟩ := spells_moreAlternatives nested repeats
  obtain ⟨allCanonical, allFit, noTerm, noAmpersand, noRepetition, -⟩ := chain .bar
    (fun runsOn next => next ≠ .term ∧ next ≠ .ampersand ∧ next ≠ .repetition ∧
      (runsOn → next ≠ .bar))
    (fun holds => holds.2.2.2 rfl rfl)
    (by
      intro before pattern after accepted
      obtain ⟨bar, between, ⟨isBar, readsBar⟩, operandAccepted⟩ :=
        nextAlternative_eq_accept_iff.mp accepted
      obtain ⟨-, canonical, fits, stops⟩ := sound_intersection nested _ _ _ operandAccepted
      refine ⟨?_, canonical, fits, stops⟩
      rw [readsBar.roleOf_eq, Lexeme.role_eq_bar_iff.mpr isBar])
    canonical fits stops repeats
  have nonempty : bar.toList ++ lexemes ≠ [] := by
    rw [ne_eq, List.append_eq_nil_iff]
    rintro ⟨-, rfl⟩
    have begins := spells.begins
    simp [Phrase.Begins] at begins
  rw [(readsBar.trans reads).span_eq_firstSpan nonempty]
  refine ⟨⟨_, (readsBar.trans reads).trans readsMore, .alternatives isBar spells spellsMore⟩, ?_, ?_,
    noTerm, noAmpersand, nextAlternative_eq_decline_iff.mp repeats.declined, ?_⟩
  · simpa only [Phrase.isCanonical, Pattern.alternationOf_isCanonical] using allCanonical
  · simpa only [Phrase.nesting, Pattern.alternationOf_nesting] using allFit
  · exact fun isRepetition => absurd isRepetition noRepetition

theorem bare_isReading {before after : Cursor} {pattern : Pattern}
    (accepted : bare levels modes before = .accept pattern after) :
    IsReading levels modes (.alternation pattern) before after := by
  rcases orElse_eq_accept_iff.mp accepted with some | ⟨declined, none⟩
  · exact sound_alternatives nested _ _ _ some
  · have intersections := intersection_progresses_of_nested nested modes
    have sequences := sequence_progresses_of_nested nested modes
    have terms := term_progresses_of_nested nested modes
    rw [alternatives_eq_decline_iff intersections, intersection_eq_decline_iff sequences,
      sequence_eq_decline_iff terms, term_eq_decline_iff] at declined
    obtain ⟨noBar, noAmpersand, noTerm⟩ := declined
    obtain ⟨rfl, rfl⟩ := pure_eq_accept_iff.mp none
    exact ⟨⟨[], Cursor.reads_nil_iff.mpr rfl, .nothing⟩, rfl, Nat.zero_le _, noTerm, noAmpersand,
      noBar, fun _ => rfl⟩

/-! ## Statements -/

theorem statement_isReading {before after : Cursor} {content : Statement} {span : Span}
    (accepted : statement (bare levels modes) before = .accept (content, span) after) :
    ∃ lexemes, before.Reads lexemes after ∧ Spells modes (.statement content) lexemes ∧
      span = cover lexemes ∧ content.isCanonical ∧ content.nesting ≤ levels := by
  rcases statement_eq_accept_imp accepted with ⟨directive, lexemes, rfl, spells, reads, rfl⟩ | bound
  · have nonempty := ne_nil_of_roleOf (by decide) spells.role_eq
    exact ⟨lexemes, reads, .directive spells, (reads.cover_eq nonempty).symm, rfl, Nat.zero_le _⟩
  · obtain ⟨word, name, equals, between, body, middle, stop, ⟨isLet, isName, isEquals⟩, readsHead,
      bodyAccepted, ⟨stops, readsStop⟩, rfl, rfl⟩ := binding_eq_accept_iff.mp bound
    obtain ⟨⟨lexemes, reads, spells⟩, canonical, fits, -⟩ := bare_isReading nested bodyAccepted
    have readsAll := (readsHead.trans reads).trans readsStop
    refine ⟨_, readsAll, .binding isLet isName isEquals spells stops, ?_, canonical, fits⟩
    rw [readsAll.cover_eq (by simp), readsStop.previous]
    exact congrArg (Span.join · stop.span) readsAll.span_eq.symm

end Nested

/-! ## Expressions -/

theorem sound_scope (levels : Nat) (modes : Modes) : SoundScope levels modes := by
  induction levels using Nat.strongRecOn generalizing modes with
  | ind levels nested =>
    intro before pattern span after accepted
    rcases scope_eq_accept_iff.mp accepted with ⟨noStatement, bareAccepted, rfl⟩ |
      ⟨content, statementSpan, between, fewer, body, stated, rfl, bodyAccepted, rfl⟩
    · obtain ⟨⟨lexemes, reads, spells⟩, canonical, fits, stops⟩ :=
        bare_isReading nested bareAccepted
      refine ⟨?_, ⟨lexemes, reads, .bare spells⟩, canonical, fits, stops⟩
      exact (Pattern.scopedSpan_of_not_isStated spells.unstated).symm
    · obtain ⟨lexemes, reads, spells, rfl, canonical, fits⟩ := statement_isReading nested stated
      obtain ⟨rfl, ⟨bodyLexemes, readsBody, spellsBody⟩, bodyCanonical, bodyFits, stops⟩ :=
        nested fewer (Nat.lt_succ_self fewer) (content.modes modes) _ _ _ _ bodyAccepted
      refine ⟨(Statement.scope_scopedSpan _ _ _).symm, ⟨_, reads.trans readsBody,
        .stated spells spellsBody⟩, ?_, ?_, ?_⟩
      · simp only [Phrase.isCanonical] at bodyCanonical ⊢
        simp [canonical, bodyCanonical]
      · simp only [Phrase.nesting, Statement.scope_nesting] at bodyFits ⊢
        omega
      · simpa only [Phrase.Stops, Statement.scope_isVacant] using stops

theorem term_progresses (levels : Nat) (modes : Modes) : (term levels modes).Progresses :=
  term_progresses_of_nested (fun fewer _ modes => sound_scope fewer modes) modes

theorem sequence_progresses (levels : Nat) (modes : Modes) :
    (sequence (term levels modes)).Progresses :=
  sequence_progresses_of_nested (fun fewer _ modes => sound_scope fewer modes) modes

theorem intersection_progresses (levels : Nat) (modes : Modes) :
    (intersection (sequence (term levels modes))).Progresses :=
  intersection_progresses_of_nested (fun fewer _ modes => sound_scope fewer modes) modes

/-- Whatever an expression is read as is spelled by what was read. -/
theorem expression_sound {levels : Nat} {modes : Modes} {pattern : Pattern} {before after : Cursor}
    (accepted : expression levels modes before = .accept pattern after) :
    ∃ lexemes, before.Reads lexemes after ∧ Spells modes (.expression pattern) lexemes ∧
      pattern.isCanonical ∧ pattern.nesting < levels := by
  obtain ⟨fewer, span, rfl, scopeAccepted⟩ := expression_eq_accept_iff.mp accepted
  obtain ⟨-, ⟨lexemes, reads, spells⟩, canonical, fits, -⟩ :=
    sound_scope fewer modes before pattern span after scopeAccepted
  exact ⟨lexemes, reads, spells, canonical, Nat.lt_succ_of_le fits⟩

end PatternSyntax.Grammar
