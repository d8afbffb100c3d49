import PatternSyntax.Grammar.Expression
import PatternSyntax.Proofs.Canonical

/-!
# Operators

What each operator makes of the parser of its operands, without any regard to
what the operands are. An operand has to take at least one lexeme, and then every
operator accepts exactly what its shape says, and declines exactly where neither
it nor its first operand begins.
-/

namespace PatternSyntax.Grammar

open PatternSyntax.Parser

variable {operand : Parser Pattern} {before after : Cursor} {pattern : Pattern}

/-- Read the first of the operands, given whether its operator stands before it. -/
def firstOperand {α : Type} (after : α → Parser Pattern) (operand : Parser Pattern) :
    Option α → Parser Pattern
  | some operator => after operator
  | none => operand

/-! ## Alternatives -/

/-- Read one more alternative with the bar before it. -/
def nextAlternative (operand : Parser Pattern) : Parser Pattern := do
  let bar ← accept .pipe
  alternativeAfter bar operand

@[simp]
theorem alternativeAfter_eq_accept_iff {bar : Lexeme} :
    alternativeAfter bar operand before = .accept pattern after ↔
      operand before = .accept pattern after := by
  simp [alternativeAfter, orElse_eq_accept_iff]

theorem commits_alternativeAfter (bar : Lexeme) : (alternativeAfter bar operand).Commits :=
  (commits_fail _).orElse

theorem nextAlternative_eq_accept_iff :
    nextAlternative operand before = .accept pattern after ↔
      ∃ bar between, (bar.kind = .pipe ∧ before.Reads [bar] between) ∧
        operand between = .accept pattern after := by
  simp only [nextAlternative, bind_eq_accept_iff, accept_eq_accept_iff,
    alternativeAfter_eq_accept_iff]

theorem nextAlternative_eq_decline_iff :
    nextAlternative operand before = .decline ↔ roleOf before.rest ≠ .bar := by
  rw [nextAlternative, bind_eq_decline_iff_of_commits fun bar => commits_alternativeAfter bar,
    accept_eq_decline_iff, roleOf_ne_iff (by decide)]
  simp only [ne_eq, Lexeme.role_eq_bar_iff]

theorem nextAlternative_progresses (progresses : operand.Progresses) :
    (nextAlternative operand).Progresses := by
  intro cursor value after accepted
  obtain ⟨bar, between, ⟨-, reads⟩, accepted⟩ := nextAlternative_eq_accept_iff.mp accepted
  have shorter := progresses _ _ _ accepted
  have total := reads.length_eq
  omega

theorem alternatives_eq : alternatives operand = do
    let start ← here
    let bar ← optional (accept .pipe)
    let first ← firstOperand (alternativeAfter · operand) operand bar
    let more ← many (nextAlternative operand)
    return .alternationOf start first more := by
  unfold alternatives
  congr
  funext start
  congr
  funext bar
  cases bar
  all_goals
    dsimp only [firstOperand]
    congr
    funext first
    congr
    funext more
    cases more <;> rfl

theorem alternatives_eq_accept_iff (progresses : operand.Progresses) :
    alternatives operand before = .accept pattern after ↔
      ∃ bar between first middle more, (optional (accept .pipe)) before = .accept bar between ∧
        operand between = .accept first middle ∧
        Repeats (nextAlternative operand) middle more after ∧
        pattern = .alternationOf before.span first more := by
  rw [alternatives_eq]
  simp only [here_bind_apply, bind_eq_accept_iff, pure_eq_accept_iff,
    many_eq_accept_iff (nextAlternative_progresses progresses)]
  constructor
  · rintro ⟨bar, between, found, first, middle, accepted, more, _, repeats, rfl, rfl⟩
    refine ⟨bar, between, first, middle, more, found, ?_, repeats, rfl⟩
    cases bar with
    | none => exact accepted
    | some bar => exact alternativeAfter_eq_accept_iff.mp accepted
  · rintro ⟨bar, between, first, middle, more, found, accepted, repeats, rfl⟩
    refine ⟨bar, between, found, first, middle, ?_, more, after, repeats, rfl, rfl⟩
    cases bar with
    | none => exact accepted
    | some bar => exact alternativeAfter_eq_accept_iff.mpr accepted

theorem alternatives_eq_decline_iff (progresses : operand.Progresses) :
    alternatives operand before = .decline ↔
      roleOf before.rest ≠ .bar ∧ operand before = .decline := by
  have commits (first : Pattern) : Commits (do
      let more ← many (nextAlternative operand)
      return Pattern.alternationOf before.span first more) :=
    (commits_many (nextAlternative_progresses progresses)).bind fun _ => commits_pure _
  rw [alternatives_eq, here_bind_apply, bind_eq_decline_iff]
  simp only [bind_eq_decline_iff_of_commits commits, optional_ne_decline, false_or]
  constructor
  · rintro ⟨bar, between, found, declined⟩
    cases bar with
    | none =>
      obtain ⟨noBar, rfl⟩ := optional_eq_accept_none_iff.mp found
      refine ⟨?_, declined⟩
      rw [accept_eq_decline_iff] at noBar
      simpa only [roleOf_ne_iff (by decide : Role.bar ≠ .other), ne_eq, Lexeme.role_eq_bar_iff]
    | some bar => exact absurd declined (commits_alternativeAfter bar _)
  · rintro ⟨noBar, declined⟩
    refine ⟨none, before, ?_, declined⟩
    rw [roleOf_ne_iff (by decide)] at noBar
    simpa only [optional_eq_accept_none_iff, accept_eq_decline_iff, and_true, ne_eq,
      Lexeme.role_eq_bar_iff] using noBar

theorem commits_alternation : (alternation operand).Commits :=
  (commits_pure _).orElse

/-! ## Intersected operands -/

/-- Read one more operand with the ampersand before it. -/
def nextOperand (operand : Parser Pattern) : Parser Pattern :=
  accept .ampersand *> operandOf operand

@[simp]
theorem operandOf_eq_accept_iff :
    operandOf operand before = .accept pattern after ↔ operand before = .accept pattern after :=
  orFail_eq_accept_iff

theorem commits_operandOf : (operandOf operand).Commits :=
  commits_orFail _ _

theorem nextOperand_eq_accept_iff :
    nextOperand operand before = .accept pattern after ↔
      ∃ ampersand between, (ampersand.kind = .ampersand ∧ before.Reads [ampersand] between) ∧
        operand between = .accept pattern after := by
  simp only [nextOperand, seqRight_eq_accept_iff, accept_eq_accept_iff, operandOf_eq_accept_iff]

theorem nextOperand_eq_decline_iff :
    nextOperand operand before = .decline ↔ roleOf before.rest ≠ .ampersand := by
  have unfolded : nextOperand operand = accept .ampersand >>= fun _ => operandOf operand := rfl
  rw [unfolded, bind_eq_decline_iff_of_commits fun _ => commits_operandOf, accept_eq_decline_iff,
    roleOf_ne_iff (by decide)]
  simp only [ne_eq, Lexeme.role_eq_ampersand_iff]

theorem nextOperand_progresses (progresses : operand.Progresses) :
    (nextOperand operand).Progresses := by
  intro cursor value after accepted
  obtain ⟨ampersand, between, ⟨-, reads⟩, accepted⟩ := nextOperand_eq_accept_iff.mp accepted
  have shorter := progresses _ _ _ accepted
  have total := reads.length_eq
  omega

theorem intersection_eq : intersection operand = do
    let start ← here
    let ampersand ← optional (accept .ampersand)
    let first ← firstOperand (fun _ => operandOf operand) operand ampersand
    let more ← many (nextOperand operand)
    let stop ← previous
    return .intersectionOf (start.join stop) first more := by
  unfold intersection
  congr
  funext start
  congr
  funext ampersand
  cases ampersand
  all_goals
    dsimp only [firstOperand]
    congr
    funext first
    congr
    funext more
    cases more <;> rfl

theorem intersection_eq_accept_iff (progresses : operand.Progresses) :
    intersection operand before = .accept pattern after ↔
      ∃ ampersand between first middle more,
        (optional (accept .ampersand)) before = .accept ampersand between ∧
        operand between = .accept first middle ∧
        Repeats (nextOperand operand) middle more after ∧
        pattern = .intersectionOf (before.span.join after.previous) first more := by
  rw [intersection_eq]
  simp only [here_bind_apply, previous_bind_apply, bind_eq_accept_iff, pure_eq_accept_iff,
    many_eq_accept_iff (nextOperand_progresses progresses)]
  constructor
  · rintro ⟨ampersand, between, found, first, middle, accepted, more, _, repeats, rfl, rfl⟩
    refine ⟨ampersand, between, first, middle, more, found, ?_, repeats, rfl⟩
    cases ampersand with
    | none => exact accepted
    | some _ => exact operandOf_eq_accept_iff.mp accepted
  · rintro ⟨ampersand, between, first, middle, more, found, accepted, repeats, rfl⟩
    refine ⟨ampersand, between, found, first, middle, ?_, more, after, repeats, rfl, rfl⟩
    cases ampersand with
    | none => exact accepted
    | some _ => exact operandOf_eq_accept_iff.mpr accepted

theorem intersection_eq_decline_iff (progresses : operand.Progresses) :
    intersection operand before = .decline ↔
      roleOf before.rest ≠ .ampersand ∧ operand before = .decline := by
  have commits (first : Pattern) : Commits (do
      let more ← many (nextOperand operand)
      let stop ← previous
      return Pattern.intersectionOf (before.span.join stop) first more) :=
    (commits_many (nextOperand_progresses progresses)).bind fun _ =>
      commits_previous.bind fun _ => commits_pure _
  rw [intersection_eq, here_bind_apply, bind_eq_decline_iff]
  simp only [bind_eq_decline_iff_of_commits commits, optional_ne_decline, false_or]
  constructor
  · rintro ⟨ampersand, between, found, declined⟩
    cases ampersand with
    | none =>
      obtain ⟨noAmpersand, rfl⟩ := optional_eq_accept_none_iff.mp found
      refine ⟨?_, declined⟩
      rw [accept_eq_decline_iff] at noAmpersand
      simpa only [roleOf_ne_iff (by decide : Role.ampersand ≠ .other), ne_eq,
        Lexeme.role_eq_ampersand_iff]
    | some _ => exact absurd declined (commits_operandOf _)
  · rintro ⟨noAmpersand, declined⟩
    refine ⟨none, before, ?_, declined⟩
    rw [roleOf_ne_iff (by decide)] at noAmpersand
    simpa only [optional_eq_accept_none_iff, accept_eq_decline_iff, and_true, ne_eq,
      Lexeme.role_eq_ampersand_iff] using noAmpersand

/-! ## Terms side by side -/

theorem sequence_eq : sequence operand = do
    let first ← operand
    let more ← many operand
    return .sequenceOf first more := by
  unfold sequence
  congr
  funext first
  congr
  funext more
  unfold Pattern.sequenceOf
  cases more.getLast? <;> rfl

theorem sequence_eq_accept_iff (progresses : operand.Progresses) :
    sequence operand before = .accept pattern after ↔
      ∃ first middle more, operand before = .accept first middle ∧
        Repeats operand middle more after ∧ pattern = .sequenceOf first more := by
  rw [sequence_eq]
  simp only [bind_eq_accept_iff, pure_eq_accept_iff, many_eq_accept_iff progresses]
  constructor
  · rintro ⟨first, middle, accepted, more, _, repeats, rfl, rfl⟩
    exact ⟨first, middle, more, accepted, repeats, rfl⟩
  · rintro ⟨first, middle, more, accepted, repeats, rfl⟩
    exact ⟨first, middle, accepted, more, after, repeats, rfl, rfl⟩

theorem sequence_eq_decline_iff (progresses : operand.Progresses) :
    sequence operand before = .decline ↔ operand before = .decline := by
  rw [sequence_eq, bind_eq_decline_iff_of_commits]
  exact fun _ => (commits_many progresses).bind fun _ => commits_pure _

/-! ## Lookarounds and groups -/

theorem lookaround_eq_accept_iff :
    lookaround operand before = .accept pattern after ↔
      ∃ operator kind between body, lookaroundOf? operator.kind = some kind ∧
        before.Reads [operator] between ∧ operand between = .accept body after ∧
        pattern = .lookaround kind body (operator.span.join body.span) := by
  simp only [lookaround, bind_eq_accept_iff, acceptMap_eq_accept_iff, pure_eq_accept_iff,
    Prod.exists]
  constructor
  · rintro ⟨kind, span, between, ⟨operator, found, reads⟩, body, _, accepted, rfl, rfl⟩
    refine ⟨operator, kind, between, body, ?_, reads, accepted, ?_⟩
    all_goals
      repeat' split at found
      all_goals simp_all [lookaroundOf?]
  · rintro ⟨operator, kind, between, body, found, reads, accepted, rfl⟩
    refine ⟨kind, operator.span, between, ⟨operator, ?_, reads⟩, body, after, accepted, rfl, rfl⟩
    unfold lookaroundOf? at found
    split at found
    all_goals simp_all

theorem lookaround_eq_decline_iff (commits : operand.Commits) :
    lookaround operand before = .decline ↔
      ∀ lexeme ∈ before.rest.head?, lookaroundOf? lexeme.kind = none := by
  rw [lookaround, bind_eq_decline_iff_of_commits fun _ => commits.bind fun _ => commits_pure _,
    acceptMap_eq_decline_iff]
  cases before.rest with
  | nil => simp
  | cons lexeme rest =>
    rcases lexeme with ⟨kind, text, span⟩
    cases kind <;> simp [lookaroundOf?]

theorem group_eq_accept_iff :
    group operand before = .accept pattern after ↔
      ∃ kind opening between body middle closing, (SpellsOpening kind opening ∧
        before.Reads opening between) ∧ operand between = .accept body middle ∧
        (closing.kind = .closeParen ∧ middle.Reads [closing] after) ∧
        pattern = .group kind body (before.span.join closing.span) := by
  simp only [group, bind_eq_accept_iff, orFail_eq_accept_iff, accept_eq_accept_iff,
    pure_eq_accept_iff, Prod.exists]
  constructor
  · rintro ⟨kind, start, between, opened, body, middle, accepted, closing, _, closed, rfl, rfl⟩
    obtain ⟨opening, spells, reads, rfl⟩ := spellsOpening_of_groupOpening opened
    exact ⟨kind, opening, between, body, middle, closing, ⟨spells, reads⟩, accepted, closed, rfl⟩
  · rintro ⟨kind, opening, between, body, middle, closing, ⟨spells, reads⟩, accepted, closed, rfl⟩
    exact ⟨kind, before.span, between, groupOpening_of_spellsOpening spells reads, body, middle,
      accepted, closing, after, closed, rfl, rfl⟩

/-! ## Exclamation marks -/

theorem commits_bangs (levels : Nat) (start : Span) : (bangs levels start).Commits := by
  cases levels
  all_goals
    rw [bangs]
    exact (commits_pure _).orElse

theorem bangs_eq_accept_iff {levels count : Nat} {start span : Span} :
    bangs levels start before = .accept (count, span) after ↔
      ∃ marks, (∀ bang ∈ marks, bang.kind = .bang) ∧ before.Reads marks after ∧
        count = marks.length ∧ span = marks.foldl (fun span bang => span.join bang.span) start ∧
        count ≤ levels ∧ ∀ lexeme ∈ after.rest.head?, lexeme.kind ≠ .bang := by
  induction levels generalizing before count start with
  | zero =>
    simp only [bangs, orElse_eq_accept_iff, bind_eq_accept_iff, fail_ne_accept, and_false,
      exists_false, false_or, bind_eq_decline_iff_of_commits fun _ => commits_fail _,
      accept_eq_decline_iff, pure_eq_accept_iff, Prod.mk.injEq]
    constructor
    · rintro ⟨noBang, ⟨rfl, rfl⟩, rfl⟩
      exact ⟨[], List.forall_mem_nil _, Cursor.reads_nil_iff.mpr rfl, rfl, rfl, Nat.le_refl 0, noBang⟩
    · rintro ⟨marks, -, reads, rfl, rfl, fits, noBang⟩
      obtain rfl := List.length_eq_zero_iff.mp (Nat.le_zero.mp fits)
      obtain rfl := Cursor.reads_nil_iff.mp reads
      exact ⟨noBang, ⟨rfl, rfl⟩, rfl⟩
  | succ levels inductionHypothesis =>
    rw [bangs, orElse_eq_accept_iff]
    constructor
    · rintro (accepted | ⟨declined, accepted⟩)
      · simp only [bind_eq_accept_iff, accept_eq_accept_iff, pure_eq_accept_iff, Prod.exists,
          Prod.mk.injEq] at accepted
        obtain ⟨bang, between, ⟨isBang, readsBang⟩, count, _, _, accepted, ⟨rfl, rfl⟩, rfl⟩ :=
          accepted
        obtain ⟨marks, areBangs, reads, rfl, rfl, fits, noBang⟩ :=
          inductionHypothesis.mp accepted
        exact ⟨bang :: marks, List.forall_mem_cons.mpr ⟨isBang, areBangs⟩, readsBang.trans reads,
          rfl, rfl, Nat.succ_le_succ fits, noBang⟩
      · rw [pure_eq_accept_iff, Prod.mk.injEq] at accepted
        obtain ⟨⟨rfl, rfl⟩, rfl⟩ := accepted
        rcases bind_eq_decline_iff.mp declined with noBang | ⟨bang, between, -, declined⟩
        · rw [accept_eq_decline_iff] at noBang
          exact ⟨[], List.forall_mem_nil _, Cursor.reads_nil_iff.mpr rfl, rfl, rfl, Nat.zero_le _, noBang⟩
        · exact absurd declined (((commits_bangs _ _).bind fun _ => commits_pure _) between)
    · rintro ⟨marks, areBangs, reads, rfl, rfl, fits, noBang⟩
      cases marks with
      | nil =>
        obtain rfl := Cursor.reads_nil_iff.mp reads
        exact .inr ⟨bind_eq_decline (accept_eq_decline_iff.mpr noBang), rfl⟩
      | cons bang marks =>
        obtain ⟨isBang, areBangs⟩ := List.forall_mem_cons.mp areBangs
        obtain ⟨between, readsBang, reads⟩ := Cursor.reads_cons_iff.mp reads
        have accepted := inductionHypothesis.mpr ⟨marks, areBangs, reads, rfl, rfl,
          Nat.le_of_succ_le_succ fits, noBang⟩
        exact .inl (bind_eq_accept_iff.mpr ⟨bang, between, accept_eq_accept_iff.mpr
          ⟨isBang, readsBang⟩, bind_eq_accept_iff.mpr ⟨_, after, accepted, rfl⟩⟩)

/-! ## Terms -/

variable {levels : Nat} {modes : Modes}

/-- Read alternatives, which may be left out, with the given modes throughout. -/
def bare (levels : Nat) (modes : Modes) : Parser Pattern :=
  alternation (intersection (sequence (term levels modes)))

/-- Read what exclamation marks and a repetition can be put to. -/
def lookaroundOrAtom (levels : Nat) (modes : Modes) : Parser Pattern :=
  lookaround (expression levels modes) <|> atom modes.unicode (expression levels modes)

/-- Read exclamation marks and what they are put to. -/
def negation (levels : Nat) (modes : Modes) : Parser Pattern := do
  let start ← here
  let (count, notSpan) ← bangs levels start
  let operand := lookaroundOrAtom (levels - count) modes
  let body ← if count = 0 then operand else operandOf operand
  return negate notSpan count body

theorem term_eq : term levels modes = negation levels modes >>= repeated modes.lazy := by
  rw [term, negation]
  simp only [bind_assoc]
  congr
  funext start
  congr
  funext counted
  by_cases none : counted.1 = 0
  all_goals
    simp only [none, if_true, if_false, bind_assoc, pure_bind]
    rfl

theorem scope_eq_accept_iff {span : Span} :
    scope levels modes before = .accept (pattern, span) after ↔
      (statement (bare levels modes) before = .decline ∧
        bare levels modes before = .accept pattern after ∧ span = pattern.span) ∨
      ∃ content statementSpan between fewer body,
        statement (bare levels modes) before = .accept (content, statementSpan) between ∧
        levels = fewer + 1 ∧
        scope fewer (content.modes modes) between = .accept (body, span) after ∧
        pattern = content.scope body (statementSpan.join span) := by
  rw [scope, bind_eq_accept_iff]
  constructor
  · rintro ⟨found, between, read, accepted⟩
    cases found with
    | none =>
      obtain ⟨declined, rfl⟩ := optional_eq_accept_none_iff.mp read
      simp only [bind_eq_accept_iff, pure_eq_accept_iff, Prod.mk.injEq] at accepted
      obtain ⟨_, _, accepted, ⟨rfl, rfl⟩, rfl⟩ := accepted
      exact .inl ⟨declined, accepted, rfl⟩
    | some found =>
      obtain ⟨content, statementSpan⟩ := found
      cases levels with
      | zero => exact absurd accepted fail_ne_accept
      | succ fewer =>
        simp only [bind_eq_accept_iff, pure_eq_accept_iff, Prod.exists, Prod.mk.injEq] at accepted
        obtain ⟨body, _, _, accepted, ⟨rfl, rfl⟩, rfl⟩ := accepted
        exact .inr ⟨content, statementSpan, between, fewer, body,
          optional_eq_accept_some_iff.mp read, rfl, accepted, rfl⟩
  · rintro (⟨declined, accepted, rfl⟩ |
      ⟨content, statementSpan, between, fewer, body, read, rfl, accepted, rfl⟩)
    · exact ⟨none, before, optional_eq_accept_none_iff.mpr ⟨declined, rfl⟩,
        bind_eq_accept_iff.mpr ⟨pattern, after, accepted, rfl⟩⟩
    · exact ⟨some (content, statementSpan), between, optional_eq_accept_some_iff.mpr read,
        bind_eq_accept_iff.mpr ⟨(body, span), after, accepted, rfl⟩⟩

theorem commits_scope (levels : Nat) (modes : Modes) : (scope levels modes).Commits := by
  induction levels generalizing modes with
  | zero =>
    rw [scope]
    refine (commits_optional _).bind fun found => ?_
    cases found with
    | none => exact commits_alternation.bind fun _ => commits_pure _
    | some _ => exact commits_fail _
  | succ levels inductionHypothesis =>
    rw [scope]
    refine (commits_optional _).bind fun found => ?_
    cases found with
    | none => exact commits_alternation.bind fun _ => commits_pure _
    | some _ => exact (inductionHypothesis _).bind fun _ => commits_pure _

theorem expression_eq_accept_iff :
    expression levels modes before = .accept pattern after ↔
      ∃ fewer span, levels = fewer + 1 ∧
        scope fewer modes before = .accept (pattern, span) after := by
  cases levels with
  | zero => simp [expression]
  | succ levels =>
    rw [expression]
    simp only [bind_eq_accept_iff, pure_eq_accept_iff, Prod.exists]
    constructor
    · rintro ⟨_, span, _, accepted, rfl, rfl⟩
      exact ⟨levels, span, rfl, accepted⟩
    · rintro ⟨_, span, same, accepted⟩
      obtain rfl := Nat.succ.inj same
      exact ⟨pattern, span, after, accepted, rfl, rfl⟩

theorem commits_expression (levels : Nat) (modes : Modes) : (expression levels modes).Commits := by
  cases levels with
  | zero =>
    rw [expression]
    exact commits_failHere _
  | succ levels =>
    rw [expression]
    exact (commits_scope _ _).bind fun _ => commits_pure _

theorem lookaroundOrAtom_eq_decline_iff :
    lookaroundOrAtom levels modes before = .decline ↔
      ∀ lexeme ∈ before.rest.head?, lexeme.role = .term → lexeme.kind = .bang := by
  rw [lookaroundOrAtom, orElse_eq_decline_iff, lookaround_eq_decline_iff (commits_expression _ _),
    atom_eq_decline_iff (commits_expression _ _)]
  cases before.rest with
  | nil => simp
  | cons lexeme rest =>
    rcases lexeme with ⟨kind, text, span⟩
    cases kind <;> simp [lookaroundOf?, Lexeme.role]

theorem negate_of_reads {marks : List Lexeme} (reads : before.Reads marks after)
    (body : Pattern) :
    negate (marks.foldl (fun span bang => span.join bang.span) before.span) marks.length body =
      negate (marks.foldl (fun span bang => span.join bang.span) .absent) marks.length body := by
  cases marks with
  | nil => rfl
  | cons bang marks =>
    rw [reads.span_eq, List.foldl_cons, List.foldl_cons, Span.join_self, Span.absent_join]

theorem negation_eq_accept_iff :
    negation levels modes before = .accept pattern after ↔
      ∃ marks between body, (∀ bang ∈ marks, bang.kind = .bang) ∧ before.Reads marks between ∧
        marks.length ≤ levels ∧
        lookaroundOrAtom (levels - marks.length) modes between = .accept body after ∧
        pattern = negate (marks.foldl (fun span bang => span.join bang.span) .absent)
          marks.length body := by
  simp only [negation, here_bind_apply, bind_eq_accept_iff, Prod.exists, bangs_eq_accept_iff]
  constructor
  · rintro ⟨count, span, between, ⟨marks, areBangs, reads, rfl, rfl, fits, -⟩, negated⟩
    have operandAccepts : ∃ body, lookaroundOrAtom (levels - marks.length) modes between =
        .accept body after ∧ negate (marks.foldl (fun span bang => span.join bang.span) before.span)
          marks.length body = pattern := by
      split at negated
      all_goals
        simp only [bind_eq_accept_iff, operandOf_eq_accept_iff, pure_eq_accept_iff] at negated
        obtain ⟨body, _, accepted, same, rfl⟩ := negated
        exact ⟨body, accepted, same⟩
    obtain ⟨body, accepted, rfl⟩ := operandAccepts
    exact ⟨marks, between, body, areBangs, reads, fits, accepted, negate_of_reads reads body⟩
  · rintro ⟨marks, between, body, areBangs, reads, fits, accepted, rfl⟩
    have noBang : ∀ lexeme ∈ between.rest.head?, lexeme.kind ≠ .bang := by
      intro lexeme member isBang
      have declined : lookaroundOrAtom (levels - marks.length) modes between = .decline := by
        refine lookaroundOrAtom_eq_decline_iff.mpr fun other member' _ => ?_
        rwa [Option.mem_unique member' member]
      rw [declined] at accepted
      cases accepted
    refine ⟨_, _, between, ⟨marks, areBangs, reads, rfl, rfl, fits, noBang⟩, ?_⟩
    split
    all_goals
      simp only [bind_eq_accept_iff, operandOf_eq_accept_iff, pure_eq_accept_iff]
      exact ⟨body, after, accepted, negate_of_reads reads body, rfl⟩

theorem negation_eq_decline_iff :
    negation levels modes before = .decline ↔ roleOf before.rest ≠ .term := by
  rw [negation, here_bind_apply, bind_eq_decline_iff, roleOf_ne_iff (by decide)]
  constructor
  · rintro (declined | ⟨⟨count, span⟩, between, counted, declined⟩)
    · exact absurd declined (commits_bangs _ _ _)
    · obtain ⟨marks, areBangs, reads, rfl, rfl, fits, noBang⟩ := bangs_eq_accept_iff.mp counted
      dsimp only at declined
      split at declined
      · rename_i none
        obtain rfl := List.length_eq_zero_iff.mp none
        obtain rfl := Cursor.reads_nil_iff.mp reads
        rw [bind_eq_decline_iff_of_commits fun _ => commits_pure _,
          lookaroundOrAtom_eq_decline_iff] at declined
        exact fun lexeme member isTerm => noBang lexeme member (declined lexeme member isTerm)
      · exact absurd declined (commits_operandOf.bind (fun _ => commits_pure _) _)
  · intro noTerm
    have noBang : ∀ lexeme ∈ before.rest.head?, lexeme.kind ≠ .bang := by
      intro lexeme member isBang
      exact noTerm lexeme member (by simp [Lexeme.role, isBang])
    refine .inr ⟨(0, before.span), before, bangs_eq_accept_iff.mpr ⟨[],
      List.forall_mem_nil _, Cursor.reads_nil_iff.mpr rfl, rfl, rfl, Nat.zero_le _, noBang⟩, bind_eq_decline ?_⟩
    exact lookaroundOrAtom_eq_decline_iff.mpr fun lexeme member isTerm =>
      absurd isTerm (noTerm lexeme member)

theorem term_eq_decline_iff :
    term levels modes before = .decline ↔ roleOf before.rest ≠ .term := by
  have commits (body : Pattern) : (repeated modes.lazy body).Commits := by
    refine (commits_optional _).bind fun found => ?_
    cases found <;> exact commits_pure _
  rw [term_eq, bind_eq_decline_iff_of_commits commits, negation_eq_decline_iff]

/-! ## Repetitions -/

variable {lazyMode : Bool} {body : Pattern}

theorem spells_of_repeated (accepted : repeated lazyMode body before = .accept pattern after) :
    roleOf after.rest ≠ .repetition ∧
      ((roleOf before.rest ≠ .repetition ∧ after = before ∧ pattern = body) ∨
        ∃ bounds preference first second, SpellsBounds bounds first ∧
          SpellsPreference lazyMode preference second ∧ before.Reads (first ++ second) after ∧
          pattern = .repetition body bounds preference
            (body.span.join (before.span.join after.previous))) := by
  obtain ⟨found, between, read, accepted⟩ := bind_eq_accept_iff.mp accepted
  cases found with
  | none =>
    obtain ⟨declined, rfl⟩ := optional_eq_accept_none_iff.mp read
    rw [repetition_eq_decline_iff] at declined
    obtain ⟨rfl, rfl⟩ := pure_eq_accept_iff.mp accepted
    exact ⟨declined, .inl ⟨declined, rfl, rfl⟩⟩
  | some found =>
    obtain ⟨bounds, preference, span⟩ := found
    obtain ⟨first, second, spellsBounds, spellsPreference, reads, rfl, once⟩ :=
      spells_of_repetition (optional_eq_accept_some_iff.mp read)
    obtain ⟨rfl, rfl⟩ := pure_eq_accept_iff.mp accepted
    exact ⟨once, .inr ⟨bounds, preference, first, second, spellsBounds, spellsPreference, reads, rfl⟩⟩

theorem repeated_eq_accept {bounds : Bounds} {preference : Quantifier} {first second : List Lexeme}
    (spellsBounds : SpellsBounds bounds first)
    (spellsPreference : SpellsPreference lazyMode preference second)
    (reads : before.Reads (first ++ second) after)
    (complete : roleOf after.rest ≠ .modifier ∧ roleOf after.rest ≠ .repetition) :
    repeated lazyMode body before = .accept (.repetition body bounds preference
      (body.span.join (before.span.join after.previous))) after :=
  bind_eq_accept_iff.mpr ⟨_, after, optional_eq_accept_some_iff.mpr
    (repetition_eq_accept spellsBounds spellsPreference reads complete), rfl⟩

theorem repeated_eq_accept_of_ne (none : roleOf before.rest ≠ .repetition) :
    repeated lazyMode body before = .accept body before :=
  bind_eq_accept_iff.mpr ⟨_, before, optional_eq_accept_none_iff.mpr
    ⟨repetition_eq_decline_iff.mpr none, rfl⟩, rfl⟩

end PatternSyntax.Grammar
