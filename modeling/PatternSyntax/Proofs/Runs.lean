import PatternSyntax.Proofs.Scopes

/-!
# Runs

A run reaches from the beginning of one lexeme to the end of the same or a later one.
Joined runs are runs again, and so every span of a phrase is a run of its lexemes, apart
from that of an expression that was left out. Where runs stand is seen from the lexemes
that they belong to: the runs of one part of a text precede those of what follows it.
-/

namespace PatternSyntax

namespace Span

/-- The span ends no later than the other one begins. -/
def Precedes (first second : Span) : Prop :=
  first.stop ≤ second.start

instance (first second : Span) : Decidable (first.Precedes second) :=
  inferInstanceAs (Decidable (_ ≤ _))

/-- The span holds something, and it reaches from the beginning of one of the lexemes to
the end of one of them. -/
structure IsRunOf (lexemes : List Lexeme) (span : Span) : Prop where
  begins : ∃ first ∈ lexemes, span.start = first.span.start
  ends : ∃ last ∈ lexemes, span.stop = last.span.stop
  nonempty : span.start < span.stop

variable {lexemes : List Lexeme} {first second : Span}

theorem Contains.trans {outer middle inner : Span} (outside : outer.Contains middle)
    (inside : middle.Contains inner) : outer.Contains inner :=
  ⟨UInt32.le_trans outside.1 inside.1, UInt32.le_trans inside.2 outside.2⟩

theorem contains_self (span : Span) : span.Contains span :=
  ⟨UInt32.le_refl _, UInt32.le_refl _⟩

theorem join_contains_left (firstPresent : first.isAbsent = false) :
    (first.join second).Contains first := by
  cases secondAbsent : second.isAbsent with
  | true =>
    rw [join_of_isAbsent_right secondAbsent firstPresent]
    exact first.contains_self
  | false =>
    simp only [join, firstPresent, secondAbsent, Bool.false_eq_true, if_false]
    constructor
    · change (if first.start ≤ second.start then first.start else second.start) ≤ first.start
      split
      · exact UInt32.le_refl _
      · exact UInt32.le_of_lt (UInt32.not_le.mp ‹_›)
    · change first.stop ≤ if first.stop ≤ second.stop then second.stop else first.stop
      split
      · assumption
      · exact UInt32.le_refl _

theorem IsRunOf.mono {others : List Lexeme} (run : first.IsRunOf lexemes)
    (within : ∀ lexeme ∈ lexemes, lexeme ∈ others) : first.IsRunOf others := by
  obtain ⟨⟨start, isStart, start_eq⟩, ⟨stop, isStop, stop_eq⟩, nonempty⟩ := run
  exact ⟨⟨start, within start isStart, start_eq⟩, ⟨stop, within stop isStop, stop_eq⟩, nonempty⟩

theorem IsRunOf.append_left (run : first.IsRunOf lexemes) (before : List Lexeme) :
    first.IsRunOf (before ++ lexemes) :=
  run.mono fun _ => List.mem_append_right before

theorem IsRunOf.append_right (run : first.IsRunOf lexemes) (after : List Lexeme) :
    first.IsRunOf (lexemes ++ after) :=
  run.mono fun _ => List.mem_append_left after

theorem IsRunOf.present (run : first.IsRunOf lexemes) : first.isAbsent = false := by
  have positive := run.nonempty
  refine beq_eq_false_iff_ne.mpr fun zero => ?_
  rw [zero] at positive
  exact UInt32.not_lt_zero positive

theorem IsRunOf.join (firstRun : first.IsRunOf lexemes) (secondRun : second.IsRunOf lexemes) :
    (first.join second).IsRunOf lexemes := by
  have outside : (first.join second).Contains first := join_contains_left firstRun.present
  refine ⟨?_, ?_, UInt32.lt_of_le_of_lt outside.1 (UInt32.lt_of_lt_of_le firstRun.nonempty outside.2)⟩
  all_goals
    simp only [Span.join, firstRun.present, secondRun.present, Bool.false_eq_true, if_false]
  · change ∃ lexeme ∈ lexemes, (if first.start ≤ second.start then first.start else second.start) =
      lexeme.span.start
    split
    · exact firstRun.begins
    · exact secondRun.begins
  · change ∃ lexeme ∈ lexemes, (if first.stop ≤ second.stop then second.stop else first.stop) =
      lexeme.span.stop
    split
    · exact secondRun.ends
    · exact firstRun.ends

theorem isJoinClosed_isRunOf (lexemes : List Lexeme) :
    IsJoinClosed fun span => span = .absent ∨ span.IsRunOf lexemes := by
  refine ⟨.inl rfl, ?_⟩
  rintro first second (rfl | firstRun) secondRun
  · exact secondRun
  · rcases secondRun with rfl | secondRun
    · rw [join_of_isAbsent_right rfl firstRun.present]
      exact .inr firstRun
    · exact .inr (firstRun.join secondRun)

theorem IsRunOf.foldl {α : Type} {spanOf : α → Span} {members : List α}
    (run : first.IsRunOf lexemes) (runs : ∀ member ∈ members, (spanOf member).IsRunOf lexemes) :
    (members.foldl (fun span member => span.join (spanOf member)) first).IsRunOf lexemes := by
  induction members generalizing first with
  | nil => exact run
  | cons member members inductionHypothesis =>
    obtain ⟨memberRun, runs⟩ := List.forall_mem_cons.mp runs
    exact inductionHypothesis (run.join memberRun) runs

/-- A running join contains what it starts with and everything that is joined. -/
theorem foldl_join_contains {α : Type} {spanOf : α → Span} {members : List α} {outer : Span}
    (outerPresent : outer.isAbsent = false)
    (present : ∀ member ∈ members, (spanOf member).isAbsent = false) :
    (members.foldl (fun span member => span.join (spanOf member)) outer).Contains outer ∧
      ∀ member ∈ members,
        (members.foldl (fun span member => span.join (spanOf member)) outer).Contains
          (spanOf member) := by
  induction members generalizing outer with
  | nil => exact ⟨outer.contains_self, List.forall_mem_nil _⟩
  | cons member members inductionHypothesis =>
    obtain ⟨memberPresent, present⟩ := List.forall_mem_cons.mp present
    have joinPresent : (outer.join (spanOf member)).isAbsent = false := by
      rw [join_isAbsent, outerPresent, Bool.false_and]
    obtain ⟨joined, later⟩ := inductionHypothesis joinPresent present
    rw [List.foldl_cons]
    constructor
    · exact joined.trans (join_contains_left outerPresent)
    · exact List.forall_mem_cons.mpr ⟨joined.trans (join_contains_right memberPresent), later⟩

end Span

open Grammar

variable {modes : Modes} {lexemes before after : List Lexeme}

/-! ## Runs of ordered lexemes -/

theorem IsOrdered.of_infix {part : List Lexeme} (ordered : IsOrdered lexemes)
    (inside : part <:+: lexemes) : IsOrdered part := by
  obtain ⟨before, after, rfl⟩ := inside
  exact ordered.of_append_left.of_append_right

theorem IsOrdered.isRunOf (ordered : IsOrdered lexemes) {lexeme : Lexeme}
    (member : lexeme ∈ lexemes) : lexeme.span.IsRunOf lexemes :=
  ⟨⟨lexeme, member, rfl⟩, ⟨lexeme, member, rfl⟩, ordered.nonempty lexeme member⟩

theorem IsOrdered.firstSpan_isRunOf (ordered : IsOrdered lexemes) (nonempty : lexemes ≠ []) :
    (firstSpan lexemes).IsRunOf lexemes := by
  cases lexemes with
  | nil => exact absurd rfl nonempty
  | cons lexeme lexemes => exact ordered.isRunOf List.mem_cons_self

theorem IsOrdered.firstSpan_start_le (ordered : IsOrdered lexemes) {span : Span}
    (run : span.IsRunOf lexemes) : (firstSpan lexemes).start ≤ span.start := by
  obtain ⟨⟨lexeme, member, start_eq⟩, -, -⟩ := run
  rw [start_eq]
  cases lexemes with
  | nil => cases member
  | cons first lexemes =>
    rcases List.mem_cons.mp member with rfl | isLater
    · exact UInt32.le_refl _
    · have nonempty := ordered.nonempty first List.mem_cons_self
      have apart := (List.pairwise_cons.mp ordered.apart).1 lexeme isLater
      exact UInt32.le_trans (UInt32.le_of_lt nonempty) apart

theorem IsOrdered.cover_isRunOf (ordered : IsOrdered lexemes) (nonempty : lexemes ≠ []) :
    (cover lexemes).IsRunOf lexemes := by
  have last := ordered.isRunOf (List.getLast_mem nonempty)
  rw [← lastSpan_eq_getLast nonempty .absent] at last
  exact (ordered.firstSpan_isRunOf nonempty).join last

theorem IsOrdered.cover_contains (ordered : IsOrdered lexemes) {span : Span}
    (run : span.IsRunOf lexemes) : (cover lexemes).Contains span := by
  obtain ⟨⟨first, isFirst, start_eq⟩, ⟨last, isLast, stop_eq⟩, -⟩ := run
  rw [Span.Contains, start_eq, stop_eq]
  exact ⟨(ordered.cover_liesIn first isFirst).starts, (ordered.cover_liesIn last isLast).stops⟩

theorem IsOrdered.precedes (ordered : IsOrdered (before ++ after)) {first second : Span}
    (firstRun : first.IsRunOf before) (secondRun : second.IsRunOf after) :
    first.Precedes second := by
  obtain ⟨-, -, apart⟩ := isOrdered_append_iff.mp ordered
  obtain ⟨last, isLast, stop_eq⟩ := firstRun.ends
  obtain ⟨next, isNext, start_eq⟩ := secondRun.begins
  rw [Span.Precedes, stop_eq, start_eq]
  exact apart last isLast next isNext

/-! ## Rows of runs -/

namespace Span

/-- Runs of the lexemes that stand one after the other. -/
structure AreAligned (lexemes : List Lexeme) (spans : List Span) : Prop where
  runs : ∀ span ∈ spans, span.IsRunOf lexemes
  apart : spans.Pairwise Precedes

namespace AreAligned

variable {spans : List Span} {first span : Span}

theorem nil : AreAligned lexemes [] :=
  ⟨List.forall_mem_nil _, .nil⟩

theorem singleton (run : span.IsRunOf lexemes) : AreAligned lexemes [span] :=
  ⟨List.forall_mem_singleton.mpr run, List.pairwise_singleton _ _⟩

theorem sublist {others : List Span} (aligned : AreAligned lexemes spans)
    (within : others.Sublist spans) : AreAligned lexemes others :=
  ⟨fun span member => aligned.runs span (within.subset member), aligned.apart.sublist within⟩

theorem append {others : List Span} (ordered : IsOrdered (before ++ after))
    (front : AreAligned before spans) (back : AreAligned after others) :
    AreAligned (before ++ after) (spans ++ others) := by
  constructor
  · exact List.forall_mem_append.mpr ⟨fun span member => (front.runs span member).append_right after,
      fun span member => (back.runs span member).append_left before⟩
  · refine List.pairwise_append.mpr ⟨front.apart, back.apart, fun first isFirst second isSecond => ?_⟩
    exact ordered.precedes (front.runs first isFirst) (back.runs second isSecond)

theorem append_left (aligned : AreAligned lexemes spans) (before : List Lexeme) :
    AreAligned (before ++ lexemes) spans :=
  ⟨fun span member => (aligned.runs span member).append_left before, aligned.apart⟩

theorem append_right (aligned : AreAligned lexemes spans) (after : List Lexeme) :
    AreAligned (lexemes ++ after) spans :=
  ⟨fun span member => (aligned.runs span member).append_right after, aligned.apart⟩

theorem start_le (aligned : AreAligned lexemes (first :: spans)) :
    ∀ span ∈ first :: spans, first.start ≤ span.start := by
  obtain ⟨runs, apart⟩ := aligned
  have nonempty := (runs first List.mem_cons_self).nonempty
  refine List.forall_mem_cons.mpr ⟨UInt32.le_refl _, fun span isLater => ?_⟩
  have precedes := (List.pairwise_cons.mp apart).1 span isLater
  exact UInt32.le_trans (UInt32.le_of_lt nonempty) precedes

theorem stop_le (aligned : AreAligned lexemes (spans ++ [span])) :
    ∀ earlier ∈ spans ++ [span], earlier.stop ≤ span.stop := by
  obtain ⟨runs, apart⟩ := aligned
  have nonempty := (runs span (List.mem_append_right _ List.mem_cons_self)).nonempty
  refine List.forall_mem_append.mpr ⟨fun earlier isEarlier => ?_,
    List.forall_mem_singleton.mpr (UInt32.le_refl _)⟩
  have precedes := (List.pairwise_append.mp apart).2.2 earlier isEarlier span List.mem_cons_self
  exact UInt32.le_trans precedes (UInt32.le_of_lt nonempty)

/-- What contains the last of the spans and begins no later than the first of them
contains all of them. -/
theorem contained {outer : Span} (aligned : AreAligned lexemes (first :: spans ++ [span]))
    (starts : outer.start ≤ first.start) (stops : span.stop ≤ outer.stop) :
    ∀ inner ∈ first :: spans ++ [span], outer.Contains inner := by
  intro inner isInner
  constructor
  · exact UInt32.le_trans starts (aligned.start_le inner isInner)
  · exact UInt32.le_trans (aligned.stop_le inner isInner) stops

end AreAligned

end Span

theorem IsOrdered.areAligned (ordered : IsOrdered lexemes) :
    Span.AreAligned lexemes (lexemes.map fun lexeme => lexeme.span) := by
  constructor
  · intro span isSpan
    obtain ⟨lexeme, member, rfl⟩ := List.mem_map.mp isSpan
    exact ordered.isRunOf member
  · exact List.pairwise_map.mpr ordered.apart

section Items

variable {α : Type} {spells : α → List Lexeme → Prop} {values : List α} {spansOf : α → List Span}

theorem Parser.Each.with_order (each : Each spells values lexemes) (ordered : IsOrdered lexemes) :
    Each (fun value part => spells value part ∧ IsOrdered part) values lexemes := by
  induction each with
  | nil => exact .nil
  | cons head _ inductionHypothesis =>
    obtain ⟨partOrdered, restOrdered, -⟩ := isOrdered_append_iff.mp ordered
    exact .cons ⟨head, partOrdered⟩ (inductionHypothesis restOrdered)

/-- The runs of items are runs of all lexemes. -/
theorem Parser.Each.runs (each : Each spells values lexemes) (ordered : IsOrdered lexemes)
    (runs : ∀ value part, spells value part → IsOrdered part →
      ∀ span ∈ spansOf value, span.IsRunOf part) :
    ∀ span ∈ values.flatMap spansOf, span.IsRunOf lexemes := by
  induction each with
  | nil => exact List.forall_mem_nil _
  | cons head _ inductionHypothesis =>
    obtain ⟨partOrdered, restOrdered, -⟩ := isOrdered_append_iff.mp ordered
    rw [List.flatMap_cons]
    refine List.forall_mem_append.mpr ⟨fun span member => ?_, fun span member => ?_⟩
    · exact (runs _ _ head partOrdered span member).append_right _
    · exact (inductionHypothesis restOrdered span member).append_left _

/-- Items that stand one after the other have their spans one after the other. -/
theorem Parser.Each.areAligned (each : Each spells values lexemes) (ordered : IsOrdered lexemes)
    (aligned : ∀ value part, spells value part → IsOrdered part → Span.AreAligned part (spansOf value)) :
    Span.AreAligned lexemes (values.flatMap spansOf) := by
  induction each with
  | nil => exact .nil
  | cons head _ inductionHypothesis =>
    obtain ⟨partOrdered, restOrdered, -⟩ := isOrdered_append_iff.mp ordered
    exact .append ordered (aligned _ _ head partOrdered) (inductionHypothesis restOrdered)

end Items

/-! ## Runs of phrases -/

/-- Where the parts of a phrase stand among its lexemes. -/
def Phrase.StandsIn (lexemes : List Lexeme) : Phrase → Prop
  | .expression pattern | .alternation pattern =>
    pattern = .empty ∨ pattern.span.IsRunOf lexemes
  | .statement _ => True
  | .intersection pattern | .sequence pattern | .term pattern | .negation pattern
  | .operand pattern => pattern.span.IsRunOf lexemes
  | .moreAlternatives patterns | .moreOperands patterns | .moreTerms patterns =>
    Span.AreAligned lexemes (patterns.map Pattern.span)

/-- All exclamation marks in a row cover a run. -/
theorem foldl_bangs_isRunOf {bangs : List Lexeme} (ordered : IsOrdered bangs) (nonempty : bangs ≠ []) :
    Span.IsRunOf bangs (bangs.foldl (fun span bang => span.join bang.span) .absent) := by
  cases bangs with
  | nil => exact absurd rfl nonempty
  | cons bang bangs =>
    rw [List.foldl_cons, Span.absent_join]
    exact (ordered.isRunOf List.mem_cons_self).foldl fun later isLater =>
      ordered.isRunOf (List.mem_cons_of_mem _ isLater)

/-- Each part of a phrase has a run of lexemes, unless it was left out. -/
theorem Spells.standsIn {phrase : Phrase} (spells : Spells modes phrase lexemes)
    (ordered : IsOrdered lexemes) : phrase.StandsIn lexemes := by
  induction spells with
  | bare _ stands | once _ stands => exact stands ordered
  | stated spells spellsBody =>
    have joined := (Spells.stated spells spellsBody).spansSatisfy (Span.isJoinClosed_isRunOf _)
      fun lexeme member => .inr (ordered.isRunOf member)
    have nonempty := ne_nil_of_roleOf (by decide) spells.begins
    have present := (isOrdered_append_iff.mp ordered).1.cover_present nonempty
    rcases joined.1 with absent | run
    · have isAbsent := congrArg Span.isAbsent absent
      rw [Statement.scope_span, Span.join_isAbsent, present, Bool.false_and] at isAbsent
      cases isAbsent
    · exact .inr run
  | directive | binding => trivial
  | nothing => exact .inl rfl
  | @alternatives _ bar first more firstLexemes moreLexemes _ spellsFirst _ stands standsMore =>
    obtain ⟨frontOrdered, moreOrdered, -⟩ := isOrdered_append_iff.mp ordered
    right
    cases more with
    | nil =>
      have run := stands frontOrdered.of_append_right
      exact (run.append_left bar.toList).append_right moreLexemes
    | cons second more =>
      have firstNonempty := ne_nil_of_roleOf_mem (by decide) spellsFirst.begins
      have start := frontOrdered.firstSpan_isRunOf (by simp [firstNonempty])
      refine (start.append_right moreLexemes).foldl fun member isMember => ?_
      exact ((standsMore moreOrdered).runs _ (List.mem_map_of_mem isMember)).append_left _
  | @intersected _ ampersand first more firstLexemes moreLexemes _ spellsFirst _ stands _ =>
    cases more with
    | nil =>
      have frontOrdered := ordered.of_append_left
      have run := stands frontOrdered.of_append_right
      exact (run.append_left ampersand.toList).append_right moreLexemes
    | cons second more =>
      have firstNonempty := ne_nil_of_roleOf (by decide) spellsFirst.begins
      exact ordered.cover_isRunOf (by simp [firstNonempty])
  | @terms _ first more firstLexemes moreLexemes _ _ stands standsMore =>
    obtain ⟨firstOrdered, moreOrdered, -⟩ := isOrdered_append_iff.mp ordered
    have run := (stands firstOrdered).append_right moreLexemes
    cases more with
    | nil => exact run
    | cons second more =>
      rw [Phrase.StandsIn, Pattern.sequenceOf_cons]
      have lastRun := (standsMore moreOrdered).runs _
        (List.mem_map_of_mem (List.getLast_mem (List.cons_ne_nil _ _)))
      exact run.join (lastRun.append_left firstLexemes)
  | noAlternative | noOperand | noTerm => exact .nil
  | nextAlternative _ _ _ stands standsMore | nextOperand _ _ _ stands standsMore =>
    obtain ⟨frontOrdered, moreOrdered, -⟩ := isOrdered_append_iff.mp ordered
    have run := stands frontOrdered.of_append_right
    exact .append ordered (.singleton (run.append_left _)) (standsMore moreOrdered)
  | nextTerm _ _ stands standsMore =>
    obtain ⟨firstOrdered, moreOrdered, -⟩ := isOrdered_append_iff.mp ordered
    exact .append ordered (.singleton (stands firstOrdered)) (standsMore moreOrdered)
  | @repeated _ _ _ _ lexemes _ _ _ spellsBounds _ stands =>
    obtain ⟨bodyOrdered, countOrdered, -⟩ := isOrdered_append_iff.mp ordered
    have count := countOrdered.cover_isRunOf (by simp [spellsBounds.ne_nil])
    exact ((stands bodyOrdered).append_right _).join (count.append_left lexemes)
  | @negated _ bangs _ lexemes _ _ stands =>
    obtain ⟨bangsOrdered, operandOrdered, -⟩ := isOrdered_append_iff.mp ordered
    have run := (stands operandOrdered).append_left bangs
    cases bangs with
    | nil => exact run
    | cons bang bangs =>
      have bangsRun := foldl_bangs_isRunOf bangsOrdered (List.cons_ne_nil _ _)
      rw [Phrase.StandsIn, List.length_cons, negate_span]
      exact run.join (bangsRun.append_right lexemes)
  | @lookaround _ operator _ _ _ _ _ stands =>
    have start := ordered.isRunOf List.mem_cons_self
    rcases stands ordered.of_append_right with rfl | run
    · rw [Phrase.StandsIn, Pattern.span, Span.join_of_isAbsent_right rfl start.present]
      exact start
    · exact start.join (run.append_left [operator])
  | group => exact ordered.cover_isRunOf (by simp)
  | atom spells =>
    rw [Phrase.StandsIn, spells.span_eq_cover]
    exact ordered.cover_isRunOf (ne_nil_of_roleOf (by decide) spells.role_eq)

end PatternSyntax
