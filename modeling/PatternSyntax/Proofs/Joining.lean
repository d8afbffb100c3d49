import PatternSyntax.Proofs.Places

/-!
# Joining many spans

Many spans are joined one after the other. Neither their order nor the way they are put
together matters for the result: it is the tightest span around all that are somewhere. An
absent span is told by its end alone, and this is enough as long as no span ends before it
begins.
-/

namespace PatternSyntax.Span

variable {first second third span : Span} {spans : List Span}

/-- The span does not end before it begins. -/
def IsForward (span : Span) : Prop :=
  span.start ≤ span.stop

instance (span : Span) : Decidable span.IsForward :=
  inferInstanceAs (Decidable (_ ≤ _))

/-- All spans joined one after the other, beginning with nowhere. -/
def joinAll (spans : List Span) : Span :=
  spans.foldl join absent

/-- The spans that are somewhere. -/
def present (spans : List Span) : List Span :=
  spans.filter fun span => span ≠ absent

/-- From the least start to the greatest end of the spans that are somewhere. -/
def tightest (spans : List Span) : Span :=
  match ((present spans).map start).min?, ((present spans).map stop).max? with
  | some start, some stop => ⟨start, stop⟩
  | _, _ => absent

/-- A way to put spans together two by two. -/
inductive Bracketing where
  | leaf (span : Span)
  | node (left right : Bracketing)

namespace Bracketing

/-- The spans from left to right. -/
def leaves : Bracketing → List Span
  | leaf span => [span]
  | node left right => left.leaves ++ right.leaves

/-- The spans joined as they are bracketed. -/
def joined : Bracketing → Span
  | leaf span => span
  | node left right => left.joined.join right.joined

end Bracketing

/-! ## Two spans and three -/

/-- Of two offsets the first one is taken if it is not the smaller one. -/
instance : Std.LawfulOrderLeftLeaningMax UInt32 where
  max_eq_left first second le := by
    change (if first ≤ second then second else first) = first
    split
    · exact UInt32.le_antisymm le ‹_›
    · rfl
  max_eq_right _ _ notLe := if_pos (UInt32.le_of_lt (UInt32.not_le.mp notLe))

theorem offset_max_comm (first second : UInt32) : max first second = max second first :=
  UInt32.le_antisymm (Std.max_le_iff.mpr ⟨Std.right_le_max, Std.left_le_max⟩)
    (Std.max_le_iff.mpr ⟨Std.right_le_max, Std.left_le_max⟩)

theorem join_of_present (firstPresent : first.isAbsent = false)
    (secondPresent : second.isAbsent = false) :
    first.join second = ⟨min first.start second.start, max first.stop second.stop⟩ := by
  simp [join, firstPresent, secondPresent]

/-- Joining is associative, also for spans that end before they begin. -/
theorem join_assoc (first second third : Span) :
    (first.join second).join third = first.join (second.join third) := by
  cases firstAbsent : first.isAbsent with
  | true => rw [join_absent_of_isAbsent firstAbsent, join_absent_of_isAbsent firstAbsent]
  | false =>
    cases secondAbsent : second.isAbsent with
    | true =>
      rw [join_of_isAbsent_right secondAbsent firstAbsent, join_absent_of_isAbsent secondAbsent]
    | false =>
      have firstPart : (first.join second).isAbsent = false := by
        rw [join_isAbsent, firstAbsent, Bool.false_and]
      have lastPart : (second.join third).isAbsent = false := by
        rw [join_isAbsent, secondAbsent, Bool.false_and]
      cases thirdAbsent : third.isAbsent with
      | true =>
        rw [join_of_isAbsent_right thirdAbsent firstPart,
          join_of_isAbsent_right thirdAbsent secondAbsent]
      | false =>
        rw [join_of_present firstPart thirdAbsent, join_of_present firstAbsent lastPart,
          join_of_present firstAbsent secondAbsent, join_of_present secondAbsent thirdAbsent,
          @Std.Associative.assoc _ min _, @Std.Associative.assoc _ max _]

/-- The sentinel is told by its end. -/
theorem IsForward.isAbsent_iff (forward : span.IsForward) : span.isAbsent ↔ span = absent := by
  constructor
  · intro isAbsent
    have stop_eq : span.stop = 0 := beq_iff_eq.mp isAbsent
    have start_eq : span.start = 0 := UInt32.le_zero_iff.mp (stop_eq ▸ forward)
    cases span
    simp only at start_eq stop_eq
    rw [start_eq, stop_eq, absent]
  · rintro rfl
    rfl

theorem IsForward.isAbsent_eq_false (forward : span.IsForward) (somewhere : span ≠ absent) :
    span.isAbsent = false :=
  Bool.eq_false_iff.mpr fun isAbsent => somewhere (forward.isAbsent_iff.mp isAbsent)

theorem IsForward.join_absent (forward : span.IsForward) : span.join absent = span := by
  by_cases nowhere : span = absent
  · rw [nowhere, absent_join]
  · exact join_of_isAbsent_right rfl (forward.isAbsent_eq_false nowhere)

theorem IsForward.join_comm (firstForward : first.IsForward) (secondForward : second.IsForward) :
    first.join second = second.join first := by
  by_cases firstNowhere : first = absent
  · rw [firstNowhere, absent_join, secondForward.join_absent]
  by_cases secondNowhere : second = absent
  · rw [secondNowhere, absent_join, firstForward.join_absent]
  have firstPresent := firstForward.isAbsent_eq_false firstNowhere
  have secondPresent := secondForward.isAbsent_eq_false secondNowhere
  rw [join_of_present firstPresent secondPresent, join_of_present secondPresent firstPresent,
    @Std.Commutative.comm _ min _, offset_max_comm]

/-! ## Lists of spans -/

theorem foldl_join (first : Span) (forward : first.IsForward) (spans : List Span) :
    spans.foldl join first = first.join (joinAll spans) := by
  have associative : Std.Associative join := ⟨join_assoc⟩
  rw [joinAll, ← @List.foldl_assoc _ join associative, forward.join_absent]

theorem joinAll_cons (forward : span.IsForward) :
    joinAll (span :: spans) = span.join (joinAll spans) := by
  rw [joinAll, List.foldl_cons, absent_join, foldl_join span forward]

theorem joinAll_append (left right : List Span) (forward : ∀ span ∈ left, span.IsForward) :
    joinAll (left ++ right) = (joinAll left).join (joinAll right) := by
  induction left with
  | nil => rfl
  | cons span left inductionHypothesis =>
    obtain ⟨spanForward, forward⟩ := List.forall_mem_cons.mp forward
    rw [List.cons_append, joinAll_cons spanForward, joinAll_cons spanForward,
      inductionHypothesis forward, join_assoc]

theorem joinAll_perm {others : List Span} (perm : others.Perm spans)
    (forward : ∀ span ∈ spans, span.IsForward) : joinAll others = joinAll spans := by
  refine (perm.symm.foldl_eq' (fun first isFirst second isSecond joined => ?_) absent).symm
  rw [join_assoc, join_assoc, (forward first isFirst).join_comm (forward second isSecond)]

theorem Bracketing.joined_eq_joinAll (bracketing : Bracketing)
    (forward : ∀ span ∈ bracketing.leaves, span.IsForward) :
    bracketing.joined = joinAll bracketing.leaves := by
  induction bracketing with
  | leaf span => rfl
  | node left right leftHypothesis rightHypothesis =>
    obtain ⟨leftForward, rightForward⟩ := List.forall_mem_append.mp forward
    rw [joined, leaves, joinAll_append _ _ leftForward, leftHypothesis leftForward,
      rightHypothesis rightForward]

/-! ## The tightest cover -/

theorem tightest_cons_absent (spans : List Span) : tightest (absent :: spans) = tightest spans :=
  rfl

theorem tightest_of_present_eq_nil (nowhere : present spans = []) : tightest spans = absent := by
  rw [tightest, nowhere]
  rfl

/-- What is somewhere has a tightest cover that is somewhere. -/
theorem tightest_of_present_ne_nil (somewhere : present spans ≠ [])
    (forward : ∀ span ∈ spans, span.IsForward) : ∃ start stop,
      ((present spans).map Span.start).min? = some start ∧
        ((present spans).map Span.stop).max? = some stop ∧ stop ≠ 0 := by
  obtain ⟨first, more, split⟩ := List.exists_cons_of_ne_nil somewhere
  obtain ⟨stop, greatest⟩ : ∃ stop, ((present spans).map Span.stop).max? = some stop := by
    rw [split, List.map_cons, List.max?_cons']
    exact ⟨_, rfl⟩
  obtain ⟨start, least⟩ : ∃ start, ((present spans).map Span.start).min? = some start := by
    rw [split, List.map_cons, List.min?_cons']
    exact ⟨_, rfl⟩
  refine ⟨start, stop, least, greatest, ?_⟩
  obtain ⟨span, isPresent, rfl⟩ := List.mem_map.mp (List.max?_eq_some_iff.mp greatest).1
  obtain ⟨member, notAbsent⟩ := List.mem_filter.mp isPresent
  exact beq_eq_false_iff_ne.mp
    ((forward span member).isAbsent_eq_false (of_decide_eq_true notAbsent))

theorem tightest_cons (spanForward : span.IsForward) (forward : ∀ span ∈ spans, span.IsForward) :
    tightest (span :: spans) = span.join (tightest spans) := by
  by_cases nowhere : span = absent
  · rw [nowhere, tightest_cons_absent, absent_join]
  have spanPresent := spanForward.isAbsent_eq_false nowhere
  have present_eq : present (span :: spans) = span :: present spans :=
    List.filter_cons_of_pos (decide_eq_true nowhere)
  by_cases rest : present spans = []
  · rw [tightest_of_present_eq_nil rest, spanForward.join_absent, tightest, present_eq, rest]
    rfl
  · obtain ⟨start, stop, least, greatest, positive⟩ := tightest_of_present_ne_nil rest forward
    have restPresent : Span.isAbsent ⟨start, stop⟩ = false := beq_eq_false_iff_ne.mpr positive
    simp only [tightest, present_eq, List.map_cons, List.min?_cons, List.max?_cons, least,
      greatest, Option.elim_some]
    exact (join_of_present spanPresent restPresent).symm

theorem joinAll_eq_tightest (forward : ∀ span ∈ spans, span.IsForward) :
    joinAll spans = tightest spans := by
  induction spans with
  | nil => rfl
  | cons span spans inductionHypothesis =>
    obtain ⟨spanForward, forward⟩ := List.forall_mem_cons.mp forward
    rw [joinAll_cons spanForward, tightest_cons spanForward forward, inductionHypothesis forward]

/-- Spans are joined to the tightest one around them, in whichever order they stand and
however they are bracketed. -/
theorem joined_in_any_order (spans : List Span) (forward : ∀ span ∈ spans, span.IsForward) :
    (∀ first second third : Span,
      (first.join second).join third = first.join (second.join third)) ∧
    joinAll spans = tightest spans ∧
    (∀ others : List Span, others.Perm spans → joinAll others = joinAll spans) ∧
    ∀ bracketing : Bracketing, bracketing.leaves.Perm spans →
      bracketing.joined = joinAll spans := by
  refine ⟨join_assoc, joinAll_eq_tightest forward, fun others perm => joinAll_perm perm forward, ?_⟩
  intro bracketing perm
  have leavesForward : ∀ span ∈ bracketing.leaves, span.IsForward :=
    fun span isLeaf => forward span (perm.mem_iff.mp isLeaf)
  rw [bracketing.joined_eq_joinAll leavesForward, joinAll_perm perm forward]

/-- An empty span at the end of a source counts, and one that is nowhere does not. -/
theorem joined_in_any_order_of_empty_span :
    joinAll [⟨2, 5⟩, absent, ⟨8, 8⟩] = ⟨2, 8⟩ ∧
      joinAll [⟨8, 8⟩, ⟨2, 5⟩, absent] = ⟨2, 8⟩ ∧
      ((Bracketing.leaf absent).node (.node (.leaf ⟨8, 8⟩) (.leaf ⟨2, 5⟩))).joined = ⟨2, 8⟩ := by
  obtain ⟨-, covers, permuted, bracketed⟩ :=
    joined_in_any_order [⟨2, 5⟩, absent, ⟨8, 8⟩] (by decide)
  have tightest_eq : joinAll [⟨2, 5⟩, absent, ⟨8, 8⟩] = ⟨2, 8⟩ := covers.trans (by decide)
  exact ⟨tightest_eq, (permuted _ (by decide)).trans tightest_eq,
    (bracketed _ (by decide)).trans tightest_eq⟩

end PatternSyntax.Span
