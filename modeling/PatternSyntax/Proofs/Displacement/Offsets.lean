import PatternSyntax.Proofs.Moving

/-!
# Moving offsets

Two texts can agree in their tokens and differ in what lies between them. The bounds of
the tokens of one text are then in the same order as those of the other, and so there is
a function that takes each bound of the one to the bound of the other and respects the
order of all offsets. Such functions respect joins.
-/

namespace PatternSyntax

/-! ## Functions of offsets -/

theorem map_min_of_mono {f : UInt32 → UInt32} (mono : ∀ first second, first ≤ second → f first ≤ f second)
    (first second : UInt32) : f (min first second) = min (f first) (f second) := by
  change f (if first ≤ second then first else second) =
    if f first ≤ f second then f first else f second
  by_cases inOrder : first ≤ second
  · rw [if_pos inOrder, if_pos (mono first second inOrder)]
  · have swapped := mono second first (UInt32.le_of_lt (UInt32.not_le.mp inOrder))
    rw [if_neg inOrder]
    split
    · exact UInt32.le_antisymm swapped ‹_›
    · rfl

theorem map_max_of_mono {f : UInt32 → UInt32} (mono : ∀ first second, first ≤ second → f first ≤ f second)
    (first second : UInt32) : f (max first second) = max (f first) (f second) := by
  change f (if first ≤ second then second else first) =
    if f first ≤ f second then f second else f first
  by_cases inOrder : first ≤ second
  · rw [if_pos inOrder, if_pos (mono first second inOrder)]
  · have swapped := mono second first (UInt32.le_of_lt (UInt32.not_le.mp inOrder))
    rw [if_neg inOrder]
    split
    · exact UInt32.le_antisymm ‹_› swapped
    · rfl

/-- The greatest image of an offset that is not beyond the position. -/
def reached : List (UInt32 × UInt32) → UInt32 → UInt32
  | [], _ => 0
  | (offset, image) :: pairs, position =>
    let rest := reached pairs position
    if offset ≤ position ∧ rest ≤ image then image else rest

variable {pairs : List (UInt32 × UInt32)}

theorem reached_le_iff {position bound : UInt32} : reached pairs position ≤ bound ↔
    ∀ pair ∈ pairs, pair.1 ≤ position → pair.2 ≤ bound := by
  induction pairs with
  | nil => simp [reached, UInt32.le_iff_toNat_le]
  | cons pair pairs inductionHypothesis =>
    rcases pair with ⟨offset, image⟩
    rw [reached, List.forall_mem_cons, ← inductionHypothesis]
    constructor
    · intro bounded
      split at bounded
      · rename_i taken
        exact ⟨fun _ => bounded, UInt32.le_trans taken.2 bounded⟩
      · rename_i left
        refine ⟨fun passed => ?_, bounded⟩
        have less := UInt32.not_le.mp fun greater => left ⟨passed, greater⟩
        exact UInt32.le_trans (UInt32.le_of_lt less) bounded
    · rintro ⟨imageBounded, restBounded⟩
      split
      · rename_i taken
        exact imageBounded taken.1
      · exact restBounded

theorem le_reached {pair : UInt32 × UInt32} (member : pair ∈ pairs) {position : UInt32}
    (passed : pair.1 ≤ position) : pair.2 ≤ reached pairs position :=
  reached_le_iff.mp (UInt32.le_refl _) pair member passed

theorem reached_mono {first second : UInt32} (inOrder : first ≤ second) :
    reached pairs first ≤ reached pairs second :=
  reached_le_iff.mpr fun _ member passed => le_reached member (UInt32.le_trans passed inOrder)

/-- Images that are in the same order as the offsets are taken up as they are. -/
theorem reached_eq (inOrder : ∀ first ∈ pairs, ∀ second ∈ pairs, first.1 ≤ second.1 → first.2 ≤ second.2)
    {pair : UInt32 × UInt32} (member : pair ∈ pairs) : reached pairs pair.1 = pair.2 := by
  refine UInt32.le_antisymm ?_ (le_reached member (UInt32.le_refl _))
  exact reached_le_iff.mpr fun other isOther passed => inOrder other isOther pair member passed

/-! ## Functions of spans -/

namespace Span

/-- Move the bounds of a span one by one. What is nowhere stays there. -/
def moveBounds (moveStart moveStop : UInt32 → UInt32) (span : Span) : Span :=
  if span.isAbsent then .absent else ⟨moveStart span.start, moveStop span.stop⟩

section Bounds

variable {moveStart moveStop : UInt32 → UInt32} {span : Span}

theorem moveBounds_absent (absent : span.isAbsent) : span.moveBounds moveStart moveStop = .absent :=
  if_pos absent

theorem moveBounds_present (present : span.isAbsent = false) :
    span.moveBounds moveStart moveStop = ⟨moveStart span.start, moveStop span.stop⟩ := by
  rw [moveBounds, present]
  rfl

theorem respectsJoin_moveBounds
    (starts : ∀ first second, first ≤ second → moveStart first ≤ moveStart second)
    (stops : ∀ first second, first ≤ second → moveStop first ≤ moveStop second)
    (positive : ∀ offset, moveStop offset ≠ 0) :
    RespectsJoin (fun _ => True) (moveBounds moveStart moveStop) := by
  refine ⟨⟨trivial, fun _ _ _ _ => trivial⟩, rfl, fun first second _ _ => ?_⟩
  have present (start stop : UInt32) : Span.isAbsent ⟨start, moveStop stop⟩ = false :=
    beq_eq_false_iff_ne.mpr (positive stop)
  cases firstAbsent : first.isAbsent with
  | true => rw [moveBounds_absent firstAbsent, absent_join, join, if_pos firstAbsent]
  | false =>
    rw [moveBounds_present firstAbsent]
    cases secondAbsent : second.isAbsent with
    | true =>
      rw [moveBounds_absent secondAbsent, join_of_isAbsent_right secondAbsent firstAbsent,
        moveBounds_present firstAbsent, join_of_isAbsent_right rfl (present _ _)]
    | false =>
      have joinPresent : (first.join second).isAbsent = false := by
        rw [join_isAbsent, firstAbsent, Bool.false_and]
      rw [moveBounds_present joinPresent, moveBounds_present secondAbsent]
      simp only [join, firstAbsent, secondAbsent, present, Bool.false_eq_true, if_false,
        map_min_of_mono starts, map_max_of_mono stops]

end Bounds

theorem one_le_stop {span : Span} (present : span.isAbsent = false) : 1 ≤ span.stop := by
  have nonzero : span.stop ≠ 0 := beq_eq_false_iff_ne.mp present
  have positive : span.stop.toNat ≠ 0 := fun zero => nonzero (UInt32.toNat_inj.mp zero)
  rw [UInt32.le_iff_toNat_le]
  exact Nat.one_le_iff_ne_zero.mpr positive

theorem present_of_stop_le {span other : Span} (present : span.isAbsent = false)
    (stops : span.stop ≤ other.stop) : other.isAbsent = false := by
  have positive := UInt32.le_trans (one_le_stop present) stops
  refine beq_eq_false_iff_ne.mpr fun zero => ?_
  rw [zero] at positive
  exact absurd positive (by decide)

/-- The second marks begin and end in the same order as the first ones. -/
structure InOrder (first second : Span × Span) : Prop where
  starts : first.1.start ≤ second.1.start → first.2.start ≤ second.2.start
  stops : first.1.stop ≤ second.1.stop → first.2.stop ≤ second.2.stop

theorem InOrder.refl (mark : Span × Span) : InOrder mark mark :=
  ⟨fun _ => UInt32.le_refl _, fun _ => UInt32.le_refl _⟩

/-- Of marks that hold something, the earlier and the later ones are in the same order. -/
theorem InOrder.of_apart {first second : Span × Span} (ends : first.1.stop ≤ second.1.start)
    (endsOther : first.2.stop ≤ second.2.start)
    (positive : ∀ mark ∈ [first, second], mark.1.start < mark.1.stop ∧ mark.2.start < mark.2.stop) :
    InOrder first second ∧ InOrder second first := by
  obtain ⟨firstPositive, firstPositiveOther⟩ := positive first (by simp)
  obtain ⟨secondPositive, secondPositiveOther⟩ := positive second (by simp)
  rw [UInt32.le_iff_toNat_le] at ends endsOther
  rw [UInt32.lt_iff_toNat_lt] at firstPositive firstPositiveOther secondPositive secondPositiveOther
  refine ⟨⟨fun _ => ?_, fun _ => ?_⟩, fun later => ?_, fun later => ?_⟩ <;>
    rw [UInt32.le_iff_toNat_le] at * <;> omega

/-- Marks that are in the same order can be taken to each other, together with what
reaches from one of them to another. -/
theorem exists_respectsJoin {marks : List (Span × Span)}
    (present : ∀ mark ∈ marks, mark.1.isAbsent = false ∧ mark.2.isAbsent = false)
    (inOrder : ∀ first ∈ marks, ∀ second ∈ marks, InOrder first second) :
    ∃ f, RespectsJoin (fun _ => True) f ∧ ∀ opening ∈ marks, ∀ closing ∈ marks,
      f ⟨opening.1.start, closing.1.stop⟩ = ⟨opening.2.start, closing.2.stop⟩ := by
  let starts := marks.map fun mark => (mark.1.start, mark.2.start)
  -- The offset zero is taken to one, so that nothing comes to end at zero.
  let stops : List (UInt32 × UInt32) := (0, 1) :: marks.map fun mark => (mark.1.stop, mark.2.stop)
  have startsInOrder : ∀ first ∈ starts, ∀ second ∈ starts,
      first.1 ≤ second.1 → first.2 ≤ second.2 := by
    simp only [starts, List.forall_mem_map]
    exact fun first isFirst second isSecond => (inOrder first isFirst second isSecond).starts
  have stopsInOrder : ∀ first ∈ stops, ∀ second ∈ stops,
      first.1 ≤ second.1 → first.2 ≤ second.2 := by
    simp only [stops, List.forall_mem_cons, List.forall_mem_map]
    refine ⟨⟨fun _ => UInt32.le_refl _, fun second isSecond _ => ?_⟩,
      fun first isFirst => ⟨fun atZero => ?_, fun second isSecond => ?_⟩⟩
    · exact one_le_stop (present second isSecond).2
    · have positive := UInt32.le_trans (one_le_stop (present first isFirst).1) atZero
      exact absurd positive (by decide)
    · exact (inOrder first isFirst second isSecond).stops
  have positive (offset : UInt32) : reached stops offset ≠ 0 := by
    have reaches := @le_reached stops _ List.mem_cons_self offset UInt32.zero_le
    intro zero
    rw [zero] at reaches
    exact absurd reaches (by decide)
  refine ⟨_, @respectsJoin_moveBounds (reached starts) (reached stops)
    (fun _ _ => reached_mono) (fun _ _ => reached_mono) positive, ?_⟩
  intro opening isOpening closing isClosing
  have start_eq := reached_eq startsInOrder (List.mem_map_of_mem isOpening)
  have stop_eq := reached_eq stopsInOrder (List.mem_cons_of_mem _ (List.mem_map_of_mem isClosing))
  have isPresent : Span.isAbsent ⟨opening.1.start, closing.1.stop⟩ = false :=
    (present closing isClosing).1
  rw [moveBounds_present isPresent]
  exact congrArg₂ Span.mk start_eq stop_eq

end Span

end PatternSyntax
