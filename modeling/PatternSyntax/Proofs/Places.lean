import PatternSyntax.Proofs.Sources

/-!
# Places

The lexemes of a source stand one after the other, and none of them is empty. What
a run of lexemes covers is then fixed by the first and the last of them, and two
neighbouring runs cover together what both of them cover.
-/

namespace PatternSyntax

open Text

namespace Span

/-- All bytes of the second span are bytes of the first. -/
def Contains (outer inner : Span) : Prop :=
  outer.start ≤ inner.start ∧ inner.stop ≤ outer.stop

instance (outer inner : Span) : Decidable (outer.Contains inner) :=
  inferInstanceAs (Decidable (_ ∧ _))

@[simp]
theorem isAbsent_absent : isAbsent .absent = true :=
  rfl

theorem join_absent_of_isAbsent {first second : Span} (isAbsent : first.isAbsent) :
    first.join second = second := by
  rw [join, if_pos isAbsent]

theorem join_eq {first second : Span} (firstPresent : first.isAbsent = false)
    (secondPresent : second.isAbsent = false) (starts : first.start ≤ second.start)
    (stops : first.stop ≤ second.stop) : first.join second = ⟨first.start, second.stop⟩ := by
  have start_eq : min first.start second.start = first.start := if_pos starts
  have stop_eq : max first.stop second.stop = second.stop := if_pos stops
  simp [join, firstPresent, secondPresent, start_eq, stop_eq]

@[simp]
theorem join_isAbsent (first second : Span) :
    (first.join second).isAbsent = (first.isAbsent && second.isAbsent) := by
  cases firstAbsent : first.isAbsent with
  | true => rw [join_absent_of_isAbsent firstAbsent, Bool.true_and]
  | false =>
    cases secondAbsent : second.isAbsent with
    | true => rw [join_of_isAbsent_right secondAbsent firstAbsent, firstAbsent, Bool.false_and]
    | false =>
      simp only [join, firstAbsent, secondAbsent, Bool.false_eq_true, if_false, Bool.false_and]
      change ((if first.stop ≤ second.stop then second.stop else first.stop) == 0) = false
      split
      · exact secondAbsent
      · exact firstAbsent

/-- A join contains the second of its parts, if that is somewhere. -/
theorem join_contains_right {first second : Span} (secondPresent : second.isAbsent = false) :
    (first.join second).Contains second := by
  cases firstAbsent : first.isAbsent with
  | true =>
    rw [join_absent_of_isAbsent firstAbsent]
    exact ⟨UInt32.le_refl _, UInt32.le_refl _⟩
  | false =>
    simp only [join, firstAbsent, secondPresent, Bool.false_eq_true, if_false]
    constructor
    · change (if first.start ≤ second.start then first.start else second.start) ≤ second.start
      split
      · assumption
      · exact UInt32.le_refl _
    · change second.stop ≤ if first.stop ≤ second.stop then second.stop else first.stop
      split
      · exact UInt32.le_refl _
      · exact UInt32.le_of_lt (UInt32.not_le.mp ‹_›)

/-- What is contained already adds nothing. -/
theorem join_of_contains {outer inner : Span} (contains : outer.Contains inner)
    (outerPresent : outer.isAbsent = false) : outer.join inner = outer := by
  cases innerAbsent : inner.isAbsent with
  | true => exact join_of_isAbsent_right innerAbsent outerPresent
  | false =>
    have start_eq : min outer.start inner.start = outer.start := if_pos contains.1
    have stop_eq : max outer.stop inner.stop = outer.stop := by
      change (if outer.stop ≤ inner.stop then inner.stop else outer.stop) = outer.stop
      split
      · exact UInt32.le_antisymm contains.2 ‹_›
      · rfl
    simp [join, outerPresent, innerAbsent, start_eq, stop_eq]

@[simp]
theorem join_join_self (first second : Span) :
    (first.join second).join second = first.join second := by
  cases secondAbsent : second.isAbsent with
  | true =>
    cases firstAbsent : first.isAbsent with
    | true => rw [join_absent_of_isAbsent firstAbsent, join_self]
    | false =>
      rw [join_of_isAbsent_right secondAbsent firstAbsent,
        join_of_isAbsent_right secondAbsent firstAbsent]
  | false =>
    exact join_of_contains (join_contains_right secondAbsent)
      (by rw [join_isAbsent, secondAbsent, Bool.and_false])

/-- The order of two spans does not matter where the first of them begins and ends
before the second. -/
theorem join_swap {first second : Span} (firstPresent : first.isAbsent = false)
    (secondPresent : second.isAbsent = false) (starts : first.start ≤ second.start)
    (stops : first.stop ≤ second.stop) : second.join first = ⟨first.start, second.stop⟩ := by
  have start_eq : min second.start first.start = first.start := by
    change (if second.start ≤ first.start then second.start else first.start) = first.start
    split
    · exact UInt32.le_antisymm ‹_› starts
    · rfl
  have stop_eq : max second.stop first.stop = second.stop := by
    change (if second.stop ≤ first.stop then first.stop else second.stop) = second.stop
    split
    · exact UInt32.le_antisymm stops ‹_›
    · rfl
  simp [join, firstPresent, secondPresent, start_eq, stop_eq]

end Span

/-- The lexemes stand one after the other, and none of them is empty. -/
structure IsOrdered (lexemes : List Lexeme) : Prop where
  nonempty : ∀ lexeme ∈ lexemes, lexeme.span.start < lexeme.span.stop
  apart : lexemes.Pairwise fun first second => first.span.stop ≤ second.span.start

theorem isOrdered_append_iff {first second : List Lexeme} :
    IsOrdered (first ++ second) ↔ IsOrdered first ∧ IsOrdered second ∧
      ∀ earlier ∈ first, ∀ later ∈ second, earlier.span.stop ≤ later.span.start := by
  constructor
  · rintro ⟨nonempty, apart⟩
    rw [List.forall_mem_append] at nonempty
    rw [List.pairwise_append] at apart
    exact ⟨⟨nonempty.1, apart.1⟩, ⟨nonempty.2, apart.2.1⟩, apart.2.2⟩
  · rintro ⟨firstOrdered, secondOrdered, apart⟩
    exact ⟨List.forall_mem_append.mpr ⟨firstOrdered.nonempty, secondOrdered.nonempty⟩,
      List.pairwise_append.mpr ⟨firstOrdered.apart, secondOrdered.apart, apart⟩⟩

theorem IsOrdered.of_append_left {first second : List Lexeme}
    (ordered : IsOrdered (first ++ second)) : IsOrdered first :=
  (isOrdered_append_iff.mp ordered).1

theorem IsOrdered.of_append_right {first second : List Lexeme}
    (ordered : IsOrdered (first ++ second)) : IsOrdered second :=
  (isOrdered_append_iff.mp ordered).2.1

theorem IsOrdered.present {lexemes : List Lexeme} (ordered : IsOrdered lexemes) {lexeme : Lexeme}
    (member : lexeme ∈ lexemes) : lexeme.span.isAbsent = false := by
  have positive := ordered.nonempty lexeme member
  refine beq_eq_false_iff_ne.mpr fun zero => ?_
  rw [zero] at positive
  exact UInt32.not_lt_zero positive

/-! ## What a run covers -/

@[simp]
theorem cover_singleton (lexeme : Lexeme) : cover [lexeme] = lexeme.span :=
  Span.join_self _

theorem lastSpan_eq_getLast {lexemes : List Lexeme} (nonempty : lexemes ≠ []) (before : Span) :
    lastSpan before lexemes = (lexemes.getLast nonempty).span := by
  induction lexemes generalizing before with
  | nil => exact absurd rfl nonempty
  | cons lexeme lexemes inductionHypothesis =>
    cases lexemes with
    | nil => rfl
    | cons second lexemes => exact inductionHypothesis (List.cons_ne_nil _ _) lexeme.span

theorem IsOrdered.cover_eq {lexemes : List Lexeme} (ordered : IsOrdered lexemes)
    (nonempty : lexemes ≠ []) :
    cover lexemes = ⟨(lexemes.head nonempty).span.start, (lexemes.getLast nonempty).span.stop⟩ := by
  cases lexemes with
  | nil => exact absurd rfl nonempty
  | cons first rest =>
    rw [cover, lastSpan_eq_getLast nonempty, firstSpan]
    cases rest with
    | nil => simp
    | cons second rest =>
      have member : (second :: rest).getLast (List.cons_ne_nil _ _) ∈ second :: rest :=
        List.getLast_mem _
      have apart := (List.pairwise_cons.mp ordered.apart).1 _ member
      have lastPositive := ordered.nonempty _ (List.mem_cons_of_mem first member)
      have firstPositive := ordered.nonempty first List.mem_cons_self
      rw [List.getLast_cons (List.cons_ne_nil _ _)]
      exact Span.join_eq (ordered.present List.mem_cons_self)
        (ordered.present (List.mem_cons_of_mem first member))
        (UInt32.le_of_lt (UInt32.lt_of_lt_of_le firstPositive apart))
        (UInt32.le_of_lt (UInt32.lt_of_le_of_lt apart lastPositive))

theorem IsOrdered.cover_present {lexemes : List Lexeme} (ordered : IsOrdered lexemes)
    (nonempty : lexemes ≠ []) : (cover lexemes).isAbsent = false := by
  rw [ordered.cover_eq nonempty]
  exact ordered.present (List.getLast_mem nonempty)

/-- A run in front of another begins and ends before it does. -/
theorem IsOrdered.cover_le {first between second : List Lexeme}
    (ordered : IsOrdered (first ++ between ++ second)) (firstNonempty : first ≠ [])
    (secondNonempty : second ≠ []) :
    (cover first).start ≤ (cover second).start ∧ (cover first).stop ≤ (cover second).stop := by
  obtain ⟨frontOrdered, secondOrdered, apart⟩ := isOrdered_append_iff.mp ordered
  have firstOrdered := frontOrdered.of_append_left
  have startApart := apart _ (List.mem_append_left between (List.head_mem firstNonempty)) _
    (List.head_mem secondNonempty)
  have stopApart := apart _ (List.mem_append_left between (List.getLast_mem firstNonempty)) _
    (List.getLast_mem secondNonempty)
  have starts := firstOrdered.nonempty _ (List.head_mem firstNonempty)
  have stops := secondOrdered.nonempty _ (List.getLast_mem secondNonempty)
  rw [firstOrdered.cover_eq firstNonempty, secondOrdered.cover_eq secondNonempty]
  exact ⟨UInt32.le_of_lt (UInt32.lt_of_lt_of_le starts startApart),
    UInt32.le_of_lt (UInt32.lt_of_le_of_lt stopApart stops)⟩

theorem IsOrdered.cover_append {first between second : List Lexeme}
    (ordered : IsOrdered (first ++ between ++ second)) (firstNonempty : first ≠ [])
    (secondNonempty : second ≠ []) :
    cover (first ++ between ++ second) = ⟨(cover first).start, (cover second).stop⟩ := by
  obtain ⟨frontOrdered, secondOrdered, -⟩ := isOrdered_append_iff.mp ordered
  have firstOrdered := frontOrdered.of_append_left
  rw [ordered.cover_eq (by simp [firstNonempty]), firstOrdered.cover_eq firstNonempty,
    secondOrdered.cover_eq secondNonempty]
  simp [firstNonempty, secondNonempty]

/-- Two runs cover together what reaches from the first to the end of the second. What
stands between them is covered too. -/
theorem IsOrdered.cover_join {first between second : List Lexeme}
    (ordered : IsOrdered (first ++ between ++ second)) (firstNonempty : first ≠ [])
    (secondNonempty : second ≠ []) :
    (cover first).join (cover second) = cover (first ++ between ++ second) := by
  obtain ⟨frontOrdered, secondOrdered, -⟩ := isOrdered_append_iff.mp ordered
  obtain ⟨starts, stops⟩ := ordered.cover_le firstNonempty secondNonempty
  rw [ordered.cover_append firstNonempty secondNonempty]
  exact Span.join_eq ((isOrdered_append_iff.mp frontOrdered).1.cover_present firstNonempty)
    (secondOrdered.cover_present secondNonempty) starts stops

theorem IsOrdered.cover_join_swap {first second : List Lexeme} (ordered : IsOrdered (first ++ second))
    (firstNonempty : first ≠ []) (secondNonempty : second ≠ []) :
    (cover second).join (cover first) = cover (first ++ second) := by
  obtain ⟨firstOrdered, secondOrdered, -⟩ := isOrdered_append_iff.mp ordered
  rw [← List.append_nil first] at ordered ⊢
  obtain ⟨starts, stops⟩ := ordered.cover_le firstNonempty secondNonempty
  rw [ordered.cover_append firstNonempty secondNonempty, List.append_nil]
  exact Span.join_swap (firstOrdered.cover_present firstNonempty)
    (secondOrdered.cover_present secondNonempty) starts stops

/-! ## The lexemes of a source -/

/-- Every lexeme of a text stands at or after the given offset, and they are in
order. -/
theorem Scans.isOrdered {position : Nat} {text : List Char} {lexemes : List Lexeme}
    (scans : Scans position text lexemes) (short : position + utf8Size text < 2 ^ 32) :
    IsOrdered lexemes ∧ ∀ lexeme ∈ lexemes, position ≤ lexeme.span.start.toNat := by
  induction scans with
  | done => exact ⟨⟨nofun, .nil⟩, nofun⟩
  | @lexeme position trivia tail rest first kind lexemes skips recognized scans
      inductionHypothesis =>
    have positive := utf8Size_pos_of_cons first tail
    rw [utf8Size_append, ← List.cons_append, utf8Size_append] at short
    obtain ⟨⟨nonempty, apart⟩, after⟩ := inductionHypothesis (by omega)
    have start_toNat : (Lexeme.at (position + utf8Size trivia) kind (first :: tail)).span.start.toNat =
        position + utf8Size trivia := toNat_ofNat_of_lt (by omega)
    have stop_toNat : (Lexeme.at (position + utf8Size trivia) kind (first :: tail)).span.stop.toNat =
        position + utf8Size trivia + utf8Size (first :: tail) := toNat_ofNat_of_lt (by omega)
    refine ⟨⟨List.forall_mem_cons.mpr ⟨?_, nonempty⟩, List.pairwise_cons.mpr ⟨?_, apart⟩⟩,
      List.forall_mem_cons.mpr ⟨?_, ?_⟩⟩
    · rw [UInt32.lt_iff_toNat_lt]
      omega
    · intro later member
      have placed := after later member
      rw [UInt32.le_iff_toNat_le]
      omega
    · omega
    · intro later member
      have placed := after later member
      omega

theorem isOrdered_lexemesOf {source : String} (short : utf8Size source.toList < 2 ^ 32) :
    IsOrdered (lexemesOf source) :=
  ((scans_tokenize short).isOrdered (by omega)).1

end PatternSyntax
