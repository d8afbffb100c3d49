/-!
# Tables of code point ranges

A property of characters is given by the ranges of code points that have it, in
ascending order. A search may then stop at the first range that begins beyond
the code point, and `contains_iff` says that it loses nothing by that.
-/

namespace PatternSyntax.Unicode

/-- Inclusive ranges of code points. -/
abbrev RangeTable := List (Nat × Nat)

namespace RangeTable

/-- Whether every range is in order and lies beyond the one before it, the
first of them at or above `low`. -/
def ascendsFrom (low : Nat) : RangeTable → Bool
  | [] => true
  | (first, last) :: later =>
    low ≤ first && first ≤ last && ascendsFrom (last + 1) later

/-- Whether one of the ranges holds the code point. -/
def contains : RangeTable → Nat → Bool
  | [], _ => false
  | (first, last) :: later, code =>
    first ≤ code && (code ≤ last || contains later code)

theorem le_of_mem {table : RangeTable} {low : Nat} (ascends : table.ascendsFrom low)
    {range : Nat × Nat} (mem : range ∈ table) : low ≤ range.1 := by
  induction table generalizing low with
  | nil => cases mem
  | cons head later inductionHypothesis =>
    obtain ⟨first, last⟩ := head
    simp only [ascendsFrom, Bool.and_eq_true, decide_eq_true_eq] at ascends
    rcases List.mem_cons.mp mem with rfl | mem
    · exact ascends.1.1
    · have beyond := inductionHypothesis ascends.2 mem
      omega

theorem contains_iff {table : RangeTable} {low : Nat} (ascends : table.ascendsFrom low)
    (code : Nat) :
    table.contains code ↔ ∃ range ∈ table, range.1 ≤ code ∧ code ≤ range.2 := by
  induction table generalizing low with
  | nil => simp [contains]
  | cons head later inductionHypothesis =>
    obtain ⟨first, last⟩ := head
    simp only [ascendsFrom, Bool.and_eq_true, decide_eq_true_eq] at ascends
    have beyond : ∀ range ∈ later, last + 1 ≤ range.1 :=
      fun range mem => le_of_mem ascends.2 mem
    simp only [contains, Bool.and_eq_true, Bool.or_eq_true, decide_eq_true_eq,
      inductionHypothesis ascends.2]
    constructor
    · rintro ⟨above, below | ⟨range, mem, found⟩⟩
      · exact ⟨(first, last), List.mem_cons_self, above, below⟩
      · exact ⟨range, List.mem_cons_of_mem _ mem, found⟩
    · rintro ⟨range, mem, above, below⟩
      rcases List.mem_cons.mp mem with rfl | mem
      · exact ⟨above, Or.inl below⟩
      · have := beyond range mem
        exact ⟨by omega, Or.inr ⟨range, mem, above, below⟩⟩

end RangeTable

end PatternSyntax.Unicode
