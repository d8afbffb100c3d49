/-!
# Byte offsets in a text

A text is a list of characters, and a position in it is counted in bytes of its
UTF-8 form. Cutting at a byte offset succeeds exactly when the offset falls
between two characters.
-/

namespace PatternSyntax.Text

/-- The number of bytes that the characters take. -/
def utf8Size : List Char → Nat
  | [] => 0
  | c :: text => c.utf8Size + utf8Size text

@[simp]
theorem utf8Size_nil : utf8Size [] = 0 :=
  rfl

@[simp]
theorem utf8Size_cons (c : Char) (text : List Char) :
    utf8Size (c :: text) = c.utf8Size + utf8Size text :=
  rfl

@[simp]
theorem utf8Size_append (first second : List Char) :
    utf8Size (first ++ second) = utf8Size first + utf8Size second := by
  induction first with
  | nil => simp
  | cons c first inductionHypothesis => simp [inductionHypothesis, Nat.add_assoc]

/-- Cut the text after the given number of bytes. There is no such cut inside a
character or beyond the end. -/
def splitAtByte? : Nat → List Char → Option (List Char × List Char)
  | 0, text => some ([], text)
  | _ + 1, [] => none
  | offset + 1, c :: text =>
    if c.utf8Size ≤ offset + 1 then
      (splitAtByte? (offset + 1 - c.utf8Size) text).map fun (before, after) =>
        (c :: before, after)
    else none

theorem splitAtByte?_eq_some_iff {offset : Nat} {text before after : List Char} :
    splitAtByte? offset text = some (before, after) ↔
      text = before ++ after ∧ utf8Size before = offset := by
  induction text generalizing offset before after with
  | nil =>
    cases offset with
    | zero =>
      simp only [splitAtByte?, Option.some.injEq, Prod.mk.injEq, List.nil_eq_append_iff]
      constructor
      · rintro ⟨rfl, rfl⟩
        simp
      · rintro ⟨⟨rfl, rfl⟩, -⟩
        simp
    | succ offset =>
      simp only [splitAtByte?, reduceCtorEq, List.nil_eq_append_iff, false_iff, not_and]
      rintro ⟨rfl, rfl⟩
      simp
  | cons c text inductionHypothesis =>
    have size_pos : 0 < c.utf8Size := c.utf8Size_pos
    cases offset with
    | zero =>
      simp only [splitAtByte?, Option.some.injEq, Prod.mk.injEq]
      constructor
      · rintro ⟨rfl, rfl⟩
        simp
      · rintro ⟨split, size⟩
        cases before with
        | nil => exact ⟨rfl, split⟩
        | cons d before =>
          have d_pos : 0 < d.utf8Size := d.utf8Size_pos
          rw [utf8Size_cons] at size
          omega
    | succ offset =>
      simp only [splitAtByte?]
      constructor
      · intro cut
        split at cut
        · rename_i fits
          obtain ⟨⟨front, back⟩, found, same⟩ := Option.map_eq_some_iff.mp cut
          cases same
          obtain ⟨rfl, size⟩ := inductionHypothesis.mp found
          refine ⟨rfl, ?_⟩
          rw [utf8Size_cons, size]
          omega
        · cases cut
      · rintro ⟨split, size⟩
        cases before with
        | nil => simp at size
        | cons d before =>
          obtain ⟨rfl, rfl⟩ := List.cons_eq_cons.mp split
          rw [utf8Size_cons] at size
          have fits : c.utf8Size ≤ offset + 1 := by omega
          rw [if_pos fits, Option.map_eq_some_iff]
          exact ⟨(before, after), inductionHypothesis.mpr ⟨rfl, by omega⟩, rfl⟩

/-- The characters between two byte offsets, if both fall between characters
and the first is not behind the second. -/
def slice? (text : List Char) (start stop : Nat) : Option (List Char) :=
  if start ≤ stop then do
    let (_, tail) ← splitAtByte? start text
    let (piece, _) ← splitAtByte? (stop - start) tail
    return piece
  else none

theorem slice?_eq_some_iff {text piece : List Char} {start stop : Nat} :
    slice? text start stop = some piece ↔
      ∃ before after, text = before ++ piece ++ after ∧
        utf8Size before = start ∧ utf8Size before + utf8Size piece = stop := by
  constructor
  · intro sliced
    simp only [slice?] at sliced
    split at sliced
    · rename_i ordered
      obtain ⟨⟨before, tail⟩, first, sliced⟩ := Option.bind_eq_some_iff.mp sliced
      obtain ⟨⟨found, after⟩, second, same⟩ := Option.bind_eq_some_iff.mp sliced
      cases same
      obtain ⟨rfl, beforeSize⟩ := splitAtByte?_eq_some_iff.mp first
      obtain ⟨rfl, pieceSize⟩ := splitAtByte?_eq_some_iff.mp second
      refine ⟨before, after, by simp, beforeSize, ?_⟩
      dsimp only at pieceSize ⊢
      omega
    · cases sliced
  · rintro ⟨before, after, rfl, rfl, rfl⟩
    have first : splitAtByte? (utf8Size before) (before ++ (piece ++ after)) =
        some (before, piece ++ after) :=
      splitAtByte?_eq_some_iff.mpr ⟨rfl, rfl⟩
    have second : splitAtByte? (utf8Size piece) (piece ++ after) = some (piece, after) :=
      splitAtByte?_eq_some_iff.mpr ⟨rfl, rfl⟩
    simp [slice?, first, second]

end PatternSyntax.Text
