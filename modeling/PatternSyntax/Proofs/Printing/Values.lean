import PatternSyntax.Proofs.Printing.Tokens
import PatternSyntax.Proofs.Spelling.Atom

/-!
# Written values

A number, a character or a text is written as a token from which it is read again.
Numbers are read again only within their range. A text that is kept as it stands
between its quotes was between quotes before, so that one of the two kinds of quotes
is good for it.
-/

namespace PatternSyntax

open Grammar Recognition Text Piece

/-! ## Numbers -/

theorem forall_mem_toDigits {base : Nat} (proper : 1 < base) {p : Char → Prop}
    (digit : ∀ value < base, p value.digitChar) (value : Nat) : ∀ c ∈ Nat.toDigits base value, p c := by
  induction value using Nat.strongRecOn with
  | ind value inductionHypothesis =>
    rw [Nat.toDigits_eq_if proper]
    split
    · rename_i small
      simpa using digit value small
    · rename_i large
      have smaller : value / base < value := Nat.div_lt_self (by omega) proper
      have last := digit (value % base) (Nat.mod_lt _ (by omega))
      exact List.forall_mem_append.mpr ⟨inductionHypothesis _ smaller, by simpa using last⟩

/-- The digits of a number in a base have the number for their value. -/
theorem valueIn_toDigits {base : Nat} (proper : 1 < base) {write : Char → Char}
    (digit : ∀ value < base, Numeral.digitValue (write value.digitChar) = value) (value : Nat) :
    Numeral.valueIn base ((Nat.toDigits base value).map write) = value := by
  induction value using Nat.strongRecOn with
  | ind value inductionHypothesis =>
    rw [Nat.toDigits_eq_if proper]
    split
    · rename_i small
      simp [Numeral.valueIn, digit value small]
    · rename_i large
      have smaller : value / base < value := Nat.div_lt_self (by omega) proper
      have front := inductionHypothesis _ smaller
      have last := digit (value % base) (Nat.mod_lt _ (by omega))
      rw [Numeral.valueIn] at front
      rw [Numeral.valueIn, List.map_append, List.foldl_append, front]
      simp [last, Nat.div_add_mod]

theorem isDigit_of_mem_decimal {value : Nat} {c : Char} (isIn : c ∈ Nat.toDigits 10 value) :
    c.isDigit :=
  Nat.isDigit_of_mem_toDigits (by decide) (by decide) isIn

theorem decimal?_toDigits (value : Nat) : Numeral.decimal? (Nat.toDigits 10 value) = some value := by
  have same := @valueIn_toDigits 10 (by decide) id (by decide) value
  rw [List.map_id] at same
  have areDigits : (Nat.toDigits 10 value).all Char.isDigit :=
    List.all_eq_true.mpr fun _ => isDigit_of_mem_decimal
  simp [Numeral.decimal?, areDigits, same]

theorem withoutSeparators_toDigits (value : Nat) :
    Numeral.withoutSeparators (Nat.toDigits 10 value) = Nat.toDigits 10 value := by
  apply List.filter_eq_self.mpr
  intro c isIn
  apply bne_iff_ne.mpr
  rintro rfl
  exact Nat.underscore_not_in_toDigits isIn

theorem natural?_toDigits (value : Nat) : Numeral.natural? (Nat.toDigits 10 value) = some value := by
  have decimal := decimal?_toDigits value
  rw [Numeral.natural?, withoutSeparators_toDigits]
  split
  · rename_i digits signed
    rw [signed] at decimal
    simp [Numeral.decimal?] at decimal
  · exact decimal

theorem integer?_toDigits (value : Nat) :
    Numeral.integer? (Nat.toDigits 10 value) = some (value : Int) := by
  have decimal := decimal?_toDigits value
  rw [Numeral.integer?, withoutSeparators_toDigits]
  split
  · rename_i digits signed
    rw [signed] at decimal
    simp [Numeral.decimal?] at decimal
  · rename_i digits signed
    rw [signed] at decimal
    simp [Numeral.decimal?] at decimal
  · rw [decimal]
    rfl

theorem count?_toDigits {value : Nat} (inRange : value ≤ maxCount) :
    count? (Nat.toDigits 10 value) = some value := by
  rw [count?, natural?_toDigits]
  simp [inRange]

theorem word?_toDigits {value : Nat} (inRange : value < 0x100000000) :
    word? (Nat.toDigits 10 value) = some value := by
  rw [word?, natural?_toDigits]
  simp [inRange]

theorem offset?_toDigits {value : Nat} (inRange : value < 0x80000000) :
    offset? (Nat.toDigits 10 value) = some (Int32.ofInt value) := by
  have inBounds : (decide (-0x80000000 ≤ (value : Int)) && decide ((value : Int) < 0x80000000)) := by
    rw [Bool.and_eq_true, decide_eq_true_eq, decide_eq_true_eq]
    omega
  rw [offset?, integer?_toDigits, Option.filter_some, if_pos inBounds, Option.map_some]

theorem isToken_numeral (value : Nat) : IsToken .number (Nat.toDigits 10 value) := by
  obtain ⟨first, tail, split⟩ := List.exists_cons_of_ne_nil (@Nat.toDigits_ne_nil value 10)
  have areDigits : ∀ c ∈ first :: tail, c.isDigit := by
    rw [← split]
    exact fun _ => isDigit_of_mem_decimal
  obtain ⟨isDigit, tailDigits⟩ := List.forall_mem_cons.mp areDigits
  refine ⟨?_, first, tail, split, .number isDigit ?_ nofun⟩
  · rw [split]
    rintro same
    obtain ⟨rfl, -⟩ := List.cons_eq_cons.mp same
    cases isDigit
  · intro c isIn
    simp [tailDigits c isIn]

/-! ## Characters -/

theorem isHexDigit_of_mem_hexadecimal {value : Nat} :
    ∀ c ∈ (Nat.toDigits 16 value).map Char.toUpper, c.isHexDigit := by
  have digits := @forall_mem_toDigits 16 (by decide) (fun c => c.toUpper.isHexDigit) (by decide) value
  simpa using digits

theorem hexadecimal?_toDigits (value : Nat) :
    Numeral.hexadecimal? ((Nat.toDigits 16 value).map Char.toUpper) = some value := by
  have same := @valueIn_toDigits 16 (by decide) Char.toUpper (by decide) value
  have areDigits : ((Nat.toDigits 16 value).map Char.toUpper).all Char.isHexDigit :=
    List.all_eq_true.mpr isHexDigit_of_mem_hexadecimal
  simp only [Numeral.hexadecimal?, areDigits, same]
  simp

theorem codePointChar?_written (c : Char) :
    codePointChar? ('U' :: '+' :: (Nat.toDigits 16 c.toNat).map Char.toUpper) = some c := by
  have digits : (Nat.toDigits 16 c.toNat).map Char.toUpper ≠ [] := by simp
  obtain ⟨first, tail, split⟩ := List.exists_cons_of_ne_nil digits
  have isHex : first.isHexDigit :=
    isHexDigit_of_mem_hexadecimal first (by rw [split]; exact List.mem_cons_self)
  have value := hexadecimal?_toDigits c.toNat
  rw [split] at value
  have dropped : ('U' :: '+' :: first :: tail).dropWhile (fun c => !c.isHexDigit) = first :: tail := by
    simp [List.dropWhile, isHex, show 'U'.isHexDigit = false from rfl,
      show '+'.isHexDigit = false from rfl]
  have valid : c.toNat.isValidChar := c.valid
  rw [codePointChar?, split, dropped, value, Option.bind_some, scalar?, if_pos valid, Char.ofNat_toNat]

theorem isToken_codePoint (c : Char) :
    IsToken .codePoint ('U' :: '+' :: (Nat.toDigits 16 c.toNat).map Char.toUpper) := by
  refine ⟨nofun, 'U', _, rfl, ?_⟩
  exact @Recognizes.codePoint 'U' [] [] _ [] rfl nofun nofun (by simp)
    isHexDigit_of_mem_hexadecimal nofun

/-! ## Texts -/

theorem unescape_escaped (content : List Char) :
    Quoted.unescape (content.flatMap escape) = content := by
  induction content with
  | nil => rfl
  | cons c content inductionHypothesis =>
    rw [List.flatMap_cons, escape]
    by_cases isQuote : c = '"'
    · subst isQuote
      simp [Quoted.unescape, inductionHypothesis]
    · by_cases isBackslash : c = '\\'
      · subst isBackslash
        simp [Quoted.unescape, inductionHypothesis]
      · simp only [isQuote, isBackslash, decide_false, Bool.or_false, Bool.false_eq_true, if_false,
          List.singleton_append]
        rw [Quoted.unescape, inductionHypothesis]
        · exact fun _ same => absurd same isBackslash
        · exact fun _ same => absurd same isBackslash

theorem isEscaped_flatMap_escape (content : List Char) : isEscaped (content.flatMap escape) := by
  induction content with
  | nil => rfl
  | cons c content inductionHypothesis =>
    rw [List.flatMap_cons, escape]
    by_cases special : c = '"' ∨ c = '\\'
    · simp only [Bool.or_eq_true, decide_eq_true_eq, special, if_true, List.cons_append,
        List.nil_append]
      rwa [isEscaped]
    · obtain ⟨notQuote, notBackslash⟩ := not_or.mp special
      simp only [Bool.or_eq_true, decide_eq_true_eq, special, if_false, List.singleton_append]
      rwa [isEscaped_cons notQuote notBackslash]

theorem decode_quoted (content : List Char) :
    Quoted.decode ('"' :: (content.flatMap escape ++ ['"'])) = content := by
  rw [Quoted.decode_double_quoted, unescape_escaped]

theorem isToken_quoted (content : List Char) :
    IsToken .string ('"' :: (content.flatMap escape ++ ['"'])) :=
  ⟨nofun, '"', _, rfl, .doubleQuoted rfl (isEscaped_flatMap_escape content)⟩

/-! ## Lexemes of a source -/

/-- The lexeme is a token by itself. -/
def Lexeme.IsScanned (lexeme : Lexeme) : Prop :=
  ∃ first tail, lexeme.text = String.ofList (first :: tail) ∧ Recognizes first tail [] lexeme.kind

namespace Lexeme.IsScanned

variable {lexeme : Lexeme}

/-- A name is not the letter alone that begins a code point. -/
theorem identifier (scanned : lexeme.IsScanned) (isName : lexeme.kind = .identifier) :
    IsToken .identifier lexeme.text.toList ∧ ∀ c ∈ lexeme.text.toList.head?, isWordStart c := by
  obtain ⟨first, tail, text_eq, recognizes⟩ := scanned
  rw [isName] at recognizes
  obtain ⟨isStart, notReserved⟩ := recognizes.of_identifier
  rw [text_eq, String.toList_ofList]
  refine ⟨⟨?_, first, tail, rfl, recognizes⟩, by simpa using isStart⟩
  intro isLetter
  rw [isLetter] at notReserved
  revert notReserved
  decide

/-- A number carries no sign. -/
theorem natural (scanned : lexeme.IsScanned) (isNumber : lexeme.kind = .number) {offset : Int32}
    (readable : offset? lexeme.text.toList = some offset) :
    ∃ value : Nat, value < 0x80000000 ∧ offset = Int32.ofInt value := by
  obtain ⟨first, tail, text_eq, recognizes⟩ := scanned
  rw [isNumber] at recognizes
  have isDigit := recognizes.of_number
  have notSeparator : first ≠ '_' := by
    rintro rfl
    cases isDigit
  rw [text_eq, String.toList_ofList, offset?, Option.map_eq_some_iff] at readable
  obtain ⟨value, found, rfl⟩ := readable
  obtain ⟨isValue, inRange⟩ := Option.filter_eq_some_iff.mp found
  rw [Numeral.integer?, Numeral.withoutSeparators, List.filter_cons_of_pos (by simpa using notSeparator)]
    at isValue
  split at isValue
  · rename_i signed
    obtain ⟨rfl, -⟩ := List.cons_eq_cons.mp signed
    cases isDigit
  · rename_i signed
    obtain ⟨rfl, -⟩ := List.cons_eq_cons.mp signed
    cases isDigit
  · obtain ⟨_, decimal, rfl⟩ := Option.map_eq_some_iff.mp isValue
    obtain ⟨natural, -, isNatural⟩ := Option.bind_eq_some_iff.mp decimal
    cases isNatural
    simp only [Bool.and_eq_true, decide_eq_true_eq] at inRange
    exact ⟨natural, by omega, rfl⟩

/-- A text that is kept as it stands can be written again. -/
theorem rawText (scanned : lexeme.IsScanned) (isString : lexeme.kind = .string) :
    ∃ text, rawQuoted (Grammar.rawText lexeme) = .word .string text ∧ IsToken .string text ∧
      String.ofList (Quoted.inner text) = Grammar.rawText lexeme := by
  obtain ⟨first, tail, text_eq, recognizes⟩ := scanned
  rw [isString] at recognizes
  have written : ∀ (quote : Char) (inner : List Char), lexeme.text = String.ofList (quote :: (inner ++ [quote])) →
      Grammar.rawText lexeme = String.ofList inner := by
    intro quote inner same
    rw [Grammar.rawText, same, String.toList_ofList, Quoted.inner_quoted]
  rw [rawQuoted]
  rcases recognizes.of_string with ⟨rfl, inner, rfl, free⟩ | ⟨rfl, inner, rfl, escaped⟩
  · have raw := written _ _ text_eq
    have noQuote : inner.contains '\'' = false := by simpa using free
    refine ⟨'\'' :: (inner ++ ['\'']), by simp only [raw, String.toList_ofList, noQuote]; rfl, ?_, ?_⟩
    · exact ⟨nofun, '\'', _, rfl, .singleQuoted rfl free⟩
    · rw [Quoted.inner_quoted, raw]
  · have raw := written _ _ text_eq
    cases contained : inner.contains '\'' with
    | true =>
      refine ⟨'"' :: (inner ++ ['"']), by simp only [raw, String.toList_ofList, contained]; rfl, ?_, ?_⟩
      · exact ⟨nofun, '"', _, rfl, .doubleQuoted rfl escaped⟩
      · rw [Quoted.inner_quoted, raw]
    | false =>
      refine ⟨'\'' :: (inner ++ ['\'']), by simp only [raw, String.toList_ofList, contained]; rfl, ?_, ?_⟩
      · exact ⟨nofun, '\'', _, rfl, .singleQuoted rfl (by simpa using contained)⟩
      · rw [Quoted.inner_quoted, raw]

end Lexeme.IsScanned

end PatternSyntax
