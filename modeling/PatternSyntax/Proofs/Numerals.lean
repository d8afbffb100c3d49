import Mathlib.Data.Nat.Digits.Defs
import PatternSyntax.Proofs.Quoting
import PatternSyntax.Proofs.Reporting

/-!
# Numbers of a source

A number is a digit with digits and underscores behind it, and it denotes what its digits
denote by their places. Every production that takes a number checks this value, however long
the number is: it is stored as it is, or the number is reported. Nothing is cut off and
nothing wraps around.
-/

namespace PatternSyntax

open Grammar Recognition Text
open PatternSyntax.Parser

namespace Text.Numeral

/-! ## Places -/

/-- The sixteen digits in the order of their values. -/
def alphabet : List Char :=
  ['0', '1', '2', '3', '4', '5', '6', '7', '8', '9', 'a', 'b', 'c', 'd', 'e', 'f']

/-- A digit of either case counts as much as there are digits before it. -/
def weight (c : Char) : Nat :=
  alphabet.idxOf c.toLower

/-- The number that digits denote in a base: a place counts `base` times as much as the one
behind it. -/
def denoted (base : Nat) (digits : List Char) : Nat :=
  Nat.ofDigits base (digits.reverse.map weight)

theorem denoted_append_singleton (base : Nat) (front : List Char) (c : Char) :
    denoted base (front ++ [c]) = base * denoted base front + weight c := by
  simp only [denoted, List.reverse_append, List.reverse_singleton, List.singleton_append,
    List.map_cons, Nat.ofDigits_cons]
  exact Nat.add_comm _ _

theorem digitValue_eq_weight {c : Char} (isHex : c.isHexDigit) : digitValue c = weight c := by
  have same := forall_ascii (p := fun c => !c.isHexDigit || digitValue c == weight c)
    (by decide +kernel) (toNat_lt_of_isHexDigit isHex)
  simpa [isHex] using same

/-- Reading digits from left to right gives what they denote. -/
theorem valueIn_eq_denoted {base : Nat} {digits : List Char}
    (areDigits : ∀ c ∈ digits, c.isHexDigit) : valueIn base digits = denoted base digits := by
  induction digits using List.reverseRecOn with
  | nil => rfl
  | append_singleton front c inductionHypothesis =>
    rw [List.forall_mem_append, List.forall_mem_singleton] at areDigits
    rw [denoted_append_singleton, ← inductionHypothesis areDigits.1,
      ← digitValue_eq_weight areDigits.2]
    simp [valueIn]

/-! ## Numerals -/

/-- A digit, and behind it digits and underscores. -/
def IsNumeral (text : List Char) : Prop :=
  ∃ first tail, text = first :: tail ∧ first.isDigit ∧ ∀ c ∈ tail, c.isDigit ∨ c = '_'

/-- The number that the digits of a numeral denote. -/
def value (text : List Char) : Nat :=
  denoted 10 (withoutSeparators text)

namespace IsNumeral

variable {text : List Char}

theorem withoutSeparators_ne_nil (isNumeral : IsNumeral text) : withoutSeparators text ≠ [] := by
  rcases isNumeral with ⟨first, tail, rfl, isDigit, -⟩
  have notSeparator : first ≠ '_' := by
    rintro rfl
    cases isDigit
  simp [withoutSeparators, notSeparator]

theorem isDigit_of_mem (isNumeral : IsNumeral text) : ∀ c ∈ withoutSeparators text, c.isDigit := by
  rcases isNumeral with ⟨first, tail, rfl, isDigit, areDigits⟩
  intro c isIn
  rw [withoutSeparators, List.mem_filter, List.mem_cons, bne_iff_ne] at isIn
  rcases isIn with ⟨rfl | isIn, notSeparator⟩
  · exact isDigit
  · exact (areDigits c isIn).resolve_right notSeparator

theorem decimal?_eq (isNumeral : IsNumeral text) :
    decimal? (withoutSeparators text) = some (value text) := by
  have areDigits : (withoutSeparators text).all Char.isDigit :=
    List.all_eq_true.mpr isNumeral.isDigit_of_mem
  have denotes : valueIn 10 (withoutSeparators text) = value text :=
    valueIn_eq_denoted fun c isIn => isHexDigit_of_isDigit (isNumeral.isDigit_of_mem c isIn)
  simp [decimal?, areDigits, isNumeral.withoutSeparators_ne_nil, denotes]

/-- A numeral carries no sign. -/
theorem head_ne {sign : Char} {digits : List Char} (isNumeral : IsNumeral text)
    (notDigit : sign.isDigit = false) : withoutSeparators text ≠ sign :: digits := by
  intro signed
  have isDigit := isNumeral.isDigit_of_mem sign (by rw [signed]; exact List.mem_cons_self)
  rw [notDigit] at isDigit
  cases isDigit

theorem natural?_eq (isNumeral : IsNumeral text) : natural? text = some (value text) := by
  rw [natural?]
  split
  · exact absurd ‹_› (isNumeral.head_ne rfl)
  · exact isNumeral.decimal?_eq

theorem integer?_eq (isNumeral : IsNumeral text) : integer? text = some (value text : Int) := by
  rw [integer?]
  split
  · exact absurd ‹_› (isNumeral.head_ne rfl)
  · exact absurd ‹_› (isNumeral.head_ne rfl)
  · rw [isNumeral.decimal?_eq]
    rfl

end IsNumeral

end Text.Numeral

/-! ## Ranges -/

namespace Text.Numeral.IsNumeral

variable {text : List Char}

theorem count?_eq (isNumeral : IsNumeral text) :
    count? text = if value text ≤ 65535 then some (value text) else none := by
  rw [count?, isNumeral.natural?_eq]
  by_cases inRange : value text ≤ 65535 <;> simp [inRange, maxCount]

theorem word?_eq (isNumeral : IsNumeral text) :
    word? text = if value text < 2 ^ 32 then some (value text) else none := by
  simp [word?, isNumeral.natural?_eq, Option.filter_some]

theorem offset?_eq (isNumeral : IsNumeral text) :
    offset? text = if value text ≤ 2 ^ 31 - 1 then some (Int32.ofInt (value text)) else none := by
  have inBounds : (decide (-0x80000000 ≤ (value text : Int)) &&
      decide ((value text : Int) < 0x80000000)) = true ↔ value text ≤ 2 ^ 31 - 1 := by
    rw [Bool.and_eq_true, decide_eq_true_eq, decide_eq_true_eq]
    omega
  rw [offset?, isNumeral.integer?_eq, Option.filter_some]
  simp only [inBounds]
  split <;> rfl

end Text.Numeral.IsNumeral

/-- A word of 32 bits holds the offset in both directions. -/
theorem toInt_offset {value : Nat} (inRange : value ≤ 2 ^ 31 - 1) :
    (Int32.ofInt value).toInt = value ∧ (-Int32.ofInt value).toInt = -value := by
  constructor
  · exact Int32.toInt_ofInt_of_le (by omega) (by omega)
  · rw [← Int32.ofInt_neg]
    exact Int32.toInt_ofInt_of_le (by omega) (by omega)

namespace Lexeme

/-- The lexeme is a number as it may stand in a source. -/
def IsNumeral (lexeme : Lexeme) : Prop :=
  lexeme.kind = .number ∧ Numeral.IsNumeral lexeme.text.toList

/-- The number that the lexeme denotes. -/
def value (lexeme : Lexeme) : Nat :=
  Numeral.value lexeme.text.toList

end Lexeme

/-! ## Productions that take a number -/

/-- The parser comes to a number behind `front`. Up to the limit it goes on with `back` and gives
the value; beyond the limit it reports the number. -/
structure Parser.ReadsUpTo {α : Type} (limit : Nat) (parser : Parser α) (front : List Lexeme)
    (number : Lexeme) (back : List Lexeme) (value : α) : Prop where
  gives : number.value ≤ limit → parser.Gives (front ++ [number] ++ back) value
  reports : limit < number.value → parser.Reports front number .numberTooLarge

namespace Lexeme.IsNumeral

variable {number : Lexeme}

theorem isCount (isNumeral : number.IsNumeral) (inRange : number.value ≤ 65535) :
    IsCount number.value number :=
  ⟨isNumeral.1, isNumeral.2.count?_eq.trans (if_pos inRange)⟩

theorem reports_count (isNumeral : number.IsNumeral) (large : 65535 < number.value) :
    (Grammar.number count?).Reports [] number .numberTooLarge :=
  .number isNumeral.1 (isNumeral.2.count?_eq.trans (if_neg (Nat.not_le.mpr large)))

theorem offset?_eq (isNumeral : number.IsNumeral) (inRange : number.value ≤ 2 ^ 31 - 1) :
    offset? number.text.toList = some (Int32.ofInt number.value) :=
  isNumeral.2.offset?_eq.trans (if_pos inRange)

theorem reports_offset (isNumeral : number.IsNumeral) (large : 2 ^ 31 - 1 < number.value) :
    (expectNumber offset?).Reports [] number .numberTooLarge :=
  Reports.orElse (.number isNumeral.1
    (isNumeral.2.offset?_eq.trans (if_neg (Nat.not_le.mpr large)))) _

theorem word?_eq (isNumeral : number.IsNumeral) (inRange : number.value < 2 ^ 32) :
    word? number.text.toList = some number.value :=
  isNumeral.2.word?_eq.trans (if_pos inRange)

theorem reports_word (isNumeral : number.IsNumeral) (large : 2 ^ 32 ≤ number.value) :
    (expectNumber word?).Reports [] number .numberTooLarge :=
  Reports.orElse (.number isNumeral.1
    (isNumeral.2.word?_eq.trans (if_neg (Nat.not_lt.mpr large)))) _

/-! ### References and captures -/

theorem gives_reference {mark : Lexeme} {target : ReferenceTarget} {inner : List Lexeme}
    (isMark : mark.kind = .doubleColon) (spells : SpellsTarget target inner) :
    reference.Gives ([mark] ++ inner)
      (.reference target (mark.span.join (lastSpan mark.span inner))) := by
  intro cursor after reads
  obtain ⟨between, readsMark, readsInner⟩ := Cursor.reads_append_iff.mp reads
  simp only [reference, bind_eq_accept_iff, accept_eq_accept_iff, referenceTarget_eq_accept_iff,
    previous_bind_apply]
  refine ⟨mark, between, ⟨isMark, readsMark⟩, target, after, ⟨inner, spells, readsInner⟩, ?_⟩
  rw [reads.previous]
  rfl

theorem reads_reference (isNumeral : number.IsNumeral) {mark : Lexeme}
    (isMark : mark.kind = .doubleColon) :
    reference.ReadsUpTo 65535 [mark] number []
      (.reference (.number number.value) (mark.span.join number.span)) where
  gives inRange := gives_reference isMark (.number (isNumeral.isCount inRange))
  reports large := by
    have noSign {kind : TokenKind} (other : kind ≠ .number) :
        ∀ lexeme ∈ [number].head?, lexeme.kind ≠ kind := by
      simpa [isNumeral.1] using other.symm
    have reports : referenceTarget.Reports [] number .numberTooLarge :=
      .otherwise (.otherwise (.orElse (.bind (isNumeral.reports_count large) _) _)
        (noSign (by decide))) (noSign (by decide))
    exact .behind (gives_accept isMark) (reports.bind _)

theorem reads_forward_reference (isNumeral : number.IsNumeral) {mark sign : Lexeme}
    (isMark : mark.kind = .doubleColon) (isPlus : sign.kind = .plus) :
    reference.ReadsUpTo (2 ^ 31 - 1) [mark, sign] number []
      (.reference (.relative (Int32.ofInt number.value)) (mark.span.join number.span)) where
  gives inRange :=
    gives_reference isMark (.forward isPlus isNumeral.1 (isNumeral.offset?_eq inRange))
  reports large := by
    have reports : referenceTarget.Reports [sign] number .numberTooLarge :=
      .orElse (.behind (gives_accept isPlus) (.bind (isNumeral.reports_offset large) _)) _
    exact .behind (gives_accept isMark) (reports.bind _)

theorem reads_backward_reference (isNumeral : number.IsNumeral) {mark sign : Lexeme}
    (isMark : mark.kind = .doubleColon) (isDash : sign.kind = .dash) :
    reference.ReadsUpTo (2 ^ 31 - 1) [mark, sign] number []
      (.reference (.relative (-Int32.ofInt number.value)) (mark.span.join number.span)) where
  gives inRange :=
    gives_reference isMark (.backward isDash isNumeral.1 (isNumeral.offset?_eq inRange))
  reports large := by
    have reports : referenceTarget.Reports [sign] number .numberTooLarge :=
      .otherwise (.orElse (.behind (gives_accept isDash)
        (.bind (isNumeral.reports_offset large) _)) _) (by simp [isDash])
    exact .behind (gives_accept isMark) (reports.bind _)

theorem reads_capture (isNumeral : number.IsNumeral) {colon text : Lexeme}
    (isColon : colon.kind = .colon) (isText : text.kind = .string) :
    capture.ReadsUpTo 65535 [] number [colon, text]
      ⟨.number number.value, number.span, text.literal⟩ where
  gives inRange := fun _ _ reads =>
    capture_eq_accept_iff.mpr
      ⟨_, .capture (.number (isNumeral.isCount inRange)) isColon isText, reads⟩
  reports large := by
    have reports : captureLabel.Reports [] number .numberTooLarge :=
      .orElse (.bind (isNumeral.reports_count large) _) _
    exact reports.bind _

/-! ### Bounds of a repetition -/

theorem gives_count {lower : Lexeme} (isLower : lower.IsNumeral) (inRange : lower.value ≤ 65535) :
    (Grammar.number count?).Gives [lower] lower.value :=
  fun _ _ reads => number_eq_accept_iff.mpr ⟨lower, isLower.isCount inRange, reads⟩

/-- The first number between braces, whatever follows it. -/
theorem reports_first_bound (isNumeral : number.IsNumeral) (large : 65535 < number.value)
    {opening : Lexeme} (opens : opening.kind = .openBrace) :
    bracedBounds.Reports [opening] number .numberTooLarge :=
  .behind (gives_accept opens)
    (.here fun _ => .bind (isNumeral.reports_count large).optional _)

variable {opening comma closing lower : Lexeme}

theorem reads_exact_bound (isNumeral : number.IsNumeral) (opens : opening.kind = .openBrace)
    (closes : closing.kind = .closeBrace) :
    bracedBounds.ReadsUpTo 65535 [opening] number [closing] ⟨number.value, some number.value⟩ where
  gives inRange := fun _ _ reads =>
    bracedBounds_exactly opens (isNumeral.isCount inRange) closes reads
  reports large := isNumeral.reports_first_bound large opens

theorem reads_least_bound (isNumeral : number.IsNumeral) (opens : opening.kind = .openBrace)
    (isComma : comma.kind = .comma) (closes : closing.kind = .closeBrace) :
    bracedBounds.ReadsUpTo 65535 [opening] number [comma, closing] ⟨number.value, none⟩ where
  gives inRange := by
    have spellsLower : SpellsCount (some number.value) [number] :=
      ⟨number, rfl, isNumeral.isCount inRange⟩
    have spellsUpper : SpellsCount none [] := rfl
    exact fun _ _ reads =>
      bracedBounds_between opens spellsLower isComma spellsUpper (by simp) closes reads
  reports large := isNumeral.reports_first_bound large opens

theorem reads_greatest_bound (isNumeral : number.IsNumeral) (opens : opening.kind = .openBrace)
    (isComma : comma.kind = .comma) (closes : closing.kind = .closeBrace) :
    bracedBounds.ReadsUpTo 65535 [opening, comma] number [closing] ⟨0, some number.value⟩ where
  gives inRange := by
    have spellsLower : SpellsCount none [] := rfl
    have spellsUpper : SpellsCount (some number.value) [number] :=
      ⟨number, rfl, isNumeral.isCount inRange⟩
    exact fun _ _ reads =>
      bracedBounds_between opens spellsLower isComma spellsUpper (by simp) closes reads
  reports large := by
    have noNumber (cursor after : Cursor) (reads : cursor.Reads ([comma] ++ [number]) after) :
        (Grammar.number count?) cursor = .decline :=
      number_eq_decline_iff.mpr (by simp [reads.rest, isComma])
    exact .behind (gives_accept opens) (.here fun _ => .absent noNumber
      (.behind (gives_accept isComma).optional (.bind (isNumeral.reports_count large).optional _)))

/-- A second number is read even where the comma before it is missing. -/
theorem reports_unseparated_bound (isNumeral : number.IsNumeral) (large : 65535 < number.value)
    (opens : opening.kind = .openBrace) (isLower : lower.IsNumeral)
    (inRange : lower.value ≤ 65535) :
    bracedBounds.Reports [opening, lower] number .numberTooLarge := by
  have noComma (cursor after : Cursor) (reads : cursor.Reads ([] ++ [number]) after) :
      (accept .comma) cursor = .decline :=
    accept_eq_decline_iff.mpr (by simp [reads.rest, isNumeral.1])
  exact .behind (gives_accept opens) (.here fun _ =>
    .behind (gives_count isLower inRange).optional
      (.absent noComma (.bind (isNumeral.reports_count large).optional _)))

theorem reads_upper_bound (isNumeral : number.IsNumeral) (opens : opening.kind = .openBrace)
    (isLower : lower.IsNumeral) (lowerInRange : lower.value ≤ 65535)
    (isComma : comma.kind = .comma) (closes : closing.kind = .closeBrace)
    (ordered : lower.value ≤ number.value) :
    bracedBounds.ReadsUpTo 65535 [opening, lower, comma] number [closing]
      ⟨lower.value, some number.value⟩ where
  gives inRange := by
    have spellsLower : SpellsCount (some lower.value) [lower] :=
      ⟨lower, rfl, isLower.isCount lowerInRange⟩
    have spellsUpper : SpellsCount (some number.value) [number] :=
      ⟨number, rfl, isNumeral.isCount inRange⟩
    exact fun _ _ reads =>
      bracedBounds_between opens spellsLower isComma spellsUpper (by simpa using ordered) closes
        reads
  reports large := .behind (gives_accept opens) (.here fun _ =>
    .behind (gives_count isLower lowerInRange).optional
      (.behind (gives_accept isComma).optional (.bind (isNumeral.reports_count large).optional _)))

/-- Two numbers in range that are in the wrong order are reported together. -/
theorem reports_descending_bounds (isNumeral : number.IsNumeral) (opens : opening.kind = .openBrace)
    (isLower : lower.IsNumeral) (lowerInRange : lower.value ≤ 65535)
    (isComma : comma.kind = .comma) (descending : number.value < lower.value)
    {cursor after : Cursor} (reads : cursor.Reads [opening, lower, comma, number] after) :
    bracedBounds cursor = .fail (.ofFault .descendingBounds (lower.span.join number.span)) := by
  obtain ⟨afterOpening, readsOpening, reads⟩ := Cursor.reads_cons_iff.mp reads
  have start := reads.span_eq
  obtain ⟨afterLower, readsLower, reads⟩ := Cursor.reads_cons_iff.mp reads
  obtain ⟨afterComma, readsComma, readsNumber⟩ := Cursor.reads_cons_iff.mp reads
  have stop := readsNumber.previous
  rw [bracedBounds]
  refine bind_eq_fail_of_accept (gives_accept opens _ _ readsOpening) ?_
  rw [here_bind_apply, start]
  refine bind_eq_fail_of_accept ((gives_count isLower lowerInRange).optional _ _ readsLower) ?_
  refine bind_eq_fail_of_accept ((gives_accept isComma).optional _ _ readsComma) ?_
  refine bind_eq_fail_of_accept ((gives_count isNumeral (by omega)).optional _ _ readsNumber) ?_
  rw [previous_bind_apply, stop]
  simp only [Option.getD_some]
  rw [if_pos descending]
  rfl

/-! ### Bases -/

variable {word first dash last base : Lexeme}

theorem gives_radix (isNumeral : number.IsNumeral) (isBase : base.IsKeyword "base")
    (inRange : 2 ≤ number.value ∧ number.value ≤ 36) :
    radix.Gives [base, number] number.value := fun _ _ reads =>
  radix_eq_accept_iff.mpr
    ⟨base, number, isBase, ⟨isNumeral.1, isNumeral.word?_eq (by omega)⟩, inRange, reads⟩

/-- A base is read as a word, which holds more than there are bases. -/
theorem reports_radix (isNumeral : number.IsNumeral) (isBase : base.IsKeyword "base")
    (outOfRange : ¬(2 ≤ number.value ∧ number.value ≤ 36)) :
    radix.Reports [base] number
      (if number.value < 2 ^ 32 then .baseOutOfRange else .numberTooLarge) := by
  by_cases isWord : number.value < 2 ^ 32
  · rw [if_pos isWord]
    refine .behind (gives_keyword isBase) fun cursor after reads => ?_
    refine bind_eq_fail_of_accept (expectNumber_eq_accept_iff.mpr
      ⟨number, ⟨isNumeral.1, isNumeral.word?_eq isWord⟩, reads⟩) ?_
    rw [if_neg outOfRange, previous_bind_apply, reads.previous]
    rfl
  · rw [if_neg isWord]
    exact .behind (gives_keyword isBase) (.bind (isNumeral.reports_word (Nat.not_lt.mp isWord)) _)

theorem gives_numberRange (isNumeral : number.IsNumeral) (isRange : word.IsKeyword "range")
    (isFirst : first.kind = .string) (isDash : dash.kind = .dash) (isLast : last.kind = .string)
    (isBase : base.IsKeyword "base") (inRange : 2 ≤ number.value ∧ number.value ≤ 36) :
    numberRange.Gives [word, first, dash, last, base, number]
      (.numberRange (rawText first) (rawText last) number.value (word.span.join number.span)) := by
  intro cursor after reads
  obtain ⟨between, readsEnds, readsBase⟩ :=
    @Cursor.reads_append_iff cursor after [word, first, dash, last] [base, number] |>.mp reads
  have based := (gives_radix isNumeral isBase inRange).optional _ _ readsBase
  rw [numberRange_of_spells isRange isFirst isDash isLast readsEnds based, readsBase.previous]
  rfl

theorem reports_numberRange (isNumeral : number.IsNumeral) (isRange : word.IsKeyword "range")
    (isFirst : first.kind = .string) (isDash : dash.kind = .dash) (isLast : last.kind = .string)
    (isBase : base.IsKeyword "base") (outOfRange : ¬(2 ≤ number.value ∧ number.value ≤ 36)) :
    numberRange.Reports [word, first, dash, last, base] number
      (if number.value < 2 ^ 32 then .baseOutOfRange else .numberTooLarge) :=
  .behind (gives_keyword isRange) (.behind (gives_expect isFirst) (.behind (gives_expect isDash)
    (.behind (gives_expect isLast) (.bind (isNumeral.reports_radix isBase outOfRange).optional _))))

end Lexeme.IsNumeral

/-! ## Numbers of a source -/

theorem isNumeral_of_mem_lexemesOf {source : String} (short : utf8Size source.toList < 2 ^ 32)
    {lexeme : Lexeme} (member : lexeme ∈ lexemesOf source) (isNumber : lexeme.kind = .number) :
    lexeme.IsNumeral := by
  obtain ⟨more, isLexeme⟩ := isLexeme_of_mem_lexemesOf short member (by rw [isNumber]; rfl)
  rw [isNumber] at isLexeme
  refine ⟨isNumber, ?_⟩
  generalize lexeme.text.toList = text at isLexeme ⊢
  cases isLexeme with
  | operator spells => cases spells
  | number isDigit areDigits => exact ⟨_, _, rfl, isDigit, by simpa using areDigits⟩

/-- A numeral by itself is a source of one number, however long it is. -/
theorem lexemesOf_numeral {text : List Char} (isNumeral : Numeral.IsNumeral text)
    (short : utf8Size text < 2 ^ 32) : lexemesOf (String.ofList text) = [.at 0 .number text] := by
  obtain ⟨first, tail, rfl, isDigit, areDigits⟩ := isNumeral
  exact lexemesOf_ofList (.number isDigit (by simpa using areDigits) nofun) short

/-- Wherever a number may stand, it is stored as what its digits denote, or it is reported. -/
structure Lexeme.IsReadExactly (number : Lexeme) : Prop where
  exactBound : ∀ opening closing, opening.kind = .openBrace → closing.kind = .closeBrace →
    bracedBounds.ReadsUpTo 65535 [opening] number [closing] ⟨number.value, some number.value⟩
  leastBound : ∀ opening comma closing, opening.kind = .openBrace → comma.kind = .comma →
    closing.kind = .closeBrace →
    bracedBounds.ReadsUpTo 65535 [opening] number [comma, closing] ⟨number.value, none⟩
  greatestBound : ∀ opening comma closing, opening.kind = .openBrace → comma.kind = .comma →
    closing.kind = .closeBrace →
    bracedBounds.ReadsUpTo 65535 [opening, comma] number [closing] ⟨0, some number.value⟩
  /-- The second of two numbers that are in order. -/
  upperBound : ∀ opening lower comma closing, opening.kind = .openBrace → lower.IsNumeral →
    lower.value ≤ 65535 → comma.kind = .comma → closing.kind = .closeBrace →
    lower.value ≤ number.value →
    bracedBounds.ReadsUpTo 65535 [opening, lower, comma] number [closing]
      ⟨lower.value, some number.value⟩
  /-- The second of two numbers that are not in order is no less exact. -/
  descendingBounds : ∀ opening lower comma, opening.kind = .openBrace → lower.IsNumeral →
    lower.value ≤ 65535 → comma.kind = .comma → number.value < lower.value →
    ∀ cursor after, cursor.Reads [opening, lower, comma, number] after →
    bracedBounds cursor = .fail (.ofFault .descendingBounds (lower.span.join number.span))
  /-- A second number without a comma before it is read as well. -/
  unseparatedBound : ∀ opening lower, opening.kind = .openBrace → lower.IsNumeral →
    lower.value ≤ 65535 → 65535 < number.value →
    bracedBounds.Reports [opening, lower] number .numberTooLarge
  absoluteReference : ∀ mark, mark.kind = .doubleColon →
    reference.ReadsUpTo 65535 [mark] number []
      (.reference (.number number.value) (mark.span.join number.span))
  forwardReference : ∀ mark sign, mark.kind = .doubleColon → sign.kind = .plus →
    reference.ReadsUpTo (2 ^ 31 - 1) [mark, sign] number []
      (.reference (.relative (Int32.ofInt number.value)) (mark.span.join number.span))
  backwardReference : ∀ mark sign, mark.kind = .doubleColon → sign.kind = .dash →
    reference.ReadsUpTo (2 ^ 31 - 1) [mark, sign] number []
      (.reference (.relative (-Int32.ofInt number.value)) (mark.span.join number.span))
  /-- Neither the offset nor turning it around overflows. -/
  offset : number.value ≤ 2 ^ 31 - 1 → (Int32.ofInt number.value).toInt = number.value ∧
    (-Int32.ofInt number.value).toInt = -number.value
  captureNumber : ∀ colon text, colon.kind = .colon → text.kind = .string →
    capture.ReadsUpTo 65535 [] number [colon, text]
      ⟨.number number.value, number.span, text.literal⟩
  base : ∀ word first dash last base, word.IsKeyword "range" → first.kind = .string →
    dash.kind = .dash → last.kind = .string → base.IsKeyword "base" →
    (2 ≤ number.value ∧ number.value ≤ 36 →
      numberRange.Gives [word, first, dash, last, base, number]
        (.numberRange (rawText first) (rawText last) number.value (word.span.join number.span))) ∧
    (¬(2 ≤ number.value ∧ number.value ≤ 36) →
      numberRange.Reports [word, first, dash, last, base] number
        (if number.value < 2 ^ 32 then .baseOutOfRange else .numberTooLarge))

/-- Numbers are read exactly wherever they may stand, and those are the numbers of sources: a
digit with digits and underscores behind it. -/
theorem numerals_are_read_exactly :
    (∀ number : Lexeme, number.IsNumeral → number.IsReadExactly) ∧
      (∀ source : String, utf8Size source.toList < 2 ^ 32 → ∀ lexeme ∈ lexemesOf source,
        lexeme.kind = .number → lexeme.IsNumeral) ∧
      ∀ text : List Char, Numeral.IsNumeral text → utf8Size text < 2 ^ 32 →
        lexemesOf (String.ofList text) = [.at 0 .number text] := by
  refine ⟨fun number isNumeral => ?_, fun source short lexeme member isNumber =>
    isNumeral_of_mem_lexemesOf short member isNumber, fun text isNumeral short =>
    lexemesOf_numeral isNumeral short⟩
  constructor
  case exactBound =>
    intro opening closing opens closes
    exact isNumeral.reads_exact_bound opens closes
  case leastBound =>
    intro opening comma closing opens isComma closes
    exact isNumeral.reads_least_bound opens isComma closes
  case greatestBound =>
    intro opening comma closing opens isComma closes
    exact isNumeral.reads_greatest_bound opens isComma closes
  case upperBound =>
    intro opening lower comma closing opens isLower inRange isComma closes ordered
    exact isNumeral.reads_upper_bound opens isLower inRange isComma closes ordered
  case descendingBounds =>
    intro opening lower comma opens isLower inRange isComma descending cursor after reads
    exact isNumeral.reports_descending_bounds opens isLower inRange isComma descending reads
  case unseparatedBound =>
    intro opening lower opens isLower inRange large
    exact isNumeral.reports_unseparated_bound large opens isLower inRange
  case absoluteReference =>
    intro mark isMark
    exact isNumeral.reads_reference isMark
  case forwardReference =>
    intro mark sign isMark isPlus
    exact isNumeral.reads_forward_reference isMark isPlus
  case backwardReference =>
    intro mark sign isMark isDash
    exact isNumeral.reads_backward_reference isMark isDash
  case offset => exact toInt_offset
  case captureNumber =>
    intro colon text isColon isText
    exact isNumeral.reads_capture isColon isText
  case base =>
    intro word first dash last base isRange isFirst isDash isLast isBase
    exact ⟨isNumeral.gives_numberRange isRange isFirst isDash isLast isBase,
      isNumeral.reports_numberRange isRange isFirst isDash isLast isBase⟩

/-- The least number that is too large for a count, behind leading zeros. -/
theorem numerals_are_read_exactly_of_separated :
    (⟨.number, "00_65_5_36", ⟨2, 12⟩⟩ : Lexeme).value = 65536 ∧
      (⟨.number, "00_65_5_36", ⟨2, 12⟩⟩ : Lexeme).IsReadExactly ∧
      lexemesOf "00_65_5_36" = [⟨.number, "00_65_5_36", ⟨0, 10⟩⟩] := by
  have member : ⟨.number, "00_65_5_36", ⟨2, 12⟩⟩ ∈ lexemesOf "::00_65_5_36" := by
    have lexemes_eq : lexemesOf "::00_65_5_36" =
        [⟨.doubleColon, "::", ⟨0, 2⟩⟩, ⟨.number, "00_65_5_36", ⟨2, 12⟩⟩] := by decide +kernel
    rw [lexemes_eq]
    simp
  have isNumeral := numerals_are_read_exactly.2.1 "::00_65_5_36" (by decide) _ member rfl
  exact ⟨by decide, numerals_are_read_exactly.1 _ isNumeral,
    numerals_are_read_exactly.2.2 "00_65_5_36".toList isNumeral.2 (by decide)⟩

end PatternSyntax
