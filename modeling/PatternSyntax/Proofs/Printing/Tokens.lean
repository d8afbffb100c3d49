import PatternSyntax.Proofs.Printing.Printer
import PatternSyntax.Proofs.Segmentation.Trivia
import PatternSyntax.Proofs.Sources

/-!
# Words as tokens

When a word is written and something else behind it, the word is a token again if
what comes next does not go on with it. Whether it does is seen from the next
character and the kind of the token. Names and numbers have to be followed by
something that is no part of a name; an operator that is the first half of another
one has to be followed by something else. A space is good behind every word.
-/

namespace PatternSyntax

open Recognition Text Piece

/-- A character that begins with a token of the kind does not go on with it. -/
def TokenKind.endsBefore (next : Char) : TokenKind → Bool
  | .identifier | .reservedName | .number | .codePoint => !isWordChar next
  | .angleLeft | .angleRight | .colon => next != '<' && next != '>' && next != ':'
  | _ => true

/-- The text is a token of the kind by itself. The letter that begins a code point is
left out, because it could go on over a blank. -/
def IsToken (kind : TokenKind) (text : List Char) : Prop :=
  text ≠ ['U'] ∧ ∃ first tail, text = first :: tail ∧ Recognizes first tail [] kind

/-! ## Characters -/

theorem isWordChar_of_isHexDigit {c : Char} (isHex : c.isHexDigit) : isWordChar c := by
  have inside := forall_ascii (p := fun c => !c.isHexDigit || isWordChar c) (by decide +kernel)
    (toNat_lt_of_isHexDigit isHex)
  simpa [isHex] using inside

theorem isBlank_space : isBlank ' ' :=
  isBlank_of_ascii (by decide)

theorem isHexDigit_of_isDigit {c : Char} (isDigit : c.isDigit) : c.isHexDigit := by
  simp [Char.isHexDigit, isDigit]

theorem isHexDigit_eq_false {c : Char} (notWord : isWordChar c = false) : c.isHexDigit = false :=
  Bool.eq_false_iff.mpr fun isHex => by simp [isWordChar_of_isHexDigit isHex] at notWord

theorem isDigit_or_underscore_eq_false {c : Char} (notWord : isWordChar c = false) :
    (c.isDigit || c == '_') = false := by
  rw [Bool.or_eq_false_iff]
  constructor
  · apply Bool.eq_false_iff.mpr
    intro isDigit
    simp [isWordChar_of_isHexDigit (isHexDigit_of_isDigit isDigit)] at notWord
  · apply beq_eq_false_iff_ne.mpr
    rintro rfl
    simp [isWordChar, isWordStart] at notWord

/-- No code point begins where a name goes on. -/
theorem codePoint?_eq_none {first c : Char} (wordChar : isWordChar c) (rest : List Char) :
    codePoint? first (c :: rest) = none := by
  apply Option.eq_none_iff_forall_ne_some.mpr
  intro count found
  unfold codePoint? at found
  split at found
  · obtain ⟨before, after, digits, more, split, beforeBlank, -⟩ := codePointTail?_eq_some_iff.mp found
    cases before with
    | nil =>
      obtain ⟨rfl, -⟩ := List.cons_eq_cons.mp split
      rw [isWordChar_of_ascii (by decide)] at wordChar
      cases wordChar
    | cons blank before =>
      obtain ⟨rfl, -⟩ := List.cons_eq_cons.mp split
      simp [isWordChar_of_isBlank (beforeBlank c List.mem_cons_self)] at wordChar
  · cases found

theorem endsBefore_of_ofChar? {first next : Char} {kind : TokenKind}
    (spells : TokenKind.ofChar? first = some kind) (ends : kind.endsBefore next) :
    TokenKind.ofPair? first next = none := by
  apply Option.eq_none_iff_forall_ne_some.mpr
  intro pair found
  unfold TokenKind.ofPair? at found
  split at found
  · cases spells
    simp [TokenKind.endsBefore] at ends
  · cases spells
    simp [TokenKind.endsBefore] at ends
  · cases spells
    simp [TokenKind.endsBefore] at ends
  · cases found

/-- A token stays what it is when something is written behind it that does not go on
with it. -/
theorem IsToken.recognizes {kind : TokenKind} {first : Char} {tail more : List Char}
    (isToken : IsToken kind (first :: tail)) (ends : ∀ c ∈ more.head?, kind.endsBefore c) :
    Recognizes first tail more kind := by
  obtain ⟨notLetter, _, _, same, recognizes⟩ := isToken
  obtain ⟨rfl, rfl⟩ := List.cons_eq_cons.mp same
  cases recognizes with
  | pair spells => exact .pair spells
  | single _ spells =>
    refine .single ?_ spells
    cases more with
    | nil => rfl
    | cons c more => exact endsBefore_of_ofChar? spells (ends c rfl)
  | singleQuoted opens free => exact .singleQuoted opens free
  | doubleQuoted opens escaped => exact .doubleQuoted opens escaped
  | codePoint isLetter beforeBlank afterBlank nonempty areDigits _ =>
    refine .codePoint isLetter beforeBlank afterBlank nonempty areDigits fun c next => ?_
    exact isHexDigit_eq_false (by simpa [TokenKind.endsBefore] using ends c next)
  | number isDigit areDigits _ =>
    refine .number isDigit areDigits fun c next => ?_
    exact isDigit_or_underscore_eq_false (by simpa [TokenKind.endsBefore] using ends c next)
  | word isStart _ areWordChars _ =>
    have ends : ∀ c ∈ more.head?, isWordChar c = false := by
      intro c next
      have atNext := ends c next
      split at atNext
      · simpa [TokenKind.endsBefore] using atNext
      · simpa [TokenKind.endsBefore] using atNext
    refine .word isStart ?_ areWordChars ends
    cases tail with
    | nil =>
      unfold codePoint?
      rw [if_neg fun isLetter => notLetter (by rw [isLetter])]
    | cons c tail => exact codePoint?_eq_none (areWordChars c List.mem_cons_self) (tail ++ more)

/-! ## Blanks -/

theorem triviaLength_eq_zero_of_ofChar? {first : Char} {kind : TokenKind}
    (spells : TokenKind.ofChar? first = some kind) (rest : List Char) :
    triviaLength (first :: rest) = 0 := by
  have apart := forall_ascii (p := fun c => TokenKind.ofChar? c = none || (!isBlank c && c != '#'))
    (by decide +kernel) (toNat_lt_of_ofChar? spells)
  rw [triviaLength_cons_eq_zero_iff]
  simpa [spells] using apart

/-- No token begins with a blank or a comment. -/
theorem Recognition.Recognizes.triviaLength_eq_zero {first : Char} {tail more : List Char}
    {kind : TokenKind} (recognizes : Recognizes first tail more kind) (rest : List Char) :
    triviaLength (first :: rest) = 0 := by
  cases recognizes with
  | pair spells =>
    obtain ⟨single, spells⟩ := apart_of_ofPair? spells
    exact triviaLength_eq_zero_of_ofChar? spells rest
  | single _ spells => exact triviaLength_eq_zero_of_ofChar? spells rest
  | singleQuoted opens _ =>
    rw [triviaLength_cons_eq_zero_iff, opens]
    exact ⟨isBlank_of_ascii (by decide), by decide⟩
  | doubleQuoted opens _ =>
    rw [triviaLength_cons_eq_zero_iff, opens]
    exact ⟨isBlank_of_ascii (by decide), by decide⟩
  | codePoint isLetter _ _ _ _ _ =>
    rw [triviaLength_cons_eq_zero_iff, isLetter]
    exact ⟨isBlank_of_ascii (by decide), by decide⟩
  | number isDigit _ _ =>
    rw [triviaLength_cons_eq_zero_iff]
    refine ⟨isBlank_of_isHexDigit (isHexDigit_of_isDigit isDigit), ?_⟩
    rintro rfl
    cases isDigit
  | word isStart _ _ _ =>
    rw [triviaLength_cons_eq_zero_iff]
    constructor
    · apply Bool.eq_false_iff.mpr
      intro blank
      have notWord := isWordChar_of_isBlank blank
      simp [isWordChar_of_isWordStart isStart] at notWord
    · rintro rfl
      rw [isWordStart_of_ascii (by decide)] at isStart
      cases isStart

theorem Scans.space {position : Nat} {text : List Char} {lexemes : List Lexeme}
    (scans : Scans (position + 1) text lexemes) : Scans position (' ' :: text) lexemes :=
  .behind (.blank isBlank_space .nil) scans

/-! ## Pieces -/

namespace Piece

/-- The kinds and the texts of the words. -/
def words : List Piece → List (TokenKind × String)
  | [] => []
  | .space :: rest => words rest
  | .word kind text :: rest => (kind, String.ofList text) :: words rest

/-- Every word ends where the next piece begins. -/
def IsChained : List Piece → Prop
  | [] => True
  | .space :: rest => IsChained rest
  | .word kind _ :: rest => (∀ c ∈ (textOf rest).head?, kind.endsBefore c) ∧ IsChained rest

end Piece

/-- The kind and the text of a lexeme. -/
def Lexeme.word (lexeme : Lexeme) : TokenKind × String :=
  (lexeme.kind, lexeme.text)

/-- Pieces that are chained fall into their words. -/
theorem exists_scans {pieces : List Piece}
    (tokens : ∀ kind text, .word kind text ∈ pieces → IsToken kind text)
    (chained : IsChained pieces) (position : Nat) :
    ∃ lexemes, Scans position (textOf pieces) lexemes ∧
      lexemes.map Lexeme.word = words pieces := by
  induction pieces generalizing position with
  | nil => exact ⟨[], .done rfl, rfl⟩
  | cons piece rest inductionHypothesis =>
    have tokensRest := fun kind text member => tokens kind text (List.mem_cons_of_mem _ member)
    cases piece with
    | space =>
      obtain ⟨lexemes, scans, same⟩ := inductionHypothesis tokensRest chained (position + 1)
      exact ⟨lexemes, scans.space, same⟩
    | word kind text =>
      obtain ⟨ends, chained⟩ := chained
      have isToken := tokens kind text List.mem_cons_self
      obtain ⟨-, first, tail, rfl, -⟩ := id isToken
      obtain ⟨lexemes, scans, same⟩ :=
        inductionHypothesis tokensRest chained (position + utf8Size (first :: tail))
      have recognizes := isToken.recognizes ends
      refine ⟨.at position kind (first :: tail) :: lexemes, ?_, ?_⟩
      · exact @Scans.lexeme position [] tail (textOf rest) first kind lexemes
          (recognizes.triviaLength_eq_zero _) recognizes.recognize_eq scans
      · rw [List.map_cons, same]
        rfl

end PatternSyntax
