import PatternSyntax.Proofs.Numerals

/-!
# Code points of a source

A code point is the letter `U`, a plus sign and hexadecimal digits, with any blanks on either
side of the sign. Three readers see it: one looks ahead whether it is there, one measures it,
and one takes its digits out again. They agree on where the digits begin and end, so that a
code point stands for the character whose code its digits denote. Where they denote none, the
code point is reported, however many digits there are.
-/

namespace PatternSyntax

open Grammar Recognition Text
open PatternSyntax.Parser

/-- The code belongs to a character: it is within the last plane and no surrogate. -/
def IsScalarCode (code : Nat) : Prop :=
  code ≤ 0x10FFFF ∧ ¬(0xD800 ≤ code ∧ code ≤ 0xDFFF)

instance (code : Nat) : Decidable (IsScalarCode code) :=
  inferInstanceAs (Decidable (_ ∧ _))

theorem isScalarCode_iff {code : Nat} : IsScalarCode code ↔ code.isValidChar := by
  unfold IsScalarCode Nat.isValidChar
  omega

theorem isScalarCode_toNat (c : Char) : IsScalarCode c.toNat :=
  isScalarCode_iff.mpr c.valid

theorem scalar?_eq_some_iff {code : Nat} {c : Char} : scalar? code = some c ↔ code = c.toNat := by
  constructor
  · intro found
    unfold scalar? at found
    split at found
    · rename_i valid
      rw [Option.some.injEq, Char.ofNat, dif_pos valid] at found
      rw [← found]
      rfl
    · cases found
  · rintro rfl
    have valid : c.toNat.isValidChar := c.valid
    rw [scalar?, if_pos valid, Char.ofNat_toNat]

theorem exists_toNat_eq {code : Nat} (isScalar : IsScalarCode code) : ∃ c : Char, c.toNat = code :=
  ⟨Char.ofNat code, (scalar?_eq_some_iff.mp (if_pos (isScalarCode_iff.mp isScalar))).symm⟩

theorem scalar?_eq_none {code : Nat} (notScalar : ¬IsScalarCode code) : scalar? code = none :=
  if_neg fun valid => notScalar (isScalarCode_iff.mpr valid)

/-! ## Written code points -/

/-- The text of a code point, with blanks before and after the sign. -/
def codePointText (before after digits : List Char) : List Char :=
  'U' :: (before ++ '+' :: (after ++ digits))

/-- The lexeme that the code point is at the beginning of a source. -/
def codePointLexeme (before after digits : List Char) : Lexeme where
  kind := .codePoint
  text := String.ofList (codePointText before after digits)
  span := .ofOffsets 0 (utf8Size (codePointText before after digits))

theorem at_codePointText (before after digits : List Char) :
    Lexeme.at 0 .codePoint (codePointText before after digits) =
      codePointLexeme before after digits := by
  rw [Lexeme.at, Nat.zero_add]
  rfl

/-- The texts make up a code point: blanks, blanks and hexadecimal digits. -/
structure SpellsCodePoint (before after digits : List Char) : Prop where
  beforeBlank : ∀ c ∈ before, isBlank c
  afterBlank : ∀ c ∈ after, isBlank c
  nonempty : digits ≠ []
  areDigits : ∀ c ∈ digits, c.isHexDigit

namespace SpellsCodePoint

variable {before after digits : List Char}

/-- The first hexadecimal digit of the text is the first of its digits. -/
theorem codePointChar?_eq (spells : SpellsCodePoint before after digits) :
    codePointChar? (codePointText before after digits) = scalar? (Numeral.denoted 16 digits) := by
  have notDigit {blanks : List Char} (areBlank : ∀ c ∈ blanks, isBlank c) :
      ∀ c ∈ blanks, (!c.isHexDigit) = true := by
    intro c member
    cases isHex : c.isHexDigit with
    | false => rfl
    | true =>
      have notBlank := isBlank_of_isHexDigit isHex
      rw [areBlank c member] at notBlank
      cases notBlank
  have front : ∀ c ∈ 'U' :: (before ++ '+' :: after), (!c.isHexDigit) = true := by
    rw [List.forall_mem_cons, List.forall_mem_append, List.forall_mem_cons]
    exact ⟨rfl, notDigit spells.beforeBlank, rfl, notDigit spells.afterBlank⟩
  have ends : ∀ c ∈ digits.head?, (!c.isHexDigit) = false := by
    intro c first
    simp [spells.areDigits c (List.mem_of_mem_head? first)]
  have dropped :
      (codePointText before after digits).dropWhile (fun c => !c.isHexDigit) = digits := by
    have split : codePointText before after digits = 'U' :: (before ++ '+' :: after) ++ digits := by
      simp [codePointText]
    rw [split]
    exact dropWhile_append_eq_right front ends
  have read : Numeral.hexadecimal? digits = some (Numeral.denoted 16 digits) := by
    have areDigits : digits.all Char.isHexDigit := List.all_eq_true.mpr spells.areDigits
    simp [Numeral.hexadecimal?, areDigits, spells.nonempty,
      Numeral.valueIn_eq_denoted spells.areDigits]
  rw [codePointChar?, dropped, read, Option.bind_some]

theorem recognizes (spells : SpellsCodePoint before after digits) {rest : List Char}
    (ends : ∀ c ∈ rest.head?, c.isHexDigit = false) :
    Recognizes 'U' (before ++ '+' :: (after ++ digits)) rest .codePoint :=
  .codePoint rfl spells.beforeBlank spells.afterBlank spells.nonempty spells.areDigits ends

end SpellsCodePoint

theorem exists_spellsCodePoint {source : String} (short : utf8Size source.toList < 2 ^ 32)
    {lexeme : Lexeme} (member : lexeme ∈ lexemesOf source)
    (isCodePoint : lexeme.kind = .codePoint) :
    ∃ before after digits, SpellsCodePoint before after digits ∧
      lexeme.text.toList = codePointText before after digits := by
  obtain ⟨more, isLexeme⟩ := isLexeme_of_mem_lexemesOf short member (by rw [isCodePoint]; rfl)
  rw [isCodePoint] at isLexeme
  generalize lexeme.text.toList = text at isLexeme ⊢
  cases isLexeme with
  | operator spells => cases spells
  | codePoint beforeBlank afterBlank nonempty areDigits =>
    exact ⟨_, _, _, ⟨beforeBlank, afterBlank, nonempty, areDigits⟩, rfl⟩

/-! ## Exactness -/

theorem gives_codePoint {lexeme : Lexeme} {c : Char} (isCodePoint : lexeme.kind = .codePoint)
    (readable : codePointChar? lexeme.text.toList = some c) :
    codePoint.Gives [lexeme] (c, lexeme.span) :=
  fun _ _ reads => codePoint_eq_accept_iff.mpr ⟨lexeme, ⟨isCodePoint, readable, rfl⟩, reads⟩

theorem reports_codePoint {lexeme : Lexeme} (isCodePoint : lexeme.kind = .codePoint)
    (unreadable : codePointChar? lexeme.text.toList = none) :
    codePoint.Reports [] lexeme .noSuchCharacter := by
  intro cursor after reads
  refine bind_eq_fail_of_accept (accept_eq_accept_iff.mpr ⟨isCodePoint, reads⟩) ?_
  rw [unreadable]
  rfl

/-- The code point is the first token of the source that it begins, and it is read as the
character with the code that its digits denote, or it is reported. -/
structure IsDecodedExactly (before after digits rest : List Char) : Prop where
  token : ∃ token, (tokenize (String.ofList (codePointText before after digits ++ rest))).head? =
    some token ∧ token.kind = .codePoint ∧
      token.span = .ofOffsets 0 (utf8Size (codePointText before after digits)) ∧
      token.lexeme (String.ofList (codePointText before after digits ++ rest)) =
        codePointLexeme before after digits
  character : IsScalarCode (Numeral.denoted 16 digits) →
    ∃ c : Char, c.toNat = Numeral.denoted 16 digits ∧
      codePoint.Gives [codePointLexeme before after digits]
        (c, (codePointLexeme before after digits).span)
  report : ¬IsScalarCode (Numeral.denoted 16 digits) →
    codePoint.Reports [] (codePointLexeme before after digits) .noSuchCharacter

namespace SpellsCodePoint

variable {before after digits : List Char}

theorem codePointChar?_lexeme (spells : SpellsCodePoint before after digits) :
    codePointChar? (codePointLexeme before after digits).text.toList =
      scalar? (Numeral.denoted 16 digits) := by
  rw [codePointLexeme, String.toList_ofList, spells.codePointChar?_eq]

theorem isDecodedExactly (spells : SpellsCodePoint before after digits) {rest : List Char}
    (ends : ∀ c ∈ rest.head?, c.isHexDigit = false)
    (short : utf8Size (codePointText before after digits ++ rest) < 2 ^ 32) :
    IsDecodedExactly before after digits rest := by
  constructor
  case token =>
    refine ⟨_, head?_tokenize (spells.recognizes ends), rfl, rfl, ?_⟩
    have lexeme_eq := @Token.lexeme_eq (String.ofList (codePointText before after digits ++ rest))
      [] (codePointText before after digits) rest .codePoint String.toList_ofList
      (by rwa [String.toList_ofList])
    rwa [utf8Size_nil, Nat.zero_add, at_codePointText] at lexeme_eq
  case character =>
    intro isScalar
    obtain ⟨c, code_eq⟩ := exists_toNat_eq isScalar
    refine ⟨c, code_eq, gives_codePoint rfl ?_⟩
    rw [spells.codePointChar?_lexeme, scalar?_eq_some_iff, code_eq]
  case report =>
    intro notScalar
    exact reports_codePoint rfl (spells.codePointChar?_lexeme.trans (scalar?_eq_none notScalar))

/-- The code point by itself is parsed as the character that its digits denote. -/
theorem parse_eq (spells : SpellsCodePoint before after digits) {c : Char}
    (denotes : Numeral.denoted 16 digits = c.toNat)
    (short : utf8Size (codePointText before after digits) < 2 ^ 32) {options : Options}
    (enough : 0 < options.maxDepth) :
    parse (String.ofList (codePointText before after digits)) options =
      .ok (.charClass (.singleton c options.modes.unicode
        (codePointLexeme before after digits).span)) := by
  have lexemes_eq : lexemesOf (String.ofList (codePointText before after digits)) =
      [codePointLexeme before after digits] :=
    (lexemesOf_ofList (spells.recognizes nofun) short).trans
      (congrArg List.singleton (at_codePointText before after digits))
  have readable : codePointChar? (codePointLexeme before after digits).text.toList = some c := by
    rw [spells.codePointChar?_lexeme, scalar?_eq_some_iff, denotes]
  refine (parse_eq_ok_iff (by rwa [String.toList_ofList])).mpr ⟨?_, ?_, rfl, enough⟩
  · rw [isClean_iff, lexemes_eq]
    exact List.forall_mem_singleton.mpr rfl
  · rw [lexemes_eq]
    exact .of_atom (.codePoint rfl readable)

end SpellsCodePoint

/-! ## Writing characters -/

theorem utf8Size_le (text : List Char) : utf8Size text ≤ 4 * text.length := by
  induction text with
  | nil => exact Nat.le_refl _
  | cons c text inductionHypothesis =>
    have size := Char.utf8Size_le_four c
    rw [utf8Size_cons, List.length_cons]
    omega

/-- A way to write the sixteen digits. -/
def WritesDigits (write : Char → Char) : Prop :=
  ∀ value < 16, (write value.digitChar).isHexDigit ∧
    Numeral.digitValue (write value.digitChar) = value

theorem writesDigits_id : WritesDigits id := by
  unfold WritesDigits
  decide

theorem writesDigits_toUpper : WritesDigits Char.toUpper := by
  unfold WritesDigits
  decide

/-- A character is read again from the digits of its code. -/
theorem parse_character {write : Char → Char} (writes : WritesDigits write) (c : Char)
    {options : Options} (enough : 0 < options.maxDepth) :
    parse (String.ofList (codePointText [] [] ((Nat.toDigits 16 c.toNat).map write))) options =
      .ok (.charClass (.singleton c options.modes.unicode
        (codePointLexeme [] [] ((Nat.toDigits 16 c.toNat).map write)).span)) := by
  have areDigits : ∀ digit ∈ (Nat.toDigits 16 c.toNat).map write, digit.isHexDigit :=
    List.forall_mem_map.mpr
      (forall_mem_toDigits (by decide) (fun value small => (writes value small).1) c.toNat)
  have denotes : Numeral.denoted 16 ((Nat.toDigits 16 c.toNat).map write) = c.toNat := by
    rw [← Numeral.valueIn_eq_denoted areDigits]
    exact valueIn_toDigits (by decide) (fun value small => (writes value small).2) c.toNat
  have spells : SpellsCodePoint [] [] ((Nat.toDigits 16 c.toNat).map write) :=
    ⟨nofun, nofun, by simp, areDigits⟩
  refine spells.parse_eq denotes ?_ enough
  have lastPlane := (isScalarCode_toNat c).1
  have few := Nat.toDigits_length 16 c.toNat 6 (by decide) (by omega)
  have size := utf8Size_le (codePointText [] [] ((Nat.toDigits 16 c.toNat).map write))
  simp only [codePointText, List.nil_append, List.length_cons, List.length_map] at size ⊢
  omega

/-- Code points are decoded exactly. So every character can be written as a code point, in
digits of either case. -/
theorem code_points_are_decoded_exactly :
    (∀ before after digits rest : List Char, (∀ c ∈ before, isBlank c) → (∀ c ∈ after, isBlank c) →
        digits ≠ [] → (∀ c ∈ digits, c.isHexDigit) → (∀ c ∈ rest.head?, c.isHexDigit = false) →
        utf8Size (codePointText before after digits ++ rest) < 2 ^ 32 →
        IsDecodedExactly before after digits rest) ∧
      ∀ (c : Char) (options : Options), 0 < options.maxDepth →
        parse (String.ofList ('U' :: '+' :: Nat.toDigits 16 c.toNat)) options =
            .ok (.charClass (.singleton c options.modes.unicode
              (.ofOffsets 0 (utf8Size ('U' :: '+' :: Nat.toDigits 16 c.toNat))))) ∧
          parse (String.ofList ('U' :: '+' :: (Nat.toDigits 16 c.toNat).map Char.toUpper)) options =
            .ok (.charClass (.singleton c options.modes.unicode (.ofOffsets 0
              (utf8Size ('U' :: '+' :: (Nat.toDigits 16 c.toNat).map Char.toUpper))))) := by
  constructor
  · intro before after digits rest beforeBlank afterBlank nonempty areDigits ends short
    exact SpellsCodePoint.isDecodedExactly ⟨beforeBlank, afterBlank, nonempty, areDigits⟩ ends short
  · intro c options enough
    have lower := parse_character writesDigits_id c enough
    rw [List.map_id] at lower
    exact ⟨lower, parse_character writesDigits_toUpper c enough⟩

/-- A face behind blanks and zeros, and a code with one digit too many for a character. -/
theorem code_points_are_decoded_exactly_of_face :
    (IsDecodedExactly [' '] ['\t', '\n'] ['0', '0', '1', 'f', '6', '0', '0'] ['!'] ∧
        IsScalarCode (Numeral.denoted 16 ['0', '0', '1', 'f', '6', '0', '0'])) ∧
      (IsDecodedExactly [] [] ['1', '0', '0', '0', '0', '0', '0', '4', '1'] [] ∧
        ¬IsScalarCode (Numeral.denoted 16 ['1', '0', '0', '0', '0', '0', '0', '4', '1'])) ∧
      parse "U+1f600" {} = .ok (.charClass (.singleton '😀' true ⟨0, 7⟩)) := by
  refine ⟨⟨?_, by decide⟩, ⟨?_, by decide⟩, ?_⟩
  · have tab : isBlank '\t' := isBlank_of_ascii (by decide)
    have lineBreak : isBlank '\n' := isBlank_of_ascii (by decide)
    exact code_points_are_decoded_exactly.1 _ _ _ _ (by simp [isBlank_space])
      (by simp [tab, lineBreak]) (by decide) (by simp [Char.isHexDigit]) (by simp [Char.isHexDigit])
      (by decide)
  · exact code_points_are_decoded_exactly.1 _ _ _ _ (by simp) (by simp) (by decide)
      (by simp [Char.isHexDigit]) (by simp) (by decide)
  · exact (code_points_are_decoded_exactly.2 '😀' {} (by decide)).1

end PatternSyntax
