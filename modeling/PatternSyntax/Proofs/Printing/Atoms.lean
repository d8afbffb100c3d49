import PatternSyntax.Proofs.Printing.Rewriting

/-!
# Printed atoms

Every atom, and all that opens a group or repeats a pattern, is rewritten by what it
is printed as. Numbers stay in the range that the source allowed, and the names of
the source are names again.
-/

namespace PatternSyntax

open Grammar PatternSyntax.Parser Recognition Text Piece Rewrites

variable {lexemes : List Lexeme}

theorem Parser.Each.map {α β : Type} {spells : α → List Lexeme → Prop} {f : β → α} {values : List β}
    (each : Each (fun value => spells (f value)) values lexemes) :
    Each spells (values.map f) lexemes := by
  induction each with
  | nil => exact .nil
  | cons head _ inductionHypothesis => exact .cons head inductionHypothesis

/-- An exclamation mark that may be left out. -/
theorem Rewrites.append_bang {negative : Bool} {pieces : List Piece} {holds : List Lexeme → Prop}
    (rewrites : Rewrites pieces holds) :
    Rewrites ((if negative then [operator .bang] else []) ++ pieces) fun written =>
      ∃ (bang : Option Lexeme) (more : List Lexeme), written = bang.toList ++ more ∧
        (∀ lexeme ∈ bang, lexeme.kind = .bang) ∧ bang.isSome = negative ∧ holds more := by
  cases negative with
  | false =>
    refine rewrites.mono ?_
    intro written spelled
    exact ⟨none, written, rfl, nofun, rfl, spelled⟩
  | true =>
    refine (cons_operator rfl (fun _ _ => rfl) rewrites).mono ?_
    rintro _ ⟨bang, more, rfl, isBang, spelled⟩
    refine ⟨some bang, more, rfl, ?_, rfl, spelled⟩
    rintro _ ⟨⟩
    exact isBang

namespace Grammar

/-! ## Character classes -/

/-- The item as a part of a class by itself. -/
def RespellsItem : ClassItem → List Lexeme → Prop :=
  Respells (fun item => SpellsItems [item]) (·.mapSpans fun _ => .absent)

theorem rewrites_char (c : Char) : Rewrites (ClassItem.char c).pieces (RespellsItem (.char c)) := by
  refine (cons_codePoint head?_nil nil).mono ?_
  rintro _ ⟨lexeme, _, rfl, spells, rfl⟩
  exact ⟨.char c, .unit spells, rfl⟩

theorem SpellsItems.rewrites {items : List ClassItem} (spells : SpellsItems items lexemes)
    (scanned : ∀ lexeme ∈ lexemes, lexeme.IsScanned) :
    ∀ item ∈ items, Rewrites item.pieces (RespellsItem item) := by
  cases spells with
  | @unit unit _ spells =>
    intro item isIn
    obtain ⟨c, rfl⟩ : ∃ c, item = .char c := by
      cases unit with
      | char c => exact ⟨c, List.mem_singleton.mp isIn⟩
      | text content =>
        obtain ⟨c, -, rfl⟩ := List.mem_map.mp isIn
        exact ⟨c, rfl⟩
    exact rewrites_char c
  | range _ _ _ _ _ ordered =>
    intro item isIn
    obtain rfl := List.mem_singleton.mp isIn
    refine (cons_codePoint (ends_operator (by decide) _ _) (cons_operator rfl (fun _ _ => rfl)
      (cons_codePoint head?_nil nil))).mono ?_
    rintro _ ⟨first, _, rfl, spellsFirst, dash, _, rfl, isDash, last, _, rfl, spellsLast, rfl⟩
    exact ⟨_, .range spellsFirst (.inl rfl) isDash spellsLast (.inl rfl) ordered, rfl⟩
  | @named bang name isBang isName ordinary =>
    intro item isIn
    obtain rfl := List.mem_singleton.mp isIn
    obtain ⟨isToken, -⟩ := (scanned name (by simp)).identifier isName
    rw [ClassItem.pieces, List.append_assoc]
    refine (append_bang (cons_identifier isToken head?_nil nil)).mono ?_
    rintro _ ⟨otherBang, _, rfl, areBangs, sameBang, other, _, rfl, ⟨otherName, text_eq⟩, rfl⟩
    have written := SpellsItems.named areBangs otherName (by rw [text_eq]; exact ordinary)
    rw [text_eq, sameBang] at written
    exact ⟨_, written, rfl⟩
  | @qualified bang qualifier colon name isBang isQualifier ordinary isColon isName =>
    intro item isIn
    obtain rfl := List.mem_singleton.mp isIn
    obtain ⟨qualifierToken, -⟩ := (scanned qualifier (by simp)).identifier isQualifier
    obtain ⟨nameToken, nameStarts⟩ := (scanned name (by simp)).identifier isName
    have rewritesName := cons_colon nameStarts (cons_identifier nameToken head?_nil nil)
    rw [ClassItem.pieces, List.append_assoc]
    refine (append_bang (cons_identifier qualifierToken (ends_colon (.inl rfl) _)
      rewritesName)).mono ?_
    rintro _ ⟨otherBang, _, rfl, areBangs, sameBang, other, _, rfl, ⟨otherQualifier, text_eq⟩,
      otherColon, _, rfl, areColons, last, _, rfl, ⟨otherName, name_eq⟩, rfl⟩
    have written := SpellsItems.qualified areBangs otherQualifier
      (by rw [text_eq]; exact ordinary) areColons otherName
    rw [text_eq, name_eq, sameBang] at written
    exact ⟨_, written, rfl⟩

/-- The class, of which every item is rewritten, is rewritten as a class. -/
theorem rewrites_charClass {members : CharClass}
    (items : ∀ item ∈ members.items, Rewrites item.pieces (RespellsItem item)) :
    Rewrites members.pieces
      (Respells (SpellsClass members.unicode) (·.mapSpans fun _ => .absent) members) := by
  obtain ⟨first, more, split⟩ := List.exists_cons_of_ne_nil members.items_ne_nil
  rw [split] at items
  obtain ⟨rewritesFirst, rewritesMore⟩ := List.forall_mem_cons.mp items
  have rewritesNext : Rewrites (more.flatMap fun item => [.space] ++ item.pieces)
      (Respells (Each fun item => SpellsItems [item]) (List.map (·.mapSpans fun _ => .absent)) more) :=
    .flatMap (fun item isIn => cons_space (rewritesMore item isIn))
      fun item _ => neutral_space item.pieces
  have rewritesAll := rewritesFirst.append_neutral rewritesNext
    (head?_flatMap fun item _ => neutral_space item.pieces)
  have rewritesClosing : Rewrites [operator .closeBracket] _ :=
    cons_operator rfl (fun _ _ => rfl) nil
  rw [CharClass.pieces, split, List.map_cons, separated, List.flatMap_map, List.append_assoc]
  refine (cons_operator rfl (fun _ _ => rfl) (rewritesAll.append_neutral rewritesClosing
    (neutral_operator (by decide) _))).mono ?_
  rintro _ ⟨opening, _, rfl, opens, _, _, rfl, ⟨_, _, rfl, ⟨other, spells, same⟩, others, each,
    sameMore⟩, closing, _, rfl, closes, rfl⟩
  have parts : Each (fun item => SpellsItems [item]) (other :: others) _ := .cons spells each
  refine ⟨_, .brackets opens parts.map (by simp) closes, ?_⟩
  have flatten_eq : ((other :: others).map fun item => [item]).flatten = other :: others := by
    rw [← List.flatMap_def, List.flatMap_singleton']
  have items_eq : (other :: others).map (·.mapSpans fun _ => .absent) =
      members.items.map (·.mapSpans fun _ => .absent) := by
    rw [split, List.map_cons, List.map_cons, sameMore]
    exact congrArg (· :: _) same
  simp only [CharClass.mapSpans, flatten_eq, items_eq]

/-! ## Groups and repetitions -/

theorem SpellsOpening.rewrites {kind : GroupKind} (spells : SpellsOpening kind lexemes)
    (scanned : ∀ lexeme ∈ lexemes, lexeme.IsScanned) : Rewrites kind.pieces (SpellsOpening kind) := by
  have opening : Rewrites [operator .openParen] fun written => ∃ lexeme more,
      written = lexeme :: more ∧ lexeme.kind = .openParen ∧ more = [] :=
    cons_operator rfl (fun _ _ => rfl) nil
  cases spells with
  | plain _ =>
    refine opening.mono ?_
    rintro _ ⟨opening, _, rfl, opens, rfl⟩
    exact .plain opens
  | capturing _ _ =>
    refine (cons_operator rfl (ends_operator (by decide) _ _) opening).mono ?_
    rintro _ ⟨colon, _, rfl, isColon, opening, _, rfl, opens, rfl⟩
    exact .capturing isColon opens
  | @named colon name _ isColon isName alphanumeric short _ =>
    obtain ⟨isToken, starts⟩ := (scanned name (by simp)).identifier isName
    refine (cons_colon starts (cons_identifier isToken (ends_operator (by decide) _ _) opening)).mono ?_
    rintro _ ⟨colon, _, rfl, isColon, other, _, rfl, ⟨otherName, text_eq⟩, opening, _, rfl, opens, rfl⟩
    have written := SpellsOpening.named isColon otherName (by rw [text_eq]; exact alphanumeric)
      (by rw [text_eq]; exact short) opens
    rw [text_eq] at written
    exact written
  | atomic _ _ =>
    refine (cons_keyword (by decide) (ends_operator (by decide) _ _) opening).mono ?_
    rintro _ ⟨word, _, rfl, isAtomic, opening, _, rfl, opens, rfl⟩
    exact .atomic isAtomic opens

theorem isCount_of_toDigits {value : Nat} {lexeme : Lexeme} (inRange : value ≤ maxCount)
    (isNumber : lexeme.kind = .number) (text_eq : lexeme.text.toList = Nat.toDigits 10 value) :
    IsCount value lexeme :=
  ⟨isNumber, by rw [text_eq, count?_toDigits inRange]⟩

theorem SpellsBounds.rewrites {bounds : Bounds} (spells : SpellsBounds bounds lexemes) :
    Rewrites bounds.pieces (SpellsBounds bounds) := by
  obtain ⟨lowerInRange, upperInRange⟩ := spells.inRange
  obtain ⟨lower, upper⟩ := bounds
  have rewritesUpper : Rewrites ((upper.map numeral).toList ++ [operator .closeBrace]) fun written =>
      ∃ last closing, written = last ++ [closing] ∧ SpellsCount upper last ∧
        closing.kind = .closeBrace := by
    cases upper with
    | none =>
      refine (cons_operator rfl (fun _ _ => rfl) nil).mono ?_
      rintro _ ⟨closing, _, rfl, closes, rfl⟩
      exact ⟨[], closing, rfl, rfl, closes⟩
    | some upper =>
      refine (cons_numeral (ends_operator (by decide) _ _)
        (cons_operator rfl (fun _ _ => rfl) nil)).mono ?_
      rintro _ ⟨number, _, rfl, ⟨isNumber, text_eq⟩, closing, _, rfl, closes, rfl⟩
      have isCount := isCount_of_toDigits (upperInRange upper rfl).1 isNumber text_eq
      exact ⟨[number], closing, rfl, ⟨number, rfl, isCount⟩, closes⟩
  have rewritesComma :
      Rewrites (operator .comma :: ((upper.map numeral).toList ++ [operator .closeBrace])) _ :=
    cons_operator rfl (fun _ _ => rfl) rewritesUpper
  rw [Bounds.pieces, List.append_assoc]
  refine (cons_operator rfl (fun _ _ => rfl) (cons_numeral (ends_operator (by decide) _ _)
    rewritesComma)).mono ?_
  rintro _ ⟨opening, _, rfl, opens, number, _, rfl, ⟨isNumber, text_eq⟩, comma, _, rfl, isComma, last,
    closing, rfl, spellsUpper, closes⟩
  have isCount := isCount_of_toDigits lowerInRange isNumber text_eq
  have spellsLower : SpellsCount (some lower) [number] := ⟨number, rfl, isCount⟩
  have written := SpellsBounds.between opens spellsLower isComma spellsUpper
    (fun upper isUpper => (upperInRange upper isUpper).2) closes
  simpa using written

theorem SpellsPreference.rewrites {lazyMode : Bool} {preference : Quantifier}
    (spells : SpellsPreference lazyMode preference lexemes) :
    Rewrites preference.pieces (SpellsPreference lazyMode preference) := by
  cases spells with
  | greedy _ =>
    refine (cons_space (cons_keyword (by decide) head?_nil nil)).mono ?_
    rintro _ ⟨word, _, rfl, isGreedy, rfl⟩
    exact .greedy isGreedy
  | lazy _ =>
    refine (cons_space (cons_keyword (by decide) head?_nil nil)).mono ?_
    rintro _ ⟨word, _, rfl, isLazy, rfl⟩
    exact .lazy isLazy
  | unsaid =>
    cases lazyMode <;> refine nil.mono ?_ <;> rintro _ rfl <;> exact .unsaid

/-! ## References -/

theorem rewrites_forward {value : Nat} (small : value < 0x80000000) :
    Rewrites (ReferenceTarget.relative (Int32.ofInt value)).pieces
      (SpellsTarget (.relative (Int32.ofInt value))) := by
  have toInt_eq : (Int32.ofInt value).toInt = value := Int32.toInt_ofInt_of_le (by omega) (by omega)
  have notNegative : ¬ Int32.ofInt value < 0 := by
    rw [Int32.lt_iff_toInt_lt, toInt_eq, Int32.toInt_zero]
    omega
  rw [ReferenceTarget.pieces, if_neg notNegative, toInt_eq, Int.natAbs_natCast]
  refine (cons_operator rfl (fun _ _ => rfl) (cons_numeral head?_nil nil)).mono ?_
  rintro _ ⟨sign, _, rfl, isPlus, number, _, rfl, ⟨isNumber, text_eq⟩, rfl⟩
  exact .forward isPlus isNumber (by rw [text_eq, offset?_toDigits small])

/-- A group that lies behind by nothing is written as one that lies ahead by nothing. -/
theorem rewrites_backward {value : Nat} (small : value < 0x80000000) :
    Rewrites (ReferenceTarget.relative (-Int32.ofInt value)).pieces
      (SpellsTarget (.relative (-Int32.ofInt value))) := by
  by_cases zero : value = 0
  · subst zero
    have unsigned : -Int32.ofInt (0 : Nat) = Int32.ofInt (0 : Nat) := by decide
    rw [unsigned]
    exact rewrites_forward small
  · have toInt_eq : (-Int32.ofInt value).toInt = -value := by
      rw [Int32.neg_ofInt]
      exact Int32.toInt_ofInt_of_le (by omega) (by omega)
    have negative : -Int32.ofInt value < 0 := by
      rw [Int32.lt_iff_toInt_lt, toInt_eq, Int32.toInt_zero]
      omega
    rw [ReferenceTarget.pieces, if_pos negative, toInt_eq, Int.natAbs_neg, Int.natAbs_natCast]
    refine (cons_operator rfl (fun _ _ => rfl) (cons_numeral head?_nil nil)).mono ?_
    rintro _ ⟨sign, _, rfl, isDash, number, _, rfl, ⟨isNumber, text_eq⟩, rfl⟩
    exact .backward isDash isNumber (by rw [text_eq, offset?_toDigits small])

theorem SpellsTarget.rewrites {target : ReferenceTarget} (spells : SpellsTarget target lexemes)
    (scanned : ∀ lexeme ∈ lexemes, lexeme.IsScanned) :
    Rewrites target.pieces (SpellsTarget target) := by
  cases spells with
  | @forward sign number offset _ isNumber inRange =>
    obtain ⟨value, small, rfl⟩ := (scanned number (by simp)).natural isNumber inRange
    exact rewrites_forward small
  | @backward sign number offset _ isNumber inRange =>
    obtain ⟨value, small, rfl⟩ := (scanned number (by simp)).natural isNumber inRange
    exact rewrites_backward small
  | number isCount =>
    refine (cons_numeral head?_nil nil).mono ?_
    rintro _ ⟨number, _, rfl, ⟨isNumber, text_eq⟩, rfl⟩
    exact .number (isCount_of_toDigits isCount.le_maxCount isNumber text_eq)
  | @named name isName =>
    obtain ⟨isToken, -⟩ := (scanned name (by simp)).identifier isName
    refine (cons_identifier isToken head?_nil nil).mono ?_
    rintro _ ⟨other, _, rfl, ⟨otherName, text_eq⟩, rfl⟩
    have written := SpellsTarget.named otherName
    rwa [text_eq] at written

/-! ## Atoms -/

/-- The text between the quotes is kept as it stands. -/
theorem cons_rawText {text : Lexeme} (scanned : text.IsScanned) (isText : text.kind = .string)
    {pieces : List Piece} {holds : List Lexeme → Prop} (rewrites : Rewrites pieces holds) :
    Rewrites (rawQuoted (rawText text) :: pieces) fun written => ∃ lexeme more,
      written = lexeme :: more ∧ (lexeme.kind = .string ∧ rawText lexeme = rawText text) ∧
        holds more := by
  obtain ⟨quoted, written_eq, isToken, inner_eq⟩ := scanned.rawText isText
  rw [written_eq]
  refine (cons_word isToken (fun _ _ => rfl) rewrites).mono ?_
  rintro _ ⟨lexeme, more, rfl, ⟨isString, text_eq, -⟩, spelled⟩
  refine ⟨lexeme, more, rfl, ⟨isString, ?_⟩, spelled⟩
  rw [rawText, text_eq, String.toList_ofList, inner_eq]

theorem pieces_of_boundaryOf? {kind : TokenKind} {boundary : Boundary}
    (isBoundary : boundaryOf? kind = some boundary) :
    boundary.pieces = [operator kind] ∧ kind.spelling?.isSome := by
  unfold boundaryOf? at isBoundary
  split at isBoundary <;> cases isBoundary <;> exact ⟨rfl, rfl⟩

theorem rewrites_numberRange {unicode : Bool} {first last : Lexeme} {radix : Nat} {span : Span}
    (scannedFirst : first.IsScanned) (isFirst : first.kind = .string) (scannedLast : last.IsScanned)
    (isLast : last.kind = .string) (inRange : 2 ≤ radix ∧ radix ≤ 36) :
    Rewrites (Pattern.numberRange (rawText first) (rawText last) radix span).pieces
      (Respells (SpellsAtom unicode) Pattern.withoutSpans
        (.numberRange (rawText first) (rawText last) radix span)) := by
  have readable : word? (Nat.toDigits 10 radix) = some radix := word?_toDigits (by omega)
  have rewritesBase : Rewrites [.space, keyword "base", .space, numeral radix] _ :=
    cons_space (cons_keyword (by decide) (ends_space _ _)
      (cons_space (cons_numeral head?_nil nil)))
  have rewritesLast : Rewrites (operator .dash :: rawQuoted (rawText last) :: _) _ :=
    cons_operator rfl (fun _ _ => rfl) (cons_rawText scannedLast isLast rewritesBase)
  refine (cons_keyword (by decide) (ends_space _ _)
    (cons_space (cons_rawText scannedFirst isFirst rewritesLast))).mono ?_
  rintro _ ⟨word, _, rfl, isRange, otherFirst, _, rfl, ⟨isText, first_eq⟩, dash, _, rfl, isDash,
    otherLast, _, rfl, ⟨isLastText, last_eq⟩, base, _, rfl, isBase, number, _, rfl,
    ⟨isNumber, text_eq⟩, rfl⟩
  have written := @SpellsAtom.basedRange unicode _ _ _ _ _ _ _ isRange isText isDash isLastText
    isBase isNumber (by rw [text_eq, readable]) inRange
  rw [first_eq, last_eq] at written
  exact ⟨_, written, rfl⟩

theorem SpellsAtom.rewrites {unicode : Bool} {pattern : Pattern}
    (spells : SpellsAtom unicode pattern lexemes)
    (scanned : ∀ lexeme ∈ lexemes, lexeme.IsScanned)
    (present : ∀ lexeme ∈ lexemes, lexeme.span ≠ .absent) :
    Rewrites pattern.pieces (Respells (SpellsAtom unicode) Pattern.withoutSpans pattern) := by
  cases spells with
  | @literal text isText =>
    have written : text.literal ≠ ⟨"", .absent⟩ := fun same =>
      present text List.mem_cons_self (congrArg Literal.span same)
    rw [Pattern.pieces, if_neg written]
    refine (cons_quoted nil).mono ?_
    rintro _ ⟨other, _, rfl, ⟨otherText, content_eq, otherPresent⟩, rfl⟩
    refine ⟨_, .literal otherText, ?_⟩
    have same : other.literal.mapSpans Span.presence = text.literal.mapSpans Span.presence := by
      rw [Literal.mapSpans, Literal.mapSpans, content_eq]
      exact congrArg _ ((if_neg otherPresent).trans (if_neg (present text List.mem_cons_self)).symm)
    exact congrArg Pattern.literal same
  | @charClass members _ spells =>
    cases spells with
    | @brackets _ _ parts _ _ spells _ _ =>
      have items : ∀ part ∈ parts, ∀ item ∈ part, Rewrites item.pieces (RespellsItem item) :=
        (spells.with_all fun lexeme member => scanned lexeme (by simp [member])).forall_values
          fun _ _ scans => SpellsItems.rewrites scans.1 scans.2
      refine (rewrites_charClass ?_).mono ?_
      · intro item isIn
        obtain ⟨part, isPart, isIn⟩ := List.mem_flatten.mp isIn
        exact items part isPart item isIn
      · rintro written ⟨other, spells, same⟩
        exact ⟨.charClass other, .charClass spells, congrArg Pattern.charClass same⟩
  | @boundary operator kind isBoundary =>
    obtain ⟨pieces_eq, isOperator⟩ := pieces_of_boundaryOf? isBoundary
    rw [Pattern.pieces, pieces_eq]
    refine (cons_operator isOperator head?_nil nil).mono ?_
    rintro _ ⟨other, _, rfl, sameKind, rfl⟩
    exact ⟨_, .boundary (by rw [sameKind]; exact isBoundary), rfl⟩
  | @reference mark target inner isMark spells =>
    have rewritesTarget := spells.rewrites fun lexeme member => scanned lexeme (by simp [member])
    refine (cons_operator rfl (fun _ _ => rfl) rewritesTarget).mono ?_
    rintro _ ⟨otherMark, more, rfl, isMark, spells⟩
    exact ⟨_, .reference isMark spells, rfl⟩
  | @codePoint lexeme c _ _ =>
    refine (rewrites_charClass ?_).mono ?_
    · intro item isIn
      obtain rfl := List.mem_singleton.mp isIn
      exact rewrites_char c
    · rintro written ⟨other, spells, same⟩
      exact ⟨.charClass other, .charClass spells, congrArg Pattern.charClass same⟩
  | @decimalRange word first dash last _ isFirst _ isLast =>
    exact rewrites_numberRange (scanned first (by simp)) isFirst (scanned last (by simp)) isLast
      (by decide)
  | @basedRange word first dash last _ _ radix _ isFirst _ isLast _ _ _ inRange =>
    exact rewrites_numberRange (scanned first (by simp)) isFirst (scanned last (by simp)) isLast
      inRange
  | regex _ _ =>
    refine (cons_keyword (by decide) (ends_space _ _)
      (cons_space (cons_quoted nil))).mono ?_
    rintro _ ⟨word, _, rfl, isRegex, text, _, rfl, ⟨isText, content_eq, -⟩, rfl⟩
    refine ⟨_, .regex isRegex isText, ?_⟩
    rw [content_eq]
    rfl
  | @use name isName =>
    obtain ⟨isToken, -⟩ := (scanned name (by simp)).identifier isName
    refine (cons_identifier isToken head?_nil nil).mono ?_
    rintro _ ⟨other, _, rfl, ⟨otherName, text_eq⟩, rfl⟩
    refine ⟨_, .use otherName, ?_⟩
    rw [text_eq]
    rfl
  | dot _ =>
    refine (cons_operator rfl (fun _ _ => rfl) nil).mono ?_
    rintro _ ⟨dot, _, rfl, isDot, rfl⟩
    exact ⟨_, .dot isDot, rfl⟩
  | recursion _ =>
    refine (cons_keyword (by decide) head?_nil nil).mono ?_
    rintro _ ⟨word, _, rfl, isRecursion, rfl⟩
    exact ⟨_, .recursion isRecursion, rfl⟩

end Grammar

end PatternSyntax
