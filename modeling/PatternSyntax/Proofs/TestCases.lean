import PatternSyntax.Proofs.Numerals

/-!
# Cases of test blocks

The words of a test block are names like any other, its matches and captures are lists within
lists, and whether a list of matches is a case of its own is known only behind it. Still a block
is read exactly if it is spelled, and nothing of it is lost: its texts come out in the order in
which they stand there.
-/

namespace PatternSyntax

open Grammar Recognition Text
open PatternSyntax.Parser

/-! ## Texts of a case -/

/-- The texts of a match: the one that is matched, and those that are captured. -/
def TestMatch.literals (expected : TestMatch) : List Literal :=
  expected.literal :: expected.captures.map Capture.literal

/-- The texts of a case, a longer text behind the matches that are found in it. -/
def TestCase.literals : TestCase → List Literal
  | whole expected => expected.literals
  | within haystack expected _ => expected.flatMap TestMatch.literals ++ [haystack]
  | reject literal _ _ => [literal]

/-- The texts that stand among the lexemes. -/
def literalsOf (lexemes : List Lexeme) : List Literal :=
  (lexemes.filter fun lexeme => lexeme.kind = .string).map Lexeme.literal

@[simp]
theorem literalsOf_append (first second : List Lexeme) :
    literalsOf (first ++ second) = literalsOf first ++ literalsOf second := by
  simp [literalsOf]

theorem Parser.Each.literalsOf_eq {α : Type} {spells : α → List Lexeme → Prop}
    {literals : α → List Literal} {values : List α} {lexemes : List Lexeme}
    (each : Each spells values lexemes)
    (same : ∀ value part, spells value part → literalsOf part = literals value) :
    literalsOf lexemes = values.flatMap literals := by
  induction each with
  | nil => rfl
  | cons head _ inductionHypothesis =>
    rw [literalsOf_append, same _ _ head, inductionHypothesis, List.flatMap_cons]

/-! A spelling has the texts of what it spells. -/

namespace Grammar

theorem SpellsLabel.kind_ne {label : CaptureLabel} {lexeme : Lexeme}
    (spells : SpellsLabel label lexeme) : lexeme.kind ≠ .string := by
  cases spells with
  | number isCount => simp [isCount.1]
  | name isName => simp [isName]

theorem SpellsCapture.literalsOf_eq {expected : Capture} {lexemes : List Lexeme}
    (spells : SpellsCapture expected lexemes) : literalsOf lexemes = [expected.literal] := by
  obtain @⟨_, label, colon, text, spellsLabel, isColon, isText⟩ := spells
  simp [literalsOf, spellsLabel.kind_ne, isColon, isText]

theorem SpellsSeparatedCapture.literalsOf_eq {expected : Capture} {lexemes : List Lexeme}
    (spells : SpellsSeparatedCapture expected lexemes) :
    literalsOf lexemes = [expected.literal] := by
  obtain ⟨inner, comma, spells, isComma, rfl⟩ := spells
  rw [literalsOf_append, spells.literalsOf_eq]
  simp [literalsOf, isComma]

theorem SpellsCaptures.literalsOf_eq {captures : List Capture} {lexemes : List Lexeme}
    (spells : SpellsCaptures captures lexemes) :
    literalsOf lexemes = captures.map Capture.literal := by
  have separated {captures : List Capture} {inner : List Lexeme}
      (spells : Each SpellsSeparatedCapture captures inner) :
      literalsOf inner = captures.map Capture.literal := by
    rw [spells.literalsOf_eq fun _ _ => (·.literalsOf_eq), List.map_eq_flatMap]
  cases spells with
  | unlisted => rfl
  | separated isAs opens spells closes =>
    simp only [literalsOf_append, separated spells]
    simp [literalsOf, isAs.1, opens, closes]
  | listed isAs opens spells spellsLast closes =>
    simp only [literalsOf_append, separated spells, spellsLast.literalsOf_eq]
    simp [literalsOf, isAs.1, opens, closes]

theorem SpellsMatch.literalsOf_eq {expected : TestMatch} {lexemes : List Lexeme}
    (spells : SpellsMatch expected lexemes) : literalsOf lexemes = expected.literals := by
  obtain @⟨text, captures, inner, isText, spells⟩ := spells
  rw [literalsOf_append, spells.literalsOf_eq]
  simp [literalsOf, TestMatch.literals, isText]

theorem SpellsNextMatch.literalsOf_eq {expected : TestMatch} {lexemes : List Lexeme}
    (spells : SpellsNextMatch expected lexemes) : literalsOf lexemes = expected.literals := by
  obtain ⟨comma, inner, isComma, spells, rfl⟩ := spells
  rw [literalsOf_append, spells.literalsOf_eq]
  simp [literalsOf, isComma]

theorem SpellsMatches.literalsOf_eq {expected : List TestMatch} {lexemes : List Lexeme}
    (spells : SpellsMatches expected lexemes) :
    literalsOf lexemes = expected.flatMap TestMatch.literals := by
  cases spells with
  | nil => rfl
  | cons spellsFirst spellsMore =>
    rw [literalsOf_append, spellsFirst.literalsOf_eq,
      spellsMore.literalsOf_eq fun _ _ => (·.literalsOf_eq), List.flatMap_cons]

theorem SpellsCase.literalsOf_eq {case : TestCase} {lexemes : List Lexeme}
    (spells : SpellsCase case lexemes) : literalsOf lexemes = case.literals := by
  cases spells with
  | whole isMatch spells stops =>
    simp only [literalsOf_append, spells.literalsOf_eq]
    simp [literalsOf, TestCase.literals, isMatch.1, stops]
  | within isMatch spells isIn isText stops =>
    simp only [literalsOf_append, spells.literalsOf_eq]
    simp [literalsOf, TestCase.literals, isMatch.1, isIn.1, isText, stops]
  | @reject word text stop introduction isReject isIn isText stops =>
    have noText : literalsOf introduction.toList = [] := by
      cases introduction with
      | none => rfl
      | some lexeme => simp [literalsOf, (isIn lexeme rfl).1]
    simp only [literalsOf_append, noText]
    simp [literalsOf, TestCase.literals, isReject.1, isText, stops]

end Grammar

/-! ## Matches without a longer text -/

variable {cursor after : Cursor}

theorem matchCase_eq_fail {word stop : Lexeme} {first second : TestMatch} {more : List TestMatch}
    {inner : List Lexeme} (isMatch : word.IsName "match")
    (spells : SpellsMatches (first :: second :: more) inner) (stops : stop.kind = .semicolon)
    (quoted : ∀ lexeme ∈ inner, lexeme.kind = .string → lexeme.text ≠ "in")
    (reads : cursor.Reads ([word] ++ inner ++ [stop]) after) :
    matchCase cursor = .fail (.ofFault .matchesWithoutHaystack
      (first.span.join ((second :: more).getLastD first).span)) := by
  obtain ⟨beforeStop, reads, readsStop⟩ := Cursor.reads_append_iff.mp reads
  obtain ⟨afterWord, readsWord, readsInner⟩ := Cursor.reads_append_iff.mp reads
  obtain ⟨firstLexemes, rest, spellsFirst, spellsMore, rfl⟩ :
      ∃ firstLexemes rest, SpellsMatch first firstLexemes ∧
        Each SpellsNextMatch (second :: more) rest ∧ inner = firstLexemes ++ rest := by
    cases spells with
    | cons spellsFirst spellsMore => exact ⟨_, _, spellsFirst, spellsMore, rfl⟩
  have matched : testMatches afterWord = .accept (first :: second :: more) beforeStop := by
    refine testMatches_of_spellsMatches spellsFirst spellsMore readsInner
      (fun lexeme member => quoted lexeme (List.mem_append_left _ member)) ?_
    simp [EndsMatches, Lexeme.IsName, readsStop.rest, stops]
  have noHaystack : (optional haystack) beforeStop = .accept none beforeStop := by
    refine optional_eq_accept_none_iff.mpr ⟨haystack_eq_decline_iff.mpr ?_, rfl⟩
    simp [Lexeme.IsName, readsStop.rest, stops]
  rw [matchCase]
  refine bind_eq_fail_of_accept (contextual_eq_accept_iff.mpr ⟨isMatch, readsWord⟩) ?_
  refine bind_eq_fail_of_accept matched (bind_eq_fail_of_accept noHaystack ?_)
  exact bind_eq_fail_of_accept (expect_eq_accept_iff.mpr ⟨stops, readsStop⟩) rfl

theorem testBlock_eq_fail {word opening introduction stop : Lexeme} {cases : List TestCase}
    {first second : TestMatch} {more : List TestMatch} {inner matched : List Lexeme}
    (isTest : word.IsKeyword "test") (opens : opening.kind = .openBrace)
    (spellsCases : Each SpellsCase cases inner) (isMatch : introduction.IsName "match")
    (spells : SpellsMatches (first :: second :: more) matched) (stops : stop.kind = .semicolon)
    (quoted : ∀ lexeme ∈ inner ++ matched, lexeme.kind = .string → lexeme.text ≠ "in")
    (reads : cursor.Reads ([word] ++ [opening] ++ inner ++ ([introduction] ++ matched ++ [stop]))
      after) :
    testBlock cursor = .fail (.ofFault .matchesWithoutHaystack
      (first.span.join ((second :: more).getLastD first).span)) := by
  obtain ⟨beforeCase, reads, readsCase⟩ := Cursor.reads_append_iff.mp reads
  obtain ⟨afterOpening, reads, readsInner⟩ := Cursor.reads_append_iff.mp reads
  obtain ⟨afterWord, readsWord, readsOpening⟩ := Cursor.reads_append_iff.mp reads
  have failed := matchCase_eq_fail isMatch spells stops
    (fun lexeme member => quoted lexeme (List.mem_append_right _ member)) readsCase
  have spellsQuoted := spellsCases.with_all
    fun lexeme member => quoted lexeme (List.mem_append_left _ member)
  have manyFails : (many testCase) afterOpening = _ :=
    spellsQuoted.many_eq_fail testCase_progresses
      (fun _ _ _ _ spells reads => testCase_of_spellsCase spells.1 reads spells.2)
      readsInner (orElse_eq_fail_iff.mpr (.inl failed))
  rw [testBlock]
  refine bind_eq_fail_of_accept (keyword_eq_accept_iff.mpr ⟨isTest, readsWord⟩) ?_
  refine bind_eq_fail_of_accept (expect_eq_accept_iff.mpr ⟨opens, readsOpening⟩) ?_
  exact bind_eq_fail_iff.mpr (.inl manyFails)

/-! ## Words of a source -/

/-- The word that introduces a longer text is a name wherever it stands in a source. -/
theorem isName_in_of_mem_lexemesOf {source : String} (short : utf8Size source.toList < 2 ^ 32)
    {lexeme : Lexeme} (member : lexeme ∈ lexemesOf source) (isIn : lexeme.text = "in") :
    lexeme.IsName "in" := by
  obtain ⟨first, tail, more, text_eq, recognized⟩ := (scans_tokenize short).recognized lexeme member
  obtain ⟨rfl, rfl⟩ := List.cons_eq_cons.mp
    (String.ofList_injective (text_eq.symm.trans isIn) : first :: tail = ['i', 'n'])
  refine ⟨?_, isIn⟩
  have isStart : isWordStart 'i' := by
    rw [isWordStart_of_ascii (by decide)]
    decide
  have isChar : isWordChar 'n' := by
    rw [isWordChar_of_ascii (by decide)]
    decide
  rw [recognize, pairOperator?_eq_none rfl] at recognized
  simp only [TokenKind.ofChar?, codePoint?, isStart] at recognized
  have isWord : word 'i' ('n' :: more) = (lexeme.kind, 1) := recognized
  rw [word, List.takeWhile_cons_of_pos isChar] at isWord
  cases run : more.takeWhile isWordChar with
  | nil =>
    rw [run, if_neg (by decide)] at isWord
    exact (Prod.mk.inj isWord).1.symm
  | cons c others =>
    rw [run] at isWord
    split at isWord
    all_goals simp at isWord

/-- A case that is read never finds its list of matches left out without a longer text. -/
theorem haystack_ne_decline {source : String} (short : utf8Size source.toList < 2 ^ 32)
    {cursor after : Cursor} (ofSource : ∀ lexeme ∈ cursor.rest, lexeme ∈ lexemesOf source)
    (leftOut : testMatches cursor = .accept [] after) :
    after = cursor ∧ haystack after ≠ .decline := by
  simp only [testMatches, bind_eq_accept_iff] at leftOut
  obtain ⟨text, between, peeked, leftOut⟩ := leftOut
  split at leftOut
  · rename_i isIn
    obtain ⟨-, rfl⟩ := pure_eq_accept_iff.mp leftOut
    subst isIn
    rw [nextText] at peeked
    cases begins : cursor.rest with
    | nil =>
      simp [begins] at peeked
    | cons lexeme rest =>
      simp only [begins, Outcome.accept.injEq] at peeked
      obtain ⟨isIn, rfl⟩ := peeked
      have isName := isName_in_of_mem_lexemesOf short (ofSource lexeme (by simp [begins])) isIn
      refine ⟨rfl, fun declined => ?_⟩
      exact haystack_eq_decline_iff.mp declined lexeme (by simp [begins]) isName
  · simp only [sepBy, bind_eq_accept_iff, pure_eq_accept_iff] at leftOut
    obtain ⟨_, _, -, _, _, -, impossible, -⟩ := leftOut
    cases impossible

theorem isCount_iff {source : String} (short : utf8Size source.toList < 2 ^ 32) {lexeme : Lexeme}
    (member : lexeme ∈ lexemesOf source) {index : Nat} :
    IsCount index lexeme ↔ lexeme.kind = .number ∧ lexeme.value = index ∧ index ≤ 65535 := by
  constructor
  · intro isCount
    have isNumeral := isNumeral_of_mem_lexemesOf short member isCount.1
    have read := isCount.2
    rw [isNumeral.2.count?_eq] at read
    split at read
    · rename_i inRange
      cases read
      exact ⟨isCount.1, rfl, inRange⟩
    · cases read
  · rintro ⟨isNumber, rfl, inRange⟩
    exact (isNumeral_of_mem_lexemesOf short member isNumber).isCount inRange

/-! ## Blocks of a source -/

variable {source : String} {word : Lexeme} {rest : List Lexeme}

/-- What follows the word is read as the directive: cases between braces, in their order. -/
def IsTestBody (word : Lexeme) (rest : List Lexeme) (directive : Directive) (span : Span)
    (after : Cursor) : Prop :=
  ∃ opening inner closing cases, rest = opening :: (inner ++ closing :: after.rest) ∧
    opening.kind = .openBrace ∧ Each SpellsCase cases inner ∧ closing.kind = .closeBrace ∧
    span = word.span.join closing.span ∧ directive = .tests cases span ∧
    after.previous = closing.span

/-- The texts of the cases are those of the block. -/
theorem IsTestBody.literals_eq {cases : List TestCase} {span : Span}
    (isBody : IsTestBody word rest (.tests cases span) span after) :
    ∃ block, rest = block ++ after.rest ∧ cases.flatMap TestCase.literals = literalsOf block := by
  obtain ⟨opening, inner, closing, _, rfl, opens, spells, closes, -, ⟨⟩, -⟩ := isBody
  refine ⟨[opening] ++ inner ++ [closing], by simp, ?_⟩
  simp only [literalsOf_append, spells.literalsOf_eq fun _ _ => (·.literalsOf_eq)]
  simp [literalsOf, opens, closes]

theorem testBlock_eq_accept_iff_isTestBody (short : utf8Size source.toList < 2 ^ 32)
    (ofSource : cursor.rest <:+ lexemesOf source) (begins : cursor.rest = word :: rest)
    (isTest : word.IsKeyword "test") {directive : Directive} {span : Span} :
    testBlock cursor = .accept (directive, span) after ↔
      IsTestBody word rest directive span after ∧ after.finish = cursor.finish := by
  constructor
  · intro accepted
    obtain ⟨_, @⟨first, opening, closing, cases, inner, -, opens, spells, closes⟩, reads,
      span_eq⟩ := testBlock_eq_accept_imp accepted
    obtain ⟨split, previous, finish⟩ := Cursor.reads_concat_iff.mp reads
    simp only [List.append_assoc, List.singleton_append] at split
    obtain ⟨rfl, rfl⟩ := List.cons_eq_cons.mp (begins.symm.trans split)
    have atWord : cursor.span = word.span := by rw [Cursor.span, begins]
    rw [atWord, previous] at span_eq
    exact ⟨⟨opening, inner, closing, cases, rfl, opens, spells, closes, span_eq, by rw [span_eq],
      previous⟩, finish⟩
  · rintro ⟨⟨opening, inner, closing, cases, rfl, opens, spells, closes, rfl, rfl, previous⟩,
      finish⟩
    have reads : cursor.Reads ([word] ++ [opening] ++ inner ++ [closing]) after :=
      Cursor.reads_concat_iff.mpr ⟨by simp [begins], previous, finish⟩
    have quoted : ∀ lexeme ∈ [word] ++ [opening] ++ inner ++ [closing],
        lexeme.kind = .string → lexeme.text ≠ "in" := by
      intro lexeme member
      refine (isRegular_of_mem_lexemesOf short lexeme (ofSource.subset ?_)).quoted
      rw [reads.rest]
      exact List.mem_append_left _ member
    have accepted := testBlock_of_spellsTests (.block isTest opens spells closes) reads quoted
    have atWord : cursor.span = word.span := by rw [Cursor.span, begins]
    rw [accepted, atWord, previous]

/-- How a test block is read where `rest` stands behind its word. -/
structure ReadsTestBlock (cursor : Cursor) (word : Lexeme) (rest : List Lexeme) : Prop where
  exact_iff : ∀ directive span after, testBlock cursor = .accept (directive, span) after ↔
    IsTestBody word rest directive span after ∧ after.finish = cursor.finish
  /-- No text is lost, and none comes out twice. -/
  texts : ∀ cases span after, testBlock cursor = .accept (.tests cases span, span) after →
    ∃ block, rest = block ++ after.rest ∧ cases.flatMap TestCase.literals = literalsOf block
  /-- The numbers of captures are the values of their digits. -/
  counts : ∀ lexeme ∈ rest, ∀ index, IsCount index lexeme ↔
    lexeme.kind = .number ∧ lexeme.value = index ∧ index ≤ 65535
  /-- Two matches or more without a longer text are reported, behind any cases. -/
  withoutHaystack : ∀ opening inner introduction matched stop more cases first second others,
    rest = opening :: (inner ++ introduction :: (matched ++ stop :: more)) →
    opening.kind = .openBrace → Each SpellsCase cases inner → introduction.IsName "match" →
    SpellsMatches (first :: second :: others) matched → stop.kind = .semicolon →
    testBlock cursor = .fail (.ofFault .matchesWithoutHaystack
      (first.span.join ((second :: others).getLastD first).span))
  /-- Where the matches are left out, a longer text is introduced. -/
  leftOut : ∀ before between : Cursor, before.rest <:+ rest →
    testMatches before = .accept [] between → between = before ∧ haystack between ≠ .decline

/-- A test block of a source is read exactly if it is spelled. -/
theorem test_blocks_are_read_exactly (short : utf8Size source.toList < 2 ^ 32)
    (ofSource : cursor.rest <:+ lexemesOf source) (begins : cursor.rest = word :: rest)
    (isTest : word.IsKeyword "test") : ReadsTestBlock cursor word rest := by
  have members : ∀ lexeme ∈ rest, lexeme ∈ lexemesOf source := by
    intro lexeme member
    exact ofSource.subset (by rw [begins]; exact List.mem_cons_of_mem _ member)
  have exact_iff (directive : Directive) (span : Span) (after : Cursor) :=
    @testBlock_eq_accept_iff_isTestBody cursor after source word rest short ofSource begins isTest
      directive span
  constructor
  case exact_iff => exact exact_iff
  case texts =>
    intro cases span after accepted
    exact ((exact_iff _ _ _).mp accepted).1.literals_eq
  case counts =>
    intro lexeme member index
    exact isCount_iff short (members lexeme member)
  case withoutHaystack =>
    rintro opening inner introduction matched stop more cases first second others rfl opens
      spellsCases isMatch spells stops
    have reads : cursor.Reads
        ([word] ++ [opening] ++ inner ++ ([introduction] ++ matched ++ [stop]))
        ⟨more, stop.span, cursor.finish⟩ :=
      ⟨by simp [begins], by simp, rfl⟩
    refine testBlock_eq_fail isTest opens spellsCases isMatch spells stops ?_ reads
    intro lexeme member
    refine (isRegular_of_mem_lexemesOf short lexeme (members lexeme ?_)).quoted
    simp only [List.mem_append] at member
    rcases member with member | member <;> simp [member]
  case leftOut =>
    intro before between inside leftOut
    exact haystack_ne_decline short
      (fun lexeme member => members lexeme (inside.subset member)) leftOut

set_option maxRecDepth 4000 in
/-- A match with a capture in a longer text, and two matches without one. -/
theorem test_blocks_are_read_exactly_of_matches :
    testBlock ⟨lexemesOf "test\x7bmatch'a'as\x7b1:'b',\x7din'c';\x7d", .absent, ⟨30, 30⟩⟩ =
        .accept (.tests [.within ⟨"c", ⟨25, 28⟩⟩
          [⟨⟨"a", ⟨10, 13⟩⟩, [⟨.number 1, ⟨16, 17⟩, ⟨"b", ⟨18, 21⟩⟩⟩], ⟨10, 23⟩⟩] ⟨5, 29⟩] ⟨0, 30⟩,
          ⟨0, 30⟩) ⟨[], ⟨29, 30⟩, ⟨30, 30⟩⟩ ∧
      testBlock ⟨lexemesOf "test\x7bmatch'a','c';", .absent, ⟨18, 18⟩⟩ =
        .fail (.ofFault .matchesWithoutHaystack ⟨10, 17⟩) := by
  have within_eq : lexemesOf "test\x7bmatch'a'as\x7b1:'b',\x7din'c';\x7d" =
      [⟨.reservedName, "test", ⟨0, 4⟩⟩, ⟨.openBrace, "\x7b", ⟨4, 5⟩⟩,
        ⟨.identifier, "match", ⟨5, 10⟩⟩, ⟨.string, "'a'", ⟨10, 13⟩⟩, ⟨.identifier, "as", ⟨13, 15⟩⟩,
        ⟨.openBrace, "\x7b", ⟨15, 16⟩⟩, ⟨.number, "1", ⟨16, 17⟩⟩, ⟨.colon, ":", ⟨17, 18⟩⟩,
        ⟨.string, "'b'", ⟨18, 21⟩⟩, ⟨.comma, ",", ⟨21, 22⟩⟩, ⟨.closeBrace, "\x7d", ⟨22, 23⟩⟩,
        ⟨.identifier, "in", ⟨23, 25⟩⟩, ⟨.string, "'c'", ⟨25, 28⟩⟩, ⟨.semicolon, ";", ⟨28, 29⟩⟩,
        ⟨.closeBrace, "\x7d", ⟨29, 30⟩⟩] := by decide +kernel
  have without_eq : lexemesOf "test\x7bmatch'a','c';" =
      [⟨.reservedName, "test", ⟨0, 4⟩⟩, ⟨.openBrace, "\x7b", ⟨4, 5⟩⟩,
        ⟨.identifier, "match", ⟨5, 10⟩⟩, ⟨.string, "'a'", ⟨10, 13⟩⟩, ⟨.comma, ",", ⟨13, 14⟩⟩,
        ⟨.string, "'c'", ⟨14, 17⟩⟩, ⟨.semicolon, ";", ⟨17, 18⟩⟩] := by decide +kernel
  have literal (content text : String) (decoded : Quoted.decode text.toList = content.toList)
      (span : Span) : (⟨content, span⟩ : Literal) = Lexeme.literal ⟨.string, text, span⟩ := by
    rw [Lexeme.literal, decoded, String.ofList_toList]
  have a := literal "a" "'a'" (by decide) ⟨10, 13⟩
  have b := literal "b" "'b'" (by decide) ⟨18, 21⟩
  have c := literal "c" "'c'" (by decide)
  have index : IsCount 1 ⟨.number, "1", ⟨16, 17⟩⟩ := ⟨rfl, by decide⟩
  have captures : SpellsCaptures [⟨.number 1, ⟨16, 17⟩, ⟨"b", ⟨18, 21⟩⟩⟩]
      [⟨.identifier, "as", ⟨13, 15⟩⟩, ⟨.openBrace, "\x7b", ⟨15, 16⟩⟩, ⟨.number, "1", ⟨16, 17⟩⟩,
        ⟨.colon, ":", ⟨17, 18⟩⟩, ⟨.string, "'b'", ⟨18, 21⟩⟩, ⟨.comma, ",", ⟨21, 22⟩⟩,
        ⟨.closeBrace, "\x7d", ⟨22, 23⟩⟩] := by
    rw [b]
    exact .separated ⟨rfl, rfl⟩ rfl
      (.cons ⟨_, _, .capture (.number index) rfl rfl, rfl, rfl⟩ .nil) rfl
  have captured := @SpellsMatch.expected ⟨.string, "'a'", ⟨10, 13⟩⟩ _ _ rfl captures
  have case := @SpellsCase.within ⟨.identifier, "match", ⟨5, 10⟩⟩ ⟨.identifier, "in", ⟨23, 25⟩⟩
    ⟨.string, "'c'", ⟨25, 28⟩⟩ ⟨.semicolon, ";", ⟨28, 29⟩⟩ _ _ ⟨rfl, rfl⟩ (.cons captured .nil)
    ⟨rfl, rfl⟩ rfl rfl
  rw [← a, ← c] at case
  have matchA := @SpellsMatch.expected ⟨.string, "'a'", ⟨10, 13⟩⟩ _ _ rfl .unlisted
  have matchC := @SpellsMatch.expected ⟨.string, "'c'", ⟨14, 17⟩⟩ _ _ rfl .unlisted
  have both : SpellsMatches _ (_ ++ ([⟨.comma, ",", ⟨13, 14⟩⟩] ++ _ ++ [])) :=
    .cons matchA (.cons ⟨_, _, rfl, matchC, rfl⟩ .nil)
  constructor
  · have reads := @test_blocks_are_read_exactly
      ⟨lexemesOf "test\x7bmatch'a'as\x7b1:'b',\x7din'c';\x7d", .absent, ⟨30, 30⟩⟩
      _ _ _ (by decide) (List.suffix_refl _) within_eq ⟨rfl, rfl⟩
    exact (reads.exact_iff _ _ _).mpr
      ⟨⟨_, _, ⟨.closeBrace, "\x7d", ⟨29, 30⟩⟩, _, rfl, rfl, .cons case .nil, rfl, rfl, rfl, rfl⟩,
        rfl⟩
  · have reads := @test_blocks_are_read_exactly
      ⟨lexemesOf "test\x7bmatch'a','c';", .absent, ⟨18, 18⟩⟩
      _ _ _ (by decide) (List.suffix_refl _) without_eq ⟨rfl, rfl⟩
    exact reads.withoutHaystack _ [] _ _ _ [] [] _ _ _ rfl rfl .nil ⟨rfl, rfl⟩ both rfl

end PatternSyntax
