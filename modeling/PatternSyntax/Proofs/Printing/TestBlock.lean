import PatternSyntax.Proofs.Printing.Atoms
import PatternSyntax.Proofs.Spelling.Statement

/-!
# Printed statements

A statement other than a binding is rewritten by what it is printed as. All captures
of a match are written with a comma after them, the last one too.
-/

namespace PatternSyntax.Grammar

open PatternSyntax.Parser Recognition Text Piece Rewrites

variable {lexemes : List Lexeme}

/-! ## Matches -/

theorem cons_label {label : CaptureLabel} {lexeme : Lexeme} (spells : SpellsLabel label lexeme)
    (scanned : lexeme.IsScanned) {pieces : List Piece} {holds : List Lexeme → Prop}
    (rewrites : Rewrites (operator .colon :: pieces) holds) :
    Rewrites (label.piece :: operator .colon :: pieces) fun written => ∃ other more,
      written = other :: more ∧ SpellsLabel label other ∧ holds more := by
  cases spells with
  | number isCount =>
    refine (cons_numeral (ends_colon (.inr rfl) _) rewrites).mono ?_
    rintro _ ⟨other, more, rfl, ⟨isNumber, text_eq⟩, spelled⟩
    have otherCount := isCount_of_toDigits isCount.le_maxCount isNumber text_eq
    exact ⟨other, more, rfl, .number otherCount, spelled⟩
  | name isName =>
    obtain ⟨isToken, -⟩ := scanned.identifier isName
    refine (cons_identifier isToken (ends_colon (.inl rfl) _) rewrites).mono ?_
    rintro _ ⟨other, more, rfl, ⟨otherName, text_eq⟩, spelled⟩
    have written := SpellsLabel.name otherName
    rw [text_eq] at written
    exact ⟨other, more, rfl, written, spelled⟩

/-- The capture with a comma after it, at another place. -/
def RespellsCapture : Capture → List Lexeme → Prop :=
  Respells SpellsSeparatedCapture (·.mapSpans fun _ => .absent)

theorem SpellsCapture.rewrites {capture : Capture} (spells : SpellsCapture capture lexemes)
    (scanned : ∀ lexeme ∈ lexemes, lexeme.IsScanned) :
    Rewrites capture.pieces (RespellsCapture capture) := by
  cases spells with
  | @capture label labelLexeme _ text spellsLabel _ _ =>
    have rewritesText : Rewrites (quoted text.literal.content :: [operator .comma]) _ :=
      cons_quoted (cons_operator rfl (fun _ _ => rfl) nil)
    have rewritesColon : Rewrites (operator .colon :: .space :: _) _ :=
      cons_operator rfl (head?_space rfl _) (cons_space rewritesText)
    have rewritesLabel := cons_label spellsLabel (scanned labelLexeme (by simp)) rewritesColon
    refine (cons_space rewritesLabel).mono ?_
    rintro _ ⟨other, _, rfl, spellsLabel, colon, _, rfl, isColon, otherText, _, rfl,
      ⟨isText, content_eq, -⟩, comma, _, rfl, isComma, rfl⟩
    refine ⟨_, ⟨_, comma, .capture spellsLabel isColon isText, isComma, rfl⟩, ?_⟩
    simp only [Capture.mapSpans, Literal.mapSpans, content_eq]

theorem SpellsCaptures.rewrites {captures : List Capture} (spells : SpellsCaptures captures lexemes)
    (scanned : ∀ lexeme ∈ lexemes, lexeme.IsScanned) :
    ∀ capture ∈ captures, Rewrites capture.pieces (RespellsCapture capture) := by
  have each {values : List Capture} {inner : List Lexeme}
      (spells : Each SpellsSeparatedCapture values inner)
      (scanned : ∀ lexeme ∈ inner, lexeme.IsScanned) :
      ∀ capture ∈ values, Rewrites capture.pieces (RespellsCapture capture) := by
    refine (spells.with_all scanned).forall_values ?_
    rintro capture _ ⟨⟨inner, comma, spells, -, rfl⟩, scanned⟩
    exact spells.rewrites fun lexeme member => scanned lexeme (List.mem_append_left _ member)
  cases spells with
  | unlisted => nofun
  | separated _ _ spells _ => exact each spells fun lexeme member => scanned lexeme (by simp [member])
  | listed _ _ spells spellsLast _ =>
    have rewritesAll := each spells fun lexeme member => scanned lexeme (by simp [member])
    have rewritesLast := spellsLast.rewrites fun lexeme member => scanned lexeme (by simp [member])
    intro capture isIn
    rcases List.mem_append.mp isIn with isInner | isLast
    · exact rewritesAll capture isInner
    · rwa [List.mem_singleton.mp isLast]

/-- The match at another place. -/
def RespellsMatch : TestMatch → List Lexeme → Prop :=
  Respells SpellsMatch (·.mapSpans fun _ => .absent)

theorem SpellsMatch.rewrites {expected : TestMatch} (spells : SpellsMatch expected lexemes)
    (scanned : ∀ lexeme ∈ lexemes, lexeme.IsScanned) :
    Rewrites expected.pieces (RespellsMatch expected) := by
  cases spells with
  | @expected text captures inner _ spells =>
    have rewritesEach := spells.rewrites fun lexeme member => scanned lexeme (by simp [member])
    have rewritesCaptures : Rewrites (TestMatch.capturePieces captures)
        (Respells SpellsCaptures (List.map (·.mapSpans fun _ => .absent)) captures) := by
      cases captures with
      | nil =>
        refine nil.mono ?_
        rintro _ rfl
        exact ⟨[], .unlisted, rfl⟩
      | cons first more =>
        have rewritesClosing : Rewrites [.space, operator .closeBrace] _ :=
          cons_space (cons_operator rfl (fun _ _ => rfl) nil)
        have rewritesInner := (Rewrites.flatMap rewritesEach
          fun capture _ => neutral_space _).append_neutral rewritesClosing
            (neutral_space _)
        rw [TestMatch.capturePieces, List.append_assoc]
        · refine (cons_space (cons_contextual (by decide) (ends_space _ _)
            (cons_space (cons_operator rfl (fun _ _ => rfl) rewritesInner)))).mono ?_
          rintro _ ⟨word, _, rfl, isAs, opening, _, rfl, opens, _, _, rfl, ⟨others, each, same⟩,
            closing, _, rfl, closes, rfl⟩
          exact ⟨others, .separated isAs opens each closes, same⟩
        · nofun
    refine (cons_quoted rewritesCaptures).mono ?_
    rintro _ ⟨other, _, rfl, ⟨isText, content_eq, -⟩, others, spells, same⟩
    refine ⟨_, .expected isText spells, ?_⟩
    simp only [TestMatch.mapSpans, Literal.mapSpans, content_eq, same]

/-- The matches of a case, with commas between them. -/
theorem rewrites_matches {expected : List TestMatch}
    (rewrites : ∀ value ∈ expected, Rewrites value.pieces (RespellsMatch value)) :
    Rewrites (separated [operator .comma, .space] (expected.map TestMatch.pieces))
      (Respells SpellsMatches (List.map (·.mapSpans fun _ => .absent)) expected) := by
  cases expected with
  | nil =>
    refine nil.mono ?_
    rintro _ rfl
    exact ⟨[], .nil, rfl⟩
  | cons first more =>
    obtain ⟨rewritesFirst, rewritesMore⟩ := List.forall_mem_cons.mp rewrites
    have startsWithComma (value : TestMatch) :
        ∀ c ∈ (textOf ([operator .comma, .space] ++ value.pieces)).head?, isNeutral c :=
      neutral_operator (by decide) _
    have rewritesNext : Rewrites (more.flatMap fun value => [operator .comma, .space] ++ value.pieces)
        (Respells (Each SpellsNextMatch) (List.map (·.mapSpans fun _ => .absent)) more) := by
      apply Rewrites.flatMap
      · intro value isIn
        refine (cons_operator rfl (head?_space rfl _) (cons_space (rewritesMore value isIn))).mono ?_
        rintro _ ⟨comma, _, rfl, isComma, other, spells, same⟩
        exact ⟨other, ⟨comma, _, isComma, spells, rfl⟩, same⟩
      · exact fun value _ => startsWithComma value
    rw [List.map_cons, separated, List.flatMap_map]
    refine (rewritesFirst.append_neutral rewritesNext
      (head?_flatMap fun value _ => startsWithComma value)).mono ?_
    rintro _ ⟨_, _, rfl, ⟨other, spells, same⟩, others, each, sameMore⟩
    refine ⟨other :: others, .cons spells each, ?_⟩
    rw [List.map_cons, List.map_cons, sameMore]
    exact congrArg (· :: _) same

theorem SpellsMatches.rewrites {expected : List TestMatch} (spells : SpellsMatches expected lexemes)
    (scanned : ∀ lexeme ∈ lexemes, lexeme.IsScanned) :
    ∀ value ∈ expected, Rewrites value.pieces (RespellsMatch value) := by
  cases spells with
  | nil => nofun
  | cons spellsFirst spellsMore =>
    obtain ⟨scannedFirst, scannedMore⟩ := List.forall_mem_append.mp scanned
    refine List.forall_mem_cons.mpr ⟨spellsFirst.rewrites scannedFirst, ?_⟩
    refine (spellsMore.with_all scannedMore).forall_values ?_
    rintro value _ ⟨⟨comma, inner, -, spells, rfl⟩, scanned⟩
    exact spells.rewrites fun lexeme member => scanned lexeme (by simp [member])

/-! ## Cases -/

/-- A word that may be left out says that a text is searched. -/
theorem append_introduction {searched : Bool} {pieces : List Piece} {holds : List Lexeme → Prop}
    (rewrites : Rewrites pieces holds) :
    Rewrites ((if searched then [identifier "in", .space] else []) ++ pieces) fun written =>
      ∃ (word : Option Lexeme) (more : List Lexeme), written = word.toList ++ more ∧
        (∀ lexeme ∈ word, lexeme.IsName "in") ∧ word.isSome = searched ∧ holds more := by
  cases searched with
  | false =>
    refine rewrites.mono ?_
    intro written spelled
    exact ⟨none, written, rfl, nofun, rfl, spelled⟩
  | true =>
    refine (cons_contextual (by decide) (ends_space _ _)
      (cons_space rewrites)).mono ?_
    rintro _ ⟨word, more, rfl, isIn, spelled⟩
    refine ⟨some word, more, rfl, ?_, rfl, spelled⟩
    rintro _ ⟨⟩
    exact isIn

/-- The case with a semicolon after it, at another place. -/
def RespellsCase : TestCase → List Lexeme → Prop :=
  Respells SpellsCase (·.mapSpans fun _ => .absent)

theorem SpellsCase.rewrites {case : TestCase} (spells : SpellsCase case lexemes)
    (scanned : ∀ lexeme ∈ lexemes, lexeme.IsScanned) :
    Rewrites (case.pieces ++ [operator .semicolon]) (RespellsCase case) := by
  have rewritesStop : Rewrites [operator .semicolon] _ :=
    cons_operator rfl (fun _ _ => rfl) nil
  cases spells with
  | @whole _ _ expected _ _ spells _ =>
    have rewritesMatch := (spells.rewrites fun lexeme member => scanned lexeme
      (by simp [member])).append_neutral rewritesStop (neutral_operator (by decide) _)
    rw [TestCase.pieces, List.append_assoc]
    refine (cons_contextual (by decide) (ends_space _ _)
      (cons_space rewritesMatch)).mono ?_
    rintro _ ⟨word, _, rfl, isMatch, _, _, rfl, ⟨other, spells, same⟩, stop, _, rfl, stops, rfl⟩
    exact ⟨_, .whole isMatch spells stops, congrArg TestCase.whole same⟩
  | @within _ _ text _ expected _ _ spells _ _ _ =>
    have rewritesHaystack : Rewrites (.space :: identifier "in" :: .space ::
        quoted text.literal.content :: [operator .semicolon]) _ :=
      cons_space (cons_contextual (by decide) (ends_space _ _)
        (cons_space (cons_quoted rewritesStop)))
    have rewritesMatches := (rewrites_matches (spells.rewrites fun lexeme member => scanned lexeme
      (by simp [member]))).append_neutral rewritesHaystack (neutral_space _)
    rw [TestCase.pieces, List.append_assoc, List.append_assoc]
    refine (cons_contextual (by decide) (ends_space _ _)
      (cons_space rewritesMatches)).mono ?_
    rintro _ ⟨word, _, rfl, isMatch, _, _, rfl, ⟨others, spells, same⟩, introduction, _, rfl, isIn,
      otherText, _, rfl, ⟨isText, content_eq, -⟩, stop, _, rfl, stops, rfl⟩
    have written := SpellsCase.within isMatch spells isIn isText stops
    refine ⟨_, by simpa using written, ?_⟩
    simp only [TestCase.mapSpans, Literal.mapSpans, content_eq, same]
  | @reject _ text _ introduction _ _ _ _ =>
    have rewritesText : Rewrites (quoted text.literal.content :: [operator .semicolon]) _ :=
      cons_quoted rewritesStop
    rw [TestCase.pieces, List.append_assoc, List.append_assoc]
    refine (cons_contextual (by decide) (ends_space _ _)
      (cons_space (append_introduction rewritesText))).mono ?_
    rintro _ ⟨word, _, rfl, isReject, other, _, rfl, areIn, same, otherText, _, rfl,
      ⟨isText, content_eq, -⟩, stop, _, rfl, stops, rfl⟩
    have written := SpellsCase.reject isReject areIn isText stops
    rw [same] at written
    refine ⟨_, by simpa using written, ?_⟩
    simp only [TestCase.mapSpans, Literal.mapSpans, content_eq]

/-! ## Directives -/

theorem cons_setting {setting : Setting} {pieces : List Piece} {holds : List Lexeme → Prop}
    (neutral : ∀ c ∈ (textOf pieces).head?, isNeutral c) (rewrites : Rewrites pieces holds) :
    Rewrites (setting.piece :: pieces) fun written => ∃ lexeme more, written = lexeme :: more ∧
      SpellsSetting setting lexeme ∧ holds more := by
  cases setting with
  | lazy =>
    refine (cons_keyword (by decide) (ends_of_neutral neutral _) rewrites).mono ?_
    rintro _ ⟨word, more, rfl, isLazy, spelled⟩
    exact ⟨word, more, rfl, .lazy isLazy, spelled⟩
  | unicode =>
    refine (cons_contextual (by decide) (ends_of_neutral neutral _) rewrites).mono ?_
    rintro _ ⟨word, more, rfl, isUnicode, spelled⟩
    exact ⟨word, more, rfl, .unicode isUnicode, spelled⟩

theorem rewrites_toggle {setting : Setting} {value : Bool} {span : Span} :
    Rewrites (Directive.toggle setting value span).pieces
      (Respells SpellsDirective (·.mapSpans fun _ => .absent) (.toggle setting value span)) := by
  have rewritesStop : Rewrites [operator .semicolon] _ :=
    cons_operator rfl (fun _ _ => rfl) nil
  have rewritesSetting : Rewrites (setting.piece :: [operator .semicolon]) _ :=
    cons_setting (neutral_operator (by decide) _) rewritesStop
  cases value with
  | true =>
    refine (cons_keyword (by decide) (ends_space _ _)
      (cons_space rewritesSetting)).mono ?_
    rintro _ ⟨word, _, rfl, isEnable, target, _, rfl, spells, stop, _, rfl, stops, rfl⟩
    exact ⟨_, .toggle (.enable isEnable) spells stops, rfl⟩
  | false =>
    refine (cons_keyword (by decide) (ends_space _ _)
      (cons_space rewritesSetting)).mono ?_
    rintro _ ⟨word, _, rfl, isDisable, target, _, rfl, spells, stop, _, rfl, stops, rfl⟩
    exact ⟨_, .toggle (.disable isDisable) spells stops, rfl⟩

theorem SpellsDirective.rewrites {directive : Directive} (spells : SpellsDirective directive lexemes)
    (scanned : ∀ lexeme ∈ lexemes, lexeme.IsScanned) :
    Rewrites directive.pieces (Respells SpellsDirective (·.mapSpans fun _ => .absent) directive) := by
  cases spells with
  | toggle _ _ _ => exact rewrites_toggle
  | tests spells =>
    cases spells with
    | @block _ _ _ cases _ _ _ spells _ =>
      have rewritesEach : ∀ case ∈ cases,
          Rewrites (case.pieces ++ [operator .semicolon]) (RespellsCase case) :=
        (spells.with_all fun lexeme member => scanned lexeme (by simp [member])).forall_values
          fun _ _ scans => SpellsCase.rewrites scans.1 scans.2
      have rewritesClosing : Rewrites [.space, operator .closeBrace] _ :=
        cons_space (cons_operator rfl (fun _ _ => rfl) nil)
      have rewritesCases : Rewrites
          (cases.flatMap fun case => [.space] ++ case.pieces ++ [operator .semicolon])
          (Respells (Each SpellsCase) (List.map (·.mapSpans fun _ => .absent)) cases) := by
        apply Rewrites.flatMap
        · exact fun case isIn => cons_space (rewritesEach case isIn)
        · exact fun case _ => neutral_space _
      have rewritesInner :=
        rewritesCases.append_neutral rewritesClosing (neutral_space _)
      rw [Directive.pieces, List.append_assoc]
      refine (cons_keyword (by decide) (ends_space _ _)
        (cons_space (cons_operator rfl (fun _ _ => rfl) rewritesInner))).mono ?_
      rintro _ ⟨word, _, rfl, isTest, opening, _, rfl, opens, _, _, rfl, ⟨others, each, same⟩,
        closing, _, rfl, closes, rfl⟩
      refine ⟨_, .tests (.block isTest opens each closes), ?_⟩
      simp only [Directive.mapSpans, same]

end PatternSyntax.Grammar
