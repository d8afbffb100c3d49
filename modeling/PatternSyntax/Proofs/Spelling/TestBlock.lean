import PatternSyntax.Grammar.TestBlock
import PatternSyntax.Proofs.Spelling.Terminal

/-!
# Spellings of test blocks

The cases of a test block stand one after the other between braces. A block is
read exactly if it is spelled. The word that introduces a longer text is looked
for by its text alone, so a quoted text must not read like it; no quoted text
that was cut out of a source does.
-/

namespace PatternSyntax.Grammar

open PatternSyntax.Parser

/-! ## The spellings -/

/-- What a test calls a capturing group. -/
inductive SpellsLabel : CaptureLabel → Lexeme → Prop
  | number {lexeme : Lexeme} {index : Nat} (isCount : IsCount index lexeme) :
      SpellsLabel (.number index) lexeme
  | name {lexeme : Lexeme} (isName : lexeme.kind = .identifier) :
      SpellsLabel (.name lexeme.text) lexeme

/-- A group and the text that it is to capture. -/
inductive SpellsCapture : Capture → List Lexeme → Prop
  | capture {label : CaptureLabel} {labelLexeme colon text : Lexeme}
      (spellsLabel : SpellsLabel label labelLexeme) (isColon : colon.kind = .colon)
      (isText : text.kind = .string) :
      SpellsCapture ⟨label, labelLexeme.span, text.literal⟩ [labelLexeme, colon, text]

/-- A capture with the comma after it. -/
def SpellsSeparatedCapture (capture : Capture) (lexemes : List Lexeme) : Prop :=
  ∃ inner comma, SpellsCapture capture inner ∧ comma.kind = .comma ∧ lexemes = inner ++ [comma]

/-- The captures that a match lists. Only a capture may have a comma after it. -/
inductive SpellsCaptures : List Capture → List Lexeme → Prop
  | unlisted : SpellsCaptures [] []
  | separated {word opening closing : Lexeme} {captures : List Capture} {inner : List Lexeme}
      (isAs : word.IsName "as") (opens : opening.kind = .openBrace)
      (spells : Each SpellsSeparatedCapture captures inner) (closes : closing.kind = .closeBrace) :
      SpellsCaptures captures ([word] ++ [opening] ++ inner ++ [closing])
  | listed {word opening closing : Lexeme} {captures : List Capture} {last : Capture}
      {inner final : List Lexeme} (isAs : word.IsName "as") (opens : opening.kind = .openBrace)
      (spells : Each SpellsSeparatedCapture captures inner) (spellsLast : SpellsCapture last final)
      (closes : closing.kind = .closeBrace) :
      SpellsCaptures (captures ++ [last]) ([word] ++ [opening] ++ inner ++ final ++ [closing])

/-- A text that is to be matched, with its captures. -/
inductive SpellsMatch : TestMatch → List Lexeme → Prop
  | expected {text : Lexeme} {captures : List Capture} {inner : List Lexeme}
      (isText : text.kind = .string) (spells : SpellsCaptures captures inner) :
      SpellsMatch ⟨text.literal, captures, text.span.join (lastSpan text.span inner)⟩
        ([text] ++ inner)

/-- A match with the comma before it. -/
def SpellsNextMatch (expected : TestMatch) (lexemes : List Lexeme) : Prop :=
  ∃ comma inner, comma.kind = .comma ∧ SpellsMatch expected inner ∧ lexemes = [comma] ++ inner

/-- Any number of matches with commas between them. -/
inductive SpellsMatches : List TestMatch → List Lexeme → Prop
  | nil : SpellsMatches [] []
  | cons {first : TestMatch} {more : List TestMatch} {inner rest : List Lexeme}
      (spellsFirst : SpellsMatch first inner) (spellsMore : Each SpellsNextMatch more rest) :
      SpellsMatches (first :: more) (inner ++ rest)

/-- One case of a test block. -/
inductive SpellsCase : TestCase → List Lexeme → Prop
  | whole {word stop : Lexeme} {expected : TestMatch} {inner : List Lexeme}
      (isMatch : word.IsName "match") (spells : SpellsMatch expected inner)
      (stops : stop.kind = .semicolon) :
      SpellsCase (.whole expected) ([word] ++ inner ++ [stop])
  | within {word introduction text stop : Lexeme} {expected : List TestMatch}
      {inner : List Lexeme} (isMatch : word.IsName "match") (spells : SpellsMatches expected inner)
      (isIn : introduction.IsName "in") (isText : text.kind = .string)
      (stops : stop.kind = .semicolon) :
      SpellsCase (.within text.literal expected (word.span.join stop.span))
        ([word] ++ inner ++ [introduction] ++ [text] ++ [stop])
  | reject {word text stop : Lexeme} {introduction : Option Lexeme}
      (isReject : word.IsName "reject") (isIn : ∀ lexeme ∈ introduction, lexeme.IsName "in")
      (isText : text.kind = .string) (stops : stop.kind = .semicolon) :
      SpellsCase (.reject text.literal introduction.isSome (word.span.join stop.span))
        ([word] ++ introduction.toList ++ [text] ++ [stop])

/-- A test block. -/
inductive SpellsTests : Directive → List Lexeme → Prop
  | block {word opening closing : Lexeme} {cases : List TestCase} {inner : List Lexeme}
      (isTest : word.IsKeyword "test") (opens : opening.kind = .openBrace)
      (spells : Each SpellsCase cases inner) (closes : closing.kind = .closeBrace) :
      SpellsTests (.tests cases (word.span.join closing.span))
        ([word] ++ [opening] ++ inner ++ [closing])

variable {cursor after : Cursor}

/-! ## Captures -/

theorem captureLabel_eq_accept_iff {label : CaptureLabel} :
    captureLabel cursor = .accept label after ↔
      ∃ lexeme, SpellsLabel label lexeme ∧ cursor.Reads [lexeme] after := by
  simp only [captureLabel, orElse_eq_accept_iff, bind_eq_accept_iff, number_eq_accept_iff,
    accept_eq_accept_iff, pure_eq_accept_iff]
  constructor
  · rintro (⟨index, _, ⟨lexeme, isCount, reads⟩, rfl, rfl⟩ |
      ⟨-, lexeme, _, ⟨isName, reads⟩, rfl, rfl⟩)
    · exact ⟨lexeme, .number isCount, reads⟩
    · exact ⟨lexeme, .name isName, reads⟩
  · rintro ⟨lexeme, spells, reads⟩
    cases spells with
    | number isCount => exact .inl ⟨_, after, ⟨lexeme, isCount, reads⟩, rfl, rfl⟩
    | name isName =>
      refine .inr ⟨bind_eq_decline ?_, lexeme, after, ⟨isName, reads⟩, rfl, rfl⟩
      rw [number_eq_decline_iff]
      simp [reads.rest, isName]

theorem captureLabel_eq_decline_iff :
    captureLabel cursor = .decline ↔
      ∀ lexeme ∈ cursor.rest.head?, lexeme.kind ≠ .number ∧ lexeme.kind ≠ .identifier := by
  simp only [captureLabel, orElse_eq_decline_iff, accept_eq_decline_iff, number_eq_decline_iff,
    bind_eq_decline_iff_of_commits fun _ => commits_pure _]
  cases cursor.rest <;> simp

theorem capture_eq_accept_iff {expected : Capture} :
    capture cursor = .accept expected after ↔
      ∃ lexemes, SpellsCapture expected lexemes ∧ cursor.Reads lexemes after := by
  simp only [capture, bind_eq_accept_iff, captureLabel_eq_accept_iff, previous_bind_apply,
    expect_eq_accept_iff, expectLiteral_eq_accept_iff, pure_eq_accept_iff]
  constructor
  · rintro ⟨label, afterLabel, ⟨lexeme, spells, readsLabel⟩, colon, _, ⟨isColon, readsColon⟩, _, _,
      ⟨text, ⟨isText, rfl⟩, readsText⟩, rfl, rfl⟩
    rw [readsLabel.previous]
    exact ⟨_, .capture spells isColon isText, (readsLabel.trans readsColon).trans readsText⟩
  · rintro ⟨lexemes, @⟨label, lexeme, colon, text, spells, isColon, isText⟩, reads⟩
    obtain ⟨afterLabel, readsLabel, reads⟩ := Cursor.reads_cons_iff.mp reads
    obtain ⟨afterColon, readsColon, readsText⟩ := Cursor.reads_cons_iff.mp reads
    refine ⟨label, afterLabel, ⟨lexeme, spells, readsLabel⟩, colon, afterColon,
      ⟨isColon, readsColon⟩, text.literal, after, ⟨text, ⟨isText, rfl⟩, readsText⟩, ?_, rfl⟩
    rw [readsLabel.previous]
    rfl

theorem capture_eq_decline_iff :
    capture cursor = .decline ↔
      ∀ lexeme ∈ cursor.rest.head?, lexeme.kind ≠ .number ∧ lexeme.kind ≠ .identifier := by
  rw [capture, bind_eq_decline_iff_of_commits, captureLabel_eq_decline_iff]
  exact fun _ => commits_previous.bind fun _ => (commits_expect _).bind fun _ =>
    commits_expectLiteral.bind fun _ => commits_pure _

theorem separatedCapture_eq_accept_iff {expected : Capture} :
    (capture <* accept .comma) cursor = .accept expected after ↔
      ∃ lexemes, SpellsSeparatedCapture expected lexemes ∧ cursor.Reads lexemes after := by
  simp only [seqLeft_eq_accept_iff, capture_eq_accept_iff, accept_eq_accept_iff]
  constructor
  · rintro ⟨between, comma, ⟨inner, spells, readsInner⟩, isComma, readsComma⟩
    exact ⟨_, ⟨inner, comma, spells, isComma, rfl⟩, readsInner.trans readsComma⟩
  · rintro ⟨lexemes, ⟨inner, comma, spells, isComma, rfl⟩, reads⟩
    obtain ⟨between, readsInner, readsComma⟩ := Cursor.reads_append_iff.mp reads
    exact ⟨between, comma, ⟨inner, spells, readsInner⟩, isComma, readsComma⟩

theorem separatedCapture_progresses : (capture <* accept .comma).Progresses :=
  progresses_of_reads fun _ _ _ accepted =>
    let ⟨lexemes, ⟨_, _, _, _, split⟩, reads⟩ := separatedCapture_eq_accept_iff.mp accepted
    ⟨lexemes, by simp [split], reads⟩

theorem spellsCaptures_of_captures {listed : List Capture}
    (accepted : captures cursor = .accept listed after) :
    ∃ lexemes, SpellsCaptures listed lexemes ∧ cursor.Reads lexemes after := by
  simp only [captures, bind_eq_accept_iff] at accepted
  obtain ⟨word, afterWord, isAs, accepted⟩ := accepted
  cases word with
  | none =>
    rw [optional_eq_accept_none_iff] at isAs
    rcases isAs with ⟨-, rfl⟩
    rw [pure_eq_accept_iff] at accepted
    rcases accepted with ⟨rfl, rfl⟩
    exact ⟨[], .unlisted, Cursor.reads_nil_iff.mpr rfl⟩
  | some word =>
    rw [optional_eq_accept_some_iff, contextual_eq_accept_iff] at isAs
    simp only [bind_eq_accept_iff, expect_eq_accept_iff, sepEndBy, pure_eq_accept_iff,
      many_eq_accept_iff separatedCapture_progresses] at accepted
    obtain ⟨opening, _, ⟨opens, readsOpening⟩, _, _, ⟨separated, _, repeats, last, _, lastAccepted,
      rfl, rfl⟩, closing, _, ⟨closes, readsClosing⟩, rfl, rfl⟩ := accepted
    obtain ⟨inner, spells, readsInner⟩ := repeats.each fun _ _ _ =>
      separatedCapture_eq_accept_iff.mp
    have reads := (isAs.2.trans readsOpening).trans readsInner
    cases last with
    | none =>
      rw [optional_eq_accept_none_iff] at lastAccepted
      rcases lastAccepted with ⟨-, rfl⟩
      rw [Option.toList_none, List.append_nil]
      exact ⟨_, .separated isAs.1 opens spells closes, reads.trans readsClosing⟩
    | some last =>
      rw [optional_eq_accept_some_iff, capture_eq_accept_iff] at lastAccepted
      obtain ⟨final, spellsLast, readsLast⟩ := lastAccepted
      exact ⟨_, .listed isAs.1 opens spells spellsLast closes,
        (reads.trans readsLast).trans readsClosing⟩

theorem captures_of_spellsCaptures {listed : List Capture} {lexemes : List Lexeme}
    (spells : SpellsCaptures listed lexemes) (reads : cursor.Reads lexemes after)
    (complete : ∀ lexeme ∈ after.rest.head?, ¬lexeme.IsName "as") :
    captures cursor = .accept listed after := by
  have separatedRepeats {values : List Capture} {inner : List Lexeme} {before between : Cursor}
      (spells : Each SpellsSeparatedCapture values inner) (reads : before.Reads inner between)
      (declined : (capture <* accept .comma) between = .decline) :
      (many (capture <* accept .comma)) before = .accept values between :=
    (many_eq_accept_iff separatedCapture_progresses).mpr <|
      spells.repeats (fun _ => True)
        (fun _ _ lexemes _ spells reads _ =>
          separatedCapture_eq_accept_iff.mpr ⟨lexemes, spells, reads⟩)
        (fun _ _ _ _ => trivial) reads trivial declined
  cases spells with
  | unlisted =>
    rw [Cursor.reads_nil_iff] at reads
    subst reads
    rw [captures, bind_eq_accept_iff]
    refine ⟨none, after, ?_, rfl⟩
    rw [optional_eq_accept_none_iff, contextual_eq_decline_iff]
    exact ⟨complete, rfl⟩
  | @separated word opening closing _ inner isAs opens spells closes =>
    simp only [Cursor.reads_append_iff] at reads
    obtain ⟨beforeClosing, ⟨afterOpening, ⟨afterWord, readsWord, readsOpening⟩, readsInner⟩,
      readsClosing⟩ := reads
    have noCapture : capture beforeClosing = .decline := by
      rw [capture_eq_decline_iff]
      simp [readsClosing.rest, closes]
    have noSeparated : (capture <* accept .comma) beforeClosing = .decline :=
      bind_eq_decline noCapture
    simp only [captures, sepEndBy, bind_eq_accept_iff]
    refine ⟨some word, afterWord, optional_eq_accept_some_iff.mpr
      (contextual_eq_accept_iff.mpr ⟨isAs, readsWord⟩), ?_⟩
    simp only [bind_eq_accept_iff, expect_eq_accept_iff]
    refine ⟨opening, afterOpening, ⟨opens, readsOpening⟩, listed, beforeClosing,
      ⟨listed, beforeClosing, separatedRepeats spells readsInner noSeparated, none, beforeClosing,
        optional_eq_accept_none_iff.mpr ⟨noCapture, rfl⟩, ?_⟩, closing, after,
      ⟨closes, readsClosing⟩, rfl⟩
    rw [Option.toList_none, List.append_nil]
    rfl
  | @listed word opening closing separated last inner final isAs opens spells spellsLast closes =>
    simp only [Cursor.reads_append_iff] at reads
    obtain ⟨beforeClosing, ⟨beforeLast, ⟨afterOpening, ⟨afterWord, readsWord, readsOpening⟩,
      readsInner⟩, readsLast⟩, readsClosing⟩ := reads
    have lastAccepted : capture beforeLast = .accept last beforeClosing :=
      capture_eq_accept_iff.mpr ⟨final, spellsLast, readsLast⟩
    have noSeparated : (capture <* accept .comma) beforeLast = .decline := by
      refine bind_eq_decline_iff.mpr (.inr ⟨last, beforeClosing, lastAccepted, bind_eq_decline ?_⟩)
      rw [accept_eq_decline_iff]
      simp [readsClosing.rest, closes]
    simp only [captures, sepEndBy, bind_eq_accept_iff]
    refine ⟨some word, afterWord, optional_eq_accept_some_iff.mpr
      (contextual_eq_accept_iff.mpr ⟨isAs, readsWord⟩), ?_⟩
    simp only [bind_eq_accept_iff, expect_eq_accept_iff]
    exact ⟨opening, afterOpening, ⟨opens, readsOpening⟩, separated ++ [last], beforeClosing,
      ⟨separated, beforeLast, separatedRepeats spells readsInner noSeparated, some last,
        beforeClosing, optional_eq_accept_some_iff.mpr lastAccepted, rfl⟩, closing, after,
      ⟨closes, readsClosing⟩, rfl⟩

/-! ## Matches -/

theorem spellsMatch_of_testMatch {expected : TestMatch}
    (accepted : testMatch cursor = .accept expected after) :
    ∃ lexemes, SpellsMatch expected lexemes ∧ cursor.Reads lexemes after := by
  simp only [testMatch, bind_eq_accept_iff, previous_bind_apply, expectLiteral_eq_accept_iff,
    pure_eq_accept_iff] at accepted
  obtain ⟨_, afterText, ⟨text, ⟨isText, rfl⟩, readsText⟩, listed, _, accepted, rfl, rfl⟩ := accepted
  obtain ⟨inner, spells, readsInner⟩ := spellsCaptures_of_captures accepted
  rw [readsInner.previous, readsText.previous]
  exact ⟨_, .expected isText spells, readsText.trans readsInner⟩

theorem testMatch_of_spellsMatch {expected : TestMatch} {lexemes : List Lexeme}
    (spells : SpellsMatch expected lexemes) (reads : cursor.Reads lexemes after)
    (complete : ∀ lexeme ∈ after.rest.head?, ¬lexeme.IsName "as") :
    testMatch cursor = .accept expected after := by
  obtain @⟨text, listed, inner, isText, spells⟩ := spells
  obtain ⟨afterText, readsText, readsInner⟩ := Cursor.reads_append_iff.mp reads
  simp only [testMatch, bind_eq_accept_iff, previous_bind_apply, expectLiteral_eq_accept_iff]
  refine ⟨text.literal, afterText, ⟨text, ⟨isText, rfl⟩, readsText⟩, listed, after,
    captures_of_spellsCaptures spells readsInner complete, ?_⟩
  rw [readsInner.previous, readsText.previous]
  rfl

theorem SpellsMatch.ne_nil {expected : TestMatch} {lexemes : List Lexeme}
    (spells : SpellsMatch expected lexemes) : lexemes ≠ [] := by
  cases spells
  simp

theorem spellsNextMatch_of_accepted {expected : TestMatch}
    (accepted : (accept .comma *> testMatch) cursor = .accept expected after) :
    ∃ lexemes, SpellsNextMatch expected lexemes ∧ cursor.Reads lexemes after := by
  simp only [seqRight_eq_accept_iff, accept_eq_accept_iff] at accepted
  obtain ⟨comma, _, ⟨isComma, readsComma⟩, accepted⟩ := accepted
  obtain ⟨inner, spells, readsInner⟩ := spellsMatch_of_testMatch accepted
  exact ⟨_, ⟨comma, inner, isComma, spells, rfl⟩, readsComma.trans readsInner⟩

theorem nextMatch_progresses : (accept .comma *> testMatch).Progresses :=
  progresses_of_reads fun _ _ _ accepted =>
    let ⟨lexemes, ⟨_, _, _, _, split⟩, reads⟩ := spellsNextMatch_of_accepted accepted
    ⟨lexemes, by simp [split], reads⟩

theorem spellsMatches_of_testMatches {expected : List TestMatch}
    (accepted : testMatches cursor = .accept expected after) :
    ∃ lexemes, SpellsMatches expected lexemes ∧ cursor.Reads lexemes after := by
  simp only [testMatches, bind_eq_accept_iff] at accepted
  obtain ⟨text, between, peeked, accepted⟩ := accepted
  have stays : cursor = between := by
    simp only [nextText] at peeked
    split at peeked <;> cases peeked <;> rfl
  subst stays
  split at accepted
  · rw [pure_eq_accept_iff] at accepted
    rcases accepted with ⟨rfl, rfl⟩
    exact ⟨[], .nil, Cursor.reads_nil_iff.mpr rfl⟩
  · simp only [sepBy, bind_eq_accept_iff, many_eq_accept_iff nextMatch_progresses,
      pure_eq_accept_iff] at accepted
    obtain ⟨first, _, firstAccepted, more, _, repeats, rfl, rfl⟩ := accepted
    obtain ⟨inner, spellsFirst, readsFirst⟩ := spellsMatch_of_testMatch firstAccepted
    obtain ⟨rest, spellsMore, readsMore⟩ := repeats.each fun _ _ _ => spellsNextMatch_of_accepted
    exact ⟨_, .cons spellsFirst spellsMore, readsFirst.trans readsMore⟩

/-- What may follow the matches of a case. -/
def EndsMatches (rest : List Lexeme) : Prop :=
  ∀ lexeme ∈ rest.head?, lexeme.kind ≠ .comma ∧ ¬lexeme.IsName "as"

theorem testMatches_of_spellsMatches {first : TestMatch} {more : List TestMatch}
    {inner rest : List Lexeme} (spellsFirst : SpellsMatch first inner)
    (spellsMore : Each SpellsNextMatch more rest) (reads : cursor.Reads (inner ++ rest) after)
    (quoted : ∀ lexeme ∈ inner, lexeme.kind = .string → lexeme.text ≠ "in")
    (ends : EndsMatches after.rest) : testMatches cursor = .accept (first :: more) after := by
  obtain ⟨between, readsFirst, readsMore⟩ := Cursor.reads_append_iff.mp reads
  have notIn : ∃ text, text ≠ "in" ∧ nextText cursor = .accept text cursor := by
    obtain @⟨text, _, _, isText, _⟩ := spellsFirst
    refine ⟨text.text, quoted text (by simp) isText, ?_⟩
    simp [nextText, readsFirst.rest]
  obtain ⟨text, notIn, peeked⟩ := notIn
  have nextStarts (expected : TestMatch) (lexemes rest : List Lexeme)
      (spells : SpellsNextMatch expected lexemes) :
      ∀ lexeme ∈ (lexemes ++ rest).head?, ¬lexeme.IsName "as" := by
    obtain ⟨comma, inner, isComma, -, rfl⟩ := spells
    simp [Lexeme.IsName, isComma]
  rw [testMatches, bind_eq_accept_iff]
  refine ⟨text, cursor, peeked, ?_⟩
  rw [if_neg notIn]
  simp only [sepBy, bind_eq_accept_iff, many_eq_accept_iff nextMatch_progresses]
  refine ⟨first, between, testMatch_of_spellsMatch spellsFirst readsFirst ?_, more, after, ?_, rfl⟩
  · rw [readsMore.rest]
    cases spellsMore with
    | nil => exact fun lexeme first => (ends lexeme first).2
    | cons head tail =>
      rw [List.append_assoc]
      exact nextStarts _ _ _ head
  · refine spellsMore.repeats (fun rest => ∀ lexeme ∈ rest.head?, ¬lexeme.IsName "as")
      (fun before expected lexemes after spells reads ends => ?_) nextStarts readsMore
      (fun lexeme first => (ends lexeme first).2)
      (seqRight_eq_decline (accept_eq_decline_iff.mpr fun lexeme first => (ends lexeme first).1))
    obtain ⟨comma, inner, isComma, spells, rfl⟩ := spells
    obtain ⟨between, readsComma, readsInner⟩ := Cursor.reads_append_iff.mp reads
    exact seqRight_eq_accept_iff.mpr ⟨comma, between,
      accept_eq_accept_iff.mpr ⟨isComma, readsComma⟩,
      testMatch_of_spellsMatch spells readsInner ends⟩

/-! ## Cases -/

theorem haystack_eq_accept_iff {text : Literal} :
    haystack cursor = .accept text after ↔
      ∃ introduction lexeme, introduction.IsName "in" ∧ lexeme.kind = .string ∧
        lexeme.literal = text ∧ cursor.Reads ([introduction] ++ [lexeme]) after := by
  simp only [haystack, bind_eq_accept_iff, contextual_eq_accept_iff, expectLiteral_eq_accept_iff,
    Cursor.reads_append_iff]
  constructor
  · rintro ⟨introduction, between, ⟨isIn, readsIn⟩, lexeme, ⟨isText, same⟩, readsText⟩
    exact ⟨introduction, lexeme, isIn, isText, same, between, readsIn, readsText⟩
  · rintro ⟨introduction, lexeme, isIn, isText, same, between, readsIn, readsText⟩
    exact ⟨introduction, between, ⟨isIn, readsIn⟩, lexeme, ⟨isText, same⟩, readsText⟩

theorem haystack_eq_decline_iff :
    haystack cursor = .decline ↔ ∀ lexeme ∈ cursor.rest.head?, ¬lexeme.IsName "in" := by
  rw [haystack, bind_eq_decline_iff_of_commits fun _ => commits_expectLiteral,
    contextual_eq_decline_iff]

theorem spellsCase_of_matchCase {testCase : TestCase}
    (accepted : matchCase cursor = .accept testCase after) :
    ∃ lexemes, SpellsCase testCase lexemes ∧ cursor.Reads lexemes after := by
  simp only [matchCase, bind_eq_accept_iff, contextual_eq_accept_iff,
    expect_eq_accept_iff] at accepted
  obtain ⟨word, _, ⟨isMatch, readsWord⟩, expected, between, matched, within, beforeStop, introduced,
    stop, _, ⟨stops, readsStop⟩, accepted⟩ := accepted
  obtain ⟨inner, spells, readsInner⟩ := spellsMatches_of_testMatches matched
  have reads := readsWord.trans readsInner
  cases within with
  | some text =>
    rw [optional_eq_accept_some_iff, haystack_eq_accept_iff] at introduced
    obtain ⟨introduction, lexeme, isIn, isText, rfl, readsText⟩ := introduced
    rw [pure_eq_accept_iff] at accepted
    rcases accepted with ⟨rfl, rfl⟩
    refine ⟨_, .within isMatch spells isIn isText stops, ?_⟩
    simpa using (reads.trans readsText).trans readsStop
  | none =>
    rw [optional_eq_accept_none_iff] at introduced
    rcases introduced with ⟨-, rfl⟩
    cases spells with
    | nil => simp at accepted
    | cons spellsFirst spellsMore =>
      cases spellsMore with
      | nil =>
        rw [pure_eq_accept_iff] at accepted
        rcases accepted with ⟨rfl, rfl⟩
        rw [List.append_nil] at reads
        exact ⟨_, .whole isMatch spellsFirst stops, reads.trans readsStop⟩
      | cons spellsSecond spellsMore => simp at accepted

theorem spellsCase_of_rejectCase {testCase : TestCase}
    (accepted : rejectCase cursor = .accept testCase after) :
    ∃ lexemes, SpellsCase testCase lexemes ∧ cursor.Reads lexemes after := by
  simp only [rejectCase, bind_eq_accept_iff, contextual_eq_accept_iff, expectLiteral_eq_accept_iff,
    expect_eq_accept_iff, pure_eq_accept_iff] at accepted
  obtain ⟨word, afterWord, ⟨isReject, readsWord⟩, introduction, between, introduced, _, _,
    ⟨text, ⟨isText, rfl⟩, readsText⟩, stop, _, ⟨stops, readsStop⟩, rfl, rfl⟩ := accepted
  have isIn : ∀ lexeme ∈ introduction, lexeme.IsName "in" := by
    rintro lexeme rfl
    exact (contextual_eq_accept_iff.mp (optional_eq_accept_some_iff.mp introduced)).1
  have readsIn : afterWord.Reads introduction.toList between := by
    cases introduction with
    | none => exact Cursor.reads_nil_iff.mpr (optional_eq_accept_none_iff.mp introduced).2.symm
    | some lexeme =>
      exact (contextual_eq_accept_iff.mp (optional_eq_accept_some_iff.mp introduced)).2
  exact ⟨_, .reject isReject isIn isText stops,
    ((readsWord.trans readsIn).trans readsText).trans readsStop⟩

theorem matchCase_of_whole {word stop : Lexeme} {expected : TestMatch} {inner : List Lexeme}
    (isMatch : word.IsName "match") (spells : SpellsMatch expected inner)
    (stops : stop.kind = .semicolon)
    (quoted : ∀ lexeme ∈ inner, lexeme.kind = .string → lexeme.text ≠ "in")
    (reads : cursor.Reads ([word] ++ inner ++ [stop]) after) :
    matchCase cursor = .accept (.whole expected) after := by
  simp only [Cursor.reads_append_iff] at reads
  obtain ⟨beforeStop, ⟨afterWord, readsWord, readsInner⟩, readsStop⟩ := reads
  simp only [matchCase, bind_eq_accept_iff, contextual_eq_accept_iff, expect_eq_accept_iff]
  refine ⟨word, afterWord, ⟨isMatch, readsWord⟩, [expected], beforeStop,
    testMatches_of_spellsMatches spells .nil (by rwa [List.append_nil]) quoted ?_, none, beforeStop,
    optional_eq_accept_none_iff.mpr ⟨haystack_eq_decline_iff.mpr ?_, rfl⟩, stop, after,
    ⟨stops, readsStop⟩, rfl⟩
  · simp [EndsMatches, Lexeme.IsName, readsStop.rest, stops]
  · simp [Lexeme.IsName, readsStop.rest, stops]

theorem matchCase_of_within {word introduction text stop : Lexeme} {expected : List TestMatch}
    {inner : List Lexeme} (isMatch : word.IsName "match") (spells : SpellsMatches expected inner)
    (isIn : introduction.IsName "in") (isText : text.kind = .string)
    (stops : stop.kind = .semicolon)
    (quoted : ∀ lexeme ∈ inner, lexeme.kind = .string → lexeme.text ≠ "in")
    (reads : cursor.Reads ([word] ++ inner ++ [introduction] ++ [text] ++ [stop]) after) :
    matchCase cursor =
      .accept (.within text.literal expected (word.span.join stop.span)) after := by
  simp only [Cursor.reads_append_iff] at reads
  obtain ⟨beforeStop, ⟨beforeText, ⟨beforeIn, ⟨afterWord, readsWord, readsInner⟩, readsIn⟩,
    readsText⟩, readsStop⟩ := reads
  have matched : testMatches afterWord = .accept expected beforeIn := by
    cases spells with
    | nil =>
      rw [Cursor.reads_nil_iff] at readsInner
      subst readsInner
      rw [testMatches, bind_eq_accept_iff]
      refine ⟨"in", beforeIn, ?_, rfl⟩
      simp [nextText, readsIn.rest, isIn.2]
    | cons spellsFirst spellsMore =>
      refine testMatches_of_spellsMatches spellsFirst spellsMore readsInner
        (fun lexeme member => quoted lexeme (List.mem_append_left _ member)) ?_
      simp [EndsMatches, Lexeme.IsName, readsIn.rest, isIn.1, isIn.2]
  simp only [matchCase, bind_eq_accept_iff, contextual_eq_accept_iff, expect_eq_accept_iff]
  exact ⟨word, afterWord, ⟨isMatch, readsWord⟩, expected, beforeIn, matched, some text.literal,
    beforeStop, optional_eq_accept_some_iff.mpr (haystack_eq_accept_iff.mpr
      ⟨introduction, text, isIn, isText, rfl, readsIn.trans readsText⟩), stop, after,
    ⟨stops, readsStop⟩, rfl⟩

theorem rejectCase_of_reject {word text stop : Lexeme} {introduction : Option Lexeme}
    (isReject : word.IsName "reject") (isIn : ∀ lexeme ∈ introduction, lexeme.IsName "in")
    (isText : text.kind = .string) (stops : stop.kind = .semicolon)
    (reads : cursor.Reads ([word] ++ introduction.toList ++ [text] ++ [stop]) after) :
    rejectCase cursor =
      .accept (.reject text.literal introduction.isSome (word.span.join stop.span)) after := by
  simp only [Cursor.reads_append_iff] at reads
  obtain ⟨beforeStop, ⟨beforeText, ⟨afterWord, readsWord, readsIn⟩, readsText⟩, readsStop⟩ := reads
  simp only [rejectCase, bind_eq_accept_iff, contextual_eq_accept_iff, expect_eq_accept_iff,
    expectLiteral_eq_accept_iff]
  refine ⟨word, afterWord, ⟨isReject, readsWord⟩, introduction, beforeText, ?_, text.literal,
    beforeStop, ⟨text, ⟨isText, rfl⟩, readsText⟩, stop, after, ⟨stops, readsStop⟩, rfl⟩
  cases introduction with
  | none =>
    rw [Option.toList_none, Cursor.reads_nil_iff] at readsIn
    subst readsIn
    rw [optional_eq_accept_none_iff, contextual_eq_decline_iff]
    simp [Lexeme.IsName, readsText.rest, isText]
  | some lexeme =>
    rw [optional_eq_accept_some_iff, contextual_eq_accept_iff]
    exact ⟨isIn lexeme rfl, readsIn⟩

theorem spellsCase_of_testCase {case : TestCase} (accepted : testCase cursor = .accept case after) :
    ∃ lexemes, SpellsCase case lexemes ∧ cursor.Reads lexemes after := by
  rw [testCase, orElse_eq_accept_iff] at accepted
  rcases accepted with accepted | ⟨-, accepted⟩
  · exact spellsCase_of_matchCase accepted
  · exact spellsCase_of_rejectCase accepted

theorem SpellsCase.ne_nil {case : TestCase} {lexemes : List Lexeme}
    (spells : SpellsCase case lexemes) : lexemes ≠ [] := by
  cases spells <;> simp

theorem testCase_progresses : testCase.Progresses :=
  progresses_of_reads fun _ _ _ accepted =>
    let ⟨lexemes, spells, reads⟩ := spellsCase_of_testCase accepted
    ⟨lexemes, spells.ne_nil, reads⟩

theorem matchCase_eq_decline
    (other : ∀ lexeme ∈ cursor.rest.head?, ¬lexeme.IsName "match") : matchCase cursor = .decline :=
  bind_eq_decline (contextual_eq_decline_iff.mpr other)

theorem testCase_of_spellsCase {case : TestCase} {lexemes : List Lexeme}
    (spells : SpellsCase case lexemes) (reads : cursor.Reads lexemes after)
    (quoted : ∀ lexeme ∈ lexemes, lexeme.kind = .string → lexeme.text ≠ "in") :
    testCase cursor = .accept case after := by
  rw [testCase, orElse_eq_accept_iff]
  cases spells with
  | whole isMatch spells stops =>
    exact .inl (matchCase_of_whole isMatch spells stops
      (fun lexeme member => quoted lexeme (by simp [member])) reads)
  | within isMatch spells isIn isText stops =>
    exact .inl (matchCase_of_within isMatch spells isIn isText stops
      (fun lexeme member => quoted lexeme (by simp [member])) reads)
  | reject isReject isIn isText stops =>
    refine .inr ⟨matchCase_eq_decline ?_, rejectCase_of_reject isReject isIn isText stops reads⟩
    simp [Lexeme.IsName, reads.rest, isReject.2]

/-! ## Whole blocks -/

theorem testBlock_eq_accept_imp {directive : Directive} {span : Span}
    (accepted : testBlock cursor = .accept (directive, span) after) :
    ∃ lexemes, SpellsTests directive lexemes ∧ cursor.Reads lexemes after ∧
      span = cursor.span.join after.previous := by
  simp only [testBlock, bind_eq_accept_iff, keyword_eq_accept_iff, expect_eq_accept_iff,
    pure_eq_accept_iff, many_eq_accept_iff testCase_progresses, Prod.mk.injEq] at accepted
  obtain ⟨word, _, ⟨isTest, readsWord⟩, opening, _, ⟨opens, readsOpening⟩, cases, _, repeats,
    closing, _, ⟨closes, readsClosing⟩, ⟨rfl, rfl⟩, rfl⟩ := accepted
  obtain ⟨inner, spells, readsInner⟩ := repeats.each fun _ _ _ => spellsCase_of_testCase
  refine ⟨_, .block isTest opens spells closes,
    ((readsWord.trans readsOpening).trans readsInner).trans readsClosing, ?_⟩
  rw [readsWord.span_eq, readsClosing.previous]
  rfl

theorem testBlock_of_spellsTests {directive : Directive} {lexemes : List Lexeme}
    (spells : SpellsTests directive lexemes) (reads : cursor.Reads lexemes after)
    (quoted : ∀ lexeme ∈ lexemes, lexeme.kind = .string → lexeme.text ≠ "in") :
    testBlock cursor = .accept (directive, cursor.span.join after.previous) after := by
  obtain @⟨word, opening, closing, cases, inner, isTest, opens, spells, closes⟩ := spells
  simp only [Cursor.reads_append_iff] at reads
  obtain ⟨beforeClosing, ⟨afterOpening, ⟨afterWord, readsWord, readsOpening⟩, readsInner⟩,
    readsClosing⟩ := reads
  simp only [testBlock, bind_eq_accept_iff, keyword_eq_accept_iff, expect_eq_accept_iff,
    many_eq_accept_iff testCase_progresses]
  refine ⟨word, afterWord, ⟨isTest, readsWord⟩, opening, afterOpening, ⟨opens, readsOpening⟩, cases,
    beforeClosing, ?_, closing, after, ⟨closes, readsClosing⟩, ?_⟩
  · have quotedInner : ∀ lexeme ∈ inner, lexeme.kind = .string → lexeme.text ≠ "in" :=
      fun lexeme member => quoted lexeme (by simp [member])
    have declined : testCase beforeClosing = .decline := by
      refine orElse_eq_decline_iff.mpr ⟨matchCase_eq_decline ?_,
        bind_eq_decline (contextual_eq_decline_iff.mpr ?_)⟩ <;>
        simp [Lexeme.IsName, readsClosing.rest, closes]
    exact (spells.with_all quotedInner).repeats (fun _ => True)
      (fun _ _ _ _ spells reads _ => testCase_of_spellsCase spells.1 reads spells.2)
      (fun _ _ _ _ => trivial) readsInner trivial declined
  · rw [readsClosing.previous, readsWord.span_eq]
    rfl

theorem testBlock_eq_decline_iff :
    testBlock cursor = .decline ↔ ∀ lexeme ∈ cursor.rest.head?, ¬lexeme.IsKeyword "test" := by
  rw [testBlock, bind_eq_decline_iff_of_commits, keyword_eq_decline_iff]
  exact fun _ => (commits_expect _).bind fun _ => (commits_many testCase_progresses).bind fun _ =>
    (commits_expect _).bind fun _ => commits_pure _

end PatternSyntax.Grammar
