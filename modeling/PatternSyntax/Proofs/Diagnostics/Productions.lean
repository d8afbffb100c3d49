import PatternSyntax.Proofs.Diagnostics.Blame

/-!
# Blame in productions

Every production below the level of expressions blames rightly. Most faults are about the
next lexeme, or about one that was read right before. Where a fault is about more, what
it covers is spelled by the lexemes that were read.
-/

namespace PatternSyntax.Grammar

open PatternSyntax.Parser
open PatternSyntax.Text

variable {α : Type} {origin cursor : Cursor} {lexemes : List Lexeme}

/-! ## Single lexemes -/

theorem blames_accept (kind : TokenKind) : (accept kind).Blames :=
  blames_acceptMap _

theorem blames_keyword (word : String) : (keyword word).Blames :=
  blames_acceptMap _

theorem blames_contextual (word : String) : (contextual word).Blames :=
  blames_acceptMap _

theorem blames_expect (kind : TokenKind) : (expect kind).Blames :=
  (blames_accept kind).orFail (fun _ => rfl) fun _ => .head _

theorem blames_number (read : List Char → Option α) : (number read).Blames := by
  intro cursor ordered
  refine blames_bind_after (blames_accept _ cursor ordered) fun lexeme between accepted => ?_
  obtain ⟨isNumber, reads⟩ := accept_eq_accept_iff.mp accepted
  cases read lexeme.text.toList with
  | some value => exact .accept reads
  | none => exact .fail (.single [] _ reads.rest ⟨lexeme, isNumber, rfl⟩ rfl)

theorem blames_expectNumber (read : List Char → Option α) : (expectNumber read).Blames :=
  (blames_number read).orFail (fun _ => rfl) fun _ => .head _

theorem blames_literal : literal.Blames :=
  (blames_accept _).bind fun _ => blames_pure _

theorem blames_expectLiteral : expectLiteral.Blames :=
  blames_literal.orFail (fun _ => rfl) fun _ => .head _

theorem blames_codePoint : codePoint.Blames := by
  intro cursor ordered
  refine blames_bind_after (blames_accept _ cursor ordered) fun lexeme between accepted => ?_
  obtain ⟨isCodePoint, reads⟩ := accept_eq_accept_iff.mp accepted
  cases codePointChar? lexeme.text.toList with
  | some c => exact .accept reads
  | none => exact .fail (.single [] _ reads.rest ⟨lexeme, isCodePoint, rfl⟩ rfl)

/-! ## Character classes -/

theorem SpellsUnit.isString_of_text {unit : ClassUnit} {lexeme : Lexeme} {content : List Char}
    (spells : SpellsUnit unit lexeme) (isText : unit = .text content) : lexeme.kind = .string := by
  cases spells with
  | text isString => exact isString
  | codePoint | control => cases isText

theorem blames_endpoint (before : List Lexeme) {after : List Lexeme} {unit : ClassUnit}
    {lexeme : Lexeme} (spells : SpellsUnit unit lexeme) (split : origin.rest = before ++ lexeme :: after)
    (reads : origin.Reads lexemes cursor) :
    ((unit.endpoint lexeme.span) cursor).Blames origin := by
  cases unit with
  | char c => exact .accept reads
  | text content =>
    have isString := spells.isString_of_text rfl
    rcases content with _ | ⟨c, _ | ⟨second, more⟩⟩
    · exact .fail (.single before after split ⟨lexeme, isString, rfl⟩ rfl)
    · exact .accept reads
    · exact .fail (.single before after split ⟨lexeme, isString, rfl⟩ rfl)

theorem blames_classUnit : classUnit.Blames :=
  .orElse ((blames_accept _).bind fun _ => blames_pure _) <|
    .orElse (blames_codePoint.bind fun _ => blames_pure _) (blames_acceptMap _)

theorem blames_unitOrRange : unitOrRange.Blames := by
  intro cursor ordered
  have required : (classUnit.orFail (.missing "code point or character")).Blames :=
    blames_classUnit.orFail (fun _ => rfl) fun _ => .tail _ (.head _)
  rw [unitOrRange, here_bind_apply]
  refine blames_bind_after (blames_classUnit cursor ordered) fun first between accepted => ?_
  obtain ⟨firstLexeme, spellsFirst, readsFirst⟩ := classUnit_eq_accept_iff.mp accepted
  rw [optional_bind_eq_either, readsFirst.span_eq]
  refine blames_either_after ((blames_accept _).after ordered readsFirst)
    (fun dash beyond accepted => ?_) (.accept readsFirst)
  obtain ⟨isDash, readsDash⟩ := accept_eq_accept_iff.mp accepted
  dsimp only
  rw [here_bind_apply]
  refine blames_bind_after (required.after ordered (readsFirst.trans readsDash))
    fun last after accepted => ?_
  rw [orFail_eq_accept_iff] at accepted
  obtain ⟨lastLexeme, spellsLast, readsLast⟩ := classUnit_eq_accept_iff.mp accepted
  have reads := (readsFirst.trans readsDash).trans readsLast
  rw [readsLast.span_eq]
  refine blames_bind_after (blames_endpoint [] spellsFirst reads.rest reads) fun lower _ accepted => ?_
  obtain ⟨isLower, rfl⟩ := endpoint_eq_accept_iff.mp accepted
  refine blames_bind_after (blames_endpoint [firstLexeme, dash] spellsLast reads.rest reads)
    fun upper _ accepted => ?_
  obtain ⟨isUpper, rfl⟩ := endpoint_eq_accept_iff.mp accepted
  split
  · rename_i descending
    exact .fail (.lexemes [] _ _ reads.rest (List.cons_ne_nil _ _) ⟨lower, upper, first, last,
      firstLexeme, dash, lastLexeme, spellsFirst, isLower, isDash, spellsLast, isUpper, descending,
      rfl⟩ rfl)
  · exact .accept reads

theorem blames_namedItem (negative : Bool) : (namedItem negative).Blames := by
  refine (blames_accept _).bind fun first => (blames_accept _).optional.bind fun colon => ?_
  cases colon with
  | none => exact blames_pure _
  | some _ => exact (blames_expect _).bind fun _ => blames_pure _

theorem blames_negatedItem {bang : Lexeme} (isBang : bang.kind = .bang)
    (ordered : IsOrdered origin.rest) (reads : origin.Reads [bang] cursor) :
    (negatedItem bang cursor).Blames origin := by
  have named : Blames (do let item ← namedItem true; return [item] : Parser (List ClassItem)) :=
    (blames_namedItem true).bind fun _ => blames_pure _
  have missing : (failHere (.missingToken .identifier) : Parser (List ClassItem)).Blames :=
    blames_failHere (fun _ => rfl) fun _ => .head _
  refine blames_orElse_after (blames_bind_after (blames_unitOrRange.after ordered reads)
    fun _ _ _ => ?_) ((named.orElse missing).after ordered reads)
  exact .fail (.single [] _ reads.rest ⟨bang, isBang, rfl⟩ rfl)

theorem blames_classItem : classItem.Blames := by
  intro cursor ordered
  have unnegated : (unitOrRange <|> do let item ← namedItem false; return [item]).Blames :=
    blames_unitOrRange.orElse ((blames_namedItem false).bind fun _ => blames_pure _)
  rw [classItem, optional_bind_eq_either]
  refine blames_either_after (blames_accept _ cursor ordered) (fun bang between accepted => ?_)
    (unnegated cursor ordered)
  obtain ⟨isBang, reads⟩ := accept_eq_accept_iff.mp accepted
  exact blames_negatedItem isBang ordered reads

theorem blames_charClass (unicode : Bool) : (charClass unicode).Blames := by
  intro cursor ordered
  have required : ((accept .closeBracket).orFail
      (.missing "character class, string, code point, Unicode property or `]`")).Blames :=
    (blames_accept _).orFail (fun _ => rfl) fun _ => .tail _ (.head _)
  refine blames_bind_after (blames_accept _ cursor ordered) fun opening afterOpening accepted => ?_
  obtain ⟨opens, readsOpening⟩ := accept_eq_accept_iff.mp accepted
  refine blames_bind_after ((blames_classItem.many classItem_progresses).after ordered readsOpening)
    fun parts beforeClosing accepted => ?_
  obtain ⟨inner, spells, readsItems⟩ := ((many_eq_accept_iff classItem_progresses).mp accepted).each
    fun _ _ _ => spellsItems_of_classItem
  have readsInner := readsOpening.trans readsItems
  refine blames_bind_after (required.after ordered readsInner) fun closing after accepted => ?_
  rw [orFail_eq_accept_iff] at accepted
  obtain ⟨closes, readsClosing⟩ := accept_eq_accept_iff.mp accepted
  have reads := readsInner.trans readsClosing
  cases found : CharClass.ofItems? parts.flatten unicode (opening.span.join closing.span) with
  | some members => exact .accept reads
  | none =>
    have nothing := CharClass.ofItems?_eq_none_iff.mp found
    exact .fail (.lexemes [] _ _ reads.rest (List.cons_ne_nil _ _) ⟨opening, parts, inner, closing,
      opens, spells, nothing, closes, rfl⟩ (by simp [Diagnostic.ofFault, cover, firstSpan]))

/-! ## Atoms -/

theorem blames_groupName {colon name : Lexeme} (isColon : colon.kind = .colon)
    (isName : name.kind = .identifier) (reads : origin.Reads [colon, name] cursor) :
    (groupName name cursor).Blames origin := by
  have stands : ∃ lexemes, IsSingle .colon lexemes ∧ lexemes <:+ [colon] :=
    ⟨[colon], ⟨colon, isColon, rfl⟩, List.suffix_refl _⟩
  unfold groupName
  split
  · exact .fail (.single [colon] _ reads.rest ⟨⟨name, isName, rfl⟩, stands⟩ rfl)
  · split
    · exact .fail (.single [colon] _ reads.rest ⟨⟨name, isName, rfl⟩, stands⟩ rfl)
    · exact .accept reads

theorem blames_groupOpening : groupOpening.Blames := by
  have opens (kind : GroupKind) (start : Span) : Blames (do
      let _ ← expect .openParen
      return (kind, start)) := (blames_expect _).bind fun _ => blames_pure _
  refine ((blames_keyword _).bind fun word => opens _ _).orElse
    (.orElse (fun cursor ordered => ?marked) ((blames_accept _).bind fun _ => blames_pure _))
  refine blames_bind_after (blames_accept _ cursor ordered) fun colon between accepted => ?_
  obtain ⟨isColon, readsColon⟩ := accept_eq_accept_iff.mp accepted
  refine blames_bind_after ((blames_accept _).optional.after ordered readsColon)
    fun name beyond accepted => ?_
  obtain ⟨isName, readsName, -⟩ := optional_accept_eq_accept_iff.mp accepted
  have reads := readsColon.trans readsName
  cases name with
  | none => exact ((blames_pure GroupKind.capturing).bind fun kind => opens kind _).after ordered reads
  | some name =>
    refine blames_bind_after (blames_groupName isColon (isName name rfl) reads)
      fun kind after accepted => ?_
    obtain ⟨-, -, rfl⟩ := groupName_eq_accept_iff.mp accepted
    exact (opens kind _).after ordered reads

theorem blames_group {expression : Parser Pattern} (blames : expression.Blames) :
    (group expression).Blames :=
  blames_groupOpening.bind fun _ => blames.bind fun _ =>
    ((blames_accept _).orFail (fun _ => rfl) fun _ => .tail _ (.head _)).bind fun _ => blames_pure _

theorem blames_boundary : boundary.Blames :=
  blames_acceptMap _

theorem blames_referenceTarget : referenceTarget.Blames := by
  have signed (kind : TokenKind) (target : Int32 → ReferenceTarget) : Blames (do
      let _ ← accept kind
      let offset ← expectNumber offset?
      return target offset) :=
    (blames_accept _).bind fun _ => (blames_expectNumber _).bind fun _ => blames_pure _
  have numbered : Blames (do let index ← number count?; return ReferenceTarget.number index) :=
    (blames_number _).bind fun _ => blames_pure _
  have named : ((accept .identifier).orFail (.missing "number or group name")).Blames :=
    (blames_accept _).orFail (fun _ => rfl) fun _ => .tail _ (.head _)
  exact (signed _ _).orElse ((signed _ fun offset => .relative (-offset)).orElse
    (numbered.orElse (named.bind fun _ => blames_pure _)))

theorem blames_reference : reference.Blames :=
  (blames_accept _).bind fun _ => blames_referenceTarget.bind fun _ =>
    blames_previous.bind fun _ => blames_pure _

theorem blames_codePointClass (unicode : Bool) : (codePointClass unicode).Blames :=
  blames_codePoint.bind fun _ => blames_pure _

theorem blames_radix : radix.Blames := by
  intro cursor ordered
  refine blames_bind_after (blames_keyword _ cursor ordered) fun word between accepted => ?_
  obtain ⟨-, readsWord⟩ := keyword_eq_accept_iff.mp accepted
  refine blames_bind_after ((blames_expectNumber _).after ordered readsWord)
    fun base after accepted => ?_
  obtain ⟨number, ⟨isNumber, -⟩, readsNumber⟩ := expectNumber_eq_accept_iff.mp accepted
  have reads := readsWord.trans readsNumber
  split
  · exact .accept reads
  · exact .fail (.single [word] _ reads.rest ⟨number, isNumber, rfl⟩ readsNumber.previous)

theorem blames_numberRange : numberRange.Blames :=
  (blames_keyword _).bind fun _ => (blames_expect _).bind fun _ => (blames_expect _).bind fun _ =>
    (blames_expect _).bind fun _ => blames_radix.optional.bind fun _ =>
      blames_previous.bind fun _ => blames_pure _

theorem blames_regex : regex.Blames :=
  (blames_keyword _).bind fun _ => blames_expectLiteral.bind fun _ => blames_pure _

theorem blames_atom {expression : Parser Pattern} (blames : expression.Blames) (unicode : Bool) :
    (atom unicode expression).Blames :=
  (blames_group blames).orElse <|
    .orElse (blames_literal.bind fun _ => blames_pure _) <|
    (blames_charClass unicode).orElse <|
    blames_boundary.orElse <|
    blames_reference.orElse <|
    (blames_codePointClass unicode).orElse <|
    blames_numberRange.orElse <|
    blames_regex.orElse <|
    .orElse ((blames_accept _).bind fun _ => blames_pure _) <|
    .orElse ((blames_accept _).bind fun _ => blames_pure _) <|
    (blames_keyword _).bind fun _ => blames_pure _

/-! ## Repetitions -/

/-- Bounds that are checked before the closing brace is read. -/
theorem blames_bracedBounds : bracedBounds.Blames := by
  have closed (bounds : Bounds) : Blames (do
      let _ ← expect .closeBrace
      return bounds) := (blames_expect _).bind fun _ => blames_pure _
  have missing : (failHere (.missing "number") : Parser Bounds).Blames :=
    blames_failHere (fun _ => rfl) fun _ => .tail _ (.head _)
  intro cursor ordered
  refine blames_bind_after (blames_accept _ cursor ordered) fun opening afterOpening accepted => ?_
  obtain ⟨-, readsOpening⟩ := accept_eq_accept_iff.mp accepted
  rw [here_bind_apply]
  refine blames_bind_after ((blames_number count?).optional.after ordered readsOpening)
    fun lower afterLower accepted => ?_
  obtain ⟨first, spellsLower, readsLower, -⟩ := optional_count_eq_accept_iff.mp accepted
  have reads := readsOpening.trans readsLower
  refine blames_bind_after ((blames_accept _).optional.after ordered reads)
    fun comma afterComma accepted => ?_
  obtain ⟨isComma, readsComma, -⟩ := optional_accept_eq_accept_iff.mp accepted
  have reads := reads.trans readsComma
  refine blames_bind_after ((blames_number count?).optional.after ordered reads)
    fun upper after accepted => ?_
  obtain ⟨second, spellsUpper, readsUpper, -⟩ := optional_count_eq_accept_iff.mp accepted
  have reads := reads.trans readsUpper
  rw [previous_bind_apply]
  cases comma with
  | some comma =>
    cases upper with
    | none => exact (closed _).after ordered reads
    | some upper =>
      dsimp only
      by_cases descending : upper < lower.getD 0
      · cases lower with
        | none => exact absurd descending (Nat.not_lt_zero upper)
        | some lower =>
          obtain ⟨firstLexeme, rfl, isLower⟩ := spellsLower
          obtain ⟨secondLexeme, rfl, isUpper⟩ := spellsUpper
          rw [if_pos descending, readsLower.span_eq, readsUpper.previous]
          exact .fail (.lexemes [opening] _ _ reads.rest (List.cons_ne_nil _ _) ⟨lower, upper,
            firstLexeme, comma, secondLexeme, isLower, isComma comma rfl, isUpper, descending, rfl⟩ rfl)
      · rw [if_neg descending]
        exact (closed _).after ordered reads
  | none =>
    cases lower with
    | none => exact (missing.bind closed).after ordered reads
    | some lower =>
      cases upper with
      | none => exact (closed _).after ordered reads
      | some upper =>
        obtain ⟨firstLexeme, rfl, -⟩ := spellsLower
        obtain ⟨secondLexeme, rfl, -⟩ := spellsUpper
        exact .fail (.single [opening, firstLexeme] _ reads.rest ⟨secondLexeme, rfl⟩
          readsUpper.previous)

theorem blames_repetitionBounds : repetitionBounds.Blames := by
  have single (kind : TokenKind) (bounds : Bounds) : (accept kind *> pure bounds).Blames :=
    (blames_accept kind).bind fun _ => blames_pure bounds
  exact (single _ _).orElse ((single _ _).orElse ((single _ _).orElse blames_bracedBounds))

theorem blames_quantifier (lazyMode : Bool) : (quantifier lazyMode).Blames := by
  have said (word : String) (preference : Quantifier) : (keyword word *> pure preference).Blames :=
    (blames_keyword word).bind fun _ => blames_pure preference
  exact (said _ _).orElse ((said _ _).orElse (blames_pure _))

/-- A second operator is read to its end before it is rejected. -/
theorem blames_repetition (lazyMode : Bool) : (repetition lazyMode).Blames := by
  intro cursor ordered
  rw [repetition, here_bind_apply]
  refine blames_bind_after (blames_repetitionBounds cursor ordered) fun bounds between accepted => ?_
  obtain ⟨first, spellsBounds, readsBounds⟩ := repetitionBounds_eq_accept_iff.mp accepted
  refine blames_bind_after ((blames_quantifier lazyMode).after ordered readsBounds)
    fun preference after accepted => ?_
  obtain ⟨second, spellsPreference, readsPreference⟩ := spellsPreference_of_quantifier accepted
  have reads := readsBounds.trans readsPreference
  rw [previous_bind_apply, here_bind_apply]
  refine blames_bind_after (blames_repetitionBounds.optional.after ordered reads)
    fun again beyond accepted => ?_
  cases again with
  | none =>
    obtain ⟨-, rfl⟩ := optional_eq_accept_none_iff.mp accepted
    exact .accept reads
  | some again =>
    rw [optional_eq_accept_some_iff, repetitionBounds_eq_accept_iff] at accepted
    obtain ⟨operator, spellsAgain, readsAgain⟩ := accepted
    have covers := readsAgain.cover_eq spellsAgain.ne_nil
    have follows : IsRepetition (first ++ second) :=
      ⟨bounds, preference, lazyMode, first, second, spellsBounds, spellsPreference, rfl⟩
    exact .fail (.lexemes _ _ _ (reads.trans readsAgain).rest spellsAgain.ne_nil
      ⟨⟨again, spellsAgain⟩, _, follows, List.suffix_refl _⟩ covers.symm)

theorem blames_repeated (lazyMode : Bool) (body : Pattern) : (repeated lazyMode body).Blames := by
  refine (blames_repetition lazyMode).optional.bind fun found => ?_
  cases found <;> exact blames_pure _

/-! ## Test blocks -/

theorem blames_capture : capture.Blames := by
  have numbered : Blames (do let index ← number count?; return CaptureLabel.number index) :=
    (blames_number _).bind fun _ => blames_pure _
  have named : Blames (do let name ← accept .identifier; return CaptureLabel.name name.text) :=
    (blames_accept _).bind fun _ => blames_pure _
  have label : captureLabel.Blames := numbered.orElse named
  exact label.bind fun _ => blames_previous.bind fun _ => (blames_expect _).bind fun _ =>
    blames_expectLiteral.bind fun _ => blames_pure _

theorem blames_captures : captures.Blames := by
  refine (blames_contextual _).optional.bind fun found => ?_
  cases found with
  | none => exact blames_pure _
  | some _ =>
    exact (blames_expect _).bind fun _ =>
      (blames_capture.sepEndBy (blames_accept _) separatedCapture_progresses).bind fun _ =>
        (blames_expect _).bind fun _ => blames_pure _

theorem blames_testMatch : testMatch.Blames :=
  blames_expectLiteral.bind fun _ => blames_captures.bind fun _ =>
    blames_previous.bind fun _ => blames_pure _

theorem blames_testMatches : testMatches.Blames := by
  have next : (accept .comma *> testMatch).Blames :=
    (blames_accept _).bind fun _ => blames_testMatch
  refine blames_nextText.bind fun text => ?_
  split
  · exact blames_pure _
  · exact blames_testMatch.bind fun _ => (next.many nextMatch_progresses).bind fun _ => blames_pure _

theorem blames_haystack : haystack.Blames :=
  (blames_contextual _).bind fun _ => blames_expectLiteral

/-- The last of several matches is at the end of what spells them. -/
theorem exists_spellsMatch_getLastD {first : TestMatch} {more : List TestMatch}
    (each : Each SpellsNextMatch more lexemes) (nonempty : more ≠ []) :
    ∃ between inner, lexemes = between ++ inner ∧ SpellsMatch (more.getLastD first) inner := by
  induction each with
  | nil => exact absurd rfl nonempty
  | @cons value values part rest head tail inductionHypothesis =>
    cases values with
    | nil =>
      obtain ⟨comma, inner, -, spells, rfl⟩ := head
      cases tail
      exact ⟨[comma], inner, List.append_nil _, spells⟩
    | cons second values =>
      obtain ⟨between, inner, rfl, spells⟩ := inductionHypothesis (List.cons_ne_nil _ _)
      exact ⟨part ++ between, inner, (List.append_assoc _ _ _).symm, by simpa using spells⟩

theorem SpellsMatches.ne_nil {first : TestMatch} {more : List TestMatch}
    (spells : SpellsMatches (first :: more) lexemes) : lexemes ≠ [] := by
  cases spells with
  | cons spellsFirst _ => exact List.append_ne_nil_of_left_ne_nil spellsFirst.ne_nil _

/-- From the first match to the last one. -/
theorem SpellsMatches.cover_eq {first : TestMatch} {more : List TestMatch}
    (spells : SpellsMatches (first :: more) lexemes) (several : more ≠ [])
    (ordered : IsOrdered lexemes) :
    first.span.join (more.getLastD first).span = cover lexemes := by
  cases spells with
  | cons spellsFirst spellsMore =>
    obtain ⟨between, inner, rfl, spellsLast⟩ := exists_spellsMatch_getLastD spellsMore several
    rw [spellsFirst.span_eq_cover, spellsLast.span_eq_cover, ← List.append_assoc]
    rw [← List.append_assoc] at ordered
    exact ordered.cover_join spellsFirst.ne_nil spellsLast.ne_nil

/-- Several matches without a longer text are reported when the case has been read. -/
theorem blames_matchCase : matchCase.Blames := by
  intro cursor ordered
  refine blames_bind_after (blames_contextual _ cursor ordered) fun word afterWord accepted => ?_
  obtain ⟨-, readsWord⟩ := contextual_eq_accept_iff.mp accepted
  refine blames_bind_after (blames_testMatches.after ordered readsWord)
    fun expected afterMatches accepted => ?_
  obtain ⟨inner, spells, readsInner⟩ := spellsMatches_of_testMatches accepted
  have reads := readsWord.trans readsInner
  refine blames_bind_after (blames_haystack.optional.after ordered reads)
    fun within beforeStop accepted => ?_
  cases within with
  | some text =>
    obtain ⟨introduction, lexeme, -, -, -, readsText⟩ :=
      haystack_eq_accept_iff.mp (optional_eq_accept_some_iff.mp accepted)
    exact ((blames_expect .semicolon).bind fun stop =>
      blames_pure (TestCase.within text expected (word.span.join stop.span))).after ordered
        (reads.trans readsText)
  | none =>
    obtain ⟨-, rfl⟩ := optional_eq_accept_none_iff.mp accepted
    refine blames_bind_after ((blames_expect .semicolon).after ordered reads)
      fun stop after accepted => ?_
    obtain ⟨-, readsStop⟩ := expect_eq_accept_iff.mp accepted
    have reads := reads.trans readsStop
    rcases expected with _ | ⟨first, _ | ⟨second, more⟩⟩
    · have missing : (failHere (.missingToken .string) : Parser TestCase).Blames :=
        blames_failHere (fun _ => rfl) fun _ => .head _
      exact missing.after ordered reads
    · exact .accept reads
    · have innerOrdered := readsInner.isOrdered_read (readsWord.isOrdered ordered)
      have span_eq := spells.cover_eq (List.cons_ne_nil second more) innerOrdered
      have split : cursor.rest = [word] ++ inner ++ ([stop] ++ after.rest) := by
        rw [reads.rest, List.append_assoc]
      exact .fail (.lexemes [word] inner _ split spells.ne_nil
        ⟨first :: second :: more, spells, Nat.le_add_left 2 _⟩ span_eq)

theorem blames_rejectCase : rejectCase.Blames :=
  (blames_contextual _).bind fun _ => (blames_contextual _).optional.bind fun _ =>
    blames_expectLiteral.bind fun _ => (blames_expect _).bind fun _ => blames_pure _

theorem blames_testBlock : testBlock.Blames :=
  (blames_keyword _).bind fun _ => (blames_expect _).bind fun _ =>
    ((blames_matchCase.orElse blames_rejectCase).many testCase_progresses).bind fun _ =>
      (blames_expect _).bind fun _ => blames_pure _

/-! ## Statements -/

theorem blames_toggle : toggle.Blames := by
  have words : toggleWord.Blames := ((blames_keyword _).bind fun _ => blames_pure _).orElse
    ((blames_keyword _).bind fun _ => blames_pure _)
  have settings : setting.Blames := .orElse ((blames_keyword _).bind fun _ => blames_pure _)
    ((blames_contextual _).bind fun _ => blames_pure _)
  have required : (setting.orFail (.missing "`lazy` or `unicode`")).Blames :=
    settings.orFail (fun _ => rfl) fun _ => .tail _ (.head _)
  exact words.bind fun _ => required.bind fun _ => (blames_expect _).bind fun _ => blames_pure _

theorem blames_statement {alternation : Parser Pattern} (blames : alternation.Blames) :
    (statement alternation).Blames := by
  have stops : ((accept .semicolon).orFail (.missing "expression or `;`")).Blames :=
    (blames_accept _).orFail (fun _ => rfl) fun _ => .tail _ (.head _)
  have bindings : (binding alternation).Blames :=
    (blames_keyword _).bind fun _ => (blames_expect _).bind fun _ => (blames_expect _).bind fun _ =>
      blames.bind fun _ => stops.bind fun _ => blames_pure _
  exact (blames_toggle.bind fun _ => blames_pure _).orElse
    (bindings.orElse (blames_testBlock.bind fun _ => blames_pure _))

end PatternSyntax.Grammar
