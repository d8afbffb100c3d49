import PatternSyntax.Proofs.Prefixes.Traits

/-!
# Productions with more lexemes after them

The traits of every production below the level of terms. A production that reads its
last lexeme as such is closed; one that looks whether there is more is running.
-/

namespace PatternSyntax.Grammar

open PatternSyntax.Parser
open PatternSyntax.Text

variable {α : Type} {extra : List Lexeme}

/-! ## Single lexemes -/

theorem steady_accept (kind : TokenKind) : Steady extra .closed (accept kind) :=
  steady_acceptMap _

theorem steady_keyword (word : String) : Steady extra .closed (keyword word) :=
  steady_acceptMap _

theorem steady_contextual (word : String) : Steady extra .closed (contextual word) :=
  steady_acceptMap _

theorem steady_expect (kind : TokenKind) : Steady extra .required (expect kind) :=
  .weaken (by decide) <| (steady_accept kind).orFail fun _ => rfl

theorem steady_number (read : List Char → Option α) : Steady extra .closed (number read) := by
  refine .weaken (by decide) <| (steady_accept _).bind fun lexeme => (?_ : Steady extra .verdict _)
  split
  · exact (steady_pure _).weaken (by decide)
  · exact steady_fail _

theorem steady_expectNumber (read : List Char → Option α) :
    Steady extra .required (expectNumber read) :=
  .weaken (by decide) <| (steady_number read).orFail fun _ => rfl

theorem steady_literal : Steady extra .closed literal :=
  ((steady_accept _).bind fun _ => steady_pure _).weaken (by decide)

theorem steady_expectLiteral : Steady extra .required expectLiteral :=
  .weaken (by decide) <| steady_literal.orFail fun _ => rfl

theorem steady_codePoint : Steady extra .closed codePoint := by
  refine .weaken (by decide) <| (steady_accept _).bind fun lexeme => (?_ : Steady extra .verdict _)
  split
  · exact (steady_pure _).weaken (by decide)
  · exact steady_fail _

/-! ## Character classes -/

theorem steady_endpoint (unit : ClassUnit) (span : Span) :
    Steady extra .verdict (unit.endpoint span) := by
  unfold ClassUnit.endpoint
  split
  · exact (steady_pure _).weaken (by decide)
  · exact steady_fail _
  · exact (steady_pure _).weaken (by decide)
  · exact steady_fail _

theorem steady_classUnit : Steady extra .closed classUnit :=
  (((steady_accept _).bind fun _ => steady_pure _).orElse
    ((steady_codePoint.bind fun _ => steady_pure _).orElse (steady_acceptMap _))).weaken (by decide)

theorem steady_unitOrRange : Steady extra .running unitOrRange := by
  have ordered (lower upper : Char) (span : Span) : Steady extra .verdict
      (if upper < lower then fail (.ofFault .descendingRange span)
        else return [ClassItem.range lower upper]) := by
    split
    · exact steady_fail _
    · exact (steady_pure _).weaken (by decide)
  have range (firstSpan : Span) (first : ClassUnit) : Steady extra .required (do
      let lastSpan ← here
      let last ← classUnit.orFail (.missing "code point or character")
      let lower ← first.endpoint firstSpan
      let upper ← last.endpoint lastSpan
      if upper < lower then fail (.ofFault .descendingRange (firstSpan.join lastSpan))
      else return [ClassItem.range lower upper]) :=
    .weaken (by decide) <| .here_bind fun lastSpan => (steady_classUnit.orFail fun _ => rfl).bind fun last =>
      (steady_endpoint _ _).bind fun lower => (steady_endpoint _ _).bind fun upper =>
        ordered lower upper _
  exact .weaken (by decide) <| .here_bind fun firstSpan => steady_classUnit.bind fun first =>
    (steady_accept _).optional_bind (fun _ => range firstSpan first) (steady_pure _)

theorem steady_namedItem (negative : Bool) : Steady extra .running (namedItem negative) :=
  .weaken (by decide) <| (steady_accept _).bind fun _ => (steady_accept _).optional_bind
    (fun _ => (steady_expect _).bind fun _ => steady_pure _) (steady_pure _)

/-- Only after a unit by itself it depends on what follows whether a range is read. -/
theorem unitOrRange_extend {cursor after : Cursor} {items : List ClassItem}
    (accepted : unitOrRange cursor = .accept items after) :
    unitOrRange (cursor.extend extra) = .accept items (after.extend extra) ∨
      ∃ unit, unit.kind ∈ unitKinds ∧ cursor.rest = [unit] := by
  obtain ⟨_, -, atEnd | kept⟩ := (@steady_unitOrRange extra cursor rfl).reads accepted
  · have isUnit : classUnit cursor ≠ .decline := fun declined => by
      rw [unitOrRange_eq_decline_iff.mpr declined] at accepted
      cases accepted
    rw [ne_eq, classUnit_eq_decline_iff] at isUnit
    obtain ⟨lexemes, spells, reads⟩ := spellsItems_of_unitOrRange accepted
    cases spells with
    | unit spells =>
      refine .inr ⟨_, ?_, by rw [reads.rest, atEnd, List.append_nil]⟩
      cases spells with
      | text isString => simp [unitKinds, isString]
      | codePoint isCodePoint _ => simp [unitKinds, isCodePoint]
      | control isName _ => simp [unitKinds, isName]
    | range spellsFirst isLower isDash spellsLast isUpper ordered =>
      exact .inl (unitOrRange_range spellsFirst isLower isDash spellsLast isUpper ordered
        reads.extend)
    | @named bang name isBang isName ordinary =>
      refine absurd ?_ isUnit
      cases bang <;> simp_all [reads.rest]
    | @qualified bang qualifier _ _ isBang isQualifier ordinary _ _ =>
      refine absurd ?_ isUnit
      cases bang <;> simp_all [reads.rest]
  · exact .inl kept

theorem negatedItem_of_unitOrRange {bang : Lexeme} {cursor after : Cursor}
    {items : List ClassItem} (accepted : unitOrRange cursor = .accept items after) :
    negatedItem bang cursor = .fail (.ofFault .negatedCharacters bang.span) := by
  simp only [negatedItem, orElse_apply, bind_apply, accepted, fail]

/-- What must not be negated is read to its end before it is rejected. Nothing more can
belong to it, unless it is a unit at the very end. -/
theorem persists_of_rejected {bang : Lexeme} {cursor between after : Cursor}
    {items : List ClassItem} (found : accept .bang cursor = .accept bang between)
    (accepted : unitOrRange between = .accept items after) :
    (negatedItem bang between).Persists extra cursor (negatedItem bang (between.extend extra)) := by
  rw [negatedItem_of_unitOrRange accepted]
  rcases unitOrRange_extend accepted with kept | ⟨unit, isUnit, rest⟩
  · rw [negatedItem_of_unitOrRange kept]
    exact .fail
  · cases extended : unitOrRange (between.extend extra) with
    | accept _ _ =>
      rw [negatedItem_of_unitOrRange extended]
      exact .fail
    | fail diagnostic =>
      obtain ⟨isBang, reads⟩ := accept_eq_accept_iff.mp found
      have fails : negatedItem bang (between.extend extra) = .fail diagnostic := by
        simp only [negatedItem, orElse_apply, bind_apply, extended]
      rw [fails]
      exact .reject ⟨rfl, [], bang, unit, by rw [reads.rest, rest]; rfl, isBang, isUnit, rfl⟩
    | decline =>
      -- Whether there is a unit at all is seen from the next lexeme, which is the same.
      rw [unitOrRange_eq_decline_iff, classUnit_eq_decline_iff] at extended
      have declined : unitOrRange between = .decline := by
        rw [unitOrRange_eq_decline_iff, classUnit_eq_decline_iff]
        simpa [rest, Cursor.extend] using extended
      rw [declined] at accepted
      cases accepted

/-- Where nothing is rejected the negated item is like any other. -/
theorem steadyAt_negatedItem (bang : Lexeme) {cursor : Cursor}
    (allowed : ∀ items after, unitOrRange cursor ≠ .accept items after) :
    SteadyAt extra .trailing (negatedItem bang) cursor := by
  have never (items : List ClassItem) (after : Cursor)
      (accepted : unitOrRange cursor = .accept items after) : SteadyAt extra .silent
        (fail (.ofFault .negatedCharacters bang.span) : Parser (List ClassItem)) after :=
    absurd accepted (allowed items after)
  have rejecting : SteadyAt extra .running (unitOrRange >>= fun _ =>
      (fail (.ofFault .negatedCharacters bang.span) : Parser (List ClassItem))) cursor :=
    .weaken (by decide) <| (steady_unitOrRange cursor).either never (steady_decline cursor)
  have named : Steady extra .trailing (((do let item ← namedItem true; return [item]) <|>
      failHere (.missingToken .identifier)) : Parser (List ClassItem)) :=
    .weaken (by decide) <| .orElse (.bind (steady_namedItem true) fun _ => steady_pure _) (steady_failHere fun _ => rfl)
  exact .weaken (by decide) <| rejecting.either (fun value after _ => steady_pure value after) (named cursor)

/-- An exclamation mark and what is negated by it. -/
theorem steady_negated : Steady extra .running (accept .bang >>= negatedItem) := by
  intro cursor
  by_cases rejected : ∃ bang between items after, accept .bang cursor = .accept bang between ∧
      unitOrRange between = .accept items after
  · obtain ⟨bang, between, items, after, found, accepted⟩ := rejected
    have reads := (accept_eq_accept_iff.mp found).2
    have inside : cursor.rest ≠ [] := by
      rw [reads.rest]
      nofun
    refine fun _ => ⟨?_, nofun, nofun, fun _ atEnd => absurd atEnd inside, fun _ atEnd => absurd atEnd inside⟩
    rw [bind_apply, bind_apply, found, (@steady_accept extra .bang cursor rfl).firm rfl bang between found]
    exact persists_of_rejected found accepted
  · exact .weaken (by decide) <| (steady_accept .bang cursor).either
      (fun bang between found => steadyAt_negatedItem bang fun items after accepted =>
        rejected ⟨bang, between, items, after, found, accepted⟩) (steady_decline cursor)

theorem steady_classItem : Steady extra .running classItem := by
  have commits (bang : Lexeme) : (negatedItem bang).Commits :=
    ((commits_failHere _).orElse).orElse
  have choice : classItem = ((accept .bang >>= negatedItem) <|> (unitOrRange <|> do
      let item ← namedItem false
      return [item])) := optional_bind_eq_orElse commits
  rw [choice]
  exact .weaken (by decide) <| steady_negated.orElse
    (.orElse steady_unitOrRange (.bind (steady_namedItem false) fun _ => steady_pure _))

theorem steady_charClass (unicode : Bool) : Steady extra .closed (charClass unicode) := by
  refine .weaken (by decide) <| (steady_accept _).bind fun opening =>
    (steady_classItem.many classItem_progresses).bind fun items =>
      ((steady_accept _).orFail fun _ => rfl).bind fun closing => (?_ : Steady extra .verdict _)
  dsimp only
  split
  · exact (steady_pure _).weaken (by decide)
  · exact steady_fail _

/-! ## Atoms -/

theorem steady_groupName (name : Lexeme) : Steady extra .verdict (groupName name) := by
  unfold groupName
  split
  · exact steady_fail _
  · split
    · exact steady_fail _
    · exact (steady_pure _).weaken (by decide)

theorem steady_groupOpening : Steady extra .closed groupOpening :=
  have opens (kind : GroupKind) (start : Span) : Steady extra .required (do
      let _ ← expect .openParen
      return (kind, start)) := .weaken (by decide) <| (steady_expect _).bind fun _ => steady_pure _
  .weaken (by decide) <| .orElse ((steady_keyword _).bind fun word => opens _ _) <|
    .orElse ((steady_accept _).bind fun colon => (steady_accept _).optional_bind
        (fun name => (steady_groupName name).bind fun kind => opens _ _)
        ((steady_pure _).bind fun kind => opens _ _))
      ((steady_accept _).bind fun _ => steady_pure _)

theorem steady_boundary : Steady extra .closed boundary :=
  steady_acceptMap _

theorem steady_referenceTarget : Steady extra .required referenceTarget :=
  have signed (kind : TokenKind) (target : Int32 → ReferenceTarget) : Steady extra .closed (do
      let _ ← accept kind
      let offset ← expectNumber offset?
      return target offset) :=
    .weaken (by decide) <| (steady_accept _).bind fun _ => (steady_expectNumber _).bind fun _ => steady_pure _
  .weaken (by decide) <| .orElse (signed _ _) <| .orElse (signed _ fun offset => .relative (-offset)) <|
    .orElse ((steady_number _).bind fun _ => steady_pure _) <|
      ((steady_accept _).orFail fun _ => rfl).bind fun _ => steady_pure _

theorem steady_reference : Steady extra .closed reference :=
  .weaken (by decide) <| (steady_accept _).bind fun _ => steady_referenceTarget.bind fun _ =>
    steady_previous.bind fun _ => steady_pure _

theorem steady_codePointClass (unicode : Bool) : Steady extra .closed (codePointClass unicode) :=
  .weaken (by decide) <| steady_codePoint.bind fun _ => steady_pure _

theorem steady_radix : Steady extra .closed radix := by
  have checked (base : Nat) : Steady extra .verdict
      (if 2 ≤ base ∧ base ≤ 36 then return base
        else do
          let span ← previous
          fail (.ofFault .baseOutOfRange span)) := by
    split
    · exact (steady_pure _).weaken (by decide)
    · exact .weaken (by decide) <| steady_previous.bind fun _ => steady_fail _
  exact .weaken (by decide) <| (steady_keyword _).bind fun _ => (steady_expectNumber _).bind checked

theorem steady_numberRange : Steady extra .running numberRange :=
  .weaken (by decide) <| (steady_keyword _).bind fun _ => (steady_expect _).bind fun _ =>
    (steady_expect _).bind fun _ => (steady_expect _).bind fun _ => steady_radix.optional_bind
      (fun _ => steady_previous.bind fun _ => steady_pure _)
      (steady_previous.bind fun _ => steady_pure _)

theorem steady_regex : Steady extra .closed regex :=
  .weaken (by decide) <| (steady_keyword _).bind fun _ => steady_expectLiteral.bind fun _ => steady_pure _

/-! ## Repetitions -/

theorem steady_bracedBounds : Steady extra .closed bracedBounds := by
  have closed (bounds : Bounds) : Steady extra .required (do
      let _ ← expect .closeBrace
      return bounds) := .weaken (by decide) <| (steady_expect _).bind fun _ => steady_pure _
  have known (bounds : Bounds) : Steady extra .required (pure bounds >>= fun bounds => do
      let _ ← expect .closeBrace
      return bounds) := .weaken (by decide) <| (steady_pure bounds).bind closed
  have wrong (diagnostic : Diagnostic) : Steady extra .verdict (fail diagnostic >>= fun bounds => do
      let _ ← expect .closeBrace
      return bounds) := .weaken (by decide) <| (steady_fail diagnostic).bind closed
  refine .weaken (by decide) <| (steady_accept _).bind fun _ => .here_bind fun start =>
    (steady_number _).maybe_bind fun lower => (steady_accept _).maybe_bind fun comma =>
      (steady_number _).optional_bind
        (fun upper => steady_previous.bind fun stop => (?_ : Steady extra .verdict _))
        (steady_previous.bind fun stop => (?_ : Steady extra .required _))
  · cases comma with
    | some _ =>
      dsimp only
      split
      · exact wrong _
      · exact (known _).weaken (by decide)
    | none =>
      cases lower with
      | some _ => exact wrong _
      | none => exact .weaken (by decide) <| .bind (steady_failHere fun _ => rfl) closed
  · cases comma with
    | some _ => exact known _
    | none =>
      cases lower with
      | some _ => exact known _
      | none => exact .weaken (by decide) <| .bind (steady_failHere fun _ => rfl) closed

theorem steady_repetitionBounds : Steady extra .closed repetitionBounds :=
  have single (kind : TokenKind) (bounds : Bounds) :
      Steady extra .closed (accept kind *> pure bounds) :=
    .weaken (by decide) <| (steady_accept kind).bind fun _ => steady_pure bounds
  .weaken (by decide) <| (single _ _).orElse <| (single _ _).orElse <| (single _ _).orElse steady_bracedBounds

theorem steady_quantifier (lazyMode : Bool) : Steady extra .trailing (quantifier lazyMode) :=
  have single (word : String) (preference : Quantifier) :
      Steady extra .closed (keyword word *> pure preference) :=
    .weaken (by decide) <| (steady_keyword word).bind fun _ => steady_pure preference
  .weaken (by decide) <| (single _ _).orElse <| (single _ _).orElse <| steady_pure _

theorem steady_repetition (lazyMode : Bool) : Steady extra .running (repetition lazyMode) :=
  .weaken (by decide) <| .here_bind fun start => steady_repetitionBounds.bind fun bounds =>
    (steady_quantifier lazyMode).bind fun preference => steady_previous.bind fun stop =>
      .here_bind fun secondStart => steady_repetitionBounds.optional_bind
        (fun _ => steady_previous.bind fun _ => steady_fail _) (steady_pure _)

theorem steady_repeated (lazyMode : Bool) (body : Pattern) :
    Steady extra .trailing (repeated lazyMode body) :=
  .weaken (by decide) <| (steady_repetition lazyMode).optional_bind (fun _ => steady_pure _) (steady_pure _)

/-! ## Test blocks -/

theorem steady_captureLabel : Steady extra .closed captureLabel :=
  .weaken (by decide) <| .orElse ((steady_number _).bind fun _ => steady_pure _)
    ((steady_accept _).bind fun _ => steady_pure _)

theorem steady_capture : Steady extra .closed capture :=
  .weaken (by decide) <| steady_captureLabel.bind fun _ => steady_previous.bind fun _ =>
    (steady_expect _).bind fun _ => steady_expectLiteral.bind fun _ => steady_pure _

theorem steady_captures : Steady extra .trailing captures :=
  have listed : Steady extra .running capture := steady_capture.weaken (by decide)
  .weaken (by decide) <| (steady_contextual _).optional_bind
    (fun _ => (steady_expect _).bind fun _ =>
      (listed.sepEndBy (steady_accept _) separatedCapture_progresses).bind fun _ =>
        (steady_expect _).bind fun _ => steady_pure _)
    (steady_pure _)

theorem steady_testMatch : Steady extra .trailing testMatch :=
  .weaken (by decide) <| steady_expectLiteral.bind fun _ => steady_captures.bind fun _ =>
    steady_previous.bind fun _ => steady_pure _

theorem Steady.nextText_bind {traits : Traits} {continuation : String → Parser α}
    (tail : ∀ text, Steady extra traits (continuation text)) :
    Steady extra traits.ahead (nextText >>= continuation) := by
  have looks (cursor : Cursor) : nextText cursor =
      .accept ((cursor.rest.head?.map Lexeme.text).getD "") cursor := by
    rcases cursor with ⟨_ | _, _, _⟩ <;> rfl
  refine steady_look _ looks (fun cursor inside => ?_) tail
  obtain ⟨lexeme, rest, cons⟩ := List.exists_cons_of_ne_nil inside
  simp only [Cursor.extend, cons, List.cons_append, List.head?_cons]

theorem steady_testMatches : Steady extra .trailing testMatches := by
  have next : Steady extra .running (accept .comma *> testMatch) :=
    .weaken (by decide) <| (steady_accept _).bind fun _ => steady_testMatch
  have listed : Steady extra .trailing (sepBy testMatch (accept .comma)) :=
    .weaken (by decide) <| steady_testMatch.bind fun _ =>
      (next.many nextMatch_progresses).bind fun _ => steady_pure _
  have expected (text : String) : Steady extra .trailing
      (if text = "in" then return [] else sepBy testMatch (accept .comma)) := by
    split
    · exact (steady_pure _).weaken (by decide)
    · exact listed
  exact .weaken (by decide) <| Steady.nextText_bind expected

theorem steady_haystack : Steady extra .closed haystack :=
  .weaken (by decide) <| (steady_contextual _).bind fun _ => steady_expectLiteral

theorem steady_matchCase : Steady extra .closed matchCase := by
  refine .weaken (by decide) <| (steady_contextual _).bind fun word => steady_testMatches.bind fun expected =>
    steady_haystack.maybe_bind fun within => (steady_expect _).bind fun stop =>
      (?_ : Steady extra .verdict _)
  split
  · exact (steady_pure _).weaken (by decide)
  · exact (steady_pure _).weaken (by decide)
  · exact (steady_failHere fun _ => rfl).weaken (by decide)
  · exact steady_fail _

theorem steady_rejectCase : Steady extra .closed rejectCase :=
  .weaken (by decide) <| (steady_contextual _).bind fun _ => (steady_contextual _).maybe_bind fun _ =>
    steady_expectLiteral.bind fun _ => (steady_expect _).bind fun _ => steady_pure _

theorem steady_testBlock : Steady extra .closed testBlock :=
  have single : Steady extra .running testCase := .weaken (by decide) <| steady_matchCase.orElse steady_rejectCase
  .weaken (by decide) <| (steady_keyword _).bind fun _ => (steady_expect _).bind fun _ =>
    (single.many testCase_progresses).bind fun _ => (steady_expect _).bind fun _ => steady_pure _

/-! ## Statements -/

theorem steady_setting : Steady extra .closed setting :=
  .weaken (by decide) <| .orElse ((steady_keyword _).bind fun _ => steady_pure _)
    ((steady_contextual _).bind fun _ => steady_pure _)

theorem steady_toggleWord : Steady extra .closed toggleWord :=
  .weaken (by decide) <| .orElse ((steady_keyword _).bind fun _ => steady_pure _)
    ((steady_keyword _).bind fun _ => steady_pure _)

theorem steady_toggle : Steady extra .closed toggle :=
  .weaken (by decide) <| steady_toggleWord.bind fun _ => (steady_setting.orFail fun _ => rfl).bind fun _ =>
    (steady_expect _).bind fun _ => steady_pure _

/-- A statement ends with a lexeme of its own, whatever is bound. -/
theorem steady_statement {alternation : Parser Pattern} (steady : Steady extra .trailing alternation) :
    Steady extra .closed (statement alternation) :=
  have bound : Steady extra .closed (binding alternation) :=
    .weaken (by decide) <| (steady_keyword _).bind fun _ => (steady_expect _).bind fun _ =>
      (steady_expect _).bind fun _ => steady.bind fun _ => ((steady_accept _).orFail fun _ => rfl).bind fun _ =>
        steady_pure _
  .weaken (by decide) <| .orElse (steady_toggle.bind fun _ => steady_pure _) <|
    bound.orElse (steady_testBlock.bind fun _ => steady_pure _)

end PatternSyntax.Grammar
