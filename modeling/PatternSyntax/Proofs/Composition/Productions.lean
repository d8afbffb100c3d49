import PatternSyntax.Proofs.Composition.Closing

/-!
# Productions before a closing parenthesis

No production below the level of expressions reads a closing parenthesis that may be left
out. The productions that look back have read a lexeme before. Those that look ahead need
what they see, or do not keep it.
-/

namespace PatternSyntax.Grammar

open PatternSyntax.Parser
open PatternSyntax.Text

variable {α : Type} {aligned : Prop}

/-! ## Single lexemes -/

theorem closes_number (read : List Char → Option α) : Closes aligned (number read) := by
  refine (closes_accept (by decide)).bind fun lexeme => ?_
  split
  · exact closes_pure _
  · exact closes_fail _

theorem closes_expectNumber (read : List Char → Option α) : Closes aligned (expectNumber read) :=
  (closes_number read).orFail _

theorem expectLiteral_progresses : expectLiteral.Progresses :=
  progresses_of_reads fun _ _ _ accepted => by
    obtain ⟨lexeme, -, reads⟩ := expectLiteral_eq_accept_iff.mp accepted
    exact ⟨[lexeme], nofun, reads⟩

theorem closes_literal : Closes aligned literal :=
  (closes_accept (by decide)).bind fun _ => closes_pure _

theorem closes_expectLiteral : Closes aligned expectLiteral :=
  closes_literal.orFail _

theorem closes_codePoint : Closes aligned codePoint := by
  refine (closes_accept (by decide)).bind fun lexeme => ?_
  split
  · exact closes_pure _
  · exact closes_fail _

/-! ## Character classes -/

theorem closes_endpoint (unit : ClassUnit) (span : Span) : Closes aligned (unit.endpoint span) := by
  unfold ClassUnit.endpoint
  split
  · exact closes_pure _
  · exact closes_fail _
  · exact closes_pure _
  · exact closes_fail _

theorem closes_classUnit : Closes aligned classUnit :=
  .orElse ((closes_accept (by decide)).bind fun _ => closes_pure _) <|
    .orElse (closes_codePoint.bind fun _ => closes_pure _) <|
    closes_acceptMap fun lexeme isClosing => by rw [isClosing, if_neg (by decide)]

theorem closes_unitOrRange : Closes aligned unitOrRange := by
  refine .here_bind_of_declines
    (fun _ _ _ => bind_eq_decline (classUnit_eq_decline_iff.mpr nofun)) fun firstSpan =>
      closes_classUnit.bind fun first => (closes_accept (by decide)).optional.bind fun dash => ?_
  cases dash with
  | none => exact closes_pure _
  | some dash =>
    exact .here_bind_of_fails (fun _ _ => ⟨_, rfl⟩) fun lastSpan =>
      (closes_classUnit.orFail _).bind fun last => (closes_endpoint _ _).bind fun lower =>
        (closes_endpoint _ _).bind fun upper => .ite (closes_fail _) (closes_pure _)

theorem closes_namedItem (negative : Bool) : Closes aligned (namedItem negative) := by
  refine (closes_accept (by decide)).bind fun first =>
    (closes_accept (by decide)).optional.bind fun colon => ?_
  cases colon with
  | none => exact closes_pure _
  | some colon => exact (closes_expect _).bind fun _ => closes_pure _

theorem closes_negatedItem (bang : Lexeme) : Closes aligned (negatedItem bang) :=
  .orElse (closes_unitOrRange.bind fun _ => closes_fail _) <|
    .orElse ((closes_namedItem true).bind fun _ => closes_pure _) (closes_failHere _)

theorem closes_classItem : Closes aligned classItem := by
  refine (closes_accept (by decide)).optional.bind fun bang => ?_
  cases bang with
  | none => exact closes_unitOrRange.orElse ((closes_namedItem false).bind fun _ => closes_pure _)
  | some bang => exact closes_negatedItem bang

theorem closes_charClass (unicode : Bool) : Closes aligned (charClass unicode) := by
  refine (closes_accept (by decide)).bind fun opening => closes_classItem.many.bind fun items =>
    (closes_accept_orFail _ _).bind fun closing => ?_
  dsimp only
  split
  · exact closes_pure _
  · exact closes_fail _

/-! ## Atoms -/

theorem closes_groupName (name : Lexeme) : Closes aligned (groupName name) :=
  .ite (closes_fail _) (.ite (closes_fail _) (closes_pure _))

theorem closes_groupOpening : Closes aligned groupOpening := by
  refine .orElse ((closes_keyword _).bind fun _ => (closes_expect _).bind fun _ => closes_pure _) <|
    .orElse ?_ ((closes_accept (by decide)).bind fun _ => closes_pure _)
  refine (closes_accept (by decide)).bind fun colon =>
    (closes_accept (by decide)).optional.bind fun name => ?_
  cases name with
  | none => exact (closes_pure _).bind fun _ => (closes_expect _).bind fun _ => closes_pure _
  | some name =>
    exact (closes_groupName name).bind fun _ => (closes_expect _).bind fun _ => closes_pure _

theorem closes_group {expression : Parser Pattern} (closes : Closes aligned expression) :
    Closes aligned (group expression) :=
  closes_groupOpening.bind fun _ => closes.bind fun _ =>
    (closes_accept_orFail _ _).bind fun _ => closes_pure _

theorem closes_boundary : Closes aligned boundary :=
  closes_acceptMap fun lexeme isClosing => by
    rw [isClosing]
    rfl

theorem closes_referenceTarget : Closes aligned referenceTarget :=
  .orElse ((closes_accept (by decide)).bind fun _ => (closes_expectNumber _).bind fun _ =>
      closes_pure _) <|
    .orElse ((closes_accept (by decide)).bind fun _ => (closes_expectNumber _).bind fun _ =>
      closes_pure _) <|
    .orElse ((closes_number _).bind fun _ => closes_pure _) <|
    (closes_accept_orFail _ _).bind fun _ => closes_pure _

theorem closes_reference : Closes aligned reference :=
  (closes_accept (by decide)).bind_aligned (acceptMap_progresses _) fun _ =>
    closes_referenceTarget.bind fun _ => closes_previous.bind fun _ => closes_pure _

theorem closes_codePointClass (unicode : Bool) : Closes aligned (codePointClass unicode) :=
  closes_codePoint.bind fun _ => closes_pure _

theorem closes_radix : Closes aligned radix :=
  (closes_keyword _).bind_aligned (acceptMap_progresses _) fun _ =>
    (closes_expectNumber _).bind fun _ =>
      .ite (closes_pure _) (closes_previous.bind fun _ => closes_fail _)

theorem closes_numberRange : Closes aligned numberRange :=
  (closes_keyword _).bind_aligned (acceptMap_progresses _) fun _ => (closes_expect _).bind fun _ =>
    (closes_expect _).bind fun _ => (closes_expect _).bind fun _ =>
      closes_radix.optional.bind fun _ => closes_previous.bind fun _ => closes_pure _

theorem closes_regex : Closes aligned regex :=
  (closes_keyword _).bind fun _ => closes_expectLiteral.bind fun _ => closes_pure _

theorem closes_atom {expression : Parser Pattern} (closes : Closes aligned expression)
    (unicode : Bool) : Closes aligned (atom unicode expression) :=
  (closes_group closes).orElse <|
    .orElse (closes_literal.bind fun _ => closes_pure _) <|
    (closes_charClass unicode).orElse <|
    closes_boundary.orElse <|
    closes_reference.orElse <|
    (closes_codePointClass unicode).orElse <|
    closes_numberRange.orElse <|
    closes_regex.orElse <|
    .orElse ((closes_accept (by decide)).bind fun _ => closes_pure _) <|
    .orElse ((closes_accept (by decide)).bind fun _ => closes_pure _) <|
    (closes_keyword _).bind fun _ => closes_pure _

/-! ## Repetitions -/

/-- Bounds that the end cuts off are incomplete. -/
theorem closes_bracedBounds : Closes aligned bracedBounds := by
  have closed (bounds : Bounds) : Closes True (do
      let _ ← expect .closeBrace
      return bounds) := (closes_expect _).bind fun _ => closes_pure _
  refine (closes_accept (by decide)).bind_aligned (acceptMap_progresses _) fun _ =>
    .here_bind_of_fails (fun _ _ => ⟨_, rfl⟩) fun start =>
      (closes_number count?).optional.bind fun lower =>
        (closes_accept (by decide)).optional.bind fun comma =>
          (closes_number count?).optional.bind fun upper => closes_previous.bind fun stop => ?_
  cases comma with
  | some comma =>
    cases upper with
    | none => exact closed _
    | some upper => exact .ite ((closes_fail _).bind closed) (closed _)
  | none =>
    cases lower with
    | none => exact (closes_failHere _).bind closed
    | some lower =>
      cases upper with
      | none => exact closed _
      | some upper => exact (closes_fail _).bind closed

theorem repetitionBounds_progresses : repetitionBounds.Progresses :=
  progresses_of_reads fun _ _ _ accepted => by
    obtain ⟨lexemes, spells, reads⟩ := repetitionBounds_eq_accept_iff.mp accepted
    exact ⟨lexemes, spells.ne_nil, reads⟩

theorem closes_repetitionBounds : Closes aligned repetitionBounds :=
  have single {kind : TokenKind} (other : kind ≠ .closeParen) (bounds : Bounds) :
      Closes aligned (accept kind *> pure bounds) :=
    (closes_accept other).bind fun _ => closes_pure bounds
  (single (by decide) _).orElse <| (single (by decide) _).orElse <|
    (single (by decide) _).orElse closes_bracedBounds

theorem closes_quantifier (lazyMode : Bool) : Closes aligned (quantifier lazyMode) :=
  have single (word : String) (preference : Quantifier) :
      Closes aligned (keyword word *> pure preference) :=
    (closes_keyword word).bind fun _ => closes_pure preference
  (single _ _).orElse <| (single _ _).orElse <| closes_pure _

theorem closes_repetition (lazyMode : Bool) : Closes aligned (repetition lazyMode) := by
  have declines (previous finish : Span) : repetitionBounds ⟨[], previous, finish⟩ = .decline :=
    repetitionBounds_eq_decline_iff.mpr nofun
  refine .here_bind_of_declines (fun _ _ _ => bind_eq_decline (declines _ _)) fun start =>
    closes_repetitionBounds.bind_aligned repetitionBounds_progresses fun bounds =>
      (closes_quantifier lazyMode).bind fun preference => closes_previous.bind fun stop =>
        .here_bind_of_blind (fun _ _ _ _ => rfl) fun secondStart =>
          closes_repetitionBounds.optional.bind fun again => ?_
  cases again with
  | none => exact closes_pure _
  | some again => exact closes_previous.bind fun _ => closes_fail _

theorem closes_repeated (lazyMode : Bool) (body : Pattern) : Closes aligned (repeated lazyMode body) := by
  refine (closes_repetition lazyMode).optional.bind fun found => ?_
  cases found with
  | none => exact closes_pure _
  | some found => exact closes_pure _

/-! ## Test blocks -/

theorem captureLabel_progresses : captureLabel.Progresses :=
  progresses_of_reads fun _ _ _ accepted => by
    obtain ⟨lexeme, -, reads⟩ := captureLabel_eq_accept_iff.mp accepted
    exact ⟨[lexeme], nofun, reads⟩

theorem closes_captureLabel : Closes aligned captureLabel :=
  .orElse ((closes_number _).bind fun _ => closes_pure _)
    ((closes_accept (by decide)).bind fun _ => closes_pure _)

theorem closes_capture : Closes aligned capture :=
  closes_captureLabel.bind_aligned captureLabel_progresses fun _ => closes_previous.bind fun _ =>
    (closes_expect _).bind fun _ => closes_expectLiteral.bind fun _ => closes_pure _

theorem closes_captures : Closes aligned captures := by
  refine (closes_contextual _).optional.bind fun word => ?_
  cases word with
  | none => exact closes_pure _
  | some word =>
    exact (closes_expect _).bind fun _ =>
      (closes_capture.sepEndBy (closes_accept (by decide))).bind fun _ =>
        (closes_expect _).bind fun _ => closes_pure _

theorem closes_testMatch : Closes aligned testMatch :=
  closes_expectLiteral.bind_aligned expectLiteral_progresses fun _ => closes_captures.bind fun _ =>
    closes_previous.bind fun _ => closes_pure _

/-- The matches of a case cannot be left out at the end. -/
theorem closes_testMatches : Closes aligned testMatches := by
  refine .look_bind (fun cursor => (cursor.rest.head?.map Lexeme.text).getD "")
    (fun cursor => ?_) (fun cursor inner enclosed inside => ?_) (fun cursor atEnd => .inl ?_)
    fun text => .ite (closes_pure _) (closes_testMatch.sepBy (closes_accept (by decide)))
  · rcases cursor with ⟨_ | _, _, _⟩ <;> rfl
  · obtain ⟨closing, more, -, rest⟩ := enclosed.rest
    obtain ⟨lexeme, others, cons⟩ := List.exists_cons_of_ne_nil inside
    rw [rest, cons, List.cons_append, List.head?_cons, List.head?_cons]
  · obtain ⟨rest, previous, finish⟩ := cursor
    obtain rfl : rest = [] := atEnd
    exact ⟨_, rfl⟩

theorem closes_haystack : Closes aligned haystack :=
  (closes_contextual _).bind fun _ => closes_expectLiteral

theorem closes_matchCase : Closes aligned matchCase := by
  refine (closes_contextual _).bind fun word => closes_testMatches.bind fun expected =>
    closes_haystack.optional.bind fun within => (closes_expect _).bind fun stop => ?_
  split
  · exact closes_pure _
  · exact closes_pure _
  · exact closes_failHere _
  · exact closes_fail _

theorem closes_rejectCase : Closes aligned rejectCase :=
  (closes_contextual _).bind fun _ => (closes_contextual _).optional.bind fun _ =>
    closes_expectLiteral.bind fun _ => (closes_expect _).bind fun _ => closes_pure _

theorem closes_testBlock : Closes aligned testBlock :=
  (closes_keyword _).bind fun _ => (closes_expect _).bind fun _ =>
    (closes_matchCase.orElse closes_rejectCase).many.bind fun _ => (closes_expect _).bind fun _ =>
      closes_pure _

/-! ## Statements -/

theorem closes_setting : Closes aligned setting :=
  .orElse ((closes_keyword _).bind fun _ => closes_pure _)
    ((closes_contextual _).bind fun _ => closes_pure _)

theorem closes_toggle : Closes aligned toggle :=
  have word : Closes aligned toggleWord :=
    .orElse ((closes_keyword _).bind fun _ => closes_pure _)
      ((closes_keyword _).bind fun _ => closes_pure _)
  word.bind fun _ => (closes_setting.orFail _).bind fun _ => (closes_expect _).bind fun _ =>
    closes_pure _

theorem closes_statement {alternation : Parser Pattern} (closes : Closes aligned alternation) :
    Closes aligned (statement alternation) :=
  have bound : Closes aligned (binding alternation) :=
    (closes_keyword _).bind fun _ => (closes_expect _).bind fun _ => (closes_expect _).bind fun _ =>
      closes.bind fun _ => (closes_accept_orFail _ _).bind fun _ => closes_pure _
  .orElse (closes_toggle.bind fun _ => closes_pure _) <|
    bound.orElse (closes_testBlock.bind fun _ => closes_pure _)

end PatternSyntax.Grammar
