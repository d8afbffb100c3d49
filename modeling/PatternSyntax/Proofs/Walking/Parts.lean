import PatternSyntax.Proofs.Soundness
import PatternSyntax.Proofs.Walking.Agreement
import PatternSyntax.Proofs.Walking.Productions

/-!
# The parts as walks

Every production that holds no expression does in place what the grammar does at
cursors.
-/

namespace PatternSyntax.Walk

variable {α : Type} {rounds bound levels : Nat} {modes : Modes}

/-! ## Terminals -/

theorem tries_number (read : List Char → Option α) :
    Tries rounds bound levels modes (number read) (Grammar.number read) := by
  refine (tries_accept .number).bind (fun lexeme => ?_) (by rfl)
  dsimp only
  cases read lexeme.text.toList with
  | none => exact completes_throw _
  | some value => exact completes_pure value

theorem follows_expectNumber (read : List Char → Option α) :
    Follows rounds bound levels modes (expectNumber read) (Grammar.expectNumber read) :=
  (tries_number read).orFail _

theorem tries_literal : Tries rounds bound levels modes literal Grammar.literal :=
  (tries_accept .string).bind (fun _ => completes_pure _) (by rfl)

theorem follows_expectLiteral :
    Follows rounds bound levels modes expectLiteral Grammar.expectLiteral :=
  tries_literal.orFail _

theorem tries_codePoint : Tries rounds bound levels modes codePoint Grammar.codePoint := by
  refine (tries_accept .codePoint).bind (fun lexeme => ?_) (by rfl)
  dsimp only
  cases Grammar.codePointChar? lexeme.text.toList with
  | none => exact completes_throw _
  | some c => exact completes_pure _

/-! ## Character classes -/

theorem tries_classUnit : Tries rounds bound levels modes classUnit Grammar.classUnit := by
  apply Tries.orElse
  · exact (tries_accept .string).bind (fun _ => completes_pure _) (by rfl)
  · apply Tries.orElse
    · exact tries_codePoint.bind (fun _ => completes_pure _) (by rfl)
    · exact tries_acceptMap _

theorem follows_endpoint (span : Span) (unit : Grammar.ClassUnit) :
    Follows rounds bound levels modes (endpoint span unit) (unit.endpoint span) := by
  rcases unit with ⟨_ | ⟨c, _ | ⟨_, _⟩⟩⟩ | c
  · exact follows_throw _
  · exact follows_pure c
  · exact follows_throw _
  · exact follows_pure c

theorem tries_unitOrRange : Tries rounds bound levels modes unitOrRange Grammar.unitOrRange := by
  refine Tries.after_here fun firstSpan => tries_classUnit.bind (fun first => ?_) (by rfl)
  refine (tries_accept .dash).optional.bind_completes fun dash => ?_
  cases dash with
  | none => exact completes_pure _
  | some _ =>
    refine follows_here.bind_completes fun lastSpan => ?_
    refine (tries_classUnit.orFail _).bind_completes fun last => ?_
    refine (follows_endpoint firstSpan first).bind_completes fun lower => ?_
    refine (follows_endpoint lastSpan last).bind_completes fun upper => ?_
    by_cases descends : upper < lower
    · rw [if_pos descends, if_pos descends]
      exact completes_throw _
    · rw [if_neg descends, if_neg descends]
      exact completes_pure _

theorem tries_namedItem (negative : Bool) :
    Tries rounds bound levels modes (namedItem negative) (Grammar.namedItem negative) := by
  refine (tries_accept .identifier).bind (fun first => ?_) (by rfl)
  refine (tries_accept .colon).optional.bind_completes fun colon => ?_
  cases colon with
  | none => exact completes_pure _
  | some _ => exact (follows_expect .identifier).bind_completes fun _ => completes_pure _

theorem tries_classItem : Tries rounds bound levels modes classItem Grammar.classItem := by
  rw [Grammar.classItem, Parser.optional_bind_eq_either]
  apply (tries_accept .bang).either_tries
  · intro bang
    apply tries_unitOrRange.bind_orElse_completes (fun _ => Parser.commits_fail _)
    · exact fun _ => completes_throw _
    · apply (tries_namedItem true).bind_orElse_completes (fun _ => Parser.commits_pure _)
      · exact fun _ => completes_pure _
      · exact completes_failHere _
  · apply tries_unitOrRange.orElse
    exact (tries_namedItem false).bind (fun _ => completes_pure _) (by rfl)

theorem tries_charClass :
    Tries rounds bound levels modes charClass (Grammar.charClass modes.unicode) := by
  refine (tries_accept .openBracket).bind (fun opening => ?_) (by rfl)
  refine (follows_many Grammar.classItem_progresses tries_classItem).bind_completes fun items => ?_
  refine ((tries_accept .closeBracket).orFail _).bind_completes fun closing => ?_
  apply Completes.after_modes
  dsimp only
  cases CharClass.ofItems? items.flatten modes.unicode (opening.span.join closing.span) with
  | none => exact completes_throw _
  | some members => exact completes_pure _

/-! ## Atoms -/

theorem follows_groupName (name : Lexeme) :
    Follows rounds bound levels modes (groupName name) (Grammar.groupName name) := by
  unfold groupName Grammar.groupName
  split
  · exact follows_throw _
  · split
    · exact follows_throw _
    · exact follows_pure _

theorem tries_groupOpening : Tries rounds bound levels modes groupOpening Grammar.groupOpening := by
  apply Tries.orElse
  · refine (tries_keyword "atomic").bind (fun word => ?_) (by rfl)
    exact (follows_expect .openParen).bind_completes fun _ => completes_pure _
  · apply Tries.orElse
    · refine (tries_accept .colon).bind (fun colon => ?_) (by rfl)
      refine (tries_accept .identifier).optional.bind_completes fun name => ?_
      cases name with
      | none => exact (follows_expect .openParen).bind_completes fun _ => completes_pure _
      | some name =>
        refine (follows_groupName name).bind_completes fun kind => ?_
        exact (follows_expect .openParen).bind_completes fun _ => completes_pure _
    · exact (tries_accept .openParen).bind (fun _ => completes_pure _) (by rfl)

theorem tries_boundary : Tries rounds bound levels modes boundary Grammar.boundary :=
  tries_acceptMap _

theorem follows_referenceTarget :
    Follows rounds bound levels modes referenceTarget Grammar.referenceTarget := by
  apply (tries_accept .plus).bind_orElse
  · exact fun _ => (Parser.commits_orFail _ _).bind fun _ => Parser.commits_pure _
  · exact fun _ => (follows_expectNumber _).bind fun _ => follows_pure _
  apply (tries_accept .dash).bind_orElse
  · exact fun _ => (Parser.commits_orFail _ _).bind fun _ => Parser.commits_pure _
  · exact fun _ => (follows_expectNumber _).bind fun _ => follows_pure _
  apply (tries_number Grammar.count?).bind_orElse
  · exact fun _ => Parser.commits_pure _
  · exact fun _ => follows_pure _
  · exact ((tries_accept .identifier).orFail _).bind fun _ => follows_pure _

theorem tries_reference : Tries rounds bound levels modes reference Grammar.reference := by
  refine (tries_accept .doubleColon).bind (fun mark => ?_) (by rfl)
  refine follows_referenceTarget.bind_completes fun target => ?_
  exact follows_previous.bind_completes fun _ => completes_pure _

theorem tries_codePointClass :
    Tries rounds bound levels modes codePointClass (Grammar.codePointClass modes.unicode) :=
  tries_codePoint.bind (fun _ => Completes.after_modes (completes_pure _)) (by rfl)

theorem tries_radix : Tries rounds bound levels modes radix Grammar.radix := by
  refine (tries_keyword "base").bind (fun _ => ?_) (by rfl)
  refine (follows_expectNumber _).bind_completes fun base => ?_
  by_cases inRange : 2 ≤ base ∧ base ≤ 36
  · rw [if_pos inRange, if_pos inRange]
    exact completes_pure base
  · rw [if_neg inRange, if_neg inRange]
    exact follows_previous.bind_completes fun _ => completes_throw _

theorem tries_numberRange : Tries rounds bound levels modes numberRange Grammar.numberRange := by
  refine (tries_keyword "range").bind (fun word => ?_) (by rfl)
  refine (follows_expect .string).bind_completes fun first => ?_
  refine (follows_expect .dash).bind_completes fun _ => ?_
  refine (follows_expect .string).bind_completes fun last => ?_
  refine tries_radix.optional.bind_completes fun base => ?_
  exact follows_previous.bind_completes fun _ => completes_pure _

theorem tries_regex : Tries rounds bound levels modes regex Grammar.regex := by
  refine (tries_keyword "regex").bind (fun word => ?_) (by rfl)
  exact follows_expectLiteral.bind_completes fun _ => completes_pure _

theorem tries_quoted : Tries rounds bound levels modes quoted (.literal <$> Grammar.literal) :=
  tries_literal.bind (fun _ => completes_pure _) (by rfl)

theorem tries_use : Tries rounds bound levels modes use (do
    let name ← Parser.accept .identifier
    return Pattern.use name.text name.span) :=
  (tries_accept .identifier).bind (fun _ => completes_pure _) (by rfl)

theorem tries_dot : Tries rounds bound levels modes dot (do
    let dot ← Parser.accept .dot
    return Pattern.dot dot.span) :=
  (tries_accept .dot).bind (fun _ => completes_pure _) (by rfl)

theorem tries_recursion : Tries rounds bound levels modes recursion (do
    let word ← Parser.keyword "recursion"
    return Pattern.recursion word.span) :=
  (tries_keyword "recursion").bind (fun _ => completes_pure _) (by rfl)

/-- The grammar reads an atom that holds no expression in the same order. -/
theorem tries_leaf : Tries rounds bound levels modes leaf (
    (do
      let text ← Grammar.literal
      return Pattern.literal text) <|>
    Grammar.charClass modes.unicode <|>
    Grammar.boundary <|>
    Grammar.reference <|>
    Grammar.codePointClass modes.unicode <|>
    Grammar.numberRange <|>
    Grammar.regex <|>
    (do
      let name ← Parser.accept .identifier
      return Pattern.use name.text name.span) <|>
    (do
      let dot ← Parser.accept .dot
      return Pattern.dot dot.span) <|>
    (do
      let word ← Parser.keyword "recursion"
      return Pattern.recursion word.span)) :=
  tries_quoted.orElse <| tries_charClass.orElse <| tries_boundary.orElse <|
    tries_reference.orElse <| tries_codePointClass.orElse <| tries_numberRange.orElse <|
    tries_regex.orElse <| tries_use.orElse <| tries_dot.orElse tries_recursion

/-! ## Repetitions -/

theorem tries_bracedBounds : Tries rounds bound levels modes bracedBounds Grammar.bracedBounds := by
  refine (tries_accept .openBrace).bind (fun _ => ?_) (by rfl)
  refine follows_here.bind_completes fun start => ?_
  refine (tries_number Grammar.count?).optional.bind_completes fun lower => ?_
  refine (tries_accept .comma).optional.bind_completes fun comma => ?_
  refine (tries_number Grammar.count?).optional.bind_completes fun upper => ?_
  refine follows_previous.bind_completes fun stop => ?_
  have closing (bounds : Bounds) : Completes rounds bound levels modes
      (do
        let _ ← expect .closeBrace
        return some bounds)
      (do
        let _ ← Parser.expect .closeBrace
        return bounds) :=
    (follows_expect .closeBrace).bind_completes fun _ => completes_pure bounds
  rcases comma with _ | comma
  · rcases lower with _ | exact
    · exact (follows_failHere _).bind_completes closing
    · rcases upper with _ | upper
      · exact closing ⟨exact, some exact⟩
      · exact (follows_throw _).bind_completes closing
  · rcases upper with _ | upper
    · exact closing ⟨lower.getD 0, none⟩
    · dsimp only
      by_cases descends : upper < lower.getD 0
      · rw [if_pos descends, if_pos descends]
        exact (follows_throw _).bind_completes closing
      · rw [if_neg descends, if_neg descends]
        exact closing ⟨lower.getD 0, some upper⟩

theorem tries_operator (kind : TokenKind) (value : α) :
    Tries rounds bound levels modes (operator kind value) (Parser.accept kind *> pure value) :=
  (tries_accept kind).bind (fun _ => completes_pure value) (by rfl)

theorem tries_repetitionBounds :
    Tries rounds bound levels modes repetitionBounds Grammar.repetitionBounds :=
  (tries_operator .plus _).orElse <| (tries_operator .star _).orElse <|
    (tries_operator .questionMark _).orElse tries_bracedBounds

theorem follows_quantifier :
    Follows rounds bound levels modes quantifier (Grammar.quantifier modes.lazy) := by
  apply (tries_keyword "greedy").bind_orElse
  · exact fun _ => Parser.commits_pure _
  · exact fun _ => follows_pure _
  apply (tries_keyword "lazy").bind_orElse
  · exact fun _ => Parser.commits_pure _
  · exact fun _ => follows_pure _
  · apply Follows.after_modes
    exact follows_pure _

theorem tries_repetition :
    Tries rounds bound levels modes repetition (Grammar.repetition modes.lazy) := by
  refine Tries.after_here fun start => tries_repetitionBounds.bind (fun bounds => ?_) (by rfl)
  refine follows_quantifier.bind_completes fun preference => ?_
  refine follows_previous.bind_completes fun stop => ?_
  refine follows_here.bind_completes fun secondStart => ?_
  refine tries_repetitionBounds.optional.bind_completes fun second => ?_
  cases second with
  | none => exact completes_pure _
  | some _ => exact follows_previous.bind_completes fun _ => completes_throw _

/-! ## Test blocks -/

theorem tries_captureLabel : Tries rounds bound levels modes captureLabel Grammar.captureLabel := by
  apply Tries.orElse
  · exact (tries_number _).bind (fun _ => completes_pure _) (by rfl)
  · exact (tries_accept .identifier).bind (fun _ => completes_pure _) (by rfl)

theorem tries_capture : Tries rounds bound levels modes capture Grammar.capture := by
  refine tries_captureLabel.bind (fun label => ?_) (by rfl)
  refine follows_previous.bind_completes fun labelSpan => ?_
  refine (follows_expect .colon).bind_completes fun _ => ?_
  exact follows_expectLiteral.bind_completes fun _ => completes_pure _

theorem follows_captures : Follows rounds bound levels modes captures Grammar.captures := by
  refine (tries_contextual "as").optional.bind fun word => ?_
  cases word with
  | none => exact follows_pure []
  | some _ =>
    refine (follows_expect .openBrace).bind fun _ => ?_
    refine (follows_listed Grammar.separatedCapture_progresses tries_capture
      (tries_accept .comma)).bind fun captures => ?_
    exact (follows_expect .closeBrace).bind fun _ => follows_pure captures

theorem follows_testMatch : Follows rounds bound levels modes testMatch Grammar.testMatch := by
  refine follows_expectLiteral.bind fun text => ?_
  refine follows_captures.bind fun captures => ?_
  exact follows_previous.bind fun _ => follows_pure _

theorem tries_nextMatch :
    Tries rounds bound levels modes nextMatch (Parser.accept .comma *> Grammar.testMatch) :=
  (tries_accept .comma).bind (fun _ => follows_testMatch.completes) (by rfl)

theorem follows_testMatches :
    Follows rounds bound levels modes testMatches Grammar.testMatches := by
  refine follows_nextText.bind fun text => ?_
  by_cases omitted : text = "in"
  · rw [if_pos omitted, if_pos omitted]
    exact follows_pure []
  · rw [if_neg omitted, if_neg omitted]
    refine follows_testMatch.bind fun first => ?_
    refine (follows_many Grammar.nextMatch_progresses tries_nextMatch).bind fun more => ?_
    exact follows_pure (first :: more)

theorem tries_haystack : Tries rounds bound levels modes haystack Grammar.haystack :=
  (tries_contextual "in").bind (fun _ => follows_expectLiteral.completes) (by rfl)

theorem tries_matchCase : Tries rounds bound levels modes matchCase Grammar.matchCase := by
  refine (tries_contextual "match").bind (fun word => ?_) (by rfl)
  refine follows_testMatches.bind_completes fun expected => ?_
  refine tries_haystack.optional.bind_completes fun within => ?_
  refine (follows_expect .semicolon).bind_completes fun stop => ?_
  rcases within with _ | text
  · rcases expected with _ | ⟨first, _ | ⟨second, more⟩⟩
    · exact completes_failHere _
    · exact completes_pure _
    · exact completes_throw _
  · exact completes_pure _

theorem tries_rejectCase : Tries rounds bound levels modes rejectCase Grammar.rejectCase := by
  refine (tries_contextual "reject").bind (fun word => ?_) (by rfl)
  refine (tries_contextual "in").optional.bind_completes fun within => ?_
  refine follows_expectLiteral.bind_completes fun text => ?_
  exact (follows_expect .semicolon).bind_completes fun _ => completes_pure _

theorem tries_testCase : Tries rounds bound levels modes testCase Grammar.testCase :=
  tries_matchCase.orElse tries_rejectCase

theorem tries_testBlock : Tries rounds bound levels modes testBlock Grammar.testBlock := by
  refine (tries_keyword "test").bind (fun word => ?_) (by rfl)
  refine (follows_expect .openBrace).bind_completes fun _ => ?_
  refine (follows_many Grammar.testCase_progresses tries_testCase).bind_completes fun cases => ?_
  exact (follows_expect .closeBrace).bind_completes fun _ => completes_pure _

/-! ## Statements -/

theorem tries_setting : Tries rounds bound levels modes setting Grammar.setting := by
  apply Tries.orElse
  · exact (tries_keyword "lazy").bind (fun _ => completes_pure _) (by rfl)
  · exact (tries_contextual "unicode").bind (fun _ => completes_pure _) (by rfl)

theorem tries_toggleWord : Tries rounds bound levels modes toggleWord Grammar.toggleWord := by
  apply Tries.orElse
  · exact (tries_keyword "enable").bind (fun _ => completes_pure _) (by rfl)
  · exact (tries_keyword "disable").bind (fun _ => completes_pure _) (by rfl)

theorem tries_toggle : Tries rounds bound levels modes toggle Grammar.toggle := by
  refine tries_toggleWord.bind (fun toggled => ?_) (by rfl)
  refine (tries_setting.orFail _).bind_completes fun target => ?_
  exact (follows_expect .semicolon).bind_completes fun _ => completes_pure _

end PatternSyntax.Walk
