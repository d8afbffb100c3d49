import PatternSyntax.Proofs.Displacement.Parsers

/-!
# Productions and places

Every production below the level of expressions reads lexemes that are moved as it reads
them where they stood. Spans are only joined and handed on.
-/

namespace PatternSyntax.Grammar

open PatternSyntax.Parser
open PatternSyntax.Text

variable {α : Type} {f : Span → Span}

/-! ## Single lexemes -/

theorem moves_accept (kind : TokenKind) : Moves f (Lexeme.mapSpan f) (accept kind) (accept kind) :=
  moves_take _ fun _ => Iff.rfl

theorem moves_acceptText (kind : TokenKind) (text : String) :
    Moves f (Lexeme.mapSpan f) (acceptText kind text) (acceptText kind text) :=
  moves_take _ fun _ => Iff.rfl

theorem moves_keyword (word : String) : Moves f (Lexeme.mapSpan f) (keyword word) (keyword word) :=
  moves_acceptText _ word

theorem moves_contextual (word : String) :
    Moves f (Lexeme.mapSpan f) (contextual word) (contextual word) :=
  moves_acceptText _ word

theorem moves_expect (kind : TokenKind) : Moves f (Lexeme.mapSpan f) (expect kind) (expect kind) :=
  (moves_accept kind).orFail fun _ => rfl

theorem moves_number (read : List Char → Option α) : Moves f id (number read) (number read) := by
  refine (moves_accept _).bind fun lexeme => ?_
  simp only [Lexeme.mapSpan]
  cases read lexeme.text.toList with
  | some value => exact moves_pure value
  | none => exact moves_fail _

theorem moves_expectNumber (read : List Char → Option α) :
    Moves f id (expectNumber read) (expectNumber read) :=
  (moves_number read).orFail fun _ => rfl

theorem moves_literal : Moves f (Literal.mapSpans f) literal literal :=
  (moves_accept _).bind fun _ => moves_pure _

theorem moves_expectLiteral : Moves f (Literal.mapSpans f) expectLiteral expectLiteral :=
  moves_literal.orFail fun _ => rfl

theorem moves_codePoint : Moves f (Prod.map id f) codePoint codePoint := by
  refine (moves_accept _).bind fun lexeme => ?_
  simp only [Lexeme.mapSpan]
  cases codePointChar? lexeme.text.toList with
  | some c => exact moves_pure (c, lexeme.span)
  | none => exact moves_fail _

/-! ## Parts without spans -/

theorem moves_classUnit : Moves f id classUnit classUnit := by
  refine .orElse ((moves_accept _).bind fun _ => moves_pure _) <|
    .orElse (moves_codePoint.bind fun _ => moves_pure _) (moves_acceptMap fun lexeme => ?_)
  simp only [Lexeme.mapSpan, Option.map_id]
  rfl

theorem moves_endpoint (unit : ClassUnit) (span : Span) :
    Moves f id (unit.endpoint span) (unit.endpoint (f span)) := by
  rcases unit with (_ | ⟨c, _ | ⟨second, more⟩⟩) | c
  · exact moves_fail _
  · exact moves_pure c
  · exact moves_fail _
  · exact moves_pure c

theorem moves_groupName (name : Lexeme) : Moves f id (groupName name) (groupName (name.mapSpan f)) :=
  .ite (moves_fail _) (.ite (moves_fail _) (moves_pure _))

theorem moves_referenceTarget : Moves f id referenceTarget referenceTarget :=
  .orElse ((moves_accept _).bind fun _ => (moves_expectNumber _).bind fun _ => moves_pure _) <|
    .orElse ((moves_accept _).bind fun _ => (moves_expectNumber _).bind fun _ => moves_pure _) <|
    .orElse ((moves_number _).bind fun _ => moves_pure _) <|
    ((moves_accept _).orFail fun _ => rfl).bind fun _ => moves_pure _

theorem moves_radix : Moves f id radix radix :=
  (moves_keyword _).bind fun _ => (moves_expectNumber _).bind fun base =>
    .ite (moves_pure base) (moves_previous.bind fun _ => moves_fail _)

theorem moves_captureLabel : Moves f id captureLabel captureLabel :=
  .orElse ((moves_number _).bind fun _ => moves_pure _) ((moves_accept _).bind fun _ => moves_pure _)

theorem moves_quantifier (lazyMode : Bool) : Moves f id (quantifier lazyMode) (quantifier lazyMode) :=
  have said (word : String) (preference : Quantifier) :
      Moves f id (keyword word *> pure preference) (keyword word *> pure preference) :=
    (moves_keyword word).bind fun _ => moves_pure preference
  (said _ _).orElse ((said _ _).orElse (moves_pure _))

theorem moves_setting : Moves f id setting setting :=
  .orElse ((moves_keyword _).bind fun _ => moves_pure _) ((moves_contextual _).bind fun _ => moves_pure _)

theorem moves_boundary : Moves f (Pattern.mapSpans f f) boundary boundary := by
  refine moves_acceptMap fun lexeme => ?_
  simp only [Lexeme.mapSpan]
  cases boundaryOf? lexeme.kind <;> rfl

/-! ## Joined spans -/

section Joined

variable (respects : RespectsJoin (fun _ => True) f)

include respects

theorem map_join (first second : Span) : (f first).join (f second) = f (first.join second) :=
  (respects.join first second trivial trivial).symm

theorem moves_bracedBounds : Moves f id bracedBounds bracedBounds := by
  have closed (bounds : Bounds) : Moves f id (do
      let _ ← expect .closeBrace
      return bounds) (do
      let _ ← expect .closeBrace
      return bounds) := (moves_expect _).bind fun _ => moves_pure _
  refine (moves_accept _).bind fun _ => moves_here.bind fun start =>
    (moves_number count?).optional.bind fun lower => (moves_accept _).optional.bind fun comma =>
      (moves_number count?).optional.bind fun upper => moves_previous.bind fun stop => ?_
  rw [Option.map_id, id, id]
  cases comma with
  | some comma =>
    cases upper with
    | none => exact closed _
    | some upper =>
      have descending : Moves f id (fail (.ofFault .descendingBounds (start.join stop)) : Parser Bounds)
          (fail (.ofFault .descendingBounds ((f start).join (f stop)))) := by
        rw [map_join respects]
        exact moves_fail _
      exact .ite (descending.bind fun bounds => closed bounds) (closed _)
  | none =>
    cases lower with
    | none =>
      have missing : Moves f id (failHere (.missing "number") : Parser Bounds)
          (failHere (.missing "number")) := moves_failHere fun _ => rfl
      exact missing.bind fun bounds => closed bounds
    | some lower =>
      cases upper with
      | none => exact closed _
      | some upper => exact moves_fail _

theorem moves_repetitionBounds : Moves f id repetitionBounds repetitionBounds := by
  have single (kind : TokenKind) (bounds : Bounds) :
      Moves f id (accept kind *> pure bounds) (accept kind *> pure bounds) :=
    (moves_accept kind).bind fun _ => moves_pure bounds
  exact (single _ _).orElse ((single _ _).orElse ((single _ _).orElse (moves_bracedBounds respects)))

theorem moves_repetition (lazyMode : Bool) :
    Moves f (Prod.map id (Prod.map id f)) (repetition lazyMode) (repetition lazyMode) := by
  have bounds := moves_repetitionBounds respects
  refine moves_here.bind fun start => bounds.bind fun often =>
    (moves_quantifier lazyMode).bind fun preference => moves_previous.bind fun stop =>
      moves_here.bind fun secondStart => bounds.optional.bind fun again => ?_
  cases again with
  | none =>
    refine moves_pure_of_eq ?_
    rw [map_join respects]
    rfl
  | some again =>
    refine moves_previous.bind fun secondStop => moves_fail_of_eq ?_
    rw [map_join respects]
    rfl

/-! ### Character classes -/

theorem moves_unitOrRange : Moves f (List.map (ClassItem.mapSpans f)) unitOrRange unitOrRange := by
  refine moves_here.bind fun firstSpan => moves_classUnit.bind fun first =>
    (moves_accept _).optional.bind fun dash => ?_
  cases dash with
  | none => exact moves_pure_of_eq first.items_mapSpans.symm
  | some dash =>
    refine moves_here.bind fun lastSpan => (moves_classUnit.orFail fun _ => rfl).bind fun last =>
      (moves_endpoint first firstSpan).bind fun lower =>
        (moves_endpoint last lastSpan).bind fun upper => .ite (moves_fail_of_eq ?_) (moves_pure _)
    rw [map_join respects]
    rfl

theorem moves_namedItem (negative : Bool) :
    Moves f (ClassItem.mapSpans f) (namedItem negative) (namedItem negative) := by
  refine (moves_accept _).bind fun first => (moves_accept _).optional.bind fun colon => ?_
  cases colon with
  | none => exact moves_pure _
  | some colon =>
    refine (moves_expect _).bind fun second => moves_pure_of_eq ?_
    rw [ClassItem.mapSpans, ← map_join respects]
    rfl

theorem moves_negatedItem (bang : Lexeme) : Moves f (List.map (ClassItem.mapSpans f))
    (negatedItem bang) (negatedItem (bang.mapSpan f)) :=
  .orElse ((moves_unitOrRange respects).bind fun _ => moves_fail _) <|
    .orElse ((moves_namedItem respects true).bind fun _ => moves_pure _) (moves_failHere fun _ => rfl)

theorem moves_classItem : Moves f (List.map (ClassItem.mapSpans f)) classItem classItem := by
  refine (moves_accept _).optional.bind fun bang => ?_
  cases bang with
  | none =>
    exact (moves_unitOrRange respects).orElse
      ((moves_namedItem respects false).bind fun _ => moves_pure _)
  | some bang => exact moves_negatedItem respects bang

theorem moves_charClass (unicode : Bool) :
    Moves f (Pattern.mapSpans f f) (charClass unicode) (charClass unicode) := by
  refine (moves_accept _).bind fun opening => (moves_classItem respects).many.bind fun parts =>
    ((moves_accept _).orFail fun _ => rfl).bind fun closing => ?_
  simp only [Lexeme.mapSpan, map_join respects, ← List.map_flatten]
  unfold CharClass.ofItems?
  by_cases nonempty : parts.flatten ≠ []
  · have nonemptyMoved : parts.flatten.map (ClassItem.mapSpans f) ≠ [] := by simpa using nonempty
    simp only [dif_pos nonempty, dif_pos nonemptyMoved]
    exact moves_pure _
  · have emptyMoved : ¬parts.flatten.map (ClassItem.mapSpans f) ≠ [] := by simpa using nonempty
    simp only [dif_neg nonempty, dif_neg emptyMoved]
    exact moves_fail _

/-! ### Atoms -/

omit respects in
theorem moves_groupOpening : Moves f (Prod.map id f) groupOpening groupOpening := by
  refine .orElse ((moves_keyword _).bind fun _ => (moves_expect _).bind fun _ => moves_pure _) <|
    .orElse ?_ ((moves_accept _).bind fun _ => moves_pure _)
  refine (moves_accept _).bind fun colon => (moves_accept _).optional.bind fun name => ?_
  cases name with
  | none => exact (moves_expect _).bind fun _ => moves_pure _
  | some name =>
    exact (moves_groupName name).bind fun _ => (moves_expect _).bind fun _ => moves_pure _

theorem moves_group {expression : Parser Pattern}
    (moves : Moves f (Pattern.mapSpans f f) expression expression) :
    Moves f (Pattern.mapSpans f f) (group expression) (group expression) := by
  refine moves_groupOpening.bind fun opening => moves.bind fun body =>
    ((moves_accept _).orFail fun _ => rfl).bind fun closing => moves_pure_of_eq ?_
  rw [Pattern.mapSpans, ← map_join respects]
  rfl

theorem moves_reference : Moves f (Pattern.mapSpans f f) reference reference := by
  refine (moves_accept _).bind fun mark => moves_referenceTarget.bind fun target =>
    moves_previous.bind fun stop => moves_pure_of_eq ?_
  rw [Pattern.mapSpans, ← map_join respects]
  rfl

omit respects in
theorem moves_codePointClass (unicode : Bool) :
    Moves f (Pattern.mapSpans f f) (codePointClass unicode) (codePointClass unicode) :=
  moves_codePoint.bind fun _ => moves_pure _

theorem moves_numberRange : Moves f (Pattern.mapSpans f f) numberRange numberRange := by
  refine (moves_keyword _).bind fun word => (moves_expect _).bind fun first =>
    (moves_expect _).bind fun _ => (moves_expect _).bind fun last =>
      moves_radix.optional.bind fun base => moves_previous.bind fun stop => moves_pure_of_eq ?_
  rw [Pattern.mapSpans, ← map_join respects, Option.map_id]
  rfl

theorem moves_regex : Moves f (Pattern.mapSpans f f) regex regex := by
  refine (moves_keyword _).bind fun word => moves_expectLiteral.bind fun text => moves_pure_of_eq ?_
  rw [Pattern.mapSpans, ← map_join respects]
  rfl

theorem moves_atom {expression : Parser Pattern}
    (moves : Moves f (Pattern.mapSpans f f) expression expression) (unicode : Bool) :
    Moves f (Pattern.mapSpans f f) (atom unicode expression) (atom unicode expression) :=
  (moves_group respects moves).orElse <|
    .orElse (moves_literal.bind fun _ => moves_pure _) <|
    (moves_charClass respects unicode).orElse <|
    moves_boundary.orElse <|
    (moves_reference respects).orElse <|
    (moves_codePointClass unicode).orElse <|
    (moves_numberRange respects).orElse <|
    (moves_regex respects).orElse <|
    .orElse ((moves_accept _).bind fun _ => moves_pure _) <|
    .orElse ((moves_accept _).bind fun _ => moves_pure _) <|
    (moves_keyword _).bind fun _ => moves_pure _

/-! ### Test blocks -/

omit respects in
theorem moves_capture : Moves f (Capture.mapSpans f) capture capture :=
  moves_captureLabel.bind fun _ => moves_previous.bind fun _ => (moves_expect _).bind fun _ =>
    moves_expectLiteral.bind fun _ => moves_pure _

omit respects in
theorem moves_captures : Moves f (List.map (Capture.mapSpans f)) captures captures := by
  refine (moves_contextual _).optional.bind fun word => ?_
  cases word with
  | none => exact moves_pure _
  | some word =>
    exact (moves_expect _).bind fun _ => (moves_capture.sepEndBy (moves_accept _)).bind fun _ =>
      (moves_expect _).bind fun _ => moves_pure _

theorem moves_testMatch : Moves f (TestMatch.mapSpans f) testMatch testMatch := by
  refine moves_expectLiteral.bind fun text => moves_captures.bind fun listed =>
    moves_previous.bind fun stop => moves_pure_of_eq ?_
  rw [TestMatch.mapSpans, ← map_join respects]
  rfl

theorem moves_testMatches : Moves f (List.map (TestMatch.mapSpans f)) testMatches testMatches :=
  moves_nextText.bind fun _ =>
    .ite (moves_pure _) ((moves_testMatch respects).sepBy (moves_accept _))

omit respects in
theorem moves_haystack : Moves f (Literal.mapSpans f) haystack haystack :=
  (moves_contextual _).bind fun _ => moves_expectLiteral

theorem moves_matchCase : Moves f (TestCase.mapSpans f) matchCase matchCase := by
  refine (moves_contextual _).bind fun word => (moves_testMatches respects).bind fun expected =>
    moves_haystack.optional.bind fun within => (moves_expect _).bind fun stop => ?_
  cases within with
  | some text =>
    refine moves_pure_of_eq ?_
    rw [TestCase.mapSpans, ← map_join respects]
    rfl
  | none =>
    rcases expected with _ | ⟨first, _ | ⟨second, more⟩⟩
    · exact moves_failHere fun _ => rfl
    · exact moves_pure _
    · refine moves_fail_of_eq ?_
      have last_eq : ((second :: more).map (TestMatch.mapSpans f)).getLastD (first.mapSpans f) =
          ((second :: more).getLastD first).mapSpans f := by
        simp only [List.getLastD_eq_getLast?, List.getLast?_map, Option.getD_map]
      rw [last_eq]
      exact congrArg (Diagnostic.ofFault .matchesWithoutHaystack) (map_join respects _ _)

theorem moves_rejectCase : Moves f (TestCase.mapSpans f) rejectCase rejectCase := by
  refine (moves_contextual _).bind fun word => (moves_contextual _).optional.bind fun within =>
    moves_expectLiteral.bind fun text => (moves_expect _).bind fun stop => moves_pure_of_eq ?_
  rw [TestCase.mapSpans, ← map_join respects, Option.isSome_map]
  rfl

theorem moves_testBlock : Moves f (Prod.map (Directive.mapSpans f) f) testBlock testBlock := by
  have cases_moves := ((moves_matchCase respects).orElse (moves_rejectCase respects)).many
  refine (moves_keyword _).bind fun word => (moves_expect _).bind fun _ =>
    cases_moves.bind fun cases => (moves_expect _).bind fun closing => moves_pure_of_eq ?_
  rw [Prod.map, Directive.mapSpans, ← map_join respects]
  rfl

/-! ### Statements -/

theorem moves_toggle : Moves f (Prod.map (Directive.mapSpans f) f) toggle toggle := by
  have words : Moves f (Prod.map id f) toggleWord toggleWord :=
    .orElse ((moves_keyword _).bind fun _ => moves_pure _)
      ((moves_keyword _).bind fun _ => moves_pure _)
  refine words.bind fun word => (moves_setting.orFail fun _ => rfl).bind fun target =>
    (moves_expect _).bind fun stop => moves_pure_of_eq ?_
  rw [Prod.map, Directive.mapSpans, ← map_join respects]
  rfl

theorem moves_binding {alternation : Parser Pattern}
    (moves : Moves f (Pattern.mapSpans f f) alternation alternation) :
    Moves f (Prod.map (Statement.mapSpans f f) f) (binding alternation) (binding alternation) := by
  refine (moves_keyword _).bind fun word => (moves_expect _).bind fun name =>
    (moves_expect _).bind fun _ => moves.bind fun bound =>
      ((moves_accept _).orFail fun _ => rfl).bind fun stop => moves_pure_of_eq ?_
  rw [Prod.map, Statement.mapSpans, ← map_join respects]
  rfl

theorem moves_statement {alternation : Parser Pattern}
    (moves : Moves f (Pattern.mapSpans f f) alternation alternation) :
    Moves f (Prod.map (Statement.mapSpans f f) f) (statement alternation) (statement alternation) :=
  .orElse ((moves_toggle respects).bind fun _ => moves_pure _) <|
    (moves_binding respects moves).orElse ((moves_testBlock respects).bind fun _ => moves_pure _)

end Joined

end PatternSyntax.Grammar
