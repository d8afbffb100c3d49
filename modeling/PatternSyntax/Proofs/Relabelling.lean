import PatternSyntax.Parse
import PatternSyntax.Proofs.Choices
import PatternSyntax.Proofs.Skeleton

/-!
# Reading with other modes

The modes decide nothing about how lexemes are read. Reading with other modes
accepts, declines and fails at the same places, and what it accepts differs only
in the labels that the modes put on character classes and repetitions. Every
operator of the grammar therefore commutes with setting the modes of its operands
anew, and the recursion through parentheses, lookarounds and statements hands this
on from one level to the next.
-/

namespace PatternSyntax

/-! ## Changing what is accepted -/

namespace Parser

variable {α β : Type} (f : α → β)

theorem map_apply (parser : Parser α) (cursor : Cursor) :
    (f <$> parser) cursor = (parser cursor).map f := by
  have unfolded : f <$> parser = parser >>= fun value => pure (f value) := map_eq_pure_bind f parser
  rw [unfolded, bind_apply]
  cases parser cursor <;> rfl

theorem map_orElse (first second : Parser α) :
    f <$> (first <|> second) = (f <$> first <|> f <$> second) := by
  funext cursor
  simp only [map_apply, orElse_apply]
  cases first cursor <;> rfl

theorem map_fail (diagnostic : Diagnostic) :
    f <$> (fail diagnostic : Parser α) = fail diagnostic :=
  rfl

theorem map_failHere (diagnose : Span → Diagnostic) :
    f <$> (failHere diagnose : Parser α) = failHere diagnose :=
  rfl

theorem map_orFail (parser : Parser α) (diagnose : Span → Diagnostic) :
    f <$> parser.orFail diagnose = (f <$> parser).orFail diagnose :=
  map_orElse f parser (failHere diagnose)

theorem map_acceptMap (read : Lexeme → Option α) :
    f <$> acceptMap read = acceptMap fun lexeme => (read lexeme).map f := by
  funext cursor
  rw [map_apply]
  unfold acceptMap
  cases cursor.rest with
  | nil => rfl
  | cons lexeme rest =>
    dsimp only
    cases read lexeme <;> rfl

theorem optional_map (parser : Parser α) : optional (f <$> parser) = Option.map f <$> optional parser := by
  funext cursor
  simp only [map_apply, optional]
  cases parser cursor <;> rfl

theorem many_map (item : Parser α) : many (f <$> item) = List.map f <$> many item := by
  funext cursor
  induction cursor using many.induct item with
  | case1 cursor value after accepted shorter inductionHypothesis =>
    rw [map_apply, many, many, map_apply, accepted]
    simp only [Outcome.map, if_pos shorter, inductionHypothesis, map_apply]
    cases (many item) after <;> rfl
  | case2 cursor value after accepted stuck =>
    rw [map_apply, many, many, map_apply, accepted]
    simp only [Outcome.map, if_neg stuck]
    rfl
  | case3 cursor declined =>
    rw [map_apply, many, many, map_apply, declined]
    rfl
  | case4 cursor diagnostic failed =>
    rw [map_apply, many, many, map_apply, failed]
    rfl

end Parser

namespace Grammar

open PatternSyntax.Parser

variable (modes other : Modes)

/-! ## Atoms -/

theorem quantifier_ofMode (lazyMode otherMode : Bool) :
    quantifier lazyMode = Quantifier.ofMode lazyMode <$> quantifier otherMode := by
  have unsaid : (if otherMode then Quantifier.defaultLazy else .defaultGreedy).ofMode lazyMode =
      if lazyMode then .defaultLazy else .defaultGreedy := by
    cases otherMode <;> rfl
  simp only [quantifier, map_orElse, seqRight_eq_bind, map_bind, map_pure, unsaid]
  rfl

theorem repetition_ofMode (lazyMode otherMode : Bool) :
    repetition lazyMode = (fun (bounds, preference, span) =>
      (bounds, preference.ofMode lazyMode, span)) <$> repetition otherMode := by
  simp only [repetition, map_bind]
  rw [quantifier_ofMode lazyMode otherMode]
  refine bind_congr fun start => bind_congr fun bounds => ?_
  rw [bind_map_left]
  refine bind_congr fun preference => bind_congr fun stop => bind_congr fun secondStart =>
    bind_congr fun second => ?_
  cases second <;> rfl

theorem charClass_withModes (unicode : Bool) :
    charClass modes.unicode = Pattern.withModes modes <$> charClass unicode := by
  simp only [charClass, map_bind]
  refine bind_congr fun opening => bind_congr fun items => bind_congr fun closing => ?_
  unfold CharClass.ofItems?
  by_cases nonempty : items.flatten ≠ []
  · simp only [dif_pos nonempty, map_pure, Pattern.withModes, CharClass.withUnicode]
  · simp only [dif_neg nonempty, map_fail]

theorem codePointClass_withModes (unicode : Bool) :
    codePointClass modes.unicode = Pattern.withModes modes <$> codePointClass unicode := by
  simp only [codePointClass, map_bind, map_pure, Pattern.withModes]
  rfl

theorem group_withModes (expression : Parser Pattern) :
    group (Pattern.withModes modes <$> expression) = Pattern.withModes modes <$> group expression := by
  simp only [group, map_bind, bind_map_left, map_pure, Pattern.withModes]

theorem atom_withModes (expression : Parser Pattern) :
    atom modes.unicode (Pattern.withModes modes <$> expression) =
      Pattern.withModes modes <$> atom other.unicode expression := by
  have boundaries : Pattern.withModes modes <$> boundary = boundary := by
    simp only [boundary, map_acceptMap, Option.map_map, Function.comp_def, Pattern.withModes]
  simp only [atom, map_orElse, group_withModes, ← charClass_withModes, ← codePointClass_withModes,
    boundaries, reference, numberRange, regex, map_bind, map_pure, Pattern.withModes]

/-! ## Operators -/

section Operators

variable (operand : Parser Pattern)

theorem nextAlternative_withModes :
    nextAlternative (Pattern.withModes modes <$> operand) =
      Pattern.withModes modes <$> nextAlternative operand := by
  simp only [nextAlternative, alternativeAfter, map_bind, map_orElse, map_fail]

theorem nextOperand_withModes :
    nextOperand (Pattern.withModes modes <$> operand) =
      Pattern.withModes modes <$> nextOperand operand := by
  simp only [nextOperand, operandOf, seqRight_eq_bind, map_bind, map_orFail]

theorem firstOperand_withModes {α : Type} (after : α → Parser Pattern) (found : Option α) :
    firstOperand (fun operator => Pattern.withModes modes <$> after operator)
        (Pattern.withModes modes <$> operand) found =
      Pattern.withModes modes <$> firstOperand after operand found := by
  cases found <;> rfl

theorem alternation_withModes :
    alternation (Pattern.withModes modes <$> operand) =
      Pattern.withModes modes <$> alternation operand := by
  have first (bar : Option Lexeme) :
      firstOperand (alternativeAfter · (Pattern.withModes modes <$> operand))
          (Pattern.withModes modes <$> operand) bar =
        Pattern.withModes modes <$> firstOperand (alternativeAfter · operand) operand bar := by
    rw [← firstOperand_withModes]
    simp only [alternativeAfter, map_orElse, map_fail]
  simp only [alternation, alternatives_eq, map_orElse, map_bind, map_pure, first,
    nextAlternative_withModes, many_map, bind_map_left, Pattern.withModes_alternationOf,
    Pattern.allWithModes_eq_map]
  rfl

theorem intersection_withModes :
    intersection (Pattern.withModes modes <$> operand) =
      Pattern.withModes modes <$> intersection operand := by
  have first (ampersand : Option Lexeme) :
      firstOperand (fun _ => operandOf (Pattern.withModes modes <$> operand))
          (Pattern.withModes modes <$> operand) ampersand =
        Pattern.withModes modes <$> firstOperand (fun _ => operandOf operand) operand ampersand := by
    rw [← firstOperand_withModes]
    simp only [operandOf, map_orFail]
  simp only [intersection_eq, map_bind, map_pure, first, nextOperand_withModes, many_map,
    bind_map_left, Pattern.withModes_intersectionOf, Pattern.allWithModes_eq_map]

theorem sequence_withModes :
    sequence (Pattern.withModes modes <$> operand) =
      Pattern.withModes modes <$> sequence operand := by
  simp only [sequence_eq, map_bind, map_pure, many_map, bind_map_left,
    Pattern.withModes_sequenceOf, Pattern.allWithModes_eq_map]

theorem lookaround_withModes :
    lookaround (Pattern.withModes modes <$> operand) =
      Pattern.withModes modes <$> lookaround operand := by
  simp only [lookaround, map_bind, map_pure, bind_map_left, Pattern.withModes,
    Pattern.withModes_span]

theorem repeated_withModes (body : Pattern) :
    repeated modes.lazy (body.withModes modes) =
      Pattern.withModes modes <$> repeated other.lazy body := by
  simp only [repeated, map_bind]
  rw [repetition_ofMode modes.lazy other.lazy, optional_map, bind_map_left]
  refine bind_congr fun found => ?_
  cases found with
  | none => rfl
  | some found => simp only [Option.map_some, map_pure, Pattern.withModes, Pattern.withModes_span]

end Operators

/-! ## Expressions -/

/-- The statement and its place, with the given modes before the statement. -/
def statedWithModes (modes : Modes) : Statement × Span → Statement × Span
  | (content, span) => (content.withModes modes, span)

theorem statement_withModes (alternation : Parser Pattern) :
    statement (Pattern.withModes modes <$> alternation) =
      statedWithModes modes <$> statement alternation := by
  simp only [statement, binding, map_orElse, map_bind, map_pure, bind_map_left, statedWithModes,
    Statement.withModes]

/-- The pattern and the place of what its statements apply to, with the given modes
before the pattern. -/
def scopedWithModes (modes : Modes) : Pattern × Span → Pattern × Span
  | (pattern, span) => (pattern.withModes modes, span)

section Nested

variable {levels : Nat} (nested : ∀ fewer < levels, ∀ modes other,
  scope fewer modes = scopedWithModes modes <$> scope fewer other)

include nested

theorem expression_withModes_of_nested {within : Nat} (within_le : within ≤ levels) :
    expression within modes = Pattern.withModes modes <$> expression within other := by
  cases within with
  | zero =>
    simp only [expression, map_failHere]
  | succ fewer =>
    rw [expression, expression, nested fewer within_le modes other, bind_map_left, map_bind]
    rfl

theorem lookaroundOrAtom_withModes_of_nested {within : Nat} (within_le : within ≤ levels) :
    lookaroundOrAtom within modes = Pattern.withModes modes <$> lookaroundOrAtom within other := by
  rw [lookaroundOrAtom, expression_withModes_of_nested modes other nested within_le,
    lookaround_withModes, atom_withModes modes other, ← map_orElse, lookaroundOrAtom]

theorem negation_withModes_of_nested :
    negation levels modes = Pattern.withModes modes <$> negation levels other := by
  simp only [negation, map_bind]
  refine bind_congr fun start => bind_congr fun counted => ?_
  rw [lookaroundOrAtom_withModes_of_nested modes other nested (Nat.sub_le _ _)]
  split
  all_goals simp only [operandOf, ← map_orFail, bind_map_left, map_bind, map_pure,
    Pattern.withModes_negate]

theorem term_withModes_of_nested :
    term levels modes = Pattern.withModes modes <$> term levels other := by
  rw [term_eq, term_eq, map_bind, negation_withModes_of_nested modes other nested, bind_map_left]
  exact bind_congr fun body => repeated_withModes modes other body

theorem bare_withModes_of_nested :
    bare levels modes = Pattern.withModes modes <$> bare levels other := by
  simp only [bare, term_withModes_of_nested modes other nested, sequence_withModes,
    intersection_withModes, alternation_withModes]

end Nested

theorem scope_withModes (levels : Nat) (modes other : Modes) :
    scope levels modes = scopedWithModes modes <$> scope levels other := by
  induction levels using Nat.strongRecOn generalizing modes other with
  | ind levels nested =>
    have stated (content : Statement × Span) :
        underStatement levels modes (statedWithModes modes content) =
          scopedWithModes modes <$> underStatement levels other content := by
      cases levels with
      | zero => rfl
      | succ fewer =>
        simp only [underStatement, statedWithModes, Statement.withModes_modes, map_bind, map_pure,
          nested fewer (Nat.lt_succ_self fewer) (content.1.modes modes) (content.1.modes other),
          bind_map_left, scopedWithModes, Statement.withModes_scope]
    simp only [scope_eq, bare_withModes_of_nested modes other nested, statement_withModes,
      bind_map_left, stated, map_orElse, map_bind, map_pure, scopedWithModes, Pattern.withModes_span]

theorem expression_withModes (levels : Nat) (modes other : Modes) :
    expression levels modes = Pattern.withModes modes <$> expression levels other :=
  expression_withModes_of_nested modes other (fun fewer _ => scope_withModes fewer) (Nat.le_refl _)

end Grammar

/-! ## Sources -/

theorem readAll_withModes (modes other : Modes) (maxDepth : Nat) (cursor : Cursor) :
    readAll ⟨modes, maxDepth⟩ cursor =
      (readAll ⟨other, maxDepth⟩ cursor).map (Pattern.withModes modes) := by
  rw [readAll, readAll, Grammar.expression_withModes maxDepth modes other, Parser.map_apply]
  cases Grammar.expression maxDepth other cursor with
  | fail diagnostic => rfl
  | decline => rfl
  | accept pattern after =>
    simp only [Outcome.map]
    split <;> rfl

end PatternSyntax
