import Mathlib
import PatternSyntax.Parse
import PatternSyntax.Proofs.Places
import PatternSyntax.Proofs.Prefixes.Productions
import PatternSyntax.Proofs.Sources

/-!
# Prefixes of sources

What is wrong with the tokens of a prefix is wrong with all continuations of it, except
where the fault is that the tokens end.
-/

namespace PatternSyntax

namespace Grammar

open PatternSyntax.Parser

variable {extra : List Lexeme}

/-! ## Operators -/

section Operators

variable {operand : Parser Pattern} (steady : Steady extra .running operand)

include steady

/-- After a bar something has to follow. If the lexemes end instead, the bar is the last
of them. -/
theorem steadyAt_alternativeAfter {bar : Lexeme} {cursor : Cursor}
    (read : cursor.previous = bar.span) :
    SteadyAt extra .owed (alternativeAfter bar operand) cursor := by
  have head := steady cursor rfl
  by_cases ended : cursor.rest = [] ∧ operand cursor = .decline
  · obtain ⟨atEnd, declined⟩ := ended
    have failed : alternativeAfter bar operand cursor = .fail (.ofFault .loneBar bar.span) := by
      rw [alternativeAfter, orElse_apply, declined, fail]
    refine fun _ => ⟨?_, by rintro ⟨⟩, fun _ _ => ?_, by rintro ⟨⟩, by rintro ⟨⟩⟩
    all_goals rw [failed]
    · refine .failAtEnd (.inr ⟨rfl, ?_⟩)
      rw [atEnd, lastSpan_nil, read]
      rfl
    · exact @fail_ne_decline _ cursor _
  · have decided : SteadyAt extra ⟨true, false, true, true, true⟩ operand cursor :=
      fun _ => ⟨head.persists, by rintro ⟨⟩, fun _ atEnd declined => ended ⟨atEnd, declined⟩,
        head.starves, head.hungry⟩
    exact .weaken (by decide) <| decided.either (fun value after _ => steady_pure value after)
      (steady_fail _ cursor)

theorem steady_nextAlternative : Steady extra .running (nextAlternative operand) := by
  intro cursor
  refine .weaken (by decide) <| (steady_accept .pipe cursor).either
    (fun bar after found => steadyAt_alternativeAfter steady ?_) (steady_decline cursor)
  exact (accept_eq_accept_iff.mp found).2.previous

theorem steady_nextOperand : Steady extra .running (nextOperand operand) :=
  .weaken (by decide) <| (steady_accept _).bind fun _ => steady.orFail fun _ => rfl

variable (progresses : operand.Progresses)

include progresses

theorem steady_sequence : Steady extra .running (sequence operand) := by
  rw [sequence_eq]
  exact .weaken (by decide) <| steady.bind fun _ => (steady.many progresses).bind fun _ => steady_pure _

theorem steady_intersection : Steady extra .running (intersection operand) := by
  rw [intersection_eq_choice]
  have next := steady_nextOperand steady
  exact .weaken (by decide) <| .here_bind fun _ => (next.orElse steady).bind fun _ =>
    (next.many (nextOperand_progresses progresses)).bind fun _ =>
      steady_previous.bind fun _ => steady_pure _

theorem steady_alternation : Steady extra .trailing (alternation operand) := by
  rw [alternation, alternatives_eq_choice]
  have next := steady_nextAlternative steady
  exact .weaken (by decide) <| .orElse (.here_bind fun _ => (next.orElse steady).bind fun _ =>
    (next.many (nextAlternative_progresses progresses)).bind fun _ => steady_pure _) (steady_pure _)

end Operators

/-! ## Terms -/

section Enclosed

variable {expression : Parser Pattern} (steady : Steady extra .trailing expression)

include steady

theorem steady_lookaround : Steady extra .running (lookaround expression) :=
  .weaken (by decide) <| (steady_acceptMap _).bind fun _ => steady.bind fun _ => steady_pure _

theorem steady_group : Steady extra .closed (group expression) :=
  .weaken (by decide) <| steady_groupOpening.bind fun _ => steady.bind fun _ =>
    ((steady_accept _).orFail fun _ => rfl).bind fun _ => steady_pure _

theorem steady_atom (unicode : Bool) : Steady extra .running (atom unicode expression) :=
  .weaken (by decide) <| (steady_group steady).orElse <|
    .orElse (steady_literal.bind fun _ => steady_pure _) <|
    (steady_charClass unicode).orElse <|
    steady_boundary.orElse <|
    steady_reference.orElse <|
    (steady_codePointClass unicode).orElse <|
    steady_numberRange.orElse <|
    steady_regex.orElse <|
    .orElse ((steady_accept _).bind fun _ => steady_pure _) <|
    .orElse ((steady_accept _).bind fun _ => steady_pure _) <|
    (steady_keyword _).bind fun _ => steady_pure _

end Enclosed

theorem steady_bangs (levels : Nat) (start : Span) : Steady extra .trailing (bangs levels start) := by
  induction levels generalizing start with
  | zero =>
    exact .weaken (by decide) <| .orElse ((steady_accept _).bind fun _ => steady_fail _) (steady_pure _)
  | succ levels inductionHypothesis =>
    exact .weaken (by decide) <| .orElse ((steady_accept _).bind fun _ => (inductionHypothesis _).bind fun _ =>
      steady_pure _) (steady_pure _)

/-! ## Nested levels -/

section Nested

variable {levels : Nat}
  (nested : ∀ fewer < levels, ∀ modes, Steady extra .trailing (scope fewer modes)) (modes : Modes)

include nested

theorem steady_expression_of_nested {within : Nat} (within_le : within ≤ levels) :
    Steady extra .trailing (expression within modes) := by
  cases within with
  | zero =>
    rw [expression]
    exact (steady_failHere fun _ => rfl).weaken (by decide)
  | succ fewer =>
    rw [expression]
    exact .weaken (by decide) <| (nested fewer within_le modes).bind fun _ => steady_pure _

theorem steady_lookaroundOrAtom_of_nested {within : Nat} (within_le : within ≤ levels) :
    Steady extra .running (lookaroundOrAtom within modes) :=
  have expressions := steady_expression_of_nested nested modes within_le
  .weaken (by decide) <| (steady_lookaround expressions).orElse (steady_atom expressions modes.unicode)

theorem steady_term_of_nested : Steady extra .running (term levels modes) := by
  have operands {within : Nat} (within_le : within ≤ levels) :=
    steady_lookaroundOrAtom_of_nested nested modes within_le
  have negated (start : Span) (bang : Lexeme) :
      Steady extra .owed (afterBang levels modes start bang) := by
    cases levels with
    | zero => exact (steady_fail _).weaken (by decide)
    | succ levels =>
      exact .weaken (by decide) <| (steady_bangs levels _).bind fun counted =>
        ((operands (Nat.le_succ_of_le (Nat.sub_le levels counted.1))).orFail fun _ => rfl).bind fun _ =>
          steady_pure _
  rw [term_eq, negation_eq_either]
  exact .weaken (by decide) <| .bind (.here_bind fun start => (steady_accept _).either (negated start)
    (operands (Nat.le_refl levels))) (steady_repeated modes.lazy)

theorem steady_bare_of_nested : Steady extra .trailing (bare levels modes) :=
  steady_alternation (steady_intersection (steady_sequence (steady_term_of_nested nested modes)
    (term_progresses levels modes)) (sequence_progresses levels modes))
    (intersection_progresses levels modes)

end Nested

theorem steady_scope (levels : Nat) (modes : Modes) : Steady extra .trailing (scope levels modes) := by
  induction levels using Nat.strongRecOn generalizing modes with
  | ind levels nested =>
    have bares := steady_bare_of_nested nested modes
    have under (stated : Statement × Span) :
        Steady extra .owed (underStatement levels modes stated) := by
      cases levels with
      | zero => exact (steady_fail _).weaken (by decide)
      | succ fewer =>
        exact .weaken (by decide) <| (nested fewer (Nat.lt_succ_self fewer) _).bind fun _ => steady_pure _
    rw [scope_eq]
    exact .weaken (by decide) <| .orElse ((steady_statement bares).bind under) (bares.bind fun _ => steady_pure _)

/-- Whatever comes of reading an expression persists, unless it has to do with the end. -/
theorem steady_expression (levels : Nat) (modes : Modes) :
    Steady extra .trailing (expression levels modes) :=
  steady_expression_of_nested (fun fewer _ => steady_scope fewer) modes (Nat.le_refl levels)

end Grammar

/-! ## Sources -/

/-- With more lexemes the reading fails as before, unless the fault is that the lexemes
end. Only the rejection of a last unit may give way to another fault. -/
theorem readAll_extend {options : Options} {cursor : Cursor} {diagnostic : Diagnostic}
    (extra : List Lexeme) (failed : readAll options cursor = .error diagnostic)
    (inside : diagnostic.span ≠ cursor.finish)
    (notLast : ∀ last ∈ cursor.rest.getLast?,
      ¬(diagnostic.fault = .loneBar ∧ diagnostic.span = last.span)) :
    readAll options (cursor.extend extra) = .error diagnostic ∨
      cursor.RejectsLast diagnostic ∧
        ∃ other, readAll options (cursor.extend extra) = .error other := by
  have steady := @Grammar.steady_expression extra options.maxDepth options.modes cursor rfl
  have persists := steady.persists
  have starves := steady.starves rfl
  have committed := Grammar.commits_expression options.maxDepth options.modes cursor
  unfold readAll at failed ⊢
  generalize Grammar.expression options.maxDepth options.modes cursor = outcome at *
  generalize Grammar.expression options.maxDepth options.modes (cursor.extend extra) = extended at *
  cases persists with
  | @accept pattern lexemes after reads =>
    dsimp only at failed ⊢
    split at failed
    · cases failed
    · rename_i more
      cases failed
      have inside : after.rest ≠ [] := by simpa using more
      refine .inl ?_
      rw [Cursor.extend_span inside, if_neg (by simp [Cursor.extend, inside])]
  | acceptAtEnd reads atEnd =>
    dsimp only at failed
    rw [atEnd] at failed
    cases failed
  | decline => exact absurd rfl committed
  | declineAtEnd atEnd => exact absurd rfl committed
  | fail => exact .inl failed
  | failAtEnd ends =>
    cases failed
    rcases ends with atEnd | ⟨isLoneBar, isLast⟩
    · exact absurd atEnd inside
    · by_cases none : cursor.rest = []
      · cases starves none with
        | fail span_eq => exact absurd span_eq inside
      · rw [lastSpan_eq_getLast none] at isLast
        exact absurd ⟨isLoneBar, isLast⟩ (notLast _ (List.getLast?_eq_some_getLast none))
  | reject rejects =>
    cases failed
    exact .inr ⟨rejects, _, rfl⟩

section Sources

variable {source : String} {options : Options} {tokens more : List Token} {diagnostic : Diagnostic}

theorem ofTokens_append : Cursor.ofTokens source (tokens ++ more) =
    (Cursor.ofTokens source tokens).extend (more.map fun token => token.lexeme source) := by
  simp only [Cursor.ofTokens, Cursor.extend, List.map_append]

/-- Tokens without errors are read, whatever comes of it. -/
theorem parseTokens_of_proper (proper : ∀ token ∈ tokens, token.kind.isError = false) :
    parseTokens source tokens options =
      (readAll options (.ofTokens source tokens)).mapError fun diagnostic => [diagnostic] := by
  rw [parseTokens, filterMap_ofToken?_eq_nil_iff.mpr proper]

theorem parseTokens_eq_error_iff (proper : ∀ token ∈ tokens, token.kind.isError = false) :
    parseTokens source tokens options = .error [diagnostic] ↔
      readAll options (.ofTokens source tokens) = .error diagnostic := by
  rw [parseTokens_of_proper proper]
  cases readAll options (.ofTokens source tokens) with
  | ok pattern => constructor <;> rintro ⟨⟩
  | error found => constructor <;> rintro ⟨⟩ <;> rfl

/-- The fault is an exclamation mark before the last of the tokens, a unit of a character
class, and it shows only with this last token. -/
def RejectsLastUnit (source : String) (options : Options) (tokens : List Token)
    (diagnostic : Diagnostic) : Prop :=
  diagnostic.fault = .negatedCharacters ∧ ∃ front bang unit, tokens = front ++ [bang, unit] ∧
    bang.kind = .bang ∧ unit.kind ∈ unitKinds ∧ diagnostic.span = bang.span ∧
      parseTokens source (front ++ [bang]) options ≠ .error [diagnostic]

theorem Cursor.RejectsLast.exists_tokens
    (rejects : (Cursor.ofTokens source tokens).RejectsLast diagnostic) :
    diagnostic.fault = .negatedCharacters ∧ ∃ front bang unit, tokens = front ++ [bang, unit] ∧
      bang.kind = .bang ∧ unit.kind ∈ unitKinds ∧ diagnostic.span = bang.span := by
  obtain ⟨fault, front, bang, unit, rest, isBang, isUnit, span⟩ := rejects
  obtain ⟨before, pair, rfl, rfl, isPair⟩ := List.map_eq_append_iff.mp rest
  obtain ⟨first, single, rfl, rfl, isSingle⟩ := List.map_eq_cons_iff.mp isPair
  obtain ⟨second, rfl, rfl⟩ := List.map_eq_singleton_iff.mp isSingle
  exact ⟨fault, before, first, second, rfl, isBang, isUnit, span⟩

/-- What persists, with the unit that is rejected last told apart by its place alone. -/
theorem failure_persists_or_rejects (proper : ∀ token ∈ tokens ++ more, token.kind.isError = false)
    (failed : parseTokens source tokens options = .error [diagnostic])
    (inside : diagnostic.span ≠
      .ofOffsets (Text.utf8Size source.toList) (Text.utf8Size source.toList))
    (notLast : ∀ last ∈ tokens.getLast?,
      ¬(diagnostic.fault = .loneBar ∧ diagnostic.span = last.span)) :
    parseTokens source (tokens ++ more) options = .error [diagnostic] ∨
      (Cursor.ofTokens source tokens).RejectsLast diagnostic ∧
        ∃ other, parseTokens source (tokens ++ more) options = .error [other] := by
  have properPrefix : ∀ token ∈ tokens, token.kind.isError = false :=
    fun token member => proper token (List.mem_append_left _ member)
  have notLastLexeme : ∀ last ∈ (Cursor.ofTokens source tokens).rest.getLast?,
      ¬(diagnostic.fault = .loneBar ∧ diagnostic.span = last.span) := by
    intro last member
    rw [Cursor.ofTokens, List.getLast?_map, Option.mem_def, Option.map_eq_some_iff] at member
    obtain ⟨token, member, rfl⟩ := member
    exact notLast token member
  rw [parseTokens_eq_error_iff properPrefix] at failed
  simp only [parseTokens_eq_error_iff proper, ofTokens_append]
  exact readAll_extend _ failed inside notLastLexeme

/-- A reading that fails before the tokens end fails with all continuations of them. The
diagnostic is the same one, unless a unit of a character class is rejected that is the last
of the tokens: with more tokens it may turn out to begin a range. -/
theorem failure_persists (proper : ∀ token ∈ tokens ++ more, token.kind.isError = false)
    (failed : parseTokens source tokens options = .error [diagnostic])
    (inside : diagnostic.span ≠
      .ofOffsets (Text.utf8Size source.toList) (Text.utf8Size source.toList))
    (notLast : ∀ last ∈ tokens.getLast?,
      ¬(diagnostic.fault = .loneBar ∧ diagnostic.span = last.span)) :
    (∃ other, parseTokens source (tokens ++ more) options = .error [other]) ∧
      (¬RejectsLastUnit source options tokens diagnostic →
        parseTokens source (tokens ++ more) options = .error [diagnostic]) := by
  rcases failure_persists_or_rejects proper failed inside notLast with same | ⟨rejects, other, fails⟩
  · exact ⟨⟨diagnostic, same⟩, fun _ => same⟩
  · refine ⟨⟨other, fails⟩, fun allowed => ?_⟩
    obtain ⟨fault, front, bang, unit, rfl, isBang, isUnit, span⟩ := rejects.exists_tokens
    have early : parseTokens source (front ++ [bang]) options = .error [diagnostic] :=
      Classical.byContradiction fun late =>
        allowed ⟨fault, front, bang, unit, rfl, isBang, isUnit, span, late⟩
    have regrouped : front ++ [bang, unit] ++ more = (front ++ [bang]) ++ (unit :: more) := by
      simp only [List.append_assoc, List.cons_append, List.nil_append]
    -- A failure that shows before the unit does not reject the unit.
    rw [regrouped] at proper ⊢
    rcases failure_persists_or_rejects proper early inside
      (fun _ _ isLoneBar => by rw [fault] at isLoneBar; cases isLoneBar.1) with same | ⟨again, -⟩
    · exact same
    · obtain ⟨-, _, _, last, tokens_eq, -, isLastUnit, -⟩ := again.exists_tokens
      have last_eq := congrArg List.getLast? tokens_eq
      simp only [List.getLast?_append, List.getLast?_singleton, List.getLast?_cons_cons,
        Option.some_or, Option.some.injEq] at last_eq
      rw [← last_eq, isBang] at isLastUnit
      simp [unitKinds] at isLastUnit

/-- A closing parenthesis that belongs to nothing is at fault whatever follows it. -/
theorem leftover_persists :
    parseTokens "a)b" [⟨.identifier, ⟨0, 1⟩⟩, ⟨.closeParen, ⟨1, 2⟩⟩, ⟨.identifier, ⟨2, 3⟩⟩] {} =
      .error [.ofFault .leftover ⟨1, 2⟩] := by
  have failed : parseTokens "a)b" [⟨.identifier, ⟨0, 1⟩⟩, ⟨.closeParen, ⟨1, 2⟩⟩] {} =
      .error [.ofFault .leftover ⟨1, 2⟩] := by cbv
  exact (@failure_persists _ _ _ [⟨.identifier, ⟨2, 3⟩⟩] _ (by decide) failed (by decide)
    (by decide)).2 fun rejects => by cases rejects.1

end Sources

end PatternSyntax
