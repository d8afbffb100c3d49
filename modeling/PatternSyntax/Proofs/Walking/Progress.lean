import Mathlib
import PatternSyntax.Proofs.Walking.Expressions

/-!
# Progress

A production that finds nothing leaves the walker as it was, and one that finds
something goes on. Some productions read a first lexeme before they know whether more
follows; what they cannot finish they have to end with a diagnostic, since the walker
could not be put back.

All loops and the recursion of expressions come to an end for this reason, and reading
in place gives what the grammar gives.
-/

namespace PatternSyntax.Walk

variable {α : Type}

/-- The productions that may find nothing, with their parsers. -/
inductive Production : {α : Type} → Walk (Option α) → (Nat → Modes → Parser α) → Prop
  | intersection : Production (intersection expression) fun levels modes =>
      Grammar.intersection (Grammar.sequence (Grammar.term levels modes))
  | sequence : Production (sequence expression) fun levels modes =>
      Grammar.sequence (Grammar.term levels modes)
  | term : Production (term expression) Grammar.term
  | lookaround : Production (lookaround expression) fun levels modes =>
      Grammar.lookaround (Grammar.expression levels modes)
  | repetition : Production repetition fun _ modes => Grammar.repetition modes.lazy
  | atom : Production (atom expression) fun levels modes =>
      Grammar.atom modes.unicode (Grammar.expression levels modes)
  | group : Production (group expression) fun levels modes =>
      Grammar.group (Grammar.expression levels modes)
  | quoted : Production quoted fun _ _ => .literal <$> Grammar.literal
  | charClass : Production charClass fun _ modes => Grammar.charClass modes.unicode
  | boundary : Production boundary fun _ _ => Grammar.boundary
  | reference : Production reference fun _ _ => Grammar.reference
  | codePointClass : Production codePointClass fun _ modes => Grammar.codePointClass modes.unicode
  | numberRange : Production numberRange fun _ _ => Grammar.numberRange
  | regex : Production regex fun _ _ => Grammar.regex
  | use : Production use fun _ _ => do
      let name ← Parser.accept .identifier
      return Pattern.use name.text name.span
  | dot : Production dot fun _ _ => do
      let dot ← Parser.accept .dot
      return Pattern.dot dot.span
  | recursion : Production recursion fun _ _ => do
      let word ← Parser.keyword "recursion"
      return Pattern.recursion word.span
  | statement : Production (statement expression) fun levels modes =>
      Grammar.statement (Grammar.bare levels modes)
  | toggle : Production toggle fun _ _ => Grammar.toggle
  | binding : Production (binding expression) fun levels modes =>
      Grammar.binding (Grammar.bare levels modes)
  | testBlock : Production testBlock fun _ _ => Grammar.testBlock
  | testCase : Production testCase fun _ _ => Grammar.testCase
  | capture : Production capture fun _ _ => Grammar.capture
  | unitOrRange : Production unitOrRange fun _ _ => Grammar.unitOrRange
  | namedItem (negative : Bool) :
      Production (namedItem negative) fun _ _ => Grammar.namedItem negative

theorem Production.tries {walk : Walk (Option α)} {parser : Nat → Modes → Parser α}
    (production : Production walk parser) (rounds levels : Nat) (modes : Modes) :
    Tries rounds (rounds + 1) levels modes walk (parser levels modes) := by
  have nested := nested_expression rounds
  cases production with
  | intersection => exact tries_intersection nested
  | sequence => exact tries_sequence nested
  | term => exact tries_term nested
  | lookaround => exact tries_lookaround nested
  | repetition => exact tries_repetition
  | atom => exact tries_atom nested
  | group => exact tries_group nested
  | quoted => exact tries_quoted
  | charClass => exact tries_charClass
  | boundary => exact tries_boundary
  | reference => exact tries_reference
  | codePointClass => exact tries_codePointClass
  | numberRange => exact tries_numberRange
  | regex => exact tries_regex
  | use => exact tries_use
  | dot => exact tries_dot
  | recursion => exact tries_recursion
  | statement => exact tries_statement nested
  | toggle => exact tries_toggle
  | binding => exact tries_binding nested
  | testBlock => exact tries_testBlock
  | testCase => exact tries_testCase
  | capture => exact tries_capture
  | unitOrRange => exact tries_unitOrRange
  | namedItem negative => exact tries_namedItem negative

/-- With more rounds than there are lexemes left, all comparisons can be made. -/
theorem stands_of_enough {rounds : Nat} {before : Walker} (enough : before.remaining < rounds) :
    Stands rounds (rounds + 1) before.levels before.modes before :=
  ⟨enough, Nat.lt_succ_of_lt enough, rfl, rfl⟩

/-- From every walker, and as soon as there are more rounds than lexemes left, the walk finds
nothing and leaves the walker as it was, or it finds something and does no more to the walker
than to go on, by at least one lexeme and not beyond the last one, or it ends the reading. In
each case it does what the parser does. -/
def StaysOrAdvances (walk : Walk (Option α)) (parser : Nat → Modes → Parser α) : Prop :=
  ∀ (before : Walker) (rounds : Nat), before.remaining < rounds →
    (parser before.levels before.modes before.cursor = .decline ∧
      walk.outcome rounds before = some (.ok (none, before))) ∨
    (∃ value count, 0 < count ∧ before.position + count ≤ before.lexemes.length ∧
      parser before.levels before.modes before.cursor =
        .accept value (before.forward count).cursor ∧
      walk.outcome rounds before = some (.ok (some value, before.forward count))) ∨
    ∃ diagnostic, parser before.levels before.modes before.cursor = .fail diagnostic ∧
      walk.outcome rounds before = some (.error diagnostic)

theorem Production.staysOrAdvances {walk : Walk (Option α)} {parser : Nat → Modes → Parser α}
    (production : Production walk parser) : StaysOrAdvances walk parser := by
  intro before rounds enough
  have moves := production.tries rounds _ _ before (stands_of_enough enough)
  generalize parser before.levels before.modes before.cursor = result at moves ⊢
  generalize walk.outcome rounds before = answer at moves ⊢
  cases moves with
  | decline => exact .inl ⟨rfl, rfl⟩
  | fail diagnostic => exact .inr (.inr ⟨diagnostic, rfl, rfl⟩)
  | @accept value lexemes after reads nonempty =>
    rw [← Walker.cursor_forward reads]
    exact .inr (.inl ⟨value, lexemes.length, List.length_pos_iff.mpr nonempty,
      Walker.position_add_length_le reads nonempty, rfl, rfl⟩)

section

variable {walk : Walk (Option α)} {parser : Nat → Modes → Parser α} {before : Walker}
  {rounds : Nat}

theorem StaysOrAdvances.of_decline (stays : StaysOrAdvances walk parser)
    (enough : before.remaining < rounds)
    (declined : parser before.levels before.modes before.cursor = .decline) :
    walk.outcome rounds before = some (.ok (none, before)) := by
  obtain ⟨-, walked⟩ | ⟨_, _, -, -, accepted, -⟩ | ⟨_, failed, -⟩ := stays before rounds enough
  · exact walked
  · cases declined.symm.trans accepted
  · cases declined.symm.trans failed

theorem StaysOrAdvances.of_fail {diagnostic : Diagnostic} (stays : StaysOrAdvances walk parser)
    (enough : before.remaining < rounds)
    (failed : parser before.levels before.modes before.cursor = .fail diagnostic) :
    walk.outcome rounds before = some (.error diagnostic) := by
  obtain ⟨declined, -⟩ | ⟨_, _, -, -, accepted, -⟩ | ⟨_, same, walked⟩ := stays before rounds enough
  · cases failed.symm.trans declined
  · cases failed.symm.trans accepted
  · cases failed.symm.trans same
    exact walked

theorem StaysOrAdvances.of_accept {value : α} {count : Nat} (stays : StaysOrAdvances walk parser)
    (enough : before.remaining < rounds) (room : before.position + count ≤ before.lexemes.length)
    (accepted : parser before.levels before.modes before.cursor =
      .accept value (before.forward count).cursor) :
    walk.outcome rounds before = some (.ok (some value, before.forward count)) := by
  obtain ⟨declined, -⟩ | ⟨_, length, -, within, same, walked⟩ | ⟨_, failed, -⟩ :=
    stays before rounds enough
  · cases accepted.symm.trans declined
  · obtain ⟨rfl, cursor_eq⟩ := Outcome.accept.inj (accepted.symm.trans same)
    have left_eq := congrArg (fun cursor : Cursor => cursor.rest.length) cursor_eq
    simp only [Walker.cursor, Walker.forward, List.length_drop] at left_eq
    obtain rfl : count = length := by omega
    exact walked
  · cases accepted.symm.trans failed

end

/-! ## Termination -/

/-- From every walker the walk comes to an end, in as many rounds as there are lexemes left
and one more. -/
def Ends (walk : Walk α) : Prop :=
  ∀ (before : Walker) (rounds : Nat), before.remaining < rounds →
    (walk.outcome rounds before).isSome

/-- The loops of the grammar, and its recursion. -/
inductive Loop : {α : Type} → Walk α → Prop
  | classItems : Loop (many classItem)
  | captures : Loop (listed capture (accept .comma))
  | nextMatches : Loop (many nextMatch)
  | testCases : Loop (many testCase)
  | bangs (notSpan : Span) : Loop (bangs notSpan)
  | repeated (body : Pattern) : Loop (repeated body)
  | terms : Loop (many (term expression))
  | operands : Loop (many (nextOperand expression))
  | alternatives : Loop (many (nextAlternative expression))
  | statements : Loop (statements expression)
  | alternation : Loop (alternation expression)
  | scope : Loop (scope expression)
  | expression : Loop expression

theorem Agrees.isSome {before : Walker} {result : Outcome α}
    {answer : Option (Except Diagnostic (α × Walker))} (agrees : Agrees before result answer) :
    answer.isSome := by
  cases agrees <;> rfl

theorem EntersMarks.isSome {before : Walker} {result : Outcome (Nat × Span)}
    {answer : Option (Except Diagnostic ((Nat × Span) × Walker))}
    (enters : EntersMarks before result answer) : answer.isSome := by
  cases enters <;> rfl

theorem EntersScope.isSome {before : Walker} {result : Outcome (Pattern × Span)}
    {answer : Option (Except Diagnostic ((List (Statement × Span) × Pattern) × Walker))}
    (enters : EntersScope before result answer) : answer.isSome := by
  cases enters <;> rfl

theorem ends_of_follows {walk : Walk α} {parser : Nat → Modes → Parser α}
    (follows : ∀ rounds levels modes,
      Follows rounds (rounds + 1) levels modes walk (parser levels modes)) : Ends walk :=
  fun before rounds enough => (follows rounds _ _ before (stands_of_enough enough)).isSome

theorem isSome_statedBody {before : Walker} {rounds : Nat} (enough : before.remaining < rounds) :
    ((statedBodyWithin expression rounds).outcome rounds before).isSome :=
  (entersScope_statedBodyWithin (nested_expression rounds) before (stands_of_enough enough)
    enough).isSome

/-- What goes on comes to an end only if its first part does. -/
theorem isSome_of_bind {β : Type} {first : Walk α} {next : α → Walk β} {before : Walker}
    {rounds : Nat} (ends : ((first >>= next).outcome rounds before).isSome) :
    (first.outcome rounds before).isSome := by
  change (Option.bind (first.outcome rounds before) _ : Option _).isSome at ends
  cases walked : first.outcome rounds before with
  | some answer => rfl
  | none =>
    rw [walked] at ends
    cases ends

theorem ends_statements : Ends (statements expression) :=
  fun _ _ enough => isSome_of_bind (isSome_statedBody enough)

theorem ends_scope : Ends (scope expression) := by
  intro before rounds enough
  obtain ⟨_ | ⟨⟨stated, body⟩, after⟩, ended⟩ :=
    Option.isSome_iff_exists.mp (isSome_statedBody enough)
  · rw [scope_eq_statedBodyWithin, outcome_allowance_bind, outcome_bind_of_error ended]
    rfl
  · rw [scope_eq_statedBodyWithin, outcome_allowance_bind, outcome_bind_of_ok ended]
    rfl

theorem Loop.ends {walk : Walk α} (loop : Loop walk) : Ends walk := by
  cases loop with
  | classItems =>
    exact ends_of_follows fun _ _ _ => follows_many Grammar.classItem_progresses tries_classItem
  | captures =>
    exact ends_of_follows fun _ _ _ =>
      follows_listed Grammar.separatedCapture_progresses tries_capture (tries_accept .comma)
  | nextMatches =>
    exact ends_of_follows fun _ _ _ => follows_many Grammar.nextMatch_progresses tries_nextMatch
  | testCases =>
    exact ends_of_follows fun _ _ _ => follows_many Grammar.testCase_progresses tries_testCase
  | bangs notSpan => exact fun _ _ enough => (entersMarks_bangs notSpan enough).isSome
  | repeated body => exact ends_of_follows fun _ _ _ => follows_repeated body
  | terms =>
    exact ends_of_follows fun rounds levels modes =>
      follows_many (Grammar.term_progresses levels modes) (tries_term (nested_expression rounds))
  | operands =>
    exact ends_of_follows fun rounds _ _ => follows_moreOperands (nested_expression rounds)
  | alternatives =>
    exact ends_of_follows fun rounds _ _ => follows_moreAlternatives (nested_expression rounds)
  | statements => exact ends_statements
  | alternation =>
    exact ends_of_follows fun rounds _ _ => follows_alternation (nested_expression rounds)
  | scope => exact ends_scope
  | expression =>
    exact fun before rounds enough =>
      (nested_expression rounds _ _ before ⟨enough, enough, rfl, rfl⟩).isSome

/-! ## Whole sources -/

theorem outcome_whole {rounds : Nat} {tokens : List Token} (enough : tokens.length < rounds)
    (source : String) (options : Options) :
    ((whole.outcome rounds (.ofTokens source tokens options)).map fun answer =>
      answer.map Prod.fst) = some (readAll options (.ofTokens source tokens)) := by
  have room : (Walker.ofTokens source tokens options).remaining < rounds := by
    simpa only [Walker.remaining, Walker.ofTokens, List.length_map, Nat.sub_zero] using enough
  have agrees := nested_expression rounds options.maxDepth options.modes
    (.ofTokens source tokens options) ⟨room, room, rfl, rfl⟩
  have place : (Walker.ofTokens source tokens options).cursor = .ofTokens source tokens := rfl
  rw [readAll, ← place]
  generalize Grammar.expression options.maxDepth options.modes _ = result at agrees ⊢
  generalize walked : expression.outcome rounds _ = answer at agrees
  cases agrees with
  | fail diagnostic =>
    rw [whole, outcome_bind_of_error walked]
    rfl
  | @accept pattern lexemes after reads =>
    rw [← Walker.cursor_forward reads, whole, outcome_bind_of_ok walked]
    dsimp only
    rw [← Walker.isAtEnd_eq_isEmpty, Walker.cursor_span]
    generalize (Walker.ofTokens source tokens options).forward lexemes.length = final
    have looked : (get : Walk Walker).outcome rounds final = some (.ok (final, final)) := rfl
    rw [outcome_bind_of_ok looked]
    cases final.isAtEnd <;> rfl

/-- Reading a source in place comes to an end, and gives what the grammar gives. -/
theorem parseTokens_eq {rounds : Nat} {tokens : List Token} (enough : tokens.length < rounds)
    (source : String) (options : Options) : parseTokens rounds source tokens options =
      some (PatternSyntax.parseTokens source tokens options) := by
  rw [parseTokens, PatternSyntax.parseTokens]
  cases tokens.filterMap Diagnostic.ofToken? with
  | cons diagnostic diagnostics => rfl
  | nil =>
    have same := congrArg (Option.map fun answer : Except Diagnostic Pattern =>
      answer.mapError fun diagnostic => [diagnostic]) (outcome_whole enough source options)
    rw [Option.map_map] at same
    exact same

/-- Every production that may find nothing stays where it is or goes on, from any walker and
beside its parser. Therefore all loops and the recursion of expressions end, in as many rounds
as there are lexemes left and one more, and a source that is read in place gives what the
grammar gives. -/
theorem productions_stay_or_advance :
    (∀ {α : Type} {walk : Walk (Option α)} {parser : Nat → Modes → Parser α},
      Production walk parser → StaysOrAdvances walk parser) ∧
    (∀ {α : Type} {walk : Walk α}, Loop walk → Ends walk) ∧
    ∀ source tokens options rounds, tokens.length < rounds →
      parseTokens rounds source tokens options =
        some (PatternSyntax.parseTokens source tokens options) :=
  ⟨Production.staysOrAdvances, Loop.ends,
    fun source _ options _ enough => parseTokens_eq enough source options⟩

/-- A term is found in front of a `!`. The `!` itself has nothing to negate and ends the reading,
and behind it no term is found and the walker stays. -/
theorem term_along_source :
    (term expression).outcome 4 (.ofTokens "'a'+ !" (tokenize "'a'+ !") {}) =
      some (.ok (some (.repetition (.literal ⟨"a", ⟨0, 3⟩⟩) ⟨1, none⟩ .defaultGreedy ⟨0, 4⟩),
        (Walker.ofTokens "'a'+ !" (tokenize "'a'+ !") {}).forward 2)) ∧
    (term expression).outcome 4 ((Walker.ofTokens "'a'+ !" (tokenize "'a'+ !") {}).forward 2) =
      some (.error ⟨.wrongForm, ⟨6, 6⟩, some (.description "expression")⟩) ∧
    (term expression).outcome 4 ((Walker.ofTokens "'a'+ !" (tokenize "'a'+ !") {}).forward 3) =
      some (.ok (none, (Walker.ofTokens "'a'+ !" (tokenize "'a'+ !") {}).forward 3)) ∧
    ((many (term expression)).outcome 4 (.ofTokens "'a'+ !" (tokenize "'a'+ !") {})).isSome ∧
    parseTokens 4 "'a'+ !" (tokenize "'a'+ !") {} =
      some (.error [⟨.wrongForm, ⟨6, 6⟩, some (.description "expression")⟩]) := by
  have enough : (Walker.ofTokens "'a'+ !" (tokenize "'a'+ !") {}).remaining < 4 := by cbv
  have enoughBehind (count : Nat) :
      ((Walker.ofTokens "'a'+ !" (tokenize "'a'+ !") {}).forward count).remaining < 4 :=
    Nat.lt_of_le_of_lt (Walker.forward_remaining_le _ count) enough
  have stays := productions_stay_or_advance.1 .term
  have parsed := productions_stay_or_advance.2.2 "'a'+ !" (tokenize "'a'+ !") {} 4 (by cbv)
  refine ⟨stays.of_accept enough (by cbv) (by cbv), stays.of_fail (enoughBehind 2) (by cbv),
    stays.of_decline (enoughBehind 3) (by cbv), productions_stay_or_advance.2.1 .terms _ 4 enough,
    parsed.trans ?_⟩
  cbv

end PatternSyntax.Walk
