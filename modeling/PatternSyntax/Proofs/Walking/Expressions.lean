import PatternSyntax.Proofs.Walking.Parts

/-!
# Expressions as walks

The walk of an expression does what the grammar does if the walks of the expressions
within it do. These have fewer lexemes left: whoever reads an inner expression has read
a parenthesis or a lookaround operator first. The recursion is therefore as deep as the
lexemes are many at most.

Exclamation marks and statements leave the walker deeper than it was, and statements
leave it with other settings. Both are made good before anything else is read.
-/

namespace PatternSyntax

namespace Grammar

open PatternSyntax.Parser

/-- The bar is what was read last where the operand behind it is found to be missing. -/
theorem nextAlternative_eq_previous (operand : Parser Pattern) : nextAlternative operand =
    accept .pipe >>= fun _ => either operand pure (do
      let span ← previous
      fail (.ofFault .loneBar span)) := by
  funext cursor
  rw [nextAlternative, bind_apply, bind_apply]
  cases accepted : accept .pipe cursor with
  | decline => rfl
  | fail diagnostic => rfl
  | accept bar between =>
    obtain ⟨-, reads⟩ := accept_eq_accept_iff.mp accepted
    have last : between.previous = bar.span := reads.previous
    dsimp only
    rw [alternativeAfter, orElse_apply, either, previous_bind_apply, last]
    cases operand between <;> rfl

theorem bare_eq_either (levels : Nat) (modes : Modes) :
    bare levels modes = here >>= fun start =>
      let operand := intersection (sequence (term levels modes))
      either (nextAlternative operand <|> operand)
        (fun first => do
          let more ← many (nextAlternative operand)
          return Pattern.alternationOf start first more)
        (pure .empty) := by
  have commits (start : Span) (first : Pattern) : Commits (do
      let more ← many (nextAlternative (intersection (sequence (term levels modes))))
      return Pattern.alternationOf start first more) :=
    (commits_many (nextAlternative_progresses (intersection_progresses levels modes))).bind
      fun _ => commits_pure _
  funext cursor
  rw [bare, alternation, alternatives_eq_choice, orElse_apply, here_bind_apply, here_bind_apply,
    ← orElse_apply, bind_orElse_eq_either (commits cursor.span)]

end Grammar

namespace Walk

variable {α : Type} {rounds bound levels : Nat} {modes : Modes}

/-! ## Levels -/

theorem outcome_enterNesting_of_pos {before : Walker} (span : Span) (room : 0 < before.levels) :
    (enterNesting span).outcome rounds before = some (.ok ((), before.enter 1)) := by
  have fits : ¬before.maxDepth ≤ before.depth := by
    rw [Walker.levels] at room
    omega
  change (if before.maxDepth ≤ before.depth then _ else _ : Walk Unit).outcome rounds before = _
  rw [if_neg fits]
  rfl

theorem outcome_enterNesting_of_zero {before : Walker} (span : Span) (full : before.levels = 0) :
    (enterNesting span).outcome rounds before = some (.error (.ofFault .tooDeep span)) := by
  have full : before.maxDepth ≤ before.depth := Nat.sub_eq_zero_iff_le.mp full
  change (if before.maxDepth ≤ before.depth then _ else _ : Walk Unit).outcome rounds before = _
  rw [if_pos full]
  rfl

theorem outcome_leaveNesting (before : Walker) (count moved : Nat) :
    (leaveNesting count).outcome rounds ((before.enter count).forward moved) =
      some (.ok ((), before.forward moved)) := by
  change some (Except.ok ((), _)) = _
  simp only [Walker.forward, Walker.enter, Nat.add_sub_cancel]

/-- One level below, one level fewer is left. -/
theorem Stands.enter {before : Walker} (stands : Stands rounds bound levels modes before)
    (count : Nat) : Stands rounds bound (levels - count) modes (before.enter count) where
  inRounds := stands.inRounds
  inBound := stands.inBound
  levels := by rw [Walker.enter_levels, stands.levels]
  modes := stands.modes

theorem leaveNesting_zero : leaveNesting 0 = pure () :=
  rfl

/-- What is read on a deeper level is read, once the level has been left. -/
theorem Agrees.leave {before : Walker} {count : Nat} {walk : Walk α} {result : Outcome α}
    (agrees : Agrees (before.enter count) result (walk.outcome rounds (before.enter count))) :
    Agrees before result ((do
      let value ← walk
      leaveNesting count
      return value).outcome rounds (before.enter count)) := by
  generalize walked : walk.outcome rounds (before.enter count) = answer at agrees
  cases agrees with
  | fail diagnostic =>
    rw [outcome_bind_of_error walked]
    exact .fail diagnostic
  | accept reads =>
    rw [outcome_bind_of_ok walked, outcome_bind_of_ok (outcome_leaveNesting before count _)]
    exact .accept reads

/-! ## Exclamation marks -/

/-- What comes of exclamation marks: each of them is one level. -/
inductive EntersMarks (before : Walker) :
    Outcome (Nat × Span) → Option (Except Diagnostic ((Nat × Span) × Walker)) → Prop
  | accept {marks : List Lexeme} {span : Span} {after : Cursor}
      (reads : before.cursor.Reads marks after) :
      EntersMarks before (.accept (marks.length, span) after)
        (some (.ok ((marks.length, span), (before.forward marks.length).enter marks.length)))
  | fail (diagnostic : Diagnostic) :
      EntersMarks before (.fail diagnostic) (some (.error diagnostic))

theorem EntersMarks.none {before : Walker} {span : Span} :
    EntersMarks before (.accept (0, span) before.cursor) (some (.ok ((0, span), before))) :=
  @EntersMarks.accept before [] span before.cursor (Cursor.reads_nil_iff.mpr rfl)

/-- Marks behind a first one, which is a level above them. -/
theorem EntersMarks.cons {before : Walker} {between : Cursor} {bang : Lexeme}
    (reads : before.cursor.Reads [bang] between) {walk : Walk (Nat × Span)}
    {parser : Parser (Nat × Span)}
    (enters : EntersMarks ((before.forward 1).enter 1) (parser between)
      (walk.outcome rounds ((before.forward 1).enter 1))) :
    EntersMarks before
      ((do
        let (count, joined) ← parser
        return (count + 1, joined)) between)
      ((do
        let (count, joined) ← walk
        return (count + 1, joined)).outcome rounds ((before.forward 1).enter 1)) := by
  rw [Parser.bind_apply]
  generalize parser between = result at enters
  generalize walked : walk.outcome rounds ((before.forward 1).enter 1) = answer at enters
  cases enters with
  | fail diagnostic =>
    rw [outcome_bind_of_error walked]
    exact .fail diagnostic
  | @accept marks span after more =>
    have place : ((before.forward 1).enter 1).cursor = between := Walker.cursor_forward_one reads
    rw [place] at more
    have entered : (((before.forward 1).enter 1).forward marks.length).enter marks.length =
        (before.forward (bang :: marks).length).enter (bang :: marks).length := by
      simp only [Walker.forward, Walker.enter, List.length_cons, Nat.add_assoc, Nat.add_comm 1]
    rw [outcome_bind_of_ok walked, entered]
    exact @EntersMarks.accept before (bang :: marks) span after (reads.trans more)

theorem outcome_check (kind : TokenKind) (before : Walker) :
    (check kind).outcome rounds before =
      some (.ok (before.next?.any fun lexeme => lexeme.kind = kind, before)) :=
  rfl

theorem outcome_bangsWithin_of_decline {before : Walker} (given : Nat) (notSpan : Span)
    (declined : Parser.accept .bang before.cursor = .decline) :
    (bangsWithin (given + 1) notSpan).outcome rounds before =
      some (.ok ((0, notSpan), before)) := by
  rw [Parser.accept_eq_decline_iff, ← Walker.next?_eq_head?] at declined
  have noBang : (before.next?.any fun lexeme => lexeme.kind = .bang) = false :=
    (Option.any_eq_false _ _).mpr fun lexeme next => decide_eq_false (declined lexeme next)
  rw [bangsWithin, outcome_bind_of_ok (outcome_check .bang before), noBang]
  rfl

section

variable {before : Walker} {bang : Lexeme} {between : Cursor} (given : Nat) (notSpan : Span)
  (accepted : Parser.accept .bang before.cursor = .accept bang between)

include accepted

theorem outcome_bangsWithin_of_accept :
    (bangsWithin (given + 1) notSpan).outcome rounds before = (do
      enterNesting bang.span
      advance
      let (count, joined) ← bangsWithin given (notSpan.join (← previous))
      return (count + 1, joined)).outcome rounds before := by
  obtain ⟨isBang, reads⟩ := Parser.accept_eq_accept_iff.mp accepted
  have next : before.next? = some bang := by
    rw [Walker.next?_eq_head?, reads.rest]
    rfl
  have checked : (check .bang).outcome rounds before = some (.ok (true, before)) := by
    rw [outcome_check, next, Option.any_some, decide_eq_true isBang]
  have looked : here.outcome rounds before = some (.ok (bang.span, before)) := by
    rw [← reads.span_eq, Walker.cursor_span]
    rfl
  rw [bangsWithin, outcome_bind_of_ok checked, if_pos rfl, outcome_bind_of_ok looked]

/-- Behind an exclamation mark the marks go on one level below. -/
theorem outcome_bangsWithin_of_pos (room : 0 < before.levels) :
    (bangsWithin (given + 1) notSpan).outcome rounds before = (do
      let (count, joined) ← bangsWithin given (notSpan.join bang.span)
      return (count + 1, joined)).outcome rounds ((before.forward 1).enter 1) := by
  obtain ⟨-, reads⟩ := Parser.accept_eq_accept_iff.mp accepted
  have advanced : advance.outcome rounds (before.enter 1) =
      some (.ok ((), (before.forward 1).enter 1)) := by
    have next : before.next?.isSome := by
      rw [Walker.next?_eq_head?, reads.rest]
      rfl
    change some (Except.ok ((), if before.next?.isSome then _ else _)) = _
    rw [if_pos next]
    rfl
  have looked : previous.outcome rounds ((before.forward 1).enter 1) =
      some (.ok (bang.span, (before.forward 1).enter 1)) := by
    have previousEq : (before.forward 1).previous = bang.span :=
      (congrArg Cursor.previous (Walker.cursor_forward_one reads)).trans reads.previous
    rw [← previousEq]
    rfl
  rw [outcome_bangsWithin_of_accept given notSpan accepted,
    outcome_bind_of_ok (outcome_enterNesting_of_pos bang.span room), outcome_bind_of_ok advanced,
    outcome_bind_of_ok looked]

end

/-- Every exclamation mark takes a round, and one of the levels that are left. -/
theorem entersMarks_bangsWithin {given : Nat} (notSpan : Span) {before : Walker}
    (enough : before.remaining < given) :
    EntersMarks before (Grammar.bangs before.levels notSpan before.cursor)
      ((bangsWithin given notSpan).outcome rounds before) := by
  induction given generalizing before notSpan with
  | zero => exact absurd enough (Nat.not_lt_zero _)
  | succ given inductionHypothesis =>
    cases levelsEq : before.levels with
    | zero =>
      rw [Grammar.bangs, Parser.bind_orElse_eq_either fun _ => Parser.commits_fail _,
        Parser.either]
      cases parsed : Parser.accept .bang before.cursor with
      | fail diagnostic => exact absurd parsed acceptMap_ne_fail
      | decline =>
        rw [outcome_bangsWithin_of_decline given notSpan parsed]
        exact EntersMarks.none
      | accept bang between =>
        rw [outcome_bangsWithin_of_accept given notSpan parsed,
          outcome_bind_of_error (outcome_enterNesting_of_zero bang.span levelsEq)]
        exact .fail _
    | succ levels =>
      rw [Grammar.bangs, Parser.bind_orElse_eq_either fun _ =>
        (Grammar.commits_bangs _ _).bind fun _ => Parser.commits_pure _, Parser.either]
      cases parsed : Parser.accept .bang before.cursor with
      | fail diagnostic => exact absurd parsed acceptMap_ne_fail
      | decline =>
        rw [outcome_bangsWithin_of_decline given notSpan parsed]
        exact EntersMarks.none
      | accept bang between =>
        obtain ⟨-, reads⟩ := Parser.accept_eq_accept_iff.mp parsed
        have fits := Walker.position_add_length_le reads (List.cons_ne_nil _ _)
        have fewer : ((before.forward 1).enter 1).remaining < given :=
          Walker.forward_remaining_lt Nat.one_pos fits enough
        have below : ((before.forward 1).enter 1).levels = levels := by
          rw [Walker.enter_levels, Walker.forward_levels, levelsEq, Nat.add_sub_cancel]
        have place : ((before.forward 1).enter 1).cursor = between :=
          Walker.cursor_forward_one reads
        have enters := inductionHypothesis (notSpan.join bang.span) fewer
        rw [below, place] at enters
        rw [outcome_bangsWithin_of_pos given notSpan parsed (levelsEq ▸ Nat.succ_pos levels)]
        exact enters.cons reads

theorem entersMarks_bangs (notSpan : Span) {before : Walker}
    (enough : before.remaining < rounds) :
    EntersMarks before (Grammar.bangs before.levels notSpan before.cursor)
      ((bangs notSpan).outcome rounds before) :=
  entersMarks_bangsWithin notSpan enough

/-! ## Terms -/

theorem outcome_repeatedWithin_of_decline {given : Nat} (body : Pattern) {before : Walker}
    (stands : Stands rounds bound levels modes before) (enough : before.remaining < given)
    (declined : Grammar.repetition modes.lazy before.cursor = .decline) :
    (repeatedWithin given body).outcome rounds before = some (.ok (body, before)) := by
  have stays := tries_repetition before stands
  rw [declined] at stays
  generalize walked : repetition.outcome rounds before = answer at stays
  cases stays
  cases given with
  | zero => exact absurd enough (Nat.not_lt_zero _)
  | succ given => rw [repeatedWithin, outcome_bind_of_ok walked, outcome_pure]

/-- There is only one repetition behind a pattern, so that the loop stops after it. -/
theorem follows_repeated (body : Pattern) :
    Follows rounds bound levels modes (repeated body) (Grammar.repeated modes.lazy body) := by
  intro before stands
  rw [repeated, outcome_allowance_bind, Grammar.repeated, Parser.optional_bind_eq_either]
  cases rounds with
  | zero => exact absurd stands.inRounds (Nat.not_lt_zero _)
  | succ given =>
    rw [repeatedWithin]
    apply (tries_repetition before stands).either
    · intro ⟨bounds, quantifier, span⟩ count positive fits accepted
      obtain ⟨_, _, -, -, -, -, once⟩ := Grammar.spells_of_repetition accepted
      have fewer := Walker.forward_remaining_lt positive fits stands.inRounds
      rw [outcome_repeatedWithin_of_decline _ (stands.forward count) fewer
        (Grammar.repetition_eq_decline_iff.mpr once)]
      exact .accept (Cursor.reads_nil_iff.mpr rfl)
    · exact follows_pure body before stands

/-- The expressions within are read as the grammar reads them, where fewer lexemes than the
bound are left. -/
def Nested (rounds bound : Nat) (expression : Walk Pattern) : Prop :=
  ∀ levels modes, Follows rounds bound levels modes expression (Grammar.expression levels modes)

variable {expression : Walk Pattern}

section

variable (nested : Nested rounds bound expression)

include nested

theorem tries_lookaround : Tries rounds (bound + 1) levels modes (lookaround expression)
    (Grammar.lookaround (Grammar.expression levels modes)) := by
  refine (tries_acceptMap _).bind_further (fun _ => ?_) (by rfl)
  exact (nested levels modes).bind_completes fun _ => completes_pure _

theorem tries_group : Tries rounds (bound + 1) levels modes (group expression)
    (Grammar.group (Grammar.expression levels modes)) := by
  refine tries_groupOpening.bind_further (fun _ => ?_) (by rfl)
  refine (nested levels modes).bind_completes fun body => ?_
  exact ((tries_accept .closeParen).orFail _).bind_completes fun _ => completes_pure _

theorem tries_atom : Tries rounds (bound + 1) levels modes (atom expression)
    (Grammar.atom modes.unicode (Grammar.expression levels modes)) :=
  (tries_group nested).orElse tries_leaf

theorem tries_lookaroundOrAtom : Tries rounds (bound + 1) levels modes
    (orElse (lookaround expression) (atom expression))
    (Grammar.lookaroundOrAtom levels modes) :=
  (tries_lookaround nested).orElse (tries_atom nested)

/-- Without exclamation marks there may be nothing. -/
theorem tries_negated (notSpan : Span) :
    Tries rounds (bound + 1) levels modes (negated expression 0 notSpan) (do
      let body ← Grammar.lookaroundOrAtom levels modes
      Grammar.repeated modes.lazy (Grammar.negate notSpan 0 body)) :=
  (tries_lookaroundOrAtom nested).bind (fun _ => (follows_repeated _).completes) (by rfl)

/-- Behind exclamation marks there has to be something. -/
theorem completes_negated (notSpan : Span) {count : Nat} (marked : count ≠ 0) :
    Completes rounds (bound + 1) levels modes (negated expression count notSpan) (do
      let body ← Grammar.operandOf (Grammar.lookaroundOrAtom levels modes)
      Grammar.repeated modes.lazy (Grammar.negate notSpan count body)) := by
  have committed : (do
      let body ← Grammar.operandOf (Grammar.lookaroundOrAtom levels modes)
      Grammar.repeated modes.lazy (Grammar.negate notSpan count body)) =
      Parser.either (Grammar.lookaroundOrAtom levels modes)
        (fun body => Grammar.repeated modes.lazy (Grammar.negate notSpan count body))
        (Parser.failHere (.missing "expression")) := by
    funext cursor
    rw [Parser.bind_apply, Grammar.operandOf, Parser.orFail, Parser.orElse_apply, Parser.either]
    cases Grammar.lookaroundOrAtom levels modes cursor <;> rfl
  rw [committed]
  apply (tries_lookaroundOrAtom nested).either_completes
  · exact fun _ => (follows_repeated _).completes
  · dsimp only
    rw [if_neg marked]
    exact completes_failHere _

theorem tries_term :
    Tries rounds (bound + 1) levels modes (term expression) (Grammar.term levels modes) := by
  intro before stands
  have looked : here.outcome rounds before = some (.ok (before.here, before)) := rfl
  rw [Grammar.term, Parser.here_bind_apply, Walker.cursor_span, Parser.bind_apply, term,
    outcome_bind_of_ok looked]
  have enters := entersMarks_bangs before.here stands.inRounds
  rw [stands.levels] at enters
  generalize Grammar.bangs levels before.here before.cursor = result at enters
  generalize walked : (bangs before.here).outcome rounds before = answer at enters
  cases enters with
  | fail diagnostic =>
    rw [outcome_bind_of_error walked]
    exact .fail diagnostic
  | @accept marks span after reads =>
    rw [outcome_bind_of_ok walked]
    dsimp only
    cases marks with
    | nil =>
      obtain rfl := Cursor.reads_nil_iff.mp reads
      rw [List.length_nil, leaveNesting_zero, if_pos rfl, Nat.sub_zero]
      simp only [pure_bind, bind_pure]
      exact tries_negated nested span before stands
    | cons bang marks =>
      have marked : (bang :: marks).length ≠ 0 := Nat.succ_ne_zero _
      rw [if_neg marked]
      have agrees := completes_negated nested span marked _
        ((stands.forward (bang :: marks).length).enter (bang :: marks).length)
      have place : ((before.forward (bang :: marks).length).enter (bang :: marks).length).cursor =
          after := Walker.cursor_forward reads
      rw [place, map_apply] at agrees
      exact agrees.leave.movesOrStays reads (List.cons_ne_nil bang marks)

/-! ## Operators -/

theorem tries_sequence : Tries rounds (bound + 1) levels modes (sequence expression)
    (Grammar.sequence (Grammar.term levels modes)) := by
  rw [Grammar.sequence_eq]
  refine (tries_term nested).bind (fun first => ?_) (by rfl)
  exact (follows_many (Grammar.term_progresses levels modes) (tries_term nested)).bind_completes
    fun _ => completes_pure _

theorem tries_nextOperand : Tries rounds (bound + 1) levels modes (nextOperand expression)
    (Grammar.nextOperand (Grammar.sequence (Grammar.term levels modes))) := by
  refine (tries_accept .ampersand).bind (fun _ => ?_) (by rfl)
  apply (tries_sequence nested).either_completes
  · exact fun _ => completes_pure _
  · exact completes_failHere _

theorem follows_moreOperands :
    Follows rounds (bound + 1) levels modes (many (nextOperand expression))
      (Parser.many (Grammar.nextOperand (Grammar.sequence (Grammar.term levels modes)))) :=
  follows_many (Grammar.nextOperand_progresses (Grammar.sequence_progresses levels modes))
    (tries_nextOperand nested)

theorem tries_intersection : Tries rounds (bound + 1) levels modes (intersection expression)
    (Grammar.intersection (Grammar.sequence (Grammar.term levels modes))) := by
  rw [Grammar.intersection_eq_choice]
  refine Tries.after_here fun start => ?_
  refine ((tries_nextOperand nested).orElse (tries_sequence nested)).bind (fun first => ?_)
    (by rfl)
  refine (follows_moreOperands nested).bind_completes fun more => ?_
  exact follows_previous.bind_completes fun _ => completes_pure _

theorem tries_nextAlternative :
    Tries rounds (bound + 1) levels modes (nextAlternative expression) (Grammar.nextAlternative
      (Grammar.intersection (Grammar.sequence (Grammar.term levels modes)))) := by
  rw [Grammar.nextAlternative_eq_previous]
  refine (tries_accept .pipe).bind (fun _ => ?_) (by rfl)
  apply (tries_intersection nested).either_completes
  · exact fun _ => completes_pure _
  · exact follows_previous.bind_completes fun _ => completes_throw _

theorem follows_moreAlternatives :
    Follows rounds (bound + 1) levels modes (many (nextAlternative expression))
      (Parser.many (Grammar.nextAlternative
        (Grammar.intersection (Grammar.sequence (Grammar.term levels modes))))) :=
  follows_many (Grammar.nextAlternative_progresses (Grammar.intersection_progresses levels modes))
    (tries_nextAlternative nested)

theorem follows_alternation :
    Follows rounds (bound + 1) levels modes (alternation expression)
      (Grammar.bare levels modes) := by
  rw [Grammar.bare_eq_either]
  refine follows_here.bind fun start => ?_
  apply ((tries_nextAlternative nested).orElse (tries_intersection nested)).either
  · exact fun first => (follows_moreAlternatives nested).bind fun _ => follows_pure _
  · exact follows_pure _

/-! ## Statements -/

theorem tries_binding : Tries rounds (bound + 1) levels modes (binding expression)
    (Grammar.binding (Grammar.bare levels modes)) := by
  refine (tries_keyword "let").bind (fun word => ?_) (by rfl)
  refine (follows_expect .identifier).bind_completes fun name => ?_
  refine (follows_expect .equals).bind_completes fun _ => ?_
  refine (follows_alternation nested).bind_completes fun bound => ?_
  exact ((tries_accept .semicolon).orFail _).bind_completes fun _ => completes_pure _

theorem tries_statement : Tries rounds (bound + 1) levels modes (statement expression)
    (Grammar.statement (Grammar.bare levels modes)) := by
  apply Tries.orElse
  · exact tries_toggle.bind (fun _ => completes_pure _) (by rfl)
  · apply (tries_binding nested).orElse
    exact tries_testBlock.bind (fun _ => completes_pure _) (by rfl)

end

/-- Read statements, which leave the walker deeper and with other settings, and then what they
apply to. -/
def statedBodyWithin (expression : Walk Pattern) (given : Nat) :
    Walk (List (Statement × Span) × Pattern) := do
  let stated ← statementsWithin expression given
  let body ← alternation expression
  return (stated, body)

/-- Read what stands behind a statement, one level below it. -/
def underStatement (expression : Walk Pattern) (given : Nat) (content : Statement) (span : Span) :
    Walk (List (Statement × Span) × Pattern) := do
  enterNesting span
  setModes (content.modes (← Walk.modes))
  let (more, body) ← statedBodyWithin expression given
  return ((content, span) :: more, body)

theorem statedBodyWithin_succ (expression : Walk Pattern) (given : Nat) :
    statedBodyWithin expression (given + 1) = statement expression >>= fun
      | none => do
        let body ← alternation expression
        return ([], body)
      | some (content, span) => underStatement expression given content span := by
  rw [statedBodyWithin, statementsWithin, bind_assoc]
  apply bind_congr
  rintro (_ | ⟨content, span⟩)
  · simp only [pure_bind]
  · simp only [underStatement, statedBodyWithin, bind_assoc, pure_bind]

theorem scope_eq_statedBodyWithin (expression : Walk Pattern) : scope expression = do
    let (stated, body) ← statedBodyWithin expression (← allowance)
    leaveNesting stated.length
    return stateOver stated body := by
  simp only [scope, statements, statedBodyWithin, bind_assoc, pure_bind]

/-- What comes of statements and what they apply to: each of them is one level. -/
inductive EntersScope (before : Walker) : Outcome (Pattern × Span) →
    Option (Except Diagnostic ((List (Statement × Span) × Pattern) × Walker)) → Prop
  | accept {stated : List (Statement × Span)} {body : Pattern} {lexemes : List Lexeme}
      {after : Cursor} {modes : Modes} (reads : before.cursor.Reads lexemes after) :
      EntersScope before (.accept (stateOver stated body, body.span) after)
        (some (.ok ((stated, body),
          { (before.forward lexemes.length).enter stated.length with modes := modes })))
  | fail (diagnostic : Diagnostic) :
      EntersScope before (.fail diagnostic) (some (.error diagnostic))

/-- What stands behind a statement is entered a level below it and with its settings. -/
theorem entersScope_underStatement {given : Nat} {content : Statement} {span : Span}
    {before : Walker} {between : Cursor} {lexemes : List Lexeme}
    (reads : before.cursor.Reads lexemes between)
    (stands : Stands rounds bound levels modes (before.forward lexemes.length))
    (below : ∀ {fewer inner}, ∀ walker, Stands rounds bound fewer inner walker →
      walker.remaining = (before.forward lexemes.length).remaining →
      EntersScope walker (Grammar.scope fewer inner walker.cursor)
        ((statedBodyWithin expression given).outcome rounds walker)) :
    EntersScope before (Grammar.underStatement levels modes (content, span) between)
      ((underStatement expression given content span).outcome rounds
        (before.forward lexemes.length)) := by
  cases levels with
  | zero =>
    rw [underStatement, outcome_bind_of_error (outcome_enterNesting_of_zero span stands.levels)]
    exact .fail _
  | succ levels =>
    have room : 0 < (before.forward lexemes.length).levels :=
      stands.levels ▸ Nat.succ_pos levels
    let inner : Walker :=
      { (before.forward lexemes.length).enter 1 with modes := content.modes modes }
    have standsInner : Stands rounds bound levels (content.modes modes) inner :=
      ⟨stands.inRounds, stands.inBound, (stands.enter 1).levels, rfl⟩
    have place : inner.cursor = between := Walker.cursor_forward reads
    have looked : Walk.modes.outcome rounds ((before.forward lexemes.length).enter 1) =
        some (.ok (modes, (before.forward lexemes.length).enter 1)) := by
      rw [← stands.modes]
      rfl
    have changed : (setModes (content.modes modes)).outcome rounds
        ((before.forward lexemes.length).enter 1) = some (.ok ((), inner)) := rfl
    have enters := below inner standsInner rfl
    rw [place] at enters
    rw [underStatement, outcome_bind_of_ok (outcome_enterNesting_of_pos span room),
      outcome_bind_of_ok looked, outcome_bind_of_ok changed, Grammar.underStatement,
      Parser.bind_apply]
    dsimp only
    generalize Grammar.scope levels (content.modes modes) between = result at enters
    generalize walked : (statedBodyWithin expression given).outcome rounds inner = answer at enters
    cases enters with
    | fail diagnostic =>
      rw [outcome_bind_of_error walked]
      exact .fail diagnostic
    | @accept stated body more after innermost readsMore =>
      rw [place] at readsMore
      have entered :
          { (inner.forward more.length).enter stated.length with modes := innermost } =
          { (before.forward (lexemes ++ more).length).enter ((content, span) :: stated).length with
            modes := innermost } := by
        simp only [inner, Walker.forward, Walker.enter, List.length_cons, List.length_append,
          Nat.add_assoc, Nat.add_comm 1]
      rw [outcome_bind_of_ok walked, entered]
      exact @EntersScope.accept before ((content, span) :: stated) body (lexemes ++ more) after
        innermost (reads.trans readsMore)

section

variable (nested : Nested rounds bound expression)

include nested

/-- Every statement takes a round, and one of the levels that are left. -/
theorem entersScope_statedBodyWithin {given : Nat} (before : Walker)
    (stands : Stands rounds (bound + 1) levels modes before) (enough : before.remaining < given) :
    EntersScope before (Grammar.scope levels modes before.cursor)
      ((statedBodyWithin expression given).outcome rounds before) := by
  induction given generalizing before levels modes with
  | zero => exact absurd enough (Nat.not_lt_zero _)
  | succ given inductionHypothesis =>
    have moves := tries_statement nested before stands
    rw [Grammar.scope_eq, Parser.bind_orElse_eq_either
      fun _ => Grammar.commits_underStatement _ _ _, Parser.either, statedBodyWithin_succ]
    generalize Grammar.statement (Grammar.bare levels modes) before.cursor = result at moves
    generalize walked : (statement expression).outcome rounds before = answer at moves
    cases moves with
    | fail diagnostic =>
      rw [outcome_bind_of_error walked]
      exact .fail diagnostic
    | @accept stated lexemes between reads nonempty =>
      rw [outcome_bind_of_ok walked]
      apply entersScope_underStatement reads (stands.forward lexemes.length)
      intro fewer inner walker standsInner same
      apply inductionHypothesis walker standsInner
      rw [same]
      exact Walker.forward_remaining_lt (List.length_pos_iff.mpr nonempty)
        (Walker.position_add_length_le reads nonempty) enough
    | decline =>
      have agrees := follows_alternation nested before stands
      rw [outcome_bind_of_ok walked, Parser.bind_apply]
      generalize Grammar.bare levels modes before.cursor = result at agrees
      generalize walkedBody : (alternation expression).outcome rounds before = answer at agrees
      cases agrees with
      | fail diagnostic =>
        rw [outcome_bind_of_error walkedBody]
        exact .fail diagnostic
      | @accept body lexemes after reads =>
        rw [outcome_bind_of_ok walkedBody]
        exact @EntersScope.accept before [] body lexemes after before.modes reads

/-! ## Expressions -/

/-- An expression leaves all levels that it has entered and puts the settings back. -/
theorem follows_expressionAround : Follows rounds (bound + 1) levels modes
    (expressionAround expression) (Grammar.expression levels modes) := by
  intro before stands
  have looked : here.outcome rounds before = some (.ok (before.here, before)) := rfl
  rw [expressionAround, outcome_bind_of_ok looked]
  cases levels with
  | zero =>
    rw [outcome_bind_of_error (outcome_enterNesting_of_zero _ stands.levels), Grammar.expression,
      Parser.failHere, Parser.here_bind_apply, Walker.cursor_span]
    exact .fail _
  | succ levels =>
    have room : 0 < before.levels := stands.levels ▸ Nat.succ_pos levels
    have lookedModes : Walk.modes.outcome rounds (before.enter 1) =
        some (.ok (before.modes, before.enter 1)) := rfl
    have enters := entersScope_statedBodyWithin nested (before.enter 1) (stands.enter 1)
      stands.inRounds
    have place : (before.enter 1).cursor = before.cursor := rfl
    rw [Nat.add_sub_cancel, place] at enters
    rw [outcome_bind_of_ok (outcome_enterNesting_of_pos _ room), outcome_bind_of_ok lookedModes,
      scope_eq_statedBodyWithin, bind_assoc, outcome_allowance_bind, bind_assoc,
      Grammar.expression, Parser.bind_apply]
    generalize Grammar.scope levels modes before.cursor = result at enters
    generalize walked : (statedBodyWithin expression rounds).outcome rounds (before.enter 1) =
      answer at enters
    cases enters with
    | fail diagnostic =>
      rw [outcome_bind_of_error walked]
      exact .fail diagnostic
    | @accept stated body lexemes after inner reads =>
      rw [outcome_bind_of_ok walked]
      have restored : before.forward lexemes.length = { before.forward lexemes.length with
          depth := before.depth + 1 + stated.length - stated.length - 1 } := by
        rw [Nat.add_sub_cancel, Nat.add_sub_cancel]
        rfl
      have accepted := @Agrees.accept _ before (stateOver stated body) _ _ reads
      rw [restored] at accepted
      exact accepted

end

/-- The recursion is no deeper than there are lexemes left. -/
theorem nested_expressionWithin (rounds given : Nat) :
    Nested rounds given (expressionWithin given) := by
  induction given with
  | zero => exact fun _ _ before stands => absurd stands.inBound (Nat.not_lt_zero _)
  | succ given inductionHypothesis =>
    exact fun _ _ => follows_expressionAround inductionHypothesis

theorem nested_expression (rounds : Nat) : Nested rounds rounds Walk.expression :=
  nested_expressionWithin rounds rounds

end Walk

end PatternSyntax
