import PatternSyntax.Proofs.Choices
import PatternSyntax.Proofs.Walking.Walker

/-!
# Walks that agree with parsers

A walk agrees with a parser if it comes to the same end from every walker: it gives
the value that the parser accepts and goes on by the lexemes that the parser reads,
or it ends the reading with the same diagnostic. Agreement implies that the rounds are
enough, and they are as long as there are more of them than lexemes are left.

A walk that may find nothing has to do more. Where the parser declines, it finds
nothing and leaves the walker as it was; where it finds something, it goes on by at
least one lexeme.
-/

namespace PatternSyntax

namespace Walker

variable {walker : Walker} {lexemes : List Lexeme} {after : Cursor}

theorem cursor_forward_one {lexeme : Lexeme} (reads : walker.cursor.Reads [lexeme] after) :
    (walker.forward 1).cursor = after := by
  rcases after with ⟨rest, previous, finish⟩
  have restEq : walker.lexemes.drop walker.position = lexeme :: rest := reads.rest
  have next : walker.lexemes[walker.position]? = some lexeme := by
    rw [← List.head?_drop, restEq, List.head?_cons]
  have previousEq : previous = lexeme.span := reads.previous
  have finishEq : finish = walker.finish := reads.finish
  rw [cursor, forward, Cursor.mk.injEq]
  constructor
  · rw [← List.tail_drop, restEq, List.tail_cons]
  · exact ⟨by simp only [Walker.previous, next, previousEq, Option.map_some, Option.getD_some],
      finishEq.symm⟩

/-- A walker that goes on by the lexemes which are read comes to the same place. -/
theorem cursor_forward (reads : walker.cursor.Reads lexemes after) :
    (walker.forward lexemes.length).cursor = after := by
  induction lexemes generalizing walker with
  | nil => exact (Cursor.reads_nil_iff.mp reads).symm
  | cons lexeme lexemes inductionHypothesis =>
    obtain ⟨between, first, more⟩ := Cursor.reads_cons_iff.mp reads
    rw [← cursor_forward_one first] at more
    rw [List.length_cons, Nat.add_comm, ← forward_forward]
    exact inductionHypothesis more

/-- Nobody reads beyond the last lexeme. -/
theorem position_add_length_le (reads : walker.cursor.Reads lexemes after)
    (nonempty : lexemes ≠ []) : walker.position + lexemes.length ≤ walker.lexemes.length := by
  have total := reads.length_eq
  have positive := List.length_pos_iff.mpr nonempty
  rw [cursor, List.length_drop] at total
  omega

end Walker

namespace Walk

variable {α β : Type}

/-- What comes of a walk is what comes of a parser at the same place. -/
inductive Agrees (before : Walker) : Outcome α → Option (Except Diagnostic (α × Walker)) → Prop
  | accept {value : α} {lexemes : List Lexeme} {after : Cursor}
      (reads : before.cursor.Reads lexemes after) :
      Agrees before (.accept value after) (some (.ok (value, before.forward lexemes.length)))
  | fail (diagnostic : Diagnostic) : Agrees before (.fail diagnostic) (some (.error diagnostic))

/-- What comes of a walk that may find nothing, beside what comes of a parser at the
same place. -/
inductive MovesOrStays (before : Walker) :
    Outcome α → Option (Except Diagnostic (Option α × Walker)) → Prop
  | accept {value : α} {lexemes : List Lexeme} {after : Cursor}
      (reads : before.cursor.Reads lexemes after) (nonempty : lexemes ≠ []) :
      MovesOrStays before (.accept value after)
        (some (.ok (some value, before.forward lexemes.length)))
  | decline : MovesOrStays before .decline (some (.ok (none, before)))
  | fail (diagnostic : Diagnostic) :
      MovesOrStays before (.fail diagnostic) (some (.error diagnostic))

/-- From where a walk is compared with a parser. There are more rounds than lexemes left, so
many levels can still be entered, and these settings are in force. The bound is on the lexemes
that are left, too: a walk that holds expressions is compared where the expressions within it
have fewer of them. -/
structure Stands (rounds bound levels : Nat) (modes : Modes) (before : Walker) : Prop where
  inRounds : before.remaining < rounds
  inBound : before.remaining < bound
  levels : before.levels = levels
  modes : before.modes = modes

/-- From there, the walk does what the parser does. -/
def Follows (rounds bound levels : Nat) (modes : Modes) (walk : Walk α) (parser : Parser α) :
    Prop :=
  ∀ before, Stands rounds bound levels modes before →
    Agrees before (parser before.cursor) (walk.outcome rounds before)

/-- From there, the walk finds what the parser accepts, and nothing where it declines. -/
def Tries (rounds bound levels : Nat) (modes : Modes) (walk : Walk (Option α))
    (parser : Parser α) : Prop :=
  ∀ before, Stands rounds bound levels modes before →
    MovesOrStays before (parser before.cursor) (walk.outcome rounds before)

/-- From there, the walk finds what the parser accepts, and the parser does not decline. -/
def Completes (rounds bound levels : Nat) (modes : Modes) (walk : Walk (Option α))
    (parser : Parser α) : Prop :=
  Follows rounds bound levels modes walk (some <$> parser)

variable {rounds bound levels : Nat} {modes : Modes}

theorem Stands.forward {before : Walker} (stands : Stands rounds bound levels modes before)
    (count : Nat) : Stands rounds bound levels modes (before.forward count) where
  inRounds := Nat.lt_of_le_of_lt (before.forward_remaining_le count) stands.inRounds
  inBound := Nat.lt_of_le_of_lt (before.forward_remaining_le count) stands.inBound
  levels := stands.levels
  modes := stands.modes

theorem Stands.further {before : Walker} (stands : Stands rounds (bound + 1) levels modes before)
    {count : Nat} (positive : 0 < count)
    (fits : before.position + count ≤ before.lexemes.length) :
    Stands rounds bound levels modes (before.forward count) where
  inRounds := (stands.forward count).inRounds
  inBound := Walker.forward_remaining_lt positive fits stands.inBound
  levels := stands.levels
  modes := stands.modes

/-! ## Sequencing -/

theorem follows_pure (value : α) : Follows rounds bound levels modes (pure value) (pure value) :=
  fun _ _ => .accept (Cursor.reads_nil_iff.mpr rfl)

theorem follows_throw (diagnostic : Diagnostic) :
    Follows rounds bound levels modes (throw diagnostic : Walk α) (Parser.fail diagnostic) :=
  fun _ _ => .fail diagnostic

/-- What goes on from where the first lexemes have been read goes on from the beginning. -/
theorem Agrees.trans {before : Walker} {between : Cursor} {lexemes : List Lexeme}
    {result : Outcome α} {answer : Option (Except Diagnostic (α × Walker))}
    (reads : before.cursor.Reads lexemes between)
    (agrees : Agrees (before.forward lexemes.length) result answer) :
    Agrees before result answer := by
  cases agrees with
  | fail diagnostic => exact .fail diagnostic
  | accept more =>
    rw [Walker.cursor_forward reads] at more
    rw [Walker.forward_forward, ← List.length_append]
    exact .accept (reads.trans more)

theorem Agrees.bind {before : Walker} {first : Walk α} {next : α → Walk β} {parser : Parser α}
    {nextParser : α → Parser β}
    (agrees : Agrees before (parser before.cursor) (first.outcome rounds before))
    (goesOn : ∀ value count, Agrees (before.forward count)
      (nextParser value (before.forward count).cursor)
      ((next value).outcome rounds (before.forward count))) :
    Agrees before ((parser >>= nextParser) before.cursor)
      ((first >>= next).outcome rounds before) := by
  rw [Parser.bind_apply]
  generalize parsed : parser before.cursor = result at agrees
  generalize walked : first.outcome rounds before = answer at agrees
  cases agrees with
  | fail diagnostic =>
    rw [outcome_bind_of_error walked]
    exact .fail diagnostic
  | @accept value lexemes after reads =>
    rw [outcome_bind_of_ok walked]
    specialize goesOn value lexemes.length
    rw [Walker.cursor_forward reads] at goesOn
    exact goesOn.trans reads

theorem Follows.bind {first : Walk α} {next : α → Walk β} {parser : Parser α}
    {nextParser : α → Parser β} (firstFollows : Follows rounds bound levels modes first parser)
    (nextFollows : ∀ value, Follows rounds bound levels modes (next value) (nextParser value)) :
    Follows rounds bound levels modes (first >>= next) (parser >>= nextParser) :=
  fun before stands => (firstFollows before stands).bind
    fun value count => nextFollows value (before.forward count) (stands.forward count)

theorem follows_here : Follows rounds bound levels modes here Parser.here := by
  intro before _
  rw [Parser.here, Walker.cursor_span]
  exact .accept (Cursor.reads_nil_iff.mpr rfl)

theorem follows_previous : Follows rounds bound levels modes previous Parser.previous :=
  fun _ _ => .accept (Cursor.reads_nil_iff.mpr rfl)

theorem follows_nextText : Follows rounds bound levels modes nextText Parser.nextText := by
  intro before _
  have text : Parser.nextText before.cursor =
      .accept ((before.next?.map Lexeme.text).getD "") before.cursor := by
    rw [Walker.next?_eq_head?, Parser.nextText]
    cases before.cursor.rest <;> rfl
  rw [text]
  exact .accept (Cursor.reads_nil_iff.mpr rfl)

theorem follows_failHere (diagnose : Span → Diagnostic) :
    Follows rounds bound levels modes (failHere diagnose : Walk α) (Parser.failHere diagnose) :=
  follows_here.bind fun span => follows_throw (diagnose span)

/-- A look at the settings gives those in force. -/
theorem Follows.after_modes {next : Modes → Walk β} {parser : Parser β}
    (nextFollows : Follows rounds bound levels modes (next modes) parser) :
    Follows rounds bound levels modes (Walk.modes >>= next) parser := by
  intro before stands
  have looked : Walk.modes.outcome rounds before = some (.ok (modes, before)) := by
    rw [← stands.modes]
    rfl
  rw [outcome_bind_of_ok looked]
  exact nextFollows before stands

/-! ## Finding something -/

theorem map_apply (f : α → β) (parser : Parser α) (cursor : Cursor) :
    (f <$> parser) cursor = (parser cursor).map f := by
  rw [← bind_pure_comp, Parser.bind_apply]
  cases parser cursor <;> rfl

theorem Follows.completes {walk : Walk α} {parser : Parser α}
    (follows : Follows rounds bound levels modes walk parser) :
    Completes rounds bound levels modes (some <$> walk) parser :=
  follows.bind fun value => follows_pure (some value)

theorem completes_pure (value : α) :
    Completes rounds bound levels modes (pure (some value)) (pure value) :=
  follows_pure (some value)

theorem completes_throw (diagnostic : Diagnostic) :
    Completes rounds bound levels modes (throw diagnostic : Walk (Option α))
      (Parser.fail diagnostic) :=
  follows_throw diagnostic

theorem completes_failHere (diagnose : Span → Diagnostic) :
    Completes rounds bound levels modes (failHere diagnose : Walk (Option α))
      (Parser.failHere diagnose) :=
  follows_here.bind fun span => follows_throw (diagnose span)

theorem Follows.bind_completes {first : Walk α} {next : α → Walk (Option β)} {parser : Parser α}
    {nextParser : α → Parser β} (follows : Follows rounds bound levels modes first parser)
    (completes : ∀ value, Completes rounds bound levels modes (next value) (nextParser value)) :
    Completes rounds bound levels modes (first >>= next) (parser >>= nextParser) := by
  rw [Completes, map_bind]
  exact follows.bind completes

/-- What is found behind the first lexemes is found from the beginning. -/
theorem Agrees.movesOrStays {before : Walker} {between : Cursor} {lexemes : List Lexeme}
    {result : Outcome α} {answer : Option (Except Diagnostic (Option α × Walker))}
    (reads : before.cursor.Reads lexemes between) (nonempty : lexemes ≠ [])
    (agrees : Agrees (before.forward lexemes.length) (result.map some) answer) :
    MovesOrStays before result answer := by
  cases result with
  | decline => cases agrees
  | fail diagnostic =>
    cases agrees
    exact .fail diagnostic
  | accept value after =>
    cases agrees with
    | accept more =>
      rw [Walker.cursor_forward reads] at more
      rw [Walker.forward_forward, ← List.length_append]
      exact .accept (reads.trans more) (List.append_ne_nil_of_left_ne_nil nonempty _)

theorem Completes.after_modes {next : Modes → Walk (Option β)} {parser : Parser β}
    (completes : Completes rounds bound levels modes (next modes) parser) :
    Completes rounds bound levels modes (Walk.modes >>= next) parser :=
  Follows.after_modes completes

/-- What finds something goes on from there, and what finds nothing goes on from where it
began. -/
theorem MovesOrStays.either {before : Walker} {first : Walk (Option α)}
    {next : Option α → Walk β} {parser : Parser α} {nextParser : α → Parser β}
    {otherwise : Parser β}
    (moves : MovesOrStays before (parser before.cursor) (first.outcome rounds before))
    (found : ∀ value count, 0 < count → before.position + count ≤ before.lexemes.length →
      parser before.cursor = .accept value (before.forward count).cursor →
      Agrees (before.forward count) (nextParser value (before.forward count).cursor)
        ((next (some value)).outcome rounds (before.forward count)))
    (nothing : Agrees before (otherwise before.cursor) ((next none).outcome rounds before)) :
    Agrees before (Parser.either parser nextParser otherwise before.cursor)
      ((first >>= next).outcome rounds before) := by
  rw [Parser.either]
  generalize parsed : parser before.cursor = result at moves
  generalize walked : first.outcome rounds before = answer at moves
  cases moves with
  | fail diagnostic =>
    rw [outcome_bind_of_error walked]
    exact .fail diagnostic
  | decline =>
    rw [outcome_bind_of_ok walked]
    exact nothing
  | @accept value lexemes after reads nonempty =>
    rw [outcome_bind_of_ok walked]
    specialize found value lexemes.length (List.length_pos_iff.mpr nonempty)
      (Walker.position_add_length_le reads nonempty)
    rw [Walker.cursor_forward reads] at found
    exact (found parsed).trans reads

theorem Tries.either {first : Walk (Option α)} {next : Option α → Walk β} {parser : Parser α}
    {nextParser : α → Parser β} {otherwise : Parser β}
    (tries : Tries rounds bound levels modes first parser)
    (found : ∀ value, Follows rounds bound levels modes (next (some value)) (nextParser value))
    (nothing : Follows rounds bound levels modes (next none) otherwise) :
    Follows rounds bound levels modes (first >>= next)
      (Parser.either parser nextParser otherwise) :=
  fun before stands => (tries before stands).either
    (fun value count _ _ _ => found value (before.forward count) (stands.forward count))
    (nothing before stands)

theorem Tries.either_completes {first : Walk (Option α)} {next : Option α → Walk (Option β)}
    {parser : Parser α} {nextParser : α → Parser β} {otherwise : Parser β}
    (tries : Tries rounds bound levels modes first parser)
    (found : ∀ value, Completes rounds bound levels modes (next (some value)) (nextParser value))
    (nothing : Completes rounds bound levels modes (next none) otherwise) :
    Completes rounds bound levels modes (first >>= next)
      (Parser.either parser nextParser otherwise) := by
  have mapped : some <$> Parser.either parser nextParser otherwise =
      Parser.either parser (fun value => some <$> nextParser value) (some <$> otherwise) := by
    funext cursor
    simp only [map_apply, Parser.either]
    cases parser cursor <;> rfl
  rw [Completes, mapped]
  exact tries.either found nothing

/-- A choice is decided by its first part if that commits. -/
theorem Tries.bind_orElse {first : Walk (Option α)} {next : Option α → Walk β}
    {parser : Parser α} {nextParser : α → Parser β} {otherwise : Parser β}
    (tries : Tries rounds bound levels modes first parser)
    (commits : ∀ value, (nextParser value).Commits)
    (found : ∀ value, Follows rounds bound levels modes (next (some value)) (nextParser value))
    (nothing : Follows rounds bound levels modes (next none) otherwise) :
    Follows rounds bound levels modes (first >>= next) ((parser >>= nextParser) <|> otherwise) := by
  rw [Parser.bind_orElse_eq_either commits]
  exact tries.either found nothing

theorem Tries.bind_orElse_completes {first : Walk (Option α)} {next : Option α → Walk (Option β)}
    {parser : Parser α} {nextParser : α → Parser β} {otherwise : Parser β}
    (tries : Tries rounds bound levels modes first parser)
    (commits : ∀ value, (nextParser value).Commits)
    (found : ∀ value, Completes rounds bound levels modes (next (some value)) (nextParser value))
    (nothing : Completes rounds bound levels modes (next none) otherwise) :
    Completes rounds bound levels modes (first >>= next)
      ((parser >>= nextParser) <|> otherwise) := by
  rw [Parser.bind_orElse_eq_either commits]
  exact tries.either_completes found nothing

/-- Once something has been found there is no way back. -/
theorem MovesOrStays.either_moves {before : Walker} {first : Walk (Option α)}
    {next : Option α → Walk (Option β)} {parser : Parser α} {nextParser : α → Parser β}
    {otherwise : Parser β}
    (moves : MovesOrStays before (parser before.cursor) (first.outcome rounds before))
    (found : ∀ value count, 0 < count → before.position + count ≤ before.lexemes.length →
      Agrees (before.forward count) ((some <$> nextParser value) (before.forward count).cursor)
        ((next (some value)).outcome rounds (before.forward count)))
    (nothing : MovesOrStays before (otherwise before.cursor)
      ((next none).outcome rounds before)) :
    MovesOrStays before (Parser.either parser nextParser otherwise before.cursor)
      ((first >>= next).outcome rounds before) := by
  rw [Parser.either]
  generalize parsed : parser before.cursor = result at moves
  generalize walked : first.outcome rounds before = answer at moves
  cases moves with
  | fail diagnostic =>
    rw [outcome_bind_of_error walked]
    exact .fail diagnostic
  | decline =>
    rw [outcome_bind_of_ok walked]
    exact nothing
  | @accept value lexemes after reads nonempty =>
    rw [outcome_bind_of_ok walked]
    specialize found value lexemes.length (List.length_pos_iff.mpr nonempty)
      (Walker.position_add_length_le reads nonempty)
    rw [Walker.cursor_forward reads, map_apply] at found
    exact found.movesOrStays reads nonempty

theorem Tries.either_tries {first : Walk (Option α)} {next : Option α → Walk (Option β)}
    {parser : Parser α} {nextParser : α → Parser β} {otherwise : Parser β}
    (tries : Tries rounds bound levels modes first parser)
    (found : ∀ value, Completes rounds bound levels modes (next (some value)) (nextParser value))
    (nothing : Tries rounds bound levels modes (next none) otherwise) :
    Tries rounds bound levels modes (first >>= next)
      (Parser.either parser nextParser otherwise) :=
  fun before stands => (tries before stands).either_moves
    (fun value count _ _ => found value (before.forward count) (stands.forward count))
    (nothing before stands)

theorem tries_nothing :
    Tries rounds bound levels modes (pure none : Walk (Option α)) Parser.decline :=
  fun _ _ => .decline

theorem Tries.bind {first : Walk (Option α)} {next : Option α → Walk (Option β)}
    {parser : Parser α} {nextParser : α → Parser β}
    (tries : Tries rounds bound levels modes first parser)
    (found : ∀ value, Completes rounds bound levels modes (next (some value)) (nextParser value))
    (nothing : next none = pure none) :
    Tries rounds bound levels modes (first >>= next) (parser >>= nextParser) :=
  tries.either_tries found (nothing ▸ tries_nothing)

/-- Behind what has been found there are fewer lexemes. -/
theorem Tries.bind_further {first : Walk (Option α)} {next : Option α → Walk (Option β)}
    {parser : Parser α} {nextParser : α → Parser β}
    (tries : Tries rounds (bound + 1) levels modes first parser)
    (found : ∀ value, Completes rounds bound levels modes (next (some value)) (nextParser value))
    (nothing : next none = pure none) :
    Tries rounds (bound + 1) levels modes (first >>= next) (parser >>= nextParser) := by
  intro before stands
  have stays : Tries rounds (bound + 1) levels modes (next none) Parser.decline :=
    nothing ▸ tries_nothing
  have moves := (tries before stands).either_moves (fun value count positive fits =>
    found value (before.forward count) (stands.further positive fits)) (stays before stands)
  exact moves

/-- A look at what comes next is no part of what is found. -/
theorem Tries.after_here {next : Span → Walk (Option β)} {nextParser : Span → Parser β}
    (tries : ∀ span, Tries rounds bound levels modes (next span) (nextParser span)) :
    Tries rounds bound levels modes (here >>= next) (Parser.here >>= nextParser) := by
  intro before stands
  have looked : here.outcome rounds before = some (.ok (before.here, before)) := rfl
  rw [outcome_bind_of_ok looked, Parser.here_bind_apply, Walker.cursor_span]
  exact tries before.here before stands

theorem Tries.orElse {first second : Walk (Option α)} {parser other : Parser α}
    (firstTries : Tries rounds bound levels modes first parser)
    (secondTries : Tries rounds bound levels modes second other) :
    Tries rounds bound levels modes (first.orElse second) (parser <|> other) :=
  firstTries.either_tries completes_pure secondTries

theorem Tries.orFail {walk : Walk (Option α)} {parser : Parser α}
    (tries : Tries rounds bound levels modes walk parser) (diagnose : Span → Diagnostic) :
    Follows rounds bound levels modes (walk.orFail diagnose) (parser.orFail diagnose) :=
  tries.either follows_pure (follows_failHere diagnose)

/-- Finding nothing is an answer too. -/
theorem Tries.optional {walk : Walk (Option α)} {parser : Parser α}
    (tries : Tries rounds bound levels modes walk parser) :
    Follows rounds bound levels modes walk (Parser.optional parser) := by
  have follows := tries.either (fun value => follows_pure (some value)) (follows_pure none)
  rwa [← Parser.optional_bind_eq_either, bind_pure, bind_pure] at follows

/-! ## Single lexemes -/

theorem outcome_acceptMap (read : Lexeme → Option α) (before : Walker) :
    (acceptMap read).outcome rounds before = some (.ok (match before.next?.bind read with
      | none => (none, before)
      | some value => (some value, before.forward 1))) := by
  have looked : (get : Walk Walker).outcome rounds before = some (.ok (before, before)) := rfl
  rw [acceptMap, outcome_bind_of_ok looked]
  cases next : before.next? with
  | none => rfl
  | some lexeme =>
    have moved : advance.outcome rounds before = some (.ok ((), before.forward 1)) := by
      change some (Except.ok ((), if before.next?.isSome then _ else _)) = _
      rw [next]
      rfl
    cases found : read lexeme with
    | none => simp only [Option.bind_some, found, outcome_pure]
    | some value => simp only [Option.bind_some, found, outcome_bind_of_ok moved, outcome_pure]

theorem acceptMap_ne_fail {read : Lexeme → Option α} {cursor : Cursor} {diagnostic : Diagnostic} :
    (Parser.acceptMap read) cursor ≠ .fail diagnostic := by
  intro failed
  rcases cursor with ⟨_ | ⟨lexeme, rest⟩, previous, finish⟩
  · cases failed
  · rw [Parser.acceptMap] at failed
    dsimp only at failed
    cases found : read lexeme with
    | none =>
      rw [found] at failed
      cases failed
    | some value =>
      rw [found] at failed
      cases failed

theorem tries_acceptMap (read : Lexeme → Option α) :
    Tries rounds bound levels modes (acceptMap read) (Parser.acceptMap read) := by
  intro before _
  rw [outcome_acceptMap, Walker.next?_eq_head?]
  cases parsed : (Parser.acceptMap read) before.cursor with
  | fail diagnostic => exact absurd parsed acceptMap_ne_fail
  | decline =>
    have nothing : before.cursor.rest.head?.bind read = none :=
      Option.bind_eq_none_iff.mpr (Parser.acceptMap_eq_decline_iff.mp parsed)
    rw [nothing]
    exact .decline
  | accept value after =>
    obtain ⟨lexeme, found, reads⟩ := Parser.acceptMap_eq_accept_iff.mp parsed
    have next : before.cursor.rest.head?.bind read = some value := by
      rw [reads.rest]
      exact found
    rw [next]
    exact .accept reads (List.cons_ne_nil _ _)

theorem tries_accept (kind : TokenKind) :
    Tries rounds bound levels modes (accept kind) (Parser.accept kind) :=
  tries_acceptMap _

theorem tries_keyword (word : String) :
    Tries rounds bound levels modes (keyword word) (Parser.keyword word) :=
  tries_acceptMap _

theorem tries_contextual (word : String) :
    Tries rounds bound levels modes (contextual word) (Parser.contextual word) :=
  tries_acceptMap _

theorem follows_expect (kind : TokenKind) :
    Follows rounds bound levels modes (expect kind) (Parser.expect kind) :=
  (tries_accept kind).orFail _

/-! ## Loops -/

theorem outcome_allowance_bind (next : Nat → Walk α) (before : Walker) :
    (allowance >>= next).outcome rounds before = (next rounds).outcome rounds before :=
  rfl

/-- A loop takes a round for every item and one for the end. -/
theorem agrees_manyWithin {item : Walk (Option α)} {parser : Parser α}
    (progresses : parser.Progresses) (tries : Tries rounds bound levels modes item parser)
    {before : Walker} (stands : Stands rounds bound levels modes before) {given : Nat}
    (enough : before.remaining < given) :
    Agrees before ((Parser.many parser) before.cursor)
      ((manyWithin item given).outcome rounds before) := by
  induction given generalizing before with
  | zero => exact absurd enough (Nat.not_lt_zero _)
  | succ given inductionHypothesis =>
    rw [Parser.many_eq_either progresses, manyWithin]
    apply (tries before stands).either
    · intro value count positive fits _
      have fewer := Walker.forward_remaining_lt positive fits enough
      exact (inductionHypothesis (stands.forward count) fewer).bind fun values _ =>
        .accept (Cursor.reads_nil_iff.mpr rfl)
    · exact follows_pure [] before stands

theorem follows_many {item : Walk (Option α)} {parser : Parser α}
    (progresses : parser.Progresses) (tries : Tries rounds bound levels modes item parser) :
    Follows rounds bound levels modes (many item) (Parser.many parser) :=
  fun _ stands => agrees_manyWithin progresses tries stands stands.inRounds

theorem agrees_listedWithin {item : Walk (Option α)} {separator : Walk (Option β)}
    {parser : Parser α} {separatorParser : Parser β}
    (progresses : (parser <* separatorParser).Progresses)
    (tries : Tries rounds bound levels modes item parser)
    (triesSeparator : Tries rounds bound levels modes separator separatorParser)
    {before : Walker} (stands : Stands rounds bound levels modes before) {given : Nat}
    (enough : before.remaining < given) :
    Agrees before ((Parser.sepEndBy parser separatorParser) before.cursor)
      ((listedWithin item separator given).outcome rounds before) := by
  induction given generalizing before with
  | zero => exact absurd enough (Nat.not_lt_zero _)
  | succ given inductionHypothesis =>
    rw [Parser.sepEndBy_eq_either progresses, listedWithin]
    apply (tries before stands).either
    · intro value count positive fits _
      have behind := stands.forward count
      have fewerBehind := Walker.forward_remaining_lt positive fits enough
      apply (triesSeparator (before.forward count) behind).either
      · intro _ more _ _ _
        have fewer :=
          Nat.lt_of_le_of_lt ((before.forward count).forward_remaining_le more) fewerBehind
        exact (inductionHypothesis (behind.forward more) fewer).bind fun values _ =>
          .accept (Cursor.reads_nil_iff.mpr rfl)
      · exact follows_pure [value] _ behind
    · exact follows_pure [] before stands

theorem follows_listed {item : Walk (Option α)} {separator : Walk (Option β)}
    {parser : Parser α} {separatorParser : Parser β}
    (progresses : (parser <* separatorParser).Progresses)
    (tries : Tries rounds bound levels modes item parser)
    (triesSeparator : Tries rounds bound levels modes separator separatorParser) :
    Follows rounds bound levels modes (listed item separator)
      (Parser.sepEndBy parser separatorParser) :=
  fun _ stands => agrees_listedWithin progresses tries triesSeparator stands stands.inRounds

end Walk

end PatternSyntax
