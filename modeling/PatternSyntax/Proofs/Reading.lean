import PatternSyntax.Grammar.Parser

/-!
# What a parser has read

A parser that accepts moves its cursor over some lexemes. Naming these lexemes
turns the outcome of a composed parser into the concatenation of what its parts
have read. For every way to compose parsers this module says exactly when the
result accepts, and when it declines.
-/

namespace PatternSyntax

/-- The span of the last lexeme, or the given one if there is none. -/
def lastSpan (before : Span) : List Lexeme → Span
  | [] => before
  | lexeme :: lexemes => lastSpan lexeme.span lexemes

@[simp]
theorem lastSpan_nil (before : Span) : lastSpan before [] = before :=
  rfl

@[simp]
theorem lastSpan_cons (before : Span) (lexeme : Lexeme) (lexemes : List Lexeme) :
    lastSpan before (lexeme :: lexemes) = lastSpan lexeme.span lexemes :=
  rfl

@[simp]
theorem lastSpan_append (before : Span) (first second : List Lexeme) :
    lastSpan before (first ++ second) = lastSpan (lastSpan before first) second := by
  induction first generalizing before with
  | nil => rfl
  | cons lexeme first inductionHypothesis => exact inductionHypothesis lexeme.span

namespace Cursor

/-- The second cursor is where the first one comes to by reading the lexemes. -/
structure Reads (before : Cursor) (lexemes : List Lexeme) (after : Cursor) : Prop where
  rest : before.rest = lexemes ++ after.rest
  previous : after.previous = lastSpan before.previous lexemes
  finish : after.finish = before.finish

@[simp]
theorem reads_nil_iff {before after : Cursor} : before.Reads [] after ↔ after = before := by
  constructor
  · rintro ⟨rest, previous, finish⟩
    cases before
    cases after
    simp_all
  · rintro rfl
    exact ⟨rfl, rfl, rfl⟩

theorem reads_append_iff {before after : Cursor} {first second : List Lexeme} :
    before.Reads (first ++ second) after ↔
      ∃ between, before.Reads first between ∧ between.Reads second after := by
  constructor
  · rintro ⟨rest, previous, finish⟩
    refine ⟨⟨second ++ after.rest, lastSpan before.previous first, before.finish⟩, ?_, ?_⟩
    · exact ⟨by rw [rest, List.append_assoc], rfl, rfl⟩
    · exact ⟨rfl, by rw [previous, lastSpan_append], finish⟩
  · rintro ⟨between, firstReads, secondReads⟩
    refine ⟨?_, ?_, ?_⟩
    · rw [firstReads.rest, secondReads.rest, List.append_assoc]
    · rw [secondReads.previous, firstReads.previous, lastSpan_append]
    · rw [secondReads.finish, firstReads.finish]

theorem reads_cons_iff {before after : Cursor} {lexeme : Lexeme} {lexemes : List Lexeme} :
    before.Reads (lexeme :: lexemes) after ↔
      ∃ between, before.Reads [lexeme] between ∧ between.Reads lexemes after :=
  @reads_append_iff before after [lexeme] lexemes

theorem reads_concat_iff {before after : Cursor} {front : List Lexeme} {last : Lexeme} :
    before.Reads (front ++ [last]) after ↔ before.rest = front ++ last :: after.rest ∧
      after.previous = last.span ∧ after.finish = before.finish := by
  constructor
  · rintro ⟨rest, previous, finish⟩
    exact ⟨by simpa using rest, by simpa using previous, finish⟩
  · rintro ⟨rest, previous, finish⟩
    exact ⟨by simpa using rest, by simpa using previous, finish⟩

theorem Reads.trans {before between after : Cursor} {first second : List Lexeme}
    (firstReads : before.Reads first between) (secondReads : between.Reads second after) :
    before.Reads (first ++ second) after :=
  reads_append_iff.mpr ⟨between, firstReads, secondReads⟩

/-- The span of a cursor is that of the lexeme which is read first. -/
theorem Reads.span_eq {before after : Cursor} {lexeme : Lexeme} {lexemes : List Lexeme}
    (reads : before.Reads (lexeme :: lexemes) after) : before.span = lexeme.span := by
  simp [Cursor.span, reads.rest]

/-- Where a cursor comes to depends only on what it reads. -/
theorem Reads.unique {before after other : Cursor} {lexemes : List Lexeme}
    (reads : before.Reads lexemes after) (readsOther : before.Reads lexemes other) : other = after := by
  have rest := reads.rest.symm.trans readsOther.rest
  rw [List.append_cancel_left_eq] at rest
  have previous := readsOther.previous.trans reads.previous.symm
  have finish := readsOther.finish.trans reads.finish.symm
  cases other
  cases after
  simp_all

theorem Reads.length_eq {before after : Cursor} {lexemes : List Lexeme}
    (reads : before.Reads lexemes after) :
    before.rest.length = lexemes.length + after.rest.length := by
  rw [reads.rest, List.length_append]

end Cursor

namespace Parser

variable {α β : Type} {cursor after : Cursor}

/-! ## Sequencing and choice -/

@[simp]
theorem pure_eq_accept_iff {value result : α} :
    (pure value : Parser α) cursor = .accept result after ↔ value = result ∧ cursor = after := by
  rw [pure_apply, Outcome.accept.injEq]

theorem pure_ne_decline {value : α} : (pure value : Parser α) cursor ≠ .decline := by
  rw [pure_apply]
  simp

theorem bind_eq_accept_iff {first : Parser α} {next : α → Parser β} {result : β} :
    (first >>= next) cursor = .accept result after ↔
      ∃ value between, first cursor = .accept value between ∧
        next value between = .accept result after := by
  rw [bind_apply]
  cases first cursor <;> simp [and_assoc]

theorem bind_eq_decline_iff {first : Parser α} {next : α → Parser β} :
    (first >>= next) cursor = .decline ↔
      first cursor = .decline ∨
        ∃ value between, first cursor = .accept value between ∧ next value between = .decline := by
  rw [bind_apply]
  cases first cursor <;> simp [and_assoc]

theorem bind_eq_decline {first : Parser α} {next : α → Parser β}
    (declined : first cursor = .decline) : (first >>= next) cursor = .decline :=
  bind_eq_decline_iff.mpr (.inl declined)

theorem seqRight_eq_accept_iff {first : Parser α} {second : Parser β} {result : β} :
    (first *> second) cursor = .accept result after ↔
      ∃ value between, first cursor = .accept value between ∧
        second between = .accept result after :=
  @bind_eq_accept_iff _ _ _ _ first (fun _ => second) result

theorem seqRight_eq_decline {first : Parser α} {second : Parser β}
    (declined : first cursor = .decline) : (first *> second) cursor = .decline :=
  @bind_eq_decline _ _ _ first (fun _ => second) declined

theorem seqLeft_eq_accept_iff {first : Parser α} {second : Parser β} {result : α} :
    (first <* second) cursor = .accept result after ↔
      ∃ between value, first cursor = .accept result between ∧
        second between = .accept value after := by
  have unfolded : (first <* second) = first >>= fun value => second >>= fun _ => pure value := rfl
  rw [unfolded]
  simp only [bind_eq_accept_iff, pure_eq_accept_iff]
  constructor
  · rintro ⟨value, between, firstAccepts, other, final, secondAccepts, rfl, rfl⟩
    exact ⟨between, other, firstAccepts, secondAccepts⟩
  · rintro ⟨between, other, firstAccepts, secondAccepts⟩
    exact ⟨result, between, firstAccepts, other, after, secondAccepts, rfl, rfl⟩

theorem orElse_eq_accept_iff {first second : Parser α} {result : α} :
    (first <|> second) cursor = .accept result after ↔
      first cursor = .accept result after ∨
        first cursor = .decline ∧ second cursor = .accept result after := by
  rw [orElse_apply]
  cases first cursor <;> simp

theorem orElse_of_accept {first second : Parser α} {result : α}
    (accepted : first cursor = .accept result after) :
    (first <|> second) cursor = .accept result after :=
  orElse_eq_accept_iff.mpr (.inl accepted)

theorem orElse_of_decline {first second : Parser α} {result : α}
    (declined : first cursor = .decline) (accepted : second cursor = .accept result after) :
    (first <|> second) cursor = .accept result after :=
  orElse_eq_accept_iff.mpr (.inr ⟨declined, accepted⟩)

theorem orElse_eq_decline_iff {first second : Parser α} :
    (first <|> second) cursor = .decline ↔ first cursor = .decline ∧ second cursor = .decline := by
  rw [orElse_apply]
  cases first cursor <;> simp

@[simp]
theorem fail_ne_accept {diagnostic : Diagnostic} {result : α} :
    (fail diagnostic : Parser α) cursor ≠ .accept result after :=
  nofun

theorem fail_ne_decline {diagnostic : Diagnostic} :
    (fail diagnostic : Parser α) cursor ≠ .decline :=
  nofun

@[simp]
theorem here_eq_accept_iff {span : Span} :
    here cursor = .accept span after ↔ cursor.span = span ∧ cursor = after := by
  simp [here]

@[simp]
theorem previous_eq_accept_iff {span : Span} :
    previous cursor = .accept span after ↔ cursor.previous = span ∧ cursor = after := by
  simp [previous]

@[simp]
theorem here_bind_apply {next : Span → Parser β} :
    (here >>= next) cursor = next cursor.span cursor :=
  rfl

@[simp]
theorem previous_bind_apply {next : Span → Parser β} :
    (previous >>= next) cursor = next cursor.previous cursor :=
  rfl

@[simp]
theorem failHere_ne_accept {diagnose : Span → Diagnostic} {result : α} :
    (failHere diagnose : Parser α) cursor ≠ .accept result after :=
  nofun

theorem failHere_ne_decline {diagnose : Span → Diagnostic} :
    (failHere diagnose : Parser α) cursor ≠ .decline :=
  nofun

@[simp]
theorem orFail_eq_accept_iff {parser : Parser α} {diagnose : Span → Diagnostic} {result : α} :
    (parser.orFail diagnose) cursor = .accept result after ↔
      parser cursor = .accept result after := by
  rw [orFail, orElse_eq_accept_iff]
  simp

theorem orFail_ne_decline {parser : Parser α} {diagnose : Span → Diagnostic} :
    (parser.orFail diagnose) cursor ≠ .decline := by
  rw [orFail, ne_eq, orElse_eq_decline_iff]
  exact fun declined => failHere_ne_decline declined.2

/-! ## Options and repetitions -/

@[simp]
theorem optional_eq_accept_none_iff {parser : Parser α} :
    (optional parser) cursor = .accept none after ↔ parser cursor = .decline ∧ cursor = after := by
  rw [optional]
  cases parser cursor <;> simp

@[simp]
theorem optional_eq_accept_some_iff {parser : Parser α} {value : α} :
    (optional parser) cursor = .accept (some value) after ↔
      parser cursor = .accept value after := by
  rw [optional]
  cases parser cursor <;> simp

theorem optional_ne_decline {parser : Parser α} : (optional parser) cursor ≠ .decline := by
  rw [optional]
  cases parser cursor <;> simp

/-- Every item that the parser accepts takes at least one lexeme. -/
def Progresses (item : Parser α) : Prop :=
  ∀ cursor value after, item cursor = .accept value after →
    after.rest.length < cursor.rest.length

/-- Items read one after the other until there is none. -/
inductive Repeats (item : Parser α) : Cursor → List α → Cursor → Prop
  | stop {cursor : Cursor} (declined : item cursor = .decline) : Repeats item cursor [] cursor
  | step {cursor between after : Cursor} {value : α} {values : List α}
      (accepted : item cursor = .accept value between) (more : Repeats item between values after) :
      Repeats item cursor (value :: values) after

theorem Repeats.declined {item : Parser α} {values : List α}
    (repeats : Repeats item cursor values after) : item after = .decline := by
  induction repeats with
  | stop declined => exact declined
  | step _ _ inductionHypothesis => exact inductionHypothesis

theorem many_eq_accept_iff {item : Parser α} (progresses : item.Progresses) {values : List α} :
    (many item) cursor = .accept values after ↔ Repeats item cursor values after := by
  constructor
  · intro accepted
    induction values generalizing cursor with
    | nil =>
      rw [many] at accepted
      split at accepted
      · rename_i value between first
        rw [if_pos (progresses _ _ _ first)] at accepted
        cases rest : (many item) between <;> simp [rest, Outcome.map] at accepted
      · rename_i declined
        cases accepted
        exact .stop declined
      · cases accepted
    | cons value values inductionHypothesis =>
      rw [many] at accepted
      split at accepted
      · rename_i found between first
        rw [if_pos (progresses _ _ _ first)] at accepted
        cases rest : (many item) between with
        | accept others final =>
          simp only [rest, Outcome.map, Outcome.accept.injEq, List.cons.injEq] at accepted
          rcases accepted with ⟨⟨rfl, rfl⟩, rfl⟩
          exact .step first (inductionHypothesis rest)
        | decline => simp [rest, Outcome.map] at accepted
        | fail diagnostic => simp [rest, Outcome.map] at accepted
      · cases accepted
      · cases accepted
  · intro repeats
    induction repeats with
    | stop declined =>
      rw [many, declined]
    | step accepted more inductionHypothesis =>
      rw [many, accepted]
      dsimp only
      rw [if_pos (progresses _ _ _ accepted), inductionHypothesis]
      rfl

/-- What holds at a cursor whenever it holds after the next item holds everywhere, since every
item takes a lexeme. -/
theorem Progresses.induction {item : Parser α} (progresses : item.Progresses)
    {motive : Cursor → Prop} (step : ∀ cursor : Cursor,
      (∀ value after, item cursor = .accept value after → motive after) → motive cursor)
    (cursor : Cursor) : motive cursor := by
  induction size : cursor.rest.length using Nat.strongRecOn generalizing cursor with
  | ind size inductionHypothesis =>
    exact step cursor fun value after accepted =>
      inductionHypothesis _ (size ▸ progresses _ _ _ accepted) after rfl

theorem many_ne_decline {item : Parser α} (progresses : item.Progresses) :
    (many item) cursor ≠ .decline := by
  induction cursor using progresses.induction with
  | step cursor inductionHypothesis =>
    intro declined
    rw [many] at declined
    split at declined
    · rename_i value between first
      rw [if_pos (progresses _ _ _ first)] at declined
      cases rest : (many item) between with
      | accept others final => simp [rest, Outcome.map] at declined
      | decline => exact inductionHypothesis value between first rest
      | fail diagnostic => simp [rest, Outcome.map] at declined
    · cases declined
    · cases declined

/-! ## Committed parsers -/

/-- A parser that accepts or fails everywhere. -/
def Commits (parser : Parser α) : Prop :=
  ∀ cursor, parser cursor ≠ .decline

theorem commits_pure (value : α) : Commits (pure value) :=
  fun _ => pure_ne_decline

theorem commits_fail (diagnostic : Diagnostic) : Commits (fail diagnostic : Parser α) :=
  fun _ => fail_ne_decline

theorem commits_failHere (diagnose : Span → Diagnostic) :
    Commits (failHere diagnose : Parser α) :=
  fun _ => failHere_ne_decline

theorem commits_here : Commits here :=
  nofun

theorem commits_previous : Commits previous :=
  nofun

theorem commits_orFail (parser : Parser α) (diagnose : Span → Diagnostic) :
    Commits (parser.orFail diagnose) :=
  fun _ => orFail_ne_decline

theorem commits_optional (parser : Parser α) : Commits (optional parser) :=
  fun _ => optional_ne_decline

theorem commits_many {item : Parser α} (progresses : item.Progresses) : Commits (many item) :=
  fun _ => many_ne_decline progresses

theorem commits_expect (kind : TokenKind) : Commits (expect kind) :=
  commits_orFail _ _

theorem Commits.bind {first : Parser α} {next : α → Parser β} (firstCommits : first.Commits)
    (nextCommits : ∀ value, (next value).Commits) : (first >>= next).Commits := by
  intro cursor declined
  rcases bind_eq_decline_iff.mp declined with firstDeclined | ⟨value, between, -, nextDeclined⟩
  · exact firstCommits cursor firstDeclined
  · exact nextCommits value between nextDeclined

theorem Commits.orElse {first second : Parser α} (secondCommits : second.Commits) :
    (first <|> second).Commits :=
  fun cursor declined => secondCommits cursor (orElse_eq_decline_iff.mp declined).2

/-- Nothing is declined any more once the first part has been read. -/
theorem bind_eq_decline_iff_of_commits {first : Parser α} {next : α → Parser β}
    (nextCommits : ∀ value, (next value).Commits) :
    (first >>= next) cursor = .decline ↔ first cursor = .decline := by
  rw [bind_eq_decline_iff]
  constructor
  · rintro (firstDeclined | ⟨value, between, -, nextDeclined⟩)
    · exact firstDeclined
    · exact absurd nextDeclined (nextCommits value between)
  · exact .inl

/-! ## Single lexemes -/

theorem acceptMap_eq_accept_iff {read : Lexeme → Option α} {result : α} :
    (acceptMap read) cursor = .accept result after ↔
      ∃ lexeme, read lexeme = some result ∧ cursor.Reads [lexeme] after := by
  rcases cursor with ⟨rest, before, finish⟩
  rcases after with ⟨afterRest, afterPrevious, afterFinish⟩
  cases rest with
  | nil =>
    simp only [acceptMap, reduceCtorEq, false_iff]
    rintro ⟨lexeme, -, reads⟩
    simpa using reads.rest
  | cons lexeme rest =>
    constructor
    · intro accepted
      simp only [acceptMap] at accepted
      split at accepted
      · rename_i value found
        cases accepted
        exact ⟨lexeme, found, rfl, rfl, rfl⟩
      · cases accepted
    · rintro ⟨other, found, restEq, previousEq, finishEq⟩
      simp only [List.singleton_append, List.cons.injEq, lastSpan_cons,
        lastSpan_nil] at restEq previousEq finishEq
      rcases restEq with ⟨rfl, rfl⟩
      simp [acceptMap, found, previousEq, finishEq]

theorem acceptMap_eq_decline_iff {read : Lexeme → Option α} :
    (acceptMap read) cursor = .decline ↔ ∀ lexeme ∈ cursor.rest.head?, read lexeme = none := by
  rcases cursor with ⟨rest, before, finish⟩
  cases rest with
  | nil => simp [acceptMap]
  | cons lexeme rest =>
    simp only [acceptMap, List.head?_cons, Option.mem_def, Option.some.injEq, forall_eq']
    cases read lexeme <;> simp

theorem accept_eq_accept_iff {kind : TokenKind} {lexeme : Lexeme} :
    (accept kind) cursor = .accept lexeme after ↔
      lexeme.kind = kind ∧ cursor.Reads [lexeme] after := by
  rw [accept, acceptMap_eq_accept_iff]
  constructor
  · rintro ⟨found, read, reads⟩
    split at read
    · rename_i isKind
      cases read
      exact ⟨isKind, reads⟩
    · cases read
  · rintro ⟨isKind, reads⟩
    exact ⟨lexeme, if_pos isKind, reads⟩

theorem accept_eq_decline_iff {kind : TokenKind} :
    (accept kind) cursor = .decline ↔ ∀ lexeme ∈ cursor.rest.head?, lexeme.kind ≠ kind := by
  rw [accept, acceptMap_eq_decline_iff]
  simp

theorem acceptText_eq_accept_iff {kind : TokenKind} {text : String} {lexeme : Lexeme} :
    (acceptText kind text) cursor = .accept lexeme after ↔
      (lexeme.kind = kind ∧ lexeme.text = text) ∧ cursor.Reads [lexeme] after := by
  rw [acceptText, acceptMap_eq_accept_iff]
  constructor
  · rintro ⟨found, read, reads⟩
    split at read
    · rename_i isText
      cases read
      exact ⟨isText, reads⟩
    · cases read
  · rintro ⟨isText, reads⟩
    exact ⟨lexeme, if_pos isText, reads⟩

theorem acceptText_eq_decline_iff {kind : TokenKind} {text : String} :
    (acceptText kind text) cursor = .decline ↔
      ∀ lexeme ∈ cursor.rest.head?, ¬(lexeme.kind = kind ∧ lexeme.text = text) := by
  rw [acceptText, acceptMap_eq_decline_iff]
  simp

/-- A lexeme that may be left out is left out only where it is not there. -/
theorem optional_accept_eq_accept_iff {kind : TokenKind} {found : Option Lexeme} :
    (optional (accept kind)) cursor = .accept found after ↔
      (∀ lexeme ∈ found, lexeme.kind = kind) ∧ cursor.Reads found.toList after ∧
        (found = none → ∀ lexeme ∈ after.rest.head?, lexeme.kind ≠ kind) := by
  cases found with
  | none =>
    rw [optional_eq_accept_none_iff, accept_eq_decline_iff]
    simp only [Option.not_mem_none, false_implies, implies_true, Option.toList_none,
      Cursor.reads_nil_iff, true_implies, true_and]
    constructor
    · rintro ⟨absent, rfl⟩
      exact ⟨rfl, absent⟩
    · rintro ⟨rfl, absent⟩
      exact ⟨absent, rfl⟩
  | some lexeme =>
    rw [optional_eq_accept_some_iff, accept_eq_accept_iff]
    simp

@[simp]
theorem expect_eq_accept_iff {kind : TokenKind} {lexeme : Lexeme} :
    (expect kind) cursor = .accept lexeme after ↔
      lexeme.kind = kind ∧ cursor.Reads [lexeme] after := by
  rw [expect, orFail_eq_accept_iff, accept_eq_accept_iff]

/-! ## Lists of items -/

/-- Lexemes that spell the values one after the other. -/
inductive Each (spells : α → List Lexeme → Prop) : List α → List Lexeme → Prop
  | nil : Each spells [] []
  | cons {value : α} {values : List α} {first rest : List Lexeme} (head : spells value first)
      (tail : Each spells values rest) : Each spells (value :: values) (first ++ rest)

variable {item : Parser α} {spells : α → List Lexeme → Prop}

theorem each_of_forall (value : β → α) (lexemes : β → List Lexeme) {items : List β}
    (all : ∀ item ∈ items, spells (value item) (lexemes item)) :
    Each spells (items.map value) (items.flatMap lexemes) := by
  induction items with
  | nil => exact .nil
  | cons item items inductionHypothesis =>
    obtain ⟨head, tail⟩ := List.forall_mem_cons.mp all
    exact .cons head (inductionHypothesis tail)

/-- What holds of all lexemes holds of those of every item. -/
theorem Each.with_all {holds : Lexeme → Prop} {values : List α} {lexemes : List Lexeme}
    (each : Each spells values lexemes) (all : ∀ lexeme ∈ lexemes, holds lexeme) :
    Each (fun value part => spells value part ∧ ∀ lexeme ∈ part, holds lexeme) values lexemes := by
  induction each with
  | nil => exact .nil
  | cons head tail inductionHypothesis =>
    rw [List.forall_mem_append] at all
    exact .cons ⟨head, all.1⟩ (inductionHypothesis all.2)

/-- What holds of every value that is spelled holds of all values. -/
theorem Each.forall_values {holds : α → Prop} {values : List α} {lexemes : List Lexeme}
    (each : Each spells values lexemes) (implies : ∀ value part, spells value part → holds value) :
    ∀ value ∈ values, holds value := by
  induction each with
  | nil => exact List.forall_mem_nil _
  | cons head _ inductionHypothesis =>
    exact List.forall_mem_cons.mpr ⟨implies _ _ head, inductionHypothesis⟩

/-- What holds of all lexemes of every value holds of all lexemes. -/
theorem Each.forall_lexemes {holds : Lexeme → Prop} {values : List α} {lexemes : List Lexeme}
    (each : Each spells values lexemes)
    (implies : ∀ value part, spells value part → ∀ lexeme ∈ part, holds lexeme) :
    ∀ lexeme ∈ lexemes, holds lexeme := by
  induction each with
  | nil => exact List.forall_mem_nil _
  | cons head _ inductionHypothesis =>
    exact List.forall_mem_append.mpr ⟨implies _ _ head, inductionHypothesis⟩

theorem Each.mono {other : α → List Lexeme → Prop} {values : List α} {lexemes : List Lexeme}
    (each : Each spells values lexemes)
    (implies : ∀ value part, spells value part → other value part) : Each other values lexemes := by
  induction each with
  | nil => exact .nil
  | cons head _ inductionHypothesis => exact .cons (implies _ _ head) inductionHypothesis

theorem progresses_of_reads
    (sound : ∀ cursor value after, item cursor = .accept value after →
      ∃ lexemes, lexemes ≠ [] ∧ cursor.Reads lexemes after) : item.Progresses := by
  intro cursor value after accepted
  obtain ⟨lexemes, nonempty, reads⟩ := sound cursor value after accepted
  have positive := List.length_pos_iff.mpr nonempty
  have total := reads.length_eq
  omega

theorem Repeats.each {values : List α}
    (sound : ∀ cursor value after, item cursor = .accept value after →
      ∃ lexemes, spells value lexemes ∧ cursor.Reads lexemes after)
    (repeats : Repeats item cursor values after) :
    ∃ lexemes, Each spells values lexemes ∧ cursor.Reads lexemes after := by
  induction repeats with
  | stop declined => exact ⟨[], .nil, Cursor.reads_nil_iff.mpr rfl⟩
  | step accepted more inductionHypothesis =>
    obtain ⟨first, head, readsFirst⟩ := sound _ _ _ accepted
    obtain ⟨rest, tail, readsRest⟩ := inductionHypothesis
    exact ⟨first ++ rest, .cons head tail, readsFirst.trans readsRest⟩

/-- Items are read to their end if each of them is, given that what follows it
does not go on with it. -/
theorem Each.repeats (stops : List Lexeme → Prop) {values : List α} {lexemes : List Lexeme}
    (complete : ∀ cursor value lexemes after, spells value lexemes → cursor.Reads lexemes after →
      stops after.rest → item cursor = .accept value after)
    (starts : ∀ value lexemes rest, spells value lexemes → stops (lexemes ++ rest))
    (each : Each spells values lexemes) (reads : cursor.Reads lexemes after)
    (stopped : stops after.rest) (declined : item after = .decline) :
    Repeats item cursor values after := by
  induction each generalizing cursor with
  | nil =>
    rw [Cursor.reads_nil_iff] at reads
    subst reads
    exact .stop declined
  | cons head tail inductionHypothesis =>
    obtain ⟨between, readsFirst, readsRest⟩ := Cursor.reads_append_iff.mp reads
    have stopsFirst : stops between.rest := by
      rw [readsRest.rest]
      cases tail with
      | nil => exact stopped
      | cons next others =>
        rw [List.append_assoc]
        exact starts _ _ _ next
    exact .step (complete _ _ _ _ head readsFirst stopsFirst) (inductionHypothesis readsRest)

end Parser

end PatternSyntax
