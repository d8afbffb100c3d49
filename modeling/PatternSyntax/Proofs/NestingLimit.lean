import Mathlib
import PatternSyntax.Parse
import PatternSyntax.Proofs.LevelCost
import PatternSyntax.Proofs.Sources

/-!
# The limit of nested levels

A limit cuts readings off and does nothing else. With fewer levels a parser has the
same outcome as with more, or it fails for want of levels, and where something is
accepted the nesting of the tree alone decides which of the two happens. Levels are
paid for in lexemes, so that as many levels as there are lexemes are always enough.
-/

namespace PatternSyntax

/-! ## Cut outcomes -/

/-- What becomes of an outcome when there are fewer levels: it stays the same, or
there is a failure for want of levels instead. An accepted value stays exactly if it
fits, and a decline always stays. -/
inductive Outcome.CutsTo {α : Type} (fits : α → Prop) : Outcome α → Outcome α → Prop
  | accept {value : α} {after : Cursor} (fit : fits value) :
      CutsTo fits (.accept value after) (.accept value after)
  | decline : CutsTo fits .decline .decline
  | fail {diagnostic : Diagnostic} : CutsTo fits (.fail diagnostic) (.fail diagnostic)
  | tooDeep {roomy : Outcome α} {span : Span} (committed : roomy ≠ .decline)
      (deep : ∀ value after, roomy = .accept value after → ¬fits value) :
      CutsTo fits roomy (.fail (.ofFault .tooDeep span))

namespace Outcome

/-- Read on with what was accepted. -/
def andThen {α β : Type} (outcome : Outcome α) (next : α → Parser β) : Outcome β :=
  match outcome with
  | .accept value after => next value after
  | .decline => .decline
  | .fail diagnostic => .fail diagnostic

/-- Take the second outcome where the first one declines. -/
def orElse {α : Type} (first second : Outcome α) : Outcome α :=
  match first with
  | .accept value after => .accept value after
  | .decline => second
  | .fail diagnostic => .fail diagnostic

variable {α β : Type} {fits : α → Prop} {fitsResult : β → Prop} {roomy limited : Outcome α}

/-- An outcome that needs no levels is its own cut. -/
theorem CutsTo.refl {outcome : Outcome α}
    (all : ∀ value after, outcome = .accept value after → fits value) :
    outcome.CutsTo fits outcome := by
  cases outcome with
  | accept value after => exact .accept (all value after rfl)
  | decline => exact .decline
  | fail diagnostic => exact .fail

/-- Going on after an outcome for which levels were needed. What is made of an
accepted value fits only if the value does. -/
theorem CutsTo.andThen (cut : roomy.CutsTo fits limited) {roomyNext limitedNext : α → Parser β}
    (commits : ∀ value after, ¬fits value → roomyNext value after ≠ .decline)
    (next : ∀ value after, roomy = .accept value after → fits value →
      (roomyNext value after).CutsTo fitsResult (limitedNext value after))
    (inherited : ∀ value after result final, roomy = .accept value after →
      roomyNext value after = .accept result final → fitsResult result → fits value) :
    (roomy.andThen roomyNext).CutsTo fitsResult (limited.andThen limitedNext) := by
  cases cut with
  | @accept value after fit => exact next value after rfl fit
  | decline => exact .decline
  | fail => exact .fail
  | tooDeep committed deep =>
    cases roomy with
    | accept value after =>
      exact .tooDeep (commits value after (deep value after rfl)) fun result final accepted fit =>
        deep value after rfl (inherited value after result final rfl accepted fit)
    | decline => exact absurd rfl committed
    | fail diagnostic => exact .tooDeep nofun nofun

/-- Another outcome stands in for one that declines, with more levels and with fewer
alike. -/
theorem CutsTo.orElse (cut : roomy.CutsTo fits limited) {roomySecond limitedSecond : Outcome α}
    (second : roomy = .decline → roomySecond.CutsTo fits limitedSecond) :
    (roomy.orElse roomySecond).CutsTo fits (limited.orElse limitedSecond) := by
  cases cut with
  | accept fit => exact .accept fit
  | decline => exact second rfl
  | fail => exact .fail
  | tooDeep committed deep =>
    cases roomy with
    | accept value after => exact .tooDeep committed deep
    | decline => exact absurd rfl committed
    | fail diagnostic => exact .tooDeep committed deep

end Outcome

namespace Parser

variable {α β : Type} {fits : α → Prop} {fitsResult : β → Prop} {roomy limited : Parser α}

/-- The second parser is the first one with fewer levels. -/
def CutsTo (fits : α → Prop) (roomy limited : Parser α) : Prop :=
  ∀ cursor, (roomy cursor).CutsTo fits (limited cursor)

theorem cutsTo_pure {value : α} (fit : fits value) : CutsTo fits (pure value) (pure value) :=
  fun _ => .accept fit

theorem cutsTo_fail (diagnostic : Diagnostic) : CutsTo fits (fail diagnostic) (fail diagnostic) :=
  fun _ => .fail

theorem CutsTo.refl {parser : Parser α}
    (all : ∀ cursor value after, parser cursor = .accept value after → fits value) :
    CutsTo fits parser parser :=
  fun cursor => .refl (all cursor)

/-- Going on with a value that is read without levels. -/
theorem CutsTo.bind_right {first : Parser β} {roomyNext limitedNext : β → Parser α}
    (next : ∀ value, CutsTo fits (roomyNext value) (limitedNext value)) :
    CutsTo fits (first >>= roomyNext) (first >>= limitedNext) := by
  intro cursor
  simp only [bind_apply]
  cases first cursor with
  | accept value after => exact next value after
  | decline => exact .decline
  | fail diagnostic => exact .fail

theorem CutsTo.bind {roomyNext limitedNext : α → Parser β} (first : CutsTo fits roomy limited)
    (commits : ∀ value, ¬fits value → (roomyNext value).Commits)
    (next : ∀ value, fits value → CutsTo fitsResult (roomyNext value) (limitedNext value))
    (inherited : ∀ value cursor result after, roomyNext value cursor = .accept result after →
      fitsResult result → fits value) :
    CutsTo fitsResult (roomy >>= roomyNext) (limited >>= limitedNext) :=
  fun cursor => (first cursor).andThen (fun value after exceeds => commits value exceeds after)
    (fun value after _ fit => next value fit after)
    fun value after result final _ => inherited value after result final

/-- Going on in the same way with a value for which levels were needed. What is made
of it fits exactly if it fits itself. -/
theorem CutsTo.bind_left {next : α → Parser β} (first : CutsTo fits roomy limited)
    (commits : ∀ value, (next value).Commits)
    (same : ∀ value cursor result after, next value cursor = .accept result after →
      (fitsResult result ↔ fits value)) :
    CutsTo fitsResult (roomy >>= next) (limited >>= next) :=
  first.bind (fun value _ => commits value)
    (fun value fit => .refl fun cursor result after accepted =>
      (same value cursor result after accepted).mpr fit)
    fun value cursor result after accepted => (same value cursor result after accepted).mp

theorem CutsTo.orElse {roomySecond limitedSecond : Parser α} (first : CutsTo fits roomy limited)
    (second : ∀ cursor, roomy cursor = .decline →
      (roomySecond cursor).CutsTo fits (limitedSecond cursor)) :
    CutsTo fits (roomy <|> roomySecond) (limited <|> limitedSecond) :=
  fun cursor => (first cursor).orElse (second cursor)

theorem CutsTo.orFail (cuts : CutsTo fits roomy limited) (diagnose : Span → Diagnostic) :
    CutsTo fits (roomy.orFail diagnose) (limited.orFail diagnose) :=
  cuts.orElse fun _ _ => .fail

theorem CutsTo.progresses (cuts : CutsTo fits roomy limited) (progresses : roomy.Progresses) :
    limited.Progresses := by
  intro cursor value after accepted
  have cut := cuts cursor
  rw [accepted] at cut
  generalize outcome : roomy cursor = roomyOutcome at cut
  cases cut with
  | accept fit => exact progresses _ _ _ outcome

theorem CutsTo.many (cuts : CutsTo fits roomy limited) (progresses : roomy.Progresses) :
    CutsTo (fun values => ∀ value ∈ values, fits value) (many roomy) (many limited) := by
  intro cursor
  induction cursor using progresses.induction with
  | step cursor inductionHypothesis =>
    rw [many_eq_choice progresses, many_eq_choice (cuts.progresses progresses)]
    refine Outcome.CutsTo.orElse (Outcome.CutsTo.andThen (cuts cursor) ?_ ?_ ?_) fun _ => .accept nofun
    · exact fun value after _ => (commits_many progresses).bind (fun _ => commits_pure _) after
    · intro value after accepted fit
      have rest := inductionHypothesis value after accepted
      refine rest.andThen (fun values final _ => commits_pure _ final) ?_ ?_
      · exact fun values final _ fits => .accept (List.forall_mem_cons.mpr ⟨fit, fits⟩)
      · intro values final result last _ accepted fits
        obtain ⟨rfl, -⟩ := pure_eq_accept_iff.mp accepted
        exact (List.forall_mem_cons.mp fits).2
    · intro value after result final _ accepted fits
      obtain ⟨values, last, -, accepted⟩ := bind_eq_accept_iff.mp accepted
      obtain ⟨rfl, -⟩ := pure_eq_accept_iff.mp accepted
      exact (List.forall_mem_cons.mp fits).1

end Parser

/-! ## Cut expressions -/

namespace Pattern

/-- The nested levels within the pattern are no more than the given ones. -/
def Fits (levels : Nat) (pattern : Pattern) : Prop :=
  pattern.nesting ≤ levels

theorem greatestNesting_le_iff {levels : Nat} {patterns : List Pattern} :
    greatestNesting patterns ≤ levels ↔ ∀ pattern ∈ patterns, pattern.Fits levels := by
  induction patterns with
  | nil => simp [greatestNesting]
  | cons first more inductionHypothesis =>
    rw [greatestNesting, Nat.max_le, inductionHypothesis, List.forall_mem_cons, Fits]

theorem alternationOf_fits_iff {levels : Nat} {start : Span} {first : Pattern} {more : List Pattern} :
    (alternationOf start first more).Fits levels ↔
      first.Fits levels ∧ ∀ pattern ∈ more, pattern.Fits levels := by
  rw [Fits, alternationOf_nesting, greatestNesting_le_iff, List.forall_mem_cons]

theorem intersectionOf_fits_iff {levels : Nat} {span : Span} {first : Pattern}
    {more : List Pattern} : (intersectionOf span first more).Fits levels ↔
      first.Fits levels ∧ ∀ pattern ∈ more, pattern.Fits levels := by
  rw [Fits, intersectionOf_nesting, greatestNesting_le_iff, List.forall_mem_cons]

theorem sequenceOf_fits_iff {levels : Nat} {first : Pattern} {more : List Pattern} :
    (sequenceOf first more).Fits levels ↔
      first.Fits levels ∧ ∀ pattern ∈ more, pattern.Fits levels := by
  rw [Fits, sequenceOf_nesting, greatestNesting_le_iff, List.forall_mem_cons]

end Pattern

namespace Grammar

open PatternSyntax.Parser

/-- An atom by itself takes no level. -/
theorem SpellsAtom.nesting_eq_zero {unicode : Bool} {pattern : Pattern} {lexemes : List Lexeme}
    (spells : SpellsAtom unicode pattern lexemes) : pattern.nesting = 0 := by
  cases spells <;> rfl

/-! ### Operators -/

section Operators

variable {levels : Nat} {roomy limited : Parser Pattern}

/-- A first operand and more of them, which are put together by a function that
looks at all of them. -/
theorem cutsTo_operands {roomyItem limitedItem : Parser Pattern}
    {combine : Pattern → List Pattern → Parser Pattern}
    (first : CutsTo (Pattern.Fits levels) roomy limited)
    (items : CutsTo (Pattern.Fits levels) roomyItem limitedItem)
    (progresses : roomyItem.Progresses) (commits : ∀ first more, (combine first more).Commits)
    (combined : ∀ first more cursor result after, combine first more cursor = .accept result after →
      (result.Fits levels ↔ first.Fits levels ∧ ∀ pattern ∈ more, pattern.Fits levels)) :
    CutsTo (Pattern.Fits levels)
      (do let first ← roomy; let more ← many roomyItem; combine first more)
      (do let first ← limited; let more ← many limitedItem; combine first more) := by
  refine first.bind (fun _ _ => (commits_many progresses).bind fun _ => commits _ _) ?_ ?_
  · intro first fit
    refine (items.many progresses).bind_left (fun _ => commits _ _)
      fun more cursor result after accepted => ?_
    rw [combined _ _ _ _ _ accepted, and_iff_right fit]
  · intro first cursor result after accepted fit
    obtain ⟨more, _, -, accepted⟩ := bind_eq_accept_iff.mp accepted
    exact ((combined _ _ _ _ _ accepted).mp fit).1

variable (cuts : CutsTo (Pattern.Fits levels) roomy limited)

include cuts

theorem cutsTo_nextAlternative :
    CutsTo (Pattern.Fits levels) (nextAlternative roomy) (nextAlternative limited) :=
  .bind_right fun _ => cuts.orElse fun _ _ => .fail

theorem cutsTo_nextOperand :
    CutsTo (Pattern.Fits levels) (nextOperand roomy) (nextOperand limited) :=
  .bind_right fun _ => cuts.orFail _

variable (progresses : roomy.Progresses)

include progresses

theorem cutsTo_sequence : CutsTo (Pattern.Fits levels) (sequence roomy) (sequence limited) := by
  rw [sequence_eq, sequence_eq]
  refine cutsTo_operands cuts cuts progresses (fun _ _ => commits_pure _) ?_
  intro first more cursor result after accepted
  obtain ⟨rfl, -⟩ := pure_eq_accept_iff.mp accepted
  exact Pattern.sequenceOf_fits_iff

theorem cutsTo_intersection :
    CutsTo (Pattern.Fits levels) (intersection roomy) (intersection limited) := by
  rw [intersection_eq_choice, intersection_eq_choice]
  refine .bind_right fun start => cutsTo_operands
    ((cutsTo_nextOperand cuts).orElse fun cursor _ => cuts cursor) (cutsTo_nextOperand cuts)
    (nextOperand_progresses progresses) (fun _ _ => commits_previous.bind fun _ => commits_pure _) ?_
  intro first more cursor result after accepted
  obtain ⟨rfl, -⟩ := pure_eq_accept_iff.mp accepted
  exact Pattern.intersectionOf_fits_iff

theorem cutsTo_alternation :
    CutsTo (Pattern.Fits levels) (alternation roomy) (alternation limited) := by
  rw [alternation, alternation, alternatives_eq_choice, alternatives_eq_choice]
  refine .orElse (.bind_right fun start => cutsTo_operands
    ((cutsTo_nextAlternative cuts).orElse fun cursor _ => cuts cursor) (cutsTo_nextAlternative cuts)
    (nextAlternative_progresses progresses) (fun _ _ => commits_pure _) ?_)
    fun _ _ => .accept (Nat.zero_le _)
  intro first more cursor result after accepted
  obtain ⟨rfl, -⟩ := pure_eq_accept_iff.mp accepted
  exact Pattern.alternationOf_fits_iff

end Operators

/-! ### Terms -/

section Terms

variable {within : Nat} {roomy limited : Parser Pattern}

section Enclosed

variable (cuts : CutsTo (fun body => 1 + body.nesting ≤ within) roomy limited)

include cuts

theorem cutsTo_lookaround :
    CutsTo (Pattern.Fits within) (lookaround roomy) (lookaround limited) := by
  refine .bind_right fun operator => cuts.bind_left (fun _ => commits_pure _) ?_
  intro body cursor result after accepted
  obtain ⟨rfl, -⟩ := pure_eq_accept_iff.mp accepted
  rw [Pattern.Fits, Pattern.nesting]

theorem cutsTo_group : CutsTo (Pattern.Fits within) (group roomy) (group limited) := by
  refine .bind_right fun opening => cuts.bind_left
    (fun _ => (commits_orFail _ _).bind fun _ => commits_pure _) ?_
  intro body cursor result after accepted
  obtain ⟨closing, _, -, accepted⟩ := bind_eq_accept_iff.mp accepted
  obtain ⟨rfl, -⟩ := pure_eq_accept_iff.mp accepted
  rw [Pattern.Fits, Pattern.nesting]

theorem cutsTo_atom (unicode : Bool) :
    CutsTo (Pattern.Fits within) (atom unicode roomy) (atom unicode limited) := by
  refine (cutsTo_group cuts).orElse fun cursor declined => .refl ?_
  intro pattern after accepted
  rcases spells_of_atom (orElse_of_decline declined accepted) with grouped | ⟨_, spells, -⟩
  · rw [declined] at grouped
    cases grouped
  · rw [Pattern.Fits, spells.nesting_eq_zero]
    exact Nat.zero_le _

end Enclosed

theorem cutsTo_bangs {more fewer : Nat} (fewer_le : fewer ≤ more) (start : Span) :
    CutsTo (fun counted => counted.1 ≤ fewer) (bangs more start) (bangs fewer start) := by
  induction fewer generalizing more start with
  | zero =>
    cases more with
    | zero => exact .orElse (.bind_right fun _ => cutsTo_fail _) fun _ _ => .accept (Nat.zero_le _)
    | succ more =>
      refine .orElse (.bind_right fun bang => ?_) fun _ _ => .accept (Nat.zero_le _)
      refine fun cursor => .tooDeep (((commits_bangs _ _).bind fun _ => commits_pure _) cursor) ?_
      intro counted after accepted fit
      obtain ⟨_, _, -, accepted⟩ := bind_eq_accept_iff.mp accepted
      obtain ⟨rfl, -⟩ := pure_eq_accept_iff.mp accepted
      exact Nat.not_succ_le_zero _ fit
  | succ fewer inductionHypothesis =>
    obtain ⟨more, rfl⟩ := Nat.exists_eq_add_one_of_ne_zero (Nat.ne_zero_of_lt fewer_le)
    refine .orElse (.bind_right fun bang => ?_) fun _ _ => .accept (Nat.zero_le _)
    refine (inductionHypothesis (Nat.le_of_succ_le_succ fewer_le) _).bind_left
      (fun _ => commits_pure _) ?_
    intro counted cursor result after accepted
    obtain ⟨rfl, -⟩ := pure_eq_accept_iff.mp accepted
    exact Nat.add_le_add_iff_right

/-- A repetition takes no level of its own. -/
theorem nesting_of_repeated {lazyMode : Bool} {body pattern : Pattern} {before after : Cursor}
    (accepted : repeated lazyMode body before = .accept pattern after) :
    pattern.nesting = body.nesting := by
  obtain ⟨-, ⟨-, -, rfl⟩ | ⟨_, _, _, _, -, -, -, rfl⟩⟩ := spells_of_repeated accepted
  · rfl
  · rw [Pattern.nesting]

end Terms

/-! ### Statements -/

theorem cutsTo_statement {levels : Nat} {roomy limited : Parser Pattern}
    (cuts : CutsTo (Pattern.Fits levels) roomy limited) :
    CutsTo (fun stated => stated.1.nesting ≤ levels) (statement roomy) (statement limited) := by
  have bound : CutsTo (fun stated => stated.1.nesting ≤ levels) (binding roomy) (binding limited) := by
    refine .bind_right fun word => .bind_right fun name => .bind_right fun _ =>
      cuts.bind_left (fun _ => (commits_orFail _ _).bind fun _ => commits_pure _) ?_
    intro body cursor result after accepted
    obtain ⟨stop, _, -, accepted⟩ := bind_eq_accept_iff.mp accepted
    obtain ⟨rfl, -⟩ := pure_eq_accept_iff.mp accepted
    rfl
  refine CutsTo.orElse (.bind_right fun directive => ?_) fun cursor _ =>
    bound.orElse (fun cursor _ => CutsTo.bind_right (fun directive => ?_) cursor) cursor
  · exact cutsTo_pure (Nat.zero_le _)
  · exact cutsTo_pure (Nat.zero_le _)

/-- Putting a statement before something takes one level, and the statement has levels
of its own. -/
theorem nesting_of_underStatement {levels : Nat} {modes : Modes} {stated : Statement × Span}
    {whole : Pattern × Span} {before after : Cursor}
    (accepted : underStatement levels modes stated before = .accept whole after) :
    stated.1.nesting ≤ whole.1.nesting ∧ 1 ≤ whole.1.nesting := by
  cases levels with
  | zero => cases accepted
  | succ levels =>
    obtain ⟨body, _, -, accepted⟩ := bind_eq_accept_iff.mp accepted
    obtain ⟨rfl, -⟩ := pure_eq_accept_iff.mp accepted
    rw [Statement.scope_nesting]
    omega

/-! ### Nested levels -/

/-- With fewer levels a scope is cut. -/
def ScopeCutsTo (more fewer : Nat) : Prop :=
  ∀ modes, CutsTo (fun whole => whole.1.nesting ≤ fewer) (scope more modes) (scope fewer modes)

section Nested

variable {fewer more : Nat} (fewer_le : fewer ≤ more) (modes : Modes)
  (nested : ∀ less < fewer, ∀ many, less ≤ many → ScopeCutsTo many less)

include fewer_le nested

theorem cutsTo_expression_of_nested :
    CutsTo (fun body => 1 + body.nesting ≤ fewer) (expression more modes)
      (expression fewer modes) := by
  cases fewer with
  | zero =>
    have none : expression 0 modes = failHere (.ofFault .tooDeep) := by rw [expression]
    rw [none]
    refine fun cursor => .tooDeep (commits_expression _ _ _) fun body _ _ fit => ?_
    exact Nat.not_succ_le_zero _ (Nat.add_comm _ _ ▸ fit)
  | succ fewer =>
    obtain ⟨more, rfl⟩ := Nat.exists_eq_add_one_of_ne_zero (Nat.ne_zero_of_lt fewer_le)
    rw [expression, expression]
    refine (nested fewer (Nat.lt_succ_self fewer) more (Nat.le_of_succ_le_succ fewer_le)
      modes).bind_left (fun _ => commits_pure _) ?_
    intro whole cursor result after accepted
    obtain ⟨rfl, -⟩ := pure_eq_accept_iff.mp accepted
    rw [Nat.add_comm, Nat.add_le_add_iff_right]

theorem cutsTo_lookaroundOrAtom_of_nested :
    CutsTo (Pattern.Fits fewer) (lookaroundOrAtom more modes) (lookaroundOrAtom fewer modes) := by
  have cuts := cutsTo_expression_of_nested fewer_le modes nested
  exact (cutsTo_lookaround cuts).orElse fun cursor _ => cutsTo_atom cuts modes.unicode cursor

theorem cutsTo_negation_of_nested :
    CutsTo (Pattern.Fits fewer) (negation more modes) (negation fewer modes) := by
  refine .bind_right fun start => (cutsTo_bangs fewer_le start).bind ?_ ?_ ?_
  · -- With too many exclamation marks there is at least one, and then a body has to follow.
    intro counted exceeds
    dsimp only
    rw [if_neg (by omega)]
    exact commits_operandOf.bind fun _ => commits_pure _
  · intro counted counted_le
    have cuts := cutsTo_lookaroundOrAtom_of_nested (Nat.sub_le_sub_right fewer_le counted.1) modes
      fun less below => nested less (Nat.lt_of_lt_of_le below (Nat.sub_le _ _))
    have negated (body : Pattern) (cursor : Cursor) (result : Pattern) (after : Cursor)
        (accepted : (pure (negate counted.2 counted.1 body) : Parser Pattern) cursor =
          .accept result after) :
        result.Fits fewer ↔ body.Fits (fewer - counted.1) := by
      obtain ⟨rfl, -⟩ := pure_eq_accept_iff.mp accepted
      rw [Pattern.Fits, Pattern.Fits, negate_nesting]
      omega
    dsimp only
    split
    · exact cuts.bind_left (fun _ => commits_pure _) negated
    · exact (cuts.orFail _).bind_left (fun _ => commits_pure _) negated
  · intro counted cursor result after accepted fit
    dsimp only at accepted
    split at accepted
    all_goals
      obtain ⟨body, _, -, accepted⟩ := bind_eq_accept_iff.mp accepted
      obtain ⟨rfl, -⟩ := pure_eq_accept_iff.mp accepted
      rw [Pattern.Fits, negate_nesting] at fit
      exact Nat.le_of_add_right_le fit

theorem cutsTo_term_of_nested :
    CutsTo (Pattern.Fits fewer) (term more modes) (term fewer modes) := by
  rw [term_eq, term_eq]
  refine (cutsTo_negation_of_nested fewer_le modes nested).bind_left (commits_repeated _) ?_
  intro body cursor result after accepted
  rw [Pattern.Fits, nesting_of_repeated accepted, Pattern.Fits]

theorem cutsTo_bare_of_nested :
    CutsTo (Pattern.Fits fewer) (bare more modes) (bare fewer modes) :=
  cutsTo_alternation
    (cutsTo_intersection
      (cutsTo_sequence (cutsTo_term_of_nested fewer_le modes nested) (term_progresses more modes))
      (sequence_progresses more modes))
    (intersection_progresses more modes)

theorem cutsTo_underStatement_of_nested {stated : Statement × Span}
    (fits : stated.1.nesting ≤ fewer) :
    CutsTo (fun whole => whole.1.nesting ≤ fewer) (underStatement more modes stated)
      (underStatement fewer modes stated) := by
  cases fewer with
  | zero =>
    refine fun cursor => .tooDeep (commits_underStatement _ _ _ _) ?_
    intro whole after accepted fit
    exact Nat.not_succ_le_zero _ (Nat.le_trans (nesting_of_underStatement accepted).2 fit)
  | succ fewer =>
    obtain ⟨more, rfl⟩ := Nat.exists_eq_add_one_of_ne_zero (Nat.ne_zero_of_lt fewer_le)
    refine (nested fewer (Nat.lt_succ_self fewer) more (Nat.le_of_succ_le_succ fewer_le) _).bind_left
      (fun _ => commits_pure _) ?_
    intro whole cursor result after accepted
    obtain ⟨rfl, -⟩ := pure_eq_accept_iff.mp accepted
    rw [Statement.scope_nesting]
    omega

end Nested

theorem scopeCutsTo {more fewer : Nat} (fewer_le : fewer ≤ more) : ScopeCutsTo more fewer := by
  induction fewer using Nat.strongRecOn generalizing more with
  | ind fewer inductionHypothesis =>
    have nested (less : Nat) (below : less < fewer) (many : Nat) (less_le : less ≤ many) :
        ScopeCutsTo many less := inductionHypothesis less below less_le
    intro modes
    have cuts := cutsTo_bare_of_nested fewer_le modes nested
    rw [scope_eq, scope_eq]
    refine ((cutsTo_statement cuts).bind (fun stated _ => commits_underStatement _ _ stated)
      (fun stated => cutsTo_underStatement_of_nested fewer_le modes nested) ?_).orElse
      fun cursor _ => cuts.bind_left (fun _ => commits_pure _) ?_ cursor
    · intro stated cursor whole after accepted fit
      exact Nat.le_trans (nesting_of_underStatement accepted).1 fit
    · intro body cursor whole after accepted
      obtain ⟨rfl, -⟩ := pure_eq_accept_iff.mp accepted
      rfl

/-- With fewer levels an expression is read as with more, or there is a failure for want
of levels. Which of the two is decided by the nesting of what is read. -/
theorem expression_cutsTo {more fewer : Nat} (fewer_le : fewer ≤ more) (modes : Modes) :
    CutsTo (fun pattern => 1 + pattern.nesting ≤ fewer) (expression more modes)
      (expression fewer modes) :=
  cutsTo_expression_of_nested fewer_le modes fun _ _ _ less_le => scopeCutsTo less_le

end Grammar

/-! ## Sources -/

/-- All that is wrong is a want of levels. -/
def IsTooDeep (result : Except (List Diagnostic) Pattern) : Prop :=
  ∃ span, result = .error [.ofFault .tooDeep span]

section Sources

variable (source : String) (tokens : List Token) (modes : Modes)

theorem readAll_cut {depth deeper : Nat} (depth_le : depth ≤ deeper) (cursor : Cursor) :
    (readAll ⟨modes, depth⟩ cursor = readAll ⟨modes, deeper⟩ cursor ∧
        ∀ pattern, readAll ⟨modes, deeper⟩ cursor = .ok pattern → 1 + pattern.nesting ≤ depth) ∨
      (∃ span, readAll ⟨modes, depth⟩ cursor = .error (.ofFault .tooDeep span)) ∧
        ∀ pattern, readAll ⟨modes, deeper⟩ cursor = .ok pattern → depth < 1 + pattern.nesting := by
  have cut := Grammar.expression_cutsTo depth_le modes cursor
  have accepts {pattern : Pattern} (read : readAll ⟨modes, deeper⟩ cursor = .ok pattern) :
      ∃ after, Grammar.expression deeper modes cursor = .accept pattern after := by
    obtain ⟨after, -, accepted⟩ := expression_accepts_of_readAll read
    exact ⟨after, accepted⟩
  unfold readAll at accepts ⊢
  dsimp only at accepts ⊢
  generalize Grammar.expression deeper modes cursor = roomy at cut accepts ⊢
  generalize Grammar.expression depth modes cursor = limited at cut ⊢
  cases cut with
  | accept fit =>
    refine .inl ⟨rfl, fun pattern read => ?_⟩
    obtain ⟨_, same⟩ := accepts read
    cases same
    exact fit
  | decline => exact .inl ⟨rfl, nofun⟩
  | fail => exact .inl ⟨rfl, nofun⟩
  | tooDeep _ deep =>
    refine .inr ⟨⟨_, rfl⟩, fun pattern read => ?_⟩
    obtain ⟨after, accepted⟩ := accepts read
    exact Nat.lt_of_not_le (deep pattern after accepted)

theorem parseTokens_cut {depth deeper : Nat} (depth_le : depth ≤ deeper) :
    (parseTokens source tokens ⟨modes, depth⟩ = parseTokens source tokens ⟨modes, deeper⟩ ∧
        ∀ pattern, parseTokens source tokens ⟨modes, deeper⟩ = .ok pattern →
          1 + pattern.nesting ≤ depth) ∨
      IsTooDeep (parseTokens source tokens ⟨modes, depth⟩) ∧
        ∀ pattern, parseTokens source tokens ⟨modes, deeper⟩ = .ok pattern →
          depth < 1 + pattern.nesting := by
  unfold parseTokens
  cases tokens.filterMap Diagnostic.ofToken? with
  | cons diagnostic diagnostics => exact .inl ⟨rfl, nofun⟩
  | nil =>
    have cut := readAll_cut modes depth_le (.ofTokens source tokens)
    dsimp only
    generalize readAll ⟨modes, deeper⟩ (.ofTokens source tokens) = roomy at cut ⊢
    rcases cut with ⟨same, fits⟩ | ⟨⟨span, deep⟩, exceeds⟩
    · rw [same]
      refine .inl ⟨rfl, fun pattern read => ?_⟩
      cases roomy with
      | error _ => cases read
      | ok found => cases read; exact fits _ rfl
    · rw [deep]
      refine .inr ⟨⟨span, rfl⟩, fun pattern read => ?_⟩
      cases roomy with
      | error _ => cases read
      | ok found => cases read; exact exceeds _ rfl

/-- As many levels as there are lexemes, and one for the whole, are always enough. -/
theorem fault_ne_tooDeep {depth : Nat} (enough : tokens.length < depth) {errors : List Diagnostic}
    (failed : parseTokens source tokens ⟨modes, depth⟩ = .error errors) :
    ∀ diagnostic ∈ errors, diagnostic.fault ≠ .tooDeep := by
  intro diagnostic member
  unfold parseTokens at failed
  split at failed
  · obtain ⟨_, failed, rfl⟩ : ∃ single, readAll ⟨modes, depth⟩ (.ofTokens source tokens) =
        .error single ∧ errors = [single] := by
      cases read : readAll ⟨modes, depth⟩ (.ofTokens source tokens) with
      | ok _ => rw [read] at failed; cases failed
      | error single => rw [read] at failed; cases failed; exact ⟨single, rfl, rfl⟩
    obtain rfl := List.mem_singleton.mp member
    unfold readAll at failed
    split at failed
    · rename_i _ found
      cases failed
      intro deep
      have few := Grammar.lasts_expression depth modes _ _ found deep
      rw [Cursor.ofTokens, List.length_map] at few
      exact absurd few (Nat.not_le_of_gt enough)
    · cases failed
      nofun
    · split at failed
      · cases failed
      · cases failed
        nofun
  · cases failed
    obtain ⟨token, -, found⟩ := List.mem_filterMap.mp member
    unfold Diagnostic.ofToken? at found
    split at found <;> cases found <;> nofun

/-- The limit of nested levels only cuts readings off. More levels than there are tokens
are never missed. With any other limit a tree that is read with so many levels is read too
if its nesting fits, and there is a want of levels and nothing else if it does not; what
is wrong otherwise stays wrong, unless there is a want of levels before it. And a reading
that comes to an end with some limit comes to the same end with every greater one. -/
theorem limit_only_cuts :
    (∀ roomy, tokens.length < roomy →
      (∀ errors, parseTokens source tokens ⟨modes, roomy⟩ = .error errors →
        ∀ diagnostic ∈ errors, diagnostic.fault ≠ .tooDeep) ∧
      (∀ pattern, parseTokens source tokens ⟨modes, roomy⟩ = .ok pattern → ∀ depth,
        (1 + pattern.nesting ≤ depth → parseTokens source tokens ⟨modes, depth⟩ = .ok pattern) ∧
        (depth < 1 + pattern.nesting → IsTooDeep (parseTokens source tokens ⟨modes, depth⟩))) ∧
      (∀ errors, parseTokens source tokens ⟨modes, roomy⟩ = .error errors → ∀ depth,
        parseTokens source tokens ⟨modes, depth⟩ = .error errors ∨
          IsTooDeep (parseTokens source tokens ⟨modes, depth⟩))) ∧
    ∀ depth deeper, depth ≤ deeper → ¬IsTooDeep (parseTokens source tokens ⟨modes, depth⟩) →
      parseTokens source tokens ⟨modes, deeper⟩ = parseTokens source tokens ⟨modes, depth⟩ := by
  have kept (depth deeper : Nat) (depth_le : depth ≤ deeper)
      (finished : ¬IsTooDeep (parseTokens source tokens ⟨modes, depth⟩)) :
      parseTokens source tokens ⟨modes, deeper⟩ = parseTokens source tokens ⟨modes, depth⟩ := by
    rcases parseTokens_cut source tokens modes depth_le with ⟨same, -⟩ | ⟨deep, -⟩
    · exact same.symm
    · exact absurd deep finished
  refine ⟨fun roomy enough => ⟨fun _ => fault_ne_tooDeep source tokens modes enough, ?_, ?_⟩, kept⟩
  · intro pattern read depth
    have finished : ¬IsTooDeep (parseTokens source tokens ⟨modes, roomy⟩) := by
      rw [read]
      nofun
    rcases Nat.le_total depth roomy with depth_le | roomy_le
    · rcases parseTokens_cut source tokens modes depth_le with ⟨same, fits⟩ | ⟨deep, exceeds⟩
      · exact ⟨fun _ => same.trans read, fun less => absurd (fits pattern read) (Nat.not_le_of_gt less)⟩
      · exact ⟨fun fit => absurd (exceeds pattern read) (Nat.not_lt_of_ge fit), fun _ => deep⟩
    · refine ⟨fun _ => (kept roomy depth roomy_le finished).trans read, fun less => ?_⟩
      rcases parseTokens_cut source tokens modes (Nat.le_refl roomy) with ⟨-, fits⟩ | ⟨deep, -⟩
      · have fit := fits pattern read
        omega
      · exact absurd deep finished
  · intro errors failed depth
    rcases Nat.le_total depth roomy with depth_le | roomy_le
    · rcases parseTokens_cut source tokens modes depth_le with ⟨same, -⟩ | ⟨deep, -⟩
      · exact .inl (same.trans failed)
      · exact .inr deep
    · refine .inl ((kept roomy depth roomy_le ?_).trans failed)
      rintro ⟨span, deep⟩
      obtain rfl : errors = [.ofFault .tooDeep span] := Except.error.inj (failed.symm.trans deep)
      exact fault_ne_tooDeep source tokens modes enough failed _ (List.mem_singleton_self _) rfl

end Sources

/-- Two exclamation marks take three levels together with the whole, and not more. -/
theorem limit_of_double_negation :
    parse "!!a" ⟨.initial, 3⟩ =
        .ok (.negation (.negation (.use "a" ⟨2, 3⟩) ⟨0, 2⟩ ⟨0, 3⟩) ⟨0, 2⟩ ⟨0, 3⟩) ∧
      IsTooDeep (parse "!!a" ⟨.initial, 2⟩) := by
  have read : parse "!!a" ⟨.initial, 4⟩ =
      .ok (.negation (.negation (.use "a" ⟨2, 3⟩) ⟨0, 2⟩ ⟨0, 3⟩) ⟨0, 2⟩ ⟨0, 3⟩) := by cbv
  have few : (tokenize "!!a").length < 4 := by decide_cbv
  have limited := ((limit_only_cuts "!!a" (tokenize "!!a") .initial).1 4 few).2.1 _ read
  exact ⟨(limited 3).1 (by decide), (limited 2).2 (by decide)⟩

end PatternSyntax
