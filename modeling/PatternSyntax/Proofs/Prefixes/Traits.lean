import PatternSyntax.Proofs.Choices

/-!
# Lexemes after the last one

A parser never looks further than to the next lexeme. More lexemes after the last one
therefore change nothing before it, and an outcome that does not depend on the end of
the lexemes persists. For three kinds of outcomes this cannot be said: what is accepted
or declined at the end, a failure that is due to the end, and the rejection of a negated
character with which a range may begin.

How a composed parser behaves at the end follows from how its parts do. A few traits are
enough to compute it, and so every production gets its traits from those of its parts.
-/

namespace PatternSyntax

/-! ## Outcomes that persist -/

/-- The kinds of lexemes that can stand for a character in a class. -/
def unitKinds : List TokenKind :=
  [.string, .codePoint, .identifier]

namespace Cursor

/-- The same place with more lexemes at the end. -/
def extend (cursor : Cursor) (extra : List Lexeme) : Cursor :=
  { cursor with rest := cursor.rest ++ extra }

/-- The fault is that the lexemes end: it lies at the end of the source, or it is a bar
that is the last lexeme of all. -/
def Ends (cursor : Cursor) (diagnostic : Diagnostic) : Prop :=
  diagnostic.span = cursor.finish ∨
    diagnostic.fault = .loneBar ∧ diagnostic.span = lastSpan cursor.previous cursor.rest

/-- The fault is an exclamation mark before the last lexeme, which stands for characters.
There may be more to what is negated than this lexeme. -/
def RejectsLast (cursor : Cursor) (diagnostic : Diagnostic) : Prop :=
  diagnostic.fault = .negatedCharacters ∧ ∃ (front : List Lexeme) (bang unit : Lexeme),
    cursor.rest = front ++ [bang, unit] ∧ bang.kind = .bang ∧ unit.kind ∈ unitKinds ∧
      diagnostic.span = bang.span

variable {before after : Cursor} {lexemes extra : List Lexeme} {diagnostic : Diagnostic}

theorem Reads.ends (reads : before.Reads lexemes after) (ends : after.Ends diagnostic) :
    before.Ends diagnostic := by
  rw [Ends, reads.finish, reads.previous] at ends
  rwa [Ends, reads.rest, lastSpan_append]

theorem Reads.rejectsLast (reads : before.Reads lexemes after)
    (rejects : after.RejectsLast diagnostic) : before.RejectsLast diagnostic := by
  obtain ⟨fault, front, bang, unit, rest, isBang, isUnit, span⟩ := rejects
  exact ⟨fault, lexemes ++ front, bang, unit, by rw [reads.rest, rest, List.append_assoc],
    isBang, isUnit, span⟩

theorem Reads.rest_eq_nil (reads : before.Reads lexemes after) (atEnd : before.rest = []) :
    after.rest = [] :=
  (List.append_eq_nil_iff.mp (reads.rest.symm.trans atEnd)).2

theorem Reads.extend (reads : before.Reads lexemes after) :
    (before.extend extra).Reads lexemes (after.extend extra) where
  rest := by simp only [Cursor.extend, reads.rest, List.append_assoc]
  previous := reads.previous
  finish := reads.finish

theorem extend_span (inside : before.rest ≠ []) : (before.extend extra).span = before.span := by
  obtain ⟨lexeme, rest, cons⟩ := List.exists_cons_of_ne_nil inside
  simp only [span, extend, cons, List.cons_append]

end Cursor

/-- What becomes of an outcome when there are more lexemes. -/
inductive Outcome.Persists {α : Type} (extra : List Lexeme) (cursor : Cursor) :
    Outcome α → Outcome α → Prop
  | accept {value : α} {lexemes : List Lexeme} {after : Cursor}
      (reads : cursor.Reads lexemes after) :
      Persists extra cursor (.accept value after) (.accept value (after.extend extra))
  | acceptAtEnd {value : α} {lexemes : List Lexeme} {after : Cursor} {extended : Outcome α}
      (reads : cursor.Reads lexemes after) (atEnd : after.rest = []) :
      Persists extra cursor (.accept value after) extended
  | decline : Persists extra cursor .decline .decline
  | declineAtEnd {extended : Outcome α} (atEnd : cursor.rest = []) :
      Persists extra cursor .decline extended
  | fail {diagnostic : Diagnostic} : Persists extra cursor (.fail diagnostic) (.fail diagnostic)
  | failAtEnd {diagnostic : Diagnostic} {extended : Outcome α} (ends : cursor.Ends diagnostic) :
      Persists extra cursor (.fail diagnostic) extended
  | reject {diagnostic other : Diagnostic} (rejects : cursor.RejectsLast diagnostic) :
      Persists extra cursor (.fail diagnostic) (.fail other)

/-- What comes of reading where there are no lexemes: nothing is read, or the fault is that
there are none. -/
inductive Outcome.Starves {α : Type} (cursor : Cursor) : Outcome α → Prop
  | accept {value : α} : Starves cursor (.accept value cursor)
  | decline : Starves cursor .decline
  | fail {diagnostic : Diagnostic} (span_eq : diagnostic.span = cursor.finish) :
      Starves cursor (.fail diagnostic)

namespace Outcome

variable {α : Type} {extra lexemes : List Lexeme} {cursor after : Cursor}
  {outcome extended : Outcome α}

/-- An outcome that persists does so from the point of view of an earlier place. -/
theorem Persists.of_reads (reads : cursor.Reads lexemes after)
    (persists : outcome.Persists extra after extended)
    (decided : after.rest = [] → outcome ≠ .decline) : outcome.Persists extra cursor extended := by
  cases persists with
  | accept more => exact .accept (reads.trans more)
  | acceptAtEnd more atEnd => exact .acceptAtEnd (reads.trans more) atEnd
  | decline => exact .decline
  | declineAtEnd atEnd => exact absurd rfl (decided atEnd)
  | fail => exact .fail
  | failAtEnd ends => exact .failAtEnd (reads.ends ends)
  | reject rejects => exact .reject (reads.rejectsLast rejects)

/-- What starves persists in every way, since all of it is due to the end. -/
theorem Starves.persists (starves : outcome.Starves cursor) (atEnd : cursor.rest = []) :
    outcome.Persists extra cursor extended := by
  cases starves with
  | accept => exact .acceptAtEnd (Cursor.reads_nil_iff.mpr rfl) atEnd
  | decline => exact .declineAtEnd atEnd
  | fail span_eq => exact .failAtEnd (.inl span_eq)

end Outcome

/-! ## Traits -/

/-- What is known of a parser where the lexemes end. -/
structure Traits where
  /-- Nothing is lost where one part of the parser stops and another one goes on. -/
  joined : Bool
  /-- What is accepted does not depend on the end. -/
  firm : Bool
  /-- Nothing is declined at the end. -/
  decided : Bool
  /-- All that goes wrong at the end is that there are no lexemes. -/
  starves : Bool
  /-- Nothing is accepted at the end. -/
  hungry : Bool
deriving DecidableEq

namespace Traits

/-- Nothing is read. -/
def silent : Traits :=
  ⟨true, true, true, true, false⟩

/-- Nothing is read, and what was read before may be at fault. -/
def verdict : Traits :=
  ⟨true, true, true, false, false⟩

/-- What is read is owed to what was read before, and more lexemes may go on with it. -/
def owed : Traits :=
  ⟨true, false, true, false, false⟩

/-- What is read begins with a lexeme of its own, and its last lexeme is known as such. -/
def closed : Traits :=
  ⟨true, true, false, true, true⟩

/-- What is read begins with a lexeme of its own, and more lexemes may go on with it. -/
def running : Traits :=
  ⟨true, false, false, true, true⟩

/-- What is read has to be there, and its last lexeme is known as such. -/
def required : Traits :=
  ⟨true, true, true, true, true⟩

/-- What is read may be left out, and more lexemes may go on with it. -/
def trailing : Traits :=
  ⟨true, false, true, true, false⟩

/-- Nothing is lost where the first parser stops because of the end: what follows is not
declined, and what is read after it or in its place starves. -/
def joins (first next otherwise : Traits) : Bool :=
  next.decided && (first.firm || next.starves) && (first.decided || otherwise.starves)

/-- The traits of going on in one of two ways. -/
def either (first next otherwise : Traits) : Traits where
  joined := first.joined && next.joined && otherwise.joined && joins first next otherwise
  firm := next.firm && (first.firm || next.hungry) &&
    otherwise.firm && (first.decided || otherwise.hungry)
  decided := next.decided && (first.decided || otherwise.decided)
  starves := first.starves && (first.hungry || next.starves) &&
    (first.decided || otherwise.starves)
  hungry := (first.hungry || next.hungry) && (first.decided || otherwise.hungry)

/-- The traits of reading one thing after another. -/
def seq (first next : Traits) : Traits :=
  either first next closed

/-- The traits of a choice. -/
def choice (first second : Traits) : Traits :=
  either first silent second

/-- The traits of looking at what comes next before reading it. -/
def ahead (traits : Traits) : Traits where
  joined := traits.joined && traits.starves
  firm := traits.firm && traits.hungry
  decided := traits.decided
  starves := true
  hungry := traits.hungry

/-- All of the traits are among the given ones. -/
def Within (traits given : Traits) : Prop :=
  (traits.joined → given.joined) ∧ (traits.firm → given.firm) ∧
    (traits.decided → given.decided) ∧ (traits.starves → given.starves) ∧
      (traits.hungry → given.hungry)

instance (traits given : Traits) : Decidable (traits.Within given) :=
  inferInstanceAs (Decidable (_ ∧ _ ∧ _ ∧ _ ∧ _))

end Traits

namespace Parser

variable {α β : Type} {extra : List Lexeme} {traits first next otherwise : Traits}

/-- The outcome at the cursor persists, and the parser has the traits there. -/
structure HasTraits (extra : List Lexeme) (traits : Traits) (parser : Parser α)
    (cursor : Cursor) : Prop where
  persists : (parser cursor).Persists extra cursor (parser (cursor.extend extra))
  firm : traits.firm → ∀ value after, parser cursor = .accept value after →
    parser (cursor.extend extra) = .accept value (after.extend extra)
  decided : traits.decided → cursor.rest = [] → parser cursor ≠ .decline
  starves : traits.starves → cursor.rest = [] → (parser cursor).Starves cursor
  hungry : traits.hungry → cursor.rest = [] → ∀ value after, parser cursor ≠ .accept value after

/-- The outcome at the cursor persists if the parts of the parser join. -/
def SteadyAt (extra : List Lexeme) (traits : Traits) (parser : Parser α) (cursor : Cursor) : Prop :=
  traits.joined → HasTraits extra traits parser cursor

/-- All outcomes of the parser persist if its parts join. -/
def Steady (extra : List Lexeme) (traits : Traits) (parser : Parser α) : Prop :=
  ∀ cursor, SteadyAt extra traits parser cursor

theorem SteadyAt.weaken {parser : Parser α} {cursor : Cursor} {fewer : Traits}
    (within : fewer.Within traits) (steady : SteadyAt extra traits parser cursor) :
    SteadyAt extra fewer parser cursor := by
  intro joined
  obtain ⟨keepsJoined, keepsFirm, keepsDecided, keepsStarves, keepsHungry⟩ := within
  have has := steady (keepsJoined joined)
  exact {
    persists := has.persists
    firm := fun firm => has.firm (keepsFirm firm)
    decided := fun decided => has.decided (keepsDecided decided)
    starves := fun starves => has.starves (keepsStarves starves)
    hungry := fun hungry => has.hungry (keepsHungry hungry) }

theorem HasTraits.reads {parser : Parser α} {cursor after : Cursor} {value : α}
    (steady : HasTraits extra traits parser cursor) (accepted : parser cursor = .accept value after) :
    ∃ lexemes, cursor.Reads lexemes after ∧
      (after.rest = [] ∨ parser (cursor.extend extra) = .accept value (after.extend extra)) := by
  have persists := steady.persists
  rw [accepted] at persists
  generalize parser (cursor.extend extra) = extended at persists ⊢
  cases persists with
  | accept reads => exact ⟨_, reads, .inr rfl⟩
  | acceptAtEnd reads atEnd => exact ⟨_, reads, .inl atEnd⟩

theorem HasTraits.declined {parser : Parser α} {cursor : Cursor}
    (steady : HasTraits extra traits parser cursor) (declined : parser cursor = .decline) :
    cursor.rest = [] ∨ parser (cursor.extend extra) = .decline := by
  have persists := steady.persists
  rw [declined] at persists
  generalize parser (cursor.extend extra) = extended at persists ⊢
  cases persists with
  | decline => exact .inr rfl
  | declineAtEnd atEnd => exact .inl atEnd

/-! ### Going on in one of two ways -/

section Either

variable {parser : Parser α} {continuation : α → Parser β} {other : Parser β} {cursor : Cursor}
  {after : Cursor} {value : α}

theorem either_of_accept (accepted : parser cursor = .accept value after) :
    parser.either continuation other cursor = continuation value after := by
  simp only [either, accepted]

theorem either_of_decline (declined : parser cursor = .decline) :
    parser.either continuation other cursor = other cursor := by
  simp only [either, declined]

theorem either_of_fail {diagnostic : Diagnostic} (failed : parser cursor = .fail diagnostic) :
    parser.either continuation other cursor = .fail diagnostic := by
  simp only [either, failed]

variable (head : HasTraits extra first parser cursor)
  (tail : ∀ value after, parser cursor = .accept value after →
    HasTraits extra next (continuation value) after)
  (alternative : HasTraits extra otherwise other cursor)

include head tail alternative

theorem either_persists (joins : Traits.joins first next otherwise) :
    (parser.either continuation other cursor).Persists extra cursor
      (parser.either continuation other (cursor.extend extra)) := by
  simp only [Traits.joins, Bool.and_eq_true, Bool.or_eq_true] at joins
  obtain ⟨⟨nextDecided, headStops⟩, headDeclines⟩ := joins
  cases outcome : parser cursor with
  | accept value after =>
    have tail := tail value after outcome
    obtain ⟨lexemes, reads, kept⟩ := head.reads outcome
    rw [either_of_accept outcome]
    have steadily : next.starves ∧ after.rest = [] ∨
        parser (cursor.extend extra) = .accept value (after.extend extra) := by
      rcases headStops with firm | starves
      · exact .inr (head.firm firm value after outcome)
      · exact kept.imp_left fun stopped => ⟨starves, stopped⟩
    refine Outcome.Persists.of_reads reads ?_ (tail.decided nextDecided)
    rcases steadily with ⟨starves, stopped⟩ | kept
    · exact (tail.starves starves stopped).persists stopped
    · rw [either_of_accept kept]
      exact tail.persists
  | decline =>
    rw [either_of_decline outcome]
    rcases head.declined outcome with atEnd | kept
    · rcases headDeclines with decided | starves
      · exact absurd outcome (head.decided decided atEnd)
      · exact (alternative.starves starves atEnd).persists atEnd
    · rw [either_of_decline kept]
      exact alternative.persists
  | fail diagnostic =>
    rw [either_of_fail outcome]
    have persists := head.persists
    rw [outcome] at persists
    generalize extended : parser (cursor.extend extra) = result at persists
    cases persists with
    | fail =>
      rw [either_of_fail extended]
      exact .fail
    | failAtEnd ends => exact .failAtEnd ends
    | reject rejects =>
      rw [either_of_fail extended]
      exact .reject rejects

theorem either_firm (firm : (first.either next otherwise).firm) {result : β} {final : Cursor}
    (accepted : parser.either continuation other cursor = .accept result final) :
    parser.either continuation other (cursor.extend extra) =
      .accept result (final.extend extra) := by
  simp only [Traits.either, Bool.and_eq_true, Bool.or_eq_true] at firm
  obtain ⟨⟨⟨nextFirm, headStops⟩, otherFirm⟩, headDeclines⟩ := firm
  cases outcome : parser cursor with
  | accept value after =>
    rw [either_of_accept outcome] at accepted
    have tail := tail value after outcome
    obtain ⟨lexemes, reads, stopped | kept⟩ := head.reads outcome
    · rcases headStops with headFirm | hungry
      · rw [either_of_accept (head.firm headFirm value after outcome)]
        exact tail.firm nextFirm result final accepted
      · exact absurd accepted (tail.hungry hungry stopped result final)
    · rw [either_of_accept kept]
      exact tail.firm nextFirm result final accepted
  | decline =>
    rw [either_of_decline outcome] at accepted
    rcases head.declined outcome with atEnd | kept
    · rcases headDeclines with decided | hungry
      · exact absurd outcome (head.decided decided atEnd)
      · exact absurd accepted (alternative.hungry hungry atEnd result final)
    · rw [either_of_decline kept]
      exact alternative.firm otherFirm result final accepted
  | fail diagnostic =>
    rw [either_of_fail outcome] at accepted
    cases accepted

theorem either_decided (decided : (first.either next otherwise).decided)
    (atEnd : cursor.rest = []) : parser.either continuation other cursor ≠ .decline := by
  simp only [Traits.either, Bool.and_eq_true, Bool.or_eq_true] at decided
  cases outcome : parser cursor with
  | accept value after =>
    obtain ⟨lexemes, reads, -⟩ := head.reads outcome
    rw [either_of_accept outcome]
    exact (tail value after outcome).decided decided.1 (reads.rest_eq_nil atEnd)
  | decline =>
    rw [either_of_decline outcome]
    rcases decided.2 with headDecided | otherDecided
    · exact absurd outcome (head.decided headDecided atEnd)
    · exact alternative.decided otherDecided atEnd
  | fail diagnostic =>
    rw [either_of_fail outcome]
    nofun

theorem either_starves (starves : (first.either next otherwise).starves)
    (atEnd : cursor.rest = []) : (parser.either continuation other cursor).Starves cursor := by
  simp only [Traits.either, Bool.and_eq_true, Bool.or_eq_true] at starves
  obtain ⟨⟨headStarves, afterHead⟩, withoutHead⟩ := starves
  have starved := head.starves headStarves atEnd
  cases outcome : parser cursor with
  | accept value after =>
    rw [outcome] at starved
    cases starved
    rw [either_of_accept outcome]
    rcases afterHead with hungry | nextStarves
    · exact absurd outcome (head.hungry hungry atEnd value cursor)
    · exact (tail value cursor outcome).starves nextStarves atEnd
  | decline =>
    rw [either_of_decline outcome]
    rcases withoutHead with decided | otherStarves
    · exact absurd outcome (head.decided decided atEnd)
    · exact alternative.starves otherStarves atEnd
  | fail diagnostic =>
    rw [outcome] at starved
    cases starved with
    | fail span_eq =>
      rw [either_of_fail outcome]
      exact .fail span_eq

theorem either_hungry (hungry : (first.either next otherwise).hungry) (atEnd : cursor.rest = [])
    (result : β) (final : Cursor) :
    parser.either continuation other cursor ≠ .accept result final := by
  simp only [Traits.either, Bool.and_eq_true, Bool.or_eq_true] at hungry
  obtain ⟨afterHead, withoutHead⟩ := hungry
  cases outcome : parser cursor with
  | accept value after =>
    obtain ⟨lexemes, reads, -⟩ := head.reads outcome
    rw [either_of_accept outcome]
    rcases afterHead with headHungry | nextHungry
    · exact absurd outcome (head.hungry headHungry atEnd value after)
    · exact (tail value after outcome).hungry nextHungry (reads.rest_eq_nil atEnd) result final
  | decline =>
    rw [either_of_decline outcome]
    rcases withoutHead with decided | otherHungry
    · exact absurd outcome (head.decided decided atEnd)
    · exact alternative.hungry otherHungry atEnd result final
  | fail diagnostic =>
    rw [either_of_fail outcome]
    nofun

omit head tail alternative

/-- What is read after the first parser, or in its place, has to starve wherever the first
parser may have stopped because of the end. -/
theorem SteadyAt.either (head : SteadyAt extra first parser cursor)
    (tail : ∀ value after, parser cursor = .accept value after →
      SteadyAt extra next (continuation value) after)
    (alternative : SteadyAt extra otherwise other cursor) :
    SteadyAt extra (first.either next otherwise) (parser.either continuation other) cursor := by
  intro joined
  simp only [Traits.either, Bool.and_eq_true] at joined
  obtain ⟨⟨⟨headJoined, tailJoined⟩, otherJoined⟩, joins⟩ := joined
  have head := head headJoined
  have tail (value : α) (after : Cursor) (accepted : parser cursor = .accept value after) :=
    tail value after accepted tailJoined
  have alternative := alternative otherJoined
  exact {
    persists := either_persists head tail alternative joins
    firm := fun firm _ _ => either_firm head tail alternative firm
    decided := either_decided head tail alternative
    starves := either_starves head tail alternative
    hungry := either_hungry head tail alternative }

end Either

/-! ### Parts -/

theorem steady_pure (value : α) : Steady extra .silent (pure value) := fun cursor _ => {
  persists := .accept (Cursor.reads_nil_iff.mpr rfl)
  firm := by
    rintro - _ _ ⟨⟩
    rfl
  decided := fun _ _ => nofun
  starves := fun _ _ => .accept
  hungry := nofun }

theorem steady_decline : Steady extra .closed (decline : Parser α) := fun _ _ => {
  persists := .decline
  firm := fun _ => nofun
  decided := nofun
  starves := fun _ _ => .decline
  hungry := fun _ _ => nofun }

theorem steady_fail (diagnostic : Diagnostic) :
    Steady extra .verdict (fail diagnostic : Parser α) := fun _ _ => {
  persists := .fail
  firm := fun _ => nofun
  decided := fun _ _ => nofun
  starves := nofun
  hungry := nofun }

theorem steady_previous : Steady extra .silent previous := fun cursor _ => {
  persists := .accept (Cursor.reads_nil_iff.mpr rfl)
  firm := by
    rintro - _ _ ⟨⟩
    rfl
  decided := fun _ _ => nofun
  starves := fun _ _ => .accept
  hungry := nofun }

theorem steady_acceptMap (read : Lexeme → Option α) : Steady extra .closed (acceptMap read) := by
  rintro ⟨rest, before, finish⟩ -
  cases rest with
  | nil => exact ⟨.declineAtEnd rfl, fun _ => nofun, nofun, fun _ _ => .decline, fun _ _ => nofun⟩
  | cons lexeme rest =>
    have extended : (Cursor.mk (lexeme :: rest) before finish).extend extra =
        ⟨lexeme :: (rest ++ extra), before, finish⟩ := rfl
    cases found : read lexeme with
    | none =>
      have declined (rest : List Lexeme) : acceptMap read ⟨lexeme :: rest, before, finish⟩ = .decline :=
        acceptMap_eq_decline_iff.mpr (by simpa using found)
      refine ⟨?_, ?_, nofun, fun _ => nofun, fun _ => nofun⟩
      all_goals rw [declined]
      · rw [extended, declined]
        exact .decline
      · exact fun _ => nofun
    | some value =>
      have accepted (rest : List Lexeme) : acceptMap read ⟨lexeme :: rest, before, finish⟩ =
          .accept value ⟨rest, lexeme.span, finish⟩ :=
        acceptMap_eq_accept_iff.mpr ⟨lexeme, found, rfl, rfl, rfl⟩
      refine ⟨?_, ?_, nofun, fun _ => nofun, fun _ => nofun⟩
      all_goals rw [accepted, extended, accepted]
      · exact @Outcome.Persists.accept _ _ _ value [lexeme] ⟨rest, lexeme.span, finish⟩ ⟨rfl, rfl, rfl⟩
      · rintro - _ _ ⟨⟩
        rfl

/-- A look at what comes next reads nothing, but at the end it sees something else than
with more lexemes. -/
theorem steady_look {γ : Type} {peek : Parser γ} {continuation : γ → Parser α}
    (look : Cursor → γ) (looks : ∀ cursor, peek cursor = .accept (look cursor) cursor)
    (ahead : ∀ cursor, cursor.rest ≠ [] → look (cursor.extend extra) = look cursor)
    (steady : ∀ seen, Steady extra traits (continuation seen)) :
    Steady extra traits.ahead (peek >>= continuation) := by
  have unfolded (cursor : Cursor) :
      (peek >>= continuation) cursor = continuation (look cursor) cursor := by
    rw [bind_apply, looks]
  intro cursor joined
  obtain ⟨joined, starves⟩ := Bool.and_eq_true_iff.mp joined
  have seen := steady (look cursor) cursor joined
  refine ⟨?_, ?_, ?_, ?_, ?_⟩
  all_goals rw [unfolded]
  · by_cases atEnd : cursor.rest = []
    · exact (seen.starves starves atEnd).persists atEnd
    · rw [unfolded, ahead cursor atEnd]
      exact seen.persists
  · intro firm value after accepted
    obtain ⟨firm, hungry⟩ := Bool.and_eq_true_iff.mp firm
    have inside : cursor.rest ≠ [] := fun atEnd => seen.hungry hungry atEnd value after accepted
    rw [unfolded, ahead cursor inside]
    exact seen.firm firm value after accepted
  · exact seen.decided
  · exact fun _ => seen.starves starves
  · exact seen.hungry

/-! ### Composed parsers -/

theorem Steady.weaken {parser : Parser α} {fewer : Traits} (within : fewer.Within traits)
    (steady : Steady extra traits parser) : Steady extra fewer parser :=
  fun cursor => (steady cursor).weaken within

theorem Steady.either {parser : Parser α} {continuation : α → Parser β} {other : Parser β}
    (head : Steady extra first parser) (tail : ∀ value, Steady extra next (continuation value))
    (alternative : Steady extra otherwise other) :
    Steady extra (first.either next otherwise) (parser.either continuation other) :=
  fun cursor => (head cursor).either (fun value after _ => tail value after) (alternative cursor)

theorem Steady.bind {parser : Parser α} {continuation : α → Parser β}
    (head : Steady extra first parser) (tail : ∀ value, Steady extra next (continuation value)) :
    Steady extra (first.seq next) (parser >>= continuation) :=
  head.either tail steady_decline

theorem Steady.orElse {parser other : Parser α} (head : Steady extra first parser)
    (alternative : Steady extra otherwise other) :
    Steady extra (first.choice otherwise) (parser <|> other) :=
  head.either steady_pure alternative

theorem Steady.optional_bind {parser : Parser α} {continuation : Option α → Parser β}
    (head : Steady extra first parser)
    (tail : ∀ value, Steady extra next (continuation (some value)))
    (alternative : Steady extra otherwise (continuation none)) :
    Steady extra (first.either next otherwise) (optional parser >>= continuation) := by
  rw [optional_bind_eq_either]
  exact head.either tail alternative

theorem Steady.maybe_bind {parser : Parser α} {continuation : Option α → Parser β}
    (head : Steady extra first parser) (tail : ∀ found, Steady extra next (continuation found)) :
    Steady extra (first.either next next) (optional parser >>= continuation) :=
  head.optional_bind (fun value => tail (some value)) (tail none)

theorem Steady.here_bind {continuation : Span → Parser α}
    (tail : ∀ span, Steady extra traits (continuation span)) :
    Steady extra traits.ahead (here >>= continuation) :=
  steady_look Cursor.span (fun _ => rfl) (fun _ => Cursor.extend_span) tail

theorem steady_failHere {diagnose : Span → Diagnostic}
    (placed : ∀ span, (diagnose span).span = span) :
    Steady extra .required (failHere diagnose : Parser α) := fun cursor _ => {
  persists := by
    by_cases atEnd : cursor.rest = []
    · refine .failAtEnd (.inl ?_)
      rw [placed, Cursor.span, atEnd]
    · have same : failHere diagnose (cursor.extend extra) = (failHere diagnose cursor : Outcome α) := by
        rw [failHere, here_bind_apply, here_bind_apply, Cursor.extend_span atEnd]
        rfl
      rw [same]
      exact .fail
  firm := fun _ => nofun
  decided := fun _ _ => nofun
  starves := fun _ atEnd => .fail (by rw [placed, Cursor.span, atEnd])
  hungry := fun _ _ => nofun }

theorem Steady.orFail {parser : Parser α} (head : Steady extra first parser)
    {diagnose : Span → Diagnostic} (placed : ∀ span, (diagnose span).span = span) :
    Steady extra (first.choice .required) (parser.orFail diagnose) :=
  head.orElse (steady_failHere placed)

/-! ### Lists of items -/

theorem Steady.many {item : Parser α} (steady : Steady extra .running item)
    (progresses : item.Progresses) : Steady extra .trailing item.many := by
  intro cursor
  induction cursor using progresses.induction with
  | step cursor inductionHypothesis =>
    have rest (value : α) (after : Cursor) (accepted : item cursor = .accept value after) :
        SteadyAt extra .trailing (item.many >>= fun values => pure (value :: values)) after :=
      ((inductionHypothesis value after accepted).either
        (fun values final _ => steady_pure (value :: values) final) (steady_decline after)).weaken (by decide)
    rw [many_eq_either progresses]
    exact ((steady cursor).either rest (steady_pure [] cursor)).weaken (by decide)

theorem Steady.sepEndBy {item : Parser α} {separator : Parser β} (steady : Steady extra .running item)
    (steadySeparator : Steady extra .closed separator)
    (progresses : (item <* separator).Progresses) :
    Steady extra .trailing (item.sepEndBy separator) := by
  intro cursor
  induction cursor using progresses.induction with
  | step cursor inductionHypothesis =>
    have rest (value : α) (between : Cursor) (accepted : item cursor = .accept value between)
        (found : β) (after : Cursor) (separated : separator between = .accept found after) :
        SteadyAt extra .trailing
          (item.sepEndBy separator >>= fun values => pure (value :: values)) after := by
      have both := seqLeft_eq_accept_iff.mpr ⟨between, found, accepted, separated⟩
      exact ((inductionHypothesis value after both).either
        (fun values final _ => steady_pure (value :: values) final) (steady_decline after)).weaken (by decide)
    have more (value : α) (between : Cursor) (accepted : item cursor = .accept value between) :
        SteadyAt extra .trailing (separator.either
          (fun _ => item.sepEndBy separator >>= fun values => pure (value :: values))
          (pure [value])) between :=
      ((steadySeparator between).either (rest value between accepted) (steady_pure [value] between)).weaken (by decide)
    rw [sepEndBy_eq_either progresses]
    exact ((steady cursor).either more (steady_pure [] cursor)).weaken (by decide)

end Parser

end PatternSyntax
