import PatternSyntax.Proofs.Choices
import PatternSyntax.Proofs.Runs

/-!
# Blame

A diagnostic is about lexemes that are next to each other, or about the end of all
lexemes. Which lexemes a fault can be about is said for each fault. A parser blames
rightly if whatever it fails with is about some of the lexemes before which it began, and
parsers that are put together out of such parsers do so too. Only where a fault is about
lexemes that were read before it was found does more have to be shown: those lexemes are
then still in sight of the parser that read them.
-/

namespace PatternSyntax

open Grammar

/-! ## What faults are about -/

/-- There is only one lexeme, and it is of the given kind. -/
def IsSingle (kind : TokenKind) (lexemes : List Lexeme) : Prop :=
  ∃ lexeme, lexeme.kind = kind ∧ lexemes = [lexeme]

/-- The lexemes spell a whole repetition. -/
def IsRepetition (lexemes : List Lexeme) : Prop :=
  ∃ bounds preference lazyMode first second, SpellsBounds bounds first ∧
    SpellsPreference lazyMode preference second ∧ lexemes = first ++ second

namespace Fault

/-- The lexemes that a fault covers, given those before them. -/
def IsAbout (before covered : List Lexeme) : Fault → Prop
  | leftover | wrongToken | wrongForm => ∃ lexeme, covered = [lexeme]
  | tooDeep => (∃ lexeme, covered = [lexeme]) ∨
      ∃ modes statement, Spells modes (.statement statement) covered
  | loneBar => IsSingle .pipe covered
  | negatedCharacters => IsSingle .bang covered
  | numberTooLarge | baseOutOfRange => IsSingle .number covered
  | noSuchCharacter => IsSingle .codePoint covered
  | groupNameCharacters | groupNameLength =>
    IsSingle .identifier covered ∧ ∃ colon, IsSingle .colon colon ∧ colon <:+ before
  | emptyEndpoint | longEndpoint => IsSingle .string covered
  | descendingBounds => ∃ lower upper first comma second, IsCount lower first ∧
      comma.kind = .comma ∧ IsCount upper second ∧ upper < lower ∧ covered = [first, comma, second]
  | descendingRange => ∃ lower upper first last firstLexeme dash lastLexeme,
      SpellsUnit first firstLexeme ∧ first.IsChar lower ∧ dash.kind = .dash ∧
        SpellsUnit last lastLexeme ∧ last.IsChar upper ∧ upper < lower ∧
          covered = [firstLexeme, dash, lastLexeme]
  | emptyClass => ∃ opening parts inner closing, opening.kind = .openBracket ∧
      Parser.Each SpellsItems parts inner ∧ parts.flatten = [] ∧ closing.kind = .closeBracket ∧
        covered = [opening] ++ inner ++ [closing]
  | repeatedRepetition => (∃ bounds, SpellsBounds bounds covered) ∧
      ∃ first, IsRepetition first ∧ first <:+ before
  | matchesWithoutHaystack => ∃ expected, SpellsMatches expected covered ∧ 2 ≤ expected.length
  | unclosedString | unknownText => False

/-- The fault is that something else is there, and it may be that nothing is there. -/
def IsVague (fault : Fault) : Prop :=
  fault ∈ [wrongToken, wrongForm, tooDeep]

variable {before covered : List Lexeme} {fault : Fault}

theorem IsVague.isAbout (vague : fault.IsVague) (before : List Lexeme) (lexeme : Lexeme) :
    fault.IsAbout before [lexeme] := by
  simp only [IsVague, List.mem_cons, List.not_mem_nil, or_false] at vague
  rcases vague with rfl | rfl | rfl
  · exact ⟨lexeme, rfl⟩
  · exact ⟨lexeme, rfl⟩
  · exact .inl ⟨lexeme, rfl⟩

theorem IsAbout.append (about : fault.IsAbout before covered) (front : List Lexeme) :
    fault.IsAbout (front ++ before) covered := by
  cases fault with
  | groupNameCharacters | groupNameLength =>
    obtain ⟨isName, colon, isColon, stands⟩ := about
    exact ⟨isName, colon, isColon, List.suffix_append_of_suffix stands⟩
  | repeatedRepetition =>
    obtain ⟨isBounds, first, isFirst, stands⟩ := about
    exact ⟨isBounds, first, isFirst, List.suffix_append_of_suffix stands⟩
  | _ => exact about

end Fault

/-- The diagnostic is about some of the lexemes, or about their end. -/
inductive Diagnostic.Blames (lexemes : List Lexeme) (finish : Span) : Diagnostic → Prop
  | lexemes (before covered after : List Lexeme) {diagnostic : Diagnostic}
      (split : lexemes = before ++ covered ++ after) (nonempty : covered ≠ [])
      (about : diagnostic.fault.IsAbout before covered) (span_eq : diagnostic.span = cover covered) :
      Blames lexemes finish diagnostic
  | finish {diagnostic : Diagnostic} (vague : diagnostic.fault.IsVague)
      (span_eq : diagnostic.span = finish) : Blames lexemes finish diagnostic

/-- What comes of reading from the place on: lexemes are read, nothing is, or the fault is
about lexemes after the place. -/
inductive Outcome.Blames {α : Type} (origin : Cursor) : Outcome α → Prop
  | accept {value : α} {lexemes : List Lexeme} {after : Cursor} (reads : origin.Reads lexemes after) :
      Blames origin (.accept value after)
  | decline : Blames origin .decline
  | fail {diagnostic : Diagnostic} (blames : diagnostic.Blames origin.rest origin.finish) :
      Blames origin (.fail diagnostic)

variable {origin cursor : Cursor} {lexemes before covered : List Lexeme}

theorem Cursor.Reads.isOrdered (reads : origin.Reads lexemes cursor) (ordered : IsOrdered origin.rest) :
    IsOrdered cursor.rest := by
  rw [reads.rest] at ordered
  exact ordered.of_append_right

theorem Cursor.Reads.isOrdered_read (reads : origin.Reads lexemes cursor)
    (ordered : IsOrdered origin.rest) : IsOrdered lexemes := by
  rw [reads.rest] at ordered
  exact ordered.of_append_left

theorem Diagnostic.Blames.single (before after : List Lexeme) {lexeme : Lexeme} {finish : Span}
    {diagnostic : Diagnostic} (split : lexemes = before ++ lexeme :: after)
    (about : diagnostic.fault.IsAbout before [lexeme]) (span_eq : diagnostic.span = lexeme.span) :
    diagnostic.Blames lexemes finish := by
  rw [← cover_singleton] at span_eq
  rw [List.append_cons] at split
  exact .lexemes before [lexeme] after split (List.cons_ne_nil _ _) about span_eq

/-- Whoever sees more lexemes blames the same ones. -/
theorem Diagnostic.Blames.of_reads {diagnostic : Diagnostic} (reads : origin.Reads lexemes cursor)
    (blames : diagnostic.Blames cursor.rest cursor.finish) :
    diagnostic.Blames origin.rest origin.finish := by
  cases blames with
  | lexemes before covered after split nonempty about span_eq =>
    have regrouped : origin.rest = lexemes ++ before ++ covered ++ after := by
      rw [reads.rest, split, List.append_assoc, List.append_assoc, List.append_assoc]
    exact .lexemes _ _ _ regrouped nonempty (about.append lexemes) span_eq
  | finish vague span_eq => exact .finish vague (span_eq.trans reads.finish)

theorem Outcome.Blames.of_reads {α : Type} {outcome : Outcome α} (reads : origin.Reads lexemes cursor)
    (blames : outcome.Blames cursor) : outcome.Blames origin := by
  cases blames with
  | accept more => exact .accept (reads.trans more)
  | decline => exact .decline
  | fail blames => exact .fail (blames.of_reads reads)

/-! ## Parsers that blame rightly -/

namespace Parser

variable {α β : Type}

/-- Whatever the parser fails with is about lexemes after the place where it began. -/
def Blames (parser : Parser α) : Prop :=
  ∀ cursor, IsOrdered cursor.rest → (parser cursor).Blames cursor

theorem blames_pure (value : α) : Blames (pure value) :=
  fun _ _ => .accept (Cursor.reads_nil_iff.mpr rfl)

theorem blames_decline : Blames (decline : Parser α) :=
  fun _ _ => .decline

theorem blames_previous : Blames previous :=
  fun _ _ => .accept (Cursor.reads_nil_iff.mpr rfl)

theorem blames_nextText : Blames nextText := by
  rintro ⟨rest, previous, finish⟩ -
  cases rest <;> exact .accept (Cursor.reads_nil_iff.mpr rfl)

theorem blames_acceptMap (read : Lexeme → Option α) : Blames (acceptMap read) := by
  rintro ⟨rest, previous, finish⟩ -
  cases rest with
  | nil => exact .decline
  | cons lexeme rest =>
    simp only [acceptMap]
    cases read lexeme with
    | none => exact .decline
    | some value => exact .accept (@Cursor.Reads.mk ⟨lexeme :: rest, previous, finish⟩ [lexeme] _ rfl rfl rfl)

theorem blames_failHere {diagnose : Span → Diagnostic} (placed : ∀ span, (diagnose span).span = span)
    (vague : ∀ span, (diagnose span).fault.IsVague) : Blames (failHere diagnose : Parser α) := by
  intro cursor _
  rw [failHere, here_bind_apply]
  refine .fail ?_
  rcases cursor with ⟨rest, previous, finish⟩
  cases rest with
  | nil => exact .finish (vague _) (placed _)
  | cons lexeme rest =>
    exact .single [] rest rfl ((vague _).isAbout [] lexeme) (placed _)

theorem Blames.reads {parser : Parser α} {after : Cursor} {value : α} (blames : parser.Blames)
    (ordered : IsOrdered cursor.rest) (accepted : parser cursor = .accept value after) :
    ∃ lexemes, cursor.Reads lexemes after := by
  have outcome := blames cursor ordered
  rw [accepted] at outcome
  cases outcome with
  | accept reads => exact ⟨_, reads⟩

/-! ### What was read before -/

theorem Blames.after {parser : Parser α} (blames : parser.Blames) (ordered : IsOrdered origin.rest)
    (reads : origin.Reads lexemes cursor) : (parser cursor).Blames origin :=
  (blames cursor (reads.isOrdered ordered)).of_reads reads

theorem blames_orElse_after {first second : Parser α} (head : (first cursor).Blames origin)
    (alternative : (second cursor).Blames origin) : ((first <|> second) cursor).Blames origin := by
  rw [orElse_apply]
  cases outcome : first cursor with
  | decline => exact alternative
  | accept | fail =>
    rw [outcome] at head
    exact head

section Either

variable {parser : Parser α} {continuation : α → Parser β} {other : Parser β}

/-- What follows may be about what was read already. -/
theorem blames_either_after (head : (parser cursor).Blames origin)
    (tail : ∀ value between, parser cursor = .accept value between →
      (continuation value between).Blames origin)
    (alternative : (other cursor).Blames origin) :
    (parser.either continuation other cursor).Blames origin := by
  unfold Parser.either
  cases outcome : parser cursor with
  | accept value between => exact tail value between outcome
  | decline => exact alternative
  | fail diagnostic =>
    rw [outcome] at head
    cases head with
    | fail blames => exact .fail blames

theorem blames_bind_after (head : (parser cursor).Blames origin)
    (tail : ∀ value between, parser cursor = .accept value between →
      (continuation value between).Blames origin) :
    ((parser >>= continuation) cursor).Blames origin :=
  @blames_either_after _ _ _ _ parser continuation decline head tail .decline

/-! ### Composed parsers -/

theorem Blames.either (head : parser.Blames) (tail : ∀ value, (continuation value).Blames)
    (alternative : other.Blames) : (parser.either continuation other).Blames := by
  intro cursor ordered
  refine blames_either_after (head cursor ordered) (fun value between accepted => ?_)
    (alternative cursor ordered)
  obtain ⟨lexemes, reads⟩ := head.reads ordered accepted
  exact (tail value).after ordered reads

theorem Blames.bind (head : parser.Blames) (tail : ∀ value, (continuation value).Blames) :
    (parser >>= continuation).Blames :=
  head.either tail blames_decline

end Either

theorem Blames.orElse {parser other : Parser α} (head : parser.Blames) (alternative : other.Blames) :
    (parser <|> other).Blames :=
  head.either blames_pure alternative

theorem Blames.optional {parser : Parser α} (head : parser.Blames) : (optional parser).Blames := by
  have unfolded := optional_bind_eq_either parser pure
  rw [bind_pure] at unfolded
  rw [unfolded]
  exact head.either (fun value => blames_pure (some value)) (blames_pure none)

theorem blames_here_bind {continuation : Span → Parser α}
    (tail : ∀ span, (continuation span).Blames) : (here >>= continuation).Blames :=
  fun cursor => tail cursor.span cursor

theorem Blames.orFail {parser : Parser α} (head : parser.Blames) {diagnose : Span → Diagnostic}
    (placed : ∀ span, (diagnose span).span = span) (vague : ∀ span, (diagnose span).fault.IsVague) :
    (parser.orFail diagnose).Blames :=
  head.orElse (blames_failHere placed vague)

theorem Blames.many {item : Parser α} (blames : item.Blames) (progresses : item.Progresses) :
    item.many.Blames := by
  intro cursor ordered
  induction cursor using progresses.induction with
  | step cursor inductionHypothesis =>
    rw [many_eq_either progresses]
    refine blames_either_after (blames cursor ordered) (fun value between accepted => ?_)
      (blames_pure [] cursor ordered)
    obtain ⟨lexemes, reads⟩ := blames.reads ordered accepted
    have rest := inductionHypothesis value between accepted (reads.isOrdered ordered)
    refine blames_bind_after (rest.of_reads reads) fun values after accepted => ?_
    rw [accepted] at rest
    cases rest with
    | accept readsRest => exact .accept (reads.trans readsRest)

theorem Blames.sepEndBy {item : Parser α} {separator : Parser β} (blames : item.Blames)
    (blamesSeparator : separator.Blames) (progresses : (item <* separator).Progresses) :
    (item.sepEndBy separator).Blames := by
  have separated : (item <* separator).Blames :=
    blames.bind fun value => blamesSeparator.bind fun _ => blames_pure value
  exact (separated.many progresses).bind fun values => blames.optional.bind fun last => blames_pure _

end Parser

end PatternSyntax
