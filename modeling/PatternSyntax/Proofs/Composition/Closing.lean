import PatternSyntax.Proofs.LevelCost

/-!
# Closing parentheses

Between parentheses an expression is read as it is read alone. What stands after it is
then a closing parenthesis instead of the end, but either one ends whatever may be left
open: no parser goes on with a closing parenthesis unless it has read the opening one. And
what stands before it is an opening parenthesis instead of nothing, but no parser looks
back to what it has not read itself.

So it is enough to compare a cursor with one at which a closing parenthesis and anything
after it are added. What is accepted or declined at the first cursor is accepted or
declined at the second one, too; of failures nothing is said.
-/

namespace PatternSyntax

/-! ## Lexemes that are enclosed -/

/-- Before the second cursor stand the same lexemes and after them a closing parenthesis.
If the two are aligned, then the same lexeme was read last. -/
structure Cursor.Enclosed (aligned : Prop) (cursor inner : Cursor) : Prop where
  rest : ∃ closing more, closing.kind = .closeParen ∧ inner.rest = cursor.rest ++ closing :: more
  previous : aligned → inner.previous = cursor.previous

namespace Cursor

variable {cursor inner after innerAfter : Cursor} {aligned : Prop} {lexemes : List Lexeme}

theorem Enclosed.weaken {fewer : Prop} (enclosed : cursor.Enclosed aligned inner)
    (implies : fewer → aligned) : cursor.Enclosed fewer inner :=
  ⟨enclosed.rest, fun holds => enclosed.previous (implies holds)⟩

theorem Enclosed.span_eq (enclosed : cursor.Enclosed aligned inner) (inside : cursor.rest ≠ []) :
    inner.span = cursor.span := by
  obtain ⟨closing, more, -, rest⟩ := enclosed.rest
  obtain ⟨lexeme, others, cons⟩ := List.exists_cons_of_ne_nil inside
  simp only [span, rest, cons, List.cons_append]

/-- After the same lexemes both cursors stand as before, and once a lexeme has been read
they are aligned. -/
theorem Reads.enclosed (reads : cursor.Reads lexemes after)
    (innerReads : inner.Reads lexemes innerAfter) (enclosed : cursor.Enclosed aligned inner) :
    after.Enclosed (aligned ∨ lexemes ≠ []) innerAfter := by
  constructor
  · obtain ⟨closing, more, isClosing, rest⟩ := enclosed.rest
    rw [innerReads.rest, reads.rest, List.append_assoc, List.append_cancel_left_eq] at rest
    exact ⟨closing, more, isClosing, rest⟩
  · intro known
    rw [innerReads.previous, reads.previous]
    cases lexemes with
    | nil => exact enclosed.previous (known.resolve_right fun nonempty => nonempty rfl)
    | cons lexeme lexemes => rfl

theorem Reads.shorter_iff (reads : cursor.Reads lexemes after)
    (innerReads : inner.Reads lexemes innerAfter) :
    innerAfter.rest.length < inner.rest.length ↔ after.rest.length < cursor.rest.length := by
  have total := reads.length_eq
  have innerTotal := innerReads.length_eq
  omega

end Cursor

/-- What was accepted or declined is accepted or declined again, with the same lexemes. -/
inductive Outcome.Enclosed {α : Type} (cursor inner : Cursor) : Outcome α → Outcome α → Prop
  | accept {value : α} {lexemes : List Lexeme} {after innerAfter : Cursor}
      (reads : cursor.Reads lexemes after) (innerReads : inner.Reads lexemes innerAfter) :
      Enclosed cursor inner (.accept value after) (.accept value innerAfter)
  | decline : Enclosed cursor inner .decline .decline
  | fail {diagnostic : Diagnostic} {outcome : Outcome α} :
      Enclosed cursor inner (.fail diagnostic) outcome

namespace Outcome

variable {α : Type} {cursor inner after innerAfter : Cursor} {lexemes : List Lexeme}
  {outcome enclosed : Outcome α} {value : α}

theorem Enclosed.stay :
    (Outcome.accept value cursor).Enclosed cursor inner (Outcome.accept value inner) :=
  .accept (Cursor.reads_nil_iff.mpr rfl) (Cursor.reads_nil_iff.mpr rfl)

/-- What is accepted later on is accepted from the point of view of an earlier place. -/
theorem Enclosed.of_reads (reads : cursor.Reads lexemes after)
    (innerReads : inner.Reads lexemes innerAfter)
    (later : outcome.Enclosed after innerAfter enclosed) : outcome.Enclosed cursor inner enclosed := by
  cases later with
  | accept more innerMore => exact .accept (reads.trans more) (innerReads.trans innerMore)
  | decline => exact .decline
  | fail => exact .fail

end Outcome

namespace Parser

variable {α β : Type} {aligned : Prop}

/-- A closing parenthesis does for the parser what the end does. Where it looks back to the
lexeme before the first cursor, the cursors have to be aligned. -/
def Closes (aligned : Prop) (parser : Parser α) : Prop :=
  ∀ cursor inner, cursor.Enclosed aligned inner →
    (parser cursor).Enclosed cursor inner (parser inner)

theorem Closes.weaken {parser : Parser α} {more : Prop} (closes : Closes aligned parser)
    (implies : aligned → more) : Closes more parser :=
  fun cursor inner enclosed => closes cursor inner (enclosed.weaken implies)

section Outcomes

variable {parser : Parser α} {cursor inner after : Cursor} {value : α}
  (closes : Closes aligned parser) (enclosed : cursor.Enclosed aligned inner)

include closes enclosed

theorem Closes.accepts (accepted : parser cursor = .accept value after) :
    ∃ lexemes innerAfter, cursor.Reads lexemes after ∧ inner.Reads lexemes innerAfter ∧
      parser inner = .accept value innerAfter := by
  have closed := closes cursor inner enclosed
  rw [accepted] at closed
  generalize parser inner = outcome at closed ⊢
  cases closed with
  | accept reads innerReads => exact ⟨_, _, reads, innerReads, rfl⟩

theorem Closes.declines (declined : parser cursor = .decline) : parser inner = .decline := by
  have closed := closes cursor inner enclosed
  rw [declined] at closed
  generalize parser inner = outcome at closed ⊢
  cases closed with
  | decline => rfl

end Outcomes

/-! ## Simple parsers -/

theorem closes_pure (value : α) : Closes aligned (pure value) :=
  fun _ _ _ => .stay

theorem closes_fail (diagnostic : Diagnostic) : Closes aligned (fail diagnostic : Parser α) :=
  fun _ _ _ => .fail

theorem closes_failHere (diagnose : Span → Diagnostic) :
    Closes aligned (failHere diagnose : Parser α) :=
  fun _ _ _ => .fail

theorem closes_previous : Closes True previous := by
  intro cursor inner enclosed
  have same : previous inner = .accept cursor.previous inner := by
    rw [← enclosed.previous trivial]
    rfl
  rw [same]
  exact .stay

/-- Inside of the lexemes the next one is the same, whether or not it is a closing
parenthesis. -/
theorem acceptMap_enclosed (read : Lexeme → Option α) {cursor inner : Cursor}
    (enclosed : cursor.Enclosed aligned inner) (inside : cursor.rest ≠ []) :
    (acceptMap read cursor).Enclosed cursor inner (acceptMap read inner) := by
  obtain ⟨closing, more, -, rest⟩ := enclosed.rest
  obtain ⟨lexeme, others, cons⟩ := List.exists_cons_of_ne_nil inside
  rw [cons, List.cons_append] at rest
  simp only [acceptMap, cons, rest]
  cases read lexeme with
  | none => exact .decline
  | some value => exact @Outcome.Enclosed.accept _ _ _ _ [lexeme] _ _ ⟨cons, rfl, rfl⟩ ⟨rest, rfl, rfl⟩

theorem closes_acceptMap {read : Lexeme → Option α}
    (leaves : ∀ lexeme, lexeme.kind = .closeParen → read lexeme = none) :
    Closes aligned (acceptMap read) := by
  intro cursor inner enclosed
  by_cases inside : cursor.rest = []
  · obtain ⟨closing, more, isClosing, rest⟩ := enclosed.rest
    rw [inside, List.nil_append] at rest
    simp only [acceptMap, inside, rest, leaves closing isClosing]
    exact .decline
  · exact acceptMap_enclosed read enclosed inside

theorem closes_accept {kind : TokenKind} (other : kind ≠ .closeParen) :
    Closes aligned (accept kind) :=
  closes_acceptMap fun _ isClosing => if_neg fun isKind => other (isKind.symm.trans isClosing)

theorem closes_acceptText {kind : TokenKind} (other : kind ≠ .closeParen) (text : String) :
    Closes aligned (acceptText kind text) :=
  closes_acceptMap fun _ isClosing => if_neg fun isText => other (isText.1.symm.trans isClosing)

theorem closes_keyword (word : String) : Closes aligned (keyword word) :=
  closes_acceptText (by decide) word

theorem closes_contextual (word : String) : Closes aligned (contextual word) :=
  closes_acceptText (by decide) word

/-! ## Composed parsers -/

/-- What is read next may look back if a lexeme has been read before. -/
theorem Closes.bind_of_reads {first : Parser α} {next : α → Parser β} (head : Closes aligned first)
    (tail : ∀ cursor value after lexemes, first cursor = .accept value after →
      cursor.Reads lexemes after → Closes (aligned ∨ lexemes ≠ []) (next value)) :
    Closes aligned (first >>= next) := by
  intro cursor inner enclosed
  rw [bind_apply, bind_apply]
  cases outcome : first cursor with
  | accept value after =>
    obtain ⟨lexemes, innerAfter, reads, innerReads, accepted⟩ := head.accepts enclosed outcome
    rw [accepted]
    exact .of_reads reads innerReads (tail cursor value after lexemes outcome reads after innerAfter
      (reads.enclosed innerReads enclosed))
  | decline =>
    rw [head.declines enclosed outcome]
    exact .decline
  | fail diagnostic => exact .fail

theorem Closes.bind {first : Parser α} {next : α → Parser β} (head : Closes aligned first)
    (tail : ∀ value, Closes aligned (next value)) : Closes aligned (first >>= next) :=
  head.bind_of_reads fun _ value _ _ _ _ => (tail value).weaken .inl

/-- After a parser that always reads a lexeme the cursors are aligned. -/
theorem Closes.bind_aligned {first : Parser α} {next : α → Parser β} (head : Closes aligned first)
    (progresses : first.Progresses) (tail : ∀ value, Closes True (next value)) :
    Closes aligned (first >>= next) := by
  refine head.bind_of_reads fun cursor value after lexemes accepted reads => ?_
  have nonempty : lexemes ≠ [] := by
    rintro rfl
    have shorter := progresses cursor value after accepted
    rw [Cursor.reads_nil_iff.mp reads] at shorter
    exact absurd shorter (Nat.lt_irrefl _)
  exact (tail value).weaken fun _ => .inr nonempty

theorem Closes.orElse {first second : Parser α} (head : Closes aligned first)
    (alternative : Closes aligned second) : Closes aligned (first <|> second) := by
  intro cursor inner enclosed
  rw [orElse_apply, orElse_apply]
  cases outcome : first cursor with
  | accept value after =>
    obtain ⟨lexemes, innerAfter, reads, innerReads, accepted⟩ := head.accepts enclosed outcome
    rw [accepted]
    exact .accept reads innerReads
  | decline =>
    rw [head.declines enclosed outcome]
    exact alternative cursor inner enclosed
  | fail diagnostic => exact .fail

theorem Closes.ite {test : Prop} [Decidable test] {first second : Parser α}
    (whenTrue : Closes aligned first) (whenFalse : Closes aligned second) :
    Closes aligned (if test then first else second) := by
  split
  · exact whenTrue
  · exact whenFalse

theorem Closes.orFail {parser : Parser α} (closes : Closes aligned parser)
    (diagnose : Span → Diagnostic) : Closes aligned (parser.orFail diagnose) :=
  closes.orElse (closes_failHere diagnose)

/-- A lexeme that has to be there is never found at the end. So it may be a closing
parenthesis as well. -/
theorem closes_accept_orFail (kind : TokenKind) (diagnose : Span → Diagnostic) :
    Closes aligned ((accept kind).orFail diagnose) := by
  intro cursor inner enclosed
  by_cases inside : cursor.rest = []
  · have fails : (accept kind).orFail diagnose cursor = .fail (diagnose cursor.span) := by
      simp only [orFail, orElse_apply, accept, acceptMap, inside]
      rfl
    rw [fails]
    exact .fail
  · have found := acceptMap_enclosed (fun lexeme => if lexeme.kind = kind then some lexeme else none)
      enclosed inside
    rw [orFail, orElse_apply, orElse_apply, accept]
    generalize acceptMap _ cursor = outcome at found ⊢
    generalize acceptMap _ inner = innerOutcome at found ⊢
    cases found with
    | accept reads innerReads => exact .accept reads innerReads
    | decline => exact .fail
    | fail => exact .fail

theorem closes_expect (kind : TokenKind) : Closes aligned (expect kind) :=
  closes_accept_orFail kind _

theorem Closes.optional {parser : Parser α} (closes : Closes aligned parser) :
    Closes aligned (optional parser) := by
  intro cursor inner enclosed
  rw [Parser.optional, Parser.optional]
  cases outcome : parser cursor with
  | accept value after =>
    obtain ⟨lexemes, innerAfter, reads, innerReads, accepted⟩ := closes.accepts enclosed outcome
    rw [accepted]
    exact .accept reads innerReads
  | decline =>
    rw [closes.declines enclosed outcome]
    exact .stay
  | fail diagnostic => exact .fail

theorem Closes.many {item : Parser α} (closes : Closes aligned item) :
    Closes aligned item.many := by
  intro cursor
  induction cursor using many.induct item with
  | case1 cursor value after accepted shorter inductionHypothesis =>
    intro inner enclosed
    obtain ⟨lexemes, innerAfter, reads, innerReads, innerAccepted⟩ := closes.accepts enclosed accepted
    have rest := inductionHypothesis innerAfter ((reads.enclosed innerReads enclosed).weaken .inl)
    rw [Parser.many, Parser.many, accepted, innerAccepted]
    simp only [reads.shorter_iff innerReads, if_pos shorter]
    generalize item.many after = others at rest ⊢
    generalize item.many innerAfter = innerOthers at rest ⊢
    cases rest with
    | accept more innerMore => exact .accept (reads.trans more) (innerReads.trans innerMore)
    | decline => exact .decline
    | fail => exact .fail
  | case2 cursor value after accepted stuck =>
    intro inner enclosed
    obtain ⟨lexemes, innerAfter, reads, innerReads, innerAccepted⟩ := closes.accepts enclosed accepted
    rw [Parser.many, Parser.many, accepted, innerAccepted]
    simp only [reads.shorter_iff innerReads, if_neg stuck]
    exact .accept reads innerReads
  | case3 cursor declined =>
    intro inner enclosed
    rw [Parser.many, Parser.many, declined, closes.declines enclosed declined]
    exact .stay
  | case4 cursor diagnostic failed =>
    intro inner enclosed
    rw [Parser.many, failed]
    exact .fail

theorem Closes.sepEndBy {item : Parser α} {separator : Parser β} (closes : Closes aligned item)
    (between : Closes aligned separator) : Closes aligned (item.sepEndBy separator) := by
  have separated : Closes aligned (item <* separator) :=
    closes.bind fun value => between.bind fun _ => closes_pure value
  exact separated.many.bind fun _ => closes.optional.bind fun _ => closes_pure _

theorem Closes.sepBy {item : Parser α} {separator : Parser β} (closes : Closes aligned item)
    (between : Closes aligned separator) : Closes aligned (item.sepBy separator) := by
  have next : Closes aligned (separator *> item) := between.bind fun _ => closes
  exact closes.bind fun _ => next.many.bind fun _ => closes_pure _

/-! ## Looking ahead -/

/-- A look at what comes next sees something else at the end than before a closing
parenthesis. So what is read then must fail at the end or not depend on what was seen. -/
theorem Closes.look_bind {γ : Type} {peek : Parser γ} {next : γ → Parser α} (look : Cursor → γ)
    (looks : ∀ cursor, peek cursor = .accept (look cursor) cursor)
    (inside : ∀ cursor inner, cursor.Enclosed aligned inner → cursor.rest ≠ [] →
      look inner = look cursor)
    (atEnd : ∀ cursor, cursor.rest = [] → (∃ diagnostic, next (look cursor) cursor = .fail diagnostic) ∨
      ∀ seen, next seen cursor = next (look cursor) cursor)
    (tail : ∀ seen, Closes aligned (next seen)) : Closes aligned (peek >>= next) := by
  intro cursor inner enclosed
  rw [bind_apply, bind_apply, looks, looks]
  dsimp only
  by_cases ended : cursor.rest = []
  · rcases atEnd cursor ended with ⟨diagnostic, failed⟩ | blind
    · rw [failed]
      exact .fail
    · rw [← blind (look inner)]
      exact tail (look inner) cursor inner enclosed
  · rw [inside cursor inner enclosed ended]
    exact tail (look cursor) cursor inner enclosed

/-- What is required at a place fails where nothing is left. -/
theorem Closes.here_bind_of_fails {next : Span → Parser α}
    (fails : ∀ previous finish, ∃ diagnostic, next finish ⟨[], previous, finish⟩ = .fail diagnostic)
    (tail : ∀ span, Closes aligned (next span)) : Closes aligned (here >>= next) := by
  refine .look_bind Cursor.span (fun _ => rfl) (fun _ _ enclosed => enclosed.span_eq)
    (fun cursor ended => .inl ?_) tail
  obtain ⟨rest, previous, finish⟩ := cursor
  obtain rfl : rest = [] := ended
  exact fails previous finish

/-- The place of something that is not there is not kept. -/
theorem Closes.here_bind_of_blind {next : Span → Parser α}
    (blind : ∀ previous finish span other,
      next span ⟨[], previous, finish⟩ = next other ⟨[], previous, finish⟩)
    (tail : ∀ span, Closes aligned (next span)) : Closes aligned (here >>= next) := by
  refine .look_bind Cursor.span (fun _ => rfl) (fun _ _ enclosed => enclosed.span_eq)
    (fun cursor ended => .inr fun span => ?_) tail
  obtain ⟨rest, previous, finish⟩ := cursor
  obtain rfl : rest = [] := ended
  exact blind previous finish span finish

/-- What may be left out is declined where nothing is left. -/
theorem Closes.here_bind_of_declines {next : Span → Parser α}
    (declines : ∀ previous finish span, next span ⟨[], previous, finish⟩ = .decline)
    (tail : ∀ span, Closes aligned (next span)) : Closes aligned (here >>= next) :=
  .here_bind_of_blind (fun previous finish span other =>
    (declines previous finish span).trans (declines previous finish other).symm) tail

end Parser

end PatternSyntax
