import PatternSyntax.Proofs.Choices
import PatternSyntax.Proofs.Moving

/-!
# Parsers and places

Where lexemes stand has no say in how they are read. If all of them are moved by a
function that respects joins, then a parser accepts, declines and fails as before, and
the spans of what it accepts and of what it fails with are moved in the same way. Parsers
that are put together out of such parsers do so too.
-/

namespace PatternSyntax

/-! ## Moving what is read -/

def Diagnostic.mapSpan (f : Span → Span) (diagnostic : Diagnostic) : Diagnostic :=
  { diagnostic with span := f diagnostic.span }

/-- The same place between the same lexemes, all of which are moved. -/
def Cursor.mapSpans (f : Span → Span) (cursor : Cursor) : Cursor :=
  ⟨cursor.rest.map (·.mapSpan f), f cursor.previous, f cursor.finish⟩

theorem Cursor.span_mapSpans (f : Span → Span) (cursor : Cursor) :
    (cursor.mapSpans f).span = f cursor.span := by
  rcases cursor with ⟨_ | ⟨lexeme, rest⟩, previous, finish⟩ <;> rfl

/-- The same outcome of reading lexemes that are moved. -/
def Outcome.mapSpans {α : Type} (f : Span → Span) (move : α → α) : Outcome α → Outcome α
  | accept value after => .accept (move value) (after.mapSpans f)
  | decline => .decline
  | fail diagnostic => .fail (diagnostic.mapSpan f)

namespace Parser

variable {α β : Type} {f : Span → Span} {move : α → α} {moveNext : β → β}

/-- The second parser reads lexemes that are moved as the first one reads them where they
stood. -/
def Moves (f : Span → Span) (move : α → α) (first second : Parser α) : Prop :=
  ∀ cursor, second (cursor.mapSpans f) = (first cursor).mapSpans f move

/-! ## Simple parsers -/

theorem moves_pure (value : α) : Moves f move (pure value) (pure (move value)) :=
  fun _ => rfl

theorem moves_pure_of_eq {value moved : α} (same : moved = move value) :
    Moves f move (pure value) (pure moved) :=
  same ▸ moves_pure value

theorem moves_fail (diagnostic : Diagnostic) :
    Moves f move (fail diagnostic) (fail (diagnostic.mapSpan f)) :=
  fun _ => rfl

theorem moves_fail_of_eq {diagnostic moved : Diagnostic} (same : moved = diagnostic.mapSpan f) :
    Moves f move (fail diagnostic) (fail moved) :=
  same ▸ moves_fail diagnostic

theorem moves_previous : Moves f f previous previous :=
  fun _ => rfl

theorem moves_here : Moves f f here here := by
  intro cursor
  rw [here, cursor.span_mapSpans]
  rfl

theorem moves_nextText : Moves f id nextText nextText := by
  rintro ⟨_ | ⟨lexeme, rest⟩, previous, finish⟩ <;> rfl

theorem moves_acceptMap {read readMoved : Lexeme → Option α}
    (same : ∀ lexeme, readMoved (lexeme.mapSpan f) = (read lexeme).map move) :
    Moves f move (acceptMap read) (acceptMap readMoved) := by
  rintro ⟨_ | ⟨lexeme, rest⟩, previous, finish⟩
  · rfl
  · simp only [acceptMap, Cursor.mapSpans, List.map_cons, same]
    cases read lexeme <;> rfl

/-- A lexeme is taken or left for what it is, not for where it stands. -/
theorem moves_take (test : Lexeme → Prop) [DecidablePred test]
    (same : ∀ lexeme, test (lexeme.mapSpan f) ↔ test lexeme) :
    Moves f (Lexeme.mapSpan f) (acceptMap fun lexeme => if test lexeme then some lexeme else none)
      (acceptMap fun lexeme => if test lexeme then some lexeme else none) := by
  refine moves_acceptMap fun lexeme => ?_
  simp only [same]
  split <;> rfl

/-! ## Composed parsers -/

theorem Moves.bind {first second : Parser α} {next nextMoved : α → Parser β}
    (head : Moves f move first second)
    (tail : ∀ value, Moves f moveNext (next value) (nextMoved (move value))) :
    Moves f moveNext (first >>= next) (second >>= nextMoved) := by
  intro cursor
  rw [bind_apply, bind_apply, head cursor]
  cases first cursor with
  | accept value after => exact tail value after
  | decline => rfl
  | fail diagnostic => rfl

theorem Moves.orElse {first second firstMoved secondMoved : Parser α}
    (head : Moves f move first firstMoved) (alternative : Moves f move second secondMoved) :
    Moves f move (first <|> second) (firstMoved <|> secondMoved) := by
  intro cursor
  rw [orElse_apply, orElse_apply, head cursor]
  cases first cursor with
  | accept value after => rfl
  | decline => exact alternative cursor
  | fail diagnostic => rfl

theorem Moves.ite {test : Prop} [Decidable test] {first second firstMoved secondMoved : Parser α}
    (whenTrue : Moves f move first firstMoved) (whenFalse : Moves f move second secondMoved) :
    Moves f move (if test then first else second) (if test then firstMoved else secondMoved) := by
  split
  · exact whenTrue
  · exact whenFalse

theorem moves_failHere {diagnose : Span → Diagnostic}
    (placed : ∀ span, diagnose (f span) = (diagnose span).mapSpan f) :
    Moves f move (failHere diagnose) (failHere diagnose) :=
  moves_here.bind fun span => moves_fail_of_eq (placed span)

theorem Moves.orFail {first second : Parser α} (head : Moves f move first second)
    {diagnose : Span → Diagnostic}
    (placed : ∀ span, diagnose (f span) = (diagnose span).mapSpan f) :
    Moves f move (first.orFail diagnose) (second.orFail diagnose) :=
  head.orElse (moves_failHere placed)

theorem Moves.optional {first second : Parser α} (head : Moves f move first second) :
    Moves f (Option.map move) (optional first) (optional second) := by
  intro cursor
  rw [Parser.optional, Parser.optional, head cursor]
  cases first cursor <;> rfl

theorem Moves.many {item itemMoved : Parser α} (head : Moves f move item itemMoved) :
    Moves f (List.map move) (many item) (many itemMoved) := by
  intro cursor
  induction cursor using many.induct item with
  | case1 cursor value after accepted shorter inductionHypothesis =>
    rw [Cursor.mapSpans] at inductionHypothesis
    rw [Parser.many, Parser.many, head cursor, accepted]
    simp only [Outcome.mapSpans, Cursor.mapSpans, List.length_map, if_pos shorter, inductionHypothesis]
    cases Parser.many item after <;> rfl
  | case2 cursor value after accepted stuck =>
    rw [Parser.many, Parser.many, head cursor, accepted]
    simp only [Outcome.mapSpans, Cursor.mapSpans, List.length_map, if_neg stuck]
    rfl
  | case3 cursor declined =>
    rw [Parser.many, Parser.many, head cursor, declined]
    rfl
  | case4 cursor diagnostic failed =>
    rw [Parser.many, Parser.many, head cursor, failed]
    rfl

theorem Moves.sepEndBy {item itemMoved : Parser α} {separator separatorMoved : Parser β}
    (head : Moves f move item itemMoved) (between : Moves f moveNext separator separatorMoved) :
    Moves f (List.map move) (sepEndBy item separator) (sepEndBy itemMoved separatorMoved) := by
  have separated : Moves f move (item <* separator) (itemMoved <* separatorMoved) :=
    head.bind fun value => between.bind fun _ => moves_pure value
  refine separated.many.bind fun values => head.optional.bind fun last => moves_pure_of_eq ?_
  cases last with
  | none => simp
  | some last => simp

theorem Moves.sepBy {item itemMoved : Parser α} {separator separatorMoved : Parser β}
    (head : Moves f move item itemMoved) (between : Moves f moveNext separator separatorMoved) :
    Moves f (List.map move) (sepBy item separator) (sepBy itemMoved separatorMoved) := by
  have next : Moves f move (separator *> item) (separatorMoved *> itemMoved) :=
    between.bind fun _ => head
  exact head.bind fun first => next.many.bind fun more => moves_pure (first :: more)

end Parser

end PatternSyntax
