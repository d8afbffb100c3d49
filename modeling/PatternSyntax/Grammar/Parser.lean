import PatternSyntax.Diagnostic

/-!
# Reading lexemes

A parser looks at the lexemes that have not been read yet and has one of three
outcomes. It accepts with a value and moves on; it declines, which means that
what it reads is not there and something else may be; or it fails, which ends
the whole reading with a diagnostic.

Declining gives back every lexeme, since it carries no cursor. Choice therefore
needs no bookkeeping: the second alternative starts where the first one did. A
production that has seen enough to be sure of itself turns a decline of one of
its parts into a failure.
-/

namespace PatternSyntax

/-- A place between two lexemes. -/
structure Cursor where
  /-- The lexemes that are still to be read. -/
  rest : List Lexeme
  /-- The span of the lexeme that was read last. -/
  previous : Span
  /-- The span of the end of the source. -/
  finish : Span
deriving DecidableEq

namespace Cursor

/-- The span of the next lexeme, or of the end of the source. -/
def span (cursor : Cursor) : Span :=
  match cursor.rest with
  | [] => cursor.finish
  | lexeme :: _ => lexeme.span

end Cursor

/-- What comes of reading at a cursor. -/
inductive Outcome (α : Type) where
  | accept (value : α) (after : Cursor)
  | decline
  | fail (diagnostic : Diagnostic)

/-- Change the value that is accepted. -/
def Outcome.map {α β : Type} (f : α → β) : Outcome α → Outcome β
  | accept value after => .accept (f value) after
  | decline => .decline
  | fail diagnostic => .fail diagnostic

/-- A way to read lexemes. -/
def Parser (α : Type) : Type :=
  Cursor → Outcome α

namespace Parser

variable {α β : Type}

/-- Accept without reading anything. -/
def accepting (value : α) : Parser α :=
  fun cursor => .accept value cursor

/-- Read on with what the first parser accepted. -/
def andThen (first : Parser α) (next : α → Parser β) : Parser β :=
  fun cursor =>
    match first cursor with
    | .accept value after => next value after
    | .decline => .decline
    | .fail diagnostic => .fail diagnostic

instance : Monad Parser where
  pure := accepting
  bind := andThen

/-- Try the second parser where the first one declines. -/
def orElse (first : Parser α) (second : Unit → Parser α) : Parser α :=
  fun cursor =>
    match first cursor with
    | .accept value after => .accept value after
    | .decline => second () cursor
    | .fail diagnostic => .fail diagnostic

instance : OrElse (Parser α) :=
  ⟨orElse⟩

theorem pure_apply (value : α) (cursor : Cursor) :
    (pure value : Parser α) cursor = .accept value cursor :=
  rfl

theorem bind_apply (first : Parser α) (next : α → Parser β) (cursor : Cursor) :
    (first >>= next) cursor =
      match first cursor with
      | .accept value after => next value after
      | .decline => .decline
      | .fail diagnostic => .fail diagnostic :=
  rfl

theorem orElse_apply (first second : Parser α) (cursor : Cursor) :
    (first <|> second) cursor =
      match first cursor with
      | .accept value after => .accept value after
      | .decline => second cursor
      | .fail diagnostic => .fail diagnostic :=
  rfl

instance : LawfulMonad Parser :=
  LawfulMonad.mk' Parser
    (by
      intro α parser
      funext cursor
      change (parser >>= pure ∘ id) cursor = parser cursor
      rw [bind_apply]
      cases parser cursor <;> rfl)
    (by
      intro α β value next
      rfl)
    (by
      intro α β γ parser next last
      funext cursor
      simp only [bind_apply]
      cases parser cursor <;> rfl)

/-- Accept nowhere, and let something else be tried. -/
def decline : Parser α :=
  fun _ => .decline

/-- Accept nowhere, and let nothing else be tried. -/
def fail (diagnostic : Diagnostic) : Parser α :=
  fun _ => .fail diagnostic

/-- The span of what comes next. -/
def here : Parser Span :=
  fun cursor => .accept cursor.span cursor

/-- The span of what was read last. -/
def previous : Parser Span :=
  fun cursor => .accept cursor.previous cursor

/-- Fail at what comes next. -/
def failHere (diagnose : Span → Diagnostic) : Parser α := do
  let span ← here
  fail (diagnose span)

/-- Fail at what comes next where the parser declines. -/
def orFail (parser : Parser α) (diagnose : Span → Diagnostic) : Parser α :=
  parser <|> failHere diagnose

/-- The text of the next lexeme, and nothing at the end. -/
def nextText : Parser String :=
  fun cursor =>
    match cursor.rest with
    | [] => .accept "" cursor
    | lexeme :: _ => .accept lexeme.text cursor

/-- Read one lexeme if it means something to the caller. -/
def acceptMap (read : Lexeme → Option α) : Parser α :=
  fun cursor =>
    match cursor.rest with
    | [] => .decline
    | lexeme :: rest =>
      match read lexeme with
      | some value => .accept value { cursor with rest := rest, previous := lexeme.span }
      | none => .decline

/-- Read one lexeme of the given kind. -/
def accept (kind : TokenKind) : Parser Lexeme :=
  acceptMap fun lexeme => if lexeme.kind = kind then some lexeme else none

/-- Read one lexeme of the given kind and text. -/
def acceptText (kind : TokenKind) (text : String) : Parser Lexeme :=
  acceptMap fun lexeme => if lexeme.kind = kind ∧ lexeme.text = text then some lexeme else none

/-- Read a reserved name. -/
def keyword (word : String) : Parser Lexeme :=
  acceptText .reservedName word

/-- Read a name that has a meaning of its own only where this is called. -/
def contextual (word : String) : Parser Lexeme :=
  acceptText .identifier word

/-- Read one lexeme of the given kind and fail where there is none. -/
def expect (kind : TokenKind) : Parser Lexeme :=
  (accept kind).orFail (.missingToken kind)

/-- Accept nothing where the parser declines. -/
def optional (parser : Parser α) : Parser (Option α) :=
  fun cursor =>
    match parser cursor with
    | .accept value after => .accept (some value) after
    | .decline => .accept none cursor
    | .fail diagnostic => .fail diagnostic

/-- Read items until one declines. Reading also stops after an item that took
no lexeme, so that it ends for every parser. -/
def many (item : Parser α) : Parser (List α) :=
  fun cursor =>
    match item cursor with
    | .accept value after =>
      if after.rest.length < cursor.rest.length then (many item after).map (value :: ·)
      else .accept [value] after
    | .decline => .accept [] cursor
    | .fail diagnostic => .fail diagnostic
termination_by cursor => cursor.rest.length

/-- Read items with a separator between them. A separator after the last item is
allowed. -/
def sepEndBy (item : Parser α) (separator : Parser β) : Parser (List α) := do
  let separated ← many (item <* separator)
  let last ← optional item
  return separated ++ last.toList

/-- Read at least one item, with a separator between them. -/
def sepBy (item : Parser α) (separator : Parser β) : Parser (List α) := do
  let first ← item
  let more ← many (separator *> item)
  return first :: more

end Parser

end PatternSyntax
