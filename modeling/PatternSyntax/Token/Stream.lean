import PatternSyntax.Text.Escaped
import PatternSyntax.Token.Recognition

/-!
# Drawing tokens from a source

A token stream is the part of a source that has not been read yet, with the byte
offset at which it begins. Reading moves the stream forward by whole characters
and never back. Blanks and comments, which run from `#` to the end of the line,
separate tokens and produce none.
-/

namespace PatternSyntax

mutual

/-- The number of characters before the next token. -/
def triviaLength : List Char → Nat
  | [] => 0
  | c :: rest =>
    if isBlank c then triviaLength rest + 1
    else if c = '#' then commentLength rest + 1
    else 0

/-- The number of characters before the next token when a comment has begun. -/
def commentLength : List Char → Nat
  | [] => 0
  | c :: rest =>
    if c = '\n' then triviaLength rest + 1
    else commentLength rest + 1

end

/-- What is left of a source, and the byte offset at which it begins. -/
structure TokenStream where
  position : Nat
  rest : List Char

namespace TokenStream

/-- A source of which nothing has been read. -/
def ofSource (source : String) : TokenStream :=
  ⟨0, source.toList⟩

/-- Read the given number of characters. -/
def advance (stream : TokenStream) (count : Nat) : TokenStream :=
  ⟨stream.position + Text.utf8Size (stream.rest.take count), stream.rest.drop count⟩

/-- Read up to the beginning of the next token. -/
def skipTrivia (stream : TokenStream) : TokenStream :=
  stream.advance (triviaLength stream.rest)

/-- Read one token. At the end of the source there is none, and what came before
the end has been read. -/
def next (stream : TokenStream) : Option Token × TokenStream :=
  let start := stream.skipTrivia
  match start.rest with
  | [] => (none, start)
  | first :: rest =>
    let (kind, count) := Recognition.recognize first rest
    let stop := start.advance (count + 1)
    (some ⟨kind, Span.ofOffsets start.position stop.position⟩, stop)

@[simp]
theorem advance_rest (stream : TokenStream) (count : Nat) :
    (stream.advance count).rest = stream.rest.drop count :=
  rfl

theorem skipTrivia_rest_length_le (stream : TokenStream) :
    stream.skipTrivia.rest.length ≤ stream.rest.length := by
  simp [skipTrivia]

theorem next_rest_length_lt {stream after : TokenStream} {token : Token}
    (drawn : stream.next = (some token, after)) : after.rest.length < stream.rest.length := by
  have skipped := stream.skipTrivia_rest_length_le
  unfold next at drawn
  dsimp only at drawn
  split at drawn
  · cases drawn
  · rename_i first rest found
    cases drawn
    rw [found, List.length_cons] at skipped
    rw [advance_rest, found, List.drop_succ_cons, List.length_drop]
    omega

/-- All tokens that are left. -/
def tokens (stream : TokenStream) : List Token :=
  match drawn : stream.next with
  | (none, _) => []
  | (some token, after) =>
    have := next_rest_length_lt drawn
    token :: tokens after
termination_by stream.rest.length

theorem tokens_of_next_eq_none {stream after : TokenStream} (drawn : stream.next = (none, after)) :
    stream.tokens = [] := by
  rw [tokens]
  split <;> simp_all

theorem tokens_of_next_eq_some {stream after : TokenStream} {token : Token}
    (drawn : stream.next = (some token, after)) : stream.tokens = token :: after.tokens := by
  rw [tokens]
  split <;> simp_all

/-- The position, and what is left between quotes. -/
def describe (stream : TokenStream) : String :=
  "Lexer \x7b position: " ++ toString stream.position ++ ", remaining: " ++
    Text.escaped stream.rest ++ " \x7d"

end TokenStream

/-- The tokens of a source, in order. -/
def tokenize (source : String) : List Token :=
  (TokenStream.ofSource source).tokens

end PatternSyntax
