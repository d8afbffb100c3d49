import PatternSyntax.Grammar.Parser
import PatternSyntax.Pattern.Modes

/-!
# Walking over lexemes

The grammar reads at cursors, which are values: what declines gives them back
because it has nowhere to put them. A walker reads the same lexemes in place. It
has one position, one set of modes and one depth, and whoever moves on, sets a
mode or enters a level changes them for everybody that comes after. Whether a
production that finds nothing leaves the walker as it was is then a question about
the production.

Whether a walk ends is another question. Its loops go on as long as they find
something, and expressions lie within each other as the source has it. A walk is
therefore given a number of rounds. Each loop may take so many, expressions may lie
so deep, and what would take more rounds has no answer.
-/

namespace PatternSyntax

/-- Someone who reads lexemes in place. -/
structure Walker where
  /-- All lexemes, those that have been read among them. -/
  lexemes : List Lexeme
  /-- The span of the end of the source. -/
  finish : Span
  /-- How many levels may lie within each other. -/
  maxDepth : Nat
  /-- How many lexemes have been read. -/
  position : Nat
  /-- The settings in force. -/
  modes : Modes
  /-- How many levels have been entered and not been left. -/
  depth : Nat

namespace Walker

/-- The lexeme that has not been read yet, if there is one. -/
def next? (walker : Walker) : Option Lexeme :=
  walker.lexemes[walker.position]?

/-- The span of the next lexeme, or of the end of the source. -/
def here (walker : Walker) : Span :=
  (walker.next?.map Lexeme.span).getD walker.finish

/-- The span of the lexeme that was read last. -/
def previous (walker : Walker) : Span :=
  match walker.position with
  | 0 => .absent
  | position + 1 => (walker.lexemes[position]?.map Lexeme.span).getD .absent

/-- Go on by some lexemes. -/
def forward (walker : Walker) (count : Nat) : Walker :=
  { walker with position := walker.position + count }

/-- Enter some levels. -/
def enter (walker : Walker) (count : Nat) : Walker :=
  { walker with depth := walker.depth + count }

/-- Whether all lexemes have been read. -/
def isAtEnd (walker : Walker) : Bool :=
  walker.lexemes.length ≤ walker.position

/-- How many lexemes have not been read yet. -/
def remaining (walker : Walker) : Nat :=
  walker.lexemes.length - walker.position

/-- How many levels can still be entered. -/
def levels (walker : Walker) : Nat :=
  walker.maxDepth - walker.depth

/-- Where the walker stands, as a place between two lexemes. -/
def cursor (walker : Walker) : Cursor :=
  ⟨walker.lexemes.drop walker.position, walker.previous, walker.finish⟩

@[simp]
theorem forward_forward (walker : Walker) (first second : Nat) :
    (walker.forward first).forward second = walker.forward (first + second) := by
  simp only [forward, Nat.add_assoc]

theorem forward_remaining_le (walker : Walker) (count : Nat) :
    (walker.forward count).remaining ≤ walker.remaining :=
  Nat.sub_le_sub_left (Nat.le_add_right _ _) _

/-- Whoever goes on has fewer lexemes left. -/
theorem forward_remaining_lt {walker : Walker} {count bound : Nat} (positive : 0 < count)
    (fits : walker.position + count ≤ walker.lexemes.length)
    (enough : walker.remaining < bound + 1) : (walker.forward count).remaining < bound := by
  simp only [remaining, forward] at enough ⊢
  omega

@[simp]
theorem forward_levels (walker : Walker) (count : Nat) :
    (walker.forward count).levels = walker.levels :=
  rfl

theorem enter_levels (walker : Walker) (count : Nat) :
    (walker.enter count).levels = walker.levels - count :=
  Nat.sub_add_eq walker.maxDepth walker.depth count

theorem isAtEnd_eq_isEmpty (walker : Walker) : walker.isAtEnd = walker.cursor.rest.isEmpty := by
  rw [isAtEnd, cursor, Bool.eq_iff_iff, decide_eq_true_iff, List.isEmpty_iff, List.drop_eq_nil_iff]

theorem next?_eq_head? (walker : Walker) : walker.next? = walker.cursor.rest.head? :=
  List.head?_drop.symm

theorem cursor_span (walker : Walker) : walker.cursor.span = walker.here := by
  rw [here, next?_eq_head?, Cursor.span]
  cases walker.cursor.rest <;> rfl

end Walker

/-- A way to read lexemes in place, with so many rounds. It ends with a value, or it ends
the whole reading with a diagnostic, or the rounds are not enough. -/
abbrev Walk : Type → Type :=
  ReaderT Nat (StateT Walker (ExceptT Diagnostic Option))

namespace Walk

variable {α β : Type}

/-- What comes of a walk. -/
def outcome (walk : Walk α) (rounds : Nat) (walker : Walker) :
    Option (Except Diagnostic (α × Walker)) :=
  walk rounds walker

variable {rounds : Nat}

theorem outcome_pure (value : α) (walker : Walker) :
    (pure value : Walk α).outcome rounds walker = some (.ok (value, walker)) :=
  rfl

theorem outcome_bind_of_ok {first : Walk α} {next : α → Walk β} {value : α}
    {walker after : Walker} (done : first.outcome rounds walker = some (.ok (value, after))) :
    (first >>= next).outcome rounds walker = (next value).outcome rounds after := by
  change (Option.bind (first.outcome rounds walker) _ : Option _) = _
  rw [done]
  rfl

theorem outcome_bind_of_error {first : Walk α} {next : α → Walk β} {diagnostic : Diagnostic}
    {walker : Walker} (failed : first.outcome rounds walker = some (.error diagnostic)) :
    (first >>= next).outcome rounds walker = some (.error diagnostic) := by
  change (Option.bind (first.outcome rounds walker) _ : Option _) = _
  rw [failed]
  rfl

/-- The number of rounds that a loop may take. -/
def allowance : Walk Nat :=
  read

/-- What takes too many rounds. -/
def never : Walk α :=
  fun _ _ => none

/-! ## Looking -/

/-- The span of what comes next. -/
def here : Walk Span := do
  return (← get).here

/-- The span of what was read last. -/
def previous : Walk Span := do
  return (← get).previous

/-- The text of the next lexeme, and nothing at the end. -/
def nextText : Walk String := do
  return ((← get).next?.map Lexeme.text).getD ""

/-- The settings in force. -/
def modes : Walk Modes := do
  return (← get).modes

/-- End the reading at what comes next. -/
def failHere (diagnose : Span → Diagnostic) : Walk α := do
  throw (diagnose (← here))

/-- Whether the next lexeme is of the given kind. -/
def check (kind : TokenKind) : Walk Bool := do
  return (← get).next?.any fun lexeme => lexeme.kind = kind

/-! ## Moving -/

/-- Go on by one lexeme if there is one. -/
def advance : Walk Unit :=
  modify fun walker => if walker.next?.isSome then walker.forward 1 else walker

/-- Read one lexeme if it means something to the caller. -/
def acceptMap (read : Lexeme → Option α) : Walk (Option α) := do
  match (← get).next?.bind read with
  | none => return none
  | some value =>
    advance
    return some value

/-- Read one lexeme of the given kind. -/
def accept (kind : TokenKind) : Walk (Option Lexeme) :=
  acceptMap fun lexeme => if lexeme.kind = kind then some lexeme else none

/-- Read one lexeme of the given kind and text. -/
def acceptText (kind : TokenKind) (text : String) : Walk (Option Lexeme) :=
  acceptMap fun lexeme => if lexeme.kind = kind ∧ lexeme.text = text then some lexeme else none

/-- Read a reserved name. -/
def keyword (word : String) : Walk (Option Lexeme) :=
  acceptText .reservedName word

/-- Read a name that has a meaning of its own only where this is called. -/
def contextual (word : String) : Walk (Option Lexeme) :=
  acceptText .identifier word

/-- End the reading at what comes next where nothing is found. -/
def orFail (walk : Walk (Option α)) (diagnose : Span → Diagnostic) : Walk α := do
  match ← walk with
  | some value => return value
  | none => failHere diagnose

/-- Read one lexeme of the given kind and fail where there is none. -/
def expect (kind : TokenKind) : Walk Lexeme :=
  (accept kind).orFail (.missingToken kind)

/-- Go on to the second walk where the first one finds nothing, from wherever the
first one has left the walker. -/
def orElse (first second : Walk (Option α)) : Walk (Option α) := do
  match ← first with
  | some value => return some value
  | none => second

/-! ## Loops -/

/-- Read items until there is none, in so many rounds. -/
def manyWithin (item : Walk (Option α)) : (rounds : Nat) → Walk (List α)
  | 0 => never
  | rounds + 1 => do
    match ← item with
    | none => return []
    | some value => return value :: (← manyWithin item rounds)

/-- Read items until there is none. -/
def many (item : Walk (Option α)) : Walk (List α) := do
  manyWithin item (← allowance)

/-- Read items until there is none, or none has a separator behind it, in so many
rounds. -/
def listedWithin (item : Walk (Option α)) (separator : Walk (Option β)) :
    (rounds : Nat) → Walk (List α)
  | 0 => never
  | rounds + 1 => do
    match ← item with
    | none => return []
    | some value =>
      match ← separator with
      | none => return [value]
      | some _ => return value :: (← listedWithin item separator rounds)

/-- Read items until there is none, or none has a separator behind it. -/
def listed (item : Walk (Option α)) (separator : Walk (Option β)) : Walk (List α) := do
  listedWithin item separator (← allowance)

/-! ## Levels and modes -/

/-- Enter one level, or end the reading at the given place. -/
def enterNesting (span : Span) : Walk Unit := do
  let walker ← get
  if walker.maxDepth ≤ walker.depth then throw (.ofFault .tooDeep span)
  else set (walker.enter 1)

/-- Leave some levels. -/
def leaveNesting (count : Nat) : Walk Unit :=
  modify fun walker => { walker with depth := walker.depth - count }

/-- Let other settings be in force from here on. -/
def setModes (modes : Modes) : Walk Unit :=
  modify fun walker => { walker with modes := modes }

end Walk

end PatternSyntax
