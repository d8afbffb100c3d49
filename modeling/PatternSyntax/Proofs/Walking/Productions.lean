import PatternSyntax.Parse
import PatternSyntax.Proofs.Spelling.Expression
import PatternSyntax.Proofs.Walking.Walker

/-!
# The productions as walks

Each production of the grammar, read in place. What a production is made of is
checked as it comes: where the first part is not there it finds nothing, and where
a later part is missing it ends the reading.

The settings and the depth belong to the walker. An expression puts the settings
back when it is done, and whoever enters levels leaves them again. What holds
expressions is given the walk of an expression, and the recursion is tied at the end,
over the rounds.
-/

namespace PatternSyntax

/-- Before the first of the tokens, with the settings that are in force there. -/
def Walker.ofTokens (source : String) (tokens : List Token) (options : Options) : Walker :=
  let size := Text.utf8Size source.toList
  { lexemes := tokens.map fun token => token.lexeme source
    finish := .ofOffsets size size
    maxDepth := options.maxDepth
    position := 0
    modes := options.modes
    depth := 0 }

namespace Walk

open PatternSyntax.Text

variable {α : Type}

/-! ## Terminals -/

/-- Read a number. -/
def number (read : List Char → Option α) : Walk (Option α) := do
  let some lexeme ← accept .number | return none
  match read lexeme.text.toList with
  | some value => return some value
  | none => throw (.ofFault .numberTooLarge lexeme.span)

/-- Read a number that has to be there. -/
def expectNumber (read : List Char → Option α) : Walk α :=
  (number read).orFail (.missingToken .number)

/-- Read a quoted text. -/
def literal : Walk (Option Literal) := do
  let some lexeme ← accept .string | return none
  return some ⟨String.ofList (Quoted.decode lexeme.text.toList), lexeme.span⟩

/-- Read a quoted text that has to be there. -/
def expectLiteral : Walk Literal :=
  literal.orFail (.missingToken .string)

/-- Read a code point, with its place. -/
def codePoint : Walk (Option (Char × Span)) := do
  let some lexeme ← accept .codePoint | return none
  match Grammar.codePointChar? lexeme.text.toList with
  | some c => return some (c, lexeme.span)
  | none => throw (.ofFault .noSuchCharacter lexeme.span)

/-! ## Character classes -/

/-- Read a quoted text, a code point or the name of a control character. -/
def classUnit : Walk (Option Grammar.ClassUnit) :=
  orElse (do
    let some lexeme ← accept .string | return none
    return some (.text (Quoted.decode lexeme.text.toList))) <|
  orElse (do
    let some (c, _) ← codePoint | return none
    return some (.char c)) <|
  acceptMap fun lexeme =>
    if lexeme.kind = .identifier then (Grammar.controlChar? lexeme.text).map .char else none

/-- The unit as an end of a range, which has to be one character. -/
def endpoint (span : Span) : Grammar.ClassUnit → Walk Char
  | .char c => return c
  | .text [] => throw (.ofFault .emptyEndpoint span)
  | .text [c] => return c
  | .text (_ :: _ :: _) => throw (.ofFault .longEndpoint span)

/-- Read one unit, or a range between two. -/
def unitOrRange : Walk (Option (List ClassItem)) := do
  let firstSpan ← here
  let some first ← classUnit | return none
  match ← accept .dash with
  | none => return some first.items
  | some _ =>
    let lastSpan ← here
    let last ← classUnit.orFail (.missing "code point or character")
    let lower ← endpoint firstSpan first
    let upper ← endpoint lastSpan last
    if upper < lower then
      throw (.ofFault .descendingRange (firstSpan.join lastSpan))
    else return some [.range lower upper]

/-- Read the name of a character set, with or without a qualifier. -/
def namedItem (negative : Bool) : Walk (Option ClassItem) := do
  let some first ← accept .identifier | return none
  match ← accept .colon with
  | none => return some (.named first.text none negative first.span)
  | some _ =>
    let second ← expect .identifier
    return some (.named second.text (some first.text) negative (first.span.join second.span))

/-- Read the members that one part of a class gives. An exclamation mark is read
before it is known what stands behind it. -/
def classItem : Walk (Option (List ClassItem)) := do
  match ← accept .bang with
  | none => orElse unitOrRange do
      let some item ← namedItem false | return none
      return some [item]
  | some bang =>
    match ← unitOrRange with
    | some _ => throw (.ofFault .negatedCharacters bang.span)
    | none =>
      match ← namedItem true with
      | some item => return some [item]
      | none => failHere (.missingToken .identifier)

/-- Read a character class. -/
def charClass : Walk (Option Pattern) := do
  let some opening ← accept .openBracket | return none
  let items ← many classItem
  let closing ← (accept .closeBracket).orFail
    (.missing "character class, string, code point, Unicode property or `]`")
  let span := opening.span.join closing.span
  match CharClass.ofItems? items.flatten (← modes).unicode span with
  | some members => return some (.charClass members)
  | none => throw (.ofFault .emptyClass span)

/-! ## Atoms -/

/-- Check the name of a group. -/
def groupName (name : Lexeme) : Walk GroupKind :=
  if !name.text.toList.all Char.isAlphanum then
    throw (.ofFault .groupNameCharacters name.span)
  else if Grammar.maxGroupNameLength < name.text.toList.length then
    throw (.ofFault .groupNameLength name.span)
  else return .named name.text

/-- Read up to and with the opening parenthesis. -/
def groupOpening : Walk (Option (GroupKind × Span)) :=
  orElse (do
    let some word ← keyword "atomic" | return none
    let _ ← expect .openParen
    return some (.atomic, word.span)) <|
  orElse (do
    let some colon ← accept .colon | return none
    let kind ←
      match ← accept .identifier with
      | some name => groupName name
      | none => pure .capturing
    let _ ← expect .openParen
    return some (kind, colon.span)) <|
  do
    let some opening ← accept .openParen | return none
    return some (.plain, opening.span)

/-- Read a boundary, which is a single operator. -/
def boundary : Walk (Option Pattern) :=
  acceptMap fun lexeme => (Grammar.boundaryOf? lexeme.kind).map (.boundary · lexeme.span)

/-- Read what a reference refers to. -/
def referenceTarget : Walk ReferenceTarget := do
  match ← accept .plus with
  | some _ => return .relative (← expectNumber Grammar.offset?)
  | none =>
    match ← accept .dash with
    | some _ => return .relative (-(← expectNumber Grammar.offset?))
    | none =>
      match ← number Grammar.count? with
      | some index => return .number index
      | none =>
        let name ← (accept .identifier).orFail (.missing "number or group name")
        return .named name.text

/-- Read a reference to a group. -/
def reference : Walk (Option Pattern) := do
  let some mark ← accept .doubleColon | return none
  let target ← referenceTarget
  let stop ← previous
  return some (.reference target (mark.span.join stop))

/-- Read a code point by itself, which is a class of one character. -/
def codePointClass : Walk (Option Pattern) := do
  let some (c, span) ← codePoint | return none
  return some (.charClass (.singleton c (← modes).unicode span))

/-- Read the base of a number range, if it is given. -/
def radix : Walk (Option Nat) := do
  let some _ ← keyword "base" | return none
  let base ← expectNumber Grammar.word?
  if 2 ≤ base ∧ base ≤ 36 then return some base
  else throw (.ofFault .baseOutOfRange (← previous))

/-- Read a number range. -/
def numberRange : Walk (Option Pattern) := do
  let some word ← keyword "range" | return none
  let first ← expect .string
  let _ ← expect .dash
  let last ← expect .string
  let base ← radix
  let stop ← previous
  return some (.numberRange (String.ofList (Quoted.inner first.text.toList))
    (String.ofList (Quoted.inner last.text.toList)) (base.getD 10) (word.span.join stop))

/-- Read a regular expression, which is kept as text. -/
def regex : Walk (Option Pattern) := do
  let some word ← keyword "regex" | return none
  let text ← expectLiteral
  return some (.regex text.content (word.span.join text.span))

/-- Read a quoted text as a pattern. -/
def quoted : Walk (Option Pattern) := do
  let some text ← literal | return none
  return some (.literal text)

/-- Read the use of a name. -/
def use : Walk (Option Pattern) := do
  let some name ← accept .identifier | return none
  return some (.use name.text name.span)

/-- Read a dot. -/
def dot : Walk (Option Pattern) := do
  let some dot ← accept .dot | return none
  return some (.dot dot.span)

/-- Read the word for the whole pattern. -/
def recursion : Walk (Option Pattern) := do
  let some word ← keyword "recursion" | return none
  return some (.recursion word.span)

/-- Read the first atom that is there and holds no expression. -/
def leaf : Walk (Option Pattern) :=
  orElse quoted <| orElse charClass <| orElse boundary <| orElse reference <|
    orElse codePointClass <| orElse numberRange <| orElse regex <| orElse use <|
    orElse dot recursion

/-! ## Repetitions -/

/-- Read bounds between braces. -/
def bracedBounds : Walk (Option Bounds) := do
  let some _ ← accept .openBrace | return none
  let start ← here
  let lower ← number Grammar.count?
  let comma ← accept .comma
  let upper ← number Grammar.count?
  let stop ← previous
  let bounds ←
    match comma, lower, upper with
    | some _, lower, none => pure ⟨lower.getD 0, none⟩
    | some _, lower, some upper =>
      if upper < lower.getD 0 then throw (.ofFault .descendingBounds (start.join stop))
      else pure ⟨lower.getD 0, some upper⟩
    | none, some _, some _ => throw (.missing "`\x7d` or `,`" stop)
    | none, some exact, none => pure ⟨exact, some exact⟩
    | none, none, _ => failHere (.missing "number")
  let _ ← expect .closeBrace
  return some bounds

/-- Read an operator, and give what it stands for. -/
def operator (kind : TokenKind) (value : α) : Walk (Option α) := do
  let some _ ← accept kind | return none
  return some value

/-- Read how often. -/
def repetitionBounds : Walk (Option Bounds) :=
  orElse (operator .plus ⟨1, none⟩) <| orElse (operator .star ⟨0, none⟩) <|
    orElse (operator .questionMark ⟨0, some 1⟩) bracedBounds

/-- Read what is preferred; where nothing is said, the setting in force decides. -/
def quantifier : Walk Quantifier := do
  match ← keyword "greedy" with
  | some _ => return .greedy
  | none =>
    match ← keyword "lazy" with
    | some _ => return .lazy
    | none => return if (← modes).lazy then .defaultLazy else .defaultGreedy

/-- Read a repetition, with its place. -/
def repetition : Walk (Option (Bounds × Quantifier × Span)) := do
  let start ← here
  let some bounds ← repetitionBounds | return none
  let preference ← quantifier
  let stop ← previous
  let secondStart ← here
  match ← repetitionBounds with
  | none => return some (bounds, preference, start.join stop)
  | some _ =>
    let secondStop ← previous
    throw (.ofFault .repeatedRepetition (secondStart.join secondStop))

/-- Read repetitions until there is none, each of what stands before it, in so many
rounds. -/
def repeatedWithin : (rounds : Nat) → Pattern → Walk Pattern
  | 0, _ => never
  | rounds + 1, body => do
    match ← repetition with
    | none => return body
    | some (bounds, quantifier, span) =>
      repeatedWithin rounds (.repetition body bounds quantifier (body.span.join span))

/-- Read repetitions until there is none. -/
def repeated (body : Pattern) : Walk Pattern := do
  repeatedWithin (← allowance) body

/-- Read exclamation marks in so many rounds. Each enters a level, which is not left
before the end of what the marks are put to. -/
def bangsWithin : (rounds : Nat) → Span → Walk (Nat × Span)
  | 0, _ => never
  | rounds + 1, notSpan => do
    if ← check .bang then
      enterNesting (← here)
      advance
      let (count, joined) ← bangsWithin rounds (notSpan.join (← previous))
      return (count + 1, joined)
    else return (0, notSpan)

/-- Read exclamation marks, and join their spans to the given one. -/
def bangs (notSpan : Span) : Walk (Nat × Span) := do
  bangsWithin (← allowance) notSpan

/-! ## Test blocks -/

/-- Read what a test calls a capturing group. -/
def captureLabel : Walk (Option CaptureLabel) :=
  orElse (do
    let some index ← number Grammar.count? | return none
    return some (.number index)) <|
  do
    let some name ← accept .identifier | return none
    return some (.name name.text)

/-- Read a group and the text that it is to capture. -/
def capture : Walk (Option Capture) := do
  let some label ← captureLabel | return none
  let labelSpan ← previous
  let _ ← expect .colon
  let text ← expectLiteral
  return some ⟨label, labelSpan, text⟩

/-- Read the captures that a match lists, if it lists any. -/
def captures : Walk (List Capture) := do
  match ← contextual "as" with
  | none => return []
  | some _ =>
    let _ ← expect .openBrace
    let captures ← listed capture (accept .comma)
    let _ ← expect .closeBrace
    return captures

/-- Read one text that is to be matched. -/
def testMatch : Walk TestMatch := do
  let text ← expectLiteral
  let captures ← captures
  let stop ← previous
  return ⟨text, captures, text.span.join stop⟩

/-- Read one more text with the comma before it. -/
def nextMatch : Walk (Option TestMatch) := do
  let some _ ← accept .comma | return none
  return some (← testMatch)

/-- Read the matches of a case, which may be left out. -/
def testMatches : Walk (List TestMatch) := do
  if (← nextText) = "in" then return []
  else
    let first ← testMatch
    let more ← many nextMatch
    return first :: more

/-- Read the longer text that matches are to be found in. -/
def haystack : Walk (Option Literal) := do
  let some _ ← contextual "in" | return none
  return some (← expectLiteral)

/-- Read a case that expects matches. -/
def matchCase : Walk (Option TestCase) := do
  let some word ← contextual "match" | return none
  let expected ← testMatches
  let within ← haystack
  let stop ← expect .semicolon
  match within, expected with
  | some text, _ => return some (.within text expected (word.span.join stop.span))
  | none, [only] => return some (.whole only)
  | none, [] => failHere (.missingToken .string)
  | none, first :: more =>
    let last := more.getLastD first
    throw (.ofFault .matchesWithoutHaystack (first.span.join last.span))

/-- Read a case that expects none. -/
def rejectCase : Walk (Option TestCase) := do
  let some word ← contextual "reject" | return none
  let within ← contextual "in"
  let text ← expectLiteral
  let stop ← expect .semicolon
  return some (.reject text within.isSome (word.span.join stop.span))

/-- Read one case. -/
def testCase : Walk (Option TestCase) :=
  orElse matchCase rejectCase

/-- Read a test block, with its place. -/
def testBlock : Walk (Option (Directive × Span)) := do
  let some word ← keyword "test" | return none
  let _ ← expect .openBrace
  let cases ← many testCase
  let closing ← expect .closeBrace
  let span := word.span.join closing.span
  return some (.tests cases span, span)

/-! ## Statements -/

/-- Read a setting by its name. -/
def setting : Walk (Option Setting) :=
  orElse (do
    let some _ ← keyword "lazy" | return none
    return some .lazy) <|
  do
    let some _ ← contextual "unicode" | return none
    return some .unicode

/-- Read the word that turns a setting on or off, with its place. -/
def toggleWord : Walk (Option (Bool × Span)) :=
  orElse (do
    let some word ← keyword "enable" | return none
    return some (true, word.span)) <|
  do
    let some word ← keyword "disable" | return none
    return some (false, word.span)

/-- Read a statement that turns a setting on or off, with its place. -/
def toggle : Walk (Option (Directive × Span)) := do
  let some (value, start) ← toggleWord | return none
  let target ← setting.orFail (.missing "`lazy` or `unicode`")
  let stop ← expect .semicolon
  let span := start.join stop.span
  return some (.toggle target value span, span)

/-- Put statements before what they apply to. The span of each of them reaches to the
end of what stands after the last one. -/
def stateOver (stated : List (Statement × Span)) (body : Pattern) : Pattern :=
  stated.foldr (fun (content, span) whole => content.scope whole (span.join body.span)) body

/-! ## Expressions -/

section

variable (expression : Walk Pattern)

/-- Read an expression between parentheses. -/
def group : Walk (Option Pattern) := do
  let some (kind, start) ← groupOpening | return none
  let body ← expression
  let closing ← (accept .closeParen).orFail (.missing "`)` or an expression")
  return some (.group kind body (start.join closing.span))

/-- Read the first atom that is there. -/
def atom : Walk (Option Pattern) :=
  orElse (group expression) leaf

/-- Read a lookaround, which reaches as far as an expression can. -/
def lookaround : Walk (Option Pattern) := do
  let some (kind, start) ← acceptMap fun lexeme =>
      if lexeme.kind = .lookAhead then some (Lookaround.ahead, lexeme.span)
      else if lexeme.kind = .lookBehind then some (Lookaround.behind, lexeme.span)
      else none
    | return none
  let body ← expression
  return some (.lookaround kind body (start.join body.span))

/-- Read what exclamation marks are put to, and the repetitions behind it. -/
def negated (count : Nat) (notSpan : Span) : Walk (Option Pattern) := do
  match ← orElse (lookaround expression) (atom expression) with
  | some body => return some (← repeated (Grammar.negate notSpan count body))
  | none => if count = 0 then return none else failHere (.missing "expression")

/-- Read one term. The levels of its exclamation marks are left when it is done. -/
def term : Walk (Option Pattern) := do
  let (count, notSpan) ← bangs (← here)
  let found ← negated expression count notSpan
  leaveNesting count
  return found

/-- Read terms side by side. -/
def sequence : Walk (Option Pattern) := do
  let some first ← term expression | return none
  let more ← many (term expression)
  return some (.sequenceOf first more)

/-- Read one more operand with the ampersand before it. -/
def nextOperand : Walk (Option Pattern) := do
  let some _ ← accept .ampersand | return none
  match ← sequence expression with
  | some operand => return some operand
  | none => failHere (.missing "expression")

/-- Read intersected operands. -/
def intersection : Walk (Option Pattern) := do
  let start ← here
  let some first ← orElse (nextOperand expression) (sequence expression) | return none
  let more ← many (nextOperand expression)
  let stop ← previous
  return some (.intersectionOf (start.join stop) first more)

/-- Read one more alternative with the bar before it. -/
def nextAlternative : Walk (Option Pattern) := do
  let some _ ← accept .pipe | return none
  match ← intersection expression with
  | some alternative => return some alternative
  | none => throw (.ofFault .loneBar (← previous))

/-- Read alternatives, which may be left out. -/
def alternation : Walk Pattern := do
  let start ← here
  match ← orElse (nextAlternative expression) (intersection expression) with
  | none => return .empty
  | some first =>
    let more ← many (nextAlternative expression)
    return .alternationOf start first more

/-- Read a binding. -/
def binding : Walk (Option (Statement × Span)) := do
  let some word ← keyword "let" | return none
  let name ← expect .identifier
  let _ ← expect .equals
  let bound ← alternation expression
  let stop ← (accept .semicolon).orFail (.missing "expression or `;`")
  return some (.binding name.text name.span bound, word.span.join stop.span)

/-- Read a statement that is a directive. -/
def directive (walk : Walk (Option (Directive × Span))) : Walk (Option (Statement × Span)) := do
  let some (content, span) ← walk | return none
  return some (.directive content, span)

/-- Read a statement, with its place. -/
def statement : Walk (Option (Statement × Span)) :=
  orElse (directive toggle) <| orElse (binding expression) (directive testBlock)

/-- Read statements until there is none, in so many rounds. Each enters a level, and its
settings are in force for the next one. -/
def statementsWithin : (rounds : Nat) → Walk (List (Statement × Span))
  | 0 => never
  | rounds + 1 => do
    match ← statement expression with
    | none => return []
    | some (content, span) =>
      enterNesting span
      setModes (content.modes (← modes))
      let more ← statementsWithin rounds
      return (content, span) :: more

/-- Read statements until there is none. -/
def statements : Walk (List (Statement × Span)) := do
  statementsWithin expression (← allowance)

/-- Read statements and what they apply to. -/
def scope : Walk Pattern := do
  let stated ← statements expression
  let body ← alternation expression
  leaveNesting stated.length
  return stateOver stated body

/-- Read an expression whose inner expressions are given. It takes one level, and puts
the settings back. -/
def expressionAround : Walk Pattern := do
  enterNesting (← here)
  let outer ← modes
  let whole ← scope expression
  setModes outer
  leaveNesting 1
  return whole

end

/-- Read an expression with its statements, where expressions lie so deep within each
other. -/
def expressionWithin : (rounds : Nat) → Walk Pattern
  | 0 => never
  | rounds + 1 => expressionAround (expressionWithin rounds)

/-- Read an expression with its statements. -/
def expression : Walk Pattern := do
  expressionWithin (← allowance)

/-! ## Sources -/

/-- Read everything as one expression. -/
def whole : Walk Pattern := do
  let pattern ← expression
  if (← get).isAtEnd then return pattern
  else failHere (.ofFault .leftover)

/-- Read the given tokens of a source in place, with so many rounds. They are taken as they
are. -/
def parseTokens (rounds : Nat) (source : String) (tokens : List Token) (options : Options) :
    Option (Except (List Diagnostic) Pattern) :=
  match tokens.filterMap Diagnostic.ofToken? with
  | [] =>
    (whole.outcome rounds (.ofTokens source tokens options)).map fun answer =>
      (answer.map Prod.fst).mapError fun diagnostic => [diagnostic]
  | diagnostics => some (.error diagnostics)

end Walk

end PatternSyntax
