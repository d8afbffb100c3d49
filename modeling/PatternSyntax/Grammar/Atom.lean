import PatternSyntax.Grammar.CharClass

/-!
# Atoms

The patterns that hold together by themselves: groups, quoted texts, character
classes, boundaries, references, code points, number ranges, regular
expressions, names, the dot and the recursion.

What stands between parentheses is a whole expression, which is read by the
parser that is given.
-/

namespace PatternSyntax.Grammar

open PatternSyntax.Parser
open PatternSyntax.Text

/-- The greatest length of a group name. -/
def maxGroupNameLength : Nat :=
  128

/-- Check the name of a group. -/
def groupName (name : Lexeme) : Parser GroupKind :=
  if !name.text.toList.all Char.isAlphanum then
    fail (.ofFault .groupNameCharacters name.span)
  else if maxGroupNameLength < name.text.toList.length then
    fail (.ofFault .groupNameLength name.span)
  else return .named name.text

/-- Read up to and with the opening parenthesis. -/
def groupOpening : Parser (GroupKind × Span) :=
  (do
    let word ← keyword "atomic"
    let _ ← expect .openParen
    return (.atomic, word.span)) <|>
  (do
    let colon ← accept .colon
    let kind ←
      match ← optional (accept .identifier) with
      | some name => groupName name
      | none => pure .capturing
    let _ ← expect .openParen
    return (kind, colon.span)) <|>
  (do
    let opening ← accept .openParen
    return (.plain, opening.span))

/-- Read an expression between parentheses. -/
def group (expression : Parser Pattern) : Parser Pattern := do
  let (kind, start) ← groupOpening
  let body ← expression
  let closing ← (accept .closeParen).orFail (.missing "`)` or an expression")
  return .group kind body (start.join closing.span)

/-- The boundary that an operator stands for. -/
def boundaryOf? : TokenKind → Option Boundary
  | .caret => some .start
  | .dollar => some .stop
  | .percent => some .word
  | .angleLeft => some .wordStart
  | .angleRight => some .wordStop
  | _ => none

/-- Read a boundary, which is a single operator. -/
def boundary : Parser Pattern :=
  acceptMap fun lexeme => (boundaryOf? lexeme.kind).map (.boundary · lexeme.span)

/-- Read what a reference refers to. After a minus sign the offset is turned
around. -/
def referenceTarget : Parser ReferenceTarget :=
  (do
    let _ ← accept .plus
    let offset ← expectNumber offset?
    return .relative offset) <|>
  (do
    let _ ← accept .dash
    let offset ← expectNumber offset?
    return .relative (-offset)) <|>
  (do
    let index ← number count?
    return .number index) <|>
  (do
    let name ← (accept .identifier).orFail (.missing "number or group name")
    return .named name.text)

/-- Read a reference to a group. -/
def reference : Parser Pattern := do
  let mark ← accept .doubleColon
  let target ← referenceTarget
  let stop ← previous
  return .reference target (mark.span.join stop)

/-- Read a code point by itself, which is a class of one character. -/
def codePointClass (unicode : Bool) : Parser Pattern := do
  let (c, span) ← codePoint
  return .charClass (.singleton c unicode span)

/-- Read the base of a number range. There are digits for bases up to 36. -/
def radix : Parser Nat := do
  let _ ← keyword "base"
  let base ← expectNumber word?
  if 2 ≤ base ∧ base ≤ 36 then return base
  else
    let span ← previous
    fail (.ofFault .baseOutOfRange span)

/-- Read a number range. Its ends are taken as they stand between the quotes. -/
def numberRange : Parser Pattern := do
  let word ← keyword "range"
  let first ← expect .string
  let _ ← expect .dash
  let last ← expect .string
  let base ← optional radix
  let stop ← previous
  return .numberRange (String.ofList (Quoted.inner first.text.toList))
    (String.ofList (Quoted.inner last.text.toList)) (base.getD 10) (word.span.join stop)

/-- Read a regular expression, which is kept as text. -/
def regex : Parser Pattern := do
  let word ← keyword "regex"
  let text ← expectLiteral
  return .regex text.content (word.span.join text.span)

/-- Read the first atom that is there. -/
def atom (unicode : Bool) (expression : Parser Pattern) : Parser Pattern :=
  group expression <|>
  (do
    let text ← literal
    return .literal text) <|>
  charClass unicode <|>
  boundary <|>
  reference <|>
  codePointClass unicode <|>
  numberRange <|>
  regex <|>
  (do
    let name ← accept .identifier
    return .use name.text name.span) <|>
  (do
    let dot ← accept .dot
    return .dot dot.span) <|>
  (do
    let word ← keyword "recursion"
    return .recursion word.span)

end PatternSyntax.Grammar
