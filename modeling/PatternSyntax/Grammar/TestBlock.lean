import PatternSyntax.Grammar.Terminal
import PatternSyntax.Pattern.Basic

/-!
# Test blocks

The words of a test block are ordinary names everywhere else. Whether a case
expects one whole match or several matches within a longer text is known only
after its last match, when the longer text follows or does not.
-/

namespace PatternSyntax.Grammar

open PatternSyntax.Parser

/-- Read what a test calls a capturing group. -/
def captureLabel : Parser CaptureLabel :=
  (do
    let index ← number count?
    return .number index) <|>
  (do
    let name ← accept .identifier
    return .name name.text)

/-- Read a group and the text that it is to capture. -/
def capture : Parser Capture := do
  let label ← captureLabel
  let labelSpan ← previous
  let _ ← expect .colon
  let text ← expectLiteral
  return ⟨label, labelSpan, text⟩

/-- Read the captures that a match lists, if it lists any. -/
def captures : Parser (List Capture) := do
  match ← optional (contextual "as") with
  | none => return []
  | some _ =>
    let _ ← expect .openBrace
    let listed ← sepEndBy capture (accept .comma)
    let _ ← expect .closeBrace
    return listed

/-- Read one text that is to be matched. -/
def testMatch : Parser TestMatch := do
  let text ← expectLiteral
  let listed ← captures
  let stop ← previous
  return ⟨text, listed, text.span.join stop⟩

/-- Read the matches of a case, which may be left out before the word that
introduces the longer text. -/
def testMatches : Parser (List TestMatch) := do
  let text ← nextText
  if text = "in" then return []
  else sepBy testMatch (accept .comma)

/-- Read the longer text that matches are to be found in. -/
def haystack : Parser Literal := do
  let _ ← contextual "in"
  expectLiteral

/-- Read a case that expects matches. -/
def matchCase : Parser TestCase := do
  let word ← contextual "match"
  let expected ← testMatches
  let within ← optional haystack
  let stop ← expect .semicolon
  match within, expected with
  | some text, _ => return .within text expected (word.span.join stop.span)
  | none, [only] => return .whole only
  | none, [] => failHere (.missingToken .string)
  | none, first :: more =>
    let last := more.getLastD first
    fail (.ofFault .matchesWithoutHaystack (first.span.join last.span))

/-- Read a case that expects none. -/
def rejectCase : Parser TestCase := do
  let word ← contextual "reject"
  let within ← optional (contextual "in")
  let text ← expectLiteral
  let stop ← expect .semicolon
  return .reject text within.isSome (word.span.join stop.span)

/-- Read one case. -/
def testCase : Parser TestCase :=
  matchCase <|> rejectCase

/-- Read a test block, with its place. -/
def testBlock : Parser (Directive × Span) := do
  let word ← keyword "test"
  let _ ← expect .openBrace
  let cases ← many testCase
  let closing ← expect .closeBrace
  let span := word.span.join closing.span
  return (.tests cases span, span)

end PatternSyntax.Grammar
