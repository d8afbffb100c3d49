import PatternSyntax.Grammar.Terminal
import PatternSyntax.Pattern.Basic

/-!
# Character classes

Between square brackets stand characters, quoted texts, ranges and names of
character sets, in any order. A quoted text gives each of its characters. Six
one-letter names stand for control characters and are names of sets nowhere.
Only a named set may be negated.
-/

namespace PatternSyntax.Grammar

open PatternSyntax.Parser
open PatternSyntax.Text

/-- The control character that a name in a class stands for. -/
def controlChar? (name : String) : Option Char :=
  if name = "n" then some '\n'
  else if name = "r" then some '\r'
  else if name = "t" then some '\t'
  else if name = "a" then some '\x07'
  else if name = "e" then some '\x1b'
  else if name = "f" then some '\x0c'
  else none

/-- What may stand in a class by itself or at an end of a range. -/
inductive ClassUnit where
  | text (content : List Char)
  | char (c : Char)

namespace ClassUnit

/-- The members that the unit gives by itself. -/
def items : ClassUnit → List ClassItem
  | text content => content.map .char
  | char c => [.char c]

/-- The unit as an end of a range, which has to be one character. -/
def endpoint (span : Span) : ClassUnit → Parser Char
  | char c => return c
  | text [] => fail (.ofFault .emptyEndpoint span)
  | text [c] => return c
  | text (_ :: _ :: _) => fail (.ofFault .longEndpoint span)

end ClassUnit

/-- Read a quoted text, a code point or the name of a control character. -/
def classUnit : Parser ClassUnit :=
  (do
    let lexeme ← accept .string
    return .text (Quoted.decode lexeme.text.toList)) <|>
  (do
    let (c, _) ← codePoint
    return .char c) <|>
  acceptMap fun lexeme =>
    if lexeme.kind = .identifier then (controlChar? lexeme.text).map .char else none

/-- Read one unit, or a range between two. -/
def unitOrRange : Parser (List ClassItem) := do
  let firstSpan ← here
  let first ← classUnit
  match ← optional (accept .dash) with
  | none => return first.items
  | some _ =>
    let lastSpan ← here
    let last ← classUnit.orFail (.missing "code point or character")
    let lower ← first.endpoint firstSpan
    let upper ← last.endpoint lastSpan
    if upper < lower then
      fail (.ofFault .descendingRange (firstSpan.join lastSpan))
    else return [.range lower upper]

/-- Read the name of a character set, with or without a qualifier. -/
def namedItem (negative : Bool) : Parser ClassItem := do
  let first ← accept .identifier
  match ← optional (accept .colon) with
  | none => return .named first.text none negative first.span
  | some _ =>
    let second ← expect .identifier
    return .named second.text (some first.text) negative (first.span.join second.span)

/-- Read what stands after an exclamation mark in a class. Something that may not
stand there is read to its end before it is rejected. -/
def negatedItem (bang : Lexeme) : Parser (List ClassItem) :=
  (do
    let _ ← unitOrRange
    fail (.ofFault .negatedCharacters bang.span)) <|>
  (do
    let item ← namedItem true
    return [item]) <|>
  failHere (.missingToken .identifier)

/-- Read the members that one part of a class gives. -/
def classItem : Parser (List ClassItem) := do
  match ← optional (accept .bang) with
  | some bang => negatedItem bang
  | none =>
    unitOrRange <|> do
      let item ← namedItem false
      return [item]

/-- Read a character class. -/
def charClass (unicode : Bool) : Parser Pattern := do
  let opening ← accept .openBracket
  let items ← many classItem
  let closing ← (accept .closeBracket).orFail
    (.missing "character class, string, code point, Unicode property or `]`")
  let span := opening.span.join closing.span
  match CharClass.ofItems? items.flatten unicode span with
  | some members => return .charClass members
  | none => fail (.ofFault .emptyClass span)

end PatternSyntax.Grammar
