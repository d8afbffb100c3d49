import PatternSyntax.Grammar.Parser
import PatternSyntax.Pattern.TestCase
import PatternSyntax.Text.Numeral
import PatternSyntax.Text.Quoted

/-!
# Terminals

Lexemes that carry a value: numbers, quoted texts and code points. A number is
read without bound first, so that the check of its range is a check of its
value.
-/

namespace PatternSyntax.Grammar

open PatternSyntax.Parser
open PatternSyntax.Text

/-- The greatest bound of a repetition and the greatest number of a group. -/
def maxCount : Nat :=
  65535

/-- A number up to the greatest count. -/
def count? (text : List Char) : Option Nat :=
  (Numeral.natural? text).filter fun value => value ≤ maxCount

/-- A number of 32 bits. -/
def word? (text : List Char) : Option Nat :=
  (Numeral.natural? text).filter fun value => value < 0x100000000

/-- A signed number of 32 bits. -/
def offset? (text : List Char) : Option Int32 :=
  ((Numeral.integer? text).filter fun value =>
    -0x80000000 ≤ value && value < 0x80000000).map Int32.ofInt

/-- Read a number. One that is not in range is a failure, not something else. -/
def number {α : Type} (read : List Char → Option α) : Parser α := do
  let lexeme ← accept .number
  match read lexeme.text.toList with
  | some value => return value
  | none => fail (.ofFault .numberTooLarge lexeme.span)

/-- Read a number that has to be there. -/
def expectNumber {α : Type} (read : List Char → Option α) : Parser α :=
  (number read).orFail (.missingToken .number)

/-- Read a quoted text. -/
def literal : Parser Literal := do
  let lexeme ← accept .string
  return ⟨String.ofList (Quoted.decode lexeme.text.toList), lexeme.span⟩

/-- Read a quoted text that has to be there. -/
def expectLiteral : Parser Literal :=
  literal.orFail (.missingToken .string)

/-- The character with the given code. Surrogates and codes beyond the last
plane are none. -/
def scalar? (code : Nat) : Option Char :=
  if code.isValidChar then some (Char.ofNat code) else none

/-- The character that a code point stands for. Its digits begin at the first
hexadecimal digit, since neither the letter nor the sign nor a blank is one. -/
def codePointChar? (text : List Char) : Option Char :=
  (Numeral.hexadecimal? (text.dropWhile fun c => !c.isHexDigit)).bind scalar?

/-- Read a code point, with its place. -/
def codePoint : Parser (Char × Span) := do
  let lexeme ← accept .codePoint
  match codePointChar? lexeme.text.toList with
  | some c => return (c, lexeme.span)
  | none => fail (.ofFault .noSuchCharacter lexeme.span)

end PatternSyntax.Grammar
