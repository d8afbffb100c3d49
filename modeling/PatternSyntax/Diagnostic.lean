import PatternSyntax.Token.Basic

/-!
# Diagnostics

What is wrong with a source, where, and what would have been right. The wording
of a fault is fixed; where the reader was looking for something in particular,
the message names that instead.
-/

namespace PatternSyntax

/-- What can be wrong. -/
inductive Fault where
  /-- A quoted text without its closing quote. -/
  | unclosedString
  /-- A character that starts no token. -/
  | unknownText
  /-- Tokens after a whole expression. -/
  | leftover
  /-- A token of one particular kind is missing. -/
  | wrongToken
  /-- Something that is described in words is missing. -/
  | wrongForm
  /-- More nested levels than are allowed. -/
  | tooDeep
  /-- A number beyond the range of its position. -/
  | numberTooLarge
  /-- A bar without an alternative after it. -/
  | loneBar
  /-- A second repetition right after a first one. -/
  | repeatedRepetition
  /-- Repetition bounds in the wrong order. -/
  | descendingBounds
  /-- A group name with characters other than ASCII letters and digits. -/
  | groupNameCharacters
  /-- A group name beyond the greatest length. -/
  | groupNameLength
  /-- A code point that is no character. -/
  | noSuchCharacter
  /-- A character class without members. -/
  | emptyClass
  /-- A negation before characters in a class. -/
  | negatedCharacters
  /-- An empty text as an end of a character range. -/
  | emptyEndpoint
  /-- A text of several characters as an end of a character range. -/
  | longEndpoint
  /-- A character range with its ends in the wrong order. -/
  | descendingRange
  /-- A base of a number range beyond the digits and letters. -/
  | baseOutOfRange
  /-- Several expected matches without a text to find them in. -/
  | matchesWithoutHaystack
deriving DecidableEq

namespace Fault

/-- The wording of the fault by itself. -/
def message : Fault → String
  | unclosedString => "this string is not closed"
  | unknownText => "unknown token"
  | leftover => "unexpected input after the end of the expression"
  | wrongToken => "expected a different token"
  | wrongForm => "unexpected token"
  | tooDeep => "the expression is nested too deeply"
  | numberTooLarge => "this number is too large"
  | loneBar => "a pipe must be followed by an expression"
  | repeatedRepetition =>
    "only one repetition is allowed here; wrap the expression in parentheses to repeat it again"
  | descendingBounds => "the lower bound of this repetition is larger than the upper bound"
  | groupNameCharacters => "group names may only contain ASCII letters and digits"
  | groupNameLength => "group names may not be longer than 128 characters"
  | noSuchCharacter => "this code point is outside the allowed range"
  | emptyClass => "this character class is empty"
  | negatedCharacters => "`!` is only allowed before a named character class"
  | emptyEndpoint => "a character range endpoint may not be empty"
  | longEndpoint => "a character range endpoint must be a single character"
  | descendingRange => "the first character of this range is greater than the last"
  | baseOutOfRange => "the base of a range must be between 2 and 36"
  | matchesWithoutHaystack =>
    "a test case may only contain multiple strings when followed by `in`"

end Fault

/-- What would have been right. -/
inductive Expectation where
  | description (text : String)
  | token (kind : TokenKind)
deriving DecidableEq

namespace Expectation

/-- How a message names what was expected. -/
def display : Expectation → String
  | description text => text
  | token kind => kind.display

end Expectation

/-- A fault at a place, with what was expected there if that is known. -/
structure Diagnostic where
  fault : Fault
  span : Span
  expectation : Option Expectation
deriving DecidableEq

namespace Diagnostic

/-- A fault of which there is nothing more to say. -/
def ofFault (fault : Fault) (span : Span) : Diagnostic :=
  ⟨fault, span, none⟩

/-- A token of the given kind is missing. -/
def missingToken (kind : TokenKind) (span : Span) : Diagnostic :=
  ⟨.wrongToken, span, some (.token kind)⟩

/-- What the text describes is missing. -/
def missing (text : String) (span : Span) : Diagnostic :=
  ⟨.wrongForm, span, some (.description text)⟩

/-- A token that stands for text which no token fits is a fault by itself. -/
def ofToken? (token : Token) : Option Diagnostic :=
  match token.kind with
  | .unclosedString => some (ofFault .unclosedString token.span)
  | .unknownChar => some (ofFault .unknownText token.span)
  | _ => none

/-- An expectation goes before the wording of the fault. -/
def message (diagnostic : Diagnostic) : String :=
  match diagnostic.expectation with
  | some expectation => "expected " ++ expectation.display
  | none => diagnostic.fault.message

theorem isSome_ofToken? (token : Token) : (ofToken? token).isSome = token.kind.isError := by
  unfold ofToken? TokenKind.isError
  cases token.kind <;> rfl

end Diagnostic

end PatternSyntax
