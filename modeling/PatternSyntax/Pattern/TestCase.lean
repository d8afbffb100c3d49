import PatternSyntax.Span

/-!
# Test cases

A pattern may carry its own tests: texts that it must match, with the contents
of capturing groups, texts that it must find in a longer one, and texts that it
must not match.
-/

namespace PatternSyntax

/-- A text that stands for itself, quotes resolved. -/
structure Literal where
  content : String
  span : Span
deriving DecidableEq

/-- What a test calls a capturing group. -/
inductive CaptureLabel where
  | number (index : Nat)
  | name (text : String)
deriving DecidableEq

/-- The text that a group is to capture. -/
structure Capture where
  label : CaptureLabel
  labelSpan : Span
  literal : Literal
deriving DecidableEq

/-- A text that is to be matched. -/
structure TestMatch where
  literal : Literal
  captures : List Capture
  span : Span
deriving DecidableEq

/-- One requirement on a pattern. -/
inductive TestCase where
  /-- The pattern matches the whole text. -/
  | whole (expected : TestMatch)
  /-- The pattern finds these matches in the text, in order, and no others. -/
  | within (haystack : Literal) (expected : List TestMatch) (span : Span)
  /-- The pattern does not match the text, or finds nothing in it. -/
  | reject (literal : Literal) (asSubstring : Bool) (span : Span)
deriving DecidableEq

end PatternSyntax
