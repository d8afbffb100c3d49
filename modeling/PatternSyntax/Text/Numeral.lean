/-!
# Numerals

A numeral is a non-empty run of digits. Underscores may stand anywhere and
count for nothing, and a decimal numeral may carry a sign. Values are natural
numbers or integers without bound, so that no numeral wraps around; the ranges
that a position allows are checked on the value.
-/

namespace PatternSyntax.Text.Numeral

/-- The value of a decimal or hexadecimal digit. -/
def digitValue (c : Char) : Nat :=
  if c.isDigit then c.toNat - '0'.toNat
  else if 'a' ≤ c then c.toNat - 'a'.toNat + 10
  else c.toNat - 'A'.toNat + 10

/-- The value of a run of digits, the most significant first. -/
def valueIn (base : Nat) (digits : List Char) : Nat :=
  digits.foldl (fun value c => base * value + digitValue c) 0

/-- The value of a non-empty run of ASCII digits. -/
def decimal? (digits : List Char) : Option Nat :=
  if !digits.isEmpty && digits.all Char.isDigit then some (valueIn 10 digits) else none

/-- The value of a non-empty run of hexadecimal digits in either case. -/
def hexadecimal? (digits : List Char) : Option Nat :=
  if !digits.isEmpty && digits.all Char.isHexDigit then some (valueIn 16 digits) else none

/-- The text without its underscores. -/
def withoutSeparators (text : List Char) : List Char :=
  text.filter (· != '_')

/-- Read a natural number, which may carry a plus sign. -/
def natural? (text : List Char) : Option Nat :=
  match withoutSeparators text with
  | '+' :: digits => decimal? digits
  | digits => decimal? digits

/-- Read an integer, which may carry either sign. -/
def integer? (text : List Char) : Option Int :=
  match withoutSeparators text with
  | '-' :: digits => (decimal? digits).map fun value => -(value : Int)
  | '+' :: digits => (decimal? digits).map fun value => (value : Int)
  | digits => (decimal? digits).map fun value => (value : Int)

end PatternSyntax.Text.Numeral
