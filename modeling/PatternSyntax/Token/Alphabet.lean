import PatternSyntax.Unicode.Alphabetic
import PatternSyntax.Unicode.DecimalNumber
import PatternSyntax.Unicode.Mark
import PatternSyntax.Unicode.WhiteSpace

/-!
# The alphabet of tokens

Which characters separate tokens, which begin a name and which go on with one.
-/

namespace PatternSyntax

/-- A blank is white space other than the next-line character, or a byte order
mark. -/
def isBlank (c : Char) : Bool :=
  c == '\uFEFF' || (Unicode.whiteSpace.contains c.toNat && c != '\u0085')

/-- A name begins with an alphabetic character or an underscore. -/
def isWordStart (c : Char) : Bool :=
  Unicode.alphabetic.contains c.toNat || c == '_'

/-- A name goes on with alphabetic characters, marks, decimal digits and
underscores. -/
def isWordChar (c : Char) : Bool :=
  isWordStart c || Unicode.mark.contains c.toNat || Unicode.decimalNumber.contains c.toNat

theorem isWordChar_of_isWordStart {c : Char} (start : isWordStart c) : isWordChar c := by
  simp [isWordChar, start]

end PatternSyntax
