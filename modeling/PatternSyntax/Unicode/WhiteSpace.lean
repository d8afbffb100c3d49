import PatternSyntax.Unicode.RangeTable

/-!
# White space

The code points with the property White_Space.
-/

namespace PatternSyntax.Unicode

/-- The ranges of White_Space. -/
def whiteSpace : RangeTable :=
  [(0x9, 0xD), (0x20, 0x20), (0x85, 0x85), (0xA0, 0xA0), (0x1680, 0x1680), (0x2000, 0x200A),
    (0x2028, 0x2029), (0x202F, 0x202F), (0x205F, 0x205F), (0x3000, 0x3000)]

theorem whiteSpace_ascends : whiteSpace.ascendsFrom 0 := by
  decide +kernel

end PatternSyntax.Unicode
