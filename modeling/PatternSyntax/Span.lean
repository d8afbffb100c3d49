/-!
# Spans

A span is a half-open range of UTF-8 byte offsets into a source text. The range
`[0, 0)` stands for "nowhere": it is the span of an expression that was left
out, and joining ignores it. It is told apart by its end alone, since nothing
else that lies in a source ends at offset 0.
-/

namespace PatternSyntax

/-- The bytes of a source from `start` up to, not including, `stop`. Offsets
are 32-bit words. -/
structure Span where
  start : UInt32
  stop : UInt32
deriving DecidableEq

namespace Span

/-- The span of what is not there. -/
def absent : Span :=
  ⟨0, 0⟩

/-- Offsets of any size are kept by their low 32 bits. -/
def ofOffsets (start stop : Nat) : Span :=
  ⟨UInt32.ofNat start, UInt32.ofNat stop⟩

/-- Whether the span stands for "nowhere". -/
def isAbsent (span : Span) : Bool :=
  span.stop == 0

/-- Whether the span holds no bytes. -/
def isEmpty (span : Span) : Bool :=
  span.start == span.stop

/-- The number of bytes, if the bounds are in order. -/
def length? (span : Span) : Option UInt32 :=
  if span.start ≤ span.stop then some (span.stop - span.start) else none

/-- The tightest span that covers both. An absent span adds nothing; an empty
span elsewhere counts. -/
def join (first second : Span) : Span :=
  if first.isAbsent then second
  else if second.isAbsent then first
  else ⟨min first.start second.start, max first.stop second.stop⟩

@[simp]
theorem absent_join (span : Span) : absent.join span = span :=
  rfl

@[simp]
theorem join_self (span : Span) : span.join span = span := by
  have minSelf : min span.start span.start = span.start := ite_self _
  have maxSelf : max span.stop span.stop = span.stop := ite_self _
  simp only [join, minSelf, maxSelf, ite_self]

theorem join_of_isAbsent_right {first second : Span} (secondAbsent : second.isAbsent)
    (firstPresent : first.isAbsent = false) : first.join second = first := by
  simp [join, secondAbsent, firstPresent]

end Span

end PatternSyntax
