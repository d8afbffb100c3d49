import PatternSyntax.Span

/-!
# Character classes

A class lists characters, character ranges and named sets of characters, and
remembers whether named sets are meant in the sense of Unicode. A class has at
least one member.
-/

namespace PatternSyntax

/-- One member of a character class. -/
inductive ClassItem where
  | char (c : Char)
  /-- All characters from the first to the last. -/
  | range (first last : Char)
  /-- A named set, negated or not. The qualifier is what stood before a colon. -/
  | named (name : String) (qualifier : Option String) (negative : Bool) (span : Span)
deriving DecidableEq

/-- A set of characters, given by its members. -/
structure CharClass where
  items : List ClassItem
  unicode : Bool
  span : Span
  items_ne_nil : items ≠ []
deriving DecidableEq

namespace CharClass

/-- The class of the given members, if there are any. -/
def ofItems? (items : List ClassItem) (unicode : Bool) (span : Span) : Option CharClass :=
  if nonempty : items ≠ [] then some ⟨items, unicode, span, nonempty⟩ else none

/-- The class of a single character. -/
def singleton (c : Char) (unicode : Bool) (span : Span) : CharClass :=
  ⟨[.char c], unicode, span, List.cons_ne_nil _ _⟩

theorem ofItems?_eq_none_iff {items : List ClassItem} {unicode : Bool} {span : Span} :
    ofItems? items unicode span = none ↔ items = [] := by
  simp [ofItems?]

end CharClass

end PatternSyntax
