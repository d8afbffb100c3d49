import PatternSyntax.Pattern.Basic

/-!
# Statements

A statement by itself, before it is put in front of the pattern that it applies
to. It decides which modes hold for that pattern.
-/

namespace PatternSyntax

/-- A statement without the pattern that it applies to. -/
inductive Statement where
  | directive (directive : Directive)
  | binding (name : String) (nameSpan : Span) (bound : Pattern)

namespace Statement

/-- Put the statement before a pattern. -/
def scope (body : Pattern) (span : Span) : Statement → Pattern
  | directive content => .directed content body span
  | binding name nameSpan bound => .binding name nameSpan bound body span

/-- The modes for the pattern that the statement applies to. -/
def modes (outer : Modes) : Statement → Modes
  | directive (.toggle setting value _) => outer.set setting value
  | _ => outer

end Statement

end PatternSyntax
