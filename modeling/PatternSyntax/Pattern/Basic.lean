import PatternSyntax.Pattern.CharClass
import PatternSyntax.Pattern.Modes
import PatternSyntax.Pattern.TestCase

/-!
# Patterns

The tree of a pattern. Every node knows the span it was read from; an expression
that was left out is an empty literal without a place.

A statement stands before the pattern that it applies to. Directives and
bindings are therefore nodes with that pattern as their body.
-/

namespace PatternSyntax

/-- What parentheses do besides grouping. -/
inductive GroupKind where
  | plain
  | capturing
  | named (name : String)
  | atomic
deriving DecidableEq

/-- How often something is repeated. Without an upper bound there is no limit. -/
structure Bounds where
  lower : Nat
  upper : Option Nat
deriving DecidableEq

/-- Whether a repetition prefers more or less, and whether it says so itself. -/
inductive Quantifier where
  | greedy
  | lazy
  | defaultGreedy
  | defaultLazy
deriving DecidableEq

/-- A place between characters. -/
inductive Boundary where
  | start
  | stop
  | word
  | notWord
  | wordStart
  | wordStop
deriving DecidableEq

/-- Where a lookaround looks, and whether it must not find what it looks for. -/
inductive Lookaround where
  | ahead
  | behind
  | notAhead
  | notBehind
deriving DecidableEq

/-- The group that a reference stands for: by name, by number, or counted from
where the reference stands. -/
inductive ReferenceTarget where
  | named (name : String)
  | number (index : Nat)
  | relative (offset : Int32)
deriving DecidableEq

/-- A statement other than a binding. -/
inductive Directive where
  /-- Turn a setting on or off. -/
  | toggle (setting : Setting) (value : Bool) (span : Span)
  | tests (cases : List TestCase) (span : Span)
deriving DecidableEq

/-- A pattern, as it was written. -/
inductive Pattern where
  | literal (text : Literal)
  | charClass (members : CharClass)
  /-- One pattern in parentheses. -/
  | group (kind : GroupKind) (body : Pattern) (span : Span)
  /-- Patterns side by side. -/
  | sequence (members : List Pattern) (span : Span)
  | alternation (members : List Pattern) (span : Span)
  | intersection (members : List Pattern) (span : Span)
  | repetition (body : Pattern) (bounds : Bounds) (quantifier : Quantifier) (span : Span)
  | boundary (kind : Boundary) (span : Span)
  | lookaround (kind : Lookaround) (body : Pattern) (span : Span)
  /-- The use of a name that is bound elsewhere. -/
  | use (name : String) (span : Span)
  | reference (target : ReferenceTarget) (span : Span)
  /-- The numerals from the first to the last in a base. -/
  | numberRange (first last : String) (radix : Nat) (span : Span)
  /-- One exclamation mark; `notSpan` covers all that stand in a row. -/
  | negation (body : Pattern) (notSpan : Span) (span : Span)
  /-- Text for the regular expression engine as it stands. -/
  | regex (content : String) (span : Span)
  | recursion (span : Span)
  | dot (span : Span)
  | directed (directive : Directive) (body : Pattern) (span : Span)
  | binding (name : String) (nameSpan : Span) (bound body : Pattern) (span : Span)

namespace Pattern

/-- The expression that was left out. -/
def empty : Pattern :=
  .literal ⟨"", .absent⟩

/-- Where the pattern stands. -/
def span : Pattern → Span
  | .literal text => text.span
  | .charClass members => members.span
  | .group _ _ span => span
  | .sequence _ span => span
  | .alternation _ span => span
  | .intersection _ span => span
  | .repetition _ _ _ span => span
  | .boundary _ span => span
  | .lookaround _ _ span => span
  | .use _ span => span
  | .reference _ span => span
  | .numberRange _ _ _ span => span
  | .negation _ _ span => span
  | .regex _ span => span
  | .recursion span => span
  | .dot span => span
  | .directed _ _ span => span
  | .binding _ _ _ _ span => span

@[simp]
theorem empty_span : empty.span = .absent :=
  rfl

end Pattern

end PatternSyntax
