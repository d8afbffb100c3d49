/-!
# Modes

Two settings say how parts of a pattern are meant that do not say it themselves:
whether a repetition is lazy, and whether a character class follows Unicode.
-/

namespace PatternSyntax

/-- What a pattern can turn on and off. -/
inductive Setting where
  | lazy
  | unicode
deriving DecidableEq

/-- The settings in force at a place of a pattern. -/
structure Modes where
  lazy : Bool
  unicode : Bool
deriving DecidableEq

namespace Modes

/-- Repetitions are greedy and character classes follow Unicode until a statement
says otherwise. -/
def initial : Modes :=
  ⟨false, true⟩

/-- Turn one setting on or off. -/
def set (modes : Modes) (setting : Setting) (value : Bool) : Modes :=
  match setting with
  | .lazy => { modes with lazy := value }
  | .unicode => { modes with unicode := value }

end Modes

end PatternSyntax
