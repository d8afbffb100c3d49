import PatternSyntax.Grammar.Terminal
import PatternSyntax.Pattern.Basic

/-!
# Repetitions

An operator says how often, and a word after it whether more or less is
preferred. Only one repetition may follow a pattern; a second operator right
after it is reported as a whole.
-/

namespace PatternSyntax.Grammar

open PatternSyntax.Parser

/-- Read bounds between braces. A comma with nothing before it begins at zero,
and one with nothing after it has no end; without a comma there is one number
for both. -/
def bracedBounds : Parser Bounds := do
  let _ ← accept .openBrace
  let start ← here
  let lower ← optional (number count?)
  let comma ← optional (accept .comma)
  let upper ← optional (number count?)
  let stop ← previous
  let bounds ←
    match comma, lower, upper with
    | some _, lower, none => pure ⟨lower.getD 0, none⟩
    | some _, lower, some upper =>
      if upper < lower.getD 0 then fail (.ofFault .descendingBounds (start.join stop))
      else pure ⟨lower.getD 0, some upper⟩
    | none, some _, some _ => fail (.missing "`\x7d` or `,`" stop)
    | none, some exact, none => pure ⟨exact, some exact⟩
    | none, none, _ => failHere (.missing "number")
  let _ ← expect .closeBrace
  return bounds

/-- Read how often. -/
def repetitionBounds : Parser Bounds :=
  (accept .plus *> pure ⟨1, none⟩) <|>
  (accept .star *> pure ⟨0, none⟩) <|>
  (accept .questionMark *> pure ⟨0, some 1⟩) <|>
  bracedBounds

/-- Read what is preferred; where nothing is said, the mode decides. -/
def quantifier (lazyMode : Bool) : Parser Quantifier :=
  (keyword "greedy" *> pure .greedy) <|>
  (keyword "lazy" *> pure .lazy) <|>
  pure (if lazyMode then .defaultLazy else .defaultGreedy)

/-- Read a repetition, with its place. -/
def repetition (lazyMode : Bool) : Parser (Bounds × Quantifier × Span) := do
  let start ← here
  let bounds ← repetitionBounds
  let preference ← quantifier lazyMode
  let stop ← previous
  let secondStart ← here
  match ← optional repetitionBounds with
  | none => return (bounds, preference, start.join stop)
  | some _ =>
    let secondStop ← previous
    fail (.ofFault .repeatedRepetition (secondStart.join secondStop))

end PatternSyntax.Grammar
