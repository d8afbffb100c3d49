import PatternSyntax.Grammar.TestBlock
import PatternSyntax.Pattern.Statement

/-!
# Statements

A statement stands before the expression that it applies to: it turns a setting
on or off, binds a name, or gives tests.
-/

namespace PatternSyntax.Grammar

open PatternSyntax.Parser

/-- Read a setting by its name. -/
def setting : Parser Setting :=
  (keyword "lazy" *> pure .lazy) <|>
  (contextual "unicode" *> pure .unicode)

/-- Read the word that turns a setting on or off, with its place. -/
def toggleWord : Parser (Bool × Span) :=
  (do
    let word ← keyword "enable"
    return (true, word.span)) <|>
  (do
    let word ← keyword "disable"
    return (false, word.span))

/-- Read a statement that turns a setting on or off, with its place. -/
def toggle : Parser (Directive × Span) := do
  let (value, start) ← toggleWord
  let target ← setting.orFail (.missing "`lazy` or `unicode`")
  let stop ← expect .semicolon
  let span := start.join stop.span
  return (.toggle target value span, span)

/-- Read a binding. What is bound has no statements of its own and is read by
the parser that is given. -/
def binding (alternation : Parser Pattern) : Parser (Statement × Span) := do
  let word ← keyword "let"
  let name ← expect .identifier
  let _ ← expect .equals
  let bound ← alternation
  let stop ← (accept .semicolon).orFail (.missing "expression or `;`")
  return (.binding name.text name.span bound, word.span.join stop.span)

/-- Read a statement, with its place. -/
def statement (alternation : Parser Pattern) : Parser (Statement × Span) :=
  (do
    let (content, span) ← toggle
    return (.directive content, span)) <|>
  binding alternation <|>
  (do
    let (content, span) ← testBlock
    return (.directive content, span))

end PatternSyntax.Grammar
