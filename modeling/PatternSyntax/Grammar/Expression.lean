import PatternSyntax.Grammar.Atom
import PatternSyntax.Grammar.Repetition
import PatternSyntax.Grammar.Statement

/-!
# Expressions

From the loosest to the tightest, an expression is statements before
alternatives, alternatives are intersections, an intersection holds sequences,
and a sequence holds terms. A term is an atom or a lookaround with its
exclamation marks before it and its repetition after it.

Each operator is given the parser of its operands. The recursion through
parentheses and lookarounds is tied at the end, over the number of nested levels
that are still allowed: an expression takes one level, and so does each
statement and each exclamation mark for what stands after it. The modes are
handed down, so that a setting reaches exactly what its statement applies to.
-/

namespace PatternSyntax.Grammar

open PatternSyntax.Parser

/-- Read an operand that has to follow a bar. -/
def alternativeAfter (bar : Lexeme) (operand : Parser Pattern) : Parser Pattern :=
  operand <|> fail (.ofFault .loneBar bar.span)

/-- Read alternatives. A bar may stand before the first of them, and a single
one stands for itself. -/
def alternatives (operand : Parser Pattern) : Parser Pattern := do
  let start ← here
  let first ←
    match ← optional (accept .pipe) with
    | some bar => alternativeAfter bar operand
    | none => operand
  let more ← many do
    let bar ← accept .pipe
    alternativeAfter bar operand
  match more with
  | [] => return first
  | _ =>
    let span := more.foldl (fun span member => span.join member.span) start
    return .alternation (first :: more) span

/-- Read alternatives that may be left out. -/
def alternation (operand : Parser Pattern) : Parser Pattern :=
  alternatives operand <|> pure .empty

/-- Read an operand that has to be there. -/
def operandOf (operand : Parser Pattern) : Parser Pattern :=
  operand.orFail (.missing "expression")

/-- Read intersected operands. An ampersand may stand before the first of them,
and a single one stands for itself. -/
def intersection (operand : Parser Pattern) : Parser Pattern := do
  let start ← here
  let first ←
    match ← optional (accept .ampersand) with
    | some _ => operandOf operand
    | none => operand
  let more ← many (accept .ampersand *> operandOf operand)
  match more with
  | [] => return first
  | _ =>
    let stop ← previous
    return .intersection (first :: more) (start.join stop)

/-- Read patterns side by side. A single one stands for itself. -/
def sequence (term : Parser Pattern) : Parser Pattern := do
  let first ← term
  let more ← many term
  match more.getLast? with
  | none => return first
  | some last => return .sequence (first :: more) (first.span.join last.span)

/-- Read exclamation marks, each of which takes one of the levels, and join
their spans to the given one. -/
def bangs : (levels : Nat) → Span → Parser (Nat × Span)
  | 0, notSpan =>
    (do
      let bang ← accept .bang
      fail (.ofFault .tooDeep bang.span)) <|>
    pure (0, notSpan)
  | levels + 1, notSpan =>
    (do
      let bang ← accept .bang
      let (count, span) ← bangs levels (notSpan.join bang.span)
      return (count + 1, span)) <|>
    pure (0, notSpan)

/-- Negate a pattern as often as there are exclamation marks. Every negation
knows the place of all of them. -/
def negate (notSpan : Span) : (count : Nat) → Pattern → Pattern
  | 0, body => body
  | count + 1, body =>
    negate notSpan count (.negation body notSpan (body.span.join notSpan))

/-- Read a lookaround, which reaches as far as an expression can. -/
def lookaround (expression : Parser Pattern) : Parser Pattern := do
  let (kind, start) ←
    acceptMap fun lexeme =>
      if lexeme.kind = .lookAhead then some (Lookaround.ahead, lexeme.span)
      else if lexeme.kind = .lookBehind then some (Lookaround.behind, lexeme.span)
      else none
  let body ← expression
  return .lookaround kind body (start.join body.span)

/-- Read the repetition after a pattern, if there is one. -/
def repeated (lazyMode : Bool) (body : Pattern) : Parser Pattern := do
  match ← optional (repetition lazyMode) with
  | none => return body
  | some (bounds, quantifier, span) =>
    return .repetition body bounds quantifier (body.span.join span)

mutual

/-- Read an expression with its statements. It takes one level. -/
def expression (levels : Nat) (modes : Modes) : Parser Pattern :=
  match levels with
  | 0 => failHere (.ofFault .tooDeep)
  | levels + 1 => do
    let (whole, _) ← scope levels modes
    return whole
termination_by 3 * levels

/-- Read statements and what they apply to. The second part of the answer is the
place of what stands after the last statement: the span of every statement
reaches to its end. -/
def scope (levels : Nat) (modes : Modes) : Parser (Pattern × Span) := do
  let bare := alternation (intersection (sequence (term levels modes)))
  match ← optional (statement bare) with
  | none =>
    let body ← bare
    return (body, body.span)
  | some (first, span) =>
    match levels with
    | 0 => fail (.ofFault .tooDeep span)
    | levels + 1 =>
      let (body, bodySpan) ← scope levels (first.modes modes)
      return (first.scope body (span.join bodySpan), bodySpan)
termination_by 3 * levels + 2

/-- Read one term. -/
def term (levels : Nat) (modes : Modes) : Parser Pattern := do
  let start ← here
  let (count, notSpan) ← bangs levels start
  let nested := expression (levels - count) modes
  let operand := lookaround nested <|> atom modes.unicode nested
  let body ← if count = 0 then operand else operandOf operand
  repeated modes.lazy (negate notSpan count body)
termination_by 3 * levels + 1

end

end PatternSyntax.Grammar
