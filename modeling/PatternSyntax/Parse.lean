import PatternSyntax.Grammar.Expression
import PatternSyntax.Token.Stream

/-!
# Parsing a source

A source is cut into tokens, and the tokens are read as one expression. Tokens
that stand for text which no token fits are reported all together, and the rest
is then not read. Otherwise there is at most one diagnostic.
-/

namespace PatternSyntax

/-- How a source is read. -/
structure Options where
  /-- The modes before the first statement. -/
  modes : Modes := .initial
  /-- How many levels of expressions, statements and exclamation marks may lie
  within each other. -/
  maxDepth : Nat := 127

/-- The cursor before the first of the tokens. -/
def Cursor.ofTokens (source : String) (tokens : List Token) : Cursor :=
  let size := Text.utf8Size source.toList
  { rest := tokens.map fun token => token.lexeme source
    previous := .absent
    finish := .ofOffsets size size }

/-- Read everything at a cursor as one expression. What no expression begins with
is left over like what follows one. -/
def readAll (options : Options) (cursor : Cursor) : Except Diagnostic Pattern :=
  match Grammar.expression options.maxDepth options.modes cursor with
  | .fail diagnostic => .error diagnostic
  | .decline => .error (.ofFault .leftover cursor.span)
  | .accept pattern after =>
    if after.rest.isEmpty then .ok pattern
    else .error (.ofFault .leftover after.span)

/-- Read the given tokens of a source. They are taken as they are. -/
def parseTokens (source : String) (tokens : List Token) (options : Options) :
    Except (List Diagnostic) Pattern :=
  match tokens.filterMap Diagnostic.ofToken? with
  | [] => (readAll options (.ofTokens source tokens)).mapError fun diagnostic => [diagnostic]
  | diagnostics => .error diagnostics

/-- Read a source. -/
def parse (source : String) (options : Options) : Except (List Diagnostic) Pattern :=
  parseTokens source (tokenize source) options

end PatternSyntax
