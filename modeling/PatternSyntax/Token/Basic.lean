import PatternSyntax.Span
import PatternSyntax.Text.Utf8
import PatternSyntax.Token.Kind

/-!
# Tokens and lexemes

A token is a kind and a span; its text is whatever the span cuts out of the
source. A lexeme is a token together with that text, which is all that a grammar
needs to know of the source.

Tokens may come from anywhere, so a span need not fit the source. Its text is
then empty.
-/

namespace PatternSyntax

/-- A kind and the place where it stands. -/
structure Token where
  kind : TokenKind
  span : Span
deriving DecidableEq

/-- A token with its text. -/
structure Lexeme where
  kind : TokenKind
  text : String
  span : Span
deriving DecidableEq

namespace Token

/-- The part of the source that the token's span cuts out, and nothing if the
span does not fit the source. -/
def text (token : Token) (source : String) : String :=
  match Text.slice? source.toList token.span.start.toNat token.span.stop.toNat with
  | some piece => String.ofList piece
  | none => ""

/-- The token with its text in a source. -/
def lexeme (token : Token) (source : String) : Lexeme :=
  ⟨token.kind, token.text source, token.span⟩

@[simp]
theorem lexeme_kind (token : Token) (source : String) :
    (token.lexeme source).kind = token.kind :=
  rfl

@[simp]
theorem lexeme_span (token : Token) (source : String) :
    (token.lexeme source).span = token.span :=
  rfl

@[simp]
theorem lexeme_text (token : Token) (source : String) :
    (token.lexeme source).text = token.text source :=
  rfl

end Token

/-- The names that have a meaning of their own wherever they stand. -/
def reservedWords : List String :=
  ["U", "let", "lazy", "greedy", "range", "base", "atomic", "enable", "disable", "if", "else",
    "recursion", "regex", "test", "call"]

/-- Whether a name is reserved. Case matters. -/
def isReserved (word : String) : Bool :=
  reservedWords.contains word

end PatternSyntax
