/-!
# Kinds of tokens

A token is an operator with a fixed spelling, a literal, a name, or one of the
two kinds that stand for text which no token fits.
-/

namespace PatternSyntax

/-- What a token is. -/
inductive TokenKind where
  | caret
  | dollar
  | percent
  | angleLeft
  | angleRight
  | lookAhead
  | lookBehind
  | star
  | plus
  | questionMark
  | openBrace
  | closeBrace
  | comma
  | pipe
  | ampersand
  | bang
  | colon
  | openParen
  | closeParen
  | openBracket
  | closeBracket
  | dash
  | dot
  | semicolon
  | equals
  | doubleColon
  /-- A quoted text, quotes included. -/
  | string
  /-- A character given by its code, such as `U+1F600`. -/
  | codePoint
  /-- A run of digits and underscores. -/
  | number
  /-- A name that is not reserved. -/
  | identifier
  /-- A name with a meaning of its own in the language. -/
  | reservedName
  /-- A character that starts no token. -/
  | unknownChar
  /-- A quoted text whose closing quote is missing. -/
  | unclosedString
deriving DecidableEq

namespace TokenKind

/-- Whether the token stands for text which no token fits. -/
def isError (kind : TokenKind) : Bool :=
  kind = unknownChar || kind = unclosedString

/-- The spelling of an operator. -/
def spelling? : TokenKind → Option String
  | caret => some "^"
  | dollar => some "$"
  | percent => some "%"
  | angleLeft => some "<"
  | angleRight => some ">"
  | lookAhead => some ">>"
  | lookBehind => some "<<"
  | star => some "*"
  | plus => some "+"
  | questionMark => some "?"
  | openBrace => some "\x7b"
  | closeBrace => some "\x7d"
  | comma => some ","
  | pipe => some "|"
  | ampersand => some "&"
  | bang => some "!"
  | colon => some ":"
  | openParen => some "("
  | closeParen => some ")"
  | openBracket => some "["
  | closeBracket => some "]"
  | dash => some "-"
  | dot => some "."
  | semicolon => some ";"
  | equals => some "="
  | doubleColon => some "::"
  | string | codePoint | number | identifier | reservedName | unknownChar | unclosedString => none

/-- The operator that one character spells. -/
def ofChar? : Char → Option TokenKind
  | '^' => some caret
  | '$' => some dollar
  | '%' => some percent
  | '<' => some angleLeft
  | '>' => some angleRight
  | '*' => some star
  | '+' => some plus
  | '?' => some questionMark
  | '\x7b' => some openBrace
  | '\x7d' => some closeBrace
  | ',' => some comma
  | '|' => some pipe
  | '&' => some ampersand
  | '!' => some bang
  | ':' => some colon
  | '(' => some openParen
  | ')' => some closeParen
  | '[' => some openBracket
  | ']' => some closeBracket
  | '-' => some dash
  | '.' => some dot
  | ';' => some semicolon
  | '=' => some equals
  | _ => none

/-- The operator that two characters spell. -/
def ofPair? : Char → Char → Option TokenKind
  | '>', '>' => some lookAhead
  | '<', '<' => some lookBehind
  | ':', ':' => some doubleColon
  | _, _ => none

/-- How messages speak of the kind: an operator by its spelling between
backquotes, any other kind by its name. -/
def display (kind : TokenKind) : String :=
  match kind.spelling? with
  | some spelling => "`" ++ spelling ++ "`"
  | none =>
    match kind with
    | string => "string"
    | codePoint => "code point"
    | number => "number"
    | identifier => "identifier"
    | reservedName => "reserved name"
    | unknownChar => "unknown character"
    | _ => "unclosed string"

/-- A character that spells an operator is the whole spelling of it. -/
theorem spelling?_of_ofChar? {c : Char} {kind : TokenKind} (found : ofChar? c = some kind) :
    kind.spelling? = some (String.singleton c) := by
  unfold ofChar? at found
  split at found <;> cases found <;> rfl

/-- So are two characters that spell one. -/
theorem spelling?_of_ofPair? {first second : Char} {kind : TokenKind}
    (found : ofPair? first second = some kind) :
    kind.spelling? = some (String.ofList [first, second]) := by
  unfold ofPair? at found
  split at found <;> cases found <;> rfl

end TokenKind

end PatternSyntax
