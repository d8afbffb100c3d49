import PatternSyntax.Token.Alphabet
import PatternSyntax.Token.Basic

/-!
# Recognising one token

What the next token is depends on its first character and on what follows. A
recognised token is given by its kind and by the number of characters after the
first one that belong to it, so that every token has at least one character and
no token reaches beyond the text.

A text that begins with a quote and never closes is one token up to the end. A
character that begins no token is a token of its own.
-/

namespace PatternSyntax.Recognition

/-- The operator of two characters at the beginning of a text. -/
def pairOperator? (first : Char) : List Char → Option TokenKind
  | second :: _ => TokenKind.ofPair? first second
  | [] => none

/-- After an opening single quote, the characters up to and with the closing
one. -/
def singleQuotedTail? : List Char → Option Nat
  | [] => none
  | c :: rest => if c = '\'' then some 1 else (singleQuotedTail? rest).map (· + 1)

/-- After an opening double quote, the characters up to and with the closing
one. A backslash keeps the next character from closing the text. -/
def doubleQuotedTail? : List Char → Option Nat
  | [] => none
  | '"' :: _ => some 1
  | '\\' :: _ :: rest => (doubleQuotedTail? rest).map (· + 2)
  | _ :: rest => (doubleQuotedTail? rest).map (· + 1)

/-- A quoted text ends with its closing quote, or with the source. -/
def quoted (tail? : Option Nat) (rest : List Char) : TokenKind × Nat :=
  match tail? with
  | some count => (.string, count)
  | none => (.unclosedString, rest.length)

/-- After the `U` of a code point: a plus sign and at least one hexadecimal
digit, with any blanks before and after the sign. -/
def codePointTail? (rest : List Char) : Option Nat :=
  match rest.dropWhile isBlank with
  | '+' :: tail =>
    match (tail.dropWhile isBlank).takeWhile Char.isHexDigit with
    | [] => none
    | digits =>
      some ((rest.takeWhile isBlank).length + 1 + (tail.takeWhile isBlank).length + digits.length)
  | _ => none

/-- A code point, if the text from `first` on begins with one. -/
def codePoint? (first : Char) (rest : List Char) : Option Nat :=
  if first = 'U' then codePointTail? rest else none

/-- After the first digit of a number. -/
def numberTail (rest : List Char) : Nat :=
  (rest.takeWhile fun c => c.isDigit || c == '_').length

/-- A name, reserved or not, as far as it goes. -/
def word (first : Char) (rest : List Char) : TokenKind × Nat :=
  let tail := rest.takeWhile isWordChar
  if isReserved (String.ofList (first :: tail)) then (.reservedName, tail.length)
  else (.identifier, tail.length)

/-- The token that begins with `first`, when `rest` follows it. An operator of
two characters goes before one of a single character, and a code point before a
name that begins with the same letter. -/
def recognize (first : Char) (rest : List Char) : TokenKind × Nat :=
  match pairOperator? first rest with
  | some kind => (kind, 1)
  | none =>
    match TokenKind.ofChar? first with
    | some kind => (kind, 0)
    | none =>
      if first = '\'' then quoted (singleQuotedTail? rest) rest
      else if first = '"' then quoted (doubleQuotedTail? rest) rest
      else
        match codePoint? first rest with
        | some count => (.codePoint, count)
        | none =>
          if first.isDigit then (.number, numberTail rest)
          else if isWordStart first then word first rest
          else (.unknownChar, 0)

end PatternSyntax.Recognition
