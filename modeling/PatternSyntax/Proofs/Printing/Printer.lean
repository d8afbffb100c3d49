import PatternSyntax.Pattern.Statement
import PatternSyntax.Token.Kind

/-!
# Printing patterns

A tree is written as words with spaces between some of them. Every repetition is
written with braces and every character of a class as a code point. What was left
out has no text of its own.

The words are kept apart until the end. A word knows the kind of token it is meant
to be, and printing forgets it.
-/

namespace PatternSyntax

/-- A word, or the space between two words. -/
inductive Piece where
  | space
  | word (kind : TokenKind) (text : List Char)

namespace Piece

def operator (kind : TokenKind) : Piece :=
  .word kind (kind.spelling?.getD "").toList

def keyword (text : String) : Piece :=
  .word .reservedName text.toList

def identifier (text : String) : Piece :=
  .word .identifier text.toList

def numeral (value : Nat) : Piece :=
  .word .number (Nat.toDigits 10 value)

/-- A character by its code, in upper case. -/
def codePoint (c : Char) : Piece :=
  .word .codePoint ('U' :: '+' :: (Nat.toDigits 16 c.toNat).map Char.toUpper)

/-- A quote and a backslash need a backslash between double quotes. -/
def escape (c : Char) : List Char :=
  if c = '"' || c = '\\' then ['\\', c] else [c]

/-- A text between double quotes. -/
def quoted (content : String) : Piece :=
  .word .string ('"' :: (content.toList.flatMap escape ++ ['"']))

/-- A text as it stands between quotes that do not end it. -/
def rawQuoted (content : String) : Piece :=
  let quote := if content.toList.contains '\'' then '"' else '\''
  .word .string (quote :: (content.toList ++ [quote]))

def chars : Piece → List Char
  | space => [' ']
  | word _ text => text

/-- The text of the pieces one after the other. -/
def textOf (pieces : List Piece) : List Char :=
  pieces.flatMap chars

/-- One run of pieces after the other, with a separator between each two of them. -/
def separated (separator : List Piece) : List (List Piece) → List Piece
  | [] => []
  | first :: more => first ++ more.flatMap (separator ++ ·)

end Piece

open Piece

/-! ## Parts without expressions -/

def ClassItem.pieces : ClassItem → List Piece
  | .char c => [codePoint c]
  | .range first last => [codePoint first, operator .dash, codePoint last]
  | .named text qualifier negative _ =>
    (if negative then [operator .bang] else []) ++
      (match qualifier with
        | some qualifier => [identifier qualifier, operator .colon]
        | none => []) ++
      [identifier text]

def CharClass.pieces (members : CharClass) : List Piece :=
  [operator .openBracket] ++ separated [.space] (members.items.map ClassItem.pieces) ++
    [operator .closeBracket]

/-- What opens a group. -/
def GroupKind.pieces : GroupKind → List Piece
  | .plain => [operator .openParen]
  | .capturing => [operator .colon, operator .openParen]
  | .named text => [operator .colon, identifier text, operator .openParen]
  | .atomic => [keyword "atomic", operator .openParen]

def Bounds.pieces (bounds : Bounds) : List Piece :=
  [operator .openBrace, numeral bounds.lower, operator .comma] ++
    (bounds.upper.map numeral).toList ++ [operator .closeBrace]

/-- What says of itself which number of repetitions it prefers. -/
def Quantifier.pieces : Quantifier → List Piece
  | .greedy => [.space, keyword "greedy"]
  | .lazy => [.space, keyword "lazy"]
  | .defaultGreedy | .defaultLazy => []

def Boundary.pieces : Boundary → List Piece
  | .start => [operator .caret]
  | .stop => [operator .dollar]
  | .word => [operator .percent]
  | .notWord => [operator .bang, operator .percent]
  | .wordStart => [operator .angleLeft]
  | .wordStop => [operator .angleRight]

def Lookaround.pieces : Lookaround → List Piece
  | .ahead => [operator .lookAhead]
  | .behind => [operator .lookBehind]
  | .notAhead => [operator .bang, operator .lookAhead]
  | .notBehind => [operator .bang, operator .lookBehind]

def ReferenceTarget.pieces : ReferenceTarget → List Piece
  | .named text => [identifier text]
  | .number index => [numeral index]
  | .relative offset =>
    [operator (if offset < 0 then .dash else .plus), numeral offset.toInt.natAbs]

/-! ## Statements -/

def CaptureLabel.piece : CaptureLabel → Piece
  | .number index => numeral index
  | .name text => identifier text

def Capture.pieces (capture : Capture) : List Piece :=
  [.space, capture.label.piece, operator .colon, .space, quoted capture.literal.content,
    operator .comma]

/-- What a match says about captures. -/
def TestMatch.capturePieces : List Capture → List Piece
  | [] => []
  | captures =>
    [.space, identifier "as", .space, operator .openBrace] ++ captures.flatMap Capture.pieces ++
      [.space, operator .closeBrace]

def TestMatch.pieces (expected : TestMatch) : List Piece :=
  [quoted expected.literal.content] ++ capturePieces expected.captures

def TestCase.pieces : TestCase → List Piece
  | .whole expected => [identifier "match", .space] ++ expected.pieces
  | .within haystack expected _ =>
    [identifier "match", .space] ++
      separated [operator .comma, .space] (expected.map TestMatch.pieces) ++
        [.space, identifier "in", .space, quoted haystack.content]
  | .reject text asSubstring _ =>
    [identifier "reject", .space] ++ (if asSubstring then [identifier "in", .space] else []) ++
      [quoted text.content]

def Setting.piece : Setting → Piece
  | .lazy => keyword "lazy"
  | .unicode => identifier "unicode"

def Directive.pieces : Directive → List Piece
  | .toggle setting value _ =>
    [keyword (if value then "enable" else "disable"), .space, setting.piece, operator .semicolon]
  | .tests cases _ =>
    [keyword "test", .space, operator .openBrace] ++
      cases.flatMap (fun case => [.space] ++ case.pieces ++ [operator .semicolon]) ++
        [.space, operator .closeBrace]

/-! ## Patterns -/

namespace Pattern

mutual

def pieces : Pattern → List Piece
  | .literal text => if text = ⟨"", .absent⟩ then [] else [quoted text.content]
  | .charClass members => members.pieces
  | .group kind body _ => kind.pieces ++ body.pieces ++ [operator .closeParen]
  | .sequence members _ => separated [.space] (piecesOfEach members)
  | .alternation members _ => separated [.space, operator .pipe, .space] (piecesOfEach members)
  | .intersection members _ =>
    separated [.space, operator .ampersand, .space] (piecesOfEach members)
  | .repetition body bounds quantifier _ => body.pieces ++ bounds.pieces ++ quantifier.pieces
  | .boundary kind _ => kind.pieces
  | .lookaround kind body _ => kind.pieces ++ [.space] ++ body.pieces
  | .use text _ => [identifier text]
  | .reference target _ => [operator .doubleColon] ++ target.pieces
  | .numberRange first last radix _ =>
    [keyword "range", .space, rawQuoted first, operator .dash, rawQuoted last, .space,
      keyword "base", .space, numeral radix]
  | .negation body _ _ => [operator .bang] ++ body.pieces
  | .regex content _ => [keyword "regex", .space, quoted content]
  | .recursion _ => [keyword "recursion"]
  | .dot _ => [operator .dot]
  | .directed directive body _ => directive.pieces ++ [.space] ++ body.pieces
  | .binding text _ bound body _ =>
    [keyword "let", .space, identifier text, .space, operator .equals, .space] ++ bound.pieces ++
      [operator .semicolon] ++ [.space] ++ body.pieces

def piecesOfEach : List Pattern → List (List Piece)
  | [] => []
  | member :: members => member.pieces :: piecesOfEach members

end

/-- The pattern as a source. -/
def print (pattern : Pattern) : String :=
  String.ofList (textOf pattern.pieces)

end Pattern

end PatternSyntax
