import PatternSyntax.Proofs.Printing.Values
import PatternSyntax.Proofs.Skeleton

/-!
# Rewriting

Pieces rewrite a part of a tree if each word is a token that ends where the next
piece begins, and if lexemes of these words spell the part again. Runs of pieces are
put together from left to right. What has to be seen where two runs meet is that the
last word of the first ends before the first character of the second.
-/

namespace PatternSyntax

open Grammar PatternSyntax.Parser Recognition Text Piece

/-- The last of the pieces does not go on with a character. -/
def endsBefore (next : Char) : List Piece → Bool
  | [] => true
  | [.space] => true
  | [.word kind _] => kind.endsBefore next
  | _ :: second :: rest => endsBefore next (second :: rest)

/-- The character goes on with no token. -/
def isNeutral (next : Char) : Bool :=
  !isWordChar next && next != '<' && next != '>' && next != ':'

theorem endsBefore_of_isNeutral {next : Char} (neutral : isNeutral next) (kind : TokenKind) :
    kind.endsBefore next := by
  simp only [isNeutral, Bool.and_eq_true] at neutral
  obtain ⟨⟨⟨notWord, notLess⟩, notGreater⟩, notColon⟩ := neutral
  cases kind <;> simp [TokenKind.endsBefore, *]

theorem endsBefore_pieces_of_isNeutral {next : Char} (neutral : isNeutral next)
    (pieces : List Piece) : endsBefore next pieces := by
  induction pieces with
  | nil => rfl
  | cons first rest inductionHypothesis =>
    cases rest with
    | nil =>
      cases first with
      | space => rfl
      | word kind text => exact endsBefore_of_isNeutral neutral kind
    | cons second rest => cases first <;> exact inductionHypothesis

theorem Piece.IsChained.append {first second : List Piece}
    (tokens : ∀ kind text, .word kind text ∈ first → IsToken kind text)
    (chainedFirst : IsChained first) (chainedSecond : IsChained second)
    (joins : ∀ c ∈ (textOf second).head?, endsBefore c first) : IsChained (first ++ second) := by
  induction first with
  | nil => exact chainedSecond
  | cons piece rest inductionHypothesis =>
    have tokensRest := fun kind text member => tokens kind text (List.mem_cons_of_mem _ member)
    cases rest with
    | nil =>
      cases piece with
      | space => exact chainedSecond
      | word kind text => exact ⟨joins, chainedSecond⟩
    | cons next rest =>
      cases piece with
      | space => exact inductionHypothesis tokensRest chainedFirst joins
      | word kind text =>
        refine ⟨?_, inductionHypothesis tokensRest chainedFirst.2 joins⟩
        have ends := chainedFirst.1
        cases next with
        | space => exact ends
        | word nextKind nextText =>
          obtain ⟨-, c, tail, rfl, -⟩ := tokens nextKind nextText (by simp)
          exact ends

/-! ## Where pieces meet -/

section

variable {p : Char → Bool}

theorem textOf_append (first second : List Piece) :
    textOf (first ++ second) = textOf first ++ textOf second :=
  List.flatMap_append

theorem head?_nil : ∀ c ∈ (textOf []).head?, p c := by
  rintro c ⟨⟩

theorem head?_space (atSpace : p ' ') (pieces : List Piece) :
    ∀ c ∈ (textOf (.space :: pieces)).head?, p c := by
  rintro c ⟨⟩
  exact atSpace

theorem head?_operator {kind : TokenKind}
    (atFirst : (kind.spelling?.bind (·.toList.head?)).any p) (pieces : List Piece) :
    ∀ c ∈ (textOf (operator kind :: pieces)).head?, p c := by
  rw [Option.any_eq_true] at atFirst
  obtain ⟨first, found, atFirst⟩ := atFirst
  obtain ⟨spelling, spelled, isHead⟩ := Option.bind_eq_some_iff.mp found
  intro c isFirst
  have text_eq : textOf (operator kind :: pieces) = spelling.toList ++ textOf pieces := by
    rw [operator, spelled]
    rfl
  rw [text_eq, List.head?_append, isHead, Option.some_or] at isFirst
  cases isFirst
  exact atFirst

theorem head?_append {first second : List Piece} (atFirst : ∀ c ∈ (textOf first).head?, p c)
    (atSecond : ∀ c ∈ (textOf second).head?, p c) :
    ∀ c ∈ (textOf (first ++ second)).head?, p c := by
  intro c isFirst
  rw [textOf_append, List.head?_append, Option.mem_def, Option.or_eq_some_iff] at isFirst
  rcases isFirst with inFirst | ⟨-, inSecond⟩
  · exact atFirst c inFirst
  · exact atSecond c inSecond

theorem head?_flatMap {α : Type} {write : α → List Piece} {values : List α}
    (all : ∀ value ∈ values, ∀ c ∈ (textOf (write value)).head?, p c) :
    ∀ c ∈ (textOf (values.flatMap write)).head?, p c := by
  induction values with
  | nil => nofun
  | cons value values inductionHypothesis =>
    obtain ⟨atValue, atValues⟩ := List.forall_mem_cons.mp all
    rw [List.flatMap_cons]
    exact head?_append atValue (inductionHypothesis atValues)

/-- Operators that begin with a character that goes on with no token. -/
def separators : List TokenKind :=
  [.comma, .semicolon, .dash, .star, .plus, .questionMark, .openParen, .closeParen, .openBrace,
    .closeBrace, .closeBracket]

theorem neutral_separators : ∀ kind ∈ separators,
    (kind.spelling?.bind (·.toList.head?)).any isNeutral := by
  decide +kernel

theorem neutral_operator {kind : TokenKind} (separates : kind ∈ separators) (pieces : List Piece) :
    ∀ c ∈ (textOf (operator kind :: pieces)).head?, isNeutral c :=
  head?_operator (neutral_separators kind separates) pieces

theorem neutral_space (pieces : List Piece) :
    ∀ c ∈ (textOf (.space :: pieces)).head?, isNeutral c :=
  head?_space (by simp [isNeutral, isWordChar_of_isBlank isBlank_space]) pieces

theorem ends_of_neutral {pieces : List Piece} (neutral : ∀ c ∈ (textOf pieces).head?, isNeutral c)
    (kind : TokenKind) : ∀ c ∈ (textOf pieces).head?, kind.endsBefore c :=
  fun c isFirst => endsBefore_of_isNeutral (neutral c isFirst) kind

theorem ends_space (kind : TokenKind) (pieces : List Piece) :
    ∀ c ∈ (textOf (.space :: pieces)).head?, kind.endsBefore c :=
  ends_of_neutral (neutral_space pieces) kind

theorem ends_operator {next : TokenKind} (separates : next ∈ separators) (kind : TokenKind)
    (pieces : List Piece) : ∀ c ∈ (textOf (operator next :: pieces)).head?, kind.endsBefore c :=
  ends_of_neutral (neutral_operator separates pieces) kind

/-- A name or a number ends before a colon. -/
theorem ends_colon {kind : TokenKind} (isWord : kind = .identifier ∨ kind = .number)
    (pieces : List Piece) : ∀ c ∈ (textOf (operator .colon :: pieces)).head?, kind.endsBefore c := by
  have notWord : isWordChar ':' = false := isWordChar_of_ascii (by decide)
  apply head?_operator
  rcases isWord with rfl | rfl
  all_goals exact Bool.not_eq_true' _ |>.mpr notWord

end

/-! ## Rewriting -/

/-- The pieces are tokens that end where the next piece begins, and lexemes of these
words have the property. -/
structure Rewrites (pieces : List Piece) (spelled : List Lexeme → Prop) : Prop where
  tokens : ∀ kind text, .word kind text ∈ pieces → IsToken kind text
  chained : IsChained pieces
  spells : ∀ lexemes, lexemes.map Lexeme.word = words pieces →
    (∀ lexeme ∈ lexemes, lexeme.span ≠ .absent) → spelled lexemes

theorem words_append (first second : List Piece) :
    words (first ++ second) = words first ++ words second := by
  induction first with
  | nil => rfl
  | cons piece first inductionHypothesis =>
    cases piece with
    | space => exact inductionHypothesis
    | word kind text => exact congrArg (_ :: ·) inductionHypothesis

namespace Rewrites

variable {first second pieces : List Piece} {holds others : List Lexeme → Prop}

theorem mono (rewrites : Rewrites pieces holds) (implies : ∀ lexemes, holds lexemes → others lexemes) :
    Rewrites pieces others :=
  ⟨rewrites.tokens, rewrites.chained, fun lexemes same present =>
    implies lexemes (rewrites.spells lexemes same present)⟩

theorem nil : Rewrites [] (· = []) :=
  ⟨nofun, trivial, fun _ same _ => List.map_eq_nil_iff.mp same⟩

theorem append (rewritesFirst : Rewrites first holds) (rewritesSecond : Rewrites second others)
    (joins : ∀ c ∈ (textOf second).head?, endsBefore c first) :
    Rewrites (first ++ second) fun lexemes =>
      ∃ front back, lexemes = front ++ back ∧ holds front ∧ others back := by
  refine ⟨?_, rewritesFirst.chained.append rewritesFirst.tokens rewritesSecond.chained joins, ?_⟩
  · intro kind text member
    rcases List.mem_append.mp member with inFirst | inSecond
    · exact rewritesFirst.tokens kind text inFirst
    · exact rewritesSecond.tokens kind text inSecond
  · intro lexemes same present
    rw [words_append] at same
    obtain ⟨front, back, rfl, sameFront, sameBack⟩ := List.map_eq_append_iff.mp same
    obtain ⟨presentFront, presentBack⟩ := List.forall_mem_append.mp present
    exact ⟨front, back, rfl, rewritesFirst.spells front sameFront presentFront,
      rewritesSecond.spells back sameBack presentBack⟩

theorem cons_space (rewrites : Rewrites pieces holds) : Rewrites (.space :: pieces) holds := by
  refine ⟨fun kind text member => ?_, rewrites.chained, rewrites.spells⟩
  rcases List.mem_cons.mp member with isSpace | inRest
  · cases isSpace
  · exact rewrites.tokens kind text inRest

theorem cons_word {kind : TokenKind} {text : List Char} (isToken : IsToken kind text)
    (ends : ∀ c ∈ (textOf pieces).head?, kind.endsBefore c) (rewrites : Rewrites pieces holds) :
    Rewrites (.word kind text :: pieces) fun lexemes => ∃ lexeme more, lexemes = lexeme :: more ∧
      (lexeme.kind = kind ∧ lexeme.text = String.ofList text ∧ lexeme.span ≠ .absent) ∧ holds more := by
  refine ⟨?_, ⟨ends, rewrites.chained⟩, ?_⟩
  · intro otherKind otherText member
    rcases List.mem_cons.mp member with same | inRest
    · cases same
      exact isToken
    · exact rewrites.tokens otherKind otherText inRest
  · intro lexemes same present
    obtain ⟨lexeme, more, rfl, isWord, sameMore⟩ := List.map_eq_cons_iff.mp same
    obtain ⟨presentLexeme, presentMore⟩ := List.forall_mem_cons.mp present
    obtain ⟨isKind, isText⟩ := Prod.mk.inj isWord
    exact ⟨lexeme, more, rfl, ⟨isKind, isText, presentLexeme⟩,
      rewrites.spells more sameMore presentMore⟩

theorem append_neutral (rewritesFirst : Rewrites first holds)
    (rewritesSecond : Rewrites second others) (neutral : ∀ c ∈ (textOf second).head?, isNeutral c) :
    Rewrites (first ++ second) fun lexemes =>
      ∃ front back, lexemes = front ++ back ∧ holds front ∧ others back :=
  rewritesFirst.append rewritesSecond fun c isFirst =>
    endsBefore_pieces_of_isNeutral (neutral c isFirst) first

end Rewrites

/-- The lexemes spell something that is the same as the value when both are stripped. -/
def Respells {α : Type} (spells : α → List Lexeme → Prop) (strip : α → α) (value : α)
    (lexemes : List Lexeme) : Prop :=
  ∃ other, spells other lexemes ∧ strip other = strip value

/-- Values that are rewritten one after the other are rewritten together. -/
theorem Rewrites.flatMap {α : Type} {spells : α → List Lexeme → Prop} {strip : α → α}
    {write : α → List Piece} {values : List α}
    (rewrites : ∀ value ∈ values, Rewrites (write value) (Respells spells strip value))
    (neutral : ∀ value ∈ values, ∀ c ∈ (textOf (write value)).head?, isNeutral c) :
    Rewrites (values.flatMap write) (Respells (Each spells) (List.map strip) values) := by
  induction values with
  | nil =>
    refine nil.mono ?_
    rintro lexemes rfl
    exact ⟨[], .nil, rfl⟩
  | cons value values inductionHypothesis =>
    obtain ⟨rewritesValue, rewritesValues⟩ := List.forall_mem_cons.mp rewrites
    obtain ⟨-, neutralValues⟩ := List.forall_mem_cons.mp neutral
    have rewritesMore := inductionHypothesis rewritesValues neutralValues
    refine (rewritesValue.append_neutral rewritesMore (head?_flatMap neutralValues)).mono ?_
    rintro lexemes ⟨front, back, rfl, ⟨other, spells, same⟩, others, each, sameMore⟩
    exact ⟨other :: others, .cons spells each, by rw [List.map_cons, same, sameMore, List.map_cons]⟩

/-! ## Words of the language -/

/-- The text is one or more small letters. -/
def isSmall (text : String) : Bool :=
  !text.toList.isEmpty && text.toList.all Char.isLower

theorem isWordStart_of_isLower {c : Char} (lower : c.isLower) : isWordStart c := by
  have ascii : c.toNat < 128 := by
    obtain ⟨-, atMost⟩ := Bool.and_eq_true_iff.mp lower
    have bound : c.val.toNat ≤ 'z'.val.toNat := UInt32.le_iff_toNat_le.mp (of_decide_eq_true atMost)
    exact Nat.lt_of_le_of_lt bound (by decide)
  rw [isWordStart_of_ascii ascii, Char.isAlpha, lower, Bool.or_true, Bool.true_or]

theorem isToken_small {text : String} (small : isSmall text) :
    IsToken (if isReserved text then .reservedName else .identifier) text.toList := by
  obtain ⟨nonempty, lower⟩ := Bool.and_eq_true_iff.mp small
  obtain ⟨first, tail, split⟩ : ∃ first tail, text.toList = first :: tail :=
    List.exists_cons_of_ne_nil (by simpa using nonempty)
  rw [split, List.all_eq_true] at lower
  have text_eq : text = String.ofList (first :: tail) := by rw [← split, String.ofList_toList]
  have areWordChars : ∀ c ∈ tail, isWordChar c := fun c isIn =>
    isWordChar_of_isWordStart (isWordStart_of_isLower (lower c (List.mem_cons_of_mem _ isIn)))
  have noCodePoint : codePoint? first (tail ++ []) = none := by
    unfold codePoint?
    refine if_neg ?_
    rintro rfl
    have isLower := lower 'U' List.mem_cons_self
    revert isLower
    decide
  refine ⟨?_, first, tail, split, ?_⟩
  · rw [split]
    intro isLetter
    have isLower := lower 'U' (by rw [isLetter]; exact List.mem_cons_self)
    revert isLower
    decide
  · rw [text_eq]
    exact .word (isWordStart_of_isLower (lower first List.mem_cons_self)) noCodePoint areWordChars
      nofun

theorem isToken_operator {kind : TokenKind} (isOperator : kind.spelling?.isSome) :
    IsToken kind (kind.spelling?.getD "").toList := by
  cases kind
  case lookAhead => exact ⟨by decide, '>', ['>'], rfl, .pair rfl⟩
  case lookBehind => exact ⟨by decide, '<', ['<'], rfl, .pair rfl⟩
  case doubleColon => exact ⟨by decide, ':', [':'], rfl, .pair rfl⟩
  all_goals first | exact ⟨by decide, _, [], rfl, .single rfl rfl⟩ | cases isOperator

namespace Rewrites

variable {pieces : List Piece} {holds : List Lexeme → Prop}

theorem cons_operator {kind : TokenKind} (isOperator : kind.spelling?.isSome)
    (ends : ∀ c ∈ (textOf pieces).head?, kind.endsBefore c) (rewrites : Rewrites pieces holds) :
    Rewrites (operator kind :: pieces) fun lexemes => ∃ lexeme more, lexemes = lexeme :: more ∧
      lexeme.kind = kind ∧ holds more := by
  refine (cons_word (isToken_operator isOperator) ends rewrites).mono ?_
  rintro lexemes ⟨lexeme, more, rfl, ⟨isKind, -, -⟩, spelled⟩
  exact ⟨lexeme, more, rfl, isKind, spelled⟩

theorem cons_keyword {text : String} (isWord : isSmall text && isReserved text)
    (ends : ∀ c ∈ (textOf pieces).head?, TokenKind.reservedName.endsBefore c)
    (rewrites : Rewrites pieces holds) :
    Rewrites (keyword text :: pieces) fun lexemes => ∃ lexeme more, lexemes = lexeme :: more ∧
      lexeme.IsKeyword text ∧ holds more := by
  obtain ⟨small, reserved⟩ := Bool.and_eq_true_iff.mp isWord
  have isToken := isToken_small small
  rw [if_pos reserved] at isToken
  refine (cons_word isToken ends rewrites).mono ?_
  rintro lexemes ⟨lexeme, more, rfl, ⟨isKind, isText, -⟩, spelled⟩
  exact ⟨lexeme, more, rfl, ⟨isKind, by rw [isText, String.ofList_toList]⟩, spelled⟩

theorem cons_identifier {text : String} (isToken : IsToken .identifier text.toList)
    (ends : ∀ c ∈ (textOf pieces).head?, TokenKind.identifier.endsBefore c)
    (rewrites : Rewrites pieces holds) :
    Rewrites (identifier text :: pieces) fun lexemes => ∃ lexeme more, lexemes = lexeme :: more ∧
      lexeme.IsName text ∧ holds more := by
  refine (cons_word isToken ends rewrites).mono ?_
  rintro lexemes ⟨lexeme, more, rfl, ⟨isKind, isText, -⟩, spelled⟩
  exact ⟨lexeme, more, rfl, ⟨isKind, by rw [isText, String.ofList_toList]⟩, spelled⟩

/-- A colon does not go on with a name. -/
theorem cons_colon {text : String} (starts : ∀ c ∈ text.toList.head?, isWordStart c)
    (rewrites : Rewrites (identifier text :: pieces) holds) :
    Rewrites (operator .colon :: identifier text :: pieces) fun lexemes => ∃ lexeme more,
      lexemes = lexeme :: more ∧ lexeme.kind = .colon ∧ holds more := by
  obtain ⟨-, first, tail, split, -⟩ := rewrites.tokens .identifier text.toList List.mem_cons_self
  have isStart := starts first (by rw [split]; rfl)
  refine cons_operator rfl ?_ rewrites
  rw [textOf, List.flatMap_cons, identifier, chars, split]
  rintro c ⟨⟩
  simp only [TokenKind.endsBefore, Bool.and_eq_true, bne_iff_ne]
  refine ⟨⟨?_, ?_⟩, ?_⟩
  all_goals
    rintro rfl
    rw [isWordStart_of_ascii (by decide)] at isStart
    cases isStart

/-- A name that has a meaning in one place only. -/
theorem cons_contextual {text : String} (isWord : isSmall text && !isReserved text)
    (ends : ∀ c ∈ (textOf pieces).head?, TokenKind.identifier.endsBefore c)
    (rewrites : Rewrites pieces holds) :
    Rewrites (identifier text :: pieces) fun lexemes => ∃ lexeme more, lexemes = lexeme :: more ∧
      lexeme.IsName text ∧ holds more := by
  obtain ⟨small, notReserved⟩ := Bool.and_eq_true_iff.mp isWord
  have isToken := isToken_small small
  rw [Bool.not_eq_true'] at notReserved
  rw [notReserved] at isToken
  exact cons_identifier isToken ends rewrites

theorem cons_numeral {value : Nat}
    (ends : ∀ c ∈ (textOf pieces).head?, TokenKind.number.endsBefore c)
    (rewrites : Rewrites pieces holds) :
    Rewrites (numeral value :: pieces) fun lexemes => ∃ lexeme more, lexemes = lexeme :: more ∧
      (lexeme.kind = .number ∧ lexeme.text.toList = Nat.toDigits 10 value) ∧ holds more := by
  refine (cons_word (isToken_numeral value) ends rewrites).mono ?_
  rintro lexemes ⟨lexeme, more, rfl, ⟨isKind, isText, -⟩, spelled⟩
  exact ⟨lexeme, more, rfl, ⟨isKind, by rw [isText, String.toList_ofList]⟩, spelled⟩

theorem cons_codePoint {c : Char}
    (ends : ∀ c ∈ (textOf pieces).head?, TokenKind.codePoint.endsBefore c)
    (rewrites : Rewrites pieces holds) :
    Rewrites (codePoint c :: pieces) fun lexemes => ∃ lexeme more, lexemes = lexeme :: more ∧
      SpellsUnit (.char c) lexeme ∧ holds more := by
  refine (cons_word (isToken_codePoint c) ends rewrites).mono ?_
  rintro lexemes ⟨lexeme, more, rfl, ⟨isKind, isText, -⟩, spelled⟩
  refine ⟨lexeme, more, rfl, .codePoint isKind ?_, spelled⟩
  rw [isText, String.toList_ofList, codePointChar?_written]

theorem cons_quoted {content : String} (rewrites : Rewrites pieces holds) :
    Rewrites (quoted content :: pieces) fun lexemes => ∃ lexeme more, lexemes = lexeme :: more ∧
      (lexeme.kind = .string ∧ lexeme.literal.content = content ∧ lexeme.span ≠ .absent) ∧
        holds more := by
  refine (cons_word (isToken_quoted content.toList) (fun _ _ => rfl) rewrites).mono ?_
  rintro lexemes ⟨lexeme, more, rfl, ⟨isKind, isText, present⟩, spelled⟩
  refine ⟨lexeme, more, rfl, ⟨isKind, ?_, present⟩, spelled⟩
  rw [Lexeme.literal, isText, String.toList_ofList, decode_quoted, String.ofList_toList]

end Rewrites

end PatternSyntax
