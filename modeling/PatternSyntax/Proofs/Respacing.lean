import PatternSyntax.Proofs.Displacement.Sources
import PatternSyntax.Proofs.Segmentation.Lexemes

/-!
# Spacing out a source

The texts of all tokens of a source, with one space between each two of them, fall into the
same tokens again, since every token ends before a space. There is one exception. A code
point holds blanks but no comments, and so its letter, its sign and its digits can be three
tokens where a comment stands between them. Without the comment they are one.
-/

namespace PatternSyntax

open Recognition Text

/-- The texts of all tokens with single spaces between them. -/
def respaced (source : String) : String :=
  " ".intercalate ((lexemesOf source).map Lexeme.text)

/-- The letter of a code point, a plus sign, and what begins with a hexadecimal digit. -/
structure IsSplitCodePoint (letter sign digits : Lexeme) : Prop where
  isName : letter.kind = .reservedName
  isLetter : letter.text = "U"
  isSign : sign.kind = .plus
  beginsWithDigit : ∃ c ∈ digits.text.toList.head?, c.isHexDigit

/-- A code point that is split stands somewhere among the lexemes. -/
def HoldsSplitCodePoint (lexemes : List Lexeme) : Prop :=
  ∃ letter sign digits, [letter, sign, digits] <:+: lexemes ∧ IsSplitCodePoint letter sign digits

/-! ## Texts with spaces -/

def textsOf (lexemes : List Lexeme) : List (List Char) :=
  lexemes.map fun lexeme => lexeme.text.toList

/-- The texts with single spaces between them. -/
def spaced (texts : List (List Char)) : List Char :=
  [' '].intercalate texts

/-- The texts with a space before each. -/
def behind (texts : List (List Char)) : List Char :=
  texts.flatMap fun text => ' ' :: text

theorem behind_cons (text : List Char) (texts : List (List Char)) :
    behind (text :: texts) = ' ' :: (text ++ behind texts) :=
  List.flatMap_cons

theorem spaced_cons (text : List Char) (texts : List (List Char)) :
    spaced (text :: texts) = text ++ behind texts := by
  induction texts generalizing text with
  | nil => simp [spaced, behind]
  | cons next texts inductionHypothesis =>
    have later := inductionHypothesis next
    rw [spaced] at later
    rw [spaced, List.intercalate_cons_cons, later, behind_cons, List.append_assoc,
      List.singleton_append]

theorem respaced_toList (source : String) :
    (respaced source).toList = spaced (textsOf (lexemesOf source)) := by
  rw [respaced, String.toList_intercalate, List.map_map]
  rfl

/-! ## Tokens before spaces -/

theorem head?_behind {texts : List (List Char)} : ∀ c ∈ (behind texts).head?, c = ' ' := by
  cases texts with
  | nil => nofun
  | cons text texts => simp [behind_cons]

/-- Only a text that is not closed depends on what follows it for its form. -/
theorem IsLexeme.of_rest {kind : TokenKind} {text more other : List Char}
    (isLexeme : IsLexeme kind text more) (closed : kind = .unclosedString → other = []) :
    IsLexeme kind text other := by
  cases isLexeme with
  | operator spells => exact .operator spells
  | singleQuoted free => exact .singleQuoted free
  | doubleQuoted quotable => exact .doubleQuoted quotable
  | codePoint beforeBlank afterBlank nonempty areDigits =>
    exact .codePoint beforeBlank afterBlank nonempty areDigits
  | number isDigit areDigits => exact .number isDigit areDigits
  | identifier isStart areWordChars ordinary => exact .identifier isStart areWordChars ordinary
  | reservedName isStart areWordChars reserved => exact .reservedName isStart areWordChars reserved
  | unclosedSingle free => exact closed rfl ▸ .unclosedSingle free
  | unclosedDouble endless => exact closed rfl ▸ .unclosedDouble endless

namespace StandsAsToken

variable {kind : TokenKind} {text tail more : List Char}

/-- Nothing follows a text that is not closed. -/
theorem rest_eq_nil (stands : StandsAsToken .unclosedString text more) : more = [] := by
  cases stands with
  | lexeme isLexeme _ _ => exact isLexeme.recognize_unclosed.1

theorem eq_plus (stands : StandsAsToken .plus text more) : text = ['+'] := by
  cases stands with
  | lexeme isLexeme _ _ =>
    cases isLexeme with
    | operator spells =>
      cases spells
      rfl

theorem of_plus (stands : StandsAsToken kind ('+' :: tail) more) : kind = .plus ∧ tail = [] := by
  obtain ⟨_, _, same, -, recognized⟩ := stands.recognize_eq
  obtain ⟨rfl, rfl⟩ := List.cons_eq_cons.mp same
  have alone : pairOperator? '+' (tail ++ more) = none :=
    (pairOperator?_eq_none_iff rfl _).mpr fun _ _ => rfl
  rw [recognize, alone, TokenKind.ofChar?, Prod.mk.injEq] at recognized
  exact ⟨recognized.1.symm, List.length_eq_zero_iff.mp recognized.2.symm⟩

/-- A token depends on what follows it only by its end. -/
theorem before {other : List Char} (stands : StandsAsToken kind text more)
    (closed : kind = .unclosedString → other = [])
    (ends : ∀ c ∈ other.head?, kind.goesOnWith c = false)
    (noCodePoint : kind = .reservedName → text = ['U'] → codePoint? 'U' other = none) :
    StandsAsToken kind text other := by
  cases stands with
  | lexeme isLexeme _ _ =>
    exact .lexeme (isLexeme.of_rest closed) ends fun isName isLetter =>
      codePoint?_eq_none_iff.mp (noCodePoint isName isLetter)
  | unknown noTrivia noLexeme =>
    exact .unknown noTrivia (beginsNoLexeme_iff.mp (beginsNoLexeme_iff.mpr noLexeme))

theorem goesOnWith_eq_false (stands : StandsAsToken kind text more) :
    ∀ c ∈ more.head?, kind.goesOnWith c = false := by
  cases stands with
  | lexeme _ ends _ => exact ends
  | unknown _ _ => exact fun _ _ => rfl

theorem scans {position : Nat} {lexemes : List Lexeme} (stands : StandsAsToken kind text more)
    (scans : Scans (position + utf8Size text) more lexemes) :
    Scans position (text ++ more) (.at position kind text :: lexemes) := by
  obtain ⟨first, tail, rfl, noTrivia, recognized⟩ := stands.recognize_eq
  exact @Scans.lexeme position [] tail more first kind lexemes
    (triviaLength_of_beginsNoTrivia noTrivia _) recognized scans

end StandsAsToken

/-- Every lexeme is a token before some text. One that is not closed is the last one. -/
inductive AreTokens : List Lexeme → Prop where
  | nil : AreTokens []
  | cons {lexeme : Lexeme} {more : List Char} {lexemes : List Lexeme}
    (stands : StandsAsToken lexeme.kind lexeme.text.toList more)
    (closed : lexeme.kind = .unclosedString → lexemes = []) (areTokens : AreTokens lexemes) :
    AreTokens (lexeme :: lexemes)

theorem Scans.areTokens {position : Nat} {text : List Char} {lexemes : List Lexeme}
    (scans : Scans position text lexemes) : AreTokens lexemes := by
  induction scans with
  | done => exact .nil
  | @lexeme position trivia tail rest first kind lexemes skips recognized scans inductionHypothesis =>
    have stands := standsAsToken_of_recognize (triviaLength_eq_iff.mp skips).2 recognized
    have text_eq : (Lexeme.at (position + utf8Size trivia) kind (first :: tail)).text.toList =
        first :: tail := String.toList_ofList
    refine .cons (text_eq ▸ stands) (fun unclosed => ?_) inductionHypothesis
    obtain rfl : kind = .unclosedString := unclosed
    obtain rfl := stands.rest_eq_nil
    exact scans.unique (.done rfl)

theorem AreTokens.of_append {before rest : List Lexeme} (areTokens : AreTokens (before ++ rest)) :
    AreTokens rest := by
  induction before with
  | nil => exact areTokens
  | cons lexeme before inductionHypothesis =>
    cases areTokens with
    | cons _ _ areTokens => exact inductionHypothesis areTokens

/-- A code point goes on after the letter and spaces exactly if the sign and the digits come
next. -/
theorem codePoint?_behind_eq_none_iff {lexemes : List Lexeme} (areTokens : AreTokens lexemes) :
    codePoint? 'U' (behind (textsOf lexemes)) = none ↔ ∀ sign digits rest,
      lexemes = sign :: digits :: rest → sign.kind = .plus →
        ∀ c ∈ digits.text.toList.head?, c.isHexDigit = false := by
  have toTail (rest : List Char) : codePoint? 'U' rest = codePointTail? rest := if_pos rfl
  have pastSpace (first : Char) (tail : List Char) (texts : List (List Char))
      (noTrivia : BeginsNoTrivia first) : (behind ((first :: tail) :: texts)).dropWhile isBlank =
        first :: (tail ++ behind texts) := by
    simp [behind_cons, isBlank_space, noTrivia.1]
  rw [toTail]
  cases areTokens with
  | nil => simp [textsOf, behind, codePointTail?]
  | @cons sign more lexemes stands _ areTokens =>
    obtain ⟨first, tail, text_eq, noTrivia, -⟩ := stands.recognize_eq
    rw [text_eq] at stands
    have texts_eq : textsOf (sign :: lexemes) = (first :: tail) :: textsOf lexemes := by
      rw [textsOf, List.map_cons, text_eq, textsOf]
    rw [texts_eq, codePointTail?, pastSpace first tail _ noTrivia]
    by_cases isSign : first = '+'
    · subst isSign
      obtain ⟨isPlus, rfl⟩ := stands.of_plus
      cases areTokens with
      | nil => simp [textsOf, behind]
      | @cons digits more lexemes stands _ _ =>
        obtain ⟨first, tail, text_eq, noTrivia, -⟩ := stands.recognize_eq
        have texts_eq : textsOf (digits :: lexemes) = (first :: tail) :: textsOf lexemes := by
          rw [textsOf, List.map_cons, text_eq, textsOf]
        simp only [List.nil_append, texts_eq, pastSpace first tail _ noTrivia]
        cases isHex : first.isHexDigit <;>
          simp [isHex, isPlus, text_eq]
    · have notPlus : sign.kind ≠ .plus := by
        intro isPlus
        rw [isPlus] at stands
        exact isSign (List.cons_eq_cons.mp stands.eq_plus).1
      refine iff_of_true (by simp [isSign]) fun _ _ _ same isPlus => ?_
      obtain ⟨rfl, -⟩ := List.cons_eq_cons.mp same
      exact absurd isPlus notPlus

/-! ## From the tokens to the text and back -/

theorem HoldsSplitCodePoint.cons {lexeme : Lexeme} {lexemes : List Lexeme}
    (holds : HoldsSplitCodePoint lexemes) : HoldsSplitCodePoint (lexeme :: lexemes) := by
  obtain ⟨letter, sign, digits, inside, split⟩ := holds
  exact ⟨letter, sign, digits, inside.trans (List.suffix_cons lexeme lexemes).isInfix, split⟩

/-- Tokens that are spaced out are scanned again. -/
theorem AreTokens.exists_scans {lexemes : List Lexeme} (areTokens : AreTokens lexemes)
    (unsplit : ¬HoldsSplitCodePoint lexemes) (position : Nat) :
    ∃ others, Scans position (spaced (textsOf lexemes)) others ∧
      others.map Lexeme.word = lexemes.map Lexeme.word := by
  induction areTokens generalizing position with
  | nil => exact ⟨[], .done rfl, rfl⟩
  | @cons lexeme more lexemes stands closed areTokens inductionHypothesis =>
    have noCodePoint : lexeme.kind = .reservedName → lexeme.text.toList = ['U'] →
        codePoint? 'U' (behind (textsOf lexemes)) = none := by
      intro isName isLetter
      refine (codePoint?_behind_eq_none_iff areTokens).mpr ?_
      rintro sign digits rest rfl isSign c isFirst
      refine Bool.eq_false_iff.mpr fun isHex => unsplit ⟨lexeme, sign, digits, ?_, isName, ?_,
        isSign, c, isFirst, isHex⟩
      · exact (List.prefix_append [lexeme, sign, digits] rest).isInfix
      · rw [← String.ofList_toList (s := lexeme.text), isLetter]
    have standsSpaced : StandsAsToken lexeme.kind lexeme.text.toList (behind (textsOf lexemes)) := by
      refine stands.before (fun unclosed => by rw [closed unclosed]; rfl) (fun c next => ?_) noCodePoint
      rw [head?_behind c next]
      exact goesOnWith_of_isBlank isBlank_space _
    obtain ⟨others, scans, same⟩ : ∃ others, Scans (position + utf8Size lexeme.text.toList)
        (behind (textsOf lexemes)) others ∧ others.map Lexeme.word = lexemes.map Lexeme.word := by
      cases lexemes with
      | nil => exact ⟨[], .done rfl, rfl⟩
      | cons next lexemes =>
        obtain ⟨others, scans, same⟩ := inductionHypothesis (fun holds => unsplit holds.cons)
          (position + utf8Size lexeme.text.toList + 1)
        rw [textsOf, List.map_cons, spaced_cons] at scans
        rw [textsOf, List.map_cons, behind_cons]
        exact ⟨others, scans.space, same⟩
    refine ⟨.at position lexeme.kind lexeme.text.toList :: others, ?_, ?_⟩
    · rw [textsOf, List.map_cons, spaced_cons]
      exact standsSpaced.scans scans
    · rw [List.map_cons, same, List.map_cons, Lexeme.word, Lexeme.at, String.ofList_toList]
      rfl

/-- The first lexeme of a text that begins with its text is recognized there. -/
theorem Scans.of_text {position : Nat} {first : Char} {tail rest : List Char} {lexeme : Lexeme}
    {lexemes : List Lexeme} (noTrivia : BeginsNoTrivia first)
    (text_eq : lexeme.text.toList = first :: tail)
    (scans : Scans position (first :: tail ++ rest) (lexeme :: lexemes)) :
    recognize first (tail ++ rest) = (lexeme.kind, tail.length) ∧
      Scans (position + utf8Size (first :: tail)) rest lexemes := by
  obtain ⟨_, others, _, _, split, recognized, lexemes_eq, scans⟩ :=
    scans.of_trivia .nil noTrivia
  obtain ⟨rfl, rfl⟩ := List.cons_eq_cons.mp lexemes_eq
  obtain rfl : others = tail := by
    rw [Lexeme.at, String.toList_ofList] at text_eq
    exact (List.cons_eq_cons.mp text_eq).2
  obtain rfl := List.append_cancel_left split
  exact ⟨recognized, scans⟩

/-- Tokens that are scanned again after they are spaced out are scanned one by one. -/
theorem Scans.of_spaced {before rest : List Lexeme} (areTokens : AreTokens (before ++ rest))
    (nonempty : rest ≠ []) {position : Nat} {lexemes : List Lexeme}
    (scans : Scans position (spaced (textsOf (before ++ rest))) lexemes)
    (same : lexemes.map Lexeme.word = (before ++ rest).map Lexeme.word) :
    ∃ position others, Scans position (spaced (textsOf rest)) others ∧
      others.map Lexeme.word = rest.map Lexeme.word := by
  induction before generalizing position lexemes with
  | nil => exact ⟨position, lexemes, scans, same⟩
  | cons lexeme before inductionHypothesis =>
    cases areTokens with
    | cons stands _ areTokens =>
      obtain ⟨first, tail, text_eq, noTrivia, -⟩ := stands.recognize_eq
      obtain ⟨other, others, rfl⟩ : ∃ other others, lexemes = other :: others := by
        cases lexemes with
        | nil => cases same
        | cons other others => exact ⟨other, others, rfl⟩
      rw [List.cons_append, List.map_cons, List.map_cons, List.cons_eq_cons] at same
      obtain ⟨sameWord, same⟩ := same
      have otherText : other.text.toList = first :: tail := by
        rw [← text_eq, (Prod.mk.inj sameWord).2]
      obtain ⟨next, more, split⟩ := List.exists_cons_of_ne_nil
        (List.append_ne_nil_of_right_ne_nil before nonempty)
      rw [List.cons_append, textsOf, List.map_cons, spaced_cons, text_eq] at scans
      have scansRest := (scans.of_text noTrivia otherText).2
      have scansMore : Scans (position + utf8Size (first :: tail) + 1)
          (spaced (textsOf (before ++ rest))) others := by
        rw [split, List.map_cons, behind_cons] at scansRest
        rw [split, textsOf, List.map_cons, spaced_cons]
        exact .of_behind (.blank isBlank_space .nil) scansRest
      exact inductionHypothesis areTokens scansMore same

/-- A code point that was split is one token when it is spaced out. -/
theorem not_scans_of_isSplitCodePoint {letter sign digits : Lexeme} {rest : List Lexeme}
    (split : IsSplitCodePoint letter sign digits)
    (areTokens : AreTokens (letter :: sign :: digits :: rest)) {position : Nat} {lexemes : List Lexeme}
    (same : lexemes.map Lexeme.word = (letter :: sign :: digits :: rest).map Lexeme.word) :
    ¬Scans position (spaced (textsOf (letter :: sign :: digits :: rest))) lexemes := by
  intro scans
  cases areTokens with
  | cons _ _ areTokens =>
    obtain ⟨c, isFirst, isHex⟩ := split.beginsWithDigit
    have someCount : codePoint? 'U' (behind (textsOf (sign :: digits :: rest))) ≠ none := by
      intro noCodePoint
      have notHex := (codePoint?_behind_eq_none_iff areTokens).mp noCodePoint _ _ _ rfl split.isSign
        c isFirst
      rw [isHex] at notHex
      cases notHex
    obtain ⟨count, found⟩ := Option.ne_none_iff_exists'.mp someCount
    obtain ⟨other, others, rfl⟩ : ∃ other others, lexemes = other :: others := by
      cases lexemes with
      | nil => cases same
      | cons other others => exact ⟨other, others, rfl⟩
    rw [List.map_cons, List.map_cons, List.cons_eq_cons] at same
    obtain ⟨kind_eq, text_eq⟩ := Prod.mk.inj same.1
    have isLetter : letter.text.toList = ['U'] := by
      rw [split.isLetter]
      rfl
    have noTrivia : BeginsNoTrivia 'U' := ⟨isBlank_of_ascii (by decide), by decide⟩
    rw [textsOf, List.map_cons, spaced_cons, isLetter] at scans
    have recognized := (scans.of_text noTrivia (text_eq ▸ isLetter)).1
    have isCodePoint : recognize 'U' (behind (textsOf (sign :: digits :: rest))) =
        (.codePoint, count) := by
      rw [recognize, pairOperator?_eq_none rfl, found]
      rfl
    rw [List.nil_append] at recognized
    have kinds := congrArg Prod.fst (isCodePoint.symm.trans recognized)
    rw [kind_eq, split.isName] at kinds
    cases kinds

/-- A source that is spaced out has the same tokens, unless a code point in it is split. -/
theorem sameTokens_respaced_iff {source : String} (short : utf8Size source.toList < 2 ^ 32)
    (shortRespaced : utf8Size (respaced source).toList < 2 ^ 32) :
    SameTokens source (respaced source) ↔ ¬HoldsSplitCodePoint (lexemesOf source) := by
  have areTokens : AreTokens (lexemesOf source) := (scans_tokenize short).areTokens
  have scansRespaced : Scans 0 (respaced source).toList (lexemesOf (respaced source)) :=
    scans_tokenize shortRespaced
  rw [respaced_toList] at scansRespaced
  constructor
  · rintro same ⟨letter, sign, digits, ⟨before, rest, all⟩, split⟩
    have all : lexemesOf source = before ++ letter :: sign :: digits :: rest := by
      rw [← all, List.append_assoc]
      rfl
    rw [SameTokens, all] at same
    rw [all] at areTokens scansRespaced
    obtain ⟨position, others, scans, sameRest⟩ :=
      scansRespaced.of_spaced areTokens (List.cons_ne_nil _ _) same.symm
    exact not_scans_of_isSplitCodePoint split areTokens.of_append sameRest scans
  · intro unsplit
    obtain ⟨others, scans, same⟩ := areTokens.exists_scans unsplit 0
    rw [SameTokens, scansRespaced.unique scans, same]

set_option maxRecDepth 4000 in
/-- Without the comment after its letter a code point is one token. -/
theorem not_sameTokens_of_comment : ¬SameTokens "U#\n+ 1F." (respaced "U#\n+ 1F.") := by
  have lexemes_eq : lexemesOf "U#\n+ 1F." = [⟨.reservedName, "U", ⟨0, 1⟩⟩, ⟨.plus, "+", ⟨3, 4⟩⟩,
      ⟨.number, "1", ⟨5, 6⟩⟩, ⟨.identifier, "F", ⟨6, 7⟩⟩, ⟨.dot, ".", ⟨7, 8⟩⟩] := by cbv
  have shortRespaced : utf8Size (respaced "U#\n+ 1F.").toList < 2 ^ 32 := by
    rw [respaced, lexemes_eq]
    decide
  rw [sameTokens_respaced_iff (by decide) shortRespaced, lexemes_eq, not_not]
  exact ⟨_, _, _, ⟨[], _, rfl⟩, rfl, rfl, rfl, '1', rfl, rfl⟩

end PatternSyntax
