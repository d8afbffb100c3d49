import Mathlib.Algebra.Group.Nat.Defs
import PatternSyntax.Proofs.Recognition
import PatternSyntax.Token.Stream

/-!
# Scanning

How a text falls into lexemes, as a relation. A token is cut out of the whole
source by its span, while the relation speaks only of what has not been read yet,
so that it can be followed from one token to the next. It holds of the tokens of
every source whose offsets fit into 32 bits.
-/

namespace PatternSyntax

open Recognition Text

mutual

theorem triviaLength_le : ∀ text, triviaLength text ≤ text.length
  | [] => Nat.le_refl 0
  | c :: rest => by
    have afterBlank := triviaLength_le rest
    have afterHash := commentLength_le rest
    rw [triviaLength, List.length_cons]
    repeat' split
    all_goals omega

theorem commentLength_le : ∀ text, commentLength text ≤ text.length
  | [] => Nat.le_refl 0
  | c :: rest => by
    have afterBreak := triviaLength_le rest
    have afterOther := commentLength_le rest
    rw [commentLength, List.length_cons]
    split
    all_goals omega

end

theorem triviaLength_cons_eq_zero_iff {c : Char} {rest : List Char} :
    triviaLength (c :: rest) = 0 ↔ isBlank c = false ∧ c ≠ '#' := by
  rw [triviaLength]
  cases blank : isBlank c with
  | true => simp
  | false => by_cases hash : c = '#' <;> simp [hash]

/-- How far blanks and comments reach is not changed by what follows the first
character after them. -/
theorem trivia_local {trivia rest other : List Char} {first : Char} :
    (triviaLength (trivia ++ first :: rest) = trivia.length →
      triviaLength (trivia ++ first :: other) = trivia.length ∧ triviaLength (first :: other) = 0) ∧
    (commentLength (trivia ++ first :: rest) = trivia.length →
      commentLength (trivia ++ first :: other) = trivia.length ∧
        triviaLength (first :: other) = 0) := by
  induction trivia with
  | nil =>
    constructor
    · intro skips
      have starts : triviaLength (first :: other) = 0 :=
        triviaLength_cons_eq_zero_iff.mpr (triviaLength_cons_eq_zero_iff.mp skips)
      exact ⟨starts, starts⟩
    · intro skips
      rw [List.nil_append, commentLength] at skips
      split at skips <;> cases skips
  | cons c trivia inductionHypothesis =>
    obtain ⟨outside, inside⟩ := inductionHypothesis
    simp only [List.cons_append, List.length_cons]
    rw [triviaLength, commentLength, triviaLength, commentLength]
    constructor
    · intro skips
      cases blank : isBlank c with
      | true => simpa [blank] using outside (by simpa [blank] using skips)
      | false =>
        by_cases hash : c = '#'
        · subst hash
          simpa [blank] using inside (by simpa [blank] using skips)
        · simp [blank, hash] at skips
    · intro skips
      by_cases lineBreak : c = '\n'
      · simpa [lineBreak] using outside (by simpa [lineBreak] using skips)
      · simpa [lineBreak] using inside (by simpa [lineBreak] using skips)

/-- A token of the given kind, with its text, from the given offset on. -/
def Lexeme.at (position : Nat) (kind : TokenKind) (text : List Char) : Lexeme :=
  ⟨kind, String.ofList text, .ofOffsets position (position + utf8Size text)⟩

/-- The text that begins at the offset falls into the lexemes. -/
inductive Scans : Nat → List Char → List Lexeme → Prop
  | done {position : Nat} {text : List Char} (skips : triviaLength text = text.length) :
      Scans position text []
  | lexeme {position : Nat} {trivia tail rest : List Char} {first : Char} {kind : TokenKind}
      {lexemes : List Lexeme}
      (skips : triviaLength (trivia ++ first :: (tail ++ rest)) = trivia.length)
      (recognized : recognize first (tail ++ rest) = (kind, tail.length))
      (scans : Scans (position + utf8Size trivia + utf8Size (first :: tail)) rest lexemes) :
      Scans position (trivia ++ first :: (tail ++ rest))
        (.at (position + utf8Size trivia) kind (first :: tail) :: lexemes)

/-- A text falls into lexemes in one way only. -/
theorem Scans.unique {position : Nat} {text : List Char} {first second : List Lexeme}
    (scansFirst : Scans position text first)
    (scansSecond : Scans position text second) : first = second := by
  induction scansFirst generalizing second with
  | done skips =>
    cases scansSecond with
    | done => rfl
    | lexeme otherSkips recognized scans => simp [otherSkips] at skips
  | @lexeme position trivia tail rest c kind lexemes skips recognized _ inductionHypothesis =>
    generalize whole : trivia ++ c :: (tail ++ rest) = text at scansSecond
    cases scansSecond with
    | done otherSkips =>
      rw [← whole, skips] at otherSkips
      simp at otherSkips
    | @lexeme _ otherTrivia otherTail otherRest d otherKind others otherSkips otherRecognized scans =>
      have sameLength : trivia.length = otherTrivia.length := by rw [← skips, ← otherSkips, whole]
      obtain ⟨rfl, sameToken⟩ := List.append_inj whole sameLength
      obtain ⟨rfl, sameTail⟩ := List.cons_eq_cons.mp sameToken
      rw [sameTail, otherRecognized, Prod.mk.injEq] at recognized
      obtain ⟨rfl, tailLength⟩ := recognized
      obtain ⟨rfl, rfl⟩ := List.append_inj sameTail tailLength.symm
      rw [inductionHypothesis scans]

/-- Every lexeme of a text was recognized where it stands. -/
theorem Scans.recognized {position : Nat} {text : List Char} {lexemes : List Lexeme}
    (scans : Scans position text lexemes) : ∀ lexeme ∈ lexemes, ∃ first tail rest,
      lexeme.text = String.ofList (first :: tail) ∧
        recognize first (tail ++ rest) = (lexeme.kind, tail.length) := by
  induction scans with
  | done => exact List.forall_mem_nil _
  | @lexeme _ _ tail rest first kind _ _ recognized _ inductionHypothesis =>
    exact List.forall_mem_cons.mpr ⟨⟨first, tail, rest, rfl, recognized⟩, inductionHypothesis⟩

theorem toNat_ofNat_of_lt {value : Nat} (short : value < 2 ^ 32) :
    (UInt32.ofNat value).toNat = value :=
  UInt32.toNat_ofNat_of_lt' short

/-- A token whose span fits the source has the text between its offsets. -/
theorem Token.lexeme_eq {source : String} {before text after : List Char} (kind : TokenKind)
    (split : source.toList = before ++ text ++ after) (short : utf8Size source.toList < 2 ^ 32) :
    Token.lexeme ⟨kind, .ofOffsets (utf8Size before) (utf8Size before + utf8Size text)⟩ source =
      .at (utf8Size before) kind text := by
  rw [split, utf8Size_append, utf8Size_append] at short
  have sliced : slice? source.toList (UInt32.ofNat (utf8Size before)).toNat
      (UInt32.ofNat (utf8Size before + utf8Size text)).toNat = some text := by
    rw [toNat_ofNat_of_lt (by omega), toNat_ofNat_of_lt (by omega)]
    exact slice?_eq_some_iff.mpr ⟨before, after, split, rfl, rfl⟩
  simp only [Token.lexeme, Token.text, Span.ofOffsets, sliced]
  rfl

namespace TokenStream

variable (position : Nat)

theorem next_eq_none {text : List Char} (skips : triviaLength text = text.length) :
    ∃ after, next ⟨position, text⟩ = (none, after) := by
  refine ⟨skipTrivia ⟨position, text⟩, ?_⟩
  have rest_eq : (skipTrivia ⟨position, text⟩).rest = [] := by
    simp [skipTrivia, skips]
  simp only [next, rest_eq]

theorem next_eq_some {trivia tail rest : List Char} {first : Char} {kind : TokenKind}
    (skips : triviaLength (trivia ++ first :: (tail ++ rest)) = trivia.length)
    (recognized : recognize first (tail ++ rest) = (kind, tail.length)) :
    next ⟨position, trivia ++ first :: (tail ++ rest)⟩ =
      (some ⟨kind, .ofOffsets (position + utf8Size trivia)
        (position + utf8Size trivia + utf8Size (first :: tail))⟩,
      ⟨position + utf8Size trivia + utf8Size (first :: tail), rest⟩) := by
  have start_eq : skipTrivia ⟨position, trivia ++ first :: (tail ++ rest)⟩ =
      ⟨position + utf8Size trivia, first :: (tail ++ rest)⟩ := by
    simp [skipTrivia, advance, skips]
  simp only [next, start_eq, recognized]
  simp [advance]

end TokenStream

/-- The tokens of what is left of a source are what it falls into. -/
theorem scans_tokens {source : String} (short : utf8Size source.toList < 2 ^ 32)
    {before text : List Char} (split : source.toList = before ++ text) :
    Scans (utf8Size before) text
      ((TokenStream.tokens ⟨utf8Size before, text⟩).map fun token => token.lexeme source) := by
  induction size : text.length using Nat.strongRecOn generalizing before text with
  | ind size inductionHypothesis =>
    obtain ⟨trivia, more, rfl, skips⟩ : ∃ trivia more, text = trivia ++ more ∧
        triviaLength text = trivia.length :=
      ⟨text.take (triviaLength text), text.drop (triviaLength text),
        (List.take_append_drop _ _).symm, (List.length_take_of_le (triviaLength_le text)).symm⟩
    cases more with
    | nil =>
      rw [List.append_nil] at skips ⊢
      obtain ⟨after, drawn⟩ := TokenStream.next_eq_none (utf8Size before) skips
      rw [TokenStream.tokens_of_next_eq_none drawn]
      exact .done skips
    | cons first rest =>
      obtain ⟨kind, tail, more, rfl, recognized⟩ : ∃ kind tail more, rest = tail ++ more ∧
          recognize first rest = (kind, tail.length) := by
        refine ⟨(recognize first rest).1, rest.take (recognize first rest).2,
          rest.drop (recognize first rest).2, (List.take_append_drop _ _).symm, ?_⟩
        rw [List.length_take_of_le (recognize_le first rest)]
      have split_at : source.toList = (before ++ trivia) ++ first :: tail ++ more := by
        rw [split, List.append_assoc, List.append_assoc, List.cons_append]
      have split_after : source.toList = (before ++ trivia ++ first :: tail) ++ more := split_at
      have lexeme_eq := Token.lexeme_eq kind split_at short
      have shorter : more.length < (trivia ++ first :: (tail ++ more)).length := by
        simp only [List.length_append, List.length_cons]
        omega
      have scansRest := inductionHypothesis more.length (size ▸ shorter) split_after rfl
      rw [TokenStream.tokens_of_next_eq_some (TokenStream.next_eq_some _ skips recognized),
        List.map_cons]
      simp only [utf8Size_append] at lexeme_eq scansRest
      rw [lexeme_eq]
      exact .lexeme skips recognized scansRest

/-- The tokens of a source are what it falls into. -/
theorem scans_tokenize {source : String} (short : utf8Size source.toList < 2 ^ 32) :
    Scans 0 source.toList ((tokenize source).map fun token => token.lexeme source) :=
  @scans_tokens _ short [] _ rfl

end PatternSyntax
