import PatternSyntax.Proofs.Printing.Values
import PatternSyntax.Proofs.Segmentation.Lexemes
import PatternSyntax.Proofs.Sources

/-!
# Quoted texts

A text between double quotes is taken apart twice, and not in the same way. Whoever looks
for its end steps over any character after a backslash; whoever resolves its escapes steps
over a quote or a backslash alone. Both stay in step on units, which are a backslash with
the character after it, or another character by itself.

Every text can be put between quotes in such a way that it is read again, whatever follows.
-/

namespace PatternSyntax

open Grammar Recognition Text Piece

/-! ## Units -/

/-- What belongs together between double quotes: a backslash and the character after it, or
one character that is neither a quote nor a backslash. -/
inductive QuotedUnit where
  | escaped (c : Char)
  | plain (c : Char) (notQuote : c ≠ '"') (notEscape : c ≠ '\\')

namespace QuotedUnit

def chars : QuotedUnit → List Char
  | escaped c => ['\\', c]
  | plain c _ _ => [c]

/-- What the unit stands for. -/
def meaning : QuotedUnit → List Char
  | escaped c => if c = '"' ∨ c = '\\' then [c] else ['\\', c]
  | plain c _ _ => [c]

theorem isQuotable_flatMap_chars (units : List QuotedUnit) : IsQuotable (units.flatMap chars) := by
  induction units with
  | nil => exact .nil
  | cons unit units inductionHypothesis =>
    cases unit with
    | escaped c => exact .escape inductionHypothesis
    | plain c notQuote notEscape => exact .plain notQuote notEscape inductionHypothesis

theorem exists_units {text : List Char} (quotable : IsQuotable text) :
    ∃ units, text = List.flatMap chars units := by
  induction quotable with
  | nil => exact ⟨[], rfl⟩
  | @plain c _ notQuote notEscape _ inductionHypothesis =>
    obtain ⟨units, rfl⟩ := inductionHypothesis
    exact ⟨plain c notQuote notEscape :: units, rfl⟩
  | @escape c _ _ inductionHypothesis =>
    obtain ⟨units, rfl⟩ := inductionHypothesis
    exact ⟨escaped c :: units, rfl⟩

/-- A text falls into units in one way only. -/
theorem flatMap_chars_injective : Function.Injective (List.flatMap chars) := by
  intro units
  induction units with
  | nil =>
    rintro (_ | ⟨_ | _, _⟩) same
    · rfl
    · cases same
    · cases same
  | cons unit units inductionHypothesis =>
    rintro (_ | ⟨other, others⟩) same
    · cases unit <;> cases same
    · cases unit with
      | escaped c =>
        cases other with
        | escaped d =>
          obtain ⟨rfl, tails⟩ := List.cons_eq_cons.mp (List.cons_eq_cons.mp same).2
          have more : units.flatMap chars = others.flatMap chars := tails
          rw [inductionHypothesis more]
        | plain d _ notEscape =>
          exact absurd (List.cons_eq_cons.mp same).1.symm notEscape
      | plain c _ notEscape =>
        cases other with
        | escaped d => exact absurd (List.cons_eq_cons.mp same).1 notEscape
        | plain d =>
          obtain ⟨rfl, tails⟩ := List.cons_eq_cons.mp same
          have more : units.flatMap chars = others.flatMap chars := tails
          rw [inductionHypothesis more]

/-- Whoever looks for the closing quote steps over one unit after the other. -/
theorem doubleQuotedTail?_flatMap_chars (units : List QuotedUnit) (rest : List Char) :
    doubleQuotedTail? (units.flatMap chars ++ rest) =
      (doubleQuotedTail? rest).map (· + (units.flatMap chars).length) := by
  induction units with
  | nil => simp
  | cons unit units inductionHypothesis =>
    have stepped : doubleQuotedTail? (unit.chars ++ (units.flatMap chars ++ rest)) =
        (doubleQuotedTail? (units.flatMap chars ++ rest)).map (· + unit.chars.length) := by
      cases unit with
      | escaped c => rfl
      | plain c notQuote notEscape =>
        rw [chars, List.singleton_append, doubleQuotedTail?]
        · rfl
        · exact fun same => notQuote same
        · exact fun _ _ same => absurd same notEscape
    rw [List.flatMap_cons, List.append_assoc, stepped, inductionHypothesis, Option.map_map]
    refine congrArg (Option.map · _) (funext fun count => ?_)
    rw [Function.comp, List.length_append]
    omega

end QuotedUnit

/-! ## Resolving escapes -/

namespace Text.Quoted

/-- One step of resolving escapes: the character that is put out, and what is left. -/
def step? : List Char → Option (Char × List Char)
  | '\\' :: '"' :: rest => some ('"', rest)
  | '\\' :: '\\' :: rest => some ('\\', rest)
  | c :: rest => some (c, rest)
  | [] => none

/-- Steps from the first text to the last one, which put out the text between them. -/
inductive Steps : List Char → List Char → List Char → Prop where
  | start {text : List Char} : Steps text [] text
  | step {text put rest after : List Char} {c : Char} (steps : Steps text put rest)
      (next : step? rest = some (c, after)) : Steps text (put ++ [c]) after

theorem unescape_of_step? {text after : List Char} {c : Char} (next : step? text = some (c, after)) :
    unescape text = c :: unescape after := by
  unfold step? at next
  split at next
  · cases next
    rw [unescape]
  · cases next
    rw [unescape]
  · rename_i notQuote notBackslash
    cases next
    rw [unescape]
    · exact notQuote
    · exact notBackslash
  · cases next

/-- What is put out comes first in the resolved text. -/
theorem Steps.unescape_eq {text put rest : List Char} (steps : Steps text put rest) :
    unescape text = put ++ unescape rest := by
  induction steps with
  | start => rfl
  | step _ next inductionHypothesis =>
    rw [inductionHypothesis, unescape_of_step? next, List.append_assoc, List.singleton_append]

/-- A backslash that is left in place is followed by a unit of one character. -/
theorem isQuotable_of_step? {text after : List Char} {c : Char} (quotable : IsQuotable text)
    (next : step? text = some (c, after)) : IsQuotable after := by
  cases quotable with
  | nil => cases next
  | plain notQuote notEscape quotable =>
    unfold step? at next
    split at next
    · exact absurd (List.cons_eq_cons.mp ‹_ = _›).1 notEscape
    · exact absurd (List.cons_eq_cons.mp ‹_ = _›).1 notEscape
    · rename_i same
      cases next
      obtain ⟨rfl, rfl⟩ := List.cons_eq_cons.mp same
      exact quotable
    · cases next
  | @escape c rest quotable =>
    by_cases isQuote : c = '"'
    · subst isQuote
      cases next
      exact quotable
    by_cases isBackslash : c = '\\'
    · subst isBackslash
      cases next
      exact quotable
    unfold step? at next
    split at next
    · rename_i same
      exact absurd (List.cons_eq_cons.mp (List.cons_eq_cons.mp same).2).1 isQuote
    · rename_i same
      exact absurd (List.cons_eq_cons.mp (List.cons_eq_cons.mp same).2).1 isBackslash
    · rename_i same
      cases next
      obtain ⟨rfl, rfl⟩ := List.cons_eq_cons.mp same
      exact .plain isQuote isBackslash quotable
    · cases next

theorem Steps.isQuotable {text put rest : List Char} (steps : Steps text put rest)
    (quotable : IsQuotable text) : IsQuotable rest := by
  induction steps with
  | start => exact quotable
  | step _ next inductionHypothesis => exact isQuotable_of_step? inductionHypothesis next

theorem unescape_flatMap_chars (units : List QuotedUnit) :
    unescape (units.flatMap QuotedUnit.chars) = units.flatMap QuotedUnit.meaning := by
  induction units with
  | nil => rfl
  | cons unit units inductionHypothesis =>
    rw [List.flatMap_cons, List.flatMap_cons, ← inductionHypothesis]
    cases unit with
    | plain c notQuote notEscape =>
      rw [QuotedUnit.chars, QuotedUnit.meaning, List.singleton_append, List.singleton_append, unescape]
      · exact fun _ same => absurd same notEscape
      · exact fun _ same => absurd same notEscape
    | escaped c =>
      rw [QuotedUnit.chars, QuotedUnit.meaning]
      by_cases isQuote : c = '"'
      · subst isQuote
        rfl
      by_cases isBackslash : c = '\\'
      · subst isBackslash
        rfl
      rw [if_neg (not_or.mpr ⟨isQuote, isBackslash⟩)]
      simp only [List.cons_append, List.nil_append]
      rw [unescape, unescape]
      · exact fun _ same => absurd same isBackslash
      · exact fun _ same => absurd same isBackslash
      · exact fun _ _ same => isQuote (List.cons_eq_cons.mp same).1
      · exact fun _ _ same => isBackslash (List.cons_eq_cons.mp same).1

end Text.Quoted

/-! ## Strings of a source -/

/-- Whoever looks for the end of the text and whoever resolves its escapes see the same units
between its quotes. The latter never stands before a quote without a backslash, nor before a
backslash with nothing after it. -/
structure FallsInto (text : List Char) (units : List QuotedUnit) : Prop where
  text_eq : text = '"' :: (units.flatMap QuotedUnit.chars ++ ['"'])
  only : ∀ others : List QuotedUnit,
    text = '"' :: (others.flatMap QuotedUnit.chars ++ ['"']) → others = units
  stepsOver : ∀ front back more, units = front ++ back →
    doubleQuotedTail? (units.flatMap QuotedUnit.chars ++ more) =
      (doubleQuotedTail? (back.flatMap QuotedUnit.chars ++ more)).map
        (· + (front.flatMap QuotedUnit.chars).length)
  decode_eq : Quoted.decode text = units.flatMap QuotedUnit.meaning
  inStep : ∀ put rest, Quoted.Steps (Quoted.inner text) put rest →
    Quoted.decode text = put ++ Quoted.unescape rest ∧ rest.head? ≠ some '"' ∧ rest ≠ ['\\']

theorem fallsInto_quoted (units : List QuotedUnit) :
    FallsInto ('"' :: (units.flatMap QuotedUnit.chars ++ ['"'])) units := by
  refine ⟨rfl, fun others same => ?_, ?_, ?_, fun put rest steps => ⟨?_, ?_⟩⟩
  · have inner_eq := List.append_cancel_right (List.cons_eq_cons.mp same).2
    exact (QuotedUnit.flatMap_chars_injective inner_eq).symm
  · rintro front back more rfl
    rw [List.flatMap_append, List.append_assoc, QuotedUnit.doubleQuotedTail?_flatMap_chars]
  · rw [Quoted.decode_double_quoted, Quoted.unescape_flatMap_chars]
  · rw [Quoted.inner_quoted] at steps
    rw [Quoted.decode_double_quoted, steps.unescape_eq]
  · rw [Quoted.inner_quoted] at steps
    cases steps.isQuotable (QuotedUnit.isQuotable_flatMap_chars units) with
    | nil => exact ⟨nofun, nofun⟩
    | plain notQuote notEscape _ => exact ⟨by simpa using notQuote, by simp [notEscape]⟩
    | escape _ => exact ⟨by simp, by simp⟩

/-- Strings are decoded as they are recognized. Between double quotes a string stands for
what its units stand for one after the other; between single quotes it stands for itself and
holds no single quote. -/
theorem decode_of_mem_lexemesOf {source : String} (short : utf8Size source.toList < 2 ^ 32)
    {lexeme : Lexeme} (member : lexeme ∈ lexemesOf source) (isString : lexeme.kind = .string) :
    (∃ units, FallsInto lexeme.text.toList units) ∨
      ∃ inner, lexeme.text.toList = '\'' :: (inner ++ ['\'']) ∧ '\'' ∉ inner ∧
        Quoted.decode lexeme.text.toList = inner := by
  obtain ⟨first, tail, rest, text_eq, recognized⟩ := (scans_tokenize short).recognized lexeme member
  rw [isString] at recognized
  rw [text_eq, String.toList_ofList]
  rcases (recognizes_of_recognize rfl recognized).of_string with
    ⟨rfl, inner, rfl, free⟩ | ⟨rfl, inner, rfl, escaped⟩
  · exact .inr ⟨inner, rfl, free, Quoted.decode_single_quoted inner⟩
  · obtain ⟨units, rfl⟩ := QuotedUnit.exists_units (isQuotable_iff.mpr escaped)
    exact .inl ⟨units, fallsInto_quoted units⟩

set_option maxRecDepth 4000 in
/-- A quote and a backslash after a backslash, and a backslash that is left in place. -/
theorem decode_of_three_escapes :
    ⟨.string, "\"\\\"\\\\\\n\"", ⟨0, 8⟩⟩ ∈ lexemesOf "\"\\\"\\\\\\n\"." ∧
      ((∃ units, FallsInto "\"\\\"\\\\\\n\"".toList units) ∨
        ∃ inner, "\"\\\"\\\\\\n\"".toList = '\'' :: (inner ++ ['\'']) ∧ '\'' ∉ inner ∧
          Quoted.decode "\"\\\"\\\\\\n\"".toList = inner) := by
  have lexemes_eq : lexemesOf "\"\\\"\\\\\\n\"." =
      [⟨.string, "\"\\\"\\\\\\n\"", ⟨0, 8⟩⟩, ⟨.dot, ".", ⟨8, 9⟩⟩] := by cbv
  have member : ⟨.string, "\"\\\"\\\\\\n\"", ⟨0, 8⟩⟩ ∈ lexemesOf "\"\\\"\\\\\\n\"." := by
    rw [lexemes_eq]
    exact List.mem_cons_self
  exact ⟨member, decode_of_mem_lexemesOf (by decide) member rfl⟩

/-! ## Writing texts -/

/-- A text between double quotes, with a backslash before each quote and each backslash. -/
def doubleQuoted (content : List Char) : List Char :=
  '"' :: (content.flatMap escape ++ ['"'])

/-- A text between single quotes, as it stands. -/
def singleQuoted (content : List Char) : List Char :=
  '\'' :: (content ++ ['\''])

/-- The second text is a string whatever follows it. It stands for the first text, and by
itself it is read as a literal with that content. -/
structure Writes (content written : List Char) : Prop where
  token : ∀ rest, (tokenize (String.ofList (written ++ rest))).head? =
    some ⟨.string, .ofOffsets 0 (utf8Size written)⟩
  decode_eq : Quoted.decode written = content
  parse_eq : ∀ options : Options, 0 < options.maxDepth → parse (String.ofList written) options =
    .ok (.literal ⟨String.ofList content, .ofOffsets 0 (utf8Size written)⟩)

/-- What is recognized at the beginning of a source is its first token, however long the
source is. -/
theorem head?_tokenize {first : Char} {tail rest : List Char} {kind : TokenKind}
    (recognizes : Recognizes first tail rest kind) :
    (tokenize (String.ofList (first :: tail ++ rest))).head? =
      some ⟨kind, .ofOffsets 0 (utf8Size (first :: tail))⟩ := by
  have skips : triviaLength ([] ++ first :: (tail ++ rest)) = ([] : List Char).length :=
    recognizes.triviaLength_eq_zero _
  have drawn := TokenStream.next_eq_some 0 skips recognizes.recognize_eq
  rw [tokenize, TokenStream.ofSource, String.toList_ofList]
  simp only [utf8Size_nil, Nat.zero_add, List.nil_append] at drawn
  rw [List.cons_append, TokenStream.tokens_of_next_eq_some drawn, List.head?_cons]

/-- A token that is the whole source is its only lexeme. -/
theorem lexemesOf_ofList {first : Char} {tail : List Char} {kind : TokenKind}
    (recognizes : Recognizes first tail [] kind) (short : utf8Size (first :: tail) < 2 ^ 32) :
    lexemesOf (String.ofList (first :: tail)) = [.at 0 kind (first :: tail)] := by
  have scans : Scans 0 ([] ++ first :: (tail ++ [])) [.at 0 kind (first :: tail)] :=
    .lexeme (recognizes.triviaLength_eq_zero _) recognizes.recognize_eq (.done rfl)
  rw [List.append_nil, List.nil_append] at scans
  refine (scans_tokenize (by rwa [String.toList_ofList])).unique ?_
  rwa [String.toList_ofList]

theorem writes_of_isToken {content written : List Char} (isToken : IsToken .string written)
    (decoded : Quoted.decode written = content) (short : utf8Size written < 2 ^ 32) :
    Writes content written := by
  obtain ⟨first, tail, rfl, recognizes⟩ := isToken.2
  refine ⟨fun rest => ?_, decoded, fun options enough => ?_⟩
  · exact head?_tokenize (isToken.recognizes fun _ _ => rfl)
  · have sourceShort : utf8Size (String.ofList (first :: tail)).toList < 2 ^ 32 := by
      rwa [String.toList_ofList]
    have lexemes_eq := lexemesOf_ofList recognizes short
    refine (parse_eq_ok_iff sourceShort).mpr ⟨?_, ?_, rfl, enough⟩
    · rw [isClean_iff, lexemes_eq]
      exact List.forall_mem_singleton.mpr rfl
    · have literal_eq : Lexeme.literal (.at 0 .string (first :: tail)) =
          ⟨String.ofList content, .ofOffsets 0 (utf8Size (first :: tail))⟩ := by
        rw [Lexeme.literal, Lexeme.at, String.toList_ofList, decoded, Nat.zero_add]
      rw [lexemes_eq, ← literal_eq]
      exact .of_atom (.literal rfl)

/-- Every text can be written between double quotes, and between single quotes if it holds
none. -/
theorem writes_quoted (content : List Char) :
    (utf8Size (doubleQuoted content) < 2 ^ 32 → Writes content (doubleQuoted content)) ∧
      ('\'' ∉ content → utf8Size (singleQuoted content) < 2 ^ 32 →
        Writes content (singleQuoted content)) := by
  constructor
  · exact writes_of_isToken (isToken_quoted content) (decode_quoted content)
  · intro free
    exact writes_of_isToken ⟨nofun, '\'', _, rfl, .singleQuoted rfl free⟩
      (Quoted.decode_single_quoted content)

/-- A text of a quote, a line break, a comment sign and a backslash at the end. -/
theorem writes_quoted_of_backslash :
    Writes ['"', '\n', '#', '\\'] (doubleQuoted ['"', '\n', '#', '\\']) ∧
      Writes ['"', '\n', '#', '\\'] (singleQuoted ['"', '\n', '#', '\\']) :=
  ⟨(writes_quoted _).1 (by decide), (writes_quoted _).2 (by decide) (by decide)⟩

end PatternSyntax
