import PatternSyntax.Proofs.Printing.Tokens
import PatternSyntax.Proofs.Segmentation.Trivia

/-!
# What tokens are

The lexemes of a kind are given by their form, said of a text alone. A lexeme is a token
where it is as long as it can be, and a character is a token by itself where nothing else
can begin. That is what is recognized.
-/

namespace PatternSyntax

open Recognition

/-- What may stand between double quotes: a backslash stands before any character, and
other characters are neither a quote nor a backslash. -/
inductive IsQuotable : List Char → Prop
  | nil : IsQuotable []
  | plain {c : Char} {rest : List Char} (notQuote : c ≠ '"') (notEscape : c ≠ '\\')
      (quotable : IsQuotable rest) : IsQuotable (c :: rest)
  | escape {c : Char} {rest : List Char} (quotable : IsQuotable rest) :
      IsQuotable ('\\' :: c :: rest)

/-- The text has the form of a token of the kind. The last text is what follows it, which
matters for a quoted text that is not closed: it runs to the end of the source. -/
inductive IsLexeme : TokenKind → List Char → List Char → Prop
  | operator {kind : TokenKind} {spelling : String} {more : List Char}
      (spells : kind.spelling? = some spelling) : IsLexeme kind spelling.toList more
  | singleQuoted {inner more : List Char} (free : '\'' ∉ inner) :
      IsLexeme .string ('\'' :: (inner ++ ['\''])) more
  | doubleQuoted {inner more : List Char} (quotable : IsQuotable inner) :
      IsLexeme .string ('"' :: (inner ++ ['"'])) more
  | codePoint {before after digits more : List Char} (beforeBlank : ∀ c ∈ before, isBlank c)
      (afterBlank : ∀ c ∈ after, isBlank c) (nonempty : digits ≠ [])
      (areDigits : ∀ c ∈ digits, c.isHexDigit) :
      IsLexeme .codePoint ('U' :: (before ++ '+' :: (after ++ digits))) more
  | number {first : Char} {tail more : List Char} (isDigit : first.isDigit)
      (areDigits : ∀ c ∈ tail, (c.isDigit || c == '_')) : IsLexeme .number (first :: tail) more
  | identifier {first : Char} {tail more : List Char} (isStart : isWordStart first)
      (areWordChars : ∀ c ∈ tail, isWordChar c)
      (ordinary : isReserved (String.ofList (first :: tail)) = false) :
      IsLexeme .identifier (first :: tail) more
  | reservedName {first : Char} {tail more : List Char} (isStart : isWordStart first)
      (areWordChars : ∀ c ∈ tail, isWordChar c)
      (reserved : isReserved (String.ofList (first :: tail))) :
      IsLexeme .reservedName (first :: tail) more
  | unclosedSingle {body : List Char} (free : '\'' ∉ body) :
      IsLexeme .unclosedString ('\'' :: body) []
  | unclosedDouble {body : List Char}
      (endless : ∀ inner rest, body = inner ++ '"' :: rest → ¬IsQuotable inner) :
      IsLexeme .unclosedString ('"' :: body) []

/-- The character would make a lexeme of the kind longer, or an operator another one. -/
def TokenKind.goesOnWith (c : Char) : TokenKind → Bool
  | .number => c.isDigit || c == '_'
  | .identifier | .reservedName => isWordChar c
  | .codePoint => c.isHexDigit
  | .angleLeft => c == '<'
  | .angleRight => c == '>'
  | .colon => c == ':'
  | _ => false

/-- The text is a token where the other text follows it: a lexeme that is as long as it can
be, and no letter of a code point, or a character with which nothing begins. -/
inductive StandsAsToken : TokenKind → List Char → List Char → Prop
  | lexeme {kind : TokenKind} {text more : List Char} (isLexeme : IsLexeme kind text more)
      (ends : ∀ c ∈ more.head?, kind.goesOnWith c = false)
      (noCodePoint : kind = .reservedName → text = ['U'] → ∀ piece rest,
        'U' :: more = piece ++ rest → ¬IsLexeme .codePoint piece rest) :
      StandsAsToken kind text more
  | unknown {c : Char} {more : List Char} (noTrivia : BeginsNoTrivia c)
      (noLexeme : ∀ kind piece rest, c :: more = piece ++ rest → ¬IsLexeme kind piece rest) :
      StandsAsToken .unknownChar [c] more

/-! ## Operators -/

/-- An operator is spelled by one character or by two. -/
theorem TokenKind.ofSpelling? {kind : TokenKind} {spelling : String}
    (spells : kind.spelling? = some spelling) :
    (∃ c, spelling.toList = [c] ∧ TokenKind.ofChar? c = some kind) ∨
      ∃ first second, spelling.toList = [first, second] ∧
        TokenKind.ofPair? first second = some kind := by
  cases kind
  all_goals cases spells
  case lookAhead | lookBehind | doubleColon => exact .inr ⟨_, _, rfl, rfl⟩
  all_goals exact .inl ⟨_, rfl, rfl⟩

theorem TokenKind.ofPair?_eq_none_iff {first second : Char} :
    TokenKind.ofPair? first second = none ↔
      ¬(first = '<' ∧ second = '<') ∧ ¬(first = '>' ∧ second = '>') ∧
        ¬(first = ':' ∧ second = ':') := by
  constructor
  · intro noPair
    refine ⟨?_, ?_, ?_⟩
    all_goals
      rintro ⟨rfl, rfl⟩
      cases noPair
  · rintro ⟨notLess, notGreater, notColon⟩
    unfold TokenKind.ofPair?
    split
    · exact absurd ⟨rfl, rfl⟩ notGreater
    · exact absurd ⟨rfl, rfl⟩ notLess
    · exact absurd ⟨rfl, rfl⟩ notColon
    · rfl

/-- An operator of one character is lengthened by what makes a pair with it. -/
theorem goesOnWith_eq_false_iff {first c : Char} {kind : TokenKind}
    (spells : TokenKind.ofChar? first = some kind) :
    kind.goesOnWith c = false ↔ TokenKind.ofPair? first c = none := by
  rw [TokenKind.ofPair?_eq_none_iff]
  unfold TokenKind.ofChar? at spells
  split at spells
  all_goals cases spells
  all_goals simp [TokenKind.goesOnWith]

theorem goesOnWith_of_ofPair? {first second : Char} {kind : TokenKind}
    (spells : TokenKind.ofPair? first second = some kind) (c : Char) :
    kind.goesOnWith c = false := by
  unfold TokenKind.ofPair? at spells
  split at spells
  all_goals cases spells
  all_goals rfl

/-- A blank ends every token. -/
theorem goesOnWith_of_isBlank {c : Char} (blank : isBlank c) (kind : TokenKind) :
    kind.goesOnWith c = false := by
  have notWord := isWordChar_of_isBlank blank
  have apart {other : Char} (notBlank : isBlank other = false) : (c == other) = false := by
    apply beq_eq_false_iff_ne.mpr
    rintro rfl
    rw [blank] at notBlank
    cases notBlank
  cases kind with
  | number => exact isDigit_or_underscore_eq_false notWord
  | codePoint => exact isHexDigit_eq_false notWord
  | identifier | reservedName => exact notWord
  | angleLeft | angleRight | colon => exact apart (isBlank_of_ascii (by decide))
  | _ => rfl

theorem pairOperator?_eq_none_iff {first : Char} {kind : TokenKind}
    (spells : TokenKind.ofChar? first = some kind) (more : List Char) :
    pairOperator? first more = none ↔ ∀ c ∈ more.head?, kind.goesOnWith c = false := by
  cases more with
  | nil => simp [pairOperator?]
  | cons c more =>
    rw [pairOperator?, ← goesOnWith_eq_false_iff spells]
    simp

theorem IsLexeme.ofChar? {first : Char} {kind : TokenKind} (more : List Char)
    (spells : TokenKind.ofChar? first = some kind) : IsLexeme kind [first] more := by
  have isLexeme := @IsLexeme.operator kind _ more (TokenKind.spelling?_of_ofChar? spells)
  rwa [String.toList_singleton] at isLexeme

theorem IsLexeme.ofPair? {first second : Char} {kind : TokenKind} (more : List Char)
    (spells : TokenKind.ofPair? first second = some kind) :
    IsLexeme kind [first, second] more := by
  have isLexeme := @IsLexeme.operator kind _ more (TokenKind.spelling?_of_ofPair? spells)
  rwa [String.toList_ofList] at isLexeme

/-! ## Quoted texts and code points -/

theorem isQuotable_iff {text : List Char} : IsQuotable text ↔ isEscaped text := by
  constructor
  · intro quotable
    induction quotable with
    | nil => rfl
    | plain notQuote notEscape _ inductionHypothesis =>
      rwa [isEscaped_cons notQuote notEscape]
    | escape _ inductionHypothesis => exact inductionHypothesis
  · intro escaped
    induction text using isEscaped.induct with
    | case1 => exact .nil
    | case2 => cases escaped
    | case3 c text inductionHypothesis => exact .escape (inductionHypothesis escaped)
    | case4 => cases escaped
    | case5 c text notQuote notEscape notLast inductionHypothesis =>
      have notBackslash : c ≠ '\\' := by
        rintro rfl
        cases text with
        | nil => exact notLast rfl rfl
        | cons d text => exact notEscape _ _ rfl rfl
      rw [isEscaped_cons notQuote notBackslash] at escaped
      exact .plain notQuote notBackslash (inductionHypothesis escaped)

theorem singleQuotedTail?_eq_none_iff {rest : List Char} :
    singleQuotedTail? rest = none ↔ '\'' ∉ rest := by
  rw [Option.eq_none_iff_forall_ne_some]
  constructor
  · intro endless closes
    obtain ⟨inner, more, rfl, inQuotes, ends⟩ := exists_run (· != '\'') rest
    cases more with
    | nil =>
      rw [List.append_nil] at closes
      simpa using inQuotes '\'' closes
    | cons quote more =>
      obtain rfl : quote = '\'' := by simpa using ends quote rfl
      have free : '\'' ∉ inner := fun member => by simpa using inQuotes '\'' member
      exact endless _ (singleQuotedTail?_eq_some_iff.mpr ⟨inner, more, rfl, free, rfl⟩)
  · intro free count found
    obtain ⟨inner, more, rfl, -⟩ := singleQuotedTail?_eq_some_iff.mp found
    exact free (by simp)

theorem doubleQuotedTail?_eq_none_iff {rest : List Char} :
    doubleQuotedTail? rest = none ↔
      ∀ inner more, rest = inner ++ '"' :: more → ¬IsQuotable inner := by
  rw [Option.eq_none_iff_forall_ne_some]
  constructor
  · intro endless inner more split quotable
    exact endless _ (doubleQuotedTail?_eq_some_iff.mpr
      ⟨inner, more, split, isQuotable_iff.mp quotable, rfl⟩)
  · intro endless count found
    obtain ⟨inner, more, split, escaped, -⟩ := doubleQuotedTail?_eq_some_iff.mp found
    exact endless inner more split (isQuotable_iff.mpr escaped)

theorem codePoint?_eq_none_iff {more : List Char} :
    codePoint? 'U' more = none ↔
      ∀ piece rest, 'U' :: more = piece ++ rest → ¬IsLexeme .codePoint piece rest := by
  constructor
  · intro noCodePoint piece rest split isLexeme
    cases isLexeme with
    | operator spells => cases spells
    | @codePoint before after digits _ beforeBlank afterBlank nonempty areDigits =>
      obtain rfl := (List.cons_eq_cons.mp split).2
      have found : codePoint? 'U' (before ++ '+' :: (after ++ digits)) =
          some (before.length + 1 + after.length + digits.length) :=
        codePointTail?_eq_some_iff.mpr ⟨before, after, digits, [], by simp, beforeBlank, afterBlank,
          nonempty, areDigits, nofun, rfl⟩
      rw [codePoint?_append rest noCodePoint] at found
      cases found
  · intro noLexeme
    apply Option.eq_none_iff_forall_ne_some.mpr
    intro count found
    obtain ⟨before, after, digits, rest, rfl, beforeBlank, afterBlank, nonempty, areDigits, -, -⟩ :=
      codePointTail?_eq_some_iff.mp found
    exact noLexeme ('U' :: (before ++ '+' :: (after ++ digits))) rest (by simp)
      (.codePoint beforeBlank afterBlank nonempty areDigits)

/-- Only the single letter can begin a code point in place of a name. -/
theorem codePoint?_word {first : Char} {tail more : List Char}
    (areWordChars : ∀ c ∈ tail, isWordChar c)
    (single : first :: tail = ['U'] → codePoint? 'U' more = none) :
    codePoint? first (tail ++ more) = none := by
  cases tail with
  | cons c tail => exact codePoint?_eq_none (areWordChars c List.mem_cons_self) (tail ++ more)
  | nil =>
    by_cases isLetter : first = 'U'
    · subst isLetter
      exact single rfl
    · rw [codePoint?, if_neg isLetter]

/-! ## What is recognized -/

/-- What is recognized is a lexeme that goes as far as it can. -/
theorem Recognition.Recognizes.standsAsToken {first : Char} {tail more : List Char}
    {kind : TokenKind} (recognizes : Recognizes first tail more kind) :
    StandsAsToken kind (first :: tail) more := by
  cases recognizes with
  | pair spells =>
    refine .lexeme (.ofPair? more spells) (fun c _ => goesOnWith_of_ofPair? spells c) ?_
    intro _ single
    cases single
  | single alone spells =>
    refine .lexeme (.ofChar? more spells) ((pairOperator?_eq_none_iff spells more).mp alone) ?_
    rintro rfl
    cases TokenKind.spelling?_of_ofChar? spells
  | singleQuoted opens free =>
    subst opens
    exact .lexeme (.singleQuoted free) (fun _ _ => rfl) nofun
  | doubleQuoted opens escaped =>
    subst opens
    exact .lexeme (.doubleQuoted (isQuotable_iff.mpr escaped)) (fun _ _ => rfl) nofun
  | codePoint isLetter beforeBlank afterBlank nonempty areDigits ends =>
    subst isLetter
    exact .lexeme (.codePoint beforeBlank afterBlank nonempty areDigits) ends nofun
  | number isDigit areDigits ends => exact .lexeme (.number isDigit areDigits) ends nofun
  | word isStart noCodePoint areWordChars ends =>
    split
    · rename_i reserved
      refine .lexeme (.reservedName isStart areWordChars reserved) ends ?_
      intro _ single
      obtain ⟨rfl, rfl⟩ := List.cons_eq_cons.mp single
      exact codePoint?_eq_none_iff.mp noCodePoint
    · rename_i ordinary
      exact .lexeme (.identifier isStart areWordChars (Bool.eq_false_iff.mpr ordinary)) ends nofun

/-- A lexeme that goes as far as it can is recognized, if it is no stray text. -/
theorem IsLexeme.recognizes {kind : TokenKind} {text more : List Char}
    (isLexeme : IsLexeme kind text more) (noError : kind.isError = false)
    (ends : ∀ c ∈ more.head?, kind.goesOnWith c = false)
    (noCodePoint : kind = .reservedName → text = ['U'] → ∀ piece rest,
      'U' :: more = piece ++ rest → ¬IsLexeme .codePoint piece rest) :
    ∃ first tail, text = first :: tail ∧ Recognizes first tail more kind := by
  cases isLexeme with
  | operator spells =>
    obtain ⟨c, text_eq, spells⟩ | ⟨first, second, text_eq, spells⟩ := TokenKind.ofSpelling? spells
    · exact ⟨c, [], text_eq, .single ((pairOperator?_eq_none_iff spells more).mpr ends) spells⟩
    · exact ⟨first, [second], text_eq, .pair spells⟩
  | singleQuoted free => exact ⟨_, _, rfl, .singleQuoted rfl free⟩
  | doubleQuoted quotable => exact ⟨_, _, rfl, .doubleQuoted rfl (isQuotable_iff.mp quotable)⟩
  | codePoint beforeBlank afterBlank nonempty areDigits =>
    exact ⟨_, _, rfl, .codePoint rfl beforeBlank afterBlank nonempty areDigits ends⟩
  | number isDigit areDigits => exact ⟨_, _, rfl, .number isDigit areDigits ends⟩
  | @identifier first tail _ isStart areWordChars ordinary =>
    have noCodePoint : codePoint? first (tail ++ more) = none := by
      refine codePoint?_word areWordChars fun single => ?_
      rw [single] at ordinary
      exact absurd ordinary (by decide +kernel)
    have recognizes := Recognizes.word isStart noCodePoint areWordChars ends
    rw [if_neg (Bool.eq_false_iff.mp ordinary)] at recognizes
    exact ⟨first, tail, rfl, recognizes⟩
  | @reservedName first tail _ isStart areWordChars reserved =>
    have noCodePoint : codePoint? first (tail ++ more) = none :=
      codePoint?_word areWordChars fun single =>
        codePoint?_eq_none_iff.mpr (noCodePoint rfl single)
    have recognizes := Recognizes.word isStart noCodePoint areWordChars ends
    rw [if_pos reserved] at recognizes
    exact ⟨first, tail, rfl, recognizes⟩
  | unclosedSingle => cases noError
  | unclosedDouble => cases noError

/-- The character begins no lexeme. -/
def BeginsNoLexeme (c : Char) : Prop :=
  TokenKind.ofChar? c = none ∧ c ≠ '\'' ∧ c ≠ '"' ∧ c.isDigit = false ∧ isWordStart c = false

/-- Every lexeme has a first character, and that character begins one. -/
theorem IsLexeme.begins {kind : TokenKind} {text more : List Char}
    (isLexeme : IsLexeme kind text more) :
    ∃ first tail, text = first :: tail ∧ ¬BeginsNoLexeme first := by
  cases isLexeme with
  | operator spells =>
    obtain ⟨c, text_eq, spells⟩ | ⟨first, second, text_eq, spells⟩ := TokenKind.ofSpelling? spells
    · exact ⟨c, [], text_eq, fun noLexeme => by simp [noLexeme.1] at spells⟩
    · obtain ⟨single, found⟩ := apart_of_ofPair? spells
      exact ⟨first, [second], text_eq, fun noLexeme => by simp [noLexeme.1] at found⟩
  | singleQuoted | unclosedSingle => exact ⟨_, _, rfl, fun noLexeme => noLexeme.2.1 rfl⟩
  | doubleQuoted | unclosedDouble => exact ⟨_, _, rfl, fun noLexeme => noLexeme.2.2.1 rfl⟩
  | codePoint =>
    refine ⟨_, _, rfl, fun noLexeme => ?_⟩
    exact absurd noLexeme.2.2.2.2 (by rw [isWordStart_of_ascii (by decide)]; decide)
  | number isDigit => exact ⟨_, _, rfl, fun noLexeme => by simp [noLexeme.2.2.2.1] at isDigit⟩
  | identifier isStart | reservedName isStart =>
    exact ⟨_, _, rfl, fun noLexeme => by simp [noLexeme.2.2.2.2] at isStart⟩

theorem Recognition.Recognizes.isLexeme {first : Char} {tail more : List Char} {kind : TokenKind}
    (recognizes : Recognizes first tail more kind) : IsLexeme kind (first :: tail) more := by
  have noError := recognizes.isError_eq_false
  cases recognizes.standsAsToken with
  | lexeme isLexeme _ _ => exact isLexeme
  | unknown => cases noError

/-- What is read of a source has the form of its kind. -/
theorem isLexeme_of_mem_lexemesOf {source : String} (short : Text.utf8Size source.toList < 2 ^ 32)
    {lexeme : Lexeme} (member : lexeme ∈ lexemesOf source)
    (noError : lexeme.kind.isError = false) :
    ∃ more, IsLexeme lexeme.kind lexeme.text.toList more := by
  obtain ⟨first, tail, more, text_eq, recognized⟩ := (scans_tokenize short).recognized lexeme member
  rw [text_eq, String.toList_ofList]
  exact ⟨more, (recognizes_of_recognize noError recognized).isLexeme⟩

/-- Where a lexeme can begin, something is recognized, or a quoted text is not closed. -/
theorem exists_recognizes {first : Char} (begins : ¬BeginsNoLexeme first) (rest : List Char) :
    (∃ tail more kind, rest = tail ++ more ∧ Recognizes first tail more kind) ∨
      IsLexeme .unclosedString (first :: rest) [] := by
  cases operator : TokenKind.ofChar? first with
  | some kind =>
    cases pair : pairOperator? first rest with
    | none => exact .inl ⟨[], rest, kind, rfl, .single pair operator⟩
    | some pairKind =>
      cases rest with
      | nil => cases pair
      | cons second more => exact .inl ⟨[second], more, pairKind, rfl, .pair pair⟩
  | none =>
    by_cases single : first = '\''
    · subst single
      cases closes : singleQuotedTail? rest with
      | none => exact .inr (.unclosedSingle (singleQuotedTail?_eq_none_iff.mp closes))
      | some count =>
        obtain ⟨inner, more, rfl, free, -⟩ := singleQuotedTail?_eq_some_iff.mp closes
        exact .inl ⟨inner ++ ['\''], more, _, by simp, .singleQuoted rfl free⟩
    by_cases double : first = '"'
    · subst double
      cases closes : doubleQuotedTail? rest with
      | none => exact .inr (.unclosedDouble (doubleQuotedTail?_eq_none_iff.mp closes))
      | some count =>
        obtain ⟨inner, more, rfl, escaped, -⟩ := doubleQuotedTail?_eq_some_iff.mp closes
        exact .inl ⟨inner ++ ['"'], more, _, by simp, .doubleQuoted rfl escaped⟩
    cases isDigit : first.isDigit with
    | true =>
      obtain ⟨tail, more, rfl, areDigits, ends⟩ := exists_run (fun c => c.isDigit || c == '_') rest
      exact .inl ⟨tail, more, _, rfl, .number isDigit areDigits ends⟩
    | false =>
      cases isStart : isWordStart first with
      | false => exact absurd ⟨operator, single, double, isDigit, isStart⟩ begins
      | true =>
        cases found : codePoint? first rest with
        | none =>
          obtain ⟨tail, more, rfl, areWordChars, ends⟩ := exists_run isWordChar rest
          exact .inl ⟨tail, more, _, rfl, .word isStart found areWordChars ends⟩
        | some count =>
          unfold codePoint? at found
          split at found
          · rename_i isLetter
            obtain ⟨before, after, digits, more, rfl, beforeBlank, afterBlank, nonempty, areDigits,
              ends, -⟩ := codePointTail?_eq_some_iff.mp found
            exact .inl ⟨before ++ '+' :: (after ++ digits), more, _, by simp,
              .codePoint isLetter beforeBlank afterBlank nonempty areDigits ends⟩
          · cases found

theorem beginsNoLexeme_iff {c : Char} {more : List Char} :
    BeginsNoLexeme c ↔ ∀ kind piece rest, c :: more = piece ++ rest → ¬IsLexeme kind piece rest := by
  constructor
  · intro noLexeme kind piece rest split isLexeme
    obtain ⟨first, tail, rfl, begins⟩ := isLexeme.begins
    obtain ⟨rfl, -⟩ := List.cons_eq_cons.mp split
    exact begins noLexeme
  · intro noLexeme
    apply Classical.byContradiction
    intro begins
    obtain ⟨tail, rest, kind, rfl, recognizes⟩ | unclosed := exists_recognizes begins more
    · exact noLexeme kind (c :: tail) rest rfl recognizes.isLexeme
    · exact noLexeme .unclosedString (c :: more) [] (List.append_nil _).symm unclosed

/-! ## Stray text -/

theorem recognize_of_beginsNoLexeme {first : Char} (noLexeme : BeginsNoLexeme first)
    (rest : List Char) : recognize first rest = (.unknownChar, 0) := by
  obtain ⟨noOperator, notSingle, notDouble, notDigit, notStart⟩ := noLexeme
  have notLetter : first ≠ 'U' := by
    rintro rfl
    exact absurd notStart (by rw [isWordStart_of_ascii (by decide)]; decide)
  rw [recognize, pairOperator?_eq_none noOperator, noOperator]
  simp [notSingle, notDouble, codePoint?, notLetter, notDigit, notStart]

theorem recognize_singleQuote (rest : List Char) :
    recognize '\'' rest = quoted (singleQuotedTail? rest) rest := by
  rw [recognize, pairOperator?_eq_none rfl]
  rfl

theorem recognize_doubleQuote (rest : List Char) :
    recognize '"' rest = quoted (doubleQuotedTail? rest) rest := by
  rw [recognize, pairOperator?_eq_none rfl]
  rfl

/-- A quoted text that is not closed is recognized, and nothing is left behind it. -/
theorem IsLexeme.recognize_unclosed {text more : List Char}
    (isLexeme : IsLexeme .unclosedString text more) :
    more = [] ∧ ∃ first tail, text = first :: tail ∧ BeginsNoTrivia first ∧
      recognize first tail = (.unclosedString, tail.length) := by
  cases isLexeme with
  | operator spells => cases spells
  | unclosedSingle free =>
    refine ⟨rfl, _, _, rfl, ⟨isBlank_of_ascii (by decide), by decide⟩, ?_⟩
    rw [recognize_singleQuote, singleQuotedTail?_eq_none_iff.mpr free, quoted]
  | unclosedDouble endless =>
    refine ⟨rfl, _, _, rfl, ⟨isBlank_of_ascii (by decide), by decide⟩, ?_⟩
    rw [recognize_doubleQuote, doubleQuotedTail?_eq_none_iff.mpr endless, quoted]

theorem IsLexeme.eq_unclosedString {kind : TokenKind} {text more : List Char}
    (isLexeme : IsLexeme kind text more) (error : kind.isError) : kind = .unclosedString := by
  cases isLexeme with
  | operator spells =>
    cases kind
    all_goals cases spells
    all_goals cases error
  | unclosedSingle | unclosedDouble => rfl
  | singleQuoted | doubleQuoted | codePoint | number | identifier | reservedName => cases error

/-! ## Tokens -/

theorem StandsAsToken.recognize_eq {kind : TokenKind} {text more : List Char}
    (stands : StandsAsToken kind text more) : ∃ first tail, text = first :: tail ∧
      BeginsNoTrivia first ∧ recognize first (tail ++ more) = (kind, tail.length) := by
  cases stands with
  | lexeme isLexeme ends noCodePoint =>
    cases error : kind.isError with
    | false =>
      obtain ⟨first, tail, rfl, recognizes⟩ := isLexeme.recognizes error ends noCodePoint
      exact ⟨first, tail, rfl, triviaLength_cons_eq_zero_iff.mp (recognizes.triviaLength_eq_zero []),
        recognizes.recognize_eq⟩
    | true =>
      obtain rfl := isLexeme.eq_unclosedString error
      obtain ⟨rfl, first, tail, rfl, noTrivia, recognized⟩ := isLexeme.recognize_unclosed
      exact ⟨first, tail, rfl, noTrivia, by rw [List.append_nil, recognized]⟩
  | unknown noTrivia noLexeme =>
    exact ⟨_, [], rfl, noTrivia, recognize_of_beginsNoLexeme (beginsNoLexeme_iff.mpr noLexeme) more⟩

theorem standsAsToken_of_recognize {first : Char} {tail more : List Char} {kind : TokenKind}
    (noTrivia : BeginsNoTrivia first)
    (recognized : recognize first (tail ++ more) = (kind, tail.length)) :
    StandsAsToken kind (first :: tail) more := by
  by_cases noLexeme : BeginsNoLexeme first
  · rw [recognize_of_beginsNoLexeme noLexeme, Prod.mk.injEq] at recognized
    obtain ⟨rfl, length⟩ := recognized
    obtain rfl := List.length_eq_zero_iff.mp length.symm
    exact .unknown noTrivia (beginsNoLexeme_iff.mp noLexeme)
  · obtain ⟨piece, rest, found, split, recognizes⟩ | unclosed :=
      exists_recognizes noLexeme (tail ++ more)
    · rw [split, recognizes.recognize_eq, Prod.mk.injEq] at recognized
      obtain ⟨rfl, length⟩ := recognized
      obtain ⟨rfl, rfl⟩ := List.append_inj split length.symm
      exact recognizes.standsAsToken
    · obtain ⟨-, _, _, same, -, unclosedRecognized⟩ := unclosed.recognize_unclosed
      obtain ⟨rfl, rfl⟩ := List.cons_eq_cons.mp same
      rw [unclosedRecognized, Prod.mk.injEq, List.length_append] at recognized
      obtain ⟨rfl, length⟩ := recognized
      obtain rfl : more = [] := List.length_eq_zero_iff.mp (by omega)
      rw [List.append_nil] at unclosed
      exact .lexeme unclosed nofun nofun

/-- What stands as a token is what is recognized. -/
theorem standsAsToken_iff {kind : TokenKind} {text more : List Char} :
    StandsAsToken kind text more ↔ ∃ first tail, text = first :: tail ∧ BeginsNoTrivia first ∧
      recognize first (tail ++ more) = (kind, tail.length) := by
  constructor
  · exact StandsAsToken.recognize_eq
  · rintro ⟨first, tail, rfl, noTrivia, recognized⟩
    exact standsAsToken_of_recognize noTrivia recognized

end PatternSyntax
