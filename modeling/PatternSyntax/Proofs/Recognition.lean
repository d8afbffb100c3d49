import PatternSyntax.Token.Recognition

/-!
# Tokens one by one

Which texts are tokens, and what has to follow them so that they end where they
do. A token only looks at what follows to find its end. Whatever is cut off behind
it therefore leaves it as it is.
-/

namespace PatternSyntax.Recognition

open PatternSyntax

/-! ## Runs of characters -/

theorem length_takeWhile_append_eq_iff {p : Char → Bool} {tail more : List Char} :
    ((tail ++ more).takeWhile p).length = tail.length ↔
      (∀ c ∈ tail, p c) ∧ ∀ c ∈ more.head?, p c = false := by
  induction tail with
  | nil =>
    cases more with
    | nil => simp
    | cons c more =>
      rw [List.nil_append, List.takeWhile_cons]
      cases holds : p c <;> simp [holds]
  | cons c tail inductionHypothesis =>
    rw [List.cons_append, List.takeWhile_cons]
    cases holds : p c with
    | false => simp [holds]
    | true => simp [holds, inductionHypothesis]

theorem takeWhile_append_eq_left {p : Char → Bool} {run more : List Char} (all : ∀ c ∈ run, p c)
    (ends : ∀ c ∈ more.head?, p c = false) : (run ++ more).takeWhile p = run := by
  rw [List.takeWhile_append_of_pos all]
  cases more with
  | nil => simp
  | cons c more => simp [ends c rfl]

theorem dropWhile_append_eq_right {p : Char → Bool} {run more : List Char} (all : ∀ c ∈ run, p c)
    (ends : ∀ c ∈ more.head?, p c = false) : (run ++ more).dropWhile p = more := by
  rw [List.dropWhile_append_of_pos all]
  cases more with
  | nil => rfl
  | cons c more => simp [ends c rfl]

/-- Every text begins with a longest run of characters with a property. -/
theorem exists_run (p : Char → Bool) (text : List Char) :
    ∃ run more, text = run ++ more ∧ (∀ c ∈ run, p c) ∧ ∀ c ∈ more.head?, p c = false := by
  induction text with
  | nil => exact ⟨[], [], rfl, nofun, nofun⟩
  | cons c text inductionHypothesis =>
    cases holds : p c with
    | false => exact ⟨[], c :: text, rfl, nofun, by simpa using holds⟩
    | true =>
      obtain ⟨run, more, rfl, all, ends⟩ := inductionHypothesis
      exact ⟨c :: run, more, rfl, List.forall_mem_cons.mpr ⟨holds, all⟩, ends⟩

/-! ## Quoted texts -/

theorem singleQuotedTail?_eq_some_iff {rest : List Char} {count : Nat} :
    singleQuotedTail? rest = some count ↔
      ∃ inner more, rest = inner ++ '\'' :: more ∧ '\'' ∉ inner ∧ count = inner.length + 1 := by
  induction rest generalizing count with
  | nil => simp [singleQuotedTail?]
  | cons c rest inductionHypothesis =>
    rw [singleQuotedTail?]
    constructor
    · intro found
      split at found
      · rename_i isQuote
        cases found
        exact ⟨[], rest, by rw [isQuote, List.nil_append], List.not_mem_nil, rfl⟩
      · rename_i notQuote
        obtain ⟨counted, foundMore, rfl⟩ := Option.map_eq_some_iff.mp found
        obtain ⟨inner, more, rfl, free, rfl⟩ := inductionHypothesis.mp foundMore
        exact ⟨c :: inner, more, rfl, by simp [free, Ne.symm notQuote], rfl⟩
    · rintro ⟨inner, more, split, free, rfl⟩
      cases inner with
      | nil =>
        obtain ⟨rfl, -⟩ := List.cons_eq_cons.mp split
        rfl
      | cons d inner =>
        obtain ⟨rfl, rfl⟩ := List.cons_eq_cons.mp split
        simp only [List.mem_cons, not_or] at free
        rw [if_neg (Ne.symm free.1)]
        exact Option.map_eq_some_iff.mpr ⟨_, inductionHypothesis.mpr ⟨inner, more, rfl, free.2, rfl⟩,
          rfl⟩

/-- The text can stand between double quotes: no quote in it closes it, and its last
character does not keep the closing quote from doing so. -/
def isEscaped : List Char → Bool
  | [] => true
  | '"' :: _ => false
  | '\\' :: _ :: rest => isEscaped rest
  | ['\\'] => false
  | _ :: rest => isEscaped rest

theorem isEscaped_cons {c : Char} (notQuote : c ≠ '"') (notEscape : c ≠ '\\') (rest : List Char) :
    isEscaped (c :: rest) = isEscaped rest := by
  rw [isEscaped]
  · exact fun same => notQuote same
  · exact fun _ _ same => absurd same notEscape
  · exact fun same => absurd same notEscape

theorem doubleQuotedTail?_eq_some_iff {rest : List Char} {count : Nat} :
    doubleQuotedTail? rest = some count ↔
      ∃ inner more, rest = inner ++ '"' :: more ∧ isEscaped inner ∧ count = inner.length + 1 := by
  constructor
  · intro found
    induction rest using doubleQuotedTail?.induct generalizing count with
    | case1 => cases found
    | case2 rest =>
      cases found
      exact ⟨[], rest, rfl, rfl, rfl⟩
    | case3 c rest inductionHypothesis =>
      rw [doubleQuotedTail?] at found
      obtain ⟨counted, foundMore, rfl⟩ := Option.map_eq_some_iff.mp found
      obtain ⟨inner, more, rfl, escaped, rfl⟩ := inductionHypothesis foundMore
      exact ⟨'\\' :: c :: inner, more, rfl, escaped, rfl⟩
    | case4 c rest notQuote notEscape inductionHypothesis =>
      rw [doubleQuotedTail?] at found
      · obtain ⟨counted, foundMore, rfl⟩ := Option.map_eq_some_iff.mp found
        obtain ⟨inner, more, rfl, escaped, rfl⟩ := inductionHypothesis foundMore
        have notBackslash : c ≠ '\\' := by
          rintro rfl
          cases inner with
          | nil => exact notEscape _ _ rfl rfl
          | cons d inner => exact notEscape _ _ rfl rfl
        exact ⟨c :: inner, more, rfl, by rwa [isEscaped_cons notQuote notBackslash], rfl⟩
      · exact notQuote
      · exact notEscape
  · rintro ⟨inner, more, rfl, escaped, rfl⟩
    induction inner using isEscaped.induct with
    | case1 => rfl
    | case2 => cases escaped
    | case3 c inner inductionHypothesis =>
      rw [isEscaped] at escaped
      exact Option.map_eq_some_iff.mpr ⟨_, inductionHypothesis escaped, rfl⟩
    | case4 => cases escaped
    | case5 c inner notQuote notEscape notLast inductionHypothesis =>
      have notBackslash : c ≠ '\\' := by
        rintro rfl
        cases inner with
        | nil => exact notLast rfl rfl
        | cons d inner => exact notEscape _ _ rfl rfl
      rw [isEscaped_cons notQuote notBackslash] at escaped
      rw [List.cons_append, doubleQuotedTail?]
      · exact Option.map_eq_some_iff.mpr ⟨_, inductionHypothesis escaped, rfl⟩
      · exact notQuote
      · exact fun _ _ same => absurd same notBackslash

/-! ## The alphabet -/

/-- What holds of the first 128 characters holds of every character below them. -/
theorem forall_ascii {p : Char → Bool} (all : ∀ code < 128, p (Char.ofNat code)) {c : Char}
    (ascii : c.toNat < 128) : p c := by
  have holds := all c.toNat ascii
  rwa [Char.ofNat_toNat] at holds

/-! Of the first 128 characters the tables of Unicode need not be asked. -/

theorem isBlank_of_ascii {c : Char} (ascii : c.toNat < 128) :
    isBlank c = [9, 10, 11, 12, 13, 32].contains c.toNat :=
  beq_iff_eq.mp (forall_ascii (p := fun c => isBlank c == [9, 10, 11, 12, 13, 32].contains c.toNat)
    (by decide +kernel) ascii)

theorem isWordStart_of_ascii {c : Char} (ascii : c.toNat < 128) :
    isWordStart c = (c.isAlpha || c == '_') :=
  beq_iff_eq.mp (forall_ascii (p := fun c => isWordStart c == (c.isAlpha || c == '_'))
    (by decide +kernel) ascii)

theorem isWordChar_of_ascii {c : Char} (ascii : c.toNat < 128) :
    isWordChar c = (c.isAlphanum || c == '_') :=
  beq_iff_eq.mp (forall_ascii (p := fun c => isWordChar c == (c.isAlphanum || c == '_'))
    (by decide +kernel) ascii)

theorem toNat_lt_of_isHexDigit {c : Char} (isHex : c.isHexDigit) : c.toNat < 128 := by
  simp only [Char.isHexDigit, Char.isDigit, Bool.or_eq_true, Bool.and_eq_true, decide_eq_true_eq,
    UInt32.le_iff_toNat_le] at isHex
  have nine : '9'.val.toNat = 57 := rfl
  have lowerF : 'f'.val.toNat = 102 := rfl
  have upperF : 'F'.val.toNat = 70 := rfl
  change c.val.toNat < 128
  omega

theorem isBlank_of_isHexDigit {c : Char} (isHex : c.isHexDigit) : isBlank c = false := by
  have disjoint := forall_ascii (p := fun c => !c.isHexDigit || !isBlank c) (by decide +kernel)
    (toNat_lt_of_isHexDigit isHex)
  simpa [isHex] using disjoint

/-- The code points of blanks. -/
def blankCodes : List Nat :=
  [0x9, 0xA, 0xB, 0xC, 0xD, 0x20, 0x85, 0xA0, 0x1680, 0x2000, 0x2001, 0x2002, 0x2003, 0x2004,
    0x2005, 0x2006, 0x2007, 0x2008, 0x2009, 0x200A, 0x2028, 0x2029, 0x202F, 0x205F, 0x3000, 0xFEFF]

theorem toNat_mem_blankCodes {c : Char} (blank : isBlank c) : c.toNat ∈ blankCodes := by
  simp only [isBlank, Bool.or_eq_true, beq_iff_eq, Bool.and_eq_true] at blank
  rcases blank with rfl | ⟨white, -⟩
  · decide
  · simp only [Unicode.whiteSpace, Unicode.RangeTable.contains, Bool.and_eq_true, Bool.or_eq_true,
      decide_eq_true_eq, Bool.false_eq_true, or_false] at white
    simp only [blankCodes, List.mem_cons]
    omega

/-- No name goes on with a blank. -/
theorem isWordChar_of_isBlank {c : Char} (blank : isBlank c) : isWordChar c = false := by
  have disjoint : ∀ code ∈ blankCodes, isWordChar (Char.ofNat code) = false := by decide +kernel
  have notWord := disjoint c.toNat (toNat_mem_blankCodes blank)
  rwa [Char.ofNat_toNat] at notWord

/-! ## Code points -/

theorem codePointTail?_eq_some_iff {rest : List Char} {count : Nat} :
    codePointTail? rest = some count ↔
      ∃ before after digits more, rest = before ++ '+' :: (after ++ (digits ++ more)) ∧
        (∀ c ∈ before, isBlank c) ∧ (∀ c ∈ after, isBlank c) ∧ digits ≠ [] ∧
        (∀ c ∈ digits, c.isHexDigit) ∧ (∀ c ∈ more.head?, c.isHexDigit = false) ∧
        count = before.length + 1 + after.length + digits.length := by
  constructor
  · intro found
    obtain ⟨before, sign, rfl, beforeBlank, signNotBlank⟩ := exists_run isBlank rest
    simp only [codePointTail?, dropWhile_append_eq_right beforeBlank signNotBlank,
      takeWhile_append_eq_left beforeBlank signNotBlank] at found
    split at found
    · rename_i tail
      obtain ⟨after, number, rfl, afterBlank, numberNotBlank⟩ := exists_run isBlank tail
      obtain ⟨digits, more, rfl, areDigits, ends⟩ := exists_run Char.isHexDigit number
      simp only [dropWhile_append_eq_right afterBlank numberNotBlank,
        takeWhile_append_eq_left afterBlank numberNotBlank,
        takeWhile_append_eq_left areDigits ends] at found
      split at found
      · cases found
      · rename_i nonempty
        cases found
        exact ⟨before, after, digits, more, rfl, beforeBlank, afterBlank, nonempty, areDigits, ends,
          rfl⟩
    · cases found
  · rintro ⟨before, after, digits, more, rfl, beforeBlank, afterBlank, nonempty, areDigits, ends, rfl⟩
    have signNotBlank : ∀ c ∈ ('+' :: (after ++ (digits ++ more))).head?, isBlank c = false := by
      simpa using isBlank_of_ascii (c := '+') (by decide)
    have digitNotBlank : ∀ c ∈ (digits ++ more).head?, isBlank c = false := by
      obtain ⟨digit, digits, rfl⟩ := List.exists_cons_of_ne_nil nonempty
      simpa using isBlank_of_isHexDigit (areDigits digit List.mem_cons_self)
    simp only [codePointTail?, dropWhile_append_eq_right beforeBlank signNotBlank,
      takeWhile_append_eq_left beforeBlank signNotBlank, dropWhile_append_eq_right afterBlank
      digitNotBlank, takeWhile_append_eq_left afterBlank digitNotBlank,
      takeWhile_append_eq_left areDigits ends]

/-! ## Tokens -/

/-- The text from `first` on begins with the token `first :: tail`, with `more` behind
it. Texts that no token fits are left out. -/
inductive Recognizes (first : Char) : List Char → List Char → TokenKind → Prop
  | pair {second : Char} {more : List Char} {kind : TokenKind}
      (spells : TokenKind.ofPair? first second = some kind) :
      Recognizes first [second] more kind
  | single {more : List Char} {kind : TokenKind} (alone : pairOperator? first more = none)
      (spells : TokenKind.ofChar? first = some kind) : Recognizes first [] more kind
  | singleQuoted {inner more : List Char} (opens : first = '\'') (free : '\'' ∉ inner) :
      Recognizes first (inner ++ ['\'']) more .string
  | doubleQuoted {inner more : List Char} (opens : first = '"') (escaped : isEscaped inner) :
      Recognizes first (inner ++ ['"']) more .string
  | codePoint {before after digits more : List Char} (isLetter : first = 'U')
      (beforeBlank : ∀ c ∈ before, isBlank c) (afterBlank : ∀ c ∈ after, isBlank c)
      (nonempty : digits ≠ []) (areDigits : ∀ c ∈ digits, c.isHexDigit)
      (ends : ∀ c ∈ more.head?, c.isHexDigit = false) :
      Recognizes first (before ++ '+' :: (after ++ digits)) more .codePoint
  | number {tail more : List Char} (isDigit : first.isDigit)
      (areDigits : ∀ c ∈ tail, (c.isDigit || c == '_'))
      (ends : ∀ c ∈ more.head?, (c.isDigit || c == '_') = false) :
      Recognizes first tail more .number
  | word {tail more : List Char} (isStart : isWordStart first)
      (noCodePoint : codePoint? first (tail ++ more) = none)
      (areWordChars : ∀ c ∈ tail, isWordChar c) (ends : ∀ c ∈ more.head?, isWordChar c = false) :
      Recognizes first tail more
        (if isReserved (String.ofList (first :: tail)) then .reservedName else .identifier)

/-- What is recognized is no stray text. -/
theorem Recognizes.isError_eq_false {first : Char} {tail more : List Char} {kind : TokenKind}
    (recognizes : Recognizes first tail more kind) : kind.isError = false := by
  cases recognizes with
  | pair spells =>
    unfold TokenKind.ofPair? at spells
    split at spells <;> cases spells <;> rfl
  | single _ spells =>
    unfold TokenKind.ofChar? at spells
    split at spells <;> cases spells <;> rfl
  | singleQuoted => rfl
  | doubleQuoted => rfl
  | codePoint => rfl
  | number => rfl
  | word => split <;> rfl

theorem toNat_lt_of_ofChar? {c : Char} {kind : TokenKind}
    (spells : TokenKind.ofChar? c = some kind) : c.toNat < 128 := by
  unfold TokenKind.ofChar? at spells
  split at spells
  all_goals first | decide | cases spells

/-- An operator is nothing else. -/
theorem apart_of_ofChar? {c : Char} {kind : TokenKind} (spells : TokenKind.ofChar? c = some kind) :
    c ≠ '\'' ∧ c ≠ '"' ∧ c ≠ 'U' ∧ c.isDigit = false ∧ isWordStart c = false := by
  have disjoint := forall_ascii (p := fun c => TokenKind.ofChar? c = none ||
    (c != '\'' && c != '"' && c != 'U' && !c.isDigit && !isWordStart c)) (by decide +kernel)
    (toNat_lt_of_ofChar? spells)
  simpa [spells, and_assoc] using disjoint

/-- So is an operator of two characters. -/
theorem apart_of_ofPair? {first second : Char} {kind : TokenKind}
    (spells : TokenKind.ofPair? first second = some kind) :
    ∃ single, TokenKind.ofChar? first = some single := by
  unfold TokenKind.ofPair? at spells
  split at spells
  all_goals first | exact ⟨_, rfl⟩ | cases spells

theorem pairOperator?_eq_none {first : Char} (alone : TokenKind.ofChar? first = none)
    (rest : List Char) : pairOperator? first rest = none := by
  cases rest with
  | nil => rfl
  | cons second rest =>
    refine Option.eq_none_iff_forall_ne_some.mpr fun kind spells => ?_
    obtain ⟨single, found⟩ := apart_of_ofPair? spells
    rw [alone] at found
    cases found

theorem ofChar?_eq_none_of_isDigit {first : Char} (isDigit : first.isDigit) :
    TokenKind.ofChar? first = none :=
  Option.eq_none_iff_forall_ne_some.mpr fun _ spells => by
    simp [(apart_of_ofChar? spells).2.2.2.1] at isDigit

theorem ofChar?_eq_none_of_isWordStart {first : Char} (isStart : isWordStart first) :
    TokenKind.ofChar? first = none :=
  Option.eq_none_iff_forall_ne_some.mpr fun _ spells => by
    simp [(apart_of_ofChar? spells).2.2.2.2] at isStart

/-- A digit begins no name, and a quote begins neither. -/
theorem isWordStart_of_isDigit {c : Char} (isDigit : c.isDigit) : isWordStart c = false := by
  have ascii : c.toNat < 128 := toNat_lt_of_isHexDigit (by simp [Char.isHexDigit, isDigit])
  have disjoint := forall_ascii (p := fun c => !c.isDigit || !isWordStart c) (by decide +kernel) ascii
  simpa [isDigit] using disjoint

theorem left_eq_of_append_eq {tail more inner after : List Char} {c : Char}
    (same : tail ++ more = inner ++ c :: after) (length : tail.length = inner.length + 1) :
    tail = inner ++ [c] := by
  rw [List.append_cons] at same
  exact List.append_inj_left same (by simpa using length)

section

variable {first : Char} {tail more : List Char} {kind : TokenKind}

/-- A quoted text that counts as a token has its closing quote. -/
theorem quoted_eq_string {tail? : Option Nat} {rest : List Char} {count : Nat}
    (noError : kind.isError = false) (found : quoted tail? rest = (kind, count)) :
    kind = .string ∧ tail? = some count := by
  unfold quoted at found
  split at found
  · obtain ⟨rfl, rfl⟩ := Prod.mk.inj found
    exact ⟨rfl, rfl⟩
  · obtain ⟨rfl, -⟩ := Prod.mk.inj found
    cases noError

theorem recognizes_of_singleQuoted (opens : first = '\'')
    (found : singleQuotedTail? (tail ++ more) = some tail.length) :
    Recognizes first tail more .string := by
  obtain ⟨inner, after, same, free, length⟩ := singleQuotedTail?_eq_some_iff.mp found
  obtain rfl := left_eq_of_append_eq same length
  exact .singleQuoted opens free

theorem recognizes_of_doubleQuoted (opens : first = '"')
    (found : doubleQuotedTail? (tail ++ more) = some tail.length) :
    Recognizes first tail more .string := by
  obtain ⟨inner, after, same, escaped, length⟩ := doubleQuotedTail?_eq_some_iff.mp found
  obtain rfl := left_eq_of_append_eq same length
  exact .doubleQuoted opens escaped

theorem recognizes_of_codePoint? (found : codePoint? first (tail ++ more) = some tail.length) :
    Recognizes first tail more .codePoint := by
  unfold codePoint? at found
  split at found
  · rename_i isLetter
    obtain ⟨before, after, digits, rest, same, beforeBlank, afterBlank, nonempty, areDigits, ends,
      length⟩ := codePointTail?_eq_some_iff.mp found
    have reordered : tail ++ more = (before ++ '+' :: (after ++ digits)) ++ rest := by
      simp [same]
    obtain ⟨rfl, rfl⟩ := List.append_inj reordered (by simp [length]; omega)
    exact .codePoint isLetter beforeBlank afterBlank nonempty areDigits ends
  · cases found

theorem recognizes_of_word (isStart : isWordStart first)
    (noCodePoint : codePoint? first (tail ++ more) = none)
    (found : word first (tail ++ more) = (kind, tail.length)) : Recognizes first tail more kind := by
  simp only [word] at found
  have length : ((tail ++ more).takeWhile isWordChar).length = tail.length := by
    split at found
    all_goals exact congrArg Prod.snd found
  obtain ⟨areWordChars, ends⟩ := length_takeWhile_append_eq_iff.mp length
  rw [takeWhile_append_eq_left areWordChars ends] at found
  have kind_eq : kind = if isReserved (String.ofList (first :: tail)) then
      .reservedName else .identifier := by
    split at found
    all_goals simp_all
  rw [kind_eq]
  exact .word isStart noCodePoint areWordChars ends

/-- The cases are those of `recognize`, in the order in which it tries them. -/
theorem recognizes_of_recognize (noError : kind.isError = false)
    (recognized : recognize first (tail ++ more) = (kind, tail.length)) :
    Recognizes first tail more kind := by
  unfold recognize at recognized
  split at recognized
  · rename_i pairs
    obtain ⟨rfl, length⟩ := Prod.mk.inj recognized
    obtain ⟨second, rfl⟩ := List.length_eq_one_iff.mp length.symm
    exact .pair pairs
  rename_i alone
  split at recognized
  · rename_i singles
    obtain ⟨rfl, length⟩ := Prod.mk.inj recognized
    obtain rfl := List.length_eq_zero_iff.mp length.symm
    exact .single alone singles
  split at recognized
  · rename_i opens
    obtain ⟨rfl, found⟩ := quoted_eq_string noError recognized
    exact recognizes_of_singleQuoted opens found
  split at recognized
  · rename_i opens
    obtain ⟨rfl, found⟩ := quoted_eq_string noError recognized
    exact recognizes_of_doubleQuoted opens found
  split at recognized
  · rename_i found
    obtain ⟨rfl, rfl⟩ := Prod.mk.inj recognized
    exact recognizes_of_codePoint? found
  rename_i noCodePoint
  split at recognized
  · rename_i isDigit
    obtain ⟨rfl, length⟩ := Prod.mk.inj recognized
    obtain ⟨areDigits, ends⟩ := length_takeWhile_append_eq_iff.mp length
    exact .number isDigit areDigits ends
  split at recognized
  · rename_i isStart
    exact recognizes_of_word isStart noCodePoint recognized
  · obtain ⟨rfl, -⟩ := Prod.mk.inj recognized
    cases noError

end

theorem Recognizes.recognize_eq {first : Char} {tail more : List Char} {kind : TokenKind}
    (recognizes : Recognizes first tail more kind) :
    recognize first (tail ++ more) = (kind, tail.length) := by
  unfold recognize
  cases recognizes with
  | pair spells => simp [pairOperator?, spells]
  | single alone spells => simp [alone, spells]
  | @singleQuoted inner _ opens free =>
    subst opens
    have found : singleQuotedTail? (inner ++ ['\''] ++ more) = some (inner.length + 1) :=
      singleQuotedTail?_eq_some_iff.mpr ⟨inner, more, by simp, free, rfl⟩
    rw [pairOperator?_eq_none rfl, found]
    simp [TokenKind.ofChar?, quoted]
  | @doubleQuoted inner _ opens escaped =>
    subst opens
    have found : doubleQuotedTail? (inner ++ ['"'] ++ more) = some (inner.length + 1) :=
      doubleQuotedTail?_eq_some_iff.mpr ⟨inner, more, by simp, escaped, rfl⟩
    rw [pairOperator?_eq_none rfl, found]
    simp [TokenKind.ofChar?, quoted]
  | @codePoint before after digits _ isLetter beforeBlank afterBlank nonempty areDigits ends =>
    subst isLetter
    have found : codePointTail? (before ++ '+' :: (after ++ digits) ++ more) =
        some (before.length + 1 + after.length + digits.length) :=
      codePointTail?_eq_some_iff.mpr ⟨before, after, digits, more, by simp, beforeBlank, afterBlank,
        nonempty, areDigits, ends, rfl⟩
    have length : (before ++ '+' :: (after ++ digits)).length =
        before.length + 1 + after.length + digits.length := by
      simp only [List.length_append, List.length_cons]
      omega
    rw [pairOperator?_eq_none rfl, codePoint?, if_pos rfl, found, length]
    rfl
  | number isDigit areDigits ends =>
    have alone := ofChar?_eq_none_of_isDigit isDigit
    have notLetter : first ≠ 'U' := by
      rintro rfl
      cases isDigit
    have notSingle : first ≠ '\'' := by
      rintro rfl
      cases isDigit
    have notDouble : first ≠ '"' := by
      rintro rfl
      cases isDigit
    rw [pairOperator?_eq_none alone, alone]
    simp [notSingle, notDouble, codePoint?, notLetter, isDigit, numberTail,
      length_takeWhile_append_eq_iff.mpr ⟨areDigits, ends⟩]
  | word isStart noCodePoint areWordChars ends =>
    have alone := ofChar?_eq_none_of_isWordStart isStart
    have notDigit : first.isDigit = false := by
      cases isDigit : first.isDigit with
      | false => rfl
      | true => simp [isWordStart_of_isDigit isDigit] at isStart
    have notSingle : first ≠ '\'' := by
      rintro rfl
      rw [isWordStart_of_ascii (by decide)] at isStart
      cases isStart
    have notDouble : first ≠ '"' := by
      rintro rfl
      rw [isWordStart_of_ascii (by decide)] at isStart
      cases isStart
    rw [pairOperator?_eq_none alone, alone, noCodePoint]
    simp only [notSingle, notDouble, notDigit, isStart, Recognition.word, if_true, if_false, Bool.false_eq_true,
      takeWhile_append_eq_left areWordChars ends]
    split <;> rfl

/-- No token reaches beyond the text. -/
theorem recognize_le (first : Char) (rest : List Char) : (recognize first rest).2 ≤ rest.length := by
  unfold recognize
  split
  · rename_i pairs
    cases rest with
    | nil => cases pairs
    | cons second rest => simp
  · split
    · exact Nat.zero_le _
    · split
      · cases found : singleQuotedTail? rest with
        | none => exact Nat.le_refl _
        | some count =>
          obtain ⟨inner, more, rfl, -, rfl⟩ := singleQuotedTail?_eq_some_iff.mp found
          simp [quoted]
      · split
        · cases found : doubleQuotedTail? rest with
          | none => exact Nat.le_refl _
          | some count =>
            obtain ⟨inner, more, rfl, -, rfl⟩ := doubleQuotedTail?_eq_some_iff.mp found
            simp [quoted]
        · split
          · rename_i count codePoints
            unfold codePoint? at codePoints
            split at codePoints
            · obtain ⟨before, after, digits, more, rfl, -, -, -, -, -, rfl⟩ :=
                codePointTail?_eq_some_iff.mp codePoints
              simp only [List.length_append, List.length_cons]
              omega
            · cases codePoints
          · split
            · exact (List.takeWhile_sublist _).length_le
            · split
              · dsimp only [word]
                split
                all_goals exact (List.takeWhile_sublist _).length_le
              · exact Nat.zero_le _

/-! ## Tokens of one kind -/

/-- Only quoted texts are strings. -/
theorem Recognizes.of_string {first : Char} {tail more : List Char}
    (recognizes : Recognizes first tail more .string) :
    (first = '\'' ∧ ∃ inner, tail = inner ++ ['\''] ∧ '\'' ∉ inner) ∨
      (first = '"' ∧ ∃ inner, tail = inner ++ ['"'] ∧ isEscaped inner) := by
  generalize kind_eq : TokenKind.string = kind at recognizes
  cases recognizes with
  | pair spells =>
    rw [← kind_eq] at spells
    cases TokenKind.spelling?_of_ofPair? spells
  | single alone spells =>
    rw [← kind_eq] at spells
    cases TokenKind.spelling?_of_ofChar? spells
  | singleQuoted opens free => exact .inl ⟨opens, _, rfl, free⟩
  | doubleQuoted opens escaped => exact .inr ⟨opens, _, rfl, escaped⟩
  | codePoint => cases kind_eq
  | number => cases kind_eq
  | word =>
    split at kind_eq
    all_goals cases kind_eq

theorem Recognizes.of_number {first : Char} {tail more : List Char}
    (recognizes : Recognizes first tail more .number) : first.isDigit := by
  generalize kind_eq : TokenKind.number = kind at recognizes
  cases recognizes with
  | pair spells =>
    rw [← kind_eq] at spells
    cases TokenKind.spelling?_of_ofPair? spells
  | single alone spells =>
    rw [← kind_eq] at spells
    cases TokenKind.spelling?_of_ofChar? spells
  | number isDigit _ _ => exact isDigit
  | singleQuoted => cases kind_eq
  | doubleQuoted => cases kind_eq
  | codePoint => cases kind_eq
  | word =>
    split at kind_eq
    all_goals cases kind_eq

theorem Recognizes.of_identifier {first : Char} {tail more : List Char}
    (recognizes : Recognizes first tail more .identifier) :
    isWordStart first ∧ isReserved (String.ofList (first :: tail)) = false := by
  generalize kind_eq : TokenKind.identifier = kind at recognizes
  cases recognizes with
  | pair spells =>
    rw [← kind_eq] at spells
    cases TokenKind.spelling?_of_ofPair? spells
  | single alone spells =>
    rw [← kind_eq] at spells
    cases TokenKind.spelling?_of_ofChar? spells
  | word isStart _ _ _ =>
    split at kind_eq
    · cases kind_eq
    · rename_i notReserved
      exact ⟨isStart, Bool.eq_false_iff.mpr notReserved⟩
  | singleQuoted => cases kind_eq
  | doubleQuoted => cases kind_eq
  | codePoint => cases kind_eq
  | number => cases kind_eq

/-! ## What follows a token -/

/-- A code point is still there when the text goes on. -/
theorem codePoint?_append {first : Char} {text : List Char} (cut : List Char)
    (noCodePoint : codePoint? first (text ++ cut) = none) : codePoint? first text = none := by
  refine Option.eq_none_iff_forall_ne_some.mpr fun count found => ?_
  unfold codePoint? at found noCodePoint
  split at found
  · rename_i isLetter
    rw [if_pos isLetter] at noCodePoint
    obtain ⟨before, after, digits, more, rfl, beforeBlank, afterBlank, nonempty, areDigits, -, -⟩ :=
      codePointTail?_eq_some_iff.mp found
    obtain ⟨run, rest, same, areMore, ends⟩ := exists_run Char.isHexDigit (more ++ cut)
    have text_eq : before ++ '+' :: (after ++ (digits ++ more)) ++ cut =
        before ++ '+' :: (after ++ (digits ++ run ++ rest)) := by
      simp [same]
    have longer := codePointTail?_eq_some_iff.mpr ⟨before, after, digits ++ run, rest, text_eq,
      beforeBlank, afterBlank, by simp [nonempty], List.forall_mem_append.mpr ⟨areDigits, areMore⟩,
      ends, rfl⟩
    rw [longer] at noCodePoint
    cases noCodePoint
  · cases found

/-- What stands behind a token may be cut off anywhere. -/
theorem Recognizes.of_append {first : Char} {tail more cut : List Char} {kind : TokenKind}
    (recognizes : Recognizes first tail (more ++ cut) kind) : Recognizes first tail more kind := by
  have ends_of {p : Char → Bool} (ends : ∀ c ∈ (more ++ cut).head?, p c = false) :
      ∀ c ∈ more.head?, p c = false := by
    cases more with
    | nil => nofun
    | cons c more => exact ends
  cases recognizes with
  | pair spells => exact .pair spells
  | single alone spells =>
    refine .single ?_ spells
    cases more with
    | nil => rfl
    | cons c more => exact alone
  | singleQuoted opens free => exact .singleQuoted opens free
  | doubleQuoted opens escaped => exact .doubleQuoted opens escaped
  | codePoint isLetter beforeBlank afterBlank nonempty areDigits ends =>
    exact .codePoint isLetter beforeBlank afterBlank nonempty areDigits (ends_of ends)
  | number isDigit areDigits ends => exact .number isDigit areDigits (ends_of ends)
  | word isStart noCodePoint areWordChars ends =>
    rw [← List.append_assoc] at noCodePoint
    exact .word isStart (codePoint?_append cut noCodePoint) areWordChars (ends_of ends)

end PatternSyntax.Recognition
