import PatternSyntax.Grammar.Atom
import PatternSyntax.Proofs.Spelling.CharClass

/-!
# Spellings of atoms

An atom other than a group is a few lexemes that hold no expression. Groups are
spelled by what opens them, an expression and a closing parenthesis; the
expression is left to the caller here, as it is in the grammar.

Every atom is told by its first lexeme, so at most one of them is there.
-/

namespace PatternSyntax.Grammar

open PatternSyntax.Parser
open PatternSyntax.Text

/-! ## The spellings -/

/-- What opens a group. -/
inductive SpellsOpening : GroupKind → List Lexeme → Prop
  | plain {opening : Lexeme} (opens : opening.kind = .openParen) : SpellsOpening .plain [opening]
  | capturing {colon opening : Lexeme} (isColon : colon.kind = .colon)
      (opens : opening.kind = .openParen) : SpellsOpening .capturing ([colon] ++ [opening])
  | named {colon name opening : Lexeme} (isColon : colon.kind = .colon)
      (isName : name.kind = .identifier) (alphanumeric : name.text.toList.all Char.isAlphanum)
      (short : name.text.toList.length ≤ maxGroupNameLength) (opens : opening.kind = .openParen) :
      SpellsOpening (.named name.text) ([colon] ++ [name] ++ [opening])
  | atomic {word opening : Lexeme} (isAtomic : word.IsKeyword "atomic")
      (opens : opening.kind = .openParen) : SpellsOpening .atomic ([word] ++ [opening])

/-- What a reference refers to. -/
inductive SpellsTarget : ReferenceTarget → List Lexeme → Prop
  | forward {sign number : Lexeme} {offset : Int32} (isPlus : sign.kind = .plus)
      (isNumber : number.kind = .number) (inRange : offset? number.text.toList = some offset) :
      SpellsTarget (.relative offset) ([sign] ++ [number])
  | backward {sign number : Lexeme} {offset : Int32} (isDash : sign.kind = .dash)
      (isNumber : number.kind = .number) (inRange : offset? number.text.toList = some offset) :
      SpellsTarget (.relative (-offset)) ([sign] ++ [number])
  | number {number : Lexeme} {index : Nat} (isCount : IsCount index number) :
      SpellsTarget (.number index) [number]
  | named {name : Lexeme} (isName : name.kind = .identifier) :
      SpellsTarget (.named name.text) [name]

/-- The text between the quotes, as it stands. -/
def rawText (lexeme : Lexeme) : String :=
  String.ofList (Quoted.inner lexeme.text.toList)

/-- An atom other than a group. -/
inductive SpellsAtom (unicode : Bool) : Pattern → List Lexeme → Prop
  | literal {text : Lexeme} (isText : text.kind = .string) :
      SpellsAtom unicode (.literal text.literal) [text]
  | charClass {members : CharClass} {lexemes : List Lexeme}
      (spells : SpellsClass unicode members lexemes) :
      SpellsAtom unicode (.charClass members) lexemes
  | boundary {operator : Lexeme} {kind : Boundary}
      (isBoundary : boundaryOf? operator.kind = some kind) :
      SpellsAtom unicode (.boundary kind operator.span) [operator]
  | reference {mark : Lexeme} {target : ReferenceTarget} {inner : List Lexeme}
      (isMark : mark.kind = .doubleColon) (spells : SpellsTarget target inner) :
      SpellsAtom unicode (.reference target (mark.span.join (lastSpan mark.span inner)))
        ([mark] ++ inner)
  | codePoint {lexeme : Lexeme} {c : Char} (isCodePoint : lexeme.kind = .codePoint)
      (readable : codePointChar? lexeme.text.toList = some c) :
      SpellsAtom unicode (.charClass (.singleton c unicode lexeme.span)) [lexeme]
  | decimalRange {word first dash last : Lexeme} (isRange : word.IsKeyword "range")
      (isFirst : first.kind = .string) (isDash : dash.kind = .dash) (isLast : last.kind = .string) :
      SpellsAtom unicode
        (.numberRange (rawText first) (rawText last) 10 (word.span.join last.span))
        ([word] ++ [first] ++ [dash] ++ [last])
  | basedRange {word first dash last base number : Lexeme} {radix : Nat}
      (isRange : word.IsKeyword "range") (isFirst : first.kind = .string)
      (isDash : dash.kind = .dash) (isLast : last.kind = .string) (isBase : base.IsKeyword "base")
      (isNumber : number.kind = .number) (readable : word? number.text.toList = some radix)
      (inRange : 2 ≤ radix ∧ radix ≤ 36) :
      SpellsAtom unicode
        (.numberRange (rawText first) (rawText last) radix (word.span.join number.span))
        ([word] ++ [first] ++ [dash] ++ [last] ++ [base] ++ [number])
  | regex {word text : Lexeme} (isRegex : word.IsKeyword "regex") (isText : text.kind = .string) :
      SpellsAtom unicode (.regex text.literal.content (word.span.join text.span))
        ([word] ++ [text])
  | use {name : Lexeme} (isName : name.kind = .identifier) :
      SpellsAtom unicode (.use name.text name.span) [name]
  | dot {dot : Lexeme} (isDot : dot.kind = .dot) : SpellsAtom unicode (.dot dot.span) [dot]
  | recursion {word : Lexeme} (isRecursion : word.IsKeyword "recursion") :
      SpellsAtom unicode (.recursion word.span) [word]

theorem SpellsOpening.role_eq {kind : GroupKind} {lexemes : List Lexeme}
    (spells : SpellsOpening kind lexemes) : roleOf lexemes = .term := by
  cases spells with
  | plain opens => simp [Lexeme.role, opens]
  | capturing isColon _ => simp [Lexeme.role, isColon]
  | named isColon _ _ _ _ => simp [Lexeme.role, isColon]
  | atomic isAtomic _ => simp [Lexeme.role, isAtomic.1, isAtomic.2, Role.ofWord]

theorem SpellsAtom.role_eq {unicode : Bool} {pattern : Pattern} {lexemes : List Lexeme}
    (spells : SpellsAtom unicode pattern lexemes) : roleOf lexemes = .term := by
  cases spells with
  | literal isText => simp [Lexeme.role, isText]
  | charClass spells =>
    cases spells with
    | brackets opens _ _ _ => simp [Lexeme.role, opens]
  | @boundary operator kind isBoundary =>
    unfold boundaryOf? at isBoundary
    rw [roleOf_cons, Lexeme.role]
    split at isBoundary <;> simp_all
  | reference isMark _ => simp [Lexeme.role, isMark]
  | codePoint isCodePoint _ => simp [Lexeme.role, isCodePoint]
  | decimalRange isRange _ _ _ => simp [Lexeme.role, isRange.1, isRange.2, Role.ofWord]
  | basedRange isRange _ _ _ _ _ _ _ => simp [Lexeme.role, isRange.1, isRange.2, Role.ofWord]
  | regex isRegex _ => simp [Lexeme.role, isRegex.1, isRegex.2, Role.ofWord]
  | use isName => simp [Lexeme.role, isName]
  | dot isDot => simp [Lexeme.role, isDot]
  | recursion isRecursion => simp [Lexeme.role, isRecursion.1, isRecursion.2, Role.ofWord]

variable {cursor after : Cursor}

/-! ## Groups -/

theorem groupName_eq_accept_iff {name : Lexeme} {kind : GroupKind} :
    groupName name cursor = .accept kind after ↔
      (name.text.toList.all Char.isAlphanum ∧ name.text.toList.length ≤ maxGroupNameLength) ∧
        .named name.text = kind ∧ cursor = after := by
  unfold groupName
  split
  · rename_i notAlphanumeric
    simp only [fail_ne_accept, false_iff]
    rintro ⟨⟨alphanumeric, -⟩, -⟩
    simp [alphanumeric] at notAlphanumeric
  · rename_i alphanumeric
    split
    · rename_i long
      simp only [fail_ne_accept, false_iff]
      rintro ⟨⟨-, short⟩, -⟩
      omega
    · rename_i short
      rw [pure_eq_accept_iff]
      simp only [Bool.not_eq_true', Bool.not_eq_false] at alphanumeric
      simp [alphanumeric, Nat.le_of_not_lt short]

theorem commits_groupName (name : Lexeme) : (groupName name).Commits := by
  unfold groupName
  split
  · exact commits_fail _
  · split
    · exact commits_fail _
    · exact commits_pure _

theorem spellsOpening_of_groupOpening {kind : GroupKind} {span : Span}
    (accepted : groupOpening cursor = .accept (kind, span) after) :
    ∃ lexemes, SpellsOpening kind lexemes ∧ cursor.Reads lexemes after ∧ span = cursor.span := by
  simp only [groupOpening, orElse_eq_accept_iff, bind_eq_accept_iff, keyword_eq_accept_iff,
    expect_eq_accept_iff, accept_eq_accept_iff, pure_eq_accept_iff, Prod.mk.injEq] at accepted
  rcases accepted with ⟨word, _, ⟨isAtomic, readsWord⟩, opening, _, ⟨opens, readsOpening⟩,
    ⟨rfl, rfl⟩, rfl⟩ | ⟨-, ⟨colon, _, ⟨isColon, readsColon⟩, name, _, named, accepted⟩ |
    ⟨-, opening, _, ⟨opens, readsOpening⟩, ⟨rfl, rfl⟩, rfl⟩⟩
  · exact ⟨_, .atomic isAtomic opens, readsWord.trans readsOpening, readsWord.span_eq.symm⟩
  · rw [optional_accept_eq_accept_iff] at named
    obtain ⟨isName, readsName, -⟩ := named
    cases name with
    | none =>
      rw [Option.toList_none, Cursor.reads_nil_iff] at readsName
      subst readsName
      simp only [pure_bind, bind_eq_accept_iff, expect_eq_accept_iff, pure_eq_accept_iff,
        Prod.mk.injEq] at accepted
      obtain ⟨opening, _, ⟨opens, readsOpening⟩, ⟨rfl, rfl⟩, rfl⟩ := accepted
      exact ⟨_, .capturing isColon opens, readsColon.trans readsOpening, readsColon.span_eq.symm⟩
    | some name =>
      simp only [bind_eq_accept_iff, groupName_eq_accept_iff, expect_eq_accept_iff,
        pure_eq_accept_iff, Prod.mk.injEq] at accepted
      obtain ⟨_, _, ⟨⟨alphanumeric, short⟩, rfl, rfl⟩, opening, _, ⟨opens, readsOpening⟩,
        ⟨rfl, rfl⟩, rfl⟩ := accepted
      exact ⟨_, .named isColon (isName name rfl) alphanumeric short opens,
        (readsColon.trans readsName).trans readsOpening, readsColon.span_eq.symm⟩
  · exact ⟨_, .plain opens, readsOpening, readsOpening.span_eq.symm⟩

theorem groupOpening_of_spellsOpening {kind : GroupKind} {lexemes : List Lexeme}
    (spells : SpellsOpening kind lexemes) (reads : cursor.Reads lexemes after) :
    groupOpening cursor = .accept (kind, cursor.span) after := by
  simp only [groupOpening, orElse_eq_accept_iff]
  have noWord {first : Lexeme} {rest : List Lexeme} {β : Type} {next : Lexeme → Parser β}
      (head : cursor.rest = first :: rest) (other : ¬first.IsKeyword "atomic") :
      (keyword "atomic" >>= next) cursor = .decline := by
    refine bind_eq_decline (keyword_eq_decline_iff.mpr ?_)
    simpa [head] using other
  cases spells with
  | atomic isAtomic opens =>
    obtain ⟨between, readsWord, readsOpening⟩ := Cursor.reads_append_iff.mp reads
    left
    simp only [bind_eq_accept_iff, keyword_eq_accept_iff, expect_eq_accept_iff]
    refine ⟨_, between, ⟨isAtomic, readsWord⟩, _, after, ⟨opens, readsOpening⟩, ?_⟩
    rw [readsWord.span_eq]
    rfl
  | capturing isColon opens =>
    obtain ⟨between, readsColon, readsOpening⟩ := Cursor.reads_append_iff.mp reads
    refine .inr ⟨noWord readsColon.rest (by simp [Lexeme.IsKeyword, isColon]), .inl ?_⟩
    simp only [bind_eq_accept_iff, accept_eq_accept_iff, optional_accept_eq_accept_iff]
    refine ⟨_, between, ⟨isColon, readsColon⟩, none, between,
      ⟨by simp, Cursor.reads_nil_iff.mpr rfl, fun _ => by simp [readsOpening.rest, opens]⟩, ?_⟩
    simp only [pure_bind, bind_eq_accept_iff, expect_eq_accept_iff]
    refine ⟨_, after, ⟨opens, readsOpening⟩, ?_⟩
    rw [readsColon.span_eq]
    rfl
  | named isColon isName alphanumeric short opens =>
    obtain ⟨beforeOpening, reads, readsOpening⟩ := Cursor.reads_append_iff.mp reads
    obtain ⟨between, readsColon, readsName⟩ := Cursor.reads_append_iff.mp reads
    refine .inr ⟨noWord readsColon.rest (by simp [Lexeme.IsKeyword, isColon]), .inl ?_⟩
    simp only [bind_eq_accept_iff, accept_eq_accept_iff, optional_accept_eq_accept_iff]
    refine ⟨_, between, ⟨isColon, readsColon⟩, some _, beforeOpening,
      ⟨by simpa using isName, readsName, by simp⟩, ?_⟩
    simp only [bind_eq_accept_iff, groupName_eq_accept_iff, expect_eq_accept_iff]
    refine ⟨_, beforeOpening, ⟨⟨alphanumeric, short⟩, rfl, rfl⟩, _, after, ⟨opens, readsOpening⟩, ?_⟩
    rw [readsColon.span_eq]
    rfl
  | plain opens =>
    refine .inr ⟨noWord reads.rest (by simp [Lexeme.IsKeyword, opens]), .inr ⟨?_, ?_⟩⟩
    · refine bind_eq_decline (accept_eq_decline_iff.mpr ?_)
      simp [reads.rest, opens]
    · simp only [bind_eq_accept_iff, accept_eq_accept_iff]
      refine ⟨_, after, ⟨opens, reads⟩, ?_⟩
      rw [reads.span_eq]
      rfl

theorem groupOpening_eq_decline_iff :
    groupOpening cursor = .decline ↔ ∀ lexeme ∈ cursor.rest.head?,
      ¬lexeme.IsKeyword "atomic" ∧ lexeme.kind ≠ .colon ∧ lexeme.kind ≠ .openParen := by
  simp only [groupOpening, orElse_eq_decline_iff]
  rw [bind_eq_decline_iff_of_commits, bind_eq_decline_iff_of_commits,
    bind_eq_decline_iff_of_commits fun _ => commits_pure _, keyword_eq_decline_iff,
    accept_eq_decline_iff, accept_eq_decline_iff]
  · cases cursor.rest <;> simp
  · refine fun colon => (commits_optional _).bind fun name => ?_
    have closing (kind : GroupKind) :
        Commits (do let _ ← expect .openParen; return (kind, colon.span)) :=
      (commits_expect _).bind fun _ => commits_pure _
    cases name with
    | none => exact (commits_pure _).bind closing
    | some name => exact (commits_groupName name).bind closing
  · exact fun _ => (commits_expect _).bind fun _ => commits_pure _

theorem group_eq_decline_iff {expression : Parser Pattern} (commits : expression.Commits) :
    group expression cursor = .decline ↔ ∀ lexeme ∈ cursor.rest.head?,
      ¬lexeme.IsKeyword "atomic" ∧ lexeme.kind ≠ .colon ∧ lexeme.kind ≠ .openParen := by
  rw [group, bind_eq_decline_iff_of_commits, groupOpening_eq_decline_iff]
  exact fun _ => commits.bind fun _ => (commits_orFail _ _).bind fun _ => commits_pure _

/-! ## References -/

theorem referenceTarget_eq_accept_iff {target : ReferenceTarget} :
    referenceTarget cursor = .accept target after ↔
      ∃ lexemes, SpellsTarget target lexemes ∧ cursor.Reads lexemes after := by
  simp only [referenceTarget, orElse_eq_accept_iff, bind_eq_accept_iff, accept_eq_accept_iff,
    expectNumber_eq_accept_iff, number_eq_accept_iff, orFail_eq_accept_iff, pure_eq_accept_iff]
  constructor
  · rintro (⟨sign, _, ⟨isPlus, readsSign⟩, offset, _, ⟨number, ⟨isNumber, inRange⟩, readsNumber⟩,
      rfl, rfl⟩ | ⟨-, ⟨sign, _, ⟨isDash, readsSign⟩, offset, _, ⟨number, ⟨isNumber, inRange⟩,
      readsNumber⟩, rfl, rfl⟩ | ⟨-, ⟨index, _, ⟨number, isCount, readsNumber⟩, rfl, rfl⟩ |
      ⟨-, name, _, ⟨isName, readsName⟩, rfl, rfl⟩⟩⟩)
    · exact ⟨_, .forward isPlus isNumber inRange, readsSign.trans readsNumber⟩
    · exact ⟨_, .backward isDash isNumber inRange, readsSign.trans readsNumber⟩
    · exact ⟨_, .number isCount, readsNumber⟩
    · exact ⟨_, .named isName, readsName⟩
  · rintro ⟨lexemes, spells, reads⟩
    have noSign {kind : TokenKind} {first : Lexeme} {rest : List Lexeme}
        {next : Lexeme → Parser ReferenceTarget} (head : cursor.rest = first :: rest)
        (other : first.kind ≠ kind) : (accept kind >>= next) cursor = .decline := by
      refine bind_eq_decline (accept_eq_decline_iff.mpr ?_)
      simpa [head] using other
    cases spells with
    | forward isPlus isNumber inRange =>
      obtain ⟨between, readsSign, readsNumber⟩ := Cursor.reads_append_iff.mp reads
      exact .inl ⟨_, between, ⟨isPlus, readsSign⟩, _, after, ⟨_, ⟨isNumber, inRange⟩, readsNumber⟩,
        rfl, rfl⟩
    | backward isDash isNumber inRange =>
      obtain ⟨between, readsSign, readsNumber⟩ := Cursor.reads_append_iff.mp reads
      exact .inr ⟨noSign readsSign.rest (by simp [isDash]), .inl ⟨_, between, ⟨isDash, readsSign⟩, _,
        after, ⟨_, ⟨isNumber, inRange⟩, readsNumber⟩, rfl, rfl⟩⟩
    | number isCount =>
      exact .inr ⟨noSign reads.rest (by simp [isCount.1]), .inr ⟨noSign reads.rest
        (by simp [isCount.1]), .inl ⟨_, after, ⟨_, isCount, reads⟩, rfl, rfl⟩⟩⟩
    | named isName =>
      refine .inr ⟨noSign reads.rest (by simp [isName]), .inr ⟨noSign reads.rest
        (by simp [isName]), .inr ⟨bind_eq_decline ?_, _, after, ⟨isName, reads⟩, rfl, rfl⟩⟩⟩
      rw [number_eq_decline_iff]
      simp [reads.rest, isName]

theorem commits_referenceTarget : referenceTarget.Commits :=
  Commits.orElse (Commits.orElse (Commits.orElse
    ((commits_orFail _ _).bind fun _ => commits_pure _)))

theorem spellsAtom_of_reference {unicode : Bool} {pattern : Pattern}
    (accepted : reference cursor = .accept pattern after) :
    ∃ lexemes, SpellsAtom unicode pattern lexemes ∧ cursor.Reads lexemes after := by
  simp only [reference, bind_eq_accept_iff, accept_eq_accept_iff, referenceTarget_eq_accept_iff,
    previous_bind_apply, pure_eq_accept_iff] at accepted
  obtain ⟨mark, _, ⟨isMark, readsMark⟩, target, _, ⟨inner, spells, readsInner⟩, rfl, rfl⟩ := accepted
  rw [readsInner.previous, readsMark.previous]
  exact ⟨_, .reference isMark spells, readsMark.trans readsInner⟩

theorem reference_eq_decline_iff :
    reference cursor = .decline ↔ ∀ lexeme ∈ cursor.rest.head?, lexeme.kind ≠ .doubleColon := by
  rw [reference, bind_eq_decline_iff_of_commits, accept_eq_decline_iff]
  exact fun _ => commits_referenceTarget.bind fun _ => commits_previous.bind fun _ => commits_pure _

/-! ## Number ranges -/

theorem radix_eq_accept_iff {base : Nat} :
    radix cursor = .accept base after ↔
      ∃ word number, word.IsKeyword "base" ∧ (number.kind = .number ∧
        word? number.text.toList = some base) ∧ (2 ≤ base ∧ base ≤ 36) ∧
        cursor.Reads ([word] ++ [number]) after := by
  simp only [radix, bind_eq_accept_iff, keyword_eq_accept_iff, expectNumber_eq_accept_iff,
    Cursor.reads_append_iff]
  constructor
  · rintro ⟨word, _, ⟨isBase, readsWord⟩, found, _, ⟨number, isNumber, readsNumber⟩, accepted⟩
    split at accepted
    · rename_i inRange
      rw [pure_eq_accept_iff] at accepted
      rcases accepted with ⟨rfl, rfl⟩
      exact ⟨word, number, isBase, isNumber, inRange, _, readsWord, readsNumber⟩
    · simp at accepted
  · rintro ⟨word, number, isBase, isNumber, inRange, between, readsWord, readsNumber⟩
    refine ⟨word, between, ⟨isBase, readsWord⟩, base, after, ⟨number, isNumber, readsNumber⟩, ?_⟩
    rw [if_pos inRange]
    rfl

theorem radix_eq_decline_iff :
    radix cursor = .decline ↔ ∀ lexeme ∈ cursor.rest.head?, ¬lexeme.IsKeyword "base" := by
  rw [radix, bind_eq_decline_iff_of_commits, keyword_eq_decline_iff]
  refine fun _ => (commits_orFail _ _).bind fun base => ?_
  split
  · exact commits_pure _
  · exact commits_previous.bind fun _ => commits_fail _

theorem spellsAtom_of_numberRange {unicode : Bool} {pattern : Pattern}
    (accepted : numberRange cursor = .accept pattern after) :
    ∃ lexemes, SpellsAtom unicode pattern lexemes ∧ cursor.Reads lexemes after := by
  simp only [numberRange, bind_eq_accept_iff, keyword_eq_accept_iff, expect_eq_accept_iff,
    previous_bind_apply, pure_eq_accept_iff] at accepted
  obtain ⟨word, _, ⟨isRange, readsWord⟩, first, _, ⟨isFirst, readsFirst⟩, dash, _,
    ⟨isDash, readsDash⟩, last, _, ⟨isLast, readsLast⟩, base, _, based, rfl, rfl⟩ := accepted
  have reads := ((readsWord.trans readsFirst).trans readsDash).trans readsLast
  cases base with
  | none =>
    rw [optional_eq_accept_none_iff] at based
    rcases based with ⟨-, rfl⟩
    rw [readsLast.previous]
    exact ⟨_, .decimalRange isRange isFirst isDash isLast, reads⟩
  | some base =>
    rw [optional_eq_accept_some_iff, radix_eq_accept_iff] at based
    obtain ⟨baseWord, number, isBase, ⟨isNumber, readable⟩, inRange, readsBase⟩ := based
    rw [readsBase.previous]
    refine ⟨_, .basedRange isRange isFirst isDash isLast isBase isNumber readable inRange, ?_⟩
    simpa using reads.trans readsBase

theorem numberRange_of_spells {word first dash last : Lexeme} {base : Option Nat}
    {between : Cursor} (isRange : word.IsKeyword "range") (isFirst : first.kind = .string)
    (isDash : dash.kind = .dash) (isLast : last.kind = .string)
    (reads : cursor.Reads ([word] ++ [first] ++ [dash] ++ [last]) between)
    (based : (optional radix) between = .accept base after) :
    numberRange cursor =
      .accept (.numberRange (rawText first) (rawText last) (base.getD 10)
        (word.span.join after.previous)) after := by
  simp only [Cursor.reads_append_iff] at reads
  obtain ⟨afterDash, ⟨afterFirst, ⟨afterWord, readsWord, readsFirst⟩, readsDash⟩, readsLast⟩ := reads
  simp only [numberRange, bind_eq_accept_iff, keyword_eq_accept_iff, expect_eq_accept_iff,
    previous_bind_apply]
  exact ⟨word, afterWord, ⟨isRange, readsWord⟩, first, afterFirst, ⟨isFirst, readsFirst⟩, dash,
    afterDash, ⟨isDash, readsDash⟩, last, between, ⟨isLast, readsLast⟩, base, after, based, rfl⟩

theorem numberRange_eq_decline_iff :
    numberRange cursor = .decline ↔ ∀ lexeme ∈ cursor.rest.head?, ¬lexeme.IsKeyword "range" := by
  rw [numberRange, bind_eq_decline_iff_of_commits, keyword_eq_decline_iff]
  exact fun _ => (commits_expect _).bind fun _ => (commits_expect _).bind fun _ =>
    (commits_expect _).bind fun _ => (commits_optional _).bind fun _ =>
    commits_previous.bind fun _ => commits_pure _

/-! ## All atoms -/

theorem regex_eq_decline_iff :
    regex cursor = .decline ↔ ∀ lexeme ∈ cursor.rest.head?, ¬lexeme.IsKeyword "regex" := by
  rw [regex, bind_eq_decline_iff_of_commits, keyword_eq_decline_iff]
  exact fun _ => commits_expectLiteral.bind fun _ => commits_pure _

theorem boundary_eq_decline_iff :
    boundary cursor = .decline ↔ ∀ lexeme ∈ cursor.rest.head?, boundaryOf? lexeme.kind = none := by
  rw [boundary, acceptMap_eq_decline_iff]
  simp

theorem codePointClass_eq_decline_iff {unicode : Bool} :
    codePointClass unicode cursor = .decline ↔
      ∀ lexeme ∈ cursor.rest.head?, lexeme.kind ≠ .codePoint := by
  rw [codePointClass, bind_eq_decline_iff_of_commits fun _ => commits_pure _,
    codePoint_eq_decline_iff]

/-- An atom is a group or a spelling of its own. -/
theorem spells_of_atom {unicode : Bool} {expression : Parser Pattern} {pattern : Pattern}
    (accepted : atom unicode expression cursor = .accept pattern after) :
    group expression cursor = .accept pattern after ∨
      ∃ lexemes, SpellsAtom unicode pattern lexemes ∧ cursor.Reads lexemes after := by
  simp only [atom, orElse_eq_accept_iff] at accepted
  rcases accepted with accepted | ⟨-, accepted | ⟨-, accepted | ⟨-, accepted | ⟨-, accepted |
    ⟨-, accepted | ⟨-, accepted | ⟨-, accepted | ⟨-, accepted | ⟨-, accepted |
    ⟨-, accepted⟩⟩⟩⟩⟩⟩⟩⟩⟩⟩
  · exact .inl accepted
  · simp only [bind_eq_accept_iff, literal_eq_accept_iff, pure_eq_accept_iff] at accepted
    obtain ⟨_, _, ⟨text, ⟨isText, rfl⟩, reads⟩, rfl, rfl⟩ := accepted
    exact .inr ⟨_, .literal isText, reads⟩
  · obtain ⟨members, lexemes, rfl, spells, reads⟩ := charClass_eq_accept_iff.mp accepted
    exact .inr ⟨_, .charClass spells, reads⟩
  · obtain ⟨operator, isBoundary, reads⟩ := acceptMap_eq_accept_iff.mp accepted
    obtain ⟨kind, found, rfl⟩ := Option.map_eq_some_iff.mp isBoundary
    exact .inr ⟨_, .boundary found, reads⟩
  · exact .inr (spellsAtom_of_reference accepted)
  · simp only [codePointClass, bind_eq_accept_iff] at accepted
    obtain ⟨⟨c, span⟩, _, read, rfl, rfl⟩ := accepted
    obtain ⟨lexeme, ⟨isCodePoint, readable, rfl⟩, reads⟩ := codePoint_eq_accept_iff.mp read
    exact .inr ⟨_, .codePoint isCodePoint readable, reads⟩
  · exact .inr (spellsAtom_of_numberRange accepted)
  · simp only [regex, bind_eq_accept_iff, keyword_eq_accept_iff, expectLiteral_eq_accept_iff,
      pure_eq_accept_iff] at accepted
    obtain ⟨word, _, ⟨isRegex, readsWord⟩, _, _, ⟨text, ⟨isText, rfl⟩, readsText⟩, rfl, rfl⟩ :=
      accepted
    exact .inr ⟨_, .regex isRegex isText, readsWord.trans readsText⟩
  · simp only [bind_eq_accept_iff, accept_eq_accept_iff, pure_eq_accept_iff] at accepted
    obtain ⟨name, _, ⟨isName, reads⟩, rfl, rfl⟩ := accepted
    exact .inr ⟨_, .use isName, reads⟩
  · simp only [bind_eq_accept_iff, accept_eq_accept_iff, pure_eq_accept_iff] at accepted
    obtain ⟨dot, _, ⟨isDot, reads⟩, rfl, rfl⟩ := accepted
    exact .inr ⟨_, .dot isDot, reads⟩
  · simp only [bind_eq_accept_iff, keyword_eq_accept_iff, pure_eq_accept_iff] at accepted
    obtain ⟨word, _, ⟨isRecursion, reads⟩, rfl, rfl⟩ := accepted
    exact .inr ⟨_, .recursion isRecursion, reads⟩

/-! ## The first lexeme of an atom -/

/-- The kinds of atoms. -/
inductive AtomKind where
  | group
  | literal
  | charClass
  | boundary
  | reference
  | codePoint
  | numberRange
  | regex
  | use
  | dot
  | recursion
deriving DecidableEq

namespace AtomKind

/-- The kind of atom that begins with the lexeme. -/
def of? (lexeme : Lexeme) : Option AtomKind :=
  match lexeme.kind with
  | .colon | .openParen => some group
  | .string => some literal
  | .openBracket => some charClass
  | .caret | .dollar | .percent | .angleLeft | .angleRight => some boundary
  | .doubleColon => some reference
  | .codePoint => some codePoint
  | .identifier => some use
  | .dot => some dot
  | .reservedName =>
    if lexeme.text = "atomic" then some group
    else if lexeme.text = "range" then some numberRange
    else if lexeme.text = "regex" then some regex
    else if lexeme.text = "recursion" then some recursion
    else none
  | _ => none

/-- Read an atom of the given kind. -/
def parser (unicode : Bool) (expression : Parser Pattern) : AtomKind → Parser Pattern
  | group => Grammar.group expression
  | literal => do
    let text ← Grammar.literal
    return .literal text
  | charClass => Grammar.charClass unicode
  | boundary => Grammar.boundary
  | reference => Grammar.reference
  | codePoint => codePointClass unicode
  | numberRange => Grammar.numberRange
  | regex => Grammar.regex
  | use => do
    let name ← accept .identifier
    return .use name.text name.span
  | dot => do
    let dot ← accept .dot
    return .dot dot.span
  | recursion => do
    let word ← keyword "recursion"
    return .recursion word.span

/-- Read an atom of the first kind that is there. -/
def parserOfFirst (unicode : Bool) (expression : Parser Pattern) (first : AtomKind) :
    List AtomKind → Parser Pattern
  | [] => first.parser unicode expression
  | second :: more =>
    first.parser unicode expression <|> parserOfFirst unicode expression second more

variable {unicode : Bool} {expression : Parser Pattern} {kind first : AtomKind}

theorem of?_boundary {lexeme : Lexeme} {boundaryKind : Boundary}
    (isBoundary : boundaryOf? lexeme.kind = some boundaryKind) : of? lexeme = some boundary := by
  unfold boundaryOf? at isBoundary
  split at isBoundary
  all_goals simp_all [of?]

theorem parser_eq_decline (commits : expression.Commits)
    (apart : ∀ lexeme ∈ cursor.rest.head?, of? lexeme ≠ some kind) :
    kind.parser unicode expression cursor = .decline := by
  cases kind with
  | group =>
    refine (group_eq_decline_iff commits).mpr fun lexeme member => ⟨?_, ?_, ?_⟩
    · exact fun isAtomic => apart lexeme member (by simp [of?, isAtomic.1, isAtomic.2])
    · exact fun isColon => apart lexeme member (by simp [of?, isColon])
    · exact fun opens => apart lexeme member (by simp [of?, opens])
  | literal =>
    exact bind_eq_decline (literal_eq_decline_iff.mpr fun lexeme member isText =>
      apart lexeme member (by simp [of?, isText]))
  | charClass =>
    exact charClass_eq_decline_iff.mpr fun lexeme member opens =>
      apart lexeme member (by simp [of?, opens])
  | boundary =>
    refine boundary_eq_decline_iff.mpr fun lexeme member => ?_
    exact Option.eq_none_iff_forall_ne_some.mpr fun kind isBoundary =>
      apart lexeme member (of?_boundary isBoundary)
  | reference =>
    exact reference_eq_decline_iff.mpr fun lexeme member isMark =>
      apart lexeme member (by simp [of?, isMark])
  | codePoint =>
    exact codePointClass_eq_decline_iff.mpr fun lexeme member isCodePoint =>
      apart lexeme member (by simp [of?, isCodePoint])
  | numberRange =>
    exact numberRange_eq_decline_iff.mpr fun lexeme member isRange =>
      apart lexeme member (by simp [of?, isRange.1, isRange.2])
  | regex =>
    exact regex_eq_decline_iff.mpr fun lexeme member isRegex =>
      apart lexeme member (by simp [of?, isRegex.1, isRegex.2])
  | use =>
    exact bind_eq_decline (accept_eq_decline_iff.mpr fun lexeme member isName =>
      apart lexeme member (by simp [of?, isName]))
  | dot =>
    exact bind_eq_decline (accept_eq_decline_iff.mpr fun lexeme member isDot =>
      apart lexeme member (by simp [of?, isDot]))
  | recursion =>
    exact bind_eq_decline (keyword_eq_decline_iff.mpr fun lexeme member isRecursion =>
      apart lexeme member (by simp [of?, isRecursion.1, isRecursion.2]))

theorem parserOfFirst_eq_accept {more : List AtomKind} {pattern : Pattern}
    (declines : ∀ other ≠ kind, other.parser unicode expression cursor = .decline)
    (accepted : kind.parser unicode expression cursor = .accept pattern after)
    (member : kind ∈ first :: more) :
    parserOfFirst unicode expression first more cursor = .accept pattern after := by
  induction more generalizing first with
  | nil =>
    obtain rfl := List.mem_singleton.mp member
    exact accepted
  | cons second more inductionHypothesis =>
    by_cases same : first = kind
    · rw [← same] at accepted
      exact orElse_of_accept accepted
    · exact orElse_of_decline (declines first same)
        (inductionHypothesis (List.mem_of_ne_of_mem (Ne.symm same) member))

/-- An atom is read as the kind that its first lexeme tells. -/
theorem atom_eq_accept (kind : AtomKind) (commits : expression.Commits) {pattern : Pattern} {lexeme : Lexeme}
    {rest : List Lexeme} (reads : cursor.Reads (lexeme :: rest) after)
    (begins : of? lexeme = some kind)
    (accepted : kind.parser unicode expression cursor = .accept pattern after) :
    atom unicode expression cursor = .accept pattern after := by
  have declines (other : AtomKind) (apart : other ≠ kind) :
      other.parser unicode expression cursor = .decline := by
    refine parser_eq_decline commits fun head isHead isOther => apart ?_
    rw [reads.rest] at isHead
    obtain rfl : lexeme = head := Option.some.inj isHead
    exact Option.some.inj (isOther.symm.trans begins)
  have inOrder : kind ∈ [group, literal, charClass, boundary, reference, codePoint, numberRange,
      regex, use, dot, recursion] := by
    cases kind <;> decide
  exact parserOfFirst_eq_accept declines accepted inOrder

end AtomKind

/-! ## Atoms from their spellings -/

section

variable {unicode : Bool} {expression : Parser Pattern}

theorem reference_of_spells {mark : Lexeme} {target : ReferenceTarget} {inner : List Lexeme}
    (isMark : mark.kind = .doubleColon) (spells : SpellsTarget target inner)
    (reads : cursor.Reads ([mark] ++ inner) after) :
    reference cursor =
      .accept (.reference target (mark.span.join (lastSpan mark.span inner))) after := by
  obtain ⟨between, readsMark, readsTarget⟩ := Cursor.reads_append_iff.mp reads
  simp only [reference, bind_eq_accept_iff, accept_eq_accept_iff, referenceTarget_eq_accept_iff,
    previous_bind_apply]
  refine ⟨mark, between, ⟨isMark, readsMark⟩, target, after, ⟨inner, spells, readsTarget⟩, ?_⟩
  rw [readsTarget.previous, readsMark.previous]
  rfl

theorem decimalRange_of_spells {word first dash last : Lexeme} (isRange : word.IsKeyword "range")
    (isFirst : first.kind = .string) (isDash : dash.kind = .dash) (isLast : last.kind = .string)
    (reads : cursor.Reads ([word] ++ [first] ++ [dash] ++ [last]) after)
    (complete : roleOf after.rest ≠ .modifier) :
    numberRange cursor =
      .accept (.numberRange (rawText first) (rawText last) 10 (word.span.join last.span)) after := by
  have unbased : (optional radix) after = .accept none after := by
    rw [optional_eq_accept_none_iff, radix_eq_decline_iff]
    refine ⟨fun lexeme following isBase => complete ?_, rfl⟩
    obtain ⟨rest, split⟩ := List.head?_eq_some_iff.mp following
    simp [split, Lexeme.role, isBase.1, isBase.2, Role.ofWord]
  rw [numberRange_of_spells isRange isFirst isDash isLast reads unbased, reads.previous]
  rfl

theorem basedRange_of_spells {word first dash last base number : Lexeme} {least : Nat}
    (isRange : word.IsKeyword "range") (isFirst : first.kind = .string)
    (isDash : dash.kind = .dash) (isLast : last.kind = .string) (isBase : base.IsKeyword "base")
    (isNumber : number.kind = .number) (readable : word? number.text.toList = some least)
    (inRange : 2 ≤ least ∧ least ≤ 36)
    (reads : cursor.Reads ([word] ++ [first] ++ [dash] ++ [last] ++ [base] ++ [number]) after) :
    numberRange cursor =
      .accept (.numberRange (rawText first) (rawText last) least (word.span.join number.span))
        after := by
  rw [List.append_assoc] at reads
  obtain ⟨between, readsRange, readsBase⟩ := Cursor.reads_append_iff.mp reads
  have based : (optional radix) between = .accept (some least) after := by
    rw [optional_eq_accept_some_iff, radix_eq_accept_iff]
    exact ⟨base, number, isBase, ⟨isNumber, readable⟩, inRange, readsBase⟩
  rw [numberRange_of_spells isRange isFirst isDash isLast readsRange based, reads.previous]
  simp

theorem regex_of_spells {word text : Lexeme} (isRegex : word.IsKeyword "regex")
    (isText : text.kind = .string) (reads : cursor.Reads ([word] ++ [text]) after) :
    regex cursor =
      .accept (.regex text.literal.content (word.span.join text.span)) after := by
  obtain ⟨between, readsWord, readsText⟩ := Cursor.reads_append_iff.mp reads
  simp only [regex, bind_eq_accept_iff, keyword_eq_accept_iff, expectLiteral_eq_accept_iff]
  exact ⟨word, between, ⟨isRegex, readsWord⟩, _, after, ⟨text, ⟨isText, rfl⟩, readsText⟩, rfl⟩

/-- An atom is read from each of its spellings, if no modifier goes on with it. -/
theorem atom_of_spellsAtom (commits : expression.Commits) {pattern : Pattern}
    {lexemes : List Lexeme} (spells : SpellsAtom unicode pattern lexemes)
    (reads : cursor.Reads lexemes after) (complete : roleOf after.rest ≠ .modifier) :
    atom unicode expression cursor = .accept pattern after := by
  cases spells with
  | literal isText =>
    refine AtomKind.atom_eq_accept .literal commits reads (by simp [AtomKind.of?, isText]) ?_
    exact bind_eq_accept_iff.mpr ⟨_, after, literal_eq_accept_iff.mpr ⟨_, ⟨isText, rfl⟩, reads⟩, rfl⟩
  | @charClass members _ spells =>
    have accepted := charClass_eq_accept_iff.mpr ⟨members, _, rfl, spells, reads⟩
    obtain @⟨opening, _, _, _, opens, _, _, _⟩ := spells
    exact AtomKind.atom_eq_accept .charClass commits reads (by simp [AtomKind.of?, opens]) accepted
  | boundary isBoundary =>
    refine AtomKind.atom_eq_accept .boundary commits reads (AtomKind.of?_boundary isBoundary) ?_
    exact acceptMap_eq_accept_iff.mpr ⟨_, by simp [isBoundary], reads⟩
  | reference isMark spells =>
    exact AtomKind.atom_eq_accept .reference commits reads (by simp [AtomKind.of?, isMark])
      (reference_of_spells isMark spells reads)
  | codePoint isCodePoint readable =>
    refine AtomKind.atom_eq_accept .codePoint commits reads (by simp [AtomKind.of?, isCodePoint]) ?_
    exact bind_eq_accept_iff.mpr ⟨_, after,
      codePoint_eq_accept_iff.mpr ⟨_, ⟨isCodePoint, readable, rfl⟩, reads⟩, rfl⟩
  | decimalRange isRange isFirst isDash isLast =>
    exact AtomKind.atom_eq_accept .numberRange commits reads
      (by simp [AtomKind.of?, isRange.1, isRange.2])
      (decimalRange_of_spells isRange isFirst isDash isLast reads complete)
  | basedRange isRange isFirst isDash isLast isBase isNumber readable inRange =>
    exact AtomKind.atom_eq_accept .numberRange commits reads
      (by simp [AtomKind.of?, isRange.1, isRange.2])
      (basedRange_of_spells isRange isFirst isDash isLast isBase isNumber readable inRange reads)
  | regex isRegex isText =>
    exact AtomKind.atom_eq_accept .regex commits reads
      (by simp [AtomKind.of?, isRegex.1, isRegex.2]) (regex_of_spells isRegex isText reads)
  | use isName =>
    refine AtomKind.atom_eq_accept .use commits reads (by simp [AtomKind.of?, isName]) ?_
    exact bind_eq_accept_iff.mpr ⟨_, after, accept_eq_accept_iff.mpr ⟨isName, reads⟩, rfl⟩
  | dot isDot =>
    refine AtomKind.atom_eq_accept .dot commits reads (by simp [AtomKind.of?, isDot]) ?_
    exact bind_eq_accept_iff.mpr ⟨_, after, accept_eq_accept_iff.mpr ⟨isDot, reads⟩, rfl⟩
  | recursion isRecursion =>
    refine AtomKind.atom_eq_accept .recursion commits reads
      (by simp [AtomKind.of?, isRecursion.1, isRecursion.2]) ?_
    exact bind_eq_accept_iff.mpr ⟨_, after, keyword_eq_accept_iff.mpr ⟨isRecursion, reads⟩, rfl⟩

end

/-- An atom is declined exactly where no term begins, or where one begins with an
operator that stands before an atom. -/
theorem atom_eq_decline_iff {unicode : Bool} {expression : Parser Pattern}
    (commits : expression.Commits) :
    atom unicode expression cursor = .decline ↔ ∀ lexeme ∈ cursor.rest.head?,
      lexeme.role = .term →
        lexeme.kind = .bang ∨ lexeme.kind = .lookAhead ∨ lexeme.kind = .lookBehind := by
  simp only [atom, orElse_eq_decline_iff, bind_eq_decline_iff_of_commits fun _ => commits_pure _,
    group_eq_decline_iff commits, literal_eq_decline_iff, charClass_eq_decline_iff,
    boundary_eq_decline_iff, reference_eq_decline_iff, codePointClass_eq_decline_iff,
    numberRange_eq_decline_iff, regex_eq_decline_iff, accept_eq_decline_iff, keyword_eq_decline_iff]
  cases cursor.rest with
  | nil => simp
  | cons lexeme rest =>
    rcases lexeme with ⟨kind, text, span⟩
    cases kind with
    | reservedName =>
      simp only [List.head?_cons, Option.mem_def, Option.some.injEq, Lexeme.IsKeyword, forall_eq',
        Lexeme.role, Role.ofWord]
      by_cases isTerm : text = "atomic" ∨ text = "range" ∨ text = "regex" ∨ text = "recursion"
      · rcases isTerm with rfl | rfl | rfl | rfl <;> simp
      · rw [if_neg isTerm]
        simp only [not_or] at isTerm
        simp only [isTerm]
        repeat' split
        all_goals simp [boundaryOf?]
    | _ => simp [Lexeme.IsKeyword, Lexeme.role, boundaryOf?]

end PatternSyntax.Grammar
