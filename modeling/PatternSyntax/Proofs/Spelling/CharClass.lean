import PatternSyntax.Grammar.CharClass
import PatternSyntax.Proofs.Spelling.Terminal

/-!
# Spellings of character classes

A class is spelled by its parts between square brackets. A part is a unit, a
range between two units, or the name of a character set, and a name that stands
for a control character is always a unit.
-/

namespace PatternSyntax.Grammar

open PatternSyntax.Parser
open PatternSyntax.Text

/-- What may stand in a class by itself or at an end of a range. -/
inductive SpellsUnit : ClassUnit → Lexeme → Prop
  | text {lexeme : Lexeme} (isString : lexeme.kind = .string) :
      SpellsUnit (.text (Quoted.decode lexeme.text.toList)) lexeme
  | codePoint {lexeme : Lexeme} {c : Char} (isCodePoint : lexeme.kind = .codePoint)
      (readable : codePointChar? lexeme.text.toList = some c) : SpellsUnit (.char c) lexeme
  | control {lexeme : Lexeme} {c : Char} (isName : lexeme.kind = .identifier)
      (isControl : controlChar? lexeme.text = some c) : SpellsUnit (.char c) lexeme

/-- The unit is a single character. -/
def ClassUnit.IsChar (unit : ClassUnit) (c : Char) : Prop :=
  unit = .char c ∨ unit = .text [c]

/-- The members that one part of a class gives. -/
inductive SpellsItems : List ClassItem → List Lexeme → Prop
  | unit {unit : ClassUnit} {lexeme : Lexeme} (spells : SpellsUnit unit lexeme) :
      SpellsItems unit.items [lexeme]
  | range {first last : ClassUnit} {lower upper : Char} {firstLexeme dash lastLexeme : Lexeme}
      (spellsFirst : SpellsUnit first firstLexeme) (isLower : first.IsChar lower)
      (isDash : dash.kind = .dash) (spellsLast : SpellsUnit last lastLexeme)
      (isUpper : last.IsChar upper) (ordered : lower ≤ upper) :
      SpellsItems [.range lower upper] [firstLexeme, dash, lastLexeme]
  | named {bang : Option Lexeme} {name : Lexeme} (isBang : ∀ lexeme ∈ bang, lexeme.kind = .bang)
      (isName : name.kind = .identifier) (ordinary : controlChar? name.text = none) :
      SpellsItems [.named name.text none bang.isSome name.span] (bang.toList ++ [name])
  | qualified {bang : Option Lexeme} {qualifier colon name : Lexeme}
      (isBang : ∀ lexeme ∈ bang, lexeme.kind = .bang) (isQualifier : qualifier.kind = .identifier)
      (ordinary : controlChar? qualifier.text = none) (isColon : colon.kind = .colon)
      (isName : name.kind = .identifier) :
      SpellsItems
        [.named name.text (some qualifier.text) bang.isSome (qualifier.span.join name.span)]
        (bang.toList ++ [qualifier, colon, name])

/-- A class with at least one member between square brackets. -/
inductive SpellsClass (unicode : Bool) : CharClass → List Lexeme → Prop
  | brackets {opening closing : Lexeme} {parts : List (List ClassItem)} {inner : List Lexeme}
      (opens : opening.kind = .openBracket) (spells : Each SpellsItems parts inner)
      (nonempty : parts.flatten ≠ []) (closes : closing.kind = .closeBracket) :
      SpellsClass unicode ⟨parts.flatten, unicode, opening.span.join closing.span, nonempty⟩
        ([opening] ++ inner ++ [closing])

variable {cursor after : Cursor}

/-! ## Units -/

theorem classUnit_eq_accept_iff {unit : ClassUnit} :
    classUnit cursor = .accept unit after ↔
      ∃ lexeme, SpellsUnit unit lexeme ∧ cursor.Reads [lexeme] after := by
  constructor
  · intro accepted
    simp only [classUnit, orElse_eq_accept_iff, bind_eq_accept_iff, accept_eq_accept_iff,
      acceptMap_eq_accept_iff, pure_eq_accept_iff] at accepted
    rcases accepted with ⟨lexeme, _, ⟨isString, reads⟩, rfl, rfl⟩ |
      ⟨-, ⟨⟨c, span⟩, _, isCodePoint, rfl, rfl⟩ | ⟨-, lexeme, isControl, reads⟩⟩
    · exact ⟨lexeme, .text isString, reads⟩
    · obtain ⟨lexeme, ⟨isCodePoint, readable, -⟩, reads⟩ := codePoint_eq_accept_iff.mp isCodePoint
      exact ⟨lexeme, .codePoint isCodePoint readable, reads⟩
    · split at isControl
      · rename_i isName
        obtain ⟨c, readable, rfl⟩ := Option.map_eq_some_iff.mp isControl
        exact ⟨lexeme, .control isName readable, reads⟩
      · cases isControl
  · rintro ⟨lexeme, spells, reads⟩
    have noText (other : lexeme.kind ≠ .string) :
        (do let lexeme ← accept .string; return .text (Quoted.decode lexeme.text.toList) :
          Parser ClassUnit) cursor = .decline := by
      refine bind_eq_decline (accept_eq_decline_iff.mpr ?_)
      simpa [reads.rest] using other
    simp only [classUnit, orElse_eq_accept_iff]
    cases spells with
    | text isString =>
      exact .inl (bind_eq_accept_iff.mpr
        ⟨lexeme, after, accept_eq_accept_iff.mpr ⟨isString, reads⟩, rfl⟩)
    | codePoint isCodePoint readable =>
      refine .inr ⟨noText (by simp [isCodePoint]), .inl (bind_eq_accept_iff.mpr
        ⟨(_, lexeme.span), after, ?_, rfl⟩)⟩
      exact codePoint_eq_accept_iff.mpr ⟨lexeme, ⟨isCodePoint, readable, rfl⟩, reads⟩
    | control isName isControl =>
      refine .inr ⟨noText (by simp [isName]), .inr ⟨bind_eq_decline ?_, ?_⟩⟩
      · rw [codePoint_eq_decline_iff]
        simp [reads.rest, isName]
      · rw [acceptMap_eq_accept_iff]
        exact ⟨lexeme, by simp [isName, isControl], reads⟩

theorem classUnit_eq_decline_iff :
    classUnit cursor = .decline ↔ ∀ lexeme ∈ cursor.rest.head?,
      lexeme.kind ≠ .string ∧ lexeme.kind ≠ .codePoint ∧
        (lexeme.kind = .identifier → controlChar? lexeme.text = none) := by
  simp only [classUnit, orElse_eq_decline_iff, acceptMap_eq_decline_iff,
    bind_eq_decline_iff_of_commits fun _ => commits_pure _, accept_eq_decline_iff,
    codePoint_eq_decline_iff]
  cases cursor.rest with
  | nil => simp
  | cons lexeme rest => simp

theorem endpoint_eq_accept_iff {unit : ClassUnit} {span : Span} {c : Char} :
    (unit.endpoint span) cursor = .accept c after ↔ unit.IsChar c ∧ cursor = after := by
  match unit with
  | .char d => simp [ClassUnit.endpoint, ClassUnit.IsChar]
  | .text [d] => simp [ClassUnit.endpoint, ClassUnit.IsChar]
  | .text [] => simp [ClassUnit.endpoint, ClassUnit.IsChar]
  | .text (d :: e :: more) => simp [ClassUnit.endpoint, ClassUnit.IsChar]

theorem commits_endpoint (unit : ClassUnit) (span : Span) : (unit.endpoint span).Commits := by
  match unit with
  | .char d => exact commits_pure _
  | .text [d] => exact commits_pure _
  | .text [] => exact commits_fail _
  | .text (d :: e :: more) => exact commits_fail _

theorem spellsItems_of_unitOrRange {items : List ClassItem}
    (accepted : unitOrRange cursor = .accept items after) :
    ∃ lexemes, SpellsItems items lexemes ∧ cursor.Reads lexemes after := by
  simp only [unitOrRange, here_bind_apply, bind_eq_accept_iff, classUnit_eq_accept_iff,
    optional_accept_eq_accept_iff] at accepted
  obtain ⟨first, _, ⟨firstLexeme, spellsFirst, readsFirst⟩, dash, between, ⟨isDash, readsDash, -⟩,
    accepted⟩ := accepted
  cases dash with
  | none =>
    rw [Option.toList_none, Cursor.reads_nil_iff] at readsDash
    subst readsDash
    rw [pure_eq_accept_iff] at accepted
    rcases accepted with ⟨rfl, rfl⟩
    exact ⟨_, .unit spellsFirst, readsFirst⟩
  | some dash =>
    simp only [here_bind_apply, bind_eq_accept_iff, orFail_eq_accept_iff, classUnit_eq_accept_iff,
      endpoint_eq_accept_iff] at accepted
    obtain ⟨last, _, ⟨lastLexeme, spellsLast, readsLast⟩, lower, _, ⟨isLower, rfl⟩, upper, _,
      ⟨isUpper, rfl⟩, accepted⟩ := accepted
    split at accepted
    · simp at accepted
    · rename_i ordered
      rw [pure_eq_accept_iff] at accepted
      rcases accepted with ⟨rfl, rfl⟩
      exact ⟨_, .range spellsFirst isLower (isDash dash rfl) spellsLast isUpper
        (Char.not_lt.mp ordered), (readsFirst.trans readsDash).trans readsLast⟩

theorem unitOrRange_unit {unit : ClassUnit} {lexeme : Lexeme} (spells : SpellsUnit unit lexeme)
    (reads : cursor.Reads [lexeme] after)
    (complete : ∀ lexeme ∈ after.rest.head?, lexeme.kind ≠ .dash) :
    unitOrRange cursor = .accept unit.items after := by
  simp only [unitOrRange, here_bind_apply, bind_eq_accept_iff]
  refine ⟨unit, after, classUnit_eq_accept_iff.mpr ⟨lexeme, spells, reads⟩, none, after, ?_, rfl⟩
  rw [optional_eq_accept_none_iff]
  exact ⟨accept_eq_decline_iff.mpr complete, rfl⟩

theorem unitOrRange_range {first last : ClassUnit} {lower upper : Char}
    {firstLexeme dash lastLexeme : Lexeme} (spellsFirst : SpellsUnit first firstLexeme)
    (isLower : first.IsChar lower) (isDash : dash.kind = .dash)
    (spellsLast : SpellsUnit last lastLexeme) (isUpper : last.IsChar upper)
    (ordered : lower ≤ upper) (reads : cursor.Reads [firstLexeme, dash, lastLexeme] after) :
    unitOrRange cursor = .accept [.range lower upper] after := by
  obtain ⟨afterFirst, readsFirst, reads⟩ := Cursor.reads_cons_iff.mp reads
  obtain ⟨afterDash, readsDash, readsLast⟩ := Cursor.reads_cons_iff.mp reads
  simp only [unitOrRange, here_bind_apply, bind_eq_accept_iff]
  refine ⟨first, afterFirst, classUnit_eq_accept_iff.mpr ⟨_, spellsFirst, readsFirst⟩, some dash,
    afterDash, ?_, ?_⟩
  · rw [optional_eq_accept_some_iff]
    exact accept_eq_accept_iff.mpr ⟨isDash, readsDash⟩
  · simp only [here_bind_apply, bind_eq_accept_iff, orFail_eq_accept_iff]
    refine ⟨last, after, classUnit_eq_accept_iff.mpr ⟨_, spellsLast, readsLast⟩, lower, after,
      endpoint_eq_accept_iff.mpr ⟨isLower, rfl⟩, upper, after,
      endpoint_eq_accept_iff.mpr ⟨isUpper, rfl⟩, ?_⟩
    rw [if_neg (Char.not_lt.mpr ordered)]
    rfl

theorem unitOrRange_eq_decline_iff :
    unitOrRange cursor = .decline ↔ classUnit cursor = .decline := by
  rw [unitOrRange, here_bind_apply, bind_eq_decline_iff_of_commits]
  refine fun first => (commits_optional _).bind fun dash => ?_
  cases dash with
  | none => exact commits_pure _
  | some dash =>
    refine commits_here.bind fun lastSpan => (commits_orFail _ _).bind fun last =>
      (commits_endpoint _ _).bind fun lower => (commits_endpoint _ _).bind fun upper => ?_
    split
    · exact commits_fail _
    · exact commits_pure _

/-! ## Named sets -/

theorem spellsItems_of_namedItem (bang : Option Lexeme) {item : ClassItem} {before : Cursor}
    (isBang : ∀ lexeme ∈ bang, lexeme.kind = .bang) (readsBang : before.Reads bang.toList cursor)
    (noUnit : classUnit cursor = .decline)
    (accepted : namedItem bang.isSome cursor = .accept item after) :
    ∃ lexemes, SpellsItems [item] lexemes ∧ before.Reads lexemes after := by
  simp only [namedItem, bind_eq_accept_iff, accept_eq_accept_iff,
    optional_accept_eq_accept_iff] at accepted
  obtain ⟨first, between, ⟨isName, readsFirst⟩, colon, _, ⟨isColon, readsColon, -⟩, accepted⟩ :=
    accepted
  rw [classUnit_eq_decline_iff] at noUnit
  have ordinary := (noUnit first (by simp [readsFirst.rest])).2.2 isName
  cases colon with
  | none =>
    rw [Option.toList_none, Cursor.reads_nil_iff] at readsColon
    subst readsColon
    rw [pure_eq_accept_iff] at accepted
    rcases accepted with ⟨rfl, rfl⟩
    exact ⟨_, .named isBang isName ordinary, readsBang.trans readsFirst⟩
  | some colon =>
    simp only [bind_eq_accept_iff, expect_eq_accept_iff, pure_eq_accept_iff] at accepted
    obtain ⟨second, _, ⟨isSecond, readsSecond⟩, rfl, rfl⟩ := accepted
    exact ⟨_, .qualified isBang isName ordinary (isColon colon rfl) isSecond,
      readsBang.trans ((readsFirst.trans readsColon).trans readsSecond)⟩

theorem namedItem_named {negative : Bool} {name : Lexeme} (isName : name.kind = .identifier)
    (reads : cursor.Reads [name] after)
    (complete : ∀ lexeme ∈ after.rest.head?, lexeme.kind ≠ .colon) :
    namedItem negative cursor = .accept (.named name.text none negative name.span) after := by
  simp only [namedItem, bind_eq_accept_iff]
  refine ⟨name, after, accept_eq_accept_iff.mpr ⟨isName, reads⟩, none, after, ?_, rfl⟩
  rw [optional_eq_accept_none_iff]
  exact ⟨accept_eq_decline_iff.mpr complete, rfl⟩

theorem namedItem_qualified {negative : Bool} {qualifier colon name : Lexeme}
    (isQualifier : qualifier.kind = .identifier) (isColon : colon.kind = .colon)
    (isName : name.kind = .identifier) (reads : cursor.Reads [qualifier, colon, name] after) :
    namedItem negative cursor =
      .accept (.named name.text (some qualifier.text) negative (qualifier.span.join name.span))
        after := by
  obtain ⟨afterQualifier, readsQualifier, reads⟩ := Cursor.reads_cons_iff.mp reads
  obtain ⟨afterColon, readsColon, readsName⟩ := Cursor.reads_cons_iff.mp reads
  simp only [namedItem, bind_eq_accept_iff]
  refine ⟨qualifier, afterQualifier, accept_eq_accept_iff.mpr ⟨isQualifier, readsQualifier⟩,
    some colon, afterColon, ?_, ?_⟩
  · rw [optional_eq_accept_some_iff]
    exact accept_eq_accept_iff.mpr ⟨isColon, readsColon⟩
  · simp only [bind_eq_accept_iff, expect_eq_accept_iff]
    exact ⟨name, after, ⟨isName, readsName⟩, rfl⟩

/-! ## Parts of a class -/

theorem spellsItems_of_classItem {items : List ClassItem}
    (accepted : classItem cursor = .accept items after) :
    ∃ lexemes, SpellsItems items lexemes ∧ cursor.Reads lexemes after := by
  simp only [classItem, bind_eq_accept_iff, optional_accept_eq_accept_iff] at accepted
  obtain ⟨bang, between, ⟨isBang, readsBang, -⟩, accepted⟩ := accepted
  cases bang with
  | none =>
    simp only [orElse_eq_accept_iff, bind_eq_accept_iff, pure_eq_accept_iff] at accepted
    rcases accepted with accepted | ⟨declined, item, _, accepted, rfl, rfl⟩
    · rw [Option.toList_none, Cursor.reads_nil_iff] at readsBang
      subst readsBang
      exact spellsItems_of_unitOrRange accepted
    · exact spellsItems_of_namedItem none (by simp) readsBang (unitOrRange_eq_decline_iff.mp declined) accepted
  | some bang =>
    simp only [negatedItem, orElse_eq_accept_iff, bind_eq_accept_iff, pure_eq_accept_iff,
      fail_ne_accept, and_false, exists_false, false_or, failHere_ne_accept, or_false] at accepted
    obtain ⟨declined, item, _, accepted, rfl, rfl⟩ := accepted
    have noUnit : classUnit between = .decline := by
      rcases bind_eq_decline_iff.mp declined with declined | ⟨_, _, -, impossible⟩
      · exact unitOrRange_eq_decline_iff.mp declined
      · exact absurd impossible fail_ne_decline
    exact spellsItems_of_namedItem (some bang) isBang readsBang noUnit accepted

/-- A part of a class is not gone on with by what follows. -/
def EndsClassItem (rest : List Lexeme) : Prop :=
  ∀ lexeme ∈ rest.head?, lexeme.kind ≠ .dash ∧ lexeme.kind ≠ .colon

theorem SpellsItems.endsClassItem {items : List ClassItem} {lexemes : List Lexeme}
    (spells : SpellsItems items lexemes) (rest : List Lexeme) :
    EndsClassItem (lexemes ++ rest) := by
  have unitKind {unit : ClassUnit} {lexeme : Lexeme} (spells : SpellsUnit unit lexeme) :
      lexeme.kind ≠ .dash ∧ lexeme.kind ≠ .colon := by
    cases spells <;> simp_all
  cases spells with
  | unit spells => simpa [EndsClassItem] using unitKind spells
  | range spellsFirst => simpa [EndsClassItem] using unitKind spellsFirst
  | @named bang name isBang isName => cases bang <;> simp_all [EndsClassItem]
  | @qualified bang qualifier colon name isBang isQualifier =>
    cases bang <;> simp_all [EndsClassItem]

theorem SpellsItems.ne_nil {items : List ClassItem} {lexemes : List Lexeme}
    (spells : SpellsItems items lexemes) : lexemes ≠ [] := by
  cases spells <;> simp

theorem classItem_of_spellsItems {items : List ClassItem} {lexemes : List Lexeme}
    (spells : SpellsItems items lexemes) (reads : cursor.Reads lexemes after)
    (ends : EndsClassItem after.rest) : classItem cursor = .accept items after := by
  have noBang {lexeme : Lexeme} {more : List Lexeme} (first : cursor.rest = lexeme :: more)
      (other : lexeme.kind ≠ .bang) :
      (optional (accept .bang)) cursor = .accept none cursor := by
    rw [optional_eq_accept_none_iff, accept_eq_decline_iff]
    simpa [first] using other
  have unitKind {unit : ClassUnit} {lexeme : Lexeme} (spells : SpellsUnit unit lexeme) :
      lexeme.kind ≠ .bang := by
    cases spells <;> simp_all
  have named {bang : Option Lexeme} {item : ClassItem} {name : Lexeme} {more : List Lexeme}
      (isBang : ∀ lexeme ∈ bang, lexeme.kind = .bang) (isName : name.kind = .identifier)
      (ordinary : controlChar? name.text = none)
      (reads : cursor.Reads (bang.toList ++ name :: more) after)
      (accepted : ∀ between : Cursor, between.Reads (name :: more) after →
        namedItem bang.isSome between = .accept item after) :
      classItem cursor = .accept [item] after := by
    obtain ⟨between, readsBang, readsName⟩ := Cursor.reads_append_iff.mp reads
    have noUnit : unitOrRange between = .decline := by
      rw [unitOrRange_eq_decline_iff, classUnit_eq_decline_iff]
      simp [readsName.rest, isName, ordinary]
    have accepted := accepted between readsName
    rw [classItem, bind_eq_accept_iff]
    cases bang with
    | none =>
      rw [Option.toList_none, Cursor.reads_nil_iff] at readsBang
      subst readsBang
      refine ⟨none, between, noBang readsName.rest (by simp [isName]), ?_⟩
      rw [orElse_eq_accept_iff]
      exact .inr ⟨noUnit, bind_eq_accept_iff.mpr ⟨item, after, accepted, rfl⟩⟩
    | some bang =>
      refine ⟨some bang, between, ?_, ?_⟩
      · rw [optional_eq_accept_some_iff, accept_eq_accept_iff]
        exact ⟨isBang bang rfl, readsBang⟩
      · simp only [negatedItem, orElse_eq_accept_iff]
        exact .inr ⟨bind_eq_decline noUnit,
          .inl (bind_eq_accept_iff.mpr ⟨item, after, accepted, rfl⟩)⟩
  cases spells with
  | unit spells =>
    rw [classItem, bind_eq_accept_iff]
    refine ⟨none, cursor, noBang reads.rest (unitKind spells), ?_⟩
    exact orElse_eq_accept_iff.mpr
      (.inl (unitOrRange_unit spells reads fun lexeme first => (ends lexeme first).1))
  | range spellsFirst isLower isDash spellsLast isUpper ordered =>
    rw [classItem, bind_eq_accept_iff]
    refine ⟨none, cursor, noBang reads.rest (unitKind spellsFirst), ?_⟩
    exact orElse_eq_accept_iff.mpr
      (.inl (unitOrRange_range spellsFirst isLower isDash spellsLast isUpper ordered reads))
  | named isBang isName ordinary =>
    exact named isBang isName ordinary reads fun between readsName =>
      namedItem_named isName readsName fun lexeme first => (ends lexeme first).2
  | qualified isBang isQualifier ordinary isColon isName =>
    exact named isBang isQualifier ordinary reads fun between readsName =>
      namedItem_qualified isQualifier isColon isName readsName

theorem classItem_progresses : classItem.Progresses :=
  progresses_of_reads fun _ _ _ accepted =>
    let ⟨lexemes, spells, reads⟩ := spellsItems_of_classItem accepted
    ⟨lexemes, spells.ne_nil, reads⟩

theorem classItem_eq_decline {closing : Lexeme} {rest : List Lexeme}
    (closes : closing.kind = .closeBracket) (first : cursor.rest = closing :: rest) :
    classItem cursor = .decline := by
  rw [classItem, bind_eq_decline_iff]
  refine .inr ⟨none, cursor, ?_, ?_⟩
  · rw [optional_eq_accept_none_iff, accept_eq_decline_iff]
    simp [first, closes]
  · refine orElse_eq_decline_iff.mpr ⟨?_, bind_eq_decline (bind_eq_decline ?_)⟩
    · rw [unitOrRange_eq_decline_iff, classUnit_eq_decline_iff]
      simp [first, closes]
    · rw [accept_eq_decline_iff]
      simp [first, closes]

theorem charClass_eq_accept_iff {unicode : Bool} {pattern : Pattern} :
    charClass unicode cursor = .accept pattern after ↔
      ∃ members lexemes, pattern = .charClass members ∧ SpellsClass unicode members lexemes ∧
        cursor.Reads lexemes after := by
  simp only [charClass, bind_eq_accept_iff, accept_eq_accept_iff, orFail_eq_accept_iff,
    many_eq_accept_iff classItem_progresses]
  constructor
  · rintro ⟨opening, afterOpening, ⟨opens, readsOpening⟩, parts, beforeClosing, repeats, closing,
      _, ⟨closes, readsClosing⟩, accepted⟩
    obtain ⟨inner, spells, readsInner⟩ := repeats.each fun _ _ _ => spellsItems_of_classItem
    have reads := (readsOpening.trans readsInner).trans readsClosing
    by_cases nonempty : parts.flatten ≠ []
    · rw [CharClass.ofItems?, dif_pos nonempty, pure_eq_accept_iff] at accepted
      rcases accepted with ⟨rfl, rfl⟩
      exact ⟨_, _, rfl, .brackets opens spells nonempty closes, reads⟩
    · rw [CharClass.ofItems?, dif_neg nonempty] at accepted
      exact absurd accepted fail_ne_accept
  · rintro ⟨members, lexemes, rfl, @⟨opening, closing, parts, inner, opens, spells, nonempty,
      closes⟩, reads⟩
    obtain ⟨beforeClosing, reads, readsClosing⟩ := Cursor.reads_append_iff.mp reads
    obtain ⟨afterOpening, readsOpening, readsInner⟩ := Cursor.reads_append_iff.mp reads
    refine ⟨opening, afterOpening, ⟨opens, readsOpening⟩, parts, beforeClosing, ?_, closing, after,
      ⟨closes, readsClosing⟩, ?_⟩
    · refine spells.repeats EndsClassItem
        (fun _ _ _ _ spells reads ends => classItem_of_spellsItems spells reads ends)
        (fun _ _ rest spells => spells.endsClassItem rest) readsInner ?_
        (classItem_eq_decline closes readsClosing.rest)
      simp [EndsClassItem, readsClosing.rest, closes]
    · rw [CharClass.ofItems?, dif_pos nonempty]
      rfl

theorem charClass_eq_decline_iff {unicode : Bool} :
    charClass unicode cursor = .decline ↔
      ∀ lexeme ∈ cursor.rest.head?, lexeme.kind ≠ .openBracket := by
  rw [charClass, bind_eq_decline_iff_of_commits, accept_eq_decline_iff]
  refine fun opening => (commits_many classItem_progresses).bind fun items =>
    (commits_orFail _ _).bind fun closing => ?_
  dsimp only
  split
  · exact commits_pure _
  · exact commits_fail _

end PatternSyntax.Grammar
