import PatternSyntax.Proofs.CodePoints

/-!
# Members of character classes

Between square brackets a lexeme means something only together with its neighbours: a text is a
list of characters or an end of a range, and a name is a control character, a set or the
qualifier of a set. Still a class is read in one way. It is read exactly if what stands before
the first closing bracket falls into parts, and its members are those that the parts contribute,
one after the other.
-/

namespace PatternSyntax

open Grammar Recognition Text
open PatternSyntax.Parser

/-! ## Parts of a class -/

/-- The names that are control characters in a class. -/
def controlNames : List (String × Char) :=
  [("n", '\n'), ("r", '\r'), ("t", '\t'), ("a", '\x07'), ("e", '\x1b'), ("f", '\x0c')]

/-- The lexeme stands for the characters: a text for those that it says, a code point for the
one whose code its digits denote, and a name for a control character. -/
inductive StandsFor : List Char → Lexeme → Prop
  | text {lexeme : Lexeme} (isString : lexeme.kind = .string) :
      StandsFor (Quoted.decode lexeme.text.toList) lexeme
  | codePoint {lexeme : Lexeme} {before after digits : List Char} {c : Char}
      (isCodePoint : lexeme.kind = .codePoint) (spells : SpellsCodePoint before after digits)
      (text_eq : lexeme.text.toList = codePointText before after digits)
      (denotes : Numeral.denoted 16 digits = c.toNat) : StandsFor [c] lexeme
  | control {lexeme : Lexeme} {c : Char} (isName : lexeme.kind = .identifier)
      (isControl : (lexeme.text, c) ∈ controlNames) : StandsFor [c] lexeme

/-- The lexeme is a name, and no control character. -/
def IsSetName (lexeme : Lexeme) : Prop :=
  lexeme.kind = .identifier ∧ lexeme.text ∉ controlNames.map Prod.fst

/-- What a part of a class contributes to its members. -/
inductive Contributes : List ClassItem → List Lexeme → Prop
  | characters {lexeme : Lexeme} {chars : List Char} (stands : StandsFor chars lexeme) :
      Contributes (chars.map .char) [lexeme]
  | range {first dash last : Lexeme} {lower upper : Char} (standsFirst : StandsFor [lower] first)
      (isDash : dash.kind = .dash) (standsLast : StandsFor [upper] last) (ordered : lower ≤ upper) :
      Contributes [.range lower upper] [first, dash, last]
  | named {bang : Option Lexeme} {name : Lexeme} (isBang : ∀ lexeme ∈ bang, lexeme.kind = .bang)
      (isSet : IsSetName name) :
      Contributes [.named name.text none bang.isSome name.span] (bang.toList ++ [name])
  | qualified {bang : Option Lexeme} {qualifier colon name : Lexeme}
      (isBang : ∀ lexeme ∈ bang, lexeme.kind = .bang) (isSet : IsSetName qualifier)
      (isColon : colon.kind = .colon) (isName : name.kind = .identifier) :
      Contributes
        [.named name.text (some qualifier.text) bang.isSome (qualifier.span.join name.span)]
        (bang.toList ++ [qualifier, colon, name])

/-! ## Names -/

theorem controlChar?_eq_some_iff {name : String} {c : Char} :
    controlChar? name = some c ↔ (name, c) ∈ controlNames := by
  simp only [controlNames, List.mem_cons, Prod.mk.injEq, List.not_mem_nil, or_false]
  constructor
  · intro isControl
    unfold controlChar? at isControl
    repeat' split at isControl
    all_goals cases isControl <;> simp_all
  · rintro (⟨rfl, rfl⟩ | ⟨rfl, rfl⟩ | ⟨rfl, rfl⟩ | ⟨rfl, rfl⟩ | ⟨rfl, rfl⟩ | ⟨rfl, rfl⟩) <;> rfl

theorem controlChar?_eq_none_iff {name : String} :
    controlChar? name = none ↔ name ∉ controlNames.map Prod.fst := by
  rw [Option.eq_none_iff_forall_ne_some]
  simp only [ne_eq, controlChar?_eq_some_iff, List.mem_map, Prod.exists, not_exists]
  constructor
  · rintro noControl other c ⟨member, rfl⟩
    exact noControl c member
  · intro noControl c member
    exact noControl name c ⟨member, rfl⟩

/-! ## Units -/

/-- The characters that the unit gives by itself. -/
def Grammar.ClassUnit.chars : ClassUnit → List Char
  | .text content => content
  | .char c => [c]

theorem items_eq_map_chars (unit : ClassUnit) : unit.items = unit.chars.map .char := by
  cases unit <;> rfl

theorem isChar_iff {unit : ClassUnit} {c : Char} : unit.IsChar c ↔ unit.chars = [c] := by
  cases unit <;> simp [ClassUnit.IsChar, ClassUnit.chars]

variable {source : String} {lexeme : Lexeme}

theorem Grammar.SpellsUnit.standsFor (short : utf8Size source.toList < 2 ^ 32)
    (member : lexeme ∈ lexemesOf source) {unit : ClassUnit} (spells : SpellsUnit unit lexeme) :
    StandsFor unit.chars lexeme := by
  cases spells with
  | text isString => exact .text isString
  | @codePoint _ c isCodePoint readable =>
    obtain ⟨before, after, digits, spells, text_eq⟩ :=
      exists_spellsCodePoint short member isCodePoint
    rw [text_eq, spells.codePointChar?_eq, scalar?_eq_some_iff] at readable
    exact .codePoint isCodePoint spells text_eq readable
  | control isName isControl => exact .control isName (controlChar?_eq_some_iff.mp isControl)

theorem StandsFor.exists_spellsUnit {chars : List Char} (stands : StandsFor chars lexeme) :
    ∃ unit, SpellsUnit unit lexeme ∧ unit.chars = chars := by
  cases stands with
  | text isString => exact ⟨_, .text isString, rfl⟩
  | codePoint isCodePoint spells text_eq denotes =>
    refine ⟨.char _, .codePoint isCodePoint ?_, rfl⟩
    rw [text_eq, spells.codePointChar?_eq, scalar?_eq_some_iff, denotes]
  | control isName isControl =>
    exact ⟨.char _, .control isName (controlChar?_eq_some_iff.mpr isControl), rfl⟩

/-! ## Spelled parts -/

theorem isSetName_iff {name : Lexeme} :
    IsSetName name ↔ name.kind = .identifier ∧ controlChar? name.text = none := by
  rw [controlChar?_eq_none_iff, IsSetName]

theorem Grammar.SpellsItems.contributes (short : utf8Size source.toList < 2 ^ 32)
    {items : List ClassItem} {lexemes : List Lexeme}
    (members : ∀ lexeme ∈ lexemes, lexeme ∈ lexemesOf source)
    (spells : SpellsItems items lexemes) : Contributes items lexemes := by
  cases spells with
  | unit spells =>
    rw [items_eq_map_chars]
    exact .characters (spells.standsFor short (members _ (by simp)))
  | range spellsFirst isLower isDash spellsLast isUpper ordered =>
    have standsFirst := spellsFirst.standsFor short (members _ (by simp))
    have standsLast := spellsLast.standsFor short (members _ (by simp))
    rw [isChar_iff.mp isLower] at standsFirst
    rw [isChar_iff.mp isUpper] at standsLast
    exact .range standsFirst isDash standsLast ordered
  | named isBang isName ordinary => exact .named isBang (isSetName_iff.mpr ⟨isName, ordinary⟩)
  | qualified isBang isQualifier ordinary isColon isName =>
    exact .qualified isBang (isSetName_iff.mpr ⟨isQualifier, ordinary⟩) isColon isName

theorem Contributes.spellsItems {items : List ClassItem} {lexemes : List Lexeme}
    (contributes : Contributes items lexemes) : SpellsItems items lexemes := by
  cases contributes with
  | characters stands =>
    obtain ⟨unit, spells, rfl⟩ := stands.exists_spellsUnit
    rw [← items_eq_map_chars]
    exact .unit spells
  | range standsFirst isDash standsLast ordered =>
    obtain ⟨first, spellsFirst, isLower⟩ := standsFirst.exists_spellsUnit
    obtain ⟨last, spellsLast, isUpper⟩ := standsLast.exists_spellsUnit
    exact .range spellsFirst (isChar_iff.mpr isLower) isDash spellsLast (isChar_iff.mpr isUpper)
      ordered
  | named isBang isSet =>
    obtain ⟨isName, ordinary⟩ := isSetName_iff.mp isSet
    exact .named isBang isName ordinary
  | qualified isBang isSet isColon isName =>
    obtain ⟨isQualifier, ordinary⟩ := isSetName_iff.mp isSet
    exact .qualified isBang isQualifier ordinary isColon isName

/-- No part goes over a closing bracket. -/
theorem Contributes.ne_closeBracket {items : List ClassItem} {lexemes : List Lexeme}
    (contributes : Contributes items lexemes) :
    ∀ lexeme ∈ lexemes, lexeme.kind ≠ .closeBracket := by
  have ofUnit {chars : List Char} {lexeme : Lexeme} (stands : StandsFor chars lexeme) :
      lexeme.kind ≠ .closeBracket := by
    cases stands <;> simp_all
  cases contributes with
  | characters stands => simpa using ofUnit stands
  | range standsFirst isDash standsLast _ =>
    simp [ofUnit standsFirst, isDash, ofUnit standsLast]
  | @named bang name isBang isSet =>
    cases bang <;> simp_all [IsSetName]
  | @qualified bang qualifier colon name isBang isSet isColon isName =>
    cases bang <;> simp_all [IsSetName]

/-! ## Classes -/

variable {cursor : Cursor} {opening : Lexeme} {rest : List Lexeme} {unicode : Bool}

/-- What follows the opening bracket is read as the class: parts up to the first closing bracket,
with at least one member, and the members are those of the parts in their order. -/
def IsClassBody (unicode : Bool) (opening : Lexeme) (rest : List Lexeme) (pattern : Pattern)
    (after : Cursor) : Prop :=
  ∃ inner closing parts, rest = inner ++ closing :: after.rest ∧
    (∀ lexeme ∈ inner, lexeme.kind ≠ .closeBracket) ∧ closing.kind = .closeBracket ∧
    Each Contributes parts inner ∧ after.previous = closing.span ∧
    ∃ nonempty : parts.flatten ≠ [],
      pattern = .charClass ⟨parts.flatten, unicode, opening.span.join closing.span, nonempty⟩

theorem charClass_eq_accept_iff_isClassBody (short : utf8Size source.toList < 2 ^ 32)
    (ofSource : cursor.rest <:+ lexemesOf source) (begins : cursor.rest = opening :: rest)
    (opens : opening.kind = .openBracket) {pattern : Pattern} {after : Cursor} :
    charClass unicode cursor = .accept pattern after ↔
      IsClassBody unicode opening rest pattern after ∧ after.finish = cursor.finish := by
  have members : ∀ lexeme ∈ rest, lexeme ∈ lexemesOf source := by
    intro lexeme member
    exact ofSource.subset (by rw [begins]; exact List.mem_cons_of_mem _ member)
  rw [charClass_eq_accept_iff]
  constructor
  · rintro ⟨_, _, rfl, @⟨first, closing, parts, inner, -, spells, nonempty, closes⟩, reads⟩
    obtain ⟨split, previous, finish⟩ := Cursor.reads_concat_iff.mp reads
    obtain ⟨rfl, rfl⟩ := List.cons_eq_cons.mp (begins.symm.trans split)
    have contributes : Each Contributes parts inner :=
      (spells.with_all fun lexeme member => members lexeme (List.mem_append_left _ member)).mono
        fun _ _ spelled => spelled.1.contributes short spelled.2
    exact ⟨⟨inner, closing, parts, rfl, contributes.forall_lexemes fun _ _ => (·.ne_closeBracket),
      closes, contributes, previous, nonempty, rfl⟩, finish⟩
  · rintro ⟨⟨inner, closing, parts, rfl, -, closes, contributes, previous, nonempty, rfl⟩, finish⟩
    have spells : Each SpellsItems parts inner := contributes.mono fun _ _ => (·.spellsItems)
    exact ⟨_, _, rfl, .brackets opens spells nonempty closes,
      Cursor.reads_concat_iff.mpr ⟨begins, previous, finish⟩⟩

/-- The lexeme is a text that says nothing. -/
def IsEmptyText (lexeme : Lexeme) : Prop :=
  lexeme.kind = .string ∧ Quoted.decode lexeme.text.toList = []

/-- Empty texts are read as parts of a class, and none of them contributes a member. -/
theorem charClass_of_empty_texts {inner : List Lexeme} {closing : Lexeme} {after : Cursor}
    (opens : opening.kind = .openBracket) (empty : ∀ lexeme ∈ inner, IsEmptyText lexeme)
    (closes : closing.kind = .closeBracket)
    (reads : cursor.Reads ([opening] ++ inner ++ [closing]) after) :
    charClass unicode cursor = .fail (.ofFault .emptyClass (opening.span.join closing.span)) := by
  obtain ⟨beforeClosing, reads, readsClosing⟩ := Cursor.reads_append_iff.mp reads
  obtain ⟨afterOpening, readsOpening, readsInner⟩ := Cursor.reads_append_iff.mp reads
  have spells : Each SpellsItems (inner.map fun _ => []) inner := by
    have each := @each_of_forall _ _ SpellsItems (fun _ => []) (fun lexeme => [lexeme]) inner
      fun lexeme member => by
        have spells := SpellsItems.unit (.text (empty lexeme member).1)
        rwa [(empty lexeme member).2] at spells
    simpa using each
  have repeats : Repeats classItem afterOpening (inner.map fun _ => []) beforeClosing := by
    refine spells.repeats EndsClassItem
      (fun _ _ _ _ spells reads ends => classItem_of_spellsItems spells reads ends)
      (fun _ _ rest spells => spells.endsClassItem rest) readsInner ?_
      (classItem_eq_decline closes readsClosing.rest)
    simp [EndsClassItem, readsClosing.rest, closes]
  have noMember : (inner.map fun _ => ([] : List ClassItem)).flatten = [] := by simp
  rw [charClass]
  refine bind_eq_fail_of_accept (accept_eq_accept_iff.mpr ⟨opens, readsOpening⟩) ?_
  refine bind_eq_fail_of_accept ((many_eq_accept_iff classItem_progresses).mpr repeats) ?_
  refine bind_eq_fail_of_accept
    (orFail_eq_accept_iff.mpr (accept_eq_accept_iff.mpr ⟨closes, readsClosing⟩)) ?_
  simp only [noMember, CharClass.ofItems?_eq_none_iff.mpr]
  rfl

/-- A class of a source is read exactly if it falls into parts, and has the members of its parts.
If there are only empty texts in it, that is reported of the whole class. -/
theorem class_members_are_those_of_parts (short : utf8Size source.toList < 2 ^ 32)
    (ofSource : cursor.rest <:+ lexemesOf source) (begins : cursor.rest = opening :: rest)
    (opens : opening.kind = .openBracket) :
    (∀ pattern after, charClass unicode cursor = .accept pattern after ↔
        IsClassBody unicode opening rest pattern after ∧ after.finish = cursor.finish) ∧
      ∀ inner closing more, rest = inner ++ closing :: more →
        (∀ lexeme ∈ inner, IsEmptyText lexeme) → closing.kind = .closeBracket →
        charClass unicode cursor =
          .fail (.ofFault .emptyClass (opening.span.join closing.span)) := by
  refine ⟨fun pattern after => charClass_eq_accept_iff_isClassBody short ofSource begins opens, ?_⟩
  rintro inner closing more rfl empty closes
  have reads : cursor.Reads ([opening] ++ inner ++ [closing]) ⟨more, closing.span, cursor.finish⟩ :=
    Cursor.reads_concat_iff.mpr ⟨begins, rfl, rfl⟩
  exact charClass_of_empty_texts opens empty closes reads

set_option maxRecDepth 4000 in
/-- A class of an empty text, a range and a negated set, and a class of two empty texts. -/
theorem class_members_are_those_of_parts_of_mixed :
    (charClass false ⟨lexemesOf "['' 'a'-'z' !w]", .absent, ⟨15, 15⟩⟩ =
        .accept (.charClass ⟨[.range 'a' 'z', .named "w" none true ⟨13, 14⟩], false, ⟨0, 15⟩,
          List.cons_ne_nil _ _⟩) ⟨[], ⟨14, 15⟩, ⟨15, 15⟩⟩) ∧
      charClass true ⟨lexemesOf "['' '']", .absent, ⟨7, 7⟩⟩ =
        .fail (.ofFault .emptyClass ⟨0, 7⟩) := by
  have mixed_eq : lexemesOf "['' 'a'-'z' !w]" =
      [⟨.openBracket, "[", ⟨0, 1⟩⟩, ⟨.string, "''", ⟨1, 3⟩⟩, ⟨.string, "'a'", ⟨4, 7⟩⟩,
        ⟨.dash, "-", ⟨7, 8⟩⟩, ⟨.string, "'z'", ⟨8, 11⟩⟩, ⟨.bang, "!", ⟨12, 13⟩⟩,
        ⟨.identifier, "w", ⟨13, 14⟩⟩, ⟨.closeBracket, "]", ⟨14, 15⟩⟩] := by decide +kernel
  have empty_eq : lexemesOf "['' '']" =
      [⟨.openBracket, "[", ⟨0, 1⟩⟩, ⟨.string, "''", ⟨1, 3⟩⟩, ⟨.string, "''", ⟨4, 6⟩⟩,
        ⟨.closeBracket, "]", ⟨6, 7⟩⟩] := by decide +kernel
  have stands (text : String) (span : Span) (chars : List Char)
      (decoded : Quoted.decode text.toList = chars) : StandsFor chars ⟨.string, text, span⟩ := by
    rw [← decoded]
    exact @StandsFor.text ⟨.string, text, span⟩ rfl
  have emptyText : Contributes [] [⟨.string, "''", ⟨1, 3⟩⟩] :=
    .characters (stands _ _ [] (by decide))
  have range : Contributes [.range 'a' 'z']
      [⟨.string, "'a'", ⟨4, 7⟩⟩, ⟨.dash, "-", ⟨7, 8⟩⟩, ⟨.string, "'z'", ⟨8, 11⟩⟩] :=
    .range (stands _ _ _ (by decide)) rfl (stands _ _ _ (by decide)) (by decide)
  have named : Contributes [.named "w" none true ⟨13, 14⟩]
      [⟨.bang, "!", ⟨12, 13⟩⟩, ⟨.identifier, "w", ⟨13, 14⟩⟩] :=
    @Contributes.named (some ⟨.bang, "!", ⟨12, 13⟩⟩) ⟨.identifier, "w", ⟨13, 14⟩⟩ (by simp)
      ⟨rfl, by decide⟩
  constructor
  · have exact_iff := @class_members_are_those_of_parts "['' 'a'-'z' !w]"
      ⟨lexemesOf "['' 'a'-'z' !w]", .absent, ⟨15, 15⟩⟩ _ _ false (by decide) (List.suffix_refl _)
      mixed_eq rfl
    refine (exact_iff.1 _ _).mpr ⟨⟨_, ⟨.closeBracket, "]", ⟨14, 15⟩⟩, _, ?_, ?_, rfl,
      .cons emptyText (.cons range (.cons named .nil)), rfl, List.cons_ne_nil _ _, rfl⟩, rfl⟩
    · rfl
    · simp
  · have reported := @class_members_are_those_of_parts "['' '']"
      ⟨lexemesOf "['' '']", .absent, ⟨7, 7⟩⟩ _ _ true (by decide) (List.suffix_refl _) empty_eq rfl
    refine reported.2 [_, _] ⟨.closeBracket, "]", ⟨6, 7⟩⟩ [] rfl ?_ rfl
    have decoded : Quoted.decode "''".toList = [] := by decide
    have empty (span : Span) : IsEmptyText ⟨.string, "''", span⟩ := ⟨rfl, decoded⟩
    simp [empty]

end PatternSyntax
