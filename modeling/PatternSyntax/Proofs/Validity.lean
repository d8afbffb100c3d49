import PatternSyntax.Proofs.Nodes
import PatternSyntax.Proofs.Sources

/-!
# Valid trees

What holds of every node of a tree, whatever tokens it was read from. Nothing is asked
of the tokens: their spans may lie anywhere, and their texts need not fit their kinds.

The shape of a node follows from how loosely its operator binds. Members of a row bind
more tightly than the row, so that a row never stands directly inside a row of the same
kind, and statements stand only where a whole expression is read. The numbers of a node
lie within the limits that are checked where it is read.
-/

namespace PatternSyntax

open Grammar

/-! ## Valid nodes -/

def ClassItem.IsValid : ClassItem → Prop
  | .range first last => first ≤ last
  | .char _ | .named _ _ _ _ => True

def CharClass.IsValid (members : CharClass) : Prop :=
  members.items ≠ [] ∧ ∀ item ∈ members.items, item.IsValid

def Bounds.IsValid (bounds : Bounds) : Prop :=
  bounds.lower ≤ 65535 ∧ ∀ upper ∈ bounds.upper, upper ≤ 65535 ∧ bounds.lower ≤ upper

def GroupKind.IsValid : GroupKind → Prop
  | .named name => name.toList.length ≤ 128 ∧ name.toList.all Char.isAlphanum
  | .plain | .capturing | .atomic => True

def ReferenceTarget.IsValid : ReferenceTarget → Prop
  | .number index => index ≤ 65535
  | .named _ | .relative _ => True

def CaptureLabel.IsValid : CaptureLabel → Prop
  | .number index => index ≤ 65535
  | .name _ => True

def TestMatch.IsValid (expected : TestMatch) : Prop :=
  ∀ capture ∈ expected.captures, capture.label.IsValid

def TestCase.IsValid : TestCase → Prop
  | .whole expected => expected.IsValid
  | .within _ expected _ => ∀ value ∈ expected, value.IsValid
  | .reject _ _ _ => True

def Directive.IsValid : Directive → Prop
  | .toggle _ _ _ => True
  | .tests cases _ => ∀ case ∈ cases, case.IsValid

namespace Pattern

/-- How loosely the outermost operator binds. What stands by itself binds most tightly,
and a statement reaches over all that follows it. -/
def looseness : Pattern → Nat
  | .repetition _ _ _ _ => 1
  | .sequence _ _ => 2
  | .intersection _ _ => 3
  | .alternation _ _ => 4
  | .directed _ _ _ | .binding _ _ _ _ _ => 5
  | _ => 0

/-- The node by itself is valid. What lies in parentheses, behind a lookaround or behind
a statement may be anything; other members have to bind more tightly. -/
def IsValid : Pattern → Prop
  | .charClass members => members.IsValid
  | .group kind _ _ => kind.IsValid
  | .sequence members _ => 2 ≤ members.length ∧ ∀ member ∈ members, member.looseness < 2
  | .intersection members _ => 2 ≤ members.length ∧ ∀ member ∈ members, member.looseness < 3
  | .alternation members _ => 2 ≤ members.length ∧ ∀ member ∈ members, member.looseness < 4
  | .repetition body bounds _ _ => body.looseness = 0 ∧ bounds.IsValid
  | .negation body _ _ => body.looseness = 0
  | .reference target _ => target.IsValid
  | .numberRange _ _ radix _ => 2 ≤ radix ∧ radix ≤ 36
  | .directed directive _ _ => directive.IsValid
  | .binding _ _ bound _ _ => bound.looseness < 5
  | _ => True

/-- The pattern holds the body as a whole expression. -/
def Encloses : Pattern → Pattern → Prop
  | .group _ inner _, body | .lookaround _ inner _, body | .directed _ inner _, body
  | .binding _ _ _ inner _, body => inner = body
  | _, _ => False

theorem isStated_iff {pattern : Pattern} : pattern.isStated ↔ pattern.looseness = 5 := by
  cases pattern <;> simp [isStated, looseness]

/-- In a valid node statements stand only where a whole expression is read. -/
theorem IsValid.encloses {pattern : Pattern} {modes : Modes} {child : Node} (valid : pattern.IsValid)
    (isChild : child ∈ pattern.children modes) (stated : child.pattern.isStated) :
    pattern.Encloses child.pattern := by
  rw [isStated_iff] at stated
  cases pattern with
  | sequence | intersection | alternation =>
    obtain ⟨member, isMember, rfl⟩ := List.mem_map.mp isChild
    have tight := valid.2 member isMember
    dsimp only at stated
    omega
  | repetition =>
    obtain rfl := List.mem_singleton.mp isChild
    have tight := valid.1
    dsimp only at stated
    omega
  | negation =>
    obtain rfl := List.mem_singleton.mp isChild
    exact absurd (valid.symm.trans stated) (by decide)
  | group | lookaround | directed =>
    obtain rfl := List.mem_singleton.mp isChild
    rfl
  | binding =>
    rcases List.mem_cons.mp isChild with rfl | isBody
    · exact absurd stated (Nat.ne_of_lt valid)
    · obtain rfl := List.mem_singleton.mp isBody
      rfl
  | _ => cases isChild

theorem looseness_alternationOf {start : Span} {first : Pattern} {more : List Pattern}
    (tight : first.looseness < 4) : (alternationOf start first more).looseness < 5 := by
  cases more with
  | nil => exact Nat.lt_succ_of_lt tight
  | cons second more => exact Nat.lt_succ_self 4

theorem looseness_intersectionOf {span : Span} {first : Pattern} {more : List Pattern}
    (tight : first.looseness < 3) : (intersectionOf span first more).looseness < 4 := by
  cases more with
  | nil => exact Nat.lt_succ_of_lt tight
  | cons second more => exact Nat.lt_succ_self 3

theorem looseness_sequenceOf {first : Pattern} {more : List Pattern}
    (tight : first.looseness < 2) : (sequenceOf first more).looseness < 3 := by
  cases more with
  | nil => exact Nat.lt_succ_of_lt tight
  | cons second more =>
    rw [sequenceOf_cons]
    exact Nat.lt_succ_self 2

theorem looseness_negate (notSpan : Span) (count : Nat) {body : Pattern}
    (tight : body.looseness = 0) : (negate notSpan count body).looseness = 0 := by
  induction count generalizing body with
  | zero => exact tight
  | succ count inductionHypothesis => exact inductionHypothesis rfl

end Pattern

/-! ## How loosely phrases bind -/

/-- A phrase binds as loosely as its place in the grammar allows. -/
def Phrase.Binds : Phrase → Prop
  | .expression _ | .statement (.directive _) => True
  | .statement (.binding _ _ bound) => bound.looseness < 5
  | .alternation pattern => pattern.looseness < 5
  | .moreAlternatives patterns => ∀ pattern ∈ patterns, pattern.looseness < 4
  | .intersection pattern => pattern.looseness < 4
  | .moreOperands patterns => ∀ pattern ∈ patterns, pattern.looseness < 3
  | .sequence pattern => pattern.looseness < 3
  | .moreTerms patterns => ∀ pattern ∈ patterns, pattern.looseness < 2
  | .term pattern => pattern.looseness < 2
  | .negation pattern | .operand pattern => pattern.looseness = 0

variable {modes : Modes} {lexemes : List Lexeme}

theorem Spells.binds {phrase : Phrase} (spells : Spells modes phrase lexemes) : phrase.Binds := by
  induction spells with
  | bare | stated | directive => trivial
  | binding _ _ _ _ _ tight => exact tight
  | nothing => exact Nat.zero_lt_succ 4
  | alternatives _ _ _ tight _ => exact Pattern.looseness_alternationOf tight
  | intersected _ _ _ tight _ => exact Pattern.looseness_intersectionOf tight
  | terms _ _ tight _ => exact Pattern.looseness_sequenceOf tight
  | noAlternative | noOperand | noTerm => exact List.forall_mem_nil _
  | nextAlternative _ _ _ tight tightMore | nextOperand _ _ _ tight tightMore
  | nextTerm _ _ tight tightMore => exact List.forall_mem_cons.mpr ⟨tight, tightMore⟩
  | once _ tight => exact Nat.lt_of_le_of_lt (Nat.le_of_eq tight) (by decide)
  | repeated => exact Nat.lt_succ_self 1
  | negated _ _ tight => exact Pattern.looseness_negate _ _ tight
  | lookaround | group => rfl
  | atom spells => cases spells <;> rfl

/-! ## Valid parts -/

theorem Grammar.SpellsItems.isValid {items : List ClassItem} (spells : SpellsItems items lexemes) :
    ∀ item ∈ items, item.IsValid := by
  cases spells with
  | @unit unit lexeme spells =>
    cases unit with
    | char c => exact List.forall_mem_singleton.mpr trivial
    | text content =>
      intro item isItem
      obtain ⟨c, -, rfl⟩ := List.mem_map.mp isItem
      trivial
  | range _ _ _ _ _ ordered => exact List.forall_mem_singleton.mpr ordered
  | named | qualified => exact List.forall_mem_singleton.mpr trivial

theorem Grammar.SpellsClass.isValid {unicode : Bool} {members : CharClass}
    (spells : SpellsClass unicode members lexemes) : members.IsValid := by
  refine ⟨members.items_ne_nil, ?_⟩
  cases spells with
  | brackets opens spells nonempty closes =>
    intro item isItem
    obtain ⟨part, isPart, isItem⟩ := List.mem_flatten.mp isItem
    exact spells.forall_values (fun _ _ => SpellsItems.isValid) part isPart item isItem

theorem Grammar.SpellsOpening.isValid {kind : GroupKind} (spells : SpellsOpening kind lexemes) :
    kind.IsValid := by
  cases spells with
  | named _ _ alphanumeric short _ => exact ⟨short, alphanumeric⟩
  | plain | capturing | atomic => trivial

theorem Grammar.SpellsTarget.isValid {target : ReferenceTarget}
    (spells : SpellsTarget target lexemes) : target.IsValid := by
  cases spells with
  | number isCount => exact isCount.le_maxCount
  | forward | backward | named => trivial

theorem Grammar.SpellsAtom.isValid {unicode : Bool} {pattern : Pattern}
    (spells : SpellsAtom unicode pattern lexemes) : pattern.IsValid := by
  cases spells with
  | charClass spells => exact spells.isValid
  | codePoint => exact ⟨List.cons_ne_nil _ _, List.forall_mem_singleton.mpr trivial⟩
  | reference _ spells => exact spells.isValid
  | decimalRange => exact ⟨by decide, by decide⟩
  | basedRange _ _ _ _ _ _ _ inRange => exact inRange
  | literal | boundary | regex | use | recursion | dot => trivial

theorem Grammar.SpellsCapture.isValid {capture : Capture} (spells : SpellsCapture capture lexemes) :
    capture.label.IsValid := by
  cases spells with
  | capture spellsLabel _ _ =>
    cases spellsLabel with
    | number isCount => exact isCount.le_maxCount
    | name _ => trivial

theorem Grammar.SpellsMatch.isValid {expected : TestMatch} (spells : SpellsMatch expected lexemes) :
    expected.IsValid := by
  have separated (capture : Capture) (part : List Lexeme)
      (spells : SpellsSeparatedCapture capture part) : capture.label.IsValid := by
    obtain ⟨inner, comma, spells, -, rfl⟩ := spells
    exact spells.isValid
  cases spells with
  | expected _ spells =>
    cases spells with
    | unlisted => exact List.forall_mem_nil _
    | separated _ _ spells _ => exact spells.forall_values separated
    | listed _ _ spells spellsLast _ =>
      intro capture isIn
      rcases List.mem_append.mp isIn with inFront | isLast
      · exact spells.forall_values separated capture inFront
      · rw [List.mem_singleton.mp isLast]
        exact spellsLast.isValid

theorem Grammar.SpellsMatches.isValid {expected : List TestMatch}
    (spells : SpellsMatches expected lexemes) : ∀ value ∈ expected, value.IsValid := by
  cases spells with
  | nil => exact List.forall_mem_nil _
  | cons spellsFirst spellsMore =>
    refine List.forall_mem_cons.mpr ⟨spellsFirst.isValid, spellsMore.forall_values ?_⟩
    rintro value _ ⟨comma, inner, -, spells, rfl⟩
    exact spells.isValid

theorem Grammar.SpellsCase.isValid {case : TestCase} (spells : SpellsCase case lexemes) :
    case.IsValid := by
  cases spells with
  | whole _ spells _ => exact spells.isValid
  | within _ spells _ _ _ => exact spells.isValid
  | reject => trivial

theorem Grammar.SpellsDirective.isValid {directive : Directive}
    (spells : SpellsDirective directive lexemes) : directive.IsValid := by
  cases spells with
  | toggle => trivial
  | tests spells =>
    cases spells with
    | block _ _ spells _ => exact spells.forall_values fun _ _ => SpellsCase.isValid

/-! ## Valid trees -/

theorem Spells.isValid_scope {statement : Statement}
    (spells : Spells modes (.statement statement) lexemes) (body : Pattern) (span : Span) :
    (statement.scope body span).IsValid := by
  cases spells with
  | directive spells => exact spells.isValid
  | binding _ _ _ spells _ => exact spells.binds

theorem Pattern.isValid_negate (notSpan : Span) (count : Nat) {body : Pattern}
    (tight : body.looseness = 0) : (negate notSpan (count + 1) body).IsValid := by
  rw [negate_succ]
  exact looseness_negate notSpan count tight

/-- What is spelled is valid. -/
theorem Spells.isValid {phrase : Phrase} (spells : Spells modes phrase lexemes) :
    phrase.Satisfies Pattern.IsValid := by
  induction spells with
  | bare _ valid | once _ valid => exact valid
  | stated spells => exact spells.isValid_scope _ _
  | directive | binding | nothing | noAlternative | nextAlternative | noOperand | nextOperand
  | noTerm | nextTerm | lookaround => trivial
  | @alternatives _ _ _ more _ _ _ spells spellsMore valid _
  | @intersected _ _ _ more _ _ _ spells spellsMore valid _ =>
    cases more with
    | nil => exact valid
    | cons second more =>
      exact ⟨Nat.le_add_left 2 _, List.forall_mem_cons.mpr ⟨spells.binds, spellsMore.binds⟩⟩
  | @terms _ _ more _ _ spells spellsMore valid _ =>
    cases more with
    | nil => exact valid
    | cons second more =>
      rw [Phrase.Satisfies, Pattern.sequenceOf_cons]
      exact ⟨Nat.le_add_left 2 _, List.forall_mem_cons.mpr ⟨spells.binds, spellsMore.binds⟩⟩
  | repeated spells spellsBounds => exact ⟨spells.binds, spellsBounds.inRange⟩
  | @negated _ bangs _ _ _ spells valid =>
    rw [Phrase.Satisfies]
    cases bangs.length with
    | zero => exact valid
    | succ count => exact Pattern.isValid_negate _ _ spells.binds
  | group spellsOpening => exact spellsOpening.isValid
  | atom spells => exact spells.isValid

theorem Spells.isValid_nodes {phrase : Phrase} (spells : Spells modes phrase lexemes) :
    ∀ node ∈ phrase.nodes modes, node.pattern.IsValid :=
  spells.forall_mem_nodes (fun _ _ _ _ spelled => spelled.isValid)
    (fun _ _ _ _ _ spelled count _ => Pattern.isValid_negate _ count spelled.binds)
    (List.infix_refl _)

/-- Every node of a tree is valid, whatever tokens it was read from, and statements stand
only at the root and where a node holds a whole expression. -/
theorem isValid_of_parseTokens {source : String} {tokens : List Token} {options : Options}
    {tree : Pattern} (read : parseTokens source tokens options = .ok tree) :
    ∀ node ∈ tree.nodes options.modes, node.pattern.IsValid ∧
      ∀ child ∈ node.pattern.children node.modes, child.pattern.isStated →
        node.pattern.Encloses child.pattern := by
  intro node member
  have valid := (spells_of_parseTokens read).isValid_nodes node member
  exact ⟨valid, fun child isChild => valid.encloses isChild⟩

/-- Tokens that are out of order, overlap or hold nothing are read as `a{2,}|2a`. -/
theorem isValid_of_scattered_tokens :
    ∃ tree, parseTokens "2a" [⟨.identifier, ⟨1, 2⟩⟩, ⟨.openBrace, ⟨0, 0⟩⟩, ⟨.number, ⟨0, 1⟩⟩,
        ⟨.comma, ⟨0, 0⟩⟩, ⟨.closeBrace, ⟨1, 1⟩⟩, ⟨.pipe, ⟨0, 1⟩⟩, ⟨.identifier, ⟨0, 2⟩⟩] {} =
        .ok tree ∧
      ∀ node ∈ tree.nodes Modes.initial, node.pattern.IsValid ∧
        ∀ child ∈ node.pattern.children node.modes, child.pattern.isStated →
          node.pattern.Encloses child.pattern := by
  have read : parseTokens "2a" [⟨.identifier, ⟨1, 2⟩⟩, ⟨.openBrace, ⟨0, 0⟩⟩, ⟨.number, ⟨0, 1⟩⟩,
      ⟨.comma, ⟨0, 0⟩⟩, ⟨.closeBrace, ⟨1, 1⟩⟩, ⟨.pipe, ⟨0, 1⟩⟩, ⟨.identifier, ⟨0, 2⟩⟩] {} =
      .ok (.alternation [.repetition (.use "a" ⟨1, 2⟩) ⟨2, none⟩ .defaultGreedy ⟨1, 2⟩,
        .use "2a" ⟨0, 2⟩] ⟨0, 2⟩) := by cbv
  exact ⟨_, read, isValid_of_parseTokens read⟩

end PatternSyntax
