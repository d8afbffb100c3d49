import PatternSyntax.Proofs.Canonical

/-!
# Nodes

The parts of a tree at every depth, each with the modes in force where it begins.
What is bound by a statement is a part like what the statement applies to. A
negation inside a negation is marked, since both cover all exclamation marks and
have no text of their own.
-/

namespace PatternSyntax

/-- A part of a tree. -/
structure Node where
  pattern : Pattern
  /-- The modes before the first statement of the pattern. -/
  modes : Modes
  /-- The pattern is what an exclamation mark is put to. -/
  negated : Bool

namespace Pattern

/-- The pattern negates another one. -/
def isNegation : Pattern → Bool
  | .negation _ _ _ => true
  | _ => false

mutual

/-- All parts of a pattern besides itself. -/
def parts (modes : Modes) : Pattern → List Node
  | .group _ body _ => ⟨body, modes, false⟩ :: body.parts modes
  | .sequence members _ => partsOfAll modes members
  | .alternation members _ => partsOfAll modes members
  | .intersection members _ => partsOfAll modes members
  | .repetition body _ _ _ => ⟨body, modes, false⟩ :: body.parts modes
  | .lookaround _ body _ => ⟨body, modes, false⟩ :: body.parts modes
  | .negation body _ _ => ⟨body, modes, true⟩ :: body.parts modes
  | .directed directive body _ =>
    ⟨body, (Statement.directive directive).modes modes, false⟩ ::
      body.parts ((Statement.directive directive).modes modes)
  | .binding _ _ bound body _ =>
    (⟨bound, modes, false⟩ :: bound.parts modes) ++ (⟨body, modes, false⟩ :: body.parts modes)
  | _ => []

/-- The patterns with all of their parts. -/
def partsOfAll (modes : Modes) : List Pattern → List Node
  | [] => []
  | member :: members => (⟨member, modes, false⟩ :: member.parts modes) ++ partsOfAll modes members

end

attribute [local simp] parts partsOfAll

/-- The pattern with all of its parts. -/
def nodes (modes : Modes) (pattern : Pattern) : List Node :=
  ⟨pattern, modes, false⟩ :: pattern.parts modes

/-- The pattern is a statement before a statement before nothing. -/
def dangles : Pattern → Bool
  | .directed _ body _ | .binding _ _ _ body _ => body.isStated && body.isVacant
  | _ => false

/-- No part of the pattern is a row of two or more statements before nothing. -/
def IsSettled (modes : Modes) (pattern : Pattern) : Prop :=
  ∀ node ∈ pattern.nodes modes, node.pattern.dangles = false

theorem partsOfAll_cons (modes : Modes) (first : Pattern) (more : List Pattern) :
    partsOfAll modes (first :: more) = first.nodes modes ++ partsOfAll modes more := by
  rw [partsOfAll, nodes]

theorem self_mem_nodes (modes : Modes) (pattern : Pattern) :
    ⟨pattern, modes, false⟩ ∈ pattern.nodes modes :=
  List.mem_cons_self

/-- A pattern that is made of operands has them and itself for its parts. -/
theorem mem_nodes_alternationOf {modes : Modes} {start : Span} {first : Pattern}
    {more : List Pattern} {node : Node} :
    node ∈ (alternationOf start first more).nodes modes ↔
      more ≠ [] ∧ node = ⟨alternationOf start first more, modes, false⟩ ∨
        node ∈ first.nodes modes ∨ node ∈ partsOfAll modes more := by
  cases more with
  | nil => simp [alternationOf]
  | cons second more =>
    rw [alternationOf_cons, nodes, parts, partsOfAll_cons]
    simp

theorem mem_nodes_intersectionOf {modes : Modes} {span : Span} {first : Pattern}
    {more : List Pattern} {node : Node} :
    node ∈ (intersectionOf span first more).nodes modes ↔
      more ≠ [] ∧ node = ⟨intersectionOf span first more, modes, false⟩ ∨
        node ∈ first.nodes modes ∨ node ∈ partsOfAll modes more := by
  cases more with
  | nil => simp [intersectionOf]
  | cons second more =>
    rw [intersectionOf_cons, nodes, parts, partsOfAll_cons]
    simp

theorem mem_nodes_sequenceOf {modes : Modes} {first : Pattern} {more : List Pattern} {node : Node} :
    node ∈ (sequenceOf first more).nodes modes ↔
      more ≠ [] ∧ node = ⟨sequenceOf first more, modes, false⟩ ∨
        node ∈ first.nodes modes ∨ node ∈ partsOfAll modes more := by
  cases more with
  | nil => simp [sequenceOf]
  | cons second more =>
    rw [sequenceOf_cons, nodes, parts, partsOfAll_cons]
    simp

/-- Of the negations in a row only the outermost is not marked. -/
theorem mem_parts_negate {modes : Modes} {notSpan : Span} {count : Nat} {body : Pattern}
    {node : Node} (member : node ∈ (Grammar.negate notSpan (count + 1) body).parts modes) :
    (node.negated ∧ node.pattern.isNegation) ∨ node = ⟨body, modes, true⟩ ∨
      node ∈ body.parts modes := by
  induction count generalizing body with
  | zero =>
    rw [Grammar.negate, Grammar.negate, parts] at member
    exact .inr (List.mem_cons.mp member)
  | succ count inductionHypothesis =>
    rw [Grammar.negate] at member
    rcases inductionHypothesis member with marked | rfl | inside
    · exact .inl marked
    · exact .inl ⟨rfl, rfl⟩
    · rw [parts] at inside
      exact .inr (List.mem_cons.mp inside)

end Pattern

namespace Phrase

/-- The parts of a phrase. -/
def nodes (modes : Modes) : Phrase → List Node
  | .expression pattern | .alternation pattern | .intersection pattern | .sequence pattern
  | .term pattern | .negation pattern | .operand pattern => pattern.nodes modes
  | .statement (.directive _) => []
  | .statement (.binding _ _ bound) => bound.nodes modes
  | .moreAlternatives patterns | .moreOperands patterns | .moreTerms patterns =>
    Pattern.partsOfAll modes patterns

end Phrase

theorem Statement.mem_nodes_scope {modes : Modes} {statement : Statement} {body : Pattern}
    {span : Span} {node : Node} :
    node ∈ (statement.scope body span).nodes modes ↔
      node = ⟨statement.scope body span, modes, false⟩ ∨
        node ∈ (Phrase.statement statement).nodes modes ∨
          node ∈ body.nodes (statement.modes modes) := by
  cases statement with
  | directive content => simp [scope, Pattern.nodes, Pattern.parts, Phrase.nodes]
  | binding name nameSpan bound =>
    simp [scope, Pattern.nodes, Pattern.parts, Phrase.nodes, Statement.modes, or_assoc]

theorem Grammar.negate_succ (notSpan : Span) (count : Nat) (body : Pattern) :
    negate notSpan (count + 1) body = .negation (negate notSpan count body) notSpan
      ((negate notSpan count body).span.join notSpan) := by
  induction count generalizing body with
  | zero => rfl
  | succ count inductionHypothesis => exact inductionHypothesis _

/-- An atom has no parts. -/
theorem Grammar.SpellsAtom.parts_eq_nil {unicode : Bool} {pattern : Pattern} {lexemes : List Lexeme}
    (spells : SpellsAtom unicode pattern lexemes) (modes : Modes) : pattern.parts modes = [] := by
  cases spells <;> rfl

namespace Pattern

/-! ## Children -/

variable {modes : Modes} {pattern body : Pattern}

/-- The parts of a pattern that are parts of no other part. -/
def children (modes : Modes) : Pattern → List Node
  | .group _ body _ | .repetition body _ _ _ | .lookaround _ body _ => [⟨body, modes, false⟩]
  | .negation body _ _ => [⟨body, modes, true⟩]
  | .sequence members _ | .alternation members _ | .intersection members _ =>
    members.map fun member => ⟨member, modes, false⟩
  | .directed directive body _ => [⟨body, (Statement.directive directive).modes modes, false⟩]
  | .binding _ _ bound body _ => [⟨bound, modes, false⟩, ⟨body, modes, false⟩]
  | _ => []

theorem partsOfAll_eq_flatMap (modes : Modes) (patterns : List Pattern) :
    partsOfAll modes patterns = patterns.flatMap (nodes modes) := by
  induction patterns with
  | nil => rw [partsOfAll, List.flatMap_nil]
  | cons first more inductionHypothesis =>
    rw [partsOfAll_cons, inductionHypothesis, List.flatMap_cons]

/-- The parts of a pattern are its children with their parts. -/
theorem parts_eq_flatMap (modes : Modes) (pattern : Pattern) :
    pattern.parts modes = (pattern.children modes).flatMap fun child =>
      child :: child.pattern.parts child.modes := by
  cases pattern with
  | sequence | alternation | intersection =>
    simp only [parts, children, partsOfAll_eq_flatMap, List.flatMap_map]
    rfl
  | _ => simp [parts, children]

theorem sizeOf_lt_of_mem_children {child : Node} (isChild : child ∈ pattern.children modes) :
    sizeOf child.pattern < sizeOf pattern := by
  cases pattern with
  | sequence members | alternation members | intersection members =>
    obtain ⟨member, isMember, rfl⟩ := List.mem_map.mp isChild
    have smaller := List.sizeOf_lt_of_mem isMember
    simp only [sequence.sizeOf_spec, alternation.sizeOf_spec, intersection.sizeOf_spec]
    omega
  | group | repetition | lookaround | negation | directed =>
    obtain rfl := List.mem_singleton.mp isChild
    simp only [group.sizeOf_spec, repetition.sizeOf_spec, lookaround.sizeOf_spec,
      negation.sizeOf_spec, directed.sizeOf_spec]
    omega
  | binding =>
    rw [binding.sizeOf_spec]
    simp only [children, List.mem_cons, List.not_mem_nil, or_false] at isChild
    rcases isChild with rfl | rfl
    · dsimp only
      omega
    · dsimp only
      omega
  | _ => cases isChild

/-- What holds of a pattern and goes over to children holds of all parts. -/
theorem forall_mem_parts {holds : Node → Prop}
    (inherited : ∀ node, holds node → ∀ child ∈ node.pattern.children node.modes, holds child)
    (pattern : Pattern) (modes : Modes) (negated : Bool) (whole : holds ⟨pattern, modes, negated⟩) :
    ∀ node ∈ pattern.parts modes, holds node := by
  rw [parts_eq_flatMap]
  intro node member
  obtain ⟨child, isChild, inside⟩ := List.mem_flatMap.mp member
  have atChild := inherited _ whole child isChild
  rcases List.mem_cons.mp inside with rfl | deeper
  · exact atChild
  · exact forall_mem_parts inherited child.pattern child.modes child.negated atChild node deeper
termination_by sizeOf pattern
decreasing_by exact sizeOf_lt_of_mem_children isChild

theorem forall_mem_nodes {holds : Node → Prop}
    (inherited : ∀ node, holds node → ∀ child ∈ node.pattern.children node.modes, holds child)
    (whole : holds ⟨pattern, modes, false⟩) : ∀ node ∈ pattern.nodes modes, holds node :=
  List.forall_mem_cons.mpr ⟨whole, forall_mem_parts inherited pattern modes false whole⟩

/-- What holds of all nodes of a pattern holds of those of its children. -/
theorem forall_nodes_of_mem_children {holds : Pattern → Prop} {child : Node}
    (all : ∀ node ∈ pattern.nodes modes, holds node.pattern)
    (isChild : child ∈ pattern.children modes) :
    ∀ node ∈ child.pattern.nodes child.modes, holds node.pattern := by
  have inParts : ∀ node ∈ child :: child.pattern.parts child.modes, node ∈ pattern.parts modes := by
    intro node inside
    rw [parts_eq_flatMap]
    exact List.mem_flatMap.mpr ⟨child, isChild, inside⟩
  intro node member
  rcases List.mem_cons.mp member with rfl | inside
  · exact all child (List.mem_cons_of_mem _ (inParts child List.mem_cons_self))
  · exact all node (List.mem_cons_of_mem _ (inParts node (List.mem_cons_of_mem _ inside)))

theorem nodes_subset_partsOfAll {patterns : List Pattern} {member : Pattern}
    (isMember : member ∈ patterns) {node : Node} (inside : node ∈ member.nodes modes) :
    node ∈ partsOfAll modes patterns := by
  rw [partsOfAll_eq_flatMap]
  exact List.mem_flatMap.mpr ⟨member, isMember, inside⟩

/-! ## Canonical parts -/

theorem isCanonical_of_areCanonical {patterns : List Pattern} (canonical : areCanonical patterns) :
    ∀ member ∈ patterns, member.isCanonical := by
  induction patterns with
  | nil => nofun
  | cons first more inductionHypothesis =>
    rw [areCanonical, Bool.and_eq_true] at canonical
    exact List.forall_mem_cons.mpr ⟨canonical.1, inductionHypothesis canonical.2⟩

theorem isCanonical_of_mem_children (canonical : pattern.isCanonical) :
    ∀ child ∈ pattern.children modes, child.pattern.isCanonical := by
  intro child isChild
  cases pattern with
  | sequence members | alternation members | intersection members =>
    obtain ⟨member, isMember, rfl⟩ := List.mem_map.mp isChild
    rw [isCanonical, Bool.and_eq_true] at canonical
    exact isCanonical_of_areCanonical canonical.2 member isMember
  | group | lookaround | negation | directed =>
    obtain rfl := List.mem_singleton.mp isChild
    rwa [isCanonical] at canonical
  | repetition =>
    obtain rfl := List.mem_singleton.mp isChild
    rw [isCanonical, Bool.and_eq_true] at canonical
    exact canonical.2
  | binding =>
    rw [isCanonical, Bool.and_eq_true] at canonical
    simp only [children, List.mem_cons, List.not_mem_nil, or_false] at isChild
    rcases isChild with rfl | rfl
    · exact canonical.1
    · exact canonical.2
  | _ => cases isChild

theorem isCanonical_of_mem_nodes (canonical : pattern.isCanonical) :
    ∀ node ∈ pattern.nodes modes, node.pattern.isCanonical :=
  @forall_mem_nodes modes pattern (fun node => node.pattern.isCanonical)
    (fun _ => isCanonical_of_mem_children) canonical

/-! ## Nesting of parts -/

theorem nesting_le_greatestNesting {patterns : List Pattern} {member : Pattern}
    (isMember : member ∈ patterns) : member.nesting ≤ greatestNesting patterns := by
  induction patterns with
  | nil => cases isMember
  | cons first more inductionHypothesis =>
    rw [greatestNesting]
    rcases List.mem_cons.mp isMember with rfl | isLater
    · exact Nat.le_max_left _ _
    · exact Nat.le_trans (inductionHypothesis isLater) (Nat.le_max_right _ _)

theorem nesting_le_of_mem_children :
    ∀ child ∈ pattern.children modes, child.pattern.nesting ≤ pattern.nesting := by
  intro child isChild
  cases pattern with
  | sequence members | alternation members | intersection members =>
    obtain ⟨member, isMember, rfl⟩ := List.mem_map.mp isChild
    rw [nesting]
    exact nesting_le_greatestNesting isMember
  | group | lookaround | negation | directed =>
    obtain rfl := List.mem_singleton.mp isChild
    rw [nesting]
    dsimp only
    omega
  | repetition =>
    obtain rfl := List.mem_singleton.mp isChild
    exact Nat.le_refl _
  | binding =>
    rw [nesting]
    simp only [children, List.mem_cons, List.not_mem_nil, or_false] at isChild
    rcases isChild with rfl | rfl
    · exact Nat.le_max_left _ _
    · dsimp only
      omega
  | _ => cases isChild

theorem nesting_le_of_mem_nodes :
    ∀ node ∈ pattern.nodes modes, node.pattern.nesting ≤ pattern.nesting :=
  @forall_mem_nodes modes pattern (fun node => node.pattern.nesting ≤ pattern.nesting)
    (fun _ fits child isChild => Nat.le_trans (nesting_le_of_mem_children child isChild) fits)
    (Nat.le_refl _)

/-! ## Settled parts -/

theorem IsSettled.of_mem_children {child : Node} (settled : pattern.IsSettled modes)
    (isChild : child ∈ pattern.children modes) : child.pattern.IsSettled child.modes :=
  @forall_nodes_of_mem_children _ _ (fun part => part.dangles = false) _ settled isChild

theorem IsSettled.of_mem_nodes {node : Node} (settled : pattern.IsSettled modes)
    (isNode : node ∈ pattern.nodes modes) : node.pattern.IsSettled node.modes :=
  @forall_mem_nodes modes pattern (fun node => node.pattern.IsSettled node.modes)
    (fun _ settled _ => settled.of_mem_children) settled node isNode

theorem IsSettled.of_negate {notSpan : Span} {count : Nat}
    (settled : (Grammar.negate notSpan count body).IsSettled modes) : body.IsSettled modes := by
  induction count generalizing body with
  | zero => exact settled
  | succ count inductionHypothesis =>
    exact (inductionHypothesis settled).of_mem_children List.mem_cons_self

theorem IsSettled.of_scope {statement : Statement} {span : Span}
    (settled : (statement.scope body span).IsSettled modes) :
    body.IsSettled (statement.modes modes) ∧ (body.isStated && body.isVacant) = false := by
  have self := settled _ (self_mem_nodes _ _)
  cases statement with
  | directive content => exact ⟨settled.of_mem_children List.mem_cons_self, self⟩
  | binding name nameSpan bound =>
    exact ⟨settled.of_mem_children (List.mem_cons_of_mem _ List.mem_cons_self), self⟩

/-! ## Spelled parts -/

theorem forall_mem_nodes_negate {holds : Pattern → Prop} {notSpan : Span} {count : Nat}
    (negations : ∀ inner < count, holds (Grammar.negate notSpan (inner + 1) body))
    (ofBody : ∀ node ∈ body.nodes modes, holds node.pattern) :
    ∀ node ∈ (Grammar.negate notSpan count body).nodes modes, holds node.pattern := by
  induction count with
  | zero => exact ofBody
  | succ count inductionHypothesis =>
    have inner := inductionHypothesis fun inner smaller =>
      negations inner (Nat.lt_succ_of_lt smaller)
    have outermost := negations count (Nat.lt_succ_self count)
    rw [Grammar.negate_succ] at outermost ⊢
    rw [nodes, parts]
    obtain ⟨atOperand, below⟩ := List.forall_mem_cons.mp inner
    exact List.forall_mem_cons.mpr ⟨outermost, List.forall_mem_cons.mpr ⟨atOperand, below⟩⟩

end Pattern

/-- The pattern that the phrase stands for has the property. -/
def Phrase.Satisfies (holds : Pattern → Prop) : Phrase → Prop
  | .expression pattern | .alternation pattern | .intersection pattern | .sequence pattern
  | .term pattern | .negation pattern | .operand pattern => holds pattern
  | .statement _ | .moreAlternatives _ | .moreOperands _ | .moreTerms _ => True

theorem Phrase.Satisfies.mono {holds others : Pattern → Prop} {phrase : Phrase}
    (satisfies : phrase.Satisfies holds) (implies : ∀ pattern, holds pattern → others pattern) :
    phrase.Satisfies others := by
  cases phrase with
  | statement | moreAlternatives | moreOperands | moreTerms => trivial
  | _ => exact implies _ satisfies

section

variable {holds : Pattern → Prop} {whole lexemes : List Lexeme} {modes : Modes}

open Grammar in
/-- What holds of everything that is spelled holds of all parts. Only negations that stand
directly inside another one are not spelled by themselves. -/
theorem Spells.forall_mem_nodes
    (spelled : ∀ modes phrase part, part <:+: whole → Spells modes phrase part →
      phrase.Satisfies holds)
    (negated : ∀ modes bangs body part, bangs ++ part <:+: whole →
      Spells modes (.operand body) part → ∀ count < bangs.length,
        holds (negate (bangs.foldl (fun span bang => span.join bang.span) .absent) (count + 1) body))
    {phrase : Phrase} (spells : Spells modes phrase lexemes) (inside : lexemes <:+: whole) :
    ∀ node ∈ phrase.nodes modes, holds node.pattern := by
  induction spells with
  | bare _ all | once _ all => exact all inside
  | stated spells spellsBody all allBody =>
    have self := spelled _ _ _ inside (.stated spells spellsBody)
    intro node member
    rcases Statement.mem_nodes_scope.mp member with rfl | ofStatement | ofBody
    · exact self
    · exact all ((List.prefix_append _ _).isInfix.trans inside) node ofStatement
    · exact allBody ((List.suffix_append _ _).isInfix.trans inside) node ofBody
  | directive | noAlternative | noOperand | noTerm => exact List.forall_mem_nil _
  | binding _ _ _ _ _ all => exact all ((List.infix_append _ _ _).trans inside)
  | @nothing modes => exact List.forall_mem_singleton.mpr (spelled modes _ _ inside .nothing)
  | alternatives isBar spells spellsMore all allMore =>
    have self := spelled _ _ _ inside (.alternatives isBar spells spellsMore)
    intro node member
    rcases Pattern.mem_nodes_alternationOf.mp member with ⟨-, rfl⟩ | ofFirst | ofMore
    · exact self
    · exact all ((List.infix_append _ _ _).trans inside) node ofFirst
    · exact allMore ((List.suffix_append _ _).isInfix.trans inside) node ofMore
  | intersected isAmpersand spells spellsMore all allMore =>
    have self := spelled _ _ _ inside (.intersected isAmpersand spells spellsMore)
    intro node member
    rcases Pattern.mem_nodes_intersectionOf.mp member with ⟨-, rfl⟩ | ofFirst | ofMore
    · exact self
    · exact all ((List.infix_append _ _ _).trans inside) node ofFirst
    · exact allMore ((List.suffix_append _ _).isInfix.trans inside) node ofMore
  | terms spells spellsMore all allMore =>
    have self := spelled _ _ _ inside (.terms spells spellsMore)
    intro node member
    rcases Pattern.mem_nodes_sequenceOf.mp member with ⟨-, rfl⟩ | ofFirst | ofMore
    · exact self
    · exact all ((List.prefix_append _ _).isInfix.trans inside) node ofFirst
    · exact allMore ((List.suffix_append _ _).isInfix.trans inside) node ofMore
  | nextAlternative _ _ _ all allMore | nextOperand _ _ _ all allMore =>
    rw [Phrase.nodes, Pattern.partsOfAll_cons]
    exact List.forall_mem_append.mpr ⟨all ((List.infix_append _ _ _).trans inside),
      allMore ((List.suffix_append _ _).isInfix.trans inside)⟩
  | nextTerm _ _ all allMore =>
    rw [Phrase.nodes, Pattern.partsOfAll_cons]
    exact List.forall_mem_append.mpr ⟨all ((List.prefix_append _ _).isInfix.trans inside),
      allMore ((List.suffix_append _ _).isInfix.trans inside)⟩
  | repeated spells spellsBounds spellsPreference all =>
    have self := spelled _ _ _ inside (.repeated spells spellsBounds spellsPreference)
    rw [Phrase.nodes, Pattern.nodes, Pattern.parts]
    exact List.forall_mem_cons.mpr ⟨self, all ((List.prefix_append _ _).isInfix.trans inside)⟩
  | negated _ spells all =>
    exact Pattern.forall_mem_nodes_negate (negated _ _ _ _ inside spells)
      (all ((List.suffix_append _ _).isInfix.trans inside))
  | lookaround isLookaround spells all =>
    have self := spelled _ _ _ inside (.lookaround isLookaround spells)
    rw [Phrase.nodes, Pattern.nodes, Pattern.parts]
    exact List.forall_mem_cons.mpr ⟨self, all ((List.suffix_append _ _).isInfix.trans inside)⟩
  | group spellsOpening spells closes all =>
    have self := spelled _ _ _ inside (.group spellsOpening spells closes)
    rw [Phrase.nodes, Pattern.nodes, Pattern.parts]
    exact List.forall_mem_cons.mpr ⟨self, all ((List.infix_append _ _ _).trans inside)⟩
  | atom spells =>
    rw [Phrase.nodes, Pattern.nodes, spells.parts_eq_nil]
    exact List.forall_mem_singleton.mpr (spelled _ _ _ inside (.atom spells))

end

end PatternSyntax
