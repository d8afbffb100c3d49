import PatternSyntax.Proofs.Nodes
import PatternSyntax.Proofs.Places

/-!
# Extents

Every part of a tree has a run of lexemes of its own, which spells it and nothing
else. Its span is what the run covers, unless a row of statements before nothing
gets in between: the span of each of them then ends with the statement itself, and
so does the span of whatever stands around the row.
-/

namespace PatternSyntax

open Grammar
open Pattern (IsSettled partsOfAll)

variable {modes : Modes} {pattern : Pattern} {lexemes : List Lexeme}

/-! ## Phrases as expressions -/

theorem Spells.sequence_of_term (spells : Spells modes (.term pattern) lexemes) :
    Spells modes (.sequence pattern) lexemes := by
  have alone := Spells.terms spells .noTerm
  rwa [List.append_nil] at alone

theorem Spells.sequence_of_operand (spells : Spells modes (.operand pattern) lexemes) :
    Spells modes (.sequence pattern) lexemes :=
  (Spells.once (@Spells.negated modes [] pattern lexemes nofun spells)).sequence_of_term

theorem Spells.expression_of_intersection (spells : Spells modes (.intersection pattern) lexemes) :
    Spells modes (.expression pattern) lexemes := by
  have alone := @Spells.alternatives modes none pattern [] lexemes [] nofun spells .noAlternative
  rw [List.append_nil] at alone
  exact .bare alone

theorem Spells.expression_of_sequence (spells : Spells modes (.sequence pattern) lexemes) :
    Spells modes (.expression pattern) lexemes := by
  have alone := @Spells.intersected modes none pattern [] lexemes [] nofun spells .noOperand
  rw [List.append_nil] at alone
  exact expression_of_intersection alone

/-! ## Extents of phrases -/

/-- The pattern is spelled by the last of the lexemes, and covers them. Only leading
operators may stand before them. -/
def StandsAtEnd (modes : Modes) (pattern : Pattern) (lexemes : List Lexeme) : Prop :=
  ∃ lead inner, lexemes = lead ++ inner ∧ inner ≠ [] ∧ Spells modes (.expression pattern) inner ∧
    (pattern.IsSettled modes → pattern.span = cover inner)

/-- How far the parts of a phrase reach that has been read from the lexemes. -/
def Phrase.Extends (modes : Modes) (lexemes : List Lexeme) : Phrase → Prop
  | .expression pattern =>
    (pattern = .empty ∧ lexemes = [] ∨ StandsAtEnd modes pattern lexemes) ∧ (pattern.IsSettled modes →
      pattern.isVacant ∨ ∃ lead inner, lexemes = lead ++ inner ∧ inner ≠ [] ∧
        pattern.scopedSpan = cover inner)
  | .statement _ => True
  | .alternation pattern => pattern = .empty ∧ lexemes = [] ∨ StandsAtEnd modes pattern lexemes
  | .moreAlternatives patterns =>
    patterns ≠ [] → (∀ node ∈ partsOfAll modes patterns, node.pattern.dangles = false) →
      ∀ front between, front ≠ [] → IsOrdered (front ++ between ++ lexemes) →
        patterns.foldl (fun span member => span.join member.span) (cover front) =
          cover (front ++ between ++ lexemes)
  | .intersection pattern => StandsAtEnd modes pattern lexemes
  | .moreOperands _ => True
  | .moreTerms patterns =>
    ∀ last ∈ patterns.getLast?, last.IsSettled modes →
      ∃ lead inner, lexemes = lead ++ inner ∧ inner ≠ [] ∧ last.span = cover inner
  | .sequence pattern | .term pattern | .negation pattern | .operand pattern =>
    pattern.IsSettled modes → pattern.span = cover lexemes

theorem Grammar.SpellsAtom.span_eq_cover {unicode : Bool} (spells : SpellsAtom unicode pattern lexemes) :
    pattern.span = cover lexemes := by
  cases spells with
  | charClass spells =>
    cases spells with
    | brackets _ _ _ _ => simp [Pattern.span, cover, firstSpan]
  | _ => simp [Pattern.span, cover, firstSpan, Lexeme.literal, CharClass.singleton]

theorem Grammar.SpellsMatch.span_eq_cover {expected : TestMatch}
    (spells : SpellsMatch expected lexemes) : expected.span = cover lexemes := by
  cases spells with
  | expected => rfl

theorem StandsAtEnd.append (stands : StandsAtEnd modes pattern lexemes) (front : List Lexeme) :
    StandsAtEnd modes pattern (front ++ lexemes) := by
  obtain ⟨lead, inner, rfl, nonempty, spells, span_eq⟩ := stands
  exact ⟨front ++ lead, inner, (List.append_assoc _ _ _).symm, nonempty, spells, span_eq⟩

theorem Pattern.eq_empty_of_isVacant (vacant : pattern.isVacant) (unstated : pattern.isStated = false) :
    pattern = .empty := by
  cases pattern with
  | literal text =>
    rw [Pattern.isVacant, decide_eq_true_eq] at vacant
    rw [vacant, Pattern.empty]
  | directed | binding => cases unstated
  | _ => cases vacant

/-- What ends in nothing is nothing, if it is settled and stands alone. -/
theorem StandsAtEnd.not_isVacant (stands : StandsAtEnd modes pattern lexemes)
    (ordered : IsOrdered lexemes) (settled : pattern.IsSettled modes)
    (unstated : pattern.isStated = false) : pattern.isVacant = false := by
  obtain ⟨lead, inner, rfl, nonempty, -, span_eq⟩ := stands
  have present := (isOrdered_append_iff.mp ordered).2.1.cover_present nonempty
  cases vacant : pattern.isVacant with
  | false => rfl
  | true =>
    rw [← span_eq settled, Pattern.eq_empty_of_isVacant vacant unstated] at present
    cases present

theorem foldl_bangs_eq_cover {front bangs : List Lexeme} (ordered : IsOrdered (front ++ bangs))
    (nonempty : front ≠ []) :
    bangs.foldl (fun span bang => span.join bang.span) (cover front) = cover (front ++ bangs) := by
  induction bangs generalizing front with
  | nil => rw [List.append_nil, List.foldl_nil]
  | cons bang bangs inductionHypothesis =>
    rw [List.append_cons] at ordered ⊢
    have joined := @IsOrdered.cover_join front [] [bang]
      (by simpa using ordered.of_append_left) nonempty (List.cons_ne_nil _ _)
    rw [List.append_nil] at joined
    rw [List.foldl_cons, ← cover_singleton, joined]
    exact inductionHypothesis ordered (by simp)

theorem negate_span (notSpan : Span) (count : Nat) (body : Pattern) :
    (negate notSpan (count + 1) body).span = body.span.join notSpan := by
  induction count generalizing body with
  | zero => rfl
  | succ count inductionHypothesis =>
    rw [negate, inductionHypothesis]
    exact Span.join_join_self _ _

@[simp]
theorem Statement.scope_span (statement : Statement) (body : Pattern) (span : Span) :
    (statement.scope body span).span = span := by
  cases statement <;> rfl

theorem stated_extends {statement : Statement} {body : Pattern}
    {statementLexemes bodyLexemes : List Lexeme}
    (ordered : IsOrdered (statementLexemes ++ bodyLexemes))
    (spells : Spells modes (.statement statement) statementLexemes)
    (spellsBody : Spells (statement.modes modes) (.expression body) bodyLexemes)
    (reaches : (Phrase.expression body).Extends (statement.modes modes) bodyLexemes) :
    (Phrase.expression (statement.scope body ((cover statementLexemes).join
      body.scopedSpan))).Extends modes (statementLexemes ++ bodyLexemes) := by
  obtain ⟨stands, scopeReaches⟩ := reaches
  have nonempty := ne_nil_of_roleOf (by decide) spells.begins
  refine ⟨.inr ⟨[], _, (List.nil_append _).symm, by simp [nonempty], .stated spells spellsBody,
    fun settled => ?_⟩, fun settled => ?_⟩
  · obtain ⟨bodySettled, noRow⟩ := settled.of_scope
    rw [Statement.scope_span]
    rcases scopeReaches bodySettled with vacant | ⟨lead, inner, rfl, innerNonempty, span_eq⟩
    · -- No other statement may stand here, so that there are no lexemes of the body.
      have unstated : body.isStated = false := by simpa [vacant] using noRow
      rcases stands with ⟨rfl, rfl⟩ | stands
      · rw [List.append_nil]
        exact Span.join_of_isAbsent_right rfl (ordered.of_append_left.cover_present nonempty)
      · rw [stands.not_isVacant ordered.of_append_right bodySettled unstated] at vacant
        cases vacant
    · rw [← List.append_assoc] at ordered ⊢
      rw [span_eq, ordered.cover_join nonempty innerNonempty]
  · rw [Statement.scope_isVacant, Statement.scope_scopedSpan]
    rcases scopeReaches settled.of_scope.1 with vacant | ⟨lead, inner, rfl, innerNonempty, span_eq⟩
    · exact .inl vacant
    · exact .inr ⟨statementLexemes ++ lead, inner, (List.append_assoc _ _ _).symm, innerNonempty,
        span_eq⟩

section Rows

variable {first : Pattern} {more : List Pattern} {firstLexemes moreLexemes : List Lexeme}

/-- The span of several alternatives grows from the first of their lexemes, one
alternative after the other. -/
theorem alternatives_extends {bar : Option Lexeme}
    (ordered : IsOrdered (bar.toList ++ firstLexemes ++ moreLexemes))
    (isBar : ∀ lexeme ∈ bar, lexeme.kind = .pipe)
    (spellsFirst : Spells modes (.intersection first) firstLexemes)
    (spellsMore : Spells modes (.moreAlternatives more) moreLexemes)
    (stands : (Phrase.intersection first).Extends modes firstLexemes)
    (reaches : (Phrase.moreAlternatives more).Extends modes moreLexemes) :
    (Phrase.alternation (.alternationOf (firstSpan (bar.toList ++ firstLexemes)) first
      more)).Extends modes (bar.toList ++ firstLexemes ++ moreLexemes) := by
  cases more with
  | nil =>
    obtain rfl : moreLexemes = [] := by simpa [Phrase.Begins] using spellsMore.begins
    rw [List.append_nil]
    exact .inr (StandsAtEnd.append stands bar.toList)
  | cons second more =>
    have firstNonempty := ne_nil_of_roleOf_mem (by decide) spellsFirst.begins
    refine .inr ⟨[], _, (List.nil_append _).symm, by simp [firstNonempty],
      .bare (.alternatives isBar spellsFirst spellsMore), fun settled => ?_⟩
    obtain ⟨head, tail, split⟩ : ∃ head tail, bar.toList ++ firstLexemes = head :: tail :=
      List.exists_cons_of_ne_nil (by simp [firstNonempty])
    rw [split] at ordered ⊢
    have joined := reaches (List.cons_ne_nil _ _)
      (fun node member => settled node (Pattern.mem_nodes_alternationOf.mpr (.inr (.inr member))))
      [head] tail (List.cons_ne_nil _ _) ordered
    rw [cover_singleton] at joined
    exact joined

theorem nextAlternative_extends {bar : Lexeme}
    (spellsMore : Spells modes (.moreAlternatives more) moreLexemes)
    (stands : (Phrase.intersection first).Extends modes firstLexemes)
    (reaches : (Phrase.moreAlternatives more).Extends modes moreLexemes) :
    (Phrase.moreAlternatives (first :: more)).Extends modes
      ([bar] ++ firstLexemes ++ moreLexemes) := by
  intro _ settled front between frontNonempty wholeOrdered
  obtain ⟨lead, inner, rfl, innerNonempty, -, span_eq⟩ := stands
  have firstSettled : first.IsSettled modes := fun node member =>
    settled node (Pattern.nodes_subset_partsOfAll List.mem_cons_self member)
  have regroup : front ++ between ++ ([bar] ++ (lead ++ inner) ++ moreLexemes) =
      (front ++ (between ++ [bar] ++ lead) ++ inner) ++ [] ++ moreLexemes := by
    simp only [List.append_assoc, List.nil_append]
  rw [regroup] at wholeOrdered ⊢
  have joined := IsOrdered.cover_join wholeOrdered.of_append_left.of_append_left frontNonempty
    innerNonempty
  rw [List.foldl_cons, span_eq firstSettled, joined]
  cases more with
  | nil =>
    obtain rfl : moreLexemes = [] := by simpa [Phrase.Begins] using spellsMore.begins
    rw [List.append_nil, List.append_nil, List.foldl_nil]
  | cons second more =>
    refine reaches (List.cons_ne_nil _ _) (fun node member => settled node ?_) _ []
      (by simp [frontNonempty]) wholeOrdered
    rw [Pattern.partsOfAll_cons]
    exact List.mem_append_right _ member

theorem intersected_extends {ampersand : Option Lexeme}
    (isAmpersand : ∀ lexeme ∈ ampersand, lexeme.kind = .ampersand)
    (spellsFirst : Spells modes (.sequence first) firstLexemes)
    (spellsMore : Spells modes (.moreOperands more) moreLexemes)
    (span_eq : (Phrase.sequence first).Extends modes firstLexemes) :
    (Phrase.intersection (.intersectionOf (cover (ampersand.toList ++ firstLexemes ++ moreLexemes))
      first more)).Extends modes (ampersand.toList ++ firstLexemes ++ moreLexemes) := by
  have firstNonempty := ne_nil_of_roleOf (by decide) spellsFirst.begins
  cases more with
  | nil =>
    obtain rfl : moreLexemes = [] := by simpa [Phrase.Begins] using spellsMore.begins
    rw [List.append_nil]
    exact ⟨ampersand.toList, firstLexemes, rfl, firstNonempty, spellsFirst.expression_of_sequence,
      span_eq⟩
  | cons second more =>
    exact ⟨[], _, (List.nil_append _).symm, by simp [firstNonempty],
      .expression_of_intersection (.intersected isAmpersand spellsFirst spellsMore), fun _ => rfl⟩

/-- The span of several terms is joined from those of the first and the last one. -/
theorem terms_extends (ordered : IsOrdered (firstLexemes ++ moreLexemes))
    (spellsFirst : Spells modes (.term first) firstLexemes)
    (spellsMore : Spells modes (.moreTerms more) moreLexemes)
    (span_eq : (Phrase.term first).Extends modes firstLexemes)
    (reaches : (Phrase.moreTerms more).Extends modes moreLexemes) :
    (Phrase.sequence (.sequenceOf first more)).Extends modes (firstLexemes ++ moreLexemes) := by
  intro settled
  have firstNonempty := ne_nil_of_roleOf (by decide) spellsFirst.begins
  have firstSettled : first.IsSettled modes := fun node member =>
    settled node (Pattern.mem_nodes_sequenceOf.mpr (.inr (.inl member)))
  cases more with
  | nil =>
    obtain rfl : moreLexemes = [] := by simpa [Phrase.Begins] using spellsMore.begins
    rw [List.append_nil]
    exact span_eq firstSettled
  | cons second more =>
    have lastSettled : ((second :: more).getLast (List.cons_ne_nil _ _)).IsSettled modes :=
      fun node member => settled node (Pattern.mem_nodes_sequenceOf.mpr
        (.inr (.inr (Pattern.nodes_subset_partsOfAll (List.getLast_mem _) member))))
    obtain ⟨lead, inner, rfl, innerNonempty, last_eq⟩ :=
      reaches _ (List.getLast?_eq_some_getLast (List.cons_ne_nil _ _)) lastSettled
    rw [← List.append_assoc] at ordered ⊢
    rw [Pattern.sequenceOf_cons, Pattern.span, span_eq firstSettled, last_eq,
      ordered.cover_join firstNonempty innerNonempty]

theorem nextTerm_extends (spellsFirst : Spells modes (.term first) firstLexemes)
    (spellsMore : Spells modes (.moreTerms more) moreLexemes)
    (span_eq : (Phrase.term first).Extends modes firstLexemes)
    (reaches : (Phrase.moreTerms more).Extends modes moreLexemes) :
    (Phrase.moreTerms (first :: more)).Extends modes (firstLexemes ++ moreLexemes) := by
  intro last isLast settled
  cases more with
  | nil =>
    obtain rfl : moreLexemes = [] := by simpa [Phrase.Begins] using spellsMore.begins
    obtain rfl : first = last := by simpa using isLast
    exact ⟨[], firstLexemes, List.append_nil _, ne_nil_of_roleOf (by decide) spellsFirst.begins,
      span_eq settled⟩
  | cons second more =>
    rw [List.getLast?_cons_cons] at isLast
    obtain ⟨lead, inner, rfl, innerNonempty, last_eq⟩ := reaches last isLast settled
    exact ⟨firstLexemes ++ lead, inner, (List.append_assoc _ _ _).symm, innerNonempty, last_eq⟩

end Rows

theorem negated_extends {bangs : List Lexeme} (ordered : IsOrdered (bangs ++ lexemes))
    (spells : Spells modes (.operand pattern) lexemes)
    (span_eq : (Phrase.operand pattern).Extends modes lexemes) :
    (Phrase.negation (negate (bangs.foldl (fun span bang => span.join bang.span) .absent)
      bangs.length pattern)).Extends modes (bangs ++ lexemes) := by
  intro settled
  have operand_eq := span_eq settled.of_negate
  cases bangs with
  | nil => exact operand_eq
  | cons bang bangs =>
    have notSpan_eq :=
      @foldl_bangs_eq_cover [bang] bangs ordered.of_append_left (List.cons_ne_nil _ _)
    rw [cover_singleton, List.singleton_append] at notSpan_eq
    rw [List.foldl_cons, Span.absent_join, notSpan_eq, List.length_cons, negate_span, operand_eq]
    exact ordered.cover_join_swap (List.cons_ne_nil _ _) (ne_nil_of_roleOf (by decide) spells.begins)

/-- Every phrase reaches as far as its lexemes do. -/
theorem Spells.extends {phrase : Phrase} (spells : Spells modes phrase lexemes)
    (ordered : IsOrdered lexemes) : phrase.Extends modes lexemes := by
  induction spells with
  | bare spells stands =>
    refine ⟨stands ordered, fun settled => ?_⟩
    rw [Pattern.scopedSpan_of_not_isStated spells.unstated]
    rcases stands ordered with ⟨rfl, -⟩ | ⟨lead, inner, rfl, nonempty, -, span_eq⟩
    · exact .inl rfl
    · exact .inr ⟨lead, inner, rfl, nonempty, span_eq settled⟩
  | stated spells spellsBody _ reaches =>
    exact stated_extends ordered spells spellsBody (reaches ordered.of_append_right)
  | directive _ => trivial
  | binding _ _ _ _ _ _ => trivial
  | nothing => exact .inl ⟨rfl, rfl⟩
  | alternatives isBar spellsFirst spellsMore stands reaches =>
    exact alternatives_extends ordered isBar spellsFirst spellsMore
      (stands ordered.of_append_left.of_append_right) (reaches ordered.of_append_right)
  | noAlternative => exact fun nonempty => absurd rfl nonempty
  | nextAlternative _ _ spellsMore stands reaches =>
    exact nextAlternative_extends spellsMore (stands ordered.of_append_left.of_append_right)
      (reaches ordered.of_append_right)
  | intersected isAmpersand spellsFirst spellsMore span_eq _ =>
    exact intersected_extends isAmpersand spellsFirst spellsMore
      (span_eq ordered.of_append_left.of_append_right)
  | noOperand => trivial
  | nextOperand _ _ _ _ _ => trivial
  | terms spellsFirst spellsMore span_eq reaches =>
    exact terms_extends ordered spellsFirst spellsMore (span_eq ordered.of_append_left)
      (reaches ordered.of_append_right)
  | noTerm =>
    rintro _ ⟨⟩
  | nextTerm spells spellsMore span_eq reaches =>
    exact nextTerm_extends spells spellsMore (span_eq ordered.of_append_left)
      (reaches ordered.of_append_right)
  | once _ span_eq => exact span_eq ordered
  | @repeated _ pattern _ _ lexemes boundsLexemes preferenceLexemes spells spellsBounds _ span_eq =>
    intro settled
    have nonempty := ne_nil_of_roleOf (by decide) spells.begins
    have boundsNonempty : boundsLexemes ++ preferenceLexemes ≠ [] := by simp [spellsBounds.ne_nil]
    have body_eq := span_eq ordered.of_append_left
      (IsSettled.of_mem_children settled List.mem_cons_self)
    have joined := @IsOrdered.cover_join lexemes [] (boundsLexemes ++ preferenceLexemes)
      (by rwa [List.append_nil]) nonempty boundsNonempty
    rw [List.append_nil] at joined
    rw [Pattern.span, body_eq, joined]
  | negated _ spells span_eq =>
    exact negated_extends ordered spells (span_eq ordered.of_append_right)
  | lookaround _ _ reaches =>
    intro settled
    rw [Pattern.span, ← cover_singleton]
    rcases (reaches ordered.of_append_right).1 with
      ⟨rfl, rfl⟩ | ⟨lead, inner, rfl, innerNonempty, -, span_eq⟩
    · exact Span.join_of_isAbsent_right rfl
        (ordered.of_append_left.cover_present (List.cons_ne_nil _ _))
    · rw [← List.append_assoc] at ordered ⊢
      rw [span_eq (IsSettled.of_mem_children settled List.mem_cons_self),
        ordered.cover_join (List.cons_ne_nil _ _) innerNonempty]
  | group _ _ _ _ => exact fun _ => rfl
  | atom spells => exact fun _ => spells.span_eq_cover

/-! ## The runs of the parts -/

/-- The part is spelled by a run of the lexemes, unless nothing is there or it is a
negation whose exclamation marks also belong to another one. -/
def Node.IsPlaced (lexemes : List Lexeme) (node : Node) : Prop :=
  (node.negated ∧ node.pattern.isNegation) ∨ node.pattern = .empty ∨
    ∃ front after, lexemes = front ++ after ∧ StandsAtEnd node.modes node.pattern front

theorem Node.IsPlaced.append_right {node : Node} (placed : node.IsPlaced lexemes)
    (after : List Lexeme) : node.IsPlaced (lexemes ++ after) := by
  rcases placed with marked | isEmpty | ⟨front, rest, rfl, stands⟩
  · exact .inl marked
  · exact .inr (.inl isEmpty)
  · exact .inr (.inr ⟨front, rest ++ after, List.append_assoc _ _ _, stands⟩)

theorem Node.IsPlaced.append_left {node : Node} (placed : node.IsPlaced lexemes)
    (before : List Lexeme) : node.IsPlaced (before ++ lexemes) := by
  rcases placed with marked | isEmpty | ⟨front, rest, rfl, stands⟩
  · exact .inl marked
  · exact .inr (.inl isEmpty)
  · exact .inr (.inr ⟨before ++ front, rest, (List.append_assoc _ _ _).symm, stands.append before⟩)

theorem StandsAtEnd.isPlaced (stands : StandsAtEnd modes pattern lexemes) (negated : Bool) :
    Node.IsPlaced lexemes ⟨pattern, modes, negated⟩ :=
  .inr (.inr ⟨lexemes, [], (List.append_nil _).symm, stands⟩)

theorem Spells.standsAtEnd_of_sequence (spells : Spells modes (.sequence pattern) lexemes)
    (ordered : IsOrdered lexemes) : StandsAtEnd modes pattern lexemes :=
  ⟨[], lexemes, rfl, ne_nil_of_roleOf (by decide) spells.begins, spells.expression_of_sequence,
    spells.extends ordered⟩

theorem Spells.self_isPlaced (spells : Spells modes (.sequence pattern) lexemes)
    (ordered : IsOrdered lexemes) : Node.IsPlaced lexemes ⟨pattern, modes, false⟩ :=
  (spells.standsAtEnd_of_sequence ordered).isPlaced false

theorem partsOfAll_isPlaced {first : Pattern} {more : List Pattern}
    {firstLexemes moreLexemes : List Lexeme}
    (placed : ∀ node ∈ first.nodes modes, node.IsPlaced firstLexemes)
    (placedMore : ∀ node ∈ partsOfAll modes more, node.IsPlaced moreLexemes) :
    ∀ node ∈ partsOfAll modes (first :: more), node.IsPlaced (firstLexemes ++ moreLexemes) := by
  intro node member
  rw [Pattern.partsOfAll_cons] at member
  rcases List.mem_append.mp member with ofFirst | ofMore
  · exact (placed node ofFirst).append_right _
  · exact (placedMore node ofMore).append_left _

/-- Every part of a phrase has its place among the lexemes of the phrase. -/
theorem Spells.isPlaced {phrase : Phrase} (spells : Spells modes phrase lexemes)
    (ordered : IsOrdered lexemes) : ∀ node ∈ phrase.nodes modes, node.IsPlaced lexemes := by
  induction spells with
  | bare _ placed => exact placed ordered
  | @stated modes statement body _ _ spells spellsBody placed placedBody =>
    obtain ⟨statementOrdered, bodyOrdered, -⟩ := isOrdered_append_iff.mp ordered
    intro node member
    rcases Statement.mem_nodes_scope.mp member with rfl | ofStatement | ofBody
    · rcases ((Spells.stated spells spellsBody).extends ordered).1 with ⟨isEmpty, -⟩ | stands
      · exact .inr (.inl isEmpty)
      · exact stands.isPlaced false
    · exact (placed statementOrdered node ofStatement).append_right _
    · exact (placedBody bodyOrdered node ofBody).append_left _
  | directive _ => exact List.forall_mem_nil _
  | binding _ _ _ _ _ placed =>
    have innerOrdered := ordered.of_append_left.of_append_right
    exact fun node member => ((placed innerOrdered node member).append_left _).append_right _
  | nothing =>
    intro node member
    rw [List.mem_singleton.mp member]
    exact .inr (.inl rfl)
  | alternatives isBar spellsFirst spellsMore placedFirst placedMore =>
    obtain ⟨frontOrdered, moreOrdered, -⟩ := isOrdered_append_iff.mp ordered
    intro node member
    rcases Pattern.mem_nodes_alternationOf.mp member with ⟨-, rfl⟩ | ofFirst | ofMore
    · rcases (Spells.alternatives isBar spellsFirst spellsMore).extends ordered with
        ⟨isEmpty, -⟩ | stands
      · exact .inr (.inl isEmpty)
      · exact stands.isPlaced false
    · have placed := placedFirst frontOrdered.of_append_right node ofFirst
      exact (placed.append_left _).append_right _
    · exact (placedMore moreOrdered node ofMore).append_left _
  | noAlternative => exact List.forall_mem_nil _
  | nextAlternative _ _ _ placed placedMore =>
    have placedFirst := placed ordered.of_append_left.of_append_right
    exact partsOfAll_isPlaced (fun node member => (placedFirst node member).append_left _)
      (placedMore ordered.of_append_right)
  | intersected isAmpersand spellsFirst spellsMore placedFirst placedMore =>
    obtain ⟨frontOrdered, moreOrdered, -⟩ := isOrdered_append_iff.mp ordered
    intro node member
    rcases Pattern.mem_nodes_intersectionOf.mp member with ⟨-, rfl⟩ | ofFirst | ofMore
    · exact ((Spells.intersected isAmpersand spellsFirst spellsMore).extends ordered).isPlaced false
    · have placed := placedFirst frontOrdered.of_append_right node ofFirst
      exact (placed.append_left _).append_right _
    · exact (placedMore moreOrdered node ofMore).append_left _
  | noOperand => exact List.forall_mem_nil _
  | nextOperand _ _ _ placed placedMore =>
    have placedFirst := placed ordered.of_append_left.of_append_right
    exact partsOfAll_isPlaced (fun node member => (placedFirst node member).append_left _)
      (placedMore ordered.of_append_right)
  | terms spellsFirst spellsMore placedFirst placedMore =>
    obtain ⟨firstOrdered, moreOrdered, -⟩ := isOrdered_append_iff.mp ordered
    intro node member
    rcases Pattern.mem_nodes_sequenceOf.mp member with ⟨-, rfl⟩ | ofFirst | ofMore
    · exact (Spells.terms spellsFirst spellsMore).self_isPlaced ordered
    · exact (placedFirst firstOrdered node ofFirst).append_right _
    · exact (placedMore moreOrdered node ofMore).append_left _
  | noTerm => exact List.forall_mem_nil _
  | nextTerm _ _ placed placedMore =>
    exact partsOfAll_isPlaced (placed ordered.of_append_left) (placedMore ordered.of_append_right)
  | once _ placed => exact placed ordered
  | repeated spells spellsBounds spellsPreference placed =>
    intro node member
    rcases List.mem_cons.mp member with rfl | ofBody
    · have whole := (Spells.repeated spells spellsBounds spellsPreference).sequence_of_term
      exact whole.self_isPlaced ordered
    · exact (placed ordered.of_append_left node ofBody).append_right _
  | @negated modes bangs pattern lexemes areBangs spells placed =>
    have placed := placed ordered.of_append_right
    intro node member
    rcases List.mem_cons.mp member with rfl | inside
    · have whole := (Spells.once (.negated areBangs spells)).sequence_of_term
      exact whole.self_isPlaced ordered
    · cases bangs with
      | nil => exact placed node (List.mem_cons_of_mem _ inside)
      | cons bang bangs =>
        rcases Pattern.mem_parts_negate inside with marked | rfl | ofBody
        · exact .inl marked
        · have stands := spells.sequence_of_operand.standsAtEnd_of_sequence
            ordered.of_append_right
          exact (stands.isPlaced true).append_left _
        · exact (placed node (List.mem_cons_of_mem _ ofBody)).append_left _
  | lookaround isLookaround spells placed =>
    intro node member
    rcases List.mem_cons.mp member with rfl | ofBody
    · have whole := (Spells.lookaround isLookaround spells).sequence_of_operand
      exact whole.self_isPlaced ordered
    · exact (placed ordered.of_append_right node ofBody).append_left _
  | group spellsOpening spells closes placed =>
    intro node member
    rcases List.mem_cons.mp member with rfl | ofBody
    · have whole := (Spells.group spellsOpening spells closes).sequence_of_operand
      exact whole.self_isPlaced ordered
    · have innerOrdered := ordered.of_append_left.of_append_right
      exact ((placed innerOrdered node ofBody).append_left _).append_right _
  | atom spells =>
    intro node member
    rcases List.mem_cons.mp member with rfl | inside
    · have whole := (Spells.atom spells).sequence_of_operand
      exact whole.self_isPlaced ordered
    · rw [spells.parts_eq_nil] at inside
      cases inside

end PatternSyntax
