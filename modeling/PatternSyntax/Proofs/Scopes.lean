import PatternSyntax.Proofs.Extents

/-!
# Scopes

All spans of a tree are joined from spans of lexemes, so none of them reaches beyond
the lexemes that the tree was read from. The span of a statement is joined from what
the statement itself covers and from what is left when all statements after it are
taken away. It therefore contains what the statement applies to, unless that is
another statement and nothing is left.
-/

namespace PatternSyntax

open Grammar

variable {modes : Modes} {pattern : Pattern} {lexemes : List Lexeme}

/-! ## Spans made of spans -/

/-- Nowhere has the property, and joining keeps it. -/
structure IsJoinClosed (holds : Span → Prop) : Prop where
  absent : holds .absent
  join : ∀ first second, holds first → holds second → holds (first.join second)

section JoinClosed

variable {holds : Span → Prop}

theorem IsJoinClosed.foldl (closed : IsJoinClosed holds) {α : Type} {spanOf : α → Span}
    {members : List α} {start : Span} (atStart : holds start)
    (atMembers : ∀ member ∈ members, holds (spanOf member)) :
    holds (members.foldl (fun span member => span.join (spanOf member)) start) := by
  induction members generalizing start with
  | nil => exact atStart
  | cons member members inductionHypothesis =>
    obtain ⟨atMember, atMembers⟩ := List.forall_mem_cons.mp atMembers
    exact inductionHypothesis (closed.join _ _ atStart atMember) atMembers

theorem IsJoinClosed.firstSpan (closed : IsJoinClosed holds)
    (atLexemes : ∀ lexeme ∈ lexemes, holds lexeme.span) : holds (firstSpan lexemes) := by
  cases lexemes with
  | nil => exact closed.absent
  | cons lexeme lexemes => exact atLexemes lexeme List.mem_cons_self

theorem IsJoinClosed.cover (closed : IsJoinClosed holds)
    (atLexemes : ∀ lexeme ∈ lexemes, holds lexeme.span) : holds (cover lexemes) := by
  refine closed.join _ _ (closed.firstSpan atLexemes) ?_
  cases lexemes with
  | nil => exact closed.absent
  | cons lexeme lexemes =>
    rw [lastSpan_eq_getLast (List.cons_ne_nil _ _)]
    exact atLexemes _ (List.getLast_mem _)

/-- The spans of what a phrase is made of have the property. -/
def Phrase.SpansSatisfy (holds : Span → Prop) : Phrase → Prop
  | .expression pattern => holds pattern.span ∧ holds pattern.scopedSpan
  | .statement _ => True
  | .alternation pattern | .intersection pattern | .sequence pattern | .term pattern
  | .negation pattern | .operand pattern => holds pattern.span
  | .moreAlternatives patterns | .moreOperands patterns | .moreTerms patterns =>
    ∀ pattern ∈ patterns, holds pattern.span

theorem Spells.spansSatisfy {phrase : Phrase} (spells : Spells modes phrase lexemes)
    (closed : IsJoinClosed holds) (atLexemes : ∀ lexeme ∈ lexemes, holds lexeme.span) :
    phrase.SpansSatisfy holds := by
  induction spells with
  | bare spells atPattern =>
    rw [Phrase.SpansSatisfy, Pattern.scopedSpan_of_not_isStated spells.unstated]
    exact ⟨atPattern atLexemes, atPattern atLexemes⟩
  | stated _ _ _ atBody =>
    rw [List.forall_mem_append] at atLexemes
    have atScope := (atBody atLexemes.2).2
    rw [Phrase.SpansSatisfy, Statement.scope_span, Statement.scope_scopedSpan]
    exact ⟨closed.join _ _ (closed.cover atLexemes.1) atScope, atScope⟩
  | directive _ => trivial
  | binding _ _ _ _ _ _ => trivial
  | nothing => exact closed.absent
  | @alternatives modes bar first more firstLexemes moreLexemes _ _ _ atFirst atMore =>
    rw [List.forall_mem_append] at atLexemes
    cases more with
    | nil => exact atFirst (List.forall_mem_append.mp atLexemes.1).2
    | cons second more => exact closed.foldl (closed.firstSpan atLexemes.1) (atMore atLexemes.2)
  | noAlternative => nofun
  | nextAlternative _ _ _ atPattern atPatterns =>
    simp only [List.forall_mem_append] at atLexemes
    exact List.forall_mem_cons.mpr ⟨atPattern atLexemes.1.2, atPatterns atLexemes.2⟩
  | @intersected modes ampersand first more firstLexemes moreLexemes _ _ _ atFirst _ =>
    cases more with
    | nil =>
      simp only [List.forall_mem_append] at atLexemes
      exact atFirst atLexemes.1.2
    | cons second more => exact closed.cover atLexemes
  | noOperand => nofun
  | nextOperand _ _ _ atPattern atPatterns =>
    simp only [List.forall_mem_append] at atLexemes
    exact List.forall_mem_cons.mpr ⟨atPattern atLexemes.1.2, atPatterns atLexemes.2⟩
  | @terms modes first more _ _ _ _ atFirst atMore =>
    rw [List.forall_mem_append] at atLexemes
    cases more with
    | nil => exact atFirst atLexemes.1
    | cons second more =>
      rw [Phrase.SpansSatisfy, Pattern.sequenceOf_cons]
      exact closed.join _ _ (atFirst atLexemes.1) (atMore atLexemes.2 _ (List.getLast_mem _))
  | noTerm => nofun
  | nextTerm _ _ atPattern atPatterns =>
    rw [List.forall_mem_append] at atLexemes
    exact List.forall_mem_cons.mpr ⟨atPattern atLexemes.1, atPatterns atLexemes.2⟩
  | once _ atPattern => exact atPattern atLexemes
  | repeated _ _ _ atPattern =>
    rw [List.forall_mem_append] at atLexemes
    exact closed.join _ _ (atPattern atLexemes.1) (closed.cover atLexemes.2)
  | @negated modes bangs pattern _ _ _ atPattern =>
    rw [List.forall_mem_append] at atLexemes
    have atOperand := atPattern atLexemes.2
    rw [Phrase.SpansSatisfy]
    cases length : bangs.length with
    | zero => exact atOperand
    | succ count =>
      rw [negate_span]
      exact closed.join _ _ atOperand (closed.foldl closed.absent atLexemes.1)
  | lookaround _ _ atBody =>
    obtain ⟨atOperator, atBodyLexemes⟩ := List.forall_mem_cons.mp atLexemes
    exact closed.join _ _ atOperator (atBody atBodyLexemes).1
  | group _ _ _ _ => exact closed.cover atLexemes
  | atom spells =>
    rw [Phrase.SpansSatisfy, spells.span_eq_cover]
    exact closed.cover atLexemes

end JoinClosed

/-! ## Spans within a run -/

/-- The span holds at least one byte, and all of its bytes lie in the outer span. -/
structure Span.LiesIn (outer span : Span) : Prop where
  starts : outer.start ≤ span.start
  nonempty : span.start < span.stop
  stops : span.stop ≤ outer.stop

theorem Span.LiesIn.present {outer span : Span} (lies : outer.LiesIn span) :
    span.isAbsent = false := by
  have positive := lies.nonempty
  refine beq_eq_false_iff_ne.mpr fun zero => ?_
  rw [zero] at positive
  exact UInt32.not_lt_zero positive

/-- Spans within one span are joined to a span within it. -/
theorem Span.isJoinClosed_liesIn (outer : Span) :
    IsJoinClosed fun span => span = .absent ∨ outer.LiesIn span := by
  refine ⟨.inl rfl, ?_⟩
  rintro first second (rfl | firstLies) secondLies
  · exact secondLies
  · rcases secondLies with rfl | secondLies
    · rw [Span.join_of_isAbsent_right rfl firstLies.present]
      exact .inr firstLies
    · right
      simp only [Span.join, firstLies.present, secondLies.present, Bool.false_eq_true, if_false]
      obtain ⟨firstStarts, firstNonempty, firstStops⟩ := firstLies
      obtain ⟨secondStarts, secondNonempty, secondStops⟩ := secondLies
      simp only [UInt32.le_iff_toNat_le, UInt32.lt_iff_toNat_lt] at *
      constructor
      all_goals
        simp only [min, max, UInt32.le_iff_toNat_le, UInt32.lt_iff_toNat_lt]
        repeat' split
        all_goals omega

theorem IsOrdered.cover_liesIn (ordered : IsOrdered lexemes) :
    ∀ lexeme ∈ lexemes, (cover lexemes).LiesIn lexeme.span := by
  intro lexeme member
  have inner := ordered.nonempty lexeme member
  obtain ⟨before, after, rfl⟩ := List.append_of_mem member
  obtain ⟨-, tailOrdered, apart⟩ := isOrdered_append_iff.mp ordered
  have apartAfter := (List.pairwise_cons.mp tailOrdered.apart).1
  rw [ordered.cover_eq (List.ne_nil_of_mem member)]
  refine ⟨?_, inner, ?_⟩
  · cases before with
    | nil => exact UInt32.le_refl _
    | cons first before =>
      have firstInner := ordered.nonempty first List.mem_cons_self
      have firstApart := apart first List.mem_cons_self lexeme List.mem_cons_self
      exact UInt32.le_of_lt (UInt32.lt_of_lt_of_le firstInner firstApart)
  · rw [List.getLast_append_of_ne_nil _ (List.cons_ne_nil _ _)]
    cases after with
    | nil => exact UInt32.le_refl _
    | cons second after =>
      rw [List.getLast_cons (List.cons_ne_nil _ _)]
      have isLast : (second :: after).getLast (List.cons_ne_nil _ _) ∈ second :: after :=
        List.getLast_mem _
      have lastInner := tailOrdered.nonempty _ (List.mem_cons_of_mem lexeme isLast)
      exact UInt32.le_of_lt (UInt32.lt_of_le_of_lt (apartAfter _ isLast) lastInner)

/-- A phrase has its parts within what its lexemes cover. -/
theorem Spells.span_liesIn {phrase : Phrase} (spells : Spells modes phrase lexemes)
    (ordered : IsOrdered lexemes) :
    phrase.SpansSatisfy fun span => span = .absent ∨ (cover lexemes).LiesIn span :=
  spells.spansSatisfy (Span.isJoinClosed_liesIn _) fun lexeme member =>
    .inr (ordered.cover_liesIn lexeme member)

/-! ## Presence -/

theorem IsOrdered.firstSpan_present (ordered : IsOrdered lexemes) (nonempty : lexemes ≠ []) :
    (firstSpan lexemes).isAbsent = false := by
  cases lexemes with
  | nil => exact absurd rfl nonempty
  | cons lexeme lexemes => exact ordered.present List.mem_cons_self

theorem foldl_join_present {α : Type} {spanOf : α → Span} {members : List α} {start : Span}
    (present : start.isAbsent = false) :
    (members.foldl (fun span member => span.join (spanOf member)) start).isAbsent = false := by
  induction members generalizing start with
  | nil => exact present
  | cons member members inductionHypothesis =>
    exact inductionHypothesis (by rw [Span.join_isAbsent, present, Bool.false_and])

/-- What a phrase is made of is somewhere, if anything is there. -/
def Phrase.IsPresent : Phrase → Prop
  | .expression pattern => pattern.isVacant = false → pattern.scopedSpan.isAbsent = false
  | .alternation pattern => pattern.isVacant = false → pattern.span.isAbsent = false
  | .intersection pattern | .sequence pattern | .term pattern | .negation pattern
  | .operand pattern => pattern.span.isAbsent = false
  | _ => True

theorem Spells.isPresent {phrase : Phrase} (spells : Spells modes phrase lexemes)
    (ordered : IsOrdered lexemes) : phrase.IsPresent := by
  induction spells with
  | bare spells present =>
    rw [Phrase.IsPresent, Pattern.scopedSpan_of_not_isStated spells.unstated]
    exact present ordered
  | stated _ _ _ present =>
    rw [Phrase.IsPresent, Statement.scope_isVacant, Statement.scope_scopedSpan]
    exact present ordered.of_append_right
  | nothing => exact fun notVacant => nomatch notVacant
  | @alternatives modes bar first more _ _ _ spellsFirst _ present _ =>
    intro _
    have frontOrdered := ordered.of_append_left
    cases more with
    | nil => exact present frontOrdered.of_append_right
    | cons second more =>
      have firstNonempty := ne_nil_of_roleOf_mem (by decide) spellsFirst.begins
      exact foldl_join_present (frontOrdered.firstSpan_present (by simp [firstNonempty]))
  | @intersected modes ampersand first more _ _ _ spellsFirst _ present _ =>
    cases more with
    | nil => exact present ordered.of_append_left.of_append_right
    | cons second more =>
      have firstNonempty := ne_nil_of_roleOf (by decide) spellsFirst.begins
      exact ordered.cover_present (by simp [firstNonempty])
  | @terms modes first more _ _ _ _ present _ =>
    have firstPresent := present ordered.of_append_left
    cases more with
    | nil => exact firstPresent
    | cons second more =>
      rw [Phrase.IsPresent, Pattern.sequenceOf_cons]
      exact Span.join_isAbsent _ _ ▸ firstPresent ▸ Bool.false_and _
  | once _ present => exact present ordered
  | repeated _ _ _ present =>
    have bodyPresent := present ordered.of_append_left
    rw [Phrase.IsPresent, Pattern.span, Span.join_isAbsent, bodyPresent, Bool.false_and]
  | @negated modes bangs pattern _ _ _ present =>
    have operandPresent := present ordered.of_append_right
    rw [Phrase.IsPresent]
    cases length : bangs.length with
    | zero => exact operandPresent
    | succ count => rw [negate_span, Span.join_isAbsent, operandPresent, Bool.false_and]
  | lookaround _ _ _ =>
    have operatorPresent := ordered.present List.mem_cons_self
    rw [Phrase.IsPresent, Pattern.span, Span.join_isAbsent, operatorPresent, Bool.false_and]
  | group _ _ _ _ => exact ordered.cover_present (by simp)
  | atom spells =>
    rw [Phrase.IsPresent, spells.span_eq_cover]
    exact ordered.cover_present (ne_nil_of_roleOf (by decide) spells.role_eq)
  | _ => trivial

/-! ## What statements apply to -/

namespace Pattern

/-- What the statement before the pattern applies to. -/
def scope? : Pattern → Option Pattern
  | .directed _ body _ => some body
  | .binding _ _ _ body _ => some body
  | _ => none

theorem scopedSpan_of_isVacant : ∀ {pattern : Pattern}, pattern.isVacant → pattern.scopedSpan = .absent
  | .directed _ body _, vacant => @scopedSpan_of_isVacant body vacant
  | .binding _ _ _ body _, vacant => @scopedSpan_of_isVacant body vacant
  | .literal text, vacant => by
    rw [isVacant, decide_eq_true_eq] at vacant
    rw [vacant]
    rfl
  | .charClass _, vacant | .group _ _ _, vacant | .sequence _ _, vacant | .alternation _ _, vacant
  | .intersection _ _, vacant | .repetition _ _ _ _, vacant | .boundary _ _, vacant
  | .lookaround _ _ _, vacant | .use _ _, vacant | .reference _ _, vacant
  | .numberRange _ _ _ _, vacant | .negation _ _ _, vacant | .regex _ _, vacant
  | .recursion _, vacant | .dot _, vacant => nomatch vacant

end Pattern

theorem Pattern.isStated_of_scope? {body : Pattern} (isScope : pattern.scope? = some body) :
    pattern.isStated := by
  cases pattern with
  | directed | binding => rfl
  | _ => cases isScope

theorem Pattern.isNegation_of_isStated (stated : pattern.isStated) : pattern.isNegation = false := by
  cases pattern with
  | negation => cases stated
  | _ => rfl

theorem Statement.scope_scope? {statement : Statement} {body : Pattern} {span : Span} :
    (statement.scope body span).scope? = some body := by
  cases statement <;> rfl

theorem Statement.scope_dangles {statement : Statement} {body : Pattern} {span : Span} :
    (statement.scope body span).dangles = (body.isStated && body.isVacant) := by
  cases statement <;> rfl

/-- A statement before an expression has lexemes of its own. -/
theorem Spells.exists_statement (spells : Spells modes (.expression pattern) lexemes)
    (stated : pattern.isStated) :
    ∃ (statement : Statement) (body : Pattern) (statementLexemes bodyLexemes : List Lexeme),
      lexemes = statementLexemes ++ bodyLexemes ∧
      pattern = statement.scope body ((cover statementLexemes).join body.scopedSpan) ∧
      statementLexemes ≠ [] ∧ Spells (statement.modes modes) (.expression body) bodyLexemes := by
  cases spells with
  | bare spells => exact absurd (spells.unstated.symm.trans stated) Bool.false_ne_true
  | stated spells spellsBody =>
    exact ⟨_, _, _, _, rfl, rfl, ne_nil_of_roleOf (by decide) spells.begins, spellsBody⟩

/-- Two runs stand apart, and what lies within the second one does not begin before
the end of the first. -/
theorem IsOrdered.stop_le_start {front between rest : List Lexeme} {span : Span}
    (ordered : IsOrdered (front ++ between ++ rest)) (frontNonempty : front ≠ [])
    (restNonempty : rest ≠ []) (lies : (cover rest).LiesIn span) :
    (cover front).stop ≤ span.start := by
  obtain ⟨frontOrdered, restOrdered, apart⟩ := isOrdered_append_iff.mp ordered
  refine UInt32.le_trans ?_ lies.starts
  rw [(isOrdered_append_iff.mp frontOrdered).1.cover_eq frontNonempty,
    restOrdered.cover_eq restNonempty]
  exact apart _ (List.mem_append_left between (List.getLast_mem frontNonempty)) _
    (List.head_mem restNonempty)

theorem IsOrdered.cover_nonempty (ordered : IsOrdered lexemes) (nonempty : lexemes ≠ []) :
    (cover lexemes).start < (cover lexemes).stop := by
  have lies := ordered.cover_liesIn _ (List.head_mem nonempty)
  exact UInt32.lt_of_lt_of_le (UInt32.lt_of_le_of_lt lies.starts lies.nonempty) lies.stops

theorem IsOrdered.cover_join_of_liesIn {front between rest : List Lexeme} {span : Span}
    (ordered : IsOrdered (front ++ between ++ rest)) (frontNonempty : front ≠ [])
    (restNonempty : rest ≠ []) (lies : (cover rest).LiesIn span) :
    (cover front).join span = ⟨(cover front).start, span.stop⟩ := by
  have frontOrdered := ordered.of_append_left.of_append_left
  have stops := ordered.stop_le_start frontNonempty restNonempty lies
  have starts := frontOrdered.cover_nonempty frontNonempty
  exact Span.join_eq (frontOrdered.cover_present frontNonempty) lies.present
    (UInt32.le_of_lt (UInt32.lt_of_lt_of_le starts stops))
    (UInt32.le_of_lt (UInt32.lt_of_le_of_lt stops lies.nonempty))

theorem Spells.ne_nil_of_not_isVacant (spells : Spells modes (.expression pattern) lexemes)
    (notVacant : pattern.isVacant = false) : lexemes ≠ [] := by
  rcases spells.begins with ⟨-, rfl⟩ | begins
  · cases notVacant
  · exact ne_nil_of_roleOf_mem (by decide) begins

/-- What is left when all statements are taken away lies within the lexemes, if
anything is left. -/
theorem Spells.scopedSpan_liesIn (spells : Spells modes (.expression pattern) lexemes)
    (ordered : IsOrdered lexemes) (notVacant : pattern.isVacant = false) :
    (cover lexemes).LiesIn pattern.scopedSpan := by
  rcases (spells.span_liesIn ordered).2 with isAbsent | lies
  · have present := spells.isPresent ordered notVacant
    rw [isAbsent] at present
    cases present
  · exact lies

/-- A statement contains another one that it applies to exactly if something is left
when both are taken away. -/
theorem Spells.scope_contains_iff {body : Pattern} {statementLexemes bodyLexemes : List Lexeme}
    (spells : Spells modes (.expression body) bodyLexemes)
    (ordered : IsOrdered (statementLexemes ++ bodyLexemes)) (nonempty : statementLexemes ≠ [])
    (somewhere : body.span ≠ .absent) :
    ((cover statementLexemes).join body.scopedSpan).Contains body.span ↔
      (body.isStated && body.isVacant) = false := by
  have bodyOrdered := ordered.of_append_right
  cases stated : body.isStated with
  | false =>
    have lies := (spells.span_liesIn bodyOrdered).1.resolve_left somewhere
    rw [Pattern.scopedSpan_of_not_isStated stated, Bool.false_and]
    exact iff_of_true (Span.join_contains_right lies.present) rfl
  | true =>
    obtain ⟨statement, inner, innerLexemes, restLexemes, rfl, rfl, innerNonempty, spellsRest⟩ :=
      spells.exists_statement stated
    rw [← List.append_assoc] at ordered
    have firstOrdered := ordered.of_append_left.of_append_left
    obtain ⟨innerOrdered, restOrdered, -⟩ := isOrdered_append_iff.mp bodyOrdered
    rw [Statement.scope_scopedSpan, Statement.scope_span, Statement.scope_isVacant, Bool.true_and]
    have innerLies : (cover innerLexemes).LiesIn (cover innerLexemes) :=
      ⟨UInt32.le_refl _, innerOrdered.cover_nonempty innerNonempty, UInt32.le_refl _⟩
    have apart := @IsOrdered.stop_le_start statementLexemes [] innerLexemes _
      (by simpa using ordered.of_append_left) nonempty innerNonempty innerLies
    cases vacant : inner.isVacant with
    | true =>
      rw [Pattern.scopedSpan_of_isVacant vacant,
        Span.join_of_isAbsent_right rfl (firstOrdered.cover_present nonempty),
        Span.join_of_isAbsent_right rfl (innerOrdered.cover_present innerNonempty)]
      refine iff_of_false (fun contains => ?_) Bool.noConfusion
      have beyond := UInt32.lt_of_le_of_lt apart innerLies.nonempty
      exact UInt32.not_le.mpr beyond contains.2
    | false =>
      have restNonempty := spellsRest.ne_nil_of_not_isVacant vacant
      have lies := spellsRest.scopedSpan_liesIn restOrdered vacant
      rw [ordered.cover_join_of_liesIn nonempty restNonempty lies,
        @IsOrdered.cover_join_of_liesIn innerLexemes [] restLexemes _ (by simpa using bodyOrdered)
          innerNonempty restNonempty lies]
      refine iff_of_true ⟨?_, UInt32.le_refl _⟩ rfl
      exact UInt32.le_of_lt (UInt32.lt_of_lt_of_le (firstOrdered.cover_nonempty nonempty) apart)

/-- The span of a statement contains the span of what it applies to, exactly if this
is not another statement of a row that ends in nothing. -/
theorem statement_contains_scope_iff {source : String} {options : Options} {tree : Pattern}
    (short : Text.utf8Size source.toList < 2 ^ 32) (parsed : parse source options = .ok tree)
    {node : Node} (isNode : node ∈ tree.nodes options.modes) {body : Pattern}
    (isScope : node.pattern.scope? = some body) (somewhere : body.span ≠ .absent) :
    node.pattern.span.Contains body.span ↔ node.pattern.dangles = false := by
  obtain ⟨-, spells, -, -⟩ := (parse_eq_ok_iff short).mp parsed
  have ordered := isOrdered_lexemesOf short
  have stated := Pattern.isStated_of_scope? isScope
  rcases spells.isPlaced ordered node isNode with ⟨-, isNegation⟩ | isEmpty | placed
  · exact absurd isNegation (by rw [Pattern.isNegation_of_isStated stated]; exact Bool.false_ne_true)
  · rw [isEmpty] at stated
    cases stated
  · obtain ⟨front, after, all, lead, inner, rfl, -, spellsNode, -⟩ := placed
    rw [all] at ordered
    have innerOrdered :=
      ordered.of_append_left.of_append_right
    obtain ⟨statement, scope, statementLexemes, scopeLexemes, rfl, pattern_eq, nonempty,
      spellsScope⟩ := spellsNode.exists_statement stated
    rw [pattern_eq, Statement.scope_scope?, Option.some.injEq] at isScope
    rw [pattern_eq, isScope, Statement.scope_span, Statement.scope_dangles]
    rw [isScope] at spellsScope
    exact spellsScope.scope_contains_iff innerOrdered nonempty somewhere

set_option maxRecDepth 4000 in
theorem statement_contains_scope_of_binding :
    parse "let a=.;b" {} = .ok (.binding "a" ⟨4, 5⟩ (.dot ⟨6, 7⟩) (.use "b" ⟨8, 9⟩) ⟨0, 9⟩) ∧
      (Span.mk 0 9).Contains ⟨8, 9⟩ := by
  have parsed : parse "let a=.;b" {} =
      .ok (.binding "a" ⟨4, 5⟩ (.dot ⟨6, 7⟩) (.use "b" ⟨8, 9⟩) ⟨0, 9⟩) := by cbv
  have reaches := statement_contains_scope_iff (by decide) parsed (Pattern.self_mem_nodes _ _) rfl
    (by decide)
  exact ⟨parsed, reaches.mpr rfl⟩

set_option maxRecDepth 4000 in
/-- In a row of statements before nothing, the first does not contain the second. -/
theorem exists_statement_not_contains_scope :
    ¬ ∀ (source : String) (options : Options) (tree : Pattern),
      Text.utf8Size source.toList < 2 ^ 32 → parse source options = .ok tree →
        ∀ node ∈ tree.nodes options.modes, ∀ body, node.pattern.scope? = some body →
          body.span ≠ .absent → node.pattern.span.Contains body.span := by
  intro contained
  have parsed : parse "enable lazy; disable lazy;" {} =
      .ok (.directed (.toggle .lazy true ⟨0, 12⟩)
        (.directed (.toggle .lazy false ⟨13, 26⟩) .empty ⟨13, 26⟩) ⟨0, 12⟩) := by cbv
  have contains := contained _ _ _ (by decide) parsed _ (Pattern.self_mem_nodes _ _) _ rfl
    (by decide)
  revert contains
  decide

end PatternSyntax
