import PatternSyntax.Proofs.Soundness

/-!
# Completeness of reading

A canonical tree is read from every spelling of it, unless what comes next goes
on with it. The parsers look one lexeme ahead, and a spelling is taken apart the
way they do: an operand ends where its operator is not followed by another one.

Two things about lexemes are needed that the grammar does not speak of. Every
lexeme stands somewhere, so that it is not taken for nothing, and a quoted text
does not read like the name that comes before the text of a test.
-/

namespace PatternSyntax

/-- The lexeme was cut out of a source. -/
structure Lexeme.IsRegular (lexeme : Lexeme) : Prop where
  present : lexeme.span.isAbsent = false
  quoted : lexeme.kind = .string → lexeme.text ≠ "in"

namespace Phrase

/-- Where a phrase cannot be left out, its pattern is not vacant. -/
def IsThere : Phrase → Prop
  | .intersection pattern | .sequence pattern | .term pattern | .negation pattern
  | .operand pattern => pattern.isVacant = false
  | _ => True

/-- A lexeme of the given role is taken neither for a further word of the phrase
nor for a statement in it. -/
def Settles (next : Role) : Phrase → Prop
  | .statement _ => True
  | _ => next ≠ .modifier ∧ next ≠ .statement

open Grammar PatternSyntax.Parser in
/-- The phrase is read between two cursors. -/
def Parses (levels : Nat) (modes : Modes) (before after : Cursor) : Phrase → Prop
  | .expression pattern => scope levels modes before = .accept (pattern, pattern.scopedSpan) after
  | .statement content =>
    Grammar.statement (bare levels modes) before =
      .accept (content, before.span.join after.previous) after
  | .alternation pattern => bare levels modes before = .accept pattern after
  | .moreAlternatives patterns =>
    Repeats (nextAlternative (Grammar.intersection (Grammar.sequence (Grammar.term levels modes))))
      before patterns after
  | .intersection pattern =>
    Grammar.intersection (Grammar.sequence (Grammar.term levels modes)) before =
      .accept pattern after
  | .moreOperands patterns =>
    Repeats (nextOperand (Grammar.sequence (Grammar.term levels modes))) before patterns after
  | .sequence pattern =>
    Grammar.sequence (Grammar.term levels modes) before = .accept pattern after
  | .moreTerms patterns => Repeats (Grammar.term levels modes) before patterns after
  | .term pattern => Grammar.term levels modes before = .accept pattern after
  | .negation pattern => Grammar.negation levels modes before = .accept pattern after
  | .operand pattern => lookaroundOrAtom levels modes before = .accept pattern after

end Phrase

open Pattern (onlyLastRunsOn areCanonical greatestNesting lastRunsOn)
open Grammar PatternSyntax.Parser

theorem Spells.isThere {modes : Modes} {phrase : Phrase} {lexemes : List Lexeme}
    (spells : Spells modes phrase lexemes) (regular : ∀ lexeme ∈ lexemes, lexeme.IsRegular) :
    phrase.IsThere := by
  induction spells with
  | intersected _ _ _ isThere _ =>
    refine Pattern.intersectionOf_isVacant _ _ _ (isThere fun lexeme member => regular lexeme ?_)
    simp [member]
  | terms _ _ isThere _ =>
    refine Pattern.sequenceOf_isVacant _ _ (isThere fun lexeme member => regular lexeme ?_)
    simp [member]
  | once _ isThere => exact isThere regular
  | negated _ _ isThere =>
    refine negate_isVacant _ _ _ (isThere fun lexeme member => regular lexeme ?_)
    simp [member]
  | atom spells =>
    cases spells with
    | @literal text _ =>
      have present := (regular text List.mem_cons_self).present
      refine decide_eq_false fun same => ?_
      rw [show text.span = .absent from congrArg Literal.span same] at present
      cases present
    | _ => rfl
  | repeated | lookaround | group => rfl
  | _ => trivial

/-! ## What follows an operand -/

variable {first : Pattern} {more : List Pattern} {lexemes : List Lexeme} {between after : Cursor}

theorem stops_first_term (canonical : onlyLastRunsOn (first :: more))
    (begins : (Phrase.moreTerms more).Begins lexemes) (reads : between.Reads lexemes after)
    (stops : (Phrase.moreTerms (first :: more)).Stops (roleOf after.rest)) :
    (Phrase.term first).Stops (roleOf between.rest) ∧
      (Phrase.moreTerms more).Stops (roleOf after.rest) := by
  obtain ⟨noTerm, stops⟩ := stops
  obtain ⟨noRepetition, others⟩ := stops (List.cons_ne_nil _ _)
  rcases begins with ⟨rfl, rfl⟩ | ⟨isTerm, nonempty⟩
  · obtain rfl := Cursor.reads_nil_iff.mp reads
    rw [lastRunsOn] at others
    exact ⟨⟨noRepetition, fun runs => ⟨noTerm, others runs⟩⟩, noTerm, absurd rfl⟩
  · rw [reads.roleOf_eq_of_decisive (by decide) isTerm]
    obtain ⟨second, more, rfl⟩ := List.exists_cons_of_ne_nil nonempty
    rw [lastRunsOn] at others
    simp only [onlyLastRunsOn, Bool.and_eq_true, Bool.not_eq_true'] at canonical
    exact ⟨⟨by decide, by simp [canonical.1]⟩, noTerm, fun _ => ⟨noRepetition, others⟩⟩

theorem stops_first_operand (canonical : onlyLastRunsOn (first :: more))
    (begins : (Phrase.moreOperands more).Begins lexemes) (reads : between.Reads lexemes after)
    (stops : (Phrase.moreOperands (first :: more)).Stops (roleOf after.rest)) :
    (Phrase.sequence first).Stops (roleOf between.rest) ∧
      (Phrase.moreOperands more).Stops (roleOf after.rest) := by
  obtain ⟨noAmpersand, stops⟩ := stops
  obtain ⟨noTerm, noRepetition, others⟩ := stops (List.cons_ne_nil _ _)
  rcases begins with ⟨rfl, rfl⟩ | ⟨isAmpersand, nonempty⟩
  · obtain rfl := Cursor.reads_nil_iff.mp reads
    rw [lastRunsOn] at others
    exact ⟨⟨noTerm, noRepetition, fun runs => ⟨noAmpersand, others runs⟩⟩, noAmpersand, absurd rfl⟩
  · rw [reads.roleOf_eq_of_decisive (by decide) isAmpersand]
    obtain ⟨second, more, rfl⟩ := List.exists_cons_of_ne_nil nonempty
    rw [lastRunsOn] at others
    simp only [onlyLastRunsOn, Bool.and_eq_true, Bool.not_eq_true'] at canonical
    exact ⟨⟨by decide, by decide, by simp [canonical.1]⟩, noAmpersand,
      fun _ => ⟨noTerm, noRepetition, others⟩⟩

theorem stops_first_alternative (canonical : onlyLastRunsOn (first :: more))
    (begins : (Phrase.moreAlternatives more).Begins lexemes) (reads : between.Reads lexemes after)
    (stops : (Phrase.moreAlternatives (first :: more)).Stops (roleOf after.rest)) :
    (Phrase.intersection first).Stops (roleOf between.rest) ∧
      (Phrase.moreAlternatives more).Stops (roleOf after.rest) := by
  obtain ⟨noBar, stops⟩ := stops
  obtain ⟨noTerm, noAmpersand, noRepetition⟩ := stops (List.cons_ne_nil _ _)
  rcases begins with ⟨rfl, rfl⟩ | ⟨isBar, nonempty⟩
  · obtain rfl := Cursor.reads_nil_iff.mp reads
    exact ⟨⟨noTerm, noAmpersand, noRepetition, fun _ => noBar⟩, noBar, absurd rfl⟩
  · rw [reads.roleOf_eq_of_decisive (by decide) isBar]
    obtain ⟨second, more, rfl⟩ := List.exists_cons_of_ne_nil nonempty
    simp only [onlyLastRunsOn, Bool.and_eq_true, Bool.not_eq_true'] at canonical
    exact ⟨⟨by decide, by decide, by decide, by simp [canonical.1]⟩, noBar,
      fun _ => ⟨noTerm, noAmpersand, noRepetition⟩⟩

theorem settled_between {role : Role} {leftOut there : Prop}
    (begins : lexemes = [] ∧ leftOut ∨ roleOf lexemes = role ∧ there) (decisive : role ≠ .other)
    (apart : role ≠ .modifier ∧ role ≠ .statement) (reads : between.Reads lexemes after)
    (settled : roleOf after.rest ≠ .modifier ∧ roleOf after.rest ≠ .statement) :
    roleOf between.rest ≠ .modifier ∧ roleOf between.rest ≠ .statement := by
  rcases begins with ⟨rfl, -⟩ | ⟨begins, -⟩
  · obtain rfl := Cursor.reads_nil_iff.mp reads
    exact settled
  · rwa [reads.roleOf_eq_of_decisive decisive begins]

theorem not_mem_of_begins {roles : List Role} (begins : roleOf lexemes ∈ roles)
    (decisive : .other ∉ roles) (reads : between.Reads lexemes after) {role : Role}
    (apart : role ∉ roles) : roleOf between.rest ≠ role := by
  have nonempty : lexemes ≠ [] := by
    rintro rfl
    exact decisive begins
  rw [reads.rest, roleOf_append_of_ne_nil _ nonempty]
  rintro rfl
  exact apart begins

/-! ## Phrases from their parts -/

variable {levels : Nat} {modes : Modes} {before middle : Cursor}

theorem bare_parses {pattern : Pattern} (unstated : pattern.isStated = false)
    (noStatement : roleOf before.rest ≠ .statement)
    (parses : (Phrase.alternation pattern).Parses levels modes before after) :
    (Phrase.expression pattern).Parses levels modes before after :=
  scope_eq_accept_iff.mpr (.inl ⟨(statement_eq_decline_iff commits_alternation).mpr noStatement,
    parses, Pattern.scopedSpan_of_not_isStated unstated⟩)

theorem stated_parses {content : Statement} {body : Pattern} {statementLexemes : List Lexeme}
    (reads : before.Reads statementLexemes between) (nonempty : statementLexemes ≠ [])
    (statementParses : (Phrase.statement content).Parses (levels + 1) modes before between)
    (bodyParses : (Phrase.expression body).Parses levels (content.modes modes) between after) :
    (Phrase.expression (content.scope body ((cover statementLexemes).join
      body.scopedSpan))).Parses (levels + 1) modes before after := by
  refine scope_eq_accept_iff.mpr (.inr ⟨content, before.span.join between.previous, between, levels,
    body, statementParses, rfl, ?_, ?_⟩)
  · rw [Statement.scope_scopedSpan]
    exact bodyParses
  · rw [reads.cover_eq nonempty, Statement.scope_scopedSpan]

theorem binding_parses {word name equals stop : Lexeme} {bound : Pattern}
    (isLet : word.IsKeyword "let") (isName : name.kind = .identifier)
    (isEquals : equals.kind = .equals) (reads : before.Reads ([word] ++ [name] ++ [equals]) between)
    (parses : (Phrase.alternation bound).Parses levels modes between middle)
    (stops : stop.kind = .semicolon) (readsStop : middle.Reads [stop] after) :
    (Phrase.statement (.binding name.text name.span bound)).Parses levels modes before after := by
  refine statement_of_binding (binding_eq_accept_iff.mpr ⟨word, name, equals, between, bound, middle,
    stop, ⟨isLet, isName, isEquals⟩, reads, parses, ⟨stops, readsStop⟩, rfl, ?_⟩)
  rw [readsStop.previous, reads.span_eq]
  rfl

theorem nothing_parses (stops : (Phrase.alternation .empty).Stops (roleOf before.rest)) :
    (Phrase.alternation .empty).Parses levels modes before before := by
  obtain ⟨noTerm, noAmpersand, noBar, -⟩ := stops
  refine orElse_of_decline ?_ rfl
  rw [alternatives_eq_decline_iff (intersection_progresses _ _),
    intersection_eq_decline_iff (sequence_progresses _ _),
    sequence_eq_decline_iff (term_progresses _ _), term_eq_decline_iff]
  exact ⟨noBar, noAmpersand, noTerm⟩

/-- An operator that may stand before the first operand is found exactly if it is
there. -/
theorem optional_accept_of_role {kind : TokenKind} {found : Option Lexeme}
    (isFound : ∀ lexeme ∈ found, lexeme.kind = kind) (reads : before.Reads found.toList between)
    {role : Role} (plays : ∀ lexeme : Lexeme, lexeme.kind = kind → lexeme.role = role)
    (decisive : role ≠ .other) (apart : roleOf between.rest ≠ role) :
    (optional (accept kind)) before = .accept found between := by
  refine optional_accept_eq_accept_iff.mpr ⟨isFound, reads, fun _ lexeme member isKind => ?_⟩
  exact (roleOf_ne_iff decisive).mp apart lexeme member (plays lexeme isKind)

theorem alternatives_parses {bar : Option Lexeme} (isBar : ∀ lexeme ∈ bar, lexeme.kind = .pipe)
    (readsBar : before.Reads bar.toList between) (apart : roleOf between.rest ≠ .bar)
    (firstParses : (Phrase.intersection first).Parses levels modes between middle)
    (moreParse : (Phrase.moreAlternatives more).Parses levels modes middle after) :
    (Phrase.alternation (.alternationOf before.span first more)).Parses levels modes before after :=
  orElse_of_accept ((alternatives_eq_accept_iff (intersection_progresses _ _)).mpr ⟨bar, between,
    first, middle, more, optional_accept_of_role isBar readsBar (fun _ => Lexeme.role_eq_bar_iff.mpr)
      (by decide) apart, firstParses, moreParse, rfl⟩)

theorem nextAlternative_parses {bar : Lexeme} (isBar : bar.kind = .pipe)
    (readsBar : before.Reads [bar] between)
    (parses : (Phrase.intersection first).Parses levels modes between middle)
    (moreParse : (Phrase.moreAlternatives more).Parses levels modes middle after) :
    (Phrase.moreAlternatives (first :: more)).Parses levels modes before after :=
  .step (nextAlternative_eq_accept_iff.mpr ⟨bar, between, ⟨isBar, readsBar⟩, parses⟩) moreParse

theorem intersected_parses {ampersand : Option Lexeme}
    (isAmpersand : ∀ lexeme ∈ ampersand, lexeme.kind = .ampersand)
    (readsAmpersand : before.Reads ampersand.toList between)
    (apart : roleOf between.rest ≠ .ampersand)
    (firstParses : (Phrase.sequence first).Parses levels modes between middle)
    (moreParse : (Phrase.moreOperands more).Parses levels modes middle after) :
    (Phrase.intersection (.intersectionOf (before.span.join after.previous) first more)).Parses
      levels modes before after :=
  (intersection_eq_accept_iff (sequence_progresses _ _)).mpr ⟨ampersand, between, first, middle, more,
    optional_accept_of_role isAmpersand readsAmpersand
      (fun _ => Lexeme.role_eq_ampersand_iff.mpr) (by decide) apart, firstParses, moreParse, rfl⟩

theorem nextOperand_parses {ampersand : Lexeme} (isAmpersand : ampersand.kind = .ampersand)
    (readsAmpersand : before.Reads [ampersand] between)
    (parses : (Phrase.sequence first).Parses levels modes between middle)
    (moreParse : (Phrase.moreOperands more).Parses levels modes middle after) :
    (Phrase.moreOperands (first :: more)).Parses levels modes before after :=
  .step (nextOperand_eq_accept_iff.mpr ⟨ampersand, between, ⟨isAmpersand, readsAmpersand⟩, parses⟩)
    moreParse

theorem terms_parses (firstParses : (Phrase.term first).Parses levels modes before middle)
    (moreParse : (Phrase.moreTerms more).Parses levels modes middle after) :
    (Phrase.sequence (.sequenceOf first more)).Parses levels modes before after :=
  (sequence_eq_accept_iff (term_progresses _ _)).mpr ⟨first, middle, more, firstParses, moreParse,
    rfl⟩

theorem once_parses {pattern : Pattern} (complete : roleOf after.rest ≠ .repetition)
    (parses : (Phrase.negation pattern).Parses levels modes before after) :
    (Phrase.term pattern).Parses levels modes before after := by
  rw [Phrase.Parses, term_eq]
  exact bind_eq_accept_iff.mpr ⟨pattern, after, parses, repeated_eq_accept_of_ne complete⟩

theorem repeated_parses {pattern : Pattern} {bounds : Bounds} {preference : Quantifier}
    {boundsLexemes preferenceLexemes : List Lexeme}
    (parses : (Phrase.negation pattern).Parses levels modes before between)
    (spellsBounds : SpellsBounds bounds boundsLexemes)
    (spellsPreference : SpellsPreference modes.lazy preference preferenceLexemes)
    (reads : between.Reads (boundsLexemes ++ preferenceLexemes) after)
    (complete : roleOf after.rest ≠ .modifier ∧ roleOf after.rest ≠ .repetition) :
    (Phrase.term (.repetition pattern bounds preference
      (pattern.span.join (cover (boundsLexemes ++ preferenceLexemes))))).Parses levels modes
        before after := by
  rw [Phrase.Parses, term_eq, reads.cover_eq (by simp [spellsBounds.ne_nil])]
  exact bind_eq_accept_iff.mpr ⟨pattern, between, parses,
    repeated_eq_accept spellsBounds spellsPreference reads complete⟩

theorem negated_parses {bangs : List Lexeme} {body : Pattern}
    (areBangs : ∀ bang ∈ bangs, bang.kind = .bang) (reads : before.Reads bangs between)
    (fits : bangs.length ≤ levels)
    (parses : (Phrase.operand body).Parses (levels - bangs.length) modes between after) :
    (Phrase.negation (negate (bangs.foldl (fun span bang => span.join bang.span) .absent)
      bangs.length body)).Parses levels modes before after :=
  negation_eq_accept_iff.mpr ⟨bangs, between, body, areBangs, reads, fits, parses, rfl⟩

theorem expression_of_parses {body : Pattern}
    (parses : (Phrase.expression body).Parses levels modes before after) :
    expression (levels + 1) modes before = .accept body after :=
  expression_eq_accept_iff.mpr ⟨levels, body.scopedSpan, rfl, parses⟩

theorem lookaround_parses {operator : Lexeme} {kind : Lookaround} {body : Pattern}
    (isLookaround : lookaroundOf? operator.kind = some kind) (reads : before.Reads [operator] between)
    (parses : (Phrase.expression body).Parses levels modes between after) :
    (Phrase.operand (.lookaround kind body (operator.span.join body.span))).Parses (levels + 1) modes
      before after :=
  orElse_of_accept (lookaround_eq_accept_iff.mpr ⟨operator, kind, between, body, isLookaround, reads,
    expression_of_parses parses, rfl⟩)

/-- Atoms are told from lookarounds by their first lexeme. -/
theorem operand_of_atom {pattern : Pattern}
    (accepted : atom modes.unicode (expression levels modes) before = .accept pattern after) :
    (Phrase.operand pattern).Parses levels modes before after := by
  refine orElse_of_decline ?_ accepted
  refine (lookaround_eq_decline_iff (commits_expression _ _)).mpr fun lexeme member => ?_
  refine Option.eq_none_iff_forall_ne_some.mpr fun kind isLookaround => ?_
  have declined : atom modes.unicode (expression levels modes) before = .decline := by
    refine (atom_eq_decline_iff (commits_expression _ _)).mpr fun other otherMember _ => .inr ?_
    rw [Option.mem_unique otherMember member]
    unfold lookaroundOf? at isLookaround
    split at isLookaround
    · exact .inl ‹_›
    · exact .inr ‹_›
    · cases isLookaround
  rw [declined] at accepted
  cases accepted

theorem group_parses {kind : GroupKind} {opening inner : List Lexeme} {closing : Lexeme}
    {body : Pattern} (spellsOpening : SpellsOpening kind opening)
    (readsOpening : before.Reads opening between) (readsBody : between.Reads inner middle)
    (parses : (Phrase.expression body).Parses levels modes between middle)
    (closes : closing.kind = .closeParen) (readsClosing : middle.Reads [closing] after) :
    (Phrase.operand (.group kind body (cover (opening ++ inner ++ [closing])))).Parses (levels + 1)
      modes before after := by
  rw [((readsOpening.trans readsBody).trans readsClosing).cover_eq (by simp), readsClosing.previous]
  exact operand_of_atom (orElse_of_accept (group_eq_accept_iff.mpr ⟨kind, opening, between, body,
    middle, closing, ⟨spellsOpening, readsOpening⟩, expression_of_parses parses,
    ⟨closes, readsClosing⟩, rfl⟩))

/-! ## Rows of phrases

Alternatives, operands and terms are read in rows. A member of a row is read as far
as the next one begins, and the last member as far as the row itself.
-/

/-- A canonical phrase is read from the lexemes, wherever it fits and what comes next
does not go on with it. -/
def Phrase.IsReadFrom (modes : Modes) (lexemes : List Lexeme) (phrase : Phrase) : Prop :=
  (∀ lexeme ∈ lexemes, lexeme.IsRegular) → phrase.isCanonical →
    ∀ {levels : Nat}, phrase.nesting ≤ levels → ∀ {before after : Cursor},
      before.Reads lexemes after → phrase.Stops (roleOf after.rest) →
        phrase.Settles (roleOf after.rest) → phrase.Parses levels modes before after

/-- The kinds of rows. -/
inductive Row where
  | alternatives
  | operands
  | terms

namespace Row

/-- One pattern of the row. -/
def member : Row → Pattern → Phrase
  | .alternatives => .intersection
  | .operands => .sequence
  | .terms => .term

/-- The patterns that are left of the row. -/
def members : Row → List Pattern → Phrase
  | .alternatives => .moreAlternatives
  | .operands => .moreOperands
  | .terms => .moreTerms

theorem stops_first (row : Row) (canonical : onlyLastRunsOn (first :: more))
    (begins : (row.members more).Begins lexemes) (reads : between.Reads lexemes after)
    (stops : (row.members (first :: more)).Stops (roleOf after.rest)) :
    (row.member first).Stops (roleOf between.rest) ∧
      (row.members more).Stops (roleOf after.rest) := by
  cases row with
  | alternatives => exact stops_first_alternative canonical begins reads stops
  | operands => exact stops_first_operand canonical begins reads stops
  | terms => exact stops_first_term canonical begins reads stops

theorem settles_first (row : Row) (begins : (row.members more).Begins lexemes)
    (reads : between.Reads lexemes after)
    (settles : (row.members more).Settles (roleOf after.rest)) :
    (row.member first).Settles (roleOf between.rest) := by
  cases row with
  | alternatives | operands | terms =>
    exact settled_between begins (by decide) (by decide) reads settles

variable {row : Row} {firstLexemes moreLexemes : List Lexeme}

theorem canonical_cons (canonical : (row.members (first :: more)).isCanonical) :
    (row.member first).isCanonical ∧ onlyLastRunsOn (first :: more) ∧
      (row.members more).isCanonical := by
  cases row with
  | alternatives | operands | terms => exact Pattern.canonical_cons canonical

theorem nesting_cons_le (fits : (row.members (first :: more)).nesting ≤ levels) :
    (row.member first).nesting ≤ levels ∧ (row.members more).nesting ≤ levels := by
  cases row with
  | alternatives | operands | terms => exact Nat.max_le.mp fits

/-- The first member of a row is read, and then the others. -/
theorem exists_parses (row : Row) (firstIsRead : (row.member first).IsReadFrom modes firstLexemes)
    (moreAreRead : (row.members more).IsReadFrom modes moreLexemes)
    (begins : (row.members more).Begins moreLexemes)
    (regular : ∀ lexeme ∈ firstLexemes ++ moreLexemes, lexeme.IsRegular)
    (canonical : (row.members (first :: more)).isCanonical)
    (fits : (row.members (first :: more)).nesting ≤ levels)
    (reads : before.Reads (firstLexemes ++ moreLexemes) after)
    (stops : (row.members (first :: more)).Stops (roleOf after.rest))
    (settles : (row.members more).Settles (roleOf after.rest)) :
    ∃ middle, before.Reads firstLexemes middle ∧
      (row.member first).Parses levels modes before middle ∧
        (row.members more).Parses levels modes middle after := by
  obtain ⟨middle, readsFirst, readsMore⟩ := Cursor.reads_append_iff.mp reads
  obtain ⟨firstRegular, moreRegular⟩ := List.forall_mem_append.mp regular
  obtain ⟨firstCanonical, onlyLast, moreCanonical⟩ := canonical_cons canonical
  obtain ⟨firstFits, moreFits⟩ := nesting_cons_le fits
  obtain ⟨stopsFirst, stopsMore⟩ := row.stops_first onlyLast begins readsMore stops
  have firstParses := firstIsRead firstRegular firstCanonical firstFits readsFirst stopsFirst
    (row.settles_first begins readsMore settles)
  have moreParse := moreAreRead moreRegular moreCanonical moreFits readsMore stopsMore settles
  exact ⟨middle, readsFirst, firstParses, moreParse⟩

end Row

variable {firstLexemes moreLexemes : List Lexeme}

theorem alternatives_isReadFrom {bar : Option Lexeme} (isBar : ∀ lexeme ∈ bar, lexeme.kind = .pipe)
    (spellsFirst : Spells modes (.intersection first) firstLexemes)
    (spellsMore : Spells modes (.moreAlternatives more) moreLexemes)
    (firstIsRead : (Phrase.intersection first).IsReadFrom modes firstLexemes)
    (moreAreRead : (Phrase.moreAlternatives more).IsReadFrom modes moreLexemes) :
    (Phrase.alternation (.alternationOf (firstSpan (bar.toList ++ firstLexemes)) first
      more)).IsReadFrom modes (bar.toList ++ firstLexemes ++ moreLexemes) := by
  intro regular canonical levels fits before after reads stops settles
  rw [Phrase.isCanonical, Pattern.alternationOf_isCanonical] at canonical
  rw [Phrase.nesting, Pattern.alternationOf_nesting] at fits
  rw [List.append_assoc] at regular reads
  obtain ⟨-, rowRegular⟩ := List.forall_mem_append.mp regular
  obtain ⟨between, readsBar, readsRow⟩ := Cursor.reads_append_iff.mp reads
  -- Something stands in the row, so that a repetition after it would go on with it.
  have isThere := spellsFirst.isThere (List.forall_mem_append.mp rowRegular).1
  obtain ⟨noTerm, noAmpersand, noBar, onlyVacant⟩ := stops
  rw [Pattern.alternationOf_isVacant _ _ _ isThere] at onlyVacant
  have noRepetition : roleOf after.rest ≠ .repetition := fun isRepetition =>
    Bool.false_ne_true (onlyVacant isRepetition)
  have rowStops : (Phrase.moreAlternatives (first :: more)).Stops (roleOf after.rest) :=
    ⟨noBar, fun _ => ⟨noTerm, noAmpersand, noRepetition⟩⟩
  obtain ⟨middle, readsFirst, firstParses, moreParse⟩ := Row.alternatives.exists_parses firstIsRead
    moreAreRead spellsMore.begins rowRegular canonical fits readsRow rowStops settles
  have begins := spellsFirst.begins
  have nonempty : bar.toList ++ firstLexemes ≠ [] := by
    simp [ne_nil_of_roleOf_mem (by decide) begins]
  rw [← (readsBar.trans readsFirst).span_eq_firstSpan nonempty]
  exact alternatives_parses isBar readsBar
    (not_mem_of_begins begins (by decide) readsFirst (by decide)) firstParses moreParse

theorem intersected_isReadFrom {ampersand : Option Lexeme}
    (isAmpersand : ∀ lexeme ∈ ampersand, lexeme.kind = .ampersand)
    (spellsFirst : Spells modes (.sequence first) firstLexemes)
    (spellsMore : Spells modes (.moreOperands more) moreLexemes)
    (firstIsRead : (Phrase.sequence first).IsReadFrom modes firstLexemes)
    (moreAreRead : (Phrase.moreOperands more).IsReadFrom modes moreLexemes) :
    (Phrase.intersection (.intersectionOf (cover (ampersand.toList ++ firstLexemes ++ moreLexemes))
      first more)).IsReadFrom modes (ampersand.toList ++ firstLexemes ++ moreLexemes) := by
  intro regular canonical levels fits before after reads stops settles
  rw [Phrase.isCanonical, Pattern.intersectionOf_isCanonical] at canonical
  rw [Phrase.nesting, Pattern.intersectionOf_nesting] at fits
  have begins := spellsFirst.begins
  rw [reads.cover_eq (by simp [ne_nil_of_roleOf (by decide) begins])]
  rw [List.append_assoc] at regular reads
  obtain ⟨-, rowRegular⟩ := List.forall_mem_append.mp regular
  obtain ⟨between, readsAmpersand, readsRow⟩ := Cursor.reads_append_iff.mp reads
  obtain ⟨noTerm, noAmpersand, noRepetition, others⟩ := stops
  rw [Pattern.intersectionOf_runsOn] at others
  obtain ⟨middle, readsFirst, firstParses, moreParse⟩ := Row.operands.exists_parses firstIsRead
    moreAreRead spellsMore.begins rowRegular canonical fits readsRow
    ⟨noAmpersand, fun _ => ⟨noTerm, noRepetition, others⟩⟩ settles
  have notAmpersand : roleOf between.rest ≠ .ampersand := by
    rw [readsFirst.roleOf_eq_of_decisive (by decide) begins]
    decide
  exact intersected_parses isAmpersand readsAmpersand notAmpersand firstParses moreParse

theorem terms_isReadFrom (spellsMore : Spells modes (.moreTerms more) moreLexemes)
    (firstIsRead : (Phrase.term first).IsReadFrom modes firstLexemes)
    (moreAreRead : (Phrase.moreTerms more).IsReadFrom modes moreLexemes) :
    (Phrase.sequence (.sequenceOf first more)).IsReadFrom modes (firstLexemes ++ moreLexemes) := by
  intro regular canonical levels fits before after reads stops settles
  rw [Phrase.isCanonical, Pattern.sequenceOf_isCanonical] at canonical
  rw [Phrase.nesting, Pattern.sequenceOf_nesting] at fits
  obtain ⟨noTerm, noRepetition, others⟩ := stops
  rw [Pattern.sequenceOf_runsOn] at others
  obtain ⟨middle, -, firstParses, moreParse⟩ := Row.terms.exists_parses firstIsRead moreAreRead
    spellsMore.begins regular canonical fits reads ⟨noTerm, fun _ => ⟨noRepetition, others⟩⟩ settles
  exact terms_parses firstParses moreParse

/-! ## Phrases with levels of their own -/

theorem stated_isReadFrom {content : Statement} {body : Pattern}
    {statementLexemes bodyLexemes : List Lexeme}
    (spells : Spells modes (.statement content) statementLexemes)
    (statementIsRead : (Phrase.statement content).IsReadFrom modes statementLexemes)
    (bodyIsRead : (Phrase.expression body).IsReadFrom (content.modes modes) bodyLexemes) :
    (Phrase.expression (content.scope body ((cover statementLexemes).join
      body.scopedSpan))).IsReadFrom modes (statementLexemes ++ bodyLexemes) := by
  intro regular canonical levels fits before after reads stops settles
  simp only [Phrase.isCanonical, Statement.scope_isCanonical, Bool.and_eq_true] at canonical
  simp only [Phrase.nesting, Statement.scope_nesting, Nat.max_le] at fits
  simp only [Phrase.Stops, Statement.scope_isVacant] at stops
  obtain ⟨statementRegular, bodyRegular⟩ := List.forall_mem_append.mp regular
  obtain ⟨between, readsStatement, readsBody⟩ := Cursor.reads_append_iff.mp reads
  have statementParses :=
    statementIsRead statementRegular canonical.1 fits.1 readsStatement trivial trivial
  obtain ⟨fewer, rfl⟩ := Nat.exists_eq_add_of_lt (show 0 < levels by omega)
  have bodyFits : body.nesting ≤ fewer := by omega
  have bodyParses := bodyIsRead bodyRegular canonical.2 bodyFits readsBody stops settles
  rw [Nat.zero_add] at statementParses ⊢
  exact stated_parses readsStatement (ne_nil_of_roleOf (by decide) spells.begins) statementParses
    bodyParses

theorem binding_isReadFrom {word name equals stop : Lexeme} {bound : Pattern}
    (isLet : word.IsKeyword "let") (isName : name.kind = .identifier)
    (isEquals : equals.kind = .equals) (stopped : stop.kind = .semicolon)
    (isRead : (Phrase.alternation bound).IsReadFrom modes lexemes) :
    (Phrase.statement (.binding name.text name.span bound)).IsReadFrom modes
      ([word] ++ [name] ++ [equals] ++ lexemes ++ [stop]) := by
  intro regular canonical levels fits before after reads _ _
  obtain ⟨middle, readsBound, readsStop⟩ := Cursor.reads_append_iff.mp reads
  obtain ⟨between, readsHead, readsBound⟩ := Cursor.reads_append_iff.mp readsBound
  have semicolon : roleOf middle.rest = .other := by
    rw [readsStop.roleOf_eq, Lexeme.role, stopped]
  have boundParses := isRead (fun lexeme member => regular lexeme (by simp [member])) canonical fits
    readsBound (by simp [semicolon, Phrase.Stops]) (by simp [semicolon, Phrase.Settles])
  exact binding_parses isLet isName isEquals readsHead boundParses stopped readsStop

theorem negated_isReadFrom {bangs : List Lexeme} {body : Pattern}
    (areBangs : ∀ bang ∈ bangs, bang.kind = .bang)
    (isRead : (Phrase.operand body).IsReadFrom modes lexemes) :
    (Phrase.negation (negate (bangs.foldl (fun span bang => span.join bang.span) .absent)
      bangs.length body)).IsReadFrom modes (bangs ++ lexemes) := by
  intro regular canonical levels fits before after reads stops settles
  simp only [Phrase.isCanonical, negate_isCanonical] at canonical
  simp only [Phrase.nesting, negate_nesting] at fits
  simp only [Phrase.Stops, negate_admitsRepetition, negate_runsOn] at stops
  obtain ⟨between, readsBangs, readsBody⟩ := Cursor.reads_append_iff.mp reads
  have bodyParses := isRead (List.forall_mem_append.mp regular).2 canonical
    (Nat.le_sub_of_add_le' fits) readsBody stops settles
  exact negated_parses areBangs readsBangs (Nat.le_of_add_right_le fits) bodyParses

theorem lookaround_isReadFrom {operator : Lexeme} {kind : Lookaround} {body : Pattern}
    (isLookaround : lookaroundOf? operator.kind = some kind)
    (isRead : (Phrase.expression body).IsReadFrom modes lexemes) :
    (Phrase.operand (.lookaround kind body (operator.span.join body.span))).IsReadFrom modes
      ([operator] ++ lexemes) := by
  intro regular canonical levels fits before after reads stops settles
  simp only [Phrase.isCanonical, Pattern.isCanonical] at canonical
  simp only [Phrase.nesting, Pattern.nesting] at fits
  obtain ⟨fewer, rfl⟩ := Nat.exists_eq_add_of_lt (show 0 < levels by omega)
  obtain ⟨between, readsOperator, readsBody⟩ := Cursor.reads_append_iff.mp reads
  -- The operand takes all that an expression can take, so that nothing of it may come next.
  obtain ⟨admits, others⟩ := stops
  obtain ⟨noTerm, noAmpersand, noBar⟩ := others (by rw [Pattern.runsOn])
  rw [Pattern.admitsRepetition] at admits
  have bodyFits : body.nesting ≤ fewer := by omega
  have bodyParses := isRead (List.forall_mem_append.mp regular).2 canonical bodyFits readsBody
    ⟨noTerm, noAmpersand, noBar, admits⟩ settles
  rw [Nat.zero_add]
  exact lookaround_parses isLookaround readsOperator bodyParses

theorem group_isReadFrom {kind : GroupKind} {opening inner : List Lexeme} {closing : Lexeme}
    {body : Pattern} (spellsOpening : SpellsOpening kind opening)
    (closes : closing.kind = .closeParen)
    (isRead : (Phrase.expression body).IsReadFrom modes inner) :
    (Phrase.operand (.group kind body (cover (opening ++ inner ++ [closing])))).IsReadFrom modes
      (opening ++ inner ++ [closing]) := by
  intro regular canonical levels fits before after reads _ _
  simp only [Phrase.isCanonical, Pattern.isCanonical] at canonical
  simp only [Phrase.nesting, Pattern.nesting] at fits
  obtain ⟨fewer, rfl⟩ := Nat.exists_eq_add_of_lt (show 0 < levels by omega)
  obtain ⟨middle, readsInner, readsClosing⟩ := Cursor.reads_append_iff.mp reads
  obtain ⟨between, readsOpening, readsBody⟩ := Cursor.reads_append_iff.mp readsInner
  have parenthesis : roleOf middle.rest = .other := by
    rw [readsClosing.roleOf_eq, Lexeme.role, closes]
  have bodyFits : body.nesting ≤ fewer := by omega
  have bodyParses := isRead (fun lexeme member => regular lexeme (by simp [member])) canonical
    bodyFits readsBody (by simp [parenthesis, Phrase.Stops]) (by simp [parenthesis, Phrase.Settles])
  rw [Nat.zero_add]
  exact group_parses spellsOpening readsOpening readsBody bodyParses closes readsClosing

/-! ## All phrases -/

/-- A canonical phrase is read from each of its spellings. -/
theorem Spells.isReadFrom {modes : Modes} {phrase : Phrase} {lexemes : List Lexeme}
    (spells : Spells modes phrase lexemes) : phrase.IsReadFrom modes lexemes := by
  induction spells with
  | bare spells isRead =>
    intro regular canonical levels fits before after reads stops settles
    have noStatement : roleOf before.rest ≠ .statement := by
      rcases spells.begins with ⟨rfl, -⟩ | begins
      · obtain rfl := Cursor.reads_nil_iff.mp reads
        exact settles.2
      · exact not_mem_of_begins begins (by decide) reads (by decide)
    exact bare_parses spells.unstated noStatement (isRead regular canonical fits reads stops settles)
  | stated spells _ statementIsRead bodyIsRead =>
    exact stated_isReadFrom spells statementIsRead bodyIsRead
  | directive spells =>
    intro regular _ _ _ _ _ reads _ _
    exact statement_of_spellsDirective commits_alternation spells reads
      fun lexeme member => (regular lexeme member).quoted
  | binding isLet isName isEquals _ stopped isRead =>
    exact binding_isReadFrom isLet isName isEquals stopped isRead
  | nothing =>
    intro _ _ _ _ _ _ reads stops _
    obtain rfl := Cursor.reads_nil_iff.mp reads
    exact nothing_parses stops
  | alternatives isBar spellsFirst spellsMore firstIsRead moreAreRead =>
    exact alternatives_isReadFrom isBar spellsFirst spellsMore firstIsRead moreAreRead
  | noAlternative =>
    intro _ _ _ _ _ _ reads stops _
    obtain rfl := Cursor.reads_nil_iff.mp reads
    exact .stop (nextAlternative_eq_decline_iff.mpr stops.1)
  | nextAlternative isBar _ spellsMore isRead moreAreRead =>
    intro regular canonical levels fits before after reads stops settles
    rw [List.append_assoc] at regular reads
    obtain ⟨between, readsBar, readsRow⟩ := Cursor.reads_append_iff.mp reads
    obtain ⟨middle, -, parses, moreParse⟩ := Row.alternatives.exists_parses isRead moreAreRead
      spellsMore.begins (List.forall_mem_append.mp regular).2 canonical fits readsRow stops settles
    exact nextAlternative_parses isBar readsBar parses moreParse
  | intersected isAmpersand spellsFirst spellsMore firstIsRead moreAreRead =>
    exact intersected_isReadFrom isAmpersand spellsFirst spellsMore firstIsRead moreAreRead
  | noOperand =>
    intro _ _ _ _ _ _ reads stops _
    obtain rfl := Cursor.reads_nil_iff.mp reads
    exact .stop (nextOperand_eq_decline_iff.mpr stops.1)
  | nextOperand isAmpersand _ spellsMore isRead moreAreRead =>
    intro regular canonical levels fits before after reads stops settles
    rw [List.append_assoc] at regular reads
    obtain ⟨between, readsAmpersand, readsRow⟩ := Cursor.reads_append_iff.mp reads
    obtain ⟨middle, -, parses, moreParse⟩ := Row.operands.exists_parses isRead moreAreRead
      spellsMore.begins (List.forall_mem_append.mp regular).2 canonical fits readsRow stops settles
    exact nextOperand_parses isAmpersand readsAmpersand parses moreParse
  | terms _ spellsMore firstIsRead moreAreRead =>
    exact terms_isReadFrom spellsMore firstIsRead moreAreRead
  | noTerm =>
    intro _ _ _ _ _ _ reads stops _
    obtain rfl := Cursor.reads_nil_iff.mp reads
    exact .stop (term_eq_decline_iff.mpr stops.1)
  | nextTerm _ spellsMore isRead moreAreRead =>
    intro regular canonical levels fits before after reads stops settles
    obtain ⟨middle, -, parses, moreParse⟩ := Row.terms.exists_parses isRead moreAreRead
      spellsMore.begins regular canonical fits reads stops settles
    exact .step parses moreParse
  | once _ isRead =>
    intro regular canonical levels fits before after reads stops settles
    obtain ⟨complete, others⟩ := stops
    have negationParses := isRead regular canonical fits reads
      ⟨fun isRepetition => absurd isRepetition complete, others⟩ settles
    exact once_parses complete negationParses
  | repeated _ spellsBounds spellsPreference isRead =>
    intro regular canonical levels fits before after reads stops settles
    simp only [Phrase.isCanonical, Pattern.isCanonical, Bool.and_eq_true] at canonical
    simp only [Phrase.nesting, Pattern.nesting] at fits
    obtain ⟨between, readsBody, readsBounds⟩ := Cursor.reads_append_iff.mp reads
    have isRepetition : roleOf between.rest = .repetition := by
      rw [readsBounds.rest, List.append_assoc]
      exact spellsBounds.role_eq _
    have bodyParses := isRead (List.forall_mem_append.mp regular).1 canonical.2 fits readsBody
      ⟨fun _ => canonical.1, by simp [isRepetition]⟩ (by simp [Phrase.Settles, isRepetition])
    exact repeated_parses bodyParses spellsBounds spellsPreference readsBounds ⟨settles.1, stops.1⟩
  | negated areBangs _ isRead => exact negated_isReadFrom areBangs isRead
  | lookaround isLookaround _ isRead => exact lookaround_isReadFrom isLookaround isRead
  | group spellsOpening _ closes isRead => exact group_isReadFrom spellsOpening closes isRead
  | atom spells =>
    intro _ _ _ _ _ _ reads _ settles
    exact operand_of_atom (atom_of_spellsAtom (commits_expression _ _) spells reads settles.1)

/-- An expression is read from each spelling of a canonical tree, if what comes next
does not go on with it and there are enough levels. -/
theorem expression_complete {modes : Modes} {pattern : Pattern} {lexemes : List Lexeme}
    (spells : Spells modes (.expression pattern) lexemes)
    (regular : ∀ lexeme ∈ lexemes, lexeme.IsRegular) (canonical : pattern.isCanonical)
    {levels : Nat} (fits : pattern.nesting < levels) {before after : Cursor}
    (reads : before.Reads lexemes after) (ends : roleOf after.rest = .other) :
    expression levels modes before = .accept pattern after := by
  obtain ⟨fewer, rfl⟩ := Nat.exists_eq_add_of_lt fits
  have enough : (Phrase.expression pattern).nesting ≤ pattern.nesting + fewer := Nat.le_add_right _ _
  have stops : (Phrase.expression pattern).Stops (roleOf after.rest) := by simp [ends, Phrase.Stops]
  have settles : (Phrase.expression pattern).Settles (roleOf after.rest) := by
    simp [ends, Phrase.Settles]
  exact expression_of_parses (spells.isReadFrom regular canonical enough reads stops settles)

end PatternSyntax
