import PatternSyntax.Proofs.Composition.Expressions
import PatternSyntax.Proofs.Prefixes.Expressions

/-!
# Parts between parentheses

Whatever tokens can be read by themselves can be put between parentheses and next to each
other. Each part becomes a group of what comes of it alone; neither its settings nor what is
left open in it reach beyond its closing parenthesis. Only the parentheses take a level, and
they take the same one for all parts.
-/

namespace PatternSyntax

open PatternSyntax.Grammar PatternSyntax.Parser

section Single

variable {levels : Nat} {modes : Modes} {pattern : Pattern} {before after : Cursor}

theorem intersection_of_sequence (begins : roleOf before.rest ≠ .ampersand)
    (single : roleOf after.rest ≠ .ampersand)
    (parses : (Phrase.sequence pattern).Parses levels modes before after) :
    (Phrase.intersection pattern).Parses levels modes before after :=
  have noAmpersand : before.Reads (none : Option Lexeme).toList before := Cursor.reads_nil_iff.mpr rfl
  intersected_parses (by simp) noAmpersand begins parses
    (.stop (nextOperand_eq_decline_iff.mpr single))

theorem alternation_of_intersection (begins : roleOf before.rest ≠ .bar)
    (single : roleOf after.rest ≠ .bar)
    (parses : (Phrase.intersection pattern).Parses levels modes before after) :
    (Phrase.alternation pattern).Parses levels modes before after :=
  have noBar : before.Reads (none : Option Lexeme).toList before := Cursor.reads_nil_iff.mpr rfl
  alternatives_parses (by simp) noBar begins parses
    (.stop (nextAlternative_eq_decline_iff.mpr single))

end Single

/-- Tokens that are read as a tree, with parentheses around them. -/
structure Part (source : String) (options : Options) where
  opening : Token
  inner : List Token
  closing : Token
  tree : Pattern
  opens : opening.kind = .openParen
  closes : closing.kind = .closeParen
  read : parseTokens source inner options = .ok tree

namespace Part

variable {source : String} {options : Options}

/-- The tokens of the part with its parentheses. -/
def tokens (part : Part source options) : List Token :=
  part.opening :: part.inner ++ [part.closing]

def lexemes (part : Part source options) : List Lexeme :=
  part.tokens.map fun token => token.lexeme source

/-- The group of what is read between the parentheses. -/
def group (part : Part source options) : Pattern :=
  .group .plain part.tree (part.opening.span.join part.closing.span)

/-! ## A single part -/

theorem isError_eq_false_of_mem (part : Part source options) :
    ∀ token ∈ part.tokens, token.kind.isError = false := by
  rw [tokens, List.cons_append, List.forall_mem_cons, List.forall_mem_append, List.forall_mem_singleton,
    part.opens, part.closes]
  exact ⟨rfl, (readAll_of_parseTokens part.read).1, rfl⟩

theorem lexemes_eq (part : Part source options) :
    part.lexemes = [part.opening.lexeme source] ++
      ((part.inner.map fun token => token.lexeme source) ++ [part.closing.lexeme source]) := by
  simp only [lexemes, tokens, List.map_cons, List.map_append, List.map_nil, List.cons_append,
    List.nil_append]

theorem roleOf_lexemes (part : Part source options) (rest : List Lexeme) :
    roleOf (part.lexemes ++ rest) = .term := by
  rw [lexemes_eq, List.append_assoc, List.singleton_append, roleOf_cons, Lexeme.role, Token.lexeme_kind,
    part.opens]

variable {before after : Cursor}

theorem roleOf_eq (part : Part source options) {lexemes : List Lexeme}
    (reads : before.Reads (part.lexemes ++ lexemes) after) : roleOf before.rest = .term := by
  rw [reads.rest, List.append_assoc, part.roleOf_lexemes]

/-- Between the parentheses the tree is read as without them. -/
theorem expression_accepts (part : Part source options) {between middle : Cursor}
    (reads : between.Reads (part.inner.map fun token => token.lexeme source) middle)
    (readsClosing : middle.Reads [part.closing.lexeme source] after) :
    expression options.maxDepth options.modes between = .accept part.tree middle := by
  obtain ⟨final, ended, alone⟩ := expression_accepts_of_readAll (readAll_of_parseTokens part.read).2
  have enclosed : (Cursor.ofTokens source part.inner).Enclosed False between :=
    ⟨⟨part.closing.lexeme source, after.rest, part.closes, by rw [reads.rest, readsClosing.rest]; rfl⟩,
      nofun⟩
  obtain ⟨lexemes, innerFinal, readsAlone, readsInner, accepted⟩ :=
    (closes_expression options.maxDepth options.modes).accepts enclosed alone
  have all : part.inner.map (fun token => token.lexeme source) = lexemes := by
    have rest_eq := readsAlone.rest
    rwa [ended, List.append_nil] at rest_eq
  rw [← all] at readsInner
  rw [accepted, reads.unique readsInner]

theorem operand_parses (part : Part source options) (reads : before.Reads part.lexemes after) :
    (Phrase.operand part.group).Parses options.maxDepth options.modes before after := by
  rw [lexemes_eq] at reads
  obtain ⟨between, readsOpening, readsRest⟩ := Cursor.reads_append_iff.mp reads
  obtain ⟨middle, readsInner, readsClosing⟩ := Cursor.reads_append_iff.mp readsRest
  refine operand_of_atom (orElse_of_accept (group_eq_accept_iff.mpr ⟨.plain,
    [part.opening.lexeme source], between, part.tree, middle, part.closing.lexeme source,
    ⟨.plain part.opens, readsOpening⟩, part.expression_accepts readsInner readsClosing,
    ⟨part.closes, readsClosing⟩, ?_⟩))
  rw [readsOpening.span_eq]
  rfl

/-- A part is a whole operand of every operator. -/
theorem term_parses (part : Part source options) (reads : before.Reads part.lexemes after)
    (complete : roleOf after.rest ≠ .repetition) :
    (Phrase.term part.group).Parses options.maxDepth options.modes before after :=
  once_parses complete (@negated_parses _ _ _ _ _ [] _ (List.forall_mem_nil _)
    (Cursor.reads_nil_iff.mpr rfl) (Nat.zero_le _) (part.operand_parses reads))

theorem sequence_parses (part : Part source options) (reads : before.Reads part.lexemes after)
    (complete : roleOf after.rest ≠ .repetition) (alone : roleOf after.rest ≠ .term) :
    (Phrase.sequence part.group).Parses options.maxDepth options.modes before after :=
  terms_parses (part.term_parses reads complete) (.stop (term_eq_decline_iff.mpr alone))

theorem intersection_parses (part : Part source options) (reads : before.Reads part.lexemes after)
    (complete : roleOf after.rest ≠ .repetition) (alone : roleOf after.rest ≠ .term)
    (single : roleOf after.rest ≠ .ampersand) :
    (Phrase.intersection part.group).Parses options.maxDepth options.modes before after :=
  intersection_of_sequence (by rw [reads.rest, part.roleOf_lexemes]; decide) single
    (part.sequence_parses reads complete alone)

end Part

/-! ## Parts one after the other -/

/-- A part with the token that stands before it. -/
structure Separated (source : String) (options : Options) where
  separator : Token
  part : Part source options

namespace Separated

variable {source : String} {options : Options} {before after : Cursor}
  {more : List (Separated source options)}

def group (separated : Separated source options) : Pattern :=
  separated.part.group

def tokens (separated : Separated source options) : List Token :=
  separated.separator :: separated.part.tokens

def lexemes (separated : Separated source options) : List Lexeme :=
  separated.separator.lexeme source :: separated.part.lexemes

/-- Of parts side by side each one is a term. -/
theorem moreTerms_parse (reads : before.Reads (more.flatMap fun separated => separated.part.lexemes) after)
    (ended : after.rest = []) :
    (Phrase.moreTerms (more.map group)).Parses options.maxDepth options.modes before after := by
  refine @Each.repeats _ _ _ _ (fun value lexemes => ∃ part : Part source options,
    value = part.group ∧ lexemes = part.lexemes) (fun rest => roleOf rest ≠ .repetition) _ _ ?_ ?_
    (each_of_forall _ _ fun separated _ => ⟨separated.part, rfl, rfl⟩) reads ?_
    (term_eq_decline_iff.mpr (by rw [ended]; decide))
  · rintro cursor _ _ final ⟨part, rfl, rfl⟩ reads complete
    exact part.term_parses reads complete
  · rintro _ _ rest ⟨part, rfl, rfl⟩
    rw [part.roleOf_lexemes]
    decide
  · rw [ended]
    decide

/-- After separators of one kind the parts are read one by one, since each one ends where the
next separator stands. -/
theorem repeats {item : Parser Pattern} {kind : TokenKind} {role : Role}
    (plays : ∀ lexeme : Lexeme, lexeme.kind = kind → lexeme.role = role)
    (areSeparators : ∀ separated ∈ more, separated.separator.kind = kind)
    (accepts : ∀ (separated : Separated source options) (cursor final : Cursor),
      separated.separator.kind = kind → cursor.Reads separated.lexemes final →
        roleOf final.rest ∈ [.other, role] → item cursor = .accept separated.group final)
    (reads : before.Reads (more.flatMap lexemes) after) (ended : after.rest = [])
    (declined : item after = .decline) : Repeats item before (more.map group) after := by
  refine @Each.repeats _ _ _ _ (fun value lexemes => ∃ separated : Separated source options,
    separated.separator.kind = kind ∧ value = separated.group ∧ lexemes = separated.lexemes)
    (fun rest => roleOf rest ∈ [.other, role]) _ _ ?_ ?_
    (each_of_forall _ _ fun separated member => ⟨separated, areSeparators separated member, rfl, rfl⟩)
    reads ?_ declined
  · rintro cursor _ _ final ⟨separated, isSeparator, rfl, rfl⟩ reads stops
    exact accepts separated cursor final isSeparator reads stops
  · rintro _ _ rest ⟨separated, isSeparator, rfl, rfl⟩
    rw [lexemes, List.cons_append, roleOf_cons, plays _ isSeparator]
    exact List.mem_cons_of_mem _ List.mem_cons_self
  · rw [ended]
    exact List.mem_cons_self

theorem moreAlternatives_parse (areBars : ∀ separated ∈ more, separated.separator.kind = .pipe)
    (reads : before.Reads (more.flatMap lexemes) after) (ended : after.rest = []) :
    (Phrase.moreAlternatives (more.map group)).Parses options.maxDepth options.modes before after := by
  refine repeats (fun _ => Lexeme.role_eq_bar_iff.mpr) areBars ?_ reads ended
    (nextAlternative_eq_decline_iff.mpr (by rw [ended]; decide))
  intro separated cursor final isBar reads stops
  obtain ⟨between, readsBar, readsPart⟩ := Cursor.reads_cons_iff.mp reads
  have apart (role : Role) (other : role ∉ [Role.other, .bar]) : roleOf final.rest ≠ role :=
    fun same => other (same ▸ stops)
  exact nextAlternative_eq_accept_iff.mpr ⟨_, between, ⟨isBar, readsBar⟩,
    separated.part.intersection_parses readsPart (apart _ (by decide)) (apart _ (by decide))
      (apart _ (by decide))⟩

theorem moreOperands_parse (areAmpersands : ∀ separated ∈ more, separated.separator.kind = .ampersand)
    (reads : before.Reads (more.flatMap lexemes) after) (ended : after.rest = []) :
    (Phrase.moreOperands (more.map group)).Parses options.maxDepth options.modes before after := by
  refine repeats (fun _ => Lexeme.role_eq_ampersand_iff.mpr) areAmpersands ?_ reads ended
    (nextOperand_eq_decline_iff.mpr (by rw [ended]; decide))
  intro separated cursor final isAmpersand reads stops
  obtain ⟨between, readsAmpersand, readsPart⟩ := Cursor.reads_cons_iff.mp reads
  have apart (role : Role) (other : role ∉ [Role.other, .ampersand]) : roleOf final.rest ≠ role :=
    fun same => other (same ▸ stops)
  exact nextOperand_eq_accept_iff.mpr ⟨_, between, ⟨isAmpersand, readsAmpersand⟩,
    separated.part.sequence_parses readsPart (apart _ (by decide)) (apart _ (by decide))⟩

end Separated

/-! ## Composition -/

section Composition

variable {source : String} {options : Options}

/-- Tokens that are read in full at one level are a source of one level more. -/
theorem parseTokens_of_parses {tokens : List Token} {lexemes : List Lexeme} {tree : Pattern}
    (proper : ∀ token ∈ tokens, token.kind.isError = false) (unstated : tree.isStated = false)
    (lexemes_eq : (tokens.map fun token => token.lexeme source) = lexemes)
    (begins : roleOf lexemes ≠ .statement)
    (parses : ∀ before after : Cursor, before.Reads lexemes after → after.rest = [] →
      (Phrase.alternation tree).Parses options.maxDepth options.modes before after) :
    parseTokens source tokens { options with maxDepth := options.maxDepth + 1 } = .ok tree := by
  subst lexemes_eq
  have reads : (Cursor.ofTokens source tokens).Reads (tokens.map fun token => token.lexeme source)
      ⟨[], lastSpan .absent (tokens.map fun token => token.lexeme source),
        (Cursor.ofTokens source tokens).finish⟩ :=
    ⟨(List.append_nil _).symm, rfl, rfl⟩
  have accepted := expression_of_parses (bare_parses unstated begins (parses _ _ reads rfl))
  rw [parseTokens_of_proper proper, readAll, accepted]
  rfl

variable (first : Part source options) {more : List (Separated source options)}
  (several : more ≠ []) {before after : Cursor}

include several

theorem sideBySide_parses
    (reads : before.Reads (first.lexemes ++ more.flatMap fun separated => separated.part.lexemes) after)
    (ended : after.rest = []) :
    (Phrase.alternation (.sequence (first.group :: more.map Separated.group)
      (first.group.span.join (more.getLast several).group.span))).Parses
        options.maxDepth options.modes before after := by
  have begins := first.roleOf_eq reads
  obtain ⟨between, readsFirst, readsMore⟩ := Cursor.reads_append_iff.mp reads
  have complete : roleOf between.rest ≠ .repetition := by
    obtain ⟨second, others, rfl⟩ := List.exists_cons_of_ne_nil several
    rw [second.part.roleOf_eq readsMore]
    decide
  have parses := terms_parses (first.term_parses readsFirst complete)
    (Separated.moreTerms_parse readsMore ended)
  rw [Pattern.sequenceOf, List.getLast?_map, List.getLast?_eq_some_getLast several] at parses
  exact alternation_of_intersection (by rw [begins]; decide) (by rw [ended]; decide)
    (intersection_of_sequence (by rw [begins]; decide) (by rw [ended]; decide) parses)

theorem roleOf_separated {kind : TokenKind} {role : Role}
    (plays : ∀ lexeme : Lexeme, lexeme.kind = kind → lexeme.role = role)
    (areSeparators : ∀ separated ∈ more, separated.separator.kind = kind)
    (reads : before.Reads (more.flatMap Separated.lexemes) after) : roleOf before.rest = role := by
  obtain ⟨second, others, rfl⟩ := List.exists_cons_of_ne_nil several
  rw [List.flatMap_cons, Separated.lexemes, List.cons_append] at reads
  rw [reads.roleOf_eq]
  exact plays _ (areSeparators second List.mem_cons_self)

theorem lastSpan_separated (span : Span) : lastSpan span (more.flatMap Separated.lexemes) =
    (more.getLast several).part.closing.span := by
  conv_lhs => rw [← List.dropLast_append_getLast several]
  rw [List.flatMap_append, List.flatMap_singleton, lastSpan_append, Separated.lexemes, lastSpan_cons,
    Part.lexemes_eq, lastSpan_append, lastSpan_append]
  rfl

theorem alternatives_parse (areBars : ∀ separated ∈ more, separated.separator.kind = .pipe)
    (reads : before.Reads (first.lexemes ++ more.flatMap Separated.lexemes) after)
    (ended : after.rest = []) :
    (Phrase.alternation (.alternation (first.group :: more.map Separated.group)
      (more.foldl (fun span separated => span.join separated.group.span) first.opening.span))).Parses
        options.maxDepth options.modes before after := by
  have begins := first.roleOf_eq reads
  obtain ⟨between, readsFirst, readsMore⟩ := Cursor.reads_append_iff.mp reads
  have bar := roleOf_separated several (fun _ => Lexeme.role_eq_bar_iff.mpr) areBars readsMore
  have noBar : before.Reads (none : Option Lexeme).toList before := Cursor.reads_nil_iff.mpr rfl
  have parses := alternatives_parses (by simp) noBar (by rw [begins]; decide)
    (first.intersection_parses readsFirst (by rw [bar]; decide) (by rw [bar]; decide)
      (by rw [bar]; decide)) (Separated.moreAlternatives_parse areBars readsMore ended)
  have start : before.span = first.opening.span := (first.lexemes_eq ▸ readsFirst).span_eq
  obtain ⟨second, others, rfl⟩ := List.exists_cons_of_ne_nil several
  rw [List.map_cons, Pattern.alternationOf_cons, ← List.map_cons, List.foldl_map, start] at parses
  exact parses

theorem operands_parse (areAmpersands : ∀ separated ∈ more, separated.separator.kind = .ampersand)
    (reads : before.Reads (first.lexemes ++ more.flatMap Separated.lexemes) after)
    (ended : after.rest = []) :
    (Phrase.alternation (.intersection (first.group :: more.map Separated.group)
      (first.opening.span.join (more.getLast several).part.closing.span))).Parses
        options.maxDepth options.modes before after := by
  have begins := first.roleOf_eq reads
  obtain ⟨between, readsFirst, readsMore⟩ := Cursor.reads_append_iff.mp reads
  have ampersand := roleOf_separated several (fun _ => Lexeme.role_eq_ampersand_iff.mpr) areAmpersands
    readsMore
  have noAmpersand : before.Reads (none : Option Lexeme).toList before := Cursor.reads_nil_iff.mpr rfl
  have parses := intersected_parses (by simp) noAmpersand (by rw [begins]; decide)
    (first.sequence_parses readsFirst (by rw [ampersand]; decide) (by rw [ampersand]; decide))
    (Separated.moreOperands_parse areAmpersands readsMore ended)
  have start : before.span = first.opening.span := (first.lexemes_eq ▸ readsFirst).span_eq
  have stop : after.previous = (more.getLast several).part.closing.span := by
    rw [readsMore.previous, lastSpan_separated several]
  obtain ⟨second, others, rfl⟩ := List.exists_cons_of_ne_nil several
  rw [List.map_cons, Pattern.intersectionOf_cons, ← List.map_cons, start, stop] at parses
  exact alternation_of_intersection (by rw [begins]; decide) (by rw [ended]; decide) parses

omit several

theorem isError_eq_false_of_mem_separated {kind : TokenKind} (proper : kind.isError = false)
    (areSeparators : ∀ separated ∈ more, separated.separator.kind = kind) :
    ∀ token ∈ first.tokens ++ more.flatMap Separated.tokens, token.kind.isError = false := by
  rw [List.forall_mem_append, List.forall_mem_flatMap]
  refine ⟨first.isError_eq_false_of_mem, fun separated member => ?_⟩
  rw [Separated.tokens, List.forall_mem_cons, areSeparators separated member]
  exact ⟨proper, separated.part.isError_eq_false_of_mem⟩

theorem lexemes_separated :
    (first.tokens ++ more.flatMap Separated.tokens).map (fun token => token.lexeme source) =
      first.lexemes ++ more.flatMap Separated.lexemes := by
  simp only [List.map_append, List.map_flatMap]
  rfl

theorem roleOf_parts (rest : List Lexeme) : roleOf (first.lexemes ++ rest) ≠ .statement := by
  rw [first.roleOf_lexemes]
  decide

/-- Parts that are put next to each other, with or without tokens between them, are read as
groups of what comes of each part alone. Only the parentheses take one level more. -/
theorem parseTokens_parts (several : more ≠ []) :
    let deeper : Options := { options with maxDepth := options.maxDepth + 1 }
    let groups := first.group :: more.map Separated.group
    let last := (more.getLast several).part
    parseTokens source (first.tokens ++ more.flatMap fun separated => separated.part.tokens) deeper =
        .ok (.sequence groups (first.group.span.join last.group.span)) ∧
      ((∀ separated ∈ more, separated.separator.kind = .pipe) →
        parseTokens source (first.tokens ++ more.flatMap Separated.tokens) deeper =
          .ok (.alternation groups
            (more.foldl (fun span separated => span.join separated.group.span) first.opening.span))) ∧
      ((∀ separated ∈ more, separated.separator.kind = .ampersand) →
        parseTokens source (first.tokens ++ more.flatMap Separated.tokens) deeper =
          .ok (.intersection groups (first.opening.span.join last.closing.span))) := by
  dsimp only
  refine ⟨?_, fun areBars => ?_, fun areAmpersands => ?_⟩
  · have proper : ∀ token ∈ first.tokens ++ more.flatMap fun separated => separated.part.tokens,
        token.kind.isError = false := by
      rw [List.forall_mem_append, List.forall_mem_flatMap]
      exact ⟨first.isError_eq_false_of_mem, fun separated _ => separated.part.isError_eq_false_of_mem⟩
    exact parseTokens_of_parses proper rfl (by simp only [List.map_append, List.map_flatMap]; rfl)
      (roleOf_parts first _) fun _ _ => sideBySide_parses first several
  · exact parseTokens_of_parses (isError_eq_false_of_mem_separated first rfl areBars) rfl
      (lexemes_separated first) (roleOf_parts first _) fun _ _ =>
        alternatives_parse first several areBars
  · exact parseTokens_of_parses (isError_eq_false_of_mem_separated first rfl areAmpersands) rfl
      (lexemes_separated first) (roleOf_parts first _) fun _ _ =>
        operands_parse first several areAmpersands

end Composition

set_option maxRecDepth 4000 in
/-- A lookaround that is left open and a setting both end with their parentheses. -/
theorem parseTokens_parts_of_open_ends :
    parseTokens "(>>)|(enable lazy;a*)|(b*)"
      [⟨.openParen, ⟨0, 1⟩⟩, ⟨.lookAhead, ⟨1, 3⟩⟩, ⟨.closeParen, ⟨3, 4⟩⟩, ⟨.pipe, ⟨4, 5⟩⟩,
        ⟨.openParen, ⟨5, 6⟩⟩, ⟨.reservedName, ⟨6, 12⟩⟩, ⟨.reservedName, ⟨13, 17⟩⟩,
        ⟨.semicolon, ⟨17, 18⟩⟩, ⟨.identifier, ⟨18, 19⟩⟩, ⟨.star, ⟨19, 20⟩⟩, ⟨.closeParen, ⟨20, 21⟩⟩,
        ⟨.pipe, ⟨21, 22⟩⟩, ⟨.openParen, ⟨22, 23⟩⟩, ⟨.identifier, ⟨23, 24⟩⟩, ⟨.star, ⟨24, 25⟩⟩,
        ⟨.closeParen, ⟨25, 26⟩⟩] { maxDepth := 3 } =
      .ok (.alternation [
        .group .plain (.lookaround .ahead .empty ⟨1, 3⟩) ⟨0, 4⟩,
        .group .plain (.directed (.toggle .lazy true ⟨6, 18⟩)
          (.repetition (.use "a" ⟨18, 19⟩) ⟨0, none⟩ .defaultLazy ⟨18, 20⟩) ⟨6, 20⟩) ⟨5, 21⟩,
        .group .plain (.repetition (.use "b" ⟨23, 24⟩) ⟨0, none⟩ .defaultGreedy ⟨23, 25⟩) ⟨22, 26⟩]
        ⟨0, 26⟩) := by
  have lookaround : parseTokens "(>>)|(enable lazy;a*)|(b*)" [⟨.lookAhead, ⟨1, 3⟩⟩] { maxDepth := 2 } =
      .ok (.lookaround .ahead .empty ⟨1, 3⟩) := by cbv
  have stated : parseTokens "(>>)|(enable lazy;a*)|(b*)"
      [⟨.reservedName, ⟨6, 12⟩⟩, ⟨.reservedName, ⟨13, 17⟩⟩, ⟨.semicolon, ⟨17, 18⟩⟩,
        ⟨.identifier, ⟨18, 19⟩⟩, ⟨.star, ⟨19, 20⟩⟩] { maxDepth := 2 } =
      .ok (.directed (.toggle .lazy true ⟨6, 18⟩)
        (.repetition (.use "a" ⟨18, 19⟩) ⟨0, none⟩ .defaultLazy ⟨18, 20⟩) ⟨6, 20⟩) := by cbv
  have repeated : parseTokens "(>>)|(enable lazy;a*)|(b*)" [⟨.identifier, ⟨23, 24⟩⟩, ⟨.star, ⟨24, 25⟩⟩]
      { maxDepth := 2 } = .ok (.repetition (.use "b" ⟨23, 24⟩) ⟨0, none⟩ .defaultGreedy ⟨23, 25⟩) := by cbv
  exact (@parseTokens_parts _ _ ⟨⟨.openParen, ⟨0, 1⟩⟩, _, ⟨.closeParen, ⟨3, 4⟩⟩, _, rfl, rfl, lookaround⟩
    [⟨⟨.pipe, ⟨4, 5⟩⟩, ⟨⟨.openParen, ⟨5, 6⟩⟩, _, ⟨.closeParen, ⟨20, 21⟩⟩, _, rfl, rfl, stated⟩⟩,
      ⟨⟨.pipe, ⟨21, 22⟩⟩, ⟨⟨.openParen, ⟨22, 23⟩⟩, _, ⟨.closeParen, ⟨25, 26⟩⟩, _, rfl, rfl, repeated⟩⟩]
    (List.cons_ne_nil _ _)).2.1 (by simp)

end PatternSyntax
