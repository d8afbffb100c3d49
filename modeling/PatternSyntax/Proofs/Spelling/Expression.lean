import PatternSyntax.Grammar.Expression
import PatternSyntax.Proofs.Spelling.Atom
import PatternSyntax.Proofs.Spelling.Repetition
import PatternSyntax.Proofs.Spelling.Statement

/-!
# Spellings of expressions

The grammar of patterns as a relation between a tree and the lexemes that spell
it. The relation says what may stand where and nothing of how it is found: it
neither looks ahead nor prefers one reading to another. Several trees can
therefore share a spelling, and the canonical one among them is told apart by
the tree alone.

A tree records where its parts stand and which modes hold for them. Both follow
from the lexemes and the modes at the beginning, so the relation gives them too.
-/

namespace PatternSyntax

namespace Grammar

/-- The lookaround that an operator stands for. -/
def lookaroundOf? : TokenKind → Option Lookaround
  | .lookAhead => some .ahead
  | .lookBehind => some .behind
  | _ => none

end Grammar

/-- The span of the first lexeme, if there is one. -/
def firstSpan : List Lexeme → Span
  | [] => .absent
  | lexeme :: _ => lexeme.span

/-- From the beginning of the first lexeme to the end of the last one. -/
def cover (lexemes : List Lexeme) : Span :=
  (firstSpan lexemes).join (lastSpan .absent lexemes)

theorem Cursor.Reads.span_eq_firstSpan {before after : Cursor} {lexemes : List Lexeme}
    (reads : before.Reads lexemes after) (nonempty : lexemes ≠ []) :
    before.span = firstSpan lexemes := by
  cases lexemes with
  | nil => exact absurd rfl nonempty
  | cons lexeme lexemes => exact reads.span_eq

/-- What has been read reaches from the cursor before to the last lexeme. -/
theorem Cursor.Reads.cover_eq {before after : Cursor} {lexemes : List Lexeme}
    (reads : before.Reads lexemes after) (nonempty : lexemes ≠ []) :
    cover lexemes = before.span.join after.previous := by
  rw [cover, reads.span_eq_firstSpan nonempty, reads.previous]
  cases lexemes with
  | nil => exact absurd rfl nonempty
  | cons lexeme lexemes => rfl

namespace Pattern

/-- Alternatives as one pattern. A single one stands for itself. -/
def alternationOf (start : Span) (first : Pattern) (more : List Pattern) : Pattern :=
  match more with
  | [] => first
  | _ =>
    .alternation (first :: more) (more.foldl (fun span member => span.join member.span) start)

/-- Intersected operands as one pattern. A single one stands for itself. -/
def intersectionOf (span : Span) (first : Pattern) (more : List Pattern) : Pattern :=
  match more with
  | [] => first
  | _ => .intersection (first :: more) span

/-- Terms side by side as one pattern. A single one stands for itself. -/
def sequenceOf (first : Pattern) (more : List Pattern) : Pattern :=
  match more.getLast? with
  | none => first
  | some last => .sequence (first :: more) (first.span.join last.span)

theorem alternationOf_cons (start : Span) (first second : Pattern) (more : List Pattern) :
    alternationOf start first (second :: more) = .alternation (first :: second :: more)
      ((second :: more).foldl (fun span member => span.join member.span) start) :=
  rfl

theorem intersectionOf_cons (span : Span) (first second : Pattern) (more : List Pattern) :
    intersectionOf span first (second :: more) = .intersection (first :: second :: more) span :=
  rfl

theorem sequenceOf_cons (first second : Pattern) (more : List Pattern) :
    sequenceOf first (second :: more) = .sequence (first :: second :: more)
      (first.span.join ((second :: more).getLast (List.cons_ne_nil _ _)).span) := by
  rw [sequenceOf, List.getLast?_eq_some_getLast (List.cons_ne_nil _ _)]

/-- A statement stands before the pattern. -/
def isStated : Pattern → Bool
  | .directed _ _ _ | .binding _ _ _ _ _ => true
  | _ => false

/-- Where the pattern stands that is left when all statements before it are taken
away. -/
def scopedSpan : Pattern → Span
  | .directed _ body _ => body.scopedSpan
  | .binding _ _ _ body _ => body.scopedSpan
  | pattern => pattern.span

theorem scopedSpan_of_not_isStated {pattern : Pattern} (unstated : pattern.isStated = false) :
    pattern.scopedSpan = pattern.span := by
  cases pattern with
  | directed | binding => cases unstated
  | _ => rw [scopedSpan] <;> nofun

end Pattern

/-- What a run of lexemes can be read as. -/
inductive Phrase where
  /-- Statements and what they apply to. -/
  | expression (pattern : Pattern)
  | statement (statement : Statement)
  /-- Alternatives, which may be left out. -/
  | alternation (pattern : Pattern)
  /-- Alternatives with a bar before each of them. -/
  | moreAlternatives (patterns : List Pattern)
  | intersection (pattern : Pattern)
  /-- Operands with an ampersand before each of them. -/
  | moreOperands (patterns : List Pattern)
  | sequence (pattern : Pattern)
  | moreTerms (patterns : List Pattern)
  | term (pattern : Pattern)
  /-- An operand with exclamation marks before it. -/
  | negation (pattern : Pattern)
  /-- A lookaround or an atom. -/
  | operand (pattern : Pattern)

open Grammar in
/-- The lexemes spell the phrase, where the modes hold before the first of
them. -/
inductive Spells : Modes → Phrase → List Lexeme → Prop
  | bare {modes : Modes} {pattern : Pattern} {lexemes : List Lexeme}
      (spells : Spells modes (.alternation pattern) lexemes) :
      Spells modes (.expression pattern) lexemes
  | stated {modes : Modes} {statement : Statement} {body : Pattern}
      {statementLexemes bodyLexemes : List Lexeme}
      (spellsStatement : Spells modes (.statement statement) statementLexemes)
      (spellsBody : Spells (statement.modes modes) (.expression body) bodyLexemes) :
      Spells modes
        (.expression (statement.scope body ((cover statementLexemes).join body.scopedSpan)))
        (statementLexemes ++ bodyLexemes)
  | directive {modes : Modes} {directive : Directive} {lexemes : List Lexeme}
      (spells : SpellsDirective directive lexemes) :
      Spells modes (.statement (.directive directive)) lexemes
  | binding {modes : Modes} {word name equals stop : Lexeme} {bound : Pattern}
      {lexemes : List Lexeme} (isLet : word.IsKeyword "let") (isName : name.kind = .identifier)
      (isEquals : equals.kind = .equals) (spells : Spells modes (.alternation bound) lexemes)
      (stops : stop.kind = .semicolon) :
      Spells modes (.statement (.binding name.text name.span bound))
        ([word] ++ [name] ++ [equals] ++ lexemes ++ [stop])
  | nothing {modes : Modes} : Spells modes (.alternation .empty) []
  | alternatives {modes : Modes} {bar : Option Lexeme} {first : Pattern} {more : List Pattern}
      {firstLexemes moreLexemes : List Lexeme} (isBar : ∀ lexeme ∈ bar, lexeme.kind = .pipe)
      (spellsFirst : Spells modes (.intersection first) firstLexemes)
      (spellsMore : Spells modes (.moreAlternatives more) moreLexemes) :
      Spells modes
        (.alternation (.alternationOf (firstSpan (bar.toList ++ firstLexemes)) first more))
        (bar.toList ++ firstLexemes ++ moreLexemes)
  | noAlternative {modes : Modes} : Spells modes (.moreAlternatives []) []
  | nextAlternative {modes : Modes} {bar : Lexeme} {pattern : Pattern} {patterns : List Pattern}
      {lexemes moreLexemes : List Lexeme} (isBar : bar.kind = .pipe)
      (spells : Spells modes (.intersection pattern) lexemes)
      (spellsMore : Spells modes (.moreAlternatives patterns) moreLexemes) :
      Spells modes (.moreAlternatives (pattern :: patterns)) ([bar] ++ lexemes ++ moreLexemes)
  | intersected {modes : Modes} {ampersand : Option Lexeme} {first : Pattern}
      {more : List Pattern} {firstLexemes moreLexemes : List Lexeme}
      (isAmpersand : ∀ lexeme ∈ ampersand, lexeme.kind = .ampersand)
      (spellsFirst : Spells modes (.sequence first) firstLexemes)
      (spellsMore : Spells modes (.moreOperands more) moreLexemes) :
      Spells modes
        (.intersection
          (.intersectionOf (cover (ampersand.toList ++ firstLexemes ++ moreLexemes)) first more))
        (ampersand.toList ++ firstLexemes ++ moreLexemes)
  | noOperand {modes : Modes} : Spells modes (.moreOperands []) []
  | nextOperand {modes : Modes} {ampersand : Lexeme} {pattern : Pattern} {patterns : List Pattern}
      {lexemes moreLexemes : List Lexeme} (isAmpersand : ampersand.kind = .ampersand)
      (spells : Spells modes (.sequence pattern) lexemes)
      (spellsMore : Spells modes (.moreOperands patterns) moreLexemes) :
      Spells modes (.moreOperands (pattern :: patterns)) ([ampersand] ++ lexemes ++ moreLexemes)
  | terms {modes : Modes} {first : Pattern} {more : List Pattern}
      {firstLexemes moreLexemes : List Lexeme} (spellsFirst : Spells modes (.term first) firstLexemes)
      (spellsMore : Spells modes (.moreTerms more) moreLexemes) :
      Spells modes (.sequence (.sequenceOf first more)) (firstLexemes ++ moreLexemes)
  | noTerm {modes : Modes} : Spells modes (.moreTerms []) []
  | nextTerm {modes : Modes} {pattern : Pattern} {patterns : List Pattern}
      {lexemes moreLexemes : List Lexeme} (spells : Spells modes (.term pattern) lexemes)
      (spellsMore : Spells modes (.moreTerms patterns) moreLexemes) :
      Spells modes (.moreTerms (pattern :: patterns)) (lexemes ++ moreLexemes)
  | once {modes : Modes} {pattern : Pattern} {lexemes : List Lexeme}
      (spells : Spells modes (.negation pattern) lexemes) : Spells modes (.term pattern) lexemes
  | repeated {modes : Modes} {pattern : Pattern} {bounds : Bounds} {preference : Quantifier}
      {lexemes boundsLexemes preferenceLexemes : List Lexeme}
      (spells : Spells modes (.negation pattern) lexemes)
      (spellsBounds : SpellsBounds bounds boundsLexemes)
      (spellsPreference : SpellsPreference modes.lazy preference preferenceLexemes) :
      Spells modes
        (.term (.repetition pattern bounds preference
          (pattern.span.join (cover (boundsLexemes ++ preferenceLexemes)))))
        (lexemes ++ (boundsLexemes ++ preferenceLexemes))
  | negated {modes : Modes} {bangs : List Lexeme} {pattern : Pattern} {lexemes : List Lexeme}
      (areBangs : ∀ bang ∈ bangs, bang.kind = .bang)
      (spells : Spells modes (.operand pattern) lexemes) :
      Spells modes
        (.negation (negate (bangs.foldl (fun span bang => span.join bang.span) .absent)
          bangs.length pattern))
        (bangs ++ lexemes)
  | lookaround {modes : Modes} {operator : Lexeme} {kind : Lookaround} {body : Pattern}
      {lexemes : List Lexeme} (isLookaround : lookaroundOf? operator.kind = some kind)
      (spells : Spells modes (.expression body) lexemes) :
      Spells modes (.operand (.lookaround kind body (operator.span.join body.span)))
        ([operator] ++ lexemes)
  | group {modes : Modes} {kind : GroupKind} {opening inner : List Lexeme} {closing : Lexeme}
      {body : Pattern} (spellsOpening : SpellsOpening kind opening)
      (spells : Spells modes (.expression body) inner) (closes : closing.kind = .closeParen) :
      Spells modes (.operand (.group kind body (cover (opening ++ inner ++ [closing]))))
        (opening ++ inner ++ [closing])
  | atom {modes : Modes} {pattern : Pattern} {lexemes : List Lexeme}
      (spells : SpellsAtom modes.unicode pattern lexemes) :
      Spells modes (.operand pattern) lexemes

/-- An atom by itself is an expression. -/
theorem Spells.of_atom {modes : Modes} {pattern : Pattern} {lexemes : List Lexeme}
    (spells : Grammar.SpellsAtom modes.unicode pattern lexemes) :
    Spells modes (.expression pattern) lexemes := by
  have term : Spells modes (.term pattern) lexemes :=
    .once (.negated (List.forall_mem_nil _) (.atom spells))
  have intersection := @Spells.intersected modes none _ _ _ _ nofun (.terms term .noTerm) .noOperand
  have alternation := @Spells.alternatives modes none _ _ _ _ nofun intersection .noAlternative
  simpa [Pattern.alternationOf, Pattern.intersectionOf, Pattern.sequenceOf] using Spells.bare alternation

/-! ## First lexemes -/

/-- What the lexemes of a phrase begin with. -/
def Phrase.Begins (lexemes : List Lexeme) : Phrase → Prop
  | .expression pattern =>
    lexemes = [] ∧ pattern = .empty ∨
      roleOf lexemes ∈ [Role.statement, .bar, .ampersand, .term]
  | .statement _ => roleOf lexemes = .statement
  | .alternation pattern =>
    lexemes = [] ∧ pattern = .empty ∨ roleOf lexemes ∈ [Role.bar, .ampersand, .term]
  | .moreAlternatives patterns =>
    lexemes = [] ∧ patterns = [] ∨ roleOf lexemes = .bar ∧ patterns ≠ []
  | .intersection _ => roleOf lexemes ∈ [Role.ampersand, .term]
  | .moreOperands patterns =>
    lexemes = [] ∧ patterns = [] ∨ roleOf lexemes = .ampersand ∧ patterns ≠ []
  | .moreTerms patterns =>
    lexemes = [] ∧ patterns = [] ∨ roleOf lexemes = .term ∧ patterns ≠ []
  | .sequence _ | .term _ | .negation _ | .operand _ => roleOf lexemes = .term

/-- A phrase is told by its first lexeme, unless nothing is there. -/
theorem Spells.begins {modes : Modes} {phrase : Phrase} {lexemes : List Lexeme}
    (spells : Spells modes phrase lexemes) : phrase.Begins lexemes := by
  induction spells with
  | bare _ begins =>
    rcases begins with none | some
    · exact .inl none
    · exact .inr (List.mem_cons_of_mem _ some)
  | stated _ _ begins _ =>
    refine .inr ?_
    rw [roleOf_append_of_ne_nil _ (ne_nil_of_roleOf (by decide) begins), begins]
    decide
  | directive spells => exact spells.role_eq
  | binding isLet _ _ _ _ _ => simp [Phrase.Begins, Lexeme.role, isLet.1, isLet.2, Role.ofWord]
  | nothing => exact .inl ⟨rfl, rfl⟩
  | @alternatives _ bar _ _ firstLexemes moreLexemes isBar _ _ begins _ =>
    refine .inr ?_
    cases bar with
    | none =>
      have firstNonempty := ne_nil_of_roleOf_mem (by decide) begins
      rw [Option.toList_none, List.nil_append, roleOf_append_of_ne_nil _ firstNonempty]
      exact List.mem_cons_of_mem _ begins
    | some bar =>
      have isBar := Lexeme.role_eq_bar_iff.mpr (isBar bar rfl)
      simp [isBar]
  | noAlternative => exact .inl ⟨rfl, rfl⟩
  | nextAlternative isBar _ _ _ _ =>
    exact .inr ⟨Lexeme.role_eq_bar_iff.mpr isBar, List.cons_ne_nil _ _⟩
  | @intersected _ ampersand _ _ firstLexemes moreLexemes isAmpersand _ _ begins _ =>
    cases ampersand with
    | none =>
      have firstNonempty := ne_nil_of_roleOf (by decide) begins
      rw [Phrase.Begins, Option.toList_none, List.nil_append,
        roleOf_append_of_ne_nil _ firstNonempty, begins]
      decide
    | some ampersand =>
      have isAmpersand := Lexeme.role_eq_ampersand_iff.mpr (isAmpersand ampersand rfl)
      simp [Phrase.Begins, isAmpersand]
  | noOperand => exact .inl ⟨rfl, rfl⟩
  | nextOperand isAmpersand _ _ _ _ =>
    exact .inr ⟨Lexeme.role_eq_ampersand_iff.mpr isAmpersand, List.cons_ne_nil _ _⟩
  | terms _ _ begins _ =>
    rw [Phrase.Begins, roleOf_append_of_ne_nil _ (ne_nil_of_roleOf (by decide) begins)]
    exact begins
  | noTerm => exact .inl ⟨rfl, rfl⟩
  | nextTerm _ _ begins _ =>
    refine .inr ⟨?_, List.cons_ne_nil _ _⟩
    rw [roleOf_append_of_ne_nil _ (ne_nil_of_roleOf (by decide) begins)]
    exact begins
  | once _ begins => exact begins
  | repeated _ _ _ begins =>
    rw [Phrase.Begins, roleOf_append_of_ne_nil _ (ne_nil_of_roleOf (by decide) begins)]
    exact begins
  | @negated _ bangs _ _ areBangs _ begins =>
    cases bangs with
    | nil => exact begins
    | cons bang bangs => simp [Phrase.Begins, Lexeme.role, areBangs bang List.mem_cons_self]
  | @lookaround _ operator _ _ _ isLookaround _ _ =>
    unfold Grammar.lookaroundOf? at isLookaround
    rw [Phrase.Begins, List.singleton_append, roleOf_cons, Lexeme.role]
    split at isLookaround <;> simp_all
  | group spellsOpening _ _ _ =>
    have begins := spellsOpening.role_eq
    have nonempty := ne_nil_of_roleOf (by decide) begins
    rw [Phrase.Begins, List.append_assoc, roleOf_append_of_ne_nil _ nonempty, begins]
  | atom spells => exact spells.role_eq

/-! ## Patterns without statements -/

/-- Only an expression can have statements before it. -/
def Phrase.Unstated : Phrase → Prop
  | .alternation pattern | .intersection pattern | .sequence pattern | .term pattern
  | .negation pattern | .operand pattern => pattern.isStated = false
  | _ => True

theorem Grammar.negate_isStated (notSpan : Span) (count : Nat) {body : Pattern}
    (unstated : body.isStated = false) : (negate notSpan count body).isStated = false := by
  induction count generalizing body with
  | zero => exact unstated
  | succ count inductionHypothesis => exact inductionHypothesis rfl

theorem Spells.unstated {modes : Modes} {phrase : Phrase} {lexemes : List Lexeme}
    (spells : Spells modes phrase lexemes) : phrase.Unstated := by
  induction spells with
  | @alternatives _ _ first more _ _ _ _ _ unstated _ =>
    cases more with
    | nil => exact unstated
    | cons second more => rfl
  | @intersected _ _ first more _ _ _ _ _ unstated _ =>
    cases more with
    | nil => exact unstated
    | cons second more => rfl
  | @terms _ first more _ _ _ _ unstated _ =>
    cases more with
    | nil => exact unstated
    | cons second more =>
      rw [Phrase.Unstated, Pattern.sequenceOf_cons]
      rfl
  | once _ unstated => exact unstated
  | negated _ _ unstated => exact Grammar.negate_isStated _ _ unstated
  | atom spells =>
    cases spells <;> rfl
  | nothing | repeated | lookaround | group => rfl
  | _ => trivial

end PatternSyntax
