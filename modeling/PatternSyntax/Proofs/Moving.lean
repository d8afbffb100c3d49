import PatternSyntax.Proofs.Scopes
import PatternSyntax.Proofs.Skeleton

/-!
# Moving lexemes

Lexemes that stand elsewhere spell the same phrase, with all of its parts elsewhere.
A function that moves spans only has to go together with joining them, since spans
are put together in no other way.
-/

namespace PatternSyntax

open Grammar

/-- The same lexeme at another place. -/
def Lexeme.mapSpan (f : Span → Span) (lexeme : Lexeme) : Lexeme :=
  { lexeme with span := f lexeme.span }

theorem Lexeme.kind_of_mem_map {f : Span → Span} {kind : TokenKind} {optional : Option Lexeme}
    (isKind : ∀ lexeme ∈ optional, lexeme.kind = kind) :
    ∀ lexeme ∈ optional.map (·.mapSpan f), lexeme.kind = kind := by
  cases optional with
  | none => nofun
  | some lexeme => simpa [Lexeme.mapSpan] using isKind

/-- The function respects joins of spans that have the property, and the property is
kept by joining. -/
structure RespectsJoin (holds : Span → Prop) (f : Span → Span) : Prop where
  closed : IsJoinClosed holds
  absent : f .absent = .absent
  join : ∀ first second, holds first → holds second → f (first.join second) = (f first).join (f second)

namespace RespectsJoin

variable {holds : Span → Prop} {f : Span → Span} {lexemes : List Lexeme}

theorem firstSpan_map (respects : RespectsJoin holds f) :
    firstSpan (lexemes.map (·.mapSpan f)) = f (firstSpan lexemes) := by
  cases lexemes with
  | nil => exact respects.absent.symm
  | cons lexeme lexemes => rfl

theorem lastSpan_map (before : Span) :
    lastSpan (f before) (lexemes.map (·.mapSpan f)) = f (lastSpan before lexemes) := by
  induction lexemes generalizing before with
  | nil => rfl
  | cons lexeme lexemes inductionHypothesis => exact inductionHypothesis lexeme.span

theorem holds_lastSpan {before : Span} (atBefore : holds before)
    (all : ∀ lexeme ∈ lexemes, holds lexeme.span) : holds (lastSpan before lexemes) := by
  induction lexemes generalizing before with
  | nil => exact atBefore
  | cons lexeme lexemes inductionHypothesis =>
    obtain ⟨atLexeme, atLexemes⟩ := List.forall_mem_cons.mp all
    exact inductionHypothesis atLexeme atLexemes

theorem cover_map (respects : RespectsJoin holds f) (all : ∀ lexeme ∈ lexemes, holds lexeme.span) :
    cover (lexemes.map (·.mapSpan f)) = f (cover lexemes) := by
  have last := @lastSpan_map f lexemes .absent
  rw [respects.absent] at last
  rw [cover, respects.firstSpan_map, last, cover, respects.join _ _ (respects.closed.firstSpan all)
    (holds_lastSpan respects.closed.absent all)]

theorem foldl_map (respects : RespectsJoin holds f) {α : Type} {spanOf : α → Span} {members : List α}
    {start : Span} (atStart : holds start) (atMembers : ∀ member ∈ members, holds (spanOf member)) :
    members.foldl (fun span member => span.join (f (spanOf member))) (f start) =
      f (members.foldl (fun span member => span.join (spanOf member)) start) := by
  induction members generalizing start with
  | nil => rfl
  | cons member members inductionHypothesis =>
    obtain ⟨atMember, atMembers⟩ := List.forall_mem_cons.mp atMembers
    rw [List.foldl_cons, List.foldl_cons, ← respects.join _ _ atStart atMember]
    exact inductionHypothesis (respects.closed.join _ _ atStart atMember) atMembers

end RespectsJoin

/-! ## Parts without expressions -/

namespace Grammar

open PatternSyntax.Parser RespectsJoin

variable {holds : Span → Prop} {f : Span → Span} {lexemes : List Lexeme}

theorem SpellsOpening.mapSpans {kind : GroupKind} (spells : SpellsOpening kind lexemes) :
    SpellsOpening kind (lexemes.map (·.mapSpan f)) := by
  cases spells with
  | plain opens => exact .plain opens
  | capturing isColon opens => exact .capturing isColon opens
  | @named colon name opening isColon isName alphanumeric short opens =>
    exact @SpellsOpening.named (colon.mapSpan f) (name.mapSpan f) (opening.mapSpan f) isColon isName
      alphanumeric short opens
  | atomic isAtomic opens => exact .atomic isAtomic opens

theorem SpellsTarget.mapSpans {target : ReferenceTarget} (spells : SpellsTarget target lexemes) :
    SpellsTarget target (lexemes.map (·.mapSpan f)) := by
  cases spells with
  | forward isPlus isNumber inRange => exact .forward isPlus isNumber inRange
  | backward isDash isNumber inRange => exact .backward isDash isNumber inRange
  | number isCount => exact .number isCount
  | @named name isName => exact @SpellsTarget.named (name.mapSpan f) isName

theorem SpellsCount.mapSpans {value : Option Nat} (spells : SpellsCount value lexemes) :
    SpellsCount value (lexemes.map (·.mapSpan f)) := by
  cases value with
  | none => rw [show lexemes = [] from spells]; rfl
  | some value =>
    obtain ⟨lexeme, rfl, isCount⟩ := spells
    exact ⟨lexeme.mapSpan f, rfl, isCount⟩

theorem SpellsBounds.mapSpans {bounds : Bounds} (spells : SpellsBounds bounds lexemes) :
    SpellsBounds bounds (lexemes.map (·.mapSpan f)) := by
  cases spells with
  | plus isPlus => exact .plus isPlus
  | star isStar => exact .star isStar
  | questionMark isQuestionMark => exact .questionMark isQuestionMark
  | exactly opens isCount closes => exact .exactly opens isCount closes
  | between opens spellsLower isComma spellsUpper ordered closes =>
    simp only [List.map_append]
    exact .between opens spellsLower.mapSpans isComma spellsUpper.mapSpans ordered closes

theorem SpellsPreference.mapSpans {lazyMode : Bool} {preference : Quantifier}
    (spells : SpellsPreference lazyMode preference lexemes) :
    SpellsPreference lazyMode preference (lexemes.map (·.mapSpan f)) := by
  cases spells with
  | greedy isGreedy => exact .greedy isGreedy
  | lazy isLazy => exact .lazy isLazy
  | unsaid => exact .unsaid

theorem SpellsUnit.mapSpans {unit : ClassUnit} {lexeme : Lexeme} (spells : SpellsUnit unit lexeme) :
    SpellsUnit unit (lexeme.mapSpan f) := by
  cases spells with
  | text isString => exact @SpellsUnit.text (lexeme.mapSpan f) isString
  | codePoint isCodePoint readable => exact .codePoint isCodePoint readable
  | control isName isControl => exact .control isName isControl

theorem ClassUnit.items_mapSpans (unit : ClassUnit) :
    unit.items.map (·.mapSpans f) = unit.items := by
  cases unit with
  | char c => rfl
  | text content => simp [ClassUnit.items, ClassItem.mapSpans]

theorem Each.mapSpans {α : Type} {spells : α → List Lexeme → Prop} {move : α → α} {values : List α}
    (moved : ∀ value lexemes, spells value lexemes → (∀ lexeme ∈ lexemes, holds lexeme.span) →
      spells (move value) (lexemes.map (·.mapSpan f)))
    (each : Each spells values lexemes) (all : ∀ lexeme ∈ lexemes, holds lexeme.span) :
    Each spells (values.map move) (lexemes.map (·.mapSpan f)) := by
  induction each with
  | nil => exact .nil
  | cons head tail inductionHypothesis =>
    rw [List.forall_mem_append] at all
    rw [List.map_append, List.map_cons]
    exact .cons (moved _ _ head all.1) (inductionHypothesis all.2)

theorem SpellsItems.mapSpans (respects : RespectsJoin holds f) {items : List ClassItem}
    (spells : SpellsItems items lexemes) (all : ∀ lexeme ∈ lexemes, holds lexeme.span) :
    SpellsItems (items.map (·.mapSpans f)) (lexemes.map (·.mapSpan f)) := by
  cases spells with
  | unit spells =>
    rw [ClassUnit.items_mapSpans]
    exact .unit spells.mapSpans
  | range spellsFirst isLower isDash spellsLast isUpper ordered =>
    exact .range spellsFirst.mapSpans isLower isDash spellsLast.mapSpans isUpper ordered
  | @named bang name isBang isName ordinary =>
    have moved := @SpellsItems.named _ (name.mapSpan f)
      (@Lexeme.kind_of_mem_map f _ _ isBang) isName ordinary
    rw [Option.toList_map, Option.isSome_map] at moved
    rw [List.map_append]
    exact moved
  | @qualified bang qualifier colon name isBang isQualifier ordinary isColon isName =>
    have span_eq : f (qualifier.span.join name.span) = (f qualifier.span).join (f name.span) :=
      respects.join _ _ (all _ (by simp)) (all _ (by simp))
    have moved := @SpellsItems.qualified _ (qualifier.mapSpan f) (colon.mapSpan f) (name.mapSpan f)
      (@Lexeme.kind_of_mem_map f _ _ isBang) isQualifier ordinary isColon isName
    rw [Option.toList_map, Option.isSome_map] at moved
    rw [List.map_singleton, ClassItem.mapSpans, span_eq, List.map_append]
    exact moved

theorem SpellsClass.mapSpans (respects : RespectsJoin holds f) {unicode : Bool} {members : CharClass}
    (spells : SpellsClass unicode members lexemes) (all : ∀ lexeme ∈ lexemes, holds lexeme.span) :
    SpellsClass unicode (members.mapSpans f) (lexemes.map (·.mapSpan f)) := by
  cases spells with
  | @brackets opening closing parts inner opens spells nonempty closes =>
    have span_eq : f (opening.span.join closing.span) = (f opening.span).join (f closing.span) :=
      respects.join _ _ (all _ (by simp)) (all _ (by simp))
    have movedItems := Each.mapSpans (fun _ _ => SpellsItems.mapSpans respects) spells
      fun lexeme member => all lexeme (by simp [member])
    have flatten_eq : (parts.map fun items => items.map (·.mapSpans f)).flatten =
        parts.flatten.map (·.mapSpans f) := List.map_flatten.symm
    have moved := @SpellsClass.brackets unicode (opening.mapSpan f) (closing.mapSpan f) _ _ opens
      movedItems (by rw [flatten_eq]; simpa using nonempty) closes
    simp only [CharClass.mapSpans, List.map_append, span_eq]
    simp only [flatten_eq] at moved
    exact moved

theorem SpellsAtom.mapSpans (respects : RespectsJoin holds f) {unicode : Bool} {pattern : Pattern}
    (spells : SpellsAtom unicode pattern lexemes) (all : ∀ lexeme ∈ lexemes, holds lexeme.span) :
    SpellsAtom unicode (pattern.mapSpans f f) (lexemes.map (·.mapSpan f)) := by
  cases spells with
  | @literal text isText => exact @SpellsAtom.literal unicode (text.mapSpan f) isText
  | charClass spells => exact .charClass (spells.mapSpans respects all)
  | @boundary operator kind isBoundary =>
    exact @SpellsAtom.boundary unicode (operator.mapSpan f) kind isBoundary
  | @reference mark target inner isMark spells =>
    rw [List.singleton_append, List.forall_mem_cons] at all
    obtain ⟨atMark, atInner⟩ := all
    rw [Pattern.mapSpans, respects.join _ _ atMark (holds_lastSpan atMark atInner), ← @lastSpan_map f,
      List.map_append]
    exact @SpellsAtom.reference unicode (mark.mapSpan f) target _ isMark spells.mapSpans
  | @codePoint lexeme c isCodePoint readable =>
    exact @SpellsAtom.codePoint unicode (lexeme.mapSpan f) c isCodePoint readable
  | @decimalRange word first dash last isRange isFirst isDash isLast =>
    rw [Pattern.mapSpans, respects.join _ _ (all _ (by simp)) (all _ (by simp))]
    exact @SpellsAtom.decimalRange unicode (word.mapSpan f) (first.mapSpan f) (dash.mapSpan f)
      (last.mapSpan f) isRange isFirst isDash isLast
  | @basedRange word first dash last base number radix isRange isFirst isDash isLast isBase isNumber
      readable inRange =>
    rw [Pattern.mapSpans, respects.join _ _ (all _ (by simp)) (all _ (by simp))]
    exact @SpellsAtom.basedRange unicode (word.mapSpan f) (first.mapSpan f) (dash.mapSpan f)
      (last.mapSpan f) (base.mapSpan f) (number.mapSpan f) radix isRange isFirst isDash isLast isBase
      isNumber readable inRange
  | @regex word text isRegex isText =>
    rw [Pattern.mapSpans, respects.join _ _ (all _ (by simp)) (all _ (by simp))]
    exact @SpellsAtom.regex unicode (word.mapSpan f) (text.mapSpan f) isRegex isText
  | @use name isName => exact @SpellsAtom.use unicode (name.mapSpan f) isName
  | @dot dot isDot => exact @SpellsAtom.dot unicode (dot.mapSpan f) isDot
  | @recursion word isRecursion => exact @SpellsAtom.recursion unicode (word.mapSpan f) isRecursion

/-! ## Test blocks -/

theorem SpellsCapture.mapSpans {capture : Capture} (spells : SpellsCapture capture lexemes) :
    SpellsCapture (capture.mapSpans f) (lexemes.map (·.mapSpan f)) := by
  cases spells with
  | @capture label labelLexeme colon text spellsLabel isColon isText =>
    have movedLabel : SpellsLabel label (labelLexeme.mapSpan f) := by
      cases spellsLabel with
      | number isCount => exact .number isCount
      | name isName => exact @SpellsLabel.name (labelLexeme.mapSpan f) isName
    exact @SpellsCapture.capture label _ (colon.mapSpan f) (text.mapSpan f) movedLabel isColon isText

theorem SpellsSeparatedCapture.mapSpans {capture : Capture}
    (spells : SpellsSeparatedCapture capture lexemes) :
    SpellsSeparatedCapture (capture.mapSpans f) (lexemes.map (·.mapSpan f)) := by
  obtain ⟨inner, comma, spells, isComma, rfl⟩ := spells
  exact ⟨_, comma.mapSpan f, spells.mapSpans, isComma, by simp⟩

theorem SpellsCaptures.mapSpans {captures : List Capture} (spells : SpellsCaptures captures lexemes)
    (all : ∀ lexeme ∈ lexemes, holds lexeme.span) :
    SpellsCaptures (captures.map (·.mapSpans f)) (lexemes.map (·.mapSpan f)) := by
  cases spells with
  | unlisted => exact .unlisted
  | separated isAs opens spells closes =>
    have moved := Each.mapSpans (fun _ _ spells _ => SpellsSeparatedCapture.mapSpans (f := f) spells)
      spells fun lexeme member => all lexeme (by simp [member])
    simp only [List.map_append]
    exact .separated isAs opens moved closes
  | listed isAs opens spells spellsLast closes =>
    have moved := Each.mapSpans (fun _ _ spells _ => SpellsSeparatedCapture.mapSpans (f := f) spells)
      spells fun lexeme member => all lexeme (by simp [member])
    simp only [List.map_append]
    exact .listed isAs opens moved spellsLast.mapSpans closes

theorem SpellsMatch.mapSpans (respects : RespectsJoin holds f) {expected : TestMatch}
    (spells : SpellsMatch expected lexemes) (all : ∀ lexeme ∈ lexemes, holds lexeme.span) :
    SpellsMatch (expected.mapSpans f) (lexemes.map (·.mapSpan f)) := by
  cases spells with
  | @expected text captures inner isText spells =>
    rw [List.singleton_append, List.forall_mem_cons] at all
    obtain ⟨atText, atInner⟩ := all
    rw [TestMatch.mapSpans, respects.join _ _ atText (holds_lastSpan atText atInner), ← @lastSpan_map f,
      List.map_append]
    exact @SpellsMatch.expected (text.mapSpan f) _ _ isText (spells.mapSpans atInner)

theorem SpellsNextMatch.mapSpans (respects : RespectsJoin holds f) {expected : TestMatch}
    (spells : SpellsNextMatch expected lexemes) (all : ∀ lexeme ∈ lexemes, holds lexeme.span) :
    SpellsNextMatch (expected.mapSpans f) (lexemes.map (·.mapSpan f)) := by
  obtain ⟨comma, inner, isComma, spells, rfl⟩ := spells
  have moved := spells.mapSpans respects fun lexeme member => all lexeme (by simp [member])
  exact ⟨comma.mapSpan f, _, isComma, moved, rfl⟩

theorem SpellsMatches.mapSpans (respects : RespectsJoin holds f) {expected : List TestMatch}
    (spells : SpellsMatches expected lexemes) (all : ∀ lexeme ∈ lexemes, holds lexeme.span) :
    SpellsMatches (expected.map (·.mapSpans f)) (lexemes.map (·.mapSpan f)) := by
  cases spells with
  | nil => exact .nil
  | cons spellsFirst spellsMore =>
    rw [List.forall_mem_append] at all
    have moved := Each.mapSpans (fun _ _ => SpellsNextMatch.mapSpans respects) spellsMore all.2
    rw [List.map_append, List.map_cons]
    exact .cons (spellsFirst.mapSpans respects all.1) moved

theorem SpellsCase.mapSpans (respects : RespectsJoin holds f) {case : TestCase}
    (spells : SpellsCase case lexemes) (all : ∀ lexeme ∈ lexemes, holds lexeme.span) :
    SpellsCase (case.mapSpans f) (lexemes.map (·.mapSpan f)) := by
  cases spells with
  | @whole word stop expected inner isMatch spells stops =>
    have moved := spells.mapSpans respects fun lexeme member => all lexeme (by simp [member])
    simp only [List.map_append]
    exact @SpellsCase.whole (word.mapSpan f) (stop.mapSpan f) _ _ isMatch moved stops
  | @within word introduction text stop expected inner isMatch spells isIn isText stops =>
    have moved := spells.mapSpans respects fun lexeme member => all lexeme (by simp [member])
    rw [TestCase.mapSpans, respects.join _ _ (all _ (by simp)) (all _ (by simp))]
    simp only [List.map_append]
    exact @SpellsCase.within (word.mapSpan f) (introduction.mapSpan f) (text.mapSpan f)
      (stop.mapSpan f) _ _ isMatch moved isIn isText stops
  | @reject word text stop introduction isReject isIn isText stops =>
    rw [TestCase.mapSpans, respects.join _ _ (all _ (by simp)) (all _ (by simp))]
    cases introduction with
    | none =>
      exact @SpellsCase.reject (word.mapSpan f) (text.mapSpan f) (stop.mapSpan f) none isReject nofun
        isText stops
    | some introduction =>
      exact @SpellsCase.reject (word.mapSpan f) (text.mapSpan f) (stop.mapSpan f)
        (some (introduction.mapSpan f)) isReject (by rintro _ ⟨⟩; exact isIn introduction rfl) isText
        stops

theorem SpellsDirective.mapSpans (respects : RespectsJoin holds f) {directive : Directive}
    (spells : SpellsDirective directive lexemes) (all : ∀ lexeme ∈ lexemes, holds lexeme.span) :
    SpellsDirective (directive.mapSpans f) (lexemes.map (·.mapSpan f)) := by
  cases spells with
  | @toggle word target stop value setting spellsSwitch spellsSetting stops =>
    have movedSwitch : SpellsSwitch value (word.mapSpan f) := by
      cases spellsSwitch with
      | enable isEnable => exact .enable isEnable
      | disable isDisable => exact .disable isDisable
    have movedSetting : SpellsSetting setting (target.mapSpan f) := by
      cases spellsSetting with
      | lazy isLazy => exact .lazy isLazy
      | unicode isUnicode => exact .unicode isUnicode
    rw [Directive.mapSpans, respects.join _ _ (all _ (by simp)) (all _ (by simp))]
    exact @SpellsDirective.toggle _ _ (stop.mapSpan f) _ _ movedSwitch movedSetting stops
  | tests spells =>
    cases spells with
    | @block word opening closing cases inner isTest opens spells closes =>
      have moved := Each.mapSpans (fun _ _ => SpellsCase.mapSpans respects) spells
        fun lexeme member => all lexeme (by simp [member])
      rw [Directive.mapSpans, respects.join _ _ (all _ (by simp)) (all _ (by simp))]
      simp only [List.map_append]
      exact .tests (@SpellsTests.block (word.mapSpan f) (opening.mapSpan f) (closing.mapSpan f) _ _
        isTest opens moved closes)

end Grammar

/-! ## Phrases -/

namespace Statement

/-- Change all spans of a statement. -/
def mapSpans (ofLiteral f : Span → Span) : Statement → Statement
  | directive content => directive (content.mapSpans f)
  | binding name nameSpan bound => binding name (f nameSpan) (bound.mapSpans ofLiteral f)

variable (ofLiteral f : Span → Span)

theorem mapSpans_modes (statement : Statement) (outer : Modes) :
    (statement.mapSpans ofLiteral f).modes outer = statement.modes outer := by
  rcases statement with (_ | _) | _ <;> rfl

theorem mapSpans_scope (statement : Statement) (body : Pattern) (span : Span) :
    (statement.scope body span).mapSpans ofLiteral f =
      (statement.mapSpans ofLiteral f).scope (body.mapSpans ofLiteral f) (f span) := by
  cases statement <;> simp only [scope, mapSpans, Pattern.mapSpans]

end Statement

namespace Pattern

variable (f : Span → Span)

theorem mapSpans_span (pattern : Pattern) : (pattern.mapSpans f f).span = f pattern.span := by
  cases pattern <;> rw [mapSpans] <;> rfl

theorem mapSpans_scopedSpan :
    ∀ pattern : Pattern, (pattern.mapSpans f f).scopedSpan = f pattern.scopedSpan
  | .directed _ body _ => by rw [mapSpans, scopedSpan, scopedSpan, mapSpans_scopedSpan body]
  | .binding _ _ _ body _ => by rw [mapSpans, scopedSpan, scopedSpan, mapSpans_scopedSpan body]
  | .literal _ | .charClass _ | .group _ _ _ | .sequence _ _ | .alternation _ _ | .intersection _ _
  | .repetition _ _ _ _ | .boundary _ _ | .lookaround _ _ _ | .use _ _ | .reference _ _
  | .numberRange _ _ _ _ | .negation _ _ _ | .regex _ _ | .recursion _ | .dot _ => by
    rw [mapSpans]
    rfl

theorem mapSpans_empty (absent : f .absent = .absent) : empty.mapSpans f f = empty := by
  rw [empty, mapSpans, Literal.mapSpans, absent]

theorem mapSpans_intersectionOf (span : Span) (first : Pattern) (more : List Pattern) :
    (intersectionOf span first more).mapSpans f f =
      intersectionOf (f span) (first.mapSpans f f) (mapAllSpans f f more) := by
  cases more with
  | nil => rfl
  | cons second more => simp only [intersectionOf, mapSpans, mapAllSpans]

theorem mapSpans_negate (notSpan : Span) (count : Nat) (body : Pattern) {holds : Span → Prop}
    (respects : RespectsJoin holds f) (atBody : holds body.span) (atNot : holds notSpan) :
    (negate notSpan count body).mapSpans f f = negate (f notSpan) count (body.mapSpans f f) := by
  induction count generalizing body with
  | zero => rfl
  | succ count inductionHypothesis =>
    have outer := inductionHypothesis (.negation body notSpan (body.span.join notSpan))
      (respects.closed.join _ _ atBody atNot)
    rw [mapSpans, respects.join _ _ atBody atNot, ← mapSpans_span f body] at outer
    exact outer

variable {f}

theorem mapSpans_alternationOf {holds : Span → Prop} (respects : RespectsJoin holds f) {start : Span}
    {first : Pattern} {more : List Pattern} (atStart : holds start)
    (atMore : ∀ pattern ∈ more, holds pattern.span) :
    (alternationOf start first more).mapSpans f f =
      alternationOf (f start) (first.mapSpans f f) (mapAllSpans f f more) := by
  cases more with
  | nil => rfl
  | cons second more =>
    rw [alternationOf_cons, mapSpans, mapAllSpans, ← respects.foldl_map atStart atMore, mapAllSpans,
      alternationOf_cons, ← mapAllSpans, mapAllSpans_eq_map, List.foldl_map]
    simp only [mapSpans_span]

theorem mapSpans_sequenceOf {holds : Span → Prop} (respects : RespectsJoin holds f)
    {first : Pattern} {more : List Pattern} (atFirst : holds first.span)
    (atMore : ∀ pattern ∈ more, holds pattern.span) :
    (sequenceOf first more).mapSpans f f =
      sequenceOf (first.mapSpans f f) (mapAllSpans f f more) := by
  simp only [sequenceOf, mapAllSpans_eq_map, List.getLast?_map]
  cases isLast : more.getLast? with
  | none => rfl
  | some last =>
    have atLast := atMore last (List.mem_of_getLast? isLast)
    simp only [Option.map_some, mapSpans, mapAllSpans_eq_map, List.map_cons, mapSpans_span,
      respects.join _ _ atFirst atLast]

end Pattern

namespace Phrase

/-- The same phrase at another place. -/
def mapSpans (f : Span → Span) : Phrase → Phrase
  | .expression pattern => .expression (pattern.mapSpans f f)
  | .statement content => .statement (content.mapSpans f f)
  | .alternation pattern => .alternation (pattern.mapSpans f f)
  | .moreAlternatives patterns => .moreAlternatives (Pattern.mapAllSpans f f patterns)
  | .intersection pattern => .intersection (pattern.mapSpans f f)
  | .moreOperands patterns => .moreOperands (Pattern.mapAllSpans f f patterns)
  | .sequence pattern => .sequence (pattern.mapSpans f f)
  | .moreTerms patterns => .moreTerms (Pattern.mapAllSpans f f patterns)
  | .term pattern => .term (pattern.mapSpans f f)
  | .negation pattern => .negation (pattern.mapSpans f f)
  | .operand pattern => .operand (pattern.mapSpans f f)

end Phrase

/-- Lexemes that are moved spell the phrase with all of its parts moved. -/
theorem Spells.mapSpans {holds : Span → Prop} {f : Span → Span} (respects : RespectsJoin holds f)
    {modes : Modes} {phrase : Phrase} {lexemes : List Lexeme} (spells : Spells modes phrase lexemes)
    (all : ∀ lexeme ∈ lexemes, holds lexeme.span) :
    Spells modes (phrase.mapSpans f) (lexemes.map (·.mapSpan f)) := by
  induction spells with
  | bare _ moved => exact .bare (moved all)
  | @stated modes statement body _ _ _ spellsBody moved movedBody =>
    rw [List.forall_mem_append] at all
    have atScope := (spellsBody.spansSatisfy respects.closed all.2).2
    have movedBody := movedBody all.2
    rw [← Statement.mapSpans_modes f f] at movedBody
    have stated := Spells.stated (moved all.1) movedBody
    rw [Pattern.mapSpans_scopedSpan, respects.cover_map all.1,
      ← respects.join _ _ (respects.closed.cover all.1) atScope, ← Statement.mapSpans_scope,
      ← List.map_append] at stated
    exact stated
  | directive spells => exact .directive (spells.mapSpans respects all)
  | @binding modes word name equals stop bound _ isLet isName isEquals _ stops moved =>
    have movedBound := moved fun lexeme member => all lexeme (by simp [member])
    simp only [List.map_append]
    exact @Spells.binding modes (word.mapSpan f) (name.mapSpan f) (equals.mapSpan f)
      (stop.mapSpan f) _ _ isLet isName isEquals movedBound stops
  | nothing =>
    rw [Phrase.mapSpans, Pattern.mapSpans_empty f respects.absent]
    exact .nothing
  | @alternatives modes bar first more firstLexemes moreLexemes isBar _ spellsMore movedFirst
      movedMore =>
    rw [List.forall_mem_append] at all
    obtain ⟨atFront, atMore⟩ := all
    have atFirst := (List.forall_mem_append.mp atFront).2
    rw [Phrase.mapSpans, Pattern.mapSpans_alternationOf respects (respects.closed.firstSpan atFront)
      (spellsMore.spansSatisfy respects.closed atMore), ← respects.firstSpan_map]
    simp only [List.map_append, ← Option.toList_map]
    exact .alternatives (Lexeme.kind_of_mem_map isBar) (movedFirst atFirst) (movedMore atMore)
  | noAlternative => exact .noAlternative
  | @nextAlternative modes bar _ _ _ _ isBar _ _ moved movedMore =>
    simp only [List.forall_mem_append] at all
    simp only [List.map_append]
    exact @Spells.nextAlternative modes (bar.mapSpan f) _ _ _ _ isBar (moved all.1.2)
      (movedMore all.2)
  | @intersected modes ampersand first more firstLexemes moreLexemes isAmpersand _ _ movedFirst
      movedMore =>
    rw [Phrase.mapSpans, Pattern.mapSpans_intersectionOf, ← respects.cover_map all]
    simp only [List.forall_mem_append] at all
    simp only [List.map_append, ← Option.toList_map]
    exact .intersected (Lexeme.kind_of_mem_map isAmpersand) (movedFirst all.1.2) (movedMore all.2)
  | noOperand => exact .noOperand
  | @nextOperand modes ampersand _ _ _ _ isAmpersand _ _ moved movedMore =>
    simp only [List.forall_mem_append] at all
    simp only [List.map_append]
    exact @Spells.nextOperand modes (ampersand.mapSpan f) _ _ _ _ isAmpersand (moved all.1.2)
      (movedMore all.2)
  | terms spellsFirst spellsMore movedFirst movedMore =>
    rw [List.forall_mem_append] at all
    rw [Phrase.mapSpans, List.map_append, Pattern.mapSpans_sequenceOf respects
      (spellsFirst.spansSatisfy respects.closed all.1)
      (spellsMore.spansSatisfy respects.closed all.2)]
    exact .terms (movedFirst all.1) (movedMore all.2)
  | noTerm => exact .noTerm
  | nextTerm _ _ moved movedMore =>
    rw [List.forall_mem_append] at all
    rw [List.map_append]
    exact .nextTerm (moved all.1) (movedMore all.2)
  | once _ moved => exact .once (moved all)
  | repeated spells spellsBounds spellsPreference moved =>
    rw [List.forall_mem_append] at all
    have atBody := spells.spansSatisfy respects.closed all.1
    rw [Phrase.mapSpans, Pattern.mapSpans, respects.join _ _ atBody (respects.closed.cover all.2),
      ← Pattern.mapSpans_span f, ← respects.cover_map all.2]
    simp only [List.map_append]
    exact .repeated (moved all.1) spellsBounds.mapSpans spellsPreference.mapSpans
  | @negated modes bangs pattern lexemes areBangs spells moved =>
    rw [List.forall_mem_append] at all
    have atBody := spells.spansSatisfy respects.closed all.2
    have movedBangs : ∀ bang ∈ bangs.map (·.mapSpan f), bang.kind = .bang := by
      simpa [Lexeme.mapSpan] using areBangs
    have negated := Spells.negated movedBangs (moved all.2)
    rw [Phrase.mapSpans, Pattern.mapSpans_negate f _ _ _ respects atBody
      (respects.closed.foldl respects.closed.absent all.1),
      ← respects.foldl_map respects.closed.absent all.1, respects.absent, List.map_append]
    rw [List.length_map, List.foldl_map] at negated
    exact negated
  | @lookaround modes operator kind body _ isLookaround spells moved =>
    obtain ⟨atOperator, atBody⟩ := List.forall_mem_cons.mp all
    rw [Phrase.mapSpans, Pattern.mapSpans,
      respects.join _ _ atOperator (spells.spansSatisfy respects.closed atBody).1,
      ← Pattern.mapSpans_span f]
    exact @Spells.lookaround modes (operator.mapSpan f) kind _ _ isLookaround (moved atBody)
  | @group modes kind opening inner closing body spellsOpening _ closes moved =>
    have movedBody := moved fun lexeme member => all lexeme (by simp [member])
    rw [Phrase.mapSpans, Pattern.mapSpans, ← respects.cover_map all]
    simp only [List.map_append]
    exact @Spells.group modes kind _ _ (closing.mapSpan f) _ spellsOpening.mapSpans movedBody closes
  | atom spells => exact .atom (spells.mapSpans respects all)

end PatternSyntax
