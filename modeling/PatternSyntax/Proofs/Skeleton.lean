import PatternSyntax.Proofs.Nodes

/-!
# Skeletons

Two kinds of data in a tree do not say what the pattern is: where its parts stand,
and which modes held for them. The spans of a tree can be changed one by one, and
the modes can be set anew from the first statement on. What is left without both
is the skeleton of the tree.

An expression that was left out is told from an empty text by its span alone.
Taking the spans away keeps this difference.
-/

namespace PatternSyntax

/-! ## Spans -/

/-- A span that only tells whether anything is there. -/
def Span.presence (span : Span) : Span :=
  if span = .absent then .absent else ⟨0, 1⟩

theorem Span.presence_eq_absent_iff (span : Span) :
    span.presence = .absent ↔ span = .absent := by
  unfold Span.presence
  split
  · rename_i isAbsent
    simp [isAbsent]
  · rename_i isPresent
    simpa [Span.absent] using isPresent

namespace Literal

def mapSpans (f : Span → Span) (text : Literal) : Literal :=
  ⟨text.content, f text.span⟩

end Literal

namespace Capture

def mapSpans (f : Span → Span) (capture : Capture) : Capture :=
  ⟨capture.label, f capture.labelSpan, capture.literal.mapSpans f⟩

end Capture

namespace TestMatch

def mapSpans (f : Span → Span) (expected : TestMatch) : TestMatch :=
  ⟨expected.literal.mapSpans f, expected.captures.map (·.mapSpans f), f expected.span⟩

end TestMatch

namespace TestCase

def mapSpans (f : Span → Span) : TestCase → TestCase
  | .whole expected => .whole (expected.mapSpans f)
  | .within haystack expected span =>
    .within (haystack.mapSpans f) (expected.map (·.mapSpans f)) (f span)
  | .reject text asSubstring span => .reject (text.mapSpans f) asSubstring (f span)

end TestCase

namespace Directive

def mapSpans (f : Span → Span) : Directive → Directive
  | .toggle setting value span => .toggle setting value (f span)
  | .tests cases span => .tests (cases.map (·.mapSpans f)) (f span)

end Directive

namespace ClassItem

def mapSpans (f : Span → Span) : ClassItem → ClassItem
  | .named name qualifier negative span => .named name qualifier negative (f span)
  | item => item

end ClassItem

namespace CharClass

def mapSpans (f : Span → Span) (members : CharClass) : CharClass :=
  ⟨members.items.map (·.mapSpans f), members.unicode, f members.span,
    by simpa using members.items_ne_nil⟩

end CharClass

namespace Pattern

mutual

/-- Change all spans of a pattern. Those of literals, which alone can be left out,
are changed in their own way. -/
def mapSpans (ofLiteral f : Span → Span) : Pattern → Pattern
  | .literal text => .literal (text.mapSpans ofLiteral)
  | .charClass members => .charClass (members.mapSpans f)
  | .group kind body span => .group kind (body.mapSpans ofLiteral f) (f span)
  | .sequence members span => .sequence (mapAllSpans ofLiteral f members) (f span)
  | .alternation members span => .alternation (mapAllSpans ofLiteral f members) (f span)
  | .intersection members span => .intersection (mapAllSpans ofLiteral f members) (f span)
  | .repetition body bounds quantifier span =>
    .repetition (body.mapSpans ofLiteral f) bounds quantifier (f span)
  | .boundary kind span => .boundary kind (f span)
  | .lookaround kind body span => .lookaround kind (body.mapSpans ofLiteral f) (f span)
  | .use name span => .use name (f span)
  | .reference target span => .reference target (f span)
  | .numberRange first last radix span => .numberRange first last radix (f span)
  | .negation body notSpan span => .negation (body.mapSpans ofLiteral f) (f notSpan) (f span)
  | .regex content span => .regex content (f span)
  | .recursion span => .recursion (f span)
  | .dot span => .dot (f span)
  | .directed directive body span =>
    .directed (directive.mapSpans f) (body.mapSpans ofLiteral f) (f span)
  | .binding name nameSpan bound body span =>
    .binding name (f nameSpan) (bound.mapSpans ofLiteral f) (body.mapSpans ofLiteral f) (f span)

/-- Change all spans of the patterns. -/
def mapAllSpans (ofLiteral f : Span → Span) : List Pattern → List Pattern
  | [] => []
  | member :: members => member.mapSpans ofLiteral f :: mapAllSpans ofLiteral f members

end

/-- The pattern without places. An expression that was left out stays so. -/
def withoutSpans : Pattern → Pattern :=
  mapSpans Span.presence fun _ => .absent

/-! ## Modes -/

end Pattern

/-- What a repetition prefers when the mode alone decides. -/
def Quantifier.ofMode (lazyMode : Bool) : Quantifier → Quantifier
  | .defaultGreedy | .defaultLazy => if lazyMode then .defaultLazy else .defaultGreedy
  | said => said

/-- The same members, read with or without regard to Unicode. -/
def CharClass.withUnicode (unicode : Bool) (members : CharClass) : CharClass :=
  { members with unicode := unicode }

namespace Pattern

mutual

/-- The same pattern, with the given modes before its first statement. -/
def withModes (modes : Modes) : Pattern → Pattern
  | .charClass members => .charClass (members.withUnicode modes.unicode)
  | .group kind body span => .group kind (body.withModes modes) span
  | .sequence members span => .sequence (allWithModes modes members) span
  | .alternation members span => .alternation (allWithModes modes members) span
  | .intersection members span => .intersection (allWithModes modes members) span
  | .repetition body bounds quantifier span =>
    .repetition (body.withModes modes) bounds (quantifier.ofMode modes.lazy) span
  | .lookaround kind body span => .lookaround kind (body.withModes modes) span
  | .negation body notSpan span => .negation (body.withModes modes) notSpan span
  | .directed directive body span =>
    .directed directive (body.withModes ((Statement.directive directive).modes modes)) span
  | .binding name nameSpan bound body span =>
    .binding name nameSpan (bound.withModes modes) (body.withModes modes) span
  | pattern => pattern

/-- The same patterns, with the given modes before the first statement of each. -/
def allWithModes (modes : Modes) : List Pattern → List Pattern
  | [] => []
  | member :: members => member.withModes modes :: allWithModes modes members

end

mutual

/-- The pattern with no trace of the modes in force. -/
def withoutModes : Pattern → Pattern
  | .charClass members => .charClass (members.withUnicode false)
  | .group kind body span => .group kind body.withoutModes span
  | .sequence members span => .sequence (allWithoutModes members) span
  | .alternation members span => .alternation (allWithoutModes members) span
  | .intersection members span => .intersection (allWithoutModes members) span
  | .repetition body bounds quantifier span =>
    .repetition body.withoutModes bounds (quantifier.ofMode false) span
  | .lookaround kind body span => .lookaround kind body.withoutModes span
  | .negation body notSpan span => .negation body.withoutModes notSpan span
  | .directed directive body span => .directed directive body.withoutModes span
  | .binding name nameSpan bound body span =>
    .binding name nameSpan bound.withoutModes body.withoutModes span
  | pattern => pattern

/-- The patterns with no trace of the modes in force. -/
def allWithoutModes : List Pattern → List Pattern
  | [] => []
  | member :: members => member.withoutModes :: allWithoutModes members

end

attribute [local simp] mapSpans mapAllSpans withModes allWithModes withoutModes allWithoutModes

/-- What the pattern is, without where its parts stand and which modes hold. -/
def skeleton (pattern : Pattern) : Pattern :=
  pattern.withoutModes.withoutSpans

theorem mapAllSpans_eq_map (ofLiteral f : Span → Span) (patterns : List Pattern) :
    mapAllSpans ofLiteral f patterns = patterns.map (·.mapSpans ofLiteral f) := by
  induction patterns with
  | nil => rfl
  | cons pattern patterns inductionHypothesis =>
    rw [mapAllSpans, inductionHypothesis, List.map_cons]

theorem allWithModes_eq_map (modes : Modes) (patterns : List Pattern) :
    allWithModes modes patterns = patterns.map (·.withModes modes) := by
  induction patterns with
  | nil => rfl
  | cons pattern patterns inductionHypothesis =>
    rw [allWithModes, inductionHypothesis, List.map_cons]

/-! ## The form of a pattern -/

/-- The patterns agree in everything that decides whether a tree is canonical. -/
structure SameForm (first second : Pattern) : Prop where
  runsOn : first.runsOn = second.runsOn
  isVacant : first.isVacant = second.isVacant
  admitsRepetition : first.admitsRepetition = second.admitsRepetition
  isCanonical : first.isCanonical = second.isCanonical

/-- The lists of patterns agree in the same way. -/
structure SameForms (first second : List Pattern) : Prop where
  lastRunsOn : Pattern.lastRunsOn first = Pattern.lastRunsOn second
  onlyLastRunsOn : Pattern.onlyLastRunsOn first = Pattern.onlyLastRunsOn second
  areCanonical : Pattern.areCanonical first = Pattern.areCanonical second

theorem SameForms.nil : SameForms [] [] :=
  ⟨rfl, rfl, rfl⟩

theorem SameForms.single {first second : Pattern} (same : SameForm first second) :
    SameForms [first] [second] :=
  ⟨by simp only [Pattern.lastRunsOn, same.runsOn], rfl,
    by simp only [Pattern.areCanonical, same.isCanonical]⟩

theorem SameForms.cons {first second firstNext secondNext : Pattern}
    {firstMore secondMore : List Pattern} (same : SameForm first second)
    (sameMore : SameForms (firstNext :: firstMore) (secondNext :: secondMore)) :
    SameForms (first :: firstNext :: firstMore) (second :: secondNext :: secondMore) := by
  refine ⟨?_, ?_, ?_⟩
  · rw [Pattern.lastRunsOn, Pattern.lastRunsOn, sameMore.lastRunsOn]
  · rw [Pattern.onlyLastRunsOn, Pattern.onlyLastRunsOn, same.runsOn, sameMore.onlyLastRunsOn]
  · rw [Pattern.areCanonical, same.isCanonical, sameMore.areCanonical, ← Pattern.areCanonical]

namespace SameForm

variable {first second : Pattern} {firstMembers secondMembers : List Pattern}
  {firstSpan secondSpan : Span}

theorem group {firstKind secondKind : GroupKind} (same : SameForm first second) :
    SameForm (.group firstKind first firstSpan) (.group secondKind second secondSpan) := by
  constructor <;> simp only [Pattern.runsOn, Pattern.isVacant, Pattern.admitsRepetition,
    Pattern.isCanonical, same.isCanonical]

theorem sequence (same : SameForms firstMembers secondMembers) :
    SameForm (.sequence firstMembers firstSpan) (.sequence secondMembers secondSpan) := by
  constructor <;> simp only [Pattern.runsOn, Pattern.isVacant, Pattern.admitsRepetition,
    Pattern.isCanonical, same.lastRunsOn, same.onlyLastRunsOn, same.areCanonical]

theorem alternation (same : SameForms firstMembers secondMembers) :
    SameForm (.alternation firstMembers firstSpan) (.alternation secondMembers secondSpan) := by
  constructor <;> simp only [Pattern.runsOn, Pattern.isVacant, Pattern.admitsRepetition,
    Pattern.isCanonical, same.lastRunsOn, same.onlyLastRunsOn, same.areCanonical]

theorem intersection (same : SameForms firstMembers secondMembers) :
    SameForm (.intersection firstMembers firstSpan) (.intersection secondMembers secondSpan) := by
  constructor <;> simp only [Pattern.runsOn, Pattern.isVacant, Pattern.admitsRepetition,
    Pattern.isCanonical, same.lastRunsOn, same.onlyLastRunsOn, same.areCanonical]

theorem repetition {bounds : Bounds} {firstQuantifier secondQuantifier : Quantifier}
    (same : SameForm first second) :
    SameForm (.repetition first bounds firstQuantifier firstSpan)
      (.repetition second bounds secondQuantifier secondSpan) := by
  constructor <;> simp only [Pattern.runsOn, Pattern.isVacant, Pattern.admitsRepetition,
    Pattern.isCanonical, same.admitsRepetition, same.isCanonical]

theorem lookaround {kind : Lookaround} (same : SameForm first second) :
    SameForm (.lookaround kind first firstSpan) (.lookaround kind second secondSpan) := by
  constructor <;> simp only [Pattern.runsOn, Pattern.isVacant, Pattern.admitsRepetition,
    Pattern.isCanonical, same.isVacant, same.isCanonical]

theorem negation {firstNot secondNot : Span} (same : SameForm first second) :
    SameForm (.negation first firstNot firstSpan) (.negation second secondNot secondSpan) := by
  constructor <;> simp only [Pattern.runsOn, Pattern.isVacant, Pattern.admitsRepetition,
    Pattern.isCanonical, same.runsOn, same.admitsRepetition, same.isCanonical]

theorem directed {firstDirective secondDirective : Directive} (same : SameForm first second) :
    SameForm (.directed firstDirective first firstSpan)
      (.directed secondDirective second secondSpan) := by
  constructor <;> simp only [Pattern.runsOn, Pattern.isVacant, Pattern.admitsRepetition,
    Pattern.isCanonical, same.runsOn, same.isVacant, same.isCanonical]

theorem binding {name : String} {firstName secondName : Span} {firstBound secondBound : Pattern}
    (sameBound : SameForm firstBound secondBound) (same : SameForm first second) :
    SameForm (.binding name firstName firstBound first firstSpan)
      (.binding name secondName secondBound second secondSpan) := by
  constructor <;> simp only [Pattern.runsOn, Pattern.isVacant, Pattern.admitsRepetition,
    Pattern.isCanonical, sameBound.isCanonical, same.runsOn, same.isVacant, same.isCanonical]

end SameForm

mutual

theorem sameForm_withoutModes : ∀ pattern : Pattern, SameForm pattern.withoutModes pattern
  | .group _ body _ => .group (sameForm_withoutModes body)
  | .sequence members _ => .sequence (sameForms_allWithoutModes members)
  | .alternation members _ => .alternation (sameForms_allWithoutModes members)
  | .intersection members _ => .intersection (sameForms_allWithoutModes members)
  | .repetition body _ _ _ => .repetition (sameForm_withoutModes body)
  | .lookaround _ body _ => .lookaround (sameForm_withoutModes body)
  | .negation body _ _ => .negation (sameForm_withoutModes body)
  | .directed _ body _ => .directed (sameForm_withoutModes body)
  | .binding _ _ bound body _ =>
    .binding (sameForm_withoutModes bound) (sameForm_withoutModes body)
  | .literal _ | .charClass _ | .boundary _ _ | .use _ _ | .reference _ _ | .numberRange _ _ _ _
  | .regex _ _ | .recursion _ | .dot _ => by constructor <;> rfl

theorem sameForms_allWithoutModes :
    ∀ patterns : List Pattern, SameForms (allWithoutModes patterns) patterns
  | [] => .nil
  | [only] => .single (sameForm_withoutModes only)
  | first :: second :: more =>
    .cons (sameForm_withoutModes first) (sameForms_allWithoutModes (second :: more))

end

/-- The function does not change which parts of the pattern were left out. -/
def KeepsAbsence (ofLiteral : Span → Span) (modes : Modes) (pattern : Pattern) : Prop :=
  ∀ node ∈ pattern.nodes modes, ∀ text, node.pattern = .literal text →
    (ofLiteral text.span = .absent ↔ text.span = .absent)

theorem KeepsAbsence.of_mem_children {ofLiteral : Span → Span} {modes : Modes} {pattern : Pattern}
    {child : Node} (keeps : KeepsAbsence ofLiteral modes pattern)
    (isChild : child ∈ pattern.children modes) :
    KeepsAbsence ofLiteral child.modes child.pattern :=
  @forall_nodes_of_mem_children _ _ (fun part => ∀ text, part = .literal text →
    (ofLiteral text.span = .absent ↔ text.span = .absent)) _ keeps isChild

theorem keepsAbsence_presence (modes : Modes) (pattern : Pattern) :
    KeepsAbsence Span.presence modes pattern :=
  fun _ _ text _ => Span.presence_eq_absent_iff text.span

mutual

theorem sameForm_mapSpans {ofLiteral f : Span → Span} : ∀ (pattern : Pattern) (modes : Modes),
    KeepsAbsence ofLiteral modes pattern → SameForm (pattern.mapSpans ofLiteral f) pattern
  | .group _ body _, modes, keeps =>
    .group (sameForm_mapSpans body modes (keeps.of_mem_children List.mem_cons_self))
  | .sequence members _, modes, keeps =>
    .sequence (sameForms_mapAllSpans members modes fun _ isMember =>
      keeps.of_mem_children (List.mem_map_of_mem isMember))
  | .alternation members _, modes, keeps =>
    .alternation (sameForms_mapAllSpans members modes fun _ isMember =>
      keeps.of_mem_children (List.mem_map_of_mem isMember))
  | .intersection members _, modes, keeps =>
    .intersection (sameForms_mapAllSpans members modes fun _ isMember =>
      keeps.of_mem_children (List.mem_map_of_mem isMember))
  | .repetition body _ _ _, modes, keeps =>
    .repetition (sameForm_mapSpans body modes
      (keeps.of_mem_children List.mem_cons_self))
  | .lookaround _ body _, modes, keeps =>
    .lookaround (sameForm_mapSpans body modes
      (keeps.of_mem_children List.mem_cons_self))
  | .negation body _ _, modes, keeps =>
    .negation (sameForm_mapSpans body modes
      (keeps.of_mem_children List.mem_cons_self))
  | .directed _ body _, _, keeps =>
    .directed (sameForm_mapSpans body _ (keeps.of_mem_children List.mem_cons_self))
  | .binding _ _ bound body _, modes, keeps =>
    .binding
      (sameForm_mapSpans bound modes (keeps.of_mem_children List.mem_cons_self))
      (sameForm_mapSpans body modes
        (keeps.of_mem_children (List.mem_cons_of_mem _ List.mem_cons_self)))
  | .literal text, modes, keeps => by
    have same := keeps _ (self_mem_nodes modes _) text rfl
    refine ⟨rfl, ?_, rfl, rfl⟩
    rcases text with ⟨content, span⟩
    simp [isVacant, Literal.mapSpans, same]
  | .charClass _, _, _ | .boundary _ _, _, _ | .use _ _, _, _ | .reference _ _, _, _
  | .numberRange _ _ _ _, _, _ | .regex _ _, _, _ | .recursion _, _, _ | .dot _, _, _ => by
    constructor <;> rfl

theorem sameForms_mapAllSpans {ofLiteral f : Span → Span} :
    ∀ (patterns : List Pattern) (modes : Modes),
      (∀ pattern ∈ patterns, KeepsAbsence ofLiteral modes pattern) →
        SameForms (mapAllSpans ofLiteral f patterns) patterns
  | [], _, _ => .nil
  | [only], modes, keeps => .single (sameForm_mapSpans only modes (keeps only List.mem_cons_self))
  | first :: second :: more, modes, keeps =>
    .cons (sameForm_mapSpans first modes (keeps first List.mem_cons_self))
      (sameForms_mapAllSpans (second :: more) modes fun pattern isMember =>
        keeps pattern (List.mem_cons_of_mem _ isMember))

end

mutual

theorem mapSpans_nesting (ofLiteral f : Span → Span) :
    ∀ pattern : Pattern, (pattern.mapSpans ofLiteral f).nesting = pattern.nesting
  | .group _ body _ => by rw [mapSpans, nesting, nesting, mapSpans_nesting]
  | .sequence members _ => by rw [mapSpans, nesting, nesting, mapAllSpans_greatestNesting]
  | .alternation members _ => by rw [mapSpans, nesting, nesting, mapAllSpans_greatestNesting]
  | .intersection members _ => by rw [mapSpans, nesting, nesting, mapAllSpans_greatestNesting]
  | .repetition body _ _ _ => by rw [mapSpans, nesting, nesting, mapSpans_nesting]
  | .lookaround _ body _ => by rw [mapSpans, nesting, nesting, mapSpans_nesting]
  | .negation body _ _ => by rw [mapSpans, nesting, nesting, mapSpans_nesting]
  | .directed _ body _ => by rw [mapSpans, nesting, nesting, mapSpans_nesting]
  | .binding _ _ bound body _ => by
    rw [mapSpans, nesting, nesting, mapSpans_nesting, mapSpans_nesting]
  | .literal _ | .charClass _ | .boundary _ _ | .use _ _ | .reference _ _ | .numberRange _ _ _ _
  | .regex _ _ | .recursion _ | .dot _ => rfl

theorem mapAllSpans_greatestNesting (ofLiteral f : Span → Span) :
    ∀ patterns : List Pattern,
      greatestNesting (mapAllSpans ofLiteral f patterns) = greatestNesting patterns
  | [] => rfl
  | first :: more => by
    rw [mapAllSpans, greatestNesting, mapSpans_nesting, mapAllSpans_greatestNesting, greatestNesting]

end

/-- Whether a tree is canonical is seen from its skeleton. -/
theorem skeleton_isCanonical (pattern : Pattern) :
    pattern.skeleton.isCanonical = pattern.isCanonical := by
  have withoutSpans_sameForm := @sameForm_mapSpans Span.presence (fun _ => .absent)
    pattern.withoutModes .initial (keepsAbsence_presence _ _)
  rw [skeleton, withoutSpans, withoutSpans_sameForm.isCanonical,
    (sameForm_withoutModes pattern).isCanonical]

/-! ## Changing the modes -/

@[simp]
theorem withModes_span (modes : Modes) (pattern : Pattern) :
    (pattern.withModes modes).span = pattern.span := by
  cases pattern <;> simp [span, CharClass.withUnicode]

@[simp]
theorem withModes_scopedSpan (modes : Modes) :
    ∀ pattern : Pattern, (pattern.withModes modes).scopedSpan = pattern.scopedSpan
  | .directed _ body _ => by rw [withModes, scopedSpan, withModes_scopedSpan, scopedSpan]
  | .binding _ _ _ body _ => by rw [withModes, scopedSpan, withModes_scopedSpan, scopedSpan]
  | .group _ _ _ | .sequence _ _ | .alternation _ _ | .intersection _ _ | .repetition _ _ _ _
  | .lookaround _ _ _ | .negation _ _ _ | .literal _ | .charClass _ | .boundary _ _ | .use _ _
  | .reference _ _ | .numberRange _ _ _ _ | .regex _ _ | .recursion _ | .dot _ => rfl

mutual

theorem withModes_withoutModes (modes : Modes) :
    ∀ pattern : Pattern, (pattern.withModes modes).withoutModes = pattern.withoutModes
  | .group _ body _ => by rw [withModes, withoutModes, withModes_withoutModes, withoutModes]
  | .sequence members _ => by
    rw [withModes, withoutModes, allWithModes_allWithoutModes, withoutModes]
  | .alternation members _ => by
    rw [withModes, withoutModes, allWithModes_allWithoutModes, withoutModes]
  | .intersection members _ => by
    rw [withModes, withoutModes, allWithModes_allWithoutModes, withoutModes]
  | .repetition body _ quantifier _ => by
    rw [withModes, withoutModes, withModes_withoutModes, withoutModes]
    cases quantifier <;> cases lazyMode : modes.lazy <;> rfl
  | .lookaround _ body _ => by rw [withModes, withoutModes, withModes_withoutModes, withoutModes]
  | .negation body _ _ => by rw [withModes, withoutModes, withModes_withoutModes, withoutModes]
  | .directed _ body _ => by rw [withModes, withoutModes, withModes_withoutModes, withoutModes]
  | .binding _ _ bound body _ => by
    rw [withModes, withoutModes, withModes_withoutModes, withModes_withoutModes, withoutModes]
  | .literal _ | .charClass _ | .boundary _ _ | .use _ _ | .reference _ _ | .numberRange _ _ _ _
  | .regex _ _ | .recursion _ | .dot _ => rfl

theorem allWithModes_allWithoutModes (modes : Modes) :
    ∀ patterns : List Pattern,
      allWithoutModes (allWithModes modes patterns) = allWithoutModes patterns
  | [] => rfl
  | first :: more => by
    rw [allWithModes, allWithoutModes, withModes_withoutModes, allWithModes_allWithoutModes,
      allWithoutModes]

end

theorem withModes_skeleton (modes : Modes) (pattern : Pattern) :
    (pattern.withModes modes).skeleton = pattern.skeleton := by
  rw [skeleton, withModes_withoutModes, skeleton]

theorem withModes_alternationOf (modes : Modes) (start : Span) (first : Pattern)
    (more : List Pattern) : (alternationOf start first more).withModes modes =
      alternationOf start (first.withModes modes) (allWithModes modes more) := by
  cases more with
  | nil => rfl
  | cons second more =>
    simp only [alternationOf, withModes, allWithModes_eq_map, List.map_cons, List.foldl_cons,
      List.foldl_map, withModes_span]

theorem withModes_intersectionOf (modes : Modes) (span : Span) (first : Pattern)
    (more : List Pattern) : (intersectionOf span first more).withModes modes =
      intersectionOf span (first.withModes modes) (allWithModes modes more) := by
  cases more with
  | nil => rfl
  | cons second more => simp only [intersectionOf, withModes, allWithModes]

theorem withModes_sequenceOf (modes : Modes) (first : Pattern) (more : List Pattern) :
    (sequenceOf first more).withModes modes =
      sequenceOf (first.withModes modes) (allWithModes modes more) := by
  simp only [sequenceOf, allWithModes_eq_map, List.getLast?_map, withModes_span]
  cases last : more.getLast? with
  | none => rfl
  | some last => simp only [Option.map_some, withModes, allWithModes, allWithModes_eq_map, withModes_span]

theorem withModes_negate (modes : Modes) (notSpan : Span) (count : Nat) (body : Pattern) :
    (Grammar.negate notSpan count body).withModes modes =
      Grammar.negate notSpan count (body.withModes modes) := by
  induction count generalizing body with
  | zero => rfl
  | succ count inductionHypothesis =>
    rw [Grammar.negate, inductionHypothesis, Grammar.negate, withModes, withModes_span]

end Pattern

namespace Statement

/-- The same statement, with the given modes before it. -/
def withModes (modes : Modes) : Statement → Statement
  | directive content => directive content
  | binding name nameSpan bound => binding name nameSpan (bound.withModes modes)

theorem withModes_scope (modes : Modes) (statement : Statement) (body : Pattern) (span : Span) :
    (statement.scope body span).withModes modes =
      (statement.withModes modes).scope (body.withModes (statement.modes modes)) span := by
  cases statement with
  | directive content => simp only [scope, withModes, Pattern.withModes]
  | binding name nameSpan bound => simp only [scope, withModes, Pattern.withModes, Statement.modes]

theorem withModes_modes (modes outer : Modes) (statement : Statement) :
    (statement.withModes modes).modes outer = statement.modes outer := by
  cases statement <;> rfl

end Statement

namespace Phrase

/-- The same phrase, with the given modes before it. -/
def withModes (modes : Modes) : Phrase → Phrase
  | .expression pattern => .expression (pattern.withModes modes)
  | .statement content => .statement (content.withModes modes)
  | .alternation pattern => .alternation (pattern.withModes modes)
  | .moreAlternatives patterns => .moreAlternatives (Pattern.allWithModes modes patterns)
  | .intersection pattern => .intersection (pattern.withModes modes)
  | .moreOperands patterns => .moreOperands (Pattern.allWithModes modes patterns)
  | .sequence pattern => .sequence (pattern.withModes modes)
  | .moreTerms patterns => .moreTerms (Pattern.allWithModes modes patterns)
  | .term pattern => .term (pattern.withModes modes)
  | .negation pattern => .negation (pattern.withModes modes)
  | .operand pattern => .operand (pattern.withModes modes)

end Phrase

namespace Grammar

theorem SpellsPreference.ofMode {lazyMode : Bool} {preference : Quantifier} {lexemes : List Lexeme}
    (spells : SpellsPreference lazyMode preference lexemes) (otherMode : Bool) :
    SpellsPreference otherMode (preference.ofMode otherMode) lexemes := by
  cases spells with
  | greedy isGreedy => exact .greedy isGreedy
  | lazy isLazy => exact .lazy isLazy
  | unsaid =>
    have same : (if lazyMode then Quantifier.defaultLazy else .defaultGreedy).ofMode otherMode =
        if otherMode then .defaultLazy else .defaultGreedy := by
      cases lazyMode <;> rfl
    rw [same]
    exact .unsaid

theorem SpellsAtom.withModes {unicode : Bool} {pattern : Pattern} {lexemes : List Lexeme}
    (spells : SpellsAtom unicode pattern lexemes) (modes : Modes) :
    SpellsAtom modes.unicode (pattern.withModes modes) lexemes := by
  cases spells with
  | charClass spells =>
    cases spells with
    | brackets opens spells nonempty closes =>
      exact .charClass (.brackets opens spells nonempty closes)
  | literal isText => exact .literal isText
  | boundary isBoundary => exact .boundary isBoundary
  | reference isMark spells => exact .reference isMark spells
  | codePoint isCodePoint readable => exact .codePoint isCodePoint readable
  | decimalRange isRange isFirst isDash isLast =>
    exact .decimalRange isRange isFirst isDash isLast
  | basedRange isRange isFirst isDash isLast isBase isNumber readable inRange =>
    exact .basedRange isRange isFirst isDash isLast isBase isNumber readable inRange
  | regex isRegex isText => exact .regex isRegex isText
  | use isName => exact .use isName
  | dot isDot => exact .dot isDot
  | recursion isRecursion => exact .recursion isRecursion

end Grammar

/-- The lexemes spell the same phrase whatever the modes are. -/
theorem Spells.withModes {modes : Modes} {phrase : Phrase} {lexemes : List Lexeme}
    (spells : Spells modes phrase lexemes) (other : Modes) :
    Spells other (phrase.withModes other) lexemes := by
  induction spells generalizing other with
  | bare _ inductionHypothesis => exact .bare (inductionHypothesis other)
  | @stated _ statement body _ _ _ _ spellsStatement spellsBody =>
    have bodySpells := spellsBody (statement.modes other)
    rw [← Statement.withModes_modes other] at bodySpells
    have stated := Spells.stated (spellsStatement other) bodySpells
    rw [Statement.withModes_modes, Pattern.withModes_scopedSpan] at stated
    simpa only [Phrase.withModes, Statement.withModes_scope] using stated
  | directive spells => exact .directive spells
  | binding isLet isName isEquals _ stops inductionHypothesis =>
    exact .binding isLet isName isEquals (inductionHypothesis other) stops
  | nothing => exact .nothing
  | alternatives isBar _ _ spellsFirst spellsMore =>
    rw [Phrase.withModes, Pattern.withModes_alternationOf]
    exact .alternatives isBar (spellsFirst other) (spellsMore other)
  | noAlternative => exact .noAlternative
  | nextAlternative isBar _ _ spells spellsMore =>
    exact .nextAlternative isBar (spells other) (spellsMore other)
  | intersected isAmpersand _ _ spellsFirst spellsMore =>
    rw [Phrase.withModes, Pattern.withModes_intersectionOf]
    exact .intersected isAmpersand (spellsFirst other) (spellsMore other)
  | noOperand => exact .noOperand
  | nextOperand isAmpersand _ _ spells spellsMore =>
    exact .nextOperand isAmpersand (spells other) (spellsMore other)
  | terms _ _ spellsFirst spellsMore =>
    rw [Phrase.withModes, Pattern.withModes_sequenceOf]
    exact .terms (spellsFirst other) (spellsMore other)
  | noTerm => exact .noTerm
  | nextTerm _ _ spells spellsMore => exact .nextTerm (spells other) (spellsMore other)
  | once _ inductionHypothesis => exact .once (inductionHypothesis other)
  | repeated _ spellsBounds spellsPreference inductionHypothesis =>
    have repeated := Spells.repeated (inductionHypothesis other) spellsBounds
      (spellsPreference.ofMode other.lazy)
    rwa [Pattern.withModes_span] at repeated
  | negated areBangs _ inductionHypothesis =>
    rw [Phrase.withModes, Pattern.withModes_negate]
    exact .negated areBangs (inductionHypothesis other)
  | lookaround isLookaround _ inductionHypothesis =>
    have looked := Spells.lookaround isLookaround (inductionHypothesis other)
    rwa [Pattern.withModes_span] at looked
  | group spellsOpening _ closes inductionHypothesis =>
    exact .group spellsOpening (inductionHypothesis other) closes
  | atom spells => exact .atom (spells.withModes other)

end PatternSyntax
