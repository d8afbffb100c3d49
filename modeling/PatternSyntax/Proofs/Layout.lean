import PatternSyntax.Proofs.Runs
import PatternSyntax.Proofs.Sources

/-!
# Layout

How the spans of a tree lie within one another. Every span reaches from the beginning of
one lexeme to the end of one, what a node holds lies within the node, and what stands in
a row lies in the same order as in the row.

Two things lie differently. An expression that was left out is nowhere. What a statement
applies to follows the statement, but the node of the statement need not reach as far.
-/

namespace PatternSyntax

open Grammar

/-! ## Frames -/

/-- The inner spans lie in the outer one, one after the other. -/
structure Span.Frames (outer : Span) (inner : List Span) : Prop where
  contains : ∀ span ∈ inner, outer.Contains span
  apart : inner.Pairwise Span.Precedes

/-! ## What nodes hold -/

def Capture.spans (capture : Capture) : List Span :=
  [capture.labelSpan, capture.literal.span]

namespace TestMatch

/-- The spans of the text and of the captures, in order. -/
def innerSpans (expected : TestMatch) : List Span :=
  expected.literal.span :: expected.captures.flatMap Capture.spans

def spans (expected : TestMatch) : List Span :=
  expected.span :: expected.innerSpans

def IsLaidOut (expected : TestMatch) : Prop :=
  expected.span.Frames expected.innerSpans

end TestMatch

namespace TestCase

def span : TestCase → Span
  | .whole expected => expected.span
  | .within _ _ span | .reject _ _ span => span

def spans : TestCase → List Span
  | .whole expected => expected.spans
  | .within haystack expected span => span :: expected.flatMap TestMatch.spans ++ [haystack.span]
  | .reject literal _ span => [span, literal.span]

def IsLaidOut : TestCase → Prop
  | .whole expected => expected.IsLaidOut
  | .within haystack expected span =>
    span.Frames (expected.map TestMatch.span ++ [haystack.span]) ∧
      ∀ value ∈ expected, value.IsLaidOut
  | .reject literal _ span => span.Frames [literal.span]

end TestCase

namespace Directive

def span : Directive → Span
  | .toggle _ _ span | .tests _ span => span

def spans : Directive → List Span
  | .toggle _ _ span => [span]
  | .tests cases span => span :: cases.flatMap TestCase.spans

def IsLaidOut : Directive → Prop
  | .toggle _ _ _ => True
  | .tests cases span => span.Frames (cases.map TestCase.span) ∧ ∀ case ∈ cases, case.IsLaidOut

end Directive

/-- Only named sets remember where they stand. -/
def ClassItem.span? : ClassItem → Option Span
  | .char _ | .range _ _ => none
  | .named _ _ _ span => some span

/-- The spans of the named sets, in order. -/
def CharClass.innerSpans (members : CharClass) : List Span :=
  members.items.filterMap ClassItem.span?

namespace Pattern

/-- The span of the pattern, unless it is nowhere. -/
def places (pattern : Pattern) : List Span :=
  if pattern.span.isAbsent then [] else [pattern.span]

/-- The spans that a node holds besides its own and those of its children. -/
def innerSpans : Pattern → List Span
  | .charClass members => members.innerSpans
  | .negation _ notSpan _ => [notSpan]
  | .directed directive _ _ => directive.spans
  | .binding _ nameSpan _ _ _ => [nameSpan]
  | _ => []

/-- What the node holds lies within it and in order. -/
def IsLaidOut : Pattern → Prop
  | .charClass members => members.span.Frames members.innerSpans
  | .group _ body span | .repetition body _ _ span | .lookaround _ body span =>
    span.Frames body.places
  | .sequence members span | .alternation members span | .intersection members span =>
    span.Frames (members.map Pattern.span)
  | .negation body notSpan span => span.Frames [notSpan] ∧ span.Frames body.places
  | .directed directive body span =>
    span.Frames [directive.span] ∧ directive.IsLaidOut ∧
      (directive.span :: body.places).Pairwise Span.Precedes
  | .binding _ nameSpan bound body span =>
    span.Frames (nameSpan :: bound.places) ∧
      (nameSpan :: bound.places ++ body.places).Pairwise Span.Precedes
  | _ => True

end Pattern

variable {modes : Modes} {lexemes : List Lexeme}

/-! ## Frames of runs -/

theorem Span.AreAligned.frames {outer : Span} {spans : List Span}
    (aligned : Span.AreAligned lexemes spans) (contains : ∀ span ∈ spans, outer.Contains span) :
    outer.Frames spans :=
  ⟨contains, aligned.apart⟩

/-- What reaches from the first pattern of a row to the last one frames the row. -/
theorem Span.AreAligned.frames_row {outer : Span} {first : Pattern} {more : List Pattern}
    (aligned : Span.AreAligned lexemes ((first :: more).map Pattern.span)) (nonempty : more ≠ [])
    (starts : outer.start ≤ first.span.start) (stops : (more.getLast nonempty).span.stop ≤ outer.stop) :
    outer.Frames ((first :: more).map Pattern.span) := by
  have split : (first :: more).map Pattern.span =
      first.span :: more.dropLast.map Pattern.span ++ [(more.getLast nonempty).span] := by
    rw [← List.map_singleton, List.cons_append, ← List.map_append,
      List.dropLast_append_getLast nonempty, List.map_cons]
  rw [split] at aligned ⊢
  exact aligned.frames (aligned.contained starts stops)

theorem IsOrdered.frames (ordered : IsOrdered lexemes) {spans : List Span}
    (aligned : Span.AreAligned lexemes spans) : (cover lexemes).Frames spans :=
  aligned.frames fun span member => ordered.cover_contains (aligned.runs span member)

theorem Span.frames_singleton {outer inner : Span} (contains : outer.Contains inner) :
    outer.Frames [inner] :=
  ⟨List.forall_mem_singleton.mpr contains, List.pairwise_singleton _ _⟩

theorem Pattern.frames_places {outer : Span} {pattern : Pattern}
    (contains : pattern.span.isAbsent = false → outer.Contains pattern.span) :
    outer.Frames pattern.places := by
  rw [Pattern.places]
  split
  · exact ⟨List.forall_mem_nil _, .nil⟩
  · rename_i present
    exact Span.frames_singleton (contains (Bool.not_eq_true _ ▸ present))

theorem TestCase.span_mem_spans (case : TestCase) : case.span ∈ case.spans := by
  cases case <;> exact List.mem_cons_self

theorem Directive.span_mem_spans (directive : Directive) : directive.span ∈ directive.spans := by
  cases directive <;> exact List.mem_cons_self

theorem Pattern.places_areAligned {pattern : Pattern}
    (stands : pattern = .empty ∨ pattern.span.IsRunOf lexemes) :
    Span.AreAligned lexemes pattern.places := by
  rcases stands with rfl | run
  · exact .nil
  · rw [Pattern.places, run.present, if_neg Bool.false_ne_true]
    exact .singleton run

/-! ## Layout of classes and tests -/

theorem Grammar.SpellsItems.areAligned {items : List ClassItem} (spells : SpellsItems items lexemes)
    (ordered : IsOrdered lexemes) : Span.AreAligned lexemes (items.filterMap ClassItem.span?) := by
  cases spells with
  | @unit unit _ spells =>
    cases unit with
    | char c => exact .nil
    | text content =>
      have nothing : (content.map ClassItem.char).filterMap ClassItem.span? = [] := by
        simp [ClassItem.span?]
      rw [ClassUnit.items, nothing]
      exact .nil
  | range => exact .nil
  | @named bang name =>
    exact .singleton (ordered.isRunOf (List.mem_append_right _ List.mem_cons_self))
  | @qualified bang qualifier colon name =>
    have innerOrdered := ordered.of_append_right
    have last : name ∈ [qualifier, colon, name] := by simp
    have run := (innerOrdered.isRunOf List.mem_cons_self).join (innerOrdered.isRunOf last)
    exact .singleton (run.append_left bang.toList)

theorem Grammar.SpellsClass.areAligned {unicode : Bool} {members : CharClass}
    (spells : SpellsClass unicode members lexemes) (ordered : IsOrdered lexemes) :
    Span.AreAligned lexemes members.innerSpans := by
  cases spells with
  | @brackets opening closing parts inner opens spells nonempty closes =>
    have innerOrdered := ordered.of_append_left.of_append_right
    have aligned := spells.areAligned innerOrdered fun _ _ => SpellsItems.areAligned
    rw [CharClass.innerSpans, List.filterMap_flatten, ← List.flatMap_def]
    exact (aligned.append_left [opening]).append_right [closing]

theorem Grammar.SpellsCapture.areAligned {capture : Capture} (spells : SpellsCapture capture lexemes)
    (ordered : IsOrdered lexemes) : Span.AreAligned lexemes capture.spans := by
  cases spells with
  | capture => exact ordered.areAligned.sublist (.cons_cons _ (.cons _ (.refl _)))

theorem Grammar.SpellsCaptures.areAligned {captures : List Capture}
    (spells : SpellsCaptures captures lexemes) (ordered : IsOrdered lexemes) :
    Span.AreAligned lexemes (captures.flatMap Capture.spans) := by
  have separated (capture : Capture) (part : List Lexeme) (spells : SpellsSeparatedCapture capture part)
      (ordered : IsOrdered part) : Span.AreAligned part capture.spans := by
    obtain ⟨inner, comma, spells, -, rfl⟩ := spells
    exact (spells.areAligned ordered.of_append_left).append_right [comma]
  cases spells with
  | unlisted => exact .nil
  | separated _ _ spells _ =>
    have innerOrdered := ordered.of_append_left.of_append_right
    exact ((spells.areAligned innerOrdered separated).append_left _).append_right _
  | listed _ _ spells spellsLast _ =>
    have innerOrdered := ordered.of_append_left
    obtain ⟨frontOrdered, lastOrdered, -⟩ := isOrdered_append_iff.mp innerOrdered
    have aligned := spells.areAligned frontOrdered.of_append_right separated
    rw [List.flatMap_append, List.flatMap_singleton]
    exact (Span.AreAligned.append innerOrdered (aligned.append_left _)
      (spellsLast.areAligned lastOrdered)).append_right _

theorem Grammar.SpellsMatch.areAligned {expected : TestMatch} (spells : SpellsMatch expected lexemes)
    (ordered : IsOrdered lexemes) : Span.AreAligned lexemes expected.innerSpans := by
  cases spells with
  | @expected text captures inner isText spells =>
    obtain ⟨textOrdered, innerOrdered, -⟩ := isOrdered_append_iff.mp ordered
    exact .append ordered (.singleton (textOrdered.isRunOf List.mem_cons_self))
      (spells.areAligned innerOrdered)

theorem Grammar.SpellsMatch.isLaidOut {expected : TestMatch} (spells : SpellsMatch expected lexemes)
    (ordered : IsOrdered lexemes) : expected.IsLaidOut := by
  rw [TestMatch.IsLaidOut, spells.span_eq_cover]
  exact ordered.frames (spells.areAligned ordered)

theorem Grammar.SpellsMatch.runs {expected : TestMatch} (spells : SpellsMatch expected lexemes)
    (ordered : IsOrdered lexemes) : ∀ span ∈ expected.spans, span.IsRunOf lexemes := by
  refine List.forall_mem_cons.mpr ⟨?_, (spells.areAligned ordered).runs⟩
  rw [spells.span_eq_cover]
  exact ordered.cover_isRunOf spells.ne_nil

theorem Grammar.SpellsNextMatch.areAligned {expected : TestMatch}
    (spells : SpellsNextMatch expected lexemes) (ordered : IsOrdered lexemes) :
    Span.AreAligned lexemes [expected.span] := by
  obtain ⟨comma, inner, -, spells, rfl⟩ := spells
  have innerOrdered := ordered.of_append_right
  have run := spells.runs innerOrdered expected.span List.mem_cons_self
  exact .singleton (run.append_left [comma])

theorem Grammar.SpellsMatches.areAligned {expected : List TestMatch}
    (spells : SpellsMatches expected lexemes) (ordered : IsOrdered lexemes) :
    Span.AreAligned lexemes (expected.map TestMatch.span) := by
  cases spells with
  | nil => exact .nil
  | cons spellsFirst spellsMore =>
    obtain ⟨firstOrdered, restOrdered, -⟩ := isOrdered_append_iff.mp ordered
    have run := spellsFirst.runs firstOrdered _ List.mem_cons_self
    have aligned := spellsMore.areAligned restOrdered fun _ _ => SpellsNextMatch.areAligned
    rw [← List.map_eq_flatMap] at aligned
    exact .append ordered (.singleton run) aligned

theorem Grammar.SpellsMatches.isLaidOut {expected : List TestMatch}
    (spells : SpellsMatches expected lexemes) (ordered : IsOrdered lexemes) :
    ∀ value ∈ expected, value.IsLaidOut := by
  cases spells with
  | nil => exact List.forall_mem_nil _
  | cons spellsFirst spellsMore =>
    obtain ⟨firstOrdered, restOrdered, -⟩ := isOrdered_append_iff.mp ordered
    refine List.forall_mem_cons.mpr ⟨spellsFirst.isLaidOut firstOrdered,
      (spellsMore.with_order restOrdered).forall_values ?_⟩
    rintro value _ ⟨⟨comma, inner, -, spells, rfl⟩, ordered⟩
    exact spells.isLaidOut ordered.of_append_right

theorem Grammar.SpellsMatches.runs {expected : List TestMatch}
    (spells : SpellsMatches expected lexemes) (ordered : IsOrdered lexemes) :
    ∀ span ∈ expected.flatMap TestMatch.spans, span.IsRunOf lexemes := by
  cases spells with
  | nil => exact List.forall_mem_nil _
  | cons spellsFirst spellsMore =>
    obtain ⟨firstOrdered, restOrdered, -⟩ := isOrdered_append_iff.mp ordered
    rw [List.flatMap_cons]
    refine List.forall_mem_append.mpr ⟨fun span member => ?_, fun span member => ?_⟩
    · exact (spellsFirst.runs firstOrdered span member).append_right _
    · refine (spellsMore.runs restOrdered ?_ span member).append_left _
      rintro value _ ⟨comma, inner, -, spells, rfl⟩ ordered span member
      exact (spells.runs ordered.of_append_right span member).append_left [comma]

theorem Grammar.SpellsCase.isLaidOut {case : TestCase} (spells : SpellsCase case lexemes)
    (ordered : IsOrdered lexemes) : case.IsLaidOut := by
  cases spells with
  | whole _ spells _ =>
    exact spells.isLaidOut ordered.of_append_left.of_append_right
  | @within word introduction text stop expected inner _ spells =>
    have textOrdered := ordered.of_append_left
    obtain ⟨inOrdered, lastOrdered, -⟩ := isOrdered_append_iff.mp textOrdered
    have innerOrdered := inOrdered.of_append_left.of_append_right
    have aligned := Span.AreAligned.append textOrdered
      (((spells.areAligned innerOrdered).append_left [word]).append_right [introduction])
      (.singleton (lastOrdered.isRunOf List.mem_cons_self))
    have span_eq : word.span.join stop.span =
        cover ([word] ++ inner ++ [introduction] ++ [text] ++ [stop]) := by simp [cover, firstSpan]
    constructor
    · rw [span_eq]
      exact ordered.frames (aligned.append_right [stop])
    · exact spells.isLaidOut innerOrdered
  | @reject word text stop introduction =>
    have isText : text ∈ [word] ++ introduction.toList ++ [text] ++ [stop] := by simp
    have span_eq : word.span.join stop.span =
        cover ([word] ++ introduction.toList ++ [text] ++ [stop]) := by simp [cover, firstSpan]
    rw [TestCase.IsLaidOut, span_eq]
    exact ordered.frames (.singleton (ordered.isRunOf isText))

theorem Grammar.SpellsCase.runs {case : TestCase} (spells : SpellsCase case lexemes)
    (ordered : IsOrdered lexemes) : ∀ span ∈ case.spans, span.IsRunOf lexemes := by
  cases spells with
  | whole _ spells _ =>
    have innerOrdered := ordered.of_append_left.of_append_right
    exact fun span member => ((spells.runs innerOrdered span member).append_left _).append_right _
  | @within word introduction text stop expected inner _ spells =>
    have textOrdered := ordered.of_append_left
    have inOrdered := textOrdered.of_append_left
    have innerOrdered := inOrdered.of_append_left.of_append_right
    have isText : text ∈ [word] ++ inner ++ [introduction] ++ [text] ++ [stop] := by simp
    have isStop : stop ∈ [word] ++ inner ++ [introduction] ++ [text] ++ [stop] := by simp
    refine List.forall_mem_cons.mpr ⟨(ordered.isRunOf List.mem_cons_self).join
      (ordered.isRunOf isStop), List.forall_mem_append.mpr ⟨fun span member => ?_,
      List.forall_mem_singleton.mpr (ordered.isRunOf isText)⟩⟩
    have run := (spells.runs innerOrdered span member).append_left [word]
    exact ((run.append_right [introduction]).append_right [text]).append_right [stop]
  | @reject word text stop introduction =>
    have isText : text ∈ [word] ++ introduction.toList ++ [text] ++ [stop] := by simp
    have isStop : stop ∈ [word] ++ introduction.toList ++ [text] ++ [stop] := by simp
    exact List.forall_mem_cons.mpr ⟨(ordered.isRunOf List.mem_cons_self).join
      (ordered.isRunOf isStop), List.forall_mem_singleton.mpr (ordered.isRunOf isText)⟩

/-! ## Layout of statements -/

theorem Grammar.SpellsDirective.span_eq_cover {directive : Directive}
    (spells : SpellsDirective directive lexemes) : directive.span = cover lexemes := by
  cases spells with
  | toggle => simp [Directive.span, cover, firstSpan]
  | tests spells =>
    cases spells with
    | block => simp [Directive.span, cover, firstSpan]

theorem Grammar.SpellsDirective.isLaidOut {directive : Directive}
    (spells : SpellsDirective directive lexemes) (ordered : IsOrdered lexemes) :
    directive.IsLaidOut := by
  have span_eq := spells.span_eq_cover
  cases spells with
  | toggle => trivial
  | tests spells =>
    cases spells with
    | @block word opening closing cases inner _ _ spells _ =>
      have innerOrdered := ordered.of_append_left.of_append_right
      constructor
      · have aligned := @Parser.Each.areAligned _ _ _ _ (fun case => [case.span]) spells innerOrdered
          fun case part spells ordered => .singleton (spells.runs ordered _ case.span_mem_spans)
        rw [← List.map_eq_flatMap] at aligned
        rw [Directive.span] at span_eq
        rw [span_eq]
        exact ordered.frames ((aligned.append_left _).append_right _)
      · refine (spells.with_order innerOrdered).forall_values fun case part => ?_
        rintro ⟨spells, ordered⟩
        exact spells.isLaidOut ordered

theorem Grammar.SpellsDirective.runs {directive : Directive}
    (spells : SpellsDirective directive lexemes) (ordered : IsOrdered lexemes) :
    ∀ span ∈ directive.spans, span.IsRunOf lexemes := by
  have self : directive.span.IsRunOf lexemes := by
    rw [spells.span_eq_cover]
    exact ordered.cover_isRunOf (ne_nil_of_roleOf (by decide) spells.role_eq)
  cases spells with
  | toggle => exact List.forall_mem_singleton.mpr self
  | tests spells =>
    cases spells with
    | block _ _ spells _ =>
      have innerOrdered := ordered.of_append_left.of_append_right
      refine List.forall_mem_cons.mpr ⟨self, fun span member => ?_⟩
      have run := spells.runs innerOrdered (fun _ _ => SpellsCase.runs) span member
      exact (run.append_left _).append_right _

/-- What a binding names and binds. -/
theorem Spells.binding_areAligned {name : String} {nameSpan : Span} {bound : Pattern}
    (spells : Spells modes (.statement (.binding name nameSpan bound)) lexemes)
    (ordered : IsOrdered lexemes) : Span.AreAligned lexemes (nameSpan :: bound.places) := by
  cases spells with
  | @binding _ word name equals stop _ lexemes _ _ _ spells _ =>
    have frontOrdered := ordered.of_append_left
    obtain ⟨nameOrdered, boundOrdered, -⟩ := isOrdered_append_iff.mp frontOrdered
    have isName : name ∈ [word] ++ [name] ++ [equals] := by simp
    have aligned := Span.AreAligned.append frontOrdered (.singleton (nameOrdered.isRunOf isName))
      (Pattern.places_areAligned (spells.standsIn boundOrdered))
    exact aligned.append_right [stop]

/-- A statement lies before what it applies to, and within its node. -/
theorem Spells.isLaidOut_scope {statement : Statement} {bodyLexemes : List Lexeme} {body : Pattern}
    (spells : Spells modes (.statement statement) lexemes)
    (stands : body = .empty ∨ body.span.IsRunOf bodyLexemes)
    (ordered : IsOrdered (lexemes ++ bodyLexemes)) :
    (statement.scope body ((cover lexemes).join body.scopedSpan)).IsLaidOut := by
  have statementOrdered := ordered.of_append_left
  have present := statementOrdered.cover_present (ne_nil_of_roleOf (by decide) spells.begins)
  have bodyAligned := Pattern.places_areAligned stands
  have within {spans : List Span} (aligned : Span.AreAligned lexemes spans) :
      ((cover lexemes).join body.scopedSpan).Frames spans :=
    aligned.frames fun span member => (Span.join_contains_left present).trans
      (statementOrdered.cover_contains (aligned.runs span member))
  cases statement with
  | directive directive =>
    cases spells with
    | directive spells =>
      have aligned : Span.AreAligned lexemes [directive.span] :=
        .singleton (spells.runs statementOrdered _ directive.span_mem_spans)
      exact ⟨within aligned, spells.isLaidOut statementOrdered,
        (aligned.append ordered bodyAligned).apart⟩
  | binding name nameSpan bound =>
    have aligned := spells.binding_areAligned statementOrdered
    exact ⟨within aligned, (aligned.append ordered bodyAligned).apart⟩

theorem Spells.runs_scope {statement : Statement} (spells : Spells modes (.statement statement) lexemes)
    (ordered : IsOrdered lexemes) (body : Pattern) (span : Span) :
    ∀ inner ∈ (statement.scope body span).innerSpans, inner.IsRunOf lexemes := by
  cases statement with
  | directive directive =>
    cases spells with
    | directive spells => exact spells.runs ordered
  | binding name nameSpan bound =>
    have aligned := spells.binding_areAligned ordered
    exact List.forall_mem_singleton.mpr (aligned.runs nameSpan List.mem_cons_self)

/-! ## Layout of phrases -/

/-- The spans inside of what is spelled are runs. -/
theorem Spells.runs {phrase : Phrase} (spells : Spells modes phrase lexemes)
    (ordered : IsOrdered lexemes) :
    phrase.Satisfies fun pattern => ∀ span ∈ pattern.innerSpans, span.IsRunOf lexemes := by
  induction spells with
  | bare _ runs | once _ runs => exact runs ordered
  | stated spells _ _ _ =>
    intro span member
    exact (spells.runs_scope ordered.of_append_left _ _ span member).append_right _
  | directive | binding | noAlternative | nextAlternative | noOperand | nextOperand | noTerm
  | nextTerm => trivial
  | nothing | repeated | lookaround | group => exact List.forall_mem_nil _
  | @alternatives _ _ _ more _ _ _ _ _ runs _ | @intersected _ _ _ more _ _ _ _ _ runs _ =>
    have firstOrdered := ordered.of_append_left.of_append_right
    cases more with
    | nil => exact fun span member => ((runs firstOrdered span member).append_left _).append_right _
    | cons second more => exact List.forall_mem_nil _
  | @terms _ _ more _ _ _ _ runs _ =>
    have firstOrdered := ordered.of_append_left
    cases more with
    | nil => exact fun span member => (runs firstOrdered span member).append_right _
    | cons second more =>
      rw [Phrase.Satisfies, Pattern.sequenceOf_cons]
      exact List.forall_mem_nil _
  | @negated _ bangs _ _ _ _ runs =>
    obtain ⟨bangsOrdered, operandOrdered, -⟩ := isOrdered_append_iff.mp ordered
    cases bangs with
    | nil => exact runs operandOrdered
    | cons bang bangs =>
      have run := foldl_bangs_isRunOf bangsOrdered (List.cons_ne_nil _ _)
      rw [Phrase.Satisfies, List.length_cons, negate_succ]
      exact List.forall_mem_singleton.mpr (run.append_right _)
  | atom spells =>
    cases spells with
    | charClass spells => exact (spells.areAligned ordered).runs
    | _ => exact List.forall_mem_nil _

theorem Pattern.isLaidOut_negate {notSpan : Span} (present : notSpan.isAbsent = false) (count : Nat)
    (body : Pattern) : (negate notSpan (count + 1) body).IsLaidOut := by
  rw [negate_succ]
  exact ⟨Span.frames_singleton (Span.join_contains_right present),
    frames_places Span.join_contains_left⟩

/-- What is spelled is laid out in order. -/
theorem Spells.isLaidOut {phrase : Phrase} (spells : Spells modes phrase lexemes)
    (ordered : IsOrdered lexemes) : phrase.Satisfies Pattern.IsLaidOut := by
  induction spells with
  | bare _ laidOut | once _ laidOut => exact laidOut ordered
  | stated spells spellsBody =>
    exact spells.isLaidOut_scope (spellsBody.standsIn ordered.of_append_right) ordered
  | directive | binding | nothing | noAlternative | nextAlternative | noOperand | nextOperand
  | noTerm | nextTerm => trivial
  | @alternatives _ bar first more firstLexemes moreLexemes _ spells spellsMore laidOut _ =>
    obtain ⟨frontOrdered, moreOrdered, -⟩ := isOrdered_append_iff.mp ordered
    have firstOrdered := frontOrdered.of_append_right
    cases more with
    | nil => exact laidOut firstOrdered
    | cons second more =>
      have run := (spells.standsIn firstOrdered).append_left bar.toList
      have aligned := spellsMore.standsIn moreOrdered
      have nonempty := ne_nil_of_roleOf_mem (by decide) spells.begins
      obtain ⟨atStart, atMembers⟩ := @Span.foldl_join_contains _ Pattern.span (second :: more) _
        (frontOrdered.firstSpan_present (by simp [nonempty]))
        fun member isMember => (aligned.runs _ (List.mem_map_of_mem isMember)).present
      refine (Span.AreAligned.append ordered (.singleton run) aligned).frames_row
        (List.cons_ne_nil second more) ?_ (atMembers _ (List.getLast_mem _)).2
      exact UInt32.le_trans atStart.1 (frontOrdered.firstSpan_start_le run)
  | @intersected _ ampersand first more firstLexemes moreLexemes _ spells spellsMore laidOut _ =>
    obtain ⟨frontOrdered, moreOrdered, -⟩ := isOrdered_append_iff.mp ordered
    have firstOrdered := frontOrdered.of_append_right
    cases more with
    | nil => exact laidOut firstOrdered
    | cons second more =>
      have run := (spells.standsIn firstOrdered).append_left ampersand.toList
      exact ordered.frames (.append ordered (.singleton run) (spellsMore.standsIn moreOrdered))
  | @terms _ first more firstLexemes moreLexemes spells spellsMore laidOut _ =>
    obtain ⟨firstOrdered, moreOrdered, -⟩ := isOrdered_append_iff.mp ordered
    cases more with
    | nil => exact laidOut firstOrdered
    | cons second more =>
      have run := spells.standsIn firstOrdered
      have aligned := spellsMore.standsIn moreOrdered
      have lastRun := aligned.runs _ (List.mem_map_of_mem (List.getLast_mem (List.cons_ne_nil _ _)))
      rw [Phrase.Satisfies, Pattern.sequenceOf_cons]
      exact (Span.AreAligned.append ordered (.singleton run) aligned).frames_row
        (List.cons_ne_nil second more) (Span.join_contains_left run.present).1
        (Span.join_contains_right lastRun.present).2
  | repeated => exact Pattern.frames_places Span.join_contains_left
  | @negated _ bangs _ _ _ spells laidOut =>
    obtain ⟨bangsOrdered, operandOrdered, -⟩ := isOrdered_append_iff.mp ordered
    cases bangs with
    | nil => exact laidOut operandOrdered
    | cons bang bangs =>
      have run := foldl_bangs_isRunOf bangsOrdered (List.cons_ne_nil _ _)
      exact Pattern.isLaidOut_negate run.present bangs.length _
  | lookaround => exact Pattern.frames_places Span.join_contains_right
  | @group _ _ opening inner closing _ _ spells =>
    have innerOrdered := ordered.of_append_left.of_append_right
    have aligned := Pattern.places_areAligned (spells.standsIn innerOrdered)
    exact ordered.frames ((aligned.append_left opening).append_right [closing])
  | atom spells =>
    have span_eq := spells.span_eq_cover
    cases spells with
    | charClass spells =>
      rw [Pattern.span] at span_eq
      rw [Phrase.Satisfies, Pattern.IsLaidOut, span_eq]
      exact ordered.frames (spells.areAligned ordered)
    | codePoint => exact ⟨List.forall_mem_nil _, .nil⟩
    | _ => trivial

/-! ## Layout of trees -/

/-- The expression was left out, or every span of the node is a run of the lexemes. -/
def Pattern.IsRunIn (lexemes : List Lexeme) (pattern : Pattern) : Prop :=
  pattern = .empty ∨ ∀ span ∈ pattern.span :: pattern.innerSpans, span.IsRunOf lexemes

theorem Pattern.IsRunIn.mono {lexemes others : List Lexeme} {pattern : Pattern}
    (isRun : pattern.IsRunIn lexemes) (within : ∀ lexeme ∈ lexemes, lexeme ∈ others) :
    pattern.IsRunIn others :=
  isRun.imp_right fun runs span member => (runs span member).mono within

theorem Spells.isRunIn {phrase : Phrase} (spells : Spells modes phrase lexemes)
    (ordered : IsOrdered lexemes) : phrase.Satisfies (Pattern.IsRunIn lexemes) := by
  have stands := spells.standsIn ordered
  have runs := spells.runs ordered
  cases phrase with
  | expression | alternation => exact stands.imp_right fun run => List.forall_mem_cons.mpr ⟨run, runs⟩
  | intersection | sequence | term | negation | operand =>
    exact .inr (List.forall_mem_cons.mpr ⟨stands, runs⟩)
  | statement | moreAlternatives | moreOperands | moreTerms => trivial

theorem Spells.isRunIn_negate {bangs : List Lexeme} {body : Pattern}
    (spells : Spells modes (.operand body) lexemes) (ordered : IsOrdered (bangs ++ lexemes))
    (nonempty : bangs ≠ []) (count : Nat) :
    (negate (bangs.foldl (fun span bang => span.join bang.span) .absent) (count + 1) body).IsRunIn
      (bangs ++ lexemes) := by
  obtain ⟨bangsOrdered, operandOrdered, -⟩ := isOrdered_append_iff.mp ordered
  have bangsRun := (foldl_bangs_isRunOf bangsOrdered nonempty).append_right lexemes
  have operandRun := (spells.standsIn operandOrdered).append_left bangs
  have innerRun : ∀ span ∈ (negate (bangs.foldl (fun span bang => span.join bang.span) .absent)
      (count + 1) body).innerSpans, span.IsRunOf (bangs ++ lexemes) := by
    rw [negate_succ]
    exact List.forall_mem_singleton.mpr bangsRun
  refine .inr (List.forall_mem_cons.mpr ⟨?_, innerRun⟩)
  rw [negate_span]
  exact operandRun.join bangsRun

/-- The spans of all nodes of what is spelled are runs. -/
theorem Spells.isRunIn_nodes {phrase : Phrase} (spells : Spells modes phrase lexemes)
    (ordered : IsOrdered lexemes) : ∀ node ∈ phrase.nodes modes, node.pattern.IsRunIn lexemes := by
  refine spells.forall_mem_nodes ?_ ?_ (List.infix_refl lexemes)
  · intro modes phrase part inside spells
    exact (spells.isRunIn (ordered.of_infix inside)).mono fun _ isRun => isRun.mono inside.subset
  · intro modes bangs body part inside spells count fewer
    have nonempty := List.ne_nil_of_length_pos (Nat.zero_lt_of_lt fewer)
    exact (spells.isRunIn_negate (ordered.of_infix inside) nonempty count).mono inside.subset

/-- All nodes of what is spelled are laid out in order. -/
theorem Spells.isLaidOut_nodes {phrase : Phrase} (spells : Spells modes phrase lexemes)
    (ordered : IsOrdered lexemes) : ∀ node ∈ phrase.nodes modes, node.pattern.IsLaidOut := by
  refine spells.forall_mem_nodes ?_ ?_ (List.infix_refl lexemes)
  · intro modes phrase part inside spells
    exact spells.isLaidOut (ordered.of_infix inside)
  · intro modes bangs body part inside spells count fewer
    have nonempty := List.ne_nil_of_length_pos (Nat.zero_lt_of_lt fewer)
    have bangsOrdered := (isOrdered_append_iff.mp (ordered.of_infix inside)).1
    exact Pattern.isLaidOut_negate (foldl_bangs_isRunOf bangsOrdered nonempty).present count body

/-- Spans form an ordered layout: in a tree that is read from a source, every span reaches
from the beginning of one token to the end of one, unless it is that of an expression that
was left out, and what a node holds lies within it and in order. -/
theorem isLaidOut_of_parse {source : String} {options : Options} {tree : Pattern}
    (short : Text.utf8Size source.toList < 2 ^ 32) (parsed : parse source options = .ok tree) :
    ∀ node ∈ tree.nodes options.modes,
      node.pattern.IsRunIn (lexemesOf source) ∧ node.pattern.IsLaidOut := by
  have spells := spells_of_parseTokens parsed
  have ordered := isOrdered_lexemesOf short
  intro node member
  exact ⟨spells.isRunIn_nodes ordered node member, spells.isLaidOut_nodes ordered node member⟩

set_option maxRecDepth 8000 in
/-- A binding before two alternatives, with a row of negations and a named set. -/
theorem isLaidOut_of_nested_spans :
    ∃ tree, parse "let a=.;!!a|[w]{2}" {} = .ok tree ∧ ∀ node ∈ tree.nodes Modes.initial,
      node.pattern.IsRunIn (lexemesOf "let a=.;!!a|[w]{2}") ∧ node.pattern.IsLaidOut := by
  have parsed : parse "let a=.;!!a|[w]{2}" {} = .ok (.binding "a" ⟨4, 5⟩ (.dot ⟨6, 7⟩)
      (.alternation [.negation (.negation (.use "a" ⟨10, 11⟩) ⟨8, 10⟩ ⟨8, 11⟩) ⟨8, 10⟩ ⟨8, 11⟩,
        .repetition (.charClass ⟨[.named "w" none false ⟨13, 14⟩], true, ⟨12, 15⟩, by simp⟩)
          ⟨2, some 2⟩ .defaultGreedy ⟨12, 18⟩] ⟨8, 18⟩) ⟨0, 18⟩) := by cbv
  exact ⟨_, parsed, isLaidOut_of_parse (by decide) parsed⟩

end PatternSyntax
