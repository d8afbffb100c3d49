import PatternSyntax.Proofs.Layout
import PatternSyntax.Proofs.Moving

/-!
# Trees at other places

A tree is moved by moving all of its spans. The spans of a tree are those of its nodes,
node by node, and moving the tree moves this list. What the tree is without them stays
as it is.
-/

namespace PatternSyntax

variable {f g h : Span → Span}

/-! ## Moving twice -/

theorem Capture.mapSpans_mapSpans (capture : Capture) :
    (capture.mapSpans f).mapSpans g = capture.mapSpans (g ∘ f) :=
  rfl

theorem TestMatch.mapSpans_mapSpans (expected : TestMatch) :
    (expected.mapSpans f).mapSpans g = expected.mapSpans (g ∘ f) := by
  simp only [mapSpans, List.map_map, Literal.mapSpans, Function.comp_def, Capture.mapSpans_mapSpans]

theorem TestCase.mapSpans_mapSpans (case : TestCase) :
    (case.mapSpans f).mapSpans g = case.mapSpans (g ∘ f) := by
  cases case <;>
    simp only [mapSpans, List.map_map, Literal.mapSpans, Function.comp_def, TestMatch.mapSpans_mapSpans]

theorem Directive.mapSpans_mapSpans (directive : Directive) :
    (directive.mapSpans f).mapSpans g = directive.mapSpans (g ∘ f) := by
  cases directive <;>
    simp only [mapSpans, List.map_map, Function.comp_def, TestCase.mapSpans_mapSpans]

theorem ClassItem.mapSpans_mapSpans (item : ClassItem) :
    (item.mapSpans f).mapSpans g = item.mapSpans (g ∘ f) := by
  cases item <;> rfl

theorem CharClass.mapSpans_mapSpans (members : CharClass) :
    (members.mapSpans f).mapSpans g = members.mapSpans (g ∘ f) := by
  simp only [mapSpans, List.map_map, Function.comp_def, ClassItem.mapSpans_mapSpans]

namespace Pattern

mutual

theorem mapSpans_mapSpans : ∀ pattern : Pattern,
    (pattern.mapSpans f f).mapSpans g h = pattern.mapSpans (g ∘ f) (h ∘ f)
  | .charClass members => by simp only [mapSpans, members.mapSpans_mapSpans]
  | .group _ body _ | .repetition body _ _ _ | .lookaround _ body _ | .negation body _ _ => by
    simp only [mapSpans, mapSpans_mapSpans body, Function.comp]
  | .sequence members _ | .alternation members _ | .intersection members _ => by
    simp only [mapSpans, mapAllSpans_mapAllSpans members, Function.comp]
  | .directed directive body _ => by
    simp only [mapSpans, mapSpans_mapSpans body, directive.mapSpans_mapSpans, Function.comp]
  | .binding _ _ bound body _ => by
    simp only [mapSpans, mapSpans_mapSpans bound, mapSpans_mapSpans body, Function.comp]
  | .literal _ | .boundary _ _ | .use _ _ | .reference _ _ | .numberRange _ _ _ _ | .regex _ _
  | .recursion _ | .dot _ => by
    simp only [mapSpans, Literal.mapSpans, Function.comp]

theorem mapAllSpans_mapAllSpans : ∀ patterns : List Pattern,
    mapAllSpans g h (mapAllSpans f f patterns) = mapAllSpans (g ∘ f) (h ∘ f) patterns
  | [] => rfl
  | member :: members => by
    simp only [mapAllSpans, mapSpans_mapSpans member, mapAllSpans_mapAllSpans members]

end

/-- What the pattern is, without where its parts stand. -/
def shape : Pattern → Pattern :=
  mapSpans (fun _ => .absent) fun _ => .absent

theorem shape_mapSpans (f : Span → Span) (pattern : Pattern) :
    (pattern.mapSpans f f).shape = pattern.shape :=
  mapSpans_mapSpans pattern

end Pattern

/-! ## All spans of a tree -/

theorem TestMatch.spans_mapSpans (f : Span → Span) (expected : TestMatch) :
    (expected.mapSpans f).spans = expected.spans.map f := by
  simp [spans, innerSpans, mapSpans, List.flatMap_map, List.map_flatMap, Literal.mapSpans,
    Capture.spans, Capture.mapSpans]

theorem TestCase.spans_mapSpans (f : Span → Span) (case : TestCase) :
    (case.mapSpans f).spans = case.spans.map f := by
  cases case <;>
    simp [spans, mapSpans, List.flatMap_map, List.map_flatMap, Literal.mapSpans,
      TestMatch.spans_mapSpans]

theorem Directive.spans_mapSpans (f : Span → Span) (directive : Directive) :
    (directive.mapSpans f).spans = directive.spans.map f := by
  cases directive <;>
    simp [spans, mapSpans, List.flatMap_map, List.map_flatMap, TestCase.spans_mapSpans]

theorem CharClass.innerSpans_mapSpans (f : Span → Span) (members : CharClass) :
    (members.mapSpans f).innerSpans = members.innerSpans.map f := by
  have span_eq (item : ClassItem) : (item.mapSpans f).span? = item.span?.map f := by
    cases item <;> rfl
  simp only [innerSpans, mapSpans, List.filterMap_map, List.map_filterMap, Function.comp_def, span_eq]

/-- The same part of a tree at another place. -/
def Node.mapSpans (f : Span → Span) (node : Node) : Node :=
  { node with pattern := node.pattern.mapSpans f f }

namespace Pattern

variable {modes : Modes}

theorem innerSpans_mapSpans (f : Span → Span) (pattern : Pattern) :
    (pattern.mapSpans f f).innerSpans = pattern.innerSpans.map f := by
  cases pattern <;>
    simp [mapSpans, innerSpans, CharClass.innerSpans_mapSpans, Directive.spans_mapSpans]

theorem children_mapSpans (f : Span → Span) (pattern : Pattern) :
    (pattern.mapSpans f f).children modes = (pattern.children modes).map (Node.mapSpans f) := by
  cases pattern with
  | directed directive => cases directive <;> simp [mapSpans, children, Node.mapSpans,
      Directive.mapSpans, Statement.modes]
  | _ => simp [mapSpans, children, Node.mapSpans, mapAllSpans_eq_map]

theorem parts_mapSpans (f : Span → Span) (pattern : Pattern) (modes : Modes) :
    (pattern.mapSpans f f).parts modes = (pattern.parts modes).map (Node.mapSpans f) := by
  rw [parts_eq_flatMap, parts_eq_flatMap, children_mapSpans, List.flatMap_map, List.map_flatMap]
  refine List.flatMap_congr fun child isChild => ?_
  rw [List.map_cons, ← parts_mapSpans f child.pattern child.modes]
  rfl
termination_by sizeOf pattern
decreasing_by exact sizeOf_lt_of_mem_children isChild

/-- All spans of a pattern, node by node. -/
def allSpans (modes : Modes) (pattern : Pattern) : List Span :=
  (pattern.nodes modes).flatMap fun node => node.pattern.span :: node.pattern.innerSpans

theorem allSpans_mapSpans (f : Span → Span) (pattern : Pattern) :
    (pattern.mapSpans f f).allSpans modes = (pattern.allSpans modes).map f := by
  have nodes_eq : (pattern.mapSpans f f).nodes modes = (pattern.nodes modes).map (Node.mapSpans f) :=
    congrArg (_ :: ·) (parts_mapSpans f pattern modes)
  rw [allSpans, allSpans, nodes_eq, List.flatMap_map, List.map_flatMap]
  refine List.flatMap_congr fun node _ => ?_
  rw [List.map_cons, ← mapSpans_span f, ← innerSpans_mapSpans]
  rfl

end Pattern

end PatternSyntax
