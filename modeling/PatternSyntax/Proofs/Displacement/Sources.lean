import PatternSyntax.Proofs.Diagnostics.Expressions
import PatternSyntax.Proofs.Displacement.Expressions
import PatternSyntax.Proofs.Displacement.Offsets
import PatternSyntax.Proofs.Displacement.Trees
import PatternSyntax.Proofs.Printing.Tokens

/-!
# Sources that differ in layout

Blanks and comments between the tokens do not change what is read. Two sources with the
same tokens are read as the same tree or fail with the same faults, and all spans name
the same tokens in both.
-/

namespace PatternSyntax

open Grammar Text

variable {f : Span → Span}

theorem readAll_mapSpans (respects : RespectsJoin (fun _ => True) f) (options : Options)
    (cursor : Cursor) : readAll options (cursor.mapSpans f) =
      ((readAll options cursor).map (Pattern.mapSpans f f)).mapError (Diagnostic.mapSpan f) := by
  rw [readAll, readAll, moves_expression respects options.maxDepth options.modes cursor]
  cases expression options.maxDepth options.modes cursor with
  | fail diagnostic => rfl
  | decline =>
    simp only [Outcome.mapSpans, cursor.span_mapSpans]
    rfl
  | accept pattern after =>
    simp only [Outcome.mapSpans, after.span_mapSpans]
    rcases after with ⟨_ | ⟨lexeme, rest⟩, previous, finish⟩ <;> rfl

/-! ## Lexemes of the same kinds and texts -/

section Pairs

variable {pairs : List (Lexeme × Lexeme)}

/-- The function takes what reaches from one of the first lexemes to another to what
reaches between the second lexemes of these pairs. -/
structure Displaces (f : Span → Span) (pairs : List (Lexeme × Lexeme)) : Prop where
  respects : RespectsJoin (fun _ => True) f
  runs : ∀ opening ∈ pairs, ∀ closing ∈ pairs,
    f ⟨opening.1.span.start, closing.1.span.stop⟩ = ⟨opening.2.span.start, closing.2.span.stop⟩

theorem Displaces.map_eq (displaces : Displaces f pairs)
    (alike : ∀ pair ∈ pairs, pair.1.kind = pair.2.kind ∧ pair.1.text = pair.2.text) :
    (pairs.map Prod.fst).map (·.mapSpan f) = pairs.map Prod.snd := by
  rw [List.map_map]
  refine List.map_congr_left fun pair member => ?_
  obtain ⟨kind_eq, text_eq⟩ := alike pair member
  have span_eq : f pair.1.span = pair.2.span := displaces.runs pair member pair member
  rcases pair with ⟨one, other⟩
  rw [Function.comp, Lexeme.mapSpan, kind_eq, text_eq, span_eq]

/-- The span reaches from one of the lexemes to another, where both are counted. -/
def Span.Reaches (lexemes : List Lexeme) (first last : Nat) (span : Span) : Prop :=
  ∃ opening closing, lexemes[first]? = some opening ∧ lexemes[last]? = some closing ∧
    span = ⟨opening.span.start, closing.span.stop⟩

/-- A run is taken to the run of the same lexemes. -/
theorem Displaces.reaches (displaces : Displaces f pairs) (ordered : IsOrdered (pairs.map Prod.fst))
    {span : Span} (run : span.IsRunOf (pairs.map Prod.fst)) :
    ∃ first last, first ≤ last ∧ span.Reaches (pairs.map Prod.fst) first last ∧
      (f span).Reaches (pairs.map Prod.snd) first last := by
  obtain ⟨⟨_, isFirst, start_eq⟩, ⟨_, isLast, stop_eq⟩, nonempty⟩ := run
  obtain ⟨opening, isOpening, rfl⟩ := List.mem_map.mp isFirst
  obtain ⟨closing, isClosing, rfl⟩ := List.mem_map.mp isLast
  obtain ⟨first, isInside, first_eq⟩ := List.getElem_of_mem isOpening
  obtain ⟨last, isInsideToo, last_eq⟩ := List.getElem_of_mem isClosing
  have span_eq : span = ⟨opening.1.span.start, closing.1.span.stop⟩ := by
    rw [← start_eq, ← stop_eq]
  refine ⟨first, last, Nat.le_of_not_lt fun later => ?_,
    ⟨opening.1, closing.1, by simp [isInside, first_eq], by simp [isInsideToo, last_eq], span_eq⟩,
    ⟨opening.2, closing.2, by simp [isInside, first_eq], by simp [isInsideToo, last_eq], ?_⟩⟩
  · have apart := List.pairwise_iff_getElem.mp (List.pairwise_map.mp ordered.apart) last first
      isInsideToo isInside later
    rw [first_eq, last_eq, ← start_eq, ← stop_eq] at apart
    exact UInt32.not_lt.mpr apart nonempty
  · rw [span_eq]
    exact displaces.runs opening isOpening closing isClosing

end Pairs

/-! ## Tokens of two sources -/

/-- Position by position, the tokens of both sources are of the same kind and have the
same text. -/
def SameTokens (source other : String) : Prop :=
  (lexemesOf source).map Lexeme.word = (lexemesOf other).map Lexeme.word

/-- The lexemes of both sources, position by position. -/
structure Aligned (source other : String) (pairs : List (Lexeme × Lexeme)) : Prop where
  firsts : pairs.map Prod.fst = lexemesOf source
  seconds : pairs.map Prod.snd = lexemesOf other
  alike : ∀ pair ∈ pairs, pair.1.word = pair.2.word

section Aligned

variable {source other : String} {pairs : List (Lexeme × Lexeme)}

theorem SameTokens.exists_aligned (same : SameTokens source other) :
    ∃ pairs, Aligned source other pairs := by
  have words : List.Forall₂ (fun one another => Lexeme.word one = Lexeme.word another)
      (lexemesOf source) (lexemesOf other) := by
    rw [← List.forall₂_map_right_iff (R := fun one word => Lexeme.word one = word),
      ← List.forall₂_map_left_iff, List.forall₂_eq_eq_eq]
    exact same
  obtain ⟨length_eq, alike⟩ := List.forall₂_iff_zip.mp words
  exact ⟨(lexemesOf source).zip (lexemesOf other), List.map_fst_zip (Nat.le_of_eq length_eq),
    List.map_snd_zip (Nat.le_of_eq length_eq.symm), fun pair member => alike member⟩

theorem Aligned.symm (aligned : Aligned source other pairs) :
    Aligned other source (pairs.map Prod.swap) := by
  refine ⟨?_, ?_, List.forall_mem_map.mpr fun pair member => (aligned.alike pair member).symm⟩
  · rw [List.map_map]
    exact aligned.seconds
  · rw [List.map_map]
    exact aligned.firsts

variable (short : utf8Size source.toList < 2 ^ 32) (shortOther : utf8Size other.toList < 2 ^ 32)

include short in
theorem Aligned.first_isRunOf (aligned : Aligned source other pairs) :
    ∀ pair ∈ pairs, pair.1.span.IsRunOf (lexemesOf source) := by
  intro pair member
  refine (isOrdered_lexemesOf short).isRunOf ?_
  rw [← aligned.firsts]
  exact List.mem_map_of_mem member

include short in
/-- A token that reaches the end of the source begins before it, and none reaches further. -/
theorem Aligned.first_le_endOf (aligned : Aligned source other pairs) :
    ∀ pair ∈ pairs, pair.1.span.start < (endOf source).start ∧
      pair.1.span.stop ≤ (endOf source).stop := by
  intro pair member
  have run := aligned.first_isRunOf short pair member
  have stops : pair.1.span.stop ≤ (endOf source).stop := by
    rw [UInt32.le_iff_toNat_le, endOf, Span.ofOffsets, toNat_ofNat_of_lt short]
    exact (run.fitsIn short).2
  exact ⟨UInt32.lt_of_lt_of_le run.nonempty stops, stops⟩

include short shortOther in
/-- Tokens of one source are in the same order as those of the other. -/
theorem Aligned.inOrder (aligned : Aligned source other pairs) :
    ∀ first ∈ pairs, ∀ second ∈ pairs,
      Span.InOrder (first.1.span, first.2.span) (second.1.span, second.2.span) := by
  have apart := (isOrdered_lexemesOf short).apart
  have apartOther := (isOrdered_lexemesOf shortOther).apart
  rw [← aligned.firsts, List.pairwise_map] at apart
  rw [← aligned.seconds, List.pairwise_map] at apartOther
  have positive := aligned.first_isRunOf short
  have positiveOther := List.forall_mem_map.mp (aligned.symm.first_isRunOf shortOther)
  have bothWays : pairs.Pairwise fun first second =>
      Span.InOrder (first.1.span, first.2.span) (second.1.span, second.2.span) ∧
        Span.InOrder (second.1.span, second.2.span) (first.1.span, first.2.span) := by
    refine (apart.and apartOther).imp_of_mem fun {first second} isFirst isSecond ⟨ends, endsOther⟩ => ?_
    refine Span.InOrder.of_apart ends endsOther ?_
    simp only [List.mem_cons, List.not_mem_nil, or_false, forall_eq_or_imp, forall_eq]
    exact ⟨⟨(positive first isFirst).nonempty, (positiveOther first isFirst).nonempty⟩,
      (positive second isSecond).nonempty, (positiveOther second isSecond).nonempty⟩
  have : Std.Symm fun first second : Lexeme × Lexeme =>
      Span.InOrder (first.1.span, first.2.span) (second.1.span, second.2.span) ∧
        Span.InOrder (second.1.span, second.2.span) (first.1.span, first.2.span) :=
    ⟨fun _ _ => And.symm⟩
  intro first isFirst second isSecond
  exact (bothWays.forall_of_forall (fun _ _ => ⟨.refl _, .refl _⟩) isFirst isSecond).1

include short shortOther in
/-- If all that reaches the end of the source reaches the end of the other one, then the
tokens and the ends of both can be taken to each other. -/
theorem Aligned.exists_displaces (aligned : Aligned source other pairs) (nonempty : pairs ≠ [])
    (closes : ∀ pair ∈ pairs, pair.1.span.stop = (endOf source).stop →
      pair.2.span.stop = (endOf other).stop) :
    ∃ f, Displaces f pairs ∧ f (endOf source) = endOf other := by
  have inside := aligned.first_le_endOf short
  have insideOther := List.forall_mem_map.mp (aligned.symm.first_le_endOf shortOther)
  have run := aligned.first_isRunOf short
  have runOther := List.forall_mem_map.mp (aligned.symm.first_isRunOf shortOther)
  obtain ⟨somePair, isSome⟩ := List.exists_mem_of_ne_nil pairs nonempty
  let marks := (endOf source, endOf other) :: pairs.map fun pair => (pair.1.span, pair.2.span)
  have present : ∀ mark ∈ marks, mark.1.isAbsent = false ∧ mark.2.isAbsent = false := by
    refine List.forall_mem_cons.mpr ⟨⟨?_, ?_⟩, List.forall_mem_map.mpr fun pair member =>
      ⟨(run pair member).present, (runOther pair member).present⟩⟩
    · exact Span.present_of_stop_le (run somePair isSome).present (inside somePair isSome).2
    · exact Span.present_of_stop_le (runOther somePair isSome).present (insideOther somePair isSome).2
  have inOrder : ∀ first ∈ marks, ∀ second ∈ marks, Span.InOrder first second := by
    refine List.forall_mem_cons.mpr ⟨List.forall_mem_cons.mpr ⟨.refl _, List.forall_mem_map.mpr ?_⟩,
      List.forall_mem_map.mpr fun first isFirst => List.forall_mem_cons.mpr
        ⟨?_, List.forall_mem_map.mpr (aligned.inOrder short shortOther first isFirst)⟩⟩
    · refine fun pair member => ⟨fun later => ?_, fun later => ?_⟩
      · exact absurd (inside pair member).1 (UInt32.not_lt.mpr later)
      · have atEnd := UInt32.le_antisymm (inside pair member).2 later
        exact UInt32.le_of_eq (closes pair member atEnd).symm
    · exact ⟨fun _ => UInt32.le_of_lt (insideOther first isFirst).1,
        fun _ => (insideOther first isFirst).2⟩
  obtain ⟨f, respects, spans_eq⟩ := Span.exists_respectsJoin present inOrder
  refine ⟨f, ⟨respects, fun opening isOpening closing isClosing => ?_⟩, ?_⟩
  · exact spans_eq _ (List.mem_cons_of_mem _ (List.mem_map_of_mem isOpening))
      _ (List.mem_cons_of_mem _ (List.mem_map_of_mem isClosing))
  · exact spans_eq _ List.mem_cons_self _ List.mem_cons_self

end Aligned

/-! ## Reading two sources -/

theorem Diagnostic.ofToken?_mapSpan (f : Span → Span) (token : Token) :
    ofToken? ⟨token.kind, f token.span⟩ = (ofToken? token).map (mapSpan f) := by
  unfold ofToken?
  cases token.kind <;> rfl

section Reading

variable {source other : String} {pairs : List (Lexeme × Lexeme)} {options : Options}

/-- Sources whose lexemes are taken to each other are read in the same way. -/
theorem Aligned.parse_eq (aligned : Aligned source other pairs) (displaces : Displaces f pairs)
    (ends : f (endOf source) = endOf other) :
    parse other options = ((parse source options).map (Pattern.mapSpans f f)).mapError
      (List.map (Diagnostic.mapSpan f)) := by
  have lexemes_eq : lexemesOf other = (lexemesOf source).map (·.mapSpan f) := by
    rw [← aligned.firsts, ← aligned.seconds]
    exact (displaces.map_eq fun pair member => Prod.mk.inj (aligned.alike pair member)).symm
  have cursor_eq : Cursor.ofTokens other (tokenize other) =
      (Cursor.ofTokens source (tokenize source)).mapSpans f := by
    have rest_eq : (tokenize other).map (fun token => token.lexeme other) =
        ((tokenize source).map fun token => token.lexeme source).map (·.mapSpan f) := lexemes_eq
    rw [Cursor.ofTokens, rest_eq, Cursor.ofTokens, Cursor.mapSpans, displaces.respects.absent]
    exact congrArg _ ends.symm
  have strays_of_lexemes (text : String) : (tokenize text).filterMap Diagnostic.ofToken? =
      (lexemesOf text).filterMap fun lexeme => Diagnostic.ofToken? ⟨lexeme.kind, lexeme.span⟩ := by
    rw [lexemesOf, List.filterMap_map]
    rfl
  have strays_eq : (tokenize other).filterMap Diagnostic.ofToken? =
      ((tokenize source).filterMap Diagnostic.ofToken?).map (Diagnostic.mapSpan f) := by
    rw [strays_of_lexemes, strays_of_lexemes, lexemes_eq, List.filterMap_map, List.map_filterMap]
    refine List.filterMap_congr fun lexeme _ => ?_
    exact Diagnostic.ofToken?_mapSpan f ⟨lexeme.kind, lexeme.span⟩
  rw [parse, parse, parseTokens, parseTokens, strays_eq, cursor_eq,
    readAll_mapSpans displaces.respects]
  cases (tokenize source).filterMap Diagnostic.ofToken? with
  | nil => cases readAll options (.ofTokens source (tokenize source)) <;> rfl
  | cons stray strays => rfl

/-- Where there are no tokens, an expression was left out, if one is allowed at all. -/
theorem parse_of_no_tokens (nothing : lexemesOf source = []) : parse source options =
    if options.maxDepth = 0 then .error [.ofFault .tooDeep (endOf source)] else .ok .empty := by
  have tokens_eq : tokenize source = [] := List.map_eq_nil_iff.mp nothing
  split
  · rename_i none
    rw [parse, tokens_eq, parseTokens, readAll, none, expression]
    rfl
  · rename_i some
    have read : readAll options (.ofTokens source []) = .ok .empty :=
      (readAll_eq_ok_iff (List.forall_mem_nil _)).mpr
        ⟨.bare .nothing, rfl, Nat.pos_of_ne_zero some⟩
    rw [parse, tokens_eq, parseTokens, List.filterMap_nil, read]
    rfl

/-! ## Agreement -/

/-- Two spans of two sources that stand at the same tokens: both are nowhere, both are at the
end, or both reach from one token to the same or a later one. -/
inductive NamesSame (source other : String) : Span → Span → Prop where
  | nowhere : NamesSame source other .absent .absent
  | finish : NamesSame source other (endOf source) (endOf other)
  | run {first last : Nat} {span moved : Span} (inOrder : first ≤ last)
    (reaches : span.Reaches (lexemesOf source) first last)
    (moves : moved.Reaches (lexemesOf other) first last) : NamesSame source other span moved

/-- Both sources are read as trees that differ in their spans alone, or both fail for the
same reasons. All spans stand at the same tokens. -/
inductive Agrees (source other : String) (modes : Modes) :
    Except (List Diagnostic) Pattern → Except (List Diagnostic) Pattern → Prop where
  | trees {tree moved : Pattern} (same : tree.shape = moved.shape)
    (places : List.Forall₂ (NamesSame source other) (tree.allSpans modes) (moved.allSpans modes)) :
    Agrees source other modes (.ok tree) (.ok moved)
  | faults {diagnostics moved : List Diagnostic}
    (same : List.Forall₂ (fun diagnostic another => diagnostic.fault = another.fault ∧
      diagnostic.expectation = another.expectation ∧
        NamesSame source other diagnostic.span another.span) diagnostics moved) :
    Agrees source other modes (.error diagnostics) (.error moved)

theorem NamesSame.symm {span moved : Span} (names : NamesSame source other span moved) :
    NamesSame other source moved span := by
  cases names with
  | nowhere => exact .nowhere
  | finish => exact .finish
  | run inOrder reaches moves => exact .run inOrder moves reaches

theorem Agrees.symm {modes : Modes} {result moved : Except (List Diagnostic) Pattern}
    (agrees : Agrees source other modes result moved) : Agrees other source modes moved result := by
  cases agrees with
  | trees same places => exact .trees same.symm (places.flip.imp fun _ _ => NamesSame.symm)
  | faults same =>
    exact .faults (same.flip.imp fun _ _ ⟨fault_eq, expectation_eq, names⟩ =>
      ⟨fault_eq.symm, expectation_eq.symm, names.symm⟩)

variable (short : utf8Size source.toList < 2 ^ 32) (shortOther : utf8Size other.toList < 2 ^ 32)

include short in
theorem Aligned.agrees (aligned : Aligned source other pairs) (displaces : Displaces f pairs)
    (ends : f (endOf source) = endOf other) (options : Options) :
    Agrees source other options.modes (parse source options) (parse other options) := by
  have names {span : Span} (run : span.IsRunOf (lexemesOf source)) :
      NamesSame source other span (f span) := by
    have ordered := isOrdered_lexemesOf short
    rw [← aligned.firsts] at run ordered
    obtain ⟨first, last, inOrder, reaches, moves⟩ := displaces.reaches ordered run
    rw [aligned.firsts] at reaches
    rw [aligned.seconds] at moves
    exact .run inOrder reaches moves
  rw [aligned.parse_eq displaces ends]
  cases result : parse source options with
  | ok tree =>
    refine .trees (tree.shape_mapSpans f).symm ?_
    rw [Pattern.allSpans_mapSpans, List.forall₂_map_right_iff, List.forall₂_same]
    intro span member
    obtain ⟨node, isNode, isSpan⟩ := List.mem_flatMap.mp member
    rcases (isLaidOut_of_parse short result node isNode).1 with isEmpty | runs
    · rw [isEmpty] at isSpan
      obtain rfl := List.mem_singleton.mp isSpan
      exact displaces.respects.absent ▸ .nowhere
    · exact names (runs span isSpan)
  | error diagnostics =>
    refine .faults ?_
    rw [List.forall₂_map_right_iff, List.forall₂_same]
    intro diagnostic member
    refine ⟨rfl, rfl, ?_⟩
    rcases ((blames_of_parse short result).2.1 diagnostic member).2 with atEnd | run
    · rw [Diagnostic.mapSpan, atEnd, ends]
      exact .finish
    · exact names run

include short shortOther in
/-- Blanks and comments between tokens never change what is read. -/
theorem parse_agrees (same : SameTokens source other) (options : Options) :
    Agrees source other options.modes (parse source options) (parse other options) := by
  obtain ⟨pairs, aligned⟩ := same.exists_aligned
  by_cases nothing : pairs = []
  · have none : lexemesOf source = [] := by rw [← aligned.firsts, nothing, List.map_nil]
    have noneOther : lexemesOf other = [] := by rw [← aligned.seconds, nothing, List.map_nil]
    rw [parse_of_no_tokens none, parse_of_no_tokens noneOther]
    split
    · exact .faults (.cons ⟨rfl, rfl, .finish⟩ .nil)
    · exact .trees rfl (.cons .nowhere .nil)
  -- The ends cannot be taken along where a token ends with the first source alone.
  -- The other source is then the one to start from.
  by_cases closed : ∃ pair ∈ pairs, pair.1.span.stop = (endOf source).stop
  · obtain ⟨final, isFinal, final_eq⟩ := closed
    have closes : ∀ pair ∈ pairs, pair.2.span.stop = (endOf other).stop →
        pair.1.span.stop = (endOf source).stop := by
      intro pair member stop_eq
      have reaches := (aligned.symm.inOrder shortOther short _ (List.mem_map_of_mem isFinal) _
        (List.mem_map_of_mem member)).stops
      refine UInt32.le_antisymm (aligned.first_le_endOf short pair member).2 ?_
      rw [← final_eq]
      refine reaches ?_
      change final.2.span.stop ≤ pair.2.span.stop
      rw [stop_eq]
      exact (aligned.symm.first_le_endOf shortOther _ (List.mem_map_of_mem isFinal)).2
    obtain ⟨f, displaces, ends⟩ := aligned.symm.exists_displaces shortOther short
      (by simpa using nothing) (List.forall_mem_map.mpr closes)
    exact (aligned.symm.agrees shortOther displaces ends options).symm
  · have closes : ∀ pair ∈ pairs, pair.1.span.stop = (endOf source).stop →
        pair.2.span.stop = (endOf other).stop :=
      fun pair member stop_eq => absurd ⟨pair, member, stop_eq⟩ closed
    obtain ⟨f, displaces, ends⟩ := aligned.exists_displaces short shortOther nothing closes
    exact aligned.agrees short displaces ends options

end Reading

set_option maxRecDepth 8000 in
/-- A group that is not closed is missed at the end, whether or not its last token is there. -/
theorem parse_agrees_of_comment :
    SameTokens "(a|b" "( a # )\n|b " ∧
      parse "( a # )\n|b " {} = .error [.missing "`)` or an expression" ⟨11, 11⟩] ∧
      Agrees "(a|b" "( a # )\n|b " .initial (parse "(a|b" {}) (parse "( a # )\n|b " {}) := by
  have same : SameTokens "(a|b" "( a # )\n|b " := by
    rw [SameTokens]
    cbv
  exact ⟨same, by cbv, parse_agrees (by decide) (by decide) same {}⟩

end PatternSyntax
