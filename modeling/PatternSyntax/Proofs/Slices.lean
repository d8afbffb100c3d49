import PatternSyntax.Proofs.Moving

/-!
# Slices of a source

The text of a part of a tree is a source of its own. Its lexemes are those of the
part, moved to the beginning, because no token looks at what stands before it, and
none becomes longer when what stands behind it is cut off. Read with the modes of
the part, it therefore gives the part back.
-/

namespace PatternSyntax

open Recognition Text

/-! ## Parts of a text -/

namespace Scans

variable {position : Nat} {text : List Char}

/-- The lexemes from one of them on are those of the text from its first character on. -/
theorem drop {before after : List Lexeme} {lexeme : Lexeme}
    (scans : Scans position text (before ++ lexeme :: after)) :
    ∃ front rest, text = front ++ rest ∧ Scans (position + utf8Size front) rest (lexeme :: after) ∧
      lexeme.span.start = UInt32.ofNat (position + utf8Size front) := by
  induction before generalizing position text with
  | nil =>
    cases scans with
    | @lexeme _ trivia tail rest c kind _ skips recognized scans =>
      exact ⟨trivia, c :: (tail ++ rest), rfl,
        @lexeme _ [] tail rest c kind _ (trivia_local.1 skips).2 recognized scans, rfl⟩
  | cons _ before inductionHypothesis =>
    cases scans with
    | @lexeme _ trivia tail rest c kind _ skips recognized scans =>
      obtain ⟨front, rest, rfl, scans, start_eq⟩ := inductionHypothesis scans
      refine ⟨trivia ++ c :: (tail ++ front), rest, by simp, ?_, ?_⟩
      all_goals
        rw [utf8Size_append, ← List.cons_append, utf8Size_append, ← Nat.add_assoc, ← Nat.add_assoc]
        assumption

/-- The lexemes up to one of them are those of the text up to its last character. -/
theorem take {inner after : List Lexeme} (scans : Scans position text (inner ++ after))
    (clean : ∀ lexeme ∈ inner, lexeme.kind.isError = false) (nonempty : inner ≠ []) :
    ∃ piece rest, text = piece ++ rest ∧ Scans position piece inner ∧
      (inner.getLast nonempty).span.stop = UInt32.ofNat (position + utf8Size piece) := by
  induction inner generalizing position text with
  | nil => exact absurd rfl nonempty
  | cons _ inner inductionHypothesis =>
    obtain ⟨firstClean, moreClean⟩ := List.forall_mem_cons.mp clean
    cases scans with
    | @lexeme _ trivia tail rest c kind _ skips recognized scans =>
      have recognizes := recognizes_of_recognize firstClean recognized
      cases inner with
      | nil =>
        refine ⟨trivia ++ c :: (tail ++ []), rest, by simp, ?_, ?_⟩
        · exact .lexeme (trivia_local.1 skips).1 (@Recognizes.of_append _ _ [] rest _ recognizes).recognize_eq
            (.done rfl)
        · simp [Lexeme.at, Span.ofOffsets, utf8Size_append, utf8Size_cons, Nat.add_assoc]
      | cons second inner =>
        obtain ⟨piece, rest, rfl, scans, stop_eq⟩ :=
          inductionHypothesis scans moreClean (List.cons_ne_nil _ _)
        refine ⟨trivia ++ c :: (tail ++ piece), rest, by simp, ?_, ?_⟩
        · exact .lexeme (trivia_local.1 skips).1 recognizes.of_append.recognize_eq scans
        · rw [List.getLast_cons (List.cons_ne_nil _ _), stop_eq, utf8Size_append, ← List.cons_append,
            utf8Size_append, ← Nat.add_assoc, ← Nat.add_assoc]

end Scans

/-! ## Moving to the beginning -/

/-- The span as seen from an offset before it. -/
def Span.moveLeft (offset : UInt32) (span : Span) : Span :=
  if span = .absent then .absent else ⟨span.start - offset, span.stop - offset⟩

theorem Span.moveLeft_of_present {offset : UInt32} {span : Span} (present : span.isAbsent = false) :
    span.moveLeft offset = ⟨span.start - offset, span.stop - offset⟩ := by
  refine if_neg ?_
  rintro rfl
  cases present

section Within

variable {outer first second : Span}

theorem Span.LiesIn.toNat_sub (lies : outer.LiesIn first) :
    (first.start - outer.start).toNat = first.start.toNat - outer.start.toNat ∧
      (first.stop - outer.start).toNat = first.stop.toNat - outer.start.toNat := by
  have stops := UInt32.le_of_lt (UInt32.lt_of_le_of_lt lies.starts lies.nonempty)
  exact ⟨UInt32.toNat_sub_of_le _ _ lies.starts, UInt32.toNat_sub_of_le _ _ stops⟩

theorem Span.LiesIn.moveLeft_present (lies : outer.LiesIn first) :
    (first.moveLeft outer.start).isAbsent = false := by
  rw [Span.moveLeft_of_present lies.present]
  apply beq_eq_false_iff_ne.mpr
  intro zero
  have difference := lies.toNat_sub.2
  have starts := UInt32.le_iff_toNat_le.mp lies.starts
  have nonempty := UInt32.lt_iff_toNat_lt.mp lies.nonempty
  have none : (first.stop - outer.start).toNat = 0 := congrArg UInt32.toNat zero
  omega

theorem Span.LiesIn.moveLeft_join (firstLies : outer.LiesIn first) (secondLies : outer.LiesIn second) :
    (first.join second).moveLeft outer.start =
      (first.moveLeft outer.start).join (second.moveLeft outer.start) := by
  have joined : (first.join second).isAbsent = false := by
    rw [Span.join_isAbsent, firstLies.present, Bool.false_and]
  obtain ⟨firstStart, firstStop⟩ := firstLies.toNat_sub
  obtain ⟨secondStart, secondStop⟩ := secondLies.toNat_sub
  have firstMoved := firstLies.moveLeft_present
  have secondMoved := secondLies.moveLeft_present
  rw [Span.moveLeft_of_present firstLies.present] at firstMoved ⊢
  rw [Span.moveLeft_of_present secondLies.present] at secondMoved ⊢
  rw [Span.moveLeft_of_present joined]
  simp only [Span.join, firstLies.present, secondLies.present, firstMoved, secondMoved,
    Bool.false_eq_true, if_false, Span.mk.injEq]
  obtain ⟨firstStarts, firstNonempty, -⟩ := firstLies
  obtain ⟨secondStarts, secondNonempty, -⟩ := secondLies
  simp only [UInt32.le_iff_toNat_le, UInt32.lt_iff_toNat_lt] at *
  simp only [min, max, UInt32.le_iff_toNat_le, firstStart, firstStop, secondStart, secondStop]
  constructor
  all_goals
    repeat' split
    all_goals first | rfl | omega

end Within

/-- Spans within another one can be moved by its beginning. -/
theorem Span.respectsJoin_moveLeft (outer : Span) :
    RespectsJoin (fun span => span = .absent ∨ outer.LiesIn span) (moveLeft outer.start) := by
  refine ⟨isJoinClosed_liesIn outer, rfl, ?_⟩
  rintro first second (rfl | firstLies) secondLies
  · rfl
  · rcases secondLies with rfl | secondLies
    · rw [join_of_isAbsent_right rfl firstLies.present]
      exact (join_of_isAbsent_right rfl firstLies.moveLeft_present).symm
    · exact firstLies.moveLeft_join secondLies

theorem ofNat_add_sub_ofNat (offset value : Nat) :
    UInt32.ofNat (offset + value) - UInt32.ofNat offset = UInt32.ofNat value := by
  rw [UInt32.ofNat_add, UInt32.add_comm, UInt32.add_sub_cancel]

theorem Scans.moveLeft {position offset : Nat} {text : List Char} {lexemes : List Lexeme}
    (scans : Scans (offset + position) text lexemes)
    (short : offset + position + utf8Size text < 2 ^ 32) :
    Scans position text (lexemes.map (·.mapSpan (Span.moveLeft (UInt32.ofNat offset)))) := by
  generalize start : offset + position = whole at scans short
  induction scans generalizing position with
  | done skips => exact .done skips
  | @lexeme whole trivia tail rest c kind lexemes skips recognized _ inductionHypothesis =>
    subst start
    rw [utf8Size_append, ← List.cons_append, utf8Size_append] at short
    have moved := @inductionHypothesis (position + utf8Size trivia + utf8Size (c :: tail))
      (by omega) (by omega)
    have lexeme_eq : (Lexeme.at (offset + position + utf8Size trivia) kind (c :: tail)).mapSpan
        (Span.moveLeft (UInt32.ofNat offset)) = .at (position + utf8Size trivia) kind (c :: tail) := by
      have positive := utf8Size_pos_of_cons c tail
      have present : (Lexeme.at (offset + position + utf8Size trivia) kind (c :: tail)).span.isAbsent =
          false := by
        apply beq_eq_false_iff_ne.mpr
        intro zero
        have none := congrArg UInt32.toNat zero
        simp only [Lexeme.at, Span.ofOffsets] at none
        rw [toNat_ofNat_of_lt (by omega)] at none
        simp only [UInt32.toNat_zero] at none
        omega
      rw [Lexeme.mapSpan, Span.moveLeft_of_present present]
      simp only [Lexeme.at, Span.ofOffsets, Nat.add_assoc, ofNat_add_sub_ofNat]
    rw [List.map_cons, lexeme_eq]
    exact .lexeme skips recognized moved

/-! ## Reading a slice -/

/-- What a run of lexemes covers is a text that falls into the same lexemes. -/
theorem exists_slice {source : String} (short : utf8Size source.toList < 2 ^ 32)
    (clean : IsClean source) {before inner after : List Lexeme}
    (split : lexemesOf source = before ++ inner ++ after) (nonempty : inner ≠ []) :
    ∃ piece, slice? source.toList (cover inner).start.toNat (cover inner).stop.toNat = some piece ∧
      utf8Size piece < 2 ^ 32 ∧
        lexemesOf (String.ofList piece) =
          inner.map (·.mapSpan (Span.moveLeft (cover inner).start)) := by
  have ordered := isOrdered_lexemesOf short
  rw [split] at ordered
  have innerOrdered := ordered.of_append_left.of_append_right
  have innerClean : ∀ lexeme ∈ inner, lexeme.kind.isError = false := by
    intro lexeme member
    exact isClean_iff.mp clean lexeme (by simp [split, member])
  have scans : Scans 0 source.toList (before ++ (inner ++ after)) := by
    rw [← List.append_assoc, ← split]
    exact scans_tokenize short
  obtain ⟨first, more, rfl⟩ := List.exists_cons_of_ne_nil nonempty
  obtain ⟨front, rest, whole, scansRest, start_eq⟩ := scans.drop
  obtain ⟨piece, back, rfl, scansPiece, stop_eq⟩ :=
    @Scans.take _ _ (first :: more) after scansRest innerClean nonempty
  rw [whole, utf8Size_append, utf8Size_append] at short
  have cover_eq := innerOrdered.cover_eq nonempty
  rw [List.head_cons, start_eq, stop_eq, Nat.zero_add] at cover_eq
  rw [cover_eq, toNat_ofNat_of_lt (by omega), toNat_ofNat_of_lt (by omega)]
  refine ⟨piece, slice?_eq_some_iff.mpr ⟨front, back, by rw [whole, List.append_assoc], rfl, rfl⟩,
    by omega, ?_⟩
  have moved := @Scans.moveLeft 0 (utf8Size front) piece _ (by rwa [Nat.zero_add] at scansPiece)
    (by omega)
  have pieceShort : utf8Size (String.ofList piece).toList < 2 ^ 32 := by
    rw [String.toList_ofList]
    omega
  have scansSlice := scans_tokenize pieceShort
  rw [String.toList_ofList] at scansSlice
  exact scansSlice.unique moved

/-- What was left out stays so when everything is moved to the beginning, and nothing
else looks as if it had been left out. -/
theorem Spells.keepsAbsence {modes : Modes} {pattern : Pattern} {lexemes : List Lexeme}
    (spells : Spells modes (.expression pattern) lexemes) (ordered : IsOrdered lexemes) :
    Pattern.KeepsAbsence (Span.moveLeft (cover lexemes).start) modes pattern := by
  intro part isPart text isLiteral
  rcases spells.isPlaced ordered part isPart with ⟨-, isNegation⟩ | isEmpty | placed
  · rw [isLiteral] at isNegation
    cases isNegation
  · rw [isLiteral] at isEmpty
    cases isEmpty
    exact iff_of_true rfl rfl
  · obtain ⟨front, after, rfl, lead, inner, rfl, -, spellsPart, -⟩ := placed
    rw [isLiteral] at spellsPart
    have within := spellsPart.spansSatisfy (Span.isJoinClosed_liesIn (cover (lead ++ inner ++ after)))
      fun lexeme member => .inr (ordered.cover_liesIn lexeme (by simp [member]))
    rcases within.1 with isAbsent | lies
    · rw [show text.span = .absent from isAbsent]
      exact iff_of_true rfl rfl
    · apply iff_of_false
      · intro same
        have present := lies.moveLeft_present
        rw [show (Pattern.literal text).span = text.span from rfl, same] at present
        cases present
      · intro same
        have present := lies.present
        rw [show (Pattern.literal text).span = text.span from rfl, same] at present
        cases present

/-- The text of a part of a tree, read with the modes of the part, gives the part
back, moved to the beginning. Left out are expressions that were left out, negations
within negations, and all trees with two statements in a row before nothing. -/
theorem parse_slice {source : String} {options : Options} {tree : Pattern}
    (short : utf8Size source.toList < 2 ^ 32) (parsed : parse source options = .ok tree)
    (settled : tree.IsSettled options.modes) {node : Node} (isNode : node ∈ tree.nodes options.modes)
    (written : node.pattern ≠ .empty) (outermost : ¬ (node.negated ∧ node.pattern.isNegation)) :
    ∃ piece, slice? source.toList node.pattern.span.start.toNat node.pattern.span.stop.toNat =
        some piece ∧
      parse (String.ofList piece) { options with modes := node.modes } =
        .ok (node.pattern.mapSpans (Span.moveLeft node.pattern.span.start)
          (Span.moveLeft node.pattern.span.start)) := by
  obtain ⟨clean, spells, canonical, fits⟩ := (parse_eq_ok_iff short).mp parsed
  have ordered := isOrdered_lexemesOf short
  obtain ⟨front, after, split, before, inner, rfl, nonempty, spellsNode, span_eq⟩ :=
    ((spells.isPlaced ordered node isNode).resolve_left outermost).resolve_left written
  rw [span_eq (settled.of_mem_nodes isNode)]
  obtain ⟨piece, sliced, pieceShort, lexemes_eq⟩ := exists_slice short clean split nonempty
  refine ⟨piece, sliced, ?_⟩
  rw [split] at ordered
  have innerOrdered := ordered.of_append_left.of_append_right
  have respelled := spellsNode.mapSpans (Span.respectsJoin_moveLeft (cover inner))
    fun lexeme member => .inr (innerOrdered.cover_liesIn lexeme member)
  have nodeCanonical := Pattern.isCanonical_of_mem_nodes canonical node isNode
  have nodeFits := Pattern.nesting_le_of_mem_nodes node isNode
  rw [parse_eq_ok_iff (by rwa [String.toList_ofList]), isClean_iff, lexemes_eq]
  have sameForm := Pattern.sameForm_mapSpans (f := Span.moveLeft (cover inner).start) _ _
    (spellsNode.keepsAbsence innerOrdered)
  refine ⟨?_, respelled, ?_, ?_⟩
  · intro lexeme moved
    obtain ⟨original, member, rfl⟩ := List.mem_map.mp moved
    exact isClean_iff.mp clean original (by simp [split, member])
  · rw [sameForm.isCanonical]
    exact nodeCanonical
  · rw [Pattern.mapSpans_nesting]
    exact Nat.lt_of_le_of_lt nodeFits fits

set_option maxRecDepth 4000 in
theorem parse_slice_of_repetition :
    ∃ piece, slice? "a(.+)".toList 2 4 = some piece ∧
      parse (String.ofList piece) { modes := ⟨true, true⟩ } =
        .ok (.repetition (.dot ⟨0, 1⟩) ⟨1, none⟩ .defaultLazy ⟨0, 2⟩) := by
  have parsed : parse "a(.+)" { modes := ⟨true, true⟩ } =
      .ok (.sequence [.use "a" ⟨0, 1⟩, .group .plain
        (.repetition (.dot ⟨2, 3⟩) ⟨1, none⟩ .defaultLazy ⟨2, 4⟩) ⟨1, 5⟩] ⟨0, 5⟩) := by cbv
  have settled : Pattern.IsSettled ⟨true, true⟩ (.sequence [.use "a" ⟨0, 1⟩, .group .plain
      (.repetition (.dot ⟨2, 3⟩) ⟨1, none⟩ .defaultLazy ⟨2, 4⟩) ⟨1, 5⟩] ⟨0, 5⟩) := by
    unfold Pattern.IsSettled
    decide
  exact @parse_slice _ _ _ (by decide) parsed settled
    ⟨.repetition (.dot ⟨2, 3⟩) ⟨1, none⟩ .defaultLazy ⟨2, 4⟩, ⟨true, true⟩, false⟩
    (by simp [Pattern.nodes, Pattern.parts, Pattern.partsOfAll]) (by rintro ⟨⟩)
    (fun marked => by cases marked.1)

end PatternSyntax
