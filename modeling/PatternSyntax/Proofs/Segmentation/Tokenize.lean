import PatternSyntax.Proofs.Segmentation.Lexemes

/-!
# Tokenization as a segmentation

What the tokens of a source have to be, said of their spans and of the source alone.
Exactly one list of tokens is that, and it is the one that is drawn.
-/

namespace PatternSyntax

open Recognition Text

/-! ## Segmentations -/

/-- The text between two byte offsets of the source has the property. -/
def TextBetween (source : String) (start stop : Nat) (holds : List Char → Prop) : Prop :=
  ∃ text, slice? source.toList start stop = some text ∧ holds text

/-- The token's span cuts a text out of the source, between characters, which stands as a
token of the kind where it is. -/
def IsPlaced (source : String) (token : Token) : Prop :=
  ∃ before text more, source.toList = before ++ text ++ more ∧
    token.span.start.toNat = utf8Size before ∧ token.span.stop.toNat = utf8Size (before ++ text) ∧
    text ≠ [] ∧ StandsAsToken token.kind text more

/-- Where the tokens end, when what is before them ends at the offset. -/
def endFrom (offset : Nat) : List Token → Nat
  | [] => offset
  | token :: tokens => endFrom token.span.stop.toNat tokens

/-- From the offset on the source is made of the tokens, in this order, and of trivia
before, between and after them. -/
structure IsSegmentation (source : String) (offset : Nat) (tokens : List Token) : Prop where
  /-- Each token stands in the source. -/
  placed : ∀ token ∈ tokens, IsPlaced source token
  /-- No token begins before an earlier one ends. -/
  ordered : tokens.Pairwise fun token later => token.span.stop ≤ later.span.start
  /-- Between tokens, and before the first one, are trivia. -/
  gaps : ∀ before token after, tokens = before ++ token :: after →
    TextBetween source (endFrom offset before) token.span.start.toNat IsTrivia
  /-- Behind the last token are trivia up to the end. -/
  rest : TextBetween source (endFrom offset tokens) (utf8Size source.toList) IsLastTrivia

/-! ## Cuts -/

/-- A text is cut at a byte offset in one way only. -/
theorem append_inj_of_utf8Size {before after otherBefore otherAfter : List Char}
    (same : before ++ after = otherBefore ++ otherAfter)
    (size : utf8Size before = utf8Size otherBefore) :
    before = otherBefore ∧ after = otherAfter := by
  have cut : splitAtByte? (utf8Size otherBefore) (before ++ after) = some (before, after) :=
    splitAtByte?_eq_some_iff.mpr ⟨rfl, size⟩
  have otherCut : splitAtByte? (utf8Size otherBefore) (before ++ after) =
      some (otherBefore, otherAfter) :=
    splitAtByte?_eq_some_iff.mpr ⟨same, rfl⟩
  simpa [cut] using otherCut

/-- The text between two offsets is what the source goes on with behind the first. -/
theorem textBetween_iff {source : String} {before text : List Char} {stop : Nat}
    {holds : List Char → Prop} (split : source.toList = before ++ text) :
    TextBetween source (utf8Size before) stop holds ↔
      ∃ piece more, text = piece ++ more ∧ stop = utf8Size before + utf8Size piece ∧
        holds piece := by
  constructor
  · rintro ⟨piece, sliced, holdsPiece⟩
    obtain ⟨front, more, whole, size, reaches⟩ := slice?_eq_some_iff.mp sliced
    rw [split, List.append_assoc] at whole
    obtain ⟨rfl, rfl⟩ := append_inj_of_utf8Size whole size.symm
    exact ⟨piece, more, rfl, reaches.symm, holdsPiece⟩
  · rintro ⟨piece, more, rfl, rfl, holdsPiece⟩
    refine ⟨piece, slice?_eq_some_iff.mpr ⟨before, more, ?_, rfl, rfl⟩, holdsPiece⟩
    rw [split, List.append_assoc]

theorem IsPlaced.start_lt_stop {source : String} {token : Token} (placed : IsPlaced source token) :
    token.span.start < token.span.stop := by
  obtain ⟨before, text, more, -, start_eq, stop_eq, nonempty, -⟩ := placed
  obtain ⟨c, text, rfl⟩ := List.exists_cons_of_ne_nil nonempty
  have size_pos := utf8Size_pos_of_cons c text
  rw [utf8Size_append] at stop_eq
  rw [UInt32.lt_iff_toNat_lt]
  omega

/-! ## One token after the other -/

theorem isSegmentation_nil_iff {source : String} {offset : Nat} :
    IsSegmentation source offset [] ↔
      TextBetween source offset (utf8Size source.toList) IsLastTrivia := by
  refine ⟨IsSegmentation.rest, fun rest => ⟨nofun, .nil, ?_, rest⟩⟩
  intro before token after split
  cases before <;> cases split

namespace IsSegmentation

variable {source : String} {offset : Nat} {token : Token} {tokens : List Token}

theorem tail (segmentation : IsSegmentation source offset (token :: tokens)) :
    IsSegmentation source token.span.stop.toNat tokens where
  placed later member := segmentation.placed later (List.mem_cons_of_mem token member)
  ordered := (List.pairwise_cons.mp segmentation.ordered).2
  gaps before later after split :=
    segmentation.gaps (token :: before) later after (congrArg (token :: ·) split)
  rest := segmentation.rest

/-- No token begins before the offset. -/
theorem offset_le (segmentation : IsSegmentation source offset tokens) :
    ∀ later ∈ tokens, offset ≤ later.span.start.toNat := by
  induction tokens generalizing offset with
  | nil => nofun
  | cons token tokens inductionHypothesis =>
    obtain ⟨text, sliced, -⟩ := segmentation.gaps [] token tokens rfl
    obtain ⟨front, more, -, size, reaches⟩ := slice?_eq_some_iff.mp sliced
    have first : offset ≤ token.span.start.toNat := by
      rw [endFrom] at size
      omega
    have token_lt := (segmentation.placed token List.mem_cons_self).start_lt_stop
    rw [UInt32.lt_iff_toNat_lt] at token_lt
    intro later member
    cases member with
    | head => exact first
    | tail _ member =>
      have behind := inductionHypothesis segmentation.tail later member
      omega

/-- A token with trivia before it may be put before a segmentation of what follows. -/
theorem cons (placed : IsPlaced source token)
    (gap : TextBetween source offset token.span.start.toNat IsTrivia)
    (segmentation : IsSegmentation source token.span.stop.toNat tokens) :
    IsSegmentation source offset (token :: tokens) where
  placed := List.forall_mem_cons.mpr ⟨placed, segmentation.placed⟩
  ordered := List.pairwise_cons.mpr
    ⟨fun later member => UInt32.le_iff_toNat_le.mpr (segmentation.offset_le later member),
      segmentation.ordered⟩
  gaps before later after split := by
    cases before with
    | nil =>
      obtain ⟨rfl, rfl⟩ := List.cons_eq_cons.mp split
      exact gap
    | cons first before =>
      obtain ⟨rfl, rfl⟩ := List.cons_eq_cons.mp split
      exact segmentation.gaps before later after rfl
  rest := segmentation.rest

end IsSegmentation

/-! ## Segmentations and scans -/

theorem Token.eq_ofOffsets {token : Token} {start stop : Nat}
    (start_eq : token.span.start.toNat = start) (stop_eq : token.span.stop.toNat = stop) :
    token = ⟨token.kind, .ofOffsets start stop⟩ := by
  subst start_eq stop_eq
  simp only [Span.ofOffsets, UInt32.ofNat_toNat]

theorem Token.lexeme_injective {source : String} {token other : Token}
    (same : token.lexeme source = other.lexeme source) : token = other := by
  obtain ⟨kind, span⟩ := token
  obtain ⟨otherKind, otherSpan⟩ := other
  simp only [Token.lexeme, Lexeme.mk.injEq] at same
  rw [same.1, same.2.2]

/-- The tokens of a segmentation are what is scanned. -/
theorem IsSegmentation.scans {source : String} (short : utf8Size source.toList < 2 ^ 32)
    {before text : List Char} (split : source.toList = before ++ text) {tokens : List Token}
    (segmentation : IsSegmentation source (utf8Size before) tokens) :
    Scans (utf8Size before) text (tokens.map fun token => token.lexeme source) := by
  induction tokens generalizing before text with
  | nil =>
    obtain ⟨piece, more, rfl, reaches, isLast⟩ := (textBetween_iff split).mp segmentation.rest
    rw [split, utf8Size_append, utf8Size_append] at reaches
    have nothing : more = [] := by
      cases more with
      | nil => rfl
      | cons c more =>
        have := utf8Size_pos_of_cons c more
        omega
    rw [nothing, List.append_nil]
    exact .done isLast.triviaLength_eq
  | cons token tokens inductionHypothesis =>
    obtain ⟨trivia, more, rfl, reaches, isTrivia⟩ :=
      (textBetween_iff split).mp (segmentation.gaps [] token tokens rfl)
    obtain ⟨front, piece, rest, whole, start_eq, stop_eq, -, stands⟩ :=
      segmentation.placed token List.mem_cons_self
    obtain ⟨first, tail, rfl, noTrivia, recognized⟩ := stands.recognize_eq
    have start_eq_offset : utf8Size front = utf8Size (before ++ trivia) := by
      rw [← start_eq, reaches, utf8Size_append]
    obtain ⟨rfl, rfl⟩ : front = before ++ trivia ∧ first :: tail ++ rest = more := by
      refine append_inj_of_utf8Size ?_ start_eq_offset
      rw [← List.append_assoc, ← whole, split, List.append_assoc]
    have scansRest := inductionHypothesis whole (stop_eq ▸ segmentation.tail)
    rw [utf8Size_append] at stop_eq
    rw [List.map_cons, Token.eq_ofOffsets start_eq stop_eq, Token.lexeme_eq token.kind whole short]
    simp only [utf8Size_append] at scansRest ⊢
    exact .lexeme (triviaLength_eq_iff.mpr ⟨isTrivia, noTrivia⟩) recognized scansRest

/-- Tokens that are scanned are a segmentation. -/
theorem Scans.isSegmentation {source : String} (short : utf8Size source.toList < 2 ^ 32)
    {before text : List Char} (split : source.toList = before ++ text) {tokens : List Token}
    (scans : Scans (utf8Size before) text (tokens.map fun token => token.lexeme source)) :
    IsSegmentation source (utf8Size before) tokens := by
  induction tokens generalizing before text with
  | nil =>
    cases scans with
    | done skips =>
      refine isSegmentation_nil_iff.mpr ((textBetween_iff split).mpr ⟨text, [], ?_, ?_, ?_⟩)
      · rw [List.append_nil]
      · rw [split, utf8Size_append]
      · exact triviaLength_eq_length_iff.mp skips
  | cons token tokens inductionHypothesis =>
    rw [List.map_cons] at scans
    generalize lexeme_eq : token.lexeme source = lexeme at scans
    cases scans with
    | @lexeme _ trivia tail rest first kind _ skips recognized scans =>
      obtain ⟨isTrivia, noTrivia⟩ := triviaLength_eq_iff.mp skips
      have whole : source.toList = before ++ trivia ++ first :: tail ++ rest := by
        rw [split]
        simp
      have fits := short
      rw [whole, utf8Size_append, utf8Size_append, utf8Size_append] at fits
      obtain ⟨rfl, span_eq⟩ : token.kind = kind ∧ token.span =
          .ofOffsets (utf8Size before + utf8Size trivia)
            (utf8Size before + utf8Size trivia + utf8Size (first :: tail)) := by
        simp only [Token.lexeme, Lexeme.at, Lexeme.mk.injEq] at lexeme_eq
        exact ⟨lexeme_eq.1, lexeme_eq.2.2⟩
      have start_eq : token.span.start.toNat = utf8Size (before ++ trivia) := by
        rw [span_eq, Span.ofOffsets, toNat_ofNat_of_lt (by omega), utf8Size_append]
      have stop_eq : token.span.stop.toNat = utf8Size (before ++ trivia ++ first :: tail) := by
        rw [span_eq, Span.ofOffsets, toNat_ofNat_of_lt (by omega), utf8Size_append,
          utf8Size_append]
      refine .cons ?_ ?_ ?_
      · exact ⟨before ++ trivia, first :: tail, rest, whole, start_eq, stop_eq, List.cons_ne_nil _ _,
          standsAsToken_of_recognize noTrivia recognized⟩
      · refine (textBetween_iff split).mpr ⟨trivia, first :: (tail ++ rest), rfl, ?_, isTrivia⟩
        rw [start_eq, utf8Size_append]
      · rw [stop_eq]
        refine inductionHypothesis whole ?_
        rwa [utf8Size_append, utf8Size_append]

/-- A source is made of the tokens that are drawn from it, and of no other ones. -/
theorem isSegmentation_iff_eq_tokenize {source : String}
    (short : utf8Size source.toList < 2 ^ 32) {tokens : List Token} :
    IsSegmentation source 0 tokens ↔ tokens = tokenize source := by
  constructor
  · intro segmentation
    have scans := @IsSegmentation.scans source short [] source.toList rfl tokens segmentation
    have same := scans.unique (scans_tokenize short)
    exact (List.map_inj_right fun _ _ => Token.lexeme_injective).mp same
  · rintro rfl
    exact @Scans.isSegmentation source short [] source.toList rfl _ (scans_tokenize short)

set_option maxRecDepth 4000 in
/-- A name of two bytes, an operator, a code point, and a quote that is not closed. -/
theorem isSegmentation_of_open_quote :
    utf8Size "é<< # >>\nU +4f'#".toList < 2 ^ 32 ∧
      IsSegmentation "é<< # >>\nU +4f'#" 0
        [⟨.identifier, ⟨0, 2⟩⟩, ⟨.lookBehind, ⟨2, 4⟩⟩, ⟨.codePoint, ⟨10, 15⟩⟩,
          ⟨.unclosedString, ⟨15, 17⟩⟩] :=
  ⟨by decide, (isSegmentation_iff_eq_tokenize (by decide)).mpr (by cbv)⟩

end PatternSyntax
