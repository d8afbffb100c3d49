import PatternSyntax.Proofs.Printing.Phrases

/-!
# The round trip

A tree that was read from a source is printed, and what is printed is read as the
same tree, up to where its parts stand. The printed text falls into the words that
were written, these spell the tree again, and being canonical and the depth of a tree
do not depend on places.
-/

namespace PatternSyntax

open Grammar Recognition Text Piece

/-- Every lexeme of a text without stray text is a token by itself. -/
theorem Scans.isScanned {position : Nat} {text : List Char} {lexemes : List Lexeme}
    (scans : Scans position text lexemes)
    (clean : ∀ lexeme ∈ lexemes, lexeme.kind.isError = false) :
    ∀ lexeme ∈ lexemes, lexeme.IsScanned := by
  intro lexeme isIn
  obtain ⟨first, tail, rest, text_eq, recognized⟩ := scans.recognized lexeme isIn
  have recognizes := recognizes_of_recognize (clean lexeme isIn) recognized
  exact ⟨first, tail, text_eq, @Recognizes.of_append first tail [] rest _ recognizes⟩

theorem isScanned_of_mem_lexemesOf {source : String} (short : utf8Size source.toList < 2 ^ 32)
    (clean : IsClean source) : ∀ lexeme ∈ lexemesOf source, lexeme.IsScanned :=
  (scans_tokenize short).isScanned (isClean_iff.mp clean)

theorem Lexeme.IsRegular.span_ne {lexeme : Lexeme} (regular : lexeme.IsRegular) :
    lexeme.span ≠ .absent := by
  intro isAbsent
  have present := regular.present
  rw [isAbsent] at present
  cases present

/-- The lexemes of words are words of theirs. -/
theorem kind_of_words_eq {pieces : List Piece} {lexemes : List Lexeme}
    (same : lexemes.map Lexeme.word = words pieces) :
    ∀ lexeme ∈ lexemes, ∃ text, .word lexeme.kind text ∈ pieces := by
  have inWords : ∀ word ∈ words pieces, ∃ text, .word word.1 text ∈ pieces := by
    clear same
    induction pieces with
    | nil => nofun
    | cons piece pieces inductionHypothesis =>
      have later : ∀ word ∈ words pieces, ∃ text, .word word.1 text ∈ piece :: pieces := by
        intro word isIn
        obtain ⟨text, member⟩ := inductionHypothesis word isIn
        exact ⟨text, List.mem_cons_of_mem _ member⟩
      cases piece with
      | space => exact later
      | word kind text => exact List.forall_mem_cons.mpr ⟨⟨text, List.mem_cons_self⟩, later⟩
  intro lexeme isIn
  exact inWords lexeme.word (by rw [← same]; exact List.mem_map_of_mem isIn)

/-- A tree that is the same up to places is read from the same number of levels, and
it is canonical with the other. -/
theorem Pattern.isCanonical_of_withoutSpans {first second : Pattern}
    (same : first.withoutSpans = second.withoutSpans) : first.isCanonical = second.isCanonical := by
  have sameForm (pattern : Pattern) : pattern.withoutSpans.isCanonical = pattern.isCanonical :=
    (sameForm_mapSpans pattern .initial (keepsAbsence_presence .initial pattern)).isCanonical
  rw [← sameForm first, same, sameForm]

theorem Pattern.nesting_of_withoutSpans {first second : Pattern}
    (same : first.withoutSpans = second.withoutSpans) : first.nesting = second.nesting := by
  have sameNesting (pattern : Pattern) : pattern.withoutSpans.nesting = pattern.nesting :=
    mapSpans_nesting _ _ pattern
  rw [← sameNesting first, same, sameNesting]

/-- Printing a tree that was read, and reading what is printed, gives the tree back, up
to where its parts stand. What was left out is left out again. -/
theorem parse_print {source : String} {options : Options} {tree : Pattern}
    (short : utf8Size source.toList < 2 ^ 32) (parsed : parse source options = .ok tree)
    (printedShort : utf8Size tree.print.toList < 2 ^ 32) :
    ∃ reread, parse tree.print options = .ok reread ∧
      reread.withoutSpans = tree.withoutSpans := by
  obtain ⟨clean, spells, canonical, fits⟩ := (parse_eq_ok_iff short).mp parsed
  have rewrites : Rewrites tree.pieces _ := spells.rewrites fun lexeme isIn =>
    ⟨isScanned_of_mem_lexemesOf short clean lexeme isIn,
      (isRegular_of_mem_lexemesOf short lexeme isIn).span_ne⟩
  obtain ⟨lexemes, scans, sameWords⟩ := exists_scans rewrites.tokens rewrites.chained 0
  have printed : tree.print.toList = textOf tree.pieces := String.toList_ofList
  have lexemes_eq : lexemesOf tree.print = lexemes := by
    have scansPrinted := scans_tokenize printedShort
    rw [printed] at scansPrinted
    exact scansPrinted.unique scans
  rw [← lexemes_eq] at sameWords
  obtain ⟨reread, respelled, same⟩ := rewrites.spells _ sameWords
    fun lexeme isIn => (isRegular_of_mem_lexemesOf printedShort lexeme isIn).span_ne
  refine ⟨reread, (parse_eq_ok_iff printedShort).mpr ⟨?_, respelled, ?_, ?_⟩, same⟩
  · apply isClean_iff.mpr
    intro lexeme isIn
    obtain ⟨text, isWord⟩ := kind_of_words_eq sameWords lexeme isIn
    obtain ⟨-, _, _, -, recognizes⟩ := rewrites.tokens _ _ isWord
    exact recognizes.isError_eq_false
  · rw [Pattern.isCanonical_of_withoutSpans same]
    exact canonical
  · rw [Pattern.nesting_of_withoutSpans same]
    exact fits

set_option maxRecDepth 4000 in
/-- The body of a lookaround still reaches over the bar when it is printed. -/
theorem parse_print_of_lookaround :
    ∃ reread, parse ">> a\x7b1,\x7d | ." {} = .ok reread ∧
      reread.withoutSpans = (Pattern.lookaround .ahead (.alternation
        [.repetition (.use "a" ⟨2, 3⟩) ⟨1, none⟩ .defaultGreedy ⟨2, 4⟩, .dot ⟨5, 6⟩] ⟨2, 6⟩)
          ⟨0, 6⟩).withoutSpans := by
  have parsed : parse ">>a+|." {} = .ok (.lookaround .ahead (.alternation
      [.repetition (.use "a" ⟨2, 3⟩) ⟨1, none⟩ .defaultGreedy ⟨2, 4⟩, .dot ⟨5, 6⟩] ⟨2, 6⟩)
        ⟨0, 6⟩) := by cbv
  have printed : (Pattern.lookaround .ahead (.alternation
      [.repetition (.use "a" ⟨2, 3⟩) ⟨1, none⟩ .defaultGreedy ⟨2, 4⟩, .dot ⟨5, 6⟩] ⟨2, 6⟩)
        ⟨0, 6⟩).print = ">> a\x7b1,\x7d | ." := by cbv
  have reread := parse_print (by decide) parsed (by rw [printed]; decide)
  rw [printed] at reread
  exact reread

end PatternSyntax
