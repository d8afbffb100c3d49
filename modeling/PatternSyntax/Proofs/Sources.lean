import Mathlib
import PatternSyntax.Parse
import PatternSyntax.Proofs.Completeness
import PatternSyntax.Proofs.Scanning
import PatternSyntax.Proofs.Skeleton

/-!
# The trees of sources

A source without stray text is read as a tree exactly if the tree is canonical, the
lexemes of the source spell it, and there are enough levels. The number of lexemes
is always enough.
-/

namespace PatternSyntax

open Grammar Recognition Text

/-- The lexemes of a source, in order. -/
def lexemesOf (source : String) : List Lexeme :=
  (tokenize source).map fun token => token.lexeme source

/-- The source holds no text that no token fits. -/
def IsClean (source : String) : Prop :=
  ∀ token ∈ tokenize source, token.kind.isError = false

/-! ## The lexemes of a source -/

theorem isClean_iff {source : String} :
    IsClean source ↔ ∀ lexeme ∈ lexemesOf source, lexeme.kind.isError = false := by
  simp [IsClean, lexemesOf]

theorem utf8Size_pos_of_cons (c : Char) (text : List Char) : 0 < utf8Size (c :: text) := by
  have positive := c.utf8Size_pos
  rw [utf8Size_cons]
  omega

theorem Scans.isRegular {position : Nat} {text : List Char} {lexemes : List Lexeme}
    (scans : Scans position text lexemes) (short : position + utf8Size text < 2 ^ 32) :
    ∀ lexeme ∈ lexemes, lexeme.IsRegular := by
  induction scans with
  | done => nofun
  | @lexeme position trivia tail rest first kind lexemes skips recognized scans
      inductionHypothesis =>
    have positive := utf8Size_pos_of_cons first tail
    rw [utf8Size_append, ← List.cons_append, utf8Size_append] at short
    refine List.forall_mem_cons.mpr ⟨⟨?_, ?_⟩, inductionHypothesis (by omega)⟩
    · refine beq_eq_false_iff_ne.mpr fun stop_eq => ?_
      have stop_toNat : (UInt32.ofNat (position + utf8Size trivia + utf8Size (first :: tail))).toNat =
        0 := congrArg UInt32.toNat stop_eq
      rw [toNat_ofNat_of_lt (by omega)] at stop_toNat
      omega
    · intro isString text_eq
      obtain rfl : kind = .string := isString
      have strings := (recognizes_of_recognize rfl recognized).of_string
      have quote : first = '\'' ∨ first = '"' := strings.imp And.left And.left
      have first_eq : first = 'i' := by
        have head_eq := congrArg (fun text : String => text.toList.head?) text_eq
        simpa [Lexeme.at] using head_eq
      rw [first_eq] at quote
      revert quote
      decide

theorem isRegular_of_mem_lexemesOf {source : String} (short : utf8Size source.toList < 2 ^ 32) :
    ∀ lexeme ∈ lexemesOf source, lexeme.IsRegular :=
  (scans_tokenize short).isRegular (by omega)

/-! ## Reading a source -/

theorem filterMap_ofToken?_eq_nil_iff {tokens : List Token} :
    tokens.filterMap Diagnostic.ofToken? = [] ↔ ∀ token ∈ tokens, token.kind.isError = false := by
  rw [List.filterMap_eq_nil_iff]
  simp only [← Diagnostic.isSome_ofToken?, Option.isSome_eq_false_iff, Option.isNone_iff_eq_none]

/-- What is read as a tree is read to its end. -/
theorem expression_accepts_of_readAll {options : Options} {cursor : Cursor} {tree : Pattern}
    (read : readAll options cursor = .ok tree) :
    ∃ final, final.rest = [] ∧
      expression options.maxDepth options.modes cursor = .accept tree final := by
  unfold readAll at read
  split at read
  · cases read
  · cases read
  · rename_i pattern final accepted
    split at read
    · rename_i ended
      cases read
      exact ⟨final, List.isEmpty_iff.mp ended, accepted⟩
    · cases read

/-- What is read as a tree spells the tree, whatever the lexemes are. -/
theorem spells_of_readAll {options : Options} {cursor : Cursor} {tree : Pattern}
    (read : readAll options cursor = .ok tree) :
    Spells options.modes (.expression tree) cursor.rest ∧ tree.isCanonical ∧
      tree.nesting < options.maxDepth := by
  obtain ⟨final, ended, accepted⟩ := expression_accepts_of_readAll read
  obtain ⟨lexemes, reads, spells, canonical, fits⟩ := expression_sound accepted
  have all : cursor.rest = lexemes := by
    rw [reads.rest, ended, List.append_nil]
  rw [all]
  exact ⟨spells, canonical, fits⟩

/-- Tokens that are read as a tree have no errors among them. -/
theorem readAll_of_parseTokens {source : String} {tokens : List Token} {options : Options}
    {tree : Pattern} (read : parseTokens source tokens options = .ok tree) :
    (∀ token ∈ tokens, token.kind.isError = false) ∧
      readAll options (.ofTokens source tokens) = .ok tree := by
  unfold parseTokens at read
  split at read
  · rename_i clean
    refine ⟨filterMap_ofToken?_eq_nil_iff.mp clean, ?_⟩
    cases result : readAll options (.ofTokens source tokens) with
    | error diagnostic =>
      rw [result] at read
      cases read
    | ok found =>
      rw [result] at read
      cases read
      rfl
  · cases read

theorem spells_of_parseTokens {source : String} {tokens : List Token} {options : Options}
    {tree : Pattern} (read : parseTokens source tokens options = .ok tree) :
    Spells options.modes (.expression tree) (tokens.map fun token => token.lexeme source) :=
  (spells_of_readAll (readAll_of_parseTokens read).2).1

theorem readAll_eq_ok_iff {options : Options} {cursor : Cursor} {tree : Pattern}
    (regular : ∀ lexeme ∈ cursor.rest, lexeme.IsRegular) :
    readAll options cursor = .ok tree ↔
      Spells options.modes (.expression tree) cursor.rest ∧ tree.isCanonical ∧
        tree.nesting < options.maxDepth := by
  constructor
  · exact spells_of_readAll
  · rintro ⟨spells, canonical, fits⟩
    have reads : cursor.Reads cursor.rest
        ⟨[], lastSpan cursor.previous cursor.rest, cursor.finish⟩ :=
      ⟨(List.append_nil _).symm, rfl, rfl⟩
    have accepted := expression_complete spells regular canonical fits reads rfl
    simp only [readAll, accepted]
    rfl

/-- A source is read as a tree exactly if its lexemes spell the tree, the tree is
canonical, and there are enough levels. -/
theorem parse_eq_ok_iff {source : String} (short : utf8Size source.toList < 2 ^ 32)
    {options : Options} {tree : Pattern} :
    parse source options = .ok tree ↔ IsClean source ∧
      Spells options.modes (.expression tree) (lexemesOf source) ∧ tree.isCanonical ∧
        tree.nesting < options.maxDepth := by
  have read_iff : readAll options (.ofTokens source (tokenize source)) = .ok tree ↔
      Spells options.modes (.expression tree) (lexemesOf source) ∧ tree.isCanonical ∧
        tree.nesting < options.maxDepth :=
    readAll_eq_ok_iff (isRegular_of_mem_lexemesOf short)
  rw [IsClean, ← filterMap_ofToken?_eq_nil_iff, ← read_iff, parse, parseTokens]
  cases strays : (tokenize source).filterMap Diagnostic.ofToken? with
  | nil =>
    cases readAll options (.ofTokens source (tokenize source)) with
    | ok found =>
      constructor
      · rintro ⟨⟩
        exact ⟨rfl, rfl⟩
      · rintro ⟨-, ⟨⟩⟩
        rfl
    | error diagnostic =>
      constructor
      · rintro ⟨⟩
      · rintro ⟨-, ⟨⟩⟩
  | cons diagnostic diagnostics => simp

/-- The lexemes spell the tree, whatever modes hold and wherever its parts stand. -/
def IsSpelled (shape : Pattern) (lexemes : List Lexeme) : Prop :=
  ∃ modes tree, Spells modes (.expression tree) lexemes ∧ tree.skeleton = shape.skeleton

/-- A source without stray text is read as a tree, up to the places and the modes of
its parts, exactly if the tree is canonical and the lexemes of the source spell it. -/
theorem parse_skeleton_iff {source : String} {options : Options}
    (short : utf8Size source.toList < 2 ^ 32) (clean : IsClean source)
    (deep : (tokenize source).length < options.maxDepth) (shape : Pattern) :
    (∃ tree, parse source options = .ok tree ∧ tree.skeleton = shape.skeleton) ↔
      shape.isCanonical ∧ IsSpelled shape (lexemesOf source) := by
  constructor
  · rintro ⟨tree, parsed, same⟩
    obtain ⟨-, spells, canonical, -⟩ := (parse_eq_ok_iff short).mp parsed
    rw [← Pattern.skeleton_isCanonical, same, Pattern.skeleton_isCanonical] at canonical
    exact ⟨canonical, options.modes, tree, spells, same⟩
  · rintro ⟨canonical, modes, tree, spells, same⟩
    have respelled := spells.withModes options.modes
    have sameSkeleton : (tree.withModes options.modes).skeleton = shape.skeleton := by
      rw [Pattern.withModes_skeleton, same]
    refine ⟨tree.withModes options.modes, (parse_eq_ok_iff short).mpr ⟨clean, respelled, ?_, ?_⟩,
      sameSkeleton⟩
    · rwa [← Pattern.skeleton_isCanonical, sameSkeleton, Pattern.skeleton_isCanonical]
    · have fits := respelled.nesting_le
      rw [lexemesOf, List.length_map] at fits
      exact Nat.lt_of_le_of_lt fits deep

set_option maxRecDepth 4000 in
/-- The operand of a lookaround reaches over the bar after it, although the lexemes
also spell two alternatives. -/
theorem lookaround_reaches_over_bar :
    ¬ ∃ tree, parse ">>a|b" {} = .ok tree ∧ tree.skeleton =
      (Pattern.alternation [.lookaround .ahead (.use "a" .absent) .absent, .use "b" .absent]
        .absent).skeleton := by
  have tokens : tokenize ">>a|b" = [⟨.lookAhead, ⟨0, 2⟩⟩, ⟨.identifier, ⟨2, 3⟩⟩,
    ⟨.pipe, ⟨3, 4⟩⟩, ⟨.identifier, ⟨4, 5⟩⟩] := by cbv
  have clean : IsClean ">>a|b" := by
    rw [IsClean, tokens]
    decide
  rw [parse_skeleton_iff (by decide) clean (by rw [tokens]; decide)]
  rintro ⟨canonical, -⟩
  revert canonical
  decide

end PatternSyntax
