import PatternSyntax.Proofs.Diagnostics.Productions
import PatternSyntax.Proofs.Sources

/-!
# Blame in expressions

What a whole expression fails with is about lexemes that stand next to each other. The
recursion through parentheses and statements is an induction on the levels. Only two
faults here are about what was read already: a bar after which nothing follows, and a
statement for which no level is left.
-/

namespace PatternSyntax

namespace Grammar

open PatternSyntax.Parser

/-! ## Operators -/

section Operators

variable {operand : Parser Pattern} (blames : operand.Blames)

include blames

/-- The bar is at fault if nothing follows it. -/
theorem blames_nextAlternative : (nextAlternative operand).Blames := by
  intro cursor ordered
  refine blames_bind_after (blames_accept _ cursor ordered) fun bar between accepted => ?_
  obtain ⟨isBar, reads⟩ := accept_eq_accept_iff.mp accepted
  refine blames_orElse_after (blames.after ordered reads) ?_
  exact .fail (.single [] _ reads.rest ⟨bar, isBar, rfl⟩ rfl)

theorem blames_operandOf : (operandOf operand).Blames :=
  blames.orFail (fun _ => rfl) fun _ => .tail _ (.head _)

theorem blames_nextOperand : (nextOperand operand).Blames :=
  (blames_accept _).bind fun _ => blames_operandOf blames

variable (progresses : operand.Progresses)

include progresses

theorem blames_sequence : (sequence operand).Blames := by
  rw [sequence_eq]
  exact blames.bind fun _ => (blames.many progresses).bind fun _ => blames_pure _

theorem blames_intersection : (intersection operand).Blames := by
  have next := blames_nextOperand blames
  rw [intersection_eq_choice]
  exact blames_here_bind fun _ => (next.orElse blames).bind fun _ =>
    (next.many (nextOperand_progresses progresses)).bind fun _ =>
      blames_previous.bind fun _ => blames_pure _

theorem blames_alternation : (alternation operand).Blames := by
  have next := blames_nextAlternative blames
  rw [alternation, alternatives_eq_choice]
  refine .orElse (blames_here_bind fun _ => ?_) (blames_pure _)
  exact (next.orElse blames).bind fun _ =>
    (next.many (nextAlternative_progresses progresses)).bind fun _ => blames_pure _

end Operators

/-! ## Terms -/

theorem blames_lookaround {expression : Parser Pattern} (blames : expression.Blames) :
    (lookaround expression).Blames :=
  (blames_acceptMap _).bind fun _ => blames.bind fun _ => blames_pure _

theorem blames_bangs (levels : Nat) (start : Span) : (bangs levels start).Blames := by
  induction levels generalizing start with
  | zero =>
    refine .orElse (fun cursor ordered => ?_) (blames_pure _)
    refine blames_bind_after (blames_accept _ cursor ordered) fun bang between accepted => ?_
    obtain ⟨-, reads⟩ := accept_eq_accept_iff.mp accepted
    exact .fail (.single [] _ reads.rest (.inl ⟨bang, rfl⟩) rfl)
  | succ levels inductionHypothesis =>
    refine .orElse ((blames_accept _).bind fun bang => ?_) (blames_pure _)
    exact (inductionHypothesis _).bind fun _ => blames_pure _

/-! ## Nested levels -/

section Nested

variable {levels : Nat} (nested : ∀ fewer < levels, ∀ modes, (scope fewer modes).Blames)
  (modes : Modes)

include nested

theorem blames_expression_of_nested {within : Nat} (within_le : within ≤ levels) :
    (expression within modes).Blames := by
  cases within with
  | zero =>
    rw [expression]
    exact blames_failHere (fun _ => rfl) fun _ => .tail _ (.tail _ (.head _))
  | succ fewer =>
    rw [expression]
    exact (nested fewer within_le modes).bind fun _ => blames_pure _

theorem blames_term_of_nested : (term levels modes).Blames := by
  have operands (count : Nat) : (lookaroundOrAtom (levels - count) modes).Blames := by
    have expressions := blames_expression_of_nested nested modes (Nat.sub_le levels count)
    exact (blames_lookaround expressions).orElse (blames_atom expressions modes.unicode)
  have negations : (negation levels modes).Blames := by
    refine blames_here_bind fun start => (blames_bangs levels start).bind ?_
    rintro ⟨count, notSpan⟩
    dsimp only
    split
    · exact (operands count).bind fun _ => blames_pure _
    · exact (blames_operandOf (operands count)).bind fun _ => blames_pure _
  rw [term_eq]
  exact negations.bind (blames_repeated modes.lazy)

theorem blames_bare_of_nested : (bare levels modes).Blames :=
  blames_alternation (blames_intersection (blames_sequence (blames_term_of_nested nested modes)
    (term_progresses levels modes)) (sequence_progresses levels modes))
    (intersection_progresses levels modes)

end Nested

theorem blames_scope (levels : Nat) (modes : Modes) : (scope levels modes).Blames := by
  induction levels using Nat.strongRecOn generalizing modes with
  | ind levels nested =>
    have bares := blames_bare_of_nested nested modes
    intro cursor ordered
    rw [scope_eq]
    refine blames_orElse_after (blames_bind_after (blames_statement bares cursor ordered) ?_)
      ((bares.bind fun _ => blames_pure _) cursor ordered)
    rintro ⟨content, span⟩ between accepted
    obtain ⟨lexemes, reads, spells, span_eq, -⟩ :=
      statement_isReading (fun fewer _ => sound_scope fewer) accepted
    cases levels with
    | zero =>
      have nonempty := ne_nil_of_roleOf (by decide) spells.begins
      exact .fail (.lexemes [] lexemes _ reads.rest nonempty (.inr ⟨modes, content, spells⟩) span_eq)
    | succ fewer =>
      have under := (nested fewer (Nat.lt_succ_self fewer) (content.modes modes)).bind fun stated =>
        blames_pure (content.scope stated.1 (span.join stated.2), stated.2)
      exact under.after ordered reads

/-- Whatever an expression fails with is about lexemes after the place where it began. -/
theorem blames_expression (levels : Nat) (modes : Modes) : (expression levels modes).Blames :=
  blames_expression_of_nested (fun fewer _ => blames_scope fewer) modes (Nat.le_refl levels)

end Grammar

/-! ## Sources -/

open Grammar Text

variable {lexemes : List Lexeme} {finish : Span} {diagnostic : Diagnostic}

/-- The place of a diagnostic is a run of lexemes, or their end. -/
theorem Diagnostic.Blames.isRunOf (blames : diagnostic.Blames lexemes finish)
    (ordered : IsOrdered lexemes) : diagnostic.span = finish ∨ diagnostic.span.IsRunOf lexemes := by
  cases blames with
  | lexemes before covered after split nonempty about span_eq =>
    have inside : covered <:+: lexemes := ⟨before, after, split.symm⟩
    rw [span_eq]
    exact .inr (((ordered.of_infix inside).cover_isRunOf nonempty).mono inside.subset)
  | finish vague span_eq => exact .inl span_eq

/-- What is not read to its end is blamed on some of the lexemes. -/
theorem blames_readAll {options : Options} {cursor : Cursor} (ordered : IsOrdered cursor.rest)
    (failed : readAll options cursor = .error diagnostic) :
    diagnostic.Blames cursor.rest cursor.finish := by
  have blames := blames_expression options.maxDepth options.modes cursor ordered
  unfold readAll at failed
  cases outcome : expression options.maxDepth options.modes cursor with
  | decline => exact absurd outcome (commits_expression options.maxDepth options.modes cursor)
  | fail found =>
    rw [outcome] at failed blames
    cases failed
    cases blames with
    | fail blames => exact blames
  | accept pattern after =>
    rw [outcome] at failed blames
    dsimp only at failed
    cases blames with
    | accept reads =>
      rcases after with ⟨rest, previous, finish⟩
      cases rest with
      | nil => cases failed
      | cons lexeme rest =>
        cases failed
        exact .of_reads reads (.single [] rest rfl ⟨lexeme, rfl⟩ rfl)

/-- The place right after the last character. -/
def endOf (source : String) : Span :=
  .ofOffsets (utf8Size source.toList) (utf8Size source.toList)

/-- The bounds of the span are in order and are offsets into the source. -/
def Span.FitsIn (source : String) (span : Span) : Prop :=
  span.start ≤ span.stop ∧ span.stop.toNat ≤ utf8Size source.toList

/-- No lexeme of a text ends beyond the text. -/
theorem Scans.stop_le {position : Nat} {text : List Char} (scans : Scans position text lexemes)
    (short : position + utf8Size text < 2 ^ 32) :
    ∀ lexeme ∈ lexemes, lexeme.span.stop.toNat ≤ position + utf8Size text := by
  induction scans with
  | done => exact List.forall_mem_nil _
  | @lexeme position trivia tail rest first kind lexemes skips recognized scans
      inductionHypothesis =>
    rw [utf8Size_append, ← List.cons_append, utf8Size_append] at short ⊢
    have stop_toNat : (Lexeme.at (position + utf8Size trivia) kind (first :: tail)).span.stop.toNat =
        position + utf8Size trivia + utf8Size (first :: tail) := toNat_ofNat_of_lt (by omega)
    refine List.forall_mem_cons.mpr ⟨?_, fun later member => ?_⟩
    · omega
    · have inside := inductionHypothesis (by omega) later member
      omega

section Sources

variable {source : String} {options : Options} {diagnostics : List Diagnostic}

theorem endOf_fitsIn (short : utf8Size source.toList < 2 ^ 32) : (endOf source).FitsIn source :=
  ⟨UInt32.le_refl _, Nat.le_of_eq (toNat_ofNat_of_lt short)⟩

theorem Span.IsRunOf.fitsIn {span : Span} (run : span.IsRunOf (lexemesOf source))
    (short : utf8Size source.toList < 2 ^ 32) : span.FitsIn source := by
  obtain ⟨last, isLast, stop_eq⟩ := run.ends
  have inside := (scans_tokenize short).stop_le (by omega) last isLast
  rw [Nat.zero_add, ← stop_eq] at inside
  exact ⟨UInt32.le_of_lt run.nonempty, inside⟩

theorem Diagnostic.span_of_ofToken? {token : Token} (stray : Diagnostic.ofToken? token = some diagnostic) :
    diagnostic.span = token.span := by
  unfold Diagnostic.ofToken? at stray
  cases kind : token.kind <;> rw [kind] at stray <;> cases stray <;> rfl

/-- A token that fits nothing is a run by itself. -/
theorem isRunOf_of_mem_strays (short : utf8Size source.toList < 2 ^ 32)
    (member : diagnostic ∈ (tokenize source).filterMap Diagnostic.ofToken?) :
    diagnostic.span.IsRunOf (lexemesOf source) := by
  obtain ⟨token, isToken, stray⟩ := List.mem_filterMap.mp member
  rw [Diagnostic.span_of_ofToken? stray]
  exact (isOrdered_lexemesOf short).isRunOf (List.mem_map_of_mem isToken)

/-- A source fails with what its stray tokens are, or with one diagnostic for all of it. -/
theorem parse_eq_error_imp (failed : parse source options = .error diagnostics) :
    (¬IsClean source ∧ diagnostics = (tokenize source).filterMap Diagnostic.ofToken?) ∨
      IsClean source ∧ ∃ diagnostic, diagnostics = [diagnostic] ∧
        readAll options (.ofTokens source (tokenize source)) = .error diagnostic := by
  rw [IsClean, ← filterMap_ofToken?_eq_nil_iff]
  unfold parse parseTokens at failed
  cases strays : (tokenize source).filterMap Diagnostic.ofToken? with
  | nil =>
    rw [strays] at failed
    cases result : readAll options (.ofTokens source (tokenize source)) with
    | ok tree =>
      rw [result] at failed
      cases failed
    | error diagnostic =>
      rw [result] at failed
      cases failed
      exact .inr ⟨rfl, diagnostic, rfl, rfl⟩
  | cons stray others =>
    rw [strays] at failed
    cases failed
    exact .inl ⟨List.cons_ne_nil _ _, rfl⟩

/-- Every diagnostic is at the tokens that it is about: a source that fails does so with
at least one diagnostic, each of which stands at the end of the source or reaches from the
beginning of one token to the end of one. They are those of all stray tokens, in order. If
there are none, there is one diagnostic alone, and what it covers is what its fault is
about. -/
theorem blames_of_parse (short : utf8Size source.toList < 2 ^ 32)
    (failed : parse source options = .error diagnostics) :
    diagnostics ≠ [] ∧
      (∀ diagnostic ∈ diagnostics, diagnostic.span.FitsIn source ∧
        (diagnostic.span = endOf source ∨ diagnostic.span.IsRunOf (lexemesOf source))) ∧
      ((¬IsClean source ∧ diagnostics = (tokenize source).filterMap Diagnostic.ofToken?) ∨
        IsClean source ∧ ∃ diagnostic, diagnostics = [diagnostic] ∧
          diagnostic.Blames (lexemesOf source) (endOf source)) := by
  have ordered := isOrdered_lexemesOf short
  rcases parse_eq_error_imp failed with ⟨unclean, rfl⟩ | ⟨clean, diagnostic, rfl, failedAll⟩
  · refine ⟨?_, fun diagnostic member => ?_, .inl ⟨unclean, rfl⟩⟩
    · rwa [ne_eq, filterMap_ofToken?_eq_nil_iff]
    · have run := isRunOf_of_mem_strays short member
      exact ⟨run.fitsIn short, .inr run⟩
  · have blames : diagnostic.Blames (lexemesOf source) (endOf source) :=
      blames_readAll ordered failedAll
    refine ⟨List.cons_ne_nil _ _, List.forall_mem_singleton.mpr ?_,
      .inr ⟨clean, diagnostic, rfl, blames⟩⟩
    rcases blames.isRunOf ordered with atEnd | run
    · exact ⟨atEnd ▸ endOf_fitsIn short, .inl atEnd⟩
    · exact ⟨run.fitsIn short, .inr run⟩

set_option maxRecDepth 8000 in
/-- Bounds in the wrong order are covered from the first number to the second. -/
theorem blames_of_descending_bounds :
    parse "a{5,2}" {} = .error [.ofFault .descendingBounds ⟨2, 5⟩] ∧
      (Diagnostic.ofFault .descendingBounds ⟨2, 5⟩).Blames (lexemesOf "a{5,2}") (endOf "a{5,2}") := by
  have failed : parse "a{5,2}" {} = .error [.ofFault .descendingBounds ⟨2, 5⟩] := by cbv
  have clean : (tokenize "a{5,2}").filterMap Diagnostic.ofToken? = [] := by cbv
  obtain ⟨-, -, ⟨unclean, -⟩ | ⟨-, diagnostic, same, blames⟩⟩ := blames_of_parse (by decide) failed
  · exact absurd (filterMap_ofToken?_eq_nil_iff.mp clean) unclean
  · cases same
    exact ⟨failed, blames⟩

end Sources

end PatternSyntax
