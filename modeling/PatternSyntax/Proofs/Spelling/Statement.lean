import PatternSyntax.Grammar.Statement
import PatternSyntax.Proofs.Spelling.TestBlock

/-!
# Spellings of statements

A statement begins with a word of its own, so that no two kinds of statements
can be taken for each other. What a binding binds is read by a parser that is
given. Nothing is said about it here but that it accepts.
-/

namespace PatternSyntax.Grammar

open PatternSyntax.Parser

/-- A setting by its name. -/
inductive SpellsSetting : Setting → Lexeme → Prop
  | lazy {word : Lexeme} (isLazy : word.IsKeyword "lazy") : SpellsSetting .lazy word
  | unicode {word : Lexeme} (isUnicode : word.IsName "unicode") : SpellsSetting .unicode word

/-- The word that turns a setting on or off. -/
inductive SpellsSwitch : Bool → Lexeme → Prop
  | enable {word : Lexeme} (isEnable : word.IsKeyword "enable") : SpellsSwitch true word
  | disable {word : Lexeme} (isDisable : word.IsKeyword "disable") : SpellsSwitch false word

/-- A statement other than a binding. -/
inductive SpellsDirective : Directive → List Lexeme → Prop
  | toggle {word target stop : Lexeme} {value : Bool} {setting : Setting}
      (spellsSwitch : SpellsSwitch value word) (spellsSetting : SpellsSetting setting target)
      (stops : stop.kind = .semicolon) :
      SpellsDirective (.toggle setting value (word.span.join stop.span))
        ([word] ++ [target] ++ [stop])
  | tests {directive : Directive} {lexemes : List Lexeme}
      (spells : SpellsTests directive lexemes) : SpellsDirective directive lexemes

variable {before after : Cursor}

/-! ## Settings -/

theorem setting_eq_accept_iff {value : Setting} :
    setting before = .accept value after ↔
      ∃ word, SpellsSetting value word ∧ before.Reads [word] after := by
  simp only [setting, orElse_eq_accept_iff, seqRight_eq_accept_iff, keyword_eq_accept_iff,
    contextual_eq_accept_iff, pure_eq_accept_iff]
  constructor
  · rintro (⟨word, _, ⟨isLazy, reads⟩, rfl, rfl⟩ | ⟨-, word, _, ⟨isUnicode, reads⟩, rfl, rfl⟩)
    · exact ⟨word, .lazy isLazy, reads⟩
    · exact ⟨word, .unicode isUnicode, reads⟩
  · rintro ⟨word, spells, reads⟩
    cases spells with
    | lazy isLazy => exact .inl ⟨word, after, ⟨isLazy, reads⟩, rfl, rfl⟩
    | unicode isUnicode =>
      refine .inr ⟨seqRight_eq_decline (keyword_eq_decline_iff.mpr ?_), word, after,
        ⟨isUnicode, reads⟩, rfl, rfl⟩
      simp [reads.rest, Lexeme.IsKeyword, isUnicode.1]

theorem toggleWord_eq_accept_iff {value : Bool} {span : Span} :
    toggleWord before = .accept (value, span) after ↔
      ∃ word, (SpellsSwitch value word ∧ word.span = span) ∧ before.Reads [word] after := by
  simp only [toggleWord, orElse_eq_accept_iff, bind_eq_accept_iff, keyword_eq_accept_iff,
    pure_eq_accept_iff, Prod.mk.injEq]
  constructor
  · rintro (⟨word, _, ⟨isEnable, reads⟩, ⟨rfl, rfl⟩, rfl⟩ |
      ⟨-, word, _, ⟨isDisable, reads⟩, ⟨rfl, rfl⟩, rfl⟩)
    · exact ⟨word, ⟨.enable isEnable, rfl⟩, reads⟩
    · exact ⟨word, ⟨.disable isDisable, rfl⟩, reads⟩
  · rintro ⟨word, ⟨spells, rfl⟩, reads⟩
    cases spells with
    | enable isEnable => exact .inl ⟨word, after, ⟨isEnable, reads⟩, ⟨rfl, rfl⟩, rfl⟩
    | disable isDisable =>
      refine .inr ⟨bind_eq_decline (keyword_eq_decline_iff.mpr ?_), word, after,
        ⟨isDisable, reads⟩, ⟨rfl, rfl⟩, rfl⟩
      simp [reads.rest, Lexeme.IsKeyword, isDisable.2]

theorem toggle_eq_accept_iff {directive : Directive} {span : Span} :
    toggle before = .accept (directive, span) after ↔
      ∃ word target stop value setting, (SpellsSwitch value word ∧ SpellsSetting setting target ∧
        stop.kind = .semicolon) ∧ before.Reads ([word] ++ [target] ++ [stop]) after ∧
        span = word.span.join stop.span ∧ directive = .toggle setting value span := by
  simp only [toggle, bind_eq_accept_iff, orFail_eq_accept_iff, setting_eq_accept_iff,
    expect_eq_accept_iff, pure_eq_accept_iff, Prod.mk.injEq, Prod.exists, toggleWord_eq_accept_iff]
  constructor
  · rintro ⟨value, _, _, ⟨word, ⟨spellsSwitch, rfl⟩, readsWord⟩, setting, _, ⟨target, spellsSetting,
      readsTarget⟩, stop, _, ⟨stops, readsStop⟩, ⟨rfl, rfl⟩, rfl⟩
    exact ⟨word, target, stop, value, setting, ⟨spellsSwitch, spellsSetting, stops⟩,
      (readsWord.trans readsTarget).trans readsStop, rfl, rfl⟩
  · rintro ⟨word, target, stop, value, setting, ⟨spellsSwitch, spellsSetting, stops⟩, reads, rfl,
      rfl⟩
    simp only [Cursor.reads_append_iff] at reads
    obtain ⟨afterTarget, ⟨afterWord, readsWord, readsTarget⟩, readsStop⟩ := reads
    exact ⟨value, word.span, afterWord, ⟨word, ⟨spellsSwitch, rfl⟩, readsWord⟩, setting, afterTarget,
      ⟨target, spellsSetting, readsTarget⟩, stop, after, ⟨stops, readsStop⟩, ⟨rfl, rfl⟩, rfl⟩

theorem toggle_eq_decline_iff : toggle before = .decline ↔ ∀ lexeme ∈ before.rest.head?,
    ¬lexeme.IsKeyword "enable" ∧ ¬lexeme.IsKeyword "disable" := by
  rw [toggle, bind_eq_decline_iff_of_commits]
  · simp only [toggleWord, orElse_eq_decline_iff,
      bind_eq_decline_iff_of_commits fun _ => commits_pure _, keyword_eq_decline_iff]
    exact ⟨fun declined lexeme member => ⟨declined.1 lexeme member, declined.2 lexeme member⟩,
      fun declined => ⟨fun lexeme member => (declined lexeme member).1,
        fun lexeme member => (declined lexeme member).2⟩⟩
  · exact fun _ => (commits_orFail _ _).bind fun _ => (commits_expect _).bind fun _ =>
      commits_pure _

/-! ## Bindings -/

variable {alternation : Parser Pattern}

theorem binding_eq_accept_iff {content : Statement} {span : Span} :
    binding alternation before = .accept (content, span) after ↔
      ∃ word name equals between bound middle stop,
        (word.IsKeyword "let" ∧ name.kind = .identifier ∧ equals.kind = .equals) ∧
        before.Reads ([word] ++ [name] ++ [equals]) between ∧
        alternation between = .accept bound middle ∧
        (stop.kind = .semicolon ∧ middle.Reads [stop] after) ∧
        content = .binding name.text name.span bound ∧ span = word.span.join stop.span := by
  simp only [binding, bind_eq_accept_iff, keyword_eq_accept_iff, expect_eq_accept_iff,
    orFail_eq_accept_iff, accept_eq_accept_iff, pure_eq_accept_iff, Prod.mk.injEq]
  constructor
  · rintro ⟨word, _, ⟨isLet, readsWord⟩, name, _, ⟨isName, readsName⟩, equals, between, ⟨isEquals,
      readsEquals⟩, bound, middle, accepted, stop, _, stopped, ⟨rfl, rfl⟩, rfl⟩
    exact ⟨word, name, equals, between, bound, middle, stop, ⟨isLet, isName, isEquals⟩,
      (readsWord.trans readsName).trans readsEquals, accepted, stopped, rfl, rfl⟩
  · rintro ⟨word, name, equals, between, bound, middle, stop, ⟨isLet, isName, isEquals⟩, reads,
      accepted, stopped, rfl, rfl⟩
    simp only [Cursor.reads_append_iff] at reads
    obtain ⟨afterName, ⟨afterWord, readsWord, readsName⟩, readsEquals⟩ := reads
    exact ⟨word, afterWord, ⟨isLet, readsWord⟩, name, afterName, ⟨isName, readsName⟩, equals, between,
      ⟨isEquals, readsEquals⟩, bound, middle, accepted, stop, after, stopped, ⟨rfl, rfl⟩, rfl⟩

theorem binding_eq_decline_iff (commits : alternation.Commits) :
    binding alternation before = .decline ↔
      ∀ lexeme ∈ before.rest.head?, ¬lexeme.IsKeyword "let" := by
  rw [binding, bind_eq_decline_iff_of_commits, keyword_eq_decline_iff]
  exact fun _ => (commits_expect _).bind fun _ => (commits_expect _).bind fun _ =>
    commits.bind fun _ => (commits_orFail _ _).bind fun _ => commits_pure _

/-! ## Statements -/

theorem statement_eq_accept_imp {content : Statement} {span : Span}
    (accepted : statement alternation before = .accept (content, span) after) :
    (∃ directive lexemes, content = .directive directive ∧ SpellsDirective directive lexemes ∧
      before.Reads lexemes after ∧ span = before.span.join after.previous) ∨
    binding alternation before = .accept (content, span) after := by
  simp only [statement, orElse_eq_accept_iff, bind_eq_accept_iff, pure_eq_accept_iff, Prod.exists,
    Prod.mk.injEq] at accepted
  rcases accepted with ⟨directive, _, _, accepted, ⟨rfl, rfl⟩, rfl⟩ |
    ⟨-, accepted | ⟨-, directive, _, _, accepted, ⟨rfl, rfl⟩, rfl⟩⟩
  · obtain ⟨word, target, stop, value, setting, ⟨spellsSwitch, spellsSetting, stops⟩, reads, rfl,
      rfl⟩ := toggle_eq_accept_iff.mp accepted
    refine .inl ⟨_, _, rfl, .toggle spellsSwitch spellsSetting stops, reads, ?_⟩
    rw [reads.previous, reads.span_eq]
    rfl
  · exact .inr accepted
  · obtain ⟨lexemes, spells, reads, rfl⟩ := testBlock_eq_accept_imp accepted
    exact .inl ⟨directive, lexemes, rfl, .tests spells, reads, rfl⟩

theorem SpellsDirective.role_eq {directive : Directive} {lexemes : List Lexeme}
    (spells : SpellsDirective directive lexemes) : roleOf lexemes = .statement := by
  cases spells with
  | toggle spellsSwitch _ _ =>
    cases spellsSwitch with
    | enable isEnable => simp [Lexeme.role, isEnable.1, isEnable.2, Role.ofWord]
    | disable isDisable => simp [Lexeme.role, isDisable.1, isDisable.2, Role.ofWord]
  | tests spells =>
    cases spells with
    | block isTest _ _ _ => simp [Lexeme.role, isTest.1, isTest.2, Role.ofWord]

theorem statement_of_spellsDirective (commits : alternation.Commits) {directive : Directive}
    {lexemes : List Lexeme} (spells : SpellsDirective directive lexemes)
    (reads : before.Reads lexemes after)
    (quoted : ∀ lexeme ∈ lexemes, lexeme.kind = .string → lexeme.text ≠ "in") :
    statement alternation before =
      .accept (.directive directive, before.span.join after.previous) after := by
  cases spells with
  | @toggle word target stop value setting spellsSwitch spellsSetting stops =>
    refine orElse_of_accept (bind_eq_accept_iff.mpr ⟨_, after, toggle_eq_accept_iff.mpr ⟨word, target,
      stop, value, setting, ⟨spellsSwitch, spellsSetting, stops⟩, reads, rfl, rfl⟩, ?_⟩)
    rw [reads.previous, reads.span_eq]
    rfl
  | tests spells =>
    have accepted := testBlock_of_spellsTests spells reads quoted
    obtain ⟨isTest, -, -, -⟩ := spells
    refine orElse_of_decline (bind_eq_decline (toggle_eq_decline_iff.mpr ?_))
      (orElse_of_decline ((binding_eq_decline_iff commits).mpr ?_)
        (bind_eq_accept_iff.mpr ⟨_, after, accepted, rfl⟩))
    · simp [reads.rest, Lexeme.IsKeyword, isTest.2]
    · simp [reads.rest, Lexeme.IsKeyword, isTest.2]

theorem statement_of_binding {content : Statement} {span : Span}
    (accepted : binding alternation before = .accept (content, span) after) :
    statement alternation before = .accept (content, span) after := by
  obtain ⟨word, name, equals, between, bound, middle, stop, ⟨isLet, -, -⟩, reads, -⟩ :=
    binding_eq_accept_iff.mp accepted
  refine orElse_of_decline (bind_eq_decline (toggle_eq_decline_iff.mpr ?_))
    (orElse_of_accept accepted)
  simp [reads.rest, Lexeme.IsKeyword, isLet.2]

theorem statement_eq_decline_iff (commits : alternation.Commits) :
    statement alternation before = .decline ↔ roleOf before.rest ≠ .statement := by
  rw [roleOf_ne_iff (by decide)]
  simp only [statement, orElse_eq_decline_iff, bind_eq_decline_iff_of_commits fun _ =>
    commits_pure _, toggle_eq_decline_iff, binding_eq_decline_iff commits, testBlock_eq_decline_iff,
    ne_eq, Lexeme.role_eq_statement_iff, not_or]
  constructor
  · rintro ⟨noToggle, noBinding, noTests⟩ lexeme member
    exact ⟨(noToggle lexeme member).1, (noToggle lexeme member).2, noBinding lexeme member,
      noTests lexeme member⟩
  · intro none
    exact ⟨fun lexeme member => ⟨(none lexeme member).1, (none lexeme member).2.1⟩,
      fun lexeme member => (none lexeme member).2.2.1, fun lexeme member => (none lexeme member).2.2.2⟩

end PatternSyntax.Grammar
