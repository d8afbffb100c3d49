import PatternSyntax.Grammar.Repetition
import PatternSyntax.Proofs.Spelling.Terminal

/-!
# Spellings of repetitions

How often something is repeated is spelled by one operator or between braces,
and a word after it may say what is preferred. A repetition is read exactly if
it is spelled, and if nothing follows that would add to it.
-/

namespace PatternSyntax.Grammar

open PatternSyntax.Parser

/-! ## Bounds -/

/-- A number that may be left out. -/
def SpellsCount : Option Nat → List Lexeme → Prop
  | none, lexemes => lexemes = []
  | some value, lexemes => ∃ lexeme, lexemes = [lexeme] ∧ IsCount value lexeme

/-- How often: an operator, or one or two numbers between braces. -/
inductive SpellsBounds : Bounds → List Lexeme → Prop
  | plus {operator : Lexeme} (isPlus : operator.kind = .plus) : SpellsBounds ⟨1, none⟩ [operator]
  | star {operator : Lexeme} (isStar : operator.kind = .star) : SpellsBounds ⟨0, none⟩ [operator]
  | questionMark {operator : Lexeme} (isQuestionMark : operator.kind = .questionMark) :
      SpellsBounds ⟨0, some 1⟩ [operator]
  | exactly {opening number closing : Lexeme} {value : Nat} (opens : opening.kind = .openBrace)
      (isCount : IsCount value number) (closes : closing.kind = .closeBrace) :
      SpellsBounds ⟨value, some value⟩ [opening, number, closing]
  | between {opening comma closing : Lexeme} {lower upper : Option Nat} {first last : List Lexeme}
      (opens : opening.kind = .openBrace) (spellsLower : SpellsCount lower first)
      (isComma : comma.kind = .comma) (spellsUpper : SpellsCount upper last)
      (ordered : ∀ bound ∈ upper, lower.getD 0 ≤ bound) (closes : closing.kind = .closeBrace) :
      SpellsBounds ⟨lower.getD 0, upper⟩ ([opening] ++ first ++ [comma] ++ last ++ [closing])

theorem SpellsBounds.role_eq {bounds : Bounds} {lexemes : List Lexeme}
    (spells : SpellsBounds bounds lexemes) (rest : List Lexeme) :
    roleOf (lexemes ++ rest) = .repetition := by
  cases spells <;> simp_all [Lexeme.role]

theorem SpellsBounds.ne_nil {bounds : Bounds} {lexemes : List Lexeme}
    (spells : SpellsBounds bounds lexemes) : lexemes ≠ [] := by
  cases spells <;> simp

/-- The bounds of a source are small and in order. -/
theorem SpellsBounds.inRange {bounds : Bounds} {lexemes : List Lexeme}
    (spells : SpellsBounds bounds lexemes) :
    bounds.lower ≤ maxCount ∧ ∀ upper ∈ bounds.upper, upper ≤ maxCount ∧ bounds.lower ≤ upper := by
  cases spells with
  | plus _ => exact ⟨by decide, by simp⟩
  | star _ => exact ⟨by decide, by simp⟩
  | questionMark _ =>
    refine ⟨by decide, ?_⟩
    rintro _ ⟨⟩
    decide
  | exactly _ isCount _ =>
    refine ⟨isCount.le_maxCount, ?_⟩
    rintro _ ⟨⟩
    exact ⟨isCount.le_maxCount, Nat.le_refl _⟩
  | @between _ _ _ lower upper _ _ _ spellsLower _ spellsUpper ordered _ =>
    constructor
    · cases lower with
      | none => exact Nat.zero_le _
      | some lower =>
        obtain ⟨_, -, isCount⟩ := spellsLower
        exact isCount.le_maxCount
    · rintro upper rfl
      obtain ⟨_, -, isCount⟩ := spellsUpper
      exact ⟨isCount.le_maxCount, ordered upper rfl⟩

variable {cursor after : Cursor}

theorem optional_count_eq_accept_iff {value : Option Nat} :
    (optional (number count?)) cursor = .accept value after ↔
      ∃ lexemes, SpellsCount value lexemes ∧ cursor.Reads lexemes after ∧
        (value = none → ∀ lexeme ∈ after.rest.head?, lexeme.kind ≠ .number) := by
  cases value with
  | none =>
    rw [optional_eq_accept_none_iff, number_eq_decline_iff]
    constructor
    · rintro ⟨absent, rfl⟩
      exact ⟨[], rfl, Cursor.reads_nil_iff.mpr rfl, fun _ => absent⟩
    · rintro ⟨lexemes, rfl, reads, absent⟩
      rw [Cursor.reads_nil_iff] at reads
      subst reads
      exact ⟨absent rfl, rfl⟩
  | some value =>
    rw [optional_eq_accept_some_iff, number_eq_accept_iff]
    constructor
    · rintro ⟨lexeme, isCount, reads⟩
      exact ⟨[lexeme], ⟨lexeme, rfl, isCount⟩, reads, nofun⟩
    · rintro ⟨lexemes, ⟨lexeme, rfl, isCount⟩, reads, -⟩
      exact ⟨lexeme, isCount, reads⟩

theorem spellsBounds_of_bracedBounds {bounds : Bounds}
    (accepted : bracedBounds cursor = .accept bounds after) :
    ∃ lexemes, SpellsBounds bounds lexemes ∧ cursor.Reads lexemes after := by
  simp only [bracedBounds, bind_eq_accept_iff, accept_eq_accept_iff, here_bind_apply,
    previous_bind_apply, optional_count_eq_accept_iff, optional_accept_eq_accept_iff] at accepted
  rcases accepted with ⟨opening, _, ⟨opens, readsOpening⟩, lower, _, ⟨first, spellsLower,
    readsLower, -⟩, comma, _, ⟨isComma, readsComma, -⟩, upper, beforeClosing, ⟨last, spellsUpper,
    readsUpper, -⟩, accepted⟩
  have reads := ((readsOpening.trans readsLower).trans readsComma).trans readsUpper
  match comma, lower, upper with
  | some comma, lower, none =>
    simp only [bind_eq_accept_iff, pure_eq_accept_iff, expect_eq_accept_iff] at accepted
    rcases accepted with ⟨_, _, ⟨rfl, rfl⟩, closing, _, ⟨closes, readsClosing⟩, rfl, rfl⟩
    exact ⟨_, .between opens spellsLower (isComma comma rfl) spellsUpper (by simp) closes,
      reads.trans readsClosing⟩
  | some comma, lower, some upper =>
    simp only at accepted
    split at accepted
    · simp [bind_eq_accept_iff] at accepted
    · rename_i ordered
      simp only [bind_eq_accept_iff, pure_eq_accept_iff, expect_eq_accept_iff] at accepted
      rcases accepted with ⟨_, _, ⟨rfl, rfl⟩, closing, _, ⟨closes, readsClosing⟩, rfl, rfl⟩
      refine ⟨_, .between opens spellsLower (isComma comma rfl) spellsUpper ?_ closes,
        reads.trans readsClosing⟩
      rintro bound ⟨⟩
      exact Nat.le_of_not_lt ordered
  | none, some lower, some upper => simp [bind_eq_accept_iff] at accepted
  | none, some value, none =>
    simp only [bind_eq_accept_iff, pure_eq_accept_iff, expect_eq_accept_iff] at accepted
    rcases accepted with ⟨_, _, ⟨rfl, rfl⟩, closing, _, ⟨closes, readsClosing⟩, rfl, rfl⟩
    rcases spellsLower with ⟨number, rfl, isCount⟩
    cases spellsUpper
    exact ⟨_, .exactly opens isCount closes, reads.trans readsClosing⟩
  | none, none, upper => simp [bind_eq_accept_iff] at accepted

theorem bracedBounds_exactly {opening number closing : Lexeme} {value : Nat}
    (opens : opening.kind = .openBrace) (isCount : IsCount value number)
    (closes : closing.kind = .closeBrace) (reads : cursor.Reads [opening, number, closing] after) :
    bracedBounds cursor = .accept ⟨value, some value⟩ after := by
  obtain ⟨afterOpening, readsOpening, reads⟩ := Cursor.reads_cons_iff.mp reads
  obtain ⟨afterNumber, readsNumber, readsClosing⟩ := Cursor.reads_cons_iff.mp reads
  simp only [bracedBounds, bind_eq_accept_iff, accept_eq_accept_iff, here_bind_apply,
    previous_bind_apply, optional_count_eq_accept_iff, optional_accept_eq_accept_iff]
  refine ⟨opening, afterOpening, ⟨opens, readsOpening⟩, some value, afterNumber,
    ⟨[number], ⟨number, rfl, isCount⟩, readsNumber, nofun⟩, none, afterNumber,
    ⟨nofun, Cursor.reads_nil_iff.mpr rfl, fun _ => ?_⟩, none, afterNumber,
    ⟨[], rfl, Cursor.reads_nil_iff.mpr rfl, fun _ => ?_⟩, ?_⟩
  · simp [readsClosing.rest, closes]
  · simp [readsClosing.rest, closes]
  · simp only [bind_eq_accept_iff, pure_eq_accept_iff, expect_eq_accept_iff]
    exact ⟨_, _, ⟨rfl, rfl⟩, closing, after, ⟨closes, readsClosing⟩, rfl, rfl⟩

theorem bracedBounds_between {opening comma closing : Lexeme} {lower upper : Option Nat}
    {first last : List Lexeme} (opens : opening.kind = .openBrace)
    (spellsLower : SpellsCount lower first) (isComma : comma.kind = .comma)
    (spellsUpper : SpellsCount upper last) (ordered : ∀ bound ∈ upper, lower.getD 0 ≤ bound)
    (closes : closing.kind = .closeBrace)
    (reads : cursor.Reads ([opening] ++ first ++ [comma] ++ last ++ [closing]) after) :
    bracedBounds cursor = .accept ⟨lower.getD 0, upper⟩ after := by
  simp only [Cursor.reads_append_iff] at reads
  obtain ⟨beforeClosing, ⟨afterComma, ⟨afterLower, ⟨afterOpening, readsOpening, readsLower⟩,
    readsComma⟩, readsUpper⟩, readsClosing⟩ := reads
  simp only [bracedBounds, bind_eq_accept_iff, accept_eq_accept_iff, here_bind_apply,
    previous_bind_apply, optional_count_eq_accept_iff, optional_accept_eq_accept_iff]
  refine ⟨opening, afterOpening, ⟨opens, readsOpening⟩, lower, afterLower,
    ⟨first, spellsLower, readsLower, fun _ => ?_⟩, some comma, afterComma,
    ⟨by simpa using isComma, readsComma, nofun⟩, upper, beforeClosing,
    ⟨last, spellsUpper, readsUpper, fun _ => ?_⟩, ?_⟩
  · simp [readsComma.rest, isComma]
  · simp [readsClosing.rest, closes]
  · cases upper with
    | none =>
      simp only [bind_eq_accept_iff, pure_eq_accept_iff, expect_eq_accept_iff]
      exact ⟨_, _, ⟨rfl, rfl⟩, closing, after, ⟨closes, readsClosing⟩, rfl, rfl⟩
    | some upper =>
      simp only
      rw [if_neg (Nat.not_lt.mpr (ordered upper rfl))]
      simp only [bind_eq_accept_iff, pure_eq_accept_iff, expect_eq_accept_iff]
      exact ⟨_, _, ⟨rfl, rfl⟩, closing, after, ⟨closes, readsClosing⟩, rfl, rfl⟩

theorem bracedBounds_eq_decline_iff :
    bracedBounds cursor = .decline ↔ ∀ lexeme ∈ cursor.rest.head?, lexeme.kind ≠ .openBrace := by
  rw [bracedBounds, bind_eq_decline_iff_of_commits, accept_eq_decline_iff]
  intro opening
  refine commits_here.bind fun start => (commits_optional _).bind fun lower =>
    (commits_optional _).bind fun comma => (commits_optional _).bind fun upper =>
    commits_previous.bind fun stop => ?_
  have closing (bounds : Bounds) : Commits (do let _ ← expect .closeBrace; return bounds) :=
    (commits_expect _).bind fun _ => commits_pure _
  match comma, lower, upper with
  | some comma, lower, none => exact (commits_pure _).bind closing
  | some comma, lower, some upper =>
    simp only
    split
    · exact (commits_fail _).bind closing
    · exact (commits_pure _).bind closing
  | none, some lower, some upper => exact (commits_fail _).bind closing
  | none, some value, none => exact (commits_pure _).bind closing
  | none, none, upper => exact (commits_failHere _).bind closing

theorem repetitionBounds_eq_accept_iff {bounds : Bounds} :
    repetitionBounds cursor = .accept bounds after ↔
      ∃ lexemes, SpellsBounds bounds lexemes ∧ cursor.Reads lexemes after := by
  constructor
  · intro accepted
    simp only [repetitionBounds, orElse_eq_accept_iff, seqRight_eq_accept_iff,
      accept_eq_accept_iff, pure_eq_accept_iff] at accepted
    rcases accepted with ⟨operator, _, ⟨isPlus, reads⟩, rfl, rfl⟩ |
      ⟨-, ⟨operator, _, ⟨isStar, reads⟩, rfl, rfl⟩ |
      ⟨-, ⟨operator, _, ⟨isQuestionMark, reads⟩, rfl, rfl⟩ | ⟨-, accepted⟩⟩⟩
    · exact ⟨_, .plus isPlus, reads⟩
    · exact ⟨_, .star isStar, reads⟩
    · exact ⟨_, .questionMark isQuestionMark, reads⟩
    · exact spellsBounds_of_bracedBounds accepted
  · rintro ⟨lexemes, spells, reads⟩
    have declines {kind : TokenKind} {value : Bounds}
        (other : ∀ lexeme ∈ cursor.rest.head?, lexeme.kind ≠ kind) :
        (accept kind *> pure value : Parser Bounds) cursor = .decline :=
      seqRight_eq_decline (accept_eq_decline_iff.mpr other)
    simp only [repetitionBounds, orElse_eq_accept_iff]
    cases spells with
    | plus isPlus =>
      exact .inl (seqRight_eq_accept_iff.mpr
        ⟨_, _, accept_eq_accept_iff.mpr ⟨isPlus, reads⟩, rfl⟩)
    | star isStar =>
      refine .inr ⟨declines ?_, .inl (seqRight_eq_accept_iff.mpr
        ⟨_, _, accept_eq_accept_iff.mpr ⟨isStar, reads⟩, rfl⟩)⟩
      simp [reads.rest, isStar]
    | questionMark isQuestionMark =>
      refine .inr ⟨declines ?_, .inr ⟨declines ?_, .inl (seqRight_eq_accept_iff.mpr
        ⟨_, _, accept_eq_accept_iff.mpr ⟨isQuestionMark, reads⟩, rfl⟩)⟩⟩ <;>
        simp [reads.rest, isQuestionMark]
    | exactly opens isCount closes =>
      refine .inr ⟨declines ?_, .inr ⟨declines ?_, .inr ⟨declines ?_,
        bracedBounds_exactly opens isCount closes reads⟩⟩⟩ <;> simp [reads.rest, opens]
    | between opens spellsLower isComma spellsUpper ordered closes =>
      refine .inr ⟨declines ?_, .inr ⟨declines ?_, .inr ⟨declines ?_,
        bracedBounds_between opens spellsLower isComma spellsUpper ordered closes reads⟩⟩⟩ <;>
        simp [reads.rest, opens]

theorem repetitionBounds_eq_decline_iff :
    repetitionBounds cursor = .decline ↔ roleOf cursor.rest ≠ .repetition := by
  have declines_iff (kind : TokenKind) (value : Bounds) :
      (accept kind *> pure value : Parser Bounds) cursor = .decline ↔
        ∀ lexeme ∈ cursor.rest.head?, lexeme.kind ≠ kind := by
    rw [← accept_eq_decline_iff]
    exact @bind_eq_decline_iff_of_commits _ _ _ _ (fun _ => pure value) fun _ => commits_pure _
  simp only [repetitionBounds, orElse_eq_decline_iff, declines_iff, bracedBounds_eq_decline_iff]
  cases cursor.rest with
  | nil => simp
  | cons lexeme rest =>
    rcases lexeme with ⟨kind, text, span⟩
    cases kind <;> simp [Lexeme.role, Role.ofWord_ne_repetition]

/-! ## Whole repetitions -/

/-- What is preferred: a word, or nothing, and then the mode decides. -/
inductive SpellsPreference (lazyMode : Bool) : Quantifier → List Lexeme → Prop
  | greedy {word : Lexeme} (isGreedy : word.IsKeyword "greedy") :
      SpellsPreference lazyMode .greedy [word]
  | lazy {word : Lexeme} (isLazy : word.IsKeyword "lazy") : SpellsPreference lazyMode .lazy [word]
  | unsaid : SpellsPreference lazyMode (if lazyMode then .defaultLazy else .defaultGreedy) []

theorem spellsPreference_of_quantifier {lazyMode : Bool} {preference : Quantifier}
    (accepted : quantifier lazyMode cursor = .accept preference after) :
    ∃ lexemes, SpellsPreference lazyMode preference lexemes ∧ cursor.Reads lexemes after := by
  simp only [quantifier, orElse_eq_accept_iff, seqRight_eq_accept_iff, keyword_eq_accept_iff,
    pure_eq_accept_iff] at accepted
  rcases accepted with ⟨word, _, ⟨isGreedy, reads⟩, rfl, rfl⟩ |
    ⟨-, ⟨word, _, ⟨isLazy, reads⟩, rfl, rfl⟩ | ⟨-, rfl, rfl⟩⟩
  · exact ⟨_, .greedy isGreedy, reads⟩
  · exact ⟨_, .lazy isLazy, reads⟩
  · exact ⟨_, .unsaid, Cursor.reads_nil_iff.mpr rfl⟩

theorem quantifier_of_spellsPreference {lazyMode : Bool} {preference : Quantifier}
    {lexemes : List Lexeme} (spells : SpellsPreference lazyMode preference lexemes)
    (reads : cursor.Reads lexemes after) (complete : roleOf after.rest ≠ .modifier) :
    quantifier lazyMode cursor = .accept preference after := by
  have declines {word : String} {value : Quantifier}
      (other : ∀ lexeme ∈ cursor.rest.head?, ¬lexeme.IsKeyword word) :
      (keyword word *> pure value : Parser Quantifier) cursor = .decline :=
    seqRight_eq_decline (keyword_eq_decline_iff.mpr other)
  simp only [quantifier, orElse_eq_accept_iff]
  cases spells with
  | greedy isGreedy =>
    exact .inl (seqRight_eq_accept_iff.mpr ⟨_, _, keyword_eq_accept_iff.mpr ⟨isGreedy, reads⟩, rfl⟩)
  | lazy isLazy =>
    refine .inr ⟨declines ?_, .inl (seqRight_eq_accept_iff.mpr
      ⟨_, _, keyword_eq_accept_iff.mpr ⟨isLazy, reads⟩, rfl⟩)⟩
    simp [reads.rest, Lexeme.IsKeyword, isLazy.2]
  | unsaid =>
    rw [Cursor.reads_nil_iff] at reads
    subst reads
    have other (word : String) (isModifier : Role.ofWord word = .modifier) :
        ∀ lexeme ∈ after.rest.head?, ¬lexeme.IsKeyword word := by
      intro lexeme first isWord
      obtain ⟨rest, split⟩ := List.head?_eq_some_iff.mp first
      apply complete
      simp [split, Lexeme.role, isWord.1, isWord.2, isModifier]
    exact .inr ⟨declines (other "greedy" rfl), .inr ⟨declines (other "lazy" rfl), rfl⟩⟩

theorem repetition_eq_accept {lazyMode : Bool} {bounds : Bounds} {preference : Quantifier}
    {first second : List Lexeme} (spellsBounds : SpellsBounds bounds first)
    (spellsPreference : SpellsPreference lazyMode preference second)
    (reads : cursor.Reads (first ++ second) after)
    (complete : roleOf after.rest ≠ .modifier ∧ roleOf after.rest ≠ .repetition) :
    repetition lazyMode cursor =
      .accept (bounds, preference, cursor.span.join after.previous) after := by
  obtain ⟨between, readsBounds, readsPreference⟩ := Cursor.reads_append_iff.mp reads
  simp only [repetition, here_bind_apply, previous_bind_apply, bind_eq_accept_iff]
  refine ⟨bounds, between, repetitionBounds_eq_accept_iff.mpr ⟨_, spellsBounds, readsBounds⟩,
    preference, after, quantifier_of_spellsPreference spellsPreference readsPreference complete.1,
    none, after, ?_, rfl⟩
  rw [optional_eq_accept_none_iff]
  exact ⟨repetitionBounds_eq_decline_iff.mpr complete.2, rfl⟩

theorem spells_of_repetition {lazyMode : Bool} {bounds : Bounds} {preference : Quantifier}
    {span : Span} (accepted : repetition lazyMode cursor = .accept (bounds, preference, span) after) :
    ∃ first second, SpellsBounds bounds first ∧ SpellsPreference lazyMode preference second ∧
      cursor.Reads (first ++ second) after ∧ span = cursor.span.join after.previous ∧
      roleOf after.rest ≠ .repetition := by
  simp only [repetition, here_bind_apply, previous_bind_apply, bind_eq_accept_iff,
    repetitionBounds_eq_accept_iff] at accepted
  obtain ⟨found, between, ⟨first, spellsBounds, readsBounds⟩, said, final, quantified, second, _,
    noSecond, result⟩ := accepted
  obtain ⟨last, spellsPreference, readsPreference⟩ := spellsPreference_of_quantifier quantified
  cases second with
  | some second => simp at result
  | none =>
    rw [optional_eq_accept_none_iff, repetitionBounds_eq_decline_iff] at noSecond
    rcases noSecond with ⟨notRepeated, rfl⟩
    simp only [pure_eq_accept_iff, Prod.mk.injEq] at result
    rcases result with ⟨⟨rfl, rfl, rfl⟩, rfl⟩
    exact ⟨_, _, spellsBounds, spellsPreference, readsBounds.trans readsPreference, rfl,
      notRepeated⟩

theorem repetition_eq_decline_iff {lazyMode : Bool} :
    repetition lazyMode cursor = .decline ↔ roleOf cursor.rest ≠ .repetition := by
  rw [repetition, here_bind_apply, bind_eq_decline_iff_of_commits, repetitionBounds_eq_decline_iff]
  intro bounds
  refine (Commits.orElse (Commits.orElse (commits_pure _))).bind fun preference =>
    commits_previous.bind fun stop => commits_here.bind fun secondStart =>
      (commits_optional _).bind fun second => ?_
  cases second with
  | none => exact commits_pure _
  | some second => exact commits_previous.bind fun _ => commits_fail _

end PatternSyntax.Grammar
