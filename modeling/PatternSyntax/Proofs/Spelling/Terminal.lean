import PatternSyntax.Grammar.Terminal
import PatternSyntax.Proofs.Reading

/-!
# Lexemes as parts of a spelling

What a single lexeme can stand for, and which part a lexeme plays for the
expression around it. The grammar looks one lexeme ahead: whether a production
goes on is decided by the role of the next lexeme alone.
-/

namespace PatternSyntax

namespace Lexeme

/-- The lexeme is the given reserved name. -/
def IsKeyword (lexeme : Lexeme) (word : String) : Prop :=
  lexeme.kind = .reservedName ∧ lexeme.text = word

/-- The lexeme is the given name, which is not reserved. -/
def IsName (lexeme : Lexeme) (word : String) : Prop :=
  lexeme.kind = .identifier ∧ lexeme.text = word

/-- The quoted text that the lexeme stands for. -/
def literal (lexeme : Lexeme) : Literal :=
  ⟨String.ofList (Text.Quoted.decode lexeme.text.toList), lexeme.span⟩

end Lexeme

/-- The part that a lexeme plays for what stands before it. -/
inductive Role where
  /-- It begins a term. -/
  | term
  /-- It begins the bounds of a repetition. -/
  | repetition
  /-- It says more about a repetition or a number range. -/
  | modifier
  | bar
  | ampersand
  /-- It begins a statement. -/
  | statement
  /-- It goes on with no expression. -/
  | other
deriving DecidableEq

/-- The part that a reserved name plays. -/
def Role.ofWord (word : String) : Role :=
  if word = "atomic" ∨ word = "range" ∨ word = "regex" ∨ word = "recursion" then .term
  else if word = "greedy" ∨ word = "lazy" ∨ word = "base" then .modifier
  else if word = "enable" ∨ word = "disable" ∨ word = "let" ∨ word = "test" then .statement
  else .other

theorem Role.ofWord_ne_repetition (word : String) : Role.ofWord word ≠ .repetition := by
  unfold Role.ofWord
  repeat' split
  all_goals simp

/-- The part that the lexeme plays. -/
def Lexeme.role (lexeme : Lexeme) : Role :=
  match lexeme.kind with
  | .caret | .dollar | .percent | .angleLeft | .angleRight | .lookAhead | .lookBehind | .bang
  | .colon | .openParen | .openBracket | .dot | .doubleColon | .string | .codePoint
  | .identifier => .term
  | .star | .plus | .questionMark | .openBrace => .repetition
  | .pipe => .bar
  | .ampersand => .ampersand
  | .reservedName => .ofWord lexeme.text
  | _ => .other

theorem Lexeme.role_eq_bar_iff {lexeme : Lexeme} : lexeme.role = .bar ↔ lexeme.kind = .pipe := by
  rcases lexeme with ⟨kind, text, span⟩
  cases kind with
  | reservedName =>
    simp only [Lexeme.role, Role.ofWord]
    repeat' split
    all_goals simp
  | _ => simp [Lexeme.role]

theorem Lexeme.role_eq_ampersand_iff {lexeme : Lexeme} :
    lexeme.role = .ampersand ↔ lexeme.kind = .ampersand := by
  rcases lexeme with ⟨kind, text, span⟩
  cases kind with
  | reservedName =>
    simp only [Lexeme.role, Role.ofWord]
    repeat' split
    all_goals simp
  | _ => simp [Lexeme.role]

theorem Lexeme.role_eq_statement_iff {lexeme : Lexeme} :
    lexeme.role = .statement ↔ lexeme.IsKeyword "enable" ∨ lexeme.IsKeyword "disable" ∨
      lexeme.IsKeyword "let" ∨ lexeme.IsKeyword "test" := by
  rcases lexeme with ⟨kind, text, span⟩
  cases kind with
  | reservedName =>
    simp only [Lexeme.role, Role.ofWord, Lexeme.IsKeyword, true_and]
    constructor
    · intro isStatement
      repeat' split at isStatement
      all_goals simp_all
    · rintro (rfl | rfl | rfl | rfl) <;> simp
  | _ => simp [Lexeme.role, Lexeme.IsKeyword]

/-- The part that the first lexeme plays. The end of the source goes on with
nothing. -/
def roleOf : List Lexeme → Role
  | [] => .other
  | lexeme :: _ => lexeme.role

@[simp]
theorem roleOf_nil : roleOf [] = .other :=
  rfl

@[simp]
theorem roleOf_cons (lexeme : Lexeme) (lexemes : List Lexeme) :
    roleOf (lexeme :: lexemes) = lexeme.role :=
  rfl

theorem roleOf_ne_iff {lexemes : List Lexeme} {role : Role} (decisive : role ≠ .other) :
    roleOf lexemes ≠ role ↔ ∀ lexeme ∈ lexemes.head?, lexeme.role ≠ role := by
  cases lexemes with
  | nil => simp [decisive.symm]
  | cons lexeme lexemes => simp

theorem roleOf_append_of_ne_nil {first : List Lexeme} (second : List Lexeme)
    (nonempty : first ≠ []) : roleOf (first ++ second) = roleOf first := by
  cases first with
  | nil => exact absurd rfl nonempty
  | cons lexeme first => rfl

theorem Cursor.Reads.roleOf_eq {before after : Cursor} {lexeme : Lexeme} {lexemes : List Lexeme}
    (reads : before.Reads (lexeme :: lexemes) after) : roleOf before.rest = lexeme.role := by
  rw [reads.rest]
  rfl

theorem ne_nil_of_roleOf_mem {lexemes : List Lexeme} {roles : List Role}
    (decisive : Role.other ∉ roles) (begins : roleOf lexemes ∈ roles) : lexemes ≠ [] := by
  rintro rfl
  exact decisive begins

theorem ne_nil_of_roleOf {lexemes : List Lexeme} {role : Role} (decisive : role ≠ .other)
    (begins : roleOf lexemes = role) : lexemes ≠ [] := by
  rintro rfl
  exact decisive begins.symm

theorem Cursor.Reads.roleOf_eq_of_decisive {before after : Cursor} {lexemes : List Lexeme}
    {role : Role} (reads : before.Reads lexemes after) (decisive : role ≠ .other)
    (begins : roleOf lexemes = role) : roleOf before.rest = role := by
  rw [reads.rest, roleOf_append_of_ne_nil _ (ne_nil_of_roleOf decisive begins), begins]

namespace Parser

variable {cursor after : Cursor}

@[simp]
theorem keyword_eq_accept_iff {word : String} {lexeme : Lexeme} :
    (keyword word) cursor = .accept lexeme after ↔
      lexeme.IsKeyword word ∧ cursor.Reads [lexeme] after :=
  acceptText_eq_accept_iff

theorem keyword_eq_decline_iff {word : String} :
    (keyword word) cursor = .decline ↔ ∀ lexeme ∈ cursor.rest.head?, ¬lexeme.IsKeyword word :=
  acceptText_eq_decline_iff

@[simp]
theorem contextual_eq_accept_iff {word : String} {lexeme : Lexeme} :
    (contextual word) cursor = .accept lexeme after ↔
      lexeme.IsName word ∧ cursor.Reads [lexeme] after :=
  acceptText_eq_accept_iff

theorem contextual_eq_decline_iff {word : String} :
    (contextual word) cursor = .decline ↔ ∀ lexeme ∈ cursor.rest.head?, ¬lexeme.IsName word :=
  acceptText_eq_decline_iff

end Parser

namespace Grammar

open PatternSyntax.Parser

variable {cursor after : Cursor}

/-! ## Terminals -/

/-- The lexeme is a number within the limit of counts. -/
def IsCount (value : Nat) (lexeme : Lexeme) : Prop :=
  lexeme.kind = .number ∧ count? lexeme.text.toList = some value

theorem IsCount.le_maxCount {value : Nat} {lexeme : Lexeme} (isCount : IsCount value lexeme) :
    value ≤ maxCount := by
  obtain ⟨-, inRange⟩ := Option.filter_eq_some_iff.mp isCount.2
  simpa using inRange

theorem number_eq_accept_iff {α : Type} {read : List Char → Option α} {value : α} :
    (number read) cursor = .accept value after ↔
      ∃ lexeme, (lexeme.kind = .number ∧ read lexeme.text.toList = some value) ∧
        cursor.Reads [lexeme] after := by
  simp only [number, bind_eq_accept_iff, accept_eq_accept_iff]
  constructor
  · rintro ⟨lexeme, between, ⟨isNumber, reads⟩, inRange⟩
    cases readable : read lexeme.text.toList with
    | some found =>
      rw [readable, pure_eq_accept_iff] at inRange
      rcases inRange with ⟨rfl, rfl⟩
      exact ⟨lexeme, ⟨isNumber, readable⟩, reads⟩
    | none =>
      rw [readable] at inRange
      exact absurd inRange fail_ne_accept
  · rintro ⟨lexeme, ⟨isNumber, readable⟩, reads⟩
    refine ⟨lexeme, after, ⟨isNumber, reads⟩, ?_⟩
    rw [readable]
    rfl

theorem number_eq_decline_iff {α : Type} {read : List Char → Option α} :
    (number read) cursor = .decline ↔ ∀ lexeme ∈ cursor.rest.head?, lexeme.kind ≠ .number := by
  rw [number, bind_eq_decline_iff_of_commits, accept_eq_decline_iff]
  intro lexeme
  split
  · exact commits_pure _
  · exact commits_fail _

@[simp]
theorem expectNumber_eq_accept_iff {α : Type} {read : List Char → Option α} {value : α} :
    (expectNumber read) cursor = .accept value after ↔
      ∃ lexeme, (lexeme.kind = .number ∧ read lexeme.text.toList = some value) ∧
        cursor.Reads [lexeme] after := by
  rw [expectNumber, orFail_eq_accept_iff, number_eq_accept_iff]

theorem literal_eq_accept_iff {text : Literal} :
    literal cursor = .accept text after ↔
      ∃ lexeme, (lexeme.kind = .string ∧ lexeme.literal = text) ∧
        cursor.Reads [lexeme] after := by
  simp only [literal, bind_eq_accept_iff, accept_eq_accept_iff, pure_eq_accept_iff]
  constructor
  · rintro ⟨lexeme, between, ⟨isString, reads⟩, same, rfl⟩
    exact ⟨lexeme, ⟨isString, same⟩, reads⟩
  · rintro ⟨lexeme, ⟨isString, same⟩, reads⟩
    exact ⟨lexeme, after, ⟨isString, reads⟩, same, rfl⟩

theorem literal_eq_decline_iff :
    literal cursor = .decline ↔ ∀ lexeme ∈ cursor.rest.head?, lexeme.kind ≠ .string := by
  rw [literal, bind_eq_decline_iff_of_commits fun _ => commits_pure _, accept_eq_decline_iff]

@[simp]
theorem expectLiteral_eq_accept_iff {text : Literal} :
    expectLiteral cursor = .accept text after ↔
      ∃ lexeme, (lexeme.kind = .string ∧ lexeme.literal = text) ∧
        cursor.Reads [lexeme] after := by
  rw [expectLiteral, orFail_eq_accept_iff, literal_eq_accept_iff]

theorem commits_expectLiteral : expectLiteral.Commits :=
  commits_orFail _ _

theorem codePoint_eq_accept_iff {c : Char} {span : Span} :
    codePoint cursor = .accept (c, span) after ↔
      ∃ lexeme, (lexeme.kind = .codePoint ∧ codePointChar? lexeme.text.toList = some c ∧
        lexeme.span = span) ∧ cursor.Reads [lexeme] after := by
  simp only [codePoint, bind_eq_accept_iff, accept_eq_accept_iff]
  constructor
  · rintro ⟨lexeme, between, ⟨isCodePoint, reads⟩, valid⟩
    cases readable : codePointChar? lexeme.text.toList with
    | some found =>
      rw [readable, pure_eq_accept_iff, Prod.mk.injEq] at valid
      rcases valid with ⟨⟨rfl, rfl⟩, rfl⟩
      exact ⟨lexeme, ⟨isCodePoint, readable, rfl⟩, reads⟩
    | none =>
      rw [readable] at valid
      exact absurd valid fail_ne_accept
  · rintro ⟨lexeme, ⟨isCodePoint, readable, rfl⟩, reads⟩
    refine ⟨lexeme, after, ⟨isCodePoint, reads⟩, ?_⟩
    rw [readable]
    rfl

theorem codePoint_eq_decline_iff :
    codePoint cursor = .decline ↔ ∀ lexeme ∈ cursor.rest.head?, lexeme.kind ≠ .codePoint := by
  rw [codePoint, bind_eq_decline_iff_of_commits, accept_eq_decline_iff]
  intro lexeme
  split
  · exact commits_pure _
  · exact commits_fail _

end Grammar

end PatternSyntax
