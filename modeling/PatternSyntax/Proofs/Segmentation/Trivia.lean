import PatternSyntax.Proofs.Scanning

/-!
# What stands between tokens

Trivia are blanks and comments up to the end of their lines, said of a text alone. How
many characters are skipped before a token is how far they reach.
-/

namespace PatternSyntax

open Recognition Text

/-- Blanks, and comments that run from `#` through the end of the line. -/
inductive IsTrivia : List Char → Prop
  | nil : IsTrivia []
  | blank {c : Char} {rest : List Char} (blank : isBlank c) (trivia : IsTrivia rest) :
      IsTrivia (c :: rest)
  | comment {body rest : List Char} (oneLine : '\n' ∉ body) (trivia : IsTrivia rest) :
      IsTrivia ('#' :: (body ++ '\n' :: rest))

/-- Trivia at the end of a source, where a comment needs no end of its line. -/
inductive IsLastTrivia : List Char → Prop
  | trivia {text : List Char} (trivia : IsTrivia text) : IsLastTrivia text
  | comment {text body : List Char} (trivia : IsTrivia text) (oneLine : '\n' ∉ body) :
      IsLastTrivia (text ++ '#' :: body)

/-- The character begins neither a blank nor a comment. -/
def BeginsNoTrivia (c : Char) : Prop :=
  isBlank c = false ∧ c ≠ '#'

/-! ## How far trivia reach -/

theorem commentLength_of_not_mem {body : List Char} (oneLine : '\n' ∉ body) :
    commentLength body = body.length := by
  induction body with
  | nil => rfl
  | cons c body inductionHypothesis =>
    rw [List.mem_cons, not_or] at oneLine
    rw [commentLength, if_neg (Ne.symm oneLine.1), inductionHypothesis oneLine.2, List.length_cons]

theorem commentLength_append {body : List Char} (oneLine : '\n' ∉ body) (rest : List Char) :
    commentLength (body ++ '\n' :: rest) = body.length + 1 + triviaLength rest := by
  induction body with
  | nil => rw [List.nil_append, commentLength, if_pos rfl, List.length_nil]; omega
  | cons c body inductionHypothesis =>
    rw [List.mem_cons, not_or] at oneLine
    rw [List.cons_append, commentLength, if_neg (Ne.symm oneLine.1), inductionHypothesis oneLine.2,
      List.length_cons]
    omega

theorem triviaLength_hash (rest : List Char) :
    triviaLength ('#' :: rest) = commentLength rest + 1 := by
  have noBlank : isBlank '#' = false := isBlank_of_ascii (by decide)
  rw [triviaLength, if_neg (by simp [noBlank]), if_pos rfl]

theorem IsTrivia.triviaLength_append {trivia : List Char} (isTrivia : IsTrivia trivia)
    (rest : List Char) : triviaLength (trivia ++ rest) = trivia.length + triviaLength rest := by
  induction isTrivia with
  | nil => rw [List.nil_append, List.length_nil, Nat.zero_add]
  | blank blank _ inductionHypothesis =>
    rw [List.cons_append, triviaLength, if_pos blank, inductionHypothesis, List.length_cons]
    omega
  | comment oneLine _ inductionHypothesis =>
    simp only [List.cons_append, List.append_assoc, List.length_cons, List.length_append]
    rw [triviaLength_hash, commentLength_append oneLine, inductionHypothesis]
    omega

theorem triviaLength_of_beginsNoTrivia {first : Char} (noTrivia : BeginsNoTrivia first)
    (rest : List Char) : triviaLength (first :: rest) = 0 :=
  triviaLength_cons_eq_zero_iff.mpr noTrivia

theorem IsLastTrivia.triviaLength_eq {text : List Char} (isLast : IsLastTrivia text) :
    triviaLength text = text.length := by
  cases isLast with
  | trivia isTrivia =>
    have reach := isTrivia.triviaLength_append []
    rwa [List.append_nil] at reach
  | comment isTrivia oneLine =>
    rw [isTrivia.triviaLength_append, triviaLength_hash, commentLength_of_not_mem oneLine,
      List.length_append, List.length_cons]

theorem IsLastTrivia.blank {c : Char} {rest : List Char} (blank : isBlank c)
    (isLast : IsLastTrivia rest) : IsLastTrivia (c :: rest) := by
  cases isLast with
  | trivia isTrivia => exact .trivia (.blank blank isTrivia)
  | comment isTrivia oneLine => exact .comment (.blank blank isTrivia) oneLine

theorem IsLastTrivia.comment_append {body rest : List Char} (oneLine : '\n' ∉ body)
    (isLast : IsLastTrivia rest) : IsLastTrivia ('#' :: (body ++ '\n' :: rest)) := by
  cases isLast with
  | trivia isTrivia => exact .trivia (.comment oneLine isTrivia)
  | @comment text lastBody isTrivia lastOneLine =>
    have regrouped : '#' :: (body ++ '\n' :: (text ++ '#' :: lastBody)) =
        '#' :: (body ++ '\n' :: text) ++ '#' :: lastBody := by simp
    rw [regrouped]
    exact .comment (.comment oneLine isTrivia) lastOneLine

/-- Every text begins with trivia, and what comes next is the end or something else. -/
theorem exists_trivia (text : List Char) :
    IsLastTrivia text ∨ ∃ trivia first rest, text = trivia ++ first :: rest ∧ IsTrivia trivia ∧
      BeginsNoTrivia first := by
  induction size : text.length using Nat.strongRecOn generalizing text with
  | ind size inductionHypothesis =>
    subst size
    cases text with
    | nil => exact .inl (.trivia .nil)
    | cons c text =>
      cases blank : isBlank c with
      | true =>
        obtain isLast | ⟨trivia, first, rest, rfl, isTrivia, noTrivia⟩ :=
          inductionHypothesis text.length (Nat.lt_succ_self _) text rfl
        · exact .inl (isLast.blank blank)
        · exact .inr ⟨c :: trivia, first, rest, rfl, .blank blank isTrivia, noTrivia⟩
      | false =>
        by_cases hash : c = '#'
        · subst hash
          obtain ⟨body, more, rfl, inLine, ends⟩ := exists_run (· != '\n') text
          have oneLine : '\n' ∉ body := fun member => by simpa using inLine '\n' member
          cases more with
          | nil =>
            rw [List.append_nil]
            exact .inl (@IsLastTrivia.comment [] _ .nil oneLine)
          | cons lineBreak more =>
            obtain rfl : lineBreak = '\n' := by simpa using ends lineBreak rfl
            have shorter : more.length < ('#' :: (body ++ '\n' :: more)).length := by
              simp only [List.length_cons, List.length_append]
              omega
            obtain isLast | ⟨trivia, first, rest, rfl, isTrivia, noTrivia⟩ :=
              inductionHypothesis more.length shorter more rfl
            · exact .inl (isLast.comment_append oneLine)
            · exact .inr ⟨'#' :: (body ++ '\n' :: trivia), first, rest, by simp,
                .comment oneLine isTrivia, noTrivia⟩
        · exact .inr ⟨[], c, text, rfl, .nil, blank, hash⟩

theorem triviaLength_eq_length_iff {text : List Char} :
    triviaLength text = text.length ↔ IsLastTrivia text := by
  refine ⟨fun reach => ?_, IsLastTrivia.triviaLength_eq⟩
  obtain isLast | ⟨trivia, first, rest, rfl, isTrivia, noTrivia⟩ := exists_trivia text
  · exact isLast
  · rw [isTrivia.triviaLength_append, triviaLength_of_beginsNoTrivia noTrivia,
      List.length_append, List.length_cons] at reach
    omega

theorem triviaLength_eq_iff {trivia rest : List Char} {first : Char} :
    triviaLength (trivia ++ first :: rest) = trivia.length ↔
      IsTrivia trivia ∧ BeginsNoTrivia first := by
  constructor
  · intro reach
    obtain isLast | ⟨others, next, more, same, isTrivia, noTrivia⟩ :=
      exists_trivia (trivia ++ first :: rest)
    · rw [isLast.triviaLength_eq, List.length_append, List.length_cons] at reach
      omega
    · rw [same, isTrivia.triviaLength_append, triviaLength_of_beginsNoTrivia noTrivia,
        Nat.add_zero] at reach
      obtain ⟨rfl, sameRest⟩ := List.append_inj same reach.symm
      obtain ⟨rfl, -⟩ := List.cons_eq_cons.mp sameRest
      exact ⟨isTrivia, noTrivia⟩
  · rintro ⟨isTrivia, noTrivia⟩
    rw [isTrivia.triviaLength_append, triviaLength_of_beginsNoTrivia noTrivia, Nat.add_zero]

/-! ## Trivia before other text -/

theorem IsTrivia.append {first second : List Char} (isFirst : IsTrivia first)
    (isSecond : IsTrivia second) : IsTrivia (first ++ second) := by
  induction isFirst with
  | nil => exact isSecond
  | blank blank _ inductionHypothesis => exact .blank blank inductionHypothesis
  | comment oneLine _ inductionHypothesis =>
    rw [List.cons_append, List.append_assoc, List.cons_append]
    exact .comment oneLine inductionHypothesis

theorem isTrivia_of_blanks {blanks : List Char} (areBlank : ∀ c ∈ blanks, isBlank c) :
    IsTrivia blanks := by
  induction blanks with
  | nil => exact .nil
  | cons c blanks inductionHypothesis =>
    obtain ⟨blank, areBlank⟩ := List.forall_mem_cons.mp areBlank
    exact .blank blank (inductionHypothesis areBlank)

namespace Scans

variable {position : Nat} {trivia text : List Char} {lexemes : List Lexeme}

theorem of_isLastTrivia (scans : Scans position trivia lexemes) (isLast : IsLastTrivia trivia) :
    lexemes = [] :=
  scans.unique (.done isLast.triviaLength_eq)

/-- Behind trivia the first lexeme stands where something else begins. -/
theorem of_trivia {rest : List Char} {first : Char} (isTrivia : IsTrivia trivia)
    (noTrivia : BeginsNoTrivia first) (scans : Scans position (trivia ++ first :: rest) lexemes) :
    ∃ kind tail more others, rest = tail ++ more ∧
      recognize first (tail ++ more) = (kind, tail.length) ∧
      lexemes = .at (position + utf8Size trivia) kind (first :: tail) :: others ∧
      Scans (position + utf8Size trivia + utf8Size (first :: tail)) more others := by
  have reach : triviaLength (trivia ++ first :: rest) = trivia.length :=
    triviaLength_eq_iff.mpr ⟨isTrivia, noTrivia⟩
  generalize whole : trivia ++ first :: rest = text at scans reach
  cases scans with
  | done skips =>
    rw [reach, ← whole, List.length_append, List.length_cons] at skips
    omega
  | @lexeme _ others tail more c kind lexemes skips recognized scans =>
    obtain ⟨rfl, same⟩ := List.append_inj whole (reach.symm.trans skips)
    obtain ⟨rfl, rfl⟩ := List.cons_eq_cons.mp same
    exact ⟨kind, tail, more, lexemes, rfl, recognized, rfl, scans⟩

theorem behind (isTrivia : IsTrivia trivia)
    (scans : Scans (position + utf8Size trivia) text lexemes) :
    Scans position (trivia ++ text) lexemes := by
  generalize start : position + utf8Size trivia = between at scans
  cases scans with
  | done skips =>
    exact .done (by rw [isTrivia.triviaLength_append, skips, List.length_append])
  | @lexeme _ more tail rest first kind lexemes skips recognized scans =>
    have start_eq : between + utf8Size more = position + utf8Size (trivia ++ more) := by
      rw [← start, utf8Size_append, Nat.add_assoc]
    rw [start_eq] at scans ⊢
    rw [← List.append_assoc]
    refine .lexeme ?_ recognized scans
    rw [List.append_assoc, isTrivia.triviaLength_append, skips, List.length_append]

/-- What is scanned behind trivia is what is scanned by itself. -/
theorem of_behind (isTrivia : IsTrivia trivia) (scans : Scans position (trivia ++ text) lexemes) :
    Scans (position + utf8Size trivia) text lexemes := by
  obtain isLast | ⟨more, first, rest, rfl, isMore, noTrivia⟩ := exists_trivia text
  · have done : Scans (position + utf8Size trivia) text [] := .done isLast.triviaLength_eq
    rwa [scans.unique (behind isTrivia done)]
  · rw [← List.append_assoc] at scans
    obtain ⟨kind, tail, last, others, rfl, recognized, rfl, scansLast⟩ :=
      scans.of_trivia (isTrivia.append isMore) noTrivia
    rw [utf8Size_append, ← Nat.add_assoc] at scansLast ⊢
    exact .lexeme (triviaLength_eq_iff.mpr ⟨isMore, noTrivia⟩) recognized scansLast

end Scans

end PatternSyntax
