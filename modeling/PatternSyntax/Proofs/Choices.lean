import PatternSyntax.Proofs.Operators

/-!
# Optional parts as choices

An optional part that decides how reading goes on is a choice between what follows
the part and what stands in its place. Once the part has been read there is no way
back, so both forms accept, decline and fail together. The operators of the grammar
are choices in this sense: between a leading bar and a first alternative, between
statements and what has none.
-/

namespace PatternSyntax

namespace Parser

variable {α β γ : Type}

/-- Go on in one of two ways, depending on whether the first parser accepts or declines.
Sequencing, choice and optional parts are all special cases of this. -/
def either (first : Parser α) (next : α → Parser β) (otherwise : Parser β) : Parser β :=
  fun cursor =>
    match first cursor with
    | .accept value after => next value after
    | .decline => otherwise cursor
    | .fail diagnostic => .fail diagnostic

theorem optional_bind_eq_either (parser : Parser α) (next : Option α → Parser β) :
    (optional parser >>= next) = either parser (fun value => next (some value)) (next none) := by
  funext cursor
  simp only [bind_apply, either, optional]
  cases parser cursor <;> rfl

/-- Once the first part has been read there is no way back. -/
theorem bind_orElse_eq_either {first : Parser α} {next : α → Parser β} {second : Parser β}
    (commits : ∀ value, (next value).Commits) :
    ((first >>= next) <|> second) = either first next second := by
  funext cursor
  simp only [orElse_apply, bind_apply, either]
  cases first cursor with
  | decline => rfl
  | fail diagnostic => rfl
  | accept value after =>
    dsimp only
    cases result : next value after with
    | decline => exact absurd result (commits value after)
    | accept value after => rfl
    | fail diagnostic => rfl

/-- Going on after an optional part is a choice, if what follows the part never
declines. -/
theorem optional_bind_eq_orElse {parser : Parser α} {next : Option α → Parser β}
    (commits : ∀ value, (next (some value)).Commits) :
    (optional parser >>= next) = ((parser >>= fun value => next (some value)) <|> next none) :=
  (optional_bind_eq_either parser next).trans (bind_orElse_eq_either commits).symm

theorem orElse_bind_eq_either {head : Parser α} {tail : α → Parser β} {value : β}
    {next : β → Parser γ} (commits : ∀ found, (tail found >>= next).Commits) :
    (((head >>= tail) <|> pure value) >>= next) =
      either head (fun found => tail found >>= next) (next value) := by
  funext cursor
  simp only [bind_apply, orElse_apply, either]
  cases head cursor with
  | decline => rfl
  | fail diagnostic => rfl
  | accept found after =>
    dsimp only
    cases result : tail found after with
    | decline => exact absurd (bind_eq_decline result) (commits found after)
    | accept value after => rfl
    | fail diagnostic => rfl

/-- Items are read one after the other until there is none. -/
theorem many_eq_choice {item : Parser α} (progresses : item.Progresses) :
    many item = ((do
      let value ← item
      let values ← many item
      return value :: values) <|> pure []) := by
  funext cursor
  rw [many, orElse_apply, bind_apply]
  cases found : item cursor with
  | decline => rfl
  | fail diagnostic => rfl
  | accept value after =>
    dsimp only
    rw [if_pos (progresses _ _ _ found), bind_apply]
    cases rest : (many item) after with
    | decline => exact absurd rest (many_ne_decline progresses)
    | accept values final => rfl
    | fail diagnostic => rfl

theorem many_eq_either {item : Parser α} (progresses : item.Progresses) :
    many item = either item (fun value => many item >>= fun values => pure (value :: values))
      (pure []) :=
  (many_eq_choice progresses).trans
    (bind_orElse_eq_either fun _ => (commits_many progresses).bind fun _ => commits_pure _)

/-- After every item there is a separator and the rest of the list, or the list ends. -/
theorem sepEndBy_eq_either {item : Parser α} {separator : Parser β}
    (progresses : (item <* separator).Progresses) : sepEndBy item separator =
      either item (fun value => either separator
        (fun _ => sepEndBy item separator >>= fun values => pure (value :: values))
        (pure [value])) (pure []) := by
  have listed : sepEndBy item separator = many (item <* separator) >>= fun separated =>
      optional item >>= fun last => pure (separated ++ last.toList) := rfl
  have separated : (item <* separator) =
      item >>= fun value => separator >>= fun _ => pure value := rfl
  funext cursor
  conv => lhs; rw [listed, many_eq_either progresses]
  simp only [bind_apply, either, separated]
  cases item_eq : item cursor with
  | decline => simp only [pure_apply, optional, item_eq]; rfl
  | fail diagnostic => rfl
  | accept value after =>
    dsimp only
    cases separator after with
    | decline => simp only [pure_apply, optional, item_eq]; rfl
    | fail diagnostic => rfl
    | accept _ between =>
      rw [listed, ← separated]
      simp only [bind_apply, pure_apply]
      cases rest : many (item <* separator) between with
      | decline => exact absurd rest (many_ne_decline progresses)
      | fail diagnostic => rfl
      | accept values final =>
        dsimp only
        cases optional item final <;> rfl

end Parser

namespace Grammar

open PatternSyntax.Parser

variable {operand : Parser Pattern}

theorem alternatives_eq_choice : alternatives operand = do
    let start ← here
    let first ← nextAlternative operand <|> operand
    let more ← many (nextAlternative operand)
    return .alternationOf start first more := by
  have leading : (optional (accept .pipe) >>=
      firstOperand (alternativeAfter · operand) operand) = (nextAlternative operand <|> operand) :=
    optional_bind_eq_orElse fun bar => commits_alternativeAfter bar
  rw [alternatives_eq, ← leading]
  simp only [bind_assoc]

theorem intersection_eq_choice : intersection operand = do
    let start ← here
    let first ← nextOperand operand <|> operand
    let more ← many (nextOperand operand)
    let stop ← previous
    return .intersectionOf (start.join stop) first more := by
  have leading : (optional (accept .ampersand) >>=
      firstOperand (fun _ => operandOf operand) operand) = (nextOperand operand <|> operand) :=
    optional_bind_eq_orElse fun _ => commits_operandOf
  rw [intersection_eq, ← leading]
  simp only [bind_assoc]

/-- Read what stands after a first exclamation mark. -/
def afterBang (levels : Nat) (modes : Modes) (start : Span) (bang : Lexeme) : Parser Pattern :=
  match levels with
  | 0 => fail (.ofFault .tooDeep bang.span)
  | levels + 1 => do
    let counted ← bangs levels (start.join bang.span)
    let body ← operandOf (lookaroundOrAtom (levels - counted.1) modes)
    return negate counted.2 (counted.1 + 1) body

theorem negation_eq_either (levels : Nat) (modes : Modes) : negation levels modes =
    here >>= fun start => either (accept .bang) (afterBang levels modes start)
      (lookaroundOrAtom levels modes) := by
  rw [negation]
  refine bind_congr fun start => ?_
  cases levels with
  | zero =>
    rw [bangs, orElse_bind_eq_either fun _ => ?_]
    · simp only [if_true, negate, bind_pure]
      rfl
    · exact fun cursor => @fail_ne_decline _ cursor _
  | succ levels =>
    rw [bangs, orElse_bind_eq_either fun _ => ?_]
    · simp only [if_true, negate, bind_pure, bind_assoc, pure_bind, Nat.sub_zero,
        Nat.add_sub_add_right, if_neg (Nat.succ_ne_zero _)]
      rfl
    · simp only [bind_assoc, pure_bind, if_neg (Nat.succ_ne_zero _)]
      exact (commits_bangs _ _).bind fun _ => commits_operandOf.bind fun _ => commits_pure _

theorem commits_repeated (lazyMode : Bool) (body : Pattern) : (repeated lazyMode body).Commits := by
  refine (commits_optional _).bind fun found => ?_
  cases found <;> exact commits_pure _

/-- Read what a statement applies to. It takes one level. -/
def underStatement (levels : Nat) (modes : Modes) (stated : Statement × Span) :
    Parser (Pattern × Span) :=
  match levels with
  | 0 => fail (.ofFault .tooDeep stated.2)
  | levels + 1 => do
    let (body, bodySpan) ← scope levels (stated.1.modes modes)
    return (stated.1.scope body (stated.2.join bodySpan), bodySpan)

theorem commits_underStatement (levels : Nat) (modes : Modes) (stated : Statement × Span) :
    (underStatement levels modes stated).Commits := by
  cases levels with
  | zero => exact commits_fail _
  | succ levels => exact (commits_scope _ _).bind fun _ => commits_pure _

theorem scope_eq (levels : Nat) (modes : Modes) : scope levels modes =
    ((statement (bare levels modes) >>= underStatement levels modes) <|> do
      let body ← bare levels modes
      return (body, body.span)) := by
  have unfolded : scope levels modes = optional (statement (bare levels modes)) >>= fun
      | some stated => underStatement levels modes stated
      | none => do
        let body ← bare levels modes
        return (body, body.span) := by
    rw [scope]
    refine bind_congr fun found => ?_
    cases found with
    | none => rfl
    | some stated => cases levels <;> rfl
  rw [unfolded]
  exact optional_bind_eq_orElse fun stated => commits_underStatement levels modes stated

end Grammar

end PatternSyntax
