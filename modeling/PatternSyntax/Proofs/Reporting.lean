import PatternSyntax.Proofs.LevelCost

/-!
# What is given and what is reported

Where a parser meets certain lexemes it may give a value or report one of them, whatever stands
before and behind. How parsers are composed says where the lexeme that is reported may stand:
behind lexemes that other parts have read, and where the alternatives before it decline.
-/

namespace PatternSyntax

open Grammar
open PatternSyntax.Parser

namespace Parser

variable {α β : Type}

/-- Wherever the lexemes stand, the parser reads them and gives the value. -/
def Gives (parser : Parser α) (lexemes : List Lexeme) (value : α) : Prop :=
  ∀ cursor after, cursor.Reads lexemes after → parser cursor = .accept value after

/-- Whatever follows the lexemes, the parser comes to the last of them and reports it. -/
def Reports (parser : Parser α) (front : List Lexeme) (last : Lexeme) (fault : Fault) : Prop :=
  ∀ cursor after, cursor.Reads (front ++ [last]) after →
    parser cursor = .fail (.ofFault fault last.span)

theorem gives_accept {lexeme : Lexeme} {kind : TokenKind} (isKind : lexeme.kind = kind) :
    (accept kind).Gives [lexeme] lexeme :=
  fun _ _ reads => accept_eq_accept_iff.mpr ⟨isKind, reads⟩

theorem gives_expect {lexeme : Lexeme} {kind : TokenKind} (isKind : lexeme.kind = kind) :
    (expect kind).Gives [lexeme] lexeme :=
  fun _ _ reads => expect_eq_accept_iff.mpr ⟨isKind, reads⟩

theorem gives_keyword {lexeme : Lexeme} {word : String} (isWord : lexeme.IsKeyword word) :
    (keyword word).Gives [lexeme] lexeme :=
  fun _ _ reads => keyword_eq_accept_iff.mpr ⟨isWord, reads⟩

theorem Gives.optional {parser : Parser α} {lexemes : List Lexeme} {value : α}
    (gives : parser.Gives lexemes value) : (optional parser).Gives lexemes (some value) :=
  fun _ _ reads => optional_eq_accept_some_iff.mpr (gives _ _ reads)

namespace Reports

variable {front : List Lexeme} {last : Lexeme} {fault : Fault}

theorem number {read : List Char → Option α} (isNumber : last.kind = .number)
    (unreadable : read last.text.toList = none) :
    (Grammar.number read).Reports [] last .numberTooLarge := by
  intro cursor after reads
  refine bind_eq_fail_of_accept (accept_eq_accept_iff.mpr ⟨isNumber, reads⟩) ?_
  rw [unreadable]
  rfl

/-- What is reported first is reported. -/
theorem bind {first : Parser β} (reports : first.Reports front last fault)
    (next : β → Parser α) : (first >>= next).Reports front last fault :=
  fun _ _ reads => bind_eq_fail_iff.mpr (.inl (reports _ _ reads))

/-- What is read before belongs to what stands in front. -/
theorem behind {first : Parser β} {next : β → Parser α} {value : β} {lexeme : Lexeme}
    (gives : first.Gives [lexeme] value) (reports : (next value).Reports front last fault) :
    (first >>= next).Reports (lexeme :: front) last fault := by
  intro cursor after reads
  obtain ⟨between, readsLexeme, readsRest⟩ := Cursor.reads_cons_iff.mp reads
  exact bind_eq_fail_of_accept (gives _ _ readsLexeme) (reports _ _ readsRest)

theorem here {next : Span → Parser α} (reports : ∀ span, (next span).Reports front last fault) :
    (Parser.here >>= next).Reports front last fault :=
  fun cursor _ reads => reports cursor.span cursor _ reads

theorem optional {parser : Parser α} (reports : parser.Reports front last fault) :
    (optional parser).Reports front last fault :=
  fun _ _ reads => optional_eq_fail_iff.mpr (reports _ _ reads)

theorem orElse {first : Parser α} (reports : first.Reports front last fault)
    (second : Parser α) : (first <|> second).Reports front last fault :=
  fun _ _ reads => orElse_eq_fail_iff.mpr (.inl (reports _ _ reads))

/-- An option that is not taken does not matter. -/
theorem absent {first : Parser β} {next : Option β → Parser α}
    (declines : ∀ cursor after, cursor.Reads (front ++ [last]) after → first cursor = .decline)
    (reports : (next none).Reports front last fault) :
    (Parser.optional first >>= next).Reports front last fault := by
  intro cursor after reads
  have absent := optional_eq_accept_none_iff.mpr ⟨declines _ _ reads, rfl⟩
  exact bind_eq_fail_of_accept absent (reports _ _ reads)

/-- An alternative that begins with another lexeme does not matter. -/
theorem otherwise {kind : TokenKind} {next : Lexeme → Parser α} {second : Parser α}
    (reports : second.Reports front last fault)
    (other : ∀ lexeme ∈ (front ++ [last]).head?, lexeme.kind ≠ kind) :
    ((accept kind >>= next) <|> second).Reports front last fault := by
  intro cursor after reads
  refine orElse_eq_fail_iff.mpr (.inr ⟨bind_eq_decline (accept_eq_decline_iff.mpr ?_),
    reports _ _ reads⟩)
  rw [reads.rest]
  cases front <;> simpa using other

end Reports

end Parser

end PatternSyntax
