import PatternSyntax.Proofs.Respacing
import PatternSyntax.Proofs.Slices

/-!
# Lines one by one

A line break ends every token and every comment, and it belongs to none of them. What
stands above it and what stands below it can therefore be cut into tokens apart from each
other. A text that is not closed reaches over the line break, and so does a code point,
which may hold blanks between its letter, its sign and its digits.
-/

namespace PatternSyntax

open Recognition Text

/-- The lexemes end in the letter of a code point, or in the letter and the sign. Digits
behind them would belong to the code point. -/
def EndsInCodePoint (lexemes : List Lexeme) : Prop :=
  ∃ letter : Lexeme, letter.kind = .reservedName ∧ letter.text = "U" ∧
    ([letter] <:+ lexemes ∨ ∃ sign : Lexeme, sign.kind = .plus ∧ [letter, sign] <:+ lexemes)

theorem EndsInCodePoint.cons {lexemes : List Lexeme} (ends : EndsInCodePoint lexemes)
    (lexeme : Lexeme) : EndsInCodePoint (lexeme :: lexemes) := by
  obtain ⟨letter, isName, isLetter, last | ⟨sign, isSign, last⟩⟩ := ends
  · exact ⟨letter, isName, isLetter, .inl (last.trans (List.suffix_cons _ _))⟩
  · exact ⟨letter, isName, isLetter, .inr ⟨sign, isSign, last.trans (List.suffix_cons _ _)⟩⟩

/-! ## Moving to the right -/

/-- The span as it is behind more bytes. -/
def Span.moveRight (offset : UInt32) (span : Span) : Span :=
  ⟨span.start + offset, span.stop + offset⟩

/-- The token as it is behind more bytes. -/
def Token.moveRight (offset : UInt32) (token : Token) : Token :=
  { token with span := token.span.moveRight offset }

theorem Scans.moveRight {position : Nat} {text : List Char} {lexemes : List Lexeme}
    (scans : Scans position text lexemes) (offset : Nat) : Scans (position + offset) text
      (lexemes.map (·.mapSpan (Span.moveRight (UInt32.ofNat offset)))) := by
  induction scans with
  | done skips => exact .done skips
  | @lexeme position trivia tail rest first kind lexemes skips recognized _ inductionHypothesis =>
    have moved (start : Nat) : UInt32.ofNat start + UInt32.ofNat offset = UInt32.ofNat (start + offset) :=
      (UInt32.ofNat_add start offset).symm
    have lexeme_eq : (Lexeme.at (position + utf8Size trivia) kind (first :: tail)).mapSpan
        (Span.moveRight (UInt32.ofNat offset)) =
          .at (position + offset + utf8Size trivia) kind (first :: tail) := by
      simp only [Lexeme.mapSpan, Lexeme.at, Span.moveRight, Span.ofOffsets, moved]
      rw [Nat.add_right_comm _ _ offset, Nat.add_right_comm _ _ offset, Nat.add_right_comm _ _ offset]
    rw [List.map_cons, lexeme_eq]
    refine .lexeme skips recognized ?_
    rwa [Nat.add_right_comm position offset, Nat.add_right_comm _ offset]

/-! ## Trivia -/

theorem isBlank_lineBreak : isBlank '\n' :=
  isBlank_of_ascii (by decide)

/-- A line break ends the comment that the end of a source would have ended. -/
theorem IsLastTrivia.lineBreak {text : List Char} (isLast : IsLastTrivia text) :
    IsTrivia (text ++ ['\n']) := by
  cases isLast with
  | trivia isTrivia => exact isTrivia.append (.blank isBlank_lineBreak .nil)
  | comment isTrivia oneLine =>
    rw [List.append_assoc, List.cons_append]
    exact isTrivia.append (.comment oneLine .nil)

/-! ## Tokens above a line break -/

/-- The letter of a code point reaches over a line break only if nothing or the sign alone
stands between them. -/
theorem codePoint?_above {position : Nat} {text below : List Char} {lexemes : List Lexeme}
    (scans : Scans position text lexemes) (noCodePoint : codePoint? 'U' text = none)
    (something : lexemes ≠ []) (noSign : ∀ sign, lexemes = [sign] → sign.kind ≠ .plus) :
    codePoint? 'U' (text ++ '\n' :: below) = none := by
  have toTail (rest : List Char) : codePoint? 'U' rest = codePointTail? rest := if_pos rfl
  rw [toTail] at noCodePoint ⊢
  obtain ⟨before, text, rfl, beforeBlank, notBlank⟩ := exists_run isBlank text
  have beforeTrivia := isTrivia_of_blanks beforeBlank
  cases text with
  | nil =>
    rw [List.append_nil] at scans
    exact absurd (scans.of_isLastTrivia (.trivia beforeTrivia)) something
  | cons sign text =>
    have signNotBlank : isBlank sign = false := notBlank sign rfl
    have atSign (more : List Char) : (before ++ sign :: more).dropWhile isBlank = sign :: more :=
      dropWhile_append_eq_right beforeBlank (by simpa using signNotBlank)
    rw [codePointTail?, atSign] at noCodePoint
    rw [codePointTail?, List.append_assoc, List.cons_append, atSign]
    by_cases isSign : sign = '+'
    · subst isSign
      have noTrivia : BeginsNoTrivia '+' := ⟨signNotBlank, by decide⟩
      obtain ⟨kind, tail, more, others, rfl, recognized, rfl, scansRest⟩ :=
        scans.of_trivia beforeTrivia noTrivia
      obtain ⟨rfl, rfl⟩ := (standsAsToken_of_recognize noTrivia recognized).of_plus
      rw [List.nil_append] at noCodePoint ⊢
      obtain ⟨after, number, rfl, afterBlank, notBlank⟩ := exists_run isBlank more
      cases number with
      | nil =>
        rw [List.append_nil] at scansRest
        obtain rfl := scansRest.of_isLastTrivia (.trivia (isTrivia_of_blanks afterBlank))
        exact absurd rfl (noSign _ rfl)
      | cons digit number =>
        have atDigit (more : List Char) :
            (after ++ digit :: more).dropWhile isBlank = digit :: more :=
          dropWhile_append_eq_right afterBlank (by simpa using notBlank digit rfl)
        simp only [atDigit] at noCodePoint
        simp only [List.append_assoc, List.cons_append, atDigit]
        cases isHex : digit.isHexDigit <;> simp [isHex] at noCodePoint ⊢
    · split
      · rename_i same
        exact absurd (List.cons_eq_cons.mp same).1 isSign
      · rfl

theorem StandsAsToken.codePoint?_eq_none {more : List Char}
    (stands : StandsAsToken .reservedName ['U'] more) : codePoint? 'U' more = none := by
  cases stands with
  | lexeme _ _ noCodePoint => exact codePoint?_eq_none_iff.mpr (noCodePoint rfl rfl)

/-- A token is still one when a line break and more stand behind what follows it. -/
theorem StandsAsToken.above {kind : TokenKind} {text more below : List Char}
    (stands : StandsAsToken kind text more) (closed : kind ≠ .unclosedString)
    (noCodePoint : kind = .reservedName → text = ['U'] →
      codePoint? 'U' (more ++ '\n' :: below) = none) :
    StandsAsToken kind text (more ++ '\n' :: below) := by
  refine stands.before (fun unclosed => absurd unclosed closed) (fun c next => ?_) noCodePoint
  cases more with
  | nil =>
    cases next
    exact goesOnWith_of_isBlank isBlank_lineBreak kind
  | cons first more => exact stands.goesOnWith_eq_false c next

/-- What stands below a line break is scanned by itself. -/
theorem Scans.above {position : Nat} {text below : List Char} {lexemes others : List Lexeme}
    (scans : Scans position text lexemes)
    (closed : ∀ lexeme ∈ lexemes, lexeme.kind ≠ .unclosedString)
    (complete : ¬EndsInCodePoint lexemes)
    (scansBelow : Scans (position + utf8Size text + 1) below others) :
    Scans position (text ++ '\n' :: below) (lexemes ++ others) := by
  induction scans with
  | @done position text skips =>
    have isTrivia := (triviaLength_eq_length_iff.mp skips).lineBreak
    rw [List.append_cons, List.nil_append]
    refine .behind isTrivia ?_
    rwa [utf8Size_append, ← Nat.add_assoc]
  | @lexeme position trivia tail rest first kind lexemes skips recognized scans
      inductionHypothesis =>
    obtain ⟨isTrivia, noTrivia⟩ := triviaLength_eq_iff.mp skips
    obtain ⟨firstClosed, closed⟩ := List.forall_mem_cons.mp closed
    have stands := standsAsToken_of_recognize noTrivia recognized
    have standsAbove : StandsAsToken kind (first :: tail) (rest ++ '\n' :: below) := by
      refine stands.above firstClosed fun isName isLetter => ?_
      subst isName
      obtain ⟨rfl, rfl⟩ := List.cons_eq_cons.mp isLetter
      refine codePoint?_above scans stands.codePoint?_eq_none ?_ ?_
      · rintro rfl
        exact complete ⟨_, rfl, rfl, .inl List.suffix_rfl⟩
      · rintro sign rfl isSign
        exact complete ⟨_, rfl, rfl, .inr ⟨sign, isSign, List.suffix_rfl⟩⟩
    have scansRest := inductionHypothesis closed (fun ends => complete (ends.cons _)) <| by
      rwa [utf8Size_append, ← List.cons_append, utf8Size_append, ← Nat.add_assoc,
        ← Nat.add_assoc] at scansBelow
    obtain ⟨_, _, same, -, recognizedAbove⟩ := standsAbove.recognize_eq
    obtain ⟨rfl, rfl⟩ := List.cons_eq_cons.mp same
    rw [List.append_assoc, List.cons_append, List.append_assoc]
    exact .lexeme (triviaLength_eq_iff.mpr ⟨isTrivia, noTrivia⟩) recognizedAbove scansRest

/-! ## Sources -/

/-- The lexeme without its text. -/
def Lexeme.token (lexeme : Lexeme) : Token :=
  ⟨lexeme.kind, lexeme.span⟩

theorem Scans.tokenize_eq {source : String} {lexemes : List Lexeme}
    (short : utf8Size source.toList < 2 ^ 32) (scans : Scans 0 source.toList lexemes) :
    tokenize source = lexemes.map Lexeme.token := by
  rw [← (scans_tokenize short).unique scans, List.map_map]
  exact (List.map_id _).symm

/-- The tokens above a line break and the ones below it are those of either part, unless a
text is not closed above the line break or a code point is not complete. -/
theorem tokenize_lines {above below : String}
    (short : utf8Size (above ++ "\n" ++ below).toList < 2 ^ 32)
    (closed : ∀ token ∈ tokenize above, token.kind ≠ .unclosedString)
    (complete : ¬EndsInCodePoint (lexemesOf above)) :
    tokenize (above ++ "\n" ++ below) = tokenize above ++
      (tokenize below).map (Token.moveRight (UInt32.ofNat (utf8Size above.toList + 1))) := by
  have whole : (above ++ "\n" ++ below).toList = above.toList ++ '\n' :: below.toList := by simp
  have size_eq := congrArg utf8Size whole
  rw [utf8Size_append, utf8Size_cons] at size_eq
  have scansAbove := @scans_tokenize above (by omega)
  have scansBelow := (@scans_tokenize below (by omega)).moveRight (utf8Size above.toList + 1)
  have lexemesClosed : ∀ lexeme ∈ lexemesOf above, lexeme.kind ≠ .unclosedString := by
    simpa [lexemesOf] using closed
  rw [Nat.zero_add] at scansBelow
  have scans := scansAbove.above lexemesClosed complete (by rwa [Nat.zero_add])
  rw [← whole] at scans
  rw [scans.tokenize_eq short, List.map_append, List.map_map, List.map_map, List.map_map]
  exact congrArg (· ++ _) (List.map_id _)

set_option maxRecDepth 4000 in
/-- Texts reach over line breaks on both sides, and a comment ends where a code point seems to
go on. -/
theorem tokenize_lines_of_comment :
    (∀ token ∈ tokenize "U +é'\n'#U+", token.kind ≠ .unclosedString) ∧
      ¬EndsInCodePoint (lexemesOf "U +é'\n'#U+") ∧
      tokenize ("U +é'\n'#U+" ++ "\n" ++ "4f\"\n\"") =
      [⟨.reservedName, ⟨0, 1⟩⟩, ⟨.plus, ⟨2, 3⟩⟩, ⟨.identifier, ⟨3, 5⟩⟩, ⟨.string, ⟨5, 8⟩⟩,
        ⟨.number, ⟨12, 13⟩⟩, ⟨.identifier, ⟨13, 14⟩⟩, ⟨.string, ⟨14, 17⟩⟩] := by
  have above_eq : tokenize "U +é'\n'#U+" = [⟨.reservedName, ⟨0, 1⟩⟩, ⟨.plus, ⟨2, 3⟩⟩,
      ⟨.identifier, ⟨3, 5⟩⟩, ⟨.string, ⟨5, 8⟩⟩] := by cbv
  have below_eq : tokenize "4f\"\n\"" =
      [⟨.number, ⟨0, 1⟩⟩, ⟨.identifier, ⟨1, 2⟩⟩, ⟨.string, ⟨2, 5⟩⟩] := by cbv
  have closed : ∀ token ∈ tokenize "U +é'\n'#U+", token.kind ≠ .unclosedString := by
    rw [above_eq]
    decide
  have complete : ¬EndsInCodePoint (lexemesOf "U +é'\n'#U+") := by
    rintro ⟨letter, isName, -, ends⟩
    have isLast : letter = Token.lexeme ⟨.string, ⟨5, 8⟩⟩ "U +é'\n'#U+" := by
      simpa [lexemesOf, above_eq, List.suffix_cons_iff] using ends
    rw [isLast] at isName
    cases isName
  have lines_eq := @tokenize_lines "U +é'\n'#U+" "4f\"\n\"" (by decide) closed complete
  rw [above_eq, below_eq] at lines_eq
  exact ⟨closed, complete, lines_eq⟩

end PatternSyntax
