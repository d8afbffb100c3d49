import PatternSyntax.Proofs.Moving
import PatternSyntax.Proofs.Printing.TestBlock

/-!
# Printed phrases

What is printed of a phrase spells the phrase again, in the same modes. Optional
operators before the first of several parts are not printed. Operators between the
parts have spaces on both sides, so that no word goes on with the next one.

The phrases are not built anew: the induction is on how the lexemes of the source
spell the tree, and every step of it is repeated for the lexemes that are printed.
-/

namespace PatternSyntax

open Grammar Text Piece Rewrites

/-! ## Phrases as pieces -/

namespace Statement

def pieces : Statement → List Piece
  | directive content => content.pieces
  | binding name _ bound =>
    [keyword "let", .space, identifier name, .space, operator .equals, .space] ++ bound.pieces ++
      [operator .semicolon]

/-- The statement without places. -/
def withoutSpans : Statement → Statement :=
  mapSpans Span.presence fun _ => .absent

theorem pieces_scope (statement : Statement) (body : Pattern) (span : Span) :
    (statement.scope body span).pieces = statement.pieces ++ [.space] ++ body.pieces := by
  cases statement <;> rfl

end Statement

namespace Phrase

def pieces : Phrase → List Piece
  | .expression pattern | .alternation pattern | .intersection pattern | .sequence pattern
  | .term pattern | .negation pattern | .operand pattern => pattern.pieces
  | .statement content => content.pieces
  | .moreAlternatives patterns =>
    patterns.flatMap fun pattern => [.space, operator .pipe, .space] ++ pattern.pieces
  | .moreOperands patterns =>
    patterns.flatMap fun pattern => [.space, operator .ampersand, .space] ++ pattern.pieces
  | .moreTerms patterns => patterns.flatMap fun pattern => [.space] ++ pattern.pieces

/-- The lexemes spell the phrase again, up to where its parts stand. -/
def Respelled (modes : Modes) : Phrase → List Lexeme → Prop
  | .expression pattern =>
    Respells (fun other => Spells modes (.expression other)) Pattern.withoutSpans pattern
  | .statement content =>
    Respells (fun other => Spells modes (.statement other)) Statement.withoutSpans content
  | .alternation pattern =>
    Respells (fun other => Spells modes (.alternation other)) Pattern.withoutSpans pattern
  | .moreAlternatives patterns =>
    Respells (fun others => Spells modes (.moreAlternatives others))
      (List.map Pattern.withoutSpans) patterns
  | .intersection pattern =>
    Respells (fun other => Spells modes (.intersection other)) Pattern.withoutSpans pattern
  | .moreOperands patterns =>
    Respells (fun others => Spells modes (.moreOperands others))
      (List.map Pattern.withoutSpans) patterns
  | .sequence pattern =>
    Respells (fun other => Spells modes (.sequence other)) Pattern.withoutSpans pattern
  | .moreTerms patterns =>
    Respells (fun others => Spells modes (.moreTerms others))
      (List.map Pattern.withoutSpans) patterns
  | .term pattern => Respells (fun other => Spells modes (.term other)) Pattern.withoutSpans pattern
  | .negation pattern =>
    Respells (fun other => Spells modes (.negation other)) Pattern.withoutSpans pattern
  | .operand pattern =>
    Respells (fun other => Spells modes (.operand other)) Pattern.withoutSpans pattern

end Phrase

namespace Pattern

theorem piecesOfEach_eq_map (patterns : List Pattern) : piecesOfEach patterns = patterns.map pieces := by
  induction patterns with
  | nil => rfl
  | cons pattern patterns inductionHypothesis =>
    rw [piecesOfEach, inductionHypothesis, List.map_cons]

theorem pieces_alternationOf (start : Span) (first : Pattern) (more : List Pattern) :
    (alternationOf start first more).pieces =
      first.pieces ++ (Phrase.moreAlternatives more).pieces := by
  cases more with
  | nil => exact (List.append_nil _).symm
  | cons second more =>
    rw [alternationOf_cons, pieces, piecesOfEach, separated, piecesOfEach_eq_map, List.flatMap_map]
    rfl

theorem pieces_intersectionOf (span : Span) (first : Pattern) (more : List Pattern) :
    (intersectionOf span first more).pieces = first.pieces ++ (Phrase.moreOperands more).pieces := by
  cases more with
  | nil => exact (List.append_nil _).symm
  | cons second more =>
    rw [intersectionOf_cons, pieces, piecesOfEach, separated, piecesOfEach_eq_map, List.flatMap_map]
    rfl

theorem pieces_sequenceOf (first : Pattern) (more : List Pattern) :
    (sequenceOf first more).pieces = first.pieces ++ (Phrase.moreTerms more).pieces := by
  cases more with
  | nil => exact (List.append_nil _).symm
  | cons second more =>
    rw [sequenceOf_cons, pieces, piecesOfEach, separated, piecesOfEach_eq_map, List.flatMap_map]
    rfl

theorem pieces_negate (notSpan : Span) (count : Nat) (body : Pattern) :
    (negate notSpan count body).pieces = List.replicate count (operator .bang) ++ body.pieces := by
  induction count generalizing body with
  | zero => rfl
  | succ count inductionHypothesis =>
    rw [negate, inductionHypothesis, pieces, ← List.append_assoc, List.replicate_succ']

/-! ## Phrases without places -/

variable {first other : Pattern} {more others : List Pattern}

theorem withoutSpans_sequence (members : List Pattern) (span : Span) :
    (sequence members span).withoutSpans = .sequence (members.map withoutSpans) .absent := by
  rw [withoutSpans, mapSpans, mapAllSpans_eq_map]

theorem withoutSpans_alternation (members : List Pattern) (span : Span) :
    (alternation members span).withoutSpans = .alternation (members.map withoutSpans) .absent := by
  rw [withoutSpans, mapSpans, mapAllSpans_eq_map]

theorem withoutSpans_intersection (members : List Pattern) (span : Span) :
    (intersection members span).withoutSpans = .intersection (members.map withoutSpans) .absent := by
  rw [withoutSpans, mapSpans, mapAllSpans_eq_map]

/-- Lists that are the same without places are empty together. -/
theorem nil_or_cons_of_map_eq (same : others.map withoutSpans = more.map withoutSpans) :
    (others = [] ∧ more = []) ∨
      ∃ second members next rest, others = second :: members ∧ more = next :: rest := by
  cases others with
  | nil => exact .inl ⟨rfl, List.map_eq_nil_iff.mp same.symm⟩
  | cons second members =>
    cases more with
    | nil => cases same
    | cons next rest => exact .inr ⟨second, members, next, rest, rfl, rfl⟩

theorem map_withoutSpans_cons (same : other.withoutSpans = first.withoutSpans)
    (sameMore : others.map withoutSpans = more.map withoutSpans) :
    (other :: others).map withoutSpans = (first :: more).map withoutSpans := by
  rw [List.map_cons, List.map_cons, same, sameMore]

theorem withoutSpans_alternationOf (start begin : Span)
    (same : other.withoutSpans = first.withoutSpans)
    (sameMore : others.map withoutSpans = more.map withoutSpans) :
    (alternationOf start other others).withoutSpans =
      (alternationOf begin first more).withoutSpans := by
  have sameAll := map_withoutSpans_cons same sameMore
  rcases nil_or_cons_of_map_eq sameMore with ⟨rfl, rfl⟩ | ⟨second, members, next, rest, rfl, rfl⟩
  · exact same
  · rw [alternationOf_cons, alternationOf_cons, withoutSpans_alternation, withoutSpans_alternation,
      sameAll]

theorem withoutSpans_intersectionOf (span place : Span)
    (same : other.withoutSpans = first.withoutSpans)
    (sameMore : others.map withoutSpans = more.map withoutSpans) :
    (intersectionOf span other others).withoutSpans =
      (intersectionOf place first more).withoutSpans := by
  have sameAll := map_withoutSpans_cons same sameMore
  rcases nil_or_cons_of_map_eq sameMore with ⟨rfl, rfl⟩ | ⟨second, members, next, rest, rfl, rfl⟩
  · exact same
  · rw [intersectionOf_cons, intersectionOf_cons, withoutSpans_intersection,
      withoutSpans_intersection, sameAll]

theorem withoutSpans_sequenceOf (same : other.withoutSpans = first.withoutSpans)
    (sameMore : others.map withoutSpans = more.map withoutSpans) :
    (sequenceOf other others).withoutSpans = (sequenceOf first more).withoutSpans := by
  have sameAll := map_withoutSpans_cons same sameMore
  rcases nil_or_cons_of_map_eq sameMore with ⟨rfl, rfl⟩ | ⟨second, members, next, rest, rfl, rfl⟩
  · exact same
  · rw [sequenceOf_cons, sequenceOf_cons, withoutSpans_sequence, withoutSpans_sequence, sameAll]

theorem withoutSpans_negate (notSpan place : Span) (count : Nat)
    (same : other.withoutSpans = first.withoutSpans) :
    (negate notSpan count other).withoutSpans = (negate place count first).withoutSpans := by
  induction count generalizing first other with
  | zero => exact same
  | succ count inductionHypothesis =>
    apply inductionHypothesis
    rw [withoutSpans, mapSpans, mapSpans]
    exact congrArg (negation · .absent .absent) same

end Pattern

theorem Statement.withoutSpans_scope {statement other : Statement} {body otherBody : Pattern}
    (span place : Span) (same : other.withoutSpans = statement.withoutSpans)
    (sameBody : otherBody.withoutSpans = body.withoutSpans) :
    (other.scope otherBody span).withoutSpans = (statement.scope body place).withoutSpans := by
  unfold Pattern.withoutSpans Statement.withoutSpans at *
  rw [mapSpans_scope, mapSpans_scope, same, sameBody]

theorem Statement.modes_of_withoutSpans {statement other : Statement}
    (same : other.withoutSpans = statement.withoutSpans) (outer : Modes) :
    other.modes outer = statement.modes outer := by
  unfold Statement.withoutSpans at same
  rw [← mapSpans_modes Span.presence (fun _ => .absent) other, same, mapSpans_modes]

/-! ## Rewriting phrases -/

/-- What is written of several parts after the first begins with the separator. -/
theorem neutral_separated {separator : List Piece} {patterns : List Pattern}
    (neutral : ∀ pattern : Pattern,
      ∀ c ∈ (textOf (separator ++ pattern.pieces)).head?, isNeutral c) :
    ∀ c ∈ (textOf (patterns.flatMap fun pattern => separator ++ pattern.pieces)).head?,
      isNeutral c :=
  head?_flatMap fun pattern _ => neutral pattern

theorem neutral_preference (preference : Quantifier) :
    ∀ c ∈ (textOf preference.pieces).head?, isNeutral c := by
  cases preference with
  | greedy => exact neutral_space _
  | lazy => exact neutral_space _
  | defaultGreedy => exact head?_nil
  | defaultLazy => exact head?_nil

/-- A group opens with a parenthesis, whatever is before it. -/
theorem endsBefore_opening (kind : GroupKind) (c : Char) : endsBefore c kind.pieces := by
  cases kind <;> rfl

theorem pieces_of_lookaroundOf? {kind : TokenKind} {lookaround : Lookaround}
    (isLookaround : lookaroundOf? kind = some lookaround) :
    lookaround.pieces = [operator kind] ∧ kind.spelling?.isSome ∧ kind.endsBefore ' ' := by
  unfold lookaroundOf? at isLookaround
  split at isLookaround <;> cases isLookaround <;> exact ⟨rfl, rfl, rfl⟩

theorem Rewrites.append_bangs {pieces : List Piece} {holds : List Lexeme → Prop} (count : Nat)
    (rewrites : Rewrites pieces holds) :
    Rewrites (List.replicate count (operator .bang) ++ pieces) fun written => ∃ bangs more,
      written = bangs ++ more ∧ (∀ bang ∈ bangs, bang.kind = .bang) ∧ bangs.length = count ∧
        holds more := by
  induction count with
  | zero =>
    refine rewrites.mono ?_
    intro written spelled
    exact ⟨[], written, rfl, nofun, rfl, spelled⟩
  | succ count inductionHypothesis =>
    refine (cons_operator rfl (fun _ _ => rfl) inductionHypothesis).mono ?_
    rintro _ ⟨bang, _, rfl, isBang, bangs, more, rfl, areBangs, rfl, spelled⟩
    exact ⟨bang :: bangs, more, rfl, List.forall_mem_cons.mpr ⟨isBang, areBangs⟩, rfl, spelled⟩

/-- What is printed of the phrase spells it again. -/
def Phrase.IsRewritten (modes : Modes) (phrase : Phrase) : Prop :=
  Rewrites phrase.pieces (phrase.Respelled modes)

variable {modes : Modes} {first bound body : Pattern} {more : List Pattern} {span : Span}

/-! ### Statements -/

theorem stated_isRewritten {statement : Statement}
    (rewritten : (Phrase.statement statement).IsRewritten modes)
    (rewrittenBody : (Phrase.expression body).IsRewritten (statement.modes modes)) :
    (Phrase.expression (statement.scope body span)).IsRewritten modes := by
  rw [Phrase.IsRewritten, Phrase.pieces, Statement.pieces_scope, List.append_assoc]
  refine (rewritten.append_neutral (cons_space rewrittenBody) (neutral_space _)).mono ?_
  rintro _ ⟨_, _, rfl, ⟨other, spells, same⟩, otherBody, spellsBody, sameBody⟩
  rw [← Statement.modes_of_withoutSpans same] at spellsBody
  exact ⟨_, .stated spells spellsBody, Statement.withoutSpans_scope _ _ same sameBody⟩

theorem binding_isRewritten {name : String} (isToken : IsToken .identifier name.toList)
    (rewritten : (Phrase.alternation bound).IsRewritten modes) :
    (Phrase.statement (.binding name span bound)).IsRewritten modes := by
  have rewritesStop : Rewrites [operator .semicolon] _ := cons_operator rfl (fun _ _ => rfl) nil
  have rewritesBound := rewritten.append_neutral rewritesStop (neutral_operator (by decide) _)
  have rewritesEquals : Rewrites (.space :: operator .equals :: .space :: _) _ :=
    cons_space (cons_operator rfl (fun _ _ => rfl) (cons_space rewritesBound))
  rw [Phrase.IsRewritten, Phrase.pieces, Statement.pieces, List.append_assoc]
  refine (cons_keyword (by decide) (ends_space _ _) (cons_space
    (cons_identifier isToken (ends_space _ _) rewritesEquals))).mono ?_
  rintro _ ⟨otherWord, _, rfl, isLet, otherName, _, rfl, ⟨areName, text_eq⟩, otherEquals, _, rfl,
    isEquals, _, _, rfl, ⟨otherBound, spells, same⟩, otherStop, _, rfl, stops, rfl⟩
  have respelled := Spells.binding isLet areName isEquals spells stops
  rw [text_eq] at respelled
  refine ⟨_, by simpa using respelled, ?_⟩
  exact congrArg (Statement.binding name .absent) same

/-! ### Rows

What is printed between the parts of a row begins with a space, so that the parts
are printed as they are by themselves.
-/

theorem alternatives_isRewritten (rewritten : (Phrase.intersection first).IsRewritten modes)
    (rewrittenMore : (Phrase.moreAlternatives more).IsRewritten modes) :
    (Phrase.alternation (.alternationOf span first more)).IsRewritten modes := by
  rw [Phrase.IsRewritten, Phrase.pieces, Pattern.pieces_alternationOf]
  refine (rewritten.append_neutral rewrittenMore
    (neutral_separated fun _ => neutral_space _)).mono ?_
  rintro _ ⟨_, _, rfl, ⟨other, spells, same⟩, others, spellsMore, sameMore⟩
  exact ⟨_, @Spells.alternatives modes none _ _ _ _ nofun spells spellsMore,
    Pattern.withoutSpans_alternationOf _ _ same sameMore⟩

theorem nextAlternative_isRewritten (rewritten : (Phrase.intersection first).IsRewritten modes)
    (rewrittenMore : (Phrase.moreAlternatives more).IsRewritten modes) :
    (Phrase.moreAlternatives (first :: more)).IsRewritten modes := by
  have rewritesNext : Rewrites (.space :: operator .pipe :: .space :: _) _ :=
    cons_space (cons_operator rfl (head?_space rfl _) (cons_space rewritten))
  refine (rewritesNext.append_neutral rewrittenMore
    (neutral_separated fun _ => neutral_space _)).mono ?_
  rintro _ ⟨_, _, rfl, ⟨bar, _, rfl, isBar, other, spells, same⟩, others, spellsMore, sameMore⟩
  exact ⟨_, .nextAlternative isBar spells spellsMore, Pattern.map_withoutSpans_cons same sameMore⟩

theorem intersected_isRewritten (rewritten : (Phrase.sequence first).IsRewritten modes)
    (rewrittenMore : (Phrase.moreOperands more).IsRewritten modes) :
    (Phrase.intersection (.intersectionOf span first more)).IsRewritten modes := by
  rw [Phrase.IsRewritten, Phrase.pieces, Pattern.pieces_intersectionOf]
  refine (rewritten.append_neutral rewrittenMore
    (neutral_separated fun _ => neutral_space _)).mono ?_
  rintro _ ⟨_, _, rfl, ⟨other, spells, same⟩, others, spellsMore, sameMore⟩
  exact ⟨_, @Spells.intersected modes none _ _ _ _ nofun spells spellsMore,
    Pattern.withoutSpans_intersectionOf _ _ same sameMore⟩

theorem nextOperand_isRewritten (rewritten : (Phrase.sequence first).IsRewritten modes)
    (rewrittenMore : (Phrase.moreOperands more).IsRewritten modes) :
    (Phrase.moreOperands (first :: more)).IsRewritten modes := by
  have rewritesNext : Rewrites (.space :: operator .ampersand :: .space :: _) _ :=
    cons_space (cons_operator rfl (head?_space rfl _) (cons_space rewritten))
  refine (rewritesNext.append_neutral rewrittenMore
    (neutral_separated fun _ => neutral_space _)).mono ?_
  rintro _ ⟨_, _, rfl, ⟨ampersand, _, rfl, isAmpersand, other, spells, same⟩, others, spellsMore,
    sameMore⟩
  exact ⟨_, .nextOperand isAmpersand spells spellsMore, Pattern.map_withoutSpans_cons same sameMore⟩

theorem terms_isRewritten (rewritten : (Phrase.term first).IsRewritten modes)
    (rewrittenMore : (Phrase.moreTerms more).IsRewritten modes) :
    (Phrase.sequence (.sequenceOf first more)).IsRewritten modes := by
  rw [Phrase.IsRewritten, Phrase.pieces, Pattern.pieces_sequenceOf]
  refine (rewritten.append_neutral rewrittenMore
    (neutral_separated fun _ => neutral_space _)).mono ?_
  rintro _ ⟨_, _, rfl, ⟨other, spells, same⟩, others, spellsMore, sameMore⟩
  exact ⟨_, .terms spells spellsMore, Pattern.withoutSpans_sequenceOf same sameMore⟩

theorem nextTerm_isRewritten (rewritten : (Phrase.term first).IsRewritten modes)
    (rewrittenMore : (Phrase.moreTerms more).IsRewritten modes) :
    (Phrase.moreTerms (first :: more)).IsRewritten modes := by
  refine ((cons_space rewritten).append_neutral rewrittenMore
    (neutral_separated fun _ => neutral_space _)).mono ?_
  rintro _ ⟨_, _, rfl, ⟨other, spells, same⟩, others, spellsMore, sameMore⟩
  exact ⟨_, .nextTerm spells spellsMore, Pattern.map_withoutSpans_cons same sameMore⟩

/-! ### Operands -/

theorem repeated_isRewritten {bounds : Bounds} {preference : Quantifier}
    {boundsLexemes preferenceLexemes : List Lexeme}
    (spellsBounds : SpellsBounds bounds boundsLexemes)
    (spellsPreference : SpellsPreference modes.lazy preference preferenceLexemes)
    (rewritten : (Phrase.negation body).IsRewritten modes) :
    (Phrase.term (.repetition body bounds preference span)).IsRewritten modes := by
  have rewritesCount := spellsBounds.rewrites.append_neutral spellsPreference.rewrites
    (neutral_preference preference)
  rw [Phrase.IsRewritten, Phrase.pieces, Pattern.pieces, List.append_assoc]
  refine (rewritten.append_neutral rewritesCount (neutral_operator (by decide) _)).mono ?_
  rintro _ ⟨_, _, rfl, ⟨other, spells, same⟩, _, _, rfl, spellsBounds, spellsPreference⟩
  exact ⟨_, .repeated spells spellsBounds spellsPreference,
    congrArg (Pattern.repetition · bounds preference .absent) same⟩

theorem negated_isRewritten {count : Nat} (rewritten : (Phrase.operand body).IsRewritten modes) :
    (Phrase.negation (negate span count body)).IsRewritten modes := by
  rw [Phrase.IsRewritten, Phrase.pieces, Pattern.pieces_negate]
  refine (rewritten.append_bangs count).mono ?_
  rintro _ ⟨others, _, rfl, areBangs, sameCount, other, spells, same⟩
  have respelled := Spells.negated areBangs spells
  rw [sameCount] at respelled
  exact ⟨_, respelled, Pattern.withoutSpans_negate _ _ _ same⟩

theorem lookaround_isRewritten {operator : TokenKind} {kind : Lookaround}
    (isLookaround : lookaroundOf? operator = some kind)
    (rewritten : (Phrase.expression body).IsRewritten modes) :
    (Phrase.operand (.lookaround kind body span)).IsRewritten modes := by
  obtain ⟨pieces_eq, isOperator, ends⟩ := pieces_of_lookaroundOf? isLookaround
  rw [Phrase.IsRewritten, Phrase.pieces, Pattern.pieces, pieces_eq, List.append_assoc]
  refine (cons_operator isOperator (head?_space ends _) (cons_space rewritten)).mono ?_
  rintro _ ⟨other, _, rfl, sameKind, otherBody, spells, same⟩
  rw [← sameKind] at isLookaround
  exact ⟨_, .lookaround isLookaround spells, congrArg (Pattern.lookaround kind · .absent) same⟩

theorem group_isRewritten {kind : GroupKind} {opening : List Lexeme}
    (spellsOpening : SpellsOpening kind opening) (scanned : ∀ lexeme ∈ opening, lexeme.IsScanned)
    (rewritten : (Phrase.expression body).IsRewritten modes) :
    (Phrase.operand (.group kind body span)).IsRewritten modes := by
  have rewritesClosing : Rewrites [operator .closeParen] _ := cons_operator rfl (fun _ _ => rfl) nil
  refine (((spellsOpening.rewrites scanned).append rewritten
    fun c _ => endsBefore_opening kind c).append_neutral rewritesClosing
      (neutral_operator (by decide) _)).mono ?_
  rintro _ ⟨_, _, rfl, ⟨otherOpening, _, rfl, spellsOpening, other, spells, same⟩, otherClosing, _,
    rfl, closes, rfl⟩
  exact ⟨_, .group spellsOpening spells closes, congrArg (Pattern.group kind · .absent) same⟩

/-! ### All phrases -/

/-- Lexemes that are tokens by themselves spell a phrase. What is printed of it spells
it again. -/
theorem Spells.rewrites {phrase : Phrase} {lexemes : List Lexeme}
    (spells : Spells modes phrase lexemes)
    (written : ∀ lexeme ∈ lexemes, lexeme.IsScanned ∧ lexeme.span ≠ .absent) :
    phrase.IsRewritten modes := by
  induction spells with
  | bare _ rewritten =>
    refine (rewritten written).mono ?_
    rintro _ ⟨other, spells, same⟩
    exact ⟨other, .bare spells, same⟩
  | stated _ _ rewritten rewrittenBody =>
    obtain ⟨writtenStatement, writtenBody⟩ := List.forall_mem_append.mp written
    exact stated_isRewritten (rewritten writtenStatement) (rewrittenBody writtenBody)
  | directive spells =>
    refine (spells.rewrites fun lexeme member => (written lexeme member).1).mono ?_
    rintro _ ⟨other, spells, same⟩
    exact ⟨.directive other, .directive spells, congrArg Statement.directive same⟩
  | @binding _ _ name _ _ _ _ _ isName _ _ _ rewritten =>
    obtain ⟨isToken, -⟩ := (written name (by simp)).1.identifier isName
    exact binding_isRewritten isToken (rewritten fun lexeme member => written lexeme
      (by simp [member]))
  | nothing =>
    refine nil.mono ?_
    rintro _ rfl
    exact ⟨.empty, .nothing, rfl⟩
  | alternatives _ _ _ rewritten rewrittenMore =>
    obtain ⟨writtenFront, writtenMore⟩ := List.forall_mem_append.mp written
    exact alternatives_isRewritten (rewritten (List.forall_mem_append.mp writtenFront).2)
      (rewrittenMore writtenMore)
  | noAlternative =>
    refine nil.mono ?_
    rintro _ rfl
    exact ⟨[], .noAlternative, rfl⟩
  | nextAlternative _ _ _ rewritten rewrittenMore =>
    obtain ⟨writtenFront, writtenMore⟩ := List.forall_mem_append.mp written
    exact nextAlternative_isRewritten (rewritten (List.forall_mem_append.mp writtenFront).2)
      (rewrittenMore writtenMore)
  | intersected _ _ _ rewritten rewrittenMore =>
    obtain ⟨writtenFront, writtenMore⟩ := List.forall_mem_append.mp written
    exact intersected_isRewritten (rewritten (List.forall_mem_append.mp writtenFront).2)
      (rewrittenMore writtenMore)
  | noOperand =>
    refine nil.mono ?_
    rintro _ rfl
    exact ⟨[], .noOperand, rfl⟩
  | nextOperand _ _ _ rewritten rewrittenMore =>
    obtain ⟨writtenFront, writtenMore⟩ := List.forall_mem_append.mp written
    exact nextOperand_isRewritten (rewritten (List.forall_mem_append.mp writtenFront).2)
      (rewrittenMore writtenMore)
  | terms _ _ rewritten rewrittenMore =>
    obtain ⟨writtenFirst, writtenMore⟩ := List.forall_mem_append.mp written
    exact terms_isRewritten (rewritten writtenFirst) (rewrittenMore writtenMore)
  | noTerm =>
    refine nil.mono ?_
    rintro _ rfl
    exact ⟨[], .noTerm, rfl⟩
  | nextTerm _ _ rewritten rewrittenMore =>
    obtain ⟨writtenFirst, writtenMore⟩ := List.forall_mem_append.mp written
    exact nextTerm_isRewritten (rewritten writtenFirst) (rewrittenMore writtenMore)
  | once _ rewritten =>
    refine (rewritten written).mono ?_
    rintro _ ⟨other, spells, same⟩
    exact ⟨other, .once spells, same⟩
  | repeated _ spellsBounds spellsPreference rewritten =>
    exact repeated_isRewritten spellsBounds spellsPreference
      (rewritten (List.forall_mem_append.mp written).1)
  | negated _ _ rewritten =>
    exact negated_isRewritten (rewritten (List.forall_mem_append.mp written).2)
  | lookaround isLookaround _ rewritten =>
    exact lookaround_isRewritten isLookaround (rewritten (List.forall_mem_append.mp written).2)
  | group spellsOpening _ _ rewritten =>
    exact group_isRewritten spellsOpening (fun lexeme member => (written lexeme (by simp [member])).1)
      (rewritten fun lexeme member => written lexeme (by simp [member]))
  | atom spells =>
    refine (spells.rewrites (fun lexeme member => (written lexeme member).1)
      (fun lexeme member => (written lexeme member).2)).mono ?_
    rintro _ ⟨other, spells, same⟩
    exact ⟨other, .atom spells, same⟩

end PatternSyntax
