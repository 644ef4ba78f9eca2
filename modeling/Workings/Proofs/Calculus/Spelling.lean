import Workings.Calculus.Differentiation
import Workings.Proofs.Calculus.Polynomial

/-!
# Texts of polynomials

A text that is put together from others is read as the grammar puts their trees together, if the
words of the parts stay what they are. Words stay apart where an operator or a parenthesis stands
between them; only a name must not be followed by a slash, with which it might be a derivative. So
what a text denotes is told by its parts, without a look at its tree.
-/

namespace Workings

/-- A tree that is derived has no regions, if the chain that it continues has none. -/
theorem Derives.bare_eq {phrase : Phrase} {words : List Word} {expr : Expr}
    (derives : Derives phrase words expr)
    (begun : ∀ level left, phrase = .after level left → left.bare = left) : expr.bare = expr := by
  have operand (level : Precedence) :
      ∀ level' left, level.operand = .after level' left → left.bare = left := by
    cases level <;> simp [Precedence.operand]
  induction derives with
  | @chain level _ _ _ _ _ _ operandHypothesis afterHypothesis =>
    refine afterHypothesis fun _ _ same => ?_
    obtain ⟨-, rfl⟩ := Phrase.after.inj same
    exact operandHypothesis (operand level)
  | done => exact begun _ _ rfl
  | @joined level _ _ _ _ _ _ _ _ _ operandHypothesis afterHypothesis =>
    refine afterHypothesis fun _ _ same => ?_
    obtain ⟨-, rfl⟩ := Phrase.after.inj same
    rw [Expr.bare, begun _ _ rfl, operandHypothesis (operand level)]
  | number | name | differential => rfl
  | unsigned _ hypothesis => exact hypothesis (by simp)
  | signed _ hypothesis | call _ hypothesis | paren _ hypothesis | derivative _ hypothesis
    | integral _ hypothesis => simpa [Expr.bare] using hypothesis (by simp)

namespace Expr

/-- A text that the grammar reads as an expression, with no bound on its depth or height. -/
def Reads (chars : List Char) (expr : Expr) : Prop :=
  ∃ found, Lexer.Scans chars found ∧ Derives .expression found expr

variable {chars : List Char} {expr : Expr}

/-- A text is read as one expression at most. -/
theorem Reads.unique {other : Expr} (reads : Reads chars expr) (reads' : Reads chars other) :
    expr = other := by
  obtain ⟨found, scans, derives⟩ := reads
  obtain ⟨found', scans', derives'⟩ := reads'
  obtain rfl := scans.unique scans'
  exact derives.unique derives'

/-- An expression that was read can be written. -/
theorem Reads.readable (reads : Reads chars expr) : expr.Readable := by
  obtain ⟨found, scans, derives⟩ := reads
  exact (derives.admits scans.lexical).2

/-- An expression that was read by the grammar has no regions. -/
theorem Reads.bare_eq (reads : Reads chars expr) : expr.bare = expr := by
  obtain ⟨found, -, derives⟩ := reads
  exact derives.bare_eq (by simp)

end Expr

/-- A space in front of a text makes no word, even if the text begins with blanks. -/
theorem Lexer.Scans.spaceBefore {after : List Char} {found : List Word}
    (scans : Scans after found) : Scans (' ' :: after) found := by
  by_cases ends : EndsBlank after
  · exact scans.space ends
  · obtain ⟨pieces, cuts, rfl⟩ := scans
    cases cuts with
    | nil => exact scans_nil.space (by simp [EndsBlank])
    | @cons _ rest piece pieces taken others =>
      cases after with
      | nil => contradiction
      | cons char behind =>
        -- the space lengthens the piece of the blanks
        have separator : isSeparator char := by simpa [EndsBlank] using ends
        simp only [takePiece?, separator, if_true, Option.some.injEq, takePiece, List.nil_append,
          Prod.mk.injEq] at taken
        obtain ⟨rfl, rfl⟩ := taken
        have longer : takePiece? (' ' :: char :: behind)
            = some (takePiece .blank isSeparator [] (' ' :: char :: behind)) := by
          simp [takePiece?, show isSeparator ' ' = true by decide]
        refine ⟨_ :: pieces, .cons longer ?_, ?_⟩
        · simpa [takePiece, show isSeparator ' ' = true by decide] using others
        · rw [words_cons, words_cons]
          rfl

namespace Calculus

open Polynomial Lexer

/-! ## Words that stay apart -/

/-- A text that goes on with no word: it continues neither a name nor a number, and makes no
derivative of a name. -/
def EndsWord (chars : List Char) : Prop :=
  ∀ char ∈ chars.head?, continuesName char = false ∧ char ≠ '/' ∧ char ≠ '.'

/-- What continues no word continues no name. -/
theorem EndsWord.endsName {chars : List Char} (ends : EndsWord chars) : EndsName chars :=
  fun char head => ⟨(ends char head).1, (ends char head).2.1⟩

/-- What continues no word continues no number. -/
theorem EndsWord.endsNumber {chars : List Char} (ends : EndsWord chars) : EndsNumber chars := by
  intro char head
  obtain ⟨noName, -, noPoint⟩ := ends char head
  exact ⟨(Bool.or_eq_false_iff.1 noName).2, noPoint⟩

/-- The end continues no word. -/
theorem endsWord_nil : EndsWord [] := by
  intro char head
  contradiction

/-- A character continues no word if it is neither one of a name nor a slash nor a point. -/
theorem endsWord_cons {char : Char} (noName : continuesName char = false) (noSlash : char ≠ '/')
    (noPoint : char ≠ '.') (after : List Char) : EndsWord (char :: after) := by
  intro other head
  obtain rfl := Option.some.inj head
  exact ⟨noName, noSlash, noPoint⟩

/-- The operators between operands continue no word, but for the slash. -/
theorem endsWord_symbol {op : BinaryOp} (noSlash : op ≠ .dividedBy) (after : List Char) :
    EndsWord (op.symbol.toList ++ after) := by
  cases op with
  | dividedBy => contradiction
  | _ => exact endsWord_cons (by decide) (by decide) (by decide) after

/-- A text has the given words in front of whatever ends it, but for an opening parenthesis. -/
def Spells (ends : List Char → Prop) (chars : List Char) (words : List Word) : Prop :=
  ∀ (after : List Char) (found : List Word), ends after → found.head? ≠ some .opening →
    Scans after found → Scans (chars ++ after) (words ++ found)

variable {ends : List Char → Prop} {chars : List Char} {words : List Word}

/-- A text that stands alone has the words that it spells. -/
theorem Spells.scans (spells : Spells ends chars words) (nothing : ends []) :
    Scans chars words := by
  have scans := spells [] [] nothing (by simp) scans_nil
  rwa [List.append_nil, List.append_nil] at scans

/-- What ends a text before fewer texts ends it. -/
theorem Spells.mono {fewer : List Char → Prop} (spells : Spells ends chars words)
    (only : ∀ after, fewer after → ends after) : Spells fewer chars words :=
  fun after found isEnd noOpening scans => spells after found (only after isEnd) noOpening scans

/-- Digits spell a number. -/
theorem spells_digits (areDigits : ∀ char ∈ chars, char.isDigit) (nonempty : chars ≠ []) :
    Spells EndsNumber chars [.number (String.ofList chars)] := by
  intro after found isEnd _ scans
  have same : (String.ofList chars).toList = chars := String.toList_ofList
  have numeral := Number.Numeral.whole areDigits nonempty
  rw [← same] at numeral
  have whole := scans.numeral numeral isEnd
  rwa [same] at whole

/-- A letter spells a name. -/
theorem spells_letter {letter : Char} (isLetter : isLetter letter) :
    Spells EndsWord [letter] [.name (String.singleton letter)] := by
  intro after found isEnd noOpening scans
  obtain ⟨identifier, noDifferential⟩ :=
    IsLetter.readable ⟨letter, isLetter, rfl⟩ Expr.nowhere
  have scans := scans.name identifier noDifferential isEnd.endsName noOpening
  rwa [String.toList_singleton] at scans

/-- A text in parentheses spells its words in parentheses, whatever follows. -/
theorem Spells.paren {others : List Char → Prop} (spells : Spells EndsWord chars words) :
    Spells others ('(' :: (chars ++ [')'])) (.opening :: (words ++ [Word.closing])) := by
  intro after found _ _ scans
  have inside := spells (')' :: after) (.closing :: found)
    (endsWord_cons (by decide) (by decide) (by decide) after) (by simp) scans.closing
  simpa using inside.opening

/-- A sign in front of a text spells an operator. -/
theorem Spells.unary (spells : Spells ends chars words) (op : UnaryOp) :
    Spells ends (op.symbol.toList ++ chars) (.operator op.symbol :: words) := by
  intro after found isEnd noOpening scans
  have signed := (spells after found isEnd noOpening scans).unary op
  simpa using signed

/-- An operator between two texts spells itself. -/
theorem Spells.binary {left right : List Char} {leftWords rightWords : List Word}
    (leftSpells : Spells EndsWord left leftWords) (rightSpells : Spells ends right rightWords)
    {op : BinaryOp} (noSlash : op ≠ .dividedBy) :
    Spells ends (left ++ (op.symbol.toList ++ right))
      (leftWords ++ .operator op.symbol :: rightWords) := by
  intro after found isEnd noOpening scans
  have joined := (rightSpells after found isEnd noOpening scans).binary op
  have whole := leftSpells _ _ (endsWord_symbol noSlash (right ++ after)) (by simp) joined
  simpa using whole

/-- A slash behind a number spells an operator. -/
theorem Spells.slash {left right : List Char} {leftWords rightWords : List Word}
    (leftSpells : Spells EndsNumber left leftWords) (rightSpells : Spells ends right rightWords) :
    Spells ends (left ++ '/' :: right) (leftWords ++ .operator "/" :: rightWords) := by
  intro after found isEnd noOpening scans
  have joined := (rightSpells after found isEnd noOpening scans).binary .dividedBy
  have stops : EndsNumber ('/' :: (right ++ after)) := by
    intro char head
    obtain rfl := Option.some.inj head
    decide
  have whole := leftSpells _ _ stops (by simp [BinaryOp.symbol]) joined
  simpa [BinaryOp.symbol] using whole

/-- A plus sign with blanks around it spells an operator. -/
theorem Spells.spaced {left right : List Char} {leftWords rightWords : List Word}
    (leftSpells : Spells EndsWord left leftWords) (rightSpells : Spells ends right rightWords) :
    Spells ends (left ++ (" + ".toList ++ right)) (leftWords ++ .operator "+" :: rightWords) := by
  intro after found isEnd noOpening scans
  have joined := ((rightSpells after found isEnd noOpening scans).spaceBefore.binary
    .plus).spaceBefore
  have whole := leftSpells (' ' :: '+' :: ' ' :: (right ++ after)) _
    (endsWord_cons (by decide) (by decide) (by decide) _) (by simp [BinaryOp.symbol]) joined
  simpa [BinaryOp.symbol] using whole

/-! ## What a text denotes -/

/-- A text that is a phrase, whose tree denotes a polynomial in a letter. -/
def Writes {R : Type} [CommRing R] (letter : Char) (ends : List Char → Prop) (phrase : Phrase)
    (chars : List Char) (value : R[X]) : Prop :=
  ∃ words expr, Spells ends chars words ∧ Derives phrase words expr
    ∧ expr.Denotes (String.singleton letter) value

/-- A text between operators that is a whole number, in parentheses or without. -/
def WritesCount (ends : List Char → Prop) (chars : List Char) (count : Nat) : Prop :=
  ∃ words expr, Spells ends chars words ∧ Derives .primary words expr ∧ expr.Counts count

variable {R : Type} [CommRing R] {letter : Char} {value : R[X]} {phrase : Phrase}

/-- A text that writes an expression is read as one that denotes the same. -/
theorem Writes.reads (writes : Writes letter ends .expression chars value) (nothing : ends []) :
    ∃ expr, Expr.Reads chars expr ∧ expr.Denotes (String.singleton letter) value := by
  obtain ⟨words, expr, spells, derives, denotes⟩ := writes
  exact ⟨expr, ⟨words, spells.scans nothing, derives⟩, denotes⟩

/-- What a text is read as denotes what the text writes. -/
theorem Writes.denotes (writes : Writes letter ends .expression chars value) (nothing : ends [])
    {expr : Expr} (reads : Expr.Reads chars expr) :
    expr.Denotes (String.singleton letter) value := by
  obtain ⟨other, reads', denotes⟩ := writes.reads nothing
  rwa [reads.unique reads']

/-- What ends a text before fewer texts ends it. -/
theorem Writes.mono {fewer : List Char → Prop} (writes : Writes letter ends phrase chars value)
    (only : ∀ after, fewer after → ends after) : Writes letter fewer phrase chars value := by
  obtain ⟨words, expr, spells, derives, denotes⟩ := writes
  exact ⟨words, expr, spells.mono only, derives, denotes⟩

/-- What ends a word ends a number, too. -/
theorem Writes.word (writes : Writes letter EndsNumber phrase chars value) :
    Writes letter EndsWord phrase chars value :=
  writes.mono fun _ => EndsWord.endsNumber

/-- What stands between operators is a factor. -/
theorem Writes.factor (writes : Writes letter ends .primary chars value) :
    Writes letter ends .factor chars value := by
  obtain ⟨words, expr, spells, derives, denotes⟩ := writes
  exact ⟨words, expr, spells, @Derives.loosen 4 2 _ _ derives (by decide), denotes⟩

/-- A factor is a product. -/
theorem Writes.product (writes : Writes letter ends .factor chars value) :
    Writes letter ends (.chain .factor) chars value := by
  obtain ⟨words, expr, spells, derives, denotes⟩ := writes
  exact ⟨words, expr, spells, @Derives.loosen 2 1 _ _ derives (by decide), denotes⟩

/-- A product is an expression. -/
theorem Writes.expression (writes : Writes letter ends (.chain .factor) chars value) :
    Writes letter ends .expression chars value := by
  obtain ⟨words, expr, spells, derives, denotes⟩ := writes
  exact ⟨words, expr, spells, @Derives.loosen 1 0 _ _ derives (by decide), denotes⟩

/-- Digits are the whole number of their value, up to the fifty-third power of two. -/
theorem writesCount_digits (areDigits : ∀ char ∈ chars, char.isDigit) (nonempty : chars ≠ [])
    (small : Number.valueOfDigits chars ≤ 2 ^ 53) :
    WritesCount EndsNumber chars (Number.valueOfDigits chars) := by
  have same : (String.ofList chars).toList = chars := String.toList_ofList
  obtain ⟨value, reads, exactly⟩ := @Number.exists_read? (String.ofList chars)
    (by rwa [same]) (by rwa [same]) (by rwa [same])
  rw [same] at exactly
  exact ⟨_, _, spells_digits areDigits nonempty, .number reads, exactly⟩

/-- A whole number may stand in parentheses. -/
theorem WritesCount.paren {others : List Char → Prop} {count : Nat}
    (writes : WritesCount EndsWord chars count) :
    WritesCount others ('(' :: (chars ++ [')'])) count := by
  obtain ⟨words, expr, spells, derives, counts⟩ := writes
  exact ⟨_, _, spells.paren, .paren (@Derives.loosen 4 0 _ _ derives (by decide)), counts⟩

/-- What ends a whole number before fewer texts ends it. -/
theorem WritesCount.mono {fewer : List Char → Prop} {count : Nat}
    (writes : WritesCount ends chars count) (only : ∀ after, fewer after → ends after) :
    WritesCount fewer chars count := by
  obtain ⟨words, expr, spells, derives, counts⟩ := writes
  exact ⟨words, expr, spells.mono only, derives, counts⟩

/-- What ends a word ends a whole number, too. -/
theorem WritesCount.word {count : Nat} (writes : WritesCount EndsNumber chars count) :
    WritesCount EndsWord chars count :=
  writes.mono fun _ => EndsWord.endsNumber

/-- Digits write a constant. -/
theorem writes_digits (areDigits : ∀ char ∈ chars, char.isDigit) (nonempty : chars ≠ [])
    (small : Number.valueOfDigits chars ≤ 2 ^ 53) :
    Writes letter EndsNumber .primary chars (Number.valueOfDigits chars : R[X]) := by
  have same : (String.ofList chars).toList = chars := String.toList_ofList
  obtain ⟨value, reads, exactly⟩ := @Number.exists_read? (String.ofList chars)
    (by rwa [same]) (by rwa [same]) (by rwa [same])
  rw [same] at exactly
  exact ⟨_, _, spells_digits areDigits nonempty, .number reads, .number exactly⟩

/-- The letter writes the indeterminate. -/
theorem writes_letter (isLetter : isLetter letter) :
    Writes letter EndsWord .primary [letter] (X : R[X]) :=
  ⟨_, _, spells_letter isLetter, .name, .name⟩

/-- Parentheses do not change what a text writes. -/
theorem Writes.paren {others : List Char → Prop}
    (writes : Writes letter EndsWord .expression chars value) :
    Writes letter others .primary ('(' :: (chars ++ [')'])) value := by
  obtain ⟨words, expr, spells, derives, denotes⟩ := writes
  exact ⟨_, _, spells.paren, .paren derives, .paren denotes⟩

/-- A minus sign writes the opposite. -/
theorem Writes.minus (writes : Writes letter ends .primary chars value) :
    Writes letter ends .factor ('-' :: chars) (-value) := by
  obtain ⟨words, expr, spells, derives, denotes⟩ := writes
  exact ⟨_, _, spells.unary .minus, .signed (@Derives.loosen 4 3 _ _ derives (by decide)),
    .negative denotes⟩

/-- A caret writes a power. -/
theorem Writes.power {exponent : List Char} {count : Nat}
    (writes : Writes letter EndsWord .primary chars value)
    (counts : WritesCount ends exponent count) :
    Writes letter ends .factor (chars ++ '^' :: exponent) (value ^ count) := by
  obtain ⟨words, expr, spells, derives, denotes⟩ := writes
  obtain ⟨words', expr', spells', derives', counts⟩ := counts
  have power := @Derives.extend .power _ _ _ _ (@Derives.alone .power _ _ derives) derives'
  exact ⟨_, _, @Spells.binary _ _ _ _ _ spells spells' .power (by decide), .unsigned power,
    .power denotes counts⟩

/-- A star writes a product. -/
theorem Writes.times {right : List Char} {other : R[X]}
    (leftWrites : Writes letter EndsWord (.chain .factor) chars value)
    (rightWrites : Writes letter ends .factor right other) :
    Writes letter ends (.chain .factor) (chars ++ '*' :: right) (value * other) := by
  obtain ⟨words, expr, spells, derives, denotes⟩ := leftWrites
  obtain ⟨words', expr', spells', derives', denotes'⟩ := rightWrites
  exact ⟨_, _, @Spells.binary _ _ _ _ _ spells spells' .times (by decide),
    @Derives.extend .times _ _ _ _ derives derives', .product denotes denotes'⟩

/-- A slash behind a number writes the quotient by a whole number that divides what stands in front
of it. -/
theorem Writes.over {divisor : List Char} {count : Nat} (nonzero : count ≠ 0)
    (writes : Writes letter EndsNumber (.chain .factor) chars ((count : R[X]) * value))
    (counts : WritesCount ends divisor count) :
    Writes letter ends (.chain .factor) (chars ++ '/' :: divisor) value := by
  obtain ⟨words, expr, spells, derives, denotes⟩ := writes
  obtain ⟨words', expr', spells', derives', counts⟩ := counts
  exact ⟨_, _, spells.slash spells',
    @Derives.extend .dividedBy _ _ _ _ derives (@Derives.loosen 4 2 _ _ derives' (by decide)),
    .quotient counts nonzero denotes⟩

/-- A plus sign writes a sum. -/
theorem Writes.plus {right : List Char} {other : R[X]}
    (leftWrites : Writes letter EndsWord .expression chars value)
    (rightWrites : Writes letter ends (.chain .factor) right other) :
    Writes letter ends .expression (chars ++ '+' :: right) (value + other) := by
  obtain ⟨words, expr, spells, derives, denotes⟩ := leftWrites
  obtain ⟨words', expr', spells', derives', denotes'⟩ := rightWrites
  exact ⟨_, _, @Spells.binary _ _ _ _ _ spells spells' .plus (by decide),
    @Derives.extend .plus _ _ _ _ derives derives', .sum denotes denotes'⟩

/-- A plus sign with blanks around it writes a sum, too. -/
theorem Writes.spaced {right : List Char} {other : R[X]}
    (leftWrites : Writes letter EndsWord .expression chars value)
    (rightWrites : Writes letter ends (.chain .factor) right other) :
    Writes letter ends .expression (chars ++ (" + ".toList ++ right)) (value + other) := by
  obtain ⟨words, expr, spells, derives, denotes⟩ := leftWrites
  obtain ⟨words', expr', spells', derives', denotes'⟩ := rightWrites
  exact ⟨_, _, spells.spaced spells', @Derives.extend .plus _ _ _ _ derives derives',
    .sum denotes denotes'⟩

/-- A derivative that is not taken writes the formal derivative of what a text in front of a
parenthesis is read as. -/
theorem writes_derivativeOf (isLetter : isLetter letter) {others : List Char → Prop} {expr : Expr}
    (scans : ∀ after found, Scans after found →
      Scans (chars ++ ')' :: after) (words ++ .closing :: found))
    (derives : Derives .expression words expr)
    (denotes : expr.Denotes (String.singleton letter) value) :
    Writes letter others .primary (derivativeOf [letter] chars) (derivative value) := by
  refine ⟨_, _, ?_, .derivative derives, .derivative denotes⟩
  intro after found _ _ behind
  have inside := (scans after found behind).opening.derivative isLetter
  change Scans ("d/d".toList ++ [letter] ++ '(' :: chars ++ [')'] ++ after) _
  simpa using inside

end Calculus

end Workings
