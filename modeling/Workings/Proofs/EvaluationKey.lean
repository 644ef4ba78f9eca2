import Workings.EvaluationKey
import Workings.Proofs.Evaluation.Agreement
import Workings.Proofs.Number.Writing
import Workings.Proofs.Ranking
import Workings.Proofs.Text.Quoted

/-!
# Keys of evaluations identify them

The expression stands in a key as it is, so it may hold anything that the bindings behind it may
hold. What parts the two is the number of quotes: the bar in front of the bindings has an even
number of quotes behind it, and a bar in the name of a binding has an odd one.
-/

namespace Workings.EvaluationKey

open Text

/-! ## Quotes behind bars -/

/-- Whether the number of quotes in a text, escaped ones aside, is odd. -/
def oddQuotes : List Char → Bool
  | [] => false
  | '\\' :: _ :: rest => oddQuotes rest
  | '"' :: rest => !oddQuotes rest
  | _ :: rest => oddQuotes rest

/-- Every bar has an odd number of quotes behind it. -/
def BarsQuoted : List Char → Prop
  | [] => True
  | char :: rest => (char = '|' → oddQuotes rest = true) ∧ BarsQuoted rest

/-- Behind a bar in a text of quoted bars stands an odd number of quotes. -/
theorem oddQuotes_of_barsQuoted {before behind : List Char}
    (quoted : BarsQuoted (before ++ '|' :: behind)) : oddQuotes behind = true := by
  induction before with
  | nil => exact quoted.1 rfl
  | cons char before hypothesis => exact hypothesis quoted.2

/-- Characters other than quotes and backslashes do not change the number of quotes. -/
theorem oddQuotes_append {chars : List Char}
    (plain : ∀ char ∈ chars, char ≠ '"' ∧ char ≠ '\\') (rest : List Char) :
    oddQuotes (chars ++ rest) = oddQuotes rest := by
  induction chars with
  | nil => rfl
  | cons char chars hypothesis =>
    obtain ⟨noQuote, noBackslash⟩ := plain char List.mem_cons_self
    rw [List.cons_append, oddQuotes]
    · exact hypothesis fun other member => plain other (List.mem_cons_of_mem _ member)
    · intro _ _ equal
      exact absurd equal noBackslash
    · exact noQuote

/-- A character written inside quotes has no quotes that are not escaped. -/
theorem oddQuotes_escapeChar_append (char : Char) (rest : List Char) :
    oddQuotes (escapeChar char ++ rest) = oddQuotes rest := by
  rcases escapeChar_cases char with ⟨letter, escaped, -⟩ | escaped | ⟨escaped, noBackslash, noQuote⟩
  · rw [escaped]
    rfl
  · rw [escaped, codeEscape]
    have plain : ∀ other ∈ '\x7b' :: (Nat.toDigits 16 char.toNat ++ ['\x7d']),
        other ≠ '"' ∧ other ≠ '\\' := by
      intro other member
      rcases List.mem_cons.1 member with rfl | member
      · decide
      rcases List.mem_append.1 member with inDigits | isLast
      · exact ⟨(plain_of_mem_toDigits inDigits).2.1, (plain_of_mem_toDigits inDigits).2.2.1⟩
      · rw [List.mem_singleton.1 isLast]
        decide
    exact oddQuotes_append plain rest
  · rw [escaped]
    exact oddQuotes_append (by simpa using ⟨noQuote, noBackslash⟩) rest

/-- The characters of a quoted text have no quotes that are not escaped. -/
theorem oddQuotes_flatMap_append (chars rest : List Char) :
    oddQuotes (chars.flatMap escapeChar ++ rest) = oddQuotes rest := by
  induction chars with
  | nil => rfl
  | cons char chars hypothesis =>
    rw [List.flatMap_cons, List.append_assoc, oddQuotes_escapeChar_append, hypothesis]

/-- A quoted text has two quotes that are not escaped. -/
theorem oddQuotes_quoteChars_append (chars rest : List Char) :
    oddQuotes (quoteChars chars ++ rest) = oddQuotes rest := by
  have inside : oddQuotes (chars.flatMap escapeChar ++ '"' :: rest) = !oddQuotes rest :=
    oddQuotes_flatMap_append chars _
  simp [quoteChars, oddQuotes, inside]

/-- Characters other than bars may stand in front of quoted bars. -/
theorem barsQuoted_append {chars rest : List Char} (noBar : '|' ∉ chars)
    (quoted : BarsQuoted rest) : BarsQuoted (chars ++ rest) := by
  induction chars with
  | nil => exact quoted
  | cons char chars hypothesis =>
    obtain ⟨different, noBar⟩ := not_or.1 (mt List.mem_cons.2 noBar)
    exact ⟨fun equal => absurd equal.symm different, hypothesis noBar⟩

/-- Bars in a character written inside quotes have the quotes at the end behind them. -/
theorem barsQuoted_escapeChar_append (char : Char) {rest : List Char}
    (odd : oddQuotes rest = true) (quoted : BarsQuoted rest) :
    BarsQuoted (escapeChar char ++ rest) := by
  rcases escapeChar_cases char with ⟨letter, escaped, noBar, -⟩ | escaped | ⟨escaped, -⟩
  · rw [escaped]
    refine barsQuoted_append ?_ quoted
    simpa using noBar.symm
  · rw [escaped, codeEscape]
    refine barsQuoted_append ?_ quoted
    have noBar : '|' ∉ Nat.toDigits 16 char.toNat :=
      fun member => (plain_of_mem_toDigits member).2.2.2 rfl
    simpa using noBar
  · rw [escaped]
    exact ⟨fun _ => odd, quoted⟩

/-- Bars in a quoted text have the quotes at its end behind them. -/
theorem barsQuoted_quoteChars_append (chars : List Char) {rest : List Char}
    (even : oddQuotes rest = false) (quoted : BarsQuoted rest) :
    BarsQuoted (quoteChars chars ++ rest) := by
  have odd : oddQuotes ('"' :: rest) = true := by simp [oddQuotes, even]
  have inside : BarsQuoted (chars.flatMap escapeChar ++ '"' :: rest) := by
    induction chars with
    | nil => exact ⟨fun equal => absurd equal (by decide), quoted⟩
    | cons char chars hypothesis =>
      rw [List.flatMap_cons, List.append_assoc]
      refine barsQuoted_escapeChar_append char ?_ hypothesis
      rw [oddQuotes_flatMap_append, odd]
  have opening : BarsQuoted ('"' :: (chars.flatMap escapeChar ++ '"' :: rest)) :=
    ⟨fun equal => absurd equal (by decide), inside⟩
  simpa [quoteChars] using opening

/-! ## The bindings of a key -/

/-- The characters of a binding in a key. -/
def bindingChars (pair : String × Float) : List Char :=
  quoteChars pair.1.toList ++ ':' :: ' ' :: (Number.literal pair.2).toList

/-- The characters of a key behind a binding: those of the bindings that follow, and the closing
brace. -/
def charsBehind : List (String × Float) → List Char
  | [] => ['\x7d']
  | pair :: rest => ',' :: ' ' :: (bindingChars pair ++ charsBehind rest)

/-- The characters of a key behind the opening brace. -/
def listing : List (String × Float) → List Char
  | [] => ['\x7d']
  | pair :: rest => bindingChars pair ++ charsBehind rest

/-- The text of a binding has its characters. -/
theorem toList_bindingText (pair : String × Float) :
    (bindingText pair).toList = bindingChars pair := by
  simp [bindingText, bindingChars, quote]

/-- The bindings are listed behind the opening brace. -/
theorem toList_intercalate_append (pairs : List (String × Float)) :
    (", ".intercalate (pairs.map bindingText)).toList ++ ['\x7d'] = listing pairs := by
  have behind (pair : String × Float) (rest : List (String × Float)) :
      [',', ' '].intercalate ((pair :: rest).map bindingChars) ++ ['\x7d']
        = bindingChars pair ++ charsBehind rest := by
    induction rest generalizing pair with
    | nil => simp [charsBehind]
    | cons next rest hypothesis =>
      simp [charsBehind, ← hypothesis]
  rw [String.toList_intercalate, List.map_map]
  have chars : String.toList ∘ bindingText = bindingChars := funext toList_bindingText
  rw [chars]
  cases pairs with
  | nil => rfl
  | cons pair rest => exact behind pair rest

/-- No character of a literal ends a binding. -/
theorem plain_of_mem_literal {value : Float} {char : Char}
    (member : char ∈ (Number.literal value).toList) :
    (char ≠ '"' ∧ char ≠ '\\') ∧ char ≠ '|' ∧ char ≠ ',' ∧ char ≠ '\x7d' := by
  have allowed := Number.isLiteralChar_of_mem_literal char member
  refine ⟨⟨?_, ?_⟩, ?_, ?_, ?_⟩ <;> rintro rfl <;> revert allowed <;> decide

/-- A binding has two quotes that are not escaped. -/
theorem oddQuotes_bindingChars_append (pair : String × Float) (rest : List Char) :
    oddQuotes (bindingChars pair ++ rest) = oddQuotes rest := by
  have literal : oddQuotes ((Number.literal pair.2).toList ++ rest) = oddQuotes rest :=
    oddQuotes_append (fun char member => (plain_of_mem_literal member).1) rest
  rw [bindingChars, List.append_assoc, oddQuotes_quoteChars_append]
  exact literal

/-- The bindings behind a binding have an even number of quotes. -/
theorem oddQuotes_charsBehind (pairs : List (String × Float)) :
    oddQuotes (charsBehind pairs) = false := by
  induction pairs with
  | nil => rfl
  | cons pair rest hypothesis =>
    exact (oddQuotes_bindingChars_append pair _).trans hypothesis

/-- The bindings of a key have an even number of quotes. -/
theorem oddQuotes_listing (pairs : List (String × Float)) : oddQuotes (listing pairs) = false := by
  cases pairs with
  | nil => rfl
  | cons pair rest =>
    exact (oddQuotes_bindingChars_append pair _).trans (oddQuotes_charsBehind rest)

/-- Bars in a binding stand in its name. -/
theorem barsQuoted_bindingChars_append (pair : String × Float) {rest : List Char}
    (even : oddQuotes rest = false) (quoted : BarsQuoted rest) :
    BarsQuoted (bindingChars pair ++ rest) := by
  have noBar : '|' ∉ ':' :: ' ' :: (Number.literal pair.2).toList := by
    intro member
    simp only [List.mem_cons] at member
    rcases member with isColon | isBlank | inLiteral
    · exact absurd isColon (by decide)
    · exact absurd isBlank (by decide)
    · exact (plain_of_mem_literal inLiteral).2.1 rfl
  have literalEven : oddQuotes ((':' :: ' ' :: (Number.literal pair.2).toList) ++ rest) = false :=
    (oddQuotes_append (fun char member => (plain_of_mem_literal member).1) rest).trans even
  rw [bindingChars, List.append_assoc]
  exact barsQuoted_quoteChars_append _ literalEven (barsQuoted_append noBar quoted)

/-- All bars in the bindings of a key stand in names. -/
theorem barsQuoted_listing (pairs : List (String × Float)) : BarsQuoted (listing pairs) := by
  have behind (pairs : List (String × Float)) : BarsQuoted (charsBehind pairs) := by
    induction pairs with
    | nil => exact ⟨fun equal => absurd equal (by decide), trivial⟩
    | cons pair rest hypothesis =>
      have binding := barsQuoted_bindingChars_append pair (oddQuotes_charsBehind rest) hypothesis
      have separator : '|' ∉ [',', ' '] := by decide
      exact barsQuoted_append separator binding
  cases pairs with
  | nil => exact ⟨fun equal => absurd equal (by decide), trivial⟩
  | cons pair rest =>
    exact barsQuoted_bindingChars_append pair (oddQuotes_charsBehind rest) (behind rest)

/-- The bar behind the expression has an even number of quotes behind it, so it is none of the bars
in the bindings. -/
theorem eq_nil_of_bar_eq {before : List Char} {leftPairs rightPairs : List (String × Float)}
    (same : '|' :: '\x7b' :: listing leftPairs
      = before ++ '|' :: '\x7b' :: listing rightPairs) : before = [] := by
  have even : oddQuotes ('\x7b' :: listing rightPairs) = false := by
    simp [oddQuotes, oddQuotes_listing]
  rcases before with _ | ⟨first, _ | ⟨second, before⟩⟩
  · rfl
  · simp at same
  · simp only [List.cons_append, List.cons.injEq] at same
    obtain ⟨-, -, same⟩ := same
    have odd := oddQuotes_of_barsQuoted (same ▸ barsQuoted_listing leftPairs)
    rw [even] at odd
    contradiction

/-- The expression of a key ends where its bindings begin. -/
theorem expression_append_injective {left right : List Char}
    {leftPairs rightPairs : List (String × Float)}
    (same : left ++ '|' :: '\x7b' :: listing leftPairs
      = right ++ '|' :: '\x7b' :: listing rightPairs) :
    left = right ∧ listing leftPairs = listing rightPairs := by
  rcases List.append_eq_append_iff.1 same with ⟨between, rfl, behind⟩ | ⟨between, rfl, behind⟩
  · obtain rfl := eq_nil_of_bar_eq behind
    simpa using behind
  · obtain rfl := eq_nil_of_bar_eq behind
    simpa using behind.symm

/-- A character that ends the literal of a binding. -/
def EndsLiteral (chars : List Char) : Prop :=
  ∀ char ∈ chars.head?, char = ',' ∨ char = '\x7d'

/-- Nothing of a literal is left where it has ended. -/
theorem eq_nil_of_endsLiteral {value : Float} {before between rest : List Char}
    (ends : EndsLiteral (between ++ rest))
    (literal_eq : (Number.literal value).toList = before ++ between) : between = [] := by
  cases between with
  | nil => rfl
  | cons char between =>
    have inside : char ∈ (Number.literal value).toList := by simp [literal_eq]
    obtain ⟨-, -, noComma, noBrace⟩ := plain_of_mem_literal inside
    rcases ends char rfl with isComma | isBrace
    · exact absurd isComma noComma
    · exact absurd isBrace noBrace

/-- Literals in front of what ends them are parted from it. -/
theorem literal_append_injective {left right : Float} {leftRest rightRest : List Char}
    (leftEnds : EndsLiteral leftRest) (rightEnds : EndsLiteral rightRest)
    (same : (Number.literal left).toList ++ leftRest
      = (Number.literal right).toList ++ rightRest) :
    left = right ∧ leftRest = rightRest := by
  rcases List.append_eq_append_iff.1 same with
    ⟨between, rightText, leftTail⟩ | ⟨between, leftText, rightTail⟩
  · obtain rfl := eq_nil_of_endsLiteral (leftTail ▸ leftEnds) rightText
    rw [List.append_nil] at rightText
    exact ⟨Number.literal_injective (String.toList_inj.1 rightText.symm), leftTail⟩
  · obtain rfl := eq_nil_of_endsLiteral (rightTail ▸ rightEnds) leftText
    rw [List.append_nil] at leftText
    exact ⟨Number.literal_injective (String.toList_inj.1 leftText), rightTail.symm⟩

/-- A binding in front of what ends its literal is parted from it. -/
theorem bindingChars_append_injective {left right : String × Float}
    {leftRest rightRest : List Char} (leftEnds : EndsLiteral leftRest)
    (rightEnds : EndsLiteral rightRest)
    (same : bindingChars left ++ leftRest = bindingChars right ++ rightRest) :
    left = right ∧ leftRest = rightRest := by
  simp only [bindingChars, List.append_assoc] at same
  obtain ⟨names, behind⟩ := quoteChars_append_injective same
  simp only [List.cons_append, List.cons.injEq, true_and] at behind
  obtain ⟨values, rests⟩ := literal_append_injective leftEnds rightEnds behind
  exact ⟨Prod.ext (String.toList_inj.1 names) values, rests⟩

/-- What stands behind a binding ends its literal. -/
theorem endsLiteral_charsBehind (pairs : List (String × Float)) :
    EndsLiteral (charsBehind pairs) := by
  cases pairs <;> simp [charsBehind, EndsLiteral]

/-- The bindings behind a binding are determined by their characters. -/
theorem charsBehind_injective {left right : List (String × Float)}
    (same : charsBehind left = charsBehind right) : left = right := by
  induction left generalizing right with
  | nil =>
    cases right with
    | nil => rfl
    | cons pair right => simp [charsBehind] at same
  | cons pair left hypothesis =>
    cases right with
    | nil => simp [charsBehind] at same
    | cons other right =>
      simp only [charsBehind, List.cons.injEq, true_and] at same
      obtain ⟨rfl, rests⟩ := bindingChars_append_injective (endsLiteral_charsBehind left)
        (endsLiteral_charsBehind right) same
      rw [hypothesis rests]

/-- The bindings of a key are determined by their characters. -/
theorem listing_injective {left right : List (String × Float)}
    (same : listing left = listing right) : left = right := by
  have opening (pair : String × Float) (rest : List (String × Float)) :
      (listing (pair :: rest)).head? = some '"' := rfl
  have closing : (listing []).head? = some '\x7d' := rfl
  cases left with
  | nil =>
    cases right with
    | nil => rfl
    | cons pair right => exact absurd (congrArg List.head? same) (by rw [opening, closing]; decide)
  | cons pair left =>
    cases right with
    | nil => exact absurd (congrArg List.head? same) (by rw [opening, closing]; decide)
    | cons other right =>
      obtain ⟨rfl, rests⟩ := bindingChars_append_injective (endsLiteral_charsBehind left)
        (endsLiteral_charsBehind right) same
      rw [charsBehind_injective rests]

/-! ## Keys -/

/-- The characters of a key. -/
theorem toList_evaluationKey (expression : String) (pairs : List (String × Float)) :
    (evaluationKey expression pairs).toList
      = expression.toList ++ '|' :: '\x7b'
        :: listing (Ranking.rank (fun left right => left.1 < right.1) pairs) := by
  simp only [evaluationKey, String.toList_append, List.append_assoc, ← toList_intercalate_append]
  rfl

/-- Evaluations with the same key have the same expression and the same bindings, in whatever order
they are listed. -/
theorem evaluationKey_injective {left right : String} {leftPairs rightPairs : List (String × Float)}
    (same : evaluationKey left leftPairs = evaluationKey right rightPairs) :
    left = right ∧ leftPairs.Perm rightPairs := by
  have chars := congrArg String.toList same
  rw [toList_evaluationKey, toList_evaluationKey] at chars
  obtain ⟨expressions, listings⟩ := expression_append_injective chars
  have ranked := listing_injective listings
  refine ⟨String.toList_inj.1 expressions, ?_⟩
  exact (Ranking.rank_perm _ leftPairs).symm.trans (ranked ▸ Ranking.rank_perm _ rightPairs)

/-- Bindings are ranked by their names. -/
theorem strict_name :
    Ranking.Strict fun left right : String × Float => decide (left.1 < right.1) where
  irrefl pair := by simp
  trans first second third before behind := by
    rw [decide_eq_true_eq] at *
    exact String.lt_trans before behind

/-- In which order bindings are listed does not count for the key. -/
theorem evaluationKey_eq_of_perm (expression : String) {left right : Bindings}
    (listed : left.pairs.Perm right.pairs) :
    evaluationKey expression left.pairs = evaluationKey expression right.pairs := by
  have total : ∀ first ∈ left.pairs, ∀ second ∈ left.pairs,
      decide (first.1 < second.1) = false → decide (second.1 < first.1) = false →
        first = second := by
    intro first firstIn second secondIn notBefore notBehind
    rw [decide_eq_false_iff_not] at notBefore notBehind
    have sameName : first.1 = second.1 := String.le_antisymm notBehind notBefore
    exact List.inj_on_of_nodup_map left.distinct firstIn secondIn sameName
  rw [evaluationKey, evaluationKey, strict_name.rank_eq_of_perm total listed]

/-- Evaluations have the same key if and only if they have the same expression and bind the same
names to the same numbers, in whatever order the bindings are listed. The two zeros are different
numbers here, and there is one that is not a number. -/
theorem evaluationKey_eq_iff :
    (∀ (left right : String) (leftBindings rightBindings : Bindings),
      evaluationKey left leftBindings.pairs = evaluationKey right rightBindings.pairs
        ↔ left = right ∧ ∀ name, leftBindings.get? name = rightBindings.get? name)
      ∧ (0 : Float) ≠ -0
      ∧ ∀ value : Float, value.isNaN = true ↔ value = 0 / 0 := by
  refine ⟨fun left right leftBindings rightBindings => ⟨?_, ?_⟩, ?_, ?_⟩
  · intro same
    obtain ⟨expressions, listed⟩ := evaluationKey_injective same
    exact ⟨expressions, Bindings.get?_eq_of_perm listed⟩
  · rintro ⟨rfl, sameNumbers⟩
    exact evaluationKey_eq_of_perm left (Bindings.perm_of_get?_eq sameNumbers)
  · intro same
    exact absurd (congrArg Float.toBits same) (by decide)
  · intro value
    have isNone : (0 / 0 : Float).isNaN = true := by decide
    exact ⟨fun none => Number.eq_of_isNaN none isNone, fun same => same ▸ isNone⟩

end Workings.EvaluationKey
