import Workings.Proofs.Calculus.Guarded
import Workings.Proofs.Calculus.Parts
import Workings.Proofs.Calculus.Terms

/-!
# Exponents at the ends of their range

The power rules count an exponent down or up by one, and that leaves the range of exponents at its
ends: a derivative breaks off at the least exponent and an integral at the greatest one. Every power
that a rule finds counts, be it the whole text, an addend or, for derivatives, one of two factors,
and nothing else breaks a rule off: not even the counting of parentheses, in a text that does not
have too many of them to be counted.
-/

namespace Workings.Calculus

variable {wrt chars rest : List Char}

/-- The texts in which differentiation looks for a power: the whole, and its addends or else its two
factors. -/
def differentiatedParts (chars : List Char) : List (List Char) :=
  chars ::
    match addends? chars, twoFactors? chars with
    | some parts, _ => parts
    | none, some (left, right) => [left, right]
    | none, none => []

/-- The texts in which integration looks for a power: the whole and its addends. -/
def integratedParts (chars : List Char) : List (List Char) :=
  chars :: (addends? chars).getD []

/-! ## Characters of numbers and powers -/

/-- A character that numbers are written with: a digit, a minus sign or a point. -/
def IsNumeral (char : Char) : Prop :=
  Text.isDecimalDigit char ∨ char = '-' ∨ char = '.'

/-- A sign that texts are split at stands in no number. -/
theorem not_isNumeral_of_splits {op : Char} (splits : op = '+' ∨ op = '*') : ¬ IsNumeral op := by
  rcases splits with rfl | rfl <;> · unfold IsNumeral; decide

/-- A whole number at the beginning of a text. -/
theorem append_of_takeInteger? {integer : List Char}
    (taken : takeInteger? chars = some (integer, rest)) :
    chars = integer ++ rest ∧ ∀ char ∈ integer, IsNumeral char := by
  unfold takeInteger? at taken
  split at taken
  rename_i sign behind parted
  dsimp only at taken
  split at taken
  · contradiction
  · obtain ⟨rfl, rfl⟩ := Prod.mk.inj (Option.some.inj taken)
    have digits : ∀ char ∈ behind.takeWhile Text.isDecimalDigit, IsNumeral char :=
      fun char member => .inl (List.mem_takeWhile_imp member)
    split at parted <;> obtain ⟨rfl, rfl⟩ := Prod.mk.inj parted
    · refine ⟨by simp [List.takeWhile_append_dropWhile], ?_⟩
      rw [List.singleton_append, List.forall_mem_cons]
      exact ⟨.inr (.inl rfl), digits⟩
    · exact ⟨by simp [List.takeWhile_append_dropWhile], digits⟩

/-- A number is written with digits, a minus sign and a point. -/
theorem isNumeral_of_isNumber (number : isNumber chars) : ∀ char ∈ chars, IsNumeral char := by
  unfold isNumber at number
  split at number
  · contradiction
  · rename_i integer taken
    obtain ⟨rfl, numerals⟩ := append_of_takeInteger? taken
    simpa using numerals
  · rename_i integer fraction taken
    obtain ⟨rfl, numerals⟩ := append_of_takeInteger? taken
    have digits := List.all_eq_true.1 (Bool.and_eq_true_iff.1 number).2
    intro char member
    rcases List.mem_append.1 member with inInteger | inFraction
    · exact numerals char inInteger
    · rcases List.mem_cons.1 inFraction with rfl | inFraction
      · exact .inr (.inr rfl)
      · exact .inl (digits char inFraction)
  · contradiction

/-- A written exponent is made of a number and parentheses. -/
theorem isNumeral_of_takeExponent? {exponent : List Char}
    (taken : takeExponent? chars = some exponent) :
    ∀ char ∈ chars, IsNumeral char ∨ Lexer.isParen char := by
  have ends {digits following : List Char} (numerals : ∀ char ∈ digits, IsNumeral char)
      (last : (if (dropOne ')' following).isEmpty then some digits else none) = some exponent) :
      ∀ char ∈ digits ++ following, IsNumeral char ∨ Lexer.isParen char := by
    split at last
    · rename_i nothing
      obtain ⟨closed, whole⟩ := exists_dropOne ')' following
      rw [List.isEmpty_iff.1 nothing, List.append_nil] at whole
      rw [whole, List.forall_mem_append]
      refine ⟨fun char member => .inl (numerals char member), ?_⟩
      cases closed <;> simp [Lexer.isParen]
    · contradiction
  simp only [takeExponent?, Option.bind_eq_bind] at taken
  split at taken
  · obtain ⟨⟨digits, following⟩, found, last⟩ := Option.bind_eq_some_iff.1 taken
    split at last
    · rename_i behind
      obtain rfl : following = ')' :: _ := behind
      obtain ⟨rfl, numerals⟩ := append_of_takeInteger? found
      have inside := List.forall_mem_append.1 (ends numerals last)
      rw [List.forall_mem_cons, List.forall_mem_append, List.forall_mem_cons]
      exact ⟨.inr rfl, inside.1, .inr rfl, inside.2⟩
    · contradiction
  · obtain ⟨⟨digits, following⟩, found, last⟩ := Option.bind_eq_some_iff.1 taken
    obtain ⟨rfl, numerals⟩ := append_of_takeInteger? found
    exact ends numerals last

/-- A power is a power of a name: it has the name and a caret in it, and neither a plus sign nor a
product sign. -/
theorem of_powerOf? {exponent : Int} (found : powerOf? wrt chars = some exponent) :
    (∀ char ∈ wrt, Lexer.continuesName char) ∧ '^' ∈ chars ∧ wrt.length < chars.length
      ∧ ∀ op ∈ chars, ¬ (op = '+' ∨ op = '*') := by
  obtain ⟨⟨name, digits⟩, isPower, value⟩ := Option.bind_eq_some_iff.1 found
  dsimp only at value
  split at value
  · rename_i isName
    obtain rfl : name = wrt := isName
    have continues : ∀ char ∈ name, Lexer.continuesName char := by
      simp only [powerText?] at isPower
      split at isPower
      · split at isPower
        · obtain ⟨_, -, same⟩ := Option.bind_eq_some_iff.1 isPower
          obtain ⟨rfl, -⟩ := Prod.mk.inj (Option.some.inj same)
          exact fun char member => List.mem_takeWhile_imp member
        · contradiction
      · contradiction
    obtain ⟨opened, behind, rfl, isExponent⟩ := of_powerText? isPower
    refine ⟨continues, by simp, by simp; omega, fun op member splits => ?_⟩
    rcases List.mem_append.1 member with opening | inside
    · cases opened with
      | false => contradiction
      | true =>
        obtain rfl := List.mem_singleton.1 opening
        simp at splits
    · rcases List.mem_append.1 inside with inName | behindName
      · have continuesName := continues op inName
        rcases splits with rfl | rfl <;> contradiction
      · rcases List.mem_cons.1 behindName with rfl | inExponent
        · simp at splits
        · rcases isNumeral_of_takeExponent? isExponent op inExponent with numeral | paren
          · exact not_isNumeral_of_splits splits numeral
          · rcases splits with rfl | rfl <;> contradiction
  · contradiction

/-- A name is no power of itself. -/
theorem powerOf?_self (wrt : List Char) : powerOf? wrt wrt = none := by
  cases found : powerOf? wrt wrt with
  | none => rfl
  | some exponent => exact absurd (of_powerOf? found).2.2.1 (Nat.lt_irrefl _)

/-- A number is no power. -/
theorem powerOf?_of_isNumber (number : isNumber chars) : powerOf? wrt chars = none := by
  cases found : powerOf? wrt chars with
  | none => rfl
  | some exponent =>
    have noNumeral : ¬ IsNumeral '^' := by unfold IsNumeral; decide
    exact absurd (isNumeral_of_isNumber number '^' (of_powerOf? found).2.1) noNumeral

/-! ## Texts that are taken as a whole -/

/-- A text with a derivative and an integral of its own: a power, a number or the name. -/
def IsSimple (wrt chars : List Char) : Prop :=
  (∃ exponent, powerOf? wrt chars = some exponent) ∨ isNumber chars ∨ chars = wrt

/-- A text that is taken as a whole is not split into parts one of which is a power. -/
theorem IsSimple.powerOf?_eq_none (simple : IsSimple wrt chars) {op : Char}
    (splits : op = '+' ∨ op = '*') (member : op ∈ chars) (part : List Char) :
    powerOf? wrt part = none := by
  cases found : powerOf? wrt part with
  | none => rfl
  | some exponent =>
    rcases simple with ⟨whole, isPower⟩ | number | rfl
    · exact absurd splits ((of_powerOf? isPower).2.2.2 op member)
    · exact absurd (isNumeral_of_isNumber number op member) (not_isNumeral_of_splits splits)
    · have continues := (of_powerOf? found).1 op member
      rcases splits with rfl | rfl <;> contradiction

/-- A text with addends has a plus sign in it. -/
theorem mem_of_addends? {parts : List (List Char)} (found : addends? chars = some parts) :
    '+' ∈ chars := by
  have splits := of_addends? found
  have joined := intercalate_splitTop '+' chars
  rw [splits] at joined
  unfold addends? at found
  rw [splits] at found
  match parts with
  | [] | [_] => simp at found
  | first :: next :: others =>
    rw [← joined]
    simp [List.intercalate]

/-- No addend and no factor of a text that is taken as a whole is a power. -/
theorem IsSimple.parts (simple : IsSimple wrt chars) :
    ∀ part ∈ differentiatedParts chars, part = chars ∨ powerOf? wrt part = none := by
  intro part member
  rcases List.mem_cons.1 member with whole | inParts
  · exact .inl whole
  · refine .inr ?_
    split at inParts
    · rename_i parts _ found
      exact simple.powerOf?_eq_none (.inl rfl) (mem_of_addends? found) part
    · rename_i left right _ found
      have product : '*' ∈ chars := by simp [(of_twoFactors? found).2]
      exact simple.powerOf?_eq_none (.inr rfl) product part
    · contradiction

/-! ## What the rules answer -/

section

variable {First Second Third Failure : Type}

/-- A step answers for all members of a list if and only if it answers for each of them. -/
theorem mapM_answers_iff {step : First → Except Failure Second} {list : List First} :
    (∃ others, list.mapM step = .ok others)
      ↔ ∀ first ∈ list, ∃ second, step first = .ok second := by
  constructor
  · rintro ⟨others, answers⟩
    induction list generalizing others with
    | nil => simp
    | cons first rest hypothesis =>
      rw [List.mapM_cons] at answers
      obtain ⟨second, head, goesOn⟩ := Reader.of_bind_eq_ok answers
      obtain ⟨tail, restAnswers, -⟩ := Reader.of_bind_eq_ok goesOn
      exact List.forall_mem_cons.2 ⟨⟨second, head⟩, hypothesis tail restAnswers⟩
  · intro each
    have answered : ∀ first ∈ list, ∃ second, step first = .ok second ∧ True := by
      simpa using each
    obtain ⟨others, answers, -⟩ := exists_mapM answered
    exact ⟨others, answers⟩

/-- A step whose answer is only mapped answers if and only if the first one does. -/
theorem map_answers_iff {first : Except Failure First} (next : First → Second) :
    (∃ result, next <$> first = .ok result) ↔ ∃ between, first = .ok between := by
  cases first with
  | error failure => simp
  | ok between => simp

/-- Two steps whose answers are only joined answer if and only if each of them does. -/
theorem join_answers_iff {first : Except Failure First} {second : Except Failure Second}
    (join : First → Second → Third) :
    (∃ result, (do return join (← first) (← second)) = Except.ok result)
      ↔ (∃ left, first = .ok left) ∧ ∃ right, second = .ok right := by
  cases first with
  | error failure => simp [bind, Except.bind]
  | ok left =>
    cases second with
    | error failure => simp [bind, Except.bind]
    | ok right => simp [bind, Except.bind, pure, Except.pure]

end

/-- A power has a derivative unless its exponent is the least one. -/
theorem powerDerivative_answers_iff (wrt : List Char) (exponent : Int) :
    (∃ result, powerDerivative wrt exponent = .ok result) ↔ exponent ≠ leastExponent := by
  unfold powerDerivative
  split
  · rename_i one
    simp [one, leastExponent]
  · split
    · rename_i zero
      simp [zero, leastExponent]
    · unfold exponentBelow
      split
      · rename_i least
        simp [least, bind, Except.bind]
      · rename_i above
        simp [above, bind, Except.bind, pure, Except.pure]

/-- A power has an integral unless its exponent is the greatest one. -/
theorem powerIntegral_answers_iff (wrt : List Char) (exponent : Int) :
    (∃ result, powerIntegral wrt exponent = .ok result) ↔ exponent ≠ greatestExponent := by
  unfold powerIntegral
  split
  · rename_i minusOne
    simp [minusOne, greatestExponent]
  · unfold exponentAbove
    split
    · rename_i greatest
      simp [greatest, bind, Except.bind]
    · rename_i below
      simp [below, bind, Except.bind, pure, Except.pure]

/-- The rule for powers, numbers and the name itself, from that for powers and the answers for the
other two. -/
def simpleRule (powerRule : Int → Except Overflow (List Char))
    (ofNumber ofName wrt chars : List Char) : Except Overflow (Option (List Char)) :=
  match powerOf? wrt chars with
  | some exponent => some <$> powerRule exponent
  | none =>
    if isNumber chars then .ok (some ofNumber)
    else if chars = wrt then .ok (some ofName)
    else .ok none

section

variable {powerRule : Int → Except Overflow (List Char)} {edge : Int} {ofNumber ofName : List Char}

/-- If the rule for powers breaks off at one exponent only, a simple text has an answer unless it is
a power with that exponent. -/
theorem simpleRule_answers_iff
    (range : ∀ exponent, (∃ result, powerRule exponent = .ok result) ↔ exponent ≠ edge) :
    (∃ found, simpleRule powerRule ofNumber ofName wrt chars = .ok found)
      ↔ powerOf? wrt chars ≠ some edge := by
  unfold simpleRule
  split
  · rename_i exponent isPower
    rw [map_answers_iff, range, isPower, ne_eq, ne_eq, Option.some.injEq]
  · rename_i noPower
    rw [noPower]
    repeat' split
    all_goals simp

/-- The rule for powers breaks off at that exponent only. -/
theorem powerOf?_of_simpleRule_eq_error {overflow : Overflow}
    (range : ∀ exponent, (∃ result, powerRule exponent = .ok result) ↔ exponent ≠ edge)
    (breaksOff : simpleRule powerRule ofNumber ofName wrt chars = .error overflow) :
    powerOf? wrt chars = some edge := by
  have answers := @simpleRule_answers_iff wrt chars _ _ ofNumber ofName range
  rw [breaksOff] at answers
  simpa using answers

/-- Only a simple text has an answer of its own. -/
theorem isSimple_of_simpleRule {result : List Char}
    (answers : simpleRule powerRule ofNumber ofName wrt chars = .ok (some result)) :
    IsSimple wrt chars := by
  unfold simpleRule at answers
  split at answers
  · rename_i exponent isPower
    exact .inl ⟨exponent, isPower⟩
  · split at answers
    · rename_i number
      exact .inr (.inl number)
    · split at answers
      · rename_i same
        exact .inr (.inr same)
      · simp at answers

end

/-- The derivatives of simple texts. -/
theorem simpleDerivative_eq (wrt chars : List Char) :
    simpleDerivative wrt chars = simpleRule (powerDerivative wrt) ['0'] ['1'] wrt chars :=
  rfl

/-- The integrals of simple texts. -/
theorem simpleIntegral_eq (wrt chars : List Char) :
    simpleIntegral wrt chars
      = simpleRule (powerIntegral wrt) (chars ++ '*' :: wrt) (wrt ++ "^2/2".toList) wrt chars :=
  rfl

/-- A simple text has a derivative unless it is a power with the least exponent. -/
theorem simpleDerivative_answers_iff (wrt chars : List Char) :
    (∃ found, simpleDerivative wrt chars = .ok found)
      ↔ powerOf? wrt chars ≠ some leastExponent := by
  rw [simpleDerivative_eq]
  exact simpleRule_answers_iff (powerDerivative_answers_iff wrt)

/-- A simple text has an integral unless it is a power with the greatest exponent. -/
theorem simpleIntegral_answers_iff (wrt chars : List Char) :
    (∃ found, simpleIntegral wrt chars = .ok found)
      ↔ powerOf? wrt chars ≠ some greatestExponent := by
  rw [simpleIntegral_eq]
  exact simpleRule_answers_iff (powerIntegral_answers_iff wrt)

/-- An addend has a derivative unless it is a power with the least exponent. -/
theorem addendDerivative_answers_iff (wrt part : List Char) :
    (∃ result, addendDerivative wrt part = .ok result)
      ↔ powerOf? wrt part ≠ some leastExponent := by
  rw [← simpleDerivative_answers_iff]
  unfold addendDerivative
  cases simpleDerivative wrt part with
  | error overflow => simp [bind, Except.bind]
  | ok found => cases found <;> simp [bind, Except.bind, pure, Except.pure]

/-- An addend has an integral unless it is a power with the greatest exponent. -/
theorem addendIntegral_answers_iff (wrt part : List Char) :
    (∃ result, addendIntegral wrt part = .ok result)
      ↔ powerOf? wrt part ≠ some greatestExponent := by
  rw [← simpleIntegral_answers_iff]
  unfold addendIntegral
  cases simpleIntegral wrt part with
  | error overflow => simp [bind, Except.bind]
  | ok found => cases found <;> simp [bind, Except.bind, pure, Except.pure]

/-- A factor has a derivative unless it is a power with the least exponent. -/
theorem factorDerivative_answers_iff (wrt factor : List Char) :
    (∃ result, factorDerivative wrt factor = .ok result)
      ↔ powerOf? wrt factor ≠ some leastExponent := by
  rw [← simpleDerivative_answers_iff]
  unfold factorDerivative
  cases simpleDerivative wrt factor with
  | error overflow => simp [bind, Except.bind]
  | ok found => simp [bind, Except.bind, pure, Except.pure]

/-- The factors of a product that has a derivative of its own are no powers. -/
theorem powerOf?_of_productDerivative? {left right result : List Char}
    (found : productDerivative? wrt left right = some result) :
    powerOf? wrt left = none ∧ powerOf? wrt right = none := by
  unfold productDerivative? at found
  split at found
  · rename_i both
    exact ⟨both.1 ▸ powerOf?_self wrt, powerOf?_of_isNumber both.2⟩
  · split at found
    · rename_i both
      exact ⟨powerOf?_of_isNumber both.2, both.1 ▸ powerOf?_self wrt⟩
    · split at found
      · rename_i both
        exact ⟨both.1 ▸ powerOf?_self wrt, both.2 ▸ powerOf?_self wrt⟩
      · contradiction

/-! ## Whole texts -/

/-- A text has a derivative unless it is, or has as an addend or a factor, a power with the least
exponent. -/
theorem differentiateChars_answers_iff (wrt expr : List Char) :
    (∃ result, differentiateChars wrt expr = .ok result)
      ↔ ∀ part ∈ differentiatedParts (Text.compact expr),
          powerOf? wrt part ≠ some leastExponent := by
  unfold differentiateChars
  generalize Text.compact expr = chars
  dsimp only
  cases whole : simpleDerivative wrt chars with
  | error overflow =>
    have isLeast := powerOf?_of_simpleRule_eq_error (powerDerivative_answers_iff wrt) whole
    simp [bind, Except.bind, differentiatedParts, isLeast]
  | ok found =>
    have notLeast := (simpleDerivative_answers_iff wrt chars).1 ⟨found, whole⟩
    cases found with
    | some result =>
      have simple : IsSimple wrt chars := isSimple_of_simpleRule whole
      refine ⟨fun _ part member => ?_, fun _ => ⟨result, rfl⟩⟩
      rcases simple.parts part member with rfl | noPower
      · exact notLeast
      · simp [noPower]
    | none =>
      unfold differentiatedParts
      rw [List.forall_mem_cons, and_iff_right notLeast]
      cases addends? chars with
      | some parts =>
        have each : (∀ part ∈ parts, powerOf? wrt part ≠ some leastExponent)
            ↔ ∃ results, parts.mapM (addendDerivative wrt) = .ok results := by
          simp only [mapM_answers_iff, addendDerivative_answers_iff]
        dsimp only
        rw [each]
        exact map_answers_iff (" + ".toList.intercalate ·)
      | none =>
        cases factors : twoFactors? chars with
        | none => exact ⟨fun _ => by simp, fun _ => ⟨_, rfl⟩⟩
        | some both =>
          obtain ⟨left, right⟩ := both
          dsimp only
          rw [List.forall_mem_cons, List.forall_mem_singleton]
          cases product : productDerivative? wrt left right with
          | some result =>
            obtain ⟨leftNoPower, rightNoPower⟩ := powerOf?_of_productDerivative? product
            exact ⟨fun _ => by simp [leftNoPower, rightNoPower], fun _ => ⟨result, rfl⟩⟩
          | none =>
            rw [← factorDerivative_answers_iff, ← factorDerivative_answers_iff]
            exact join_answers_iff fun leftDerivative rightDerivative =>
              left ++ '*' :: rightDerivative ++ " + ".toList ++ right ++ '*' :: leftDerivative

/-- A text has an integral unless it is, or has as an addend, a power with the greatest exponent. -/
theorem integrateChars_answers_iff (wrt expr : List Char) :
    (∃ result, integrateChars wrt expr = .ok result)
      ↔ ∀ part ∈ integratedParts (Text.compact expr),
          powerOf? wrt part ≠ some greatestExponent := by
  unfold integrateChars
  generalize Text.compact expr = chars
  dsimp only
  cases whole : simpleIntegral wrt chars with
  | error overflow =>
    have isGreatest := powerOf?_of_simpleRule_eq_error (powerIntegral_answers_iff wrt) whole
    simp [bind, Except.bind, integratedParts, isGreatest]
  | ok found =>
    have notGreatest := (simpleIntegral_answers_iff wrt chars).1 ⟨found, whole⟩
    unfold integratedParts
    rw [List.forall_mem_cons, and_iff_right notGreatest]
    cases found with
    | some result =>
      have simple : IsSimple wrt chars := isSimple_of_simpleRule whole
      refine ⟨fun _ part member => ?_, fun _ => ⟨withConstant result, rfl⟩⟩
      cases sum : addends? chars with
      | none => simp [sum] at member
      | some parts =>
        rw [simple.powerOf?_eq_none (.inl rfl) (mem_of_addends? sum) part]
        simp
    | none =>
      cases addends? chars with
      | some parts =>
        have each : (∀ part ∈ parts, powerOf? wrt part ≠ some greatestExponent)
            ↔ ∃ results, parts.mapM (addendIntegral wrt) = .ok results := by
          simp only [mapM_answers_iff, addendIntegral_answers_iff]
        rw [Option.getD_some, each]
        exact map_answers_iff fun results => withConstant (" + ".toList.intercalate results)
      | none => exact ⟨fun _ => by simp, fun _ => ⟨_, rfl⟩⟩

/-- The rules of calculus answer every text by every name unless an exponent would leave its range:
a derivative breaks off if and only if the text without its blanks is a power of the name with the
least exponent, or has one as an addend, or else as one of two factors; an integral if and only if
the text is a power with the greatest exponent or has one as an addend. In no text with fewer than
2147483648 parentheses whose positions are in their range does a rule break off anywhere else, and
there the rules that split by positions answer the same. -/
theorem rules_answer_iff (wrt expr : String) :
    ((∃ result, differentiate wrt expr = .ok result)
        ↔ ∀ part ∈ differentiatedParts (Text.compact expr.toList),
            powerOf? wrt.toList part ≠ some leastExponent)
      ∧ ((∃ result, integrate wrt expr = .ok result)
        ↔ ∀ part ∈ integratedParts (Text.compact expr.toList),
            powerOf? wrt.toList part ≠ some greatestExponent)
      ∧ (expr.toList.countP Lexer.isParen < 2 ^ 31 → byteLength expr.toList ≤ Fault.lastPosition →
        guardedDifferentiate wrt expr = Guarded.ofOverflow (differentiate wrt expr)
          ∧ guardedIntegrate wrt expr = Guarded.ofOverflow (integrate wrt expr)) := by
  refine ⟨?_, ?_, fun few fits => ?_⟩
  · rw [differentiate, map_answers_iff]
    exact differentiateChars_answers_iff _ _
  · rw [integrate, map_answers_iff]
    exact integrateChars_answers_iff _ _
  · have countable : Countable expr.toList := ⟨few, fits⟩
    exact ⟨countable.guardedDifferentiate_eq wrt, countable.guardedIntegrate_eq wrt⟩

/-- The exponent next to the least one breaks nothing off, and neither does the greatest one where
another name is raised to it. -/
theorem rules_answer_iff_beside_edges :
    let expr := "(x ^ 2) + x^(-9223372036854775807) * y^9223372036854775807"
    expr.toList.countP Lexer.isParen < 2 ^ 31 ∧ byteLength expr.toList ≤ Fault.lastPosition
      ∧ (∃ result, guardedDifferentiate "x" expr = .ok result)
      ∧ ∃ result, guardedIntegrate "x" expr = .ok result := by
  intro expr
  have few : expr.toList.countP Lexer.isParen < 2 ^ 31 := by decide
  have fits : byteLength expr.toList ≤ Fault.lastPosition := by decide
  obtain ⟨derivative, integral, guarded⟩ := rules_answer_iff "x" expr
  obtain ⟨result, differentiated⟩ := derivative.2 (by decide)
  obtain ⟨other, integrated⟩ := integral.2 (by decide)
  obtain ⟨same, sameIntegral⟩ := guarded few fits
  exact ⟨few, fits, ⟨result, by rw [same, differentiated]; rfl⟩,
    ⟨other, by rw [sameIntegral, integrated]; rfl⟩⟩

/-- A power with the least exponent has no derivative and one with the greatest exponent has no
integral. -/
theorem rules_break_off_at_edges :
    (¬ ∃ result, differentiate "x" "x^-9223372036854775808" = .ok result)
      ∧ ¬ ∃ result, integrate "x" "x^9223372036854775807" = .ok result := by
  have derivative : differentiate "x" "x^-9223372036854775808" = .error .subtracting := by rfl
  have integral : integrate "x" "x^9223372036854775807" = .error .adding := by rfl
  rw [derivative, integral]
  simp

end Workings.Calculus
