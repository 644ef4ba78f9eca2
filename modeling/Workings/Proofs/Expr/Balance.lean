import Workings.Proofs.Token.Splitting

/-!
# Parentheses that match

In the text of every phrase of the grammar, parentheses match. So a search for the end of a part
skips such a text, unless a character that ends the part stands outside the parentheses of the text.
This tells which texts are split as one derivative or one integral, and where.
-/

namespace Workings

namespace Expr

open Lexer (isParen parens)

/-- A text in which parentheses match. No character that stops stands outside them. -/
inductive Sheltered : (stops : Char → Bool) → List Char → Prop where
  | nil {stops : Char → Bool} : Sheltered stops []
  | plain {stops : Char → Bool} {char : Char} {chars : List Char} (noParen : ¬ isParen char)
      (goesOn : stops char = false) (rest : Sheltered stops chars) : Sheltered stops (char :: chars)
  | group {stops : Char → Bool} {inside chars : List Char}
      (inner : Sheltered (fun _ => false) inside) (rest : Sheltered stops chars) :
      Sheltered stops ('(' :: (inside ++ ')' :: chars))

/-- A text in which parentheses match. -/
abbrev Balanced (chars : List Char) : Prop :=
  Sheltered (fun _ => false) chars

variable {stops : Char → Bool} {chars : List Char}

/-- Two sheltered texts are sheltered one after the other. -/
theorem Sheltered.append {others : List Char} (first : Sheltered stops chars)
    (second : Sheltered stops others) : Sheltered stops (chars ++ others) := by
  induction first with
  | nil => exact second
  | plain noParen goesOn _ hypothesis => exact .plain noParen goesOn (hypothesis second)
  | group inner _ _ hypothesis =>
    rw [List.cons_append, List.append_assoc, List.cons_append]
    exact .group inner (hypothesis second)

/-- A text without parentheses and without characters that stop is sheltered. -/
theorem sheltered_of_plain (plain : ∀ char ∈ chars, ¬ isParen char ∧ stops char = false) :
    Sheltered stops chars := by
  induction chars with
  | nil => exact .nil
  | cons char rest hypothesis =>
    rw [List.forall_mem_cons] at plain
    exact .plain plain.1.1 plain.1.2 (hypothesis plain.2)

/-- Parentheses match in a text without any. -/
theorem balanced_of_filter_eq_nil (none_paren : chars.filter isParen = []) : Balanced chars :=
  sheltered_of_plain fun char member => ⟨List.filter_eq_nil_iff.1 none_paren char member, rfl⟩

/-- Parentheses match in a text if those do that stand between its first and its last one. -/
theorem balanced_of_parenthesized {inner : List Char}
    (same : chars.filter isParen = '(' :: (inner ++ [')']))
    (balanced : ∀ inside : List Char, inside.filter isParen = inner → Balanced inside) :
    Balanced chars := by
  obtain ⟨before, behind, rfl, nothingBefore, -, behindOpening⟩ := List.filter_eq_cons_iff.1 same
  obtain ⟨inside, rest, rfl, isInner, ending⟩ := List.filter_eq_append_iff.1 behindOpening
  obtain ⟨gap, after, rfl, nothingBetween, -, nothingAfter⟩ := List.filter_eq_cons_iff.1 ending
  have gap_balanced := balanced_of_filter_eq_nil (List.filter_eq_nil_iff.2 nothingBetween)
  have group := Sheltered.group ((balanced inside isInner).append gap_balanced)
    (balanced_of_filter_eq_nil nothingAfter)
  have whole := (balanced_of_filter_eq_nil (List.filter_eq_nil_iff.2 nothingBefore)).append group
  rwa [List.append_assoc] at whole

end Expr

/-- Parentheses match in every text that has the parentheses of a phrase. -/
theorem Derives.balanced {phrase : Phrase} {words : List Word} {expr : Expr}
    (derives : Derives phrase words expr) {chars : List Char}
    (same : chars.filter Lexer.isParen = words.flatMap Lexer.parens) : Expr.Balanced chars := by
  induction derives generalizing chars with
  | chain _ _ operandHypothesis afterHypothesis =>
    rw [List.flatMap_append] at same
    obtain ⟨first, rest, rfl, isFirst, isRest⟩ := List.filter_eq_append_iff.1 same
    exact (operandHypothesis isFirst).append (afterHypothesis isRest)
  | joined _ _ _ operandHypothesis afterHypothesis =>
    simp only [List.flatMap_cons, List.flatMap_append, Lexer.parens, List.nil_append] at same
    obtain ⟨first, rest, rfl, isFirst, isRest⟩ := List.filter_eq_append_iff.1 same
    exact (operandHypothesis isFirst).append (afterHypothesis isRest)
  | signed _ hypothesis | unsigned _ hypothesis => exact hypothesis same
  | done | number _ | name | differential => exact Expr.balanced_of_filter_eq_nil same
  | call _ hypothesis | paren _ hypothesis | derivative _ hypothesis | integral _ hypothesis =>
    simp only [List.flatMap_cons, List.flatMap_append, Lexer.parens] at same
    exact Expr.balanced_of_parenthesized same fun _ => hypothesis

/-- Parentheses match in every text whose words are a phrase. -/
theorem Lexer.Scans.balanced {chars : List Char} {found : List Word} {phrase : Phrase}
    {expr : Expr} (scans : Scans chars found) (derives : Derives phrase found expr) :
    Expr.Balanced chars :=
  derives.balanced scans.filter_isParen

namespace Expr

/-! ## Looking for the end of a part -/

variable {stops stops' : Char → Bool} {chars : List Char}

/-- The parenthesis that closes others is not looked for between parentheses that match. -/
theorem Sheltered.splitClosing (sheltered : Sheltered stops chars) (depth : Nat)
    (after : List Char) :
    splitClosing depth (chars ++ after)
      = (splitClosing depth after).map fun (inside, behind) => (chars ++ inside, behind) := by
  induction sheltered generalizing depth after with
  | nil => simp
  | @plain _ char rest noParen _ _ hypothesis =>
    have step (following : List Char) : Expr.splitClosing depth (char :: following)
        = (Expr.splitClosing depth following).map fun (inside, behind) =>
          (char :: inside, behind) := by
      simp only [Lexer.isParen, Bool.or_eq_true, decide_eq_true_eq, not_or] at noParen
      cases depth <;> simp [Expr.splitClosing, noParen]
    rw [List.cons_append, step, hypothesis, Option.map_map]
    rfl
  | @group _ inside rest _ _ innerHypothesis hypothesis =>
    rw [List.cons_append, List.append_assoc, List.cons_append, Expr.splitClosing, innerHypothesis,
      Expr.splitClosing, hypothesis]
    simp only [Option.map_map]
    congr 1
    funext parts
    simp

/-- A search through a text for the first character that stops outside parentheses. -/
structure Skims (stops : Char → Bool)
    (split : Int → List Char → Option (List Char × List Char)) : Prop where
  opening : stops '(' = false
  step : ∀ {depth : Int} {char : Char} (rest : List Char), (depth = 0 → stops char = false) →
    split depth (char :: rest)
      = (split (if char = '(' then depth + 1 else if char = ')' then depth - 1 else depth) rest).map
        fun (part, behind) => (char :: part, behind)

/-- A search skips texts in which parentheses match, if it is between parentheses itself or stops at
nothing outside those of the text. -/
theorem Skims.skip {split : Int → List Char → Option (List Char × List Char)}
    (skims : Skims stops split) (sheltered : Sheltered stops' chars) {depth : Int}
    (nonneg : 0 ≤ depth) (goesOn : depth = 0 → ∀ char, stops' char = false → stops char = false)
    (after : List Char) :
    split depth (chars ++ after)
      = (split depth after).map fun (part, behind) => (chars ++ part, behind) := by
  induction sheltered generalizing depth after with
  | nil => simp
  | @plain stops' char rest noParen noStop _ hypothesis =>
    simp only [Lexer.isParen, Bool.or_eq_true, decide_eq_true_eq, not_or] at noParen
    rw [List.cons_append, skims.step _ fun outside => goesOn outside char noStop,
      if_neg noParen.1, if_neg noParen.2, hypothesis nonneg goesOn, Option.map_map]
    rfl
  | @group _ inside rest _ _ innerHypothesis hypothesis =>
    have between : depth + 1 = 0 → ∀ char, false = false → stops char = false :=
      fun outside => absurd outside (by omega)
    rw [List.cons_append, List.append_assoc, List.cons_append,
      skims.step _ fun _ => skims.opening, if_pos rfl, innerHypothesis (by omega) between,
      skims.step _ fun outside => absurd outside (by omega), if_neg (by decide), if_pos rfl,
      Int.add_sub_cancel, hypothesis nonneg goesOn]
    simp only [Option.map_map]
    congr 1
    funext parts
    simp

/-- Whoever looks for a caret skims. -/
theorem skims_splitCaret : Skims (· = '^') splitCaret where
  opening := by decide
  step := by
    intro depth char rest goesOn
    have stopsNot : ¬ (char = '^' ∧ depth = 0) := by
      rintro ⟨caret, outside⟩
      exact absurd (goesOn outside) (by simpa using caret)
    rw [splitCaret, if_neg stopsNot]

/-- Whoever looks for a blank skims, once something stands in front of it. -/
theorem skims_splitBlank : Skims Text.isBlank (splitBlank true) where
  opening := by decide
  step := by
    intro depth char rest goesOn
    have stopsNot : ¬ (Text.isBlank char ∧ depth = 0 ∧ true) := by
      rintro ⟨blank, outside, -⟩
      rw [goesOn outside] at blank
      contradiction
    rw [splitBlank, if_neg stopsNot]

/-- What stands between parentheses is split off if parentheses match in it. -/
theorem splitClosing_balanced (balanced : Balanced chars) (behind : List Char) :
    splitClosing 0 (chars ++ ')' :: behind) = some (chars, behind) := by
  simp [balanced.splitClosing, splitClosing]

/-- A lower bound is split off in front of its caret. -/
theorem splitCaret_sheltered (sheltered : Sheltered (· = '^') chars) (behind : List Char) :
    splitCaret 0 (chars ++ '^' :: behind) = some (chars, behind) := by
  rw [skims_splitCaret.skip sheltered (Int.le_refl 0) fun _ _ noCaret => noCaret]
  simp [splitCaret]

/-- An upper bound is split off in front of the blank behind it. -/
theorem splitBlank_sheltered (sheltered : Sheltered Text.isBlank chars) (nonempty : chars ≠ [])
    (behind : List Char) :
    splitBlank false 0 (chars ++ ' ' :: behind) = some (chars, ' ' :: behind) := by
  have begins : splitBlank false 0 (chars ++ ' ' :: behind)
      = splitBlank true 0 (chars ++ ' ' :: behind) := by
    cases sheltered with
    | nil => contradiction
    | plain _ noBlank _ => simp [splitBlank, noBlank]
    | group => simp [splitBlank, show Text.isBlank '(' = false by decide]
  have space : Text.isBlank ' ' = true := by decide
  rw [begins, skims_splitBlank.skip sheltered (Int.le_refl 0) fun _ _ noBlank => noBlank]
  simp [splitBlank, space]

/-! ## Shapes of texts -/

/-- What is split at a closing parenthesis stands in front of it and behind it. -/
theorem of_splitClosing {depth : Nat} {inside behind : List Char}
    (split : splitClosing depth chars = some (inside, behind)) :
    chars = inside ++ ')' :: behind := by
  fun_induction splitClosing depth chars generalizing inside behind with
  | case1 => contradiction
  | case3 =>
    obtain ⟨rfl, rfl⟩ := Prod.mk.inj (Option.some.inj split)
    rfl
  | case2 _ _ hypothesis | case4 _ _ hypothesis | case5 _ _ _ _ _ _ hypothesis =>
    obtain ⟨⟨first, rest⟩, splitRest, parts⟩ := Option.map_eq_some_iff.1 split
    obtain ⟨rfl, rfl⟩ := Prod.mk.inj parts
    rw [hypothesis splitRest, List.cons_append]

/-- What is split at a caret stands in front of it and behind it. -/
theorem of_splitCaret {depth : Int} {bound behind : List Char}
    (split : splitCaret depth chars = some (bound, behind)) : chars = bound ++ '^' :: behind := by
  induction chars generalizing depth bound with
  | nil => contradiction
  | cons char rest hypothesis =>
    simp only [splitCaret] at split
    split at split
    · rename_i caret
      obtain ⟨rfl, rfl⟩ := Prod.mk.inj (Option.some.inj split)
      rw [caret.1]
      rfl
    · obtain ⟨⟨first, after⟩, splitRest, parts⟩ := Option.map_eq_some_iff.1 split
      obtain ⟨rfl, rfl⟩ := Prod.mk.inj parts
      rw [hypothesis splitRest, List.cons_append]

/-- What is split at a blank stands in front of it and from it on. -/
theorem of_splitBlank {begun : Bool} {depth : Int} {bound behind : List Char}
    (split : splitBlank begun depth chars = some (bound, behind)) : chars = bound ++ behind := by
  induction chars generalizing begun depth bound with
  | nil => contradiction
  | cons char rest hypothesis =>
    simp only [splitBlank] at split
    split at split
    · obtain ⟨rfl, rfl⟩ := Prod.mk.inj (Option.some.inj split)
      rfl
    · obtain ⟨⟨first, after⟩, splitRest, parts⟩ := Option.map_eq_some_iff.1 split
      obtain ⟨rfl, rfl⟩ := Prod.mk.inj parts
      rw [hypothesis splitRest, List.cons_append]

/-- The parts of the body of an integral with bounds stand one behind the other. -/
theorem of_boundedText_split? {lower upper body : List Char}
    (split : BoundedText.split? chars = some ⟨lower, upper, body⟩) :
    chars = lower ++ '^' :: (upper ++ body) := by
  obtain ⟨⟨first, behind⟩, splitLower, split⟩ := Option.bind_eq_some_iff.1 split
  obtain ⟨⟨second, rest⟩, splitUpper, same⟩ := Option.bind_eq_some_iff.1 split
  obtain ⟨rfl, rfl, rfl⟩ := BoundedText.mk.inj (Option.some.inj same)
  rw [of_splitCaret splitLower, of_splitBlank splitUpper]

/-- A name has no parenthesis. -/
theorem not_isParen_of_isIdentifier {name : List Char} (identifier : isIdentifier name) :
    ∀ char ∈ name, ¬ Lexer.isParen char :=
  fun char member => Lexer.not_isParen (.inr (Lexer.continuesName_of_mem identifier char member))

/-- A text is split at the first parenthesis behind the operator of a derivative. -/
theorem derivativeText_split?_opening {wrt : List Char} (absent : '(' ∉ wrt)
    (behind : List Char) :
    DerivativeText.split? ('d' :: '/' :: 'd' :: (wrt ++ '(' :: behind))
      = if isIdentifier wrt then
          match splitClosing 0 behind with
          | some (body, []) => some ⟨wrt, body⟩
          | _ => none
        else none := by
  have isFront : ∀ char ∈ wrt, decide (char ≠ '(') = true := by
    intro char member
    refine decide_eq_true fun same => absent ?_
    rwa [← same]
  have front_eq : (wrt ++ '(' :: behind).takeWhile (· ≠ '(') = wrt := by
    rw [List.takeWhile_append_of_pos isFront]
    simp
  have rest_eq : (wrt ++ '(' :: behind).dropWhile (· ≠ '(') = '(' :: behind := by
    rw [List.dropWhile_append_of_pos isFront]
    simp
  rcases closes : splitClosing 0 behind with _ | ⟨body, _ | ⟨char, after⟩⟩ <;>
    simp only [DerivativeText.split?, front_eq, rest_eq, closes]

/-- A text is split as a derivative if it is one by a name, and its last parenthesis closes the one
behind the name. -/
theorem derivativeText_split?_iff {wrt body : List Char} :
    DerivativeText.split? chars = some ⟨wrt, body⟩
      ↔ chars = 'd' :: '/' :: 'd' :: (wrt ++ '(' :: (body ++ [')'])) ∧ isIdentifier wrt
        ∧ splitClosing 0 (body ++ [')']) = some (body, []) := by
  constructor
  · intro split
    unfold DerivativeText.split? at split
    split at split
    · rename_i rest
      have parts := List.takeWhile_append_dropWhile (p := (· ≠ '(')) (l := rest)
      dsimp only at split
      split at split
      · contradiction
      · rename_i char behind drop_eq
        have opening : char = '(' := by
          have stopped := List.head?_dropWhile_not (· ≠ '(') rest
          rw [drop_eq] at stopped
          simpa using stopped
        split_ifs at split with identifier
        split at split
        · rename_i closes
          simp only [Option.some.injEq, DerivativeText.mk.injEq] at split
          obtain ⟨rfl, rfl⟩ := split
          obtain rfl := of_splitClosing closes
          rw [drop_eq, opening] at parts
          exact ⟨by rw [parts], identifier, closes⟩
        · contradiction
    · contradiction
  · rintro ⟨rfl, identifier, closes⟩
    have absent : '(' ∉ wrt := fun member =>
      not_isParen_of_isIdentifier identifier '(' member rfl
    rw [derivativeText_split?_opening absent, if_pos identifier, closes]

/-- A text is split as an integral if it is one by a letter. The body ends in front of the
blanks. -/
theorem integralText_split?_iff {wrt : Char} {body : List Char} :
    IntegralText.split? chars = some ⟨wrt, body⟩
      ↔ (∃ blanks, chars = '∫' :: (body ++ (blanks ++ ['d', wrt])) ∧ blanks ≠ []
          ∧ ∀ char ∈ blanks, Text.isBlank char)
        ∧ Lexer.isLetter wrt ∧ ∀ last ∈ body.getLast?, Text.isBlank last = false := by
  constructor
  · intro split
    unfold IntegralText.split? at split
    split at split
    · rename_i rest
      dsimp only at split
      split at split
      · rename_i letter before reverse_eq
        split_ifs at split with shape
        simp only [Option.some.injEq, IntegralText.mk.injEq] at split
        obtain ⟨rfl, rfl⟩ := split
        obtain ⟨isLetter, shorter⟩ := Bool.and_eq_true_iff.1 shape
        have parts := List.takeWhile_append_dropWhile (p := Text.isBlank) (l := before)
        refine ⟨⟨(before.takeWhile Text.isBlank).reverse, ?_, ?_, ?_⟩, isLetter, ?_⟩
        · have rest_eq := congrArg List.reverse reverse_eq
          rw [List.reverse_reverse, ← parts] at rest_eq
          simp only [rest_eq, List.reverse_cons, List.reverse_append, List.append_assoc,
            List.cons_append, List.nil_append]
        · intro nothing
          rw [List.reverse_eq_nil_iff.1 nothing, List.nil_append] at parts
          rw [parts, List.length_reverse] at shorter
          simp at shorter
        · intro char member
          exact List.all_eq_true.1 List.all_takeWhile char (List.mem_reverse.1 member)
        · intro last isLast
          rw [List.getLast?_reverse] at isLast
          have stopped := List.head?_dropWhile_not Text.isBlank before
          rw [Option.mem_def.1 isLast] at stopped
          simpa using stopped
      · contradiction
    · contradiction
  · rintro ⟨⟨blanks, rfl, nonempty, areBlank⟩, isLetter, noBlank⟩
    have reverse_eq : (body ++ (blanks ++ ['d', wrt])).reverse
        = wrt :: 'd' :: (blanks.reverse ++ body.reverse) := by simp
    have dropped : (blanks.reverse ++ body.reverse).dropWhile Text.isBlank = body.reverse := by
      rw [List.dropWhile_append_of_pos fun char member => areBlank char (List.mem_reverse.1 member)]
      rw [← List.head?_reverse] at noBlank
      cases same : body.reverse with
      | nil => rfl
      | cons last front =>
        rw [same] at noBlank
        simp [noBlank last rfl]
    have shorter : body.length < (blanks.reverse ++ body.reverse).length := by
      have positive := List.length_pos_iff.2 nonempty
      simp only [List.length_append, List.length_reverse]
      omega
    simp only [IntegralText.split?, reverse_eq, dropped, List.reverse_reverse, isLetter, shorter,
      decide_true, Bool.and_self, if_true]

end Expr

end Workings
