import Workings.Calculus.Split
import Workings.Proofs.Expr.Balance

/-!
# What splitting at the top level finds

A text is put together again from its parts. Where parentheses match, what follows a text is split
as if it stood alone, but that its first part continues the last one of the text. So an operator
that stands between two such texts parts them, and nothing inside parentheses does.
-/

namespace Workings.Calculus

open Workings.Expr (Sheltered Balanced)

variable {op : Char} {chars after : List Char}

/-- There is always a first part. -/
theorem splitTop_ne_nil (op : Char) (chars : List Char) : splitTop op chars ≠ [] :=
  List.cons_ne_nil _ _

/-- A text is put together again from its parts. -/
theorem intercalate_splitTop (op : Char) (chars : List Char) :
    [op].intercalate (splitTop op chars) = chars := by
  have parts (depth : Int) :
      [op].intercalate ((splitFrom op depth chars).1 :: (splitFrom op depth chars).2) = chars := by
    induction chars generalizing depth with
    | nil => simp [splitFrom, List.intercalate]
    | cons char rest hypothesis =>
      have restParts := hypothesis (depthAfter depth char)
      simp only [splitFrom]
      split
      · rename_i isOperator
        rw [← isOperator.1]
        rw [← isOperator.1] at restParts
        simpa [List.intercalate] using restParts
      · cases others : (splitFrom op (depthAfter depth char) rest).2 with
        | nil => simpa [List.intercalate, others] using restParts
        | cons next following => simpa [List.intercalate, others] using restParts
  exact parts 0

/-- Every part is cut out of what the parts are joined to. -/
theorem infix_intercalate {separator part : List Char} {parts : List (List Char)}
    (member : part ∈ parts) : part <:+: separator.intercalate parts := by
  induction parts with
  | nil => contradiction
  | cons first rest hypothesis =>
    cases rest with
    | nil =>
      obtain rfl := List.mem_singleton.1 member
      simp [List.intercalate]
    | cons next following =>
      have joined : separator.intercalate (first :: next :: following)
          = first ++ (separator ++ separator.intercalate (next :: following)) := by
        simp [List.intercalate]
      rw [joined]
      rcases List.mem_cons.1 member with rfl | later
      · exact (List.prefix_append _ _).isInfix
      · exact (hypothesis later).trans
          ((List.suffix_append _ _).trans (List.suffix_append _ _)).isInfix

/-- Every part of a text is cut out of it. -/
theorem infix_of_mem_splitTop {part : List Char} (member : part ∈ splitTop op chars) :
    part <:+: chars := by
  have cut : part <:+: [op].intercalate (splitTop op chars) := infix_intercalate member
  rwa [intercalate_splitTop] at cut

/-- The only part of a text is the text. -/
theorem eq_of_splitTop {part : List Char} (splits : splitTop op chars = [part]) : part = chars := by
  have joined := intercalate_splitTop op chars
  rw [splits] at joined
  simpa [List.intercalate] using joined

/-- Nothing is parted inside a text in which parentheses match, if other parentheses are open or no
such operator stands outside those of the text. -/
theorem splitFrom_append {stops : Char → Bool} (sheltered : Sheltered stops chars)
    (noParen : ¬ Lexer.isParen op) {depth : Int} (nonneg : 0 ≤ depth)
    (goesOn : depth = 0 → ∀ char, stops char = false → char ≠ op) (after : List Char) :
    splitFrom op depth (chars ++ after)
      = (chars ++ (splitFrom op depth after).1, (splitFrom op depth after).2) := by
  simp only [Lexer.isParen, Bool.or_eq_true, decide_eq_true_eq, not_or] at noParen
  induction sheltered generalizing depth after with
  | nil => rfl
  | @plain stops char rest charNoParen noStop _ hypothesis =>
    simp only [Lexer.isParen, Bool.or_eq_true, decide_eq_true_eq, not_or] at charNoParen
    have level : depthAfter depth char = depth := by
      rw [depthAfter, if_neg charNoParen.1, if_neg charNoParen.2]
    have passes : ¬ (char = op ∧ depth = 0) := fun both =>
      goesOn both.2 char noStop both.1
    rw [List.cons_append, splitFrom, level, hypothesis nonneg goesOn]
    simp only [if_neg passes, List.cons_append]
  | @group stops inside rest _ _ innerHypothesis hypothesis =>
    have opens : depthAfter depth '(' = depth + 1 := rfl
    have closes : depthAfter (depth + 1) ')' = depth := by simp [depthAfter]
    have notOpening : ¬ ('(' = op ∧ depth = 0) := fun both => noParen.1 both.1.symm
    have notClosing : ¬ (')' = op ∧ depth + 1 = 0) := fun both => noParen.2 both.1.symm
    have between : depth + 1 = 0 → ∀ char, false = false → char ≠ op :=
      fun outside => absurd outside (by omega)
    rw [List.cons_append, List.append_assoc, List.cons_append, splitFrom, opens,
      innerHypothesis (by omega) between, splitFrom, closes, hypothesis nonneg goesOn]
    simp only [if_neg notOpening, if_neg notClosing, List.cons_append, List.append_assoc]

/-- A text in which no such operator stands outside parentheses belongs to the first part. -/
theorem splitTop_passed {passed : List Char} (sheltered : Sheltered (· = op) passed)
    (noParen : ¬ Lexer.isParen op) (after : List Char) :
    splitTop op (passed ++ after) = (splitTop op after).modifyHead (passed ++ ·) := by
  have passes := splitFrom_append sheltered noParen (Int.le_refl 0)
    (fun _ char differs => by simpa using differs) after
  simp only [splitTop, passes, List.modifyHead_cons]

/-- A text in which no such operator stands outside parentheses is not parted. -/
theorem splitTop_sheltered (sheltered : Sheltered (· = op) chars) (noParen : ¬ Lexer.isParen op) :
    splitTop op chars = [chars] := by
  have splits := splitTop_passed sheltered noParen []
  rw [List.append_nil] at splits
  simpa [splitTop, splitFrom] using splits

/-- An operator at the beginning has an empty part in front of it. -/
theorem splitTop_cons (noParen : ¬ Lexer.isParen op) (after : List Char) :
    splitTop op (op :: after) = [] :: splitTop op after := by
  simp only [Lexer.isParen, Bool.or_eq_true, decide_eq_true_eq, not_or] at noParen
  have level : depthAfter 0 op = 0 := by rw [depthAfter, if_neg noParen.1, if_neg noParen.2]
  simp [splitTop, splitFrom, level]

/-! ## Texts one after the other -/

/-- The parts of two texts, one after the other: the last part of the one goes on as the first part
of the other. -/
def joinParts : List (List Char) → List (List Char) → List (List Char)
  | [], others => others
  | [last], others => others.modifyHead (last ++ ·)
  | part :: next :: rest, others => part :: joinParts (next :: rest) others

/-- A part in front of others is one in front of what they are joined to. -/
theorem joinParts_cons {parts : List (List Char)} (nonempty : parts ≠ []) (part : List Char)
    (others : List (List Char)) :
    joinParts (part :: parts) others = part :: joinParts parts others := by
  obtain ⟨next, rest, rfl⟩ := List.exists_cons_of_ne_nil nonempty
  rfl

/-- What stands in front of the first part stands in front of what the parts are joined to. -/
theorem joinParts_modifyHead {parts : List (List Char)} (nonempty : parts ≠ [])
    (passed : List Char) (others : List (List Char)) :
    joinParts (parts.modifyHead (passed ++ ·)) others
      = (joinParts parts others).modifyHead (passed ++ ·) := by
  match parts with
  | [] => contradiction
  | [last] => cases others <;> simp [joinParts]
  | part :: next :: rest => rfl

/-- Parts are joined to others with an operator between them. -/
theorem joinParts_nil_cons {parts : List (List Char)} (nonempty : parts ≠ [])
    (others : List (List Char)) : joinParts parts ([] :: others) = parts ++ others := by
  induction parts with
  | nil => contradiction
  | cons part rest hypothesis =>
    cases rest with
    | nil => simp [joinParts]
    | cons next following =>
      rw [joinParts_cons (List.cons_ne_nil _ _), hypothesis (List.cons_ne_nil _ _)]
      rfl

/-- A single part continues the last one. -/
theorem joinParts_singleton (front : List (List Char)) (last part : List Char) :
    joinParts (front ++ [last]) [part] = front ++ [last ++ part] := by
  induction front with
  | nil => rfl
  | cons first rest hypothesis =>
    rw [List.cons_append, joinParts_cons (by simp), hypothesis]
    rfl

/-- Behind a text in which parentheses match, the first part continues the last one of the text. -/
theorem splitTop_append (noParen : ¬ Lexer.isParen op) {stops : Char → Bool}
    (sheltered : Sheltered stops chars) (after : List Char) :
    splitTop op (chars ++ after) = joinParts (splitTop op chars) (splitTop op after) := by
  induction sheltered with
  | nil =>
    have whole : (splitTop op after).modifyHead ([] ++ ·) = splitTop op after := by
      simp [splitTop]
    exact whole.symm
  | @plain _ char rest charNoParen _ _ hypothesis =>
    by_cases isOperator : char = op
    · rw [isOperator, List.cons_append, splitTop_cons noParen, hypothesis, splitTop_cons noParen,
        joinParts_cons (splitTop_ne_nil _ _)]
    · have single : Sheltered (· = op) [char] := .plain charNoParen (by simpa using isOperator) .nil
      have passes := splitTop_passed single noParen
      change splitTop op ([char] ++ (rest ++ after))
        = joinParts (splitTop op ([char] ++ rest)) (splitTop op after)
      rw [passes, passes, hypothesis, joinParts_modifyHead (splitTop_ne_nil _ _)]
  | @group _ inside rest inner _ _ hypothesis =>
    have group : Sheltered (· = op) ('(' :: (inside ++ [')'])) := .group inner .nil
    have passes := splitTop_passed group noParen
    have same (text : List Char) :
        '(' :: (inside ++ ')' :: text) = '(' :: (inside ++ [')']) ++ text := by simp
    rw [List.cons_append, List.append_assoc, List.cons_append, same (rest ++ after), same rest,
      passes, passes, hypothesis, joinParts_modifyHead (splitTop_ne_nil _ _)]

/-- An operator behind a text in which parentheses match parts it from what follows. -/
theorem splitTop_operator (noParen : ¬ Lexer.isParen op) (balanced : Balanced chars)
    (after : List Char) :
    splitTop op (chars ++ op :: after) = splitTop op chars ++ splitTop op after := by
  rw [splitTop_append noParen balanced, splitTop_cons noParen,
    joinParts_nil_cons (splitTop_ne_nil _ _)]

/-- If an operator behind a text in which parentheses match is the only one that parts the whole,
the text and what follows the operator are the parts. -/
theorem eq_of_splitTop_operator (noParen : ¬ Lexer.isParen op) (balanced : Balanced chars)
    {left right : List Char} (splits : splitTop op (chars ++ op :: after) = [left, right]) :
    left = chars ∧ right = after := by
  obtain ⟨first, others, same⟩ := List.exists_cons_of_ne_nil (splitTop_ne_nil op chars)
  rw [splitTop_operator noParen balanced, same, List.cons_append, List.cons.injEq,
    List.append_eq_singleton_iff] at splits
  obtain ⟨rfl, ⟨rfl, rest⟩ | ⟨-, nothing⟩⟩ := splits
  · exact ⟨eq_of_splitTop same, eq_of_splitTop rest⟩
  · exact absurd nothing (splitTop_ne_nil op after)

/-- What follows without an operator outside parentheses belongs to the last part. -/
theorem splitTop_append_sheltered (noParen : ¬ Lexer.isParen op) (balanced : Balanced chars)
    {front : List (List Char)} {last : List Char} (splits : splitTop op chars = front ++ [last])
    (sheltered : Sheltered (· = op) after) :
    splitTop op (chars ++ after) = front ++ [last ++ after] := by
  rw [splitTop_append noParen balanced, splits, splitTop_sheltered sheltered noParen,
    joinParts_singleton]

/-- Parentheses match in every part of a text in which they match. -/
theorem balanced_of_mem_splitTop (noParen : ¬ Lexer.isParen op) {stops : Char → Bool}
    (sheltered : Sheltered stops chars) : ∀ part ∈ splitTop op chars, Balanced part := by
  have passed {passed rest : List Char} (first : Balanced passed)
      (parts : ∀ part ∈ splitTop op rest, Balanced part) :
      ∀ part ∈ (splitTop op rest).modifyHead (passed ++ ·), Balanced part := by
    simp only [splitTop, List.modifyHead_cons, List.forall_mem_cons] at parts ⊢
    exact ⟨first.append parts.1, parts.2⟩
  induction sheltered with
  | nil => simpa [splitTop, splitFrom] using Sheltered.nil
  | @plain _ char rest charNoParen _ _ hypothesis =>
    by_cases isOperator : char = op
    · rw [isOperator, splitTop_cons noParen, List.forall_mem_cons]
      exact ⟨.nil, hypothesis⟩
    · have single : Sheltered (· = op) [char] := .plain charNoParen (by simpa using isOperator) .nil
      have passes := splitTop_passed single noParen
      change ∀ part ∈ splitTop op ([char] ++ rest), Balanced part
      rw [passes]
      exact passed (.plain charNoParen rfl .nil) hypothesis
  | @group _ inside rest inner _ _ hypothesis =>
    have group : Sheltered (· = op) ('(' :: (inside ++ [')'])) := .group inner .nil
    have passes := splitTop_passed group noParen
    have same : '(' :: (inside ++ ')' :: rest) = '(' :: (inside ++ [')']) ++ rest := by simp
    rw [same, passes]
    exact passed (.group inner .nil) hypothesis

end Workings.Calculus
