import Workings.Calculus.Guarded
import Workings.Proofs.Calculus.Splitting
import Workings.Proofs.Token.Guarded

/-!
# Nothing is lost and nothing is missed at the top level

A text is split at every place where its operator stands with as many parentheses closed as opened
in front of it, and nowhere else, whether the parentheses of the text match or not. Counting
parentheses and cutting parts by positions finds the same parts, unless there are so many
parentheses that they cannot be counted.
-/

namespace Workings.Calculus

open Workings.Expr (Balanced)

/-! ## Places outside parentheses -/

/-- The places of a text where a character stands with as many parentheses closed as opened in front
of it. -/
def outermost (target : Char) (chars : List Char) : List Nat :=
  (List.range chars.length).filter fun place =>
    chars[place]? = some target
      ∧ (chars.take place).count '(' = (chars.take place).count ')'

/-- Whether a character stands at a place of a text with all parentheses closed, where so many are
open in front of the text. -/
def standsOutside (target : Char) (depth : Int) (chars : List Char) (place : Nat) : Bool :=
  chars[place]? = some target
    ∧ depth + (chars.take place).count '(' = (chars.take place).count ')'

variable {op : Char} {depth : Int} {chars : List Char}

/-- The first character stands outside parentheses if none is open in front of it. -/
@[simp] theorem standsOutside_zero (target char : Char) (depth : Int) (rest : List Char) :
    standsOutside target depth (char :: rest) 0 = decide (char = target ∧ depth = 0) := by
  simp [standsOutside]

/-- All parentheses are closed behind a character and some others if they are behind the others,
where as many are open as behind the character. -/
theorem closed_cons_iff (depth : Int) (char : Char) (before : List Char) :
    depth + (char :: before).count '(' = (char :: before).count ')'
      ↔ depthAfter depth char + before.count '(' = before.count ')' := by
  by_cases opening : char = '('
  · simp [depthAfter, opening]
    omega
  · by_cases closing : char = ')'
    · simp [depthAfter, closing]
      omega
    · simp [depthAfter, opening, closing]

/-- A later character stands outside parentheses if it does in the text behind the first one. -/
@[simp] theorem standsOutside_succ (target char : Char) (depth : Int) (rest : List Char)
    (place : Nat) :
    standsOutside target depth (char :: rest) (place + 1)
      = standsOutside target (depthAfter depth char) rest place := by
  simp only [standsOutside, List.take_succ_cons, List.getElem?_cons_succ, closed_cons_iff]

/-- The places outside parentheses are those where a character stands with all parentheses closed,
where none is open in front of the text. -/
theorem outermost_eq_filter (target : Char) (chars : List Char) :
    outermost target chars = (List.range chars.length).filter (standsOutside target 0 chars) := by
  unfold outermost
  congr 1
  funext place
  simp only [standsOutside, Int.zero_add, Int.natCast_inj]

/-! ## Parts -/

/-- An operator outside parentheses parts a text. -/
theorem splitFrom_parted {char : Char} (parted : char = op ∧ depth = 0) (rest : List Char) :
    splitFrom op depth (char :: rest)
      = ([], (splitFrom op (depthAfter depth char) rest).1
          :: (splitFrom op (depthAfter depth char) rest).2) := by
  simp only [splitFrom, if_pos parted]

/-- Any other character belongs to the first part. -/
theorem splitFrom_passed {char : Char} (passed : ¬ (char = op ∧ depth = 0)) (rest : List Char) :
    splitFrom op depth (char :: rest)
      = (char :: (splitFrom op (depthAfter depth char) rest).1,
          (splitFrom op (depthAfter depth char) rest).2) := by
  simp only [splitFrom, if_neg passed]

/-- Behind an operator outside parentheses, none is open. -/
theorem depthAfter_operator {char : Char} (noParen : ¬ Lexer.isParen op)
    (parted : char = op ∧ depth = 0) : depthAfter depth char = 0 := by
  simp only [Lexer.isParen, Bool.or_eq_true, decide_eq_true_eq, not_or] at noParen
  rw [depthAfter, parted.1, if_neg noParen.1, if_neg noParen.2, parted.2]

/-- There are as many further parts as places of the operator outside parentheses. -/
theorem length_splitFrom (op : Char) (depth : Int) (chars : List Char) :
    (splitFrom op depth chars).2.length
      = (List.range chars.length).countP (standsOutside op depth chars) := by
  induction chars generalizing depth with
  | nil => rfl
  | cons char rest hypothesis =>
    -- A place behind the first character is one of the rest, with the depth that it leaves.
    have later : standsOutside op depth (char :: rest) ∘ Nat.succ
        = standsOutside op (depthAfter depth char) rest :=
      funext (standsOutside_succ op char depth rest)
    rw [List.length_cons, List.range_succ_eq_map, List.countP_cons, List.countP_map, later,
      standsOutside_zero, ← hypothesis]
    by_cases parted : char = op ∧ depth = 0
    · rw [splitFrom_parted parted, if_pos (decide_eq_true parted), List.length_cons]
    · rw [splitFrom_passed parted, if_neg (by simpa using parted), Nat.add_zero]

/-- A text has one part more than places of the operator outside parentheses. -/
theorem length_splitTop (op : Char) (chars : List Char) :
    (splitTop op chars).length = (outermost op chars).length + 1 := by
  rw [outermost_eq_filter, ← List.countP_eq_length_filter, ← length_splitFrom]
  rfl

/-- No part has the operator outside parentheses: the first one with those counted that are open in
front of it, and every other one by itself. -/
theorem standsOutside_splitFrom (noParen : ¬ Lexer.isParen op) (depth : Int) (chars : List Char) :
    (∀ place, standsOutside op depth (splitFrom op depth chars).1 place = false)
      ∧ ∀ part ∈ (splitFrom op depth chars).2, ∀ place,
        standsOutside op 0 part place = false := by
  induction chars generalizing depth with
  | nil => simp [splitFrom, standsOutside]
  | cons char rest hypothesis =>
    obtain ⟨first, others⟩ := hypothesis (depthAfter depth char)
    by_cases parted : char = op ∧ depth = 0
    · have level := depthAfter_operator noParen parted
      rw [level] at first others
      rw [splitFrom_parted parted, level]
      exact ⟨by simp [standsOutside], List.forall_mem_cons.2 ⟨first, others⟩⟩
    · rw [splitFrom_passed parted]
      refine ⟨fun place => ?_, others⟩
      cases place with
      | zero => rw [standsOutside_zero, decide_eq_false parted]
      | succ place => rw [standsOutside_succ, first]

/-- No part of a text has the operator outside parentheses. -/
theorem outermost_of_mem_splitTop (noParen : ¬ Lexer.isParen op) :
    ∀ part ∈ splitTop op chars, outermost op part = [] := by
  obtain ⟨first, others⟩ := standsOutside_splitFrom noParen 0 chars
  intro part member
  rw [outermost_eq_filter, List.filter_eq_nil_iff]
  rintro place -
  rw [Bool.not_eq_true]
  rcases List.mem_cons.1 member with rfl | later
  · exact first place
  · exact others part later place

/-! ## Parts by their positions -/

/-- A character changes the number of open parentheses by one if it is one. -/
theorem natAbs_depthAfter_le (depth : Int) (char : Char) :
    (depthAfter depth char).natAbs ≤ depth.natAbs + if Lexer.isParen char then 1 else 0 := by
  unfold depthAfter
  by_cases opening : char = '('
  · rw [if_pos opening, if_pos (by simp [Lexer.isParen, opening])]
    omega
  by_cases closing : char = ')'
  · rw [if_neg opening, if_pos closing, if_pos (by simp [Lexer.isParen, closing])]
    omega
  · rw [if_neg opening, if_neg closing]
    omega

variable {text part rest : List Char} {char : Char} {start position : Nat}

/-- Splitting by positions goes on behind a character that is no operator outside parentheses, if it
can be counted. -/
theorem guardedSplitFrom_passed (passed : ¬ (char = op ∧ depth = 0))
    (few : (depthAfter depth char).natAbs < 2 ^ 31) :
    guardedSplitFrom op text start position depth (char :: rest)
      = guardedSplitFrom op text start (position + char.utf8Size) (depthAfter depth char)
          rest := by
  unfold depthAfter at few ⊢
  rw [guardedSplitFrom]
  by_cases opening : char = '('
  · rw [if_pos opening] at few
    rw [if_pos opening, if_pos opening, Guarded.countUp_eq (by omega), Guarded.ok_bind]
  by_cases closing : char = ')'
  · rw [if_neg opening, if_pos closing] at few
    rw [if_neg opening, if_neg opening, if_pos closing, if_pos closing,
      Guarded.countDown_eq (by omega), Guarded.ok_bind]
  · rw [if_neg opening, if_neg opening, if_neg closing, if_neg closing, if_neg passed]

/-- Splitting by positions cuts out a part in front of an operator outside parentheses, and goes on
behind it. -/
theorem guardedSplitFrom_parted (noParen : ¬ Lexer.isParen op) (parted : char = op ∧ depth = 0)
    (passage : Passage text start part) (position_eq : position = start + byteLength part)
    (fits : position + char.utf8Size ≤ Fault.lastPosition) {parts : List (List Char)}
    (others : guardedSplitFrom op text (position + char.utf8Size) (position + char.utf8Size) depth
      rest = .ok parts) :
    guardedSplitFrom op text start position depth (char :: rest) = .ok (part :: parts) := by
  simp only [Lexer.isParen, Bool.or_eq_true, decide_eq_true_eq, not_or, ← parted.1] at noParen
  have next : Guarded.add position char.utf8Size = .ok (position + char.utf8Size) := if_pos fits
  rw [guardedSplitFrom, if_neg noParen.1, if_neg noParen.2, if_pos parted,
    Guarded.cut_eq passage position_eq, Guarded.ok_bind, next, Guarded.ok_bind, others]
  rfl

/-- Splitting by positions finds the parts of a text, of which a first one is begun. -/
theorem guardedSplitFrom_eq (noParen : ¬ Lexer.isParen op)
    (passage : Passage text start (part ++ chars))
    (ends : byteLength text = start + byteLength (part ++ chars))
    (fits : byteLength text ≤ Fault.lastPosition)
    (few : depth.natAbs + chars.countP Lexer.isParen < 2 ^ 31) :
    guardedSplitFrom op text start (start + byteLength part) depth chars
      = .ok ((part ++ (splitFrom op depth chars).1) :: (splitFrom op depth chars).2) := by
  -- The part that is begun and what is behind it together stand where the part starts: a character
  -- goes from the one to the other, until an operator starts the next part behind itself.
  induction chars generalizing part start depth with
  | nil =>
    rw [List.append_nil] at passage ends
    have cut : Guarded.cutFrom text start = .ok part := Guarded.cut_eq passage ends
    rw [guardedSplitFrom, cut, splitFrom, List.append_nil]
    rfl
  | cons char rest hypothesis =>
    rw [List.countP_cons] at few
    have counted := natAbs_depthAfter_le depth char
    by_cases parted : char = op ∧ depth = 0
    · have length_eq : byteLength text
          = start + byteLength part + char.utf8Size + byteLength rest := by
        simpa [Nat.add_assoc] using ends
      have behind : Passage text (start + byteLength part + char.utf8Size) ([] ++ rest) := by
        rw [List.append_cons] at passage
        simpa [Nat.add_assoc] using passage.right (part ++ [char])
      have others := @hypothesis depth [] _ behind length_eq (by omega)
      rw [guardedSplitFrom_parted noParen parted passage.left rfl (by omega) others,
        splitFrom_parted parted, depthAfter_operator noParen parted, parted.2]
      simp
    · have further := @hypothesis (depthAfter depth char) (part ++ [char]) start
        (by simpa using passage) (by simpa using ends) (by omega)
      rw [guardedSplitFrom_passed parted (by omega), splitFrom_passed parted]
      simpa [Nat.add_assoc] using further

/-- Splitting by positions finds the parts of every text with no more parentheses than can be
counted. -/
theorem guardedSplit_eq (noParen : ¬ Lexer.isParen op)
    (few : chars.countP Lexer.isParen < 2 ^ 31) (fits : byteLength chars ≤ Fault.lastPosition) :
    guardedSplit op chars = .ok (splitTop op chars) :=
  @guardedSplitFrom_eq op 0 chars chars [] 0 noParen (.whole chars) (Nat.zero_add _).symm fits
    (by simpa using few)

/-- No text loses anything at the top level, and no operator there is missed: joined by the
operator, the parts of a text are the text again; there is one part more than the operator stands at
places with as many parentheses closed as opened in front of it; and no part has such a place. Where
parentheses match in a text, they do in each of its parts. Splitting by positions breaks off for no
text with fewer than 2147483648 parentheses whose positions are in their range, and finds the same
parts. -/
theorem splitTop_lossless_complete (noParen : ¬ Lexer.isParen op) (chars : List Char) :
    [op].intercalate (splitTop op chars) = chars
      ∧ (splitTop op chars).length = (outermost op chars).length + 1
      ∧ (∀ part ∈ splitTop op chars, outermost op part = [])
      ∧ (Balanced chars → ∀ part ∈ splitTop op chars, Balanced part)
      ∧ (chars.countP Lexer.isParen < 2 ^ 31 → byteLength chars ≤ Fault.lastPosition →
        guardedSplit op chars = .ok (splitTop op chars)) :=
  ⟨intercalate_splitTop op chars, length_splitTop op chars, outermost_of_mem_splitTop noParen,
    balanced_of_mem_splitTop noParen, guardedSplit_eq noParen⟩

/-- A product with a product in parentheses, where a character takes more than one byte. -/
theorem splitTop_lossless_complete_nested :
    let chars := ['(', 'é', '*', 'x', ')', '*', 'y']
    let parts := [['(', 'é', '*', 'x', ')'], ['y']]
    ¬ Lexer.isParen '*' ∧ Balanced chars ∧ chars.countP Lexer.isParen < 2 ^ 31
      ∧ byteLength chars ≤ Fault.lastPosition
      ∧ ['*'].intercalate parts = chars ∧ parts.length = (outermost '*' chars).length + 1
      ∧ (∀ part ∈ parts, outermost '*' part = []) ∧ (∀ part ∈ parts, Balanced part)
      ∧ guardedSplit '*' chars = .ok parts := by
  intro chars parts
  have noParen : ¬ Lexer.isParen '*' := by decide
  have inside : Balanced ['é', '*', 'x'] :=
    .plain (by decide) rfl (.plain (by decide) rfl (.plain (by decide) rfl .nil))
  have balanced : Balanced chars :=
    .group inside (.plain (by decide) rfl (.plain (by decide) rfl .nil))
  have few : chars.countP Lexer.isParen < 2 ^ 31 := by decide
  have fits : byteLength chars ≤ Fault.lastPosition := by decide
  obtain ⟨joined, count, whole, matching, found⟩ := splitTop_lossless_complete noParen chars
  exact ⟨noParen, balanced, few, fits, joined, count, whole, matching balanced, found few fits⟩

/-- No operator stands outside parentheses where more are closed than opened. -/
example : guardedSplit '+' "a)+b(+c".toList = .ok ["a)+b(".toList, "c".toList] := by
  decide

end Workings.Calculus
