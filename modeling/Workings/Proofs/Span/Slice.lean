import Mathlib.Tactic.SplitIfs
import Workings.Span.Slice

/-!
# Positions between characters

A position of a text is between two of its characters, or at one of its ends, or inside a character.
Parts of a passage of the text are passages further right, and a passage begins and ends between
characters. A region can be cut out of the text if it is the region of a passage, which is then what
is cut out.
-/

namespace Workings

/-- A position between two characters of a text, or at one of its ends. -/
def Between (chars : List Char) (position : Nat) : Prop :=
  ∃ before behind, chars = before ++ behind ∧ position = byteLength before

/-- A text begins between characters. -/
theorem Between.beginning (chars : List Char) : Between chars 0 :=
  ⟨[], chars, rfl, rfl⟩

/-- A text ends between characters. -/
theorem Between.ending (chars : List Char) : Between chars (byteLength chars) :=
  ⟨chars, [], by simp, rfl⟩

/-- No position between characters lies behind the end. -/
theorem Between.le {chars : List Char} {position : Nat} (between : Between chars position) :
    position ≤ byteLength chars := by
  obtain ⟨before, behind, rfl, rfl⟩ := between
  simp

/-- Some characters stand in a text from a position on. -/
def Passage (source : List Char) (start : Nat) (part : List Char) : Prop :=
  ∃ before behind, source = before ++ (part ++ behind) ∧ start = byteLength before

namespace Passage

variable {source part rest : List Char} {start : Nat}

/-- A text stands in itself. -/
theorem whole (source : List Char) : Passage source 0 source :=
  ⟨[], [], by simp, rfl⟩

/-- What stands between the first and the last characters of a text stands behind the first
ones. -/
theorem append (before part behind : List Char) :
    Passage (before ++ (part ++ behind)) (byteLength before) part :=
  ⟨before, behind, rfl, rfl⟩

/-- The first characters of a passage stand where it does. -/
theorem left (passage : Passage source start (part ++ rest)) : Passage source start part := by
  obtain ⟨before, behind, rfl, rfl⟩ := passage
  exact ⟨before, rest ++ behind, by simp, rfl⟩

/-- The characters of a passage behind its first ones stand further right. -/
theorem right (front : List Char) (passage : Passage source start (front ++ rest)) :
    Passage source (start + byteLength front) rest := by
  obtain ⟨before, behind, rfl, rfl⟩ := passage
  exact ⟨before ++ front, behind, by simp, by simp⟩

/-- The characters of a passage behind a first one of one byte stand one byte further right. -/
theorem tail {char : Char} (size_eq : char.utf8Size = 1)
    (passage : Passage source start (char :: rest)) : Passage source (start + 1) rest := by
  have behind := Passage.right [char] passage
  rwa [byteLength_cons, byteLength_nil, size_eq] at behind

/-- A passage begins between characters. -/
theorem starts (passage : Passage source start part) : Between source start := by
  obtain ⟨before, behind, rfl, rfl⟩ := passage
  exact ⟨before, part ++ behind, rfl, rfl⟩

/-- A passage ends between characters. -/
theorem stops (passage : Passage source start part) :
    Between source (start + byteLength part) := by
  obtain ⟨before, behind, rfl, rfl⟩ := passage
  exact ⟨before ++ part, behind, by simp, by simp⟩

/-- A passage ends with the text or before. -/
theorem le (passage : Passage source start part) :
    start + byteLength part ≤ byteLength source :=
  passage.stops.le

end Passage

/-- A text is split behind its first characters. -/
theorem splitBytes_append (start : Nat) (before behind : List Char) :
    splitBytes (byteLength before) start (before ++ behind) = .ok (before, behind) := by
  induction before generalizing start with
  | nil => cases behind <;> rfl
  | cons char rest hypothesis =>
    have positive : byteLength (char :: rest) ≠ 0 := by
      have := char.utf8Size_pos
      rw [byteLength_cons]
      omega
    obtain ⟨bytes, bytes_eq⟩ := Nat.exists_eq_succ_of_ne_zero positive
    have less : byteLength (char :: rest) - char.utf8Size = byteLength rest := by simp
    rw [bytes_eq] at less ⊢
    have fits : char.utf8Size ≤ bytes + 1 := by
      rw [byteLength_cons] at bytes_eq
      omega
    rw [List.cons_append, splitBytes, if_pos fits, less, hypothesis]
    rfl

/-- A text that is split is split between characters. -/
theorem of_splitBytes {bytes start : Nat} {chars before behind : List Char}
    (split : splitBytes bytes start chars = .ok (before, behind)) :
    chars = before ++ behind ∧ bytes = byteLength before := by
  induction chars generalizing bytes start before with
  | nil =>
    cases bytes with
    | zero =>
      obtain ⟨rfl, rfl⟩ := Prod.mk.inj (Except.ok.inj split)
      exact ⟨rfl, rfl⟩
    | succ => contradiction
  | cons char rest hypothesis =>
    cases bytes with
    | zero =>
      obtain ⟨rfl, rfl⟩ := Prod.mk.inj (Except.ok.inj split)
      exact ⟨rfl, rfl⟩
    | succ bytes =>
      rw [splitBytes] at split
      split at split
      · rename_i fits
        cases splitRest : splitBytes (bytes + 1 - char.utf8Size) (start + char.utf8Size) rest with
        | error miscut =>
          rw [splitRest] at split
          contradiction
        | ok parts =>
          rw [splitRest] at split
          obtain ⟨rfl, rfl⟩ := Prod.mk.inj (Except.ok.inj split)
          obtain ⟨rfl, bytes_eq⟩ := hypothesis splitRest
          refine ⟨rfl, ?_⟩
          rw [byteLength_cons]
          omega
      · contradiction

namespace Span

/-- A region of a text: it begins and ends between characters, and does not end before it begins. -/
structure IsRegion (chars : List Char) (region : Span) : Prop where
  starts : Between chars region.start
  stops : Between chars region.stop
  le : region.start ≤ region.stop

/-- A region of a text with some characters in it. -/
structure IsFilled (chars : List Char) (region : Span) : Prop where
  starts : Between chars region.start
  stops : Between chars region.stop
  lt : region.start < region.stop

/-- A region lies inside another one. -/
structure Inside (inner outer : Span) : Prop where
  start_le : outer.start ≤ inner.start
  le_stop : inner.stop ≤ outer.stop

/-- A passage is cut out of the text. -/
theorem slice_eq {source part : List Char} {start stop : Nat} (passage : Passage source start part)
    (stop_eq : stop = start + byteLength part) : slice ⟨start, stop⟩ source = .ok part := by
  obtain ⟨before, behind, rfl, rfl⟩ := passage
  subst stop_eq
  have outside : ¬ byteLength (before ++ (part ++ behind)) < byteLength before
      ∧ ¬ byteLength (before ++ (part ++ behind)) < byteLength before + byteLength part
      ∧ ¬ byteLength before + byteLength part < byteLength before := by
    simp only [byteLength_append]
    omega
  simp only [slice, if_neg outside.1, if_neg outside.2.1, if_neg outside.2.2, splitBytes_append,
    Nat.add_sub_cancel_left, bind, Except.bind, pure, Except.pure]

/-- A region is cut out of a text if and only if it is the region of a passage. -/
theorem slice_eq_ok_iff {region : Span} {source part : List Char} :
    region.slice source = .ok part
      ↔ Passage source region.start part ∧ region.stop = region.start + byteLength part := by
  obtain ⟨start, stop⟩ := region
  refine ⟨fun sliced => ?_, fun ⟨passage, stop_eq⟩ => slice_eq passage stop_eq⟩
  simp only [slice] at sliced
  split_ifs at sliced with early late reversed
  cases first : splitBytes start 0 source with
  | error miscut =>
    rw [first] at sliced
    contradiction
  | ok parts =>
    obtain ⟨before, rest⟩ := parts
    rw [first] at sliced
    cases second : splitBytes (stop - start) start rest with
    | error miscut =>
      simp only [bind, Except.bind, second] at sliced
      contradiction
    | ok parts =>
      obtain ⟨middle, behind⟩ := parts
      simp only [bind, Except.bind, second, pure, Except.pure, Except.ok.injEq] at sliced
      subst sliced
      obtain ⟨rfl, rfl⟩ := of_splitBytes first
      obtain ⟨rfl, length_eq⟩ := of_splitBytes second
      exact ⟨.append before middle behind, by dsimp only; omega⟩

end Span

end Workings
