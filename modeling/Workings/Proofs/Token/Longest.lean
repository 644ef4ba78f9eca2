import Workings.Proofs.Token.Splitting

/-!
# The longest piece

A text may begin with pieces of several lengths, such as a number with the shorter numbers it begins
with, or a derivative operator with the name in front of its slash. The piece that is taken off is
the longest of them. Which kinds of pieces a text may begin with is told by its first character, but
for derivative operators and names.
-/

namespace Workings.Lexer

/-- Characters that all belong to a piece are among those that are taken for it. -/
theorem length_le_takeWhile {belongs : Char → Bool} {front : List Char}
    (belong : ∀ char ∈ front, belongs char) (behind : List Char) :
    front.length ≤ ((front ++ behind).takeWhile belongs).length := by
  rw [List.takeWhile_append_of_pos belong, List.length_append]
  exact Nat.le_add_right _ _

/-- The digits that a text begins with are taken for a number. -/
theorem length_le_takeNumber_whole (chars : List Char) :
    (chars.takeWhile isDigit).length ≤ (takeNumber chars).1.chars.length := by
  unfold takeNumber
  dsimp only
  split
  · split
    · simp [takePiece]
    · exact Nat.le_refl _
  · exact Nat.le_refl _

/-- A number that begins with a numeral is no shorter. -/
theorem length_le_takeNumber {numeral behind : List Char} {decimal : Number.Decimal}
    (isNumeral : Number.Numeral numeral decimal) :
    numeral.length ≤ (takeNumber (numeral ++ behind)).1.chars.length := by
  cases isNumeral with
  | whole areDigits _ =>
    rw [← isDigit_eq] at areDigits
    exact Nat.le_trans (length_le_takeWhile areDigits behind) (length_le_takeNumber_whole _)
  | @point whole fraction wholeDigits fractionDigits _ nonempty =>
    obtain ⟨digit, others, rfl⟩ := List.exists_cons_of_ne_nil nonempty
    have point : Number.StartsWithoutDigit ('.' :: (digit :: others ++ behind)) := by
      simp [Number.StartsWithoutDigit]
    have fraction_le := length_le_takeWhile fractionDigits behind
    have isDigit : digit.isDigit := fractionDigits digit List.mem_cons_self
    unfold takeNumber
    rw [List.append_assoc, List.cons_append, isDigit_eq, Number.takeWhile_digits wholeDigits point,
      Number.dropWhile_digits wholeDigits point]
    simp only [List.cons_append] at fraction_le ⊢
    rw [if_pos isDigit, takePiece]
    simp only [List.length_append, List.length_cons, List.length_nil] at fraction_le ⊢
    omega

/-- No piece that a text begins with is longer than the one that is taken off. -/
theorem length_le_of_takePiece? {chars rest behind : List Char} {piece other : Piece}
    (taken : takePiece? chars = some (piece, rest)) (parts : Parts chars other behind) :
    other.chars.length ≤ piece.chars.length := by
  have positive := List.length_pos_iff.2 (parts_of_takePiece? taken).nonempty
  obtain ⟨kind, front⟩ := other
  obtain ⟨rfl, nonempty, fits⟩ := parts
  obtain ⟨char, more, rfl⟩ := List.exists_cons_of_ne_nil nonempty
  cases kind with
  | blank =>
    have separator : isSeparator char := fits char List.mem_cons_self
    have blank_le := length_le_takeWhile fits behind
    simp only [List.cons_append, takePiece?, separator, if_true] at taken
    obtain ⟨rfl, -⟩ := Prod.mk.inj (Option.some.inj taken)
    exact blank_le
  | word =>
    have starts : startsName char := (Bool.and_eq_true_iff.1 fits).1
    have word_le := length_le_takeWhile (continuesName_of_mem fits) behind
    dsimp only at taken word_le ⊢
    by_cases derivative : ∃ letter after,
        char :: more ++ behind = 'd' :: '/' :: 'd' :: letter :: after ∧ isLetter letter
    · -- The name in front of the slash is a single letter.
      obtain ⟨letter, after, same, -⟩ := derivative
      have slash : continuesName '/' = false := by decide
      have isD : continuesName 'd' = true := by decide
      rw [same] at word_le
      simp only [List.takeWhile_cons, isD, slash, if_true, Bool.false_eq_true, if_false,
        List.length_cons, List.length_nil] at word_le
      exact Nat.le_trans word_le positive
    · rw [List.cons_append, takePiece?_word starts] at taken
      · obtain ⟨rfl, -⟩ := Prod.mk.inj (Option.some.inj taken)
        exact word_le
      · intro letter after same
        rw [← Bool.not_eq_true]
        exact fun isLetter => derivative ⟨letter, after, same, isLetter⟩
  | number =>
    obtain ⟨decimal, numeral⟩ := fits
    have number_le := @length_le_takeNumber _ behind _ numeral
    obtain ⟨first, others, same, digit⟩ := numeral.head
    obtain ⟨rfl, rfl⟩ := List.cons.inj same
    rw [← isDigit_eq] at digit
    obtain ⟨noBlank, noSign, noName⟩ := begins_of_isDigit digit
    simp only [List.cons_append, takePiece?, noBlank, noSign, noName, digit, Bool.false_eq_true,
      if_false, if_true] at taken
    obtain ⟨rfl, -⟩ := Prod.mk.inj (Option.some.inj taken)
    exact number_le
  | derivative =>
    obtain ⟨letter, same, isLetter⟩ := fits
    dsimp only at same taken ⊢
    rw [same] at taken ⊢
    simp only [List.cons_append, takePiece?_derivative isLetter] at taken
    obtain ⟨rfl, -⟩ := Prod.mk.inj (Option.some.inj taken)
    exact Nat.le_refl _
  | operator =>
    obtain ⟨symbol, same, -⟩ := fits
    exact same ▸ positive
  | _ => exact (show char :: more = [_] from fits) ▸ positive

end Workings.Lexer
