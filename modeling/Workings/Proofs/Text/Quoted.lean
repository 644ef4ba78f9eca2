import Mathlib.Tactic.SplitIfs
import Workings.Text.Quoted

/-!
# Quoted texts read back

Between quotes every character is written so that it can be told where it ends. So a quoted text
can be read off the beginning of a longer text, and it determines what was quoted.
-/

namespace Workings.Text

/-- The value of a hexadecimal digit. -/
def hexDigitValue (char : Char) : Nat :=
  if char.isDigit then char.toNat - '0'.toNat else char.toNat - 'a'.toNat + 10

/-- The value of a list of hexadecimal digits. -/
def hexValue (chars : List Char) : Nat :=
  chars.foldl (fun value char => 16 * value + hexDigitValue char) 0

/-- Reads one character as it is written inside quotes. -/
def unescape? : List Char → Option (Char × List Char)
  | [] => none
  | '\\' :: '0' :: rest => some ('\x00', rest)
  | '\\' :: 't' :: rest => some ('\t', rest)
  | '\\' :: 'r' :: rest => some ('\r', rest)
  | '\\' :: 'n' :: rest => some ('\n', rest)
  | '\\' :: 'u' :: '\x7b' :: rest =>
    some (Char.ofNat (hexValue (rest.takeWhile (· ≠ '\x7d'))),
      (rest.dropWhile (· ≠ '\x7d')).drop 1)
  | '\\' :: char :: rest => some (char, rest)
  | char :: rest => some (char, rest)

/-- A hexadecimal digit has the value it was written for. -/
theorem hexDigitValue_digitChar {digit : Nat} (bounded : digit < 16) :
    hexDigitValue digit.digitChar = digit := by
  revert digit
  decide

/-- Hexadecimal digits have the value of the number they were written for. -/
theorem hexValue_toDigits (count : Nat) : hexValue (Nat.toDigits 16 count) = count := by
  induction count using Nat.strongRecOn with
  | ind count hypothesis =>
    rw [Nat.toDigits_eq_if (by decide)]
    split
    · rename_i bounded
      simp [hexValue, hexDigitValue_digitChar bounded]
    · have remainder := hexDigitValue_digitChar (Nat.mod_lt count (by decide : 0 < 16))
      have quotient := hypothesis (count / 16) (by omega)
      unfold hexValue at quotient ⊢
      rw [List.foldl_append, quotient]
      simp only [List.foldl_cons, List.foldl_nil, remainder]
      omega

/-- No hexadecimal digit is one of the characters that an escape begins or ends with. -/
theorem plain_of_mem_toDigits {count : Nat} {char : Char} (member : char ∈ Nat.toDigits 16 count) :
    char ≠ '\x7d' ∧ char ≠ '"' ∧ char ≠ '\\' ∧ char ≠ '|' := by
  have plain : ∀ digit < 16, Nat.digitChar digit ≠ '\x7d' ∧ Nat.digitChar digit ≠ '"'
      ∧ Nat.digitChar digit ≠ '\\' ∧ Nat.digitChar digit ≠ '|' := by decide
  induction count using Nat.strongRecOn with
  | ind count hypothesis =>
    rw [Nat.toDigits_eq_if (by decide)] at member
    split at member
    · rename_i bounded
      rw [List.mem_singleton] at member
      exact member ▸ plain count bounded
    · rcases List.mem_append.1 member with inQuotient | isLast
      · exact hypothesis (count / 16) (by omega) inQuotient
      · rw [List.mem_singleton] at isLast
        exact isLast ▸ plain (count % 16) (Nat.mod_lt count (by decide))

/-- The three ways in which a character is written inside quotes. -/
theorem escapeChar_cases (char : Char) :
    (∃ letter, escapeChar char = ['\\', letter] ∧ letter ≠ '|'
        ∧ ∀ rest, unescape? ('\\' :: letter :: rest) = some (char, rest))
      ∨ escapeChar char = codeEscape char
      ∨ (escapeChar char = [char] ∧ char ≠ '\\' ∧ char ≠ '"') := by
  fun_cases escapeChar char with
  | case1 null => exact .inl ⟨'0', rfl, by decide, fun rest => by rw [null]; rfl⟩
  | case2 _ tab => exact .inl ⟨'t', rfl, by decide, fun rest => by rw [tab]; rfl⟩
  | case3 _ _ carriage => exact .inl ⟨'r', rfl, by decide, fun rest => by rw [carriage]; rfl⟩
  | case4 _ _ _ feed => exact .inl ⟨'n', rfl, by decide, fun rest => by rw [feed]; rfl⟩
  | case5 _ _ _ _ backslash => exact .inl ⟨'\\', rfl, by decide, fun rest => by rw [backslash]; rfl⟩
  | case6 _ _ _ _ _ quotes => exact .inl ⟨'"', rfl, by decide, fun rest => by rw [quotes]; rfl⟩
  | case7 => exact .inr (.inl rfl)
  | case8 _ _ _ _ backslash quotes => exact .inr (.inr ⟨rfl, backslash, quotes⟩)
  | case9 => exact .inr (.inl rfl)

/-- A character that was written inside quotes is read back, and nothing behind it is touched. -/
theorem unescape?_escapeChar_append (char : Char) (rest : List Char) :
    unescape? (escapeChar char ++ rest) = some (char, rest) := by
  rcases escapeChar_cases char with ⟨letter, escaped, -, reads⟩ | escaped | ⟨escaped, plain, -⟩
  · rw [escaped]
    exact reads rest
  · have inside : ∀ digit ∈ Nat.toDigits 16 char.toNat, decide (digit ≠ '\x7d') = true :=
      fun digit member => decide_eq_true (plain_of_mem_toDigits member).1
    rw [escaped, codeEscape]
    simp only [List.cons_append, List.append_assoc, List.nil_append, unescape?]
    rw [List.takeWhile_append_of_pos inside, List.dropWhile_append_of_pos inside]
    simp [hexValue_toDigits]
  · rw [escaped]
    simp only [List.cons_append, List.nil_append]
    unfold unescape?
    split <;> simp_all

/-- No written character begins with the quotes that end a text. -/
theorem head?_escapeChar (char : Char) (rest : List Char) :
    (escapeChar char ++ rest).head? ≠ some '"' := by
  rcases escapeChar_cases char with ⟨letter, escaped, -⟩ | escaped | ⟨escaped, -, plain⟩
  · simp [escaped]
  · simp [escaped, codeEscape]
  · simpa [escaped] using plain

/-- A quoted text at the beginning of a longer text determines what was quoted. -/
theorem flatMap_escapeChar_injective {left right leftRest rightRest : List Char}
    (same : left.flatMap escapeChar ++ '"' :: leftRest
      = right.flatMap escapeChar ++ '"' :: rightRest) :
    left = right ∧ leftRest = rightRest := by
  induction left generalizing right with
  | nil =>
    cases right with
    | nil => simpa using same
    | cons char right =>
      rw [List.flatMap_cons, List.append_assoc] at same
      exact absurd (by rw [← same]; rfl) (head?_escapeChar char _)
  | cons char left hypothesis =>
    cases right with
    | nil =>
      rw [List.flatMap_cons, List.append_assoc] at same
      exact absurd (by rw [same]; rfl) (head?_escapeChar char _)
    | cons other right =>
      rw [List.flatMap_cons, List.flatMap_cons, List.append_assoc, List.append_assoc] at same
      have reads := unescape?_escapeChar_append char (left.flatMap escapeChar ++ '"' :: leftRest)
      rw [same, unescape?_escapeChar_append] at reads
      obtain ⟨rfl, rest⟩ := Prod.mk.inj (Option.some.inj reads)
      obtain ⟨rfl, rfl⟩ := hypothesis rest.symm
      exact ⟨rfl, rfl⟩

/-- Quoted texts at the beginning of one text are the same, and so is what follows them. -/
theorem quoteChars_append_injective {left right leftRest rightRest : List Char}
    (same : quoteChars left ++ leftRest = quoteChars right ++ rightRest) :
    left = right ∧ leftRest = rightRest := by
  simp only [quoteChars, List.cons_append, List.append_assoc, List.nil_append, List.cons.injEq,
    true_and] at same
  exact flatMap_escapeChar_injective same

end Workings.Text
