/-!
# Texts inside texts

Whether one text occurs in another as a run of neighbouring characters.
-/

namespace Workings.Text

/-- Whether the needle stands somewhere in the list. -/
def occursIn (needle : List Char) : List Char → Bool
  | [] => needle.isEmpty
  | char :: rest => needle.isPrefixOf (char :: rest) || occursIn needle rest

/-- A text occurs in another exactly when it is one of its infixes. -/
theorem occursIn_iff {needle chars : List Char} :
    occursIn needle chars = true ↔ needle <:+: chars := by
  induction chars with
  | nil => simp [occursIn]
  | cons char rest hypothesis =>
    simp [occursIn, hypothesis, List.infix_cons_iff]

/-- Whether the text contains the needle. -/
def contains (source needle : String) : Bool :=
  occursIn needle.toList source.toList

end Workings.Text
