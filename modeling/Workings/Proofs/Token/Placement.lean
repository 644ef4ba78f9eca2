import Workings.Proofs.Token.Scanning

/-!
# Where tokens stand

The tokens of a text stand one behind the other, and none of them is empty. So no two of them begin
at the same place, and none begins where the text ends: a region that a fault points at is the
region of one token, or the end of the text.
-/

namespace Workings

/-- Tokens that stand one behind the other between two positions, none of them empty. -/
def Placed (stop : Nat) : (start : Nat) → List Token → Prop
  | start, [] => start ≤ stop
  | start, token :: rest =>
    start ≤ token.span.start ∧ token.span.start < token.span.stop
      ∧ Placed stop token.span.stop rest

namespace Placed

variable {region : Region} {start : Nat} {tokens : List Token}

/-- Tokens may begin later than they have to. -/
theorem mono {stop earlier : Nat} (placed : Placed stop start tokens) (le : earlier ≤ start) :
    Placed stop earlier tokens := by
  cases tokens with
  | nil => exact Nat.le_trans le placed
  | cons token rest => exact ⟨Nat.le_trans le placed.1, placed.2⟩

/-- Every token begins behind what the tokens begin behind. -/
theorem start_le {stop : Nat} (placed : Placed stop start tokens) :
    ∀ token ∈ tokens, start ≤ token.span.start := by
  induction tokens generalizing start with
  | nil => simp
  | cons first rest hypothesis =>
    obtain ⟨le, lt, others⟩ := placed
    intro token member
    rcases List.mem_cons.1 member with rfl | inRest
    · exact le
    · exact Nat.le_trans (Nat.le_trans le lt.le) (hypothesis others token inRest)

/-- No place behind a token comes before what the tokens begin behind. -/
theorem le_here (placed : Placed region.stop start tokens) (index : Nat) :
    start ≤ (Reader.here region (tokens.drop index)).start := by
  induction tokens generalizing start index with
  | nil =>
    rw [List.drop_nil]
    exact placed
  | cons token rest hypothesis =>
    obtain ⟨le, lt, others⟩ := placed
    cases index with
    | zero => exact le
    | succ index => exact Nat.le_trans (Nat.le_trans le lt.le) (hypothesis others index)

/-- No two tokens stand at the same place, and none stands where the text ends. -/
theorem here_injective (placed : Placed region.stop start tokens) {first second : Nat}
    (firstInside : first ≤ tokens.length) (secondInside : second ≤ tokens.length)
    (same : Reader.here region (tokens.drop first) = Reader.here region (tokens.drop second)) :
    first = second := by
  induction tokens generalizing start first second with
  | nil =>
    rw [Nat.le_zero.1 firstInside, Nat.le_zero.1 secondInside]
  | cons token rest hypothesis =>
    obtain ⟨-, lt, others⟩ := placed
    have behind (index : Nat) :
        Reader.here region (token :: rest) ≠ Reader.here region (rest.drop index) := by
      intro atSamePlace
      have later := others.le_here index
      rw [← atSamePlace] at later
      exact absurd later (Nat.not_le.2 lt)
    cases first with
    | zero =>
      cases second with
      | zero => rfl
      | succ second => exact absurd same (behind second)
    | succ first =>
      cases second with
      | zero => exact absurd same.symm (behind first)
      | succ second =>
        exact congrArg Nat.succ (hypothesis others (Nat.le_of_succ_le_succ firstInside)
          (Nat.le_of_succ_le_succ secondInside) same)

end Placed

namespace Lexer

/-- A text of some characters has some bytes. -/
theorem byteLength_pos {chars : List Char} (nonempty : chars ≠ []) : 0 < byteLength chars := by
  cases chars with
  | nil => contradiction
  | cons char rest =>
    rw [byteLength_cons]
    exact Nat.lt_of_lt_of_le char.utf8Size_pos (Nat.le_add_right _ _)

/-- The tokens of a text stand in it one behind the other. What is joined to the name of a function
begins behind that name. -/
theorem Cuts.placed {chars : List Char} {pieces : List Piece} (cuts : Cuts chars pieces)
    {position : Nat} {joint : Option Nat} (joined : joint.getD position ≤ position) :
    Placed (position + byteLength chars) (joint.getD position) (tokens position joint pieces) := by
  induction cuts generalizing position joint with
  | nil => exact joined
  | @cons _ rest piece pieces taken _ hypothesis =>
    obtain ⟨rfl, nonempty, -⟩ := parts_of_takePiece? taken
    have positive := byteLength_pos nonempty
    rw [byteLength_append, ← Nat.add_assoc]
    unfold tokens
    dsimp only
    split
    · have behind : joint.getD (position + byteLength piece.chars)
          ≤ position + byteLength piece.chars := by
        cases joint with
        | none => exact Nat.le_refl _
        | some place => exact Nat.le_trans joined (Nat.le_add_right _ _)
      refine (hypothesis behind).mono ?_
      cases joint with
      | none => exact Nat.le_add_right _ _
      | some place => exact Nat.le_refl _
    · rename_i kind _
      refine ⟨Nat.le_refl _, Nat.lt_of_le_of_lt joined (Nat.lt_add_of_pos_right positive), ?_⟩
      have behind : (if kind = .function then some (position + byteLength piece.chars)
          else none).getD (position + byteLength piece.chars)
          = position + byteLength piece.chars := by
        split <;> rfl
      have others := hypothesis behind.le
      rwa [behind] at others

/-- The tokens of a text stand in it one behind the other. -/
theorem placed_of_scan? {position : Nat} {chars : List Char} {tokens : List Token}
    (scanned : Token.scan? position chars = .ok tokens) :
    Placed (position + byteLength chars) position tokens := by
  obtain ⟨pieces, cuts, rfl⟩ := scan?_eq_ok_iff.1 scanned
  exact @Cuts.placed _ _ cuts position none (Nat.le_refl _)

end Lexer

end Workings
