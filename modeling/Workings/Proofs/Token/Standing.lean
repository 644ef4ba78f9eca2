import Workings.Proofs.Span.Slice
import Workings.Proofs.Token.Placement

/-!
# The regions of tokens

Every token of a text begins and ends between characters, some characters apart, and behind the
token before it. The letter of a differential is a region of its own, and the parenthesis behind
the name of a function is joined to that name. So regions that are put together of those of tokens
are regions of the text.
-/

namespace Workings

/-- A token whose region is one of the text, and so is the region of its letter if it is a
differential. -/
structure Token.Stands (chars : List Char) (token : Token) : Prop where
  region : token.span.IsFilled chars
  letter : token.kind = .differential →
    (Span.mk (token.span.start + 1) token.span.stop).IsFilled chars

/-- Tokens that stand in a text one behind the other between two positions. What follows the name of
a function is joined to it. -/
inductive Standing (chars : List Char) (stop : Nat) : (start : Nat) → List Token → Prop where
  | nil {start : Nat} (le : start ≤ stop) : Standing chars stop start []
  | cons {start : Nat} {token : Token} {rest : List Token} (le : start ≤ token.span.start)
      (stands : token.Stands chars)
      (joined : token.kind = .function → ∀ next ∈ rest.head?, next.span.start = token.span.stop)
      (others : Standing chars stop token.span.stop rest) :
      Standing chars stop start (token :: rest)

namespace Standing

variable {chars : List Char} {stop start : Nat} {tokens : List Token}

/-- Tokens may begin later than they have to. -/
theorem mono {earlier : Nat} (standing : Standing chars stop start tokens) (le : earlier ≤ start) :
    Standing chars stop earlier tokens := by
  cases standing with
  | nil ends => exact .nil (Nat.le_trans le ends)
  | cons begins stands joined others => exact .cons (Nat.le_trans le begins) stands joined others

/-- Tokens do not begin behind the end. -/
theorem le_stop (standing : Standing chars stop start tokens) : start ≤ stop := by
  induction standing with
  | nil le => exact le
  | cons le stands _ _ hypothesis =>
    exact Nat.le_trans le (Nat.le_trans stands.region.lt.le hypothesis)

/-- The next token, or the end, is a region of the text. -/
theorem here (ceiling : Nat) (ends : Between chars stop)
    (standing : Standing chars stop start tokens) :
    (Reader.here ⟨stop, ceiling⟩ tokens).IsRegion chars := by
  cases standing with
  | nil => exact ⟨ends, ends, Nat.le_refl _⟩
  | cons _ stands => exact ⟨stands.region.starts, stands.region.stops, stands.region.lt.le⟩

end Standing

namespace Lexer

/-- Only blanks make no token. -/
theorem kind_of_tokenKind?_eq_none {piece : Piece} {following : List Piece}
    (noToken : tokenKind? piece following = none) : piece.kind = .blank := by
  unfold tokenKind? at noToken
  split at noToken <;> first | assumption | contradiction

/-- The name of a function stands in front of a parenthesis. -/
theorem opensNext_of_function {piece : Piece} {following : List Piece}
    (isFunction : tokenKind? piece following = some .function) : opensNext following := by
  obtain ⟨kind, chars⟩ := piece
  cases kind with
  | word =>
    simp only [tokenKind?, nameKind, Option.some.injEq] at isFunction
    split_ifs at isFunction with differential function
    exact (Bool.and_eq_true_iff.1 function).2
  | _ => simp [tokenKind?] at isFunction

/-- The piece of a differential is the letter `d` and another letter. -/
theorem chars_of_differential {piece : Piece} {following : List Piece}
    (differential : tokenKind? piece following = some .differential) :
    ∃ letter, piece.chars = ['d', letter] := by
  obtain ⟨kind, chars⟩ := piece
  cases kind with
  | word =>
    simp only [tokenKind?, nameKind, Option.some.injEq] at differential
    split_ifs at differential with isDifferential
    obtain ⟨letter, chars_eq, -⟩ := letter_of_isDifferential isDifferential
    exact ⟨letter, chars_eq⟩
  | _ => simp [tokenKind?] at differential

/-- The first token is joined where a joint is. -/
theorem start_of_joint {position place : Nat} {pieces : List Piece} :
    ∀ next ∈ (tokens position (some place) pieces).head?, next.span.start = place := by
  induction pieces generalizing position with
  | nil => simp [tokens]
  | cons piece rest hypothesis =>
    simp only [tokens]
    split
    · exact hypothesis
    · simp

/-- A place in a text where the token of the first of some pieces can begin: the end of the name of
a function, in front of the parenthesis of its argument. -/
structure Joint (chars : List Char) (position : Nat) (pieces : List Piece) (place : Nat) :
    Prop where
  between : Between chars place
  le : place ≤ position
  opens : opensNext pieces

/-- Only a parenthesis is joined to the name of a function, across blanks. -/
theorem Joint.not_differential {chars : List Char} {position place : Nat} {piece : Piece}
    {following : List Piece} (joined : Joint chars position (piece :: following) place) :
    tokenKind? piece following ≠ some .differential := by
  have opens := joined.opens
  obtain ⟨kind, chars⟩ := piece
  cases kind <;> simp [tokenKind?, opensNext] at opens ⊢

/-- The token of a piece stands in the text. Only what opens is joined to the name of a function, so
that a differential begins where its piece does. -/
theorem stands_of_tokenKind? {chars : List Char} {position : Nat} {piece : Piece}
    {following : List Piece} {kind : TokenKind} {joint : Option Nat} (nonempty : piece.chars ≠ [])
    (passage : Passage chars position piece.chars)
    (isKind : tokenKind? piece following = some kind)
    (joined : ∀ place ∈ joint, Joint chars position (piece :: following) place) :
    Token.Stands chars ⟨kind, String.ofList piece.chars,
      ⟨joint.getD position, position + byteLength piece.chars⟩⟩ := by
  have positive := byteLength_pos nonempty
  have starts : Between chars (joint.getD position) ∧ joint.getD position ≤ position := by
    cases joint with
    | none => exact ⟨passage.starts, Nat.le_refl _⟩
    | some place => exact ⟨(joined place rfl).between, (joined place rfl).le⟩
  refine ⟨⟨starts.1, passage.stops, ?_⟩, ?_⟩
  · exact Nat.lt_of_le_of_lt starts.2 (Nat.lt_add_of_pos_right positive)
  · rintro rfl
    obtain ⟨letter, chars_eq⟩ := chars_of_differential isKind
    cases joint with
    | some place => exact absurd isKind (joined place rfl).not_differential
    | none =>
      rw [chars_eq] at passage ⊢
      have letterPassage := passage.tail rfl
      have letterSize := letter.utf8Size_pos
      have length_eq : byteLength ['d', letter] = 1 + letter.utf8Size := rfl
      refine ⟨letterPassage.starts, passage.stops, ?_⟩
      exact show position + 1 < position + byteLength ['d', letter] by omega

/-- The tokens of a passage stand in the text. -/
theorem Cuts.standing {chars part : List Char} {pieces : List Piece} (cuts : Cuts part pieces)
    {position : Nat} {joint : Option Nat} (passage : Passage chars position part)
    (joined : ∀ place ∈ joint, Joint chars position pieces place) :
    Standing chars (position + byteLength part) (joint.getD position)
      (tokens position joint pieces) := by
  induction cuts generalizing position joint with
  | nil =>
    refine .nil ?_
    cases joint with
    | none => exact Nat.le_add_right _ _
    | some place => exact Nat.le_trans (joined place rfl).le (Nat.le_add_right _ _)
  | @cons _ rest piece pieces taken _ hypothesis =>
    obtain ⟨rfl, nonempty, -⟩ := parts_of_takePiece? taken
    have behind := passage.right piece.chars
    have le : position ≤ position + byteLength piece.chars := Nat.le_add_right _ _
    unfold tokens
    dsimp only
    rw [byteLength_append, ← Nat.add_assoc]
    split
    · rename_i noToken
      have isBlank := kind_of_tokenKind?_eq_none noToken
      have standing := hypothesis behind fun place isJoint =>
        have ⟨between, place_le, opens⟩ := joined place isJoint
        ⟨between, Nat.le_trans place_le le, by simpa [opensNext, isBlank] using opens⟩
      refine standing.mono ?_
      cases joint with
      | none => exact le
      | some place => exact Nat.le_refl _
    · rename_i kind isKind
      have stands := stands_of_tokenKind? nonempty passage.left isKind joined
      refine .cons (Nat.le_refl _) stands ?_ ?_
      · rintro rfl
        exact start_of_joint
      · split
        · rename_i isFunction
          subst isFunction
          have isJoint : Joint chars (position + byteLength piece.chars) pieces
              (position + byteLength piece.chars) :=
            ⟨behind.starts, Nat.le_refl _, opensNext_of_function isKind⟩
          exact @hypothesis _ (some _) behind (by simpa using isJoint)
        · exact @hypothesis _ none behind (by simp)

/-- The pieces of a text and what could not be cut make up the text. -/
theorem cut_append (count : Nat) (chars : List Char) :
    (cut count chars).1.flatMap Piece.chars ++ (cut count chars).2 = chars := by
  induction count generalizing chars with
  | zero => rfl
  | succ count hypothesis =>
    simp only [cut]
    split
    · rfl
    · rename_i piece rest taken
      rw [List.flatMap_cons, List.append_assoc, hypothesis, (parts_of_takePiece? taken).append]

/-- The pieces of a text and what could not be cut make up the text. -/
theorem pieces_append (chars : List Char) :
    (pieces chars).1.flatMap Piece.chars ++ (pieces chars).2 = chars :=
  cut_append chars.length chars

/-- The tokens of a passage stand in the text, between the ends of the passage. -/
theorem standing_of_scan? {chars part : List Char} {position : Nat} {tokens : List Token}
    (passage : Passage chars position part) (scanned : Token.scan? position part = .ok tokens) :
    Standing chars (position + byteLength part) position tokens := by
  obtain ⟨pieces, cuts, rfl⟩ := scan?_eq_ok_iff.1 scanned
  exact @Cuts.standing _ _ _ cuts _ none passage (by simp)

end Lexer

end Workings
