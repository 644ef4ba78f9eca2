import Workings.Proofs.Expr.Relocation
import Workings.Token.Guarded

/-!
# Guarded tokens are the tokens

The characters of a piece are cut out of the text between the pieces before it and behind it, and no
token reaches beyond the end of its text. So in a text that is short enough for its positions,
nothing breaks the search for tokens off, and it finds the tokens of the text, or the character that
begins none.
-/

namespace Workings

namespace Guarded

variable {source part : List Char} {start stop : Nat}

/-- A passage is cut out of the text. -/
theorem cut_eq (passage : Passage source start part) (stop_eq : stop = start + byteLength part) :
    cut source ⟨start, stop⟩ = .ok part := by
  rw [cut, Span.slice_eq passage stop_eq]
  rfl

/-- What stands behind the first characters of a text is cut out of it. -/
theorem cutFrom_append (before behind : List Char) :
    cutFrom (before ++ behind) (byteLength before) = .ok behind := by
  have passage := Passage.right before (.whole (before ++ behind))
  rw [Nat.zero_add] at passage
  exact cut_eq passage (byteLength_append before behind)

/-- What is cut out of a text is a passage of it. -/
theorem cut?_eq_some_iff {region : Span} :
    cut? source region = some part
      ↔ Passage source region.start part ∧ region.stop = region.start + byteLength part := by
  rw [← Span.slice_eq_ok_iff, cut?]
  cases region.slice source <;> simp [Except.toOption]

/-- A region far from the end of the range of positions can be moved. -/
theorem shift_eq {span : Span} {offset : Nat} (start : span.start + offset ≤ 0xffffffff)
    (stop : span.stop + offset ≤ 0xffffffff) : shift span offset = .ok (span.shift offset) := by
  rw [shift, add_eq start, add_eq stop]
  rfl

end Guarded

/-- A fault far from the end of the range of positions can be moved. -/
theorem Fault.shift?_eq {fault : Fault} {span : Span} {offset : Nat}
    (spans_eq : fault.spans = [span]) (start : span.start + offset ≤ 0xffffffff)
    (stop : span.stop + offset ≤ 0xffffffff) : fault.shift? offset = .ok (fault.shift offset) := by
  refine if_pos ?_
  simp only [spans_eq, List.all_cons, List.all_nil, Bool.and_true, Bool.and_eq_true,
    decide_eq_true_eq]
  rw [Span.shift_start, Span.shift_stop, lastPosition]
  omega

/-- Every token takes a byte at least. -/
theorem Standing.length_le {chars : List Char} {stop start : Nat} {tokens : List Token}
    (standing : Standing chars stop start tokens) : start + tokens.length ≤ stop := by
  induction standing with
  | nil le => exact le
  | cons le stands _ _ hypothesis =>
    have := stands.region.lt
    rw [List.length_cons]
    omega

/-- Tokens stand in the text. -/
theorem Standing.stands {chars : List Char} {stop start : Nat} {tokens : List Token}
    (standing : Standing chars stop start tokens) : ∀ token ∈ tokens, token.Stands chars := by
  induction standing with
  | nil => simp
  | cons _ stands _ _ hypothesis => exact List.forall_mem_cons.2 ⟨stands, hypothesis⟩

namespace Lexer

/-- The pieces that were found are the pieces. -/
@[simp] theorem map_piece_finds (position : Nat) (pieces : List Piece) :
    (finds position pieces).map (·.piece) = pieces := by
  induction pieces generalizing position with
  | nil => rfl
  | cons piece rest hypothesis => simp [finds, hypothesis]

/-- Pieces that make up a passage make their tokens, each cut out of the text. -/
theorem guardedTokens_finds {source : List Char} {position : Nat} {pieces : List Piece}
    (passage : Passage source position (pieces.flatMap Piece.chars)) (joint : Option Nat) :
    guardedTokens source joint (finds position pieces)
      = .ok (tokens position joint pieces) := by
  induction pieces generalizing position joint with
  | nil => rfl
  | cons piece rest hypothesis =>
    rw [List.flatMap_cons] at passage
    have others := hypothesis (passage.right piece.chars)
    simp only [finds, guardedTokens, tokens, Guarded.cut_eq passage.left rfl, map_piece_finds,
      Guarded.ok_bind]
    cases tokenKind? piece rest with
    | none => exact others joint
    | some kind =>
      simp only [others, Guarded.ok_bind]
      rfl

end Lexer

namespace Token

/-- What comes of the search for tokens is found without breaking off. -/
theorem guardedScan?_eq {chars : List Char} (short : byteLength chars < 2 ^ 31) :
    guardedScan? chars = .ok (scan? 0 chars) := by
  have chars_eq := Lexer.pieces_append chars
  unfold guardedScan? scan?
  generalize Lexer.pieces chars = result at chars_eq ⊢
  obtain ⟨pieces, unread⟩ := result
  cases unread with
  | nil =>
    rw [List.append_nil] at chars_eq
    have passage : Passage chars 0 (pieces.flatMap Piece.chars) := chars_eq ▸ .whole chars
    simp only [List.isEmpty_nil, if_true, Lexer.guardedTokens_finds passage none, Guarded.ok_bind]
    rfl
  | cons char rest =>
    dsimp only at chars_eq ⊢
    generalize pieces.flatMap Piece.chars = read at chars_eq
    have start_eq : byteLength chars - byteLength (char :: rest) = byteLength read := by
      rw [← chars_eq, byteLength_append, Nat.add_sub_cancel]
    have stop_lt : byteLength read + char.utf8Size ≤ 0xffffffff := by
      rw [← chars_eq, byteLength_append, byteLength_cons] at short
      omega
    have unread_eq : Guarded.cutFrom chars (byteLength read) = .ok (char :: rest) := by
      rw [← chars_eq]
      exact Guarded.cutFrom_append read (char :: rest)
    simp only [List.isEmpty_cons, Bool.false_eq_true, if_false, start_eq, unread_eq,
      Guarded.ok_bind, List.headD_cons, Guarded.add_eq stop_lt, Nat.zero_add]
    rfl

/-- Tokens far from the end of the range of positions can be moved. -/
theorem mapM_guardedShift {offset : Nat} {tokens : List Token}
    (short : ∀ token ∈ tokens, token.span.start + offset ≤ 0xffffffff
      ∧ token.span.stop + offset ≤ 0xffffffff) :
    tokens.mapM (guardedShift offset) = .ok (tokens.map (shift offset)) := by
  induction tokens with
  | nil => rfl
  | cons token rest hypothesis =>
    obtain ⟨⟨start, stop⟩, others⟩ := List.forall_mem_cons.1 short
    rw [List.mapM_cons, hypothesis others, guardedShift, Guarded.shift_eq start stop]
    rfl

/-- What comes of the search for tokens in a region of a short text is what comes of the search in
the passage there. -/
theorem scanRegion?_eq {source part : List Char} {start stop : Nat}
    (passage : Passage source start part) (stop_eq : stop = start + byteLength part)
    (short : byteLength source < 2 ^ 31) :
    scanRegion? source ⟨start, stop⟩ = .ok (scan? start part) := by
  have part_le := passage.le
  have settles := settles_scan? (.whole part)
  have echoes := scan?_echoes start 0 0 0 part
  rw [Nat.zero_add] at settles echoes
  rw [scanRegion?, Guarded.cut_eq passage stop_eq, Guarded.ok_bind, guardedScan?_eq (by omega),
    Guarded.ok_bind]
  rcases echoes.eq_of_same_ceiling with ⟨tokens, scanned, moved⟩ | ⟨fault, scanned, moved⟩
  · rw [scanned] at settles
    have standing : Standing part (byteLength part) 0 tokens := settles
    have tokensShort : ∀ token ∈ tokens, token.span.start + start ≤ 0xffffffff
        ∧ token.span.stop + start ≤ 0xffffffff := by
      intro token member
      have region := (standing.stands token member).region
      have := region.stops.le
      have := region.lt
      omega
    rw [scanned, moved]
    simp only [mapM_guardedShift tokensShort, Guarded.ok_bind]
    rfl
  · rw [scanned] at settles
    obtain ⟨span, spans_eq, region⟩ := settles
    have stop_le := region.stops.le
    have start_le := region.le
    have faultMoved : fault.shift? start = .ok (fault.shift start) :=
      Fault.shift?_eq spans_eq (by omega) (by omega)
    rw [scanned, moved]
    simp only [faultMoved, Except.mapError, Guarded.ok_bind]
    rfl

/-- A token whose letter can be cut out of its lexeme, if it has one, and which does not begin near
the end of the range of positions. -/
structure Legible (token : Token) : Prop where
  derivative : token.kind = .derivative → ∃ letter, token.lexeme.toList = ['d', '/', 'd', letter]
  differential : token.kind = .differential → ∃ letter, token.lexeme.toList = ['d', letter]
  start : token.span.start < 2 ^ 31

end Token

namespace Lexer

/-- Every token of a text is made by a piece of it. -/
theorem Cuts.exists_piece {chars : List Char} {pieces : List Piece} (cuts : Cuts chars pieces)
    (position : Nat) (joint : Option Nat) :
    ∀ token ∈ tokens position joint pieces, ∃ piece following, Fits piece
      ∧ tokenKind? piece following = some token.kind
      ∧ token.lexeme = String.ofList piece.chars := by
  induction cuts generalizing position joint with
  | nil => simp [tokens]
  | @cons _ rest piece pieces taken _ hypothesis =>
    unfold tokens
    dsimp only
    split
    · exact hypothesis _ _
    · rename_i kind isKind
      exact List.forall_mem_cons.2
        ⟨⟨piece, pieces, (parts_of_takePiece? taken).fits, isKind, rfl⟩, hypothesis _ _⟩

/-- The piece of a derivative operator ends with its letter. -/
theorem chars_of_derivative {piece : Piece} {following : List Piece} (fits : Fits piece)
    (derivative : tokenKind? piece following = some .derivative) :
    ∃ letter, piece.chars = ['d', '/', 'd', letter] := by
  obtain ⟨kind, chars⟩ := piece
  cases kind with
  | derivative =>
    obtain ⟨letter, chars_eq, -⟩ := fits
    exact ⟨letter, chars_eq⟩
  | word =>
    simp only [tokenKind?, nameKind, Option.some.injEq] at derivative
    split_ifs at derivative
  | _ => simp [tokenKind?] at derivative

/-- The tokens of a passage of a short text are legible. -/
theorem legible_of_scan? {source part : List Char} {start : Nat} {found : List Token}
    (passage : Passage source start part) (short : byteLength source < 2 ^ 31)
    (scanned : Token.scan? start part = .ok found) : ∀ token ∈ found, token.Legible := by
  intro token member
  have standing := standing_of_scan? passage scanned
  have region := (standing.stands token member).region
  obtain ⟨pieces, cuts, rfl⟩ := scan?_eq_ok_iff.1 scanned
  obtain ⟨piece, following, fits, isKind, lexeme_eq⟩ := cuts.exists_piece _ none token member
  rw [← String.toList_inj, String.toList_ofList] at lexeme_eq
  refine ⟨fun isDerivative => ?_, fun isDifferential => ?_, ?_⟩
  · rw [lexeme_eq]
    exact chars_of_derivative fits (isDerivative ▸ isKind)
  · rw [lexeme_eq]
    exact chars_of_differential (isDifferential ▸ isKind)
  · exact Nat.lt_trans (Nat.lt_of_lt_of_le region.lt region.stops.le) short

end Lexer

end Workings
