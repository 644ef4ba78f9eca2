import Workings.Proofs.Expr.Regions

/-!
# Reading elsewhere and under another ceiling

What is read does not depend on where it stands: further to the right, every region of the tree or
of the fault is further to the right, and nothing else is different. A higher ceiling makes no
difference either, unless the lower one refuses to nest.
-/

namespace Workings

/-- The token moved right. -/
def Token.shift (offset : Nat) (token : Token) : Token :=
  { token with span := token.span.shift offset }

/-- A region that moves by nothing stays where it is. -/
@[simp] theorem Span.shift_zero (span : Span) : span.shift 0 = span :=
  rfl

namespace Expr

/-- The region of an expression moves with it. -/
@[simp] theorem span_shift (expr : Expr) (offset : Nat) :
    (expr.shift offset).span = expr.span.shift offset := by
  cases expr <;> rfl

/-- Where an expression stands does not count for its height. -/
@[simp] theorem height_shift (expr : Expr) (offset : Nat) :
    (expr.shift offset).height = expr.height := by
  induction expr <;> simp_all [shift, height]

/-- An expression that moves by nothing stays where it is. -/
@[simp] theorem shift_zero (expr : Expr) : expr.shift 0 = expr := by
  induction expr <;> simp_all [shift]

end Expr

/-! ## Echoes -/

/-- A computation under one ceiling and the same computation further right, under a ceiling that is
no lower: both find the same, moved, or both fail at the same place, moved, unless the lower ceiling
refuses to nest. -/
inductive Echoes {α : Type} (offset low high : Nat) (move : α → α) :
    Except Fault α → Except Fault α → Prop where
  | found {value moved : α} (same : moved = move value) :
      Echoes offset low high move (.ok value) (.ok moved)
  | failed {fault moved : Fault} (same : moved = fault.shift offset) :
      Echoes offset low high move (.error fault) (.error moved)
  | refused {fault : Fault} (lower : low < high) (tooDeep : fault.cause = .tooDeep low)
      (echo : Except Fault α) : Echoes offset low high move (.error fault) echo

namespace Echoes

variable {α β : Type} {offset low high : Nat} {move : α → α}

/-- Computations that go on with what was found echo each other if they go on alike. -/
theorem bind {moveNext : β → β} {first echo : Except Fault α} {next nextEcho : α → Except Fault β}
    (echoes : Echoes offset low high move first echo)
    (goesOn : ∀ value, Echoes offset low high moveNext (next value) (nextEcho (move value))) :
    Echoes offset low high moveNext (first >>= next) (echo >>= nextEcho) := by
  cases echoes with
  | found same =>
    subst same
    exact goesOn _
  | failed same => exact .failed same
  | refused lower tooDeep echo => exact .refused lower tooDeep _

/-- Under the same ceiling, what is found is the same, moved. -/
theorem eq_of_same_ceiling {first echo : Except Fault α}
    (echoes : Echoes offset low low move first echo) :
    (∃ value, first = .ok value ∧ echo = .ok (move value))
      ∨ ∃ fault, first = .error fault ∧ echo = .error (fault.shift offset) := by
  cases echoes with
  | @found value _ same => exact .inl ⟨value, rfl, by rw [same]⟩
  | @failed fault _ same => exact .inr ⟨fault, rfl, by rw [same]⟩
  | refused lower => exact absurd lower (Nat.lt_irrefl low)

/-- At the same place, what is found is the same, unless the lower ceiling refuses to nest. -/
theorem eq_of_same_place {first echo : Except Fault α}
    (echoes : Echoes 0 low high move first echo) (stays : ∀ value, move value = value) :
    first = echo ∨ ∃ fault, first = .error fault ∧ fault.cause = .tooDeep low := by
  cases echoes with
  | found same => exact .inl (by rw [same, stays])
  | failed same => exact .inl (by simp [same, Fault.shift])
  | @refused fault _ tooDeep _ => exact .inr ⟨fault, rfl, tooDeep⟩

end Echoes

/-! ## Tokens -/

/-- The tokens of pieces that begin further right stand further right. -/
theorem Lexer.tokens_shift (offset position : Nat) (joint : Option Nat) (pieces : List Piece) :
    tokens (position + offset) (joint.map (· + offset)) pieces
      = (tokens position joint pieces).map (Token.shift offset) := by
  induction pieces generalizing position joint with
  | nil => rfl
  | cons piece rest hypothesis =>
    have stop_eq : position + offset + byteLength piece.chars
        = position + byteLength piece.chars + offset := by
      omega
    simp only [tokens, stop_eq]
    cases tokenKind? piece rest with
    | none => exact hypothesis _ _
    | some kind =>
      have start_eq : (joint.map (· + offset)).getD (position + offset)
          = joint.getD position + offset := by
        cases joint <;> rfl
      have joint_eq : (if kind = .function then some (position + byteLength piece.chars + offset)
            else none)
          = (if kind = .function then some (position + byteLength piece.chars) else none).map
            (· + offset) := by
        split <;> rfl
      simp only [start_eq, joint_eq, hypothesis, List.map_cons, Token.shift, Span.shift]

/-- A text that begins further right has its tokens further right. -/
theorem Token.scan?_echoes (offset low high position : Nat) (chars : List Char) :
    Echoes offset low high (List.map (Token.shift offset)) (scan? position chars)
      (scan? (position + offset) chars) := by
  unfold scan?
  dsimp only
  split
  · rw [← Option.map_none (f := (· + offset)), Lexer.tokens_shift]
    exact .found rfl
  · rename_i char rest _
    refine .failed ?_
    simp only [Fault.within, Fault.shift, Span.shift, List.map_cons, List.map_nil]
    congr 3 <;> omega

namespace Reader

/-- A region further right, under a ceiling that is no lower. -/
structure Elsewhere (offset : Nat) (near far : Region) : Prop where
  stop_eq : far.stop = near.stop + offset
  ceiling_le : near.ceiling ≤ far.ceiling

/-- A reader and a reader of the same tokens further right echo each other. -/
def Echo {α : Type} (offset low high : Nat) (move : α → α) (reader echo : Reader α) : Prop :=
  ∀ tokens, Echoes offset low high (Prod.map move (List.map (Token.shift offset)))
    (reader tokens) (echo (tokens.map (Token.shift offset)))

section

variable {offset : Nat} {near far : Region} (elsewhere : Elsewhere offset near far)
include elsewhere

/-- The next token further right is further right, and so is the end. -/
theorem Elsewhere.here_eq (tokens : List Token) :
    here far (tokens.map (Token.shift offset)) = (here near tokens).shift offset := by
  cases tokens with
  | nil => simp [here, Span.shift, elsewhere.stop_eq]
  | cons token rest => rfl

/-- A single token is expected alike. -/
theorem Elsewhere.expect (kind : TokenKind) (expected : Expectation) :
    Echo offset near.ceiling far.ceiling (Token.shift offset) (expect near kind expected)
      (expect far kind expected) := by
  intro tokens
  cases tokens with
  | nil =>
    rw [List.map_nil, Reader.expect, Reader.expect, ← List.map_nil (f := Token.shift offset),
      elsewhere.here_eq]
    exact .failed rfl
  | cons token rest =>
    simp only [List.map_cons, Reader.expect, Token.shift]
    split
    · exact .found rfl
    · exact .failed rfl

/-- A refusal to nest is a refusal under the lower ceiling. -/
theorem Elsewhere.refuse {α : Type} (move : α × List Token → α × List Token) (tokens : List Token)
    {echo : Except Fault (α × List Token)}
    (alike : near.ceiling < far.ceiling
      ∨ echo = Reader.refuse far (tokens.map (Token.shift offset))) :
    Echoes offset near.ceiling far.ceiling move (Reader.refuse near tokens) echo := by
  rcases Nat.lt_or_eq_of_le elsewhere.ceiling_le with lower | same
  · exact .refused lower rfl _
  · obtain rfl := alike.resolve_left (by omega)
    rw [Reader.refuse, Reader.refuse, elsewhere.here_eq, ← same]
    exact .failed rfl

end

/-- Operators are found alike. -/
theorem operator?_shift (offset : Nat) (level : Precedence) (tokens : List Token) :
    operator? level (tokens.map (Token.shift offset))
      = (operator? level tokens).map fun (op, span, rest) =>
        (op, span.shift offset, rest.map (Token.shift offset)) := by
  cases tokens with
  | nil => rfl
  | cons token rest =>
    simp only [List.map_cons, operator?, Token.shift]
    split
    · cases BinaryOp.ofSymbol? token.lexeme with
      | none => rfl
      | some op =>
        dsimp only
        split <;> rfl
    · rfl

/-- Signs are found alike. -/
theorem sign?_shift (offset : Nat) (tokens : List Token) :
    sign? (tokens.map (Token.shift offset))
      = (sign? tokens).map fun (op, span, rest) =>
        (op, span.shift offset, rest.map (Token.shift offset)) := by
  cases tokens with
  | nil => rfl
  | cons token rest =>
    simp only [List.map_cons, sign?, Token.shift]
    split
    · rw [Option.map_map]
      rfl
    · rfl

section

variable {offset low high : Nat}

/-- Chains go on alike if their operands are read alike. -/
theorem Echo.chainAfter {level : Precedence} {operand echo : Reader Expr}
    (echoes : Echo offset low high (Expr.shift offset) operand echo) (budget : Nat) (left : Expr)
    (height : Nat) :
    Echo offset low high (Expr.shift offset) (chainAfter level operand budget left height)
      (chainAfter level echo budget (left.shift offset) height) := by
  induction budget generalizing left height with
  | zero => exact fun tokens => .found rfl
  | succ budget hypothesis =>
    intro tokens
    unfold Reader.chainAfter
    rw [operator?_shift]
    cases operator? level tokens with
    | none => exact .found rfl
    | some found =>
      obtain ⟨op, span, following⟩ := found
      refine (echoes following).bind fun read => ?_
      obtain ⟨right, rest⟩ := read
      simp only [Prod.map, Expr.height_shift]
      split
      · exact .failed rfl
      · have joined_eq : Expr.binary op (left.shift offset) (right.shift offset)
              ⟨(left.shift offset).span.start, (right.shift offset).span.stop⟩
            = (Expr.binary op left right ⟨left.span.start, right.span.stop⟩).shift offset := by
          simp [Expr.shift, Span.shift]
        rw [joined_eq]
        exact hypothesis _ _ rest

/-- Chains are read alike if their operands are. -/
theorem Echo.chain {level : Precedence} {operand echo : Reader Expr}
    (echoes : Echo offset low high (Expr.shift offset) operand echo) :
    Echo offset low high (Expr.shift offset) (chain level operand) (chain level echo) := by
  intro tokens
  refine (echoes tokens).bind fun (first, rest) => ?_
  simp only [Prod.map, Expr.height_shift, List.length_map]
  exact echoes.chainAfter rest.length first first.height rest

end

section

variable {offset : Nat} {near far : Region} {nested echo : Reader Expr}

/-- What stands between parentheses is read alike. -/
theorem Elsewhere.parenthesized (elsewhere : Elsewhere offset near far)
    (echoes : Echo offset near.ceiling far.ceiling (Expr.shift offset) nested echo) :
    Echo offset near.ceiling far.ceiling (Prod.map (Expr.shift offset) (·.shift offset))
      (parenthesized near nested) (parenthesized far echo) := by
  intro tokens
  refine (elsewhere.expect .opening .opening tokens).bind fun (left, behind) => ?_
  refine (echoes behind).bind fun (inner, behindInner) => ?_
  refine (elsewhere.expect .closing .closing behindInner).bind fun (right, rest) => ?_
  exact .found rfl

/-- A call is read alike. -/
theorem Elsewhere.call (elsewhere : Elsewhere offset near far)
    (echoes : Echo offset near.ceiling far.ceiling (Expr.shift offset) nested echo) :
    Echo offset near.ceiling far.ceiling (Expr.shift offset) (call near nested)
      (call far echo) := by
  intro tokens
  refine (elsewhere.expect .function .functionName tokens).bind fun (function, behind) => ?_
  refine (elsewhere.parenthesized echoes behind).bind fun ((argument, parens), rest) => ?_
  exact .found rfl

/-- Parentheses are read alike. -/
theorem Elsewhere.paren (elsewhere : Elsewhere offset near far)
    (echoes : Echo offset near.ceiling far.ceiling (Expr.shift offset) nested echo) :
    Echo offset near.ceiling far.ceiling (Expr.shift offset) (paren near nested)
      (paren far echo) := by
  intro tokens
  refine (elsewhere.parenthesized echoes tokens).bind fun ((inner, span), rest) => ?_
  exact .found rfl

/-- A derivative is read alike. -/
theorem Elsewhere.derivative (elsewhere : Elsewhere offset near far)
    (echoes : Echo offset near.ceiling far.ceiling (Expr.shift offset) nested echo) :
    Echo offset near.ceiling far.ceiling (Expr.shift offset) (derivative near nested)
      (derivative far echo) := by
  intro tokens
  refine (elsewhere.expect .derivative .derivative tokens).bind fun (token, behind) => ?_
  refine (elsewhere.parenthesized echoes behind).bind fun ((body, parens), rest) => ?_
  exact .found rfl

/-- An integral is read alike. -/
theorem Elsewhere.integral (elsewhere : Elsewhere offset near far)
    (echoes : Echo offset near.ceiling far.ceiling (Expr.shift offset) nested echo) :
    Echo offset near.ceiling far.ceiling (Expr.shift offset) (integral near nested)
      (integral far echo) := by
  intro tokens
  refine (elsewhere.expect .integralSign .integralSign tokens).bind fun (token, behind) => ?_
  refine (elsewhere.paren echoes behind).bind fun (body, rest) => ?_
  cases rest with
  | nil =>
    have end_eq := elsewhere.here_eq []
    rw [List.map_nil] at end_eq
    simp only [Prod.map, List.map_nil, end_eq]
    exact .failed rfl
  | cons next rest =>
    simp only [Prod.map, List.map_cons, Token.shift]
    split
    · exact .found rfl
    · exact .failed rfl

/-! ## Levels -/

/-- The readers for nested parts echo each other, or no level is left for them under the lower
ceiling. -/
inductive Elsewhere.Levels (offset : Nat) (near far : Region) :
    Option Deeper → Option Deeper → Prop where
  | left {readers echoes : Deeper}
      (power : Echo offset near.ceiling far.ceiling (Expr.shift offset) readers.power echoes.power)
      (expression : Echo offset near.ceiling far.ceiling (Expr.shift offset) readers.expression
        echoes.expression) : Elsewhere.Levels offset near far (some readers) (some echoes)
  | exhausted {echoes : Option Deeper} (alike : near.ceiling < far.ceiling ∨ echoes = none) :
      Elsewhere.Levels offset near far none echoes

variable {readers echoes : Option Deeper}

/-- A form that nests is read alike if its reader does so. -/
theorem Elsewhere.nest (elsewhere : Elsewhere offset near far)
    (levels : Elsewhere.Levels offset near far readers echoes)
    {form formEcho : Reader Expr → Reader Expr}
    (alike : ∀ {nested echo},
      Echo offset near.ceiling far.ceiling (Expr.shift offset) nested echo →
        Echo offset near.ceiling far.ceiling (Expr.shift offset) (form nested) (formEcho echo)) :
    Echo offset near.ceiling far.ceiling (Expr.shift offset) (nest near readers form)
      (nest far echoes formEcho) := by
  cases levels with
  | left _ expression => exact alike expression
  | exhausted same =>
    intro tokens
    refine elsewhere.refuse _ tokens (same.imp_right ?_)
    rintro rfl
    rfl

/-- What stands between operators is read alike. -/
theorem Elsewhere.primary (elsewhere : Elsewhere offset near far)
    (levels : Elsewhere.Levels offset near far readers echoes) :
    Echo offset near.ceiling far.ceiling (Expr.shift offset) (primary near readers)
      (primary far echoes) := by
  intro tokens
  cases tokens with
  | nil =>
    have end_eq := elsewhere.here_eq []
    rw [List.map_nil] at end_eq ⊢
    rw [Reader.primary, Reader.primary, end_eq]
    exact .failed rfl
  | cons token rest =>
    rw [List.map_cons]
    unfold Reader.primary
    dsimp only
    rw [show (token.shift offset).kind = token.kind from rfl,
      show (token.shift offset).lexeme = token.lexeme from rfl]
    split
    · cases Number.read? token.lexeme with
      | none => exact .failed rfl
      | some value => exact .found rfl
    · exact .found rfl
    · have start_eq : (token.shift offset).span.start + 1 = token.span.start + 1 + offset :=
        Nat.add_right_comm _ _ _
      rw [start_eq]
      exact .found rfl
    · exact elsewhere.nest levels elsewhere.call (token :: rest)
    · exact elsewhere.nest levels elsewhere.paren (token :: rest)
    · exact elsewhere.nest levels elsewhere.derivative (token :: rest)
    · exact elsewhere.nest levels elsewhere.integral (token :: rest)
    all_goals exact .failed rfl

/-- A power is read alike, with a sign in front of it or without. -/
theorem Elsewhere.factor (elsewhere : Elsewhere offset near far)
    (levels : Elsewhere.Levels offset near far readers echoes) :
    Echo offset near.ceiling far.ceiling (Expr.shift offset) (factor near readers)
      (factor far echoes) := by
  intro tokens
  unfold Reader.factor
  rw [sign?_shift]
  cases sign? tokens with
  | none => exact (elsewhere.primary levels).chain tokens
  | some found =>
    obtain ⟨op, span, following⟩ := found
    cases levels with
    | left power _ =>
      refine (power following).bind fun (operand, rest) => .found ?_
      simp [Expr.shift, Span.shift]
    | exhausted same =>
      refine elsewhere.refuse _ following (same.imp_right ?_)
      rintro rfl
      rfl

/-- An expression is read alike. -/
theorem Elsewhere.expression (elsewhere : Elsewhere offset near far)
    (levels : Elsewhere.Levels offset near far readers echoes) :
    Echo offset near.ceiling far.ceiling (Expr.shift offset) (expression near readers)
      (expression far echoes) :=
  (elsewhere.factor levels).chain.chain

/-- As many levels are left more under the higher ceiling as it is higher. -/
theorem Elsewhere.deeper (elsewhere : Elsewhere offset near far) (levels : Nat) :
    Elsewhere.Levels offset near far (deeper near levels)
      (deeper far (levels + (far.ceiling - near.ceiling))) := by
  induction levels with
  | zero =>
    rcases Nat.lt_or_eq_of_le elsewhere.ceiling_le with lower | same
    · exact .exhausted (.inl lower)
    · rw [same, Nat.sub_self]
      exact .exhausted (.inr rfl)
  | succ levels hypothesis =>
    rw [Nat.add_right_comm]
    exact .left (elsewhere.primary hypothesis).chain (elsewhere.expression hypothesis)

/-- An expression that all the tokens belong to is read alike. -/
theorem Elsewhere.whole (elsewhere : Elsewhere offset near far) (tokens : List Token) :
    Echoes offset near.ceiling far.ceiling (Expr.shift offset) (whole near tokens)
      (whole far (tokens.map (Token.shift offset))) := by
  have levels := elsewhere.deeper near.ceiling
  rw [Nat.add_sub_cancel' elsewhere.ceiling_le] at levels
  refine (elsewhere.expression levels tokens).bind fun (expr, rest) => ?_
  cases rest with
  | nil => exact .found rfl
  | cons token rest => exact .failed rfl

end

end Reader

namespace Expr

/-- A text that stands further right is read alike under a ceiling that is no lower. -/
theorem readRegion_echoes (offset position : Nat) (chars : List Char) {low high : Nat}
    (le : low ≤ high) :
    Echoes offset low high (shift offset) (readRegion position chars low)
      (readRegion (position + offset) chars high) := by
  have elsewhere : Reader.Elsewhere offset ⟨position + byteLength chars, low⟩
      ⟨position + offset + byteLength chars, high⟩ :=
    ⟨Nat.add_right_comm _ _ _, le⟩
  exact (Token.scan?_echoes offset low high position chars).bind elsewhere.whole

/-! ## Elsewhere -/

/-- What was read, further right. -/
def moved (offset : Nat) : Except Fault Expr → Except Fault Expr
  | .ok expr => .ok (expr.shift offset)
  | .error fault => .error (fault.shift offset)

/-- A text that stands further right is read as the same, moved. -/
theorem readRegion_shift (offset : Nat) (chars : List Char) (ceiling : Nat) :
    readRegion offset chars ceiling = moved offset (readRegion 0 chars ceiling) := by
  have echoes := readRegion_echoes offset 0 chars (Nat.le_refl ceiling)
  rw [Nat.zero_add] at echoes
  obtain ⟨expr, reads, echo⟩ | ⟨fault, fails, echo⟩ := echoes.eq_of_same_ceiling
  · rw [reads, echo, moved]
  · rw [fails, echo, moved]

/-- The message of a fault that moves names the position where the fault is then. -/
theorem message_shift {fault : Fault} {span : Span} (spans_eq : fault.spans = [span])
    (offset : Nat) :
    (fault.shift offset).message
      = fault.cause.phrase ++ " at position " ++ toString (fault.position + offset) := by
  simp [Fault.message, Fault.shift, Fault.position, spans_eq]

/-- A region of a text is read as the text in it would be on its own, with every region of the tree
or of the fault further right by where the region begins. A fault has the same cause, and its
message names the position that is further right. -/
theorem readSlice_shift (before within behind : List Char) (ceiling : Nat) :
    ∃ alone,
      readSlice (String.ofList within) ⟨0, byteLength within⟩ ceiling = .ok alone
      ∧ readSlice (String.ofList (before ++ (within ++ behind)))
          ⟨byteLength before, byteLength before + byteLength within⟩ ceiling
        = .ok (moved (byteLength before) alone)
      ∧ ∀ fault, alone = .error fault →
          (fault.shift (byteLength before)).cause = fault.cause
          ∧ (fault.shift (byteLength before)).message
            = fault.cause.phrase ++ " at position "
              ++ toString (fault.position + byteLength before) := by
  refine ⟨readRegion 0 within ceiling, ?_, ?_, fun fault fails => ⟨rfl, ?_⟩⟩
  · have sliced := Span.slice_eq (.whole within) (Nat.zero_add _).symm
    simp only [readSlice, String.toList_ofList, sliced, bind, Except.bind, pure, Except.pure]
  · have sliced := Span.slice_eq (.append before within behind) rfl
    simp only [readSlice, String.toList_ofList, sliced, bind, Except.bind, pure, Except.pure,
      ← readRegion_shift]
  · have settles := settles_readRegion (.whole within) ceiling
    rw [fails] at settles
    obtain ⟨span, spans_eq, -⟩ := settles
    exact message_shift spans_eq (byteLength before)

/-! ## Under another ceiling -/

/-- A text in the form of a derivative is read alike under a ceiling that is no lower. -/
theorem readDerivative?_echoes (chars : List Char) {low high : Nat} (le : low ≤ high) :
    (readDerivative? chars low = none ∧ readDerivative? chars high = none)
      ∨ ∃ first echo, readDerivative? chars low = some first
        ∧ readDerivative? chars high = some echo ∧ Echoes 0 low high (shift 0) first echo := by
  unfold readDerivative?
  cases DerivativeText.split? chars with
  | none => exact .inl ⟨rfl, rfl⟩
  | some parts =>
    refine .inr ⟨_, _, rfl, rfl, ?_⟩
    exact (readRegion_echoes 0 _ parts.body le).bind fun body => .found rfl

/-- An integral with bounds is read alike under a ceiling that is no lower. -/
theorem readBounded_echoes (wrt : Char) (indent chars : List Char) (span : Span) {low high : Nat}
    (le : low ≤ high) :
    Echoes 0 low high (shift 0) (readBounded wrt indent chars span low)
      (readBounded wrt indent chars span high) := by
  unfold readBounded
  cases BoundedText.split? chars with
  | none => exact .failed rfl
  | some parts =>
    refine (readRegion_echoes 0 _ parts.lower le).bind fun lower => ?_
    refine (readRegion_echoes 0 _ parts.upper le).bind fun upper => ?_
    exact (readRegion_echoes 0 _ parts.body le).bind fun body => .found rfl

/-- A text in the form of an integral is read alike under a ceiling that is no lower. -/
theorem readIntegral?_echoes (chars : List Char) {low high : Nat} (le : low ≤ high) :
    (readIntegral? chars low = none ∧ readIntegral? chars high = none)
      ∨ ∃ first echo, readIntegral? chars low = some first
        ∧ readIntegral? chars high = some echo ∧ Echoes 0 low high (shift 0) first echo := by
  unfold readIntegral?
  cases IntegralText.split? chars with
  | none => exact .inl ⟨rfl, rfl⟩
  | some parts =>
    refine .inr ⟨_, _, rfl, rfl, ?_⟩
    split
    · exact readBounded_echoes _ _ _ _ le
    · exact (readRegion_echoes 0 _ parts.body le).bind fun body => .found rfl

/-- A text is read alike under a ceiling that is no lower. -/
theorem read_echoes (source : String) {low high : Nat} (le : low ≤ high) :
    Echoes 0 low high (shift 0) (read source low) (read source high) := by
  unfold read
  dsimp only
  obtain ⟨lowNone, highNone⟩ | ⟨first, echo, isFirst, isEcho, echoes⟩ :=
    readDerivative?_echoes source.toList le
  · rw [lowNone, highNone]
    obtain ⟨lowNone, highNone⟩ | ⟨first, echo, isFirst, isEcho, echoes⟩ :=
      readIntegral?_echoes source.toList le
    · rw [lowNone, highNone]
      exact readRegion_echoes 0 0 source.toList le
    · rw [isFirst, isEcho]
      exact echoes
  · rw [isFirst, isEcho]
    exact echoes

/-- A lower ceiling only ever forbids: a text is read under it as it is under a higher one, to the
same tree with the same regions or to the same fault, unless it is refused for nesting too
deeply. -/
theorem read_eq_or_tooDeep (source : String) {low high : Nat} (le : low ≤ high) :
    read source low = read source high
      ∨ ∃ fault, read source low = .error fault ∧ fault.cause = .tooDeep low :=
  (read_echoes source le).eq_of_same_place shift_zero

/-- Two pairs of parentheses are refused where one level may nest. -/
theorem read_eq_or_tooDeep_parentheses :
    read "((x))" 1 = .error (.within ⟨1, 2⟩ (.tooDeep 1))
      ∧ (read "((x))" 1 = read "((x))" 2
        ∨ ∃ fault, read "((x))" 1 = .error fault ∧ fault.cause = .tooDeep 1) :=
  ⟨rfl, read_eq_or_tooDeep "((x))" (by decide)⟩

end Expr

end Workings
