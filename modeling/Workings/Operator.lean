/-!
# Operators

The six operators between two operands, in three levels of precedence, and the two signs.
-/

namespace Workings

/-- How tightly an operator between two operands binds. -/
inductive Precedence where
  /-- Sums and differences bind least. -/
  | term
  /-- Products, quotients and remainders. -/
  | factor
  /-- Powers bind most. -/
  | power
  deriving Repr, DecidableEq

/-- The place of a level in the order of binding. -/
def Precedence.rank : Precedence → Nat
  | .term => 0
  | .factor => 1
  | .power => 2

instance : Ord Precedence where
  compare left right := compare left.rank right.rank

/-- An operator between two operands. -/
inductive BinaryOp where
  | power
  | times
  | dividedBy
  | modulo
  | plus
  | minus
  deriving Repr, DecidableEq

/-- The level of an operator. -/
def BinaryOp.precedence : BinaryOp → Precedence
  | .power => .power
  | .times | .dividedBy | .modulo => .factor
  | .plus | .minus => .term

/-- How an operator is written. -/
def BinaryOp.symbol : BinaryOp → String
  | .power => "^"
  | .times => "*"
  | .dividedBy => "/"
  | .modulo => "%"
  | .plus => "+"
  | .minus => "-"

/-- The operator with the given symbol. The equals sign is no operator between operands. -/
def BinaryOp.ofSymbol? : String → Option BinaryOp
  | "^" => some .power
  | "*" => some .times
  | "/" => some .dividedBy
  | "%" => some .modulo
  | "+" => some .plus
  | "-" => some .minus
  | _ => none

/-- A sign in front of an operand. -/
inductive UnaryOp where
  | minus
  | plus
  deriving Repr, DecidableEq

/-- How a sign is written. -/
def UnaryOp.symbol : UnaryOp → String
  | .minus => "-"
  | .plus => "+"

/-- The sign with the given symbol. -/
def UnaryOp.ofSymbol? : String → Option UnaryOp
  | "-" => some .minus
  | "+" => some .plus
  | _ => none

/-- Reading a symbol gives back the operator that was written. -/
theorem BinaryOp.ofSymbol?_eq_some_iff {symbol : String} {op : BinaryOp} :
    BinaryOp.ofSymbol? symbol = some op ↔ symbol = op.symbol := by
  constructor
  · unfold BinaryOp.ofSymbol?
    split <;> rintro ⟨⟩ <;> rfl
  · rintro rfl
    cases op <;> rfl

/-- Reading a symbol gives back the sign that was written. -/
theorem UnaryOp.ofSymbol?_eq_some_iff {symbol : String} {op : UnaryOp} :
    UnaryOp.ofSymbol? symbol = some op ↔ symbol = op.symbol := by
  constructor
  · unfold UnaryOp.ofSymbol?
    split <;> rintro ⟨⟩ <;> rfl
  · rintro rfl
    cases op <;> rfl

end Workings
