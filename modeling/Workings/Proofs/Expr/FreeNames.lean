import Workings.Proofs.Evaluation.Agreement
import Workings.Proofs.Evaluation.Course
import Workings.Proofs.Expr.RoundTrip
import Workings.Proofs.Number.Finite

/-!
# Free names in texts

The text of a tree that was read tells which names are free in it. The exceptions are numbers beyond
the reach of doubles: they are infinite and are written like a name. So the tree is compared with
the one that has names in their place, which has the same text and is read back from it.
-/

namespace Workings

/-! ## Numbers that were read -/

/-- The numbers of the chain that a phrase goes on with. -/
def Phrase.literals : Phrase → List Float
  | .after _ left => left.literals
  | _ => []

/-- Operands go on with no chain. -/
@[simp] theorem Phrase.literals_operand (level : Precedence) : level.operand.literals = [] := by
  cases level <;> rfl

/-- What holds of every number that is read from a word of a phrase, and of the numbers of the chain
that the phrase goes on with, holds of the numbers of its tree. -/
theorem Derives.literals {property : Float → Prop} {phrase : Phrase} {words : List Word}
    {expr : Expr} (derives : Derives phrase words expr)
    (readNumber : ∀ lexeme value, Word.number lexeme ∈ words →
      Number.read? lexeme = some value → property value)
    (begun : ∀ value ∈ phrase.literals, property value) :
    ∀ value ∈ expr.literals, property value := by
  induction derives with
  | chain _ _ operandHypothesis afterHypothesis =>
    refine afterHypothesis (fun lexeme value member => readNumber lexeme value ?_) ?_
    · exact List.mem_append_right _ member
    · refine operandHypothesis (fun lexeme value member => readNumber lexeme value ?_) (by simp)
      exact List.mem_append_left _ member
  | done => exact begun
  | joined _ _ _ operandHypothesis afterHypothesis =>
    refine afterHypothesis (fun lexeme value member => readNumber lexeme value ?_) ?_
    · exact List.mem_cons_of_mem _ (List.mem_append_right _ member)
    · refine List.forall_mem_append.2 ⟨begun, ?_⟩
      refine operandHypothesis (fun lexeme value member => readNumber lexeme value ?_) (by simp)
      exact List.mem_cons_of_mem _ (List.mem_append_left _ member)
  | signed _ hypothesis =>
    exact hypothesis (fun lexeme value member => readNumber lexeme value (.tail _ member)) nofun
  | unsigned _ hypothesis => exact hypothesis readNumber nofun
  | number reads => exact List.forall_mem_singleton.2 (readNumber _ _ (.head _) reads)
  | name | differential => nofun
  | call _ hypothesis | paren _ hypothesis | derivative _ hypothesis | integral _ hypothesis =>
    exact hypothesis (fun lexeme value member => readNumber lexeme value (by simp [member])) nofun

namespace Expr

/-- A tree whose text tells whether the name is free in it: the tree can be written, its numbers
have no sign, and none of them is written like the name. -/
structure Discloses (name : String) (expr : Expr) : Prop where
  readable : expr.Readable
  clear : ∀ value ∈ expr.literals, value.toBits.toNat / Number.signBit = 0
  unwritten : name ∉ expr.literals.map Number.text

/-- Trees that the grammar read can be written, and their numbers have no sign. -/
theorem discloses_of_readRegion {position : Nat} {chars : List Char} {ceiling : Nat} {expr : Expr}
    (reads : readRegion position chars ceiling = .ok expr) {name : String}
    (unwritten : name ∉ expr.literals.map Number.text) : expr.Discloses name where
  readable := (readable_of_readRegion reads).1
  clear := by
    obtain ⟨found, scans, derives, -⟩ := derives_of_readRegion reads
    rw [← literals_bare]
    refine derives.literals (fun lexeme value member readsNumber => ?_) nofun
    obtain ⟨decimal, numeral⟩ := scans.lexical _ member
    exact numeral.clear readsNumber
  unwritten

/-! ## Names in the place of numbers -/

/-- The tree with names in the place of the numbers that are not finite. -/
def masked : Expr → Expr
  | .number value span =>
    if value.isFinite then .number value span else .symbol (Number.text value) span
  | .symbol name span => .symbol name span
  | .paren inner span => .paren inner.masked span
  | .call function functionSpan argument parenSpan span =>
    .call function functionSpan argument.masked parenSpan span
  | .unary op operand span => .unary op operand.masked span
  | .binary op left right span => .binary op left.masked right.masked span
  | .derivative wrt body span => .derivative wrt body.masked span
  | .indefinite wrt body span => .indefinite wrt body.masked span
  | .definite wrt lower upper body span =>
    .definite wrt lower.masked upper.masked body.masked span

/-- Names are bounds of integrals like numbers. -/
@[simp] theorem boundText_masked (bound : Expr) (written : String) :
    boundText bound.masked written = boundText bound written := by
  cases bound with
  | number value span =>
    unfold masked
    split <;> rfl
  | _ => rfl

/-- The names are written like the numbers. -/
@[simp] theorem text_masked (expr : Expr) : expr.masked.text = expr.text := by
  induction expr with
  | number value span =>
    unfold masked
    split <;> rfl
  | _ => simp_all [masked, text]

/-- Names bind as tightly as numbers. -/
@[simp] theorem tightness_masked (expr : Expr) : expr.masked.tightness = expr.tightness := by
  cases expr with
  | number value span =>
    unfold masked
    split <;> rfl
  | _ => rfl

/-- No number is left that is not finite. -/
theorem finite_masked (expr : Expr) : expr.masked.Finite := by
  induction expr with
  | number value span =>
    unfold masked
    split
    · rename_i finite
      exact List.forall_mem_singleton.2 finite
    · exact List.forall_mem_nil _
  | symbol name span => exact List.forall_mem_nil _
  | paren _ _ hypothesis | call _ _ _ _ _ hypothesis | unary _ _ _ hypothesis
  | derivative _ _ _ hypothesis | indefinite _ _ _ hypothesis => exact hypothesis
  | binary op left right span leftHypothesis rightHypothesis =>
    exact List.forall_mem_append.2 ⟨leftHypothesis, rightHypothesis⟩
  | definite wrt lower upper body span lowerHypothesis upperHypothesis bodyHypothesis =>
    exact List.forall_mem_append.2
      ⟨List.forall_mem_append.2 ⟨lowerHypothesis, upperHypothesis⟩, bodyHypothesis⟩

/-- What can be written can be written with the names. -/
theorem Readable.masked {expr : Expr} (readable : expr.Readable)
    (clear : ∀ value ∈ expr.literals, value.toBits.toNat / Number.signBit = 0) :
    expr.masked.Readable := by
  induction expr with
  | number value span =>
    unfold Expr.masked
    split
    · exact readable
    · rename_i notFinite
      rcases Number.text_of_clear (clear value (.head _)) notFinite with isName | isName
      · exact isName ▸ ⟨by decide, by decide⟩
      · exact isName ▸ ⟨by decide, by decide⟩
  | symbol name span => exact readable
  | paren inner span hypothesis => exact hypothesis readable clear
  | call function functionSpan argument parenSpan span hypothesis =>
    exact ⟨readable.1, hypothesis readable.2 clear⟩
  | unary op operand span hypothesis =>
    exact ⟨by simpa using readable.1, hypothesis readable.2 clear⟩
  | binary op left right span leftHypothesis rightHypothesis =>
    obtain ⟨tight, tighter, leftReadable, rightReadable⟩ := readable
    obtain ⟨leftClear, rightClear⟩ := List.forall_mem_append.1 clear
    exact ⟨by simpa using tight, by simpa using tighter, leftHypothesis leftReadable leftClear,
      rightHypothesis rightReadable rightClear⟩
  | derivative wrt body span hypothesis => exact ⟨readable.1, hypothesis readable.2 clear⟩
  | indefinite wrt body span hypothesis =>
    obtain ⟨letter, ⟨inner, innerSpan, rfl⟩, bodyReadable⟩ := readable
    exact ⟨letter, ⟨inner.masked, innerSpan, rfl⟩, hypothesis bodyReadable clear⟩
  | definite => contradiction

/-! ## The text tells the free names -/

/-- Regions do not count for free names. -/
@[simp] theorem freeNames_bare (expr : Expr) : expr.bare.freeNames = expr.freeNames := by
  induction expr <;> simp_all [bare, freeNames]

/-- A name that no number is written like is free in the tree with the names in the place of numbers
if it is free in the tree. -/
theorem Discloses.mem_freeNames_masked {name : String} {expr : Expr}
    (discloses : expr.Discloses name) : name ∈ expr.masked.freeNames ↔ name ∈ expr.freeNames := by
  obtain ⟨readable, -, unwritten⟩ := discloses
  induction expr with
  | number value span =>
    have other : name ≠ Number.text value := by simpa [literals] using unwritten
    unfold masked
    split
    · rfl
    · simp [freeNames, other]
  | symbol name span => rfl
  | paren inner span hypothesis => exact hypothesis readable unwritten
  | call function functionSpan argument parenSpan span hypothesis =>
    exact hypothesis readable.2 unwritten
  | unary op operand span hypothesis => exact hypothesis readable.2 unwritten
  | binary op left right span leftHypothesis rightHypothesis =>
    obtain ⟨-, -, leftReadable, rightReadable⟩ := readable
    rw [literals, List.map_append, List.mem_append, not_or] at unwritten
    simp only [masked, freeNames, List.mem_append, leftHypothesis leftReadable unwritten.1,
      rightHypothesis rightReadable unwritten.2]
  | derivative | indefinite => rfl
  | definite => contradiction

/-- A name is free in both of two trees with the same text or in neither. -/
theorem Discloses.mem_freeNames_iff_of_text_eq {name : String} {left right : Expr}
    (leftDiscloses : left.Discloses name) (rightDiscloses : right.Discloses name)
    (same : left.text = right.text) : name ∈ left.freeNames ↔ name ∈ right.freeNames := by
  have bare_eq : left.masked.bare = right.masked.bare :=
    (leftDiscloses.readable.masked leftDiscloses.clear).bare_eq_of_text_eq
      (rightDiscloses.readable.masked rightDiscloses.clear) left.finite_masked right.finite_masked
      (by simpa using same)
  rw [← leftDiscloses.mem_freeNames_masked, ← rightDiscloses.mem_freeNames_masked,
    ← freeNames_bare left.masked, bare_eq, freeNames_bare]

/-- What a tree discloses its operands disclose. -/
theorem Discloses.operand {name : String} {expr operand : Expr} (discloses : expr.Discloses name)
    (member : operand ∈ expr.operands) : operand.Discloses name := by
  obtain ⟨readable, clear, unwritten⟩ := discloses
  cases expr with
  | number | symbol | derivative | indefinite => contradiction
  | paren inner span =>
    obtain rfl := List.mem_singleton.1 member
    exact ⟨readable, clear, unwritten⟩
  | call function functionSpan argument parenSpan span =>
    obtain rfl := List.mem_singleton.1 member
    exact ⟨readable.2, clear, unwritten⟩
  | unary op inner span =>
    obtain rfl := List.mem_singleton.1 member
    exact ⟨readable.2, clear, unwritten⟩
  | binary op left right span =>
    obtain ⟨-, -, leftReadable, rightReadable⟩ := readable
    obtain ⟨leftClear, rightClear⟩ := List.forall_mem_append.1 clear
    rw [literals, List.map_append, List.mem_append, not_or] at unwritten
    obtain rfl | rfl : operand = left ∨ operand = right := by simpa [operands] using member
    · exact ⟨leftReadable, leftClear, unwritten.1⟩
    · exact ⟨rightReadable, rightClear, unwritten.2⟩
  | definite => contradiction

/-- A name that is free in a tree is the tree or is free in an operand of it. -/
theorem Readable.of_mem_freeNames {name : String} {expr : Expr} (readable : expr.Readable)
    (free : name ∈ expr.freeNames) :
    (∃ span, expr = .symbol name span) ∨ ∃ operand ∈ expr.operands, name ∈ operand.freeNames := by
  cases expr with
  | symbol other span =>
    obtain rfl := List.mem_singleton.1 free
    exact .inl ⟨span, rfl⟩
  | paren | call | unary => exact .inr ⟨_, .head _, free⟩
  | binary op left right span =>
    rcases List.mem_append.1 free with inLeft | inRight
    · exact .inr ⟨left, .head _, inLeft⟩
    · exact .inr ⟨right, .tail _ (.head _), inRight⟩
  | number | derivative | indefinite | definite => contradiction

end Expr

end Workings
