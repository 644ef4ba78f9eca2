import Workings.Proofs.Expr.Failure
import Workings.Proofs.Expr.LiteralForms

/-!
# How tall trees grow

A chain is refused as soon as its tree would be too tall, and everything else that makes a tree
taller takes a level that may nest. So the height of a tree that was read is bounded by the ceiling
alone, however long the text is.
-/

namespace Workings

namespace Expr

/-! ## Measuring with a stack -/

/-- An expression reaches no further down than a bound if neither its top nor what is below does. -/
theorem add_height_le_iff (expr : Expr) (level bound : Nat) :
    level + expr.height ≤ bound + 1
      ↔ level ≤ bound ∧ ∀ child ∈ expr.children, level + 1 + child.height ≤ bound + 1 := by
  cases expr <;> simp [height, children] <;> omega

/-- The greatest level is bounded if those that were taken off are, and all expressions on the stack
reach no further down. -/
theorem deepest_le_iff (greatest bound : Nat) (stack : List (Expr × Nat)) :
    deepest greatest stack ≤ bound
      ↔ greatest ≤ bound ∧ ∀ entry ∈ stack, entry.2 + entry.1.height ≤ bound + 1 := by
  fun_induction deepest greatest stack with
  | case1 greatest => simp
  | case2 greatest expr level stack below hypothesis =>
    have belowIff : (∀ entry ∈ below.reverse, entry.2 + entry.1.height ≤ bound + 1)
        ↔ ∀ child ∈ expr.children, level + 1 + child.height ≤ bound + 1 := by
      simp [below]
    rw [hypothesis, List.forall_mem_append, List.forall_mem_cons, belowIff, add_height_le_iff,
      Nat.max_le, and_assoc, and_assoc]

/-- The height that is measured with a stack is the height of the tree. -/
theorem measuredHeight_eq (expr : Expr) : expr.measuredHeight = expr.height := by
  refine eq_of_forall_ge_iff fun bound => ?_
  have reach : (1 + expr.height ≤ bound + 1) ↔ expr.height ≤ bound := by omega
  simp [measuredHeight, deepest_le_iff, reach]

/-! ## Trees that were read -/

/-- An expression stands somewhere in another one. -/
inductive Occurs (part : Expr) : Expr → Prop where
  | top : Occurs part part
  | inside {child expr : Expr} (isChild : child ∈ expr.children) (occurs : Occurs part child) :
      Occurs part expr

/-- Every operator between operands stands at the top of a tree that is not too tall. -/
theorem Bounded.of_occurs {op : BinaryOp} {left right expr : Expr} {span : Span}
    (bounded : expr.Bounded) (occurs : Occurs (.binary op left right span) expr) :
    (Expr.binary op left right span).height ≤ maxHeight := by
  induction occurs with
  | top => exact bounded.1
  | @inside child expr isChild _ hypothesis =>
    refine hypothesis ?_
    cases expr <;> simp_all [children, Bounded]
    all_goals rcases isChild with rfl | rfl | rfl <;> tauto

/-- A level that nests makes a tree taller by two nodes at most, and chains are bounded. -/
theorem Bounded.height_le {expr : Expr} (bounded : expr.Bounded) :
    expr.height ≤ maxHeight + 2 * expr.levels := by
  fun_induction levels expr with
  | case1 | case2 => simp [height, maxHeight]
  | case6 => exact Nat.le_trans bounded.1 (Nat.le_add_right _ _)
  | case10 _ lower upper body _ lowerHypothesis upperHypothesis bodyHypothesis =>
    have lowerBelow := lowerHypothesis bounded.1
    have upperBelow := upperHypothesis bounded.2.1
    have bodyBelow := bodyHypothesis bounded.2.2
    simp only [height]
    omega
  | _ =>
    rename_i hypothesis
    have below := hypothesis bounded
    simp only [height]
    omega

/-- A tree that keeps to a ceiling has at most two nodes more on a path for every level. -/
theorem Within.height_le {ceiling : Nat} {expr : Expr} (within : expr.Within ceiling) :
    expr.height ≤ maxHeight + 2 * ceiling := by
  have low := within.bounded.height_le
  have levels_le := within.levels_le
  omega

/-- A tree that the grammar reads keeps to the ceiling. -/
theorem within_of_readRegion {position ceiling : Nat} {chars : List Char} {expr : Expr}
    (reads : readRegion position chars ceiling = .ok expr) : expr.Within ceiling := by
  obtain ⟨tokens, -, readsWhole⟩ := Reader.of_bind_eq_ok reads
  exact (Reader.sound_whole readsWhole).2

/-- Chains of a tree that was read are bounded, and the tree is taller by one node at most than what
the grammar reads. -/
theorem bounded_of_read {source : String} {ceiling : Nat} {expr : Expr}
    (reads : read source ceiling = .ok expr) :
    expr.Bounded ∧ expr.height ≤ maxHeight + 2 * ceiling + 1 := by
  unfold read at reads
  dsimp only at reads
  split at reads
  · rename_i found
    subst reads
    obtain ⟨_, _, body, _, -, ⟨_, readsBody⟩, rfl⟩ := of_readDerivative found
    have within := within_of_readRegion readsBody
    exact ⟨within.bounded, Nat.succ_le_succ within.height_le⟩
  · split at reads
    · rename_i found
      subst reads
      obtain ⟨_, -, ⟨_, body, _, -, ⟨_, readsBody⟩, rfl⟩
        | ⟨_, _, _, lower, upper, body, _, ⟨_, readsLower⟩, ⟨_, readsUpper⟩, ⟨_, readsBody⟩,
          rfl⟩⟩ := of_readIntegral found
      · have within := within_of_readRegion readsBody
        exact ⟨within.bounded, Nat.succ_le_succ within.height_le⟩
      · have lowerWithin := within_of_readRegion readsLower
        have upperWithin := within_of_readRegion readsUpper
        have within := within_of_readRegion readsBody
        exact ⟨⟨lowerWithin.bounded, upperWithin.bounded, within.bounded⟩, Nat.succ_le_succ
          (Nat.max_le.2 ⟨Nat.max_le.2 ⟨lowerWithin.height_le, upperWithin.height_le⟩,
            within.height_le⟩)⟩
    · have within := within_of_readRegion reads
      exact ⟨within.bounded, Nat.le_succ_of_le within.height_le⟩

end Expr

namespace Reader

variable {region : Region} {levels : Nat} {tokens : List Token} {fault : Fault}

/-! ## Trees that were refused -/

/-- A chain was begun somewhere in the tokens, and its tree would have been too tall with the
operator that the fault points at. -/
inductive TooTall (region : Region) (tokens : List Token) (fault : Fault) : Prop where
  | chain {levels : Nat} {level : Precedence} {start rest following behind : List Token}
      {left right : Expr} {op : BinaryOp} {span : Span} (suffix : start <:+ tokens)
      (begun : Begun region levels level start left rest)
      (found : operator? level rest = some (op, span, following))
      (reads : operandAt region levels level following = .ok (right, behind))
      (points : fault.spans = [span])
      (tooTall : maxHeight
        < (Expr.binary op left right ⟨left.span.start, right.span.stop⟩).height)

/-- A chain is refused in all tokens if it is refused in the last of them. -/
theorem TooTall.of_suffix {part : List Token} (tall : TooTall region part fault)
    (suffix : part <:+ tokens) : TooTall region tokens fault := by
  obtain ⟨partSuffix, begun, found, reads, points, tooTall⟩ := tall
  exact ⟨partSuffix.trans suffix, begun, found, reads, points, tooTall⟩

/-- The next operand of a begun chain stands behind it. -/
theorem Begun.suffix {level : Precedence} {rest following : List Token} {left : Expr}
    {op : BinaryOp} {span : Span} (begun : Begun region levels level tokens left rest)
    (found : operator? level rest = some (op, span, following)) : following <:+ tokens := by
  obtain ⟨read, rfl, -⟩ := begun.derives
  obtain ⟨token, rfl, -⟩ := of_operator? found
  exact ⟨read ++ [token], by simp⟩

/-- No misplaced token makes a chain too tall. -/
theorem Misplaced.not_tooTall {rest : List Token} (misplaced : Misplaced region rest fault) :
    fault.cause ≠ .tooTall := by
  cases misplaced <;> simp [Fault.within]

/-- A phrase that is not read because of the height of a chain has such a chain. -/
theorem Fails.tooTall {phrase : Phrase} (fails : Fails region levels phrase tokens fault)
    (cause : fault.cause = .tooTall) : TooTall region tokens fault := by
  induction fails with
  | first _ hypothesis => exact hypothesis cause
  | later begun found _ hypothesis => exact (hypothesis cause).of_suffix (begun.suffix found)
  | tall begun found reads tooTall =>
    refine ⟨List.suffix_rfl, begun, found, reads, rfl, ?_⟩
    rwa [Expr.height, Nat.add_comm]
  | signed found _ hypothesis =>
    obtain ⟨token, rfl, -⟩ := of_sign? found
    exact (hypothesis cause).of_suffix (List.suffix_cons _ _)
  | unsigned _ _ hypothesis => exact hypothesis cause
  | refused => simp [Fault.within] at cause
  | inside _ _ _ hypothesis =>
    exact (hypothesis cause).of_suffix
      ((List.suffix_cons _ _).trans (List.suffix_append _ _))
  | noOperand _ misplaced | unopened _ _ misplaced | unclosed _ _ _ _ misplaced
  | undifferentiated _ _ _ _ _ misplaced => exact absurd cause misplaced.not_tooTall

end Reader

namespace Expr

/-- Every operator between operands of a tree that was read stands at the top of a tree that is not
too tall, and the tree itself is bounded by the ceiling, whether it is measured with a stack or
along its parts. A chain that is refused for its height would have been too tall. -/
theorem tallness_bounded :
    (∀ (source : String) (ceiling : Nat) (expr : Expr), read source ceiling = .ok expr →
      (∀ op left right span, Occurs (.binary op left right span) expr →
        (Expr.binary op left right span).height ≤ maxHeight)
      ∧ expr.measuredHeight ≤ maxHeight + 2 * ceiling + 1)
    ∧ (∀ expr : Expr, expr.measuredHeight = expr.height)
    ∧ ∀ (region : Region) (levels : Nat) (level : Precedence) (tokens : List Token)
        (fault : Fault), Reader.chainAt region levels level tokens = .error fault →
      fault.cause = .tooTall → Reader.TooTall region tokens fault := by
  refine ⟨fun source ceiling expr reads => ?_, measuredHeight_eq, ?_⟩
  · obtain ⟨bounded, low⟩ := bounded_of_read reads
    refine ⟨fun op left right span occurs => bounded.of_occurs occurs, ?_⟩
    rwa [measuredHeight_eq]
  · intro region levels level tokens fault fails cause
    exact (Reader.chainsFail region levels fails).tooTall cause

/-- The tokens of a sum of 401 times the same name. -/
def longSum : List Token :=
  (List.replicate maxHeight [⟨.name, "x", ⟨0, 1⟩⟩, ⟨.operator, "+", ⟨1, 2⟩⟩]).flatten
    ++ [⟨.name, "x", ⟨0, 1⟩⟩]

/-- A sum of two names is read, and a sum of 401 names would be too tall. -/
theorem tallness_bounded_sums :
    (∃ expr, read "x+y" 0 = .ok expr ∧ expr.measuredHeight ≤ maxHeight + 2 * 0 + 1)
    ∧ ∃ fault, Reader.chainAt ⟨0, 0⟩ 0 .term longSum = .error fault
      ∧ fault.cause = .tooTall ∧ Reader.TooTall ⟨0, 0⟩ longSum fault := by
  constructor
  · obtain ⟨expr, reads, -⟩ := reads_exactly_sum
    have whole : read "x+y" 0 = .ok expr := by rw [← reads]; rfl
    exact ⟨expr, whole, (tallness_bounded.1 _ _ _ whole).2⟩
  · have refused : ((Reader.chainAt ⟨0, 0⟩ 0 .term longSum).map fun _ => ())
        = .error ⟨.tooTall, [⟨1, 2⟩]⟩ := by
      decide +kernel
    cases outcome : Reader.chainAt ⟨0, 0⟩ 0 .term longSum with
    | ok result => simp [outcome, Except.map] at refused
    | error fault =>
      rw [outcome] at refused
      have cause : fault.cause = .tooTall := congrArg Fault.cause (Except.error.inj refused)
      exact ⟨fault, rfl, cause, tallness_bounded.2.2 _ _ _ _ _ outcome cause⟩

end Expr

end Workings
