import Workings.Proofs.Expr.Failure

/-!
# Which words can be completed

Words are viable if some words behind them make an expression. Where a phrase is stuck, the words
before can be completed to a phrase, and with the next word they cannot, nor does anything that may
stand behind the phrase go on with that word. So a phrase is stuck where a part of it is.
-/

namespace Workings

/-- The words can be completed by words that can stand in a text. -/
def Completable (phrase : Phrase) (words : List Word) : Prop :=
  ∃ more tree, more ≠ [] ∧ (∀ word ∈ more, Lexer.Lexical word) ∧ Derives phrase (words ++ more) tree

/-- The words that were read of a phrase can be completed, but not with the word that follows, where
nothing behind the phrase goes on with it. -/
structure Stuck (phrase : Phrase) (read rest : List Word) : Prop where
  completable : Completable phrase read
  blocked : ∀ {words following : List Word} {tree : Expr}, Derives phrase words tree →
    phrase.EndsBefore following → ∀ word ∈ rest.head?, ¬ read ++ [word] <+: words ++ following

variable {level : Precedence} {read rest : List Word}

/-! ## Chains -/

/-- An operand ends before the operators of its level. -/
theorem Precedence.operand_endsBefore {op : BinaryOp} (binds : op.precedence = level)
    (words : List Word) : level.operand.EndsBefore (.operator op.symbol :: words) := by
  intro _ head other isOperator
  obtain rfl := Option.some.inj head
  rw [Word.binaryOp?_operator] at isOperator
  obtain rfl := Option.some.inj isOperator
  rw [binds]
  exact level.rank_lt_operand

/-- A chain goes on with the operators of its level. -/
theorem Precedence.not_endsBefore {op : BinaryOp} (binds : op.precedence = level)
    {words : List Word} : ¬ (Phrase.chain level).EndsBefore (.operator op.symbol :: words) :=
  fun ends => @Phrase.not_endsBefore level default op words binds ends

/-- An operand of a begun chain ends before what was joined to it and one more operator. -/
theorem Derives.operand_endsBefore {op : BinaryOp} {first left : Expr} {words : List Word}
    (after : Derives (.after level first) words left) (binds : op.precedence = level)
    (behind : List Word) : level.operand.EndsBefore (words ++ .operator op.symbol :: behind) := by
  cases after with
  | done => exact Precedence.operand_endsBefore binds behind
  | joined binds' _ _ => exact Precedence.operand_endsBefore binds' _

/-- A chain that goes on like a shorter one and with an operator of its level has an operand behind
that operator. -/
theorem Derives.split_after {op : BinaryOp} {first left expr : Expr}
    {begun words following behind : List Word}
    (begunDerives : Derives (.after level first) begun left)
    (derives : Derives (.after level first) words expr) (binds : op.precedence = level)
    (same : begun ++ .operator op.symbol :: behind = words ++ following)
    (ends : (Phrase.chain level).EndsBefore following) :
    ∃ operand others right, words = begun ++ .operator op.symbol :: (operand ++ others)
      ∧ Derives level.operand operand right
      ∧ Derives (.after level (.binary op left right Expr.nowhere)) others expr := by
  generalize phrase : Phrase.after level first = after at begunDerives
  induction begunDerives generalizing first words with
  | done =>
    obtain ⟨rfl, rfl⟩ := Phrase.after.inj phrase
    cases derives with
    | done =>
      obtain rfl : _ :: _ = following := same
      exact absurd ends (Precedence.not_endsBefore binds)
    | joined binds' operand others =>
      simp only [List.nil_append, List.cons_append, List.cons.injEq, Word.operator.injEq] at same
      obtain rfl := BinaryOp.symbol_injective same.1
      exact ⟨_, _, _, rfl, operand, others⟩
  | joined binds' operand others _ hypothesis =>
    obtain ⟨rfl, rfl⟩ := Phrase.after.inj phrase
    cases derives with
    | done =>
      obtain rfl : _ :: _ = following := same
      exact absurd ends (Precedence.not_endsBefore binds')
    | joined binds'' operand' others' =>
      simp only [List.cons_append, List.append_assoc, List.cons.injEq, Word.operator.injEq] at same
      obtain ⟨symbols, same⟩ := same
      obtain rfl := BinaryOp.symbol_injective symbols
      obtain ⟨rfl, rfl⟩ := operand.prefix_unique operand' same
        (others.operand_endsBefore binds behind) (others'.endsBefore ends)
      obtain ⟨next, rest, right, rfl, nextDerives, restDerives⟩ :=
        hypothesis others' (List.append_cancel_left same) rfl
      exact ⟨next, rest, right, by simp, nextDerives, restDerives⟩
  | _ => cases phrase

/-- A chain that goes on like a shorter one and with an operator of its level has an operand behind
that operator, which ends before what follows it. -/
theorem Derives.split {op : BinaryOp} {left expr : Expr} {begun words following behind : List Word}
    (begunDerives : Derives (.chain level) begun left) (derives : Derives (.chain level) words expr)
    (binds : op.precedence = level)
    (same : begun ++ .operator op.symbol :: behind = words ++ following)
    (ends : (Phrase.chain level).EndsBefore following) :
    ∃ operand others right, words = begun ++ .operator op.symbol :: (operand ++ others)
      ∧ Derives level.operand operand right ∧ level.operand.EndsBefore (others ++ following) := by
  cases begunDerives with
  | chain first joined =>
    cases derives with
    | chain first' joined' =>
      rw [List.append_assoc, List.append_assoc] at same
      obtain ⟨rfl, rfl⟩ := first.prefix_unique first' same (joined.operand_endsBefore binds behind)
        (joined'.endsBefore ends)
      obtain ⟨operand, others, right, rfl, operandDerives, othersDerive⟩ :=
        joined.split_after joined' binds (List.append_cancel_left same) ends
      exact ⟨operand, others, right, by simp, operandDerives, othersDerive.endsBefore ends⟩

namespace Stuck

/-- A chain is stuck where its first operand is. -/
theorem first (stuck : Stuck level.operand read rest) : Stuck (.chain level) read rest where
  completable := by
    obtain ⟨more, tree, nonempty, lexical, derives⟩ := stuck.completable
    exact ⟨more, tree, nonempty, lexical, derives.alone⟩
  blocked := by
    intro words following tree derives ends word isNext goesOn
    cases derives with
    | chain operand joined =>
      rw [List.append_assoc] at goesOn
      exact stuck.blocked operand (joined.endsBefore ends) word isNext goesOn

/-- A chain is stuck where an operand behind a shorter chain is. -/
theorem later {op : BinaryOp} {begun : List Word} {left : Expr}
    (begunDerives : Derives (.chain level) begun left) (binds : op.precedence = level)
    (stuck : Stuck level.operand read rest) :
    Stuck (.chain level) (begun ++ .operator op.symbol :: read) rest where
  completable := by
    obtain ⟨more, tree, nonempty, lexical, derives⟩ := stuck.completable
    subst binds
    refine ⟨more, .binary op left tree Expr.nowhere, nonempty, lexical, ?_⟩
    rw [List.append_assoc, List.cons_append]
    exact begunDerives.extend derives
  blocked := by
    intro words following tree derives ends word isNext goesOn
    obtain ⟨behind, same⟩ := goesOn
    simp only [List.append_assoc, List.cons_append] at same
    obtain ⟨operand, others, right, rfl, operandDerives, operandEnds⟩ :=
      begunDerives.split derives binds same ends
    refine stuck.blocked operandDerives operandEnds word isNext ⟨behind, ?_⟩
    simpa using same

/-! ## Signs -/

/-- A signed power is stuck where the power is. -/
theorem signed (op : UnaryOp) (stuck : Stuck (.chain .power) read rest) :
    Stuck .factor (.operator op.symbol :: read) rest where
  completable := by
    obtain ⟨more, tree, nonempty, lexical, derives⟩ := stuck.completable
    exact ⟨more, _, nonempty, lexical, .signed derives⟩
  blocked := by
    intro words following tree derives ends word isNext goesOn
    cases derives with
    | signed power =>
      obtain ⟨-, goesOn⟩ := List.cons_prefix_cons.1 goesOn
      exact stuck.blocked power ends word isNext goesOn
    | unsigned power =>
      obtain ⟨first, others, rfl, noOperator⟩ := power.power_head
      exact noOperator _ (List.cons_prefix_cons.1 goesOn).1.symm

/-- A power without a sign is stuck where the power is. -/
theorem unsigned (noSign : ∀ op : UnaryOp, (read ++ rest).head? ≠ some (.operator op.symbol))
    (stuck : Stuck (.chain .power) read rest) : Stuck .factor read rest where
  completable := by
    obtain ⟨more, tree, nonempty, lexical, derives⟩ := stuck.completable
    exact ⟨more, tree, nonempty, lexical, .unsigned derives⟩
  blocked := by
    intro words following tree derives ends word isNext goesOn
    cases derives with
    | @signed op others _ power =>
      -- The word that follows begins what was read, or is where the reader is stuck.
      obtain ⟨behind, rfl⟩ := List.head?_eq_some_iff.1 isNext
      cases read with
      | nil => exact noSign op (congrArg some (List.cons_prefix_cons.1 goesOn).1)
      | cons first others => exact noSign op (congrArg some (List.cons_prefix_cons.1 goesOn).1)
    | unsigned power => exact stuck.blocked power ends word isNext goesOn

/-! ## Operands -/

/-- Where an operand is needed, a reader is stuck at a word that begins none. -/
theorem noOperand (noneBegins : ∀ word ∈ rest.head?, ∀ words tree,
    ¬ Derives .primary (word :: words) tree) : Stuck .primary [] rest where
  completable := ⟨[.name "x"], _, by simp, by simp [Lexer.Lexical]; decide, .name⟩
  blocked := by
    intro words following tree derives ends word isNext goesOn
    obtain ⟨first, others, rfl, -⟩ := derives.primary_head
    obtain ⟨rfl, -⟩ := List.cons_prefix_cons.1 goesOn
    exact noneBegins _ isNext _ _ derives

end Stuck

/-! ## Forms that nest -/

namespace Lexer

/-- A name can stand in a text. -/
theorem lexical_name_x : Lexical (.name "x") :=
  ⟨by decide, by decide⟩

/-- A differential can stand in a text. -/
theorem lexical_differential_x : Lexical (.differential "x") :=
  ⟨'x', by decide, rfl⟩

end Lexer

/-- Behind the parentheses of a form, there are words that make an operand of it. -/
theorem Form.closes {front back inner : List Word} {expr : Expr} (form : Form front back)
    (derives : Derives .expression inner expr) :
    ∃ behind tree, (∀ word ∈ behind, Lexer.Lexical word)
      ∧ Derives .primary (front ++ .opening :: (inner ++ .closing :: behind)) tree := by
  cases form with
  | paren => exact ⟨[], _, by simp, .paren derives⟩
  | call name => exact ⟨[], _, by simp, .call derives⟩
  | derivative letter => exact ⟨[], _, by simp, .derivative derives⟩
  | integral _ =>
    exact ⟨[.differential "x"], _, by simpa using Lexer.lexical_differential_x, .integral derives⟩

/-- An operand that goes on like the front of a form has an expression between parentheses behind
it. -/
theorem Form.opens {front back words following : List Word} {next : Word} {tree : Expr}
    (form : Form front back) (derives : Derives .primary words tree)
    (begins : front ++ [next] <+: words ++ following) (isOpening : front = [] → next = .opening) :
    ∃ inner expr behind, Form front behind ∧ Derives .expression inner expr
      ∧ words = front ++ .opening :: (inner ++ .closing :: behind) := by
  cases form with
  | paren =>
    obtain rfl := isOpening rfl
    cases derives with
    | paren inner => exact ⟨_, _, _, .paren, inner, rfl⟩
    | _ => simp at begins
  | call name =>
    cases derives with
    | call inner =>
      obtain ⟨same, -⟩ := List.cons_prefix_cons.1 begins
      exact ⟨_, _, _, .call name, inner, by rw [same]; rfl⟩
    | _ => simp at begins
  | derivative letter =>
    cases derives with
    | derivative inner =>
      obtain ⟨same, -⟩ := List.cons_prefix_cons.1 begins
      exact ⟨_, _, _, .derivative letter, inner, by rw [same]; rfl⟩
    | _ => simp at begins
  | integral letter =>
    cases derives with
    | integral inner => exact ⟨_, _, _, .integral _, inner, rfl⟩
    | _ => simp at begins

namespace Stuck

variable {front back : List Word}

/-- A form is stuck where its parenthesis does not open. -/
theorem unopened (form : Form front back) (begun : front ≠ [])
    (noOpening : ∀ word ∈ rest.head?, word ≠ .opening) : Stuck .primary front rest where
  completable := by
    have name : Derives .expression [.name "x"] (.symbol "x" Expr.nowhere) :=
      @Derives.loosen 4 0 _ _ .name (by decide)
    obtain ⟨behind, tree, lexical, derives⟩ := form.closes name
    refine ⟨_, tree, List.cons_ne_nil _ _, ?_, derives⟩
    simp only [List.forall_mem_cons, List.forall_mem_append]
    exact ⟨trivial, ⟨Lexer.lexical_name_x, List.forall_mem_nil _⟩, trivial, lexical⟩
  blocked := by
    intro words following tree derives ends word isNext goesOn
    obtain ⟨inner, expr, behind, -, -, rfl⟩ := form.opens derives goesOn (absurd · begun)
    rw [List.append_assoc, List.prefix_append_right_inj] at goesOn
    exact noOpening word isNext (List.cons_prefix_cons.1 goesOn).1

/-- What goes on like a form that was opened goes on with what stands between its parentheses. -/
theorem of_opened {inside words following : List Word} {tree : Expr} (form : Form front back)
    (derives : Derives .primary words tree)
    (goesOn : front ++ Word.opening :: inside <+: words ++ following) :
    ∃ inner expr behind, Form front behind ∧ Derives .expression inner expr
      ∧ inside <+: inner ++ Word.closing :: (behind ++ following) := by
  have begins : front ++ [Word.opening] <+: words ++ following :=
    (List.prefix_append_right_inj _).2 (List.cons_prefix_cons.2 ⟨rfl, List.nil_prefix⟩)
      |>.trans goesOn
  obtain ⟨inner, expr, behind, isForm, innerDerives, rfl⟩ :=
    form.opens derives begins fun _ => rfl
  refine ⟨inner, expr, behind, isForm, innerDerives, ?_⟩
  rw [List.append_assoc, List.prefix_append_right_inj] at goesOn
  simpa using (List.cons_prefix_cons.1 goesOn).2

/-- A form is stuck where what stands between its parentheses is. -/
theorem inside (form : Form front back) (stuck : Stuck .expression read rest) :
    Stuck .primary (front ++ Word.opening :: read) rest where
  completable := by
    obtain ⟨more, tree, nonempty, lexical, derives⟩ := stuck.completable
    obtain ⟨behind, whole, behindLexical, wholeDerives⟩ := form.closes derives
    refine ⟨more ++ Word.closing :: behind, whole, by simp, ?_, ?_⟩
    · simp only [List.forall_mem_append, List.forall_mem_cons]
      exact ⟨lexical, trivial, behindLexical⟩
    · simpa using wholeDerives
  blocked := by
    intro words following tree derives ends word isNext goesOn
    rw [List.append_assoc, List.cons_append] at goesOn
    obtain ⟨inner, expr, behind, -, innerDerives, goesOn⟩ := of_opened form derives goesOn
    exact stuck.blocked innerDerives (Phrase.endsBefore_cons rfl _) word isNext goesOn

/-- What goes on like an expression that ends is this expression and what stands behind it. -/
theorem of_ended {inner following more : List Word} {word : Word} {expr tree : Expr}
    (derives : Derives .expression read tree) (ends : Phrase.expression.EndsBefore (word :: rest))
    (innerDerives : Derives .expression inner expr)
    (innerEnds : Phrase.expression.EndsBefore following)
    (goesOn : read ++ word :: more <+: inner ++ following) :
    read = inner ∧ word :: more <+: following := by
  obtain ⟨behind, same⟩ := goesOn
  rw [List.append_assoc, List.cons_append] at same
  have readEnds : Phrase.expression.EndsBefore (word :: (more ++ behind)) := ends
  obtain ⟨rfl, -⟩ := derives.prefix_unique innerDerives same readEnds innerEnds
  exact ⟨rfl, behind, List.append_cancel_left same⟩

/-- A form is stuck where its parenthesis does not close. -/
theorem unclosed {inner : Expr} (form : Form front back) (derives : Derives .expression read inner)
    (ends : Phrase.expression.EndsBefore rest) (noClosing : ∀ word ∈ rest.head?, word ≠ .closing) :
    Stuck .primary (front ++ Word.opening :: read) rest where
  completable := by
    obtain ⟨behind, tree, lexical, wholeDerives⟩ := form.closes derives
    refine ⟨.closing :: behind, tree, by simp, ?_, by simpa using wholeDerives⟩
    exact List.forall_mem_cons.2 ⟨trivial, lexical⟩
  blocked := by
    intro words following tree wholeDerives _ word isNext goesOn
    obtain ⟨others, rfl⟩ := List.head?_eq_some_iff.1 isNext
    rw [List.append_assoc, List.cons_append] at goesOn
    obtain ⟨inside, expr, behind, -, insideDerives, goesOn⟩ := of_opened form wholeDerives goesOn
    obtain ⟨-, closes⟩ :=
      of_ended derives ends insideDerives (Phrase.endsBefore_cons rfl _) goesOn
    exact noClosing word isNext (List.cons_prefix_cons.1 closes).1

/-- An integral is stuck where its differential is missing. -/
theorem undifferentiated {body : Expr} (derives : Derives .expression read body)
    (noDifferential : ∀ word ∈ rest.head?, ∀ letter, word ≠ .differential letter) :
    Stuck .primary (.integralSign :: .opening :: (read ++ [Word.closing])) rest where
  completable := by
    have integral := @Derives.integral "x" _ _ derives
    exact ⟨[.differential "x"], _, by simp, by simpa using Lexer.lexical_differential_x,
      by simpa using integral⟩
  blocked := by
    intro words following tree wholeDerives _ word isNext goesOn
    have opened : [Word.integralSign] ++ Word.opening :: (read ++ [Word.closing, word])
        <+: words ++ following := by simpa using goesOn
    obtain ⟨inside, expr, behind, form, insideDerives, goesOn⟩ :=
      of_opened (.integral "x") wholeDerives opened
    have ends : Phrase.expression.EndsBefore [.closing] := Phrase.endsBefore_cons rfl _
    obtain ⟨-, closes⟩ :=
      of_ended derives ends insideDerives (Phrase.endsBefore_cons rfl _) goesOn
    cases form with
    | integral letter =>
      simp only [List.cons_append, List.nil_append, List.cons_prefix_cons, true_and] at closes
      exact noDifferential word isNext letter closes.1

end Stuck

/-! ## Whole texts -/

/-- The words begin an expression. -/
def Viable (words : List Word) : Prop :=
  ∃ more tree, Derives .expression (words ++ more) tree

/-- The words can be completed to an expression, but not with the word that follows. -/
structure FirstImpossible (read rest : List Word) : Prop where
  completable : Completable .expression read
  impossible : ∀ word ∈ rest.head?, ¬ Viable (read ++ [word])

/-- Where an expression is stuck, the first impossible word follows. -/
theorem Stuck.firstImpossible (stuck : Stuck .expression read rest) :
    FirstImpossible read rest where
  completable := stuck.completable
  impossible := by
    rintro word isNext ⟨more, tree, derives⟩
    refine stuck.blocked derives (Phrase.endsBefore_nil _) word isNext ?_
    rw [List.append_nil]
    exact List.prefix_append _ _

/-- Behind a whole expression, the first impossible word follows. -/
theorem Derives.firstImpossible {expr : Expr} (derives : Derives .expression read expr)
    (ends : Phrase.expression.EndsBefore rest) : FirstImpossible read rest where
  completable := by
    have name : Derives (.chain .factor) [.name "x"] (.symbol "x" Expr.nowhere) :=
      @Derives.loosen 4 1 _ _ .name (by decide)
    refine ⟨[.operator BinaryOp.plus.symbol, .name "x"], _, by simp, ?_,
      @Derives.extend .plus _ _ _ _ derives name⟩
    simpa [Lexer.Lexical] using Lexer.lexical_name_x
  impossible := by
    rintro word isNext ⟨more, tree, longer⟩
    obtain ⟨others, rfl⟩ := List.head?_eq_some_iff.1 isNext
    have same : read ++ (word :: more) = read ++ [word] ++ more ++ [] := by simp
    have nextEnds : Phrase.expression.EndsBefore (word :: more) := ends
    have words_eq := (derives.prefix_unique longer same nextEnds (Phrase.endsBefore_nil _)).1
    simp at words_eq

end Workings
