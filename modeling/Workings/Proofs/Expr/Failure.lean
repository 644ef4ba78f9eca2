import Workings.Proofs.Expr.Readable

/-!
# How the readers fail

A reader fails because a token stands where another is needed, because nothing more may nest,
because a chain grows too tall, or because the reader of a part fails. What was read before is part
of such a failure, so that laws about failures are proved along its parts and do not look into the
readers again.
-/

namespace Workings

/-- What stands in front of the parentheses of a form that nests, and behind them. -/
inductive Form : List Word → List Word → Prop where
  | paren : Form [] []
  | call (name : String) : Form [.function name] []
  | derivative (letter : String) : Form [.derivative letter] []
  | integral (letter : String) : Form [.integralSign] [.differential letter]

namespace Reader

/-! ## The readers of chains -/

/-- The reader of what the operators of a level join, where so many levels may nest. -/
def operandAt (region : Region) (levels : Nat) : Precedence → Reader Expr
  | .term => term region (deeper region levels)
  | .factor => factor region (deeper region levels)
  | .power => primary region (deeper region levels)

/-- The reader of the chains of a level, where so many levels may nest. -/
def chainAt (region : Region) (levels : Nat) (level : Precedence) : Reader Expr :=
  chain level (operandAt region levels level)

/-- What the operators of a level join is read soundly. -/
theorem sound_operandAt (region : Region) (levels : Nat) (level : Precedence) :
    Sound levels level.operand (operandAt region levels level) := by
  have sounder := sounder_deeper region levels
  intro tokens rest expr reads
  cases level with
  | term => exact Sound.chain sounder.factor reads
  | factor => exact sounder.factor reads
  | power => exact sounder.primary reads

/-- A chain that was read up to some place: its first operand, and what was joined to it since. -/
inductive Begun (region : Region) (levels : Nat) (level : Precedence) (tokens : List Token) :
    Expr → List Token → Prop where
  | first {left : Expr} {rest : List Token}
      (reads : operandAt region levels level tokens = .ok (left, rest)) :
      Begun region levels level tokens left rest
  | joined {left right : Expr} {op : BinaryOp} {span : Span} {rest following behind : List Token}
      (begun : Begun region levels level tokens left rest)
      (found : operator? level rest = some (op, span, following))
      (reads : operandAt region levels level following = .ok (right, behind)) :
      Begun region levels level tokens
        (.binary op left right ⟨left.span.start, right.span.stop⟩) behind

/-- A begun chain is a chain of the grammar. -/
theorem Begun.derives {region : Region} {levels : Nat} {level : Precedence}
    {tokens rest : List Token} {left : Expr}
    (begun : Begun region levels level tokens left rest) :
    ∃ read, tokens = read ++ rest ∧ Derives (.chain level) (read.map Token.word) left.bare := by
  induction begun with
  | first reads =>
    obtain ⟨read, same, derives, -⟩ := sound_operandAt region levels level reads
    exact ⟨read, same, derives.alone⟩
  | joined _ found reads hypothesis =>
    obtain ⟨read, rfl, derives⟩ := hypothesis
    obtain ⟨token, rfl, word, rfl, -⟩ := of_operator? found
    obtain ⟨operand, rfl, rightDerives, -⟩ := sound_operandAt region levels _ reads
    refine ⟨read ++ token :: operand, by simp, ?_⟩
    rw [List.map_append, List.map_cons, word]
    exact derives.extend rightDerives

/-! ## Failures -/

/-- A fault at the place where a token is not the one that is needed, or where the text ends. -/
inductive Misplaced (region : Region) : List Token → Fault → Prop where
  | ended (expected : Expectation) :
      Misplaced region [] (.within (here region []) (.endsEarly expected))
  | unexpected (expected : Expectation) (token : Token) (rest : List Token) :
      Misplaced region (token :: rest)
        (.within token.span (.unexpected expected token.kind token.lexeme))
  | missingDifferential (rest : List Token) :
      Misplaced region rest (.within (here region rest) .missingDifferential)
  | trailing (token : Token) (rest : List Token) :
      Misplaced region (token :: rest) (.within token.span .trailing)

/-- How a phrase is not read, where so many levels may nest. -/
inductive Fails (region : Region) : (levels : Nat) → Phrase → List Token → Fault → Prop where
  | first {levels : Nat} {level : Precedence} {tokens : List Token} {fault : Fault}
      (fails : Fails region levels level.operand tokens fault) :
      Fails region levels (.chain level) tokens fault
  | later {levels : Nat} {level : Precedence} {tokens rest following : List Token} {left : Expr}
      {op : BinaryOp} {span : Span} {fault : Fault}
      (begun : Begun region levels level tokens left rest)
      (found : operator? level rest = some (op, span, following))
      (fails : Fails region levels level.operand following fault) :
      Fails region levels (.chain level) tokens fault
  | tall {levels : Nat} {level : Precedence} {tokens rest following behind : List Token}
      {left right : Expr} {op : BinaryOp} {span : Span}
      (begun : Begun region levels level tokens left rest)
      (found : operator? level rest = some (op, span, following))
      (reads : operandAt region levels level following = .ok (right, behind))
      (tooTall : maxHeight < 1 + max left.height right.height) :
      Fails region levels (.chain level) tokens (.within span .tooTall)
  | signed {levels : Nat} {tokens following : List Token} {op : UnaryOp} {span : Span}
      {fault : Fault} (found : sign? tokens = some (op, span, following))
      (fails : Fails region levels (.chain .power) following fault) :
      Fails region (levels + 1) .factor tokens fault
  | unsigned {levels : Nat} {tokens : List Token} {fault : Fault} (noSign : sign? tokens = none)
      (fails : Fails region levels (.chain .power) tokens fault) :
      Fails region levels .factor tokens fault
  | refused {phrase : Phrase} {tokens : List Token} (place : List Token) :
      Fails region 0 phrase tokens (.within (here region place) (.tooDeep region.ceiling))
  | noOperand {levels : Nat} {tokens : List Token} {fault : Fault}
      (noneBegins : ∀ token ∈ tokens.head?, ∀ words expr,
        ¬ Derives .primary (token.word :: words) expr)
      (misplaced : Misplaced region tokens fault) : Fails region levels .primary tokens fault
  | unopened {levels : Nat} {front : Token} {rest : List Token} {back : List Word} {fault : Fault}
      (form : Form [front.word] back) (noOpening : ∀ token ∈ rest.head?, token.word ≠ .opening)
      (misplaced : Misplaced region rest fault) :
      Fails region (levels + 1) .primary (front :: rest) fault
  | inside {levels : Nat} {front rest : List Token} {opening : Token} {back : List Word}
      {fault : Fault} (form : Form (front.map Token.word) back)
      (isOpening : opening.word = .opening)
      (fails : Fails region levels .expression rest fault) :
      Fails region (levels + 1) .primary (front ++ opening :: rest) fault
  | unclosed {levels : Nat} {front rest behind : List Token} {opening : Token} {back : List Word}
      {inner : Expr} {fault : Fault} (form : Form (front.map Token.word) back)
      (isOpening : opening.word = .opening)
      (reads : chainAt region levels .term rest = .ok (inner, behind))
      (noClosing : ∀ token ∈ behind.head?, token.word ≠ .closing)
      (misplaced : Misplaced region behind fault) :
      Fails region (levels + 1) .primary (front ++ opening :: rest) fault
  | undifferentiated {levels : Nat} {rest behind : List Token} {sign opening closing : Token}
      {body : Expr} {fault : Fault} (isSign : sign.word = .integralSign)
      (isOpening : opening.word = .opening)
      (reads : chainAt region levels .term rest = .ok (body, closing :: behind))
      (isClosing : closing.word = .closing)
      (noDifferential : ∀ token ∈ behind.head?, ∀ letter, token.word ≠ .differential letter)
      (misplaced : Misplaced region behind fault) :
      Fails region (levels + 1) .primary (sign :: opening :: rest) fault

variable {region : Region} {levels : Nat} {tokens rest : List Token} {fault : Fault}

/-- A computation that goes on with the result of another one fails if either of them does. -/
theorem of_bind_eq_error {Failure First Second : Type} {first : Except Failure First}
    {next : First → Except Failure Second} {failure : Failure}
    (fails : first >>= next = .error failure) :
    first = .error failure ∨ ∃ between, first = .ok between ∧ next between = .error failure := by
  cases first with
  | error other =>
    obtain rfl : other = failure := Except.error.inj fails
    exact .inl rfl
  | ok between => exact .inr ⟨between, rfl, fails⟩

/-- A reader that takes a token of the expected kind fails behind it. -/
theorem of_expect_bind_eq_error {Result : Type} {kind : TokenKind} {expected : Expectation}
    {token : Token} {next : Token × List Token → Except Fault Result}
    (isKind : token.kind = kind)
    (fails : expect region kind expected (token :: rest) >>= next = .error fault) :
    next (token, rest) = .error fault := by
  rwa [expect_eq_ok isKind] at fails

/-- A token that is not of a kind is no word of that kind. -/
theorem word_ne_of_kind_ne {token : Token} {word : Word} (different : token.kind ≠ word.kind) :
    token.word ≠ word :=
  fun same => different (Token.kind_eq same)

/-- A token that is not expected stands first, or none. -/
theorem misplaced_of_expect (word : Word) {expected : Expectation}
    (fails : expect region word.kind expected tokens = .error fault) :
    (∀ token ∈ tokens.head?, token.word ≠ word) ∧ Misplaced region tokens fault := by
  cases tokens with
  | nil =>
    obtain rfl := Except.error.inj fails
    exact ⟨by simp, .ended expected⟩
  | cons token rest =>
    simp only [expect] at fails
    split at fails
    · contradiction
    · rename_i different
      obtain rfl := Except.error.inj fails
      exact ⟨by simpa using word_ne_of_kind_ne different, .unexpected expected token rest⟩

/-! ## Forms that nest -/

/-- How parentheses are not read in which so many levels may nest. -/
inductive ParenthesizedFails (region : Region) (levels : Nat) (tokens : List Token)
    (fault : Fault) : Prop where
  | unopened (noOpening : ∀ token ∈ tokens.head?, token.word ≠ .opening)
      (misplaced : Misplaced region tokens fault)
  | inside {opening : Token} {rest : List Token} (same : tokens = opening :: rest)
      (isOpening : opening.word = .opening)
      (fails : chainAt region levels .term rest = .error fault)
  | unclosed {opening : Token} {rest behind : List Token} {inner : Expr}
      (same : tokens = opening :: rest) (isOpening : opening.word = .opening)
      (reads : chainAt region levels .term rest = .ok (inner, behind))
      (noClosing : ∀ token ∈ behind.head?, token.word ≠ .closing)
      (misplaced : Misplaced region behind fault)

/-- Parentheses are not read. -/
theorem parenthesizedFails
    (fails : parenthesized region (chainAt region levels .term) tokens = .error fault) :
    ParenthesizedFails region levels tokens fault := by
  rcases of_bind_eq_error fails with noOpening | ⟨⟨opening, rest⟩, readsOpening, goesOn⟩
  · obtain ⟨noOpening, misplaced⟩ := misplaced_of_expect .opening noOpening
    exact .unopened noOpening misplaced
  · obtain ⟨rfl, kind⟩ := of_expect readsOpening
    have isOpening : opening.word = .opening := by simp [Token.word, kind]
    rcases of_bind_eq_error goesOn with insideFails | ⟨⟨inner, behind⟩, reads, goesOn⟩
    · exact .inside rfl isOpening insideFails
    · rcases of_bind_eq_error goesOn with noClosing | ⟨closing, -, answers⟩
      · obtain ⟨noClosing, misplaced⟩ := misplaced_of_expect .closing noClosing
        exact .unclosed rfl isOpening reads noClosing misplaced
      · contradiction

/-- Parentheses are read. -/
theorem of_parenthesized {nested : Reader Expr} {inner : Expr} {span : Span}
    (reads : parenthesized region nested tokens = .ok ((inner, span), rest)) :
    ∃ opening following closing, tokens = opening :: following ∧ opening.word = .opening
      ∧ nested following = .ok (inner, closing :: rest) ∧ closing.word = .closing := by
  obtain ⟨⟨opening, following⟩, readsOpening, goesOn⟩ := of_bind_eq_ok reads
  obtain ⟨rfl, isOpening⟩ := of_expect readsOpening
  obtain ⟨⟨expr, behind⟩, readsInner, readsEnd⟩ := of_bind_eq_ok goesOn
  obtain ⟨⟨closing, behindClosing⟩, readsClosing, answers⟩ := of_bind_eq_ok readsEnd
  obtain ⟨rfl, isClosing⟩ := of_expect readsClosing
  simp only [pure, Except.pure, Except.ok.injEq, Prod.mk.injEq] at answers
  obtain ⟨⟨rfl, -⟩, rfl⟩ := answers
  exact ⟨opening, following, closing, rfl, by simp [Token.word, isOpening], readsInner,
    by simp [Token.word, isClosing]⟩

/-- Chains are not read in which so many levels may nest. -/
def ChainsFail (region : Region) (levels : Nat) : Prop :=
  ∀ {level tokens fault}, chainAt region levels level tokens = .error fault →
    Fails region levels (.chain level) tokens fault

/-- A form that begins with a word is not read if its parentheses are not. -/
theorem ParenthesizedFails.behind (known : ChainsFail region levels) {front : Token}
    {back : List Word} (form : Form [front.word] back)
    (fails : ParenthesizedFails region levels rest fault) :
    Fails region (levels + 1) .primary (front :: rest) fault := by
  cases fails with
  | unopened noOpening misplaced => exact .unopened form noOpening misplaced
  | inside same isOpening fails =>
    subst same
    exact @Fails.inside _ _ [front] _ _ _ _ form isOpening (known fails)
  | unclosed same isOpening reads noClosing misplaced =>
    subst same
    exact @Fails.unclosed _ _ [front] _ _ _ _ _ _ form isOpening reads noClosing misplaced

/-- A call is not read. -/
theorem callFails (known : ChainsFail region levels) {function : Token}
    (isFunction : function.kind = .function)
    (fails : call region (chainAt region levels .term) (function :: rest) = .error fault) :
    Fails region (levels + 1) .primary (function :: rest) fault := by
  have word : function.word = .function function.lexeme := by simp [Token.word, isFunction]
  rcases of_bind_eq_error (of_expect_bind_eq_error isFunction fails) with
    parensFail | ⟨_, -, answers⟩
  · exact (parenthesizedFails parensFail).behind known (word ▸ Form.call _)
  · contradiction

/-- A derivative is not read. -/
theorem derivativeFails (known : ChainsFail region levels) {operator : Token}
    (isDerivative : operator.kind = .derivative)
    (fails : derivative region (chainAt region levels .term) (operator :: rest) = .error fault) :
    Fails region (levels + 1) .primary (operator :: rest) fault := by
  have word : operator.word = .derivative (derivativeLetter operator) := by
    simp [Token.word, isDerivative]
  rcases of_bind_eq_error (of_expect_bind_eq_error isDerivative fails) with
    parensFail | ⟨_, -, answers⟩
  · exact (parenthesizedFails parensFail).behind known (word ▸ Form.derivative _)
  · contradiction

/-- Parentheses are not read as an operand. -/
theorem parenFails (known : ChainsFail region levels) {opening : Token}
    (isOpening : opening.kind = .opening)
    (fails : paren region (chainAt region levels .term) (opening :: rest) = .error fault) :
    Fails region (levels + 1) .primary (opening :: rest) fault := by
  have word : opening.word = .opening := by simp [Token.word, isOpening]
  rcases of_bind_eq_error fails with parensFail | ⟨_, -, answers⟩
  · cases parenthesizedFails parensFail with
    | unopened noOpening _ => exact absurd word (noOpening opening rfl)
    | inside same opens fails =>
      obtain ⟨rfl, rfl⟩ := List.cons.inj same
      exact @Fails.inside _ _ [] _ _ _ _ .paren opens (known fails)
    | unclosed same opens reads noClosing misplaced =>
      obtain ⟨rfl, rfl⟩ := List.cons.inj same
      exact @Fails.unclosed _ _ [] _ _ _ _ _ _ .paren opens reads noClosing misplaced
  · contradiction

/-- An integral is not read. -/
theorem integralFails (known : ChainsFail region levels) {sign : Token}
    (isSign : sign.kind = .integralSign)
    (fails : integral region (chainAt region levels .term) (sign :: rest) = .error fault) :
    Fails region (levels + 1) .primary (sign :: rest) fault := by
  have word : sign.word = .integralSign := by simp [Token.word, isSign]
  rcases of_bind_eq_error (of_expect_bind_eq_error isSign fails) with
    bodyFails | ⟨⟨body, behind⟩, readsBody, goesOn⟩
  · rcases of_bind_eq_error bodyFails with parensFail | ⟨_, -, answers⟩
    · exact (parenthesizedFails parensFail).behind known (word ▸ Form.integral "")
    · contradiction
  · obtain ⟨⟨⟨inner, parens⟩, behindParens⟩, readsParens, answersBody⟩ := of_bind_eq_ok readsBody
    obtain ⟨opening, following, closing, rfl, isOpening, reads, isClosing⟩ :=
      of_parenthesized readsParens
    simp only [pure, Except.pure, Except.ok.injEq, Prod.mk.injEq] at answersBody
    obtain ⟨-, rfl⟩ := answersBody
    dsimp only at goesOn
    split at goesOn
    · rename_i next behindNext
      split at goesOn
      · contradiction
      · rename_i noDifferential
        obtain rfl := Except.error.inj goesOn
        refine .undifferentiated word isOpening reads isClosing ?_ (.missingDifferential _)
        rintro _ ⟨⟩ letter same
        exact noDifferential (Token.kind_eq same)
    · obtain rfl := Except.error.inj goesOn
      exact .undifferentiated word isOpening reads isClosing (by simp) (.missingDifferential _)

/-- A form that nests is refused where no level is left, and is not read for its own reasons where
one is. -/
theorem nestFails {reader : Reader Expr → Reader Expr}
    (fails : nest region (deeper region levels) reader tokens = .error fault)
    (below : ∀ below, levels = below + 1 →
      reader (chainAt region below .term) tokens = .error fault →
        Fails region (below + 1) .primary tokens fault) :
    Fails region levels .primary tokens fault := by
  cases levels with
  | zero =>
    obtain rfl := Except.error.inj fails
    exact .refused tokens
  | succ levels => exact below levels rfl fails

/-! ## Operands and chains -/

/-- No operand begins with a token. -/
theorem noOperand_of_word {token : Token} {expected : Expectation}
    (noneBegins : ∀ words expr, ¬ Derives .primary (token.word :: words) expr) :
    Fails region levels .primary (token :: rest)
      (.within token.span (.unexpected expected token.kind token.lexeme)) :=
  .noOperand (by simpa using noneBegins) (.unexpected expected token rest)

/-- What stands between operators is not read. -/
theorem primaryFails (known : ∀ below, levels = below + 1 → ChainsFail region below)
    (fails : primary region (deeper region levels) tokens = .error fault) :
    Fails region levels .primary tokens fault := by
  cases tokens with
  | nil =>
    obtain rfl := Except.error.inj fails
    exact .noOperand (by simp) (.ended .operand)
  | cons token rest =>
    simp only [primary] at fails
    split at fails
    · rename_i kind
      split at fails
      · contradiction
      · rename_i unread
        obtain rfl := Except.error.inj fails
        refine noOperand_of_word fun words expr derives => ?_
        have word : token.word = .number token.lexeme := by simp [Token.word, kind]
        rw [word] at derives
        cases derives with
        | number reads => simp [unread] at reads
    · contradiction
    · contradiction
    · rename_i kind
      exact nestFails fails fun below isBelow => callFails (known below isBelow) kind
    · rename_i kind
      exact nestFails fails fun below isBelow => parenFails (known below isBelow) kind
    · rename_i kind
      exact nestFails fails fun below isBelow => derivativeFails (known below isBelow) kind
    · rename_i kind
      exact nestFails fails fun below isBelow => integralFails (known below isBelow) kind
    all_goals
      rename_i kind
      obtain rfl := Except.error.inj fails
      refine noOperand_of_word fun words expr derives => ?_
      simp only [Token.word, kind] at derives
      cases derives

/-- Going on with a begun chain fails in a later operand, or because the chain grows too tall. -/
theorem chainAfterFails {level : Precedence}
    (known : ∀ {tokens fault}, operandAt region levels level tokens = .error fault →
      Fails region levels level.operand tokens fault) {budget : Nat} {left : Expr}
    (begun : Begun region levels level tokens left rest)
    (fails : chainAfter level (operandAt region levels level) budget left left.height rest
      = .error fault) :
    Fails region levels (.chain level) tokens fault := by
  induction budget generalizing left rest with
  | zero => contradiction
  | succ budget hypothesis =>
    unfold chainAfter at fails
    split at fails
    · contradiction
    · rename_i op span following found
      rcases of_bind_eq_error fails with operandFails | ⟨⟨right, behind⟩, reads, goesOn⟩
      · exact .later begun found (known operandFails)
      · dsimp only at goesOn
        split at goesOn
        · rename_i tooTall
          obtain rfl := Except.error.inj goesOn
          exact .tall begun found reads tooTall
        · refine hypothesis (begun.joined found reads) ?_
          rwa [Expr.height, Nat.add_comm]

/-- A chain is not read. -/
theorem chainFails {level : Precedence}
    (known : ∀ {tokens fault}, operandAt region levels level tokens = .error fault →
      Fails region levels level.operand tokens fault)
    (fails : chainAt region levels level tokens = .error fault) :
    Fails region levels (.chain level) tokens fault := by
  rcases of_bind_eq_error fails with firstFails | ⟨⟨first, rest⟩, reads, goesOn⟩
  · exact .first (known firstFails)
  · exact chainAfterFails known (.first reads) goesOn

/-- A power is not read, with a sign in front of it or without. -/
theorem factorFails (known : ∀ below, levels = below + 1 → ChainsFail region below)
    (fails : factor region (deeper region levels) tokens = .error fault) :
    Fails region levels .factor tokens fault := by
  simp only [factor] at fails
  split at fails
  · rename_i noSign
    have powerFails : Fails region levels (.chain .power) tokens fault :=
      chainFails (fun operandFails => primaryFails known operandFails) fails
    exact .unsigned noSign powerFails
  · rename_i op span following found
    cases levels with
    | zero =>
      obtain rfl := Except.error.inj fails
      exact .refused following
    | succ below =>
      rcases of_bind_eq_error fails with powerFails | ⟨_, -, answers⟩
      · exact .signed found (known below rfl powerFails)
      · contradiction

/-- What the operators of a level join is not read. -/
theorem operandFails (known : ∀ below, levels = below + 1 → ChainsFail region below)
    {level : Precedence} (fails : operandAt region levels level tokens = .error fault) :
    Fails region levels level.operand tokens fault := by
  cases level with
  | term =>
    have productFails : Fails region levels (.chain .factor) tokens fault :=
      chainFails (fun operandFails => factorFails known operandFails) fails
    exact productFails
  | factor => exact factorFails known fails
  | power => exact primaryFails known fails

/-- How chains are not read in which so many levels may nest. -/
theorem chainsFail (region : Region) (levels : Nat) : ChainsFail region levels := by
  induction levels with
  | zero =>
    exact chainFails (operandFails fun below isBelow => absurd isBelow (Nat.succ_ne_zero below).symm)
  | succ levels hypothesis =>
    refine chainFails (operandFails fun below isBelow => ?_)
    obtain rfl := Nat.succ.inj isBelow
    exact hypothesis

end Reader

end Workings
