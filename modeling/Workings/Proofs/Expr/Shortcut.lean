import Workings.Proofs.Expr.Balance
import Workings.Proofs.Expr.RoundTrip

/-!
# Texts that are read as text first

A text in the form of one derivative or one integral is split as text, and not by the grammar,
though the grammar may accept it as well. Where it accepts a derivative, both agree. An integral is
told by its sign at the beginning and its differential at the end, which a chain of operators can
have, too: a sum of integrals is refused.
-/

namespace Workings

/-! ## What stands first in an expression -/

/-- A chain that begins with an operand: the operand alone, or operators behind it. -/
inductive Chained (first : Expr) : List Word → Expr → Prop where
  | alone : Chained first [] first
  | joined {symbol : String} {following : List Word} {op : BinaryOp} {left right : Expr} :
      Chained first (.operator symbol :: following) (.binary op left right Expr.nowhere)

/-- A chain may go on with operators of another level. -/
theorem Chained.trans {first middle last : Expr} {words following : List Word}
    (chained : Chained first words middle) (next : Chained middle following last) :
    Chained first (words ++ following) last := by
  cases chained with
  | alone => exact next
  | joined =>
    cases next with
    | alone =>
      rw [List.append_nil]
      exact .joined
    | joined => exact .joined

/-- What follows the operand that a chain was begun with makes a chain of it. -/
theorem Derives.chained {level : Precedence} {left expr : Expr} {words : List Word}
    (derives : Derives (.after level left) words expr) : Chained left words expr := by
  generalize phrase : Phrase.after level left = begun at derives
  induction derives generalizing left with
  | done =>
    obtain ⟨rfl, rfl⟩ := Phrase.after.inj phrase
    exact .alone
  | joined _ _ _ _ hypothesis =>
    obtain ⟨rfl, rfl⟩ := Phrase.after.inj phrase
    cases hypothesis rfl with
    | alone => exact .joined
    | joined => exact .joined
  | _ => cases phrase

/-- An expression that begins with no sign is a chain that begins with what stands between
operators, and what stands there keeps to the bounds of the whole. -/
theorem Derives.begins {word : Word} {words : List Word} {expr : Expr}
    (derives : Derives .expression (word :: words) expr)
    (noSign : ∀ symbol, word ≠ .operator symbol) :
    ∃ front rest first, word :: words = front ++ rest ∧ Derives .primary front first
      ∧ Chained first rest expr ∧ ∀ ceiling, expr.Within ceiling → first.Within ceiling := by
  generalize same : word :: words = all at derives
  cases derives with
  | chain products sums =>
    cases products with
    | chain factor products =>
      cases factor with
      | signed _ => exact absurd (List.cons.inj same).1 (noSign _)
      | unsigned power =>
        cases power with
        | chain primary powers =>
          refine ⟨_, _, _, by simp only [List.append_assoc], primary,
            (powers.chained.trans products.chained).trans sums.chained, ?_⟩
          intro ceiling within
          exact .of_after powers (.of_after products (.of_after sums within))

/-- What stands between operators is an expression on its own. -/
theorem Derives.of_primary {words : List Word} {expr : Expr}
    (derives : Derives .primary words expr) : Derives .expression words expr :=
  @Derives.loosen 4 0 _ _ derives (by decide)

/-- A phrase does not go on without an operator. -/
theorem Derives.not_append {phrase : Phrase} {words following : List Word} {word : Word}
    {expr other : Expr} (derives : Derives phrase words expr) (noOperator : word.binaryOp? = none) :
    ¬ Derives phrase (words ++ word :: following) other := by
  intro longer
  have same : words ++ word :: following = (words ++ word :: following) ++ [] := by simp
  have words_eq := (derives.prefix_unique longer same (Phrase.endsBefore_cons noOperator _)
    phrase.endsBefore_nil).1
  simp at words_eq

namespace Expr

open Lexer (Scans)

/-! ## Derivatives -/

/-- Between the first parenthesis and the one that closes it, the words of an expression are
followed by no closing parenthesis. -/
theorem not_closes_of_derives {body : List Char} {words following : List Word} {tree : Expr}
    (scans : Scans body (words ++ .closing :: following))
    (derives : Derives .expression words tree) :
    splitClosing 0 (body ++ [')']) ≠ some (body, []) := by
  have parens := scans.filter_isParen
  rw [List.flatMap_append] at parens
  obtain ⟨inside, rest, rfl, isInside, isRest⟩ := List.filter_eq_append_iff.1 parens
  obtain ⟨gap, after, rfl, noParen, -, -⟩ := List.filter_eq_cons_iff.1 isRest
  have gapBalanced := balanced_of_filter_eq_nil (List.filter_eq_nil_iff.2 noParen)
  have closes := splitClosing_balanced ((derives.balanced isInside).append gapBalanced)
    (after ++ [')'])
  intro closesLast
  have same : inside ++ (gap ++ ')' :: after) ++ [')']
      = inside ++ gap ++ ')' :: (after ++ [')']) := by simp
  rw [same, closes] at closesLast
  simp at closesLast

/-- The grammar knows no derivative by a name that begins with an underscore. -/
theorem not_derives_underscore {wrt after : List Char} {found : List Word} {tree : Expr}
    (identifier : isIdentifier ('_' :: wrt))
    (scans : Scans ('d' :: '/' :: 'd' :: '_' :: (wrt ++ '(' :: after)) found) :
    ¬ Derives .expression found tree := by
  have isD : Lexer.takePiece? ('d' :: '/' :: 'd' :: '_' :: (wrt ++ '(' :: after))
      = some (⟨.word, ['d']⟩, '/' :: 'd' :: '_' :: (wrt ++ '(' :: after)) := by
    refine Lexer.takePiece?_word (by decide) fun letter following same => ?_
    simp only [List.cons.injEq, true_and] at same
    rw [← same.1]
    decide
  have name : isIdentifier ('d' :: '_' :: wrt) := by
    have continues := Lexer.continuesName_of_mem identifier
    rw [← List.all_eq_true] at continues
    exact Bool.and_eq_true_iff.2 ⟨show Lexer.startsName 'd' by decide, continues⟩
  have nameD (pieces : List Piece) :
      Lexer.word? ⟨.word, ['d']⟩ pieces = some (.name "d") := by
    simp [Lexer.word?, Lexer.tokenKind?, Lexer.nameKind, Token.word, Lexer.isDifferential,
      show Function.named? "d" = none by decide]
  have slash (pieces : List Piece) :
      Lexer.word? ⟨.operator, ['/']⟩ pieces = some (.operator "/") :=
    rfl
  obtain ⟨behindD, rfl, slashScans⟩ := scans.uncons _ isD nameD
  obtain ⟨behindSlash, rfl, nameScans⟩ := slashScans.uncons _ rfl slash
  obtain ⟨behindName, rfl, openingScans⟩ := nameScans.uncons _
    (Lexer.takePiece?_name name (Lexer.endsName_opening after)) (Lexer.word?_underscore (by simp))
  obtain ⟨others, rfl, -⟩ := openingScans.of_opening
  -- The name ends the quotient, and a parenthesis behind it begins nothing.
  have operand (name : String) : Derives .factor [.name name] (.symbol name nowhere) :=
    .unsigned (.alone .name)
  have quotient := @Derives.extend .dividedBy _ _ _ _ (@Derives.alone .factor _ _ (operand "d"))
    (operand (String.ofList ('d' :: '_' :: wrt)))
  exact (@Derives.alone .term _ _ quotient).not_append rfl

/-- A text in the form of a derivative that the grammar accepts is a derivative by a letter. -/
theorem words_of_derivative {wrt body : List Char} {found : List Word} {tree : Expr}
    (identifier : isIdentifier wrt)
    (scans : Scans ('d' :: '/' :: 'd' :: (wrt ++ '(' :: (body ++ [')']))) found)
    (derives : Derives .expression found tree) :
    ∃ letter inside, wrt = [letter] ∧ Scans body inside
      ∧ found
        = .derivative (String.singleton letter) :: .opening :: (inside ++ [Word.closing]) := by
  obtain ⟨letter, more, rfl⟩ : ∃ letter more, wrt = letter :: more := by
    cases wrt with
    | nil => contradiction
    | cons letter more => exact ⟨letter, more, rfl⟩
  obtain ⟨starts, continues⟩ := Bool.and_eq_true_iff.1 identifier
  rcases Bool.or_eq_true_iff.1 starts with isLetter | underscore
  · obtain ⟨others, rfl, othersScans⟩ := scans.of_derivative isLetter
    obtain ⟨front, rest, first, same, primary, -, -⟩ := derives.begins (by simp)
    obtain ⟨following, rfl⟩ : ∃ following, others = .opening :: following := by
      cases primary <;> simp at same
      exact ⟨_, same.2⟩
    cases more with
    | cons char more =>
      have continuesChar := List.all_eq_true.1 continues char List.mem_cons_self
      rcases othersScans.head_of_opening with rfl | separator
      · exact absurd continuesChar (by decide)
      · rw [(Lexer.continuesNone_of_isSeparator separator).1] at continuesChar
        contradiction
    | nil =>
      obtain ⟨words, same, wordsScans⟩ := othersScans.of_opening
      obtain rfl := (List.cons.inj same).2
      have seam : Lexer.Seam body [')'] := by simp [Lexer.Seam]
      obtain ⟨inside, rfl, insideScans⟩ :=
        wordsScans.split seam Lexer.scans_nil.closing (by simp)
      exact ⟨letter, inside, rfl, insideScans, rfl⟩
  · obtain rfl := of_decide_eq_true underscore
    exact absurd derives (not_derives_underscore identifier scans)

/-- The tree of a text in the form of a derivative is the derivative, if the last parenthesis closes
the first one. -/
theorem tree_of_derivative {letter : String} {body : List Char} {inside : List Word} {tree : Expr}
    (closes : splitClosing 0 (body ++ [')']) = some (body, [])) (scans : Scans body inside)
    (derives : Derives .expression
      (.derivative letter :: .opening :: (inside ++ [Word.closing])) tree) :
    ∃ inner, tree = .derivative letter inner nowhere ∧ Derives .expression inside inner := by
  obtain ⟨front, rest, first, same, primary, chained, -⟩ := derives.begins (by simp)
  cases primary with
  | @derivative _ words inner derivesInner =>
    simp only [List.cons_append, List.append_assoc, List.cons.injEq, Word.derivative.injEq,
      true_and, List.nil_append] at same
    obtain ⟨rfl, same⟩ := same
    rcases List.eq_nil_or_concat rest with rfl | ⟨between, last, rfl⟩
    · obtain rfl := List.append_cancel_right same
      cases chained with
      | alone => exact ⟨inner, rfl, derivesInner⟩
    · have same : inside ++ [Word.closing] = (words ++ Word.closing :: between) ++ [last] := by
        simpa using same
      obtain rfl := (List.append_inj' same rfl).1
      exact absurd closes (not_closes_of_derives scans derivesInner)
  | _ => simp at same

/-- What the grammar accepts in the form of a derivative is read as the same tree. -/
theorem readDerivative_of_readRegion {chars : List Char} {ceiling : Nat} {expr : Expr}
    {parts : DerivativeText} (accepts : readRegion 0 chars ceiling = .ok expr)
    (split : DerivativeText.split? chars = some parts) :
    ∃ again, readDerivative? chars ceiling = some (.ok again) ∧ again.bare = expr.bare := by
  obtain ⟨wrt, body⟩ := parts
  obtain ⟨chars_eq, identifier, closes⟩ := derivativeText_split?_iff.1 split
  obtain ⟨found, scans, derives, within⟩ := derives_of_readRegion accepts
  rw [chars_eq] at scans
  obtain ⟨letter, inside, rfl, insideScans, rfl⟩ := words_of_derivative identifier scans derives
  obtain ⟨inner, tree_eq, innerDerives⟩ := tree_of_derivative closes insideScans derives
  have innerWithin : inner.Within ceiling := by
    obtain ⟨levels_le, bounded⟩ := tree_eq ▸ within_bare.2 within
    exact ⟨Nat.le_of_succ_le levels_le, bounded⟩
  obtain ⟨again, reads, rfl⟩ :=
    readRegion_of_derives insideScans innerDerives innerWithin (3 + byteLength [letter] + 1)
  refine ⟨.derivative (String.ofList [letter]) again ⟨0, byteLength chars⟩, ?_, ?_⟩
  · simp only [readDerivative?, split, reads, bind, Option.bind, Except.bind, pure, Except.pure]
  · simp [tree_eq, bare]

/-! ## Integrals -/

/-- The words of a text in the form of an integral. -/
theorem words_of_integral {chars : List Char} {parts : IntegralText} {found : List Word}
    (split : IntegralText.split? chars = some parts) (scans : Scans chars found) :
    ∃ inside, Scans parts.body inside
      ∧ found = .integralSign :: (inside ++ [Word.differential (String.singleton parts.wrt)]) := by
  obtain ⟨wrt, body⟩ := parts
  obtain ⟨⟨blanks, rfl, nonempty, areBlank⟩, isLetter, noBlank⟩ := integralText_split?_iff.1 split
  obtain ⟨others, rfl, othersScans⟩ := scans.of_integralSign
  have separators : ∀ char ∈ blanks, Lexer.isSeparator char := fun char member =>
    othersScans.isSeparator char (by simp [member]) (areBlank char member)
  have noName : Lexer.EndsName [] := by simp [Lexer.EndsName]
  have rightScans := (Lexer.scans_nil.differential isLetter noName).blanks separators
    (Lexer.endsBlank_differential [wrt])
  have seam : Lexer.Seam body (blanks ++ ['d', wrt]) := by
    obtain ⟨char, rest, rfl⟩ := List.exists_cons_of_ne_nil nonempty
    intro first head
    obtain rfl := Option.some.inj head
    refine .inr ⟨separators _ List.mem_cons_self, fun last isLast => ?_⟩
    rw [← Bool.not_eq_true]
    intro separator
    have blank := Lexer.isBlank_of_isSeparator separator
    rw [noBlank last isLast] at blank
    contradiction
  obtain ⟨inside, rfl, insideScans⟩ := othersScans.split seam rightScans (by simp)
  exact ⟨inside, insideScans, rfl⟩

/-- A chain of operators. -/
def IsChain : Expr → Prop
  | .binary .. => True
  | _ => False

/-- Regions do not count for whether a tree is a chain. -/
@[simp] theorem isChain_bare (expr : Expr) : expr.bare.IsChain ↔ expr.IsChain := by
  cases expr <;> rfl

/-- An expression that begins with an integral sign and ends with a differential is an integral, or
a chain that begins with one. -/
theorem tree_of_integral {letter : String} {inside : List Word} {tree : Expr}
    (derives : Derives .expression (.integralSign :: (inside ++ [Word.differential letter])) tree) :
    ∃ words inner, Derives .expression words inner
      ∧ (inside = .opening :: (words ++ [Word.closing])
          ∧ tree = .indefinite letter (.paren inner nowhere) nowhere
        ∨ tree.IsChain ∧ (∃ other following,
            inside = Word.opening :: (words ++ [Word.closing])
              ++ Word.differential other :: following)
          ∧ ∀ ceiling, tree.Within ceiling → (Expr.paren inner nowhere).Within ceiling) := by
  obtain ⟨front, rest, first, same, primary, chained, within⟩ := derives.begins (by simp)
  cases primary with
  | @integral other words inner innerDerives =>
    refine ⟨words, inner, innerDerives, ?_⟩
    cases chained with
    | alone =>
      have ending : inside ++ [Word.differential letter]
          = (Word.opening :: (words ++ [Word.closing])) ++ [Word.differential other] := by
        simpa using same
      obtain ⟨rfl, last⟩ := List.append_inj' ending rfl
      obtain rfl := Word.differential.inj (List.cons.inj last).1
      exact .inl ⟨rfl, rfl⟩
    | @joined symbol following op left right =>
      refine .inr ⟨trivial, ?_, fun ceiling treeWithin => ?_⟩
      · rcases List.eq_nil_or_concat following with rfl | ⟨between, last, rfl⟩
        · have ending : inside ++ [Word.differential letter]
              = (Word.opening :: (words ++ [Word.closing, Word.differential other]))
                ++ [Word.operator symbol] := by
            simpa using same
          obtain ⟨-, last⟩ := List.append_inj' ending rfl
          simp at last
        · have ending : inside ++ [Word.differential letter]
              = (Word.opening :: (words ++ [Word.closing])
                ++ Word.differential other :: Word.operator symbol :: between) ++ [last] := by
            simpa using same
          obtain ⟨rfl, -⟩ := List.append_inj' ending rfl
          exact ⟨other, _, rfl⟩
      · obtain ⟨levels_le, bounded⟩ := within ceiling treeWithin
        exact ⟨levels_le, bounded⟩
  | _ => simp at same

/-- A text in the form of an integral is one without bounds if its body begins with no
underscore. -/
theorem readIntegral?_eq {chars : List Char} {parts : IntegralText}
    (split : IntegralText.split? chars = some parts)
    (noUnderscore : (parts.body.dropWhile Text.isBlank).head? ≠ some '_') (ceiling : Nat) :
    readIntegral? chars ceiling = some (do
      let body ← readRegion signLength parts.body ceiling
      return .indefinite (String.singleton parts.wrt) body ⟨0, byteLength chars⟩) := by
  simp only [readIntegral?, split, bind, Option.bind, pure]
  split
  · rename_i behind underscore
    rw [underscore] at noUnderscore
    contradiction
  · rfl

/-- What the grammar accepts in the form of an integral is read as the same tree, unless it is a
chain: then it is refused behind the parentheses of its first integral. -/
theorem readIntegral_of_readRegion {chars : List Char} {ceiling : Nat} {expr : Expr}
    {parts : IntegralText} (accepts : readRegion 0 chars ceiling = .ok expr)
    (split : IntegralText.split? chars = some parts) :
    (¬ expr.IsChain → ∃ again, readIntegral? chars ceiling = some (.ok again)
        ∧ again.bare = expr.bare)
      ∧ (expr.IsChain → ∃ span, readIntegral? chars ceiling
        = some (.error (.within span .trailing))) := by
  obtain ⟨found, scans, derives, within⟩ := derives_of_readRegion accepts
  obtain ⟨inside, insideScans, rfl⟩ := words_of_integral split scans
  obtain ⟨words, inner, innerDerives, shape⟩ := tree_of_integral derives
  have opens : inside.head? = some .opening := by
    rcases shape with ⟨rfl, -⟩ | ⟨-, ⟨other, following, rfl⟩, -⟩ <;> rfl
  have noUnderscore : (parts.body.dropWhile Text.isBlank).head? ≠ some '_' := by
    rw [Ne, insideScans.underscore, opens]
    simp
  rw [readIntegral?_eq split noUnderscore]
  have parenDerives := (Derives.paren innerDerives).of_primary
  rcases shape with ⟨inside_eq, tree_eq⟩ | ⟨isChain, ⟨other, following, inside_eq⟩, innerWithin⟩
  · have noChain : ¬ expr.IsChain := by
      rw [← isChain_bare, tree_eq]
      exact id
    refine ⟨fun _ => ?_, fun isChain => absurd isChain noChain⟩
    have parenWithin : (Expr.paren inner nowhere).Within ceiling := by
      obtain ⟨levels_le, bounded⟩ := tree_eq ▸ within_bare.2 within
      exact ⟨levels_le, bounded⟩
    obtain ⟨body, reads, body_eq⟩ :=
      readRegion_of_derives (inside_eq ▸ insideScans) parenDerives parenWithin signLength
    refine ⟨.indefinite (String.singleton parts.wrt) body ⟨0, byteLength chars⟩, ?_, ?_⟩
    · simp only [reads, bind, Except.bind, pure, Except.pure]
    · rw [tree_eq, bare, body_eq]
  · rw [isChain_bare] at isChain
    refine ⟨fun noChain => absurd isChain noChain, fun _ => ?_⟩
    obtain ⟨span, refused⟩ := readRegion_of_trailing (inside_eq ▸ insideScans) parenDerives
      (innerWithin ceiling (within_bare.2 within)) rfl signLength
    exact ⟨span, by simp only [refused, bind, Except.bind]⟩

/-! ## Whole texts -/

/-- A text that the grammar accepts and that is not read as it is: it begins with an integral sign
and ends with a differential behind a blank, as if it were one integral, but is a chain of
operators. -/
def Misread (source : String) (expr : Expr) : Prop :=
  (IntegralText.split? source.toList).isSome ∧ expr.IsChain

/-- What the grammar accepts is read as the same tree, regions aside, unless the text is a chain of
operators in the form of an integral. Such a text is refused. -/
theorem read_of_readRegion {source : String} {ceiling : Nat} {expr : Expr}
    (accepts : readRegion 0 source.toList ceiling = .ok expr) :
    (¬ Misread source expr → ∃ again, read source ceiling = .ok again ∧ again.bare = expr.bare)
      ∧ (Misread source expr → ∃ span, read source ceiling = .error (.within span .trailing)) := by
  unfold read Misread
  dsimp only
  rcases derivative : DerivativeText.split? source.toList with _ | parts
  · have noDerivative : readDerivative? source.toList ceiling = none := by
      simp [readDerivative?, derivative]
    rw [noDerivative]
    rcases integral : IntegralText.split? source.toList with _ | parts
    · have noIntegral : readIntegral? source.toList ceiling = none := by
        simp [readIntegral?, integral]
      rw [noIntegral]
      exact ⟨fun _ => ⟨expr, accepts, rfl⟩, fun misread => absurd misread.1 (by simp)⟩
    · obtain ⟨same, refused⟩ := readIntegral_of_readRegion accepts integral
      constructor
      · intro notMisread
        obtain ⟨again, reads, again_eq⟩ := same fun isChain => notMisread ⟨rfl, isChain⟩
        exact ⟨again, by rw [reads], again_eq⟩
      · intro misread
        obtain ⟨span, reads⟩ := refused misread.2
        exact ⟨span, by rw [reads]⟩
  · obtain ⟨again, reads, again_eq⟩ := readDerivative_of_readRegion accepts derivative
    have noIntegral : IntegralText.split? source.toList = none := by
      rw [(derivativeText_split?_iff.1 derivative).1]
      rfl
    rw [reads, noIntegral]
    exact ⟨fun _ => ⟨again, rfl, again_eq⟩, fun misread => absurd misread.1 (by simp)⟩

/-- A sum that begins with an integral is read, as it ends with none. -/
theorem read_of_readRegion_sum :
    ∃ again, read "∫(x) dx + y" 1 = .ok again
      ∧ again.bare = .binary .plus
        (.indefinite "x" (.paren (.symbol "x" nowhere) nowhere) nowhere) (.symbol "y" nowhere)
        nowhere := by
  have accepts : readRegion 0 "∫(x) dx + y".toList 1 = .ok
      (.binary .plus
        (.indefinite "x" (.paren (.symbol "x" ⟨4, 5⟩) ⟨3, 6⟩) ⟨0, 9⟩) (.symbol "y" ⟨12, 13⟩)
        ⟨0, 13⟩) := by
    rfl
  have notMisread : ¬ (IntegralText.split? "∫(x) dx + y".toList).isSome := by decide
  exact (read_of_readRegion accepts).1 fun misread => notMisread misread.1

/-- A sum of two integrals is accepted by the grammar, and refused behind its first parentheses. -/
theorem refuses_sum_of_integrals :
    ∃ expr, readRegion 0 "∫(x) dx + ∫(y) dy".toList defaultCeiling = .ok expr
      ∧ read "∫(x) dx + ∫(y) dy" defaultCeiling = .error (.within ⟨7, 9⟩ .trailing)
      ∧ ¬ ∃ again, read "∫(x) dx + ∫(y) dy" defaultCeiling = .ok again
        ∧ again.bare = expr.bare := by
  have refused : read "∫(x) dx + ∫(y) dy" defaultCeiling
      = .error (.within ⟨7, 9⟩ .trailing) := by
    rfl
  refine ⟨_, rfl, refused, ?_⟩
  rintro ⟨again, reads, -⟩
  rw [refused] at reads
  contradiction

end Expr

end Workings
