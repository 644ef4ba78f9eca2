import Workings.Proofs.Expr.Shortcut

/-!
# Texts of derivatives and integrals are read back

A tree that was read from a text in the form of one derivative or one integral has a text of that
form, which is split in the same places: names have no parentheses, those of the parts match, and no
part ends in a blank. Bounds are written between parentheses where they could be split themselves.
Only an upper bound that is an integral is written without, though it is split at its differential.
-/

namespace Workings.Expr

open Lexer (Scans)

/-! ## Trees without parentheses -/

/-- A tree without the parentheses and the regions it was read from. -/
def stripped : Expr → Expr
  | .number value _ => .number value nowhere
  | .symbol name _ => .symbol name nowhere
  | .paren inner _ => inner.stripped
  | .call function _ argument _ _ => .call function nowhere argument.stripped nowhere nowhere
  | .unary op operand _ => .unary op operand.stripped nowhere
  | .binary op left right _ => .binary op left.stripped right.stripped nowhere
  | .derivative wrt body _ => .derivative wrt body.stripped nowhere
  | .indefinite wrt body _ => .indefinite wrt body.stripped nowhere
  | .definite wrt lower upper body _ =>
    .definite wrt lower.stripped upper.stripped body.stripped nowhere

/-- Regions do not count for a tree without parentheses. -/
@[simp] theorem stripped_bare (expr : Expr) : expr.bare.stripped = expr.stripped := by
  induction expr <;> simp_all [bare, stripped]

/-- Trees that differ in regions only are the same without parentheses. -/
theorem stripped_eq_of_bare_eq {left right : Expr} (same : left.bare = right.bare) :
    left.stripped = right.stripped := by
  rw [← stripped_bare left, same, stripped_bare]

/-! ## Texts of parts -/

/-- A tree whose text is read by the grammar as the same tree. -/
structure Writable (ceiling : Nat) (expr : Expr) : Prop where
  readable : expr.Readable
  finite : expr.Finite
  within : expr.Within ceiling

/-- A higher ceiling allows the same trees. -/
theorem Within.mono {low high : Nat} {expr : Expr} (within : expr.Within low) (le : low ≤ high) :
    expr.Within high :=
  ⟨Nat.le_trans within.levels_le le, within.bounded⟩

namespace Writable

variable {ceiling : Nat} {expr : Expr}

/-- A tree that was read by the grammar is writable if its numbers are finite. -/
theorem of_readRegion {position : Nat} {chars : List Char}
    (reads : readRegion position chars ceiling = .ok expr) (finite : expr.Finite) :
    Writable ceiling expr :=
  ⟨(readable_of_readRegion reads).1, finite, (readable_of_readRegion reads).2⟩

/-- A higher ceiling allows the same trees. -/
theorem mono {low high : Nat} (writable : Writable low expr) (le : low ≤ high) :
    Writable high expr :=
  ⟨writable.readable, writable.finite, writable.within.mono le⟩

/-- The text of a writable tree has its words. -/
theorem scans (writable : Writable ceiling expr) : Scans expr.text.toList expr.words :=
  writable.readable.scans_text writable.finite

/-- The text of a writable tree is read as this tree. -/
theorem reads (writable : Writable ceiling expr) (position : Nat) :
    ∃ again, readRegion position expr.text.toList ceiling = .ok again ∧ again.bare = expr.bare :=
  readRegion_of_derives writable.scans (writable.readable.derives writable.finite)
    (within_bare.2 writable.within) position

/-- The text of a writable tree is read as this tree behind a space, too. -/
theorem reads_space (writable : Writable ceiling expr) (position : Nat) :
    ∃ again, readRegion position (' ' :: expr.text.toList) ceiling = .ok again
      ∧ again.bare = expr.bare := by
  have ends : Lexer.EndsBlank expr.text.toList := by
    simpa using writable.readable.endsBlank writable.finite []
  exact readRegion_of_derives (writable.scans.space ends)
    (writable.readable.derives writable.finite) (within_bare.2 writable.within) position

/-- Parentheses around a writable tree take one more level. -/
theorem paren (writable : Writable ceiling expr) (span : Span) :
    Writable (ceiling + 1) (.paren expr span) :=
  ⟨writable.readable, writable.finite,
    Nat.succ_le_succ writable.within.levels_le, writable.within.bounded⟩

end Writable

/-- Parentheses match in the text of a tree. -/
theorem Readable.balanced {expr : Expr} (readable : expr.Readable) (finite : expr.Finite) :
    Balanced expr.text.toList :=
  (readable.scans_text finite).balanced (readable.derives finite)

/-- A character of a name, a digit, a point or a slash. -/
def IsPlain (char : Char) : Prop :=
  Lexer.continuesName char ∨ char = '.' ∨ char = '/'

/-- A name consists of plain characters. -/
theorem isPlain_of_isIdentifier {name : List Char} (identifier : isIdentifier name) :
    ∀ char ∈ name, IsPlain char :=
  fun char member => .inl (Lexer.continuesName_of_mem identifier char member)

/-- A numeral consists of plain characters. -/
theorem isPlain_of_numeral {chars : List Char} {decimal : Number.Decimal}
    (numeral : Number.Numeral chars decimal) : ∀ char ∈ chars, IsPlain char := by
  intro char member
  rcases numeral.isDigit_or_point char member with digit | point
  · rw [← Lexer.isDigit_eq] at digit
    exact .inl (by simp [Lexer.continuesName, digit])
  · exact .inr (.inl point)

/-- No plain character is white space. -/
theorem IsPlain.not_isBlank {char : Char} (plain : IsPlain char) : Text.isBlank char = false := by
  rcases plain with continues | rfl | rfl
  · exact Lexer.not_isBlank_of_continuesName continues
  · decide
  · decide

/-- A text of plain characters ends in no blank. -/
theorem last_of_isPlain {chars : List Char} (nonempty : chars ≠ [])
    (plain : ∀ char ∈ chars, IsPlain char) :
    ∃ front last, chars = front ++ [last] ∧ Text.isBlank last = false :=
  ⟨chars.dropLast, chars.getLast nonempty, (List.dropLast_append_getLast nonempty).symm,
    (plain _ (List.getLast_mem nonempty)).not_isBlank⟩

/-- The text of a tree ends in no blank. -/
theorem Readable.last {expr : Expr} (readable : expr.Readable) (finite : expr.Finite) :
    ∃ front last, expr.text.toList = front ++ [last] ∧ Text.isBlank last = false := by
  induction expr with
  | number value span =>
    obtain ⟨decimal, numeral⟩ := numeral_text readable (finite value (by simp [literals]))
    obtain ⟨char, rest, same, -⟩ := numeral.head
    exact last_of_isPlain (by simp [text, same]) (isPlain_of_numeral numeral)
  | symbol name span =>
    obtain ⟨char, rest, same, -⟩ := head_of_isIdentifier readable.1
    exact last_of_isPlain (by simp [text, same]) (isPlain_of_isIdentifier readable.1)
  | paren inner span => exact ⟨'(' :: inner.text.toList, ')', by simp [text], by decide⟩
  | call function _ argument _ _ =>
    exact ⟨function.toList ++ '(' :: argument.text.toList, ')', by simp [text], by decide⟩
  | unary op operand span hypothesis =>
    obtain ⟨front, last, same, noBlank⟩ := hypothesis readable.2 finite
    exact ⟨op.symbol.toList ++ front, last, by simp [text, same], noBlank⟩
  | binary op left right span _ rightHypothesis =>
    obtain ⟨front, last, same, noBlank⟩ := rightHypothesis readable.2.2.2 finite.right
    exact ⟨left.text.toList ++ ' ' :: (op.symbol.toList ++ ' ' :: front), last,
      by simp [text, same], noBlank⟩
  | derivative wrt body span =>
    exact ⟨'d' :: '/' :: 'd' :: (wrt.toList ++ '(' :: body.text.toList), ')', by simp [text],
      by decide⟩
  | indefinite wrt body span =>
    obtain ⟨⟨letter, isLetter, rfl⟩, -⟩ := readable
    have continues : Lexer.continuesName letter := by
      simp [Lexer.continuesName, Lexer.startsName, isLetter]
    exact ⟨'∫' :: (body.text.toList ++ [' ', 'd']), letter, by simp [text],
      Lexer.not_isBlank_of_continuesName continues⟩
  | definite => contradiction

/-! ## Bounds -/

/-- An integral without bounds. -/
def IsIntegral : Expr → Prop
  | .indefinite .. => True
  | _ => False

/-- No plain character is a parenthesis. -/
theorem IsPlain.not_isParen {char : Char} (plain : IsPlain char) : ¬ Lexer.isParen char := by
  rcases plain with continues | rfl | rfl
  · exact Lexer.not_isParen (.inr continues)
  · decide
  · decide

/-- A search that stops at no plain character skips the text of what stands between operators, but
it may stop at the sign of an integral and in front of its differential. -/
theorem Readable.sheltered {stops : Char → Bool} {expr : Expr}
    (goesOn : ∀ char, IsPlain char → stops char = false)
    (integral : expr.IsIntegral → stops '∫' = false ∧ stops ' ' = false)
    (primary : expr.tightness = Phrase.primary.tightness) (readable : expr.Readable)
    (finite : expr.Finite) : Sheltered stops expr.text.toList := by
  have plain {chars : List Char} (arePlain : ∀ char ∈ chars, IsPlain char) :
      Sheltered stops chars :=
    sheltered_of_plain fun char member =>
      ⟨(arePlain char member).not_isParen, goesOn char (arePlain char member)⟩
  have letter {char : Char} (isLetter : Lexer.isLetter char) : IsPlain char :=
    .inl (by simp [Lexer.continuesName, Lexer.startsName, isLetter])
  have isD : IsPlain 'd' := letter (by decide)
  cases expr with
  | number value span =>
    obtain ⟨decimal, numeral⟩ := numeral_text readable (finite value (by simp [literals]))
    exact plain (isPlain_of_numeral numeral)
  | symbol name span => exact plain (isPlain_of_isIdentifier readable.1)
  | paren inner span =>
    have inside := @Readable.balanced inner readable finite
    simpa [text] using Sheltered.group inside (@Sheltered.nil stops)
  | call function _ argument _ _ =>
    have name := plain (isPlain_of_isIdentifier (Lexer.isIdentifier_of_named? readable.1).1)
    have inside := @Readable.balanced argument readable.2 finite
    simpa [text] using name.append (.group inside .nil)
  | unary op _ _ => simp [tightness, Phrase.tightness] at primary
  | binary op _ _ _ =>
    cases op <;> simp [tightness, Phrase.tightness, BinaryOp.precedence,
      Precedence.tightness] at primary
  | derivative wrt body span =>
    obtain ⟨⟨char, isLetter, rfl⟩, bodyReadable⟩ := readable
    have operator : ∀ other ∈ ['d', '/', 'd', char], IsPlain other := by
      simp [isD, letter isLetter, show IsPlain '/' from .inr (.inr rfl)]
    have inside := @Readable.balanced body bodyReadable finite
    simpa [text] using (plain operator).append (.group inside .nil)
  | indefinite wrt body span =>
    obtain ⟨⟨char, isLetter, rfl⟩, ⟨inner, innerSpan, rfl⟩, bodyReadable⟩ := readable
    obtain ⟨noSign, noSpace⟩ := integral trivial
    have inside := @Readable.balanced inner bodyReadable finite
    have differential : ∀ other ∈ ['d', char], IsPlain other := by simp [isD, letter isLetter]
    have behind : Sheltered stops (' ' :: ['d', char]) :=
      .plain (by decide) noSpace (plain differential)
    have whole : Sheltered stops ('∫' :: '(' :: (inner.text.toList ++ ')' :: ' ' :: ['d', char])) :=
      .plain (by decide) noSign (.group inside behind)
    simpa [text] using whole
  | definite => contradiction

/-- A bound as it is written, with parentheses around operators. -/
def wrapped (bound : Expr) : Expr :=
  match bound with
  | .unary .. | .binary .. => .paren bound nowhere
  | _ => bound

/-- The text of a bound is that of the tree with its parentheses. -/
theorem text_wrapped (bound : Expr) : bound.wrapped.text = boundText bound bound.text := by
  cases bound <;> rfl

/-- Parentheses around a bound are no part of it. -/
theorem stripped_wrapped (bound : Expr) : bound.wrapped.stripped = bound.stripped := by
  cases bound <;> rfl

/-- A bound stands between operators as it is written. -/
theorem tightness_wrapped (bound : Expr) :
    bound.wrapped.tightness = Phrase.primary.tightness := by
  cases bound <;> rfl

/-- No parentheses are written around an integral. -/
theorem isIntegral_wrapped (bound : Expr) : bound.wrapped.IsIntegral ↔ bound.IsIntegral := by
  cases bound <;> rfl

/-- A bound is written with at most one more level. -/
theorem Writable.wrapped {ceiling : Nat} {bound : Expr} (writable : Writable ceiling bound) :
    Writable (ceiling + 1) bound.wrapped := by
  cases bound with
  | unary | binary => exact writable.paren nowhere
  | _ => exact writable.mono (Nat.le_succ ceiling)

/-! ## First words -/

/-- Every tree has a word. -/
theorem words_ne_nil (expr : Expr) : expr.words ≠ [] := by
  induction expr <;> simp_all [words]

end Workings.Expr

namespace Workings

/-- The words of a phrase begin with a name, or with the differential of a letter that is read as a
name. Those of a chain do if the tree that it was begun with does. -/
def Phrase.BeginsWith (name : String) : Phrase → List Word → Prop
  | .after _ left, _ => left.words.head? = some (.name name)
  | _, found => found.head? = some (.name name) ∨ found.head? = some (.differential name)

/-- A phrase begins with the name that the text of its tree begins with. -/
theorem Derives.beginsWith {phrase : Phrase} {found : List Word} {expr : Expr} {name : String}
    (derives : Derives phrase found expr) (head : expr.words.head? = some (.name name)) :
    phrase.BeginsWith name found := by
  induction derives with
  | @chain level words following first expr _ _ operandHypothesis afterHypothesis =>
    have begins := operandHypothesis (afterHypothesis head)
    have firstWords :
        words.head? = some (.name name) ∨ words.head? = some (.differential name) := by
      cases level <;> exact begins
    exact firstWords.imp (fun isHead => by simp [isHead]) fun isHead => by simp [isHead]
  | done => exact head
  | @joined level op words following left right expr _ _ _ _ afterHypothesis =>
    have begins : (Expr.binary op left right Expr.nowhere).words.head? = some (.name name) :=
      afterHypothesis head
    rwa [Expr.words, List.head?_append_of_ne_nil _ left.words_ne_nil] at begins
  | signed | number | call | paren | derivative | integral => simp [Expr.words] at head
  | unsigned _ hypothesis => exact hypothesis head
  | name => exact .inl head
  | differential =>
    obtain rfl := Word.name.inj (Option.some.inj head)
    exact .inr rfl

namespace Expr

open Lexer (Scans)

/-- The text of a tree begins with an underscore only if the text that the tree was read from does,
blanks aside. -/
theorem underscore_of_text {position : Nat} {chars : List Char} {ceiling : Nat} {expr : Expr}
    (reads : readRegion position chars ceiling = .ok expr) (finite : expr.Finite)
    (underscore : (expr.text.toList.dropWhile Text.isBlank).head? = some '_') :
    (chars.dropWhile Text.isBlank).head? = some '_' := by
  obtain ⟨found, scans, derives, -⟩ := derives_of_readRegion reads
  have writable := Writable.of_readRegion reads finite
  obtain ⟨name, head, begins⟩ := writable.scans.underscore.1 underscore
  rw [← words_bare] at head
  rcases derives.beginsWith head with isName | isDifferential
  · exact scans.underscore.2 ⟨name, isName, begins⟩
  · obtain ⟨letter, isLetter, rfl⟩ := scans.lexical _ (List.mem_of_mem_head? isDifferential)
    obtain rfl : letter = '_' := by simpa using begins
    exact absurd isLetter (by decide)

/-! ## Forms of texts -/

/-- A text that begins with an integral sign is read as an integral if it has the form of one. -/
theorem read_integral {source : String} {rest : List Char} {ceiling : Nat}
    {result : Except Fault Expr} (sign : source.toList = '∫' :: rest)
    (reads : readIntegral? source.toList ceiling = some result) : read source ceiling = result := by
  have noDerivative : readDerivative? source.toList ceiling = none := by
    rw [sign]
    rfl
  simp only [read, noDerivative, reads]

/-- A text in the form of an integral is one with bounds if its body begins with an underscore. -/
theorem readIntegral?_bounded {chars behind : List Char} {parts : IntegralText}
    (split : IntegralText.split? chars = some parts)
    (underscore : parts.body.dropWhile Text.isBlank = '_' :: behind) (ceiling : Nat) :
    readIntegral? chars ceiling = some (readBounded parts.wrt
      (parts.body.takeWhile Text.isBlank) behind ⟨0, byteLength chars⟩ ceiling) := by
  simp only [readIntegral?, split, bind, Option.bind, pure, underscore]

variable {ceiling : Nat} {body : Expr}

/-- The text of a derivative is read as this derivative, by whatever name it is taken. -/
theorem read_text_derivative {wrt : List Char} (identifier : isIdentifier wrt)
    (writable : Writable ceiling body) (span : Span) :
    ∃ again, read (Expr.derivative (String.ofList wrt) body span).text ceiling = .ok again
      ∧ again.bare = .derivative (String.ofList wrt) body.bare nowhere := by
  have text_eq : (Expr.derivative (String.ofList wrt) body span).text.toList
      = 'd' :: '/' :: 'd' :: (wrt ++ '(' :: (body.text.toList ++ [')'])) := by
    simp [text]
  have closes := splitClosing_balanced (writable.readable.balanced writable.finite) []
  have split := derivativeText_split?_iff.2 ⟨text_eq, identifier, closes⟩
  obtain ⟨again, reads, again_eq⟩ := writable.reads (3 + byteLength wrt + 1)
  refine ⟨.derivative (String.ofList wrt) again
    ⟨0, byteLength (Expr.derivative (String.ofList wrt) body span).text.toList⟩, ?_, ?_⟩
  · simp only [read, readDerivative?, split, reads, bind, Option.bind, Except.bind, pure,
      Except.pure]
  · rw [bare, again_eq]

/-- The text of an integral is split in front of its differential. -/
theorem split_text_integral {letter : Char} (isLetter : Lexer.isLetter letter)
    (writable : Writable ceiling body) (front : List Char) :
    IntegralText.split? ('∫' :: (front ++ body.text.toList ++ [' ', 'd', letter]))
      = some ⟨letter, front ++ body.text.toList⟩ := by
  obtain ⟨most, last, same, noBlank⟩ := writable.readable.last writable.finite
  have space : Text.isBlank ' ' := by decide
  refine integralText_split?_iff.2 ⟨⟨[' '], by simp, by simp, by simpa using space⟩, isLetter, ?_⟩
  simpa [same, List.getLast?_append] using noBlank

/-- The text of an integral without bounds is read as this integral, if its body begins with no
underscore. -/
theorem read_text_indefinite {letter : Char} (isLetter : Lexer.isLetter letter)
    (writable : Writable ceiling body)
    (noUnderscore : (body.text.toList.dropWhile Text.isBlank).head? ≠ some '_') (span : Span) :
    ∃ again, read (Expr.indefinite (String.singleton letter) body span).text ceiling = .ok again
      ∧ again.bare = .indefinite (String.singleton letter) body.bare nowhere := by
  have text_eq : (Expr.indefinite (String.singleton letter) body span).text.toList
      = '∫' :: ([] ++ body.text.toList ++ [' ', 'd', letter]) := by
    simp [text]
  have split := split_text_integral isLetter writable []
  rw [← text_eq] at split
  obtain ⟨again, reads, again_eq⟩ := writable.reads signLength
  have readsIntegral := readIntegral?_eq split noUnderscore ceiling
  simp only [List.nil_append, reads, bind, Except.bind, pure, Except.pure] at readsIntegral
  exact ⟨_, read_integral text_eq readsIntegral, by rw [bare, again_eq]⟩

section Bounds

variable {letter : Char} {lower upper : Expr}

/-- The text of an integral with bounds. -/
theorem text_definite (span : Span) :
    (Expr.definite (String.singleton letter) lower upper body span).text.toList
      = '∫' :: ('_' :: (lower.wrapped.text.toList
        ++ '^' :: (upper.wrapped.text.toList ++ [' '])) ++ body.text.toList
        ++ [' ', 'd', letter]) := by
  simp [text, text_wrapped]

/-- The text of an integral with bounds is read as one. What its parts are is seen behind its
underscore. -/
theorem read_text_bounded (isLetter : Lexer.isLetter letter) (writable : Writable ceiling body)
    (span : Span) (high : Nat) :
    ∃ whole, read (Expr.definite (String.singleton letter) lower upper body span).text high
      = readBounded letter [] (lower.wrapped.text.toList
        ++ '^' :: (upper.wrapped.text.toList ++ ' ' :: body.text.toList)) whole high := by
  have split := split_text_integral isLetter writable
    ('_' :: (lower.wrapped.text.toList ++ '^' :: (upper.wrapped.text.toList ++ [' '])))
  have body_eq : '_' :: (lower.wrapped.text.toList ++ '^' :: (upper.wrapped.text.toList ++ [' ']))
        ++ body.text.toList
      = '_' :: (lower.wrapped.text.toList
        ++ '^' :: (upper.wrapped.text.toList ++ ' ' :: body.text.toList)) := by
    simp
  rw [← text_definite span, body_eq] at split
  have noBlank : Text.isBlank '_' = false := by decide
  have bounded := readIntegral?_bounded split (List.dropWhile_cons_of_neg (by simp [noBlank])) high
  simp only [List.takeWhile_cons, noBlank, Bool.false_eq_true, if_false] at bounded
  exact ⟨_, read_integral (text_definite span) bounded⟩

/-- No plain character is a caret. -/
theorem IsPlain.ne_caret {char : Char} (plain : IsPlain char) : decide (char = '^') = false := by
  rcases plain with continues | rfl | rfl
  · refine decide_eq_false ?_
    rintro rfl
    exact absurd continues (by decide)
  · decide
  · decide

/-- The lower bound is split off as it was written. -/
theorem splitCaret_text (writable : Writable ceiling lower) (behind : List Char) :
    splitCaret 0 (lower.wrapped.text.toList ++ '^' :: behind)
      = some (lower.wrapped.text.toList, behind) := by
  have written := writable.wrapped
  exact splitCaret_sheltered (written.readable.sheltered (fun _ => IsPlain.ne_caret)
    (fun _ => by decide) (tightness_wrapped lower) written.finite) behind

/-- What is read as an integral with bounds has its parts. -/
theorem of_readBounded {wrt : Char} {indent chars : List Char} {span : Span} {ceiling : Nat}
    {expr : Expr} (reads : readBounded wrt indent chars span ceiling = .ok expr) :
    ∃ parts lower upper body, BoundedText.split? chars = some parts
      ∧ (∃ position, readRegion position parts.lower ceiling = .ok lower)
      ∧ (∃ position, readRegion position parts.upper ceiling = .ok upper)
      ∧ (∃ position, readRegion position parts.body ceiling = .ok body)
      ∧ expr = .definite (String.singleton wrt) lower upper body span := by
  unfold readBounded at reads
  dsimp only at reads
  split at reads
  · contradiction
  · rename_i parts split
    obtain ⟨lower, readsLower, behindLower⟩ := Reader.of_bind_eq_ok reads
    obtain ⟨upper, readsUpper, behindUpper⟩ := Reader.of_bind_eq_ok behindLower
    obtain ⟨body, readsBody, answers⟩ := Reader.of_bind_eq_ok behindUpper
    exact ⟨parts, lower, upper, body, split, ⟨_, readsLower⟩, ⟨_, readsUpper⟩, ⟨_, readsBody⟩,
      (Except.ok.inj answers).symm⟩

/-- The text of an integral with bounds is read as this integral, parentheses around its bounds
aside, if its upper bound is no integral. -/
theorem read_text_definite (isLetter : Lexer.isLetter letter)
    (lowerWritable : Writable ceiling lower) (upperWritable : Writable ceiling upper)
    (writable : Writable ceiling body) (noIntegral : ¬ upper.IsIntegral) (span : Span) :
    ∃ again, read (Expr.definite (String.singleton letter) lower upper body span).text (ceiling + 1)
        = .ok again
      ∧ again.stripped = .definite (String.singleton letter) lower.stripped upper.stripped
        body.stripped nowhere := by
  obtain ⟨whole, read_eq⟩ := @read_text_bounded ceiling body letter lower upper isLetter writable
    span (ceiling + 1)
  have written := upperWritable.wrapped
  have sheltered := written.readable.sheltered (fun _ => IsPlain.not_isBlank)
    (fun integral => absurd ((isIntegral_wrapped upper).1 integral) noIntegral)
    (tightness_wrapped upper) written.finite
  have nonempty : upper.wrapped.text.toList ≠ [] := by
    obtain ⟨char, rest, same, -⟩ := written.readable.head written.finite
    simp [same]
  have split : BoundedText.split? (lower.wrapped.text.toList
      ++ '^' :: (upper.wrapped.text.toList ++ ' ' :: body.text.toList))
      = some ⟨lower.wrapped.text.toList, upper.wrapped.text.toList, ' ' :: body.text.toList⟩ := by
    simp only [BoundedText.split?, splitCaret_text lowerWritable,
      splitBlank_sheltered sheltered nonempty, bind, Option.bind, pure]
  have low := lowerWritable.wrapped
  obtain ⟨lower', readsLower, lower_eq⟩ := low.reads (signLength + byteLength [] + 1)
  obtain ⟨upper', readsUpper, upper_eq⟩ := written.reads
    (signLength + byteLength [] + 1 + byteLength lower.wrapped.text.toList + 1)
  obtain ⟨body', readsBody, body_eq⟩ := (writable.mono (Nat.le_succ ceiling)).reads_space
    (signLength + byteLength [] + 1 + byteLength lower.wrapped.text.toList + 1
      + byteLength upper.wrapped.text.toList)
  refine ⟨.definite (String.singleton letter) lower' upper' body' whole, ?_, ?_⟩
  · rw [read_eq]
    simp only [readBounded, split, readsLower, readsUpper, readsBody, bind, Except.bind, pure,
      Except.pure]
  · rw [stripped, stripped_eq_of_bare_eq lower_eq, stripped_eq_of_bare_eq upper_eq,
      stripped_eq_of_bare_eq body_eq, stripped_wrapped, stripped_wrapped]

/-- The text of an integral is no expression without its differential. -/
theorem not_derives_integral {words : List Word} {inner tree : Expr}
    (derives : Derives .expression words inner) :
    ¬ Derives .expression (.integralSign :: .opening :: (words ++ [Word.closing])) tree := by
  intro whole
  obtain ⟨front, rest, first, same, primary, -, -⟩ := whole.begins (by simp)
  cases primary with
  | @integral other words' inner' innerDerives =>
    simp only [List.cons_append, List.append_assoc, List.cons.injEq, true_and] at same
    obtain ⟨rfl, -⟩ := derives.prefix_unique innerDerives same (Phrase.endsBefore_cons rfl _)
      (Phrase.endsBefore_cons rfl _)
    simp at same
  | _ => simp at same

/-- The text of an integral with an integral as its upper bound is refused: the bound is split in
front of its differential. -/
theorem not_read_text_definite (isLetter : Lexer.isLetter letter)
    (lowerWritable : Writable ceiling lower) (upperWritable : Writable ceiling upper)
    (writable : Writable ceiling body) (integral : upper.IsIntegral) (span : Span) (high : Nat)
    (again : Expr) :
    read (Expr.definite (String.singleton letter) lower upper body span).text high ≠ .ok again := by
  obtain ⟨whole, read_eq⟩ := @read_text_bounded ceiling body letter lower upper isLetter writable
    span high
  rw [read_eq]
  intro reads
  obtain ⟨parts, _, upper', _, split, -, ⟨position, readsUpper⟩, -, -⟩ := of_readBounded reads
  obtain ⟨readable, finite, -⟩ := upperWritable
  cases upper with
  | indefinite wrt upperBody upperSpan =>
    obtain ⟨-, ⟨inner, innerSpan, rfl⟩, innerReadable⟩ := readable
    have innerDerives := @Readable.derives inner innerReadable finite
    have sheltered : Sheltered Text.isBlank ('∫' :: '(' :: (inner.text.toList ++ ')' :: [])) :=
      .plain (by decide) (by decide) (.group (@Readable.balanced inner innerReadable finite) .nil)
    have cut := splitBlank_sheltered sheltered (by simp)
      ('d' :: (wrt.toList ++ ' ' :: body.text.toList))
    have text_eq : (wrapped (.indefinite wrt (.paren inner innerSpan) upperSpan)).text.toList
          ++ ' ' :: body.text.toList
        = '∫' :: '(' :: (inner.text.toList ++ ')' :: [])
          ++ ' ' :: 'd' :: (wrt.toList ++ ' ' :: body.text.toList) := by
      simp [wrapped, text]
    rw [text_eq] at split
    simp only [BoundedText.split?, splitCaret_text lowerWritable, cut, bind, Option.bind, pure,
      Option.some.injEq] at split
    subst split
    have scans : Scans ('∫' :: '(' :: (inner.text.toList ++ ')' :: []))
        (.integralSign :: .opening :: (inner.words ++ [Word.closing])) :=
      (@Readable.scans inner innerReadable finite _ _ (breaks_closing []) (by simp)
        Lexer.scans_nil.closing).opening.integralSign
    obtain ⟨found, foundScans, derives, -⟩ := derives_of_readRegion readsUpper
    rw [foundScans.unique scans] at derives
    exact not_derives_integral innerDerives derives
  | _ => contradiction

end Bounds

/-! ## Trees of literal forms -/

/-- The parts of a derivative that was read from a text in the form of one. -/
theorem of_readDerivative {chars : List Char} {ceiling : Nat} {expr : Expr}
    (reads : readDerivative? chars ceiling = some (.ok expr)) :
    ∃ wrt text body span, isIdentifier wrt
      ∧ (∃ position, readRegion position text ceiling = .ok body)
      ∧ expr = .derivative (String.ofList wrt) body span := by
  obtain ⟨⟨wrt, text⟩, split, result⟩ := Option.bind_eq_some_iff.1 reads
  obtain ⟨-, identifier, -⟩ := derivativeText_split?_iff.1 split
  obtain ⟨body, readsBody, answers⟩ := Reader.of_bind_eq_ok (Option.some.inj result)
  exact ⟨wrt, text, body, _, identifier, ⟨_, readsBody⟩, (Except.ok.inj answers).symm⟩

/-- The parts of an integral that was read from a text in the form of one. -/
theorem of_readIntegral {chars : List Char} {ceiling : Nat} {expr : Expr}
    (reads : readIntegral? chars ceiling = some (.ok expr)) :
    ∃ letter, Lexer.isLetter letter
      ∧ ((∃ text body span, (text.dropWhile Text.isBlank).head? ≠ some '_'
          ∧ (∃ position, readRegion position text ceiling = .ok body)
          ∧ expr = .indefinite (String.singleton letter) body span)
        ∨ ∃ lowerText upperText bodyText lower upper body span,
          (∃ position, readRegion position lowerText ceiling = .ok lower)
            ∧ (∃ position, readRegion position upperText ceiling = .ok upper)
            ∧ (∃ position, readRegion position bodyText ceiling = .ok body)
            ∧ expr = .definite (String.singleton letter) lower upper body span) := by
  obtain ⟨⟨letter, text⟩, split, result⟩ := Option.bind_eq_some_iff.1 reads
  obtain ⟨-, isLetter, -⟩ := integralText_split?_iff.1 split
  refine ⟨letter, isLetter, ?_⟩
  by_cases underscore : (text.dropWhile Text.isBlank).head? = some '_'
  · right
    obtain ⟨behind, begins⟩ := List.head?_eq_some_iff.1 underscore
    rw [readIntegral?_bounded split begins] at reads
    obtain ⟨parts, lower, upper, body, -, readsLower, readsUpper, readsBody, rfl⟩ :=
      of_readBounded (Option.some.inj reads)
    exact ⟨_, _, _, lower, upper, body, _, readsLower, readsUpper, readsBody, rfl⟩
  · left
    rw [readIntegral?_eq split underscore] at reads
    obtain ⟨body, readsBody, answers⟩ := Reader.of_bind_eq_ok (Option.some.inj reads)
    exact ⟨text, body, _, underscore, ⟨_, readsBody⟩, (Except.ok.inj answers).symm⟩

/-- An integral whose upper bound is an integral without parentheses. -/
def HasIntegralAbove : Expr → Prop
  | .definite _ _ upper _ _ => upper.IsIntegral
  | _ => False

/-- The text of a tree that was read from a text in the form of one derivative or one integral is
read as the same tree, parentheses and regions aside, if and only if it has no integral as its upper
bound. One more level may be needed for the parentheses around its bounds. -/
theorem literal_reads_back_iff {source : String} {ceiling : Nat} {expr : Expr}
    (reads : readDerivative? source.toList ceiling = some (.ok expr)
      ∨ readIntegral? source.toList ceiling = some (.ok expr))
    (finite : ∀ value ∈ expr.literals, value.isFinite) :
    (∃ again, read expr.text (ceiling + 1) = .ok again ∧ again.stripped = expr.stripped)
      ↔ ¬ expr.HasIntegralAbove := by
  rcases reads with derivative | integral
  · obtain ⟨wrt, text, body, span, identifier, ⟨position, readsBody⟩, rfl⟩ :=
      of_readDerivative derivative
    have writable := (Writable.of_readRegion readsBody finite).mono (Nat.le_succ ceiling)
    obtain ⟨again, readsText, again_eq⟩ := read_text_derivative identifier writable span
    exact ⟨fun _ => id, fun _ => ⟨again, readsText, stripped_eq_of_bare_eq again_eq⟩⟩
  · obtain ⟨letter, isLetter, shape⟩ := of_readIntegral integral
    rcases shape with ⟨text, body, span, noUnderscore, ⟨position, readsBody⟩, rfl⟩
      | ⟨_, _, _, lower, upper, body, span, ⟨_, readsLower⟩, ⟨_, readsUpper⟩, ⟨_, readsBody⟩, rfl⟩
    · have writable := (Writable.of_readRegion readsBody finite).mono (Nat.le_succ ceiling)
      have textNoUnderscore := mt (underscore_of_text readsBody finite) noUnderscore
      obtain ⟨again, readsText, again_eq⟩ :=
        read_text_indefinite isLetter writable textNoUnderscore span
      exact ⟨fun _ => id, fun _ => ⟨again, readsText, stripped_eq_of_bare_eq again_eq⟩⟩
    · simp only [literals, List.forall_mem_append] at finite
      obtain ⟨⟨lowerFinite, upperFinite⟩, bodyFinite⟩ := finite
      have lowerWritable := Writable.of_readRegion readsLower lowerFinite
      have upperWritable := Writable.of_readRegion readsUpper upperFinite
      have writable := Writable.of_readRegion readsBody bodyFinite
      constructor
      · rintro ⟨again, readsText, -⟩ integralAbove
        exact not_read_text_definite isLetter lowerWritable upperWritable writable integralAbove
          span _ again readsText
      · exact fun noIntegral => read_text_definite isLetter lowerWritable upperWritable writable
          noIntegral span

/-- An integral whose bounds are a sum and a signed number is read back, with parentheses around
them. -/
theorem literal_reads_back_bounds :
    ∃ expr again, readIntegral? "∫_x+1^-y x dx".toList 1 = some (.ok expr)
      ∧ read expr.text 2 = .ok again ∧ again.stripped = expr.stripped := by
  have reads : readIntegral? "∫_x+1^-y x dx".toList 1 = some (.ok
      (.definite "x" (.binary .plus (.symbol "x" ⟨4, 5⟩) (.number 1 ⟨6, 7⟩) ⟨4, 7⟩)
        (.unary .minus (.symbol "y" ⟨9, 10⟩) ⟨8, 10⟩) (.symbol "x" ⟨11, 12⟩) ⟨0, 15⟩)) := by
    rfl
  have finite : ∀ value ∈ ([1] : List Float), value.isFinite := by
    intro value member
    obtain rfl := List.mem_singleton.1 member
    rfl
  obtain ⟨again, readsText, same⟩ := (literal_reads_back_iff (.inr reads) finite).2 id
  exact ⟨_, again, reads, readsText, same⟩

/-- An integral with an integral above is read, and its text is refused. -/
theorem refuses_text_of_integral_above :
    ∃ expr, readIntegral? "∫_a^∫(x)dx x dx".toList defaultCeiling = some (.ok expr)
      ∧ (∀ value ∈ expr.literals, value.isFinite)
      ∧ read expr.text (defaultCeiling + 1) = .error (.within ⟨12, 12⟩ .missingDifferential)
      ∧ ¬ ∃ again, read expr.text (defaultCeiling + 1) = .ok again
        ∧ again.stripped = expr.stripped := by
  have reads : readIntegral? "∫_a^∫(x)dx x dx".toList defaultCeiling = some (.ok
      (.definite "x" (.symbol "a" ⟨4, 5⟩)
        (.indefinite "x" (.paren (.symbol "x" ⟨10, 11⟩) ⟨9, 12⟩) ⟨6, 14⟩) (.symbol "x" ⟨15, 16⟩)
        ⟨0, 19⟩)) := by
    rfl
  have refused : read "∫_a^∫(x) dx x dx" (defaultCeiling + 1)
      = .error (.within ⟨12, 12⟩ .missingDifferential) := by
    rfl
  refine ⟨_, reads, by simp [literals], refused, ?_⟩
  rintro ⟨again, readsText, -⟩
  have refusedText := refused.symm.trans readsText
  contradiction

end Expr

end Workings
