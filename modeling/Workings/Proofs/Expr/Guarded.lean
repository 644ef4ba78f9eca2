import Mathlib.Data.List.TakeWhile
import Workings.Expr.Guarded
import Workings.Proofs.Expr.Walk

/-!
# Reading with guarded positions is reading

Every position at which a text is taken apart is the length of the characters in front of it, so
that it lies between characters, and is far from the end of its range in a text of less than two
gibibytes. What is taken apart by positions is what is split as text, and no computation breaks
off, whatever the text says and however many levels may nest in it.
-/

namespace Workings.Expr

/-! ## Regions -/

/-- Reading a region of a short text is reading the passage there. -/
theorem guardedRegion_eq {source part : List Char} {start stop : Nat}
    (passage : Passage source start part) (stop_eq : stop = start + byteLength part)
    (short : byteLength source < 2 ^ 31) (ceiling : Nat) :
    guardedRegion source ceiling ⟨start, stop⟩
      = ExceptT.mk (.ok (readRegion start part ceiling)) := by
  have part_le := passage.le
  rw [guardedRegion, Token.scanRegion?_eq passage stop_eq short, readRegion, ← stop_eq]
  cases scanned : Token.scan? start part with
  | error fault => rfl
  | ok tokens =>
    have length_le := (Lexer.standing_of_scan? passage scanned).length_le
    have legible := Lexer.legible_of_scan? passage short scanned
    have firm : Ground.Firm ⟨tokens, ⟨stop, ceiling⟩⟩ :=
      ⟨show tokens.length < 2 ^ 31 by omega, legible⟩
    exact Walk.run_whole firm

/-- A guarded computation that does not break off finds no fault. -/
theorem lift_bind {First Second : Type} {computation : Guarded First} {value : First}
    (succeeds : computation = .ok value) (next : First → Attempt Second) :
    (liftM computation : Attempt First) >>= next = next value := by
  subst succeeds
  rfl

/-- Attempts that do not break off find one after the other what is found by them. -/
theorem attempt_bind {First Second : Type} {first : Except Fault First}
    {next : First → Attempt Second} {goesOn : First → Except Fault Second}
    (next_eq : ∀ value, next value = ExceptT.mk (.ok (goesOn value))) :
    (ExceptT.mk (.ok first) : Attempt First) >>= next = ExceptT.mk (.ok (first >>= goesOn)) := by
  cases first with
  | error fault => rfl
  | ok value => exact next_eq value

/-- What is done with an expression that was found is done next, if one was found. -/
theorem map_eq_bind (wrap : Expr → Expr) (read : Except Fault Expr) :
    read.map wrap = (read >>= fun expr => pure (wrap expr)) := by
  cases read <;> rfl

/-! ## Derivatives -/

/-- A character is found behind the characters in front of its first occurrence. -/
theorem offset?_append {target : Char} {front : List Char} (absent : target ∉ front)
    (behind : List Char) :
    offset? target (front ++ target :: behind) = some (byteLength front) := by
  induction front with
  | nil => simp [offset?]
  | cons char rest hypothesis =>
    obtain ⟨isOther, others⟩ := not_or.1 (List.mem_cons.not.1 absent)
    simp [offset?, Ne.symm isOther, hypothesis others]

/-- A character that does not occur is not found. -/
theorem offset?_eq_none {target : Char} {chars : List Char} (absent : target ∉ chars) :
    offset? target chars = none := by
  induction chars with
  | nil => rfl
  | cons char rest hypothesis =>
    obtain ⟨isOther, others⟩ := not_or.1 (List.mem_cons.not.1 absent)
    simp [offset?, Ne.symm isOther, hypothesis others]

/-- Where a text is split behind one more character, the split is further right by it. -/
theorem map_byteLength_cons (offset : Nat) (char : Char)
    (split? : Option (List Char × List Char)) :
    (split?.map fun (front, behind) => (char :: front, behind)).map
        (fun (front, _) => offset + byteLength front)
      = split?.map fun (front, _) => offset + char.utf8Size + byteLength front := by
  cases split? <;> simp [Nat.add_assoc]

/-- The closing parenthesis is found behind what is split off in front of it. -/
theorem closingOffset?_eq (offset depth : Nat) (chars : List Char)
    (short : depth + byteLength chars < 2 ^ 31) :
    closingOffset? offset (depth + 1) chars
      = .ok ((splitClosing depth chars).map fun (inside, _) => offset + byteLength inside) := by
  have size_opening : '('.utf8Size = 1 := rfl
  fun_induction splitClosing depth chars generalizing offset with
  | case1 => rfl
  | case2 depth rest hypothesis =>
    rw [byteLength_cons] at short
    rw [closingOffset?, if_pos rfl, Guarded.add_eq (by omega), Guarded.ok_bind,
      hypothesis _ (by omega), map_byteLength_cons]
  | case3 rest =>
    rw [closingOffset?, if_neg (by decide), if_pos rfl, Guarded.subtract_eq (by omega)]
    rfl
  | case4 depth rest hypothesis =>
    rw [byteLength_cons] at short
    rw [closingOffset?, if_neg (by decide), if_pos rfl, Guarded.subtract_eq (by omega),
      Guarded.ok_bind, Nat.add_sub_cancel, if_neg (by omega), hypothesis _ (by omega),
      map_byteLength_cons]
  | case5 depth char rest noOpening noClosing noClosing' hypothesis =>
    have isOther : char ≠ ')' := by
      cases depth with
      | zero => exact noClosing rfl
      | succ depth => exact noClosing' depth rfl
    rw [byteLength_cons] at short
    rw [closingOffset?, if_neg noOpening, if_neg isOther, hypothesis _ (by omega),
      map_byteLength_cons]

/-- The parenthesis behind the first characters of a short text is closed behind what is split off
behind it. -/
theorem closing?_eq {front behind : List Char}
    (short : byteLength (front ++ '(' :: behind) < 2 ^ 31) :
    closing? (front ++ '(' :: behind) (byteLength front)
      = .ok ((splitClosing 0 behind).map fun (inside, _) =>
          byteLength front + 1 + byteLength inside) := by
  have size_opening : '('.utf8Size = 1 := rfl
  rw [byteLength_append, byteLength_cons] at short
  have offset_eq : closingOffset? 0 0 ('(' :: behind)
      = .ok ((splitClosing 0 behind).map fun (inside, _) => 1 + byteLength inside) := by
    rw [closingOffset?, if_pos rfl, Guarded.add_eq (by omega), Guarded.ok_bind,
      closingOffset?_eq _ 0 behind (by omega)]
    rfl
  rw [closing?, Guarded.cutFrom_append, Guarded.ok_bind, offset_eq, Guarded.ok_bind]
  cases split : splitClosing 0 behind with
  | none => rfl
  | some parts =>
    obtain ⟨inside, after⟩ := parts
    have behind_eq := of_splitClosing split
    rw [behind_eq, byteLength_append] at short
    dsimp only [Option.map_some]
    rw [Guarded.add_eq (by omega), Guarded.ok_bind, ← Nat.add_assoc]
    rfl

/-- Behind the operator of a derivative, a short text is taken apart at its first parenthesis. -/
theorem guardedDerivative?_opening {wrt behind : List Char} (absent : '(' ∉ wrt)
    (short : byteLength ('d' :: '/' :: 'd' :: (wrt ++ '(' :: behind)) < 2 ^ 31) (ceiling : Nat) :
    guardedDerivative? ('d' :: '/' :: 'd' :: (wrt ++ '(' :: behind)) ceiling
      = .ok (readDerivative? ('d' :: '/' :: 'd' :: (wrt ++ '(' :: behind)) ceiling) := by
  have front_eq : byteLength (['d', '/', 'd'] ++ wrt) = 3 + byteLength wrt := byteLength_append _ _
  have closes : closing? ('d' :: '/' :: 'd' :: (wrt ++ '(' :: behind))
      (byteLength (['d', '/', 'd'] ++ wrt))
      = .ok ((splitClosing 0 behind).map fun (inside, _) =>
          byteLength (['d', '/', 'd'] ++ wrt) + 1 + byteLength inside) := closing?_eq short
  have length_eq : byteLength ('d' :: '/' :: 'd' :: (wrt ++ '(' :: behind))
      = 3 + byteLength wrt + (1 + byteLength behind) := by
    rw [← front_eq]
    exact byteLength_append (['d', '/', 'd'] ++ wrt) ('(' :: behind)
  have passage : Passage ('d' :: '/' :: 'd' :: (wrt ++ '(' :: behind)) 3 (wrt ++ '(' :: behind) :=
    Passage.right ['d', '/', 'd'] (.whole _)
  have bodyPassage := (passage.right wrt).tail rfl
  rw [front_eq] at closes
  rw [readDerivative?, derivativeText_split?_opening absent, length_eq]
  simp only [guardedDerivative?, offset?_append absent,
    Guarded.add_eq (show 3 + byteLength wrt ≤ 0xffffffff by omega), Guarded.ok_bind,
    Guarded.cut_eq passage.left rfl]
  by_cases identifier : isIdentifier wrt
  · simp only [if_pos identifier]
    rw [closes, Guarded.ok_bind]
    cases split : splitClosing 0 behind with
    | none => rfl
    | some parts =>
      obtain ⟨inside, after⟩ := parts
      obtain rfl := of_splitClosing split
      have behind_eq : byteLength (inside ++ ')' :: after)
          = byteLength inside + (1 + byteLength after) := byteLength_append _ _
      dsimp only [Option.map_some]
      rw [length_eq, behind_eq, Guarded.subtract_eq (by omega), Guarded.ok_bind]
      -- The parenthesis has to be closed by the last character.
      cases after with
      | nil =>
        rw [byteLength_nil] at behind_eq ⊢
        have regionRead := guardedRegion_eq bodyPassage.left
          (show 3 + byteLength wrt + (1 + (byteLength inside + (1 + 0))) - 1 = _ by omega) short
          ceiling
        rw [if_pos (by omega), Guarded.add_eq (by omega), Guarded.ok_bind, Guarded.ok_bind,
          regionRead]
        exact congrArg (Except.ok ∘ some) (map_eq_bind _ _)
      | cons char rest =>
        have size_pos := char.utf8Size_pos
        rw [byteLength_cons, if_neg (by omega)]
        rfl
  · simp only [if_neg identifier]
    rfl

/-- A short text that is one derivative is taken apart and read without breaking off, and any other
one is left alone. -/
theorem guardedDerivative?_eq {chars : List Char} (short : byteLength chars < 2 ^ 31)
    (ceiling : Nat) : guardedDerivative? chars ceiling = .ok (readDerivative? chars ceiling) := by
  by_cases operator : ∃ rest, chars = 'd' :: '/' :: 'd' :: rest
  · obtain ⟨rest, rfl⟩ := operator
    by_cases opens : '(' ∈ rest
    · obtain ⟨wrt, behind, rfl, absent⟩ := List.eq_append_cons_of_mem opens
      exact guardedDerivative?_opening absent short ceiling
    · have noOpening : rest.dropWhile (· ≠ '(') = [] := by
        rw [List.dropWhile_eq_nil_iff]
        intro char member
        exact decide_eq_true fun same => opens (same ▸ member)
      have notSplit : DerivativeText.split? ('d' :: '/' :: 'd' :: rest) = none := by
        simp only [DerivativeText.split?, noOpening]
      simp only [guardedDerivative?, offset?_eq_none opens, readDerivative?, notSplit]
      rfl
  · have notSplit : DerivativeText.split? chars = none := by
      unfold DerivativeText.split?
      split
      · exact absurd ⟨_, rfl⟩ operator
      · rfl
    rw [readDerivative?, notSplit]
    unfold guardedDerivative?
    split
    · exact absurd ⟨_, rfl⟩ operator
    · rfl

/-! ## Integrals -/

/-- What the parentheses of a text can bring a count to stays in its range. -/
structure Countable (depth : Int) (chars : List Char) : Prop where
  low : -2 ^ 31 ≤ depth - byteLength chars
  high : depth + byteLength chars < 2 ^ 31

/-- Behind the caret, the blank is found in front of which the upper bound is split off. -/
theorem seams_behind {start offset caret : Nat} {depth : Int} {chars : List Char}
    (begins : caret + 1 ≤ start + offset) (short : start + offset + byteLength chars < 2 ^ 31)
    (countable : Countable depth chars) :
    seams start offset depth (some caret) chars
      = .ok (some caret, (splitBlank (caret + 1 < start + offset) depth chars).map
          fun (upper, _) => start + offset + byteLength upper) := by
  induction chars generalizing offset depth with
  | nil => rfl
  | cons char rest hypothesis =>
    have size_pos := char.utf8Size_pos
    obtain ⟨low, high⟩ := countable
    rw [byteLength_cons] at short low high
    push_cast at low high
    have begun : caret + 1 < start + (offset + char.utf8Size) := by omega
    have goesOn : ∀ {depth : Int}, Countable depth rest →
        seams start (offset + char.utf8Size) depth (some caret) rest
          = .ok (some caret, (splitBlank true depth rest).map
              fun (upper, _) => start + offset + char.utf8Size + byteLength upper) := by
      intro depth countable
      rw [hypothesis (by omega) (by omega) countable, decide_eq_true begun]
      simp only [Nat.add_assoc]
    -- A parenthesis is neither a caret nor a blank, so it is counted in either reading.
    rw [seams, Guarded.add_eq (by omega), Guarded.ok_bind, splitBlank]
    by_cases opening : char = '('
    · have noBlank : Text.isBlank '(' = false := by decide
      simp only [opening, noBlank, if_true, Bool.false_eq_true, false_and, if_false,
        map_byteLength_cons]
      rw [← opening, Guarded.countUp_eq (by omega)]
      exact goesOn ⟨by omega, by omega⟩
    by_cases closing : char = ')'
    · have noBlank : Text.isBlank ')' = false := by decide
      simp only [closing, noBlank, if_true, Bool.false_eq_true, false_and, if_false,
        map_byteLength_cons, show ¬ (')' = '(') by decide]
      rw [← closing, Guarded.countDown_eq (by omega)]
      exact goesOn ⟨by omega, by omega⟩
    have same := goesOn (Countable.mk (by omega) (by omega) : Countable depth rest)
    simp only [if_neg opening, if_neg closing, Option.isNone_some, Bool.false_eq_true, and_false,
      if_false, decide_eq_true_eq]
    by_cases blank : Text.isBlank char ∧ depth = 0
    · rw [if_pos blank, Guarded.add_eq (by omega), Guarded.ok_bind]
      by_cases seen : caret + 1 < start + offset
      · rw [if_pos seen, if_pos ⟨blank.1, blank.2, seen⟩]
        rfl
      · rw [if_neg seen, if_neg fun seam => seen seam.2.2, map_byteLength_cons]
        exact same
    · rw [if_neg blank, if_neg fun seam => blank ⟨seam.1, seam.2.1⟩, map_byteLength_cons]
      exact same

/-- In front of the caret, no blank is looked for. -/
theorem seams_before {start offset : Nat} {depth : Int} {chars : List Char}
    (short : start + offset + byteLength chars < 2 ^ 31) (countable : Countable depth chars) :
    seams start offset depth none chars
      = match splitCaret depth chars with
        | none => .ok (none, none)
        | some (lower, behind) =>
          seams start (offset + byteLength lower + 1) 0 (some (start + offset + byteLength lower))
            behind := by
  induction chars generalizing offset depth with
  | nil => rfl
  | cons char rest hypothesis =>
    have size_pos := char.utf8Size_pos
    obtain ⟨low, high⟩ := countable
    rw [byteLength_cons] at short low high
    push_cast at low high
    have goesOn : ∀ {depth : Int}, Countable depth rest →
        seams start (offset + char.utf8Size) depth none rest
          = match (splitCaret depth rest).map fun (bound, after) => (char :: bound, after) with
            | none => .ok (none, none)
            | some (lower, behind) =>
              seams start (offset + byteLength lower + 1) 0
                (some (start + offset + byteLength lower)) behind := by
      intro depth countable
      rw [hypothesis (by omega) countable]
      cases splitCaret depth rest with
      | none => rfl
      | some parts => simp only [Option.map_some, byteLength_cons, Nat.add_assoc]
    rw [seams, Guarded.add_eq (by omega), Guarded.ok_bind, splitCaret]
    by_cases opening : char = '('
    · have noCaret : ¬ (char = '^' ∧ depth = 0) := by simp [opening]
      rw [if_pos opening, if_neg noCaret, Guarded.countUp_eq (by omega)]
      simp only [if_pos opening]
      exact goesOn ⟨by omega, by omega⟩
    by_cases closing : char = ')'
    · have noCaret : ¬ (char = '^' ∧ depth = 0) := by simp [closing]
      rw [if_neg opening, if_pos closing, if_neg noCaret, Guarded.countDown_eq (by omega)]
      simp only [if_neg opening, if_pos closing]
      exact goesOn ⟨by omega, by omega⟩
    have same := goesOn (Countable.mk (by omega) (by omega) : Countable depth rest)
    rw [if_neg opening, if_neg closing]
    simp only [if_neg opening, if_neg closing, Option.isNone_none, and_true]
    by_cases caret : char = '^' ∧ depth = 0
    · have size_caret : '^'.utf8Size = 1 := rfl
      rw [if_pos caret, if_pos caret, caret.1, caret.2, size_caret]
      rfl
    · rw [if_neg caret, if_neg caret, ite_self]
      exact same

/-- Bounds that are split as text are found by their caret and their blank, and where they are not,
no blank is found. -/
theorem seams_eq {start : Nat} {chars : List Char} (short : start + byteLength chars < 2 ^ 31) :
    match BoundedText.split? chars with
    | none => ∃ caret?, seams start 0 0 none chars = .ok (caret?, none)
    | some ⟨lower, upper, _⟩ =>
      seams start 0 0 none chars = .ok (some (start + byteLength lower),
        some (start + byteLength lower + 1 + byteLength upper)) := by
  have countable : Countable 0 chars := ⟨by omega, by omega⟩
  rw [seams_before (by omega) countable, BoundedText.split?]
  cases splitLower : splitCaret 0 chars with
  | none => exact ⟨none, rfl⟩
  | some parts =>
    obtain ⟨lower, behind⟩ := parts
    have size_caret : '^'.utf8Size = 1 := rfl
    have chars_eq := of_splitCaret splitLower
    rw [chars_eq, byteLength_append, byteLength_cons, size_caret] at short
    have begins : start + 0 + byteLength lower + 1 ≤ start + (0 + byteLength lower + 1) := by omega
    have behindCountable : Countable 0 behind := ⟨by omega, by omega⟩
    have upperSeams := seams_behind begins (by omega) behindCountable
    have first : decide (start + 0 + byteLength lower + 1 < start + (0 + byteLength lower + 1))
        = false := decide_eq_false (by omega)
    rw [first] at upperSeams
    dsimp only [Option.bind_eq_bind, Option.bind_some]
    rw [upperSeams]
    cases splitBlank false 0 behind with
    | none => exact ⟨_, rfl⟩
    | some parts =>
      simp [Nat.add_assoc]

/-- The bounds and the body of an integral are found behind the underscore and read without breaking
off. -/
theorem guardedBounded_eq {source indent chars : List Char} {stop : Nat}
    (passage : Passage source signLength (indent ++ '_' :: chars)) (absent : '_' ∉ indent)
    (stop_eq : stop = signLength + byteLength indent + 1 + byteLength chars)
    (short : byteLength source < 2 ^ 31) (wrt : Char) (span : Span) (ceiling : Nat) :
    guardedBounded wrt source ⟨signLength, stop⟩ span ceiling
      = ExceptT.mk (.ok (readBounded wrt indent chars span ceiling)) := by
  have boundsPassage : Passage source (signLength + byteLength indent + 1) chars :=
    (passage.right indent).tail rfl
  have chars_le := boundsPassage.le
  have regionStop : stop = signLength + byteLength (indent ++ '_' :: chars) := by
    have length_eq : byteLength ('_' :: chars) = 1 + byteLength chars := rfl
    rw [stop_eq, byteLength_append, length_eq]
    omega
  rw [guardedBounded, lift_bind (Guarded.cut_eq passage regionStop), offset?_append absent]
  dsimp only
  rw [lift_bind (Guarded.add_eq (by omega)), lift_bind (Guarded.add_eq (by omega)),
    lift_bind (Guarded.cut_eq boundsPassage stop_eq), readBounded]
  have seamsShort : signLength + byteLength indent + 1 + byteLength chars < 2 ^ 31 := by omega
  have found := seams_eq seamsShort
  cases split : BoundedText.split? chars with
  | none =>
    rw [split] at found
    obtain ⟨caret?, seams_eq⟩ := found
    rw [lift_bind seams_eq, stop_eq]
    cases caret? <;> rfl
  | some parts =>
    obtain ⟨lower, upper, body⟩ := parts
    obtain rfl := of_boundedText_split? split
    have upperPassage := (boundsPassage.right lower).tail rfl
    have bodyPassage := upperPassage.right upper
    have upper_le := upperPassage.le
    have behind_eq : byteLength (lower ++ '^' :: (upper ++ body))
        = byteLength lower + (1 + (byteLength upper + byteLength body)) := by
      rw [← byteLength_append upper]
      exact byteLength_append _ _
    rw [split] at found
    rw [lift_bind found]
    dsimp only
    rw [guardedRegion_eq boundsPassage.left rfl short]
    refine attempt_bind fun lowerExpr => ?_
    rw [lift_bind (Guarded.add_eq (by omega)), guardedRegion_eq upperPassage.left rfl short]
    refine attempt_bind fun upperExpr => ?_
    rw [guardedRegion_eq bodyPassage (by omega) short]
    exact attempt_bind fun bodyExpr => rfl

/-- Letters take one byte. -/
theorem utf8Size_of_isLetter {letter : Char} (isLetter : Lexer.isLetter letter) :
    letter.utf8Size = 1 := by
  have le : letter ≤ 'z' := by
    simp only [Lexer.isLetter, Bool.or_eq_true, Bool.and_eq_true, decide_eq_true_eq] at isLetter
    rcases isLetter with ⟨-, le⟩ | ⟨-, le⟩
    · exact le
    · exact Nat.le_trans (show letter.toNat ≤ 'Z'.toNat from le) (by decide)
  have plain : letter.val ≤ 0x7f := UInt32.le_trans le (by decide)
  exact if_pos plain

/-- A text of two bytes that is a differential is the letter `d` and another letter. -/
theorem of_differential? {tail : List Char} {wrt : Char} (length_eq : byteLength tail = 2)
    (found : differential? tail = some wrt) : tail = ['d', wrt] ∧ Lexer.isLetter wrt := by
  unfold differential? at found
  split at found
  · rename_i letter rest
    split_ifs at found with isLetter
    obtain rfl := Option.some.inj found
    have size_pos := letter.utf8Size_pos
    have size_d : 'd'.utf8Size = 1 := rfl
    rw [byteLength_cons, byteLength_cons, size_d] at length_eq
    cases rest with
    | nil => exact ⟨rfl, isLetter⟩
    | cons char rest =>
      have size_pos := char.utf8Size_pos
      rw [byteLength_cons] at length_eq
      omega
  · contradiction

/-- The differential of an integral is found in the last two bytes of its text. -/
theorem differential?_cut? {body : List Char} {wrt : Char} :
    (Guarded.cut? ('∫' :: body)
        ⟨signLength + byteLength body - 2, signLength + byteLength body⟩).bind differential?
        = some wrt
      ↔ (∃ front, body = front ++ ['d', wrt]) ∧ Lexer.isLetter wrt := by
  have size_sign : signLength = 3 := rfl
  rw [Option.bind_eq_some_iff]
  constructor
  · rintro ⟨tail, cuts, found⟩
    obtain ⟨⟨before, behind, source_eq, start_eq⟩, stop_eq⟩ := Guarded.cut?_eq_some_iff.1 cuts
    dsimp only at start_eq stop_eq
    obtain ⟨rfl, isLetter⟩ := of_differential? (by omega) found
    refine ⟨?_, isLetter⟩
    have total := congrArg byteLength source_eq
    rw [byteLength_cons, byteLength_append, byteLength_append, ← signLength] at total
    obtain rfl : behind = [] := by
      by_contra nonempty
      have positive := Lexer.byteLength_pos nonempty
      omega
    cases before with
    | nil =>
      rw [byteLength_nil] at start_eq
      omega
    | cons char front => exact ⟨front, by simpa using (List.cons.inj source_eq).2⟩
  · rintro ⟨⟨front, rfl⟩, isLetter⟩
    have tail_eq : byteLength ['d', wrt] = 2 := by
      rw [byteLength_cons, byteLength_cons, byteLength_nil, utf8Size_of_isLetter isLetter]
      rfl
    have passage : Passage ('∫' :: (front ++ ['d', wrt])) (signLength + byteLength front)
        ['d', wrt] := Passage.right front (Passage.right ['∫'] (.whole _))
    refine ⟨['d', wrt], Guarded.cut?_eq_some_iff.2 ?_, by rw [differential?, if_pos isLetter]⟩
    rw [byteLength_append, tail_eq, ← Nat.add_assoc, Nat.add_sub_cancel]
    exact ⟨passage, rfl⟩

/-- Only blanks are taken off the end of a text. -/
theorem trimEnd_append (chars : List Char) : ∃ blanks, chars = trimEnd chars ++ blanks := by
  have parts := List.takeWhile_append_dropWhile (p := Text.isBlank) (l := chars.reverse)
  have reversed := congrArg List.reverse parts
  rw [List.reverse_append, List.reverse_reverse] at reversed
  exact ⟨_, reversed.symm⟩

/-- A text is split in front of the blanks before its differential, if there are any. -/
theorem integralText_split?_append {front blanks : List Char} {wrt : Char}
    (front_eq : front = trimEnd front ++ blanks) (isLetter : Lexer.isLetter wrt) :
    IntegralText.split? ('∫' :: (front ++ ['d', wrt]))
      = if blanks = [] then none else some ⟨wrt, trimEnd front⟩ := by
  have reverse_eq : (front ++ ['d', wrt]).reverse = wrt :: 'd' :: front.reverse := by simp
  have shorter_iff : (trimEnd front).length < front.reverse.length ↔ blanks ≠ [] := by
    have length_eq := congrArg List.length front_eq
    rw [List.length_append] at length_eq
    rw [List.length_reverse, ← List.length_pos_iff]
    omega
  have body_eq : (front.reverse.dropWhile Text.isBlank).reverse = trimEnd front := rfl
  simp only [IntegralText.split?, reverse_eq, isLetter, Bool.true_and, decide_eq_true_eq, body_eq,
    shorter_iff, ite_not]

/-- A body behind the integral sign of a short text is read without breaking off. -/
theorem guardedBody_eq {source body : List Char} {stop : Nat}
    (passage : Passage source signLength body) (stop_eq : stop = signLength + byteLength body)
    (short : byteLength source < 2 ^ 31) (wrt : Char) (ceiling : Nat) :
    guardedBody wrt source ⟨signLength, stop⟩ ceiling
      = ExceptT.mk (.ok <| match body.dropWhile Text.isBlank with
        | '_' :: behind =>
          readBounded wrt (body.takeWhile Text.isBlank) behind ⟨0, byteLength source⟩ ceiling
        | _ => do
          let inner ← readRegion signLength body ceiling
          return .indefinite (String.singleton wrt) inner ⟨0, byteLength source⟩) := by
  have parts := List.takeWhile_append_dropWhile (p := Text.isBlank) (l := body)
  have noUnderscore : '_' ∉ body.takeWhile Text.isBlank := by
    intro member
    exact absurd (List.all_eq_true.1 List.all_takeWhile '_' member) (by decide)
  rw [guardedBody, lift_bind (Guarded.cut_eq passage stop_eq)]
  split
  · rename_i begins
    obtain ⟨behind, drop_eq⟩ := List.head?_eq_some_iff.1 begins
    have length_eq := congrArg byteLength parts
    have behind_eq : byteLength ('_' :: behind) = 1 + byteLength behind := rfl
    rw [drop_eq, byteLength_append, behind_eq] at length_eq
    rw [← parts, drop_eq] at passage
    rw [drop_eq]
    exact guardedBounded_eq passage noUnderscore (by omega) short wrt _ ceiling
  · rename_i noBounds
    split
    · rename_i behind drop_eq
      exact absurd (by rw [drop_eq]; rfl) noBounds
    · rw [guardedRegion_eq passage stop_eq short]
      exact attempt_bind fun inner => rfl

/-- In a short text that ends with a differential, an integral is taken apart and read without
breaking off. -/
theorem guardedIntegral?_append {front : List Char} {wrt : Char} (isLetter : Lexer.isLetter wrt)
    (short : byteLength ('∫' :: (front ++ ['d', wrt])) < 2 ^ 31) (ceiling : Nat) :
    guardedIntegral? ('∫' :: (front ++ ['d', wrt])) ceiling
      = .ok (readIntegral? ('∫' :: (front ++ ['d', wrt])) ceiling) := by
  obtain ⟨blanks, front_eq⟩ := trimEnd_append front
  have size_sign : signLength = 3 := rfl
  have body_eq : byteLength (front ++ ['d', wrt]) = byteLength front + 2 := by
    rw [byteLength_append, byteLength_cons, byteLength_cons, utf8Size_of_isLetter isLetter]
    rfl
  have whole_eq : byteLength ('∫' :: (front ++ ['d', wrt]))
      = signLength + byteLength front + 2 := by
    rw [byteLength_cons, body_eq, signLength, Nat.add_assoc]
  have tail := differential?_cut?.2 ⟨⟨front, rfl⟩, isLetter⟩
  rw [body_eq, ← Nat.add_assoc, Nat.add_sub_cancel] at tail
  have frontCut : Guarded.cut? (front ++ ['d', wrt]) ⟨0, byteLength front⟩ = some front :=
    Guarded.cut?_eq_some_iff.2 ⟨(Passage.whole _).left, (Nat.zero_add _).symm⟩
  have length_eq := congrArg byteLength front_eq
  rw [byteLength_append] at length_eq
  have passage : Passage ('∫' :: (front ++ ['d', wrt])) signLength (trimEnd front ++ blanks) := by
    rw [← front_eq]
    exact (Passage.right ['∫'] (.whole _)).left
  have bodyRead := guardedBody_eq passage.left rfl short wrt ceiling
  rw [whole_eq] at short
  rw [readIntegral?, integralText_split?_append front_eq isLetter]
  -- What is left is whether any blanks stand between the body and the differential.
  simp only [guardedIntegral?, whole_eq, body_eq, Guarded.ok_bind, frontCut,
    Guarded.subtract_eq (show 2 ≤ signLength + byteLength front + 2 by omega),
    Guarded.subtract_eq (show 2 ≤ byteLength front + 2 by omega), Nat.add_sub_cancel,
    Guarded.add_eq (show signLength + byteLength (trimEnd front) ≤ 0xffffffff by omega)]
  rw [tail]
  dsimp only
  by_cases none_left : blanks = []
  · have same : byteLength (trimEnd front) = byteLength front := by
      rw [length_eq, none_left, byteLength_nil, Nat.add_zero]
    rw [if_pos none_left, if_pos (congrArg (signLength + ·) same)]
    rfl
  · have positive := Lexer.byteLength_pos none_left
    rw [if_neg none_left, if_neg (by omega), bodyRead, whole_eq]
    rfl

/-- A text that does not end with a differential is no integral. -/
theorem integralText_split?_eq_none {body : List Char}
    (noDifferential : ¬ ∃ wrt, (∃ front, body = front ++ ['d', wrt]) ∧ Lexer.isLetter wrt) :
    IntegralText.split? ('∫' :: body) = none := by
  cases split : IntegralText.split? ('∫' :: body) with
  | none => rfl
  | some parts =>
    obtain ⟨⟨blanks, chars_eq, -⟩, isLetter, -⟩ := integralText_split?_iff.1 split
    refine absurd ⟨parts.wrt, ⟨parts.body ++ blanks, ?_⟩, isLetter⟩ noDifferential
    rw [(List.cons.inj chars_eq).2, List.append_assoc]

/-- A short text that is one integral is taken apart and read without breaking off, and any other
one is left alone. -/
theorem guardedIntegral?_eq {chars : List Char} (short : byteLength chars < 2 ^ 31)
    (ceiling : Nat) : guardedIntegral? chars ceiling = .ok (readIntegral? chars ceiling) := by
  by_cases sign : ∃ body, chars = '∫' :: body
  · obtain ⟨body, rfl⟩ := sign
    by_cases differential : ∃ wrt, (∃ front, body = front ++ ['d', wrt]) ∧ Lexer.isLetter wrt
    · obtain ⟨wrt, ⟨front, rfl⟩, isLetter⟩ := differential
      exact guardedIntegral?_append isLetter short ceiling
    · have noTail : (Guarded.cut? ('∫' :: body)
          ⟨signLength + byteLength body - 2, signLength + byteLength body⟩).bind differential?
          = none := by
        rw [Option.eq_none_iff_forall_ne_some]
        exact fun wrt found => differential ⟨wrt, differential?_cut?.1 found⟩
      have size_sign : signLength = 3 := rfl
      have length_eq : byteLength ('∫' :: body) = signLength + byteLength body := rfl
      rw [readIntegral?, integralText_split?_eq_none differential]
      simp only [guardedIntegral?, length_eq, Guarded.ok_bind,
        Guarded.subtract_eq (show 2 ≤ signLength + byteLength body by omega)]
      rw [noTail]
      rfl
  · have notSplit : IntegralText.split? chars = none := by
      unfold IntegralText.split?
      split
      · exact absurd ⟨_, rfl⟩ sign
      · rfl
    rw [readIntegral?, notSplit]
    unfold guardedIntegral?
    split
    · exact absurd ⟨_, rfl⟩ sign
    · rfl

/-! ## Whole texts -/

/-- In a text of less than two gibibytes every region is cut out between characters and no number
leaves its range, whatever the text says and whatever the ceiling is: an expression is found, or a
fault, and it is the one that reading finds. -/
theorem guardedRead_eq (source : String) (short : byteLength source.toList < 2 ^ 31)
    (ceiling : Nat) : guardedRead source ceiling = .ok (read source ceiling) := by
  have regionRead := guardedRegion_eq (.whole source.toList) (Nat.zero_add _).symm short ceiling
  rw [guardedRead, read, guardedDerivative?_eq short, Guarded.ok_bind]
  cases readDerivative? source.toList ceiling with
  | some result => rfl
  | none =>
    dsimp only
    rw [guardedIntegral?_eq short, Guarded.ok_bind]
    cases readIntegral? source.toList ceiling with
    | some result => rfl
    | none => exact regionRead

/-- Bounds whose parentheses close before they open, with a letter of two bytes between them. -/
theorem guardedRead_eq_unbalanced :
    byteLength "∫_)é^( dx".toList < 2 ^ 31
      ∧ guardedRead "∫_)é^( dx" 0 = .ok (.error (.within ⟨3, 9⟩ (.endsEarly .bounds))) := by
  have short : byteLength "∫_)é^( dx".toList < 2 ^ 31 := by decide
  have reads : read "∫_)é^( dx" 0 = .error (.within ⟨3, 9⟩ (.endsEarly .bounds)) := rfl
  exact ⟨short, (guardedRead_eq _ short 0).trans (congrArg Except.ok reads)⟩

end Workings.Expr
