import Workings.Proofs.Expr.LiteralForms
import Workings.Proofs.Token.Standing

/-!
# The regions of expressions and of faults

The region of an expression that was read begins and ends between characters and holds the regions
of its parts, which stand in it one behind the other. A text that is not read has one region that
its fault points at.
-/

namespace Workings

namespace Expr

/-! ## Trees in their text -/

/-- The expressions right below the top of an expression, in the order they are written in. -/
def parts : Expr → List Expr
  | .number _ _ | .symbol _ _ => []
  | .paren inner _ => [inner]
  | .call _ _ argument _ _ => [argument]
  | .unary _ operand _ => [operand]
  | .binary _ left right _ => [left, right]
  | .derivative _ body _ => [body]
  | .indefinite _ body _ => [body]
  | .definite _ lower upper body _ => [lower, upper, body]

/-- The name and the parentheses of a call stand side by side and make up the call, and its argument
stands between the parentheses. -/
structure JoinsCall (chars : List Char) (name argument parens call : Span) : Prop where
  nameRegion : name.IsFilled chars
  parensRegion : parens.IsFilled chars
  begins : name.start = call.start
  adjacent : name.stop = parens.start
  ends : parens.stop = call.stop
  inside : argument.Inside parens

/-- The regions at the top of an expression: its own, those right below it, and those of a call. -/
structure Seated (chars : List Char) (expr : Expr) : Prop where
  region : expr.span.IsFilled chars
  inside : ∀ part ∈ expr.parts, part.span.Inside expr.span
  ordered : expr.parts.Pairwise fun left right => left.span.stop ≤ right.span.start
  joined : ∀ function functionSpan argument parens span,
    expr = .call function functionSpan argument parens span →
      JoinsCall chars functionSpan argument.span parens span

/-- The regions of all the nodes of an expression. -/
inductive Laid (chars : List Char) : Expr → Prop where
  | node {expr : Expr} (seated : expr.Seated chars) (parts : ∀ part ∈ expr.parts, Laid chars part) :
      Laid chars expr

/-- The region of an expression. -/
theorem Laid.region {chars : List Char} {expr : Expr} (laid : expr.Laid chars) :
    expr.span.IsFilled chars := by
  cases laid with
  | node seated => exact seated.region

/-- The regions of an expression that is no call are those of its parts and its own. -/
theorem Laid.of_parts {chars : List Char} {expr : Expr} (region : expr.span.IsFilled chars)
    (parts : ∀ part ∈ expr.parts, part.Laid chars ∧ part.span.Inside expr.span)
    (ordered : expr.parts.Pairwise fun left right => left.span.stop ≤ right.span.start)
    (noCall : ∀ function functionSpan argument parens span,
      expr ≠ .call function functionSpan argument parens span) : expr.Laid chars :=
  .node ⟨region, fun part isPart => (parts part isPart).2, ordered,
    fun _ _ _ _ _ isCall => absurd isCall (noCall _ _ _ _ _)⟩
    fun part isPart => (parts part isPart).1

/-- The region of an expression without parts is its own. -/
theorem Laid.leaf {chars : List Char} {expr : Expr} (region : expr.span.IsFilled chars)
    (noParts : expr.parts = [])
    (noCall : ∀ function functionSpan argument parens span,
      expr ≠ .call function functionSpan argument parens span) : expr.Laid chars :=
  .of_parts region (by simp [noParts]) (by simp [noParts]) noCall

end Expr

namespace Standing

variable {chars : List Char} {stop start : Nat} {tokens : List Token}

/-- The operator that is found stands first. -/
theorem of_operator? {level : Precedence} {op : BinaryOp} {span : Span}
    {following : List Token} (standing : Standing chars stop start tokens)
    (found : Reader.operator? level tokens = some (op, span, following)) :
    start ≤ span.start ∧ span.IsFilled chars ∧ Standing chars stop span.stop following := by
  obtain ⟨token, rfl, -, -, rfl⟩ := Reader.of_operator? found
  cases standing with
  | cons le stands _ others => exact ⟨le, stands.region, others⟩

/-- The sign that is found stands first. -/
theorem of_sign? {op : UnaryOp} {span : Span} {following : List Token}
    (standing : Standing chars stop start tokens)
    (found : Reader.sign? tokens = some (op, span, following)) :
    start ≤ span.start ∧ span.IsFilled chars ∧ Standing chars stop span.stop following := by
  cases tokens with
  | nil => contradiction
  | cons token rest =>
    simp only [Reader.sign?] at found
    split at found
    · obtain ⟨op', -, same⟩ := Option.map_eq_some_iff.1 found
      simp only [Prod.mk.injEq] at same
      obtain ⟨-, rfl, rfl⟩ := same
      cases standing with
      | cons le stands _ others => exact ⟨le, stands.region, others⟩
    · contradiction

end Standing

namespace Reader

/-! ## What readers settle -/

/-- A computation finds what it should, or fails at one region of the text. -/
def Settles {α : Type} (chars : List Char) (good : α → Prop) : Except Fault α → Prop
  | .ok value => good value
  | .error fault => ∃ span, fault.spans = [span] ∧ span.IsRegion chars

/-- A computation that goes on with what was found settles what comes of it. -/
theorem Settles.bind {α β : Type} {chars : List Char} {good : α → Prop} {goodNext : β → Prop}
    {first : Except Fault α} {next : α → Except Fault β} (settles : Settles chars good first)
    (goesOn : ∀ value, good value → Settles chars goodNext (next value)) :
    Settles chars goodNext (first >>= next) := by
  cases first with
  | ok value => exact goesOn value settles
  | error fault => exact settles

/-- A computation that finds more than it should settles that too. -/
theorem Settles.imp {α : Type} {chars : List Char} {good fair : α → Prop} {result : Except Fault α}
    (settles : Settles chars good result) (weaker : ∀ value, good value → fair value) :
    Settles chars fair result := by
  cases result with
  | ok value => exact weaker value settles
  | error fault => exact settles

/-- A fault at a region of the text settles everything. -/
theorem Settles.within {α : Type} {chars : List Char} {good : α → Prop} {span : Span}
    {cause : Cause} (region : span.IsRegion chars) :
    Settles (α := α) chars good (.error (.within span cause)) :=
  ⟨span, rfl, region⟩

/-- An expression that was taken off tokens which stand behind a position, and what is left. -/
structure Landed (chars : List Char) (stop start : Nat) (read : Expr × List Token) : Prop where
  laid : read.1.Laid chars
  start_le : start ≤ read.1.span.start
  rest : Standing chars stop read.1.span.stop read.2

/-- A reader takes expressions off tokens that stand in the text. -/
def Lands (chars : List Char) (stop : Nat) (reader : Reader Expr) : Prop :=
  ∀ ⦃start tokens⦄, Standing chars stop start tokens →
    Settles chars (Landed chars stop start) (reader tokens)

variable {chars : List Char} {stop ceiling start : Nat} {tokens : List Token}
  (ends : Between chars stop)

include ends

/-- A single token stands first, or the fault is where it should stand. -/
theorem settles_expect (standing : Standing chars stop start tokens) (kind : TokenKind)
    (expected : Expectation) :
    Settles chars (fun (token, rest) => tokens = token :: rest ∧ token.kind = kind)
      (expect ⟨stop, ceiling⟩ kind expected tokens) := by
  have next := standing.here ceiling ends
  cases tokens with
  | nil => exact .within next
  | cons token rest =>
    simp only [expect]
    split
    · exact ⟨rfl, by assumption⟩
    · exact .within next

/-! ## Chains -/

omit ends in
/-- Operands that an operator joins stand in the text as one. -/
theorem Landed.joined {left right : Expr} {rest : List Token} {middle : Nat} (op : BinaryOp)
    (leftLaid : left.Laid chars) (start_le : start ≤ left.span.start)
    (le_middle : left.span.stop ≤ middle) (landed : Landed chars stop middle (right, rest)) :
    Landed chars stop start
      (.binary op left right ⟨left.span.start, right.span.stop⟩, rest) := by
  obtain ⟨rightLaid, middle_le, rest⟩ := landed
  have leftRegion := leftLaid.region
  have rightRegion := rightLaid.region
  have between : left.span.stop ≤ right.span.start := Nat.le_trans le_middle middle_le
  have leftLt : left.span.start < left.span.stop := leftRegion.lt
  have rightLt : right.span.start < right.span.stop := rightRegion.lt
  refine ⟨.of_parts ⟨leftRegion.starts, rightRegion.stops, ?_⟩ ?_ (by simp [Expr.parts, between])
    (by simp), start_le, rest⟩
  · exact show left.span.start < right.span.stop by omega
  · simp only [Expr.parts, List.forall_mem_cons, List.not_mem_nil, false_imp_iff, implies_true,
      and_true]
    exact ⟨⟨leftLaid, ⟨Nat.le_refl _, show left.span.stop ≤ right.span.stop by omega⟩⟩,
      ⟨rightLaid, ⟨show left.span.start ≤ right.span.start by omega, Nat.le_refl _⟩⟩⟩

omit ends in
/-- Going on with a chain lands if its operands do. -/
theorem Lands.chainAfter {level : Precedence} {operand : Reader Expr}
    (lands : Lands chars stop operand) {budget height : Nat} {left : Expr}
    (leftLaid : left.Laid chars) (start_le : start ≤ left.span.start)
    (standing : Standing chars stop left.span.stop tokens) :
    Settles chars (Landed chars stop start)
      (chainAfter level operand budget left height tokens) := by
  induction budget generalizing left height tokens with
  | zero => exact ⟨leftLaid, start_le, standing⟩
  | succ budget hypothesis =>
    unfold Reader.chainAfter
    split
    · exact ⟨leftLaid, start_le, standing⟩
    · rename_i op span following found
      obtain ⟨le, region, others⟩ := standing.of_operator? found
      refine (lands others).bind fun (right, rest) landed => ?_
      dsimp only
      split
      · exact .within ⟨region.starts, region.stops, region.lt.le⟩
      · have joined := Landed.joined op leftLaid start_le
          (Nat.le_trans le region.lt.le) landed
        exact hypothesis joined.laid joined.start_le joined.rest

omit ends in
/-- A chain lands if its operands do. -/
theorem Lands.chain {level : Precedence} {operand : Reader Expr}
    (lands : Lands chars stop operand) : Lands chars stop (chain level operand) := by
  intro start tokens standing
  exact (lands standing).bind fun (first, rest) ⟨laid, start_le, restStanding⟩ =>
    lands.chainAfter laid start_le restStanding

/-! ## Forms that nest -/

/-- What was read between parentheses, the region of both, and what is left. -/
structure Enclosed (chars : List Char) (stop : Nat) (tokens : List Token)
    (read : (Expr × Span) × List Token) : Prop where
  begins : ∃ opening ∈ tokens.head?, read.1.2.start = opening.span.start
  region : read.1.2.IsFilled chars
  laid : read.1.1.Laid chars
  inside : read.1.1.span.Inside read.1.2
  rest : Standing chars stop read.1.2.stop read.2

variable {nested : Reader Expr} (lands : Lands chars stop nested)

include lands

/-- What stands between parentheses stands in their region. -/
theorem settles_parenthesized (standing : Standing chars stop start tokens) :
    Settles chars (Enclosed chars stop tokens)
      (parenthesized ⟨stop, ceiling⟩ nested tokens) := by
  refine (settles_expect ends standing _ _).bind fun (opening, behind) ⟨same, _⟩ => ?_
  subst same
  cases standing with
  | cons _ opens _ others =>
    refine (lands others).bind fun (inner, behindInner) ⟨laid, start_le, restStanding⟩ => ?_
    refine (settles_expect ends restStanding _ _).bind fun (closing, rest) ⟨same, _⟩ => ?_
    obtain rfl : behindInner = closing :: rest := same
    cases restStanding with
    | cons le closes _ others =>
      have openingLt := opens.region.lt
      have closingLt := closes.region.lt
      have innerLt : inner.span.start < inner.span.stop := laid.region.lt
      have opening_le : opening.span.stop ≤ inner.span.start := start_le
      have le_closing : inner.span.stop ≤ closing.span.start := le
      refine ⟨⟨opening, rfl, rfl⟩, ⟨opens.region.starts, closes.region.stops, ?_⟩, laid, ⟨?_, ?_⟩,
        others⟩
      · exact show opening.span.start < closing.span.stop by omega
      · exact show opening.span.start ≤ inner.span.start by omega
      · exact show inner.span.stop ≤ closing.span.stop by omega

/-- A call stands in the text. -/
theorem lands_call : Lands chars stop (call ⟨stop, ceiling⟩ nested) := by
  intro start tokens standing
  refine (settles_expect ends standing _ _).bind fun (function, behind) ⟨same, isFunction⟩ => ?_
  subst same
  cases standing with
  | cons le stands joined others =>
    refine (settles_parenthesized ends lands others).bind
      fun ((argument, parens), rest) enclosed => ?_
    obtain ⟨⟨opening, isNext, begins⟩, region, laid, inside, restStanding⟩ := enclosed
    have adjacent : function.span.stop = parens.start :=
      (joined isFunction opening isNext).symm.trans begins.symm
    have functionLt := stands.region.lt
    have parensLt : parens.start < parens.stop := region.lt
    have argumentIn : parens.start ≤ argument.span.start := inside.start_le
    refine ⟨.node ⟨⟨stands.region.starts, region.stops, ?_⟩, ?_, by simp [Expr.parts], ?_⟩ ?_, le,
      restStanding⟩
    · exact show function.span.start < parens.stop by omega
    · simp only [Expr.parts, List.mem_singleton, forall_eq]
      exact ⟨show function.span.start ≤ argument.span.start by omega, inside.le_stop⟩
    · rintro _ _ _ _ _ ⟨⟩
      exact ⟨stands.region, region, rfl, adjacent, rfl, inside⟩
    · simpa only [Expr.parts, List.mem_singleton, forall_eq] using laid

/-- Parentheses stand in the text. -/
theorem lands_paren : Lands chars stop (paren ⟨stop, ceiling⟩ nested) := by
  intro start tokens standing
  refine (settles_parenthesized ends lands standing).bind fun ((inner, span), rest) enclosed => ?_
  obtain ⟨⟨opening, isNext, begins⟩, region, laid, inside, restStanding⟩ := enclosed
  refine ⟨.of_parts region ?_ (by simp [Expr.parts]) (by simp), ?_, restStanding⟩
  · simpa only [Expr.parts, List.mem_singleton, forall_eq] using ⟨laid, inside⟩
  · cases standing with
    | nil => contradiction
    | cons le =>
      obtain rfl := Option.some.inj isNext
      exact Nat.le_trans le begins.ge

/-- A derivative stands in the text. -/
theorem lands_derivative : Lands chars stop (derivative ⟨stop, ceiling⟩ nested) := by
  intro start tokens standing
  refine (settles_expect ends standing _ _).bind fun (token, behind) ⟨same, _⟩ => ?_
  subst same
  cases standing with
  | cons le stands _ others =>
    refine (settles_parenthesized ends lands others).bind fun ((body, parens), rest) enclosed => ?_
    obtain ⟨⟨opening, isNext, begins⟩, region, laid, inside, restStanding⟩ := enclosed
    have behindToken : token.span.stop ≤ parens.start := by
      cases others with
      | nil => contradiction
      | cons behind =>
        obtain rfl := Option.some.inj isNext
        exact Nat.le_trans behind begins.ge
    have tokenLt := stands.region.lt
    have parensLt : parens.start < parens.stop := region.lt
    have bodyIn : parens.start ≤ body.span.start := inside.start_le
    refine ⟨.of_parts ⟨stands.region.starts, region.stops, ?_⟩ ?_ (by simp [Expr.parts])
      (by simp), le, restStanding⟩
    · exact show token.span.start < parens.stop by omega
    · simp only [Expr.parts, List.mem_singleton, forall_eq]
      exact ⟨laid, show token.span.start ≤ body.span.start by omega, inside.le_stop⟩

/-- An integral stands in the text. -/
theorem lands_integral : Lands chars stop (integral ⟨stop, ceiling⟩ nested) := by
  intro start tokens standing
  refine (settles_expect ends standing _ _).bind fun (token, behind) ⟨same, _⟩ => ?_
  subst same
  cases standing with
  | cons le stands _ others =>
    refine (lands_paren ends lands others).bind
      fun (body, behindBody) ⟨laid, start_le, restStanding⟩ => ?_
    have place := restStanding.here ceiling ends
    cases behindBody with
    | nil => exact .within place
    | cons next behindNext =>
      dsimp only
      split
      · cases restStanding with
        | cons le_next differential _ others =>
          have tokenLt := stands.region.lt
          have bodyLt : body.span.start < body.span.stop := laid.region.lt
          have differentialLt := differential.region.lt
          have token_le : token.span.stop ≤ body.span.start := start_le
          have body_le : body.span.stop ≤ next.span.start := le_next
          refine ⟨.of_parts ⟨stands.region.starts, differential.region.stops, ?_⟩ ?_
            (by simp [Expr.parts]) (by simp), le, others⟩
          · exact show token.span.start < next.span.stop by omega
          · simp only [Expr.parts, List.mem_singleton, forall_eq]
            exact ⟨laid, show token.span.start ≤ body.span.start by omega,
              show body.span.stop ≤ next.span.stop by omega⟩
      · exact .within place

omit lands

/-! ## Operands -/

/-- The readers for nested parts take what they read off tokens that stand in the text. -/
def DeeperLands (chars : List Char) (stop : Nat) (deeper : Option Deeper) : Prop :=
  ∀ readers ∈ deeper, Lands chars stop readers.power ∧ Lands chars stop readers.expression

variable {deeper : Option Deeper} (deeperLands : DeeperLands chars stop deeper)

/-- Where nothing more nests, the fault is at the next token. -/
theorem lands_refuse : Lands chars stop (refuse ⟨stop, ceiling⟩) :=
  fun _ _ standing => .within (standing.here _ ends)

include deeperLands

/-- A form that nests stands in the text if its reader takes it off tokens that do. -/
theorem lands_nest {form : Reader Expr → Reader Expr}
    (lands : ∀ {nested}, Lands chars stop nested → Lands chars stop (form nested)) :
    Lands chars stop (nest ⟨stop, ceiling⟩ deeper form) := by
  cases deeper with
  | none => exact lands_refuse ends
  | some readers => exact lands (deeperLands readers rfl).2

/-- What stands between operators stands in the text. -/
theorem lands_primary : Lands chars stop (primary ⟨stop, ceiling⟩ deeper) := by
  intro start tokens standing
  have place := standing.here ceiling ends
  cases tokens with
  | nil => exact .within place
  | cons token rest =>
    simp only [primary]
    split
    · split
      · cases standing with
        | cons le stands _ others => exact ⟨.leaf stands.region rfl (by simp), le, others⟩
      · exact .within place
    · cases standing with
      | cons le stands _ others => exact ⟨.leaf stands.region rfl (by simp), le, others⟩
    · rename_i differential
      cases standing with
      | cons le stands _ others =>
        exact ⟨.leaf (stands.letter differential) rfl (by simp), Nat.le_succ_of_le le, others⟩
    · exact lands_nest ends deeperLands (lands_call ends) standing
    · exact lands_nest ends deeperLands (lands_paren ends) standing
    · exact lands_nest ends deeperLands (lands_derivative ends) standing
    · exact lands_nest ends deeperLands (lands_integral ends) standing
    all_goals exact .within place

/-- A power stands in the text, with a sign in front of it or without. -/
theorem lands_factor : Lands chars stop (factor ⟨stop, ceiling⟩ deeper) := by
  intro start tokens standing
  unfold factor
  split
  · exact (lands_primary ends deeperLands).chain standing
  · rename_i op span following found
    obtain ⟨le, region, others⟩ := standing.of_sign? found
    cases deeper with
    | none => exact .within (others.here _ ends)
    | some readers =>
      refine ((deeperLands readers rfl).1 others).bind
        fun (operand, rest) ⟨laid, start_le, restStanding⟩ => ?_
      have spanLt := region.lt
      have operandLt : operand.span.start < operand.span.stop := laid.region.lt
      have span_le : span.stop ≤ operand.span.start := start_le
      refine ⟨.of_parts ⟨region.starts, laid.region.stops, ?_⟩ ?_ (by simp [Expr.parts]) (by simp),
        le, restStanding⟩
      · exact show span.start < operand.span.stop by omega
      · simp only [Expr.parts, List.mem_singleton, forall_eq]
        exact ⟨laid, show span.start ≤ operand.span.start by omega, Nat.le_refl _⟩

omit deeperLands

/-- What is read where so many levels may nest stands in the text. -/
theorem lands_expression (levels : Nat) :
    DeeperLands chars stop (Reader.deeper ⟨stop, ceiling⟩ levels) ∧
      Lands chars stop (expression ⟨stop, ceiling⟩ (Reader.deeper ⟨stop, ceiling⟩ levels)) := by
  have onLevel {deeper : Option Deeper} (deeperLands : DeeperLands chars stop deeper) :
      Lands chars stop (power ⟨stop, ceiling⟩ deeper)
        ∧ Lands chars stop (expression ⟨stop, ceiling⟩ deeper) :=
    ⟨(lands_primary ends deeperLands).chain, (lands_factor ends deeperLands).chain.chain⟩
  induction levels with
  | zero =>
    have nothing : DeeperLands chars stop (Reader.deeper ⟨stop, ceiling⟩ 0) := by
      intro readers isSome
      contradiction
    exact ⟨nothing, (onLevel nothing).2⟩
  | succ levels hypothesis =>
    have readers : DeeperLands chars stop (Reader.deeper ⟨stop, ceiling⟩ (levels + 1)) := by
      intro readers isSome
      obtain rfl := Option.some.inj isSome
      exact onLevel hypothesis.1
    exact ⟨readers, (onLevel readers).2⟩

/-- An expression that all the tokens belong to stands in the text. -/
theorem settles_whole (standing : Standing chars stop start tokens) :
    Settles chars (fun expr => expr.Laid chars ∧ start ≤ expr.span.start ∧ expr.span.stop ≤ stop)
      (whole ⟨stop, ceiling⟩ tokens) := by
  refine ((lands_expression ends ceiling).2 standing).bind
    fun (expr, rest) ⟨laid, start_le, restStanding⟩ => ?_
  cases restStanding with
  | nil le => exact ⟨laid, start_le, le⟩
  | cons _ stands => exact .within ⟨stands.region.starts, stands.region.stops, stands.region.lt.le⟩

end Reader

open Reader (Settles)

/-- The tokens of a passage stand in the text, or its first character that begins no token does. -/
theorem Token.settles_scan? {chars part : List Char} {position : Nat}
    (passage : Passage chars position part) :
    Settles chars (Standing chars (position + byteLength part) position) (scan? position part) := by
  cases scanned : scan? position part with
  | ok tokens => exact Lexer.standing_of_scan? passage scanned
  | error fault =>
    unfold scan? at scanned
    dsimp only at scanned
    split at scanned
    · contradiction
    · rename_i char rest unread
      have part_eq := Lexer.pieces_append part
      obtain rfl := Except.error.inj scanned
      rw [unread] at part_eq ⊢
      generalize (Lexer.pieces part).1.flatMap Piece.chars = read at part_eq
      subst part_eq
      have behind : Passage chars (position + byteLength read) ([char] ++ rest) :=
        passage.right read
      rw [byteLength_append, Nat.add_sub_cancel]
      exact ⟨_, rfl, behind.left.starts, behind.left.stops, Nat.le_add_right _ _⟩

namespace Expr

/-- What is read in a passage stands in it. -/
theorem settles_readRegion {chars part : List Char} {start : Nat}
    (passage : Passage chars start part) (ceiling : Nat) :
    Settles chars
      (fun expr => expr.Laid chars ∧ start ≤ expr.span.start
        ∧ expr.span.stop ≤ start + byteLength part)
      (readRegion start part ceiling) :=
  (Token.settles_scan? passage).bind fun _ standing =>
    Reader.settles_whole passage.stops standing

/-! ## Literal forms -/

/-- A derivative or an integral around a body stands in the text from end to end. -/
theorem Laid.around {chars : List Char} {expr body : Expr} (parts_eq : expr.parts = [body])
    (span_eq : expr.span = ⟨0, byteLength chars⟩) (laid : body.Laid chars)
    (noCall : ∀ function functionSpan argument parens span,
      expr ≠ .call function functionSpan argument parens span) : expr.Laid chars := by
  have region := laid.region
  have le_length := region.stops.le
  have filled := region.lt
  refine .of_parts ?_ ?_ (by simp [parts_eq]) noCall
  · rw [span_eq]
    exact ⟨.beginning chars, .ending chars, show 0 < byteLength chars by omega⟩
  · rw [parts_eq, span_eq]
    simpa using ⟨laid, Nat.zero_le _, le_length⟩

/-- A text in the form of a derivative stands in its regions. -/
theorem settles_readDerivative {chars : List Char} {ceiling : Nat} {result : Except Fault Expr}
    (reads : readDerivative? chars ceiling = some result) :
    Settles chars (Laid chars) result := by
  obtain ⟨⟨wrt, body⟩, split, reads⟩ := Option.bind_eq_some_iff.1 reads
  obtain rfl := Option.some.inj reads
  obtain ⟨rfl, -, -⟩ := derivativeText_split?_iff.1 split
  have passage : Passage _ 3 (wrt ++ '(' :: (body ++ [')'])) :=
    Passage.right ['d', '/', 'd'] (.whole _)
  have bodyPassage := (passage.right wrt).tail rfl
  exact (settles_readRegion bodyPassage.left ceiling).bind fun inner ⟨laid, _, _⟩ =>
    .around rfl rfl laid (by simp)

/-- The bounds and the body of an integral stand in it one behind the other. -/
theorem settles_readBounded {source indent chars behind : List Char} {wrt : Char}
    (source_eq : source = '∫' :: (indent ++ '_' :: (chars ++ behind))) (ceiling : Nat) :
    Settles source (Laid source)
      (readBounded wrt indent chars ⟨0, byteLength source⟩ ceiling) := by
  have indentPassage : Passage source signLength (indent ++ '_' :: (chars ++ behind)) :=
    Passage.right ['∫'] (source_eq ▸ Passage.whole _)
  have passage : Passage source (signLength + byteLength indent + 1) chars :=
    ((indentPassage.right indent).tail rfl).left
  unfold readBounded
  cases split : BoundedText.split? chars with
  | none =>
    refine .within ⟨indentPassage.starts, passage.stops, ?_⟩
    exact show signLength ≤ signLength + byteLength indent + 1 + byteLength chars by omega
  | some parts =>
    obtain ⟨lower, upper, body⟩ := parts
    obtain rfl := of_boundedText_split? split
    have upperPassage := (passage.right lower).tail rfl
    have bodyPassage := upperPassage.right upper
    refine (settles_readRegion passage.left ceiling).bind
      fun lowerExpr ⟨lowerLaid, _, lower_le⟩ => ?_
    refine (settles_readRegion upperPassage.left ceiling).bind
      fun upperExpr ⟨upperLaid, le_upper, upper_le⟩ => ?_
    refine (settles_readRegion bodyPassage ceiling).bind
      fun bodyExpr ⟨bodyLaid, le_body, _⟩ => ?_
    have lowerFilled := lowerLaid.region.lt
    have upperFilled := upperLaid.region.lt
    have bodyFilled := bodyLaid.region.lt
    have within := bodyLaid.region.stops.le
    refine .of_parts ⟨.beginning _, .ending _, ?_⟩ ?_ ?_ (by simp)
    · exact show 0 < byteLength source by omega
    · simp only [parts, List.forall_mem_cons, List.not_mem_nil, false_imp_iff, implies_true,
        and_true]
      exact ⟨⟨lowerLaid, Nat.zero_le _, lowerLaid.region.stops.le⟩,
        ⟨upperLaid, Nat.zero_le _, upperLaid.region.stops.le⟩, bodyLaid, Nat.zero_le _, within⟩
    · have lowerBeforeUpper : lowerExpr.span.stop ≤ upperExpr.span.start := by omega
      have upperBeforeBody : upperExpr.span.stop ≤ bodyExpr.span.start := by omega
      have lowerBeforeBody : lowerExpr.span.stop ≤ bodyExpr.span.start := by omega
      simp [parts, lowerBeforeUpper, upperBeforeBody, lowerBeforeBody]

/-- A text in the form of an integral stands in its regions. -/
theorem settles_readIntegral {chars : List Char} {ceiling : Nat} {result : Except Fault Expr}
    (reads : readIntegral? chars ceiling = some result) :
    Settles chars (Laid chars) result := by
  obtain ⟨⟨wrt, body⟩, split, reads⟩ := Option.bind_eq_some_iff.1 reads
  obtain rfl := Option.some.inj reads
  obtain ⟨⟨blanks, chars_eq, -⟩, -⟩ := integralText_split?_iff.1 split
  split
  · rename_i behind underscore
    have body_eq : body = body.takeWhile Text.isBlank ++ '_' :: behind := by
      have parts := List.takeWhile_append_dropWhile (p := Text.isBlank) (l := body)
      rw [← underscore, parts]
    have source_eq : chars
        = '∫' :: (body.takeWhile Text.isBlank ++ '_' :: (behind ++ (blanks ++ ['d', wrt]))) := by
      rw [chars_eq]
      conv_lhs => rw [body_eq]
      simp
    exact settles_readBounded source_eq ceiling
  · have passage : Passage chars signLength (body ++ (blanks ++ ['d', wrt])) :=
      Passage.right ['∫'] (chars_eq ▸ Passage.whole _)
    exact (settles_readRegion passage.left ceiling).bind fun inner ⟨laid, _, _⟩ =>
      .around rfl rfl laid (by simp)

/-- The regions of every text that is read are in place: each node has characters of its own between
the ends of the text, holds its parts one behind the other, and every call is made up of its name
and its parentheses. A text that is not read has a fault that points at exactly one region of
it. -/
theorem regions_in_place (source : String) (ceiling : Nat) :
    Settles source.toList (Laid source.toList) (read source ceiling) := by
  unfold read
  dsimp only
  split
  · rename_i reads
    exact settles_readDerivative reads
  · split
    · rename_i reads
      exact settles_readIntegral reads
    · exact (settles_readRegion (.whole source.toList) ceiling).imp fun _ settled => settled.1

end Expr

end Workings
