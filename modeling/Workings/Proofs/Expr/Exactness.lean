import Workings.Proofs.Expr.Completeness
import Workings.Proofs.Number.Reading
import Workings.Proofs.Token.Scanning

/-!
# Reading is exactly the grammar

The grammar and the two bounds decide which texts are read. What is read is the only tree that the
grammar has for the words of the text.
-/

namespace Workings.Expr

/-- Every number among the tokens of a text is read. -/
theorem isSome_of_number {position : Nat} {chars : List Char} {tokens : List Token}
    (scanned : Token.scan? position chars = .ok tokens) :
    ∀ token ∈ tokens, token.kind = .number → (Number.read? token.lexeme).isSome := by
  intro token member isNumber
  have scans : Lexer.Scans chars (tokens.map Token.word) :=
    Lexer.scans_iff.2 ⟨tokens, scanned, rfl⟩
  have lexical := scans.lexical token.word (List.mem_map_of_mem member)
  simp only [Token.word, isNumber, Lexer.Lexical] at lexical
  obtain ⟨decimal, numeral⟩ := lexical
  exact numeral.read?_isSome

/-- A text is read as the trees that the grammar derives from its words and that keep to the
bounds. -/
theorem readRegion_iff {position : Nat} {chars : List Char} {tokens : List Token}
    (scanned : Token.scan? position chars = .ok tokens) (ceiling : Nat) (tree : Expr) :
    (∃ expr, readRegion position chars ceiling = .ok expr ∧ expr.bare = tree)
      ↔ Derives .expression (tokens.map Token.word) tree ∧ tree.Within ceiling := by
  have region_eq : readRegion position chars ceiling
      = Reader.whole ⟨position + byteLength chars, ceiling⟩ tokens := by
    simp only [readRegion, scanned]
    rfl
  rw [region_eq]
  constructor
  · rintro ⟨expr, reads, rfl⟩
    obtain ⟨derives, within⟩ := Reader.sound_whole reads
    exact ⟨derives, within_bare.2 within⟩
  · rintro ⟨derives, within⟩
    exact Reader.complete_whole derives within

/-- The words of a text that is read are derived to its tree, which keeps to the bounds. -/
theorem derives_of_readRegion {position : Nat} {chars : List Char} {ceiling : Nat} {expr : Expr}
    (reads : readRegion position chars ceiling = .ok expr) :
    ∃ found, Lexer.Scans chars found ∧ Derives .expression found expr.bare
      ∧ expr.Within ceiling := by
  obtain ⟨tokens, scanned, readsTokens⟩ := Reader.of_bind_eq_ok reads
  obtain ⟨derives, within⟩ := Reader.sound_whole readsTokens
  exact ⟨_, Lexer.scans_iff.2 ⟨tokens, scanned, rfl⟩, derives, within⟩

/-- A text whose words are derived to a tree that keeps to the bounds is read as this tree. -/
theorem readRegion_of_derives {chars : List Char} {found : List Word} {ceiling : Nat} {tree : Expr}
    (scans : Lexer.Scans chars found) (derives : Derives .expression found tree)
    (within : tree.Within ceiling) (position : Nat) :
    ∃ expr, readRegion position chars ceiling = .ok expr ∧ expr.bare = tree := by
  obtain ⟨tokens, scanned, rfl⟩ := (@Lexer.scans_iff position _ _).1 scans
  exact (readRegion_iff scanned ceiling tree).2 ⟨derives, within⟩

/-- A text that goes on behind an expression, but with no operator, is refused. -/
theorem readRegion_of_trailing {chars : List Char} {words following : List Word} {word : Word}
    {ceiling : Nat} {tree : Expr} (scans : Lexer.Scans chars (words ++ word :: following))
    (derives : Derives .expression words tree) (within : tree.Within ceiling)
    (noOperator : word.binaryOp? = none) (position : Nat) :
    ∃ span, readRegion position chars ceiling = .error (.within span .trailing) := by
  obtain ⟨tokens, scanned, same⟩ := (@Lexer.scans_iff position _ _).1 scans
  simp only [readRegion, scanned, bind, Except.bind]
  exact Reader.trailing_whole same derives within noOperator

/-- A text with tokens is read if and only if the grammar derives a tree from all its words that
keeps to the ceiling and to the height of chains. That tree is the one that is read, and there is no
other one. Every number among the words has a value. -/
theorem reads_exactly {source : String} {tokens : List Token}
    (scanned : Token.scan? 0 source.toList = .ok tokens) (ceiling : Nat) :
    (∀ tree, (∃ expr, readRegion 0 source.toList ceiling = .ok expr ∧ expr.bare = tree)
        ↔ Derives .expression (tokens.map Token.word) tree ∧ tree.Within ceiling)
      ∧ (∀ left right, Derives .expression (tokens.map Token.word) left →
        Derives .expression (tokens.map Token.word) right → left = right)
      ∧ ∀ token ∈ tokens, token.kind = .number → (Number.read? token.lexeme).isSome :=
  ⟨readRegion_iff scanned ceiling, fun _ _ left right => left.unique right,
    isSome_of_number scanned⟩

/-- A sum of two names is read, and read as a sum, without any level to nest. -/
theorem reads_exactly_sum :
    ∃ expr, readRegion 0 "x+y".toList 0 = .ok expr
      ∧ expr.bare = .binary .plus (.symbol "x" nowhere) (.symbol "y" nowhere) nowhere := by
  have scanned : Token.scan? 0 "x+y".toList = .ok
      [⟨.name, "x", ⟨0, 1⟩⟩, ⟨.operator, "+", ⟨1, 2⟩⟩, ⟨.name, "y", ⟨2, 3⟩⟩] := by
    rfl
  have name (name : String) : Derives (.chain .factor) [.name name] (.symbol name nowhere) :=
    .alone (.unsigned (.alone .name))
  have right : Derives (.after .term (.symbol "x" nowhere)) [.operator "+", .name "y"]
      (.binary .plus (.symbol "x" nowhere) (.symbol "y" nowhere) nowhere) :=
    @Derives.joined .term .plus [.name "y"] [] _ _ _ rfl (name "y") .done
  have derives : Derives .expression [.name "x", .operator "+", .name "y"]
      (.binary .plus (.symbol "x" nowhere) (.symbol "y" nowhere) nowhere) :=
    @Derives.chain .term [.name "x"] _ _ _ (name "x") right
  have within : (Expr.binary .plus (.symbol "x" nowhere) (.symbol "y" nowhere) nowhere).Within 0 :=
    ⟨by decide, by decide, trivial, trivial⟩
  exact ((reads_exactly scanned 0).1 _).2 ⟨derives, within⟩

end Workings.Expr
