/-!
# Ranking

A ranking puts elements into an order in which some precede others. Where neither of two elements
precedes the other, the one that came first stays first. A ranking loses nothing and adds nothing,
and in it nothing stands behind an element that it precedes.
-/

namespace Workings.Ranking

variable {Element : Type}

/-- Puts an element into a ranking: in front of the first one that it precedes. -/
def insert (precedes : Element → Element → Bool) (element : Element) :
    List Element → List Element
  | [] => [element]
  | head :: rest =>
    if precedes element head then element :: head :: rest
    else head :: insert precedes element rest

/-- Ranks the elements of a list. -/
def rank (precedes : Element → Element → Bool) (elements : List Element) : List Element :=
  elements.foldl (fun ranking element => insert precedes element ranking) []

/-- An insertion adds the element and keeps the others. -/
theorem insert_perm (precedes : Element → Element → Bool) (element : Element)
    (ranking : List Element) : (insert precedes element ranking).Perm (element :: ranking) := by
  induction ranking with
  | nil => exact .refl _
  | cons head rest hypothesis =>
    unfold insert
    split
    · exact .refl _
    · exact (hypothesis.cons head).trans (.swap element head rest)

/-- What is in a ranking after an insertion. -/
theorem mem_insert {precedes : Element → Element → Bool} {element other : Element}
    {ranking : List Element} :
    other ∈ insert precedes element ranking ↔ other = element ∨ other ∈ ranking := by
  rw [(insert_perm precedes element ranking).mem_iff, List.mem_cons]

/-- An insertion makes a ranking longer by one. -/
theorem length_insert (precedes : Element → Element → Bool) (element : Element)
    (ranking : List Element) :
    (insert precedes element ranking).length = ranking.length + 1 :=
  (insert_perm precedes element ranking).length_eq

/-- A ranking holds what was ranked. -/
theorem rank_perm (precedes : Element → Element → Bool) (elements : List Element) :
    (rank precedes elements).Perm elements := by
  suffices general : ∀ ranking : List Element,
      (elements.foldl (fun ranking element => insert precedes element ranking) ranking).Perm
        (ranking ++ elements) by
    simpa [rank] using general []
  induction elements with
  | nil => intro ranking; simp
  | cons element rest hypothesis =>
    intro ranking
    refine (hypothesis _).trans ?_
    refine ((insert_perm precedes element ranking).append_right rest).trans ?_
    exact List.perm_middle.symm

end Workings.Ranking
