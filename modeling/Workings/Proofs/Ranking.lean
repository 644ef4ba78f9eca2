import Workings.Ranking

/-!
# Rankings are in order

In a ranking nothing stands behind an element that it precedes, and elements that precede the same
others stand as they were listed. Where of any two elements one precedes the other, a ranking
therefore depends on what is ranked and not on the order in which it was listed.
-/

namespace Workings.Ranking

variable {Element : Type} {precedes : Element → Element → Bool}

/-- A precedence that is one: no element precedes itself, and what precedes an element precedes what
that one precedes. -/
structure Strict (precedes : Element → Element → Bool) : Prop where
  irrefl : ∀ element, precedes element element = false
  trans : ∀ first second third, precedes first second → precedes second third →
    precedes first third

/-- Elements none of which precedes one that stands in front of it. -/
def Ordered (precedes : Element → Element → Bool) (elements : List Element) : Prop :=
  elements.Pairwise fun earlier later => precedes later earlier = false

/-- An insertion keeps a ranking in order. -/
theorem Strict.ordered_insert (strict : Strict precedes) (element : Element)
    {ranking : List Element} (ordered : Ordered precedes ranking) :
    Ordered precedes (insert precedes element ranking) := by
  induction ranking with
  | nil => exact List.pairwise_singleton _ _
  | cons head rest hypothesis =>
    obtain ⟨heads, rests⟩ := List.pairwise_cons.1 ordered
    unfold insert
    split
    · rename_i before
      refine List.pairwise_cons.2 ⟨?_, ordered⟩
      intro other member
      rw [← Bool.not_eq_true]
      intro otherBefore
      have otherBeforeHead := strict.trans other element head otherBefore before
      rcases List.mem_cons.1 member with rfl | inRest
      · simp [strict.irrefl] at otherBeforeHead
      · simp [heads other inRest] at otherBeforeHead
    · rename_i notBefore
      refine List.pairwise_cons.2 ⟨?_, hypothesis rests⟩
      intro other member
      rcases mem_insert.1 member with rfl | inRest
      · simpa using notBefore
      · exact heads other inRest

/-- A ranking is in order. -/
theorem Strict.ordered_rank (strict : Strict precedes) (elements : List Element) :
    Ordered precedes (rank precedes elements) := by
  suffices general : ∀ ranking : List Element, Ordered precedes ranking →
      Ordered precedes
        (elements.foldl (fun ranking element => insert precedes element ranking) ranking) by
    exact general [] .nil
  induction elements with
  | nil => exact fun ranking ordered => ordered
  | cons element rest hypothesis =>
    intro ranking ordered
    exact hypothesis _ (strict.ordered_insert element ordered)

/-- An insertion puts an element behind all that precede others as it does, and moves none of
them. -/
theorem Strict.filter_insert (strict : Strict precedes) {alike : Element → Bool}
    (indifferent : ∀ first second third, alike first → alike second →
      precedes first third = precedes second third)
    (element : Element) {ranking : List Element} (ordered : Ordered precedes ranking) :
    (insert precedes element ranking).filter alike
      = ranking.filter alike ++ [element].filter alike := by
  induction ranking with
  | nil => rfl
  | cons head rest hypothesis =>
    obtain ⟨heads, rests⟩ := List.pairwise_cons.1 ordered
    unfold insert
    split
    · rename_i before
      by_cases taken : alike element
      · -- What is ranked like the element would precede the head behind which it stands.
        have noneAlike : (head :: rest).filter alike = [] := by
          rw [List.filter_eq_nil_iff]
          intro other member otherTaken
          have otherBefore : precedes other head := by
            rw [indifferent other element head otherTaken taken, before]
          rcases List.mem_cons.1 member with rfl | inRest
          · simp [strict.irrefl] at otherBefore
          · simp [heads other inRest] at otherBefore
        rw [List.filter_cons_of_pos taken, noneAlike, List.nil_append,
          List.filter_cons_of_pos taken, List.filter_nil]
      · rw [List.filter_cons_of_neg taken, List.filter_cons_of_neg taken, List.filter_nil,
          List.append_nil]
    · rw [List.filter_cons, List.filter_cons, hypothesis rests]
      split <;> rfl

/-- Elements that precede the same others keep the order in which they were listed. -/
theorem Strict.filter_rank (strict : Strict precedes) {alike : Element → Bool}
    (indifferent : ∀ first second third, alike first → alike second →
      precedes first third = precedes second third)
    (elements : List Element) :
    (rank precedes elements).filter alike = elements.filter alike := by
  suffices general : ∀ ranking : List Element, Ordered precedes ranking →
      (elements.foldl (fun ranking element => insert precedes element ranking) ranking).filter alike
        = ranking.filter alike ++ elements.filter alike by
    exact general [] .nil
  induction elements with
  | nil => exact fun ranking ordered => (List.append_nil _).symm
  | cons element rest hypothesis =>
    intro ranking ordered
    rw [List.foldl_cons, hypothesis _ (strict.ordered_insert element ordered),
      strict.filter_insert indifferent element ordered, List.append_assoc, ← List.filter_append,
      List.singleton_append]

/-- Elements that are listed in another order are ranked alike, if of any two of them one precedes
the other. -/
theorem Strict.rank_eq_of_perm (strict : Strict precedes) {left right : List Element}
    (total : ∀ first ∈ left, ∀ second ∈ left, precedes first second = false →
      precedes second first = false → first = second)
    (listed : left.Perm right) : rank precedes left = rank precedes right := by
  have sameRanked : (rank precedes left).Perm (rank precedes right) :=
    (rank_perm _ left).trans (listed.trans (rank_perm _ right).symm)
  refine sameRanked.eq_of_pairwise ?_ (strict.ordered_rank left) (strict.ordered_rank right)
  intro first second firstMember secondMember secondNot firstNot
  have firstIn := (rank_perm _ left).mem_iff.1 firstMember
  have secondIn := listed.mem_iff.2 ((rank_perm _ right).mem_iff.1 secondMember)
  exact total first firstIn second secondIn firstNot secondNot

end Workings.Ranking
