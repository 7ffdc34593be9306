/-!
# Stable sorting

`sortBy before` sorts a list so that no element stands directly behind one that it must be before.
Each element is placed into the sorted part from its end, behind all elements that it need not be
before; so elements that are not told apart keep their order.
-/

namespace EntityQuery

variable {α : Type}

/-- Places `x` into a sorted list that runs from the last element to the first. -/
def placeBackwards (before : α → α → Bool) (x : α) : List α → List α
  | [] => [x]
  | y :: ys => if before x y then y :: placeBackwards before x ys else x :: y :: ys

/-- Sorts a list; elements that are not told apart keep their order. -/
def sortBy (before : α → α → Bool) (xs : List α) : List α :=
  (xs.foldl (fun sorted x => placeBackwards before x sorted) []).reverse

/-- Placing an element adds that element and nothing else. -/
theorem placeBackwards_perm (before : α → α → Bool) (x : α) (ys : List α) :
    (placeBackwards before x ys).Perm (x :: ys) := by
  induction ys with
  | nil => exact List.Perm.refl _
  | cons y ys ih =>
    unfold placeBackwards
    split
    · exact (ih.cons y).trans (List.Perm.swap x y ys)
    · exact List.Perm.refl _

/-- Sorting only rearranges. -/
theorem sortBy_perm (before : α → α → Bool) (xs : List α) : (sortBy before xs).Perm xs := by
  have key : ∀ sorted : List α,
      (xs.foldl (fun sorted x => placeBackwards before x sorted) sorted).Perm
        (xs.reverse ++ sorted) := by
    induction xs with
    | nil => exact fun sorted => List.Perm.refl _
    | cons x xs ih =>
      intro sorted
      refine (ih _).trans ?_
      simp only [List.reverse_cons, List.append_assoc, List.singleton_append]
      exact (placeBackwards_perm before x sorted).append_left _
  refine ((List.reverse_perm _).trans (key [])).trans ?_
  simp

end EntityQuery
