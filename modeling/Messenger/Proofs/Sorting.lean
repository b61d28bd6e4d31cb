/-!
# Stable sorting

A stable sort leaves elements in the order in which they stood where that order is sorted
already.  A list in which no element of one sort stands behind one of the other is the
elements of the first sort and then those of the second.
-/

namespace Messenger

variable {α : Type} {l : List α} {p : α → Bool}

/-- Sorting does not move elements that are sorted among each other. -/
theorem filter_mergeSort {le : α → α → Bool}
    (trans : ∀ a b c, le a b = true → le b c = true → le a c = true)
    (total : ∀ a b, (le a b || le b a) = true)
    (sorted : (l.filter p).Pairwise fun a b => le a b = true) :
    (l.mergeSort le).filter p = l.filter p := by
  have kept : (l.filter p).Sublist (l.mergeSort le) :=
    List.sublist_mergeSort trans total sorted List.filter_sublist
  have among := kept.filter p
  simp only [List.filter_filter, Bool.and_self] at among
  refine (among.eq_of_length ?_).symm
  exact ((List.mergeSort_perm l le).filter p).length_eq.symm

/-- Where no element with a property stands behind one without it, those with it come first. -/
theorem eq_filter_append_filter (ordered : l.Pairwise fun a b => p b = true → p a = true) :
    l = l.filter p ++ l.filter (fun a => !p a) := by
  induction l with
  | nil => rfl
  | cons first rest ih =>
      obtain ⟨before, orderedRest⟩ := List.pairwise_cons.mp ordered
      cases has : p first with
      | true =>
          rw [List.filter_cons_of_pos has, List.filter_cons_of_neg (by simp [has]),
            List.cons_append, ← ih orderedRest]
      | false =>
          have none : rest.filter p = [] := by
            refine List.filter_eq_nil_iff.mpr fun a member hasIt => ?_
            rw [before a member hasIt] at has
            cases has
          have behind := ih orderedRest
          rw [none, List.nil_append] at behind
          rw [List.filter_cons_of_neg (by simp [has]), none, List.nil_append,
            List.filter_cons_of_pos (by simp [has]), ← behind]

end Messenger
