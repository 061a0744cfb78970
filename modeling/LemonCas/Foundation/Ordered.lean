import Mathlib.Data.List.Sort
set_option autoImplicit false

/-!
# Foundation: elements with an order number

A list whose elements carry an order number is sorted by it, and elements of one
number stay in the order they were in.  An additional element takes a place among the
others and leaves their order alone.
-/

namespace LemonCas.Foundation

variable {α : Type}

/-- The first element may come before the second. -/
def Precedes (order : α → ℤ) (a b : α) : Prop := order a ≤ order b

instance (order : α → ℤ) : DecidableRel (Precedes order) := fun a b =>
  inferInstanceAs (Decidable (order a ≤ order b))

instance (order : α → ℤ) : Std.Total (Precedes order) :=
  ⟨fun a b => Int.le_total (order a) (order b)⟩

instance (order : α → ℤ) : IsTrans α (Precedes order) := ⟨fun _ _ _ => Int.le_trans⟩

/-- Elements by rising order number, and in their old order where the numbers are
equal. -/
def sortByOrder (order : α → ℤ) (l : List α) : List α := l.insertionSort (Precedes order)

section Sorting

variable {order : α → ℤ}

theorem mem_sortByOrder {l : List α} {a : α} : a ∈ sortByOrder order l ↔ a ∈ l :=
  List.mem_insertionSort _

theorem perm_sortByOrder (l : List α) : (sortByOrder order l).Perm l :=
  List.perm_insertionSort _ l

theorem pairwise_sortByOrder (l : List α) :
    (sortByOrder order l).Pairwise (Precedes order) :=
  List.pairwise_insertionSort _ l

/-- Inserting into a sorted list with an additional element is inserting without it, and
the element stays where it is among the others. -/
theorem orderedInsert_append_cons {a b : α} {before after : List α}
    (hsorted : (before ++ a :: after).Pairwise (Precedes order)) :
    ∃ before' after',
      (before ++ after).orderedInsert (Precedes order) b = before' ++ after' ∧
      (before ++ a :: after).orderedInsert (Precedes order) b = before' ++ a :: after' := by
  induction before with
  | nil =>
    rw [List.nil_append] at hsorted ⊢
    by_cases hle : Precedes order b a
    · refine ⟨[b], after, ?_, ?_⟩
      · cases after with
        | nil => rfl
        | cons c rest =>
          have hac := (List.pairwise_cons.mp hsorted).1 c List.mem_cons_self
          exact List.orderedInsert_cons_of_le _ _ (Int.le_trans hle hac)
      · exact List.orderedInsert_cons_of_le _ _ hle
    · exact ⟨[], after.orderedInsert (Precedes order) b, rfl,
        List.orderedInsert_of_not_le _ _ hle⟩
  | cons c before ih =>
    rw [List.cons_append] at hsorted
    by_cases hle : Precedes order b c
    · refine ⟨b :: c :: before, after, ?_, ?_⟩
      · exact List.orderedInsert_cons_of_le _ _ hle
      · exact List.orderedInsert_cons_of_le _ _ hle
    · obtain ⟨before', after', hwithout, hwith⟩ := ih (List.pairwise_cons.mp hsorted).2
      refine ⟨c :: before', after', ?_, ?_⟩
      · rw [List.cons_append, List.orderedInsert_of_not_le _ _ hle, hwithout, List.cons_append]
      · rw [List.cons_append, List.orderedInsert_of_not_le _ _ hle, hwith, List.cons_append]

/-- An additional element takes a place among the others and leaves their order alone. -/
theorem exists_sortByOrder_concat (order : α → ℤ) (l : List α) (a : α) :
    ∃ before after, sortByOrder order l = before ++ after ∧
      sortByOrder order (l ++ [a]) = before ++ a :: after := by
  induction l with
  | nil => exact ⟨[], [], rfl, rfl⟩
  | cons b rest ih =>
    obtain ⟨before, after, hwithout, hwith⟩ := ih
    have hsorted : (before ++ a :: after).Pairwise (Precedes order) :=
      hwith ▸ pairwise_sortByOrder (rest ++ [a])
    obtain ⟨before', after', hinsert, hinsert'⟩ := orderedInsert_append_cons hsorted
    refine ⟨before', after', ?_, ?_⟩
    · rw [← hinsert, ← hwithout]
      rfl
    · rw [← hinsert', ← hwith]
      rfl

end Sorting

end LemonCas.Foundation
