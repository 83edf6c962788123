import Mathlib.Data.List.Sort

/-!
# Sorting as the C library does it

`qsort` brings the elements of an array into order. Which of two elements comes first that compare
as equal is left to the library.

- `Qsort`: a function that sorts so.
- **`sort_map_eq`**: when the keys of the elements are distinct, there is only one result.
-/

/-- The function `qsort` of a C library, on arrays of `α`. -/
structure Qsort (α : Type) where
  sort : (α → α → Bool) → List α → List α
  perm : ∀ le l, (sort le l).Perm l
  sorted : ∀ (le : α → α → Bool) (l : List α),
    (∀ a b, le a b = true ∨ le b a = true) →
      (∀ a b c, le a b = true → le b c = true → le a c = true) →
        (sort le l).Pairwise fun a b => le a b = true

namespace Qsort

variable {α β : Type} {key : α → Nat} {l l' : List α}

/-- A sorting function that can be run on small lists. -/
def insertionSort (α : Type) : Qsort α where
  sort le l := l.insertionSort fun a b => le a b = true
  perm le l := List.perm_insertionSort _ l
  sorted le l htotal htrans := by
    have htotal : Std.Total fun a b => le a b = true := ⟨htotal⟩
    have htrans : IsTrans α fun a b => le a b = true := ⟨htrans⟩
    exact List.pairwise_insertionSort _ l

/-- A sorting function, to have one. -/
def mergeSort (α : Type) : Qsort α where
  sort le l := l.mergeSort le
  perm le l := List.mergeSort_perm l le
  sorted le l htotal htrans := by
    refine List.pairwise_mergeSort (fun a b c => htrans a b c) (fun a b => ?_) l
    rw [Bool.or_eq_true]
    exact htotal a b

theorem sorted_of_key (q : Qsort α) (key : α → Nat) (l : List α) :
    (q.sort (fun a b => decide (key a ≤ key b)) l).Pairwise fun a b => key a ≤ key b := by
  have h := q.sorted (fun a b => decide (key a ≤ key b)) l
    (fun a b => by simpa using Nat.le_total _ _)
    (fun a b c hab hbc => by
      simp only [decide_eq_true_eq] at hab hbc ⊢
      exact Nat.le_trans hab hbc)
  simpa using h

/-- Two lists in order of the same elements are the same, if the keys are distinct. -/
theorem eq_of_perm_of_pairwise (hperm : l.Perm l') (hnodup : (l.map key).Nodup)
    (h : l.Pairwise fun a b => key a ≤ key b) (h' : l'.Pairwise fun a b => key a ≤ key b) :
    l = l' := by
  have hstrict {l : List α} (hnodup : (l.map key).Nodup)
      (h : l.Pairwise fun a b => key a ≤ key b) : l.Pairwise fun a b => key a < key b := by
    have hne : l.Pairwise fun a b => key a ≠ key b := List.pairwise_map.mp hnodup
    exact (h.and hne).imp fun hab => Nat.lt_of_le_of_ne hab.1 hab.2
  have hnodup' : (l'.map key).Nodup := (hperm.map key).nodup_iff.mp hnodup
  refine hperm.eq_of_pairwise (fun a b _ _ hab hba => ?_) (hstrict hnodup h) (hstrict hnodup' h')
  omega

/-- Elements with distinct keys are sorted as their images are. -/
theorem sort_map_eq (q : Qsort β) (f : α → β) (keyOf : β → Nat)
    (hkey : ∀ a ∈ l, keyOf (f a) = key a) (hnodup : (l.map key).Nodup) :
    q.sort (fun a b => decide (keyOf a ≤ keyOf b)) (l.map f) =
      (l.mergeSort fun a b => decide (key a ≤ key b)).map f := by
  set sorted := l.mergeSort fun a b => decide (key a ≤ key b) with hsorted
  have hperm : sorted.Perm l := List.mergeSort_perm l _
  have hmem : ∀ a ∈ sorted, keyOf (f a) = key a := fun a ha => hkey a (hperm.mem_iff.mp ha)
  have hpairwise : sorted.Pairwise fun a b => key a ≤ key b :=
    (mergeSort α).sorted_of_key key l
  refine eq_of_perm_of_pairwise ((q.perm _ _).trans (hperm.map f).symm) ?_
    (q.sorted_of_key keyOf _) ?_
  · have hkeys : (l.map f).map keyOf = l.map key := by
      rw [List.map_map]
      exact List.map_congr_left hkey
    rw [((q.perm _ _).map keyOf).nodup_iff, hkeys]
    exact hnodup
  · rw [List.pairwise_map]
    refine hpairwise.imp_of_mem fun ha hb hab => ?_
    rw [hmem _ ha, hmem _ hb]
    exact hab

end Qsort
