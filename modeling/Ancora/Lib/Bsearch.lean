import Mathlib.Data.List.Basic

/-!
# Binary search

`bsearch` of the C library over `n` elements. The elements are seen through `cmp` alone, which
compares the key with the element of an index.

- `Bsearch.search`: the search, by halving the number of elements that are left.
- `Ascending cmp n`: the elements are sorted.
- `of_search_eq_some`: what is found is equal to the key, sorted or not.
- **`search_isSome`**: among sorted elements one that is equal to the key is found.
-/

namespace Bsearch

/-- `lim` elements from `base` on. Half of them are left after a comparison, so `n` of them are
enough for `n` elements. -/
def loop (cmp : Nat → Ordering) : Nat → Nat → Nat → Option Nat
  | 0, _, _ => none
  | steps + 1, base, lim =>
    if lim = 0 then none
    else
      match cmp (base + lim / 2) with
      | .eq => some (base + lim / 2)
      | .gt => loop cmp steps (base + lim / 2 + 1) ((lim - 1) / 2)
      | .lt => loop cmp steps base (lim / 2)

def search (cmp : Nat → Ordering) (n : Nat) : Option Nat := loop cmp n 0 n

/-- Elements that follow a larger one are larger than the key, and so on. -/
structure Ascending (cmp : Nat → Ordering) (n : Nat) : Prop where
  lt : ∀ i j, i ≤ j → j < n → cmp i = .lt → cmp j = .lt
  gt : ∀ i j, i ≤ j → j < n → cmp j = .gt → cmp i = .gt

variable {cmp : Nat → Ordering} {n i : Nat}

/-- What the loop finds is equal to the key and in the range that was left. -/
theorem of_loop_eq_some :
    ∀ {steps base lim : Nat}, loop cmp steps base lim = some i →
      cmp i = .eq ∧ i < base + lim
  | 0, _, _, h => by cases h
  | steps + 1, base, lim, h => by
    unfold loop at h
    split at h
    · cases h
    · split at h
      · rename_i heq
        cases h
        exact ⟨heq, by omega⟩
      · have hrest := of_loop_eq_some h
        exact ⟨hrest.1, by omega⟩
      · have hrest := of_loop_eq_some h
        exact ⟨hrest.1, by omega⟩

/-- What a search finds is equal to the key and in the table. -/
theorem of_search_eq_some (h : search cmp n = some i) : cmp i = .eq ∧ i < n := by
  have hloop := of_loop_eq_some h
  rwa [Nat.zero_add] at hloop

/-- An equal element that is in the range stays in it until the loop finds one. -/
theorem loop_isSome (h : Ascending cmp n) (hi : cmp i = .eq) :
    ∀ {steps base lim : Nat}, lim ≤ steps → base ≤ i → i < base + lim → base + lim ≤ n →
      (loop cmp steps base lim).isSome = true
  | 0, _, _, hsteps, hbase, hlim, _ => by omega
  | steps + 1, base, lim, hsteps, hbase, hlim, hn => by
    unfold loop
    rw [if_neg (by omega)]
    split
    · rfl
    · rename_i hgt
      -- the key is behind the middle
      have hright : base + lim / 2 < i := by
        refine Nat.lt_of_not_le fun hle => ?_
        have hsmaller := h.gt i _ hle (by omega) hgt
        rw [hi] at hsmaller
        cases hsmaller
      exact loop_isSome h hi (by omega) (by omega) (by omega) (by omega)
    · rename_i hlt
      have hleft : i < base + lim / 2 := by
        refine Nat.lt_of_not_le fun hle => ?_
        have hlarger := h.lt _ i hle (by omega) hlt
        rw [hi] at hlarger
        cases hlarger
      exact loop_isSome h hi (by omega) (by omega) (by omega) (by omega)

/-- In a table in order a search finds an element if there is one. -/
theorem search_isSome (h : Ascending cmp n) (hin : i < n) (hi : cmp i = .eq) :
    (search cmp n).isSome = true :=
  loop_isSome h hi (Nat.le_refl n) (Nat.zero_le i) (by omega) (by omega)

end Bsearch
