import Mathlib.Data.List.Basic

/-!
# Deleting from a list while going through it

A loop over the indices of a list that deletes elements on its way misses the one behind each
deleted element. Such a loop is therefore repeated until it deletes nothing.

- `visit func`: the loop; `func` gets the list and the element at the index.
- `deleteIf p`: deletes the element if `p` holds of it.
- `sweep p`: the repeated loop.
- **`sweep_eq_filter`**: it ends, and leaves what a filter leaves.
-/

namespace Sweep

variable {α : Type} [DecidableEq α] {p : α → Bool} {l : List α} {n i : Nat}

/-- `for (i = 0; i < length; i++) func(l, l[i])`, in at most `n` steps. -/
def visit (func : List α → α → List α) : Nat → Nat → List α → List α
  | 0, _, l => l
  | n + 1, i, l =>
    match l[i]? with
    | some a => visit func n (i + 1) (func l a)
    | none => l

def deleteIf (p : α → Bool) (l : List α) (a : α) : List α := if p a then l.erase a else l

/-- `do … while` the length has changed. -/
def sweep (p : α → Bool) : Nat → List α → List α
  | 0, l => l
  | n + 1, l =>
    let l' := visit (deleteIf p) l.length 0 l
    if l'.length = l.length then l' else sweep p n l'

theorem deleteIf_sublist (l : List α) (a : α) : (deleteIf p l a).Sublist l := by
  unfold deleteIf
  split
  · exact List.erase_sublist
  · exact List.Sublist.refl l

theorem filter_erase_of_not {q : α → Bool} {a : α} (h : q a = false) :
    ∀ l : List α, (l.erase a).filter q = l.filter q
  | [] => rfl
  | b :: l => by
    by_cases hb : b = a
    · subst hb
      rw [List.erase_cons_head, List.filter_cons_of_neg (by simp [h])]
    · rw [List.erase_cons_tail (by simpa using hb), List.filter_cons, List.filter_cons,
        filter_erase_of_not h l]

theorem filter_deleteIf (l : List α) (a : α) :
    (deleteIf p l a).filter (fun b => !p b) = l.filter fun b => !p b := by
  unfold deleteIf
  split
  · rename_i ha
    exact filter_erase_of_not (by simp [ha]) l
  · rfl

/-- What one loop keeps: nothing is added, and only what should go goes. -/
theorem visit_deleteIf :
    ∀ (n i : Nat) (l : List α), (visit (deleteIf p) n i l).Sublist l ∧
      (visit (deleteIf p) n i l).filter (fun b => !p b) = l.filter fun b => !p b
  | 0, _, l => ⟨List.Sublist.refl l, rfl⟩
  | n + 1, i, l => by
    unfold visit
    split
    · rename_i a _
      have ih := visit_deleteIf n (i + 1) (deleteIf p l a)
      exact ⟨ih.1.trans (deleteIf_sublist l a), ih.2.trans (filter_deleteIf l a)⟩
    · exact ⟨List.Sublist.refl l, rfl⟩

/-- A loop that deletes nothing has seen every element. -/
theorem of_length_visit : ∀ {n i : Nat} {l : List α}, l.length ≤ i + n →
    (visit (deleteIf p) n i l).length = l.length →
      visit (deleteIf p) n i l = l ∧ ∀ a ∈ l.drop i, p a = false
  | 0, i, l, hn, _ => by
    rw [List.drop_eq_nil_of_le (by omega)]
    exact ⟨rfl, fun a ha => (List.not_mem_nil ha).elim⟩
  | n + 1, i, l, hn, hlen => by
    unfold visit at hlen ⊢
    rcases Nat.lt_or_ge i l.length with hi | hi
    · rw [List.getElem?_eq_getElem hi] at hlen ⊢
      dsimp only at hlen ⊢
      have hpi : p l[i] = false := by
        by_contra hne
        -- the element has been deleted, and the list does not grow again
        have hdel : deleteIf p l l[i] = l.erase l[i] := if_pos (by simpa using hne)
        have hshort : (l.erase l[i]).length = l.length - 1 :=
          List.length_erase_of_mem (List.getElem_mem hi)
        have hle := (visit_deleteIf (p := p) n (i + 1) (deleteIf p l l[i])).1.length_le
        rw [hdel] at hle hlen
        omega
      have hkeep : deleteIf p l l[i] = l := if_neg (by simp [hpi])
      rw [hkeep] at hlen ⊢
      obtain ⟨hsame, hrest⟩ := of_length_visit (by omega) hlen
      refine ⟨hsame, fun a ha => ?_⟩
      rw [List.drop_eq_getElem_cons hi] at ha
      rcases List.mem_cons.mp ha with rfl | ha
      · exact hpi
      · exact hrest a ha
    · rw [List.getElem?_eq_none hi]
      refine ⟨rfl, fun a ha => ?_⟩
      rw [List.drop_eq_nil_of_le hi] at ha
      exact (List.not_mem_nil ha).elim

/-- The repeated loop ends, and leaves what a filter leaves. -/
theorem sweep_eq_filter : ∀ {n : Nat} {l : List α}, l.length < n →
    sweep p n l = l.filter fun b => !p b
  | n + 1, l, hn => by
    unfold sweep
    dsimp only
    obtain ⟨hsub, hfilter⟩ := visit_deleteIf (p := p) l.length 0 l
    split
    · rename_i hlen
      obtain ⟨hsame, hall⟩ := of_length_visit (by omega) hlen
      rw [hsame]
      refine (List.filter_eq_self.mpr fun a ha => ?_).symm
      rw [hall a ha]
      rfl
    · rename_i hlen
      have hle := hsub.length_le
      rw [sweep_eq_filter (by omega), hfilter]

end Sweep
