import Mathlib.Data.List.DropRight

/-!
# Strings of Java

Strings are lists of UTF-16 code units, or of anything else. A regular expression that matches
one character of a class is a predicate.

- `split`: `String.split(regex)`, which drops the empty fields at the end.
- `lastIndexOf`: the last index of a character; -1 is `none`.
- **`lt_length_split_iff`**: a tail adds fields iff it has a character that is no separator.
- **`lastIndexOf_append_cons`**: the last index in a string that is cut at the last occurrence;
  `exists_last` finds it.
-/

namespace JavaString

variable {α : Type}

/-- `s.split(regex)` for a regular expression that matches one character. A string without a
match is its only field, also when it is empty. -/
def split (sep : α → Bool) (s : List α) : List (List α) :=
  if s.any sep then (s.splitOnP sep).rdropWhile List.isEmpty else [s]

/-- `s.lastIndexOf(c)` -/
def lastIndexOf [DecidableEq α] (c : α) : List α → Option Nat
  | [] => none
  | x :: xs =>
    match lastIndexOf c xs with
    | some i => some (i + 1)
    | none => if x = c then some 0 else none

/-! ## Fields -/

section Split

variable {sep : α → Bool} {t v : List α} {c : α}

theorem rdropWhile_append_of_forall {p : α → Bool} (h : ∀ x ∈ v, p x = true) :
    (t ++ v).rdropWhile p = t.rdropWhile p := by
  induction v using List.reverseRecOn with
  | nil => rw [List.append_nil]
  | append_singleton v x ih =>
    rw [← List.append_assoc, List.rdropWhile_concat_pos p _ _ (h x (by simp))]
    exact ih fun y hy => h y (List.mem_append_left _ hy)

theorem rdropWhile_append_of_exists {p : α → Bool} (h : ∃ x ∈ v, p x = false) :
    (t ++ v).rdropWhile p = t ++ v.rdropWhile p := by
  induction v using List.reverseRecOn with
  | nil =>
    obtain ⟨x, hx, -⟩ := h
    cases hx
  | append_singleton v x ih =>
    rw [← List.append_assoc]
    by_cases hx : p x = true
    · obtain ⟨y, hy, hpy⟩ := h
      have hmem : y ∈ v := by
        rcases List.mem_append.mp hy with hy | hy
        · exact hy
        · rw [List.mem_singleton.mp hy, hx] at hpy
          cases hpy
      rw [List.rdropWhile_concat_pos p _ _ hx, List.rdropWhile_concat_pos p _ _ hx]
      exact ih ⟨y, hmem, hpy⟩
    · rw [List.rdropWhile_concat_neg p _ _ hx, List.rdropWhile_concat_neg p _ _ hx,
        List.append_assoc]

/-- All fields are empty iff there are only separators. -/
theorem forall_splitOnP_iff :
    (∀ f ∈ v.splitOnP sep, f.isEmpty = true) ↔ ∀ x ∈ v, sep x = true := by
  induction v with
  | nil => simp
  | cons x v ih =>
    rw [List.splitOnP_cons_eq_if_modifyHead]
    by_cases hx : sep x = true
    · rw [if_pos hx, List.forall_mem_cons, List.forall_mem_cons, ih]
      simp [hx]
    · rw [if_neg hx, List.forall_mem_cons]
      obtain ⟨f, fs, hfs⟩ := List.exists_cons_of_ne_nil (List.splitOnP_ne_nil sep v)
      simp [hfs, hx]

/-- `split` has at most the parts that stand between the separators. -/
theorem length_split_le (s : List α) : (split sep s).length ≤ (s.splitOnP sep).length := by
  unfold split
  split
  · exact (List.rdropWhile_prefix _ _).length_le
  · exact List.length_pos_of_ne_nil (List.splitOnP_ne_nil sep s)

/-- A tail behind a separator adds a field iff it is not made of separators alone. -/
theorem lt_length_split_iff (hc : sep c = true) :
    (t.splitOnP sep).length < (split sep (t ++ c :: v)).length ↔ ∃ x ∈ v, sep x = false := by
  have hany : (t ++ c :: v).any sep = true := by simp [hc]
  rw [split, if_pos hany, List.splitOnP_append_cons t v hc]
  constructor
  · intro hlt
    by_contra hnone
    have hall : ∀ f ∈ v.splitOnP sep, f.isEmpty = true := by
      refine forall_splitOnP_iff.mpr fun x hx => ?_
      by_contra hsep
      exact hnone ⟨x, hx, Bool.eq_false_iff.mpr hsep⟩
    rw [rdropWhile_append_of_forall hall] at hlt
    exact absurd (List.rdropWhile_prefix _ _).length_le (Nat.not_le.mpr hlt)
  · rintro ⟨x, hx, hsep⟩
    have hexists : ∃ f ∈ v.splitOnP sep, f.isEmpty = false := by
      by_contra hnone
      have hall : ∀ f ∈ v.splitOnP sep, f.isEmpty = true := by
        intro f hf
        by_contra hempty
        exact hnone ⟨f, hf, Bool.eq_false_iff.mpr hempty⟩
      rw [forall_splitOnP_iff.mp hall x hx] at hsep
      cases hsep
    rw [rdropWhile_append_of_exists hexists, List.length_append]
    have hpos : 0 < ((v.splitOnP sep).rdropWhile List.isEmpty).length := by
      refine List.length_pos_of_ne_nil fun hnil => ?_
      obtain ⟨f, hf, hempty⟩ := hexists
      rw [(List.rdropWhile_eq_nil_iff).mp hnil f hf] at hempty
      cases hempty
    omega

end Split

/-! ## Indices -/

section LastIndexOf

variable [DecidableEq α] {c : α}

theorem lastIndexOf_eq_none {s : List α} (h : c ∉ s) : lastIndexOf c s = none := by
  induction s with
  | nil => rfl
  | cons x s ih =>
    rw [List.mem_cons, not_or] at h
    simp [lastIndexOf, ih h.2, Ne.symm h.1]

/-- The last index of a character is where nothing behind it is the same. -/
theorem lastIndexOf_append_cons (s : List α) {t : List α} (h : c ∉ t) :
    lastIndexOf c (s ++ c :: t) = some s.length := by
  induction s with
  | nil => simp [lastIndexOf, lastIndexOf_eq_none h]
  | cons x s ih => simp [lastIndexOf, ih]

/-- A string is cut at the last occurrence of a character. -/
theorem exists_last {s : List α} (h : c ∈ s) : ∃ s₁ s₂, s = s₁ ++ c :: s₂ ∧ c ∉ s₂ := by
  induction s with
  | nil => cases h
  | cons x s ih =>
    by_cases hmem : c ∈ s
    · obtain ⟨s₁, s₂, rfl, hlast⟩ := ih hmem
      exact ⟨x :: s₁, s₂, rfl, hlast⟩
    · rcases List.mem_cons.mp h with rfl | htail
      · exact ⟨[], s, rfl, hmem⟩
      · exact absurd htail hmem

end LastIndexOf

end JavaString
