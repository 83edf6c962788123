import Mathlib.Data.List.Basic

/-!
# Arrays that hold C strings

An array of `size` cells, with the indices at which it was written: nothing stops a program
from writing behind the last cell, so that it did not is something to prove.

- `Inside a`: every write was within the array.
- `Starts a s`: its first cells are `s`; `Str a s`: it holds `s` and a terminating zero.
- **`Starts.write`**, **`Str.append`**: writing behind what is there adds to it.
- **`Str.strlcat`**: what `strlcat` makes of a string.
-/

/-- Cells, and the indices that were written. -/
structure CArray (β : Type) where
  size : Nat
  cells : Nat → β
  touched : List Nat

namespace CArray

variable {β : Type} {a : CArray β} {s t : List β} {i k : Nat}

/-- `a[i] = b` -/
def set (a : CArray β) (i : Nat) (b : β) : CArray β where
  size := a.size
  cells k := if k = i then b else a.cells k
  touched := a.touched ++ [i]

/-- These values from `i` on. -/
def write (a : CArray β) (i : Nat) : List β → CArray β
  | [] => a
  | b :: bs => (a.set i b).write (i + 1) bs

/-- Every write was within the array. -/
def Inside (a : CArray β) : Prop := ∀ k ∈ a.touched, k < a.size

/-- The first cells are these. -/
def Starts (a : CArray β) (s : List β) : Prop := (List.range s.length).map a.cells = s

@[simp] theorem write_size (a : CArray β) (i : Nat) (bs : List β) :
    (a.write i bs).size = a.size := by
  induction bs generalizing a i with
  | nil => rfl
  | cons b bs ih => exact ih (a.set i b) (i + 1)

/-- A write touches the cells it writes, in their order. -/
theorem write_touched (a : CArray β) (i : Nat) (bs : List β) :
    (a.write i bs).touched = a.touched ++ List.range' i bs.length := by
  induction bs generalizing a i with
  | nil => simp [CArray.write]
  | cons b bs ih =>
    rw [CArray.write, ih, List.length_cons, List.range'_succ]
    simp [CArray.set]

/-- A write leaves the cells behind it as they were. -/
theorem write_cells_of_ge (a : CArray β) (bs : List β) (hk : i + bs.length ≤ k) :
    (a.write i bs).cells k = a.cells k := by
  induction bs generalizing a i with
  | nil => rfl
  | cons b bs ih =>
    rw [List.length_cons] at hk
    rw [CArray.write, ih (a.set i b) (by omega)]
    exact if_neg (by omega)

/-- Setting a cell of the array stays inside it. -/
theorem Inside.set {b : β} (h : a.Inside) (hi : i < a.size) : (a.set i b).Inside := by
  intro k hk
  rcases List.mem_append.mp hk with hk | hk
  · exact h k hk
  · rw [List.mem_singleton.mp hk]
    exact hi

/-- A write that fits stays inside the array. -/
theorem Inside.write (h : a.Inside) (bs : List β) (hfit : i + bs.length ≤ a.size) :
    (a.write i bs).Inside := by
  induction bs generalizing a i with
  | nil => exact h
  | cons b bs ih =>
    rw [List.length_cons] at hfit
    refine ih (h.set (by omega)) ?_
    show i + 1 + bs.length ≤ a.size
    omega

/-- Setting the cell behind what the array starts with appends to it. -/
theorem Starts.set (h : a.Starts s) (b : β) : (a.set s.length b).Starts (s ++ [b]) := by
  unfold Starts at h ⊢
  have hold : (List.range s.length).map (a.set s.length b).cells = s := by
    refine (List.map_congr_left fun k hk => ?_).trans h
    exact if_neg (Nat.ne_of_lt (List.mem_range.mp hk))
  rw [List.length_append, List.length_singleton, List.range_succ, List.map_append, hold]
  simp [CArray.set]

/-- Writing behind what is there adds to it. -/
theorem Starts.write (h : a.Starts s) (bs : List β) : (a.write s.length bs).Starts (s ++ bs) := by
  induction bs generalizing a s with
  | nil =>
    rw [List.append_nil]
    exact h
  | cons b bs ih =>
    have hnext := ih (h.set b)
    rw [List.length_append, List.append_assoc] at hnext
    exact hnext

/-- The array also starts with a beginning of what it starts with. -/
theorem Starts.of_append (h : a.Starts (s ++ t)) : a.Starts s := by
  unfold Starts at h ⊢
  have htake := congrArg (List.take s.length) h
  rw [List.take_left' rfl, ← List.map_take, List.take_range, List.length_append,
    Nat.min_eq_left (Nat.le_add_right _ _)] at htake
  exact htake

/-- The cells that the array starts with, one by one. -/
theorem Starts.cell (h : a.Starts s) (hk : k < s.length) : a.cells k = s[k] := by
  have hget := congrArg (fun l : List β => l[k]?) h
  simpa [hk] using hget

/-- It is enough to know the cells one by one. -/
theorem Starts.of_cells (h : ∀ (k : Nat) (hk : k < s.length), a.cells k = s[k]) : a.Starts s := by
  refine List.ext_getElem (by simp) fun k hk hk' => ?_
  rw [List.getElem_map, List.getElem_range]
  exact h k hk'

section Strings

variable [OfNat β 0]

/-- `memset(a, 0, sizeof a)` -/
def clear (a : CArray β) : CArray β where
  size := a.size
  cells _ := 0
  touched := a.touched ++ List.range a.size

/-- The array holds the string. -/
structure Str (a : CArray β) (s : List β) : Prop where
  starts : a.Starts (s ++ [0])
  fits : s.length < a.size
  nonzero : 0 ∉ s

/-- Clearing stays inside the array. -/
theorem Inside.clear (h : a.Inside) : a.clear.Inside := by
  intro k hk
  rcases List.mem_append.mp hk with hk | hk
  · exact h k hk
  · exact List.mem_range.mp hk

/-- A cleared array is the empty string. -/
theorem Str.clear (h : 0 < a.size) : a.clear.Str ([] : List β) where
  starts := rfl
  fits := h
  nonzero := List.not_mem_nil

/-- Behind a string another one can be written. -/
theorem Str.append (h : a.Str s) (bs : List β) (hfit : s.length + bs.length < a.size)
    (hbs : 0 ∉ bs) : (a.write s.length (bs ++ [0])).Str (s ++ bs) where
  starts := by
    rw [List.append_assoc]
    exact h.starts.of_append.write (bs ++ [0])
  fits := by
    rw [List.length_append, write_size]
    exact hfit
  nonzero hmem := by
    rcases List.mem_append.mp hmem with hmem | hmem
    · exact h.nonzero hmem
    · exact hbs hmem

/-- `strlcpy(a, src, sizeof a)` for a nonempty array. -/
def strlcpy (a : CArray β) (src : List β) : CArray β :=
  a.write 0 (src.take (a.size - 1) ++ [0])

/-- `strlcpy` stays inside an array that has a cell. -/
theorem Inside.strlcpy (ha : a.Inside) (hpos : 0 < a.size) (src : List β) :
    (a.strlcpy src).Inside := by
  have hlen : (src.take (a.size - 1)).length ≤ a.size - 1 := List.length_take_le _ _
  refine ha.write _ ?_
  rw [List.length_append, List.length_singleton]
  omega

/-- `strlcpy` leaves as much of the source as there is room for, and a terminator. -/
theorem Str.strlcpy (hpos : 0 < a.size) (hsrc : 0 ∉ t) :
    (a.strlcpy t).Str (t.take (a.size - 1)) where
  starts := by
    have hempty : a.Starts [] := rfl
    exact hempty.write (t.take (a.size - 1) ++ [0])
  fits := by
    have hlen : (t.take (a.size - 1)).length ≤ a.size - 1 := List.length_take_le _ _
    rw [CArray.strlcpy, write_size]
    omega
  nonzero hmem := hsrc (List.mem_of_mem_take hmem)

variable [DecidableEq β]

/-- The cells before the first zero. -/
def str (a : CArray β) : List β := ((List.range a.size).map a.cells).takeWhile (· ≠ 0)

/-- A string is found again by its terminator. -/
theorem Str.str_eq (h : a.Str s) : a.str = s := by
  have htake : ((List.range a.size).map a.cells).take (s.length + 1) = s ++ [0] := by
    have hstarts := h.starts
    unfold Starts at hstarts
    rw [List.length_append, List.length_singleton] at hstarts
    rw [← List.map_take, List.take_range, Nat.min_eq_left h.fits, hstarts]
  have hsplit := List.take_append_drop (s.length + 1) ((List.range a.size).map a.cells)
  rw [htake, List.append_assoc, List.singleton_append] at hsplit
  have hall : ∀ b ∈ s, decide (b ≠ 0) = true := by
    intro b hb
    refine decide_eq_true fun hz => ?_
    rw [hz] at hb
    exact h.nonzero hb
  rw [str, ← hsplit, List.takeWhile_append_of_pos hall, List.takeWhile_cons_of_neg (by simp),
    List.append_nil]

/-- `strlcat(a, src, sizeof a)`: as much of `src` as fits with the terminating zero. -/
def strlcat (a : CArray β) (src : List β) : CArray β :=
  if a.str.length = a.size then a
  else a.write a.str.length (src.take (a.size - a.str.length - 1) ++ [0])

/-- `strlcat` appends as much of the source as there is room for, inside the array. -/
theorem Str.strlcat (h : a.Str s) (ha : a.Inside) (hsrc : 0 ∉ t) :
    (a.strlcat t).Str (s ++ t.take (a.size - s.length - 1)) ∧ (a.strlcat t).Inside := by
  have hfits := h.fits
  have hlen : (t.take (a.size - s.length - 1)).length ≤ a.size - s.length - 1 :=
    List.length_take_le _ _
  rw [CArray.strlcat, h.str_eq, if_neg (Nat.ne_of_lt hfits)]
  constructor
  · exact h.append _ (by omega) fun hmem => hsrc (List.mem_of_mem_take hmem)
  · refine ha.write _ ?_
    rw [List.length_append, List.length_singleton]
    omega

end Strings

end CArray
