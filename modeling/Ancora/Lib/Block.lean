import Mathlib.Data.List.Basic

/-!
# Blocks of memory

A block is the list of its cells. Reading and writing are partial: an access that leaves the
block has no result. A program over blocks that always has a result has stayed inside of them.

- `Block.read`, `Block.write`: some cells at once; a single cell is read with `d[i]?`.
- `Block.realloc`: a block of another size, with what was in it.
- `Block.At d i bs`: the cells `bs` stand at `i`. `At.cons_iff` and `At.append_iff` take it apart.
- **`write_mid`**: writing over a stretch of known length.
- `at_write`, `At.write`: what stands where it has been written, and beside it.
-/

namespace Block

variable {β : Type} {d a c bs cs : List β} {b : β} {i j n : Nat}

/-- The `n` cells from `i` on. -/
def read (d : List β) (i n : Nat) : Option (List β) :=
  if i + n ≤ d.length then some ((d.drop i).take n) else none

/-- `bs` over the cells from `i` on. -/
def write (d : List β) (i : Nat) (bs : List β) : Option (List β) :=
  if i + bs.length ≤ d.length then some (d.take i ++ bs ++ d.drop (i + bs.length)) else none

/-- A block of `n` cells that starts as `d` does; what is new in it is arbitrary. -/
def realloc (d : List β) (n : Nat) (fresh : Nat → β) : List β :=
  d.take n ++ (List.range' d.length (n - d.length)).map fresh

/-- `bs` stands at `i`. -/
def At (d : List β) (i : Nat) (bs : List β) : Prop := read d i bs.length = some bs

/-- A read inside the block gives its bytes. -/
theorem read_isSome (h : i + n ≤ d.length) : read d i n = some ((d.drop i).take n) := if_pos h

theorem read_one (d : List β) (i : Nat) : read d i 1 = d[i]?.map fun b => [b] := by
  rcases Nat.lt_or_ge i d.length with h | h
  · rw [read_isSome h, List.drop_eq_getElem_cons h, List.getElem?_eq_getElem h]
    rfl
  · rw [read, if_neg (by omega), List.getElem?_eq_none h]
    rfl

/-- A read gives as many bytes as it was asked for, and was inside. -/
theorem length_of_read (h : read d i n = some bs) : bs.length = n ∧ i + n ≤ d.length := by
  unfold read at h
  split at h
  · rename_i hle
    rw [← Option.some.inj h, List.length_take, List.length_drop]
    omega
  · cases h

/-- A write does not change the size of the block. -/
theorem length_of_write (h : write d i bs = some c) : c.length = d.length := by
  unfold write at h
  split at h
  · rename_i hle
    rw [← Option.some.inj h]
    simp only [List.length_append, List.length_take, List.length_drop]
    omega
  · cases h

/-- A write inside the block succeeds. -/
theorem exists_write (bs : List β) (h : i + bs.length ≤ d.length) :
    ∃ c, write d i bs = some c ∧ c.length = d.length := by
  have hwrite : write d i bs = some (d.take i ++ bs ++ d.drop (i + bs.length)) := if_pos h
  exact ⟨_, hwrite, length_of_write hwrite⟩

/-- A block has the size it was reallocated with. -/
theorem length_realloc (d : List β) (n : Nat) (fresh : Nat → β) :
    (realloc d n fresh).length = n := by
  simp only [realloc, List.length_append, List.length_take, List.length_map, List.length_range']
  omega

/-- A block that grows keeps its bytes. -/
theorem realloc_of_le (fresh : Nat → β) (h : d.length ≤ n) :
    ∃ new, new.length = n - d.length ∧ realloc d n fresh = d ++ new := by
  refine ⟨(List.range' d.length (n - d.length)).map fresh, ?_, ?_⟩
  · rw [List.length_map, List.length_range']
  · rw [realloc, List.take_of_length_le h]

/-- What lies in the block does so inside. -/
theorem At.bound (h : At d i bs) : i + bs.length ≤ d.length := (length_of_read h).2

theorem at_nil_iff : At d i [] ↔ i ≤ d.length := by
  simp [At, read]

/-- Bytes lie somewhere if the first does and the rest lies behind it. -/
theorem At.cons_iff : At d i (b :: bs) ↔ d[i]? = some b ∧ At d (i + 1) bs := by
  unfold At read
  by_cases hlt : i < d.length
  · rw [List.drop_eq_getElem_cons hlt, List.length_cons, List.take_succ_cons,
      List.getElem?_eq_getElem hlt]
    by_cases hle : i + 1 + bs.length ≤ d.length
    · rw [if_pos hle, if_pos (by omega)]
      simp
    · rw [if_neg hle, if_neg (by omega)]
      simp
  · rw [if_neg (by simp only [List.length_cons]; omega), List.getElem?_eq_none (by omega)]
    simp

/-- The same for two stretches of them. -/
theorem At.append_iff : At d i (bs ++ cs) ↔ At d i bs ∧ At d (i + bs.length) cs := by
  induction bs generalizing i with
  | nil =>
    rw [List.nil_append, at_nil_iff, List.length_nil, Nat.add_zero]
    constructor
    · intro h
      exact ⟨Nat.le_of_add_right_le h.bound, h⟩
    · rintro ⟨-, h⟩
      exact h
  | cons b bs ih =>
    rw [List.cons_append, At.cons_iff, At.cons_iff, ih, List.length_cons, and_assoc,
      show i + 1 + bs.length = i + (bs.length + 1) by omega]

/-- What stands in the middle. -/
theorem at_mid (a bs c : List β) : At (a ++ bs ++ c) a.length bs := by
  have hle : a.length + bs.length ≤ (a ++ bs ++ c).length := by simp
  rw [At, read_isSome hle, List.append_assoc, List.drop_left, List.take_left]

/-- What lies in a block lies in a longer one. -/
theorem At.extend (h : At d i bs) (e : List β) : At (d ++ e) i bs := by
  have hle := h.bound
  have hread : (d.drop i).take bs.length = bs := by
    rw [At, read_isSome hle] at h
    exact Option.some.inj h
  have hle' : i + bs.length ≤ (d ++ e).length := by
    rw [List.length_append]
    omega
  rw [At, read_isSome hle', List.drop_append_of_le_length (by omega),
    List.take_append_of_le_length (by rw [List.length_drop]; omega), hread]

/-- Behind a first part the positions count from its end. -/
theorem at_append_left_iff (a : List β) : At (a ++ d) (a.length + i) bs ↔ At d i bs := by
  unfold At read
  rw [List.length_append, List.drop_append]
  have hdrop : a.drop (a.length + i) = [] := List.drop_eq_nil_of_le (by omega)
  rw [hdrop, List.nil_append, Nat.add_sub_cancel_left]
  by_cases hle : i + bs.length ≤ d.length
  · rw [if_pos hle, if_pos (by omega)]
  · rw [if_neg hle, if_neg (by omega)]

/-- Writing over a stretch of known length. -/
theorem write_mid {o b : List β} (hlen : o.length = b.length) (hi : i = a.length) :
    write (a ++ o ++ c) i b = some (a ++ b ++ c) := by
  subst hi
  have hle : a.length + b.length ≤ (a ++ o ++ c).length := by
    simp only [List.length_append]
    omega
  have htake : (a ++ o ++ c).take a.length = a := by
    rw [List.append_assoc, List.take_left]
  have hdrop : (a ++ o ++ c).drop (a.length + b.length) = c := by
    rw [← hlen, ← List.length_append, List.drop_left]
  rw [write, if_pos hle, htake, hdrop]

/-- Bytes lie somewhere if each of them is at its place. -/
theorem at_iff : At d i bs ↔ i + bs.length ≤ d.length ∧ ∀ k < bs.length, d[i + k]? = bs[k]? := by
  constructor
  · intro h
    have hle := h.bound
    have hread : (d.drop i).take bs.length = bs := Option.some.inj ((read_isSome hle).symm.trans h)
    refine ⟨hle, fun k hk => ?_⟩
    conv_rhs => rw [← hread]
    rw [List.getElem?_take_of_lt hk, List.getElem?_drop]
  · rintro ⟨hle, h⟩
    rw [At, read_isSome hle, Option.some.injEq]
    refine List.ext_getElem? fun k => ?_
    by_cases hk : k < bs.length
    · rw [List.getElem?_take_of_lt hk, List.getElem?_drop, h k hk]
    · rw [List.getElem?_eq_none (by rw [List.length_take]; omega),
        List.getElem?_eq_none (by omega)]

/-- What has been written lies where it was written. -/
theorem at_write (h : write d i bs = some c) : At c i bs := by
  unfold write at h
  split at h
  · rename_i hle
    have hlen : (d.take i).length = i := by
      rw [List.length_take]
      omega
    have hmid := at_mid (d.take i) bs (d.drop (i + bs.length))
    rwa [hlen, Option.some.inj h] at hmid
  · cases h

/-- A write leaves the cells beside it as they were. -/
theorem cell_beside_write {e : List β} (h : write d j cs = some e)
    (hn : n < j ∨ j + cs.length ≤ n) :
    e[n]? = d[n]? := by
  unfold write at h
  split at h
  · rename_i hle
    have hlen : (d.take j).length = j := by
      rw [List.length_take]
      omega
    rw [← Option.some.inj h, List.append_assoc]
    rcases hn with hn | hn
    · rw [List.getElem?_append_left (by omega), List.getElem?_take_of_lt hn]
    · rw [List.getElem?_append_right (by omega), List.getElem?_append_right (by omega),
        List.getElem?_drop, hlen]
      congr 1
      omega
  · cases h

/-- What stands beside the cells that are written stays. -/
theorem At.write (hat : At d i bs) (h : Block.write d j cs = some c)
    (hbeside : i + bs.length ≤ j ∨ j + cs.length ≤ i) : At c i bs := by
  obtain ⟨hle, hcells⟩ := at_iff.mp hat
  refine at_iff.mpr ⟨by rw [length_of_write h]; exact hle, fun k hk => ?_⟩
  rw [cell_beside_write h (by omega)]
  exact hcells k hk

/-- What lies in a block still does when the block has grown. -/
theorem At.realloc (hat : At d i bs) (fresh : Nat → β) (h : d.length ≤ n) :
    At (Block.realloc d n fresh) i bs := by
  obtain ⟨new, -, heq⟩ := realloc_of_le fresh h
  rw [heq]
  exact hat.extend new

end Block
