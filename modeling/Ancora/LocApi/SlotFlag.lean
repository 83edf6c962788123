import Ancora.LocApi.SlotOwner

/-!
# The summary flag of the slot table (loc_api_sync_call.c:67–96, 143–274)

`loc_sync_data.in_use` says whether any slot is in use, so that a callback that nobody waits
for costs one test. Four functions keep it: `loc_api_sync_call_init` and `loc_alloc_slot` set
it, `loc_free_slot` clears it when it finds no other slot in use, and
`loc_api_callback_process_sync_call` clears it from what its walk has seen, although the walk
ends early once the callback is consumed.

- `SyncData`: `loc_sync_data` between two operations; `size` is zero before the first
  `loc_api_sync_call_init`.
- `walk_inUse`: what a walk has seen of the table is right even if it ended early, since only a
  slot that is in use consumes a callback.
- **`summary_flag_exact`**: after every sequence of operations the flag says whether a slot is
  in use, and a callback that a slot waits for is delivered.
-/

namespace Ancora.LocApi.SlotFlag

open SyncCall (Callback Slot SlotId)

variable {α : Type}

/-- `loc_sync_data`. -/
structure SyncData (α : Type) where
  size : Nat
  inUse : Bool
  slotInUse : SlotId → Bool
  slots : SlotId → Slot α

/-- The static variable before anything has run. -/
def SyncData.static (slots : SlotId → Slot α) : SyncData α where
  size := 0
  inUse := false
  slotInUse _ := false
  slots := slots

/-- The indices of `for (i = 0; i < loc_sync_data.size; i++)`. -/
def SyncData.indices (d : SyncData α) : List SlotId :=
  (List.finRange 8).filter fun i => i.val < d.size

/-! ## The code -/

/-- `loc_api_sync_call_init` (loc_api_sync_call.c:67). -/
def SyncData.locApiSyncCallInit (d : SyncData α) : SyncData α where
  size := 8
  inUse := false
  slotInUse _ := false
  slots i := SlotOwner.locApiSyncCallInit (d.slots i)

/-- `loc_alloc_slot` (loc_api_sync_call.c:217); -1 is `none`. -/
def SyncData.locAllocSlot (d : SyncData α) : SyncData α × Option SlotId :=
  match d.indices.find? fun i => !d.slotInUse i with
  | some i => ({ d with inUse := true, slotInUse := Function.update d.slotInUse i true }, some i)
  | none => (d, none)

/-- `loc_free_slot` (loc_api_sync_call.c:250). -/
def SyncData.locFreeSlot (d : SyncData α) (selectId : SlotId) : SyncData α :=
  let slotInUse := Function.update d.slotInUse selectId false
  -- the scan stops at the first slot in use, or runs to the end
  match d.indices.find? slotInUse with
  | some _ => { d with slotInUse := slotInUse }
  | none => { d with slotInUse := slotInUse, inUse := false }

/-- The locals of `loc_api_callback_process_sync_call`, and the slots. -/
structure Walk (α : Type) where
  inUse : Bool
  consumed : Bool
  slots : SlotId → Slot α

/-- One turn of the loop (loc_api_sync_call.c:163–188). -/
def visit (slotInUse : SlotId → Bool) (cb : Callback α) (w : Walk α) (i : SlotId) : Walk α :=
  if (w.slots i).accepts (slotInUse i) cb then
    { inUse := w.inUse || slotInUse i
      consumed := true
      slots := Function.update w.slots i ((w.slots i).deliver cb) }
  else { w with inUse := w.inUse || slotInUse i }

/-- The loop, which runs while the callback is not consumed. -/
def walk (slotInUse : SlotId → Bool) (cb : Callback α) : List SlotId → Walk α → Walk α
  | [], w => w
  | i :: is, w => if w.consumed then w else walk slotInUse cb is (visit slotInUse cb w i)

/-- `loc_api_callback_process_sync_call` (loc_api_sync_call.c:143). -/
def SyncData.locApiCallbackProcessSyncCall (d : SyncData α) (cb : Callback α) : SyncData α :=
  if !d.inUse then d
  else
    let w := walk d.slotInUse cb d.indices ⟨false, false, d.slots⟩
    { d with inUse := if !w.inUse then false else d.inUse, slots := w.slots }

/-- The operations. -/
inductive Op (α : Type)
  | init
  | alloc
  | free (selectId : SlotId)
  | callback (cb : Callback α)
  /-- A caller fills in its slot, or waits: only the contents of the slots change. -/
  | write (slots : SlotId → Slot α)

/-- One completed operation. -/
def step (d : SyncData α) : Op α → SyncData α
  | .init => d.locApiSyncCallInit
  | .alloc => d.locAllocSlot.1
  | .free selectId => d.locFreeSlot selectId
  | .callback cb => d.locApiCallbackProcessSyncCall cb
  | .write slots => { d with slots := slots }

/-- A sequence of completed operations. -/
def run (d : SyncData α) (ops : List (Op α)) : SyncData α := ops.foldl step d

/-! ## The walk -/

section Walk

variable {slotInUse : SlotId → Bool} {cb : Callback α} {w : Walk α} {d : SyncData α}

/-- The indices are those of the array. -/
theorem mem_indices {i : SlotId} : i ∈ d.indices ↔ i.val < d.size := by
  simp [SyncData.indices]

/-- Only a slot in use takes a callback. -/
theorem inUse_of_accepts {slot : Slot α} {inUse : Bool} (h : slot.accepts inUse cb = true) :
    inUse = true := by
  unfold Slot.accepts at h
  rw [Bool.and_eq_true, Bool.and_eq_true, Bool.and_eq_true] at h
  exact h.1.1.1

/-- The loop collects whether a slot is in use. -/
theorem visit_inUse (i : SlotId) :
    (visit slotInUse cb w i).inUse = (w.inUse || slotInUse i) := by
  unfold visit
  split
  · rfl
  · rfl

/-- What has consumed a callback was in use, and was seen to be. -/
theorem visit_consumed {i : SlotId} (hw : w.consumed = true → w.inUse = true)
    (h : (visit slotInUse cb w i).consumed = true) :
    (visit slotInUse cb w i).inUse = true := by
  unfold visit at h ⊢
  split at h
  · rename_i hacc
    rw [if_pos hacc]
    simp [inUse_of_accepts hacc]
  · rename_i hacc
    rw [if_neg hacc]
    simp [hw h]

/-- An early end of the walk does not hide a slot in use. -/
theorem walk_inUse (is : List SlotId) (hw : w.consumed = true → w.inUse = true) :
    (walk slotInUse cb is w).inUse = (w.inUse || is.any slotInUse) := by
  induction is generalizing w with
  | nil => simp [walk]
  | cons i is ih =>
    unfold walk
    split
    · rename_i hconsumed
      rw [hw hconsumed, Bool.true_or]
    · rw [ih (visit_consumed hw), visit_inUse, List.any_cons, Bool.or_assoc]

/-- The walk gives the callback to the first slot that accepts it. -/
theorem walk_slots (is : List SlotId) (hw : w.consumed = false) :
    (walk slotInUse cb is w).slots =
      match is.find? fun i => (w.slots i).accepts (slotInUse i) cb with
      | some i => Function.update w.slots i ((w.slots i).deliver cb)
      | none => w.slots := by
  induction is generalizing w with
  | nil => rfl
  | cons i is ih =>
    unfold walk
    rw [if_neg (by simp [hw]), List.find?_cons]
    by_cases hacc : (w.slots i).accepts (slotInUse i) cb = true
    · -- the rest of the walk is cut off
      have hvisit : visit slotInUse cb w i = ⟨w.inUse || slotInUse i, true,
          Function.update w.slots i ((w.slots i).deliver cb)⟩ := if_pos hacc
      rw [hvisit, hacc]
      cases is with
      | nil => rfl
      | cons j js => rfl
    · have hvisit : visit slotInUse cb w i = { w with inUse := w.inUse || slotInUse i } :=
        if_neg hacc
      rw [hvisit, Bool.eq_false_iff.mpr hacc]
      exact ih hw

end Walk

/-! ## The flag -/

section Flag

variable {d : SyncData α}

/-- The flag says whether a slot is in use. -/
def Exact (d : SyncData α) : Prop :=
  d.inUse = true ↔ ∃ i : SlotId, i.val < d.size ∧ d.slotInUse i = true

theorem exact_static (slots : SlotId → Slot α) : Exact (SyncData.static slots) := by
  constructor
  · intro h
    cases h
  · rintro ⟨i, hi, -⟩
    cases hi

/-- The flag is exact after the initialisation, -/
theorem exact_init : Exact d.locApiSyncCallInit := by
  constructor
  · intro h
    cases h
  · rintro ⟨i, -, hi⟩
    cases hi

/-- after a slot has been taken, -/
theorem exact_alloc (hd : Exact d) : Exact d.locAllocSlot.1 := by
  unfold SyncData.locAllocSlot
  split
  · rename_i i hfind
    refine iff_of_true rfl ⟨i, ?_, ?_⟩
    · exact mem_indices.mp (List.mem_of_find?_eq_some hfind)
    · exact Function.update_self i true d.slotInUse
  · exact hd

/-- after one has been given back, -/
theorem exact_free (hd : Exact d) (selectId : SlotId) : Exact (d.locFreeSlot selectId) := by
  unfold SyncData.locFreeSlot
  dsimp only
  split
  · -- another slot is in use, and it was before
    rename_i i hfind
    have hi : i.val < d.size := mem_indices.mp (List.mem_of_find?_eq_some hfind)
    have huse := List.find?_some hfind
    refine iff_of_true (hd.mpr ⟨i, hi, ?_⟩) ⟨i, hi, huse⟩
    by_cases hsame : i = selectId
    · rw [hsame, Function.update_self] at huse
      cases huse
    · rw [Function.update_of_ne hsame] at huse
      exact huse
  · rename_i hfind
    refine iff_of_false (by simp) ?_
    rintro ⟨i, hi, huse⟩
    exact List.find?_eq_none.mp hfind i (mem_indices.mpr hi) huse

/-- A walk finds a slot in use exactly where there is one. -/
theorem walk_indices_inUse (cb : Callback α) :
    (walk d.slotInUse cb d.indices ⟨false, false, d.slots⟩).inUse = true ↔
      ∃ i : SlotId, i.val < d.size ∧ d.slotInUse i = true := by
  rw [walk_inUse d.indices (fun h => h), Bool.false_or, List.any_eq_true]
  simp only [mem_indices]

/-- So the flag stays as it is. -/
theorem callback_inUse (hd : Exact d) (cb : Callback α) :
    (d.locApiCallbackProcessSyncCall cb).inUse = d.inUse := by
  unfold SyncData.locApiCallbackProcessSyncCall
  by_cases hflag : d.inUse = true
  · have hseen := (walk_indices_inUse cb).mpr (hd.mp hflag)
    simp [hflag, hseen]
  · simp [hflag]

theorem callback_size (cb : Callback α) :
    (d.locApiCallbackProcessSyncCall cb).size = d.size := by
  unfold SyncData.locApiCallbackProcessSyncCall
  split
  · rfl
  · rfl

/-- A callback takes and gives back no slot. -/
theorem callback_slotInUse (cb : Callback α) :
    (d.locApiCallbackProcessSyncCall cb).slotInUse = d.slotInUse := by
  unfold SyncData.locApiCallbackProcessSyncCall
  split
  · rfl
  · rfl

/-- and after a callback. -/
theorem exact_callback (hd : Exact d) (cb : Callback α) :
    Exact (d.locApiCallbackProcessSyncCall cb) := by
  unfold Exact
  rw [callback_inUse hd, callback_size, callback_slotInUse]
  exact hd

/-- **Step lemma**. -/
theorem exact_step (hd : Exact d) (op : Op α) : Exact (step d op) := by
  cases op with
  | init => exact exact_init
  | alloc => exact exact_alloc hd
  | free selectId => exact exact_free hd selectId
  | callback cb => exact exact_callback hd cb
  | write slots => exact hd

/-- **Run lemma**. -/
theorem exact_run (hd : Exact d) (ops : List (Op α)) : Exact (run d ops) := by
  induction ops generalizing d with
  | nil => exact hd
  | cons op ops ih => exact ih (exact_step hd op)

/-- A callback that a slot waits for is not dropped. -/
theorem callback_delivered (hd : Exact d) {cb : Callback α} {i : SlotId} (hi : i.val < d.size)
    (hacc : (d.slots i).accepts (d.slotInUse i) cb = true) :
    ∃ j : SlotId, j.val < d.size ∧ (d.slots j).accepts (d.slotInUse j) cb = true ∧
      (d.locApiCallbackProcessSyncCall cb).slots =
        Function.update d.slots j ((d.slots j).deliver cb) := by
  have hflag : d.inUse = true := hd.mpr ⟨i, hi, inUse_of_accepts hacc⟩
  have hslots : (d.locApiCallbackProcessSyncCall cb).slots =
      (walk d.slotInUse cb d.indices ⟨false, false, d.slots⟩).slots := by
    unfold SyncData.locApiCallbackProcessSyncCall
    rw [if_neg (by simp [hflag])]
  rw [hslots, walk_slots d.indices rfl]
  cases hfind : d.indices.find? fun k => (d.slots k).accepts (d.slotInUse k) cb with
  | none => exact absurd hacc (List.find?_eq_none.mp hfind i (mem_indices.mpr hi))
  | some j =>
    exact ⟨j, mem_indices.mp (List.mem_of_find?_eq_some hfind),
      List.find?_some (p := fun k => (d.slots k).accepts (d.slotInUse k) cb) hfind, rfl⟩

end Flag

/-- What the flag is for: it says whether a slot is in use, where it is clear no slot waits for
a callback, and where a slot waits for one it is delivered. -/
structure SummaryExact (d : SyncData α) : Prop where
  flag : d.inUse = true ↔ ∃ i : SlotId, i.val < d.size ∧ d.slotInUse i = true
  unwanted : d.inUse = false → ∀ (cb : Callback α) (i : SlotId), i.val < d.size →
    (d.slots i).accepts (d.slotInUse i) cb = false
  delivered : ∀ (cb : Callback α) (i : SlotId), i.val < d.size →
    (d.slots i).accepts (d.slotInUse i) cb = true →
    ∃ j : SlotId, j.val < d.size ∧ (d.slots j).accepts (d.slotInUse j) cb = true ∧
      (d.locApiCallbackProcessSyncCall cb).slots =
        Function.update d.slots j ((d.slots j).deliver cb)

/-- After every sequence of operations the summary flag is exact. -/
theorem summary_flag_exact (slots : SlotId → Slot α) (ops : List (Op α)) :
    SummaryExact (run (SyncData.static slots) ops) := by
  have hexact : Exact (run (SyncData.static slots) ops) := exact_run (exact_static slots) ops
  refine ⟨hexact, fun hflag cb i hi => ?_, fun cb i hi hacc => callback_delivered hexact hi hacc⟩
  rw [Bool.eq_false_iff]
  intro hacc
  rw [hexact.mpr ⟨i, hi, inUse_of_accepts hacc⟩] at hflag
  cases hflag

end Ancora.LocApi.SlotFlag
