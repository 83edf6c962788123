import Ancora.Lib.History
import Ancora.Lib.Machine
import Ancora.LocApi.SyncCall

/-!
# Who owns a slot of a synchronous call (loc_api_sync_call.c)

`loc_api_select_callback` and `loc_api_wait_callback` are public: a caller may
select a slot, do something else and wait later, with whatever `select_id` it
likes. `SyncCall` follows the calls that `loc_api_sync_ioctl` makes, one per slot;
here the callers are the threads, and any of them may wait on any slot.

- A thread is at one place of the code at a time (`Pc`). The check of `select_id`
  at the top of `loc_api_wait_callback` takes no lock, so it is a step of its own,
  and `loc_free_slot` is another one after the slot's lock is given back.
- `loc_api_sync_call_init` may run at any time. It makes `loc_sync_data.lock` anew,
  so it waits for nobody; a walk of a callback goes on with its own locals.
- `held log i` reads off the history which caller slot `i` belongs to: the one that
  `loc_alloc_slot` gave it to, until that caller frees it.
- **`slots_owned_of_owner_waits`**: in every run in which a wait that gets past the
  check is made by the caller that holds the slot, and the module is initialised
  again only while no slot is in use, slots have one owner (`SlotsOwned`).

A second wait on the same slot breaks it: the ENGINE_BUSY exit of
`loc_api_wait_callback` frees the slot of the caller that is waiting.
-/

namespace Ancora.LocApi.SlotOwner

open Machine
open SyncCall (Callback EventPayload IoctlResult Slot SlotId eventIoctlReport slotInit)

variable {α : Type}

/-- The arguments of `loc_api_select_callback`, and whether `loc_api_sync_ioctl` called it. -/
structure Request where
  locHandle : Int
  eventMask : BitVec 64
  ioctlType : BitVec 32
  sync : Bool
  deriving DecidableEq, Repr

/-- The five places `loc_free_slot` is called from. -/
inductive Exit
  /-- `loc_cb_has_arrived` (loc_api_sync_call.c:410). -/
  | arrived
  /-- `loc_cb_is_waiting`: ENGINE_BUSY (loc_api_sync_call.c:419). -/
  | engineBusy
  /-- The wait ended with a callback, or for no reason. -/
  | awake
  /-- ETIMEDOUT. -/
  | timeout
  /-- `loc_ioctl` failed (loc_api_sync_call.c:507). -/
  | ioctlFailed
  deriving DecidableEq, Repr

/-- Where a thread is. -/
inductive Pc
  /-- In none of these functions. -/
  | idle
  /-- `loc_alloc_slot` returned `i` to `loc_api_select_callback`. -/
  | filling (i : SlotId) (req : Request)
  /-- In `loc_api_sync_ioctl`, about to lock `loc_sync_data.lock`. -/
  | selected (i : SlotId)
  /-- In `loc_ioctl`, holding `loc_sync_data.lock`. -/
  | calling (i : SlotId)
  /-- The engine was busy; in `pthread_cond_wait`. -/
  | busyWait (i : SlotId)
  /-- `loc_ioctl` succeeded; about to call `loc_api_wait_callback`. -/
  | called (i : SlotId)
  /-- In `loc_api_wait_callback`, past the check of `select_id`. -/
  | entering (i : SlotId)
  /-- In `pthread_cond_timedwait`. -/
  | waiting (i : SlotId)
  /-- About to call `loc_free_slot`. -/
  | freeing (i : SlotId) (exit : Exit)
  deriving DecidableEq, Repr

/-- The slot a thread is working with. -/
def Pc.slot : Pc → Option SlotId
  | .idle => none
  | .filling i _ => some i
  | .selected i => some i
  | .calling i => some i
  | .busyWait i => some i
  | .called i => some i
  | .entering i => some i
  | .waiting i => some i
  | .freeing i _ => some i

/-- Who holds `loc_sync_data.lock`. -/
inductive Lock
  | free
  | caller (t : Nat)
  | callback
  deriving DecidableEq, Repr

/-- The locals of `loc_api_callback_process_sync_call`. -/
structure Walk (α : Type) where
  cb : Callback α
  /-- The loop variable `i`. -/
  next : Nat
  inUse : Bool
  consumed : Bool

/-- What happens to the slot table. -/
inductive SlotEvent
  /-- `loc_alloc_slot` returned `i` to thread `t`. -/
  | given (t : Nat) (i : SlotId) (sync : Bool)
  /-- Thread `t` ran `loc_free_slot(i)`. -/
  | freed (t : Nat) (i : SlotId)
  deriving DecidableEq, Repr

/-- `loc_sync_data` and the threads that use it. -/
structure State (α : Type) where
  inUse : Bool
  slotInUse : SlotId → Bool
  slots : SlotId → Slot α
  lock : Lock
  /-- The callback that is being processed; there is one thread for them. -/
  walk : Option (Walk α)
  pc : Nat → Pc
  log : List SlotEvent

/-- After the first `loc_api_sync_call_init`. -/
def start (α : Type) : State α where
  inUse := false
  slotInUse _ := false
  slots _ := slotInit
  lock := .free
  walk := none
  pc _ := .idle
  log := []

/-! ## The code -/

/-- What `loc_api_select_callback` writes (loc_api_sync_call.c:318). -/
def locApiSelectCallback (slot : Slot α) (req : Request) : Slot α :=
  { slot with
    locHandle := req.locHandle
    isSelected := true
    isWaiting := false
    hasArrived := false
    waitEventMask :=
      if req.ioctlType ≠ 0 then req.eventMask ||| eventIoctlReport else req.eventMask
    ioctlType := req.ioctlType }

/-- What `loc_api_sync_call_init` writes in a slot (loc_api_sync_call.c:83). The payload
and the ioctl type stay. -/
def locApiSyncCallInit (slot : Slot α) : Slot α :=
  { slot with
    locHandle := -1
    isSelected := false
    isWaiting := false
    hasArrived := false
    waitEventMask := 0
    receivedEventMask := 0
    signalled := false }

/-- The check at the top of `loc_api_wait_callback` (loc_api_sync_call.c:392); `none` is
INVALID_PARAMETER. -/
def State.checkSelectId (s : State α) (selectId : Int) : Option SlotId :=
  if selectId < 0 then none
  else if h : selectId.toNat < 8 then
    if s.slotInUse ⟨selectId.toNat, h⟩ then some ⟨selectId.toNat, h⟩ else none
  else none

/-- Thread `t` goes on at `p`. -/
def State.goto (s : State α) (t : Nat) (p : Pc) : State α :=
  { s with pc := Function.update s.pc t p }

/-- The first slot not in use (loc_api_sync_call.c:223). -/
def State.freeSlot? (s : State α) : Option SlotId :=
  (List.finRange 8).find? fun i => !s.slotInUse i

/-- `loc_alloc_slot` gives `i` to thread `t` (loc_api_sync_call.c:227). -/
def State.locAllocSlot (s : State α) (t : Nat) (i : SlotId) (req : Request) : State α :=
  { s with
    inUse := true
    slotInUse := Function.update s.slotInUse i true
    pc := Function.update s.pc t (.filling i req)
    log := s.log ++ [.given t i req.sync] }

/-- `loc_free_slot` by thread `t`, which returns after it (loc_api_sync_call.c:256). -/
def State.locFreeSlot (s : State α) (t : Nat) (i : SlotId) : State α :=
  let slotInUse := Function.update s.slotInUse i false
  { s with
    inUse := if ∀ j, slotInUse j = false then false else s.inUse
    slotInUse := slotInUse
    pc := Function.update s.pc t .idle
    log := s.log ++ [.freed t i] }

/-- `loc_api_wait_callback` under the slot's lock, up to the wait (loc_api_sync_call.c:406). -/
def State.enterWait (s : State α) (t : Nat) (i : SlotId) : State α :=
  if (s.slots i).hasArrived then s.goto t (.freeing i .arrived)
  else if (s.slots i).isWaiting then s.goto t (.freeing i .engineBusy)
  else
    { s.goto t (.waiting i) with
      slots := Function.update s.slots i { s.slots i with isWaiting := true } }

/-- The end of the wait, with the slot's lock (loc_api_sync_call.c:439). -/
def State.endWait (s : State α) (t : Nat) (i : SlotId) (exit : Exit) : State α :=
  { s.goto t (.freeing i exit) with slots := Function.update s.slots i (s.slots i).wake }

/-- The steps of one thread. -/
inductive ThreadAct
  | select (req : Request)
  | fill
  | ioctl
  | ioctlReturn (rc : IoctlResult)
  /-- A call of `loc_api_wait_callback` from outside. -/
  | wait (selectId : Int)
  /-- The call of `loc_api_wait_callback` in `loc_api_sync_ioctl`. -/
  | waitSelected
  | enter
  | wakeUp
  | timeOut
  | free
  deriving DecidableEq, Repr

/-- A step of thread `t`. -/
def threadStep (s : State α) (t : Nat) : ThreadAct → Option (State α)
  | .select req =>
    if s.pc t = .idle ∧ s.lock = .free then
      match s.freeSlot? with
      | some i => some (s.locAllocSlot t i req)
      -- buffer full: the caller gets -1, or ENGINE_BUSY
      | none => some s
    else none
  | .fill =>
    match s.pc t with
    | .filling i req =>
      some { s.goto t (if req.sync then .selected i else .idle) with
        slots := Function.update s.slots i (locApiSelectCallback (s.slots i) req) }
    | _ => none
  | .ioctl =>
    match s.pc t with
    | .selected i =>
      if s.lock = .free then some { s.goto t (.calling i) with lock := .caller t } else none
    | .busyWait i =>
      if s.lock = .free then some { s.goto t (.calling i) with lock := .caller t } else none
    | _ => none
  | .ioctlReturn rc =>
    match s.pc t with
    | .calling i =>
      match rc with
      | .success => some { s.goto t (.called i) with lock := .free }
      | .engineBusy => some { s.goto t (.busyWait i) with lock := .free }
      | .error => some { s.goto t (.freeing i .ioctlFailed) with lock := .free }
    | _ => none
  | .wait selectId =>
    if s.pc t = .idle then
      match s.checkSelectId selectId with
      | some i => some (s.goto t (.entering i))
      | none => some s
    else none
  | .waitSelected =>
    match s.pc t with
    | .called i =>
      match s.checkSelectId i.val with
      | some i => some (s.goto t (.entering i))
      -- INVALID_PARAMETER: `loc_api_sync_ioctl` returns
      | none => some (s.goto t .idle)
    | _ => none
  | .enter =>
    match s.pc t with
    | .entering i => some (s.enterWait t i)
    | _ => none
  | .wakeUp =>
    match s.pc t with
    | .waiting i => some (s.endWait t i .awake)
    | _ => none
  | .timeOut =>
    match s.pc t with
    | .waiting i => some (s.endWait t i .timeout)
    | _ => none
  | .free =>
    match s.pc t with
    | .freeing i _ => if s.lock = .free then some (s.locFreeSlot t i) else none
    | _ => none

/-- All steps. -/
inductive Act (α : Type)
  | thread (t : Nat) (a : ThreadAct)
  /-- `loc_api_sync_call_init` (loc_api_sync_call.c:67). -/
  | init
  | callback (cb : Callback α)
  | visit
  | callbackEnd

/-- One turn of the loop of `loc_api_callback_process_sync_call` at slot `i`. -/
def State.visit (s : State α) (w : Walk α) (i : SlotId) : State α :=
  let w' := { w with next := w.next + 1, inUse := w.inUse || s.slotInUse i }
  if (s.slots i).accepts (s.slotInUse i) w.cb then
    { s with
      slots := Function.update s.slots i ((s.slots i).deliver w.cb)
      walk := some { w' with consumed := true } }
  else { s with walk := some w' }

/-- One atomic step. -/
def step (s : State α) : Act α → Option (State α)
  | .thread t a => threadStep s t a
  | .init =>
    some { s with
      inUse := false
      slotInUse := fun _ => false
      slots := fun i => locApiSyncCallInit (s.slots i)
      lock := .free }
  | .callback cb =>
    if s.walk.isNone ∧ s.lock = .free then
      if s.inUse then some { s with walk := some ⟨cb, 0, false, false⟩, lock := .callback }
      else some s
    else none
  | .visit =>
    match s.walk with
    | some w =>
      if w.consumed then none
      else if h : w.next < 8 then some (s.visit w ⟨w.next, h⟩)
      else none
    | none => none
  | .callbackEnd =>
    match s.walk with
    | some w =>
      if w.consumed ∨ 8 ≤ w.next then
        some { s with inUse := w.inUse && s.inUse, walk := none, lock := .free }
      else none
    | none => none

/-! ## Ownership -/

/-- The caller that was given a slot, and whether it is in `loc_api_sync_ioctl`. -/
structure Owner where
  caller : Nat
  sync : Bool
  deriving DecidableEq, Repr

/-- What one event does to the ownership of slot `i`. -/
def ownerAfter (i : SlotId) (o : Option Owner) : SlotEvent → Option Owner
  | .given t j sync => if j = i then some ⟨t, sync⟩ else o
  | .freed t j => if j = i ∧ o.map (·.caller) = some t then none else o

/-- The owner of slot `i`: the caller that was given it, until that caller frees it. -/
def held (log : List SlotEvent) (i : SlotId) : Option Owner := log.foldl (ownerAfter i) none

/-- A slot is given only while nobody owns it, and freed only by its owner. -/
def Allowed (log : List SlotEvent) : SlotEvent → Prop
  | .given _ i _ => held log i = none
  | .freed t i => (held log i).map (·.caller) = some t

/-- The steps of a wait that is rejected: the two checks of `select_id` that fail, the
test for ENGINE_BUSY, and what comes after it. -/
def Rejects (s : State α) : Act α → Prop
  | .thread t (.wait selectId) => s.pc t = .idle ∧ s.checkSelectId selectId = none
  | .thread t .waitSelected => ∃ i, s.pc t = .called i ∧ s.checkSelectId i.val = none
  | .thread t .enter => ∃ i, s.pc t = .entering i ∧
      (s.slots i).hasArrived = false ∧ (s.slots i).isWaiting = true
  | .thread t .free => ∃ i, s.pc t = .freeing i .engineBusy
  | _ => False

/-- Slots have one owner. -/
structure SlotsOwned (s : State α) : Prop where
  /-- Every `loc_alloc_slot` gave a slot nobody owned; every `loc_free_slot` was its owner's. -/
  allowed : ∀ pre e, pre ++ [e] <+: s.log → Allowed pre e
  /-- `slot_in_use[i]` is true from the one to the other. -/
  inUse_iff : ∀ i, s.slotInUse i = true ↔ (held s.log i).isSome = true
  /-- A thread waits on a slot that is in use and its own. -/
  waiting : ∀ t i, s.pc t = .waiting i →
    s.slotInUse i = true ∧ (held s.log i).map (·.caller) = some t
  /-- `loc_api_sync_ioctl` does not return before its slot is freed. -/
  sync : ∀ i o, held s.log i = some o → o.sync = true → (s.pc o.caller).slot = some i
  /-- A rejected wait leaves the slot table unchanged. -/
  rejected : ∀ a s', step s a = some s' → Rejects s a →
    s'.slotInUse = s.slotInUse ∧ s'.slots = s.slots

/-- What holds in every state of a run whose steps are permitted. -/
structure Inv (s : State α) : Prop where
  allowed : ∀ pre e, pre ++ [e] <+: s.log → Allowed pre e
  inUse : ∀ i, s.slotInUse i = (held s.log i).isSome
  /-- A thread works with a slot of its own only. -/
  slot : ∀ t i, (s.pc t).slot = some i → (held s.log i).map (·.caller) = some t
  filling : ∀ t i req, s.pc t = .filling i req → held s.log i = some ⟨t, req.sync⟩
  sync : ∀ i o, held s.log i = some o → o.sync = true → (s.pc o.caller).slot = some i
  notBusy : ∀ t i, s.pc t ≠ .freeing i .engineBusy
  isWaiting : ∀ i, (s.slots i).isWaiting = true → ∃ t, s.pc t = .waiting i

section History

variable {log : List SlotEvent} {i j : SlotId} {t : Nat} {sync : Bool}

@[simp] theorem held_given :
    held (log ++ [.given t j sync]) i = if j = i then some ⟨t, sync⟩ else held log i := by
  rw [held, List.foldl_append]
  rfl

@[simp] theorem held_freed :
    held (log ++ [.freed t j]) i =
      if j = i ∧ (held log i).map (·.caller) = some t then none else held log i := by
  rw [held, List.foldl_append]
  rfl

/-- A history stays in order when an event that is allowed is added. -/
theorem allowed_snoc {e : SlotEvent} (h : ∀ pre e, pre ++ [e] <+: log → Allowed pre e)
    (he : Allowed log e) : ∀ pre e', pre ++ [e'] <+: log ++ [e] → Allowed pre e' := by
  intro pre e' hpre
  rcases History.prefix_snoc hpre with ⟨rfl, rfl⟩ | hold
  · exact he
  · exact h pre e' hold

end History

section Keep

variable {s s' : State α} {t : Nat} {i : SlotId} {p : Pc}

theorem inv_start : Inv (start α) where
  allowed pre e hpre := by simp [start] at hpre
  inUse _ := rfl
  slot t i h := by simp [start, Pc.slot] at h
  filling t i req h := by simp [start] at h
  sync i o h := by simp [start, held] at h
  notBusy t i := by simp [start]
  isWaiting i h := by simp [start, slotInit] at h

/-- A slot has one thread at most. -/
theorem Inv.slot_unique {t' : Nat} (h : Inv s) (ht : (s.pc t).slot = some i)
    (ht' : (s.pc t').slot = some i) : t' = t := by
  have := (h.slot t' i ht').symm.trans (h.slot t i ht)
  exact Option.some.inj this

/-- A thread that works with a slot has it in use. -/
theorem Inv.inUse_of_slot (h : Inv s) (ht : (s.pc t).slot = some i) : s.slotInUse i = true := by
  rw [h.inUse i, ← Option.isSome_map, h.slot t i ht]
  rfl

/-- Nobody owns a slot that is not in use. -/
theorem Inv.held_eq_none (h : Inv s) (hi : s.slotInUse i = false) : held s.log i = none := by
  rw [← Option.not_isSome_iff_eq_none, ← h.inUse i, hi]
  exact Bool.false_ne_true

/-- The steps that leave the threads and the table of slots in use alone. -/
theorem Inv.frame (h : Inv s) (hpc : s'.pc = s.pc) (huse : s'.slotInUse = s.slotInUse)
    (hlog : s'.log = s.log)
    (hwait : ∀ i, (s'.slots i).isWaiting = true → (s.slots i).isWaiting = true) : Inv s' where
  allowed := hlog ▸ h.allowed
  inUse := by rw [hlog, huse]; exact h.inUse
  slot := by rw [hlog, hpc]; exact h.slot
  filling := by rw [hlog, hpc]; exact h.filling
  sync := by rw [hlog, hpc]; exact h.sync
  notBusy := by rw [hpc]; exact h.notBusy
  isWaiting i hi := by rw [hpc]; exact h.isWaiting i (hwait i hi)

/-- A step of thread `t`. What the others work with and own stays as it was. -/
theorem Inv.update (h : Inv s) (hpc : s'.pc = Function.update s.pc t p)
    (hallowed : ∀ pre e, pre ++ [e] <+: s'.log → Allowed pre e)
    (huse : ∀ i, s'.slotInUse i = (held s'.log i).isSome)
    (hothers : ∀ t' i, t' ≠ t → (s.pc t').slot = some i → held s'.log i = held s.log i)
    (howners : ∀ i o, o.caller ≠ t → held s'.log i = some o → held s.log i = some o)
    (hslot : ∀ i, p.slot = some i → (held s'.log i).map (·.caller) = some t)
    (hfill : ∀ i req, p = .filling i req → held s'.log i = some ⟨t, req.sync⟩)
    (hsync : ∀ i, held s'.log i = some ⟨t, true⟩ → p.slot = some i)
    (hbusy : ∀ i, p ≠ .freeing i .engineBusy)
    (hwait : ∀ i, (s'.slots i).isWaiting = true →
      p = .waiting i ∨ (s.slots i).isWaiting = true ∧ s.pc t ≠ .waiting i) : Inv s' where
  allowed := hallowed
  inUse := huse
  slot t' i ht' := by
    rw [hpc] at ht'
    by_cases heq : t' = t
    · subst heq
      rw [Function.update_self] at ht'
      exact hslot i ht'
    · rw [Function.update_of_ne heq] at ht'
      rw [hothers t' i heq ht']
      exact h.slot t' i ht'
  filling t' i req ht' := by
    rw [hpc] at ht'
    by_cases heq : t' = t
    · subst heq
      rw [Function.update_self] at ht'
      exact hfill i req ht'
    · rw [Function.update_of_ne heq] at ht'
      rw [hothers t' i heq (by rw [ht']; rfl)]
      exact h.filling t' i req ht'
  sync i o ho hs := by
    rw [hpc]
    by_cases heq : o.caller = t
    · rw [heq, Function.update_self]
      obtain ⟨c, b⟩ := o
      cases heq
      cases hs
      exact hsync i ho
    · rw [Function.update_of_ne heq]
      exact h.sync i o (howners i o heq ho) hs
  notBusy t' i := by
    rw [hpc]
    by_cases heq : t' = t
    · rw [heq, Function.update_self]
      exact hbusy i
    · rw [Function.update_of_ne heq]
      exact h.notBusy t' i
  isWaiting i hi := by
    rw [hpc]
    rcases hwait i hi with rfl | ⟨hold, hne⟩
    · exact ⟨t, Function.update_self ..⟩
    · obtain ⟨t', ht'⟩ := h.isWaiting i hold
      have heq : t' ≠ t := fun heq => hne (heq ▸ ht')
      exact ⟨t', by rw [Function.update_of_ne heq, ht']⟩

/-- The steps of one thread that neither allocate nor free. -/
theorem Inv.move (h : Inv s) (hpc : s'.pc = Function.update s.pc t p)
    (huse : s'.slotInUse = s.slotInUse) (hlog : s'.log = s.log)
    (hslot : ∀ i, p.slot = some i → (held s.log i).map (·.caller) = some t)
    (hsync : ∀ i, held s.log i = some ⟨t, true⟩ → p.slot = some i)
    (hfill : ∀ i req, p ≠ .filling i req) (hbusy : ∀ i, p ≠ .freeing i .engineBusy)
    (hwait : ∀ i, (s'.slots i).isWaiting = true →
      p = .waiting i ∨ (s.slots i).isWaiting = true ∧ s.pc t ≠ .waiting i) : Inv s' := by
  rw [← hlog] at hslot hsync
  refine h.update hpc (hlog ▸ h.allowed) ?_ ?_ ?_ hslot ?_ hsync hbusy hwait
  · rw [hlog, huse]
    exact h.inUse
  · intro t' i _ _
    rw [hlog]
  · intro i o _ ho
    rwa [hlog] at ho
  · intro i req hp
    exact absurd hp (hfill i req)

/-- A thread that goes on with the slot it works with. -/
theorem Inv.advance (h : Inv s) (hat : (s.pc t).slot = some i) (hp : p.slot = some i)
    (hpc : s'.pc = Function.update s.pc t p) (huse : s'.slotInUse = s.slotInUse)
    (hlog : s'.log = s.log) (hfill : ∀ i req, p ≠ .filling i req)
    (hbusy : ∀ i, p ≠ .freeing i .engineBusy)
    (hwait : ∀ i, (s'.slots i).isWaiting = true →
      p = .waiting i ∨ (s.slots i).isWaiting = true ∧ s.pc t ≠ .waiting i) : Inv s' := by
  refine h.move hpc huse hlog ?_ ?_ hfill hbusy hwait
  · intro j hj
    rw [hp] at hj
    cases hj
    exact h.slot t i hat
  · intro j hj
    rw [hp, ← hat]
    exact h.sync j _ hj rfl

/-- The same, and the slots stay as they are. -/
theorem Inv.proceed (h : Inv s) (hat : (s.pc t).slot = some i) (hp : p.slot = some i)
    (hpc : s'.pc = Function.update s.pc t p) (huse : s'.slotInUse = s.slotInUse)
    (hlog : s'.log = s.log) (hslots : s'.slots = s.slots) (hfill : ∀ i req, p ≠ .filling i req)
    (hbusy : ∀ i, p ≠ .freeing i .engineBusy) (hnot : ∀ j, s.pc t ≠ .waiting j) : Inv s' := by
  refine h.advance hat hp hpc huse hlog hfill hbusy ?_
  intro j hj
  rw [hslots] at hj
  exact .inr ⟨hj, hnot j⟩

/-- `loc_alloc_slot` takes a slot that is not in use. -/
theorem slotInUse_of_freeSlot? (h : s.freeSlot? = some i) : s.slotInUse i = false := by
  have := List.find?_some h
  simpa using this

theorem Inv.locAllocSlot {req : Request} (h : Inv s) (hidle : s.pc t = .idle)
    (hfree : s.freeSlot? = some i) : Inv (s.locAllocSlot t i req) := by
  have hnone : held s.log i = none := h.held_eq_none (slotInUse_of_freeSlot? hfree)
  have hheld : ∀ j, held (s.locAllocSlot t i req).log j =
      if i = j then some ⟨t, req.sync⟩ else held s.log j := fun j => held_given
  refine h.update rfl (allowed_snoc h.allowed hnone) ?_ ?_ ?_ ?_ ?_ ?_ nofun ?_
  · intro j
    rw [hheld]
    show Function.update s.slotInUse i true j = _
    by_cases hij : i = j
    · rw [if_pos hij, hij, Function.update_self]
      rfl
    · rw [if_neg hij, Function.update_of_ne (Ne.symm hij), h.inUse j]
  · -- nobody works with a slot that is not in use
    intro t' j _ ht'
    have hij : i ≠ j := by
      rintro rfl
      have := h.slot t' i ht'
      rw [hnone] at this
      cases this
    rw [hheld, if_neg hij]
  · intro j o hne ho
    rw [hheld] at ho
    by_cases hij : i = j
    · rw [if_pos hij] at ho
      cases ho
      exact absurd rfl hne
    · rwa [if_neg hij] at ho
  · intro j hj
    cases hj
    rw [hheld, if_pos rfl]
    rfl
  · intro j r hj
    cases hj
    rw [hheld, if_pos rfl]
  · intro j ho
    rw [hheld] at ho
    by_cases hij : i = j
    · rw [hij]
      rfl
    · rw [if_neg hij] at ho
      have hat := h.sync j _ ho rfl
      rw [hidle] at hat
      cases hat
  · intro j hj
    refine .inr ⟨hj, ?_⟩
    rw [hidle]
    nofun

theorem Inv.locFreeSlot {exit : Exit} (h : Inv s) (hat : s.pc t = .freeing i exit) :
    Inv (s.locFreeSlot t i) := by
  have hslot : (s.pc t).slot = some i := by rw [hat]; rfl
  have hown : (held s.log i).map (·.caller) = some t := h.slot t i hslot
  have hheld : ∀ j, held (s.locFreeSlot t i).log j = if i = j then none else held s.log j := by
    intro j
    refine held_freed.trans ?_
    by_cases hij : i = j
    · rw [if_pos hij, if_pos ⟨hij, hij ▸ hown⟩]
    · rw [if_neg hij, if_neg fun hboth => hij hboth.1]
  refine h.update rfl (allowed_snoc h.allowed hown) ?_ ?_ ?_ nofun nofun ?_ nofun ?_
  · intro j
    rw [hheld]
    show Function.update s.slotInUse i false j = _
    by_cases hij : i = j
    · rw [if_pos hij, hij, Function.update_self]
      rfl
    · rw [if_neg hij, Function.update_of_ne (Ne.symm hij), h.inUse j]
  · intro t' j hne ht'
    have hij : i ≠ j := fun hij => hne (h.slot_unique hslot (hij ▸ ht'))
    rw [hheld, if_neg hij]
  · intro j o _ ho
    rw [hheld] at ho
    by_cases hij : i = j
    · rw [if_pos hij] at ho
      cases ho
    · rwa [if_neg hij] at ho
  · -- the slot was the only one a call of this thread was working with
    intro j ho
    rw [hheld] at ho
    by_cases hij : i = j
    · rw [if_pos hij] at ho
      cases ho
    · rw [if_neg hij] at ho
      have hold := h.sync j _ ho rfl
      exact absurd (Option.some.inj (hslot.symm.trans hold)) hij
  · intro j hj
    refine .inr ⟨hj, ?_⟩
    rw [hat]
    nofun

/-- Where a slot was written, and everywhere else. -/
theorem isWaiting_update {slots : SlotId → Slot α} {slot : Slot α} {j : SlotId}
    (h : (Function.update slots i slot j).isWaiting = true) :
    (j = i ∧ slot.isWaiting = true) ∨ (j ≠ i ∧ (slots j).isWaiting = true) := by
  by_cases hij : j = i
  · subst hij
    rw [Function.update_self] at h
    exact .inl ⟨rfl, h⟩
  · rw [Function.update_of_ne hij] at h
    exact .inr ⟨hij, h⟩

@[simp] theorem deliver_isWaiting (slot : Slot α) (cb : Callback α) :
    (slot.deliver cb).isWaiting = slot.isWaiting := by
  unfold Slot.deliver
  split <;> rfl

/-- `loc_api_select_callback` fills in the slot; a caller from outside gets its number. -/
theorem Inv.fill {req : Request} (h : Inv s) (hat : s.pc t = .filling i req) :
    Inv { s.goto t (if req.sync then .selected i else .idle) with
      slots := Function.update s.slots i (locApiSelectCallback (s.slots i) req) } := by
  have hslot : (s.pc t).slot = some i := by rw [hat]; rfl
  have hwait : ∀ j, (Function.update s.slots i (locApiSelectCallback (s.slots i) req) j).isWaiting =
      true → (s.slots j).isWaiting = true ∧ s.pc t ≠ .waiting j := by
    intro j hj
    obtain ⟨-, hnew⟩ | ⟨-, hold⟩ := isWaiting_update hj
    · cases hnew
    · exact ⟨hold, by rw [hat]; nofun⟩
  cases hsync : req.sync with
  | true => exact h.advance hslot rfl rfl rfl rfl nofun nofun fun j hj => .inr (hwait j hj)
  | false =>
    refine h.move rfl rfl rfl nofun ?_ nofun nofun fun j hj => .inr (hwait j hj)
    -- a slot of a call that goes on would be this one, which was not given to such a call
    intro j hj
    have hat' := hslot.symm.trans (h.sync j _ hj rfl)
    cases hat'
    rw [h.filling t i req hat, hsync] at hj
    cases hj

/-- Nobody else is waiting on the slot of a thread. -/
theorem Inv.isWaiting_eq_false (h : Inv s) (hat : s.pc t = .entering i) :
    (s.slots i).isWaiting = false := by
  by_contra hne
  rw [Bool.not_eq_false] at hne
  obtain ⟨t', ht'⟩ := h.isWaiting i hne
  have heq : t' = t := h.slot_unique (by rw [hat]; rfl) (by rw [ht']; rfl)
  rw [heq, hat] at ht'
  cases ht'

theorem Inv.enterWait (h : Inv s) (hat : s.pc t = .entering i) : Inv (s.enterWait t i) := by
  have hslot : (s.pc t).slot = some i := by rw [hat]; rfl
  have hne : ∀ j, s.pc t ≠ .waiting j := by rw [hat]; nofun
  unfold State.enterWait
  rw [h.isWaiting_eq_false hat]
  split
  · exact h.proceed hslot rfl rfl rfl rfl rfl nofun nofun hne
  · refine h.advance hslot rfl rfl rfl rfl nofun nofun ?_
    intro j hj
    obtain ⟨rfl, -⟩ | ⟨-, hold⟩ := isWaiting_update hj
    · exact .inl rfl
    · exact .inr ⟨hold, hne j⟩

theorem Inv.endWait {exit : Exit} (h : Inv s) (hat : s.pc t = .waiting i)
    (hexit : exit ≠ .engineBusy) : Inv (s.endWait t i exit) := by
  refine h.advance (p := .freeing i exit) (by rw [hat]; rfl) rfl rfl rfl rfl nofun ?_ ?_
  · intro j hj
    exact hexit (Pc.freeing.inj hj).2
  · intro j hj
    obtain ⟨-, hnew⟩ | ⟨hij, hold⟩ := isWaiting_update hj
    · cases hnew
    · refine .inr ⟨hold, ?_⟩
      rw [hat]
      exact fun heq => hij (Pc.waiting.inj heq).symm

/-- Initialising the module again while no slot is in use. -/
theorem Inv.init (h : Inv s) (hfree : ∀ i, s.slotInUse i = false) (hs' : step s .init = some s') :
    Inv s' := by
  cases hs'
  refine ⟨h.allowed, ?_, h.slot, h.filling, h.sync, h.notBusy, nofun⟩
  intro i
  rw [← h.inUse i]
  exact (hfree i).symm

theorem Inv.visit (h : Inv s) (w : Walk α) (i : SlotId) : Inv (s.visit w i) := by
  unfold State.visit
  split
  · refine h.frame rfl rfl rfl ?_
    intro j hj
    obtain ⟨rfl, hnew⟩ | ⟨-, hold⟩ := isWaiting_update hj
    · rwa [deliver_isWaiting] at hnew
    · exact hold
  · exact h.frame rfl rfl rfl fun j hj => hj

/-- The check passes on a slot that is in use. -/
theorem checkSelectId_val (h : s.slotInUse i = true) : s.checkSelectId i.val = some i := by
  have hlt : (i.val : Int).toNat < 8 := i.isLt
  unfold State.checkSelectId
  rw [if_neg (by omega), dif_pos hlt]
  exact if_pos h

end Keep

/-! ## Runs -/

/-- A wait that gets past the check is made by the caller that holds the slot. -/
def ownerWaits (s : State α) (t : Nat) : ThreadAct → Prop
  | .wait selectId =>
    ∀ i ∈ s.checkSelectId selectId, (held s.log i).map (·.caller) = some t
  | _ => True

instance (s : State α) (t : Nat) : (a : ThreadAct) → Decidable (ownerWaits s t a)
  | .wait _ => inferInstanceAs (Decidable (∀ i ∈ _, _))
  | .select _ | .fill | .ioctl | .ioctlReturn _ | .waitSelected | .enter | .wakeUp | .timeOut
  | .free => .isTrue trivial

/-- Waits are made by owners, and the module is initialised again only while no slot is
in use. -/
def ownersOnly (s : State α) : Act α → Prop
  | .thread t a => ownerWaits s t a
  | .init => ∀ i, s.slotInUse i = false
  | _ => True

instance (s : State α) : (a : Act α) → Decidable (ownersOnly s a)
  | .thread _ _ => inferInstanceAs (Decidable (ownerWaits _ _ _))
  | .init => inferInstanceAs (Decidable (∀ i, s.slotInUse i = false))
  | .callback _ | .visit | .callbackEnd => .isTrue trivial

section Runs

variable {s s' : State α} {t : Nat}

/-- A slot that is given away was in no use. -/
theorem Inv.select {req : Request} (h : Inv s) (hs : threadStep s t (.select req) = some s') :
    Inv s' := by
  simp only [SlotOwner.threadStep] at hs
  split at hs
  case isFalse => cases hs
  case isTrue hg =>
    cases hslot : s.freeSlot? with
    | some i =>
      rw [hslot] at hs
      cases hs
      exact h.locAllocSlot hg.1 hslot
    | none =>
      rw [hslot] at hs
      cases hs
      exact h

/-- The ioctl is made for the first time or after a busy reply. -/
theorem Inv.ioctl (h : Inv s) (hs : threadStep s t .ioctl = some s') : Inv s' := by
  simp only [SlotOwner.threadStep] at hs
  split at hs
  case h_3 => cases hs
  all_goals
    rename_i i hat
    split at hs
    case isFalse => cases hs
    cases hs
    have hslot : (s.pc t).slot = some i := by rw [hat]; rfl
    exact h.proceed hslot rfl rfl rfl rfl rfl nofun nofun (by rw [hat]; nofun)

/-- Whatever the ioctl returns, the thread keeps its slot. -/
theorem Inv.ioctlReturn {rc : IoctlResult} (h : Inv s)
    (hs : threadStep s t (.ioctlReturn rc) = some s') : Inv s' := by
  simp only [SlotOwner.threadStep] at hs
  split at hs
  case h_2 => cases hs
  case h_1 i hat =>
    have hslot : (s.pc t).slot = some i := by rw [hat]; rfl
    have hne : ∀ j, s.pc t ≠ .waiting j := by rw [hat]; nofun
    cases rc with
    | success =>
      cases hs
      exact h.proceed hslot rfl rfl rfl rfl rfl nofun nofun hne
    | engineBusy =>
      cases hs
      exact h.proceed hslot rfl rfl rfl rfl rfl nofun nofun hne
    | error =>
      cases hs
      exact h.proceed hslot rfl rfl rfl rfl rfl nofun nofun hne

/-- A call of `loc_api_wait_callback` from outside is made by the owner. -/
theorem Inv.wait {selectId : Int} (h : Inv s) (hok : ownerWaits s t (.wait selectId))
    (hs : threadStep s t (.wait selectId) = some s') : Inv s' := by
  simp only [SlotOwner.threadStep] at hs
  split at hs
  case isFalse => cases hs
  case isTrue hidle =>
    cases hcheck : s.checkSelectId selectId with
    | none =>
      rw [hcheck] at hs
      cases hs
      exact h
    | some i =>
      rw [hcheck] at hs
      cases hs
      refine h.move rfl rfl rfl ?_ ?_ nofun nofun ?_
      · intro j hj
        cases hj
        exact hok i hcheck
      · -- an idle thread is in no call that holds a slot
        intro j hj
        have hat := h.sync j _ hj rfl
        rw [hidle] at hat
        cases hat
      · intro j hj
        refine .inr ⟨hj, ?_⟩
        rw [hidle]
        nofun

/-- The call in `loc_api_sync_ioctl` passes the check, for the thread has its slot. -/
theorem Inv.waitSelected (h : Inv s) (hs : threadStep s t .waitSelected = some s') : Inv s' := by
  simp only [SlotOwner.threadStep] at hs
  split at hs
  case h_2 => cases hs
  case h_1 i hat =>
    have hslot : (s.pc t).slot = some i := by rw [hat]; rfl
    rw [checkSelectId_val (h.inUse_of_slot hslot)] at hs
    cases hs
    exact h.proceed hslot rfl rfl rfl rfl rfl nofun nofun (by rw [hat]; nofun)

/-- A step of one thread, where the waits are those of owners. -/
theorem Inv.threadStep {a : ThreadAct} (h : Inv s) (hok : ownerWaits s t a)
    (hs : threadStep s t a = some s') : Inv s' := by
  cases a with
  | select req => exact h.select hs
  | ioctl => exact h.ioctl hs
  | ioctlReturn rc => exact h.ioctlReturn hs
  | wait selectId => exact h.wait hok hs
  | waitSelected => exact h.waitSelected hs
  | fill =>
    simp only [SlotOwner.threadStep] at hs
    split at hs
    case h_1 i req hat =>
      cases hs
      exact h.fill hat
    case h_2 => cases hs
  | enter =>
    simp only [SlotOwner.threadStep] at hs
    split at hs
    case h_1 i hat =>
      cases hs
      exact h.enterWait hat
    case h_2 => cases hs
  | wakeUp =>
    simp only [SlotOwner.threadStep] at hs
    split at hs
    case h_1 i hat =>
      cases hs
      exact h.endWait hat nofun
    case h_2 => cases hs
  | timeOut =>
    simp only [SlotOwner.threadStep] at hs
    split at hs
    case h_1 i hat =>
      cases hs
      exact h.endWait hat nofun
    case h_2 => cases hs
  | free =>
    simp only [SlotOwner.threadStep] at hs
    split at hs
    case h_2 => cases hs
    case h_1 i exit hat =>
      split at hs
      case isFalse => cases hs
      cases hs
      exact h.locFreeSlot hat

/-- Every permitted step keeps the invariant. -/
theorem Inv.step {a : Act α} (h : Inv s) (hok : ownersOnly s a) (hs : step s a = some s') :
    Inv s' := by
  cases a with
  | thread t a => exact h.threadStep hok hs
  | init => exact h.init hok hs
  | callback cb =>
    simp only [SlotOwner.step] at hs
    split at hs
    case isFalse => cases hs
    split at hs
    all_goals
      cases hs
      exact h.frame rfl rfl rfl fun j hj => hj
  | visit =>
    simp only [SlotOwner.step] at hs
    split at hs
    case h_2 => cases hs
    split at hs
    case isTrue => cases hs
    split at hs
    case isFalse => cases hs
    cases hs
    exact h.visit _ _
  | callbackEnd =>
    simp only [SlotOwner.step] at hs
    split at hs
    case h_2 => cases hs
    split at hs
    case isFalse => cases hs
    cases hs
    exact h.frame rfl rfl rfl fun j hj => hj

/-- A wait that is refused for its `select_id` writes nothing; one that finds the slot
taken does not occur. -/
theorem Inv.rejected {a : Act α} (h : Inv s) (hs : SlotOwner.step s a = some s')
    (hr : Rejects s a) : s'.slotInUse = s.slotInUse ∧ s'.slots = s.slots := by
  unfold Rejects at hr
  split at hr
  case h_1 t selectId =>
    simp only [SlotOwner.step, SlotOwner.threadStep, hr.1, hr.2, if_true] at hs
    cases hs
    exact ⟨rfl, rfl⟩
  case h_2 t =>
    obtain ⟨i, hat, hcheck⟩ := hr
    simp only [SlotOwner.step, SlotOwner.threadStep, hat, hcheck] at hs
    cases hs
    exact ⟨rfl, rfl⟩
  case h_3 t =>
    obtain ⟨i, hat, -, hwait⟩ := hr
    rw [h.isWaiting_eq_false hat] at hwait
    cases hwait
  case h_4 t =>
    obtain ⟨i, hat⟩ := hr
    exact absurd hat (h.notBusy t i)
  case h_5 => exact hr.elim

theorem Inv.slotsOwned (h : Inv s) : SlotsOwned s where
  allowed := h.allowed
  inUse_iff i := by rw [h.inUse i]
  waiting t i ht := by
    have hslot : (s.pc t).slot = some i := by rw [ht]; rfl
    exact ⟨h.inUse_of_slot hslot, h.slot t i hslot⟩
  sync := h.sync
  rejected a s' hs hr := h.rejected hs hr

end Runs

/-- **Slots have one owner** in every run in which a wait that gets past the check of
`select_id` is made by the caller that holds the slot, and the module is initialised
again only while no slot is in use. -/
theorem slots_owned_of_owner_waits {as : List (Act α)} {s : State α}
    (hrun : exec (restrict ownersOnly step) (start α) as = some s) : SlotsOwned s := by
  have hstep : ∀ (s : State α) a s', ownersOnly s a → step s a = some s' → Inv s → Inv s' :=
    fun _ _ _ hok hs h => h.step hok hs
  exact (exec_restrict_invariant hstep inv_start hrun).slotsOwned

/-- Thread 0 makes a synchronous call that finds the engine busy once. Thread 1 selects a
slot, asks for one that is not in use, and waits on its own until the time is up. A
callback ends the call of thread 0, and the module is initialised again. -/
theorem slots_owned_two_callers :
    ∃ s : State Unit,
      exec (restrict ownersOnly step) (start Unit)
        [.thread 0 (.select ⟨3, 0, 5, true⟩), .thread 0 .fill, .thread 0 .ioctl,
          .thread 0 (.ioctlReturn .engineBusy), .thread 1 (.select ⟨3, 1, 0, false⟩),
          .thread 1 .fill, .thread 0 .ioctl, .thread 0 (.ioctlReturn .success),
          .thread 1 (.wait 6), .thread 1 (.wait 1), .thread 1 .enter, .thread 0 .waitSelected,
          .thread 0 .enter, .callback ⟨0, 3, eventIoctlReport, ⟨5, ()⟩⟩, .visit, .callbackEnd,
          .thread 0 .wakeUp, .thread 0 .free, .thread 1 .timeOut, .thread 1 .free, .init] =
        some s ∧
      s.log = [.given 0 0 true, .given 1 1 false, .freed 0 0, .freed 1 1] ∧ SlotsOwned s := by
  have hrun : exec (restrict ownersOnly step) (start Unit)
      [.thread 0 (.select ⟨3, 0, 5, true⟩), .thread 0 .fill, .thread 0 .ioctl,
        .thread 0 (.ioctlReturn .engineBusy), .thread 1 (.select ⟨3, 1, 0, false⟩),
        .thread 1 .fill, .thread 0 .ioctl, .thread 0 (.ioctlReturn .success),
        .thread 1 (.wait 6), .thread 1 (.wait 1), .thread 1 .enter, .thread 0 .waitSelected,
        .thread 0 .enter, .callback ⟨0, 3, eventIoctlReport, ⟨5, ()⟩⟩, .visit, .callbackEnd,
        .thread 0 .wakeUp, .thread 0 .free, .thread 1 .timeOut, .thread 1 .free, .init] =
      some _ := rfl
  exact ⟨_, hrun, rfl, slots_owned_of_owner_waits hrun⟩

/-- Thread 1 waits on the slot that thread 0 is waiting on: it is turned away with
ENGINE_BUSY, and frees the slot under the thread that waits. -/
theorem second_wait_frees_the_slot :
    ¬ ∀ (as : List (Act Unit)) (s : State Unit), exec step (start Unit) as = some s →
      SlotsOwned s := by
  intro h
  have hbad := h
    [.thread 0 (.select ⟨3, 0, 5, true⟩), .thread 0 .fill, .thread 0 .ioctl,
      .thread 0 (.ioctlReturn .success), .thread 0 .waitSelected, .thread 0 .enter,
      .thread 1 (.wait 0), .thread 1 .enter, .thread 1 .free] _ rfl
  have hinUse := (hbad.waiting 0 0 rfl).1
  cases hinUse

end Ancora.LocApi.SlotOwner
