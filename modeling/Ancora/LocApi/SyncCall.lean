import Mathlib.Data.Fintype.Basic
import Mathlib.Data.Fin.Basic
import Mathlib.Logic.Function.Basic

/-!
# Synchronous calls (loc_api_sync_call.c)

`loc_api_sync_ioctl` turns an asynchronous modem call into a blocking one. It
allocates one of eight slots, fills in the handle and ioctl type it waits for
(`loc_api_select_callback`), makes the call, and waits on the slot's condition
variable (`loc_api_wait_callback`). Callbacks come in on another thread:
`loc_api_callback_process_sync_call` walks the slots and gives the payload to the
first that matches.

- `loc_sync_data.lock` is held by a callback over its whole walk and by a caller
  over `loc_ioctl` (`Holder`); a slot's own lock covers one visit of the walk, one
  fill-in, the start of a wait and its end, each of which is one step here.
- A walk is stepwise: between two visits any other thread may run, except where
  it needs `loc_sync_data.lock`.
- The steps that the environment decides are free: which callbacks come, what
  `loc_ioctl` returns, when a wait times out or wakes up for no reason.
-/

namespace Ancora.LocApi.SyncCall

variable {α : Type}

/-- An index of `loc_sync_data.slots` (`LOC_SYNC_CALL_BUFFER_SIZE`). -/
abbrev SlotId := Fin 8

/-- `RPC_LOC_EVENT_IOCTL_REPORT`. -/
def eventIoctlReport : BitVec 64 := 0x80

/-- `rpc_loc_event_payload_u_type`: `ioctl_report.type` is all that is looked at. -/
structure EventPayload (α : Type) where
  ioctlType : BitVec 32
  body : α
  deriving DecidableEq, Repr

/-- The arguments of one `loc_api_callback_process_sync_call`, and its number. -/
structure Callback (α : Type) where
  id : Nat
  locHandle : Int
  locEvent : BitVec 64
  payload : EventPayload α
  deriving DecidableEq, Repr

/-- `loc_sync_call_data_s_type`. -/
structure Slot (α : Type) where
  locHandle : Int
  isSelected : Bool
  isWaiting : Bool
  hasArrived : Bool
  waitEventMask : BitVec 64
  ioctlType : BitVec 32
  /-- `loc_cb_received_payload`, with the callback it was copied from. -/
  received : Option (Callback α)
  receivedEventMask : BitVec 64
  /-- `loc_cb_arrived_cond` was signalled and its waiter has not run yet. -/
  signalled : Bool

/-- The slot's buffer holds a reply that its caller has not seen. -/
def Slot.delivered (slot : Slot α) : Bool := slot.hasArrived || slot.signalled

/-- How far a `loc_api_sync_ioctl` has got. -/
inductive Phase
  /-- `loc_alloc_slot` returned; the slot is not filled in. -/
  | allocated
  /-- `loc_api_select_callback` returned. -/
  | selected
  /-- In `loc_ioctl`, holding `loc_sync_data.lock`. -/
  | calling
  /-- The engine was busy; waiting for some callback to come in. -/
  | busyWait
  /-- `loc_ioctl` succeeded. -/
  | called
  /-- In `pthread_cond_timedwait`. -/
  | waiting
  /-- The outcome is known; the slot is not freed. -/
  | done
  deriving DecidableEq, Repr

/-- The slot is filled in and the call still wants its reply. -/
def Phase.live : Phase → Bool
  | .allocated => false
  | .done => false
  | _ => true

/-- A `loc_api_sync_ioctl` in progress. -/
structure Call where
  id : Nat
  handle : Int
  ioctlType : BitVec 32
  phase : Phase
  deriving DecidableEq, Repr

/-- The locals of a callback's walk over the slots. -/
structure Walk (α : Type) where
  cb : Callback α
  /-- The loop variable `i`. -/
  next : Nat
  inUse : Bool
  consumed : Bool
  /-- The slot that consumed the callback belonged to a call that waits for it. -/
  taken : Bool

/-- Who holds `loc_sync_data.lock`. -/
inductive Holder (α : Type)
  | free
  | caller
  | callback (walk : Walk α)

/-- What happened, in the order in which it happened. -/
inductive SyncEvent (α : Type)
  /-- `loc_api_select_callback` filled in the slot of call `c`. -/
  | filled (c : Nat) (handle : Int) (ioctlType : BitVec 32)
  /-- A callback got `loc_sync_data.lock`. -/
  | arrived (cb : Callback α)
  /-- A callback was copied into the slot of the live call `c`. -/
  | delivered (cb : Callback α) (c : Nat)
  /-- A callback was done without having been copied to a live call. -/
  | ignored (cb : Callback α)
  /-- `loc_api_wait_callback` returned SUCCESS with this payload. -/
  | returned (c : Nat) (received : Option (Callback α))
  /-- `loc_api_wait_callback` returned TIMEOUT. -/
  | timedOut (c : Nat)
  /-- `loc_ioctl` failed, or the wait was refused. -/
  | failed (c : Nat)
  deriving DecidableEq, Repr

/-- `loc_sync_data` and the threads that use it. -/
structure SyncState (α : Type) where
  inUse : Bool
  slotInUse : SlotId → Bool
  slots : SlotId → Slot α
  lock : Holder α
  /-- The call that got this slot from `loc_alloc_slot`. -/
  calls : SlotId → Option Call
  nextCall : Nat
  nextCb : Nat
  log : List (SyncEvent α)

/-- A slot as `loc_api_sync_call_init` leaves it. -/
def slotInit : Slot α where
  locHandle := -1
  isSelected := false
  isWaiting := false
  hasArrived := false
  waitEventMask := 0
  ioctlType := 0
  received := none
  receivedEventMask := 0
  signalled := false

/-- `loc_api_sync_call_init` (loc_api_sync_call.c:67). -/
def locApiSyncCallInit (α : Type) : SyncState α where
  inUse := false
  slotInUse _ := false
  slots _ := slotInit
  lock := .free
  calls _ := none
  nextCall := 0
  nextCb := 0
  log := []

/-- `loc_match_callback` (loc_api_sync_call.c:110). -/
def locMatchCallback (waitMask : BitVec 64) (waitIoctl : BitVec 32) (event : BitVec 64)
    (payload : EventPayload α) : Bool :=
  if event &&& waitMask = 0 then false
  else if event ≠ eventIoctlReport ∨ waitIoctl = 0 ∨ payload.ioctlType = waitIoctl then true
  else false

/-- The mask `loc_api_select_callback(handle, 0, ioctl_type)` leaves in the slot. -/
def waitMaskOf (ioctlType : BitVec 32) : BitVec 64 :=
  if ioctlType ≠ 0 then 0 ||| eventIoctlReport else 0

/-- What `loc_api_select_callback` writes (loc_api_sync_call.c:318). -/
def Slot.select (slot : Slot α) (handle : Int) (ioctlType : BitVec 32) : Slot α :=
  { slot with
    locHandle := handle
    isSelected := true
    isWaiting := false
    hasArrived := false
    waitEventMask := waitMaskOf ioctlType
    ioctlType := ioctlType }

/-- The test of `loc_api_callback_process_sync_call` (loc_api_sync_call.c:168). -/
def Slot.accepts (slot : Slot α) (inUse : Bool) (cb : Callback α) : Bool :=
  inUse && slot.locHandle == cb.locHandle &&
    locMatchCallback slot.waitEventMask slot.ioctlType cb.locEvent cb.payload && !slot.hasArrived

/-- Copy the payload, then signal the waiter or remember the arrival
(loc_api_sync_call.c:173). -/
def Slot.deliver (slot : Slot α) (cb : Callback α) : Slot α :=
  if slot.isWaiting then
    { slot with received := some cb, receivedEventMask := cb.locEvent, signalled := true }
  else { slot with received := some cb, hasArrived := true }

/-- `pthread_cond_timedwait` returned, for whatever reason. -/
def Slot.wake (slot : Slot α) : Slot α :=
  { slot with isWaiting := false, signalled := false }

/-- What `loc_ioctl` returned. -/
inductive IoctlResult
  | success
  | engineBusy
  | error
  deriving DecidableEq, Repr

/-- The atomic steps; `i` is the slot of the call that takes the step. -/
inductive SyncAct (α : Type)
  | alloc (handle : Int) (ioctlType : BitVec 32)
  | fill (i : SlotId)
  | ioctl (i : SlotId)
  | ioctlReturn (i : SlotId) (rc : IoctlResult)
  | waitCallback (i : SlotId)
  | wakeUp (i : SlotId)
  | timeOut (i : SlotId)
  | freeSlot (i : SlotId)
  | callback (handle : Int) (event : BitVec 64) (payload : EventPayload α)
  | visit
  | callbackEnd
  deriving DecidableEq, Repr

/-- Give slot `i` and its call new contents and log what happened. -/
def SyncState.put (s : SyncState α) (i : SlotId) (slot : Slot α) (call : Call)
    (events : List (SyncEvent α)) : SyncState α :=
  { s with
    slots := Function.update s.slots i slot
    calls := Function.update s.calls i (some call)
    log := s.log ++ events }

/-- `loc_alloc_slot` on slot `i` (loc_api_sync_call.c:227). -/
def SyncState.alloc (s : SyncState α) (i : SlotId) (handle : Int) (ioctlType : BitVec 32) :
    SyncState α :=
  { s with
    inUse := true
    slotInUse := Function.update s.slotInUse i true
    calls := Function.update s.calls i (some ⟨s.nextCall, handle, ioctlType, .allocated⟩)
    nextCall := s.nextCall + 1 }

/-- `loc_free_slot` (loc_api_sync_call.c:256). -/
def SyncState.free (s : SyncState α) (i : SlotId) : SyncState α :=
  let slotInUse := Function.update s.slotInUse i false
  { s with
    inUse := if ∀ j, slotInUse j = false then false else s.inUse
    slotInUse := slotInUse
    calls := Function.update s.calls i none }

/-- The call that owns slot `i`, if it still wants its reply. -/
def SyncState.liveCall (s : SyncState α) (i : SlotId) : Option Call :=
  (s.calls i).filter fun c => c.phase.live

/-- One turn of the loop of `loc_api_callback_process_sync_call` at slot `i`. The
code does not know whether a live call owns the slot; the log does. -/
def SyncState.visit (s : SyncState α) (w : Walk α) (i : SlotId) : SyncState α :=
  let w' := { w with next := w.next + 1, inUse := w.inUse || s.slotInUse i }
  if (s.slots i).accepts (s.slotInUse i) w.cb then
    let slots := Function.update s.slots i ((s.slots i).deliver w.cb)
    match s.liveCall i with
    | some c => { s with
        slots := slots
        lock := .callback { w' with consumed := true, taken := true }
        log := s.log ++ [.delivered w.cb c.id] }
    | none => { s with slots := slots, lock := .callback { w' with consumed := true } }
  else { s with lock := .callback w' }

/-- The end of `loc_api_wait_callback`'s wait (loc_api_sync_call.c:439). -/
def SyncState.endWait (s : SyncState α) (i : SlotId) (c : Call) (e : SyncEvent α) : SyncState α :=
  s.put i (s.slots i).wake { c with phase := .done } [e]

/-- A step of the thread of call `c`, which owns slot `i`. -/
def callStep (s : SyncState α) (i : SlotId) (c : Call) : SyncAct α → Option (SyncState α)
  | .fill _ =>
    if c.phase = .allocated then
      some (s.put i ((s.slots i).select c.handle c.ioctlType) { c with phase := .selected }
        [.filled c.id c.handle c.ioctlType])
    else none
  | .ioctl _ =>
    -- the first call, or the call again after a wake-up of the busy wait
    match c.phase, s.lock with
    | .selected, .free =>
      some { s.put i (s.slots i) { c with phase := .calling } [] with lock := .caller }
    | .busyWait, .free =>
      some { s.put i (s.slots i) { c with phase := .calling } [] with lock := .caller }
    | _, _ => none
  | .ioctlReturn _ rc =>
    if c.phase = .calling then
      match rc with
      | .success => some { s.put i (s.slots i) { c with phase := .called } [] with lock := .free }
      | .engineBusy =>
        some { s.put i (s.slots i) { c with phase := .busyWait } [] with lock := .free }
      | .error =>
        some { s.put i (s.slots i) { c with phase := .done } [.failed c.id] with lock := .free }
    else none
  | .waitCallback _ =>
    if c.phase = .called then
      if (s.slots i).hasArrived then
        some (s.put i (s.slots i) { c with phase := .done } [.returned c.id (s.slots i).received])
      else if (s.slots i).isWaiting then
        some (s.put i (s.slots i) { c with phase := .done } [.failed c.id])
      else some (s.put i { s.slots i with isWaiting := true } { c with phase := .waiting } [])
    else none
  | .wakeUp _ =>
    if c.phase = .waiting then
      some (s.endWait i c (.returned c.id (s.slots i).received))
    else none
  | .timeOut _ =>
    if c.phase = .waiting then some (s.endWait i c (.timedOut c.id)) else none
  | .freeSlot _ =>
    match c.phase, s.lock with
    | .done, .free => some (s.free i)
    | _, _ => none
  | _ => none

/-- The slot of the call that takes a step. -/
def SyncAct.slot : SyncAct α → Option SlotId
  | .fill i => some i
  | .ioctl i => some i
  | .ioctlReturn i _ => some i
  | .waitCallback i => some i
  | .wakeUp i => some i
  | .timeOut i => some i
  | .freeSlot i => some i
  | _ => none

/-- The first slot not in use (loc_api_sync_call.c:223). -/
def SyncState.freeSlot? (s : SyncState α) : Option SlotId :=
  (List.finRange 8).find? fun i => !s.slotInUse i

/-- One atomic step. -/
def syncStep (s : SyncState α) (a : SyncAct α) : Option (SyncState α) :=
  match a.slot with
  | some i => (s.calls i).bind fun c => callStep s i c a
  | none =>
    match a, s.lock with
    | .alloc handle ioctlType, .free =>
      match s.freeSlot? with
      | some i => some (s.alloc i handle ioctlType)
      | none => some s
    | .callback handle event payload, .free =>
      let cb : Callback α := ⟨s.nextCb, handle, event, payload⟩
      if s.inUse then
        some { s with
          nextCb := s.nextCb + 1
          lock := .callback ⟨cb, 0, false, false, false⟩
          log := s.log ++ [.arrived cb] }
      else some { s with nextCb := s.nextCb + 1, log := s.log ++ [.arrived cb, .ignored cb] }
    | .visit, .callback w =>
      if w.consumed then none
      else if h : w.next < 8 then some (s.visit w ⟨w.next, h⟩) else none
    | .callbackEnd, .callback w =>
      if w.consumed ∨ 8 ≤ w.next then
        some { s with
          inUse := w.inUse && s.inUse
          lock := .free
          log := if w.taken then s.log else s.log ++ [.ignored w.cb] }
      else none
    | _, _ => none

end Ancora.LocApi.SyncCall
