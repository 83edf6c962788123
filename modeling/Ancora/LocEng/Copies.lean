import Mathlib.Data.Finset.SDiff
import Ancora.LocApi.EventRoutines
import Ancora.LocApi.SyncCall
import Ancora.LocEng.Pieces

/-!
# Copies of a payload (loc_api_cb_svc.c, loc_api_sync_call.c, loc_eng.cpp)

The callback dispatcher decodes an event, calls the handler, replies and frees what
decoding allocated. The handler copies the payload with `memcpy`, once into the slot of a
synchronous call that waits for it and once into `loc_event_payload`: the bytes of the
union, with the pointers in them. Other threads read the copies later.

- `Stored α`: a payload as a copy holds it, with the blocks its pointers go to
  (`handles`). What else is in it stays the parameter `α`; `Layout` says how many blocks
  decoding it allocates and how many satellites `loc_eng_report_sv` finds in it.
- `CopyState`: the blocks that are allocated, the dispatcher, the engine (`engStep`) and
  the synchronous calls (`syncStep`).
- `handlesRead`: the blocks a step relies on, when `loc_eng_report_sv` reads an entry of the
  satellite list and when `loc_api_wait_callback` hands out a payload.
- `copiesRead`: the dispatcher frees a payload only when every copy of it has been read,
  and a wait does not end without a signal while an old payload with pointers lies in its slot.
- **`copies_outlive_reads`**: under that condition every block that is read is allocated.

The code frees without asking: the deferred thread reads a satellite list that the
dispatcher has freed (`satellite_list_freed_before_report`).
-/

namespace Ancora.LocEng.Copies

open Machine
open LocApi.SyncCall (SyncState SyncAct SyncEvent Slot SlotId Call Callback Holder Phase Walk
  syncStep callStep locApiSyncCallInit)

variable {α : Type}

/-- A payload and the blocks its pointers go to. -/
structure Stored (α : Type) where
  mem : α
  handles : List Nat
  deriving DecidableEq, Repr

instance [Inhabited α] : Inhabited (Stored α) where
  default := ⟨default, []⟩

/-- The members of `rpc_loc_gnss_info_s_type` that bound the loop over its list. -/
structure GnssInfo where
  validMask : BitVec 32
  svCount : BitVec 16
  deriving DecidableEq, Repr

/-- `RPC_LOC_GNSS_INFO_VALID_SV_COUNT`. -/
def gnssInfoValidSvCount : BitVec 32 := 0x10

/-- `RPC_LOC_GNSS_INFO_VALID_SV_LIST`. -/
def gnssInfoValidSvList : BitVec 32 := 0x20

/-- `GPS_MAX_SVS`. -/
def gpsMaxSvs : Nat := 32

/-- How often the loop of `loc_eng_report_sv` reads `sv_list_val` (loc_eng.cpp:1107–1123). -/
def GnssInfo.svsRead (g : GnssInfo) : Nat :=
  let numSvsMax :=
    if g.validMask &&& gnssInfoValidSvCount ≠ 0 then min g.svCount.toNat gpsMaxSvs else 0
  if g.validMask &&& gnssInfoValidSvList ≠ 0 then numSvsMax else 0

/-- What matters of a payload here. `gnss` is what reading the `gnss_report` arm yields. -/
structure Layout (α : Type) where
  allocs : α → Nat
  gnss : α → GnssInfo

/-- How many entries `loc_eng_report_sv` reads of this payload. -/
def Layout.svsRead (L : Layout α) (p : EventPayload (Stored α)) : Nat := (L.gnss p.rest.mem).svsRead

/-- The arguments of one callback. -/
structure Job (α : Type) where
  locHandle : Int
  locEvent : EventMask
  payload : EventPayload (Stored α)
  /-- `ioctl_report.type` of the payload. -/
  ioctlType : BitVec 32

/-- How far `loc_apicbprog_0x00050001` has got with a callback. -/
inductive Stage
  /-- `svc_getargs` returned. -/
  | decoded
  /-- In `loc_api_callback_process_sync_call`, with `loc_sync_data.lock`. -/
  | walking
  /-- `loc_api_callback_process_sync_call` returned. -/
  | forwarding
  /-- `rpc_loc_event_cb_f_type_svc` returned. -/
  | replying
  /-- The reply is sent. -/
  | freeing
  deriving DecidableEq, Repr

/-- The allocated blocks and the threads. -/
structure CopyState (α : Type) where
  live : Finset Nat
  /-- The block that is allocated next. -/
  next : Nat
  dispatch : Option (Stage × Job α)
  /-- The loop variable `i` of `loc_eng_report_sv`. -/
  svNext : Nat
  eng : EngState (Stored α)
  sync : SyncState (Stored α)

/-- The atomic steps. -/
inductive CopyAct (α : Type)
  /-- `svc_getargs` decodes a callback. -/
  | getArgs (locHandle : Int) (locEvent : EventMask) (payload : EventPayload α)
    (ioctlType : BitVec 32)
  /-- No handler is registered for the callback's id. -/
  | noHandler
  /-- `loc_api_callback_process_sync_call` gets its lock. -/
  | processSyncCall
  /-- It visits the next slot. -/
  | visit
  /-- It returns. -/
  | processed
  /-- `loc_event_cb`. -/
  | eventCb
  | sendReply
  | freeArgs
  /-- A step of a `loc_api_sync_ioctl`. -/
  | caller (a : SyncAct (Stored α))
  /-- A step of the deferred thread or of a HAL call. -/
  | engine (a : EngAct (Stored α))
  /-- `loc_eng_report_sv` reads the next entry of the satellite list. -/
  | readSv

/-- The payload with the blocks that decoding it allocated. -/
def stored (p : EventPayload α) (handles : List Nat) : EventPayload (Stored α) where
  statusReport := p.statusReport
  locServerRequest := p.locServerRequest
  assistDataRequest := p.assistDataRequest
  rest := ⟨p.rest, handles⟩

/-- A step of the dispatcher at a stage. -/
def CopyState.at (s : CopyState α) (stage : Stage) (f : Job α → Option (CopyState α)) :
    Option (CopyState α) :=
  s.dispatch.bind fun d => if d.1 = stage then f d.2 else none

/-- The entries that `loc_eng_report_sv` has still to read, if the thread is in it. It is called
outside a muted session only (loc_eng.cpp:1404). -/
def svsLeft (L : Layout α) (s : CopyState α) : Nat :=
  match s.eng.thread with
  | .running (.reportSv p :: _) =>
    if s.eng.data.muteSessionState ≠ .inSession then L.svsRead p - s.svNext else 0
  | _ => 0

/-- The step belongs to a `loc_api_sync_ioctl`, not to a callback. -/
def isCaller : SyncAct (Stored α) → Bool
  | .callback _ _ _ | .visit | .callbackEnd => false
  | _ => true

/-- The step belongs to the deferred thread or to a HAL call, not to a callback. -/
def isEngine : EngAct (Stored α) → Bool
  | .locEventCb _ _ _ => false
  | _ => true

/-- The deferred thread runs a piece. -/
def isMicro : EngAct (Stored α) → Bool
  | .micro _ _ => true
  | _ => false

/-- One atomic step. -/
def copyStep (L : Layout α) (s : CopyState α) : CopyAct α → Option (CopyState α)
  | .getArgs locHandle locEvent payload ioctlType =>
    match s.dispatch with
    | some _ => none
    | none =>
      let handles := List.range' s.next (L.allocs payload.rest)
      some { s with
        live := s.live ∪ handles.toFinset
        next := s.next + L.allocs payload.rest
        dispatch := some (.decoded, ⟨locHandle, locEvent, stored payload handles, ioctlType⟩) }
  | .noHandler => s.at .decoded fun j => some { s with dispatch := some (.replying, j) }
  | .processSyncCall => s.at .decoded fun j =>
    (syncStep s.sync (.callback j.locHandle j.locEvent ⟨j.ioctlType, j.payload.rest⟩)).map fun y =>
      -- without a synchronous call in progress it returns at once
      { s with sync := y, dispatch := some (if s.sync.inUse then .walking else .forwarding, j) }
  | .visit => s.at .walking fun _ => (syncStep s.sync .visit).map fun y => { s with sync := y }
  | .processed => s.at .walking fun j =>
    (syncStep s.sync .callbackEnd).map fun y =>
      { s with sync := y, dispatch := some (.forwarding, j) }
  | .eventCb => s.at .forwarding fun j =>
    (engStep s.eng (.locEventCb j.locHandle j.locEvent j.payload)).map fun e =>
      { s with eng := e, dispatch := some (.replying, j) }
  | .sendReply => s.at .replying fun j => some { s with dispatch := some (.freeing, j) }
  | .freeArgs => s.at .freeing fun j =>
    some { s with live := s.live \ j.payload.rest.handles.toFinset, dispatch := none }
  | .caller a =>
    if isCaller a then (syncStep s.sync a).map fun y => { s with sync := y } else none
  | .engine a =>
    -- loc_eng_report_sv does not return before its loop is over
    if isEngine a ∧ (isMicro a → svsLeft L s = 0) then
      (engStep s.eng a).map fun e =>
        { s with eng := e, svNext := if isMicro a then 0 else s.svNext }
    else none
  | .readSv => if 0 < svsLeft L s then some { s with svNext := s.svNext + 1 } else none

/-- After `loc_eng_init`, with no callback and no synchronous call in progress. -/
def copyInit (α : Type) [Inhabited α] (cb : GpsCallbacks) (handle : Int) : CopyState α where
  live := ∅
  next := 0
  dispatch := none
  svNext := 0
  eng := engInit (Stored α) cb handle
  sync := locApiSyncCallInit (Stored α)

/-! ## Reads and the condition -/

/-- What lies in a slot's payload buffer. -/
def receivedHandles (slot : Slot (Stored α)) : List Nat :=
  slot.received.elim [] fun cb => cb.payload.body.handles

/-- The blocks that a step relies on. -/
def handlesRead (s : CopyState α) : CopyAct α → List Nat
  | .readSv =>
    match s.eng.thread with
    | .running (.reportSv p :: _) => p.rest.handles
    | _ => []
  | .caller (.waitCallback i) =>
    -- otherwise the wait begins, or is refused
    if (s.sync.slots i).hasArrived then receivedHandles (s.sync.slots i) else []
  | .caller (.wakeUp i) => receivedHandles (s.sync.slots i)
  | _ => []

/-- Every block the step relies on is allocated. -/
def ReadsLive (s : CopyState α) (a : CopyAct α) : Prop := ∀ h ∈ handlesRead s a, h ∈ s.live

instance (s : CopyState α) (a : CopyAct α) : Decidable (ReadsLive s a) :=
  inferInstanceAs (Decidable (∀ _ ∈ _, _))

/-- The payload of a piece whose satellite list is read from entry `n` on. -/
def unread (L : Layout α) (n : Nat) : Micro (Stored α) → List (Stored α)
  | .reportSv p => if n < L.svsRead p then [p.rest] else []
  | _ => []

/-- The copies that the deferred thread holds and has still to read; `n` entries of the
list it is at are read. -/
def inTodo (L : Layout α) (n : Nat) : List (Micro (Stored α)) → List (Stored α)
  | [] => []
  | m :: todo => unread L n m ++ todo.flatMap (unread L 0)

def inThread (L : Layout α) (n : Nat) : ThreadPc (Stored α) → List (Stored α)
  | .running todo => inTodo L n todo
  | .top => []
  | .waiting => []
  | .done => []

/-- The deferred thread has left its loop. -/
def ended : ThreadPc (Stored α) → Bool
  | .done => true
  | _ => false

/-- The copy in `loc_event_payload`, if the deferred thread will read its satellite list. -/
def inSlot (L : Layout α) (e : EngState (Stored α)) : List (Stored α) :=
  if ended e.thread = false ∧ e.data.locEvent.has satelliteReport = true ∧
      0 < L.svsRead e.data.locEventPayload then
    [e.data.locEventPayload.rest]
  else []

/-- The copy in the slot of a synchronous call that will return it. -/
def inReply (y : SyncState (Stored α)) (i : SlotId) : List (Stored α) :=
  if (y.liveCall i).isSome = true ∧ (y.slots i).delivered = true then
    (y.slots i).received.elim [] fun cb => [cb.payload.body]
  else []

/-- No copy that will be read holds one of these blocks. -/
def allRead (L : Layout α) (s : CopyState α) (handles : List Nat) : Prop :=
  (∀ c ∈ inThread L s.svNext s.eng.thread ++ inSlot L s.eng, ∀ h ∈ c.handles, h ∉ handles) ∧
    ∀ i, ∀ c ∈ inReply s.sync i, ∀ h ∈ c.handles, h ∉ handles

instance (L : Layout α) (s : CopyState α) (handles : List Nat) : Decidable (allRead L s handles) :=
  inferInstanceAs (Decidable (_ ∧ _))

/-- The dispatcher frees a payload when its copies have been read, and a wait ends by a
signal or finds no pointers in its slot. -/
def copiesRead (L : Layout α) (s : CopyState α) : CopyAct α → Prop
  | .freeArgs => ∀ d ∈ s.dispatch, allRead L s d.2.payload.rest.handles
  | .caller (.wakeUp i) =>
    (s.sync.slots i).signalled = true ∨ receivedHandles (s.sync.slots i) = []
  | _ => True

instance (L : Layout α) (s : CopyState α) : (a : CopyAct α) → Decidable (copiesRead L s a)
  | .freeArgs => inferInstanceAs (Decidable (∀ d ∈ s.dispatch, _))
  | .caller (.wakeUp _) => inferInstanceAs (Decidable (_ ∨ _))
  | .caller (.alloc _ _) | .caller (.fill _) | .caller (.ioctl _) | .caller (.ioctlReturn _ _)
  | .caller (.waitCallback _) | .caller (.timeOut _) | .caller (.freeSlot _)
  | .caller (.callback _ _ _) | .caller .visit | .caller .callbackEnd => .isTrue trivial
  | .getArgs _ _ _ _ | .noHandler | .processSyncCall | .visit | .processed | .eventCb
  | .sendReply | .engine _ | .readSv => .isTrue trivial

/-! ## The engine

No step but `loc_event_cb` makes a copy that will be read: the deferred thread moves the
one in the slot to its own, and drops what it has read. -/

section Engine

variable {L : Layout α} {e e' : EngState (Stored α)} {a : EngAct (Stored α)} {n : Nat}

theorem inSlot_congr (ht : ended e'.thread = ended e.thread)
    (hl : e'.data.locEvent = e.data.locEvent)
    (hp : e'.data.locEventPayload = e.data.locEventPayload) : inSlot L e' = inSlot L e := by
  unfold inSlot
  rw [ht, hl, hp]

theorem mem_unread {m : Micro (Stored α)} {c : Stored α} :
    c ∈ unread L n m ↔ ∃ p, m = .reportSv p ∧ n < L.svsRead p ∧ c = p.rest := by
  cases m with
  | reportSv p =>
    by_cases h : n < L.svsRead p
    · simp [unread, h]
    · simp [unread, h]
  | _ => simp [unread]

theorem mem_inTodo {todo : List (Micro (Stored α))} {c : Stored α} (h : c ∈ inTodo L n todo) :
    ∃ p, .reportSv p ∈ todo ∧ 0 < L.svsRead p ∧ c = p.rest := by
  cases todo with
  | nil => cases h
  | cons m todo =>
    rcases List.mem_append.mp h with h | h
    · obtain ⟨p, rfl, hn, rfl⟩ := mem_unread.mp h
      exact ⟨p, List.mem_cons_self, by omega, rfl⟩
    · obtain ⟨m', hm', h⟩ := List.mem_flatMap.mp h
      obtain ⟨p, rfl, hn, rfl⟩ := mem_unread.mp h
      exact ⟨p, List.mem_cons_of_mem m hm', hn, rfl⟩

theorem inThread_mono {n' : Nat} (hn : n ≤ n') {t : ThreadPc (Stored α)} {c : Stored α}
    (h : c ∈ inThread L n' t) : c ∈ inThread L n t := by
  cases t with
  | running todo =>
    cases todo with
    | nil => cases h
    | cons m todo =>
      rcases List.mem_append.mp h with h | h
      · obtain ⟨p, hm, hlt, hc⟩ := mem_unread.mp h
        exact List.mem_append_left _ (mem_unread.mpr ⟨p, hm, by omega, hc⟩)
      · exact List.mem_append_right _ h
  | _ => cases h

theorem inTodo_zero (todo : List (Micro (Stored α))) :
    inTodo L 0 todo = todo.flatMap (unread L 0) := by
  cases todo <;> rfl

/-- The calls of other threads leave the slot and the thread alone. -/
theorem call_copies (h : EngStep e a e') (hc : a.isCall = true) (ha : isEngine a = true) :
    inThread L n e'.thread = inThread L n e.thread ∧ inSlot L e' = inSlot L e := by
  have hu := h.call_untouched hc
  have ht := h.call_thread hc
  have hslot : e'.data.locEvent = e.data.locEvent ∧
      e'.data.locEventPayload = e.data.locEventPayload := by
    cases a with
    | locEventCb _ _ _ => cases ha
    | _ => exact ⟨congrArg (·.locEvent) hu, congrArg (·.locEventPayload) hu⟩
  exact ⟨by rw [ht], inSlot_congr (by rw [ht]) hslot.1 hslot.2⟩

theorem run_slot (rc : Int) (mute : Bool) (m : Micro (Stored α))
    (d : LocEngData (Stored α)) : (m.run rc mute d).locEvent = d.locEvent ∧
      (m.run rc mute d).locEventPayload = d.locEventPayload := by
  have hu := m.run_untouched rc mute d
  cases m <;> exact ⟨congrArg (·.locEvent) hu, congrArg (·.locEventPayload) hu⟩

/-- The thread's copy is the one that was in the slot. -/
theorem quitOrCopy_copies {d : LocEngData (Stored α)} (ht : ended e.thread = false)
    (hl : d.locEvent = e.data.locEvent) (hp : d.locEventPayload = e.data.locEventPayload)
    {c : Stored α} (hc : c ∈ inThread L n (quitOrCopy e d).thread ++ inSlot L (quitOrCopy e d)) :
    c ∈ inSlot L e := by
  unfold quitOrCopy at hc
  by_cases hq : d.deferredActionFlags.quit = true
  · rw [if_pos hq] at hc
    simp [inThread, inSlot, ended] at hc
  · rw [if_neg hq] at hc
    rcases List.mem_append.mp hc with hc | hc
    · obtain ⟨p, hmem, hn, rfl⟩ := mem_inTodo hc
      have hrep : d.locEvent ≠ 0 ∧ d.locEvent.has satelliteReport = true ∧
          p = d.locEventPayload := by
        simpa [mem_iteration_iff, mem_locEngProcessLocEvent_iff, copyLocals] using hmem
      obtain ⟨-, hhas, rfl⟩ := hrep
      rw [hl] at hhas
      rw [hp] at hn ⊢
      simp [inSlot, ht, hhas, hn]
    · simp [inSlot, copyLocals, EventMask.has] at hc

theorem EngStep.copies (h : EngStep e a e') (ha : isEngine a = true) {c : Stored α}
    (hc : c ∈ inThread L (if isMicro a then 0 else n) e'.thread ++ inSlot L e') :
    c ∈ inThread L n e.thread ++ inSlot L e := by
  by_cases hcall : a.isCall = true
  · have hm : isMicro a = false := by
      cases a with
      | micro _ _ => cases hcall
      | _ => rfl
    obtain ⟨ht, hs⟩ := call_copies (L := L) (n := n) h hcall ha
    rwa [hm, if_neg Bool.false_ne_true, ht, hs] at hc
  · cases h with
    | topWait ht _ =>
      have hs : inSlot L { e with
          data := { e.data with wakeLock := false, deferredActionCond := .waiting }
          thread := .waiting } = inSlot L e := inSlot_congr (by rw [ht]; rfl) rfl rfl
      rw [hs] at hc
      exact List.mem_append_right _ hc
    | topCopy ht _ =>
      exact List.mem_append_right _ (quitOrCopy_copies (by rw [ht]; rfl) rfl rfl hc)
    | wake ht =>
      refine List.mem_append_right _ (quitOrCopy_copies ?_ ?_ ?_ hc)
      · rw [ht]
        rfl
      · rfl
      · rfl
    | @micro rc mute m todo ht _ =>
      obtain ⟨hl, hp⟩ := run_slot rc mute m e.data
      have hs : inSlot L { e with data := m.run rc mute e.data, thread := .running todo } =
          inSlot L e := inSlot_congr (by rw [ht]; rfl) hl hp
      rw [hs] at hc
      rcases List.mem_append.mp hc with hc | hc
      · have htail : c ∈ todo.flatMap (unread L 0) := by
          rw [← inTodo_zero]
          exact hc
        rw [ht]
        exact List.mem_append_left _ (List.mem_append_right _ htail)
      · exact List.mem_append_right _ hc
    | loop ht =>
      have hs : inSlot L { e with thread := .top } = inSlot L e :=
        inSlot_congr (by rw [ht]; rfl) rfl rfl
      rw [hs] at hc
      exact List.mem_append_right _ hc
    | _ => exact absurd rfl hcall

/-- `loc_event_cb` copies the payload or leaves everything as it was. -/
theorem locEventCb_copies {h : Int} {m : EventMask} {p : EventPayload (Stored α)} {c : Stored α}
    (hc : c ∈ inThread L n e.thread ++ inSlot L { e with data := locEventCb h m p e.data }) :
    c = p.rest ∨ c ∈ inThread L n e.thread ++ inSlot L e := by
  rcases List.mem_append.mp hc with hc | hc
  · exact .inr (List.mem_append_left _ hc)
  · unfold locEventCb at hc
    by_cases hacc : acceptsEvent h m e.data = true
    · simp only [hacc, if_true, inSlot, List.mem_ite_nil_right, List.mem_singleton] at hc
      exact .inl hc.2
    · simp only [hacc] at hc
      exact .inr (List.mem_append_right _ hc)

end Engine

/-! ## The synchronous calls

No step of a caller makes a copy that will be read; a visit may make one, of the payload of
the callback. -/

section Sync

variable {y y' : SyncState (Stored α)} {i : SlotId} {c : Call}

/-- Only a call in its wait has a slot that waits or is signalled. -/
structure SlotsInv (y : SyncState (Stored α)) : Prop where
  waiting : ∀ i, (y.slots i).isWaiting = true ∨ (y.slots i).signalled = true →
    ∃ c, y.calls i = some c ∧ c.phase = .waiting
  used : ∀ i, y.slotInUse i = false → y.calls i = none

theorem SlotsInv.not_waiting (hi : SlotsInv y) (hc : y.calls i = some c)
    (hp : c.phase ≠ .waiting) :
    (y.slots i).isWaiting = false ∧ (y.slots i).signalled = false := by
  have hno : ¬ ((y.slots i).isWaiting = true ∨ (y.slots i).signalled = true) := by
    intro h
    obtain ⟨c', hc', hp'⟩ := hi.waiting i h
    rw [hc, Option.some.injEq] at hc'
    exact hp (hc' ▸ hp')
  simpa [not_or] using hno

theorem mem_inReply {p : Stored α} :
    p ∈ inReply y i ↔ (∃ c, y.calls i = some c ∧ c.phase.live = true) ∧
      (y.slots i).delivered = true ∧
      ∃ cb, (y.slots i).received = some cb ∧ p = cb.payload.body := by
  have hcall : (y.liveCall i).isSome = true ↔ ∃ c, y.calls i = some c ∧ c.phase.live = true := by
    simp [SyncState.liveCall, Option.any_eq_true]
  unfold inReply
  rw [List.mem_ite_nil_right, hcall, and_assoc]
  refine and_congr_right fun _ => and_congr_right fun _ => ?_
  cases (y.slots i).received <;> simp

/-- The payload of the callback that walks over the slots. -/
def walkBody : Holder (Stored α) → Option (Stored α)
  | .callback w => some w.cb.payload.body
  | _ => none

/-- A step that keeps `SlotsInv` and makes no copy that will be read. -/
structure CallerFrame (y y' : SyncState (Stored α)) : Prop where
  slots : SlotsInv y'
  replies : ∀ i, ∀ p ∈ inReply y' i, p ∈ inReply y i
  walk : ∀ p ∈ walkBody y'.lock, p ∈ walkBody y.lock

theorem CallerFrame.put (hi : SlotsInv y) (hc : y.calls i = some c) {slot : Slot (Stored α)}
    {c' : Call} {evs : List (SyncEvent (Stored α))}
    {lock : Holder (Stored α)}
    (hw : slot.isWaiting = true ∨ slot.signalled = true → c'.phase = .waiting)
    (hr : c'.phase.live = true → slot.delivered = true → c.phase.live = true ∧
      (y.slots i).delivered = true ∧ slot.received = (y.slots i).received)
    (hlock : ∀ p ∈ walkBody lock, p ∈ walkBody y.lock) :
    CallerFrame y { y.put i slot c' evs with lock := lock } := by
  refine ⟨⟨fun j hj => ?_, fun j hj => ?_⟩, fun j p hp => ?_, hlock⟩
  · by_cases hji : j = i
    · subst hji
      refine ⟨c', by simp [SyncState.put], hw ?_⟩
      simpa [SyncState.put] using hj
    · have hj' := hi.waiting j (by simpa [SyncState.put, hji] using hj)
      simpa [SyncState.put, hji] using hj'
  · by_cases hji : j = i
    · subst hji
      rw [hi.used j hj] at hc
      cases hc
    · simpa [SyncState.put, hji] using hi.used j hj
  · rw [mem_inReply] at hp ⊢
    by_cases hji : j = i
    · subst hji
      simp only [SyncState.put, Function.update_self, Option.some.injEq] at hp
      obtain ⟨⟨_, rfl, hl⟩, hd, cb, hcb, rfl⟩ := hp
      obtain ⟨hl', hd', hrec⟩ := hr hl hd
      exact ⟨⟨c, hc, hl'⟩, hd', cb, hrec ▸ hcb, rfl⟩
    · simpa [SyncState.put, hji] using hp

/-- A call goes on outside its wait, with its slot as it is. -/
theorem CallerFrame.phase (hi : SlotsInv y) (hc : y.calls i = some c) (hl : c.phase.live = true)
    (hnw : c.phase ≠ .waiting) (p : Phase) {evs : List (SyncEvent (Stored α))}
    {lock : Holder (Stored α)}
    (hlock : ∀ p ∈ walkBody lock, p ∈ walkBody y.lock) :
    CallerFrame y { y.put i (y.slots i) { c with phase := p } evs with lock := lock } := by
  obtain ⟨hw, hs⟩ := hi.not_waiting hc hnw
  refine .put hi hc ?_ (fun _ hd => ⟨hl, hd, rfl⟩) hlock
  rintro (h | h)
  · rw [hw] at h
    cases h
  · rw [hs] at h
    cases h

/-- A call's wait is over. -/
theorem CallerFrame.endWait (hi : SlotsInv y) (hc : y.calls i = some c)
    (e : SyncEvent (Stored α)) : CallerFrame y (y.endWait i c e) := by
  refine .put hi hc ?_ ?_ fun _ h => h
  · rintro (h | h) <;> cases h
  · intro h
    cases h

/-- A slot gets a new call or loses its call, outside any wait. -/
theorem CallerFrame.recall (hi : SlotsInv y) (i : SlotId) (hslots : y'.slots = y.slots)
    {call : Option Call} (hcalls : y'.calls = Function.update y.calls i call) {used : Bool}
    (hused : y'.slotInUse = Function.update y.slotInUse i used) (hlock : y'.lock = y.lock)
    (hold : ∀ c, y.calls i = some c → c.phase ≠ .waiting)
    (hnew : ∀ c, call = some c → c.phase.live = false) (hnone : used = false → call = none) :
    CallerFrame y y' := by
  refine ⟨⟨fun j hj => ?_, fun j hj => ?_⟩, fun j p hp => ?_, by simp [hlock]⟩
  · rw [hslots] at hj
    obtain ⟨c, hc, hp⟩ := hi.waiting j hj
    have hji : j ≠ i := by
      rintro rfl
      exact hold c hc hp
    rw [hcalls, Function.update_of_ne hji]
    exact ⟨c, hc, hp⟩
  · rw [hused] at hj
    rw [hcalls]
    by_cases hji : j = i
    · subst hji
      rw [Function.update_self] at hj ⊢
      exact hnone hj
    · rw [Function.update_of_ne hji] at hj ⊢
      exact hi.used j hj
  · rw [mem_inReply, hslots, hcalls] at hp
    rw [mem_inReply]
    by_cases hji : j = i
    · subst hji
      rw [Function.update_self] at hp
      obtain ⟨⟨c, hc, hl⟩, -⟩ := hp
      rw [hnew c hc] at hl
      cases hl
    · rwa [Function.update_of_ne hji] at hp

theorem CallerFrame.callStep {a : SyncAct (Stored α)} (hi : SlotsInv y) (ha : a.slot = some i)
    (hc : y.calls i = some c) (h : callStep y i c a = some y') : CallerFrame y y' := by
  cases a with
  | fill j =>
    cases ha
    simp only [LocApi.SyncCall.callStep, Option.ite_none_right_eq_some, Option.some.injEq] at h
    obtain ⟨hp, rfl⟩ := h
    obtain ⟨-, hs⟩ := hi.not_waiting hc (by rw [hp]; decide)
    refine .put hi hc ?_ ?_ fun _ h => h
    · simp [Slot.select, hs]
    · simp [Slot.delivered, Slot.select, hs]
  | ioctl j =>
    cases ha
    simp only [LocApi.SyncCall.callStep] at h
    split at h
    next hp _ =>
      cases h
      exact .phase hi hc (by rw [hp]; rfl) (by rw [hp]; decide) .calling (by simp [walkBody])
    next hp _ =>
      cases h
      exact .phase hi hc (by rw [hp]; rfl) (by rw [hp]; decide) .calling (by simp [walkBody])
    · cases h
  | ioctlReturn j rc =>
    cases ha
    simp only [LocApi.SyncCall.callStep, Option.ite_none_right_eq_some] at h
    obtain ⟨hp, h⟩ := h
    have hl : c.phase.live = true := by rw [hp]; rfl
    have hnw : c.phase ≠ .waiting := by rw [hp]; decide
    cases rc with
    | success =>
      cases h
      exact .phase hi hc hl hnw .called (by simp [walkBody])
    | engineBusy =>
      cases h
      exact .phase hi hc hl hnw .busyWait (by simp [walkBody])
    | error =>
      cases h
      exact .phase hi hc hl hnw .done (by simp [walkBody])
  | waitCallback j =>
    cases ha
    simp only [LocApi.SyncCall.callStep, Option.ite_none_right_eq_some] at h
    obtain ⟨hp, h⟩ := h
    have hl : c.phase.live = true := by rw [hp]; rfl
    have hnw : c.phase ≠ .waiting := by rw [hp]; decide
    split at h
    · cases h
      exact .phase hi hc hl hnw .done fun _ h => h
    · split at h
      · cases h
        exact .phase hi hc hl hnw .done fun _ h => h
      · cases h
        exact .put hi hc (fun _ => rfl) (fun _ hd => ⟨hl, hd, rfl⟩) fun _ h => h
  | wakeUp j =>
    cases ha
    simp only [LocApi.SyncCall.callStep, Option.ite_none_right_eq_some, Option.some.injEq] at h
    obtain ⟨-, rfl⟩ := h
    exact .endWait hi hc _
  | timeOut j =>
    cases ha
    simp only [LocApi.SyncCall.callStep, Option.ite_none_right_eq_some, Option.some.injEq] at h
    obtain ⟨-, rfl⟩ := h
    exact .endWait hi hc _
  | freeSlot j =>
    cases ha
    simp only [LocApi.SyncCall.callStep] at h
    split at h
    next hp _ =>
      cases h
      refine .recall hi i rfl rfl rfl rfl ?_ (by simp) fun _ => rfl
      intro c' hc'
      rw [hc, Option.some.injEq] at hc'
      rw [← hc', hp]
      decide
    · cases h
  | _ => cases ha

/-- A step of a caller. -/
theorem CallerFrame.step {a : SyncAct (Stored α)} (hi : SlotsInv y) (ha : isCaller a = true)
    (h : syncStep y a = some y') : CallerFrame y y' := by
  cases hslot : a.slot with
  | some i =>
    simp only [syncStep, hslot] at h
    obtain ⟨c, hc, hst⟩ := Option.bind_eq_some_iff.mp h
    exact .callStep hi hslot hc hst
  | none =>
    cases a with
    | alloc handle ioctlType =>
      cases hlock : y.lock with
      | free =>
        simp only [syncStep, SyncAct.slot, hlock] at h
        split at h
        next i hfree =>
          cases h
          have hunused : y.slotInUse i = false := by
            simpa using List.find?_some hfree
          refine .recall hi i rfl rfl rfl rfl ?_ ?_ (by simp)
          · rw [hi.used i hunused]
            simp
          · rintro _ ⟨⟩
            rfl
        next =>
          cases h
          exact ⟨hi, fun _ _ hp => hp, fun _ hw => hw⟩
      | caller => simp [syncStep, SyncAct.slot, hlock] at h
      | callback w => simp [syncStep, SyncAct.slot, hlock] at h
    | callback _ _ _ => cases ha
    | visit => cases ha
    | callbackEnd => cases ha
    | _ => cases hslot

/-- A slot that the callback is delivered to. -/
theorem SlotsInv.deliver (hi : SlotsInv y) (i : SlotId) (cb : Callback (Stored α))
    (hslots : y'.slots = Function.update y.slots i ((y.slots i).deliver cb))
    (hcalls : y'.calls = y.calls) (hused : y'.slotInUse = y.slotInUse) :
    SlotsInv y' ∧ ∀ j, ∀ p ∈ inReply y' j, p = cb.payload.body ∨ p ∈ inReply y j := by
  have hwait : ((y.slots i).deliver cb).isWaiting = (y.slots i).isWaiting := by
    unfold Slot.deliver
    split <;> rfl
  have hsig : ((y.slots i).deliver cb).signalled = true →
      (y.slots i).isWaiting = true ∨ (y.slots i).signalled = true := by
    unfold Slot.deliver
    split
    next h => exact fun _ => .inl h
    next => exact fun h => .inr h
  have hrec : ((y.slots i).deliver cb).received = some cb := by
    unfold Slot.deliver
    split <;> rfl
  refine ⟨⟨fun j hj => ?_, fun j hj => ?_⟩, fun j p hp => ?_⟩
  · rw [hcalls]
    refine hi.waiting j ?_
    rw [hslots] at hj
    by_cases hji : j = i
    · subst hji
      rw [Function.update_self, hwait] at hj
      exact hj.elim .inl hsig
    · rwa [Function.update_of_ne hji] at hj
  · rw [hcalls]
    exact hi.used j (hused ▸ hj)
  · rw [mem_inReply, hslots, hcalls] at hp
    by_cases hji : j = i
    · subst hji
      rw [Function.update_self, hrec] at hp
      obtain ⟨-, -, cb', ⟨⟩, rfl⟩ := hp
      exact .inl rfl
    · rw [Function.update_of_ne hji] at hp
      exact .inr (mem_inReply.mpr hp)

/-- A callback that finds a synchronous call in progress walks over the slots. -/
theorem callback_step (hi : SlotsInv y) {h : Int} {m : EventMask}
    {p : LocApi.SyncCall.EventPayload (Stored α)} (hst : syncStep y (.callback h m p) = some y') :
    SlotsInv y' ∧ (∀ i, inReply y' i = inReply y i) ∧
      walkBody y'.lock = if y.inUse then some p.body else none := by
  cases hlock : y.lock with
  | free =>
    simp only [syncStep, SyncAct.slot, hlock] at hst
    split at hst
    next huse =>
      cases hst
      exact ⟨⟨hi.waiting, hi.used⟩, fun _ => rfl, by rw [if_pos huse]; rfl⟩
    next huse =>
      cases hst
      exact ⟨⟨hi.waiting, hi.used⟩, fun _ => rfl, by rw [if_neg huse]; rfl⟩
  | caller => simp [syncStep, SyncAct.slot, hlock] at hst
  | callback w => simp [syncStep, SyncAct.slot, hlock] at hst

/-- A visit copies the payload into the slot or leaves it alone. -/
theorem visit_step (hi : SlotsInv y) (hst : syncStep y .visit = some y') :
    ∃ p, walkBody y.lock = some p ∧ walkBody y'.lock = some p ∧ SlotsInv y' ∧
      ∀ i, ∀ q ∈ inReply y' i, q = p ∨ q ∈ inReply y i := by
  cases hlock : y.lock with
  | callback w =>
    simp only [syncStep, SyncAct.slot, hlock, Option.ite_none_left_eq_some,
      Option.dite_none_right_eq_some, Option.some.injEq] at hst
    obtain ⟨-, hn, rfl⟩ := hst
    refine ⟨w.cb.payload.body, rfl, ?_⟩
    unfold SyncState.visit
    split
    next hacc =>
      cases hlive : y.liveCall ⟨w.next, hn⟩ with
      | some c => exact ⟨rfl, hi.deliver ⟨w.next, hn⟩ w.cb rfl rfl rfl⟩
      | none => exact ⟨rfl, hi.deliver ⟨w.next, hn⟩ w.cb rfl rfl rfl⟩
    next => exact ⟨rfl, ⟨hi.waiting, hi.used⟩, fun _ _ hq => .inr hq⟩
  | free => simp [syncStep, SyncAct.slot, hlock] at hst
  | caller => simp [syncStep, SyncAct.slot, hlock] at hst

theorem callbackEnd_step (hi : SlotsInv y) (hst : syncStep y .callbackEnd = some y') :
    SlotsInv y' ∧ (∀ i, inReply y' i = inReply y i) ∧ walkBody y'.lock = none := by
  cases hlock : y.lock with
  | callback w =>
    simp only [syncStep, SyncAct.slot, hlock, Option.ite_none_right_eq_some,
      Option.some.injEq] at hst
    obtain ⟨-, rfl⟩ := hst
    exact ⟨⟨hi.waiting, hi.used⟩, fun _ => rfl, rfl⟩
  | free => simp [syncStep, SyncAct.slot, hlock] at hst
  | caller => simp [syncStep, SyncAct.slot, hlock] at hst

end Sync

/-! ## The invariant and the run -/

section Run

variable {L : Layout α} {s s' : CopyState α} {a : CopyAct α}

/-- Every block of the payload is allocated. -/
def Stored.Alive (live : Finset Nat) (c : Stored α) : Prop := ∀ h ∈ c.handles, h ∈ live

/-- What the dispatcher works on and every copy that will be read is alive; what walks over
the slots is what the dispatcher works on. -/
structure CopiesInv (L : Layout α) (s : CopyState α) : Prop where
  job : ∀ d ∈ s.dispatch, d.2.payload.rest.Alive s.live
  engine : ∀ c ∈ inThread L s.svNext s.eng.thread ++ inSlot L s.eng, c.Alive s.live
  replies : ∀ i, ∀ c ∈ inReply s.sync i, c.Alive s.live
  slots : SlotsInv s.sync
  walk : ∀ p ∈ walkBody s.sync.lock, ∃ j, s.dispatch = some (.walking, j) ∧ p = j.payload.rest

theorem at_eq_some {stage : Stage} {f : Job α → Option (CopyState α)} :
    s.at stage f = some s' ↔ ∃ j, s.dispatch = some (stage, j) ∧ f j = some s' := by
  unfold CopyState.at
  rw [Option.bind_eq_some_iff]
  constructor
  · rintro ⟨⟨stage', j⟩, hd, h⟩
    rw [Option.ite_none_right_eq_some] at h
    obtain ⟨rfl, h⟩ := h
    exact ⟨j, hd, h⟩
  · rintro ⟨j, hd, h⟩
    exact ⟨(stage, j), hd, by rw [if_pos rfl]; exact h⟩

/-- Nothing walks over the slots unless the dispatcher is at that stage. -/
theorem CopiesInv.no_walk (hi : CopiesInv L s) (hd : ∀ j, s.dispatch ≠ some (.walking, j)) :
    walkBody s.sync.lock = none := by
  cases hw : walkBody s.sync.lock with
  | none => rfl
  | some p =>
    obtain ⟨j, hj, -⟩ := hi.walk p hw
    exact absurd hj (hd j)

theorem Stored.Alive.mono {live live' : Finset Nat} {c : Stored α} (h : c.Alive live)
    (hsub : live ⊆ live') : c.Alive live' := fun x hx => hsub (h x hx)

theorem Stored.Alive.sdiff {live : Finset Nat} {c : Stored α} {handles : List Nat}
    (h : c.Alive live) (hd : ∀ x ∈ c.handles, x ∉ handles) :
    c.Alive (live \ handles.toFinset) := by
  intro x hx
  rw [Finset.mem_sdiff, List.mem_toFinset]
  exact ⟨h x hx, hd x hx⟩

/-- The dispatcher goes on to a stage that is not the walk, and nothing else changes. -/
theorem CopiesInv.advance (hi : CopiesInv L s) {stage : Stage} {j : Job α}
    (hd : s.dispatch = some (stage, j)) (hne : stage ≠ .walking) (stage' : Stage) :
    CopiesInv L { s with dispatch := some (stage', j) } := by
  have hw := hi.no_walk fun j' hj' => by
    rw [hd, Option.some.injEq, Prod.mk.injEq] at hj'
    exact hne hj'.1
  refine ⟨?_, hi.engine, hi.replies, hi.slots, ?_⟩
  · rintro _ ⟨⟩
    exact hi.job (stage, j) hd
  · intro p hp
    have hp' : walkBody s.sync.lock = some p := hp
    rw [hw] at hp'
    cases hp'

theorem CopiesInv.getArgs (hi : CopiesInv L s) (hd : s.dispatch = none) (h : Int) (m : EventMask)
    (p : EventPayload α) (t : BitVec 32) (next : Nat) (handles : List Nat) :
    CopiesInv L { s with
      live := s.live ∪ handles.toFinset
      next := next
      dispatch := some (.decoded, ⟨h, m, stored p handles, t⟩) } := by
  have hsub : s.live ⊆ s.live ∪ handles.toFinset := Finset.subset_union_left
  refine ⟨?_, fun c hc => (hi.engine c hc).mono hsub, fun i c hc => (hi.replies i c hc).mono hsub,
    hi.slots, ?_⟩
  · rintro _ ⟨⟩ x hx
    exact Finset.mem_union_right _ (List.mem_toFinset.mpr hx)
  · intro q hq
    obtain ⟨j, hj, -⟩ := hi.walk q hq
    rw [hd] at hj
    cases hj

theorem CopiesInv.eventCb (hi : CopiesInv L s) {j : Job α}
    (hd : s.dispatch = some (.forwarding, j)) :
    CopiesInv L { s with
      eng := { s.eng with data := locEventCb j.locHandle j.locEvent j.payload s.eng.data }
      dispatch := some (.replying, j) } := by
  have hadv := hi.advance hd (by decide) .replying
  refine ⟨hadv.job, fun c hc => ?_, hadv.replies, hadv.slots, hadv.walk⟩
  rcases locEventCb_copies (e := s.eng) (h := j.locHandle) (m := j.locEvent) (p := j.payload) hc
    with heq | hold
  · rw [heq]
    exact hi.job (.forwarding, j) hd
  · exact hi.engine c hold

theorem CopiesInv.freeArgs (hi : CopiesInv L s) {j : Job α}
    (hd : s.dispatch = some (.freeing, j)) (hread : allRead L s j.payload.rest.handles) :
    CopiesInv L { s with
      live := s.live \ j.payload.rest.handles.toFinset
      dispatch := none } := by
  refine ⟨by simp, fun c hc => (hi.engine c hc).sdiff (hread.1 c hc),
    fun i c hc => (hi.replies i c hc).sdiff (hread.2 i c hc), hi.slots, ?_⟩
  intro q hq
  obtain ⟨j', hj', -⟩ := hi.walk q hq
  rw [hd, Option.some.injEq, Prod.mk.injEq] at hj'
  cases hj'.1

/-- Every permitted step keeps the invariant. -/
theorem CopiesInv.step (hok : copiesRead L s a) (h : copyStep L s a = some s')
    (hi : CopiesInv L s) : CopiesInv L s' := by
  cases a with
  | getArgs locHandle locEvent payload ioctlType =>
    simp only [copyStep] at h
    split at h
    · cases h
    next hd =>
      cases h
      exact hi.getArgs hd locHandle locEvent payload ioctlType _ _
  | noHandler =>
    rw [copyStep, at_eq_some] at h
    obtain ⟨j, hd, hf⟩ := h
    cases hf
    exact hi.advance hd (by decide) .replying
  | processSyncCall =>
    rw [copyStep, at_eq_some] at h
    obtain ⟨j, hd, hf⟩ := h
    obtain ⟨y, hy, rfl⟩ := Option.map_eq_some_iff.mp hf
    obtain ⟨hs, hr, hw⟩ := callback_step hi.slots hy
    refine ⟨?_, hi.engine, fun i c hc => hi.replies i c (hr i ▸ hc), hs, ?_⟩
    · rintro _ ⟨⟩
      exact hi.job (.decoded, j) hd
    · intro p hp
      rw [hw] at hp
      by_cases huse : s.sync.inUse = true
      · rw [if_pos huse] at hp ⊢
        exact ⟨j, rfl, (Option.some.inj hp).symm⟩
      · rw [if_neg huse] at hp
        cases hp
  | visit =>
    rw [copyStep, at_eq_some] at h
    obtain ⟨j, hd, hf⟩ := h
    obtain ⟨y, hy, rfl⟩ := Option.map_eq_some_iff.mp hf
    obtain ⟨p, hp, hp', hs, hr⟩ := visit_step hi.slots hy
    have hbody := hi.walk p hp
    refine ⟨hi.job, hi.engine, fun i c hc => ?_, hs, fun q hq => ?_⟩
    · rcases hr i c hc with rfl | hold
      · obtain ⟨j', hj', rfl⟩ := hbody
        exact hi.job _ hj'
      · exact hi.replies i c hold
    · have hqp : q = p := Option.some.inj ((Option.mem_def.mp hq).symm.trans hp')
      rw [hqp]
      exact hbody
  | processed =>
    rw [copyStep, at_eq_some] at h
    obtain ⟨j, hd, hf⟩ := h
    obtain ⟨y, hy, rfl⟩ := Option.map_eq_some_iff.mp hf
    obtain ⟨hs, hr, hw⟩ := callbackEnd_step hi.slots hy
    refine ⟨?_, hi.engine, fun i c hc => hi.replies i c (hr i ▸ hc), hs, ?_⟩
    · rintro _ ⟨⟩
      exact hi.job (.walking, j) hd
    · intro p hp
      rw [hw] at hp
      cases hp
  | eventCb =>
    rw [copyStep, at_eq_some] at h
    obtain ⟨j, hd, hf⟩ := h
    obtain ⟨e, he, rfl⟩ := Option.map_eq_some_iff.mp hf
    cases engStep_cases he with
    | locEventCb h m p => exact hi.eventCb hd
  | sendReply =>
    rw [copyStep, at_eq_some] at h
    obtain ⟨j, hd, hf⟩ := h
    cases hf
    exact hi.advance hd (by decide) .freeing
  | freeArgs =>
    rw [copyStep, at_eq_some] at h
    obtain ⟨j, hd, hf⟩ := h
    cases hf
    exact hi.freeArgs hd (hok _ hd)
  | caller b =>
    simp only [copyStep, Option.ite_none_right_eq_some] at h
    obtain ⟨hb, h⟩ := h
    obtain ⟨y, hy, rfl⟩ := Option.map_eq_some_iff.mp h
    have hf := CallerFrame.step hi.slots hb hy
    exact ⟨hi.job, hi.engine, fun i c hc => hi.replies i c (hf.replies i c hc), hf.slots,
      fun p hp => hi.walk p (hf.walk p hp)⟩
  | engine b =>
    simp only [copyStep, Option.ite_none_right_eq_some] at h
    obtain ⟨⟨hb, -⟩, h⟩ := h
    obtain ⟨e, he, rfl⟩ := Option.map_eq_some_iff.mp h
    exact ⟨hi.job, fun c hc => hi.engine c (EngStep.copies (engStep_cases he) hb hc), hi.replies,
      hi.slots, hi.walk⟩
  | readSv =>
    simp only [copyStep, Option.ite_none_right_eq_some, Option.some.injEq] at h
    obtain ⟨-, rfl⟩ := h
    refine ⟨hi.job, fun c hc => hi.engine c ?_, hi.replies, hi.slots, hi.walk⟩
    rcases List.mem_append.mp hc with hc | hc
    · exact List.mem_append_left _ (inThread_mono (Nat.le_succ _) hc)
    · exact List.mem_append_right _ hc

theorem CopiesInv.init [Inhabited α] (L : Layout α) (cb : GpsCallbacks) (handle : Int) :
    CopiesInv L (copyInit α cb handle) where
  job := by simp [copyInit]
  engine := by
    simp [copyInit, engInit, inThread, inSlot, locEngInit, LocEngData.boot, EventMask.has]
  replies i c hc := by
    obtain ⟨⟨_, hcall, -⟩, -⟩ := mem_inReply.mp hc
    cases hcall
  slots := ⟨fun i h => by simp [copyInit, locApiSyncCallInit, LocApi.SyncCall.slotInit] at h,
    fun _ _ => rfl⟩
  walk := by simp [copyInit, locApiSyncCallInit, walkBody]

/-- The list that `loc_eng_report_sv` is in is alive. -/
theorem CopiesInv.readSv (hi : CopiesInv L s) (h : 0 < svsLeft L s) : ReadsLive s .readSv := by
  unfold svsLeft at h
  split at h
  next p todo ht =>
    have hlt : s.svNext < L.svsRead p := by
      split at h
      · omega
      · omega
    have hmem : p.rest ∈ inThread L s.svNext s.eng.thread := by
      rw [ht]
      exact List.mem_append_left _ (mem_unread.mpr ⟨p, rfl, hlt, rfl⟩)
    intro x hx
    simp only [handlesRead, ht] at hx
    exact hi.engine p.rest (List.mem_append_left _ hmem) x hx
  · omega

/-- What lies in the slot of a call that has its reply is alive. -/
theorem CopiesInv.received (hi : CopiesInv L s) {i : SlotId} {c : Call}
    (hc : s.sync.calls i = some c) (hl : c.phase.live = true)
    (hd : (s.sync.slots i).delivered = true) :
    ∀ x ∈ receivedHandles (s.sync.slots i), x ∈ s.live := by
  intro x hx
  unfold receivedHandles at hx
  cases hr : (s.sync.slots i).received with
  | none =>
    rw [hr] at hx
    cases hx
  | some cb =>
    rw [hr] at hx
    exact hi.replies i cb.payload.body (mem_inReply.mpr ⟨⟨c, hc, hl⟩, hd, cb, hr, rfl⟩) x hx

/-- What a permitted step reads is alive. -/
theorem CopiesInv.readsLive (hi : CopiesInv L s) (hok : copiesRead L s a)
    (h : copyStep L s a = some s') : ReadsLive s a := by
  cases a with
  | readSv =>
    simp only [copyStep, Option.ite_none_right_eq_some] at h
    exact hi.readSv h.1
  | caller b =>
    simp only [copyStep, Option.ite_none_right_eq_some] at h
    obtain ⟨-, h⟩ := h
    obtain ⟨y, hy, -⟩ := Option.map_eq_some_iff.mp h
    cases b with
    | waitCallback i =>
      obtain ⟨c, hc, hst⟩ := Option.bind_eq_some_iff.mp hy
      simp only [callStep, Option.ite_none_right_eq_some] at hst
      intro x hx
      simp only [handlesRead, List.mem_ite_nil_right] at hx
      obtain ⟨harr, hx⟩ := hx
      exact hi.received hc (by rw [hst.1]; rfl) (by simp [Slot.delivered, harr]) x hx
    | wakeUp i =>
      obtain ⟨c, hc, hst⟩ := Option.bind_eq_some_iff.mp hy
      simp only [callStep, Option.ite_none_right_eq_some] at hst
      intro x hx
      simp only [handlesRead] at hx
      rcases hok with hsig | hnil
      · exact hi.received hc (by rw [hst.1]; rfl) (by simp [Slot.delivered, hsig]) x hx
      · rw [hnil] at hx
        cases hx
    | _ => simp [ReadsLive, handlesRead]
  | _ => simp [ReadsLive, handlesRead]

/-- **Copies outlive their reads.** In every run in which the dispatcher frees a payload only
when its copies have been read, and no wait ends without a signal over an old payload with
pointers, every block that `loc_eng_report_sv` reads or `loc_api_wait_callback` hands out is
allocated. -/
theorem copies_outlive_reads [Inhabited α] (L : Layout α) (cb : GpsCallbacks) (handle : Int)
    {as : List (CopyAct α)} {s s' : CopyState α} {a : CopyAct α}
    (h : exec (restrict (copiesRead L) (copyStep L)) (copyInit α cb handle) as = some s)
    (hok : copiesRead L s a) (hst : copyStep L s a = some s') : ReadsLive s a := by
  have hi : CopiesInv L s := exec_restrict_invariant
    (fun s a s' hok hst hi => hi.step hok hst) (CopiesInv.init L cb handle) h
  exact hi.readsLive hok hst

end Run

/-! ## The payload of the code -/

open LocApi Xdr

/-- `rpc_loc_event_payload_u_type`. -/
abbrev PayloadVal : Type := xdrRpcLocEventPayloadUType.Val

/-- The record is zero-initialised storage. -/
instance : Inhabited PayloadVal := ⟨xdrRpcLocEventPayloadUType.zero⟩

/-- The mask and the count of a satellite report. -/
def gnssInfo (g : xdrRpcLocGnssInfoSType.Val) : GnssInfo := ⟨g.1, g.2.2.2.2.2.1⟩

/-- The satellite report among the arms; the others are taken not to look like one. -/
def gnssReport (v : (d : BitVec 64) × (xdrRpcLocEventPayloadArm d).Val) : GnssInfo :=
  if h : v.1 = rpcLocEventSatelliteReport then
    gnssInfo (cast (congrArg (fun d => (xdrRpcLocEventPayloadArm d).Val) h) v.2)
  else ⟨0, 0⟩

def payloadLayout : Layout PayloadVal where
  allocs := xdrRpcLocEventPayloadUType.allocs
  gnss := gnssReport

/-- A report of one satellite. -/
def oneSatellite : EventPayload PayloadVal :=
  { (default : EventPayload PayloadVal) with
    rest := ⟨rpcLocEventSatelliteReport, (0x30#32, 0#32, 0#32, 0#32, 0#32, 1#16,
      some ⟨[xdrRpcLocSvInfoSType.zero], by decide⟩, ())⟩ }

/-- The callback from decoding to the return of `loc_event_cb`. -/
def reportCallback : List (CopyAct PayloadVal) :=
  [.getArgs 1 satelliteReport oneSatellite 0, .processSyncCall, .eventCb]

/-- The deferred thread up to `loc_eng_report_sv`. -/
def toReportSv : List (CopyAct PayloadVal) := [.engine .top, .engine (.micro 0 false)]

/-- The callback after the return of the handler. -/
def replyAndFree : List (CopyAct PayloadVal) := [.sendReply, .freeArgs]

/-- The rest of a pass, from `loc_eng_report_sv` on. -/
def restOfPass : List (CopyAct PayloadVal) :=
  [.engine (.micro 0 false), .engine (.micro 0 false), .engine (.micro 0 false),
    .engine (.micro 0 false), .engine .loop]

def patientRun : List (CopyAct PayloadVal) :=
  reportCallback ++ toReportSv ++ [CopyAct.readSv] ++ replyAndFree ++ restOfPass ++
    reportCallback ++ toReportSv

/-- Two reports whose lists are freed after they have been read. -/
theorem copies_outlive_reads_patient :
    ∃ s s', exec (restrict (copiesRead payloadLayout) (copyStep payloadLayout))
        (copyInit PayloadVal ⟨true, true⟩ 1) patientRun = some s ∧
      copyStep payloadLayout s .readSv = some s' ∧ handlesRead s .readSv ≠ [] ∧
      ReadsLive s .readSv := by
  have hrun : (exec (restrict (copiesRead payloadLayout) (copyStep payloadLayout))
      (copyInit PayloadVal ⟨true, true⟩ 1) patientRun).any (fun s =>
        (copyStep payloadLayout s .readSv).isSome ∧ handlesRead s .readSv ≠ []) = true := by
    decide +kernel
  obtain ⟨s, hs, h⟩ := (Option.any_eq_true _ _).mp hrun
  obtain ⟨hst, hread⟩ := of_decide_eq_true h
  obtain ⟨s', hst⟩ := Option.isSome_iff_exists.mp hst
  exact ⟨s, s', hs, hst, hread,
    copies_outlive_reads payloadLayout ⟨true, true⟩ 1 hs trivial hst⟩

/-- The dispatcher frees the list as soon as the handler has returned; the deferred thread, which
has only the pointer, reads it afterwards. -/
theorem satellite_list_freed_before_report :
    ∃ s s', exec (copyStep payloadLayout) (copyInit PayloadVal ⟨true, true⟩ 1)
        (reportCallback ++ replyAndFree ++ toReportSv) = some s ∧
      copyStep payloadLayout s .readSv = some s' ∧ ¬ ReadsLive s .readSv := by
  have hrun : (exec (copyStep payloadLayout) (copyInit PayloadVal ⟨true, true⟩ 1)
      (reportCallback ++ replyAndFree ++ toReportSv)).any (fun s =>
        (copyStep payloadLayout s .readSv).isSome ∧ ¬ ReadsLive s .readSv) = true := by
    decide +kernel
  obtain ⟨s, hs, h⟩ := (Option.any_eq_true _ _).mp hrun
  obtain ⟨hst, hread⟩ := of_decide_eq_true h
  obtain ⟨s', hst⟩ := Option.isSome_iff_exists.mp hst
  exact ⟨s, s', hs, hst, hread⟩

end Ancora.LocEng.Copies
