import Ancora.LocApi.EventRoutines

/-!
# What the handlers of a callback read (loc_api_rpc_glue.c, loc_api_sync_call.c, loc_eng.cpp)

A callback carries its kind several times: in the event mask, in the discriminant
of the payload, and for some events in a field `event` and the discriminant of an
inner union. Decoding goes by the discriminants, the handlers go by the mask and
the fields. Here each handler is followed for what it reads: an entry of
`loc_glue_callback_table`, the payload behind the pointer, a member of a union. A
read that is not there to be made is a `Fault`; what the handlers do with what they
read is in the other modules of LocEng and LocApi.

- `member`: a member of a union, there only under the discriminant that selects it.
- `rpcLocEventCbFTypeSvc`: the dispatch of decoded arguments, up to
  `loc_eng_process_loc_event` on the deferred thread.
- `Consistent`: the copies agree as far as the handlers look at them.
- **`handled_within_type_iff`**: no fault exactly for consistent arguments.
-/

namespace Ancora.LocEng.Incoming

open Xdr LocApi

/-- A read of something that is not there. -/
inductive Fault
  | tableIndex
  | absentPayload
  | wrongMember
  deriving DecidableEq, Repr

/-- A union in memory, with the discriminant it was decoded by. -/
abbrev Union {w : Nat} (arm : BitVec w → Ty) : Type := (d : BitVec w) × (arm d).Val

/-- `rpc_loc_event_payload_u_type` -/
abbrev Payload : Type := Union xdrRpcLocEventPayloadArm

/-- `rpc_loc_event_cb_f_type_args` -/
structure EventArgs where
  cbId : BitVec 32
  locHandle : BitVec 32
  locEvent : BitVec 64
  locEventPayload : Option Payload

/-- The members of the decoded structure. -/
def eventArgs (v : xdrRpcLocEventCbFTypeArgs.Val) : EventArgs := ⟨v.1, v.2.1, v.2.2.1, v.2.2.2.1⟩

/-- The two copies of the kind in a structure of a field `event` and a union `payload`. -/
structure Tagged where
  event : BitVec 32
  /-- The discriminant of `payload`. -/
  disc : BitVec 32

def tagged {arm : BitVec 32 → Ty} (v : (Ty.struct [.enum, .union .enum arm]).Val) : Tagged :=
  ⟨v.1, v.2.1.1⟩

/-- `ioctl_report.type` -/
def ioctlType (v : xdrRpcLocIoctlCallbackSType.Val) : BitVec 32 := v.1

/-- `*loc_event_payload` -/
def deref (ptr : Option Payload) : Except Fault Payload :=
  match ptr with
  | none => .error .absentPayload
  | some p => .ok p

/-- The member of the union that `k` selects. -/
def member {w : Nat} {arm : BitVec w → Ty} (k : BitVec w) (u : Union arm) :
    Except Fault (arm k).Val :=
  if h : u.1 = k then .ok (cast (congrArg (fun d => (arm d).Val) h) u.2)
  else .error .wrongMember

/-- Something of the member is read. -/
def look {w : Nat} {arm : BitVec w → Ty} (k : BitVec w) (u : Union arm) : Except Fault Unit := do
  let _ ← member k u
  pure ()

/-- Something of the member of `payload` that `k` selects is read. -/
def Tagged.look (t : Tagged) (k : BitVec 32) : Except Fault Unit :=
  if t.disc = k then .ok () else .error .wrongMember

/-- `if (c) x;` -/
def onlyIf (c : Prop) [Decidable c] (x : Except Fault Unit) : Except Fault Unit :=
  if c then x else .ok ()

/-- A slot of `loc_sync_data` as the walk over the slots finds it. -/
structure SyncSlot where
  inUse : Bool
  locHandle : BitVec 32
  waitEventMask : BitVec 64
  ioctlType : BitVec 32
  hasArrived : Bool

/-- What the handlers look at besides the arguments, each part as it is when it is
looked at. -/
structure Receiver where
  /-- `cb_func` of an entry of `loc_glue_callback_table` is not NULL. -/
  registered : Fin 16 → Bool
  /-- `loc_sync_data.in_use` and its slots. -/
  syncInUse : Bool
  slots : List SyncSlot
  /-- `loc_eng_inited` and `loc_eng_data.client_handle`. -/
  inited : Bool
  clientHandle : BitVec 32
  /-- `DEBUG_LEVEL >= 4` -/
  logsDebug : Bool
  /-- `mute_session_state == LOC_MUTE_SESS_IN_SESSION` -/
  muted : Bool
  /-- `nmea_cb != NULL` -/
  nmeaCb : Bool
  notifInProgress : Bool

/-! ## The synchronous calls -/

/-- `loc_match_callback` (loc_api_sync_call.c:110–126). -/
def locMatchCallback (waitMask : BitVec 64) (waitIoctl : BitVec 32) (eventMask : BitVec 64)
    (ptr : Option Payload) : Except Fault Bool :=
  if eventMask &&& waitMask = 0 then .ok false
  else if eventMask ≠ rpcLocEventIoctlReport ∨ waitIoctl = 0 then .ok true
  else do
    let p ← deref ptr
    let report : xdrRpcLocIoctlCallbackSType.Val ← member rpcLocEventIoctlReport p
    pure (ioctlType report == waitIoctl)

/-- The loop of `loc_api_callback_process_sync_call` (loc_api_sync_call.c:163–190), up to
the slot that consumes the callback. -/
def walkSlots (a : EventArgs) : List SyncSlot → Except Fault Unit
  | [] => .ok ()
  | slot :: rest =>
    if slot.inUse = true ∧ slot.locHandle = a.locHandle then do
      let matched ←
        locMatchCallback slot.waitEventMask slot.ioctlType a.locEvent a.locEventPayload
      if matched = true ∧ slot.hasArrived = false then
        -- the payload is copied into the slot
        let _ ← deref a.locEventPayload
        pure ()
      else walkSlots a rest
    else walkSlots a rest

/-- `loc_api_callback_process_sync_call` (loc_api_sync_call.c:145–197). -/
def locApiCallbackProcessSyncCall (s : Receiver) (a : EventArgs) : Except Fault Unit :=
  if s.syncInUse then walkSlots a s.slots else .ok ()

/-! ## The handlers of the events -/

/-- `status_report` -/
def statusReport (p : Payload) : Except Fault Tagged := do
  let v : xdrRpcLocStatusEventSType.Val ← member rpcLocEventStatusReport p
  pure (tagged v)

/-- `loc_server_request` -/
def locServerRequest (p : Payload) : Except Fault Tagged := do
  let v : xdrRpcLocServerRequestSType.Val ← member rpcLocEventLocationServerRequest p
  pure (tagged v)

/-- `ni_request` -/
def niRequest (p : Payload) : Except Fault Tagged := do
  let v : xdrRpcLocNiEventSType.Val ← member rpcLocEventNiNotifyVerifyRequest p
  pure (tagged v)

/-- `log_status_report` (loc_eng_log.cpp:281–298): the inner members are read for the
message only. -/
def logStatusReport (s : Receiver) (status : Tagged) :
    Except Fault Unit :=
  if s.logsDebug = false then .ok ()
  else if status.event = rpcLocStatusEventEngineState then
    status.look rpcLocStatusEventEngineState
  else if status.event = rpcLocStatusEventFixSessionState then
    status.look rpcLocStatusEventFixSessionState
  else .ok ()

/-- `loc_eng_callback_log` (loc_eng_log.cpp:411–435). -/
def locEngCallbackLog (s : Receiver) (locEvent : BitVec 64) (ptr : Option Payload) :
    Except Fault Unit :=
  if locEvent = rpcLocEventSatelliteReport then do
    let p ← deref ptr
    look rpcLocEventSatelliteReport p
  else if locEvent = rpcLocEventStatusReport then do
    let p ← deref ptr
    let status ← statusReport p
    logStatusReport s status
  else if locEvent = rpcLocEventParsedPositionReport then do
    let p ← deref ptr
    look rpcLocEventParsedPositionReport p
  else .ok ()

/-- `loc_eng_report_status` (loc_eng.cpp:1210–1294). -/
def locEngReportStatus (status : Tagged) : Except Fault Unit :=
  if status.event = rpcLocStatusEventEngineState then
    status.look rpcLocStatusEventEngineState
  else if status.event = rpcLocStatusEventFixSessionState then
    status.look rpcLocStatusEventFixSessionState
  else .ok ()

/-- `loc_eng_process_conn_request` (loc_eng.cpp:1350–1374). -/
def locEngProcessConnRequest (request : Tagged) : Except Fault Unit :=
  if request.event = rpcLocServerRequestOpen then
    request.look rpcLocServerRequestOpen
  else request.look rpcLocServerRequestClose

/-- `loc_ni_request_handler` (loc_eng_ni.cpp:300–543). -/
def locNiRequestHandler (s : Receiver) (request : Tagged) :
    Except Fault Unit :=
  if s.notifInProgress then .ok ()
  else if request.event = rpcLocNiEventVxNotifyVerifyReq then
    request.look rpcLocNiEventVxNotifyVerifyReq
  else if request.event = rpcLocNiEventUmtsCpNotifyVerifyReq then
    request.look rpcLocNiEventUmtsCpNotifyVerifyReq
  else if request.event = rpcLocNiEventSuplNotifyVerifyReq then
    request.look rpcLocNiEventSuplNotifyVerifyReq
  else .ok ()

/-- `loc_eng_ni_callback` (loc_eng_ni.cpp:602–634). -/
def locEngNiCallback (s : Receiver) (locEvent : BitVec 64) (p : Payload) : Except Fault Unit :=
  if locEvent = rpcLocEventNiNotifyVerifyRequest then do
    let request ← niRequest p
    if request.event = rpcLocNiEventVxNotifyVerifyReq ∨
        request.event = rpcLocNiEventUmtsCpNotifyVerifyReq ∨
        request.event = rpcLocNiEventSuplNotifyVerifyReq then
      locNiRequestHandler s request
    else pure ()
  else .ok ()

/-- `loc_eng_process_loc_event` (loc_eng.cpp:1391–1463), on the copy of the payload. -/
def locEngProcessLocEvent (s : Receiver) (locEvent : BitVec 64) (p : Payload) :
    Except Fault Unit := do
  onlyIf (locEvent &&& rpcLocEventParsedPositionReport ≠ 0 ∧ s.muted = false)
    (look rpcLocEventParsedPositionReport p)
  onlyIf (locEvent &&& rpcLocEventSatelliteReport ≠ 0 ∧ s.muted = false)
    (look rpcLocEventSatelliteReport p)
  onlyIf (locEvent &&& rpcLocEventStatusReport ≠ 0) do
    let status ← statusReport p
    locEngReportStatus status
  -- `nmea_report` is the member of `RPC_LOC_EVENT_NMEA_POSITION_REPORT`
  onlyIf (locEvent &&& rpcLocEventNmea1hzReport ≠ 0 ∧ s.nmeaCb = true)
    (look rpcLocEventNmeaPositionReport p)
  onlyIf (locEvent &&& rpcLocEventAssistanceDataRequest ≠ 0)
    (look rpcLocEventAssistanceDataRequest p)
  onlyIf (locEvent &&& rpcLocEventLocationServerRequest ≠ 0) do
    let request ← locServerRequest p
    locEngProcessConnRequest request
  locEngNiCallback s locEvent p

/-- `loc_event_cb` (loc_eng.cpp:929–963), and `loc_eng_process_loc_event` on what it
leaves to the deferred thread. -/
def locEventCb (s : Receiver) (a : EventArgs) : Except Fault Unit :=
  if a.locEvent = rpcLocEventIoctlReport then .ok ()
  else if s.inited = false then .ok ()
  else if a.locHandle ≠ s.clientHandle then .ok ()
  else do
    locEngCallbackLog s a.locEvent a.locEventPayload
    let p ← deref a.locEventPayload
    locEngProcessLocEvent s a.locEvent p

/-- `rpc_loc_event_cb_f_type_svc` (loc_api_rpc_glue.c:97–139). -/
def rpcLocEventCbFTypeSvc (s : Receiver) (a : EventArgs) : Except Fault Unit :=
  let index := (a.cbId &&& 0xFFFF).toNat
  -- `LOC_API_CB_MAX_CLIENTS` passes the check, and the table has so many entries
  if index > 16 then .ok ()
  else if h : index < 16 then
    if s.registered ⟨index, h⟩ then do
      locApiCallbackProcessSyncCall s a
      locEventCb s a
    else .ok ()
  else .error .tableIndex

/-! ## When the copies agree -/

/-- The type of the report is compared with the one the slot waits for. -/
def ComparesType (a : EventArgs) (slot : SyncSlot) : Prop :=
  a.locEvent = rpcLocEventIoctlReport ∧ slot.ioctlType ≠ 0

instance (a : EventArgs) (slot : SyncSlot) : Decidable (ComparesType a slot) :=
  inferInstanceAs (Decidable (_ ∧ _))

/-- The slot waits for such an event, and either compares its type or takes it. -/
def Concerned (a : EventArgs) (slot : SyncSlot) : Prop :=
  slot.inUse = true ∧ slot.locHandle = a.locHandle ∧ a.locEvent &&& slot.waitEventMask ≠ 0 ∧
    (ComparesType a slot ∨ slot.hasArrived = false)

instance (a : EventArgs) (slot : SyncSlot) : Decidable (Concerned a slot) :=
  inferInstanceAs (Decidable (_ ∧ _ ∧ _ ∧ (_ ∨ _)))

/-- The payload is what the handlers of the event take it to be. -/
structure EventConsistent (s : Receiver) (locEvent : BitVec 64) (p : Payload) : Prop where
  position : (locEvent = rpcLocEventParsedPositionReport ∨
    locEvent &&& rpcLocEventParsedPositionReport ≠ 0 ∧ s.muted = false) →
    p.1 = rpcLocEventParsedPositionReport
  satellite : (locEvent = rpcLocEventSatelliteReport ∨
    locEvent &&& rpcLocEventSatelliteReport ≠ 0 ∧ s.muted = false) →
    p.1 = rpcLocEventSatelliteReport
  status : locEvent &&& rpcLocEventStatusReport ≠ 0 →
    ∃ status, statusReport p = .ok status ∧
      ((status.event = rpcLocStatusEventEngineState ∨
        status.event = rpcLocStatusEventFixSessionState) → status.disc = status.event)
  nmea : locEvent &&& rpcLocEventNmea1hzReport ≠ 0 ∧ s.nmeaCb = true →
    p.1 = rpcLocEventNmeaPositionReport
  assistance : locEvent &&& rpcLocEventAssistanceDataRequest ≠ 0 →
    p.1 = rpcLocEventAssistanceDataRequest
  server : locEvent &&& rpcLocEventLocationServerRequest ≠ 0 →
    ∃ request, locServerRequest p = .ok request ∧
      request.disc = if request.event = rpcLocServerRequestOpen then
        rpcLocServerRequestOpen else rpcLocServerRequestClose
  ni : locEvent = rpcLocEventNiNotifyVerifyRequest →
    ∃ request, niRequest p = .ok request ∧
      (s.notifInProgress = false → (request.event = rpcLocNiEventVxNotifyVerifyReq ∨
        request.event = rpcLocNiEventUmtsCpNotifyVerifyReq ∨
        request.event = rpcLocNiEventSuplNotifyVerifyReq) →
        request.disc = request.event)

/-- A callback function is registered under the id. -/
def Reaches (s : Receiver) (a : EventArgs) : Prop :=
  ∃ h : (a.cbId &&& 0xFFFF).toNat < 16, s.registered ⟨_, h⟩ = true

/-- The arguments are consistent as far as the handlers look at them. -/
structure Consistent (s : Receiver) (a : EventArgs) : Prop where
  index : (a.cbId &&& 0xFFFF).toNat ≠ 16
  sync : Reaches s a → s.syncInUse = true → ∀ slot,
    s.slots.find? (fun slot => Concerned a slot) = some slot →
    ∃ p, a.locEventPayload = some p ∧ (ComparesType a slot → p.1 = rpcLocEventIoctlReport)
  event : Reaches s a → a.locEvent ≠ rpcLocEventIoctlReport → s.inited = true →
    a.locHandle = s.clientHandle →
    ∃ p, a.locEventPayload = some p ∧ EventConsistent s a.locEvent p

/-! ## Reading one thing after the other -/

section Reading

variable {α β : Type} {w : Nat} {arm : BitVec w → Ty}

/-- A sequence is fine if both parts are. -/
theorem bind_eq_ok {x : Except Fault α} {f : α → Except Fault β} {b : β} :
    (x >>= f) = .ok b ↔ ∃ a, x = .ok a ∧ f a = .ok b := by
  cases x with
  | error e =>
    constructor
    · intro h
      cases h
    · rintro ⟨a, h, -⟩
      cases h
  | ok a =>
    constructor
    · exact fun h => ⟨a, rfl, h⟩
    · rintro ⟨a', h, hf⟩
      cases h
      exact hf

/-- The same where nothing is handed on. -/
theorem then_eq_ok {x y : Except Fault Unit} :
    (x >>= fun _ => y) = .ok () ↔ x = .ok () ∧ y = .ok () := by
  rw [bind_eq_ok]
  constructor
  · rintro ⟨⟨⟩, hx, hy⟩
    exact ⟨hx, hy⟩
  · exact fun h => ⟨(), h⟩

/-- What is left out is fine. -/
theorem onlyIf_eq_ok {c : Prop} [Decidable c] {x : Except Fault Unit} :
    onlyIf c x = .ok () ↔ (c → x = .ok ()) := by
  unfold onlyIf
  by_cases h : c <;> simp [h]

/-- A pointer can be followed unless it is NULL. -/
theorem deref_eq_ok {ptr : Option Payload} {p : Payload} : deref ptr = .ok p ↔ ptr = some p := by
  cases ptr <;> simp [deref]

theorem deref_some_bind {p : Payload} {f : Payload → Except Fault β} :
    (deref (some p) >>= f) = f p := rfl

/-- A member can be read if it is the one that was stored. -/
theorem member_eq_ok {k : BitVec w} {u : Union arm} {a : (arm k).Val} :
    member k u = .ok a ↔ u = ⟨k, a⟩ := by
  obtain ⟨d, x⟩ := u
  unfold member
  by_cases h : d = k
  · subst h
    simp
  · simp [h]

/-- A look at it needs the same. -/
theorem look_eq_ok {k : BitVec w} {u : Union arm} : look k u = .ok () ↔ u.1 = k := by
  unfold look
  rw [bind_eq_ok]
  constructor
  · rintro ⟨a, ha, -⟩
    rw [member_eq_ok.mp ha]
  · rintro rfl
    exact ⟨u.2, member_eq_ok.mpr rfl, rfl⟩

/-- For a tagged value this is its discriminant. -/
theorem Tagged.look_eq_ok {t : Tagged} {k : BitVec 32} : t.look k = .ok () ↔ t.disc = k := by
  unfold Tagged.look
  by_cases h : t.disc = k <;> simp [h]

end Reading

/-! ## The handlers -/

/-- A status report is read as the event that it is tagged with. -/
theorem locEngReportStatus_eq_ok {status : Tagged} :
    locEngReportStatus status = .ok () ↔
      ((status.event = rpcLocStatusEventEngineState ∨
        status.event = rpcLocStatusEventFixSessionState) → status.disc = status.event) := by
  unfold locEngReportStatus
  by_cases hengine : status.event = rpcLocStatusEventEngineState
  · rw [if_pos hengine, Tagged.look_eq_ok]
    simp [hengine]
  rw [if_neg hengine]
  by_cases hfix : status.event = rpcLocStatusEventFixSessionState
  · rw [if_pos hfix, Tagged.look_eq_ok]
    simp [hfix]
  · rw [if_neg hfix]
    exact ⟨fun _ h => (h.elim hengine hfix).elim, fun _ => rfl⟩

/-- Logging reads no more of a status report than reporting it does. -/
theorem logStatusReport_eq_ok {s : Receiver} {status : Tagged}
    (h : locEngReportStatus status = .ok ()) : logStatusReport s status = .ok () := by
  unfold logStatusReport
  by_cases hlog : s.logsDebug = false
  · rw [if_pos hlog]
  · rw [if_neg hlog]
    exact h

/-- A connection request that is no open is read as a close. -/
theorem locEngProcessConnRequest_eq_ok {request : Tagged} :
    locEngProcessConnRequest request = .ok () ↔
      request.disc = if request.event = rpcLocServerRequestOpen then
        rpcLocServerRequestOpen else rpcLocServerRequestClose := by
  unfold locEngProcessConnRequest
  by_cases h : request.event = rpcLocServerRequestOpen
  · rw [if_pos h, if_pos h, Tagged.look_eq_ok]
  · rw [if_neg h, if_neg h, Tagged.look_eq_ok]

/-- An NI request is read as its event says, when none is in progress. -/
theorem locNiRequestHandler_eq_ok {s : Receiver} {request : Tagged} :
    locNiRequestHandler s request = .ok () ↔
      (s.notifInProgress = false → (request.event = rpcLocNiEventVxNotifyVerifyReq ∨
        request.event = rpcLocNiEventUmtsCpNotifyVerifyReq ∨
        request.event = rpcLocNiEventSuplNotifyVerifyReq) →
        request.disc = request.event) := by
  unfold locNiRequestHandler
  by_cases hbusy : s.notifInProgress = true
  · simp [hbusy]
  rw [if_neg hbusy]
  rw [Bool.not_eq_true] at hbusy
  by_cases hvx : request.event = rpcLocNiEventVxNotifyVerifyReq
  · rw [if_pos hvx, Tagged.look_eq_ok]
    simp [hbusy, hvx]
  rw [if_neg hvx]
  by_cases humts : request.event = rpcLocNiEventUmtsCpNotifyVerifyReq
  · rw [if_pos humts, Tagged.look_eq_ok]
    simp [hbusy, humts]
  rw [if_neg humts]
  by_cases hsupl : request.event = rpcLocNiEventSuplNotifyVerifyReq
  · rw [if_pos hsupl, Tagged.look_eq_ok]
    simp [hbusy, hsupl]
  · rw [if_neg hsupl]
    exact ⟨fun _ _ h => (h.elim hvx (·.elim humts hsupl)).elim, fun _ => rfl⟩

/-- The NI callback reads its payload for its own event only. -/
theorem locEngNiCallback_eq_ok {s : Receiver} {locEvent : BitVec 64} {p : Payload} :
    locEngNiCallback s locEvent p = .ok () ↔ (locEvent = rpcLocEventNiNotifyVerifyRequest →
      ∃ request, niRequest p = .ok request ∧
        (s.notifInProgress = false → (request.event = rpcLocNiEventVxNotifyVerifyReq ∨
          request.event = rpcLocNiEventUmtsCpNotifyVerifyReq ∨
          request.event = rpcLocNiEventSuplNotifyVerifyReq) →
          request.disc = request.event)) := by
  unfold locEngNiCallback
  by_cases hni : locEvent = rpcLocEventNiNotifyVerifyRequest
  · rw [if_pos hni, bind_eq_ok]
    simp only [hni, forall_const]
    refine exists_congr fun request => and_congr_right fun _ => ?_
    by_cases hknown : request.event = rpcLocNiEventVxNotifyVerifyReq ∨
        request.event = rpcLocNiEventUmtsCpNotifyVerifyReq ∨
        request.event = rpcLocNiEventSuplNotifyVerifyReq
    · rw [if_pos hknown]
      exact locNiRequestHandler_eq_ok
    · rw [if_neg hknown]
      exact ⟨fun _ _ h => absurd h hknown, fun _ => rfl⟩
  · rw [if_neg hni]
    exact ⟨fun _ h => absurd h hni, fun _ => rfl⟩

/-- Logging reads what the event says, whatever the payload is. -/
theorem locEngCallbackLog_eq_ok {s : Receiver} {locEvent : BitVec 64} {p : Payload}
    (hstatus : locEvent &&& rpcLocEventStatusReport ≠ 0 →
      ∃ status, statusReport p = .ok status ∧
        locEngReportStatus status = .ok ()) :
    locEngCallbackLog s locEvent (some p) = .ok () ↔
      (locEvent = rpcLocEventParsedPositionReport → p.1 = rpcLocEventParsedPositionReport) ∧
      (locEvent = rpcLocEventSatelliteReport → p.1 = rpcLocEventSatelliteReport) := by
  unfold locEngCallbackLog
  by_cases hsat : locEvent = rpcLocEventSatelliteReport
  · have hpos : locEvent ≠ rpcLocEventParsedPositionReport := by
      rw [hsat]
      decide
    rw [if_pos hsat, deref_some_bind, look_eq_ok]
    exact ⟨fun h => ⟨fun h' => absurd h' hpos, fun _ => h⟩, fun h => h.2 hsat⟩
  rw [if_neg hsat]
  by_cases hst : locEvent = rpcLocEventStatusReport
  · have hpos : locEvent ≠ rpcLocEventParsedPositionReport := by
      rw [hst]
      decide
    obtain ⟨status, hread, hok⟩ := hstatus (by rw [hst]; decide)
    rw [if_pos hst, deref_some_bind, bind_eq_ok]
    exact ⟨fun _ => ⟨fun h => absurd h hpos, fun h => absurd h hsat⟩,
      fun _ => ⟨status, hread, logStatusReport_eq_ok hok⟩⟩
  rw [if_neg hst]
  by_cases hpos : locEvent = rpcLocEventParsedPositionReport
  · rw [if_pos hpos, deref_some_bind, look_eq_ok]
    exact ⟨fun h => ⟨fun _ => h, fun h' => absurd h' hsat⟩, fun h => h.1 hpos⟩
  · rw [if_neg hpos]
    exact ⟨fun _ => ⟨fun h => absurd h hpos, fun h => absurd h hsat⟩, fun _ => rfl⟩

/-- A status report that is read and reported without a fault. -/
theorem statusReport_eq_ok {p : Payload} :
    (do let status ← statusReport p; locEngReportStatus status) = .ok () ↔
      ∃ status, statusReport p = .ok status ∧
        ((status.event = rpcLocStatusEventEngineState ∨
          status.event = rpcLocStatusEventFixSessionState) → status.disc = status.event) := by
  rw [bind_eq_ok]
  exact exists_congr fun _ => and_congr_right fun _ => locEngReportStatus_eq_ok

/-- Logging and handling the event read what is there exactly if the payload is what
they take it to be. -/
theorem event_ok_iff {s : Receiver} {locEvent : BitVec 64} {p : Payload} :
    (locEngCallbackLog s locEvent (some p) = .ok () ∧
      locEngProcessLocEvent s locEvent p = .ok ()) ↔ EventConsistent s locEvent p := by
  unfold locEngProcessLocEvent
  simp only [then_eq_ok, onlyIf_eq_ok, look_eq_ok, statusReport_eq_ok, locEngNiCallback_eq_ok]
  constructor
  · rintro ⟨hlog, hpos, hsat, hstatus, hnmea, hassist, hserver, hni⟩
    have hst : locEvent &&& rpcLocEventStatusReport ≠ 0 → ∃ status,
        statusReport p = .ok status ∧ locEngReportStatus status = .ok () :=
      fun h => bind_eq_ok.mp (statusReport_eq_ok.mpr (hstatus h))
    obtain ⟨hlogPos, hlogSat⟩ := (locEngCallbackLog_eq_ok hst).mp hlog
    refine ⟨fun h => h.elim hlogPos hpos, fun h => h.elim hlogSat hsat, hstatus, hnmea, hassist,
      ?_, hni⟩
    intro h
    obtain ⟨request, hread, hok⟩ := bind_eq_ok.mp (hserver h)
    exact ⟨request, hread, locEngProcessConnRequest_eq_ok.mp hok⟩
  · intro h
    have hst : locEvent &&& rpcLocEventStatusReport ≠ 0 → ∃ status,
        statusReport p = .ok status ∧ locEngReportStatus status = .ok () :=
      fun hbit => bind_eq_ok.mp (statusReport_eq_ok.mpr (h.status hbit))
    refine ⟨(locEngCallbackLog_eq_ok hst).mpr ⟨fun h' => h.position (.inl h'),
      fun h' => h.satellite (.inl h')⟩, fun h' => h.position (.inr h'),
      fun h' => h.satellite (.inr h'), h.status, h.nmea, h.assistance, ?_, h.ni⟩
    intro hbit
    obtain ⟨request, hread, hok⟩ := h.server hbit
    exact bind_eq_ok.mpr ⟨request, hread, locEngProcessConnRequest_eq_ok.mpr hok⟩

/-! ## The walk over the slots -/

section Walk

variable {a : EventArgs} {slot : SyncSlot}

/-- An event that a slot does not wait for does not match. -/
theorem locMatchCallback_zero {waitMask : BitVec 64} (waitIoctl : BitVec 32)
    (h : a.locEvent &&& waitMask = 0) :
    locMatchCallback waitMask waitIoctl a.locEvent a.locEventPayload = .ok false := by
  rw [locMatchCallback, if_pos h]

/-- One that it waits for matches without a look at the payload. -/
theorem locMatchCallback_true {waitMask : BitVec 64} {waitIoctl : BitVec 32}
    (h : a.locEvent &&& waitMask ≠ 0)
    (h' : ¬ (a.locEvent = rpcLocEventIoctlReport ∧ waitIoctl ≠ 0)) :
    locMatchCallback waitMask waitIoctl a.locEvent a.locEventPayload = .ok true := by
  have hor : a.locEvent ≠ rpcLocEventIoctlReport ∨ waitIoctl = 0 := by
    by_cases he : a.locEvent = rpcLocEventIoctlReport
    · exact .inr (by_contra fun hne => h' ⟨he, hne⟩)
    · exact .inl he
  rw [locMatchCallback, if_neg h, if_pos hor]

/-- For an ioctl report the type of the ioctl is compared, which is in the payload. -/
theorem locMatchCallback_compares {waitMask : BitVec 64} {waitIoctl : BitVec 32}
    (h : a.locEvent &&& waitMask ≠ 0)
    (h' : a.locEvent = rpcLocEventIoctlReport ∧ waitIoctl ≠ 0) :
    locMatchCallback waitMask waitIoctl a.locEvent a.locEventPayload = (do
      let p ← deref a.locEventPayload
      let report : xdrRpcLocIoctlCallbackSType.Val ← member rpcLocEventIoctlReport p
      pure (ioctlType report == waitIoctl)) := by
  have hor : ¬ (a.locEvent ≠ rpcLocEventIoctlReport ∨ waitIoctl = 0) :=
    fun hor => hor.elim (· h'.1) h'.2
  rw [locMatchCallback, if_neg h, if_neg hor]

/-- With an ioctl report for a payload nothing can go wrong. -/
theorem locMatchCallback_of_report {report : xdrRpcLocIoctlCallbackSType.Val}
    (h : a.locEventPayload = some ⟨rpcLocEventIoctlReport, report⟩) (waitMask : BitVec 64)
    (waitIoctl : BitVec 32) :
    ∃ matched, locMatchCallback waitMask waitIoctl a.locEvent a.locEventPayload = .ok matched := by
  by_cases hmask : a.locEvent &&& waitMask = 0
  · exact ⟨_, locMatchCallback_zero waitIoctl hmask⟩
  by_cases hcmp : a.locEvent = rpcLocEventIoctlReport ∧ waitIoctl ≠ 0
  · refine ⟨ioctlType report == waitIoctl, ?_⟩
    rw [locMatchCallback_compares hmask hcmp, h]
    exact bind_eq_ok.mpr ⟨_, rfl, bind_eq_ok.mpr ⟨report, member_eq_ok.mpr rfl, rfl⟩⟩
  · exact ⟨_, locMatchCallback_true hmask hcmp⟩

/-- With an ioctl report the walk over the slots is fine. -/
theorem walkSlots_of_report {report : xdrRpcLocIoctlCallbackSType.Val}
    (h : a.locEventPayload = some ⟨rpcLocEventIoctlReport, report⟩) :
    ∀ slots, walkSlots a slots = .ok ()
  | [] => rfl
  | slot :: rest => by
    have ih := walkSlots_of_report h rest
    rw [walkSlots]
    by_cases hslot : slot.inUse = true ∧ slot.locHandle = a.locHandle
    · rw [if_pos hslot]
      obtain ⟨matched, hmatch⟩ := locMatchCallback_of_report h slot.waitEventMask slot.ioctlType
      refine bind_eq_ok.mpr ⟨matched, hmatch, ?_⟩
      by_cases htake : matched = true ∧ slot.hasArrived = false
      · rw [if_pos htake, h]
        rfl
      · rw [if_neg htake]
        exact ih
    · rw [if_neg hslot]
      exact ih

/-- A slot that is not concerned is passed by. -/
theorem walkSlots_pass (h : ¬ Concerned a slot) (rest : List SyncSlot) :
    walkSlots a (slot :: rest) = walkSlots a rest := by
  rw [walkSlots]
  by_cases hslot : slot.inUse = true ∧ slot.locHandle = a.locHandle
  · rw [if_pos hslot]
    by_cases hmask : a.locEvent &&& slot.waitEventMask = 0
    · rw [locMatchCallback_zero _ hmask]
      rfl
    · have hrest : ¬ (ComparesType a slot ∨ slot.hasArrived = false) :=
        fun hor => h ⟨hslot.1, hslot.2, hmask, hor⟩
      rw [not_or] at hrest
      rw [locMatchCallback_true hmask hrest.1]
      exact if_neg fun htake => hrest.2 htake.2
  · rw [if_neg hslot]

/-- The first slot that is concerned ends the walk. -/
theorem walkSlots_concerned (h : Concerned a slot) (rest : List SyncSlot) :
    walkSlots a (slot :: rest) = .ok () ↔
      ∃ p, a.locEventPayload = some p ∧ (ComparesType a slot → p.1 = rpcLocEventIoctlReport) := by
  obtain ⟨huse, hhandle, hmask, hwants⟩ := h
  by_cases hcmp : ComparesType a slot
  · constructor
    · intro hwalk
      rw [walkSlots, if_pos ⟨huse, hhandle⟩, locMatchCallback_compares hmask hcmp] at hwalk
      obtain ⟨matched, hmatch, -⟩ := bind_eq_ok.mp hwalk
      obtain ⟨p, hp, hread⟩ := bind_eq_ok.mp hmatch
      obtain ⟨report, hreport, -⟩ := bind_eq_ok.mp hread
      refine ⟨p, deref_eq_ok.mp hp, fun _ => ?_⟩
      rw [member_eq_ok.mp hreport]
    · rintro ⟨⟨d, report⟩, hp, hdisc⟩
      obtain rfl : d = rpcLocEventIoctlReport := hdisc hcmp
      exact walkSlots_of_report hp _
  · have harrived := hwants.resolve_left hcmp
    rw [walkSlots, if_pos ⟨huse, hhandle⟩, locMatchCallback_true hmask hcmp]
    -- the slot takes the callback
    have htake : (true = true ∧ slot.hasArrived = false) := ⟨rfl, harrived⟩
    rw [bind_eq_ok]
    constructor
    · rintro ⟨matched, hmatch, hrest⟩
      cases hmatch
      rw [if_pos htake] at hrest
      obtain ⟨p, hp, -⟩ := bind_eq_ok.mp hrest
      exact ⟨p, deref_eq_ok.mp hp, fun h => absurd h hcmp⟩
    · rintro ⟨p, hp, -⟩
      refine ⟨true, rfl, ?_⟩
      rw [if_pos htake]
      exact bind_eq_ok.mpr ⟨p, deref_eq_ok.mpr hp, rfl⟩

/-- The walk over the slots is fine if it is so at the first slot that is concerned. -/
theorem walkSlots_eq_ok : ∀ slots : List SyncSlot, walkSlots a slots = .ok () ↔
    ∀ slot, slots.find? (fun slot => Concerned a slot) = some slot →
      ∃ p, a.locEventPayload = some p ∧ (ComparesType a slot → p.1 = rpcLocEventIoctlReport)
  | [] => by simp [walkSlots]
  | slot :: rest => by
    by_cases h : Concerned a slot
    · rw [walkSlots_concerned h, List.find?_cons_of_pos (by simpa using h)]
      exact ⟨fun hp slot' heq => Option.some.inj heq ▸ hp, fun hall => hall slot rfl⟩
    · rw [walkSlots_pass h, List.find?_cons_of_neg (by simpa using h)]
      exact walkSlots_eq_ok rest

end Walk

/-! ## The dispatch -/

/-- The callback handles an event within its type exactly when it has the payload that the engine
reads. -/
theorem locEventCb_eq_ok {s : Receiver} {a : EventArgs} :
    locEventCb s a = .ok () ↔ (a.locEvent ≠ rpcLocEventIoctlReport → s.inited = true →
      a.locHandle = s.clientHandle →
      ∃ p, a.locEventPayload = some p ∧ EventConsistent s a.locEvent p) := by
  unfold locEventCb
  by_cases hioctl : a.locEvent = rpcLocEventIoctlReport
  · rw [if_pos hioctl]
    exact ⟨fun _ h => absurd hioctl h, fun _ => rfl⟩
  rw [if_neg hioctl]
  by_cases hinit : s.inited = false
  · rw [if_pos hinit]
    exact ⟨fun _ _ h => absurd h (by simp [hinit]), fun _ => rfl⟩
  rw [if_neg hinit]
  by_cases hhandle : a.locHandle ≠ s.clientHandle
  · rw [if_pos hhandle]
    exact ⟨fun _ _ _ h => absurd h hhandle, fun _ => rfl⟩
  rw [if_neg hhandle]
  rw [ne_eq, not_not] at hhandle
  rw [Bool.not_eq_false] at hinit
  rw [then_eq_ok, bind_eq_ok]
  constructor
  · rintro ⟨hlog, p, hp, hprocess⟩ - - -
    have hsome := deref_eq_ok.mp hp
    rw [hsome] at hlog
    exact ⟨p, hsome, event_ok_iff.mp ⟨hlog, hprocess⟩⟩
  · intro h
    obtain ⟨p, hp, hcons⟩ := h hioctl hinit hhandle
    obtain ⟨hlog, hprocess⟩ := event_ok_iff.mpr hcons
    rw [hp]
    exact ⟨hlog, p, rfl, hprocess⟩

/-- **A callback is handled within its type exactly if its copies agree**: for all
arguments that `xdr_rpc_loc_event_cb_f_type_args` can decode and every state of the
receiver, the dispatch reads nothing that is not there exactly for consistent ones. -/
theorem handled_within_type_iff (s : Receiver) (v : xdrRpcLocEventCbFTypeArgs.Val) :
    rpcLocEventCbFTypeSvc s (eventArgs v) = .ok () ↔ Consistent s (eventArgs v) := by
  generalize eventArgs v = a
  unfold rpcLocEventCbFTypeSvc
  by_cases hbeyond : (a.cbId &&& 0xFFFF).toNat > 16
  · have hnot : ¬ Reaches s a := fun ⟨h, _⟩ => by omega
    simp only [if_pos hbeyond, true_iff]
    exact ⟨by omega, fun h => absurd h hnot, fun h => absurd h hnot⟩
  simp only [if_neg hbeyond]
  by_cases hindex : (a.cbId &&& 0xFFFF).toNat < 16
  · simp only [dif_pos hindex]
    by_cases hreg : s.registered ⟨_, hindex⟩ = true
    · have hreach : Reaches s a := ⟨hindex, hreg⟩
      rw [if_pos hreg, then_eq_ok, locEventCb_eq_ok]
      constructor
      · rintro ⟨hsync, hevent⟩
        refine ⟨by omega, fun _ huse => ?_, fun _ => hevent⟩
        rw [locApiCallbackProcessSyncCall, if_pos huse] at hsync
        exact (walkSlots_eq_ok s.slots).mp hsync
      · intro h
        refine ⟨?_, h.event hreach⟩
        unfold locApiCallbackProcessSyncCall
        by_cases huse : s.syncInUse = true
        · rw [if_pos huse]
          exact (walkSlots_eq_ok s.slots).mpr (h.sync hreach huse)
        · rw [if_neg huse]
    · have hnot : ¬ Reaches s a := fun ⟨_, h⟩ => hreg h
      simp only [if_neg hreg, true_iff]
      exact ⟨by omega, fun h => absurd h hnot, fun h => absurd h hnot⟩
  · simp only [dif_neg hindex]
    constructor
    · intro h
      cases h
    · intro h
      exact absurd (show (a.cbId &&& 0xFFFF).toNat = 16 by omega) h.index

/-- The engine is initialised, all callbacks are registered and no call waits. -/
def running : Receiver where
  registered _ := true
  syncInUse := false
  slots := []
  inited := true
  clientHandle := 0
  logsDebug := false
  muted := false
  nmeaCb := true
  notifInProgress := false

theorem aligned_start : 4 ∣ 0 := Nat.dvd_zero 4

/-- A received message of at most seven words. -/
def message (words : List (BitVec 32)) (h : (words.flatMap htonl).length ≤ 28) : InMsg where
  msg := words.flatMap htonl
  next := 0
  aligned := aligned_start
  bounded := Nat.le_trans h (by decide)

/-- The id behind the last entry, a status report without a payload, and a position
report whose payload is that of another event. -/
theorem inconsistent_callbacks :
    (∃ v i, xdrRpcLocEventCbFTypeArgs.codec.decode.run
      (message [16, 0, 0, 0x100, 0] (by decide)) = .ok (v, i) ∧
      rpcLocEventCbFTypeSvc running (eventArgs v) = .error .tableIndex) ∧
    (∃ v i, xdrRpcLocEventCbFTypeArgs.codec.decode.run
      (message [0, 0, 0, 0x100, 0] (by decide)) = .ok (v, i) ∧
      rpcLocEventCbFTypeSvc running (eventArgs v) = .error .absentPayload) ∧
    (∃ v i, xdrRpcLocEventCbFTypeArgs.codec.decode.run
      (message [0, 0, 0, 0x1, 1, 0, 0x4] (by decide)) = .ok (v, i) ∧
      rpcLocEventCbFTypeSvc running (eventArgs v) = .error .wrongMember) :=
  ⟨⟨_, _, rfl, rfl⟩, ⟨_, _, rfl, rfl⟩, ⟨_, _, rfl, rfl⟩⟩

end Ancora.LocEng.Incoming
