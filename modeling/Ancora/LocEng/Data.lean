import Mathlib.Data.List.Basic
import Mathlib.Data.BitVec

/-!
# The location engine's data (loc_eng.h, loc_eng.cpp)

`loc_eng_data_s_type` is one global record that the framework thread, the RPC
callback thread and the deferred-action thread all read and write. It is one
structure here, `LocEngData`, together with the two pieces of engine state that
live outside it: the global `loc_eng_inited` and the function-static
`last_status` of `loc_inform_gps_status`.

- Callbacks that are only tested against NULL are Booleans (`statusCb`, ...);
  `acquire_wakelock_cb` / `release_wakelock_cb` set and clear `wakeLock`.
- `deferred_action_flags` is a record with one Boolean per `DEFERRED_ACTION_*`
  bit; `loc_event` stays a 64-bit mask because its bits are tested separately.
- The event payload is a C union whose arms are read by event *mask*, not by its
  discriminant, so `EventPayload` holds what reading each arm yields; the arms
  that are handed on untouched are the parameter `α`.
- `log` records, oldest first, what the engine did to the outside: callbacks,
  RPCs and ioctls, and the moments an event was stored or a stop deferred. No
  function reads it.
-/

namespace Ancora.LocEng

/-- `GpsStatusValue` of gps.h. -/
inductive GpsStatusValue
  | none
  | sessionBegin
  | sessionEnd
  | engineOn
  | engineOff
  deriving DecidableEq, Repr

/-- The two values of `AGpsStatusValue` the engine produces; the value 0 is
`none` of `Option AGpsStatusValue`. -/
inductive AGpsStatusValue
  | requestAgpsDataConn
  | releaseAgpsDataConn
  deriving DecidableEq, Repr

/-- `loc_mute_session_e_type`. -/
inductive MuteSession
  | none
  | wait
  | inSession
  deriving DecidableEq, Repr

/-- `rpc_loc_status_event_e_type`; the wire may carry any other number. -/
inductive StatusEvent
  | engineState
  | fixSessionState
  | other
  deriving DecidableEq, Repr

/-- `rpc_loc_engine_state_e_type`. -/
inductive EngineState
  | on
  | off
  | other
  deriving DecidableEq, Repr

/-- `rpc_loc_fix_session_state_e_type`. -/
inductive FixSessionState
  | begin
  | end
  | other
  deriving DecidableEq, Repr

/-- `rpc_loc_status_event_s_type`: the event and its two union arms. -/
structure StatusReport where
  event : StatusEvent
  engineState : EngineState
  fixSessionState : FixSessionState
  deriving DecidableEq, Repr

/-- `rpc_loc_server_request_e_type`. -/
inductive ServerRequestEvent
  | open
  | close
  | other
  deriving DecidableEq, Repr

/-- `rpc_loc_server_request_s_type`: the event and the connection handles of its
two union arms. -/
structure ServerRequest where
  event : ServerRequestEvent
  openConnHandle : BitVec 32
  closeConnHandle : BitVec 32
  deriving DecidableEq, Repr

/-- `rpc_loc_assist_data_request_e_type`. -/
inductive AssistDataRequest
  | timeReq
  | predictedOrbitsReq
  | other
  deriving DecidableEq, Repr

/-- `rpc_loc_event_payload_u_type`, arm by arm. -/
structure EventPayload (α : Type) where
  statusReport : StatusReport
  locServerRequest : ServerRequest
  assistDataRequest : AssistDataRequest
  rest : α
  deriving DecidableEq, Repr

/-- The payload after `memset(&loc_eng_data, 0, ...)`. -/
instance {α : Type} [Inhabited α] : Inhabited (EventPayload α) where
  default :=
    { statusReport := ⟨.other, .other, .other⟩
      locServerRequest := ⟨.other, 0, 0⟩
      assistDataRequest := .other
      rest := default }

/-- `rpc_loc_event_mask_type`. -/
abbrev EventMask := BitVec 64

/-! ## The event bits of loc_api_common.h -/

def parsedPositionReport : EventMask := 0x00000001
def satelliteReport : EventMask := 0x00000002
def nmea1HzReport : EventMask := 0x00000004
def niNotifyVerifyRequest : EventMask := 0x00000010
def assistanceDataRequest : EventMask := 0x00000020
def locationServerRequest : EventMask := 0x00000040
def ioctlReport : EventMask := 0x00000080
def eventStatusReport : EventMask := 0x00000100

/-- The C test `loc_event & bit`. -/
def EventMask.has (m bit : EventMask) : Bool := m &&& bit != 0

/-- `deferred_action_flags`, one Boolean per `DEFERRED_ACTION_*` bit. -/
structure DeferredFlags where
  event : Bool
  deleteAiding : Bool
  agpsStatus : Bool
  agpsDataSuccess : Bool
  agpsDataClosed : Bool
  agpsDataFailed : Bool
  quit : Bool
  deriving DecidableEq, Repr

/-- `deferred_action_flags = 0`. -/
def DeferredFlags.zero : DeferredFlags :=
  ⟨false, false, false, false, false, false, false⟩

/-- The test of line 2222: some data-connection result is among the flags. -/
def DeferredFlags.anyAgpsData (f : DeferredFlags) : Bool :=
  f.agpsDataSuccess || f.agpsDataClosed || f.agpsDataFailed

/-- `deferred_action_cond`: whether the deferred thread is blocked on it, and
whether a signal has reached it since. Signals without a waiter are lost. -/
inductive CondVar
  | idle
  | waiting
  | signalled
  deriving DecidableEq, Repr

/-- `pthread_cond_signal`. -/
def CondVar.signal : CondVar → CondVar
  | .idle => .idle
  | .waiting => .signalled
  | .signalled => .signalled

/-- The `type` field of the `DELETE_ASSIST_DATA` ioctl. -/
inductive AssistDataType
  | all
  | mask (m : BitVec 16)
  deriving DecidableEq, Repr

/-- What the engine does to the outside, as it happens. -/
inductive Effect (α : Type)
  /-- `loc_eng_init` wiped the record and installed new callbacks. -/
  | init
  /-- `loc_event_cb` accepted an event and stored it. -/
  | accept (locEvent : EventMask) (payload : EventPayload α)
  /-- The deferred thread called `loc_eng_process_loc_event`. -/
  | process (locEvent : EventMask) (payload : EventPayload α)
  | statusCb (status : GpsStatusValue)
  | agpsStatusCb (status : AGpsStatusValue)
  | reportPosition (payload : EventPayload α)
  | reportSv (payload : EventPayload α)
  | reportNmea (payload : EventPayload α)
  | downloadRequestCb
  | niCallback (locEvent : EventMask) (payload : EventPayload α)
  /-- `loc_start_fix` returned `rc`. -/
  | startFix (rc : Int)
  /-- `loc_stop_fix` of `loc_eng_stop` returned `rc`. -/
  | stopFix (rc : Int)
  /-- `loc_stop_fix` of the deferred thread returned `rc`. -/
  | deferredStopFix (rc : Int)
  /-- `loc_eng_stop` left the stop to the deferred thread. -/
  | stopDeferred
  /-- The deferred thread ended the AGPS request (line 2229). -/
  | agpsRequestDone
  | openStatus (connHandle : BitVec 32) (apn : List (BitVec 8)) (isSucc : Bool)
  | closeStatus (connHandle : BitVec 32) (isSucc : Bool)
  | deleteAssistData (type : AssistDataType)
  | injectXtra (data : List (BitVec 8))
  | locClose (handle : Int)
  deriving DecidableEq, Repr

/-- `loc_eng_data` with `loc_eng_inited` and the static `last_status`. -/
structure LocEngData (α : Type) where
  clientHandle : Int
  clientOpened : Bool
  statusCb : Bool
  agpsStatusCb : Bool
  nmeaCb : Bool
  agpsStatus : Option AGpsStatusValue
  agpsRequestPending : Bool
  stopRequestPending : Bool
  downloadRequestCb : Bool
  xtraRequestPending : Bool
  xtraDataForInjection : Option (List (BitVec 8))
  locEvent : EventMask
  locEventPayload : EventPayload α
  navigating : Bool
  dataConnectionIsOn : Bool
  apnName : List (BitVec 8)
  connHandle : BitVec 32
  engineStatus : GpsStatusValue
  fixSessionStatus : GpsStatusValue
  aidingDataForDeletion : BitVec 16
  deferredActionFlags : DeferredFlags
  deferredActionCond : CondVar
  muteSessionState : MuteSession
  locEngInited : Bool
  lastStatus : GpsStatusValue
  wakeLock : Bool
  log : List (Effect α)
  deriving DecidableEq, Repr

/-- The globals before the first `loc_eng_init`: zero-initialised storage. -/
def LocEngData.boot (α : Type) [Inhabited α] : LocEngData α where
  clientHandle := 0
  clientOpened := false
  statusCb := false
  agpsStatusCb := false
  nmeaCb := false
  agpsStatus := none
  agpsRequestPending := false
  stopRequestPending := false
  downloadRequestCb := false
  xtraRequestPending := false
  xtraDataForInjection := none
  locEvent := 0
  locEventPayload := default
  navigating := false
  dataConnectionIsOn := false
  apnName := []
  connHandle := 0
  engineStatus := .none
  fixSessionStatus := .none
  aidingDataForDeletion := 0
  deferredActionFlags := .zero
  deferredActionCond := .idle
  muteSessionState := .none
  locEngInited := false
  lastStatus := .none
  wakeLock := false
  log := []

variable {α : Type}

/-- Append to the record of what the engine did. -/
def LocEngData.emit (d : LocEngData α) (e : Effect α) : LocEngData α := { d with log := d.log ++ [e] }

/-- `RPC_LOC_API_SUCCESS`. -/
def rpcLocApiSuccess : Int := 0

end Ancora.LocEng
