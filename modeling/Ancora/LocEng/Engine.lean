import Ancora.LocEng.Data

/-!
# The engine's functions (loc_eng.cpp)

Each function of loc_eng.cpp that reads or writes the shared record is a pure
function on `LocEngData`, under its own name. What the outside decides (the
result of an RPC, the handle the modem returns) is an argument.

The functions that run on the deferred thread are cut where another thread may
run in between: at the end of each mutex section and around each blocking call.
`Micro` names those pieces, `Micro.run` executes one, and `iteration` lists the
pieces of one pass through the loop of `loc_eng_deferred_action_thread`, in
order, as the values copied under the mutex select them.
-/

namespace Ancora.LocEng

variable {α : Type}

/-! ## Status reporting -/

/-- `loc_inform_gps_status` (loc_eng.cpp:815). -/
def locInformGpsStatus (status : GpsStatusValue) (d : LocEngData α) : LocEngData α :=
  let d :=
    if d.statusCb then
      let d := d.emit (.statusCb status)
      -- Restore session begin if needed
      if status = .engineOn ∧ d.lastStatus = .sessionBegin then
        d.emit (.statusCb .sessionBegin)
      else d
    else d
  { d with lastStatus := status }

/-- The assignments of `loc_eng_report_status` (loc_eng.cpp:1216): the engine and
session status after the event. -/
def updateStatus (r : StatusReport) (d : LocEngData α) : LocEngData α :=
  match r.event with
  | .engineState =>
    if r.engineState = .on then { d with engineStatus := .engineOn }
    -- engine off implies fix session end
    else { d with engineStatus := .engineOff, fixSessionStatus := .sessionEnd }
  | .fixSessionState =>
    -- fix session begin implies engine on; FIX_SESSION_STATE_END is ignored
    if r.fixSessionState = .begin then
      { d with engineStatus := .engineOn, fixSessionStatus := .sessionBegin }
    else d
  | .other => d

/-- "report changed status" (loc_eng.cpp:1245-1255), given the two fields as they
were when `loc_eng_report_status` was entered. -/
def reportIfChanged (engineStatus fixSessionStatus : GpsStatusValue) (d : LocEngData α) :
    LocEngData α :=
  -- FIX_SESSION_BEGIN implies ENGINE_ON
  let d :=
    if d.fixSessionStatus ≠ .sessionBegin ∧ engineStatus ≠ d.engineStatus then
      locInformGpsStatus d.engineStatus d
    else d
  -- ENGINE_OFF implies FIX_SESSION_END
  if d.engineStatus ≠ .engineOff ∧ fixSessionStatus ≠ d.fixSessionStatus then
    locInformGpsStatus d.fixSessionStatus d
  else d

/-- `loc_eng_report_status` up to the mute section (loc_eng.cpp:1210-1255). -/
def reportChangedStatus (r : StatusReport) (d : LocEngData α) : LocEngData α :=
  reportIfChanged d.engineStatus d.fixSessionStatus (updateStatus r d)

/-- The `mute_session_lock` section of `loc_eng_report_status` (loc_eng.cpp:1257). -/
def reportStatusMute (d : LocEngData α) : LocEngData α :=
  if d.engineStatus = .engineOn then
    if d.muteSessionState = .wait then { d with muteSessionState := .inSession } else d
  else if d.engineStatus = .engineOff then
    if d.muteSessionState = .inSession then { d with muteSessionState := .none } else d
  else d

/-- Raise deferred-action flags under `deferred_action_mutex`: hold the wake
lock, set the bit, signal. Every producer of a flag ends with these lines. -/
def raise (set : DeferredFlags → DeferredFlags) (d : LocEngData α) : LocEngData α :=
  { d with
    wakeLock := true
    deferredActionFlags := set d.deferredActionFlags
    deferredActionCond := d.deferredActionCond.signal }

/-- The `deferred_action_mutex` section of `loc_eng_report_status`
(loc_eng.cpp:1280). -/
def reportStatusWake (d : LocEngData α) : LocEngData α :=
  if d.engineStatus ≠ .engineOn ∧
      (d.aidingDataForDeletion ≠ 0 ∨ d.xtraDataForInjection ≠ none) then
    raise (fun f => { f with deleteAiding := true }) d
  else d

/-- `loc_eng_report_status` (loc_eng.cpp:1210). -/
def locEngReportStatus (r : StatusReport) (d : LocEngData α) : LocEngData α :=
  reportStatusWake (reportStatusMute (reportChangedStatus r d))

/-! ## Calls of the framework and of the RPC thread -/

/-- `loc_eng_start` (loc_eng.cpp:397); `rc` is the result of `loc_start_fix`. -/
def locEngStart (rc : Int) (d : LocEngData α) : LocEngData α :=
  if !d.locEngInited then d
  else
    let d := d.emit (.startFix rc)
    if rc ≠ rpcLocApiSuccess then d else { d with navigating := true }

/-- `loc_eng_stop` past the `deferred_stop_mutex` section (loc_eng.cpp:451). -/
def stopNow (rc : Int) (d : LocEngData α) : LocEngData α :=
  let d := d.emit (.stopFix rc)
  if rc ≠ rpcLocApiSuccess then d
  else
    let d :=
      if d.fixSessionStatus ≠ .sessionEnd then
        let d := { d with fixSessionStatus := .sessionEnd }
        -- ENGINE_OFF implies FIX_SESSION_END
        if d.engineStatus ≠ .engineOff then locInformGpsStatus d.fixSessionStatus d else d
      else d
    { d with navigating := false }

/-- The deferral in `loc_eng_stop` (loc_eng.cpp:444). -/
def deferStop (d : LocEngData α) : LocEngData α :=
  { d with stopRequestPending := true }.emit .stopDeferred

/-- `loc_eng_stop` (loc_eng.cpp:433), run without interruption. -/
def locEngStop (rc : Int) (d : LocEngData α) : LocEngData α :=
  if !d.locEngInited then d
  else if d.agpsRequestPending then deferStop d
  else stopNow rc d

/-- `loc_eng_deinit` (loc_eng.cpp:311). -/
def locEngDeinit (rc : Int) (d : LocEngData α) : LocEngData α :=
  if d.locEngInited then
    let d := if d.navigating then { locEngStop rc d with navigating := false } else d
    let d :=
      if d.clientOpened then { d.emit (.locClose d.clientHandle) with clientOpened := false }
      else d
    { d with locEngInited := false }
  else d

/-- The callbacks of `GpsCallbacks` that the engine tests against NULL. -/
structure GpsCallbacks where
  statusCb : Bool
  nmeaCb : Bool
  deriving DecidableEq, Repr

/-- `loc_eng_init` (loc_eng.cpp:212); `handle` is what `loc_open` returns and
`rc` the result of `loc_stop_fix`, should the active client have to be stopped.
Only the static `last_status` outlives the `memset`. -/
def locEngInit [Inhabited α] (cb : GpsCallbacks) (handle : Int) (rc : Int)
    (d : LocEngData α) : LocEngData α :=
  let d := if d.locEngInited then locEngDeinit rc d else d
  { LocEngData.boot α with
    statusCb := cb.statusCb
    nmeaCb := cb.nmeaCb
    clientHandle := handle
    clientOpened := decide (0 ≤ handle)
    locEngInited := true
    lastStatus := d.lastStatus
    wakeLock := d.wakeLock
    log := d.log ++ [.init] }

/-- `loc_event_cb` gets past its checks (loc_eng.cpp:936-948). -/
def acceptsEvent (clientHandle : Int) (locEvent : EventMask) (d : LocEngData α) : Bool :=
  locEvent != ioctlReport && d.locEngInited && clientHandle == d.clientHandle

/-- `loc_event_cb` (loc_eng.cpp:929). -/
def locEventCb (clientHandle : Int) (locEvent : EventMask) (payload : EventPayload α)
    (d : LocEngData α) : LocEngData α :=
  if acceptsEvent clientHandle locEvent d then
    (raise (fun f => { f with event := true })
      { d with locEvent := locEvent, locEventPayload := payload }).emit (.accept locEvent payload)
  else d

/-- `GPS_DELETE_ALL`. -/
def gpsDeleteAll : BitVec 16 := 0xFFFF

/-- `loc_eng_delete_aiding_data` (loc_eng.cpp:735). -/
def locEngDeleteAidingData (f : BitVec 16) (d : LocEngData α) : LocEngData α :=
  if !d.locEngInited then d
  else
    let d := if f ≠ 0 then { d with aidingDataForDeletion := gpsDeleteAll } else d
    if d.engineStatus ≠ .engineOn ∧ d.aidingDataForDeletion ≠ 0 then
      raise (fun f => { f with deleteAiding := true }) d
    else d

/-- `loc_eng_set_apn` (loc_eng.cpp:1713); `none` is a NULL name. The record holds
100 bytes with the terminator. -/
def locEngSetApn (apn : Option (List (BitVec 8))) (d : LocEngData α) : LocEngData α :=
  match apn with
  | some name => { d with dataConnectionIsOn := true, apnName := name.take 99 }
  | none => d

/-- The three results a data connection can report. -/
inductive ConnResult
  | opened (apn : Option (List (BitVec 8)))
  | closed
  | failed
  deriving DecidableEq, Repr

/-- The flag a result raises. -/
def ConnResult.setFlag : ConnResult → DeferredFlags → DeferredFlags
  | .opened _, f => { f with agpsDataSuccess := true }
  | .closed, f => { f with agpsDataClosed := true }
  | .failed, f => { f with agpsDataFailed := true }

/-- `loc_eng_data_conn_open`, `_closed`, `_failed` (loc_eng.cpp:1613, 1650, 1681). -/
def locEngDataConn (r : ConnResult) (d : LocEngData α) : LocEngData α :=
  if !d.locEngInited then d
  else
    let d :=
      match r with
      | .opened apn => locEngSetApn apn d
      | .closed => d
      | .failed => d
    raise r.setFlag d

/-- `loc_eng_mute_one_session` (loc_eng.cpp:489). -/
def locEngMuteOneSession (d : LocEngData α) : LocEngData α :=
  if !d.locEngInited then d else { d with muteSessionState := .wait }

/-- The buffering half of `qct_loc_eng_inject_xtra_data_proxy`
(loc_eng_xtra.cpp:263); `none` is a failed `malloc`. -/
def xtraStore (buf : Option (List (BitVec 8))) (d : LocEngData α) : LocEngData α :=
  match buf with
  | some data => { d with xtraDataForInjection := some data }
  | none => d

/-- The signalling half of `qct_loc_eng_inject_xtra_data_proxy`
(loc_eng_xtra.cpp:279): a signal without a flag. -/
def xtraSignal (d : LocEngData α) : LocEngData α :=
  if d.engineStatus ≠ .engineOn then
    { d with deferredActionCond := d.deferredActionCond.signal }
  else d

/-- The `DEFERRED_ACTION_QUIT` section of `loc_eng_cleanup` (loc_eng.cpp:361). -/
def raiseQuit (d : LocEngData α) : LocEngData α := raise (fun f => { f with quit := true }) d

/-! ## The deferred thread -/

/-- `loc_eng_process_conn_request` (loc_eng.cpp:1350). -/
def locEngProcessConnRequest (r : ServerRequest) (d : LocEngData α) : LocEngData α :=
  let d :=
    if r.event = .open then
      { d with
        agpsStatus := some .requestAgpsDataConn
        connHandle := r.openConnHandle
        agpsRequestPending := true }
    else
      { d with
        agpsStatus := some .releaseAgpsDataConn
        connHandle := r.closeConnHandle
        agpsRequestPending := false }
  raise (fun f => { f with agpsStatus := true }) d

/-- What the deferred thread copies before it releases the mutex. -/
structure Locals (α : Type) where
  locEvent : EventMask
  locEventPayload : EventPayload α
  flags : DeferredFlags
  engineStatus : GpsStatusValue
  aidingDataForDeletion : BitVec 16
  status : Option AGpsStatusValue
  deriving DecidableEq, Repr

/-- The copy of loc_eng.cpp:2165-2177, and the record it leaves behind. -/
def copyLocals (d : LocEngData α) : Locals α × LocEngData α :=
  ({ locEvent := d.locEvent
     locEventPayload := d.locEventPayload
     flags := d.deferredActionFlags
     engineStatus := d.engineStatus
     aidingDataForDeletion := d.aidingDataForDeletion
     status := d.agpsStatus },
   { d with locEvent := 0, deferredActionFlags := .zero, agpsStatus := none })

/-- A piece of the deferred thread's loop body that no other thread can split. -/
inductive Micro (α : Type)
  | processLocEvent (locEvent : EventMask) (payload : EventPayload α)
  | reportPosition (payload : EventPayload α)
  | reportSv (payload : EventPayload α)
  | reportChangedStatus (r : StatusReport)
  | reportStatusMute
  | reportStatusWake
  | reportNmea (payload : EventPayload α)
  | assistData (isRequest : Bool) (r : AssistDataRequest)
  | processConnRequest (r : ServerRequest)
  | niCallback (locEvent : EventMask) (payload : EventPayload α)
  | deleteAidingDataAction
  | clearAidingData
  | injectXtraDataInBuffer
  | ioctlDataStatus (flags : DeferredFlags)
  | setDataConnection (flags : DeferredFlags)
  | handleDeferredStop
  | processAtlAction (status : AGpsStatusValue)
  deriving DecidableEq, Repr

/-- The one piece that runs under `deferred_stop_mutex`. -/
def Micro.takesStopMutex : Micro α → Bool
  | .handleDeferredStop => true
  | _ => false

/-- `loc_eng_process_loc_event` (loc_eng.cpp:1391) as the pieces it runs. -/
def locEngProcessLocEvent (m : EventMask) (p : EventPayload α) : List (Micro α) :=
  [Micro.processLocEvent m p] ++
  (if m.has parsedPositionReport then [Micro.reportPosition p] else []) ++
  (if m.has satelliteReport then [Micro.reportSv p] else []) ++
  (if m.has eventStatusReport then
    [Micro.reportChangedStatus p.statusReport, .reportStatusMute, .reportStatusWake] else []) ++
  (if m.has nmea1HzReport then [Micro.reportNmea p] else []) ++
  [Micro.assistData (m.has assistanceDataRequest) p.assistDataRequest] ++
  (if m.has locationServerRequest then [Micro.processConnRequest p.locServerRequest] else []) ++
  [Micro.niCallback m p]

/-- One pass of `loc_eng_deferred_action_thread` after the mutex is released
(loc_eng.cpp:2182-2246). -/
def iteration (l : Locals α) : List (Micro α) :=
  (if l.locEvent ≠ 0 then locEngProcessLocEvent l.locEvent l.locEventPayload else []) ++
  -- the decision to delete is taken on the copies, not on the current status
  (if l.engineStatus ≠ .engineOn ∧ l.aidingDataForDeletion ≠ 0 then
    [Micro.deleteAidingDataAction, .clearAidingData] else []) ++
  [Micro.injectXtraDataInBuffer] ++
  (if l.flags.anyAgpsData then
    [Micro.ioctlDataStatus l.flags, .setDataConnection l.flags, .handleDeferredStop] else []) ++
  (match l.status with
    | some status => [Micro.processAtlAction status]
    | none => [])

/-- `loc_eng_delete_aiding_data_action` (loc_eng.cpp:1957). -/
def locEngDeleteAidingDataAction (d : LocEngData α) : LocEngData α :=
  let type :=
    if d.aidingDataForDeletion = gpsDeleteAll then .all else .mask d.aidingDataForDeletion
  { d with aidingDataForDeletion := 0 }.emit (.deleteAssistData type)

/-- The check of loc_eng.cpp:2194 and `loc_eng_inject_xtra_data_in_buffer`. -/
def locEngInjectXtraDataInBuffer (d : LocEngData α) : LocEngData α :=
  if d.engineStatus ≠ .engineOn then
    match d.xtraDataForInjection with
    | some data => { d with xtraDataForInjection := none }.emit (.injectXtra data)
    | none => d
  else d

/-- The ioctl that answers the modem (loc_eng.cpp:2201-2219). -/
def ioctlDataStatus (f : DeferredFlags) (d : LocEngData α) : LocEngData α :=
  if f.agpsDataSuccess then d.emit (.openStatus d.connHandle d.apnName true)
  else if f.agpsDataClosed then d.emit (.closeStatus d.connHandle true)
  else if f.agpsDataFailed then
    if d.dataConnectionIsOn then d.emit (.openStatus d.connHandle d.apnName false)
    else d.emit (.closeStatus d.connHandle false)
  else d

/-- `data_connection_is_on` after the ioctl (loc_eng.cpp:1553, 2220). -/
def setDataConnection (f : DeferredFlags) (d : LocEngData α) : LocEngData α :=
  if f.agpsDataSuccess then { d with dataConnectionIsOn := true }
  else if f.agpsDataClosed then d
  else if f.agpsDataFailed then { d with dataConnectionIsOn := false }
  else d

/-- The `deferred_stop_mutex` section of the thread (loc_eng.cpp:2226-2238);
`rc` is the result of `loc_stop_fix`. -/
def handleDeferredStop (rc : Int) (d : LocEngData α) : LocEngData α :=
  let d := { d with agpsRequestPending := false }.emit .agpsRequestDone
  if d.stopRequestPending then d.emit (.deferredStopFix rc) else d

/-- `loc_eng_process_atl_action` (loc_eng.cpp:2053). -/
def locEngProcessAtlAction (status : AGpsStatusValue) (d : LocEngData α) : LocEngData α :=
  if d.agpsStatusCb then d.emit (.agpsStatusCb status) else d

/-- The assistance-data and XTRA lines of `loc_eng_process_loc_event`
(loc_eng.cpp:1424-1447). The pending request is looked at on every event. -/
def assistData (isRequest : Bool) (r : AssistDataRequest) (d : LocEngData α) : LocEngData α :=
  let d :=
    if isRequest ∧ r = .predictedOrbitsReq then { d with xtraRequestPending := true } else d
  if d.xtraRequestPending ∧ d.downloadRequestCb then
    { d with xtraRequestPending := false }.emit .downloadRequestCb
  else d

/-- Run one piece. `rc` is what `loc_stop_fix` returns, should the piece call it;
`mute` says whether the NI handler calls `loc_eng_mute_one_session`. -/
def Micro.run (rc : Int) (mute : Bool) : Micro α → LocEngData α → LocEngData α
  | .processLocEvent m p, d => d.emit (.process m p)
  | .reportPosition p, d =>
    if d.muteSessionState ≠ .inSession then d.emit (.reportPosition p) else d
  | .reportSv p, d => if d.muteSessionState ≠ .inSession then d.emit (.reportSv p) else d
  | .reportChangedStatus r, d => LocEng.reportChangedStatus r d
  | .reportStatusMute, d => LocEng.reportStatusMute d
  | .reportStatusWake, d => LocEng.reportStatusWake d
  | .reportNmea p, d => if d.nmeaCb then d.emit (.reportNmea p) else d
  | .assistData isRequest r, d => LocEng.assistData isRequest r d
  | .processConnRequest r, d => locEngProcessConnRequest r d
  | .niCallback m p, d =>
    let d := d.emit (.niCallback m p)
    -- loc_eng_ni_callback compares the whole mask
    if mute ∧ m = niNotifyVerifyRequest then locEngMuteOneSession d else d
  | .deleteAidingDataAction, d => locEngDeleteAidingDataAction d
  | .clearAidingData, d => { d with aidingDataForDeletion := 0 }
  | .injectXtraDataInBuffer, d => locEngInjectXtraDataInBuffer d
  | .ioctlDataStatus f, d => LocEng.ioctlDataStatus f d
  | .setDataConnection f, d => LocEng.setDataConnection f d
  | .handleDeferredStop, d => LocEng.handleDeferredStop rc d
  | .processAtlAction status, d => locEngProcessAtlAction status d

/-! ## Footprints

What a function that reports status can change: the status fields, and the log
by status callbacks only. Every frame about such a function comes from here. -/

/-- A callback of `status_cb`. -/
def Effect.isStatusCb : Effect α → Bool
  | .statusCb _ => true
  | _ => false

/-- A status is told to the framework and kept as the last one. -/
theorem locInformGpsStatus_footprint (status : GpsStatusValue) (d : LocEngData α) :
    ∃ es : List (Effect α), (∀ e ∈ es, e.isStatusCb = true) ∧
      locInformGpsStatus status d = { d with lastStatus := status, log := d.log ++ es } := by
  by_cases hcb : d.statusCb = true
  · by_cases hr : status = .engineOn ∧ d.lastStatus = .sessionBegin
    · refine ⟨[.statusCb status, .statusCb .sessionBegin], by simp [Effect.isStatusCb], ?_⟩
      simp [locInformGpsStatus, hcb, hr, LocEngData.emit]
    · refine ⟨[.statusCb status], by simp [Effect.isStatusCb], ?_⟩
      simp [locInformGpsStatus, hcb, hr, LocEngData.emit]
  · refine ⟨[], by simp, ?_⟩
    simp [locInformGpsStatus, hcb]

@[simp] theorem locInformGpsStatus_engineStatus (status : GpsStatusValue) (d : LocEngData α) :
    (locInformGpsStatus status d).engineStatus = d.engineStatus := by
  obtain ⟨es, -, heq⟩ := locInformGpsStatus_footprint status d
  rw [heq]

@[simp] theorem locInformGpsStatus_fixSessionStatus (status : GpsStatusValue) (d : LocEngData α) :
    (locInformGpsStatus status d).fixSessionStatus = d.fixSessionStatus := by
  obtain ⟨es, -, heq⟩ := locInformGpsStatus_footprint status d
  rw [heq]

/-- With a callback registered and nothing to restore, one callback is made. -/
theorem locInformGpsStatus_log (status : GpsStatusValue) {d : LocEngData α}
    (hcb : d.statusCb = true) (h : status = .engineOn → d.lastStatus ≠ .sessionBegin) :
    (locInformGpsStatus status d).log = d.log ++ [.statusCb status] := by
  have hno : ¬ (status = .engineOn ∧ (d.emit (.statusCb status)).lastStatus = .sessionBegin) :=
    fun ⟨hon, hlast⟩ => h hon hlast
  simp only [locInformGpsStatus, hcb, if_true, if_neg hno]
  rfl

/-- A status report changes the two statuses. -/
theorem updateStatus_footprint (r : StatusReport) (d : LocEngData α) :
    ∃ engine fix, updateStatus r d = { d with engineStatus := engine, fixSessionStatus := fix } := by
  unfold updateStatus
  cases r.event with
  | engineState =>
    by_cases h : r.engineState = .on
    · exact ⟨_, _, if_pos h⟩
    · exact ⟨_, _, if_neg h⟩
  | fixSessionState =>
    by_cases h : r.fixSessionState = .begin
    · exact ⟨_, _, if_pos h⟩
    · exact ⟨_, _, if_neg h⟩
  | other => exact ⟨_, _, rfl⟩

/-- A conditional `loc_inform_gps_status` appends status callbacks. -/
theorem informIf_footprint (c : Prop) [Decidable c] (status : GpsStatusValue)
    (d : LocEngData α) :
    ∃ last es, (∀ e ∈ es, Effect.isStatusCb (α := α) e = true) ∧
      (if c then locInformGpsStatus status d else d) =
        { d with lastStatus := last, log := d.log ++ es } := by
  by_cases h : c
  · obtain ⟨es, hes, heq⟩ := locInformGpsStatus_footprint status d
    exact ⟨status, es, hes, by rw [if_pos h, heq]⟩
  · exact ⟨d.lastStatus, [], by simp, by rw [if_neg h, List.append_nil]⟩

/-- The statuses are changed and told. -/
theorem reportChangedStatus_footprint (r : StatusReport) (d : LocEngData α) :
    ∃ engine fix last es, (∀ e ∈ es, Effect.isStatusCb (α := α) e = true) ∧
      reportChangedStatus r d =
        { d with
          engineStatus := engine, fixSessionStatus := fix, lastStatus := last
          log := d.log ++ es } := by
  obtain ⟨engine, fix, hup⟩ := updateStatus_footprint r d
  obtain ⟨last₁, es₁, hes₁, heq₁⟩ := informIf_footprint
    (fix ≠ .sessionBegin ∧ d.engineStatus ≠ engine) engine
    { d with engineStatus := engine, fixSessionStatus := fix }
  obtain ⟨last₂, es₂, hes₂, heq₂⟩ := informIf_footprint
    (engine ≠ .engineOff ∧ d.fixSessionStatus ≠ fix) fix
    { d with
      engineStatus := engine, fixSessionStatus := fix, lastStatus := last₁, log := d.log ++ es₁ }
  refine ⟨engine, fix, last₂, es₁ ++ es₂, ?_, ?_⟩
  · intro e he
    rcases List.mem_append.mp he with he | he
    · exact hes₁ e he
    · exact hes₂ e he
  · unfold reportChangedStatus reportIfChanged
    rw [hup]
    simp only [heq₁, heq₂, List.append_assoc]

/-- A stop that is made at once ends the session and tells so. -/
theorem stopNow_footprint (rc : Int) (d : LocEngData α) :
    ∃ nav fix last es, (∀ e ∈ es, Effect.isStatusCb (α := α) e = true) ∧
      stopNow rc d =
        { d with
          navigating := nav, fixSessionStatus := fix, lastStatus := last
          log := d.log ++ .stopFix rc :: es } := by
  by_cases hrc : rc = rpcLocApiSuccess
  · subst hrc
    by_cases hfix : d.fixSessionStatus = .sessionEnd
    · refine ⟨false, .sessionEnd, d.lastStatus, [], by simp, ?_⟩
      simp [stopNow, hfix, LocEngData.emit]
    · by_cases hen : d.engineStatus = .engineOff
      · refine ⟨false, .sessionEnd, d.lastStatus, [], by simp, ?_⟩
        simp [stopNow, hfix, hen, LocEngData.emit]
      · obtain ⟨es, hes, heq⟩ := locInformGpsStatus_footprint .sessionEnd
          { d.emit (.stopFix rpcLocApiSuccess) with fixSessionStatus := .sessionEnd }
        refine ⟨false, .sessionEnd, .sessionEnd, es, hes, ?_⟩
        simp only [LocEngData.emit] at heq
        simp [stopNow, hfix, hen, LocEngData.emit, heq]
  · refine ⟨d.navigating, d.fixSessionStatus, d.lastStatus, [], by simp, ?_⟩
    simp [stopNow, hrc, LocEngData.emit]

end Ancora.LocEng
