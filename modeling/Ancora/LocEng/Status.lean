import Ancora.Lib.Machine
import Ancora.LocEng.Frame

/-!
# The framework's view of the GPS status

The framework learns the engine and session status only from `status_cb`, and
the engine suppresses callbacks that others imply: SESSION_BEGIN implies the
engine is on, ENGINE_OFF implies the session has ended. `statusView` is the
reading of the callbacks that these implications call for, restarted at each
`loc_eng_init`; the machine here runs whole init / cleanup cycles, with every
function of the engine that writes a status field or defers a stop handled
atomically.

- `StatusInv`: the view is the pair of status fields, a session implies that the
  engine is on, and an engine that is off has no session.
- **`status_view_exact`**: it holds after every run that registers a `status_cb`
  and never turns the engine on while `last_status` is SESSION_BEGIN.

The condition is about the static `last_status` of `loc_inform_gps_status`, which
no `loc_eng_init` resets: a session left open at cleanup is announced again to
the next lifecycle (`status_view_stale_session`).
-/

namespace Ancora.LocEng

open Machine

variable {α : Type}

/-- What the framework believes: whether the engine is on and whether a session
runs. -/
structure StatusView where
  engineOn : Bool
  inSession : Bool
  deriving DecidableEq, Repr

/-- One callback, or the start of a lifecycle, read by the framework. -/
def StatusView.next (v : StatusView) : Effect α → StatusView
  | .init => ⟨false, false⟩
  | .statusCb .engineOn => { v with engineOn := true }
  | .statusCb .engineOff => ⟨false, false⟩
  | .statusCb .sessionBegin => ⟨true, true⟩
  | .statusCb .sessionEnd => { v with inSession := false }
  | _ => v

/-- The framework's view after everything in the log. -/
def statusView (log : List (Effect α)) : StatusView := log.foldl StatusView.next ⟨false, false⟩

@[simp] theorem statusView_append (log es : List (Effect α)) :
    statusView (log ++ es) = es.foldl StatusView.next (statusView log) := List.foldl_append

/-- The view that the engine's own status fields stand for. -/
def engineView (d : LocEngData α) : StatusView :=
  ⟨decide (d.engineStatus = .engineOn), decide (d.fixSessionStatus = .sessionBegin)⟩

/-! ## The machine -/

/-- What can happen to the status of the engine. -/
inductive StatusAct
  | init (cb : GpsCallbacks) (handle : Int) (rc : Int)
  | cleanup (rc : Int)
  | report (r : StatusReport)
  | start (rc : Int)
  | stop (rc : Int)
  | serverRequest (r : ServerRequest)
  | connResult (r : ConnResult) (rc : Int)
  deriving DecidableEq, Repr

/-- A data-connection result from the call to the deferred stop. -/
def completeAgps (r : ConnResult) (rc : Int) (d : LocEngData α) : LocEngData α :=
  let f := r.setFlag .zero
  handleDeferredStop rc (setDataConnection f (ioctlDataStatus f d))

/-- One step, handled atomically; modem events reach the engine only while it is
initialised. -/
def statusStep [Inhabited α] (d : LocEngData α) : StatusAct → Option (LocEngData α)
  | .init cb handle rc => some (locEngInit cb handle rc d)
  | .cleanup rc => some (locEngDeinit rc d)
  | .report r => if d.locEngInited then some (locEngReportStatus r d) else none
  | .start rc => some (locEngStart rc d)
  | .stop rc => some (locEngStop rc d)
  | .serverRequest r => if d.locEngInited then some (locEngProcessConnRequest r d) else none
  | .connResult r rc =>
    if d.locEngInited then some (completeAgps r rc (locEngDataConn r d)) else none

/-- The condition on a step: every lifecycle has a `status_cb`, and a report
that turns the engine on finds `last_status` other than SESSION_BEGIN. -/
def noStaleSession (d : LocEngData α) : StatusAct → Prop
  | .init cb _ _ => cb.statusCb = true
  | .report r =>
    r.event = .engineState → r.engineState = .on → d.engineStatus ≠ .engineOn →
      d.lastStatus ≠ .sessionBegin
  | _ => True

instance (d : LocEngData α) : (a : StatusAct) → Decidable (noStaleSession d a)
  | .init _ _ _ => inferInstanceAs (Decidable (_ = _))
  | .report _ => inferInstanceAs (Decidable (_ → _))
  | .cleanup _ | .start _ | .stop _ | .serverRequest _ | .connResult _ _ => .isTrue trivial

/-! ## The invariant -/

/-- The view is exact, and the two status fields are consistent. -/
structure StatusInv (d : LocEngData α) : Prop where
  exact : statusView d.log = engineView d
  session_on : d.fixSessionStatus = .sessionBegin → d.engineStatus = .engineOn
  off_ended : d.engineStatus = .engineOff → d.fixSessionStatus = .sessionEnd

/-- Steps that change neither the status fields nor the view keep the invariant. -/
theorem StatusInv.congr {d d' : LocEngData α} (hi : StatusInv d)
    (hview : statusView d'.log = statusView d.log) (hen : d'.engineStatus = d.engineStatus)
    (hfix : d'.fixSessionStatus = d.fixSessionStatus) : StatusInv d' where
  exact := by
    rw [hview, hi.exact]
    unfold engineView
    rw [hen, hfix]
  session_on := by rw [hen, hfix]; exact hi.session_on
  off_ended := by rw [hen, hfix]; exact hi.off_ended

/-- Nothing changed, so nothing is reported. -/
theorem reportIfChanged_same (d : LocEngData α) :
    reportIfChanged d.engineStatus d.fixSessionStatus d = d := by
  simp [reportIfChanged]

/-- The engine went on outside a session: one ENGINE_ON callback. -/
theorem reportIfChanged_engineOn {engine : GpsStatusValue} {u : LocEngData α}
    (hcb : u.statusCb = true) (hen : u.engineStatus = .engineOn) (hne : engine ≠ .engineOn)
    (hfix : u.fixSessionStatus ≠ .sessionBegin) (hlast : u.lastStatus ≠ .sessionBegin) :
    (reportIfChanged engine u.fixSessionStatus u).log = u.log ++ [.statusCb .engineOn] := by
  simp [reportIfChanged, hen, hne, hfix, locInformGpsStatus_log _ hcb fun _ => hlast]

/-- The engine went off: one ENGINE_OFF callback, whatever the session was. -/
theorem reportIfChanged_engineOff (engine fix : GpsStatusValue) {u : LocEngData α}
    (hcb : u.statusCb = true) (hen : u.engineStatus = .engineOff) (hne : engine ≠ .engineOff)
    (hfix : u.fixSessionStatus = .sessionEnd) :
    (reportIfChanged engine fix u).log = u.log ++ [.statusCb .engineOff] := by
  have hlog := locInformGpsStatus_log .engineOff hcb (fun h => by cases h)
  simp [reportIfChanged, hen, hne, hfix, hlog]

/-- A session began: one SESSION_BEGIN callback, whatever the engine was. -/
theorem reportIfChanged_sessionBegin (engine fix : GpsStatusValue) {u : LocEngData α}
    (hcb : u.statusCb = true) (hen : u.engineStatus = .engineOn)
    (hfix : u.fixSessionStatus = .sessionBegin) (hne : fix ≠ .sessionBegin) :
    (reportIfChanged engine fix u).log = u.log ++ [.statusCb .sessionBegin] := by
  have hlog := locInformGpsStatus_log .sessionBegin hcb (fun h => by cases h)
  simp [reportIfChanged, hen, hne, hfix, hlog]

@[simp] theorem reportIfChanged_engineStatus (engine fix : GpsStatusValue) (d : LocEngData α) :
    (reportIfChanged engine fix d).engineStatus = d.engineStatus := by
  simp only [reportIfChanged]
  split <;> split <;> simp

@[simp] theorem reportIfChanged_fixSessionStatus (engine fix : GpsStatusValue)
    (d : LocEngData α) :
    (reportIfChanged engine fix d).fixSessionStatus = d.fixSessionStatus := by
  simp only [reportIfChanged]
  split <;> split <;> simp

/-- A report keeps the invariant: each branch informs of what the view lacks. -/
theorem StatusInv.reportChangedStatus {d : LocEngData α} (hi : StatusInv d)
    (hcb : d.statusCb = true) {r : StatusReport} (hok : noStaleSession d (.report r)) :
    StatusInv (reportChangedStatus r d) := by
  have hview := hi.exact
  unfold LocEng.reportChangedStatus
  cases hev : r.event with
  | other =>
    have hup : updateStatus r d = d := by simp [updateStatus, hev]
    rw [hup, reportIfChanged_same]
    exact hi
  | engineState =>
    by_cases hon : r.engineState = .on
    · have hup : updateStatus r d = { d with engineStatus := .engineOn } := by
        simp [updateStatus, hev, hon]
      rw [hup]
      by_cases hen : d.engineStatus = .engineOn
      · -- the engine was on already
        have hsame : { d with engineStatus := .engineOn } = d := by rw [← hen]
        rw [hsame, reportIfChanged_same]
        exact hi
      · have hfix : d.fixSessionStatus ≠ .sessionBegin := fun h => hen (hi.session_on h)
        have hlog := reportIfChanged_engineOn (u := { d with engineStatus := .engineOn }) hcb rfl
          hen hfix (hok hev hon hen)
        refine ⟨?_, fun _ => by simp, fun h => by simp at h⟩
        rw [hlog, statusView_append, hview]
        simp [engineView, StatusView.next, hfix]
    · have hup : updateStatus r d =
          { d with engineStatus := .engineOff, fixSessionStatus := .sessionEnd } := by
        simp [updateStatus, hev, hon]
      rw [hup]
      by_cases hen : d.engineStatus = .engineOff
      · -- the engine was off already, and its session over
        have hsame : { d with engineStatus := .engineOff, fixSessionStatus := .sessionEnd } = d := by
          rw [← hen, ← hi.off_ended hen]
        rw [hsame, reportIfChanged_same]
        exact hi
      · have hlog := reportIfChanged_engineOff d.engineStatus d.fixSessionStatus
          (u := { d with engineStatus := .engineOff, fixSessionStatus := .sessionEnd }) hcb rfl
          hen rfl
        refine ⟨?_, fun h => by simp at h, fun _ => by simp⟩
        rw [hlog, statusView_append]
        simp [engineView, StatusView.next]
  | fixSessionState =>
    by_cases hbegin : r.fixSessionState = .begin
    · have hup : updateStatus r d =
          { d with engineStatus := .engineOn, fixSessionStatus := .sessionBegin } := by
        simp [updateStatus, hev, hbegin]
      rw [hup]
      by_cases hfix : d.fixSessionStatus = .sessionBegin
      · -- a session was running already
        have hsame : { d with engineStatus := .engineOn, fixSessionStatus := .sessionBegin } = d := by
          rw [← hi.session_on hfix, ← hfix]
        rw [hsame, reportIfChanged_same]
        exact hi
      · have hlog := reportIfChanged_sessionBegin d.engineStatus d.fixSessionStatus
          (u := { d with engineStatus := .engineOn, fixSessionStatus := .sessionBegin }) hcb rfl
          rfl hfix
        refine ⟨?_, fun _ => by simp, fun h => by simp at h⟩
        rw [hlog, statusView_append]
        simp [engineView, StatusView.next]
    · have hup : updateStatus r d = d := by simp [updateStatus, hev, hbegin]
      rw [hup, reportIfChanged_same]
      exact hi

/-- A stop keeps the invariant. -/
theorem StatusInv.stopNow {d : LocEngData α} (hi : StatusInv d) (hcb : d.statusCb = true)
    (rc : Int) : StatusInv (stopNow rc d) := by
  have hrpc : StatusInv (d.emit (.stopFix rc)) :=
    hi.congr (by simp [LocEngData.emit, StatusView.next]) rfl rfl
  unfold LocEng.stopNow
  by_cases hrc : rc ≠ rpcLocApiSuccess
  · rw [if_pos hrc]
    exact hrpc
  · rw [if_neg hrc]
    by_cases hfix : (d.emit (.stopFix rc)).fixSessionStatus = .sessionEnd
    · rw [if_neg (by simpa using hfix)]
      exact hrpc.congr rfl rfl rfl
    · -- off_ended rules out an engine that is off with its session still open
      have hen : d.engineStatus ≠ .engineOff := fun h => hfix (hi.off_ended h)
      have hlog := locInformGpsStatus_log .sessionEnd
        (d := { d.emit (.stopFix rc) with fixSessionStatus := .sessionEnd }) hcb
        (fun h => by cases h)
      rw [if_pos hfix, if_pos (show ({ d.emit (.stopFix rc) with
        fixSessionStatus := .sessionEnd } : LocEngData α).engineStatus ≠ .engineOff from hen)]
      refine ⟨?_, fun h => by simp at h, fun h => by simp⟩
      show statusView (locInformGpsStatus .sessionEnd _).log = _
      rw [hlog, statusView_append, hrpc.exact]
      simp [engineView, StatusView.next]

theorem StatusInv.locEngStop {d : LocEngData α} (hi : StatusInv d)
    (hreg : d.locEngInited = true → d.statusCb = true) (rc : Int) :
    StatusInv (locEngStop rc d) := by
  unfold LocEng.locEngStop
  by_cases hin : d.locEngInited = true
  · rw [if_neg (by simp [hin])]
    by_cases hp : d.agpsRequestPending = true
    · rw [if_pos hp]
      exact hi.congr (by simp [deferStop, LocEngData.emit, StatusView.next]) rfl rfl
    · rw [if_neg hp]
      exact hi.stopNow (hreg hin) rc
  · rw [if_pos (by simpa using hin)]
    exact hi

/-- The fields of the status report that a stop leaves alone. -/
theorem locEngStop_inited (rc : Int) (d : LocEngData α) :
    (locEngStop rc d).locEngInited = d.locEngInited ∧
      (locEngStop rc d).statusCb = d.statusCb := by
  unfold LocEng.locEngStop
  split
  · exact ⟨rfl, rfl⟩
  · split
    · exact ⟨rfl, rfl⟩
    · obtain ⟨nav, fix, last, es, -, heq⟩ := stopNow_footprint rc d
      rw [heq]
      exact ⟨rfl, rfl⟩

theorem StatusInv.locEngDeinit {d : LocEngData α} (hi : StatusInv d)
    (hreg : d.locEngInited = true → d.statusCb = true) (rc : Int) :
    StatusInv (locEngDeinit rc d) := by
  unfold LocEng.locEngDeinit
  by_cases hin : d.locEngInited = true
  · rw [if_pos hin]
    have hstop : StatusInv
        (if d.navigating then { LocEng.locEngStop rc d with navigating := false } else d) := by
      by_cases hn : d.navigating = true
      · rw [if_pos hn]
        exact (hi.locEngStop hreg rc).congr rfl rfl rfl
      · rw [if_neg hn]
        exact hi
    generalize (if d.navigating then { LocEng.locEngStop rc d with navigating := false } else d) =
      e at hstop
    by_cases ho : e.clientOpened = true
    · simp only [ho, if_true]
      exact hstop.congr (by simp [LocEngData.emit, StatusView.next]) rfl rfl
    · simp only [ho]
      exact hstop.congr rfl rfl rfl
  · rw [if_neg hin]
    exact hi

/-- After `loc_eng_init` both the view and the fields start over. -/
theorem StatusInv.locEngInit [Inhabited α] (d : LocEngData α) (cb : GpsCallbacks)
    (handle rc : Int) : StatusInv (locEngInit cb handle rc d) := by
  refine ⟨?_, nofun, nofun⟩
  show statusView (_ ++ [Effect.init]) = engineView (LocEng.locEngInit cb handle rc d)
  rw [statusView_append]
  rfl

/-! ## Whole runs -/

/-- An initialised engine has a callback. -/
def CbRegistered (d : LocEngData α) : Prop := d.locEngInited = true → d.statusCb = true

theorem CbRegistered.locEngDeinit {d : LocEngData α} (rc : Int) (h : CbRegistered d) :
    CbRegistered (locEngDeinit rc d) := by
  unfold LocEng.locEngDeinit
  by_cases hin : d.locEngInited = true
  · rw [if_pos hin]
    intro hfalse
    cases hfalse
  · rw [if_neg hin]
    exact h

/-- `loc_eng_report_status` past the callbacks leaves the status alone. -/
theorem StatusInv.locEngReportStatus {d : LocEngData α} (hi : StatusInv d)
    (hcb : d.statusCb = true) {r : StatusReport} (hok : noStaleSession d (.report r)) :
    StatusInv (locEngReportStatus r d) := by
  have hmute : ∀ e : LocEngData α, StatusInv e → StatusInv (reportStatusMute e) := by
    intro e he
    unfold reportStatusMute
    split
    · split
      · exact he.congr rfl rfl rfl
      · exact he
    · split
      · split
        · exact he.congr rfl rfl rfl
        · exact he
      · exact he
  have hwake : ∀ e : LocEngData α, StatusInv e → StatusInv (reportStatusWake e) := by
    intro e he
    unfold reportStatusWake
    split
    · exact he.congr rfl rfl rfl
    · exact he
  exact hwake _ (hmute _ (hi.reportChangedStatus hcb hok))

theorem CbRegistered.locEngReportStatus {d : LocEngData α} (hcb : d.statusCb = true)
    (r : StatusReport) : CbRegistered (locEngReportStatus r d) := by
  have hreport : (reportChangedStatus r d).statusCb = true := by
    obtain ⟨engine, fix, last, es, -, heq⟩ := reportChangedStatus_footprint r d
    rw [heq]
    exact hcb
  intro _
  simp only [LocEng.locEngReportStatus, reportStatusWake, reportStatusMute, raise]
  split <;> split <;> first | exact hreport | (split <;> first | exact hreport | (split <;> exact hreport))

/-- An effect the framework's view does not depend on. -/
def Effect.sessionSilent : Effect α → Bool
  | .init => false
  | .statusCb _ => false
  | _ => true

/-- The session and the engine status are as before, and nothing was reported. -/
abbrev SessionFrame (d d' : LocEngData α) : Prop :=
  Frame (fun d => (d.navigating, d.engineStatus, d.fixSessionStatus, d.statusCb))
    (fun _ => True) Effect.sessionSilent d d'

theorem SessionFrame.statusView_eq {d d' : LocEngData α} (h : SessionFrame d d') :
    statusView d'.log = statusView d.log :=
  h.foldl_eq fun v e he => by cases e <;> simp_all [Effect.sessionSilent, StatusView.next]

/-- A data-connection result leaves the session to `loc_eng_stop` and the status
to the modem's next report. -/
theorem connResult_sessionFrame (r : ConnResult) (rc : Int) (d : LocEngData α) :
    SessionFrame d (completeAgps r rc (locEngDataConn r d)) := by
  have hconn : SessionFrame d (locEngDataConn r d) := by
    refine .ite (.refl d) ?_
    cases r with
    | opened apn => cases apn <;> exact .of_fields rfl rfl id
    | closed => exact .of_fields rfl rfl id
    | failed => exact .of_fields rfl rfl id
  have hioctl : ∀ (f : DeferredFlags) (e : LocEngData α), SessionFrame e (ioctlDataStatus f e) :=
    fun f e => .ite (.emit e rfl rfl id) (.ite (.emit e rfl rfl id)
      (.ite (.ite (.emit e rfl rfl id) (.emit e rfl rfl id)) (.refl e)))
  have hset : ∀ (f : DeferredFlags) (e : LocEngData α), SessionFrame e (setDataConnection f e) :=
    fun f e => .ite (.of_fields rfl rfl id)
      (.ite (.refl e) (.ite (.of_fields rfl rfl id) (.refl e)))
  have hstop : ∀ e : LocEngData α, SessionFrame e (handleDeferredStop rc e) := by
    intro e
    have hdone : SessionFrame e ({ e with agpsRequestPending := false }.emit .agpsRequestDone) :=
      .of_log [.agpsRequestDone] (by simp [Effect.sessionSilent]) rfl rfl id
    exact .ite (hdone.trans (.emit _ rfl rfl id)) hdone
  exact hconn.trans ((hioctl _ _).trans ((hset _ _).trans (hstop _)))

/-- Every permitted step keeps the invariant. -/
theorem StatusInv.step [Inhabited α] {d d' : LocEngData α} {a : StatusAct}
    (hok : noStaleSession d a) (h : statusStep d a = some d')
    (hi : StatusInv d ∧ CbRegistered d) : StatusInv d' ∧ CbRegistered d' := by
  obtain ⟨hi, hreg⟩ := hi
  cases a with
  | init cb handle rc =>
    cases h
    exact ⟨.locEngInit d cb handle rc, fun _ => hok⟩
  | cleanup rc =>
    cases h
    exact ⟨hi.locEngDeinit hreg rc, hreg.locEngDeinit rc⟩
  | report r =>
    simp only [statusStep, Option.ite_none_right_eq_some, Option.some.injEq] at h
    obtain ⟨hin, rfl⟩ := h
    exact ⟨hi.locEngReportStatus (hreg hin) hok, .locEngReportStatus (hreg hin) r⟩
  | start rc =>
    cases h
    unfold locEngStart
    split
    · exact ⟨hi, hreg⟩
    · split
      · exact ⟨hi.congr (by simp [LocEngData.emit, StatusView.next]) rfl rfl, hreg⟩
      · exact ⟨hi.congr (by simp [LocEngData.emit, StatusView.next]) rfl rfl, hreg⟩
  | stop rc =>
    cases h
    refine ⟨hi.locEngStop hreg rc, ?_⟩
    unfold CbRegistered
    rw [(locEngStop_inited rc d).1, (locEngStop_inited rc d).2]
    exact hreg
  | serverRequest r =>
    simp only [statusStep, Option.ite_none_right_eq_some, Option.some.injEq] at h
    obtain ⟨hin, rfl⟩ := h
    unfold locEngProcessConnRequest
    split
    · exact ⟨hi.congr rfl rfl rfl, hreg⟩
    · exact ⟨hi.congr rfl rfl rfl, hreg⟩
  | connResult r rc =>
    simp only [statusStep, Option.ite_none_right_eq_some, Option.some.injEq] at h
    obtain ⟨hin, rfl⟩ := h
    have hf := connResult_sessionFrame r rc d
    obtain ⟨-, hen, hfix, hcb⟩ : _ ∧ _ ∧ _ ∧ _ := by simpa only [Prod.mk.injEq] using hf.view_eq
    exact ⟨hi.congr hf.statusView_eq hen hfix, fun _ => hcb.trans (hreg hin)⟩

/-- **The view is exact.** In every run of init / cleanup cycles that registers a
status callback each time and turns the engine on only when `last_status` is not
SESSION_BEGIN, the framework's view is the engine's status after every step. -/
theorem status_view_exact [Inhabited α] {as : List StatusAct} {d : LocEngData α}
    (h : exec (restrict noStaleSession statusStep) (LocEngData.boot α) as = some d) :
    statusView d.log = engineView d := by
  have h0 : StatusInv (LocEngData.boot α) ∧ CbRegistered (LocEngData.boot α) :=
    ⟨⟨rfl, nofun, nofun⟩, nofun⟩
  exact (exec_restrict_invariant (fun s a s' hok hst hi => StatusInv.step hok hst hi) h0 h).1.exact

/-- A report of the engine's state. -/
def engineReport (state : EngineState) : StatusReport := ⟨.engineState, state, .other⟩

/-- A report that a fix session begins. -/
def sessionReport : StatusReport := ⟨.fixSessionState, .other, .begin⟩

/-- A session stopped before cleanup, then a second lifecycle. -/
def stoppedThenRestarted : List StatusAct :=
  [.init ⟨true, true⟩ 1 0, .start 0, .report sessionReport, .stop 0, .cleanup 0,
    .init ⟨true, true⟩ 1 0, .report (engineReport .on), .report (engineReport .off)]

theorem status_view_exact_two_lifecycles :
    ∃ d, exec (restrict noStaleSession statusStep) (LocEngData.boot Unit) stoppedThenRestarted =
        some d ∧ statusView d.log = engineView d := by
  have hrun : (exec (restrict noStaleSession statusStep) (LocEngData.boot Unit)
      stoppedThenRestarted).isSome = true := by decide
  obtain ⟨d, hd⟩ := Option.isSome_iff_exists.mp hrun
  exact ⟨d, hd, status_view_exact hd⟩

/-- A session the framework never started is still open at cleanup. -/
def leftOpenThenRestarted : List StatusAct :=
  [.init ⟨true, true⟩ 1 0, .report sessionReport, .cleanup 0, .init ⟨true, true⟩ 1 0,
    .report (engineReport .on)]

/-- The next lifecycle's first ENGINE_ON is followed by a SESSION_BEGIN of the
previous one: the framework sees a session, the engine has none. -/
theorem status_view_stale_session :
    ∃ d, exec statusStep (LocEngData.boot Unit) leftOpenThenRestarted = some d ∧
      (statusView d.log).inSession = true ∧ d.fixSessionStatus ≠ .sessionBegin ∧
      statusView d.log ≠ engineView d := by
  have hrun : (exec statusStep (LocEngData.boot Unit) leftOpenThenRestarted).any (fun d =>
      (statusView d.log).inSession = true ∧ d.fixSessionStatus ≠ .sessionBegin ∧
        statusView d.log ≠ engineView d) = true := by decide
  obtain ⟨d, hd, h⟩ := (Option.any_eq_true _ _).mp hrun
  exact ⟨d, hd, by simpa using h⟩

end Ancora.LocEng
