import Ancora.Lib.History
import Ancora.LocEng.Pieces

/-!
# Muted sessions

An NI request with privacy override asks that the session it starts be invisible
to the framework. `loc_ni_request_handler` calls `loc_eng_mute_one_session`, which
sets `mute_session_state` to WAIT; the next status report with the engine on makes
it IN_SESSION, and the one that turns the engine off makes it NONE. Positions and
satellites are reported unless it is IN_SESSION.

- `muteStep`: the engine together with `notif_in_progress`; whether the handler
  mutes is computed from the request.
- `MutesSessions hist`: what a privacy override promises, as a statement about the
  history of overrides, status reports and reports.
- **`override_mutes_session`**: it holds in every run in which no override is
  accepted in the middle of a muted session. Such an override sets the state back
  to WAIT and unmutes the session (`override_unmutes_session`).
-/

namespace Ancora.LocEng

open Machine History

variable {α : Type}

/-! ## The request -/

/-- `rpc_loc_ni_notify_verify_e_type`; the wire may carry any other number. -/
inductive NiNotifyVerify
  | noNotifyNoVerify
  | notifyOnly
  | notifyVerifyAllowNoResp
  | notifyVerifyNotAllowNoResp
  | privacyOverride
  | other
  deriving DecidableEq, Repr

/-- `rpc_loc_ni_event_e_type`. -/
inductive NiEventType
  | vxNotifyVerifyReq
  | suplNotifyVerifyReq
  | umtsCpNotifyVerifyReq
  | other
  deriving DecidableEq, Repr

/-- `rpc_loc_ni_event_s_type`: the event and the `notification_priv_type` of its
union arms. -/
structure NiRequest where
  event : NiEventType
  vxPrivType : NiNotifyVerify
  suplPrivType : NiNotifyVerify
  umtsCpPrivType : NiNotifyVerify
  deriving DecidableEq, Repr

/-- The request in a payload of zeros. -/
instance : Inhabited NiRequest where
  default := ⟨.other, .other, .other, .other⟩

/-- The `notification_priv_type` that `loc_ni_request_handler` looks at
(loc_eng_ni.cpp:358, 428, 499). -/
def NiRequest.privType (r : NiRequest) : Option NiNotifyVerify :=
  match r.event with
  | .vxNotifyVerifyReq => some r.vxPrivType
  | .suplNotifyVerifyReq => some r.suplPrivType
  | .umtsCpNotifyVerifyReq => some r.umtsCpPrivType
  | .other => none

/-- `loc_eng_ni_callback` (loc_eng_ni.cpp:607): the requests that are handed to
`loc_ni_request_handler`. -/
def locEngNiCallback (m : EventMask) (r : NiRequest) : Option NiRequest :=
  if m = niNotifyVerifyRequest then
    if r.event = .other then none else some r
  else none

/-- `loc_ni_request_handler` (loc_eng_ni.cpp:309) mutes: it is not busy, and the
request is a privacy override. -/
def mutesSession (notifInProgress : Bool) (r : NiRequest) : Bool :=
  !notifInProgress && r.privType = some .privacyOverride

/-! ## The machine -/

/-- The engine with the busy flag of the NI handler. -/
structure MuteState (α : Type) where
  eng : EngState α
  notifInProgress : Bool
  deriving DecidableEq, Repr

/-- A step of the engine, or the end of `loc_ni_thread_proc`. -/
inductive MuteAct (α : Type)
  | eng (a : EngAct α)
  | niFinish
  deriving DecidableEq, Repr

/-- The piece the thread is at. -/
def ThreadPc.piece : ThreadPc α → Option (Micro α)
  | .running (m :: _) => some m
  | _ => none

/-- The NI handler's part in a piece is not the environment's choice. -/
def EngAct.withMute (mute : Bool) : EngAct α → EngAct α
  | .micro rc _ => .micro rc mute
  | a => a

def EngAct.isMicro : EngAct α → Bool
  | .micro _ _ => true
  | _ => false

section Request

variable (niArm : α → NiRequest)

/-- The request that the piece hands to the handler. -/
def Micro.niRequest : Micro α → Option NiRequest
  | .niCallback m p => locEngNiCallback m (niArm p.rest)
  | _ => none

/-- The request that the thread is about to hand to the handler. -/
def MuteState.request (s : MuteState α) : Option NiRequest :=
  s.eng.thread.piece.bind (Micro.niRequest niArm)

/-- The handler is about to mute. -/
def MuteState.mutes (s : MuteState α) : Bool :=
  (s.request niArm).any (mutesSession s.notifInProgress)

/-- One atomic step. `niArm` reads the NI arm of the payload. -/
def muteStep (s : MuteState α) : MuteAct α → Option (MuteState α)
  | .eng a =>
    (engStep s.eng (a.withMute (s.mutes niArm))).map fun e =>
      { eng := e
        notifInProgress := s.notifInProgress || (a.isMicro && (s.request niArm).isSome) }
  | .niFinish => if s.notifInProgress then some { s with notifInProgress := false } else none

/-! ## What a run shows -/

/-- What matters to a muted session. -/
inductive MuteEvent
  /-- A privacy override was accepted. -/
  | override
  /-- A status report was processed, with the engine status after it. -/
  | status (engineStatus : GpsStatusValue)
  /-- A position or satellite report was processed, and passed on or not. -/
  | report (delivered : Bool)
  deriving DecidableEq, Repr

/-- What a piece shows. -/
def Micro.muteSeen (mutes : Bool) (s s' : EngState α) : Micro α → List MuteEvent
  | .niCallback _ _ => if mutes then [.override] else []
  | .reportStatusMute => [.status s.data.engineStatus]
  | .reportPosition _ => [.report (!(newEffects s s').isEmpty)]
  | .reportSv _ => [.report (!(newEffects s s').isEmpty)]
  | _ => []

/-- What a step shows. -/
def muteSeen (s : MuteState α) (a : MuteAct α) (s' : MuteState α) : List MuteEvent :=
  match a, s.eng.thread.piece with
  | .eng (.micro _ _), some m => m.muteSeen (s.mutes niArm) s.eng s'.eng
  | _, _ => []

/-- The condition on a step: no privacy override is accepted, with the engine up,
while a muted session goes on. -/
def overrideOutsideSession (s : MuteState α) : MuteAct α → Prop
  | .eng (.micro _ _) =>
    s.mutes niArm = true → s.eng.data.locEngInited = true →
      s.eng.data.muteSessionState ≠ .inSession
  | _ => True

instance (s : MuteState α) : (a : MuteAct α) → Decidable (overrideOutsideSession niArm s a)
  | .eng (.micro _ _) => inferInstanceAs (Decidable (_ → _ → _))
  | .niFinish => .isTrue trivial
  | .eng (.locEventCb _ _ _) | .eng (.deleteAidingData _) | .eng (.dataConn _)
  | .eng (.xtraStore _) | .eng .xtraSignal | .eng .agpsInit | .eng .xtraInit | .eng (.start _)
  | .eng .stopCheck | .eng .stopDefer | .eng (.stopNow _) | .eng (.deinit _) | .eng .quit
  | .eng .top | .eng .wake | .eng .loop => .isTrue trivial

end Request

/-! ## What an override promises -/

/-- An override, then the engine on, and not off since. -/
def InMutedSession (hist : List MuteEvent) : Prop :=
  ∃ pre mid post, hist = pre ++ MuteEvent.override :: (mid ++ MuteEvent.status .engineOn :: post) ∧
    .status .engineOn ∉ mid ∧ .status .engineOff ∉ post

/-- An override, then the engine on, then off, and no newer override. -/
def AfterMutedSession (hist : List MuteEvent) : Prop :=
  ∃ pre mid post rest,
    hist = pre ++ MuteEvent.override ::
        (mid ++ MuteEvent.status .engineOn :: (post ++ MuteEvent.status .engineOff :: rest)) ∧
      .status .engineOn ∉ mid ∧ .status .engineOff ∉ post ∧
      .override ∉ mid ∧ .override ∉ post ∧ .override ∉ rest

/-- Nothing is passed on during a muted session, everything after it. -/
def MutesSessions (hist : List MuteEvent) : Prop :=
  ∀ pre delivered post, hist = pre ++ .report delivered :: post →
    (InMutedSession pre → delivered = false) ∧ (AfterMutedSession pre → delivered = true)

/-- Where a history stands: an override waits for its session, or a muted session
goes on. -/
structure MutePhase where
  armed : Bool
  muted : Bool
  deriving DecidableEq, Repr

def MutePhase.step (x : MutePhase) : MuteEvent → MutePhase
  | .override => { x with armed := true }
  | .status .engineOn => if x.armed then ⟨false, true⟩ else x
  | .status .engineOff => { x with muted := false }
  | .status _ => x
  | .report _ => x

def mutePhase (hist : List MuteEvent) : MutePhase := hist.foldl MutePhase.step ⟨false, false⟩

@[simp] theorem mutePhase_append (h₁ h₂ : List MuteEvent) :
    mutePhase (h₁ ++ h₂) = h₂.foldl MutePhase.step (mutePhase h₁) := List.foldl_append

/-- An override waits until the engine is on. -/
theorem armed_foldl {l : List MuteEvent} {x : MutePhase} (hx : x.armed = true)
    (hl : .status .engineOn ∉ l) : (l.foldl MutePhase.step x).armed = true := by
  induction l generalizing x with
  | nil => exact hx
  | cons e l ih =>
    refine ih ?_ fun hmem => hl (List.mem_cons_of_mem _ hmem)
    cases e with
    | override => rfl
    | report d => exact hx
    | status st =>
      cases st with
      | engineOn => exact absurd List.mem_cons_self hl
      | _ => exact hx

/-- A muted session lasts until the engine is off. -/
theorem muted_foldl {l : List MuteEvent} {x : MutePhase} (hx : x.muted = true)
    (hl : .status .engineOff ∉ l) : (l.foldl MutePhase.step x).muted = true := by
  induction l generalizing x with
  | nil => exact hx
  | cons e l ih =>
    refine ih ?_ fun hmem => hl (List.mem_cons_of_mem _ hmem)
    cases e with
    | override => exact hx
    | report d => exact hx
    | status st =>
      cases st with
      | engineOn =>
        simp only [MutePhase.step]
        split
        · rfl
        · exact hx
      | engineOff => exact absurd List.mem_cons_self hl
      | _ => exact hx

/-- Without an override nothing is muted. -/
theorem unarmed_foldl {l : List MuteEvent} {x : MutePhase} (hx : x.armed = false)
    (hl : .override ∉ l) :
    (l.foldl MutePhase.step x).armed = false ∧
      (x.muted = false → (l.foldl MutePhase.step x).muted = false) := by
  induction l generalizing x with
  | nil => exact ⟨hx, id⟩
  | cons e l ih =>
    have hl' : .override ∉ l := fun hmem => hl (List.mem_cons_of_mem _ hmem)
    cases e with
    | override => exact absurd List.mem_cons_self hl
    | report d => exact ih hx hl'
    | status st =>
      cases st with
      | engineOn =>
        have hsame : x.step (.status .engineOn) = x := if_neg (by simp [hx])
        rw [List.foldl_cons, hsame]
        exact ih hx hl'
      | engineOff =>
        obtain ⟨harm, hmute⟩ := ih (x := x.step (.status .engineOff)) hx hl'
        exact ⟨harm, fun _ => hmute rfl⟩
      | _ => exact ih hx hl'

/-- The session that an override waits for begins. -/
theorem step_engineOn {x : MutePhase} (hx : x.armed = true) :
    x.step (.status .engineOn) = ⟨false, true⟩ := if_pos hx

/-- The phase of a history in a muted session. -/
theorem InMutedSession.muted {hist : List MuteEvent} (h : InMutedSession hist) :
    (mutePhase hist).muted = true := by
  obtain ⟨pre, mid, post, rfl, hmid, hpost⟩ := h
  rw [mutePhase_append, List.foldl_cons, List.foldl_append, List.foldl_cons,
    step_engineOn (armed_foldl rfl hmid)]
  exact muted_foldl rfl hpost

/-- The phase of a history after it. -/
theorem AfterMutedSession.over {hist : List MuteEvent} (h : AfterMutedSession hist) :
    (mutePhase hist).armed = false ∧ (mutePhase hist).muted = false := by
  obtain ⟨pre, mid, post, rest, rfl, hmid, -, -, hpost, hrest⟩ := h
  rw [mutePhase_append, List.foldl_cons, List.foldl_append, List.foldl_cons,
    step_engineOn (armed_foldl rfl hmid), List.foldl_append, List.foldl_cons]
  obtain ⟨harm, -⟩ := unarmed_foldl (x := ⟨false, true⟩) rfl hpost
  obtain ⟨harm', hmute⟩ := unarmed_foldl
    (x := (post.foldl MutePhase.step ⟨false, true⟩).step (.status .engineOff)) harm hrest
  exact ⟨harm', hmute rfl⟩

/-! ## The invariant -/

section Invariant

variable {s s' : EngState α} {a : EngAct α} {x : MutePhase}

/-- `mute_session_state` as a phase. -/
def MuteSession.phase : MuteSession → MutePhase
  | .none => ⟨false, false⟩
  | .wait => ⟨true, false⟩
  | .inSession => ⟨false, true⟩

/-- The pieces that pass on a report. -/
def Micro.reports : Micro α → Bool
  | .reportPosition _ => true
  | .reportSv _ => true
  | _ => false

/-- There are two kinds of reports. -/
theorem Micro.reports_cases {m : Micro α} (h : m.reports = true) :
    (∃ p, m = .reportPosition p) ∨ ∃ p, m = .reportSv p := by
  cases m with
  | reportPosition p => exact .inl ⟨p, rfl⟩
  | reportSv p => exact .inr ⟨p, rfl⟩
  | _ => cases h

/-- The pieces that show something. -/
def Micro.showsMute : Micro α → Bool
  | .reportPosition _ => true
  | .reportSv _ => true
  | .reportStatusMute => true
  | .niCallback _ _ => true
  | _ => false

/-- The state follows the history. Only an override that is accepted after
`loc_eng_deinit` is not noted down; but then at most one more event is processed,
and its reports come before its status. -/
inductive MuteInv (s : EngState α) (x : MutePhase) : Prop
  | synced (h : x = s.data.muteSessionState.phase)
  | late (hin : s.data.locEngInited = false) (harm : x.armed = true)
      (hmute : s.data.muteSessionState = .inSession ↔ x.muted = true)
      (hev : s.thread.ahead Micro.showsMute = false ∨ s.data.locEvent = 0)
  | ended (hin : s.data.locEngInited = false) (hev : s.data.locEvent = 0)
      (hah : s.thread.ahead Micro.reports = false)

theorem MuteSession.phase_muted (st : MuteSession) : st = .inSession ↔ st.phase.muted = true := by
  cases st <;> simp [MuteSession.phase]

/-- After `loc_eng_deinit` no call revives the engine or brings an event. -/
theorem EngStep.call_uninited (h : EngStep s a s') (ha : a.isCall = true)
    (hin : s.data.locEngInited = false) :
    s'.data.locEngInited = false ∧ s'.data.locEvent = s.data.locEvent := by
  have hun := h.call_untouched ha
  have hev : s'.data.locEvent = s.data.locEvent := by
    by_cases hcb : ∃ c m p, a = .locEventCb c m p
    · obtain ⟨c, m, p, rfl⟩ := hcb
      cases h with
      | locEventCb c m p =>
        have hno : acceptsEvent c m s.data = false := by simp [acceptsEvent, hin]
        show (LocEng.locEventCb c m p s.data).locEvent = _
        rw [LocEng.locEventCb, if_neg (by simp [hno])]
    · have hun := congrArg (·.locEvent) hun
      cases a <;> first | exact hun | exact absurd ⟨_, _, _, rfl⟩ hcb
  refine ⟨?_, hev⟩
  by_cases hde : ∃ rc, a = .deinit rc
  · obtain ⟨rc, rfl⟩ := hde
    cases h with
    | deinit rc _ =>
      show (locEngDeinit rc s.data).locEngInited = false
      rw [locEngDeinit, if_neg (by simp [hin])]
      exact hin
  · have hun := congrArg (·.locEngInited) hun
    cases a <;> first | exact Eq.trans hun hin | exact absurd ⟨_, rfl⟩ hde

/-- Only the thread's pieces write `mute_session_state`. -/
theorem EngStep.mute_eq (h : EngStep s a s') (ha : ∀ rc mute, a ≠ .micro rc mute) :
    s'.data.muteSessionState = s.data.muteSessionState :=
  congrArg (·.2.1) (h.pieceFrame ha).view_eq

/-- The calls keep the invariant. -/
theorem MuteInv.call (hi : MuteInv s x) (h : EngStep s a s') (ha : a.isCall = true) :
    MuteInv s' x := by
  have hm := h.mute_eq fun rc mute heq => by rw [heq] at ha; cases ha
  have ht := h.call_thread ha
  cases hi with
  | synced hx => exact .synced (by rw [hm]; exact hx)
  | late hin harm hmute hev =>
    obtain ⟨hin', hev'⟩ := h.call_uninited ha hin
    refine .late hin' harm (hm ▸ hmute) ?_
    rw [ht, hev']
    exact hev
  | ended hin hev hah =>
    obtain ⟨hin', hev'⟩ := h.call_uninited ha hin
    refine .ended hin' (hev'.trans hev) ?_
    rw [ht]
    exact hah

/-- A pass without an event reports nothing. -/
theorem ahead_reports_of_no_event {l : Locals α} (h : l.locEvent = 0) :
    (iteration l).any Micro.reports = false := by
  refine List.any_eq_false.mpr fun m hm => ?_
  cases m with
  | reportPosition p => simp [mem_iteration_iff, h] at hm
  | reportSv p => simp [mem_iteration_iff, h] at hm
  | _ => exact nofun

/-- A thread with nothing ahead keeps the state in step with the history. -/
theorem MuteInv.idle (hi : MuteInv s x) {t : ThreadPc α} {d : LocEngData α}
    (ht : ∀ p, t.ahead p = false) (hin : d.locEngInited = s.data.locEngInited)
    (hev : d.locEvent = s.data.locEvent) (hm : d.muteSessionState = s.data.muteSessionState) :
    MuteInv { s with data := d, thread := t } x := by
  cases hi with
  | synced hx => exact .synced (by rw [hx, ← hm])
  | late hin' harm hmute _ => exact .late (hin.trans hin') harm (hm ▸ hmute) (.inl (ht _))
  | ended hin' hev' _ => exact .ended (hin.trans hin') (hev.trans hev') (ht _)

/-- So does the beginning of the next pass. -/
theorem MuteInv.quitOrCopy (hi : MuteInv s x) {d : LocEngData α}
    (hin : d.locEngInited = s.data.locEngInited) (hev : d.locEvent = s.data.locEvent)
    (hm : d.muteSessionState = s.data.muteSessionState) : MuteInv (quitOrCopy s d) x := by
  unfold LocEng.quitOrCopy
  by_cases hq : d.deferredActionFlags.quit = true
  · rw [if_pos hq]
    exact hi.idle (fun _ => rfl) hin hev hm
  · rw [if_neg hq]
    cases hi with
    | synced hx => exact .synced (by rw [hx, ← hm]; rfl)
    | late hin' harm hmute _ => exact .late (hin.trans hin') harm (hm ▸ hmute) (.inr rfl)
    | ended hin' hev' _ =>
      exact .ended (hin.trans hin') rfl (ahead_reports_of_no_event (hev.trans hev'))

/-- A report is passed on unless the session is muted. -/
theorem Micro.run_report_log {m : Micro α} (hm : m.reports = true) (rc : Int) (mute : Bool)
    (d : LocEngData α) : ∃ effect, (m.run rc mute d).log =
      d.log ++ if d.muteSessionState = .inSession then [] else [effect] := by
  obtain ⟨p, rfl⟩ | ⟨p, rfl⟩ := Micro.reports_cases hm
  · refine ⟨.reportPosition p, ?_⟩
    by_cases hin : d.muteSessionState = .inSession
    · simp [Micro.run, hin]
    · simp [Micro.run, hin, LocEngData.emit]
  · refine ⟨.reportSv p, ?_⟩
    by_cases hin : d.muteSessionState = .inSession
    · simp [Micro.run, hin]
    · simp [Micro.run, hin, LocEngData.emit]

/-- The thread passes on what is not in a muted session. -/
theorem newEffects_report {rc : Int} {mute : Bool} {m : Micro α} {t : ThreadPc α}
    (hm : m.reports = true) :
    (newEffects s { s with data := m.run rc mute s.data, thread := t }).isEmpty =
      decide (s.data.muteSessionState = .inSession) := by
  obtain ⟨effect, hlog⟩ := Micro.run_report_log hm rc mute s.data
  rw [newEffects_eq hlog]
  by_cases hin : s.data.muteSessionState = .inSession
  · simp [hin]
  · simp [hin]

theorem ahead_of_cons {p : Micro α → Bool} {m : Micro α} {todo : List (Micro α)}
    (ht : s.thread = .running (m :: todo)) (h : s.thread.ahead p = false) :
    p m = false ∧ todo.any p = false := by
  rw [ht, ThreadPc.ahead_cons] at h
  exact Bool.or_eq_false_iff.mp h

theorem Micro.run_uninited (rc : Int) (mute : Bool) (d : LocEngData α) (m : Micro α) :
    (m.run rc mute d).locEngInited = d.locEngInited ∧ (m.run rc mute d).locEvent = d.locEvent := by
  have h := m.run_untouched rc mute d
  have hin := congrArg (·.locEngInited) h
  have hev := congrArg (·.locEvent) h
  cases m <;> exact ⟨hin, hev⟩

section Piece

variable {rc : Int} {mute : Bool} {m : Micro α} {todo : List (Micro α)}

/-- A piece that leaves the mute state alone. -/
theorem MuteInv.keep (hi : MuteInv s x) (ht : s.thread = .running (m :: todo))
    (hm : (m.run rc mute s.data).muteSessionState = s.data.muteSessionState) :
    MuteInv { s with data := m.run rc mute s.data, thread := .running todo } x := by
  obtain ⟨hin', hev'⟩ := m.run_uninited rc mute s.data
  cases hi with
  | synced hx => exact .synced (by rw [hm]; exact hx)
  | late hin harm hmute hev =>
    refine .late (hin'.trans hin) harm (by rw [hm]; exact hmute) ?_
    exact hev.imp (fun hah => (ahead_of_cons ht hah).2) fun hzero => hev'.trans hzero
  | ended hin hev hah =>
    exact .ended (hin'.trans hin) (hev'.trans hev) (ahead_of_cons ht hah).2

/-- A status report moves the state and the history alike. -/
theorem reportStatusMute_phase (d : LocEngData α) :
    d.muteSessionState.phase.step (.status d.engineStatus) =
      (reportStatusMute d).muteSessionState.phase := by
  unfold reportStatusMute
  cases hs : d.engineStatus <;> cases hm : d.muteSessionState <;>
    simp [MuteSession.phase, MutePhase.step, hm]

/-- The piece that looks at the status moves the state as the history does. -/
theorem MuteInv.status (hi : MuteInv s x) (hpass : InPass s)
    (ht : s.thread = .running (.reportStatusMute :: todo)) :
    MuteInv { s with data := Micro.reportStatusMute.run rc mute s.data, thread := .running todo }
      (x.step (.status s.data.engineStatus)) := by
  obtain ⟨hin', hev'⟩ := Micro.run_uninited rc mute s.data .reportStatusMute
  cases hi with
  | synced hx =>
    refine .synced ?_
    rw [hx]
    exact reportStatusMute_phase s.data
  | late hin _ _ hev =>
    -- the last event of all: its reports are behind
    rcases hev with hah | hzero
    · cases (ahead_of_cons ht hah).1
    · refine .ended (hin'.trans hin) (hev'.trans hzero) (List.any_eq_false.mpr fun m hm hrep => ?_)
      obtain ⟨l, -, hl⟩ := hpass.ahead ht
      have hlt := ((hl m).mp hm).2
      cases m <;> simp [Micro.reports, Micro.place] at hrep hlt
  | ended hin hev hah =>
    exact .ended (hin'.trans hin) (hev'.trans hev) (ahead_of_cons ht hah).2

theorem locEngMuteOneSession_uninited {d : LocEngData α} (h : d.locEngInited = false) :
    locEngMuteOneSession d = d := if_pos (by simp [h])

/-- An override that is accepted mutes the session, with the engine up. -/
theorem niCallback_mute (rc : Int) {ev : EventMask} (p : EventPayload α)
    (hev : ev = niNotifyVerifyRequest) (d : LocEngData α) :
    ((Micro.niCallback ev p).run rc true d).muteSessionState =
      if d.locEngInited = true then .wait else d.muteSessionState := by
  have hrun : (Micro.niCallback ev p).run rc true d =
      locEngMuteOneSession (d.emit (.niCallback ev p)) := if_pos ⟨rfl, hev⟩
  rw [hrun]
  by_cases hin : d.locEngInited = true
  · rw [if_pos hin, locEngMuteOneSession, if_neg (by simp [LocEngData.emit, hin])]
  · rw [if_neg hin, locEngMuteOneSession_uninited (by simpa [LocEngData.emit] using hin)]
    rfl

/-- An override outside a muted session. -/
theorem MuteInv.override (hi : MuteInv s x) (hpass : InPass s) {ev : EventMask}
    {p : EventPayload α} (ht : s.thread = .running (.niCallback ev p :: todo))
    (hev : ev = niNotifyVerifyRequest)
    (hok : s.data.locEngInited = true → s.data.muteSessionState ≠ .inSession) :
    MuteInv { s with data := (Micro.niCallback ev p).run rc true s.data, thread := .running todo }
      (x.step .override) := by
  have hmute := niCallback_mute rc p hev s.data
  obtain ⟨hin', hslot'⟩ := Micro.run_uninited rc true s.data (.niCallback ev p)
  cases hi with
  | synced hx =>
    by_cases hin : s.data.locEngInited = true
    · rw [if_pos hin] at hmute
      refine .synced ?_
      rw [hmute, hx]
      cases hm : s.data.muteSessionState with
      | none => rfl
      | wait => rfl
      | inSession => exact absurd hm (hok hin)
    · rw [if_neg hin] at hmute
      refine .late (hin'.trans (by simpa using hin)) rfl ?_ (.inl ?_)
      · rw [hmute, hx]
        exact MuteSession.phase_muted _
      · refine List.any_eq_false.mpr fun m hm hshow => ?_
        obtain ⟨l, -, hl⟩ := hpass.ahead ht
        have hlt := ((hl m).mp hm).2
        cases m <;> simp [Micro.showsMute, Micro.place] at hshow hlt
  | late hin _ hold hslot =>
    rw [if_neg (by simp [hin])] at hmute
    refine .late (hin'.trans hin) rfl (by rw [hmute]; exact hold) ?_
    rcases hslot with hah | hzero
    · cases (ahead_of_cons ht hah).1
    · exact .inr (hslot'.trans hzero)
  | ended hin hslot hah =>
    exact .ended (hin'.trans hin) (hslot'.trans hslot) (ahead_of_cons ht hah).2

/-- A report is passed on or held back as the history demands. -/
theorem MuteInv.report (hi : MuteInv s x) (ht : s.thread = .running (m :: todo))
    (hm : m.reports = true) :
    (x.muted = true → s.data.muteSessionState = .inSession) ∧
      (x.armed = false → x.muted = false → s.data.muteSessionState ≠ .inSession) := by
  cases hi with
  | synced hx =>
    rw [hx]
    constructor
    · exact (MuteSession.phase_muted _).mpr
    · intro _ hno hin
      rw [(MuteSession.phase_muted _).mp hin] at hno
      cases hno
  | late _ harm hmute _ =>
    constructor
    · exact hmute.mpr
    · intro hno
      rw [harm] at hno
      cases hno
  | ended _ _ hah =>
    rw [(ahead_of_cons ht hah).1] at hm
    cases hm

end Piece

end Invariant

/-! ## Muted sessions stay muted -/

/-- A report extends the history as it should if the state follows it. -/
theorem MutesSessions.report {hist : List MuteEvent} (hh : MutesSessions hist) {delivered : Bool}
    (hin : (mutePhase hist).muted = true → delivered = false)
    (hout : (mutePhase hist).armed = false → (mutePhase hist).muted = false → delivered = true) :
    MutesSessions (hist ++ [MuteEvent.report delivered]) := by
  intro pre d post heq
  rcases snoc_split heq with ⟨rfl, hd, -⟩ | ⟨post', -, hold⟩
  · obtain rfl : d = delivered := MuteEvent.report.inj hd
    constructor
    · intro hs
      exact hin hs.muted
    · intro hs
      obtain ⟨harm, hmute⟩ := hs.over
      exact hout harm hmute
  · exact hh pre d post' hold

/-- Any other event asks nothing. -/
theorem MutesSessions.other {hist : List MuteEvent} (hh : MutesSessions hist) {e : MuteEvent}
    (he : ∀ d, e ≠ .report d) : MutesSessions (hist ++ [e]) := by
  intro pre d post heq
  rcases snoc_split heq with ⟨-, hd, -⟩ | ⟨post', -, hold⟩
  · exact absurd hd.symm (he d)
  · exact hh pre d post' hold

/-- The handler mutes only at the piece that hands it a request. -/
theorem MuteState.mutes_niCallback {niArm : α → NiRequest} {s : MuteState α} {m : Micro α}
    {todo : List (Micro α)} (ht : s.eng.thread = .running (m :: todo))
    (h : s.mutes niArm = true) : ∃ p, m = .niCallback niNotifyVerifyRequest p := by
  obtain ⟨r, hr, -⟩ := (Option.any_eq_true _ _).mp h
  have hpiece : s.eng.thread.piece = some m := by
    rw [ht]
    rfl
  have hr : m.niRequest niArm = some r := by
    rwa [MuteState.request, hpiece] at hr
  cases m with
  | niCallback ev p =>
    refine ⟨p, ?_⟩
    by_contra hne
    have hev : ev ≠ niNotifyVerifyRequest := fun heq => hne (by rw [heq])
    have hnone : Micro.niRequest niArm (.niCallback ev p) = none := if_neg hev
    rw [hnone] at hr
    cases hr
  | _ => cases hr

/-- Without an override only a status report moves the mute state. -/
theorem Micro.run_muteSessionState {m : Micro α} (hst : m ≠ .reportStatusMute) (rc : Int)
    (d : LocEngData α) : (m.run rc false d).muteSessionState = d.muteSessionState := by
  have h := congrArg (·.muteSessionState) (m.run_untouched rc false d)
  cases m with
  | reportStatusMute => exact absurd rfl hst
  | _ => first | exact h | rfl

/-- **Step lemma** for the pieces of the thread. -/
theorem MuteInv.micro {niArm : α → NiRequest} {s : MuteState α} {hist : List MuteEvent} {rc : Int}
    {m : Micro α} {todo : List (Micro α)} (hpass : InPass s.eng)
    (hi : MuteInv s.eng (mutePhase hist)) (hh : MutesSessions hist)
    (ht : s.eng.thread = .running (m :: todo))
    (hok : s.mutes niArm = true → s.eng.data.locEngInited = true →
      s.eng.data.muteSessionState ≠ .inSession) {e : EngState α}
    (he : e = { s.eng with
      data := m.run rc (s.mutes niArm) s.eng.data, thread := .running todo }) :
    MuteInv e (mutePhase (hist ++ m.muteSeen (s.mutes niArm) s.eng e)) ∧
      MutesSessions (hist ++ m.muteSeen (s.mutes niArm) s.eng e) := by
  subst he
  by_cases hmutes : s.mutes niArm = true
  · obtain ⟨p, rfl⟩ := MuteState.mutes_niCallback ht hmutes
    have hseen (t : EngState α) : (Micro.niCallback niNotifyVerifyRequest p).muteSeen
        (s.mutes niArm) s.eng t = [.override] := if_pos hmutes
    rw [hseen, hmutes, mutePhase_append]
    exact ⟨hi.override hpass ht rfl (hok hmutes), hh.other fun _ => nofun⟩
  have hmutes : s.mutes niArm = false := by simpa using hmutes
  rw [hmutes]
  by_cases hst : m = .reportStatusMute
  · subst hst
    show MuteInv _ (mutePhase (hist ++ [.status s.eng.data.engineStatus])) ∧
      MutesSessions (hist ++ [.status s.eng.data.engineStatus])
    rw [mutePhase_append]
    exact ⟨hi.status hpass ht, hh.other fun _ => nofun⟩
  have hm := Micro.run_muteSessionState hst rc s.eng.data
  by_cases hrep : m.reports = true
  · obtain ⟨hin, hout⟩ := hi.report ht hrep
    have hseen : m.muteSeen false s.eng
        { s.eng with data := m.run rc false s.eng.data, thread := .running todo } =
          [.report (!decide (s.eng.data.muteSessionState = .inSession))] := by
      rw [← newEffects_report hrep]
      obtain ⟨p, rfl⟩ | ⟨p, rfl⟩ := Micro.reports_cases hrep <;> rfl
    rw [hseen, mutePhase_append]
    refine ⟨hi.keep ht hm, hh.report ?_ ?_⟩
    · intro hmuted
      simp [hin hmuted]
    · intro harm hmuted
      simp [hout harm hmuted]
  have hseen (t : EngState α) : m.muteSeen false s.eng t = [] := by
    cases m <;> first | rfl | exact absurd rfl hst | exact absurd rfl hrep
  rw [hseen, List.append_nil]
  exact ⟨hi.keep ht hm, hh⟩

/-- **Step lemma**: every permitted step keeps the invariant. -/
theorem MuteInv.step {niArm : α → NiRequest} {s s' : MuteState α} {a : MuteAct α}
    {hist : List MuteEvent} (hok : overrideOutsideSession niArm s a)
    (h : muteStep niArm s a = some s')
    (hi : InPass s.eng ∧ MuteInv s.eng (mutePhase hist) ∧ MutesSessions hist) :
    InPass s'.eng ∧ MuteInv s'.eng (mutePhase (hist ++ muteSeen niArm s a s')) ∧
      MutesSessions (hist ++ muteSeen niArm s a s') := by
  obtain ⟨hpass, hi, hh⟩ := hi
  cases a with
  | niFinish =>
    simp only [muteStep, Option.ite_none_right_eq_some, Option.some.injEq] at h
    obtain ⟨-, rfl⟩ := h
    show _ ∧ MuteInv _ (mutePhase (hist ++ [])) ∧ MutesSessions (hist ++ [])
    rw [List.append_nil]
    exact ⟨hpass, hi, hh⟩
  | eng b =>
    obtain ⟨e, he, rfl⟩ := Option.map_eq_some_iff.mp h
    have hst := engStep_cases he
    refine ⟨hpass.step hst, ?_⟩
    by_cases hm : ∃ rc mute, b = .micro rc mute
    · obtain ⟨rc, mute, rfl⟩ := hm
      generalize hact : (EngAct.micro rc mute).withMute (s.mutes niArm) = act at hst
      cases hst with
      | micro rc' mute' ht _ =>
        obtain ⟨rfl, rfl⟩ := EngAct.micro.inj hact
        have hpiece : s.eng.thread.piece = some _ := congrArg ThreadPc.piece ht
        simp only [muteSeen, hpiece]
        exact MuteInv.micro hpass hi hh ht hok rfl
      | _ => cases hact
    · have hnm : ∀ rc mute, b ≠ .micro rc mute := fun rc mute heq => hm ⟨rc, mute, heq⟩
      have hact : b.withMute (s.mutes niArm) = b := by
        cases b <;> first | rfl | exact absurd rfl (hnm _ _)
      have hnil : muteSeen niArm s (.eng b)
          { eng := e
            notifInProgress := s.notifInProgress ||
              (b.isMicro && (s.request niArm).isSome) } = [] := by
        cases b <;> first | rfl | exact absurd rfl (hnm _ _)
      rw [hnil, List.append_nil]
      rw [hact] at hst
      refine ⟨?_, hh⟩
      cases hst with
      | topWait _ _ => exact hi.idle (fun _ => rfl) rfl rfl rfl
      | topCopy _ _ => exact hi.quitOrCopy rfl rfl rfl
      | wake _ => exact hi.quitOrCopy rfl rfl rfl
      | micro rc mute _ _ => exact absurd rfl (hnm rc mute)
      | loop _ => exact hi.idle (fun _ => rfl) rfl rfl rfl
      | _ =>
        rw [hact] at he
        exact hi.call (engStep_cases he) rfl

/-- The state in which `loc_eng_init` returns. -/
def muteInit (α : Type) [Inhabited α] (cb : GpsCallbacks) (handle : Int) : MuteState α where
  eng := engInit α cb handle
  notifInProgress := false

/-- **A privacy override mutes the whole session.** In every run that keeps to
`overrideOutsideSession`, nothing is passed on from the first status report with
the engine on to the one that turns it off, and reports are passed on again after
it. -/
theorem override_mutes_session [Inhabited α] (niArm : α → NiRequest) (cb : GpsCallbacks)
    (handle : Int) {as : List (MuteAct α)} {s : MuteState α} {hist : List MuteEvent}
    (h : exec (restrict (fun p a => overrideOutsideSession niArm p.1 a)
      (observe (muteSeen niArm) (muteStep niArm))) (muteInit α cb handle, []) as =
        some (s, hist)) : MutesSessions hist := by
  have hinit : InPass (muteInit α cb handle).eng ∧
      MuteInv (muteInit α cb handle).eng (mutePhase []) ∧ MutesSessions [] := by
    refine ⟨nofun, .synced rfl, ?_⟩
    intro pre d post heq
    simp at heq
  have hstep : ∀ (s : MuteState α) (h : List MuteEvent) a s', overrideOutsideSession niArm s a →
      muteStep niArm s a = some s' →
      InPass s.eng ∧ MuteInv s.eng (mutePhase h) ∧ MutesSessions h →
      InPass s'.eng ∧ MuteInv s'.eng (mutePhase (h ++ muteSeen niArm s a s')) ∧
        MutesSessions (h ++ muteSeen niArm s a s') :=
    fun s h a s' hok hst hi => MuteInv.step hok hst hi
  exact (observe_invariant hstep hinit h).2.2

/-- An event and the pass that processes it, in `n` pieces. -/
def eventPass (m : EventMask) (p : EventPayload NiRequest) (n : Nat) : List (MuteAct NiRequest) :=
  [MuteAct.eng (.locEventCb 1 m p), .eng .top] ++ List.replicate n (MuteAct.eng (.micro 0 false)) ++
    [MuteAct.eng .loop]

/-- A privacy override, answered by the time the next event comes. -/
def overridePass : List (MuteAct NiRequest) :=
  eventPass niNotifyVerifyRequest
    { (default : EventPayload NiRequest) with
      rest := { (default : NiRequest) with
        event := .suplNotifyVerifyReq, suplPrivType := .privacyOverride } } 4 ++ [MuteAct.niFinish]

def enginePass (st : EngineState) : List (MuteAct NiRequest) :=
  eventPass eventStatusReport
    { (default : EventPayload NiRequest) with statusReport := ⟨.engineState, st, .other⟩ } 7

def positionPass : List (MuteAct NiRequest) := eventPass parsedPositionReport default 5

theorem override_mutes_session_one_session :
    ∃ s hist, exec (restrict (fun p a => overrideOutsideSession id p.1 a)
        (observe (muteSeen id) (muteStep id))) (muteInit NiRequest ⟨true, true⟩ 1, [])
        (overridePass ++ enginePass .on ++ positionPass ++ enginePass .off ++ positionPass) =
          some (s, hist) ∧
      hist = [.override, .status .engineOn, .report false, .status .engineOff, .report true] ∧
      MutesSessions hist := by
  have hrun : (exec (restrict (fun p a => overrideOutsideSession id p.1 a)
      (observe (muteSeen id) (muteStep id))) (muteInit NiRequest ⟨true, true⟩ 1, [])
      (overridePass ++ enginePass .on ++ positionPass ++ enginePass .off ++ positionPass)).any
        (fun p => p.2 = [.override, .status .engineOn, .report false, .status .engineOff,
          .report true]) = true := by decide
  obtain ⟨⟨s, hist⟩, hs, h⟩ := (Option.any_eq_true _ _).mp hrun
  exact ⟨s, hist, hs, by simpa using h, override_mutes_session id ⟨true, true⟩ 1 hs⟩

/-- A second override in the middle of the muted session unmutes it. -/
theorem override_unmutes_session :
    ∃ s hist, exec (observe (muteSeen id) (muteStep id)) (muteInit NiRequest ⟨true, true⟩ 1, [])
        (overridePass ++ enginePass .on ++ overridePass ++ positionPass) = some (s, hist) ∧
      hist = [.override, .status .engineOn, .override, .report true] ∧ ¬ MutesSessions hist := by
  have hrun : (exec (observe (muteSeen id) (muteStep id)) (muteInit NiRequest ⟨true, true⟩ 1, [])
      (overridePass ++ enginePass .on ++ overridePass ++ positionPass)).any (fun p =>
        p.2 = [.override, .status .engineOn, .override, .report true]) = true := by decide
  obtain ⟨⟨s, hist⟩, hs, h⟩ := (Option.any_eq_true _ _).mp hrun
  obtain rfl : hist = [.override, .status .engineOn, .override, .report true] := by simpa using h
  refine ⟨s, _, hs, rfl, fun hmutes => ?_⟩
  obtain ⟨hin, -⟩ := hmutes [.override, .status .engineOn, .override] true [] rfl
  have hmuted : InMutedSession [.override, .status .engineOn, .override] :=
    ⟨[], [], [.override], rfl, nofun, by simp⟩
  cases hin hmuted

end Ancora.LocEng
