import Ancora.LocEng.Pieces
import Ancora.LocEng.Status

/-!
# Deleting aiding data

`loc_eng_delete_aiding_data` records a request in `aiding_data_for_deletion`. The
deferred thread copies the field and the engine status under the mutex, processes
the modem event of the same pass, and decides on the copies whether to issue the
`DELETE_ASSIST_DATA` ioctl; before the ioctl, and again after it, it zeroes the
field without the mutex.

- `aidingSeen`: the requests and the ioctls of a run, the latter with the engine
  status they were issued in.
- **`aiding_deleted_engine_off`**: no ioctl is issued with the engine on, in every
  run in which no pass that deletes also processes a report that turns the engine
  on.
- **`aiding_requests_served`**: when the thread sleeps with the engine off, each
  request has been followed by an ioctl for all data, in every run in which no
  request comes between an ioctl and the second zeroing.
-/

namespace Ancora.LocEng

open Machine History

variable {α : Type} {s s' : EngState α} {a : EngAct α}

/-- What happens to aiding data. -/
inductive AidingEvent
  /-- `loc_eng_delete_aiding_data` recorded a request. -/
  | request
  /-- The ioctl was issued while the engine had the status. -/
  | ioctl (type : AssistDataType) (engineStatus : GpsStatusValue)
  deriving DecidableEq, Repr

/-- The request an action records. -/
def aidingRequest (s : EngState α) : EngAct α → List AidingEvent
  | .deleteAidingData f => if f ≠ 0 ∧ s.data.locEngInited = true then [.request] else []
  | _ => []

/-- The ioctl an effect is. -/
def aidingIoctl (status : GpsStatusValue) : Effect α → Option AidingEvent
  | .deleteAssistData type => some (.ioctl type status)
  | _ => none

/-- The requests and ioctls of a step. -/
def aidingSeen (s : EngState α) (a : EngAct α) (s' : EngState α) : List AidingEvent :=
  aidingRequest s a ++ (newEffects s s').filterMap (aidingIoctl s.data.engineStatus)

/-! ## What a step adds -/

/-- Only the thread issues the ioctl, in the piece that deletes. -/
theorem aidingSeen_call (h : EngStep s a s') (ha : ∀ rc mute, a ≠ .micro rc mute) :
    aidingSeen s a s' = aidingRequest s a := by
  have hnil : (newEffects s s').filterMap (aidingIoctl s.data.engineStatus) = [] := by
    refine h.filterMap_newEffects ha fun e he => ?_
    cases e <;> first | rfl | simp [Effect.ofCall] at he
  rw [aidingSeen, hnil, List.append_nil]

theorem aidingSeen_micro {rc : Int} {mute : Bool} {m : Micro α} {t : ThreadPc α}
    (hm : m ≠ .deleteAidingDataAction) :
    aidingSeen s (.micro rc mute) { s with data := m.run rc mute s.data, thread := t } = [] := by
  refine filterMap_newEffects_micro fun e he => ?_
  cases e with
  | deleteAssistData type => cases m <;> first | exact absurd rfl hm | simp [Micro.emits] at he
  | _ => rfl

theorem aidingSeen_delete {rc : Int} {mute : Bool} {t : ThreadPc α} :
    aidingSeen s (.micro rc mute)
        { s with data := Micro.deleteAidingDataAction.run rc mute s.data, thread := t } =
      [.ioctl (if s.data.aidingDataForDeletion = gpsDeleteAll then .all
        else .mask s.data.aidingDataForDeletion) s.data.engineStatus] := by
  have hlog : newEffects s
      { s with data := Micro.deleteAidingDataAction.run rc mute s.data, thread := t } =
        [.deleteAssistData (if s.data.aidingDataForDeletion = gpsDeleteAll then .all
          else .mask s.data.aidingDataForDeletion)] := newEffects_eq rfl
  rw [aidingSeen, hlog]
  rfl

/-! ## The engine is off -/

/-- The report turns the engine on. -/
def StatusReport.turnsOn (r : StatusReport) : Bool :=
  match r.event with
  | .engineState => r.engineState = .on
  | .fixSessionState => r.fixSessionState = .begin
  | .other => false

theorem reportChangedStatus_ne_on {r : StatusReport} {d : LocEngData α} (hr : r.turnsOn = false)
    (h : d.engineStatus ≠ .engineOn) : (reportChangedStatus r d).engineStatus ≠ .engineOn := by
  simp only [reportChangedStatus, reportIfChanged_engineStatus, updateStatus]
  unfold StatusReport.turnsOn at hr
  cases hev : r.event with
  | engineState =>
    have hne : r.engineState ≠ .on := by simpa [hev] using hr
    simp [hne]
  | fixSessionState =>
    have hne : r.fixSessionState ≠ .begin := by simpa [hev] using hr
    simpa [hne] using h
  | other => exact h

/-- The condition on a step: if the thread is about to copy a request with the
engine not on, the event it copies is not a report that turns the engine on. -/
def eventKeepsOff (s : EngState α) : EngAct α → Prop
  | .top | .wake =>
    s.data.engineStatus ≠ .engineOn → s.data.aidingDataForDeletion ≠ 0 →
      s.data.locEvent.has eventStatusReport = true →
        s.data.locEventPayload.statusReport.turnsOn = false
  | _ => True

instance (s : EngState α) : (a : EngAct α) → Decidable (eventKeepsOff s a)
  | .top | .wake => inferInstanceAs (Decidable (_ → _ → _ → _))
  | .locEventCb _ _ _ | .deleteAidingData _ | .dataConn _ | .xtraStore _ | .xtraSignal | .agpsInit
  | .xtraInit | .start _ | .stopCheck | .stopDefer | .stopNow _ | .deinit _ | .quit
  | .micro _ _ | .loop => .isTrue trivial

/-- A pass that will delete has the engine off, and will not turn it on. -/
def DeletesOff (s : EngState α) : Prop :=
  ∀ todo, s.thread = .running todo → .deleteAidingDataAction ∈ todo →
    s.data.engineStatus ≠ .engineOn ∧ ∀ r, .reportChangedStatus r ∈ todo → r.turnsOn = false

theorem deleteAiding_mem_iteration {l : Locals α} (h : .deleteAidingDataAction ∈ iteration l) :
    l.engineStatus ≠ .engineOn ∧ l.aidingDataForDeletion ≠ 0 := by
  simpa [mem_iteration_iff, mem_locEngProcessLocEvent_iff] using h

theorem reportChangedStatus_mem_iteration {l : Locals α} {r : StatusReport}
    (h : .reportChangedStatus r ∈ iteration l) :
    l.locEvent ≠ 0 ∧ l.locEvent.has eventStatusReport = true ∧
      r = l.locEventPayload.statusReport := by
  simpa [mem_iteration_iff, mem_locEngProcessLocEvent_iff] using h

/-- The copy is where the two statuses meet. -/
theorem DeletesOff.quitOrCopy {d : LocEngData α}
    (hok : d.engineStatus ≠ .engineOn → d.aidingDataForDeletion ≠ 0 →
      d.locEvent.has eventStatusReport = true → d.locEventPayload.statusReport.turnsOn = false) :
    DeletesOff (quitOrCopy s d) := by
  unfold LocEng.quitOrCopy
  by_cases hq : d.deferredActionFlags.quit = true
  · rw [if_pos hq]
    exact nofun
  · rw [if_neg hq]
    rintro todo ⟨⟩ hdel
    obtain ⟨hoff, haid⟩ := deleteAiding_mem_iteration hdel
    refine ⟨hoff, fun r hr => ?_⟩
    obtain ⟨-, hbit, rfl⟩ := reportChangedStatus_mem_iteration hr
    exact hok hoff haid hbit

theorem DeletesOff.step (hok : eventKeepsOff s a) (h : EngStep s a s') (hi : DeletesOff s) :
    DeletesOff s' := by
  by_cases hc : a.isCall = true
  · have he := h.engineStatus_eq fun rc mute heq => by rw [heq] at hc; cases hc
    intro todo ht
    rw [h.call_thread hc] at ht
    rw [he]
    exact hi todo ht
  cases h with
  | topWait _ _ => exact nofun
  | topCopy _ _ => exact .quitOrCopy hok
  | wake _ => exact .quitOrCopy hok
  | @micro rc mute m todo ht _ =>
    rintro todo' ⟨⟩ hdel
    obtain ⟨hoff, hreps⟩ := hi _ ht (List.mem_cons_of_mem _ hdel)
    refine ⟨?_, fun r hr => hreps r (List.mem_cons_of_mem _ hr)⟩
    by_cases hrep : ∃ r, m = .reportChangedStatus r
    · obtain ⟨r, rfl⟩ := hrep
      exact reportChangedStatus_ne_on (hreps r List.mem_cons_self) hoff
    · exact (Micro.run_engineStatus rc mute s.data fun r hr => hrep ⟨r, hr⟩).symm ▸ hoff
  | loop _ => exact nofun
  | _ => exact absurd rfl hc

/-- No ioctl was issued with the engine on. -/
def OnlyOff (hist : List AidingEvent) : Prop :=
  ∀ type status, .ioctl type status ∈ hist → status ≠ .engineOn

theorem OnlyOff.step (h : EngStep s a s') (hi : DeletesOff s) {hist : List AidingEvent}
    (hh : OnlyOff hist) : OnlyOff (hist ++ aidingSeen s a s') := by
  intro type status hmem
  rcases List.mem_append.mp hmem with hmem | hmem
  · exact hh type status hmem
  · by_cases hm : ∃ rc mute, a = .micro rc mute
    · obtain ⟨rc, mute, rfl⟩ := hm
      cases h with
      | @micro rc mute m todo ht _ =>
        by_cases hdel : m = .deleteAidingDataAction
        · subst hdel
          rw [aidingSeen_delete, List.mem_singleton] at hmem
          cases hmem
          exact (hi _ ht List.mem_cons_self).1
        · rw [aidingSeen_micro hdel] at hmem
          cases hmem
    · rw [aidingSeen_call h fun rc mute heq => hm ⟨rc, mute, heq⟩] at hmem
      cases a <;> simp [aidingRequest] at hmem

/-- **Aiding data is deleted with the engine off.** In every run that keeps to
`eventKeepsOff`, the `DELETE_ASSIST_DATA` ioctl is never issued while
`engine_status` is ENGINE_ON. -/
theorem aiding_deleted_engine_off [Inhabited α] (cb : GpsCallbacks) (handle : Int)
    {as : List (EngAct α)} {s : EngState α} {hist : List AidingEvent}
    (h : exec (restrict (fun p a => eventKeepsOff p.1 a) (observe aidingSeen engStep))
      (engInit α cb handle, []) as = some (s, hist)) : OnlyOff hist := by
  have hstep : ∀ (s : EngState α) (h : List AidingEvent) a s', eventKeepsOff s a →
      engStep s a = some s' → DeletesOff s ∧ OnlyOff h →
      DeletesOff s' ∧ OnlyOff (h ++ aidingSeen s a s') := fun s h a s' hok hst hi =>
    ⟨hi.1.step hok (engStep_cases hst), hi.2.step (engStep_cases hst) hi.1⟩
  have hinit : DeletesOff (engInit α cb handle) ∧ OnlyOff [] := ⟨nofun, nofun⟩
  exact (observe_invariant hstep hinit h).2

/-- A status report as an event. -/
def statusPayload (r : StatusReport) : EventPayload Unit :=
  { (default : EventPayload Unit) with statusReport := r }

/-- A request with the engine off, served in the next pass. -/
def requestThenPass : List (EngAct Unit) := [.deleteAidingData 1, .top, .micro 0 false]

theorem aiding_deleted_engine_off_request_then_pass :
    ∃ s hist, exec (restrict (fun p a => eventKeepsOff p.1 a) (observe aidingSeen engStep))
        (engInit Unit ⟨true, true⟩ 1, []) requestThenPass = some (s, hist) ∧
      hist = [.request, .ioctl .all .none] ∧ OnlyOff hist := by
  have hrun : (exec (restrict (fun p a => eventKeepsOff p.1 a) (observe aidingSeen engStep))
      (engInit Unit ⟨true, true⟩ 1, []) requestThenPass).any
        (fun p => p.2 = [.request, .ioctl .all .none]) = true := by decide
  obtain ⟨⟨s, hist⟩, hs, h⟩ := (Option.any_eq_true _ _).mp hrun
  exact ⟨s, hist, hs, by simpa using h, aiding_deleted_engine_off ⟨true, true⟩ 1 hs⟩

/-- A request and a report that turns the engine on, both before the thread makes
its copy. -/
def requestAndReport : List (EngAct Unit) :=
  [EngAct.deleteAidingData 1, .locEventCb 1 eventStatusReport (statusPayload (engineReport .on)),
    .top] ++ List.replicate 7 (EngAct.micro 0 false)

/-- The copied status is off, the live one is on by the time of the ioctl. -/
theorem aiding_deleted_engine_on :
    ∃ s hist, exec (observe aidingSeen engStep) (engInit Unit ⟨true, true⟩ 1, [])
        requestAndReport = some (s, hist) ∧ ¬ OnlyOff hist := by
  have hrun : (exec (observe aidingSeen engStep) (engInit Unit ⟨true, true⟩ 1, [])
      requestAndReport).any (fun p => p.2 = [.request, .ioctl .all .engineOn]) = true := by decide
  obtain ⟨⟨s, hist⟩, hs, h⟩ := (Option.any_eq_true _ _).mp hrun
  refine ⟨s, hist, hs, fun hoff => ?_⟩
  obtain rfl : hist = [.request, .ioctl .all .engineOn] := by simpa using h
  exact hoff .all .engineOn (by simp) rfl

/-! ## No request is lost -/

def AidingEvent.isRequest : AidingEvent → Bool
  | .request => true
  | .ioctl _ _ => false

/-- The ioctl deletes everything. -/
def AidingEvent.deletesAll : AidingEvent → Bool
  | .ioctl .all _ => true
  | .ioctl (.mask _) _ => false
  | .request => false

/-- Each request is followed by an ioctl that deletes everything. -/
def RequestsServed (hist : List AidingEvent) : Prop :=
  ∀ pre post, hist = pre ++ .request :: post → ∃ e ∈ post, e.deletesAll = true

/-- A request has not been followed by such an ioctl yet. -/
def requestDue (hist : List AidingEvent) : Bool :=
  due AidingEvent.isRequest AidingEvent.deletesAll hist

/-- The piece that issues the ioctl. -/
def Micro.deletes : Micro α → Bool
  | .deleteAidingDataAction => true
  | _ => false

/-- The piece that zeroes the request after the ioctl. -/
def Micro.clears : Micro α → Bool
  | .clearAidingData => true
  | _ => false

/-- The thread has issued the ioctl and has yet to zero the request again. -/
def ThreadPc.inIoctl (t : ThreadPc α) : Bool := t.ahead Micro.clears && !t.ahead Micro.deletes

/-- The condition on a step: a request does not come between the ioctl and the
second zeroing. -/
def requestOutsideIoctl (s : EngState α) : EngAct α → Prop
  | .deleteAidingData f => f ≠ 0 → s.data.locEngInited = true → s.thread.inIoctl = false
  | _ => True

instance (s : EngState α) : (a : EngAct α) → Decidable (requestOutsideIoctl s a)
  | .deleteAidingData _ => inferInstanceAs (Decidable (_ → _ → _))
  | .locEventCb _ _ _ | .dataConn _ | .xtraStore _ | .xtraSignal | .agpsInit | .xtraInit
  | .start _ | .stopCheck | .stopDefer | .stopNow _ | .deinit _ | .quit | .top | .wake
  | .micro _ _ | .loop => .isTrue trivial

/-- The pieces that see to a recorded request: the one that deletes, and the end
of a status report, which raises the flag. -/
def Micro.seesToAiding : Micro α → Bool
  | .deleteAidingDataAction => true
  | .reportStatusWake => true
  | _ => false

/-- A request that is due is still recorded; a recorded request waits for the
engine to go off, or has a flag or a piece that sees to it; and between the ioctl
and the second zeroing there is none. -/
structure AidingInv (s : EngState α) (hist : List AidingEvent) : Prop where
  pass : InPass s
  recorded : requestDue hist = true → s.data.aidingDataForDeletion = gpsDeleteAll
  seen : s.data.aidingDataForDeletion ≠ 0 → s.data.engineStatus = .engineOn ∨
    s.data.deferredActionFlags ≠ .zero ∨ s.thread = .done ∨
    s.thread.ahead Micro.seesToAiding = true
  in_ioctl : s.thread.inIoctl = true → s.data.aidingDataForDeletion = 0

/-- A step that leaves the record, the status and the thread alone. -/
theorem AidingInv.raises {hist : List AidingEvent} (hi : AidingInv s hist) (hpass : InPass s')
    (hr : s'.data.deferredActionFlags = s.data.deferredActionFlags ∨
      s'.data.deferredActionFlags ≠ .zero) (ht : s'.thread = s.thread)
    (ha : s'.data.aidingDataForDeletion = s.data.aidingDataForDeletion)
    (he : s'.data.engineStatus = s.data.engineStatus) : AidingInv s' hist := by
  refine ⟨hpass, ha ▸ hi.recorded, ?_, by rw [ht, ha]; exact hi.in_ioctl⟩
  rw [ha, he, ht]
  intro hne
  rcases hr with hf | hf
  · rw [hf]
    exact hi.seen hne
  · exact .inr (.inl hf)

/-- A request is recorded, and either the engine is on or the flag is raised. -/
theorem AidingInv.deleteAidingData {hist : List AidingEvent} (hi : AidingInv s hist)
    (f : BitVec 16) (hok : requestOutsideIoctl s (.deleteAidingData f)) :
    AidingInv { s with data := locEngDeleteAidingData f s.data }
      (hist ++ aidingRequest s (.deleteAidingData f)) := by
  have hst : EngStep s (.deleteAidingData f) { s with data := locEngDeleteAidingData f s.data } :=
    .deleteAidingData f
  have heq : (locEngDeleteAidingData f s.data).engineStatus = s.data.engineStatus :=
    hst.engineStatus_eq fun _ _ => nofun
  by_cases hreq : f ≠ 0 ∧ s.data.locEngInited = true
  · obtain ⟨hf, hin⟩ := hreq
    have hrec : (locEngDeleteAidingData f s.data).aidingDataForDeletion = gpsDeleteAll := by
      simp only [locEngDeleteAidingData, hin, Bool.not_true, Bool.false_eq_true, if_false, if_pos hf]
      split <;> rfl
    refine ⟨hi.pass.step hst, fun _ => hrec, fun _ => ?_, fun hio => ?_⟩
    · by_cases hon : s.data.engineStatus = .engineOn
      · exact .inl (heq.trans hon)
      · refine .inr (.inl ?_)
        have hraise : locEngDeleteAidingData f s.data =
            raise (fun f => { f with deleteAiding := true })
              { s.data with aidingDataForDeletion := gpsDeleteAll } := by
          simp only [locEngDeleteAidingData, hin, Bool.not_true, Bool.false_eq_true, if_false,
            if_pos hf]
          exact if_pos ⟨hon, by decide⟩
        show (locEngDeleteAidingData f s.data).deferredActionFlags ≠ .zero
        rw [hraise]
        simp [raise, DeferredFlags.zero]
    · rw [show ThreadPc.inIoctl _ = false from hok hf hin] at hio
      cases hio
  · have hnil : aidingRequest s (.deleteAidingData f) = [] := if_neg hreq
    rw [hnil, List.append_nil]
    refine hi.raises (hi.pass.step hst) (hst.call_flags rfl) rfl ?_ heq
    show (locEngDeleteAidingData f s.data).aidingDataForDeletion = _
    unfold locEngDeleteAidingData
    by_cases hin : s.data.locEngInited = true
    · have hf : ¬ f ≠ 0 := fun hf => hreq ⟨hf, hin⟩
      simp only [hin, Bool.not_true, Bool.false_eq_true, if_false, if_neg hf]
      split <;> rfl
    · rw [if_pos (by simpa using hin)]

/-- A call that records no request. -/
theorem AidingInv.call {hist : List AidingEvent} (hi : AidingInv s hist) (h : EngStep s a s')
    (ha : a.isCall = true) (hreq : ∀ f, a ≠ .deleteAidingData f) :
    AidingInv s' hist := by
  have hx : s'.data.aidingDataForDeletion = s.data.aidingDataForDeletion := by
    have hun := congrArg (·.aidingDataForDeletion) (h.call_untouched ha)
    cases a <;> first | exact hun | exact absurd rfl (hreq _)
  refine hi.raises (hi.pass.step h) (h.call_flags ha) (h.call_thread ha) hx ?_
  exact h.engineStatus_eq fun rc mute heq => by rw [heq] at ha; cases ha

/-- A thread between two passes leaves a recorded request to the flags. -/
theorem AidingInv.idle {hist : List AidingEvent} (hi : AidingInv s hist) {t : ThreadPc α}
    {d : LocEngData α} (hpass : InPass { s with data := d, thread := t })
    (hdone : s.thread ≠ .done) (hah : s.thread.ahead Micro.seesToAiding = false)
    (hio : t.inIoctl = false) (ha : d.aidingDataForDeletion = s.data.aidingDataForDeletion)
    (he : d.engineStatus = s.data.engineStatus)
    (hf : d.deferredActionFlags = s.data.deferredActionFlags) :
    AidingInv { s with data := d, thread := t } hist := by
  refine ⟨hpass, ha ▸ hi.recorded, fun hne => ?_, fun hin => ?_⟩
  · rcases hi.seen (ha ▸ hne) with hon | hflag | hend | hsee
    · exact .inl (he.trans hon)
    · exact .inr (.inl (hf ▸ hflag))
    · exact absurd hend hdone
    · rw [hah] at hsee
      cases hsee
  · rw [hio] at hin
    cases hin

/-- Past the wait, a recorded request is served unless the engine is on. -/
theorem AidingInv.quitOrCopy {hist : List AidingEvent} (hi : AidingInv s hist) {d : LocEngData α}
    (hpass : InPass (quitOrCopy s d))
    (ha : d.aidingDataForDeletion = s.data.aidingDataForDeletion) :
    AidingInv (quitOrCopy s d) hist := by
  unfold LocEng.quitOrCopy at hpass ⊢
  by_cases hq : d.deferredActionFlags.quit = true
  · rw [if_pos hq] at hpass ⊢
    exact ⟨hpass, ha ▸ hi.recorded, fun _ => .inr (.inr (.inl rfl)), nofun⟩
  · rw [if_neg hq] at hpass ⊢
    have hdel (hoff : d.engineStatus ≠ .engineOn) (hne : d.aidingDataForDeletion ≠ 0) :
        .deleteAidingDataAction ∈ iteration (copyLocals d).1 :=
      mem_iteration_iff.mpr (.inr (.inl ⟨⟨hoff, hne⟩, .inl rfl⟩))
    refine ⟨hpass, ha ▸ hi.recorded, fun hne => ?_, fun hio => ?_⟩
    · by_cases hon : d.engineStatus = .engineOn
      · exact .inl hon
      · exact .inr (.inr (.inr (List.any_eq_true.mpr ⟨_, hdel hon hne, rfl⟩)))
    · -- the two pieces of the deletion come together
      obtain ⟨hclear, hno⟩ : (iteration (copyLocals d).1).any Micro.clears = true ∧
          (iteration (copyLocals d).1).any Micro.deletes = false := by
        simpa [ThreadPc.inIoctl, ThreadPc.ahead] using hio
      obtain ⟨m, hm, hmc⟩ := List.any_eq_true.mp hclear
      cases m with
      | clearAidingData =>
        obtain ⟨hoff, hne⟩ : d.engineStatus ≠ .engineOn ∧ d.aidingDataForDeletion ≠ 0 := by
          simpa [mem_iteration_iff, mem_locEngProcessLocEvent_iff, copyLocals] using hm
        have := List.any_eq_false.mp hno _ (hdel hoff hne)
        simp [Micro.deletes] at this
      | _ => simp [Micro.clears] at hmc

/-- The piece that deletes serves whatever is recorded. -/
theorem AidingInv.delete {hist : List AidingEvent} (hi : AidingInv s hist) {rc : Int} {mute : Bool}
    {todo : List (Micro α)}
    (hpass : InPass { s with
      data := Micro.deleteAidingDataAction.run rc mute s.data, thread := .running todo }) :
    AidingInv { s with
        data := Micro.deleteAidingDataAction.run rc mute s.data, thread := .running todo }
      (hist ++ [.ioctl (if s.data.aidingDataForDeletion = gpsDeleteAll then .all
        else .mask s.data.aidingDataForDeletion) s.data.engineStatus]) := by
  refine ⟨hpass, fun hdue => ?_, fun hne => absurd rfl hne, fun _ => rfl⟩
  rw [requestDue, due_snoc] at hdue
  obtain ⟨hold, hnot⟩ : due AidingEvent.isRequest AidingEvent.deletesAll hist = true ∧
      AidingEvent.deletesAll (.ioctl (if s.data.aidingDataForDeletion = gpsDeleteAll then .all
        else .mask s.data.aidingDataForDeletion) s.data.engineStatus) = false := by
    simpa only [AidingEvent.isRequest, Bool.false_or, Bool.and_eq_true, Bool.not_eq_true'] using hdue
  rw [if_pos (hi.recorded hold)] at hnot
  cases hnot

/-- By the second zeroing nothing is recorded. -/
theorem AidingInv.clear {hist : List AidingEvent} (hi : AidingInv s hist) {rc : Int} {mute : Bool}
    {todo : List (Micro α)} (ht : s.thread = .running (.clearAidingData :: todo))
    (hpass : InPass { s with
      data := Micro.clearAidingData.run rc mute s.data, thread := .running todo }) :
    AidingInv { s with data := Micro.clearAidingData.run rc mute s.data, thread := .running todo }
      hist := by
  obtain ⟨l, -, hl⟩ := hi.pass.ahead ht
  have hnodel : todo.any Micro.deletes = false := by
    refine List.any_eq_false.mpr fun m hm hdel => ?_
    have hlt := ((hl m).mp hm).2
    cases m <;> simp [Micro.deletes, Micro.place] at hdel hlt
  have hzero : s.data.aidingDataForDeletion = 0 := by
    refine hi.in_ioctl ?_
    rw [ht]
    simp [ThreadPc.inIoctl, ThreadPc.ahead, Micro.clears, Micro.deletes, hnodel]
  refine ⟨hpass, fun hdue => ?_, fun hne => absurd rfl hne, fun _ => rfl⟩
  have := hi.recorded hdue
  rw [hzero] at this
  cases this

/-- The end of a status report raises the flag if the engine is off. -/
theorem reportStatusWake_sees {d : LocEngData α} (hne : d.aidingDataForDeletion ≠ 0) :
    d.engineStatus = .engineOn ∨ (reportStatusWake d).deferredActionFlags ≠ .zero := by
  by_cases hon : d.engineStatus = .engineOn
  · exact .inl hon
  · refine .inr ?_
    rw [reportStatusWake, if_pos ⟨hon, .inl hne⟩]
    simp [raise, DeferredFlags.zero]

theorem AidingInv.other {hist : List AidingEvent} (hi : AidingInv s hist) {rc : Int} {mute : Bool}
    {m : Micro α} {todo : List (Micro α)} (ht : s.thread = .running (m :: todo))
    (hdel : m ≠ .deleteAidingDataAction) (hclr : m ≠ .clearAidingData)
    (hpass : InPass { s with data := m.run rc mute s.data, thread := .running todo }) :
    AidingInv { s with data := m.run rc mute s.data, thread := .running todo } hist := by
  have ha : (m.run rc mute s.data).aidingDataForDeletion = s.data.aidingDataForDeletion := by
    have h := congrArg (·.aidingDataForDeletion) (m.run_untouched rc mute s.data)
    cases m <;> first | exact h | exact absurd rfl hdel | exact absurd rfl hclr
  have hdels : m.deletes = false := by cases m <;> first | rfl | exact absurd rfl hdel
  refine ⟨hpass, fun hdue => ha.trans (hi.recorded hdue), fun hne => ?_, fun hio => ?_⟩
  · have hrec : s.data.aidingDataForDeletion ≠ 0 := fun hzero => hne (ha.trans hzero)
    by_cases hwake : m = .reportStatusWake
    · subst hwake
      exact (reportStatusWake_sees hrec).imp
        (fun hon => (Micro.run_engineStatus rc mute s.data (m := .reportStatusWake)
          fun _ => nofun).trans hon) .inl
    by_cases hrep : ∃ r, m = .reportChangedStatus r
    · obtain ⟨r, rfl⟩ := hrep
      obtain ⟨l, hmem, hl⟩ := hi.pass.ahead ht
      obtain ⟨hev, hbit, -⟩ := reportChangedStatus_mem_iteration hmem
      have hahead : .reportStatusWake ∈ todo := by
        refine (hl _).mpr ⟨mem_iteration_iff.mpr (.inl ⟨hev, ?_⟩), by simp [Micro.place]⟩
        simp [mem_locEngProcessLocEvent_iff, hbit]
      exact .inr (.inr (.inr (List.any_eq_true.mpr ⟨_, hahead, rfl⟩)))
    · have he := Micro.run_engineStatus rc mute s.data fun r hr => hrep ⟨r, hr⟩
      have hsee : m.seesToAiding = false := by
        cases m <;> first | rfl | exact absurd rfl hdel | exact absurd rfl hwake
      rcases hi.seen hrec with hon | hf | hdone | hah
      · exact .inl (he.trans hon)
      · rcases m.run_raises rc mute s.data with ⟨hkeep, -, -⟩ | ⟨hup, -, -⟩
        · exact .inr (.inl (hkeep ▸ hf))
        · exact .inr (.inl hup)
      · rw [ht] at hdone
        cases hdone
      · rw [ht, ThreadPc.ahead_cons, hsee, Bool.false_or] at hah
        exact .inr (.inr (.inr hah))
  · refine ha.trans (hi.in_ioctl ?_)
    obtain ⟨hcl, hno⟩ := Bool.and_eq_true_iff.mp hio
    rw [ht, ThreadPc.inIoctl, ThreadPc.ahead_cons, ThreadPc.ahead_cons, hdels, Bool.false_or,
      hno, show (ThreadPc.running todo).ahead _ = true from hcl, Bool.or_true]
    rfl

/-- Every permitted step keeps the invariant. -/
theorem AidingInv.step {hist : List AidingEvent} (hok : requestOutsideIoctl s a)
    (h : engStep s a = some s') (hi : AidingInv s hist) :
    AidingInv s' (hist ++ aidingSeen s a s') := by
  have hst := engStep_cases h
  have hpass := hi.pass.step hst
  by_cases hm : ∃ rc mute, a = .micro rc mute
  · obtain ⟨rc, mute, rfl⟩ := hm
    cases hst with
    | @micro rc mute m todo ht _ =>
      by_cases hdel : m = .deleteAidingDataAction
      · subst hdel
        rw [aidingSeen_delete]
        exact hi.delete hpass
      · rw [aidingSeen_micro hdel, List.append_nil]
        by_cases hclr : m = .clearAidingData
        · subst hclr
          exact hi.clear ht hpass
        · exact hi.other ht hdel hclr hpass
  · have hnm : ∀ rc mute, a ≠ .micro rc mute := fun rc mute heq => hm ⟨rc, mute, heq⟩
    rw [aidingSeen_call hst hnm]
    by_cases hreq : ∃ f, a = .deleteAidingData f
    · obtain ⟨f, rfl⟩ := hreq
      cases hst with
      | deleteAidingData f => exact hi.deleteAidingData f hok
    · have hnil : aidingRequest s a = [] := by
        cases a <;> first | rfl | exact absurd ⟨_, rfl⟩ hreq
      rw [hnil, List.append_nil]
      cases hst with
      | topWait ht _ =>
        exact hi.idle hpass (by rw [ht]; exact nofun) (by rw [ht]; rfl) rfl rfl rfl rfl
      | topCopy _ _ => exact hi.quitOrCopy hpass rfl
      | wake _ => exact hi.quitOrCopy hpass rfl
      | loop ht =>
        exact hi.idle hpass (by rw [ht]; exact nofun) (by rw [ht]; rfl) rfl rfl rfl rfl
      | micro rc mute _ _ => exact absurd rfl (hnm rc mute)
      | _ => exact hi.call (engStep_cases h) rfl fun f heq => hreq ⟨f, heq⟩

/-- **No request to delete is lost.** In every run that keeps to
`requestOutsideIoctl`, in every state where the thread waits with no flag and the
engine not on, each request has been followed by an ioctl for all data. -/
theorem aiding_requests_served [Inhabited α] (cb : GpsCallbacks) (handle : Int)
    {as : List (EngAct α)} {s : EngState α} {hist : List AidingEvent}
    (h : exec (restrict (fun p a => requestOutsideIoctl p.1 a) (observe aidingSeen engStep))
      (engInit α cb handle, []) as = some (s, hist))
    (hw : s.thread = .waiting) (hf : s.data.deferredActionFlags = .zero)
    (hoff : s.data.engineStatus ≠ .engineOn) : RequestsServed hist := by
  have hinit : AidingInv (engInit α cb handle) [] := ⟨nofun, nofun, fun hne => absurd rfl hne, nofun⟩
  have hstep : ∀ (s : EngState α) (h : List AidingEvent) a s', requestOutsideIoctl s a →
      engStep s a = some s' → AidingInv s h → AidingInv s' (h ++ aidingSeen s a s') :=
    fun s h a s' hok hst hi => hi.step hok hst
  have hi := observe_invariant hstep hinit h
  have hnot : requestDue hist = false := by
    by_contra hdue
    have hall := hi.recorded (by simpa using hdue)
    have hne : s.data.aidingDataForDeletion ≠ 0 := by
      rw [hall]
      decide
    rcases hi.seen hne with hon | hne | hdone | hah
    · exact hoff hon
    · exact hne hf
    · rw [hw] at hdone
      cases hdone
    · rw [hw] at hah
      cases hah
  exact fun pre post heq => closed_of_not_due hnot heq rfl

/-- A request, the pass that serves it, and the way back to the wait. -/
def requestThenWait : List (EngAct Unit) :=
  requestThenPass ++ [EngAct.micro 0 false, .micro 0 false, .loop, .top]

theorem aiding_requests_served_request_then_wait :
    ∃ s hist, exec (restrict (fun p a => requestOutsideIoctl p.1 a) (observe aidingSeen engStep))
        (engInit Unit ⟨true, true⟩ 1, []) requestThenWait = some (s, hist) ∧
      hist = [.request, .ioctl .all .none] ∧ RequestsServed hist := by
  have hrun : (exec (restrict (fun p a => requestOutsideIoctl p.1 a) (observe aidingSeen engStep))
      (engInit Unit ⟨true, true⟩ 1, []) requestThenWait).any
        (fun p => p.2 = [.request, .ioctl .all .none] ∧ p.1.thread = .waiting ∧
          p.1.data.deferredActionFlags = .zero ∧ p.1.data.engineStatus ≠ .engineOn) = true := by
    decide
  obtain ⟨⟨s, hist⟩, hs, h⟩ := (Option.any_eq_true _ _).mp hrun
  obtain ⟨hhist, hw, hf, hoff⟩ := of_decide_eq_true h
  exact ⟨s, hist, hs, hhist, aiding_requests_served ⟨true, true⟩ 1 hs hw hf hoff⟩

/-- A second request between the ioctl of the first and the second zeroing; the
flag it raised starts a pass that finds nothing to delete. -/
def requestInIoctl : List (EngAct Unit) :=
  requestThenPass ++ [EngAct.deleteAidingData 1, .micro 0 false, .micro 0 false, .loop, .top,
    .micro 0 false, .loop, .top]

/-- The second request is gone. -/
theorem aiding_request_lost :
    ∃ s hist, exec (observe aidingSeen engStep) (engInit Unit ⟨true, true⟩ 1, [])
        requestInIoctl = some (s, hist) ∧ s.thread = .waiting ∧
      s.data.deferredActionFlags = .zero ∧ s.data.engineStatus ≠ .engineOn ∧
      ¬ RequestsServed hist := by
  have hrun : (exec (observe aidingSeen engStep) (engInit Unit ⟨true, true⟩ 1, [])
      requestInIoctl).any (fun p => p.2 = [.request, .ioctl .all .none, .request] ∧
        p.1.thread = .waiting ∧ p.1.data.deferredActionFlags = .zero ∧
        p.1.data.engineStatus ≠ .engineOn) = true := by decide
  obtain ⟨⟨s, hist⟩, hs, h⟩ := (Option.any_eq_true _ _).mp hrun
  obtain ⟨rfl, hw, hf, hoff⟩ := of_decide_eq_true h
  refine ⟨s, _, hs, hw, hf, hoff, fun hserved => ?_⟩
  obtain ⟨e, he, -⟩ := hserved [.request, .ioctl .all .none] [] rfl
  cases he

end Ancora.LocEng
