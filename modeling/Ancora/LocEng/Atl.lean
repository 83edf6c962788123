import Ancora.Lib.Conduit
import Ancora.LocEng.Pieces

/-!
# Server requests

The modem asks for a data connection with a server request, OPEN or CLOSE. The
deferred thread notes it down in `agps_status` (`loc_eng_process_conn_request`)
and tells the framework one pass later, through `agps_status_cb`, after that pass
has cleared the field and may have processed another request.

- `connRequest`: the request that a step processes.
- `ThreadPc.todo`: what the pieces still to run will do, of one kind.
- **`server_requests_reported`**: every request reaches the framework, in order.
-/

namespace Ancora.LocEng

open Machine

variable {α : Type} {s s' : EngState α} {a : EngAct α}

/-! ## Processing a request -/

/-- What the framework is told of a request (loc_eng.cpp:1356, 1362). -/
def ServerRequest.status (r : ServerRequest) : AGpsStatusValue :=
  if r.event = .open then .requestAgpsDataConn else .releaseAgpsDataConn

/-- The handle of a request (loc_eng.cpp:1357, 1363). -/
def ServerRequest.connHandle (r : ServerRequest) : BitVec 32 :=
  if r.event = .open then r.openConnHandle else r.closeConnHandle

/-- A connection request keeps its data for later and raises a flag. -/
theorem locEngProcessConnRequest_eq (r : ServerRequest) (d : LocEngData α) :
    locEngProcessConnRequest r d =
      raise (fun f => { f with agpsStatus := true })
        { d with
          agpsStatus := some r.status
          connHandle := r.connHandle
          agpsRequestPending := decide (r.event = .open) } := by
  unfold locEngProcessConnRequest ServerRequest.status ServerRequest.connHandle
  by_cases h : r.event = .open
  · simp [h]
  · simp [h]

/-- The request the thread is about to process. -/
def ThreadPc.connRequest : ThreadPc α → Option ServerRequest
  | .running (.processConnRequest r :: _) => some r
  | _ => none

/-- The request a step processes. -/
def connRequest (s : EngState α) : EngAct α → Option ServerRequest
  | .micro _ _ => s.thread.connRequest
  | _ => none

/-- Only the thread handles connection requests. -/
theorem connRequest_call (ha : ∀ rc mute, a ≠ .micro rc mute) : connRequest s a = none := by
  cases a <;> first | rfl | exact absurd rfl (ha _ _)

/-- It does so in one piece of its pass. -/
theorem connRequest_micro {rc : Int} {mute : Bool} {m : Micro α} {todo : List (Micro α)}
    (ht : s.thread = .running (m :: todo)) (hm : ∀ r, m ≠ .processConnRequest r) :
    connRequest s (.micro rc mute) = none := by
  show s.thread.connRequest = none
  rw [ht]
  cases m <;> first | rfl | exact absurd rfl (hm _)

theorem connRequest_process {rc : Int} {mute : Bool} {r : ServerRequest} {todo : List (Micro α)}
    (ht : s.thread = .running (.processConnRequest r :: todo)) :
    connRequest s (.micro rc mute) = some r := by
  show s.thread.connRequest = some r
  rw [ht]
  rfl

/-- A pass processes one request at most. -/
theorem InPass.connRequest_once (hi : InPass s) {r r' : ServerRequest} {todo : List (Micro α)}
    (ht : s.thread = .running (.processConnRequest r :: todo)) :
    .processConnRequest r' ∉ todo := by
  intro hmem
  obtain ⟨l, -, hl⟩ := hi.ahead ht
  have hlt := ((hl _).mp hmem).2
  simp [Micro.place] at hlt

/-- What the pieces still to run will do, of one kind. -/
def ThreadPc.todo {β : Type} (f : Micro α → Option β) : ThreadPc α → List β
  | .running todo => todo.filterMap f
  | .top => []
  | .waiting => []
  | .done => []

/-- A piece that is not counted may be left out. -/
theorem ThreadPc.todo_step {β : Type} {f : Micro α → Option β} {m : Micro α}
    {todo : List (Micro α)} (hm : f m = none) :
    (ThreadPc.running (m :: todo)).todo f = (ThreadPc.running todo).todo f :=
  List.filterMap_cons_none hm

theorem filterMap_ite_nil {β γ : Type} {c : Prop} [Decidable c] {f : β → Option γ} {xs : List β}
    (h : xs.filterMap f = []) : (if c then xs else []).filterMap f = [] := by
  by_cases hc : c
  · rw [if_pos hc, h]
  · rw [if_neg hc, List.filterMap_nil]

/-! ## Requests reach the framework -/

/-- What happens between the modem's requests and the framework. -/
inductive AgpsEvent
  /-- `loc_eng_process_conn_request` ran. -/
  | request (r : ServerRequest)
  /-- `agps_status_cb` was called. -/
  | report (status : AGpsStatusValue)
  deriving DecidableEq, Repr

/-- The report an effect is. -/
def agpsReport : Effect α → Option AgpsEvent
  | .agpsStatusCb status => some (.report status)
  | _ => none

/-- The requests and reports of a step. -/
def agpsSeen (s : EngState α) (a : EngAct α) (s' : EngState α) : List AgpsEvent :=
  (connRequest s a).toList.map .request ++ (newEffects s s').filterMap agpsReport

/-- What the framework should be told. -/
def asked (hist : List AgpsEvent) : List AGpsStatusValue :=
  hist.filterMap fun
    | .request r => some r.status
    | .report _ => none

/-- What the framework was told. -/
def reported (hist : List AgpsEvent) : List AGpsStatusValue :=
  hist.filterMap fun
    | .request _ => none
    | .report status => some status

@[simp] theorem asked_append (h₁ h₂ : List AgpsEvent) : asked (h₁ ++ h₂) = asked h₁ ++ asked h₂ :=
  List.filterMap_append

@[simp] theorem reported_append (h₁ h₂ : List AgpsEvent) :
    reported (h₁ ++ h₂) = reported h₁ ++ reported h₂ := List.filterMap_append

/-- A call neither handles a request nor reports one. -/
theorem agpsSeen_call (h : EngStep s a s') (ha : ∀ rc mute, a ≠ .micro rc mute) :
    agpsSeen s a s' = [] := by
  have hnil : (newEffects s s').filterMap agpsReport = [] := by
    refine h.filterMap_newEffects ha fun e he => ?_
    cases e <;> first | rfl | simp [Effect.ofCall] at he
  rw [agpsSeen, connRequest_call ha, hnil]
  rfl

/-- Only the piece for it reports. -/
theorem agpsReport_micro {rc : Int} {mute : Bool} {m : Micro α} {t : ThreadPc α}
    (hm : ∀ status, m ≠ .processAtlAction status) :
    (newEffects s { s with data := m.run rc mute s.data, thread := t }).filterMap agpsReport =
      [] := by
  refine filterMap_newEffects_micro fun e he => ?_
  cases e with
  | agpsStatusCb status =>
    cases m <;> first | exact absurd rfl (hm _) | simp [Micro.emits] at he
  | _ => rfl

/-- The report a piece makes. -/
def Micro.atlAction : Micro α → Option AGpsStatusValue
  | .processAtlAction status => some status
  | _ => none

/-- A pass reports the status copied at its start. -/
theorem atlAction_iteration (l : Locals α) :
    (iteration l).filterMap Micro.atlAction = l.status.toList := by
  have hevent : (locEngProcessLocEvent l.locEvent l.locEventPayload).filterMap Micro.atlAction =
      [] := by
    refine List.filterMap_eq_nil_iff.mpr fun m hm => ?_
    cases m <;> first | rfl | simp [mem_locEngProcessLocEvent_iff] at hm
  rw [iteration, List.filterMap_append, List.filterMap_append, List.filterMap_append,
    List.filterMap_append, filterMap_ite_nil hevent, filterMap_ite_nil rfl, filterMap_ite_nil rfl]
  cases l.status <;> rfl

def Micro.isConnRequest : Micro α → Bool
  | .processConnRequest _ => true
  | _ => false

/-- Requests are on their way in the piece that reports, then in `agps_status`;
the latter is empty when the next request is processed, and never left behind
without a flag. -/
structure AgpsInv (s : EngState α) (hist : List AgpsEvent) : Prop where
  pass : InPass s
  cb : s.data.agpsStatusCb = true
  conduit : Conduit (asked hist) (reported hist)
    (s.thread.todo Micro.atlAction ++ s.data.agpsStatus.toList)
  clear : s.thread.ahead Micro.isConnRequest = true → s.data.agpsStatus = none
  flagged : s.data.agpsStatus ≠ none → s.data.deferredActionFlags ≠ .zero
  asleep : s.thread = .waiting → s.data.agpsStatus = none

/-- A call keeps what is to be reported. -/
theorem AgpsInv.call {hist : List AgpsEvent} (hi : AgpsInv s hist) (h : EngStep s a s')
    (ha : a.isCall = true) : AgpsInv s' hist := by
  have hst : s'.data.agpsStatus = s.data.agpsStatus := by
    have hun := congrArg (·.agpsStatus) (h.call_untouched ha)
    cases a <;> exact hun
  have hcb : s'.data.agpsStatusCb = true := by
    have hun := congrArg (·.agpsStatusCb) (h.call_untouched ha)
    by_cases hinit : a = .agpsInit
    · subst hinit
      cases h with
      | agpsInit => rfl
    · cases a <;> first | exact Eq.trans hun hi.cb | exact absurd rfl hinit
  have ht := h.call_thread ha
  refine ⟨hi.pass.step h, hcb, ?_, ?_, ?_, ?_⟩
  · rw [ht, hst]
    exact hi.conduit
  · rw [ht, hst]
    exact hi.clear
  · intro hne
    rcases h.call_flags ha with hf | hf
    · rw [hf]
      exact hi.flagged (hst ▸ hne)
    · exact hf
  · rw [ht, hst]
    exact hi.asleep

/-- The copy moves what is in `agps_status` into the pass. -/
theorem AgpsInv.quitOrCopy {hist : List AgpsEvent} (hi : AgpsInv s hist) {d : LocEngData α}
    (hpass : InPass (quitOrCopy s d)) (ht : s.thread.todo Micro.atlAction = [])
    (hcb : d.agpsStatusCb = s.data.agpsStatusCb) (hst : d.agpsStatus = s.data.agpsStatus) :
    AgpsInv (quitOrCopy s d) hist := by
  have hc : Conduit (asked hist) (reported hist) d.agpsStatus.toList := by
    have := hi.conduit
    rwa [ht, List.nil_append, ← hst] at this
  unfold LocEng.quitOrCopy at hpass ⊢
  by_cases hq : d.deferredActionFlags.quit = true
  · rw [if_pos hq] at hpass ⊢
    refine ⟨hpass, hcb.trans hi.cb, hc, nofun, fun _ hzero => ?_, nofun⟩
    have hzero : d.deferredActionFlags = .zero := hzero
    rw [hzero] at hq
    cases hq
  · rw [if_neg hq] at hpass ⊢
    refine ⟨hpass, hcb.trans hi.cb, ?_, fun _ => rfl, fun hne => absurd rfl hne, nofun⟩
    show Conduit _ _ ((iteration (copyLocals d).1).filterMap Micro.atlAction ++ [])
    rw [atlAction_iteration, List.append_nil]
    exact hc

/-- A request is put behind the one that the same pass reports. -/
theorem AgpsInv.request {hist : List AgpsEvent} (hi : AgpsInv s hist) {rc : Int} {mute : Bool}
    {r : ServerRequest} {todo : List (Micro α)}
    (ht : s.thread = .running (.processConnRequest r :: todo))
    (hpass : InPass { s with
      data := (Micro.processConnRequest r).run rc mute s.data, thread := .running todo }) :
    AgpsInv { s with
        data := (Micro.processConnRequest r).run rc mute s.data, thread := .running todo }
      (hist ++ [.request r]) := by
  have hnone : s.data.agpsStatus = none := by
    refine hi.clear ?_
    rw [ht]
    rfl
  have hrun : (Micro.processConnRequest r).run rc mute s.data =
      locEngProcessConnRequest r s.data := rfl
  rw [hrun, locEngProcessConnRequest_eq] at hpass ⊢
  refine ⟨hpass, hi.cb, ?_, fun hah => ?_, fun _ => by simp [raise, DeferredFlags.zero], nofun⟩
  · have hc := hi.conduit
    rw [ht, hnone, ThreadPc.todo_step rfl, Option.toList_none, List.append_nil] at hc
    rw [asked_append, reported_append]
    show Conduit (asked hist ++ [r.status]) (reported hist ++ [])
      ((ThreadPc.running todo).todo Micro.atlAction ++ [r.status])
    rw [List.append_nil]
    exact hc.put r.status
  · obtain ⟨m, hm, hreq⟩ := List.any_eq_true.mp hah
    cases m with
    | processConnRequest r' => exact absurd hm (hi.pass.connRequest_once ht)
    | _ => simp [Micro.isConnRequest] at hreq

/-- The end of a pass reports the request it copied. -/
theorem AgpsInv.report {hist : List AgpsEvent} (hi : AgpsInv s hist) {rc : Int} {mute : Bool}
    {status : AGpsStatusValue} {todo : List (Micro α)}
    (ht : s.thread = .running (.processAtlAction status :: todo))
    (hpass : InPass { s with
      data := (Micro.processAtlAction status).run rc mute s.data, thread := .running todo }) :
    AgpsInv { s with
        data := (Micro.processAtlAction status).run rc mute s.data, thread := .running todo }
      (hist ++ [.report status]) := by
  have hrun : (Micro.processAtlAction status).run rc mute s.data =
      s.data.emit (.agpsStatusCb status) := if_pos hi.cb
  rw [hrun] at hpass ⊢
  refine ⟨hpass, hi.cb, ?_, fun hah => hi.clear ?_, hi.flagged, nofun⟩
  · have hc := hi.conduit
    rw [ht] at hc
    rw [asked_append, reported_append]
    show Conduit (asked hist ++ []) (reported hist ++ [status]) _
    rw [List.append_nil]
    exact Conduit.take hc
  · rw [ht]
    exact hah

/-- So does a piece that has nothing to do with it. -/
theorem AgpsInv.other {hist : List AgpsEvent} (hi : AgpsInv s hist) {rc : Int} {mute : Bool}
    {m : Micro α} {todo : List (Micro α)} (ht : s.thread = .running (m :: todo))
    (hreq : ∀ r, m ≠ .processConnRequest r) (hatl : ∀ status, m ≠ .processAtlAction status)
    (hpass : InPass { s with data := m.run rc mute s.data, thread := .running todo }) :
    AgpsInv { s with data := m.run rc mute s.data, thread := .running todo } hist := by
  have hst : (m.run rc mute s.data).agpsStatus = s.data.agpsStatus := by
    have h := congrArg (·.agpsStatus) (m.run_untouched rc mute s.data)
    cases m <;> first | exact h | exact absurd rfl (hreq _)
  have hcb : (m.run rc mute s.data).agpsStatusCb = s.data.agpsStatusCb := by
    have h := congrArg (·.agpsStatusCb) (m.run_untouched rc mute s.data)
    cases m <;> exact h
  have hm : m.atlAction = none := by
    cases m <;> first | rfl | exact absurd rfl (hatl _)
  refine ⟨hpass, hcb.trans hi.cb, ?_, fun hah => ?_, fun hne => ?_, nofun⟩
  · have hc := hi.conduit
    rw [ht, ThreadPc.todo_step hm] at hc
    rw [hst]
    exact hc
  · rw [hst]
    refine hi.clear ?_
    rw [ht, ThreadPc.ahead_cons, show (ThreadPc.running todo).ahead _ = true from hah, Bool.or_true]
  · rcases m.run_raises rc mute s.data with ⟨hf, -, -⟩ | ⟨hf, -, -⟩
    · rw [hf]
      exact hi.flagged (hst ▸ hne)
    · exact hf

/-- Every step keeps the requests and the reports in step. -/
theorem AgpsInv.step {hist : List AgpsEvent} (h : engStep s a = some s') (hi : AgpsInv s hist) :
    AgpsInv s' (hist ++ agpsSeen s a s') := by
  have hst := engStep_cases h
  have hpass := hi.pass.step hst
  by_cases hm : ∃ rc mute, a = .micro rc mute
  · obtain ⟨rc, mute, rfl⟩ := hm
    cases hst with
    | @micro rc mute m todo ht _ =>
      by_cases hreq : ∃ r, m = .processConnRequest r
      · obtain ⟨r, rfl⟩ := hreq
        rw [agpsSeen, connRequest_process ht,
          agpsReport_micro (m := .processConnRequest r) fun _ => nofun]
        exact hi.request ht hpass
      have hreq : ∀ r, m ≠ .processConnRequest r := fun r heq => hreq ⟨r, heq⟩
      rw [agpsSeen, connRequest_micro ht hreq]
      by_cases hatl : ∃ status, m = .processAtlAction status
      · obtain ⟨status, rfl⟩ := hatl
        have hlog : newEffects s { s with
            data := (Micro.processAtlAction status).run rc mute s.data, thread := .running todo } =
              [.agpsStatusCb status] := newEffects_eq (by
          show (locEngProcessAtlAction status s.data).log = _
          rw [locEngProcessAtlAction, if_pos hi.cb]
          rfl)
        rw [hlog]
        exact hi.report ht hpass
      · rw [agpsReport_micro fun status heq => hatl ⟨status, heq⟩]
        rw [Option.toList_none, List.map_nil, List.append_nil, List.append_nil]
        exact hi.other ht hreq (fun status heq => hatl ⟨status, heq⟩) hpass
  · have hnm : ∀ rc mute, a ≠ .micro rc mute := fun rc mute heq => hm ⟨rc, mute, heq⟩
    rw [agpsSeen_call hst hnm, List.append_nil]
    cases hst with
    | topWait ht hf =>
      have hnone : s.data.agpsStatus = none := by
        by_contra hne
        exact hi.flagged hne hf
      refine ⟨hpass, hi.cb, ?_, nofun, hi.flagged, fun _ => hnone⟩
      have hc := hi.conduit
      rw [ht] at hc
      exact hc
    | topCopy ht _ => exact hi.quitOrCopy hpass (by rw [ht]; rfl) rfl rfl
    | wake ht => exact hi.quitOrCopy hpass (by rw [ht]; rfl) rfl rfl
    | micro rc mute _ _ => exact absurd rfl (hnm rc mute)
    | loop ht =>
      refine ⟨hpass, hi.cb, ?_, nofun, hi.flagged, nofun⟩
      have hc := hi.conduit
      rw [ht] at hc
      exact hc
    | _ => exact hi.call (engStep_cases h) rfl

/-- `agps_status_cb` is registered once `loc_eng_init` has returned. -/
def engAgpsInit (α : Type) [Inhabited α] (cb : GpsCallbacks) (handle : Int) : EngState α :=
  { engInit α cb handle with data := { (engInit α cb handle).data with agpsStatusCb := true } }

/-- **Every server request reaches the framework.** In every run with
`agps_status_cb` registered, the framework is told of the requests one by one and
in order; at the top of the loop at most the last one is missing, and none when
the thread waits with no flag. -/
theorem server_requests_reported [Inhabited α] (cb : GpsCallbacks) (handle : Int)
    {as : List (EngAct α)} {s : EngState α} {hist : List AgpsEvent}
    (h : exec (observe agpsSeen engStep) (engAgpsInit α cb handle, []) as = some (s, hist)) :
    reported hist <+: asked hist ∧
      (s.thread = .top → ∃ last : Option AGpsStatusValue,
        asked hist = reported hist ++ last.toList) ∧
      (s.thread = .waiting → s.data.deferredActionFlags = .zero →
        reported hist = asked hist) := by
  have hinit : AgpsInv (engAgpsInit α cb handle) [] :=
    ⟨nofun, rfl, .nil, nofun, fun hne => absurd rfl hne, nofun⟩
  have hstep : ∀ (s : EngState α) (h : List AgpsEvent) a s', engStep s a = some s' →
      AgpsInv s h → AgpsInv s' (h ++ agpsSeen s a s') := fun s h a s' hst hi => hi.step hst
  have hi := exec_observe_invariant hstep hinit h
  refine ⟨hi.conduit.delivered_prefix, fun ht => ⟨s.data.agpsStatus, ?_⟩, fun ht _ => ?_⟩
  · have hc := hi.conduit
    rw [ht] at hc
    exact hc
  · have hc := hi.conduit
    rw [hi.asleep ht, ht] at hc
    exact hc.delivered_eq

/-- A server request as an event. -/
def serverEvent (r : ServerRequest) : EngAct Unit :=
  .locEventCb 1 locationServerRequest
    { (default : EventPayload Unit) with locServerRequest := r }

def openOf (h : BitVec 32) : ServerRequest := ⟨.open, h, 0⟩

def closeOf (h : BitVec 32) : ServerRequest := ⟨.close, 0, h⟩

/-- The thread processes a server request: five pieces and the way back. -/
def requestPass (r : ServerRequest) : List (EngAct Unit) :=
  [serverEvent r, .top] ++ List.replicate 5 (EngAct.micro 0 false) ++ [EngAct.loop]

/-- The pass that tells the framework of it. -/
def reportPass : List (EngAct Unit) := [.top, .micro 0 false, .micro 0 false, .loop]

theorem server_requests_reported_open_close :
    ∃ s hist, exec (observe agpsSeen engStep) (engAgpsInit Unit ⟨true, true⟩ 1, [])
        (requestPass (openOf 7) ++ reportPass ++ requestPass (closeOf 7) ++ reportPass ++
          [.top]) = some (s, hist) ∧
      asked hist = [.requestAgpsDataConn, .releaseAgpsDataConn] ∧ reported hist = asked hist := by
  have hrun : (exec (observe agpsSeen engStep) (engAgpsInit Unit ⟨true, true⟩ 1, [])
      (requestPass (openOf 7) ++ reportPass ++ requestPass (closeOf 7) ++ reportPass ++
        [.top])).any (fun p => asked p.2 = [.requestAgpsDataConn, .releaseAgpsDataConn] ∧
          p.1.thread = .waiting ∧ p.1.data.deferredActionFlags = .zero) = true := by decide
  obtain ⟨⟨s, hist⟩, hs, h⟩ := (Option.any_eq_true _ _).mp hrun
  obtain ⟨hasked, hw, hf⟩ := of_decide_eq_true h
  exact ⟨s, hist, hs, hasked, (server_requests_reported ⟨true, true⟩ 1 hs).2.2 hw hf⟩

end Ancora.LocEng
