import Ancora.LocEng.Atl

/-!
# Answers to server requests

The framework answers a server request with `loc_eng_data_conn_open`, `_closed` or
`_failed`, each of which raises a flag. The pass that finds the flag sends the
modem one `INFORM_SERVER_*` ioctl, with the handle of the request processed last;
whether a failure is that of an OPEN or of a CLOSE it takes from
`data_connection_is_on`.

- `pending`: the answers on their way, in the pass and in the flags.
- **`atl_answers_kind`**: with one request at a time, each answer is sent on with
  its own kind and handle, in every run in which a failure is only reported while
  `data_connection_is_on`.
- **`atl_answers_directed`**: whatever the order of requests and answers, each
  answer is sent on once, in order and to its own request, in every run in which
  no answer finds another one in the flags and no other request overtakes one.
-/

namespace Ancora.LocEng

open Machine

variable {α : Type} {s s' : EngState α} {a : EngAct α}

/-! ## Answers on their way -/

/-- The three kinds of answer, without the name of the access point. -/
inductive Outcome
  | opened
  | closed
  | failed
  deriving DecidableEq, Repr

def ConnResult.outcome : ConnResult → Outcome
  | .opened _ => .opened
  | .closed => .closed
  | .failed => .failed

/-- The answer that the chain of loc_eng.cpp:2201-2221 finds in the flags. -/
def DeferredFlags.outcome (f : DeferredFlags) : Option Outcome :=
  if f.agpsDataSuccess then some .opened
  else if f.agpsDataClosed then some .closed
  else if f.agpsDataFailed then some .failed
  else none

/-- There is no answer to send if and only if no flag of one is up. -/
theorem DeferredFlags.outcome_eq_none {f : DeferredFlags} :
    f.outcome = none ↔ f.anyAgpsData = false := by
  obtain ⟨_, _, _, s, c, x, _⟩ := f
  cases s <;> cases c <;> cases x <;> simp [DeferredFlags.outcome, DeferredFlags.anyAgpsData]

/-- A call that finds no other answer in the flags. -/
theorem ConnResult.outcome_setFlag (c : ConnResult) {f : DeferredFlags}
    (h : f.anyAgpsData = false) : (c.setFlag f).outcome = some c.outcome := by
  simp only [DeferredFlags.anyAgpsData, Bool.or_eq_false_iff] at h
  obtain ⟨⟨hs, hc⟩, hf⟩ := h
  cases c <;> simp [ConnResult.setFlag, DeferredFlags.outcome, ConnResult.outcome, hs, hc]

/-- The pieces of the thread raise no answer and take none away. -/
theorem Micro.run_outcome (rc : Int) (mute : Bool) (d : LocEngData α) (m : Micro α) :
    (m.run rc mute d).deferredActionFlags.outcome = d.deferredActionFlags.outcome := by
  have h := congrArg (·.deferredActionFlags.outcome) (m.run_untouched rc mute d)
  cases m <;> exact h

/-- Only an answer of the framework changes what is to be sent. -/
theorem EngStep.call_outcome (h : EngStep s a s') (ha : a.isCall = true)
    (hconn : ∀ c, a ≠ .dataConn c) :
    s'.data.deferredActionFlags.outcome = s.data.deferredActionFlags.outcome := by
  have hun := congrArg (·.deferredActionFlags.outcome) (h.call_untouched ha)
  cases a <;> first | exact hun | exact absurd rfl (hconn _)

/-- The handle is written by the piece that processes a request only. -/
theorem Micro.run_connHandle (rc : Int) (mute : Bool) (d : LocEngData α) {m : Micro α}
    (hm : ∀ r, m ≠ .processConnRequest r) : (m.run rc mute d).connHandle = d.connHandle := by
  have h := congrArg (·.connHandle) (m.run_untouched rc mute d)
  cases m <;> first | exact h | exact absurd rfl (hm _)

/-- Only the thread changes the handle. -/
theorem EngStep.connHandle_eq (h : EngStep s a s') (ha : ∀ rc mute, a ≠ .micro rc mute) :
    s'.data.connHandle = s.data.connHandle :=
  congrArg (·.2.2) (h.pieceFrame ha).view_eq

/-- The answer a piece sends to the modem. -/
def Micro.sends : Micro α → Option Outcome
  | .ioctlDataStatus f => f.outcome
  | _ => none

/-- A pass sends the answer found in the flags at its start. -/
theorem sends_iteration (l : Locals α) :
    (iteration l).filterMap Micro.sends = l.flags.outcome.toList := by
  have hevent : (locEngProcessLocEvent l.locEvent l.locEventPayload).filterMap Micro.sends =
      [] := by
    refine List.filterMap_eq_nil_iff.mpr fun m hm => ?_
    cases m <;> first | rfl | simp [mem_locEngProcessLocEvent_iff] at hm
  have hsend : (if l.flags.anyAgpsData = true then
      [Micro.ioctlDataStatus (α := α) l.flags, .setDataConnection l.flags, .handleDeferredStop]
      else []).filterMap Micro.sends = l.flags.outcome.toList := by
    by_cases hany : l.flags.anyAgpsData = true
    · rw [if_pos hany]
      cases ho : l.flags.outcome with
      | none => simp [DeferredFlags.outcome_eq_none.mp ho] at hany
      | some o => simp [Micro.sends, ho]
    · rw [if_neg hany, DeferredFlags.outcome_eq_none.mpr (by simpa using hany)]
      rfl
  rw [iteration, List.filterMap_append, List.filterMap_append, List.filterMap_append,
    List.filterMap_append, filterMap_ite_nil hevent, filterMap_ite_nil rfl, hsend]
  cases l.status <;> exact List.append_nil _

/-- The answers on their way: in the pass, then in the flags. -/
def pending (s : EngState α) : List Outcome :=
  s.thread.todo Micro.sends ++ s.data.deferredActionFlags.outcome.toList

/-- The copy moves the answer from the flags into the pass. -/
theorem pending_quitOrCopy {d : LocEngData α} (ht : s.thread.todo Micro.sends = [])
    (hf : d.deferredActionFlags = s.data.deferredActionFlags) :
    pending (quitOrCopy s d) = pending s := by
  rw [pending, pending, ht, List.nil_append, ← hf]
  unfold quitOrCopy
  by_cases hq : d.deferredActionFlags.quit = true
  · rw [if_pos hq]
    rfl
  · rw [if_neg hq]
    show (iteration (copyLocals d).1).filterMap Micro.sends ++ [] = _
    rw [sends_iteration, List.append_nil]
    rfl

/-- Outside the pieces, only an answer changes what is on its way. -/
theorem EngStep.pending_eq (h : EngStep s a s') (ha : ∀ rc mute, a ≠ .micro rc mute)
    (hconn : ∀ c, a ≠ .dataConn c) : pending s' = pending s := by
  by_cases hc : a.isCall = true
  · rw [pending, pending, h.call_thread hc, h.call_outcome hc hconn]
  cases h with
  | topWait ht _ =>
    rw [pending, pending, ht]
    rfl
  | topCopy ht _ => exact pending_quitOrCopy (by rw [ht]; rfl) rfl
  | wake ht => exact pending_quitOrCopy (by rw [ht]; rfl) rfl
  | micro rc mute _ _ => exact absurd rfl (ha rc mute)
  | loop ht =>
    rw [pending, pending, ht]
    rfl
  | _ => exact absurd rfl hc

/-- A piece sends the next of the answers that are still to be sent. -/
theorem pending_micro (rc : Int) (mute : Bool) {m : Micro α} {todo : List (Micro α)}
    (ht : s.thread = .running (m :: todo)) :
    pending s = m.sends.toList ++
      pending { s with data := m.run rc mute s.data, thread := .running todo } := by
  rw [pending, pending, m.run_outcome rc mute s.data, ht]
  show (m :: todo).filterMap Micro.sends ++ _ = m.sends.toList ++ (todo.filterMap Micro.sends ++ _)
  cases hm : m.sends with
  | none =>
    rw [List.filterMap_cons_none hm]
    rfl
  | some o =>
    rw [List.filterMap_cons_some hm]
    rfl

/-- A call that finds no answer in the flags puts its own behind the pass. -/
theorem pending_dataConn {c : ConnResult} (hin : s.data.locEngInited = true)
    (hno : s.data.deferredActionFlags.anyAgpsData = false) :
    pending { s with data := locEngDataConn c s.data } = pending s ++ [c.outcome] := by
  have hflags : (locEngDataConn c s.data).deferredActionFlags =
      c.setFlag s.data.deferredActionFlags := by
    unfold locEngDataConn
    rw [if_neg (by simp [hin])]
    cases c with
    | opened apn => cases apn <;> rfl
    | closed => rfl
    | failed => rfl
  rw [pending, pending, hflags, c.outcome_setFlag hno, DeferredFlags.outcome_eq_none.mpr hno,
    Option.toList_none, List.append_nil]
  rfl

/-! ## What answers and requests look like from outside -/

/-- The exchange between the modem and the framework. -/
inductive AtlEvent
  /-- `loc_eng_process_conn_request` ran. -/
  | request (r : ServerRequest)
  /-- `loc_eng_data_conn_open`, `_closed` or `_failed` was accepted. -/
  | answer (c : ConnResult)
  /-- The `INFORM_SERVER_OPEN_STATUS` ioctl. -/
  | openStatus (connHandle : BitVec 32) (isSucc : Bool)
  /-- The `INFORM_SERVER_CLOSE_STATUS` ioctl. -/
  | closeStatus (connHandle : BitVec 32) (isSucc : Bool)
  deriving DecidableEq, Repr

/-- The answer an action makes. -/
def atlAnswer (s : EngState α) : EngAct α → List AtlEvent
  | .dataConn c => if s.data.locEngInited = true then [.answer c] else []
  | _ => []

/-- The ioctl an effect is. -/
def atlIoctl : Effect α → Option AtlEvent
  | .openStatus h _ isSucc => some (.openStatus h isSucc)
  | .closeStatus h isSucc => some (.closeStatus h isSucc)
  | _ => none

/-- The requests, answers and ioctls of a step. -/
def atlSeen (s : EngState α) (a : EngAct α) (s' : EngState α) : List AtlEvent :=
  (connRequest s a).toList.map .request ++ atlAnswer s a ++ (newEffects s s').filterMap atlIoctl

/-- The ioctl that the thread makes of an answer (loc_eng.cpp:2201-2221). -/
def informOf (o : Outcome) (d : LocEngData α) : AtlEvent :=
  match o with
  | .opened => .openStatus d.connHandle true
  | .closed => .closeStatus d.connHandle true
  | .failed =>
    if d.dataConnectionIsOn then .openStatus d.connHandle false
    else .closeStatus d.connHandle false

/-- Of the calls only the answers of the framework are seen. -/
theorem atlSeen_call (h : EngStep s a s') (ha : ∀ rc mute, a ≠ .micro rc mute) :
    atlSeen s a s' = atlAnswer s a := by
  have hnil : (newEffects s s').filterMap atlIoctl = [] := by
    refine h.filterMap_newEffects ha fun e he => ?_
    cases e <;> first | rfl | simp [Effect.ofCall] at he
  rw [atlSeen, connRequest_call ha, hnil, List.append_nil]
  rfl

/-- Other calls are no answers. -/
theorem atlAnswer_eq_nil (ha : ∀ c, a ≠ .dataConn c) : atlAnswer s a = [] := by
  cases a <;> first | rfl | exact absurd rfl (ha _)

/-- The ioctl piece sends the answer it was given; no other piece sends one. -/
theorem atlIoctl_micro {rc : Int} {mute : Bool} {m : Micro α} {t : ThreadPc α} :
    (newEffects s { s with data := m.run rc mute s.data, thread := t }).filterMap atlIoctl =
      m.sends.toList.map (informOf · s.data) := by
  by_cases hm : ∃ f, m = .ioctlDataStatus f
  · obtain ⟨f, rfl⟩ := hm
    show _ = f.outcome.toList.map (informOf · s.data)
    have hlog : ∃ es, (ioctlDataStatus f s.data).log = s.data.log ++ es ∧
        es.filterMap atlIoctl = f.outcome.toList.map (informOf · s.data) := by
      unfold ioctlDataStatus DeferredFlags.outcome
      by_cases hs : f.agpsDataSuccess = true
      · simp only [if_pos hs]
        exact ⟨_, rfl, rfl⟩
      by_cases hc : f.agpsDataClosed = true
      · simp only [if_neg hs, if_pos hc]
        exact ⟨_, rfl, rfl⟩
      by_cases hx : f.agpsDataFailed = true
      · simp only [if_neg hs, if_neg hc, if_pos hx]
        by_cases hon : s.data.dataConnectionIsOn = true
        · rw [if_pos hon]
          exact ⟨_, rfl, by simp [informOf, hon, atlIoctl]⟩
        · rw [if_neg hon]
          exact ⟨_, rfl, by simp [informOf, hon, atlIoctl]⟩
      · simp only [if_neg hs, if_neg hc, if_neg hx]
        exact ⟨[], (List.append_nil _).symm, rfl⟩
    obtain ⟨es, hes, heq⟩ := hlog
    rw [newEffects_eq hes, heq]
  · have hsends : m.sends = none := by
      cases m <;> first | rfl | exact absurd ⟨_, rfl⟩ hm
    rw [hsends]
    refine filterMap_newEffects_micro fun e he => ?_
    cases e with
    | openStatus h apn b => cases m <;> first | exact absurd ⟨_, rfl⟩ hm | simp [Micro.emits] at he
    | closeStatus h b => cases m <;> first | exact absurd ⟨_, rfl⟩ hm | simp [Micro.emits] at he
    | _ => rfl

/-- A piece is seen as a request or as what it sends. -/
theorem atlSeen_micro {rc : Int} {mute : Bool} {m : Micro α} {t : ThreadPc α} :
    atlSeen s (.micro rc mute) { s with data := m.run rc mute s.data, thread := t } =
      (connRequest s (.micro rc mute)).toList.map .request ++
        m.sends.toList.map (informOf · s.data) := by
  rw [atlSeen, atlIoctl_micro]
  show _ ++ [] ++ _ = _
  rw [List.append_nil]

section Piece

variable {rc : Int} {mute : Bool} {m : Micro α} {todo : List (Micro α)} {t : ThreadPc α}

/-- The piece that handles a request is seen as one. -/
theorem atlSeen_request {r : ServerRequest}
    (ht : s.thread = .running (.processConnRequest r :: todo)) :
    atlSeen s (.micro rc mute)
      { s with data := (Micro.processConnRequest r).run rc mute s.data, thread := t } =
        [.request r] := by
  rw [atlSeen_micro, connRequest_process ht]
  rfl

/-- A piece that sends is seen as an answer to the modem. -/
theorem atlSeen_inform {o : Outcome} (ht : s.thread = .running (m :: todo))
    (ho : m.sends = some o) :
    atlSeen s (.micro rc mute) { s with data := m.run rc mute s.data, thread := t } =
      [informOf o s.data] := by
  have hreq : ∀ r, m ≠ .processConnRequest r := by
    rintro r rfl
    cases ho
  rw [atlSeen_micro, connRequest_micro ht hreq, ho]
  rfl

/-- Other pieces are not seen. -/
theorem atlSeen_quiet (ht : s.thread = .running (m :: todo))
    (hreq : ∀ r, m ≠ .processConnRequest r) (ho : m.sends = none) :
    atlSeen s (.micro rc mute) { s with data := m.run rc mute s.data, thread := t } = [] := by
  rw [atlSeen_micro, connRequest_micro ht hreq, ho]
  rfl

end Piece

/-! ## Answers go to their own requests -/

/-- An action, with the handle of the request that the caller answers should it
be an answer. -/
abbrev DirectedAct (α : Type) := EngAct α × BitVec 32

def directedStep (s : EngState α) (a : DirectedAct α) : Option (EngState α) := engStep s a.1

def directedSeen (s : EngState α) (a : DirectedAct α) (s' : EngState α) :
    List (AtlEvent × BitVec 32) := (atlSeen s a.1 s').map fun e => (e, a.2)

/-- The answers, each with the handle it is meant for. -/
def called (hist : List (AtlEvent × BitVec 32)) : List (BitVec 32 × Outcome) :=
  hist.filterMap fun
    | (.answer c, h) => some (h, c.outcome)
    | _ => none

/-- The answer that an ioctl brings, with the handle it carries. -/
def AtlEvent.informs : AtlEvent → Option (BitVec 32 × Outcome)
  | .openStatus h true => some (h, .opened)
  | .closeStatus h true => some (h, .closed)
  | .openStatus h false => some (h, .failed)
  | .closeStatus h false => some (h, .failed)
  | .request _ => none
  | .answer _ => none

/-- The answers that the modem was informed of. -/
def informed (hist : List (AtlEvent × BitVec 32)) : List (BitVec 32 × Outcome) :=
  hist.filterMap fun e => e.1.informs

/-- The condition on a step: an answer means the request processed last and finds
no other answer in the flags; and a request with another handle is processed only
while no answer is on its way. -/
def directed (s : EngState α) (a : DirectedAct α) : Prop :=
  match a.1 with
  | .dataConn _ =>
    s.data.locEngInited = true →
      s.data.deferredActionFlags.anyAgpsData = false ∧ a.2 = s.data.connHandle
  | .micro _ _ =>
    ∀ r ∈ s.thread.connRequest, r.connHandle ≠ s.data.connHandle → pending s = []
  | _ => True

instance (s : EngState α) : (a : DirectedAct α) → Decidable (directed s a)
  | (.dataConn _, _) => inferInstanceAs (Decidable (_ → _ ∧ _))
  | (.micro _ _, _) =>
    match h : s.thread.connRequest with
    | none => .isTrue fun _ hr => nomatch h.symm.trans hr
    | some r =>
      decidable_of_iff (r.connHandle ≠ s.data.connHandle → pending s = [])
        ⟨fun hp _ hr => Option.some.inj (h.symm.trans hr) ▸ hp, fun hp => hp r h⟩
  | (.locEventCb _ _ _, _) | (.deleteAidingData _, _) | (.xtraStore _, _) | (.xtraSignal, _)
  | (.agpsInit, _) | (.xtraInit, _) | (.start _, _) | (.stopCheck, _) | (.stopDefer, _)
  | (.stopNow _, _) | (.deinit _, _) | (.quit, _) | (.top, _) | (.wake, _)
  | (.loop, _) => .isTrue trivial

/-- What was answered is what was sent on, followed by what is on its way to the
request processed last. -/
def DirectedInv (s : EngState α) (hist : List (AtlEvent × BitVec 32)) : Prop :=
  Conduit (called hist) (informed hist) ((pending s).map fun o => (s.data.connHandle, o))

/-- The modem is told with the handle of the connection. -/
theorem informs_informOf (o : Outcome) (d : LocEngData α) :
    (informOf o d).informs = some (d.connHandle, o) := by
  cases o with
  | opened => rfl
  | closed => rfl
  | failed =>
    unfold informOf
    by_cases hon : d.dataConnectionIsOn = true
    · simp [hon, AtlEvent.informs]
    · simp [hon, AtlEvent.informs]

/-- An answer that means the request processed last goes out with its handle. -/
theorem DirectedInv.dataConn {hist : List (AtlEvent × BitVec 32)} (hi : DirectedInv s hist)
    {c : ConnResult} {h : BitVec 32} (hok : directed s (.dataConn c, h))
    (hst : EngStep s (.dataConn c) s') :
    DirectedInv s' (hist ++ (atlAnswer s (.dataConn c)).map fun e => (e, h)) := by
  have hconn := hst.connHandle_eq fun _ _ => nofun
  cases hst with
  | dataConn c =>
    by_cases hin : s.data.locEngInited = true
    · obtain ⟨hno, rfl⟩ := hok hin
      have hans : atlAnswer s (.dataConn c) = [.answer c] := if_pos hin
      unfold DirectedInv
      rw [hans, hconn, pending_dataConn hin hno, List.map_append, called, informed,
        List.filterMap_append, List.filterMap_append]
      show Conduit (called hist ++ [(s.data.connHandle, c.outcome)]) (informed hist ++ [])
        (_ ++ [(s.data.connHandle, c.outcome)])
      rw [List.append_nil]
      exact Conduit.put hi _
    · have hans : atlAnswer s (.dataConn c) = [] := if_neg hin
      have hsame : locEngDataConn c s.data = s.data := if_pos (by simpa using hin)
      rw [hans, hsame, List.map_nil, List.append_nil]
      exact hi

/-- A step that leaves answers and handle alone and shows neither. -/
theorem DirectedInv.congr {hist : List (AtlEvent × BitVec 32)} (hi : DirectedInv s hist)
    (hp : pending s' = pending s) (hc : s'.data.connHandle = s.data.connHandle) :
    DirectedInv s' hist := by
  unfold DirectedInv
  rw [hp, hc]
  exact hi

/-- A request with another handle is processed while no answer is on its way. -/
theorem DirectedInv.request {hist : List (AtlEvent × BitVec 32)} (hi : DirectedInv s hist)
    {rc : Int} {mute : Bool} {h : BitVec 32} (hok : directed s (.micro rc mute, h))
    {r : ServerRequest} {todo : List (Micro α)}
    (ht : s.thread = .running (.processConnRequest r :: todo)) :
    DirectedInv { s with
        data := (Micro.processConnRequest r).run rc mute s.data, thread := .running todo }
      (hist ++ [(.request r, h)]) := by
  have hpend : pending s = pending { s with
      data := (Micro.processConnRequest r).run rc mute s.data, thread := .running todo } :=
    pending_micro rc mute ht
  have hconn : ((Micro.processConnRequest r).run rc mute s.data).connHandle = r.connHandle := by
    show (locEngProcessConnRequest r s.data).connHandle = _
    rw [locEngProcessConnRequest_eq]
    rfl
  unfold DirectedInv
  rw [hconn, ← hpend, called, informed, List.filterMap_append, List.filterMap_append]
  show Conduit (called hist ++ []) (informed hist ++ []) _
  rw [List.append_nil, List.append_nil]
  by_cases hsame : r.connHandle = s.data.connHandle
  · rw [hsame]
    exact hi
  · have hnil : pending s = [] := hok r (by rw [ht]; rfl) hsame
    have hi : Conduit (called hist) (informed hist) ((pending s).map _) := hi
    rw [hnil] at hi ⊢
    exact hi

/-- The ioctl carries the handle of the oldest answer on its way. -/
theorem DirectedInv.inform {hist : List (AtlEvent × BitVec 32)} (hi : DirectedInv s hist)
    {rc : Int} {mute : Bool} {h : BitVec 32} {m : Micro α} {todo : List (Micro α)} {o : Outcome}
    (ht : s.thread = .running (m :: todo)) (ho : m.sends = some o) :
    DirectedInv { s with data := m.run rc mute s.data, thread := .running todo }
      (hist ++ [(informOf o s.data, h)]) := by
  have hpend : pending s = o :: pending
      { s with data := m.run rc mute s.data, thread := .running todo } := by
    have := pending_micro rc mute ht
    rwa [ho] at this
  have hconn := Micro.run_connHandle rc mute s.data (m := m) fun r heq => by
    rw [heq] at ho
    cases ho
  have hi : Conduit (called hist) (informed hist) ((pending s).map _) := hi
  rw [hpend, List.map_cons] at hi
  unfold DirectedInv
  rw [hconn, called, informed, List.filterMap_append, List.filterMap_append]
  have hcalled : called [(informOf o s.data, h)] = [] := by
    have := informs_informOf o s.data
    cases he : informOf o s.data <;> first | rfl | simp [he, AtlEvent.informs] at this
  have hinf : informed [(informOf o s.data, h)] = [(s.data.connHandle, o)] :=
    List.filterMap_cons_some (informs_informOf o s.data)
  show Conduit (called hist ++ called _) (informed hist ++ informed _) _
  rw [hcalled, hinf, List.append_nil]
  exact hi.take

/-- Every step of such a run keeps the answers directed. -/
theorem DirectedInv.step {hist : List (AtlEvent × BitVec 32)} {a : DirectedAct α}
    (hok : directed s a) (h : directedStep s a = some s') (hi : DirectedInv s hist) :
    DirectedInv s' (hist ++ directedSeen s a s') := by
  obtain ⟨a, h'⟩ := a
  have hst : EngStep s a s' := engStep_cases h
  by_cases hm : ∃ rc mute, a = .micro rc mute
  · obtain ⟨rc, mute, rfl⟩ := hm
    cases hst with
    | @micro rc mute m todo ht _ =>
      by_cases hreq : ∃ r, m = .processConnRequest r
      · obtain ⟨r, rfl⟩ := hreq
        rw [directedSeen, atlSeen_request ht]
        exact hi.request hok ht
      have hreq : ∀ r, m ≠ .processConnRequest r := fun r heq => hreq ⟨r, heq⟩
      cases ho : m.sends with
      | some o =>
        rw [directedSeen, atlSeen_inform ht ho]
        exact hi.inform ht ho
      | none =>
        rw [directedSeen, atlSeen_quiet ht hreq ho, List.map_nil, List.append_nil]
        have hpend := pending_micro rc mute ht
        rw [ho] at hpend
        exact hi.congr hpend.symm (Micro.run_connHandle rc mute s.data hreq)
  have hnm : ∀ rc mute, a ≠ .micro rc mute := fun rc mute heq => hm ⟨rc, mute, heq⟩
  rw [directedSeen, atlSeen_call hst hnm]
  by_cases hconn : ∃ c, a = .dataConn c
  · obtain ⟨c, rfl⟩ := hconn
    exact hi.dataConn hok hst
  have hconn : ∀ c, a ≠ .dataConn c := fun c heq => hconn ⟨c, heq⟩
  rw [atlAnswer_eq_nil hconn, List.map_nil, List.append_nil]
  exact hi.congr (hst.pending_eq hnm hconn) (hst.connHandle_eq hnm)

/-- **Answers are neither merged nor misdirected.** In every run that keeps to
`directed`, whatever request each answer is meant for, the ioctls are the answers
in their order and with their handles, and none is missing when the thread waits
with no flag. -/
theorem atl_answers_directed [Inhabited α] (cb : GpsCallbacks) (handle : Int)
    {as : List (DirectedAct α)} {s : EngState α} {hist : List (AtlEvent × BitVec 32)}
    (h : exec (restrict (fun p a => directed p.1 a) (observe directedSeen directedStep))
      (engInit α cb handle, []) as = some (s, hist)) :
    informed hist <+: called hist ∧
      (s.thread = .waiting → s.data.deferredActionFlags = .zero →
        informed hist = called hist) := by
  have hinit : DirectedInv (engInit α cb handle) [] := Conduit.nil
  have hstep : ∀ (s : EngState α) (h : List (AtlEvent × BitVec 32)) a s', directed s a →
      directedStep s a = some s' → DirectedInv s h → DirectedInv s' (h ++ directedSeen s a s') :=
    fun s h a s' hok hst hi => hi.step hok hst
  have hi := observe_invariant hstep hinit h
  unfold DirectedInv at hi
  refine ⟨hi.delivered_prefix, fun ht hf => ?_⟩
  have hnil : pending s = [] := by
    rw [pending, ht, hf]
    rfl
  rw [hnil] at hi
  exact hi.delivered_eq

/-- The pass that sends an answer on. -/
def answerPass : List (EngAct Unit) := .top :: List.replicate 4 (.micro 0 false) ++ [.loop, .top]

/-- A run in which every answer means the request with one handle. -/
def meant (h : BitVec 32) (as : List (EngAct Unit)) : List (DirectedAct Unit) :=
  as.map fun a => (a, h)

theorem atl_answers_directed_open :
    ∃ s hist, exec (restrict (fun p a => directed p.1 a) (observe directedSeen directedStep))
        (engInit Unit ⟨true, true⟩ 1, []) (meant 7 (requestPass (openOf 7) ++ reportPass ++
          .dataConn (.opened (some [1])) :: answerPass)) = some (s, hist) ∧
      called hist = [(7, .opened)] ∧ informed hist = called hist := by
  have hrun : (exec (restrict (fun p a => directed p.1 a) (observe directedSeen directedStep))
      (engInit Unit ⟨true, true⟩ 1, []) (meant 7 (requestPass (openOf 7) ++ reportPass ++
        .dataConn (.opened (some [1])) :: answerPass))).any (fun p =>
          called p.2 = [(7, .opened)] ∧ p.1.thread = .waiting ∧
            p.1.data.deferredActionFlags = .zero) = true := by decide
  obtain ⟨⟨s, hist⟩, hs, h⟩ := (Option.any_eq_true _ _).mp hrun
  obtain ⟨hcalled, hw, hf⟩ := of_decide_eq_true h
  exact ⟨s, hist, hs, hcalled, (atl_answers_directed ⟨true, true⟩ 1 hs).2 hw hf⟩

/-- The answer to an OPEN, the next request and a second answer, all before the
thread makes its copy. -/
def answersBeforeCopy : List (EngAct Unit) :=
  requestPass (openOf 7) ++ reportPass ++
    [.dataConn (.opened (some [1])), .dataConn .failed, serverEvent (closeOf 9), .top] ++
    List.replicate 8 (.micro 0 false) ++ .loop :: reportPass ++ [.top]

/-- One ioctl is sent for two answers, with the handle of the later request. -/
theorem atl_answers_merged_and_misdirected :
    ∃ s hist, exec (observe directedSeen directedStep) (engInit Unit ⟨true, true⟩ 1, [])
        (meant 7 answersBeforeCopy) = some (s, hist) ∧ s.thread = .waiting ∧
      s.data.deferredActionFlags = .zero ∧ called hist = [(7, .opened), (7, .failed)] ∧
      informed hist = [(9, .opened)] ∧ ¬ informed hist <+: called hist := by
  have hrun : (exec (observe directedSeen directedStep) (engInit Unit ⟨true, true⟩ 1, [])
      (meant 7 answersBeforeCopy)).any (fun p => p.1.thread = .waiting ∧
        p.1.data.deferredActionFlags = .zero ∧ called p.2 = [(7, .opened), (7, .failed)] ∧
        informed p.2 = [(9, .opened)]) = true := by decide
  obtain ⟨⟨s, hist⟩, hs, h⟩ := (Option.any_eq_true _ _).mp hrun
  obtain ⟨hw, hf, hcalled, hinf⟩ := of_decide_eq_true h
  refine ⟨s, hist, hs, hw, hf, hcalled, hinf, ?_⟩
  rw [hcalled, hinf]
  decide

/-! ## One request at a time -/

/-- The answer is one to the kind of request. -/
def fits (r : ServerRequest) : ConnResult → Bool
  | .opened _ => r.event = .open
  | .failed => r.event = .open
  | .closed => r.event ≠ .open

/-- The ioctl that the modem expects. -/
def expected (r : ServerRequest) : ConnResult → AtlEvent
  | .opened _ => .openStatus r.connHandle true
  | .failed => .openStatus r.connHandle false
  | .closed => .closeStatus r.connHandle true

/-- A history of whole exchanges: request, answer and the expected ioctl. -/
inductive Exchanges : List AtlEvent → Prop
  | nil : Exchanges []
  | snoc {hist : List AtlEvent} {r : ServerRequest} {c : ConnResult} (h : Exchanges hist)
      (hfit : fits r c = true) : Exchanges (hist ++ [.request r, .answer c, expected r c])

/-- The request that waits for an answer. -/
def awaited (hist : List AtlEvent) : Option ServerRequest :=
  match hist.getLast? with
  | some (.request r) => some r
  | _ => none

/-- The last request, if any, has been answered and the answer sent on. -/
def exchanged (hist : List AtlEvent) : Bool :=
  match hist.getLast? with
  | none => true
  | some (.openStatus _ _) => true
  | some (.closeStatus _ _) => true
  | some (.request _) => false
  | some (.answer _) => false

/-- Requests are handled one at a time: a request is processed when the answer to
the one before has been sent on, and an answer comes when a request waits for one,
once and of its kind. -/
def oneAtATime (p : EngState α × List AtlEvent) : EngAct α → Prop
  | .dataConn c => p.1.data.locEngInited = true → (awaited p.2).any (fits · c) = true
  | .micro _ _ => p.1.thread.connRequest ≠ none → exchanged p.2 = true
  | _ => True

instance (p : EngState α × List AtlEvent) : (a : EngAct α) → Decidable (oneAtATime p a)
  | .dataConn _ | .micro _ _ => inferInstanceAs (Decidable (_ → _))
  | .locEventCb _ _ _ | .deleteAidingData _ | .xtraStore _ | .xtraSignal | .agpsInit | .xtraInit
  | .start _ | .stopCheck | .stopDefer | .stopNow _ | .deinit _ | .quit | .top | .wake
  | .loop => .isTrue trivial

/-- The condition on a step: a failure is reported only while the record says that
the data connection is on. -/
def failsWhileOn (s : EngState α) : EngAct α → Prop
  | .dataConn .failed => s.data.locEngInited = true → s.data.dataConnectionIsOn = true
  | _ => True

instance (s : EngState α) : (a : EngAct α) → Decidable (failsWhileOn s a)
  | .dataConn .failed => inferInstanceAs (Decidable (_ → _))
  | .dataConn (.opened _) | .dataConn .closed | .micro _ _ | .locEventCb _ _ _
  | .deleteAidingData _ | .xtraStore _ | .xtraSignal | .agpsInit | .xtraInit
  | .start _ | .stopCheck | .stopDefer | .stopNow _ | .deinit _ | .quit | .top | .wake
  | .loop => .isTrue trivial

theorem awaited_snoc (hist : List AtlEvent) (r : ServerRequest) :
    awaited (hist ++ [.request r]) = some r := by
  simp [awaited]

theorem exchanged_request (hist : List AtlEvent) (r : ServerRequest) :
    exchanged (hist ++ [.request r]) = false := by
  simp [exchanged]

theorem awaited_answer (hist : List AtlEvent) (r : ServerRequest) (c : ConnResult) :
    awaited (hist ++ [.request r, .answer c]) = none := by
  simp [awaited]

theorem exchanged_answer (hist : List AtlEvent) (r : ServerRequest) (c : ConnResult) :
    exchanged (hist ++ [.request r, .answer c]) = false := by
  simp [exchanged]

/-- After complete exchanges no request awaits an answer. -/
theorem Exchanges.awaited_eq_none {hist : List AtlEvent} (h : Exchanges hist) :
    awaited hist = none := by
  cases h with
  | nil => rfl
  | @snoc _ r c _ _ => cases c <;> simp [awaited, expected]

/-- The piece that sets `data_connection_is_on` after the ioctl. -/
def Micro.setsConnection : Micro α → Bool
  | .setDataConnection _ => true
  | _ => false

/-- `data_connection_is_on` will be set by the pass only after another ioctl. -/
def Settled (s : EngState α) : Prop :=
  s.thread.ahead Micro.setsConnection = true → s.thread.todo Micro.sends ≠ []

/-- The connection is set in a pass that tells the modem. -/
theorem setDataConnection_mem_iteration {l : Locals α} {f : DeferredFlags}
    (h : .setDataConnection f ∈ iteration l) :
    .ioctlDataStatus l.flags ∈ iteration l ∧ l.flags.anyAgpsData = true := by
  obtain ⟨hany, -⟩ : l.flags.anyAgpsData = true ∧ f = l.flags := by
    simpa [mem_iteration_iff, mem_locEngProcessLocEvent_iff] using h
  exact ⟨mem_iteration_iff.mpr (.inr (.inr (.inr (.inl ⟨hany, .inl rfl⟩)))), hany⟩

theorem mem_of_ahead_setsConnection {todo : List (Micro α)}
    (h : (ThreadPc.running todo).ahead Micro.setsConnection = true) :
    ∃ f, .setDataConnection f ∈ todo := by
  obtain ⟨m, hm, hset⟩ := List.any_eq_true.mp h
  cases m with
  | setDataConnection f => exact ⟨f, hm⟩
  | _ => simp [Micro.setsConnection] at hset

/-- In a new pass the modem is told before the connection is set. -/
theorem Settled.quitOrCopy (s : EngState α) (d : LocEngData α) : Settled (quitOrCopy s d) := by
  unfold LocEng.quitOrCopy
  by_cases hq : d.deferredActionFlags.quit = true
  · rw [if_pos hq]
    exact nofun
  · rw [if_neg hq]
    intro hah
    obtain ⟨f, hf⟩ := mem_of_ahead_setsConnection hah
    obtain ⟨-, hany⟩ := setDataConnection_mem_iteration hf
    show (iteration _).filterMap Micro.sends ≠ []
    rw [sends_iteration]
    intro hnil
    have hnone := DeferredFlags.outcome_eq_none.mp (Option.toList_eq_nil_iff.mp hnil)
    rw [hnone] at hany
    cases hany

/-- Outside the pieces a settled thread stays settled. -/
theorem Settled.step (hs : Settled s) (h : EngStep s a s') (ha : ∀ rc mute, a ≠ .micro rc mute) :
    Settled s' := by
  by_cases hc : a.isCall = true
  · unfold Settled
    rw [h.call_thread hc]
    exact hs
  cases h with
  | topWait _ _ => exact nofun
  | topCopy _ _ => exact .quitOrCopy s _
  | wake _ => exact .quitOrCopy s _
  | micro rc mute _ _ => exact absurd rfl (ha rc mute)
  | loop _ => exact nofun
  | _ => exact absurd rfl hc

/-- It stays so behind a piece that sends nothing. -/
theorem Settled.micro (hs : Settled s) {d : LocEngData α} {m : Micro α} {todo : List (Micro α)}
    (ht : s.thread = .running (m :: todo)) (hm : m.sends = none) :
    Settled { s with data := d, thread := .running todo } := by
  intro hah
  have hall : s.thread.ahead Micro.setsConnection = true := by
    rw [ht, ThreadPc.ahead_cons, show (ThreadPc.running todo).ahead _ = true from hah, Bool.or_true]
  have hne := hs hall
  rwa [ht, ThreadPc.todo_step hm] at hne

/-- In the pass of a request, the ioctl is still to come. -/
theorem Settled.request (hpass : InPass s) {d : LocEngData α} {r : ServerRequest}
    {todo : List (Micro α)} (ht : s.thread = .running (.processConnRequest r :: todo)) :
    Settled { s with data := d, thread := .running todo } := by
  intro hah
  obtain ⟨f, hf⟩ := mem_of_ahead_setsConnection hah
  obtain ⟨l, -, hl⟩ := hpass.ahead ht
  obtain ⟨hmem, hany⟩ := setDataConnection_mem_iteration ((hl _).mp hf).1
  have hah : .ioctlDataStatus l.flags ∈ todo := (hl _).mpr ⟨hmem, by simp [Micro.place]⟩
  intro hnil
  have hnone : l.flags.outcome = none := List.filterMap_eq_nil_iff.mp hnil _ hah
  rw [DeferredFlags.outcome_eq_none.mp hnone] at hany
  cases hany

/-- A settled thread is not about to set the connection. -/
theorem Settled.not_setDataConnection (hs : Settled s) (hpass : InPass s) {f : DeferredFlags}
    {todo : List (Micro α)} : s.thread ≠ .running (.setDataConnection f :: todo) := by
  intro ht
  have hah : s.thread.ahead Micro.setsConnection = true := by
    rw [ht]
    rfl
  have hne := hs hah
  rw [ht, ThreadPc.todo_step rfl] at hne
  obtain ⟨o, ho⟩ := List.exists_mem_of_ne_nil _ hne
  obtain ⟨m, hm, hsends⟩ := List.mem_filterMap.mp ho
  obtain ⟨l, -, hl⟩ := hpass.ahead ht
  have hlt := ((hl m).mp hm).2
  cases m <;> simp [Micro.sends, Micro.place] at hsends hlt

/-- How far the exchange has come. -/
inductive AtlPhase (s : EngState α) : List AtlEvent → Prop
  | idle {done : List AtlEvent} (h : Exchanges done) (hp : pending s = []) : AtlPhase s done
  | asked {done : List AtlEvent} {r : ServerRequest} (h : Exchanges done) (hp : pending s = [])
      (hc : s.data.connHandle = r.connHandle) (hs : Settled s) :
      AtlPhase s (done ++ [.request r])
  | answered {done : List AtlEvent} {r : ServerRequest} {c : ConnResult} (h : Exchanges done)
      (hfit : fits r c = true) (hp : pending s = [c.outcome])
      (hc : s.data.connHandle = r.connHandle) (hs : Settled s)
      (hon : c = .failed → s.data.dataConnectionIsOn = true) :
      AtlPhase s (done ++ [.request r, .answer c])

/-- A step that shows nothing keeps the phase. -/
theorem AtlPhase.congr {hist : List AtlEvent} (hi : AtlPhase s hist)
    (hp : pending s' = pending s) (hc : s'.data.connHandle = s.data.connHandle)
    (hs : Settled s → Settled s')
    (hon : Settled s → s'.data.dataConnectionIsOn = s.data.dataConnectionIsOn) :
    AtlPhase s' hist := by
  cases hi with
  | idle h hnil => exact .idle h (hp.trans hnil)
  | asked h hnil hconn hset => exact .asked h (hp.trans hnil) (hc.trans hconn) (hs hset)
  | answered h hfit hone hconn hset hfail =>
    exact .answered h hfit (hp.trans hone) (hc.trans hconn) (hs hset)
      fun heq => (hon hset).trans (hfail heq)

/-- A request begins an exchange when none is going on. -/
theorem AtlPhase.request {hist : List AtlEvent} (hi : AtlPhase s hist) (hpass : InPass s)
    {rc : Int} {mute : Bool} (hok : oneAtATime (s, hist) (.micro rc mute)) {r : ServerRequest}
    {todo : List (Micro α)} (ht : s.thread = .running (.processConnRequest r :: todo)) :
    AtlPhase { s with
        data := (Micro.processConnRequest r).run rc mute s.data, thread := .running todo }
      (hist ++ [.request r]) := by
  have hquiet : exchanged hist = true := by
    refine hok ?_
    show s.thread.connRequest ≠ none
    rw [ht]
    exact nofun
  cases hi with
  | idle h hnil =>
    have hpend := pending_micro rc mute ht
    rw [hnil] at hpend
    refine .asked h hpend.symm ?_ (.request hpass ht)
    show (locEngProcessConnRequest r s.data).connHandle = _
    rw [locEngProcessConnRequest_eq]
    rfl
  | asked _ _ _ _ =>
    rw [exchanged_request] at hquiet
    cases hquiet
  | answered _ _ _ _ _ _ =>
    rw [exchanged_answer] at hquiet
    cases hquiet

/-- The answer comes when the request waits for it. -/
theorem AtlPhase.dataConn {hist : List AtlEvent} (hi : AtlPhase s hist) {c : ConnResult}
    (hok : oneAtATime (s, hist) (.dataConn c)) (hfail : failsWhileOn s (.dataConn c)) :
    AtlPhase { s with data := locEngDataConn c s.data }
      (hist ++ atlAnswer s (.dataConn c)) := by
  by_cases hin : s.data.locEngInited = true
  · have hans : atlAnswer s (.dataConn c) = [.answer c] := if_pos hin
    have hwait : (awaited hist).any (fits · c) = true := hok hin
    rw [hans]
    cases hi with
    | idle h _ =>
      rw [h.awaited_eq_none] at hwait
      cases hwait
    | @asked done r h hnil hc hs =>
      rw [awaited_snoc] at hwait
      have hno : s.data.deferredActionFlags.anyAgpsData = false := by
        rw [pending, List.append_eq_nil_iff] at hnil
        exact DeferredFlags.outcome_eq_none.mp (Option.toList_eq_nil_iff.mp hnil.2)
      have hconn := (EngStep.dataConn (s := s) c).connHandle_eq fun _ _ => nofun
      rw [List.append_assoc]
      refine .answered h hwait ?_ (hconn.trans hc) hs ?_
      · rw [pending_dataConn hin hno, hnil, List.nil_append]
      · rintro rfl
        show (locEngDataConn .failed s.data).dataConnectionIsOn = true
        unfold locEngDataConn
        rw [if_neg (by simp [hin])]
        exact hfail hin
    | answered _ _ _ _ _ _ =>
      rw [awaited_answer] at hwait
      cases hwait
  · have hans : atlAnswer s (.dataConn c) = [] := if_neg hin
    have hsame : locEngDataConn c s.data = s.data := if_pos (by simpa using hin)
    rw [hans, hsame, List.append_nil]
    exact hi

/-- The ioctl is the expected one. -/
theorem AtlPhase.inform {hist : List AtlEvent} (hi : AtlPhase s hist) {rc : Int} {mute : Bool}
    {m : Micro α} {todo : List (Micro α)} {o : Outcome} (ht : s.thread = .running (m :: todo))
    (ho : m.sends = some o) :
    AtlPhase { s with data := m.run rc mute s.data, thread := .running todo }
      (hist ++ [informOf o s.data]) := by
  have hpend := pending_micro rc mute ht
  rw [ho] at hpend
  cases hi with
  | idle _ hnil =>
    rw [hnil] at hpend
    cases hpend
  | asked _ hnil _ _ =>
    rw [hnil] at hpend
    cases hpend
  | @answered done r c h hfit hone hc _ hon =>
    rw [hone] at hpend
    obtain ⟨rfl, hnil⟩ := List.cons.inj hpend
    have hinf : informOf c.outcome s.data = expected r c := by
      cases c with
      | opened apn => simp [informOf, ConnResult.outcome, expected, hc]
      | closed => simp [informOf, ConnResult.outcome, expected, hc]
      | failed => simp [informOf, ConnResult.outcome, expected, hc, hon rfl]
    rw [hinf, List.append_assoc]
    exact .idle (.snoc h hfit) hnil.symm

/-- Only the piece for it sets the connection. -/
theorem Micro.run_dataConnectionIsOn (rc : Int) (mute : Bool) (d : LocEngData α) {m : Micro α}
    (hm : ∀ f, m ≠ .setDataConnection f) :
    (m.run rc mute d).dataConnectionIsOn = d.dataConnectionIsOn := by
  have h := congrArg (·.dataConnectionIsOn) (m.run_untouched rc mute d)
  cases m <;> first | exact h | exact absurd rfl (hm _)

theorem dataConnectionIsOn_quitOrCopy (s : EngState α) (d : LocEngData α) :
    (quitOrCopy s d).data.dataConnectionIsOn = d.dataConnectionIsOn := by
  unfold quitOrCopy
  split <;> rfl

/-- Calls but the answers of the framework leave the connection alone. -/
theorem EngStep.dataConnectionIsOn_eq (h : EngStep s a s') (ha : ∀ rc mute, a ≠ .micro rc mute)
    (hconn : ∀ c, a ≠ .dataConn c) :
    s'.data.dataConnectionIsOn = s.data.dataConnectionIsOn := by
  by_cases hc : a.isCall = true
  · have hun := congrArg (·.dataConnectionIsOn) (h.call_untouched hc)
    cases a <;> first | exact hun | exact absurd rfl (hconn _)
  cases h with
  | topWait _ _ => rfl
  | topCopy _ _ => exact dataConnectionIsOn_quitOrCopy s _
  | wake _ => exact dataConnectionIsOn_quitOrCopy s _
  | micro rc mute _ _ => exact absurd rfl (ha rc mute)
  | loop _ => rfl
  | _ => exact absurd rfl hc

/-- Every step of such a run keeps to the phases of an exchange. -/
theorem AtlPhase.step {hist : List AtlEvent} (hpass : InPass s)
    (hok : oneAtATime (s, hist) a ∧ failsWhileOn s a) (h : engStep s a = some s')
    (hi : AtlPhase s hist) : AtlPhase s' (hist ++ atlSeen s a s') := by
  have hst := engStep_cases h
  by_cases hm : ∃ rc mute, a = .micro rc mute
  · obtain ⟨rc, mute, rfl⟩ := hm
    cases hst with
    | @micro rc mute m todo ht _ =>
      by_cases hreq : ∃ r, m = .processConnRequest r
      · obtain ⟨r, rfl⟩ := hreq
        rw [atlSeen_request ht]
        exact hi.request hpass hok.1 ht
      have hreq : ∀ r, m ≠ .processConnRequest r := fun r heq => hreq ⟨r, heq⟩
      cases ho : m.sends with
      | some o =>
        rw [atlSeen_inform ht ho]
        exact hi.inform ht ho
      | none =>
        rw [atlSeen_quiet ht hreq ho, List.append_nil]
        have hpend := pending_micro rc mute ht
        rw [ho] at hpend
        refine hi.congr hpend.symm (Micro.run_connHandle rc mute s.data hreq)
          (fun hs => hs.micro ht ho) fun hs => Micro.run_dataConnectionIsOn rc mute s.data ?_
        rintro f rfl
        exact hs.not_setDataConnection hpass ht
  have hnm : ∀ rc mute, a ≠ .micro rc mute := fun rc mute heq => hm ⟨rc, mute, heq⟩
  rw [atlSeen_call hst hnm]
  by_cases hconn : ∃ c, a = .dataConn c
  · obtain ⟨c, rfl⟩ := hconn
    cases hst with
    | dataConn c => exact hi.dataConn hok.1 hok.2
  have hconn : ∀ c, a ≠ .dataConn c := fun c heq => hconn ⟨c, heq⟩
  rw [atlAnswer_eq_nil hconn, List.append_nil]
  exact hi.congr (hst.pending_eq hnm hconn) (hst.connHandle_eq hnm) (fun hs => hs.step hst hnm)
    fun _ => hst.dataConnectionIsOn_eq hnm hconn

/-- Whole exchanges, and at most the beginning of one more. -/
def ExchangesSoFar (hist : List AtlEvent) : Prop :=
  ∃ done rest, Exchanges done ∧ hist = done ++ rest ∧
    (rest = [] ∨ (∃ r, rest = [.request r]) ∨
      ∃ r c, fits r c = true ∧ rest = [.request r, .answer c])

/-- Whole exchanges, and at most one request that waits for its answer. -/
def NothingOwed (hist : List AtlEvent) : Prop :=
  ∃ done rest, Exchanges done ∧ hist = done ++ rest ∧ (rest = [] ∨ ∃ r, rest = [.request r])

/-- **An answer has the right kind and handle.** In every run in which requests are
handled one at a time and which keeps to `failsWhileOn`, every answer is followed
by exactly the ioctl expected for its request, no other is sent, and none is
missing when the thread waits with no flag. -/
theorem atl_answers_kind [Inhabited α] (cb : GpsCallbacks) (handle : Int)
    {as : List (EngAct α)} {s : EngState α} {hist : List AtlEvent}
    (h : exec (restrict (fun p a => oneAtATime p a ∧ failsWhileOn p.1 a)
      (observe atlSeen engStep)) (engInit α cb handle, []) as = some (s, hist)) :
    ExchangesSoFar hist ∧
      (s.thread = .waiting → s.data.deferredActionFlags = .zero → NothingOwed hist) := by
  have hinit : InPass (engInit α cb handle) ∧ AtlPhase (engInit α cb handle) [] :=
    ⟨nofun, .idle .nil rfl⟩
  have hstep : ∀ (s : EngState α) (h : List AtlEvent) a s',
      oneAtATime (s, h) a ∧ failsWhileOn s a → engStep s a = some s' →
      InPass s ∧ AtlPhase s h → InPass s' ∧ AtlPhase s' (h ++ atlSeen s a s') :=
    fun s h a s' hok hst hi => ⟨hi.1.step (engStep_cases hst), hi.2.step hi.1 hok hst⟩
  obtain ⟨-, hi⟩ := observe_invariant hstep hinit h
  cases hi with
  | idle hdone hnil =>
    have hend := (List.append_nil hist).symm
    exact ⟨⟨hist, [], hdone, hend, .inl rfl⟩, fun _ _ => ⟨hist, [], hdone, hend, .inl rfl⟩⟩
  | @asked done r hdone _ _ _ =>
    exact ⟨⟨done, _, hdone, rfl, .inr (.inl ⟨r, rfl⟩)⟩, fun _ _ => ⟨done, _, hdone, rfl, .inr ⟨r, rfl⟩⟩⟩
  | @answered done r c hdone hfit hone _ _ _ =>
    refine ⟨⟨done, _, hdone, rfl, .inr (.inr ⟨r, c, hfit, rfl⟩)⟩, fun ht hf => ?_⟩
    rw [pending, ht, hf] at hone
    cases hone

/-- An OPEN that succeeds, sent on. -/
def openAnswered : List (EngAct Unit) :=
  requestPass (openOf 7) ++ reportPass ++ .dataConn (.opened (some [1])) :: answerPass

theorem atl_answers_kind_open :
    ∃ s hist, exec (restrict (fun p a => oneAtATime p a ∧ failsWhileOn p.1 a)
        (observe atlSeen engStep)) (engInit Unit ⟨true, true⟩ 1, []) openAnswered =
          some (s, hist) ∧
      hist = [.request (openOf 7), .answer (.opened (some [1])), .openStatus 7 true] ∧
      NothingOwed hist := by
  have hrun : (exec (restrict (fun p a => oneAtATime p a ∧ failsWhileOn p.1 a)
      (observe atlSeen engStep)) (engInit Unit ⟨true, true⟩ 1, []) openAnswered).any (fun p =>
        p.2 = [.request (openOf 7), .answer (.opened (some [1])), .openStatus 7 true] ∧
          p.1.thread = .waiting ∧ p.1.data.deferredActionFlags = .zero) = true := by decide
  obtain ⟨⟨s, hist⟩, hs, h⟩ := (Option.any_eq_true _ _).mp hrun
  obtain ⟨hhist, hw, hf⟩ := of_decide_eq_true h
  exact ⟨s, hist, hs, hhist, (atl_answers_kind ⟨true, true⟩ 1 hs).2 hw hf⟩

/-- An OPEN that fails before any connection was ever on. -/
def openFailed : List (EngAct Unit) :=
  requestPass (openOf 7) ++ reportPass ++ .dataConn .failed :: answerPass

/-- With a close status FAILURE behind the answer it is no exchange. -/
theorem not_exchangesSoFar_closeStatus (r : ServerRequest) (c : ConnResult) (h : BitVec 32) :
    ¬ ExchangesSoFar [.request r, .answer c, .closeStatus h false] := by
  rintro ⟨done, rest, hdone, heq, hrest⟩
  cases hdone with
  | nil =>
    rw [List.nil_append] at heq
    rcases hrest with rfl | ⟨_, rfl⟩ | ⟨_, _, _, rfl⟩
    · cases heq
    · cases heq
    · cases heq
  | @snoc done r' c' _ _ =>
    have hlen := congrArg List.length heq
    simp only [List.length_append, List.length_cons, List.length_nil] at hlen
    obtain rfl : done = [] := List.eq_nil_of_length_eq_zero (by omega)
    obtain rfl : rest = [] := List.eq_nil_of_length_eq_zero (by omega)
    cases c' <;> simp [expected] at heq

/-- The modem is told that a CLOSE failed. -/
theorem atl_open_failure_sent_as_close :
    ∃ s hist, exec (restrict oneAtATime (observe atlSeen engStep))
        (engInit Unit ⟨true, true⟩ 1, []) openFailed = some (s, hist) ∧
      hist = [.request (openOf 7), .answer .failed, .closeStatus 7 false] ∧
      ¬ ExchangesSoFar hist := by
  have hrun : (exec (restrict oneAtATime (observe atlSeen engStep))
      (engInit Unit ⟨true, true⟩ 1, []) openFailed).any (fun p =>
        p.2 = [.request (openOf 7), .answer .failed, .closeStatus 7 false]) = true := by decide
  obtain ⟨⟨s, hist⟩, hs, h⟩ := (Option.any_eq_true _ _).mp hrun
  obtain rfl := of_decide_eq_true h
  exact ⟨s, _, hs, rfl, not_exchangesSoFar_closeStatus _ _ _⟩

end Ancora.LocEng
