import Ancora.Lib.History
import Ancora.Lib.Machine

/-!
# Network-initiated requests (loc_eng_ni.cpp)

A network-initiated (NI) request asks the user whether the phone may be located.
The deferred thread hands it to `loc_ni_request_handler`, which saves it and
spawns `loc_ni_thread_proc`; the thread waits for the user's answer or a
time-out and sends one response to the modem. `loc_eng_ni_respond` is called by
the framework, on any thread, with any notification id.

- The answer is one flag and one value under `user_cb_data_mutex`; the id and the
  busy flag are written under `loc_ni_lock` and read by `loc_eng_ni_respond`
  under neither. A call therefore has three steps here (read the id, read the
  busy flag, store), and anything may happen in between.
- The NI thread holds `user_cb_data_mutex` while it sends the response
  (`NiThread.responding`), so a store waits until the response is out.
- `Disciplined log o` is what the modem should see: requests and responses
  alternate, and a response is NORESP or an answer given under the request's own
  id after the request was notified. `o` is the request still open.
- **`ni_answers_belong`**: the log is disciplined in every run in which each
  answer is stored while the request it was given to still waits, and the NI
  thread can be created.

Without the condition an answer that passes the check too late stays in the flag
and answers the next request (`ni_answer_leaks`).
-/

namespace Ancora.LocEng.Ni

open Machine

variable {ρ : Type}

/-- `rpc_loc_ni_user_resp_e_type`. -/
inductive NiUserResp
  | accept
  | deny
  | noResp
  deriving DecidableEq, Repr

/-- `GpsUserResponseType`; the framework may pass any number. -/
inductive GpsUserResponse
  | accept
  | deny
  | noResp
  | other
  deriving DecidableEq, Repr

/-- The switch of `loc_ni_process_user_response` (loc_eng_ni.cpp:568). -/
def GpsUserResponse.toResp : GpsUserResponse → Option NiUserResp
  | .accept => some .accept
  | .deny => some .deny
  | .noResp => some .noResp
  | .other => none

/-- What the framework and the modem see of NI requests. -/
inductive NiEvent (ρ : Type)
  /-- A request was accepted and got its notification id. -/
  | accepted (id : Int) (req : ρ)
  /-- `loc_eng_ni_respond(id, r)` was entered. -/
  | called (id : Int) (r : GpsUserResponse)
  /-- `loc_ni_respond` sent a response with its pass-back. -/
  | sent (x : NiUserResp) (req : ρ)
  deriving DecidableEq, Repr

/-- How far a call of `loc_eng_ni_respond` has got. -/
inductive CallPhase
  | entered
  | idRead
  | busyRead
  deriving DecidableEq, Repr

/-- A call of `loc_eng_ni_respond` in progress; `request` counts the requests
notified when it was entered. -/
structure NiCall where
  id : Int
  response : GpsUserResponse
  phase : CallPhase
  request : Nat
  deriving DecidableEq, Repr

/-- Where the NI thread is. -/
inductive NiThread
  | none
  | starting
  | waiting
  | responding
  | finishing
  deriving DecidableEq, Repr

/-- The thread has not left its wait loop. -/
def NiThread.waits : NiThread → Bool
  | .starting => true
  | .waiting => true
  | _ => false

/-- `loc_eng_ni_data` with the threads that use it. -/
structure NiState (ρ : Type) where
  notifInProgress : Bool
  currentNotifId : Int
  responseTimeLeft : Nat
  userResponseReceived : Bool
  resp : NiUserResp
  locNiRequest : ρ
  /-- `loc_ni_request_handler` holds `loc_ni_lock`. -/
  handler : Bool
  thread : NiThread
  calls : List NiCall
  /-- The number of requests notified so far. -/
  requests : Nat
  log : List (NiEvent ρ)
  deriving DecidableEq, Repr

/-- The state `loc_eng_ni_init` leaves (loc_eng_ni.cpp:700). -/
def niInit (ρ : Type) [Inhabited ρ] : NiState ρ where
  notifInProgress := false
  currentNotifId := -1
  responseTimeLeft := 0
  userResponseReceived := false
  resp := .accept
  locNiRequest := default
  handler := false
  thread := .none
  calls := []
  requests := 0
  log := []

/-- The atomic steps; `i` picks one of the calls in progress. -/
inductive NiAct (ρ : Type)
  | request (req : ρ)
  | notify (id : Int) (created : Bool)
  | respond (id : Int) (r : GpsUserResponse)
  | respondReadId (i : Nat)
  | respondReadBusy (i : Nat)
  | respondStore (i : Nat)
  | threadStart
  | threadWake
  | threadTimeout
  | threadRespond
  | threadFinish
  deriving DecidableEq, Repr

/-- `LOC_NI_NO_RESPONSE_TIME`. -/
def locNiNoResponseTime : Nat := 20

/-- The top of the wait loop of `loc_ni_thread_proc` (loc_eng_ni.cpp:658): leave
with the answer and reset the flag, or wait. -/
def waitLoop (s : NiState ρ) : NiState ρ :=
  if s.userResponseReceived then
    { s with userResponseReceived := false, thread := .responding }
  else { s with thread := .waiting }

/-- One atomic step. -/
def niStep (s : NiState ρ) : NiAct ρ → Option (NiState ρ)
  | .request req =>
    -- the handler runs on the deferred thread, one request after the other
    if s.handler then none
    else if s.notifInProgress then some s
    else some { s with locNiRequest := req, notifInProgress := true, handler := true }
  | .notify id created =>
    if s.handler then
      some { s with
        currentNotifId := id
        responseTimeLeft := 5 + locNiNoResponseTime
        thread := if created then .starting else s.thread
        handler := false
        requests := s.requests + 1
        log := s.log ++ [.accepted id s.locNiRequest] }
    else none
  | .respond id r =>
    some { s with
      calls := s.calls ++ [⟨id, r, .entered, s.requests⟩]
      log := s.log ++ [.called id r] }
  | .respondReadId i =>
    match s.calls[i]? with
    | some c =>
      if c.phase = .entered then
        if c.id = s.currentNotifId then
          some { s with calls := s.calls.set i { c with phase := .idRead } }
        else some { s with calls := s.calls.eraseIdx i }
      else none
    | none => none
  | .respondReadBusy i =>
    match s.calls[i]? with
    | some c =>
      if c.phase = .idRead then
        if s.notifInProgress then
          some { s with calls := s.calls.set i { c with phase := .busyRead } }
        else some { s with calls := s.calls.eraseIdx i }
      else none
    | none => none
  | .respondStore i =>
    match s.calls[i]? with
    | some c =>
      if c.phase = .busyRead then
        match c.response.toResp with
        | some x =>
          -- user_cb_data_mutex is held while the thread sends its response
          if s.thread = .responding then none
          else some { s with
            resp := x, userResponseReceived := true, calls := s.calls.eraseIdx i }
        | none => some { s with calls := s.calls.eraseIdx i }
      else none
    | none => none
  | .threadStart => if s.thread = .starting then some (waitLoop s) else none
  | .threadWake => if s.thread = .waiting then some (waitLoop s) else none
  | .threadTimeout =>
    if s.thread = .waiting then
      some { s with resp := .noResp, userResponseReceived := false, thread := .responding }
    else none
  | .threadRespond =>
    if s.thread = .responding then
      some { s with thread := .finishing, log := s.log ++ [.sent s.resp s.locNiRequest] }
    else none
  | .threadFinish =>
    if s.thread = .finishing ∧ s.handler = false then
      some { s with
        notifInProgress := false, responseTimeLeft := 0, currentNotifId := -1, thread := .none }
    else none

/-! ## What the modem should see -/

/-- A request waiting for its response, and the answers given since. -/
structure OpenRequest (ρ : Type) where
  id : Int
  req : ρ
  calls : List (Int × GpsUserResponse)

/-- `x` is what the user answered under the request's own id. -/
def OpenRequest.answeredBy (o : OpenRequest ρ) (x : NiUserResp) : Prop :=
  ∃ r, (o.id, r) ∈ o.calls ∧ r.toResp = some x

/-- Requests and responses alternate, and each response is NORESP or an answer
that was given to the request it goes out for. -/
inductive Disciplined : List (NiEvent ρ) → Option (OpenRequest ρ) → Prop
  | start : Disciplined [] none
  | accepted {log} (id : Int) (req : ρ) : Disciplined log none →
      Disciplined (log ++ [.accepted id req]) (some ⟨id, req, []⟩)
  | called {log o} (id : Int) (r : GpsUserResponse) : Disciplined log o →
      Disciplined (log ++ [.called id r])
        (o.map fun o => { o with calls := o.calls ++ [(id, r)] })
  | sent {log} {o : OpenRequest ρ} (x : NiUserResp) : Disciplined log (some o) →
      x = .noResp ∨ o.answeredBy x → Disciplined (log ++ [.sent x o.req]) none

/-- A call of `loc_eng_ni_respond`. -/
def NiEvent.isCall : NiEvent ρ → Bool
  | .called _ _ => true
  | _ => false

/-- The open request is the last one accepted, with only calls since. -/
theorem Disciplined.open_split {log : List (NiEvent ρ)} {o : Option (OpenRequest ρ)}
    (h : Disciplined log o) :
    ∀ q, o = some q → ∃ pre post, log = pre ++ .accepted q.id q.req :: post ∧
      (∀ e ∈ post, e.isCall = true) ∧ ∀ id r, (id, r) ∈ q.calls → .called id r ∈ post := by
  induction h with
  | start => nofun
  | @accepted log id req _ _ =>
    rintro q ⟨⟩
    exact ⟨log, [], rfl, by simp, by simp⟩
  | @called log o id r _ ih =>
    intro q hq
    obtain ⟨q₀, rfl, rfl⟩ := Option.map_eq_some_iff.mp hq
    obtain ⟨pre, post, rfl, hpost, hcalls⟩ := ih q₀ rfl
    refine ⟨pre, post ++ [.called id r], by simp, ?_, ?_⟩
    · intro e he
      rcases List.mem_append.mp he with he | he
      · exact hpost e he
      · rw [List.mem_singleton.mp he]
        rfl
    · intro id' r' hmem
      rcases List.mem_append.mp hmem with hmem | hmem
      · exact List.mem_append_left _ (hcalls id' r' hmem)
      · obtain ⟨rfl, rfl⟩ := Prod.mk.inj (List.mem_singleton.mp hmem)
        simp
  | sent => nofun

/-- Every response goes to the last accepted request, which has had none, and is
NORESP or an answer given under its id since. -/
def OwnAnswers (log : List (NiEvent ρ)) : Prop :=
  ∀ pre x req, pre ++ [.sent x req] <+: log →
    ∃ pre₁ id pre₂, pre = pre₁ ++ .accepted id req :: pre₂ ∧
      (∀ e ∈ pre₂, e.isCall = true) ∧
      (x = .noResp ∨ ∃ r, .called id r ∈ pre₂ ∧ r.toResp = some x)

theorem ownAnswers_snoc {log : List (NiEvent ρ)} (h : OwnAnswers log) {e : NiEvent ρ}
    (he : ∀ x req, e ≠ .sent x req) : OwnAnswers (log ++ [e]) := by
  intro pre x req hpre
  rcases History.prefix_snoc hpre with ⟨-, heq⟩ | hpre
  · exact absurd heq.symm (he x req)
  · exact h pre x req hpre

theorem Disciplined.ownAnswers {log : List (NiEvent ρ)} {o : Option (OpenRequest ρ)}
    (h : Disciplined log o) : OwnAnswers log := by
  induction h with
  | start => intro pre x req hpre; simp at hpre
  | accepted id req _ ih => exact ownAnswers_snoc ih nofun
  | called id r _ ih => exact ownAnswers_snoc ih nofun
  | @sent log o x ho hx ih =>
    intro pre x' req hpre
    rcases History.prefix_snoc hpre with ⟨rfl, he⟩ | hpre
    · obtain ⟨rfl, rfl⟩ := NiEvent.sent.inj he
      obtain ⟨pre₁, pre₂, hpre, hcalls, hmem⟩ := ho.open_split o rfl
      refine ⟨pre₁, o.id, pre₂, hpre, hcalls, ?_⟩
      rcases hx with hx | ⟨r, hr, hresp⟩
      · exact .inl hx
      · exact .inr ⟨r, hmem _ _ hr, hresp⟩
    · exact ih pre x' req hpre

/-- The response to a request comes before anything but calls. -/
def respondedIn (req : ρ) (post : List (NiEvent ρ)) : Prop :=
  ∃ post₁ x post₂, post = post₁ ++ .sent x req :: post₂ ∧ ∀ e ∈ post₁, e.isCall = true

/-- Every accepted request has had its response, unless it is the open one. -/
theorem Disciplined.responded {log : List (NiEvent ρ)} {o : Option (OpenRequest ρ)}
    (h : Disciplined log o) :
    ∀ pre id req post, log = pre ++ .accepted id req :: post →
      respondedIn req post ∨
        ((∀ e ∈ post, e.isCall = true) ∧ ∃ q, o = some q ∧ q.req = req) := by
  induction h with
  | start => intro pre id req post heq; simp at heq
  | @accepted log id₀ req₀ hd ih =>
    intro pre id req post heq
    rcases History.snoc_split heq with ⟨-, he, rfl⟩ | ⟨post', rfl, hlog⟩
    · obtain ⟨-, rfl⟩ := NiEvent.accepted.inj he
      exact .inr ⟨by simp, _, rfl, rfl⟩
    · rcases ih pre id req post' hlog with ⟨post₁, x, post₂, rfl, hcalls⟩ | ⟨-, q, hq, -⟩
      · exact .inl ⟨post₁, x, post₂ ++ [.accepted id₀ req₀], by simp, hcalls⟩
      · cases hq
  | @called log o id₀ r₀ hd ih =>
    intro pre id req post heq
    rcases History.snoc_split heq with ⟨-, he, -⟩ | ⟨post', rfl, hlog⟩
    · cases he
    · rcases ih pre id req post' hlog with ⟨post₁, x, post₂, rfl, hcalls⟩ | ⟨hcalls, q, rfl, hreq⟩
      · exact .inl ⟨post₁, x, post₂ ++ [.called id₀ r₀], by simp, hcalls⟩
      · refine .inr ⟨?_, _, rfl, hreq⟩
        intro e he
        rcases List.mem_append.mp he with he | he
        · exact hcalls e he
        · rw [List.mem_singleton.mp he]
          rfl
  | @sent log o x hd hx ih =>
    intro pre id req post heq
    rcases History.snoc_split heq with ⟨-, he, -⟩ | ⟨post', rfl, hlog⟩
    · cases he
    · rcases ih pre id req post' hlog with ⟨post₁, x', post₂, rfl, hcalls⟩ | ⟨hcalls, q, hq, hreq⟩
      · exact .inl ⟨post₁, x', post₂ ++ [.sent x o.req], by simp, hcalls⟩
      · cases hq
        exact .inl ⟨post', x, [], by rw [hreq], hcalls⟩

/-! ## The invariant -/

/-- The condition on a step: an answer is stored only while the NI thread of the
request that was notified when the call was entered has not left its wait, and
`pthread_create` succeeds. -/
def answerTimely (s : NiState ρ) : NiAct ρ → Prop
  | .respondStore i =>
    match s.calls[i]? with
    | some c => c.request = s.requests ∧ s.thread.waits = true
    | none => True
  | .notify _ created => created = true
  | _ => True

instance (s : NiState ρ) (a : NiAct ρ) : Decidable (answerTimely s a) := by
  unfold answerTimely
  split
  · split <;> infer_instance
  · infer_instance
  · infer_instance

/-- The NI thread waits for an answer to `o`: the data are those of `o`, an
answer that has arrived was given to `o`, and so was every call in progress that
was entered since `o` was notified. -/
structure Waits (s : NiState ρ) (o : OpenRequest ρ) : Prop where
  id_eq : s.currentNotifId = o.id
  req_eq : s.locNiRequest = o.req
  received : s.userResponseReceived = true → o.answeredBy s.resp
  calls : ∀ c ∈ s.calls, c.request = s.requests →
    (c.id, c.response) ∈ o.calls ∧ (c.phase ≠ .entered → c.id = o.id)

/-- What the thread's position says about the open request. -/
inductive Phase (s : NiState ρ) : NiThread → Option (OpenRequest ρ) → Prop
  | idle (hr : s.userResponseReceived = false) : Phase s .none none
  | waits {t : NiThread} {o : OpenRequest ρ} (ht : t.waits = true) (h : Waits s o) :
      Phase s t (some o)
  | responding {o : OpenRequest ρ} (hreq : s.locNiRequest = o.req)
      (hr : s.userResponseReceived = false) (hresp : s.resp = .noResp ∨ o.answeredBy s.resp) :
      Phase s .responding (some o)
  | finishing (hr : s.userResponseReceived = false) : Phase s .finishing none

/-- The log is disciplined with `o` open, and the data agree with it. -/
structure NiInv (s : NiState ρ) (o : Option (OpenRequest ρ)) : Prop where
  disciplined : Disciplined s.log o
  phase : Phase s s.thread o
  handler_idle : s.handler = true → s.thread = .none
  handler_busy : s.handler = true → s.notifInProgress = true
  busy : s.thread ≠ .none → s.notifInProgress = true
  calls_le : ∀ c ∈ s.calls, c.request ≤ s.requests

/-- A thread that waits has an open request. -/
theorem Phase.of_waits {s : NiState ρ} {t : NiThread} {o : Option (OpenRequest ρ)}
    (h : Phase s t o) (ht : t.waits = true) : ∃ q, o = some q ∧ Waits s q := by
  cases h with
  | idle => cases ht
  | waits _ h => exact ⟨_, rfl, h⟩
  | responding => cases ht
  | finishing => cases ht

/-- A step outside the thread carries its phase along, with `g` for what the step
does to the open request. -/
theorem Phase.map {s s' : NiState ρ} {t : NiThread} {o : Option (OpenRequest ρ)}
    (h : Phase s t o) (g : OpenRequest ρ → OpenRequest ρ) (hw : ∀ q, Waits s q → Waits s' (g q))
    (hrec : s'.userResponseReceived = s.userResponseReceived)
    (hreq : s'.locNiRequest = s.locNiRequest) (hresp : s'.resp = s.resp)
    (hgreq : ∀ q, (g q).req = q.req)
    (hans : ∀ q x, q.answeredBy x → (g q).answeredBy x) : Phase s' t (o.map g) := by
  cases h with
  | idle hr => exact .idle (hrec.trans hr)
  | waits ht h => exact .waits ht (hw _ h)
  | @responding q hq hr hx =>
    refine .responding (hreq.trans (hq.trans (hgreq q).symm)) (hrec.trans hr) ?_
    rw [hresp]
    exact hx.imp (fun h => h) (hans q _)
  | finishing hr => exact .finishing (hrec.trans hr)

/-- Calls that advance or give up leave the request alone. -/
theorem NiInv.calls_step {s : NiState ρ} {o : Option (OpenRequest ρ)} (hi : NiInv s o)
    {calls : List NiCall}
    (hcalls : ∀ c' ∈ calls, ∃ c ∈ s.calls, c'.id = c.id ∧ c'.response = c.response ∧
      c'.request = c.request ∧
      (c'.phase ≠ .entered → c.phase ≠ .entered ∨ c'.id = s.currentNotifId)) :
    NiInv { s with calls := calls } o := by
  have hw : ∀ q, Waits s q → Waits { s with calls := calls } q := by
    intro q hq
    refine ⟨hq.id_eq, hq.req_eq, hq.received, ?_⟩
    intro c' hc' hreq
    obtain ⟨c, hc, hid, hresp, hr, hphase⟩ := hcalls c' hc'
    obtain ⟨hmem, hold⟩ := hq.calls c hc (hr ▸ hreq)
    refine ⟨by rw [hid, hresp]; exact hmem, fun hne => ?_⟩
    rcases hphase hne with hne | heq
    · rw [hid]
      exact hold hne
    · exact heq.trans hq.id_eq
  refine ⟨hi.disciplined, ?_, hi.handler_idle, hi.handler_busy, hi.busy, ?_⟩
  · have hp : Phase { s with calls := calls } s.thread (o.map fun q => q) :=
      hi.phase.map (fun q => q) hw rfl rfl rfl (fun _ => rfl) (fun _ _ h => h)
    rwa [Option.map_id'] at hp
  · intro c' hc'
    obtain ⟨c, hc, -, -, hr, -⟩ := hcalls c' hc'
    rw [hr]
    exact hi.calls_le c hc

/-- Dropping a call. -/
theorem NiInv.calls_erase {s : NiState ρ} {o : Option (OpenRequest ρ)} (hi : NiInv s o)
    (i : Nat) : NiInv { s with calls := s.calls.eraseIdx i } o :=
  hi.calls_step fun c' hc' =>
    ⟨c', List.mem_of_mem_eraseIdx hc', rfl, rfl, rfl, fun h => .inl h⟩

/-- Advancing a call, with the id read if it leaves its first phase. -/
theorem NiInv.calls_advance {s : NiState ρ} {o : Option (OpenRequest ρ)} (hi : NiInv s o)
    {i : Nat} {c : NiCall} (hc : s.calls[i]? = some c) {phase : CallPhase}
    (hphase : c.phase ≠ .entered ∨ c.id = s.currentNotifId) :
    NiInv { s with calls := s.calls.set i { c with phase := phase } } o := by
  refine hi.calls_step fun c' hc' => ?_
  rcases List.mem_or_eq_of_mem_set hc' with hmem | rfl
  · exact ⟨c', hmem, rfl, rfl, rfl, fun h => .inl h⟩
  · exact ⟨c, List.mem_of_getElem? hc, rfl, rfl, rfl, fun _ => hphase⟩

/-- The wait loop keeps the request open, and leaves with its own answer. -/
theorem NiInv.waitLoop {s : NiState ρ} {o : Option (OpenRequest ρ)} (hi : NiInv s o)
    (h : s.thread.waits = true) : NiInv (waitLoop s) o := by
  obtain ⟨q, rfl, hq⟩ := hi.phase.of_waits h
  have hne : s.thread ≠ .none := by
    intro ht
    rw [ht] at h
    cases h
  have hidle : s.handler = true → False := fun hh => hne (hi.handler_idle hh)
  unfold Ni.waitLoop
  by_cases hr : s.userResponseReceived = true
  · rw [if_pos hr]
    exact ⟨hi.disciplined, .responding hq.req_eq rfl (.inr (hq.received hr)),
      fun hh => (hidle hh).elim, hi.handler_busy, fun _ => hi.busy hne, hi.calls_le⟩
  · rw [if_neg hr]
    exact ⟨hi.disciplined, .waits rfl ⟨hq.id_eq, hq.req_eq, hq.received, hq.calls⟩,
      fun hh => (hidle hh).elim, hi.handler_busy, fun _ => hi.busy hne, hi.calls_le⟩

/-- Entering `loc_eng_ni_respond` gives an answer to whatever is open. -/
theorem NiInv.respond {s : NiState ρ} {o : Option (OpenRequest ρ)} (hi : NiInv s o)
    (id : Int) (r : GpsUserResponse) :
    NiInv { s with
      calls := s.calls ++ [⟨id, r, .entered, s.requests⟩]
      log := s.log ++ [.called id r] }
      (o.map fun o => { o with calls := o.calls ++ [(id, r)] }) := by
  have hans : ∀ (q : OpenRequest ρ) x, q.answeredBy x →
      OpenRequest.answeredBy { q with calls := q.calls ++ [(id, r)] } x := by
    rintro q x ⟨r', hr', hx⟩
    exact ⟨r', List.mem_append_left _ hr', hx⟩
  have hw : ∀ q, Waits s q → Waits { s with
      calls := s.calls ++ [⟨id, r, .entered, s.requests⟩]
      log := s.log ++ [.called id r] } { q with calls := q.calls ++ [(id, r)] } := by
    intro q hq
    refine ⟨hq.id_eq, hq.req_eq, fun h => hans _ _ (hq.received h), ?_⟩
    intro c hc hreq
    rcases List.mem_append.mp hc with hc | hc
    · exact ⟨List.mem_append_left _ (hq.calls c hc hreq).1, (hq.calls c hc hreq).2⟩
    · rw [List.mem_singleton.mp hc]
      exact ⟨by simp, fun h => absurd rfl h⟩
  refine ⟨.called id r hi.disciplined, ?_, hi.handler_idle, hi.handler_busy, hi.busy, ?_⟩
  · exact hi.phase.map _ hw rfl rfl rfl (fun _ => rfl) hans
  · intro c hc
    rcases List.mem_append.mp hc with hc | hc
    · exact hi.calls_le c hc
    · obtain rfl := List.mem_singleton.mp hc
      exact Nat.le_refl _

/-- A timely store is an answer to the open request. -/
theorem NiInv.store {s : NiState ρ} {o : Option (OpenRequest ρ)} (hi : NiInv s o) {i : Nat}
    {c : NiCall} (hc : s.calls[i]? = some c) (hphase : c.phase = .busyRead)
    (hreq : c.request = s.requests) (ht : s.thread.waits = true) {x : NiUserResp}
    (hx : c.response.toResp = some x) :
    NiInv { s with
      resp := x, userResponseReceived := true, calls := s.calls.eraseIdx i } o := by
  obtain ⟨q, rfl, hq⟩ := hi.phase.of_waits ht
  obtain ⟨hmem, hid⟩ := hq.calls c (List.mem_of_getElem? hc) hreq
  have hcid : c.id = q.id := hid (by rw [hphase]; exact nofun)
  refine ⟨hi.disciplined, .waits ht ⟨hq.id_eq, hq.req_eq, fun _ => ?_, ?_⟩, hi.handler_idle,
    hi.handler_busy, hi.busy, ?_⟩
  · exact ⟨c.response, hcid ▸ hmem, hx⟩
  · exact fun c' hc' => hq.calls c' (List.mem_of_mem_eraseIdx hc')
  · exact fun c' hc' => hi.calls_le c' (List.mem_of_mem_eraseIdx hc')

/-- An accepted request opens: no call in progress was entered under it. -/
theorem NiInv.notify {s : NiState ρ} {o : Option (OpenRequest ρ)} (hi : NiInv s o)
    (hh : s.handler = true) (id : Int) :
    NiInv { s with
      currentNotifId := id
      responseTimeLeft := 5 + locNiNoResponseTime
      thread := .starting
      handler := false
      requests := s.requests + 1
      log := s.log ++ [.accepted id s.locNiRequest] } (some ⟨id, s.locNiRequest, []⟩) := by
  have hthread := hi.handler_idle hh
  have hp := hi.phase
  have hd := hi.disciplined
  rw [hthread] at hp
  cases hp with
  | waits ht => cases ht
  | idle hr =>
    refine ⟨.accepted id _ hd, .waits rfl ⟨rfl, rfl, ?_, ?_⟩, nofun, nofun,
      fun _ => hi.handler_busy hh, ?_⟩
    · intro h
      rw [show s.userResponseReceived = false from hr] at h
      cases h
    · intro c hc hreq
      have hle := hi.calls_le c hc
      have hreq' : c.request = s.requests + 1 := hreq
      omega
    · intro c hc
      have hle := hi.calls_le c hc
      show c.request ≤ s.requests + 1
      omega

/-- A free handler finds no thread, so no request is open when it takes the next. -/
theorem NiInv.request {s : NiState ρ} {o : Option (OpenRequest ρ)} (hi : NiInv s o)
    (hidle : s.notifInProgress ≠ true) (req : ρ) :
    NiInv { s with locNiRequest := req, notifInProgress := true, handler := true } o := by
  have hthread : s.thread = .none := by
    by_contra hne
    exact hidle (hi.busy hne)
  refine ⟨hi.disciplined, ?_, fun _ => hthread, fun _ => rfl, fun _ => rfl, hi.calls_le⟩
  have hp := hi.phase
  show Phase _ s.thread o
  rw [hthread] at hp ⊢
  cases hp with
  | idle hr => exact .idle hr
  | waits ht => cases ht

/-- The thread sends the response of the request it was started for. -/
theorem NiInv.threadRespond {s : NiState ρ} {o : Option (OpenRequest ρ)} (hi : NiInv s o)
    (ht : s.thread = .responding) :
    NiInv { s with thread := .finishing, log := s.log ++ [.sent s.resp s.locNiRequest] } none := by
  have hne : s.thread ≠ .none := by rw [ht]; exact nofun
  have hp := hi.phase
  have hd := hi.disciplined
  rw [ht] at hp
  cases hp with
  | waits hw => cases hw
  | responding hreq hr hresp =>
    refine ⟨?_, .finishing hr, fun hh => absurd (hi.handler_idle hh) hne, hi.handler_busy,
      fun _ => hi.busy hne, hi.calls_le⟩
    show Disciplined (s.log ++ [.sent s.resp s.locNiRequest]) none
    rw [hreq]
    exact .sent s.resp hd hresp

/-- The thread clears the handler's data and ends. -/
theorem NiInv.threadFinish {s : NiState ρ} {o : Option (OpenRequest ρ)} (hi : NiInv s o)
    (ht : s.thread = .finishing) (hh : s.handler = false) :
    NiInv { s with
      notifInProgress := false, responseTimeLeft := 0, currentNotifId := -1, thread := .none }
      none := by
  have hp := hi.phase
  have hd := hi.disciplined
  rw [ht] at hp
  cases hp with
  | waits hw => cases hw
  | finishing hr =>
    refine ⟨hd, .idle hr, fun _ => rfl, fun hh' => ?_, fun hne => absurd rfl hne, hi.calls_le⟩
    rw [show s.handler = true from hh'] at hh
    cases hh

/-- Every permitted step keeps the invariant. -/
theorem NiInv.step {s s' : NiState ρ} {a : NiAct ρ} (hok : answerTimely s a)
    (h : niStep s a = some s') (hi : ∃ o, NiInv s o) : ∃ o, NiInv s' o := by
  obtain ⟨o, hi⟩ := hi
  cases a with
  | request req =>
    simp only [niStep] at h
    split at h
    · cases h
    next hh =>
      split at h
      · cases h
        exact ⟨o, hi⟩
      next hidle =>
        cases h
        exact ⟨o, hi.request hidle req⟩
  | notify id created =>
    have hcreated : created = true := hok
    simp only [niStep, hcreated, if_true, Option.ite_none_right_eq_some, Option.some.injEq] at h
    obtain ⟨hh, rfl⟩ := h
    exact ⟨_, hi.notify hh id⟩
  | respond id r =>
    cases h
    exact ⟨_, hi.respond id r⟩
  | respondReadId i =>
    simp only [niStep] at h
    split at h
    next c hc =>
      split at h
      · split at h
        next hid =>
          cases h
          exact ⟨o, hi.calls_advance hc (.inr hid)⟩
        · cases h
          exact ⟨o, hi.calls_erase i⟩
      · cases h
    · cases h
  | respondReadBusy i =>
    simp only [niStep] at h
    split at h
    next c hc =>
      split at h
      next hphase =>
        split at h
        · cases h
          exact ⟨o, hi.calls_advance hc (.inl (by rw [hphase]; exact nofun))⟩
        · cases h
          exact ⟨o, hi.calls_erase i⟩
      · cases h
    · cases h
  | respondStore i =>
    simp only [niStep] at h
    split at h
    next c hc =>
      simp only [answerTimely, hc] at hok
      split at h
      next hphase =>
        split at h
        next x hx =>
          split at h
          · cases h
          · cases h
            exact ⟨o, hi.store hc hphase hok.1 hok.2 hx⟩
        · cases h
          exact ⟨o, hi.calls_erase i⟩
      · cases h
    · cases h
  | threadStart =>
    simp only [niStep, Option.ite_none_right_eq_some, Option.some.injEq] at h
    obtain ⟨ht, rfl⟩ := h
    exact ⟨o, hi.waitLoop (by rw [ht]; rfl)⟩
  | threadWake =>
    simp only [niStep, Option.ite_none_right_eq_some, Option.some.injEq] at h
    obtain ⟨ht, rfl⟩ := h
    exact ⟨o, hi.waitLoop (by rw [ht]; rfl)⟩
  | threadTimeout =>
    simp only [niStep, Option.ite_none_right_eq_some, Option.some.injEq] at h
    obtain ⟨ht, rfl⟩ := h
    have hne : s.thread ≠ .none := by rw [ht]; exact nofun
    obtain ⟨q, rfl, hq⟩ := hi.phase.of_waits (by rw [ht]; rfl)
    exact ⟨_, hi.disciplined, .responding hq.req_eq rfl (.inl rfl),
      fun hh => absurd (hi.handler_idle hh) hne, hi.handler_busy, fun _ => hi.busy hne, hi.calls_le⟩
  | threadRespond =>
    simp only [niStep, Option.ite_none_right_eq_some, Option.some.injEq] at h
    obtain ⟨ht, rfl⟩ := h
    exact ⟨none, hi.threadRespond ht⟩
  | threadFinish =>
    simp only [niStep, Option.ite_none_right_eq_some, Option.some.injEq] at h
    obtain ⟨⟨ht, hh⟩, rfl⟩ := h
    exact ⟨none, hi.threadFinish ht hh⟩

theorem NiInv.init [Inhabited ρ] : NiInv (niInit ρ) none :=
  ⟨.start, .idle rfl, nofun, nofun, fun h => absurd rfl h, by simp [niInit]⟩

/-! ## Whole runs -/

/-- The steps of the NI thread itself. -/
def NiAct.ofThread : NiAct ρ → Bool
  | .threadStart => true
  | .threadWake => true
  | .threadTimeout => true
  | .threadRespond => true
  | .threadFinish => true
  | _ => false

/-- An open request is never stuck: its thread alone, timing out if need be,
sends the response. -/
theorem NiInv.open_answerable {s : NiState ρ} {q : OpenRequest ρ} (hi : NiInv s (some q)) :
    ∃ as s' x, (∀ a ∈ as, a.ofThread = true) ∧ exec niStep s as = some s' ∧
      s'.log = s.log ++ [.sent x q.req] := by
  have hsend : ∀ s₁ : NiState ρ, s₁.thread = .responding → s₁.locNiRequest = q.req →
      s₁.log = s.log → ∃ s', niStep s₁ .threadRespond = some s' ∧
        s'.log = s.log ++ [.sent s₁.resp q.req] := by
    intro s₁ ht hreq hlog
    exact ⟨_, if_pos ht, by rw [← hlog, ← hreq]⟩
  have hp := hi.phase
  generalize ht : s.thread = t at hp
  cases hp with
  | responding hreq _ _ =>
    obtain ⟨s', hstep, hlog⟩ := hsend s ht hreq rfl
    exact ⟨[.threadRespond], s', _, by simp [NiAct.ofThread], by simp [hstep], hlog⟩
  | waits hw h =>
    cases t with
    | starting =>
      have hstart : niStep s .threadStart = some (Ni.waitLoop s) := if_pos ht
      by_cases hr : s.userResponseReceived = true
      · rw [Ni.waitLoop, if_pos hr] at hstart
        obtain ⟨s', hstep, hlog⟩ := hsend
          { s with userResponseReceived := false, thread := .responding } rfl h.req_eq rfl
        exact ⟨[.threadStart, .threadRespond], s', _, by simp [NiAct.ofThread],
          by simp [hstart, hstep], hlog⟩
      · rw [Ni.waitLoop, if_neg hr] at hstart
        obtain ⟨s', hstep, hlog⟩ := hsend
          { s with resp := .noResp, userResponseReceived := false, thread := .responding }
          rfl h.req_eq rfl
        have htime : niStep { s with thread := .waiting } .threadTimeout = some
            { s with resp := .noResp, userResponseReceived := false, thread := .responding } := rfl
        exact ⟨[.threadStart, .threadTimeout, .threadRespond], s', _, by simp [NiAct.ofThread],
          by simp [hstart, htime, hstep], hlog⟩
    | waiting =>
      obtain ⟨s', hstep, hlog⟩ := hsend
        { s with resp := .noResp, userResponseReceived := false, thread := .responding }
        rfl h.req_eq rfl
      have htime : niStep s .threadTimeout = some
          { s with resp := .noResp, userResponseReceived := false, thread := .responding } :=
        if_pos ht
      exact ⟨[.threadTimeout, .threadRespond], s', _, by simp [NiAct.ofThread],
        by simp [htime, hstep], hlog⟩
    | none => cases hw
    | responding => cases hw
    | finishing => cases hw

/-- Every accepted request has its one response, or is the last one, unanswered
so far, and its thread can send the response by its own steps. -/
def AnsweredOnce (s : NiState ρ) : Prop :=
  ∀ pre id req post, s.log = pre ++ .accepted id req :: post →
    respondedIn req post ∨
      ((∀ e ∈ post, e.isCall = true) ∧
        ∃ as s' x, (∀ a ∈ as, a.ofThread = true) ∧ exec niStep s as = some s' ∧
          s'.log = s.log ++ [.sent x req])

/-- **NI answers belong to the request they answer.** In every run in which each
answer is stored while the request it was given to still waits, and threads can
be created, every response is NORESP or an answer given under the request's own
id since its notification, and every accepted request gets exactly one. -/
theorem ni_answers_belong [Inhabited ρ] {as : List (NiAct ρ)} {s : NiState ρ}
    (h : exec (restrict answerTimely niStep) (niInit ρ) as = some s) :
    OwnAnswers s.log ∧ AnsweredOnce s := by
  have hinv : ∃ o, NiInv s o := exec_restrict_invariant
    (fun s a s' hok hst (hi : ∃ o, NiInv s o) => NiInv.step hok hst hi) ⟨none, NiInv.init⟩ h
  obtain ⟨o, hi⟩ := hinv
  refine ⟨hi.disciplined.ownAnswers, ?_⟩
  intro pre id req post heq
  rcases hi.disciplined.responded pre id req post heq with hdone | ⟨hcalls, q, rfl, rfl⟩
  · exact .inl hdone
  · exact .inr ⟨hcalls, hi.open_answerable⟩

/-- A request answered in time, then one that times out. -/
def answeredThenTimedOut : List (NiAct Nat) :=
  [.request 1, .notify 5 true, .threadStart, .respond 5 .accept, .respondReadId 0,
    .respondReadBusy 0, .respondStore 0, .threadWake, .threadRespond, .threadFinish,
    .request 2, .notify 9 true, .threadStart, .threadTimeout, .threadRespond, .threadFinish]

theorem ni_answers_belong_two_requests :
    ∃ s, exec (restrict answerTimely niStep) (niInit Nat) answeredThenTimedOut = some s ∧
      s.log = [.accepted 5 1, .called 5 .accept, .sent .accept 1, .accepted 9 2, .sent .noResp 2] ∧
      OwnAnswers s.log ∧ AnsweredOnce s := by
  have hrun : (exec (restrict answerTimely niStep) (niInit Nat) answeredThenTimedOut).any (fun s =>
      s.log = [.accepted 5 1, .called 5 .accept, .sent .accept 1, .accepted 9 2,
        .sent .noResp 2]) = true := by decide
  obtain ⟨s, hs, hlog⟩ := (Option.any_eq_true _ _).mp hrun
  exact ⟨s, hs, of_decide_eq_true hlog, ni_answers_belong hs⟩

/-- A denial that passed the check for request 1 is stored after its time-out. -/
def lateDenial : List (NiAct Nat) :=
  [.request 1, .notify 5 true, .threadStart, .respond 5 .deny, .respondReadId 0,
    .respondReadBusy 0, .threadTimeout, .threadRespond, .respondStore 0, .threadFinish,
    .request 2, .notify 9 true, .threadStart, .threadRespond]

/-- Request 2 is denied, though nobody answered under its id. -/
theorem ni_answer_leaks :
    ∃ s, exec niStep (niInit Nat) lateDenial = some s ∧
      s.log = [.accepted 5 1, .called 5 .deny, .sent .noResp 1, .accepted 9 2, .sent .deny 2] ∧
      ¬ OwnAnswers s.log := by
  have hrun : (exec niStep (niInit Nat) lateDenial).any (fun s =>
      s.log = [.accepted 5 1, .called 5 .deny, .sent .noResp 1, .accepted 9 2, .sent .deny 2]) =
      true := by decide
  obtain ⟨s, hs, h⟩ := (Option.any_eq_true _ _).mp hrun
  have hlog := of_decide_eq_true h
  refine ⟨s, hs, hlog, fun hown => ?_⟩
  obtain ⟨pre₁, id, pre₂, hpre, hcalls, hx | ⟨r, hr, -⟩⟩ :=
    hown [.accepted 5 1, .called 5 .deny, .sent .noResp 1, .accepted 9 2] .deny 2
      (by rw [hlog]; exact List.prefix_rfl)
  · cases hx
  · -- nothing follows the second request's notification
    have hsplit : [.accepted 5 1, .called 5 .deny, .sent .noResp 1] ++ [.accepted 9 2] =
        pre₁ ++ .accepted id 2 :: pre₂ := hpre
    rcases History.snoc_split hsplit with ⟨-, -, rfl⟩ | ⟨post, rfl, -⟩
    · cases hr
    · have := hcalls (.accepted 9 2) (by simp)
      cases this

end Ancora.LocEng.Ni
