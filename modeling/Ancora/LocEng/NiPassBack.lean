import Ancora.LocApi.EventRoutines
import Ancora.LocEng.NiThreads

/-!
# What an NI response passes back

The response to an NI request carries the request itself: `loc_ni_request_handler` copies the
decoded event into `loc_ni_request`, and `loc_ni_respond` copies that into the ioctl, where
`xdr_rpc_loc_user_verify_s_type` encodes it again. Two things have to be right for the modem to
get its own bytes back: the saved request is still the one the thread was created for, and encoding
undoes decoding.

- `niSeen`: the requests accepted and ignored and the responses sent, from a run of
  Ancora/LocEng/NiThreads.
- `PassLog hist o`: each response passes back its own request, which is the last one accepted;
  `o` is the request still without a response.
- `xdrRpcLocNiEventSType_plain`: nothing in an NI event is counted or normalised, so that decoding
  stores it as it was sent.
- **`ni_pass_back`**: the pass-back of every response is encoded as the bytes its request was
  decoded from.
-/

namespace Ancora.LocEng.Ni

open Machine History Stream Xdr LocApi

variable {ρ : Type}

/-! ## The history -/

inductive PassEvent (ρ : Type)
  | accepted (req : ρ)
  /-- A request that found another one in progress. -/
  | ignored (req : ρ)
  /-- The thread of `req` called `loc_ni_respond(x, &passBack)`. -/
  | responded (req : ρ) (x : NiUserResp) (passBack : ρ)

def PassEvent.isIgnored : PassEvent ρ → Bool
  | .ignored _ => true
  | _ => false

/-- What a step shows. -/
def niSeen (kind : ρ → NiEventType) (s : NiThreads ρ) (a : NiThreadsAct ρ) (_ : NiThreads ρ) :
    List (PassEvent ρ) :=
  match a with
  | .callback req => if kind req ≠ .other ∧ s.notifInProgress = true then [.ignored req] else []
  | .save =>
    match s.handler with
    | .saving req => [.accepted req]
    | _ => []
  | .respond i => s.threads[i]?.toList.map fun t => .responded t.req s.resp s.locNiRequest
  | _ => []

/-- Each response passes back its own request, the last one accepted. -/
inductive PassLog : List (PassEvent ρ) → Option ρ → Prop
  | start : PassLog [] none
  | accepted {hist req} : PassLog hist none → PassLog (hist ++ [.accepted req]) (some req)
  | ignored {hist o req} : PassLog hist o → PassLog (hist ++ [.ignored req]) o
  | responded {hist req x} : PassLog hist (some req) →
      PassLog (hist ++ [.responded req x req]) none

/-- The request without a response is the last one accepted. -/
theorem PassLog.last_accepted {hist : List (PassEvent ρ)} {o : Option ρ} (h : PassLog hist o) :
    ∀ req, o = some req → ∃ pre post, hist = pre ++ .accepted req :: post ∧
      ∀ e ∈ post, e.isIgnored = true := by
  induction h with
  | start =>
    intro req hreq
    cases hreq
  | @accepted hist req _ _ =>
    rintro _ ⟨⟩
    exact ⟨hist, [], rfl, by simp⟩
  | @ignored hist o req' _ ih =>
    intro req hreq
    obtain ⟨pre, post, rfl, hpost⟩ := ih req hreq
    refine ⟨pre, post ++ [.ignored req'], by simp, ?_⟩
    intro e he
    rcases List.mem_append.mp he with he | he
    · exact hpost e he
    · rw [List.mem_singleton.mp he]
      rfl
  | responded _ _ =>
    intro req hreq
    cases hreq

/-- Every response passes back the last request accepted before it. -/
theorem PassLog.own_request {hist : List (PassEvent ρ)} {o : Option ρ} (h : PassLog hist o) :
    ∀ pre req x passBack post, hist = pre ++ .responded req x passBack :: post →
      passBack = req ∧ ∃ pre₁ pre₂, pre = pre₁ ++ .accepted req :: pre₂ ∧
        ∀ e ∈ pre₂, e.isIgnored = true := by
  induction h with
  | start =>
    intro pre req x passBack post heq
    simp at heq
  | accepted _ ih =>
    intro pre req x passBack post heq
    rcases snoc_split heq with ⟨-, he, -⟩ | ⟨post', -, hhist⟩
    · cases he
    · exact ih pre req x passBack post' hhist
  | ignored _ ih =>
    intro pre req x passBack post heq
    rcases snoc_split heq with ⟨-, he, -⟩ | ⟨post', -, hhist⟩
    · cases he
    · exact ih pre req x passBack post' hhist
  | responded hlog ih =>
    intro pre req x passBack post heq
    rcases snoc_split heq with ⟨hpre, he, -⟩ | ⟨post', -, hhist⟩
    · cases he
      cases hpre
      exact ⟨rfl, hlog.last_accepted _ rfl⟩
    · exact ih pre req x passBack post' hhist

/-! ## The request without a response -/

/-- The thread has not called `loc_ni_respond`. -/
def ProcPlace.unanswered : ProcPlace → Bool
  | .starting => true
  | .waiting => true
  | .responding => true
  | _ => false

/-- The saved request, until its thread has responded. -/
def NiThreads.openRequest (s : NiThreads ρ) : Option ρ :=
  if s.notifInProgress && s.threads.all (fun t => t.place.unanswered) then some s.locNiRequest
  else none

section Open

variable {kind : ρ → NiEventType} {s s' : NiThreads ρ} {a : NiThreadsAct ρ} {t : Proc ρ}

theorem NiThreads.openRequest_congr (hflag : s'.notifInProgress = s.notifInProgress)
    (hthreads : s'.threads.all (fun t => t.place.unanswered) =
      s.threads.all fun t => t.place.unanswered)
    (hsaved : s'.locNiRequest = s.locNiRequest) : s'.openRequest = s.openRequest := by
  unfold NiThreads.openRequest
  rw [hflag, hthreads, hsaved]

/-- Apart from saving it, nothing the handler does changes the request. -/
theorem openRequest_handled (hsave : a ≠ .save) (h : locNiRequestHandler kind s a = some s') :
    s'.openRequest = s.openRequest := by
  unfold locNiRequestHandler at h
  split at h
  · cases h
    unfold locEngNiCallbackEnter
    split
    · rfl
    · split
      · rfl
      · exact NiThreads.openRequest_congr rfl rfl rfl
  · simp only [Option.ite_none_right_eq_some, Option.some.injEq] at h
    obtain ⟨-, rfl⟩ := h
    exact NiThreads.openRequest_congr rfl rfl rfl
  · exact absurd rfl hsave
  · cases h
    exact NiThreads.openRequest_congr rfl rfl rfl
  · rename_i c _
    cases h
    refine NiThreads.openRequest_congr rfl ?_ rfl
    cases c with
    | true => simp [ProcPlace.unanswered]
    | false => rfl
  · cases h
    exact NiThreads.openRequest_congr rfl rfl rfl
  · cases h

/-- A move within the part before the response, or within the part after it. -/
theorem openRequest_move {p : ProcPlace} (hs : s.threads = [t])
    (hp : p.unanswered = t.place.unanswered) : (s.move 0 t p).openRequest = s.openRequest := by
  refine NiThreads.openRequest_congr rfl ?_ rfl
  unfold NiThreads.move
  rw [hs]
  simp [hp]

theorem openRequest_waitLoop (hs : s.threads = [t]) (hp : t.place.unanswered = true) :
    (s.waitLoop 0 t).openRequest = s.openRequest := by
  unfold NiThreads.waitLoop
  split
  · exact openRequest_move (p := .responding) hs hp.symm
  · exact openRequest_move hs hp.symm

theorem openRequest_answered (hs : s.threads = [t]) (hp : t.place.unanswered = false) :
    s.openRequest = none := by
  simp [NiThreads.openRequest, hs, hp]

theorem openRequest_idle (hflag : s.notifInProgress = false) : s.openRequest = none := by
  simp [NiThreads.openRequest, hflag]

theorem Tidy.exiting_flag {created : Bool} {handler : Handler ρ} {flag : Bool} {lock : NiLock}
    {saved : ρ} (hi : Tidy kind created handler [t] flag lock saved) (hp : t.place = .exiting) :
    flag = false := by
  cases hi with
  | exiting _ => rfl
  | clearing => cases hp
  | unlocking hp' =>
    cases hp
    cases hp'
  | waiting hp' =>
    cases hp
    cases hp'

/-- Apart from responding, nothing its thread does changes the request. -/
theorem openRequest_thread {i : Nat} (hi : s.Tidy kind false) (ht : s.threads[i]? = some t)
    (hrespond : ∀ j, a ≠ .respond j) (h : locNiThreadProc s i t a = some s') :
    s'.openRequest = s.openRequest := by
  obtain ⟨rfl, hs⟩ := hi.only ht
  cases a with
  | start _ =>
    simp only [locNiThreadProc, Option.ite_none_right_eq_some, Option.some.injEq] at h
    obtain ⟨⟨hp, -⟩, rfl⟩ := h
    exact openRequest_waitLoop hs (by rw [hp]; rfl)
  | wake _ =>
    simp only [locNiThreadProc, Option.ite_none_right_eq_some, Option.some.injEq] at h
    obtain ⟨⟨hp, -⟩, rfl⟩ := h
    exact openRequest_waitLoop hs (by rw [hp]; rfl)
  | timeout _ =>
    simp only [locNiThreadProc, Option.ite_none_right_eq_some, Option.some.injEq] at h
    obtain ⟨⟨hp, -⟩, rfl⟩ := h
    exact openRequest_move (p := .responding) hs (by rw [hp]; rfl)
  | respond j => exact absurd rfl (hrespond j)
  | finish _ =>
    simp only [locNiThreadProc, Option.ite_none_right_eq_some, Option.some.injEq] at h
    obtain ⟨⟨hp, -⟩, rfl⟩ := h
    exact openRequest_move (p := .clearing) hs (by rw [hp]; rfl)
  | clear _ =>
    simp only [locNiThreadProc, Option.ite_none_right_eq_some, Option.some.injEq] at h
    obtain ⟨hp, rfl⟩ := h
    rw [openRequest_idle rfl, openRequest_answered hs (by rw [hp]; rfl)]
  | exit _ =>
    simp only [locNiThreadProc, Option.ite_none_right_eq_some, Option.some.injEq] at h
    obtain ⟨hp, rfl⟩ := h
    unfold NiThreads.Tidy at hi
    rw [hs] at hi
    have hflag := hi.exiting_flag hp
    rw [openRequest_idle (s := s) hflag]
    exact openRequest_idle hflag
  | _ => cases h

/-- A thread that is about to respond has its own request before it. -/
theorem Tidy.responding {created : Bool} {handler : Handler ρ} {flag : Bool} {lock : NiLock}
    {saved : ρ} (hi : Tidy kind created handler [t] flag lock saved) (hp : t.place = .responding) :
    flag = true ∧ saved = t.req := by
  cases hi with
  | unlocking _ => exact ⟨rfl, rfl⟩
  | waiting _ => exact ⟨rfl, rfl⟩
  | clearing => cases hp
  | exiting _ => cases hp

end Open

/-! ## Every step keeps the history right -/

/-- The situation, and a history that fits it. -/
structure PassInv (kind : ρ → NiEventType) (s : NiThreads ρ) (hist : List (PassEvent ρ)) :
    Prop where
  tidy : s.Tidy kind false
  log : PassLog hist s.openRequest

section Steps

variable {kind : ρ → NiEventType} {s s' : NiThreads ρ} {hist : List (PassEvent ρ)}
variable {a : NiThreadsAct ρ}

theorem PassInv.saved (hi : PassInv kind s hist) (h : niThreadsStep kind s .save = some s') :
    PassLog (hist ++ niSeen kind s .save s') s'.openRequest := by
  have htidy := hi.tidy
  have hlog := hi.log
  obtain ⟨flag, id, left, received, resp, saved, lock, handler, threads, answers, inits⟩ := s
  unfold NiThreads.Tidy at htidy
  simp only [niThreadsStep, locNiRequestHandler] at h
  dsimp only at htidy h
  split at h
  · rename_i heq
    cases heq
  · rename_i heq
    cases heq
  · rename_i req _
    cases h
    cases htidy with
    | idle hout => exact hout.elim
    | exiting hout => exact hout.elim
    | saving _ => exact .accepted hlog
  · rename_i heq
    cases heq
  · rename_i heq
    cases heq
  · rename_i heq
    cases heq
  · cases h

theorem PassInv.responds {i : Nat} (hi : PassInv kind s hist)
    (h : niThreadsStep kind s (.respond i) = some s') :
    PassLog (hist ++ niSeen kind s (.respond i) s') s'.openRequest := by
  obtain ⟨t, ht, h⟩ := Option.bind_eq_some_iff.mp h
  simp only [locNiThreadProc, Option.ite_none_right_eq_some, Option.some.injEq] at h
  obtain ⟨hp, rfl⟩ := h
  obtain ⟨rfl, hs⟩ := hi.tidy.only ht
  have htidy := hi.tidy
  unfold NiThreads.Tidy at htidy
  rw [hs] at htidy
  obtain ⟨hflag, hsaved⟩ := htidy.responding hp
  have hopen : s.openRequest = some t.req := by
    simp [NiThreads.openRequest, hflag, hs, hp, hsaved, ProcPlace.unanswered]
  have hnone : (s.move 0 t .finishing).openRequest = none := by
    refine openRequest_answered (t := { t with place := .finishing }) ?_ rfl
    simp [NiThreads.move, hs]
  have hlog := hi.log
  rw [hopen] at hlog
  have hseen :
      niSeen kind s (.respond 0) (s.move 0 t .finishing) = [.responded t.req s.resp t.req] := by
    simp [niSeen, hs, hsaved]
  rw [hnone, hseen]
  exact .responded hlog

/-- A step that shows nothing and leaves the request alone. -/
theorem PassInv.quiet (hi : PassInv kind s hist) (hseen : niSeen kind s a s' = [])
    (hopen : s'.openRequest = s.openRequest) :
    PassLog (hist ++ niSeen kind s a s') s'.openRequest := by
  rw [hseen, hopen, List.append_nil]
  exact hi.log

theorem PassInv.thread {i : Nat} (hi : PassInv kind s hist) (hseen : niSeen kind s a s' = [])
    (hrespond : ∀ j, a ≠ .respond j)
    (h : (s.threads[i]?.bind fun t => locNiThreadProc s i t a) = some s') :
    PassLog (hist ++ niSeen kind s a s') s'.openRequest := by
  obtain ⟨t, ht, h⟩ := Option.bind_eq_some_iff.mp h
  exact hi.quiet hseen (openRequest_thread hi.tidy ht hrespond h)

theorem PassInv.answered {j : Nat} (hi : PassInv kind s hist) (hseen : niSeen kind s a s' = [])
    (h : (s.answers[j]?.bind fun c => locEngNiRespond s j c a) = some s') :
    PassLog (hist ++ niSeen kind s a s') s'.openRequest := by
  obtain ⟨c, -, h⟩ := Option.bind_eq_some_iff.mp h
  obtain ⟨-, ht, hf, -, hr⟩ := locEngNiRespond_frame h
  exact hi.quiet hseen (NiThreads.openRequest_congr hf (by rw [ht]) hr)

theorem PassInv.callback {req : ρ} (hi : PassInv kind s hist)
    (h : niThreadsStep kind s (.callback req) = some s') :
    PassLog (hist ++ niSeen kind s (.callback req) s') s'.openRequest := by
  rw [openRequest_handled (by intro h; cases h) h]
  unfold niSeen
  dsimp only
  split
  · exact .ignored hi.log
  · rw [List.append_nil]
    exact hi.log

/-- Every step but a further `loc_eng_ni_init` keeps the history right. -/
theorem PassInv.step (hi : PassInv kind s hist) (hinit : a ≠ .init)
    (h : niThreadsStep kind s a = some s') : PassInv kind s' (hist ++ niSeen kind s a s') := by
  refine ⟨hi.tidy.step (by intro c _ hc; cases hc) (fun ha => absurd ha hinit) h, ?_⟩
  cases a with
  | callback req => exact hi.callback h
  | lock => exact hi.quiet rfl (openRequest_handled (by intro h; cases h) h)
  | save => exact hi.saved h
  | switch id => exact hi.quiet rfl (openRequest_handled (by intro h; cases h) h)
  | create c => exact hi.quiet rfl (openRequest_handled (by intro h; cases h) h)
  | unlock => exact hi.quiet rfl (openRequest_handled (by intro h; cases h) h)
  | start i => exact hi.thread rfl (by intro j h; cases h) h
  | wake i => exact hi.thread rfl (by intro j h; cases h) h
  | timeout i => exact hi.thread rfl (by intro j h; cases h) h
  | respond i => exact hi.responds h
  | finish i => exact hi.thread rfl (by intro j h; cases h) h
  | clear i => exact hi.thread rfl (by intro j h; cases h) h
  | exit i => exact hi.thread rfl (by intro j h; cases h) h
  | answer id r =>
    cases h
    exact hi.quiet rfl (NiThreads.openRequest_congr rfl rfl rfl)
  | readId j => exact hi.answered rfl h
  | readBusy j => exact hi.answered rfl h
  | store j => exact hi.answered rfl h
  | init => exact absurd rfl hinit
  | initRest =>
    simp only [niThreadsStep, Option.ite_none_right_eq_some, Option.some.injEq] at h
    obtain ⟨-, rfl⟩ := h
    exact hi.quiet rfl (NiThreads.openRequest_congr rfl rfl rfl)

end Steps

/-! ## Encoding what was decoded -/

/-- `rpc_loc_ni_event_s_type` in memory. -/
abbrev NiEventVal := xdrRpcLocNiEventSType.Val

/-- `loc_eng_ni_data` is zero-initialised storage. -/
instance : Inhabited NiEventVal := ⟨xdrRpcLocNiEventSType.zero⟩

/-- The `event` field as the switches of `loc_eng_ni_callback` and the handler tell it apart. -/
def niEventType (v : NiEventVal) : NiEventType :=
  let event : BitVec 32 := v.1
  if event = rpcLocNiEventVxNotifyVerifyReq then .vxNotifyVerifyReq
  else if event = rpcLocNiEventSuplNotifyVerifyReq then .suplNotifyVerifyReq
  else if event = rpcLocNiEventUmtsCpNotifyVerifyReq then .umtsCpNotifyVerifyReq
  else .other

/-- The values of `rpc_loc_ni_user_resp_e_type`. -/
def NiUserResp.word : NiUserResp → BitVec 32
  | .accept => 1
  | .deny => 2
  | .noResp => 3

/-- `loc_ni_respond` (loc_eng_ni.cpp:124–146): `user_verify_resp` of the ioctl. -/
def locNiRespond (resp : NiUserResp) (requestPassBack : NiEventVal) :
    xdrRpcLocUserVerifySType.Val :=
  (resp.word, requestPassBack, ())

theorem xdrRpcLocServerInfoSType_plain : xdrRpcLocServerInfoSType.Plain := by
  have haddr : xdrRpcLocServerAddrUType.Plain := by
    refine Ty.plain_switch ?_
    simp [xdrRpcLocServerAddrIpv4Type, xdrRpcLocServerAddrUrlType, Ty.struct, Ty.Plain]
  exact ⟨Ty.plain_enum, haddr, trivial⟩

/-- An NI event is scalars and fields of fixed size, whatever its arm. -/
theorem xdrRpcLocNiEventSType_plain : xdrRpcLocNiEventSType.Plain := by
  have hvx : xdrRpcLocNiVxNotifyVerifyReqSType.Plain := by
    simp [xdrRpcLocNiVxNotifyVerifyReqSType, xdrRpcLocNiVxRequesterIdSType, Ty.struct, Ty.Plain]
  have hsupl : xdrRpcLocNiSuplNotifyVerifyReqSType.Plain := by
    simp [xdrRpcLocNiSuplNotifyVerifyReqSType, xdrRpcLocNiSuplSlpSessionIdSType,
      xdrRpcLocNiRequestorIdSType, xdrRpcLocNiSuplClientNameSType, xdrRpcLocNiSuplQopSType,
      Ty.struct, Ty.Plain, xdrRpcLocServerInfoSType_plain]
  have humts : xdrRpcLocNiUmtsCpNotifyVerifyReqSType.Plain := by
    simp [xdrRpcLocNiUmtsCpNotifyVerifyReqSType, xdrRpcLocNiExtClientAddressSType,
      xdrRpcLocNiDeferredLocationSType, xdrRpcLocNiRequestorIdSType,
      xdrRpcLocNiCodewordStringSType, xdrRpcLocNiServiceTypeIdSType, Ty.struct, Ty.Plain]
  have hinteraction : xdrRpcLocNiVxServiceInteractionReqSType.Plain := ⟨hvx, Ty.plain_enum, trivial⟩
  have harms : xdrRpcLocNiEventPayloadUType.Plain := by
    refine Ty.plain_switch ?_
    simp [hvx, hsupl, humts, hinteraction]
  exact ⟨Ty.plain_enum, harms, trivial⟩

/-- `req` was decoded from a message in which the bytes `b`, the encoding of some event, came
next. -/
def DecodedFrom (b : List Byte) (req : NiEventVal) : Prop :=
  ∃ (v : NiEventVal) (inp inp' : InMsg), b = xdrRpcLocNiEventSType.wire v ∧ b <+: inp.rest ∧
    xdrRpcLocNiEventSType.codec.decode.run inp = .ok (req, inp')

/-- Decoding stores the event that was sent. -/
theorem DecodedFrom.wire_eq {b : List Byte} {req : NiEventVal} (h : DecodedFrom b req) :
    xdrRpcLocNiEventSType.wire req = b := by
  obtain ⟨v, inp, inp', rfl, hrest, hdec⟩ := h
  have hplain := xdrRpcLocNiEventSType_plain
  have hreads := xdrRpcLocNiEventSType.codec_faithful.reads v (hplain.withinMaxima v)
  obtain ⟨inp'', hrun, -⟩ := hreads inp hrest
  rw [hplain.norm_eq v] at hrun
  have hsame := hdec.symm.trans hrun
  cases hsame
  rfl

/-- The ioctl carries the response and then the event as it stands in memory. -/
theorem locNiRespond_writes (x : NiUserResp) (req : NiEventVal) :
    Writes (xdrRpcLocUserVerifySType.codec.encode (locNiRespond x req))
      (htonl x.word ++ xdrRpcLocNiEventSType.wire req) := by
  have hplain : xdrRpcLocUserVerifySType.Plain :=
    ⟨Ty.plain_enum, xdrRpcLocNiEventSType_plain, trivial⟩
  have hwrites := xdrRpcLocUserVerifySType.codec_faithful.writes (locNiRespond x req)
    (hplain.withinMaxima _)
  have hwire : xdrRpcLocUserVerifySType.wire (locNiRespond x req) =
      htonl x.word ++ (xdrRpcLocNiEventSType.wire req ++ []) := rfl
  rwa [hwire, List.append_nil] at hwrites

/-- A further call of `loc_eng_ni_init`. -/
def NiThreadsAct.isInit : NiThreadsAct ρ → Bool
  | .init => true
  | _ => false

/-- **After one `loc_eng_ni_init`, whatever requests arrive and whatever the users and threads do,
every response passes back, byte for byte, the request it answers: the last one accepted, only
ignored ones having come since.** -/
theorem ni_pass_back {as : List (NiThreadsAct NiEventVal)} {s : NiThreads NiEventVal}
    {hist : List (PassEvent NiEventVal)} (hinit : ∀ a ∈ as, a.isInit = false)
    (hrun : exec (observe (niSeen niEventType) (niThreadsStep niEventType))
      (niThreadsInit NiEventVal, []) as = some (s, hist)) :
    ∀ pre req x passBack post, hist = pre ++ .responded req x passBack :: post →
      (∃ pre₁ pre₂, pre = pre₁ ++ .accepted req :: pre₂ ∧ ∀ e ∈ pre₂, e.isIgnored = true) ∧
      ∀ b, DecodedFrom b req →
        Writes (xdrRpcLocUserVerifySType.codec.encode (locNiRespond x passBack))
          (htonl x.word ++ b) := by
  have hok : exec (restrict (fun _ a => a.isInit = false)
      (observe (niSeen niEventType) (niThreadsStep niEventType)))
        (niThreadsInit NiEventVal, []) as =
      exec (observe (niSeen niEventType) (niThreadsStep niEventType))
        (niThreadsInit NiEventVal, []) as :=
    exec_restrict_eq (fun a ha _ => hinit a ha) _
  have hi : PassInv niEventType s hist := by
    refine observe_invariant ?_ ⟨tidy_init, .start⟩ (hok.trans hrun)
    intro s hist a s' ha h hi
    refine hi.step ?_ h
    rintro rfl
    cases ha
  intro pre req x passBack post hsent
  obtain ⟨rfl, hlast⟩ := hi.log.own_request pre req x passBack post hsent
  refine ⟨hlast, ?_⟩
  intro b hb
  rw [← hb.wire_eq]
  exact locNiRespond_writes x passBack

/-- The requester id "abc" in its field. -/
def requesterId : List.Vector Byte 200 :=
  0x61 ::ᵥ 0x62 ::ᵥ 0x63 ::ᵥ List.Vector.replicate 197 0

/-- A VX request. -/
def vxEvent : NiEventVal :=
  (1#32, ⟨1#32, (2#32, 1#8, 7#8, 1#32, 60#32, 0#32, 4#32, (3#8, requesterId, ()), 20#16, ())⟩, ())

/-- A request whose payload union has no arm. -/
def suplEvent : NiEventVal := (2#32, ⟨0#32, ()⟩, ())

/-- The first request is accepted, the second one ignored, and nobody answers. -/
def passBackRun : List (NiThreadsAct NiEventVal) :=
  [.callback vxEvent, .lock, .save, .switch 7, .create true, .unlock, .start 0, .callback suplEvent,
    .timeout 0, .respond 0]

theorem ni_pass_back_ignored :
    ∃ s, exec (observe (niSeen niEventType) (niThreadsStep niEventType))
        (niThreadsInit NiEventVal, []) passBackRun =
          some (s, [.accepted vxEvent, .ignored suplEvent, .responded vxEvent .noResp vxEvent]) ∧
      Writes (xdrRpcLocUserVerifySType.codec.encode (locNiRespond .noResp vxEvent))
        (htonl 3 ++ xdrRpcLocNiEventSType.wire vxEvent) := by
  have hbound : (xdrRpcLocNiEventSType.wire vxEvent).length ≤ rpcrouterMsgsizeMax := by
    decide +kernel
  have hreads := xdrRpcLocNiEventSType.codec_faithful.reads vxEvent
    (xdrRpcLocNiEventSType_plain.withinMaxima vxEvent)
  rw [xdrRpcLocNiEventSType_plain.norm_eq vxEvent] at hreads
  obtain ⟨inp', hdec, -⟩ := hreads ⟨_, 0, by decide, hbound⟩ List.prefix_rfl
  have hrun : exec (observe (niSeen niEventType) (niThreadsStep niEventType))
      (niThreadsInit NiEventVal, []) passBackRun =
        some (_, [.accepted vxEvent, .ignored suplEvent, .responded vxEvent .noResp vxEvent]) := rfl
  refine ⟨_, hrun, ?_⟩
  exact (ni_pass_back (by decide) hrun [.accepted vxEvent, .ignored suplEvent] vxEvent .noResp
    vxEvent [] rfl).2 _ ⟨vxEvent, _, inp', rfl, List.prefix_rfl, hdec⟩

end Ancora.LocEng.Ni
