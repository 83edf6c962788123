import Mathlib.Logic.Basic

/-!
# One RPC client (librpc/clnt.c)

Three threads share a `CLIENT` and its one input buffer `xdr->in_msg`:

- `rx_context` polls the descriptor, waits until `input_xdr_busy` is 0, reads a
  message and hands it on: a REPLY by signalling `wait_reply`, a CALL by setting
  `got_cb` and signalling `wait_cb`;
- `clnt_call`, one at a time under `client->lock`, sends a call, waits on
  `wait_reply`, decodes the reply out of the buffer, unless it has another XID
  than the call, and marks it free;
- `cb_context` waits on `wait_cb`, finds the service a CALL is for, clones the
  buffer, marks it free and dispatches the clone.

Each thread has a program counter; a mutex is held at the places listed with
`Caller.holdsReply` and `CbThread.holdsCb`, and `input_xdr_lock` covers single
steps. A wait may end at any time; `woken` records whether it was signalled.
The caller may be `loc_api_sync_ioctl`, which takes `loc_sync_data.lock` before
the call and holds it to the end, and a dispatched CALL may reach
`loc_api_callback_process_sync_call`, which takes that lock.
-/

namespace Ancora.Rpc

/-- A message as far as these threads look at it: REPLY or CALL, the program it
is for, and whether its dispatch takes `loc_sync_data.lock`. -/
structure Msg where
  xid : Nat
  isReply : Bool
  prog : Nat
  takesSync : Bool
  deriving DecidableEq, Repr

/-- `the_xprt`: its reset flag and the services registered with it. -/
structure Xprt where
  inReset : Bool
  services : List Nat
  deriving DecidableEq, Repr

/-- Where `clnt_call` is. -/
inductive Caller
  | idle
  /-- Has `client->lock`. -/
  | entered
  /-- The arguments are encoded. -/
  | encoded
  /-- In `pthread_cond_wait(&client->wait_reply)`. -/
  | waiting (woken : Bool)
  /-- Woken up outside a reset; `first` is what was in the buffer. -/
  | decoding (first : Option Msg)
  /-- At `out_unlock`; `took` says whether a reply was looked at. -/
  | releasing (took : Bool)
  deriving DecidableEq, Repr

/-- `clnt_call` has `wait_reply_lock`. -/
def Caller.holdsReply : Caller → Bool
  | .decoding _ => true
  | .releasing _ => true
  | _ => false

/-- `clnt_call` is in its wait. -/
def Caller.waits : Caller → Bool
  | .waiting _ => true
  | _ => false

/-- Where `cb_context` is. -/
inductive CbThread
  /-- `cb_stop < 0`. -/
  | notStarted
  | starting
  /-- The top of the loop (clnt.c:93). -/
  | top
  /-- In `pthread_cond_wait(&client->wait_cb)`. -/
  | waiting (woken : Bool)
  /-- Past the wait (clnt.c:97). -/
  | awake
  /-- `got_cb` is taken (clnt.c:125). -/
  | looking
  /-- The service is found (clnt.c:150); `first` is what was in the buffer. -/
  | cloning (first : Option Msg)
  /-- The clone is made (clnt.c:192). -/
  | releasing (clone : Msg)
  /-- In `svc_dispatch`. -/
  | dispatching (clone : Msg)
  /-- Dereferenced a null transport. -/
  | crashed
  deriving DecidableEq, Repr

/-- `cb_context` has `wait_cb_lock`. -/
def CbThread.holdsCb : CbThread → Bool
  | .notStarted => false
  | .starting => false
  | .waiting _ => false
  | _ => true

/-- `cb_context` is between `got_cb = 0` and freeing the buffer. -/
def CbThread.reads : CbThread → Bool
  | .looking => true
  | .cloning _ => true
  | .releasing _ => true
  | _ => false

/-- With `got_cb` set, `cb_context` is on its way to look at it. -/
def CbThread.comes : CbThread → Bool
  | .starting => true
  | .top => true
  | .waiting woken => woken
  | .awake => true
  | _ => false

/-- Where `rx_context` is with this client. -/
inductive Rx
  | polling
  /-- The modem went into reset; about to wake the callback thread (clnt.c:305). -/
  | resetting
  /-- About to mark the buffer free (clnt.c:309). -/
  | clearing
  /-- The modem is back; about to wake the callback thread (clnt.c:328). -/
  | restarting
  /-- Waiting for the buffer (clnt.c:346). -/
  | reading
  /-- Has read a REPLY (clnt.c:380). -/
  | replying
  /-- Has read a CALL (clnt.c:389). -/
  | calling
  deriving DecidableEq, Repr

/-- The three users of the buffer. -/
inductive Party
  | caller
  | callback
  | receiver
  deriving DecidableEq, Repr

/-- Who a message is for. -/
def Msg.addressee (m : Msg) : Party := if m.isReply then .caller else .callback

/-- What happens to the input buffer. -/
inductive BufEvent
  /-- `rx_context` read a message into it. -/
  | read (m : Msg)
  /-- It was decoded or cloned, and held `first` before that and `last` after it. -/
  | consumed (p : Party) (first last : Option Msg)
  /-- `clnt_call` dropped it for its XID, which is not that of the call, `own`. -/
  | mismatch (own : Nat) (m : Option Msg)
  /-- The callback thread gave up on its contents. -/
  | dropped (m : Option Msg)
  /-- `input_xdr_busy` went from 1 to 0. -/
  | freed (p : Party)
  deriving DecidableEq, Repr

/-- A `CLIENT`, the transport and the three threads. -/
structure Client where
  /-- `xdr->in_msg`; `none` while `in_len` is not positive. -/
  inMsg : Option Msg
  inputXdrBusy : Bool
  gotCb : Bool
  inReset : Bool
  /-- The XID in `xdr->out_msg`. -/
  outXid : Nat
  theXprt : Option Xprt
  caller : Caller
  /-- A `loc_api_sync_ioctl` holds `loc_sync_data.lock`. -/
  syncLocked : Bool
  /-- It made the call in progress. -/
  callIsSync : Bool
  cb : CbThread
  rx : Rx
  log : List BufEvent
  deriving DecidableEq, Repr

/-- A client as `clnt_create` leaves it (clnt.c:678). -/
def clntCreate (xprt : Option Xprt) : Client where
  inMsg := none
  inputXdrBusy := false
  gotCb := false
  inReset := false
  outXid := 0
  theXprt := xprt
  caller := .idle
  syncLocked := false
  callIsSync := false
  cb := .notStarted
  rx := .polling
  log := []

/-- What `XDR_MSG_SEND` did. -/
inductive SendResult
  | sent
  | failed
  | netReset
  deriving DecidableEq, Repr

/-- The atomic steps. -/
inductive ClientAct
  /-- Services come and go. -/
  | transport (xprt : Option Xprt)
  /-- `loc_api_sync_ioctl` takes `loc_sync_data.lock` (loc_api_sync_call.c:493). -/
  | syncLock
  | callBegin (sync : Bool)
  | callCheck (encodes : Bool)
  | callSend (r : SendResult)
  | callWake
  | callDecode
  | callRelease
  | cbStart
  | cbTop
  | cbWake
  | cbCheck
  | cbLook
  | cbClone
  | cbRelease
  | cbDispatch
  | rxHup
  | rxHupSignal
  | rxHupClear
  | rxOut
  | rxOutSignal
  | rxIn
  /-- `none`: `xops->read` fails. -/
  | rxRead (m : Option Msg)
  | rxReply
  | rxCall
  deriving DecidableEq, Repr

/-- A signal reaches a thread that waits. -/
def Caller.signal : Caller → Caller
  | .waiting _ => .waiting true
  | c => c

@[inherit_doc Caller.signal]
def CbThread.signal : CbThread → CbThread
  | .waiting _ => .waiting true
  | t => t

/-- `input_xdr_busy = 0`, by `p`. -/
def Client.free (s : Client) (p : Party) : Client :=
  { s with
    inputXdrBusy := false
    log := if s.inputXdrBusy then s.log ++ [.freed p] else s.log }

/-- `clnt_call` returns, and with it a `loc_api_sync_ioctl` that made it. -/
def Client.callReturn (s : Client) : Client :=
  { s with
    caller := .idle
    syncLocked := s.syncLocked && !s.callIsSync
    callIsSync := false }

/-- `xdr_call_msg_start`: a new XID. -/
def Client.nextXid (s : Client) : Client := { s with outXid := (s.outXid + 1) % 4294967296 }

/-- What `clnt_call` does with the buffer, which held `first` when it woke up: the XIDs are compared
before anything is decoded (clnt.c:502). -/
def Client.decodeEvent (s : Client) (first : Option Msg) : BufEvent :=
  if ∀ m ∈ first, m.xid = s.outXid then .consumed .caller first s.inMsg
  else .mismatch s.outXid first

/-- `svc_find(the_xprt, prog, vers)` for the program in the buffer. -/
def Client.svcFind (s : Client) : Bool :=
  match s.theXprt, s.inMsg with
  | some x, some m => x.services.contains m.prog
  | _, _ => false

/-- The steps of `clnt_call` (clnt.c:437). -/
def clntCall (s : Client) : ClientAct → Option Client
  | .syncLock => if s.syncLocked then none else some { s with syncLocked := true }
  | .callBegin sync =>
    if s.caller = .idle ∧ (sync = true → s.syncLocked = true) then
      some { s with caller := .entered, callIsSync := sync }
    else none
  | .callCheck encodes =>
    if s.caller = .entered then
      if s.inReset then some s.callReturn
      else if encodes then some { s.nextXid with caller := .encoded }
      else some s.nextXid.callReturn
    else none
  | .callSend r =>
    if s.caller = .encoded then
      if s.inReset then some { s with caller := .releasing false }
      else match r with
        | .sent => some { s with caller := .waiting false }
        | .failed => some { s with caller := .releasing false }
        | .netReset => some { s with inReset := true, caller := .releasing false }
    else none
  | .callWake =>
    match s.caller with
    | .waiting _ =>
      if s.inReset then some { s with caller := .releasing false }
      else some { s with caller := .decoding s.inMsg }
    | _ => none
  | .callDecode =>
    match s.caller with
    | .decoding first => some { s with
        caller := .releasing true
        log := s.log ++ [s.decodeEvent first] }
    | _ => none
  | .callRelease =>
    match s.caller with
    | .releasing _ => some (s.free .caller).callReturn
    | _ => none
  | _ => none

/-- The steps of `cb_context` (clnt.c:91). -/
def cbContext (s : Client) : ClientAct → Option Client
  | .cbStart => if s.cb = .starting then some { s with cb := .top } else none
  | .cbTop =>
    if s.cb = .top then
      some { s with cb := if s.gotCb then .awake else .waiting false }
    else none
  | .cbWake =>
    match s.cb with
    | .waiting _ => some { s with cb := .awake }
    | _ => none
  | .cbCheck =>
    if s.cb = .awake then
      match s.theXprt with
      | none => some { s with cb := .crashed }
      | some x =>
        if s.inReset ≠ x.inReset then
          some { s with theXprt := some { x with inReset := s.inReset }, cb := .top }
        else if s.gotCb then some { s with gotCb := false, cb := .looking }
        else some { s with cb := .top }
    else none
  | .cbLook =>
    if s.cb = .looking then
      if s.svcFind then some { s with cb := .cloning s.inMsg }
      else some { s with cb := .top, log := s.log ++ [.dropped s.inMsg] }
    else none
  | .cbClone =>
    match s.cb with
    | .cloning first =>
      match s.inMsg with
      | some m => some { s with
          cb := .releasing m
          log := s.log ++ [.consumed .callback first (some m)] }
      | none => some { s with cb := .top, log := s.log ++ [.dropped none] }
    | _ => none
  | .cbRelease =>
    match s.cb with
    | .releasing m => some { s.free .callback with cb := .dispatching m }
    | _ => none
  | .cbDispatch =>
    match s.cb with
    | .dispatching m =>
      -- blocks on loc_sync_data.lock
      if m.takesSync = true ∧ s.syncLocked = true then none else some { s with cb := .top }
    | _ => none
  | _ => none

/-- The steps of `rx_context` with this client (clnt.c:285). -/
def rxContext (s : Client) : ClientAct → Option Client
  | .rxHup =>
    if s.rx = .polling ∧ s.inReset = false ∧ s.caller.holdsReply = false then
      some { s with inReset := true, caller := s.caller.signal, rx := .resetting }
    else none
  | .rxHupSignal =>
    if s.rx = .resetting ∧ s.cb.holdsCb = false then
      some { s with cb := s.cb.signal, rx := .clearing }
    else none
  | .rxHupClear =>
    if s.rx = .clearing then some { s.free .receiver with rx := .polling } else none
  | .rxOut =>
    if s.rx = .polling ∧ s.inReset = true ∧ s.caller.holdsReply = false then
      some { s with inReset := false, rx := .restarting }
    else none
  | .rxOutSignal =>
    if s.rx = .restarting ∧ s.cb.holdsCb = false then
      some { s with cb := s.cb.signal, rx := .polling }
    else none
  | .rxIn => if s.rx = .polling then some { s with rx := .reading } else none
  | .rxRead m =>
    if s.rx = .reading ∧ s.inputXdrBusy = false then
      match m with
      | none => some { s with inMsg := none, rx := .polling }
      | some m => some { s with
          inMsg := some m
          inputXdrBusy := true
          rx := if m.isReply then .replying else .calling
          log := s.log ++ [.read m] }
    else none
  | .rxReply =>
    if s.rx = .replying ∧ s.caller.holdsReply = false then
      some { s with caller := s.caller.signal, rx := .polling }
    else none
  | .rxCall =>
    if s.rx = .calling ∧ s.cb.holdsCb = false then
      some { s with
        gotCb := true
        cb := if s.cb = .notStarted then .starting else s.cb.signal
        rx := .polling }
    else none
  | _ => none

/-- The thread that takes a step; none for the services around it. -/
def ClientAct.thread : ClientAct → Option Party
  | .transport _ => none
  | .syncLock => some .caller
  | .callBegin _ => some .caller
  | .callCheck _ => some .caller
  | .callSend _ => some .caller
  | .callWake => some .caller
  | .callDecode => some .caller
  | .callRelease => some .caller
  | .cbStart => some .callback
  | .cbTop => some .callback
  | .cbWake => some .callback
  | .cbCheck => some .callback
  | .cbLook => some .callback
  | .cbClone => some .callback
  | .cbRelease => some .callback
  | .cbDispatch => some .callback
  | _ => some .receiver

/-- One atomic step. -/
def clientStep (s : Client) (a : ClientAct) : Option Client :=
  match a.thread with
  | some .caller => clntCall s a
  | some .callback => cbContext s a
  | some .receiver => rxContext s a
  | none =>
    match a with
    | .transport xprt => some { s with theXprt := xprt }
    | _ => none

/-- The steps that a thread takes by itself: it goes on where it is, and leaves a
wait only if it was signalled. -/
def prompt (s : Client) : ClientAct → Prop
  | .transport _ => False
  | .syncLock => False
  | .callBegin _ => False
  | .callWake => s.caller = .waiting true
  | .cbWake => s.cb = .waiting true
  | _ => True

instance (s : Client) : (a : ClientAct) → Decidable (prompt s a)
  | .transport _ => .isFalse id
  | .syncLock => .isFalse id
  | .callBegin _ => .isFalse id
  | .callWake => inferInstanceAs (Decidable (_ = _))
  | .cbWake => inferInstanceAs (Decidable (_ = _))
  | .callCheck _ | .callSend _ | .callDecode | .callRelease | .cbStart | .cbTop | .cbCheck
  | .cbLook | .cbClone | .cbRelease | .cbDispatch | .rxHup | .rxHupSignal | .rxHupClear
  | .rxOut | .rxOutSignal | .rxIn | .rxRead _ | .rxReply | .rxCall => .isTrue trivial

/-! ## Where a signal finds the threads -/

section Signal

variable {cb : CbThread}

/-- A thread without `wait_cb_lock` is not at the buffer. -/
theorem CbThread.reads_of_holdsCb (h : cb.holdsCb = false) : cb.reads = false := by
  cases cb with
  | notStarted => rfl
  | starting => rfl
  | waiting => rfl
  | _ => cases h

/-- A signal does not keep the callback thread from coming. -/
theorem CbThread.signal_comes (h : cb.comes = true) : cb.signal.comes = true := by
  cases cb with
  | waiting => rfl
  | _ => exact h

/-- A signal crashes nobody. -/
theorem CbThread.signal_alive (h : cb ≠ .crashed) : cb.signal ≠ .crashed := by
  cases cb with
  | waiting => simp [CbThread.signal]
  | _ => exact h

/-- After a CALL is handed on, the callback thread comes for it. -/
theorem CbThread.comes_of_call (h : cb.holdsCb = false) :
    (if cb = .notStarted then .starting else cb.signal).comes = true := by
  cases cb with
  | notStarted => rfl
  | starting => rfl
  | waiting => rfl
  | _ => cases h

/-- A signal wakes the caller if it waits. -/
theorem Caller.signal_of_waits {c : Caller} (h : c.waits = true) : c.signal = .waiting true := by
  cases c with
  | waiting => rfl
  | _ => cases h

end Signal

/-! ## What a step can do

Each thread's steps, case by case, with the guard under which they are enabled. -/

/-- A step of `clnt_call`. -/
inductive CallStep (s : Client) : ClientAct → Client → Prop
  | syncLock (h : s.syncLocked = false) : CallStep s .syncLock { s with syncLocked := true }
  | begin (sync : Bool) (hc : s.caller = .idle) (h : sync = true → s.syncLocked = true) :
      CallStep s (.callBegin sync) { s with caller := .entered, callIsSync := sync }
  | refused (encodes : Bool) (hc : s.caller = .entered) (h : s.inReset = true) :
      CallStep s (.callCheck encodes) s.callReturn
  | unencoded (hc : s.caller = .entered) (h : s.inReset = false) :
      CallStep s (.callCheck false) s.nextXid.callReturn
  | encoded (hc : s.caller = .entered) (h : s.inReset = false) :
      CallStep s (.callCheck true) { s.nextXid with caller := .encoded }
  | sentInReset (r : SendResult) (hc : s.caller = .encoded) (h : s.inReset = true) :
      CallStep s (.callSend r) { s with caller := .releasing false }
  | sent (hc : s.caller = .encoded) (h : s.inReset = false) :
      CallStep s (.callSend .sent) { s with caller := .waiting false }
  | sendFailed (hc : s.caller = .encoded) (h : s.inReset = false) :
      CallStep s (.callSend .failed) { s with caller := .releasing false }
  | netReset (hc : s.caller = .encoded) (h : s.inReset = false) :
      CallStep s (.callSend .netReset) { s with inReset := true, caller := .releasing false }
  | wakeInReset (woken : Bool) (hc : s.caller = .waiting woken) (h : s.inReset = true) :
      CallStep s .callWake { s with caller := .releasing false }
  | wake (woken : Bool) (hc : s.caller = .waiting woken) (h : s.inReset = false) :
      CallStep s .callWake { s with caller := .decoding s.inMsg }
  | decode (first : Option Msg) (hc : s.caller = .decoding first) :
      CallStep s .callDecode
        { s with
          caller := .releasing true
          log := s.log ++ [s.decodeEvent first] }
  | release (took : Bool) (hc : s.caller = .releasing took) :
      CallStep s .callRelease (s.free .caller).callReturn

/-- Every enabled step of `clnt_call` is one of these cases. -/
theorem clntCall_cases {s s' : Client} {a : ClientAct} (h : clntCall s a = some s') :
    CallStep s a s' := by
  cases a with
  | syncLock =>
    simp only [clntCall, Option.ite_none_left_eq_some, Option.some.injEq] at h
    obtain ⟨hl, rfl⟩ := h
    exact .syncLock (by simpa using hl)
  | callBegin sync =>
    simp only [clntCall, Option.ite_none_right_eq_some, Option.some.injEq] at h
    obtain ⟨⟨hc, hl⟩, rfl⟩ := h
    exact .begin sync hc hl
  | callCheck encodes =>
    simp only [clntCall, Option.ite_none_right_eq_some] at h
    obtain ⟨hc, h⟩ := h
    split at h
    next hr =>
      cases h
      exact .refused encodes hc hr
    next hr =>
      have hr' : s.inReset = false := by simpa using hr
      cases encodes with
      | false =>
        cases h
        exact .unencoded hc hr'
      | true =>
        cases h
        exact .encoded hc hr'
  | callSend r =>
    simp only [clntCall, Option.ite_none_right_eq_some] at h
    obtain ⟨hc, h⟩ := h
    split at h
    next hr =>
      cases h
      exact .sentInReset r hc hr
    next hr =>
      have hr' : s.inReset = false := by simpa using hr
      cases r with
      | sent =>
        cases h
        exact .sent hc hr'
      | failed =>
        cases h
        exact .sendFailed hc hr'
      | netReset =>
        cases h
        exact .netReset hc hr'
  | callWake =>
    simp only [clntCall] at h
    split at h
    next woken hc =>
      split at h
      next hr =>
        cases h
        exact .wakeInReset woken hc hr
      next hr =>
        cases h
        exact .wake woken hc (by simpa using hr)
    · cases h
  | callDecode =>
    simp only [clntCall] at h
    split at h
    next first hc =>
      cases h
      exact .decode first hc
    · cases h
  | callRelease =>
    simp only [clntCall] at h
    split at h
    next took hc =>
      cases h
      exact .release took hc
    · cases h
  | _ => cases h

/-- A step of `cb_context`. -/
inductive CbStep (s : Client) : ClientAct → Client → Prop
  | start (hc : s.cb = .starting) : CbStep s .cbStart { s with cb := .top }
  | goOn (hc : s.cb = .top) (hg : s.gotCb = true) : CbStep s .cbTop { s with cb := .awake }
  | wait (hc : s.cb = .top) (hg : s.gotCb = false) :
      CbStep s .cbTop { s with cb := .waiting false }
  | wake (woken : Bool) (hc : s.cb = .waiting woken) : CbStep s .cbWake { s with cb := .awake }
  | crash (hc : s.cb = .awake) (hx : s.theXprt = none) :
      CbStep s .cbCheck { s with cb := .crashed }
  | reset (x : Xprt) (hc : s.cb = .awake) (hx : s.theXprt = some x) (hr : s.inReset ≠ x.inReset) :
      CbStep s .cbCheck
        { s with theXprt := some { x with inReset := s.inReset }, cb := .top }
  | take (x : Xprt) (hc : s.cb = .awake) (hx : s.theXprt = some x) (hr : s.inReset = x.inReset)
      (hg : s.gotCb = true) :
      CbStep s .cbCheck { s with gotCb := false, cb := .looking }
  | nothing (x : Xprt) (hc : s.cb = .awake) (hx : s.theXprt = some x) (hr : s.inReset = x.inReset)
      (hg : s.gotCb = false) :
      CbStep s .cbCheck { s with cb := .top }
  | found (hc : s.cb = .looking) (hf : s.svcFind = true) :
      CbStep s .cbLook { s with cb := .cloning s.inMsg }
  | unknown (hc : s.cb = .looking) (hf : s.svcFind = false) :
      CbStep s .cbLook { s with cb := .top, log := s.log ++ [.dropped s.inMsg] }
  | clone (first : Option Msg) (m : Msg) (hc : s.cb = .cloning first) (hm : s.inMsg = some m) :
      CbStep s .cbClone
        { s with
          cb := .releasing m
          log := s.log ++ [.consumed .callback first (some m)] }
  | lost (first : Option Msg) (hc : s.cb = .cloning first) (hm : s.inMsg = none) :
      CbStep s .cbClone { s with cb := .top, log := s.log ++ [.dropped none] }
  | release (m : Msg) (hc : s.cb = .releasing m) :
      CbStep s .cbRelease { s.free .callback with cb := .dispatching m }
  | dispatch (m : Msg) (hc : s.cb = .dispatching m)
      (hs : ¬ (m.takesSync = true ∧ s.syncLocked = true)) :
      CbStep s .cbDispatch { s with cb := .top }

/-- Every enabled step of `cb_context` is one of these cases. -/
theorem cbContext_cases {s s' : Client} {a : ClientAct} (h : cbContext s a = some s') :
    CbStep s a s' := by
  cases a with
  | cbStart =>
    simp only [cbContext, Option.ite_none_right_eq_some, Option.some.injEq] at h
    obtain ⟨hc, rfl⟩ := h
    exact .start hc
  | cbTop =>
    simp only [cbContext, Option.ite_none_right_eq_some, Option.some.injEq] at h
    obtain ⟨hc, rfl⟩ := h
    split
    next hg => exact .goOn hc hg
    next hg => exact .wait hc (by simpa using hg)
  | cbWake =>
    simp only [cbContext] at h
    split at h
    next woken hc =>
      cases h
      exact .wake woken hc
    · cases h
  | cbCheck =>
    simp only [cbContext, Option.ite_none_right_eq_some] at h
    obtain ⟨hc, h⟩ := h
    split at h
    next hx =>
      cases h
      exact .crash hc hx
    next x hx =>
      split at h
      next hr =>
        cases h
        exact .reset x hc hx hr
      next hr =>
        have hr' : s.inReset = x.inReset := by simpa using hr
        split at h
        next hg =>
          cases h
          exact .take x hc hx hr' hg
        next hg =>
          cases h
          exact .nothing x hc hx hr' (by simpa using hg)
  | cbLook =>
    simp only [cbContext, Option.ite_none_right_eq_some] at h
    obtain ⟨hc, h⟩ := h
    split at h
    next hf =>
      cases h
      exact .found hc hf
    next hf =>
      cases h
      exact .unknown hc (by simpa using hf)
  | cbClone =>
    simp only [cbContext] at h
    split at h
    next first hc =>
      split at h
      next m hm =>
        cases h
        exact .clone first m hc hm
      next hm =>
        cases h
        exact .lost first hc hm
    · cases h
  | cbRelease =>
    simp only [cbContext] at h
    split at h
    next m hc =>
      cases h
      exact .release m hc
    · cases h
  | cbDispatch =>
    simp only [cbContext] at h
    split at h
    next m hc =>
      split at h
      · cases h
      next hs =>
        cases h
        exact .dispatch m hc hs
    · cases h
  | _ => cases h

/-- A step of `rx_context`. -/
inductive RxStep (s : Client) : ClientAct → Client → Prop
  | hup (hrx : s.rx = .polling) (hr : s.inReset = false) (hc : s.caller.holdsReply = false) :
      RxStep s .rxHup { s with inReset := true, caller := s.caller.signal, rx := .resetting }
  | hupSignal (hrx : s.rx = .resetting) (hcb : s.cb.holdsCb = false) :
      RxStep s .rxHupSignal { s with cb := s.cb.signal, rx := .clearing }
  | hupClear (hrx : s.rx = .clearing) :
      RxStep s .rxHupClear { s.free .receiver with rx := .polling }
  | out (hrx : s.rx = .polling) (hr : s.inReset = true) (hc : s.caller.holdsReply = false) :
      RxStep s .rxOut { s with inReset := false, rx := .restarting }
  | outSignal (hrx : s.rx = .restarting) (hcb : s.cb.holdsCb = false) :
      RxStep s .rxOutSignal { s with cb := s.cb.signal, rx := .polling }
  | poll (hrx : s.rx = .polling) : RxStep s .rxIn { s with rx := .reading }
  | readError (hrx : s.rx = .reading) (hb : s.inputXdrBusy = false) :
      RxStep s (.rxRead none) { s with inMsg := none, rx := .polling }
  | read (m : Msg) (hrx : s.rx = .reading) (hb : s.inputXdrBusy = false) :
      RxStep s (.rxRead (some m))
        { s with
          inMsg := some m
          inputXdrBusy := true
          rx := if m.isReply then .replying else .calling
          log := s.log ++ [.read m] }
  | reply (hrx : s.rx = .replying) (hc : s.caller.holdsReply = false) :
      RxStep s .rxReply { s with caller := s.caller.signal, rx := .polling }
  | call (hrx : s.rx = .calling) (hcb : s.cb.holdsCb = false) :
      RxStep s .rxCall
        { s with
          gotCb := true
          cb := if s.cb = .notStarted then .starting else s.cb.signal
          rx := .polling }

/-- Every enabled step of `rx_context` is one of these cases. -/
theorem rxContext_cases {s s' : Client} {a : ClientAct} (h : rxContext s a = some s') :
    RxStep s a s' := by
  cases a with
  | rxHup =>
    simp only [rxContext, Option.ite_none_right_eq_some, Option.some.injEq] at h
    obtain ⟨⟨hrx, hr, hc⟩, rfl⟩ := h
    exact .hup hrx hr hc
  | rxHupSignal =>
    simp only [rxContext, Option.ite_none_right_eq_some, Option.some.injEq] at h
    obtain ⟨⟨hrx, hcb⟩, rfl⟩ := h
    exact .hupSignal hrx hcb
  | rxHupClear =>
    simp only [rxContext, Option.ite_none_right_eq_some, Option.some.injEq] at h
    obtain ⟨hrx, rfl⟩ := h
    exact .hupClear hrx
  | rxOut =>
    simp only [rxContext, Option.ite_none_right_eq_some, Option.some.injEq] at h
    obtain ⟨⟨hrx, hr, hc⟩, rfl⟩ := h
    exact .out hrx hr hc
  | rxOutSignal =>
    simp only [rxContext, Option.ite_none_right_eq_some, Option.some.injEq] at h
    obtain ⟨⟨hrx, hcb⟩, rfl⟩ := h
    exact .outSignal hrx hcb
  | rxIn =>
    simp only [rxContext, Option.ite_none_right_eq_some, Option.some.injEq] at h
    obtain ⟨hrx, rfl⟩ := h
    exact .poll hrx
  | rxRead m =>
    simp only [rxContext, Option.ite_none_right_eq_some] at h
    obtain ⟨⟨hrx, hb⟩, h⟩ := h
    cases m with
    | none =>
      cases h
      exact .readError hrx hb
    | some m =>
      cases h
      exact .read m hrx hb
  | rxReply =>
    simp only [rxContext, Option.ite_none_right_eq_some, Option.some.injEq] at h
    obtain ⟨⟨hrx, hc⟩, rfl⟩ := h
    exact .reply hrx hc
  | rxCall =>
    simp only [rxContext, Option.ite_none_right_eq_some, Option.some.injEq] at h
    obtain ⟨⟨hrx, hcb⟩, rfl⟩ := h
    exact .call hrx hcb
  | _ => cases h

/-! ## Which thread takes a step -/

section Thread

variable {s : Client} {a : ClientAct}

theorem clientStep_of_caller (h : a.thread = some .caller) : clientStep s a = clntCall s a := by
  unfold clientStep
  rw [h]

theorem clientStep_of_callback (h : a.thread = some .callback) :
    clientStep s a = cbContext s a := by
  unfold clientStep
  rw [h]

theorem clientStep_of_receiver (h : a.thread = some .receiver) :
    clientStep s a = rxContext s a := by
  unfold clientStep
  rw [h]

end Thread

/-! ## What each thread leaves alone -/

section Frames

variable {c c' : Client} {a : ClientAct}

/-- `clnt_call` leaves the other two threads and the buffer's contents alone. -/
theorem CallStep.frame (h : CallStep c a c') :
    c'.gotCb = c.gotCb ∧ c'.cb = c.cb ∧ c'.rx = c.rx ∧ c'.inMsg = c.inMsg := by
  cases h <;> exact ⟨rfl, rfl, rfl, rfl⟩

/-- `cb_context` leaves the other two threads and the buffer's contents alone. -/
theorem CbStep.frame (h : CbStep c a c') :
    c'.caller = c.caller ∧ c'.rx = c.rx ∧ c'.inMsg = c.inMsg := by
  cases h <;> exact ⟨rfl, rfl, rfl⟩

/-- `rx_context` only signals the caller. -/
theorem RxStep.caller (h : RxStep c a c') :
    c'.caller = c.caller ∨ c'.caller = c.caller.signal := by
  cases h with
  | hup _ _ _ => exact .inr rfl
  | reply _ _ => exact .inr rfl
  | _ => exact .inl rfl

end Frames

end Ancora.Rpc
