import Ancora.Lib.Machine
import Ancora.Rpc.Client

/-!
# Who owns the input buffer

`input_xdr_busy` stands for the message in `xdr->in_msg`, but several exits of
`clnt.c` clear it for somebody else's message or leave it set for nobody. The
runs that avoid them (`bufferTimely`) hand every message over in full, or have
`clnt_call` drop it as the REPLY to another call:

- a CALL is read only while its service is registered, and the service stays
  until the callback thread has looked it up (else the exits at clnt.c:203 and
  clnt.c:209 keep the buffer, and clnt.c:97 reads a null transport);
- a REPLY is signalled to a call that waits for it (else nobody takes it);
- a call that wakes up outside a reset finds a reply, and one that leaves without
  a reply (failed send, reset) finds the buffer free;
- a reset finds the buffer free (clnt.c:314).

**`input_buffer_owned`**: in these runs the log is a sequence of complete
hand-overs, and whenever `rx_context` waits for the buffer, the threads that run
free it.
-/

namespace Ancora.Rpc

open Machine

/-- The transport has a service for the message. -/
def registered (xprt : Option Xprt) (m : Msg) : Bool :=
  xprt.any fun x => x.services.contains m.prog

/-- The callback thread has found the service of the message in the buffer. -/
def CbThread.found : CbThread → Bool
  | .cloning _ => true
  | .releasing _ => true
  | _ => false

/-- The steps that respect the owner of the buffer. -/
def bufferTimely (s : Client) : ClientAct → Prop
  | .transport xprt => s.inputXdrBusy = true → s.cb.found = false →
    ∀ m ∈ s.inMsg, m.isReply = false → registered xprt m = true
  | .rxRead m => ∀ m' ∈ m, m'.isReply = false → registered s.theXprt m' = true
  | .cbCheck => s.theXprt ≠ none
  | .rxReply => s.inputXdrBusy = true → s.caller.waits = true
  | .callWake => s.inReset = true ∨
    (s.inputXdrBusy = true ∧ s.inMsg.any (fun m => m.isReply) = true)
  | .callRelease => s.inputXdrBusy = true → s.caller = .releasing true
  | .rxHupClear => s.inputXdrBusy = false
  | _ => True

instance (s : Client) : (a : ClientAct) → Decidable (bufferTimely s a)
  | .transport _ => inferInstanceAs (Decidable (_ → _ → ∀ m ∈ s.inMsg, _))
  | .rxRead m => inferInstanceAs (Decidable (∀ m' ∈ m, _))
  | .cbCheck => inferInstanceAs (Decidable (_ ≠ _))
  | .rxReply => inferInstanceAs (Decidable (_ → _))
  | .callWake => inferInstanceAs (Decidable (_ ∨ _))
  | .callRelease => inferInstanceAs (Decidable (_ → _))
  | .rxHupClear => inferInstanceAs (Decidable (_ = _))
  | .syncLock | .callBegin _ | .callCheck _ | .callSend _ | .callDecode | .cbStart | .cbTop
  | .cbWake | .cbLook | .cbClone | .cbRelease | .cbDispatch | .rxHup | .rxHupSignal
  | .rxOut | .rxOutSignal | .rxIn | .rxCall => .isTrue trivial

/-! ## What the log should look like -/

/-- What its addressee does with a message: `clnt_call` drops a REPLY that has another XID than the
call, `own`; all others are consumed whole. -/
def handled (own : Nat) (m : Msg) : BufEvent :=
  if m.isReply = true ∧ m.xid ≠ own then .mismatch own (some m)
  else .consumed m.addressee (some m) (some m)

/-- A message is read, handled by its addressee and freed by it. -/
def handOver (own : Nat) (m : Msg) : List BufEvent :=
  [.read m, handled own m, .freed m.addressee]

/-- A sequence of complete hand-overs, the last possibly still going on. -/
def HandedOver (log : List BufEvent) : Prop :=
  ∃ (ms : List (Nat × Msg)) (own : Nat) (m : Msg) (rest : List BufEvent),
    log = (ms.flatMap fun p => handOver p.1 p.2) ++ rest ∧ rest <+: handOver own m

/-- The same, step by step: `b` is the message in the buffer and whether it has
been handled. -/
inductive Orderly : List BufEvent → Option (Msg × Bool) → Prop
  | start : Orderly [] none
  | read {log} (m : Msg) (h : Orderly log none) : Orderly (log ++ [.read m]) (some (m, false))
  | handled {log m} (own : Nat) (h : Orderly log (some (m, false))) :
    Orderly (log ++ [handled own m]) (some (m, true))
  | freed {log m} (h : Orderly log (some (m, true))) : Orderly (log ++ [.freed m.addressee]) none

/-- The events of a hand-over so far. -/
def handedSoFar (own : Nat) : Option (Msg × Bool) → List BufEvent
  | none => []
  | some (m, false) => [.read m]
  | some (m, true) => [.read m, handled own m]

theorem Orderly.eq_handOver {log : List BufEvent} {b : Option (Msg × Bool)} (h : Orderly log b) :
    ∃ (ms : List (Nat × Msg)) (own : Nat),
      log = (ms.flatMap fun p => handOver p.1 p.2) ++ handedSoFar own b := by
  induction h with
  | start => exact ⟨[], 0, rfl⟩
  | read m h ih =>
    obtain ⟨ms, own, rfl⟩ := ih
    exact ⟨ms, own, by simp [handedSoFar]⟩
  | handled own h ih =>
    obtain ⟨ms, _, rfl⟩ := ih
    exact ⟨ms, own, by simp [handedSoFar]⟩
  | @freed log m h ih =>
    obtain ⟨ms, own, rfl⟩ := ih
    exact ⟨ms ++ [(own, m)], own, by simp [handedSoFar, handOver]⟩

theorem Orderly.handedOver {log : List BufEvent} {b : Option (Msg × Bool)} (h : Orderly log b) :
    HandedOver log := by
  obtain ⟨ms, own, hms⟩ := h.eq_handOver
  match b with
  | none => exact ⟨ms, own, ⟨0, true, 0, false⟩, _, hms, List.nil_prefix⟩
  | some (m, false) => exact ⟨ms, own, m, _, hms, ⟨_, rfl⟩⟩
  | some (m, true) => exact ⟨ms, own, m, _, hms, ⟨_, rfl⟩⟩

/-- The caller handles a REPLY. -/
theorem Client.decodeEvent_eq {s : Client} {m : Msg} (hin : s.inMsg = some m)
    (hm : m.isReply = true) : s.decodeEvent (some m) = handled s.outXid m := by
  have haddr : m.addressee = .caller := if_pos hm
  rw [Client.decodeEvent, handled, hin, haddr]
  by_cases hxid : m.xid = s.outXid
  · rw [if_pos (by simpa using hxid), if_neg (fun h => h.2 hxid)]
  · rw [if_neg (by simpa using hxid), if_pos ⟨hm, hxid⟩]

/-- The callback thread consumes a CALL, whatever XID the caller waits for. -/
theorem handled_call {m : Msg} (hm : m.isReply = false) (own : Nat) :
    handled own m = .consumed .callback (some m) (some m) := by
  have haddr : m.addressee = .callback := if_neg (by rw [hm]; decide)
  rw [handled, if_neg (fun h => by rw [hm] at h; exact absurd h.1 (by decide)), haddr]

/-! ## The invariant -/

/-- `clnt_call` has looked at the buffer and not freed it. -/
def Caller.reads : Caller → Bool
  | .decoding _ => true
  | .releasing took => took
  | _ => false

/-- Where a REPLY in the buffer is. -/
inductive ReplyPhase (m : Msg) : Caller → Rx → Bool → Prop
  | handing {c : Caller} (hc : c.reads = false) : ReplyPhase m c .replying false
  | signalled {rx : Rx} : ReplyPhase m (.waiting true) rx false
  | skipped {rx : Rx} : ReplyPhase m (.releasing false) rx false
  | decoding {rx : Rx} : ReplyPhase m (.decoding (some m)) rx false
  | taken {rx : Rx} : ReplyPhase m (.releasing true) rx true

/-- Where a CALL in the buffer is. -/
inductive CallPhase (m : Msg) (xprt : Option Xprt) : Bool → CbThread → Rx → Bool → Prop
  | handing {cb : CbThread} (hcb : cb.reads = false) (hreg : registered xprt m = true) :
    CallPhase m xprt false cb .calling false
  | pending {cb : CbThread} {rx : Rx} (hcb : cb.comes = true) (hrx : rx ≠ .calling)
    (hreg : registered xprt m = true) : CallPhase m xprt true cb rx false
  | looking {rx : Rx} (hrx : rx ≠ .calling) (hreg : registered xprt m = true) :
    CallPhase m xprt false .looking rx false
  | cloning {rx : Rx} (hrx : rx ≠ .calling) : CallPhase m xprt false (.cloning (some m)) rx false
  | taken {rx : Rx} (hrx : rx ≠ .calling) : CallPhase m xprt false (.releasing m) rx true

/-- Where the three threads are, by what is in the buffer. -/
inductive Phase (xprt : Option Xprt) :
    Bool → Option Msg → Caller → Bool → CbThread → Rx → Option (Msg × Bool) → Prop
  | empty {inMsg : Option Msg} {c : Caller} {cb : CbThread} {rx : Rx} (hc : c.reads = false)
    (hcb : cb.reads = false) (hrx : rx ≠ .calling) : Phase xprt false inMsg c false cb rx none
  | reply {m : Msg} {c : Caller} {cb : CbThread} {rx : Rx} {t : Bool} (hm : m.isReply = true)
    (hr : ReplyPhase m c rx t) (hcb : cb.reads = false) (hrx : rx ≠ .calling) :
    Phase xprt true (some m) c false cb rx (some (m, t))
  | call {m : Msg} {c : Caller} {got : Bool} {cb : CbThread} {rx : Rx} {t : Bool}
    (hm : m.isReply = false) (hc : c.reads = false) (hp : CallPhase m xprt got cb rx t) :
    Phase xprt true (some m) c got cb rx (some (m, t))

/-- The threads, the buffer and the log agree. -/
structure BufInv (s : Client) (b : Option (Msg × Bool)) : Prop where
  orderly : Orderly s.log b
  phase : Phase s.theXprt s.inputXdrBusy s.inMsg s.caller s.gotCb s.cb s.rx b
  alive : s.cb ≠ .crashed

section Moves

variable {xprt : Option Xprt} {busy got : Bool} {inMsg : Option Msg} {c c' : Caller}
  {cb cb' : CbThread} {rx rx' : Rx} {b : Option (Msg × Bool)} {m : Msg} {t : Bool}

/-- A caller that is nowhere near the buffer and has not been signalled. -/
def Caller.away : Caller → Bool
  | .idle => true
  | .entered => true
  | .encoded => true
  | .waiting woken => !woken
  | _ => false

theorem ReplyPhase.of_away (h : ReplyPhase m c rx t) (hc : c.away = true) (hc' : c'.reads = false) :
    ReplyPhase m c' rx t := by
  cases h with
  | handing => exact .handing hc'
  | signalled => cases hc
  | skipped => cases hc
  | decoding => cases hc
  | taken => cases hc

/-- Only `rx_context` handing over a REPLY cares about its own place. -/
theorem ReplyPhase.moveRx (h : ReplyPhase m c rx t) (hrx : rx ≠ .replying) :
    ReplyPhase m c rx' t := by
  cases h with
  | handing => exact absurd rfl hrx
  | signalled => exact .signalled
  | skipped => exact .skipped
  | decoding => exact .decoding
  | taken => exact .taken

theorem ReplyPhase.signal (h : ReplyPhase m c rx t) (hc : c.holdsReply = false) :
    ReplyPhase m c.signal rx t := by
  cases h with
  | @handing c hreads =>
    cases c with
    | waiting => exact .handing rfl
    | _ => exact .handing hreads
  | signalled => exact .signalled
  | skipped => cases hc
  | decoding => cases hc
  | taken => cases hc

theorem Caller.signal_reads (h : c.reads = false) : c.signal.reads = false := by
  cases c with
  | waiting => rfl
  | _ => exact h

theorem CbThread.signal_reads (h : cb.reads = false) : cb.signal.reads = false := by
  cases cb with
  | waiting => rfl
  | _ => exact h

/-- A step of a callback thread that is not at the buffer. -/
theorem CallPhase.moveCb (h : CallPhase m xprt got cb rx t) (hcb : cb.reads = false)
    (hcb' : cb'.reads = false) (hcomes : got = true → cb.comes = true → cb'.comes = true) :
    CallPhase m xprt got cb' rx t := by
  cases h with
  | handing _ hreg => exact .handing hcb' hreg
  | pending hc hrx hreg => exact .pending (hcomes rfl hc) hrx hreg
  | looking => cases hcb
  | cloning => cases hcb
  | taken => cases hcb

theorem CallPhase.moveRx (h : CallPhase m xprt got cb rx t) (hrx : rx ≠ .calling)
    (hrx' : rx' ≠ .calling) : CallPhase m xprt got cb rx' t := by
  cases h with
  | handing => exact absurd rfl hrx
  | pending hc _ hreg => exact .pending hc hrx' hreg
  | looking _ hreg => exact .looking hrx' hreg
  | cloning => exact .cloning hrx'
  | taken => exact .taken hrx'

theorem CallPhase.moveXprt {xprt' : Option Xprt} (h : CallPhase m xprt got cb rx t)
    (hreg : cb.found = false → registered xprt' m = true) : CallPhase m xprt' got cb rx t := by
  cases h with
  | @handing cb hcb _ =>
    refine .handing hcb (hreg ?_)
    cases cb with
    | cloning => cases hcb
    | releasing => cases hcb
    | _ => rfl
  | @pending cb _ hc hrx _ =>
    refine .pending hc hrx (hreg ?_)
    cases cb with
    | cloning => cases hc
    | releasing => cases hc
    | _ => rfl
  | looking hrx _ => exact .looking hrx (hreg rfl)
  | cloning hrx => exact .cloning hrx
  | taken hrx => exact .taken hrx

/-- A step of `clnt_call` away from the buffer. -/
theorem Phase.moveCaller (hp : Phase xprt busy inMsg c got cb rx b) (hc' : c'.reads = false)
    (hreply : ∀ m t, ReplyPhase m c rx t → ReplyPhase m c' rx t) :
    Phase xprt busy inMsg c' got cb rx b := by
  cases hp with
  | empty _ hcb hrx => exact .empty hc' hcb hrx
  | reply hm hr hcb hrx => exact .reply hm (hreply _ _ hr) hcb hrx
  | call hm _ hp => exact .call hm hc' hp

/-- A step of `cb_context` away from the buffer. -/
theorem Phase.moveCb (hp : Phase xprt busy inMsg c got cb rx b) (hcb : cb.reads = false)
    (hcb' : cb'.reads = false) (hcomes : got = true → cb.comes = true → cb'.comes = true) :
    Phase xprt busy inMsg c got cb' rx b := by
  cases hp with
  | empty hc _ hrx => exact .empty hc hcb' hrx
  | reply hm hr _ hrx => exact .reply hm hr hcb' hrx
  | call hm hc hp => exact .call hm hc (hp.moveCb hcb hcb' hcomes)

/-- A step of `rx_context` that has no message in hand. -/
theorem Phase.moveRx (hp : Phase xprt busy inMsg c got cb rx b) (hrx : rx ≠ .calling)
    (hrep : rx ≠ .replying) (hrx' : rx' ≠ .calling) : Phase xprt busy inMsg c got cb rx' b := by
  cases hp with
  | empty hc hcb _ => exact .empty hc hcb hrx'
  | reply hm hr hcb _ => exact .reply hm (hr.moveRx hrep) hcb hrx'
  | call hm hc hp => exact .call hm hc (hp.moveRx hrx hrx')

theorem Phase.callerSignal (hp : Phase xprt busy inMsg c got cb rx b)
    (hc : c.holdsReply = false) : Phase xprt busy inMsg c.signal got cb rx b := by
  cases hp with
  | empty hc' hcb hrx => exact .empty (Caller.signal_reads hc') hcb hrx
  | reply hm hr hcb hrx => exact .reply hm (hr.signal hc) hcb hrx
  | call hm hc' hp => exact .call hm (Caller.signal_reads hc') hp

theorem CbThread.reads_of_comes (h : cb.comes = true) : cb.reads = false := by
  cases cb with
  | starting => rfl
  | top => rfl
  | waiting => rfl
  | awake => rfl
  | _ => cases h

theorem Phase.cbSignal (hp : Phase xprt busy inMsg c got cb rx b) (hcb : cb.holdsCb = false) :
    Phase xprt busy inMsg c got cb.signal rx b :=
  hp.moveCb (CbThread.reads_of_holdsCb hcb)
    (CbThread.signal_reads (CbThread.reads_of_holdsCb hcb)) fun _ => CbThread.signal_comes

/-- `rx_context` hands a REPLY over to a caller that waits for it. -/
theorem Phase.replied (hp : Phase xprt busy inMsg c got cb .replying b)
    (hc : c.holdsReply = false) (hwait : busy = true → c.signal = .waiting true) :
    Phase xprt busy inMsg c.signal got cb .polling b := by
  cases hp.callerSignal hc with
  | empty hc' hcb _ => exact .empty hc' hcb (by decide)
  | reply hm hr hcb _ =>
    rw [hwait rfl] at hr ⊢
    cases hr with
    | handing => exact .reply hm .signalled hcb (by decide)
    | signalled => exact .reply hm .signalled hcb (by decide)
  | call hm hc' hcp => exact .call hm hc' (hcp.moveRx (by decide) (by decide))

/-- `rx_context` hands a CALL over to `cb_context`. -/
theorem Phase.called (hp : Phase xprt busy inMsg c got cb .calling b)
    (hcomes : cb'.comes = true) : Phase xprt busy inMsg c true cb' .polling b := by
  cases hp with
  | empty _ _ hne => exact absurd rfl hne
  | reply _ _ _ hne => exact absurd rfl hne
  | call hm hc hcp =>
    cases hcp with
    | handing _ hreg => exact .call hm hc (.pending hcomes (by decide) hreg)
    | pending _ hne _ => exact absurd rfl hne
    | looking hne _ => exact absurd rfl hne
    | cloning hne => exact absurd rfl hne
    | taken hne => exact absurd rfl hne

end Moves

/-! ## Steps -/

variable {s s' : Client} {a : ClientAct} {b : Option (Msg × Bool)}

/-- Freeing a free buffer changes nothing. -/
theorem Client.free_of_not_busy (h : s.inputXdrBusy = false) (p : Party) : s.free p = s := by
  cases s
  cases h
  rfl

/-- `svc_find` succeeds on a message that the transport has a service for. -/
theorem Client.svcFind_of_registered {m : Msg} (hin : s.inMsg = some m)
    (hreg : registered s.theXprt m = true) : s.svcFind = true := by
  unfold Client.svcFind registered at *
  rw [hin]
  cases hx : s.theXprt with
  | none => simp [hx] at hreg
  | some x => simpa [hx] using hreg

/-- A call that looks at the buffer has its REPLY there. -/
theorem BufInv.decoding (hi : BufInv s b) {first : Option Msg} (hc : s.caller = .decoding first) :
    ∃ m, b = some (m, false) ∧ first = some m ∧ s.inMsg = some m ∧ m.isReply = true ∧
      s.inputXdrBusy = true ∧ s.gotCb = false ∧ s.cb.reads = false ∧ s.rx ≠ .calling := by
  have hp := hi.phase
  rw [hc] at hp
  generalize s.inMsg = i at hp ⊢
  generalize s.inputXdrBusy = busy at hp ⊢
  generalize s.gotCb = got at hp ⊢
  generalize s.rx = rx at hp ⊢
  cases hp with
  | empty hreads => cases hreads
  | reply hm hr hcb hrx =>
    cases hr with
    | handing hreads => cases hreads
    | decoding => exact ⟨_, rfl, rfl, rfl, hm, rfl, rfl, hcb, hrx⟩
  | call _ hreads _ => cases hreads

/-- A call that has decoded its REPLY still has it in the buffer. -/
theorem BufInv.took (hi : BufInv s b) (hc : s.caller = .releasing true) :
    ∃ m, b = some (m, true) ∧ m.isReply = true ∧ s.inputXdrBusy = true ∧ s.gotCb = false ∧
      s.cb.reads = false ∧ s.rx ≠ .calling := by
  have hp := hi.phase
  rw [hc] at hp
  generalize s.inMsg = i at hp ⊢
  generalize s.inputXdrBusy = busy at hp ⊢
  generalize s.gotCb = got at hp ⊢
  generalize s.rx = rx at hp ⊢
  cases hp with
  | empty hreads => cases hreads
  | reply hm hr hcb hrx =>
    cases hr with
    | handing hreads => cases hreads
    | taken => exact ⟨_, rfl, hm, rfl, rfl, hcb, hrx⟩
  | call _ hreads _ => cases hreads

/-- A free buffer. -/
theorem BufInv.not_busy (hi : BufInv s b) (hb : s.inputXdrBusy = false) :
    b = none ∧ s.caller.reads = false ∧ s.gotCb = false ∧ s.cb.reads = false ∧ s.rx ≠ .calling := by
  have hp := hi.phase
  rw [hb] at hp
  generalize s.inMsg = i at hp ⊢
  generalize s.gotCb = got at hp ⊢
  cases hp with
  | empty hc hcb hrx => exact ⟨rfl, hc, rfl, hcb, hrx⟩

/-- A REPLY in the buffer that its call, waiting, has not looked at. -/
theorem BufInv.awaited (hi : BufInv s b) (hb : s.inputXdrBusy = true)
    (hm : s.inMsg.any (fun m => m.isReply) = true) {woken : Bool}
    (hc : s.caller = .waiting woken) :
    ∃ m, b = some (m, false) ∧ s.inMsg = some m ∧ m.isReply = true ∧ s.gotCb = false ∧
      s.cb.reads = false ∧ s.rx ≠ .calling := by
  have hp := hi.phase
  rw [hb, hc] at hp
  generalize s.inMsg = i at hp hm ⊢
  generalize s.gotCb = got at hp ⊢
  generalize s.rx = rx at hp ⊢
  cases hp with
  | reply hm hr hcb hrx =>
    cases hr with
    | handing => exact ⟨_, rfl, rfl, hm, rfl, hcb, hrx⟩
    | signalled => exact ⟨_, rfl, rfl, hm, rfl, hcb, hrx⟩
  | call hm' _ _ =>
    rw [Option.any_some, hm'] at hm
    cases hm

/-- The invariant after a step of `clnt_call` that only moves `clnt_call`. -/
theorem BufInv.moveCaller (hi : BufInv s b) (c' : Caller) (hc' : c'.reads = false)
    (hreply : ∀ m t, ReplyPhase m s.caller s.rx t → ReplyPhase m c' s.rx t)
    (hrest : s' = { s with
      caller := c', inReset := s'.inReset, outXid := s'.outXid, syncLocked := s'.syncLocked,
      callIsSync := s'.callIsSync }) : BufInv s' b := by
  rw [hrest]
  exact ⟨hi.orderly, hi.phase.moveCaller hc' hreply, hi.alive⟩

theorem BufInv.clntCall (hi : BufInv s b) (hok : bufferTimely s a)
    (h : clntCall s a = some s') : ∃ b', BufInv s' b' := by
  -- a step away from the buffer keeps the phase of a reply
  have hmove (hc : s.caller.away = true) (c' : Caller) (hc' : c'.reads = false)
      (hrest : s' = { s with
        caller := c', inReset := s'.inReset, outXid := s'.outXid, syncLocked := s'.syncLocked,
        callIsSync := s'.callIsSync }) : ∃ b', BufInv s' b' :=
    ⟨b, hi.moveCaller c' hc' (fun m t hr => hr.of_away hc hc') hrest⟩
  cases clntCall_cases h with
  | syncLock _ => exact ⟨b, hi.orderly, hi.phase, hi.alive⟩
  | begin sync hc _ => exact hmove (by rw [hc]; rfl) .entered rfl rfl
  | refused encodes hc _ => exact hmove (by rw [hc]; rfl) .idle rfl rfl
  | unencoded hc _ => exact hmove (by rw [hc]; rfl) .idle rfl rfl
  | encoded hc _ => exact hmove (by rw [hc]; rfl) .encoded rfl rfl
  | sentInReset r hc _ => exact hmove (by rw [hc]; rfl) (.releasing false) rfl rfl
  | sent hc _ => exact hmove (by rw [hc]; rfl) (.waiting false) rfl rfl
  | sendFailed hc _ => exact hmove (by rw [hc]; rfl) (.releasing false) rfl rfl
  | netReset hc _ => exact hmove (by rw [hc]; rfl) (.releasing false) rfl rfl
  | wakeInReset woken hc _ =>
    refine ⟨b, hi.moveCaller (.releasing false) rfl ?_ rfl⟩
    intro m t hr
    rw [hc] at hr
    generalize s.rx = rx at hr ⊢
    cases hr with
    | handing => exact .handing rfl
    | signalled => exact .skipped
  | wake woken hc hr =>
    obtain hr' | ⟨hb, hm⟩ := hok
    · rw [hr] at hr'
      cases hr'
    · obtain ⟨m, rfl, hin, hm, hg, hcb, hrx⟩ := hi.awaited hb hm hc
      refine ⟨_, hi.orderly, ?_, hi.alive⟩
      show Phase s.theXprt s.inputXdrBusy s.inMsg (.decoding s.inMsg) s.gotCb s.cb s.rx _
      rw [hb, hin, hg]
      exact .reply hm .decoding hcb hrx
  | decode first hc =>
    obtain ⟨m, rfl, rfl, hin, hm, hb, hg, hcb, hrx⟩ := hi.decoding hc
    refine ⟨some (m, true), ?_, ?_, hi.alive⟩
    · show Orderly (s.log ++ [s.decodeEvent (some m)]) _
      rw [Client.decodeEvent_eq hin hm]
      exact hi.orderly.handled s.outXid
    · show Phase s.theXprt s.inputXdrBusy s.inMsg (.releasing true) s.gotCb s.cb s.rx _
      rw [hb, hin, hg]
      exact .reply hm .taken hcb hrx
  | release took hc =>
    by_cases hb : s.inputXdrBusy = true
    · obtain ⟨m, rfl, hm, -, hg, hcb, hrx⟩ := hi.took (hok hb)
      have haddr : m.addressee = .caller := if_pos hm
      refine ⟨none, ?_, ?_, hi.alive⟩
      · show Orderly (if s.inputXdrBusy then s.log ++ [.freed .caller] else s.log) none
        rw [if_pos hb, ← haddr]
        exact hi.orderly.freed
      · show Phase s.theXprt false s.inMsg .idle s.gotCb s.cb s.rx none
        rw [hg]
        exact .empty rfl hcb hrx
    · have hb' : s.inputXdrBusy = false := by simpa using hb
      obtain ⟨rfl, -, hg, hcb, hrx⟩ := hi.not_busy hb'
      rw [Client.free_of_not_busy hb']
      refine ⟨none, hi.orderly, ?_, hi.alive⟩
      show Phase s.theXprt s.inputXdrBusy s.inMsg .idle s.gotCb s.cb s.rx none
      rw [hb', hg]
      exact .empty rfl hcb hrx

/-- `cb_context` at the buffer has a CALL there. -/
theorem BufInv.cbReads (hi : BufInv s b) (hcb : s.cb.reads = true) :
    ∃ m t, b = some (m, t) ∧ s.inMsg = some m ∧ m.isReply = false ∧ s.inputXdrBusy = true ∧
      s.caller.reads = false ∧ s.gotCb = false ∧ s.rx ≠ .calling ∧
      ((t = false ∧ s.cb = .looking ∧ registered s.theXprt m = true) ∨
        (t = false ∧ s.cb = .cloning (some m)) ∨ (t = true ∧ s.cb = .releasing m)) := by
  have hp := hi.phase
  generalize s.inMsg = i at hp ⊢
  generalize s.inputXdrBusy = busy at hp ⊢
  generalize s.gotCb = got at hp ⊢
  generalize s.cb = cb at hp hcb ⊢
  generalize s.rx = rx at hp ⊢
  cases hp with
  | empty _ h _ =>
    rw [h] at hcb
    cases hcb
  | reply _ _ h _ =>
    rw [h] at hcb
    cases hcb
  | call hm hc hp =>
    cases hp with
    | handing h _ =>
      rw [h] at hcb
      cases hcb
    | pending h _ _ =>
      rw [CbThread.reads_of_comes h] at hcb
      cases hcb
    | looking hrx hreg => exact ⟨_, _, rfl, rfl, hm, rfl, hc, rfl, hrx, .inl ⟨rfl, rfl, hreg⟩⟩
    | cloning hrx => exact ⟨_, _, rfl, rfl, hm, rfl, hc, rfl, hrx, .inr (.inl ⟨rfl, rfl⟩)⟩
    | taken hrx => exact ⟨_, _, rfl, rfl, hm, rfl, hc, rfl, hrx, .inr (.inr ⟨rfl, rfl⟩)⟩

/-- With `got_cb` set there is a CALL in the buffer and `cb_context` comes for it. -/
theorem BufInv.pending (hi : BufInv s b) (hg : s.gotCb = true) :
    ∃ m, b = some (m, false) ∧ s.inMsg = some m ∧ m.isReply = false ∧ s.inputXdrBusy = true ∧
      s.caller.reads = false ∧ s.cb.comes = true ∧ s.rx ≠ .calling ∧
      registered s.theXprt m = true := by
  have hp := hi.phase
  rw [hg] at hp
  generalize s.inMsg = i at hp ⊢
  generalize s.inputXdrBusy = busy at hp ⊢
  generalize s.cb = cb at hp ⊢
  generalize s.rx = rx at hp ⊢
  cases hp with
  | call hm hc hp =>
    cases hp with
    | pending hcb hrx hreg => exact ⟨_, rfl, rfl, hm, rfl, hc, hcb, hrx, hreg⟩

/-- The reset flag of the transport has nothing to do with its services. -/
theorem Phase.setReset {x : Xprt} {r busy got : Bool} {inMsg : Option Msg} {c : Caller}
    {cb : CbThread} {rx : Rx} (hp : Phase (some x) busy inMsg c got cb rx b) :
    Phase (some { x with inReset := r }) busy inMsg c got cb rx b := by
  cases hp with
  | empty hc hcb hrx => exact .empty hc hcb hrx
  | reply hm hr hcb hrx => exact .reply hm hr hcb hrx
  | call hm hc hp =>
    refine .call hm hc ?_
    cases hp with
    | handing hcb hreg => exact .handing hcb hreg
    | pending hcb hrx hreg => exact .pending hcb hrx hreg
    | looking hrx hreg => exact .looking hrx hreg
    | cloning hrx => exact .cloning hrx
    | taken hrx => exact .taken hrx

/-- The invariant after a step of `cb_context` away from the buffer. -/
theorem BufInv.moveCb (hi : BufInv s b) {cb cb' : CbThread} (hc : s.cb = cb)
    (hcb : cb.reads = false) (hcb' : cb'.reads = false)
    (hcomes : s.gotCb = true → cb.comes = true → cb'.comes = true) (halive : cb' ≠ .crashed) :
    BufInv { s with cb := cb' } b := by
  have hp := hi.phase
  rw [hc] at hp
  exact ⟨hi.orderly, hp.moveCb hcb hcb' hcomes, halive⟩

theorem BufInv.cbContext (hi : BufInv s b) (hok : bufferTimely s a)
    (h : cbContext s a = some s') : ∃ b', BufInv s' b' := by
  cases cbContext_cases h with
  | start hc => exact ⟨b, hi.moveCb hc rfl rfl (fun _ _ => rfl) (by decide)⟩
  | goOn hc _ => exact ⟨b, hi.moveCb hc rfl rfl (fun _ _ => rfl) (by decide)⟩
  | wait hc hg =>
    refine ⟨b, hi.moveCb hc rfl rfl (fun h _ => ?_) (by decide)⟩
    rw [hg] at h
    cases h
  | wake woken hc => exact ⟨b, hi.moveCb hc rfl rfl (fun _ _ => rfl) (by decide)⟩
  | crash hc hx => exact absurd hx hok
  | reset x hc hx _ =>
    have htop : BufInv { s with cb := .top } b :=
      hi.moveCb hc rfl rfl (fun _ _ => rfl) (by decide)
    refine ⟨b, hi.orderly, ?_, htop.alive⟩
    have hp := htop.phase
    rw [show ({ s with cb := .top } : Client).theXprt = some x from hx] at hp
    exact hp.setReset
  | take x hc hx _ hg =>
    obtain ⟨m, rfl, hin, hm, hb, hcr, -, hrx, hreg⟩ := hi.pending hg
    refine ⟨_, hi.orderly, ?_, by simp⟩
    show Phase s.theXprt s.inputXdrBusy s.inMsg s.caller false .looking s.rx _
    rw [hb, hin]
    exact .call hm hcr (.looking hrx hreg)
  | nothing x hc hx _ _ => exact ⟨b, hi.moveCb hc rfl rfl (fun _ _ => rfl) (by decide)⟩
  | found hc hf =>
    obtain ⟨m, t, rfl, hin, hm, hb, hcr, hg, hrx, hcase⟩ := hi.cbReads (by rw [hc]; rfl)
    rw [hc] at hcase
    obtain ⟨rfl, -, -⟩ | ⟨-, hcl⟩ | ⟨-, hre⟩ := hcase
    · refine ⟨_, hi.orderly, ?_, by simp⟩
      show Phase s.theXprt s.inputXdrBusy s.inMsg s.caller s.gotCb (.cloning s.inMsg) s.rx _
      rw [hb, hin, hg]
      exact .call hm hcr (.cloning hrx)
    · cases hcl
    · cases hre
  | unknown hc hf =>
    -- the service of a CALL in the buffer is registered
    obtain ⟨m, t, rfl, hin, hm, hb, hcr, hg, hrx, hcase⟩ := hi.cbReads (by rw [hc]; rfl)
    rw [hc] at hcase
    obtain ⟨-, -, hreg⟩ | ⟨-, hcl⟩ | ⟨-, hre⟩ := hcase
    · rw [Client.svcFind_of_registered hin hreg] at hf
      cases hf
    · cases hcl
    · cases hre
  | clone first m' hc hm' =>
    obtain ⟨m, t, rfl, hin, hm, hb, hcr, hg, hrx, hcase⟩ := hi.cbReads (by rw [hc]; rfl)
    rw [hc] at hcase
    obtain ⟨-, hlo, -⟩ | ⟨rfl, hcl⟩ | ⟨-, hre⟩ := hcase
    · cases hlo
    · cases hcl
      rw [hin, Option.some.injEq] at hm'
      subst hm'
      refine ⟨some (m, true), ?_, ?_, by simp⟩
      · show Orderly (s.log ++ [.consumed .callback (some m) (some m)]) _
        rw [← handled_call hm 0]
        exact hi.orderly.handled 0
      · show Phase s.theXprt s.inputXdrBusy s.inMsg s.caller s.gotCb (.releasing m) s.rx _
        rw [hb, hin, hg]
        exact .call hm hcr (.taken hrx)
    · cases hre
  | lost first hc hm' =>
    obtain ⟨m, t, rfl, hin, -⟩ := hi.cbReads (by rw [hc]; rfl)
    rw [hin] at hm'
    cases hm'
  | release c hc =>
    obtain ⟨m, t, rfl, hin, hm, hb, hcr, hg, hrx, hcase⟩ := hi.cbReads (by rw [hc]; rfl)
    rw [hc] at hcase
    obtain ⟨-, hlo, -⟩ | ⟨-, hcl⟩ | ⟨rfl, hre⟩ := hcase
    · cases hlo
    · cases hcl
    · cases hre
      have haddr : c.addressee = .callback := if_neg (by simp [hm])
      refine ⟨none, ?_, ?_, by simp⟩
      · show Orderly (if s.inputXdrBusy then s.log ++ [.freed .callback] else s.log) none
        rw [if_pos hb, ← haddr]
        exact hi.orderly.freed
      · show Phase s.theXprt false s.inMsg s.caller s.gotCb (.dispatching c) s.rx none
        rw [hg]
        exact .empty hcr rfl hrx
  | dispatch m hc _ => exact ⟨b, hi.moveCb hc rfl rfl (fun _ _ => rfl) (by decide)⟩

theorem BufInv.rxContext (hi : BufInv s b) (hok : bufferTimely s a)
    (h : rxContext s a = some s') : ∃ b', BufInv s' b' := by
  have hp := hi.phase
  cases rxContext_cases h with
  | hup hrx _ hc =>
    rw [hrx] at hp
    have hp' : Phase s.theXprt s.inputXdrBusy s.inMsg s.caller.signal s.gotCb s.cb .resetting b :=
      (hp.callerSignal hc).moveRx (by decide) (by decide) (by decide)
    exact ⟨b, hi.orderly, hp', hi.alive⟩
  | hupSignal hrx hcb =>
    rw [hrx] at hp
    have hp' : Phase s.theXprt s.inputXdrBusy s.inMsg s.caller s.gotCb s.cb.signal .clearing b :=
      (hp.cbSignal hcb).moveRx (by decide) (by decide) (by decide)
    exact ⟨b, hi.orderly, hp', CbThread.signal_alive hi.alive⟩
  | hupClear hrx =>
    rw [Client.free_of_not_busy hok]
    rw [hrx] at hp
    have hp' : Phase s.theXprt s.inputXdrBusy s.inMsg s.caller s.gotCb s.cb .polling b :=
      hp.moveRx (by decide) (by decide) (by decide)
    exact ⟨b, hi.orderly, hp', hi.alive⟩
  | out hrx _ _ =>
    rw [hrx] at hp
    have hp' : Phase s.theXprt s.inputXdrBusy s.inMsg s.caller s.gotCb s.cb .restarting b :=
      hp.moveRx (by decide) (by decide) (by decide)
    exact ⟨b, hi.orderly, hp', hi.alive⟩
  | outSignal hrx hcb =>
    rw [hrx] at hp
    have hp' : Phase s.theXprt s.inputXdrBusy s.inMsg s.caller s.gotCb s.cb.signal .polling b :=
      (hp.cbSignal hcb).moveRx (by decide) (by decide) (by decide)
    exact ⟨b, hi.orderly, hp', CbThread.signal_alive hi.alive⟩
  | poll hrx =>
    rw [hrx] at hp
    have hp' : Phase s.theXprt s.inputXdrBusy s.inMsg s.caller s.gotCb s.cb .reading b :=
      hp.moveRx (by decide) (by decide) (by decide)
    exact ⟨b, hi.orderly, hp', hi.alive⟩
  | readError _ hb =>
    obtain ⟨rfl, hc, hg, hcb, -⟩ := hi.not_busy hb
    refine ⟨none, hi.orderly, ?_, hi.alive⟩
    show Phase s.theXprt s.inputXdrBusy none s.caller s.gotCb s.cb .polling none
    rw [hb, hg]
    exact .empty hc hcb (by decide)
  | read m _ hb =>
    obtain ⟨rfl, hc, hg, hcb, -⟩ := hi.not_busy hb
    refine ⟨some (m, false), hi.orderly.read m, ?_, hi.alive⟩
    show Phase s.theXprt true (some m) s.caller s.gotCb s.cb
      (if m.isReply then .replying else .calling) _
    rw [hg]
    by_cases hm : m.isReply = true
    · rw [if_pos hm]
      exact .reply hm (.handing hc) hcb (by decide)
    · have hm' : m.isReply = false := by simpa using hm
      rw [if_neg hm]
      exact .call hm' hc (.handing hcb (hok m rfl hm'))
  | reply hrx hc =>
    rw [hrx] at hp
    exact ⟨b, hi.orderly, hp.replied hc fun hb => Caller.signal_of_waits (hok hb), hi.alive⟩
  | call hrx hcb =>
    rw [hrx] at hp
    refine ⟨b, hi.orderly, hp.called (CbThread.comes_of_call hcb), ?_⟩
    show (if s.cb = .notStarted then .starting else s.cb.signal) ≠ .crashed
    split
    · decide
    · exact CbThread.signal_alive hi.alive

theorem BufInv.transport (hi : BufInv s b) {xprt : Option Xprt}
    (hok : bufferTimely s (.transport xprt)) : BufInv { s with theXprt := xprt } b := by
  have hp := hi.phase
  have hok' : s.inputXdrBusy = true → s.cb.found = false →
    ∀ m ∈ s.inMsg, m.isReply = false → registered xprt m = true := hok
  refine ⟨hi.orderly, ?_, hi.alive⟩
  show Phase xprt s.inputXdrBusy s.inMsg s.caller s.gotCb s.cb s.rx b
  generalize s.inputXdrBusy = busy at hp hok' ⊢
  generalize s.inMsg = i at hp hok' ⊢
  generalize s.gotCb = got at hp ⊢
  cases hp with
  | empty hc hcb hrx => exact .empty hc hcb hrx
  | reply hm hr hcb hrx => exact .reply hm hr hcb hrx
  | call hm hc hp => exact .call hm hc (hp.moveXprt fun hf => hok' rfl hf _ rfl hm)

/-- Every permitted step keeps the invariant. -/
theorem BufInv.step (hok : bufferTimely s a) (h : clientStep s a = some s')
    (hi : ∃ b, BufInv s b) : ∃ b, BufInv s' b := by
  obtain ⟨b, hi⟩ := hi
  unfold clientStep at h
  split at h
  · exact hi.clntCall hok h
  · exact hi.cbContext hok h
  · exact hi.rxContext hok h
  · split at h
    · cases h
      exact ⟨b, hi.transport hok⟩
    · cases h

theorem BufInv.init (xprt : Option Xprt) : BufInv (clntCreate xprt) none :=
  ⟨.start, .empty rfl rfl (by simp [clntCreate]), by simp [clntCreate]⟩

/-! ## Nobody waits for a buffer that nobody frees -/

/-- A step of a thread other than `rx_context`, taken by itself. -/
def consumerStep (s : Client) (a : ClientAct) : Prop :=
  prompt s a ∧ a.thread ≠ some .receiver

instance (s : Client) (a : ClientAct) : Decidable (consumerStep s a) :=
  inferInstanceAs (Decidable (_ ∧ _))

/-- If `rx_context` waits for the buffer, the other threads free it. -/
def NotStuck (s : Client) : Prop :=
  s.rx = .reading → s.inputXdrBusy = true →
    ∃ as s', exec (restrict consumerStep clientStep) s as = some s' ∧ s'.inputXdrBusy = false

/-- How far `clnt_call` is from freeing the buffer. -/
def Caller.place : Caller → Nat
  | .waiting _ => 3
  | .decoding _ => 2
  | .releasing _ => 1
  | _ => 0

/-- How far `cb_context` is from freeing the buffer. -/
def CbThread.place : CbThread → Nat
  | .starting => 6
  | .top => 5
  | .waiting _ => 5
  | .awake => 4
  | .looking => 3
  | .cloning _ => 2
  | .releasing _ => 1
  | _ => 0

/-- A reset that `cb_context` has not passed on takes it once more round its loop. -/
def resetAhead (s : Client) : Nat :=
  if (s.theXprt.any fun x => x.inReset != s.inReset) = true then 2 else 0

/-- How far the consumer of the message in the buffer is from freeing it. -/
def distance (s : Client) : Nat :=
  if (s.inMsg.any fun m => m.isReply) = true then s.caller.place else s.cb.place + resetAhead s

theorem distance_reply {m : Msg} (hin : s.inMsg = some m) (hm : m.isReply = true) :
    distance s = s.caller.place := by
  rw [distance, hin, if_pos (by simpa using hm)]

theorem distance_call {m : Msg} (hin : s.inMsg = some m) (hm : m.isReply = false) :
    distance s = s.cb.place + resetAhead s := by
  rw [distance, hin, if_neg (by simp [hm])]

/-- A step of a consumer that brings the buffer closer to being free. -/
def Closer (s : Client) : Prop :=
  ∃ a s', consumerStep s a ∧ clientStep s a = some s' ∧
    (s'.inputXdrBusy = true → bufferTimely s a ∧ s'.rx = s.rx) ∧ distance s' < distance s

/-- `clnt_call`, signalled or past its wait, goes on. -/
theorem closer_reply {m : Msg} (hin : s.inMsg = some m) (hm : m.isReply = true)
    (hb : s.inputXdrBusy = true)
    (hc : s.caller = .waiting true ∨ (∃ first, s.caller = .decoding first) ∨
      ∃ took, s.caller = .releasing took) : Closer s := by
  have hlt : ∀ {t : Client} {n : Nat}, s.caller.place = n → t.inMsg = s.inMsg →
      t.caller.place < n → distance t < distance s := by
    intro t n hn ht hlt
    rw [distance_reply (ht.trans hin) hm, distance_reply hin hm, hn]
    exact hlt
  rcases hc with hc | ⟨first, hc⟩ | ⟨took, hc⟩
  · have hplace : s.caller.place = 3 := by rw [hc]; rfl
    by_cases hr : s.inReset = true
    · have hst : clientStep s .callWake = some { s with caller := .releasing false } := by
        simp [clientStep, ClientAct.thread, Rpc.clntCall, hc, hr]
      exact ⟨.callWake, _, ⟨hc, by decide⟩, hst, fun _ => ⟨.inl hr, rfl⟩,
        hlt hplace rfl (by decide : 1 < 3)⟩
    · have hst : clientStep s .callWake = some { s with caller := .decoding s.inMsg } := by
        simp [clientStep, ClientAct.thread, Rpc.clntCall, hc, hr]
      have hok : bufferTimely s .callWake := .inr ⟨hb, by rw [hin]; simpa using hm⟩
      exact ⟨.callWake, _, ⟨hc, by decide⟩, hst, fun _ => ⟨hok, rfl⟩,
        hlt hplace rfl (by decide : 2 < 3)⟩
  · have hplace : s.caller.place = 2 := by rw [hc]; rfl
    have hst : clientStep s .callDecode = some { s with
        caller := .releasing true, log := s.log ++ [s.decodeEvent first] } := by
      simp [clientStep, ClientAct.thread, Rpc.clntCall, hc]
    exact ⟨.callDecode, _, ⟨trivial, by decide⟩, hst, fun _ => ⟨trivial, rfl⟩,
      hlt hplace rfl (by decide : 1 < 2)⟩
  · have hplace : s.caller.place = 1 := by rw [hc]; rfl
    have hst : clientStep s .callRelease = some (s.free .caller).callReturn := by
      simp [clientStep, ClientAct.thread, Rpc.clntCall, hc]
    refine ⟨.callRelease, _, ⟨trivial, by decide⟩, hst, fun hb' => ?_,
      hlt hplace rfl (by decide : 0 < 1)⟩
    cases hb'

/-- Before it takes the CALL, `cb_context` compares the reset flags; a difference
costs it one more round. -/
theorem closer_check {m : Msg} (hin : s.inMsg = some m) (hm : m.isReply = false)
    (hc : s.cb = .awake) (hg : s.gotCb = true) (hreg : registered s.theXprt m = true) :
    Closer s := by
  obtain ⟨x, hx, -⟩ := (Option.any_eq_true _ _).mp hreg
  have hdist : distance s = 4 + resetAhead s := by
    rw [distance_call hin hm, hc]
    rfl
  have hok : bufferTimely s .cbCheck := by
    show s.theXprt ≠ none
    rw [hx]
    simp
  by_cases hr : s.inReset = x.inReset
  · have hst : clientStep s .cbCheck = some { s with gotCb := false, cb := .looking } := by
      simp [clientStep, ClientAct.thread, Rpc.cbContext, hc, hx, hr, hg]
    have hd : distance { s with gotCb := false, cb := .looking } = 3 + resetAhead s :=
      distance_call hin hm
    exact ⟨.cbCheck, _, ⟨trivial, by decide⟩, hst, fun _ => ⟨hok, rfl⟩, by omega⟩
  · have hst : clientStep s .cbCheck = some { s with
        theXprt := some { x with inReset := s.inReset }, cb := .top } := by
      simp [clientStep, ClientAct.thread, Rpc.cbContext, hc, hx, hr]
    have hd : distance { s with
        theXprt := some { x with inReset := s.inReset }, cb := .top } = 5 + 0 := by
      rw [distance_call (s := { s with
        theXprt := some { x with inReset := s.inReset }, cb := .top }) hin hm]
      simp [CbThread.place, resetAhead]
    have hahead : resetAhead s = 2 := by
      rw [resetAhead, hx, if_pos]
      simpa using Ne.symm hr
    exact ⟨.cbCheck, _, ⟨trivial, by decide⟩, hst, fun _ => ⟨hok, rfl⟩, by omega⟩

/-- `cb_context` goes on: round its loop, or through the buffer. -/
theorem closer_call {m : Msg} (hin : s.inMsg = some m) (hm : m.isReply = false)
    (hcb : (s.gotCb = true ∧ s.cb.comes = true ∧ registered s.theXprt m = true) ∨
      (s.cb = .looking ∧ registered s.theXprt m = true) ∨ s.cb = .cloning (some m) ∨
      s.cb = .releasing m) : Closer s := by
  have hdist := distance_call hin hm
  -- a step that moves `cb_context` to a nearer place
  have hmove : ∀ a cb' n, a.thread = some .callback → prompt s a → bufferTimely s a →
      clientStep s a = some { s with cb := cb' } → s.cb.place = n → cb'.place < n → Closer s := by
    intro a cb' n ha hp hok hst hn hlt
    have hd : distance { s with cb := cb' } = cb'.place + resetAhead s := distance_call hin hm
    refine ⟨a, _, ⟨hp, by rw [ha]; decide⟩, hst, fun _ => ⟨hok, rfl⟩, ?_⟩
    omega
  rcases hcb with ⟨hg, hcomes, hreg⟩ | ⟨hc, hreg⟩ | hc | hc
  · cases hc : s.cb with
    | starting =>
      refine hmove .cbStart .top 6 rfl trivial trivial ?_ (by rw [hc]; rfl) (by decide)
      simp [clientStep, ClientAct.thread, Rpc.cbContext, hc]
    | top =>
      refine hmove .cbTop .awake 5 rfl trivial trivial ?_ (by rw [hc]; rfl) (by decide)
      simp [clientStep, ClientAct.thread, Rpc.cbContext, hc, hg]
    | waiting woken =>
      rw [hc] at hcomes
      have hp : prompt s .cbWake := by
        rw [show woken = true from hcomes] at hc
        exact hc
      refine hmove .cbWake .awake 5 rfl hp trivial ?_ (by rw [hc]; rfl) (by decide)
      simp [clientStep, ClientAct.thread, Rpc.cbContext, hc]
    | awake => exact closer_check hin hm hc hg hreg
    | _ =>
      rw [hc] at hcomes
      cases hcomes
  · refine hmove .cbLook (.cloning s.inMsg) 3 rfl trivial trivial ?_ (by rw [hc]; rfl)
      (by decide : 2 < 3)
    simp [clientStep, ClientAct.thread, Rpc.cbContext, hc, Client.svcFind_of_registered hin hreg]
  · have hst : clientStep s .cbClone = some { s with
        cb := .releasing m, log := s.log ++ [.consumed .callback (some m) (some m)] } := by
      simp [clientStep, ClientAct.thread, Rpc.cbContext, hc, hin]
    have hd : distance { s with
        cb := .releasing m, log := s.log ++ [.consumed .callback (some m) (some m)] } =
        1 + resetAhead s := distance_call hin hm
    rw [hc] at hdist
    refine ⟨.cbClone, _, ⟨trivial, by decide⟩, hst, fun _ => ⟨trivial, rfl⟩, ?_⟩
    have : CbThread.place (.cloning (some m)) = 2 := rfl
    omega
  · have hst : clientStep s .cbRelease =
        some { s.free .callback with cb := .dispatching m } := by
      simp [clientStep, ClientAct.thread, Rpc.cbContext, hc]
    have hd : distance { s.free .callback with cb := .dispatching m } = 0 + resetAhead s :=
      distance_call hin hm
    rw [hc] at hdist
    refine ⟨.cbRelease, _, ⟨trivial, by decide⟩, hst, fun hb' => ?_, ?_⟩
    · cases hb'
    · have : CbThread.place (.releasing m) = 1 := rfl
      omega

/-- While `rx_context` waits for the buffer, its consumer has a step to take. -/
theorem BufInv.closer (hi : BufInv s b) (hrx : s.rx = .reading) (hb : s.inputXdrBusy = true) :
    Closer s := by
  by_cases hg : s.gotCb = true
  · obtain ⟨m, -, hin, hm, -, -, hcomes, -, hreg⟩ := hi.pending hg
    exact closer_call hin hm (.inl ⟨hg, hcomes, hreg⟩)
  · by_cases hcb : s.cb.reads = true
    · obtain ⟨m, t, -, hin, hm, -, -, -, -, hcase⟩ := hi.cbReads hcb
      obtain ⟨-, hc, hreg⟩ | ⟨-, hc⟩ | ⟨-, hc⟩ := hcase
      · exact closer_call hin hm (.inr (.inl ⟨hc, hreg⟩))
      · exact closer_call hin hm (.inr (.inr (.inl hc)))
      · exact closer_call hin hm (.inr (.inr (.inr hc)))
    · -- the message is a REPLY that `rx_context` has signalled
      have hp := hi.phase
      rw [hrx, hb] at hp
      obtain ⟨m, t, hin, hm, hr⟩ : ∃ m t, s.inMsg = some m ∧ m.isReply = true ∧
          ReplyPhase m s.caller .reading t := by
        generalize s.inMsg = i at hp ⊢
        generalize hgot : s.gotCb = got at hp
        generalize hthread : s.cb = cb at hp
        cases hp with
        | reply hm hr _ _ => exact ⟨_, _, rfl, hm, hr⟩
        | call hm hc hcp =>
          cases hcp with
          | pending => exact absurd hgot hg
          | looking => exact absurd (by rw [hthread]; rfl) hcb
          | cloning => exact absurd (by rw [hthread]; rfl) hcb
          | taken => exact absurd (by rw [hthread]; rfl) hcb
      refine closer_reply hin hm hb ?_
      generalize s.caller = c at hr ⊢
      cases hr with
      | signalled => exact .inl rfl
      | skipped => exact .inr (.inr ⟨_, rfl⟩)
      | decoding => exact .inr (.inl ⟨_, rfl⟩)
      | taken => exact .inr (.inr ⟨_, rfl⟩)

/-- A state on the way to a free buffer. -/
def Freeing (s : Client) : Prop :=
  s.inputXdrBusy = true → ∃ b, BufInv s b ∧ s.rx = .reading

theorem BufInv.notStuck (hi : BufInv s b) : NotStuck s := by
  intro hrx hb
  have hstep : ∀ t, Freeing t → ¬ t.inputXdrBusy = false → ∃ a t',
      restrict consumerStep clientStep t a = some t' ∧ Freeing t' ∧ distance t' < distance t := by
    intro t ht hbusy
    have hbusy' : t.inputXdrBusy = true := by simpa using hbusy
    obtain ⟨b', hi', hrx'⟩ := ht hbusy'
    obtain ⟨a, t', hown, hst, hkeep, hlt⟩ := hi'.closer hrx' hbusy'
    refine ⟨a, t', restrict_eq_some.mpr ⟨hown, hst⟩, fun hbt => ?_, hlt⟩
    obtain ⟨hok, hrxt⟩ := hkeep hbt
    obtain ⟨b'', hi''⟩ := BufInv.step hok hst ⟨b', hi'⟩
    exact ⟨b'', hi'', hrxt.trans hrx'⟩
  exact reaches_of_measure distance hstep s fun _ => ⟨b, hi, hrx⟩

/-- **The input buffer has one owner at a time.** In every run that avoids the
exits listed above, each message read is consumed whole by its addressee, or
dropped by it as the REPLY to another call, and it alone frees the buffer, before
the next is read; and whenever `rx_context` waits for the buffer, the other
threads by themselves free it. -/
theorem input_buffer_owned {xprt : Option Xprt} {as : List ClientAct} {s : Client}
    (h : exec (restrict bufferTimely clientStep) (clntCreate xprt) as = some s) :
    HandedOver s.log ∧ NotStuck s := by
  obtain ⟨b, hi⟩ : ∃ b, BufInv s b := exec_restrict_invariant
    (fun s a s' hok hst (hi : ∃ b, BufInv s b) => BufInv.step hok hst hi)
    ⟨none, BufInv.init xprt⟩ h
  exact ⟨hi.orderly.handedOver, hi.notStuck⟩

/-- A call and its reply, with a CALL in between, and a second call that gets the same reply. -/
def callDuringCall : List ClientAct :=
  [.callBegin false, .callCheck true, .callSend .sent, .rxIn, .rxRead (some ⟨5, false, 7, false⟩),
    .rxCall, .rxIn, .cbStart, .cbTop, .cbCheck, .cbLook, .cbClone, .cbRelease,
    .rxRead (some ⟨1, true, 0, false⟩), .rxReply, .cbDispatch, .callWake, .callDecode,
    .callRelease, .callBegin false, .callCheck true, .callSend .sent, .rxIn,
    .rxRead (some ⟨1, true, 0, false⟩), .rxReply, .callWake, .callDecode, .callRelease]

def callDuringCallLog : List BufEvent :=
  handOver 1 ⟨5, false, 7, false⟩ ++ handOver 1 ⟨1, true, 0, false⟩ ++
    handOver 2 ⟨1, true, 0, false⟩

theorem input_buffer_owned_call_during_call :
    ∃ s, exec (restrict bufferTimely clientStep) (clntCreate (some ⟨false, [7]⟩))
        callDuringCall = some s ∧
      s.log = callDuringCallLog ∧ HandedOver s.log ∧ NotStuck s := by
  have hrun : (exec (restrict bufferTimely clientStep) (clntCreate (some ⟨false, [7]⟩))
      callDuringCall).any (fun s => s.log = callDuringCallLog) = true := by decide
  obtain ⟨s, hs, hlog⟩ := (Option.any_eq_true _ _).mp hrun
  exact ⟨s, hs, of_decide_eq_true hlog, input_buffer_owned hs⟩

/-- A CALL for which no service is registered, then the next message. -/
def unregisteredCall : List ClientAct :=
  [.rxIn, .rxRead (some ⟨1, false, 7, false⟩), .rxCall, .cbStart, .cbTop, .cbCheck, .cbLook, .rxIn]

/-- The buffer is taken, no call is in progress and `cb_context` has nothing to
look at. -/
def Abandoned (s : Client) : Prop :=
  s.inputXdrBusy = true ∧ s.gotCb = false ∧ s.caller = .idle ∧
    (s.cb = .top ∨ s.cb = .waiting false)

/-- Without `got_cb` the callback thread only goes back to sleep. -/
theorem Abandoned.step (hok : consumerStep s a) (h : clientStep s a = some s')
    (hs : Abandoned s) : Abandoned s' := by
  obtain ⟨hb, hg, hc, hcb⟩ := hs
  obtain ⟨hp, hthread⟩ := hok
  cases a with
  | cbTop =>
    simp only [clientStep, ClientAct.thread, Rpc.cbContext, Option.ite_none_right_eq_some,
      Option.some.injEq] at h
    obtain ⟨-, rfl⟩ := h
    exact ⟨hb, hg, hc, .inr (by rw [hg]; rfl)⟩
  | cbWake =>
    have hw : s.cb = .waiting true := hp
    rcases hcb with hcb | hcb
    · rw [hcb] at hw
      cases hw
    · rw [hcb] at hw
      cases hw
  | transport => cases hp
  | syncLock => cases hp
  | callBegin => cases hp
  | _ =>
    rcases hcb with hcb | hcb
    · simp [clientStep, ClientAct.thread, Rpc.clntCall, Rpc.cbContext, hc, hcb] at h hthread
    · simp [clientStep, ClientAct.thread, Rpc.clntCall, Rpc.cbContext, hc, hcb] at h hthread

/-- The callback thread drops the CALL and keeps the buffer: `rx_context` waits
for good. -/
theorem input_buffer_leaks :
    ∃ s, exec clientStep (clntCreate (some ⟨false, []⟩)) unregisteredCall = some s ∧
      s.log = [.read ⟨1, false, 7, false⟩, .dropped (some ⟨1, false, 7, false⟩)] ∧
      ¬ NotStuck s := by
  have hrun : (exec clientStep (clntCreate (some ⟨false, []⟩)) unregisteredCall).any (fun s =>
      s.log = [.read ⟨1, false, 7, false⟩, .dropped (some ⟨1, false, 7, false⟩)] ∧
      s.rx = .reading ∧ s.inputXdrBusy = true ∧ s.gotCb = false ∧ s.caller = .idle ∧
      s.cb = .top) = true := by decide
  obtain ⟨s, hs, hstate⟩ := (Option.any_eq_true _ _).mp hrun
  obtain ⟨hlog, hrx, hb, hg, hc, hcb⟩ := of_decide_eq_true hstate
  refine ⟨s, hs, hlog, fun hns => ?_⟩
  obtain ⟨as, s', hexec, hfree⟩ := hns hrx hb
  have hinv : Abandoned s' := exec_restrict_invariant
    (fun t a t' hok hst (ht : Abandoned t) => ht.step hok hst) ⟨hb, hg, hc, .inl hcb⟩ hexec
  rw [hinv.1] at hfree
  cases hfree

end Ancora.Rpc
