import Mathlib.Tactic.IntervalCases
import Ancora.Rpc.Client
import Ancora.Rpc.Message
import Ancora.Lib.Machine
import Ancora.Lib.History

/-!
# Calls and their replies (librpc/clnt.c:420–560)

The threads of Ancora/Rpc/Client with the XDR they share. `clnt_call` counts up the XID,
sends the call, waits, and then compares XIDs with whatever lies in `in_msg`: the wait has
no predicate and the type of the message is not looked at again. After the comparison
it reads the reply header and the results from `in_msg`.

- `exStep`: the steps, each one a step of the client's threads together with what it
  does to the XDR.
- `OwnReplies`: a successful call decoded a REPLY with its own XID that was read after
  the call was sent.
- `NoShift`: a call is not failed by the reply to an earlier call that failed with an XID
  mismatch.
- `repliesTimely`: the messages that keep this so.
- **`own_replies`**: it is so in every run.
-/

namespace Ancora.Rpc

open Xdr Stream Machine History

/-- What happens to calls and messages. -/
inductive CallEvent
  | sent (xid : Word)
  | received (xid : Word) (isReply : Bool)
  | readError
  /-- The call with the XID `own` found another XID; `reply` is that of the REPLY in
  `in_msg`, if one lies there. -/
  | mismatch (own : Word) (reply : Option Word)
  | success (own : Word)
  deriving DecidableEq, Repr

def CallEvent.isSent : CallEvent → Bool
  | .sent _ => true
  | _ => false

def CallEvent.isRead : CallEvent → Bool
  | .received _ _ => true
  | .readError => true
  | _ => false

def CallEvent.mismatchOf (w : Word) : CallEvent → Bool
  | .mismatch own _ => own = w
  | _ => false

/-- The call last sent with this XID failed with an XID mismatch. -/
def failedCall (w : Word) (log : List CallEvent) : Bool :=
  due (CallEvent.mismatchOf w) (fun e => e == .sent w) log

/-- How far `clnt_call` is with the message in `in_msg`. -/
inductive Decode
  | apart
  /-- The XIDs are equal (clnt.c:502). -/
  | matched
  /-- The reply header says success (clnt.c:528). -/
  | accepted
  deriving DecidableEq, Repr

/-- A client's threads, its XDR, and what has happened. -/
structure Exchange where
  client : Client
  xdr : XdrStruct
  decode : Decode
  log : List CallEvent

/-- The XID of the call: it stands in the message that was sent. -/
def Exchange.own (s : Exchange) : Word := wordOf s.xdr.outMsg.bytes 0

/-- The XID of the REPLY in `in_msg`. -/
def XdrStruct.replyHeld (x : XdrStruct) : Option Word :=
  if 8 ≤ x.inLen ∧ wordAt x.inMsg 1 = rpcMsgReply then some (wordAt x.inMsg 0) else none

/-- `xdr_recv_reply_header` returns FALSE. -/
def XdrStruct.refusesHeader (x : XdrStruct) : Bool :=
  match x.recv xdrRecvReplyHeader with
  | .ok _ => false
  | .error _ => true

/-- As `clnt_create` leaves it. -/
def exchangeInit (prog vers : Word) (xprt : Option Xprt) : Exchange where
  client := clntCreate xprt
  xdr := { XdrStruct.zero with xProg := prog, xVers := vers }
  decode := .apart
  log := []

/-- The steps. A decode that is refused leaves `in_next` somewhere in the message. -/
inductive ExAct
  /-- A step that does not touch the XDR. -/
  | client (a : ClientAct)
  | encode (proc : Word) (xdrArgs : Send Unit)
  | send (r : SendResult)
  | wake
  | header (next : Nat)
  | results (xdrResults : Recv Unit) (next : Nat)
  | read (packet : Option Packet) (takesSync : Bool)

/-- The steps of the client's threads that read or write the XDR. -/
def ClientAct.atXdr : ClientAct → Bool
  | .callCheck _ => true
  | .callSend _ => true
  | .callWake => true
  | .callDecode => true
  | .rxRead _ => true
  | _ => false

/-- Where a refused decode leaves `in_next`. -/
def XdrStruct.skip (x : XdrStruct) (n : Nat) : XdrStruct :=
  { x with inNext := 4 * n, inNext_aligned := Nat.dvd_mul_right 4 n }

/-- The message in `in_msg` as the other threads see it. -/
def XdrStruct.view (x : XdrStruct) (takesSync : Bool) : Msg where
  xid := (wordAt x.inMsg 0).toNat
  isReply := wordAt x.inMsg 1 = rpcMsgReply
  prog := (wordAt x.inMsg 3).toNat
  takesSync := takesSync

/-- `xdr_call_msg_start` and the arguments (clnt.c:452–474). -/
def encodeCall (x : XdrStruct) (proc : Word) (xdrArgs : Send Unit) : Except Halt XdrStruct :=
  (xdrStdMsgStart x rpcMsgCall).send
    (xdrCallHeader x.xProg x.xVers proc authNone authNone >>= fun _ => xdrArgs)

/-- The reply header (clnt.c:515–540). -/
def readHeader (s : Exchange) (next : Nat) : Exchange :=
  match s.xdr.recv xdrRecvReplyHeader with
  | .ok (.accepted _ stat _ _, x) =>
    { s with xdr := x, decode := if stat = rpcAcceptSuccess then .accepted else .apart }
  | .ok (.denied _ _ _ _, x) => { s with xdr := x, decode := .apart }
  | .error _ => { s with xdr := s.xdr.skip next, decode := .apart }

/-- The results (clnt.c:542–552); `none` when the routine leaves its buffer. -/
def readResults (s : Exchange) (xdrResults : Recv Unit) (next : Nat) : Option Exchange :=
  match s.xdr.recv xdrResults with
  | .ok (_, x) => some { s with xdr := x, decode := .apart, log := s.log ++ [.success s.own] }
  | .error .refused => some { s with xdr := s.xdr.skip next, decode := .apart }
  | .error .overrun => none

/-- What `rx_context` saw. -/
def readEvent (x : XdrStruct) (packet : Option Packet) : CallEvent :=
  if (xdrStdRead x packet).1 then
    .received (wordAt (xdrStdRead x packet).2.inMsg 0)
      (wordAt (xdrStdRead x packet).2.inMsg 1 = rpcMsgReply)
  else .readError

/-- The message that the other threads get. -/
def readMsg (x : XdrStruct) (packet : Option Packet) (takesSync : Bool) : Option Msg :=
  if (xdrStdRead x packet).1 then some ((xdrStdRead x packet).2.view takesSync) else none

/-- One step. -/
def exStep (s : Exchange) : ExAct → Option Exchange
  | .client a =>
    if a.atXdr then none else (clientStep s.client a).map fun c => { s with client := c }
  | .encode proc xdrArgs =>
    -- in a reset `clnt_call` returns before it encodes anything
    if s.client.inReset then
      (clientStep s.client (.callCheck true)).map fun c => { s with client := c }
    else match encodeCall s.xdr proc xdrArgs with
      | .ok x =>
        (clientStep s.client (.callCheck true)).map fun c => { s with client := c, xdr := x }
      | .error .refused =>
        (clientStep s.client (.callCheck false)).map fun c =>
          { s with client := c, xdr := xdrStdMsgStart s.xdr rpcMsgCall }
      | .error .overrun => none
  | .send r =>
    (clientStep s.client (.callSend r)).map fun c =>
      { s with client := c, log := if c.caller.waits then s.log ++ [.sent s.own] else s.log }
  | .wake =>
    (clientStep s.client .callWake).map fun c =>
      if s.client.inReset then { s with client := c }
      else if s.own = wordAt s.xdr.inMsg 0 then { s with client := c, decode := .matched }
      else { s with client := c, log := s.log ++ [.mismatch s.own s.xdr.replyHeld] }
  | .header next => if s.decode = .matched then some (readHeader s next) else none
  | .results xdrResults next =>
    match s.decode with
    | .matched => none
    | .accepted =>
      (readResults s xdrResults next).bind fun s' =>
        (clientStep s.client .callDecode).map fun c => { s' with client := c }
    | .apart => (clientStep s.client .callDecode).map fun c => { s with client := c }
  | .read packet takesSync =>
    (clientStep s.client (.rxRead (readMsg s.xdr packet takesSync))).map fun c =>
      { s with
        client := c
        xdr := (xdrStdRead s.xdr packet).2
        log := s.log ++ [readEvent s.xdr packet] }

/-! ## What is wanted, and when it is so -/

/-- The last message read is a REPLY with this XID, read after the call was sent. -/
def Latest (own : Word) (log : List CallEvent) : Prop :=
  ∃ l₁ l₂ l₃, log = l₁ ++ CallEvent.sent own :: (l₂ ++ CallEvent.received own true :: l₃) ∧
    (∀ e ∈ l₂, e.isSent = false) ∧ (∀ e ∈ l₃, e.isSent = false) ∧ ∀ e ∈ l₃, e.isRead = false

/-- A call that succeeds decoded its own reply. -/
def OwnReplies (log : List CallEvent) : Prop :=
  ∀ pre own post, log = pre ++ CallEvent.success own :: post → Latest own pre

/-- No call fails on the reply to an earlier call that failed with an XID mismatch. -/
def NoShift (log : List CallEvent) : Prop :=
  ∀ pre own w post, log = pre ++ CallEvent.mismatch own (some w) :: post → failedCall w pre = false

/-- A call is not sent while `in_msg` looks like its reply already; nothing is read while
`clnt_call` decodes; a REPLY to a call that failed with an XID mismatch does not come any
more; a message that is not a REPLY has the RPC version where a reply has its status. -/
def repliesTimely (s : Exchange) : ExAct → Prop
  | .send r => r = .sent → s.own = wordAt s.xdr.inMsg 0 → s.xdr.refusesHeader = true
  | .read packet _ => s.decode = .apart ∧
      ((xdrStdRead s.xdr packet).1 = true →
        if wordAt (xdrStdRead s.xdr packet).2.inMsg 1 = rpcMsgReply then
          failedCall (wordAt (xdrStdRead s.xdr packet).2.inMsg 0) s.log = false
        else (xdrStdRead s.xdr packet).2.inLen < 12 ∨
          wordAt (xdrStdRead s.xdr packet).2.inMsg 2 = rpcMsgVersion)
  | _ => True

instance (s : Exchange) : (a : ExAct) → Decidable (repliesTimely s a)
  | .send _ => inferInstanceAs (Decidable (_ → _))
  | .read _ _ => inferInstanceAs (Decidable (_ ∧ _))
  | .client _ | .encode _ _ | .wake | .header _ | .results _ _ => .isTrue trivial

/-! ## What the other steps do to the caller -/

section Caller

variable {c c' : Client} {a : ClientAct}

@[simp] theorem Caller.signal_waits (c : Caller) : c.signal.waits = c.waits := by
  cases c with
  | waiting => rfl
  | _ => rfl

/-- The caller is past its wait and still at the message. -/
def Caller.decodes : Caller → Bool
  | .decoding _ => true
  | _ => false

@[simp] theorem Caller.signal_decodes (c : Caller) : c.signal.decodes = c.decodes := by
  cases c with
  | waiting => rfl
  | _ => rfl

/-- Away from the XDR, the caller neither begins nor ends its wait or its decoding. -/
theorem clientStep_caller (h : clientStep c a = some c') (ha : a.atXdr = false) :
    c'.caller.waits = c.caller.waits ∧ c'.caller.decodes = c.caller.decodes := by
  unfold clientStep at h
  split at h
  · cases clntCall_cases h with
    | syncLock _ => exact ⟨rfl, rfl⟩
    | begin sync hidle _ =>
      rw [hidle]
      exact ⟨rfl, rfl⟩
    | release took hc =>
      rw [hc]
      exact ⟨rfl, rfl⟩
    | _ => cases ha
  · rw [(cbContext_cases h).frame.1]
    exact ⟨rfl, rfl⟩
  · rcases (rxContext_cases h).caller with hc | hc
    · rw [hc]
      exact ⟨rfl, rfl⟩
    · rw [hc]
      exact ⟨Caller.signal_waits _, Caller.signal_decodes _⟩
  · split at h
    · cases h
      exact ⟨rfl, rfl⟩
    · cases h

end Caller

/-! ## Messages without a reply header -/

section Refused

variable {x : XdrStruct}

/-- What `ntohl` makes of the four bytes at `in_next`. -/
theorem received_word (k : Nat) (hnext : x.inNext = 4 * k) (hlen : 4 * k + 4 ≤ x.inLen) :
    ntohl (x.received.rest.take 4) = wordAt x.inMsg k := by
  have hrest : x.received.rest.take 4 =
      [x.inMsg (4 * k), x.inMsg (4 * k + 1), x.inMsg (4 * k + 2), x.inMsg (4 * k + 3)] := by
    apply List.ext_getElem
    · simp only [Incoming.rest, XdrStruct.received, hnext, List.length_take, List.length_drop,
        List.length_map, List.length_range, List.length_cons, List.length_nil]
      omega
    · intro i hi hi'
      simp only [List.length_cons, List.length_nil] at hi'
      interval_cases i <;> simp [Incoming.rest, XdrStruct.received, hnext]
  rw [hrest]
  rfl

/-- There is no reply header where there is no word. -/
theorem refusesHeader_of_short (h : x.inLen < x.inNext + 4) : x.refusesHeader = true := by
  have hshort : x.received.next + 4 > x.received.msg.length := by
    simp only [XdrStruct.received, List.length_map, List.length_range]
    omega
  have hrun : xdrRecvReplyHeader.run x.received = .error .refused := by
    simp only [xdrRecvReplyHeader, StateT.run_bind]
    rw [StateT.run, xdrStdRecvInt32, xdrStdRecvUint32, if_pos hshort]
    rfl
  rw [XdrStruct.refusesHeader, XdrStruct.recv, hrun]

/-- The version of the RPC protocol is no status of a reply. -/
theorem refusesHeader_of_version (hnext : x.inNext = 8)
    (h : x.inLen < 12 ∨ wordAt x.inMsg 2 = rpcMsgVersion) : x.refusesHeader = true := by
  by_cases hlen : x.inLen < 12
  · exact refusesHeader_of_short (by omega)
  have hword := received_word 2 hnext (by omega)
  rw [h.resolve_left hlen] at hword
  have hfits : ¬ x.received.next + 4 > x.received.msg.length := by
    simp only [XdrStruct.received, List.length_map, List.length_range]
    omega
  have hrun : xdrRecvReplyHeader.run x.received = .error .refused := by
    simp only [xdrRecvReplyHeader, StateT.run_bind]
    rw [StateT.run, xdrStdRecvInt32, xdrStdRecvUint32, if_neg hfits, hword]
    rfl
  rw [XdrStruct.refusesHeader, XdrStruct.recv, hrun]

end Refused

/-! ## The log -/

section Log

variable {own w : Word} {log : List CallEvent} {e : CallEvent}

/-- The call with this XID was the last one sent. -/
def LastSent (own : Word) (log : List CallEvent) : Prop :=
  ∃ l₁ l₂, log = l₁ ++ CallEvent.sent own :: l₂ ∧ ∀ e ∈ l₂, e.isSent = false

theorem forall_mem_snoc {p : CallEvent → Prop} {l : List CallEvent} (h : ∀ x ∈ l, p x) (he : p e) :
    ∀ x ∈ l ++ [e], p x := by
  intro x hx
  rcases List.mem_append.mp hx with hx | hx
  · exact h x hx
  · rw [List.mem_singleton.mp hx]
    exact he

/-- A call stays the last one until another is sent. -/
theorem LastSent.snoc (h : LastSent own log) (he : e.isSent = false) :
    LastSent own (log ++ [e]) := by
  obtain ⟨l₁, l₂, rfl, hl₂⟩ := h
  exact ⟨l₁, l₂ ++ [e], by simp, forall_mem_snoc hl₂ he⟩

/-- A reply stays the latest until something is sent or read. -/
theorem Latest.snoc (h : Latest own log) (hs : e.isSent = false) (hr : e.isRead = false) :
    Latest own (log ++ [e]) := by
  obtain ⟨l₁, l₂, l₃, rfl, hl₂, hl₃, hread⟩ := h
  exact ⟨l₁, l₂, l₃ ++ [e], by simp, hl₂, forall_mem_snoc hl₃ hs, forall_mem_snoc hread hr⟩

/-- The reply to the last call is the latest when it is read. -/
theorem LastSent.received (h : LastSent own log) : Latest own (log ++ [.received own true]) := by
  obtain ⟨l₁, l₂, rfl, hl₂⟩ := h
  exact ⟨l₁, l₂, [], by simp, hl₂, by simp, by simp⟩

/-- A call that succeeds now must have the latest reply. -/
theorem OwnReplies.snoc (h : OwnReplies log) (he : ∀ own, e = .success own → Latest own log) :
    OwnReplies (log ++ [e]) := by
  intro pre own post hlog
  rcases snoc_split hlog with ⟨rfl, hown, -⟩ | ⟨post', -, hlog'⟩
  · exact he own hown.symm
  · exact h pre own post' hlog'

/-- A mismatch now must not be with the reply to a failed call. -/
theorem NoShift.snoc (h : NoShift log)
    (he : ∀ own w, e = .mismatch own (some w) → failedCall w log = false) :
    NoShift (log ++ [e]) := by
  intro pre own w post hlog
  rcases snoc_split hlog with ⟨rfl, hown, -⟩ | ⟨post', -, hlog'⟩
  · exact he own w hown.symm
  · exact h pre own w post' hlog'

/-- Only a mismatch makes a call a failed one. -/
theorem failedCall_snoc (h : failedCall w log = false) (he : e.mismatchOf w = false) :
    failedCall w (log ++ [e]) = false := by
  rw [failedCall] at h ⊢
  rw [due_snoc, h, he]
  rfl

end Log

/-! ## The invariant -/

/-- The call is on its way, and what carries its XID in `in_msg` is its reply. -/
structure Flight (s : Exchange) : Prop where
  lastSent : LastSent s.own s.log
  reply : s.own = wordAt s.xdr.inMsg 0 → Latest s.own s.log ∨ s.xdr.refusesHeader = true

structure ExInv (s : Exchange) : Prop where
  own : OwnReplies s.log
  shift : NoShift s.log
  waiting : s.client.caller.waits = true → Flight s
  matched : s.decode = .matched →
    s.client.caller.decodes = true ∧ Flight s ∧ s.own = wordAt s.xdr.inMsg 0
  accepted : s.decode = .accepted → s.client.caller.decodes = true ∧ Latest s.own s.log
  held : ∀ w, s.xdr.replyHeld = some w → failedCall w s.log = false

section Steps

variable {s s' : Exchange}

/-- A caller that decodes does not wait. -/
theorem Caller.waits_of_decodes {c : Caller} (h : c.decodes = true) : c.waits = false := by
  cases c with
  | decoding => rfl
  | _ => cases h

/-- Away from the message nothing is being decoded. -/
theorem ExInv.apart (hi : ExInv s) (h : s.client.caller.decodes = false) : s.decode = .apart := by
  cases hd : s.decode with
  | apart => rfl
  | matched =>
    rw [(hi.matched hd).1] at h
    cases h
  | accepted =>
    rw [(hi.accepted hd).1] at h
    cases h

/-- While nothing is being decoded, nothing is asked about decoding. -/
theorem ExInv.of_apart (hdec : s.decode = .apart) (hown : OwnReplies s.log) (hshift : NoShift s.log)
    (hwaiting : s.client.caller.waits = true → Flight s)
    (hheld : ∀ w, s.xdr.replyHeld = some w → failedCall w s.log = false) : ExInv s := by
  refine ⟨hown, hshift, hwaiting, ?_, ?_, hheld⟩
  · intro hd
    rw [hdec] at hd
    cases hd
  · intro hd
    rw [hdec] at hd
    cases hd

/-- A step outside a wait that leaves `in_msg` and the log alone. -/
theorem ExInv.move (hi : ExInv s) (hlog : s'.log = s.log)
    (hheld : s'.xdr.replyHeld = s.xdr.replyHeld) (hwaits : s'.client.caller.waits = false)
    (hdec : s'.decode = .apart) : ExInv s' := by
  refine .of_apart hdec (hlog ▸ hi.own) (hlog ▸ hi.shift) ?_ ?_
  · intro hw
    rw [hwaits] at hw
    cases hw
  · intro w hw
    rw [hlog]
    exact hi.held w (hheld ▸ hw)

/-- Steps away from the XDR keep the invariant. -/
theorem ExInv.client {a : ClientAct} (hi : ExInv s) (h : exStep s (.client a) = some s') :
    ExInv s' := by
  simp only [exStep, Option.ite_none_left_eq_some] at h
  obtain ⟨ha, h⟩ := h
  obtain ⟨c, hc, rfl⟩ := Option.map_eq_some_iff.mp h
  obtain ⟨hwaits, hdec⟩ := clientStep_caller hc (by simpa using ha)
  have hflight : Flight s → Flight { s with client := c } := fun hf => ⟨hf.lastSent, hf.reply⟩
  refine ⟨hi.own, hi.shift, ?_, ?_, ?_, hi.held⟩
  · intro hw
    exact hflight (hi.waiting (hwaits ▸ hw))
  · intro hd
    obtain ⟨hcaller, hf, hown⟩ := hi.matched hd
    exact ⟨hdec.trans hcaller, hflight hf, hown⟩
  · intro hd
    obtain ⟨hcaller, hl⟩ := hi.accepted hd
    exact ⟨hdec.trans hcaller, hl⟩

/-- A call that is encoded does not wait yet. -/
theorem callCheck_caller {c c' : Client} {b : Bool} (h : clientStep c (.callCheck b) = some c') :
    c.caller = .entered ∧ c'.caller.waits = false := by
  rw [clientStep_of_caller rfl] at h
  cases clntCall_cases h with
  | refused _ hc _ | unencoded hc _ | encoded hc _ => exact ⟨hc, rfl⟩

/-- Encoding a call keeps the invariant, for nothing is decoded then. -/
theorem ExInv.encode {proc : Word} {xdrArgs : Send Unit} (hi : ExInv s)
    (h : exStep s (.encode proc xdrArgs) = some s') : ExInv s' := by
  have happly : ∀ {b : Bool} {c : Client} {x : XdrStruct},
      clientStep s.client (.callCheck b) = some c → x.replyHeld = s.xdr.replyHeld →
      ExInv { s with client := c, xdr := x } := by
    intro b c x hc hx
    obtain ⟨hentered, hwaits⟩ := callCheck_caller hc
    exact hi.move rfl hx hwaits (hi.apart (by rw [hentered]; rfl))
  simp only [exStep] at h
  split at h
  · obtain ⟨c, hc, rfl⟩ := Option.map_eq_some_iff.mp h
    exact happly hc rfl
  · split at h
    · rename_i x hx
      obtain ⟨o, -, rfl⟩ := XdrStruct.send_eq_ok hx
      obtain ⟨c, hc, rfl⟩ := Option.map_eq_some_iff.mp h
      exact happly hc rfl
    · obtain ⟨c, hc, rfl⟩ := Option.map_eq_some_iff.mp h
      exact happly hc rfl
    · cases h

/-- A call waits only if it was sent. -/
theorem callSend_caller {c c' : Client} {r : SendResult}
    (h : clientStep c (.callSend r) = some c') :
    c.caller = .encoded ∧ (c'.caller.waits = true → r = .sent) := by
  rw [clientStep_of_caller rfl] at h
  cases clntCall_cases h with
  | sent hc _ => exact ⟨hc, fun _ => rfl⟩
  | sentInReset _ hc _ | sendFailed hc _ | netReset hc _ =>
    refine ⟨hc, fun hw => ?_⟩
    cases hw

/-- A call that is sent is the last one, and what lies in `in_msg` is not its reply. -/
theorem ExInv.send {r : SendResult} (hi : ExInv s) (hok : repliesTimely s (.send r))
    (h : exStep s (.send r) = some s') : ExInv s' := by
  obtain ⟨c, hc, rfl⟩ := Option.map_eq_some_iff.mp h
  obtain ⟨hencoded, hsent⟩ := callSend_caller hc
  have happart : s.decode = .apart := hi.apart (by rw [hencoded]; rfl)
  cases hw : c.caller.waits with
  | false => exact hi.move rfl rfl hw happart
  | true =>
    refine .of_apart happart (hi.own.snoc nofun) (hi.shift.snoc nofun) ?_ ?_
    · intro _
      exact ⟨⟨s.log, [], rfl, by simp⟩, fun hown => .inr (hok (hsent hw) hown)⟩
    · intro w hw
      exact failedCall_snoc (hi.held w hw) rfl

/-- A call that wakes up goes on to decode, except in a reset. -/
theorem callWake_caller {c c' : Client} (h : clientStep c .callWake = some c') :
    c.caller.waits = true ∧ c.caller.decodes = false ∧
      c'.caller = if c.inReset then .releasing false else .decoding c.inMsg := by
  rw [clientStep_of_caller rfl] at h
  cases clntCall_cases h with
  | wakeInReset woken hc hr =>
    rw [hc, hr]
    exact ⟨rfl, rfl, rfl⟩
  | wake woken hc hr =>
    rw [hc, hr]
    exact ⟨rfl, rfl, rfl⟩

/-- When the XIDs are equal the message in `in_msg` is the latest reply. -/
theorem ExInv.wake (hi : ExInv s) (h : exStep s .wake = some s') : ExInv s' := by
  obtain ⟨c, hc, rfl⟩ := Option.map_eq_some_iff.mp h
  obtain ⟨hwaits, hdec, hcaller⟩ := callWake_caller hc
  have happart := hi.apart hdec
  have hflight := hi.waiting hwaits
  split
  · rename_i hreset
    rw [if_pos hreset] at hcaller
    exact hi.move rfl rfl (by rw [hcaller]; rfl) happart
  · rename_i hreset
    rw [if_neg hreset] at hcaller
    have hnot : c.caller.waits = false := by rw [hcaller]; rfl
    split
    · rename_i hown
      refine ⟨hi.own, hi.shift, ?_, ?_, nofun, hi.held⟩
      · intro hw
        rw [hnot] at hw
        cases hw
      · intro _
        exact ⟨by rw [hcaller]; rfl, ⟨hflight.lastSent, hflight.reply⟩, hown⟩
    · rename_i hown
      refine .of_apart happart (hi.own.snoc nofun) (hi.shift.snoc ?_) ?_ ?_
      · intro own w he
        exact hi.held w (CallEvent.mismatch.inj he).2
      · intro hw
        rw [hnot] at hw
        cases hw
      · intro w hw
        refine failedCall_snoc (hi.held w hw) ?_
        -- what lies in `in_msg` is not a reply to the call that fails here
        have hword : w = wordAt s.xdr.inMsg 0 := by
          rw [XdrStruct.replyHeld] at hw
          split at hw
          · exact (Option.some.inj hw).symm
          · cases hw
        rw [hword]
        exact decide_eq_false hown

/-- The comparison passed, so a message with a reply header is the call's own reply. -/
theorem ExInv.header {next : Nat} (hi : ExInv s) (h : exStep s (.header next) = some s') :
    ExInv s' := by
  simp only [exStep, Option.ite_none_right_eq_some, Option.some.injEq] at h
  obtain ⟨hd, rfl⟩ := h
  obtain ⟨hdec, hflight, hown⟩ := hi.matched hd
  have hwaits := Caller.waits_of_decodes hdec
  unfold readHeader
  split
  · rename_i verf stat low high x hx
    have hlatest : Latest s.own s.log := by
      rcases hflight.reply hown with hl | hr
      · exact hl
      · rw [XdrStruct.refusesHeader, hx] at hr
        cases hr
    obtain ⟨n, hn, rfl⟩ := XdrStruct.recv_eq_ok hx
    by_cases hstat : stat = rpcAcceptSuccess
    · rw [if_pos hstat]
      refine ⟨hi.own, hi.shift, ?_, nofun, fun _ => ⟨hdec, hlatest⟩, hi.held⟩
      intro hw
      rw [hwaits] at hw
      cases hw
    · rw [if_neg hstat]
      exact hi.move rfl rfl hwaits rfl
  · rename_i hx
    obtain ⟨n, hn, rfl⟩ := XdrStruct.recv_eq_ok hx
    exact hi.move rfl rfl hwaits rfl
  · exact hi.move rfl rfl hwaits rfl

/-- After decoding the buffer is freed. -/
theorem callDecode_caller {c c' : Client} (h : clientStep c .callDecode = some c') :
    c'.caller = .releasing true := by
  rw [clientStep_of_caller rfl] at h
  cases clntCall_cases h with
  | decode _ _ => rfl

/-- A call succeeds with the results of the latest reply. -/
theorem ExInv.results {xdrResults : Recv Unit} {next : Nat} (hi : ExInv s)
    (h : exStep s (.results xdrResults next) = some s') : ExInv s' := by
  simp only [exStep] at h
  split at h
  · cases h
  · rename_i hd
    obtain ⟨t, ht, h⟩ := Option.bind_eq_some_iff.mp h
    obtain ⟨c, hc, rfl⟩ := Option.map_eq_some_iff.mp h
    have hwaits : c.caller.waits = false := by
      rw [callDecode_caller hc]
      rfl
    unfold readResults at ht
    split at ht
    · rename_i x hx
      obtain ⟨n, hn, rfl⟩ := XdrStruct.recv_eq_ok hx
      cases ht
      refine ⟨hi.own.snoc ?_, hi.shift.snoc nofun, ?_, nofun, nofun, ?_⟩
      · intro own he
        rw [← CallEvent.success.inj he]
        exact (hi.accepted hd).2
      · intro hw
        rw [hwaits] at hw
        cases hw
      · intro w hw
        exact failedCall_snoc (hi.held w hw) rfl
    · cases ht
      exact hi.move rfl rfl hwaits rfl
    · cases ht
  · rename_i hd
    obtain ⟨c, hc, rfl⟩ := Option.map_eq_some_iff.mp h
    exact hi.move rfl rfl (by rw [callDecode_caller hc]; rfl) hd

/-- Reading a message does not move the caller. -/
theorem rxRead_caller {c c' : Client} {m : Option Msg} (h : clientStep c (.rxRead m) = some c') :
    c'.caller = c.caller := by
  rw [clientStep_of_receiver rfl] at h
  cases rxContext_cases h with
  | readError _ _ => rfl
  | read _ _ _ => rfl

/-- `xdr_std_read` leaves a message from its third word on, or none. -/
theorem xdrStdRead_cases (x : XdrStruct) (packet : Option Packet) :
    ((xdrStdRead x packet).1 = true ∧ (xdrStdRead x packet).2.inNext = 8) ∨
      ((xdrStdRead x packet).1 = false ∧ (xdrStdRead x packet).2.inLen = -1) := by
  cases packet with
  | none => exact .inr ⟨rfl, rfl⟩
  | some p =>
    simp only [xdrStdRead]
    split
    · exact .inr ⟨rfl, rfl⟩
    · exact .inl ⟨rfl, rfl⟩

@[simp] theorem xdrStdRead_outMsg (x : XdrStruct) (packet : Option Packet) :
    (xdrStdRead x packet).2.outMsg = x.outMsg := by
  cases packet with
  | none => rfl
  | some p =>
    simp only [xdrStdRead]
    split
    · rfl
    · rfl

/-- Reading sends nothing. -/
theorem readEvent_isSent (x : XdrStruct) (packet : Option Packet) :
    (readEvent x packet).isSent = false := by
  unfold readEvent
  split
  · rfl
  · rfl

/-- A message that is read while the call waits is its reply, or is not taken for it. -/
theorem Flight.read {packet : Option Packet} {c : Client} {takesSync : Bool} (hf : Flight s)
    (hok : repliesTimely s (.read packet takesSync)) :
    Flight { s with
      client := c
      xdr := (xdrStdRead s.xdr packet).2
      log := s.log ++ [readEvent s.xdr packet] } := by
  have hown : wordOf (xdrStdRead s.xdr packet).2.outMsg.bytes 0 = s.own := by
    rw [xdrStdRead_outMsg]
    rfl
  constructor
  · show LastSent (wordOf (xdrStdRead s.xdr packet).2.outMsg.bytes 0) _
    rw [hown]
    exact hf.lastSent.snoc (readEvent_isSent s.xdr packet)
  · show wordOf (xdrStdRead s.xdr packet).2.outMsg.bytes 0 = _ →
      Latest (wordOf (xdrStdRead s.xdr packet).2.outMsg.bytes 0) _ ∨ _
    rw [hown]
    intro heq
    rcases xdrStdRead_cases s.xdr packet with ⟨hread, hnext⟩ | ⟨hread, hlen⟩
    · have hmsg := hok.2 hread
      by_cases htype : wordAt (xdrStdRead s.xdr packet).2.inMsg 1 = rpcMsgReply
      · refine .inl ?_
        have hevent : readEvent s.xdr packet = .received s.own true := by
          rw [readEvent, if_pos hread, ← heq, htype]
          rfl
        rw [hevent]
        exact hf.lastSent.received
      · rw [if_neg htype] at hmsg
        exact .inr (refusesHeader_of_version hnext hmsg)
    · exact .inr (refusesHeader_of_short (by rw [hlen]; omega))

/-- Nothing is read while a call decodes, so that its reply stays the latest. -/
theorem ExInv.read {packet : Option Packet} {takesSync : Bool} (hi : ExInv s)
    (hok : repliesTimely s (.read packet takesSync))
    (h : exStep s (.read packet takesSync) = some s') : ExInv s' := by
  obtain ⟨c, hc, rfl⟩ := Option.map_eq_some_iff.mp h
  have hcaller := rxRead_caller hc
  have happart := hok.1
  have hno : ∀ own, readEvent s.xdr packet ≠ .success own := by
    intro own he
    unfold readEvent at he
    split at he
    · cases he
    · cases he
  have hno' : ∀ own w, readEvent s.xdr packet ≠ .mismatch own w := by
    intro own w he
    unfold readEvent at he
    split at he
    · cases he
    · cases he
  refine .of_apart happart (hi.own.snoc ?_) (hi.shift.snoc ?_) ?_ ?_
  · intro own he
    exact absurd he (hno own)
  · intro own w he
    exact absurd he (hno' own _)
  · intro hw
    exact (hi.waiting (hcaller ▸ hw)).read hok
  · intro w hw
    have hnot : (readEvent s.xdr packet).mismatchOf w = false := by
      unfold readEvent
      split
      · rfl
      · rfl
    refine failedCall_snoc ?_ hnot
    simp only [XdrStruct.replyHeld] at hw
    split at hw
    · rename_i hreply
      rcases xdrStdRead_cases s.xdr packet with ⟨hread, -⟩ | ⟨-, hlen⟩
      · have hmsg := hok.2 hread
        rw [if_pos hreply.2] at hmsg
        rw [← Option.some.inj hw]
        exact hmsg
      · omega
    · cases hw

/-- Every permitted step keeps the invariant. -/
theorem ExInv.step {a : ExAct} (hok : repliesTimely s a) (h : exStep s a = some s')
    (hi : ExInv s) : ExInv s' := by
  cases a with
  | client a => exact hi.client h
  | encode proc xdrArgs => exact hi.encode h
  | send r => exact hi.send hok h
  | wake => exact hi.wake h
  | header next => exact hi.header h
  | results xdrResults next => exact hi.results h
  | read packet takesSync => exact hi.read hok h

end Steps

/-- At first no call has been sent. -/
theorem ExInv.init (prog vers : Word) (xprt : Option Xprt) :
    ExInv (exchangeInit prog vers xprt) where
  own pre own post h := by simp [exchangeInit] at h
  shift pre own w post h := by simp [exchangeInit] at h
  waiting := nofun
  matched := nofun
  accepted := nofun
  held w h := by
    have hnone : (exchangeInit prog vers xprt).xdr.replyHeld = none := rfl
    rw [hnone] at h
    cases h

/-- **In every run whose messages are timely, a call that succeeds decoded its own reply,
read after the call was sent, and no call is failed by the reply to an earlier one that
failed with an XID mismatch.** -/
theorem own_replies {prog vers : Word} {xprt : Option Xprt} {as : List ExAct} {s : Exchange}
    (hrun : exec (restrict repliesTimely exStep) (exchangeInit prog vers xprt) as = some s) :
    OwnReplies s.log ∧ NoShift s.log := by
  have hi : ExInv s :=
    exec_restrict_invariant (fun _ _ _ hok h hi => hi.step hok h) (ExInv.init prog vers xprt) hrun
  exact ⟨hi.own, hi.shift⟩

/-- A REPLY with no results. -/
def emptyReply (xid : Word) : Packet where
  val := htonl xid ++ (htonl rpcMsgReply ++ (htonl rpcMsgAccepted ++ ((htonl 0 ++ htonl 0) ++
    htonl rpcAcceptSuccess)))
  property := by
    simp only [List.length_append, htonl_length]
    decide

/-- A CALL that ends after the RPC version. -/
def emptyCall (xid : Word) : Packet where
  val := htonl xid ++ (htonl rpcMsgCall ++ htonl rpcMsgVersion)
  property := by
    simp only [List.length_append, htonl_length]
    decide

/-- `clnt_call` as far as its wait. -/
def callOut : List ExAct := [ExAct.client (.callBegin false), .encode 1 (pure ()), .send .sent]

/-- `clnt_call` after a comparison that failed. -/
def callFailed : List ExAct := [ExAct.wake, .results (pure ()) 0, .client .callRelease]

/-- While a call waits, the peer's CALL with the same XID is handled; then the reply comes. -/
def callThenOwnReply : List ExAct := callOut ++ [
  ExAct.client .rxIn, .read (some (emptyCall 1)) false, .client .rxCall, .client .cbStart,
  .client .cbTop, .client .cbCheck, .client .cbLook, .client .cbClone, .client .cbRelease,
  .client .cbDispatch, .client .rxIn, .read (some (emptyReply 1)) false, .client .rxReply, .wake,
  .header 0, .results (pure ()) 0, .client .callRelease]

theorem own_replies_same_xid :
    ∃ s, exec (restrict repliesTimely exStep) (exchangeInit 1 1 (some ⟨false, [0]⟩))
        callThenOwnReply = some s ∧
      s.log = [.sent 1, .received 1 false, .received 1 true, .success 1] ∧
      OwnReplies s.log ∧ NoShift s.log := by
  have hlog : (exec (restrict repliesTimely exStep) (exchangeInit 1 1 (some ⟨false, [0]⟩))
      callThenOwnReply).map Exchange.log =
      some [.sent 1, .received 1 false, .received 1 true, .success 1] := by decide +kernel
  obtain ⟨s, hrun, hs⟩ := Option.map_eq_some_iff.mp hlog
  exact ⟨s, hrun, hs, own_replies hrun⟩

/-- A call wakes up without a signal and fails; the next call gets the reply to the first one
and fails too, and then its own reply comes. -/
def spuriousWake : List ExAct := callOut ++ callFailed ++ callOut ++ [
  ExAct.client .rxIn, .read (some (emptyReply 1)) false, .client .rxReply] ++ callFailed ++ [
  ExAct.client .rxIn, .read (some (emptyReply 2)) false]

theorem replies_shift :
    ∃ s, exec exStep (exchangeInit 1 1 none) spuriousWake = some s ∧
      s.log = [.sent 1, .mismatch 1 none, .sent 2, .received 1 true, .mismatch 2 (some 1),
        .received 2 true] ∧ ¬ NoShift s.log := by
  have hlog : (exec exStep (exchangeInit 1 1 none) spuriousWake).map Exchange.log =
      some [.sent 1, .mismatch 1 none, .sent 2, .received 1 true, .mismatch 2 (some 1),
        .received 2 true] := by decide +kernel
  obtain ⟨s, hrun, hs⟩ := Option.map_eq_some_iff.mp hlog
  refine ⟨s, hrun, hs, ?_⟩
  intro h
  have hfalse := h [.sent 1, .mismatch 1 none, .sent 2, .received 1 true] 2 1 [.received 2 true]
    (by rw [hs]; rfl)
  revert hfalse
  decide

end Ancora.Rpc
