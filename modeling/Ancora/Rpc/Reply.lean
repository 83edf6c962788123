import Ancora.Rpc.Message
import Ancora.Lib.Machine
import Ancora.LocApi.EventRoutines

/-!
# Replies of the service side (librpc/svc.c, gen-50000/loc_api_cb_svc.c)

A CALL reaches `svc_dispatch` in two ways: `svc_context` reads it on the XDR of a
true server, or `cb_context` clones the XDR of a client that received it. The
dispatcher behind it is one of those that rpcgen writes: it answers with the results
(`svc_sendreply`) or with a status (`svcerr_noproc`, `svcerr_decode`,
`svcerr_systemerr`).

`svc_sendreply` copies the XID of the CALL into the reply. The other three leave there
what `XDR_MSG_START` wrote, which is `xdr->xid`: a counter that only outgoing calls
move, and that is 0 on these two XDRs for ever.

- `svcStep`: a CALL arrives at a registered server and is dispatched.
- `svcDispatch_cases`: what one dispatch sends.
- **`replies_carry_xid_iff`**: after every history, the replies to a CALL carry its XID
  iff the XID is 0 or no status is sent.
-/

namespace Ancora.Rpc

open Xdr Stream Machine LocApi

/-- One case of a dispatcher that rpcgen wrote. The local procedure may return FALSE
and then there is no reply. -/
structure Procedure where
  Args : Type
  Rets : Type
  xdrArgument : Recv Args
  xdrResult : Rets → Send Unit
  localProc : Args → Option Rets

/-- The cases of its `switch`, apart from `NULLPROC` and `default`. -/
abbrev Program := Word → Option Procedure

/-- `NULLPROC`. -/
def nullproc : Word := 0

/-- `rpc_loc_event_cb_f_type` (loc_api_cb.h:53). -/
def rpcLocEventCbFType : Word := 1

/-- The cases of `loc_apicbprog_0x00050001` (loc_api_cb_svc.c:20–64);
`rpc_loc_event_cb_f_type_svc` always returns 1, with what the callback returned. -/
def locApicbprog (svc : xdrRpcLocEventCbFTypeArgs.Val → xdrRpcLocEventCbFTypeRets.Val) :
    Program := fun proc =>
  if proc = rpcLocEventCbFType then some {
    Args := xdrRpcLocEventCbFTypeArgs.Val
    Rets := xdrRpcLocEventCbFTypeRets.Val
    xdrArgument := xdrRpcLocEventCbFTypeArgs.codec.decode
    xdrResult := xdrRpcLocEventCbFTypeRets.codec.encode
    localProc := fun args => some (svc args) }
  else none

/-! ## The service functions (svc.c:518–624) -/

/-- A server while it is dispatched; `sent` is what was handed to `XDR_MSG_SEND`. -/
structure Serving where
  xdr : XdrStruct
  active : Bool
  sent : List (List Byte)

/-- `svc_getargs` (svc.c:525–534). -/
def svcGetargs {α : Type} (s : Serving) (xdrArgs : Recv α) : Except Halt (α × Serving) :=
  if s.active then
    match s.xdr.recv xdrArgs with
    | .error e => .error e
    | .ok (a, x) => .ok (a, { s with xdr := x })
  else .error .refused

/-- `((uint32 *)out_msg)[RPC_OFFSET] = ((uint32 *)in_msg)[RPC_OFFSET]` -/
def patchXid (o : OutMsg) (inMsg : Nat → Byte) : OutMsg where
  bytes := [inMsg 0, inMsg 1, inMsg 2, inMsg 3] ++ o.bytes.drop 4
  aligned := by
    have h := o.aligned
    rw [List.length_append, List.length_drop]
    simp only [List.length_cons, List.length_nil]
    omega
  bounded := by
    have h := o.bounded
    have hmax : rpcrouterMsgsizeMax = 18432 := rfl
    rw [List.length_append, List.length_drop]
    simp only [List.length_cons, List.length_nil]
    omega

/-- `svc_sendreply` (svc.c:545–574). When it returns FALSE, `out_msg` is left
unfinished; the next `XDR_MSG_START` begins it again. -/
def svcSendreply (s : Serving) (xdrResults : Send Unit) : Except Halt Serving :=
  if s.active then
    match (xdrStdMsgStart s.xdr rpcMsgReply).send
        (xdrReplyHeader authNone >>= fun _ => xdrResults) with
    | .error e => .error e
    | .ok x =>
      let out := patchXid x.outMsg x.inMsg
      .ok { s with xdr := { x with outMsg := out }, sent := s.sent ++ [out.bytes] }
  else .error .refused

/-- The body of `svcerr_decode`, `svcerr_systemerr` and `svcerr_noproc`. -/
def svcerr (stat : Word) (s : Serving) : Serving :=
  if s.active then
    match (xdrStdMsgStart s.xdr rpcMsgReply).send
        (xdrSendReplyHeader (.accepted s.xdr.verf stat 0 0)) with
    | .error _ => s
    | .ok x => { s with xdr := x, sent := s.sent ++ [x.outMsg.bytes] }
  else s

/-- `svcerr_decode` (svc.c:581–594). -/
def svcerrDecode : Serving → Serving := svcerr rpcGarbageArgs

/-- `svcerr_systemerr` (svc.c:596–609). -/
def svcerrSystemerr : Serving → Serving := svcerr rpcSystemErr

/-- `svcerr_noproc` (svc.c:611–624). -/
def svcerrNoproc : Serving → Serving := svcerr rpcProcUnavail

/-- The dispatcher (loc_api_cb_svc.c:33–63); `none` when a routine leaves its buffer. -/
def rpcgenDispatch (program : Program) (proc : Word) (s : Serving) : Option Serving :=
  if proc = nullproc then
    match svcSendreply s (pure ()) with
    | .error .overrun => none
    | .error .refused => some s
    | .ok s => some s
  else match program proc with
    | none => some (svcerrNoproc s)
    | some p =>
      match svcGetargs s p.xdrArgument with
      | .error .overrun => none
      | .error .refused => some (svcerrDecode s)
      | .ok (args, s) =>
        match p.localProc args with
        | none => some s
        | some rets =>
          match svcSendreply s (p.xdrResult rets) with
          | .error .overrun => none
          | .error .refused => some (svcerrSystemerr s)
          | .ok s => some s

/-! ## Registered servers -/

/-- `registered_server`; `xdr` is NULL for a callback client between its calls. -/
structure RegisteredServer where
  xdr : Option XdrStruct
  xProg : Word
  xVers : Word

/-- `svc_register` (svc.c:236–310). -/
def svcRegister (prog vers : Word) : RegisteredServer where
  xdr := if prog &&& 0x01000000 ≠ 0 then none
    else some { XdrStruct.zero with xProg := prog, xVers := vers }
  xProg := prog
  xVers := vers

/-- The message is a CALL for this program and version (svc.c:435–454). -/
def RegisteredServer.accepts (svc : RegisteredServer) (x : XdrStruct) : Prop :=
  wordAt x.inMsg 1 = rpcMsgCall ∧ wordAt x.inMsg 3 = svc.xProg ∧ wordAt x.inMsg 4 = x.xVers

instance (svc : RegisteredServer) (x : XdrStruct) : Decidable (svc.accepts x) :=
  inferInstanceAs (Decidable (_ ∧ _ ∧ _))

/-- Where the arguments start: after six words of header and four of credentials. -/
def atArguments (x : XdrStruct) : XdrStruct :=
  { x with inNext := (6 + 4) * 4, inNext_aligned := by decide }

/-- `svc_req` without the transport. -/
structure SvcReq where
  rqProg : Word
  rqVers : Word
  rqProc : Word
  deriving DecidableEq, Repr

/-- What `svc_dispatch` calls the dispatch function with: the request, and the XDR whose
`in_next` it has set; `none` when it returns before that (svc.c:424–469). -/
def svcRequest (svc : RegisteredServer) (x : XdrStruct) : Option (SvcReq × XdrStruct) :=
  if svc.accepts x then
    some (⟨wordAt x.inMsg 3, wordAt x.inMsg 4, wordAt x.inMsg 5⟩, atArguments x)
  else none

/-- `svc_dispatch` (svc.c:424–475), on the XDR `x`. -/
def svcDispatch (svc : RegisteredServer) (x : XdrStruct) (program : Program) : Option Serving :=
  (svcRequest svc x).elim (some ⟨x, false, []⟩) fun request =>
    (rpcgenDispatch program request.1.rqProc ⟨request.2, true, []⟩).map
      fun s => { s with active := false }

/-- `xdr_clone` (svc_clnt_common.c:300–320): `xdr->xid = xdr->xid` keeps the 0 of `calloc`. -/
def xdrClone (other : XdrStruct) : XdrStruct :=
  { XdrStruct.zero with xProg := other.xProg, xVers := other.xVers }

/-- The clone as `cb_context` fills it (clnt.c:177–187). -/
def transplant (client : XdrStruct) : XdrStruct :=
  { xdrClone client with
    xProg := wordAt client.inMsg 3
    xVers := wordAt client.inMsg 4
    inMsg := overlay client.received.msg (xdrClone client).inMsg
    outMsg := client.outMsg
    inLen := client.inLen
    inLen_le := client.inLen_le }

/-- How a message comes to a registered server. The dispatcher is given with the message: what
its local procedures do may depend on anything. -/
inductive SvcAct
  /-- `svc_context` reads it. -/
  | receive (packet : Option Packet) (program : Program)
  /-- `cb_context` takes it from this client. -/
  | callback (client : XdrStruct) (program : Program)

def SvcAct.program : SvcAct → Program
  | .receive _ program => program
  | .callback _ program => program

/-- The XDR that `svc_dispatch` gets. There is none after a read error (`svc_context`
aborts, `cb_context` goes on without a dispatch) and when `svc_find` finds another
server. -/
def RegisteredServer.presented (svc : RegisteredServer) : SvcAct → Option XdrStruct
  | .receive packet _ =>
    match svc.xdr with
    | none => none
    | some x => if (xdrStdRead x packet).1 then some (xdrStdRead x packet).2 else none
  | .callback client _ =>
    if wordAt client.inMsg 3 = svc.xProg ∧ wordAt client.inMsg 4 = svc.xVers ∧ 0 ≤ client.inLen
    then some (transplant client)
    else none

/-- The XDR that stays: `cb_context` destroys its clone and leaves NULL. -/
def SvcAct.keeps (s : Serving) : SvcAct → Option XdrStruct
  | .receive _ _ => some s.xdr
  | .callback _ _ => none

/-- A message arrives and is dispatched. -/
def svcStep (svc : RegisteredServer) (a : SvcAct) : Option RegisteredServer :=
  (svc.presented a).bind fun x =>
    (svcDispatch svc x a.program).map fun s => { svc with xdr := a.keeps s }

/-- The replies that this sends. -/
def RegisteredServer.replies (svc : RegisteredServer) (a : SvcAct) : List (List Byte) :=
  match (svc.presented a).bind fun x => svcDispatch svc x a.program with
  | none => []
  | some s => s.sent

/-- Each reply passes the XID test of `clnt_call` (clnt.c:502) at the sender of the CALL. -/
def RegisteredServer.RepliesCarryXid (svc : RegisteredServer) (a : SvcAct) : Prop :=
  ∀ x, svc.presented a = some x → ∀ m ∈ svc.replies a, wordOf m 0 = wordAt x.inMsg 0

/-- The procedure is unknown, or its arguments do not decode, or it has results that do not
encode. -/
def Program.fails (program : Program) (x : XdrStruct) : Prop :=
  wordAt x.inMsg 5 ≠ nullproc ∧
  match program (wordAt x.inMsg 5) with
  | none => True
  | some p =>
    match (atArguments x).recv p.xdrArgument with
    | .error e => e = .refused
    | .ok (args, _) => ∃ rets, p.localProc args = some rets ∧
        (xdrReplyHeader authNone >>= fun _ => p.xdrResult rets).run (msgHead x.xid rpcMsgReply) =
          .error .refused

/-- A status is sent to the caller. -/
def RegisteredServer.ReportsError (svc : RegisteredServer) (x : XdrStruct) (program : Program) :
    Prop := svc.accepts x ∧ program.fails x

/-! ## What one dispatch sends -/

section Dispatch

variable {s s' : Serving}

/-- Only its own calls move the counter of an XDR. -/
@[simp] theorem xdrStdMsgStart_reply_xid (x : XdrStruct) :
    (xdrStdMsgStart x rpcMsgReply).xid = x.xid := rfl

/-- The status is sent under the counter of the XDR. -/
theorem svcerr_sent {stat : Word} (hactive : s.active = true) (hverf : s.xdr.verf = authNone)
    (hstat : stat = rpcProcUnavail ∨ stat = rpcGarbageArgs ∨ stat = rpcSystemErr) :
    (svcerr stat s).xdr.xid = s.xdr.xid ∧ (svcerr stat s).xdr.verf = authNone ∧
      ∃ m, (svcerr stat s).sent = s.sent ++ [m] ∧ wordOf m 0 = s.xdr.xid := by
  have hfit : (msgHead s.xdr.xid rpcMsgReply).next +
      (htonl rpcMsgAccepted ++ ((htonl 0 ++ htonl 0) ++ htonl stat)).length ≤
        rpcrouterMsgsizeMax := by
    simp only [Outgoing.next, msgHead, List.length_append, htonl_length]
    decide
  obtain ⟨o, hrun, hbytes⟩ := xdrSendReplyHeader_writes 0 0 hstat _ hfit
  have hsend : (xdrStdMsgStart s.xdr rpcMsgReply).send
      (xdrSendReplyHeader (.accepted s.xdr.verf stat 0 0)) =
      .ok { xdrStdMsgStart s.xdr rpcMsgReply with outMsg := o } := by
    have hrun' : (xdrSendReplyHeader (.accepted s.xdr.verf stat 0 0)).run
        (xdrStdMsgStart s.xdr rpcMsgReply).outMsg = .ok ((), o) := by
      rw [hverf]
      exact hrun
    rw [XdrStruct.send, hrun']
  rw [svcerr, if_pos hactive, hsend]
  refine ⟨rfl, hverf, o.bytes, rfl, ?_⟩
  rw [hbytes]
  exact wordOf_zero_htonl_append _ _

/-- The results are sent under the XID of the CALL. -/
theorem svcSendreply_sent {f : Send Unit} (h : svcSendreply s f = .ok s') :
    s'.xdr.xid = s.xdr.xid ∧ s'.xdr.verf = s.xdr.verf ∧
      ∃ m, s'.sent = s.sent ++ [m] ∧ wordOf m 0 = wordAt s.xdr.inMsg 0 := by
  unfold svcSendreply at h
  split at h
  · split at h
    · cases h
    · rename_i x hsend
      obtain ⟨o, -, rfl⟩ := XdrStruct.send_eq_ok hsend
      cases h
      exact ⟨rfl, rfl, _, rfl, rfl⟩
  · cases h

theorem svcSendreply_eq_error {f : Send Unit} {e : Halt} (hactive : s.active = true) :
    svcSendreply s f = .error e ↔
      (xdrReplyHeader authNone >>= fun _ => f).run (msgHead s.xdr.xid rpcMsgReply) = .error e := by
  rw [svcSendreply, if_pos hactive]
  rw [← show (xdrStdMsgStart s.xdr rpcMsgReply).outMsg = msgHead s.xdr.xid rpcMsgReply from rfl,
    ← XdrStruct.send_eq_error]
  split
  · rename_i e' hsend
    rw [hsend, Except.error.injEq, Except.error.injEq]
  · rename_i x hsend
    rw [hsend]
    constructor
    · intro h
      cases h
    · intro h
      cases h

/-- An empty reply always fits. -/
theorem svcSendreply_void (hactive : s.active = true) :
    ∃ s', svcSendreply s (pure ()) = .ok s' := by
  have hfit : (msgHead s.xdr.xid rpcMsgReply).next +
      (htonl rpcMsgAccepted ++ ((htonl 0 ++ htonl 0) ++ htonl rpcAcceptSuccess)).length ≤
        rpcrouterMsgsizeMax := by
    simp only [Outgoing.next, msgHead, List.length_append, htonl_length]
    decide
  obtain ⟨o, hrun, -⟩ := Writes.bind_pure xdrReplyHeader_writes _ hfit
  cases hres : svcSendreply s (pure ()) with
  | ok s' => exact ⟨s', rfl⟩
  | error e =>
    rw [(svcSendreply_eq_error hactive).mp hres] at hrun
    cases hrun

/-- What a server's XDR keeps, and under which XID it sent. -/
structure Sends (x : XdrStruct) (w : Word) (s : Serving) : Prop where
  xid : s.xdr.xid = x.xid
  verf : s.xdr.verf = authNone
  under : ∀ m ∈ s.sent, wordOf m 0 = w

/-- A status is a reply under the counter. -/
theorem sends_svcerr {x : XdrStruct} {stat : Word} (hverf : x.verf = authNone)
    (hxid : s.xdr.xid = x.xid) (hsverf : s.xdr.verf = x.verf) (hactive : s.active = true)
    (hsent : s.sent = [])
    (hstat : stat = rpcProcUnavail ∨ stat = rpcGarbageArgs ∨ stat = rpcSystemErr) :
    Sends x x.xid (svcerr stat s) ∧ (svcerr stat s).sent ≠ [] := by
  obtain ⟨hx, hv, m, hm, hw⟩ := svcerr_sent hactive (hsverf.trans hverf) hstat
  rw [hsent, List.nil_append] at hm
  refine ⟨⟨hx.trans hxid, hv, ?_⟩, ?_⟩
  · intro m' hm'
    rw [hm, List.mem_singleton] at hm'
    rw [hm', hw, hxid]
  · rw [hm]
    exact List.cons_ne_nil m []

/-- A reply with results is under the XID of the CALL. -/
theorem sends_svcSendreply {x : XdrStruct} {f : Send Unit} (hverf : x.verf = authNone)
    (hxid : s.xdr.xid = x.xid) (hsverf : s.xdr.verf = x.verf) (hin : s.xdr.inMsg = x.inMsg)
    (hsent : s.sent = []) (h : svcSendreply s f = .ok s') :
    Sends x (wordAt x.inMsg 0) s' := by
  obtain ⟨hx, hv, m, hm, hw⟩ := svcSendreply_sent h
  rw [hsent, List.nil_append] at hm
  refine ⟨hx.trans hxid, (hv.trans hsverf).trans hverf, ?_⟩
  intro m' hm'
  rw [hm, List.mem_singleton] at hm'
  rw [hm', hw, hin]

/-- **One dispatch**: with a failure a status is sent, under the counter; otherwise what is
sent is under the XID of the CALL. -/
theorem rpcgenDispatch_cases (program : Program) {x : XdrStruct} (hverf : x.verf = authNone) :
    (program.fails x ∧ ∃ s, rpcgenDispatch program (wordAt x.inMsg 5) ⟨atArguments x, true, []⟩ =
      some s ∧ Sends x x.xid s ∧ s.sent ≠ []) ∨
    (¬ program.fails x ∧ ∀ s, rpcgenDispatch program (wordAt x.inMsg 5) ⟨atArguments x, true, []⟩ =
      some s → Sends x (wordAt x.inMsg 0) s) := by
  unfold rpcgenDispatch Program.fails
  by_cases hnull : wordAt x.inMsg 5 = nullproc
  · obtain ⟨s₁, hs₁⟩ := svcSendreply_void (s := ⟨atArguments x, true, []⟩) rfl
    refine .inr ⟨fun h => h.1 hnull, ?_⟩
    intro s hs
    rw [if_pos hnull, hs₁] at hs
    cases hs
    exact sends_svcSendreply hverf rfl rfl rfl rfl hs₁
  rw [if_neg hnull]
  cases hp : program (wordAt x.inMsg 5) with
  | none => exact .inl ⟨⟨hnull, trivial⟩, _, rfl, sends_svcerr hverf rfl rfl rfl rfl (.inl rfl)⟩
  | some p =>
    cases hrecv : (atArguments x).recv p.xdrArgument with
    | error e =>
      have hargs : svcGetargs ⟨atArguments x, true, []⟩ p.xdrArgument = .error e := by
        rw [svcGetargs, if_pos rfl, hrecv]
      simp only [hargs, hrecv]
      cases e with
      | refused =>
        exact .inl ⟨⟨hnull, rfl⟩, _, rfl, sends_svcerr hverf rfl rfl rfl rfl (.inr (.inl rfl))⟩
      | overrun =>
        refine .inr ⟨?_, ?_⟩
        · rintro ⟨-, h⟩
          cases h
        · intro s hs
          cases hs
    | ok r =>
      obtain ⟨args, x'⟩ := r
      have hargs : svcGetargs ⟨atArguments x, true, []⟩ p.xdrArgument =
          .ok (args, ⟨x', true, []⟩) := by
        rw [svcGetargs, if_pos rfl, hrecv]
      simp only [hargs, hrecv]
      obtain ⟨n, hn, rfl⟩ := XdrStruct.recv_eq_ok hrecv
      cases hlocal : p.localProc args with
      | none =>
        refine .inr ⟨?_, ?_⟩
        · rintro ⟨-, rets, h, -⟩
          cases h
        · intro s hs
          cases hs
          exact ⟨rfl, hverf, by simp⟩
      | some rets =>
        have herror : ∀ e, svcSendreply ⟨{ atArguments x with inNext := n, inNext_aligned := hn },
            true, []⟩ (p.xdrResult rets) = .error e ↔
            (xdrReplyHeader authNone >>= fun _ => p.xdrResult rets).run
              (msgHead x.xid rpcMsgReply) = .error e :=
          fun e => svcSendreply_eq_error rfl
        simp only
        cases hreply : svcSendreply ⟨{ atArguments x with inNext := n, inNext_aligned := hn },
            true, []⟩ (p.xdrResult rets) with
        | ok s₁ =>
          rw [hreply] at herror
          refine .inr ⟨?_, ?_⟩
          · rintro ⟨-, rets', h, hrefused⟩
            cases h
            have hcontra := (herror .refused).mpr hrefused
            cases hcontra
          · intro s hs
            cases hs
            exact sends_svcSendreply hverf rfl rfl rfl rfl hreply
        | error e =>
          have hrun := (herror e).mp hreply
          cases e with
          | refused =>
            exact .inl ⟨⟨hnull, rets, rfl, hrun⟩, _, rfl,
              sends_svcerr hverf rfl rfl rfl rfl (.inr (.inr rfl))⟩
          | overrun =>
            refine .inr ⟨?_, ?_⟩
            · rintro ⟨-, rets', h, hrefused⟩
              cases h
              rw [hrun] at hrefused
              cases hrefused
            · intro s hs
              cases hs

end Dispatch

/-! ## Whole histories -/

/-- The XDR of a server has made no calls. -/
def XdrStruct.Silent (x : XdrStruct) : Prop := x.xid = 0 ∧ x.verf = authNone

section Histories

variable {svc svc' : RegisteredServer} {x : XdrStruct} {a : SvcAct}

theorem svcDispatch_cases (svc : RegisteredServer) (program : Program) (hx : x.Silent) :
    (svc.ReportsError x program ∧ ∃ s, svcDispatch svc x program = some s ∧
      s.xdr.Silent ∧ (∀ m ∈ s.sent, wordOf m 0 = 0) ∧ s.sent ≠ []) ∨
    (¬ svc.ReportsError x program ∧ ∀ s, svcDispatch svc x program = some s →
      s.xdr.Silent ∧ ∀ m ∈ s.sent, wordOf m 0 = wordAt x.inMsg 0) := by
  unfold svcDispatch svcRequest RegisteredServer.ReportsError
  by_cases hacc : svc.accepts x
  · rw [if_pos hacc, Option.elim_some]
    rcases rpcgenDispatch_cases program hx.2 with
      ⟨hfails, s, hs, hsends, hne⟩ | ⟨hfine, hsends⟩
    · rw [hs]
      refine .inl ⟨⟨hacc, hfails⟩, _, rfl, ⟨hsends.xid.trans hx.1, hsends.verf⟩, ?_, hne⟩
      intro m hm
      rw [hsends.under m hm, hx.1]
    · refine .inr ⟨fun h => hfine h.2, ?_⟩
      intro s hs
      obtain ⟨s₁, hs₁, rfl⟩ := Option.map_eq_some_iff.mp hs
      have hsent := hsends s₁ hs₁
      exact ⟨⟨hsent.xid.trans hx.1, hsent.verf⟩, hsent.under⟩
  · rw [if_neg hacc, Option.elim_none]
    refine .inr ⟨fun h => hacc h.1, ?_⟩
    intro s hs
    cases hs
    exact ⟨hx, by simp⟩

/-- Neither reading nor cloning touches the counter. -/
theorem silent_of_presented (h : ∀ x, svc.xdr = some x → x.Silent)
    (hx : svc.presented a = some x) : x.Silent := by
  cases a with
  | receive packet program =>
    simp only [RegisteredServer.presented] at hx
    split at hx
    · cases hx
    · rename_i x₀ hx₀
      split at hx
      · cases hx
        have hsilent := h x₀ hx₀
        cases packet with
        | none => exact hsilent
        | some p =>
          simp only [xdrStdRead]
          split
          · exact hsilent
          · exact hsilent
      · cases hx
  | callback client program =>
    simp only [RegisteredServer.presented] at hx
    split at hx
    · cases hx
      exact ⟨rfl, rfl⟩
    · cases hx

theorem svcStep_silent (hst : svcStep svc a = some svc') (h : ∀ x, svc.xdr = some x → x.Silent) :
    ∀ x, svc'.xdr = some x → x.Silent := by
  obtain ⟨x, hx, hst⟩ := Option.bind_eq_some_iff.mp hst
  obtain ⟨s, hs, rfl⟩ := Option.map_eq_some_iff.mp hst
  have hsilent : s.xdr.Silent := by
    rcases svcDispatch_cases svc a.program (silent_of_presented h hx) with
      ⟨-, s₁, hs₁, h₁, -, -⟩ | ⟨-, hall⟩
    · rw [hs] at hs₁
      cases hs₁
      exact h₁
    · exact (hall s hs).1
  intro y hy
  cases a with
  | receive =>
    cases hy
    exact hsilent
  | callback => cases hy

theorem svcRegister_silent (prog vers : Word) :
    ∀ x, (svcRegister prog vers).xdr = some x → x.Silent := by
  intro x hx
  simp only [svcRegister] at hx
  split at hx
  · cases hx
  · cases hx
    exact ⟨rfl, rfl⟩

/-- **After every history of messages, on the XDR of a true server or on a clone, the
replies to a CALL carry its XID exactly if the XID is 0 or the dispatch does not end in a
status.** -/
theorem replies_carry_xid_iff {prog vers : Word} {history : List SvcAct}
    (hrun : exec svcStep (svcRegister prog vers) history = some svc) (a : SvcAct) :
    svc.RepliesCarryXid a ↔
      ∀ x, svc.presented a = some x → wordAt x.inMsg 0 = 0 ∨ ¬ svc.ReportsError x a.program := by
  have hsilent : ∀ x, svc.xdr = some x → x.Silent :=
    exec_invariant (fun _ _ _ hst h => svcStep_silent hst h) (svcRegister_silent prog vers) hrun
  unfold RegisteredServer.RepliesCarryXid
  refine forall_congr' fun x => forall_congr' fun hx => ?_
  rw [RegisteredServer.replies, hx, Option.bind_some]
  rcases svcDispatch_cases svc a.program
    (silent_of_presented hsilent hx) with ⟨herr, s, hs, -, hzero, hne⟩ | ⟨hfine, hall⟩
  · rw [hs]
    obtain ⟨m, hm⟩ := List.exists_mem_of_ne_nil s.sent hne
    constructor
    · intro h
      exact .inl ((h m hm).symm.trans (hzero m hm))
    · rintro (h | h) m' hm'
      · rw [hzero m' hm', h]
      · exact absurd herr h
  · refine iff_of_true ?_ (.inr hfine)
    cases hs : svcDispatch svc x a.program with
    | none => simp
    | some s => exact (hall s hs).2

end Histories

/-- `LOC_APICBPROG` and `LOC_APICBVERS` (loc_api_cb.h:48–50). -/
def locApicbServer : RegisteredServer := svcRegister 0x3100008c 0x00050001

/-- A client that has just read a CALL for `LOC_APICBPROG`. -/
def clientWithCall (xid proc : Word) : XdrStruct :=
  { XdrStruct.zero with
    inMsg := overlay (htonl xid ++ htonl rpcMsgCall ++ htonl rpcMsgVersion ++ htonl 0x3100008c ++
      htonl 0x00050001 ++ htonl proc) XdrStruct.zero.inMsg
    inLen := 40
    inLen_le := by decide }

/-- The callback dispatcher, with a callback that returns 0. -/
def quietProgram : Program := locApicbprog fun _ => (0#32, ())

/-- After a `NULLPROC` call, another one with XID 7 gets its XID back. -/
theorem nullproc_reply_carries_xid :
    exec svcStep locApicbServer [.callback (clientWithCall 1 nullproc) quietProgram] =
        some locApicbServer ∧
      locApicbServer.RepliesCarryXid (.callback (clientWithCall 7 nullproc) quietProgram) := by
  have hrun : exec svcStep (svcRegister 0x3100008c 0x00050001)
      [.callback (clientWithCall 1 nullproc) quietProgram] = some locApicbServer := rfl
  have hclone : locApicbServer.presented (.callback (clientWithCall 7 nullproc) quietProgram) =
      some (transplant (clientWithCall 7 nullproc)) := rfl
  refine ⟨hrun, (replies_carry_xid_iff hrun _).mpr ?_⟩
  intro x hx
  rw [hclone, Option.some.injEq] at hx
  subst hx
  exact .inr fun h => h.2.1 (by decide)

/-- A CALL with XID 1 for a procedure that `loc_apicbprog_0x00050001` does not have is
answered under XID 0. -/
theorem noproc_reply_has_other_xid :
    ¬ locApicbServer.RepliesCarryXid (.callback (clientWithCall 1 5) quietProgram) := by
  intro h
  have hreplies : locApicbServer.replies (.callback (clientWithCall 1 5) quietProgram) =
      [htonl 0 ++ htonl rpcMsgReply ++ htonl rpcMsgAccepted ++ htonl 0 ++ htonl 0 ++
        htonl rpcProcUnavail] := by decide +kernel
  have hxid := h _ rfl _ (hreplies ▸ List.mem_singleton_self _)
  revert hxid
  decide

end Ancora.Rpc
