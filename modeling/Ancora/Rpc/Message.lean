import Ancora.Xdr.Codec

/-!
# RPC messages (librpc/svc_clnt_common.c, librpc/rpc.c, librpc/clnt.c)

A message is an RPC header and the encoded arguments or results. `RPC_OFFSET` is 0
(librpc/Android.mk), so word 0 of a message is its XID and word 1 its type.

`XdrStruct` is the `xdr_s_type` through which both sides see the router:
`out_msg` as far as it is filled, and the whole of `in_msg`, because the headers of
an incoming message are read at fixed places whatever `in_len` says.

- `xdrStdMsgStart`, `xdrStdRead`: the two ends of a message.
- `xdrSendReplyHeader`, `xdrRecvReplyHeader`: what precedes the results.
- `xdrSendReplyHeader_writes`: an accepted reply without a verifier is five words long.
-/

namespace Ancora.Rpc

open Xdr Stream

abbrev Word := BitVec 32

/-- `RPC_MSG_CALL` (rpc/types.h:201). -/
def rpcMsgCall : Word := 0

/-- `RPC_MSG_REPLY` (rpc/types.h:202). -/
def rpcMsgReply : Word := 1

/-- `RPC_MSG_VERSION` (rpc/types.h:72). -/
def rpcMsgVersion : Word := 2

/-! `rpc_reply_stat_e_type` and `rpc_accept_stat_e_type` (rpc/types.h:206–219). -/

def rpcMsgAccepted : Word := 0
def rpcMsgDenied : Word := 1

def rpcAcceptSuccess : Word := 0
def rpcProgUnavail : Word := 1
def rpcProgMismatch : Word := 2
def rpcProcUnavail : Word := 3
def rpcGarbageArgs : Word := 4
def rpcSystemErr : Word := 5
def rpcProgLocked : Word := 6

/-! `rpc_reject_stat_e_type` (rpc/types.h:221–224). -/

def rpcMismatch : Word := 0
def rpcAuthError : Word := 1

/-- `opaque_auth` (rpc/types.h:258). -/
structure OpaqueAuth where
  oaFlavor : Word
  oaLength : Word
  oaBase : List.Vector Byte oaLength.toNat

/-- `AUTH_NONE` with nothing more. -/
def authNone : OpaqueAuth := ⟨0, 0, List.Vector.nil⟩

/-- `rpc_reply_header`; `low`, `high` and `why` are the members of its unions. -/
inductive ReplyHeader
  | accepted (verf : OpaqueAuth) (stat low high : Word)
  | denied (stat low high why : Word)

/-- A message can be as long as the buffer it is read into. -/
abbrev Packet := { bytes : List Byte // bytes.length ≤ rpcrouterMsgsizeMax }

/-- `((uint32 *)msg)[k]` in host order. -/
def wordAt (msg : Nat → Byte) (k : Nat) : Word :=
  ntohl [msg (4 * k), msg (4 * k + 1), msg (4 * k + 2), msg (4 * k + 3)]

/-- The same in a message that is only as long as it is filled. -/
def wordOf (bytes : List Byte) (k : Nat) : Word := wordAt (fun i => bytes.getD i 0) k

/-- The first word of a message. -/
theorem wordOf_zero_htonl_append (w : Word) (rest : List Byte) :
    wordOf (htonl w ++ rest) 0 = w := ntohl_htonl w

/-- `xdr_s_type` (rpc/types.h:389). -/
structure XdrStruct where
  xProg : Word
  xVers : Word
  verf : OpaqueAuth
  xid : Word
  outMsg : OutMsg
  inMsg : Nat → Byte
  inNext : Nat
  inLen : Int
  inNext_aligned : 4 ∣ inNext
  inLen_le : inLen ≤ rpcrouterMsgsizeMax

/-- What `calloc` gives. -/
def XdrStruct.zero : XdrStruct where
  xProg := 0
  xVers := 0
  verf := authNone
  xid := 0
  outMsg := ⟨[], Nat.dvd_zero 4, Nat.zero_le _⟩
  inMsg := fun _ => 0
  inNext := 0
  inLen := 0
  inNext_aligned := Nat.dvd_zero 4
  inLen_le := by decide

namespace XdrStruct

/-- The part of `in_msg` that the `recv` operations read. -/
def received (x : XdrStruct) : InMsg where
  msg := (List.range x.inLen.toNat).map x.inMsg
  next := x.inNext
  aligned := x.inNext_aligned
  bounded := by
    have h := x.inLen_le
    rw [List.length_map, List.length_range]
    omega

/-- Read something from where `in_next` is. -/
def recv {α : Type} (x : XdrStruct) (f : Recv α) : Except Halt (α × XdrStruct) :=
  match f.run x.received with
  | .error e => .error e
  | .ok (a, i) => .ok (a, { x with inNext := i.next, inNext_aligned := i.aligned })

/-- Write something to where `out_next` is. -/
def send (x : XdrStruct) (f : Send Unit) : Except Halt XdrStruct :=
  match f.run x.outMsg with
  | .error e => .error e
  | .ok (_, o) => .ok { x with outMsg := o }

/-- What is sent goes to `out_msg` only. -/
theorem send_eq_ok {x x' : XdrStruct} {f : Send Unit} (h : x.send f = .ok x') :
    ∃ o, f.run x.outMsg = .ok ((), o) ∧ x' = { x with outMsg := o } := by
  unfold XdrStruct.send at h
  split at h
  · cases h
  · rename_i o hrun
    cases h
    exact ⟨o, hrun, rfl⟩

/-- It fails as the routine does. -/
theorem send_eq_error {x : XdrStruct} {f : Send Unit} {e : Halt} :
    x.send f = .error e ↔ f.run x.outMsg = .error e := by
  unfold XdrStruct.send
  split
  · rename_i e' hrun
    rw [hrun, Except.error.injEq, Except.error.injEq]
  · rename_i o hrun
    rw [hrun]
    constructor
    · intro h
      cases h
    · intro h
      cases h

/-- What is received moves `in_next` only. -/
theorem recv_eq_ok {α : Type} {x x' : XdrStruct} {f : Recv α} {a : α}
    (h : x.recv f = .ok (a, x')) :
    ∃ n hn, x' = { x with inNext := n, inNext_aligned := hn } := by
  unfold XdrStruct.recv at h
  split at h
  · cases h
  · cases h
    exact ⟨_, _, rfl⟩

end XdrStruct

/-- The two words a message begins with. -/
def msgHead (xid type : Word) : OutMsg where
  bytes := htonl xid ++ htonl type
  aligned := ⟨2, rfl⟩
  bounded := by
    rw [List.length_append, htonl_length, htonl_length]
    decide

/-- `xdr_std_msg_start` (svc_clnt_common.c:29–73). -/
def xdrStdMsgStart (x : XdrStruct) (rpcMsgType : Word) : XdrStruct :=
  let xid := if rpcMsgType = rpcMsgCall then x.xid + 1 else x.xid
  { x with xid := xid, outMsg := msgHead xid rpcMsgType }

/-- `r_read` stores a message at the start of `in_msg`. -/
def overlay (bytes : List Byte) (old : Nat → Byte) : Nat → Byte := fun i => bytes.getD i (old i)

/-- `xdr_std_read` (svc_clnt_common.c:100–112); `none` is an error of `r_read`. -/
def xdrStdRead (x : XdrStruct) : Option Packet → Bool × XdrStruct
  | none => (false, { x with inLen := -1, inLen_le := by decide })
  | some p =>
    if p.val.length < 8 then
      (false, { x with inMsg := overlay p.val x.inMsg, inLen := -1, inLen_le := by decide })
    else
      (true, { x with
        inMsg := overlay p.val x.inMsg
        inLen := p.val.length
        inNext := 8
        inLen_le := Int.ofNat_le.mpr p.property
        inNext_aligned := by decide })

/-! ## Reply headers -/

/-- `xdr_send_auth` (rpc.c:127). -/
def xdrSendAuth (auth : OpaqueAuth) : Send Unit := do
  xdrStdSendInt32 auth.oaFlavor
  xdrStdSendUint32 auth.oaLength
  if auth.oaLength ≠ 0 then xdrStdSendBytes auth.oaLength auth.oaBase

/-- `xdr_call_msg_start` (rpc.c:7–27) after `XDR_MSG_START`. -/
def xdrCallHeader (prog vers proc : Word) (cred verf : OpaqueAuth) : Send Unit := do
  xdrStdSendUint32 rpcMsgVersion
  xdrStdSendUint32 prog
  xdrStdSendUint32 vers
  xdrStdSendUint32 proc
  xdrSendAuth cred
  xdrSendAuth verf

/-- `xdr_reply_msg_start` (rpc.c:29–40) after `XDR_MSG_START`. -/
def xdrReplyHeader (verf : OpaqueAuth) : Send Unit := do
  xdrStdSendInt32 rpcMsgAccepted
  xdrSendAuth verf
  xdrStdSendInt32 rpcAcceptSuccess

/-- `xdr_send_accepted_reply_header` (rpc.c:42). -/
def xdrSendAcceptedReplyHeader (verf : OpaqueAuth) (stat low high : Word) : Send Unit := do
  xdrSendAuth verf
  xdrStdSendInt32 stat
  if stat = rpcProgMismatch then
    xdrStdSendUint32 low
    xdrStdSendUint32 high
  else if stat = rpcAcceptSuccess ∨ stat = rpcProgUnavail ∨ stat = rpcProcUnavail ∨
      stat = rpcGarbageArgs ∨ stat = rpcSystemErr ∨ stat = rpcProgLocked then
    pure ()
  else throw .refused

/-- `xdr_send_denied_reply` (rpc.c:77). -/
def xdrSendDeniedReply (stat low high why : Word) : Send Unit := do
  xdrStdSendInt32 stat
  if stat = rpcMismatch then
    xdrStdSendUint32 low
    xdrStdSendUint32 high
  else if stat = rpcAuthError then xdrStdSendInt32 why
  else throw .refused

/-- `xdr_send_reply_header` (rpc.c:102). -/
def xdrSendReplyHeader : ReplyHeader → Send Unit
  | .accepted verf stat low high => do
    xdrStdSendInt32 rpcMsgAccepted
    xdrSendAcceptedReplyHeader verf stat low high
  | .denied stat low high why => do
    xdrStdSendInt32 rpcMsgDenied
    xdrSendDeniedReply stat low high why

/-- `xdr_recv_auth` (clnt.c:562): a verifier with a body is never accepted. -/
def xdrRecvAuth : Recv OpaqueAuth := do
  let flavor ← xdrStdRecvInt32
  let length ← xdrStdRecvUint32
  if length ≠ 0 then throw .refused else pure ⟨flavor, 0, List.Vector.nil⟩

/-- `xdr_recv_accepted_reply_header` (clnt.c:592). -/
def xdrRecvAcceptedReplyHeader : Recv ReplyHeader := do
  let verf ← xdrRecvAuth
  let stat ← xdrStdRecvInt32
  if stat = rpcProgMismatch then
    let low ← xdrStdRecvUint32
    let high ← xdrStdRecvUint32
    pure (.accepted verf stat low high)
  else if stat = rpcAcceptSuccess ∨ stat = rpcProgUnavail ∨ stat = rpcProcUnavail ∨
      stat = rpcGarbageArgs ∨ stat = rpcSystemErr ∨ stat = rpcProgLocked then
    pure (.accepted verf stat 0 0)
  else throw .refused

/-- `xdr_recv_denied_reply` (clnt.c:630). -/
def xdrRecvDeniedReply : Recv ReplyHeader := do
  let stat ← xdrStdRecvInt32
  if stat = rpcMismatch then
    let low ← xdrStdRecvUint32
    let high ← xdrStdRecvUint32
    pure (.denied stat low high 0)
  else if stat = rpcAuthError then
    let why ← xdrStdRecvInt32
    pure (.denied stat 0 0 why)
  else throw .refused

/-- `xdr_recv_reply_header` (clnt.c:655). -/
def xdrRecvReplyHeader : Recv ReplyHeader := do
  let stat ← xdrStdRecvInt32
  if stat = rpcMsgAccepted then xdrRecvAcceptedReplyHeader
  else if stat = rpcMsgDenied then xdrRecvDeniedReply
  else throw .refused

/-! ## What the headers are on the wire -/

/-- Nothing is written by what only returns. -/
theorem Writes.bind_pure {f : Send Unit} {w : List Byte} (h : Writes f w) :
    Writes (f >>= fun _ => pure ()) w := by
  have hseq : Writes (f >>= fun _ => pure ()) (w ++ []) := Writes.bind h Writes.pure
  rwa [List.append_nil] at hseq

/-- `AUTH_NONE` is two words of 0. -/
theorem xdrSendAuth_none_writes : Writes (xdrSendAuth authNone) (htonl 0 ++ htonl 0) :=
  (xdrStdSendUint32_writes 0).bind (Writes.bind_pure (xdrStdSendUint32_writes 0))

/-- The header of a reply that succeeds. -/
theorem xdrReplyHeader_writes :
    Writes (xdrReplyHeader authNone)
      (htonl rpcMsgAccepted ++ ((htonl 0 ++ htonl 0) ++ htonl rpcAcceptSuccess)) :=
  (xdrStdSendUint32_writes _).bind (xdrSendAuth_none_writes.bind (xdrStdSendUint32_writes _))

/-- The header of a reply that reports `stat`. -/
theorem xdrSendReplyHeader_writes {stat : Word} (low high : Word)
    (h : stat = rpcProcUnavail ∨ stat = rpcGarbageArgs ∨ stat = rpcSystemErr) :
    Writes (xdrSendReplyHeader (.accepted authNone stat low high))
      (htonl rpcMsgAccepted ++ ((htonl 0 ++ htonl 0) ++ htonl stat)) := by
  have hword : Writes (xdrStdSendInt32 stat >>= fun _ => pure ()) (htonl stat) :=
    Writes.bind_pure (xdrStdSendUint32_writes stat)
  have haccepted : Writes (xdrSendAcceptedReplyHeader authNone stat low high)
      ((htonl 0 ++ htonl 0) ++ htonl stat) := by
    rcases h with rfl | rfl | rfl
    · exact xdrSendAuth_none_writes.bind hword
    · exact xdrSendAuth_none_writes.bind hword
    · exact xdrSendAuth_none_writes.bind hword
  exact (xdrStdSendUint32_writes _).bind haccepted

end Ancora.Rpc
