import Ancora.Rpc.Reply
import Ancora.Rpc.OwnReply

/-!
# Headers with a body in them (librpc/rpc.c, librpc/clnt.c, librpc/svc.c)

`xdr_send_auth` writes credentials and verifiers of any length, up to `MAX_AUTH_BYTES` by
its type. The two readers know only the empty ones: `xdr_recv_auth` returns FALSE
after skipping a body, and `svc_dispatch` looks for the arguments ten words into the
message wherever they are.

- `ReplyHeader.RoundTrips`: what `xdr_send_reply_header` writes, `xdr_recv_reply_header`
  reads, up to the first byte after it.
- **`reply_header_round_trips_iff`**: so it is iff the header has no verifier body.
- `CallMsg`, `RequestRight`: a CALL, and `svc_dispatch` handing it on as it is.
- **`call_arguments_found_iff`**: so it is iff the CALL is not for this server, or both
  its bodies are empty.
-/

namespace Ancora.Rpc

open Xdr Stream

/-! ## What is written -/

/-- `xdr_send_auth` on the wire. -/
def OpaqueAuth.wire (auth : OpaqueAuth) : List Byte :=
  htonl auth.oaFlavor ++ (htonl auth.oaLength ++
    (auth.oaBase.toList ++ padding auth.oaLength.toNat))

/-- Without a body nothing follows the length. -/
theorem OpaqueAuth.body_eq_nil {auth : OpaqueAuth} (h : auth.oaLength = 0) :
    auth.oaBase.toList ++ padding auth.oaLength.toNat = [] := by
  apply List.eq_nil_of_length_eq_zero
  rw [List.length_append, List.Vector.toList_length, padding_length, h]
  rfl

/-- Flavor and length take two words, the body is padded. -/
theorem OpaqueAuth.wire_length (auth : OpaqueAuth) :
    auth.wire.length = 8 + (auth.oaLength.toNat + 3) / 4 * 4 := by
  simp only [OpaqueAuth.wire, List.length_append, htonl_length, List.Vector.toList_length,
    padding_length]
  omega

/-- There are only the two words if and only if there is no body. -/
theorem OpaqueAuth.wire_length_eq_iff (auth : OpaqueAuth) :
    auth.wire.length = 8 ↔ auth.oaLength = 0 := by
  have hzero : auth.oaLength = 0 ↔ auth.oaLength.toNat = 0 :=
    ⟨fun h => h ▸ rfl, fun h => BitVec.eq_of_toNat_eq h⟩
  rw [auth.wire_length, hzero]
  omega

/-- A word is written behind the message, or refused. -/
theorem xdrStdSendUint32_appends (w : Word) : Appends (xdrStdSendUint32 w) (htonl w) := by
  intro o o' hrun
  rw [StateT.run, xdrStdSendUint32] at hrun
  split at hrun
  · cases hrun
  · cases hrun
    rfl

/-- Bytes are written with their padding, or refused. -/
theorem xdrStdSendBytes_appends (len : Word) (buf : List.Vector Byte len.toNat) :
    Appends (xdrStdSendBytes len buf) (buf.toList ++ padding len.toNat) := by
  intro o o' hrun
  rw [StateT.run, xdrStdSendBytes] at hrun
  split at hrun
  · cases hrun
  split at hrun
  · cases hrun
  · cases hrun
    exact padLoop_append o buf

/-- Credentials and verifiers are written with their bodies, or refused. -/
theorem xdrSendAuth_appends (auth : OpaqueAuth) : Appends (xdrSendAuth auth) auth.wire := by
  refine (xdrStdSendUint32_appends _).bind ((xdrStdSendUint32_appends _).bind ?_)
  split
  · exact xdrStdSendBytes_appends _ _
  · rename_i h
    rw [OpaqueAuth.body_eq_nil (not_not.mp h)]
    exact Appends.pure

/-- They are written where there is room for them. -/
theorem xdrSendAuth_writes (auth : OpaqueAuth) : Writes (xdrSendAuth auth) auth.wire := by
  refine (xdrStdSendUint32_writes _).bind ((xdrStdSendUint32_writes _).bind ?_)
  split
  · exact xdrStdSendBytes_writes _ _
  · rename_i h
    rw [OpaqueAuth.body_eq_nil (not_not.mp h)]
    exact Writes.pure

/-! ## Reply headers -/

/-- The statuses that `xdr_send_accepted_reply_header` knows. -/
def IsAcceptStat (stat : Word) : Prop :=
  stat = rpcProgMismatch ∨ stat = rpcAcceptSuccess ∨ stat = rpcProgUnavail ∨
    stat = rpcProcUnavail ∨ stat = rpcGarbageArgs ∨ stat = rpcSystemErr ∨ stat = rpcProgLocked

/-- The statuses that `xdr_send_denied_reply` knows. -/
def IsRejectStat (stat : Word) : Prop := stat = rpcMismatch ∨ stat = rpcAuthError

def ReplyHeader.StatusValid : ReplyHeader → Prop
  | .accepted _ stat _ _ => IsAcceptStat stat
  | .denied stat _ _ _ => IsRejectStat stat

/-- The length of the verifier's body; a reply that is denied has no verifier. -/
def ReplyHeader.verifierLength : ReplyHeader → Word
  | .accepted verf _ _ _ => verf.oaLength
  | .denied _ _ _ _ => 0

/-- The members of `rpc_reply_header` that its statuses select are equal. The verifier is none
of them. -/
def ReplyHeader.SameStatus : ReplyHeader → ReplyHeader → Prop
  | .accepted _ stat low high, .accepted _ stat' low' high' =>
    stat = stat' ∧ (stat = rpcProgMismatch → low = low' ∧ high = high')
  | .denied stat low high why, .denied stat' low' high' why' =>
    stat = stat' ∧ (stat = rpcMismatch → low = low' ∧ high = high') ∧
      (stat = rpcAuthError → why = why')
  | _, _ => False

/-- `xdr_send_reply_header` returns TRUE in some message. -/
def ReplyHeader.CanEncode (h : ReplyHeader) : Prop :=
  ∃ o o' : OutMsg, (xdrSendReplyHeader h).run o = .ok ((), o')

/-- Wherever the bytes that were written come next, `xdr_recv_reply_header` returns TRUE with
the same status and stands behind them. -/
def ReplyHeader.RoundTrips (h : ReplyHeader) : Prop :=
  ∀ o o' : OutMsg, (xdrSendReplyHeader h).run o = .ok ((), o') →
    ∃ h', h.SameStatus h' ∧ Reads xdrRecvReplyHeader (o'.bytes.drop o.next) h'

/-- The message has a word `k`, which is `w`. -/
def WordIs (bytes : List Byte) (k : Nat) (w : Word) : Prop :=
  4 * k + 4 ≤ bytes.length ∧ wordOf bytes k = w

/-- The status words of a reply are there and among those of rpc/types.h: the first, and the one
behind the verifier or behind the first. -/
def StatusWordsValid (reply : List Byte) : Prop :=
  (WordIs reply 0 rpcMsgAccepted ∧ ∃ length stat, WordIs reply 2 length ∧
    WordIs reply (3 + (length.toNat + 3) / 4) stat ∧ IsAcceptStat stat) ∨
  (WordIs reply 0 rpcMsgDenied ∧ ∃ stat, WordIs reply 1 stat ∧ IsRejectStat stat)

/-- `xdr_send_reply_header` on the wire. -/
def ReplyHeader.wire : ReplyHeader → List Byte
  | .accepted verf stat low high =>
    htonl rpcMsgAccepted ++ (verf.wire ++ (htonl stat ++
      if stat = rpcProgMismatch then htonl low ++ htonl high else []))
  | .denied stat low high why =>
    htonl rpcMsgDenied ++ (htonl stat ++
      if stat = rpcMismatch then htonl low ++ htonl high else htonl why)

/-- A reply header is written as its bytes, or refused. -/
theorem xdrSendReplyHeader_appends (h : ReplyHeader) :
    Appends (xdrSendReplyHeader h) h.wire := by
  cases h with
  | accepted verf stat low high =>
    refine (xdrStdSendUint32_appends _).bind
      ((xdrSendAuth_appends verf).bind ((xdrStdSendUint32_appends stat).bind ?_))
    split
    · exact (xdrStdSendUint32_appends low).bind (xdrStdSendUint32_appends high)
    · split
      · exact Appends.pure
      · exact Appends.throw _
  | denied stat low high why =>
    refine (xdrStdSendUint32_appends _).bind ((xdrStdSendUint32_appends stat).bind ?_)
    split
    · exact (xdrStdSendUint32_appends low).bind (xdrStdSendUint32_appends high)
    · split
      · exact xdrStdSendUint32_appends why
      · exact Appends.throw _

/-- A header with known statuses is written where there is room for it. -/
theorem ReplyHeader.StatusValid.writes {h : ReplyHeader} (hvalid : h.StatusValid) :
    Writes (xdrSendReplyHeader h) h.wire := by
  cases h with
  | accepted verf stat low high =>
    refine (xdrStdSendUint32_writes _).bind
      ((xdrSendAuth_writes verf).bind ((xdrStdSendUint32_writes stat).bind ?_))
    split
    · exact (xdrStdSendUint32_writes low).bind (xdrStdSendUint32_writes high)
    · rename_i hne
      rw [if_pos (hvalid.resolve_left hne)]
      exact Writes.pure
  | denied stat low high why =>
    refine (xdrStdSendUint32_writes _).bind ((xdrStdSendUint32_writes stat).bind ?_)
    split
    · exact (xdrStdSendUint32_writes low).bind (xdrStdSendUint32_writes high)
    · rename_i hne
      rw [if_pos (hvalid.resolve_left hne)]
      exact xdrStdSendUint32_writes why

/-- A status that is not among the known ones ends the encoding. -/
theorem ReplyHeader.CanEncode.statusValid {h : ReplyHeader} (hcan : h.CanEncode) :
    h.StatusValid := by
  obtain ⟨o, o', hrun⟩ := hcan
  cases h with
  | accepted verf stat low high =>
    obtain ⟨_, _, -, hrun⟩ := exists_of_run_bind_eq_ok hrun
    obtain ⟨_, _, -, hrun⟩ := exists_of_run_bind_eq_ok hrun
    obtain ⟨_, _, -, hrun⟩ := exists_of_run_bind_eq_ok hrun
    split at hrun
    · rename_i hstat
      exact .inl hstat
    · split at hrun
      · rename_i hstat
        exact .inr hstat
      · cases hrun
  | denied stat low high why =>
    obtain ⟨_, _, -, hrun⟩ := exists_of_run_bind_eq_ok hrun
    obtain ⟨_, _, -, hrun⟩ := exists_of_run_bind_eq_ok hrun
    split at hrun
    · rename_i hstat
      exact .inl hstat
    · split at hrun
      · rename_i hstat
        exact .inr hstat
      · cases hrun

/-- A verifier without a body is read as it is. -/
theorem xdrRecvAuth_reads {auth : OpaqueAuth} (h : auth.oaLength = 0) :
    Reads xdrRecvAuth auth.wire ⟨auth.oaFlavor, 0, List.Vector.nil⟩ := by
  refine (xdrStdRecvUint32_reads _).bind ((xdrStdRecvUint32_reads _).bind ?_)
  rw [OpaqueAuth.body_eq_nil h, if_neg (not_not.mpr h)]
  exact Reads.pure _

/-- The members that the statuses do not select are left alone, here 0. -/
theorem xdrRecvAcceptedReplyHeader_reads {verf : OpaqueAuth} {stat : Word} (low high : Word)
    (hempty : verf.oaLength = 0) (hstat : IsAcceptStat stat) :
    ∃ h', (ReplyHeader.accepted verf stat low high).SameStatus h' ∧
      Reads xdrRecvAcceptedReplyHeader (verf.wire ++ (htonl stat ++
        if stat = rpcProgMismatch then htonl low ++ htonl high else [])) h' := by
  by_cases hmismatch : stat = rpcProgMismatch
  · refine ⟨.accepted ⟨verf.oaFlavor, 0, List.Vector.nil⟩ stat low high,
      ⟨rfl, fun _ => ⟨rfl, rfl⟩⟩,
      (xdrRecvAuth_reads hempty).bind ((xdrStdRecvUint32_reads stat).bind ?_)⟩
    rw [if_pos hmismatch, if_pos hmismatch]
    exact (xdrStdRecvUint32_reads low).bind ((xdrStdRecvUint32_reads high).map _)
  · refine ⟨.accepted ⟨verf.oaFlavor, 0, List.Vector.nil⟩ stat 0 0,
      ⟨rfl, fun h => absurd h hmismatch⟩,
      (xdrRecvAuth_reads hempty).bind ((xdrStdRecvUint32_reads stat).bind ?_)⟩
    rw [if_neg hmismatch, if_neg hmismatch, if_pos (hstat.resolve_left hmismatch)]
    exact Reads.pure _

/-- The status of a denied reply is read, and what it selects. -/
theorem xdrRecvDeniedReply_reads {stat : Word} (low high why : Word) (hstat : IsRejectStat stat) :
    ∃ h', (ReplyHeader.denied stat low high why).SameStatus h' ∧
      Reads xdrRecvDeniedReply (htonl stat ++
        if stat = rpcMismatch then htonl low ++ htonl high else htonl why) h' := by
  by_cases hmismatch : stat = rpcMismatch
  · have hauth : stat ≠ rpcAuthError := by
      rw [hmismatch]
      decide
    refine ⟨.denied stat low high 0,
      ⟨rfl, fun _ => ⟨rfl, rfl⟩, fun h => absurd h hauth⟩,
      (xdrStdRecvUint32_reads stat).bind ?_⟩
    rw [if_pos hmismatch, if_pos hmismatch]
    exact (xdrStdRecvUint32_reads low).bind ((xdrStdRecvUint32_reads high).map _)
  · refine ⟨.denied stat 0 0 why,
      ⟨rfl, fun h => absurd h hmismatch, fun _ => rfl⟩,
      (xdrStdRecvUint32_reads stat).bind ?_⟩
    rw [if_neg hmismatch, if_neg hmismatch, if_pos (hstat.resolve_left hmismatch)]
    exact (xdrStdRecvUint32_reads why).map _

/-- A header without a verifier body is read back with its status. -/
theorem ReplyHeader.StatusValid.reads {h : ReplyHeader} (hvalid : h.StatusValid)
    (hempty : h.verifierLength = 0) :
    ∃ h', h.SameStatus h' ∧ Reads xdrRecvReplyHeader h.wire h' := by
  cases h with
  | accepted verf stat low high =>
    obtain ⟨h', hsame, hreads⟩ := xdrRecvAcceptedReplyHeader_reads low high hempty hvalid
    exact ⟨h', hsame, (xdrStdRecvUint32_reads rpcMsgAccepted).bind hreads⟩
  | denied stat low high why =>
    obtain ⟨h', hsame, hreads⟩ := xdrRecvDeniedReply_reads low high why hvalid
    exact ⟨h', hsame, (xdrStdRecvUint32_reads rpcMsgDenied).bind hreads⟩

/-! ## What is refused -/

theorem wordOf_drop_four (bytes : List Byte) (k : Nat) :
    wordOf (bytes.drop 4) k = wordOf bytes (k + 1) := by
  have hgetD (n : Nat) : (bytes.drop 4).getD n 0 = bytes.getD (4 + n) 0 := by
    simp [List.getD, List.getElem?_drop]
  have hword : 4 + 4 * k = 4 * (k + 1) := by omega
  simp only [wordOf, wordAt, hgetD, ← Nat.add_assoc, hword]

theorem wordIs_drop_four {bytes : List Byte} {k : Nat} {w : Word} :
    WordIs (bytes.drop 4) k w ↔ WordIs bytes (k + 1) w := by
  rw [WordIs, WordIs, wordOf_drop_four, List.length_drop]
  exact and_congr_left' (by omega)

/-- A word is read as it lies there, or there is none. -/
theorem xdrStdRecvUint32_failsOr : FailsOr .refused xdrStdRecvUint32 fun i w i' =>
    WordIs i.rest 0 w ∧ i'.rest = i.rest.drop 4 := by
  intro i
  rw [StateT.run, xdrStdRecvUint32]
  split
  · exact .inl rfl
  · rename_i hroom
    have hlen : 4 ≤ i.rest.length := by
      rw [Incoming.rest, List.length_drop]
      omega
    have htake : i.rest.take 4 =
        [i.rest.getD 0 0, i.rest.getD 1 0, i.rest.getD 2 0, i.rest.getD 3 0] := by
      generalize i.rest = rest at hlen
      rcases rest with _ | ⟨a, _ | ⟨b, _ | ⟨c, _ | ⟨d, tail⟩⟩⟩⟩
      · exact absurd hlen (by simp)
      · exact absurd hlen (by simp)
      · exact absurd hlen (by simp)
      · exact absurd hlen (by simp)
      · rfl
    refine .inr ⟨_, _, rfl, ⟨hlen, ?_⟩, ?_⟩
    · rw [htake]
      rfl
    · rw [Incoming.rest, Incoming.rest, List.drop_drop]

/-- A verifier with a body is refused. -/
theorem xdrRecvAuth_failsOr : FailsOr .refused xdrRecvAuth fun i _ i' =>
    WordIs i.rest 1 0 ∧ i'.rest = i.rest.drop 8 := by
  refine xdrStdRecvUint32_failsOr.bind fun flavor => ?_
  refine xdrStdRecvUint32_failsOr.bind fun length => ?_
  split
  · exact FailsOr.throw
  · rename_i hlen
    apply FailsOr.pure
    intro i₂ i₁ ⟨hword, hrest₂⟩ i ⟨_, hrest₁⟩
    rw [hrest₁] at hword hrest₂
    constructor
    · rw [not_not.mp hlen] at hword
      exact wordIs_drop_four.mp hword
    · rw [hrest₂, List.drop_drop]

/-- The word behind a verifier without a body is the status. -/
theorem xdrRecvAcceptedReplyHeader_failsOr : FailsOr .refused xdrRecvAcceptedReplyHeader
    fun i _ _ => WordIs i.rest 1 0 ∧ ∃ stat, WordIs i.rest 2 stat ∧ IsAcceptStat stat := by
  refine xdrRecvAuth_failsOr.bind fun verf => ?_
  refine xdrStdRecvUint32_failsOr.bind fun stat => ?_
  have hstands (hstat : IsAcceptStat stat) (i₁ i₂ i : InMsg)
      (hword : WordIs i₁.rest 0 stat ∧ i₂.rest = i₁.rest.drop 4)
      (hauth : WordIs i.rest 1 0 ∧ i₁.rest = i.rest.drop 8) :
      WordIs i.rest 1 0 ∧ ∃ stat, WordIs i.rest 2 stat ∧ IsAcceptStat stat := by
    refine ⟨hauth.1, stat, ?_, hstat⟩
    rw [← wordIs_drop_four, ← wordIs_drop_four, List.drop_drop, ← hauth.2]
    exact hword.1
  split
  · rename_i hstat
    refine xdrStdRecvUint32_failsOr.bind fun low => ?_
    refine xdrStdRecvUint32_failsOr.bind fun high => ?_
    apply FailsOr.pure
    intro _ _ _ i₂ _ i₁ hword i hauth
    exact hstands (.inl hstat) i₁ i₂ i hword hauth
  · split
    · rename_i hstat
      apply FailsOr.pure
      intro i₂ i₁ hword i hauth
      exact hstands (.inr hstat) i₁ i₂ i hword hauth
    · exact FailsOr.throw

/-- A denied reply that is read has a known status. -/
theorem xdrRecvDeniedReply_failsOr : FailsOr .refused xdrRecvDeniedReply
    fun i _ _ => ∃ stat, WordIs i.rest 0 stat ∧ IsRejectStat stat := by
  refine xdrStdRecvUint32_failsOr.bind fun stat => ?_
  split
  · rename_i hstat
    refine xdrStdRecvUint32_failsOr.bind fun low => ?_
    refine xdrStdRecvUint32_failsOr.bind fun high => ?_
    apply FailsOr.pure
    intro _ _ _ _ _ i hword
    exact ⟨stat, hword.1, .inl hstat⟩
  · split
    · rename_i hstat
      refine xdrStdRecvUint32_failsOr.bind fun why => ?_
      apply FailsOr.pure
      intro _ _ _ i hword
      exact ⟨stat, hword.1, .inr hstat⟩
    · exact FailsOr.throw

/-- A header that is read has status words that are known and no verifier body. -/
theorem xdrRecvReplyHeader_failsOr : FailsOr .refused xdrRecvReplyHeader fun i _ _ =>
    StatusWordsValid i.rest ∧ (wordOf i.rest 0 = rpcMsgAccepted → wordOf i.rest 2 = 0) := by
  refine xdrStdRecvUint32_failsOr.bind fun stat => ?_
  split
  · rename_i hstat
    intro i₁
    refine (xdrRecvAcceptedReplyHeader_failsOr i₁).imp_right ?_
    rintro ⟨h, i', hrun, hlen, status, haccept, hknown⟩
    refine ⟨h, i', hrun, fun i ⟨hword, hrest⟩ => ?_⟩
    rw [hrest, wordIs_drop_four] at hlen haccept
    rw [hstat] at hword
    exact ⟨.inl ⟨hword, 0, status, hlen, haccept, hknown⟩, fun _ => hlen.2⟩
  · split
    · rename_i hne hstat
      intro i₁
      refine (xdrRecvDeniedReply_failsOr i₁).imp_right ?_
      rintro ⟨h, i', hrun, status, hreject, hknown⟩
      refine ⟨h, i', hrun, fun i ⟨hword, hrest⟩ => ?_⟩
      rw [hrest, wordIs_drop_four] at hreject
      refine ⟨.inr ⟨hstat ▸ hword, status, hreject, hknown⟩, fun h => ?_⟩
      exact absurd (hword.2.symm.trans h) hne
    · exact FailsOr.throw

/-- The words that a message begins with, one after the other. -/
theorem wordOf_succ_htonl_append (w : Word) (rest : List Byte) (k : Nat) :
    wordOf (htonl w ++ rest) (k + 1) = wordOf rest k := by
  rw [← wordOf_drop_four, List.drop_left' (htonl_length w)]

/-- A verifier with a body does not come back. -/
theorem ReplyHeader.RoundTrips.verifierLength {h : ReplyHeader} (hcan : h.CanEncode)
    (htrips : h.RoundTrips) : h.verifierLength = 0 := by
  cases h with
  | denied stat low high why => rfl
  | accepted verf stat low high =>
    obtain ⟨o, o', hrun⟩ := hcan
    obtain ⟨h', -, hreads⟩ := htrips o o' hrun
    -- the message as it was written, read from where the header starts
    let i : InMsg := ⟨o'.bytes, o.next, o.aligned, o'.bounded⟩
    have hrest : i.rest = (ReplyHeader.accepted verf stat low high).wire := by
      show o'.bytes.drop o.next = _
      rw [xdrSendReplyHeader_appends _ o o' hrun, Outgoing.next, List.drop_left]
    obtain ⟨i', hok, -⟩ := hreads i (List.prefix_refl _)
    rcases xdrRecvReplyHeader_failsOr i with herr | ⟨_, _, _, -, hlen⟩
    · rw [hok] at herr
      cases herr
    · rw [hrest] at hlen
      have haccepted := hlen (wordOf_zero_htonl_append _ _)
      rwa [ReplyHeader.wire, wordOf_succ_htonl_append, OpaqueAuth.wire, List.append_assoc,
        wordOf_succ_htonl_append, List.append_assoc, wordOf_zero_htonl_append] at haccepted

/-- A header without a verifier body comes back. -/
theorem ReplyHeader.roundTrips_of_empty {h : ReplyHeader} (hempty : h.verifierLength = 0) :
    h.RoundTrips := by
  intro o o' hrun
  have hvalid : h.StatusValid := ReplyHeader.CanEncode.statusValid ⟨o, o', hrun⟩
  have hsent : o'.bytes.drop o.next = h.wire := by
    rw [xdrSendReplyHeader_appends h o o' hrun, Outgoing.next, List.drop_left]
  rw [hsent]
  exact hvalid.reads hempty

/-- `MAX_AUTH_BYTES` (rpc/types.h:264). -/
def maxAuthBytes : Nat := 400

/-- A header with known statuses and a verifier as its type allows fits into a message. -/
theorem ReplyHeader.StatusValid.canEncode {h : ReplyHeader} (hvalid : h.StatusValid)
    (hlen : h.verifierLength.toNat ≤ maxAuthBytes) : h.CanEncode := by
  have hwire : h.wire.length ≤ 28 + maxAuthBytes := by
    cases h with
    | accepted verf stat low high =>
      have hverf : verf.oaLength.toNat ≤ maxAuthBytes := hlen
      have hmax : maxAuthBytes = 400 := rfl
      rw [ReplyHeader.wire, List.length_append, List.length_append, List.length_append,
        verf.wire_length, htonl_length, htonl_length]
      split
      · rw [List.length_append, htonl_length, htonl_length]
        omega
      · rw [List.length_nil]
        omega
    | denied stat low high why =>
      rw [ReplyHeader.wire, List.length_append, List.length_append, htonl_length, htonl_length]
      split
      · rw [List.length_append, htonl_length, htonl_length]
        omega
      · rw [htonl_length]
        omega
  have hroom : (msgHead 0 rpcMsgReply).next + h.wire.length ≤ rpcrouterMsgsizeMax := by
    have hhead : (msgHead 0 rpcMsgReply).next = 8 := rfl
    have hsize : rpcrouterMsgsizeMax = 18432 := rfl
    have hmax : maxAuthBytes = 400 := rfl
    omega
  obtain ⟨o', hrun, -⟩ := hvalid.writes _ hroom
  exact ⟨_, o', hrun⟩

/-- **Reply headers without a verifier body**, and only those, are read back with the same
status and up to the first byte after them. Unknown status words are always refused. -/
theorem reply_header_round_trips_iff (h : ReplyHeader) (i : InMsg) :
    (¬ StatusWordsValid i.rest → xdrRecvReplyHeader.run i = .error .refused) ∧
    (h.StatusValid → h.verifierLength.toNat ≤ maxAuthBytes → h.CanEncode) ∧
    (h.CanEncode → (h.RoundTrips ↔ h.verifierLength = 0)) := by
  refine ⟨?_, fun hvalid hlen => hvalid.canEncode hlen, ?_⟩
  · intro hinvalid
    rcases xdrRecvReplyHeader_failsOr i with herr | ⟨_, _, _, hvalid, _⟩
    · exact herr
    · exact absurd hvalid hinvalid
  · intro hcan
    constructor
    · exact ReplyHeader.RoundTrips.verifierLength hcan
    · exact ReplyHeader.roundTrips_of_empty

/-- An accepted reply with a verifier of one byte. -/
def replyWithVerifier : ReplyHeader :=
  .accepted ⟨1, 1, ⟨[0], rfl⟩⟩ rpcAcceptSuccess 0 0

theorem replyWithVerifier_canEncode : replyWithVerifier.CanEncode :=
  ReplyHeader.StatusValid.canEncode (.inr (.inl rfl)) (by decide)

theorem reply_with_verifier_not_read :
    replyWithVerifier.CanEncode ∧ replyWithVerifier.verifierLength.toNat ≤ maxAuthBytes ∧
    ¬ replyWithVerifier.RoundTrips := by
  refine ⟨replyWithVerifier_canEncode, by decide, fun htrips => ?_⟩
  have hlen := ReplyHeader.RoundTrips.verifierLength replyWithVerifier_canEncode htrips
  exact absurd hlen (by decide)

theorem reply_header_round_trips_mismatch :
    (ReplyHeader.accepted authNone rpcProgMismatch 1 2).CanEncode ∧
    (ReplyHeader.accepted authNone rpcProgMismatch 1 2).RoundTrips := by
  obtain ⟨-, hvalid, hiff⟩ := reply_header_round_trips_iff
    (.accepted authNone rpcProgMismatch 1 2) XdrStruct.zero.received
  have hcan := hvalid (.inl rfl) (by decide)
  exact ⟨hcan, (hiff hcan).mpr rfl⟩

/-! ## Calls -/

/-- A CALL: its header words, its credentials, and the arguments. -/
structure CallMsg where
  xid : Word
  prog : Word
  vers : Word
  proc : Word
  cred : OpaqueAuth
  verf : OpaqueAuth
  args : List Byte

/-- What stands before the arguments (svc.c:405–422). -/
def CallMsg.header (m : CallMsg) : List Byte :=
  htonl m.xid ++ (htonl rpcMsgCall ++ (htonl rpcMsgVersion ++ (htonl m.prog ++ (htonl m.vers ++
    (htonl m.proc ++ (m.cred.wire ++ m.verf.wire))))))

def CallMsg.bytes (m : CallMsg) : List Byte := m.header ++ m.args

/-- The dispatch function, if it is called, is called with the program, version and procedure
of the message and with `in_next` at the first byte of the arguments. -/
def RequestRight (svc : RegisteredServer) (x : XdrStruct) (m : CallMsg) : Prop :=
  ∀ req x', svcRequest svc x = some (req, x') →
    req = ⟨m.prog, m.vers, m.proc⟩ ∧ x'.inMsg = x.inMsg ∧ x'.inNext = m.header.length

section Held

variable {x : XdrStruct} {m : CallMsg}

/-- Six words, the credentials and the verifier. -/
theorem CallMsg.header_length (m : CallMsg) :
    m.header.length = 24 + (m.cred.wire.length + m.verf.wire.length) := by
  simp only [CallMsg.header, List.length_append, htonl_length]
  omega

/-- The header is ten words long only without bodies. -/
theorem CallMsg.header_length_eq_iff (m : CallMsg) :
    m.header.length = 40 ↔ m.cred.oaLength = 0 ∧ m.verf.oaLength = 0 := by
  rw [← m.cred.wire_length_eq_iff, ← m.verf.wire_length_eq_iff, m.header_length,
    m.cred.wire_length, m.verf.wire_length]
  omega

/-- A word of the message lies in `in_msg` where it is looked for. -/
theorem wordAt_of_received {bytes : List Byte} (h : x.received.msg = bytes) {k : Nat}
    (hk : 4 * k + 4 ≤ bytes.length) : wordAt x.inMsg k = wordOf bytes k := by
  have hbyte {n : Nat} (hn : n < bytes.length) : x.inMsg n = bytes.getD n 0 := by
    have hlen : n < x.inLen.toNat := by
      rw [← h] at hn
      simpa [XdrStruct.received] using hn
    rw [← h]
    simp [XdrStruct.received, List.getD, hlen]
  rw [wordOf, wordAt, wordAt, hbyte (by omega), hbyte (by omega), hbyte (by omega),
    hbyte (by omega)]

/-- The words that `svc_dispatch` looks at. -/
theorem CallMsg.words (h : x.received.msg = m.bytes) :
    wordAt x.inMsg 1 = rpcMsgCall ∧ wordAt x.inMsg 3 = m.prog ∧ wordAt x.inMsg 4 = m.vers ∧
      wordAt x.inMsg 5 = m.proc := by
  have hlen : 24 ≤ m.bytes.length := by
    rw [CallMsg.bytes, List.length_append, m.header_length]
    omega
  rw [wordAt_of_received h (by omega), wordAt_of_received h (by omega),
    wordAt_of_received h (by omega), wordAt_of_received h (by omega)]
  simp only [CallMsg.bytes, CallMsg.header, List.append_assoc, wordOf_succ_htonl_append,
    wordOf_zero_htonl_append, and_self]

/-- The server accepts a CALL for its program and version. -/
theorem accepts_iff {svc : RegisteredServer} (h : x.received.msg = m.bytes) :
    svc.accepts x ↔ m.prog = svc.xProg ∧ m.vers = x.xVers := by
  obtain ⟨hcall, hprog, hvers, -⟩ := CallMsg.words h
  rw [RegisteredServer.accepts, hcall, hprog, hvers]
  exact and_iff_right rfl

end Held

/-- The call for `proc` as `clnt_call` sends it, with these arguments. -/
def XdrStruct.callMsg (x : XdrStruct) (proc : Word) (args : List Byte) : CallMsg :=
  ⟨x.xid + 1, x.xProg, x.xVers, proc, authNone, authNone, args⟩

/-- What `clnt_call` writes is the CALL with the client's program and version. -/
theorem encodeCall_bytes {x x' : XdrStruct} {proc : Word} {xdrArgs : Send Unit} {args : List Byte}
    (hargs : Appends xdrArgs args) (h : encodeCall x proc xdrArgs = .ok x') :
    x'.outMsg.bytes = (x.callMsg proc args).bytes := by
  obtain ⟨o, hrun, rfl⟩ := XdrStruct.send_eq_ok h
  have hheader : Appends (xdrCallHeader x.xProg x.xVers proc authNone authNone)
      (htonl rpcMsgVersion ++ (htonl x.xProg ++ (htonl x.xVers ++ (htonl proc ++
        (authNone.wire ++ authNone.wire))))) :=
    (xdrStdSendUint32_appends _).bind ((xdrStdSendUint32_appends _).bind
      ((xdrStdSendUint32_appends _).bind ((xdrStdSendUint32_appends _).bind
        ((xdrSendAuth_appends _).bind (xdrSendAuth_appends _)))))
  have hbytes := hheader.bind hargs _ _ hrun
  show o.bytes = _
  rw [hbytes]
  simp only [CallMsg.bytes, CallMsg.header, XdrStruct.callMsg, List.append_assoc]
  rfl

/-- A CALL for this server is handed on as it is, if and only if its bodies are empty. -/
theorem requestRight_iff {svc : RegisteredServer} {x : XdrStruct} {m : CallMsg}
    (h : x.received.msg = m.bytes) :
    RequestRight svc x m ↔
      ¬ (m.prog = svc.xProg ∧ m.vers = x.xVers) ∨ m.cred.oaLength = 0 ∧ m.verf.oaLength = 0 := by
  have haccepts : svc.accepts x ↔ m.prog = svc.xProg ∧ m.vers = x.xVers := accepts_iff h
  obtain ⟨-, hprog, hvers, hproc⟩ := CallMsg.words h
  rw [← haccepts, ← m.header_length_eq_iff, RequestRight, svcRequest, hprog, hvers, hproc]
  by_cases hacc : svc.accepts x
  · rw [if_pos hacc]
    constructor
    · intro hright
      obtain ⟨-, -, hnext⟩ := hright _ _ rfl
      exact .inr hnext.symm
    · rintro (hno | hlen) req x' hreq
      · exact absurd hacc hno
      · cases hreq
        exact ⟨rfl, rfl, hlen.symm⟩
  · rw [if_neg hacc]
    constructor
    · intro _
      exact .inl hacc
    · intro _ req x' hreq
      cases hreq

/-- **Arguments are found** in a CALL that is not for this server, and in one whose credentials
and verifier have no bodies; `clnt_call` sends no others. -/
theorem call_arguments_found_iff (svc : RegisteredServer) (x : XdrStruct) :
    (∀ m : CallMsg, x.received.msg = m.bytes →
      (RequestRight svc x m ↔ ¬ (m.prog = svc.xProg ∧ m.vers = x.xVers) ∨
        m.cred.oaLength = 0 ∧ m.verf.oaLength = 0)) ∧
    ∀ (client client' : XdrStruct) (proc : Word) (xdrArgs : Send Unit) (args : List Byte),
      Appends xdrArgs args → encodeCall client proc xdrArgs = .ok client' →
      client'.outMsg.bytes = (client.callMsg proc args).bytes ∧
      (x.received.msg = client'.outMsg.bytes → RequestRight svc x (client.callMsg proc args)) := by
  constructor
  · intro m h
    exact requestRight_iff h
  · intro client client' proc xdrArgs args hargs hcall
    have hbytes := encodeCall_bytes hargs hcall
    refine ⟨hbytes, fun h => ?_⟩
    exact (requestRight_iff (h.trans hbytes)).mpr (.inr ⟨rfl, rfl⟩)

/-- A CALL with credentials of four bytes and one word of arguments. -/
def callWithCredentials : CallMsg :=
  ⟨7, 0x3000005d, 1, 2, ⟨1, 4, ⟨[0, 0, 0, 9], rfl⟩⟩, authNone, htonl 5⟩

/-- The XDR of a server for this program, after `svc_context` has read the message. -/
def callWithCredentialsRead : XdrStruct :=
  (xdrStdRead { XdrStruct.zero with xProg := 0x3000005d, xVers := 1 }
    (some ⟨callWithCredentials.bytes, by decide⟩)).2

theorem callWithCredentialsRead_received :
    callWithCredentialsRead.received.msg = callWithCredentials.bytes := by
  decide

theorem call_with_credentials_misread :
    callWithCredentials.cred.oaLength.toNat ≤ maxAuthBytes ∧
    callWithCredentialsRead.received.msg = callWithCredentials.bytes ∧
    (svcRequest (svcRegister 0x3000005d 1) callWithCredentialsRead).isSome ∧
    ¬ RequestRight (svcRegister 0x3000005d 1) callWithCredentialsRead callWithCredentials := by
  refine ⟨by decide, callWithCredentialsRead_received, by decide, ?_⟩
  rw [requestRight_iff callWithCredentialsRead_received]
  decide

theorem call_arguments_found_elsewhere :
    RequestRight (svcRegister 0x3000005e 1) callWithCredentialsRead callWithCredentials ∧
    ∃ client', encodeCall XdrStruct.zero 1 (pure ()) = .ok client' ∧
      client'.outMsg.bytes = (XdrStruct.zero.callMsg 1 []).bytes := by
  constructor
  · obtain ⟨hiff, -⟩ := call_arguments_found_iff (svcRegister 0x3000005e 1)
      callWithCredentialsRead
    refine (hiff _ callWithCredentialsRead_received).mpr (.inl ?_)
    decide
  · refine ⟨_, rfl, ?_⟩
    obtain ⟨-, hsent⟩ := call_arguments_found_iff (svcRegister 0x3000005e 1)
      callWithCredentialsRead
    exact (hsent _ _ 1 _ [] Appends.pure rfl).1

end Ancora.Rpc
