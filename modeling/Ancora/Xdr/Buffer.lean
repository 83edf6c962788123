import Mathlib.Tactic.IntervalCases
import Ancora.Lib.Stream

/-!
# The message buffers (librpc/svc_clnt_common.c:115–254)

`xdr->out_msg` is filled up to `out_next`, `xdr->in_msg` holds `in_len` bytes of
which `in_next` are read. `xdr_std_msg_start` and `xdr_std_read` begin at a
multiple of 4, and each operation keeps it, so this is part of the two types.

An operation of the source returns TRUE or FALSE; here FALSE is the exception
`Halt.refused`. The bounds checks of `xdr_std_send_bytes` and
`xdr_std_recv_bytes` compute in 32 bits, so there are lengths for which the check
passes and the copy leaves the buffer: `Halt.overrun`.

- `xdrStdSendUint32_writes`, `xdrStdSendBytes_writes`: what is appended when it
  fits, with the padding loop.
- `xdrStdRecvUint32_reads`, `xdrStdRecvBytes_reads`: the same bytes are read, with
  the cursor rounded by a mask.
-/

namespace Ancora.Xdr

open Stream

abbrev Byte := BitVec 8

/-- `RPCROUTER_MSGSIZE_MAX` (rpc/types.h:387). -/
def rpcrouterMsgsizeMax : Nat := 18432

/-- How an operation can stop: it returned FALSE, or it left its buffer. -/
inductive Halt
  | refused
  | overrun
  deriving DecidableEq, Repr

/-- `out_msg[0, out_next)`. -/
abbrev OutMsg := Outgoing Byte 4 rpcrouterMsgsizeMax

/-- `in_msg[0, in_len)` and `in_next`. -/
abbrev InMsg := Incoming Byte 4 rpcrouterMsgsizeMax

abbrev Send := StateT OutMsg (Except Halt)

abbrev Recv := StateT InMsg (Except Halt)

/-! ## Words -/

/-- The bytes of `htonl(w)` as they lie in memory: the highest one first. -/
def htonl (w : BitVec 32) : List Byte :=
  [w.extractLsb' 24 8, w.extractLsb' 16 8, w.extractLsb' 8 8, w.extractLsb' 0 8]

/-- `ntohl` of the word that lies in memory as these bytes. -/
def ntohl (bytes : List Byte) : BitVec 32 :=
  BitVec.ofNat 32 (bytes.foldl (fun acc b => acc * 256 + b.toNat) 0)

@[simp] theorem htonl_length (w : BitVec 32) : (htonl w).length = 4 := rfl

/-- A word is found again in its bytes. -/
theorem ntohl_htonl (w : BitVec 32) : ntohl (htonl w) = w := by
  apply BitVec.eq_of_toNat_eq
  have hw : w.toNat < 2 ^ 32 := w.isLt
  simp only [ntohl, htonl, List.foldl_cons, List.foldl_nil, BitVec.toNat_ofNat,
    BitVec.extractLsb'_toNat, Nat.shiftRight_eq_div_pow]
  omega

/-- Four bytes are found again from the word they make. -/
theorem htonl_ntohl (a b c d : Byte) : htonl (ntohl [a, b, c, d]) = [a, b, c, d] := by
  have ha := a.isLt
  have hb := b.isLt
  have hc := c.isLt
  have hd := d.isLt
  simp only [htonl, ntohl, List.foldl_cons, List.foldl_nil, List.cons.injEq, and_true]
  refine ⟨?_, ?_, ?_, ?_⟩ <;> apply BitVec.eq_of_toNat_eq <;>
    simp only [BitVec.extractLsb'_toNat, BitVec.toNat_ofNat, Nat.shiftRight_eq_div_pow] <;> omega

/-- A word keeps the message aligned. -/
theorem aligned_append_htonl (o : OutMsg) (w : BitVec 32) :
    4 ∣ (o.bytes ++ htonl w).length := by
  rw [List.length_append]
  exact Nat.dvd_add o.aligned (Nat.dvd_refl 4)

/-- After the test of the room a word fits into the message. -/
theorem bounded_append_htonl {o : OutMsg} (w : BitVec 32)
    (h : ¬ o.next ≥ rpcrouterMsgsizeMax - 3) :
    (o.bytes ++ htonl w).length ≤ rpcrouterMsgsizeMax := by
  rw [List.length_append, htonl_length]
  simp only [Outgoing.next] at h
  omega

/-- `xdr_std_send_uint32` (svc_clnt_common.c:115–121). -/
def xdrStdSendUint32 (value : BitVec 32) : Send Unit := fun o =>
  if h : o.next ≥ rpcrouterMsgsizeMax - 3 then .error .refused
  else .ok ((), {
    bytes := o.bytes ++ htonl value
    aligned := aligned_append_htonl o value
    bounded := bounded_append_htonl value h })

/-- `xdr_std_send_int32` (svc_clnt_common.c:147–150). -/
def xdrStdSendInt32 : BitVec 32 → Send Unit := xdrStdSendUint32

theorem aligned_add_four (i : InMsg) : 4 ∣ i.next + 4 :=
  Nat.dvd_add i.aligned (Nat.dvd_refl 4)

/-- `xdr_std_recv_uint32` (svc_clnt_common.c:196–210). -/
def xdrStdRecvUint32 : Recv (BitVec 32) := fun i =>
  if i.next + 4 > i.msg.length then .error .refused
  else .ok (ntohl (i.rest.take 4), { i with next := i.next + 4, aligned := aligned_add_four i })

/-- `xdr_std_recv_int32` (svc_clnt_common.c:242–245). -/
def xdrStdRecvInt32 : Recv (BitVec 32) := xdrStdRecvUint32

/-- A word is written where there is room for it. -/
theorem xdrStdSendUint32_writes (w : BitVec 32) : Writes (xdrStdSendUint32 w) (htonl w) := by
  intro o hfit
  have hroom : ¬ o.next ≥ rpcrouterMsgsizeMax - 3 := by
    rw [htonl_length] at hfit
    omega
  exact ⟨_, dif_neg hroom, rfl⟩

/-- A word is read where it lies. -/
theorem xdrStdRecvUint32_reads (w : BitVec 32) : Reads xdrStdRecvUint32 (htonl w) w := by
  intro i ⟨post, hrest⟩
  have hlen : 4 ≤ i.rest.length := by
    rw [← hrest, List.length_append, htonl_length]
    omega
  have hroom : ¬ i.next + 4 > i.msg.length := by
    rw [Incoming.rest, List.length_drop] at hlen
    omega
  have hword : ntohl (i.rest.take 4) = w := by
    rw [← hrest, List.take_left' (htonl_length w), ntohl_htonl]
  rw [StateT.run, xdrStdRecvUint32, if_neg hroom, hword]
  exact ⟨_, rfl, rfl, rfl⟩

/-! ## Byte strings -/

/-- `while(xdr->out_next % 4) xdr->out_msg[xdr->out_next++] = 0;` -/
def padLoop (bytes : List Byte) : List Byte :=
  if bytes.length % 4 = 0 then bytes else padLoop (bytes ++ [0])
  termination_by (4 - bytes.length % 4) % 4
  decreasing_by
    rw [List.length_append, List.length_singleton]
    omega

/-- The zero bytes that bring `n` to a multiple of 4. -/
def padding (n : Nat) : List Byte := List.replicate ((4 - n % 4) % 4) 0

/-- The padding goes up to a multiple of four. -/
theorem padding_length (n : Nat) : (padding n).length = (4 - n % 4) % 4 := by
  simp [padding]

/-- The loop that pads writes the padding. -/
theorem padLoop_eq (bytes : List Byte) : padLoop bytes = bytes ++ padding bytes.length := by
  induction bytes using padLoop.induct with
  | case1 bytes h =>
    rw [padLoop, if_pos h, padding, h]
    simp
  | case2 bytes h ih =>
    have hstep : (4 - bytes.length % 4) % 4 = (4 - (bytes.length + 1) % 4) % 4 + 1 := by
      omega
    rw [padLoop, if_neg h, ih, List.length_append, List.length_singleton, List.append_assoc,
      padding, padding, hstep, List.replicate_succ, List.singleton_append]

/-- After the padding the message is aligned again. -/
theorem aligned_padLoop (bytes : List Byte) : 4 ∣ (padLoop bytes).length := by
  rw [padLoop_eq, List.length_append, padding_length]
  omega

/-- The padding of bytes that fit into the message fits as well, for the size of the message is a
multiple of four. -/
theorem bounded_padLoop {o : OutMsg} {n : Nat} (buf : List.Vector Byte n)
    (h : ¬ o.next + n > rpcrouterMsgsizeMax) :
    (padLoop (o.bytes ++ buf.toList)).length ≤ rpcrouterMsgsizeMax := by
  have hmax : 4 ∣ rpcrouterMsgsizeMax := by decide
  rw [padLoop_eq, List.length_append, padding_length, List.length_append,
    List.Vector.toList_length]
  simp only [Outgoing.next] at h
  omega

/-- `xdr_std_send_bytes` (svc_clnt_common.c:152–161). -/
def xdrStdSendBytes (len : BitVec 32) (buf : List.Vector Byte len.toNat) : Send Unit := fun o =>
  -- `out_next + len` is an unsigned 32-bit sum, the copy loop runs `len` times
  if (BitVec.ofNat 32 o.next + len).toNat > rpcrouterMsgsizeMax then .error .refused
  else if h : o.next + len.toNat > rpcrouterMsgsizeMax then .error .overrun
  else .ok ((), {
    bytes := padLoop (o.bytes ++ buf.toList)
    aligned := aligned_padLoop _
    bounded := bounded_padLoop buf h })

/-- `(n + 3) & ~3` on an `int`. -/
def roundUp (n : Nat) : Nat := ((BitVec.ofNat 32 n + 3#32) &&& ~~~3#32).toNat

/-- The mask clears the two lowest bits. -/
theorem and_not_three (x : BitVec 32) : (x &&& ~~~3#32).toNat = x.toNat / 4 * 4 := by
  have hshift : x &&& ~~~3#32 = x >>> 2 <<< 2 := by
    ext k hk
    simp only [BitVec.getElem_and, BitVec.getElem_not, BitVec.getElem_shiftLeft]
    interval_cases k <;> simp
  rw [hshift, BitVec.toNat_shiftLeft, BitVec.toNat_ushiftRight, Nat.shiftLeft_eq,
    Nat.shiftRight_eq_div_pow]
  omega

theorem dvd_roundUp (n : Nat) : 4 ∣ roundUp n := by
  rw [roundUp, and_not_three]
  exact Nat.dvd_mul_left 4 _

/-- Without a wrap-around, rounding up adds the padding. -/
theorem roundUp_eq {n : Nat} (h : n + 3 < 2 ^ 32) : roundUp n = n + (4 - n % 4) % 4 := by
  have hsum : (BitVec.ofNat 32 n + 3#32).toNat = n + 3 := by
    rw [BitVec.toNat_add, BitVec.toNat_ofNat, BitVec.toNat_ofNat]
    omega
  rw [roundUp, and_not_three, hsum]
  omega

/-- After the test of the length there are as many bytes left. -/
theorem rest_take_length {i : InMsg} {n : Nat} (h : ¬ i.next + n > i.msg.length) :
    (i.rest.take n).length = n := by
  rw [List.length_take, Incoming.rest, List.length_drop]
  omega

/-- `xdr_std_recv_bytes` (svc_clnt_common.c:247–254). -/
def xdrStdRecvBytes (len : BitVec 32) : Recv (List.Vector Byte len.toNat) := fun i =>
  -- `in_next + (int)len` is a signed 32-bit sum, `memcpy` takes `len` as it is
  if (BitVec.ofNat 32 i.next + len).toInt > i.msg.length then .error .refused
  else if h : i.next + len.toNat > i.msg.length then .error .overrun
  else .ok (⟨i.rest.take len.toNat, rest_take_length h⟩, {
    i with next := roundUp (i.next + len.toNat), aligned := dvd_roundUp _ })

/-- Bytes behind an aligned message are padded as they would be alone. -/
theorem padLoop_append (o : OutMsg) {len : BitVec 32} (buf : List.Vector Byte len.toNat) :
    padLoop (o.bytes ++ buf.toList) = o.bytes ++ (buf.toList ++ padding len.toNat) := by
  have hpad : padding (o.bytes ++ buf.toList).length = padding len.toNat := by
    have haligned := o.aligned
    rw [padding, padding, List.length_append, List.Vector.toList_length]
    congr 1
    omega
  rw [padLoop_eq, hpad, List.append_assoc]

/-- Bytes are written with their padding where there is room for both. -/
theorem xdrStdSendBytes_writes (len : BitVec 32) (buf : List.Vector Byte len.toNat) :
    Writes (xdrStdSendBytes len buf) (buf.toList ++ padding len.toNat) := by
  intro o hfit
  have hmax : rpcrouterMsgsizeMax = 18432 := rfl
  rw [List.length_append, List.Vector.toList_length] at hfit
  have hsum : (BitVec.ofNat 32 o.next + len).toNat = o.next + len.toNat := by
    rw [BitVec.toNat_add, BitVec.toNat_ofNat]
    omega
  have hcheck : ¬ (BitVec.ofNat 32 o.next + len).toNat > rpcrouterMsgsizeMax := by omega
  have hcopy : ¬ o.next + len.toNat > rpcrouterMsgsizeMax := by omega
  exact ⟨_, (if_neg hcheck).trans (dif_neg hcopy), padLoop_append o buf⟩

/-- Not for `len = 0`: with `in_next` rounded past an `in_len` that is no multiple
of 4, the check refuses even an empty copy. -/
theorem xdrStdRecvBytes_reads (len : BitVec 32) (hne : len ≠ 0)
    (buf : List.Vector Byte len.toNat) :
    Reads (xdrStdRecvBytes len) (buf.toList ++ padding len.toNat) buf := by
  intro i ⟨post, hrest⟩
  have hpos : 0 < len.toNat := BitVec.toNat_pos_of_ne_zero hne
  have hmax : rpcrouterMsgsizeMax = 18432 := rfl
  have hbound := i.bounded
  have hlen : len.toNat + (padding len.toNat).length ≤ i.rest.length := by
    rw [← hrest, List.length_append, List.length_append, List.Vector.toList_length]
    omega
  rw [Incoming.rest, List.length_drop, padding_length] at hlen
  have hsum : (BitVec.ofNat 32 i.next + len).toNat = i.next + len.toNat := by
    rw [BitVec.toNat_add, BitVec.toNat_ofNat]
    omega
  have hcheck : ¬ (BitVec.ofNat 32 i.next + len).toInt > i.msg.length := by
    rw [BitVec.toInt_eq_toNat_of_lt (by omega), hsum]
    omega
  have hcopy : ¬ i.next + len.toNat > i.msg.length := by omega
  have hbuf : i.rest.take len.toNat = buf.toList := by
    rw [← hrest, List.append_assoc, List.take_left' buf.toList_length]
  have hnext : roundUp (i.next + len.toNat) =
      i.next + (buf.toList ++ padding len.toNat).length := by
    have haligned := i.aligned
    rw [roundUp_eq (by omega), List.length_append, List.Vector.toList_length, padding_length]
    omega
  refine ⟨{ i with next := roundUp (i.next + len.toNat), aligned := dvd_roundUp _ },
    (if_neg hcheck).trans ((dif_neg hcopy).trans ?_), rfl, hnext⟩
  congr 2
  exact Subtype.ext hbuf

end Ancora.Xdr
