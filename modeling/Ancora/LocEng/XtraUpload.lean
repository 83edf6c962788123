import Mathlib.Algebra.Order.Floor.Div
import Mathlib.Data.List.Range
import Ancora.Xdr.Buffer

/-!
# The XTRA upload (loc_eng_xtra.cpp:111–196)

`qct_loc_eng_inject_xtra_data_one` sends the downloaded orbit data to the modem in parts of
1024 bytes. It counts the parts in a `uint8` and the bytes already sent in a `uint16`, while
the number of parts is an `int`. So the offset starts again at 0 after 64 parts, and a count
of 256 parts or more is never reached.

- `injectLoop`: the loop, with the outcome of each ioctl chosen by the environment.
- `Complete data sent`: the parts `sent` are the upload of `data`.
- `UploadsWell data`: without a failure the loop ends with the whole upload; after a failure
  it ends with an error and a beginning of the upload.
- **`upload_iff`**: this is so up to 64 parts, and beyond that only for data in whole parts,
  at most 255 of them, that repeats itself every 65536 bytes.
-/

namespace Ancora.LocEng.Upload

open Xdr

/-- `XTRA_BLOCK_SIZE`. -/
def xtraBlockSize : Nat := 1024

/-- `EIO`, as `ret_val` is returned. -/
def eio : Int := 5

/-- `rpc_loc_predicted_orbits_data_s_type` as one ioctl sends it, with the place that
`data_ptr_val` points to in the buffer. -/
structure OrbitsPart where
  formatType : BitVec 32
  totalSize : BitVec 32
  totalParts : BitVec 8
  part : BitVec 8
  partLen : BitVec 16
  dataPtrLen : BitVec 32
  offset : Nat
  /-- Sent with `loc_eng_ioctl`, which waits for the callback. -/
  waits : Bool
  deriving DecidableEq, Repr

/-- `(length - 1) / XTRA_BLOCK_SIZE + 1`. -/
def totalParts (length : Nat) : Nat := (length - 1) / xtraBlockSize + 1

/-- What an iteration of the loop fills in. -/
def orbitsPart (length : Nat) (part : BitVec 8) (lenInjected : BitVec 16) : OrbitsPart :=
  let partLen : BitVec 16 :=
    if (xtraBlockSize : Int) > length - lenInjected.toNat then
      BitVec.ofInt 16 (length - lenInjected.toNat)
    else BitVec.ofNat 16 xtraBlockSize
  { formatType := 0
    totalSize := BitVec.ofNat 32 length
    totalParts := BitVec.ofNat 8 (totalParts length)
    part := part
    partLen := partLen
    dataPtrLen := partLen.setWidth 32
    offset := lenInjected.toNat
    waits := ¬ part.toNat < totalParts length }

/-- The loop of `qct_loc_eng_inject_xtra_data_one`, for at most `fuel` iterations: the parts
that were sent and `ret_val`. The outcome of the ioctl number `k` is `ok k`. -/
def injectLoop (length : Nat) (ok : Nat → Bool) :
    Nat → BitVec 8 → BitVec 16 → List OrbitsPart → Option (List OrbitsPart × Int)
  | 0, _, _, _ => none
  | fuel + 1, part, lenInjected, sent =>
    if part.toNat ≤ totalParts length then
      let p := orbitsPart length part lenInjected
      if part.toNat < totalParts length then
        if ok sent.length then
          injectLoop length ok fuel (part + 1) (lenInjected + p.partLen) (sent ++ [p])
        else some (sent ++ [p], eio)
      else some (sent ++ [p], if ok sent.length then 0 else eio)
    else some (sent, 0)

/-- `qct_loc_eng_inject_xtra_data_one`. -/
def qctLocEngInjectXtraDataOne (fuel length : Nat) (ok : Nat → Bool) :
    Option (List OrbitsPart × Int) :=
  injectLoop length ok fuel 1 0 []

/-! ## What an upload is -/

/-- The bytes that the part points to. -/
def OrbitsPart.bytes (data : List Byte) (p : OrbitsPart) : List Byte :=
  (data.drop p.offset).take p.dataPtrLen.toNat

/-- The parts are numbered from 1, full but for the last one, which alone is waited for, and
make up the data. -/
structure Complete (data : List Byte) (sent : List OrbitsPart) : Prop where
  count : sent.length = data.length ⌈/⌉ 1024
  numbered : ∀ k p, sent[k]? = some p →
    p.part.toNat = k + 1 ∧ p.totalParts.toNat = sent.length
  full : ∀ k p, sent[k]? = some p → k + 1 < sent.length → p.partLen.toNat = 1024
  lengths : ∀ p ∈ sent, p.dataPtrLen.toNat = p.partLen.toNat
  content : sent.flatMap (OrbitsPart.bytes data) = data
  inside : ∀ p ∈ sent, p.offset + p.dataPtrLen.toNat ≤ data.length
  waits : ∀ k p, sent[k]? = some p → (p.waits = true ↔ k + 1 = sent.length)

/-- The upload of `data` goes as it should, whatever the ioctls return. -/
structure UploadsWell (data : List Byte) : Prop where
  succeeds : ∀ ok : Nat → Bool, (∀ k, ok k = true) →
    ∃ fuel sent, qctLocEngInjectXtraDataOne fuel data.length ok = some (sent, 0) ∧
      Complete data sent
  fails : ∀ (ok : Nat → Bool) (k : Nat), k < totalParts data.length → ok k = false →
    ∃ fuel sent rc, qctLocEngInjectXtraDataOne fuel data.length ok = some (sent, rc) ∧
      rc ≠ 0 ∧ ∃ all, Complete data all ∧ sent <+: all

/-! ## The loop -/

/-- The part number `k + 1` as the loop fills it in. -/
def partAt (length k : Nat) : OrbitsPart :=
  orbitsPart length (BitVec.ofNat 8 (k + 1)) (BitVec.ofNat 16 (k * 1024))

variable {n k : Nat}

theorem lt_totalParts (h : k + 1 < totalParts n) : k * 1024 + 1024 < n := by
  simp only [totalParts, xtraBlockSize] at h
  omega

theorem le_totalParts (h0 : 0 < n) (h : k < totalParts n) : k * 1024 < n := by
  simp only [totalParts, xtraBlockSize] at h
  omega

theorem partAt_offset : (partAt n k).offset = k * 1024 % 65536 := by
  simp [partAt, orbitsPart]

theorem partAt_partLen (h0 : 0 < n) (h : k < totalParts n) :
    (partAt n k).partLen.toNat = min 1024 (n - k * 1024 % 65536) := by
  have hk := le_totalParts h0 h
  simp only [partAt, orbitsPart, xtraBlockSize, BitVec.toNat_ofNat]
  split
  · simp only [BitVec.toNat_ofInt]
    omega
  · simp only [BitVec.toNat_ofNat]
    omega

theorem partAt_dataPtrLen : (partAt n k).dataPtrLen.toNat = (partAt n k).partLen.toNat := by
  have hlt := (partAt n k).partLen.isLt
  have heq : (partAt n k).dataPtrLen = (partAt n k).partLen.setWidth 32 := rfl
  rw [heq, BitVec.toNat_setWidth]
  omega

theorem partAt_full (h : k + 1 < totalParts n) : (partAt n k).partLen.toNat = 1024 := by
  have hk := lt_totalParts h
  rw [partAt_partLen (by omega) (by omega)]
  omega

/-- One turn of the loop that does not end it. -/
theorem injectLoop_succ {ok : Nat → Bool} {sent : List OrbitsPart} {fuel : Nat}
    (hsmall : totalParts n ≤ 255) (hlen : sent.length = k) (hk : k + 1 < totalParts n)
    (hok : ok k = true) :
    injectLoop n ok (fuel + 1) (BitVec.ofNat 8 (k + 1)) (BitVec.ofNat 16 (k * 1024)) sent =
      injectLoop n ok fuel (BitVec.ofNat 8 (k + 2)) (BitVec.ofNat 16 ((k + 1) * 1024))
        (sent ++ [partAt n k]) := by
  have hpart : (BitVec.ofNat 8 (k + 1)).toNat = k + 1 := by
    rw [BitVec.toNat_ofNat]
    omega
  have hnext : BitVec.ofNat 8 (k + 1) + 1 = BitVec.ofNat 8 (k + 2) := by
    apply BitVec.eq_of_toNat_eq
    simp
  have hsum : BitVec.ofNat 16 (k * 1024) + (partAt n k).partLen =
      BitVec.ofNat 16 ((k + 1) * 1024) := by
    apply BitVec.eq_of_toNat_eq
    rw [BitVec.toNat_add, partAt_full hk, BitVec.toNat_ofNat, BitVec.toNat_ofNat]
    omega
  rw [injectLoop, hpart, if_pos (by omega), if_pos hk, hlen, if_pos hok, hnext]
  exact congrArg (injectLoop n ok fuel _ · _) hsum

/-- The loop up to the part number `j + 1`, as long as the ioctls succeed. -/
theorem injectLoop_until {ok : Nat → Bool} {fuel j : Nat} (hsmall : totalParts n ≤ 255)
    (hj : j < totalParts n) (hok : ∀ i < j, ok i = true) :
    injectLoop n ok (j + fuel) 1 0 [] =
      injectLoop n ok fuel (BitVec.ofNat 8 (j + 1)) (BitVec.ofNat 16 (j * 1024))
        ((List.range j).map (partAt n)) := by
  induction j generalizing fuel with
  | zero => simp
  | succ j ih =>
    have hassoc : j + 1 + fuel = j + (fuel + 1) := by omega
    rw [hassoc, ih (by omega) (fun i hi => hok i (by omega)),
      injectLoop_succ hsmall (by simp) hj (hok j (by omega)), List.range_succ, List.map_append]
    rfl

/-- The loop ends with the last part, or with the first part whose ioctl fails. -/
theorem injectLoop_ends {ok : Nat → Bool} {j : Nat} (hsmall : totalParts n ≤ 255)
    (hj : j < totalParts n) (hok : ∀ i < j, ok i = true)
    (hend : j + 1 = totalParts n ∨ ok j = false) :
    qctLocEngInjectXtraDataOne (j + 1) n ok =
      some ((List.range (j + 1)).map (partAt n), if ok j then 0 else eio) := by
  have hpart : (BitVec.ofNat 8 (j + 1)).toNat = j + 1 := by
    rw [BitVec.toNat_ofNat]
    omega
  rw [qctLocEngInjectXtraDataOne, injectLoop_until hsmall hj hok, injectLoop, hpart,
    if_pos (by omega), List.range_succ, List.map_append, List.length_map, List.length_range]
  by_cases hlast : j + 1 < totalParts n
  · have hfail : ok j = false := hend.resolve_left (by omega)
    simp [hlast, hfail, partAt]
  · simp [hlast, partAt]

/-- With 256 parts or more the counter of the parts never gets there. -/
theorem injectLoop_forever {ok : Nat → Bool} (hlarge : 256 ≤ totalParts n)
    (hok : ∀ k, ok k = true) (fuel : Nat) (part : BitVec 8) (lenInjected : BitVec 16)
    (sent : List OrbitsPart) : injectLoop n ok fuel part lenInjected sent = none := by
  induction fuel generalizing part lenInjected sent with
  | zero => rfl
  | succ fuel ih =>
    have hpart : part.toNat < totalParts n := by
      have hlt := part.isLt
      omega
    rw [injectLoop, if_pos (by omega), if_pos hpart, if_pos (hok _)]
    exact ih _ _ _

/-- The number of iterations bounds nothing but whether the loop has ended. -/
theorem injectLoop_mono {ok : Nat → Bool} {fuel : Nat} {part : BitVec 8}
    {lenInjected : BitVec 16} {sent : List OrbitsPart} {r : List OrbitsPart × Int}
    (h : injectLoop n ok fuel part lenInjected sent = some r) (more : Nat) :
    injectLoop n ok (fuel + more) part lenInjected sent = some r := by
  induction fuel generalizing part lenInjected sent with
  | zero => cases h
  | succ fuel ih =>
    rw [injectLoop] at h
    have hassoc : fuel + 1 + more = fuel + more + 1 := by omega
    rw [hassoc, injectLoop]
    split at h
    · rename_i hle
      rw [if_pos hle]
      split at h
      · rename_i hlt
        simp only [if_pos hlt]
        split at h
        · rename_i hok
          rw [if_pos hok]
          exact ih h
        · rename_i hok
          rw [if_neg hok]
          exact h
      · rename_i hlt
        simp only [if_neg hlt]
        exact h
    · rename_i hle
      rw [if_neg hle]
      exact h

/-! ## The content of the parts -/

theorem partAt_bytes {data : List Byte} (h0 : 0 < data.length)
    (h : k < totalParts data.length) :
    (partAt data.length k).bytes data = (data.drop (k * 1024 % 65536)).take 1024 := by
  have hlen := partAt_partLen h0 h
  rw [OrbitsPart.bytes, partAt_offset, partAt_dataPtrLen, hlen]
  rw [← List.length_drop, List.take_eq_take_iff]
  omega

/-- Blocks cut off at their places make up the data. -/
theorem flatMap_blocks (data : List Byte) (t : Nat) :
    (List.range t).flatMap (fun k => (data.drop (k * 1024)).take 1024) =
      data.take (t * 1024) := by
  induction t with
  | zero => simp
  | succ t ih =>
    rw [List.range_succ, List.flatMap_append, ih, List.flatMap_singleton, Nat.succ_mul,
      List.take_add]

/-- An element of a concatenation of full blocks. -/
theorem flatMap_getElem? {f : Nat → List Byte} {t : Nat}
    (hf : ∀ k < t, (f k).length = 1024) :
    ((List.range t).flatMap f).length = t * 1024 ∧
      ∀ i < t * 1024, ((List.range t).flatMap f)[i]? = (f (i / 1024))[i % 1024]? := by
  induction t with
  | zero => simp
  | succ t ih =>
    obtain ⟨hlen, hget⟩ := ih fun k hk => hf k (by omega)
    rw [List.range_succ, List.flatMap_append, List.flatMap_singleton]
    refine ⟨by rw [List.length_append, hlen, hf t (by omega)]; omega, fun i hi => ?_⟩
    by_cases hlt : i < t * 1024
    · rw [List.getElem?_append_left (by omega)]
      exact hget i hlt
    · have hdiv : i / 1024 = t := by omega
      have hmod : i - t * 1024 = i % 1024 := by omega
      rw [List.getElem?_append_right (by omega), hlen, hdiv, hmod]

/-- The parts of the loop, in order. -/
def parts (data : List Byte) : List OrbitsPart :=
  (List.range (totalParts data.length)).map (partAt data.length)

variable {data : List Byte}

@[simp] theorem parts_length : (parts data).length = totalParts data.length := by
  simp [parts]

theorem parts_getElem? {p : OrbitsPart} (h : (parts data)[k]? = some p) :
    k < totalParts data.length ∧ p = partAt data.length k := by
  simp only [parts, List.getElem?_map, Option.map_eq_some_iff, List.getElem?_eq_some_iff,
    List.length_range, List.getElem_range] at h
  obtain ⟨i, ⟨hk, rfl⟩, rfl⟩ := h
  exact ⟨hk, rfl⟩

theorem mem_parts {p : OrbitsPart} (h : p ∈ parts data) :
    ∃ k < totalParts data.length, p = partAt data.length k := by
  obtain ⟨k, hk, rfl⟩ := List.mem_map.mp h
  exact ⟨k, List.mem_range.mp hk, rfl⟩

theorem parts_flatMap (h0 : 0 < data.length) :
    (parts data).flatMap (OrbitsPart.bytes data) =
      (List.range (totalParts data.length)).flatMap fun k =>
        (data.drop (k * 1024 % 65536)).take 1024 := by
  rw [parts, List.flatMap_map]
  refine List.flatMap_congr fun k hk => ?_
  exact partAt_bytes h0 (List.mem_range.mp hk)

/-- Up to 64 parts the offset does not wrap. -/
theorem content_of_le (h0 : 0 < data.length) (hle : data.length ≤ 65536) :
    (parts data).flatMap (OrbitsPart.bytes data) = data := by
  have ht : totalParts data.length ≤ 64 := by
    simp only [totalParts, xtraBlockSize]
    omega
  have hwhole : data.length ≤ totalParts data.length * 1024 := by
    simp only [totalParts, xtraBlockSize]
    omega
  have hblocks : (List.range (totalParts data.length)).flatMap
      (fun k => (data.drop (k * 1024 % 65536)).take 1024) =
      (List.range (totalParts data.length)).flatMap
        fun k => (data.drop (k * 1024)).take 1024 := by
    refine List.flatMap_congr fun k hk => ?_
    have hk' := List.mem_range.mp hk
    rw [Nat.mod_eq_of_lt (by omega)]
  rw [parts_flatMap h0, hblocks, flatMap_blocks]
  exact List.take_of_length_le hwhole

/-- The data repeats itself every 65536 bytes. -/
def Periodic (data : List Byte) : Prop :=
  ∀ i, i + 65536 < data.length → data[i + 65536]? = data[i]?

theorem Periodic.mod (h : Periodic data) (i : Nat) (hi : i < data.length) :
    data[i % 65536]? = data[i]? := by
  induction i using Nat.strong_induction_on with
  | _ i ih =>
    by_cases hlt : i < 65536
    · rw [Nat.mod_eq_of_lt hlt]
    · have hmod : i % 65536 = (i - 65536) % 65536 := by omega
      have hback : i - 65536 + 65536 = i := by omega
      have hper := h (i - 65536) (by omega)
      rw [hback] at hper
      rw [hmod, ih (i - 65536) (by omega) (by omega), hper]

/-- Beyond 64 parts the loop sends the first 65536 bytes again and again. -/
theorem content_iff_of_gt (hgt : 65536 < data.length) :
    (parts data).flatMap (OrbitsPart.bytes data) = data ↔
      1024 ∣ data.length ∧ Periodic data := by
  have ht : data.length ≤ totalParts data.length * 1024 := by
    simp only [totalParts, xtraBlockSize]
    omega
  have hfull : ∀ k < totalParts data.length,
      ((data.drop (k * 1024 % 65536)).take 1024).length = 1024 := by
    intro k hk
    rw [List.length_take, List.length_drop]
    omega
  obtain ⟨hlen, hget⟩ := flatMap_getElem? hfull
  -- The element at `i` is the one of the block of `i`, which starts below 65536.
  have helem : ∀ i < totalParts data.length * 1024,
      ((parts data).flatMap (OrbitsPart.bytes data))[i]? = data[i % 65536]? := by
    intro i hi
    rw [parts_flatMap (by omega), hget i hi, List.getElem?_take_of_lt (by omega),
      List.getElem?_drop]
    congr 1
    omega
  rw [← parts_flatMap (by omega)] at hlen
  constructor
  · intro heq
    have hwhole : data.length = totalParts data.length * 1024 := by
      rw [← hlen, heq]
    refine ⟨⟨totalParts data.length, by omega⟩, fun i hi => ?_⟩
    have hi' := helem i (by omega)
    have hj := helem (i + 65536) (by omega)
    rw [heq] at hi' hj
    rw [hi', hj, Nat.add_mod_right]
  · rintro ⟨⟨t, htlen⟩, hper⟩
    have hwhole : totalParts data.length * 1024 = data.length := by
      simp only [totalParts, xtraBlockSize]
      omega
    apply List.ext_getElem?
    intro i
    by_cases hi : i < data.length
    · rw [helem i (by omega)]
      exact hper.mod i hi
    · rw [List.getElem?_eq_none (by omega), List.getElem?_eq_none (by omega)]

/-! ## When the upload goes well -/

/-- The condition on the data. -/
def Fits (data : List Byte) : Prop :=
  data.length ≤ 65536 ∨
    data.length ≤ 261120 ∧ 1024 ∣ data.length ∧ Periodic data

theorem totalParts_le_of_fits (h : Fits data) : totalParts data.length ≤ 255 := by
  simp only [totalParts, xtraBlockSize]
  rcases h with h | ⟨h, -, -⟩
  · omega
  · omega

/-- Everything but the content is right whenever the counter of the parts is. -/
theorem complete_parts_iff (h0 : 0 < data.length) (hsmall : totalParts data.length ≤ 255) :
    Complete data (parts data) ↔ Fits data := by
  constructor
  · intro h
    by_cases hle : data.length ≤ 65536
    · exact .inl hle
    · refine .inr ⟨?_, (content_iff_of_gt (by omega)).mp h.content⟩
      simp only [totalParts, xtraBlockSize] at hsmall
      omega
  · intro h
    refine ⟨?_, ?_, ?_, ?_, ?_, ?_, ?_⟩
    · rw [parts_length, Nat.ceilDiv_eq_add_pred_div, totalParts, xtraBlockSize]
      omega
    · intro k p hp
      obtain ⟨hk, rfl⟩ := parts_getElem? hp
      simp only [partAt, orbitsPart, BitVec.toNat_ofNat, parts_length]
      omega
    · intro k p hp hlt
      obtain ⟨-, rfl⟩ := parts_getElem? hp
      rw [parts_length] at hlt
      exact partAt_full hlt
    · intro p hp
      obtain ⟨k, -, rfl⟩ := mem_parts hp
      exact partAt_dataPtrLen
    · rcases h with hle | ⟨-, hdvd, hper⟩
      · exact content_of_le h0 hle
      · by_cases hle : data.length ≤ 65536
        · exact content_of_le h0 hle
        · exact (content_iff_of_gt (by omega)).mpr ⟨hdvd, hper⟩
    · intro p hp
      obtain ⟨k, hk, rfl⟩ := mem_parts hp
      have hk' := le_totalParts h0 hk
      rw [partAt_offset, partAt_dataPtrLen, partAt_partLen h0 hk]
      omega
    · intro k p hp
      obtain ⟨hk, rfl⟩ := parts_getElem? hp
      simp only [partAt, orbitsPart, BitVec.toNat_ofNat, parts_length, decide_eq_true_eq]
      omega

theorem totalParts_pos : 0 < totalParts n := Nat.succ_pos _

/-- An upload that goes well when no ioctl fails is one of data that fits. -/
theorem UploadsWell.fits (h0 : 0 < data.length) (h : UploadsWell data) : Fits data := by
  obtain ⟨fuel, sent, hrun, hcomplete⟩ := h.succeeds (fun _ => true) fun _ => rfl
  by_cases hsmall : totalParts data.length ≤ 255
  · have hpos : 0 < totalParts data.length := totalParts_pos
    have hends : qctLocEngInjectXtraDataOne (totalParts data.length) data.length (fun _ => true) =
        some (parts data, 0) := by
      have hlast := injectLoop_ends hsmall (Nat.sub_lt hpos Nat.one_pos)
        (fun _ _ => rfl : ∀ i < _, (fun _ => true) i = true) (.inl (Nat.sub_add_cancel hpos))
      rwa [Nat.sub_add_cancel hpos] at hlast
    have hboth := injectLoop_mono hends fuel
    rw [Nat.add_comm, injectLoop_mono hrun] at hboth
    simp only [Option.some.injEq, Prod.mk.injEq] at hboth
    rw [hboth.1] at hcomplete
    exact (complete_parts_iff h0 hsmall).mp hcomplete
  · rw [qctLocEngInjectXtraDataOne, injectLoop_forever (by omega) fun _ => rfl] at hrun
    cases hrun

/-- The upload goes well exactly when the data fits. -/
theorem upload_iff (hn : 0 < data.length ∧ data.length < 2 ^ 31) :
    UploadsWell data ↔ Fits data := by
  refine ⟨UploadsWell.fits hn.1, fun h => ?_⟩
  have hpos : 0 < totalParts data.length := totalParts_pos
  have hsmall := totalParts_le_of_fits h
  have hcomplete := (complete_parts_iff hn.1 hsmall).mpr h
  refine ⟨fun ok hok => ?_, fun ok k hk hfail => ?_⟩
  · refine ⟨totalParts data.length - 1 + 1, parts data, ?_, hcomplete⟩
    rw [injectLoop_ends hsmall (by omega) (fun i _ => hok i) (.inl (by omega)),
      Nat.sub_add_cancel hpos, if_pos (hok _)]
    rfl
  · -- The first ioctl that fails ends the loop.
    have hex : ∃ j, ok j = false := ⟨k, hfail⟩
    have hle : Nat.find hex ≤ k := Nat.find_min' hex hfail
    have hbefore : ∀ i < Nat.find hex, ok i = true := by
      intro i hi
      simpa using Nat.find_min hex hi
    refine ⟨_, _, _, injectLoop_ends hsmall (by omega) hbefore (.inr (Nat.find_spec hex)), ?_,
      parts data, hcomplete, ?_⟩
    · rw [Nat.find_spec hex]
      decide
    · have hsub : Nat.find hex + 1 ≤ totalParts data.length := by omega
      rw [parts, List.prefix_map_iff]
      refine ⟨List.range (Nat.find hex + 1), List.prefix_iff_eq_take.mpr ?_, rfl⟩
      rw [List.take_range, List.length_range, Nat.min_eq_left hsub]

/-- Three parts, the last of 452 bytes, and 65 equal ones. -/
theorem upload_short : UploadsWell ((List.range 2500).map (BitVec.ofNat 8)) ∧
    UploadsWell (List.replicate 66560 0) := by
  have hshort : ((List.range 2500).map (BitVec.ofNat 8)).length = 2500 := by
    rw [List.length_map, List.length_range]
  have hlong : (List.replicate 66560 (0 : Byte)).length = 66560 := List.length_replicate
  constructor
  · exact (upload_iff (by omega)).mpr (.inl (by omega))
  · refine (upload_iff (by omega)).mpr (.inr ⟨by omega, by omega, fun i hi => ?_⟩)
    rw [hlong] at hi
    rw [List.getElem?_replicate, List.getElem?_replicate, if_pos (by omega), if_pos (by omega)]

/-- The 65th part of 65537 bytes is sent as the first 1024 bytes once more. -/
theorem upload_wraps : ¬ UploadsWell (List.replicate 65537 0) := by
  intro h
  have hlen : (List.replicate 65537 (0 : Byte)).length = 65537 := List.length_replicate
  rcases h.fits (by omega) with hle | ⟨-, hdvd, -⟩
  · omega
  · rw [hlen] at hdvd
    omega

end Ancora.LocEng.Upload
