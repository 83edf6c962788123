import Mathlib.Data.List.TakeWhile
import Ancora.Xdr.Buffer

/-!
# The XDR routines (librpc/xdr.c)

One routine serves both directions; here its `XDR_ENCODE` part and its
`XDR_DECODE` part are the two fields of a `Codec`. Decoding is into zeroed
storage, where every pointer is NULL and is allocated, and allocations succeed.

Each routine is followed by what it does on the wire, as a `Faithful` lemma: which
values it accepts, the bytes that stand for them, and the value that comes back.
A routine with element routines is faithful when they are.

- 32-bit scalars: `int32Codec`, `uint32Codec`; narrower ones: `narrow`; two words:
  `xdrUHyper`, `xdrDouble`; `xdrBool`.
- Byte strings: `xdrOpaque`, `xdrBytes`, `xdrString`.
- Loops and indirections: `xdrVector`, `xdrArray`, `xdrPointer`.
- What rpcgen writes around them: `xdrVoid`, `xdrFields`, `xdrUnion`.
-/

namespace Ancora.Xdr

open Stream

/-- The two directions of an XDR routine. -/
structure Codec (α : Type) where
  encode : α → Send Unit
  decode : Recv α

variable {α δ : Type}

/-- On the values `valid`, encoding appends `wire` and decoding `wire` gives
`norm`. -/
structure Codec.Faithful (c : Codec α) (valid : α → Prop) (wire : α → List Byte)
    (norm : α → α) : Prop where
  writes : ∀ a, valid a → Writes (c.encode a) (wire a)
  reads : ∀ a, valid a → Reads c.decode (wire a) (norm a)

/-! ## Scalars -/

/-- The body of `xdr_enum`, `xdr_long` and `xdr_int`. -/
def int32Codec : Codec (BitVec 32) := ⟨xdrStdSendInt32, xdrStdRecvInt32⟩

/-- The body of `xdr_u_int` and `xdr_u_long`. -/
def uint32Codec : Codec (BitVec 32) := ⟨xdrStdSendUint32, xdrStdRecvUint32⟩

/-- `xdr_enum` (xdr.c:68–81). -/
def xdrEnum : Codec (BitVec 32) := int32Codec

/-- `xdr_u_int` (xdr.c:83–96). -/
def xdrUInt : Codec (BitVec 32) := uint32Codec

/-- `xdr_long` (xdr.c:107–120). -/
def xdrLong : Codec (BitVec 32) := int32Codec

/-- `xdr_u_long` (xdr.c:122–135). -/
def xdrULong : Codec (BitVec 32) := uint32Codec

/-- `xdr_int` (xdr.c:396–410). -/
def xdrInt : Codec (BitVec 32) := int32Codec

/-- `xdr_float` (loc_api_fixup.c:35–40): the bits of the `float` as a `long`. -/
def xdrFloat : Codec (BitVec 32) := xdrLong

/-- A word is four bytes and comes back as it is. -/
theorem uint32Codec_faithful : uint32Codec.Faithful (fun _ => True) htonl id where
  writes v _ := xdrStdSendUint32_writes v
  reads v _ := xdrStdRecvUint32_reads v

/-- A scalar that travels as a 32-bit one: extended on the way out, cut back on
the way in. -/
def narrow {w : Nat} (extend : BitVec w → BitVec 32) (word : Codec (BitVec 32)) :
    Codec (BitVec w) where
  encode v := word.encode (extend v)
  decode := do
    let l ← word.decode
    pure (l.setWidth w)

/-- `xdr_u_char` (xdr.c:98–105). -/
def xdrUChar : Codec (BitVec 8) := narrow (·.setWidth 32) xdrUInt

/-- `xdr_u_short` (xdr.c:171–191). -/
def xdrUShort : Codec (BitVec 16) := narrow (·.setWidth 32) uint32Codec

/-- `xdr_char` (xdr.c:432–440); `char` is unsigned on the target. -/
def xdrChar : Codec (BitVec 8) := narrow (·.setWidth 32) xdrInt

/-- `xdr_short` (xdr.c:448–466). -/
def xdrShort : Codec (BitVec 16) := narrow (·.signExtend 32) int32Codec

/-- A short integer is sent as a word, and its upper bits are dropped again. -/
theorem narrow_faithful {w : Nat} {extend : BitVec w → BitVec 32}
    (hextend : ∀ v, (extend v).setWidth w = v) :
    (narrow extend uint32Codec).Faithful (fun _ => True) (fun v => htonl (extend v)) id where
  writes v _ := xdrStdSendUint32_writes (extend v)
  reads v _ := by
    have h := (xdrStdRecvUint32_reads (extend v)).map (·.setWidth w)
    rwa [hextend v] at h

theorem setWidth_signExtend (v : BitVec 16) : (v.signExtend 32).setWidth 16 = v := by
  ext k hk
  rw [BitVec.getElem_setWidth, BitVec.getLsbD_signExtend, if_pos hk,
    BitVec.getLsbD_eq_getElem hk]
  simp only [Bool.and_eq_right_iff_imp, decide_eq_true_eq]
  omega

/-- A 64-bit scalar as two words, the high one first. -/
def twoWords (high low : BitVec 64 → BitVec 32) (join : BitVec 32 → BitVec 32 → BitVec 64)
    (word : Codec (BitVec 32)) : Codec (BitVec 64) where
  encode v := do
    word.encode (high v)
    word.encode (low v)
  decode := do
    let t1 ← word.decode
    let t2 ← word.decode
    pure (join t1 t2)

/-- `xdr_u_hyper` (xdr.c:141–163). -/
def xdrUHyper : Codec (BitVec 64) :=
  twoWords (fun v => (v >>> 32).setWidth 32) (·.setWidth 32)
    (fun t1 t2 => t1.setWidth 64 <<< 32 ||| t2.setWidth 64) int32Codec

/-- `xdr_double` (loc_api_fixup.c:43–50): the word at the higher address is the
high one. -/
def xdrDouble : Codec (BitVec 64) :=
  twoWords (·.extractLsb' 32 32) (·.extractLsb' 0 32) (fun high low => high ++ low) xdrLong

/-- A 64-bit value on the wire. -/
def wire64 (v : BitVec 64) : List Byte :=
  htonl (v.extractLsb' 32 32) ++ htonl (v.extractLsb' 0 32)

/-- A hyper integer is sent as its two words, the higher one first. -/
theorem twoWords_faithful {high low : BitVec 64 → BitVec 32}
    {join : BitVec 32 → BitVec 32 → BitVec 64} (hjoin : ∀ v, join (high v) (low v) = v) :
    (twoWords high low join uint32Codec).Faithful (fun _ => True)
      (fun v => htonl (high v) ++ htonl (low v)) id where
  writes v _ := (xdrStdSendUint32_writes (high v)).bind (xdrStdSendUint32_writes (low v))
  reads v _ := by
    have hlow := (xdrStdRecvUint32_reads (low v)).map (join (high v))
    rw [hjoin v] at hlow
    exact (xdrStdRecvUint32_reads (high v)).bind hlow

/-- `xdr_double` sends the bits of the number. -/
theorem xdrDouble_faithful : xdrDouble.Faithful (fun _ => True) wire64 id := by
  apply twoWords_faithful
  intro v
  ext k hk
  rw [BitVec.getElem_append]
  by_cases h : k < 32
  · simp [h, BitVec.getLsbD_eq_getElem hk]
  · simp [h, Nat.add_sub_of_le (Nat.le_of_not_lt h), BitVec.getLsbD_eq_getElem hk]

/-- `xdr_u_hyper` sends all 64 bits. -/
theorem xdrUHyper_faithful : xdrUHyper.Faithful (fun _ => True) wire64 id := by
  have hlow (v : BitVec 64) : v.setWidth 32 = v.extractLsb' 0 32 := by
    ext k hk
    simp
  have hjoin (v : BitVec 64) : ((v >>> 32).setWidth 32).setWidth 64 <<< 32 |||
      (v.setWidth 32).setWidth 64 = v := by
    ext k hk
    by_cases h : k < 32
    · simp [h, BitVec.getLsbD_eq_getElem hk]
    · simp [h, Nat.add_sub_of_le (Nat.le_of_not_lt h), BitVec.getLsbD_eq_getElem hk]
      omega
  have h : xdrUHyper.Faithful (fun _ => True)
      (fun v => htonl ((v >>> 32).setWidth 32) ++ htonl (v.setWidth 32)) id :=
    twoWords_faithful hjoin
  simp only [hlow] at h
  exact h

/-- `xdr_bool` (xdr.c:222–242). -/
def xdrBool : Codec (BitVec 32) where
  encode b := xdrStdSendUint32 (if b ≠ 0 then 1 else 0)
  decode := do
    let lb ← xdrStdRecvUint32
    pure (if lb = 0 then 0 else 1)

/-- TRUE or FALSE. -/
def truth (b : BitVec 32) : BitVec 32 := if b = 0 then 0 else 1

/-- Every true `bool_t` comes back as 1. -/
theorem xdrBool_faithful :
    xdrBool.Faithful (fun _ => True) (fun b => htonl (truth b)) truth where
  writes b _ := by
    have h : (if b ≠ 0 then 1 else 0) = truth b := by
      unfold truth
      by_cases hb : b = 0 <;> simp [hb]
    rw [← h]
    exact xdrStdSendUint32_writes _
  reads b _ := by
    have h := (xdrStdRecvUint32_reads (truth b)).map truth
    have hidem : truth (truth b) = truth b := by
      unfold truth
      by_cases hb : b = 0 <;> simp [hb]
    rwa [hidem] at h

/-! ## Byte strings -/

/-- Items in memory with their `u_int` count. -/
structure Counted (α : Type) where
  items : List α
  len_lt : items.length < 2 ^ 32

def Counted.len (c : Counted α) : BitVec 32 := BitVec.ofNat 32 c.items.length

@[simp] theorem Counted.len_toNat (c : Counted α) : c.len.toNat = c.items.length := by
  rw [Counted.len, BitVec.toNat_ofNat, Nat.mod_eq_of_lt c.len_lt]

/-- A NULL pointer comes with the count 0. -/
def Counted.ofPointer (p : Option (Counted α)) : Counted α :=
  p.getD ⟨[], Nat.two_pow_pos 32⟩

def Counted.map (f : α → δ) (c : Counted α) : Counted δ :=
  ⟨c.items.map f, by rw [List.length_map]; exact c.len_lt⟩

def Counted.toVector (c : Counted α) : List.Vector α c.len.toNat :=
  ⟨c.items, c.len_toNat.symm⟩

def Counted.ofVector {n : BitVec 32} (v : List.Vector α n.toNat) : Counted α :=
  ⟨v.toList, by rw [v.toList_length]; exact n.isLt⟩

/-- What a decoder makes of a counted sequence: NULL when it is empty. -/
def Counted.stored (f : α → α) (p : Option (Counted α)) : Option (Counted α) :=
  if (Counted.ofPointer p).len = 0 then none else some ((Counted.ofPointer p).map f)

theorem Counted.map_id (c : Counted α) : c.map id = c := by
  cases c
  simp [Counted.map]

/-- A counted array of length 0 has no items. -/
theorem Counted.items_eq_nil {c : Counted α} (h : c.len = 0) : c.items = [] := by
  apply List.eq_nil_of_length_eq_zero
  rw [← c.len_toNat, h]
  rfl

/-- `xdr_opaque` (xdr.c:412–430). -/
def xdrOpaque (cnt : BitVec 32) : Codec (List.Vector Byte cnt.toNat) where
  encode v := if cnt = 0 then pure () else xdrStdSendBytes cnt v
  decode := if h : cnt = 0 then pure ⟨[], by rw [h]; rfl⟩ else xdrStdRecvBytes cnt

/-- Opaque data is sent with its padding and comes back without it. -/
theorem xdrOpaque_faithful (cnt : BitVec 32) :
    (xdrOpaque cnt).Faithful (fun _ => True) (fun v => v.toList ++ padding cnt.toNat) id := by
  by_cases h : cnt = 0
  · subst h
    constructor
    · intro v _
      have hv : v.toList = [] := List.eq_nil_of_length_eq_zero v.toList_length
      rw [hv]
      exact Writes.pure
    · intro v _
      have hv : v.toList = [] := List.eq_nil_of_length_eq_zero v.toList_length
      have hnil : (⟨[], rfl⟩ : List.Vector Byte (0#32).toNat) = v := Subtype.ext hv.symm
      rw [hv, id, ← hnil]
      exact Reads.pure _
  · constructor
    · intro v _
      simp only [xdrOpaque, if_neg h]
      exact xdrStdSendBytes_writes cnt v
    · intro v _
      simp only [xdrOpaque, dif_neg h]
      exact xdrStdRecvBytes_reads cnt h v

/-- `xdr_bytes` (xdr.c:10–36). -/
def xdrBytes (maxsize : BitVec 32) : Codec (Option (Counted Byte)) where
  encode p := do
    xdrStdSendUint32 (Counted.ofPointer p).len
    if (Counted.ofPointer p).len ≤ maxsize then
      xdrStdSendBytes (Counted.ofPointer p).len (Counted.ofPointer p).toVector
    else throw .refused
  decode := do
    let size ← xdrStdRecvUint32
    if size > maxsize then throw .refused
    else if size = 0 then pure none
    else do
      let buf ← xdrStdRecvBytes size
      pure (some (Counted.ofVector buf))

/-- The test against the maximum lets these sizes pass. -/
theorem not_lt_maxsize {size maxsize : BitVec 32} (h : size ≤ maxsize) : ¬ size > maxsize :=
  BitVec.not_lt.mpr h

/-- `xdr_bytes` up to its maximum; a pointer to no bytes comes back as NULL. -/
theorem xdrBytes_faithful (maxsize : BitVec 32) :
    (xdrBytes maxsize).Faithful (fun p => (Counted.ofPointer p).len ≤ maxsize)
      (fun p => htonl (Counted.ofPointer p).len ++
        ((Counted.ofPointer p).items ++ padding (Counted.ofPointer p).items.length))
      (Counted.stored id) where
  writes p hp := by
    refine (xdrStdSendUint32_writes _).bind ?_
    rw [if_pos hp, ← Counted.len_toNat]
    exact xdrStdSendBytes_writes _ _
  reads p hp := by
    refine (xdrStdRecvUint32_reads _).bind ?_
    rw [if_neg (not_lt_maxsize hp)]
    by_cases h0 : (Counted.ofPointer p).len = 0
    · rw [if_pos h0, Counted.stored, if_pos h0, Counted.items_eq_nil h0]
      exact Reads.pure none
    · rw [if_neg h0, Counted.stored, if_neg h0]
      rw [Counted.map_id, ← Counted.len_toNat]
      exact (xdrStdRecvBytes_reads _ h0 (Counted.ofPointer p).toVector).map
        fun buf => some (Counted.ofVector buf)

/-- A C string: the characters before the terminating NUL. -/
structure CString where
  chars : List Byte
  nul_notMem : 0 ∉ chars
  len_lt : chars.length < 2 ^ 32

/-- `strlen`. -/
def CString.len (s : CString) : BitVec 32 := BitVec.ofNat 32 s.chars.length

@[simp] theorem CString.len_toNat (s : CString) : s.len.toNat = s.chars.length := by
  rw [CString.len, BitVec.toNat_ofNat, Nat.mod_eq_of_lt s.len_lt]

def CString.toVector (s : CString) : List.Vector Byte s.len.toNat :=
  ⟨s.chars, s.len_toNat.symm⟩

/-- The string that a buffer with a NUL after it holds. -/
def CString.ofVector {size : BitVec 32} (buf : List.Vector Byte size.toNat) : CString where
  chars := buf.toList.takeWhile (· ≠ 0)
  nul_notMem h := by simpa using List.mem_takeWhile_imp h
  len_lt := by
    have h := (List.takeWhile_prefix (fun b : Byte => decide (b ≠ 0)) (l := buf.toList)).length_le
    rw [buf.toList_length] at h
    exact Nat.lt_of_le_of_lt h size.isLt

/-- A string is found again in the bytes it is sent as. -/
theorem CString.ofVector_toVector (s : CString) : CString.ofVector s.toVector = s := by
  have h : s.chars.takeWhile (· ≠ 0) = s.chars := by
    rw [List.takeWhile_eq_self_iff]
    intro b hb
    simp only [decide_eq_true_eq]
    rintro rfl
    exact s.nul_notMem hb
  cases s
  simp only [CString.ofVector, CString.toVector, CString.mk.injEq]
  exact h

/-- `xdr_string` (xdr.c:481–528). -/
def xdrString (maxsize : BitVec 32) : Codec (Option CString) where
  encode p := match p with
    | none => throw .refused
    | some s => do
      xdrUInt.encode s.len
      if s.len > maxsize then throw .refused
      else (xdrOpaque s.len).encode s.toVector
  decode := do
    let size ← xdrUInt.decode
    if size > maxsize then throw .refused
    -- `nodesize = size + 1` wraps
    else if size + 1 = 0 then pure none
    else do
      let buf ← (xdrOpaque size).decode
      pure (some (CString.ofVector buf))

/-- A NULL `char *` is no string; encoding refuses it. -/
theorem xdrString_faithful (maxsize : BitVec 32) :
    (xdrString maxsize).Faithful (fun p => ∃ s, p = some s ∧ s.len ≤ maxsize)
      (fun p => p.elim [] fun s => htonl s.len ++ (s.chars ++ padding s.chars.length)) id where
  writes p hp := by
    obtain ⟨s, rfl, hlen⟩ := hp
    refine (xdrStdSendUint32_writes _).bind ?_
    rw [if_neg (not_lt_maxsize hlen), ← CString.len_toNat]
    exact (xdrOpaque_faithful s.len).writes s.toVector trivial
  reads p hp := by
    obtain ⟨s, rfl, hlen⟩ := hp
    refine (xdrStdRecvUint32_reads _).bind ?_
    rw [if_neg (not_lt_maxsize hlen)]
    by_cases hwrap : s.len + 1 = 0
    -- 4 GiB of characters: no message holds them
    · apply Reads.of_cap_lt
      have hbig : s.chars.length = 2 ^ 32 - 1 := by
        have hsum : (s.len.toNat + 1) % 2 ^ 32 = 0 := congrArg BitVec.toNat hwrap
        have hlt := s.len_lt
        rw [s.len_toNat] at hsum
        omega
      rw [List.length_append, hbig]
      exact Nat.lt_of_lt_of_le (by decide) (Nat.le_add_right _ _)
    · rw [if_neg hwrap, ← CString.len_toNat]
      have h := ((xdrOpaque_faithful s.len).reads s.toVector trivial).map
        fun buf => some (CString.ofVector buf)
      rwa [id, CString.ofVector_toVector] at h

/-! ## Loops and indirections -/

section Compound

variable {elem : Codec α} {valid : α → Prop} {wire : α → List Byte} {norm : α → α}

/-- `xdr_vector` (xdr.c:203–220). -/
def xdrVector (nelem : BitVec 32) (elem : Codec α) : Codec (List.Vector α nelem.toNat) where
  encode v := v.toList.forM elem.encode
  decode := readN elem.decode nelem.toNat

/-- A vector is its elements one after the other. -/
theorem xdrVector_faithful (nelem : BitVec 32) (h : elem.Faithful valid wire norm) :
    (xdrVector nelem elem).Faithful (fun v => ∀ x ∈ v.toList, valid x)
      (fun v => v.toList.flatMap wire) (List.Vector.map norm) where
  writes _ hv := Writes.forM fun x hx => h.writes x (hv x hx)
  reads _ hv := Reads.readN fun x hx => h.reads x (hv x hx)

/-- `xdr_array` (xdr.c:336–394). -/
def xdrArray (maxsize : BitVec 32) (elem : Codec α) : Codec (Option (Counted α)) where
  encode p := do
    xdrUInt.encode (Counted.ofPointer p).len
    if (Counted.ofPointer p).len > maxsize then throw .refused
    else (Counted.ofPointer p).items.forM elem.encode
  decode := do
    let c ← xdrUInt.decode
    if c > maxsize then throw .refused
    else if c = 0 then pure none
    else do
      let target ← readN elem.decode c.toNat
      pure (some (Counted.ofVector target))

/-- `xdr_array` up to its maximum sends the number of the elements before them. -/
theorem xdrArray_faithful (maxsize : BitVec 32) (h : elem.Faithful valid wire norm) :
    (xdrArray maxsize elem).Faithful
      (fun p => (Counted.ofPointer p).len ≤ maxsize ∧ ∀ x ∈ (Counted.ofPointer p).items, valid x)
      (fun p => htonl (Counted.ofPointer p).len ++ (Counted.ofPointer p).items.flatMap wire)
      (Counted.stored norm) where
  writes p hp := by
    refine (xdrStdSendUint32_writes _).bind ?_
    rw [if_neg (not_lt_maxsize hp.1)]
    exact Writes.forM fun x hx => h.writes x (hp.2 x hx)
  reads p hp := by
    refine (xdrStdRecvUint32_reads _).bind ?_
    rw [if_neg (not_lt_maxsize hp.1)]
    by_cases h0 : (Counted.ofPointer p).len = 0
    · rw [if_pos h0, Counted.stored, if_pos h0, Counted.items_eq_nil h0]
      exact Reads.pure none
    · rw [if_neg h0, Counted.stored, if_neg h0]
      have hitems : Reads (readN elem.decode (Counted.ofPointer p).len.toNat)
          ((Counted.ofPointer p).toVector.toList.flatMap wire)
          ((Counted.ofPointer p).toVector.map norm) :=
        Reads.readN fun x hx => h.reads x (hp.2 x hx)
      exact hitems.map fun target => some (Counted.ofVector target)

/-- `xdr_pointer` with `xdr_reference` (xdr.c:253–322). -/
def xdrPointer (obj : Codec α) : Codec (Option α) where
  encode p := do
    xdrBool.encode (if p.isSome then 1 else 0)
    match p with
    | none => pure ()
    | some x => obj.encode x
  decode := do
    let moreData ← xdrBool.decode
    if moreData = 0 then pure none
    else do
      let x ← obj.decode
      pure (some x)

/-- A pointer is sent as a word that says whether it is NULL, and what it points to. -/
theorem xdrPointer_faithful (h : elem.Faithful valid wire norm) :
    (xdrPointer elem).Faithful (fun p => ∀ x, p = some x → valid x)
      (fun p => htonl (if p.isSome then 1 else 0) ++ p.elim [] wire) (Option.map norm) where
  writes p hp := by
    cases p with
    | none => exact (xdrBool_faithful.writes 0 trivial).bind Writes.pure
    | some x => exact (xdrBool_faithful.writes 1 trivial).bind (h.writes x (hp x rfl))
  reads p hp := by
    cases p with
    | none => exact (xdrBool_faithful.reads 0 trivial).bind (Reads.pure none)
    | some x => exact (xdrBool_faithful.reads 1 trivial).bind ((h.reads x (hp x rfl)).map some)

/-! ## Structures and unions -/

/-- `xdr_void` (xdr.c:324–327). -/
def xdrVoid : Codec Unit := ⟨fun _ => pure (), pure ()⟩

/-- Nothing is sent for `void`. -/
theorem xdrVoid_faithful : xdrVoid.Faithful (fun _ => True) (fun _ => []) id where
  writes _ _ := Writes.pure
  reads _ _ := Reads.pure ()

/-- `if (!xdr_a (..)) return FALSE; if (!xdr_b (..)) return FALSE;` -/
def xdrFields (first : Codec α) (rest : Codec δ) : Codec (α × δ) where
  encode v := do
    first.encode v.1
    rest.encode v.2
  decode := do
    let a ← first.decode
    let b ← rest.decode
    pure (a, b)

/-- The fields of a structure are sent in their order. -/
theorem xdrFields_faithful {rest : Codec δ} {valid' : δ → Prop} {wire' : δ → List Byte}
    {norm' : δ → δ} (h : elem.Faithful valid wire norm) (h' : rest.Faithful valid' wire' norm') :
    (xdrFields elem rest).Faithful (fun v => valid v.1 ∧ valid' v.2)
      (fun v => wire v.1 ++ wire' v.2) (Prod.map norm norm') where
  writes v hv := (h.writes v.1 hv.1).bind (h'.writes v.2 hv.2)
  reads v hv := (h.reads v.1 hv.1).bind ((h'.reads v.2 hv.2).map fun b => (norm v.1, b))

end Compound

/-- A discriminated union: the discriminant, then the arm it selects. -/
def xdrUnion {A : δ → Type} (disc : Codec δ) (arm : (d : δ) → Codec (A d)) :
    Codec ((d : δ) × A d) where
  encode v := do
    disc.encode v.1
    (arm v.1).encode v.2
  decode := do
    let d ← disc.decode
    let x ← (arm d).decode
    pure ⟨d, x⟩

/-- A union is sent as its discriminant and the arm that this selects. -/
theorem xdrUnion_faithful {A : δ → Type} {disc : Codec δ} {arm : (d : δ) → Codec (A d)}
    {wireDisc : δ → List Byte} {valid : (d : δ) → A d → Prop} {wire : (d : δ) → A d → List Byte}
    {norm : (d : δ) → A d → A d} (hdisc : disc.Faithful (fun _ => True) wireDisc id)
    (harm : ∀ d, (arm d).Faithful (valid d) (wire d) (norm d)) :
    (xdrUnion disc arm).Faithful (fun v => valid v.1 v.2)
      (fun v => wireDisc v.1 ++ wire v.1 v.2) (fun v => ⟨v.1, norm v.1 v.2⟩) where
  writes v hv := (hdisc.writes v.1 trivial).bind ((harm v.1).writes v.2 hv)
  reads v hv := by
    have hx := ((harm v.1).reads v.2 hv).map fun x => (⟨v.1, x⟩ : (d : δ) × A d)
    exact (hdisc.reads v.1 trivial).bind hx

end Ancora.Xdr
