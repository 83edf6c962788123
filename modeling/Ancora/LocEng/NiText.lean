import Ancora.Lib.CArray
import Ancora.Lib.CText
import Ancora.LocApi.EventRoutines

/-!
# Texts of network-initiated requests and NMEA reports (loc_eng_ni.cpp, loc_eng.cpp)

An NI request has its texts in arrays of fixed size, each with a length in a field of its own.
`loc_ni_request_handler` shows them to the user as hexadecimal digits (`hexcode`), and the
address of an LCS client as decimal ones (`decode_address`). Both loops run to the length of
the message; `hexcode` stops when the destination is full, which is after it has read the
byte that does not fit.

The destinations are arrays of the library (Ancora/Lib/CArray), so every write is recorded;
the indices that are read are recorded here. What lies behind an array in memory is a parameter.

- `hexcode_spec`, `decodeAddress_spec`: what the two loops read and write.
- `niTexts`: the part of `loc_ni_request_handler` that fills the texts.
- `Confined`: the arrays are read and written within their sizes, and the texts are the
  hexadecimal digits of the bytes that the request declares.
- **`length_fields_confined_iff`**: so it is iff no declared length makes a loop read on
  behind its array; and an NMEA report passes a length within its array iff it declares one.
-/

namespace Ancora.LocEng.NiText

open Xdr LocApi CText

/-! ## Hexadecimal digits -/

/-- `0` to `9`, `A` to `F`. -/
def hexDigit (n : Nat) : Byte := BitVec.ofNat 8 (if n < 10 then 0x30 + n else 0x37 + n)

/-- `"%02X"`; `char` is unsigned on the target. -/
def hexByte (ch : Byte) : List Byte := [hexDigit (ch.toNat / 16), hexDigit (ch.toNat % 16)]

/-- The array, the indices of `data` that were read, and how far the loop came. -/
structure HexOut where
  out : CArray Byte
  reads : List Nat
  ret : Nat

/-- The loop of `hexcode` from `i` on. -/
def hexLoop (data : Nat → Byte) (a : CArray Byte) (i : Nat) : Nat → HexOut
  | 0 => ⟨a, [], i⟩
  | n + 1 =>
    if i * 2 + 3 ≤ a.size then
      let r := hexLoop data (a.write (i * 2) (hexByte (data i) ++ [0])) (i + 1) n
      { r with reads := i :: r.reads }
    else ⟨a, [i], i⟩

/-- `hexcode` (loc_eng_ni.cpp:207–222). -/
def hexcode (a : CArray Byte) (data : Nat → Byte) (dataSize : Nat) : HexOut :=
  hexLoop data a 0 dataSize

/-- How many bytes it looks at. -/
def looked (size dataSize : Nat) : Nat := min dataSize ((size + 1) / 2)

/-- How many it shows. -/
def encoded (size dataSize : Nat) : Nat := min dataSize ((size - 1) / 2)

theorem hexDigit_ne_zero {n : Nat} (h : n < 16) : hexDigit n ≠ 0 := by
  intro hz
  have hnat := congrArg BitVec.toNat hz
  rw [hexDigit, BitVec.toNat_ofNat] at hnat
  split at hnat
  · have hzero : (0 : Byte).toNat = 0 := rfl
    omega
  · have hzero : (0 : Byte).toNat = 0 := rfl
    omega

/-- A byte in hexadecimal has no terminator in it. -/
theorem zero_notMem_hexByte (ch : Byte) : 0 ∉ hexByte ch := by
  have hlt := ch.isLt
  intro hmem
  rcases List.mem_cons.mp hmem with h | h
  · exact hexDigit_ne_zero (by omega) h.symm
  · exact hexDigit_ne_zero (by omega) (List.mem_singleton.mp h).symm

/-- From `i` on, with the digits of the bytes before it in the array. -/
theorem hexLoop_spec (data : Nat → Byte) (n : Nat) {a : CArray Byte} {s : List Byte} {i : Nat}
    (hs : a.Str s) (hlen : s.length = i * 2) (ha : a.Inside) :
    (hexLoop data a i n).out.Inside ∧
    (hexLoop data a i n).out.Str
      (s ++ (List.range' i (min n ((a.size - 1) / 2 - i))).flatMap fun k => hexByte (data k)) ∧
    (hexLoop data a i n).reads = List.range' i (min n ((a.size + 1) / 2 - i)) := by
  induction n generalizing a s i with
  | zero =>
    rw [Nat.zero_min, Nat.zero_min]
    refine ⟨ha, ?_, rfl⟩
    rw [List.range'_zero, List.flatMap_nil, List.append_nil]
    exact hs
  | succ n ih =>
    have hfits := hs.fits
    unfold hexLoop
    split
    · rename_i hroom
      -- two digits and the zero behind them, for the byte at `i`
      have hwrite : (a.write (i * 2) (hexByte (data i) ++ [0])).Str (s ++ hexByte (data i)) := by
        rw [← hlen]
        refine hs.append _ ?_ (zero_notMem_hexByte _)
        show s.length + 2 < a.size
        omega
      have hinside : (a.write (i * 2) (hexByte (data i) ++ [0])).Inside := by
        refine ha.write _ ?_
        show i * 2 + 3 ≤ a.size
        omega
      have hlen' : (s ++ hexByte (data i)).length = (i + 1) * 2 := by
        rw [List.length_append, hlen]
        show i * 2 + 2 = _
        omega
      obtain ⟨hin, hstr, hreads⟩ := ih hwrite hlen' hinside
      rw [CArray.write_size] at hstr hreads
      refine ⟨hin, ?_, ?_⟩
      · have hmin : min (n + 1) ((a.size - 1) / 2 - i) =
            min n ((a.size - 1) / 2 - (i + 1)) + 1 := by omega
        rw [hmin, List.range'_succ, List.flatMap_cons, ← List.append_assoc]
        exact hstr
      · have hmin : min (n + 1) ((a.size + 1) / 2 - i) =
            min n ((a.size + 1) / 2 - (i + 1)) + 1 := by omega
        rw [hmin, List.range'_succ]
        exact congrArg (i :: ·) hreads
    · rename_i hfull
      have hnone : min (n + 1) ((a.size - 1) / 2 - i) = 0 := by omega
      have hone : min (n + 1) ((a.size + 1) / 2 - i) = 1 := by omega
      rw [hnone, hone]
      refine ⟨ha, ?_, rfl⟩
      rw [List.range'_zero, List.flatMap_nil, List.append_nil]
      exact hs

/-- What `hexcode` makes of an array that was cleared. -/
theorem hexcode_spec {a : CArray Byte} (hs : a.Str []) (ha : a.Inside) (data : Nat → Byte)
    (n : Nat) :
    (hexcode a data n).out.Inside ∧
    (hexcode a data n).out.Str ((List.range (encoded a.size n)).flatMap fun k => hexByte (data k)) ∧
    (hexcode a data n).reads = List.range (looked a.size n) := by
  have hlen : ([] : List Byte).length = 0 * 2 := rfl
  have hspec := hexLoop_spec data n hs hlen ha
  rw [List.nil_append, Nat.sub_zero, Nat.sub_zero, ← List.range_eq_range',
    ← List.range_eq_range'] at hspec
  exact hspec

/-! ## Addresses -/

/-- A digit of the address, if there is one and room for it. -/
def putDigit (d : Nat) (p : CArray Byte × Nat) : CArray Byte × Nat :=
  if d ≤ 9 ∧ p.2 < p.1.size - 1 then (p.1.set p.2 (BitVec.ofNat 8 (d + 0x30)), p.2 + 1) else p

/-- The loop of `decode_address` from `i` on, with `idxOutput`. -/
def addrLoop (data : Nat → Byte) (p : CArray Byte × Nat) (i : Nat) : Nat → CArray Byte × Nat
  | 0 => p
  | n + 1 =>
    addrLoop data (putDigit ((data i).toNat / 16) (putDigit ((data i).toNat % 16) p)) (i + 1) n

/-- `addr_prefix`. -/
def addrPrefix : Byte := 0x91

/-- `decode_address` (loc_eng_ni.cpp:238–261) for two pointers that are not NULL. -/
def decodeAddress (a : CArray Byte) (data : Nat → Byte) (dataSize : Nat) : HexOut :=
  if data 0 ≠ addrPrefix then ⟨a.set 0 0, [0], 0⟩
  else
    let p := addrLoop data (a, 0) 1 (dataSize - 1)
    ⟨p.1.set p.2 0, 0 :: List.range' 1 (dataSize - 1), p.2⟩

/-- A digit of the address as a character; above 9 there is none. -/
def addrDigit (d : Nat) : List Byte := if d ≤ 9 then [BitVec.ofNat 8 (d + 0x30)] else []

/-- The digits of a byte, the low one first. -/
def addrDigits (ch : Byte) : List Byte := addrDigit (ch.toNat % 16) ++ addrDigit (ch.toNat / 16)

/-- Neither has a digit of an address. -/
theorem zero_notMem_addrDigit (d : Nat) : 0 ∉ addrDigit d := by
  unfold addrDigit
  split
  · intro hmem
    have hnat := congrArg BitVec.toNat (List.mem_singleton.mp hmem)
    rw [BitVec.toNat_ofNat] at hnat
    have hzero : (0 : Byte).toNat = 0 := rfl
    omega
  · exact List.not_mem_nil

/-- The array begins with as much of `digits` as fits before the terminating zero. -/
structure Addr (p : CArray Byte × Nat) (size : Nat) (digits : List Byte) : Prop where
  size_eq : p.1.size = size
  inside : p.1.Inside
  starts : p.1.Starts (digits.take (size - 1))
  length : (digits.take (size - 1)).length = p.2

/-- A digit is put where there is room for it. -/
theorem Addr.putDigit {p : CArray Byte × Nat} {size : Nat} {digits : List Byte}
    (h : Addr p size digits) (d : Nat) : Addr (putDigit d p) size (digits ++ addrDigit d) := by
  have hlength := h.length
  rw [List.length_take] at hlength
  unfold NiText.putDigit addrDigit
  by_cases hdigit : d ≤ 9
  · rw [if_pos hdigit]
    split
    · rename_i hput
      have hroom := hput.2
      rw [h.size_eq] at hroom
      have hwhole : digits.take (size - 1) = digits := List.take_of_length_le (by omega)
      have hlen : digits.length = p.2 := by omega
      have htake : (digits ++ [BitVec.ofNat 8 (d + 0x30)]).take (size - 1) =
          digits ++ [BitVec.ofNat 8 (d + 0x30)] := by
        refine List.take_of_length_le ?_
        rw [List.length_append, List.length_singleton]
        omega
      refine ⟨h.size_eq, h.inside.set ?_, ?_, ?_⟩
      · rw [h.size_eq]
        omega
      · have hstarts := h.starts
        rw [hwhole] at hstarts
        rw [htake, ← hlen]
        exact hstarts.set _
      · rw [htake, List.length_append, List.length_singleton, hlen]
    · rename_i hput
      -- no room: only what is cut off grows
      have hroom : ¬ p.2 < p.1.size - 1 := fun hroom => hput ⟨hdigit, hroom⟩
      rw [h.size_eq] at hroom
      have htake : (digits ++ [BitVec.ofNat 8 (d + 0x30)]).take (size - 1) =
          digits.take (size - 1) := List.take_append_of_le_length (by omega)
      refine ⟨h.size_eq, h.inside, ?_, ?_⟩
      · rw [htake]
        exact h.starts
      · rw [htake]
        exact h.length
  · rw [if_neg hdigit, if_neg fun hput => hdigit hput.1, List.append_nil]
    exact h

/-- The loop puts the digits of the address, two for each byte. -/
theorem addrLoop_spec (data : Nat → Byte) (n : Nat) {p : CArray Byte × Nat} {size : Nat}
    {digits : List Byte} (h : Addr p size digits) (i : Nat) :
    Addr (addrLoop data p i n) size
      (digits ++ (List.range' i n).flatMap fun k => addrDigits (data k)) := by
  induction n generalizing p digits i with
  | zero =>
    rw [List.range'_zero, List.flatMap_nil, List.append_nil]
    exact h
  | succ n ih =>
    have hstep := ih ((h.putDigit ((data i).toNat % 16)).putDigit ((data i).toNat / 16)) (i + 1)
    rw [List.range'_succ, List.flatMap_cons, addrDigits, ← List.append_assoc, ← List.append_assoc]
    exact hstep

/-- The address as it is shown: the digits after the prefix, as many as fit. -/
def addressText (size : Nat) (data : Nat → Byte) (n : Nat) : List Byte :=
  if data 0 ≠ addrPrefix then []
  else ((List.range' 1 (n - 1)).flatMap fun k => addrDigits (data k)).take (size - 1)

/-- The decoded address is terminated, and the bytes are read as far as the prefix asks for. -/
theorem decodeAddress_spec {a : CArray Byte} (ha : a.Inside) (hsize : 0 < a.size)
    (data : Nat → Byte) (n : Nat) :
    (decodeAddress a data n).out.Inside ∧
    (decodeAddress a data n).out.Str (addressText a.size data n) ∧
    (decodeAddress a data n).reads =
      if data 0 ≠ addrPrefix then [0] else 0 :: List.range' 1 (n - 1) := by
  unfold decodeAddress addressText
  by_cases hprefix : data 0 ≠ addrPrefix
  · rw [if_pos hprefix, if_pos hprefix, if_pos hprefix]
    exact ⟨ha.set hsize, ⟨rfl, hsize, List.not_mem_nil⟩, rfl⟩
  rw [if_neg hprefix, if_neg hprefix, if_neg hprefix]
  have hstart : Addr (a, 0) a.size [] := by
    refine ⟨rfl, ha, ?_, ?_⟩
    · rw [List.take_nil]
      rfl
    · rw [List.take_nil]
      rfl
  have hloop := addrLoop_spec data (n - 1) hstart 1
  rw [List.nil_append] at hloop
  obtain ⟨hsz, hin, hstarts, hlen⟩ := hloop
  have hidx : (addrLoop data (a, 0) 1 (n - 1)).2 < a.size := by
    rw [← hlen, List.length_take]
    omega
  refine ⟨hin.set (hsz ▸ hidx), ⟨?_, ?_, ?_⟩, rfl⟩
  · show (CArray.set _ _ _).Starts _
    rw [← hlen]
    exact hstarts.set 0
  · rw [hlen]
    show _ < (addrLoop data (a, 0) 1 (n - 1)).1.size
    rw [hsz]
    exact hidx
  · intro hmem
    obtain ⟨k, -, hk⟩ := List.mem_flatMap.mp (List.mem_of_mem_take hmem)
    rcases List.mem_append.mp hk with hk | hk
    · exact zero_notMem_addrDigit _ hk
    · exact zero_notMem_addrDigit _ hk

/-! ## The handler -/

/-- The arrays that lengths are declared for. -/
inductive NiField
  | requesterId
  | requestorIdString
  | clientNameString
  | notificationText
  | extClientAddress
  deriving DecidableEq, Repr

/-- Their sizes (loc_api_common.h:323–425). -/
def NiField.cap : NiField → Nat
  | .requesterId => 200
  | .requestorIdString => 200
  | .clientNameString => 64
  | .notificationText => 64
  | .extClientAddress => 20

/-- The sizes of the arrays of a `GpsNiNotification` (hardware/gps.h). -/
structure GpsNiH where
  requestorId : Nat
  text : Nat
  extras : Nat
  requestorId_pos : 0 < requestorId
  text_pos : 0 < text
  extras_pos : 0 < extras

/-- An NI request whose payload is that of its event. -/
inductive NiRequest
  | vx (req : xdrRpcLocNiVxNotifyVerifyReqSType.Val)
  | umtsCp (req : xdrRpcLocNiUmtsCpNotifyVerifyReqSType.Val)
  | supl (req : xdrRpcLocNiSuplNotifyVerifyReqSType.Val)

/-- A text as it was received: the array and the length in the field beside it. -/
structure Declared (cap : Nat) where
  bytes : List.Vector Byte cap
  len : BitVec 8

def vxRequesterId (req : xdrRpcLocNiVxNotifyVerifyReqSType.Val) : Declared 200 :=
  ⟨req.2.2.2.2.2.2.2.1.2.1, req.2.2.2.2.2.2.2.1.1⟩

def umtsNotificationText (req : xdrRpcLocNiUmtsCpNotifyVerifyReqSType.Val) : Declared 64 :=
  ⟨req.2.2.2.2.1, req.2.2.2.1⟩

def umtsExtClientAddress (req : xdrRpcLocNiUmtsCpNotifyVerifyReqSType.Val) : Declared 20 :=
  ⟨req.2.2.2.2.2.2.1.2.1, req.2.2.2.2.2.2.1.1⟩

def umtsRequestorId (req : xdrRpcLocNiUmtsCpNotifyVerifyReqSType.Val) : Declared 200 :=
  ⟨req.2.2.2.2.2.2.2.2.2.1.2.1, req.2.2.2.2.2.2.2.2.2.1.2.2.1⟩

def suplFlags (req : xdrRpcLocNiSuplNotifyVerifyReqSType.Val) : BitVec 16 := req.2.1

def suplRequestorId (req : xdrRpcLocNiSuplNotifyVerifyReqSType.Val) : Declared 200 :=
  ⟨req.2.2.2.2.2.2.1.2.1, req.2.2.2.2.2.2.1.2.2.1⟩

def suplClientName (req : xdrRpcLocNiSuplNotifyVerifyReqSType.Val) : Declared 64 :=
  ⟨req.2.2.2.2.2.2.2.1.2.1, req.2.2.2.2.2.2.2.1.2.2.1⟩

/-- `RPC_LOC_NI_CLIENT_NAME_PRESENT` (loc_api_fixup.h:197). -/
def rpcLocNiClientNamePresent : BitVec 16 := 0x0001

/-- `RPC_LOC_NI_REQUESTOR_ID_PRESENT` (loc_api_fixup.h:200). -/
def rpcLocNiRequestorIdPresent : BitVec 16 := 0x0020

/-- The texts of a notification and `lcs_addr` while they are filled, and what was read. -/
structure Texts where
  text : CArray Byte
  requestorId : CArray Byte
  extras : CArray Byte
  lcsAddr : CArray Byte
  reads : List (NiField × Nat)

/-- What lies behind the arrays of a request. -/
abbrev Behind := NiField → Nat → Byte

/-- The array at `i`, wherever that is. -/
def Declared.at {cap : Nat} (d : Declared cap) (behind : Nat → Byte) (i : Nat) : Byte :=
  d.bytes.toList.getD i (behind i)

variable (H : GpsNiH) (behind : Behind)

/-- Local variables without their contents. -/
def Texts.start (stack : Nat → Byte) : Texts where
  text := ⟨H.text, stack, []⟩
  requestorId := ⟨H.requestorId, stack, []⟩
  extras := ⟨H.extras, stack, []⟩
  lcsAddr := ⟨32, stack, []⟩
  reads := []

/-- The defaults that the function begins with. -/
def Texts.defaults (stack : Nat → Byte) : Texts :=
  let t := Texts.start H stack
  { t with
    text := t.text.strlcpy (ascii "[text]")
    requestorId := t.requestorId.strlcpy (ascii "[requestor id]") }

/-- The three `memset`s that every case begins with. -/
def Texts.clear (t : Texts) : Texts :=
  { t with extras := t.extras.clear, text := t.text.clear, requestorId := t.requestorId.clear }

/-- `hexcode(notif.text, …)` -/
def Texts.hexText (t : Texts) (f : NiField) (d : Declared f.cap) : Texts :=
  let r := hexcode t.text (d.at (behind f)) d.len.toNat
  { t with text := r.out, reads := t.reads ++ r.reads.map (f, ·) }

/-- `hexcode(notif.requestor_id, …)` -/
def Texts.hexRequestorId (t : Texts) (f : NiField) (d : Declared f.cap) : Texts :=
  let r := hexcode t.requestorId (d.at (behind f)) d.len.toNat
  { t with requestorId := r.out, reads := t.reads ++ r.reads.map (f, ·) }

/-- `if (addr_len) { strlcat(notif.extras, lcs_addr, …); }` -/
def addAddress (extras : CArray Byte) (r : HexOut) : CArray Byte :=
  if r.ret ≠ 0 then extras.strlcat r.out.str else extras

/-- The LCS address in the extras (loc_eng_ni.cpp:400–422). -/
def Texts.lcsAddress (t : Texts) (d : Declared NiField.extClientAddress.cap) : Texts :=
  if d.len ≠ 0 then
    let extras := (t.extras.strlcat (ascii "Address")).strlcat (ascii " = ")
    let r := decodeAddress t.lcsAddr (d.at (behind .extClientAddress)) d.len.toNat
    { t with
      extras := addAddress extras r
      lcsAddr := r.out
      reads := t.reads ++ r.reads.map (.extClientAddress, ·) }
  else t

/-- The texts of a notification as `loc_ni_request_handler` fills them
(loc_eng_ni.cpp:305–505). -/
def niTexts (stack : Nat → Byte) (notifInProgress : Bool) (req : NiRequest) : Texts :=
  let t := Texts.defaults H stack
  if notifInProgress then t
  else match req with
    | .vx req => t.clear.hexRequestorId behind .requesterId (vxRequesterId req)
    | .umtsCp req =>
      let t := t.clear.hexText behind .notificationText (umtsNotificationText req)
      let t := t.hexRequestorId behind .requestorIdString (umtsRequestorId req)
      t.lcsAddress behind (umtsExtClientAddress req)
    | .supl req =>
      let t := t.clear
      let t := if suplFlags req &&& rpcLocNiClientNamePresent ≠ 0 then
          t.hexText behind .clientNameString (suplClientName req)
        else t
      if suplFlags req &&& rpcLocNiRequestorIdPresent ≠ 0 then
        t.hexRequestorId behind .requestorIdString (suplRequestorId req)
      else t

/-- `loc_eng_report_nmea` (loc_eng.cpp:1312–1332): the length that `nmea_cb` is called with. -/
def locEngReportNmea (cbSet : Bool) (report : xdrRpcLocNmeaReportSType.Val) : Option Nat :=
  if cbSet then some (BitVec.toNat (report.1 : BitVec 16)) else none

/-- The size of `nmea_sentences` (loc_api_common.h:169). -/
def nmeaSentencesSize : Nat := 200

/-! ## What is to be shown -/

/-- The hexadecimal digits of the declared bytes, as many as fit. -/
def hexOf {cap : Nat} (size : Nat) (d : Declared cap) : List Byte :=
  ((d.bytes.toList.take d.len.toNat).take ((size - 1) / 2)).flatMap hexByte

def NiRequest.text : NiRequest → List Byte
  | .vx _ => []
  | .umtsCp req => hexOf H.text (umtsNotificationText req)
  | .supl req =>
    if suplFlags req &&& rpcLocNiClientNamePresent ≠ 0 then hexOf H.text (suplClientName req)
    else []

def NiRequest.requestorId : NiRequest → List Byte
  | .vx req => hexOf H.requestorId (vxRequesterId req)
  | .umtsCp req => hexOf H.requestorId (umtsRequestorId req)
  | .supl req =>
    if suplFlags req &&& rpcLocNiRequestorIdPresent ≠ 0 then
      hexOf H.requestorId (suplRequestorId req)
    else []

/-- The texts are within their sizes, terminated, and `text` and `requestorId` are these. -/
structure Texts.Hold (t : Texts) (text requestorId : List Byte) : Prop where
  text_inside : t.text.Inside
  requestorId_inside : t.requestorId.Inside
  extras_inside : t.extras.Inside
  lcsAddr_inside : t.lcsAddr.Inside
  text : t.text.Str text
  requestorId : t.requestorId.Str requestorId
  extras : t.extras.touched ≠ [] → ∃ s, t.extras.Str s
  lcsAddr : t.lcsAddr.touched ≠ [] → ∃ s, t.lcsAddr.Str s

/-- The request is read and written within the sizes of its arrays and of the notification's,
and its texts are the digits of what it declares; a request that is ignored leaves the defaults. -/
structure Confined (stack : Nat → Byte) (notifInProgress : Bool) (req : NiRequest) : Prop where
  reads : ∀ r ∈ (niTexts H behind stack notifInProgress req).reads, r.2 < r.1.cap
  hold : (niTexts H behind stack notifInProgress req).Hold
    (if notifInProgress then (ascii "[text]").take (H.text - 1) else req.text H)
    (if notifInProgress then (ascii "[requestor id]").take (H.requestorId - 1)
      else req.requestorId H)

/-- The loop over this text ends before its array does. -/
def Declared.Covered {cap : Nat} (d : Declared cap) (size : Nat) : Prop :=
  looked size d.len.toNat ≤ cap

/-- No length of the request leads behind its array. -/
def NiRequest.Covered : NiRequest → Prop
  | .vx req => (vxRequesterId req).Covered H.requestorId
  | .umtsCp req =>
    (umtsNotificationText req).Covered H.text ∧ (umtsRequestorId req).Covered H.requestorId ∧
      ((umtsExtClientAddress req).len.toNat ≤ 20 ∨
        (umtsExtClientAddress req).bytes.toList.head? ≠ some addrPrefix)
  | .supl req =>
    (suplFlags req &&& rpcLocNiClientNamePresent ≠ 0 → (suplClientName req).Covered H.text) ∧
      (suplFlags req &&& rpcLocNiRequestorIdPresent ≠ 0 →
        (suplRequestorId req).Covered H.requestorId)

/-! ## One text at a time -/

section OneText

variable {H behind}

/-- What is covered is shown as it is. -/
theorem Declared.Covered.hexOf_eq {cap size : Nat} {d : Declared cap} (h : d.Covered size)
    (hsize : 0 < size) (far : Nat → Byte) :
    ((List.range (encoded size d.len.toNat)).flatMap fun k => hexByte (d.at far k)) =
      hexOf size d := by
  have hle : encoded size d.len.toNat ≤ d.bytes.toList.length := by
    have hlooked : looked size d.len.toNat ≤ cap := h
    rw [List.Vector.toList_length]
    unfold encoded
    unfold looked at hlooked
    omega
  have hmap : (List.range (encoded size d.len.toNat)).map (d.at far) =
      d.bytes.toList.take (encoded size d.len.toNat) := by
    apply List.ext_getElem
    · rw [List.length_map, List.length_range, List.length_take, Nat.min_eq_left hle]
    · intro i hi hi'
      rw [List.length_map, List.length_range] at hi
      have hlt : i < d.bytes.toList.length := by omega
      rw [List.getElem_map, List.getElem_take, List.getElem_range, Declared.at,
        List.getD_eq_getElem?_getD, List.getElem?_eq_getElem hlt, Option.getD_some]
  have hflat : ((List.range (encoded size d.len.toNat)).flatMap fun k => hexByte (d.at far k)) =
      ((List.range (encoded size d.len.toNat)).map (d.at far)).flatMap hexByte := by
    rw [List.flatMap_map]
  rw [hflat, hmap, hexOf, List.take_take, encoded, Nat.min_comm]

/-- A loop reads within its array iff its text is covered. -/
theorem reads_within_iff (f : NiField) (d : Declared f.cap) (size : Nat) :
    (∀ r ∈ (List.range (looked size d.len.toNat)).map (f, ·), r.2 < r.1.cap) ↔ d.Covered size := by
  unfold Declared.Covered
  constructor
  · intro hreads
    by_contra hmore
    have hmem : (f, f.cap) ∈ (List.range (looked size d.len.toNat)).map (f, ·) :=
      List.mem_map.mpr ⟨f.cap, List.mem_range.mpr (by omega), rfl⟩
    exact absurd (hreads _ hmem) (Nat.lt_irrefl _)
  · intro hcovered r hr
    obtain ⟨i, hi, rfl⟩ := List.mem_map.mp hr
    have hlt := List.mem_range.mp hi
    show i < f.cap
    omega

section Steps

variable (behind) {t : Texts} {text requestorId : List Byte}

/-- The text is written in hexadecimal, as much of it as there is room for. -/
theorem Texts.Hold.hexText (h : t.Hold [] requestorId) (f : NiField) (d : Declared f.cap) :
    (t.hexText behind f d).Hold
      ((List.range (encoded t.text.size d.len.toNat)).flatMap fun k =>
        hexByte (d.at (behind f) k)) requestorId ∧
    (t.hexText behind f d).reads =
      t.reads ++ (List.range (looked t.text.size d.len.toNat)).map (f, ·) := by
  obtain ⟨hinside, hstr, hreads⟩ := hexcode_spec h.text h.text_inside (d.at (behind f)) d.len.toNat
  constructor
  · exact ⟨hinside, h.requestorId_inside, h.extras_inside, h.lcsAddr_inside, hstr, h.requestorId,
      h.extras, h.lcsAddr⟩
  · show t.reads ++ (hexcode t.text _ _).reads.map (f, ·) = _
    rw [hreads]

/-- So is the requestor. -/
theorem Texts.Hold.hexRequestorId (h : t.Hold text []) (f : NiField) (d : Declared f.cap) :
    (t.hexRequestorId behind f d).Hold text
      ((List.range (encoded t.requestorId.size d.len.toNat)).flatMap fun k =>
        hexByte (d.at (behind f) k)) ∧
    (t.hexRequestorId behind f d).reads =
      t.reads ++ (List.range (looked t.requestorId.size d.len.toNat)).map (f, ·) := by
  obtain ⟨hinside, hstr, hreads⟩ :=
    hexcode_spec h.requestorId h.requestorId_inside (d.at (behind f)) d.len.toNat
  constructor
  · exact ⟨h.text_inside, hinside, h.extras_inside, h.lcsAddr_inside, h.text, hstr,
      h.extras, h.lcsAddr⟩
  · show t.reads ++ (hexcode t.requestorId _ _).reads.map (f, ·) = _
    rw [hreads]

/-- A text that may be absent. -/
theorem Texts.Hold.hexTextIf (h : t.Hold [] requestorId) (p : Prop) [Decidable p] (f : NiField)
    (d : Declared f.cap) :
    (if p then t.hexText behind f d else t).Hold
      (if p then (List.range (encoded t.text.size d.len.toNat)).flatMap fun k =>
        hexByte (d.at (behind f) k) else []) requestorId ∧
    (if p then t.hexText behind f d else t).reads = t.reads ++
      if p then (List.range (looked t.text.size d.len.toNat)).map (f, ·) else [] := by
  split
  · exact h.hexText behind f d
  · exact ⟨h, (List.append_nil _).symm⟩

/-- The same where the requestor may be left out. -/
theorem Texts.Hold.hexRequestorIdIf (h : t.Hold text []) (p : Prop) [Decidable p] (f : NiField)
    (d : Declared f.cap) :
    (if p then t.hexRequestorId behind f d else t).Hold text
      (if p then (List.range (encoded t.requestorId.size d.len.toNat)).flatMap fun k =>
        hexByte (d.at (behind f) k) else []) ∧
    (if p then t.hexRequestorId behind f d else t).reads = t.reads ++
      if p then (List.range (looked t.requestorId.size d.len.toNat)).map (f, ·) else [] := by
  split
  · exact h.hexRequestorId behind f d
  · exact ⟨h, (List.append_nil _).symm⟩

/-- The address is written behind what the extras hold, as far as it fits. -/
theorem Texts.Hold.lcsAddress (h : t.Hold text requestorId) (hextras : ∃ s, t.extras.Str s)
    (hsize : 0 < t.lcsAddr.size) (d : Declared NiField.extClientAddress.cap) :
    (t.lcsAddress behind d).Hold text requestorId := by
  unfold Texts.lcsAddress
  split
  · obtain ⟨s, hs⟩ := hextras
    obtain ⟨hkey, hkeyInside⟩ := hs.strlcat h.extras_inside
      (show 0 ∉ ascii "Address" by decide)
    obtain ⟨heq, heqInside⟩ := hkey.strlcat hkeyInside (show 0 ∉ ascii " = " by decide)
    obtain ⟨haddrInside, haddr, -⟩ := decodeAddress_spec h.lcsAddr_inside hsize
      (d.at (behind .extClientAddress)) d.len.toNat
    obtain ⟨hall, hallInside⟩ := heq.strlcat heqInside haddr.nonzero
    rw [← haddr.str_eq] at hall hallInside
    refine ⟨h.text_inside, h.requestorId_inside, ?_, haddrInside, h.text, h.requestorId, ?_,
      fun _ => ⟨_, haddr⟩⟩
    · show (addAddress _ _).Inside
      unfold addAddress
      split
      · exact hallInside
      · exact heqInside
    · intro _
      show ∃ s, (addAddress _ _).Str s
      unfold addAddress
      split
      · exact ⟨_, hall⟩
      · exact ⟨_, heq⟩
  · exact h

/-- The address is read as far as its length says. -/
theorem Texts.lcsAddress_reads (hin : t.lcsAddr.Inside) (hsize : 0 < t.lcsAddr.size)
    (d : Declared NiField.extClientAddress.cap) :
    (t.lcsAddress behind d).reads = t.reads ++
      if d.len = 0 then [] else
        (if d.at (behind .extClientAddress) 0 ≠ addrPrefix then [0]
          else 0 :: List.range' 1 (d.len.toNat - 1)).map (.extClientAddress, ·) := by
  unfold Texts.lcsAddress
  by_cases hlen : d.len = 0
  · rw [if_neg (not_not.mpr hlen), if_pos hlen, List.append_nil]
  · obtain ⟨-, -, hreads⟩ := decodeAddress_spec hin hsize
      (d.at (behind .extClientAddress)) d.len.toNat
    rw [if_pos hlen, if_neg hlen, ← hreads]

end Steps

end OneText

/-! ## The request -/

section Request

variable {H behind} {stack : Nat → Byte} {req : NiRequest}

theorem inside_untouched (size : Nat) (cells : Nat → Byte) :
    (⟨size, cells, []⟩ : CArray Byte).Inside := by
  intro k hk
  cases hk

/-- At first there are the default texts, cut to their arrays. -/
theorem Texts.defaults_hold : (Texts.defaults H stack).Hold
    ((ascii "[text]").take (H.text - 1)) ((ascii "[requestor id]").take (H.requestorId - 1)) where
  text_inside := (inside_untouched _ _).strlcpy H.text_pos _
  requestorId_inside := (inside_untouched _ _).strlcpy H.requestorId_pos _
  extras_inside := inside_untouched _ _
  lcsAddr_inside := inside_untouched _ _
  text := CArray.Str.strlcpy H.text_pos (by decide)
  requestorId := CArray.Str.strlcpy H.requestorId_pos (by decide)
  extras hne := absurd rfl hne
  lcsAddr hne := absurd rfl hne

theorem Texts.clear_text_size : (Texts.defaults H stack).clear.text.size = H.text :=
  CArray.write_size _ _ _

theorem Texts.clear_requestorId_size :
    (Texts.defaults H stack).clear.requestorId.size = H.requestorId :=
  CArray.write_size _ _ _

/-- As each case of the switch begins. -/
theorem Texts.clear_hold : (Texts.defaults H stack).clear.Hold [] [] where
  text_inside := Texts.defaults_hold.text_inside.clear
  requestorId_inside := Texts.defaults_hold.requestorId_inside.clear
  extras_inside := Texts.defaults_hold.extras_inside.clear
  lcsAddr_inside := inside_untouched _ _
  text := CArray.Str.clear (Texts.clear_text_size.symm ▸ H.text_pos)
  requestorId := CArray.Str.clear (Texts.clear_requestorId_size.symm ▸ H.requestorId_pos)
  extras _ := ⟨[], CArray.Str.clear H.extras_pos⟩
  lcsAddr hne := absurd rfl hne

/-- A request that is taken up: it is confined iff its reads are and its texts are then what
they should be. -/
theorem confined_iff {text requestorId : List Byte}
    (hhold : (niTexts H behind stack false req).Hold text requestorId)
    (hreads : (∀ r ∈ (niTexts H behind stack false req).reads, r.2 < r.1.cap) ↔ req.Covered H)
    (htext : req.Covered H → text = req.text H)
    (hrequestor : req.Covered H → requestorId = req.requestorId H) :
    Confined H behind stack false req ↔ req.Covered H := by
  constructor
  · intro hconfined
    exact hreads.mp hconfined.reads
  · intro hcovered
    rw [htext hcovered, hrequestor hcovered] at hhold
    exact ⟨hreads.mpr hcovered, hhold⟩

/-- A VX request is confined if its lengths are within its arrays. -/
theorem confined_vx (r : xdrRpcLocNiVxNotifyVerifyReqSType.Val) :
    Confined H behind stack false (.vx r) ↔ (NiRequest.vx r).Covered H := by
  have hclear : (Texts.defaults H stack).clear.Hold [] [] := Texts.clear_hold
  obtain ⟨hhold, hreads⟩ := hclear.hexRequestorId behind .requesterId (vxRequesterId r)
  rw [Texts.clear_requestorId_size] at hhold hreads
  refine confined_iff hhold ?_ (fun _ => rfl) fun hcovered => ?_
  · show (∀ r ∈ (Texts.hexRequestorId _ _ _ _).reads, _) ↔ _
    rw [hreads]
    exact reads_within_iff _ _ _
  · exact Declared.Covered.hexOf_eq hcovered H.requestorId_pos _

/-- The reads of a text that may be absent. -/
theorem reads_within_if_iff (p : Prop) [Decidable p] (f : NiField) (d : Declared f.cap)
    (size : Nat) :
    (∀ r ∈ if p then (List.range (looked size d.len.toNat)).map (f, ·) else [], r.2 < r.1.cap) ↔
      (p → d.Covered size) := by
  split
  · rename_i hp
    rw [reads_within_iff]
    exact ⟨fun h _ => h, fun h => h hp⟩
  · rename_i hp
    exact ⟨fun _ h => absurd h hp, fun _ r hr => absurd hr List.not_mem_nil⟩

/-- So is a SUPL request. -/
theorem confined_supl (r : xdrRpcLocNiSuplNotifyVerifyReqSType.Val) :
    Confined H behind stack false (.supl r) ↔ (NiRequest.supl r).Covered H := by
  have hclear : (Texts.defaults H stack).clear.Hold [] [] := Texts.clear_hold
  obtain ⟨hname, hnameReads⟩ := hclear.hexTextIf behind
    (suplFlags r &&& rpcLocNiClientNamePresent ≠ 0) .clientNameString (suplClientName r)
  obtain ⟨hboth, hbothReads⟩ := hname.hexRequestorIdIf behind
    (suplFlags r &&& rpcLocNiRequestorIdPresent ≠ 0) .requestorIdString (suplRequestorId r)
  have hsize : (if suplFlags r &&& rpcLocNiClientNamePresent ≠ 0 then
      (Texts.defaults H stack).clear.hexText behind .clientNameString (suplClientName r)
      else (Texts.defaults H stack).clear).requestorId.size = H.requestorId := by
    split
    · exact Texts.clear_requestorId_size
    · exact Texts.clear_requestorId_size
  rw [hsize, Texts.clear_text_size] at hboth
  rw [hsize, hnameReads, Texts.clear_text_size] at hbothReads
  refine confined_iff hboth ?_ (fun hcovered => ?_) fun hcovered => ?_
  · have hreads : (niTexts H behind stack false (.supl r)).reads = _ := hbothReads
    have hnone : ∀ r ∈ (Texts.defaults H stack).clear.reads, r.2 < r.1.cap :=
      fun _ hr => absurd hr List.not_mem_nil
    rw [hreads, List.forall_mem_append, List.forall_mem_append, and_iff_right hnone]
    exact and_congr (reads_within_if_iff _ .clientNameString (suplClientName r) H.text)
      (reads_within_if_iff _ .requestorIdString (suplRequestorId r) H.requestorId)
  · exact ite_congr rfl (fun hp => (hcovered.1 hp).hexOf_eq H.text_pos _) fun _ => rfl
  · exact ite_congr rfl (fun hp => (hcovered.2 hp).hexOf_eq H.requestorId_pos _) fun _ => rfl

/-- The address is read within its array iff that holds all of it or the prefix is another. -/
theorem address_reads_within_iff (d : Declared NiField.extClientAddress.cap) (far : Nat → Byte) :
    (∀ r ∈ if d.len = 0 then [] else
        (if d.at far 0 ≠ addrPrefix then [0] else 0 :: List.range' 1 (d.len.toNat - 1)).map
          (NiField.extClientAddress, ·), r.2 < r.1.cap) ↔
      (d.len.toNat ≤ 20 ∨ d.bytes.toList.head? ≠ some addrPrefix) := by
  have hhead : d.bytes.toList.head? = some (d.at far 0) := by
    obtain ⟨bytes, len⟩ := d
    obtain ⟨b, rest, rfl⟩ := List.Vector.exists_eq_cons (n := 19) bytes
    rfl
  have hcap : NiField.extClientAddress.cap = 20 := rfl
  have hother : d.bytes.toList.head? ≠ some addrPrefix ↔ d.at far 0 ≠ addrPrefix := by
    rw [hhead, ne_eq, Option.some.injEq]
  rw [hother]
  by_cases hlen : d.len = 0
  · rw [if_pos hlen, hlen]
    exact ⟨fun _ => .inl (Nat.zero_le _), fun _ r hr => absurd hr List.not_mem_nil⟩
  rw [if_neg hlen]
  by_cases hprefix : d.at far 0 = addrPrefix
  · rw [if_neg (not_not.mpr hprefix)]
    constructor
    · intro hreads
      left
      by_contra hmore
      have hmem : (NiField.extClientAddress, 20) ∈
          (0 :: List.range' 1 (d.len.toNat - 1)).map (NiField.extClientAddress, ·) := by
        refine List.mem_map.mpr ⟨20, List.mem_cons_of_mem _ ?_, rfl⟩
        rw [List.mem_range'_1]
        omega
      exact absurd (hreads _ hmem) (Nat.lt_irrefl _)
    · rintro (hle | hdiffers)
      · intro r hr
        obtain ⟨i, hi, rfl⟩ := List.mem_map.mp hr
        show i < NiField.extClientAddress.cap
        rcases List.mem_cons.mp hi with rfl | hi
        · omega
        · rw [List.mem_range'_1] at hi
          omega
      · exact absurd hprefix hdiffers
  · rw [if_pos hprefix]
    constructor
    · intro _
      exact .inr hprefix
    · intro _ r hr
      rw [List.mem_singleton.mp hr]
      show 0 < NiField.extClientAddress.cap
      omega

/-- So is a UMTS CP request. -/
theorem confined_umtsCp (r : xdrRpcLocNiUmtsCpNotifyVerifyReqSType.Val) :
    Confined H behind stack false (.umtsCp r) ↔ (NiRequest.umtsCp r).Covered H := by
  have hclear : (Texts.defaults H stack).clear.Hold [] [] := Texts.clear_hold
  obtain ⟨hname, hnameReads⟩ :=
    hclear.hexText behind .notificationText (umtsNotificationText r)
  obtain ⟨hboth, hbothReads⟩ :=
    hname.hexRequestorId behind .requestorIdString (umtsRequestorId r)
  have hsize : ((Texts.defaults H stack).clear.hexText behind .notificationText
      (umtsNotificationText r)).requestorId.size = H.requestorId := Texts.clear_requestorId_size
  rw [hsize, Texts.clear_text_size] at hboth
  rw [hsize, hnameReads, Texts.clear_text_size] at hbothReads
  have hextras := CArray.Str.clear (a := (Texts.defaults H stack).extras) H.extras_pos
  have hlcs : 0 < ((Texts.defaults H stack).clear.lcsAddr).size := Nat.succ_pos 31
  have hall := hboth.lcsAddress behind ⟨[], hextras⟩ hlcs (umtsExtClientAddress r)
  have hallReads := Texts.lcsAddress_reads behind hboth.lcsAddr_inside hlcs
    (umtsExtClientAddress r)
  rw [hbothReads] at hallReads
  refine confined_iff hall ?_ (fun hcovered => ?_) fun hcovered => ?_
  · have hreads : (niTexts H behind stack false (.umtsCp r)).reads = _ := hallReads
    have hnone : ∀ r ∈ (Texts.defaults H stack).clear.reads, r.2 < r.1.cap :=
      fun _ hr => absurd hr List.not_mem_nil
    rw [hreads, List.forall_mem_append, List.forall_mem_append, List.forall_mem_append,
      and_iff_right hnone, and_assoc]
    exact and_congr (reads_within_iff .notificationText (umtsNotificationText r) H.text)
      (and_congr (reads_within_iff .requestorIdString (umtsRequestorId r) H.requestorId)
        (address_reads_within_iff (umtsExtClientAddress r) _))
  · exact hcovered.1.hexOf_eq H.text_pos _
  · exact hcovered.2.1.hexOf_eq H.requestorId_pos _

end Request

/-- **Length fields are kept within the arrays** iff no length of the request leads a loop
behind its array, or the request is ignored; an NMEA report passes on a length within its array
iff it declares one, or nobody asks. -/
theorem length_fields_confined_iff (H : GpsNiH) (behind : Behind) (stack : Nat → Byte) :
    (∀ (notifInProgress : Bool) (req : NiRequest),
      Confined H behind stack notifInProgress req ↔
        notifInProgress = true ∨ req.Covered H) ∧
    ∀ (cbSet : Bool) (report : xdrRpcLocNmeaReportSType.Val),
      (∀ length, locEngReportNmea cbSet report = some length → length ≤ nmeaSentencesSize) ↔
        cbSet = false ∨ BitVec.toNat (report.1 : BitVec 16) ≤ nmeaSentencesSize := by
  constructor
  · intro notifInProgress req
    cases notifInProgress with
    | true =>
      have hconfined : Confined H behind stack true req :=
        ⟨fun _ hr => absurd hr List.not_mem_nil, Texts.defaults_hold⟩
      exact ⟨fun _ => .inl rfl, fun _ => hconfined⟩
    | false =>
      have hcases : Confined H behind stack false req ↔ req.Covered H := by
        cases req with
        | vx r => exact confined_vx r
        | umtsCp r => exact confined_umtsCp r
        | supl r => exact confined_supl r
      rw [hcases]
      exact ⟨.inr, fun h => h.resolve_left Bool.false_ne_true⟩
  · intro cbSet report
    cases cbSet with
    | false => exact ⟨fun _ => .inl rfl, fun _ length h => absurd h nofun⟩
    | true =>
      constructor
      · intro h
        exact .inr (h _ rfl)
      · rintro (h | h) length hlength
        · cases h
        · cases hlength
          exact h

/-- As in the platform's hardware/gps.h: 256 characters for the requestor, 2048 for the others. -/
def gpsNiH : GpsNiH := ⟨256, 2048, 2048, by decide, by decide, by decide⟩

/-- A UMTS control-plane request that declares 65 bytes of text; the array has 64. -/
def longNotification : xdrRpcLocNiUmtsCpNotifyVerifyReqSType.Val :=
  let zero := Ty.zero xdrRpcLocNiUmtsCpNotifyVerifyReqSType
  (zero.1, zero.2.1, zero.2.2.1, 65#8, zero.2.2.2.2)

theorem long_lengths_not_confined :
    ¬ Confined gpsNiH (fun _ _ => 0) (fun _ => 0) false (.umtsCp longNotification) ∧
    ∃ report : xdrRpcLocNmeaReportSType.Val,
      locEngReportNmea true report = some 201 ∧ ¬ 201 ≤ nmeaSentencesSize := by
  constructor
  · rw [confined_umtsCp]
    rintro ⟨hcovered, -⟩
    exact absurd hcovered (show ¬ looked gpsNiH.text 65 ≤ 64 by decide)
  · exact ⟨(201#16, (Ty.zero xdrRpcLocNmeaReportSType).2), rfl, by decide⟩

end Ancora.LocEng.NiText
