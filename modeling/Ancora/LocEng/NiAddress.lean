import Ancora.LocEng.NiText

/-!
# Telephone numbers of LCS clients (loc_eng_ni.cpp:224–261)

"E.g., 91 21 F3 --> "123". The 91 is a prefix, hex digits are reversed in order. 0xF means the
absence of a digit." `NiText` has the code of `decode_address` and what it makes of a request;
here is the encoding that it undoes.

- `encodeAddress`: a number as it is sent; `decimals`: what stands in any bytes behind the
  prefix, be they such an encoding or not.
- `Frame`: what the loop has not written yet is as it was.
- **`decodeAddress_inverts`**: the decoded string is the number, cut to what fits, and nothing
  but the string and its terminating zero is written.
-/

namespace Ancora.LocEng.NiText

open Xdr LocApi CText

/-! ## The encoding -/

/-- The digits two per byte, the low nibble first; 0xF fills the last one. -/
def packDigits : List (Fin 10) → List Byte
  | [] => []
  | [lo] => [BitVec.ofNat 8 (lo.val + 16 * 0xF)]
  | lo :: hi :: rest => BitVec.ofNat 8 (lo.val + 16 * hi.val) :: packDigits rest

/-- A telephone number as it is sent. -/
def encodeAddress (digits : List (Fin 10)) : List Byte := addrPrefix :: packDigits digits

/-- `'0'` to `'9'`. -/
def digitChar (d : Nat) : Byte := BitVec.ofNat 8 (d + 0x30)

/-- The two nibbles of a byte. -/
def nibbles (ch : Byte) : List Nat := [ch.toNat % 16, ch.toNat / 16]

/-- The nibbles that are decimal digits. -/
def decimals (bytes : List Byte) : List Nat := (bytes.flatMap nibbles).filter (· ≤ 9)

/-- These bytes in memory, and what lies behind them. -/
def placed (bytes : List Byte) (behind : Nat → Byte) (k : Nat) : Byte := bytes.getD k (behind k)

/-- The array holds `s` and a zero, and nothing else of it was written. -/
structure Wrote (cells : Nat → Byte) (out : CArray Byte) (s : List Byte) : Prop where
  starts : out.Starts (s ++ [0])
  rest : ∀ k, s.length < k → out.cells k = cells k
  touched : out.touched = List.range (s.length + 1)

theorem nibbles_pack (lo hi : Nat) (hlo : lo < 16) (hhi : hi < 16) :
    nibbles (BitVec.ofNat 8 (lo + 16 * hi)) = [lo, hi] := by
  have hsum : lo + 16 * hi < 256 := by omega
  have hnat : (BitVec.ofNat 8 (lo + 16 * hi)).toNat = lo + 16 * hi := by
    rw [BitVec.toNat_ofNat]
    exact Nat.mod_eq_of_lt hsum
  have hlow : (lo + 16 * hi) % 16 = lo := by omega
  have hhigh : (lo + 16 * hi) / 16 = hi := by omega
  rw [nibbles, hnat, hlow, hhigh]

theorem decimals_cons (ch : Byte) (bytes : List Byte) :
    decimals (ch :: bytes) = (nibbles ch).filter (· ≤ 9) ++ decimals bytes := by
  rw [decimals, List.flatMap_cons, List.filter_append, decimals]

/-- The encoding holds the digits of the number, in order. -/
theorem decimals_packDigits (digits : List (Fin 10)) :
    decimals (packDigits digits) = digits.map Fin.val := by
  induction digits using packDigits.induct with
  | case1 => rfl
  | case2 lo =>
    have hlo := lo.isLt
    have hkeep : [lo.val, 0xF].filter (· ≤ 9) = [lo.val] := by
      revert lo
      decide
    rw [packDigits, decimals_cons, nibbles_pack _ _ (by omega) (by omega), hkeep]
    rfl
  | case3 lo hi rest ih =>
    have hlo := lo.isLt
    have hhi := hi.isLt
    have hkeep : [lo.val, hi.val].filter (· ≤ 9) = [lo.val, hi.val] := by
      revert lo hi
      decide
    rw [packDigits, decimals_cons, nibbles_pack _ _ (by omega) (by omega), hkeep, ih]
    rfl

/-! ## The loop -/

/-- The loop writes the cells one after the other. -/
structure Frame (cells : Nat → Byte) (p : CArray Byte × Nat) : Prop where
  rest : ∀ k, p.2 ≤ k → p.1.cells k = cells k
  touched : p.1.touched = List.range p.2

theorem Frame.putDigit {cells : Nat → Byte} {p : CArray Byte × Nat} (h : Frame cells p)
    (d : Nat) : Frame cells (putDigit d p) := by
  unfold NiText.putDigit
  split
  · constructor
    · intro k hk
      have hne : k ≠ p.2 := by
        dsimp only at hk
        omega
      exact (if_neg hne).trans (h.rest k (by dsimp only at hk; omega))
    · show p.1.touched ++ [p.2] = List.range (p.2 + 1)
      rw [h.touched, List.range_succ]
  · exact h

theorem Frame.addrLoop {cells : Nat → Byte} (data : Nat → Byte) (n : Nat)
    {p : CArray Byte × Nat} (h : Frame cells p) (i : Nat) :
    Frame cells (addrLoop data p i n) := by
  induction n generalizing p i with
  | zero => exact h
  | succ n ih => exact ih ((h.putDigit _).putDigit _) (i + 1)

/-- The bytes of the loop are the ones behind the prefix. -/
theorem range_placed (bytes : List Byte) (behind : Nat → Byte) :
    (List.range' 1 bytes.length).map (placed (addrPrefix :: bytes) behind) = bytes := by
  refine List.ext_getElem (by simp) fun k hk hk' => ?_
  rw [List.getElem_map, List.getElem_range', Nat.one_mul, Nat.add_comm, placed,
    List.getD_cons_succ, List.getD_eq_getElem?_getD, List.getElem?_eq_getElem hk',
    Option.getD_some]

theorem addrDigit_eq (d : Nat) : addrDigit d = ([d].filter (· ≤ 9)).map digitChar := by
  unfold addrDigit
  split
  · rename_i h
    simp [h, digitChar]
  · rename_i h
    simp [h]

/-- What the loop writes for these bytes. -/
theorem flatMap_addrDigits (bytes : List Byte) :
    bytes.flatMap addrDigits = (decimals bytes).map digitChar := by
  induction bytes with
  | nil => rfl
  | cons ch bytes ih =>
    have hpair : nibbles ch = [ch.toNat % 16] ++ [ch.toNat / 16] := rfl
    rw [List.flatMap_cons, ih, decimals_cons, hpair, List.filter_append, List.map_append,
      List.map_append, addrDigits, addrDigit_eq, addrDigit_eq]

/-! ## The result -/

/-- Any bytes behind the prefix are decoded to the decimal digits among their nibbles. -/
theorem decodeAddress_decimals (stringSize : Nat) (cells behind : Nat → Byte)
    (bytes : List Byte) :
    (decodeAddress ⟨stringSize, cells, []⟩ (placed (addrPrefix :: bytes) behind)
      (addrPrefix :: bytes).length).ret = min (decimals bytes).length (stringSize - 1) ∧
    Wrote cells
      (decodeAddress ⟨stringSize, cells, []⟩ (placed (addrPrefix :: bytes) behind)
        (addrPrefix :: bytes).length).out
      (((decimals bytes).take (stringSize - 1)).map digitChar) := by
  have hprefix : ¬ placed (addrPrefix :: bytes) behind 0 ≠ addrPrefix := fun h => h rfl
  have hlength : (addrPrefix :: bytes).length - 1 = bytes.length := rfl
  have hstart : Addr (⟨stringSize, cells, []⟩, 0) stringSize [] := by
    refine ⟨rfl, fun k hk => (by cases hk), ?_, ?_⟩
    · rw [List.take_nil]
      rfl
    · rw [List.take_nil]
      rfl
  have hloop := addrLoop_spec (placed (addrPrefix :: bytes) behind) bytes.length hstart 1
  rw [List.nil_append, ← List.flatMap_map, range_placed, flatMap_addrDigits] at hloop
  have hframe : Frame cells (addrLoop (placed (addrPrefix :: bytes) behind)
      (⟨stringSize, cells, []⟩, 0) 1 bytes.length) := by
    have hempty : Frame cells (⟨stringSize, cells, []⟩, 0) := ⟨fun k _ => rfl, rfl⟩
    exact hempty.addrLoop _ bytes.length 1
  unfold decodeAddress
  rw [if_neg hprefix, hlength]
  generalize addrLoop (placed (addrPrefix :: bytes) behind)
    (⟨stringSize, cells, []⟩, 0) 1 bytes.length = p at hloop hframe
  obtain ⟨-, -, hstarts, hlen⟩ := hloop
  rw [← List.map_take] at hstarts hlen
  refine ⟨?_, ?_, ?_, ?_⟩
  · show p.2 = _
    rw [← hlen, List.length_map, List.length_take, Nat.min_comm]
  · show (p.1.set p.2 0).Starts _
    rw [← hlen]
    exact hstarts.set 0
  · intro k hk
    rw [hlen] at hk
    exact (if_neg (by omega)).trans (hframe.rest k (by omega))
  · show p.1.touched ++ [p.2] = _
    rw [hlen, hframe.touched, List.range_succ]

/-- `decode_address` undoes the encoding of a telephone number, and of any bytes behind the
prefix it shows the decimal digits; both up to the size of the string. -/
theorem decodeAddress_inverts (stringSize : Nat) (cells behind : Nat → Byte) :
    (∀ digits : List (Fin 10),
      (decodeAddress ⟨stringSize, cells, []⟩ (placed (encodeAddress digits) behind)
        (encodeAddress digits).length).ret = min digits.length (stringSize - 1) ∧
      Wrote cells
        (decodeAddress ⟨stringSize, cells, []⟩ (placed (encodeAddress digits) behind)
          (encodeAddress digits).length).out
        ((digits.take (min digits.length (stringSize - 1))).map fun d => digitChar d.val)) ∧
    ∀ bytes : List Byte,
      (decodeAddress ⟨stringSize, cells, []⟩ (placed (addrPrefix :: bytes) behind)
        (addrPrefix :: bytes).length).ret = min (decimals bytes).length (stringSize - 1) ∧
      Wrote cells
        (decodeAddress ⟨stringSize, cells, []⟩ (placed (addrPrefix :: bytes) behind)
          (addrPrefix :: bytes).length).out
        (((decimals bytes).take (stringSize - 1)).map digitChar) := by
  refine ⟨fun digits => ?_, decodeAddress_decimals stringSize cells behind⟩
  obtain ⟨hret, hwrote⟩ := decodeAddress_decimals stringSize cells behind (packDigits digits)
  rw [decimals_packDigits] at hret hwrote
  rw [List.length_map] at hret
  rw [← List.map_take, List.map_map] at hwrote
  refine ⟨hret, ?_⟩
  rw [Nat.min_comm, ← List.take_eq_take_min]
  exact hwrote

-- the number of the comment in the source
example : (List.range 4).map (decodeAddress ⟨32, fun _ => 0x55, []⟩
    (placed [0x91, 0x21, 0xF3] fun _ => 0) 3).out.cells = [0x31, 0x32, 0x33, 0] := by decide

end Ancora.LocEng.NiText
