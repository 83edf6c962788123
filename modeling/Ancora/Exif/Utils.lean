import Ancora.Lib.Block
import Mathlib.Tactic.IntervalCases

/-!
# Numbers in EXIF data (libexifa/exif-utils.c, exif-format.c)

EXIF data is written in one of two byte orders. `exif_get_*` and `exif_set_*` read and write a
number at a place of a block, and `exif_array_set_byte_order` rewrites an array of components from
one order to the other.

- `exifGetShort`, `exifGetLong`, `exifGetRational` and their `exifSet…`. A signed number has the
  bits of the unsigned one, and so the signed functions are these.
- `ExifValue`: what a component is, without its byte order. The library reads six of the twelve
  formats as numbers; of the others it knows the bytes.
- **`exifArraySetByteOrder_eq`**: rewriting keeps the components, and touches nothing else.
-/

namespace Ancora.Exif

abbrev Byte := BitVec 8

inductive ExifByteOrder
  | motorola
  | intel
  deriving DecidableEq, Repr

/-! ## Formats (exif-format.c) -/

inductive ExifFormat
  | byte
  | ascii
  | short
  | long
  | rational
  | sbyte
  | undefined
  | sshort
  | slong
  | srational
  | float
  | double
  deriving DecidableEq, Repr

namespace ExifFormat

def code : ExifFormat → BitVec 16
  | byte => 1
  | ascii => 2
  | short => 3
  | long => 4
  | rational => 5
  | sbyte => 6
  | undefined => 7
  | sshort => 8
  | slong => 9
  | srational => 10
  | float => 11
  | double => 12

/-- `ExifFormatTable` has a size for these. -/
def table : List ExifFormat :=
  [short, rational, srational, undefined, ascii, long, byte, sbyte, sshort, slong, float, double]

/-- The format with this code, if there is one. -/
def ofCode? (c : BitVec 16) : Option ExifFormat := table.find? fun f => f.code == c

/-- `exif_format_get_size` -/
def size : ExifFormat → Nat
  | short => 2
  | rational => 8
  | srational => 8
  | undefined => 1
  | ascii => 1
  | long => 4
  | byte => 1
  | sbyte => 1
  | sshort => 2
  | slong => 4
  | float => 4
  | double => 8

@[simp] theorem ofCode?_code (f : ExifFormat) : ofCode? f.code = some f := by
  cases f <;> rfl

/-- Every format has a size. -/
theorem size_pos (f : ExifFormat) : 0 < f.size := by
  cases f <;> decide

/-- A component has at most eight bytes. -/
theorem size_le (f : ExifFormat) : f.size ≤ 8 := by
  cases f <;> decide

end ExifFormat

/-- `exif_format_get_size` of a number that was read as a format: zero if it is none. -/
def exifFormatGetSize (c : BitVec 16) : Nat := ((ExifFormat.ofCode? c).map ExifFormat.size).getD 0

@[simp] theorem exifFormatGetSize_code (f : ExifFormat) : exifFormatGetSize f.code = f.size := by
  rw [exifFormatGetSize, ExifFormat.ofCode?_code]
  rfl

/-! ## Numbers -/

/-- `exif_get_short`, `exif_get_sshort` -/
def exifGetShort (d : List Byte) (i : Nat) (order : ExifByteOrder) : Option (BitVec 16) := do
  let b0 ← d[i]?
  let b1 ← d[i + 1]?
  match order with
  | .motorola => some (b0.setWidth 16 <<< 8 ||| b1.setWidth 16)
  | .intel => some (b1.setWidth 16 <<< 8 ||| b0.setWidth 16)

/-- `exif_get_long`, `exif_get_slong` -/
def exifGetLong (d : List Byte) (i : Nat) (order : ExifByteOrder) : Option (BitVec 32) := do
  let b0 ← d[i]?
  let b1 ← d[i + 1]?
  let b2 ← d[i + 2]?
  let b3 ← d[i + 3]?
  match order with
  | .motorola =>
    some (b0.setWidth 32 <<< 24 ||| b1.setWidth 32 <<< 16 ||| b2.setWidth 32 <<< 8 |||
      b3.setWidth 32)
  | .intel =>
    some (b3.setWidth 32 <<< 24 ||| b2.setWidth 32 <<< 16 ||| b1.setWidth 32 <<< 8 |||
      b0.setWidth 32)

/-- What `exif_set_short` writes. -/
def shortBytes : ExifByteOrder → BitVec 16 → List Byte
  | .motorola, v => [(v >>> 8).setWidth 8, v.setWidth 8]
  | .intel, v => [v.setWidth 8, (v >>> 8).setWidth 8]

/-- What `exif_set_long` writes. -/
def longBytes : ExifByteOrder → BitVec 32 → List Byte
  | .motorola, v => [(v >>> 24).setWidth 8, (v >>> 16).setWidth 8, (v >>> 8).setWidth 8,
      v.setWidth 8]
  | .intel, v => [v.setWidth 8, (v >>> 8).setWidth 8, (v >>> 16).setWidth 8,
      (v >>> 24).setWidth 8]

/-- `exif_set_short`, `exif_set_sshort` -/
def exifSetShort (d : List Byte) (i : Nat) (order : ExifByteOrder) (v : BitVec 16) :
    Option (List Byte) :=
  Block.write d i (shortBytes order v)

/-- `exif_set_long`, `exif_set_slong` -/
def exifSetLong (d : List Byte) (i : Nat) (order : ExifByteOrder) (v : BitVec 32) :
    Option (List Byte) :=
  Block.write d i (longBytes order v)

/-- `ExifRational`, `ExifSRational` -/
structure ExifRational where
  numerator : BitVec 32
  denominator : BitVec 32
  deriving DecidableEq, Repr

/-- `exif_get_rational`, `exif_get_srational` -/
def exifGetRational (d : List Byte) (i : Nat) (order : ExifByteOrder) : Option ExifRational := do
  let numerator ← exifGetLong d i order
  let denominator ← exifGetLong d (i + 4) order
  some ⟨numerator, denominator⟩

/-- `exif_set_rational`, `exif_set_srational` -/
def exifSetRational (d : List Byte) (i : Nat) (order : ExifByteOrder) (v : ExifRational) :
    Option (List Byte) := do
  let d ← exifSetLong d i order v.numerator
  exifSetLong d (i + 4) order v.denominator

def rationalBytes (order : ExifByteOrder) (v : ExifRational) : List Byte :=
  longBytes order v.numerator ++ longBytes order v.denominator

@[simp] theorem length_shortBytes (order : ExifByteOrder) (v : BitVec 16) :
    (shortBytes order v).length = 2 := by
  cases order <;> rfl

@[simp] theorem length_longBytes (order : ExifByteOrder) (v : BitVec 32) :
    (longBytes order v).length = 4 := by
  cases order <;> rfl

@[simp] theorem length_rationalBytes (order : ExifByteOrder) (v : ExifRational) :
    (rationalBytes order v).length = 8 := by
  simp [rationalBytes]

/-- A short is found again in its two bytes. -/
theorem short_of_bytes (v : BitVec 16) :
    ((v >>> 8).setWidth 8).setWidth 16 <<< 8 ||| (v.setWidth 8).setWidth 16 = v := by
  ext i hi
  interval_cases i <;> simp

/-- A long is found again in its four bytes. -/
theorem long_of_bytes (v : BitVec 32) :
    ((v >>> 24).setWidth 8).setWidth 32 <<< 24 ||| ((v >>> 16).setWidth 8).setWidth 32 <<< 16 |||
      ((v >>> 8).setWidth 8).setWidth 32 <<< 8 ||| (v.setWidth 8).setWidth 32 = v := by
  ext i hi
  interval_cases i <;> simp

/-- Any two bytes are a short in either order. -/
theorem exists_shortBytes (order : ExifByteOrder) (a b : Byte) :
    ∃ v, shortBytes order v = [a, b] := by
  have hhigh (x y : Byte) :
      ((x.setWidth 16 <<< 8 ||| y.setWidth 16) >>> 8).setWidth 8 = x := by
    ext i hi
    interval_cases i <;> simp
  have hlow (x y : Byte) : (x.setWidth 16 <<< 8 ||| y.setWidth 16).setWidth 8 = y := by
    ext i hi
    interval_cases i <;> simp
  cases order with
  | motorola =>
    exact ⟨a.setWidth 16 <<< 8 ||| b.setWidth 16, by simp only [shortBytes, hhigh, hlow]⟩
  | intel =>
    exact ⟨b.setWidth 16 <<< 8 ||| a.setWidth 16, by simp only [shortBytes, hhigh, hlow]⟩

/-- Any four bytes are a long in either order. -/
theorem exists_longBytes (order : ExifByteOrder) (seg : List Byte) (h : seg.length = 4) :
    ∃ v, longBytes order v = seg := by
  have hbytes (w x y z : Byte) : ∃ v : BitVec 32, (v >>> 24).setWidth 8 = w ∧
      (v >>> 16).setWidth 8 = x ∧ (v >>> 8).setWidth 8 = y ∧ v.setWidth 8 = z := by
    refine ⟨w.setWidth 32 <<< 24 ||| x.setWidth 32 <<< 16 ||| y.setWidth 32 <<< 8 |||
      z.setWidth 32, ?_, ?_, ?_, ?_⟩ <;>
    · ext i hi
      interval_cases i <;> simp
  obtain ⟨w, x, y, z, rfl⟩ := List.length_eq_four.mp h
  cases order with
  | motorola =>
    obtain ⟨v, hw, hx, hy, hz⟩ := hbytes w x y z
    exact ⟨v, by simp only [longBytes, hw, hx, hy, hz]⟩
  | intel =>
    obtain ⟨v, hw, hx, hy, hz⟩ := hbytes z y x w
    exact ⟨v, by simp only [longBytes, hw, hx, hy, hz]⟩

section Reading

variable {d : List Byte} {i : Nat} {order : ExifByteOrder}

/-- A short is read where it lies. -/
theorem exifGetShort_of_at {v : BitVec 16} (h : Block.At d i (shortBytes order v)) :
    exifGetShort d i order = some v := by
  cases order with
  | motorola =>
    simp only [shortBytes, Block.At.cons_iff] at h
    simp [exifGetShort, h.1, h.2.1, short_of_bytes]
  | intel =>
    simp only [shortBytes, Block.At.cons_iff] at h
    simp [exifGetShort, h.1, h.2.1, short_of_bytes]

/-- A long is read where it lies. -/
theorem exifGetLong_of_at {v : BitVec 32} (h : Block.At d i (longBytes order v)) :
    exifGetLong d i order = some v := by
  cases order with
  | motorola =>
    simp only [longBytes, Block.At.cons_iff] at h
    simp [exifGetLong, h.1, h.2.1, h.2.2.1, h.2.2.2.1, long_of_bytes]
  | intel =>
    simp only [longBytes, Block.At.cons_iff] at h
    simp [exifGetLong, h.1, h.2.1, h.2.2.1, h.2.2.2.1, long_of_bytes]

/-- A rational is read where it lies. -/
theorem exifGetRational_of_at {v : ExifRational} (h : Block.At d i (rationalBytes order v)) :
    exifGetRational d i order = some v := by
  rw [rationalBytes, Block.At.append_iff, length_longBytes] at h
  simp [exifGetRational, exifGetLong_of_at h.1, exifGetLong_of_at h.2]

end Reading

/-! ## Arrays of components -/

/-- A component: a number, or bytes. -/
inductive ExifValue
  | short (v : BitVec 16)
  | long (v : BitVec 32)
  | rational (v : ExifRational)
  | bytes (bs : List Byte)
  deriving DecidableEq, Repr

/-- The component as it is written. -/
def ExifValue.write (order : ExifByteOrder) : ExifValue → List Byte
  | .short v => shortBytes order v
  | .long v => longBytes order v
  | .rational v => rationalBytes order v
  | .bytes bs => bs

/-- A component of an array of format `f`. -/
def ExifValue.OfFormat (f : ExifFormat) (v : ExifValue) : Prop :=
  match f, v with
  | .short, .short _ | .sshort, .short _ => True
  | .long, .long _ | .slong, .long _ => True
  | .rational, .rational _ | .srational, .rational _ => True
  | .byte, .bytes bs | .ascii, .bytes bs | .sbyte, .bytes bs | .undefined, .bytes bs
  | .float, .bytes bs | .double, .bytes bs => bs.length = f.size
  | _, _ => False

/-- The component at `i`, as the library reads it. -/
def exifGetValue (d : List Byte) (i : Nat) (order : ExifByteOrder) (f : ExifFormat) :
    Option ExifValue :=
  match f with
  | .short | .sshort => (exifGetShort d i order).map .short
  | .long | .slong => (exifGetLong d i order).map .long
  | .rational | .srational => (exifGetRational d i order).map .rational
  | .byte | .ascii | .sbyte | .undefined | .float | .double => (Block.read d i f.size).map .bytes

/-- The loop of `exif_array_set_byte_order`: `convert` at `j * fs` for `n` values of `j`. -/
def eachComponent (convert : List Byte → Nat → Option (List Byte)) (fs : Nat) :
    Nat → Nat → List Byte → Option (List Byte)
  | 0, _, b => some b
  | n + 1, j, b => do
    let b ← convert b (j * fs % 4294967296)
    eachComponent convert fs n (j + 1) b

def convertShort (orig new : ExifByteOrder) (b : List Byte) (i : Nat) : Option (List Byte) := do
  let s ← exifGetShort b i orig
  exifSetShort b i new s

def convertLong (orig new : ExifByteOrder) (b : List Byte) (i : Nat) : Option (List Byte) := do
  let l ← exifGetLong b i orig
  exifSetLong b i new l

def convertRational (orig new : ExifByteOrder) (b : List Byte) (i : Nat) :
    Option (List Byte) := do
  let r ← exifGetRational b i orig
  exifSetRational b i new r

/-- `exif_array_set_byte_order`; `b` is NULL when it has no bytes. -/
def exifArraySetByteOrder (f : ExifFormat) (b : List Byte) (n : Nat)
    (orig new : ExifByteOrder) : Option (List Byte) :=
  if b = [] ∨ n = 0 then some b
  else
    match f with
    | .short | .sshort => eachComponent (convertShort orig new) f.size n 0 b
    | .long | .slong => eachComponent (convertLong orig new) f.size n 0 b
    | .rational | .srational => eachComponent (convertRational orig new) f.size n 0 b
    | .byte | .ascii | .sbyte | .undefined | .float | .double => some b

section Arrays

variable {f : ExifFormat} {order orig new : ExifByteOrder} {v : ExifValue}

/-- A component takes as many bytes as its format says. -/
theorem ExifValue.OfFormat.length (h : v.OfFormat f) : (v.write order).length = f.size := by
  cases f <;> cases v <;> first
    | exact h.elim
    | exact h
    | simp [ExifValue.write, ExifFormat.size]

/-- A component is read where it lies. -/
theorem exifGetValue_of_at {d : List Byte} {i : Nat} (hv : v.OfFormat f)
    (h : Block.At d i (v.write order)) : exifGetValue d i order f = some v := by
  cases v with
  | short v =>
    have hget := exifGetShort_of_at h
    cases f <;> first
      | exact hv.elim
      | simp [exifGetValue, hget]
  | long v =>
    have hget := exifGetLong_of_at h
    cases f <;> first
      | exact hv.elim
      | simp [exifGetValue, hget]
  | rational v =>
    have hget := exifGetRational_of_at h
    cases f <;> first
      | exact hv.elim
      | simp [exifGetValue, hget]
  | bytes bs =>
    have hget : Block.read d i bs.length = some bs := h
    cases f <;> first
      | exact hv.elim
      | (rw [show bs.length = _ from hv] at hget; simp [exifGetValue, hget])

/-- Bytes of the right number are a component. -/
theorem exists_value (f : ExifFormat) (order : ExifByteOrder) (seg : List Byte)
    (h : seg.length = f.size) : ∃ v : ExifValue, v.OfFormat f ∧ v.write order = seg := by
  have hshort (hlen : seg.length = 2) : ∃ v, shortBytes order v = seg := by
    obtain ⟨a, b, rfl⟩ := List.length_eq_two.mp hlen
    exact exists_shortBytes order a b
  have hlong (hlen : seg.length = 4) : ∃ v, longBytes order v = seg :=
    exists_longBytes order _ hlen
  have hrational (hlen : seg.length = 8) : ∃ v, rationalBytes order v = seg := by
    obtain ⟨n, hn⟩ := exists_longBytes order (seg.take 4) (by simp [hlen])
    obtain ⟨m, hm⟩ := exists_longBytes order (seg.drop 4) (by simp [hlen])
    exact ⟨⟨n, m⟩, by rw [rationalBytes, hn, hm, List.take_append_drop]⟩
  cases f with
  | short | sshort =>
    obtain ⟨v, hv⟩ := hshort h
    exact ⟨.short v, trivial, hv⟩
  | long | slong =>
    obtain ⟨v, hv⟩ := hlong h
    exact ⟨.long v, trivial, hv⟩
  | rational | srational =>
    obtain ⟨v, hv⟩ := hrational h
    exact ⟨.rational v, trivial, hv⟩
  | byte | ascii | sbyte | undefined | float | double => exact ⟨.bytes seg, h, rfl⟩

/-- A block with room for `n` components holds `n` components. -/
theorem exists_values (f : ExifFormat) (order : ExifByteOrder) :
    ∀ (n : Nat) {d : List Byte}, n * f.size ≤ d.length →
      ∃ (vs : List ExifValue) (rest : List Byte), vs.length = n ∧ (∀ v ∈ vs, v.OfFormat f) ∧
        d = vs.flatMap (·.write order) ++ rest
  | 0, d, _ => ⟨[], d, rfl, fun _ h => (List.not_mem_nil h).elim, rfl⟩
  | n + 1, d, h => by
    rw [Nat.succ_mul] at h
    obtain ⟨v, hv, hseg⟩ := exists_value f order (d.take f.size) (by simp; omega)
    obtain ⟨vs, rest, hlen, hvs, hrest⟩ :=
      exists_values f order n (d := d.drop f.size) (by rw [List.length_drop]; omega)
    refine ⟨v :: vs, rest, by rw [List.length_cons, hlen], ?_, ?_⟩
    · intro w hw
      rcases List.mem_cons.mp hw with rfl | hw
      · exact hv
      · exact hvs w hw
    · rw [List.flatMap_cons, hseg, List.append_assoc, ← hrest, List.take_append_drop]

/-- The array of the components has the size of the format times their number. -/
theorem length_flatMap_write (order : ExifByteOrder) {vs : List ExifValue}
    (h : ∀ v ∈ vs, v.OfFormat f) :
    (vs.flatMap (·.write order)).length = vs.length * f.size := by
  induction vs with
  | nil => simp
  | cons v vs ih =>
    have hv : (v.write order).length = f.size := (h v List.mem_cons_self).length
    have hvs := ih fun w hw => h w (List.mem_cons_of_mem v hw)
    rw [List.flatMap_cons, List.length_append, hv, hvs, List.length_cons, Nat.succ_mul]
    omega

/-- The components that were written are read. -/
theorem exifGetValue_flatMap {vs : List ExifValue} (h : ∀ v ∈ vs, v.OfFormat f)
    (rest : List Byte) (j : Nat) (hj : j < vs.length) :
    exifGetValue (vs.flatMap (·.write order) ++ rest) (j * f.size) order f = some vs[j] := by
  refine exifGetValue_of_at (h _ (List.getElem_mem hj)) ?_
  have hbefore : ((vs.take j).flatMap (·.write order)).length = j * f.size := by
    rw [length_flatMap_write order fun v hv => h v (List.mem_of_mem_take hv), List.length_take]
    congr 1
    omega
  have hsplit : vs.flatMap (·.write order) = (vs.take j).flatMap (·.write order) ++
      (vs[j].write order ++ (vs.drop (j + 1)).flatMap (·.write order)) := by
    conv_lhs => rw [← List.take_append_drop j vs, List.drop_eq_getElem_cons hj]
    rw [List.flatMap_append, List.flatMap_cons]
  rw [hsplit, ← List.append_assoc, List.append_assoc _ _ rest, ← hbefore]
  exact Block.at_mid _ _ _

/-- `convert` rewrites one component. -/
def Converts (f : ExifFormat) (orig new : ExifByteOrder)
    (convert : List Byte → Nat → Option (List Byte)) : Prop :=
  ∀ (v : ExifValue) (a c : List Byte), v.OfFormat f →
    convert (a ++ v.write orig ++ c) a.length = some (a ++ v.write new ++ c)

/-- Shorts are rewritten in the other order. -/
theorem converts_short (hf : f = .short ∨ f = .sshort) :
    Converts f orig new (convertShort orig new) := by
  intro v a c hv
  cases v with
  | short v =>
    have hget := exifGetShort_of_at (Block.at_mid a (shortBytes orig v) c)
    show convertShort orig new (a ++ shortBytes orig v ++ c) a.length = _
    rw [convertShort, hget]
    exact Block.write_mid (by simp) rfl
  | long v => rcases hf with rfl | rfl <;> exact hv.elim
  | rational v => rcases hf with rfl | rfl <;> exact hv.elim
  | bytes v => rcases hf with rfl | rfl <;> exact hv.elim

/-- Longs are rewritten in the other order. -/
theorem converts_long (hf : f = .long ∨ f = .slong) :
    Converts f orig new (convertLong orig new) := by
  intro v a c hv
  cases v with
  | long v =>
    have hget := exifGetLong_of_at (Block.at_mid a (longBytes orig v) c)
    show convertLong orig new (a ++ longBytes orig v ++ c) a.length = _
    rw [convertLong, hget]
    exact Block.write_mid (by simp) rfl
  | short v => rcases hf with rfl | rfl <;> exact hv.elim
  | rational v => rcases hf with rfl | rfl <;> exact hv.elim
  | bytes v => rcases hf with rfl | rfl <;> exact hv.elim

/-- A rational is written over the eight bytes at its place and over no others. -/
theorem exifSetRational_mid {a c old : List Byte} {v : ExifRational} (h : old.length = 8) :
    exifSetRational (a ++ old ++ c) a.length order v = some (a ++ rationalBytes order v ++ c) := by
  have hold : a ++ old ++ c = a ++ old.take 4 ++ (old.drop 4 ++ c) := by
    rw [List.append_assoc, List.append_assoc, ← List.append_assoc (old.take 4),
      List.take_append_drop]
  have hfirst : Block.write (a ++ old ++ c) a.length (longBytes order v.numerator) =
      some (a ++ longBytes order v.numerator ++ (old.drop 4 ++ c)) := by
    rw [hold]
    exact Block.write_mid (by simp [h]) rfl
  rw [exifSetRational, exifSetLong, hfirst, ← List.append_assoc]
  show Block.write _ _ _ = _
  rw [Block.write_mid (by simp [h]) (by simp), rationalBytes, ← List.append_assoc]

/-- Rationals are rewritten number by number. -/
theorem converts_rational (orig new : ExifByteOrder) (hf : f = .rational ∨ f = .srational) :
    Converts f orig new (convertRational orig new) := by
  intro v a c hv
  cases v with
  | rational v =>
    have hget := exifGetRational_of_at (Block.at_mid a (rationalBytes orig v) c)
    show convertRational orig new (a ++ rationalBytes orig v ++ c) a.length = _
    rw [convertRational, hget]
    exact exifSetRational_mid (by simp)
  | short v => rcases hf with rfl | rfl <;> exact hv.elim
  | long v => rcases hf with rfl | rfl <;> exact hv.elim
  | bytes v => rcases hf with rfl | rfl <;> exact hv.elim

/-- **Run lemma**: the loop rewrites every component. -/
theorem Converts.eachComponent {convert : List Byte → Nat → Option (List Byte)}
    (h : Converts f orig new convert) (rest : List Byte) :
    ∀ (vs : List ExifValue) {a : List Byte} {j : Nat}, (∀ v ∈ vs, v.OfFormat f) →
      a.length = j * f.size → (j + vs.length) * f.size < 4294967296 →
      Exif.eachComponent convert f.size vs.length j (a ++ vs.flatMap (·.write orig) ++ rest) =
        some (a ++ vs.flatMap (·.write new) ++ rest)
  | [], _, _, _, _, _ => rfl
  | v :: vs, a, j, hvs, ha, hlt => by
    have hv : v.OfFormat f := hvs v List.mem_cons_self
    have hplace : j * f.size % 4294967296 = a.length := by
      rw [ha, Nat.mod_eq_of_lt]
      refine Nat.lt_of_le_of_lt ?_ hlt
      exact Nat.mul_le_mul_right _ (Nat.le_add_right _ _)
    have hstep : convert (a ++ (v :: vs).flatMap (·.write orig) ++ rest) (j * f.size % 4294967296) =
        some (a ++ v.write new ++ vs.flatMap (·.write orig) ++ rest) := by
      have hv := h v a (vs.flatMap (·.write orig) ++ rest) hv
      rw [hplace, List.flatMap_cons, ← List.append_assoc, List.append_assoc _ _ rest, hv,
        ← List.append_assoc]
    have hnext : (a ++ v.write new).length = (j + 1) * f.size := by
      rw [List.length_append, ha, hv.length, Nat.succ_mul]
    have hloop := h.eachComponent rest vs (fun w hw => hvs w (List.mem_cons_of_mem v hw)) hnext
      (by rw [List.length_cons] at hlt; rwa [show j + 1 + vs.length = j + (vs.length + 1) by omega])
    rw [List.length_cons, Exif.eachComponent, hstep, Option.bind_eq_bind, Option.bind_some, hloop,
      List.flatMap_cons, ← List.append_assoc]

/-- Rewriting keeps the components, and touches nothing behind them. -/
theorem exifArraySetByteOrder_eq (orig new : ExifByteOrder) {vs : List ExifValue}
    (hvs : ∀ v ∈ vs, v.OfFormat f) (hlt : vs.length * f.size < 4294967296) (rest : List Byte) :
    exifArraySetByteOrder f (vs.flatMap (·.write orig) ++ rest) vs.length orig new =
      some (vs.flatMap (·.write new) ++ rest) := by
  have hloop {convert : List Byte → Nat → Option (List Byte)} (h : Converts f orig new convert) :
      Exif.eachComponent convert f.size vs.length 0 (vs.flatMap (·.write orig) ++ rest) =
        some (vs.flatMap (·.write new) ++ rest) :=
    h.eachComponent rest vs (a := []) (j := 0) hvs (Nat.zero_mul _).symm (by rwa [Nat.zero_add])
  unfold exifArraySetByteOrder
  split
  · rename_i hnone
    have hnil : vs = [] := by
      rcases hnone with hb | hn
      · refine List.eq_nil_of_length_eq_zero ?_
        have hlen := congrArg List.length hb
        rw [List.length_append, length_flatMap_write _ hvs, List.length_nil] at hlen
        have hpos := f.size_pos
        rcases Nat.mul_eq_zero.mp (Nat.eq_zero_of_add_eq_zero_right hlen) with h | h
        · exact h
        · omega
      · exact List.eq_nil_of_length_eq_zero hn
    rw [hnil]
    rfl
  · cases f with
    | short | sshort => exact hloop (converts_short (by simp))
    | long | slong => exact hloop (converts_long (by simp))
    | rational | srational => exact hloop (converts_rational orig new (by simp))
    | byte | ascii | sbyte | undefined | float | double =>
      have hsame : vs.flatMap (·.write orig) = vs.flatMap (·.write new) := by
        refine List.flatMap_congr fun v hv => ?_
        have hof := hvs v hv
        cases v with
        | bytes bs => rfl
        | short | long | rational => exact hof.elim
      rw [hsame]

end Arrays

end Ancora.Exif
