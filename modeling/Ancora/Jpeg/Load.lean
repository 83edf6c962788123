import Ancora.Jpeg.Save
import Ancora.Lib.Block
import Mathlib.Tactic.IntervalCases

/-!
# Reading a JPEG file (libjpega/jpeg-data.c:238–348, 503–555)

`jpeg_data_load_data` goes through the sections of a file. EXIF data is loaded from four bytes
before the content of its section, where the marker and the length are if the marker is a usual
one.

- `jpegDataLoadData`: `jpeg_data_load_data`. No result means that it has left the data. `load` is
  `exif_data_load_data` into new data.
- `jpegDataGetExifData`, `jpegDataSetExifData`: the EXIF data of an image.
- **`jpegDataLoadData_isSome_iff`**: it leaves the data exactly for an `APP1` right at the start,
  if `load` does not leave what it is given.
- `Reloads`: what is loaded of a saved section.
- **`jpegDataLoadData_jpegBytes`**: what is saved can be loaded.
- **`jpegDataSetExifData_spec`**: setting the EXIF data sets nothing else.

Allocations succeed here.
-/

namespace Ancora.Jpeg

variable {ε : Type}

/-! ## Sections -/

/-- `JPEG_IS_MARKER` -/
def isMarker (b : Byte) : Bool := decide (0xc0 ≤ b.toNat) && decide (b.toNat ≤ 0xfe)

theorem Blob.length_nil_lt : ([] : List Byte).length < 4294967296 := by decide

def Blob.empty : Blob := ⟨[], Blob.length_nil_lt⟩

/-- `n` bytes from `i` on. -/
def Blob.slice (d : Blob) (i n : Nat) : Blob where
  bytes := (d.bytes.drop i).take n
  length_lt := by
    have := d.length_lt
    rw [List.length_take, List.length_drop]
    omega

/-- A section as `jpeg_data_append_section` leaves it, with its marker. -/
def Section.new (marker : Byte) : Section ε := ⟨marker.setWidth 32, none, Blob.empty⟩

theorem Section.new_marker (marker : Byte) :
    (Section.new marker : Section ε).marker = marker.setWidth 32 := rfl

/-- `jpeg_data_append_section`, and what is put into the section. -/
def JpegData.append (data : JpegData ε) (s : Section ε) : JpegData ε :=
  { data with sections := data.sections ++ [s] }

/-- `jpeg_data_new` -/
def jpegDataNew : JpegData ε := ⟨[], Blob.empty⟩

/-! ## Loading -/

/-- How many bytes are 0xff, of seven at most. -/
def fillBytes (d : List Byte) : Nat := ((d.take 7).takeWhile (· == 0xff)).length

/-- `((d[o] << 8) | d[o + 1]) - 2` -/
def contentLength (d : List Byte) (o : Nat) : Option (BitVec 32) := do
  let b0 ← d[o]?
  let b1 ← d[o + 1]?
  some ((b0.setWidth 32 <<< 8 ||| b1.setWidth 32) - 2)

/-- `case JPEG_MARKER_APP1`: the content is at `o`, and what is loaded is from `o - 4` on. Of less
than six bytes `exif_data_load_data` looks at none. -/
def loadApp1 (load : List Byte → Option ε) (d : Blob) (o len : Nat) (data : JpegData ε) :
    Option (JpegData ε × Nat) :=
  let s : Section ε := Section.new 0xe1
  if o < 4 then
    if len + 4 < 6 then (load []).map fun e => (data.append { s with app1 := some e }, o + len)
    else none
  else do
    let bytes ← Block.read d.bytes (o - 4) (len + 4)
    let e ← load bytes
    some (data.append { s with app1 := some e }, o + len)

/-- How much of the `n` bytes behind a `JPEG_MARKER_SOS` section is image data: "take all but the
last 2 bytes which are hoped to be JPEG_MARKER_EOI". -/
def scanLength (d : List Byte) (start n : Nat) : Option Nat :=
  if 2 ≤ n then do
    let b ← d[start + (n - 2)]?
    some (if b ≠ 0xff then n else n - 2)
  else some n

/-- `default`: the content is at `o`. -/
def loadGeneric (d : Blob) (marker : Byte) (o len : Nat) (data : JpegData ε) :
    Option (JpegData ε × Nat) :=
  let s : Section ε := { Section.new marker with generic := d.slice o len }
  if s.marker = markerSos then do
    let n ← scanLength d.bytes (o + len) (d.bytes.length - o - len)
    some ({ data.append s with data := d.slice (o + len) n }, o + n + len)
  else some (data.append s, o + len)

/-- A section whose marker is before `o`, and where the next one is. A section that is not all
there is left empty, and nothing is behind it. -/
def loadSection (load : List Byte → Option ε) (d : Blob) (marker : Byte) (o : Nat)
    (data : JpegData ε) : Option (JpegData ε × Nat) :=
  let s : Section ε := Section.new marker
  if s.marker = markerSoi ∨ s.marker = markerEoi then some (data.append s, o)
  else if d.bytes.length - o < 2 then some (data.append s, d.bytes.length)
  else do
    let len ← contentLength d.bytes o
    if d.bytes.length < len.toNat then some (data.append s, d.bytes.length)
    else if d.bytes.length - (o + 2) < len.toNat then some (data.append s, d.bytes.length)
    else if s.marker = markerApp1 then loadApp1 load d (o + 2) len.toNat data
    else loadGeneric d marker (o + 2) len.toNat data

/-- The loop over the sections. It goes on by a byte at least each time. -/
def loadSections (load : List Byte → Option ε) (d : Blob) :
    Nat → Nat → JpegData ε → Option (JpegData ε)
  | 0, _, data => some data
  | n + 1, o, data =>
    match (d.bytes.drop o)[fillBytes (d.bytes.drop o)]? with
    | none => some data
    | some marker =>
      if isMarker marker then
        (loadSection load d marker (o + fillBytes (d.bytes.drop o) + 1) data).bind fun r =>
          loadSections load d n r.2 r.1
      else some data

/-- `jpeg_data_load_data` -/
def jpegDataLoadData (load : List Byte → Option ε) (data : JpegData ε) (d : Blob) :
    Option (JpegData ε) :=
  loadSections load d d.bytes.length 0 data

/-! ## The EXIF data of an image -/

/-- `jpeg_data_get_section (data, JPEG_MARKER_APP1)` -/
def isApp1 (s : Section ε) : Bool := decide (s.marker = markerApp1)

/-- `jpeg_data_get_exif_data` -/
def jpegDataGetExifData (data : JpegData ε) : Option ε := (data.sections.find? isApp1).bind (·.app1)

/-- `section->marker = JPEG_MARKER_APP1; section->content.app1 = exif_data;` -/
def Section.setApp1 (s : Section ε) (e : ε) : Section ε :=
  { s with marker := markerApp1, app1 := some e }

/-- The first `APP1` section gets the data. -/
def setFirstApp1 (e : ε) : List (Section ε) → List (Section ε)
  | [] => []
  | s :: ss => if isApp1 s then s.setApp1 e :: ss else s :: setFirstApp1 e ss

/-- `jpeg_data_set_exif_data`: without an `APP1` section there is one more section, the others
from the second on move up, and the second becomes one. -/
def jpegDataSetExifData (data : JpegData ε) (e : ε) : JpegData ε :=
  if data.sections.any isApp1 then { data with sections := setFirstApp1 e data.sections }
  else
    match data.sections ++ [Section.new 0] with
    | first :: second :: rest =>
      { data with sections := first :: second.setApp1 e :: (second :: rest).dropLast }
    | ss => { data with sections := ss }

/-! ## Staying inside of the data -/

section Inside

variable {load : List Byte → Option ε} {d : Blob} {marker : Byte} {o : Nat} {data : JpegData ε}

/-- The length of a section can be read where two bytes are left. -/
theorem contentLength_isSome {d : List Byte} (h : o + 2 ≤ d.length) :
    ∃ len, contentLength d o = some len := by
  rw [contentLength, List.getElem?_eq_getElem (by omega), List.getElem?_eq_getElem (by omega)]
  exact ⟨_, rfl⟩

/-- A content of a section that is there is not longer than a length can say. -/
theorem contentLength_le {d : List Byte} {len : BitVec 32} (h : contentLength d o = some len) :
    len.toNat ≤ 65533 ∨ 4294967294 ≤ len.toNat := by
  unfold contentLength at h
  cases h0 : d[o]? with
  | none =>
    rw [h0] at h
    cases h
  | some b0 =>
    cases h1 : d[o + 1]? with
    | none =>
      rw [h0, h1] at h
      cases h
    | some b1 =>
      rw [h0, h1] at h
      obtain rfl := Option.some.inj h
      have hhigh : (b0.setWidth 32 <<< 8).toNat < 2 ^ 16 := by
        rw [BitVec.toNat_shiftLeft, BitVec.toNat_setWidth, Nat.shiftLeft_eq]
        omega
      have hlow : (b1.setWidth 32).toNat < 2 ^ 16 := by
        rw [BitVec.toNat_setWidth]
        omega
      have hor := Nat.or_lt_two_pow hhigh hlow
      rw [← BitVec.toNat_or] at hor
      rw [BitVec.toNat_sub]
      have htwo : (2 : BitVec 32).toNat = 2 := rfl
      omega

/-- All stretches of the data that a section can have can be loaded. -/
def LoadsWithin (load : List Byte → Option ε) (d : Blob) : Prop :=
  ∀ i n, n ≤ 65537 → (load ((d.bytes.drop i).take n)).isSome

/-- An `APP1` section right behind a marker that is the first byte, with all of its content and so
much of it that its bytes are looked at. -/
def ReadsBefore (d : Blob) (marker : Byte) (o : Nat) : Prop :=
  marker = 0xe1 ∧ o = 1 ∧ ∃ len, contentLength d.bytes o = some len ∧ 2 ≤ len.toNat ∧
    o + 2 + len.toNat ≤ d.bytes.length

/-- A section is loaded where all of it is there. -/
theorem loadGeneric_isSome (marker : Byte) (data : JpegData ε) {len : Nat}
    (h : o + len ≤ d.bytes.length) :
    ∃ data' o', loadGeneric d marker o len data = some (data', o') ∧ o + len ≤ o' := by
  unfold loadGeneric scanLength
  dsimp only
  split
  · split
    · rw [List.getElem?_eq_getElem (by omega)]
      exact ⟨_, _, rfl, by omega⟩
    · exact ⟨_, _, rfl, by omega⟩
  · exact ⟨_, _, rfl, Nat.le_refl _⟩

theorem setWidth_eq_app1_iff : (marker.setWidth 32 = markerApp1) ↔ marker = 0xe1 := by
  constructor
  · intro h
    have hnat := congrArg BitVec.toNat h
    rw [BitVec.toNat_setWidth, Nat.mod_eq_of_lt (by omega)] at hnat
    exact BitVec.eq_of_toNat_eq hnat
  · rintro rfl
    rfl

/-- **Step lemma**: only an `APP1` section whose marker is the first byte leaves the data. -/
theorem loadSection_inside (marker : Byte) (data : JpegData ε)
    (hload : LoadsWithin load d) (hpos : 0 < o) (hle : o ≤ d.bytes.length) :
    (ReadsBefore d marker o → loadSection load d marker o data = none) ∧
      (¬ ReadsBefore d marker o →
        ∃ data' o', loadSection load d marker o data = some (data', o') ∧ o ≤ o') := by
  have hother (h : ¬ ReadsBefore d marker o) (r : JpegData ε × Nat) (hr : o ≤ r.2) :
      (ReadsBefore d marker o → some r = none) ∧ (¬ ReadsBefore d marker o →
        ∃ data' o', some r = some (data', o') ∧ o ≤ o') :=
    ⟨fun hfull => (h hfull).elim, fun _ => ⟨r.1, r.2, rfl, hr⟩⟩
  unfold loadSection
  dsimp only
  split
  · rename_i hbare
    refine hother ?_ _ (Nat.le_refl o)
    rintro ⟨rfl, -⟩
    have hnot : ¬ ((0xe1 : Byte).setWidth 32 = markerSoi ∨
        (0xe1 : Byte).setWidth 32 = markerEoi) := by
      decide
    exact hnot hbare
  split
  · refine hother ?_ _ hle
    rintro ⟨-, -, len, -, -, hlen⟩
    omega
  obtain ⟨len, hlen⟩ := contentLength_isSome (d := d.bytes) (o := o) (by omega)
  have hbefore : ReadsBefore d marker o ↔
      marker = 0xe1 ∧ o = 1 ∧ 2 ≤ len.toNat ∧ o + 2 + len.toNat ≤ d.bytes.length := by
    unfold ReadsBefore
    rw [hlen]
    simp
  rw [hlen, Option.bind_eq_bind, Option.bind_some]
  split
  · refine hother ?_ _ hle
    rw [hbefore]
    omega
  split
  · refine hother ?_ _ hle
    rw [hbefore]
    omega
  split
  · rename_i happ1
    have hmarker : marker = 0xe1 := setWidth_eq_app1_iff.mp happ1
    rw [loadApp1]
    split
    · split
      · rename_i hshort
        obtain ⟨e, he⟩ := Option.isSome_iff_exists.mp (hload 0 0 (Nat.zero_le _))
        rw [List.take_zero] at he
        rw [he, Option.map_some]
        refine hother ?_ _ (show o ≤ o + 2 + len.toNat by omega)
        rw [hbefore]
        omega
      · exact ⟨fun _ => rfl, fun h => (h (hbefore.mpr ⟨hmarker, by omega⟩)).elim⟩
    · have hlimit := contentLength_le hlen
      have hlt := d.length_lt
      obtain ⟨e, he⟩ := Option.isSome_iff_exists.mp (hload (o + 2 - 4) (len.toNat + 4) (by omega))
      rw [Block.read_isSome (by omega), Option.bind_eq_bind, Option.bind_some, he]
      refine hother ?_ _ (show o ≤ o + 2 + len.toNat by omega)
      rw [hbefore]
      omega
  · rename_i happ1
    refine ⟨fun h => (happ1 (setWidth_eq_app1_iff.mpr h.1)).elim, fun _ => ?_⟩
    obtain ⟨data', o', hgeneric, ho'⟩ := loadGeneric_isSome marker data
      (show o + 2 + len.toNat ≤ d.bytes.length by omega)
    exact ⟨data', o', hgeneric, by omega⟩

/-- **Run lemma**: behind the first byte nothing leaves the data. -/
theorem loadSections_isSome (hload : LoadsWithin load d) :
    ∀ (n o : Nat) (data : JpegData ε), 0 < o → (loadSections load d n o data).isSome
  | 0, _, _, _ => rfl
  | n + 1, o, data, hpos => by
    unfold loadSections
    split
    · rfl
    · rename_i marker hmarker
      split
      · have hlt := (List.getElem?_eq_some_iff.mp hmarker).1
        rw [List.length_drop] at hlt
        obtain ⟨data', o', hsection, ho'⟩ := (loadSection_inside (d := d)
          (o := o + fillBytes (d.bytes.drop o) + 1) marker data hload (by omega) (by omega)).2
          fun h => by
            have hone := h.2.1
            omega
        rw [hsection]
        exact loadSections_isSome hload n o' data' (by omega)
      · rfl

/-- Where all stretches of the data can be loaded, loading leaves the data exactly when an `APP1`
marker without any 0xff is its first byte, all of the section is there, and its content has two
bytes: four bytes before the content is one byte before the data. -/
theorem jpegDataLoadData_isSome_iff (hload : LoadsWithin load d) :
    (jpegDataLoadData load data d).isSome ↔
      ¬ (d.bytes.head? = some 0xe1 ∧ ∃ len, contentLength d.bytes 1 = some len ∧
        2 ≤ len.toNat ∧ 3 + len.toNat ≤ d.bytes.length) := by
  have hnot {r : Option (JpegData ε)} {p : Prop} (hr : r.isSome) (hp : ¬ p) : r.isSome ↔ ¬ p :=
    ⟨fun _ => hp, fun _ => hr⟩
  unfold jpegDataLoadData
  cases hbytes : d.bytes with
  | nil => exact hnot rfl (by simp)
  | cons b bs =>
    rw [List.length_cons, loadSections, List.drop_zero, hbytes]
    by_cases hff : b = 0xff
    · -- the marker is not the first byte
      have hfill : 0 < fillBytes (b :: bs) := by
        rw [hff, fillBytes]
        simp
      refine hnot ?_ (by simp [hff])
      split
      · rfl
      · rename_i marker hmarker
        split
        · have hlt := (List.getElem?_eq_some_iff.mp hmarker).1
          rw [← hbytes] at hlt
          obtain ⟨data', o', hsection, ho'⟩ := (loadSection_inside (d := d)
            (o := 0 + fillBytes (b :: bs) + 1) marker data hload (by omega)
            (by rw [hbytes] at hlt ⊢; omega)).2 fun h => by
              have hone := h.2.1
              omega
          rw [hsection]
          exact loadSections_isSome hload _ o' data' (by omega)
        · rfl
    · have hfill : fillBytes (b :: bs) = 0 := by
        rw [fillBytes, List.take_succ_cons, List.takeWhile_cons_of_neg (by simpa using hff)]
        rfl
      rw [hfill, List.getElem?_cons_zero, List.head?_cons]
      dsimp only
      split
      · obtain ⟨hnone, hsome⟩ := loadSection_inside (d := d) (o := 0 + 0 + 1) b data hload
          (by omega) (by rw [hbytes, List.length_cons]; omega)
        by_cases hbefore : ReadsBefore d b 1
        · rw [hnone hbefore]
          obtain ⟨rfl, -, len, hlen, htwo, hle⟩ := hbefore
          rw [hbytes] at hlen hle
          refine ⟨fun h => (Bool.noConfusion h), fun h => (h ⟨rfl, len, hlen, htwo, ?_⟩).elim⟩
          omega
        · obtain ⟨data', o', hsection, ho'⟩ := hsome hbefore
          rw [hsection]
          refine hnot (loadSections_isSome hload _ o' data' (by omega)) ?_
          rintro ⟨hb, len, hlen, htwo, hle⟩
          have hlength := congrArg List.length hbytes
          rw [List.length_cons] at hlength
          rw [← hbytes] at hlen
          refine hbefore ⟨Option.some.inj hb, rfl, len, hlen, htwo, ?_⟩
          omega
      · rename_i hmarker
        refine hnot rfl ?_
        rintro ⟨hb, -⟩
        rw [Option.some.inj hb] at hmarker
        exact absurd rfl hmarker

theorem jpegDataLoadData_isSome_iff_bare :
    (jpegDataLoadData (fun _ => some ()) jpegDataNew
      ⟨[0xe1, 0x00, 0x04, 0x45, 0x78], by decide⟩).isSome = false := by
  rw [Bool.eq_false_iff, ne_eq, jpegDataLoadData_isSome_iff fun _ _ _ => rfl, not_not]
  exact ⟨rfl, 2, by decide, by decide, by decide⟩

end Inside

/-! ## What is saved can be loaded -/

section Reload

variable {save : ε → Option Blob} {load : List Byte → Option ε} {d dat : Blob} {marker : Byte}
  {o n : Nat} {data : JpegData ε} {s s' : Section ε}

/-- `s'` is what is loaded of the section `s` when that has been saved. -/
inductive Reloads (save : ε → Option Blob) (load : List Byte → Option ε) :
    Section ε → Section ε → Prop
  | bare {s : Section ε} (marker : Byte) (hs : s.marker = marker.setWidth 32)
      (h : s.marker = markerSoi ∨ s.marker = markerEoi) : Reloads save load s (Section.new marker)
  | app1 {s : Section ε} {e e' : ε} {blob : Blob} (hs : s.marker = markerApp1)
      (he : s.app1 = some e) (hsave : save e = some blob) (hlt : blob.bytes.length + 2 < 65536)
      (hload : load ([0xff, 0xe1, lengthHigh blob.size, lengthLow blob.size] ++ blob.bytes) =
        some e') : Reloads save load s ((Section.new 0xe1).setApp1 e')
  | generic {s : Section ε} (marker : Byte) (hmarker : isMarker marker = true)
      (hs : s.marker = marker.setWidth 32) (hbare : ¬ (s.marker = markerSoi ∨ s.marker = markerEoi))
      (happ1 : s.marker ≠ markerApp1) (hsos : s.marker ≠ markerSos)
      (hlt : s.generic.bytes.length + 2 < 65536) :
      Reloads save load s { Section.new marker with generic := s.generic }

/-- Bytes that lie in the data can be cut out of it. -/
theorem Blob.slice_of_at {b : Blob} (h : Block.At d.bytes o b.bytes) :
    d.slice o b.bytes.length = b := by
  have hbytes : (d.bytes.drop o).take b.bytes.length = b.bytes := by
    have hread := Block.read_isSome h.bound
    exact Option.some.inj (hread.symm.trans h)
  cases b
  rw [Blob.slice, Blob.mk.injEq]
  exact hbytes

/-- The next section is loaded, then those behind it. -/
theorem loadSections_at (h : Block.At d.bytes o [0xff, marker]) (hmarker : isMarker marker = true)
    (n : Nat) (data : JpegData ε) :
    loadSections load d (n + 1) o data = (loadSection load d marker (o + 2) data).bind fun r =>
      loadSections load d n r.2 r.1 := by
  have hbound := h.bound
  rw [Block.At.cons_iff, Block.At.cons_iff, List.getElem?_eq_some_iff,
    List.getElem?_eq_some_iff] at h
  obtain ⟨⟨ho, hff⟩, ⟨ho', hbyte⟩, -⟩ := h
  have hdrop : d.bytes.drop o = 0xff :: marker :: d.bytes.drop (o + 2) := by
    rw [List.drop_eq_getElem_cons ho, hff, List.drop_eq_getElem_cons ho', hbyte]
  have hne : marker ≠ 0xff := by
    rintro rfl
    exact absurd hmarker (by decide)
  have hfill : fillBytes (0xff :: marker :: d.bytes.drop (o + 2)) = 1 := by
    rw [fillBytes, List.take_succ_cons, List.take_succ_cons, List.takeWhile_cons_of_pos (by decide),
      List.takeWhile_cons_of_neg (by simpa using hne)]
    rfl
  rw [loadSections, hdrop, hfill, List.getElem?_cons_succ, List.getElem?_cons_zero]
  dsimp only
  rw [if_pos hmarker]

/-- The length of a section as 16 bits. -/
theorem Blob.size_add_two {b : Blob} (hlt : b.bytes.length + 2 < 65536) :
    b.size + 2 = (BitVec.ofNat 16 (b.bytes.length + 2)).setWidth 32 := by
  apply BitVec.eq_of_toNat_eq
  have htwo : (2 : BitVec 32).toNat = 2 := rfl
  rw [toNat_add_of_lt (by rw [b.toNat_size]; omega), b.toNat_size, BitVec.toNat_setWidth,
    BitVec.toNat_ofNat]
  omega

/-- The length is that of the content. -/
theorem contentLength_at {b : Blob} (hlt : b.bytes.length + 2 < 65536)
    (h : Block.At d.bytes o [lengthHigh b.size, lengthLow b.size]) :
    contentLength d.bytes o = some b.size := by
  rw [Block.At.cons_iff, Block.At.cons_iff] at h
  have hwidth := Blob.size_add_two hlt
  have hbytes (w : BitVec 16) : ((w.setWidth 32 >>> 8).setWidth 8).setWidth 32 <<< 8 |||
      ((w.setWidth 32 >>> 0).setWidth 8).setWidth 32 = w.setWidth 32 := by
    ext i hi
    interval_cases i <;> simp
  rw [contentLength, h.1, h.2.1, Option.bind_eq_bind, Option.bind_some, Option.bind_some,
    lengthHigh, lengthLow, hwidth, hbytes, ← hwidth, BitVec.add_sub_cancel]

theorem setWidth_setWidth (marker : Byte) : (marker.setWidth 32).setWidth 8 = marker := by
  rw [BitVec.setWidth_setWidth_of_le _ (by omega), BitVec.setWidth_eq]

/-- `APP1` and `SOS` have a content. -/
theorem not_bare_of_eq {m : BitVec 32} (h : m = markerApp1 ∨ m = markerSos) :
    ¬ (m = markerSoi ∨ m = markerEoi) := by
  rcases h with rfl | rfl <;> decide

/-- A section with a length, up to its content. -/
theorem loadSection_sized {b : Blob}
    (hbare : ¬ (marker.setWidth 32 = markerSoi ∨ marker.setWidth 32 = markerEoi))
    (hlt : b.bytes.length + 2 < 65536)
    (hat : Block.At d.bytes o ([lengthHigh b.size, lengthLow b.size] ++ b.bytes))
    (data : JpegData ε) :
    loadSection load d marker o data =
      if marker.setWidth 32 = markerApp1 then loadApp1 load d (o + 2) b.bytes.length data
      else loadGeneric d marker (o + 2) b.bytes.length data := by
  have hbound := hat.bound
  rw [List.length_append] at hbound
  have htwo : [lengthHigh b.size, lengthLow b.size].length = 2 := rfl
  rw [loadSection, Section.new_marker, if_neg hbare, if_neg (by omega),
    contentLength_at hlt (Block.At.append_iff.mp hat).1, Option.bind_eq_bind, Option.bind_some,
    b.toNat_size, if_neg (by omega), if_neg (by omega)]

/-- **Step lemma**: a section. -/
theorem loadSection_reloads (h : Reloads save load s s') (ed : Ed)
    (hat : Block.At d.bytes o (sectionBytes save dat ed s)) (data : JpegData ε) :
    ∃ marker, isMarker marker = true ∧ Block.At d.bytes o [0xff, marker] ∧
      loadSection load d marker (o + 2) data =
        some (data.append s', o + (sectionBytes save dat ed s).length) := by
  cases h with
  | bare marker hs hbare =>
    rw [sectionBytes, if_pos hbare, List.append_nil, hs, setWidth_setWidth] at hat ⊢
    refine ⟨marker, ?_, hat, ?_⟩
    · have hwidth := setWidth_setWidth marker
      rw [← hs] at hwidth
      rw [← hwidth]
      rcases hbare with h | h <;> rw [h] <;> rfl
    · rw [hs] at hbare
      exact if_pos hbare
  | @app1 e e' blob hs he hsave hlt hload =>
    have hbytes : sectionBytes save dat ed s =
        [0xff, 0xe1] ++ ([lengthHigh blob.size, lengthLow blob.size] ++ blob.bytes) := by
      rw [sectionBytes, if_neg (not_bare_of_eq (.inl hs)), if_pos hs, he, exifDataSaveData, hsave,
        hs]
      rfl
    rw [hbytes] at hat ⊢
    have hff := (Block.At.append_iff.mp hat).1
    have hcontent : Block.At d.bytes (o + 2) _ := (Block.At.append_iff.mp hat).2
    have hbare := not_bare_of_eq (m := (0xe1 : Byte).setWidth 32) (.inl rfl)
    refine ⟨0xe1, rfl, hff, ?_⟩
    have hread : Block.read d.bytes (o + 2 + 2 - 4) (blob.bytes.length + 4) =
        some ([0xff, 0xe1, lengthHigh blob.size, lengthLow blob.size] ++ blob.bytes) := by
      have hlen : blob.bytes.length + 4 = ([0xff, 0xe1] ++
          ([lengthHigh blob.size, lengthLow blob.size] ++ blob.bytes)).length := by
        simp only [List.length_append, List.length_cons, List.length_nil]
        omega
      rw [show o + 2 + 2 - 4 = o by omega, hlen]
      exact hat
    rw [loadSection_sized hbare hlt hcontent, if_pos (by decide), loadApp1, if_neg (by omega),
      hread, Option.bind_eq_bind, Option.bind_some, hload]
    show some (_, _) = _
    congr 2
    simp only [List.length_append, List.length_cons, List.length_nil]
    omega
  | generic marker hmarker hs hbare happ1 hsos hlt =>
    have hbytes : sectionBytes save dat ed s = [0xff, marker] ++
        ([lengthHigh s.generic.size, lengthLow s.generic.size] ++ s.generic.bytes) := by
      rw [sectionBytes, if_neg hbare, if_neg happ1, genericBytes, if_neg hsos, hs,
        setWidth_setWidth, List.append_nil]
    rw [hbytes] at hat ⊢
    have hff := (Block.At.append_iff.mp hat).1
    have hcontent : Block.At d.bytes (o + 2) _ := (Block.At.append_iff.mp hat).2
    rw [hs] at hbare happ1 hsos
    refine ⟨marker, hmarker, hff, ?_⟩
    have hslice : d.slice (o + 2 + 2) s.generic.bytes.length = s.generic :=
      Blob.slice_of_at (Block.At.append_iff.mp hcontent).2
    rw [loadSection_sized hbare hlt hcontent, if_neg happ1, loadGeneric]
    dsimp only
    rw [Section.new_marker, if_neg hsos, hslice]
    congr 2
    simp only [List.length_append, List.length_cons, List.length_nil]
    omega

/-- **Run lemma**: the sections up to the image data. -/
theorem loadSections_reloads {ss ss' : List (Section ε)}
    (h : List.Forall₂ (Reloads save load) ss ss') :
    ∀ {ed : Ed} {o n : Nat} {rest : List (Section ε)} {data : JpegData ε},
      Block.At d.bytes o (sectionsBytes save dat ed (ss ++ rest)) → ss.length ≤ n →
      ∃ ed' o', Block.At d.bytes o' (sectionsBytes save dat ed' rest) ∧
        o' + (sectionsBytes save dat ed' rest).length =
          o + (sectionsBytes save dat ed (ss ++ rest)).length ∧
        loadSections load d n o data =
          loadSections load d (n - ss.length) o'
            { data with sections := data.sections ++ ss' } := by
  induction h with
  | nil =>
    intro ed o n rest data hat _
    exact ⟨ed, o, hat, rfl, by simp⟩
  | @cons s s' ss ss' hs _ ih =>
    intro ed o n rest data hat hle
    obtain ⟨n, rfl⟩ : ∃ k, n = k + 1 := ⟨n - 1, by rw [List.length_cons] at hle; omega⟩
    rw [List.cons_append, sectionsBytes, Block.At.append_iff] at hat
    obtain ⟨marker, hmarker, hff, hload⟩ := loadSection_reloads hs ed hat.1 data
    rw [List.length_cons, Nat.succ_le_succ_iff] at hle
    obtain ⟨ed', o', hrest, hend, hloads⟩ := @ih _ _ _ _ (data.append s') hat.2 hle
    refine ⟨ed', o', hrest, ?_, ?_⟩
    · rw [hend, List.cons_append, sectionsBytes, List.length_append]
      omega
    · rw [loadSections_at hff hmarker, hload, Option.bind_some, hloads, List.length_cons,
        Nat.succ_sub_succ]
      simp only [JpegData.append, List.append_assoc, List.singleton_append]

/-- At the end of the data there are no sections. -/
theorem loadSections_end (h : d.bytes.length ≤ o) (n : Nat) (data : JpegData ε) :
    loadSections load d n o data = some data := by
  cases n with
  | zero => rfl
  | succ n =>
    rw [loadSections, List.drop_eq_nil_of_le h]
    rfl

/-- Every section has at least two bytes. -/
theorem length_sectionsBytes : ∀ (ed : Ed) (ss : List (Section ε)),
    2 * ss.length ≤ (sectionsBytes save dat ed ss).length
  | _, [] => Nat.le_refl 0
  | ed, s :: ss => by
    have ih := length_sectionsBytes (edAfter save ed s) ss
    rw [sectionsBytes, sectionBytes, List.length_cons, List.length_append, List.length_append]
    have htwo : [0xff, s.marker.setWidth 8].length = 2 := rfl
    omega

/-- The image data is all but the `EOI` behind it. -/
theorem loadSection_sos {b : Blob} (hlt : b.bytes.length + 2 < 65536)
    (hat : Block.At d.bytes o
      ([lengthHigh b.size, lengthLow b.size] ++ b.bytes ++ dat.bytes ++ [0xff, 0xd9]))
    (hend : o + 2 + b.bytes.length + dat.bytes.length + 2 = d.bytes.length)
    (data : JpegData ε) :
    loadSection load d 0xda o data =
      some ({ data.append { Section.new 0xda with generic := b } with data := dat },
        o + 2 + dat.bytes.length + b.bytes.length) := by
  obtain ⟨⟨hsection, hdata⟩, hff⟩ :=
    (Block.At.append_iff.mp hat).imp_left Block.At.append_iff.mp
  have hbare := not_bare_of_eq (m := (0xda : Byte).setWidth 32) (.inr rfl)
  have hgeneric : d.slice (o + 2) b.bytes.length = b :=
    Blob.slice_of_at (Block.At.append_iff.mp hsection).2
  have hscan : d.slice (o + 2 + b.bytes.length) dat.bytes.length = dat := by
    refine Blob.slice_of_at ?_
    rw [List.length_append] at hdata
    rwa [show o + 2 + b.bytes.length = o + (2 + b.bytes.length) by omega]
  have hlast : d.bytes[o + 2 + b.bytes.length + dat.bytes.length]? = some 0xff := by
    rw [List.length_append, List.length_append] at hff
    rw [show o + 2 + b.bytes.length + dat.bytes.length =
      o + (2 + b.bytes.length + dat.bytes.length) by omega]
    exact (Block.At.cons_iff.mp hff).1
  have hlength : scanLength d.bytes (o + 2 + b.bytes.length)
      (d.bytes.length - (o + 2) - b.bytes.length) = some dat.bytes.length := by
    rw [show d.bytes.length - (o + 2) - b.bytes.length = dat.bytes.length + 2 by omega,
      scanLength, if_pos (by omega), Nat.add_sub_cancel, hlast, Option.bind_eq_bind,
      Option.bind_some, if_neg (by simp)]
  rw [loadSection_sized hbare hlt hsection, if_neg (by decide), loadGeneric]
  dsimp only
  rw [Section.new_marker, if_pos (by decide), hlength, Option.bind_eq_bind, Option.bind_some,
    hgeneric, hscan]

/-- What is saved can be loaded: the sections up to `SOS`, the image data, and `EOI`. -/
theorem jpegDataLoadData_jpegBytes {x : JpegData ε} {ss ss' : List (Section ε)}
    {sos eoi : Section ε} (hx : x.sections = ss ++ [sos, eoi])
    (hss : List.Forall₂ (Reloads save load) ss ss') (hsos : sos.marker = markerSos)
    (heoi : eoi.marker = markerEoi) (hlt : sos.generic.bytes.length + 2 < 65536)
    (hd : d.bytes = jpegBytes save x) :
    jpegDataLoadData load jpegDataNew d = some ⟨ss' ++
      [{ Section.new 0xda with generic := sos.generic }, Section.new 0xd9], x.data⟩ := by
  have hall : Block.At d.bytes 0 (sectionsBytes save x.data .null (ss ++ [sos, eoi])) := by
    have hself := Block.at_mid [] d.bytes []
    rw [List.nil_append, List.append_nil] at hself
    rwa [← hx, ← jpegBytes, ← hd]
  have htotal : d.bytes.length = (sectionsBytes save x.data .null (ss ++ [sos, eoi])).length := by
    rw [hd, jpegBytes, hx]
  have hfuel := @length_sectionsBytes ε save x.data .null (ss ++ [sos, eoi])
  rw [← htotal, List.length_append] at hfuel
  have htwo : [sos, eoi].length = 2 := rfl
  obtain ⟨ed, o, hat, hend, hloads⟩ :=
    @loadSections_reloads _ _ _ _ _ _ _ hss _ _ d.bytes.length _ jpegDataNew hall (by omega)
  have hsosbytes : sectionBytes save x.data ed sos = [0xff, 0xda] ++
      ([lengthHigh sos.generic.size, lengthLow sos.generic.size] ++ sos.generic.bytes ++
        x.data.bytes) := by
    rw [sectionBytes, if_neg (not_bare_of_eq (.inr hsos)), if_neg (by rw [hsos]; decide),
      genericBytes, if_pos hsos, hsos]
    rfl
  have heoibytes (ed : Ed) : sectionBytes save x.data ed eoi = [0xff, 0xd9] := by
    rw [sectionBytes, if_pos (.inr heoi), heoi]
    rfl
  have hbytes : sectionsBytes save x.data ed [sos, eoi] = [0xff, 0xda] ++
      ([lengthHigh sos.generic.size, lengthLow sos.generic.size] ++ sos.generic.bytes ++
        x.data.bytes ++ [0xff, 0xd9]) := by
    rw [sectionsBytes, sectionsBytes, sectionsBytes, hsosbytes, heoibytes]
    simp only [List.append_assoc, List.append_nil]
  rw [hbytes] at hat hend
  have hrest : Block.At d.bytes (o + 2) _ := (Block.At.append_iff.mp hat).2
  rw [htotal] at hfuel
  simp only [List.length_append, List.length_cons, List.length_nil] at hend
  have hlen : o + 2 + 2 + sos.generic.bytes.length + x.data.bytes.length + 2 = d.bytes.length := by
    rw [htotal]
    omega
  have heoiat : Block.At d.bytes (o + 2 + 2 + x.data.bytes.length + sos.generic.bytes.length)
      [0xff, 0xd9] := by
    have hff := (Block.At.append_iff.mp hrest).2
    simp only [List.length_append, List.length_cons, List.length_nil] at hff
    rwa [show o + 2 + 2 + x.data.bytes.length + sos.generic.bytes.length =
      o + 2 + (0 + 1 + 1 + sos.generic.bytes.length + x.data.bytes.length) by omega]
  have hbare (o : Nat) (data : JpegData ε) :
      loadSection load d 0xd9 o data = some (data.append (Section.new 0xd9), o) := by
    rw [loadSection, Section.new_marker, if_pos (by decide)]
  obtain ⟨n, hn⟩ : ∃ n, d.bytes.length - ss.length = n + 1 + 1 :=
    ⟨d.bytes.length - ss.length - 2, by omega⟩
  rw [jpegDataLoadData, hloads, hn, loadSections_at (Block.At.append_iff.mp hat).1 rfl,
    loadSection_sos hlt hrest hlen, Option.bind_some, loadSections_at heoiat rfl, hbare,
    Option.bind_some, loadSections_end (by omega)]
  simp only [JpegData.append, jpegDataNew, List.nil_append, List.append_assoc,
    List.singleton_append]

theorem sampleJpeg_reloads : List.Forall₂ (Reloads (fun _ : Unit => some ⟨[1, 2, 3], by decide⟩)
    fun _ => some ()) [⟨markerSoi, none, ⟨[], by decide⟩⟩, ⟨markerApp1, some (), ⟨[], by decide⟩⟩]
    [Section.new 0xd8, (Section.new 0xe1).setApp1 ()] :=
  .cons (.bare 0xd8 (by decide) (.inl rfl)) (.cons (.app1 rfl rfl rfl (by decide) rfl) .nil)

theorem jpegDataLoadData_jpegBytes_sample :
    jpegDataLoadData (fun _ => some ()) jpegDataNew
        ⟨jpegBytes (fun _ => some ⟨[1, 2, 3], by decide⟩) sampleJpeg, by decide⟩ =
      some ⟨[Section.new 0xd8, (Section.new 0xe1).setApp1 (),
        { Section.new 0xda with generic := ⟨[7], by decide⟩ }, Section.new 0xd9],
        ⟨[8, 9], by decide⟩⟩ :=
  jpegDataLoadData_jpegBytes (x := sampleJpeg) rfl sampleJpeg_reloads rfl rfl (by decide) rfl

end Reload

/-! ## Setting the EXIF data -/

section Exif

variable {data : JpegData ε} {e : ε}

/-- The first `APP1` section is the one that changes. -/
theorem setFirstApp1_append {t : Section ε} {rest : List (Section ε)} (ht : isApp1 t = true) :
    ∀ {ss : List (Section ε)}, (∀ s ∈ ss, ¬ isApp1 s = true) →
      setFirstApp1 e (ss ++ t :: rest) = ss ++ t.setApp1 e :: rest
  | [], _ => by
    rw [List.nil_append, setFirstApp1, if_pos ht]
    rfl
  | s :: ss, h => by
    rw [List.cons_append, setFirstApp1, if_neg (h s List.mem_cons_self),
      setFirstApp1_append ht fun a ha => h a (List.mem_cons_of_mem s ha)]
    rfl

/-- Only the first `APP1` section changes, and has the data then. -/
theorem setFirstApp1_spec : ∀ {ss : List (Section ε)}, ss.any isApp1 = true →
    ((setFirstApp1 e ss).find? isApp1).bind (·.app1) = some e ∧
      (setFirstApp1 e ss).eraseP isApp1 = ss.eraseP isApp1 ∧
      (setFirstApp1 e ss).findIdx isApp1 = ss.findIdx isApp1
  | s :: ss, h => by
    have hset : isApp1 (s.setApp1 e) = true := rfl
    rw [setFirstApp1]
    by_cases hs : isApp1 s = true
    · rw [if_pos hs, List.find?_cons_of_pos hset, List.eraseP_cons_of_pos hset,
        List.eraseP_cons_of_pos hs, List.findIdx_cons, List.findIdx_cons, hset, hs]
      exact ⟨rfl, rfl, rfl⟩
    · rw [List.any_cons, Bool.eq_false_iff.mpr hs, Bool.false_or] at h
      obtain ⟨hfind, herase, hindex⟩ := setFirstApp1_spec h
      rw [if_neg hs, List.find?_cons_of_neg hs, List.eraseP_cons_of_neg hs,
        List.eraseP_cons_of_neg hs, List.findIdx_cons, List.findIdx_cons, herase, hindex]
      exact ⟨hfind, rfl, rfl⟩

/-- Without an `APP1` section a new one becomes the second. -/
theorem jpegDataSetExifData_new {first : Section ε} {rest : List (Section ε)}
    (h : data.sections = first :: rest) (hany : ¬ data.sections.any isApp1 = true) (e : ε) :
    ∃ s, jpegDataSetExifData data e =
      { data with sections := first :: Section.setApp1 s e :: rest } := by
  rw [jpegDataSetExifData, if_neg hany, h]
  cases rest with
  | nil => exact ⟨_, rfl⟩
  | cons second rest =>
    refine ⟨second, ?_⟩
    have hlast : (second :: (rest ++ [Section.new 0])).dropLast = second :: rest := by
      rw [← List.cons_append, List.dropLast_concat]
    show JpegData.mk (first :: second.setApp1 e ::
      (second :: (rest ++ [Section.new 0])).dropLast) data.data = _
    rw [hlast]

/-- Where there are sections, the EXIF data that has been set is the EXIF data, in the place of the
first `APP1` section or else behind the first section. All sections but the first `APP1` one, other
`APP1` sections too, and the image data are as before. -/
theorem jpegDataSetExifData_spec (hne : data.sections ≠ []) (e : ε) :
    jpegDataGetExifData (jpegDataSetExifData data e) = some e ∧
      (jpegDataSetExifData data e).sections.eraseP isApp1 = data.sections.eraseP isApp1 ∧
      (jpegDataSetExifData data e).sections.findIdx isApp1 =
        (if data.sections.any isApp1 then data.sections.findIdx isApp1 else 1) ∧
      (jpegDataSetExifData data e).data = data.data := by
  by_cases hany : data.sections.any isApp1 = true
  · obtain ⟨hfind, herase, hindex⟩ := setFirstApp1_spec (e := e) hany
    rw [if_pos hany, jpegDataSetExifData, if_pos hany]
    exact ⟨hfind, herase, hindex, rfl⟩
  · obtain ⟨first, rest, hsections⟩ := List.exists_cons_of_ne_nil hne
    obtain ⟨s, hset⟩ := jpegDataSetExifData_new hsections hany e
    have hnone : ∀ t ∈ first :: rest, ¬ isApp1 t = true := by
      intro t ht happ1
      rw [hsections] at hany
      exact hany (List.any_eq_true.mpr ⟨t, ht, happ1⟩)
    have hfirst := hnone first List.mem_cons_self
    have hs : isApp1 (s.setApp1 e) = true := rfl
    rw [if_neg hany, hset, jpegDataGetExifData, hsections]
    refine ⟨?_, ?_, ?_, rfl⟩
    · rw [List.find?_cons_of_neg hfirst, List.find?_cons_of_pos hs]
      rfl
    · rw [List.eraseP_cons_of_neg hfirst, List.eraseP_cons_of_pos hs,
        List.eraseP_of_forall_not hnone]
    · rw [List.findIdx_cons, Bool.eq_false_iff.mpr hfirst, List.findIdx_cons, hs]
      rfl

theorem jpegDataSetExifData_spec_sample :
    jpegDataGetExifData (jpegDataSetExifData sampleJpeg ()) = some () ∧
      (jpegDataSetExifData sampleJpeg ()).sections.eraseP isApp1 =
        sampleJpeg.sections.eraseP isApp1 ∧
      (jpegDataSetExifData sampleJpeg ()).sections.findIdx isApp1 =
        (if sampleJpeg.sections.any isApp1 then sampleJpeg.sections.findIdx isApp1 else 1) ∧
      (jpegDataSetExifData sampleJpeg ()).data = sampleJpeg.data :=
  jpegDataSetExifData_spec (List.cons_ne_nil _ _) ()

end Exif

end Ancora.Jpeg
