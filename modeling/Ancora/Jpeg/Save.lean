import Ancora.Lib.CArray

/-!
# Writing a JPEG file (libjpega/jpeg-data.c:117–236)

`jpeg_data_save_data` writes the sections of an image into a block that it reallocates before
each write. `jpeg_data_save_data_no_copy`, "added to implement the zero copy save routine", is a
copy of it without the reallocations, for a buffer of the caller's. The two are separate texts,
and so they are here.

- `JpegData`: the sections and the scan data. A section's content is a union, which is kept in
  both its readings. `save` is `exif_data_save_data` for an `ExifData`; for NULL it leaves `ed`
  as it is, which may be what an earlier section has freed (`Ed.freed`).
- `jpegBytes`: the bytes of the file, section by section.
- `Holds`: a writer has written these bytes, and its size says so.
- **`noCopy_eq_saveData`**: in a buffer that has room for the file the second writer writes what
  the first one does, and nothing else.

Sizes are `unsigned int`s: were the file as long as 2³² bytes, they would wrap around. No buffer
of the target is that large.
-/

namespace Ancora.Jpeg

abbrev Byte := BitVec 8

/-! ## The data -/

/-- A pointer to bytes and their number as an `unsigned int`. -/
structure Blob where
  bytes : List Byte
  length_lt : bytes.length < 4294967296

def Blob.size (b : Blob) : BitVec 32 := BitVec.ofNat 32 b.bytes.length

/-- `JPEGSection`. -/
structure Section (ε : Type) where
  marker : BitVec 32
  /-- `content.app1`, which may be NULL. -/
  app1 : Option ε
  /-- `content.generic`. -/
  generic : Blob

/-- `JPEGData`. -/
structure JpegData (ε : Type) where
  sections : List (Section ε)
  data : Blob

/-- `JPEG_MARKER_SOI` -/
def markerSoi : BitVec 32 := 0xd8

/-- `JPEG_MARKER_EOI` -/
def markerEoi : BitVec 32 := 0xd9

/-- `JPEG_MARKER_SOS` -/
def markerSos : BitVec 32 := 0xda

/-- `JPEG_MARKER_APP1` -/
def markerApp1 : BitVec 32 := 0xe1

/-- The local variable `ed`. -/
inductive Ed
  | null
  | held (blob : Blob)
  /-- It points to what was freed. -/
  | freed

/-- `!ed` -/
def Ed.isNull : Ed → Bool
  | .null => true
  | _ => false

/-- What `memcpy (…, ed, eds)` copies. Nothing is read through a freed pointer, for `eds` is
zero then. -/
def Ed.bytes : Ed → List Byte
  | .held blob => blob.bytes
  | _ => []

variable {ε : Type}

/-- `exif_data_save_data (app1, &ed, &eds)` (libexifa/exif-data.c:946). -/
def exifDataSaveData (save : ε → Option Blob) (app1 : Option ε) (ed : Ed) : Ed × BitVec 32 :=
  match app1 with
  | none => (ed, 0)
  | some e =>
    match save e with
    | some blob => (.held blob, blob.size)
    | none => (.null, 0)

/-- The two bytes of the length of a section, which counts itself. -/
def lengthHigh (size : BitVec 32) : Byte := ((size + 2) >>> 8).setWidth 8

def lengthLow (size : BitVec 32) : Byte := ((size + 2) >>> 0).setWidth 8

/-! ## The writers -/

/-- The destination, `*ds` and `ed`. -/
structure Writer where
  d : CArray Byte
  ds : BitVec 32
  ed : Ed

/-- `d[*ds + 0] = x; d[*ds + 1] = y; *ds += 2;` -/
def Writer.put2 (w : Writer) (x y : Byte) : Writer :=
  { w with d := (w.d.set (w.ds + 0).toNat x).set (w.ds + 1).toNat y, ds := w.ds + 2 }

/-- `memcpy (d + *ds, bytes, n); *ds += n;` -/
def Writer.memcpy (w : Writer) (bytes : List Byte) (n : BitVec 32) : Writer :=
  { w with d := w.d.write w.ds.toNat bytes, ds := w.ds + n }

/-- `case JPEG_MARKER_APP1` of `jpeg_data_save_data_no_copy`, with `ed` and `eds`
(jpeg-data.c:206–216). -/
def noCopyApp1 (w : Writer) (r : Ed × BitVec 32) : Writer :=
  if r.1.isNull then { w with ed := r.1 }
  else
    let w := w.put2 (lengthHigh r.2) (lengthLow r.2)
    let w := w.memcpy r.1.bytes r.2
    { w with ed := .freed }

/-- `default` of `jpeg_data_save_data_no_copy` (jpeg-data.c:218–232). -/
def noCopyGeneric (data : Blob) (w : Writer) (s : Section ε) : Writer :=
  let w := w.put2 (lengthHigh s.generic.size) (lengthLow s.generic.size)
  let w := w.memcpy s.generic.bytes s.generic.size
  if s.marker = markerSos then w.memcpy data.bytes data.size else w

/-- The turn of the loop of `jpeg_data_save_data_no_copy` for a section
(jpeg-data.c:194–234). -/
def noCopySection (save : ε → Option Blob) (data : Blob) (w : Writer) (s : Section ε) : Writer :=
  let w := w.put2 0xff (s.marker.setWidth 8)
  if s.marker = markerSoi ∨ s.marker = markerEoi then w
  else if s.marker = markerApp1 then noCopyApp1 w (exifDataSaveData save s.app1 w.ed)
  else noCopyGeneric data w s

/-- `jpeg_data_save_data_no_copy` (jpeg-data.c:179) for pointers that are not NULL: the buffer
and `*ds`. -/
def jpegDataSaveDataNoCopy (save : ε → Option Blob) (data : JpegData ε) (d : CArray Byte) :
    CArray Byte × BitVec 32 :=
  let w := data.sections.foldl (noCopySection save data.data) ⟨d, 0, .null⟩
  (w.d, w.ds)

/-- `realloc` when it succeeds: the old cells, and what happens to be in the new ones. -/
def realloc (a : CArray Byte) (n : Nat) (fresh : Nat → Byte) : CArray Byte where
  size := n
  cells k := if k < a.size then a.cells k else fresh k
  touched := a.touched

/-- `jpeg_data_save_data` on its way, with the number of reallocations so far. -/
structure Saving extends Writer where
  calls : Nat

/-- `CLEANUP_REALLOC (*d, n)`: `none` when there is no memory and the function returns with
`*d` NULL. The environment decides each time. -/
def Saving.cleanupRealloc (env : Nat → Option (Nat → Byte)) (w : Saving) (n : BitVec 32) :
    Option Saving :=
  (env w.calls).map fun fresh =>
    { w with d := realloc w.d n.toNat fresh, calls := w.calls + 1 }

def Saving.put2 (w : Saving) (x y : Byte) : Saving := { w with toWriter := w.toWriter.put2 x y }

def Saving.memcpy (w : Saving) (bytes : List Byte) (n : BitVec 32) : Saving :=
  { w with toWriter := w.toWriter.memcpy bytes n }

/-- `case JPEG_MARKER_APP1` of `jpeg_data_save_data`, with `ed` and `eds`
(jpeg-data.c:144–154). -/
def saveApp1 (env : Nat → Option (Nat → Byte)) (w : Saving) (r : Ed × BitVec 32) :
    Option Saving := do
  if r.1.isNull then some { w with ed := r.1 }
  else
    let w ← w.cleanupRealloc env (w.ds + 2)
    let w := w.put2 (lengthHigh r.2) (lengthLow r.2)
    let w ← w.cleanupRealloc env (w.ds + r.2)
    let w := w.memcpy r.1.bytes r.2
    some { w with ed := .freed }

/-- `default` of `jpeg_data_save_data` (jpeg-data.c:156–171). -/
def saveGeneric (env : Nat → Option (Nat → Byte)) (data : Blob) (w : Saving) (s : Section ε) :
    Option Saving := do
  let w ← w.cleanupRealloc env (w.ds + s.generic.size + 2)
  let w := w.put2 (lengthHigh s.generic.size) (lengthLow s.generic.size)
  let w := w.memcpy s.generic.bytes s.generic.size
  if s.marker = markerSos then
    let w ← w.cleanupRealloc env (w.ds + data.size)
    some (w.memcpy data.bytes data.size)
  else some w

/-- The turn of the loop of `jpeg_data_save_data` for a section (jpeg-data.c:131–173). -/
def saveSection (save : ε → Option Blob) (env : Nat → Option (Nat → Byte)) (data : Blob)
    (w : Saving) (s : Section ε) : Option Saving := do
  let w ← w.cleanupRealloc env (w.ds + 2)
  let w := w.put2 0xff (s.marker.setWidth 8)
  if s.marker = markerSoi ∨ s.marker = markerEoi then some w
  else if s.marker = markerApp1 then saveApp1 env w (exifDataSaveData save s.app1 w.ed)
  else saveGeneric env data w s

/-- `jpeg_data_save_data` (jpeg-data.c:117) for pointers that are not NULL: `*d` and `*ds`. -/
def jpegDataSaveData (save : ε → Option Blob) (env : Nat → Option (Nat → Byte))
    (data : JpegData ε) (d : CArray Byte) : Option (CArray Byte × BitVec 32) :=
  (data.sections.foldlM (saveSection save env data.data) ⟨⟨d, 0, .null⟩, 0⟩).map fun w =>
    (w.d, w.ds)

/-! ## The file -/

/-- The bytes of an APP1 section behind its marker. -/
def app1Bytes (r : Ed × BitVec 32) : List Byte :=
  if r.1.isNull then [] else [lengthHigh r.2, lengthLow r.2] ++ r.1.bytes

/-- The bytes of a generic section behind its marker. -/
def genericBytes (data : Blob) (s : Section ε) : List Byte :=
  [lengthHigh s.generic.size, lengthLow s.generic.size] ++ s.generic.bytes ++
    if s.marker = markerSos then data.bytes else []

/-- The bytes of a section. -/
def sectionBytes (save : ε → Option Blob) (data : Blob) (ed : Ed) (s : Section ε) : List Byte :=
  [0xff, s.marker.setWidth 8] ++
    if s.marker = markerSoi ∨ s.marker = markerEoi then []
    else if s.marker = markerApp1 then app1Bytes (exifDataSaveData save s.app1 ed)
    else genericBytes data s

/-- What becomes of `ed`. -/
def edAfter (save : ε → Option Blob) (ed : Ed) (s : Section ε) : Ed :=
  if s.marker = markerSoi ∨ s.marker = markerEoi then ed
  else if s.marker = markerApp1 then
    let r := exifDataSaveData save s.app1 ed
    if r.1.isNull then r.1 else .freed
  else ed

def sectionsBytes (save : ε → Option Blob) (data : Blob) : Ed → List (Section ε) → List Byte
  | _, [] => []
  | ed, s :: ss => sectionBytes save data ed s ++ sectionsBytes save data (edAfter save ed s) ss

/-- The bytes of the file. -/
def jpegBytes (save : ε → Option Blob) (data : JpegData ε) : List Byte :=
  sectionsBytes save data.data .null data.sections

/-! ## One write -/

/-- The writer has written `bs`. -/
structure Holds (w : Writer) (bs : List Byte) : Prop where
  starts : w.d.Starts bs
  size : w.ds.toNat = bs.length

/-- Of the buffer `d` only what `*ds` counts has been written. -/
structure Confined (d : CArray Byte) (w : Writer) : Prop where
  rest : ∀ k, w.ds.toNat ≤ k → w.d.cells k = d.cells k
  touched : ∃ ks, w.d.touched = d.touched ++ ks ∧ ∀ k ∈ ks, k < w.ds.toNat

section Write

variable {w : Writer} {bs bytes : List Byte} {n : BitVec 32} {d : CArray Byte}

theorem toNat_add_of_lt {x y : BitVec 32} (h : x.toNat + y.toNat < 4294967296) :
    (x + y).toNat = x.toNat + y.toNat := by
  rw [BitVec.toNat_add]
  exact Nat.mod_eq_of_lt h

/-- The size of a block of bytes is an `unsigned int`. -/
theorem Blob.toNat_size (b : Blob) : b.size.toNat = b.bytes.length := by
  rw [Blob.size, BitVec.toNat_ofNat]
  exact Nat.mod_eq_of_lt b.length_lt

theorem Holds.toNat_ds_add (h : Holds w bs) (hlt : bs.length + n.toNat < 4294967296) :
    (w.ds + n).toNat = bs.length + n.toNat := by
  rw [← h.size] at hlt ⊢
  exact toNat_add_of_lt hlt

/-- Two bytes are written as any others. -/
theorem Writer.put2_eq (x y : Byte) (h : w.ds.toNat + 2 < 4294967296) :
    w.put2 x y = w.memcpy [x, y] 2 := by
  have hone : (w.ds + 1).toNat = w.ds.toNat + 1 := toNat_add_of_lt (by simp; omega)
  have hzero : (w.ds + 0).toNat = w.ds.toNat := by simp
  unfold Writer.put2 Writer.memcpy
  rw [hone, hzero]
  rfl

/-- Each copy moves the end by its bytes. -/
theorem Writer.memcpy_ds (hn : n.toNat = bytes.length)
    (h : w.ds.toNat + bytes.length < 4294967296) :
    (w.memcpy bytes n).ds.toNat = w.ds.toNat + bytes.length := by
  rw [← hn] at h ⊢
  exact toNat_add_of_lt h

/-- What has been written stays there when more is. -/
theorem Holds.memcpy (h : Holds w bs) (hn : n.toNat = bytes.length)
    (hlt : bs.length + bytes.length < 4294967296) : Holds (w.memcpy bytes n) (bs ++ bytes) := by
  constructor
  · show (w.d.write w.ds.toNat bytes).Starts _
    rw [h.size]
    exact h.starts.write bytes
  · rw [Writer.memcpy_ds hn (h.size ▸ hlt), h.size, List.length_append]

/-- A copy that fits stays in the buffer. -/
theorem Confined.memcpy (h : Confined d w) (hn : n.toNat = bytes.length)
    (hlt : w.ds.toNat + bytes.length < 4294967296) : Confined d (w.memcpy bytes n) := by
  have hds := Writer.memcpy_ds hn hlt
  obtain ⟨ks, hks, hlt⟩ := h.touched
  constructor
  · intro k hk
    rw [hds] at hk
    show (w.d.write w.ds.toNat bytes).cells k = _
    rw [CArray.write_cells_of_ge _ _ hk]
    exact h.rest k (by omega)
  · refine ⟨ks ++ List.range' w.ds.toNat bytes.length, ?_, fun k hk => ?_⟩
    · show (w.d.write w.ds.toNat bytes).touched = _
      rw [CArray.write_touched, hks, List.append_assoc]
    · rw [hds]
      rcases List.mem_append.mp hk with hk | hk
      · have hk := hlt k hk
        omega
      · have hk := (List.mem_range'_1.mp hk).2
        omega

/-- `exif_data_save_data` gives the number of bytes it has allocated, where `ed` held none. -/
theorem exifDataSaveData_size (save : ε → Option Blob) (app1 : Option ε) {ed : Ed}
    (hed : ed.bytes = []) :
    (exifDataSaveData save app1 ed).2.toNat = (exifDataSaveData save app1 ed).1.bytes.length := by
  unfold exifDataSaveData
  cases app1 with
  | none =>
    show (0 : BitVec 32).toNat = ed.bytes.length
    rw [hed]
    rfl
  | some e =>
    dsimp only
    cases save e with
    | none => rfl
    | some blob => exact blob.toNat_size

/-- Between two sections `ed` holds nothing. -/
theorem edAfter_bytes (save : ε → Option Blob) {ed : Ed} (hed : ed.bytes = []) (s : Section ε) :
    (edAfter save ed s).bytes = [] := by
  unfold edAfter
  split
  · exact hed
  · split
    · dsimp only
      split
      · rename_i hnull
        cases hr : (exifDataSaveData save s.app1 ed).1 with
        | null => rfl
        | held blob =>
          rw [hr] at hnull
          cases hnull
        | freed => rfl
      · rfl
    · exact hed

end Write

/-! ## The writer without reallocations -/

section NoCopy

variable {save : ε → Option Blob} {data : Blob} {w : Writer} {bs : List Byte} {d : CArray Byte}
  {s : Section ε}

/-- `bs` was written to the buffer `d`, and nothing else. -/
structure Wrote (d : CArray Byte) (w : Writer) (bs : List Byte) : Prop where
  holds : Holds w bs
  confined : Confined d w

/-- The same for the copy without a buffer of its own. -/
theorem Wrote.memcpy {bytes : List Byte} {n : BitVec 32} (h : Wrote d w bs)
    (hn : n.toNat = bytes.length) (hlt : bs.length + bytes.length < 4294967296) :
    Wrote d (w.memcpy bytes n) (bs ++ bytes) :=
  ⟨h.holds.memcpy hn hlt, h.confined.memcpy hn (h.holds.size ▸ hlt)⟩

/-- Two bytes more. -/
theorem Wrote.put2 (x y : Byte) (h : Wrote d w bs) (hlt : bs.length + 2 < 4294967296) :
    Wrote d (w.put2 x y) (bs ++ [x, y]) := by
  rw [Writer.put2_eq x y (h.holds.size ▸ hlt)]
  exact h.memcpy rfl hlt

/-- `ed` plays no part in what is held. -/
theorem Wrote.withEd (h : Wrote d w bs) (ed : Ed) : Wrote d { w with ed := ed } bs :=
  ⟨⟨h.holds.starts, h.holds.size⟩, ⟨h.confined.rest, h.confined.touched⟩⟩

/-- An `APP1` section is its length and the EXIF data, which is freed then. -/
theorem Wrote.app1 {r : Ed × BitVec 32} (h : Wrote d w bs) (hr : r.2.toNat = r.1.bytes.length)
    (hlt : bs.length + (app1Bytes r).length < 4294967296) :
    Wrote d (noCopyApp1 w r) (bs ++ app1Bytes r) ∧
      (noCopyApp1 w r).ed = if r.1.isNull then r.1 else .freed := by
  unfold app1Bytes at hlt ⊢
  unfold noCopyApp1
  split
  · rw [List.append_nil]
    exact ⟨h.withEd r.1, rfl⟩
  · rename_i hnull
    rw [if_neg hnull, List.length_append] at hlt
    simp only [List.length_cons, List.length_nil] at hlt
    have hlength := h.put2 (lengthHigh r.2) (lengthLow r.2) (by omega)
    have hexif := hlength.memcpy hr (by simp; omega)
    rw [← List.append_assoc]
    exact ⟨hexif.withEd .freed, rfl⟩

/-- Another section is its length and its content, and the image data behind `SOS`. -/
theorem Wrote.generic (h : Wrote d w bs)
    (hlt : bs.length + (genericBytes data s).length < 4294967296) :
    Wrote d (noCopyGeneric data w s) (bs ++ genericBytes data s) ∧
      (noCopyGeneric data w s).ed = w.ed := by
  unfold genericBytes at hlt ⊢
  unfold noCopyGeneric
  simp only [List.length_append, List.length_cons, List.length_nil] at hlt
  have hlength := h.put2 (lengthHigh s.generic.size) (lengthLow s.generic.size) (by omega)
  have hgeneric := hlength.memcpy s.generic.toNat_size (by simp; omega)
  rw [← List.append_assoc, ← List.append_assoc]
  dsimp only
  split
  · rename_i hsos
    rw [if_pos hsos] at hlt
    exact ⟨hgeneric.memcpy data.toNat_size (by simp; omega), rfl⟩
  · rw [List.append_nil]
    exact ⟨hgeneric, rfl⟩

/-- **Step lemma**: a section adds its bytes. -/
theorem Wrote.noCopySection (h : Wrote d w bs) (hed : w.ed.bytes = [])
    (hlt : bs.length + (sectionBytes save data w.ed s).length < 4294967296) :
    Wrote d (noCopySection save data w s) (bs ++ sectionBytes save data w.ed s) ∧
      (Jpeg.noCopySection save data w s).ed = edAfter save w.ed s := by
  unfold Jpeg.noCopySection edAfter
  unfold sectionBytes at hlt ⊢
  simp only [List.length_append, List.length_cons, List.length_nil] at hlt
  have hmarker := h.put2 0xff (s.marker.setWidth 8) (by omega)
  rw [← List.append_assoc]
  split
  · rw [List.append_nil]
    exact ⟨hmarker, rfl⟩
  · rename_i hbare
    rw [if_neg hbare] at hlt
    split
    · rename_i happ1
      rw [if_pos happ1] at hlt
      have hfit : (bs ++ [0xff, s.marker.setWidth 8]).length +
          (app1Bytes (exifDataSaveData save s.app1 w.ed)).length < 4294967296 := by
        simp only [List.length_append, List.length_cons, List.length_nil]
        omega
      exact hmarker.app1 (exifDataSaveData_size save s.app1 hed) hfit
    · rename_i happ1
      rw [if_neg happ1] at hlt
      exact hmarker.generic (by simp; omega)

/-- **Run lemma**. -/
theorem Wrote.sections (ss : List (Section ε)) (h : Wrote d w bs) (hed : w.ed.bytes = [])
    (hlt : bs.length + (sectionsBytes save data w.ed ss).length < 4294967296) :
    Wrote d (ss.foldl (Jpeg.noCopySection save data) w)
      (bs ++ sectionsBytes save data w.ed ss) := by
  induction ss generalizing w bs with
  | nil =>
    rw [sectionsBytes, List.append_nil]
    exact h
  | cons s ss ih =>
    rw [sectionsBytes, List.length_append] at hlt
    have hfit : bs.length + (sectionBytes save data w.ed s).length < 4294967296 := by omega
    obtain ⟨hwrote, hafter⟩ := h.noCopySection hed hfit
    rw [sectionsBytes, ← List.append_assoc, ← hafter]
    refine ih hwrote ?_ ?_
    · rw [hafter]
      exact edAfter_bytes save hed s
    · rw [hafter, List.length_append]
      omega

end NoCopy

/-! ## The writer with reallocations -/

section Realloc

variable {save : ε → Option Blob} {env : Nat → Option (Nat → Byte)} {data : Blob} {w : Saving}
  {bs : List Byte} {s : Section ε}

/-- `bs` was written, and the block has room for it. -/
structure Saved (w : Saving) (bs : List Byte) : Prop where
  holds : Holds w.toWriter bs
  room : bs.length ≤ w.d.size

/-- A reallocation that does not shrink the block keeps what was written. -/
theorem Saved.cleanupRealloc (henv : ∀ k, (env k).isSome = true) (h : Saved w bs) (n : BitVec 32)
    (hn : bs.length ≤ n.toNat) :
    ∃ w', w.cleanupRealloc env n = some w' ∧ Saved w' bs ∧ w'.d.size = n.toNat ∧
      w'.ds = w.ds ∧ w'.ed = w.ed := by
  obtain ⟨fresh, hfresh⟩ := Option.isSome_iff_exists.mp (henv w.calls)
  refine ⟨{ w with d := realloc w.d n.toNat fresh, calls := w.calls + 1 }, ?_,
    ⟨⟨?_, h.holds.size⟩, hn⟩, rfl, rfl, rfl⟩
  · rw [Saving.cleanupRealloc, hfresh]
    rfl
  · refine CArray.Starts.of_cells fun k hk => ?_
    exact (if_pos (Nat.lt_of_lt_of_le hk h.room)).trans (h.holds.starts.cell hk)

/-- A copy into the block that has grown. -/
theorem Saved.memcpy {bytes : List Byte} {n : BitVec 32} (h : Saved w bs)
    (hn : n.toNat = bytes.length) (hlt : bs.length + bytes.length < 4294967296)
    (hroom : bs.length + bytes.length ≤ w.d.size) : Saved (w.memcpy bytes n) (bs ++ bytes) := by
  refine ⟨h.holds.memcpy hn hlt, ?_⟩
  show _ ≤ (w.d.write w.ds.toNat bytes).size
  rw [CArray.write_size, List.length_append]
  exact hroom

/-- Two bytes into it. -/
theorem Saved.put2 (x y : Byte) (h : Saved w bs) (hlt : bs.length + 2 < 4294967296)
    (hroom : bs.length + 2 ≤ w.d.size) : Saved (w.put2 x y) (bs ++ [x, y]) := by
  have heq : w.put2 x y = w.memcpy [x, y] 2 := by
    unfold Saving.put2 Saving.memcpy
    rw [Writer.put2_eq x y (h.holds.size ▸ hlt)]
  rw [heq]
  exact h.memcpy rfl hlt hroom

/-- Room for more, and the first two bytes of it. -/
theorem Saved.reallocPut2 (henv : ∀ k, (env k).isSome = true) (x y : Byte) {m : Nat}
    {n : BitVec 32} (h : Saved w bs) (hn : n.toNat = bs.length + 2 + m) :
    ∃ w', w.cleanupRealloc env n = some w' ∧ Saved (w'.put2 x y) (bs ++ [x, y]) ∧
      (w'.put2 x y).d.size = bs.length + 2 + m ∧ (w'.put2 x y).ed = w.ed := by
  obtain ⟨w', hw', hsaved, hsize, -, hed⟩ := h.cleanupRealloc henv n (by omega)
  have hput := hsaved.put2 x y (by omega) (by omega)
  exact ⟨w', hw', hput, hsize.trans hn, hed⟩

/-- Room for these bytes, and the bytes. -/
theorem Saved.reallocMemcpy (henv : ∀ k, (env k).isSome = true) {bytes : List Byte}
    {n : BitVec 32} (h : Saved w bs) (hn : n.toNat = bytes.length)
    (hlt : bs.length + bytes.length < 4294967296) :
    ∃ w', w.cleanupRealloc env (w.ds + n) = some w' ∧
      Saved (w'.memcpy bytes n) (bs ++ bytes) ∧ (w'.memcpy bytes n).ed = w.ed := by
  have hsum : (w.ds + n).toNat = bs.length + bytes.length := by
    rw [← hn] at hlt ⊢
    exact h.holds.toNat_ds_add hlt
  obtain ⟨w', hw', hsaved, hsize, -, hed⟩ := h.cleanupRealloc henv (w.ds + n) (by omega)
  exact ⟨w', hw', hsaved.memcpy hn hlt (by omega), hed⟩

theorem Saved.withEd (h : Saved w bs) (ed : Ed) : Saved { w with ed := ed } bs :=
  ⟨⟨h.holds.starts, h.holds.size⟩, h.room⟩

/-- The block grows by an `APP1` section. -/
theorem Saved.app1 (henv : ∀ k, (env k).isSome = true) {r : Ed × BitVec 32} (h : Saved w bs)
    (hr : r.2.toNat = r.1.bytes.length)
    (hlt : bs.length + (app1Bytes r).length < 4294967296) :
    ∃ w', saveApp1 env w r = some w' ∧ Saved w' (bs ++ app1Bytes r) ∧
      w'.ed = if r.1.isNull then r.1 else .freed := by
  unfold app1Bytes at hlt ⊢
  unfold saveApp1
  split
  · rw [List.append_nil]
    exact ⟨_, rfl, h.withEd r.1, rfl⟩
  · rename_i hnull
    rw [if_neg hnull, List.length_append] at hlt
    simp only [List.length_cons, List.length_nil] at hlt
    have htwo : (w.ds + 2).toNat = bs.length + 2 + 0 := h.holds.toNat_ds_add (by simp; omega)
    obtain ⟨w₁, hw₁, hlength, -, -⟩ := h.reallocPut2 henv (lengthHigh r.2) (lengthLow r.2) htwo
    obtain ⟨w₂, hw₂, hexif, -⟩ := hlength.reallocMemcpy henv hr (by simp; omega)
    rw [Option.bind_eq_bind, hw₁, Option.bind_some, ← List.append_assoc]
    dsimp only
    rw [hw₂, Option.bind_some]
    exact ⟨_, rfl, hexif.withEd .freed, rfl⟩

/-- The block grows by another section. -/
theorem Saved.generic (henv : ∀ k, (env k).isSome = true) (h : Saved w bs)
    (hlt : bs.length + (genericBytes data s).length < 4294967296) :
    ∃ w', saveGeneric env data w s = some w' ∧ Saved w' (bs ++ genericBytes data s) ∧
      w'.ed = w.ed := by
  unfold genericBytes at hlt ⊢
  unfold saveGeneric
  simp only [List.length_append, List.length_cons, List.length_nil] at hlt
  -- one reallocation for the length and the content
  have hcontent : (w.ds + s.generic.size).toNat = bs.length + s.generic.bytes.length := by
    rw [← s.generic.toNat_size] at hlt ⊢
    exact h.holds.toNat_ds_add (by omega)
  have hboth : (w.ds + s.generic.size + 2).toNat = bs.length + 2 + s.generic.bytes.length := by
    rw [toNat_add_of_lt (by rw [hcontent]; simp; omega), hcontent]
    show _ + 2 = _
    omega
  obtain ⟨w₁, hw₁, hlength, hroom, hed₁⟩ := h.reallocPut2 henv (lengthHigh s.generic.size)
    (lengthLow s.generic.size) hboth
  have hgeneric := hlength.memcpy s.generic.toNat_size (by simp; omega) (by rw [hroom]; simp)
  rw [Option.bind_eq_bind, hw₁, Option.bind_some, ← List.append_assoc, ← List.append_assoc]
  dsimp only
  split
  · rename_i hsos
    rw [if_pos hsos] at hlt
    obtain ⟨w₂, hw₂, hscan, hed₂⟩ := hgeneric.reallocMemcpy henv data.toNat_size (by simp; omega)
    rw [hw₂, Option.bind_some]
    exact ⟨_, rfl, hscan, hed₂.trans hed₁⟩
  · rw [List.append_nil]
    exact ⟨_, rfl, hgeneric, hed₁⟩

/-- **Step lemma**: a section adds its bytes, if there is memory. -/
theorem Saved.saveSection (henv : ∀ k, (env k).isSome = true) (h : Saved w bs)
    (hed : w.ed.bytes = [])
    (hlt : bs.length + (sectionBytes save data w.ed s).length < 4294967296) :
    ∃ w', Jpeg.saveSection save env data w s = some w' ∧
      Saved w' (bs ++ sectionBytes save data w.ed s) ∧ w'.ed = edAfter save w.ed s := by
  unfold Jpeg.saveSection edAfter
  unfold sectionBytes at hlt ⊢
  simp only [List.length_append, List.length_cons, List.length_nil] at hlt
  have htwo : (w.ds + 2).toNat = bs.length + 2 + 0 := h.holds.toNat_ds_add (by simp; omega)
  obtain ⟨w₁, hw₁, hmarker, -, hed₁⟩ := h.reallocPut2 henv 0xff (s.marker.setWidth 8) htwo
  rw [Option.bind_eq_bind, hw₁, Option.bind_some, ← List.append_assoc]
  dsimp only
  split
  · rw [List.append_nil]
    exact ⟨_, rfl, hmarker, hed₁⟩
  · rename_i hbare
    rw [if_neg hbare] at hlt
    split
    · rename_i happ1
      rw [if_pos happ1] at hlt
      rw [hed₁]
      have hfit : (bs ++ [0xff, s.marker.setWidth 8]).length +
          (app1Bytes (exifDataSaveData save s.app1 w.ed)).length < 4294967296 := by
        simp only [List.length_append, List.length_cons, List.length_nil]
        omega
      exact hmarker.app1 henv (exifDataSaveData_size save s.app1 hed) hfit
    · rename_i happ1
      rw [if_neg happ1] at hlt
      have hfit : (bs ++ [0xff, s.marker.setWidth 8]).length +
          (genericBytes data s).length < 4294967296 := by
        simp only [List.length_append, List.length_cons, List.length_nil]
        omega
      obtain ⟨w₂, hw₂, hgeneric, hed₂⟩ := hmarker.generic henv hfit
      exact ⟨w₂, hw₂, hgeneric, hed₂.trans hed₁⟩

/-- **Run lemma**. -/
theorem Saved.sections (henv : ∀ k, (env k).isSome = true) (ss : List (Section ε))
    (h : Saved w bs) (hed : w.ed.bytes = [])
    (hlt : bs.length + (sectionsBytes save data w.ed ss).length < 4294967296) :
    ∃ w', ss.foldlM (Jpeg.saveSection save env data) w = some w' ∧
      Saved w' (bs ++ sectionsBytes save data w.ed ss) := by
  induction ss generalizing w bs with
  | nil =>
    rw [sectionsBytes, List.append_nil]
    exact ⟨w, rfl, h⟩
  | cons s ss ih =>
    rw [sectionsBytes, List.length_append] at hlt
    have hfit : bs.length + (sectionBytes save data w.ed s).length < 4294967296 := by omega
    obtain ⟨w₁, hw₁, hsaved, hafter⟩ := h.saveSection henv hed hfit
    rw [sectionsBytes, ← List.append_assoc, ← hafter, List.foldlM_cons, hw₁]
    refine ih hsaved ?_ ?_
    · rw [hafter]
      exact edAfter_bytes save hed s
    · rw [hafter, List.length_append]
      omega

end Realloc

/-! ## The two writers -/

/-- A buffer of the caller's. Sizes of objects are 32 bits wide. -/
structure Buffer where
  array : CArray Byte
  size_lt : array.size < 4294967296

/-- `jpeg_data_save_data_no_copy` writes the bytes that `jpeg_data_save_data` produces when its
reallocations succeed, gives the same size, and writes nothing at or behind it. -/
theorem noCopy_eq_saveData (save : ε → Option Blob) (env : Nat → Option (Nat → Byte))
    (henv : ∀ k, (env k).isSome = true) (data : JpegData ε) (d₀ : CArray Byte) (buf : Buffer)
    (hbuf : (jpegBytes save data).length ≤ buf.array.size) :
    ∃ d ds out, jpegDataSaveData save env data d₀ = some (d, ds) ∧
      d.Starts (jpegBytes save data) ∧ ds.toNat = (jpegBytes save data).length ∧
      jpegDataSaveDataNoCopy save data buf.array = (out, ds) ∧
      (∀ k, k < ds.toNat → out.cells k = d.cells k) ∧
      (∀ k, ds.toNat ≤ k → out.cells k = buf.array.cells k) ∧
      ∃ ks, out.touched = buf.array.touched ++ ks ∧ ∀ k ∈ ks, k < ds.toNat := by
  have hlt : ([] : List Byte).length + (jpegBytes save data).length < 4294967296 := by
    have hsize := buf.size_lt
    rw [List.length_nil]
    omega
  have hsaved : Saved ⟨⟨d₀, 0, .null⟩, 0⟩ [] := ⟨⟨rfl, rfl⟩, Nat.zero_le _⟩
  have hwrote : Wrote buf.array ⟨buf.array, 0, .null⟩ [] :=
    ⟨⟨rfl, rfl⟩, ⟨fun _ _ => rfl, [], (List.append_nil _).symm, fun k hk => by cases hk⟩⟩
  obtain ⟨w, hw, hholds, -⟩ := hsaved.sections henv data.sections rfl hlt
  have hbuffer := hwrote.sections data.sections rfl hlt
  obtain ⟨hplain, hconfined⟩ := hbuffer
  rw [List.nil_append] at hholds hplain
  -- both sizes count the bytes of the file
  have hds : (data.sections.foldl (noCopySection save data.data)
      ⟨buf.array, 0, .null⟩).ds = w.ds := by
    refine BitVec.eq_of_toNat_eq ?_
    rw [hplain.size, hholds.size]
  refine ⟨w.d, w.ds, _, ?_, hholds.starts, hholds.size, Prod.ext rfl hds, ?_, ?_, ?_⟩
  · rw [jpegDataSaveData, hw]
    rfl
  · intro k hk
    rw [hholds.size] at hk
    rw [hholds.starts.cell hk]
    exact hplain.starts.cell hk
  · rw [← hds]
    exact hconfined.rest
  · rw [← hds]
    exact hconfined.touched

/-- An image with an APP1 section and scan data. -/
def sampleJpeg : JpegData Unit where
  sections := [⟨markerSoi, none, ⟨[], by decide⟩⟩, ⟨markerApp1, some (), ⟨[], by decide⟩⟩,
    ⟨markerSos, none, ⟨[7], by decide⟩⟩, ⟨markerEoi, none, ⟨[], by decide⟩⟩]
  data := ⟨[8, 9], by decide⟩

theorem noCopy_eq_saveData_sample :
    ∃ d ds out, jpegDataSaveData (fun _ : Unit => some ⟨[1, 2, 3], by decide⟩)
        (fun _ => some fun _ => 0) sampleJpeg ⟨0, fun _ => 0, []⟩ = some (d, ds) ∧
      jpegDataSaveDataNoCopy (fun _ : Unit => some ⟨[1, 2, 3], by decide⟩) sampleJpeg
        ⟨20, fun _ => 0x55, []⟩ = (out, ds) ∧
      ∀ k, k < ds.toNat → out.cells k = d.cells k := by
  obtain ⟨d, ds, out, hsave, -, -, hout, hsame, -⟩ :=
    noCopy_eq_saveData (fun _ : Unit => some ⟨[1, 2, 3], by decide⟩) (fun _ => some fun _ => 0)
      (fun _ => rfl) sampleJpeg ⟨0, fun _ => 0, []⟩ ⟨⟨20, fun _ => 0x55, []⟩, by decide⟩
      (by decide)
  exact ⟨d, ds, out, hsave, hout, hsame⟩

end Ancora.Jpeg
