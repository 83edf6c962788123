import Ancora.Exif.Data
import Ancora.Lib.Qsort

/-!
# Saving EXIF data (libexifa/exif-data.c)

`exif_data_save_data` writes the IFDs into a block that grows on its way. A directory has a row of
12 bytes for each entry; a value of more than 4 bytes goes to the end of the block, and the row
points there. So do rows for the other IFDs and for the thumbnail, and IFD 0 ends with a pointer
to IFD 1. When all rows of a directory are there, they are sorted.

- `exifDataSaveData`: `exif_data_save_data`, on a block of which new parts are arbitrary
  (`fresh`). No result means that it left a block. That the entry of a maker note keeps the
  bytes that were saved for it is left out.
- `exifBytes`: the format, as parts one after the other.
- **`exifDataSaveData_eq`**: the saved bytes have the format. No byte of them depends on what was
  in the new memory.

The block is shorter than 2^32 bytes, and the places in it are computed without wrapping.
-/

namespace Ancora.Exif

variable {μ : Type}

abbrev Row := List Byte

/-- The tag of a row, for the comparison. -/
def rowTag (order : ExifByteOrder) (row : Row) : Nat :=
  ((exifGetShort row 0 order).getD 0).toNat

section Save

variable (m : MnoteMethods μ) (q : Qsort Row) (fresh : Nat → Byte) (x : ExifData μ)

/-- The maker note is updated: `offset` is where its bytes go if there are enough of them. -/
def withMnote (offset : Nat) (e : ExifEntry) : ExifEntry :=
  if x.dontChangeMakerNote = false ∧ e.tag = ExifTag.makerNote then
    match x.md with
    | some md =>
      let data := m.save md offset
      { e with data := data, components := BitVec.ofNat 32 data.length }
    | none => e
  else e

/-- "Write the data. Do not crash with e->data is NULL." -/
def writeData (d : List Byte) (i : Nat) (e : ExifEntry) (s : Nat) : Option (List Byte) := do
  let bytes ← if e.data = [] then some (List.replicate s 0) else Block.read e.data 0 s
  Block.write d i bytes

/-- "If we need to introduce a padding byte, we set it to 0." -/
def writePad (d : List Byte) (ts s : Nat) : Option (List Byte) :=
  if s % 2 = 1 then Block.write d (ts - 1) [0] else some d

/-- The data is "not in the entry but somewhere else": at the end of the block, with the place of
it written at `i`. -/
def saveOutside (order : ExifByteOrder) (d : List Byte) (i : Nat) (e : ExifEntry) (s : Nat) :
    Option (List Byte) := do
  let doff := d.length - 6
  -- the offset must be an even number
  let ts := (d.length + s + s % 2) % 4294967296
  let d ← exifSetLong (Block.realloc d ts fresh) i order (BitVec.ofNat 32 doff)
  let d ← writePad d ts s
  writeData d (6 + doff) e s

/-- The data is in the entry. "Fill unneeded bytes with 0." -/
def saveInside (d : List Byte) (i : Nat) (e : ExifEntry) (s : Nat) : Option (List Byte) := do
  let d ← writeData d i e s
  if s < 4 then Block.write d (i + s) (List.replicate (4 - s) 0) else some d

/-- `exif_data_save_data_entry` -/
def exifDataSaveDataEntry (e : ExifEntry) (d : List Byte) (offset : Nat) :
    Option (List Byte) := do
  let d ← exifSetShort d (6 + offset) x.order e.tag
  let d ← exifSetShort d (6 + offset + 2) x.order e.format.code
  let e := withMnote m x (d.length - 6) e
  let d ← exifSetLong d (6 + offset + 4) x.order e.components
  let s := e.format.size * e.components.toNat % 4294967296
  if 4 < s then saveOutside fresh x.order d (6 + offset + 8) e s
  else saveInside d (6 + offset + 8) e s

/-- The loop that saves each entry. -/
def saveEntries : List ExifEntry → List Byte → Nat → Option (List Byte)
  | [], d, _ => some d
  | e :: es, d, offset => do
    let d ← exifDataSaveDataEntry m fresh x e d offset
    saveEntries es d (offset + 12)

/-- A special entry: what its row says, where `*ds - 6` is given, and what is saved then. -/
structure Special where
  tag : ExifTag
  value : Nat → Nat
  save : List Byte → Option (List Byte)

/-- The loop over the special entries. -/
def saveSpecials (order : ExifByteOrder) : List Special → List Byte → Nat → Option (List Byte)
  | [], d, _ => some d
  | p :: ps, d, offset => do
    let value := BitVec.ofNat 32 (p.value (d.length - 6))
    let d ← exifSetShort d (6 + offset) order p.tag
    let d ← exifSetShort d (6 + offset + 2) order ExifFormat.long.code
    let d ← exifSetLong d (6 + offset + 4) order 1
    let d ← exifSetLong d (6 + offset + 8) order value
    let d ← p.save d
    saveSpecials order ps d (offset + 12)

/-- The thumbnail at the end of the block. -/
def saveThumbnail (d : List Byte) : Option (List Byte) := do
  let ts := (d.length + x.data.length) % 4294967296
  let d := Block.realloc d ts fresh
  Block.write d (ts - x.data.length) x.data

/-- `n` rows of 12 bytes. -/
def rows (n : Nat) (bytes : List Byte) : List Row :=
  (List.range n).map fun j => (bytes.drop (12 * j)).take 12

/-- "Sort the directory according to TIFF specification." -/
def sortDirectory (order : ExifByteOrder) (d : List Byte) (i n : Nat) : Option (List Byte) := do
  let bytes ← Block.read d i (12 * n)
  let sorted := q.sort (fun a b => decide (rowTag order a ≤ rowTag order b)) (rows n bytes)
  Block.write d i sorted.flatten

/-- "The pointer to IFD_INTEROPERABILITY is in IFD_EXIF." -/
def hasExif : Prop := x.ifd .exif ≠ [] ∨ x.ifd .interoperability ≠ []

/-- IFD 1 is saved behind IFD 0. -/
def hasIfd1 : Prop := x.ifd .ifd1 ≠ [] ∨ x.data ≠ []

instance : Decidable (hasExif x) := inferInstanceAs (Decidable (_ ∨ _))

instance : Decidable (hasIfd1 x) := inferInstanceAs (Decidable (_ ∨ _))

/-- The special entries of an IFD; `sub` saves another IFD. -/
def specials (sub : ExifIfd → List Byte → Option (List Byte)) : ExifIfd → List Special
  | .ifd0 =>
    (if hasExif x then [⟨ExifTag.exifIfdPointer, id, sub .exif⟩] else []) ++
      if x.ifd .gps ≠ [] then [⟨ExifTag.gpsInfoIfdPointer, id, sub .gps⟩] else []
  | .exif =>
    if x.ifd .interoperability ≠ [] then
      [⟨ExifTag.interoperabilityIfdPointer, id, sub .interoperability⟩]
    else []
  | .ifd1 =>
    if x.data ≠ [] then
      [⟨ExifTag.jpegInterchangeFormat, id, saveThumbnail fresh x⟩,
        ⟨ExifTag.jpegInterchangeFormatLength, fun _ => x.data.length, some⟩]
    else []
  | .gps | .interoperability => []

/-- The rows of a directory, and what they point to. -/
def saveRows (c : ExifContent) (ps : List Special) (d : List Byte) : Option (List Byte) := do
  let offset := d.length - 6
  let n := c.length + ps.length
  let ts := (d.length + (2 + n * 12 + 4)) % 4294967296
  let d ← exifSetShort (Block.realloc d ts fresh) (6 + offset) x.order (BitVec.ofNat 16 n)
  let d ← saveEntries m fresh x c d (offset + 2)
  let d ← saveSpecials x.order ps d (offset + 2 + 12 * c.length)
  sortDirectory q x.order d (6 + (offset + 2)) n

/-- `exif_data_save_data_content`, which is called with `*ds - 6` for the offset. IFDs are nested
three deep. -/
def exifDataSaveDataContent : Nat → ExifIfd → List Byte → Option (List Byte)
  | 0, _, _ => none
  | depth + 1, i, d => do
    let ps := specials fresh x (exifDataSaveDataContent depth) i
    let last := 6 + (d.length - 6 + 2 + 12 * ((x.ifd i).length + ps.length))
    let d ← saveRows m q fresh x (x.ifd i) ps d
    if i = .ifd0 ∧ hasIfd1 x then
      let next := BitVec.ofNat 32 (d.length - 6)
      let d ← exifSetLong d last x.order next
      exifDataSaveDataContent depth .ifd1 d
    else exifSetLong d last x.order 0

/-- `exif_data_save_data` -/
def exifDataSaveData : Option (List Byte) := do
  let d := Block.realloc [] 14 fresh
  let d ← Block.write d 0 exifHeader
  let d ← Block.write d 6 (orderMark x.order)
  let d ← exifSetShort d 8 x.order 0x002a
  let d ← exifSetLong d 10 x.order 8
  exifDataSaveDataContent m q fresh x 3 .ifd0 d

/-! ## The format -/

/-- How many bytes the components need. -/
def ExifEntry.byteCount (e : ExifEntry) : Nat := e.format.size * e.components.toNat % 4294967296

/-- The bytes of the components. -/
def ExifEntry.written (e : ExifEntry) : List Byte :=
  if e.data = [] then List.replicate e.byteCount 0 else e.data.take e.byteCount

/-- What an entry has outside of the directory. -/
def valueBytes (e : ExifEntry) : List Byte :=
  if 4 < e.byteCount then e.written ++ List.replicate (e.byteCount % 2) 0 else []

/-- The row of an entry whose bytes, if they are outside, are at `pos`. -/
def entryRow (order : ExifByteOrder) (pos : Nat) (e : ExifEntry) : Row :=
  shortBytes order e.tag ++ (shortBytes order e.format.code ++ (longBytes order e.components ++
    if 4 < e.byteCount then longBytes order (BitVec.ofNat 32 pos)
    else e.written ++ List.replicate (4 - e.byteCount) 0))

/-- The row that points to something else. -/
def pointerRow (order : ExifByteOrder) (tag : ExifTag) (value : Nat) : Row :=
  shortBytes order tag ++ (shortBytes order ExifFormat.long.code ++ (longBytes order 1 ++
    longBytes order (BitVec.ofNat 32 value)))

/-- The entries as they are saved, each with the place of its bytes. -/
def placed : Nat → List ExifEntry → List (Nat × ExifEntry)
  | _, [] => []
  | pos, e :: es =>
    (pos, withMnote m x pos e) ::
      placed (pos + (valueBytes (withMnote m x pos e)).length) es

/-- Something that a directory points to: its tag, what the row says when it is at a place, and
its bytes there. -/
structure Part where
  tag : ExifTag
  value : Nat → Nat
  bytes : Nat → List Byte

def placedParts : Nat → List Part → List (Nat × Part)
  | _, [] => []
  | pos, p :: ps => (pos, p) :: placedParts (pos + (p.bytes pos).length) ps

/-- The rows of the entries, sorted by tag, with their number before and a pointer behind them. -/
def directory (order : ExifByteOrder) (rows : List Row) (next : Nat) : List Byte :=
  shortBytes order (BitVec.ofNat 16 rows.length) ++
    ((q.sort (fun a b => decide (rowTag order a ≤ rowTag order b)) rows).flatten ++
      longBytes order (BitVec.ofNat 32 next))

/-- An IFD at `pos`: the directory, the values of its entries, and what else it points to. -/
structure Layout where
  entries : List (Nat × ExifEntry)
  parts : List (Nat × Part)

def layout (c : ExifContent) (parts : List Part) (pos : Nat) : Layout :=
  let values := pos + (2 + (c.length + parts.length) * 12 + 4)
  let entries := placed m x values c
  ⟨entries, placedParts (values + (entries.flatMap fun p => valueBytes p.2).length) parts⟩

namespace Layout

variable (l : Layout)

def values : List Byte := l.entries.flatMap fun p => valueBytes p.2

def blobs : List Byte := l.parts.flatMap fun p => p.2.bytes p.1

def rows (order : ExifByteOrder) : List Row :=
  (l.entries.map fun p => entryRow order p.1 p.2) ++
    l.parts.map fun p => pointerRow order p.2.tag (p.2.value p.1)

def bytes (order : ExifByteOrder) (next : Nat) : List Byte :=
  directory q order (l.rows order) next ++ (l.values ++ l.blobs)

end Layout

/-- An IFD that points to no other. -/
def leafBytes (i : ExifIfd) (pos : Nat) : List Byte :=
  (layout m x (x.ifd i) [] pos).bytes q x.order 0

def exifParts : List Part :=
  if x.ifd .interoperability ≠ [] then
    [⟨ExifTag.interoperabilityIfdPointer, id, leafBytes m q x .interoperability⟩]
  else []

def exifIfdBytes (pos : Nat) : List Byte :=
  (layout m x (x.ifd .exif) (exifParts m q x) pos).bytes q x.order 0

def ifd0Parts : List Part :=
  (if hasExif x then [⟨ExifTag.exifIfdPointer, id, exifIfdBytes m q x⟩] else []) ++
    if x.ifd .gps ≠ [] then [⟨ExifTag.gpsInfoIfdPointer, id, leafBytes m q x .gps⟩] else []

def ifd1Parts : List Part :=
  if x.data ≠ [] then
    [⟨ExifTag.jpegInterchangeFormat, id, fun _ => x.data⟩,
      ⟨ExifTag.jpegInterchangeFormatLength, fun _ => x.data.length, fun _ => []⟩]
  else []

def ifd1Bytes (pos : Nat) : List Byte :=
  (layout m x (x.ifd .ifd1) (ifd1Parts x) pos).bytes q x.order 0

/-- The header of the block. -/
def headerBytes (order : ExifByteOrder) : List Byte :=
  exifHeader ++ orderMark order ++ shortBytes order 0x002a ++ longBytes order 8

def ifd0Layout : Layout := layout m x (x.ifd .ifd0) (ifd0Parts m q x) 8

/-- Where IFD 1 is. -/
def ifd1Pos : Nat := 8 + ((ifd0Layout m q x).bytes q x.order 0).length

/-- The format: the header, IFD 0 with what it points to, and IFD 1. -/
def exifBytes : List Byte :=
  if hasIfd1 x then
    headerBytes x.order ++ (ifd0Layout m q x).bytes q x.order (ifd1Pos m q x) ++
      ifd1Bytes m q x (ifd1Pos m q x)
  else headerBytes x.order ++ (ifd0Layout m q x).bytes q x.order 0

end Save

/-! ## Saving entries -/

section Writing

variable {m : MnoteMethods μ} {q : Qsort Row} {fresh : Nat → Byte} {x : ExifData μ}
  {order : ExifByteOrder} {e : ExifEntry}

/-- The block of the entry is NULL or has the bytes of the components. -/
def ExifEntry.Readable (e : ExifEntry) : Prop := e.data = [] ∨ e.byteCount ≤ e.data.length

/-- An entry is written with all the bytes of its components. -/
theorem length_written (h : e.Readable) : e.written.length = e.byteCount := by
  unfold ExifEntry.written
  split
  · exact List.length_replicate
  · rename_i hne
    rw [List.length_take, Nat.min_eq_left (h.resolve_left hne)]

/-- A row has twelve bytes. -/
theorem length_entryRow (order : ExifByteOrder) (h : e.Readable) (pos : Nat) :
    (entryRow order pos e).length = 12 := by
  simp only [entryRow, List.length_append, length_shortBytes, length_longBytes]
  split
  · rw [length_longBytes]
  · rename_i hle
    rw [List.length_append, length_written h, List.length_replicate]
    omega

/-- A value that does not fit into its row is padded to an even size. -/
theorem length_valueBytes (h : e.Readable) :
    (valueBytes e).length = if 4 < e.byteCount then e.byteCount + e.byteCount % 2 else 0 := by
  unfold valueBytes
  split
  · rw [List.length_append, length_written h, List.length_replicate]
  · rfl

@[simp] theorem length_pointerRow (tag : ExifTag) (value : Nat) :
    (pointerRow order tag value).length = 12 := by
  simp [pointerRow]

/-- The bytes of an entry are written over as many others. -/
theorem writeData_mid {a old c : List Byte} {i : Nat} (h : e.Readable)
    (hold : old.length = e.byteCount) (hi : i = a.length) :
    writeData (a ++ old ++ c) i e e.byteCount = some (a ++ e.written ++ c) := by
  have hwrite := Block.write_mid (a := a) (c := c) (i := i) (hold.trans (length_written h).symm) hi
  unfold writeData ExifEntry.written at *
  split at hwrite
  · rename_i hnil
    rw [if_pos hnil, if_pos hnil]
    exact hwrite
  · rename_i hne
    rw [if_neg hne, if_neg hne, Block.read_isSome (by rw [Nat.zero_add]; exact h.resolve_left hne)]
    exact hwrite

/-- The first eight bytes of a row. -/
theorem saveRowHead (order : ExifByteOrder) (tag format : BitVec 16) (components : BitVec 32)
    {a o1 o2 o3 c : List Byte} {offset : Nat} (h1 : o1.length = 2) (h2 : o2.length = 2)
    (h3 : o3.length = 4) (ha : 6 + offset = a.length) :
    exifSetShort (a ++ o1 ++ (o2 ++ (o3 ++ c))) (6 + offset) order tag =
        some (a ++ shortBytes order tag ++ (o2 ++ (o3 ++ c))) ∧
      exifSetShort (a ++ shortBytes order tag ++ (o2 ++ (o3 ++ c))) (6 + offset + 2) order format =
        some (a ++ shortBytes order tag ++ (shortBytes order format ++ (o3 ++ c))) ∧
      exifSetLong (a ++ shortBytes order tag ++ (shortBytes order format ++ (o3 ++ c)))
          (6 + offset + 4) order components =
        some (a ++ shortBytes order tag ++ (shortBytes order format ++
          (longBytes order components ++ c))) := by
  refine ⟨Block.write_mid (by rw [h1, length_shortBytes]) ha, ?_, ?_⟩
  · have hwrite := Block.write_mid (a := a ++ shortBytes order tag)
      (b := shortBytes order format) (c := o3 ++ c) (i := 6 + offset + 2)
      (by rw [h2, length_shortBytes]) (by rw [List.length_append, length_shortBytes, ha])
    simpa only [exifSetShort, List.append_assoc] using hwrite
  · have hwrite := Block.write_mid (a := a ++ shortBytes order tag ++ shortBytes order format)
      (b := longBytes order components) (c := c) (i := 6 + offset + 4)
      (by rw [h3, length_longBytes])
      (by simp only [List.length_append, length_shortBytes]; omega)
    simpa only [exifSetLong, List.append_assoc] using hwrite

/-- A row is a tag, a format, a number and a value. -/
theorem split_row {old : List Byte} (h : old.length = 12) :
    ∃ o1 o2 o3 o4, old = o1 ++ (o2 ++ (o3 ++ o4)) ∧ o1.length = 2 ∧ o2.length = 2 ∧
      o3.length = 4 ∧ o4.length = 4 := by
  refine ⟨old.take 2, (old.drop 2).take 2, (old.drop 4).take 4, old.drop 8, ?_, ?_, ?_, ?_, ?_⟩
  · rw [show old.drop 8 = (old.drop 4).drop 4 by rw [List.drop_drop], List.take_append_drop,
      show old.drop 4 = (old.drop 2).drop 2 by rw [List.drop_drop], List.take_append_drop,
      List.take_append_drop]
  all_goals
    simp only [List.length_take, List.length_drop]
    omega

/-- The byte that makes the size even is cleared. -/
theorem writePad_eq {a n2 : List Byte} {ts s : Nat} (hn2 : n2.length = s % 2)
    (hts : ts = a.length + s % 2) :
    writePad (a ++ n2) ts s = some (a ++ List.replicate (s % 2) 0) := by
  unfold writePad
  split
  · rename_i hodd
    rw [hodd] at hn2 hts ⊢
    have hwrite := Block.write_mid (a := a) (c := []) (b := [0]) (i := ts - 1) hn2
      (by omega)
    simpa only [List.append_nil, List.replicate_one] using hwrite
  · rename_i heven
    have hzero : s % 2 = 0 := by omega
    rw [hzero] at hn2 ⊢
    rw [List.eq_nil_of_length_eq_zero hn2]
    rfl

/-- A value that goes to the end of the block. -/
theorem saveOutside_eq {a o4 c : List Byte} {i doff : Nat} (h : e.Readable)
    (hbig : 4 < e.byteCount) (ho4 : o4.length = 4) (hi : i = a.length)
    (hdoff : (a ++ o4 ++ c).length = 6 + doff)
    (hlt : 6 + doff + (valueBytes e).length < 4294967296) :
    saveOutside fresh order (a ++ o4 ++ c) i e e.byteCount =
      some (a ++ longBytes order (BitVec.ofNat 32 doff) ++ c ++ valueBytes e) := by
  rw [length_valueBytes h, if_pos hbig] at hlt
  obtain ⟨new, hnew, hrealloc⟩ := Block.realloc_of_le (d := a ++ o4 ++ c)
    (n := 6 + doff + e.byteCount + e.byteCount % 2) fresh (by omega)
  rw [hdoff] at hnew
  obtain ⟨n1, n2, rfl, hn1, hn2⟩ : ∃ n1 n2, new = n1 ++ n2 ∧ n1.length = e.byteCount ∧
      n2.length = e.byteCount % 2 :=
    ⟨new.take e.byteCount, new.drop e.byteCount, (List.take_append_drop _ _).symm,
      by rw [List.length_take]; omega, by rw [List.length_drop]; omega⟩
  have hpointer : exifSetLong (a ++ o4 ++ c ++ (n1 ++ n2)) i order (BitVec.ofNat 32 doff) =
      some (a ++ longBytes order (BitVec.ofNat 32 doff) ++ c ++ n1 ++ n2) := by
    have hwrite := Block.write_mid (a := a) (c := c ++ (n1 ++ n2)) (i := i)
      (b := longBytes order (BitVec.ofNat 32 doff)) (by rw [ho4, length_longBytes]) hi
    simpa only [exifSetLong, List.append_assoc] using hwrite
  -- the length of what is before the new bytes
  have hbefore : (a ++ longBytes order (BitVec.ofNat 32 doff) ++ c).length = 6 + doff := by
    rw [← hdoff]
    simp [ho4]
  have hpad := writePad_eq (a := a ++ longBytes order (BitVec.ofNat 32 doff) ++ c ++ n1)
    hn2
    (by rw [List.length_append, hbefore, hn1])
  have hdata := writeData_mid (a := a ++ longBytes order (BitVec.ofNat 32 doff) ++ c)
    (c := List.replicate (e.byteCount % 2) 0) h hn1 hbefore.symm
  unfold saveOutside
  rw [hdoff, Nat.add_sub_cancel_left, Nat.mod_eq_of_lt (by omega)]
  simp only [hrealloc, hpointer, Option.bind_eq_bind, Option.bind_some, hpad, hdata]
  rw [valueBytes, if_pos hbig, List.append_assoc _ e.written]

/-- A value that is in the row. -/
theorem saveInside_eq {a o4 c : List Byte} {i : Nat} (h : e.Readable) (hsmall : ¬ 4 < e.byteCount)
    (ho4 : o4.length = 4) (hi : i = a.length) :
    saveInside (a ++ o4 ++ c) i e e.byteCount =
      some (a ++ (e.written ++ List.replicate (4 - e.byteCount) 0) ++ c ++ valueBytes e) := by
  obtain ⟨n1, n2, rfl, hn1, hn2⟩ : ∃ n1 n2, o4 = n1 ++ n2 ∧ n1.length = e.byteCount ∧
      n2.length = 4 - e.byteCount :=
    ⟨o4.take e.byteCount, o4.drop e.byteCount, (List.take_append_drop _ _).symm,
      by rw [List.length_take]; omega, by rw [List.length_drop]; omega⟩
  have hdata := writeData_mid (a := a) (c := n2 ++ c) (i := i) h hn1 hi
  have hnone : valueBytes e = [] := if_neg hsmall
  rw [saveInside, ← List.append_assoc a n1 n2, List.append_assoc _ n2 c, hdata, hnone,
    List.append_nil]
  show (if e.byteCount < 4 then _ else _) = _
  split
  · have hwrite := Block.write_mid (a := a ++ e.written) (c := c)
      (b := List.replicate (4 - e.byteCount) 0) (i := i + e.byteCount)
      (by rw [hn2, List.length_replicate]) (by rw [List.length_append, length_written h, hi])
    simpa only [List.append_assoc] using hwrite
  · have hzero : 4 - e.byteCount = 0 := by omega
    rw [hzero] at hn2 ⊢
    rw [List.eq_nil_of_length_eq_zero hn2]
    simp

/-- An entry becomes its row, and its value goes to the end. -/
theorem exifDataSaveDataEntry_eq (fresh : Nat → Byte) {a old c : List Byte} {offset pos : Nat}
    (h : (withMnote m x pos e).Readable) (hold : old.length = 12) (ha : 6 + offset = a.length)
    (hpos : (a ++ old ++ c).length = 6 + pos)
    (hlt : 6 + pos + (valueBytes (withMnote m x pos e)).length < 4294967296) :
    exifDataSaveDataEntry m fresh x e (a ++ old ++ c) offset =
      some (a ++ entryRow x.order pos (withMnote m x pos e) ++ c ++
        valueBytes (withMnote m x pos e)) := by
  obtain ⟨o1, o2, o3, o4, rfl, h1, h2, h3, h4⟩ := split_row hold
  generalize he' : withMnote m x pos e = e' at h hlt ⊢
  have htag : e'.tag = e.tag := by
    rw [← he', withMnote]
    split
    · split <;> rfl
    · rfl
  have hformat : e'.format = e.format := by
    rw [← he', withMnote]
    split
    · split <;> rfl
    · rfl
  obtain ⟨hset1, hset2, hset3⟩ := saveRowHead x.order e.tag e.format.code
    e'.components (c := o4 ++ c) h1 h2 h3 ha
  have hstart : a ++ (o1 ++ (o2 ++ (o3 ++ o4))) ++ c = a ++ o1 ++ (o2 ++ (o3 ++ (o4 ++ c))) := by
    simp only [List.append_assoc]
  have hlen : (a ++ shortBytes x.order e.tag ++ (shortBytes x.order e.format.code ++
      (o3 ++ (o4 ++ c)))).length = 6 + pos := by
    rw [← hpos]
    simp [h1, h2]
  -- the head of the row is before the value
  generalize hhead : a ++ (shortBytes x.order e.tag ++ (shortBytes x.order e.format.code ++
    longBytes x.order e'.components)) = head
  have hset3' : a ++ shortBytes x.order e.tag ++ (shortBytes x.order e.format.code ++
      (longBytes x.order e'.components ++ (o4 ++ c))) = head ++ o4 ++ c := by
    rw [← hhead]
    simp only [List.append_assoc]
  have hheadlen : 6 + offset + 8 = head.length := by
    rw [← hhead]
    simp only [List.length_append, length_shortBytes, length_longBytes]
    omega
  have hlen' : (head ++ o4 ++ c).length = 6 + pos := by
    rw [← hpos, ← hhead]
    simp only [List.length_append, length_shortBytes, length_longBytes]
    omega
  rw [hstart]
  unfold exifDataSaveDataEntry
  rw [hset1]
  simp only [Option.bind_eq_bind, Option.bind_some, hset2, hlen, Nat.add_sub_cancel_left, he',
    hset3, hset3']
  rw [show e'.format.size * e'.components.toNat % 4294967296 = e'.byteCount from rfl]
  split
  · rename_i hbig
    rw [saveOutside_eq h hbig h4 hheadlen hlen' hlt, entryRow, if_pos hbig, ← hhead, htag, hformat]
    simp only [List.append_assoc]
  · rename_i hsmall
    rw [saveInside_eq h hsmall h4 hheadlen, entryRow, if_neg hsmall, ← hhead, htag, hformat]
    simp only [List.append_assoc]

/-! ## Saving a directory -/

/-- The entries can be read as they are saved. -/
def AllReadable (es : List (Nat × ExifEntry)) : Prop := ∀ p ∈ es, p.2.Readable

/-- **Run lemma**: the rows of the entries are there, and their values at the end. -/
theorem saveEntries_eq (fresh : Nat → Byte) :
    ∀ (es : List ExifEntry) (olds : List Byte) (offset : Nat) {a c : List Byte} {pos : Nat},
    AllReadable (placed m x pos es) → olds.length = 12 * es.length → 6 + offset = a.length →
      (a ++ olds ++ c).length = 6 + pos →
      6 + pos + ((placed m x pos es).flatMap fun p => valueBytes p.2).length < 4294967296 →
      saveEntries m fresh x es (a ++ olds ++ c) offset =
        some (a ++ ((placed m x pos es).map fun p => entryRow x.order p.1 p.2).flatten ++ c ++
          (placed m x pos es).flatMap fun p => valueBytes p.2)
  | [], olds, offset, a, c, pos, _, holds, _, _, _ => by
    have hnil : olds = [] := List.eq_nil_of_length_eq_zero holds
    rw [hnil]
    simp [saveEntries, placed]
  | e :: es, olds, offset, a, c, pos, hread, holds, ha, hpos, hlt => by
    rw [List.length_cons] at holds
    obtain ⟨old, olds', rfl, hold, holds'⟩ : ∃ old olds', olds = old ++ olds' ∧ old.length = 12 ∧
        olds'.length = 12 * es.length :=
      ⟨olds.take 12, olds.drop 12, (List.take_append_drop _ _).symm,
        by rw [List.length_take]; omega, by rw [List.length_drop]; omega⟩
    rw [placed, List.flatMap_cons, List.length_append] at hlt
    dsimp only at hlt
    have hreade : (withMnote m x pos e).Readable :=
      hread (pos, withMnote m x pos e) (by rw [placed]; exact List.mem_cons_self)
    have hreades : AllReadable
        (placed m x (pos + (valueBytes (withMnote m x pos e)).length) es) :=
      fun p hp => hread p (by rw [placed]; exact List.mem_cons_of_mem _ hp)
    have hstart : a ++ (old ++ olds') ++ c = a ++ old ++ (olds' ++ c) := by
      simp only [List.append_assoc]
    have hentry := exifDataSaveDataEntry_eq fresh (c := olds' ++ c) hreade hold ha
      (by rw [← hstart]; exact hpos) (by omega)
    have hrow := length_entryRow x.order hreade pos
    have hrest := saveEntries_eq fresh es olds' (offset + 12)
      (a := a ++ entryRow x.order pos (withMnote m x pos e))
      (c := c ++ valueBytes (withMnote m x pos e)) hreades holds'
      (by rw [List.length_append, hrow]; omega)
      (by
        rw [hstart] at hpos
        simp only [List.length_append, hrow, hold] at hpos ⊢
        omega)
      (by omega)
    have hmid : a ++ entryRow x.order pos (withMnote m x pos e) ++ (olds' ++ c) ++
        valueBytes (withMnote m x pos e) =
          a ++ entryRow x.order pos (withMnote m x pos e) ++ olds' ++
            (c ++ valueBytes (withMnote m x pos e)) := by
      simp only [List.append_assoc]
    rw [saveEntries, hstart, hentry, Option.bind_eq_bind, Option.bind_some, hmid, hrest, placed,
      List.map_cons, List.flatten_cons, List.flatMap_cons]
    simp only [List.append_assoc]

/-- The special entry saves the part. -/
structure Special.Saves (s : Special) (p : Part) : Prop where
  tag : s.tag = p.tag
  value : s.value = p.value
  save : ∀ {d : List Byte} {pos : Nat}, d.length = 6 + pos →
    6 + pos + (p.bytes pos).length < 4294967296 → s.save d = some (d ++ p.bytes pos)

/-- **Run lemma**: the rows of the special entries are there, and what they point to at the
end. -/
theorem saveSpecials_eq (order : ExifByteOrder) {ss : List Special} {ps : List Part}
    (hsaves : List.Forall₂ Special.Saves ss ps) :
    ∀ (offset pos : Nat) {a olds c : List Byte}, olds.length = 12 * ss.length →
      6 + offset = a.length → (a ++ olds ++ c).length = 6 + pos →
      6 + pos + ((placedParts pos ps).flatMap fun p => p.2.bytes p.1).length < 4294967296 →
      saveSpecials order ss (a ++ olds ++ c) offset =
        some (a ++ ((placedParts pos ps).map fun p =>
          pointerRow order p.2.tag (p.2.value p.1)).flatten ++ c ++
          (placedParts pos ps).flatMap fun p => p.2.bytes p.1) := by
  induction hsaves with
  | nil =>
    intro offset pos a olds c holds _ _ _
    have hnil : olds = [] := List.eq_nil_of_length_eq_zero holds
    rw [hnil]
    simp [saveSpecials, placedParts]
  | @cons s p ss ps hs _ ih =>
    intro offset pos a olds c holds ha hpos hlt
    rw [List.length_cons] at holds
    obtain ⟨old, olds', rfl, hold, holds'⟩ : ∃ old olds', olds = old ++ olds' ∧ old.length = 12 ∧
        olds'.length = 12 * ss.length :=
      ⟨olds.take 12, olds.drop 12, (List.take_append_drop _ _).symm,
        by rw [List.length_take]; omega, by rw [List.length_drop]; omega⟩
    obtain ⟨o1, o2, o3, o4, rfl, h1, h2, h3, h4⟩ := split_row hold
    rw [placedParts, List.flatMap_cons, List.length_append] at hlt
    dsimp only at hlt
    obtain ⟨hset1, hset2, hset3⟩ := saveRowHead order p.tag ExifFormat.long.code 1
      (c := o4 ++ (olds' ++ c)) h1 h2 h3 ha
    have hstart : a ++ (o1 ++ (o2 ++ (o3 ++ o4)) ++ olds') ++ c =
        a ++ o1 ++ (o2 ++ (o3 ++ (o4 ++ (olds' ++ c)))) := by
      simp only [List.append_assoc]
    rw [hstart] at hpos
    have hset4 : exifSetLong (a ++ shortBytes order p.tag ++
          (shortBytes order ExifFormat.long.code ++ (longBytes order 1 ++ (o4 ++ (olds' ++ c)))))
          (6 + offset + 8) order (BitVec.ofNat 32 (p.value pos)) =
        some (a ++ pointerRow order p.tag (p.value pos) ++ (olds' ++ c)) := by
      have hwrite := Block.write_mid (a := a ++ shortBytes order p.tag ++
        shortBytes order ExifFormat.long.code ++ longBytes order 1)
        (b := longBytes order (BitVec.ofNat 32 (p.value pos))) (c := olds' ++ c)
        (i := 6 + offset + 8) (by rw [h4, length_longBytes])
        (by simp only [List.length_append, length_shortBytes, length_longBytes]; omega)
      simpa only [exifSetLong, pointerRow, List.append_assoc] using hwrite
    have hlen : (a ++ pointerRow order p.tag (p.value pos) ++ (olds' ++ c)).length = 6 + pos := by
      rw [← hpos]
      simp [h1, h2, h3, h4]
      omega
    have hsave := hs.save hlen (by omega)
    have hrest := ih (offset + 12) (pos + (p.bytes pos).length)
      (a := a ++ pointerRow order p.tag (p.value pos)) (c := c ++ p.bytes pos) holds'
      (by rw [List.length_append, length_pointerRow]; omega)
      (by
        simp only [List.length_append, length_pointerRow] at hlen ⊢
        omega)
      (by omega)
    have hmid : a ++ pointerRow order p.tag (p.value pos) ++ (olds' ++ c) ++ p.bytes pos =
        a ++ pointerRow order p.tag (p.value pos) ++ olds' ++ (c ++ p.bytes pos) := by
      simp only [List.append_assoc]
    have hvalue : s.value ((a ++ o1 ++ (o2 ++ (o3 ++ (o4 ++ (olds' ++ c))))).length - 6) =
        p.value pos := by
      rw [hpos, hs.value, Nat.add_sub_cancel_left]
    rw [saveSpecials, hstart, hvalue, hs.tag, hset1]
    simp only [Option.bind_eq_bind, Option.bind_some, hset2, hset3, hset4, hsave, hmid, hrest]
    rw [placedParts, List.map_cons, List.flatten_cons, List.flatMap_cons]
    simp only [List.append_assoc]

/-- Rows are found again in a directory. -/
theorem rows_flatten {rs : List Row} (h : ∀ r ∈ rs, r.length = 12) :
    rows rs.length rs.flatten = rs := by
  induction rs with
  | nil => rfl
  | cons r rs ih =>
    have hr : r.length = 12 := h r List.mem_cons_self
    have ih := ih fun s hs => h s (List.mem_cons_of_mem r hs)
    unfold rows at ih ⊢
    rw [List.length_cons, List.range_succ_eq_map, List.map_cons, List.map_map, List.flatten_cons]
    congr 1
    · rw [Nat.mul_zero, List.drop_zero, ← hr, List.take_left]
    · conv_rhs => rw [← ih]
      refine List.map_congr_left fun j _ => ?_
      show ((r ++ rs.flatten).drop (12 * (j + 1))).take 12 = _
      rw [show 12 * (j + 1) = r.length + 12 * j by omega, List.drop_length_add_append]

theorem length_flatten_rows {rs : List Row} (h : ∀ r ∈ rs, r.length = 12) :
    rs.flatten.length = 12 * rs.length := by
  induction rs with
  | nil => rfl
  | cons r rs ih =>
    rw [List.flatten_cons, List.length_append, h r List.mem_cons_self,
      ih fun s hs => h s (List.mem_cons_of_mem r hs), List.length_cons]
    omega

/-- The rows are sorted where they are. -/
theorem sortDirectory_eq (q : Qsort Row) (order : ExifByteOrder) {rs : List Row}
    (h : ∀ r ∈ rs, r.length = 12) {a c : List Byte} {i : Nat} (hi : i = a.length) :
    sortDirectory q order (a ++ rs.flatten ++ c) i rs.length =
      some (a ++ (q.sort (fun r s => decide (rowTag order r ≤ rowTag order s)) rs).flatten ++
        c) := by
  subst hi
  have hperm := q.perm (fun r s => decide (rowTag order r ≤ rowTag order s)) rs
  have hread : Block.read (a ++ rs.flatten ++ c) a.length (12 * rs.length) = some rs.flatten := by
    have hat := Block.at_mid a rs.flatten c
    rwa [Block.At, length_flatten_rows h] at hat
  rw [sortDirectory, hread, Option.bind_eq_bind, Option.bind_some, rows_flatten h]
  refine Block.write_mid ?_ rfl
  rw [length_flatten_rows h, length_flatten_rows fun r hr => h r (hperm.mem_iff.mp hr),
    hperm.length_eq]

/-! ## Saving an IFD -/

theorem length_placed : ∀ (pos : Nat) (es : List ExifEntry), (placed m x pos es).length = es.length
  | _, [] => rfl
  | pos, e :: es => by rw [placed, List.length_cons, length_placed, List.length_cons]

theorem length_placedParts : ∀ (pos : Nat) (ps : List Part),
    (placedParts pos ps).length = ps.length
  | _, [] => rfl
  | pos, p :: ps => by rw [placedParts, List.length_cons, length_placedParts, List.length_cons]

theorem length_rows (c : ExifContent) (ps : List Part) (pos : Nat) :
    ((layout m x c ps pos).rows order).length = c.length + ps.length := by
  simp only [Layout.rows, layout, List.length_append, List.length_map, length_placed,
    length_placedParts]

/-- Every row of a directory has twelve bytes. -/
theorem Layout.row_length (order : ExifByteOrder) {l : Layout} (h : AllReadable l.entries) :
    ∀ r ∈ l.rows order, r.length = 12 := by
  intro r hr
  rcases List.mem_append.mp hr with hr | hr
  · obtain ⟨p, hp, rfl⟩ := List.mem_map.mp hr
    exact length_entryRow order (h p hp) p.1
  · obtain ⟨p, _, rfl⟩ := List.mem_map.mp hr
    exact length_pointerRow _ _

/-- How long an IFD is. -/
theorem length_layout_bytes (order : ExifByteOrder) {c : ExifContent} {ps : List Part} {pos : Nat}
    (h : AllReadable (layout m x c ps pos).entries) (next : Nat) :
    ((layout m x c ps pos).bytes q order next).length = 2 + (c.length + ps.length) * 12 + 4 +
      (layout m x c ps pos).values.length + (layout m x c ps pos).blobs.length := by
  have hrows := Layout.row_length order h
  have hperm := q.perm (fun r s => decide (rowTag order r ≤ rowTag order s))
    ((layout m x c ps pos).rows order)
  simp only [Layout.bytes, directory, List.length_append, length_shortBytes, length_longBytes]
  rw [length_flatten_rows fun r hr => hrows r (hperm.mem_iff.mp hr), hperm.length_eq, length_rows]
  omega

/-- The rows are there in the order of the entries, and what they point to at the end. -/
theorem saveSlots_eq (fresh : Nat → Byte) {c : ExifContent} {ss : List Special} {ps : List Part}
    {l : Layout} {head n2 n3 n4 : List Byte} {pos : Nat} (hl : l = layout m x c ps pos)
    (hsaves : List.Forall₂ Special.Saves ss ps) (hread : AllReadable l.entries)
    (hhead : head.length = 6 + (pos + 2)) (h2 : n2.length = 12 * c.length)
    (h3 : n3.length = 12 * ss.length) (h4 : n4.length = 4)
    (hlt : 6 + pos + (2 + (c.length + ps.length) * 12 + 4 + l.values.length + l.blobs.length) <
      4294967296) :
    (do
      let d ← saveEntries m fresh x c (head ++ n2 ++ (n3 ++ n4)) (pos + 2)
      saveSpecials x.order ss d (pos + 2 + 12 * c.length)) =
        some (head ++ (l.rows x.order).flatten ++ (n4 ++ (l.values ++ l.blobs))) := by
  have hlen : ss.length = ps.length := hsaves.length_eq
  have hentries : l.entries = placed m x (pos + (2 + (c.length + ps.length) * 12 + 4)) c := by
    rw [hl]
    rfl
  have hparts : l.parts = placedParts
      (pos + (2 + (c.length + ps.length) * 12 + 4) + l.values.length) ps := by
    rw [hl]
    rfl
  have hes := saveEntries_eq (m := m) (x := x) fresh c n2 (pos + 2) (a := head)
    (c := n3 ++ n4) (hentries ▸ hread) h2 hhead.symm
    (by simp only [List.length_append, hhead, h2, h3, h4]; omega)
    (by rw [← hentries]; show _ + l.values.length < _; omega)
  rw [← hentries] at hes
  have hrowlen : ((l.entries.map fun p => entryRow x.order p.1 p.2).flatten).length =
      12 * c.length := by
    rw [length_flatten_rows, List.length_map, hentries, length_placed]
    intro r hr
    obtain ⟨p, hp, rfl⟩ := List.mem_map.mp hr
    exact length_entryRow x.order (hread p hp) p.1
  have hps := saveSpecials_eq x.order hsaves (pos + 2 + 12 * c.length)
    (pos + (2 + (c.length + ps.length) * 12 + 4) + l.values.length)
    (a := head ++ (l.entries.map fun p => entryRow x.order p.1 p.2).flatten)
    (c := n4 ++ l.values) h3
    (by rw [List.length_append, hhead, hrowlen]; omega)
    (by simp only [List.length_append, hhead, hrowlen, h3, h4]; omega)
    (by rw [← hparts]; show _ + l.blobs.length < _; omega)
  rw [← hparts] at hps
  have hmid : head ++ (l.entries.map fun p => entryRow x.order p.1 p.2).flatten ++ (n3 ++ n4) ++
      (l.entries.flatMap fun p => valueBytes p.2) =
        head ++ (l.entries.map fun p => entryRow x.order p.1 p.2).flatten ++ n3 ++
          (n4 ++ l.values) := by
    simp only [Layout.values, List.append_assoc]
  rw [hes, Option.bind_eq_bind, Option.bind_some, hmid, hps, Layout.rows, List.flatten_append]
  simp only [Layout.blobs, List.append_assoc]

/-- The directory is there but for the pointer at its end. -/
theorem saveRows_eq {c : ExifContent} {ss : List Special} {ps : List Part} {d : List Byte}
    {l : Layout} {pos : Nat} (hl : l = layout m x c ps pos)
    (hsaves : List.Forall₂ Special.Saves ss ps) (hread : AllReadable l.entries)
    (hpos : d.length = 6 + pos)
    (hlt : 6 + pos + (l.bytes q x.order 0).length < 4294967296) :
    ∃ old, old.length = 4 ∧ saveRows m q fresh x c ss d =
      some (d ++ shortBytes x.order (BitVec.ofNat 16 (l.rows x.order).length) ++
        (q.sort (fun r s => decide (rowTag x.order r ≤ rowTag x.order s))
          (l.rows x.order)).flatten ++ (old ++ (l.values ++ l.blobs))) := by
  have hlen : ss.length = ps.length := hsaves.length_eq
  have hrows : (l.rows x.order).length = c.length + ps.length := by
    rw [hl, length_rows]
  have hbytes : (l.bytes q x.order 0).length =
      2 + (c.length + ps.length) * 12 + 4 + l.values.length + l.blobs.length := by
    subst hl
    exact length_layout_bytes x.order hread 0
  rw [hbytes] at hlt
  obtain ⟨new, hnew, hrealloc⟩ := Block.realloc_of_le (d := d)
    (n := d.length + (2 + (c.length + ps.length) * 12 + 4)) fresh (by omega)
  obtain ⟨n1, n2, n3, n4, rfl, h1, h2, h3, h4⟩ : ∃ n1 n2 n3 n4, new = n1 ++ (n2 ++ (n3 ++ n4)) ∧
      n1.length = 2 ∧ n2.length = 12 * c.length ∧ n3.length = 12 * ss.length ∧ n4.length = 4 := by
    refine ⟨new.take 2, (new.drop 2).take (12 * c.length),
      ((new.drop 2).drop (12 * c.length)).take (12 * ss.length),
      ((new.drop 2).drop (12 * c.length)).drop (12 * ss.length), ?_, ?_, ?_, ?_, ?_⟩
    · simp only [List.take_append_drop]
    all_goals
      simp only [List.length_take, List.length_drop]
      omega
  have hcount : exifSetShort (d ++ (n1 ++ (n2 ++ (n3 ++ n4)))) (6 + pos) x.order
      (BitVec.ofNat 16 (c.length + ps.length)) =
        some (d ++ shortBytes x.order (BitVec.ofNat 16 (c.length + ps.length)) ++ n2 ++
          (n3 ++ n4)) := by
    have hwrite := Block.write_mid (a := d) (o := n1) (c := n2 ++ (n3 ++ n4)) (i := 6 + pos)
      (b := shortBytes x.order (BitVec.ofNat 16 (c.length + ps.length)))
      (by rw [h1, length_shortBytes]) hpos.symm
    simpa only [exifSetShort, List.append_assoc] using hwrite
  rw [hrows]
  generalize hhead : d ++ shortBytes x.order (BitVec.ofNat 16 (c.length + ps.length)) = head
    at hcount ⊢
  have hheadlen : head.length = 6 + (pos + 2) := by
    rw [← hhead, List.length_append, length_shortBytes, hpos]
    omega
  have hslots := saveSlots_eq fresh hl hsaves hread hheadlen h2 h3 h4 hlt
  have hrow : ∀ r ∈ l.rows x.order, r.length = 12 := by
    subst hl
    exact Layout.row_length x.order hread
  have hsort := sortDirectory_eq q x.order hrow (a := head) (c := n4 ++ (l.values ++ l.blobs))
    (i := 6 + (pos + 2)) hheadlen.symm
  rw [hrows] at hsort
  refine ⟨n4, h4, ?_⟩
  have hn : d.length + (2 + (c.length + ps.length) * 12 + 4) < 4294967296 := by omega
  unfold saveRows
  dsimp only
  rw [hlen, Nat.mod_eq_of_lt hn, show d.length - 6 = pos by omega, hrealloc, hcount,
    Option.bind_eq_bind, Option.bind_some, ← hsort]
  rw [Option.bind_eq_bind] at hslots
  rw [← Option.bind_assoc, hslots]
  rfl

/-- An IFD is saved at the end of the block. -/
theorem saveLast {ss : List Special} {ps : List Part} {d : List Byte} {l : Layout} {c : ExifContent}
    {pos next : Nat} (hl : l = layout m x c ps pos) (hsaves : List.Forall₂ Special.Saves ss ps)
    (hread : AllReadable l.entries) (hpos : d.length = 6 + pos)
    (hlt : 6 + pos + (l.bytes q x.order 0).length < 4294967296) :
    ∃ d', saveRows m q fresh x c ss d = some d' ∧
      d'.length = 6 + pos + (l.bytes q x.order 0).length ∧
      exifSetLong d' (6 + (d.length - 6 + 2 + 12 * (c.length + ss.length))) x.order
        (BitVec.ofNat 32 next) = some (d ++ l.bytes q x.order next) := by
  obtain ⟨old, hold, hrows⟩ := saveRows_eq (q := q) hl hsaves hread hpos hlt
  have hlen : ss.length = ps.length := hsaves.length_eq
  have hn : (l.rows x.order).length = c.length + ps.length := by
    rw [hl, length_rows]
  have hrow : ∀ r ∈ l.rows x.order, r.length = 12 := by
    subst hl
    exact Layout.row_length x.order hread
  generalize hsorted : q.sort (fun r s => decide (rowTag x.order r ≤ rowTag x.order s))
    (l.rows x.order) = sorted at hrows
  have hperm : sorted.Perm (l.rows x.order) := hsorted ▸ q.perm _ _
  have hflat : sorted.flatten.length = 12 * (c.length + ps.length) := by
    rw [length_flatten_rows fun r hr => hrow r (hperm.mem_iff.mp hr), hperm.length_eq, hn]
  refine ⟨_, hrows, ?_, ?_⟩
  · simp only [Layout.bytes, directory, hsorted, List.length_append, length_shortBytes,
      length_longBytes, hold, hpos]
    omega
  · have hwrite := Block.write_mid (i := 6 + (d.length - 6 + 2 + 12 * (c.length + ss.length)))
      (a := d ++ shortBytes x.order (BitVec.ofNat 16 (l.rows x.order).length) ++ sorted.flatten)
      (c := l.values ++ l.blobs) (b := longBytes x.order (BitVec.ofNat 32 next))
      (by rw [hold, length_longBytes])
      (by simp only [List.length_append, length_shortBytes, hflat, hpos, hlen]; omega)
    simp only [Layout.bytes, directory, hsorted]
    simpa only [exifSetLong, List.append_assoc] using hwrite

/-- An IFD that has no IFD behind it. -/
theorem saveContent_last {i : ExifIfd} {ps : List Part} {d : List Byte} {depth pos : Nat}
    (hi : ¬ (i = .ifd0 ∧ hasIfd1 x))
    (hsaves : List.Forall₂ Special.Saves
      (specials fresh x (exifDataSaveDataContent m q fresh x depth) i) ps)
    (hread : AllReadable (layout m x (x.ifd i) ps pos).entries) (hpos : d.length = 6 + pos)
    (hlt : 6 + pos + ((layout m x (x.ifd i) ps pos).bytes q x.order 0).length < 4294967296) :
    exifDataSaveDataContent m q fresh x (depth + 1) i d =
      some (d ++ (layout m x (x.ifd i) ps pos).bytes q x.order 0) := by
  obtain ⟨d', hrows, -, hset⟩ := saveLast (q := q) rfl hsaves hread hpos hlt
  rw [exifDataSaveDataContent]
  dsimp only
  rw [hrows, Option.bind_eq_bind, Option.bind_some, if_neg hi]
  exact hset

/-- What can be saved: each block has the bytes of the components, and a maker note that is
written anew has components of one byte. -/
structure Savable (x : ExifData μ) : Prop where
  readable : ∀ i, ∀ e ∈ x.ifd i, e.Readable
  mnote : x.dontChangeMakerNote = false → x.md.isSome = true →
    ∀ i, ∀ e ∈ x.ifd i, e.tag = ExifTag.makerNote → e.format.size = 1

/-- A maker note that is written anew can be read as the entry's bytes. -/
theorem Savable.withMnote (h : Savable x) {i : ExifIfd} (he : e ∈ x.ifd i) (pos : Nat) :
    (Exif.withMnote m x pos e).Readable := by
  unfold Exif.withMnote
  split
  · rename_i hnote
    split
    · rename_i md hmd
      refine .inr ?_
      have hone := h.mnote hnote.1 (by rw [hmd]; rfl) i e he hnote.2
      show e.format.size * _ % 4294967296 ≤ _
      rw [hone, Nat.one_mul, BitVec.toNat_ofNat]
      exact Nat.le_trans (Nat.mod_le _ _) (Nat.mod_le _ _)
    · exact h.readable i e he
  · exact h.readable i e he

/-- All entries of a directory can be read. -/
theorem Savable.allReadable (h : Savable x) (i : ExifIfd) (ps : List Part) (pos : Nat) :
    AllReadable (layout m x (x.ifd i) ps pos).entries := by
  have hplaced : ∀ (es : List ExifEntry) (pos : Nat), (∀ e ∈ es, e ∈ x.ifd i) →
      AllReadable (placed m x pos es) := by
    intro es
    induction es with
    | nil =>
      intro pos _ p hp
      exact (List.not_mem_nil hp).elim
    | cons e es ih =>
      intro pos hall p hp
      rw [placed] at hp
      rcases List.mem_cons.mp hp with rfl | hp
      · exact h.withMnote (hall e List.mem_cons_self) pos
      · exact ih _ (fun a ha => hall a (List.mem_cons_of_mem e ha)) p hp
  exact hplaced _ _ fun e he => he

/-- A directory that points to no other is saved as its bytes. -/
theorem saveContent_leaf (h : Savable x) {i : ExifIfd} (hi : i = .gps ∨ i = .interoperability)
    {d : List Byte} {depth pos : Nat} (hpos : d.length = 6 + pos)
    (hlt : 6 + pos + (leafBytes m q x i pos).length < 4294967296) :
    exifDataSaveDataContent m q fresh x (depth + 1) i d = some (d ++ leafBytes m q x i pos) := by
  have hspecials (sub : ExifIfd → List Byte → Option (List Byte)) :
      specials fresh x sub i = [] := by
    rcases hi with rfl | rfl <;> rfl
  refine saveContent_last ?_ (by rw [hspecials]; exact .nil) (h.allReadable i [] pos) hpos hlt
  rcases hi with rfl | rfl <;> simp

/-- So is the EXIF IFD, with the one it points to. -/
theorem saveContent_exif (h : Savable x) {d : List Byte} {depth pos : Nat}
    (hpos : d.length = 6 + pos)
    (hlt : 6 + pos + (exifIfdBytes m q x pos).length < 4294967296) :
    exifDataSaveDataContent m q fresh x (depth + 2) .exif d =
      some (d ++ exifIfdBytes m q x pos) := by
  refine saveContent_last (by simp) ?_ (h.allReadable .exif _ pos) hpos hlt
  unfold specials exifParts
  dsimp only
  split
  · refine .cons ⟨rfl, rfl, fun hd hlt => ?_⟩ .nil
    exact saveContent_leaf h (.inr rfl) hd hlt
  · exact .nil

/-- The thumbnail is copied behind the rest. -/
theorem saveThumbnail_eq {d : List Byte} {pos : Nat} (hpos : d.length = 6 + pos)
    (hlt : 6 + pos + x.data.length < 4294967296) :
    saveThumbnail fresh x d = some (d ++ x.data) := by
  obtain ⟨new, hnew, hrealloc⟩ := Block.realloc_of_le (d := d) (n := d.length + x.data.length)
    fresh (by omega)
  have hwrite := Block.write_mid (a := d) (o := new) (c := []) (b := x.data)
    (i := d.length + x.data.length - x.data.length) (by omega) (by omega)
  unfold saveThumbnail
  dsimp only
  rw [Nat.mod_eq_of_lt (by omega), hrealloc]
  simpa only [List.append_nil] using hwrite

/-- IFD 1 is saved as its bytes, with the thumbnail. -/
theorem saveContent_ifd1 (h : Savable x) {d : List Byte} {depth pos : Nat}
    (hpos : d.length = 6 + pos) (hlt : 6 + pos + (ifd1Bytes m q x pos).length < 4294967296) :
    exifDataSaveDataContent m q fresh x (depth + 1) .ifd1 d =
      some (d ++ ifd1Bytes m q x pos) := by
  refine saveContent_last (by simp) ?_ (h.allReadable .ifd1 _ pos) hpos hlt
  unfold specials ifd1Parts
  dsimp only
  split
  · refine .cons ⟨rfl, rfl, fun hd hlt => saveThumbnail_eq hd hlt⟩ (.cons ⟨rfl, rfl, ?_⟩ .nil)
    intro d pos _ _
    exact congrArg some (List.append_nil d).symm
  · exact .nil

/-- What IFD 0 points to is saved as its bytes. -/
theorem specials_ifd0 (h : Savable x) : List.Forall₂ Special.Saves
    (specials fresh x (exifDataSaveDataContent m q fresh x 2) .ifd0) (ifd0Parts m q x) := by
  unfold specials ifd0Parts
  dsimp only
  refine List.rel_append ?_ ?_
  · split
    · exact .cons ⟨rfl, rfl, fun hd hlt => saveContent_exif h hd hlt⟩ .nil
    · exact .nil
  · split
    · exact .cons ⟨rfl, rfl, fun hd hlt => saveContent_leaf h (.inl rfl) hd hlt⟩ .nil
    · exact .nil

@[simp] theorem length_headerBytes (order : ExifByteOrder) : (headerBytes order).length = 14 := by
  cases order <;> rfl

/-- The header comes first, then IFD 0. -/
theorem saveHeader (m : MnoteMethods μ) (q : Qsort Row) (fresh : Nat → Byte) (x : ExifData μ) :
    exifDataSaveData m q fresh x =
      exifDataSaveDataContent m q fresh x 3 .ifd0 (headerBytes x.order) := by
  unfold exifDataSaveData headerBytes
  cases x.order <;> rfl

theorem Layout.length_bytes (l : Layout) (next : Nat) :
    (l.bytes q order next).length = (l.bytes q order 0).length := by
  simp only [Layout.bytes, directory, List.length_append, length_longBytes]

/-- The saved bytes have the format, whatever was in the new memory. -/
theorem exifDataSaveData_eq (h : Savable x) (hlt : (exifBytes m q x).length < 4294967296) :
    exifDataSaveData m q fresh x = some (exifBytes m q x) := by
  rw [saveHeader]
  have hpos : (headerBytes x.order).length = 6 + 8 := length_headerBytes x.order
  have hread := h.allReadable (m := m) .ifd0 (ifd0Parts m q x) 8
  unfold exifBytes at hlt ⊢
  by_cases hnext : hasIfd1 x
  · rw [if_pos hnext] at hlt ⊢
    rw [List.length_append, List.length_append, hpos, Layout.length_bytes] at hlt
    obtain ⟨d', hrows, hlen, hset⟩ := saveLast (q := q) (d := headerBytes x.order)
      (l := ifd0Layout m q x) rfl (specials_ifd0 h) hread hpos (by omega)
    have hlast : d'.length - 6 = ifd1Pos m q x := by
      rw [hlen, ifd1Pos]
      omega
    have hend : (headerBytes x.order ++ (ifd0Layout m q x).bytes q x.order (ifd1Pos m q x)).length =
        6 + ifd1Pos m q x := by
      rw [List.length_append, hpos, Layout.length_bytes, ifd1Pos]
      omega
    rw [exifDataSaveDataContent]
    dsimp only
    rw [hrows, Option.bind_eq_bind, Option.bind_some, if_pos ⟨rfl, hnext⟩, hlast, hset,
      Option.bind_some]
    refine saveContent_ifd1 h hend ?_
    have hplace : ifd1Pos m q x = 8 + ((ifd0Layout m q x).bytes q x.order 0).length := rfl
    omega
  · rw [if_neg hnext] at hlt ⊢
    rw [List.length_append, hpos] at hlt
    exact saveContent_last (fun hi => hnext hi.2) (specials_ifd0 h) hread hpos (by
      show _ + ((ifd0Layout m q x).bytes q x.order 0).length < _
      omega)

theorem sampleExif_savable : Savable sampleExif where
  readable i e he := by
    cases i <;> simp only [sampleExif, contents, List.mem_cons, List.not_mem_nil, or_false] at he
    · rcases he with rfl | rfl
      · exact .inr (by decide)
      · exact .inr (by decide)
    · rw [he]
      exact .inr (by decide)
    · rw [he]
      exact .inr (by decide)
  mnote _ h := by cases h

theorem sampleExif_length :
    (exifBytes noMnote (Qsort.insertionSort Row) sampleExif).length = 126 := by
  decide +kernel

theorem exifDataSaveData_eq_sample :
    exifDataSaveData noMnote (Qsort.insertionSort Row) (fun _ => 0xaa) sampleExif =
      some (exifBytes noMnote (Qsort.insertionSort Row) sampleExif) :=
  exifDataSaveData_eq sampleExif_savable (by rw [sampleExif_length]; omega)

/-! ## When saving leaves a block -/

/-- What has been written could be read. -/
theorem readable_of_writeData {d d' : List Byte} {i : Nat}
    (h : writeData d i e e.byteCount = some d') : e.Readable := by
  by_cases hnil : e.data = []
  · exact .inl hnil
  · rw [writeData, if_neg hnil, Option.bind_eq_bind, Option.bind_eq_some_iff] at h
    obtain ⟨bytes, hread, -⟩ := h
    have hlen := Block.length_of_read hread
    exact .inr (by omega)

/-- The same for an entry that has been saved. -/
theorem readable_of_saveEntry {d d' : List Byte} {offset : Nat}
    (h : exifDataSaveDataEntry m fresh x e d offset = some d') :
    ∃ pos, (withMnote m x pos e).Readable := by
  unfold exifDataSaveDataEntry at h
  simp only [Option.bind_eq_bind, Option.bind_eq_some_iff] at h
  obtain ⟨d₁, -, d₂, -, d₃, -, h⟩ := h
  refine ⟨d₂.length - 6, ?_⟩
  split at h
  · simp only [saveOutside, Option.bind_eq_bind, Option.bind_eq_some_iff] at h
    obtain ⟨d₄, -, d₅, -, h⟩ := h
    exact readable_of_writeData h
  · simp only [saveInside, Option.bind_eq_bind, Option.bind_eq_some_iff] at h
    obtain ⟨d₄, h, -⟩ := h
    exact readable_of_writeData h

/-- The same for the entries of a directory. -/
theorem readable_of_saveEntries : ∀ {es : List ExifEntry} {d d' : List Byte} {offset : Nat},
    saveEntries m fresh x es d offset = some d' → ∀ e ∈ es, ∃ pos, (withMnote m x pos e).Readable
  | [], _, _, _, _, e, he => (List.not_mem_nil he).elim
  | a :: es, d, d', offset, h, e, he => by
    rw [saveEntries, Option.bind_eq_bind, Option.bind_eq_some_iff] at h
    obtain ⟨d₁, hentry, hrest⟩ := h
    rcases List.mem_cons.mp he with rfl | he
    · exact readable_of_saveEntry hentry
    · exact readable_of_saveEntries hrest e he

/-- The same for what a directory points to. -/
theorem saved_of_saveSpecials : ∀ {ss : List Special} {d d' : List Byte} {offset : Nat},
    saveSpecials order ss d offset = some d' → ∀ s ∈ ss, ∃ d₁ d₂, s.save d₁ = some d₂
  | [], _, _, _, _, s, hs => (List.not_mem_nil hs).elim
  | a :: ss, d, d', offset, h, s, hs => by
    simp only [saveSpecials, Option.bind_eq_bind, Option.bind_eq_some_iff] at h
    obtain ⟨d₁, -, d₂, -, d₃, -, d₄, -, d₅, hsave, hrest⟩ := h
    rcases List.mem_cons.mp hs with rfl | hs
    · exact ⟨d₄, d₅, hsave⟩
    · exact saved_of_saveSpecials hrest s hs

/-- **Step lemma**: what has been saved with an IFD. -/
theorem of_saveContent {i : ExifIfd} {d d' : List Byte} {depth : Nat}
    (h : exifDataSaveDataContent m q fresh x (depth + 1) i d = some d') :
    (∀ e ∈ x.ifd i, ∃ pos, (withMnote m x pos e).Readable) ∧
      (∀ s ∈ specials fresh x (exifDataSaveDataContent m q fresh x depth) i,
        ∃ d₁ d₂, s.save d₁ = some d₂) ∧
      (i = .ifd0 ∧ hasIfd1 x →
        ∃ d₁ d₂, exifDataSaveDataContent m q fresh x depth .ifd1 d₁ = some d₂) := by
  simp only [exifDataSaveDataContent, Option.bind_eq_bind, Option.bind_eq_some_iff] at h
  obtain ⟨d₁, hrows, h⟩ := h
  simp only [saveRows, Option.bind_eq_bind, Option.bind_eq_some_iff] at hrows
  obtain ⟨d₂, -, d₃, hentries, d₄, hspecials, -⟩ := hrows
  refine ⟨readable_of_saveEntries hentries, saved_of_saveSpecials hspecials, fun hi => ?_⟩
  rw [if_pos hi, Option.bind_eq_some_iff] at h
  obtain ⟨d₅, -, h⟩ := h
  exact ⟨d₅, d', h⟩

/-- Every entry has been saved. -/
theorem readable_of_saveData {d : List Byte} (h : exifDataSaveData m q fresh x = some d)
    (i : ExifIfd) (he : e ∈ x.ifd i) : ∃ pos, (withMnote m x pos e).Readable := by
  rw [saveHeader] at h
  obtain ⟨hifd0, hspecials, hifd1⟩ := of_saveContent h
  have hne : x.ifd i ≠ [] := List.ne_nil_of_mem he
  have hexif (hhas : hasExif x) :
      ∃ d₁ d₂, exifDataSaveDataContent m q fresh x 2 .exif d₁ = some d₂ := by
    refine hspecials ⟨ExifTag.exifIfdPointer, id, exifDataSaveDataContent m q fresh x 2 .exif⟩ ?_
    rw [specials, if_pos hhas]
    exact List.mem_append_left _ List.mem_cons_self
  cases i with
  | ifd0 => exact hifd0 e he
  | ifd1 =>
    obtain ⟨d₁, d₂, h⟩ := hifd1 ⟨rfl, .inl hne⟩
    exact (of_saveContent h).1 e he
  | exif =>
    obtain ⟨d₁, d₂, h⟩ := hexif (.inl hne)
    exact (of_saveContent h).1 e he
  | gps =>
    have hgps := hspecials
      ⟨ExifTag.gpsInfoIfdPointer, id, exifDataSaveDataContent m q fresh x 2 .gps⟩ (by
        rw [specials, if_pos hne]
        exact List.mem_append_right _ List.mem_cons_self)
    obtain ⟨d₁, d₂, h⟩ := hgps
    exact (of_saveContent h).1 e he
  | interoperability =>
    obtain ⟨d₁, d₂, h⟩ := hexif (.inr hne)
    have hinterop := (of_saveContent h).2.1
      ⟨ExifTag.interoperabilityIfdPointer, id,
        exifDataSaveDataContent m q fresh x 1 .interoperability⟩
      (by
        rw [specials, if_pos hne]
        exact List.mem_cons_self)
    obtain ⟨d₁, d₂, h⟩ := hinterop
    exact (of_saveContent h).1 e he

/-- Saving stays in its blocks exactly when no maker note that is written anew has components of
more than one byte, for the number of its components is then the number of its bytes. -/
theorem exifDataSaveData_isSome_iff (m : MnoteMethods μ) (q : Qsort Row) (fresh : Nat → Byte)
    (x : ExifData μ) (hread : ∀ i, ∀ e ∈ x.ifd i, e.Readable)
    (hmnote : ∀ md, x.md = some md → ∀ pos, m.save md pos ≠ [] ∧
      (m.save md pos).length < 268435456)
    (hlt : (exifBytes m q x).length < 4294967296) :
    (exifDataSaveData m q fresh x).isSome = true ↔
      (x.dontChangeMakerNote = false → x.md.isSome = true →
        ∀ i, ∀ e ∈ x.ifd i, e.tag = ExifTag.makerNote → e.format.size = 1) := by
  constructor
  · intro hsome hchange hmd i e he htag
    obtain ⟨d, h⟩ := Option.isSome_iff_exists.mp hsome
    obtain ⟨md, hmd⟩ := Option.isSome_iff_exists.mp hmd
    obtain ⟨pos, hreadable⟩ := readable_of_saveData h i he
    obtain ⟨hne, hlen⟩ := hmnote md hmd pos
    have hnote : withMnote m x pos e = { e with
        data := m.save md pos, components := BitVec.ofNat 32 (m.save md pos).length } := by
      rw [withMnote, if_pos ⟨hchange, htag⟩, hmd]
    rw [hnote] at hreadable
    have hle : e.format.size * (m.save md pos).length ≤ (m.save md pos).length := by
      have hle := hreadable.resolve_left hne
      have hsize := e.format.size_le
      have hmul : e.format.size * (m.save md pos).length ≤ 8 * (m.save md pos).length :=
        Nat.mul_le_mul_right _ hsize
      have hcount : (BitVec.ofNat 32 (m.save md pos).length).toNat = (m.save md pos).length := by
        rw [BitVec.toNat_ofNat]
        exact Nat.mod_eq_of_lt (by omega)
      rw [ExifEntry.byteCount] at hle
      dsimp only at hle
      rwa [hcount, Nat.mod_eq_of_lt (by omega)] at hle
    have hpos := e.format.size_pos
    have hlenpos := List.length_pos_iff.mpr hne
    have hone : e.format.size ≤ 1 :=
      Nat.le_of_mul_le_mul_right (by rw [Nat.one_mul]; exact hle) hlenpos
    omega
  · intro h
    rw [exifDataSaveData_eq ⟨hread, h⟩ hlt]
    rfl

/-- The maker note of a picture, which has been changed into two bytes. -/
def sampleMnote : ExifData Unit :=
  { sampleExif with
    ifd := contents [] [] [⟨ExifTag.makerNote, .undefined, 1, [0]⟩] [] []
    data := []
    md := some () }

theorem exifDataSaveData_isSome_iff_sample :
    (exifDataSaveData ⟨fun md _ => some md, fun _ _ => [0x41, 0x42]⟩ (Qsort.insertionSort Row)
        (fun _ => 0) sampleMnote).isSome = true ↔
      (false = false → (some ()).isSome = true →
        ∀ i, ∀ e ∈ sampleMnote.ifd i, e.tag = ExifTag.makerNote → e.format.size = 1) :=
  exifDataSaveData_isSome_iff ⟨fun md _ => some md, fun _ _ => [0x41, 0x42]⟩ _ _ sampleMnote
    (by
      intro i e he
      cases i <;> simp only [sampleMnote, contents, List.mem_cons, List.not_mem_nil, or_false] at he
      rw [he]
      exact .inr (by decide))
    (fun _ _ _ => ⟨List.cons_ne_nil _ _, Nat.lt_of_sub_pos (by show 0 < 268435456 - 2; omega)⟩)
    (by decide +kernel)

end Writing

end Ancora.Exif
