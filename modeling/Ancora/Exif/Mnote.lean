import Ancora.Exif.Load

/-!
# Maker notes (libexifa/canon, fuji, olympus, pentax: exif-mnote-data-*.c)

A maker note is a directory of its own, in one of ten formats of four makers. They differ in what
stands before the number of entries, in the byte order, in the place that offsets count from, and
in what is done with an entry that is out of place.

- `MnoteData`: a maker note. The entries of all makers have the same shape.
- `loadMnoteEntries`, `saveMnoteEntries`: the loops over the entries, with what the makers differ
  in as parameters.
- `canonLoad`, `canonSave` and so on: the methods of each maker. No result means that a block has
  been left.
- **`olympusLoad_safe`**: only one loader leaves the data, and only for a note that is cut short.
- `canonSave_isSome` and so on: what has been loaded can be saved.
- **`mnoteSetByteOrder_eq_none_iff`**: a count of components that is too large for its size is
  taken for that of an array, and then the array is left.

Allocations succeed here, and what is only shown of an entry is not part of this.
-/

namespace Ancora.Exif

/-- `MnoteCanonEntry` and the entries of the other makers. The block is NULL when it has no
bytes. -/
structure MnoteEntry where
  tag : BitVec 32
  format : BitVec 16
  components : BitVec 32
  data : List Byte
  deriving DecidableEq, Repr

/-- `exif_format_get_size (format) * components`, in 32 bits. -/
def MnoteEntry.size (e : MnoteEntry) : Nat :=
  exifFormatGetSize e.format * e.components.toNat % 4294967296

/-- `ExifMnoteDataCanon` and the others; `ν` are the versions of a maker. -/
structure MnoteData (ν : Type) where
  entries : List MnoteEntry
  order : ExifByteOrder
  offset : BitVec 32
  version : ν
  deriving DecidableEq, Repr

/-- `exif_mnote_data_canon_new` and the others: the block is all zeros. -/
def mnoteDataNew {ν : Type} (version : ν) : MnoteData ν := ⟨[], .motorola, 0, version⟩

/-! ## Loading the entries -/

/-- `n` bytes from `o` on do not fit into `size`: `(o + n < o) || (o + n < n) || (o + n > size)`. -/
def tooFar (size o n : Nat) : Bool :=
  let last := (o + n) % 4294967296
  decide (last < o) || decide (last < n) || decide (size < last)

/-- What makers differ in when they load an entry: the base of the tags, where offsets count from,
what is done with an entry that has no bytes, and whether the last byte of the data can be in an
entry. -/
structure LoadStyle where
  base : BitVec 32
  start : Nat
  keepsEmpty : Bool
  spareLast : Bool

section Load

variable (k : LoadStyle) (order : ExifByteOrder) (d : List Byte)

/-- Where the `s` bytes of the entry at `o` are. -/
def mnoteDataOffset (o s : Nat) : Option Nat :=
  if 4 < s then (exifGetLong d (o + 8) order).map fun v => (v.toNat + k.start) % 4294967296
  else some (o + 8)

/-- One turn of the loop: the entry at `o`, if it is kept. -/
def loadMnoteEntry (o : Nat) : Option (Option MnoteEntry) := do
  let tag ← exifGetShort d o order
  let format ← exifGetShort d (o + 2) order
  let components ← exifGetLong d (o + 4) order
  let e : MnoteEntry := ⟨tag.setWidth 32 + k.base, format, components, []⟩
  if e.size = 0 then some (if k.keepsEmpty then some e else none)
  else do
    let dataofs ← mnoteDataOffset k order d o e.size
    if tooFar d.length dataofs e.size ||
        k.spareLast && decide (d.length = (dataofs + e.size) % 4294967296) then some none
    else do
      let data ← Block.read d dataofs e.size
      some (some { e with data := data })

/-- The loop over `n` entries from `o` on. -/
def loadMnoteEntries : Nat → Nat → Option (List MnoteEntry)
  | 0, _ => some []
  | n + 1, o =>
    if tooFar d.length o 12 then some []
    else do
      let e ← loadMnoteEntry k order d o
      let es ← loadMnoteEntries n (o + 12)
      some (e.toList ++ es)

/-- The number of entries at `o`, and the entries behind it. -/
def loadMnoteDirectory (o : Nat) : Option (List MnoteEntry) := do
  let c ← exifGetShort d o order
  loadMnoteEntries k order d c.toNat (o + 2)

end Load

/-- `6 + n->offset`: the maker note begins there. -/
def MnoteData.datao {ν : Type} (n : MnoteData ν) : Nat := (6 + n.offset.toNat) % 4294967296

/-! ## Saving the entries -/

/-- What makers differ in when they save an entry: the base of the tags, where offsets count from,
whether the entries begin at even places, and whether the bytes behind a small value are cleared
once more. -/
structure SaveStyle where
  base : BitVec 32
  start : BitVec 32
  pads : Bool
  clears : Bool

section Save

variable (k : SaveStyle) (order : ExifByteOrder) (fresh : Nat → Byte)

/-- What is copied into the block: `s` bytes of the entry, or zeros if it has none. -/
def MnoteEntry.source (e : MnoteEntry) : Option (List Byte) :=
  if e.data = [] then some (List.replicate e.size 0) else Block.read e.data 0 e.size

/-- "Ensure even offsets. Set padding bytes to 0." -/
def padLast (odd : Bool) (d : List Byte) : Option (List Byte) :=
  if odd then Block.write d (d.length - 1) [0] else some d

/-- One turn of the loop: the entry is written at `o`, and data of more than four bytes behind all
that is there. "EXIF data size is limited to the maximum size of a JPEG segment (64 kb)." -/
def saveMnoteEntry (d : List Byte) (o : Nat) (e : MnoteEntry) : Option (List Byte) := do
  let d ← exifSetShort d o order ((e.tag - k.base).setWidth 16)
  let d ← exifSetShort d (o + 2) order e.format
  let d ← exifSetLong d (o + 4) order e.components
  let s := e.size
  if 65536 < s then some d
  else if 4 < s then do
    let doff := d.length
    let odd := k.pads && decide (s % 2 = 1)
    let ts := (if odd then doff + s + 1 else doff + s) % 4294967296
    let d ← padLast odd (Block.realloc d ts fresh)
    let d ← exifSetLong d (o + 8) order (k.start + BitVec.ofNat 32 doff)
    let bs ← e.source
    Block.write d doff bs
  else do
    let bs ← e.source
    let d ← Block.write d (o + 8) bs
    if k.clears && decide (s < 4) then Block.write d (o + 8 + s) (List.replicate (4 - s) 0)
    else some d

/-- The loop over the entries. -/
def saveMnoteEntries : List Byte → Nat → List MnoteEntry → Option (List Byte)
  | d, _, [] => some d
  | d, o, e :: es => do
    let d ← saveMnoteEntry k order fresh d o e
    saveMnoteEntries d (o + 12) es

end Save

/-- `(ExifShort) n->count` -/
def MnoteData.count {ν : Type} (n : MnoteData ν) : BitVec 16 := BitVec.ofNat 16 n.entries.length

/-- `"II"` or `"MM"` as a number. -/
def orderNumber : ExifByteOrder → BitVec 16
  | .intel => 0x4949
  | .motorola => 0x4d4d

/-! ## Byte order -/

/-- The body of `exif_mnote_data_canon_set_byte_order` and of the others. -/
def mnoteEntrySetByteOrder (orig new : ExifByteOrder) (e : MnoteEntry) : Option MnoteEntry :=
  match ExifFormat.ofCode? e.format with
  | none => some e
  | some f => do
    let data ← exifArraySetByteOrder f e.data e.components.toNat orig new
    some { e with data := data }

/-- `exif_mnote_data_canon_set_byte_order` and the others. -/
def mnoteSetByteOrder {ν : Type} (n : MnoteData ν) (o : ExifByteOrder) : Option (MnoteData ν) := do
  let entries ← n.entries.mapM (mnoteEntrySetByteOrder n.order o)
  some { n with order := o, entries := entries }

/-! ## Canon -/

section Canon

/-- `exif_mnote_data_canon_load` -/
def canonLoad (n : MnoteData Unit) (d : List Byte) : Option (MnoteData Unit) :=
  if tooFar d.length n.datao 2 then some n
  else do
    let entries ← loadMnoteDirectory ⟨0, 6, false, false⟩ n.order d n.datao
    some { n with entries := entries }

/-- `exif_mnote_data_canon_save` -/
def canonSave (fresh : Nat → Byte) (n : MnoteData Unit) : Option (List Byte) := do
  let d := List.replicate (2 + n.entries.length * 12 + 4) 0
  let d ← exifSetShort d 0 n.order n.count
  saveMnoteEntries ⟨0, n.offset, true, true⟩ n.order fresh d 2 n.entries

end Canon

/-! ## Fuji -/

section Fuji

/-- `"FUJIFILM"` -/
def fujiHeader : List Byte := [0x46, 0x55, 0x4a, 0x49, 0x46, 0x49, 0x4c, 0x4d]

/-- `exif_mnote_data_fuji_load` -/
def fujiLoad (n : MnoteData Unit) (d : List Byte) : Option (MnoteData Unit) :=
  if tooFar d.length n.datao 12 then some n
  else do
    let first ← exifGetLong d (n.datao + 8) .intel
    let datao := (n.datao + first.toNat) % 4294967296
    if tooFar d.length datao 2 then some { n with order := .intel }
    else do
      let entries ← loadMnoteDirectory ⟨0, n.datao, true, true⟩ .intel d datao
      some { n with order := .intel, entries := entries }

/-- `exif_mnote_data_fuji_save` -/
def fujiSave (fresh : Nat → Byte) (n : MnoteData Unit) : Option (List Byte) := do
  let d := List.replicate (8 + 4 + 2 + n.entries.length * 12 + 4) 0
  let d ← Block.write d 0 fujiHeader
  let d ← exifSetLong d 8 n.order 12
  let d ← exifSetShort d (8 + 4) n.order n.count
  saveMnoteEntries ⟨0, 0, true, false⟩ n.order fresh d (8 + 4 + 2) n.entries

end Fuji

/-! ## Pentax and Casio -/

section Pentax

inductive PentaxVersion
  | pentaxV1
  | pentaxV2
  | pentaxV3
  | casioV2
  deriving DecidableEq, Repr

/-- `"AOC"`, with the NUL -/
def pentaxHeader : List Byte := [0x41, 0x4f, 0x43, 0x00]

/-- `"QVC"`, with the NUL -/
def casioHeader : List Byte := [0x51, 0x56, 0x43, 0x00]

/-- `MNOTE_PENTAX2_TAG_BASE`, `MNOTE_CASIO2_TAG_BASE` -/
def PentaxVersion.base : PentaxVersion → BitVec 32
  | .pentaxV1 => 0
  | .pentaxV2 => 0x4000
  | .pentaxV3 => 0x4000
  | .casioV2 => 0x4000

/-- The bytes before the number of entries. -/
def PentaxVersion.skipped : PentaxVersion → Nat
  | .pentaxV1 => 0
  | .pentaxV2 => 4 + 2
  | .pentaxV3 => 4 + 2
  | .casioV2 => 4 + 2

/-- The version and the byte order that the first bytes stand for. -/
def pentaxVariant (order : ExifByteOrder) (head mark : List Byte) :
    PentaxVersion × ExifByteOrder :=
  if head = pentaxHeader then
    if mark = orderMark .intel then (.pentaxV3, .intel)
    else if mark = orderMark .motorola then (.pentaxV3, .motorola)
    else (.pentaxV2, order)
  else if head = casioHeader then (.casioV2, order)
  else (.pentaxV1, order)

/-- `exif_mnote_data_pentax_load`; without a version it has not been loaded. -/
def pentaxLoad (n : MnoteData (Option PentaxVersion)) (d : List Byte) :
    Option (MnoteData (Option PentaxVersion)) :=
  if tooFar d.length n.datao 8 then some n
  else do
    let head ← Block.read d n.datao 4
    let mark ← Block.read d (n.datao + 4) 2
    let (version, order) := pentaxVariant n.order head mark
    let entries ← loadMnoteDirectory ⟨version.base, 6, true, false⟩ order d
      (n.datao + version.skipped)
    some { n with version := some version, order := order, entries := entries }

/-- "Write the magic header". -/
def pentaxWriteHeader (d : List Byte) (order : ExifByteOrder) :
    PentaxVersion → Option (List Byte)
  | .casioV2 => do
    let d ← Block.write d 0 casioHeader
    exifSetShort d 4 order 0
  | .pentaxV3 => do
    let d ← Block.write d 0 pentaxHeader
    exifSetShort d 4 order (orderNumber order)
  | .pentaxV2 => do
    let d ← Block.write d 0 pentaxHeader
    exifSetShort d 4 order 0
  | .pentaxV1 => some d

/-- `exif_mnote_data_pentax_save`. Without a version there is a size but no block; then zeros are
written for it. -/
def pentaxSave (fresh : Nat → Byte) (n : MnoteData (Option PentaxVersion)) :
    Option (List Byte) :=
  match n.version with
  | none => some (List.replicate (4 + 2 + 2 + n.entries.length * 12 + 4) 0)
  | some version => do
    let o2 := version.skipped
    let d := List.replicate (o2 + 2 + n.entries.length * 12 + 4) 0
    let d ← pentaxWriteHeader d n.order version
    let d ← exifSetShort d o2 n.order n.count
    let d ← saveMnoteEntries ⟨version.base, n.offset, false, false⟩ n.order fresh d (o2 + 2)
      n.entries
    exifSetLong d (o2 + 2 + n.entries.length * 12) n.order 0

end Pentax

/-! ## Olympus, Sanyo, Epson and Nikon -/

section Olympus

inductive OlympusVersion
  | unrecognized
  | nikonV1
  | nikonV2
  | olympusV1
  | olympusV2
  | sanyoV1
  | epsonV1
  | nikonV0
  deriving DecidableEq, Repr

/-- The number of a version. -/
def OlympusVersion.code : OlympusVersion → Byte
  | .unrecognized => 0
  | .nikonV1 => 1
  | .nikonV2 => 2
  | .olympusV1 => 3
  | .olympusV2 => 4
  | .sanyoV1 => 5
  | .epsonV1 => 6
  | .nikonV0 => 7

/-- The texts at the beginning, with the NUL. -/
def OlympusVersion.text : OlympusVersion → List Byte
  | .olympusV1 => [0x4f, 0x4c, 0x59, 0x4d, 0x50, 0x00]
  | .olympusV2 => [0x4f, 0x4c, 0x59, 0x4d, 0x50, 0x55, 0x53, 0x00]
  | .sanyoV1 => [0x53, 0x41, 0x4e, 0x59, 0x4f, 0x00]
  | .epsonV1 => [0x45, 0x50, 0x53, 0x4f, 0x4e, 0x00]
  | .nikonV0 => [0x4e, 0x69, 0x6b, 0x6f, 0x6e, 0x00]
  | .nikonV1 => [0x4e, 0x69, 0x6b, 0x6f, 0x6e, 0x00]
  | .nikonV2 => [0x4e, 0x69, 0x6b, 0x6f, 0x6e, 0x00]
  | .unrecognized => []

/-- `MNOTE_NIKON1_TAG_BASE` -/
def OlympusVersion.base : OlympusVersion → BitVec 32
  | .nikonV1 => 0x8000
  | _ => 0

/-- `exif_mnote_data_olympus_identify_variant` -/
def identifyVariant (buf : List Byte) : OlympusVersion :=
  if 8 ≤ buf.length ∧ buf.take 8 = OlympusVersion.text .olympusV2 then .olympusV2
  else if 8 ≤ buf.length ∧ buf.take 6 = OlympusVersion.text .olympusV1 then .olympusV1
  else if 8 ≤ buf.length ∧ buf.take 6 = OlympusVersion.text .sanyoV1 then .sanyoV1
  else if 8 ≤ buf.length ∧ buf.take 6 = OlympusVersion.text .epsonV1 then .epsonV1
  else if 8 ≤ buf.length ∧ buf.take 6 = OlympusVersion.text .nikonV1 then
    if buf[6]? = some 1 then .nikonV1
    else if buf[6]? = some 2 then .nikonV2
    else .unrecognized
  else if 2 ≤ buf.length ∧ buf.take 2 = [0x00, 0x1b] then .nikonV0
  else .unrecognized

def ExifByteOrder.other : ExifByteOrder → ExifByteOrder
  | .intel => .motorola
  | .motorola => .intel

/-- "Fix endianness, if needed": a number of entries that is unlikely. -/
def fixEndianness (c : BitVec 16) (order : ExifByteOrder) : ExifByteOrder :=
  if c &&& 0xff = 0 ∧ 0x500 < c.toNat then order.other else order

/-- `"II"`, `"MM"` -/
def readMark (mark : List Byte) : Option ExifByteOrder :=
  if mark = orderMark .intel then some .intel
  else if mark = orderMark .motorola then some .motorola
  else none

/-- The byte order and, if all of the header is there, the place of the number of entries and the
place that offsets count from. Some bytes are read only for the log. -/
def olympusHeader (order : ExifByteOrder) (d : List Byte) (o2 : Nat) :
    OlympusVersion → Option (ExifByteOrder × Option (Nat × Nat))
  | .olympusV1 | .sanyoV1 | .epsonV1 => do
    let b0 ← d[o2 + 6]?
    let b1 ← d[o2 + 6 + 1]?
    let order := if b0 = 1 then .intel else if b1 = 1 then .motorola else order
    if d.length < o2 + 8 + 2 then some (order, none)
    else do
      let c ← exifGetShort d (o2 + 8) order
      some (fixEndianness c order, some (o2 + 8, 6))
  | .olympusV2 => do
    let logged ← Block.read d (o2 + 8) 4
    some ((readMark (logged.take 2)).getD order, some (o2 + 8 + 4, o2))
  | .nikonV1 =>
    if d.length ≤ o2 + 6 then some (order, none)
    else do
      let _ ← Block.read d (o2 + 6) 8
      if d.length < o2 + 8 + 2 then some (order, none)
      else do
        let c ← exifGetShort d (o2 + 8) order
        some (fixEndianness c order, some (o2 + 8, 6))
  | .nikonV2 =>
    if d.length ≤ o2 + 6 then some (order, none)
    else do
      let _ ← Block.read d (o2 + 6) 8
      let datao := o2 + 10
      if d.length ≤ datao then some (order, none)
      else do
        let mark ← Block.read d datao 2
        match readMark mark with
        | none => some (order, none)
        | some order =>
          if d.length < (datao + 4 + 4) % 4294967296 then some (order, none)
          else do
            let first ← exifGetLong d (datao + 4) order
            some (order, some ((datao + first.toNat) % 4294967296, datao))
  | .nikonV0 => do
    let _ ← Block.read d o2 8
    some (.motorola, some (o2, 6))
  | .unrecognized => some (order, none)

/-- `exif_mnote_data_olympus_load` -/
def olympusLoad (n : MnoteData OlympusVersion) (d : List Byte) :
    Option (MnoteData OlympusVersion) :=
  if tooFar d.length n.datao 10 then some n
  else do
    let version := identifyVariant (d.drop n.datao)
    let (order, place) ← olympusHeader n.order d n.datao version
    match place with
    | none => some { n with version := version, order := order }
    | some (o2, datao) =>
      if tooFar d.length o2 2 then some { n with version := version, order := order }
      else do
        let entries ← loadMnoteDirectory ⟨version.base, datao, true, false⟩ order d o2
        some { n with version := version, order := order, entries := entries }

/-- The place of the number of entries in a note that is saved. "Write out V0 files in V2
format." -/
def OlympusVersion.skipped : OlympusVersion → Nat
  | .olympusV2 => 6 + 2 + 4
  | .nikonV2 => 6 + 2 + 2 + 8
  | .nikonV0 => 6 + 2 + 2 + 8
  | _ => 6 + 2

/-- The bytes behind the entries of a note that is saved. -/
def OlympusVersion.spare : OlympusVersion → Nat
  | .olympusV2 => 2
  | .nikonV1 => 4
  | .nikonV2 => 4
  | .nikonV0 => 4
  | _ => 0

/-- Where the offsets of a note that is saved count from. -/
def OlympusVersion.start (offset : BitVec 32) : OlympusVersion → BitVec 32
  | .olympusV2 => 0
  | .nikonV2 => 0 - 10
  | .nikonV0 => 0 - 10
  | .nikonV1 => offset + 10 - 10
  | _ => offset

/-- "Write the header", but for the number of entries; there are `n` of them. -/
def olympusWriteHeader (d : List Byte) (order : ExifByteOrder) (n : Nat) :
    OlympusVersion → Option (List Byte)
  | .olympusV2 => do
    let d ← Block.write d 0 (OlympusVersion.text .olympusV2)
    let d ← exifSetShort d 8 order (orderNumber order)
    exifSetShort d 10 order 3
  | .nikonV1 => do
    let d ← Block.write d 0 (OlympusVersion.text .nikonV1)
    let d ← Block.write d 6 [OlympusVersion.code .nikonV1]
    exifSetLong d (6 + 2 + 2 + n * 12) order 0
  | .unrecognized => some d
  | .olympusV1 => do
    let d ← Block.write d 0 (OlympusVersion.text .olympusV1)
    exifSetShort d 6 order 1
  | .sanyoV1 => do
    let d ← Block.write d 0 (OlympusVersion.text .sanyoV1)
    exifSetShort d 6 order 1
  | .epsonV1 => do
    let d ← Block.write d 0 (OlympusVersion.text .epsonV1)
    exifSetShort d 6 order 1
  | version => do
    let d ← Block.write d 0 version.text
    let d ← Block.write d 6 [version.code]
    let d ← exifSetShort d 10 order (orderNumber order)
    let d ← exifSetShort d 12 order 0x2a
    let d ← exifSetLong d 14 order 8
    exifSetLong d (6 + 2 + 2 + 8 + 2 + n * 12) order 0

/-- `exif_mnote_data_olympus_save`. For a version that is none there is a size but no block; then
zeros are written for it. -/
def olympusSave (fresh : Nat → Byte) (n : MnoteData OlympusVersion) : Option (List Byte) :=
  let version := n.version
  let d := List.replicate (version.skipped + 2 + n.entries.length * 12 + version.spare) 0
  if version = .unrecognized then some d
  else do
    let d ← olympusWriteHeader d n.order n.entries.length version
    let d ← exifSetShort d version.skipped n.order n.count
    saveMnoteEntries ⟨version.base, version.start n.offset, false, false⟩ n.order fresh d
      (version.skipped + 2) n.entries

end Olympus

/-! ## Loading stays in the data -/

/-- An entry without bytes, or with those of its components. -/
def MnoteEntry.Sound (e : MnoteEntry) : Prop := e.data = [] ∨ e.data.length = e.size

/-- Entries that can be those of a note in `d`, where each of them has twelve bytes. -/
def LoadedFrom (d : List Byte) (es : List MnoteEntry) : Prop :=
  (∀ e ∈ es, e.Sound) ∧ 12 * es.length ≤ d.length

section Safe

variable {d : List Byte} {order : ExifByteOrder}

/-- The test against the size of the data, which does not wrap around. -/
theorem tooFar_eq_false_iff {size o n : Nat} (hsize : size < 4294967296) :
    tooFar size o n = false ↔ o + n ≤ size := by
  simp only [tooFar, Bool.or_eq_false_iff, decide_eq_false_iff_not]
  omega

theorem not_tooFar {size o n : Nat} (hsize : size < 4294967296) (h : ¬ tooFar size o n = true) :
    o + n ≤ size := (tooFar_eq_false_iff hsize).mp (Bool.not_eq_true _ ▸ h)

/-- **Step lemma**: one entry. -/
theorem loadMnoteEntry_safe (k : LoadStyle) (order : ExifByteOrder)
    (hd : d.length < 4294967296) {o : Nat} (ho : o + 12 ≤ d.length) :
    ∃ r, loadMnoteEntry k order d o = some r ∧ ∀ e, r = some e → e.Sound := by
  obtain ⟨tag, htag⟩ := exifGetShort_isSome (d := d) (i := o) (by omega) order
  obtain ⟨format, hformat⟩ := exifGetShort_isSome (d := d) (i := o + 2) (by omega) order
  obtain ⟨components, hcomponents⟩ := exifGetLong_isSome (d := d) (i := o + 4) (by omega) order
  obtain ⟨value, hvalue⟩ := exifGetLong_isSome (d := d) (i := o + 8) (by omega) order
  unfold loadMnoteEntry
  simp only [htag, hformat, hcomponents, Option.bind_eq_bind, Option.bind_some]
  generalize hs : MnoteEntry.size ⟨tag.setWidth 32 + k.base, format, components, []⟩ = s
  split
  · refine ⟨_, rfl, fun e he => ?_⟩
    split at he
    · exact .inl (by rw [← Option.some.inj he])
    · cases he
  · obtain ⟨dataofs, hofs⟩ : ∃ dataofs, mnoteDataOffset k order d o s = some dataofs := by
      unfold mnoteDataOffset
      split
      · exact ⟨_, by rw [hvalue]; rfl⟩
      · exact ⟨o + 8, rfl⟩
    rw [hofs, Option.bind_some]
    split
    · exact ⟨none, rfl, fun e he => by cases he⟩
    · rename_i hfar
      rw [Bool.not_eq_true, Bool.or_eq_false_iff] at hfar
      have hin := (tooFar_eq_false_iff hd).mp hfar.1
      rw [Block.read_isSome hin, Option.bind_some]
      refine ⟨_, rfl, fun e he => ?_⟩
      have hlen : ((d.drop dataofs).take s).length = s := by
        rw [List.length_take, List.length_drop]
        omega
      rw [← Option.some.inj he]
      exact .inr (hlen.trans hs.symm)

/-- **Run lemma**: the loop over the entries. -/
theorem loadMnoteEntries_safe (k : LoadStyle) (order : ExifByteOrder)
    (hd : d.length < 4294967296) {n o : Nat} (ho : o ≤ d.length) :
    ∃ es, loadMnoteEntries k order d n o = some es ∧ (∀ e ∈ es, e.Sound) ∧
      o + 12 * es.length ≤ d.length := by
  induction n generalizing o with
  | zero => exact ⟨[], rfl, fun e he => (List.not_mem_nil he).elim, by simpa using ho⟩
  | succ n ih =>
    unfold loadMnoteEntries
    split
    · exact ⟨[], rfl, fun e he => (List.not_mem_nil he).elim, by simpa using ho⟩
    · rename_i hfar
      have hin := not_tooFar hd hfar
      obtain ⟨r, hr, hsound⟩ := loadMnoteEntry_safe k order hd hin
      obtain ⟨es, hes, hall, hlen⟩ := ih (o := o + 12) hin
      rw [hr, Option.bind_eq_bind, Option.bind_some, hes]
      refine ⟨_, rfl, ?_, ?_⟩
      · intro e he
        rcases List.mem_append.mp he with he | he
        · exact hsound e (Option.mem_toList.mp he)
        · exact hall e he
      · have hone : r.toList.length ≤ 1 := by cases r <;> simp
        rw [List.length_append]
        omega

/-- A directory is loaded from inside the data. -/
theorem loadMnoteDirectory_safe (k : LoadStyle) (order : ExifByteOrder)
    (hd : d.length < 4294967296) {o : Nat} (ho : o + 2 ≤ d.length) :
    ∃ es, loadMnoteDirectory k order d o = some es ∧ LoadedFrom d es := by
  obtain ⟨c, hc⟩ := exifGetShort_isSome (d := d) (i := o) ho order
  obtain ⟨es, hes, hsound, hlen⟩ :=
    loadMnoteEntries_safe (n := c.toNat) k order hd ho
  exact ⟨es, by rw [loadMnoteDirectory, hc]; exact hes, hsound, by omega⟩

/-- Canon's loader stays in the data. -/
theorem canonLoad_safe {n : MnoteData Unit} (hd : d.length < 4294967296)
    (hn : LoadedFrom d n.entries) :
    ∃ n', canonLoad n d = some n' ∧ LoadedFrom d n'.entries := by
  unfold canonLoad
  split
  · exact ⟨n, rfl, hn⟩
  · rename_i hfar
    have hin := not_tooFar hd hfar
    obtain ⟨es, hes, hloaded⟩ :=
      loadMnoteDirectory_safe ⟨0, 6, false, false⟩ n.order hd hin
    rw [hes]
    exact ⟨_, rfl, hloaded⟩

/-- Fuji's loader stays in the data. -/
theorem fujiLoad_safe {n : MnoteData Unit} (hd : d.length < 4294967296)
    (hn : LoadedFrom d n.entries) :
    ∃ n', fujiLoad n d = some n' ∧ LoadedFrom d n'.entries := by
  unfold fujiLoad
  split
  · exact ⟨n, rfl, hn⟩
  · rename_i hfar
    have hin := not_tooFar hd hfar
    obtain ⟨first, hfirst⟩ := exifGetLong_isSome (d := d) (i := n.datao + 8) (by omega) .intel
    rw [hfirst, Option.bind_eq_bind, Option.bind_some]
    dsimp only
    split
    · exact ⟨_, rfl, hn⟩
    · rename_i hfar
      have hin := not_tooFar hd hfar
      obtain ⟨es, hes, hloaded⟩ :=
        loadMnoteDirectory_safe ⟨0, n.datao, true, true⟩ .intel hd hin
      rw [hes]
      exact ⟨_, rfl, hloaded⟩

/-- Pentax's loader stays in the data. -/
theorem pentaxLoad_safe {n : MnoteData (Option PentaxVersion)} (hd : d.length < 4294967296)
    (hn : LoadedFrom d n.entries) : ∃ n', pentaxLoad n d = some n' ∧ LoadedFrom d n'.entries := by
  unfold pentaxLoad
  split
  · exact ⟨n, rfl, hn⟩
  · rename_i hfar
    have hin := not_tooFar hd hfar
    rw [Block.read_isSome (by omega), Option.bind_eq_bind, Option.bind_some,
      Block.read_isSome (by omega), Option.bind_some]
    generalize pentaxVariant n.order _ _ = variant
    obtain ⟨version, order⟩ := variant
    have hskipped : version.skipped ≤ 6 := by cases version <;> decide
    obtain ⟨es, hes, hloaded⟩ := loadMnoteDirectory_safe
      ⟨version.base, 6, true, false⟩ order hd (o := n.datao + version.skipped) (by omega)
    dsimp only
    rw [hes]
    exact ⟨_, rfl, hloaded⟩

/-- A note of a kind with a long header that is cut short: what is read only for the log is not
there. -/
def CutShort (note : List Byte) : Prop :=
  10 ≤ note.length ∧
    (identifyVariant note = .olympusV2 ∧ note.length < 12 ∨
      (identifyVariant note = .nikonV1 ∨ identifyVariant note = .nikonV2) ∧ note.length < 14)

/-- The header of a note is in the data, unless the note is cut short. -/
theorem olympusHeader_eq_none_iff (order : ExifByteOrder) {o2 : Nat} (ho : o2 + 10 ≤ d.length)
    (hd : d.length + 8 ≤ 4294967296) (version : OlympusVersion) :
    olympusHeader order d o2 version = none ↔
      version = .olympusV2 ∧ d.length < o2 + 12 ∨
        (version = .nikonV1 ∨ version = .nikonV2) ∧ d.length < o2 + 14 := by
  have hv1 (version : OlympusVersion) (hversion : version = .olympusV1 ∨ version = .sanyoV1 ∨
      version = .epsonV1) : olympusHeader order d o2 version ≠ none := by
    have h6 : d[o2 + 6]? = some d[o2 + 6] := List.getElem?_eq_getElem (by omega)
    have h7 : d[o2 + 6 + 1]? = some d[o2 + 6 + 1] := List.getElem?_eq_getElem (by omega)
    have hcount (order : ExifByteOrder) := exifGetShort_isSome (d := d) (i := o2 + 8) (by omega)
      order
    rcases hversion with rfl | rfl | rfl <;>
    · simp only [olympusHeader, h6, h7, Option.bind_eq_bind, Option.bind_some,
        if_neg (show ¬ d.length < o2 + 8 + 2 by omega)]
      obtain ⟨c, hc⟩ := hcount (if d[o2 + 6] = 1 then .intel else if d[o2 + 6 + 1] = 1 then
        .motorola else order)
      rw [hc]
      simp
  cases version with
  | olympusV1 => simp [hv1 .olympusV1 (.inl rfl)]
  | sanyoV1 => simp [hv1 .sanyoV1 (.inr (.inl rfl))]
  | epsonV1 => simp [hv1 .epsonV1 (.inr (.inr rfl))]
  | unrecognized => simp [olympusHeader]
  | nikonV0 =>
    simp only [olympusHeader, Block.read_isSome (show o2 + 8 ≤ d.length by omega)]
    simp
  | olympusV2 =>
    by_cases hlen : d.length < o2 + 12
    · simp [olympusHeader, Block.read, show ¬ o2 + 8 + 4 ≤ d.length by omega, hlen]
    · simp [olympusHeader, Block.read, show o2 + 8 + 4 ≤ d.length by omega, hlen]
  | nikonV1 =>
    by_cases hlen : d.length < o2 + 14
    · simp [olympusHeader, Block.read, show ¬ d.length ≤ o2 + 6 by omega,
        show ¬ o2 + 6 + 8 ≤ d.length by omega, hlen]
    · obtain ⟨c, hc⟩ := exifGetShort_isSome (d := d) (i := o2 + 8) (by omega) order
      simp [olympusHeader, Block.read, show ¬ d.length ≤ o2 + 6 by omega,
        show o2 + 6 + 8 ≤ d.length by omega, show ¬ d.length < o2 + 8 + 2 by omega, hlen, hc]
  | nikonV2 =>
    by_cases hlen : d.length < o2 + 14
    · simp [olympusHeader, Block.read, show ¬ d.length ≤ o2 + 6 by omega,
        show ¬ o2 + 6 + 8 ≤ d.length by omega, hlen]
    · simp only [olympusHeader, Block.read, if_neg (show ¬ d.length ≤ o2 + 6 by omega),
        if_pos (show o2 + 6 + 8 ≤ d.length by omega), if_neg (show ¬ d.length ≤ o2 + 10 by omega),
        if_pos (show o2 + 10 + 2 ≤ d.length by omega), Option.bind_eq_bind, Option.bind_some,
        Nat.mod_eq_of_lt (show o2 + 10 + 4 + 4 < 4294967296 by omega)]
      cases readMark ((d.drop (o2 + 10)).take 2) with
      | none => simp [hlen]
      | some order =>
        by_cases hfirst : d.length < o2 + 10 + 4 + 4
        · simp [hfirst, hlen]
        · obtain ⟨first, hget⟩ := exifGetLong_isSome (d := d) (i := o2 + 10 + 4) (by omega) order
          simp [hfirst, hlen, hget]

/-- With the header, the rest is in the data. -/
theorem olympusLoad_of_header {n : MnoteData OlympusVersion} (hd : d.length < 4294967296)
    (hn : LoadedFrom d n.entries) {r : ExifByteOrder × Option (Nat × Nat)}
    (hr : olympusHeader n.order d n.datao (identifyVariant (d.drop n.datao)) = some r) :
    ∃ n', olympusLoad n d = some n' ∧ LoadedFrom d n'.entries := by
  obtain ⟨order, place⟩ := r
  unfold olympusLoad
  split
  · exact ⟨n, rfl, hn⟩
  · dsimp only
    rw [hr, Option.bind_eq_bind, Option.bind_some]
    cases place with
    | none => exact ⟨_, rfl, hn⟩
    | some place =>
      obtain ⟨o2, datao⟩ := place
      dsimp only
      split
      · exact ⟨_, rfl, hn⟩
      · rename_i hfar
        obtain ⟨es, hes, hloaded⟩ := loadMnoteDirectory_safe
          ⟨(identifyVariant (d.drop n.datao)).base, datao, true, false⟩ order hd
          (not_tooFar hd hfar)
        rw [hes]
        exact ⟨_, rfl, hloaded⟩

/-- A note is cut short when its header is not all there. -/
theorem cutShort_iff (n : MnoteData OlympusVersion) (hd : d.length + 8 ≤ 4294967296) :
    CutShort (d.drop n.datao) ↔ n.datao + 10 ≤ d.length ∧
      olympusHeader n.order d n.datao (identifyVariant (d.drop n.datao)) = none := by
  have hlen : (d.drop n.datao).length = d.length - n.datao := List.length_drop
  unfold CutShort
  constructor
  · rintro ⟨h10, hshort⟩
    have hin : n.datao + 10 ≤ d.length := by omega
    refine ⟨hin, (olympusHeader_eq_none_iff n.order hin hd _).mpr ?_⟩
    exact hshort.imp (And.imp_right fun _ => by omega) (And.imp_right fun _ => by omega)
  · rintro ⟨hin, hnone⟩
    have hshort := (olympusHeader_eq_none_iff n.order hin hd _).mp hnone
    exact ⟨by omega,
      hshort.imp (And.imp_right fun _ => by omega) (And.imp_right fun _ => by omega)⟩

/-- Olympus' loader reads behind the data then. -/
theorem olympusLoad_cutShort {n : MnoteData OlympusVersion} (hd : d.length + 8 ≤ 4294967296)
    (h : CutShort (d.drop n.datao)) : olympusLoad n d = none := by
  obtain ⟨hin, hnone⟩ := (cutShort_iff n hd).mp h
  have hfar : tooFar d.length n.datao 10 = false := (tooFar_eq_false_iff (by omega)).mpr hin
  rw [olympusLoad, if_neg (by rw [hfar]; decide)]
  dsimp only
  rw [hnone]
  rfl

/-- Otherwise it stays in the data. -/
theorem olympusLoad_of_not_cutShort {n : MnoteData OlympusVersion}
    (hd : d.length + 8 ≤ 4294967296) (hn : LoadedFrom d n.entries)
    (h : ¬ CutShort (d.drop n.datao)) :
    ∃ n', olympusLoad n d = some n' ∧ LoadedFrom d n'.entries := by
  by_cases hin : n.datao + 10 ≤ d.length
  · have hsome : olympusHeader n.order d n.datao (identifyVariant (d.drop n.datao)) ≠ none :=
      fun hnone => h ((cutShort_iff n hd).mpr ⟨hin, hnone⟩)
    obtain ⟨r, hr⟩ := Option.ne_none_iff_exists'.mp hsome
    exact olympusLoad_of_header (by omega) hn hr
  · have hfar : tooFar d.length n.datao 10 = true := by
      rw [← Bool.not_eq_false, tooFar_eq_false_iff (by omega)]
      exact hin
    exact ⟨n, by rw [olympusLoad, if_pos hfar], hn⟩

/-- The loader of this maker leaves the data for the notes that are cut short, and for no
others. -/
theorem olympusLoad_safe {n : MnoteData OlympusVersion} (hd : d.length + 8 ≤ 4294967296)
    (hn : LoadedFrom d n.entries) :
    (olympusLoad n d = none ↔ CutShort (d.drop n.datao)) ∧
      ∀ n', olympusLoad n d = some n' → LoadedFrom d n'.entries := by
  by_cases h : CutShort (d.drop n.datao)
  · have hnone := olympusLoad_cutShort hd h
    constructor
    · exact iff_of_true hnone h
    · intro n' heq
      rw [hnone] at heq
      cases heq
  · obtain ⟨n', hload, hloaded⟩ := olympusLoad_of_not_cutShort hd hn h
    constructor
    · exact iff_of_false (by rw [hload]; simp) h
    · intro n'' heq
      rwa [← Option.some.inj (hload.symm.trans heq)]

theorem olympusLoad_safe_short :
    (olympusLoad (mnoteDataNew .unrecognized)
        (List.replicate 6 0 ++ OlympusVersion.text .nikonV2 ++ [2, 0, 0, 0]) = none ↔
      CutShort (OlympusVersion.text .nikonV2 ++ [2, 0, 0, 0])) ∧
      ∀ n', olympusLoad (mnoteDataNew .unrecognized)
          (List.replicate 6 0 ++ OlympusVersion.text .nikonV2 ++ [2, 0, 0, 0]) = some n' →
        LoadedFrom (List.replicate 6 0 ++ OlympusVersion.text .nikonV2 ++ [2, 0, 0, 0])
          n'.entries :=
  olympusLoad_safe (by decide) ⟨fun e he => (List.not_mem_nil he).elim, Nat.zero_le _⟩

end Safe

/-! ## What has been loaded can be saved -/

section Saving

variable {d : List Byte} {order : ExifByteOrder} {fresh : Nat → Byte}

/-- A short can be written inside a block. -/
theorem exists_setShort {i : Nat} (h : i + 2 ≤ d.length) (order : ExifByteOrder) (v : BitVec 16) :
    ∃ c, exifSetShort d i order v = some c ∧ c.length = d.length :=
  Block.exists_write _ (by rw [length_shortBytes]; exact h)

/-- A long can be written inside a block. -/
theorem exists_setLong {i : Nat} (h : i + 4 ≤ d.length) (order : ExifByteOrder) (v : BitVec 32) :
    ∃ c, exifSetLong d i order v = some c ∧ c.length = d.length :=
  Block.exists_write _ (by rw [length_longBytes]; exact h)

/-- There are as many bytes as the entry has. -/
theorem MnoteEntry.Sound.source {e : MnoteEntry} (h : e.Sound) :
    ∃ bs, e.source = some bs ∧ bs.length = e.size := by
  unfold MnoteEntry.source
  split
  · exact ⟨_, rfl, List.length_replicate⟩
  · rename_i hne
    have hlen := h.resolve_left hne
    rw [Block.read_isSome (by omega)]
    exact ⟨_, rfl, by rw [List.drop_zero, List.length_take]; omega⟩

/-- A value, with a byte more if its size is odd, makes the block grow by 64 kb at most. -/
theorem grown_bounds {pads odd : Bool} {size n ts : Nat} (hle : size ≤ 65536)
    (hodd : (pads && decide (size % 2 = 1)) = odd)
    (hts : (if odd = true then n + size + 1 else n + size) = ts) :
    n + size ≤ ts ∧ ts ≤ n + 65536 ∧ (odd = true → ts = n + size + 1) := by
  rw [← hts]
  cases odd with
  | true =>
    rw [Bool.and_eq_true, decide_eq_true_eq] at hodd
    rw [if_pos rfl]
    exact ⟨by omega, by omega, fun _ => rfl⟩
  | false =>
    rw [if_neg Bool.false_ne_true]
    exact ⟨Nat.le_refl _, by omega, fun h => absurd h Bool.false_ne_true⟩

/-- **Step lemma**: one entry is written where there is room for it, and what is behind the
directory grows. -/
theorem saveMnoteEntry_grows (k : SaveStyle) (order : ExifByteOrder) (fresh : Nat → Byte)
    {e : MnoteEntry} (he : e.Sound) {o : Nat}
    (ho : o + 12 ≤ d.length) (hlt : d.length + 65536 < 4294967296) :
    ∃ d', saveMnoteEntry k order fresh d o e = some d' ∧ d.length ≤ d'.length ∧
      d'.length ≤ d.length + 65536 := by
  obtain ⟨d₁, h₁, hlen₁⟩ :=
    exists_setShort (d := d) (i := o) (by omega) order ((e.tag - k.base).setWidth 16)
  obtain ⟨d₂, h₂, hlen₂⟩ := exists_setShort (d := d₁) (i := o + 2) (by omega) order e.format
  obtain ⟨d₃, h₃, hlen₃⟩ := exists_setLong (d := d₂) (i := o + 4) (by omega) order e.components
  obtain ⟨bs, hbs, hlen⟩ := he.source
  unfold saveMnoteEntry
  simp only [h₁, h₂, h₃, hbs, Option.bind_eq_bind, Option.bind_some]
  split
  · exact ⟨d₃, rfl, by omega, by omega⟩
  · split
    · generalize hodd : (k.pads && decide (e.size % 2 = 1)) = odd
      generalize hts : (if odd = true then d₃.length + e.size + 1 else d₃.length + e.size) = ts
      have hbounds := grown_bounds (by omega) hodd hts
      rw [Nat.mod_eq_of_lt (by omega)]
      have hgrown := Block.length_realloc d₃ ts fresh
      generalize Block.realloc d₃ ts fresh = d₄ at hgrown ⊢
      obtain ⟨d₅, h₅, hlen₅⟩ : ∃ d₅, padLast odd d₄ = some d₅ ∧ d₅.length = d₄.length := by
        cases odd with
        | true => exact Block.exists_write _ (by rw [List.length_singleton]; omega)
        | false => exact ⟨d₄, rfl, rfl⟩
      obtain ⟨d₆, h₆, hlen₆⟩ := exists_setLong (d := d₅) (i := o + 8) (by omega) order
        (k.start + BitVec.ofNat 32 d₃.length)
      obtain ⟨d₇, h₇, hlen₇⟩ := Block.exists_write (d := d₆) (i := d₃.length) bs (by omega)
      rw [h₅, Option.bind_some, h₆, Option.bind_some]
      exact ⟨d₇, h₇, by omega, by omega⟩
    · obtain ⟨d₄, h₄, hlen₄⟩ := Block.exists_write (d := d₃) (i := o + 8) bs (by omega)
      rw [h₄, Option.bind_some]
      split
      · obtain ⟨d₅, h₅, hlen₅⟩ := Block.exists_write (d := d₄) (i := o + 8 + e.size)
          (List.replicate (4 - e.size) 0) (by rw [List.length_replicate]; omega)
        exact ⟨d₅, h₅, by omega, by omega⟩
      · exact ⟨d₄, rfl, by omega, by omega⟩

/-- **Run lemma**: the loop over the entries. -/
theorem saveMnoteEntries_grows (k : SaveStyle) (order : ExifByteOrder) (fresh : Nat → Byte)
    {es : List MnoteEntry} (hes : ∀ e ∈ es, e.Sound)
    {o : Nat} (ho : o + 12 * es.length ≤ d.length)
    (hlt : d.length + es.length * 65536 < 4294967296) :
    ∃ d', saveMnoteEntries k order fresh d o es = some d' ∧ d.length ≤ d'.length := by
  induction es generalizing d o with
  | nil => exact ⟨d, rfl, Nat.le_refl _⟩
  | cons e es ih =>
    rw [List.length_cons] at ho hlt
    rw [Nat.add_one_mul, ← Nat.add_assoc] at hlt
    obtain ⟨d₁, h₁, hle₁, hgrows₁⟩ := saveMnoteEntry_grows k order fresh
      (hes e List.mem_cons_self) (d := d) (o := o) (by omega) (by omega)
    obtain ⟨d₂, h₂, hle₂⟩ := ih (fun a ha => hes a (List.mem_cons_of_mem e ha)) (d := d₁)
      (o := o + 12) (by omega) (by omega)
    exact ⟨d₂, by rw [saveMnoteEntries, h₁]; exact h₂, by omega⟩

/-- Entries of a note that can be saved: with as many bytes as there can be in each, and any of the
headers, they are no more than an `unsigned int` can count. -/
def SavableEntries (es : List MnoteEntry) : Prop := (∀ e ∈ es, e.Sound) ∧ es.length ≤ 65524

/-- Saving a Canon note stays in the block that grows. -/
theorem canonSave_isSome {n : MnoteData Unit} (hn : SavableEntries n.entries) :
    (canonSave fresh n).isSome = true := by
  obtain ⟨hes, hcount⟩ := hn
  obtain ⟨d₁, h₁, hlen₁⟩ := exists_setShort
    (d := List.replicate (2 + n.entries.length * 12 + 4) 0) (i := 0)
    (by rw [List.length_replicate]; omega) n.order n.count
  rw [List.length_replicate] at hlen₁
  obtain ⟨d₂, h₂, -⟩ := saveMnoteEntries_grows
    ⟨0, n.offset, true, true⟩ n.order fresh hes (d := d₁) (o := 2) (by omega) (by omega)
  rw [canonSave, h₁, Option.bind_eq_bind, Option.bind_some, h₂]
  rfl

/-- Saving a Fuji note stays in the block that grows. -/
theorem fujiSave_isSome {n : MnoteData Unit} (hn : SavableEntries n.entries) :
    (fujiSave fresh n).isSome = true := by
  obtain ⟨hes, hcount⟩ := hn
  have hheader : fujiHeader.length = 8 := rfl
  obtain ⟨d₁, h₁, hlen₁⟩ := Block.exists_write
    (d := List.replicate (8 + 4 + 2 + n.entries.length * 12 + 4) 0) (i := 0) fujiHeader
    (by rw [List.length_replicate]; omega)
  rw [List.length_replicate] at hlen₁
  obtain ⟨d₂, h₂, hlen₂⟩ := exists_setLong (d := d₁) (i := 8) (by omega) n.order 12
  obtain ⟨d₃, h₃, hlen₃⟩ := exists_setShort (d := d₂) (i := 8 + 4) (by omega) n.order n.count
  obtain ⟨d₄, h₄, -⟩ := saveMnoteEntries_grows
    ⟨0, 0, true, false⟩ n.order fresh hes (d := d₃) (o := 8 + 4 + 2) (by omega) (by omega)
  rw [fujiSave, h₁, Option.bind_eq_bind, Option.bind_some, h₂, Option.bind_some, h₃,
    Option.bind_some, h₄]
  rfl

/-- The header of a Pentax note fits into the block. -/
theorem exists_pentaxWriteHeader (order : ExifByteOrder) (version : PentaxVersion)
    (h : version.skipped ≤ d.length) :
    ∃ c, pentaxWriteHeader d order version = some c ∧ c.length = d.length := by
  have hmagic (magic : List Byte) (hlen : magic.length = 4) (v : BitVec 16) (h6 : 6 ≤ d.length) :
      ∃ c, ((Block.write d 0 magic).bind fun d => exifSetShort d 4 order v) = some c ∧
        c.length = d.length := by
    obtain ⟨d₁, h₁, hlen₁⟩ := Block.exists_write (d := d) (i := 0) magic (by omega)
    obtain ⟨d₂, h₂, hlen₂⟩ := exists_setShort (d := d₁) (i := 4) (by omega) order v
    exact ⟨d₂, by rw [h₁]; exact h₂, by omega⟩
  cases version with
  | pentaxV1 => exact ⟨d, rfl, rfl⟩
  | pentaxV2 => exact hmagic pentaxHeader rfl 0 h
  | pentaxV3 => exact hmagic pentaxHeader rfl (orderNumber order) h
  | casioV2 => exact hmagic casioHeader rfl 0 h

/-- Saving a Pentax note stays in the block that grows. -/
theorem pentaxSave_isSome {n : MnoteData (Option PentaxVersion)}
    (hn : SavableEntries n.entries) : (pentaxSave fresh n).isSome = true := by
  obtain ⟨hes, hcount⟩ := hn
  unfold pentaxSave
  cases n.version with
  | none => rfl
  | some version =>
    have hskipped : version.skipped ≤ 6 := by cases version <;> decide
    have hlen := List.length_replicate (n := version.skipped + 2 + n.entries.length * 12 + 4)
      (a := (0 : Byte))
    dsimp only
    generalize List.replicate (version.skipped + 2 + n.entries.length * 12 + 4) (0 : Byte) = d₀
      at hlen ⊢
    obtain ⟨d₁, h₁, hlen₁⟩ := exists_pentaxWriteHeader (d := d₀) n.order version (by omega)
    obtain ⟨d₂, h₂, hlen₂⟩ :=
      exists_setShort (d := d₁) (i := version.skipped) (by omega) n.order n.count
    obtain ⟨d₃, h₃, hle₃⟩ := saveMnoteEntries_grows
      ⟨version.base, n.offset, false, false⟩ n.order fresh hes (d := d₂) (o := version.skipped + 2)
      (by omega) (by omega)
    obtain ⟨d₄, h₄, -⟩ := exists_setLong (d := d₃)
      (i := version.skipped + 2 + n.entries.length * 12) (by omega) n.order 0
    rw [h₁, Option.bind_eq_bind, Option.bind_some, h₂, Option.bind_some, h₃, Option.bind_some, h₄]
    rfl

/-- The header of an Olympus note fits into the block. -/
theorem exists_olympusWriteHeader (order : ExifByteOrder) (n : Nat) (version : OlympusVersion)
    (h : version.skipped + 2 + n * 12 + version.spare ≤ d.length) :
    ∃ c, olympusWriteHeader d order n version = some c ∧ c.length = d.length := by
  have hv1 (text : List Byte) (hlen : text.length = 6) (h8 : 8 ≤ d.length) :
      ∃ c, ((Block.write d 0 text).bind fun d => exifSetShort d 6 order 1) = some c ∧
        c.length = d.length := by
    obtain ⟨d₁, h₁, hlen₁⟩ := Block.exists_write (d := d) (i := 0) text (by omega)
    obtain ⟨d₂, h₂, hlen₂⟩ := exists_setShort (d := d₁) (i := 6) (by omega) order 1
    exact ⟨d₂, by rw [h₁]; exact h₂, by omega⟩
  have hv2 (text : List Byte) (hlen : text.length = 6) (code : Byte)
      (h24 : 24 + n * 12 ≤ d.length) :
      ∃ c, ((Block.write d 0 text).bind fun d => (Block.write d 6 [code]).bind fun d =>
        (exifSetShort d 10 order (orderNumber order)).bind fun d =>
        (exifSetShort d 12 order 0x2a).bind fun d => (exifSetLong d 14 order 8).bind fun d =>
          exifSetLong d (6 + 2 + 2 + 8 + 2 + n * 12) order 0) = some c ∧
        c.length = d.length := by
    obtain ⟨d₁, h₁, hlen₁⟩ := Block.exists_write (d := d) (i := 0) text (by omega)
    obtain ⟨d₂, h₂, hlen₂⟩ := Block.exists_write (d := d₁) (i := 6) [code]
      (by rw [List.length_singleton]; omega)
    obtain ⟨d₃, h₃, hlen₃⟩ := exists_setShort (d := d₂) (i := 10) (by omega) order
      (orderNumber order)
    obtain ⟨d₄, h₄, hlen₄⟩ := exists_setShort (d := d₃) (i := 12) (by omega) order 0x2a
    obtain ⟨d₅, h₅, hlen₅⟩ := exists_setLong (d := d₄) (i := 14) (by omega) order 8
    obtain ⟨d₆, h₆, hlen₆⟩ := exists_setLong (d := d₅) (i := 6 + 2 + 2 + 8 + 2 + n * 12) (by omega)
      order 0
    refine ⟨d₆, ?_, by omega⟩
    rw [h₁, Option.bind_some, h₂, Option.bind_some, h₃, Option.bind_some, h₄, Option.bind_some,
      h₅, Option.bind_some, h₆]
  cases version with
  | unrecognized => exact ⟨d, rfl, rfl⟩
  | olympusV1 => exact hv1 _ rfl (by simp only [OlympusVersion.skipped] at h; omega)
  | sanyoV1 => exact hv1 _ rfl (by simp only [OlympusVersion.skipped] at h; omega)
  | epsonV1 => exact hv1 _ rfl (by simp only [OlympusVersion.skipped] at h; omega)
  | nikonV0 => exact hv2 _ rfl _ (by
      simp only [OlympusVersion.skipped, OlympusVersion.spare] at h; omega)
  | nikonV2 => exact hv2 _ rfl _ (by
      simp only [OlympusVersion.skipped, OlympusVersion.spare] at h; omega)
  | olympusV2 =>
    simp only [OlympusVersion.skipped, OlympusVersion.spare] at h
    have htext : (OlympusVersion.text .olympusV2).length = 8 := rfl
    obtain ⟨d₁, h₁, hlen₁⟩ := Block.exists_write (d := d) (i := 0)
      (OlympusVersion.text .olympusV2) (by omega)
    obtain ⟨d₂, h₂, hlen₂⟩ := exists_setShort (d := d₁) (i := 8) (by omega) order
      (orderNumber order)
    obtain ⟨d₃, h₃, hlen₃⟩ := exists_setShort (d := d₂) (i := 10) (by omega) order 3
    refine ⟨d₃, ?_, by omega⟩
    rw [olympusWriteHeader, h₁, Option.bind_eq_bind, Option.bind_some, h₂, Option.bind_some, h₃]
  | nikonV1 =>
    simp only [OlympusVersion.skipped, OlympusVersion.spare] at h
    have htext : (OlympusVersion.text .nikonV1).length = 6 := rfl
    obtain ⟨d₁, h₁, hlen₁⟩ := Block.exists_write (d := d) (i := 0)
      (OlympusVersion.text .nikonV1) (by omega)
    obtain ⟨d₂, h₂, hlen₂⟩ := Block.exists_write (d := d₁) (i := 6)
      [OlympusVersion.code .nikonV1] (by rw [List.length_singleton]; omega)
    obtain ⟨d₃, h₃, hlen₃⟩ := exists_setLong (d := d₂) (i := 6 + 2 + 2 + n * 12) (by omega) order 0
    refine ⟨d₃, ?_, by omega⟩
    rw [olympusWriteHeader, h₁, Option.bind_eq_bind, Option.bind_some, h₂, Option.bind_some, h₃]

/-- Saving an Olympus note stays in the block that grows. -/
theorem olympusSave_isSome {n : MnoteData OlympusVersion} (hn : SavableEntries n.entries) :
    (olympusSave fresh n).isSome = true := by
  obtain ⟨hes, hcount⟩ := hn
  unfold olympusSave
  generalize n.version = version
  have hheader : version.skipped + version.spare ≤ 22 := by cases version <;> decide
  have hlen := List.length_replicate
    (n := version.skipped + 2 + n.entries.length * 12 + version.spare) (a := (0 : Byte))
  dsimp only
  generalize List.replicate (version.skipped + 2 + n.entries.length * 12 + version.spare)
    (0 : Byte) = d₀ at hlen ⊢
  split
  · rfl
  · obtain ⟨d₁, h₁, hlen₁⟩ := exists_olympusWriteHeader (d := d₀) n.order n.entries.length version
      (by omega)
    obtain ⟨d₂, h₂, hlen₂⟩ :=
      exists_setShort (d := d₁) (i := version.skipped) (by omega) n.order n.count
    obtain ⟨d₃, h₃, -⟩ := saveMnoteEntries_grows
      ⟨version.base, version.start n.offset, false, false⟩ n.order fresh hes (d := d₂)
      (o := version.skipped + 2) (by omega) (by omega)
    rw [h₁, Option.bind_eq_bind, Option.bind_some, h₂, Option.bind_some, h₃]
    rfl

end Saving

/-! ## Another byte order -/

section Orders

variable {orig new : ExifByteOrder} {b : List Byte}

/-- The formats whose bytes depend on the byte order. -/
def orderedFormats : List ExifFormat := [.short, .sshort, .long, .slong, .rational, .srational]

/-- The size of the components is too large for 32 bits, but there is a block. -/
def MnoteEntry.Overflows (e : MnoteEntry) : Prop :=
  e.data ≠ [] ∧ ∃ f ∈ orderedFormats, ExifFormat.ofCode? e.format = some f ∧
    4294967296 ≤ f.size * e.components.toNat

/-- `convert` rewrites `fs` bytes in place, and only bytes of the block. -/
def InPlace (fs : Nat) (convert : List Byte → Nat → Option (List Byte)) : Prop :=
  (∀ b i, b.length < i + fs → convert b i = none) ∧
    ∀ b i b', convert b i = some b' → b'.length = b.length

/-- Shorts are rewritten in their place. -/
theorem inPlace_short (orig new : ExifByteOrder) : InPlace 2 (convertShort orig new) := by
  constructor
  · intro b i h
    rw [convertShort, exifGetShort, List.getElem?_eq_none (show b.length ≤ i + 1 by omega)]
    cases b[i]? <;> rfl
  · intro b i b' h
    obtain ⟨v, -, hset⟩ := Option.bind_eq_some_iff.mp h
    exact Block.length_of_write hset

/-- Longs are rewritten in their place. -/
theorem inPlace_long (orig new : ExifByteOrder) : InPlace 4 (convertLong orig new) := by
  constructor
  · intro b i h
    rw [convertLong, exifGetLong, List.getElem?_eq_none (show b.length ≤ i + 3 by omega)]
    cases b[i]? <;> cases b[i + 1]? <;> cases b[i + 2]? <;> rfl
  · intro b i b' h
    obtain ⟨v, -, hset⟩ := Option.bind_eq_some_iff.mp h
    exact Block.length_of_write hset

/-- Rationals are rewritten in their place. -/
theorem inPlace_rational (orig new : ExifByteOrder) : InPlace 8 (convertRational orig new) := by
  constructor
  · intro b i h
    have hsecond : exifGetLong b (i + 4) orig = none := by
      rw [exifGetLong, List.getElem?_eq_none (show b.length ≤ i + 4 + 3 by omega)]
      cases b[i + 4]? <;> cases b[i + 4 + 1]? <;> cases b[i + 4 + 2]? <;> rfl
    rw [convertRational, exifGetRational, hsecond]
    cases exifGetLong b i orig <;> rfl
  · intro b i b' h
    obtain ⟨v, -, hset⟩ := Option.bind_eq_some_iff.mp h
    obtain ⟨b₁, hfirst, hsecond⟩ := Option.bind_eq_some_iff.mp hset
    rw [Block.length_of_write hsecond, Block.length_of_write hfirst]

/-- **Run lemma**: with more components than there is room for, the loop leaves the block. -/
theorem InPlace.eachComponent_none {fs : Nat} {convert : List Byte → Nat → Option (List Byte)}
    (h : InPlace fs convert) {n j : Nat} (hlt : b.length < 4294967296) (hj : j * fs ≤ b.length)
    (hn : b.length < (j + n) * fs) : eachComponent convert fs n j b = none := by
  induction n generalizing j b with
  | zero => exact (Nat.not_lt.mpr hj hn).elim
  | succ n ih =>
    rw [eachComponent, Nat.mod_eq_of_lt (by omega)]
    by_cases hnext : (j + 1) * fs ≤ b.length
    · cases hb : convert b (j * fs) with
      | none => rfl
      | some b' =>
        have hlen := h.2 b (j * fs) b' hb
        refine ih (by omega) (by omega) ?_
        rwa [hlen, show j + 1 + n = j + (n + 1) by omega]
    · rw [Nat.add_one_mul] at hnext
      rw [h.1 b (j * fs) (by omega)]
      rfl

theorem exifArraySetByteOrder_nil {f : ExifFormat} {n : Nat} (h : b = []) :
    exifArraySetByteOrder f b n orig new = some b := by
  unfold exifArraySetByteOrder
  rw [if_pos (.inl h)]

/-- The array is left exactly when its components have more bytes than 32 bits can say. -/
theorem mnoteEntrySetByteOrder_eq_none_iff (orig new : ExifByteOrder) {e : MnoteEntry}
    (he : e.Sound) : mnoteEntrySetByteOrder orig new e = none ↔ e.Overflows := by
  unfold mnoteEntrySetByteOrder
  cases hf : ExifFormat.ofCode? e.format with
  | none =>
    refine iff_of_false (by simp) ?_
    rintro ⟨-, f, -, hcode, -⟩
    rw [hf] at hcode
    cases hcode
  | some f =>
    have hsize : e.size = f.size * e.components.toNat % 4294967296 := by
      rw [MnoteEntry.size, exifFormatGetSize, hf]
      rfl
    have hover : e.Overflows ↔ e.data ≠ [] ∧ f ∈ orderedFormats ∧
        4294967296 ≤ f.size * e.components.toNat := by
      unfold MnoteEntry.Overflows
      rw [hf]
      constructor
      · rintro ⟨hne, g, hg, hcode, hlarge⟩
        obtain rfl := Option.some.inj hcode
        exact ⟨hne, hg, hlarge⟩
      · rintro ⟨hne, hg, hlarge⟩
        exact ⟨hne, f, hg, rfl, hlarge⟩
    have hbind : (exifArraySetByteOrder f e.data e.components.toNat orig new).bind
        (fun data => some { e with data := data }) = none ↔
          exifArraySetByteOrder f e.data e.components.toNat orig new = none := by
      cases exifArraySetByteOrder f e.data e.components.toNat orig new <;> simp
    show (exifArraySetByteOrder f e.data e.components.toNat orig new).bind _ = none ↔ _
    rw [hbind, hover]
    by_cases hlarge : 4294967296 ≤ f.size * e.components.toNat
    · by_cases hnil : e.data = []
      · refine iff_of_false ?_ fun h => h.1 hnil
        rw [exifArraySetByteOrder_nil hnil]
        simp
      · have hlen : e.data.length = e.size := he.resolve_left hnil
        have hlt : e.data.length < 4294967296 := by omega
        have hzero : e.components.toNat ≠ 0 := by
          intro hzero
          rw [hzero, Nat.mul_zero] at hlarge
          omega
        have hleaves {fs : Nat} {convert : List Byte → Nat → Option (List Byte)}
            (h : InPlace fs convert) (hfs : f.size = fs) :
            eachComponent convert f.size e.components.toNat 0 e.data = none := by
          subst hfs
          refine h.eachComponent_none hlt (by omega) ?_
          rw [Nat.zero_add, Nat.mul_comm]
          omega
        unfold exifArraySetByteOrder
        rw [if_neg (not_or.mpr ⟨hnil, hzero⟩)]
        cases f with
        | short | sshort =>
          exact iff_of_true (hleaves (inPlace_short orig new) rfl) ⟨hnil, by decide, hlarge⟩
        | long | slong =>
          exact iff_of_true (hleaves (inPlace_long orig new) rfl) ⟨hnil, by decide, hlarge⟩
        | rational | srational =>
          exact iff_of_true (hleaves (inPlace_rational orig new) rfl) ⟨hnil, by decide, hlarge⟩
        | byte | ascii | sbyte | undefined | float | double =>
          exact iff_of_false (by simp) fun h => absurd h.2.1 (by decide)
    · refine iff_of_false ?_ fun h => hlarge h.2.2
      by_cases hnil : e.data = []
      · rw [exifArraySetByteOrder_nil hnil]
        simp
      · have hlen : e.data.length = e.size := he.resolve_left hnil
        rw [hsize, Nat.mod_eq_of_lt (by omega), Nat.mul_comm] at hlen
        obtain ⟨vs, rest, hcount, hvs, hdata⟩ :=
          exists_values f orig e.components.toNat (d := e.data) (by omega)
        rw [hdata, ← hcount, exifArraySetByteOrder_eq orig new hvs
          (by rw [hcount, Nat.mul_comm]; omega) rest]
        simp

/-- A note can be written in another byte order unless an entry is such an array. -/
theorem mnoteSetByteOrder_eq_none_iff {ν : Type} (n : MnoteData ν) (order : ExifByteOrder)
    (hn : ∀ e ∈ n.entries, e.Sound) :
    mnoteSetByteOrder n order = none ↔ ∃ e ∈ n.entries, e.Overflows := by
  have hall : ∀ es : List MnoteEntry, (∀ e ∈ es, e.Sound) →
      (es.mapM (mnoteEntrySetByteOrder n.order order) = none ↔ ∃ e ∈ es, e.Overflows) := by
    intro es hes
    induction es with
    | nil => simp
    | cons e es ih =>
      have hone := mnoteEntrySetByteOrder_eq_none_iff n.order order (hes e List.mem_cons_self)
      have hrest := ih fun a ha => hes a (List.mem_cons_of_mem e ha)
      rw [List.mapM_cons, List.exists_mem_cons_iff, ← hone, ← hrest]
      cases mnoteEntrySetByteOrder n.order order e with
      | none => simp
      | some e' => cases es.mapM (mnoteEntrySetByteOrder n.order order) <;> simp
  rw [← hall n.entries hn, mnoteSetByteOrder]
  cases n.entries.mapM (mnoteEntrySetByteOrder n.order order) <;> simp

theorem InPlace.length_eachComponent {fs : Nat} {convert : List Byte → Nat → Option (List Byte)}
    (h : InPlace fs convert) {n j : Nat} {b' : List Byte}
    (hb : eachComponent convert fs n j b = some b') : b'.length = b.length := by
  induction n generalizing j b with
  | zero => rw [← Option.some.inj hb]
  | succ n ih =>
    obtain ⟨b₁, hfirst, hrest⟩ := Option.bind_eq_some_iff.mp hb
    exact (ih hrest).trans (h.2 _ _ _ hfirst)

/-- Another byte order does not change the size of the block. -/
theorem exifArraySetByteOrder_length {f : ExifFormat} {n : Nat} {b' : List Byte}
    (hb : exifArraySetByteOrder f b n orig new = some b') : b'.length = b.length := by
  unfold exifArraySetByteOrder at hb
  split at hb
  · rw [← Option.some.inj hb]
  · cases f with
    | short | sshort => exact (inPlace_short orig new).length_eachComponent hb
    | long | slong => exact (inPlace_long orig new).length_eachComponent hb
    | rational | srational => exact (inPlace_rational orig new).length_eachComponent hb
    | byte | ascii | sbyte | undefined | float | double => rw [← Option.some.inj hb]

/-- An entry stays sound in another byte order. -/
theorem mnoteEntrySetByteOrder_sound {e e' : MnoteEntry} (he : e.Sound)
    (h : mnoteEntrySetByteOrder orig new e = some e') : e'.Sound := by
  unfold mnoteEntrySetByteOrder at h
  split at h
  · rwa [← Option.some.inj h]
  · obtain ⟨data, hdata, heq⟩ := Option.bind_eq_some_iff.mp h
    have hlen := exifArraySetByteOrder_length hdata
    rw [← Option.some.inj heq]
    rcases he with hnil | hsize
    · left
      exact List.eq_nil_of_length_eq_zero (hlen.trans (by rw [hnil]; rfl))
    · right
      exact hlen.trans hsize

/-- In another byte order there are as many entries, which are as sound. -/
theorem mnoteSetByteOrder_savable {ν : Type} {n n' : MnoteData ν} {order : ExifByteOrder}
    (hn : SavableEntries n.entries) (h : mnoteSetByteOrder n order = some n') :
    SavableEntries n'.entries := by
  have hall : ∀ es es' : List MnoteEntry, (∀ e ∈ es, e.Sound) →
      es.mapM (mnoteEntrySetByteOrder n.order order) = some es' →
        (∀ e ∈ es', e.Sound) ∧ es'.length = es.length := by
    intro es
    induction es with
    | nil =>
      intro es' _ h
      rw [List.mapM_nil] at h
      rw [← Option.some.inj h]
      exact ⟨fun e he => (List.not_mem_nil he).elim, rfl⟩
    | cons e es ih =>
      intro es' hes h
      rw [List.mapM_cons] at h
      obtain ⟨e₁, hone, h⟩ := Option.bind_eq_some_iff.mp h
      obtain ⟨es₁, hrest, h⟩ := Option.bind_eq_some_iff.mp h
      obtain ⟨hsound, hlen⟩ := ih es₁ (fun a ha => hes a (List.mem_cons_of_mem e ha)) hrest
      rw [← Option.some.inj h]
      constructor
      · intro a ha
        rcases List.mem_cons.mp ha with rfl | ha
        · exact mnoteEntrySetByteOrder_sound (hes e List.mem_cons_self) hone
        · exact hsound a ha
      · rw [List.length_cons, List.length_cons, hlen]
  obtain ⟨es, hes, heq⟩ := Option.bind_eq_some_iff.mp h
  obtain ⟨hsound, hlen⟩ := hall n.entries es hn.1 hes
  rw [← Option.some.inj heq]
  exact ⟨hsound, hlen ▸ hn.2⟩

end Orders

end Ancora.Exif
