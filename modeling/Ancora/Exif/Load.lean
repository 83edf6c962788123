import Ancora.Exif.Data

/-!
# Loading EXIF data (libexifa/exif-data.c)

`exif_data_load_data` looks for the EXIF header in the data it gets, and then goes through the
directories. A row is a pointer to another IFD, a part of what is known of the thumbnail, or an
entry. The rows come from outside, and so do the pointers in them: IFDs can be nested in any way,
and an entry can be anywhere.

- `exifDataLoadData`: `exif_data_load_data`. No result means that it has read what is not data.
- `exifDataLoadDataContent`: one IFD, with what it points to.
- **`exifDataLoadData_safe`**: whatever the data is, there is a result, in which each content has
  a tag only once and each entry has the bytes of its components, unless the maker note is to blame.

`d` is the block, and `ds` how much of it is data. Allocations succeed here. `interpret` stands for
the makers: it says what becomes of the maker note, and has no result if it leaves the data.
-/

namespace Ancora.Exif

variable {μ : Type}

/-- The content of one IFD. -/
def ExifData.setIfd (x : ExifData μ) (i : ExifIfd) (c : ExifContent) : ExifData μ :=
  { x with ifd := fun j => if j = i then c else x.ifd j }

/-! ## Entries -/

/-- Where the `s` bytes of an entry are. -/
def dataOffset (order : ExifByteOrder) (d : List Byte) (offset s : Nat) : Option Nat :=
  if 4 < s then (exifGetLong d (offset + 8) order).map BitVec.toNat else some (offset + 8)

/-- `exif_data_load_data_entry`: the entry and where its bytes are, if it is one. A format that is
none has no size. -/
def exifDataLoadDataEntry (order : ExifByteOrder) (d : List Byte) (size offset : Nat) :
    Option (Option (ExifEntry × Nat)) := do
  let tag ← exifGetShort d offset order
  let format ← exifGetShort d (offset + 2) order
  let components ← exifGetLong d (offset + 4) order
  match ExifFormat.ofCode? format with
  | none => some none
  | some f =>
    let s := f.size * components.toNat % 4294967296
    if s < components.toNat ∨ s = 0 then some none
    else do
      let doff ← dataOffset order d offset s
      let last := (doff + s) % 4294967296
      if last < doff ∨ last < s ∨ size < last then some none
      else do
        let data ← Block.read d doff s
        some (some (⟨tag, f, components, data⟩, doff))

/-- `exif_data_load_data_thumbnail` -/
def exifDataLoadDataThumbnail (x : ExifData μ) (d : List Byte) (ds o s : Nat) :
    Option (ExifData μ) :=
  let last := (o + s) % 4294967296
  if last < o ∨ last < s ∨ ds < last ∨ ds < o then some x
  else do
    let data ← Block.read d o s
    some { x with data := data }

/-! ## Directories -/

/-- What the loop over the rows of a directory changes. -/
structure Loading (μ : Type) where
  data : ExifData μ
  thumbnailOffset : Nat
  thumbnailLength : Nat

section Rows

variable (d : List Byte) (ds : Nat)

/-- The thumbnail is loaded when its offset and its length are known. -/
def Loading.thumbnail (st : Loading μ) : Option (Loading μ) :=
  if st.thumbnailOffset ≠ 0 ∧ st.thumbnailLength ≠ 0 then do
    let x ← exifDataLoadDataThumbnail st.data d ds st.thumbnailOffset st.thumbnailLength
    some { st with data := x }
  else some st

/-- A pointer to IFD `j` in IFD `ifd`; what `CHECK_REC` finds is skipped. -/
def Loading.pointer (content : ExifData μ → ExifIfd → Nat → Option (ExifData μ)) (ifd j : ExifIfd)
    (o : Nat) (st : Loading μ) : Option (Loading μ) :=
  if j = ifd ∨ st.data.ifd j ≠ [] then some st
  else do
    let x ← content st.data j o
    some { st with data := x }

/-- "If we don't know the tag, don't fail." -/
def skipUnknown (ignore : Bool) (ifd : ExifIfd) (row : Nat) (tag : ExifTag) : Option Bool :=
  if (nameInIfd exifTagTable tag ifd).isSome then some false
  else do
    let head ← Block.read d row 4
    some (head == [0, 0, 0, 0] || ignore)

/-- An entry of the IFD. -/
def Loading.entry (ifd : ExifIfd) (row : Nat) (tag : ExifTag) (st : Loading μ) :
    Option (Loading μ) := do
  let skip ← skipUnknown d st.data.ignoreUnknownTags ifd row tag
  if skip then some st
  else
    let loaded ← exifDataLoadDataEntry st.data.order d ds row
    match loaded with
    | none => some st
    | some (e, doff) =>
      let x := st.data.setIfd ifd (exifContentAddEntry (st.data.ifd ifd) e)
      some { st with
        data := if e.tag = ExifTag.makerNote then { x with offsetMnote := doff } else x }

/-- The tags that are no entries. -/
def pointerTags : List ExifTag :=
  [ExifTag.exifIfdPointer, .gpsInfoIfdPointer, .interoperabilityIfdPointer,
    .jpegInterchangeFormatLength, .jpegInterchangeFormat]

/-- A row with one of these tags, which says `o`; `content` loads another IFD. -/
def loadPointer (content : ExifData μ → ExifIfd → Nat → Option (ExifData μ)) (ifd : ExifIfd)
    (tag : ExifTag) (o : Nat) (st : Loading μ) : Option (Loading μ) :=
  if tag = ExifTag.exifIfdPointer then st.pointer content ifd .exif o
  else if tag = ExifTag.gpsInfoIfdPointer then st.pointer content ifd .gps o
  else if tag = ExifTag.interoperabilityIfdPointer then st.pointer content ifd .interoperability o
  else if tag = ExifTag.jpegInterchangeFormat then
    Loading.thumbnail d ds { st with thumbnailOffset := o }
  else Loading.thumbnail d ds { st with thumbnailLength := o }

/-- A row of the directory of `ifd`. -/
def loadRow (content : ExifData μ → ExifIfd → Nat → Option (ExifData μ)) (ifd : ExifIfd)
    (row : Nat) (st : Loading μ) : Option (Loading μ) := do
  let tag ← exifGetShort d row st.data.order
  if tag ∈ pointerTags then do
    let o ← exifGetLong d (row + 8) st.data.order
    loadPointer d ds content ifd tag o.toNat st
  else st.entry d ds ifd row tag

/-- The loop over the rows. -/
def loadRows (content : ExifData μ → ExifIfd → Nat → Option (ExifData μ)) (ifd : ExifIfd) :
    Nat → Nat → Loading μ → Option (Loading μ)
  | 0, _, st => some st
  | n + 1, row, st => do
    let st ← loadRow d ds content ifd row st
    loadRows content ifd n (row + 12) st

/-- "Check if we have enough data." -/
def rowCount (offset n : Nat) : Nat :=
  if ds < offset + 12 * n then (ds - offset) / 12 % 65536 else n

/-- `exif_data_load_data_content`, called at most `depth` times without returning. -/
def exifDataLoadDataContent : Nat → ExifData μ → ExifIfd → Nat → Option (ExifData μ)
  | 0, x, _, _ => some x
  | depth + 1, x, ifd, offset =>
    let first := (offset + 2) % 4294967296
    if first < offset ∨ first < 2 ∨ ds < first then some x
    else do
      let n ← exifGetShort d offset x.order
      let st ← loadRows d ds (exifDataLoadDataContent depth) ifd (rowCount ds first n.toNat) first
        ⟨x, 0, 0⟩
      some st.data

end Rows

/-! ## The header -/

/-- `(d[0] << 8) | d[1]` -/
def segmentLength (d : List Byte) : Option Nat := (exifGetShort d 0 .motorola).map BitVec.toNat

/-- The loop that looks for the EXIF marker, from the rest `d` of the data. The inner result is
where it ends, if it does not give up. It goes on by a byte at least each time. -/
def skipSegments : Nat → List Byte → Option (Option (List Byte))
  | 0, d => some (some d)
  | n + 1, d =>
    if d.length < 3 then some (some d)
    else
      let d := d.dropWhile (· == 0xff)
      if d.head? = some 0xd8 then skipSegments n (d.drop 1)
      else if 3 ≤ d.length ∧ d.head? = some 0xe0 then do
        let l ← segmentLength (d.drop 1)
        if (d.drop 1).length < l then some none else skipSegments n ((d.drop 1).drop l)
      else if d.head? = some 0xe1 then some (some d)
      else some none

/-- "It can be that the data starts with the EXIF header. If it does not, search the EXIF
marker." The inner result is what follows. -/
def findHeader (d : List Byte) : Option (Option (List Byte)) :=
  if d.take 6 = exifHeader then some (some d)
  else do
    let found ← skipSegments (d.length + 1) d
    match found with
    | none => some none
    | some d =>
      if d.length < 3 then some none
      else do
        let _ ← segmentLength (d.drop 1)
        some (some (d.drop 3))

/-- The byte order, if it is one. -/
def readOrder (d : List Byte) : Option (Option ExifByteOrder) := do
  let mark ← Block.read d 6 2
  some (if mark = orderMark .intel then some .intel
    else if mark = orderMark .motorola then some .motorola else none)

section Load

variable (now : Vector Byte 20)
  (interpret : ExifData μ → ExifEntry → List Byte → Option (Option μ))

/-- `interpret_maker_note` -/
def interpretMakerNote (x : ExifData μ) (d : List Byte) : Option (ExifData μ) :=
  match exifDataGetEntry x ExifTag.makerNote with
  | none => some x
  | some e => do
    let md ← interpret x e d
    some { x with md := md }

/-- IFD 1, if there is one. -/
def loadIfd1 (d : List Byte) (ds offset : Nat) (x : ExifData μ) : Option (ExifData μ) :=
  if offset ≠ 0 ∧ ¬ (ds < offset ∨ ds < (offset + 6) % 4294967296) then
    exifDataLoadDataContent (d.drop 6) (ds - 6) 31 x .ifd1 offset
  else some x

/-- The rest of `exif_data_load_data` when the byte order is known. -/
def loadIfds (x : ExifData μ) (d : List Byte) (ds : Nat) : Option (ExifData μ) := do
  let mark ← exifGetShort d 8 x.order
  if mark ≠ 0x002a then some x
  else do
    let offset ← exifGetLong d 10 x.order
    if ds < offset.toNat ∨ ds < (offset.toNat + 6 + 2) % 4294967296 then some x
    else do
      let x ← exifDataLoadDataContent (d.drop 6) (ds - 6) 31 x .ifd0 offset.toNat
      let n ← exifGetShort d (6 + offset.toNat) x.order
      if ds < (offset.toNat + 6 + 2 + 12 * n.toNat + 4) % 4294967296 then some x
      else do
        let next ← exifGetLong d (6 + offset.toNat + 2 + 12 * n.toNat) x.order
        let x ← loadIfd1 d ds next.toNat x
        let x ← interpretMakerNote interpret x d
        if x.followSpecification then exifDataFix now x else some x

/-- `exif_data_load_data` -/
def exifDataLoadData (x : ExifData μ) (d : List Byte) : Option (ExifData μ) :=
  if d.length < 6 then some x
  else do
    let found ← findHeader d
    match found with
    | none => some x
    | some d =>
      if d.length < 6 ∨ d.take 6 ≠ exifHeader ∨ d.length < 14 then some x
      else do
        -- the data length is capped "to protect against overflow in future offset calculations"
        let ds := min d.length 0xfffe
        let order ← readOrder d
        match order with
        | none => some x
        | some order => loadIfds now interpret { x with order := order } d ds

end Load

/-! ## Whatever the data is -/

/-- A short can be read inside the data. -/
theorem exifGetShort_isSome {d : List Byte} {i : Nat} (h : i + 2 ≤ d.length)
    (order : ExifByteOrder) : ∃ v, exifGetShort d i order = some v := by
  have h0 : d[i]? = some d[i] := List.getElem?_eq_getElem (by omega)
  have h1 : d[i + 1]? = some d[i + 1] := List.getElem?_eq_getElem (by omega)
  cases order with
  | motorola => exact ⟨_, by rw [exifGetShort, h0, h1]; rfl⟩
  | intel => exact ⟨_, by rw [exifGetShort, h0, h1]; rfl⟩

/-- A long can be read inside the data. -/
theorem exifGetLong_isSome {d : List Byte} {i : Nat} (h : i + 4 ≤ d.length)
    (order : ExifByteOrder) : ∃ v, exifGetLong d i order = some v := by
  have h0 : d[i]? = some d[i] := List.getElem?_eq_getElem (by omega)
  have h1 : d[i + 1]? = some d[i + 1] := List.getElem?_eq_getElem (by omega)
  have h2 : d[i + 2]? = some d[i + 2] := List.getElem?_eq_getElem (by omega)
  have h3 : d[i + 3]? = some d[i + 3] := List.getElem?_eq_getElem (by omega)
  cases order with
  | motorola => exact ⟨_, by rw [exifGetLong, h0, h1, h2, h3]; rfl⟩
  | intel => exact ⟨_, by rw [exifGetLong, h0, h1, h2, h3]; rfl⟩

/-- Each content has a tag only once, and its entries are sound. -/
structure ExifData.Sound (x : ExifData μ) : Prop where
  unique : ∀ i, (tags (x.ifd i)).Nodup
  entries : ∀ i, ∀ e ∈ x.ifd i, e.Sound

/-- Sound data that still has the maker note `md`. -/
structure ExifData.SoundWith (md : Option μ) (x : ExifData μ) : Prop extends x.Sound where
  same : x.md = md

section Safe

variable {d : List Byte} {ds : Nat} {x : ExifData μ} {st : Loading μ} {md : Option μ}

/-- What is data is in the block, and an `unsigned int` can say where. -/
structure InBlock (d : List Byte) (ds : Nat) : Prop where
  le : ds ≤ d.length
  lt : ds < 268435456

theorem ExifEntry.Exact.fits {e : ExifEntry} (h : e.Exact) : e.Fits := Nat.le_of_eq h

/-- An entry that is loaded has the bytes of its components. -/
theorem loadDataEntry_exact (hd : InBlock d ds) {row : Nat} (hrow : row + 12 ≤ ds)
    (order : ExifByteOrder) :
    ∃ r, exifDataLoadDataEntry order d ds row = some r ∧
      ∀ e doff, r = some (e, doff) → e.Exact ∧ 0 < e.data.length ∧ e.data.length ≤ ds := by
  have hle := hd.le
  have hlt := hd.lt
  obtain ⟨tag, htag⟩ := exifGetShort_isSome (d := d) (i := row) (by omega) order
  obtain ⟨format, hformat⟩ := exifGetShort_isSome (d := d) (i := row + 2) (by omega) order
  obtain ⟨components, hcomponents⟩ := exifGetLong_isSome (d := d) (i := row + 4) (by omega) order
  obtain ⟨value, hvalue⟩ := exifGetLong_isSome (d := d) (i := row + 8) (by omega) order
  simp only [exifDataLoadDataEntry, htag, hformat, hcomponents, Option.bind_eq_bind,
    Option.bind_some]
  cases ExifFormat.ofCode? format with
  | none => exact ⟨none, rfl, fun e doff h => by cases h⟩
  | some f =>
    dsimp only
    split
    · exact ⟨none, rfl, fun e doff h => by cases h⟩
    · rename_i hsize
      generalize hs : f.size * components.toNat % 4294967296 = s at hsize ⊢
      obtain ⟨doff, hdoff, hdofflt⟩ : ∃ doff, dataOffset order d row s = some doff ∧
          doff < 4294967296 := by
        unfold dataOffset
        split
        · exact ⟨value.toNat, by rw [hvalue]; rfl, value.isLt⟩
        · exact ⟨row + 8, rfl, by omega⟩
      rw [hdoff, Option.bind_some]
      split
      · exact ⟨none, rfl, fun e doff h => by cases h⟩
      · rename_i hsane
        have hslt : s < 4294967296 := by
          rw [← hs]
          exact Nat.mod_lt _ (by omega)
        have hin : doff + s ≤ ds := by omega
        rw [Block.read_isSome (by omega), Option.bind_some]
        refine ⟨_, rfl, fun e doff' h => ?_⟩
        obtain ⟨rfl, -⟩ := Prod.mk.inj (Option.some.inj h)
        have hlen : ((d.drop doff).take s).length = s := by
          rw [List.length_take, List.length_drop]
          omega
        refine ⟨?_, by show 0 < ((d.drop doff).take s).length; omega,
          by show ((d.drop doff).take s).length ≤ _; omega⟩
        show components.toNat * f.size = ((d.drop doff).take s).length
        -- there are not more components than bytes, and so the product did not wrap
        have hcount : components.toNat ≤ s := by omega
        have hfsize := f.size_le
        have hmul : f.size * components.toNat ≤ 8 * components.toNat :=
          Nat.mul_le_mul_right _ hfsize
        rw [hlen, Nat.mul_comm, ← hs, Nat.mod_eq_of_lt (by omega)]

/-- Sound data stays so with another sound content. -/
theorem ExifData.Sound.setIfd (h : x.Sound) {i : ExifIfd} {c : ExifContent}
    (hunique : (tags c).Nodup) (hentries : ∀ e ∈ c, e.Sound) : (x.setIfd i c).Sound := by
  constructor
  · intro j
    show (tags (if j = i then c else x.ifd j)).Nodup
    split
    · exact hunique
    · exact h.unique j
  · intro j
    show ∀ e ∈ (if j = i then c else x.ifd j), e.Sound
    split
    · exact hentries
    · exact h.entries j

/-- Sound data stays so with another sound entry. -/
theorem ExifData.Sound.addEntry (h : x.Sound) (i : ExifIfd) {e : ExifEntry} (he : e.Sound) :
    (x.setIfd i (exifContentAddEntry (x.ifd i) e)).Sound := by
  refine h.setIfd (exifContentAddEntry_nodup (h.unique i) e) fun a ha => ?_
  rw [exifContentAddEntry_eq] at ha
  split at ha
  · exact h.entries i a ha
  · rcases List.mem_append.mp ha with ha | ha
    · exact h.entries i a ha
    · rw [List.mem_singleton.mp ha]
      exact he

/-- The thumbnail is copied from inside the data or left out. -/
theorem loadThumbnail_safe (hd : InBlock d ds) (o s : Nat) (h : x.SoundWith md) :
    ∃ x', exifDataLoadDataThumbnail x d ds o s = some x' ∧ x'.SoundWith md := by
  have hle := hd.le
  have hlt := hd.lt
  unfold exifDataLoadDataThumbnail
  dsimp only
  split
  · exact ⟨x, rfl, h⟩
  · rename_i hsane
    rw [Block.read_isSome (by omega)]
    exact ⟨_, rfl, ⟨h.unique, h.entries⟩, h.same⟩

/-- Another IFD can be loaded from anywhere. -/
def SafeContent (md : Option μ) (content : ExifData μ → ExifIfd → Nat → Option (ExifData μ)) :
    Prop :=
  ∀ x j o, x.SoundWith md → o < 4294967296 → ∃ x', content x j o = some x' ∧ x'.SoundWith md

/-- So it is when both of its tags have been seen. -/
theorem thumbnail_safe (hd : InBlock d ds) (h : st.data.SoundWith md) :
    ∃ st', Loading.thumbnail d ds st = some st' ∧ st'.data.SoundWith md := by
  unfold Loading.thumbnail
  split
  · obtain ⟨x, hx, hsound⟩ := loadThumbnail_safe hd _ _ h
    rw [hx]
    exact ⟨_, rfl, hsound⟩
  · exact ⟨st, rfl, h⟩

/-- Following a pointer is safe if loading the content there is. -/
theorem pointer_safe {content : ExifData μ → ExifIfd → Nat → Option (ExifData μ)}
    (hcontent : SafeContent md content) (h : st.data.SoundWith md) (ifd j : ExifIfd) {o : Nat}
    (ho : o < 4294967296) :
    ∃ st', st.pointer content ifd j o = some st' ∧ st'.data.SoundWith md := by
  unfold Loading.pointer
  split
  · exact ⟨st, rfl, h⟩
  · obtain ⟨x, hx, hsound⟩ := hcontent st.data j o h ho
    rw [hx]
    exact ⟨_, rfl, hsound⟩

/-- An entry is read from its row and from inside the data. -/
theorem entry_safe (hd : InBlock d ds) (h : st.data.SoundWith md) (ifd : ExifIfd) {row : Nat}
    (hrow : row + 12 ≤ ds) (tag : ExifTag) :
    ∃ st', st.entry d ds ifd row tag = some st' ∧ st'.data.SoundWith md := by
  have hle := hd.le
  have hlt := hd.lt
  obtain ⟨skip, hskip⟩ : ∃ skip, skipUnknown d st.data.ignoreUnknownTags ifd row tag =
      some skip := by
    unfold skipUnknown
    split
    · exact ⟨false, rfl⟩
    · rw [Block.read_isSome (by omega)]
      exact ⟨_, rfl⟩
  unfold Loading.entry
  rw [hskip, Option.bind_eq_bind, Option.bind_some]
  split
  · exact ⟨st, rfl, h⟩
  · obtain ⟨r, hr, hexact⟩ := loadDataEntry_exact hd hrow st.data.order
    rw [hr, Option.bind_eq_bind, Option.bind_some]
    cases r with
    | none => exact ⟨st, rfl, h⟩
    | some r =>
      obtain ⟨e, doff⟩ := r
      obtain ⟨hexact, -, hlen⟩ := hexact e doff rfl
      have hadd := h.addEntry ifd (e := e) ⟨hexact.fits, by omega⟩
      refine ⟨_, rfl, ?_⟩
      dsimp only
      split
      · exact ⟨⟨hadd.unique, hadd.entries⟩, h.same⟩
      · exact ⟨hadd, h.same⟩

/-- **Step lemma**: a row of the directory. -/
theorem loadRow_safe (hd : InBlock d ds)
    {content : ExifData μ → ExifIfd → Nat → Option (ExifData μ)}
    (hcontent : SafeContent md content) (ifd : ExifIfd) (row : Nat) (hrow : row + 12 ≤ ds)
    (h : st.data.SoundWith md) :
    ∃ st', loadRow d ds content ifd row st = some st' ∧ st'.data.SoundWith md := by
  have hle := hd.le
  obtain ⟨tag, htag⟩ := exifGetShort_isSome (d := d) (i := row) (by omega) st.data.order
  unfold loadRow
  rw [htag, Option.bind_eq_bind, Option.bind_some]
  split
  · obtain ⟨o, ho⟩ := exifGetLong_isSome (d := d) (i := row + 8) (by omega) st.data.order
    rw [ho, Option.bind_eq_bind, Option.bind_some]
    unfold loadPointer
    split
    · exact pointer_safe hcontent h ifd .exif o.isLt
    · split
      · exact pointer_safe hcontent h ifd .gps o.isLt
      · split
        · exact pointer_safe hcontent h ifd .interoperability o.isLt
        · split
          · exact thumbnail_safe hd h
          · exact thumbnail_safe hd h
  · exact entry_safe hd h ifd hrow tag

/-- **Run lemma**: the rows of a directory. -/
theorem loadRows_safe (hd : InBlock d ds)
    {content : ExifData μ → ExifIfd → Nat → Option (ExifData μ)}
    (hcontent : SafeContent md content) (ifd : ExifIfd) : ∀ (n row : Nat) (st : Loading μ),
      row + 12 * n ≤ ds → st.data.SoundWith md →
      ∃ st', loadRows d ds content ifd n row st = some st' ∧ st'.data.SoundWith md
  | 0, _, st, _, h => ⟨st, rfl, h⟩
  | n + 1, row, st, hrow, h => by
    obtain ⟨st₁, hst₁, h₁⟩ := loadRow_safe hd hcontent ifd row (by omega) h
    obtain ⟨st₂, hst₂, h₂⟩ := loadRows_safe hd hcontent ifd n (row + 12) st₁ (by omega) h₁
    exact ⟨st₂, by rw [loadRows, hst₁]; exact hst₂, h₂⟩

/-- The rows that are looked at are in the data. -/
theorem rowCount_le {offset : Nat} (h : offset ≤ ds) (n : Nat) :
    offset + 12 * rowCount ds offset n ≤ ds := by
  unfold rowCount
  split
  · have := Nat.mod_le ((ds - offset) / 12) 65536
    omega
  · omega

/-- An IFD can be loaded from anywhere, however the IFDs are nested. -/
theorem loadContent_safe (hd : InBlock d ds) :
    ∀ depth, SafeContent md (exifDataLoadDataContent d ds depth)
  | 0, x, _, _, h, _ => ⟨x, rfl, h⟩
  | depth + 1, x, ifd, offset, h, ho => by
    have hle := hd.le
    have hlt := hd.lt
    unfold exifDataLoadDataContent
    dsimp only
    split
    · exact ⟨x, rfl, h⟩
    · rename_i hsane
      have hfirst : (offset + 2) % 4294967296 = offset + 2 := by omega
      rw [hfirst] at hsane ⊢
      obtain ⟨n, hn⟩ := exifGetShort_isSome (d := d) (i := offset) (by omega) x.order
      rw [hn, Option.bind_eq_bind, Option.bind_some]
      obtain ⟨st, hst, hsound⟩ := loadRows_safe hd (loadContent_safe hd depth) ifd
        (rowCount ds (offset + 2) n.toNat) (offset + 2) ⟨x, 0, 0⟩ (rowCount_le (by omega) _)
        h
      rw [hst]
      exact ⟨st.data, rfl, hsound⟩

/-- Fixing what has been loaded has a result, and leaves the maker note alone. -/
theorem exifDataFix_safe (now : Vector Byte 20) (h : x.Sound) :
    ∃ x', exifDataFix now x = some x' ∧ x'.md = x.md ∧
      ∀ i, (tags (x'.ifd i)).Nodup ∧ ∀ e ∈ x'.ifd i, e.Fits := by
  have hall (i : ExifIfd) : ∃ c', fixFunc now x i (x.ifd i) = some c' ∧ (tags c').Nodup ∧
      ∀ e ∈ c', e.Fits := by
    unfold fixFunc
    split
    · refine ⟨[], ?_, List.nodup_nil, fun e he => (List.not_mem_nil he).elim⟩
      rw [removeEntries_eq (Nat.le_refl _)]
    · obtain ⟨c₁, news, c', -, hfix, hfixed⟩ :=
        exifContentFix_fixedTo now x.order (supportLevel_zero i x.dataType)
          (supportLevel_userComment i x.dataType) (h.unique i) (h.entries i)
      exact ⟨c', hfix, hfixed.unique, hfixed.fits⟩
  choose ifd hfix hkeep using hall
  refine ⟨{ x with ifd := ifd }, ?_, rfl, hkeep⟩
  rw [exifDataFix, exifDataForeachContent_eq hfix]
  rfl

theorem segmentLength_isSome {d : List Byte} (h : 2 ≤ d.length) :
    ∃ l, segmentLength d = some l := by
  obtain ⟨v, hv⟩ := exifGetShort_isSome (d := d) (i := 0) (by omega) .motorola
  exact ⟨v.toNat, by rw [segmentLength, hv]; rfl⟩

/-- The loop stays in the data, and gives up or ends in it. -/
theorem skipSegments_safe {n : Nat} {d : List Byte} (hn : d.length < n) :
    ∃ found, skipSegments n d = some found ∧ ∀ b, found = some b → b <:+ d := by
  induction n generalizing d with
  | zero => omega
  | succ n ih =>
    unfold skipSegments
    split
    · exact ⟨_, rfl, fun b h => by cases h; exact List.suffix_refl d⟩
    · dsimp only
      have hsuffix : d.dropWhile (· == 0xff) <:+ d := List.dropWhile_suffix _
      have hle := hsuffix.length_le
      generalize d.dropWhile (· == 0xff) = d₁ at hle hsuffix ⊢
      have hrest (k : Nat) : d₁.drop k <:+ d := (List.drop_suffix k d₁).trans hsuffix
      split
      · rename_i hsoi
        have hne : d₁ ≠ [] := by
          rintro rfl
          cases hsoi
        have hpos := List.length_pos_iff.mpr hne
        obtain ⟨found, hfound, hin⟩ := ih (d := d₁.drop 1) (by rw [List.length_drop]; omega)
        exact ⟨found, hfound, fun b hb => (hin b hb).trans (hrest 1)⟩
      · split
        · rename_i happ0
          obtain ⟨l, hl⟩ := segmentLength_isSome (d := d₁.drop 1)
            (by rw [List.length_drop]; omega)
          rw [hl, Option.bind_eq_bind, Option.bind_some]
          split
          · exact ⟨none, rfl, fun b h => by cases h⟩
          · obtain ⟨found, hfound, hin⟩ := ih (d := (d₁.drop 1).drop l)
              (by simp only [List.length_drop]; omega)
            exact ⟨found, hfound, fun b hb =>
              (hin b hb).trans ((List.drop_suffix l _).trans (hrest 1))⟩
        · split
          · exact ⟨_, rfl, fun b h => by cases h; exact hsuffix⟩
          · exact ⟨none, rfl, fun b h => by cases h⟩

/-- The header is looked for inside the data. -/
theorem findHeader_safe (d : List Byte) :
    ∃ found, findHeader d = some found ∧ ∀ b, found = some b → b <:+ d := by
  unfold findHeader
  split
  · exact ⟨_, rfl, fun b h => by cases h; exact List.suffix_refl d⟩
  · obtain ⟨found, hfound, hin⟩ := skipSegments_safe (d := d) (Nat.lt_succ_self _)
    rw [hfound, Option.bind_eq_bind, Option.bind_some]
    cases found with
    | none => exact ⟨none, rfl, fun b h => by cases h⟩
    | some d₁ =>
      dsimp only
      split
      · exact ⟨none, rfl, fun b h => by cases h⟩
      · rename_i hlen
        obtain ⟨l, hl⟩ := segmentLength_isSome (d := d₁.drop 1) (by rw [List.length_drop]; omega)
        rw [hl]
        refine ⟨_, rfl, fun b h => ?_⟩
        cases h
        exact (List.drop_suffix 3 d₁).trans (hin d₁ rfl)

/-- IFD 1 is loaded from inside the data. -/
theorem loadIfd1_safe {offset : Nat} (hd : InBlock (d.drop 6) (ds - 6)) (ho : offset < 4294967296)
    (h : x.SoundWith md) : ∃ x', loadIfd1 d ds offset x = some x' ∧ x'.SoundWith md := by
  unfold loadIfd1
  split
  · exact loadContent_safe hd 31 x .ifd1 offset h ho
  · exact ⟨x, rfl, h⟩

/-- What can be said of a loader's result, of data that has had the maker note `md`: it is there
and sound, and a maker note that is new is an interpreted one; or the maker note is to blame. -/
def LoadedSafely (interpret : ExifData μ → ExifEntry → List Byte → Option (Option μ))
    (md : Option μ) (d : List Byte) (loaded : Option (ExifData μ)) : Prop :=
  (∃ x', loaded = some x' ∧ (∀ i, (tags (x'.ifd i)).Nodup ∧ ∀ e ∈ x'.ifd i, e.Fits) ∧
    (x'.md = md ∨ ∃ z e b, b <:+ d ∧ z.md = md ∧ interpret z e b = some x'.md)) ∨
  loaded = none ∧ ∃ z e b, b <:+ d ∧ z.md = md ∧
    exifDataGetEntry z ExifTag.makerNote = some e ∧ interpret z e b = none

/-- The data is as sound with its maker note; without a result the maker note is to blame. -/
theorem interpretMakerNote_safe
    (interpret : ExifData μ → ExifEntry → List Byte → Option (Option μ)) (h : x.SoundWith md)
    (d : List Byte) :
    (∃ x', interpretMakerNote interpret x d = some x' ∧ x'.Sound ∧
      (x'.md = md ∨ ∃ e, interpret x e d = some x'.md)) ∨
      interpretMakerNote interpret x d = none ∧
        ∃ e, exifDataGetEntry x ExifTag.makerNote = some e ∧ interpret x e d = none := by
  unfold interpretMakerNote
  cases hnote : exifDataGetEntry x ExifTag.makerNote with
  | none => exact .inl ⟨x, rfl, h.toSound, .inl h.same⟩
  | some e =>
    cases hmd : interpret x e d with
    | none => exact .inr ⟨by simp only [hmd]; rfl, e, rfl, hmd⟩
    | some md =>
      exact .inl ⟨{ x with md := md }, by simp only [hmd]; rfl, ⟨h.unique, h.entries⟩,
        .inr ⟨e, hmd⟩⟩

/-- Both directories are loaded from inside the data, then the maker note. -/
theorem loadIfds_safe (now : Vector Byte 20)
    (interpret : ExifData μ → ExifEntry → List Byte → Option (Option μ)) (hlen : 14 ≤ d.length)
    (h : x.SoundWith md) :
    LoadedSafely interpret md d (loadIfds now interpret x d (min d.length 0xfffe)) := by
  have hsound {y : ExifData μ} (hy : y.Sound) :
      ∀ i, (tags (y.ifd i)).Nodup ∧ ∀ e ∈ y.ifd i, e.Fits :=
    fun i => ⟨hy.unique i, fun e he => (hy.entries i e he).1⟩
  generalize hds : min d.length 0xfffe = ds
  have hle : ds ≤ d.length := by omega
  have hlt : ds ≤ 65534 := by omega
  have hd : InBlock (d.drop 6) (ds - 6) := ⟨by rw [List.length_drop]; omega, by omega⟩
  obtain ⟨mark, hmark⟩ := exifGetShort_isSome (d := d) (i := 8) (by omega) x.order
  obtain ⟨offset, hoffset⟩ := exifGetLong_isSome (d := d) (i := 10) (by omega) x.order
  unfold loadIfds
  rw [hmark, Option.bind_eq_bind, Option.bind_some]
  split
  · exact .inl ⟨x, rfl, hsound h.toSound, .inl h.same⟩
  · rw [hoffset, Option.bind_eq_bind, Option.bind_some]
    split
    · exact .inl ⟨x, rfl, hsound h.toSound, .inl h.same⟩
    · rename_i hin
      obtain ⟨x₁, hx₁, h₁⟩ := loadContent_safe hd 31 x .ifd0 offset.toNat h offset.isLt
      obtain ⟨n, hn⟩ := exifGetShort_isSome (d := d) (i := 6 + offset.toNat) (by omega) x₁.order
      rw [hx₁, Option.bind_eq_bind, Option.bind_some, hn, Option.bind_some]
      split
      · exact .inl ⟨x₁, rfl, hsound h₁.toSound, .inl h₁.same⟩
      · rename_i hrows
        obtain ⟨next, hnext⟩ := exifGetLong_isSome (d := d)
          (i := 6 + offset.toNat + 2 + 12 * n.toNat) (by omega) x₁.order
        obtain ⟨x₂, hx₂, h₂⟩ := loadIfd1_safe hd next.isLt h₁
        rw [hnext, Option.bind_some, hx₂, Option.bind_some]
        rcases interpretMakerNote_safe interpret h₂ d with
          ⟨x₃, hx₃, h₃, hmd₃⟩ | ⟨hnone, e, he, hmd⟩
        · have hmd : x₃.md = md ∨ ∃ z e b, b <:+ d ∧ z.md = md ∧ interpret z e b = some x₃.md :=
            hmd₃.imp_right fun ⟨e, he⟩ => ⟨x₂, e, d, List.suffix_refl d, h₂.same, he⟩
          rw [hx₃, Option.bind_some]
          split
          · obtain ⟨x₄, hx₄, hsame₄, h₄⟩ := exifDataFix_safe now h₃
            exact .inl ⟨x₄, hx₄, h₄, hsame₄ ▸ hmd⟩
          · exact .inl ⟨x₃, rfl, hsound h₃, hmd⟩
        · exact .inr ⟨by rw [hnone]; rfl, x₂, e, d, List.suffix_refl d, h₂.same, he, hmd⟩

/-- Whatever the data is, there is a result, in which each content has a tag only once and each
entry has room for its components; or else the maker note has been read beyond the data. -/
theorem exifDataLoadData_safe (now : Vector Byte 20)
    (interpret : ExifData μ → ExifEntry → List Byte → Option (Option μ)) {x : ExifData μ}
    (h : x.Sound) (d : List Byte) :
    LoadedSafely interpret x.md d (exifDataLoadData now interpret x d) := by
  have hsame : ∀ i, (tags (x.ifd i)).Nodup ∧ ∀ e ∈ x.ifd i, e.Fits :=
    fun i => ⟨h.unique i, fun e he => (h.entries i e he).1⟩
  unfold exifDataLoadData
  split
  · exact .inl ⟨x, rfl, hsame, .inl rfl⟩
  · obtain ⟨found, hfound, hsuffix⟩ := findHeader_safe d
    rw [hfound, Option.bind_eq_bind, Option.bind_some]
    cases found with
    | none => exact .inl ⟨x, rfl, hsame, .inl rfl⟩
    | some b =>
      dsimp only
      split
      · exact .inl ⟨x, rfl, hsame, .inl rfl⟩
      · rename_i hlen
        obtain ⟨order, horder⟩ : ∃ order, readOrder b = some order :=
          ⟨_, by rw [readOrder, Block.read_isSome (by omega)]; rfl⟩
        rw [horder, Option.bind_eq_bind, Option.bind_some]
        cases order with
        | none => exact .inl ⟨x, rfl, hsame, .inl rfl⟩
        | some order =>
          have hsound : ExifData.SoundWith x.md { x with order := order } :=
            ⟨⟨h.unique, h.entries⟩, rfl⟩
          rcases loadIfds_safe now interpret (d := b) (by omega) hsound with
            ⟨x', hx', hall, hnew⟩ | ⟨hnone, z, e, c, hc, hrest⟩
          · refine .inl ⟨x', hx', hall, hnew.imp_right ?_⟩
            rintro ⟨z, e, c, hc, hrest⟩
            exact ⟨z, e, c, hc.trans (hsuffix b rfl), hrest⟩
          · exact .inr ⟨hnone, z, e, c, hc.trans (hsuffix b rfl), hrest⟩

end Safe

end Ancora.Exif
