import Ancora.Exif.Content

/-!
# EXIF data (libexifa/exif-data.c)

EXIF data has a content for each IFD and the bytes of a thumbnail, all in one byte order.

- `ExifData`: the data. A maker note is something that can be saved (`MnoteMethods`); what the
  makers have for it is in Ancora.Exif.Mnote.
- `exifDataFix`: each content is fixed, but a thumbnail IFD without a thumbnail is emptied.
- **`exifDataFix_fixed`**: fixing the data again changes nothing.
- **`exifDataSetByteOrder_values`**: another byte order is another way to write the same values,
  and the way back leads back to the same bytes.

Allocations succeed here.
-/

namespace Ancora.Exif

/-- What `ExifData` asks of a maker note (libexifa/exif-mnote-data.c). It is saved for an offset,
which `exif_mnote_data_set_offset` has set right before. No result of `setByteOrder` means that it
has left a block. -/
structure MnoteMethods (μ : Type) where
  setByteOrder : μ → ExifByteOrder → Option μ
  save : μ → Nat → List Byte

/-- `if (data->priv->md) exif_mnote_data_set_byte_order (data->priv->md, order)` -/
def MnoteMethods.setOrder {μ : Type} (m : MnoteMethods μ) (order : ExifByteOrder) :
    Option μ → Option (Option μ)
  | none => some none
  | some md => (m.setByteOrder md order).map some

/-- `ExifData`. The block of the thumbnail is NULL when it has no bytes. -/
structure ExifData (μ : Type) where
  ifd : ExifIfd → ExifContent
  data : List Byte
  order : ExifByteOrder
  md : Option μ
  offsetMnote : Nat
  ignoreUnknownTags : Bool
  followSpecification : Bool
  dontChangeMakerNote : Bool
  dataType : Option ExifDataType

variable {μ : Type}

/-- `exif_data_new` -/
def exifDataNew : ExifData μ where
  ifd := fun _ => []
  data := []
  order := .motorola
  md := none
  offsetMnote := 0
  ignoreUnknownTags := true
  followSpecification := true
  dontChangeMakerNote := false
  dataType := none

/-- A content for each IFD. -/
def contents (c0 c1 cExif cGps cInterop : ExifContent) : ExifIfd → ExifContent
  | .ifd0 => c0
  | .ifd1 => c1
  | .exif => cExif
  | .gps => cGps
  | .interoperability => cInterop

/-- `exif_data_foreach_content` for a function that changes the content. -/
def exifDataForeachContent (func : ExifIfd → ExifContent → Option ExifContent)
    (ifd : ExifIfd → ExifContent) : Option (ExifIfd → ExifContent) := do
  let c0 ← func .ifd0 (ifd .ifd0)
  let c1 ← func .ifd1 (ifd .ifd1)
  let cExif ← func .exif (ifd .exif)
  let cGps ← func .gps (ifd .gps)
  let cInterop ← func .interoperability (ifd .interoperability)
  some (contents c0 c1 cExif cGps cInterop)

/-- `exif_data_get_entry` -/
def exifDataGetEntry (x : ExifData μ) (tag : ExifTag) : Option ExifEntry :=
  [ExifIfd.ifd0, .ifd1, .exif, .gps, .interoperability].findSome? fun i =>
    exifContentGetEntry (x.ifd i) tag

/-! ## The header -/

/-- `ExifHeader` -/
def exifHeader : List Byte := [0x45, 0x78, 0x69, 0x66, 0x00, 0x00]

/-- `"II"`, `"MM"` -/
def orderMark : ExifByteOrder → List Byte
  | .intel => [0x49, 0x49]
  | .motorola => [0x4d, 0x4d]

/-! ## Byte order -/

/-- `entry_set_byte_order` -/
def entrySetByteOrder (old new : ExifByteOrder) (e : ExifEntry) : Option ExifEntry := do
  let data ← exifArraySetByteOrder e.format e.data e.components.toNat old new
  some { e with data := data }

/-- `exif_data_set_byte_order` -/
def exifDataSetByteOrder (m : MnoteMethods μ) (x : ExifData μ) (order : ExifByteOrder) :
    Option (ExifData μ) :=
  if order = x.order then some x
  else do
    let ifd ← exifDataForeachContent (fun _ c => c.mapM (entrySetByteOrder x.order order)) x.ifd
    let md ← m.setOrder order x.md
    some { x with ifd := ifd, order := order, md := md }

/-! ## Fixing -/

/-- `while (c->count)`: the last entry is removed. -/
def removeEntries : Nat → ExifContent → ExifContent
  | 0, c => c
  | n + 1, c =>
    match c.getLast? with
    | some e => removeEntries n (exifContentRemoveEntry c e)
    | none => c

/-- `fix_func` of exif-data.c -/
def fixFunc (now : Vector Byte 20) (x : ExifData μ) (i : ExifIfd) (c : ExifContent) :
    Option ExifContent :=
  if i = .ifd1 ∧ x.data = [] then some (removeEntries c.length c)
  else exifContentFix exifTagTable now x.order x.dataType i c

/-- `exif_data_fix` -/
def exifDataFix (now : Vector Byte 20) (x : ExifData μ) : Option (ExifData μ) := do
  let ifd ← exifDataForeachContent (fixFunc now x) x.ifd
  some { x with ifd := ifd }

/-! ## One content after the other -/

section Foreach

variable {func : ExifIfd → ExifContent → Option ExifContent} {ifd ifd' : ExifIfd → ExifContent}

/-- The five contents are all there are. -/
theorem contents_ifd (ifd : ExifIfd → ExifContent) :
    contents (ifd .ifd0) (ifd .ifd1) (ifd .exif) (ifd .gps) (ifd .interoperability) = ifd := by
  funext i
  cases i <;> rfl

/-- What is done to each content is done to all of them. -/
theorem exifDataForeachContent_eq (h : ∀ i, func i (ifd i) = some (ifd' i)) :
    exifDataForeachContent func ifd = some ifd' := by
  simp only [exifDataForeachContent, h, Option.bind_eq_bind, Option.bind_some, contents_ifd]

end Foreach

/-! ## A picture -/

/-- The data of a small picture, without a maker note. -/
def sampleExif : ExifData Unit where
  ifd := contents
    [⟨ExifTag.orientation, .short, 1, [0, 1]⟩,
      ⟨ExifTag.make, .ascii, 6, [0x41, 0x42, 0x43, 0x44, 0x45, 0]⟩]
    [⟨ExifTag.compression, .short, 1, [0, 6]⟩]
    [⟨ExifTag.exifVersion, .undefined, 4, [0x30, 0x32, 0x31, 0x30]⟩] [] []
  data := [0xff, 0xd8, 0xff, 0xd9]
  order := .motorola
  md := none
  offsetMnote := 0
  ignoreUnknownTags := true
  followSpecification := false
  dontChangeMakerNote := false
  dataType := none

/-- The methods of no maker note. -/
def noMnote : MnoteMethods Unit where
  setByteOrder md _ := some md
  save _ _ := []

/-! ## What another byte order is -/

/-- The same values, written in another byte order. -/
structure ExifEntry.SameValues (old new : ExifByteOrder) (e e' : ExifEntry) : Prop where
  tag : e'.tag = e.tag
  format : e'.format = e.format
  components : e'.components = e.components
  length : e'.data.length = e.data.length
  values : ∀ j < e.components.toNat, exifGetValue e'.data (j * e.format.size) new e.format =
    exifGetValue e.data (j * e.format.size) old e.format
  rest : e'.data.drop (e.components.toNat * e.format.size) =
    e.data.drop (e.components.toNat * e.format.size)

/-- The entry has room for its components, and they can be counted in bytes. -/
def ExifEntry.Sound (e : ExifEntry) : Prop := e.Fits ∧ e.data.length < 268435456

theorem sampleExif_unique (i : ExifIfd) : (tags (sampleExif.ifd i)).Nodup := by
  cases i <;> decide

theorem sampleExif_sound : ∀ i, ∀ e ∈ sampleExif.ifd i, e.Sound := by
  intro i e he
  cases i <;> simp only [sampleExif, contents, List.mem_cons, List.not_mem_nil, or_false] at he
  · rcases he with rfl | rfl
    · exact ⟨Nat.le_refl 2, by decide⟩
    · exact ⟨Nat.le_refl 6, by decide⟩
  · rw [he]
    exact ⟨Nat.le_refl 2, by decide⟩
  · rw [he]
    exact ⟨Nat.le_refl 4, by decide⟩

section ByteOrder

variable {old new : ExifByteOrder} {e e' : ExifEntry} {c c' : ExifContent}

/-- An entry in another byte order has the same values, and the way back leads back. -/
theorem entrySetByteOrder_values (old new : ExifByteOrder) (h : e.Sound) :
    ∃ e', entrySetByteOrder old new e = some e' ∧ e.SameValues old new e' ∧
      entrySetByteOrder new old e' = some e := by
  obtain ⟨vs, rest, hlen, hvs, hdata⟩ := exists_values e.format old e.components.toNat h.1
  have hle := h.1.components_le
  have hsize := e.format.size_le
  have hlt : vs.length * e.format.size < 4294967296 := by
    refine Nat.lt_of_le_of_lt (Nat.mul_le_mul_left _ hsize) ?_
    rw [hlen]
    have := h.2
    omega
  have hset := exifArraySetByteOrder_eq old new hvs hlt rest
  have hback := exifArraySetByteOrder_eq new old hvs hlt rest
  have hlength (order : ExifByteOrder) := length_flatMap_write order hvs
  rw [hlen, ← hdata] at hset
  rw [hlen, ← hdata] at hback
  refine ⟨{ e with data := vs.flatMap (·.write new) ++ rest }, ?_, ?_, ?_⟩
  · rw [entrySetByteOrder, hset]
    rfl
  · constructor
    case tag => rfl
    case format => rfl
    case components => rfl
    case length =>
      rw [hdata, List.length_append, List.length_append, hlength, hlength]
    case values =>
      intro j hj
      rw [← hlen] at hj
      conv_rhs => rw [hdata]
      rw [exifGetValue_flatMap hvs rest j hj, exifGetValue_flatMap hvs rest j hj]
    case rest =>
      conv_rhs => rw [hdata]
      show (vs.flatMap (·.write new) ++ rest).drop _ = _
      rw [← hlen, List.drop_left' (hlength new), List.drop_left' (hlength old)]
  · rw [entrySetByteOrder]
    show (exifArraySetByteOrder e.format _ e.components.toNat new old).bind _ = _
    rw [hback]
    rfl

/-- The same for all entries of a content. -/
theorem mapM_entrySetByteOrder (old new : ExifByteOrder) (h : ∀ e ∈ c, e.Sound) :
    ∃ c', c.mapM (entrySetByteOrder old new) = some c' ∧
      List.Forall₂ (ExifEntry.SameValues old new) c c' ∧
      c'.mapM (entrySetByteOrder new old) = some c := by
  induction c with
  | nil => exact ⟨[], rfl, .nil, rfl⟩
  | cons e c ih =>
    obtain ⟨e', he, hsame, hback⟩ :=
      entrySetByteOrder_values old new (h e List.mem_cons_self)
    obtain ⟨c', hc, hall, hbacks⟩ := ih fun x hx => h x (List.mem_cons_of_mem e hx)
    refine ⟨e' :: c', ?_, .cons hsame hall, ?_⟩
    · simp [List.mapM_cons, he, hc]
    · simp [List.mapM_cons, hback, hbacks]

/-- Another byte order is another way to write the same values, and the way back leads back. -/
theorem exifDataSetByteOrder_values (m : MnoteMethods μ) (x : ExifData μ) (order : ExifByteOrder)
    (h : ∀ i, ∀ e ∈ x.ifd i, e.Sound)
    (hmd : ∀ md, x.md = some md → ∃ md' md₂, m.setByteOrder md order = some md' ∧
      m.setByteOrder md' x.order = some md₂) :
    ∃ x', exifDataSetByteOrder m x order = some x' ∧ x'.order = order ∧
      (∀ i, List.Forall₂ (ExifEntry.SameValues x.order order) (x.ifd i) (x'.ifd i)) ∧
      ∃ x₂, exifDataSetByteOrder m x' x.order = some x₂ ∧ x₂.ifd = x.ifd := by
  by_cases hsame : order = x.order
  · subst hsame
    refine ⟨x, if_pos rfl, rfl, fun i => ?_, x, if_pos rfl, rfl⟩
    refine List.forall₂_same.mpr fun e _ => ⟨rfl, rfl, rfl, rfl, fun _ _ => rfl, rfl⟩
  · have hall (i : ExifIfd) := mapM_entrySetByteOrder x.order order (h i)
    choose ifd hset hvalues hback using hall
    have hforeach := exifDataForeachContent_eq hset
    have hforeach' := exifDataForeachContent_eq hback
    obtain ⟨md', md₂, hmd', hmd₂⟩ : ∃ md' md₂, m.setOrder order x.md = some md' ∧
        m.setOrder x.order md' = some md₂ := by
      cases hnote : x.md with
      | none => exact ⟨none, none, rfl, rfl⟩
      | some md =>
        obtain ⟨md', md₂, hmd', hmd₂⟩ := hmd md hnote
        exact ⟨some md', some md₂, by rw [MnoteMethods.setOrder, hmd']; rfl,
          by rw [MnoteMethods.setOrder, hmd₂]; rfl⟩
    let x' : ExifData μ := { x with ifd := ifd, order := order, md := md' }
    have hback : exifDataSetByteOrder m x' x.order =
        some { x' with ifd := x.ifd, order := x.order, md := md₂ } := by
      rw [exifDataSetByteOrder, if_neg (Ne.symm hsame)]
      show (exifDataForeachContent _ ifd).bind _ = _
      rw [hforeach']
      show (m.setOrder x.order md').bind _ = _
      rw [hmd₂]
      rfl
    refine ⟨x', ?_, rfl, hvalues, _, hback, rfl⟩
    rw [exifDataSetByteOrder, if_neg hsame, hforeach, Option.bind_eq_bind, Option.bind_some, hmd']
    rfl

theorem exifDataSetByteOrder_values_sample :
    ∃ x', exifDataSetByteOrder noMnote sampleExif .intel = some x' ∧ x'.order = .intel ∧
      (∀ i, List.Forall₂ (ExifEntry.SameValues .motorola .intel) (sampleExif.ifd i) (x'.ifd i)) ∧
      ∃ x₂, exifDataSetByteOrder noMnote x' .motorola = some x₂ ∧ x₂.ifd = sampleExif.ifd :=
  exifDataSetByteOrder_values noMnote sampleExif .intel sampleExif_sound fun _ h => by cases h

end ByteOrder

/-! ## What fixing does -/

section Fixing

variable {now : Vector Byte 20} {x : ExifData μ} {c : ExifContent}

/-- With as many rounds as there are entries none is left. -/
theorem removeEntries_eq : ∀ {n : Nat} {c : ExifContent}, c.length ≤ n → removeEntries n c = []
  | 0, c, h => List.eq_nil_of_length_eq_zero (Nat.le_zero.mp h)
  | n + 1, c, h => by
    unfold removeEntries
    split
    · rename_i e he
      have hmem := List.mem_of_getLast? he
      have hlen := List.length_erase_of_mem hmem
      rw [exifContentRemoveEntry_eq]
      exact removeEntries_eq (by omega)
    · rename_i hnone
      exact List.getLast?_eq_none_iff.mp hnone

/-- One content has been fixed for good. -/
theorem fixFunc_fixed (now : Vector Byte 20) (x : ExifData μ) (i : ExifIfd)
    (hunique : (tags c).Nodup) (hsound : ∀ e ∈ c, e.Sound) :
    ∃ c', fixFunc now x i c = some c' ∧ fixFunc now x i c' = some c' := by
  unfold fixFunc
  by_cases hthumb : i = .ifd1 ∧ x.data = []
  · refine ⟨[], ?_, ?_⟩
    · rw [if_pos hthumb, removeEntries_eq (Nat.le_refl _)]
    · rw [if_pos hthumb]
      rfl
  · obtain ⟨c', hfix, hfixed⟩ := exifContentFix_fixed now x.order x.dataType i hunique hsound
    exact ⟨c', by rw [if_neg hthumb, hfix], by rw [if_neg hthumb, hfixed]⟩

/-- Fixing the data again changes nothing. -/
theorem exifDataFix_fixed (now : Vector Byte 20) (x : ExifData μ)
    (hunique : ∀ i, (tags (x.ifd i)).Nodup) (hsound : ∀ i, ∀ e ∈ x.ifd i, e.Sound) :
    ∃ x', exifDataFix now x = some x' ∧ exifDataFix now x' = some x' := by
  have hall (i : ExifIfd) := fixFunc_fixed now x i (hunique i) (hsound i)
  choose ifd hfix hfixed using hall
  refine ⟨{ x with ifd := ifd }, ?_, ?_⟩
  · rw [exifDataFix, exifDataForeachContent_eq hfix]
    rfl
  · rw [exifDataFix]
    show (exifDataForeachContent (fixFunc now x) ifd).bind _ = _
    rw [exifDataForeachContent_eq hfixed]
    rfl

theorem exifDataFix_fixed_sample :
    ∃ x', exifDataFix (Vector.replicate 20 0) sampleExif = some x' ∧
      exifDataFix (Vector.replicate 20 0) x' = some x' :=
  exifDataFix_fixed (Vector.replicate 20 0) sampleExif sampleExif_unique sampleExif_sound

end Fixing

end Ancora.Exif
