import Ancora.Exif.Mnote

/-!
# The makers (libexifa/exif-mnote-data.c, exif-data.c)

`interpret_maker_note` asks each of the makers whether a maker note is its own. Then the note is
loaded from all of the data, since its offsets can lead anywhere, and it is saved with the data.

- `Mnote`: `ExifMnoteData`, one of the makers and its note.
- `interpretNote`: what the makers do with a maker note.
- `makers`: what `ExifData` asks of a maker note.
- **`exifDataLoadData_makers`**: whatever the data is, it is loaded with a maker note that can be
  saved at any offset, unless it ends with a note that is cut short.
- **`exifDataSetByteOrder_makers`**: which data cannot be written in another byte order.

`getValue` stands for `exif_entry_get_value`: the text of an entry, for a buffer of so many bytes.
-/

namespace Ancora.Exif

variable {μ : Type}

/-- `ExifMnoteData` -/
inductive Mnote
  | canon (n : MnoteData Unit)
  | fuji (n : MnoteData Unit)
  | olympus (n : MnoteData OlympusVersion)
  | pentax (n : MnoteData (Option PentaxVersion))
  deriving DecidableEq, Repr

namespace Mnote

/-- The entries, whoever the maker is. -/
def entries : Mnote → List MnoteEntry
  | canon n => n.entries
  | fuji n => n.entries
  | olympus n => n.entries
  | pentax n => n.entries

/-- `exif_mnote_data_set_byte_order` -/
def setByteOrder (order : ExifByteOrder) : Mnote → Option Mnote
  | canon n => (mnoteSetByteOrder n order).map canon
  | fuji n => (mnoteSetByteOrder n order).map fuji
  | olympus n => (mnoteSetByteOrder n order).map olympus
  | pentax n => (mnoteSetByteOrder n order).map pentax

/-- `exif_mnote_data_set_offset` -/
def setOffset (offset : BitVec 32) : Mnote → Mnote
  | canon n => canon { n with offset := offset }
  | fuji n => fuji { n with offset := offset }
  | olympus n => olympus { n with offset := offset }
  | pentax n => pentax { n with offset := offset }

/-- `exif_mnote_data_load` -/
def load (d : List Byte) : Mnote → Option Mnote
  | canon n => (canonLoad n d).map canon
  | fuji n => (fujiLoad n d).map fuji
  | olympus n => (olympusLoad n d).map olympus
  | pentax n => (pentaxLoad n d).map pentax

/-- `exif_mnote_data_save` -/
def save (fresh : Nat → Byte) : Mnote → Option (List Byte)
  | canon n => canonSave fresh n
  | fuji n => fujiSave fresh n
  | olympus n => olympusSave fresh n
  | pentax n => pentaxSave fresh n

end Mnote

/-! ## Whose maker note it is -/

section Identify

variable (getValue : ExifEntry → Nat → List Byte) (x : ExifData μ) (e : ExifEntry)

/-- `"Nikon"` -/
def nikonMake : List Byte := [0x4e, 0x69, 0x6b, 0x6f, 0x6e]

/-- `"NIKON"` -/
def nikonMakeUpper : List Byte := [0x4e, 0x49, 0x4b, 0x4f, 0x4e]

/-- `"Canon"` -/
def canonMake : List Byte := [0x43, 0x61, 0x6e, 0x6f, 0x6e]

/-- `exif_mnote_data_olympus_identify`. `char value[5]` is the buffer for the text. -/
def olympusIdentify : OlympusVersion :=
  let variant := identifyVariant e.data
  if variant = .nikonV0 then
    (exifDataGetEntry x ExifTag.make).elim .unrecognized fun em =>
      if (getValue em 5).take 5 = nikonMake ∨ (getValue em 5).take 5 = nikonMakeUpper then .nikonV0
      else .unrecognized
  else variant

/-- `exif_mnote_data_canon_identify` -/
def canonIdentify : Bool :=
  (exifDataGetEntry x ExifTag.make).elim false fun em => decide (getValue em 8 = canonMake)

/-- `exif_mnote_data_fuji_identify` -/
def fujiIdentify : Bool := decide (12 ≤ e.data.length ∧ e.data.take 8 = fujiHeader)

/-- `exif_mnote_data_pentax_identify` -/
def pentaxIdentify : Option PentaxVersion :=
  if 8 ≤ e.data.length ∧ e.data.take 4 = pentaxHeader then
    if (e.data.drop 4).take 2 = orderMark .intel ∨ (e.data.drop 4).take 2 = orderMark .motorola then
      some .pentaxV3
    else some .pentaxV2
  else if 8 ≤ e.data.length ∧ e.data.take 4 = casioHeader then some .casioV2
  else if 2 ≤ e.data.length ∧ e.data.take 2 = [0x00, 0x1b] then some .pentaxV1
  else none

/-- The new note of the maker. "Must do Pentax detection last because some of the heuristics are
pretty general." -/
def newMnote : Option Mnote :=
  if olympusIdentify getValue x e ≠ .unrecognized then some (.olympus (mnoteDataNew .unrecognized))
  else if canonIdentify getValue x then some (.canon (mnoteDataNew ()))
  else if fujiIdentify e then some (.fuji (mnoteDataNew ()))
  else if (pentaxIdentify e).isSome then some (.pentax (mnoteDataNew none))
  else none

end Identify

/-- What `interpret_maker_note` does with the maker note `e`, for the data `d`. A maker note that
has been there before is used when no maker knows this one. -/
def interpretNote (getValue : ExifEntry → Nat → List Byte) (x : ExifData Mnote) (e : ExifEntry)
    (d : List Byte) : Option (Option Mnote) :=
  match (newMnote getValue x e).or x.md with
  | none => some none
  | some n => do
    let n ← n.setByteOrder x.order
    let n ← (n.setOffset (BitVec.ofNat 32 x.offsetMnote)).load d
    some (some n)

/-- What `ExifData` asks of a maker note. A note that leaves its block when it is saved would be
saved as nothing; `Mnote.save_isSome` says which do not. -/
def makers (fresh : Nat → Byte) : MnoteMethods Mnote where
  setByteOrder n order := n.setByteOrder order
  save n pos := ((n.setOffset (BitVec.ofNat 32 pos)).save fresh).getD []

/-! ## Loading and saving -/

section Safe

variable {getValue : ExifEntry → Nat → List Byte} {x : ExifData Mnote} {e : ExifEntry}
  {d : List Byte}

theorem Mnote.entries_setOffset (n : Mnote) (offset : BitVec 32) :
    (n.setOffset offset).entries = n.entries := by
  cases n <;> rfl

/-- A note is loaded from the data, unless it is one that is cut short. -/
theorem Mnote.load_safe {n : Mnote} (hd : d.length + 8 ≤ 4294967296)
    (hn : LoadedFrom d n.entries) :
    (∃ n', n.load d = some n' ∧ LoadedFrom d n'.entries) ∨
      n.load d = none ∧ ∃ note, note <:+ d ∧ CutShort note := by
  cases n with
  | canon n =>
    obtain ⟨n', hload, h⟩ := canonLoad_safe (by omega) hn
    exact .inl ⟨.canon n', by rw [Mnote.load, hload]; rfl, h⟩
  | fuji n =>
    obtain ⟨n', hload, h⟩ := fujiLoad_safe (by omega) hn
    exact .inl ⟨.fuji n', by rw [Mnote.load, hload]; rfl, h⟩
  | pentax n =>
    obtain ⟨n', hload, h⟩ := pentaxLoad_safe (by omega) hn
    exact .inl ⟨.pentax n', by rw [Mnote.load, hload]; rfl, h⟩
  | olympus n =>
    by_cases hcut : CutShort (d.drop n.datao)
    · exact .inr ⟨by rw [Mnote.load, olympusLoad_cutShort hd hcut]; rfl, _,
        List.drop_suffix _ d, hcut⟩
    · obtain ⟨n', hload, h⟩ := olympusLoad_of_not_cutShort hd hn hcut
      exact .inl ⟨.olympus n', by rw [Mnote.load, hload]; rfl, h⟩

/-- A new note has no entries that another byte order could be a problem for. -/
theorem newMnote_setByteOrder {n : Mnote} (h : newMnote getValue x e = some n)
    (order : ExifByteOrder) : ∃ n', n.setByteOrder order = some n' ∧ n'.entries = [] := by
  unfold newMnote at h
  split at h
  · obtain rfl := Option.some.inj h
    exact ⟨_, rfl, rfl⟩
  · split at h
    · obtain rfl := Option.some.inj h
      exact ⟨_, rfl, rfl⟩
    · split at h
      · obtain rfl := Option.some.inj h
        exact ⟨_, rfl, rfl⟩
      · split at h
        · obtain rfl := Option.some.inj h
          exact ⟨_, rfl, rfl⟩
        · cases h

/-- Without a maker note from before, the note is loaded, or it is one that is cut short. -/
theorem interpretNote_safe (getValue : ExifEntry → Nat → List Byte)
    (hd : d.length + 8 ≤ 4294967296) (hmd : x.md = none) :
    (∃ md, interpretNote getValue x e d = some md ∧
      ∀ n, md = some n → LoadedFrom d n.entries) ∨
      interpretNote getValue x e d = none ∧ ∃ note, note <:+ d ∧ CutShort note := by
  unfold interpretNote
  rw [hmd, Option.or_none]
  cases hnew : newMnote getValue x e with
  | none => exact .inl ⟨none, rfl, fun n hn => by cases hn⟩
  | some n =>
    obtain ⟨n₁, horder, hnil⟩ := newMnote_setByteOrder hnew x.order
    have hempty : LoadedFrom d (n₁.setOffset (BitVec.ofNat 32 x.offsetMnote)).entries := by
      rw [Mnote.entries_setOffset, hnil]
      exact ⟨fun e he => (List.not_mem_nil he).elim, Nat.zero_le _⟩
    dsimp only
    rw [horder, Option.bind_eq_bind, Option.bind_some]
    rcases Mnote.load_safe hd hempty with ⟨n₂, hload, hloaded⟩ | ⟨hnone, hcut⟩
    · refine .inl ⟨some n₂, by rw [hload]; rfl, fun n hn => ?_⟩
      rwa [← Option.some.inj hn]
    · exact .inr ⟨by rw [hnone]; rfl, hcut⟩

/-- What has been loaded can be saved, for any offset. -/
theorem Mnote.save_isSome {n : Mnote} (hn : SavableEntries n.entries) (fresh : Nat → Byte)
    (offset : BitVec 32) : ((n.setOffset offset).save fresh).isSome = true := by
  cases n with
  | canon n => exact canonSave_isSome (n := { n with offset := offset }) hn
  | fuji n => exact fujiSave_isSome (n := { n with offset := offset }) hn
  | olympus n => exact olympusSave_isSome (n := { n with offset := offset }) hn
  | pentax n => exact pentaxSave_isSome (n := { n with offset := offset }) hn

/-- The maker note can be saved. -/
def SavableNote (x : ExifData Mnote) : Prop := ∀ n, x.md = some n → SavableEntries n.entries

/-- What the makers make of it when data is loaded that has had no maker note. There are at most
65524 entries in so much data. -/
theorem LoadedSafely.makers {loaded : Option (ExifData Mnote)} (hd : d.length ≤ 786288)
    (h : LoadedSafely (interpretNote getValue) none d loaded) :
    (∃ x', loaded = some x' ∧ (∀ i, (tags (x'.ifd i)).Nodup ∧ ∀ e ∈ x'.ifd i, e.Fits) ∧
      SavableNote x') ∨ loaded = none ∧ ∃ note, note <:+ d ∧ CutShort note := by
  rcases h with ⟨x', hx', hall, hnew⟩ | ⟨hnone, z, e, b, hb, hz, -, hnote⟩
  · refine .inl ⟨x', hx', hall, fun n hn => ?_⟩
    rcases hnew with hold | ⟨z, e, b, hb, hz, hnote⟩
    · rw [hold] at hn
      cases hn
    · have hle := hb.length_le
      rcases interpretNote_safe (e := e) (d := b) getValue (by omega) hz with
        ⟨md, hmd, hloaded⟩ | ⟨hnone, -⟩
      · obtain ⟨hsound, hlen⟩ := hloaded n ((Option.some.inj (hmd.symm.trans hnote)).trans hn)
        exact ⟨hsound, by omega⟩
      · rw [hnone] at hnote
        cases hnote
  · refine .inr ⟨hnone, ?_⟩
    have hle := hb.length_le
    rcases interpretNote_safe (e := e) (d := b) getValue (by omega) hz with
      ⟨md, hmd, -⟩ | ⟨-, note, hsuffix, hcut⟩
    · rw [hmd] at hnote
      cases hnote
    · exact ⟨note, hsuffix.trans hb, hcut⟩

/-- Whatever the data is, what is loaded is sound, and it has no maker note or one that can be
saved; or else the data ends with a note that is cut short. -/
theorem exifDataLoadData_makers (getValue : ExifEntry → Nat → List Byte) (now : Vector Byte 20)
    {x : ExifData Mnote} (hx : x.Sound) (hmd : x.md = none) {d : List Byte}
    (hd : d.length ≤ 786288) :
    (∃ x', exifDataLoadData now (interpretNote getValue) x d = some x' ∧
      (∀ i, (tags (x'.ifd i)).Nodup ∧ ∀ e ∈ x'.ifd i, e.Fits) ∧ SavableNote x') ∨
      exifDataLoadData now (interpretNote getValue) x d = none ∧
        ∃ note, note <:+ d ∧ CutShort note := by
  have h := exifDataLoadData_safe now (interpretNote getValue) hx d
  rw [hmd] at h
  exact h.makers hd

theorem exifDataNew_sound : (exifDataNew : ExifData μ).Sound where
  unique _ := List.nodup_nil
  entries _ _ he := (List.not_mem_nil he).elim

/-- Data of one maker note of ten bytes, which begins as a long header does. -/
def cutShortSample : List Byte :=
  exifHeader ++ [0x49, 0x49, 0x2a, 0, 8, 0, 0, 0,
    1, 0, 0x69, 0x87, 4, 0, 1, 0, 0, 0, 26, 0, 0, 0, 0, 0, 0, 0,
    1, 0, 0x7c, 0x92, 7, 0, 10, 0, 0, 0, 44, 0, 0, 0, 0, 0, 0, 0] ++
    OlympusVersion.text .olympusV2 ++ [0x49, 0x49]

theorem exifDataLoadData_makers_sample :
    (∃ x', exifDataLoadData (Vector.replicate 20 0) (interpretNote fun _ _ => canonMake)
        exifDataNew cutShortSample = some x' ∧
      (∀ i, (tags (x'.ifd i)).Nodup ∧ ∀ e ∈ x'.ifd i, e.Fits) ∧ SavableNote x') ∨
      exifDataLoadData (Vector.replicate 20 0) (interpretNote fun _ _ => canonMake) exifDataNew
          cutShortSample = none ∧
        ∃ note, note <:+ cutShortSample ∧ CutShort note :=
  exifDataLoadData_makers _ _ exifDataNew_sound rfl (by decide)

-- the two bytes behind the data are read
example : (exifDataLoadData (Vector.replicate 20 0) (interpretNote fun _ _ => canonMake)
    exifDataNew cutShortSample).isNone = true := by
  decide +kernel

end Safe

/-! ## Changes -/

section Changes

variable {x : ExifData Mnote} {fresh : Nat → Byte}

theorem Mnote.setByteOrder_eq_none_iff {n : Mnote} (hn : ∀ e ∈ n.entries, e.Sound)
    (order : ExifByteOrder) :
    n.setByteOrder order = none ↔ ∃ e ∈ n.entries, e.Overflows := by
  cases n with
  | canon n => exact Option.map_eq_none_iff.trans (mnoteSetByteOrder_eq_none_iff n order hn)
  | fuji n => exact Option.map_eq_none_iff.trans (mnoteSetByteOrder_eq_none_iff n order hn)
  | olympus n => exact Option.map_eq_none_iff.trans (mnoteSetByteOrder_eq_none_iff n order hn)
  | pentax n => exact Option.map_eq_none_iff.trans (mnoteSetByteOrder_eq_none_iff n order hn)

theorem Mnote.setByteOrder_savable {n n' : Mnote} {order : ExifByteOrder}
    (hn : SavableEntries n.entries) (h : n.setByteOrder order = some n') :
    SavableEntries n'.entries := by
  cases n with
  | canon n =>
    obtain ⟨n₁, h₁, rfl⟩ := Option.map_eq_some_iff.mp h
    exact mnoteSetByteOrder_savable hn h₁
  | fuji n =>
    obtain ⟨n₁, h₁, rfl⟩ := Option.map_eq_some_iff.mp h
    exact mnoteSetByteOrder_savable hn h₁
  | olympus n =>
    obtain ⟨n₁, h₁, rfl⟩ := Option.map_eq_some_iff.mp h
    exact mnoteSetByteOrder_savable hn h₁
  | pentax n =>
    obtain ⟨n₁, h₁, rfl⟩ := Option.map_eq_some_iff.mp h
    exact mnoteSetByteOrder_savable hn h₁

/-- Data can be written in another byte order, unless its maker note has an entry with more
components than 32 bits can say the size of. -/
theorem exifDataSetByteOrder_makers (fresh : Nat → Byte) {x : ExifData Mnote}
    (order : ExifByteOrder) (hx : ∀ i, ∀ e ∈ x.ifd i, e.Sound)
    (hmd : ∀ n, x.md = some n → ∀ e ∈ n.entries, e.Sound) :
    exifDataSetByteOrder (makers fresh) x order = none ↔
      order ≠ x.order ∧ ∃ n, x.md = some n ∧ ∃ e ∈ n.entries, e.Overflows := by
  by_cases hsame : order = x.order
  · rw [exifDataSetByteOrder, if_pos hsame]
    exact iff_of_false (by simp) fun h => h.1 hsame
  · have hall (i : ExifIfd) := mapM_entrySetByteOrder x.order order (hx i)
    choose ifd hset _ _ using hall
    have hforeach := exifDataForeachContent_eq hset
    rw [exifDataSetByteOrder, if_neg hsame, hforeach, Option.bind_eq_bind, Option.bind_some,
      and_iff_right hsame]
    cases hn : x.md with
    | none => simp [MnoteMethods.setOrder]
    | some n =>
      have hiff := Mnote.setByteOrder_eq_none_iff (hmd n hn) order
      have hone : (∃ n', some n = some n' ∧ ∃ e ∈ n'.entries, e.Overflows) ↔
          ∃ e ∈ n.entries, e.Overflows := by simp
      rw [hone, ← hiff, MnoteMethods.setOrder]
      show ((n.setByteOrder order).map some).bind _ = none ↔ _
      cases n.setByteOrder order <;> simp

/-- One `LONG` for each byte that 32 bits can count to, and one more, in four bytes. -/
def overflowNote : Mnote :=
  .olympus ⟨[⟨0x0100, 4, 0x40000001, [7, 0, 0, 0]⟩], .intel, 44, .olympusV2⟩

def overflowData : ExifData Mnote :=
  { (exifDataNew : ExifData Mnote) with md := some overflowNote }

theorem exifDataSetByteOrder_makers_overflow :
    exifDataSetByteOrder (makers fun _ => 0xaa) overflowData .intel = none ↔
      ExifByteOrder.intel ≠ .motorola ∧ ∃ n, some overflowNote = some n ∧
        ∃ e ∈ n.entries, e.Overflows := by
  refine exifDataSetByteOrder_makers (fun _ => 0xaa) (x := overflowData) .intel
    (fun _ e he => (List.not_mem_nil (show e ∈ [] from he)).elim) ?_
  intro n hn e he
  obtain rfl : overflowNote = n := Option.some.inj hn
  rw [List.mem_singleton.mp he]
  exact .inr rfl

/-- A change of data that has been loaded. -/
inductive ExifChange
  | setByteOrder (order : ExifByteOrder)
  | fix (now : Vector Byte 20)

def ExifChange.apply (m : MnoteMethods μ) (x : ExifData μ) : ExifChange → Option (ExifData μ)
  | setByteOrder order => exifDataSetByteOrder m x order
  | fix now => exifDataFix now x

/-- **Step lemma**: a change leaves a maker note that can be saved. -/
theorem SavableNote.apply (h : SavableNote x) {change : ExifChange} {x' : ExifData Mnote}
    (hchange : change.apply (makers fresh) x = some x') : SavableNote x' := by
  cases change with
  | fix now =>
    obtain ⟨ifd, -, heq⟩ := Option.bind_eq_some_iff.mp hchange
    rw [← Option.some.inj heq]
    exact h
  | setByteOrder order =>
    unfold ExifChange.apply exifDataSetByteOrder at hchange
    dsimp only at hchange
    split at hchange
    · rwa [← Option.some.inj hchange]
    · obtain ⟨ifd, -, hchange⟩ := Option.bind_eq_some_iff.mp hchange
      obtain ⟨md, hmd, heq⟩ := Option.bind_eq_some_iff.mp hchange
      rw [← Option.some.inj heq]
      intro n hn
      have hn : md = some n := hn
      subst hn
      cases hold : x.md with
      | none =>
        rw [hold] at hmd
        cases hmd
      | some n₀ =>
        rw [hold] at hmd
        obtain ⟨n₁, h₁, hsome⟩ := Option.map_eq_some_iff.mp hmd
        obtain rfl := Option.some.inj hsome
        exact Mnote.setByteOrder_savable (h n₀ hold) h₁

/-- **Run lemma**: however often the data is changed. -/
theorem SavableNote.run (h : SavableNote x) {changes : List ExifChange} {x' : ExifData Mnote}
    (hrun : changes.foldlM (ExifChange.apply (makers fresh)) x = some x') : SavableNote x' := by
  induction changes generalizing x with
  | nil => rwa [← Option.some.inj hrun]
  | cons change changes ih =>
    rw [List.foldlM_cons] at hrun
    obtain ⟨x₁, h₁, hrun⟩ := Option.bind_eq_some_iff.mp hrun
    exact ih (h.apply h₁) hrun

/-- Saving the maker note stays in its block, whatever offset it is saved for. -/
def SavesAnywhere (fresh : Nat → Byte) (x : ExifData Mnote) : Prop :=
  ∀ n, x.md = some n → ∀ offset, ((n.setOffset offset).save fresh).isSome = true

/-- Whatever data has been loaded, and however often it has been changed, its maker note can be
saved at any offset. -/
theorem exifDataLoadData_changes (getValue : ExifEntry → Nat → List Byte) (now : Vector Byte 20)
    (fresh : Nat → Byte) {x : ExifData Mnote} (hx : x.Sound) (hmd : x.md = none) {d : List Byte}
    (hd : d.length ≤ 786288) {changes : List ExifChange} {x' : ExifData Mnote}
    (hrun : ((exifDataLoadData now (interpretNote getValue) x d).bind
      (changes.foldlM (ExifChange.apply (makers fresh)))) = some x') :
    SavesAnywhere fresh x' := by
  obtain ⟨x₁, hload, hrun⟩ := Option.bind_eq_some_iff.mp hrun
  have hsafe := exifDataLoadData_safe now (interpretNote getValue) hx d
  rw [hmd] at hsafe
  have hsavable : SavableNote x₁ := by
    rcases hsafe.makers hd with ⟨x₂, h₂, -, hsavable⟩ | ⟨hnone, -⟩
    · rwa [← Option.some.inj (h₂.symm.trans hload)]
    · rw [hnone] at hload
      cases hload
  intro n hn offset
  exact Mnote.save_isSome (hsavable.run hrun n hn) fresh offset

/-- Data of one maker note with one entry, for which 32 bits are not enough. -/
def overflowSample : List Byte :=
  exifHeader ++ [0x49, 0x49, 0x2a, 0, 8, 0, 0, 0,
    1, 0, 0x69, 0x87, 4, 0, 1, 0, 0, 0, 26, 0, 0, 0, 0, 0, 0, 0,
    1, 0, 0x7c, 0x92, 7, 0, 26, 0, 0, 0, 44, 0, 0, 0, 0, 0, 0, 0] ++
    OlympusVersion.text .olympusV2 ++ [0x49, 0x49, 3, 0,
    1, 0, 0, 1, 4, 0, 1, 0, 0, 0x40, 7, 0, 0, 0]

-- it is loaded, but another byte order leaves the block of the entry
example : ((exifDataLoadData (Vector.replicate 20 0) (interpretNote fun _ _ => canonMake)
      exifDataNew overflowSample).isSome = true) ∧
    ((exifDataLoadData (Vector.replicate 20 0) (interpretNote fun _ _ => canonMake)
      exifDataNew overflowSample).bind fun x =>
        exifDataSetByteOrder (makers fun _ => 0xaa) x .motorola).isNone = true := by
  decide +kernel

theorem overflowSample_fixed : ((exifDataLoadData (Vector.replicate 20 0)
    (interpretNote fun _ _ => canonMake) exifDataNew overflowSample).bind
      ([.fix (Vector.replicate 20 0), .setByteOrder .intel].foldlM
        (ExifChange.apply (makers fun _ => 0xaa)))).isSome = true := by
  decide +kernel

theorem exifDataLoadData_changes_sample :
    SavesAnywhere (fun _ => 0xaa) (Option.get _ overflowSample_fixed) :=
  exifDataLoadData_changes _ _ _ exifDataNew_sound rfl (by decide)
    (Option.some_get overflowSample_fixed).symm

end Changes

end Ancora.Exif
