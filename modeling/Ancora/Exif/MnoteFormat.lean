import Ancora.Exif.Mnote

/-!
# Saved maker notes can be loaded (libexifa/canon, fuji, olympus, pentax: exif-mnote-data-*.c)

A note is saved for an offset, and when it stands at this offset of some data it is loaded from
there. Offsets of values count from a place that each format has its own idea of.

- `EntryAt`: an entry as it is saved.
- **`saveMnoteEntries_at`**: where the loop puts the entries, and that nothing else is changed.
- **`loadMnoteEntries_at`**: the entries that are there are loaded, if the makers agree with
  themselves on where offsets count from.
- **`canonLoad_save`** and so on: the round trip of each maker.
-/

namespace Ancora.Exif

/-- An entry whose block has the bytes of its components, and which is small enough to be saved. -/
structure MnoteEntry.Full (base : BitVec 32) (e : MnoteEntry) : Prop where
  length : e.data.length = e.size
  size_le : e.size ≤ 65536
  tag : ((e.tag - base).setWidth 16).setWidth 32 + base = e.tag

/-- The entry is at `o` in the note, and its value is in it or behind `r`. -/
structure EntryAt (k : SaveStyle) (order : ExifByteOrder) (r : Nat) (d : List Byte) (o : Nat)
    (e : MnoteEntry) : Prop where
  tag : Block.At d o (shortBytes order ((e.tag - k.base).setWidth 16))
  format : Block.At d (o + 2) (shortBytes order e.format)
  components : Block.At d (o + 4) (longBytes order e.components)
  inside : e.size ≤ 4 → Block.At d (o + 8) e.data
  outside : 4 < e.size → ∃ doff, r ≤ doff ∧
    Block.At d (o + 8) (longBytes order (k.start + BitVec.ofNat 32 doff)) ∧ Block.At d doff e.data

/-- What stands beside the entry at `o` in `d` still stands in `d'`. -/
def Beside (d d' : List Byte) (o n : Nat) : Prop :=
  ∀ i bs, Block.At d i bs → i + bs.length ≤ o ∨ o + n ≤ i → Block.At d' i bs

section Saving

variable {d d' : List Byte} {order : ExifByteOrder} {k : SaveStyle} {e : MnoteEntry}
  {es : List MnoteEntry} {o r : Nat}

theorem source_eq (h : e.data.length = e.size) : e.source = some e.data := by
  unfold MnoteEntry.source
  split
  · rename_i hnil
    rw [hnil, List.length_nil] at h
    rw [← h, hnil]
    rfl
  · rw [← h, Block.read_isSome (by omega), List.drop_zero, List.take_length]

/-- A short that is set lies there, and nothing else has changed. -/
theorem setShort_at {i : Nat} (h : i + 2 ≤ d.length) (order : ExifByteOrder) (v : BitVec 16) :
    ∃ c, exifSetShort d i order v = some c ∧ c.length = d.length ∧
      Block.At c i (shortBytes order v) ∧ Beside d c i 2 := by
  obtain ⟨c, hc, hlen⟩ := exists_setShort h order v
  refine ⟨c, hc, hlen, Block.at_write hc, fun j bs hat hbeside => hat.write hc ?_⟩
  rwa [length_shortBytes]

/-- A long that is set lies there, and nothing else has changed. -/
theorem setLong_at {i : Nat} (h : i + 4 ≤ d.length) (order : ExifByteOrder) (v : BitVec 32) :
    ∃ c, exifSetLong d i order v = some c ∧ c.length = d.length ∧
      Block.At c i (longBytes order v) ∧ Beside d c i 4 := by
  obtain ⟨c, hc, hlen⟩ := exists_setLong h order v
  refine ⟨c, hc, hlen, Block.at_write hc, fun j bs hat hbeside => hat.write hc ?_⟩
  rwa [length_longBytes]

/-- Bytes that are written lie there, and nothing else has changed. -/
theorem write_at {i : Nat} (bs : List Byte) (h : i + bs.length ≤ d.length) :
    ∃ c, Block.write d i bs = some c ∧ c.length = d.length ∧ Block.At c i bs ∧
      Beside d c i bs.length := by
  obtain ⟨c, hc, hlen⟩ := Block.exists_write bs h
  exact ⟨c, hc, hlen, Block.at_write hc, fun j cs hat hbeside => hat.write hc hbeside⟩

/-- The first eight bytes of the entry at `o`. -/
structure HeadAt (k : SaveStyle) (order : ExifByteOrder) (d : List Byte) (o : Nat)
    (e : MnoteEntry) : Prop where
  tag : Block.At d o (shortBytes order ((e.tag - k.base).setWidth 16))
  format : Block.At d (o + 2) (shortBytes order e.format)
  components : Block.At d (o + 4) (longBytes order e.components)

/-- Tag, format and number of components are where they have been set. -/
theorem saveMnoteHead_at (k : SaveStyle) (order : ExifByteOrder) (e : MnoteEntry)
    (h : o + 12 ≤ d.length) :
    ∃ d₁ d₂ d₃, exifSetShort d o order ((e.tag - k.base).setWidth 16) = some d₁ ∧
      exifSetShort d₁ (o + 2) order e.format = some d₂ ∧
      exifSetLong d₂ (o + 4) order e.components = some d₃ ∧ d₃.length = d.length ∧
      HeadAt k order d₃ o e ∧ Beside d d₃ o 12 := by
  obtain ⟨d₁, h₁, hlen₁, hat₁, hbeside₁⟩ :=
    setShort_at (d := d) (i := o) (by omega) order ((e.tag - k.base).setWidth 16)
  obtain ⟨d₂, h₂, hlen₂, hat₂, hbeside₂⟩ :=
    setShort_at (d := d₁) (i := o + 2) (by omega) order e.format
  obtain ⟨d₃, h₃, hlen₃, hat₃, hbeside₃⟩ :=
    setLong_at (d := d₂) (i := o + 4) (by omega) order e.components
  refine ⟨d₁, d₂, d₃, h₁, h₂, h₃, by omega, ⟨?_, ?_, hat₃⟩, fun i bs hat hi => ?_⟩
  · refine hbeside₃ _ _ (hbeside₂ _ _ hat₁ ?_) ?_ <;> rw [length_shortBytes] <;> omega
  · refine hbeside₃ _ _ hat₂ ?_
    rw [length_shortBytes]
    omega
  · exact hbeside₃ _ _ (hbeside₂ _ _ (hbeside₁ _ _ hat (by omega)) (by omega)) (by omega)

/-- What is written behind the first eight bytes completes the entry. -/
theorem HeadAt.entryAt (h : HeadAt k order d o e) (hkeep : Beside d d' (o + 8) 4)
    (hin : e.size ≤ 4 → Block.At d' (o + 8) e.data)
    (hout : 4 < e.size → ∃ doff, r ≤ doff ∧ Block.At d' (o + 8)
      (longBytes order (k.start + BitVec.ofNat 32 doff)) ∧ Block.At d' doff e.data) :
    EntryAt k order r d' o e := by
  refine ⟨?_, ?_, ?_, hin, hout⟩
  · exact hkeep _ _ h.tag (by rw [length_shortBytes]; omega)
  · exact hkeep _ _ h.format (by rw [length_shortBytes]; omega)
  · exact hkeep _ _ h.components (by rw [length_longBytes]; omega)

/-- The padding is the last byte, and nothing before it changes. -/
theorem padLast_at (odd : Bool) (h : odd = true → 0 < d.length) :
    ∃ d', padLast odd d = some d' ∧ d'.length = d.length ∧ ∀ i bs, Block.At d i bs →
      (odd = true → i + bs.length < d.length) → Block.At d' i bs := by
  cases odd with
  | false => exact ⟨d, rfl, rfl, fun i bs hat _ => hat⟩
  | true =>
    have hpos := h rfl
    obtain ⟨c, hc, hlen, -, hbeside⟩ := write_at (d := d) (i := d.length - 1) [0]
      (by rw [List.length_singleton]; omega)
    refine ⟨c, hc, hlen, fun i bs hat hbefore => hbeside _ _ hat ?_⟩
    have hlt := hbefore rfl
    omega

/-- **Step lemma**: the entry is where it has been saved, and nothing beside it has changed. -/
theorem saveMnoteEntry_at (k : SaveStyle) (order : ExifByteOrder) (fresh : Nat → Byte)
    (he : e.Full k.base) (ho : o + 12 ≤ r) (hr : r ≤ d.length)
    (hlt : d.length + 65536 < 4294967296) :
    ∃ d', saveMnoteEntry k order fresh d o e = some d' ∧ d.length ≤ d'.length ∧
      d'.length ≤ d.length + 65536 ∧ EntryAt k order r d' o e ∧ Beside d d' o 12 := by
  obtain ⟨d₁, d₂, d₃, h₁, h₂, h₃, hlen₃, hhead, hbeside⟩ :=
    saveMnoteHead_at (d := d) (o := o) k order e (by omega)
  have hdata := he.length
  have hle := he.size_le
  unfold saveMnoteEntry
  simp only [h₁, h₂, h₃, source_eq hdata, Option.bind_eq_bind, Option.bind_some,
    if_neg (show ¬ 65536 < e.size by omega)]
  have hfinish {d' : List Byte} (hkeep : Beside d₃ d' (o + 8) 4) : Beside d d' o 12 :=
    fun i bs hat h => hkeep _ _ (hbeside _ _ hat h) (by omega)
  split
  · rename_i hlarge
    generalize hodd : (k.pads && decide (e.size % 2 = 1)) = odd
    generalize hts : (if odd = true then d₃.length + e.size + 1 else d₃.length + e.size) = ts
    have hbounds := grown_bounds hle hodd hts
    rw [Nat.mod_eq_of_lt (by omega)]
    have hgrown := Block.length_realloc d₃ ts fresh
    have hkept {i : Nat} {bs : List Byte} (hat : Block.At d₃ i bs) :
        Block.At (Block.realloc d₃ ts fresh) i bs := hat.realloc fresh (by omega)
    generalize Block.realloc d₃ ts fresh = d₄ at hgrown hkept ⊢
    obtain ⟨d₅, h₅, hlen₅, hbeside₅⟩ := padLast_at (d := d₄) odd fun _ => by omega
    obtain ⟨d₆, h₆, hlen₆, hat₆, hbeside₆⟩ := setLong_at (d := d₅) (i := o + 8) (by omega) order
      (k.start + BitVec.ofNat 32 d₃.length)
    obtain ⟨d₇, h₇, hlen₇, hat₇, hbeside₇⟩ :=
      write_at (d := d₆) (i := d₃.length) e.data (by omega)
    rw [h₅, Option.bind_some, h₆, Option.bind_some]
    have hkeep : Beside d₃ d₇ (o + 8) 4 := by
      intro i bs hat h
      have hbound := hat.bound
      have hbefore : odd = true → i + bs.length < d₄.length := fun ho => by
        have hend := hbounds.2.2 ho
        omega
      exact hbeside₇ _ _ (hbeside₆ _ _ (hbeside₅ _ _ (hkept hat) hbefore) h) (by omega)
    refine ⟨d₇, h₇, by omega, by omega, hhead.entryAt hkeep (fun h => by omega) fun _ => ?_,
      hfinish hkeep⟩
    refine ⟨d₃.length, by omega, hbeside₇ _ _ hat₆ ?_, hat₇⟩
    rw [length_longBytes]
    omega
  · rename_i hsmall
    obtain ⟨d₄, h₄, hlen₄, hat₄, hbeside₄⟩ := write_at (d := d₃) (i := o + 8) e.data (by omega)
    rw [h₄, Option.bind_some]
    have hkeep₄ : Beside d₃ d₄ (o + 8) 4 := fun i bs hat h => hbeside₄ _ _ hat (by omega)
    split
    · obtain ⟨d₅, h₅, hlen₅, -, hbeside₅⟩ := write_at (d := d₄) (i := o + 8 + e.size)
        (List.replicate (4 - e.size) 0) (by rw [List.length_replicate]; omega)
      rw [List.length_replicate] at hbeside₅
      have hkeep : Beside d₃ d₅ (o + 8) 4 := fun i bs hat h =>
        hbeside₅ _ _ (hkeep₄ _ _ hat h) (by omega)
      have hin : Block.At d₅ (o + 8) e.data := hbeside₅ _ _ hat₄ (by omega)
      exact ⟨d₅, h₅, by omega, by omega, hhead.entryAt hkeep (fun _ => hin)
        (fun h => (hsmall h).elim), hfinish hkeep⟩
    · exact ⟨d₄, rfl, by omega, by omega, hhead.entryAt hkeep₄ (fun _ => hat₄)
        (fun h => (hsmall h).elim), hfinish hkeep₄⟩

/-- The entries are one after the other, from `o` on. -/
def EntriesAt (k : SaveStyle) (order : ExifByteOrder) (r : Nat) (d : List Byte) :
    Nat → List MnoteEntry → Prop
  | _, [] => True
  | o, e :: es => EntryAt k order r d o e ∧ EntriesAt k order r d (o + 12) es

/-- Another entry is no change to this one. -/
theorem EntryAt.beside {o' n : Nat} (h : EntryAt k order r d o e)
    (hlen : e.data.length = e.size) (hbeside : Beside d d' o' n) (ho : o + 12 ≤ o')
    (hr : o' + n ≤ r) : EntryAt k order r d' o e := by
  constructor
  case tag => exact hbeside _ _ h.tag (by rw [length_shortBytes]; omega)
  case format => exact hbeside _ _ h.format (by rw [length_shortBytes]; omega)
  case components => exact hbeside _ _ h.components (by rw [length_longBytes]; omega)
  case inside =>
    intro hsmall
    exact hbeside _ _ (h.inside hsmall) (.inl (by omega))
  case outside =>
    intro hlarge
    obtain ⟨doff, hdoff, hat, hdata⟩ := h.outside hlarge
    exact ⟨doff, hdoff, hbeside _ _ hat (by rw [length_longBytes]; omega),
      hbeside _ _ hdata (by omega)⟩

/-- Entries stay where they are when something is written beside them. -/
theorem EntriesAt.beside {o' n : Nat} (h : EntriesAt k order r d o es)
    (hes : ∀ e ∈ es, e.Full k.base) (hbeside : Beside d d' o' n) (ho : o + 12 * es.length ≤ o')
    (hr : o' + n ≤ r) : EntriesAt k order r d' o es := by
  induction es generalizing o with
  | nil => trivial
  | cons e es ih =>
    rw [List.length_cons] at ho
    constructor
    · exact h.1.beside (hes e List.mem_cons_self).length hbeside (by omega) hr
    · exact ih h.2 (fun a ha => hes a (List.mem_cons_of_mem e ha)) (by omega)

/-- **Run lemma**: the entries are where they have been saved, and nothing beside them has
changed. -/
theorem saveMnoteEntries_at (k : SaveStyle) (order : ExifByteOrder) (fresh : Nat → Byte)
    (hes : ∀ e ∈ es, e.Full k.base) (ho : o + 12 * es.length ≤ r) (hr : r ≤ d.length)
    (hlt : d.length + es.length * 65536 < 4294967296) :
    ∃ d', saveMnoteEntries k order fresh d o es = some d' ∧ d.length ≤ d'.length ∧
      EntriesAt k order r d' o es ∧ Beside d d' o (12 * es.length) := by
  induction es generalizing d o with
  | nil => exact ⟨d, rfl, Nat.le_refl _, trivial, fun i bs hat _ => hat⟩
  | cons e es ih =>
    rw [List.length_cons] at ho hlt
    rw [Nat.add_one_mul, ← Nat.add_assoc] at hlt
    have he := hes e List.mem_cons_self
    obtain ⟨d₁, h₁, hle₁, hgrows₁, hat₁, hbeside₁⟩ :=
      saveMnoteEntry_at (d := d) (o := o) (r := r) k order fresh he (by omega) hr (by omega)
    obtain ⟨d₂, h₂, hle₂, hat₂, hbeside₂⟩ := ih (fun a ha => hes a (List.mem_cons_of_mem e ha))
      (d := d₁) (o := o + 12) (by omega) (by omega) (by omega)
    refine ⟨d₂, by rw [saveMnoteEntries, h₁]; exact h₂, by omega, ⟨?_, hat₂⟩, ?_⟩
    · exact hat₁.beside he.length hbeside₂ (Nat.le_refl _) (by omega)
    · intro i bs hat h
      rw [List.length_cons] at h
      exact hbeside₂ _ _ (hbeside₁ _ _ hat (by omega)) (by omega)

end Saving

/-! ## The entries are loaded -/

section Loading

variable {d B : List Byte} {order : ExifByteOrder} {k : SaveStyle} {l : LoadStyle}
  {e : MnoteEntry} {es : List MnoteEntry} {o p r : Nat}

/-- The note `d` is at `p` of the data `B`. -/
def NoteAt (B : List Byte) (p : Nat) (d : List Byte) : Prop :=
  ∀ i bs, Block.At d i bs → Block.At B (p + i) bs

/-- What a maker needs to load what it has saved: offsets count from the same place, and what it
does not keep is not there. -/
structure Agrees (k : SaveStyle) (l : LoadStyle) (p spare : Nat) : Prop where
  base : l.base = k.base
  start : (k.start.toNat + l.start) % 4294967296 = p % 4294967296
  spare : l.spareLast = true → 0 < spare

/-- **Step lemma**: an entry that has been saved is loaded. -/
theorem loadMnoteEntry_at (hagrees : Agrees k l p (B.length - (p + d.length)))
    (hnote : NoteAt B p d) (hB : B.length < 4294967296) (he : e.Full k.base)
    (hkept : l.keepsEmpty = true ∨ e.size ≠ 0) (hat : EntryAt k order r d o e) :
    loadMnoteEntry l order B (p + o) = some (some e) := by
  have htag := exifGetShort_of_at (hnote _ _ hat.tag)
  have hformat := exifGetShort_of_at (hnote _ _ hat.format)
  have hcomponents := exifGetLong_of_at (hnote _ _ hat.components)
  have hentry : (⟨((e.tag - k.base).setWidth 16).setWidth 32 + l.base, e.format, e.components,
      []⟩ : MnoteEntry) = { e with data := [] } := by
    rw [hagrees.base, he.tag]
  have hsize : MnoteEntry.size { e with data := [] } = e.size := rfl
  rw [← Nat.add_assoc] at hformat hcomponents
  unfold loadMnoteEntry
  simp only [htag, hformat, hcomponents, Option.bind_eq_bind, Option.bind_some, hentry, hsize]
  have hdata := he.length
  by_cases hzero : e.size = 0
  · have hnil : e.data = [] := List.eq_nil_of_length_eq_zero (by omega)
    rw [if_pos hzero, if_pos (hkept.resolve_right (not_not.mpr hzero)), ← hnil]
  · rw [if_neg hzero]
    obtain ⟨doff, hoff, hvalue⟩ : ∃ doff, mnoteDataOffset l order B (p + o) e.size =
        some (p + doff) ∧ Block.At d doff e.data := by
      unfold mnoteDataOffset
      by_cases hlarge : 4 < e.size
      · obtain ⟨doff, -, hlong, hvalue⟩ := hat.outside hlarge
        have hget := exifGetLong_of_at (hnote _ _ hlong)
        have hbound := (hnote _ _ hvalue).bound
        rw [← Nat.add_assoc] at hget
        refine ⟨doff, ?_, hvalue⟩
        rw [if_pos hlarge, hget, Option.map_some, BitVec.toNat_add, BitVec.toNat_ofNat]
        have hstart := hagrees.start
        congr 1
        omega
      · exact ⟨o + 8, by rw [if_neg hlarge, Nat.add_assoc], hat.inside (by omega)⟩
    have hin := (hnote _ _ hvalue).bound
    have hbound := hvalue.bound
    have hfar : tooFar B.length (p + doff) e.size = false := by
      rw [tooFar_eq_false_iff hB]
      omega
    have hlast : (l.spareLast && decide (B.length = (p + doff + e.size) % 4294967296)) = false := by
      cases hspare : l.spareLast with
      | false => rfl
      | true =>
        have := hagrees.spare hspare
        rw [Bool.true_and, decide_eq_false_iff_not]
        omega
    have hread : Block.read B (p + doff) e.size = some e.data := hdata ▸ hnote _ _ hvalue
    rw [hoff, Option.bind_some, if_neg (by rw [hfar, hlast]; decide), hread, Option.bind_some,
      hagrees.base, he.tag]

/-- **Run lemma**: the entries that have been saved are loaded. -/
theorem loadMnoteEntries_at (hagrees : Agrees k l p (B.length - (p + d.length)))
    (hnote : NoteAt B p d) (hB : B.length < 4294967296) (hes : ∀ e ∈ es, e.Full k.base)
    (hkept : ∀ e ∈ es, l.keepsEmpty = true ∨ e.size ≠ 0) (hat : EntriesAt k order r d o es)
    (hin : p + o + 12 * es.length ≤ B.length) :
    loadMnoteEntries l order B es.length (p + o) = some es := by
  induction es generalizing o with
  | nil => rfl
  | cons e es ih =>
    rw [List.length_cons] at hin
    have hfar : tooFar B.length (p + o) 12 = false := by
      rw [tooFar_eq_false_iff hB]
      omega
    have hone := loadMnoteEntry_at hagrees hnote hB (hes e List.mem_cons_self)
      (hkept e List.mem_cons_self) hat.1
    have hrest := ih (fun a ha => hes a (List.mem_cons_of_mem e ha))
      (fun a ha => hkept a (List.mem_cons_of_mem e ha)) hat.2 (by omega)
    rw [List.length_cons, loadMnoteEntries, if_neg (by rw [hfar]; decide), hone,
      Option.bind_eq_bind, Option.bind_some, Nat.add_assoc, hrest]
    rfl

/-- A directory that lies in the data is loaded, entry by entry. -/
theorem loadMnoteDirectory_at (hagrees : Agrees k l p (B.length - (p + d.length)))
    (hnote : NoteAt B p d) (hB : B.length < 4294967296) (hes : ∀ e ∈ es, e.Full k.base)
    (hkept : ∀ e ∈ es, l.keepsEmpty = true ∨ e.size ≠ 0) (hlen : es.length < 65536)
    (hcount : Block.At d o (shortBytes order (BitVec.ofNat 16 es.length)))
    (hat : EntriesAt k order r d (o + 2) es) (hin : o + 2 + 12 * es.length ≤ d.length)
    (hend : p + d.length ≤ B.length) :
    loadMnoteDirectory l order B (p + o) = some es := by
  have hget := exifGetShort_of_at (hnote _ _ hcount)
  have hn : (BitVec.ofNat 16 es.length).toNat = es.length := by
    rw [BitVec.toNat_ofNat]
    exact Nat.mod_eq_of_lt hlen
  rw [loadMnoteDirectory, hget, Option.bind_eq_bind, Option.bind_some, hn, Nat.add_assoc]
  exact loadMnoteEntries_at hagrees hnote hB hes hkept hat (by omega)

/-- A note that has been saved lies in the data at its offset. -/
theorem noteAt (pre d post : List Byte) : NoteAt (pre ++ d ++ post) pre.length d := by
  intro i bs hat
  rw [List.append_assoc]
  exact (Block.at_append_left_iff pre).mpr (hat.extend post)

end Loading

/-! ## The round trips -/

section RoundTrip

variable {fresh : Nat → Byte}

/-- What stands before a note that is at its offset. -/
def AtOffset {ν : Type} (n : MnoteData ν) (pre : List Byte) : Prop :=
  pre.length = 6 + n.offset.toNat

/-- This offset is where the loader looks. -/
theorem AtOffset.datao {ν : Type} {n : MnoteData ν} {pre rest : List Byte} (h : AtOffset n pre)
    (hlt : (pre ++ rest).length < 4294967296) : n.datao = pre.length := by
  rw [List.length_append] at hlt
  rw [MnoteData.datao, ← h]
  exact Nat.mod_eq_of_lt (by omega)

/-- A Canon note comes back, whatever has been loaded before. Canon's loader keeps no entries
without bytes. -/
theorem canonLoad_save (fresh : Nat → Byte) (n : MnoteData Unit)
    (hes : ∀ e ∈ n.entries, e.Full 0 ∧ e.size ≠ 0) (hcount : n.entries.length ≤ 65524) :
    ∃ d, canonSave fresh n = some d ∧ ∀ old pre post, AtOffset n pre →
      (pre ++ d ++ post).length < 4294967296 →
        canonLoad { n with entries := old } (pre ++ d ++ post) = some n := by
  have hfull : ∀ e ∈ n.entries, e.Full 0 := fun e he => (hes e he).1
  obtain ⟨d₁, h₁, hlen₁, hat₁, -⟩ := setShort_at
    (d := List.replicate (2 + n.entries.length * 12 + 4) 0) (i := 0)
    (by rw [List.length_replicate]; omega) n.order n.count
  rw [List.length_replicate] at hlen₁
  obtain ⟨d, h, hle, hat, hbeside⟩ := saveMnoteEntries_at (d := d₁) (o := 2)
    (r := 2 + 12 * n.entries.length) ⟨0, n.offset, true, true⟩ n.order fresh hfull
    (Nat.le_refl _) (by omega) (by omega)
  have hcount' := hbeside _ _ hat₁ (.inl (by rw [length_shortBytes]))
  refine ⟨d, by rw [canonSave, h₁]; exact h, fun old pre post hpre hlt => ?_⟩
  have hB : pre.length + d.length ≤ (pre ++ d ++ post).length := by
    simp only [List.length_append]
    omega
  have hdatao : n.datao = pre.length := hpre.datao (by rwa [List.append_assoc] at hlt)
  have hfar : tooFar (pre ++ d ++ post).length n.datao 2 = false := by
    rw [tooFar_eq_false_iff hlt, hdatao]
    omega
  have hload : loadMnoteDirectory ⟨0, 6, false, false⟩ n.order (pre ++ d ++ post) (pre.length + 0) =
      some n.entries := by
    refine loadMnoteDirectory_at (k := ⟨0, n.offset, true, true⟩)
      ⟨rfl, ?_, fun h => by cases h⟩
      (noteAt pre d post) hlt hfull (fun e he => .inr (hes e he).2) (by omega) hcount' hat
      (by omega) hB
    show (n.offset.toNat + 6) % _ = _
    rw [hpre, Nat.add_comm]
  rw [canonLoad]
  show (if tooFar _ n.datao 2 = true then _ else _) = _
  rw [if_neg (by rw [hfar]; decide)]
  show (loadMnoteDirectory _ n.order _ n.datao).bind _ = _
  rw [hdatao, ← Nat.add_zero pre.length, hload]
  rfl

/-- A value in the entry, and one of an odd size behind the directory. -/
def sampleEntries (base : BitVec 32) : List MnoteEntry :=
  [⟨base + 1, 3, 1, [5, 0]⟩, ⟨base + 6, 2, 5, [0x41, 0x42, 0x43, 0x44, 0]⟩]

theorem sampleEntries_full (base : BitVec 32) :
    ∀ e ∈ sampleEntries base, e.Full base ∧ e.size ≠ 0 := by
  have htag (t : BitVec 32) (ht : (t.setWidth 16).setWidth 32 = t) :
      ((base + t - base).setWidth 16).setWidth 32 + base = base + t := by
    rw [BitVec.add_comm base t, BitVec.add_sub_cancel, ht]
  intro e he
  simp only [sampleEntries, List.mem_cons, List.not_mem_nil, or_false] at he
  rcases he with rfl | rfl
  · exact ⟨⟨rfl, show 2 ≤ 65536 by omega, htag 1 rfl⟩, show 2 ≠ 0 by omega⟩
  · exact ⟨⟨rfl, show 5 ≤ 65536 by omega, htag 6 rfl⟩, show 5 ≠ 0 by omega⟩

theorem canonLoad_save_sample :
    ∃ d, canonSave (fun _ => 0xaa) ⟨sampleEntries 0, .motorola, 44, ()⟩ = some d ∧
      ∀ old pre post, AtOffset (⟨sampleEntries 0, .motorola, 44, ()⟩ : MnoteData Unit) pre →
        (pre ++ d ++ post).length < 4294967296 →
          canonLoad ⟨old, .motorola, 44, ()⟩ (pre ++ d ++ post) =
            some ⟨sampleEntries 0, .motorola, 44, ()⟩ :=
  canonLoad_save (fun _ => 0xaa) ⟨sampleEntries 0, .motorola, 44, ()⟩
    (sampleEntries_full 0) (by decide)

/-- A Fuji note comes back when there is something behind it: Fuji's loader has no entry end with
the data. It takes the byte order to be Intel's. -/
theorem fujiLoad_save (fresh : Nat → Byte) (n : MnoteData Unit) (horder : n.order = .intel)
    (hes : ∀ e ∈ n.entries, e.Full 0) (hcount : n.entries.length ≤ 65524) :
    ∃ d, fujiSave fresh n = some d ∧ ∀ old order pre post, AtOffset n pre → post ≠ [] →
      (pre ++ d ++ post).length < 4294967296 →
        fujiLoad { n with entries := old, order := order } (pre ++ d ++ post) = some n := by
  have hheader : fujiHeader.length = 8 := rfl
  obtain ⟨d₁, h₁, hlen₁, -, -⟩ := write_at
    (d := List.replicate (8 + 4 + 2 + n.entries.length * 12 + 4) 0) (i := 0) fujiHeader
    (by rw [List.length_replicate]; omega)
  rw [List.length_replicate] at hlen₁
  obtain ⟨d₂, h₂, hlen₂, hat₂, -⟩ := setLong_at (d := d₁) (i := 8) (by omega) n.order 12
  obtain ⟨d₃, h₃, hlen₃, hat₃, hbeside₃⟩ :=
    setShort_at (d := d₂) (i := 8 + 4) (by omega) n.order n.count
  obtain ⟨d, h, hle, hat, hbeside⟩ := saveMnoteEntries_at (d := d₃) (o := 8 + 4 + 2)
    (r := 8 + 4 + 2 + 12 * n.entries.length) ⟨0, 0, true, false⟩ n.order fresh hes
    (Nat.le_refl _) (by omega) (by omega)
  have hcount' := hbeside _ _ hat₃ (.inl (by rw [length_shortBytes]))
  have hfirst := hbeside _ _ (hbeside₃ _ _ hat₂ (.inl (by rw [length_longBytes])))
    (.inl (by rw [length_longBytes]; omega))
  refine ⟨d, ?_, fun old order pre post hpre hpost hlt => ?_⟩
  · rw [fujiSave, h₁, Option.bind_eq_bind, Option.bind_some, h₂, Option.bind_some, h₃]
    exact h
  · have hspare := List.length_pos_iff.mpr hpost
    have hlen : (pre ++ d ++ post).length = pre.length + d.length + post.length := by
      simp only [List.length_append]
    have hdatao : n.datao = pre.length := hpre.datao (by rwa [List.append_assoc] at hlt)
    have hfar : tooFar (pre ++ d ++ post).length n.datao 12 = false := by
      rw [tooFar_eq_false_iff hlt, hdatao]
      omega
    have hfar' : tooFar (pre ++ d ++ post).length ((n.datao + 12) % 4294967296) 2 = false := by
      rw [tooFar_eq_false_iff hlt, hdatao]
      omega
    rw [horder] at hfirst hcount' hat
    have hget := exifGetLong_of_at (noteAt pre d post _ _ hfirst)
    have hload : loadMnoteDirectory ⟨0, n.datao, true, true⟩ .intel (pre ++ d ++ post)
        (pre.length + (8 + 4)) = some n.entries := by
      refine loadMnoteDirectory_at (k := ⟨0, 0, true, false⟩) ⟨rfl, ?_, fun _ => by omega⟩
        (noteAt pre d post) hlt hes (fun e _ => .inl rfl) (by omega) hcount' hat (by omega)
        (by omega)
      rw [hdatao]
      show (0 + pre.length) % _ = _
      rw [Nat.zero_add]
    have hplace : (n.datao + (12 : BitVec 32).toNat) % 4294967296 = pre.length + (8 + 4) := by
      rw [hdatao]
      show (pre.length + 12) % _ = _
      omega
    rw [fujiLoad]
    show (if tooFar _ n.datao 12 = true then _ else (exifGetLong _ (n.datao + 8) .intel).bind _) = _
    rw [if_neg (by rw [hfar]; decide), hdatao, hget, Option.bind_some]
    show (if tooFar _ ((n.datao + 12) % 4294967296) 2 = true then _ else
      (loadMnoteDirectory ⟨0, n.datao, true, true⟩ .intel _
        ((n.datao + (12 : BitVec 32).toNat) % 4294967296)).bind _) = _
    rw [if_neg (by rw [hfar']; decide), hplace, hload, Option.bind_some, ← horder]

theorem fujiLoad_save_sample :
    ∃ d, fujiSave (fun _ => 0xaa) ⟨sampleEntries 0, .intel, 44, ()⟩ = some d ∧
      ∀ old order pre post, AtOffset (⟨sampleEntries 0, .intel, 44, ()⟩ : MnoteData Unit) pre →
        post ≠ [] → (pre ++ d ++ post).length < 4294967296 →
          fujiLoad ⟨old, order, 44, ()⟩ (pre ++ d ++ post) =
            some ⟨sampleEntries 0, .intel, 44, ()⟩ :=
  fujiLoad_save (fun _ => 0xaa) ⟨sampleEntries 0, .intel, 44, ()⟩ rfl
    (fun e he => (sampleEntries_full _ e he).1) (by decide)

/-- The bytes before the number of entries. -/
def PentaxVersion.head (order : ExifByteOrder) : PentaxVersion → List Byte
  | .pentaxV1 => []
  | .pentaxV2 => pentaxHeader ++ shortBytes order 0
  | .pentaxV3 => pentaxHeader ++ orderMark order
  | .casioV2 => casioHeader ++ shortBytes order 0

/-- The number for the byte order is written as its mark. -/
theorem orderNumber_bytes (order : ExifByteOrder) :
    shortBytes order (orderNumber order) = orderMark order := by
  cases order <;> decide

/-- The header lies at the start of the note. -/
theorem pentaxWriteHeader_at {d : List Byte} (order : ExifByteOrder) (version : PentaxVersion)
    (h : version.skipped ≤ d.length) :
    ∃ c, pentaxWriteHeader d order version = some c ∧ c.length = d.length ∧
      Block.At c 0 (version.head order) := by
  have hmagic (magic : List Byte) (hlen : magic.length = 4) (v : BitVec 16) (h6 : 6 ≤ d.length) :
      ∃ c, ((Block.write d 0 magic).bind fun d => exifSetShort d 4 order v) = some c ∧
        c.length = d.length ∧ Block.At c 0 (magic ++ shortBytes order v) := by
    obtain ⟨d₁, h₁, hlen₁, hat₁, -⟩ := write_at (d := d) (i := 0) magic (by omega)
    obtain ⟨d₂, h₂, hlen₂, hat₂, hbeside₂⟩ := setShort_at (d := d₁) (i := 4) (by omega) order v
    refine ⟨d₂, by rw [h₁]; exact h₂, by omega, Block.At.append_iff.mpr ⟨?_, ?_⟩⟩
    · exact hbeside₂ _ _ hat₁ (by omega)
    · rwa [hlen]
  cases version with
  | pentaxV1 => exact ⟨d, rfl, rfl, Block.at_nil_iff.mpr (Nat.zero_le _)⟩
  | pentaxV2 => exact hmagic pentaxHeader rfl 0 h
  | pentaxV3 =>
    have hmark := hmagic pentaxHeader rfl (orderNumber order) h
    rwa [orderNumber_bytes] at hmark
  | casioV2 => exact hmagic casioHeader rfl 0 h

/-- A number of entries that does not begin as a header does. -/
def PlainCount (n : MnoteData (Option PentaxVersion)) : Prop :=
  ∀ head ∈ [pentaxHeader, casioHeader], shortBytes n.order n.count ≠ head.take 2

/-- The version and the byte order of a note are found from its first bytes. -/
theorem pentaxVariant_eq {n : MnoteData (Option PentaxVersion)} {version : PentaxVersion}
    {B : List Byte} {p : Nat} (hp : p + 8 ≤ B.length)
    (hat : Block.At B p (version.head n.order ++ shortBytes n.order n.count))
    (hplain : version = .pentaxV1 → PlainCount n) :
    ∃ head mark, Block.read B p 4 = some head ∧ Block.read B (p + 4) 2 = some mark ∧
      pentaxVariant n.order head mark = (version, n.order) := by
  have hhead (magic mark rest : List Byte) (hmagic : magic.length = 4) (hmark : mark.length = 2)
      (h : Block.At B p (magic ++ mark ++ rest)) :
      Block.read B p 4 = some magic ∧ Block.read B (p + 4) 2 = some mark := by
    rw [Block.At.append_iff, Block.At.append_iff, hmagic] at h
    exact ⟨hmagic ▸ h.1.1, hmark ▸ h.1.2⟩
  cases version with
  | pentaxV2 =>
    obtain ⟨h4, h2⟩ := hhead pentaxHeader _ _ rfl (length_shortBytes _ _) hat
    exact ⟨_, _, h4, h2, by cases n.order <;> rfl⟩
  | pentaxV3 =>
    obtain ⟨h4, h2⟩ := hhead pentaxHeader _ _ rfl (by cases n.order <;> rfl) hat
    exact ⟨_, _, h4, h2, by cases n.order <;> rfl⟩
  | casioV2 =>
    obtain ⟨h4, h2⟩ := hhead casioHeader _ _ rfl (length_shortBytes _ _) hat
    exact ⟨_, _, h4, h2, by cases n.order <;> rfl⟩
  | pentaxV1 =>
    have hfirst : Block.read B p 2 = some (shortBytes n.order n.count) := by
      have h : Block.At B p (shortBytes n.order n.count) := hat
      rwa [Block.At, length_shortBytes] at h
    rw [Block.read_isSome (by omega), Option.some.injEq] at hfirst
    have hne : ∀ head ∈ [pentaxHeader, casioHeader], (B.drop p).take 4 ≠ head := by
      intro head hmem heq
      refine hplain rfl head hmem ?_
      rw [← heq, List.take_take, ← hfirst]
      rfl
    refine ⟨_, _, Block.read_isSome (by omega), Block.read_isSome (by omega), ?_⟩
    rw [pentaxVariant, if_neg (hne _ List.mem_cons_self),
      if_neg (hne _ (List.mem_cons_of_mem _ List.mem_cons_self))]

/-- A Pentax or Casio note comes back. A note of the first version has nothing before the number
of entries, which must not look like a header. -/
theorem pentaxLoad_save (fresh : Nat → Byte) (n : MnoteData (Option PentaxVersion))
    {version : PentaxVersion} (hversion : n.version = some version)
    (hes : ∀ e ∈ n.entries, e.Full version.base) (hcount : n.entries.length ≤ 65524)
    (hplain : version = .pentaxV1 → n.entries ≠ [] ∧ PlainCount n) :
    ∃ d, pentaxSave fresh n = some d ∧ ∀ old oldVersion pre post, AtOffset n pre →
      (pre ++ d ++ post).length < 4294967296 →
        pentaxLoad { n with entries := old, version := oldVersion } (pre ++ d ++ post) =
          some n := by
  have hskipped : version.skipped ≤ 6 := by cases version <;> decide
  have hheadlen : (version.head n.order).length = version.skipped := by
    cases version <;> cases n.order <;> rfl
  have hlen₀ := List.length_replicate (n := version.skipped + 2 + n.entries.length * 12 + 4)
    (a := (0 : Byte))
  obtain ⟨d₁, h₁, hlen₁, hat₁⟩ := pentaxWriteHeader_at
    (d := List.replicate (version.skipped + 2 + n.entries.length * 12 + 4) 0) n.order version
    (by omega)
  obtain ⟨d₂, h₂, hlen₂, hat₂, hbeside₂⟩ :=
    setShort_at (d := d₁) (i := version.skipped) (by omega) n.order n.count
  obtain ⟨d₃, h₃, hle₃, hat₃, hbeside₃⟩ := saveMnoteEntries_at (d := d₂)
    (o := version.skipped + 2) (r := version.skipped + 2 + n.entries.length * 12 + 4)
    ⟨version.base, n.offset, false, false⟩ n.order fresh hes (by omega) (by omega) (by omega)
  obtain ⟨d, h, hlen, -, hbeside⟩ := setLong_at (d := d₃)
    (i := version.skipped + 2 + n.entries.length * 12) (by omega) n.order 0
  have hentries := hat₃.beside hes hbeside (by omega) (by omega)
  have hhead : Block.At d 0 (version.head n.order ++ shortBytes n.order n.count) := by
    have hkept {i : Nat} {bs : List Byte} (hat : Block.At d₂ i bs)
        (hin : i + bs.length ≤ version.skipped + 2) : Block.At d i bs :=
      hbeside _ _ (hbeside₃ _ _ hat (by omega)) (by omega)
    rw [Block.At.append_iff, hheadlen]
    constructor
    · exact hkept (hbeside₂ _ _ hat₁ (by omega)) (by omega)
    · rw [Nat.zero_add]
      exact hkept hat₂ (by rw [length_shortBytes])
  refine ⟨d, ?_, fun old oldVersion pre post hpre hlt => ?_⟩
  · rw [pentaxSave, hversion]
    dsimp only
    rw [h₁, Option.bind_eq_bind, Option.bind_some, h₂, Option.bind_some, h₃, Option.bind_some, h]
  · have hB : pre.length + d.length ≤ (pre ++ d ++ post).length := by
      simp only [List.length_append]
      omega
    have hdatao : n.datao = pre.length := hpre.datao (by rwa [List.append_assoc] at hlt)
    have hlong : version.skipped + 2 + n.entries.length * 12 + 4 ≤ d.length := by omega
    have h8 : 8 ≤ d.length := by
      by_cases hv : version = .pentaxV1
      · have hpos := List.length_pos_iff.mpr (hplain hv).1
        omega
      · have hsix : version.skipped = 6 := by
          cases version with
          | pentaxV1 => exact (hv rfl).elim
          | pentaxV2 | pentaxV3 | casioV2 => rfl
        omega
    have hfar : tooFar (pre ++ d ++ post).length n.datao 8 = false := by
      rw [tooFar_eq_false_iff hlt, hdatao]
      omega
    obtain ⟨head, mark, h4, h2, hvariant⟩ := pentaxVariant_eq (p := pre.length) (by omega)
      (noteAt pre d post _ _ hhead) fun hv => (hplain hv).2
    rw [Block.At.append_iff, hheadlen, Nat.zero_add] at hhead
    have hload : loadMnoteDirectory ⟨version.base, 6, true, false⟩ n.order (pre ++ d ++ post)
        (pre.length + version.skipped) = some n.entries := by
      refine loadMnoteDirectory_at (k := ⟨version.base, n.offset, false, false⟩)
        ⟨rfl, ?_, fun h => by cases h⟩
        (noteAt pre d post) hlt hes (fun e _ => .inl rfl) (by omega) hhead.2 hentries (by omega)
        hB
      show (n.offset.toNat + 6) % _ = _
      rw [hpre, Nat.add_comm]
    rw [pentaxLoad]
    show (if tooFar _ n.datao 8 = true then _ else (Block.read _ n.datao 4).bind _) = _
    rw [if_neg (by rw [hfar]; decide), hdatao, h4, Option.bind_some]
    show (Block.read _ (n.datao + 4) 2).bind _ = _
    rw [hdatao, h2, Option.bind_some]
    dsimp only
    rw [hvariant]
    show (loadMnoteDirectory _ n.order _ (n.datao + version.skipped)).bind _ = _
    rw [hdatao, hload, Option.bind_some, ← hversion]

theorem pentaxLoad_save_sample :
    ∃ d, pentaxSave (fun _ => 0xaa) ⟨sampleEntries 0x4000, .intel, 44, some .casioV2⟩ = some d ∧
      ∀ old oldVersion pre post, AtOffset
          (⟨sampleEntries 0x4000, .intel, 44, some .casioV2⟩ : MnoteData (Option PentaxVersion))
            pre →
        (pre ++ d ++ post).length < 4294967296 →
          pentaxLoad ⟨old, .intel, 44, oldVersion⟩ (pre ++ d ++ post) =
            some ⟨sampleEntries 0x4000, .intel, 44, some .casioV2⟩ :=
  pentaxLoad_save (fun _ => 0xaa) ⟨sampleEntries 0x4000, .intel, 44, some .casioV2⟩ rfl
    (fun e he => (sampleEntries_full _ e he).1) (by decide) fun h => by cases h

/-! ### Olympus -/

/-- The versions that can be found again. -/
def OlympusVersion.Known (version : OlympusVersion) : Prop :=
  version ≠ .unrecognized ∧ version ≠ .nikonV0

/-- What the loader looks at in the header of a note. -/
def HeaderAt (order : ExifByteOrder) (d : List Byte) (version : OlympusVersion) : Prop :=
  Block.At d 0 version.text ∧
    match version with
    | .olympusV1 | .sanyoV1 | .epsonV1 => Block.At d 6 (shortBytes order 1)
    | .olympusV2 => Block.At d 8 (orderMark order)
    | .nikonV1 => Block.At d 6 [version.code]
    | .nikonV2 => Block.At d 6 [version.code] ∧ Block.At d 10 (orderMark order) ∧
        Block.At d 14 (longBytes order 8)
    | .nikonV0 | .unrecognized => True

theorem length_orderMark (order : ExifByteOrder) : (orderMark order).length = 2 := by
  cases order <;> rfl

/-- All of the header is before the number of entries. -/
theorem HeaderAt.mono {order : ExifByteOrder} {d d' : List Byte} {version : OlympusVersion}
    (h : HeaderAt order d version)
    (hkept : ∀ i bs, Block.At d i bs → i + bs.length ≤ version.skipped → Block.At d' i bs) :
    HeaderAt order d' version := by
  constructor
  · refine hkept _ _ h.1 ?_
    cases version <;> decide
  · have hrest := h.2
    cases version with
    | olympusV1 | sanyoV1 | epsonV1 =>
      exact hkept _ _ hrest (by rw [length_shortBytes]; decide)
    | olympusV2 => exact hkept _ _ hrest (by rw [length_orderMark]; decide)
    | nikonV1 => exact hkept _ _ hrest (by decide)
    | nikonV2 =>
      refine ⟨hkept _ _ hrest.1 (by decide), hkept _ _ hrest.2.1 ?_, hkept _ _ hrest.2.2 ?_⟩
      · rw [length_orderMark]
        decide
      · rw [length_longBytes]
        decide
    | nikonV0 | unrecognized => trivial

/-- The header lies at the start of the note. -/
theorem olympusWriteHeader_at {d : List Byte} (order : ExifByteOrder) (n : Nat)
    {version : OlympusVersion} (hknown : version.Known)
    (h : version.skipped + 2 + n * 12 + version.spare ≤ d.length) :
    ∃ c, olympusWriteHeader d order n version = some c ∧ c.length = d.length ∧
      HeaderAt order c version := by
  have hv1 (text : List Byte) (hlen : text.length = 6) (h8 : 8 ≤ d.length) :
      ∃ c, ((Block.write d 0 text).bind fun d => exifSetShort d 6 order 1) = some c ∧
        c.length = d.length ∧ Block.At c 0 text ∧ Block.At c 6 (shortBytes order 1) := by
    obtain ⟨d₁, h₁, hlen₁, hat₁, -⟩ := write_at (d := d) (i := 0) text (by omega)
    obtain ⟨d₂, h₂, hlen₂, hat₂, hbeside₂⟩ := setShort_at (d := d₁) (i := 6) (by omega) order 1
    exact ⟨d₂, by rw [h₁]; exact h₂, by omega, hbeside₂ _ _ hat₁ (by omega), hat₂⟩
  cases version with
  | unrecognized => exact (hknown.1 rfl).elim
  | nikonV0 => exact (hknown.2 rfl).elim
  | olympusV1 => exact hv1 _ rfl (by simp only [OlympusVersion.skipped] at h; omega)
  | sanyoV1 => exact hv1 _ rfl (by simp only [OlympusVersion.skipped] at h; omega)
  | epsonV1 => exact hv1 _ rfl (by simp only [OlympusVersion.skipped] at h; omega)
  | olympusV2 =>
    simp only [OlympusVersion.skipped, OlympusVersion.spare] at h
    have htext : (OlympusVersion.text .olympusV2).length = 8 := rfl
    obtain ⟨d₁, h₁, hlen₁, hat₁, -⟩ :=
      write_at (d := d) (i := 0) (OlympusVersion.text .olympusV2) (by omega)
    obtain ⟨d₂, h₂, hlen₂, hat₂, hbeside₂⟩ :=
      setShort_at (d := d₁) (i := 8) (by omega) order (orderNumber order)
    obtain ⟨d₃, h₃, hlen₃, -, hbeside₃⟩ := setShort_at (d := d₂) (i := 10) (by omega) order 3
    refine ⟨d₃, ?_, by omega, ?_, ?_⟩
    · rw [olympusWriteHeader, h₁, Option.bind_eq_bind, Option.bind_some, h₂, Option.bind_some, h₃]
    · exact hbeside₃ _ _ (hbeside₂ _ _ hat₁ (by omega)) (by omega)
    · rw [orderNumber_bytes] at hat₂
      exact hbeside₃ _ _ hat₂ (by rw [length_orderMark]; omega)
  | nikonV1 =>
    simp only [OlympusVersion.skipped, OlympusVersion.spare] at h
    have htext : (OlympusVersion.text .nikonV1).length = 6 := rfl
    obtain ⟨d₁, h₁, hlen₁, hat₁, -⟩ :=
      write_at (d := d) (i := 0) (OlympusVersion.text .nikonV1) (by omega)
    obtain ⟨d₂, h₂, hlen₂, hat₂, hbeside₂⟩ := write_at (d := d₁) (i := 6)
      [OlympusVersion.code .nikonV1] (by rw [List.length_singleton]; omega)
    obtain ⟨d₃, h₃, hlen₃, -, hbeside₃⟩ :=
      setLong_at (d := d₂) (i := 6 + 2 + 2 + n * 12) (by omega) order 0
    refine ⟨d₃, ?_, by omega, ?_, ?_⟩
    · rw [olympusWriteHeader, h₁, Option.bind_eq_bind, Option.bind_some, h₂, Option.bind_some, h₃]
    · exact hbeside₃ _ _ (hbeside₂ _ _ hat₁ (by omega)) (by omega)
    · exact hbeside₃ _ _ hat₂ (by rw [List.length_singleton]; omega)
  | nikonV2 =>
    simp only [OlympusVersion.skipped, OlympusVersion.spare] at h
    have htext : (OlympusVersion.text .nikonV2).length = 6 := rfl
    obtain ⟨d₁, h₁, hlen₁, hat₁, -⟩ :=
      write_at (d := d) (i := 0) (OlympusVersion.text .nikonV2) (by omega)
    obtain ⟨d₂, h₂, hlen₂, hat₂, hbeside₂⟩ := write_at (d := d₁) (i := 6)
      [OlympusVersion.code .nikonV2] (by rw [List.length_singleton]; omega)
    obtain ⟨d₃, h₃, hlen₃, hat₃, hbeside₃⟩ :=
      setShort_at (d := d₂) (i := 10) (by omega) order (orderNumber order)
    obtain ⟨d₄, h₄, hlen₄, -, hbeside₄⟩ := setShort_at (d := d₃) (i := 12) (by omega) order 0x2a
    obtain ⟨d₅, h₅, hlen₅, hat₅, hbeside₅⟩ := setLong_at (d := d₄) (i := 14) (by omega) order 8
    obtain ⟨d₆, h₆, hlen₆, -, hbeside₆⟩ :=
      setLong_at (d := d₅) (i := 6 + 2 + 2 + 8 + 2 + n * 12) (by omega) order 0
    -- nothing that is written later stands before the tenth byte
    have hkept {i : Nat} {bs : List Byte} (hat : Block.At d₂ i bs) (hin : i + bs.length ≤ 10) :
        Block.At d₆ i bs :=
      hbeside₆ _ _ (hbeside₅ _ _ (hbeside₄ _ _ (hbeside₃ _ _ hat (by omega)) (by omega))
        (by omega)) (by omega)
    refine ⟨d₆, ?_, by omega, ?_, ?_, ?_, ?_⟩
    · rw [olympusWriteHeader]
      · rw [h₁, Option.bind_eq_bind, Option.bind_some, h₂, Option.bind_some, h₃, Option.bind_some,
          h₄, Option.bind_some, h₅, Option.bind_some, h₆]
      all_goals
        intro h
        cases h
    · exact hkept (hbeside₂ _ _ hat₁ (by omega)) (by omega)
    · exact hkept hat₂ (by rw [List.length_singleton]; omega)
    · rw [orderNumber_bytes] at hat₃
      have hlen := length_orderMark order
      exact hbeside₆ _ _ (hbeside₅ _ _ (hbeside₄ _ _ hat₃ (by omega)) (by omega)) (by omega)
    · exact hbeside₆ _ _ hat₅ (by rw [length_longBytes]; omega)

/-- What lies at the start are the first bytes. -/
theorem take_of_at {d bs : List Byte} (h : Block.At d 0 bs) : d.take bs.length = bs := by
  have hbound := h.bound
  rw [Block.At, Block.read_isSome hbound, List.drop_zero] at h
  exact Option.some.inj h

/-- The version is found from the text at the beginning. -/
theorem identifyVariant_of_header {order : ExifByteOrder} {b : List Byte}
    {version : OlympusVersion} (hknown : version.Known) (h : HeaderAt order b version)
    (hlen : 8 ≤ b.length) : identifyVariant b = version := by
  have htext := take_of_at h.1
  -- only one version has a text of eight bytes
  have hshort (hsix : b.take 6 ≠ (OlympusVersion.text .olympusV2).take 6) :
      ¬ (8 ≤ b.length ∧ b.take 8 = OlympusVersion.text .olympusV2) := by
    intro heq
    refine hsix ?_
    rw [← heq.2, List.take_take]
    rfl
  have hother {text other : List Byte} (ht : b.take 6 = text) (hne : text ≠ other) :
      ¬ (8 ≤ b.length ∧ b.take 6 = other) := fun heq => hne (ht.symm.trans heq.2)
  unfold identifyVariant
  cases version with
  | unrecognized => exact (hknown.1 rfl).elim
  | nikonV0 => exact (hknown.2 rfl).elim
  | olympusV2 => rw [if_pos ⟨hlen, htext⟩]
  | olympusV1 =>
    have hsix : b.take 6 = OlympusVersion.text .olympusV1 := htext
    rw [if_neg (hshort (by rw [hsix]; decide)), if_pos ⟨hlen, hsix⟩]
  | sanyoV1 =>
    have hsix : b.take 6 = OlympusVersion.text .sanyoV1 := htext
    rw [if_neg (hshort (by rw [hsix]; decide)), if_neg (hother hsix (by decide)),
      if_pos ⟨hlen, hsix⟩]
  | epsonV1 =>
    have hsix : b.take 6 = OlympusVersion.text .epsonV1 := htext
    rw [if_neg (hshort (by rw [hsix]; decide)), if_neg (hother hsix (by decide)),
      if_neg (hother hsix (by decide)), if_pos ⟨hlen, hsix⟩]
  | nikonV1 =>
    have hsix : b.take 6 = OlympusVersion.text .nikonV1 := htext
    have hcode : b[6]? = some 1 := (Block.At.cons_iff.mp h.2).1
    rw [if_neg (hshort (by rw [hsix]; decide)), if_neg (hother hsix (by decide)),
      if_neg (hother hsix (by decide)), if_neg (hother hsix (by decide)), if_pos ⟨hlen, hsix⟩,
      if_pos hcode]
  | nikonV2 =>
    have hsix : b.take 6 = OlympusVersion.text .nikonV1 := htext
    have hcode : b[6]? = some 2 := (Block.At.cons_iff.mp h.2.1).1
    rw [if_neg (hshort (by rw [hsix]; decide)), if_neg (hother hsix (by decide)),
      if_neg (hother hsix (by decide)), if_neg (hother hsix (by decide)), if_pos ⟨hlen, hsix⟩,
      if_neg (by rw [hcode]; decide), if_pos hcode]

/-- Where the offsets of a note that is loaded from `p` count from. -/
def OlympusVersion.origin (p : Nat) : OlympusVersion → Nat
  | .olympusV2 => p
  | .nikonV2 => p + 10
  | _ => 6

/-- Offsets that are saved count from the beginning of the note, wherever they are loaded. -/
theorem OlympusVersion.start_origin {version : OlympusVersion} (hknown : version.Known)
    {offset : BitVec 32} {p : Nat} (hp : p = 6 + offset.toNat) :
    ((version.start offset).toNat + version.origin p) % 4294967296 = p % 4294967296 := by
  cases version with
  | nikonV0 => exact (hknown.2 rfl).elim
  | olympusV2 =>
    show (0 + p) % _ = _
    rw [Nat.zero_add]
  | nikonV1 =>
    show ((offset + 10 - 10).toNat + 6) % _ = _
    rw [BitVec.add_sub_cancel, hp, Nat.add_comm]
  | nikonV2 =>
    have hten : (0 - 10 : BitVec 32).toNat = 4294967286 := by decide
    show ((0 - 10 : BitVec 32).toNat + (p + 10)) % _ = _
    rw [hten]
    omega
  | unrecognized | olympusV1 | sanyoV1 | epsonV1 =>
    show (offset.toNat + 6) % _ = _
    rw [hp, Nat.add_comm]

/-- The byte order is found again from its mark. -/
theorem readMark_orderMark (order : ExifByteOrder) : readMark (orderMark order) = some order := by
  cases order <;> rfl

/-- The byte order and the places are found in the header. -/
theorem olympusHeader_at {B d : List Byte} {order old : ExifByteOrder} {version : OlympusVersion}
    {count : BitVec 16} {p : Nat} (hknown : version.Known) (hnote : NoteAt B p d)
    (hB : B.length < 4294967296) (hheader : HeaderAt order d version)
    (hcount : Block.At d version.skipped (shortBytes order count))
    (hin : p + version.skipped + 2 + version.spare ≤ B.length)
    (hfix : version.skipped = 8 → fixEndianness count order = order)
    (hold : version = .nikonV1 → old = order) :
    olympusHeader old B p version = some (order, some (p + version.skipped, version.origin p)) := by
  have hget := exifGetShort_of_at (hnote _ _ hcount)
  have hrest := hheader.2
  have hv1 (hone : Block.At d 6 (shortBytes order 1))
      (hget : exifGetShort B (p + 8) order = some count) (hin : p + 8 + 2 ≤ B.length)
      (hfix : fixEndianness count order = order) :
      olympusHeader old B p .olympusV1 = some (order, some (p + 8, 6)) := by
    have hbytes := hnote _ _ hone
    obtain ⟨b0, b1, hb0, hb1, horder⟩ : ∃ b0 b1, B[p + 6]? = some b0 ∧ B[p + 6 + 1]? = some b1 ∧
        (if b0 = 1 then .intel else if b1 = 1 then .motorola else old) = order := by
      cases order with
      | intel =>
        have h : Block.At B (p + 6) [1, 0] := hbytes
        rw [Block.At.cons_iff, Block.At.cons_iff] at h
        exact ⟨1, 0, h.1, h.2.1, rfl⟩
      | motorola =>
        have h : Block.At B (p + 6) [0, 1] := hbytes
        rw [Block.At.cons_iff, Block.At.cons_iff] at h
        exact ⟨0, 1, h.1, h.2.1, rfl⟩
    simp only [olympusHeader, hb0, hb1, Option.bind_eq_bind, Option.bind_some, horder, hget, hfix,
      if_neg (show ¬ B.length < p + 8 + 2 by omega)]
  cases version with
  | unrecognized => exact (hknown.1 rfl).elim
  | nikonV0 => exact (hknown.2 rfl).elim
  | olympusV1 | sanyoV1 | epsonV1 => exact hv1 hrest hget hin (hfix rfl)
  | olympusV2 =>
    simp only [OlympusVersion.skipped, OlympusVersion.spare] at hin
    have hmark : Block.read B (p + 8) 2 = some (orderMark order) :=
      length_orderMark order ▸ hnote _ _ hrest
    rw [Block.read_isSome (by omega), Option.some.injEq] at hmark
    rw [olympusHeader, Block.read_isSome (by omega), Option.bind_eq_bind, Option.bind_some,
      List.take_take]
    show some ((readMark ((B.drop (p + 8)).take 2)).getD old, _) = _
    rw [hmark, readMark_orderMark]
    rfl
  | nikonV1 =>
    simp only [OlympusVersion.skipped, OlympusVersion.spare] at hin
    have hgetC : exifGetShort B (p + 8) order = some count := hget
    rw [olympusHeader, if_neg (by omega), Block.read_isSome (by omega), Option.bind_eq_bind,
      Option.bind_some, if_neg (by omega), hold rfl, hgetC]
    show some (fixEndianness count order, _) = _
    rw [hfix rfl]
    rfl
  | nikonV2 =>
    simp only [OlympusVersion.skipped, OlympusVersion.spare] at hin
    have hmark : Block.read B (p + 10) 2 = some (orderMark order) :=
      length_orderMark order ▸ hnote _ _ hrest.2.1
    have hfirst := exifGetLong_of_at (hnote _ _ hrest.2.2)
    simp only [olympusHeader, if_neg (show ¬ B.length ≤ p + 6 by omega),
      Block.read_isSome (show p + 6 + 8 ≤ B.length by omega), Option.bind_eq_bind,
      Option.bind_some, if_neg (show ¬ B.length ≤ p + 10 by omega), hmark, readMark_orderMark,
      if_neg (show ¬ B.length < (p + 10 + 4 + 4) % 4294967296 by omega),
      show p + 10 + 4 = p + 14 from rfl, hfirst]
    show some (order, some ((p + 10 + 8) % 4294967296, _)) = _
    rw [Nat.mod_eq_of_lt (by omega)]
    rfl

/-- A note of Olympus, Sanyo, Epson or Nikon comes back, but for Nikon's oldest version, which is
saved as one of the second. Nikon's first version does not say what its byte order is, and behind
a header of eight bytes the number of entries must not look like one of the other byte order. -/
theorem olympusLoad_save (fresh : Nat → Byte) (n : MnoteData OlympusVersion)
    (hknown : n.version.Known) (hes : ∀ e ∈ n.entries, e.Full n.version.base)
    (hcount : n.entries.length ≤ 65524)
    (hfix : n.version.skipped = 8 → fixEndianness n.count n.order = n.order) :
    ∃ d, olympusSave fresh n = some d ∧ ∀ old order oldVersion pre post, AtOffset n pre →
      (n.version = .nikonV1 → order = n.order) → (pre ++ d ++ post).length < 4294967296 →
        olympusLoad { n with entries := old, order := order, version := oldVersion }
          (pre ++ d ++ post) = some n := by
  have hskipped : 8 ≤ n.version.skipped ∧ n.version.skipped + n.version.spare ≤ 22 := by
    cases n.version <;> decide
  have hlen₀ := List.length_replicate
    (n := n.version.skipped + 2 + n.entries.length * 12 + n.version.spare) (a := (0 : Byte))
  obtain ⟨d₁, h₁, hlen₁, hhead₁⟩ := olympusWriteHeader_at (d := List.replicate
    (n.version.skipped + 2 + n.entries.length * 12 + n.version.spare) 0) n.order n.entries.length
    hknown (by omega)
  obtain ⟨d₂, h₂, hlen₂, hat₂, hbeside₂⟩ :=
    setShort_at (d := d₁) (i := n.version.skipped) (by omega) n.order n.count
  obtain ⟨d, h, hle, hat, hbeside⟩ := saveMnoteEntries_at (d := d₂) (o := n.version.skipped + 2)
    (r := n.version.skipped + 2 + n.entries.length * 12 + n.version.spare)
    ⟨n.version.base, n.version.start n.offset, false, false⟩ n.order fresh hes (by omega)
    (by omega) (by omega)
  have hcount' := hbeside _ _ hat₂ (.inl (by rw [length_shortBytes]))
  have hhead : HeaderAt n.order d n.version := hhead₁.mono fun i bs hat hin =>
    hbeside _ _ (hbeside₂ _ _ hat (.inl hin)) (.inl (by omega))
  refine ⟨d, ?_, fun old order oldVersion pre post hpre horder hlt => ?_⟩
  · rw [olympusSave, if_neg hknown.1, h₁, Option.bind_eq_bind, Option.bind_some, h₂,
      Option.bind_some, h]
  · have hB : pre.length + d.length ≤ (pre ++ d ++ post).length := by
      simp only [List.length_append]
      omega
    have hdatao : ({ n with entries := old, order := order, version := oldVersion } :
        MnoteData OlympusVersion).datao = pre.length :=
      hpre.datao (by rwa [List.append_assoc] at hlt)
    have hfar : tooFar (pre ++ d ++ post).length pre.length 10 = false := by
      rw [tooFar_eq_false_iff hlt]
      omega
    have hfar' : tooFar (pre ++ d ++ post).length (pre.length + n.version.skipped) 2 = false := by
      rw [tooFar_eq_false_iff hlt]
      omega
    have hversion : identifyVariant ((pre ++ d ++ post).drop pre.length) = n.version := by
      rw [List.append_assoc, List.drop_left]
      exact identifyVariant_of_header hknown (hhead.mono fun i bs hat _ => hat.extend post)
        (by rw [List.length_append]; omega)
    have hplace : olympusHeader order (pre ++ d ++ post) pre.length n.version = _ :=
      olympusHeader_at hknown (noteAt pre d post) hlt hhead hcount' (by omega) hfix horder
    have hload : loadMnoteDirectory
        ⟨n.version.base, n.version.origin pre.length, true, false⟩ n.order (pre ++ d ++ post)
        (pre.length + n.version.skipped) = some n.entries :=
      loadMnoteDirectory_at
        (k := ⟨n.version.base, n.version.start n.offset, false, false⟩)
        ⟨rfl, OlympusVersion.start_origin hknown hpre, fun h => by cases h⟩ (noteAt pre d post)
        hlt hes
        (fun e _ => .inl rfl) (by omega) hcount' hat (by omega) hB
    rw [olympusLoad, hdatao, if_neg (by rw [hfar]; decide)]
    simp only [hversion]
    rw [hplace, Option.bind_eq_bind, Option.bind_some]
    dsimp only
    rw [if_neg (by rw [hfar']; decide), hload]
    rfl

theorem olympusLoad_save_sample :
    ∃ d, olympusSave (fun _ => 0xaa) ⟨sampleEntries 0, .intel, 44, .nikonV2⟩ = some d ∧
      ∀ old order oldVersion pre post, AtOffset
          (⟨sampleEntries 0, .intel, 44, .nikonV2⟩ : MnoteData OlympusVersion) pre →
        ((OlympusVersion.nikonV2 : OlympusVersion) = .nikonV1 → order = .intel) →
          (pre ++ d ++ post).length < 4294967296 →
            olympusLoad ⟨old, order, 44, oldVersion⟩ (pre ++ d ++ post) =
              some ⟨sampleEntries 0, .intel, 44, .nikonV2⟩ :=
  olympusLoad_save (fun _ => 0xaa) ⟨sampleEntries 0, .intel, 44, .nikonV2⟩
    ⟨by decide, by decide⟩ (fun e he => (sampleEntries_full _ e he).1) (by decide) (by decide)

end RoundTrip

end Ancora.Exif
