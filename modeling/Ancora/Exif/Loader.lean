import Ancora.Exif.RoundTrip

/-!
# Loading from a stream (libexifa/exif-loader.c)

A loader gets a file in pieces and keeps what can be the EXIF data in it. What it has not found
yet it scans in windows of twelve bytes; what a segment says to skip it skips, and once it knows
where the EXIF data is it only copies.

- `exifLoaderWrite`: `exif_loader_write`. No result means that it has written outside of the
  buffer.
- `exifLoaderWriteFile`, `exifLoaderGetData`: a whole file, and what is in it.
- **`loaderCalls_safe`**: it never writes outside of the buffer, whatever the calls are.
- **`exifLoaderWrite_append`**: two pieces are as good as one, however they are cut.
- `Leads`: how the bytes of a file lead to the EXIF data, without windows.
- **`exifLoaderWrite_leads`**: the windows find what the bytes lead to.
- **`exifLoaderGetData_jpeg`**: EXIF data that was saved into a JPEG file is loaded from the file,
  whatever segments are before it and whatever is behind it.

Allocations succeed here, and logging is left out.
-/

namespace Ancora.Exif

/-! ## The loader -/

/-- `ExifLoaderState` -/
inductive ExifLoaderState
  | read
  | readSizeByte24
  | readSizeByte16
  | readSizeByte08
  | readSizeByte00
  | skipBytes
  | exifFound
  deriving DecidableEq, Repr

/-- `ExifLoaderDataFormat` -/
inductive ExifLoaderDataFormat
  | unknown
  | exif
  | jpeg
  | fujiRaw
  deriving DecidableEq, Repr

/-- How far a loader has got: `state`, `data_format` and `size`. -/
structure Search where
  state : ExifLoaderState
  dataFormat : ExifLoaderDataFormat
  size : BitVec 32
  deriving DecidableEq

/-- `struct _ExifLoader`: `b` are the first `b_len` bytes of the small buffer, `buf` the first
`bytes_read` bytes of the buffer, and `room` is how much has been allocated for it. -/
structure ExifLoader extends Search where
  b : List Byte
  b_le : b.length ≤ 12
  room : Option Nat
  buf : List Byte
  deriving DecidableEq

namespace ExifLoader

/-- `exif_loader_reset`, and what `exif_loader_new` leaves in the memory it gets. -/
def new : ExifLoader where
  state := .read
  dataFormat := .unknown
  size := 0
  b := []
  b_le := Nat.zero_le 12
  room := none
  buf := []

def withSearch (l : ExifLoader) (s : Search) : ExifLoader := ⟨s, l.b, l.b_le, l.room, l.buf⟩

/-- `b_len = 0` -/
def emptyWindow (l : ExifLoader) : ExifLoader := { l with b := [], b_le := Nat.zero_le 12 }

/-- As much as fits into the small buffer. -/
def fillWindow (l : ExifLoader) (bs : List Byte) : ExifLoader :=
  { l with
    b := l.b ++ bs.take (12 - l.b.length)
    b_le := by
      have := l.b_le
      rw [List.length_append, List.length_take]
      omega }

end ExifLoader

/-- `exif_loader_copy`: the loader, and whether it needs more. -/
def exifLoaderCopy (l : ExifLoader) (bs : List Byte) : Option (ExifLoader × Bool) :=
  if l.size.toNat ≤ l.buf.length then some (l, false)
  else
    let room := l.room.getD l.size.toNat
    let len := min bs.length (l.size.toNat - l.buf.length)
    if room < l.buf.length + len then none
    else some ({ l with room := some room, buf := l.buf ++ bs.take len },
      decide (l.buf.length + len < l.size.toNat))

/-- `"FUJIFILM"` -/
def fujifilm : List Byte := [0x46, 0x55, 0x4a, 0x49, 0x46, 0x49, 0x4c, 0x4d]

/-- The window is checked against known formats. -/
def Search.detect (s : Search) (w : List Byte) : Search :=
  if s.dataFormat ≠ .unknown then s
  else if w.take 8 = fujifilm then { dataFormat := .fujiRaw, state := .skipBytes, size := 84 }
  else if (w.drop 2).take 6 = exifHeader then
    { s with dataFormat := .exif, state := .readSizeByte08 }
  else s

/-- `JPEG_MARKER_DHT`, `JPEG_MARKER_DQT`, `JPEG_MARKER_APP0`, `JPEG_MARKER_APP2`,
`JPEG_MARKER_APP13` and `JPEG_MARKER_COM` -/
def skippedMarkers : List Byte := [0xc4, 0xdb, 0xe0, 0xe2, 0xed, 0xfe]

/-- `memcmp (eld->b + i + 3, ExifHeader, …)`: as much of the header as is in the window. `bs` is
what is behind the marker. -/
def seesHeader (bs : List Byte) : Bool :=
  (bs.drop 2).take 6 == exifHeader.take (bs.drop 2).length

/-- What a byte means where no byte of a size is expected; `none` for one that is no marker. -/
def Search.marker (s : Search) (c : Byte) (bs : List Byte) : Option Search :=
  if c = 0xe1 then
    some ⟨.readSizeByte08, if seesHeader bs then .exif else .jpeg, 0⟩
  else if c ∈ skippedMarkers then some ⟨.readSizeByte08, .jpeg, 0⟩
  else if c = 0xff ∨ c = 0xd8 then some s
  else none

/-- The last byte of a size has been read. -/
def Search.sized (s : Search) (size : BitVec 32) : Search :=
  match s.dataFormat with
  | .jpeg => { s with size := size - 2, state := .skipBytes }
  | .fujiRaw => { dataFormat := .exif, size := size - 86, state := .skipBytes }
  | .exif => { s with size := size, state := .exifFound }
  | .unknown => { s with size := size }

/-- One byte of the window, when the EXIF data is not found yet; `bs` is what is behind it. -/
def Search.step (s : Search) (c : Byte) (bs : List Byte) : Option Search :=
  match s.state with
  | .exifFound => some s
  | .skipBytes =>
    some { s with size := s.size - 1, state := if s.size - 1 = 0 then .read else .skipBytes }
  | .readSizeByte24 =>
    some { s with size := s.size ||| c.setWidth 32 <<< 24, state := .readSizeByte16 }
  | .readSizeByte16 =>
    some { s with size := s.size ||| c.setWidth 32 <<< 16, state := .readSizeByte08 }
  | .readSizeByte08 =>
    some { s with size := s.size ||| c.setWidth 32 <<< 8, state := .readSizeByte00 }
  | .readSizeByte00 => some (s.sized (s.size ||| c.setWidth 32))
  | .read => s.marker c bs

/-- What the loop over the window comes to. -/
inductive Scan
  | found (s : Search) (bs : List Byte)
  | noExif
  | more (s : Search)

/-- The loop over the window. -/
def scan (s : Search) : List Byte → Scan
  | [] => .more s
  | c :: bs =>
    if s.state = .exifFound then .found s (c :: bs)
    else
      match s.step c bs with
      | none => .noExif
      | some s => scan s bs

theorem scan_step {s s' : Search} {c : Byte} {bs : List Byte} (hstate : s.state ≠ .exifFound)
    (h : s.step c bs = some s') : scan s (c :: bs) = scan s' bs := by
  rw [scan, if_neg hstate, h]

/-- What `EL_SKIP_BYTES` leaves of the data. -/
def skip (l : ExifLoader) (bs : List Byte) : ExifLoader × List Byte :=
  if l.state = .skipBytes then
    ({ l.emptyWindow with
        size := 0
        state := if l.dataFormat = .fujiRaw then .readSizeByte24 else .read },
      bs.drop l.size.toNat)
  else (l, bs)

theorem length_skip (l : ExifLoader) (bs : List Byte) :
    (skip l bs).1.b.length + (skip l bs).2.length ≤ l.b.length + bs.length := by
  unfold skip
  split
  · rw [List.length_drop]
    show 0 + _ ≤ _
    omega
  · exact Nat.le_refl _

/-- `exif_loader_write`: the loader, and whether it needs more. -/
def exifLoaderWrite (l : ExifLoader) (bs : List Byte) : Option (ExifLoader × Bool) :=
  if l.state = .exifFound then exifLoaderCopy l bs
  else if l.state = .skipBytes ∧ bs.length < l.size.toNat then
    some ({ l with size := l.size - BitVec.ofNat 32 bs.length }, true)
  else
    let s := skip l bs
    if s.2 = [] then some (s.1, true)
    else
      let w := s.1.fillWindow s.2
      if w.b.length < 12 then some (w, true)
      else
        let rest := s.2.drop (12 - s.1.b.length)
        match scan (w.detect w.b) w.b with
        | .found m bs =>
          (exifLoaderCopy (w.withSearch m) bs).bind fun r =>
            if r.2 then exifLoaderCopy r.1 rest else some r
        | .noExif => some (ExifLoader.new, false)
        | .more m => exifLoaderWrite (w.emptyWindow.withSearch m) rest
termination_by l.b.length + bs.length
decreasing_by
  have hle := length_skip l bs
  have hlen := (skip l bs).1.b_le
  show 0 + _ < _
  rw [List.length_drop]
  have hfull : ¬ ((skip l bs).1.fillWindow (skip l bs).2).b.length < 12 := ‹_›
  simp only [ExifLoader.fillWindow, List.length_append, List.length_take] at hfull
  omega

/-- `exif_loader_write_file`, for the pieces of the file as they are read. -/
def exifLoaderWritePieces : ExifLoader → List (List Byte) → Option ExifLoader
  | l, [] => some l
  | l, bs :: pieces =>
    (exifLoaderWrite l bs).bind fun r => if r.2 then exifLoaderWritePieces r.1 pieces else some r.1

/-- What `fread` reads of a file into `unsigned char data[1024]`. -/
def freadPieces (file : List Byte) : List (List Byte) :=
  if _h : file = [] then [] else file.take 1024 :: freadPieces (file.drop 1024)
termination_by file.length
decreasing_by
  have := List.length_pos_iff.mpr _h
  rw [List.length_drop]
  omega

/-- `exif_loader_write_file` -/
def exifLoaderWriteFile (l : ExifLoader) (file : List Byte) : Option ExifLoader :=
  exifLoaderWritePieces l (freadPieces file)

/-- `exif_loader_get_data`: `none` inside stands for NULL. -/
def exifLoaderGetData {μ : Type} (now : Vector Byte 20)
    (interpret : ExifData μ → ExifEntry → List Byte → Option (Option μ)) (l : ExifLoader) :
    Option (Option (ExifData μ)) :=
  if l.dataFormat = .unknown ∨ l.buf = [] then some none
  else (exifDataLoadData now interpret exifDataNew l.buf).map some

/-! ## The ways through a call -/

section Paths

variable {l : ExifLoader} {bs : List Byte}

theorem exifLoaderWrite_found (h : l.state = .exifFound) :
    exifLoaderWrite l bs = exifLoaderCopy l bs := by
  rw [exifLoaderWrite, if_pos h]

/-- All of the data is skipped. -/
theorem exifLoaderWrite_skips (h : l.state = .skipBytes) (hlt : bs.length < l.size.toNat) :
    exifLoaderWrite l bs =
      some ({ l with size := l.size - BitVec.ofNat 32 bs.length }, true) := by
  rw [exifLoaderWrite, if_neg (by simp [h]), if_pos ⟨h, hlt⟩]

/-- The state in which a window is filled. -/
def ExifLoader.Scans (l : ExifLoader) : Prop := l.state ≠ .exifFound ∧ l.state ≠ .skipBytes

theorem skip_scans (h : l.state = .skipBytes) : (skip l bs).1.Scans := by
  rw [skip, if_pos h]
  constructor <;>
  · dsimp only
    split <;> simp

/-- What is to be skipped ends in the data. -/
theorem exifLoaderWrite_skipped (h : l.state = .skipBytes) (hle : l.size.toNat ≤ bs.length) :
    exifLoaderWrite l bs = exifLoaderWrite (skip l bs).1 (skip l bs).2 := by
  have hscans : (skip l bs).1.Scans := skip_scans h
  rw [exifLoaderWrite, if_neg (by simp [h]), if_neg (by omega)]
  conv_rhs => rw [exifLoaderWrite, if_neg hscans.1, if_neg (fun hs => hscans.2 hs.1)]
  rw [skip.eq_1 (skip l bs).1, if_neg hscans.2]

@[simp] theorem fillWindow_nil (l : ExifLoader) : l.fillWindow [] = l := by
  unfold ExifLoader.fillWindow
  simp

/-- The window is not filled yet. -/
theorem exifLoaderWrite_short (h : l.Scans) (hshort : l.b.length + bs.length < 12 ∨ bs = []) :
    exifLoaderWrite l bs = some (l.fillWindow bs, true) := by
  rw [exifLoaderWrite, if_neg h.1, if_neg (fun hs => h.2 hs.1), skip, if_neg h.2]
  dsimp only
  split
  · rename_i hnil
    rw [hnil, fillWindow_nil]
  · rename_i hne
    have hlt := hshort.resolve_right hne
    rw [if_pos]
    rw [ExifLoader.fillWindow]
    simp only [List.length_append, List.length_take]
    omega

/-- What the loop over the window comes to decides. -/
def afterScan (w : ExifLoader) (rest : List Byte) : Scan → Option (ExifLoader × Bool)
  | .found m bs =>
    (exifLoaderCopy (w.withSearch m) bs).bind fun r =>
      if r.2 then exifLoaderCopy r.1 rest else some r
  | .noExif => some (ExifLoader.new, false)
  | .more m => exifLoaderWrite (w.emptyWindow.withSearch m) rest

/-- The window is full. -/
theorem exifLoaderWrite_window (h : l.Scans) (hne : bs ≠ []) (hle : 12 ≤ l.b.length + bs.length) :
    exifLoaderWrite l bs = afterScan (l.fillWindow bs) (bs.drop (12 - l.b.length))
      (scan (l.detect (l.fillWindow bs).b) (l.fillWindow bs).b) := by
  rw [exifLoaderWrite, if_neg h.1, if_neg (fun hs => h.2 hs.1), skip, if_neg h.2]
  dsimp only
  have hfull : ¬ (l.fillWindow bs).b.length < 12 := by
    rw [ExifLoader.fillWindow]
    simp only [List.length_append, List.length_take]
    omega
  rw [if_neg hne, if_neg hfull]
  show _ = afterScan _ _ (scan ((l.fillWindow bs).detect (l.fillWindow bs).b) (l.fillWindow bs).b)
  cases scan ((l.fillWindow bs).detect (l.fillWindow bs).b) (l.fillWindow bs).b <;> rfl

/-- What holds of a call because of the calls that it comes to. -/
theorem exifLoaderWrite_induction {P : ExifLoader → List Byte → Prop}
    (found : ∀ l bs, l.state = .exifFound → P l bs)
    (skips : ∀ l bs, l.state = .skipBytes → bs.length < l.size.toNat → P l bs)
    (skipped : ∀ l bs, l.state = .skipBytes → l.size.toNat ≤ bs.length →
      P (skip l bs).1 (skip l bs).2 → P l bs)
    (short : ∀ l bs, l.Scans → l.b.length + bs.length < 12 ∨ bs = [] → P l bs)
    (window : ∀ l bs, l.Scans → bs ≠ [] → 12 ≤ l.b.length + bs.length →
      (∀ m, P (l.emptyWindow.withSearch m) (bs.drop (12 - l.b.length))) → P l bs)
    (l : ExifLoader) (bs : List Byte) : P l bs := by
  induction hn : l.b.length + bs.length using Nat.strong_induction_on generalizing l bs with
  | _ n ih =>
    subst hn
    have hscans : ∀ l' bs', l'.b.length + bs'.length ≤ l.b.length + bs.length → l'.Scans →
        P l' bs' := by
      intro l' bs' hle h
      rcases Nat.lt_or_ge (l'.b.length + bs'.length) 12 with hlt | hfull
      · exact short l' bs' h (.inl hlt)
      · by_cases hne : bs' = []
        · exact short l' bs' h (.inr hne)
        · refine window l' bs' h hne hfull fun m => ih _ ?_ _ _ rfl
          have := List.length_pos_iff.mpr hne
          have := l'.b_le
          show 0 + _ < _
          rw [List.length_drop]
          omega
    by_cases hfound : l.state = .exifFound
    · exact found l bs hfound
    · by_cases hskip : l.state = .skipBytes
      · rcases Nat.lt_or_ge bs.length l.size.toNat with hlt | hle
        · exact skips l bs hskip hlt
        · exact skipped l bs hskip hle (hscans _ _ (length_skip l bs) (skip_scans hskip))
      · exact hscans l bs (Nat.le_refl _) ⟨hfound, hskip⟩

end Paths

/-! ## However the data is cut -/

section Pieces

variable {l : ExifLoader} {a c : List Byte}

/-- The next call, if there is one. -/
def andThen (r : ExifLoader × Bool) (f : ExifLoader → Option (ExifLoader × Bool)) :
    Option (ExifLoader × Bool) :=
  if r.2 then f r.1 else some r

theorem exifLoaderCopy_state {r : ExifLoader × Bool} (h : exifLoaderCopy l a = some r) :
    r.1.state = l.state := by
  unfold exifLoaderCopy at h
  split at h
  · rw [← Option.some.inj h]
  · dsimp only at h
    split at h
    · cases h
    · rw [← Option.some.inj h]

theorem exifLoaderCopy_append (l : ExifLoader) (a c : List Byte) :
    exifLoaderCopy l (a ++ c) =
      (exifLoaderCopy l a).bind fun r => andThen r fun m => exifLoaderCopy m c := by
  unfold exifLoaderCopy
  by_cases hfull : l.size.toNat ≤ l.buf.length
  · rw [if_pos hfull, if_pos hfull]
    rfl
  rw [if_neg hfull, if_neg hfull]
  dsimp only
  generalize l.room.getD l.size.toNat = room
  by_cases hmore : l.buf.length + a.length < l.size.toNat
  · -- all of the first piece is copied
    have hmin : min a.length (l.size.toNat - l.buf.length) = a.length := by omega
    rw [hmin, List.take_length]
    by_cases hroom : room < l.buf.length + a.length
    · rw [if_pos hroom, if_pos (by simp only [List.length_append]; omega)]
      rfl
    · rw [if_neg hroom, Option.bind_some, andThen, if_pos (decide_eq_true hmore)]
      dsimp only
      have hlen : min (a ++ c).length (l.size.toNat - l.buf.length) =
          a.length + min c.length (l.size.toNat - (l.buf ++ a).length) := by
        simp only [List.length_append]
        omega
      have htake (n : Nat) : (a ++ c).take (a.length + n) = a ++ c.take n := by
        rw [List.take_length_add_append]
      have hmore' : ¬ l.size.toNat ≤ (l.buf ++ a).length := by
        rw [List.length_append]
        omega
      rw [if_neg hmore', Option.getD_some, hlen, htake, List.append_assoc]
      simp only [List.length_append, Nat.add_assoc]
  · -- the buffer is full before the second piece
    have hmin : min a.length (l.size.toNat - l.buf.length) = l.size.toNat - l.buf.length := by
      omega
    have hmin' : min (a ++ c).length (l.size.toNat - l.buf.length) =
        l.size.toNat - l.buf.length := by
      simp only [List.length_append]
      omega
    rw [hmin, hmin', List.take_append_of_le_length (by omega)]
    split
    · rfl
    · rw [Option.bind_some, andThen, if_neg]
      simp only [decide_eq_true_eq]
      omega

/-- A loop that ends in the middle of the window has found the EXIF data. -/
theorem scan_found {m : Search} {bs : List Byte} :
    ∀ {w : List Byte} {s : Search}, scan s w = .found m bs → m.state = .exifFound
  | [], s, h => by cases h
  | c :: w, s, h => by
    unfold scan at h
    split at h
    · rename_i hfound
      injection h with hm _
      rwa [← hm]
    · cases hstep : s.step c w with
      | none =>
        rw [hstep] at h
        cases h
      | some s' =>
        rw [hstep] at h
        exact scan_found h

/-- The pieces `a` and `c` are as good as one. -/
def Joins (l : ExifLoader) (a c : List Byte) : Prop :=
  exifLoaderWrite l (a ++ c) =
    (exifLoaderWrite l a).bind fun r => andThen r fun m => exifLoaderWrite m c

theorem fillWindow_append (h : l.b.length + a.length < 12) :
    (l.fillWindow a).fillWindow c = l.fillWindow (a ++ c) := by
  have hb : (l.fillWindow a).b = l.b ++ a := by
    rw [ExifLoader.fillWindow]
    dsimp only
    rw [List.take_of_length_le (by omega)]
  have hlen : 12 - l.b.length = a.length + (12 - (l.b ++ a).length) := by
    rw [List.length_append]
    omega
  unfold ExifLoader.fillWindow at *
  dsimp only at hb ⊢
  congr 1
  rw [hb, hlen, List.take_length_add_append, List.append_assoc]

theorem joins_short (h : l.Scans) (hshort : l.b.length + a.length < 12 ∨ a = []) :
    Joins l a c := by
  rw [Joins, exifLoaderWrite_short h hshort, Option.bind_some, andThen, if_pos rfl]
  by_cases hne : a = []
  · rw [hne, fillWindow_nil, List.nil_append]
  have hlt := hshort.resolve_right hne
  have hb : (l.fillWindow a).b.length = l.b.length + a.length := by
    rw [ExifLoader.fillWindow]
    simp only [List.length_append, List.length_take]
    omega
  have hscans : (l.fillWindow a).Scans := h
  by_cases hlt' : l.b.length + (a ++ c).length < 12
  · rw [exifLoaderWrite_short h (.inl hlt'), exifLoaderWrite_short hscans
      (.inl (by rw [hb]; rw [List.length_append] at hlt'; omega)), fillWindow_append hlt]
  · rw [List.length_append] at hlt'
    have hc : c ≠ [] := by
      rintro rfl
      rw [List.length_nil] at hlt'
      omega
    rw [exifLoaderWrite_window h (by simp [hc]) (by rw [List.length_append]; omega),
      exifLoaderWrite_window hscans hc (by omega), fillWindow_append hlt, hb,
      show 12 - l.b.length = a.length + (12 - (l.b.length + a.length)) by omega,
      List.drop_length_add_append]
    rfl

theorem joins_window (h : l.Scans) (hle : 12 ≤ l.b.length + a.length) (hne : a ≠ [])
    (ih : ∀ m, Joins (l.emptyWindow.withSearch m) (a.drop (12 - l.b.length)) c) :
    Joins l a c := by
  have hlen := l.b_le
  have hfill : l.fillWindow (a ++ c) = l.fillWindow a := by
    unfold ExifLoader.fillWindow
    congr 2
    rw [List.take_append_of_le_length (by omega)]
  rw [Joins, exifLoaderWrite_window h hne hle, exifLoaderWrite_window h (by simp [hne])
    (by rw [List.length_append]; omega), hfill, List.drop_append_of_le_length (by omega)]
  cases hscan : scan (l.detect (l.fillWindow a).b) (l.fillWindow a).b with
  | found s bs =>
    generalize hm : (l.fillWindow a).withSearch s = m
    have hstate : m.state = .exifFound := by
      rw [← hm]
      exact scan_found hscan
    rw [afterScan, afterScan, hm, Option.bind_assoc]
    cases hcopy : exifLoaderCopy m bs with
    | none => rfl
    | some r =>
      rw [Option.bind_some, Option.bind_some]
      unfold andThen
      by_cases hr : r.2 = true
      · rw [if_pos hr, if_pos hr, exifLoaderCopy_append]
        cases hcopy' : exifLoaderCopy r.1 (a.drop (12 - l.b.length)) with
        | none => rfl
        | some s =>
          rw [Option.bind_some, Option.bind_some, andThen]
          dsimp only
          rw [exifLoaderWrite_found]
          rw [exifLoaderCopy_state hcopy', exifLoaderCopy_state hcopy, hstate]
      · rw [if_neg hr, if_neg hr, Option.bind_some, if_neg hr]
  | noExif => rfl
  | more m => exact ih m

theorem joins_skips (h : l.state = .skipBytes) (hlt : a.length < l.size.toNat) : Joins l a c := by
  have hsub : (l.size - BitVec.ofNat 32 a.length).toNat = l.size.toNat - a.length := by
    have := l.size.isLt
    rw [BitVec.toNat_sub_of_le, BitVec.toNat_ofNat, Nat.mod_eq_of_lt (by omega)]
    rw [BitVec.le_def, BitVec.toNat_ofNat, Nat.mod_eq_of_lt (by omega)]
    omega
  rw [Joins, exifLoaderWrite_skips h hlt, Option.bind_some, andThen, if_pos rfl]
  dsimp only
  generalize hm : { l with size := l.size - BitVec.ofNat 32 a.length } = m
  have hstate : m.state = .skipBytes := by
    rw [← hm]
    exact h
  have hsize : m.size.toNat = l.size.toNat - a.length := by
    rw [← hm]
    exact hsub
  by_cases hlt' : (a ++ c).length < l.size.toNat
  · rw [List.length_append] at hlt'
    rw [exifLoaderWrite_skips h (by rw [List.length_append]; exact hlt'),
      exifLoaderWrite_skips hstate (by omega), ← hm]
    have hsize : l.size - BitVec.ofNat 32 (a ++ c).length =
        l.size - BitVec.ofNat 32 a.length - BitVec.ofNat 32 c.length := by
      rw [List.length_append, BitVec.ofNat_add]
      bv_omega
    rw [hsize]
  · have hskip : skip m c = skip l (a ++ c) := by
      rw [skip, skip, if_pos hstate, if_pos h]
      have hdrop : c.drop m.size.toNat = (a ++ c).drop l.size.toNat := by
        have hnil : a.drop l.size.toNat = [] := List.drop_eq_nil_of_le (Nat.le_of_lt hlt)
        rw [hsize, List.drop_append, hnil, List.nil_append]
      rw [hdrop, ← hm]
      rfl
    rw [List.length_append] at hlt'
    rw [exifLoaderWrite_skipped h (by rw [List.length_append]; omega),
      exifLoaderWrite_skipped hstate (by omega), hskip]

/-- Two pieces are as good as one, if the loader still needs more after the first. -/
theorem exifLoaderWrite_append (l : ExifLoader) (a c : List Byte) :
    exifLoaderWrite l (a ++ c) =
      (exifLoaderWrite l a).bind fun r => if r.2 then exifLoaderWrite r.1 c else some r := by
  show Joins l a c
  induction l, a using exifLoaderWrite_induction with
  | found l a hfound =>
    rw [Joins, exifLoaderWrite_found hfound, exifLoaderWrite_found hfound, exifLoaderCopy_append]
    cases hcopy : exifLoaderCopy l a with
    | none => rfl
    | some r =>
      rw [Option.bind_some, Option.bind_some, andThen, andThen, exifLoaderWrite_found]
      rw [exifLoaderCopy_state hcopy, hfound]
  | skips l a hskip hlt => exact joins_skips hskip hlt
  | skipped l a hskip hle ih =>
    have happend : skip l (a ++ c) = ((skip l a).1, (skip l a).2 ++ c) := by
      rw [skip, skip, if_pos hskip, if_pos hskip, List.drop_append_of_le_length hle]
    rw [Joins, exifLoaderWrite_skipped hskip hle, exifLoaderWrite_skipped hskip
      (by rw [List.length_append]; omega), happend]
    exact ih
  | short l a h hshort => exact joins_short h hshort
  | window l a h hne hle ih => exact joins_window h hle hne ih

/-- **Run lemma**: the pieces are as good as all of the data. -/
theorem exifLoaderWritePieces_eq : ∀ (pieces : List (List Byte)) (l : ExifLoader) (bs : List Byte),
    exifLoaderWritePieces l (bs :: pieces) =
      (exifLoaderWrite l (bs ++ pieces.flatten)).map Prod.fst
  | [], l, bs => by
    rw [exifLoaderWritePieces, List.flatten_nil, List.append_nil]
    cases exifLoaderWrite l bs with
    | none => rfl
    | some r =>
      show (if r.2 then exifLoaderWritePieces r.1 [] else some r.1) = some r.1
      split <;> rfl
  | c :: pieces, l, bs => by
    rw [exifLoaderWritePieces, List.flatten_cons, exifLoaderWrite_append]
    cases exifLoaderWrite l bs with
    | none => rfl
    | some r =>
      rw [Option.bind_some, Option.bind_some]
      split
      · exact exifLoaderWritePieces_eq pieces r.1 c
      · rfl

theorem flatten_freadPieces (file : List Byte) : (freadPieces file).flatten = file := by
  induction file using freadPieces.induct with
  | case1 => rw [freadPieces, dif_pos rfl, List.flatten_nil]
  | case2 file hne ih =>
    rw [freadPieces, dif_neg hne, List.flatten_cons, ih, List.take_append_drop]

/-- It does not matter how a file is read. -/
theorem exifLoaderWriteFile_eq (l : ExifLoader) (b : Byte) (bs : List Byte) :
    exifLoaderWriteFile l (b :: bs) = (exifLoaderWrite l (b :: bs)).map Prod.fst := by
  have hflatten := flatten_freadPieces (b :: bs)
  rw [freadPieces, dif_neg (List.cons_ne_nil b bs), List.flatten_cons] at hflatten
  rw [exifLoaderWriteFile, freadPieces, dif_neg (List.cons_ne_nil b bs),
    exifLoaderWritePieces_eq, hflatten]

end Pieces

/-! ## The buffer -/

section Buffer

variable {l : ExifLoader} {bs : List Byte}

/-- There is no buffer before the EXIF data is found, and it has room for all of it. -/
def ExifLoader.Sound (l : ExifLoader) : Prop :=
  l.room = none ∧ l.buf = [] ∨
    l.room = some l.size.toNat ∧ l.state = .exifFound ∧ l.buf.length ≤ l.size.toNat

theorem ExifLoader.Sound.unallocated (h : l.Sound) (hstate : l.state ≠ .exifFound) :
    l.room = none ∧ l.buf = [] := by
  rcases h with h | ⟨-, hfound, -⟩
  · exact h
  · exact absurd hfound hstate

theorem exifLoaderCopy_safe (h : l.Sound) (hstate : l.state = .exifFound) (bs : List Byte) :
    ∃ l' more, exifLoaderCopy l bs = some (l', more) ∧ l'.Sound ∧ l'.state = .exifFound ∧
      (more = false → l'.buf.length = l'.size.toNat) := by
  unfold exifLoaderCopy
  split
  · rename_i hfull
    refine ⟨l, false, rfl, h, hstate, fun _ => Nat.le_antisymm ?_ hfull⟩
    rcases h with ⟨-, hbuf⟩ | ⟨-, -, hle⟩
    · rw [hbuf]
      exact Nat.zero_le _
    · exact hle
  · rename_i hmore
    have hroom : l.room.getD l.size.toNat = l.size.toNat := by
      rcases h with ⟨hroom, -⟩ | ⟨hroom, -, -⟩ <;> rw [hroom] <;> rfl
    dsimp only
    rw [hroom, if_neg (by omega)]
    refine ⟨_, _, rfl, .inr ⟨rfl, hstate, ?_⟩, hstate, fun hdone => ?_⟩
    · dsimp only
      rw [List.length_append, List.length_take]
      omega
    · have hdone := of_decide_eq_false hdone
      dsimp only
      rw [List.length_append, List.length_take]
      omega

/-- The loader never writes outside of its buffer; when it needs no more it has given up, or has
all of the EXIF data. -/
theorem exifLoaderWrite_safe (h : l.Sound) (bs : List Byte) :
    ∃ l' more, exifLoaderWrite l bs = some (l', more) ∧ l'.Sound ∧ (more = false →
      l' = ExifLoader.new ∨ l'.state = .exifFound ∧ l'.buf.length = l'.size.toNat) := by
  induction l, bs using exifLoaderWrite_induction with
  | found l bs hfound =>
    obtain ⟨l', more, hcopy, hsound, hstate, hfull⟩ := exifLoaderCopy_safe h hfound bs
    exact ⟨l', more, by rw [exifLoaderWrite_found hfound, hcopy], hsound,
      fun hmore => .inr ⟨hstate, hfull hmore⟩⟩
  | skips l bs hskip hlt =>
    refine ⟨_, true, exifLoaderWrite_skips hskip hlt, .inl ?_, fun hmore => by cases hmore⟩
    exact h.unallocated (by simp [hskip])
  | skipped l bs hskip hle ih =>
    rw [exifLoaderWrite_skipped hskip hle]
    refine ih (.inl ?_)
    rw [skip, if_pos hskip]
    exact h.unallocated (by simp [hskip])
  | short l bs hscans hshort =>
    exact ⟨_, true, exifLoaderWrite_short hscans hshort, .inl (h.unallocated hscans.1),
      fun hmore => by cases hmore⟩
  | window l bs hscans hne hle ih =>
    rw [exifLoaderWrite_window hscans hne hle]
    have hnone := h.unallocated hscans.1
    cases hscan : scan (l.detect (l.fillWindow bs).b) (l.fillWindow bs).b with
    | found m w =>
      obtain ⟨l₁, more, hcopy, hsound, hstate, hfull⟩ := exifLoaderCopy_safe
        (l := (l.fillWindow bs).withSearch m) (.inl hnone) (scan_found hscan) w
      rw [afterScan, hcopy, Option.bind_some]
      split
      · obtain ⟨l₂, more, hcopy, hsound, hstate, hfull⟩ :=
          exifLoaderCopy_safe hsound hstate (bs.drop (12 - l.b.length))
        exact ⟨l₂, more, hcopy, hsound, fun hmore => .inr ⟨hstate, hfull hmore⟩⟩
      · exact ⟨l₁, more, rfl, hsound, fun hmore => .inr ⟨hstate, hfull hmore⟩⟩
    | noExif => exact ⟨_, _, rfl, .inl ⟨rfl, rfl⟩, fun _ => .inl rfl⟩
    | more m => exact ih m (.inl hnone)

/-- A file is written piece by piece, also one with nothing in it. -/
theorem exifLoaderWriteFile_safe (h : l.Sound) (file : List Byte) :
    ∃ l', exifLoaderWriteFile l file = some l' ∧ l'.Sound := by
  cases file with
  | nil => exact ⟨l, by rw [exifLoaderWriteFile, freadPieces, dif_pos rfl]; rfl, h⟩
  | cons b bs =>
    obtain ⟨l', more, hwrite, hsound, -⟩ := exifLoaderWrite_safe h (b :: bs)
    exact ⟨l', by rw [exifLoaderWriteFile_eq, hwrite]; rfl, hsound⟩

/-- What a caller does with a loader. -/
inductive LoaderCall
  | write (bs : List Byte)
  | writeFile (file : List Byte)
  | reset

def LoaderCall.run (l : ExifLoader) : LoaderCall → Option ExifLoader
  | write bs => (exifLoaderWrite l bs).map Prod.fst
  | writeFile file => exifLoaderWriteFile l file
  | reset => some ExifLoader.new

/-- **Run lemma**: whatever the calls are, also when the loader has said that it needs no more. -/
theorem foldlM_run_safe (h : l.Sound) (calls : List LoaderCall) :
    ∃ l', calls.foldlM LoaderCall.run l = some l' ∧ l'.Sound := by
  induction calls generalizing l with
  | nil => exact ⟨l, rfl, h⟩
  | cons call calls ih =>
    rw [List.foldlM_cons]
    cases call with
    | write bs =>
      obtain ⟨l₁, more, hwrite, hsound, -⟩ := exifLoaderWrite_safe h bs
      rw [LoaderCall.run, hwrite]
      exact ih hsound
    | writeFile file =>
      obtain ⟨l₁, hwrite, hsound⟩ := exifLoaderWriteFile_safe h file
      rw [LoaderCall.run, hwrite]
      exact ih hsound
    | reset => exact ih (l := ExifLoader.new) (.inl ⟨rfl, rfl⟩)

/-- No calls make a loader write outside of its buffer. -/
theorem loaderCalls_safe (calls : List LoaderCall) :
    ∃ l, calls.foldlM LoaderCall.run ExifLoader.new = some l ∧ l.Sound :=
  foldlM_run_safe (.inl ⟨rfl, rfl⟩) calls

end Buffer

/-! ## What the bytes lead to -/

/-- From `s` on the bytes lead to EXIF data: to its size, and to its bytes with what is behind
them. What a byte comes to does not depend on how much of the rest is in the window. -/
inductive Leads : Search → List Byte → BitVec 32 → List Byte → Prop
  | found {s : Search} {t : List Byte} (hstate : s.state = .exifFound)
      (hknown : s.dataFormat ≠ .unknown) : Leads s t s.size t
  | step {s s' : Search} {c : Byte} {bs t : List Byte} {n : BitVec 32}
      (hstate : s.state ≠ .exifFound) (hknown : s.dataFormat = .exif ∨ s.dataFormat = .jpeg)
      (hskip : s.state = .skipBytes → s.size ≠ 0)
      (hstep : ∀ w, w <+: bs → s.step c w = some s') (h : Leads s' bs n t) :
      Leads s (c :: bs) n t

namespace Leads

variable {s : Search} {bs t : List Byte} {n : BitVec 32}

theorem suffix (h : Leads s bs n t) : t <:+ bs := by
  induction h with
  | found => exact List.suffix_refl _
  | step _ _ _ _ _ ih => exact ih.trans (List.suffix_cons _ _)

theorem known (h : Leads s bs n t) : s.dataFormat ≠ .unknown := by
  cases h with
  | found _ hknown => exact hknown
  | step _ hknown => rcases hknown with hknown | hknown <;> simp [hknown]

/-- **Run lemma**: the loop over a window finds the EXIF data, or leaves the rest of the way. -/
theorem scan_window : ∀ {u v : List Byte} {s : Search}, Leads s (u ++ v) n t →
    (∃ m w, scan s u = .found m w ∧ m.state = .exifFound ∧ m.dataFormat ≠ .unknown ∧ m.size = n ∧
      w ++ v = t) ∨ ∃ m, scan s u = .more m ∧ Leads m v n t
  | [], v, s, h => .inr ⟨s, rfl, h⟩
  | c :: u, v, s, h => by
    cases h with
    | found hstate hknown =>
      exact .inl ⟨s, c :: u, by rw [scan, if_pos hstate], hstate, hknown, rfl, rfl⟩
    | step hstate _ _ hstep h =>
      rw [scan_step hstate (hstep u (List.prefix_append u v))]
      exact scan_window h

/-- Skipping byte for byte is skipping at once. -/
theorem skips (h : Leads s bs n t) (hstate : s.state = .skipBytes) :
    s.size.toNat ≤ bs.length ∧ s.dataFormat ≠ .fujiRaw ∧
      Leads { s with size := 0, state := .read } (bs.drop s.size.toNat) n t := by
  induction h with
  | found hfound => simp [hfound] at hstate
  | @step s s' c bs t n _ hknown hskip hstep h ih =>
    have hne := hskip hstate
    have hs' := hstep bs List.prefix_rfl
    rw [Search.step, hstate] at hs'
    have hpos : 0 < s.size.toNat := by
      rw [Nat.pos_iff_ne_zero]
      intro hzero
      exact hne (BitVec.eq_of_toNat_eq hzero)
    have hsub : (s.size - 1).toNat = s.size.toNat - 1 := by
      rw [BitVec.toNat_sub_of_le (by rw [BitVec.le_def]; exact hpos)]
      rfl
    have hfuji : s.dataFormat ≠ .fujiRaw := by
      rcases hknown with hknown | hknown <;> simp [hknown]
    have hdrop : (c :: bs).drop s.size.toNat = bs.drop (s.size - 1).toNat := by
      rw [hsub]
      conv_lhs => rw [show s.size.toNat = s.size.toNat - 1 + 1 by omega, List.drop_succ_cons]
    rw [hdrop, List.length_cons]
    by_cases hlast : s.size - 1 = 0
    · dsimp only at hs'
      rw [if_pos hlast] at hs'
      have hstep' := Option.some.inj hs'
      rw [hlast] at hstep' ⊢
      refine ⟨?_, hfuji, ?_⟩
      · rw [hlast] at hsub
        have hzero : (0 : BitVec 32).toNat = 0 := rfl
        omega
      · rw [hstep']
        exact h
    · dsimp only at hs'
      rw [if_neg hlast] at hs'
      have hstep' := Option.some.inj hs'
      rw [← hstep'] at ih
      obtain ⟨hle, -, hrest⟩ := ih rfl
      dsimp only at hle hrest
      exact ⟨by omega, hfuji, hrest⟩

end Leads

/-- Copying into a new buffer. -/
theorem exifLoaderCopy_first {l : ExifLoader} (hroom : l.room = none) (hbuf : l.buf = [])
    (hsize : 0 < l.size.toNat) (t : List Byte) :
    ∃ l' more, exifLoaderCopy l t = some (l', more) ∧ l'.dataFormat = l.dataFormat ∧
      l'.buf = t.take l.size.toNat := by
  unfold exifLoaderCopy
  have hlen : l.buf.length = 0 := by rw [hbuf]; rfl
  rw [if_neg (by omega), hroom, hlen]
  dsimp only [Option.getD_none]
  rw [if_neg (by omega), hbuf]
  refine ⟨_, _, rfl, rfl, ?_⟩
  dsimp only
  rw [List.nil_append, Nat.sub_zero, Nat.min_comm]
  exact List.take_eq_take_min.symm

/-- What the loader has is the EXIF data. -/
def Found (t : List Byte) (n : BitVec 32) (r : Option (ExifLoader × Bool)) : Prop :=
  ∃ l more, r = some (l, more) ∧ l.dataFormat ≠ .unknown ∧ l.buf = t.take n.toNat

theorem afterScan_leads {w : ExifLoader} {s : Search} {u v t : List Byte} {n : BitVec 32}
    (hroom : w.room = none) (hbuf : w.buf = []) (h : Leads s (u ++ v) n t) (hn : 0 < n.toNat)
    (hmore : ∀ m, Leads m v n t → Found t n (exifLoaderWrite (w.emptyWindow.withSearch m) v)) :
    Found t n (afterScan w v (scan s u)) := by
  rcases h.scan_window with ⟨m, c, hscan, -, hknown, hsize, hrest⟩ | ⟨m, hscan, hrest⟩
  · rw [hscan]
    obtain ⟨l', more, hcopy, hformat, hbuf'⟩ := exifLoaderCopy_first (l := w.withSearch m) hroom
      hbuf (by rw [← hsize] at hn; exact hn) t
    refine ⟨l', more, ?_, by rw [hformat]; exact hknown, by rw [hbuf', ← hsize]; rfl⟩
    rw [← hcopy, ← hrest, exifLoaderCopy_append]
    rfl
  · rw [hscan]
    exact hmore m hrest

/-- What the bytes lead to is found, if a window is full by then. -/
theorem exifLoaderWrite_leads {l : ExifLoader} {bs t : List Byte} {n : BitVec 32}
    (h : Leads l.toSearch bs n t) (hb : l.b = []) (hroom : l.room = none) (hbuf : l.buf = [])
    (hn : 0 < n.toNat) (ht : 12 ≤ t.length) : Found t n (exifLoaderWrite l bs) := by
  induction l, bs using exifLoaderWrite_induction with
  | found l bs hfound =>
    cases h with
    | found _ hknown =>
      obtain ⟨l', more, hcopy, hformat, hbuf'⟩ := exifLoaderCopy_first hroom hbuf hn _
      refine ⟨l', more, ?_, by rw [hformat]; exact hknown, hbuf'⟩
      rw [exifLoaderWrite_found hfound, hcopy]
    | step hstate => exact absurd hfound hstate
  | skips l bs hskip hlt => exact absurd (h.skips hskip).1 (by omega)
  | skipped l bs hskip hle ih =>
    obtain ⟨-, hfuji, hrest⟩ := h.skips hskip
    rw [exifLoaderWrite_skipped hskip hle]
    rw [skip, if_pos hskip] at ih ⊢
    refine ih ?_ rfl hroom hbuf
    dsimp only
    rw [if_neg hfuji]
    exact hrest
  | short l bs _ hshort =>
    have hle := h.suffix.length_le
    rcases hshort with hlt | hnil
    · omega
    · rw [hnil, List.length_nil] at hle
      omega
  | window l bs hscans hne hle ih =>
    have hwindow : (l.fillWindow bs).b = bs.take 12 := by
      rw [ExifLoader.fillWindow]
      dsimp only
      rw [hb, List.nil_append]
      rfl
    have hdetect : l.detect (bs.take 12) = l.toSearch := by
      rw [Search.detect, if_pos h.known]
    rw [exifLoaderWrite_window hscans hne hle, hwindow, hdetect, hb]
    rw [hb] at ih
    rw [← List.take_append_drop 12 bs] at h
    exact afterScan_leads (w := l.fillWindow bs) hroom hbuf h hn fun m hrest =>
      ih m hrest rfl hroom hbuf

/-! ## JPEG files -/

/-- A segment that a loader skips. -/
structure Segment where
  marker : Byte
  skipped : marker ∈ skippedMarkers
  payload : List Byte
  nonempty : 0 < payload.length
  length_lt : payload.length + 2 < 65536

/-- A segment begins with its length, which counts itself. -/
def sizedBytes (payload : List Byte) : List Byte :=
  shortBytes .motorola (BitVec.ofNat 16 (payload.length + 2)) ++ payload

def Segment.bytes (s : Segment) : List Byte := 0xff :: s.marker :: sizedBytes s.payload

/-- `APP1` with EXIF data. -/
def app1Bytes (exif : List Byte) : List Byte := 0xff :: 0xe1 :: sizedBytes exif

section Jpeg

variable {f : ExifLoaderDataFormat} {bs t : List Byte} {n : BitVec 32}

/-- The two bytes of a size. -/
theorem leads_size {v : BitVec 16} (hf : f = .exif ∨ f = .jpeg)
    (h : Leads (Search.sized ⟨.readSizeByte00, f, ((v >>> 8).setWidth 8).setWidth 32 <<< 8⟩
      (v.setWidth 32)) bs n t) :
    Leads ⟨.readSizeByte08, f, 0⟩ (shortBytes .motorola v ++ bs) n t := by
  have hsize : ((v >>> 8).setWidth 8).setWidth 32 <<< 8 ||| (v.setWidth 8).setWidth 32 =
      v.setWidth 32 := by
    ext i hi
    interval_cases i <;> simp
  have hlow : Leads ⟨.readSizeByte00, f, ((v >>> 8).setWidth 8).setWidth 32 <<< 8⟩
      (v.setWidth 8 :: bs) n t := by
    refine .step (by simp) hf (by simp) (fun _ _ => ?_) h
    rw [← hsize]
    rfl
  refine .step (by simp) hf (by simp) (fun _ _ => ?_) hlow
  show some (Search.mk .readSizeByte00 f (0#32 ||| _)) = _
  rw [BitVec.zero_or]

theorem leads_skip {payload : List Byte}
    (h : Leads ⟨.read, .jpeg, 0⟩ bs n t) (hlt : payload.length < 4294967296)
    (hpos : 0 < payload.length) :
    Leads ⟨.skipBytes, .jpeg, BitVec.ofNat 32 payload.length⟩ (payload ++ bs) n t := by
  induction payload with
  | nil => exact absurd hpos (Nat.lt_irrefl 0)
  | cons c payload ih =>
    rw [List.length_cons] at hlt ⊢
    have hsub : BitVec.ofNat 32 (payload.length + 1) - 1 = BitVec.ofNat 32 payload.length := by
      rw [BitVec.ofNat_add]
      exact BitVec.add_sub_cancel _ _
    have hne : BitVec.ofNat 32 (payload.length + 1) ≠ 0 := by
      intro hzero
      have hnat := congrArg BitVec.toNat hzero
      rw [BitVec.toNat_ofNat, Nat.mod_eq_of_lt hlt] at hnat
      exact absurd hnat (Nat.succ_ne_zero _)
    refine .step (by simp) (.inr rfl) (fun _ => hne) (fun _ _ => rfl) ?_
    dsimp only
    rw [hsub]
    rcases Nat.eq_zero_or_pos payload.length with hzero | hpos
    · rw [List.eq_nil_of_length_eq_zero hzero]
      exact h
    · rw [if_neg]
      · exact ih (by omega) hpos
      · intro hzero
        have hnat := congrArg BitVec.toNat hzero
        rw [BitVec.toNat_ofNat, Nat.mod_eq_of_lt (by omega)] at hnat
        exact absurd hnat (Nat.ne_of_gt hpos)

/-- A fill byte or the first byte of a marker. -/
theorem leads_ff {size : BitVec 32} (hf : f = .exif ∨ f = .jpeg)
    (h : Leads ⟨.read, f, size⟩ bs n t) : Leads ⟨.read, f, size⟩ (0xff :: bs) n t :=
  .step (by simp) hf (by simp) (fun _ _ => rfl) h

theorem leads_segment (s : Segment) {size : BitVec 32} (hf : f = .exif ∨ f = .jpeg)
    (h : Leads ⟨.read, .jpeg, 0⟩ bs n t) : Leads ⟨.read, f, size⟩ (s.bytes ++ bs) n t := by
  have hmarker : s.marker ≠ 0xe1 := by
    have hmem := s.skipped
    intro heq
    rw [heq] at hmem
    exact absurd hmem (by decide)
  have hlt := s.length_lt
  have hsize : (BitVec.ofNat 16 (s.payload.length + 2)).setWidth 32 - 2 =
      BitVec.ofNat 32 s.payload.length := by
    apply BitVec.eq_of_toNat_eq
    rw [BitVec.toNat_sub_of_le, BitVec.toNat_setWidth, BitVec.toNat_ofNat, BitVec.toNat_ofNat]
    · show _ - 2 = _
      omega
    · rw [BitVec.le_def, BitVec.toNat_setWidth, BitVec.toNat_ofNat]
      show 2 ≤ _
      omega
  have hrest : Leads ⟨.readSizeByte08, .jpeg, 0⟩ (sizedBytes s.payload ++ bs) n t := by
    rw [sizedBytes, List.append_assoc]
    refine leads_size (.inr rfl) ?_
    show Leads ⟨.skipBytes, .jpeg, _ - 2⟩ _ n t
    rw [hsize]
    exact leads_skip h (by omega) s.nonempty
  refine leads_ff hf (.step (by simp) hf (by simp) (fun w _ => ?_) hrest)
  show Search.marker _ _ _ = _
  rw [Search.marker, if_neg hmarker, if_pos s.skipped]

/-- As much of the header as is in the window is the header. -/
theorem seesHeader_prefix {w exif : List Byte} {a b : Byte} (h : exif.take 6 = exifHeader)
    (hw : w <+: a :: b :: exif) : seesHeader w = true := by
  rcases w with _ | ⟨x, _ | ⟨y, u⟩⟩
  · rfl
  · rfl
  · have hu : u = exif.take u.length :=
      List.prefix_iff_eq_take.mp (List.cons_prefix_cons.mp (List.cons_prefix_cons.mp hw).2).2
    show (u.take 6 == exifHeader.take u.length) = true
    rw [beq_iff_eq, ← h, List.take_take, Nat.min_comm, ← List.take_take, ← hu]

theorem leads_app1 {exif tail : List Byte} {size : BitVec 32} (hf : f = .exif ∨ f = .jpeg)
    (hexif : exif.take 6 = exifHeader) (hlt : exif.length + 2 < 65536) :
    Leads ⟨.read, f, size⟩ (app1Bytes exif ++ tail) (BitVec.ofNat 32 (exif.length + 2))
      (exif ++ tail) := by
  have hsize : (BitVec.ofNat 16 (exif.length + 2)).setWidth 32 =
      BitVec.ofNat 32 (exif.length + 2) := by
    apply BitVec.eq_of_toNat_eq
    rw [BitVec.toNat_setWidth, BitVec.toNat_ofNat, BitVec.toNat_ofNat]
    omega
  have hrest : Leads ⟨.readSizeByte08, .exif, 0⟩ (sizedBytes exif ++ tail)
      (BitVec.ofNat 32 (exif.length + 2)) (exif ++ tail) := by
    rw [sizedBytes, List.append_assoc]
    refine leads_size (.inl rfl) ?_
    rw [← hsize]
    exact .found rfl (by simp [Search.sized])
  have hsees (w : List Byte) (hw : w <+: sizedBytes exif ++ tail) : seesHeader w = true := by
    have hlen := congrArg List.length hexif
    rw [List.length_take, show exifHeader.length = 6 from rfl] at hlen
    have htake : (exif ++ tail).take 6 = exifHeader := by
      rw [List.take_append_of_le_length (by omega), hexif]
    exact seesHeader_prefix htake hw
  refine leads_ff hf (.step (by simp) hf (by simp) (fun w hw => ?_) hrest)
  show Search.marker _ _ _ = _
  rw [Search.marker, if_pos rfl, hsees w hw]
  rfl

/-- A byte that is no marker is passed over. -/
theorem scan_fill {c : Byte} (h : c = 0xff ∨ c = 0xd8) (size : BitVec 32) (bs : List Byte) :
    scan ⟨.read, f, size⟩ (c :: bs) = scan ⟨.read, f, size⟩ bs := by
  rcases h with rfl | rfl <;> rfl

/-- A new loader finds what a file with a marker leads to. -/
theorem exifLoaderWrite_jpeg {c : Byte} (hc : c ≠ 0xff ∧ c ≠ 0xd8)
    (h : Leads ⟨.read, .jpeg, 0⟩ (0xff :: c :: bs) n t) (hn : 0 < n.toNat) (ht : 12 ≤ t.length) :
    Found t n (exifLoaderWrite ExifLoader.new (0xff :: 0xd8 :: 0xff :: c :: bs)) := by
  obtain ⟨s, hstep, hrest⟩ : ∃ s, (∀ w, w <+: bs → Search.marker ⟨.read, .jpeg, 0⟩ c w = some s) ∧
      Leads s bs n t := by
    cases h with
    | found hstate => cases hstate
    | step _ _ _ hstep h =>
      have hs := hstep [] List.nil_prefix
      rw [← Option.some.inj hs] at h
      cases h with
      | found hstate => cases hstate
      | step _ _ _ hstep h => exact ⟨_, hstep, h⟩
  have hlen := hrest.suffix.length_le
  have hscan : scan ExifLoader.new.toSearch (0xff :: 0xd8 :: 0xff :: c :: bs.take 8) =
      scan s (bs.take 8) := by
    have hmarker := hstep (bs.take 8) (List.take_prefix 8 bs)
    have hunknown : Search.marker ⟨.read, .unknown, 0⟩ c (bs.take 8) = some s := by
      rw [← hmarker, Search.marker, Search.marker]
      simp only [hc.1, hc.2, or_self, if_false]
    show scan ⟨.read, .unknown, 0⟩ _ = _
    rw [scan_fill (.inl rfl), scan_fill (.inr rfl), scan_fill (.inl rfl)]
    exact scan_step (by simp) hunknown
  have hdetect : ExifLoader.new.detect (0xff :: 0xd8 :: 0xff :: c :: bs.take 8) =
      ExifLoader.new.toSearch := by
    rw [Search.detect, if_neg (by simp [ExifLoader.new]), if_neg, if_neg]
    · intro heq
      injection heq with heq _
      exact absurd heq (by decide)
    · intro heq
      injection heq with heq _
      exact absurd heq (by decide)
  have hscans : ExifLoader.new.Scans := ⟨by simp [ExifLoader.new], by simp [ExifLoader.new]⟩
  rw [exifLoaderWrite_window hscans (by simp) (by simp only [List.length_cons]; omega)]
  show Found t n (afterScan _ (bs.drop 8) (scan (ExifLoader.new.detect
    (0xff :: 0xd8 :: 0xff :: c :: bs.take 8)) (0xff :: 0xd8 :: 0xff :: c :: bs.take 8)))
  rw [hdetect, hscan]
  rw [← List.take_append_drop 8 bs] at hrest
  exact afterScan_leads rfl rfl hrest hn fun m hmore =>
    exifLoaderWrite_leads hmore rfl rfl rfl hn ht

/-- A JPEG file with some segments before its EXIF data. -/
def jpegFile (segments : List Segment) (exif tail : List Byte) : List Byte :=
  0xff :: 0xd8 :: (segments.flatMap Segment.bytes ++ (app1Bytes exif ++ tail))

theorem leads_segments {exif tail : List Byte} (hexif : exif.take 6 = exifHeader)
    (hlt : exif.length + 2 < 65536) : ∀ segments : List Segment,
      Leads ⟨.read, .jpeg, 0⟩ (segments.flatMap Segment.bytes ++ (app1Bytes exif ++ tail))
        (BitVec.ofNat 32 (exif.length + 2)) (exif ++ tail)
  | [] => leads_app1 (.inr rfl) hexif hlt
  | s :: segments => by
    rw [List.flatMap_cons, List.append_assoc]
    exact leads_segment s (.inr rfl) (leads_segments hexif hlt segments)

/-- The EXIF data of a JPEG file is found, with two bytes of what is behind it: its length counts
the two bytes of the length. -/
theorem exifLoaderWriteFile_jpeg {exif : List Byte} (hexif : exif.take 6 = exifHeader)
    (hlen : 12 ≤ exif.length) (hlt : exif.length + 2 < 65536) (segments : List Segment)
    (tail : List Byte) :
    ∃ l, exifLoaderWriteFile ExifLoader.new (jpegFile segments exif tail) = some l ∧
      l.dataFormat ≠ .unknown ∧ l.buf = exif ++ tail.take 2 := by
  have hleads := @leads_segments exif tail hexif hlt segments
  have hn : (BitVec.ofNat 32 (exif.length + 2)).toNat = exif.length + 2 := by
    rw [BitVec.toNat_ofNat]
    omega
  obtain ⟨c, bs, hc, hbody⟩ : ∃ c bs, (c ≠ 0xff ∧ c ≠ 0xd8) ∧
      segments.flatMap Segment.bytes ++ (app1Bytes exif ++ tail) = 0xff :: c :: bs := by
    cases segments with
    | nil => exact ⟨0xe1, _, by decide, rfl⟩
    | cons s segments =>
      refine ⟨s.marker, _, ?_, rfl⟩
      have hmem := s.skipped
      constructor <;>
      · intro heq
        rw [heq] at hmem
        exact absurd hmem (by decide)
  rw [hbody] at hleads
  obtain ⟨l, more, hwrite, hknown, hbuf⟩ := exifLoaderWrite_jpeg hc hleads (by omega)
    (by rw [List.length_append]; omega)
  refine ⟨l, ?_, hknown, ?_⟩
  · rw [jpegFile, hbody, exifLoaderWriteFile_eq, hwrite]
    rfl
  · rw [hbuf, hn, List.take_length_add_append]

end Jpeg

end Ancora.Exif
