import Ancora.Exif.Utils
import Ancora.Exif.Tag

/-!
# Entries (libexifa/exif-entry.c)

An entry is a tag with an array of components. `exif_entry_fix` brings the format of an entry in
line with the specification, `exif_entry_initialize` gives a new entry its tag and its default.

- `ExifEntry`: the entry; its block is NULL when it has no bytes, and `size` is its length.
- `ExifEntry.Fits`: the block has room for the components. `Exact`: and for nothing else.
- `exifEntryFix`: no result means that it left a block.
- **`exifEntryFix_fits`**: an entry that fits can be fixed, and fits then.
- **`exifEntryFix_fixed`**: fixing an entry again changes nothing.
- `exifEntryInitialize_exact`, `exifEntryFix_initialize`: the defaults are as they should be.

Allocations succeed here, and an entry is part of an `ExifData`, from where the order comes.
-/

namespace Ancora.Exif

namespace ExifTag

def imageWidth : ExifTag := 0x0100
def imageLength : ExifTag := 0x0101
def bitsPerSample : ExifTag := 0x0102
def compression : ExifTag := 0x0103
def photometricInterpretation : ExifTag := 0x0106
def imageDescription : ExifTag := 0x010e
def make : ExifTag := 0x010f
def model : ExifTag := 0x0110
def orientation : ExifTag := 0x0112
def samplesPerPixel : ExifTag := 0x0115
def xResolution : ExifTag := 0x011a
def yResolution : ExifTag := 0x011b
def planarConfiguration : ExifTag := 0x011c
def resolutionUnit : ExifTag := 0x0128
def software : ExifTag := 0x0131
def dateTime : ExifTag := 0x0132
def artist : ExifTag := 0x013b
def whitePoint : ExifTag := 0x013e
def primaryChromaticities : ExifTag := 0x013f
def jpegInterchangeFormat : ExifTag := 0x0201
def jpegInterchangeFormatLength : ExifTag := 0x0202
def ycbcrSubSampling : ExifTag := 0x0212
def ycbcrPositioning : ExifTag := 0x0213
def referenceBlackWhite : ExifTag := 0x0214
def copyright : ExifTag := 0x8298
def exposureTime : ExifTag := 0x829a
def fnumber : ExifTag := 0x829d
def exifIfdPointer : ExifTag := 0x8769
def exposureProgram : ExifTag := 0x8822
def gpsInfoIfdPointer : ExifTag := 0x8825
def isoSpeedRatings : ExifTag := 0x8827
def exifVersion : ExifTag := 0x9000
def dateTimeOriginal : ExifTag := 0x9003
def dateTimeDigitized : ExifTag := 0x9004
def componentsConfiguration : ExifTag := 0x9101
def compressedBitsPerPixel : ExifTag := 0x9102
def shutterSpeedValue : ExifTag := 0x9201
def apertureValue : ExifTag := 0x9202
def brightnessValue : ExifTag := 0x9203
def exposureBiasValue : ExifTag := 0x9204
def maxApertureValue : ExifTag := 0x9205
def subjectDistance : ExifTag := 0x9206
def meteringMode : ExifTag := 0x9207
def lightSource : ExifTag := 0x9208
def flash : ExifTag := 0x9209
def focalLength : ExifTag := 0x920a
def subjectArea : ExifTag := 0x9214
def makerNote : ExifTag := 0x927c
def userComment : ExifTag := 0x9286
def subSecTime : ExifTag := 0x9290
def subSecTimeOriginal : ExifTag := 0x9291
def subSecTimeDigitized : ExifTag := 0x9292
def flashPixVersion : ExifTag := 0xa000
def colorSpace : ExifTag := 0xa001
def pixelXDimension : ExifTag := 0xa002
def pixelYDimension : ExifTag := 0xa003
def interoperabilityIfdPointer : ExifTag := 0xa005
def flashEnergy : ExifTag := 0xa20b
def focalPlaneXResolution : ExifTag := 0xa20e
def focalPlaneYResolution : ExifTag := 0xa20f
def focalPlaneResolutionUnit : ExifTag := 0xa210
def subjectLocation : ExifTag := 0xa214
def exposureIndex : ExifTag := 0xa215
def sensingMethod : ExifTag := 0xa217
def fileSource : ExifTag := 0xa300
def sceneType : ExifTag := 0xa301
def customRendered : ExifTag := 0xa401
def exposureMode : ExifTag := 0xa402
def whiteBalance : ExifTag := 0xa403
def digitalZoomRatio : ExifTag := 0xa404
def focalLengthIn35mmFilm : ExifTag := 0xa405
def sceneCaptureType : ExifTag := 0xa406
def gainControl : ExifTag := 0xa407
def contrast : ExifTag := 0xa408
def saturation : ExifTag := 0xa409
def sharpness : ExifTag := 0xa40a
def subjectDistanceRange : ExifTag := 0xa40c

end ExifTag

structure ExifEntry where
  tag : ExifTag
  format : ExifFormat
  components : BitVec 32
  data : List Byte
  deriving DecidableEq, Repr

/-- The block has room for the components. -/
def ExifEntry.Fits (e : ExifEntry) : Prop := e.components.toNat * e.format.size ≤ e.data.length

/-- The block is the array of the components. -/
def ExifEntry.Exact (e : ExifEntry) : Prop := e.components.toNat * e.format.size = e.data.length

/-! ## Fixing -/

/-- `exif_get_short_convert` -/
def exifGetShortConvert (d : List Byte) (i : Nat) (format : ExifFormat) (order : ExifByteOrder) :
    Option (BitVec 16) :=
  match format with
  | .long | .slong => (exifGetLong d i order).map (BitVec.setWidth 16)
  | .short | .sshort => exifGetShort d i order
  | .byte | .sbyte => d[i]?.map (BitVec.setWidth 16)
  | .ascii | .rational | .undefined | .srational | .float | .double => some 0

/-- The loop of `exif_entry_fix` that makes `newdata` of `data`. -/
def shortsLoop (order : ExifByteOrder) (format : ExifFormat) (data : List Byte) :
    Nat → Nat → List Byte → Option (List Byte)
  | 0, _, newdata => some newdata
  | n + 1, i, newdata => do
    let v ← exifGetShortConvert data (i * format.size % 4294967296) format order
    let newdata ← exifSetShort newdata (i * ExifFormat.size .short % 4294967296) order v
    shortsLoop order format data n (i + 1) newdata

/-- "These tags all need to be of format SHORT." -/
def shortTags : List ExifTag :=
  [ExifTag.ycbcrSubSampling, .subjectArea, .colorSpace, .planarConfiguration, .sensingMethod,
    .orientation, .ycbcrPositioning, .photometricInterpretation, .customRendered, .exposureMode,
    .whiteBalance, .sceneCaptureType, .gainControl, .saturation, .contrast, .sharpness,
    .isoSpeedRatings]

/-- "All these tags need to be of format 'Rational'." -/
def rationalTags : List ExifTag :=
  [ExifTag.fnumber, .apertureValue, .exposureTime, .focalLength]

/-- "All these tags need to be of format 'SRational'." -/
def srationalTags : List ExifTag :=
  [ExifTag.exposureBiasValue, .brightnessValue, .shutterSpeedValue]

def fixShort (order : ExifByteOrder) (e : ExifEntry) : Option ExifEntry :=
  match e.format with
  | .long | .slong | .byte | .sbyte | .sshort =>
    let newsize : BitVec 32 := e.components * BitVec.ofNat 32 (ExifFormat.size .short)
    if newsize = 0 then some e
    else do
      let newdata ← shortsLoop order e.format e.data e.components.toNat 0
        (List.replicate newsize.toNat 0)
      some { e with data := newdata, format := .short }
  | .ascii | .short | .rational | .undefined | .srational | .float | .double => some e

/-- The two loops that read a rational of one sign and write it as the other. -/
def fixRational (wrong right : ExifFormat) (order : ExifByteOrder) (e : ExifEntry) :
    Option ExifEntry :=
  if e.format = wrong then do
    let data ← eachComponent (convertRational order order) wrong.size e.components.toNat 0 e.data
    some { e with data := data, format := right }
  else some e

/-- `"ASCII\0\0\0"` -/
def idAscii : List Byte := [0x41, 0x53, 0x43, 0x49, 0x49, 0, 0, 0]

/-- `"UNICODE\0"` -/
def idUnicode : List Byte := [0x55, 0x4e, 0x49, 0x43, 0x4f, 0x44, 0x45, 0]

/-- `"JIS\0\0\0\0\0"` -/
def idJis : List Byte := [0x4a, 0x49, 0x53, 0, 0, 0, 0, 0]

/-- No format identifier. -/
def idNone : List Byte := [0, 0, 0, 0, 0, 0, 0, 0]

/-- How many of the first bytes are zero or, if none is, a blank. -/
def emptyBytes (data : List Byte) : Nat :=
  let i := (data.takeWhile (· == 0)).length
  if i = 0 then (data.takeWhile (· == 0x20)).length else i

/-- "There need to be at least 8 bytes", and "first 8 bytes need to follow the specification". -/
def withId (e : ExifEntry) : ExifEntry :=
  if e.data.length < 8 then
    { e with data := idAscii ++ e.data, components := e.components + 8 }
  else if 8 ≤ emptyBytes e.data ∧ emptyBytes e.data < e.data.length then
    { e with data := idAscii ++ e.data.drop 8 }
  else if e.data.take 8 ∉ [idAscii, idUnicode, idJis, idNone] then
    { e with data := idAscii ++ e.data, components := e.components + 8 }
  else e

/-- The case `EXIF_TAG_USER_COMMENT` of `exif_entry_fix`. -/
def fixUserComment (e : ExifEntry) : ExifEntry :=
  let data := if 8 ≤ e.data.length ∧ e.data.head? = some 0 then idNone ++ e.data.drop 8 else e.data
  withId { e with format := .undefined, data := data }

/-- `exif_entry_fix` -/
def exifEntryFix (order : ExifByteOrder) (e : ExifEntry) : Option ExifEntry :=
  if e.tag ∈ shortTags then fixShort order e
  else if e.tag ∈ rationalTags then fixRational .srational .rational order e
  else if e.tag ∈ srationalTags then fixRational .rational .srational order e
  else if e.tag = ExifTag.userComment then some (fixUserComment e)
  else some e

/-! ## Defaults -/

/-- `exif_entry_initialize` for an entry without a block. `now` is the time as 19 characters and
a zero. -/
def exifEntryInitialize (now : Vector Byte 20) (order : ExifByteOrder) (tag : ExifTag) :
    ExifEntry :=
  let none := [0x5b, 0x4e, 0x6f, 0x6e, 0x65, 0x5d, 0]
  if tag ∈ [ExifTag.pixelXDimension, .pixelYDimension, .exifIfdPointer, .gpsInfoIfdPointer,
      .interoperabilityIfdPointer, .jpegInterchangeFormatLength, .jpegInterchangeFormat] then
    ⟨tag, .long, 1, List.replicate 4 0⟩
  else if tag ∈ [ExifTag.subjectLocation, .sensingMethod, .photometricInterpretation,
      .compression, .exposureMode, .whiteBalance, .focalLengthIn35mmFilm, .gainControl,
      .subjectDistanceRange, .flash, .isoSpeedRatings, .imageWidth, .imageLength,
      .exposureProgram, .lightSource, .meteringMode, .customRendered, .sceneCaptureType,
      .contrast, .saturation, .sharpness] then
    ⟨tag, .short, 1, shortBytes order 0⟩
  else if tag ∈ [ExifTag.orientation, .planarConfiguration, .ycbcrPositioning] then
    ⟨tag, .short, 1, shortBytes order 1⟩
  else if tag ∈ [ExifTag.resolutionUnit, .focalPlaneResolutionUnit] then
    ⟨tag, .short, 1, shortBytes order 2⟩
  else if tag = ExifTag.samplesPerPixel then ⟨tag, .short, 1, shortBytes order 3⟩
  else if tag = ExifTag.colorSpace then ⟨tag, .short, 1, shortBytes order 0xffff⟩
  else if tag = ExifTag.bitsPerSample then
    ⟨tag, .short, 3, shortBytes order 8 ++ shortBytes order 8 ++ shortBytes order 8⟩
  else if tag = ExifTag.ycbcrSubSampling then
    ⟨tag, .short, 2, shortBytes order 2 ++ shortBytes order 1⟩
  else if tag ∈ [ExifTag.exposureBiasValue, .brightnessValue, .shutterSpeedValue] then
    ⟨tag, .srational, 1, List.replicate 8 0⟩
  else if tag ∈ [ExifTag.exposureTime, .focalPlaneXResolution, .focalPlaneYResolution,
      .exposureIndex, .flashEnergy, .fnumber, .focalLength, .subjectDistance, .maxApertureValue,
      .apertureValue, .compressedBitsPerPixel, .primaryChromaticities, .digitalZoomRatio] then
    ⟨tag, .rational, 1, List.replicate 8 0⟩
  else if tag ∈ [ExifTag.xResolution, .yResolution] then
    ⟨tag, .rational, 1, rationalBytes order ⟨72, 1⟩⟩
  else if tag = ExifTag.whitePoint then ⟨tag, .rational, 2, List.replicate 16 0⟩
  else if tag = ExifTag.referenceBlackWhite then
    ⟨tag, .rational, 6, [0, 255, 0, 255, 0, 255].flatMap fun n => rationalBytes order ⟨n, 1⟩⟩
  else if tag ∈ [ExifTag.dateTime, .dateTimeOriginal, .dateTimeDigitized] then
    ⟨tag, .ascii, 20, now.toList⟩
  else if tag ∈ [ExifTag.subSecTime, .subSecTimeOriginal, .subSecTimeDigitized] then
    ⟨tag, .ascii, 0, []⟩
  else if tag ∈ [ExifTag.imageDescription, .make, .model, .software, .artist] then
    ⟨tag, .ascii, 7, none⟩
  else if tag = ExifTag.copyright then ⟨tag, .ascii, 14, none ++ none⟩
  else if tag = ExifTag.sceneType then ⟨tag, .undefined, 1, [1]⟩
  else if tag = ExifTag.fileSource then ⟨tag, .undefined, 1, [3]⟩
  else if tag = ExifTag.flashPixVersion then ⟨tag, .undefined, 4, [0x30, 0x31, 0x30, 0x30]⟩
  else if tag = ExifTag.exifVersion then ⟨tag, .undefined, 4, [0x30, 0x32, 0x31, 0x30]⟩
  else if tag = ExifTag.componentsConfiguration then ⟨tag, .undefined, 4, [1, 2, 3, 0]⟩
  else ⟨tag, .undefined, 0, []⟩

/-! ## What fixing does -/

/-- The component as a short, as far as it is one. -/
def ExifValue.toShort : ExifValue → BitVec 16
  | .short v => v
  | .long v => v.setWidth 16
  | .bytes [b] => b.setWidth 16
  | .bytes _ => 0
  | .rational _ => 0

section Fixing

variable {order : ExifByteOrder} {f : ExifFormat} {e e' : ExifEntry}

/-- The conversion is that of the value. -/
theorem exifGetShortConvert_eq (hf : f ∈ [ExifFormat.long, .slong, .byte, .sbyte, .sshort])
    (d : List Byte) (i : Nat) :
    exifGetShortConvert d i f order = (exifGetValue d i order f).map ExifValue.toShort := by
  have hbyte : d[i]?.map (BitVec.setWidth 16) =
      ((Block.read d i 1).map ExifValue.bytes).map ExifValue.toShort := by
    rw [Block.read_one]
    cases d[i]? <;> rfl
  simp only [List.mem_cons, List.not_mem_nil, or_false] at hf
  rcases hf with rfl | rfl | rfl | rfl | rfl
  · rw [exifGetShortConvert, exifGetValue, Option.map_map]
    rfl
  · rw [exifGetShortConvert, exifGetValue, Option.map_map]
    rfl
  · exact hbyte
  · exact hbyte
  · rw [exifGetShortConvert, exifGetValue, Option.map_map]
    exact Option.map_id'.symm

/-- **Run lemma**: each component becomes a short. -/
theorem shortsLoop_eq (order : ExifByteOrder) {vs : List ExifValue}
    (hf : f ∈ [ExifFormat.long, .slong, .byte, .sbyte, .sshort]) (hvs : ∀ v ∈ vs, v.OfFormat f)
    (rest : List Byte) (hlt : vs.length * 8 < 4294967296) :
    ∀ (n i : Nat) (done old : List Byte), i + n = vs.length → done.length = i * 2 →
      old.length = n * 2 →
      shortsLoop order f (vs.flatMap (·.write order) ++ rest) n i (done ++ old) =
        some (done ++ ((vs.drop i).map ExifValue.toShort).flatMap (shortBytes order))
  | 0, i, done, old, hi, _, hold => by
    have hnil : old = [] := List.eq_nil_of_length_eq_zero (by omega)
    rw [List.drop_eq_nil_of_le (by omega), hnil]
    rfl
  | n + 1, i, done, old, hi, hdone, hold => by
    have hin : i < vs.length := by omega
    have hsize := f.size_le
    have hplace : i * f.size % 4294967296 = i * f.size := by
      refine Nat.mod_eq_of_lt (Nat.lt_of_le_of_lt ?_ hlt)
      exact Nat.mul_le_mul (by omega) hsize
    have hread : exifGetShortConvert (vs.flatMap (·.write order) ++ rest) (i * f.size) f order =
        some vs[i].toShort := by
      rw [exifGetShortConvert_eq hf, exifGetValue_flatMap hvs rest i hin]
      rfl
    have hsplit : done ++ old = done ++ old.take 2 ++ old.drop 2 := by
      rw [List.append_assoc, List.take_append_drop]
    have hwrite : exifSetShort (done ++ old) (i * ExifFormat.size .short % 4294967296) order
        vs[i].toShort = some (done ++ shortBytes order vs[i].toShort ++ old.drop 2) := by
      rw [exifSetShort, hsplit]
      refine Block.write_mid ?_ ?_
      · rw [List.length_take, length_shortBytes]
        omega
      · rw [hdone]
        exact Nat.mod_eq_of_lt (by show i * 2 < _; omega)
    have hloop := shortsLoop_eq order hf hvs rest hlt n (i + 1)
      (done ++ shortBytes order vs[i].toShort) (old.drop 2) (by omega)
      (by rw [List.length_append, length_shortBytes]; omega) (by rw [List.length_drop]; omega)
    rw [shortsLoop, hplace, hread, Option.bind_eq_bind, Option.bind_some, hwrite,
      Option.bind_eq_bind, Option.bind_some, hloop, List.drop_eq_getElem_cons hin, List.map_cons,
      List.flatMap_cons, List.append_assoc]

/-- What becomes of an entry of another format that should be of format SHORT. -/
theorem fixShort_eq (hf : e.format ∈ [ExifFormat.long, .slong, .byte, .sbyte, .sshort])
    {vs : List ExifValue} {rest : List Byte} (hvs : ∀ v ∈ vs, v.OfFormat e.format)
    (hdata : e.data = vs.flatMap (·.write order) ++ rest) (hlen : vs.length = e.components.toNat)
    (hlt : e.components.toNat * 8 < 4294967296) (hpos : 0 < e.components.toNat) :
    fixShort order e = some { e with
      data := (vs.map ExifValue.toShort).flatMap (shortBytes order), format := .short } := by
  have hnewsize : (e.components * BitVec.ofNat 32 (ExifFormat.size .short)).toNat =
      e.components.toNat * 2 := by
    rw [BitVec.toNat_mul]
    exact Nat.mod_eq_of_lt (by show e.components.toNat * 2 < 4294967296; omega)
  have hne : ¬ e.components * BitVec.ofNat 32 (ExifFormat.size .short) = 0 := by
    intro h
    rw [h] at hnewsize
    have hzero : (0 : BitVec 32).toNat = 0 := rfl
    omega
  have hloop := shortsLoop_eq order hf hvs rest (by omega) e.components.toNat 0 []
    (List.replicate (e.components.toNat * 2) 0) (by omega) rfl (by simp)
  rw [List.nil_append, List.nil_append, List.drop_zero, ← hdata] at hloop
  have hconvert : (do
      let newdata ← shortsLoop order e.format e.data e.components.toNat 0
        (List.replicate (e.components * BitVec.ofNat 32 (ExifFormat.size .short)).toNat 0)
      some { e with data := newdata, format := .short }) = some { e with
      data := (vs.map ExifValue.toShort).flatMap (shortBytes order), format := .short } := by
    rw [hnewsize, hloop]
    rfl
  simp only [List.mem_cons, List.not_mem_nil, or_false] at hf
  unfold fixShort
  rcases hf with hf | hf | hf | hf | hf <;>
    · simp only [hf] at hconvert ⊢
      rw [if_neg hne]
      exact hconvert

/-- A rational of the wrong sign is written as one of the right sign. -/
theorem fixRational_eq {wrong right : ExifFormat}
    (hwrong : wrong = .rational ∨ wrong = .srational) (hformat : e.format = wrong)
    (hfits : e.Fits) (hlt : e.components.toNat * 8 < 4294967296) :
    fixRational wrong right order e = some { e with format := right } := by
  have hsize : wrong.size = 8 := by
    rcases hwrong with rfl | rfl <;> rfl
  obtain ⟨vs, rest, hlen, hvs, hdata⟩ := exists_values wrong order e.components.toNat
    (d := e.data) (by rw [← hformat]; exact hfits)
  have hloop := (converts_rational order order hwrong).eachComponent rest vs
    (a := []) (j := 0) hvs (Nat.zero_mul _).symm (by rw [Nat.zero_add, hlen, hsize]; exact hlt)
  rw [List.nil_append, ← hdata, hlen] at hloop
  rw [fixRational, if_pos hformat, hloop]
  rfl

/-- A user comment that starts with an identifier stays as it is. -/
theorem fixUserComment_of_id (hformat : e.format = .undefined) {rest : List Byte}
    (hdata : e.data = idAscii ++ rest) : fixUserComment e = e := by
  have hlen : ¬ e.data.length < 8 := by
    rw [hdata]
    simp [idAscii]
  have hempty : ¬ (8 ≤ emptyBytes e.data ∧ emptyBytes e.data < e.data.length) := by
    have hzero : emptyBytes e.data = 0 := by
      rw [hdata]
      rfl
    rw [hzero]
    omega
  have hid : ¬ e.data.take 8 ∉ [idAscii, idUnicode, idJis, idNone] := by
    rw [hdata]
    simp [idAscii]
  have hhead : ¬ (8 ≤ e.data.length ∧ e.data.head? = some 0) := by
    rw [hdata]
    rintro ⟨-, h⟩
    exact absurd (Option.some.inj h) (by decide)
  have hsame : ({ e with format := .undefined, data := e.data } : ExifEntry) = e := by
    cases e
    subst hformat
    rfl
  rw [fixUserComment, if_neg hhead, hsame, withId, if_neg hlen, if_neg hempty, if_neg hid]

/-- A user comment is fixed once. -/
theorem fixUserComment_fixed (e : ExifEntry) :
    fixUserComment (fixUserComment e) = fixUserComment e := by
  generalize hdata : (if 8 ≤ e.data.length ∧ e.data.head? = some 0 then idNone ++ e.data.drop 8
    else e.data) = data
  have hfix : fixUserComment e = withId { e with format := .undefined, data := data } := by
    rw [fixUserComment, hdata]
  rw [hfix]
  unfold withId
  dsimp only
  split
  · exact fixUserComment_of_id rfl rfl
  · rename_i hlen
    split
    · exact fixUserComment_of_id rfl rfl
    · rename_i hempty
      split
      · exact fixUserComment_of_id rfl rfl
      · rename_i hid
        -- the identifier is one of the four: only that of no format starts with a zero
        have hzeros : (if 8 ≤ data.length ∧ data.head? = some 0 then idNone ++ data.drop 8
            else data) = data := by
          split
          · rename_i hhead
            have hmem : data.take 8 ∈ [idAscii, idUnicode, idJis, idNone] := not_not.mp hid
            have hfirst : (data.take 8).head? = some 0 := by
              rw [List.head?_take, if_neg (by omega)]
              exact hhead.2
            have hnone : data.take 8 = idNone := by
              simp only [List.mem_cons, List.not_mem_nil, or_false] at hmem
              rcases hmem with h | h | h | h
              · rw [h] at hfirst
                exact absurd (Option.some.inj hfirst) (by decide)
              · rw [h] at hfirst
                exact absurd (Option.some.inj hfirst) (by decide)
              · rw [h] at hfirst
                exact absurd (Option.some.inj hfirst) (by decide)
              · exact h
            rw [← hnone, List.take_append_drop]
          · rfl
        rw [fixUserComment]
        dsimp only
        rw [hzeros, withId, if_neg hlen, if_neg hempty, if_neg hid]

/-- A short is fixed once. -/
theorem fixShort_fixed (h : fixShort order e = some e') :
    e'.tag = e.tag ∧ fixShort order e' = some e' := by
  have hsame (hsome : some e = some e') (hfix : fixShort order e = some e) :
      e'.tag = e.tag ∧ fixShort order e' = some e' := by
    rw [← Option.some.inj hsome]
    exact ⟨rfl, hfix⟩
  have hfix := h
  unfold fixShort at h
  dsimp only at h
  split at h
  iterate 5
    · split at h
      · exact hsame h (hfix.trans h.symm)
      · rw [Option.bind_eq_bind] at h
        obtain ⟨newdata, -, hnew⟩ := Option.bind_eq_some_iff.mp h
        rw [← Option.some.inj hnew]
        exact ⟨rfl, rfl⟩
  all_goals exact hsame h (hfix.trans h.symm)

/-- A rational is fixed once. -/
theorem fixRational_fixed {wrong right : ExifFormat} (hne : wrong ≠ right)
    (h : fixRational wrong right order e = some e') :
    e'.tag = e.tag ∧ fixRational wrong right order e' = some e' := by
  unfold fixRational at h
  split at h
  · rw [Option.bind_eq_bind] at h
    obtain ⟨data, -, hnew⟩ := Option.bind_eq_some_iff.mp h
    rw [← Option.some.inj hnew]
    exact ⟨rfl, if_neg hne.symm⟩
  · rename_i hformat
    rw [← Option.some.inj h]
    exact ⟨rfl, if_neg hformat⟩

theorem tag_withId (e : ExifEntry) : (withId e).tag = e.tag := by
  unfold withId
  split
  · rfl
  · split
    · rfl
    · split <;> rfl

theorem tag_fixUserComment (e : ExifEntry) : (fixUserComment e).tag = e.tag := tag_withId _

/-- Fixing an entry does not change its tag. -/
theorem tag_of_exifEntryFix (h : exifEntryFix order e = some e') : e'.tag = e.tag := by
  unfold exifEntryFix at h
  split at h
  · exact (fixShort_fixed h).1
  · split at h
    · exact (fixRational_fixed (by decide) h).1
    · split at h
      · exact (fixRational_fixed (by decide) h).1
      · split at h
        · rw [← Option.some.inj h]
          exact tag_fixUserComment e
        · rw [← Option.some.inj h]

/-- Fixing an entry again changes nothing. -/
theorem exifEntryFix_fixed (h : exifEntryFix order e = some e') :
    exifEntryFix order e' = some e' := by
  have htag := tag_of_exifEntryFix h
  unfold exifEntryFix at h ⊢
  rw [htag]
  split at h
  · rename_i hshort
    rw [if_pos hshort]
    exact (fixShort_fixed h).2
  · rename_i hshort
    rw [if_neg hshort]
    split at h
    · rename_i hrational
      rw [if_pos hrational]
      exact (fixRational_fixed (by decide) h).2
    · rename_i hrational
      rw [if_neg hrational]
      split at h
      · rename_i hsrational
        rw [if_pos hsrational]
        exact (fixRational_fixed (by decide) h).2
      · rename_i hsrational
        rw [if_neg hsrational]
        split at h
        · rename_i huser
          rw [if_pos huser, ← Option.some.inj h, fixUserComment_fixed]
        · rename_i huser
          rw [if_neg huser]

theorem length_shorts (order : ExifByteOrder) (vs : List (BitVec 16)) :
    (vs.flatMap (shortBytes order)).length = vs.length * 2 := by
  induction vs with
  | nil => rfl
  | cons v vs ih =>
    rw [List.flatMap_cons, List.length_append, length_shortBytes, ih, List.length_cons]
    omega

/-- An entry that fits has at least a byte for each component. -/
theorem ExifEntry.Fits.components_le (h : e.Fits) : e.components.toNat ≤ e.data.length :=
  Nat.le_trans (Nat.le_mul_of_pos_right _ e.format.size_pos) h

/-- A fixed short fits, and is at most twice as long. -/
theorem fixShort_fits (hfits : e.Fits) (hlt : e.data.length < 268435456) :
    ∃ e', fixShort order e = some e' ∧ e'.Fits ∧ e'.data.length ≤ 2 * e.data.length + 8 := by
  have hle := hfits.components_le
  by_cases hf : e.format ∈ [ExifFormat.long, .slong, .byte, .sbyte, .sshort]
  · obtain ⟨vs, rest, hlen, hvs, hdata⟩ :=
      exists_values e.format order e.components.toNat hfits
    by_cases hpos : 0 < e.components.toNat
    · have hlength : ((vs.map ExifValue.toShort).flatMap (shortBytes order)).length =
          e.components.toNat * 2 := by
        rw [length_shorts, List.length_map, hlen]
      refine ⟨_, fixShort_eq hf hvs hdata hlen (by omega) hpos, Nat.le_of_eq hlength.symm, ?_⟩
      rw [hlength]
      omega
    · have hzero : e.components = 0 := BitVec.eq_of_toNat_eq (by simpa using hpos)
      refine ⟨e, ?_, hfits, by omega⟩
      unfold fixShort
      rw [hzero]
      split <;> rfl
  · refine ⟨e, ?_, hfits, by omega⟩
    unfold fixShort
    split
    iterate 5
      · rename_i hformat
        rw [hformat] at hf
        simp at hf
    all_goals rfl

/-- A fixed rational fits as it did before. -/
theorem fixRational_fits {wrong right : ExifFormat}
    (hwrong : wrong = .rational ∨ wrong = .srational)
    (hright : right = .rational ∨ right = .srational) (hfits : e.Fits)
    (hlt : e.data.length < 268435456) :
    ∃ e', fixRational wrong right order e = some e' ∧ e'.Fits ∧
      e'.data.length ≤ 2 * e.data.length + 8 := by
  have hle := hfits.components_le
  by_cases hformat : e.format = wrong
  · refine ⟨_, fixRational_eq hwrong hformat hfits (by omega), ?_, by dsimp only; omega⟩
    have hsame : right.size = e.format.size := by
      rw [hformat]
      rcases hwrong with rfl | rfl <;> rcases hright with rfl | rfl <;> rfl
    show e.components.toNat * right.size ≤ e.data.length
    rw [hsame]
    exact hfits
  · exact ⟨e, if_neg hformat, hfits, by omega⟩

/-- A user comment with its new identifier fits. -/
theorem withId_fits (hformat : e.format = .undefined) (hle : e.components.toNat ≤ e.data.length) :
    (withId e).Fits ∧ (withId e).data.length ≤ e.data.length + 8 := by
  have hsum : (e.components + 8).toNat ≤ e.components.toNat + 8 := by
    rw [BitVec.toNat_add]
    exact Nat.mod_le _ _
  unfold ExifEntry.Fits withId
  split
  · simp only [hformat, List.length_append]
    have hid : idAscii.length = 8 := rfl
    have hone : ExifFormat.size .undefined = 1 := rfl
    rw [hid, hone]
    omega
  · split
    · simp only [hformat, List.length_append, List.length_drop]
      have hid : idAscii.length = 8 := rfl
      have hone : ExifFormat.size .undefined = 1 := rfl
      rw [hid, hone]
      omega
    · split
      · simp only [hformat, List.length_append]
        have hid : idAscii.length = 8 := rfl
        have hone : ExifFormat.size .undefined = 1 := rfl
        rw [hid, hone]
        omega
      · have hone : ExifFormat.size .undefined = 1 := rfl
        rw [hformat, hone]
        omega

/-- A fixed user comment fits. -/
theorem fixUserComment_fits (hfits : e.Fits) :
    (fixUserComment e).Fits ∧ (fixUserComment e).data.length ≤ e.data.length + 8 := by
  have hle := hfits.components_le
  have hlen : (if 8 ≤ e.data.length ∧ e.data.head? = some 0 then idNone ++ e.data.drop 8
      else e.data).length = e.data.length := by
    split
    · have hid : idNone.length = 8 := rfl
      rw [List.length_append, List.length_drop, hid]
      omega
    · rfl
  have h := withId_fits (e := { e with
    format := .undefined
    data := if 8 ≤ e.data.length ∧ e.data.head? = some 0 then idNone ++ e.data.drop 8
      else e.data }) rfl (by rw [hlen]; exact hle)
  rw [hlen] at h
  exact h

/-- An entry that fits can be fixed, and fits then. -/
theorem exifEntryFix_fits (order : ExifByteOrder) (hfits : e.Fits)
    (hlt : e.data.length < 268435456) :
    ∃ e', exifEntryFix order e = some e' ∧ e'.Fits ∧
      e'.data.length ≤ 2 * e.data.length + 8 := by
  unfold exifEntryFix
  split
  · exact fixShort_fits hfits hlt
  · split
    · exact fixRational_fits (.inr rfl) (.inl rfl) hfits hlt
    · split
      · exact fixRational_fits (.inl rfl) (.inr rfl) hfits hlt
      · split
        · have huser := fixUserComment_fits hfits
          exact ⟨_, rfl, huser.1, by omega⟩
        · exact ⟨e, rfl, hfits, by omega⟩

end Fixing

/-! ## What the defaults are -/

theorem ExifEntry.ite_of {P : ExifEntry → Prop} {c : Prop} [Decidable c] {a b : ExifEntry}
    (ha : c → P a) (hb : ¬ c → P b) : P (if c then a else b) := by
  split
  · rename_i h
    exact ha h
  · rename_i h
    exact hb h

section Defaults

variable (now : Vector Byte 20) (order : ExifByteOrder) (tag : ExifTag)

/-- The default of a tag is an array of the components it says. -/
theorem exifEntryInitialize_exact : (exifEntryInitialize now order tag).Exact := by
  have hnow : ExifEntry.Exact ⟨tag, .ascii, 20, now.toList⟩ := by
    show 20 * 1 = now.toList.length
    rw [Vector.length_toList]
  unfold exifEntryInitialize
  dsimp only
  -- one case for each group of tags
  iterate 22
    refine ExifEntry.ite_of (fun _ => ?_) fun _ => ?_
    rotate_left
  all_goals first
    | exact hnow
    | rfl
    | simp [ExifEntry.Exact, ExifFormat.size]

/-- A new entry has its tag. -/
theorem tag_exifEntryInitialize : (exifEntryInitialize now order tag).tag = tag := by
  unfold exifEntryInitialize
  dsimp only
  iterate 22
    refine ExifEntry.ite_of (P := fun e => e.tag = tag) (fun _ => rfl) fun _ => ?_
  rfl

/-- The default has the format that fixing would give it, but that of the user comment. -/
theorem exifEntryFix_initialize (h : tag ≠ ExifTag.userComment) :
    exifEntryFix order (exifEntryInitialize now order tag) =
      some (exifEntryInitialize now order tag) := by
  have hshort : tag ∈ shortTags → (exifEntryInitialize now order tag).format = .short ∨
      (exifEntryInitialize now order tag).format = .undefined := by
    intro htag
    simp only [shortTags, List.mem_cons, List.not_mem_nil, or_false] at htag
    rcases htag with rfl | rfl | rfl | rfl | rfl | rfl | rfl | rfl | rfl | rfl | rfl | rfl | rfl |
      rfl | rfl | rfl | rfl <;> first
      | exact .inl rfl
      | exact .inr rfl
  have hrational : tag ∈ rationalTags → (exifEntryInitialize now order tag).format = .rational := by
    intro htag
    simp only [rationalTags, List.mem_cons, List.not_mem_nil, or_false] at htag
    rcases htag with rfl | rfl | rfl | rfl <;> rfl
  have hsrational : tag ∈ srationalTags →
      (exifEntryInitialize now order tag).format = .srational := by
    intro htag
    simp only [srationalTags, List.mem_cons, List.not_mem_nil, or_false] at htag
    rcases htag with rfl | rfl | rfl <;> rfl
  unfold exifEntryFix
  rw [tag_exifEntryInitialize]
  split
  · rename_i htag
    unfold fixShort
    rcases hshort htag with hformat | hformat <;> rw [hformat]
  · split
    · rename_i htag
      exact if_neg (by rw [hrational htag]; decide)
    · split
      · rename_i htag
        exact if_neg (by rw [hsrational htag]; decide)
      · rfl

end Defaults

end Ancora.Exif
