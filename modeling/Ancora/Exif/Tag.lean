import Ancora.Lib.Bsearch
import Mathlib.Data.List.Sort

/-!
# The table of EXIF tags (libexifa/exif-tag.c)

The table gives the name of each tag and how far it is supported in each IFD. Two tags have two
entries, for the same number has a different meaning in another IFD. A lookup finds the first
entry of a tag by binary search and a step back, and goes on from there as long as the tag is the
same. That works because "the entries MUST be sorted in tag order".

- `exifTagTableFirst`: the binary search and the step back.
- `exifTagGetNameInIfd`, `exifTagGetSupportLevelInIfd`: the lookups. The texts for the user,
  which `exif_tag_get_title_in_ifd` and `exif_tag_get_description_in_ifd` look up in the same
  way, are left out.
- `exifTagTable`: the table.
- **`lookup_eq_scan`**: in a sorted table a lookup finds what a scan of the whole table finds.
- `exifTagTable_sorted`, `exifTagTable_no_overlap`: the table is as its comment asks.
- **`exifTagFromName_nameInIfd`**: a name leads back to its tag, but for one of two tags that
  share theirs.
-/

namespace Ancora.Exif

inductive ExifIfd
  | ifd0
  | ifd1
  | exif
  | gps
  | interoperability
  deriving DecidableEq, Repr

inductive ExifDataType
  | uncompressedChunky
  | uncompressedPlanar
  | uncompressedYcc
  | compressed
  deriving DecidableEq, Repr

inductive ExifSupportLevel
  | unknown
  | notRecorded
  | mandatory
  | optional
  deriving DecidableEq, Repr

/-- `EXIF_DATA_TYPE_COUNT` of them, in their order. -/
def dataTypes : List ExifDataType :=
  [.uncompressedChunky, .uncompressedPlanar, .uncompressedYcc, .compressed]

abbrev ExifTag := BitVec 16

structure TagEntry where
  tag : ExifTag
  name : String
  esl : ExifIfd → ExifDataType → ExifSupportLevel

/-- `RECORDED` -/
def TagEntry.recorded (e : TagEntry) (ifd : ExifIfd) : Bool :=
  e.esl ifd .uncompressedChunky != .notRecorded || e.esl ifd .uncompressedPlanar != .notRecorded ||
    e.esl ifd .uncompressedYcc != .notRecorded || e.esl ifd .compressed != .notRecorded

/-! ## Lookups -/

/-- `match_tag`, with the entry of an index. -/
def matchTag (table : List TagEntry) (tag : ExifTag) (i : Nat) : Ordering :=
  match table[i]? with
  | some e => compare tag.toNat e.tag.toNat
  | none => .lt

/-- The loop of `exif_tag_table_first` that searches backwards. -/
def stepBack (table : List TagEntry) (tag : ExifTag) : Nat → Nat
  | 0 => 0
  | i + 1 =>
    match table[i]? with
    | some e => if e.tag = tag then stepBack table tag i else i + 1
    | none => i + 1

/-- `exif_tag_table_first`. The last entry, which ends the table, is not searched; here the
table is without it. -/
def exifTagTableFirst (table : List TagEntry) (tag : ExifTag) : Option Nat :=
  (Bsearch.search (matchTag table tag) table.length).map (stepBack table tag)

/-- The loops over the entries of a tag: the first for which `p` holds decides. -/
def scanFrom {α : Type} (tag : ExifTag) (p : TagEntry → Bool) (f : TagEntry → α)
    (otherwise : α) : List TagEntry → α
  | [] => otherwise
  | e :: es =>
    if e.tag = tag then if p e then f e else scanFrom tag p f otherwise es
    else otherwise

def lookup {α : Type} (table : List TagEntry) (tag : ExifTag) (p : TagEntry → Bool)
    (f : TagEntry → α) (otherwise : α) : α :=
  match exifTagTableFirst table tag with
  | some first => scanFrom tag p f otherwise (table.drop first)
  | none => otherwise

/-- `exif_tag_get_name_in_ifd` -/
def nameInIfd (table : List TagEntry) (tag : ExifTag) (ifd : ExifIfd) : Option String :=
  lookup table tag (fun e => e.recorded ifd) (fun e => some e.name) none

/-- `get_support_level_in_ifd` -/
def getSupportLevelInIfd (table : List TagEntry) (tag : ExifTag) (ifd : ExifIfd)
    (t : ExifDataType) : ExifSupportLevel :=
  lookup table tag (fun e => e.esl ifd t != .notRecorded) (fun e => e.esl ifd t) .notRecorded

/-- The level is the same for all types of data, and is not "not recorded". -/
def TagEntry.sameLevel (e : TagEntry) (ifd : ExifIfd) : Bool :=
  e.esl ifd .uncompressedChunky != .notRecorded &&
    dataTypes.all fun dt => e.esl ifd dt == e.esl ifd .uncompressedChunky

/-- `get_support_level_any_type` -/
def getSupportLevelAnyType (table : List TagEntry) (tag : ExifTag) (ifd : ExifIfd) :
    ExifSupportLevel :=
  lookup table tag (fun e => e.sameLevel ifd) (fun e => e.esl ifd .uncompressedChunky) .unknown

/-- `exif_tag_get_support_level_in_ifd`; there is no type of data when it is unknown. -/
def supportLevelInIfd (table : List TagEntry) (tag : ExifTag) (ifd : ExifIfd) :
    Option ExifDataType → ExifSupportLevel
  | some t => getSupportLevelInIfd table tag ifd t
  | none => getSupportLevelAnyType table tag ifd

/-- `exif_tag_from_name` -/
def exifTagFromName (table : List TagEntry) (name : String) : ExifTag :=
  match table.find? fun e => e.name == name with
  | some e => e.tag
  | none => 0

/-! ## The table -/

section Table

/-- The level for each type of data. -/
def levels (a b c d : ExifSupportLevel) : ExifDataType → ExifSupportLevel
  | .uncompressedChunky => a
  | .uncompressedPlanar => b
  | .uncompressedYcc => c
  | .compressed => d

/-- The levels for each IFD. -/
def esl (a b c d e : ExifDataType → ExifSupportLevel) : ExifIfd → ExifDataType → ExifSupportLevel
  | .ifd0 => a
  | .ifd1 => b
  | .exif => c
  | .gps => d
  | .interoperability => e

def nnnn := levels .notRecorded .notRecorded .notRecorded .notRecorded
def oooo := levels .optional .optional .optional .optional
def mmmn := levels .mandatory .mandatory .mandatory .notRecorded
def mmmm := levels .mandatory .mandatory .mandatory .mandatory
def omon := levels .optional .mandatory .optional .notRecorded
def nnoo := levels .notRecorded .notRecorded .optional .optional
def nnmn := levels .notRecorded .notRecorded .mandatory .notRecorded
def nnmm := levels .notRecorded .notRecorded .mandatory .mandatory
def nnnm := levels .notRecorded .notRecorded .notRecorded .mandatory
def nnno := levels .notRecorded .notRecorded .notRecorded .optional
def uuuu := levels .unknown .unknown .unknown .unknown

def eslGps := esl nnnn nnnn nnnn oooo nnnn

def eslDef := esl uuuu uuuu uuuu uuuu uuuu

/-- `ExifTagTable` -/
def exifTagTable : List TagEntry :=
  [
    ⟨0x0000, "GPSVersionID", eslGps⟩,
    ⟨0x0001, "InteroperabilityIndex", (esl nnnn nnnn nnnn nnnn oooo)⟩,
    ⟨0x0001, "GPSLatitudeRef", eslGps⟩,
    ⟨0x0002, "InteroperabilityVersion", (esl nnnn nnnn nnnn nnnn oooo)⟩,
    ⟨0x0002, "GPSLatitude", eslGps⟩,
    ⟨0x0003, "GPSLongitudeRef", eslGps⟩,
    ⟨0x0004, "GPSLongitude", eslGps⟩,
    ⟨0x0005, "GPSAltitudeRef", eslGps⟩,
    ⟨0x0006, "GPSAltitude", eslGps⟩,
    ⟨0x0007, "GPSTimeStamp", eslGps⟩,
    ⟨0x0008, "GPSSatellites", eslGps⟩,
    ⟨0x0009, "GPSStatus", eslGps⟩,
    ⟨0x000a, "GPSMeasureMode", eslGps⟩,
    ⟨0x000b, "GPSDOP", eslGps⟩,
    ⟨0x000c, "GPSSpeedRef", eslGps⟩,
    ⟨0x000d, "GPSSpeed", eslGps⟩,
    ⟨0x000e, "GPSTrackRef", eslGps⟩,
    ⟨0x000f, "GPSTrack", eslGps⟩,
    ⟨0x0010, "GPSImgDirectionRef", eslGps⟩,
    ⟨0x0011, "GPSImgDirection", eslGps⟩,
    ⟨0x0012, "GPSMapDatum", eslGps⟩,
    ⟨0x0013, "GPSDestLatitudeRef", eslGps⟩,
    ⟨0x0014, "GPSDestLatitude", eslGps⟩,
    ⟨0x0015, "GPSDestLongitudeRef", eslGps⟩,
    ⟨0x0016, "GPSDestLongitude", eslGps⟩,
    ⟨0x0017, "GPSDestBearingRef", eslGps⟩,
    ⟨0x0018, "GPSDestBearing", eslGps⟩,
    ⟨0x0019, "GPSDestDistanceRef", eslGps⟩,
    ⟨0x001a, "GPSDestDistance", eslGps⟩,
    ⟨0x001b, "GPSProcessingMethod", eslGps⟩,
    ⟨0x001c, "GPSAreaInformation", eslGps⟩,
    ⟨0x001d, "GPSDateStamp", eslGps⟩,
    ⟨0x001e, "GPSDifferential", eslGps⟩,
    ⟨0x00fe, "NewSubfileType", eslDef⟩,
    ⟨0x0100, "ImageWidth", (esl mmmn mmmn nnnn nnnn nnnn)⟩,
    ⟨0x0101, "ImageLength", (esl mmmn mmmn nnnn nnnn nnnn)⟩,
    ⟨0x0102, "BitsPerSample", (esl mmmn mmmn nnnn nnnn nnnn)⟩,
    ⟨0x0103, "Compression", (esl mmmn mmmm nnnn nnnn nnnn)⟩,
    ⟨0x0106, "PhotometricInterpretation", (esl mmmn mmmn nnnn nnnn nnnn)⟩,
    ⟨0x010a, "FillOrder", eslDef⟩,
    ⟨0x010d, "DocumentName", eslDef⟩,
    ⟨0x010e, "ImageDescription", (esl nnnn nnnn nnnn nnnn nnnn)⟩,
    ⟨0x010f, "Make", (esl oooo oooo nnnn nnnn nnnn)⟩,
    ⟨0x0110, "Model", (esl oooo oooo nnnn nnnn nnnn)⟩,
    ⟨0x0111, "StripOffsets", (esl mmmn mmmn nnnn nnnn nnnn)⟩,
    ⟨0x0112, "Orientation", (esl oooo oooo nnnn nnnn nnnn)⟩,
    ⟨0x0115, "SamplesPerPixel", (esl mmmn mmmn nnnn nnnn nnnn)⟩,
    ⟨0x0116, "RowsPerStrip", (esl mmmn mmmn nnnn nnnn nnnn)⟩,
    ⟨0x0117, "StripByteCounts", (esl mmmn mmmn nnnn nnnn nnnn)⟩,
    ⟨0x011a, "XResolution", (esl mmmm mmmm nnnn nnnn nnnn)⟩,
    ⟨0x011b, "YResolution", (esl mmmm mmmm nnnn nnnn nnnn)⟩,
    ⟨0x011c, "PlanarConfiguration", (esl omon omon nnnn nnnn nnnn)⟩,
    ⟨0x0128, "ResolutionUnit", (esl mmmm mmmm nnnn nnnn nnnn)⟩,
    ⟨0x012d, "TransferFunction", (esl oooo oooo nnnn nnnn nnnn)⟩,
    ⟨0x0131, "Software", (esl oooo oooo nnnn nnnn nnnn)⟩,
    ⟨0x0132, "DateTime", (esl oooo oooo nnnn nnnn nnnn)⟩,
    ⟨0x013b, "Artist", (esl nnnn nnnn nnnn nnnn nnnn)⟩,
    ⟨0x013e, "WhitePoint", (esl oooo oooo nnnn nnnn nnnn)⟩,
    ⟨0x013f, "PrimaryChromaticities", (esl oooo oooo nnnn nnnn nnnn)⟩,
    ⟨0x014a, "SubIFDs", eslDef⟩,
    ⟨0x0156, "TransferRange", eslDef⟩,
    ⟨0x0200, "JPEGProc", eslDef⟩,
    ⟨0x0201, "JPEGInterchangeFormat", (esl nnnn nnnm nnnn nnnn nnnn)⟩,
    ⟨0x0202, "JPEGInterchangeFormatLength", (esl nnnn nnnm nnnn nnnn nnnn)⟩,
    ⟨0x0211, "YCbCrCoefficients", (esl nnoo nnoo nnnn nnnn nnnn)⟩,
    ⟨0x0212, "YCbCrSubSampling", (esl nnmn nnmn nnnn nnnn nnnn)⟩,
    ⟨0x0213, "YCbCrPositioning", (esl nnmm nnoo nnnn nnnn nnnn)⟩,
    ⟨0x0214, "ReferenceBlackWhite", (esl oooo oooo nnnn nnnn nnnn)⟩,
    ⟨0x02bc, "XMLPacket", eslDef⟩,
    ⟨0x1000, "RelatedImageFileFormat", eslDef⟩,
    ⟨0x1001, "RelatedImageWidth", eslDef⟩,
    ⟨0x1002, "RelatedImageLength", eslDef⟩,
    ⟨0x828d, "CFARepeatPatternDim", eslDef⟩,
    ⟨0x828e, "CFAPattern", eslDef⟩,
    ⟨0x828f, "BatteryLevel", eslDef⟩,
    ⟨0x8298, "Copyright", (esl nnnn nnnn nnnn nnnn nnnn)⟩,
    ⟨0x829a, "ExposureTime", (esl nnnn nnnn oooo nnnn nnnn)⟩,
    ⟨0x829d, "FNumber", (esl nnnn nnnn oooo nnnn nnnn)⟩,
    ⟨0x83bb, "IPTC/NAA", eslDef⟩,
    ⟨0x8649, "ImageResources", eslDef⟩,
    ⟨0x8769, "ExifIfdPointer", (esl nnnn nnnn nnnn nnnn nnnn)⟩,
    ⟨0x8773, "InterColorProfile", eslDef⟩,
    ⟨0x8822, "ExposureProgram", (esl nnnn nnnn oooo nnnn nnnn)⟩,
    ⟨0x8824, "SpectralSensitivity", (esl nnnn nnnn oooo nnnn nnnn)⟩,
    ⟨0x8825, "GPSInfoIFDPointer", (esl nnnn nnnn nnnn nnnn nnnn)⟩,
    ⟨0x8827, "ISOSpeedRatings", (esl nnnn nnnn oooo nnnn nnnn)⟩,
    ⟨0x8828, "OECF", (esl nnnn nnnn oooo nnnn nnnn)⟩,
    ⟨0x882a, "TimeZoneOffset", eslDef⟩,
    ⟨0x9000, "ExifVersion", (esl nnnn nnnn mmmm nnnn nnnn)⟩,
    ⟨0x9003, "DateTimeOriginal", (esl nnnn nnnn oooo nnnn nnnn)⟩,
    ⟨0x9004, "DateTimeDigitized", (esl nnnn nnnn oooo nnnn nnnn)⟩,
    ⟨0x9101, "ComponentsConfiguration", (esl nnnn nnnn nnnm nnnn nnnn)⟩,
    ⟨0x9102, "CompressedBitsPerPixel", (esl nnnn nnnn nnno nnnn nnnn)⟩,
    ⟨0x9201, "ShutterSpeedValue", (esl nnnn nnnn oooo nnnn nnnn)⟩,
    ⟨0x9202, "ApertureValue", (esl nnnn nnnn oooo nnnn nnnn)⟩,
    ⟨0x9203, "BrightnessValue", (esl nnnn nnnn oooo nnnn nnnn)⟩,
    ⟨0x9204, "ExposureBiasValue", (esl nnnn nnnn oooo nnnn nnnn)⟩,
    ⟨0x9205, "MaxApertureValue", (esl nnnn nnnn oooo nnnn nnnn)⟩,
    ⟨0x9206, "SubjectDistance", (esl nnnn nnnn nnnn nnnn nnnn)⟩,
    ⟨0x9207, "MeteringMode", (esl nnnn nnnn oooo nnnn nnnn)⟩,
    ⟨0x9208, "LightSource", (esl nnnn nnnn oooo nnnn nnnn)⟩,
    ⟨0x9209, "Flash", (esl nnnn nnnn oooo nnnn nnnn)⟩,
    ⟨0x920a, "FocalLength", (esl nnnn nnnn oooo nnnn nnnn)⟩,
    ⟨0x9214, "SubjectArea", (esl nnnn nnnn oooo nnnn nnnn)⟩,
    ⟨0x9216, "TIFF/EPStandardID", eslDef⟩,
    ⟨0x927c, "MakerNote", (esl nnnn nnnn oooo nnnn nnnn)⟩,
    ⟨0x9286, "UserComment", (esl nnnn nnnn oooo nnnn nnnn)⟩,
    ⟨0x9290, "SubsecTime", (esl nnnn nnnn oooo nnnn nnnn)⟩,
    ⟨0x9291, "SubSecTimeOriginal", (esl nnnn nnnn oooo nnnn nnnn)⟩,
    ⟨0x9292, "SubSecTimeDigitized", (esl nnnn nnnn oooo nnnn nnnn)⟩,
    ⟨0x9c9b, "XPTitle", (esl oooo nnnn nnnn nnnn nnnn)⟩,
    ⟨0x9c9c, "XPComment", (esl oooo nnnn nnnn nnnn nnnn)⟩,
    ⟨0x9c9d, "XPAuthor", (esl oooo nnnn nnnn nnnn nnnn)⟩,
    ⟨0x9c9e, "XPKeywords", (esl oooo nnnn nnnn nnnn nnnn)⟩,
    ⟨0x9c9f, "XPSubject", (esl oooo nnnn nnnn nnnn nnnn)⟩,
    ⟨0xa000, "FlashPixVersion", (esl nnnn nnnn mmmm nnnn nnnn)⟩,
    ⟨0xa001, "ColorSpace", (esl nnnn nnnn mmmm nnnn nnnn)⟩,
    ⟨0xa002, "PixelXDimension", (esl nnnn nnnn nnnm nnnn nnnn)⟩,
    ⟨0xa003, "PixelYDimension", (esl nnnn nnnn nnnm nnnn nnnn)⟩,
    ⟨0xa004, "RelatedSoundFile", (esl nnnn nnnn oooo nnnn nnnn)⟩,
    ⟨0xa005, "InteroperabilityIFDPointer", (esl nnnn nnnn nnnn nnnn nnnn)⟩,
    ⟨0xa20b, "FlashEnergy", (esl nnnn nnnn oooo nnnn nnnn)⟩,
    ⟨0xa20c, "SpatialFrequencyResponse", (esl nnnn nnnn oooo nnnn nnnn)⟩,
    ⟨0xa20e, "FocalPlaneXResolution", (esl nnnn nnnn oooo nnnn nnnn)⟩,
    ⟨0xa20f, "FocalPlaneYResolution", (esl nnnn nnnn oooo nnnn nnnn)⟩,
    ⟨0xa210, "FocalPlaneResolutionUnit", (esl nnnn nnnn oooo nnnn nnnn)⟩,
    ⟨0xa214, "SubjectLocation", (esl nnnn nnnn oooo nnnn nnnn)⟩,
    ⟨0xa215, "ExposureIndex", (esl nnnn nnnn oooo nnnn nnnn)⟩,
    ⟨0xa217, "SensingMethod", (esl nnnn nnnn oooo nnnn nnnn)⟩,
    ⟨0xa300, "FileSource", (esl nnnn nnnn nnnn nnnn nnnn)⟩,
    ⟨0xa301, "SceneType", (esl nnnn nnnn oooo nnnn nnnn)⟩,
    ⟨0xa302, "CFAPattern", (esl nnnn nnnn oooo nnnn nnnn)⟩,
    ⟨0xa401, "CustomRendered", (esl nnnn nnnn nnnn nnnn nnnn)⟩,
    ⟨0xa402, "ExposureMode", (esl nnnn nnnn oooo nnnn nnnn)⟩,
    ⟨0xa403, "WhiteBalance", (esl nnnn nnnn oooo nnnn nnnn)⟩,
    ⟨0xa404, "DigitalZoomRatio", (esl nnnn nnnn oooo nnnn nnnn)⟩,
    ⟨0xa405, "FocalLengthIn35mmFilm", (esl nnnn nnnn oooo nnnn nnnn)⟩,
    ⟨0xa406, "SceneCaptureType", (esl nnnn nnnn oooo nnnn nnnn)⟩,
    ⟨0xa407, "GainControl", (esl nnnn nnnn oooo nnnn nnnn)⟩,
    ⟨0xa408, "Contrast", (esl nnnn nnnn oooo nnnn nnnn)⟩,
    ⟨0xa409, "Saturation", (esl nnnn nnnn oooo nnnn nnnn)⟩,
    ⟨0xa40a, "Sharpness", (esl nnnn nnnn oooo nnnn nnnn)⟩,
    ⟨0xa40b, "DeviceSettingDescription", (esl nnnn nnnn oooo nnnn nnnn)⟩,
    ⟨0xa40c, "SubjectDistanceRange", (esl nnnn nnnn oooo nnnn nnnn)⟩,
    ⟨0xa420, "ImageUniqueID", (esl nnnn nnnn oooo nnnn nnnn)⟩,
    ⟨0xa500, "Gamma", eslDef⟩,
    ⟨0xc4a5, "PrintImageMatching", eslDef⟩,
    ⟨0xea1c, "Padding", (esl oooo nnnn oooo nnnn nnnn)⟩]

end Table

/-! ## Sorted tables -/

/-- "The entries MUST be sorted in tag order." -/
def SortedTable (table : List TagEntry) : Prop :=
  table.Pairwise fun a b => a.tag.toNat ≤ b.tag.toNat

section Sorted

variable {table : List TagEntry} {tag : ExifTag}

/-- What is before the entries of a tag, these entries, and what is behind them. -/
theorem SortedTable.split (tag : ExifTag) : ∀ {table : List TagEntry}, SortedTable table →
    table = table.filter (fun e => e.tag.toNat < tag.toNat) ++
      (table.filter (fun e => e.tag = tag) ++ table.filter (fun e => tag.toNat < e.tag.toNat))
  | [], _ => rfl
  | e :: es, h => by
    have hrest : SortedTable es := (List.pairwise_cons.mp h).2
    have hle : ∀ x ∈ es, e.tag.toNat ≤ x.tag.toNat := (List.pairwise_cons.mp h).1
    have ih := hrest.split tag
    rcases Nat.lt_trichotomy e.tag.toNat tag.toNat with hlt | heq | hgt
    · have hne : ¬ e.tag = tag := fun h => absurd (congrArg BitVec.toNat h) (Nat.ne_of_lt hlt)
      rw [List.filter_cons_of_pos (by simpa using hlt),
        List.filter_cons_of_neg (by simpa using hne),
        List.filter_cons_of_neg (by simpa using Nat.le_of_lt hlt), List.cons_append, ← ih]
    · have heq' : e.tag = tag := BitVec.eq_of_toNat_eq heq
      have hsmaller : es.filter (fun x => x.tag.toNat < tag.toNat) = [] := by
        refine List.filter_eq_nil_iff.mpr fun x hx => ?_
        have hx := hle x hx
        simp only [decide_eq_true_eq]
        omega
      rw [hsmaller, List.nil_append] at ih
      rw [List.filter_cons_of_neg (by simp [heq]), List.filter_cons_of_pos (by simpa using heq'),
        List.filter_cons_of_neg (by simp [heq]), hsmaller, List.nil_append, List.cons_append, ← ih]
    · have hne : ¬ e.tag = tag := fun h => absurd (congrArg BitVec.toNat h) (Nat.ne_of_gt hgt)
      have hsmaller : es.filter (fun x => x.tag.toNat < tag.toNat) = [] := by
        refine List.filter_eq_nil_iff.mpr fun x hx => ?_
        have hx := hle x hx
        simp only [decide_eq_true_eq]
        omega
      have hequal : es.filter (fun x => x.tag = tag) = [] := by
        refine List.filter_eq_nil_iff.mpr fun x hx => ?_
        have hx := hle x hx
        simp only [decide_eq_true_eq]
        intro h
        rw [h] at hx
        omega
      rw [hsmaller, hequal, List.nil_append, List.nil_append] at ih
      rw [List.filter_cons_of_neg (by simpa using Nat.le_of_lt hgt),
        List.filter_cons_of_neg (by simpa using hne), List.filter_cons_of_pos (by simpa using hgt),
        hsmaller, hequal, List.nil_append, List.nil_append, ← ih]

theorem tag_ne_of_mem_before {e : TagEntry}
    (he : e ∈ table.filter fun e => e.tag.toNat < tag.toNat) : e.tag ≠ tag := by
  intro heq
  have hlt := (List.mem_filter.mp he).2
  rw [heq] at hlt
  simp at hlt

theorem tag_eq_of_mem_same {e : TagEntry} (he : e ∈ table.filter fun e => e.tag = tag) :
    e.tag = tag := by
  simpa using (List.mem_filter.mp he).2

theorem tag_ne_of_mem_behind {e : TagEntry}
    (he : e ∈ table.filter fun e => tag.toNat < e.tag.toNat) : e.tag ≠ tag := by
  intro heq
  have hlt := (List.mem_filter.mp he).2
  rw [heq] at hlt
  simp at hlt

theorem matchTag_of_lt {i : Nat} (hi : i < table.length) :
    matchTag table tag i = compare tag.toNat table[i].tag.toNat := by
  rw [matchTag, List.getElem?_eq_getElem hi]

theorem SortedTable.ascending (h : SortedTable table) :
    Bsearch.Ascending (matchTag table tag) table.length := by
  have hle (i j : Nat) (hij : i ≤ j) (hi : i < table.length) (hj : j < table.length) :
      table[i].tag.toNat ≤ table[j].tag.toNat := by
    rcases Nat.lt_or_eq_of_le hij with hlt | rfl
    · exact List.pairwise_iff_getElem.mp h i j hi hj hlt
    · exact Nat.le_refl _
  constructor
  · intro i j hij hj hlt
    have hij := hle i j hij (by omega) hj
    rw [matchTag_of_lt (by omega), Nat.compare_eq_lt] at hlt
    rw [matchTag_of_lt hj, Nat.compare_eq_lt]
    omega
  · intro i j hij hj hgt
    have hij := hle i j hij (by omega) hj
    rw [matchTag_of_lt hj, Nat.compare_eq_gt] at hgt
    rw [matchTag_of_lt (by omega), Nat.compare_eq_gt]
    omega

/-- The step back ends at the first of the entries of the tag. -/
theorem stepBack_eq {before same behind : List TagEntry}
    (hbefore : ∀ e ∈ before, e.tag ≠ tag) (hsame : ∀ e ∈ same, e.tag = tag) :
    ∀ {i : Nat}, before.length ≤ i → i < before.length + same.length →
      stepBack (before ++ (same ++ behind)) tag i = before.length
  | 0, hle, _ => (Nat.le_zero.mp hle).symm
  | i + 1, hle, hlt => by
    unfold stepBack
    rcases Nat.lt_or_ge i before.length with hi | hi
    · have hget : (before ++ (same ++ behind))[i]? = some before[i] := by
        rw [List.getElem?_append_left hi, List.getElem?_eq_getElem hi]
      rw [hget]
      dsimp only
      rw [if_neg (hbefore _ (List.getElem_mem hi))]
      omega
    · have hin : i - before.length < same.length := by omega
      have hget : (before ++ (same ++ behind))[i]? = some same[i - before.length] := by
        rw [List.getElem?_append_right hi, List.getElem?_append_left hin,
          List.getElem?_eq_getElem hin]
      rw [hget]
      dsimp only
      rw [if_pos (hsame _ (List.getElem_mem hin))]
      exact stepBack_eq hbefore hsame hi (by omega)

/-- An entry of the tag is among the entries of the tag. -/
theorem place_of_tag {before same behind : List TagEntry} {p : Nat} {e : TagEntry}
    (hbefore : ∀ e ∈ before, e.tag ≠ tag) (hbehind : ∀ e ∈ behind, e.tag ≠ tag)
    (hget : (before ++ (same ++ behind))[p]? = some e) (he : e.tag = tag) :
    before.length ≤ p ∧ p < before.length + same.length := by
  have hle : before.length ≤ p := by
    refine Nat.le_of_not_lt fun hlt => ?_
    rw [List.getElem?_append_left hlt] at hget
    exact hbefore e (List.mem_of_getElem? hget) he
  refine ⟨hle, Nat.lt_of_not_le fun hge => ?_⟩
  rw [List.getElem?_append_right hle, List.getElem?_append_right (by omega)] at hget
  exact hbehind e (List.mem_of_getElem? hget) he

/-- The entry that is looked for first. -/
theorem SortedTable.first_eq (h : SortedTable table) (tag : ExifTag) :
    exifTagTableFirst table tag =
      if (table.filter fun e => e.tag = tag) = [] then none
      else some (table.filter fun e => e.tag.toNat < tag.toNat).length := by
  set before := table.filter fun e => e.tag.toNat < tag.toNat with hbefore
  set same := table.filter fun e => e.tag = tag with hsame
  have hsplit := h.split tag
  rw [← hbefore, ← hsame] at hsplit
  have hbefore' : ∀ e ∈ before, e.tag ≠ tag := fun e => tag_ne_of_mem_before
  have hsame' : ∀ e ∈ same, e.tag = tag := fun e => tag_eq_of_mem_same
  have hbehind' : ∀ e ∈ table.filter (fun e => tag.toNat < e.tag.toNat), e.tag ≠ tag :=
    fun e => tag_ne_of_mem_behind
  unfold exifTagTableFirst
  cases hsearch : Bsearch.search (matchTag table tag) table.length with
  | none =>
    have hnil : same = [] := by
      refine List.eq_nil_iff_forall_not_mem.mpr fun e he => ?_
      obtain ⟨i, hi, hget⟩ := List.getElem_of_mem (List.mem_of_mem_filter he)
      have heq : matchTag table tag i = .eq := by
        rw [matchTag_of_lt hi, hget, hsame' e he, Nat.compare_eq_eq]
      have hfound := Bsearch.search_isSome h.ascending hi heq
      rw [hsearch] at hfound
      cases hfound
    rw [if_pos hnil]
    rfl
  | some p =>
    obtain ⟨heq, hp⟩ := Bsearch.of_search_eq_some hsearch
    rw [matchTag_of_lt hp, Nat.compare_eq_eq] at heq
    have htag : table[p].tag = tag := BitVec.eq_of_toNat_eq heq.symm
    have hmem : table[p] ∈ same := List.mem_filter.mpr ⟨List.getElem_mem hp, by simpa using htag⟩
    have hplace : before.length ≤ p ∧ p < before.length + same.length := by
      refine place_of_tag hbefore' hbehind' ?_ htag
      rw [← hsplit, List.getElem?_eq_getElem hp]
    rw [if_neg (List.ne_nil_of_mem hmem)]
    show some (stepBack table tag p) = _
    rw [hsplit, stepBack_eq hbefore' hsame' hplace.1 hplace.2]

/-- The loop stops at the first entry of another tag. -/
theorem scanFrom_append {α : Type} (p : TagEntry → Bool) (f : TagEntry → α) (otherwise : α)
    {behind : List TagEntry} (hbehind : ∀ e ∈ behind, e.tag ≠ tag) :
    ∀ {same : List TagEntry}, (∀ e ∈ same, e.tag = tag) →
      scanFrom tag p f otherwise (same ++ behind) = ((same.find? p).map f).getD otherwise
  | [], _ => by
    cases behind with
    | nil => rfl
    | cons e es => exact if_neg (hbehind e List.mem_cons_self)
  | e :: es, h => by
    have ih := scanFrom_append p f otherwise hbehind
      fun x hx => h x (List.mem_cons_of_mem e hx)
    rw [List.cons_append, scanFrom, if_pos (h e List.mem_cons_self)]
    by_cases hp : p e = true
    · rw [if_pos hp, List.find?_cons_of_pos hp]
      rfl
    · rw [if_neg hp, List.find?_cons_of_neg hp, ih]

/-- A lookup finds what a scan of the whole table finds. -/
theorem lookup_eq_scan {α : Type} (h : SortedTable table) (tag : ExifTag) (p : TagEntry → Bool)
    (f : TagEntry → α) (otherwise : α) :
    lookup table tag p f otherwise =
      ((table.find? fun e => decide (e.tag = tag) && p e).map f).getD otherwise := by
  have hscan : (table.find? fun e => decide (e.tag = tag) && p e) =
      (table.filter fun e => e.tag = tag).find? p := by
    rw [List.find?_filter]
    congr 1
    funext e
    simp
  have hdrop : table.drop (table.filter fun e => e.tag.toNat < tag.toNat).length =
      (table.filter fun e => e.tag = tag) ++ table.filter fun e => tag.toNat < e.tag.toNat := by
    conv_lhs =>
      arg 2
      rw [h.split tag]
    exact List.drop_left
  rw [lookup, h.first_eq tag, hscan]
  by_cases hnil : (table.filter fun e => e.tag = tag) = []
  · rw [if_pos hnil, hnil]
    rfl
  · rw [if_neg hnil]
    dsimp only
    rw [hdrop, scanFrom_append p f otherwise (fun e => tag_ne_of_mem_behind)
      fun e => tag_eq_of_mem_same]

end Sorted

/-- What a scan finds is the element itself, or one before it. -/
theorem find?_of_mem {α : Type} {l : List α} {R : α → α → Prop} {p : α → Bool} {a : α}
    (hl : l.Pairwise R) (ha : a ∈ l) (hp : p a = true) :
    ∃ b, l.find? p = some b ∧ b ∈ l ∧ p b = true ∧ (b = a ∨ R b a) := by
  obtain ⟨b, hb⟩ := Option.isSome_iff_exists.mp (List.find?_isSome.mpr ⟨a, ha, hp⟩)
  obtain ⟨hpb, before, behind, rfl, hbefore⟩ := List.find?_eq_some_iff_append.mp hb
  refine ⟨b, hb, List.mem_append_right _ List.mem_cons_self, hpb, ?_⟩
  rcases List.mem_append.mp ha with h | h
  · have hnot := hbefore a h
    rw [hp] at hnot
    cases hnot
  · rcases List.mem_cons.mp h with rfl | h
    · exact .inl rfl
    · exact .inr ((List.pairwise_cons.mp (List.pairwise_append.mp hl).2.1).1 a h)

theorem exifTagTable_sorted : SortedTable exifTagTable := by
  have hchain : (exifTagTable.map fun e => e.tag.toNat).IsChain (· ≤ ·) := by
    decide +kernel
  exact List.pairwise_map.mp (List.isChain_iff_pairwise.mp hchain)

theorem lookup_eq_scan_make :
    lookup exifTagTable 0x010f (fun e => e.recorded .ifd0) (fun e => some e.name) none =
      ((exifTagTable.find? fun e => decide (e.tag = 0x010f) && e.recorded .ifd0).map
        fun e => some e.name).getD none :=
  lookup_eq_scan exifTagTable_sorted 0x010f (fun e => e.recorded .ifd0) (fun e => some e.name) none

/-- "When there are such duplicate entries, there must be no overlap in their support levels." -/
theorem exifTagTable_no_overlap :
    exifTagTable.Pairwise fun a b => a.tag.toNat = b.tag.toNat →
      ∀ ifd ∈ [ExifIfd.ifd0, .ifd1, .exif, .gps, .interoperability],
        ¬ (a.recorded ifd = true ∧ b.recorded ifd = true) := by
  decide +kernel

/-- One name is the name of two tags. -/
theorem exifTagTable_names :
    exifTagTable.Pairwise fun a b => a.name = b.name → a.tag = 0x828e ∧ b.tag = 0xa302 := by
  decide +kernel

theorem exifTagTable_newCfaPattern :
    ∀ e ∈ exifTagTable, e.tag = 0xa302 → exifTagFromName exifTagTable e.name = 0x828e := by
  decide +kernel

theorem nameInIfd_eq_some_iff (tag : ExifTag) (ifd : ExifIfd) (name : String) :
    nameInIfd exifTagTable tag ifd = some name ↔
      ∃ e ∈ exifTagTable, e.tag = tag ∧ e.recorded ifd = true ∧ e.name = name := by
  rw [nameInIfd, lookup_eq_scan exifTagTable_sorted]
  constructor
  · intro h
    cases hfind : exifTagTable.find? fun e => decide (e.tag = tag) && e.recorded ifd with
    | none =>
      rw [hfind] at h
      cases h
    | some e =>
      rw [hfind] at h
      have hp := List.find?_some hfind
      simp only [Bool.and_eq_true, decide_eq_true_eq] at hp
      exact ⟨e, List.mem_of_find?_eq_some hfind, hp.1, hp.2, Option.some.inj h⟩
  · rintro ⟨e, he, htag, hrec, rfl⟩
    obtain ⟨b, hb, -, hpb, hor⟩ := find?_of_mem exifTagTable_no_overlap he
      (p := fun e => decide (e.tag = tag) && e.recorded ifd) (by simp [htag, hrec])
    simp only [Bool.and_eq_true, decide_eq_true_eq] at hpb
    rcases hor with rfl | hoverlap
    · rw [hb]
      rfl
    · have hsame : b.tag.toNat = e.tag.toNat := by rw [hpb.1, htag]
      exact (hoverlap hsame ifd (by cases ifd <;> simp) ⟨hpb.2, hrec⟩).elim

/-- The name of a tag leads back to the tag, but for the second of two tags of one name. -/
theorem exifTagFromName_nameInIfd {tag : ExifTag} {ifd : ExifIfd} {name : String}
    (h : nameInIfd exifTagTable tag ifd = some name) :
    exifTagFromName exifTagTable name = tag ↔ tag ≠ 0xa302 := by
  obtain ⟨e, he, rfl, -, rfl⟩ := (nameInIfd_eq_some_iff tag ifd name).mp h
  obtain ⟨b, hb, -, hpb, hor⟩ := find?_of_mem exifTagTable_names he
    (p := fun x => x.name == e.name) (by simp)
  have hfrom : exifTagFromName exifTagTable e.name = b.tag := by
    rw [exifTagFromName, hb]
  constructor
  · intro hback hcfa
    rw [exifTagTable_newCfaPattern e he hcfa, hcfa] at hback
    exact absurd hback (by decide)
  · intro hne
    rw [hfrom]
    rcases hor with rfl | hnames
    · rfl
    · exact absurd (hnames (by simpa using hpb)).2 hne

theorem exifTagFromName_nameInIfd_make :
    nameInIfd exifTagTable 0x010f .ifd0 = some "Make" ∧
      (exifTagFromName exifTagTable "Make" = 0x010f ↔ (0x010f : ExifTag) ≠ 0xa302) :=
  have h : nameInIfd exifTagTable 0x010f .ifd0 = some "Make" := by decide +kernel
  ⟨h, exifTagFromName_nameInIfd h⟩

end Ancora.Exif
