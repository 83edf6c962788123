import Ancora.LocApi.EventRoutines
import Ancora.Xdr.Sizes

/-!
# Satellite reports (libloc_api/loc_eng.cpp:1095–1192)

`loc_eng_report_sv` walks over the first `sv_count` entries of the report's list, at most
`GPS_MAX_SVS` of them, and fills a `GpsSvStatus` for the framework. The count and the list
come from two fields of the message and are not compared; the bit that a satellite has in the
three masks is computed from its `prn` as it was received.

What C leaves open is a parameter (`Undefined`): what lies behind the list, and what a shift
by an amount outside 0..31 gives. The indices that are read and the amounts shifted by are
recorded.

- `locEngReportSv`: the function.
- `SvLoop.After`: what the loop has done after any number of entries.
- `Faithful`: nothing outside the list is read, no shift is undefined, and the status has the
  images of the entries and the bits of the flags.
- **`sv_report_faithful_iff`**: so it is iff the list has the entries that are counted, and
  each GPS entry with a flag has a `prn` from 1 to 32.
-/

namespace Ancora.LocEng.Sv

open Xdr LocApi Stream

abbrev Word := BitVec 32

/-! Bits of the two masks (loc_api_fixup.h:118–133). -/

def rpcLocSvInfoValidSystem : Word := 0x1
def rpcLocSvInfoValidProcessStatus : Word := 0x8
def rpcLocSvInfoValidHasEph : Word := 0x10
def rpcLocSvInfoValidHasAlm : Word := 0x20
def rpcLocSvInfoValidElevation : Word := 0x40
def rpcLocSvInfoValidAzimuth : Word := 0x80
def rpcLocSvInfoValidSnr : Word := 0x100

def rpcLocGnssInfoValidSvCount : Word := 0x10
def rpcLocGnssInfoValidSvList : Word := 0x20

/-! `rpc_loc_sv_system_e_type` and `rpc_loc_sv_status_e_type` (loc_api_common.h:117–132). -/

def rpcLocSvSystemGps : Word := 1
def rpcLocSvSystemSbas : Word := 3
def rpcLocSvSystemGlonass : Word := 5

def rpcLocSvStatusTrack : Word := 3

/-- `rpc_loc_sv_info_s_type`; the floats are their bits. -/
structure SvInfo where
  validMask : Word
  system : Word
  prn : BitVec 8
  processStatus : Word
  hasEph : Word
  hasAlm : Word
  elevation : Word
  azimuth : Word
  snr : Word
  deriving DecidableEq

/-- `rpc_loc_gnss_info_s_type`; `sv_list_len` is the length of the list. -/
structure GnssInfo where
  validMask : Word
  svCount : BitVec 16
  svList : List SvInfo

def SvInfo.ofVal (v : xdrRpcLocSvInfoSType.Val) : SvInfo where
  validMask := v.1
  system := v.2.1
  prn := v.2.2.1
  processStatus := v.2.2.2.2.1
  hasEph := v.2.2.2.2.2.1
  hasAlm := v.2.2.2.2.2.2.1
  elevation := v.2.2.2.2.2.2.2.1
  azimuth := v.2.2.2.2.2.2.2.2.1
  snr := v.2.2.2.2.2.2.2.2.2.1

def GnssInfo.ofVal (v : xdrRpcLocGnssInfoSType.Val) : GnssInfo where
  validMask := v.1
  svCount := v.2.2.2.2.2.1
  svList := (Counted.ofPointer v.2.2.2.2.2.2.1).items.map SvInfo.ofVal

/-- `GpsSvInfo` (hardware/gps.h). -/
structure GpsSvInfo where
  size : Nat
  prn : Int
  snr : Word
  elevation : Word
  azimuth : Word
  deriving DecidableEq

/-- What `memset` leaves. -/
def GpsSvInfo.zero : GpsSvInfo := ⟨0, 0, 0, 0, 0⟩

/-- The masks of a `GpsSvStatus`. -/
inductive SvFlag
  | ephemeris
  | almanac
  | usedInFix
  deriving DecidableEq, Repr

/-- `GpsSvStatus` (hardware/gps.h). -/
structure GpsSvStatus where
  numSvs : Nat
  svList : Nat → GpsSvInfo
  mask : SvFlag → Word

/-- `GPS_MAX_SVS` and `sizeof(GpsSvStatus)`, both from hardware/gps.h. -/
structure GpsH where
  gpsMaxSvs : Nat
  sizeofGpsSvStatus : Nat

/-- What the code's undefined operations happen to give. -/
structure Undefined where
  /-- The memory behind `sv_list_val`. -/
  beyond : Nat → SvInfo
  /-- `1 << k` for a `k` that is negative or 32 and more. -/
  shift : Int → Word

/-- The status while it is filled, and what was done for it. -/
structure SvLoop where
  status : GpsSvStatus
  reads : List Nat
  shifts : List Int

variable (h : GpsH) (u : Undefined)

/-- `1 << k` -/
def oneShl (k : Int) : Word := if 0 ≤ k ∧ k < 32 then 1#32 <<< k.toNat else u.shift k

/-- `gnss_report_ptr->sv_list.sv_list_val[i]` -/
def GnssInfo.entry (g : GnssInfo) (i : Nat) : SvInfo := g.svList.getD i (u.beyond i)

def SvInfo.valid (sv : SvInfo) (bit : Word) : Bool := sv.validMask &&& bit ≠ 0

/-- The three tests of a GPS entry (loc_eng.cpp:1131–1147). -/
def SvInfo.flagged (sv : SvInfo) : SvFlag → Bool
  | .ephemeris => sv.valid rpcLocSvInfoValidHasEph && sv.hasEph == 1
  | .almanac => sv.valid rpcLocSvInfoValidHasAlm && sv.hasAlm == 1
  | .usedInFix =>
    sv.valid rpcLocSvInfoValidProcessStatus && sv.processStatus == rpcLocSvStatusTrack

/-- An assignment to members of `SvStatus.sv_list[SvStatus.num_svs]`. -/
def SvLoop.assign (s : SvLoop) (f : GpsSvInfo → GpsSvInfo) : SvLoop :=
  { s with status := { s.status with
      svList := fun k => if k = s.status.numSvs then f (s.status.svList k) else s.status.svList k } }

/-- `SvStatus.…_mask |= (1 << (sv_info_ptr->prn-1));` under its test. -/
def SvLoop.mark (sv : SvInfo) (flag : SvFlag) (s : SvLoop) : SvLoop :=
  if sv.flagged flag then
    { s with
      status := { s.status with
        mask := fun f => if f = flag then s.status.mask f ||| oneShl u (sv.prn.toNat - 1)
          else s.status.mask f }
      shifts := s.shifts ++ [(sv.prn.toNat : Int) - 1] }
  else s

/-- Copy a member if it is valid. -/
def SvLoop.copyIf (s : SvLoop) (valid : Bool) (f : GpsSvInfo → GpsSvInfo) : SvLoop :=
  if valid then s.assign f else s

/-- The members for every system (loc_eng.cpp:1168–1183). -/
def SvLoop.finish (s : SvLoop) (sv : SvInfo) : SvLoop :=
  let s := s.copyIf (sv.valid rpcLocSvInfoValidSnr) fun e => { e with snr := sv.snr }
  let s := s.copyIf (sv.valid rpcLocSvInfoValidElevation) fun e =>
    { e with elevation := sv.elevation }
  let s := s.copyIf (sv.valid rpcLocSvInfoValidAzimuth) fun e => { e with azimuth := sv.azimuth }
  { s with status := { s.status with numSvs := s.status.numSvs + 1 } }

/-- The body of the loop (loc_eng.cpp:1123–1183). -/
def svBody (sv : SvInfo) (s : SvLoop) : SvLoop :=
  if sv.valid rpcLocSvInfoValidSystem then
    if sv.system = rpcLocSvSystemGps then
      let s := s.assign fun e => { e with size := h.sizeofGpsSvStatus, prn := sv.prn.toNat }
      let s := s.mark u sv .ephemeris
      let s := s.mark u sv .almanac
      let s := s.mark u sv .usedInFix
      s.finish sv
    else if sv.system = rpcLocSvSystemSbas then
      (s.assign fun e => { e with prn := (sv.prn.toNat : Int) + 33 - 120 }).finish sv
    else if sv.system = rpcLocSvSystemGlonass then
      (s.assign fun e => { e with prn := (sv.prn.toNat : Int) + (65 - 1) }).finish sv
    else s
  else s.finish sv

/-- One iteration: the entry is read, whatever it is used for. -/
def svIter (g : GnssInfo) (s : SvLoop) (i : Nat) : SvLoop :=
  svBody h u (g.entry u i) { s with reads := s.reads ++ [i] }

def svInit : SvLoop where
  status := ⟨0, fun _ => GpsSvInfo.zero, fun _ => 0⟩
  reads := []
  shifts := []

/-- `num_svs_max` (loc_eng.cpp:1105–1114). -/
def numSvsMax (g : GnssInfo) : Nat :=
  if g.validMask &&& rpcLocGnssInfoValidSvCount ≠ 0 then
    if g.svCount.toNat > h.gpsMaxSvs then h.gpsMaxSvs else g.svCount.toNat
  else 0

/-- `loc_eng_report_sv` (loc_eng.cpp:1095–1192) as far as the callback. -/
def locEngReportSv (g : GnssInfo) : SvLoop :=
  if g.validMask &&& rpcLocGnssInfoValidSvList ≠ 0 then
    (List.range (numSvsMax h g)).foldl (svIter h u g) svInit
  else svInit

/-- What `sv_status_cb` is called with, if it is (loc_eng.cpp:1188–1191). -/
def svStatusCb (g : GnssInfo) (cbSet : Bool) : Option GpsSvStatus :=
  if (locEngReportSv h u g).status.numSvs ≠ 0 ∧ cbSet then some (locEngReportSv h u g).status
  else none

/-! ## What is to be reported -/

/-- The members of a reported entry that come from the report. -/
structure Shown where
  prn : Int
  snr : Word
  elevation : Word
  azimuth : Word
  deriving DecidableEq

def GpsSvInfo.shown (e : GpsSvInfo) : Shown := ⟨e.prn, e.snr, e.elevation, e.azimuth⟩

/-- The number under which a satellite is shown: GPS as it is, SBAS from 33 on, GLONASS from 65
on, other systems not at all; without a valid system it is 0. -/
def SvInfo.shownPrn (sv : SvInfo) : Option Int :=
  if sv.valid rpcLocSvInfoValidSystem then
    if sv.system = rpcLocSvSystemGps then some sv.prn.toNat
    else if sv.system = rpcLocSvSystemSbas then some (sv.prn.toNat - 87)
    else if sv.system = rpcLocSvSystemGlonass then some (sv.prn.toNat + 64)
    else none
  else some 0

/-- The image of an entry. -/
def SvInfo.image (sv : SvInfo) : Option Shown :=
  sv.shownPrn.map fun prn =>
    { prn := prn
      snr := if sv.valid rpcLocSvInfoValidSnr then sv.snr else 0
      elevation := if sv.valid rpcLocSvInfoValidElevation then sv.elevation else 0
      azimuth := if sv.valid rpcLocSvInfoValidAzimuth then sv.azimuth else 0 }

def SvInfo.isGps (sv : SvInfo) : Prop :=
  sv.valid rpcLocSvInfoValidSystem = true ∧ sv.system = rpcLocSvSystemGps

/-- The flag is valid and set. A `bool_t` is set when it is not 0. -/
def SvInfo.has (sv : SvInfo) : SvFlag → Prop
  | .ephemeris => sv.valid rpcLocSvInfoValidHasEph = true ∧ sv.hasEph ≠ 0
  | .almanac => sv.valid rpcLocSvInfoValidHasAlm = true ∧ sv.hasAlm ≠ 0
  | .usedInFix =>
    sv.valid rpcLocSvInfoValidProcessStatus = true ∧ sv.processStatus = rpcLocSvStatusTrack

/-- The entries that a report counts: `sv_count` of them, no more than fit, and none when the
count or the list is not marked valid. -/
def GnssInfo.counted (g : GnssInfo) : Nat :=
  if g.validMask &&& rpcLocGnssInfoValidSvCount ≠ 0 ∧ g.validMask &&& rpcLocGnssInfoValidSvList ≠ 0
  then min g.svCount.toNat h.gpsMaxSvs
  else 0

/-- The entries of a status. -/
def GpsSvStatus.entries (s : GpsSvStatus) : List GpsSvInfo := (List.range s.numSvs).map s.svList

/-- The report is translated faithfully. -/
structure Faithful (g : GnssInfo) : Prop where
  reads : ∀ i ∈ (locEngReportSv h u g).reads, i < g.svList.length
  shifts : ∀ k ∈ (locEngReportSv h u g).shifts, 0 ≤ k ∧ k < 32
  numSvs : (locEngReportSv h u g).status.numSvs ≤ h.gpsMaxSvs
  entries : (locEngReportSv h u g).status.entries.map GpsSvInfo.shown =
    (g.svList.take (g.counted h)).filterMap SvInfo.image
  masks : ∀ flag k, ((locEngReportSv h u g).status.mask flag).getLsbD k = true ↔
    ∃ sv ∈ g.svList.take (g.counted h), sv.isGps ∧ sv.prn.toNat = k + 1 ∧ sv.has flag

/-! ## One iteration -/

/-- What the loop has done after these entries. -/
structure SvLoop.After (svs : List SvInfo) (s : SvLoop) : Prop where
  shown : s.status.entries.map GpsSvInfo.shown = svs.filterMap SvInfo.image
  fresh : ∀ k, s.status.numSvs ≤ k → s.status.svList k = GpsSvInfo.zero
  shifts : ∀ a, a ∈ s.shifts ↔
    ∃ sv ∈ svs, sv.isGps ∧ ∃ flag, sv.flagged flag = true ∧ a = (sv.prn.toNat : Int) - 1
  mask : ∀ flag k, (s.status.mask flag).getLsbD k = true ↔
    ∃ sv ∈ svs, sv.isGps ∧ sv.flagged flag = true ∧
      (oneShl u ((sv.prn.toNat : Int) - 1)).getLsbD k = true

/-- The members for every system, where they are valid. -/
def SvInfo.fill (sv : SvInfo) (e : GpsSvInfo) : GpsSvInfo :=
  { e with
    snr := if sv.valid rpcLocSvInfoValidSnr then sv.snr else e.snr
    elevation := if sv.valid rpcLocSvInfoValidElevation then sv.elevation else e.elevation
    azimuth := if sv.valid rpcLocSvInfoValidAzimuth then sv.azimuth else e.azimuth }

/-- `finish` fills them in and counts the entry. -/
theorem SvLoop.finish_eq (s : SvLoop) (sv : SvInfo) :
    s.finish sv = { s with status := { s.status with
      numSvs := s.status.numSvs + 1
      svList := fun k => if k = s.status.numSvs then sv.fill (s.status.svList k)
        else s.status.svList k } } := by
  unfold SvLoop.finish SvLoop.copyIf SvLoop.assign SvInfo.fill
  cases sv.valid rpcLocSvInfoValidSnr <;> cases sv.valid rpcLocSvInfoValidElevation <;>
    cases sv.valid rpcLocSvInfoValidAzimuth <;> simp
  all_goals
    funext k
    split
    · rfl
    · rfl

/-- The three tests of a GPS entry, one after the other. -/
def SvLoop.markAll (sv : SvInfo) (s : SvLoop) : SvLoop :=
  ((s.mark u sv .ephemeris).mark u sv .almanac).mark u sv .usedInFix

section Marks

variable {u} (sv : SvInfo) (s : SvLoop)

/-- A mask does not change the list. -/
theorem SvLoop.mark_list (flag : SvFlag) :
    (s.mark u sv flag).status.numSvs = s.status.numSvs ∧
      (s.mark u sv flag).status.svList = s.status.svList := by
  unfold SvLoop.mark
  split
  · exact ⟨rfl, rfl⟩
  · exact ⟨rfl, rfl⟩

/-- A flag that is set shifts by the number of the satellite less one. -/
theorem SvLoop.mem_mark_shifts (flag : SvFlag) (a : Int) :
    a ∈ (s.mark u sv flag).shifts ↔
      a ∈ s.shifts ∨ sv.flagged flag = true ∧ a = (sv.prn.toNat : Int) - 1 := by
  unfold SvLoop.mark
  split
  · rename_i hflag
    simp [hflag]
  · rename_i hflag
    simp [hflag]

/-- It sets the bit in the mask of this flag. -/
theorem SvLoop.mark_mask (flag f : SvFlag) :
    (s.mark u sv flag).status.mask f =
      if f = flag ∧ sv.flagged flag = true then
        s.status.mask f ||| oneShl u ((sv.prn.toNat : Int) - 1)
      else s.status.mask f := by
  unfold SvLoop.mark
  split
  · rename_i hflag
    simp [hflag]
  · rename_i hflag
    simp [hflag]

/-- The three masks do not change the list. -/
theorem SvLoop.markAll_list :
    (s.markAll u sv).status.numSvs = s.status.numSvs ∧
      (s.markAll u sv).status.svList = s.status.svList := by
  unfold SvLoop.markAll
  simp only [SvLoop.mark_list, and_self]

/-- Any of the three flags shifts. -/
theorem SvLoop.mem_markAll_shifts (a : Int) :
    a ∈ (s.markAll u sv).shifts ↔
      a ∈ s.shifts ∨ ∃ flag, sv.flagged flag = true ∧ a = (sv.prn.toNat : Int) - 1 := by
  unfold SvLoop.markAll
  rw [SvLoop.mem_mark_shifts, SvLoop.mem_mark_shifts, SvLoop.mem_mark_shifts]
  constructor
  · rintro (((ha | hflag) | hflag) | hflag)
    · exact .inl ha
    · exact .inr ⟨_, hflag⟩
    · exact .inr ⟨_, hflag⟩
    · exact .inr ⟨_, hflag⟩
  · rintro (ha | ⟨flag, hflag⟩)
    · exact .inl (.inl (.inl ha))
    · cases flag with
      | ephemeris => exact .inl (.inl (.inr hflag))
      | almanac => exact .inl (.inr hflag)
      | usedInFix => exact .inr hflag

/-- Each flag sets the bit in its mask. -/
theorem SvLoop.markAll_mask (f : SvFlag) :
    (s.markAll u sv).status.mask f =
      if sv.flagged f = true then s.status.mask f ||| oneShl u ((sv.prn.toNat : Int) - 1)
      else s.status.mask f := by
  unfold SvLoop.markAll
  rw [SvLoop.mark_mask, SvLoop.mark_mask, SvLoop.mark_mask]
  cases f with
  | ephemeris => simp
  | almanac => simp
  | usedInFix => simp

end Marks

section After

variable {u} {svs : List SvInfo} {sv : SvInfo} {s s' : SvLoop}

/-- Another entry comes behind those that are there. -/
theorem SvLoop.After.push (hs : s.After u svs) (e : GpsSvInfo)
    (hnum : s'.status.numSvs = s.status.numSvs + 1)
    (hlist : ∀ k, s'.status.svList k = if k = s.status.numSvs then e else s.status.svList k)
    (himage : sv.image = some e.shown)
    (hshifts : ∀ a, a ∈ s'.shifts ↔ a ∈ s.shifts ∨
      sv.isGps ∧ ∃ flag, sv.flagged flag = true ∧ a = (sv.prn.toNat : Int) - 1)
    (hmask : ∀ flag k, (s'.status.mask flag).getLsbD k = true ↔
      (s.status.mask flag).getLsbD k = true ∨ sv.isGps ∧ sv.flagged flag = true ∧
        (oneShl u ((sv.prn.toNat : Int) - 1)).getLsbD k = true) :
    s'.After u (svs ++ [sv]) where
  shown := by
    have hbefore : (List.range s.status.numSvs).map s'.status.svList = s.status.entries := by
      refine List.map_congr_left fun k hk => ?_
      rw [hlist k, if_neg (Nat.ne_of_lt (List.mem_range.mp hk))]
    rw [GpsSvStatus.entries, hnum, List.range_succ, List.map_append, hbefore, List.map_append,
      hs.shown, List.filterMap_append]
    simp [hlist, himage]
  fresh k hk := by
    rw [hlist k, if_neg (by omega)]
    exact hs.fresh k (by omega)
  shifts a := by
    rw [hshifts a, hs.shifts a]
    simp [or_and_right, exists_or]
  mask flag k := by
    rw [hmask flag k, hs.mask flag k]
    simp [or_and_right, exists_or]

/-- An entry of a system that is not supported is passed over. -/
theorem SvLoop.After.skip (hs : s.After u svs) (himage : sv.image = none) (hgps : ¬ sv.isGps) :
    s.After u (svs ++ [sv]) where
  shown := by
    rw [hs.shown, List.filterMap_append]
    simp [himage]
  fresh := hs.fresh
  shifts a := by
    rw [hs.shifts a]
    simp [or_and_right, exists_or, hgps]
  mask flag k := by
    rw [hs.mask flag k]
    simp [or_and_right, exists_or, hgps]

/-- The entry with this number, then the members that every system has. -/
theorem SvLoop.After.finish (hs : s.After u svs) (size : Nat) {prn : Int}
    (hprn : sv.shownPrn = some prn) (hnum : s'.status.numSvs = s.status.numSvs)
    (hlist : ∀ k, s'.status.svList k = if k = s.status.numSvs then
      { GpsSvInfo.zero with size := size, prn := prn } else s.status.svList k)
    (hshifts : ∀ a, a ∈ s'.shifts ↔ a ∈ s.shifts ∨
      sv.isGps ∧ ∃ flag, sv.flagged flag = true ∧ a = (sv.prn.toNat : Int) - 1)
    (hmask : ∀ flag k, (s'.status.mask flag).getLsbD k = true ↔
      (s.status.mask flag).getLsbD k = true ∨ sv.isGps ∧ sv.flagged flag = true ∧
        (oneShl u ((sv.prn.toNat : Int) - 1)).getLsbD k = true) :
    (s'.finish sv).After u (svs ++ [sv]) := by
  rw [SvLoop.finish_eq]
  refine hs.push (sv.fill { GpsSvInfo.zero with size := size, prn := prn })
    (congrArg (· + 1) hnum) (fun k => ?_) ?_ hshifts hmask
  · show (if k = s'.status.numSvs then _ else s'.status.svList k) = _
    rw [hnum, hlist k]
    split
    · rfl
    · rfl
  · rw [SvInfo.image, hprn]
    rfl

/-- A system without masks leaves them and the shifts alone. -/
theorem SvLoop.After.finish_plain (hs : s.After u svs) {prn : Int} (hgps : ¬ sv.isGps)
    (hprn : sv.shownPrn = some prn) (hnum : s'.status.numSvs = s.status.numSvs)
    (hlist : ∀ k, s'.status.svList k = if k = s.status.numSvs then
      { GpsSvInfo.zero with prn := prn } else s.status.svList k)
    (hshifts : s'.shifts = s.shifts) (hmask : s'.status.mask = s.status.mask) :
    (s'.finish sv).After u (svs ++ [sv]) := by
  refine hs.finish 0 hprn hnum hlist (fun a => ?_) (fun flag k => ?_)
  · rw [hshifts]
    simp [hgps]
  · rw [hmask]
    simp [hgps]

/-- A round of the loop adds one satellite. -/
theorem svBody_after (hs : s.After u svs) : (svBody h u sv s).After u (svs ++ [sv]) := by
  have hfresh (k : Nat) (hk : k = s.status.numSvs) : s.status.svList k = GpsSvInfo.zero :=
    hs.fresh k (Nat.le_of_eq hk.symm)
  have hassign (f : GpsSvInfo → GpsSvInfo) (k : Nat) : (s.assign f).status.svList k =
      if k = s.status.numSvs then f GpsSvInfo.zero else s.status.svList k := by
    show (if k = s.status.numSvs then _ else _) = _
    split
    · rename_i hk
      rw [hfresh k hk]
    · rfl
  unfold svBody
  split
  · rename_i hvalid
    split
    · rename_i hsystem
      have hgps : sv.isGps := ⟨hvalid, hsystem⟩
      have hprn : sv.shownPrn = some (sv.prn.toNat : Int) := by
        rw [SvInfo.shownPrn, if_pos hvalid, if_pos hsystem]
      let s₁ := s.assign fun e => { e with size := h.sizeofGpsSvStatus, prn := sv.prn.toNat }
      show (SvLoop.finish (s₁.markAll u sv) sv).After u (svs ++ [sv])
      refine hs.finish h.sizeofGpsSvStatus hprn ?_ (fun k => ?_) (fun a => ?_) (fun flag k => ?_)
      · rw [(s₁.markAll_list sv).1]
        rfl
      · rw [(s₁.markAll_list sv).2]
        exact hassign _ k
      · rw [s₁.mem_markAll_shifts]
        exact or_congr_right (and_iff_right hgps).symm
      · rw [s₁.markAll_mask]
        split
        · rename_i hflag
          rw [BitVec.getLsbD_or, Bool.or_eq_true]
          simp [hflag, hgps, s₁, SvLoop.assign]
        · rename_i hflag
          simp [hflag, s₁, SvLoop.assign]
    · rename_i hsystem
      have hgps : ¬ sv.isGps := fun hg => hsystem hg.2
      split
      · rename_i hsbas
        refine hs.finish_plain hgps ?_ rfl (hassign _) rfl rfl
        rw [SvInfo.shownPrn, if_pos hvalid, if_neg hsystem, if_pos hsbas]
        congr 1
        omega
      split
      · rename_i hsbas hglonass
        refine hs.finish_plain hgps ?_ rfl (hassign _) rfl rfl
        rw [SvInfo.shownPrn, if_pos hvalid, if_neg hsystem, if_neg hsbas, if_pos hglonass]
        rfl
      · rename_i hsbas hglonass
        refine hs.skip ?_ hgps
        rw [SvInfo.image, SvInfo.shownPrn, if_pos hvalid, if_neg hsystem, if_neg hsbas,
          if_neg hglonass]
        rfl
  · rename_i hvalid
    have hgps : ¬ sv.isGps := fun hg => hvalid hg.1
    refine hs.finish_plain hgps (if_neg hvalid) rfl (fun k => ?_) rfl rfl
    split
    · rename_i hk
      exact hfresh k hk
    · rfl

end After

/-! ## The loop -/

section Loop

variable {h u} (g : GnssInfo)

/-- It reads nothing from the list. -/
theorem svBody_reads (sv : SvInfo) (s : SvLoop) : (svBody h u sv s).reads = s.reads := by
  have hmark (s : SvLoop) (flag : SvFlag) : (s.mark u sv flag).reads = s.reads := by
    unfold SvLoop.mark
    split
    · rfl
    · rfl
  have hfinish (s : SvLoop) : (s.finish sv).reads = s.reads := by rw [SvLoop.finish_eq]
  unfold svBody
  split
  · split
    · show (SvLoop.finish _ sv).reads = _
      rw [hfinish, hmark, hmark, hmark]
      rfl
    split
    · exact hfinish _
    split
    · exact hfinish _
    · rfl
  · exact hfinish s

/-- After `n` iterations the first `n` entries have been read and translated. -/
theorem svLoop_after (n : Nat) :
    ((List.range n).foldl (svIter h u g) svInit).reads = List.range n ∧
    ((List.range n).foldl (svIter h u g) svInit).After u ((List.range n).map (g.entry u)) := by
  induction n with
  | zero =>
    refine ⟨rfl, rfl, fun _ _ => rfl, fun a => ?_, fun flag k => ?_⟩
    · simp [svInit]
    · simp [svInit]
  | succ n ih =>
    obtain ⟨hreads, hafter⟩ := ih
    rw [List.range_succ, List.foldl_append, List.map_append]
    constructor
    · show (svBody h u _ _).reads = _
      rw [svBody_reads, hreads]
    · refine svBody_after h ?_
      exact ⟨hafter.shown, hafter.fresh, hafter.shifts, hafter.mask⟩

/-- With a valid list its number is used, up to the maximum. -/
theorem numSvsMax_eq (hlist : g.validMask &&& rpcLocGnssInfoValidSvList ≠ 0) :
    numSvsMax h g = g.counted h := by
  unfold numSvsMax GnssInfo.counted
  by_cases hcount : g.validMask &&& rpcLocGnssInfoValidSvCount ≠ 0
  · have hboth := And.intro hcount hlist
    simp only [if_pos hcount, if_pos hboth]
    split
    · rename_i hmany
      exact (Nat.min_eq_right (Nat.le_of_lt hmany)).symm
    · rename_i hfew
      exact (Nat.min_eq_left (Nat.not_lt.mp hfew)).symm
  · have hboth := fun hc : _ ∧ g.validMask &&& rpcLocGnssInfoValidSvList ≠ 0 => hcount hc.1
    rw [if_neg hcount, if_neg hboth]

/-- The function has read and translated the entries that are counted. -/
theorem locEngReportSv_after :
    (locEngReportSv h u g).reads = List.range (g.counted h) ∧
    (locEngReportSv h u g).After u ((List.range (g.counted h)).map (g.entry u)) := by
  unfold locEngReportSv
  split
  · rename_i hlist
    rw [numSvsMax_eq g hlist]
    exact svLoop_after g _
  · rename_i hlist
    have hzero : g.counted h = 0 := if_neg fun hc => hlist hc.2
    have hloop := svLoop_after (h := h) (u := u) g 0
    rw [hzero]
    exact hloop

/-- Inside the list the entries are those of the list. -/
theorem map_entry_eq {n : Nat} (hn : n ≤ g.svList.length) :
    (List.range n).map (g.entry u) = g.svList.take n := by
  apply List.ext_getElem
  · rw [List.length_map, List.length_range, List.length_take, Nat.min_eq_left hn]
  · intro i hi hi'
    have hlt : i < g.svList.length := by
      rw [List.length_map, List.length_range] at hi
      omega
    simp [GnssInfo.entry, hlt]

end Loop

/-! ## Reports that are translated faithfully -/

/-- What the code tests is what is meant, once a `bool_t` is 0 or 1. -/
def SvInfo.Canonical (sv : SvInfo) : Prop :=
  (sv.hasEph = 0 ∨ sv.hasEph = 1) ∧ (sv.hasAlm = 0 ∨ sv.hasAlm = 1)

/-- For a `bool_t` of 0 or 1 the test of the code is that of the flag. -/
theorem SvInfo.Canonical.flagged_iff {sv : SvInfo} (hsv : sv.Canonical) (flag : SvFlag) :
    sv.flagged flag = true ↔ sv.has flag := by
  have hset {b : Word} (hb : b = 0 ∨ b = 1) : b = 1 ↔ b ≠ 0 := by
    rcases hb with rfl | rfl
    · decide
    · decide
  cases flag with
  | ephemeris =>
    rw [SvInfo.flagged, SvInfo.has, Bool.and_eq_true, beq_iff_eq, hset hsv.1]
  | almanac =>
    rw [SvInfo.flagged, SvInfo.has, Bool.and_eq_true, beq_iff_eq, hset hsv.2]
  | usedInFix => rw [SvInfo.flagged, SvInfo.has, Bool.and_eq_true, beq_iff_eq]

/-- The reports that `xdr_rpc_loc_gnss_info_s_type` can store. -/
def GnssInfo.Decoded (g : GnssInfo) : Prop :=
  ∃ (i i' : InMsg) (v : xdrRpcLocGnssInfoSType.Val),
    xdrRpcLocGnssInfoSType.codec.decode.run i = .ok (v, i') ∧ g = GnssInfo.ofVal v

/-- Decoded satellites have flags of 0 or 1. -/
theorem GnssInfo.Decoded.canonical {g : GnssInfo} (hg : g.Decoded) :
    ∀ sv ∈ g.svList, sv.Canonical := by
  obtain ⟨i, i', v, hrun, rfl⟩ := hg
  have hv := xdrRpcLocGnssInfoSType.decode_canonical i i' v hrun
  intro sv hsv
  obtain ⟨e, he, rfl⟩ := List.mem_map.mp hsv
  have hlist := hv.2.2.2.2.2.2.1
  cases hval : v.2.2.2.2.2.2.1 with
  | none =>
    rw [hval] at he
    cases he
  | some c =>
    rw [hval] at he
    have hentry := (hlist c hval).2 e he
    exact ⟨(Ty.canonical_bool _).mp hentry.2.2.2.2.2.1,
      (Ty.canonical_bool _).mp hentry.2.2.2.2.2.2.1⟩

/-- Every entry that is counted is there, and each GPS entry with a flag has a bit for it. -/
def GnssInfo.Translatable (g : GnssInfo) : Prop :=
  g.counted h ≤ g.svList.length ∧
    ∀ sv ∈ g.svList.take (g.counted h), sv.isGps → ∀ flag, sv.has flag →
      1 ≤ sv.prn.toNat ∧ sv.prn.toNat ≤ 32

/-- Satellites 1 to 32 have a bit each. -/
theorem oneShl_getLsbD {n k : Nat} (hn : 1 ≤ n ∧ n ≤ 32) :
    (oneShl u ((n : Int) - 1)).getLsbD k = true ↔ n = k + 1 := by
  have hrange : 0 ≤ (n : Int) - 1 ∧ (n : Int) - 1 < 32 := by omega
  have hamount : ((n : Int) - 1).toNat = n - 1 := by omega
  rw [oneShl, if_pos hrange, hamount]
  simp [BitVec.getLsbD_shiftLeft, BitVec.getLsbD_one]
  omega

variable {h u} {g : GnssInfo}

/-- A faithful report was translatable. -/
theorem Faithful.translatable (hg : ∀ sv ∈ g.svList, sv.Canonical) (hf : Faithful h u g) :
    g.Translatable h := by
  obtain ⟨hreads, hafter⟩ := locEngReportSv_after (h := h) (u := u) g
  have hcounted : g.counted h ≤ g.svList.length := by
    by_contra hmore
    -- the entry behind the last one is among those that were read
    have hread : g.svList.length ∈ (locEngReportSv h u g).reads := by
      rw [hreads, List.mem_range]
      omega
    exact absurd (hf.reads _ hread) (Nat.lt_irrefl _)
  refine ⟨hcounted, fun sv hsv hgps flag hflag => ?_⟩
  have hsv' : sv ∈ (List.range (g.counted h)).map (g.entry u) := by
    rw [map_entry_eq g hcounted]
    exact hsv
  have hflagged : sv.flagged flag = true :=
    ((hg sv (List.mem_of_mem_take hsv)).flagged_iff flag).mpr hflag
  have hshift := hf.shifts _ ((hafter.shifts _).mpr ⟨sv, hsv', hgps, flag, hflagged, rfl⟩)
  omega

/-- A translatable report is faithful. -/
theorem GnssInfo.Translatable.faithful (hg : ∀ sv ∈ g.svList, sv.Canonical)
    (ht : g.Translatable h) : Faithful h u g := by
  obtain ⟨hcounted, hprn⟩ := ht
  obtain ⟨hreads, hafter⟩ := locEngReportSv_after (h := h) (u := u) g
  rw [map_entry_eq g hcounted] at hafter
  have hhas {sv : SvInfo} (hsv : sv ∈ g.svList.take (g.counted h)) (flag : SvFlag) :
      sv.flagged flag = true ↔ sv.has flag :=
    (hg sv (List.mem_of_mem_take hsv)).flagged_iff flag
  constructor
  · intro i hi
    rw [hreads, List.mem_range] at hi
    omega
  · intro k hk
    obtain ⟨sv, hsv, hgps, flag, hflag, rfl⟩ := (hafter.shifts k).mp hk
    have hbit := hprn sv hsv hgps flag ((hhas hsv flag).mp hflag)
    omega
  · have hlen : (locEngReportSv h u g).status.numSvs =
        ((g.svList.take (g.counted h)).filterMap SvInfo.image).length := by
      rw [← hafter.shown]
      simp [GpsSvStatus.entries]
    have hle := List.length_filterMap_le SvInfo.image (g.svList.take (g.counted h))
    have htake := List.length_take_le (g.counted h) g.svList
    have hmax : g.counted h ≤ h.gpsMaxSvs := by
      unfold GnssInfo.counted
      split
      · exact Nat.min_le_right _ _
      · exact Nat.zero_le _
    omega
  · exact hafter.shown
  · intro flag k
    rw [hafter.mask flag k]
    constructor
    · rintro ⟨sv, hsv, hgps, hflag, hbit⟩
      have hset := (hhas hsv flag).mp hflag
      exact ⟨sv, hsv, hgps, (oneShl_getLsbD u (hprn sv hsv hgps flag hset)).mp hbit, hset⟩
    · rintro ⟨sv, hsv, hgps, hk, hset⟩
      exact ⟨sv, hsv, hgps, (hhas hsv flag).mpr hset,
        (oneShl_getLsbD u (hprn sv hsv hgps flag hset)).mpr hk⟩

/-- **Satellite reports are translated faithfully** iff the list holds the entries that are
counted and every GPS entry with a flag has a `prn` from 1 to 32. The callback gets the
status iff it is set and there is an entry. -/
theorem sv_report_faithful_iff (h : GpsH) (u : Undefined) (g : GnssInfo) (hg : g.Decoded) :
    (Faithful h u g ↔ g.Translatable h) ∧
    ∀ cbSet status, svStatusCb h u g cbSet = some status ↔
      cbSet = true ∧ status = (locEngReportSv h u g).status ∧ status.entries ≠ [] := by
  constructor
  · exact ⟨Faithful.translatable hg.canonical, GnssInfo.Translatable.faithful hg.canonical⟩
  · intro cbSet status
    have hempty : (locEngReportSv h u g).status.numSvs ≠ 0 ↔
        (locEngReportSv h u g).status.entries ≠ [] := by
      simp [GpsSvStatus.entries]
    unfold svStatusCb
    constructor
    · intro hcb
      split at hcb
      · rename_i hcalled
        cases hcb
        exact ⟨hcalled.2, rfl, hempty.mp hcalled.1⟩
      · cases hcb
    · rintro ⟨hset, rfl, hne⟩
      exact if_pos ⟨hempty.mpr hne, hset⟩

/-- What fits into a message can be received. -/
theorem decoded_ofVal {v : xdrRpcLocGnssInfoSType.Val}
    (hcanonical : xdrRpcLocGnssInfoSType.Canonical v)
    (hmax : xdrRpcLocGnssInfoSType.WithinMaxima v)
    (hfit : (xdrRpcLocGnssInfoSType.wire v).length ≤ rpcrouterMsgsizeMax) :
    (GnssInfo.ofVal v).Decoded := by
  let i : InMsg := ⟨xdrRpcLocGnssInfoSType.wire v, 0, Nat.dvd_zero 4, hfit⟩
  obtain ⟨i', hrun, -⟩ :=
    xdrRpcLocGnssInfoSType.codec_faithful.reads v hmax i (List.prefix_refl _)
  rw [hcanonical.norm_eq] at hrun
  exact ⟨i, i', v, hrun, rfl⟩

/-- A report that counts one entry and has none. -/
def countedOnly : xdrRpcLocGnssInfoSType.Val := (0x30#32, 0#32, 0#32, 0#32, 0#32, 1#16, none, ())

theorem countedOnly_decoded : (GnssInfo.ofVal countedOnly).Decoded := by
  apply decoded_ofVal
  · exact ⟨rfl, rfl, rfl, rfl, rfl, rfl, nofun, trivial⟩
  · exact ⟨trivial, trivial, trivial, trivial, trivial, trivial, ⟨by decide, nofun⟩, trivial⟩
  · decide

/-- As in the platform's hardware/gps.h. -/
def gpsH : GpsH := ⟨32, 660⟩

theorem sv_report_reads_beyond : (GnssInfo.ofVal countedOnly).Decoded ∧
    ∃ u : Undefined, ¬ Faithful gpsH u (GnssInfo.ofVal countedOnly) := by
  refine ⟨countedOnly_decoded, ⟨fun _ => ⟨0, 0, 0, 0, 0, 0, 0, 0, 0⟩, fun _ => 0⟩, fun hf => ?_⟩
  obtain ⟨hcounted, -⟩ := hf.translatable countedOnly_decoded.canonical
  exact absurd hcounted (by decide)

/-- A report with one GPS satellite that is tracked. -/
def oneTracked : xdrRpcLocGnssInfoSType.Val :=
  (0x30#32, 0#32, 0#32, 0#32, 0#32, 1#16,
    some ⟨[(0xB#32, 1#32, 5#8, 0#8, 3#32, 0#32, 0#32, 0#32, 0#32, 0#32, ())], by decide⟩, ())

theorem oneTracked_decoded : (GnssInfo.ofVal oneTracked).Decoded := by
  apply decoded_ofVal
  · refine ⟨rfl, rfl, rfl, rfl, rfl, rfl, fun c hc => ?_, trivial⟩
    cases hc
    refine ⟨nofun, fun sv hsv => ?_⟩
    cases List.mem_singleton.mp hsv
    exact ⟨rfl, rfl, rfl, rfl, rfl, rfl, rfl, rfl, rfl, rfl, trivial⟩
  · refine ⟨trivial, trivial, trivial, trivial, trivial, trivial, ⟨by decide, fun sv _ => ?_⟩, trivial⟩
    exact ⟨trivial, trivial, trivial, trivial, trivial, trivial, trivial, trivial, trivial, trivial,
      trivial⟩
  · decide

theorem sv_report_one_tracked :
    Faithful gpsH ⟨fun _ => ⟨0, 0, 0, 0, 0, 0, 0, 0, 0⟩, fun _ => 0⟩ (GnssInfo.ofVal oneTracked) := by
  refine (sv_report_faithful_iff _ _ _ oneTracked_decoded).1.mpr ⟨by decide, ?_⟩
  intro sv hsv _ _ _
  cases List.mem_singleton.mp hsv
  decide

end Ancora.LocEng.Sv
