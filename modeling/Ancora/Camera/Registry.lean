import Mathlib.Data.List.Nodup
import Ancora.Lib.CText
import Ancora.Lib.Machine

/-!
# The cameras that are open (cameraHAL.cpp)

`camera_device_open` and `camera_device_close` keep two globals: the array
`gCameraHals` of `MAX_CAMERAS_SUPPORTED` pointers and the counter `gCamerasOpen`.

- The name of a camera is any string, or NULL; `atoi` makes the id of it, and the
  only test of the id is `cameraid > num_cameras`.
- An id outside the array would write to whatever lies there, so `gCameraHals` is a
  function of any int here, and `indexed` remembers which ones the code used.
- What `malloc` and `SEC_openCameraHardware` return is up to the environment
  (`OpenArgs`), and the number of cameras is a parameter.
- **`registry_correct_iff`**: in every history in which the service opens no camera
  twice, all is well exactly if every open has a name, and none with the id -1, -2, … or
  the number of cameras gets as far as `gCameraHals`.
-/

namespace Ancora.Camera.Registry

open CText Machine

/-- A `priv_camera_device_t` that was handed out, with its address. -/
structure Device where
  ptr : Nat
  cameraid : Int
  deriving DecidableEq, Repr

/-- The globals, and the devices that are open. -/
structure Globals where
  /-- What stands at `gCameraHals[j]`. -/
  gCameraHals : Int → Option Nat
  gCamerasOpen : BitVec 32
  devices : List Device
  /-- The next address `malloc` hands out. -/
  nextPtr : Nat
  /-- The ints that `gCameraHals` was indexed with. -/
  indexed : List Int

def start : Globals where
  gCameraHals _ := none
  gCamerasOpen := 0
  devices := []
  nextPtr := 0
  indexed := []

/-- The name, and what the calls made by `camera_device_open` return. -/
structure OpenArgs where
  name : Option (List Char8)
  /-- `malloc` of the device succeeds. -/
  deviceAlloc : Bool
  /-- `malloc` of `camera_ops` succeeds. -/
  opsAlloc : Bool
  /-- `SEC_openCameraHardware`. -/
  hardware : Option Nat
  deriving DecidableEq, Repr

/-- What becomes of `*device`. -/
inductive DeviceOut
  | untouched
  | null
  | device (d : Device)
  deriving DecidableEq, Repr

structure OpenResult where
  rv : Int
  device : DeviceOut
  deriving DecidableEq, Repr

/-- `-EINVAL` -/
def einval : Int := -22

/-- `-ENOMEM` -/
def enomem : Int := -12

/-- `camera_device_open` (cameraHAL.cpp:924). -/
def cameraDeviceOpen (numCameras : Int) (s : Globals) (a : OpenArgs) : OpenResult × Globals :=
  match a.name with
  | none => (⟨0, .untouched⟩, s)
  | some name =>
    let cameraid := atoi name
    if cameraid > numCameras then (⟨einval, .null⟩, s)
    else if 2 ≤ s.gCamerasOpen.toNat then (⟨enomem, .null⟩, s)
    else if a.deviceAlloc = false then (⟨enomem, .null⟩, s)
    else if a.opsAlloc = false then (⟨enomem, .null⟩, { s with nextPtr := s.nextPtr + 1 })
    else
      match a.hardware with
      -- `*device` pointed to the device already; `fail` frees it
      | none => (⟨enomem, .null⟩, { s with nextPtr := s.nextPtr + 1 })
      | some camera =>
        let device : Device := ⟨s.nextPtr, cameraid⟩
        (⟨0, .device device⟩,
          { gCameraHals := Function.update s.gCameraHals cameraid (some camera)
            gCamerasOpen := s.gCamerasOpen + 1
            devices := device :: s.devices
            nextPtr := s.nextPtr + 1
            indexed := cameraid :: s.indexed })

/-- `camera_device_close` (cameraHAL.cpp:870); `none` if the pointer is not that of an open
device. -/
def cameraDeviceClose (s : Globals) (device : Option Nat) : Option (Int × Globals) :=
  match device with
  | none => some (einval, s)
  | some ptr =>
    (s.devices.find? fun d => d.ptr = ptr).map fun dev =>
      (0,
        { s with
          gCameraHals := Function.update s.gCameraHals dev.cameraid none
          gCamerasOpen := s.gCamerasOpen - 1
          devices := s.devices.erase dev
          indexed := dev.cameraid :: s.indexed })

inductive Act
  | deviceOpen (a : OpenArgs)
  | deviceClose (device : Option Nat)
  deriving DecidableEq, Repr

def step (numCameras : Int) (s : Globals) : Act → Option Globals
  | .deviceOpen a => some (cameraDeviceOpen numCameras s a).2
  | .deviceClose device => (cameraDeviceClose s device).map Prod.snd

/-! ## What the registry is for -/

/-- "assume camera service will keep singleton of each camera" (cameraHAL.cpp:919). -/
def onceEach (s : Globals) : Act → Prop
  | .deviceOpen a => ∀ name ∈ a.name, ∀ d ∈ s.devices, d.cameraid ≠ atoi name
  | .deviceClose _ => True

instance (s : Globals) : (a : Act) → Decidable (onceEach s a)
  | .deviceOpen _ => inferInstanceAs (Decidable (∀ name ∈ _, ∀ d ∈ s.devices, _))
  | .deviceClose _ => .isTrue trivial

/-- The globals describe the devices that are open. -/
structure Consistent (s : Globals) : Prop where
  indexed : ∀ j ∈ s.indexed, 0 ≤ j ∧ j ≤ 1
  count : s.gCamerasOpen.toNat = s.devices.length
  hals : ∀ j, s.gCameraHals j ≠ none ↔ ∃ d ∈ s.devices, d.cameraid = j

/-- What an open promises to the caller. -/
structure OpenCorrect (numCameras : Int) (s : Globals) (a : OpenArgs) : Prop where
  success : (cameraDeviceOpen numCameras s a).1.rv = 0 →
    ∃ d, (cameraDeviceOpen numCameras s a).1.device = .device d ∧
      d ∈ (cameraDeviceOpen numCameras s a).2.devices ∧ 0 ≤ d.cameraid ∧ d.cameraid < numCameras
  failure : (cameraDeviceOpen numCameras s a).1.rv ≠ 0 →
    (cameraDeviceOpen numCameras s a).1.device = .null ∧
      (cameraDeviceOpen numCameras s a).2.gCameraHals = s.gCameraHals ∧
      (cameraDeviceOpen numCameras s a).2.gCamerasOpen = s.gCamerasOpen

/-- An open that does not get as far as `gCameraHals`, whatever the id. -/
def Refused (s : Globals) (a : OpenArgs) : Prop :=
  2 ≤ s.gCamerasOpen.toNat ∨ a.deviceAlloc = false ∨ a.opsAlloc = false ∨ a.hardware = none

/-- There is a name, and its id is neither negative nor the number of cameras, unless the
open is refused for another reason. -/
def InRange (numCameras : Int) (s : Globals) (a : OpenArgs) : Prop :=
  ∃ name ∈ a.name, 0 ≤ atoi name ∧ atoi name ≠ numCameras ∨ Refused s a

/-- The opens of a run, each with the state before it. -/
def opens (s : Globals) (a : Act) (_ : Globals) : List (Globals × OpenArgs) :=
  match a with
  | .deviceOpen a => [(s, a)]
  | .deviceClose _ => []

/-! ## One call -/

section Call

variable {numCameras : Int} {s s' : Globals} {a : OpenArgs}

/-- An open fails and leaves the globals alone, or it is the one that writes them. -/
theorem cameraDeviceOpen_cases (numCameras : Int) (s : Globals) {name : List Char8}
    (hname : a.name = some name) :
    ((numCameras < atoi name ∨ Refused s a) ∧
      (cameraDeviceOpen numCameras s a).1.rv ≠ 0 ∧
      (cameraDeviceOpen numCameras s a).1.device = .null ∧
      ∃ n, (cameraDeviceOpen numCameras s a).2 = { s with nextPtr := n }) ∨
    (atoi name ≤ numCameras ∧ ¬ Refused s a ∧ ∃ camera,
      cameraDeviceOpen numCameras s a =
        (⟨0, .device ⟨s.nextPtr, atoi name⟩⟩,
          { gCameraHals := Function.update s.gCameraHals (atoi name) (some camera)
            gCamerasOpen := s.gCamerasOpen + 1
            devices := ⟨s.nextPtr, atoi name⟩ :: s.devices
            nextPtr := s.nextPtr + 1
            indexed := atoi name :: s.indexed })) := by
  have hinval : einval ≠ 0 := by decide
  have hnomem : enomem ≠ 0 := by decide
  unfold cameraDeviceOpen
  rw [hname]
  simp only
  split
  case isTrue hid => exact .inl ⟨.inl hid, hinval, rfl, s.nextPtr, rfl⟩
  case isFalse hid =>
    split
    case isTrue hopen => exact .inl ⟨.inr (.inl hopen), hnomem, rfl, s.nextPtr, rfl⟩
    case isFalse hopen =>
      split
      case isTrue hdev => exact .inl ⟨.inr (.inr (.inl hdev)), hnomem, rfl, s.nextPtr, rfl⟩
      case isFalse hdev =>
        split
        case isTrue hops => exact .inl ⟨.inr (.inr (.inr (.inl hops))), hnomem, rfl, _, rfl⟩
        case isFalse hops =>
          cases hhw : a.hardware with
          | none => exact .inl ⟨.inr (.inr (.inr (.inr hhw))), hnomem, rfl, _, rfl⟩
          | some camera =>
            refine .inr ⟨Int.not_lt.mp hid, ?_, camera, rfl⟩
            unfold Refused
            simp [hopen, hdev, hops, hhw]

/-- An open does what it promises exactly if it is in range. -/
theorem openCorrect_iff (hN : 0 ≤ numCameras) :
    OpenCorrect numCameras s a ↔ InRange numCameras s a := by
  cases hname : a.name with
  | none =>
    -- NULL: SUCCESS without a device
    constructor
    · intro h
      obtain ⟨d, hd, -⟩ := h.success (by rw [cameraDeviceOpen, hname])
      rw [cameraDeviceOpen, hname] at hd
      cases hd
    · rintro ⟨name, hmem, -⟩
      rw [hname] at hmem
      cases hmem
  | some name =>
    have hiff : InRange numCameras s a ↔
        0 ≤ atoi name ∧ atoi name ≠ numCameras ∨ Refused s a := by
      simp [InRange, hname]
    rw [hiff]
    rcases cameraDeviceOpen_cases numCameras s hname with
      ⟨hwhy, hrv, hnull, n, hst⟩ | ⟨hle, hnot, camera, hopen⟩
    · constructor
      · intro _
        refine hwhy.imp ?_ id
        intro hid
        omega
      · intro _
        refine ⟨fun hzero => absurd hzero hrv, fun _ => ⟨hnull, ?_⟩⟩
        rw [hst]
        exact ⟨rfl, rfl⟩
    · constructor
      · intro h
        obtain ⟨d, hd, -, hlow, hhigh⟩ := h.success (by rw [hopen])
        rw [hopen] at hd
        cases hd
        exact .inl ⟨hlow, Int.ne_of_lt hhigh⟩
      · rintro (⟨hlow, hne⟩ | href)
        · refine ⟨fun _ => ?_, fun hrv => absurd (by rw [hopen]) hrv⟩
          rw [hopen]
          exact ⟨_, rfl, List.mem_cons_self, hlow, by simp only; omega⟩
        · exact absurd href hnot

end Call

/-! ## Histories -/

section Run

variable {numCameras : Int} {s s' : Globals}

/-- What holds after every history whose opens are in range. -/
structure Inv (numCameras : Int) (s : Globals) : Prop extends Consistent s where
  inBounds : ∀ d ∈ s.devices, 0 ≤ d.cameraid ∧ d.cameraid < numCameras
  once : (s.devices.map Device.cameraid).Nodup

theorem inv_start : Inv numCameras start where
  indexed := nofun
  count := rfl
  hals j := by simp [start]
  inBounds := nofun
  once := List.nodup_nil

/-- The open that writes the globals. -/
theorem Inv.opened {cameraid : Int} {camera : Nat} (h : Inv numCameras s) (hN : numCameras ≤ 2)
    (hlow : 0 ≤ cameraid) (hhigh : cameraid < numCameras) (hroom : s.gCamerasOpen.toNat < 2)
    (hnew : ∀ d ∈ s.devices, d.cameraid ≠ cameraid) :
    Inv numCameras
      { gCameraHals := Function.update s.gCameraHals cameraid (some camera)
        gCamerasOpen := s.gCamerasOpen + 1
        devices := ⟨s.nextPtr, cameraid⟩ :: s.devices
        nextPtr := s.nextPtr + 1
        indexed := cameraid :: s.indexed } where
  indexed := by
    refine List.forall_mem_cons.mpr ⟨?_, h.indexed⟩
    omega
  count := by
    have hcount := h.count
    simp only [List.length_cons]
    bv_omega
  hals j := by
    by_cases hj : j = cameraid
    · subst hj
      simp
    · simp only [Function.update_of_ne hj, List.mem_cons, exists_eq_or_imp]
      rw [h.hals j]
      exact (or_iff_right (Ne.symm hj)).symm
  inBounds := List.forall_mem_cons.mpr ⟨⟨hlow, hhigh⟩, h.inBounds⟩
  once := by
    refine List.nodup_cons.mpr ⟨?_, h.once⟩
    intro hmem
    obtain ⟨d, hd, heq⟩ := List.mem_map.mp hmem
    exact hnew d hd heq

/-- Two open devices are of two cameras. -/
theorem Inv.eq_of_cameraid (h : Inv numCameras s) {d d' : Device} (hd : d ∈ s.devices)
    (hd' : d' ∈ s.devices) (heq : d.cameraid = d'.cameraid) : d = d' :=
  List.inj_on_of_nodup_map h.once hd hd' heq

/-- Closing a device that is open. -/
theorem Inv.closed {dev : Device} (h : Inv numCameras s) (hN : numCameras ≤ 2)
    (hdev : dev ∈ s.devices) :
    Inv numCameras
      { s with
        gCameraHals := Function.update s.gCameraHals dev.cameraid none
        gCamerasOpen := s.gCamerasOpen - 1
        devices := s.devices.erase dev
        indexed := dev.cameraid :: s.indexed } where
  indexed := by
    have hdevIn := h.inBounds dev hdev
    refine List.forall_mem_cons.mpr ⟨?_, h.indexed⟩
    omega
  count := by
    have hcount := h.count
    have hpos : 0 < s.devices.length := List.length_pos_of_mem hdev
    have hlen := List.length_erase_of_mem hdev
    have hfits := s.gCamerasOpen.isLt
    simp only [hlen]
    bv_omega
  hals j := by
    have hnodup : s.devices.Nodup := List.Nodup.of_map _ h.once
    by_cases hj : j = dev.cameraid
    · subst hj
      simp only [Function.update_self, ne_eq, not_true_eq_false, false_iff, not_exists, not_and]
      intro d hd heq
      obtain ⟨hne, hmem⟩ := hnodup.mem_erase_iff.mp hd
      exact hne (h.eq_of_cameraid hmem hdev heq)
    · simp only [Function.update_of_ne hj]
      rw [h.hals j]
      refine exists_congr fun d => and_congr_left fun heq => ?_
      have hne : d ≠ dev := fun hne => hj (heq ▸ hne ▸ rfl)
      exact (List.mem_erase_of_ne hne).symm
  inBounds d hd := h.inBounds d (List.mem_of_mem_erase hd)
  once := h.once.sublist (List.erase_sublist.map _)

theorem Inv.deviceOpen {a : OpenArgs} (h : Inv numCameras s) (hN : numCameras ≤ 2)
    (honce : onceEach s (.deviceOpen a)) (hrange : InRange numCameras s a) :
    Inv numCameras (cameraDeviceOpen numCameras s a).2 := by
  obtain ⟨name, hname, hid⟩ := hrange
  rcases cameraDeviceOpen_cases numCameras s hname with
    ⟨-, -, -, n, hst⟩ | ⟨hle, hnot, camera, hopen⟩
  · rw [hst]
    exact ⟨⟨h.indexed, h.count, h.hals⟩, h.inBounds, h.once⟩
  · rw [hopen]
    have hid := hid.resolve_right hnot
    have hroom : s.gCamerasOpen.toNat < 2 := Nat.not_le.mp fun hfull => hnot (.inl hfull)
    exact h.opened hN hid.1 (by omega) hroom (honce name hname)

theorem Inv.deviceClose {device : Option Nat} (h : Inv numCameras s) (hN : numCameras ≤ 2)
    (hs : (cameraDeviceClose s device).map Prod.snd = some s') : Inv numCameras s' := by
  cases device with
  | none =>
    cases hs
    exact h
  | some ptr =>
    simp only [cameraDeviceClose, Option.map_map] at hs
    obtain ⟨dev, hfind, rfl⟩ := Option.map_eq_some_iff.mp hs
    exact h.closed hN (List.mem_of_find?_eq_some hfind)

end Run

/-- **The registry of cameras**: after every history in which the service opens no camera
that is open, the globals describe the open devices and every open did what it promises,
exactly if every open has a name, and an open whose id is negative or the number of cameras
was refused for another reason. -/
theorem registry_correct_iff {numCameras : Int} (hlow : 0 ≤ numCameras) (hhigh : numCameras ≤ 2)
    {as : List Act} {s : Globals} {h : List (Globals × OpenArgs)}
    (hrun : exec (observe opens (restrict onceEach (step numCameras))) (start, []) as =
      some (s, h)) :
    (Consistent s ∧ ∀ o ∈ h, OpenCorrect numCameras o.1 o.2) ↔
      ∀ o ∈ h, InRange numCameras o.1 o.2 := by
  constructor
  · rintro ⟨-, hcorrect⟩ o ho
    exact (openCorrect_iff hlow).mp (hcorrect o ho)
  · intro hrange
    refine ⟨?_, fun o ho => (openCorrect_iff hlow).mpr (hrange o ho)⟩
    have hstep : ∀ s h a s', restrict onceEach (step numCameras) s a = some s' →
        ((∀ o ∈ h, InRange numCameras o.1 o.2) → Inv numCameras s) →
        ((∀ o ∈ h ++ opens s a s', InRange numCameras o.1 o.2) → Inv numCameras s') := by
      intro s h a s' hs hinv hall
      obtain ⟨hpast, hnow⟩ := List.forall_mem_append.mp hall
      obtain ⟨honce, hs⟩ := restrict_eq_some.mp hs
      cases a with
      | deviceOpen a =>
        cases hs
        exact (hinv hpast).deviceOpen hhigh honce (hnow (s, a) List.mem_cons_self)
      | deviceClose device => exact (hinv hpast).deviceClose hhigh hs
    exact (exec_observe_invariant hstep (fun _ => inv_start) hrun hrange).toConsistent

/-- Both cameras are opened, a third one is refused, and the first is closed. -/
theorem registry_correct_two_cameras :
    ∃ s h,
      exec (observe opens (restrict onceEach (step 2))) (start, [])
        [.deviceOpen ⟨some (ascii "0"), true, true, some 7⟩,
          .deviceOpen ⟨some (ascii "1"), true, true, some 8⟩,
          .deviceOpen ⟨some (ascii "3"), true, true, some 9⟩, .deviceClose (some 0)] =
        some (s, h) ∧
      s.devices = [⟨1, 1⟩] ∧ Consistent s ∧ ∀ o ∈ h, OpenCorrect 2 o.1 o.2 := by
  have hseen : (exec (observe opens (restrict onceEach (step 2))) (start, [])
      [.deviceOpen ⟨some (ascii "0"), true, true, some 7⟩,
        .deviceOpen ⟨some (ascii "1"), true, true, some 8⟩,
        .deviceOpen ⟨some (ascii "3"), true, true, some 9⟩, .deviceClose (some 0)]).map
      (fun p => (p.1.devices, p.2.map fun o => o.2.name)) =
      some ([⟨1, 1⟩], [some (ascii "0"), some (ascii "1"), some (ascii "3")]) := by decide
  obtain ⟨⟨s, h⟩, hrun, hp⟩ := Option.map_eq_some_iff.mp hseen
  obtain ⟨hdevices, hnames⟩ := Prod.mk.inj hp
  refine ⟨s, h, hrun, hdevices, (registry_correct_iff (by decide) (by decide) hrun).mpr ?_⟩
  intro o ho
  have hname := List.mem_map_of_mem (f := fun o : Globals × OpenArgs => o.2.name) ho
  rw [hnames] at hname
  have hid : ∃ name, o.2.name = some name ∧ 0 ≤ atoi name ∧ atoi name ≠ 2 := by
    simp only [List.mem_cons, List.not_mem_nil, or_false] at hname
    rcases hname with h0 | h1 | h3
    · exact ⟨_, h0, by decide⟩
    · exact ⟨_, h1, by decide⟩
    · exact ⟨_, h3, by decide⟩
  obtain ⟨name, hmem, hok⟩ := hid
  exact ⟨name, hmem, .inl hok⟩

/-- With two cameras, the name `"2"` gets past the test `cameraid > num_cameras`. -/
theorem third_camera_opens :
    ¬ ∀ (numCameras : Int) (as : List Act) (s : Globals) (h : List (Globals × OpenArgs)),
      0 ≤ numCameras → numCameras ≤ 2 →
      exec (observe opens (restrict onceEach (step numCameras))) (start, []) as = some (s, h) →
      Consistent s ∧ ∀ o ∈ h, OpenCorrect numCameras o.1 o.2 := by
  intro hall
  have hbad := hall 2 [.deviceOpen ⟨some (ascii "2"), true, true, some 7⟩] _ _
    (by decide) (by decide) rfl
  have hindex := hbad.1.indexed 2 List.mem_cons_self
  exact absurd hindex.2 (by decide)

end Ancora.Camera.Registry
