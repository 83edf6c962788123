import Ancora.Lib.Machine

/-!
# An open camera and its preview (cameraHAL.cpp)

The operations of a `camera_device_t` pass what they are asked to the proprietary
`CameraHardwareInterface`. That class is not part of the repository: it is a
parameter here (`Hardware`), a state with one function per method, and what is
known of the methods is stated as laws where it is used.

- `priv_camera_device.preview_started` is kept by hand next to the hardware, and
  is all that `camera_preview_enabled` returns.
- **`preview_mirrored_iff`**: through every sequence of operations the flag says
  whether the preview is running, exactly if the preview that
  `camera_stop_recording` starts again was running anyway or does not start.

The operations are those on a device; with a NULL pointer each of them returns at once.
-/

namespace Ancora.Camera

open Machine

/-- `CameraHardwareInterface`, as far as `cameraHAL.cpp` calls it; `π` is `CameraParameters`. -/
structure Hardware (σ π : Type) where
  startPreview : σ → Int × σ
  stopPreview : σ → σ
  previewEnabled : σ → Bool × σ
  startRecording : σ → Int × σ
  stopRecording : σ → σ
  recordingEnabled : σ → Bool × σ
  autoFocus : σ → Int × σ
  cancelAutoFocus : σ → Int × σ
  takePicture : σ → Int × σ
  cancelPicture : σ → Int × σ
  setParameters : π → σ → Int × σ
  getParameters : σ → π
  sendCommand : (cmd arg1 arg2 : BitVec 32) → σ → Int × σ
  release : σ → σ
  enableMsgType : BitVec 32 → σ → σ
  disableMsgType : BitVec 32 → σ → σ
  msgTypeEnabled : BitVec 32 → σ → Bool × σ

/-- A `priv_camera_device_t` with the hardware behind it, `gCameraHals[cameraid]`. -/
structure Device (σ : Type) where
  previewStarted : Int
  hw : σ
  deriving DecidableEq, Repr

/-- `CAMERA_MSG_SHUTTER` -/
def msgShutter : BitVec 32 := 0x2

/-- `CAMERA_MSG_POSTVIEW_FRAME` -/
def msgPostviewFrame : BitVec 32 := 0x40

/-- `CAMERA_MSG_RAW_IMAGE` -/
def msgRawImage : BitVec 32 := 0x80

/-- `CAMERA_MSG_COMPRESSED_IMAGE` -/
def msgCompressedImage : BitVec 32 := 0x100

/-- `CAMERA_MSG_RAW_IMAGE_NOTIFY` -/
def msgRawImageNotify : BitVec 32 := 0x200

variable {σ π : Type}

namespace Device

/-- The operations that are one call of the hardware with a status. -/
def call (dev : Device σ) (method : σ → Int × σ) : Int × Device σ :=
  ((method dev.hw).1, { dev with hw := (method dev.hw).2 })

/-- The operations that ask the hardware. -/
def ask (dev : Device σ) (method : σ → Bool × σ) : Bool × Device σ :=
  ((method dev.hw).1, { dev with hw := (method dev.hw).2 })

variable (hw : Hardware σ π) (dev : Device σ)

/-- `camera_enable_msg_type` (cameraHAL.cpp:509). -/
def cameraEnableMsgType (msgType : BitVec 32) : Device σ :=
  let msgType :=
    if msgType &&& msgRawImageNotify ≠ 0 then msgType &&& ~~~msgRawImageNotify ||| msgRawImage
    else msgType
  { dev with hw := hw.enableMsgType msgType dev.hw }

/-- `camera_disable_msg_type` (cameraHAL.cpp:530). -/
def cameraDisableMsgType (msgType : BitVec 32) : Device σ :=
  -- "The camera app disables the shutter too early which leads to crash."
  if msgType = msgShutter then dev
  else { dev with hw := hw.disableMsgType msgType dev.hw }

/-- `camera_msg_type_enabled` (cameraHAL.cpp:551). -/
def cameraMsgTypeEnabled (msgType : BitVec 32) : Bool × Device σ :=
  dev.ask (hw.msgTypeEnabled msgType)

/-- `camera_start_preview` (cameraHAL.cpp:570). -/
def cameraStartPreview : Int × Device σ :=
  let r := hw.startPreview dev.hw
  (r.1, { previewStarted := if r.1 = 0 then 1 else dev.previewStarted, hw := r.2 })

/-- `camera_stop_preview` (cameraHAL.cpp:592). -/
def cameraStopPreview : Device σ := { previewStarted := 0, hw := hw.stopPreview dev.hw }

/-- `camera_preview_enabled` (cameraHAL.cpp:608). What the hardware answers is dropped. -/
def cameraPreviewEnabled : Int × Device σ := (dev.previewStarted, (dev.ask hw.previewEnabled).2)

/-- `camera_start_recording` (cameraHAL.cpp:628). -/
def cameraStartRecording : Int × Device σ := dev.call hw.startRecording

/-- `camera_stop_recording` (cameraHAL.cpp:647). -/
def cameraStopRecording : Device σ :=
  -- "force start preview when recording stop"
  { dev with hw := (hw.startPreview (hw.stopRecording dev.hw)).2 }

/-- `camera_recording_enabled` (cameraHAL.cpp:666). -/
def cameraRecordingEnabled : Bool × Device σ := dev.ask hw.recordingEnabled

/-- `camera_release_recording_frame` (cameraHAL.cpp:685) does nothing. -/
def cameraReleaseRecordingFrame : Device σ := dev

/-- `camera_auto_focus` (cameraHAL.cpp:691). -/
def cameraAutoFocus : Int × Device σ := dev.call hw.autoFocus

/-- `camera_cancel_auto_focus` (cameraHAL.cpp:710). -/
def cameraCancelAutoFocus : Int × Device σ := dev.call hw.cancelAutoFocus

/-- `camera_take_picture` (cameraHAL.cpp:729). -/
def cameraTakePicture : Int × Device σ :=
  let r := hw.takePicture (hw.enableMsgType
    (msgShutter ||| msgPostviewFrame ||| msgRawImage ||| msgCompressedImage) dev.hw)
  (r.1, { previewStarted := 0, hw := hw.stopPreview r.2 })

/-- `camera_cancel_picture` (cameraHAL.cpp:757). -/
def cameraCancelPicture : Int × Device σ := dev.call hw.cancelPicture

/-- `camera_set_parameters` (cameraHAL.cpp:776), after `unflatten`. -/
def cameraSetParameters (params : π) : Int × Device σ := dev.call (hw.setParameters params)

/-- `camera_get_parameters` (cameraHAL.cpp:799), before they are fixed up and flattened. -/
def cameraGetParameters : π × Device σ := (hw.getParameters dev.hw, dev)

/-- `camera_send_command` (cameraHAL.cpp:833). -/
def cameraSendCommand (cmd arg1 arg2 : BitVec 32) : Int × Device σ :=
  dev.call (hw.sendCommand cmd arg1 arg2)

/-- `camera_release` (cameraHAL.cpp:854). -/
def cameraRelease : Device σ := { previewStarted := 0, hw := hw.release dev.hw }

end Device

/-- The operations on an open device. -/
inductive Op (π : Type)
  | enableMsgType (msgType : BitVec 32)
  | disableMsgType (msgType : BitVec 32)
  | msgTypeEnabled (msgType : BitVec 32)
  | startPreview
  | stopPreview
  | previewEnabled
  | startRecording
  | stopRecording
  | recordingEnabled
  | releaseRecordingFrame
  | autoFocus
  | cancelAutoFocus
  | takePicture
  | cancelPicture
  | setParameters (params : π)
  | getParameters
  | putParameters
  | sendCommand (cmd arg1 arg2 : BitVec 32)
  | release
  deriving DecidableEq, Repr

/-- The device after an operation. -/
def runOp (hw : Hardware σ π) (dev : Device σ) : Op π → Device σ
  | .enableMsgType msgType => dev.cameraEnableMsgType hw msgType
  | .disableMsgType msgType => dev.cameraDisableMsgType hw msgType
  | .msgTypeEnabled msgType => (dev.cameraMsgTypeEnabled hw msgType).2
  | .startPreview => (dev.cameraStartPreview hw).2
  | .stopPreview => dev.cameraStopPreview hw
  | .previewEnabled => (dev.cameraPreviewEnabled hw).2
  | .startRecording => (dev.cameraStartRecording hw).2
  | .stopRecording => dev.cameraStopRecording hw
  | .recordingEnabled => (dev.cameraRecordingEnabled hw).2
  | .releaseRecordingFrame => dev.cameraReleaseRecordingFrame
  | .autoFocus => (dev.cameraAutoFocus hw).2
  | .cancelAutoFocus => (dev.cameraCancelAutoFocus hw).2
  | .takePicture => (dev.cameraTakePicture hw).2
  | .cancelPicture => (dev.cameraCancelPicture hw).2
  | .setParameters params => (dev.cameraSetParameters hw params).2
  | .getParameters => (dev.cameraGetParameters hw).2
  -- `free` of what `camera_get_parameters` returned
  | .putParameters => dev
  | .sendCommand cmd arg1 arg2 => (dev.cameraSendCommand hw cmd arg1 arg2).2
  | .release => dev.cameraRelease hw

def step (hw : Hardware σ π) (dev : Device σ) (op : Op π) : Option (Device σ) :=
  some (runOp hw dev op)

/-! ## The preview -/

/-- A method that leaves the preview as it is. -/
def Keeps (running : σ → Prop) (f : σ → σ) : Prop := ∀ s, running (f s) ↔ running s

/-- What is assumed of the hardware: which methods start and stop the preview. -/
structure PreviewLaws (hw : Hardware σ π) (running : σ → Prop) : Prop where
  started : ∀ s, (hw.startPreview s).1 = 0 → running (hw.startPreview s).2
  notStarted : ∀ s, (hw.startPreview s).1 ≠ 0 → (running (hw.startPreview s).2 ↔ running s)
  stopPreview : ∀ s, ¬ running (hw.stopPreview s)
  release : ∀ s, ¬ running (hw.release s)
  previewEnabled : Keeps running fun s => (hw.previewEnabled s).2
  startRecording : Keeps running fun s => (hw.startRecording s).2
  stopRecording : Keeps running hw.stopRecording
  recordingEnabled : Keeps running fun s => (hw.recordingEnabled s).2
  autoFocus : Keeps running fun s => (hw.autoFocus s).2
  cancelAutoFocus : Keeps running fun s => (hw.cancelAutoFocus s).2
  takePicture : Keeps running fun s => (hw.takePicture s).2
  cancelPicture : Keeps running fun s => (hw.cancelPicture s).2
  setParameters : ∀ params, Keeps running fun s => (hw.setParameters params s).2
  sendCommand : ∀ cmd arg1 arg2, Keeps running fun s => (hw.sendCommand cmd arg1 arg2 s).2
  enableMsgType : ∀ m, Keeps running (hw.enableMsgType m)
  disableMsgType : ∀ m, Keeps running (hw.disableMsgType m)
  msgTypeEnabled : ∀ m, Keeps running fun s => (hw.msgTypeEnabled m s).2

/-- `camera_preview_enabled` returns nonzero exactly while the preview is running. -/
def Mirrors (hw : Hardware σ π) (running : σ → Prop) (dev : Device σ) : Prop :=
  (dev.cameraPreviewEnabled hw).1 ≠ 0 ↔ running dev.hw

/-- Where `camera_stop_recording` starts the preview, it was started before. -/
def previewStays (hw : Hardware σ π) (dev : Device σ) : Op π → Prop
  | .stopRecording =>
    (hw.startPreview (hw.stopRecording dev.hw)).1 = 0 → dev.previewStarted ≠ 0
  | _ => True

instance (hw : Hardware σ π) (dev : Device σ) : (op : Op π) → Decidable (previewStays hw dev op)
  | .stopRecording => inferInstanceAs (Decidable (_ → _))
  | .enableMsgType _ | .disableMsgType _ | .msgTypeEnabled _ | .startPreview | .stopPreview
  | .previewEnabled | .startRecording | .recordingEnabled | .releaseRecordingFrame | .autoFocus
  | .cancelAutoFocus | .takePicture | .cancelPicture | .setParameters _ | .getParameters
  | .putParameters | .sendCommand _ _ _ | .release => .isTrue trivial

section Preview

variable {hw : Hardware σ π} {running : σ → Prop} {dev : Device σ}

/-- An operation that is one call the preview does not notice. -/
theorem Mirrors.keep {f : σ → σ} (h : Mirrors hw running dev) (hf : Keeps running f) :
    Mirrors hw running { dev with hw := f dev.hw } :=
  h.trans (hf dev.hw).symm

/-- An operation that clears the flag and stops the preview. -/
theorem mirrors_stopped {s : σ} (h : ¬ running s) : Mirrors hw running ⟨0, s⟩ :=
  iff_of_false (not_not.mpr rfl) h

theorem Mirrors.startPreview (h : Mirrors hw running dev) (laws : PreviewLaws hw running) :
    Mirrors hw running (dev.cameraStartPreview hw).2 := by
  unfold Device.cameraStartPreview
  by_cases hrv : (hw.startPreview dev.hw).1 = 0
  · simp only [hrv, if_true]
    exact iff_of_true Int.one_ne_zero (laws.started dev.hw hrv)
  · simp only [hrv, if_false]
    exact h.trans (laws.notStarted dev.hw hrv).symm

/-- The one operation that starts the preview behind the flag's back. -/
theorem Mirrors.stopRecording_iff (h : Mirrors hw running dev) (laws : PreviewLaws hw running) :
    Mirrors hw running (dev.cameraStopRecording hw) ↔ previewStays hw dev .stopRecording := by
  let s := hw.stopRecording dev.hw
  show (dev.previewStarted ≠ 0 ↔ running (hw.startPreview s).2) ↔
    ((hw.startPreview s).1 = 0 → dev.previewStarted ≠ 0)
  by_cases hrv : (hw.startPreview s).1 = 0
  · rw [iff_true_right (laws.started s hrv), forall_prop_of_true hrv]
  · refine iff_of_true ?_ fun hzero => absurd hzero hrv
    rw [laws.notStarted s hrv, laws.stopRecording dev.hw]
    exact h

/-- One operation keeps the mirror exactly if it meets the condition. -/
theorem Mirrors.runOp_iff (h : Mirrors hw running dev) (laws : PreviewLaws hw running)
    (op : Op π) : Mirrors hw running (runOp hw dev op) ↔ previewStays hw dev op := by
  cases op with
  | stopRecording => exact h.stopRecording_iff laws
  | startPreview => exact iff_of_true (h.startPreview laws) trivial
  | stopPreview => exact iff_of_true (mirrors_stopped (laws.stopPreview _)) trivial
  | takePicture => exact iff_of_true (mirrors_stopped (laws.stopPreview _)) trivial
  | release => exact iff_of_true (mirrors_stopped (laws.release _)) trivial
  | enableMsgType m => exact iff_of_true (h.keep (laws.enableMsgType _)) trivial
  | disableMsgType m =>
    refine iff_of_true ?_ trivial
    show Mirrors hw running (dev.cameraDisableMsgType hw m)
    unfold Device.cameraDisableMsgType
    split
    · exact h
    · exact h.keep (laws.disableMsgType m)
  | msgTypeEnabled m => exact iff_of_true (h.keep (laws.msgTypeEnabled m)) trivial
  | previewEnabled => exact iff_of_true (h.keep laws.previewEnabled) trivial
  | startRecording => exact iff_of_true (h.keep laws.startRecording) trivial
  | recordingEnabled => exact iff_of_true (h.keep laws.recordingEnabled) trivial
  | autoFocus => exact iff_of_true (h.keep laws.autoFocus) trivial
  | cancelAutoFocus => exact iff_of_true (h.keep laws.cancelAutoFocus) trivial
  | cancelPicture => exact iff_of_true (h.keep laws.cancelPicture) trivial
  | setParameters params => exact iff_of_true (h.keep (laws.setParameters params)) trivial
  | sendCommand cmd arg1 arg2 =>
    exact iff_of_true (h.keep (laws.sendCommand cmd arg1 arg2)) trivial
  | releaseRecordingFrame => exact iff_of_true h trivial
  | getParameters => exact iff_of_true h trivial
  | putParameters => exact iff_of_true h trivial

end Preview

/-- **The preview state that is reported**: from a device that mirrors its hardware, as a
newly opened one does, every state of a run does so exactly if each `camera_stop_recording`
whose `startPreview` succeeds finds the preview running. -/
theorem preview_mirrored_iff {hw : Hardware σ π} {running : σ → Prop}
    (laws : PreviewLaws hw running) {dev dev' : Device σ} {ops : List (Op π)}
    {states : List (Device σ)} (hdev : Mirrors hw running dev)
    (hrun : exec (observe (fun _ _ d => [d]) (step hw)) (dev, []) ops = some (dev', states)) :
    (∀ d ∈ states, Mirrors hw running d) ↔
      exec (restrict (previewStays hw) (step hw)) dev ops = some dev' := by
  have hstep : ∀ (d : Device σ) (op : Op π) d', Mirrors hw running d → step hw d op = some d' →
      ((∀ o ∈ [d'], Mirrors hw running o) ↔ previewStays hw d op) := by
    intro d op d' hd hs
    cases hs
    rw [List.forall_mem_singleton]
    exact hd.runOp_iff laws op
  have hkeep : ∀ (d : Device σ) (op : Op π) d', Mirrors hw running d → previewStays hw d op →
      step hw d op = some d' → Mirrors hw running d' := by
    intro d op d' hd hok hs
    cases hs
    exact (hd.runOp_iff laws op).mpr hok
  rw [observe_forall_iff_of_inv hstep hkeep hdev hrun]
  exact and_iff_right nofun

/-- Hardware on which everything succeeds and nothing happens. -/
def quietHardware (σ : Type) : Hardware σ Unit where
  startPreview s := (0, s)
  stopPreview s := s
  previewEnabled s := (false, s)
  startRecording s := (0, s)
  stopRecording s := s
  recordingEnabled s := (false, s)
  autoFocus s := (0, s)
  cancelAutoFocus s := (0, s)
  takePicture s := (0, s)
  cancelPicture s := (0, s)
  setParameters _ s := (0, s)
  getParameters _ := ()
  sendCommand _ _ _ s := (0, s)
  release s := s
  enableMsgType _ s := s
  disableMsgType _ s := s
  msgTypeEnabled _ s := (false, s)

/-- Hardware whose preview always starts; its state is whether the preview is running. -/
def willingHardware : Hardware Bool Unit :=
  { quietHardware Bool with
    startPreview := fun _ => (0, true)
    stopPreview := fun _ => false
    previewEnabled := fun s => (s, s)
    release := fun _ => false }

theorem willingHardware_laws : PreviewLaws willingHardware (· = true) where
  started _ _ := rfl
  notStarted _ h := absurd rfl h
  stopPreview _ := Bool.false_ne_true
  release _ := Bool.false_ne_true
  previewEnabled _ := .rfl
  startRecording _ := .rfl
  stopRecording _ := .rfl
  recordingEnabled _ := .rfl
  autoFocus _ := .rfl
  cancelAutoFocus _ := .rfl
  takePicture _ := .rfl
  cancelPicture _ := .rfl
  setParameters _ _ := .rfl
  sendCommand _ _ _ _ := .rfl
  enableMsgType _ _ := .rfl
  disableMsgType _ _ := .rfl
  msgTypeEnabled _ _ := .rfl

/-- A recording during the preview, and a picture after it. -/
theorem preview_mirrored_recording :
    exec (observe (fun _ _ d => [d]) (step willingHardware)) (⟨0, false⟩, [])
        [.startPreview, .startRecording, .stopRecording, .takePicture] =
      some (⟨0, false⟩, [⟨1, true⟩, ⟨1, true⟩, ⟨1, true⟩, ⟨0, false⟩]) ∧
    ∀ d ∈ [⟨1, true⟩, ⟨1, true⟩, ⟨1, true⟩, ⟨0, false⟩],
      Mirrors willingHardware (· = true) d := by
  have hnew : Mirrors willingHardware (· = true) ⟨0, false⟩ :=
    mirrors_stopped Bool.false_ne_true
  refine ⟨rfl, ?_⟩
  have hrun : exec (observe (fun _ _ d => [d]) (step willingHardware)) (⟨0, false⟩, [])
      [.startPreview, .startRecording, .stopRecording, .takePicture] =
      some (⟨0, false⟩, [⟨1, true⟩, ⟨1, true⟩, ⟨1, true⟩, ⟨0, false⟩]) := rfl
  exact (preview_mirrored_iff willingHardware_laws hnew hrun).mpr rfl

/-- Stopping a recording on a newly opened camera starts the preview, and the flag stays 0. -/
theorem stopRecording_unmirrors :
    ¬ ∀ (σ π : Type) (hw : Hardware σ π) (running : σ → Prop) (dev dev' : Device σ)
      (ops : List (Op π)) (states : List (Device σ)),
      PreviewLaws hw running → Mirrors hw running dev →
      exec (observe (fun _ _ d => [d]) (step hw)) (dev, []) ops = some (dev', states) →
      ∀ d ∈ states, Mirrors hw running d := by
  intro hall
  have hbad := hall Bool Unit willingHardware (· = true) ⟨0, false⟩ ⟨0, true⟩ [.stopRecording]
    [⟨0, true⟩] willingHardware_laws (mirrors_stopped Bool.false_ne_true) rfl ⟨0, true⟩
    List.mem_cons_self
  exact hbad.mpr rfl rfl

end Ancora.Camera
