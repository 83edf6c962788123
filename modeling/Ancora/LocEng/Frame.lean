import Ancora.Lib.History
import Ancora.LocEng.Engine

/-!
# Frames of the shared record

An invariant of the engine speaks about a few fields of `LocEngData` and a few
kinds of effects in its log; every function that touches neither keeps it.
`Frame view kept silent d d'` is that relation, for the fields `view`, a
condition `kept` that may only become true, and the effects `silent` that the
invariant does not look at. It is closed under composition and branching, so
the frame of a function follows the shape of its definition.
-/

namespace Ancora.LocEng

variable {α β : Type} {view : LocEngData α → β} {kept : LocEngData α → Prop}
  {silent : Effect α → Bool}

/-- `d'` differs from `d` only outside `view`, and its log has only silent
effects more. -/
structure Frame (view : LocEngData α → β) (kept : LocEngData α → Prop)
    (silent : Effect α → Bool) (d d' : LocEngData α) : Prop where
  view_eq : view d' = view d
  kept_of : kept d → kept d'
  log_eq : ∃ es : List (Effect α), d'.log = d.log ++ es ∧ ∀ e ∈ es, silent e = true

namespace Frame

theorem refl (d : LocEngData α) : Frame view kept silent d d :=
  ⟨rfl, id, [], (List.append_nil _).symm, by simp⟩

theorem trans {d d' d'' : LocEngData α} (h : Frame view kept silent d d')
    (h' : Frame view kept silent d' d'') : Frame view kept silent d d'' := by
  obtain ⟨es, hlog, hes⟩ := h.log_eq
  obtain ⟨es', hlog', hes'⟩ := h'.log_eq
  refine ⟨h'.view_eq.trans h.view_eq, h'.kept_of ∘ h.kept_of, es ++ es', ?_, ?_⟩
  · rw [hlog', hlog, List.append_assoc]
  · intro e he
    rcases List.mem_append.mp he with he | he
    · exact hes e he
    · exact hes' e he

/-- A step that appends silent effects. -/
theorem of_log {d d' : LocEngData α} (es : List (Effect α)) (hes : ∀ e ∈ es, silent e = true)
    (hlog : d'.log = d.log ++ es) (hview : view d' = view d) (hkept : kept d → kept d') :
    Frame view kept silent d d' :=
  ⟨hview, hkept, es, hlog, hes⟩

/-- A step that appends nothing. -/
theorem of_fields {d d' : LocEngData α} (hlog : d'.log = d.log) (hview : view d' = view d)
    (hkept : kept d → kept d') : Frame view kept silent d d' :=
  of_log [] (by simp) (by rw [hlog, List.append_nil]) hview hkept

/-- A step that appends one silent effect. -/
theorem emit (d : LocEngData α) {e : Effect α} (he : silent e = true)
    (hview : view (d.emit e) = view d) (hkept : kept d → kept (d.emit e)) :
    Frame view kept silent d (d.emit e) :=
  of_log [e] (by simpa using he) rfl hview hkept

/-- A conditional step frames if both of its branches do. -/
theorem ite {c : Prop} [Decidable c] {d x y : LocEngData α}
    (hx : Frame view kept silent d x) (hy : Frame view kept silent d y) :
    Frame view kept silent d (if c then x else y) := by
  by_cases h : c
  · rw [if_pos h]
    exact hx
  · rw [if_neg h]
    exact hy

/-- A reading of the log that ignores silent effects is the same after a frame. -/
theorem filterMap_eq {γ : Type} {f : Effect α → Option γ}
    (hf : ∀ e, silent e = true → f e = none) {d d' : LocEngData α}
    (h : Frame view kept silent d d') : d'.log.filterMap f = d.log.filterMap f := by
  obtain ⟨es, hlog, hes⟩ := h.log_eq
  have hnil : es.filterMap f = [] := List.filterMap_eq_nil_iff.mpr fun e he => hf e (hes e he)
  rw [hlog, List.filterMap_append, hnil, List.append_nil]

/-- A fold over the log that silent effects leave alone is the same after a
frame. -/
theorem foldl_eq {γ : Type} {f : γ → Effect α → γ} {g : γ}
    (hf : ∀ x e, silent e = true → f x e = x) {d d' : LocEngData α}
    (h : Frame view kept silent d d') : d'.log.foldl f g = d.log.foldl f g := by
  obtain ⟨es, hlog, hes⟩ := h.log_eq
  rw [hlog, List.foldl_append, History.foldl_fixed_of_mem fun e he => hf _ e (hes e he)]

end Frame

/-! ## Quiet functions

Most of the engine only moves status, XTRA, aiding and data-connection fields
and makes callbacks. `quiet` blanks all of that out, so that one frame lemma per
function serves every invariant about what is left: the event slot, the stop
flags, the client and the lifecycle. -/

/-- The record with everything blanked that the quiet functions write. -/
def quiet (d : LocEngData α) : LocEngData α :=
  { d with
    agpsStatusCb := false
    downloadRequestCb := false
    xtraRequestPending := false
    xtraDataForInjection := none
    navigating := false
    dataConnectionIsOn := false
    apnName := []
    engineStatus := .none
    fixSessionStatus := .none
    aidingDataForDeletion := 0
    deferredActionFlags :=
      { DeferredFlags.zero with
        event := d.deferredActionFlags.event, quit := d.deferredActionFlags.quit }
    deferredActionCond := .idle
    muteSessionState := .none
    lastStatus := .none
    wakeLock := false
    log := [] }

/-- The effects of quiet functions: callbacks, ioctls and the direct stop. -/
def Effect.quiet : Effect α → Bool
  | .init => false
  | .accept _ _ => false
  | .process _ _ => false
  | .startFix _ => false
  | .deferredStopFix _ => false
  | .stopDeferred => false
  | .agpsRequestDone => false
  | _ => true

/-- A step of a quiet function. -/
abbrev QuietFrame (d d' : LocEngData α) : Prop :=
  Frame LocEng.quiet (fun _ => True) Effect.quiet d d'

/-- A quiet step frames every view that can be read off the quiet part. -/
theorem QuietFrame.frame {d d' : LocEngData α} (h : QuietFrame d d')
    (hview : ∀ d, view (LocEng.quiet d) = view d) (hkept : ∀ d, kept (LocEng.quiet d) = kept d)
    (hsilent : ∀ e : Effect α, e.quiet = true → silent e = true) :
    Frame view kept silent d d' := by
  obtain ⟨es, hlog, hes⟩ := h.log_eq
  refine ⟨?_, ?_, es, hlog, fun e he => hsilent e (hes e he)⟩
  · rw [← hview d', h.view_eq, hview d]
  · rw [← hkept d', h.view_eq, hkept d]
    exact id

/-- A status callback is a quiet effect. -/
theorem Effect.quiet_of_isStatusCb {e : Effect α} (h : e.isStatusCb = true) :
    e.quiet = true := by
  cases e <;> simp_all [Effect.isStatusCb, Effect.quiet]

/-- Reporting a changed status only calls back. -/
theorem reportChangedStatus_quietFrame (r : StatusReport) (d : LocEngData α) :
    QuietFrame d (reportChangedStatus r d) := by
  obtain ⟨engine, fix, last, es, hes, heq⟩ := reportChangedStatus_footprint r d
  rw [heq]
  exact .of_log es (fun e he => Effect.quiet_of_isStatusCb (hes e he)) rfl rfl id

/-- So does stopping at once, but for its ioctl. -/
theorem stopNow_quietFrame (rc : Int) (d : LocEngData α) : QuietFrame d (stopNow rc d) := by
  obtain ⟨nav, fix, last, es, hes, heq⟩ := stopNow_footprint rc d
  rw [heq]
  refine .of_log (.stopFix rc :: es) ?_ rfl rfl id
  intro e he
  rcases List.mem_cons.mp he with rfl | he
  · rfl
  · exact Effect.quiet_of_isStatusCb (hes e he)

/-- Deleting aiding data only collects the flags. -/
theorem locEngDeleteAidingData_quietFrame (f : BitVec 16) (d : LocEngData α) :
    QuietFrame d (locEngDeleteAidingData f d) := by
  have hset : QuietFrame d
      (if f ≠ 0 then { d with aidingDataForDeletion := gpsDeleteAll } else d) :=
    .ite (.of_fields rfl rfl id) (.refl _)
  exact .ite (.refl _) (hset.trans (.ite (.of_fields rfl rfl id) (.refl _)))

/-- A result of the data connection is only noted. -/
theorem locEngDataConn_quietFrame (r : ConnResult) (d : LocEngData α) :
    QuietFrame d (locEngDataConn r d) := by
  refine .ite (.refl _) ?_
  cases r with
  | opened apn => cases apn <;> exact .of_fields rfl rfl id
  | closed => exact .of_fields rfl rfl id
  | failed => exact .of_fields rfl rfl id

/-- Storing the data for an upload touches nothing else. -/
theorem xtraStore_quietFrame (buf : Option (List (BitVec 8))) (d : LocEngData α) :
    QuietFrame d (xtraStore buf d) := by
  cases buf with
  | none => exact .refl _
  | some data => exact .of_fields rfl rfl id

theorem xtraSignal_quietFrame (d : LocEngData α) : QuietFrame d (xtraSignal d) :=
  .ite (.of_fields rfl rfl id) (.refl _)

/-- The pieces of the deferred thread that are quiet: all but the hand-over of an
event, a server request and the deferred stop. -/
def Micro.isQuiet : Micro α → Bool
  | .processLocEvent _ _ => false
  | .processConnRequest _ => false
  | .handleDeferredStop => false
  | _ => true

/-- **Spec lemma**: the quiet pieces of the thread. -/
theorem Micro.run_quietFrame (rc : Int) (mute : Bool) (d : LocEngData α) :
    ∀ m : Micro α, m.isQuiet = true → QuietFrame d (m.run rc mute d)
  | .reportPosition _, _ => .ite (.emit d rfl rfl id) (.refl d)
  | .reportSv _, _ => .ite (.emit d rfl rfl id) (.refl d)
  | .reportChangedStatus r, _ => reportChangedStatus_quietFrame r d
  | .reportStatusMute, _ =>
    .ite (.ite (.of_fields rfl rfl id) (.refl d))
      (.ite (.ite (.of_fields rfl rfl id) (.refl d)) (.refl d))
  | .reportStatusWake, _ => .ite (.of_fields rfl rfl id) (.refl d)
  | .reportNmea _, _ => .ite (.emit d rfl rfl id) (.refl d)
  | .assistData isRequest r, _ => by
    have hreq : QuietFrame d
        (if isRequest ∧ r = .predictedOrbitsReq then { d with xtraRequestPending := true } else d) :=
      .ite (.of_fields rfl rfl id) (.refl d)
    refine hreq.trans (.ite ?_ (.refl _))
    exact .of_log [.downloadRequestCb] (by simp [Effect.quiet]) rfl rfl id
  | .niCallback m p, _ => by
    refine (Frame.emit d (e := .niCallback m p) rfl rfl id).trans (.ite (.ite (.refl _) ?_) (.refl _))
    exact .of_fields rfl rfl id
  | .deleteAidingDataAction, _ =>
    .of_log [.deleteAssistData _] (by simp [Effect.quiet]) rfl rfl id
  | .clearAidingData, _ => .of_fields rfl rfl id
  | .injectXtraDataInBuffer, _ => by
    refine .ite ?_ (.refl d)
    cases d.xtraDataForInjection with
    | none => exact .refl d
    | some data => exact .of_log [.injectXtra data] (by simp [Effect.quiet]) rfl rfl id
  | .ioctlDataStatus _, _ =>
    .ite (.emit d rfl rfl id) (.ite (.emit d rfl rfl id)
      (.ite (.ite (.emit d rfl rfl id) (.emit d rfl rfl id)) (.refl d)))
  | .setDataConnection _, _ =>
    .ite (.of_fields rfl rfl id) (.ite (.refl d) (.ite (.of_fields rfl rfl id) (.refl d)))
  | .processAtlAction _, _ => .ite (.emit d rfl rfl id) (.refl d)

end Ancora.LocEng
