import Ancora.LocEng.Deferred
import Ancora.LocEng.Frame

/-!
# The pieces of a pass

What every invariant of the deferred thread needs to know about the pieces of
its loop body, said once.

- `Micro.place`: the pieces of a pass run in a fixed order, each at most once
  (`iteration_sorted`). A thread that runs is somewhere in such a pass
  (`InPass`), so what is still ahead of a piece is exactly what comes later in
  the whole pass (`mem_ahead_iff`).
- `Micro.emits`: which effects a piece can have; `Effect.ofCall`: which effects
  the calls of other threads have.
- `RaisesOrKeeps`: how any step but those of the thread's own wait treats the
  flags, the condition and the wake lock.
- `CallFrame`: starting, stopping and closing touch none of what the deferred
  thread works on.
- `Micro.untouched`: what a piece does not write; `PieceFrame`: what only the
  pieces write.
-/

namespace Ancora.LocEng

variable {α : Type} {s s' : EngState α} {a : EngAct α}

/-! ## The order of a pass -/

/-- The place of a piece in the loop body (loc_eng.cpp:1391-1450, 2182-2246). -/
def Micro.place : Micro α → Nat
  | .processLocEvent _ _ => 0
  | .reportPosition _ => 1
  | .reportSv _ => 2
  | .reportChangedStatus _ => 3
  | .reportStatusMute => 4
  | .reportStatusWake => 5
  | .reportNmea _ => 6
  | .assistData _ _ => 7
  | .processConnRequest _ => 8
  | .niCallback _ _ => 9
  | .deleteAidingDataAction => 10
  | .clearAidingData => 11
  | .injectXtraDataInBuffer => 12
  | .ioctlDataStatus _ => 13
  | .setDataConnection _ => 14
  | .handleDeferredStop => 15
  | .processAtlAction _ => 16

theorem ite_sublist {β : Type} (c : Prop) [Decidable c] (xs : List β) :
    (if c then xs else []).Sublist xs := by
  by_cases h : c
  · rw [if_pos h]
  · rw [if_neg h]
    exact List.nil_sublist xs

/-- The pieces of a pass stand in the order of the loop body, each at most once. -/
theorem iteration_sorted (l : Locals α) :
    (iteration l).Pairwise fun m m' => m.place < m'.place := by
  -- leave no condition out: the pass is a part of the list of all pieces
  have hevent (m : EventMask) (p : EventPayload α) : (locEngProcessLocEvent m p).Sublist
      [.processLocEvent m p, .reportPosition p, .reportSv p, .reportChangedStatus p.statusReport,
        .reportStatusMute, .reportStatusWake, .reportNmea p,
        .assistData (m.has assistanceDataRequest) p.assistDataRequest,
        .processConnRequest p.locServerRequest, .niCallback m p] := by
    have h := (((((((List.Sublist.refl [Micro.processLocEvent m p]).append
      (ite_sublist (m.has parsedPositionReport = true) [.reportPosition p])).append
      (ite_sublist (m.has satelliteReport = true) [.reportSv p])).append
      (ite_sublist (m.has eventStatusReport = true)
        [.reportChangedStatus p.statusReport, .reportStatusMute, .reportStatusWake])).append
      (ite_sublist (m.has nmea1HzReport = true) [.reportNmea p])).append
      (.refl [.assistData (m.has assistanceDataRequest) p.assistDataRequest])).append
      (ite_sublist (m.has locationServerRequest = true)
        [.processConnRequest p.locServerRequest])).append (.refl [.niCallback m p])
    exact h
  have hall := ((((ite_sublist (l.locEvent ≠ 0) _).trans
    (hevent l.locEvent l.locEventPayload)).append
    (ite_sublist (l.engineStatus ≠ .engineOn ∧ l.aidingDataForDeletion ≠ 0)
      [.deleteAidingDataAction, .clearAidingData])).append (.refl [.injectXtraDataInBuffer])).append
    (ite_sublist (l.flags.anyAgpsData = true)
      [.ioctlDataStatus l.flags, .setDataConnection l.flags, .handleDeferredStop])
  -- which has the places from 0 on
  unfold iteration
  cases l.status with
  | some status =>
    refine List.Pairwise.sublist (hall.append (.refl [Micro.processAtlAction status])) ?_
    exact List.pairwise_map.mp (List.pairwise_lt_range (n := 17))
  | none =>
    refine List.Pairwise.sublist (hall.append (.refl [])) ?_
    exact List.pairwise_map.mp (List.pairwise_lt_range (n := 16))

/-- In a list sorted by `f`, what lies ahead of an element is what is greater. -/
theorem mem_ahead_iff {β : Type} {f : β → Nat} {xs rest : List β} {x y : β}
    (hxs : xs.Pairwise fun x y => f x < f y) (h : x :: rest <:+ xs) :
    y ∈ rest ↔ y ∈ xs ∧ f x < f y := by
  obtain ⟨pre, rfl⟩ := h
  obtain ⟨-, hrest, hpre⟩ := List.pairwise_append.mp hxs
  have hx := (List.pairwise_cons.mp hrest).1
  constructor
  · intro hy
    exact ⟨List.mem_append_right _ (List.mem_cons_of_mem _ hy), hx y hy⟩
  · rintro ⟨hy, hlt⟩
    rcases List.mem_append.mp hy with hy | hy
    · have := hpre y hy x List.mem_cons_self
      omega
    · rcases List.mem_cons.mp hy with rfl | hy
      · omega
      · exact hy

/-- The thread still has a piece of a kind to run. -/
def ThreadPc.ahead (p : Micro α → Bool) : ThreadPc α → Bool
  | .running todo => todo.any p
  | .top => false
  | .waiting => false
  | .done => false

theorem ThreadPc.ahead_cons (p : Micro α → Bool) (m : Micro α) (todo : List (Micro α)) :
    (ThreadPc.running (m :: todo)).ahead p = (p m || (ThreadPc.running todo).ahead p) :=
  List.any_cons

/-- A thread that runs is somewhere in a pass. -/
def InPass (s : EngState α) : Prop :=
  ∀ todo, s.thread = .running todo → ∃ l : Locals α, todo <:+ iteration l

/-- Every step keeps the thread in its pass. -/
theorem InPass.step (h : EngStep s a s') (hi : InPass s) : InPass s' := by
  have hcopy (d : LocEngData α) : InPass (quitOrCopy s d) := by
    unfold quitOrCopy
    by_cases hq : d.deferredActionFlags.quit = true
    · rw [if_pos hq]
      exact nofun
    · rw [if_neg hq]
      rintro todo ⟨⟩
      exact ⟨_, List.suffix_refl _⟩
  cases h with
  | topWait _ _ => exact nofun
  | topCopy _ _ => exact hcopy _
  | wake _ => exact hcopy _
  | micro rc mute ht _ =>
    rintro todo ⟨⟩
    obtain ⟨l, hl⟩ := hi _ ht
    exact ⟨l, (List.suffix_cons _ _).trans hl⟩
  | loop _ => exact nofun
  | _ => exact hi

/-- What is ahead of the piece the thread is at. -/
theorem InPass.ahead (hi : InPass s) {m : Micro α} {todo : List (Micro α)}
    (ht : s.thread = .running (m :: todo)) :
    ∃ l : Locals α, m ∈ iteration l ∧
      ∀ m', m' ∈ todo ↔ m' ∈ iteration l ∧ m.place < m'.place := by
  obtain ⟨l, hl⟩ := hi _ ht
  exact ⟨l, hl.subset List.mem_cons_self, fun m' => mem_ahead_iff (iteration_sorted l) hl⟩

/-- The pieces of `loc_eng_process_loc_event`, each with its condition. -/
theorem mem_locEngProcessLocEvent_iff {x : Micro α} {m : EventMask} {p : EventPayload α} :
    x ∈ locEngProcessLocEvent m p ↔
      x = .processLocEvent m p ∨ (m.has parsedPositionReport = true ∧ x = .reportPosition p) ∨
      (m.has satelliteReport = true ∧ x = .reportSv p) ∨
      (m.has eventStatusReport = true ∧ (x = .reportChangedStatus p.statusReport ∨
        x = .reportStatusMute ∨ x = .reportStatusWake)) ∨
      (m.has nmea1HzReport = true ∧ x = .reportNmea p) ∨
      x = .assistData (m.has assistanceDataRequest) p.assistDataRequest ∨
      (m.has locationServerRequest = true ∧ x = .processConnRequest p.locServerRequest) ∨
      x = .niCallback m p := by
  simp only [locEngProcessLocEvent, List.mem_append, List.mem_ite_nil_right, List.mem_cons,
    List.not_mem_nil, or_false, or_assoc]

/-- The pieces of a pass, each with its condition. -/
theorem mem_iteration_iff {x : Micro α} {l : Locals α} :
    x ∈ iteration l ↔
      (l.locEvent ≠ 0 ∧ x ∈ locEngProcessLocEvent l.locEvent l.locEventPayload) ∨
      ((l.engineStatus ≠ .engineOn ∧ l.aidingDataForDeletion ≠ 0) ∧
        (x = .deleteAidingDataAction ∨ x = .clearAidingData)) ∨
      x = .injectXtraDataInBuffer ∨
      (l.flags.anyAgpsData = true ∧ (x = .ioctlDataStatus l.flags ∨
        x = .setDataConnection l.flags ∨ x = .handleDeferredStop)) ∨
      ∃ status, l.status = some status ∧ x = .processAtlAction status := by
  simp only [iteration, List.mem_append, List.mem_ite_nil_right, List.mem_cons,
    List.not_mem_nil, or_false, or_assoc]
  refine or_congr_right (or_congr_right (or_congr_right (or_congr_right ?_)))
  cases l.status <;> simp

/-! ## Effects -/

/-- The effects a piece can have. -/
def Micro.emits : Micro α → Effect α → Bool
  | .processLocEvent _ _, .process _ _ => true
  | .reportPosition _, .reportPosition _ => true
  | .reportSv _, .reportSv _ => true
  | .reportChangedStatus _, .statusCb _ => true
  | .reportNmea _, .reportNmea _ => true
  | .assistData _ _, .downloadRequestCb => true
  | .niCallback _ _, .niCallback _ _ => true
  | .deleteAidingDataAction, .deleteAssistData _ => true
  | .injectXtraDataInBuffer, .injectXtra _ => true
  | .ioctlDataStatus _, .openStatus _ _ _ => true
  | .ioctlDataStatus _, .closeStatus _ _ => true
  | .handleDeferredStop, .agpsRequestDone => true
  | .handleDeferredStop, .deferredStopFix _ => true
  | .processAtlAction _, .agpsStatusCb _ => true
  | _, _ => false

/-- The effects of the calls that other threads make. -/
def Effect.ofCall : Effect α → Bool
  | .accept _ _ => true
  | .startFix _ => true
  | .stopFix _ => true
  | .stopDeferred => true
  | .statusCb _ => true
  | .locClose _ => true
  | _ => false

/-- The log has only effects of one kind more. -/
abbrev LogFrame (kind : Effect α → Bool) (d d' : LocEngData α) : Prop :=
  Frame (fun _ => ()) (fun _ => True) kind d d'

/-- A piece logs only the effects that are its own. -/
theorem Micro.run_log (rc : Int) (mute : Bool) (d : LocEngData α) :
    ∀ m : Micro α, LogFrame m.emits d (m.run rc mute d)
  | .processLocEvent _ _ => .emit d rfl rfl id
  | .reportPosition _ => .ite (.emit d rfl rfl id) (.refl d)
  | .reportSv _ => .ite (.emit d rfl rfl id) (.refl d)
  | .reportChangedStatus r => by
    obtain ⟨engine, fix, last, es, hes, heq⟩ := reportChangedStatus_footprint r d
    show LogFrame _ d (LocEng.reportChangedStatus r d)
    rw [heq]
    refine .of_log es (fun e he => ?_) rfl rfl id
    have := hes e he
    cases e <;> first | rfl | simp [Effect.isStatusCb] at this
  | .reportStatusMute =>
    .ite (.ite (.of_fields rfl rfl id) (.refl d))
      (.ite (.ite (.of_fields rfl rfl id) (.refl d)) (.refl d))
  | .reportStatusWake => .ite (.of_fields rfl rfl id) (.refl d)
  | .reportNmea _ => .ite (.emit d rfl rfl id) (.refl d)
  | .assistData isRequest r => by
    have hreq : LogFrame (Micro.assistData isRequest r).emits d
        (if isRequest ∧ r = .predictedOrbitsReq then { d with xtraRequestPending := true } else d) :=
      .ite (.of_fields rfl rfl id) (.refl d)
    refine hreq.trans (.ite ?_ (.refl _))
    exact .of_log [.downloadRequestCb] (by simp [Micro.emits]) rfl rfl id
  | .processConnRequest r => by
    show LogFrame _ d (locEngProcessConnRequest r d)
    unfold locEngProcessConnRequest
    by_cases h : r.event = .open
    · rw [if_pos h]
      exact .of_fields rfl rfl id
    · rw [if_neg h]
      exact .of_fields rfl rfl id
  | .niCallback m p => by
    have hcall : LogFrame (Micro.niCallback m p).emits d (d.emit (.niCallback m p)) :=
      .emit d rfl rfl id
    exact hcall.trans (.ite (.ite (.refl _) (.of_fields rfl rfl id)) (.refl _))
  | .deleteAidingDataAction =>
    .of_log [.deleteAssistData _] (by simp [Micro.emits]) rfl rfl id
  | .clearAidingData => .of_fields rfl rfl id
  | .injectXtraDataInBuffer => by
    refine .ite ?_ (.refl d)
    cases d.xtraDataForInjection with
    | none => exact .refl d
    | some data => exact .of_log [.injectXtra data] (by simp [Micro.emits]) rfl rfl id
  | .ioctlDataStatus _ =>
    .ite (.emit d rfl rfl id) (.ite (.emit d rfl rfl id)
      (.ite (.ite (.emit d rfl rfl id) (.emit d rfl rfl id)) (.refl d)))
  | .setDataConnection _ =>
    .ite (.of_fields rfl rfl id) (.ite (.refl d) (.ite (.of_fields rfl rfl id) (.refl d)))
  | .handleDeferredStop => by
    have hdone : LogFrame (Micro.handleDeferredStop (α := α)).emits d
        ({ d with agpsRequestPending := false }.emit .agpsRequestDone) :=
      .of_log [.agpsRequestDone] (by simp [Micro.emits]) rfl rfl id
    exact .ite (hdone.trans (.emit _ rfl rfl id)) hdone
  | .processAtlAction _ => .ite (.emit d rfl rfl id) (.refl d)

/-- The effects of a step. -/
def newEffects (s s' : EngState α) : List (Effect α) := s'.data.log.drop s.data.log.length

/-- What has been appended to the log is what a step has done. -/
theorem newEffects_eq {es : List (Effect α)} (h : s'.data.log = s.data.log ++ es) :
    newEffects s s' = es := by
  rw [newEffects, h, List.drop_left]

/-! ## Starting, stopping and closing -/

/-- The record with everything blanked that starting, stopping and closing
write. -/
def offSession (d : LocEngData α) : LocEngData α :=
  { d with
    clientOpened := false
    stopRequestPending := false
    navigating := false
    fixSessionStatus := .none
    locEngInited := false
    lastStatus := .none
    log := [] }

/-- A step that touches none of what the deferred thread works on. -/
abbrev CallFrame (d d' : LocEngData α) : Prop :=
  Frame offSession (fun _ => True) Effect.ofCall d d'

/-- The calls that start, stop and close a session. -/
def EngAct.isSession : EngAct α → Bool
  | .start _ | .stopCheck | .stopDefer | .stopNow _ | .deinit _ => true
  | _ => false

/-- A stop that is made at once touches none of what the thread works on. -/
theorem stopNow_callFrame (rc : Int) (d : LocEngData α) : CallFrame d (stopNow rc d) := by
  obtain ⟨nav, fix, last, es, hes, heq⟩ := stopNow_footprint rc d
  rw [heq]
  refine .of_log (.stopFix rc :: es) ?_ rfl rfl id
  intro e he
  rcases List.mem_cons.mp he with rfl | he
  · rfl
  · have := hes e he
    cases e <;> first | rfl | simp [Effect.isStatusCb] at this

/-- Neither does a stop that is put off. -/
theorem deferStop_callFrame (d : LocEngData α) : CallFrame d (deferStop d) :=
  .of_log [.stopDeferred] (by simp [Effect.ofCall]) rfl rfl id

/-- Neither does the end of the session. -/
theorem locEngDeinit_callFrame (rc : Int) (d : LocEngData α) :
    CallFrame d (locEngDeinit rc d) := by
  have hstop : CallFrame d (locEngStop rc d) :=
    .ite (.refl d) (.ite (deferStop_callFrame d) (stopNow_callFrame rc d))
  have hnav : CallFrame d
      (if d.navigating then { locEngStop rc d with navigating := false } else d) :=
    .ite (hstop.trans (.of_fields rfl rfl id)) (.refl d)
  refine .ite ?_ (.refl d)
  generalize (if d.navigating then { locEngStop rc d with navigating := false } else d) = e at hnav
  have hclose : CallFrame e (if e.clientOpened then
      { e.emit (.locClose e.clientHandle) with clientOpened := false } else e) :=
    .ite ((Frame.emit e rfl rfl id).trans (.of_fields rfl rfl id)) (.refl e)
  exact hnav.trans (hclose.trans (.of_fields rfl rfl id))

/-- The calls of a session leave the thread's data alone. -/
theorem EngStep.callFrame (h : EngStep s a s') (ha : a.isSession = true) :
    CallFrame s.data s'.data := by
  cases h with
  | start rc =>
    have hrpc : CallFrame s.data (s.data.emit (.startFix rc)) := .emit _ rfl rfl id
    exact .ite (.refl _) (.ite hrpc (hrpc.trans (.of_fields rfl rfl id)))
  | stopUninit _ _ => exact .refl _
  | stopPending _ _ => exact .refl _
  | stopDirect _ _ => exact .refl _
  | stopDefer _ => exact deferStop_callFrame _
  | stopNow rc _ => exact stopNow_callFrame rc _
  | deinit rc _ => exact locEngDeinit_callFrame rc _
  | _ => cases ha

/-- The engine status, the mute state and the connection handle are as before, and
the log has only effects of calls more. -/
abbrev PieceFrame (d d' : LocEngData α) : Prop :=
  Frame (fun d => (d.engineStatus, d.muteSessionState, d.connHandle)) (fun _ => True)
    Effect.ofCall d d'

/-- Those three are written by the pieces only, and so are the effects that are
not those of calls. -/
theorem EngStep.pieceFrame (h : EngStep s a s') (ha : ∀ rc mute, a ≠ .micro rc mute) :
    PieceFrame s.data s'.data := by
  have hquit {d : LocEngData α} (hd : PieceFrame s.data d) :
      PieceFrame s.data (quitOrCopy s d).data := by
    unfold quitOrCopy
    split <;> exact hd.trans (.of_fields rfl rfl id)
  by_cases hs : a.isSession = true
  · have hf := h.callFrame hs
    have hview := congrArg
      (fun d : LocEngData α => (d.engineStatus, d.muteSessionState, d.connHandle)) hf.view_eq
    exact ⟨hview, id, hf.log_eq⟩
  cases h with
  | locEventCb c m p =>
    refine .ite ?_ (.refl _)
    exact .of_log [.accept m p] (by simp [Effect.ofCall]) rfl rfl id
  | deleteAidingData f =>
    have hset : PieceFrame s.data
        (if f ≠ 0 then { s.data with aidingDataForDeletion := gpsDeleteAll } else s.data) :=
      .ite (.of_fields rfl rfl id) (.refl _)
    exact .ite (.refl _) (hset.trans (.ite (.of_fields rfl rfl id) (.refl _)))
  | dataConn r =>
    refine .ite (.refl _) ?_
    cases r with
    | opened apn => cases apn <;> exact .of_fields rfl rfl id
    | closed => exact .of_fields rfl rfl id
    | failed => exact .of_fields rfl rfl id
  | xtraStore buf => cases buf <;> exact .of_fields rfl rfl id
  | xtraSignal _ => exact .ite (.of_fields rfl rfl id) (.refl _)
  | topCopy _ _ => exact hquit (.refl _)
  | wake _ => exact hquit (.of_fields rfl rfl id)
  | micro rc mute _ _ => exact absurd rfl (ha rc mute)
  | agpsInit | xtraInit | quit | topWait | loop => exact .of_fields rfl rfl id
  | _ => exact absurd rfl hs

/-- An observer that no call shows anything to. -/
theorem EngStep.filterMap_newEffects {β : Type} {g : Effect α → Option β} (h : EngStep s a s')
    (ha : ∀ rc mute, a ≠ .micro rc mute) (hg : ∀ e : Effect α, e.ofCall = true → g e = none) :
    (newEffects s s').filterMap g = [] := by
  obtain ⟨es, hlog, hes⟩ := (h.pieceFrame ha).log_eq
  rw [newEffects_eq hlog]
  exact List.filterMap_eq_nil_iff.mpr fun e he => hg e (hes e he)

/-- An observer that a piece shows nothing to. -/
theorem filterMap_newEffects_micro {β : Type} {g : Effect α → Option β} {rc : Int} {mute : Bool}
    {m : Micro α} {t : ThreadPc α} (hg : ∀ e : Effect α, m.emits e = true → g e = none) :
    (newEffects s { s with data := m.run rc mute s.data, thread := t }).filterMap g = [] := by
  obtain ⟨es, hlog, hes⟩ := (m.run_log rc mute s.data).log_eq
  rw [newEffects_eq hlog]
  exact List.filterMap_eq_nil_iff.mpr fun e he => hg e (hes e he)

/-- Only a piece changes the status of the engine. -/
theorem EngStep.engineStatus_eq (h : EngStep s a s') (ha : ∀ rc mute, a ≠ .micro rc mute) :
    s'.data.engineStatus = s.data.engineStatus := congrArg Prod.fst (h.pieceFrame ha).view_eq

/-! ## Raising flags -/

/-- The flags, the condition and the wake lock are as before, or a flag is up, the
condition is signalled and the wake lock is held. -/
def RaisesOrKeeps (d d' : LocEngData α) : Prop :=
  (d'.deferredActionFlags = d.deferredActionFlags ∧
    d'.deferredActionCond = d.deferredActionCond ∧ d'.wakeLock = d.wakeLock) ∨
  (d'.deferredActionFlags ≠ .zero ∧ d'.deferredActionCond = d.deferredActionCond.signal ∧
    d'.wakeLock = true)

theorem RaisesOrKeeps.refl (d : LocEngData α) : RaisesOrKeeps d d := .inl ⟨rfl, rfl, rfl⟩

theorem RaisesOrKeeps.ite {c : Prop} [Decidable c] {d x y : LocEngData α}
    (hx : RaisesOrKeeps d x) (hy : RaisesOrKeeps d y) : RaisesOrKeeps d (if c then x else y) := by
  by_cases h : c
  · rw [if_pos h]
    exact hx
  · rw [if_neg h]
    exact hy

/-- Raising a flag signals the thread. -/
theorem raise_raises {set : DeferredFlags → DeferredFlags} (hset : ∀ f, set f ≠ .zero)
    {d e : LocEngData α} (he : e.deferredActionCond = d.deferredActionCond) :
    RaisesOrKeeps d (raise set e) :=
  .inr ⟨hset _, congrArg CondVar.signal he, rfl⟩

theorem ConnResult.setFlag_ne_zero (r : ConnResult) (f : DeferredFlags) : r.setFlag f ≠ .zero := by
  cases r <;> simp [ConnResult.setFlag, DeferredFlags.zero]

/-- A piece keeps the flags or raises one. -/
theorem Micro.run_raises (rc : Int) (mute : Bool) (d : LocEngData α) :
    ∀ m : Micro α, RaisesOrKeeps d (m.run rc mute d)
  | .processLocEvent _ _ => .refl d
  | .reportPosition _ => .ite (.refl d) (.refl d)
  | .reportSv _ => .ite (.refl d) (.refl d)
  | .reportChangedStatus r => by
    obtain ⟨engine, fix, last, es, -, heq⟩ := reportChangedStatus_footprint r d
    show RaisesOrKeeps d (LocEng.reportChangedStatus r d)
    rw [heq]
    exact .refl d
  | .reportStatusMute => .ite (.ite (.refl d) (.refl d)) (.ite (.ite (.refl d) (.refl d)) (.refl d))
  | .reportStatusWake =>
    .ite (raise_raises (by simp [DeferredFlags.zero]) rfl) (.refl d)
  | .reportNmea _ => .ite (.refl d) (.refl d)
  | .assistData isRequest r => by
    show RaisesOrKeeps d (LocEng.assistData isRequest r d)
    unfold LocEng.assistData
    split <;> exact .ite (.refl d) (.refl d)
  | .processConnRequest r => by
    refine raise_raises (by simp [DeferredFlags.zero]) ?_
    split <;> rfl
  | .niCallback _ _ => .ite (.ite (.refl d) (.refl d)) (.refl d)
  | .deleteAidingDataAction => .refl d
  | .clearAidingData => .refl d
  | .injectXtraDataInBuffer => by
    refine .ite ?_ (.refl d)
    cases d.xtraDataForInjection <;> exact .refl d
  | .ioctlDataStatus _ =>
    .ite (.refl d) (.ite (.refl d) (.ite (.ite (.refl d) (.refl d)) (.refl d)))
  | .setDataConnection _ => .ite (.refl d) (.ite (.refl d) (.ite (.refl d) (.refl d)))
  | .handleDeferredStop => .ite (.refl d) (.refl d)
  | .processAtlAction _ => .ite (.refl d) (.refl d)

/-- The steps that write the flags, the condition and the wake lock in another
way: those of the thread's own wait, and the signal of the XTRA proxy. -/
def EngAct.atWait : EngAct α → Bool
  | .xtraSignal | .top | .wake => true
  | _ => false

/-- The calls of other threads. -/
def EngAct.isCall : EngAct α → Bool
  | .top | .wake | .micro _ _ | .loop => false
  | _ => true

/-- Every step but those at the wait keeps the flags or raises one. -/
theorem EngStep.raises (h : EngStep s a s') (ha : a.atWait = false) :
    RaisesOrKeeps s.data s'.data := by
  by_cases hs : a.isSession = true
  · have hview := (h.callFrame hs).view_eq
    exact .inl ⟨congrArg (·.deferredActionFlags) hview, congrArg (·.deferredActionCond) hview,
      congrArg (·.wakeLock) hview⟩
  cases h with
  | locEventCb c m p =>
    refine .ite ?_ (.refl _)
    exact .inr ⟨by simp [raise, LocEngData.emit, DeferredFlags.zero], rfl, rfl⟩
  | deleteAidingData f =>
    show RaisesOrKeeps s.data (locEngDeleteAidingData f s.data)
    unfold locEngDeleteAidingData
    refine .ite (.refl _) ?_
    split <;> exact .ite (raise_raises (by simp [DeferredFlags.zero]) rfl) (.refl _)
  | dataConn r =>
    refine .ite (.refl _) (raise_raises r.setFlag_ne_zero ?_)
    cases r with
    | opened apn => cases apn <;> rfl
    | closed => rfl
    | failed => rfl
  | xtraStore buf => cases buf <;> exact .refl _
  | quit _ => exact raise_raises (by simp [DeferredFlags.zero]) rfl
  | micro rc mute _ _ => exact Micro.run_raises rc mute _ _
  | agpsInit | xtraInit | loop => exact .refl _
  | xtraSignal | topWait | topCopy | wake => cases ha
  | _ => exact absurd rfl hs

/-- A call takes no flag away. -/
theorem EngStep.call_flags (h : EngStep s a s') (ha : a.isCall = true) :
    s'.data.deferredActionFlags = s.data.deferredActionFlags ∨
      s'.data.deferredActionFlags ≠ .zero := by
  by_cases hsig : a = .xtraSignal
  · subst hsig
    cases h with
    | xtraSignal _ =>
      refine .inl ?_
      show (LocEng.xtraSignal s.data).deferredActionFlags = _
      unfold LocEng.xtraSignal
      split <;> rfl
  · have hat : a.atWait = false := by
      cases a <;> first | rfl | exact absurd rfl hsig | cases ha
    exact (h.raises hat).imp (·.1) (·.1)

/-! ## What a step leaves alone -/

/-- The record with everything blanked that the piece writes. -/
def Micro.untouched (m : Micro α) (d : LocEngData α) : LocEngData α :=
  let d :=
    { d with
      xtraRequestPending := false
      agpsRequestPending := false
      fixSessionStatus := .none
      deferredActionFlags :=
        { d.deferredActionFlags with deleteAiding := false, agpsStatus := false }
      deferredActionCond := .idle
      lastStatus := .none
      wakeLock := false
      log := [] }
  match m with
  | .reportChangedStatus _ => { d with engineStatus := .none }
  | .reportStatusMute => { d with muteSessionState := .none }
  | .niCallback _ _ => { d with muteSessionState := .none }
  | .processConnRequest _ => { d with agpsStatus := none, connHandle := 0 }
  | .deleteAidingDataAction => { d with aidingDataForDeletion := 0 }
  | .clearAidingData => { d with aidingDataForDeletion := 0 }
  | .injectXtraDataInBuffer => { d with xtraDataForInjection := none }
  | .setDataConnection _ => { d with dataConnectionIsOn := false }
  | _ => d

theorem untouched_ite (m : Micro α) {c : Prop} [Decidable c] {d x y : LocEngData α}
    (hx : m.untouched x = m.untouched d) (hy : m.untouched y = m.untouched d) :
    m.untouched (if c then x else y) = m.untouched d := by
  by_cases h : c
  · rw [if_pos h]
    exact hx
  · rw [if_neg h]
    exact hy

/-- A piece writes only what is its own. -/
theorem Micro.run_untouched (rc : Int) (mute : Bool) (d : LocEngData α) :
    ∀ m : Micro α, m.untouched (m.run rc mute d) = m.untouched d
  | .processLocEvent _ _ => rfl
  | .reportPosition _ => untouched_ite _ rfl rfl
  | .reportSv _ => untouched_ite _ rfl rfl
  | .reportChangedStatus r => by
    obtain ⟨engine, fix, last, es, -, heq⟩ := reportChangedStatus_footprint r d
    show Micro.untouched _ (LocEng.reportChangedStatus r d) = _
    rw [heq]
    rfl
  | .reportStatusMute =>
    untouched_ite _ (untouched_ite _ rfl rfl) (untouched_ite _ (untouched_ite _ rfl rfl) rfl)
  | .reportStatusWake => untouched_ite _ rfl rfl
  | .reportNmea _ => untouched_ite _ rfl rfl
  | .assistData isRequest r => by
    show Micro.untouched _ (LocEng.assistData isRequest r d) = _
    unfold LocEng.assistData
    split <;> exact untouched_ite _ rfl rfl
  | .processConnRequest r => by
    show Micro.untouched _ (locEngProcessConnRequest r d) = _
    unfold locEngProcessConnRequest
    split <;> rfl
  | .niCallback _ _ => untouched_ite _ (untouched_ite _ rfl rfl) rfl
  | .deleteAidingDataAction => rfl
  | .clearAidingData => rfl
  | .injectXtraDataInBuffer => by
    refine untouched_ite _ ?_ rfl
    cases d.xtraDataForInjection <;> rfl
  | .ioctlDataStatus _ =>
    untouched_ite _ rfl (untouched_ite _ rfl (untouched_ite _ (untouched_ite _ rfl rfl) rfl))
  | .setDataConnection _ => untouched_ite _ rfl (untouched_ite _ rfl (untouched_ite _ rfl rfl))
  | .handleDeferredStop => untouched_ite _ rfl rfl
  | .processAtlAction _ => untouched_ite _ rfl rfl

/-- A call does not move the thread. -/
theorem EngStep.call_thread (h : EngStep s a s') (ha : a.isCall = true) :
    s'.thread = s.thread := by
  cases h <;> first | rfl | cases ha

/-- The record with everything blanked that the call writes. -/
def EngAct.untouched (a : EngAct α) (d : LocEngData α) : LocEngData α :=
  let f := d.deferredActionFlags
  let d := { d with deferredActionCond := .idle, wakeLock := false, log := [] }
  match a with
  | .locEventCb _ _ p =>
    { d with locEvent := 0, locEventPayload := p, deferredActionFlags := { f with event := false } }
  | .deleteAidingData _ =>
    { d with aidingDataForDeletion := 0, deferredActionFlags := { f with deleteAiding := false } }
  | .dataConn _ =>
    { d with
      dataConnectionIsOn := false
      apnName := []
      deferredActionFlags :=
        { f with agpsDataSuccess := false, agpsDataClosed := false, agpsDataFailed := false } }
  | .xtraStore _ => { d with xtraDataForInjection := none }
  | .agpsInit => { d with agpsStatusCb := false }
  | .xtraInit => { d with downloadRequestCb := false }
  | .quit => { d with deferredActionFlags := { f with quit := false } }
  | .xtraSignal => d
  | .deinit _ => offSession d
  | _ =>
    { d with
      stopRequestPending := false
      navigating := false
      fixSessionStatus := .none
      lastStatus := .none }

/-- A call writes only what is its own. -/
theorem EngStep.call_untouched (h : EngStep s a s') (ha : a.isCall = true) :
    a.untouched s'.data = a.untouched s.data := by
  cases h with
  | locEventCb c m p =>
    show EngAct.untouched _ (LocEng.locEventCb c m p s.data) = _
    unfold LocEng.locEventCb
    split <;> rfl
  | deleteAidingData f =>
    show EngAct.untouched _ (locEngDeleteAidingData f s.data) = _
    simp only [locEngDeleteAidingData]
    repeat' split
    all_goals rfl
  | dataConn r =>
    show EngAct.untouched _ (locEngDataConn r s.data) = _
    unfold locEngDataConn
    split
    · rfl
    · cases r with
      | opened apn => cases apn <;> rfl
      | closed => rfl
      | failed => rfl
  | xtraStore buf => cases buf <;> rfl
  | xtraSignal _ =>
    show EngAct.untouched _ (LocEng.xtraSignal s.data) = _
    unfold LocEng.xtraSignal
    split <;> rfl
  | start rc =>
    show EngAct.untouched _ (locEngStart rc s.data) = _
    simp only [locEngStart]
    repeat' split
    all_goals rfl
  | stopNow rc _ =>
    obtain ⟨nav, fix, last, es, -, heq⟩ := stopNow_footprint rc s.data
    show EngAct.untouched _ (LocEng.stopNow rc s.data) = _
    rw [heq]
    rfl
  | deinit rc _ =>
    exact congrArg
      (fun d : LocEngData α => { d with deferredActionCond := .idle, wakeLock := false })
      (locEngDeinit_callFrame rc s.data).view_eq
  | agpsInit | xtraInit | stopUninit | stopPending | stopDirect | stopDefer | quit => rfl
  | topWait | topCopy | wake | micro | loop => cases ha

/-- Only a changed status report changes the status of the engine. -/
theorem Micro.run_engineStatus (rc : Int) (mute : Bool) (d : LocEngData α) {m : Micro α}
    (hm : ∀ r, m ≠ .reportChangedStatus r) : (m.run rc mute d).engineStatus = d.engineStatus := by
  have h := congrArg (·.engineStatus) (m.run_untouched rc mute d)
  cases m <;> first | exact h | exact absurd rfl (hm _)

end Ancora.LocEng
