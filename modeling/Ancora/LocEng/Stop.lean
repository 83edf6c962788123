import Ancora.LocEng.Deferred
import Ancora.LocEng.Frame
import Ancora.LocEng.Status

/-!
# Deferred stops

While an AGPS request is pending, `loc_eng_stop` only sets
`stop_request_pending`; the deferred thread calls `loc_stop_fix` when a
data-connection result ends the request (loc_eng.cpp:2222-2239).

- `OwnStops log`: each `loc_stop_fix` of the thread answers a deferred stop that
  no earlier one has answered and that no successful start has overtaken.
- `ServedOnce log`: each deferred stop is answered, and by one call only: a
  later call of the thread belongs to a later deferral.
- **`deferred_stop_serves_its_session`**: both hold over every run that keeps to
  `stopsFresh`. `stop_request_pending` is never cleared, so the condition is that
  once a stop has been deferred, a data-connection result is handled only if a
  stop has been deferred since the last result and the last successful start; and
  that no CLOSE request takes the pending request away from a deferred stop.
- **`deferred_stop_outcome`**: the two ways to stop agree exactly when
  `loc_stop_fix` fails, because only `loc_eng_stop` itself ends the session.
-/

namespace Ancora.LocEng

open Machine

variable {α : Type}

/-! ## Reading stops off the log -/

/-- A `loc_stop_fix` of the deferred thread. -/
def Effect.isDeferredStopFix : Effect α → Bool
  | .deferredStopFix _ => true
  | _ => false

/-- What ends a deferred stop's claim on the session: it has been answered, or a
new session was started. -/
def Effect.endsDeferral : Effect α → Bool
  | .deferredStopFix _ => true
  | .startFix rc => rc == rpcLocApiSuccess
  | _ => false

/-- Every `loc_stop_fix` of the thread is preceded by a deferred stop with
neither such a call nor a successful start in between. -/
def OwnStops (log : List (Effect α)) : Prop :=
  ∀ pre rc, pre ++ [.deferredStopFix rc] <+: log →
    ∃ pre₁ pre₂, pre = pre₁ ++ .stopDeferred :: pre₂ ∧ ∀ e ∈ pre₂, e.endsDeferral = false

/-- Every deferred stop is followed by a `loc_stop_fix` of the thread, and any
further one has a deferred stop of its own in between. -/
def ServedOnce (log : List (Effect α)) : Prop :=
  ∀ pre post, log = pre ++ Effect.stopDeferred :: post →
    ∃ post₁ rc post₂, post = post₁ ++ Effect.deferredStopFix rc :: post₂ ∧
      (∀ e ∈ post₁, e.isDeferredStopFix = false) ∧
      ∀ mid rc' rest, post₂ = mid ++ Effect.deferredStopFix rc' :: rest → Effect.stopDeferred ∈ mid

/-- How an effect changes whether the last deferred stop is fresh. -/
def freshNext (b : Bool) : Effect α → Bool
  | .stopDeferred => true
  | .agpsRequestDone => false
  | .deferredStopFix _ => false
  | .startFix rc => b && rc != rpcLocApiSuccess
  | _ => b

/-- A stop has been deferred since the last handled result and the last
successful start. -/
def freshStop (log : List (Effect α)) : Bool := log.foldl freshNext false

/-- How an effect changes whether a deferred stop is unanswered. -/
def unservedNext (b : Bool) : Effect α → Bool
  | .stopDeferred => true
  | .deferredStopFix _ => false
  | _ => b

/-- A deferred stop has not been answered yet. -/
def unserved (log : List (Effect α)) : Bool := log.foldl unservedNext false

@[simp] theorem freshStop_append (log es : List (Effect α)) :
    freshStop (log ++ es) = es.foldl freshNext (freshStop log) := List.foldl_append

@[simp] theorem unserved_append (log es : List (Effect α)) :
    unserved (log ++ es) = es.foldl unservedNext (unserved log) := List.foldl_append

/-- A stop has been deferred. -/
def everDeferred (log : List (Effect α)) : Bool :=
  log.foldl (fun b e => match e with
    | .stopDeferred => true
    | _ => b) false

/-- The effects that none of these readings look at. -/
def Effect.stopSilent : Effect α → Bool
  | .stopDeferred => false
  | .agpsRequestDone => false
  | .deferredStopFix _ => false
  | .startFix _ => false
  | _ => true

/-- What is unanswered has been deferred. -/
theorem everDeferred_of_unserved {log : List (Effect α)} (h : unserved log = true) :
    everDeferred log = true := by
  induction log using List.reverseRecOn with
  | nil => cases h
  | append_singleton log e ih =>
    rw [unserved_append] at h
    rw [everDeferred, List.foldl_append]
    cases e with
    | stopDeferred => rfl
    | deferredStopFix rc => simp [unservedNext] at h
    | _ => exact ih h

/-- Behind a fresh stop nothing has ended its claim. -/
theorem freshStop_split {log : List (Effect α)} (h : freshStop log = true) :
    ∃ pre₁ pre₂, log = pre₁ ++ .stopDeferred :: pre₂ ∧ ∀ e ∈ pre₂, e.endsDeferral = false := by
  induction log using List.reverseRecOn with
  | nil => cases h
  | append_singleton log e ih =>
    have hold : freshStop log = true → e.endsDeferral = false →
        ∃ pre₁ pre₂, log ++ [e] = pre₁ ++ .stopDeferred :: pre₂ ∧
          ∀ e ∈ pre₂, e.endsDeferral = false := by
      intro hlog he
      obtain ⟨pre₁, pre₂, rfl, hpre⟩ := ih hlog
      refine ⟨pre₁, pre₂ ++ [e], by simp, fun x hx => ?_⟩
      rcases List.mem_append.mp hx with hx | hx
      · exact hpre x hx
      · rw [List.mem_singleton.mp hx]
        exact he
    rw [freshStop_append] at h
    cases e with
    | stopDeferred => exact ⟨log, [], rfl, by simp⟩
    | agpsRequestDone => simp [freshNext] at h
    | deferredStopFix rc => simp [freshNext] at h
    | startFix rc =>
      obtain ⟨hlog, hrc⟩ : freshStop log = true ∧ rc ≠ rpcLocApiSuccess := by
        simpa [freshNext] using h
      exact hold hlog (by simpa [Effect.endsDeferral] using hrc)
    | _ => exact hold h rfl

def Effect.isStopDeferred : Effect α → Bool
  | .stopDeferred => true
  | _ => false

/-- The fold as an instance of `History.due`. -/
theorem unserved_eq_due (log : List (Effect α)) :
    unserved log = History.due Effect.isStopDeferred Effect.isDeferredStopFix log := by
  have hnext : unservedNext (α := α) =
      fun b e => e.isStopDeferred || (b && !e.isDeferredStopFix) := by
    funext b e
    cases e <;> cases b <;> rfl
  rw [unserved, History.due, hnext]

/-- With nothing unanswered each deferred stop has an answer behind it. -/
theorem unserved_served {log : List (Effect α)} (h : unserved log = false) :
    ∀ pre post, log = pre ++ Effect.stopDeferred :: post →
      ∃ e ∈ post, e.isDeferredStopFix = true := by
  intro pre post heq
  rw [unserved_eq_due] at h
  exact History.closed_of_not_due h heq rfl

/-- Nothing unanswered and every answer owned: each deferred stop has exactly
one answer. -/
theorem servedOnce_of_ownStops {log : List (Effect α)} (hown : OwnStops log)
    (hun : unserved log = false) : ServedOnce log := by
  intro pre post heq
  obtain ⟨post₁, e, post₂, rfl, he, hfirst⟩ := History.exists_first (unserved_served hun pre post heq)
  cases e with
  | deferredStopFix rc =>
    refine ⟨post₁, rc, post₂, rfl, hfirst, ?_⟩
    rintro mid rc' rest rfl
    have hprefix : (pre ++ Effect.stopDeferred :: (post₁ ++ Effect.deferredStopFix rc :: mid)) ++
        [Effect.deferredStopFix rc'] <+: log := ⟨rest, by simp [heq]⟩
    obtain ⟨pre₁, pre₂, hsplit, hpre₂⟩ := hown _ rc' hprefix
    -- the deferral that owns the second answer lies after the first answer
    have hsplit' : (pre ++ Effect.stopDeferred :: post₁) ++ Effect.deferredStopFix rc :: mid =
        pre₁ ++ Effect.stopDeferred :: pre₂ := by
      rw [← hsplit]
      simp
    rcases List.append_eq_append_iff.mp hsplit' with ⟨as, rfl, hmid⟩ | ⟨bs, hbs, hmid⟩
    · cases as with
      | nil => simp at hmid
      | cons a as =>
        obtain ⟨-, hmid⟩ := List.cons.inj hmid
        rw [hmid]
        simp
    · cases bs with
      | nil => simp at hmid
      | cons b bs =>
        obtain ⟨-, hmid⟩ := List.cons.inj hmid
        have hmem := hpre₂ (.deferredStopFix rc) (by rw [hmid]; simp)
        simp [Effect.endsDeferral] at hmem
  | _ => simp [Effect.isDeferredStopFix] at he

/-- An effect that is no call of the thread needs no owner. -/
theorem ownStops_snoc {log : List (Effect α)} (h : OwnStops log) {e : Effect α}
    (he : e.isDeferredStopFix = false) : OwnStops (log ++ [e]) := by
  intro pre rc hpre
  rcases History.prefix_snoc hpre with ⟨-, rfl⟩ | hpre
  · cases he
  · exact h pre rc hpre

/-- The same for several effects. -/
theorem ownStops_append {log es : List (Effect α)} (h : OwnStops log)
    (hes : ∀ e ∈ es, e.isDeferredStopFix = false) : OwnStops (log ++ es) := by
  induction es using List.reverseRecOn with
  | nil => simpa using h
  | append_singleton es e ih =>
    rw [← List.append_assoc]
    refine ownStops_snoc (ih fun x hx => hes x ?_) (hes e ?_)
    · exact List.mem_append_left _ hx
    · simp

/-- A call of the thread is owned if a fresh stop was waiting for the result. -/
theorem ownStops_answer {log : List (Effect α)} (h : OwnStops log)
    (hfresh : freshStop log = true) (rc : Int) :
    OwnStops (log ++ [Effect.agpsRequestDone, Effect.deferredStopFix rc]) := by
  have hdone : OwnStops (log ++ [Effect.agpsRequestDone]) := ownStops_snoc h rfl
  rw [show log ++ [Effect.agpsRequestDone, Effect.deferredStopFix rc] =
    (log ++ [Effect.agpsRequestDone]) ++ [Effect.deferredStopFix rc] by simp]
  intro pre rc' hpre
  rcases History.prefix_snoc hpre with ⟨rfl, -⟩ | hpre
  · obtain ⟨pre₁, pre₂, hlog, hpre₂⟩ := freshStop_split hfresh
    refine ⟨pre₁, pre₂ ++ [.agpsRequestDone], by rw [hlog]; simp, ?_⟩
    intro e he
    rcases List.mem_append.mp he with he | he
    · exact hpre₂ e he
    · rw [List.mem_singleton.mp he]
      rfl
  · exact hdone pre rc' hpre

/-! ## Steps that do not touch the two flags -/

/-- `agps_request_pending` and `stop_request_pending` are as before, and the log
tells the same about stops. -/
abbrev StopFrame (d d' : LocEngData α) : Prop :=
  Frame (fun d => (d.agpsRequestPending, d.stopRequestPending)) (fun _ => True)
    Effect.stopSilent d d'

theorem Effect.not_isDeferredStopFix_of_stopSilent {e : Effect α} (h : e.stopSilent = true) :
    e.isDeferredStopFix = false := by
  cases e <;> simp_all [Effect.isDeferredStopFix, Effect.stopSilent]

theorem QuietFrame.stop {d d' : LocEngData α} (h : QuietFrame d d') : StopFrame d d' :=
  h.frame (fun _ => rfl) (fun _ => rfl) fun e he => by
    cases e <;> simp_all [Effect.quiet, Effect.stopSilent]

/-! ## The invariant and the run -/

/-- Answers are owned, an unanswered stop still has its AGPS request pending, and
`stop_request_pending` tells whether a stop was ever deferred. -/
structure StopInv (s : EngState α) : Prop where
  own : OwnStops s.data.log
  unserved_pending : unserved s.data.log = true → s.data.agpsRequestPending = true
  deferring_pending : s.stopDeferring = true → s.data.agpsRequestPending = true
  pending_eq : s.data.stopRequestPending = everDeferred s.data.log

/-- The condition on a step. A data-connection result is handled only if no stop
was ever deferred, or one was since the last result and the last successful
start; a CLOSE request is handled only if no deferred stop is unanswered and none
is being deferred. -/
def stopsFresh (s : EngState α) : EngAct α → Prop
  | .micro _ _ =>
    match s.thread with
    | .running (.handleDeferredStop :: _) =>
      everDeferred s.data.log = true → freshStop s.data.log = true
    | .running (.processConnRequest r :: _) =>
      r.event ≠ .open → unserved s.data.log = false ∧ s.stopDeferring = false
    | _ => True
  | _ => True

instance (s : EngState α) (a : EngAct α) : Decidable (stopsFresh s a) := by
  unfold stopsFresh
  split
  · split <;> infer_instance
  · infer_instance

/-- A step that frames the flags and leaves no new call deferring. -/
theorem StopInv.frame {s s' : EngState α} (hi : StopInv s) (hf : StopFrame s.data s'.data)
    (hd : s'.stopDeferring = true → s.stopDeferring = true) : StopInv s' := by
  have hpend : s'.data.agpsRequestPending = s.data.agpsRequestPending :=
    congrArg Prod.fst hf.view_eq
  have hstop : s'.data.stopRequestPending = s.data.stopRequestPending :=
    congrArg Prod.snd hf.view_eq
  have hun : unserved s'.data.log = unserved s.data.log :=
    hf.foldl_eq fun b e he => by cases e <;> simp_all [Effect.stopSilent, unservedNext]
  have hever : everDeferred s'.data.log = everDeferred s.data.log :=
    hf.foldl_eq fun b e he => by cases e <;> simp_all [Effect.stopSilent]
  refine ⟨?_, ?_, ?_, ?_⟩
  · obtain ⟨es, hlog, hes⟩ := hf.log_eq
    rw [hlog]
    exact ownStops_append hi.own fun e he =>
      Effect.not_isDeferredStopFix_of_stopSilent (hes e he)
  · rw [hun, hpend]
    exact hi.unserved_pending
  · rw [hpend]
    exact hi.deferring_pending ∘ hd
  · rw [hstop, hever]
    exact hi.pending_eq

theorem everDeferred_snoc (log : List (Effect α)) : everDeferred (log ++ [.stopDeferred]) = true := by
  rw [everDeferred, List.foldl_append]
  rfl

/-- Deferring a stop while the request is pending. -/
theorem StopInv.deferStop {s s' : EngState α} (hi : StopInv s)
    (hp : s.data.agpsRequestPending = true) (hdata : s'.data = deferStop s.data) : StopInv s' := by
  have hlog : s'.data.log = s.data.log ++ [.stopDeferred] := by rw [hdata]; rfl
  have hpend : s'.data.agpsRequestPending = true := by rw [hdata]; exact hp
  refine ⟨?_, fun _ => hpend, fun _ => hpend, ?_⟩
  · rw [hlog]
    exact ownStops_snoc hi.own rfl
  · rw [hlog, everDeferred_snoc, hdata]
    rfl

/-- A start changes no flag; whether it succeeded only matters to freshness. -/
theorem StopInv.locEngStart {s : EngState α} (hi : StopInv s) (rc : Int) :
    StopInv { s with data := locEngStart rc s.data } := by
  have hemit : StopInv { s with data := s.data.emit (.startFix rc) } := by
    refine ⟨ownStops_snoc hi.own rfl, ?_, hi.deferring_pending, ?_⟩
    · show unserved (s.data.log ++ [.startFix rc]) = true → _
      rw [unserved_append]
      exact hi.unserved_pending
    · show _ = everDeferred (s.data.log ++ [.startFix rc])
      rw [everDeferred, List.foldl_append]
      exact hi.pending_eq
  unfold LocEng.locEngStart
  by_cases hin : (!s.data.locEngInited) = true
  · rw [if_pos hin]
    exact hi
  · rw [if_neg hin]
    by_cases hrc : rc ≠ rpcLocApiSuccess
    · simp only [if_pos hrc]
      exact hemit
    · simp only [if_neg hrc]
      exact hemit.frame (.of_fields rfl rfl id) id

/-- The last cleanup keeps the invariant. -/
theorem StopInv.locEngDeinit {s : EngState α} (hi : StopInv s) (rc : Int) :
    StopInv { s with data := locEngDeinit rc s.data } := by
  have hstop : StopInv { s with data := locEngStop rc s.data } := by
    unfold LocEng.locEngStop
    by_cases hin : (!s.data.locEngInited) = true
    · rw [if_pos hin]
      exact hi
    · rw [if_neg hin]
      by_cases hp : s.data.agpsRequestPending = true
      · rw [if_pos hp]
        exact hi.deferStop hp rfl
      · rw [if_neg hp]
        exact hi.frame (stopNow_quietFrame rc _).stop id
  unfold LocEng.locEngDeinit
  by_cases hin : s.data.locEngInited = true
  · rw [if_pos hin]
    have hnav : StopInv { s with data := if s.data.navigating then
        { LocEng.locEngStop rc s.data with navigating := false } else s.data } := by
      by_cases hn : s.data.navigating = true
      · rw [if_pos hn]
        exact hstop.frame (.of_fields rfl rfl id) id
      · rw [if_neg hn]
        exact hi
    generalize (if s.data.navigating then
      { LocEng.locEngStop rc s.data with navigating := false } else s.data) = e at hnav
    have hclose : StopFrame e (if e.clientOpened then
        { e.emit (.locClose e.clientHandle) with clientOpened := false } else e) :=
      .ite ((Frame.emit e rfl rfl id).trans (.of_fields rfl rfl id)) (.refl e)
    exact hnav.frame (hclose.trans (.of_fields rfl rfl id)) id
  · rw [if_neg hin]
    exact hi

/-- Handling a result: with a fresh stop the call is owned, and with none ever
deferred there is no call. -/
theorem StopInv.handleDeferredStop {s s' : EngState α} (hi : StopInv s) (rc : Int)
    (hfresh : everDeferred s.data.log = true → freshStop s.data.log = true)
    (hm : s'.stopDeferring = false) (hdata : s'.data = handleDeferredStop rc s.data) :
    StopInv s' := by
  have hdefer : s'.stopDeferring = true → s'.data.agpsRequestPending = true := by
    rw [hm]
    exact nofun
  by_cases hstop : s.data.stopRequestPending = true
  · have hever : everDeferred s.data.log = true := hi.pending_eq ▸ hstop
    have hlog : s'.data.log = s.data.log ++ [.agpsRequestDone, .deferredStopFix rc] := by
      rw [hdata]
      simp [LocEng.handleDeferredStop, LocEngData.emit, hstop]
    refine ⟨?_, ?_, hdefer, ?_⟩
    · rw [hlog]
      exact ownStops_answer hi.own (hfresh hever) rc
    · rw [hlog, unserved_append]
      intro h
      cases h
    · have hkeep : s'.data.stopRequestPending = s.data.stopRequestPending := by
        rw [hdata]
        simp [LocEng.handleDeferredStop, LocEngData.emit, hstop]
      rw [hkeep, hlog, everDeferred, List.foldl_append]
      exact hi.pending_eq
  · have hever : everDeferred s.data.log = false := by
      rw [← hi.pending_eq]
      simpa using hstop
    have hun : unserved s.data.log = false := by
      by_contra hne
      have := everDeferred_of_unserved (show unserved s.data.log = true by simpa using hne)
      rw [hever] at this
      cases this
    have hlog : s'.data.log = s.data.log ++ [.agpsRequestDone] := by
      rw [hdata]
      simp [LocEng.handleDeferredStop, LocEngData.emit, hstop]
    refine ⟨?_, ?_, hdefer, ?_⟩
    · rw [hlog]
      exact ownStops_snoc hi.own rfl
    · rw [hlog, unserved_append]
      intro h
      rw [show [Effect.agpsRequestDone].foldl unservedNext (unserved s.data.log) =
        unserved s.data.log from rfl, hun] at h
      cases h
    · have hkeep : s'.data.stopRequestPending = s.data.stopRequestPending := by
        rw [hdata]
        simp [LocEng.handleDeferredStop, LocEngData.emit, hstop]
      rw [hkeep, hlog, everDeferred, List.foldl_append]
      exact hi.pending_eq

/-- A server request: OPEN sets the pending request, CLOSE takes it away from no
deferred stop. -/
theorem StopInv.processConnRequest {s s' : EngState α} (hi : StopInv s) (r : ServerRequest)
    (hclose : r.event ≠ .open → unserved s.data.log = false ∧ s.stopDeferring = false)
    (hm : s'.stopDeferring = s.stopDeferring)
    (hdata : s'.data = locEngProcessConnRequest r s.data) : StopInv s' := by
  have hlog : s'.data.log = s.data.log := by
    rw [hdata]
    unfold locEngProcessConnRequest
    split <;> rfl
  have hstop : s'.data.stopRequestPending = s.data.stopRequestPending := by
    rw [hdata]
    unfold locEngProcessConnRequest
    split <;> rfl
  have hpend : r.event = .open → s'.data.agpsRequestPending = true := by
    intro h
    rw [hdata]
    simp [locEngProcessConnRequest, h, raise]
  refine ⟨by rw [hlog]; exact hi.own, ?_, ?_, by rw [hstop, hlog]; exact hi.pending_eq⟩
  · intro hun
    by_cases hopen : r.event = .open
    · exact hpend hopen
    · rw [hlog, (hclose hopen).1] at hun
      cases hun
  · intro hd
    by_cases hopen : r.event = .open
    · exact hpend hopen
    · rw [hm, (hclose hopen).2] at hd
      cases hd

/-- Every permitted step keeps the invariant. -/
theorem StopInv.step {s s' : EngState α} {a : EngAct α} (hok : stopsFresh s a)
    (h : engStep s a = some s') (hi : StopInv s) : StopInv s' := by
  cases engStep_cases h with
  | locEventCb c m p =>
    refine hi.frame (.ite ?_ (.refl _)) id
    exact .of_log [.accept m p] (by simp [Effect.stopSilent]) rfl rfl id
  | deleteAidingData f => exact hi.frame (locEngDeleteAidingData_quietFrame f _).stop id
  | dataConn r => exact hi.frame (locEngDataConn_quietFrame r _).stop id
  | xtraStore buf => exact hi.frame (xtraStore_quietFrame buf _).stop id
  | xtraSignal _ => exact hi.frame (xtraSignal_quietFrame _).stop id
  | agpsInit => exact hi.frame (.of_fields rfl rfl id) id
  | xtraInit => exact hi.frame (.of_fields rfl rfl id) id
  | start rc => exact hi.locEngStart rc
  | stopUninit _ _ => exact hi
  | stopPending _ hp => exact ⟨hi.own, hi.unserved_pending, fun _ => hp, hi.pending_eq⟩
  | stopDirect _ _ => exact hi.frame (.refl _) id
  | stopDefer hm => exact hi.deferStop (hi.deferring_pending hm) rfl
  | stopNow rc _ => exact hi.frame (stopNow_quietFrame rc _).stop id
  | deinit rc _ => exact hi.locEngDeinit rc
  | quit _ => exact hi.frame (.of_fields rfl rfl id) id
  | topWait _ _ => exact hi.frame (.of_fields rfl rfl id) id
  | topCopy _ _ =>
    unfold quitOrCopy
    split <;> exact hi.frame (.of_fields rfl rfl id) id
  | wake _ =>
    unfold quitOrCopy
    split <;> exact hi.frame (.of_fields rfl rfl id) id
  | @micro rc mute m todo ht hm =>
    simp only [stopsFresh, ht] at hok
    by_cases hq : m.isQuiet = true
    · exact hi.frame (Micro.run_quietFrame rc mute s.data m hq).stop id
    · cases m with
      | handleDeferredStop => exact hi.handleDeferredStop rc hok (hm rfl) rfl
      | processConnRequest r => exact hi.processConnRequest r hok rfl rfl
      | processLocEvent e p => exact hi.frame (.emit _ rfl rfl id) id
      | _ => exact absurd rfl hq
  | loop _ => exact hi.frame (.refl _) id

/-- It holds before the first step. -/
theorem StopInv.engInit [Inhabited α] (cb : GpsCallbacks) (handle : Int) :
    StopInv (engInit α cb handle) := by
  refine ⟨?_, nofun, nofun, rfl⟩
  intro pre rc hpre
  have hlog : (LocEng.engInit α cb handle).data.log = [] ++ [.init] := rfl
  rw [hlog] at hpre
  rcases History.prefix_snoc hpre with ⟨-, he⟩ | hpre
  · cases he
  · simp at hpre

/-- **A deferred stop stops its own session.** In every run that keeps to
`stopsFresh`, each `loc_stop_fix` of the deferred thread answers a deferred stop
that is not yet answered and not overtaken by a successful start; and once no
AGPS request is pending, each deferred stop has been answered, once. -/
theorem deferred_stop_serves_its_session [Inhabited α] (cb : GpsCallbacks) (handle : Int)
    {as : List (EngAct α)} {s : EngState α}
    (h : exec (restrict stopsFresh engStep) (engInit α cb handle) as = some s) :
    OwnStops s.data.log ∧ (s.data.agpsRequestPending = false → ServedOnce s.data.log) := by
  have hi : StopInv s := exec_restrict_invariant
    (fun s a s' hok hst hi => hi.step hok hst) (StopInv.engInit cb handle) h
  refine ⟨hi.own, fun hp => servedOnce_of_ownStops hi.own ?_⟩
  by_contra hne
  have hpend := hi.unserved_pending (by simpa using hne)
  rw [hp] at hpend
  cases hpend

/-- A server request to open a connection, as an event. -/
def openRequest : EventPayload Unit :=
  { (default : EventPayload Unit) with locServerRequest := ⟨.open, 7, 0⟩ }

/-- The thread's pass over a server request, from the copy to the next copy. -/
def passOverRequest : List (EngAct Unit) :=
  [EngAct.top] ++ List.replicate 5 (EngAct.micro 0 false) ++ [EngAct.loop]

/-- The thread's pass over the AGPS status of a server request. -/
def passOverAtl : List (EngAct Unit) :=
  [EngAct.top] ++ List.replicate 2 (EngAct.micro 0 false) ++ [EngAct.loop]

/-- The thread's pass over a data-connection result. -/
def passOverResult : List (EngAct Unit) :=
  [EngAct.dataConn (.opened none), .top] ++ List.replicate 4 (EngAct.micro 0 false) ++ [EngAct.loop]

/-- A session stopped during its AGPS request. -/
def stopDuringRequest : List (EngAct Unit) :=
  [EngAct.start 0, .locEventCb 1 locationServerRequest openRequest] ++ passOverRequest ++ passOverAtl ++
    [EngAct.stopCheck, .stopDefer] ++ passOverResult

theorem deferred_stop_serves_its_session_once :
    ∃ s, exec (restrict stopsFresh engStep) (engInit Unit ⟨true, true⟩ 1) stopDuringRequest =
        some s ∧ s.data.agpsRequestPending = false ∧ everDeferred s.data.log = true ∧
      OwnStops s.data.log ∧ (s.data.agpsRequestPending = false → ServedOnce s.data.log) := by
  have hrun : (exec (restrict stopsFresh engStep) (engInit Unit ⟨true, true⟩ 1)
      stopDuringRequest).any (fun s =>
        s.data.agpsRequestPending = false ∧ everDeferred s.data.log = true) = true := by decide
  obtain ⟨s, hs, h⟩ := (Option.any_eq_true _ _).mp hrun
  obtain ⟨hp, hever⟩ : s.data.agpsRequestPending = false ∧ everDeferred s.data.log = true := by
    simpa using h
  exact ⟨s, hs, hp, hever, deferred_stop_serves_its_session ⟨true, true⟩ 1 hs⟩

/-- The next session, whose own AGPS request completes while it navigates. -/
def nextSession : List (EngAct Unit) :=
  [EngAct.start 0, .locEventCb 1 locationServerRequest openRequest] ++ passOverRequest ++ passOverAtl ++
    passOverResult

/-- How an effect changes whether a deferred stop is still owed. -/
def owedNext (b : Bool) : Effect α → Bool
  | .stopDeferred => true
  | e => b && !e.endsDeferral

/-- A deferred stop is neither answered nor overtaken. -/
def stopOwed (log : List (Effect α)) : Bool := log.foldl owedNext false

/-- A call with nothing owed to it breaks the property. -/
theorem not_ownStops {pre : List (Effect α)} {rc : Int} (h : stopOwed pre = false) :
    ¬ OwnStops (pre ++ [Effect.deferredStopFix rc]) := by
  intro hown
  obtain ⟨pre₁, pre₂, rfl, hpre₂⟩ := hown pre rc List.prefix_rfl
  have hnext : owedNext (α := α) = fun b e => e.isStopDeferred || (b && !e.endsDeferral) := by
    funext b e
    cases e <;> rfl
  rw [stopOwed, hnext] at h
  obtain ⟨e, he, hend⟩ := History.closed_of_not_due h rfl rfl
  rw [hpre₂ e he] at hend
  cases hend

/-- The flag is still set one session later: the thread stops a fix that nobody
asked to stop. -/
theorem deferred_stop_hits_next_session :
    ∃ s, exec engStep (engInit Unit ⟨true, true⟩ 1) (stopDuringRequest ++ nextSession) = some s ∧
      s.data.navigating = true ∧ ¬ OwnStops s.data.log := by
  have hrun : (exec engStep (engInit Unit ⟨true, true⟩ 1)
      (stopDuringRequest ++ nextSession)).any (fun s => s.data.navigating = true ∧
        s.data.log = s.data.log.dropLast ++ [.deferredStopFix 0] ∧
          stopOwed s.data.log.dropLast = false) = true := by decide
  obtain ⟨s, hs, h⟩ := (Option.any_eq_true _ _).mp hrun
  obtain ⟨hnav, hlog, howed⟩ := of_decide_eq_true h
  refine ⟨s, hs, hnav, ?_⟩
  rw [hlog]
  exact not_ownStops howed

/-! ## The two ways to stop -/

/-- The status callbacks in the log. -/
def statusCbs (log : List (Effect α)) : List GpsStatusValue :=
  log.filterMap fun
    | .statusCb status => some status
    | _ => none

/-- `loc_eng_stop` while the AGPS request is pending, and then the
data-connection result `r` that ends the request; `rc` is what `loc_stop_fix`
returns when the thread calls it. -/
def stopThenComplete (r : ConnResult) (rc : Int) (d : LocEngData α) : LocEngData α :=
  completeAgps r rc (locEngDataConn r (locEngStop rc d))

/-- `loc_eng_stop` with no request pending. -/
def stopAtOnce (rc : Int) (d : LocEngData α) : LocEngData α :=
  locEngStop rc { d with agpsRequestPending := false }

/-- A session is active. -/
def ActiveSession (d : LocEngData α) : Prop :=
  d.navigating = true ∨ d.fixSessionStatus = .sessionBegin

/-- The same session state and the same status callbacks. -/
structure SameOutcome (x y : LocEngData α) : Prop where
  navigating_eq : x.navigating = y.navigating
  fix_eq : x.fixSessionStatus = y.fixSessionStatus
  callbacks_eq : statusCbs x.log = statusCbs y.log

/-- Deferring the stop does not change its outcome: if `loc_stop_fix` succeeds
both ways end alike, and if it fails both leave the session as it was. -/
def DeferralTransparent (r : ConnResult) (rc : Int) (d : LocEngData α) : Prop :=
  if rc = rpcLocApiSuccess then SameOutcome (stopThenComplete r rc d) (stopAtOnce rc d)
  else SameOutcome (stopThenComplete r rc d) d ∧ SameOutcome (stopAtOnce rc d) d

/-- Completing a request leaves the session to `loc_eng_stop`. -/
theorem completeAgps_sameOutcome (r : ConnResult) (rc : Int) (d : LocEngData α) :
    SameOutcome (completeAgps r rc (locEngDataConn r d)) d := by
  have hf := connResult_sessionFrame r rc d
  obtain ⟨hnav, -, hfix, -⟩ : _ ∧ _ ∧ _ ∧ _ := by simpa only [Prod.mk.injEq] using hf.view_eq
  refine ⟨hnav, hfix, hf.filterMap_eq fun e he => ?_⟩
  cases e <;> simp_all [Effect.sessionSilent]

/-- The deferred way leaves the session and the framework's callbacks as they
were, whatever `loc_stop_fix` returns. -/
theorem stopThenComplete_sameOutcome {d : LocEngData α} (hin : d.locEngInited = true)
    (hp : d.agpsRequestPending = true) (r : ConnResult) (rc : Int) :
    SameOutcome (stopThenComplete r rc d) d := by
  have hdefer : locEngStop rc d = deferStop d := by simp [locEngStop, hin, hp]
  have hcomplete := completeAgps_sameOutcome r rc (deferStop d)
  unfold stopThenComplete
  rw [hdefer]
  refine ⟨hcomplete.navigating_eq, hcomplete.fix_eq, hcomplete.callbacks_eq.trans ?_⟩
  simp [deferStop, LocEngData.emit, statusCbs]

/-- With the engine up the stop is made at once. -/
theorem stopAtOnce_eq {d : LocEngData α} (hin : d.locEngInited = true) (rc : Int) :
    stopAtOnce rc d = stopNow rc { d with agpsRequestPending := false } := by
  simp [stopAtOnce, locEngStop, hin]

/-- **The two ways to stop agree exactly when `loc_stop_fix` fails.** On success
`loc_eng_stop` ends the session and tells the framework; the deferred thread
does neither. -/
theorem deferred_stop_outcome {d : LocEngData α} (hin : d.locEngInited = true)
    (hp : d.agpsRequestPending = true) (hs : ActiveSession d) (r : ConnResult) (rc : Int) :
    DeferralTransparent r rc d ↔ rc ≠ rpcLocApiSuccess := by
  have hdefer := stopThenComplete_sameOutcome hin hp r rc
  constructor
  · rintro h rfl
    have hsame : SameOutcome (stopThenComplete r rpcLocApiSuccess d)
        (stopAtOnce rpcLocApiSuccess d) := by simpa [DeferralTransparent] using h
    rw [stopAtOnce_eq hin] at hsame
    rcases hs with hnav | hfix
    · -- the direct way clears the flag, the deferred way keeps it
      have heq := hsame.navigating_eq
      rw [hdefer.navigating_eq, hnav] at heq
      simp [stopNow] at heq
    · have heq := hsame.fix_eq
      rw [hdefer.fix_eq, hfix] at heq
      by_cases hen : d.engineStatus = .engineOff <;> simp [stopNow, LocEngData.emit, hen] at heq
  · intro hrc
    unfold DeferralTransparent
    rw [if_neg hrc]
    refine ⟨hdefer, ?_⟩
    rw [stopAtOnce_eq hin]
    refine ⟨?_, ?_, ?_⟩ <;> simp [stopNow, hrc, LocEngData.emit, statusCbs]

/-- A session with its AGPS request pending, as a run reaches it. -/
def sessionWithRequest : List StatusAct :=
  [.init ⟨true, true⟩ 1 0, .start 0, .report sessionReport, .serverRequest ⟨.open, 7, 0⟩]

theorem deferred_stop_outcome_failing_stop :
    ∃ d, exec statusStep (LocEngData.boot Unit) sessionWithRequest = some d ∧
      (DeferralTransparent .closed 1 d ↔ (1 : Int) ≠ rpcLocApiSuccess) := by
  have hrun : (exec statusStep (LocEngData.boot Unit) sessionWithRequest).any (fun d =>
      d.locEngInited = true ∧ d.agpsRequestPending = true ∧ d.navigating = true) = true := by
    decide
  obtain ⟨d, hd, h⟩ := (Option.any_eq_true _ _).mp hrun
  obtain ⟨hin, hp, hnav⟩ := of_decide_eq_true h
  exact ⟨d, hd, deferred_stop_outcome hin hp (.inl hnav) .closed 1⟩

/-- The stop succeeds, and the framework goes on believing in the session. -/
theorem deferred_stop_keeps_session :
    ∃ d, exec statusStep (LocEngData.boot Unit) sessionWithRequest = some d ∧
      ActiveSession d ∧ d.agpsRequestPending = true ∧
      (stopThenComplete (.opened none) rpcLocApiSuccess d).navigating = true ∧
      (stopAtOnce rpcLocApiSuccess d).navigating = false ∧
      ¬ DeferralTransparent (.opened none) rpcLocApiSuccess d := by
  have hrun : (exec statusStep (LocEngData.boot Unit) sessionWithRequest).any (fun d =>
      d.navigating = true ∧ d.agpsRequestPending = true ∧
      (stopThenComplete (.opened none) rpcLocApiSuccess d).navigating = true ∧
      (stopAtOnce rpcLocApiSuccess d).navigating = false) = true := by decide
  obtain ⟨d, hd, h⟩ := (Option.any_eq_true _ _).mp hrun
  obtain ⟨hnav, hp, hkeep, hend⟩ := of_decide_eq_true h
  refine ⟨d, hd, .inl hnav, hp, hkeep, hend, ?_⟩
  intro htrans
  have hsame := (show SameOutcome _ _ from by simpa [DeferralTransparent] using htrans).navigating_eq
  rw [hkeep, hend] at hsame
  cases hsame

end Ancora.LocEng
