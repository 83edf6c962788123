import Ancora.Lib.Conduit
import Ancora.LocEng.Deferred
import Ancora.LocEng.Frame

/-!
# The event slot

Modem events travel from `loc_event_cb` to the deferred thread through one pair
of fields, `loc_event` and `loc_event_payload`. The thread empties the pair at
each pass of its loop and is then busy, without the mutex, for as long as its
ioctls take.

- `accepted` and `processed` read the two event sequences off the log.
- `MailFrame d d'`: a step leaves the slot and both sequences alone. Everything
  the engine does except storing, copying and processing an event is one, and
  `Micro.run_mailFrame` says so for the pieces of the deferred thread at once.
- `MailInv`: what was accepted is what was processed, followed by the event the
  thread has copied but not yet handed on, followed by the event in the slot.
- **`events_delivered_in_order`**: the invariant carries over every run in which
  each accepted event has a nonzero mask and finds the slot empty.

Without that condition the sequence breaks: `loc_event_cb` stores without
looking (`events_lost_in_burst`).
-/

namespace Ancora.LocEng

open Machine

variable {α : Type}

/-- The events `loc_event_cb` stored, oldest first. -/
def accepted (log : List (Effect α)) : List (EventMask × EventPayload α) :=
  log.filterMap fun
    | .accept m p => some (m, p)
    | _ => none

/-- The events passed to `loc_eng_process_loc_event`, oldest first. -/
def processed (log : List (Effect α)) : List (EventMask × EventPayload α) :=
  log.filterMap fun
    | .process m p => some (m, p)
    | _ => none

/-- The event in the slot, if there is one: `loc_event = 0` means empty. -/
def inSlot (d : LocEngData α) : List (EventMask × EventPayload α) :=
  if d.locEvent ≠ 0 then [(d.locEvent, d.locEventPayload)] else []

/-- The events among the pieces the thread still has to run. -/
def inTodo (todo : List (Micro α)) : List (EventMask × EventPayload α) :=
  todo.filterMap fun
    | .processLocEvent m p => some (m, p)
    | _ => none

/-- The event the thread holds between its copy and its call. -/
def inThread : ThreadPc α → List (EventMask × EventPayload α)
  | .running todo => inTodo todo
  | .top => []
  | .waiting => []
  | .done => []

/-! ## Steps that do not touch the slot -/

/-- An effect that is neither an accepted nor a processed event. -/
def Effect.silent : Effect α → Bool
  | .accept _ _ => false
  | .process _ _ => false
  | _ => true

/-- The slot and both event sequences are as before, and the event flag is not
cleared. -/
abbrev MailFrame (d d' : LocEngData α) : Prop :=
  Frame (fun d => (d.locEvent, d.locEventPayload))
    (fun d => d.deferredActionFlags.event = true) Effect.silent d d'

theorem MailFrame.accepted_eq {d d' : LocEngData α} (h : MailFrame d d') :
    accepted d'.log = accepted d.log :=
  h.filterMap_eq fun e he => by cases e <;> simp_all [Effect.silent]

theorem MailFrame.processed_eq {d d' : LocEngData α} (h : MailFrame d d') :
    processed d'.log = processed d.log :=
  h.filterMap_eq fun e he => by cases e <;> simp_all [Effect.silent]

theorem MailFrame.locEvent_eq {d d' : LocEngData α} (h : MailFrame d d') :
    d'.locEvent = d.locEvent := congrArg Prod.fst h.view_eq

theorem MailFrame.payload_eq {d d' : LocEngData α} (h : MailFrame d d') :
    d'.locEventPayload = d.locEventPayload := congrArg Prod.snd h.view_eq

/-- Quiet steps leave the mail alone. -/
theorem QuietFrame.mail {d d' : LocEngData α} (h : QuietFrame d d') : MailFrame d d' :=
  h.frame (fun _ => rfl) (fun _ => rfl) fun e he => by
    cases e <;> simp_all [Effect.quiet, Effect.silent]

theorem deferStop_mailFrame (d : LocEngData α) : MailFrame d (deferStop d) :=
  .of_log [.stopDeferred] (by simp [Effect.silent]) rfl rfl id

/-- The last cleanup leaves the mail alone. -/
theorem locEngDeinit_mailFrame (rc : Int) (d : LocEngData α) :
    MailFrame d (locEngDeinit rc d) := by
  have hstop : MailFrame d (locEngStop rc d) :=
    .ite (.refl d) (.ite (deferStop_mailFrame d) (stopNow_quietFrame rc d).mail)
  have hnav : MailFrame d
      (if d.navigating then { locEngStop rc d with navigating := false } else d) :=
    .ite (hstop.trans (.of_fields rfl rfl id)) (.refl d)
  refine .ite ?_ (.refl d)
  generalize (if d.navigating then { locEngStop rc d with navigating := false } else d) = e at hnav
  refine hnav.trans (.trans ?_ (.of_fields (d := if e.clientOpened then
    { e.emit (.locClose e.clientHandle) with clientOpened := false } else e) rfl rfl id))
  exact .ite ((Frame.emit e rfl rfl id).trans (.of_fields rfl rfl id)) (.refl e)

/-- Every piece of the deferred thread frames the slot, except the hand-over of
the event itself. -/
theorem Micro.run_mailFrame (rc : Int) (mute : Bool) (d : LocEngData α) (m : Micro α)
    (hm : ∀ e p, m ≠ .processLocEvent e p) : MailFrame d (m.run rc mute d) := by
  cases m with
  | processLocEvent e p => exact absurd rfl (hm e p)
  | processConnRequest r =>
    show MailFrame d (locEngProcessConnRequest r d)
    unfold locEngProcessConnRequest
    by_cases h : r.event = .open
    · rw [if_pos h]
      exact .of_fields rfl rfl id
    · rw [if_neg h]
      exact .of_fields rfl rfl id
  | handleDeferredStop =>
    have hdone : MailFrame d ({ d with agpsRequestPending := false }.emit .agpsRequestDone) :=
      .of_log [.agpsRequestDone] (by simp [Effect.silent]) rfl rfl id
    exact .ite (hdone.trans (.emit _ rfl rfl id)) hdone
  | _ => exact (Micro.run_quietFrame rc mute d _ rfl).mail

/-! ## The invariant and the run -/

/-- Nothing is lost, duplicated or reordered so far, and an event in the slot has
its flag up. -/
structure MailInv (s : EngState α) : Prop where
  conduit : Conduit (accepted s.data.log) (processed s.data.log)
    (inThread s.thread ++ inSlot s.data)
  flagged : s.data.locEvent ≠ 0 → s.data.deferredActionFlags.event = true

/-- The condition on a step: an event that `loc_event_cb` accepts has a nonzero
mask and finds the slot empty. -/
def slotFree (s : EngState α) : EngAct α → Prop
  | .locEventCb h m _ => acceptsEvent h m s.data = true → m ≠ 0 ∧ s.data.locEvent = 0
  | _ => True

instance (s : EngState α) : (a : EngAct α) → Decidable (slotFree s a)
  | .locEventCb _ _ _ => inferInstanceAs (Decidable (_ → _))
  | .deleteAidingData _ | .dataConn _ | .xtraStore _ | .xtraSignal | .agpsInit | .xtraInit
  | .start _ | .stopCheck | .stopDefer | .stopNow _ | .deinit _ | .quit | .top | .wake
  | .micro _ _ | .loop => .isTrue trivial

/-- What is in the slot is read off the mail. -/
theorem inSlot_congr {d d' : LocEngData α} (h : MailFrame d d') : inSlot d' = inSlot d := by
  unfold inSlot
  rw [MailFrame.locEvent_eq h, MailFrame.payload_eq h]

/-- A step that frames the slot and keeps the thread's event keeps the invariant. -/
theorem MailInv.frame {s s' : EngState α} (hi : MailInv s) (hf : MailFrame s.data s'.data)
    (ht : inThread s'.thread = inThread s.thread) : MailInv s' where
  conduit := by
    rw [MailFrame.accepted_eq hf, MailFrame.processed_eq hf, ht, inSlot_congr hf]
    exact hi.conduit
  flagged := by
    rw [MailFrame.locEvent_eq hf]
    exact hf.kept_of ∘ hi.flagged

@[simp] theorem inTodo_append (as bs : List (Micro α)) :
    inTodo (as ++ bs) = inTodo as ++ inTodo bs := List.filterMap_append

/-- The pieces for one event carry this event once. -/
theorem inTodo_locEngProcessLocEvent (m : EventMask) (p : EventPayload α) :
    inTodo (locEngProcessLocEvent m p) = [(m, p)] := by
  unfold locEngProcessLocEvent
  simp only [inTodo_append]
  split <;> split <;> split <;> split <;> split <;> rfl

/-- The pieces of one pass hold the copied event, once, if there is one. -/
theorem inTodo_iteration (l : Locals α) :
    inTodo (iteration l) = if l.locEvent ≠ 0 then [(l.locEvent, l.locEventPayload)] else [] := by
  have hevent : inTodo (if l.locEvent ≠ 0 then locEngProcessLocEvent l.locEvent l.locEventPayload
      else []) = if l.locEvent ≠ 0 then [(l.locEvent, l.locEventPayload)] else [] := by
    rw [apply_ite inTodo, inTodo_locEngProcessLocEvent]
    rfl
  unfold iteration
  simp only [inTodo_append, hevent]
  cases l.status <;> split <;> split <;> split <;> rfl

/-- Copying moves the event from the slot into the thread. -/
theorem MailInv.quitOrCopy {s : EngState α} {d : LocEngData α} (hi : MailInv s)
    (hf : MailFrame s.data d) (ht : inThread s.thread = []) :
    MailInv (LocEng.quitOrCopy s d) := by
  have hd : Conduit (accepted d.log) (processed d.log) (inSlot d) := by
    have hc := hi.conduit
    rwa [ht, List.nil_append, ← MailFrame.accepted_eq hf, ← MailFrame.processed_eq hf,
      ← inSlot_congr hf] at hc
  unfold LocEng.quitOrCopy
  by_cases hq : d.deferredActionFlags.quit = true
  · rw [if_pos hq]
    exact ⟨hd, by rw [MailFrame.locEvent_eq hf]; exact hf.kept_of ∘ hi.flagged⟩
  · rw [if_neg hq]
    refine ⟨?_, fun h => absurd rfl h⟩
    show Conduit (accepted d.log) (processed d.log)
      (inTodo (iteration (copyLocals d).1) ++ inSlot (copyLocals d).2)
    rw [inTodo_iteration]
    have hempty : inSlot (copyLocals d).2 = [] := if_neg (by simp [copyLocals])
    rw [hempty, List.append_nil]
    exact hd

/-- Storing an event in an empty slot appends it to what is held. -/
theorem MailInv.locEventCb {s : EngState α} (hi : MailInv s) (h : Int) (m : EventMask)
    (p : EventPayload α) (hok : slotFree s (.locEventCb h m p)) :
    MailInv { s with data := LocEng.locEventCb h m p s.data } := by
  unfold LocEng.locEventCb
  by_cases hacc : acceptsEvent h m s.data = true
  · obtain ⟨hm, hfree⟩ := hok hacc
    have hslot : inSlot s.data = [] := if_neg (by simpa using hfree)
    rw [if_pos hacc]
    refine ⟨?_, fun _ => rfl⟩
    have hput := hi.conduit.put (m, p)
    rw [hslot, List.append_nil] at hput
    have hnew : inSlot ((raise (fun f => { f with event := true })
        { s.data with locEvent := m, locEventPayload := p }).emit (.accept m p)) = [(m, p)] :=
      if_pos hm
    rw [hnew]
    show Conduit (accepted (s.data.log ++ [Effect.accept m p]))
      (processed (s.data.log ++ [Effect.accept m p])) (inThread s.thread ++ [(m, p)])
    simpa [accepted, processed] using hput
  · rw [if_neg hacc]
    exact hi

/-- Running a piece either hands the held event on or frames the slot. -/
theorem MailInv.micro {s : EngState α} {m : Micro α} {todo : List (Micro α)} (hi : MailInv s)
    (ht : s.thread = .running (m :: todo)) (rc : Int) (mute : Bool) :
    MailInv { s with data := m.run rc mute s.data, thread := .running todo } := by
  by_cases hm : ∃ e p, m = .processLocEvent e p
  · obtain ⟨e, p, rfl⟩ := hm
    refine ⟨?_, hi.flagged⟩
    have hc := hi.conduit
    rw [ht] at hc
    have htake := (show Conduit _ _ ((e, p) :: (inTodo todo ++ inSlot s.data)) from hc).take
    show Conduit (accepted (s.data.log ++ [Effect.process e p]))
      (processed (s.data.log ++ [Effect.process e p])) (inTodo todo ++ inSlot s.data)
    simpa [accepted, processed] using htake
  · have hne : ∀ e p, m ≠ .processLocEvent e p := fun e p h => hm ⟨e, p, h⟩
    refine hi.frame (Micro.run_mailFrame rc mute s.data m hne) ?_
    show inTodo todo = inThread s.thread
    rw [ht]
    cases m <;> first | rfl | exact absurd rfl (hne _ _)

/-- Every permitted step keeps the invariant. -/
theorem MailInv.step {s s' : EngState α} {a : EngAct α} (hok : slotFree s a)
    (h : engStep s a = some s') (hi : MailInv s) : MailInv s' := by
  cases engStep_cases h with
  | locEventCb c m p => exact hi.locEventCb c m p hok
  | deleteAidingData f => exact hi.frame (locEngDeleteAidingData_quietFrame f _).mail rfl
  | dataConn r => exact hi.frame (locEngDataConn_quietFrame r _).mail rfl
  | xtraStore buf => exact hi.frame (xtraStore_quietFrame buf _).mail rfl
  | xtraSignal _ => exact hi.frame (xtraSignal_quietFrame _).mail rfl
  | agpsInit => exact hi.frame (.of_fields rfl rfl id) rfl
  | xtraInit => exact hi.frame (.of_fields rfl rfl id) rfl
  | start rc =>
    have hrpc : MailFrame s.data (s.data.emit (.startFix rc)) := .emit _ rfl rfl id
    exact hi.frame (.ite (.refl _) (.ite hrpc (hrpc.trans (.of_fields rfl rfl id)))) rfl
  | stopUninit _ _ => exact hi
  | stopPending _ _ => exact hi.frame (.refl _) rfl
  | stopDirect _ _ => exact hi.frame (.refl _) rfl
  | stopDefer _ => exact hi.frame (deferStop_mailFrame _) rfl
  | stopNow rc _ => exact hi.frame (stopNow_quietFrame rc _).mail rfl
  | deinit rc _ => exact hi.frame (locEngDeinit_mailFrame rc _) rfl
  | quit _ => exact hi.frame (.of_fields rfl rfl id) rfl
  | topWait ht _ => exact hi.frame (.of_fields rfl rfl id) (by rw [ht]; rfl)
  | topCopy ht _ => exact hi.quitOrCopy (.refl _) (by rw [ht]; rfl)
  | wake ht => exact hi.quitOrCopy (.of_fields rfl rfl id) (by rw [ht]; rfl)
  | micro rc mute ht _ => exact hi.micro ht rc mute
  | loop ht => exact hi.frame (.refl _) (by rw [ht]; rfl)

theorem MailInv.engInit [Inhabited α] (cb : GpsCallbacks) (handle : Int) :
    MailInv (engInit α cb handle) :=
  ⟨Conduit.nil, fun h => absurd rfl h⟩

/-- **Events are delivered in order.** In every run in which each accepted event
has a nonzero mask and finds the slot empty, what the deferred thread processed
is a prefix of what `loc_event_cb` accepted, and all of it whenever the thread
waits with no flag set. -/
theorem events_delivered_in_order [Inhabited α] (cb : GpsCallbacks) (handle : Int)
    {as : List (EngAct α)} {s : EngState α}
    (h : exec (restrict slotFree engStep) (engInit α cb handle) as = some s) :
    processed s.data.log <+: accepted s.data.log ∧
      (s.thread = .waiting → s.data.deferredActionFlags = .zero →
        processed s.data.log = accepted s.data.log) := by
  have hi : MailInv s := exec_restrict_invariant
    (fun s a s' hok hst hi => hi.step hok hst) (MailInv.engInit cb handle) h
  refine ⟨hi.conduit.delivered_prefix, fun ht hf => ?_⟩
  have hslot : inSlot s.data = [] := by
    refine if_neg fun hne => ?_
    have hflag := hi.flagged hne
    rw [hf] at hflag
    cases hflag
  have hc := hi.conduit
  rw [ht, hslot] at hc
  exact Conduit.delivered_eq hc

/-- A pass of the thread over an event of one report bit, from the copy back to
the wait. -/
def passOverReport : List (EngAct Unit) :=
  [.micro 0 false, .micro 0 false, .micro 0 false, .micro 0 false, .micro 0 false, .loop, .top]

/-- Two reports, the second after the thread is back in its wait. -/
def twoReports : List (EngAct Unit) :=
  [EngAct.locEventCb 1 parsedPositionReport default, .top] ++ passOverReport ++
    [EngAct.locEventCb 1 satelliteReport default, .wake] ++ passOverReport

/-- Two reports before the thread gets to run. -/
def burst : List (EngAct Unit) :=
  [EngAct.locEventCb 1 parsedPositionReport default, .locEventCb 1 satelliteReport default, .top] ++
    passOverReport

theorem events_delivered_in_order_two_reports :
    ∃ s, exec (restrict slotFree engStep) (engInit Unit ⟨true, true⟩ 1) twoReports = some s ∧
      s.thread = .waiting ∧ processed s.data.log <+: accepted s.data.log ∧
      (s.thread = .waiting → s.data.deferredActionFlags = .zero →
        processed s.data.log = accepted s.data.log) := by
  have hrun : (exec (restrict slotFree engStep) (engInit Unit ⟨true, true⟩ 1) twoReports).any
      (fun s => s.thread = .waiting) = true := by decide
  obtain ⟨s, hs, ht⟩ := (Option.any_eq_true _ _).mp hrun
  exact ⟨s, hs, by simpa using ht, events_delivered_in_order ⟨true, true⟩ 1 hs⟩

/-- Two events stored before the thread runs: the first is overwritten, and the
thread goes back to its wait without having seen it. -/
theorem events_lost_in_burst :
    ∃ s, exec engStep (engInit Unit ⟨true, true⟩ 1) burst = some s ∧
      s.thread = .waiting ∧ s.data.deferredActionFlags = .zero ∧
      ¬ processed s.data.log <+: accepted s.data.log := by
  have hrun : (exec engStep (engInit Unit ⟨true, true⟩ 1) burst).any (fun s =>
      s.thread = .waiting ∧ s.data.deferredActionFlags = .zero ∧
        ¬ processed s.data.log <+: accepted s.data.log) = true := by decide
  obtain ⟨s, hs, h⟩ := (Option.any_eq_true _ _).mp hrun
  exact ⟨s, hs, by simpa using h⟩

end Ancora.LocEng
