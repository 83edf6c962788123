import Mathlib.Logic.Function.Basic
import Ancora.Lib.Machine

/-!
# Preview frames (cameraHAL.cpp)

For each frame of the preview the hardware calls `wrap_queue_buffer_hook` on a thread of
its own: it takes a buffer from the window, locks it, copies the frame, unlocks it and
gives it back to the window. `camera_set_preview_window` runs on another thread and may
change the window and load gralloc at any point in between.

- The hook is stepwise (`Hook`); its window is the one it read at the start.
- `log` is what the window and gralloc saw; `outstanding` counts the buffers a window has
  handed out and not got back. A window hands out no more buffers than it has.
- **`buffers_given_back_iff`**: whenever no frame is being worked on, every buffer is back
  and every lock undone, exactly if for each buffer that was handed out gralloc is loaded,
  `lock` succeeds and `enqueue_buffer` succeeds.
-/

namespace Ancora.Camera.Frames

open Machine

/-- What happens to the buffers `b` of the windows `w`. -/
inductive BufferEvent
  | dequeued (w b : Nat)
  | enqueued (w b : Nat)
  | locked (b : Nat)
  | unlocked (b : Nat)
  deriving DecidableEq, Repr

/-- Where `wrap_queue_buffer_hook` is. -/
inductive Hook
  /-- Not running. -/
  | idle
  /-- About to get the preview heap. -/
  | started (w : Nat)
  /-- About to dequeue a buffer. -/
  | ready (w : Nat)
  | dequeued (w b : Nat)
  | locked (w b : Nat)
  | unlocked (w b : Nat)
  /-- Called `lock` through `dev->gralloc == NULL`. -/
  | crashed (w b : Nat)
  deriving DecidableEq, Repr

/-- No frame is being worked on. -/
def Hook.over : Hook → Bool
  | .idle => true
  | .crashed _ _ => true
  | _ => false

/-- The device, its windows and the two threads. -/
structure State where
  /-- `dev->window` -/
  window : Option Nat
  /-- `dev->gralloc` is not NULL. -/
  gralloc : Bool
  hook : Hook
  /-- The window that `camera_set_preview_window` is working on. -/
  setting : Option Nat
  /-- The number of buffers of each window. -/
  bufferCount : Nat → Nat
  log : List BufferEvent

/-- A device that was just opened, and windows as they are. -/
def start (bufferCount : Nat → Nat) : State where
  window := none
  gralloc := false
  hook := .idle
  setting := none
  bufferCount := bufferCount
  log := []

def BufferEvent.isDequeuedFrom (w : Nat) : BufferEvent → Bool
  | .dequeued w' _ => w' == w
  | _ => false

def BufferEvent.isEnqueuedTo (w : Nat) : BufferEvent → Bool
  | .enqueued w' _ => w' == w
  | _ => false

/-- The buffers window `w` has handed out and not got back. -/
def outstanding (log : List BufferEvent) (w : Nat) : Nat :=
  log.countP (·.isDequeuedFrom w) - log.countP (·.isEnqueuedTo w)

/-! ## The code -/

/-- What the calls made by `camera_set_preview_window` return. -/
structure WindowCalls where
  /-- `hw_get_module` finds gralloc. -/
  getModule : Bool
  /-- `get_min_undequeued_buffer_count` succeeds. -/
  getMinUndequeued : Bool
  /-- `set_buffer_count` succeeds. -/
  setBufferCount : Bool
  /-- `set_buffers_geometry` succeeds. -/
  setBuffersGeometry : Bool
  deriving DecidableEq, Repr

/-- `kBufferCount` -/
def kBufferCount : Nat := 6

/-- The rest of `camera_set_preview_window` with a window (cameraHAL.cpp:420), once
`dev->window` is set. -/
def cameraSetPreviewWindow (s : State) (w : Nat) (c : WindowCalls) : Int × State :=
  let s := { s with gralloc := s.gralloc || c.getModule, setting := none }
  if c.getMinUndequeued = false then (-1, s)
  else if c.setBufferCount = false then (-1, s)
  else
    let s := { s with bufferCount := Function.update s.bufferCount w kBufferCount }
    if c.setBuffersGeometry = false then (-1, s) else (0, s)

/-- The steps of the two threads. -/
inductive Act
  /-- The hook is called; `data` is not NULL. -/
  | frame (data : Bool)
  | getPreviewHeap (found : Bool)
  | dequeueBuffer (buffer : Option Nat)
  | lock (ok : Bool)
  | unlock
  | enqueueBuffer (ok : Bool)
  /-- `camera_set_preview_window` sets `dev->window`. -/
  | setWindow (window : Option Nat)
  /-- The rest of `camera_set_preview_window`. -/
  | configure (calls : WindowCalls)
  deriving DecidableEq, Repr

/-- One step, as long as the process is there. -/
def liveStep (s : State) : Act → Option State
  | .frame data =>
    if s.hook = .idle then
      match s.window with
      | some w => some (if data then { s with hook := .started w } else s)
      | none => some s
    else none
  | .getPreviewHeap found =>
    match s.hook with
    | .started w => some { s with hook := if found then .ready w else .idle }
    | _ => none
  | .dequeueBuffer buffer =>
    match s.hook, buffer with
    | .ready w, some b =>
      if outstanding s.log w < s.bufferCount w then
        some { s with hook := .dequeued w b, log := s.log ++ [.dequeued w b] }
      else none
    | .ready _, none => some { s with hook := .idle }
    | _, _ => none
  | .lock ok =>
    match s.hook with
    | .dequeued w b =>
      if s.gralloc = false then some { s with hook := .crashed w b }
      else if ok then some { s with hook := .locked w b, log := s.log ++ [.locked b] }
      else some { s with hook := .idle }
    | _ => none
  | .unlock =>
    match s.hook with
    | .locked w b => some { s with hook := .unlocked w b, log := s.log ++ [.unlocked b] }
    | _ => none
  | .enqueueBuffer ok =>
    match s.hook with
    | .unlocked w b =>
      some { s with hook := .idle, log := if ok then s.log ++ [.enqueued w b] else s.log }
    | _ => none
  | .setWindow window =>
    if s.setting = none then some { s with window := window, setting := window } else none
  | .configure calls =>
    match s.setting with
    | some w => some (cameraSetPreviewWindow s w calls).2
    | none => none

/-- One step; nothing runs after a crash. -/
def step (s : State) (a : Act) : Option State :=
  match s.hook with
  | .crashed _ _ => none
  | _ => liveStep s a

/-! ## Conservation -/

/-- Every buffer handed out is back with its window, and every lock undone. -/
structure GivenBack (log : List BufferEvent) : Prop where
  buffers : ∀ w b, log.count (.dequeued w b) = log.count (.enqueued w b)
  none_outstanding : ∀ w, outstanding log w = 0
  locks : ∀ b, log.count (.locked b) = log.count (.unlocked b)

/-- Whenever no frame is being worked on. -/
def Settled (s : State) : Prop := s.hook.over = true → GivenBack s.log

/-- For each buffer handed out, gralloc is there and the two calls succeed. -/
def bufferReturns (s : State) : Act → Prop
  | .lock ok => s.gralloc = true ∧ ok = true
  | .enqueueBuffer ok => ok = true
  | _ => True

instance (s : State) : (a : Act) → Decidable (bufferReturns s a)
  | .lock _ => inferInstanceAs (Decidable (_ ∧ _))
  | .enqueueBuffer _ => inferInstanceAs (Decidable (_ = _))
  | .frame _ | .getPreviewHeap _ | .dequeueBuffer _ | .unlock | .setWindow _ | .configure _ =>
    .isTrue trivial

/-- The buffer that the hook has. -/
def Hook.buffer : Hook → Option (Nat × Nat)
  | .dequeued w b => some (w, b)
  | .locked w b => some (w, b)
  | .unlocked w b => some (w, b)
  | .crashed w b => some (w, b)
  | _ => none

/-- The buffer that the hook has locked. -/
def Hook.lock : Hook → Option Nat
  | .locked _ b => some b
  | _ => none

/-- The log accounts for everything but one buffer and one lock. -/
structure Balanced (log : List BufferEvent) (buffer : Option (Nat × Nat)) (lock : Option Nat) :
    Prop where
  buffers : ∀ w b, log.count (.dequeued w b) =
    log.count (.enqueued w b) + if buffer = some (w, b) then 1 else 0
  windows : ∀ w, log.countP (·.isDequeuedFrom w) =
    log.countP (·.isEnqueuedTo w) + if buffer.map Prod.fst = some w then 1 else 0
  locks : ∀ b, log.count (.locked b) = log.count (.unlocked b) + if lock = some b then 1 else 0

section Log

variable {log : List BufferEvent} {buffer : Option (Nat × Nat)} {lock : Option Nat} {w b : Nat}

theorem balanced_nil : Balanced [] none none := ⟨fun _ _ => rfl, fun _ => rfl, fun _ => rfl⟩

/-- An event that moves the buffer or the lock from `buffer` and `lock` to others. -/
theorem Balanced.append {e : BufferEvent} {buffer' : Option (Nat × Nat)} {lock' : Option Nat}
    (h : Balanced log buffer lock)
    (hbuffer : ∀ w b, [e].count (.dequeued w b) + (if buffer = some (w, b) then 1 else 0) =
      [e].count (.enqueued w b) + if buffer' = some (w, b) then 1 else 0)
    (hwindow : ∀ w, [e].countP (·.isDequeuedFrom w) +
        (if buffer.map Prod.fst = some w then 1 else 0) =
      [e].countP (·.isEnqueuedTo w) + if buffer'.map Prod.fst = some w then 1 else 0)
    (hlock : ∀ b, [e].count (.locked b) + (if lock = some b then 1 else 0) =
      [e].count (.unlocked b) + if lock' = some b then 1 else 0) :
    Balanced (log ++ [e]) buffer' lock' := by
  constructor
  · intro w b
    have hold := h.buffers w b
    have hnew := hbuffer w b
    rw [List.count_append, List.count_append]
    omega
  · intro w
    have hold := h.windows w
    have hnew := hwindow w
    rw [List.countP_append, List.countP_append]
    omega
  · intro b
    have hold := h.locks b
    have hnew := hlock b
    rw [List.count_append, List.count_append]
    omega

theorem Balanced.dequeued (h : Balanced log none lock) :
    Balanced (log ++ [.dequeued w b]) (some (w, b)) lock := by
  refine h.append (fun w' b' => ?_) (fun w' => ?_) (fun b' => ?_)
  · simp [List.count_singleton]
  · simp [BufferEvent.isDequeuedFrom, BufferEvent.isEnqueuedTo]
  · simp

theorem Balanced.enqueued (h : Balanced log (some (w, b)) lock) :
    Balanced (log ++ [.enqueued w b]) none lock := by
  refine h.append (fun w' b' => ?_) (fun w' => ?_) (fun b' => ?_)
  · simp [List.count_singleton]
  · simp [BufferEvent.isDequeuedFrom, BufferEvent.isEnqueuedTo]
  · simp

theorem Balanced.locked (h : Balanced log buffer none) :
    Balanced (log ++ [.locked b]) buffer (some b) := by
  refine h.append (fun w' b' => ?_) (fun w' => ?_) (fun b' => ?_)
  · simp
  · simp [BufferEvent.isDequeuedFrom, BufferEvent.isEnqueuedTo]
  · simp [List.count_singleton]

theorem Balanced.unlocked (h : Balanced log buffer (some b)) :
    Balanced (log ++ [.unlocked b]) buffer none := by
  refine h.append (fun w' b' => ?_) (fun w' => ?_) (fun b' => ?_)
  · simp
  · simp [BufferEvent.isDequeuedFrom, BufferEvent.isEnqueuedTo]
  · simp [List.count_singleton]

/-- With nothing left over, everything is back. -/
theorem Balanced.givenBack (h : Balanced log none none) : GivenBack log where
  buffers w b := (h.buffers w b).trans (Nat.add_zero _)
  none_outstanding w := by
    have hcount := h.windows w
    unfold outstanding
    simp_all
  locks b := (h.locks b).trans (Nat.add_zero _)

/-- A buffer left over is not back. -/
theorem Balanced.not_givenBack (h : Balanced log (some (w, b)) lock) : ¬ GivenBack log := by
  intro hback
  have hcount := h.buffers w b
  rw [hback.buffers w b, if_pos rfl] at hcount
  omega

end Log

section Run

variable {s s' : State}

/-- What holds in every state of a run whose buffers return. -/
def Inv (s : State) : Prop := Balanced s.log s.hook.buffer s.hook.lock

/-- As long as there was no crash, a log that accounts for what the hook has is settled. -/
theorem Inv.settled (h : Inv s) (hlive : ∀ w b, s.hook ≠ .crashed w b) : Settled s := by
  intro hover
  unfold Inv at h
  cases hk : s.hook with
  | idle =>
    rw [hk] at h
    exact h.givenBack
  | crashed w b => exact absurd hk (hlive w b)
  | started w => rw [hk] at hover; cases hover
  | ready w => rw [hk] at hover; cases hover
  | dequeued w b => rw [hk] at hover; cases hover
  | locked w b => rw [hk] at hover; cases hover
  | unlocked w b => rw [hk] at hover; cases hover

/-- A step about which nothing is asked. -/
theorem Inv.free (h : Inv s) (hlive : ∀ w b, s.hook ≠ .crashed w b) :
    (Settled s ↔ True) ∧ (True → Inv s) :=
  ⟨iff_of_true (h.settled hlive) trivial, fun _ => h⟩

/-- A frame that is over with its buffer. -/
theorem not_settled {w b : Nat} (h : Balanced s.log (some (w, b)) none)
    (hover : s.hook.over = true) : ¬ Settled s :=
  fun hsettled => h.not_givenBack (hsettled hover)

theorem Inv.lock {ok : Bool} (h : Inv s) (hs : Frames.liveStep s (.lock ok) = some s') :
    (Settled s' ↔ bufferReturns s (.lock ok)) ∧ (bufferReturns s (.lock ok) → Inv s') := by
  unfold Inv at h
  simp only [Frames.liveStep] at hs
  split at hs
  case h_2 => cases hs
  case h_1 w b hk =>
    rw [hk] at h
    split at hs
    case isTrue hnull =>
      -- `dev->gralloc` is NULL
      cases hs
      have hnot : ¬ bufferReturns s (.lock ok) := by
        rintro ⟨hload, -⟩
        rw [hnull] at hload
        cases hload
      exact ⟨iff_of_false (not_settled h rfl) hnot, fun hret => absurd hret hnot⟩
    case isFalse hload =>
      rw [Bool.not_eq_false] at hload
      cases ok with
      | true =>
        cases hs
        have hinv : Inv { s with hook := .locked w b, log := s.log ++ [.locked b] } :=
          Balanced.locked h
        exact ⟨iff_of_true (hinv.settled nofun) ⟨hload, rfl⟩, fun _ => hinv⟩
      | false =>
        cases hs
        have hnot : ¬ bufferReturns s (.lock false) := fun hret => Bool.false_ne_true hret.2
        exact ⟨iff_of_false (not_settled h rfl) hnot, fun hret => absurd hret hnot⟩

theorem Inv.enqueueBuffer {ok : Bool} (h : Inv s)
    (hs : Frames.liveStep s (.enqueueBuffer ok) = some s') :
    (Settled s' ↔ bufferReturns s (.enqueueBuffer ok)) ∧
      (bufferReturns s (.enqueueBuffer ok) → Inv s') := by
  unfold Inv at h
  simp only [Frames.liveStep] at hs
  split at hs
  case h_2 => cases hs
  case h_1 w b hk =>
    rw [hk] at h
    cases ok with
    | true =>
      cases hs
      have hinv : Inv { s with hook := .idle, log := s.log ++ [.enqueued w b] } :=
        Balanced.enqueued h
      exact ⟨iff_of_true (hinv.settled nofun) rfl, fun _ => hinv⟩
    | false =>
      cases hs
      have hnot : ¬ bufferReturns s (.enqueueBuffer false) := Bool.false_ne_true
      exact ⟨iff_of_false (not_settled h rfl) hnot, fun hret => absurd hret hnot⟩

/-- A frame that comes leaves its buffer to the next steps. -/
theorem Inv.frame {data : Bool} (h : Inv s) (hlive : ∀ w b, s.hook ≠ .crashed w b)
    (hs : Frames.liveStep s (.frame data) = some s') : (Settled s' ↔ True) ∧ (True → Inv s') := by
  have hbal : Balanced s.log s.hook.buffer s.hook.lock := h
  simp only [liveStep] at hs
  split at hs
  case isFalse => cases hs
  case isTrue hk =>
    rw [hk] at hbal
    split at hs
    case h_2 =>
      cases hs
      exact h.free hlive
    case h_1 w hw =>
      cases data with
      | true =>
        cases hs
        exact Inv.free hbal nofun
      | false =>
        cases hs
        exact h.free hlive

/-- The window hands out a buffer, or none. -/
theorem Inv.dequeueBuffer {buffer : Option Nat} (h : Inv s)
    (hs : Frames.liveStep s (.dequeueBuffer buffer) = some s') :
    (Settled s' ↔ True) ∧ (True → Inv s') := by
  have hbal : Balanced s.log s.hook.buffer s.hook.lock := h
  simp only [liveStep] at hs
  split at hs
  case h_1 w b hk =>
    rw [hk] at hbal
    split at hs
    case isFalse => cases hs
    case isTrue =>
      cases hs
      exact Inv.free hbal.dequeued nofun
  case h_2 w hk =>
    cases hs
    rw [hk] at hbal
    exact Inv.free hbal nofun
  case h_3 => cases hs

/-- Configuring the window touches no frame. -/
theorem Inv.configure {calls : WindowCalls} (h : Inv s) (hlive : ∀ w b, s.hook ≠ .crashed w b)
    (hs : Frames.liveStep s (.configure calls) = some s') :
    (Settled s' ↔ True) ∧ (True → Inv s') := by
  simp only [liveStep] at hs
  split at hs
  case h_2 => cases hs
  case h_1 w hw =>
    cases hs
    have hsame : ∀ t : Int × State, t.2.log = s.log → t.2.hook = s.hook →
        (Settled t.2 ↔ True) ∧ (True → Inv t.2) := by
      intro t hlog hhook
      refine Inv.free ?_ (hhook ▸ hlive)
      unfold Inv
      rw [hlog, hhook]
      exact h
    unfold cameraSetPreviewWindow
    split
    · exact hsame _ rfl rfl
    · split
      · exact hsame _ rfl rfl
      · split
        · exact hsame _ rfl rfl
        · exact hsame _ rfl rfl

/-- A step leaves everything settled exactly if the buffer returns, and then the log goes on
accounting for what the hook has. -/
theorem Inv.step_iff {a : Act} (h : Inv s) (hs : step s a = some s') :
    (Settled s' ↔ bufferReturns s a) ∧ (bufferReturns s a → Inv s') := by
  have hlive : ∀ w b, s.hook ≠ .crashed w b := by
    intro w b hk
    rw [step, hk] at hs
    cases hs
  replace hs : liveStep s a = some s' := by
    rw [step] at hs
    split at hs
    · cases hs
    · exact hs
  have hbal : Balanced s.log s.hook.buffer s.hook.lock := h
  cases a with
  | lock ok => exact h.lock hs
  | enqueueBuffer ok => exact h.enqueueBuffer hs
  | frame data => exact h.frame hlive hs
  | getPreviewHeap found =>
    simp only [liveStep] at hs
    split at hs
    case h_2 => cases hs
    case h_1 w hk =>
      rw [hk] at hbal
      cases found with
      | true =>
        cases hs
        exact Inv.free hbal nofun
      | false =>
        cases hs
        exact Inv.free hbal nofun
  | dequeueBuffer buffer => exact h.dequeueBuffer hs
  | unlock =>
    simp only [liveStep] at hs
    split at hs
    case h_2 => cases hs
    case h_1 w b hk =>
      rw [hk] at hbal
      cases hs
      exact Inv.free hbal.unlocked nofun
  | setWindow window =>
    simp only [liveStep] at hs
    split at hs
    case isFalse => cases hs
    case isTrue =>
      cases hs
      exact Inv.free hbal hlive
  | configure calls => exact h.configure hlive hs

end Run

/-- **Preview buffers are conserved**: through every interleaving of frames and
`camera_set_preview_window`, every buffer is back with its window and every lock undone
whenever no frame is being worked on, exactly if for each buffer that was handed out gralloc
is loaded and `lock` and `enqueue_buffer` succeed. -/
theorem buffers_given_back_iff {bufferCount : Nat → Nat} {as : List Act} {s : State}
    {states : List State}
    (hrun : exec (observe (fun _ _ s' => [s']) step) (start bufferCount, []) as =
      some (s, states)) :
    (∀ t ∈ states, Settled t) ↔
      exec (restrict bufferReturns step) (start bufferCount) as = some s := by
  have hstep : ∀ s a s', Inv s → step s a = some s' →
      ((∀ t ∈ [s'], Settled t) ↔ bufferReturns s a) := by
    intro s a s' hs hst
    rw [List.forall_mem_singleton]
    exact (hs.step_iff hst).1
  have hkeep : ∀ s a s', Inv s → bufferReturns s a → step s a = some s' → Inv s' :=
    fun s a s' hs hret hst => (hs.step_iff hst).2 hret
  have hstart : Inv (start bufferCount) := balanced_nil
  rw [observe_forall_iff_of_inv hstep hkeep hstart hrun]
  exact and_iff_right nofun

/-- A window is set and configured, its frame goes through while the window is taken away,
and the next frame finds none. -/
theorem buffers_given_back_one_frame :
    ∃ s states,
      exec (observe (fun _ _ s' => [s']) step) (start fun _ => 0, [])
        [.setWindow (some 3), .configure ⟨true, true, true, true⟩, .frame true,
          .getPreviewHeap true, .dequeueBuffer (some 5), .setWindow none, .lock true, .unlock,
          .enqueueBuffer true, .frame true] = some (s, states) ∧
      s.log = [.dequeued 3 5, .locked 5, .unlocked 5, .enqueued 3 5] ∧
      ∀ t ∈ states, Settled t := by
  have hrun : exec (observe (fun _ _ s' => [s']) step) (start fun _ => 0, [])
      [.setWindow (some 3), .configure ⟨true, true, true, true⟩, .frame true,
        .getPreviewHeap true, .dequeueBuffer (some 5), .setWindow none, .lock true, .unlock,
        .enqueueBuffer true, .frame true] = some _ := rfl
  exact ⟨_, _, hrun, rfl, (buffers_given_back_iff hrun).mpr rfl⟩

/-- `lock` fails, and the hook returns with the buffer. -/
theorem failed_lock_keeps_the_buffer :
    ¬ ∀ (bufferCount : Nat → Nat) (as : List Act) (s : State) (states : List State),
      exec (observe (fun _ _ s' => [s']) step) (start bufferCount, []) as = some (s, states) →
      ∀ t ∈ states, Settled t := by
  intro hall
  have hrun : exec (observe (fun _ _ s' => [s']) step) (start fun _ => 0, [])
      [.setWindow (some 3), .configure ⟨true, true, true, true⟩, .frame true,
        .getPreviewHeap true, .dequeueBuffer (some 5), .lock false] = some _ := rfl
  have hlast := hall _ _ _ _ hrun _ (List.mem_append_right _ List.mem_cons_self)
  have hback := (hlast rfl).buffers 3 5
  exact absurd hback (by decide)

end Ancora.Camera.Frames
