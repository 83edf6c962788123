import Ancora.LocEng.Pieces

/-!
# The wake lock

`acquire_wakelock_cb` and `release_wakelock_cb` set and clear one Boolean. Every
producer of a deferred action acquires it together with its flag, under
`deferred_action_mutex`; the deferred thread releases it when it finds no flag
and goes to wait, and acquires it again when the wait returns.

- `WakeLockKept s`: work is pending or under way only with the lock held, and a
  thread that waits with nothing to do does not hold it.
- **`wake_lock_kept`**: it holds in every state of a lifecycle until the thread
  takes QUIT, under any interleaving of all producers.
-/

namespace Ancora.LocEng

open Machine

variable {α : Type} {s s' : EngState α} {a : EngAct α}

/-- The lock is held while there is something to do, and not while the thread
sleeps. -/
structure WakeLockKept (s : EngState α) : Prop where
  pending : s.data.deferredActionFlags ≠ .zero → s.data.wakeLock = true
  processing : ∀ todo, s.thread = .running todo → s.data.wakeLock = true
  asleep : s.thread = .waiting → s.data.deferredActionFlags = .zero → s.data.wakeLock = false

/-- A step of a producer or of a piece keeps the discipline, wherever the thread
is. -/
theorem WakeLockKept.raises (hi : WakeLockKept s) (hr : RaisesOrKeeps s.data s'.data)
    (hwait : s'.thread = .waiting → s.thread = .waiting)
    (hrun : ∀ todo, s'.thread = .running todo → ∃ todo', s.thread = .running todo') :
    WakeLockKept s' := by
  rcases hr with ⟨hflags, -, hlock⟩ | ⟨hflags, -, hlock⟩
  · refine ⟨?_, ?_, ?_⟩
    · rw [hflags, hlock]
      exact hi.pending
    · intro todo ht
      obtain ⟨todo', ht'⟩ := hrun todo ht
      rw [hlock]
      exact hi.processing todo' ht'
    · intro ht
      rw [hflags, hlock]
      exact hi.asleep (hwait ht)
  · exact ⟨fun _ => hlock, fun _ _ => hlock, fun _ hzero => absurd hzero hflags⟩

/-- Past the wait the lock is held, so the thread goes into its pass with it. -/
theorem WakeLockKept.quitOrCopy {d : LocEngData α} (hlock : d.wakeLock = true)
    (hq : (quitOrCopy s d).thread ≠ .done) : WakeLockKept (quitOrCopy s d) := by
  unfold LocEng.quitOrCopy at hq ⊢
  by_cases hquit : d.deferredActionFlags.quit = true
  · rw [if_pos hquit] at hq
    exact absurd rfl hq
  · rw [if_neg hquit]
    exact ⟨fun _ => hlock, fun _ _ => hlock, nofun⟩

theorem EngStep.thread_ne_done (h : EngStep s a s') (hq : s'.thread ≠ .done) :
    s.thread ≠ .done := by
  cases h with
  | topWait ht _ => rw [ht]; exact nofun
  | topCopy ht _ => rw [ht]; exact nofun
  | wake ht => rw [ht]; exact nofun
  | micro _ _ ht _ => rw [ht]; exact nofun
  | loop ht => rw [ht]; exact nofun
  | _ => exact hq

theorem WakeLockKept.step (h : engStep s a = some s') (hi : s.thread ≠ .done → WakeLockKept s)
    (hq : s'.thread ≠ .done) : WakeLockKept s' := by
  have hst := engStep_cases h
  have hi := hi (hst.thread_ne_done hq)
  by_cases ha : a.atWait = false
  · have hr := hst.raises ha
    cases hst with
    | micro rc mute ht _ => exact hi.raises hr nofun fun _ _ => ⟨_, ht⟩
    | loop ht => exact hi.raises hr nofun nofun
    | topWait | topCopy | wake => cases ha
    | _ => exact hi.raises hr id fun todo ht => ⟨todo, ht⟩
  · cases hst with
    | xtraSignal _ =>
      show WakeLockKept { s with data := xtraSignal s.data, xtraProxies := _ }
      unfold LocEng.xtraSignal
      split <;> exact ⟨hi.pending, hi.processing, hi.asleep⟩
    | topWait _ hf => exact ⟨fun hne => absurd hf hne, nofun, fun _ _ => rfl⟩
    | topCopy _ hf => exact .quitOrCopy (hi.pending hf) hq
    | wake _ => exact .quitOrCopy rfl hq
    | _ => exact absurd rfl ha

/-- The state in which `loc_eng_init` returns, whatever came before it. -/
def lifecycle [Inhabited α] (cb : GpsCallbacks) (handle rc : Int) (d : LocEngData α) :
    EngState α :=
  { engInit α cb handle with data := locEngInit cb handle rc d }

/-- **The wake lock follows the work.** In every state of a lifecycle before the
thread takes QUIT, under any interleaving: a pending flag and a pass in progress
imply that the lock is held, and a thread that waits with no flag set does not
hold it. -/
theorem wake_lock_kept [Inhabited α] (cb : GpsCallbacks) (handle rc : Int) (d : LocEngData α)
    {as : List (EngAct α)} {s : EngState α}
    (h : exec engStep (lifecycle cb handle rc d) as = some s) (hq : s.thread ≠ .done) :
    WakeLockKept s := by
  have hinit : WakeLockKept (lifecycle cb handle rc d) := ⟨fun hne => absurd rfl hne, nofun, nofun⟩
  have hi : s.thread ≠ .done → WakeLockKept s :=
    exec_invariant (fun s a s' hst hi => WakeLockKept.step hst hi) (fun _ => hinit) h
  exact hi hq

/-- An event is stored, the XTRA proxy signals, the thread makes its pass over
the event and waits again; a spurious wake-up follows. -/
def eventThenSpurious : List (EngAct Unit) :=
  [EngAct.top, .locEventCb 1 parsedPositionReport default, .xtraStore none, .xtraSignal, .wake] ++
    List.replicate 5 (EngAct.micro 0 false) ++ [EngAct.loop, .top, .wake]

theorem wake_lock_kept_event_then_spurious :
    ∃ s, exec engStep (lifecycle ⟨true, true⟩ 1 0 (LocEngData.boot Unit)) eventThenSpurious =
        some s ∧ s.thread ≠ .done ∧ WakeLockKept s := by
  have hrun : (exec engStep (lifecycle ⟨true, true⟩ 1 0 (LocEngData.boot Unit))
      eventThenSpurious).any (fun s => s.thread ≠ .done) = true := by decide
  obtain ⟨s, hs, ht⟩ := (Option.any_eq_true _ _).mp hrun
  have hq : s.thread ≠ .done := by simpa using ht
  exact ⟨s, hs, hq, wake_lock_kept ⟨true, true⟩ 1 0 _ hs hq⟩

end Ancora.LocEng
