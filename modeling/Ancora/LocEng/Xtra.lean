import Ancora.LocEng.Pieces

/-!
# The XTRA wake-up

`qct_loc_eng_inject_xtra_data_proxy` stores the downloaded orbit data under the
XTRA lock and then signals `deferred_action_cond`, with neither
`deferred_action_mutex` nor a flag. The deferred thread tests the buffer in the
middle of its pass and the flags at the top of the next one, so a signal between
the two reaches nobody.

- `Overlooked s`: the thread sleeps, nobody is about to wake it, and the buffer is
  full although the engine is not on.
- `ThreadPc.sees`: where the thread can be without overlooking a buffer that has
  just been filled.
- **`xtra_not_overlooked`**: no run whose signals all find the thread there (or a
  flag set, or another call of the proxy under way) reaches such a state. A status
  report needs no condition: it sets a flag under the mutex.
-/

namespace Ancora.LocEng

open Machine

variable {α : Type} {s s' : EngState α} {a : EngAct α}

/-- The thread waits with no flag set and no signal on its way, no call of the
proxy is in progress, the engine is not on, and there is data to inject. -/
structure Overlooked (s : EngState α) : Prop where
  waiting : s.thread = .waiting
  no_flags : s.data.deferredActionFlags = .zero
  no_signal : s.data.deferredActionCond ≠ .signalled
  no_proxy : s.xtraProxies = 0
  not_on : s.data.engineStatus ≠ .engineOn
  full : s.data.xtraDataForInjection ≠ none

/-- The piece that tests the buffer. -/
def Micro.testsXtra : Micro α → Bool
  | .injectXtraDataInBuffer => true
  | _ => false

/-- The thread waits, has the test of its pass ahead, or has left its loop. -/
def ThreadPc.sees : ThreadPc α → Bool
  | .top => false
  | .waiting => true
  | .running todo => todo.any Micro.testsXtra
  | .done => true

/-- The condition on a step: the signal of a proxy call whose data is still in the
buffer comes where the thread does not overlook the data, or a flag is set, or
another call of the proxy is yet to signal. -/
def signalHeard (s : EngState α) : EngAct α → Prop
  | .xtraSignal =>
    s.data.engineStatus ≠ .engineOn → s.data.xtraDataForInjection ≠ none →
      s.thread.sees = true ∨ s.data.deferredActionFlags ≠ .zero ∨ 1 < s.xtraProxies
  | _ => True

instance (s : EngState α) : (a : EngAct α) → Decidable (signalHeard s a)
  | .xtraSignal => inferInstanceAs (Decidable (_ → _ → _))
  | .locEventCb _ _ _ | .deleteAidingData _ | .dataConn _ | .xtraStore _ | .agpsInit | .xtraInit
  | .start _ | .stopCheck | .stopDefer | .stopNow _ | .deinit _ | .quit | .top | .wake
  | .micro _ _ | .loop => .isTrue trivial

/-! ## The invariant -/

/-- Something will make the thread look at the buffer. -/
def Attended (s : EngState α) : Prop :=
  s.data.deferredActionFlags ≠ .zero ∨
    (s.thread = .waiting ∧ s.data.deferredActionCond = .signalled) ∨ 0 < s.xtraProxies ∨
    (s.thread.sees = true ∧ s.thread ≠ .waiting)

/-- A thread between two passes attends to nothing by itself. -/
theorem Attended.idle (hatt : Attended s) (hw : s.thread ≠ .waiting) (hs : s.thread.sees = false) :
    s.data.deferredActionFlags ≠ .zero ∨ 0 < s.xtraProxies := by
  rcases hatt with hne | ⟨hwait, -⟩ | hp | ⟨hsees, -⟩
  · exact .inl hne
  · exact absurd hwait hw
  · exact .inr hp
  · rw [hs] at hsees
    cases hsees

/-- A full buffer waits for the engine to go off, or is attended to. -/
structure XtraInv (s : EngState α) : Prop where
  pass : InPass s
  blocked : s.thread = .waiting → s.data.deferredActionCond ≠ .idle
  attended : s.data.xtraDataForInjection ≠ none → s.data.engineStatus = .engineOn ∨ Attended s

theorem inject_mem_iteration (l : Locals α) : .injectXtraDataInBuffer ∈ iteration l := by
  simp [iteration]

theorem CondVar.signal_ne_idle {c : CondVar} (h : c ≠ .idle) : c.signal ≠ .idle := by
  cases c with
  | idle => exact absurd rfl h
  | waiting => exact nofun
  | signalled => exact nofun

theorem CondVar.signal_of_ne_idle {c : CondVar} (h : c ≠ .idle) : c.signal = .signalled := by
  cases c with
  | idle => exact absurd rfl h
  | waiting => rfl
  | signalled => rfl

/-- A step that leaves buffer, status and thread alone, and may raise a flag. -/
theorem XtraInv.raises (hi : XtraInv s) (hpass : InPass s') (hr : RaisesOrKeeps s.data s'.data)
    (ht : s'.thread = s.thread) (hp : s'.xtraProxies = s.xtraProxies)
    (hx : s'.data.xtraDataForInjection = s.data.xtraDataForInjection)
    (he : s'.data.engineStatus = s.data.engineStatus) : XtraInv s' := by
  refine ⟨hpass, ?_, ?_⟩
  · rw [ht]
    intro hw
    rcases hr with ⟨-, hc, -⟩ | ⟨-, hc, -⟩
    · rw [hc]
      exact hi.blocked hw
    · rw [hc]
      exact CondVar.signal_ne_idle (hi.blocked hw)
  · rw [hx, he]
    intro hfull
    refine (hi.attended hfull).imp_right fun hatt => ?_
    unfold Attended at hatt ⊢
    rcases hr with ⟨hf, hc, -⟩ | ⟨hf, -, -⟩
    · rw [hf, hc, ht, hp]
      exact hatt
    · exact .inl hf

/-- Past the wait the whole pass is ahead, or the thread has left its loop. -/
theorem XtraInv.quitOrCopy {d : LocEngData α} (hpass : InPass (quitOrCopy s d)) :
    XtraInv (quitOrCopy s d) := by
  unfold LocEng.quitOrCopy at hpass ⊢
  by_cases hq : d.deferredActionFlags.quit = true
  · rw [if_pos hq] at hpass ⊢
    exact ⟨hpass, nofun, fun _ => .inr (.inr (.inr (.inr ⟨rfl, nofun⟩)))⟩
  · rw [if_neg hq] at hpass ⊢
    have hsees : (iteration (copyLocals d).1).any Micro.testsXtra = true :=
      List.any_eq_true.mpr ⟨_, inject_mem_iteration _, rfl⟩
    exact ⟨hpass, nofun, fun _ => .inr (.inr (.inr (.inr ⟨hsees, nofun⟩)))⟩

/-- A status report that turns the engine off has the test still ahead; the test
itself empties the buffer unless the engine is on. -/
theorem ThreadPc.running_ne_waiting (todo : List (Micro α)) :
    ThreadPc.running todo ≠ .waiting := nofun

theorem XtraInv.micro {m : Micro α} {todo : List (Micro α)} {rc : Int} {mute : Bool}
    (hi : XtraInv s) (ht : s.thread = .running (m :: todo))
    (hpass : InPass { s with data := m.run rc mute s.data, thread := .running todo }) :
    XtraInv { s with data := m.run rc mute s.data, thread := .running todo } := by
  have hrun := ThreadPc.running_ne_waiting todo
  refine ⟨hpass, fun hw => absurd hw hrun, ?_⟩
  intro hfull
  by_cases htest : m.testsXtra = true
  · cases m with
    | injectXtraDataInBuffer =>
      by_cases hon : s.data.engineStatus = .engineOn
      · refine .inl (Eq.trans (Micro.run_engineStatus rc mute s.data ?_) hon)
        intro r hr
        cases hr
      · refine absurd ?_ hfull
        show (locEngInjectXtraDataInBuffer s.data).xtraDataForInjection = none
        unfold locEngInjectXtraDataInBuffer
        rw [if_pos hon]
        cases hx : s.data.xtraDataForInjection with
        | none => exact hx
        | some data => rfl
    | _ => simp [Micro.testsXtra] at htest
  · have hx : (m.run rc mute s.data).xtraDataForInjection = s.data.xtraDataForInjection := by
      have h := congrArg (·.xtraDataForInjection) (m.run_untouched rc mute s.data)
      cases m <;> first | exact h | exact absurd rfl htest
    have hsees : (m :: todo).any Micro.testsXtra = todo.any Micro.testsXtra := by
      simp [htest]
    by_cases hrep : ∃ r, m = .reportChangedStatus r
    · obtain ⟨r, rfl⟩ := hrep
      obtain ⟨l, -, hl⟩ := hi.pass.ahead ht
      have hmem : .injectXtraDataInBuffer ∈ todo :=
        (hl _).mpr ⟨inject_mem_iteration l, by simp [Micro.place]⟩
      exact .inr (.inr (.inr (.inr ⟨List.any_eq_true.mpr ⟨_, hmem, rfl⟩, hrun⟩)))
    · have he := Micro.run_engineStatus rc mute s.data fun r hr => hrep ⟨r, hr⟩
      refine (hi.attended (hx ▸ hfull)).imp (fun hon => he.trans hon) fun hatt => ?_
      rcases hatt with hf | ⟨hw, -⟩ | hp | ⟨hs, -⟩
      · rcases m.run_raises rc mute s.data with ⟨hkeep, -, -⟩ | ⟨hne, -, -⟩
        · exact .inl (hkeep ▸ hf)
        · exact .inl hne
      · rw [ht] at hw
        cases hw
      · exact .inr (.inr (.inl hp))
      · rw [ht] at hs
        exact .inr (.inr (.inr ⟨hsees.symm.trans hs, hrun⟩))

/-- A signal where the condition lets it come. -/
theorem XtraInv.xtraSignal (hi : XtraInv s) (hok : signalHeard s .xtraSignal) :
    XtraInv { s with data := LocEng.xtraSignal s.data, xtraProxies := s.xtraProxies - 1 } := by
  by_cases hon : s.data.engineStatus = .engineOn
  · have heq : LocEng.xtraSignal s.data = s.data := if_neg (not_not.mpr hon)
    rw [heq]
    exact ⟨hi.pass, hi.blocked, fun _ => .inl hon⟩
  · have heq : LocEng.xtraSignal s.data =
        { s.data with deferredActionCond := s.data.deferredActionCond.signal } := if_pos hon
    rw [heq]
    refine ⟨hi.pass, fun hw => CondVar.signal_ne_idle (hi.blocked hw), fun hfull => .inr ?_⟩
    rcases hok hon hfull with hs | hf | hp
    · by_cases hw : s.thread = .waiting
      · exact .inr (.inl ⟨hw, CondVar.signal_of_ne_idle (hi.blocked hw)⟩)
      · exact .inr (.inr (.inr ⟨hs, hw⟩))
    · exact .inl hf
    · exact .inr (.inr (.inl (show 0 < s.xtraProxies - 1 by omega)))

/-- A call that has nothing to do with the buffer. -/
theorem XtraInv.call (hi : XtraInv s) (h : EngStep s a s') (ha : a.isCall = true)
    (hstore : ∀ buf, a ≠ .xtraStore buf) (hsignal : a ≠ .xtraSignal) : XtraInv s' := by
  have hat : a.atWait = false := by
    cases a <;> first | rfl | exact absurd rfl hsignal | cases ha
  have hx : s'.data.xtraDataForInjection = s.data.xtraDataForInjection := by
    have hun := congrArg (·.xtraDataForInjection) (h.call_untouched ha)
    cases a <;> first | exact hun | exact absurd rfl (hstore _)
  have hp : s'.xtraProxies = s.xtraProxies := by
    cases h <;> first | rfl | exact absurd rfl (hstore _) | exact absurd rfl hsignal | cases ha
  refine hi.raises (hi.pass.step h) (h.raises hat) (h.call_thread ha) hp hx ?_
  exact h.engineStatus_eq fun rc mute heq => by rw [heq] at ha; cases ha

theorem XtraInv.step (hok : signalHeard s a) (h : engStep s a = some s') (hi : XtraInv s) :
    XtraInv s' := by
  have hst := engStep_cases h
  have hpass := hi.pass.step hst
  cases hst with
  | xtraStore buf =>
    refine ⟨hpass, ?_, fun _ => .inr (.inr (.inr (.inl (Nat.succ_pos _))))⟩
    cases buf <;> exact hi.blocked
  | xtraSignal _ => exact hi.xtraSignal hok
  | topWait ht hf =>
    refine ⟨hpass, fun _ => nofun, fun hfull => (hi.attended hfull).imp_right fun hatt => ?_⟩
    rcases hatt.idle (by rw [ht]; exact nofun) (by rw [ht]; rfl) with hne | hp
    · exact absurd hf hne
    · exact .inr (.inr (.inl hp))
  | topCopy _ _ => exact .quitOrCopy hpass
  | wake _ => exact .quitOrCopy hpass
  | micro rc mute ht _ => exact hi.micro ht hpass
  | loop ht =>
    refine ⟨hpass, nofun, fun hfull => (hi.attended hfull).imp_right fun hatt => ?_⟩
    rcases hatt.idle (by rw [ht]; exact nofun) (by rw [ht]; rfl) with hne | hp
    · exact .inl hne
    · exact .inr (.inr (.inl hp))
  | _ => exact hi.call (engStep_cases h) rfl (fun _ => nofun) nofun

/-- **Downloaded data is not overlooked.** In every run that keeps to
`signalHeard`, the thread never goes to sleep over a full buffer with the engine
off and nobody about to wake it. -/
theorem xtra_not_overlooked [Inhabited α] (cb : GpsCallbacks) (handle : Int)
    {as : List (EngAct α)} {s : EngState α}
    (h : exec (restrict signalHeard engStep) (engInit α cb handle) as = some s) :
    ¬ Overlooked s := by
  have hinit : XtraInv (engInit α cb handle) := ⟨nofun, nofun, fun hfull => absurd rfl hfull⟩
  have hi : XtraInv s := exec_restrict_invariant (fun s a s' hok hst hi => hi.step hok hst) hinit h
  intro ho
  rcases hi.attended ho.full with hon | hf | ⟨-, hc⟩ | hp | ⟨-, hw⟩
  · exact ho.not_on hon
  · exact hf ho.no_flags
  · exact ho.no_signal hc
  · rw [ho.no_proxy] at hp
    cases hp
  · exact hw ho.waiting

/-- Data stored while the thread waits, injected in the pass that the signal
starts. -/
def storedInWait : List (EngAct Unit) :=
  [.top, .xtraStore (some [1]), .xtraSignal, .wake, .micro 0 false, .loop, .top]

theorem xtra_not_overlooked_stored_in_wait :
    ∃ s, exec (restrict signalHeard engStep) (engInit Unit ⟨true, true⟩ 1) storedInWait = some s ∧
      s.thread = .waiting ∧ ¬ Overlooked s := by
  have hrun : (exec (restrict signalHeard engStep) (engInit Unit ⟨true, true⟩ 1) storedInWait).any
      (fun s => s.thread = .waiting) = true := by decide
  obtain ⟨s, hs, ht⟩ := (Option.any_eq_true _ _).mp hrun
  exact ⟨s, hs, by simpa using ht, xtra_not_overlooked ⟨true, true⟩ 1 hs⟩

/-- Data stored after the thread has tested the buffer and before it is back in
its wait. -/
def storedAfterTest : List (EngAct Unit) :=
  [EngAct.locEventCb 1 parsedPositionReport default, .top] ++
    List.replicate 5 (EngAct.micro 0 false) ++
    [EngAct.xtraStore (some [1]), .xtraSignal, .loop, .top]

/-- The signal finds nobody waiting, and the thread goes to sleep over the data. -/
theorem xtra_overlooked :
    ∃ s, exec engStep (engInit Unit ⟨true, true⟩ 1) storedAfterTest = some s ∧ Overlooked s := by
  have hrun : (exec engStep (engInit Unit ⟨true, true⟩ 1) storedAfterTest).any (fun s =>
      s.thread = .waiting ∧ s.data.deferredActionFlags = .zero ∧
        s.data.deferredActionCond ≠ .signalled ∧ s.xtraProxies = 0 ∧
        s.data.engineStatus ≠ .engineOn ∧ s.data.xtraDataForInjection ≠ none) = true := by decide
  obtain ⟨s, hs, h⟩ := (Option.any_eq_true _ _).mp hrun
  obtain ⟨hw, hf, hc, hp, hon, hx⟩ := of_decide_eq_true h
  exact ⟨s, hs, hw, hf, hc, hp, hon, hx⟩

end Ancora.LocEng
