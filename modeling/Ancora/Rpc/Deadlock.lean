import Ancora.Lib.Machine
import Ancora.Rpc.Client

/-!
# Waiting in a circle

`loc_api_sync_ioctl` holds `loc_sync_data.lock` while it waits for its REPLY. If a
CALL is dispatched meanwhile, `cb_context` waits for that lock and holds
`wait_cb_lock`; if then a second CALL is read, `rx_context` waits for
`wait_cb_lock`, and the REPLY behind it is never read (`callbacks_deadlock`). The
comment at clnt.c:144 has the second CALL wait for the first, which here waits
for the second.

- `Deadlocked`: a call is in progress and no thread has a step to take.
- `circleFree`: no step closes the circle while the rest of it is in place, and
  the buffer is not left taken for nobody (a REPLY no call waits for, a CALL no
  service is registered for).
- **`callbacks_do_not_deadlock`**: then no reachable state is deadlocked, whatever
  comes in, resets, failed sends and waits that end for no reason included.
-/

namespace Ancora.Rpc

open Machine

/-- A call is in progress, and neither it nor `cb_context` nor `rx_context` can go
on by itself. -/
def Deadlocked (s : Client) : Prop :=
  s.caller ≠ .idle ∧ ∀ a, prompt s a → clientStep s a = none

/-- `clnt_call` waits and has not been signalled. -/
def awaitsReply (s : Client) : Bool := s.caller = .waiting false

/-- `rx_context` waits for `wait_cb_lock` to hand on a CALL or the end of a reset. -/
def rxBehindCb (s : Client) : Bool := s.rx = .calling || s.rx = .restarting

/-- The CALL that `cb_context` has cloned takes `loc_sync_data.lock`. -/
def CbThread.needsSync : CbThread → Bool
  | .releasing m => m.takesSync
  | .dispatching m => m.takesSync
  | _ => false

/-- The dispatched CALL takes `loc_sync_data.lock`. -/
def dispatchNeedsSync (s : Client) : Bool :=
  match s.cb with
  | .dispatching m => m.takesSync
  | _ => false

/-- The steps that neither close the circle nor leave the buffer taken. -/
def circleFree (s : Client) : ClientAct → Prop
  | .rxRead m => ∀ m' ∈ m, m'.isReply = false →
    ¬ (awaitsReply s = true ∧ s.syncLocked = true ∧ dispatchNeedsSync s = true)
  | .callSend r => r = .sent →
    ¬ (rxBehindCb s = true ∧ s.syncLocked = true ∧ dispatchNeedsSync s = true)
  | .syncLock => ¬ (rxBehindCb s = true ∧ awaitsReply s = true ∧ dispatchNeedsSync s = true)
  | .cbRelease =>
    ¬ (rxBehindCb s = true ∧ awaitsReply s = true ∧ s.syncLocked = true ∧ s.cb.needsSync = true)
  | .rxReply => s.inputXdrBusy = true → s.caller.waits = true
  | .cbLook => s.inputXdrBusy = true → s.svcFind = true
  | .cbCheck => s.theXprt ≠ none
  | _ => True

instance (s : Client) : (a : ClientAct) → Decidable (circleFree s a)
  | .rxRead m => inferInstanceAs (Decidable (∀ m' ∈ m, _))
  | .callSend _ => inferInstanceAs (Decidable (_ → _))
  | .syncLock => inferInstanceAs (Decidable (¬ _))
  | .cbRelease => inferInstanceAs (Decidable (¬ _))
  | .rxReply => inferInstanceAs (Decidable (_ → _))
  | .cbLook => inferInstanceAs (Decidable (_ → _))
  | .cbCheck => inferInstanceAs (Decidable (_ ≠ _))
  | .transport _ | .callBegin _ | .callCheck _ | .callWake | .callDecode | .callRelease
  | .cbStart | .cbTop | .cbWake | .cbClone | .cbDispatch | .rxHup | .rxHupSignal
  | .rxHupClear | .rxOut | .rxOutSignal | .rxIn | .rxCall => .isTrue trivial

/-! ## The invariant -/

/-- `clnt_call` is going to free the buffer. -/
def Caller.returning : Caller → Bool
  | .waiting woken => woken
  | .decoding _ => true
  | .releasing _ => true
  | _ => false

/-- Somebody is going to free the buffer. -/
def Duty (s : Client) : Prop :=
  s.rx = .replying ∨ s.rx = .calling ∨ s.caller.returning = true ∨ s.gotCb = true ∨
    s.cb.reads = true

/-- Every taken buffer has somebody who frees it, and the circle is open. -/
structure LiveInv (s : Client) : Prop where
  duty : s.inputXdrBusy = true → Duty s
  msg : s.inputXdrBusy = true → s.inMsg ≠ none
  comes : s.gotCb = true → s.cb.comes = true
  alive : s.cb ≠ .crashed
  reset : s.inReset = true → awaitsReply s = false
  resetting : s.rx = .resetting → s.inReset = true
  circle : ¬ (rxBehindCb s = true ∧ awaitsReply s = true ∧ s.syncLocked = true ∧
    dispatchNeedsSync s = true)

variable {s s' : Client} {a : ClientAct}

/-- A step of `clnt_call`: it keeps its duty and does not close the circle. -/
theorem LiveInv.ofCaller (hi : LiveInv s) (hrest : s' = { s with
      caller := s'.caller, inReset := s'.inReset, outXid := s'.outXid,
      syncLocked := s'.syncLocked, callIsSync := s'.callIsSync, inputXdrBusy := s'.inputXdrBusy, log := s'.log })
    (hbusy : s'.inputXdrBusy = true → s.inputXdrBusy = true ∧
      (s.caller.returning = true → s'.caller.returning = true))
    (hreset : s'.inReset = true → awaitsReply s' = false)
    (hmono : s.inReset = true → s'.inReset = true)
    (hcircle : rxBehindCb s = true → dispatchNeedsSync s = true → awaitsReply s' = true →
      s'.syncLocked = true → awaitsReply s = true ∧ s.syncLocked = true) : LiveInv s' := by
  have hrx : s'.rx = s.rx := by rw [hrest]
  have hcb : s'.cb = s.cb := by rw [hrest]
  have hgot : s'.gotCb = s.gotCb := by rw [hrest]
  have hin : s'.inMsg = s.inMsg := by rw [hrest]
  refine ⟨fun hb => ?_, fun hb => ?_, ?_, ?_, hreset, ?_, ?_⟩
  · obtain ⟨hb', hret⟩ := hbusy hb
    unfold Duty
    rw [hrx, hcb, hgot]
    rcases hi.duty hb' with h | h | h | h | h
    · exact .inl h
    · exact .inr (.inl h)
    · exact .inr (.inr (.inl (hret h)))
    · exact .inr (.inr (.inr (.inl h)))
    · exact .inr (.inr (.inr (.inr h)))
  · rw [hin]
    exact hi.msg (hbusy hb).1
  · rw [hgot, hcb]
    exact hi.comes
  · rw [hcb]
    exact hi.alive
  · rw [hrx]
    exact fun h => hmono (hi.resetting h)
  · rintro ⟨hbehind, hawait, hsync, hneeds⟩
    have hbehind' : rxBehindCb s = true := by rwa [rxBehindCb, hrx] at hbehind
    have hneeds' : dispatchNeedsSync s = true := by rwa [dispatchNeedsSync, hcb] at hneeds
    obtain ⟨hawait', hsync'⟩ := hcircle hbehind' hneeds' hawait hsync
    exact hi.circle ⟨hbehind', hawait', hsync', hneeds'⟩

/-- A step of the caller to a place where it does not wait for its reply. -/
theorem LiveInv.moveCaller (hi : LiveInv s) {c : Caller} {r : Bool}
    (hreset : s.inReset = true → r = true)
    (hret : s.caller.returning = true → c.returning = true) (hc : c ≠ .waiting false) :
    LiveInv { s with inReset := r, caller := c } := by
  have hawait : awaitsReply { s with inReset := r, caller := c } = false := decide_eq_false hc
  refine hi.ofCaller rfl (fun hb => ⟨hb, hret⟩) (fun _ => hawait) hreset fun _ _ h _ => ?_
  rw [hawait] at h
  cases h

theorem LiveInv.clntCall (hi : LiveInv s) (hok : circleFree s a) (h : clntCall s a = some s') :
    LiveInv s' := by
  cases clntCall_cases h with
  | syncLock _ =>
    refine hi.ofCaller rfl (fun hb => ⟨hb, id⟩) hi.reset id fun hbehind hneeds hawait _ => ?_
    exact absurd ⟨hbehind, hawait, hneeds⟩ hok
  | begin sync hc _ =>
    refine hi.ofCaller rfl (fun hb => ⟨hb, fun hret => ?_⟩) (fun _ => rfl) id fun _ _ h _ => ?_
    · rw [hc] at hret
      cases hret
    · cases h
  | refused encodes hc _ =>
    refine hi.ofCaller rfl (fun hb => ⟨hb, fun hret => ?_⟩) (fun _ => rfl) id fun _ _ h _ => ?_
    · rw [hc] at hret
      cases hret
    · cases h
  | unencoded hc _ =>
    refine hi.ofCaller rfl (fun hb => ⟨hb, fun hret => ?_⟩) (fun _ => rfl) id fun _ _ h _ => ?_
    · rw [hc] at hret
      cases hret
    · cases h
  | encoded hc _ =>
    refine hi.ofCaller rfl (fun hb => ⟨hb, fun hret => ?_⟩) (fun _ => rfl) id fun _ _ h _ => ?_
    · rw [hc] at hret
      cases hret
    · cases h
  | sentInReset r hc _ => exact hi.moveCaller id (fun _ => rfl) (by decide)
  | sent hc hr =>
    refine hi.ofCaller rfl (fun hb => ⟨hb, fun hret => ?_⟩) (fun h => ?_) id
      fun hbehind hneeds _ hsync => ?_
    · rw [hc] at hret
      cases hret
    · rw [show s.inReset = true from h] at hr
      cases hr
    · exact absurd ⟨hbehind, hsync, hneeds⟩ (hok rfl)
  | sendFailed hc _ => exact hi.moveCaller id (fun _ => rfl) (by decide)
  | netReset hc _ => exact hi.moveCaller (fun _ => rfl) (fun _ => rfl) (by decide)
  | wakeInReset woken hc _ => exact hi.moveCaller id (fun _ => rfl) (by decide)
  | wake woken hc _ => exact hi.moveCaller id (fun _ => rfl) (by simp)
  | decode first hc =>
    refine hi.ofCaller rfl (fun hb => ⟨hb, fun _ => rfl⟩) (fun _ => rfl) id fun _ _ h _ => ?_
    cases h
  | release took hc =>
    refine hi.ofCaller rfl (fun hb => ?_) (fun _ => rfl) id fun _ _ h _ => ?_
    · cases hb
    · cases h

/-- A step of `cb_context`: it keeps its duty and does not close the circle. -/
theorem LiveInv.ofCb (hi : LiveInv s) (hrest : s' = { s with
      cb := s'.cb, gotCb := s'.gotCb, theXprt := s'.theXprt,
      inputXdrBusy := s'.inputXdrBusy, log := s'.log })
    (hbusy : s'.inputXdrBusy = true → s.inputXdrBusy = true ∧
      (s.gotCb = true ∨ s.cb.reads = true → s'.gotCb = true ∨ s'.cb.reads = true))
    (hcomes : s'.gotCb = true → s'.cb.comes = true) (halive : s'.cb ≠ .crashed)
    (hcircle : rxBehindCb s = true → awaitsReply s = true → s.syncLocked = true →
      dispatchNeedsSync s' = true → dispatchNeedsSync s = true) : LiveInv s' := by
  have hrx : s'.rx = s.rx := by rw [hrest]
  have hc : s'.caller = s.caller := by rw [hrest]
  have hin : s'.inMsg = s.inMsg := by rw [hrest]
  have hr : s'.inReset = s.inReset := by rw [hrest]
  have hl : s'.syncLocked = s.syncLocked := by rw [hrest]
  have hawait : awaitsReply s' = awaitsReply s := by rw [awaitsReply, awaitsReply, hc]
  have hbehind : rxBehindCb s' = rxBehindCb s := by rw [rxBehindCb, rxBehindCb, hrx]
  refine ⟨fun hb => ?_, fun hb => ?_, hcomes, halive, ?_, ?_, ?_⟩
  · obtain ⟨hb', hkeep⟩ := hbusy hb
    unfold Duty
    rw [hrx, hc]
    rcases hi.duty hb' with h | h | h | h
    · exact .inl h
    · exact .inr (.inl h)
    · exact .inr (.inr (.inl h))
    · exact .inr (.inr (.inr (hkeep h)))
  · rw [hin]
    exact hi.msg (hbusy hb).1
  · rw [hr, hawait]
    exact hi.reset
  · rw [hrx, hr]
    exact hi.resetting
  · rw [hbehind, hawait, hl]
    rintro ⟨h₁, h₂, h₃, h₄⟩
    exact hi.circle ⟨h₁, h₂, h₃, hcircle h₁ h₂ h₃ h₄⟩

/-- A step of `cb_context` away from the buffer. -/
theorem LiveInv.moveCb (hi : LiveInv s) {cb : CbThread} (hreads : s.cb.reads = false)
    (hcomes : s.gotCb = true → cb.comes = true) (halive : cb ≠ .crashed)
    (hneeds : dispatchNeedsSync { s with cb := cb } = false) : LiveInv { s with cb := cb } := by
  refine hi.ofCb rfl (fun hb => ⟨hb, ?_⟩) hcomes halive fun _ _ _ h => ?_
  · rintro (h | h)
    · exact .inl h
    · rw [hreads] at h
      cases h
  · rw [hneeds] at h
    cases h

/-- A thread at the buffer has taken what `got_cb` announced. -/
theorem LiveInv.not_gotCb (hi : LiveInv s) (hc : s.cb.comes = false) : s.gotCb ≠ true := by
  intro hg
  rw [hi.comes hg] at hc
  cases hc

/-- A step of `cb_context` on the message in the buffer. -/
theorem LiveInv.readCb (hi : LiveInv s) {cb : CbThread} {log : List BufEvent}
    (hc : s.cb.comes = false) (hreads : cb.reads = true) :
    LiveInv { s with cb := cb, log := log } := by
  refine hi.ofCb rfl (fun hb => ⟨hb, fun _ => .inr hreads⟩)
    (fun hg => absurd hg (hi.not_gotCb hc)) ?_ fun _ _ _ h => ?_
  · rintro rfl
    cases hreads
  · -- a thread that dispatches is past the buffer
    cases cb with
    | dispatching m => cases hreads
    | _ => cases h

theorem LiveInv.cbContext (hi : LiveInv s) (hok : circleFree s a) (h : cbContext s a = some s') :
    LiveInv s' := by
  cases cbContext_cases h with
  | start hc => exact hi.moveCb (by rw [hc]; rfl) (fun _ => rfl) (by decide) rfl
  | goOn hc _ => exact hi.moveCb (by rw [hc]; rfl) (fun _ => rfl) (by decide) rfl
  | wait hc hg =>
    refine hi.moveCb (by rw [hc]; rfl) (fun h => ?_) (by decide) rfl
    rw [hg] at h
    cases h
  | wake woken hc => exact hi.moveCb (by rw [hc]; rfl) (fun _ => rfl) (by decide) rfl
  | crash hc hx => exact absurd hx hok
  | reset x hc _ _ =>
    refine hi.ofCb rfl (fun hb => ⟨hb, ?_⟩) (fun _ => rfl) (by simp) fun _ _ _ h => ?_
    · rintro (hg | hr)
      · exact .inl hg
      · rw [hc] at hr
        cases hr
    · cases h
  | take x hc _ _ hg =>
    refine hi.ofCb rfl (fun hb => ⟨hb, fun _ => .inr rfl⟩) (fun h => ?_) (by simp)
      fun _ _ _ h => ?_
    · cases h
    · cases h
  | nothing x hc _ _ _ => exact hi.moveCb (by rw [hc]; rfl) (fun _ => rfl) (by decide) rfl
  | found hc _ => exact hi.readCb (by rw [hc]; rfl) rfl
  | unknown hc hf =>
    refine hi.ofCb rfl (fun hb => ?_) (fun _ => rfl) (by simp) fun _ _ _ h => ?_
    · rw [hok hb] at hf
      cases hf
    · cases h
  | clone first m hc _ => exact hi.readCb (by rw [hc]; rfl) rfl
  | lost first hc hin =>
    refine hi.ofCb rfl (fun hb => absurd hin (hi.msg hb)) (fun _ => rfl) (by simp)
      fun _ _ _ h => ?_
    cases h
  | release m hc =>
    refine hi.ofCb rfl (fun hb => ?_) (fun hg => ?_) (by simp) fun h₁ h₂ h₃ h₄ => ?_
    · cases hb
    · exact absurd hg (hi.not_gotCb (by rw [hc]; rfl))
    · have hneeds : s.cb.needsSync = true := by
        rw [hc]
        exact h₄
      exact absurd ⟨h₁, h₂, h₃, hneeds⟩ hok
  | dispatch m hc _ => exact hi.moveCb (by rw [hc]; rfl) (fun _ => rfl) (by decide) rfl

theorem Caller.signal_returning {c : Caller} (h : c.returning = true) :
    c.signal.returning = true := by
  cases c with
  | waiting => rfl
  | _ => exact h

theorem awaitsReply_signal {c : Caller} : c.signal ≠ .waiting false := by
  cases c <;> simp [Caller.signal]

/-- A step of `rx_context` with no message in hand: it may signal, but nobody
loses a duty by it, and it does not begin to wait for `wait_cb_lock`. -/
theorem LiveInv.moveRx (hi : LiveInv s) {rx : Rx} {caller : Caller} {cb : CbThread} {r : Bool}
    (hrx : s.rx ≠ .replying ∧ s.rx ≠ .calling)
    (hcaller : caller = s.caller ∨ caller = s.caller.signal)
    (hcb : cb = s.cb ∨ cb = s.cb.signal ∧ s.cb.holdsCb = false)
    (hreset : r = true → caller ≠ .waiting false) (hresetting : rx = .resetting → r = true)
    (hbehind : rx = .calling ∨ rx = .restarting → caller ≠ .waiting false) :
    LiveInv { s with inReset := r, caller := caller, cb := cb, rx := rx } := by
  have hret : s.caller.returning = true → caller.returning = true := by
    intro h
    rcases hcaller with rfl | rfl
    · exact h
    · exact Caller.signal_returning h
  have hreads : s.cb.reads = true → cb.reads = true := by
    intro h
    rcases hcb with rfl | ⟨-, hno⟩
    · exact h
    · rw [CbThread.reads_of_holdsCb hno] at h
      cases h
  have hcomes : s.cb.comes = true → cb.comes = true := by
    intro h
    rcases hcb with rfl | ⟨rfl, -⟩
    · exact h
    · exact CbThread.signal_comes h
  refine ⟨fun hb => ?_, hi.msg, fun hg => hcomes (hi.comes hg), ?_, fun h => ?_, hresetting, ?_⟩
  · rcases hi.duty hb with h | h | h | h | h
    · exact absurd h hrx.1
    · exact absurd h hrx.2
    · exact .inr (.inr (.inl (hret h)))
    · exact .inr (.inr (.inr (.inl h)))
    · exact .inr (.inr (.inr (.inr (hreads h))))
  · show cb ≠ .crashed
    rcases hcb with rfl | ⟨rfl, -⟩
    · exact hi.alive
    · exact CbThread.signal_alive hi.alive
  · exact decide_eq_false (hreset h)
  · rintro ⟨h₁, h₂, -, -⟩
    have hrx' : rx = .calling ∨ rx = .restarting := by simpa [rxBehindCb] using h₁
    exact hbehind hrx' (of_decide_eq_true h₂)

theorem LiveInv.rxContext (hi : LiveInv s) (hok : circleFree s a) (h : rxContext s a = some s') :
    LiveInv s' := by
  have hawait : s.inReset = true → s.caller ≠ .waiting false := by
    intro hr
    exact of_decide_eq_false (hi.reset hr)
  cases rxContext_cases h with
  | hup hrx _ _ =>
    exact hi.moveRx (by rw [hrx]; decide) (.inr rfl) (.inl rfl)
      (fun _ => awaitsReply_signal) (fun _ => rfl) (by simp)
  | hupSignal hrx hcb =>
    exact hi.moveRx (by rw [hrx]; decide) (.inl rfl) (.inr ⟨rfl, hcb⟩) hawait (by simp) (by simp)
  | hupClear hrx =>
    refine ⟨fun hb => ?_, fun hb => ?_, hi.comes, hi.alive, hi.reset, fun h => ?_, ?_⟩
    · cases hb
    · cases hb
    · cases h
    · rintro ⟨h₁, -⟩
      cases h₁
  | out hrx hr _ =>
    exact hi.moveRx (by rw [hrx]; decide) (.inl rfl) (.inl rfl) (by simp) (by simp)
      fun _ => hawait hr
  | outSignal hrx hcb =>
    exact hi.moveRx (by rw [hrx]; decide) (.inl rfl) (.inr ⟨rfl, hcb⟩) hawait (by simp) (by simp)
  | poll hrx =>
    exact hi.moveRx (by rw [hrx]; decide) (.inl rfl) (.inl rfl) hawait (by simp) (by simp)
  | readError hrx hb =>
    refine ⟨fun h => ?_, fun h => ?_, hi.comes, hi.alive, hi.reset, fun h => ?_, ?_⟩
    · rw [show s.inputXdrBusy = true from h] at hb
      cases hb
    · rw [show s.inputXdrBusy = true from h] at hb
      cases hb
    · cases h
    · rintro ⟨h₁, -⟩
      cases h₁
  | read m hrx hb =>
    by_cases hm : m.isReply = true
    · rw [if_pos hm]
      refine ⟨fun _ => .inl rfl, fun _ => by simp, hi.comes, hi.alive, hi.reset, fun h => ?_, ?_⟩
      · cases h
      · rintro ⟨h₁, -⟩
        cases h₁
    · rw [if_neg hm]
      refine ⟨fun _ => .inr (.inl rfl), fun _ => by simp, hi.comes, hi.alive, hi.reset,
        fun h => ?_, ?_⟩
      · cases h
      · rintro ⟨-, h₂, h₃, h₄⟩
        exact hok m rfl (by simpa using hm) ⟨h₂, h₃, h₄⟩
  | reply hrx hc =>
    refine ⟨fun hb => .inr (.inr (.inl ?_)), hi.msg, hi.comes, hi.alive,
      fun _ => decide_eq_false awaitsReply_signal, fun h => ?_, ?_⟩
    · show s.caller.signal.returning = true
      rw [Caller.signal_of_waits (hok hb)]
      rfl
    · cases h
    · rintro ⟨h₁, -⟩
      cases h₁
  | call hrx hcb =>
    have hcomes := CbThread.comes_of_call hcb
    refine ⟨fun _ => .inr (.inr (.inr (.inl rfl))), hi.msg, fun _ => hcomes, ?_, hi.reset,
      fun h => ?_, ?_⟩
    · show (if s.cb = .notStarted then .starting else s.cb.signal) ≠ .crashed
      intro hcr
      rw [hcr] at hcomes
      cases hcomes
    · cases h
    · rintro ⟨h₁, -⟩
      cases h₁

/-- Every permitted step keeps the invariant. -/
theorem LiveInv.step (hok : circleFree s a) (h : clientStep s a = some s') (hi : LiveInv s) :
    LiveInv s' := by
  unfold clientStep at h
  split at h
  · exact hi.clntCall hok h
  · exact hi.cbContext hok h
  · exact hi.rxContext hok h
  · split at h
    · cases h
      exact ⟨hi.duty, hi.msg, hi.comes, hi.alive, hi.reset, hi.resetting, hi.circle⟩
    · cases h

theorem LiveInv.init (xprt : Option Xprt) : LiveInv (clntCreate xprt) := by
  refine ⟨fun h => ?_, fun h => ?_, fun h => ?_, fun h => ?_, fun h => ?_, fun h => ?_, ?_⟩
  · cases h
  · cases h
  · cases h
  · cases h
  · cases h
  · cases h
  · rintro ⟨h, -⟩
    cases h

/-! ## Whole runs -/

/-- `cb_context` at work can go on, unless it waits for `loc_sync_data.lock`. -/
theorem cb_goes_on (hi : LiveInv s)
    (hcb : s.gotCb = true ∨ s.cb.reads = true ∨ s.cb.holdsCb = true)
    (hsync : ¬ (dispatchNeedsSync s = true ∧ s.syncLocked = true)) :
    ∃ a, prompt s a ∧ clientStep s a ≠ none := by
  cases hc : s.cb with
  | notStarted =>
    rcases hcb with hg | h | h
    · have := hi.comes hg
      rw [hc] at this
      cases this
    · rw [hc] at h
      cases h
    · rw [hc] at h
      cases h
  | starting => exact ⟨.cbStart, trivial, by simp [clientStep, ClientAct.thread, cbContext, hc]⟩
  | top => exact ⟨.cbTop, trivial, by simp [clientStep, ClientAct.thread, cbContext, hc]⟩
  | waiting woken =>
    rcases hcb with hg | h | h
    · have hw := hi.comes hg
      rw [hc] at hw
      have hw' : woken = true := hw
      refine ⟨.cbWake, by rw [hw'] at hc; exact hc, ?_⟩
      simp [clientStep, ClientAct.thread, cbContext, hc]
    · rw [hc] at h
      cases h
    · rw [hc] at h
      cases h
  | awake =>
    refine ⟨.cbCheck, trivial, ?_⟩
    simp only [clientStep, ClientAct.thread, cbContext, hc, if_true]
    split
    · simp
    · split
      · simp
      · split <;> simp
  | looking =>
    refine ⟨.cbLook, trivial, ?_⟩
    simp only [clientStep, ClientAct.thread, cbContext, hc, if_true]
    split <;> simp
  | cloning first =>
    refine ⟨.cbClone, trivial, ?_⟩
    simp only [clientStep, ClientAct.thread, cbContext, hc]
    split <;> simp
  | releasing m => exact ⟨.cbRelease, trivial, by simp [clientStep, ClientAct.thread, cbContext, hc]⟩
  | dispatching m =>
    refine ⟨.cbDispatch, trivial, ?_⟩
    have hsync' : ¬ (m.takesSync = true ∧ s.syncLocked = true) := by
      simpa [dispatchNeedsSync, hc] using hsync
    simp [clientStep, ClientAct.thread, cbContext, hc, hsync']
  | crashed => exact absurd hc hi.alive

/-- A call in progress can go on unless it waits, unsignalled, for its reply. -/
theorem caller_goes_on (hidle : s.caller ≠ .idle) (hwait : s.caller ≠ .waiting false) :
    ∃ a, prompt s a ∧ clientStep s a ≠ none := by
  cases hc : s.caller with
  | idle => exact absurd hc hidle
  | entered =>
    refine ⟨.callCheck true, trivial, ?_⟩
    simp only [clientStep, ClientAct.thread, clntCall, hc, if_true]
    split <;> simp
  | encoded =>
    refine ⟨.callSend .sent, trivial, ?_⟩
    simp only [clientStep, ClientAct.thread, clntCall, hc, if_true]
    split <;> simp
  | waiting woken =>
    cases woken with
    | false => exact absurd hc hwait
    | true =>
      refine ⟨.callWake, hc, ?_⟩
      simp only [clientStep, ClientAct.thread, clntCall, hc]
      split <;> simp
  | decoding first =>
    exact ⟨.callDecode, trivial, by simp [clientStep, ClientAct.thread, clntCall, hc]⟩
  | releasing took =>
    exact ⟨.callRelease, trivial, by simp [clientStep, ClientAct.thread, clntCall, hc]⟩

/-- A CALL still to be taken out of the buffer is not being dispatched yet. -/
theorem LiveInv.dispatchNeedsSync_eq (hi : LiveInv s)
    (hcb : s.gotCb = true ∨ s.cb.reads = true) : dispatchNeedsSync s = false := by
  unfold dispatchNeedsSync
  split
  next m hc =>
    rcases hcb with h | h
    · have hcomes := hi.comes h
      rw [hc] at hcomes
      cases hcomes
    · rw [hc] at h
      cases h
  · rfl

/-- While the call waits for its reply, either `rx_context` can go on or
`cb_context`, which it waits for, can. -/
theorem LiveInv.rx_or_cb_goes_on (hi : LiveInv s) (hwait : s.caller = .waiting false) :
    ∃ a, prompt s a ∧ clientStep s a ≠ none := by
  have hawait : awaitsReply s = true := decide_eq_true hwait
  have hreply : s.caller.holdsReply = false := by
    rw [hwait]
    rfl
  -- behind `wait_cb_lock`: the callback thread holds it and is not in the circle
  have hbehind : rxBehindCb s = true → s.cb.holdsCb = true →
      ∃ a, prompt s a ∧ clientStep s a ≠ none := by
    intro hrx hcb
    exact cb_goes_on hi (.inr (.inr hcb)) fun ⟨hn, hl⟩ => hi.circle ⟨hrx, hawait, hl, hn⟩
  cases hrx : s.rx with
  | polling => exact ⟨.rxIn, trivial, by simp [clientStep, ClientAct.thread, Rpc.rxContext, hrx]⟩
  | clearing =>
    exact ⟨.rxHupClear, trivial, by simp [clientStep, ClientAct.thread, Rpc.rxContext, hrx]⟩
  | resetting =>
    have hreset := hi.reset (hi.resetting hrx)
    rw [hawait] at hreset
    cases hreset
  | replying =>
    exact ⟨.rxReply, trivial, by simp [clientStep, ClientAct.thread, Rpc.rxContext, hrx, hreply]⟩
  | reading =>
    by_cases hb : s.inputXdrBusy = true
    · have hcb : s.gotCb = true ∨ s.cb.reads = true := by
        rcases hi.duty hb with h | h | h | h
        · rw [hrx] at h
          cases h
        · rw [hrx] at h
          cases h
        · rw [hwait] at h
          cases h
        · exact h
      exact cb_goes_on hi (hcb.imp_right .inl) (by simp [hi.dispatchNeedsSync_eq hcb])
    · exact ⟨.rxRead none, trivial,
        by simp [clientStep, ClientAct.thread, Rpc.rxContext, hrx, hb]⟩
  | restarting =>
    by_cases hcb : s.cb.holdsCb = true
    · exact hbehind (by simp [rxBehindCb, hrx]) hcb
    · exact ⟨.rxOutSignal, trivial,
        by simp [clientStep, ClientAct.thread, Rpc.rxContext, hrx, hcb]⟩
  | calling =>
    by_cases hcb : s.cb.holdsCb = true
    · exact hbehind (by simp [rxBehindCb, hrx]) hcb
    · exact ⟨.rxCall, trivial, by simp [clientStep, ClientAct.thread, Rpc.rxContext, hrx, hcb]⟩

/-- In every state some thread can go on while a call is in progress. -/
theorem LiveInv.not_deadlocked (hi : LiveInv s) : ¬ Deadlocked s := by
  rintro ⟨hidle, hstuck⟩
  obtain ⟨a, hp, hne⟩ : ∃ a, prompt s a ∧ clientStep s a ≠ none := by
    by_cases hwait : s.caller = .waiting false
    · exact hi.rx_or_cb_goes_on hwait
    · exact caller_goes_on hidle hwait
  exact hne (hstuck a hp)

/-- **Callbacks do not deadlock the RPC stack** in any run whose steps neither
close the circle nor leave the buffer taken for nobody. -/
theorem callbacks_do_not_deadlock {xprt : Option Xprt} {as : List ClientAct} {s : Client}
    (h : exec (restrict circleFree clientStep) (clntCreate xprt) as = some s) :
    ¬ Deadlocked s := by
  have hi : LiveInv s := exec_restrict_invariant
    (fun s a s' hok hst (hi : LiveInv s) => LiveInv.step hok hst hi) (LiveInv.init xprt) h
  exact hi.not_deadlocked

/-- One CALL while a synchronous call waits, and its REPLY behind it. -/
def callThenReply : List ClientAct :=
  [.syncLock, .callBegin true, .callCheck true, .callSend .sent, .rxIn,
    .rxRead (some ⟨5, false, 7, true⟩), .rxCall, .rxIn, .cbStart, .cbTop, .cbCheck, .cbLook,
    .cbClone, .cbRelease, .rxRead (some ⟨1, true, 0, false⟩), .rxReply]

theorem callbacks_do_not_deadlock_one_call :
    ∃ s, exec (restrict circleFree clientStep) (clntCreate (some ⟨false, [7]⟩))
        callThenReply = some s ∧
      s.caller = .waiting true ∧ s.cb = .dispatching ⟨5, false, 7, true⟩ ∧ ¬ Deadlocked s := by
  have hrun : (exec (restrict circleFree clientStep) (clntCreate (some ⟨false, [7]⟩))
      callThenReply).any (fun s => s.caller = .waiting true ∧
        s.cb = .dispatching ⟨5, false, 7, true⟩) = true := by decide
  obtain ⟨s, hs, hstate⟩ := (Option.any_eq_true _ _).mp hrun
  obtain ⟨hc, hcb⟩ := of_decide_eq_true hstate
  exact ⟨s, hs, hc, hcb, callbacks_do_not_deadlock hs⟩

/-- Two CALLs before the REPLY. -/
def twoCallsBeforeReply : List ClientAct :=
  [.syncLock, .callBegin true, .callCheck true, .callSend .sent, .rxIn,
    .rxRead (some ⟨5, false, 7, true⟩), .rxCall, .rxIn, .cbStart, .cbTop, .cbCheck, .cbLook,
    .cbClone, .cbRelease, .rxRead (some ⟨6, false, 7, true⟩)]

/-- The call waits for a reply only `rx_context` can read, `rx_context` for the
callback thread, and the callback thread for the call. -/
theorem callbacks_deadlock :
    ∃ s, exec clientStep (clntCreate (some ⟨false, [7]⟩)) twoCallsBeforeReply = some s ∧
      Deadlocked s := by
  have hrun : (exec clientStep (clntCreate (some ⟨false, [7]⟩)) twoCallsBeforeReply).any (fun s =>
      s.caller = .waiting false ∧ s.cb = .dispatching ⟨5, false, 7, true⟩ ∧ s.rx = .calling ∧
        s.syncLocked = true) = true := by decide
  obtain ⟨s, hs, hstate⟩ := (Option.any_eq_true _ _).mp hrun
  obtain ⟨hc, hcb, hrx, hl⟩ := of_decide_eq_true hstate
  refine ⟨s, hs, by rw [hc]; decide, fun a hp => ?_⟩
  cases a with
  | transport => cases hp
  | syncLock => cases hp
  | callBegin => cases hp
  | callWake =>
    rw [show s.caller = .waiting true from hp] at hc
    cases hc
  | cbWake =>
    rw [show s.cb = .waiting true from hp] at hcb
    cases hcb
  | _ =>
    simp [clientStep, ClientAct.thread, Rpc.clntCall, Rpc.cbContext, Rpc.rxContext, hc, hcb, hrx,
      hl, CbThread.holdsCb]

end Ancora.Rpc
