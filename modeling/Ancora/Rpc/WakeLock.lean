import Mathlib.Data.List.Basic
import Ancora.Rpc.Client
import Ancora.Lib.Machine

/-!
# The wake lock of the RPC library (librpc/clnt.c, librpc/svc.c:134–175)

`grabPartialWakeLock` and `releaseWakeLock` set and clear one named lock, however often it
was grabbed. Any number of clients share it, each with the threads of Ancora/Rpc/Client:

- `rx_context` grabs it before it reads a message and releases it after a read error or after
  handing on a REPLY; with a CALL the release is left to the callback thread;
- `cb_context` releases it after the dispatch, or when there is no service for the CALL, but
  not when it finds `in_len < 0` and not when `cb_stop` ends it;
- `svc_context` grabs it after `select` and releases it when it has served every descriptor.

A wait may end at any time, so the signal of `clnt_destroy` needs no step of its own.

- `underWay`: how many messages are being handled.
- `Covered`: the lock is held while a CALL is handled, and only while something is.
- `oneAtATime`: the receivers take up one message at a time, and no callback thread is ended with
  a CALL to handle.
- **`wake_lock_covers`**: then every state is covered.
-/

namespace Ancora.Rpc

open Machine

/-- `cb_stop` and what comes of it. -/
inductive CbLife
  | running
  /-- `clnt_destroy` has set `cb_stop`. -/
  | stopping
  /-- The loop of `cb_context` has ended. -/
  | gone
  deriving DecidableEq, Repr

/-- A client with its callback thread's debt: `owes` at `releaseWakeLock()` (clnt.c:214). -/
structure WakeClient where
  client : Client
  owes : Bool
  life : CbLife
  deriving DecidableEq, Repr

/-- Where the receive thread is with the lock. -/
inductive RxPlace
  | away
  /-- At this client, without a message. -/
  | visiting (i : Nat)
  /-- Has grabbed the lock to read (clnt.c:357). -/
  | grabbed (i : Nat)
  /-- Has read a message of this client. -/
  | holding (i : Nat)
  /-- At `releaseWakeLock()` (clnt.c:365, 387). -/
  | owes (i : Nat)
  deriving DecidableEq, Repr

/-- The receive thread has taken up a message. -/
def RxPlace.busy : RxPlace → Bool
  | .grabbed _ => true
  | .holding _ => true
  | .owes _ => true
  | _ => false

structure WakeState where
  clients : List WakeClient
  theXprt : Option Xprt
  place : RxPlace
  /-- `svc_context` is between its grab and its release. -/
  svc : Bool
  lock : Bool
  deriving DecidableEq, Repr

/-- Before the first client. -/
def wakeInit (xprt : Option Xprt) : WakeState where
  clients := []
  theXprt := xprt
  place := .away
  svc := false
  lock := false

inductive WakeAct
  | create
  | transport (xprt : Option Xprt)
  | client (i : Nat) (a : ClientAct)
  /-- `rx_context` grabs the lock for this client. -/
  | grab (i : Nat)
  | release
  | cbRelease (i : Nat)
  /-- `clnt_destroy` sets `cb_stop`. -/
  | stop (i : Nat)
  | cbExit (i : Nat)
  | svcGrab
  | svcRelease
  deriving DecidableEq, Repr

/-- The client as its threads see it: the transport is shared. -/
def WakeState.view (s : WakeState) (w : WakeClient) : Client :=
  { w.client with theXprt := s.theXprt }

/-- Put a client back after a step. -/
def WakeState.put (s : WakeState) (i : Nat) (w : WakeClient) : WakeState :=
  { s with clients := s.clients.set i w, theXprt := w.client.theXprt }

/-- Where the receive thread may take a step for client `i`, and where it is after it. -/
def RxPlace.step (place : RxPlace) (i : Nat) (a : ClientAct) (c : Client) : Option RxPlace :=
  match a with
  | .rxRead m =>
    if place = .grabbed i then some (if m = none then .owes i else .holding i) else none
  | .rxReply => if place = .holding i then some (.owes i) else none
  | .rxCall => if place = .holding i then some .away else none
  | _ =>
    if place = .away ∨ place = .visiting i then
      some (if c.rx = .polling then .away else .visiting i)
    else none

/-- The callback thread may take this step. -/
def WakeClient.mayStep (w : WakeClient) (a : ClientAct) : Bool :=
  !w.owes && w.life ≠ .gone && (w.life = .running || a ≠ .cbTop)

/-- The step ends at `releaseWakeLock()`: the dispatch returned, or there is no service. -/
def releasesAfter (c : Client) : ClientAct → Bool
  | .cbDispatch => true
  | .cbLook => !c.svcFind
  | _ => false

/-- A step of one of the threads of client `i`. -/
def wakeClientStep (s : WakeState) (i : Nat) (w : WakeClient) (a : ClientAct) : Option WakeState :=
  match a.thread with
  | none => none
  | some .caller => (clientStep (s.view w) a).map fun c => s.put i { w with client := c }
  | some .callback =>
    if w.mayStep a then
      (clientStep (s.view w) a).map fun c =>
        s.put i { w with client := c, owes := releasesAfter (s.view w) a }
    else none
  | some .receiver =>
    (clientStep (s.view w) a).bind fun c =>
      (s.place.step i a c).map fun place => { s.put i { w with client := c } with place := place }

/-- One step. -/
def wakeStep (s : WakeState) : WakeAct → Option WakeState
  | .create => some { s with clients := s.clients ++ [⟨clntCreate s.theXprt, false, .running⟩] }
  | .transport xprt => some { s with theXprt := xprt }
  | .client i a => s.clients[i]?.bind fun w => wakeClientStep s i w a
  | .grab i =>
    s.clients[i]?.bind fun w =>
      -- past the wait for the input buffer
      if s.place = .visiting i ∧ w.client.rx = .reading ∧ w.client.inputXdrBusy = false then
        some { s with place := .grabbed i, lock := true }
      else none
  | .release =>
    match s.place with
    | .owes _ => some { s with place := .away, lock := false }
    | _ => none
  | .cbRelease i =>
    s.clients[i]?.bind fun w =>
      if w.owes then
        some { s with clients := s.clients.set i { w with owes := false }, lock := false }
      else none
  | .stop i =>
    s.clients[i]?.bind fun w =>
      if w.life = .running ∧ w.client.caller = .idle then
        some { s with clients := s.clients.set i { w with life := .stopping } }
      else none
  | .cbExit i =>
    s.clients[i]?.bind fun w =>
      if w.life = .stopping ∧ w.client.cb = .top ∧ w.owes = false then
        some { s with clients := s.clients.set i { w with
          client := { w.client with cb := .waiting false }
          life := .gone } }
      else none
  | .svcGrab => if s.svc then none else some { s with svc := true, lock := true }
  | .svcRelease => if s.svc then some { s with svc := false, lock := false } else none

/-! ## What is wanted, and when it is so -/

/-- The callback thread is between taking a CALL and the return of its dispatch. -/
def CbThread.handles : CbThread → Bool
  | .looking => true
  | .cloning _ => true
  | .releasing _ => true
  | .dispatching _ => true
  | _ => false

/-- The callback side has a message: it is to be taken, handled, or its lock to be released. -/
def WakeClient.busy (w : WakeClient) : Bool :=
  w.owes || w.client.cb.handles || (w.client.gotCb && w.life ≠ .gone)

/-- How many messages are being handled. -/
def underWay (s : WakeState) : Nat :=
  s.place.busy.toNat + s.clients.countP WakeClient.busy + s.svc.toNat

/-- A CALL of this client has been read and neither dropped nor dispatched. -/
def WakeClient.hasCall (w : WakeClient) : Bool :=
  w.client.rx = .calling || w.client.cb.handles || (w.client.gotCb && w.life ≠ .gone)

/-- The lock is held from the reading of a CALL until its dispatch has returned, and it is not
held while nothing is being handled. -/
structure Covered (s : WakeState) : Prop where
  calls : ∀ w ∈ s.clients, w.hasCall = true → s.lock = true
  idle : underWay s = 0 → s.lock = false

/-- A message is taken up only while none is being handled, and a callback thread does not end
with a CALL to handle, nor gets one after its end. -/
def oneAtATime (s : WakeState) : WakeAct → Prop
  | .grab _ => underWay s = 0
  | .svcGrab => underWay s = 0
  | .cbExit i => ∀ w ∈ s.clients[i]?, w.client.gotCb = false
  | .client i a => a = .rxCall → ∀ w ∈ s.clients[i]?, w.life ≠ .gone
  | _ => True

instance (s : WakeState) : (a : WakeAct) → Decidable (oneAtATime s a)
  | .grab _ => inferInstanceAs (Decidable (_ = _))
  | .svcGrab => inferInstanceAs (Decidable (_ = _))
  | .cbExit _ => inferInstanceAs (Decidable (∀ w ∈ _, _))
  | .client _ _ => inferInstanceAs (Decidable (_ → _))
  | .create | .transport _ | .release | .cbRelease _ | .stop _ | .svcRelease => .isTrue trivial

/-! ## What the threads of a client do to its messages -/

section Threads

variable {c c' : Client} {a : ClientAct}

/-- A message stays with the callback thread until it has to release the lock. -/
theorem cbContext_busy (h : cbContext c a = some c') (hmsg : c.cb.handles = true → c.inMsg ≠ none)
    (hone : c.cb.handles = true → c.gotCb = false) :
    (releasesAfter c a || c'.cb.handles || c'.gotCb) = (c.cb.handles || c.gotCb) ∧
      (releasesAfter c a = true ∨ c'.cb.handles = true → c'.gotCb = false) ∧
      (releasesAfter c a = true → c'.cb = .top) := by
  cases cbContext_cases h with
  | start hcb => simp [releasesAfter, hcb, CbThread.handles]
  | goOn hcb _ => simp [releasesAfter, hcb, CbThread.handles]
  | wait hcb _ => simp [releasesAfter, hcb, CbThread.handles]
  | wake woken hcb => simp [releasesAfter, hcb, CbThread.handles]
  | crash hcb _ => simp [releasesAfter, hcb, CbThread.handles]
  | reset x hcb _ _ => simp [releasesAfter, hcb, CbThread.handles]
  | take x hcb _ _ hg => simp [releasesAfter, hcb, hg, CbThread.handles]
  | nothing x hcb _ _ _ => simp [releasesAfter, hcb, CbThread.handles]
  | found hcb hfind =>
    have hg : c.gotCb = false := hone (by rw [hcb]; rfl)
    simp [releasesAfter, hcb, hfind, hg, CbThread.handles]
  | unknown hcb hfind =>
    have hg : c.gotCb = false := hone (by rw [hcb]; rfl)
    simp [releasesAfter, hcb, hfind, hg, CbThread.handles]
  | clone first m hcb _ =>
    have hg : c.gotCb = false := hone (by rw [hcb]; rfl)
    simp [releasesAfter, hcb, hg, CbThread.handles]
  | lost first hcb hnone => exact absurd hnone (hmsg (by rw [hcb]; rfl))
  | release m hcb =>
    have hg : c.gotCb = false := hone (by rw [hcb]; rfl)
    simp [releasesAfter, hcb, hg, CbThread.handles, Client.free]
  | dispatch m hcb _ =>
    have hg : c.gotCb = false := hone (by rw [hcb]; rfl)
    simp [releasesAfter, hcb, hg, CbThread.handles]

@[simp] theorem CbThread.signal_handles (cb : CbThread) : cb.signal.handles = cb.handles := by
  cases cb with
  | waiting => rfl
  | _ => rfl

/-- `rx_context` has read a message of this client. -/
def Rx.hasMsg : Rx → Bool
  | .replying => true
  | .calling => true
  | _ => false

/-- Away from the messages, `rx_context` only signals. -/
theorem rxContext_frame (h : rxContext c a = some c') (hread : ∀ m, a ≠ .rxRead m)
    (hcall : a ≠ .rxCall) :
    c'.gotCb = c.gotCb ∧ (c'.cb = c.cb ∨ c.cb.holdsCb = false ∧ c'.cb = c.cb.signal) ∧
      c'.inMsg = c.inMsg ∧ c'.rx.hasMsg = false := by
  cases rxContext_cases h with
  | hupSignal _ hcb => exact ⟨rfl, .inr ⟨hcb, rfl⟩, rfl, rfl⟩
  | outSignal _ hcb => exact ⟨rfl, .inr ⟨hcb, rfl⟩, rfl, rfl⟩
  | readError => exact absurd rfl (hread none)
  | read m => exact absurd rfl (hread (some m))
  | call => exact absurd rfl hcall
  | _ => exact ⟨rfl, .inl rfl, rfl, rfl⟩

theorem rxRead_frame {m : Option Msg} (h : rxContext c (.rxRead m) = some c') :
    c'.gotCb = c.gotCb ∧ c'.cb = c.cb ∧ c'.inMsg = m ∧ (m = none → c'.rx.hasMsg = false) := by
  cases rxContext_cases h with
  | readError _ _ => exact ⟨rfl, rfl, rfl, fun _ => rfl⟩
  | read m _ _ => exact ⟨rfl, rfl, rfl, fun h => by cases h⟩

theorem rxCall_frame (h : rxContext c .rxCall = some c') :
    c.rx = .calling ∧ c.cb.holdsCb = false ∧ c'.gotCb = true ∧ c'.cb.handles = c.cb.handles ∧
      c'.inMsg = c.inMsg ∧ c'.rx.hasMsg = false := by
  cases rxContext_cases h with
  | call hrx hcb =>
    refine ⟨hrx, hcb, rfl, ?_, rfl, rfl⟩
    show (if c.cb = .notStarted then .starting else c.cb.signal).handles = c.cb.handles
    split
    · rename_i hcb'
      rw [hcb']
      rfl
    · exact CbThread.signal_handles c.cb

end Threads

/-! ## The invariant -/

/-- A client's part of the invariant. -/
structure WakeClient.Ok (w : WakeClient) : Prop where
  /-- A CALL that is handled lies in the buffer. -/
  msg : w.hasCall = true → w.client.inMsg ≠ none
  /-- The callback side has one message at most. -/
  one : w.owes = true ∨ w.client.cb.handles = true → w.client.gotCb = false
  /-- The debt is paid at the end of the loop. -/
  top : w.owes = true → w.client.cb = .top

structure WakeInv (s : WakeState) : Prop where
  one : underWay s ≤ 1
  lock : s.lock = true ↔ underWay s = 1
  ok : ∀ w ∈ s.clients, w.Ok
  rxAt : ∀ i w, s.clients[i]? = some w → w.client.rx.hasMsg = true → s.place = .holding i

/-- What replacing one client does to a count. -/
theorem countP_set_add {α : Type} {p : α → Bool} {l : List α} {i : Nat} {w : α} (w' : α)
    (h : l[i]? = some w) : (l.set i w').countP p + (p w).toNat = l.countP p + (p w').toNat := by
  obtain ⟨hlt, hget⟩ := List.getElem?_eq_some_iff.mp h
  have hmem : p w = true → 0 < l.countP p :=
    fun hp => List.countP_pos_iff.mpr ⟨w, List.mem_of_getElem? h, hp⟩
  rw [List.countP_set hlt, hget]
  cases hw : p w with
  | true =>
    have hpos := hmem hw
    cases p w' <;> simp <;> omega
  | false => cases p w' <;> simp

section Moves

variable {s s' : WakeState} {i : Nat} {w w' : WakeClient}

theorem WakeInv.ok_set (hi : WakeInv s) (hw' : w'.Ok) : ∀ v ∈ s.clients.set i w', v.Ok := by
  intro v hv
  rcases List.mem_or_eq_of_mem_set hv with hv | rfl
  · exact hi.ok v hv
  · exact hw'

/-- A client and the receive thread move on, and the number of messages stays. -/
theorem WakeInv.moved (hi : WakeInv s) (hw : s.clients[i]? = some w)
    (hclients : s'.clients = s.clients.set i w') (hsvc : s'.svc = s.svc) (hlock : s'.lock = s.lock)
    (htotal : s'.place.busy.toNat + w'.busy.toNat = s.place.busy.toNat + w.busy.toNat)
    (hok : w'.Ok) (hrx : w'.client.rx.hasMsg = true → s'.place = .holding i)
    (hplace : ∀ j, j ≠ i → s.place = .holding j → s'.place = .holding j) : WakeInv s' := by
  have hcount := countP_set_add (p := WakeClient.busy) w' hw
  have hsame : underWay s' = underWay s := by
    unfold underWay
    rw [hclients, hsvc]
    omega
  refine ⟨hsame ▸ hi.one, ?_, ?_, ?_⟩
  · rw [hsame, hlock]
    exact hi.lock
  · rw [hclients]
    exact hi.ok_set hok
  · intro j v hv hmsg
    rw [hclients, List.getElem?_set] at hv
    split at hv
    · rename_i hij
      split at hv
      · cases hv
        rw [← hij]
        exact hrx hmsg
      · cases hv
    · rename_i hij
      exact hplace j (fun h => hij h.symm) (hi.rxAt j v hv hmsg)

/-- What a message is to the callback side depends on four fields of the client. -/
theorem WakeClient.Ok.congr {c : Client} (h : w.Ok) (hg : c.gotCb = w.client.gotCb)
    (hcb : c.cb = w.client.cb) (hrx : c.rx = w.client.rx) (hin : c.inMsg = w.client.inMsg) :
    WakeClient.Ok { w with client := c } where
  msg := by
    simp only [WakeClient.hasCall, hg, hcb, hrx, hin]
    exact h.msg
  one := by
    simp only [hg, hcb]
    exact h.one
  top := by
    simp only [hcb]
    exact h.top

theorem WakeInv.caller {a : ClientAct} (hi : WakeInv s) (hw : s.clients[i]? = some w)
    (ht : a.thread = some .caller) (h : wakeClientStep s i w a = some s') : WakeInv s' := by
  simp only [wakeClientStep, ht, clientStep_of_caller ht] at h
  obtain ⟨c, hc, rfl⟩ := Option.map_eq_some_iff.mp h
  obtain ⟨hg, hcb, hrx, hin⟩ := (clntCall_cases hc).frame
  refine hi.moved hw rfl rfl rfl ?_ ?_ ?_ fun _ _ h => h
  · have hsame : WakeClient.busy { w with client := c } = w.busy := by
      simp only [WakeClient.busy, hg, hcb]
      rfl
    exact congrArg (fun b : Bool => s.place.busy.toNat + b.toNat) hsame
  · exact (hi.ok w (List.mem_of_getElem? hw)).congr hg hcb hrx hin
  · intro hmsg
    refine hi.rxAt i w hw ?_
    rw [← hmsg]
    exact congrArg Rx.hasMsg hrx.symm

theorem WakeInv.callback {a : ClientAct} (hi : WakeInv s) (hw : s.clients[i]? = some w)
    (ht : a.thread = some .callback) (h : wakeClientStep s i w a = some s') : WakeInv s' := by
  simp only [wakeClientStep, ht, clientStep_of_callback ht, Option.ite_none_right_eq_some] at h
  obtain ⟨hmay, h⟩ := h
  obtain ⟨c, hc, rfl⟩ := Option.map_eq_some_iff.mp h
  have hok := hi.ok w (List.mem_of_getElem? hw)
  simp only [WakeClient.mayStep, Bool.and_eq_true, Bool.not_eq_true', decide_eq_true_eq] at hmay
  obtain ⟨⟨howes, hlife⟩, -⟩ := hmay
  have hmsg : (s.view w).cb.handles = true → (s.view w).inMsg ≠ none := by
    intro hh
    refine hok.msg ?_
    have hh' : w.client.cb.handles = true := hh
    simp [WakeClient.hasCall, hh']
  obtain ⟨hbusy, hone, htop⟩ := cbContext_busy hc hmsg fun hh => hok.one (.inr hh)
  obtain ⟨-, hrx, hin⟩ := (cbContext_cases hc).frame
  have hbusy' : (releasesAfter (s.view w) a || c.cb.handles || c.gotCb) =
      (w.client.cb.handles || w.client.gotCb) := hbusy
  refine hi.moved hw rfl rfl rfl ?_ ⟨?_, hone, htop⟩ ?_ fun _ _ h => h
  · have hsame : WakeClient.busy { w with client := c, owes := releasesAfter (s.view w) a } =
        w.busy := by
      simp only [WakeClient.busy, howes, hlife, ne_eq, not_false_eq_true, decide_true,
        Bool.and_true, Bool.false_or]
      exact hbusy'
    exact congrArg (fun b : Bool => s.place.busy.toNat + b.toNat) hsame
  · intro hcall
    show c.inMsg ≠ none
    rw [hin]
    refine hok.msg ?_
    have hrx' : c.rx = w.client.rx := hrx
    simp only [WakeClient.hasCall, hrx', hlife, ne_eq, not_false_eq_true, decide_true,
      Bool.and_true, Bool.or_eq_true, decide_eq_true_eq] at hcall ⊢
    have hany : c.cb.handles = true ∨ c.gotCb = true →
        w.client.cb.handles = true ∨ w.client.gotCb = true := by
      intro hor
      rw [← Bool.or_eq_true, ← hbusy']
      rcases hor with hh | hh
      · simp [hh]
      · simp [hh]
    rcases hcall with (hc' | hh) | hg
    · exact .inl (.inl hc')
    · rcases hany (.inl hh) with hh' | hg'
      · exact .inl (.inr hh')
      · exact .inr hg'
    · rcases hany (.inr hg) with hh' | hg'
      · exact .inl (.inr hh')
      · exact .inr hg'
  · intro hmsg'
    refine hi.rxAt i w hw ?_
    rw [← hmsg']
    exact congrArg Rx.hasMsg hrx.symm

/-- While the receive thread has a message, no callback thread has one. -/
theorem WakeInv.not_busy (hi : WakeInv s) (hw : s.clients[i]? = some w)
    (hplace : s.place.busy = true) : w.busy = false := by
  by_contra hbusy
  have hpos : 0 < s.clients.countP WakeClient.busy :=
    List.countP_pos_iff.mpr ⟨w, List.mem_of_getElem? hw, by simpa using hbusy⟩
  have hone := hi.one
  rw [underWay, hplace, Bool.toNat_true] at hone
  omega

theorem WakeClient.not_busy_iff :
    w.busy = false ↔ w.owes = false ∧ w.client.cb.handles = false ∧
      (w.client.gotCb = false ∨ w.life = .gone) := by
  unfold WakeClient.busy
  cases w.owes <;> cases w.client.cb.handles <;> cases w.client.gotCb <;> simp

/-- The receive thread reads: the message is the only one. -/
theorem WakeInv.read {m : Option Msg} (hi : WakeInv s) (hw : s.clients[i]? = some w)
    (h : wakeClientStep s i w (.rxRead m) = some s') : WakeInv s' := by
  simp only [wakeClientStep, ClientAct.thread] at h
  obtain ⟨c, hc, h⟩ := Option.bind_eq_some_iff.mp h
  obtain ⟨place, hplace, rfl⟩ := Option.map_eq_some_iff.mp h
  simp only [RxPlace.step, Option.ite_none_right_eq_some, Option.some.injEq] at hplace
  obtain ⟨hgrabbed, rfl⟩ := hplace
  obtain ⟨hg, hcb, hin, hrx⟩ := rxRead_frame hc
  have hnot := hi.not_busy hw (by rw [hgrabbed]; rfl)
  have hok := hi.ok w (List.mem_of_getElem? hw)
  have hsame : WakeClient.busy { w with client := c } = w.busy := by
    simp only [WakeClient.busy, hg, hcb]
    rfl
  refine hi.moved hw rfl rfl rfl ?_ ⟨?_, ?_, ?_⟩ ?_ ?_
  · show (if m = none then RxPlace.owes i else .holding i).busy.toNat +
      (WakeClient.busy { w with client := c }).toNat = _
    rw [hsame, hgrabbed]
    split
    · rfl
    · rfl
  · intro hcall
    show c.inMsg ≠ none
    rw [hin]
    rintro rfl
    obtain ⟨-, hh, hgot⟩ := WakeClient.not_busy_iff.mp hnot
    have hrx' : c.rx ≠ .calling := by
      intro hcalling
      have hno := hrx rfl
      rw [hcalling] at hno
      cases hno
    have hcall' : (c.rx = .calling ∨ c.cb.handles = true) ∨ (c.gotCb = true ∧ w.life ≠ .gone) := by
      simpa [WakeClient.hasCall] using hcall
    rw [hg, hcb] at hcall'
    rcases hcall' with (h' | h') | ⟨h', hlife⟩
    · exact hrx' h'
    · rw [show (s.view w).cb = w.client.cb from rfl, hh] at h'
      cases h'
    · rcases hgot with hgot | hgot
      · rw [show (s.view w).gotCb = w.client.gotCb from rfl, hgot] at h'
        cases h'
      · exact hlife hgot
  · show w.owes = true ∨ c.cb.handles = true → c.gotCb = false
    rw [hg, hcb]
    exact hok.one
  · show w.owes = true → c.cb = .top
    rw [hcb]
    exact hok.top
  · intro hmsg
    cases m with
    | none =>
      have hmsg' : c.rx.hasMsg = true := hmsg
      rw [hrx rfl] at hmsg'
      cases hmsg'
    | some m => rfl
  · intro j hij hj
    rw [hgrabbed] at hj
    cases hj

/-- The receive thread hands a CALL on. -/
theorem WakeInv.call (hi : WakeInv s) (hw : s.clients[i]? = some w) (hlife : w.life ≠ .gone)
    (h : wakeClientStep s i w .rxCall = some s') : WakeInv s' := by
  simp only [wakeClientStep, ClientAct.thread] at h
  obtain ⟨c, hc, h⟩ := Option.bind_eq_some_iff.mp h
  obtain ⟨place, hplace, rfl⟩ := Option.map_eq_some_iff.mp h
  simp only [RxPlace.step, Option.ite_none_right_eq_some, Option.some.injEq] at hplace
  obtain ⟨hholding, rfl⟩ := hplace
  obtain ⟨hcalling, hholds, hg, hh, hin, hrx⟩ := rxCall_frame hc
  have hnot := hi.not_busy hw (by rw [hholding]; rfl)
  have hok := hi.ok w (List.mem_of_getElem? hw)
  obtain ⟨howes, hhandles, -⟩ := WakeClient.not_busy_iff.mp hnot
  have hhandles' : c.cb.handles = false := hh.trans hhandles
  refine hi.moved hw rfl rfl rfl ?_ ⟨?_, ?_, ?_⟩ ?_ ?_
  · have hbusy : WakeClient.busy { w with client := c } = true := by
      simp [WakeClient.busy, hg, hlife]
    show RxPlace.away.busy.toNat + (WakeClient.busy { w with client := c }).toNat = _
    rw [hbusy, hnot, hholding]
    rfl
  · intro _
    show c.inMsg ≠ none
    rw [hin]
    refine hok.msg ?_
    have hcalling' : w.client.rx = .calling := hcalling
    simp [WakeClient.hasCall, hcalling']
  · show w.owes = true ∨ c.cb.handles = true → c.gotCb = false
    rw [howes, hhandles']
    rintro (h | h) <;> cases h
  · show w.owes = true → c.cb = .top
    rw [howes]
    intro h
    cases h
  · intro hmsg
    have hmsg' : c.rx.hasMsg = true := hmsg
    rw [hrx] at hmsg'
    cases hmsg'
  · intro j hij hj
    rw [hholding] at hj
    cases hj
    exact absurd rfl hij

/-- The receive thread signals. -/
theorem WakeInv.signalled {a : ClientAct} {place : RxPlace} {c : Client} (hi : WakeInv s)
    (hw : s.clients[i]? = some w) (hc : rxContext (s.view w) a = some c)
    (hread : ∀ m, a ≠ .rxRead m) (hcall : a ≠ .rxCall) (hbusy : place.busy = s.place.busy)
    (hplace : ∀ j, j ≠ i → s.place = .holding j → place = .holding j) :
    WakeInv { s.put i { w with client := c } with place := place } := by
  obtain ⟨hg, hcb, hin, hrx⟩ := rxContext_frame hc hread hcall
  have hok := hi.ok w (List.mem_of_getElem? hw)
  have hh : c.cb.handles = w.client.cb.handles := by
    rcases hcb with h | ⟨-, h⟩
    · rw [h]
      rfl
    · rw [h, CbThread.signal_handles]
      rfl
  refine hi.moved hw rfl rfl rfl ?_ ⟨?_, ?_, ?_⟩ ?_ hplace
  · have hsame : WakeClient.busy { w with client := c } = w.busy := by
      simp only [WakeClient.busy, hg, hh]
      rfl
    show place.busy.toNat + (WakeClient.busy { w with client := c }).toNat = _
    rw [hsame, hbusy]
  · intro hcall'
    show c.inMsg ≠ none
    rw [hin]
    refine hok.msg ?_
    have hnocall : c.rx ≠ .calling := by
      intro hcalling
      rw [hcalling] at hrx
      cases hrx
    have hcall'' : c.cb.handles = true ∨ (c.gotCb = true ∧ w.life ≠ .gone) := by
      simpa [WakeClient.hasCall, hnocall] using hcall'
    rw [hh, hg] at hcall''
    rcases hcall'' with h' | ⟨h', hlife⟩
    · simp [WakeClient.hasCall, h']
    · have hg' : w.client.gotCb = true := h'
      simp [WakeClient.hasCall, hg', hlife]
  · show w.owes = true ∨ c.cb.handles = true → c.gotCb = false
    rw [hh, hg]
    exact hok.one
  · show w.owes = true → c.cb = .top
    intro howes
    have htop := hok.top howes
    rcases hcb with h | ⟨hholds, -⟩
    · rw [h]
      exact htop
    · rw [show (s.view w).cb = w.client.cb from rfl, htop] at hholds
      cases hholds
  · intro hmsg
    have hmsg' : c.rx.hasMsg = true := hmsg
    rw [hrx] at hmsg'
    cases hmsg'

/-- A step of the receive thread that is neither a read nor the handing on of a message. -/
theorem RxPlace.step_other {a : ClientAct} {place place' : RxPlace} {c : Client}
    (hread : ∀ m, a ≠ .rxRead m) (hcall : a ≠ .rxCall) (h : place.step i a c = some place') :
    place'.busy = place.busy ∧ ∀ j, j ≠ i → place = .holding j → place' = .holding j := by
  unfold RxPlace.step at h
  split at h
  · rename_i m
    exact absurd rfl (hread m)
  · simp only [Option.ite_none_right_eq_some, Option.some.injEq] at h
    obtain ⟨rfl, rfl⟩ := h
    refine ⟨rfl, ?_⟩
    intro j hij hj
    cases hj
    exact absurd rfl hij
  · exact absurd rfl hcall
  · simp only [Option.ite_none_right_eq_some, Option.some.injEq] at h
    obtain ⟨hp, rfl⟩ := h
    rcases hp with rfl | rfl
    · refine ⟨by split <;> rfl, ?_⟩
      intro j hij hj
      cases hj
    · refine ⟨by split <;> rfl, ?_⟩
      intro j hij hj
      cases hj

theorem WakeInv.receiver {a : ClientAct} (hi : WakeInv s) (hw : s.clients[i]? = some w)
    (hlife : a = .rxCall → w.life ≠ .gone)
    (ht : a.thread = some .receiver) (h : wakeClientStep s i w a = some s') : WakeInv s' := by
  by_cases hcall : a = .rxCall
  · subst hcall
    exact hi.call hw (hlife rfl) h
  by_cases hread : ∃ m, a = .rxRead m
  · obtain ⟨m, rfl⟩ := hread
    exact hi.read hw h
  have hread' : ∀ m, a ≠ .rxRead m := fun m ha => hread ⟨m, ha⟩
  simp only [wakeClientStep, ht, clientStep_of_receiver ht] at h
  obtain ⟨c, hc, h⟩ := Option.bind_eq_some_iff.mp h
  obtain ⟨place, hplace, rfl⟩ := Option.map_eq_some_iff.mp h
  obtain ⟨hbusy, hkeep⟩ := RxPlace.step_other hread' hcall hplace
  exact hi.signalled hw hc hread' hcall hbusy hkeep

/-! ## The other steps -/

theorem WakeInv.create (hi : WakeInv s) (h : wakeStep s .create = some s') : WakeInv s' := by
  cases h
  have hsame : underWay
      { s with clients := s.clients ++ [⟨clntCreate s.theXprt, false, .running⟩] } = underWay s := by
    unfold underWay
    rw [List.countP_append]
    rfl
  refine ⟨hsame ▸ hi.one, ?_, ?_, ?_⟩
  · rw [hsame]
    exact hi.lock
  · intro w hw
    rcases List.mem_append.mp hw with hw | hw
    · exact hi.ok w hw
    · rw [List.mem_singleton.mp hw]
      refine ⟨?_, fun _ => rfl, ?_⟩
      · intro h
        cases h
      · intro h
        cases h
  · intro i w hw hmsg
    rw [List.getElem?_append] at hw
    split at hw
    · exact hi.rxAt i w hw hmsg
    · rw [List.mem_singleton.mp (List.mem_of_getElem? hw)] at hmsg
      cases hmsg

/-- The lock is taken for the first message. -/
theorem WakeInv.taken (hi : WakeInv s) (hclients : s'.clients = s.clients)
    (hlock : s'.lock = true) (hunder : underWay s' = 1)
    (hplace : ∀ i, s.place = .holding i → s'.place = .holding i) : WakeInv s' where
  one := Nat.le_of_eq hunder
  lock := iff_of_true hlock hunder
  ok := hclients ▸ hi.ok
  rxAt i w hw hmsg := hplace i (hi.rxAt i w (hclients ▸ hw) hmsg)

/-- The lock is released after the only message. -/
theorem WakeInv.released (hlock : s'.lock = false) (hunder : underWay s' = 0)
    (hok : ∀ w ∈ s'.clients, w.Ok)
    (hrx : ∀ i w, s'.clients[i]? = some w → w.client.rx.hasMsg = true → s'.place = .holding i) :
    WakeInv s' where
  one := by omega
  lock := by simp [hlock, hunder]
  ok := hok
  rxAt := hrx

theorem WakeInv.grab (hi : WakeInv s) (hzero : underWay s = 0)
    (h : wakeStep s (.grab i) = some s') : WakeInv s' := by
  simp only [wakeStep] at h
  obtain ⟨w, -, h⟩ := Option.bind_eq_some_iff.mp h
  simp only [Option.ite_none_right_eq_some, Option.some.injEq] at h
  obtain ⟨⟨hplace, -⟩, rfl⟩ := h
  refine hi.taken rfl rfl ?_ ?_
  · have hzero' := hzero
    unfold underWay at hzero' ⊢
    rw [hplace] at hzero'
    simp only [RxPlace.busy, Bool.toNat_false, Bool.toNat_true] at hzero' ⊢
    omega
  · intro j hj
    rw [hplace] at hj
    cases hj

theorem WakeInv.release (hi : WakeInv s) (h : wakeStep s .release = some s') : WakeInv s' := by
  simp only [wakeStep] at h
  split at h
  · rename_i k hplace
    cases h
    refine WakeInv.released rfl ?_ hi.ok ?_
    · have hone := hi.one
      unfold underWay at hone ⊢
      rw [hplace] at hone
      simp only [RxPlace.busy, Bool.toNat_false, Bool.toNat_true] at hone ⊢
      omega
    · intro j w hw hmsg
      have hholding := hi.rxAt j w hw hmsg
      rw [hplace] at hholding
      cases hholding
  · cases h

/-- Changing what only the callback side looks at leaves the receive thread where it is. -/
theorem WakeInv.rxAt_set (hi : WakeInv s) (hw : s.clients[i]? = some w)
    (hrx : w'.client.rx = w.client.rx) :
    ∀ j v, (s.clients.set i w')[j]? = some v → v.client.rx.hasMsg = true →
      s.place = .holding j := by
  intro j v hv hmsg
  rw [List.getElem?_set] at hv
  split at hv
  · rename_i hij
    split at hv
    · cases hv
      rw [← hij]
      exact hi.rxAt i w hw (hrx ▸ hmsg)
    · cases hv
  · exact hi.rxAt j v hv hmsg

theorem WakeInv.cbRelease (hi : WakeInv s) (h : wakeStep s (.cbRelease i) = some s') :
    WakeInv s' := by
  simp only [wakeStep] at h
  obtain ⟨w, hw, h⟩ := Option.bind_eq_some_iff.mp h
  simp only [Option.ite_none_right_eq_some, Option.some.injEq] at h
  obtain ⟨howes, rfl⟩ := h
  have hok := hi.ok w (List.mem_of_getElem? hw)
  have htop := hok.top howes
  have hgot := hok.one (.inl howes)
  refine WakeInv.released rfl ?_ ?_ (hi.rxAt_set hw rfl)
  · have hcount := countP_set_add (p := WakeClient.busy) { w with owes := false } hw
    have hbusy : w.busy = true := by simp [WakeClient.busy, howes]
    have hbusy' : WakeClient.busy { w with owes := false } = false := by
      simp [WakeClient.busy, htop, hgot, CbThread.handles]
    rw [hbusy, hbusy'] at hcount
    have hone := hi.one
    unfold underWay at hone ⊢
    simp only [Bool.toNat_false, Bool.toNat_true] at hcount
    show s.place.busy.toNat + (s.clients.set i { w with owes := false }).countP WakeClient.busy +
      s.svc.toNat = 0
    omega
  · refine hi.ok_set ⟨hok.msg, ?_, ?_⟩
    · intro _
      exact hgot
    · intro h'
      cases h'

/-- A change of a client that leaves its messages as they are. -/
theorem WakeInv.aside (hi : WakeInv s) (hw : s.clients[i]? = some w) (hbusy : w'.busy = w.busy)
    (hok : w'.Ok) (hrx : w'.client.rx = w.client.rx) :
    WakeInv { s with clients := s.clients.set i w' } := by
  refine hi.moved hw rfl rfl rfl ?_ hok ?_ fun _ _ h => h
  · rw [hbusy]
  · intro hmsg
    exact hi.rxAt i w hw (hrx ▸ hmsg)

theorem WakeInv.stop (hi : WakeInv s) (h : wakeStep s (.stop i) = some s') : WakeInv s' := by
  simp only [wakeStep] at h
  obtain ⟨w, hw, h⟩ := Option.bind_eq_some_iff.mp h
  simp only [Option.ite_none_right_eq_some, Option.some.injEq] at h
  obtain ⟨⟨hlife, -⟩, rfl⟩ := h
  have hok := hi.ok w (List.mem_of_getElem? hw)
  refine hi.aside hw ?_ ⟨?_, hok.one, hok.top⟩ rfl
  · simp [WakeClient.busy, hlife]
  · intro hcall
    refine hok.msg ?_
    simpa [WakeClient.hasCall, hlife] using hcall

theorem WakeInv.cbExit (hi : WakeInv s) (hgot : ∀ w ∈ s.clients[i]?, w.client.gotCb = false)
    (h : wakeStep s (.cbExit i) = some s') : WakeInv s' := by
  simp only [wakeStep] at h
  obtain ⟨w, hw, h⟩ := Option.bind_eq_some_iff.mp h
  simp only [Option.ite_none_right_eq_some, Option.some.injEq] at h
  obtain ⟨⟨hlife, hcb, howes⟩, rfl⟩ := h
  have hok := hi.ok w (List.mem_of_getElem? hw)
  have hg := hgot w hw
  refine hi.aside hw ?_ ⟨?_, fun _ => hg, ?_⟩ rfl
  · simp [WakeClient.busy, hcb, hg, CbThread.handles]
  · intro hcall
    refine hok.msg ?_
    simpa [WakeClient.hasCall, hcb, hg, CbThread.handles] using hcall
  · intro howes'
    have h' : w.owes = true := howes'
    rw [howes] at h'
    cases h'

theorem WakeInv.svcGrab (hi : WakeInv s) (hzero : underWay s = 0)
    (h : wakeStep s .svcGrab = some s') : WakeInv s' := by
  simp only [wakeStep, Option.ite_none_left_eq_some, Option.some.injEq] at h
  obtain ⟨hsvc, rfl⟩ := h
  refine hi.taken rfl rfl ?_ fun _ hj => hj
  unfold underWay at hzero ⊢
  simp only [Bool.not_eq_true] at hsvc
  rw [hsvc] at hzero
  simp only [Bool.toNat_false, Bool.toNat_true] at hzero ⊢
  omega

theorem WakeInv.svcRelease (hi : WakeInv s) (h : wakeStep s .svcRelease = some s') :
    WakeInv s' := by
  simp only [wakeStep, Option.ite_none_right_eq_some, Option.some.injEq] at h
  obtain ⟨hsvc, rfl⟩ := h
  refine WakeInv.released rfl ?_ hi.ok hi.rxAt
  have hone := hi.one
  unfold underWay at hone ⊢
  rw [hsvc] at hone
  simp only [Bool.toNat_false, Bool.toNat_true] at hone ⊢
  omega

/-- Every permitted step keeps the invariant. -/
theorem WakeInv.step {a : WakeAct} (hok : oneAtATime s a) (h : wakeStep s a = some s')
    (hi : WakeInv s) : WakeInv s' := by
  cases a with
  | create => exact hi.create h
  | transport xprt =>
    cases h
    exact ⟨hi.one, hi.lock, hi.ok, hi.rxAt⟩
  | client i a =>
    simp only [wakeStep] at h
    obtain ⟨w, hw, h⟩ := Option.bind_eq_some_iff.mp h
    cases ht : a.thread with
    | none =>
      simp only [wakeClientStep, ht] at h
      cases h
    | some p =>
      cases p with
      | caller => exact hi.caller hw ht h
      | callback => exact hi.callback hw ht h
      | receiver => exact hi.receiver hw (fun ha => hok ha w hw) ht h
  | grab i => exact hi.grab hok h
  | release => exact hi.release h
  | cbRelease i => exact hi.cbRelease h
  | stop i => exact hi.stop h
  | cbExit i => exact hi.cbExit hok h
  | svcGrab => exact hi.svcGrab hok h
  | svcRelease => exact hi.svcRelease h

/-- The lock is where the messages are. -/
theorem WakeInv.covered (hi : WakeInv s) : Covered s := by
  constructor
  · intro w hw hcall
    rw [hi.lock]
    have hone := hi.one
    obtain ⟨i, hget⟩ := List.getElem?_of_mem hw
    have hcall' : (w.client.rx = .calling ∨ w.client.cb.handles = true) ∨
        (w.client.gotCb = true ∧ w.life ≠ .gone) := by
      simpa [WakeClient.hasCall] using hcall
    by_cases hrx : w.client.rx = .calling
    · have hplace := hi.rxAt i w hget (by rw [hrx]; rfl)
      unfold underWay at hone ⊢
      rw [hplace] at hone ⊢
      simp only [RxPlace.busy, Bool.toNat_true] at hone ⊢
      omega
    · have hbusy : w.busy = true := by
        rcases hcall' with (h | h) | ⟨h, hlife⟩
        · exact absurd h hrx
        · simp [WakeClient.busy, h]
        · simp [WakeClient.busy, h, hlife]
      have hpos : 0 < s.clients.countP WakeClient.busy := List.countP_pos_iff.mpr ⟨w, hw, hbusy⟩
      unfold underWay at hone ⊢
      omega
  · intro hzero
    have hnot : ¬ s.lock = true := by
      rw [hi.lock]
      omega
    simpa using hnot

end Moves

theorem WakeInv.init (xprt : Option Xprt) : WakeInv (wakeInit xprt) where
  one := Nat.zero_le 1
  lock := by simp [wakeInit, underWay, RxPlace.busy]
  ok w hw := by simp [wakeInit] at hw
  rxAt i w hw := by simp [wakeInit] at hw

/-- **Whatever the clients, their callback threads and the server thread do, as long as one message
is taken up at a time the lock is held from the reading of a CALL until its dispatch has
returned, and is free when nothing is being handled.** -/
theorem wake_lock_covers {xprt : Option Xprt} {as : List WakeAct} {s : WakeState}
    (hrun : exec (restrict oneAtATime wakeStep) (wakeInit xprt) as = some s) : Covered s := by
  have hi : WakeInv s :=
    exec_restrict_invariant (fun _ _ _ hok h hi => hi.step hok h) (WakeInv.init xprt) hrun
  exact hi.covered

/-- A CALL for a registered service. -/
def serviceCall : Msg := ⟨0, false, 0, false⟩

/-- Client 0 gets a CALL, and its callback thread is in the dispatch. -/
def callDispatched : List WakeAct := [
  .create, .create, .client 0 .rxIn, .grab 0, .client 0 (.rxRead (some serviceCall)),
  .client 0 .rxCall, .client 0 .cbStart, .client 0 .cbTop, .client 0 .cbCheck, .client 0 .cbLook,
  .client 0 .cbClone, .client 0 .cbRelease]

/-- The dispatch returns, and then a read of the other client fails. -/
def callThenReadError : List WakeAct := callDispatched ++ [
  WakeAct.client 0 .cbDispatch, .cbRelease 0, .client 1 .rxIn, .grab 1, .client 1 (.rxRead none),
  .release]

theorem wake_lock_covers_call_then_error :
    ∃ s, exec (restrict oneAtATime wakeStep) (wakeInit (some ⟨false, [0]⟩))
        callThenReadError = some s ∧
      underWay s = 0 ∧ s.lock = false ∧ Covered s := by
  have hend : (exec (restrict oneAtATime wakeStep) (wakeInit (some ⟨false, [0]⟩))
      callThenReadError).map (fun s => (underWay s, s.lock)) = some (0, false) := by decide +kernel
  obtain ⟨s, hrun, hs⟩ := Option.map_eq_some_iff.mp hend
  obtain ⟨hunder, hlock⟩ := Prod.mk.inj hs
  exact ⟨s, hrun, hunder, hlock, wake_lock_covers hrun⟩

/-- During the dispatch the other client gets a REPLY. -/
def replyDuringDispatch : List WakeAct := callDispatched ++ [
  WakeAct.client 1 .rxIn, .grab 1, .client 1 (.rxRead (some ⟨0, true, 0, false⟩)),
  .client 1 .rxReply, .release]

/-- It takes the lock away from the CALL. -/
theorem reply_takes_wake_lock :
    ∃ s, exec wakeStep (wakeInit (some ⟨false, [0]⟩)) replyDuringDispatch = some s ∧
      s.clients.map (fun w => w.client.cb) = [.dispatching serviceCall, .notStarted] ∧
      s.lock = false ∧ ¬ Covered s := by
  have hend : (exec wakeStep (wakeInit (some ⟨false, [0]⟩)) replyDuringDispatch).map
      (fun s => (s.clients.map (fun w => w.client.cb), s.clients.any WakeClient.hasCall, s.lock)) =
      some ([.dispatching serviceCall, .notStarted], true, false) := by decide +kernel
  obtain ⟨s, hrun, hs⟩ := Option.map_eq_some_iff.mp hend
  obtain ⟨hcb, hs⟩ := Prod.mk.inj hs
  obtain ⟨hcall, hlock⟩ := Prod.mk.inj hs
  refine ⟨s, hrun, hcb, hlock, ?_⟩
  intro hcovered
  obtain ⟨w, hw, hc⟩ := List.any_eq_true.mp hcall
  rw [hcovered.calls w hw hc] at hlock
  cases hlock

end Ancora.Rpc
