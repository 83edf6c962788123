import Ancora.LocEng.Ni
import Ancora.LocEng.Mute

/-!
# The threads of NI requests (loc_eng_ni.cpp)

Ancora/LocEng/Ni follows one NI thread through runs in which `loc_eng_ni_init` has been called
once. Here `loc_eng_ni_init` may be called again at any time, and every accepted request may add
a thread: the threads are a list, and each remembers the request it was created for.

- The handler has a place of its own in each part of its section under `loc_ni_lock`. The
  `default` arm of its switch returns without unlocking.
- A thread has one place for each lock it has to wait for or holds. `user_cb_data_mutex` is held
  from the end of the wait until the response is out, so it needs no field: it is held while some
  thread is `responding`.
- `loc_eng_ni_init` takes no lock; it clears the flag in one step and the rest in another.

`Tidy` lists the situations the handler, the threads, the flag and the lock can be in together.

- `oneInTime`: `pthread_create` succeeds, and `loc_eng_ni_init` is not called while a request is in
  progress.
- **`one_thread_each`**: then a request in progress has exactly one thread, the lock is released
  on every path, and the request can always be finished.
-/

namespace Ancora.LocEng.Ni

open Machine

variable {ρ : Type}

/-- Where the deferred thread is in `loc_ni_request_handler`. -/
inductive Handler (ρ : Type)
  | away
  /-- Found the flag clear, at `pthread_mutex_lock`. -/
  | locking (req : ρ)
  | saving (req : ρ)
  /-- The flag is set; at the switch over the event. -/
  | switching (req : ρ)
  /-- At `pthread_create`. -/
  | creating (req : ρ)
  | unlocking (req : ρ)
  deriving DecidableEq, Repr

/-- The handler has set the flag and not yet come to `pthread_create`. -/
def Handler.yetToCreate : Handler ρ → Bool
  | .switching _ => true
  | .creating _ => true
  | _ => false

/-- The handler is between `pthread_mutex_lock` and `pthread_mutex_unlock`. -/
def Handler.inside : Handler ρ → Bool
  | .away => false
  | .locking _ => false
  | _ => true

/-- Where a thread is in `loc_ni_thread_proc`. -/
inductive ProcPlace
  | starting
  | waiting
  /-- Out of the wait loop, with `user_cb_data_mutex`. -/
  | responding
  /-- At `pthread_mutex_lock(&loc_ni_lock)`. -/
  | finishing
  | clearing
  /-- At `pthread_mutex_unlock(&loc_ni_lock)`. -/
  | exiting
  deriving DecidableEq, Repr

/-- The thread has not taken `loc_ni_lock`. -/
def ProcPlace.beforeLock : ProcPlace → Bool
  | .clearing => false
  | .exiting => false
  | _ => true

/-- A live `loc_ni_thread_proc`, and the request whose handler created it. -/
structure Proc (ρ : Type) where
  req : ρ
  place : ProcPlace
  deriving DecidableEq, Repr

/-- Who has `loc_ni_lock`. -/
inductive NiLock
  | free
  | handler
  | thread
  deriving DecidableEq, Repr

/-- A call of `loc_eng_ni_respond` in progress. -/
structure Answer where
  id : Int
  response : GpsUserResponse
  phase : CallPhase
  deriving DecidableEq, Repr

/-- `loc_eng_ni_data` with everything that uses it. -/
structure NiThreads (ρ : Type) where
  notifInProgress : Bool
  currentNotifId : Int
  responseTimeLeft : Nat
  userResponseReceived : Bool
  resp : NiUserResp
  locNiRequest : ρ
  locNiLock : NiLock
  handler : Handler ρ
  threads : List (Proc ρ)
  answers : List Answer
  /-- Calls of `loc_eng_ni_init` that have cleared the flag and not yet the rest. -/
  inits : Nat
  deriving DecidableEq, Repr

/-- The state the first `loc_eng_ni_init` leaves. -/
def niThreadsInit (ρ : Type) [Inhabited ρ] : NiThreads ρ where
  notifInProgress := false
  currentNotifId := -1
  responseTimeLeft := 0
  userResponseReceived := false
  resp := .accept
  locNiRequest := default
  locNiLock := .free
  handler := .away
  threads := []
  answers := []
  inits := 0

/-- The atomic steps; `i` picks a thread, `j` a call of `loc_eng_ni_respond`. -/
inductive NiThreadsAct (ρ : Type)
  /-- `loc_eng_ni_callback` on the deferred thread. -/
  | callback (req : ρ)
  | lock
  | save
  /-- `id` is `abs(rand())`. -/
  | switch (id : Int)
  | create (created : Bool)
  | unlock
  | start (i : Nat)
  | wake (i : Nat)
  | timeout (i : Nat)
  | respond (i : Nat)
  | finish (i : Nat)
  | clear (i : Nat)
  | exit (i : Nat)
  | answer (id : Int) (r : GpsUserResponse)
  | readId (j : Nat)
  | readBusy (j : Nat)
  | store (j : Nat)
  /-- A further call of `loc_eng_ni_init`. -/
  | init
  | initRest
  deriving DecidableEq, Repr

namespace NiThreads

/-- Some thread has `user_cb_data_mutex`. -/
def mutexHeld (s : NiThreads ρ) : Bool := s.threads.any fun t => t.place = .responding

/-- Thread `i` goes to another place. -/
def move (s : NiThreads ρ) (i : Nat) (t : Proc ρ) (place : ProcPlace) : NiThreads ρ :=
  { s with threads := s.threads.set i { t with place := place } }

/-- The top of the wait loop (loc_eng_ni.cpp:658). -/
def waitLoop (s : NiThreads ρ) (i : Nat) (t : Proc ρ) : NiThreads ρ :=
  if s.userResponseReceived then
    { s.move i t .responding with userResponseReceived := false }
  else s.move i t .waiting

end NiThreads

/-- A step of thread `t`, which is the `i`th (loc_eng_ni.cpp:641–681). -/
def locNiThreadProc (s : NiThreads ρ) (i : Nat) (t : Proc ρ) :
    NiThreadsAct ρ → Option (NiThreads ρ)
  | .start _ => if t.place = .starting ∧ s.mutexHeld = false then some (s.waitLoop i t) else none
  | .wake _ => if t.place = .waiting ∧ s.mutexHeld = false then some (s.waitLoop i t) else none
  | .timeout _ =>
    if t.place = .waiting ∧ s.mutexHeld = false then
      some { s.move i t .responding with resp := .noResp, userResponseReceived := false }
    else none
  | .respond _ => if t.place = .responding then some (s.move i t .finishing) else none
  | .finish _ =>
    if t.place = .finishing ∧ s.locNiLock = .free then
      some { s.move i t .clearing with locNiLock := .thread }
    else none
  | .clear _ =>
    if t.place = .clearing then
      some { s.move i t .exiting with
        notifInProgress := false, responseTimeLeft := 0, currentNotifId := -1 }
    else none
  | .exit _ =>
    if t.place = .exiting then
      some { s with threads := s.threads.eraseIdx i, locNiLock := .free }
    else none
  | _ => none

/-- A step of a call of `loc_eng_ni_respond` (loc_eng_ni.cpp:735–748, 559–591). -/
def locEngNiRespond (s : NiThreads ρ) (j : Nat) (c : Answer) :
    NiThreadsAct ρ → Option (NiThreads ρ)
  | .readId _ =>
    if c.phase = .entered then
      if c.id = s.currentNotifId then
        some { s with answers := s.answers.set j { c with phase := .idRead } }
      else some { s with answers := s.answers.eraseIdx j }
    else none
  | .readBusy _ =>
    if c.phase = .idRead then
      if s.notifInProgress then
        some { s with answers := s.answers.set j { c with phase := .busyRead } }
      else some { s with answers := s.answers.eraseIdx j }
    else none
  | .store _ =>
    if c.phase = .busyRead then
      match c.response.toResp with
      | some x =>
        if s.mutexHeld then none
        else some { s with
          resp := x, userResponseReceived := true, answers := s.answers.eraseIdx j }
      | none => some { s with answers := s.answers.eraseIdx j }
    else none
  | _ => none

section Kind

variable (kind : ρ → NiEventType)

/-- `loc_eng_ni_callback` and the entry of the handler (loc_eng_ni.cpp:300–317, 607–633). -/
def locEngNiCallbackEnter (s : NiThreads ρ) (req : ρ) : NiThreads ρ :=
  if kind req = .other then s
  else if s.notifInProgress then s
  else { s with handler := .locking req }

/-- A step of `loc_ni_request_handler` (loc_eng_ni.cpp:318–549). -/
def locNiRequestHandler (s : NiThreads ρ) (a : NiThreadsAct ρ) : Option (NiThreads ρ) :=
  match s.handler, a with
  | .away, .callback req => some (locEngNiCallbackEnter kind s req)
  | .locking req, .lock =>
    if s.locNiLock = .free then some { s with handler := .saving req, locNiLock := .handler }
    else none
  | .saving req, .save =>
    some { s with locNiRequest := req, notifInProgress := true, handler := .switching req }
  | .switching req, .switch id =>
    some { s with
      currentNotifId := id
      -- the default arm returns with the lock held
      handler := if kind req = .other then .away else .creating req }
  | .creating req, .create created =>
    some { s with
      responseTimeLeft := 5 + locNiNoResponseTime
      threads := if created then s.threads ++ [⟨req, .starting⟩] else s.threads
      handler := .unlocking req }
  | .unlocking _, .unlock => some { s with handler := .away, locNiLock := .free }
  | _, _ => none

/-- One atomic step. -/
def niThreadsStep (s : NiThreads ρ) : NiThreadsAct ρ → Option (NiThreads ρ)
  | .callback req => locNiRequestHandler kind s (.callback req)
  | .lock => locNiRequestHandler kind s .lock
  | .save => locNiRequestHandler kind s .save
  | .switch id => locNiRequestHandler kind s (.switch id)
  | .create created => locNiRequestHandler kind s (.create created)
  | .unlock => locNiRequestHandler kind s .unlock
  | .start i => s.threads[i]?.bind fun t => locNiThreadProc s i t (.start i)
  | .wake i => s.threads[i]?.bind fun t => locNiThreadProc s i t (.wake i)
  | .timeout i => s.threads[i]?.bind fun t => locNiThreadProc s i t (.timeout i)
  | .respond i => s.threads[i]?.bind fun t => locNiThreadProc s i t (.respond i)
  | .finish i => s.threads[i]?.bind fun t => locNiThreadProc s i t (.finish i)
  | .clear i => s.threads[i]?.bind fun t => locNiThreadProc s i t (.clear i)
  | .exit i => s.threads[i]?.bind fun t => locNiThreadProc s i t (.exit i)
  | .answer id r => some { s with answers := s.answers ++ [⟨id, r, .entered⟩] }
  | .readId j => s.answers[j]?.bind fun c => locEngNiRespond s j c (.readId j)
  | .readBusy j => s.answers[j]?.bind fun c => locEngNiRespond s j c (.readBusy j)
  | .store j => s.answers[j]?.bind fun c => locEngNiRespond s j c (.store j)
  | .init => some { s with notifInProgress := false, inits := s.inits + 1 }
  | .initRest =>
    if 0 < s.inits then
      some { s with
        currentNotifId := -1, responseTimeLeft := 0, userResponseReceived := false
        inits := s.inits - 1 }
    else none

end Kind

/-! ## What is wanted, and when it is so -/

/-- The steps that the handler and the threads take by themselves: `pthread_create` succeeds, and
a wait that nobody answers ends with the time-out. -/
def NiThreadsAct.own : NiThreadsAct ρ → Bool
  | .lock | .save | .switch _ | .unlock => true
  | .create created => created
  | .start _ | .timeout _ | .respond _ | .finish _ | .clear _ | .exit _ => true
  | _ => false

/-- The request in progress has its one thread, and it will not be in progress for ever. -/
structure OneThread (kind : ρ → NiEventType) (s : NiThreads ρ) : Prop where
  /-- The flag is set a little before the thread is created; there the handler, which has the
  lock, stands in for the thread. -/
  busy : s.notifInProgress = true → s.handler.yetToCreate = false →
    s.threads.map Proc.req = [s.locNiRequest]
  standsIn : s.handler.yetToCreate = true → s.threads = [] ∧ s.locNiLock = .handler
  idle : s.notifInProgress = false → s.locNiLock = .free → s.threads = []
  /-- Whatever path the handler took, it is out of its section without the lock. -/
  released : s.handler.inside = false → s.locNiLock ≠ .handler
  unblocks : ∃ as s',
    exec (restrict (fun _ a => a.own = true) (niThreadsStep kind)) s as = some s' ∧
      s'.notifInProgress = false ∧ s'.locNiLock = .free

/-- `pthread_create` succeeds, and `loc_eng_ni_init` is not called while a request is in
progress. -/
def oneInTime (s : NiThreads ρ) : NiThreadsAct ρ → Prop
  | .create created => created = true
  | .init => s.notifInProgress = false
  | _ => True

instance (s : NiThreads ρ) (a : NiThreadsAct ρ) : Decidable (oneInTime s a) := by
  unfold oneInTime
  split <;> infer_instance

/-! ## The situations -/

/-- The handler is outside of its section, and comes with a request it knows. -/
def Handler.outside (kind : ρ → NiEventType) : Handler ρ → Prop
  | .away => True
  | .locking req => kind req ≠ .other
  | _ => False

theorem Handler.outside.not_yetToCreate {kind : ρ → NiEventType} {h : Handler ρ}
    (hout : h.outside kind) : h.yetToCreate = false := by
  cases h with
  | switching _ => exact hout.elim
  | creating _ => exact hout.elim
  | _ => rfl

/-- How the handler, the threads, the flag, the lock and the saved request stand together. With
`created` every `pthread_create` has succeeded; without it the last one may have failed. -/
inductive Tidy (kind : ρ → NiEventType) (created : Bool) :
    Handler ρ → List (Proc ρ) → Bool → NiLock → ρ → Prop
  | idle {h saved} : h.outside kind → Tidy kind created h [] false .free saved
  | saving {req saved} : kind req ≠ .other → Tidy kind created (.saving req) [] false .handler saved
  | switching {req} : kind req ≠ .other → Tidy kind created (.switching req) [] true .handler req
  | creating {req} : Tidy kind created (.creating req) [] true .handler req
  | unlocking {req p} : p.beforeLock = true →
      Tidy kind created (.unlocking req) [⟨req, p⟩] true .handler req
  | waiting {req p} : p.beforeLock = true → Tidy kind created .away [⟨req, p⟩] true .free req
  | clearing {req} : Tidy kind created .away [⟨req, .clearing⟩] true .thread req
  | exiting {h req saved} : h.outside kind →
      Tidy kind created h [⟨req, .exiting⟩] false .thread saved
  | unlockingNone {req} : created = false →
      Tidy kind created (.unlocking req) [] true .handler req
  | blocked {req} : created = false → Tidy kind created .away [] true .free req

/-- The state is in one of the situations. -/
def NiThreads.Tidy (kind : ρ → NiEventType) (created : Bool) (s : NiThreads ρ) : Prop :=
  Ni.Tidy kind created s.handler s.threads s.notifInProgress s.locNiLock s.locNiRequest

section Steps

variable {kind : ρ → NiEventType} {created : Bool} {s s' : NiThreads ρ}
variable {handler : Handler ρ} {t : Proc ρ} {flag : Bool} {lock : NiLock} {saved : ρ}

theorem tidy_init [Inhabited ρ] : (niThreadsInit ρ).Tidy kind created := .idle trivial

/-- Calls of `loc_eng_ni_respond` leave the situation as it is. -/
theorem locEngNiRespond_frame {j : Nat} {c : Answer} {a : NiThreadsAct ρ}
    (h : locEngNiRespond s j c a = some s') :
    s'.handler = s.handler ∧ s'.threads = s.threads ∧ s'.notifInProgress = s.notifInProgress ∧
      s'.locNiLock = s.locNiLock ∧ s'.locNiRequest = s.locNiRequest := by
  cases a with
  | readId _ =>
    simp only [locEngNiRespond, Option.ite_none_right_eq_some] at h
    obtain ⟨-, h⟩ := h
    split at h
    · cases h
      exact ⟨rfl, rfl, rfl, rfl, rfl⟩
    · cases h
      exact ⟨rfl, rfl, rfl, rfl, rfl⟩
  | readBusy _ =>
    simp only [locEngNiRespond, Option.ite_none_right_eq_some] at h
    obtain ⟨-, h⟩ := h
    split at h
    · cases h
      exact ⟨rfl, rfl, rfl, rfl, rfl⟩
    · cases h
      exact ⟨rfl, rfl, rfl, rfl, rfl⟩
  | store _ =>
    simp only [locEngNiRespond, Option.ite_none_right_eq_some] at h
    obtain ⟨-, h⟩ := h
    split at h
    · simp only [Option.ite_none_left_eq_some, Option.some.injEq] at h
      obtain ⟨-, rfl⟩ := h
      exact ⟨rfl, rfl, rfl, rfl, rfl⟩
    · cases h
      exact ⟨rfl, rfl, rfl, rfl, rfl⟩
  | _ => cases h

theorem NiThreads.Tidy.answered {j : Nat} {a : NiThreadsAct ρ} (hi : s.Tidy kind created)
    (h : (s.answers[j]?.bind fun c => locEngNiRespond s j c a) = some s') :
    s'.Tidy kind created := by
  obtain ⟨c, -, h⟩ := Option.bind_eq_some_iff.mp h
  obtain ⟨hh, ht, hf, hl, hr⟩ := locEngNiRespond_frame h
  unfold NiThreads.Tidy
  rw [hh, ht, hf, hl, hr]
  exact hi

/-- The handler goes from one situation to the next. -/
theorem NiThreads.Tidy.handled {a : NiThreadsAct ρ} (hi : s.Tidy kind created)
    (hcreate : ∀ c, a = .create c → created = true → c = true)
    (h : locNiRequestHandler kind s a = some s') : s'.Tidy kind created := by
  obtain ⟨flag, id, left, received, resp, saved, lock, handler, threads, answers, inits⟩ := s
  unfold NiThreads.Tidy at hi
  dsimp only at hi
  unfold locNiRequestHandler at h
  dsimp only at h
  split at h
  · rename_i req
    cases h
    unfold locEngNiCallbackEnter
    split
    · exact hi
    · rename_i hkind
      dsimp only
      split
      · exact hi
      · rename_i hflag
        cases hi with
        | idle _ => exact .idle hkind
        | exiting _ => exact .exiting hkind
        | waiting _ => exact absurd rfl hflag
        | clearing => exact absurd rfl hflag
        | blocked _ => exact absurd rfl hflag
  · rename_i req
    simp only [Option.ite_none_right_eq_some, Option.some.injEq] at h
    obtain ⟨hfree, rfl⟩ := h
    cases hi with
    | idle hkind => exact .saving hkind
    | exiting _ => cases hfree
  · rename_i req
    cases h
    cases hi with
    | idle hout => exact hout.elim
    | saving hkind => exact .switching hkind
    | exiting hout => exact hout.elim
  · rename_i req id'
    cases h
    cases hi with
    | idle hout => exact hout.elim
    | switching hkind =>
      unfold NiThreads.Tidy
      dsimp only
      rw [if_neg hkind]
      exact .creating
    | exiting hout => exact hout.elim
  · rename_i req c
    cases h
    cases hi with
    | idle hout => exact hout.elim
    | creating =>
      cases c with
      | true => exact .unlocking rfl
      | false =>
        refine .unlockingNone ?_
        cases hc : created with
        | false => rfl
        | true => cases hcreate false rfl hc
    | exiting hout => exact hout.elim
  · rename_i req
    cases h
    cases hi with
    | idle hout => exact hout.elim
    | unlocking hp => exact .waiting hp
    | unlockingNone hc => exact .blocked hc
    | exiting hout => exact hout.elim
  · cases h

/-- Before it takes the lock the thread may move on in either situation that has one. -/
theorem Tidy.moved {p : ProcPlace} (hi : Tidy kind created handler [t] flag lock saved)
    (hp : t.place.beforeLock = true) (hp' : p.beforeLock = true) :
    Tidy kind created handler [{ t with place := p }] flag lock saved := by
  cases hi with
  | unlocking _ => exact .unlocking hp'
  | waiting _ => exact .waiting hp'
  | clearing => cases hp
  | exiting _ => cases hp

/-- With the lock free the thread can take it. -/
theorem Tidy.finished (hi : Tidy kind created handler [t] flag .free saved) :
    Tidy kind created handler [{ t with place := .clearing }] flag .thread saved := by
  cases hi with
  | waiting _ => exact .clearing

theorem Tidy.cleared (hi : Tidy kind created handler [t] flag lock saved)
    (hp : t.place = .clearing) :
    Tidy kind created handler [{ t with place := .exiting }] false lock saved := by
  cases hi with
  | unlocking hp' =>
    cases hp
    cases hp'
  | waiting hp' =>
    cases hp
    cases hp'
  | clearing => exact .exiting trivial
  | exiting _ => cases hp

theorem Tidy.exited (hi : Tidy kind created handler [t] flag lock saved) (hp : t.place = .exiting) :
    Tidy kind created handler [] flag .free saved := by
  cases hi with
  | unlocking hp' =>
    cases hp
    cases hp'
  | waiting hp' =>
    cases hp
    cases hp'
  | clearing => cases hp
  | exiting hout => exact .idle hout

/-- There is never a second thread. -/
theorem Tidy.length_le {threads : List (Proc ρ)}
    (hi : Tidy kind created handler threads flag lock saved) : threads.length ≤ 1 := by
  cases hi <;> simp only [List.length_nil, List.length_singleton, Nat.zero_le, Nat.le_refl]

theorem NiThreads.Tidy.only {i : Nat} (hi : s.Tidy kind created)
    (ht : s.threads[i]? = some t) : i = 0 ∧ s.threads = [t] := by
  have hlen : s.threads.length ≤ 1 := Ni.Tidy.length_le hi
  have hlt := (List.getElem?_eq_some_iff.mp ht).1
  obtain rfl : i = 0 := by omega
  obtain ⟨t₀, h₀⟩ := List.length_eq_one_iff.mp (Nat.le_antisymm hlen hlt)
  rw [h₀] at ht
  cases ht
  exact ⟨rfl, h₀⟩

/-- A thread that waits, wakes up or responds stays before the lock. -/
theorem NiThreads.Tidy.move {p : ProcPlace} (hi : s.Tidy kind created)
    (hs : s.threads = [t]) (hp : t.place.beforeLock = true) (hp' : p.beforeLock = true) :
    (s.move 0 t p).Tidy kind created := by
  unfold NiThreads.Tidy NiThreads.move at *
  dsimp only
  rw [hs] at hi ⊢
  exact hi.moved hp hp'

theorem NiThreads.Tidy.waitLoop (hi : s.Tidy kind created) (hs : s.threads = [t])
    (hp : t.place.beforeLock = true) : (s.waitLoop 0 t).Tidy kind created := by
  unfold NiThreads.waitLoop
  split
  · exact hi.move (p := .responding) hs hp rfl
  · exact hi.move hs hp rfl

/-- The thread goes from one situation to the next. -/
theorem NiThreads.Tidy.thread {i : Nat} {a : NiThreadsAct ρ}
    (hi : s.Tidy kind created) (ht : s.threads[i]? = some t)
    (h : locNiThreadProc s i t a = some s') : s'.Tidy kind created := by
  obtain ⟨rfl, hs⟩ := hi.only ht
  cases a with
  | start _ =>
    simp only [locNiThreadProc, Option.ite_none_right_eq_some, Option.some.injEq] at h
    obtain ⟨⟨hp, -⟩, rfl⟩ := h
    exact hi.waitLoop hs (by rw [hp]; rfl)
  | wake _ =>
    simp only [locNiThreadProc, Option.ite_none_right_eq_some, Option.some.injEq] at h
    obtain ⟨⟨hp, -⟩, rfl⟩ := h
    exact hi.waitLoop hs (by rw [hp]; rfl)
  | timeout _ =>
    simp only [locNiThreadProc, Option.ite_none_right_eq_some, Option.some.injEq] at h
    obtain ⟨⟨hp, -⟩, rfl⟩ := h
    exact hi.move (p := .responding) hs (by rw [hp]; rfl) rfl
  | respond _ =>
    simp only [locNiThreadProc, Option.ite_none_right_eq_some, Option.some.injEq] at h
    obtain ⟨hp, rfl⟩ := h
    exact hi.move hs (by rw [hp]; rfl) rfl
  | finish _ =>
    simp only [locNiThreadProc, Option.ite_none_right_eq_some, Option.some.injEq] at h
    obtain ⟨⟨-, hfree⟩, rfl⟩ := h
    unfold NiThreads.Tidy at hi
    rw [hs, hfree] at hi
    unfold NiThreads.Tidy NiThreads.move
    rw [hs]
    exact hi.finished
  | clear _ =>
    simp only [locNiThreadProc, Option.ite_none_right_eq_some, Option.some.injEq] at h
    obtain ⟨hp, rfl⟩ := h
    unfold NiThreads.Tidy at hi
    rw [hs] at hi
    unfold NiThreads.Tidy NiThreads.move
    rw [hs]
    exact hi.cleared hp
  | exit _ =>
    simp only [locNiThreadProc, Option.ite_none_right_eq_some, Option.some.injEq] at h
    obtain ⟨hp, rfl⟩ := h
    unfold NiThreads.Tidy at hi
    rw [hs] at hi
    unfold NiThreads.Tidy
    rw [hs]
    exact hi.exited hp
  | _ => cases h

theorem NiThreads.Tidy.threadAt {i : Nat} {a : NiThreadsAct ρ} (hi : s.Tidy kind created)
    (h : (s.threads[i]?.bind fun t => locNiThreadProc s i t a) = some s') :
    s'.Tidy kind created := by
  obtain ⟨t, ht, h⟩ := Option.bind_eq_some_iff.mp h
  exact hi.thread ht h

/-- **Every step leads from one of the situations to another**, if `loc_eng_ni_init` is not called
in the middle of a request. -/
theorem NiThreads.Tidy.step {a : NiThreadsAct ρ} (hi : s.Tidy kind created)
    (hcreate : ∀ c, a = .create c → created = true → c = true)
    (hinit : a = .init → s.notifInProgress = false)
    (h : niThreadsStep kind s a = some s') : s'.Tidy kind created := by
  cases a with
  | callback req => exact hi.handled hcreate h
  | lock => exact hi.handled hcreate h
  | save => exact hi.handled hcreate h
  | switch id => exact hi.handled hcreate h
  | create c => exact hi.handled hcreate h
  | unlock => exact hi.handled hcreate h
  | start i => exact hi.threadAt h
  | wake i => exact hi.threadAt h
  | timeout i => exact hi.threadAt h
  | respond i => exact hi.threadAt h
  | finish i => exact hi.threadAt h
  | clear i => exact hi.threadAt h
  | exit i => exact hi.threadAt h
  | answer id r =>
    cases h
    exact hi
  | readId j => exact hi.answered h
  | readBusy j => exact hi.answered h
  | store j => exact hi.answered h
  | init =>
    cases h
    have hflag := hinit rfl
    unfold NiThreads.Tidy at *
    rwa [hflag] at hi
  | initRest =>
    simp only [niThreadsStep, Option.ite_none_right_eq_some, Option.some.injEq] at h
    obtain ⟨-, rfl⟩ := h
    exact hi

/-! ## The request can be finished -/

/-- How many steps the handler is from leaving its section, the thread it creates included. -/
def Handler.rank : Handler ρ → Nat
  | .away => 0
  | .locking _ => 0
  | .saving _ => 10
  | .switching _ => 9
  | .creating _ => 8
  | .unlocking _ => 1

/-- How many steps a thread is from its end. -/
def ProcPlace.rank : ProcPlace → Nat
  | .starting => 6
  | .waiting => 5
  | .responding => 4
  | .finishing => 3
  | .clearing => 2
  | .exiting => 1

def NiThreads.rank (s : NiThreads ρ) : Nat :=
  s.handler.rank + (s.threads.map fun t => t.place.rank).sum

/-- Before the lock the thread's next step is always possible: nobody else has the mutex. -/
theorem exists_thread_step {req : ρ} {p : ProcPlace} (hs : s.threads = [⟨req, p⟩])
    (hp : p.beforeLock = true) (hfree : s.locNiLock = .free) :
    ∃ a s', a.own = true ∧ niThreadsStep kind s a = some s' ∧ s'.rank < s.rank := by
  obtain ⟨flag, id, left, received, resp, saved, lock, handler, threads, answers, inits⟩ := s
  cases hs
  cases hfree
  cases p with
  | starting =>
    refine ⟨.start 0, _, rfl, rfl, ?_⟩
    cases received <;> simp [NiThreads.waitLoop, NiThreads.move, NiThreads.rank, ProcPlace.rank]
  | waiting =>
    refine ⟨.timeout 0, _, rfl, rfl, ?_⟩
    simp [NiThreads.move, NiThreads.rank, ProcPlace.rank]
  | responding =>
    refine ⟨.respond 0, _, rfl, rfl, ?_⟩
    simp [NiThreads.move, NiThreads.rank, ProcPlace.rank]
  | finishing =>
    refine ⟨.finish 0, _, rfl, rfl, ?_⟩
    simp [NiThreads.move, NiThreads.rank, ProcPlace.rank]
  | clearing => cases hp
  | exiting => cases hp

/-- As long as the flag is set or the lock taken, the handler or the thread can take a step, and
comes nearer to its end. -/
theorem NiThreads.Tidy.exists_own_step (hi : s.Tidy kind true)
    (hgoal : ¬ (s.notifInProgress = false ∧ s.locNiLock = .free)) :
    ∃ a s', a.own = true ∧ niThreadsStep kind s a = some s' ∧ s'.rank < s.rank := by
  obtain ⟨flag, id, left, received, resp, saved, lock, handler, threads, answers, inits⟩ := s
  unfold NiThreads.Tidy at hi
  dsimp only at hi hgoal
  cases hi with
  | idle _ => exact absurd ⟨rfl, rfl⟩ hgoal
  | saving _ =>
    refine ⟨.save, _, rfl, rfl, ?_⟩
    simp [NiThreads.rank, Handler.rank]
  | switching hkind =>
    refine ⟨.switch 0, _, rfl, rfl, ?_⟩
    simp [NiThreads.rank, Handler.rank, hkind]
  | creating =>
    refine ⟨.create true, _, rfl, rfl, ?_⟩
    simp [NiThreads.rank, Handler.rank, ProcPlace.rank]
  | unlocking _ =>
    refine ⟨.unlock, _, rfl, rfl, ?_⟩
    simp [NiThreads.rank, Handler.rank]
  | waiting hp => exact exists_thread_step rfl hp rfl
  | clearing =>
    refine ⟨.clear 0, _, rfl, rfl, ?_⟩
    simp [NiThreads.move, NiThreads.rank, ProcPlace.rank]
  | exiting _ =>
    refine ⟨.exit 0, _, rfl, rfl, ?_⟩
    simp [NiThreads.rank, ProcPlace.rank]
  | unlockingNone hc => cases hc
  | blocked hc => cases hc

/-- **A request can always be finished by the handler and its thread alone.** -/
theorem NiThreads.Tidy.unblocks (hi : s.Tidy kind true) :
    ∃ as s', exec (restrict (fun _ a => a.own = true) (niThreadsStep kind)) s as = some s' ∧
      s'.notifInProgress = false ∧ s'.locNiLock = .free := by
  refine reaches_of_measure (σ := NiThreads ρ) NiThreads.rank ?_ s hi
  intro s hi hgoal
  obtain ⟨a, s', hown, h, hlt⟩ := NiThreads.Tidy.exists_own_step hi hgoal
  refine ⟨a, s', restrict_eq_some.mpr ⟨hown, h⟩, ?_, hlt⟩
  refine hi.step ?_ ?_ h
  · rintro c rfl -
    exact hown
  · rintro rfl
    cases hown

/-- Every situation is as it should be. -/
theorem Tidy.busy {threads : List (Proc ρ)} (hi : Tidy kind true handler threads true lock saved)
    (hh : handler.yetToCreate = false) : threads.map Proc.req = [saved] := by
  cases hi with
  | switching _ => cases hh
  | creating => cases hh
  | unlocking _ => rfl
  | waiting _ => rfl
  | clearing => rfl
  | unlockingNone hc => cases hc
  | blocked hc => cases hc

theorem Tidy.standsIn {threads : List (Proc ρ)}
    (hi : Tidy kind created handler threads flag lock saved) (hh : handler.yetToCreate = true) :
    threads = [] ∧ lock = .handler := by
  cases hi with
  | idle hout => exact absurd hh (by rw [hout.not_yetToCreate]; decide)
  | switching _ => exact ⟨rfl, rfl⟩
  | creating => exact ⟨rfl, rfl⟩
  | exiting hout => exact absurd hh (by rw [hout.not_yetToCreate]; decide)
  | _ => cases hh

theorem Tidy.released {threads : List (Proc ρ)}
    (hi : Tidy kind created handler threads flag lock saved) (hh : handler.inside = false) :
    lock ≠ .handler := by
  rintro rfl
  cases hi <;> cases hh

theorem Tidy.none_left {threads : List (Proc ρ)}
    (hi : Tidy kind created handler threads false .free saved) : threads = [] := by
  cases hi
  rfl

theorem NiThreads.Tidy.oneThread (hi : s.Tidy kind true) : OneThread kind s where
  busy hflag := by
    unfold NiThreads.Tidy at hi
    rw [hflag] at hi
    exact hi.busy
  standsIn := Ni.Tidy.standsIn hi
  idle hflag hfree := by
    unfold NiThreads.Tidy at hi
    rw [hflag, hfree] at hi
    exact hi.none_left
  released := Ni.Tidy.released hi
  unblocks := hi.unblocks

end Steps

/-- **In every run in which `pthread_create` succeeds and `loc_eng_ni_init` is not called while a
request is in progress, a request in progress has exactly one thread, an idle machine has none, the
lock is released on every path, and no request is in progress for ever.** -/
theorem one_thread_each [Inhabited ρ] (kind : ρ → NiEventType) {as : List (NiThreadsAct ρ)}
    {s : NiThreads ρ}
    (hrun : exec (restrict oneInTime (niThreadsStep kind)) (niThreadsInit ρ) as = some s) :
    OneThread kind s := by
  have hi : s.Tidy kind true := by
    refine exec_restrict_invariant ?_ tidy_init hrun
    intro s a s' hok h hi
    refine NiThreads.Tidy.step hi ?_ ?_ h
    · rintro c rfl -
      exact hok
    · rintro rfl
      exact hok
  exact hi.oneThread

/-- A VX request. -/
def vxRequest : NiRequest := { (default : NiRequest) with event := .vxNotifyVerifyReq }

/-- The handler accepts the request. -/
def requestCreated (created : Bool) : List (NiThreadsAct NiRequest) :=
  [.callback vxRequest, .lock, .save, .switch 7, .create created, .unlock]

/-- It is answered, another one is ignored, `loc_eng_ni_init` is called again, and the next one is
accepted. -/
def requestTwice : List (NiThreadsAct NiRequest) :=
  requestCreated true ++ [NiThreadsAct.start 0, .callback vxRequest, .answer 7 .accept, .readId 0,
    .readBusy 0, .store 0, .wake 0, .respond 0, .finish 0, .clear 0, .exit 0, .init, .initRest] ++
    requestCreated true

theorem one_thread_each_twice :
    ∃ s, exec (restrict oneInTime (niThreadsStep NiRequest.event)) (niThreadsInit NiRequest)
        requestTwice = some s ∧ s.notifInProgress = true ∧ OneThread NiRequest.event s := by
  have hend : (exec (restrict oneInTime (niThreadsStep NiRequest.event)) (niThreadsInit NiRequest)
      requestTwice).map NiThreads.notifInProgress = some true := by decide +kernel
  obtain ⟨s, hrun, hflag⟩ := Option.map_eq_some_iff.mp hend
  exact ⟨s, hrun, hflag, one_thread_each NiRequest.event hrun⟩

/-- `pthread_create` fails: the request stays in progress without a thread. -/
theorem request_without_thread :
    ∃ s, exec (niThreadsStep NiRequest.event) (niThreadsInit NiRequest) (requestCreated false) =
        some s ∧ s.notifInProgress = true ∧ s.handler = .away ∧ s.locNiLock = .free ∧
        s.threads = [] ∧ ¬ OneThread NiRequest.event s := by
  refine ⟨_, rfl, rfl, rfl, rfl, rfl, ?_⟩
  intro h
  cases h.busy rfl rfl

end Ancora.LocEng.Ni
