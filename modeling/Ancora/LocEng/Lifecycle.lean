import Ancora.LocApi.Glue
import Ancora.LocEng.Pieces

/-!
# Lifecycles of the engine

`loc_eng_init` and `loc_eng_cleanup`, as often as the framework calls them, with
the RPC client of the glue, the modem's side of it, and the deferred threads that
the calls create and join. Between two calls anything may happen that the engine
machine allows.

- One framework thread makes the calls, so a call is a place of `FrameworkPc`; a
  call is cut where a deferred thread or the modem may see the difference.
- `clnt_create`, thread creation and every RPC that is sent succeed, and the modem
  hands out handles that are not negative.
- `loc_eng_set_gps_lock` is sent by the deferred thread as its first and as its
  last action; with no client, or with no slot for a synchronous call, it is not
  sent.
- **`lifecycle_sound`**: after every `loc_eng_init` the client is there and open,
  and there is one deferred thread at most and none after `loc_eng_cleanup`, in
  every run in which `loc_eng_init` is only called while the engine is down.
- **`gps_lock_follows`**: the modem's lock follows the lifecycle in those runs only
  in which no `loc_eng_cleanup` returns: it closes the client before it lets the
  thread send LOCK_ALL.
-/

namespace Ancora.LocEng

open Machine LocApi

variable {α : Type}

/-! ## The machine -/

/-- `rpc_loc_lock_e_type`, the two values the engine sends. -/
inductive EngineLock
  | none
  | all
  deriving DecidableEq, Repr

/-- The modem: the handles it has given out and not closed, and the last
`SET_ENGINE_LOCK` value it accepted. -/
structure Modem where
  opened : List Int
  lock : Option EngineLock
  deriving DecidableEq, Repr

/-- A deferred thread: before its first ioctl, or in its loop; past the loop
(`done`) it still has its last ioctl to send. -/
inductive DeferredThread (α : Type)
  | starting
  | inLoop (pc : ThreadPc α)
  deriving DecidableEq, Repr

/-- Where the framework thread is in `loc_eng_init` or `loc_eng_cleanup`. -/
inductive FrameworkPc
  | idle
  | initialising
  | deinited
  | quitRaised
  | joining (target : Option Nat)
  deriving DecidableEq, Repr

/-- The engine over several lifecycles. -/
structure LifeState (α : Type) where
  /-- The shared record and the calls in progress; the place of each deferred
  thread is in `threads`. -/
  eng : EngState α
  deferredActionThread : Option Nat
  glue : Glue Unit
  modem : Modem
  threads : List (Nat × DeferredThread α)
  nextThread : Nat
  framework : FrameworkPc
  deriving DecidableEq

/-- The atomic steps; `i` picks a deferred thread. -/
inductive LifeAct (α : Type)
  | init (cb : GpsCallbacks) (handle : Int) (rc : Int)
  | initReturn
  | cleanup (rc : Int)
  | cleanupQuit
  | cleanupJoin
  | cleanupReturn
  | lockNone (i : Nat) (slot : Bool)
  | thread (i : Nat) (a : EngAct α)
  | lockAll (i : Nat) (slot : Bool)
  | call (a : EngAct α)
  deriving DecidableEq, Repr

/-- The calls that may come at any time. -/
def EngAct.isFree : EngAct α → Bool
  | .deinit _ => false
  | .quit => false
  | a => a.isCall

/-- `loc_eng_deinit` (loc_eng.cpp:311) with the `loc_close` it makes; `rc` is the
result of `loc_stop_fix`. -/
def deinitClient (rc : Int) (s : LifeState α) : LifeState α :=
  let d := s.eng.data
  let s := { s with eng := { s.eng with data := locEngDeinit rc d } }
  if d.locEngInited ∧ d.clientOpened then
    { s with
      glue := (locClose d.clientHandle (some rpcLocApiSuccess) s.glue).2
      modem :=
        if s.glue.clnt then
          { s.modem with opened := s.modem.opened.filter (· ≠ d.clientHandle) }
        else s.modem }
  else s

/-- `loc_eng_init` (loc_eng.cpp:212) up to the creation of the thread, which is
the last thing before `loc_eng_inited = 1`; `handle` is what the modem returns. -/
def initClient [Inhabited α] (cb : GpsCallbacks) (handle rc : Int) (s : LifeState α) :
    LifeState α :=
  let s := deinitClient rc { s with glue := locApiGlueInit true s.glue }
  let opened := locOpen () (some handle) s.glue
  { s with
    eng := { s.eng with
      data := { locEngInit cb opened.1 rc s.eng.data with locEngInited := false } }
    glue := opened.2
    modem :=
      if locOpenSends () s.glue then { s.modem with opened := handle :: s.modem.opened }
      else s.modem
    threads := s.threads ++ [(s.nextThread, .starting)]
    deferredActionThread := some s.nextThread
    nextThread := s.nextThread + 1
    framework := .initialising }

/-- `loc_eng_set_gps_lock` (loc_eng.cpp:2085). -/
def locEngSetGpsLock (lock : EngineLock) (slot : Bool) (s : LifeState α) : LifeState α :=
  if s.glue.clnt && slot then { s with modem := { s.modem with lock := some lock } } else s

/-- One atomic step. -/
def lifeStep [Inhabited α] (s : LifeState α) : LifeAct α → Option (LifeState α)
  | .init cb handle rc =>
    -- loc_eng_stop inside loc_eng_deinit takes deferred_stop_mutex
    if s.framework = .idle ∧ 0 ≤ handle ∧
        (s.eng.data.locEngInited = true → s.eng.stopDeferring = false) then
      some (initClient cb handle rc s)
    else none
  | .initReturn =>
    if s.framework = .initialising then
      some { s with
        eng := { s.eng with data := { s.eng.data with locEngInited := true } }
        framework := .idle }
    else none
  | .cleanup rc =>
    if s.framework = .idle ∧ (s.eng.data.locEngInited = true → s.eng.stopDeferring = false) then
      some { deinitClient rc s with framework := .deinited }
    else none
  | .cleanupQuit =>
    if s.framework = .deinited then
      match s.deferredActionThread with
      | some _ =>
        some { s with
          eng := { s.eng with data := raiseQuit s.eng.data }, framework := .quitRaised }
      | none => some { s with framework := .joining none }
    else none
  | .cleanupJoin =>
    if s.framework = .quitRaised then
      some { s with framework := .joining s.deferredActionThread }
    else none
  | .cleanupReturn =>
    match s.framework with
    | .joining target =>
      -- pthread_join returns at once if there is no such thread
      if ∃ t ∈ s.threads, target = some t.1 then none
      else some { s with deferredActionThread := none, framework := .idle }
    | .idle => none
    | .initialising => none
    | .deinited => none
    | .quitRaised => none
  | .lockNone i slot =>
    match s.threads[i]? with
    | some (id, .starting) =>
      let s := locEngSetGpsLock .none slot s
      some { s with threads := s.threads.set i (id, .inLoop .top) }
    | _ => none
  | .thread i a =>
    match s.threads[i]? with
    | some (id, .inLoop pc) =>
      if a.isCall then none
      else
        (engStep { s.eng with thread := pc } a).map fun e =>
          { s with
            eng := { e with thread := s.eng.thread }
            threads := s.threads.set i (id, .inLoop e.thread) }
    | _ => none
  | .lockAll i slot =>
    match s.threads[i]? with
    | some (_, .inLoop .done) =>
      let s := locEngSetGpsLock .all slot s
      -- clearing the field is the last thing the thread does
      some { s with threads := s.threads.eraseIdx i, deferredActionThread := none }
    | _ => none
  | .call a =>
    if a.isFree then (engStep s.eng a).map fun e => { s with eng := e } else none

/-- Before the first call. -/
def lifeInit (α : Type) [Inhabited α] : LifeState α where
  eng :=
    { data := LocEngData.boot α, thread := .top, stopDeferring := false, stopDirects := 0
      xtraProxies := 0 }
  deferredActionThread := none
  glue := Glue.boot Unit
  modem := { opened := [], lock := none }
  threads := []
  nextThread := 0
  framework := .idle

/-- What a step does, case by case. -/
inductive LifeStep [Inhabited α] (s : LifeState α) : LifeAct α → LifeState α → Prop
  | init (cb handle rc) (hf : s.framework = .idle) (hh : 0 ≤ handle) :
      LifeStep s (.init cb handle rc) (initClient cb handle rc s)
  | initReturn (hf : s.framework = .initialising) :
      LifeStep s .initReturn
        { s with
          eng := { s.eng with data := { s.eng.data with locEngInited := true } }
          framework := .idle }
  | cleanup (rc) (hf : s.framework = .idle) :
      LifeStep s (.cleanup rc) { deinitClient rc s with framework := .deinited }
  | cleanupQuit {id : Nat} (hf : s.framework = .deinited) (ht : s.deferredActionThread = some id) :
      LifeStep s .cleanupQuit
        { s with eng := { s.eng with data := raiseQuit s.eng.data }, framework := .quitRaised }
  | cleanupNoThread (hf : s.framework = .deinited) (ht : s.deferredActionThread = none) :
      LifeStep s .cleanupQuit { s with framework := .joining none }
  | cleanupJoin (hf : s.framework = .quitRaised) :
      LifeStep s .cleanupJoin { s with framework := .joining s.deferredActionThread }
  | cleanupReturn {target : Option Nat} (hf : s.framework = .joining target)
      (ht : ∀ t ∈ s.threads, target ≠ some t.1) :
      LifeStep s .cleanupReturn { s with deferredActionThread := none, framework := .idle }
  | lockNone (i slot) {id : Nat} (ht : s.threads[i]? = some (id, .starting)) :
      LifeStep s (.lockNone i slot)
        { locEngSetGpsLock .none slot s with threads := s.threads.set i (id, .inLoop .top) }
  | thread (i) {a : EngAct α} {id : Nat} {pc : ThreadPc α} {e : EngState α}
      (ht : s.threads[i]? = some (id, .inLoop pc)) (ha : a.isCall = false)
      (he : EngStep { s.eng with thread := pc } a e) :
      LifeStep s (.thread i a)
        { s with
          eng := { e with thread := s.eng.thread }
          threads := s.threads.set i (id, .inLoop e.thread) }
  | lockAll (i slot) {id : Nat} (ht : s.threads[i]? = some (id, .inLoop .done)) :
      LifeStep s (.lockAll i slot)
        { locEngSetGpsLock .all slot s with
          threads := s.threads.eraseIdx i, deferredActionThread := none }
  | call {a : EngAct α} {e : EngState α} (ha : a.isFree = true) (he : EngStep s.eng a e) :
      LifeStep s (.call a) { s with eng := e }

theorem locEngSetGpsLock_threads (lock : EngineLock) (slot : Bool) (s : LifeState α) :
    (locEngSetGpsLock lock slot s).threads = s.threads := by
  unfold locEngSetGpsLock
  split <;> rfl

theorem lifeStep_cases [Inhabited α] {s s' : LifeState α} {a : LifeAct α}
    (h : lifeStep s a = some s') : LifeStep s a s' := by
  cases a with
  | init cb handle rc =>
    simp only [lifeStep, Option.ite_none_right_eq_some, Option.some.injEq] at h
    obtain ⟨⟨hf, hh, -⟩, rfl⟩ := h
    exact .init cb handle rc hf hh
  | initReturn =>
    simp only [lifeStep, Option.ite_none_right_eq_some, Option.some.injEq] at h
    obtain ⟨hf, rfl⟩ := h
    exact .initReturn hf
  | cleanup rc =>
    simp only [lifeStep, Option.ite_none_right_eq_some, Option.some.injEq] at h
    obtain ⟨⟨hf, -⟩, rfl⟩ := h
    exact .cleanup rc hf
  | cleanupQuit =>
    simp only [lifeStep, Option.ite_none_right_eq_some] at h
    obtain ⟨hf, h⟩ := h
    split at h
    next id ht =>
      cases h
      exact .cleanupQuit hf ht
    next ht =>
      cases h
      exact .cleanupNoThread hf ht
  | cleanupJoin =>
    simp only [lifeStep, Option.ite_none_right_eq_some, Option.some.injEq] at h
    obtain ⟨hf, rfl⟩ := h
    exact .cleanupJoin hf
  | cleanupReturn =>
    cases hf : s.framework with
    | joining target =>
      simp only [lifeStep, hf, Option.ite_none_left_eq_some, Option.some.injEq] at h
      obtain ⟨ht, rfl⟩ := h
      exact .cleanupReturn hf fun t hmem heq => ht ⟨t, hmem, heq⟩
    | idle => simp [lifeStep, hf] at h
    | initialising => simp [lifeStep, hf] at h
    | deinited => simp [lifeStep, hf] at h
    | quitRaised => simp [lifeStep, hf] at h
  | lockNone i slot =>
    simp only [lifeStep] at h
    split at h
    next id ht =>
      rw [locEngSetGpsLock_threads, Option.some.injEq] at h
      exact h ▸ .lockNone i slot ht
    next => cases h
  | thread i a =>
    simp only [lifeStep] at h
    split at h
    next id pc ht =>
      rw [Option.ite_none_left_eq_some] at h
      obtain ⟨ha, h⟩ := h
      obtain ⟨e, he, rfl⟩ := Option.map_eq_some_iff.mp h
      exact .thread i ht (by simpa using ha) (engStep_cases he)
    next => cases h
  | lockAll i slot =>
    simp only [lifeStep] at h
    split at h
    next id ht =>
      rw [locEngSetGpsLock_threads, Option.some.injEq] at h
      exact h ▸ .lockAll i slot ht
    next => cases h
  | call a =>
    simp only [lifeStep, Option.ite_none_right_eq_some] at h
    obtain ⟨ha, h⟩ := h
    obtain ⟨e, he, rfl⟩ := Option.map_eq_some_iff.mp h
    exact .call ha (engStep_cases he)

/-! ## What the engine does between the calls -/

/-- The client in the record. -/
def client (d : LocEngData α) : Int × Bool × Bool :=
  (d.clientHandle, d.clientOpened, d.locEngInited)

theorem client_quitOrCopy (s : EngState α) (d : LocEngData α) :
    client (quitOrCopy s d).data = client d := by
  unfold quitOrCopy
  split <;> rfl

/-- Only `loc_eng_deinit` touches the client. -/
theorem EngStep.client_eq {s s' : EngState α} {a : EngAct α} (h : EngStep s a s')
    (ha : ∀ rc, a ≠ .deinit rc) : client s'.data = client s.data := by
  by_cases hc : a.isCall = true
  · have hun := congrArg client (h.call_untouched hc)
    cases a <;> first | exact hun | exact absurd rfl (ha _)
  cases h with
  | topWait _ _ => rfl
  | topCopy _ _ => exact client_quitOrCopy s _
  | wake _ => exact client_quitOrCopy s _
  | @micro rc mute m _ _ _ =>
    have hun := congrArg client (m.run_untouched rc mute s.data)
    cases m <;> exact hun
  | loop _ => rfl
  | _ => exact absurd rfl hc

theorem EngAct.not_deinit_of_isFree {a : EngAct α} (h : a.isFree = true) (rc : Int) :
    a ≠ .deinit rc := by
  rintro rfl
  cases h

theorem EngAct.not_deinit_of_not_isCall {a : EngAct α} (h : a.isCall = false) (rc : Int) :
    a ≠ .deinit rc := by
  rintro rfl
  cases h

/-- `loc_eng_deinit` leaves the engine down. -/
theorem locEngDeinit_inited (rc : Int) (d : LocEngData α) :
    (locEngDeinit rc d).locEngInited = false := by
  unfold locEngDeinit
  by_cases h : d.locEngInited = true
  · rw [if_pos h]
  · rw [if_neg h]
    simpa using h

theorem locEngDeinit_of_uninited (rc : Int) {d : LocEngData α} (h : d.locEngInited = false) :
    locEngDeinit rc d = d := if_neg (by simp [h])

/-- An engine that is down has nothing to close. -/
theorem deinitClient_of_uninited (rc : Int) {s : LifeState α}
    (h : s.eng.data.locEngInited = false) : deinitClient rc s = s := by
  unfold deinitClient
  rw [if_neg (by simp [h]), locEngDeinit_of_uninited rc h]

theorem deinitClient_threads (rc : Int) (s : LifeState α) :
    (deinitClient rc s).threads = s.threads ∧
      (deinitClient rc s).deferredActionThread = s.deferredActionThread ∧
      (deinitClient rc s).modem.lock = s.modem.lock ∧
      (deinitClient rc s).eng.data = locEngDeinit rc s.eng.data := by
  simp only [deinitClient]
  split
  · refine ⟨rfl, rfl, ?_, rfl⟩
    show (if s.glue.clnt = true then _ else s.modem).lock = s.modem.lock
    split <;> rfl
  · exact ⟨rfl, rfl, rfl, rfl⟩

/-- An open client is closed, and with it the RPC client is gone. -/
theorem deinitClient_clnt (rc : Int) {s : LifeState α}
    (h : s.glue.clnt = true →
      s.eng.data.locEngInited = true ∧ s.eng.data.clientOpened = true) :
    (deinitClient rc s).glue.clnt = false := by
  unfold deinitClient
  by_cases hopen : s.eng.data.locEngInited = true ∧ s.eng.data.clientOpened = true
  · rw [if_pos hopen]
    exact clnt_locClose _ _ _
  · rw [if_neg hopen]
    by_contra hne
    exact hopen (h (by simpa using hne))

/-- `loc_open` on a client that was just created. -/
theorem initClient_opened [Inhabited α] (cb : GpsCallbacks) {handle : Int} (rc : Int)
    {s : LifeState α} (hclnt : s.glue.clnt = false) (hh : 0 ≤ handle)
    (hopen : s.eng.data.locEngInited = true → s.eng.data.clientOpened = false) :
    (initClient cb handle rc s).glue.clnt = true ∧
      (initClient cb handle rc s).eng.data.clientHandle = handle ∧
      (initClient cb handle rc s).eng.data.clientOpened = true ∧
      handle ∈ (initClient cb handle rc s).modem.opened := by
  have hglue : (deinitClient rc { s with glue := locApiGlueInit true s.glue }).glue =
      locApiGlueInit true s.glue := by
    unfold deinitClient
    rw [if_neg]
    rintro ⟨hin, hop⟩
    rw [hopen hin] at hop
    cases hop
  have hslot := slot_locApiGlueInit hclnt ()
  have hnew := clnt_locApiGlueInit s.glue
  obtain ⟨hret, hclnt'⟩ := locOpen_slot hnew hslot handle
  unfold initClient
  simp only [hglue, locOpenSends_slot hnew hslot, if_true]
  refine ⟨hclnt', hret, ?_, List.mem_cons_self⟩
  show decide (0 ≤ (locOpen () (some handle) (locApiGlueInit true s.glue)).1) = true
  rw [hret]
  simpa using hh

/-! ## One thread, one open client -/

/-- What `loc_eng_init` promises on return. -/
structure InitOk (s : LifeState α) : Prop where
  clnt : s.glue.clnt = true
  handle : s.eng.data.clientHandle ∈ s.modem.opened
  opened : s.eng.data.clientOpened = true

/-- The condition on a step: `loc_eng_init` is called while the engine is down. -/
def initWhenDown (s : LifeState α) : LifeAct α → Prop
  | .init _ _ _ => s.eng.data.locEngInited = false
  | _ => True

instance (s : LifeState α) : (a : LifeAct α) → Decidable (initWhenDown s a)
  | .init _ _ _ => inferInstanceAs (Decidable (_ = _))
  | .initReturn | .cleanup _ | .cleanupQuit | .cleanupJoin | .cleanupReturn | .lockNone _ _
  | .thread _ _ | .lockAll _ _ | .call _ => .isTrue trivial

/-- The deferred threads that exist. -/
def threadIds (s : LifeState α) : List Nat := s.threads.map Prod.fst

/-- What holds at each place of the framework thread. -/
def LifePhase (s : LifeState α) : FrameworkPc → Prop
  | .idle =>
    (s.eng.data.locEngInited = true → InitOk s) ∧
      (s.eng.data.locEngInited = false → s.glue.clnt = false ∧ threadIds s = [])
  | .initialising => InitOk s
  | .deinited => s.eng.data.locEngInited = false ∧ s.glue.clnt = false
  | .quitRaised => s.eng.data.locEngInited = false ∧ s.glue.clnt = false
  | .joining target =>
    s.eng.data.locEngInited = false ∧ s.glue.clnt = false ∧ ∀ id ∈ threadIds s, target = some id

/-- The thread that exists is the one in the record, and the client is there
between the calls. -/
structure LifeInv (s : LifeState α) : Prop where
  one : threadIds s = s.deferredActionThread.toList
  phase : LifePhase s s.framework

theorem threadIds_set {s : LifeState α} {i id : Nat} {t t' : DeferredThread α}
    (ht : s.threads[i]? = some (id, t)) :
    (s.threads.set i (id, t')).map Prod.fst = threadIds s := by
  rw [List.map_set]
  refine List.ext_getElem? fun j => ?_
  rw [List.getElem?_set]
  by_cases hij : i = j
  · subst hij
    have hid : (threadIds s)[i]? = some id := by
      rw [threadIds, List.getElem?_map, ht]
      rfl
    have hlt : i < (s.threads.map Prod.fst).length := (List.getElem?_eq_some_iff.mp hid).1
    rw [if_pos rfl, if_pos hlt, hid]
  · rw [if_neg hij]
    rfl

section Steps

variable {s s' : LifeState α}

theorem InitOk.congr (hi : InitOk s) (hc : client s'.eng.data = client s.eng.data)
    (hg : s'.glue.clnt = s.glue.clnt) (hm : s'.modem.opened = s.modem.opened) : InitOk s' := by
  have hh : s'.eng.data.clientHandle = s.eng.data.clientHandle := congrArg (·.1) hc
  have ho : s'.eng.data.clientOpened = s.eng.data.clientOpened := congrArg (·.2.1) hc
  refine ⟨hg.trans hi.clnt, ?_, ho.trans hi.opened⟩
  rw [hh, hm]
  exact hi.handle

/-- What holds at a place does not depend on what the threads do, nor on whether
they have ended. -/
theorem LifePhase.congr {pc : FrameworkPc} (hp : LifePhase s pc)
    (hids : ∀ id ∈ threadIds s', id ∈ threadIds s)
    (hc : client s'.eng.data = client s.eng.data) (hg : s'.glue.clnt = s.glue.clnt)
    (hm : s'.modem.opened = s.modem.opened) : LifePhase s' pc := by
  have hin : s'.eng.data.locEngInited = s.eng.data.locEngInited := congrArg (·.2.2) hc
  cases pc with
  | idle =>
    constructor
    · intro hup
      exact (hp.1 (hin ▸ hup)).congr hc hg hm
    · intro hdown
      obtain ⟨hclnt, hnil⟩ := hp.2 (hin ▸ hdown)
      refine ⟨hg.trans hclnt, List.eq_nil_iff_forall_not_mem.mpr fun id hid => ?_⟩
      have := hids id hid
      rw [hnil] at this
      cases this
  | initialising => exact InitOk.congr hp hc hg hm
  | deinited => exact ⟨hin.trans hp.1, hg.trans hp.2⟩
  | quitRaised => exact ⟨hin.trans hp.1, hg.trans hp.2⟩
  | joining target =>
    exact ⟨hin.trans hp.1, hg.trans hp.2.1, fun id hid => hp.2.2 id (hids id hid)⟩

/-- A step of a deferred thread or of a call between the framework's. -/
theorem LifeInv.congr (hi : LifeInv s) (hids : threadIds s' = threadIds s)
    (hfield : s'.deferredActionThread = s.deferredActionThread)
    (hc : client s'.eng.data = client s.eng.data) (hg : s'.glue.clnt = s.glue.clnt)
    (hm : s'.modem.opened = s.modem.opened) (hf : s'.framework = s.framework) : LifeInv s' := by
  refine ⟨by rw [hids, hfield]; exact hi.one, ?_⟩
  rw [hf]
  exact hi.phase.congr (fun id hid => hids ▸ hid) hc hg hm

theorem locEngSetGpsLock_frame (lock : EngineLock) (slot : Bool) (s : LifeState α) :
    (locEngSetGpsLock lock slot s).eng = s.eng ∧ (locEngSetGpsLock lock slot s).glue = s.glue ∧
      (locEngSetGpsLock lock slot s).modem.opened = s.modem.opened ∧
      (locEngSetGpsLock lock slot s).deferredActionThread = s.deferredActionThread ∧
      (locEngSetGpsLock lock slot s).framework = s.framework := by
  unfold locEngSetGpsLock
  split <;> exact ⟨rfl, rfl, rfl, rfl, rfl⟩

theorem LifeInv.oneThread (hi : LifeInv s) : s.threads.length ≤ 1 := by
  have hlen := congrArg List.length hi.one
  rw [threadIds, List.length_map] at hlen
  rw [hlen]
  cases s.deferredActionThread <;> simp

/-- The end of the one thread there is. -/
theorem LifeInv.threadEnd (hi : LifeInv s) {i id : Nat} {t : DeferredThread α}
    (ht : s.threads[i]? = some (id, t)) : s.threads.eraseIdx i = [] := by
  have hone := hi.oneThread
  have hlt : i < s.threads.length := (List.getElem?_eq_some_iff.mp ht).1
  have hlen : (s.threads.eraseIdx i).length = 0 := by
    rw [List.length_eraseIdx, if_pos hlt]
    omega
  exact List.eq_nil_of_length_eq_zero hlen

theorem LifeInv.step [Inhabited α] {a : LifeAct α} (hok : initWhenDown s a)
    (h : lifeStep s a = some s') (hi : LifeInv s) : LifeInv s' := by
  have hp := hi.phase
  cases lifeStep_cases h with
  | init cb handle rc hf hh =>
    rw [hf] at hp
    obtain ⟨hclnt, hids⟩ := hp.2 hok
    obtain ⟨hclnt', hh', hop', hmem⟩ := initClient_opened cb rc hclnt hh fun hin => by
      rw [show s.eng.data.locEngInited = false from hok] at hin
      cases hin
    refine ⟨?_, hclnt', by rw [hh']; exact hmem, hop'⟩
    have hsame : deinitClient rc { s with glue := locApiGlueInit true s.glue } =
        { s with glue := locApiGlueInit true s.glue } := deinitClient_of_uninited rc hok
    show ((deinitClient rc { s with glue := locApiGlueInit true s.glue }).threads ++ _).map _ = _
    rw [hsame, List.map_append, show s.threads.map Prod.fst = [] from hids]
    unfold initClient
    rw [hsame]
    rfl
  | initReturn hf =>
    rw [hf] at hp
    exact ⟨hi.one, fun _ => ⟨hp.clnt, hp.handle, hp.opened⟩, nofun⟩
  | cleanup rc hf =>
    rw [hf] at hp
    obtain ⟨hth, hfield, -, hdata⟩ := deinitClient_threads rc s
    refine ⟨?_, ?_, deinitClient_clnt rc fun hclnt => ?_⟩
    · show (deinitClient rc s).threads.map Prod.fst = (deinitClient rc s).deferredActionThread.toList
      rw [hth, hfield]
      exact hi.one
    · show (deinitClient rc s).eng.data.locEngInited = false
      rw [hdata]
      exact locEngDeinit_inited rc _
    · by_cases hin : s.eng.data.locEngInited = true
      · exact ⟨hin, (hp.1 hin).opened⟩
      · rw [(hp.2 (by simpa using hin)).1] at hclnt
        cases hclnt
  | cleanupQuit hf _ =>
    rw [hf] at hp
    exact ⟨hi.one, hp⟩
  | cleanupNoThread hf ht =>
    rw [hf] at hp
    refine ⟨hi.one, hp.1, hp.2, fun id hid => ?_⟩
    have hid : id ∈ threadIds s := hid
    rw [hi.one, ht] at hid
    cases hid
  | cleanupJoin hf =>
    rw [hf] at hp
    refine ⟨hi.one, hp.1, hp.2, fun id hid => ?_⟩
    have hid : id ∈ threadIds s := hid
    rw [hi.one] at hid
    exact Option.mem_toList.mp hid
  | @cleanupReturn target hf ht =>
    rw [hf] at hp
    obtain ⟨hin, hclnt, hall⟩ := hp
    have hnil : threadIds s = [] := by
      refine List.eq_nil_iff_forall_not_mem.mpr fun id hid => ?_
      obtain ⟨t, hmem, rfl⟩ := List.mem_map.mp hid
      exact ht t hmem (hall _ hid)
    refine ⟨hnil, ⟨fun hup => ?_, fun _ => ⟨hclnt, hnil⟩⟩⟩
    rw [show s.eng.data.locEngInited = true from hup] at hin
    cases hin
  | @lockNone i slot id ht =>
    obtain ⟨heng, hglue, hopened, hfield, hf⟩ := locEngSetGpsLock_frame (α := α) .none slot s
    exact hi.congr (threadIds_set ht) hfield (by rw [heng]) (by rw [hglue]) hopened hf
  | @thread i a id pc e ht ha he =>
    have hc := he.client_eq (EngAct.not_deinit_of_not_isCall ha)
    exact hi.congr (threadIds_set ht) rfl hc rfl rfl rfl
  | @lockAll i slot id ht =>
    obtain ⟨heng, hglue, hopened, hfield, hf⟩ := locEngSetGpsLock_frame (α := α) .all slot s
    have hnil : (s.threads.eraseIdx i).map Prod.fst = [] := by
      rw [hi.threadEnd ht]
      rfl
    refine ⟨hnil, ?_⟩
    show LifePhase _ (locEngSetGpsLock .all slot s).framework
    rw [hf]
    refine hp.congr (fun id hid => ?_) (by rw [heng]) (by rw [hglue]) hopened
    have hid : id ∈ (s.threads.eraseIdx i).map Prod.fst := hid
    rw [hnil] at hid
    cases hid
  | @call a e ha he =>
    exact hi.congr rfl rfl (he.client_eq (EngAct.not_deinit_of_isFree ha)) rfl rfl rfl

end Steps

theorem LifeInv.init (α : Type) [Inhabited α] : LifeInv (lifeInit α) :=
  ⟨rfl, nofun, fun _ => ⟨rfl, rfl⟩⟩

/-- What is asked of the state `s` in which an action `a` ends. -/
structure LifecycleOk (a : LifeAct α) (s : LifeState α) : Prop where
  one_thread : s.threads.length ≤ 1
  init_returns : a = .initReturn → InitOk s
  cleanup_returns : a = .cleanupReturn → s.threads = []

/-- A lifecycle with a session in it, up to the end of its thread. -/
def oneLifecycle : List (LifeAct Unit) :=
  [.init ⟨true, true⟩ 1 0, .initReturn, .lockNone 0 true, .thread 0 .top, .call (.start 0),
    .cleanup 0, .cleanupQuit, .thread 0 .wake, .cleanupJoin, .lockAll 0 true]

/-- `loc_eng_init` called again without `loc_eng_cleanup`. -/
def initTwice : List (LifeAct Unit) :=
  [.init ⟨true, true⟩ 1 0, .initReturn, .init ⟨true, true⟩ 2 0]

/-- What happens to the engine lock. -/
inductive LockEvent
  /-- `loc_eng_init` created the deferred thread `id`. -/
  | created (id : Nat)
  /-- The thread went on in its loop, with the modem's lock. -/
  | processes (id : Nat) (lock : Option EngineLock)
  /-- `loc_eng_cleanup` returned, with the modem's lock. -/
  | cleanupReturns (lock : Option EngineLock)
  deriving DecidableEq, Repr

/-- What a step shows of it. -/
def lockSeen (s : LifeState α) (a : LifeAct α) (_ : LifeState α) : List LockEvent :=
  match a with
  | .init _ _ _ => [.created s.nextThread]
  | .thread i _ => (s.threads[i]?).toList.map fun t => .processes t.1 s.modem.lock
  | .cleanupReturn => [.cleanupReturns s.modem.lock]
  | _ => []

/-- The lock is ALL when `loc_eng_cleanup` returns, and NONE while the thread of a
later lifecycle works. -/
def LockFollows (hist : List LockEvent) : Prop :=
  (∀ lock, .cleanupReturns lock ∈ hist → lock = some .all) ∧
    ∀ pre mid post id lock,
      hist = pre ++ LockEvent.created id :: (mid ++ LockEvent.processes id lock :: post) →
        (∃ lock, .cleanupReturns lock ∈ pre) → lock = some .none

section Lock

variable {s s' : LifeState α}

/-- Nobody has been told to quit. -/
def QuitFree (s : LifeState α) : Prop :=
  s.eng.data.deferredActionFlags.quit = false ∧ ∀ t ∈ s.threads, t.2 ≠ .inLoop .done

theorem QuitFree.set (hq : QuitFree s) {i : Nat} {t : Nat × DeferredThread α}
    (ht : t.2 ≠ .inLoop .done) : ∀ u ∈ s.threads.set i t, u.2 ≠ .inLoop .done := by
  intro u hu
  rcases List.mem_or_eq_of_mem_set hu with hu | rfl
  · exact hq.2 u hu
  · exact ht

/-- Until the first return of `loc_eng_cleanup`: a thread is told to quit only when
the client is gone. -/
def LockPhase (s : LifeState α) : FrameworkPc → Prop
  | .idle =>
    QuitFree s ∧ (s.eng.data.locEngInited = true → s.glue.clnt = s.eng.data.clientOpened) ∧
      (s.eng.data.locEngInited = false → s.glue.clnt = false)
  | .initialising => QuitFree s ∧ s.glue.clnt = s.eng.data.clientOpened
  | .deinited => s.glue.clnt = false
  | .quitRaised => s.glue.clnt = false
  | .joining _ => s.glue.clnt = false

structure LockInv (s : LifeState α) : Prop where
  lock : s.modem.lock ≠ some .all
  phase : LockPhase s s.framework

/-- Without QUIT no thread leaves its loop. -/
theorem EngStep.quit_false {s s' : EngState α} {a : EngAct α} (h : EngStep s a s')
    (ha : a ≠ .quit) (hq : s.data.deferredActionFlags.quit = false) :
    s'.data.deferredActionFlags.quit = false ∧ (s'.thread = .done → s.thread = .done) := by
  by_cases hc : a.isCall = true
  · have hun := congrArg (·.deferredActionFlags.quit) (h.call_untouched hc)
    refine ⟨?_, by rw [h.call_thread hc]; exact id⟩
    cases a <;> first | exact Eq.trans hun hq | exact absurd rfl ha
  have hcopy {d : LocEngData α} (hd : d.deferredActionFlags.quit = false) :
      (quitOrCopy s d).data.deferredActionFlags.quit = false ∧
        ((quitOrCopy s d).thread = .done → s.thread = .done) := by
    unfold quitOrCopy
    rw [if_neg (by simp [hd])]
    exact ⟨rfl, nofun⟩
  cases h with
  | topWait _ _ => exact ⟨hq, nofun⟩
  | topCopy _ _ => exact hcopy hq
  | wake _ => exact hcopy hq
  | @micro rc mute m _ _ _ =>
    have hun := congrArg (·.deferredActionFlags.quit) (m.run_untouched rc mute s.data)
    refine ⟨?_, nofun⟩
    cases m <;> exact Eq.trans hun hq
  | loop _ => exact ⟨hq, nofun⟩
  | _ => exact absurd rfl hc

/-- An `loc_eng_init` that finds the client open closes it and cannot open
another. -/
theorem initClient_closed [Inhabited α] (cb : GpsCallbacks) (handle rc : Int)
    (hin : s.eng.data.locEngInited = true) (hop : s.eng.data.clientOpened = true) :
    (initClient cb handle rc s).glue.clnt = false ∧
      (initClient cb handle rc s).eng.data.clientOpened = false := by
  have hclnt : (deinitClient rc { s with glue := locApiGlueInit true s.glue }).glue.clnt = false :=
    deinitClient_clnt rc fun _ => ⟨hin, hop⟩
  have hopen := locOpen_no_clnt hclnt () (some handle)
  unfold initClient
  simp only [hopen]
  exact ⟨hclnt, rfl⟩

/-- The client is there on return of `loc_eng_init` if and only if it could be
opened. -/
theorem initClient_clnt [Inhabited α] (cb : GpsCallbacks) {handle : Int} (rc : Int)
    (hh : 0 ≤ handle)
    (hup : s.eng.data.locEngInited = true → s.glue.clnt = s.eng.data.clientOpened)
    (hdown : s.eng.data.locEngInited = false → s.glue.clnt = false) :
    (initClient cb handle rc s).glue.clnt = (initClient cb handle rc s).eng.data.clientOpened := by
  by_cases hop : s.eng.data.locEngInited = true ∧ s.eng.data.clientOpened = true
  · obtain ⟨hclnt, hopened⟩ := initClient_closed cb handle rc hop.1 hop.2
    rw [hclnt, hopened]
  · have hclosed (hin : s.eng.data.locEngInited = true) : s.eng.data.clientOpened = false := by
      by_contra hne
      exact hop ⟨hin, by simpa using hne⟩
    have hclnt : s.glue.clnt = false := by
      by_cases hin : s.eng.data.locEngInited = true
      · exact (hup hin).trans (hclosed hin)
      · exact hdown (by simpa using hin)
    obtain ⟨hclnt', -, hopened, -⟩ := initClient_opened cb rc hclnt hh hclosed
    rw [hclnt', hopened]

theorem initClient_quitFree [Inhabited α] (cb : GpsCallbacks) (handle rc : Int)
    (hq : QuitFree s) : QuitFree (initClient cb handle rc s) := by
  obtain ⟨hth, -, -, -⟩ := deinitClient_threads rc { s with glue := locApiGlueInit true s.glue }
  refine ⟨rfl, fun t ht => ?_⟩
  have ht : t ∈ (deinitClient rc { s with glue := locApiGlueInit true s.glue }).threads ++ _ := ht
  rw [hth] at ht
  rcases List.mem_append.mp ht with ht | ht
  · exact hq.2 t ht
  · obtain rfl := List.mem_singleton.mp ht
    exact nofun

theorem initClient_lock [Inhabited α] (cb : GpsCallbacks) (handle rc : Int) :
    (initClient cb handle rc s).modem.lock = s.modem.lock := by
  obtain ⟨-, -, hlock, -⟩ := deinitClient_threads rc { s with glue := locApiGlueInit true s.glue }
  unfold initClient
  dsimp only
  split <;> exact hlock

/-- A client that is gone sends no lock. -/
theorem locEngSetGpsLock_no_clnt (lock : EngineLock) (slot : Bool) (h : s.glue.clnt = false) :
    locEngSetGpsLock lock slot s = s := if_neg (by simp [h])

/-- A step between the framework's calls. -/
theorem LockPhase.congr {pc : FrameworkPc} (hp : LockPhase s pc)
    (hq : QuitFree s → QuitFree s') (hc : client s'.eng.data = client s.eng.data)
    (hg : s'.glue.clnt = s.glue.clnt) : LockPhase s' pc := by
  have ho : s'.eng.data.clientOpened = s.eng.data.clientOpened := congrArg (·.2.1) hc
  have hin : s'.eng.data.locEngInited = s.eng.data.locEngInited := congrArg (·.2.2) hc
  cases pc with
  | idle =>
    obtain ⟨hfree, hup, hdown⟩ := hp
    refine ⟨hq hfree, ?_, ?_⟩
    · rw [hin, hg, ho]
      exact hup
    · rw [hin, hg]
      exact hdown
  | initialising => exact ⟨hq hp.1, by rw [hg, ho]; exact hp.2⟩
  | deinited => exact hg.trans hp
  | quitRaised => exact hg.trans hp
  | joining target => exact hg.trans hp

/-- A thread that has left its loop finds the client gone. -/
theorem LockInv.done_clnt (hi : LockInv s) {t : Nat × DeferredThread α} (ht : t ∈ s.threads)
    (hdone : t.2 = .inLoop .done) : s.glue.clnt = false := by
  have hp := hi.phase
  cases hf : s.framework with
  | idle =>
    rw [hf] at hp
    exact absurd hdone (hp.1.2 t ht)
  | initialising =>
    rw [hf] at hp
    exact absurd hdone (hp.1.2 t ht)
  | deinited =>
    rw [hf] at hp
    exact hp
  | quitRaised =>
    rw [hf] at hp
    exact hp
  | joining target =>
    rw [hf] at hp
    exact hp

theorem LockInv.step [Inhabited α] {a : LifeAct α} (ha : a ≠ .cleanupReturn)
    (h : lifeStep s a = some s') (hi : LockInv s) : LockInv s' := by
  have hp := hi.phase
  cases lifeStep_cases h with
  | init cb handle rc hf hh =>
    rw [hf] at hp
    obtain ⟨hfree, hup, hdown⟩ := hp
    refine ⟨?_, initClient_quitFree cb handle rc hfree, initClient_clnt cb rc hh hup hdown⟩
    rw [initClient_lock]
    exact hi.lock
  | initReturn hf =>
    rw [hf] at hp
    exact ⟨hi.lock, hp.1, fun _ => hp.2, nofun⟩
  | cleanup rc hf =>
    rw [hf] at hp
    obtain ⟨-, hup, hdown⟩ := hp
    obtain ⟨-, -, hlock, -⟩ := deinitClient_threads rc s
    refine ⟨hlock ▸ hi.lock, deinitClient_clnt rc fun hclnt => ?_⟩
    by_cases hin : s.eng.data.locEngInited = true
    · exact ⟨hin, (hup hin).symm.trans hclnt⟩
    · rw [hdown (by simpa using hin)] at hclnt
      cases hclnt
  | cleanupQuit hf _ =>
    rw [hf] at hp
    exact ⟨hi.lock, hp⟩
  | cleanupNoThread hf _ =>
    rw [hf] at hp
    exact ⟨hi.lock, hp⟩
  | cleanupJoin hf =>
    rw [hf] at hp
    exact ⟨hi.lock, hp⟩
  | cleanupReturn _ _ => exact absurd rfl ha
  | @lockNone i slot id ht =>
    obtain ⟨heng, hglue, -, -, hf⟩ := locEngSetGpsLock_frame (α := α) .none slot s
    refine ⟨?_, ?_⟩
    · show (locEngSetGpsLock .none slot s).modem.lock ≠ some .all
      unfold locEngSetGpsLock
      split
      · exact nofun
      · exact hi.lock
    · show LockPhase _ (locEngSetGpsLock .none slot s).framework
      rw [hf]
      refine hp.congr (fun hfree => ⟨by rw [heng]; exact hfree.1, hfree.set ?_⟩)
        (by rw [heng]) (by rw [hglue])
      exact nofun
  | @thread i a id pc e ht hna he =>
    refine ⟨hi.lock, hp.congr (fun hfree => ?_) ?_ rfl⟩
    · have hquit : a ≠ .quit := by
        rintro rfl
        cases hna
      obtain ⟨hq, hdone⟩ := he.quit_false hquit hfree.1
      refine ⟨hq, hfree.set fun heq => ?_⟩
      have hpc := hdone (DeferredThread.inLoop.inj heq)
      refine hfree.2 _ (List.mem_of_getElem? ht) ?_
      show DeferredThread.inLoop pc = _
      rw [show pc = .done from hpc]
    · exact he.client_eq (EngAct.not_deinit_of_not_isCall hna)
  | @lockAll i slot id ht =>
    have hclnt := hi.done_clnt (List.mem_of_getElem? ht) rfl
    rw [locEngSetGpsLock_no_clnt .all slot hclnt]
    refine ⟨hi.lock, hp.congr (fun hfree => ⟨hfree.1, fun t hmem => ?_⟩) rfl rfl⟩
    exact hfree.2 t (List.mem_of_mem_eraseIdx hmem)
  | @call a e hfree he =>
    refine ⟨hi.lock, hp.congr (fun hq => ⟨?_, hq.2⟩) ?_ rfl⟩
    · have hquit : a ≠ .quit := by
        rintro rfl
        cases hfree
      exact (he.quit_false hquit hq.1).1
    · exact he.client_eq (EngAct.not_deinit_of_isFree hfree)

end Lock

/-- **The engine lock does not follow the lifecycle.** In every run the lock is as
it should be if and only if no `loc_eng_cleanup` returns in it: the first one that
does closes the client before it tells the thread to quit, so that LOCK_ALL cannot
be sent. -/
theorem gps_lock_follows [Inhabited α] {as : List (LifeAct α)} {s : LifeState α}
    {hist : List LockEvent}
    (h : exec (observe lockSeen lifeStep) (lifeInit α, []) as = some (s, hist)) :
    LockFollows hist ↔ ∀ lock, .cleanupReturns lock ∉ hist := by
  have hinit : (∃ lock, lock ≠ some .all ∧ .cleanupReturns lock ∈ ([] : List LockEvent)) ∨
      (LockInv (lifeInit α) ∧ ∀ lock, .cleanupReturns lock ∉ ([] : List LockEvent)) :=
    .inr ⟨⟨nofun, ⟨rfl, nofun⟩, nofun, fun _ => rfl⟩, nofun⟩
  have hstep : ∀ (s : LifeState α) (h : List LockEvent) a s', lifeStep s a = some s' →
      (∃ lock, lock ≠ some .all ∧ .cleanupReturns lock ∈ h) ∨
        (LockInv s ∧ ∀ lock, .cleanupReturns lock ∉ h) →
      (∃ lock, lock ≠ some .all ∧ .cleanupReturns lock ∈ h ++ lockSeen s a s') ∨
        (LockInv s' ∧ ∀ lock, .cleanupReturns lock ∉ h ++ lockSeen s a s') := by
    rintro s h a s' hst (⟨lock, hne, hmem⟩ | ⟨hi, hno⟩)
    · exact .inl ⟨lock, hne, List.mem_append_left _ hmem⟩
    · by_cases ha : a = .cleanupReturn
      · subst ha
        exact .inl ⟨s.modem.lock, hi.lock, List.mem_append_right _ List.mem_cons_self⟩
      · refine .inr ⟨hi.step ha hst, fun lock hmem => ?_⟩
        rcases List.mem_append.mp hmem with hmem | hmem
        · exact hno lock hmem
        · cases a <;> simp [lockSeen] at hmem ha
  constructor
  · rintro ⟨hall, -⟩
    rcases exec_observe_invariant hstep hinit h with ⟨lock, hne, hmem⟩ | ⟨-, hno⟩
    · exact absurd (hall lock hmem) hne
    · exact hno
  · intro hno
    refine ⟨fun lock hmem => absurd hmem (hno lock), ?_⟩
    rintro pre mid post id lock rfl ⟨lock', hmem⟩
    exact absurd (List.mem_append_left _ hmem) (hno lock')

/-- A lifecycle in which everything is sent that can be. -/
theorem gps_lock_follows_one_lifecycle :
    ∃ s hist, exec (observe lockSeen lifeStep) (lifeInit Unit, []) oneLifecycle = some (s, hist) ∧
      hist = [.created 0, .processes 0 (some .none), .processes 0 (some .none)] ∧
      LockFollows hist := by
  have hrun : (exec (observe lockSeen lifeStep) (lifeInit Unit, []) oneLifecycle).any (fun p =>
      p.2 = [.created 0, .processes 0 (some .none), .processes 0 (some .none)]) = true := by decide
  obtain ⟨⟨s, hist⟩, hs, h⟩ := (Option.any_eq_true _ _).mp hrun
  obtain rfl : hist = [.created 0, .processes 0 (some .none), .processes 0 (some .none)] := by
    simpa using h
  exact ⟨s, _, hs, rfl, (gps_lock_follows hs).mpr (by simp)⟩

/-- When `loc_eng_cleanup` returns the modem still has LOCK_NONE. -/
theorem gps_lock_left_open :
    ∃ s hist, exec (observe lockSeen lifeStep) (lifeInit Unit, [])
        (oneLifecycle ++ [.cleanupReturn]) = some (s, hist) ∧
      .cleanupReturns (some .none) ∈ hist ∧ ¬ LockFollows hist := by
  have hrun : (exec (observe lockSeen lifeStep) (lifeInit Unit, [])
      (oneLifecycle ++ [.cleanupReturn])).any (fun p =>
        .cleanupReturns (some .none) ∈ p.2) = true := by decide
  obtain ⟨⟨s, hist⟩, hs, h⟩ := (Option.any_eq_true _ _).mp hrun
  have hmem : .cleanupReturns (some .none) ∈ hist := by simpa using h
  exact ⟨s, hist, hs, hmem, fun hfollows => nomatch hfollows.1 _ hmem⟩

end Ancora.LocEng
