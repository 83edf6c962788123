import Ancora.Lib.Machine
import Ancora.LocEng.Engine

/-!
# The engine as a concurrent machine

One lifecycle of the engine, from the return of `loc_eng_init` on: the deferred
thread, the RPC thread that delivers modem events, and any number of framework
threads calling the HAL. Every action is one step that no other thread can
split: a mutex section, or the code between two of them.

- `ThreadPc`: where the deferred thread is. `waiting` is inside
  `pthread_cond_wait`; `running todo` is past the copy, with the pieces of the
  loop body still to run.
- `loc_eng_stop` is three actions, because it reads `agps_request_pending` under
  `deferred_stop_mutex` while the thread clears the same field under
  `deferred_action_mutex`: the section may be overtaken between its read and its
  write (`stopDeferring`).
- `EngStep` lists what a step can do and under which guard; invariants are
  proved by cases on it (`engStep_cases`) and never unfold `engStep`.
- `wake` is always enabled while the thread waits: `pthread_cond_wait` may return
  without a signal.
-/

namespace Ancora.LocEng

variable {α : Type}

/-- Where the deferred thread is. -/
inductive ThreadPc (α : Type)
  | top
  | waiting
  | running (todo : List (Micro α))
  | done
  deriving DecidableEq, Repr

/-- The shared record, the deferred thread, and the HAL calls in progress. -/
structure EngState (α : Type) where
  data : LocEngData α
  thread : ThreadPc α
  /-- A caller of `loc_eng_stop` holds `deferred_stop_mutex` and has read
  `agps_request_pending` as TRUE. -/
  stopDeferring : Bool
  /-- Callers of `loc_eng_stop` that found no request pending and left the
  mutex, but have not called `loc_stop_fix` yet. -/
  stopDirects : Nat
  /-- Calls of the XTRA proxy between the buffer and the status check. -/
  xtraProxies : Nat
  deriving DecidableEq, Repr

/-- The atomic steps of the engine's threads, with what the outside decides. -/
inductive EngAct (α : Type)
  | locEventCb (clientHandle : Int) (locEvent : EventMask) (payload : EventPayload α)
  | deleteAidingData (f : BitVec 16)
  | dataConn (r : ConnResult)
  | xtraStore (buf : Option (List (BitVec 8)))
  | xtraSignal
  | agpsInit
  | xtraInit
  | start (rc : Int)
  | stopCheck
  | stopDefer
  | stopNow (rc : Int)
  | deinit (rc : Int)
  | quit
  | top
  | wake
  | micro (rc : Int) (mute : Bool)
  | loop
  deriving DecidableEq, Repr

/-- The thread past the wait: exit on QUIT, else copy and go on
(loc_eng.cpp:2160-2180). -/
def quitOrCopy (s : EngState α) (d : LocEngData α) : EngState α :=
  if d.deferredActionFlags.quit then
    { s with data := { d with wakeLock := false }, thread := .done }
  else { s with data := (copyLocals d).2, thread := .running (iteration (copyLocals d).1) }

/-- One atomic step. -/
def engStep (s : EngState α) : EngAct α → Option (EngState α)
  | .locEventCb h m p => some { s with data := locEventCb h m p s.data }
  | .deleteAidingData f => some { s with data := locEngDeleteAidingData f s.data }
  | .dataConn r => some { s with data := locEngDataConn r s.data }
  | .xtraStore buf =>
    some { s with data := xtraStore buf s.data, xtraProxies := s.xtraProxies + 1 }
  | .xtraSignal =>
    if 0 < s.xtraProxies then
      some { s with data := xtraSignal s.data, xtraProxies := s.xtraProxies - 1 }
    else none
  | .agpsInit => some { s with data := { s.data with agpsStatusCb := true } }
  | .xtraInit => some { s with data := { s.data with downloadRequestCb := true } }
  | .start rc => some { s with data := locEngStart rc s.data }
  | .stopCheck =>
    if s.stopDeferring then none
    else if !s.data.locEngInited then some s
    else if s.data.agpsRequestPending then some { s with stopDeferring := true }
    else some { s with stopDirects := s.stopDirects + 1 }
  | .stopDefer =>
    if s.stopDeferring then some { s with data := deferStop s.data, stopDeferring := false }
    else none
  | .stopNow rc =>
    if 0 < s.stopDirects then
      some { s with data := stopNow rc s.data, stopDirects := s.stopDirects - 1 }
    else none
  | .deinit rc =>
    -- the loc_eng_stop inside takes deferred_stop_mutex
    if s.stopDeferring then none else some { s with data := locEngDeinit rc s.data }
  | .quit => if s.data.locEngInited then none else some { s with data := raiseQuit s.data }
  | .top =>
    match s.thread with
    | .top =>
      if s.data.deferredActionFlags = .zero then
        some { s with
          data := { s.data with wakeLock := false, deferredActionCond := .waiting }
          thread := .waiting }
      else some (quitOrCopy s s.data)
    | .waiting => none
    | .running _ => none
    | .done => none
  | .wake =>
    match s.thread with
    | .waiting =>
      some (quitOrCopy s { s.data with wakeLock := true, deferredActionCond := .idle })
    | .top => none
    | .running _ => none
    | .done => none
  | .micro rc mute =>
    match s.thread with
    | .running (m :: todo) =>
      -- the deferred stop waits for deferred_stop_mutex
      if m.takesStopMutex && s.stopDeferring then none
      else some { s with data := m.run rc mute s.data, thread := .running todo }
    | .running [] => none
    | .top => none
    | .waiting => none
    | .done => none
  | .loop =>
    match s.thread with
    | .running [] => some { s with thread := .top }
    | .running (_ :: _) => none
    | .top => none
    | .waiting => none
    | .done => none

/-- What a step does, case by case, with the guard under which it is enabled. -/
inductive EngStep (s : EngState α) : EngAct α → EngState α → Prop
  | locEventCb (h m p) :
      EngStep s (.locEventCb h m p) { s with data := LocEng.locEventCb h m p s.data }
  | deleteAidingData (f) :
      EngStep s (.deleteAidingData f) { s with data := locEngDeleteAidingData f s.data }
  | dataConn (r) : EngStep s (.dataConn r) { s with data := locEngDataConn r s.data }
  | xtraStore (buf) :
      EngStep s (.xtraStore buf)
        { s with data := LocEng.xtraStore buf s.data, xtraProxies := s.xtraProxies + 1 }
  | xtraSignal (h : 0 < s.xtraProxies) :
      EngStep s .xtraSignal
        { s with data := LocEng.xtraSignal s.data, xtraProxies := s.xtraProxies - 1 }
  | agpsInit : EngStep s .agpsInit { s with data := { s.data with agpsStatusCb := true } }
  | xtraInit : EngStep s .xtraInit { s with data := { s.data with downloadRequestCb := true } }
  | start (rc) : EngStep s (.start rc) { s with data := locEngStart rc s.data }
  | stopUninit (hm : s.stopDeferring = false) (h : s.data.locEngInited = false) :
      EngStep s .stopCheck s
  | stopPending (hm : s.stopDeferring = false) (h : s.data.agpsRequestPending = true) :
      EngStep s .stopCheck { s with stopDeferring := true }
  | stopDirect (hm : s.stopDeferring = false) (h : s.data.agpsRequestPending = false) :
      EngStep s .stopCheck { s with stopDirects := s.stopDirects + 1 }
  | stopDefer (hm : s.stopDeferring = true) :
      EngStep s .stopDefer { s with data := deferStop s.data, stopDeferring := false }
  | stopNow (rc) (h : 0 < s.stopDirects) :
      EngStep s (.stopNow rc)
        { s with data := LocEng.stopNow rc s.data, stopDirects := s.stopDirects - 1 }
  | deinit (rc) (hm : s.stopDeferring = false) :
      EngStep s (.deinit rc) { s with data := locEngDeinit rc s.data }
  | quit (h : s.data.locEngInited = false) :
      EngStep s .quit { s with data := raiseQuit s.data }
  | topWait (ht : s.thread = .top) (hf : s.data.deferredActionFlags = .zero) :
      EngStep s .top
        { s with
          data := { s.data with wakeLock := false, deferredActionCond := .waiting }
          thread := .waiting }
  | topCopy (ht : s.thread = .top) (hf : s.data.deferredActionFlags ≠ .zero) :
      EngStep s .top (quitOrCopy s s.data)
  | wake (ht : s.thread = .waiting) :
      EngStep s .wake
        (quitOrCopy s { s.data with wakeLock := true, deferredActionCond := .idle })
  | micro (rc mute) {m : Micro α} {todo : List (Micro α)} (ht : s.thread = .running (m :: todo))
      (hm : m.takesStopMutex = true → s.stopDeferring = false) :
      EngStep s (.micro rc mute)
        { s with data := m.run rc mute s.data, thread := .running todo }
  | loop (ht : s.thread = .running []) : EngStep s .loop { s with thread := .top }

section Cases

variable {s s' : EngState α}

/-- A stop is checked under `deferred_stop_mutex`. -/
theorem engStep_stopCheck (h : engStep s .stopCheck = some s') : EngStep s .stopCheck s' := by
  simp only [engStep] at h
  split at h
  · cases h
  next hm =>
    split at h
    next hi =>
      cases h
      exact .stopUninit (by simpa using hm) (by simpa using hi)
    next =>
      split at h
      next hp =>
        cases h
        exact .stopPending (by simpa using hm) hp
      next hp =>
        cases h
        exact .stopDirect (by simpa using hm) (by simpa using hp)

/-- At the top of its loop the thread goes to sleep or copies the flags. -/
theorem engStep_top (h : engStep s .top = some s') : EngStep s .top s' := by
  cases ht : s.thread with
  | top =>
    simp only [engStep, ht] at h
    split at h
    next hf =>
      cases h
      exact .topWait ht hf
    next hf =>
      cases h
      exact .topCopy ht hf
  | waiting => simp [engStep, ht] at h
  | running todo => simp [engStep, ht] at h
  | done => simp [engStep, ht] at h

/-- The thread is woken up, also without a signal. -/
theorem engStep_wake (h : engStep s .wake = some s') : EngStep s .wake s' := by
  cases ht : s.thread with
  | waiting =>
    simp only [engStep, ht, Option.some.injEq] at h
    cases h
    exact .wake ht
  | top => simp [engStep, ht] at h
  | running todo => simp [engStep, ht] at h
  | done => simp [engStep, ht] at h

/-- The thread does the next thing it has to do in this pass. -/
theorem engStep_micro {rc : Int} {mute : Bool} (h : engStep s (.micro rc mute) = some s') :
    EngStep s (.micro rc mute) s' := by
  cases ht : s.thread with
  | running todo =>
    cases todo with
    | nil => simp [engStep, ht] at h
    | cons m todo =>
      simp only [engStep, ht, Option.ite_none_left_eq_some, Option.some.injEq] at h
      obtain ⟨hm, rfl⟩ := h
      exact .micro rc mute ht (by simpa using hm)
  | top => simp [engStep, ht] at h
  | waiting => simp [engStep, ht] at h
  | done => simp [engStep, ht] at h

/-- With nothing left to do it goes back to the top. -/
theorem engStep_loop (h : engStep s .loop = some s') : EngStep s .loop s' := by
  cases ht : s.thread with
  | running todo =>
    cases todo with
    | nil =>
      simp only [engStep, ht, Option.some.injEq] at h
      cases h
      exact .loop ht
    | cons m todo => simp [engStep, ht] at h
  | top => simp [engStep, ht] at h
  | waiting => simp [engStep, ht] at h
  | done => simp [engStep, ht] at h

/-- Every enabled step is one of the cases of `EngStep`. -/
theorem engStep_cases {a : EngAct α} (h : engStep s a = some s') : EngStep s a s' := by
  cases a with
  | locEventCb c m p =>
    cases h
    exact .locEventCb c m p
  | deleteAidingData f =>
    cases h
    exact .deleteAidingData f
  | dataConn r =>
    cases h
    exact .dataConn r
  | xtraStore buf =>
    cases h
    exact .xtraStore buf
  | xtraSignal =>
    simp only [engStep, Option.ite_none_right_eq_some, Option.some.injEq] at h
    obtain ⟨hp, rfl⟩ := h
    exact .xtraSignal hp
  | agpsInit =>
    cases h
    exact .agpsInit
  | xtraInit =>
    cases h
    exact .xtraInit
  | start rc =>
    cases h
    exact .start rc
  | stopCheck => exact engStep_stopCheck h
  | stopDefer =>
    simp only [engStep, Option.ite_none_right_eq_some, Option.some.injEq] at h
    obtain ⟨hm, rfl⟩ := h
    exact .stopDefer hm
  | stopNow rc =>
    simp only [engStep, Option.ite_none_right_eq_some, Option.some.injEq] at h
    obtain ⟨hp, rfl⟩ := h
    exact .stopNow rc hp
  | deinit rc =>
    simp only [engStep, Option.ite_none_left_eq_some, Option.some.injEq] at h
    obtain ⟨hm, rfl⟩ := h
    exact .deinit rc (by simpa using hm)
  | quit =>
    simp only [engStep, Option.ite_none_left_eq_some, Option.some.injEq] at h
    obtain ⟨hi, rfl⟩ := h
    exact .quit (by simpa using hi)
  | top => exact engStep_top h
  | wake => exact engStep_wake h
  | micro rc mute => exact engStep_micro h
  | loop => exact engStep_loop h

end Cases

/-- The state in which `loc_eng_init` returns, for the handle the modem gave. -/
def engInit (α : Type) [Inhabited α] (cb : GpsCallbacks) (handle : Int) : EngState α where
  data := locEngInit cb handle rpcLocApiSuccess (LocEngData.boot α)
  thread := .top
  stopDeferring := false
  stopDirects := 0
  xtraProxies := 0

end Ancora.LocEng
