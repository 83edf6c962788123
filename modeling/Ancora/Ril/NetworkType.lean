import Ancora.Lib.Machine

/-!
# Setting the preferred network type (SamsungRIL.java:910–940, 1007–1085)

The modem "does bad things when a datacall is running while switching the preferred
networktype". So `setPreferredNetworkType` asks for the state of the mobile network, and where
it finds a data call it leaves the request to a `ConnectivityHandler`, which disables the data
connection, waits for the broadcast that it is down, sends the request with a message of its
own, and on the answer enables the data connection and calls the original caller back.

- `Call`: one call of `setPreferredNetworkType`, with its handler if it has one. `rilStep`
  interleaves any number of them with the state of the network, the broadcasts and the modem.
- **`sent_when_idle_iff`**: the requests of a run are all sent with no data call observed
  exactly when no call finds the network CONNECTED (the test is for CONNECTING only) and no
  handler is told of lost connectivity by a broadcast from a network that is CONNECTING.
-/

namespace Ancora.Ril

open Machine

/-- `NetworkInfo.State`. -/
inductive NetState where
  | connecting
  | connected
  | suspended
  | disconnecting
  | disconnected
  | unknown
  deriving DecidableEq, Repr

/-- A data call is running or being set up. -/
def NetState.dataCall : NetState → Prop
  | .connecting | .connected => True
  | _ => False

/-- A CONNECTIVITY_ACTION broadcast: EXTRA_NO_CONNECTIVITY, and the state of the mobile network
it is sent in. The extra is documented to mean that no network is connected. -/
structure Broadcast where
  noConnectivity : Bool
  mobile : NetState
  documented : noConnectivity = true → mobile ≠ .connected
  deriving DecidableEq

/-- `AsyncResult`; of an exception, the error code it is made from. -/
structure AsyncResult where
  result : Option Unit
  exception : Option (BitVec 32)
  deriving DecidableEq, Repr

/-- The message a `RILRequest` is answered to: the caller's, or the one of the handler. -/
inductive Message where
  | caller (response : Nat)
  | setPreferredNetworkType
  deriving DecidableEq, Repr

inductive Phase where
  /-- The receiver of the handler is registered. -/
  | listening
  /-- The request is with the modem, to be answered to `mResult`. -/
  | sent (mResult : Option Message)
  /-- The message of the handler is in its queue. -/
  | replied (ar : AsyncResult)
  | done
  deriving DecidableEq, Repr

/-- A call of `setPreferredNetworkType`, the fields of its `ConnectivityHandler`, and what has
come of it so far. -/
structure Call where
  networkType : BitVec 32
  /-- The caller's `Message`. -/
  response : Option Nat
  deferred : Bool
  mDesiredNetworkType : BitVec 32
  mNetworktypeResponse : Option Nat
  phase : Phase
  /-- The network types passed to `send`. -/
  sends : List (BitVec 32)
  /-- The error codes the modem has answered with. -/
  replies : List (BitVec 32)
  /-- The results the caller's message has been sent to its target with. -/
  completions : List AsyncResult
  /-- Calls of `enableDataConnectivity`. -/
  enables : Nat
  deriving DecidableEq, Repr

structure RilState where
  mobile : NetState
  broadcasts : List Broadcast
  calls : List Call
  /-- The process has ended with an uncaught exception. -/
  crashed : Bool
  deriving DecidableEq

def RilState.init : RilState :=
  { mobile := .disconnected, broadcasts := [], calls := [], crashed := false }

/-- `sendPreferedNetworktype`: a request with the message `response`. -/
def sendPreferedNetworktype (c : Call) (networkType : BitVec 32) (response : Option Message) :
    Call :=
  { c with phase := .sent response, sends := c.sends ++ [networkType] }

/-- A call that has not done anything yet. -/
def Call.start (networkType : BitVec 32) (response : Option Nat) : Call :=
  { networkType := networkType, response := response, deferred := false,
    mDesiredNetworkType := -1, mNetworktypeResponse := none, phase := .done, sends := [],
    replies := [], completions := [], enables := 0 }

/-- The direct path. -/
def directCall (networkType : BitVec 32) (response : Option Nat) : Call :=
  sendPreferedNetworktype (.start networkType response) networkType (response.map .caller)

/-- `ConnectivityHandler.setPreferedNetworkType`. -/
def deferredCall (networkType : BitVec 32) (response : Option Nat) : Call :=
  { Call.start networkType response with
    deferred := true
    mDesiredNetworkType := networkType
    mNetworktypeResponse := response
    phase := .listening }

/-- `setPreferredNetworkType`. -/
def setPreferredNetworkType (mobileState : NetState) (networkType : BitVec 32)
    (response : Option Nat) : Call :=
  if mobileState = .connecting then deferredCall networkType response
  else directCall networkType response

/-- `ConnectivityBroadcastReceiver.onReceive`. -/
def onReceive (c : Call) (b : Broadcast) : Call :=
  if b.noConnectivity then
    { sendPreferedNetworktype c c.mDesiredNetworkType (some .setPreferredNetworkType) with
      mDesiredNetworkType := -1 }
  else c

/-- `responseVoid`. -/
def responseVoid : Option Unit := none

/-- What `processSolicited` puts into the message of a SET_PREFERRED_NETWORK_TYPE request. -/
def solicitedResult (error : BitVec 32) : AsyncResult :=
  if error = 0 then ⟨responseVoid, none⟩ else ⟨responseVoid, some error⟩

/-- `processSolicited` for the request of the call. -/
def processSolicited (c : Call) (mResult : Option Message) (error : BitVec 32) : Call :=
  let c := { c with replies := c.replies ++ [error] }
  match mResult with
  | none => { c with phase := .done }
  | some (.caller _) =>
    { c with phase := .done, completions := c.completions ++ [solicitedResult error] }
  | some .setPreferredNetworkType => { c with phase := .replied (solicitedResult error) }

/-- `handleMessage`, and whether it ends without an exception. -/
def handleMessage (c : Call) : Call × Bool :=
  let c := { c with enables := c.enables + 1 }
  match c.mNetworktypeResponse with
  | none => (c, false)
  | some _ =>
    ({ c with phase := .done, completions := c.completions ++ [⟨none, none⟩],
              mNetworktypeResponse := none }, true)

/-! ## Runs -/

inductive RilAct where
  | call (networkType : BitVec 32) (response : Option Nat)
  | mobile (st : NetState)
  /-- The system sends a broadcast. -/
  | broadcast (noConnectivity : Bool)
  /-- The receiver of the call number `i` gets the broadcast number `k`. -/
  | receive (i k : Nat)
  /-- The modem answers the request of the call number `i`. -/
  | reply (i : Nat) (error : BitVec 32)
  /-- The handler of the call number `i` gets its message. -/
  | handle (i : Nat)
  deriving DecidableEq, Repr

def rilStep (s : RilState) (a : RilAct) : Option RilState :=
  if s.crashed then none else
  match a with
  | .call networkType response =>
    some { s with calls := s.calls ++ [setPreferredNetworkType s.mobile networkType response] }
  | .mobile st => some { s with mobile := st }
  | .broadcast noConnectivity =>
    if h : noConnectivity = true → s.mobile ≠ .connected then
      some { s with broadcasts := s.broadcasts ++ [⟨noConnectivity, s.mobile, h⟩] }
    else none
  | .receive i k =>
    match s.calls[i]?, s.broadcasts[k]? with
    | some c, some b =>
      if c.phase = .listening then some { s with calls := s.calls.set i (onReceive c b) }
      else none
    | _, _ => none
  | .reply i error =>
    match s.calls[i]? with
    | some c =>
      match c.phase with
      | .sent mResult => some { s with calls := s.calls.set i (processSolicited c mResult error) }
      | _ => none
    | none => none
  | .handle i =>
    match s.calls[i]? with
    | some c =>
      match c.phase with
      | .replied _ =>
        some { s with calls := s.calls.set i (handleMessage c).1, crashed := !(handleMessage c).2 }
      | _ => none
    | none => none

/-- Everything a step can do. -/
inductive RilStep (s : RilState) : RilAct → RilState → Prop
  | call (networkType : BitVec 32) (response : Option Nat) :
    RilStep s (.call networkType response)
      { s with calls := s.calls ++ [setPreferredNetworkType s.mobile networkType response] }
  | mobile (st : NetState) : RilStep s (.mobile st) { s with mobile := st }
  | broadcast (noConnectivity : Bool) (h : noConnectivity = true → s.mobile ≠ .connected) :
    RilStep s (.broadcast noConnectivity)
      { s with broadcasts := s.broadcasts ++ [⟨noConnectivity, s.mobile, h⟩] }
  | receive {i k : Nat} {c : Call} {b : Broadcast} (hc : s.calls[i]? = some c)
      (hb : s.broadcasts[k]? = some b) (hp : c.phase = .listening) :
    RilStep s (.receive i k) { s with calls := s.calls.set i (onReceive c b) }
  | reply {i : Nat} {c : Call} {mResult : Option Message} (error : BitVec 32)
      (hc : s.calls[i]? = some c) (hp : c.phase = .sent mResult) :
    RilStep s (.reply i error)
      { s with calls := s.calls.set i (processSolicited c mResult error) }
  | handle {i : Nat} {c : Call} {ar : AsyncResult} (hc : s.calls[i]? = some c)
      (hp : c.phase = .replied ar) :
    RilStep s (.handle i)
      { s with calls := s.calls.set i (handleMessage c).1, crashed := !(handleMessage c).2 }

variable {s s' : RilState} {a : RilAct}

theorem rilStep_spec (h : rilStep s a = some s') : s.crashed = false ∧ RilStep s a s' := by
  unfold rilStep at h
  split at h
  · cases h
  · rename_i hup
    refine ⟨by simpa using hup, ?_⟩
    cases a with
    | call networkType response =>
      obtain rfl := Option.some.inj h
      exact .call networkType response
    | mobile st =>
      obtain rfl := Option.some.inj h
      exact .mobile st
    | broadcast noConnectivity =>
      dsimp only at h
      split at h
      · rename_i hdoc
        obtain rfl := Option.some.inj h
        exact .broadcast noConnectivity hdoc
      · cases h
    | receive i k =>
      dsimp only at h
      split at h
      · rename_i c b hc hb
        split at h
        · rename_i hp
          obtain rfl := Option.some.inj h
          exact .receive hc hb hp
        · cases h
      · cases h
    | reply i error =>
      dsimp only at h
      split at h
      · rename_i c hc
        split at h
        · rename_i mResult hp
          obtain rfl := Option.some.inj h
          exact .reply error hc hp
        · cases h
      · cases h
    | handle i =>
      dsimp only at h
      split at h
      · rename_i c hc
        split at h
        · rename_i ar hp
          obtain rfl := Option.some.inj h
          exact .handle hc hp
        · cases h
      · cases h

/-! ## What is observed when a request is sent -/

/-- For each request that a step passes to `send`, the state of the mobile network that was
observed last: the one asked for, or the one of the broadcast. -/
def sendObs (s : RilState) : RilAct → RilState → List NetState
  | .call networkType response, _ =>
    (setPreferredNetworkType s.mobile networkType response).sends.map fun _ => s.mobile
  | .receive i k, _ =>
    match s.calls[i]?, s.broadcasts[k]? with
    | some c, some b => ((onReceive c b).sends.drop c.sends.length).map fun _ => b.mobile
    | _, _ => []
  | .mobile _, _ | .broadcast _, _ | .reply _ _, _ | .handle _, _ => []

/-- The condition on a step: the network is not CONNECTED when it is asked for, and a broadcast
that tells a handler of lost connectivity is not from a network that is CONNECTING. -/
def idleObserved (s : RilState) : RilAct → Prop
  | .call _ _ => s.mobile ≠ .connected
  | .receive _ k => ∀ b ∈ s.broadcasts[k]?, b.noConnectivity = true → b.mobile ≠ .connecting
  | .mobile _ | .broadcast _ | .reply _ _ | .handle _ => True

instance (s : RilState) : (a : RilAct) → Decidable (idleObserved s a)
  | .call _ _ => inferInstanceAs (Decidable (¬ _))
  | .receive _ k => inferInstanceAs (Decidable (∀ b ∈ s.broadcasts[k]?, _))
  | .mobile _ | .broadcast _ | .reply _ _ | .handle _ => .isTrue trivial

theorem not_dataCall_iff {st : NetState} :
    ¬ st.dataCall ↔ st ≠ .connecting ∧ st ≠ .connected := by
  cases st <;> simp [NetState.dataCall]

/-- A call that is not put off sends at once. -/
theorem call_sends {st : NetState} {networkType : BitVec 32} {response : Option Nat} :
    (setPreferredNetworkType st networkType response).sends =
      if st = .connecting then [] else [networkType] := by
  unfold setPreferredNetworkType
  split
  · rfl
  · rfl

/-- A handler sends when it hears that connectivity is lost. -/
theorem onReceive_sends {c : Call} {b : Broadcast} :
    (onReceive c b).sends.drop c.sends.length =
      if b.noConnectivity then [c.mDesiredNetworkType] else [] := by
  unfold onReceive
  split
  · simp [sendPreferedNetworktype]
  · simp

/-- **Step lemma**: the steps that keep to the condition are those that send with no data call
observed. -/
theorem sendObs_idle_iff (h : rilStep s a = some s') :
    (∀ st ∈ sendObs s a s', ¬ st.dataCall) ↔ idleObserved s a := by
  cases (rilStep_spec h).2 with
  | call networkType response =>
    simp only [sendObs, call_sends, idleObserved]
    by_cases hst : s.mobile = .connecting
    · simp [hst]
    · simp [hst, not_dataCall_iff]
  | receive hc hb hp =>
    rename_i i k c b
    simp only [sendObs, hc, hb, onReceive_sends, idleObserved, Option.mem_some_iff, forall_eq']
    by_cases hlost : b.noConnectivity = true
    · simp [hlost, not_dataCall_iff, b.documented hlost]
    · simp [hlost]
  | mobile st => simp [sendObs, idleObserved]
  | broadcast noConnectivity hdoc => simp [sendObs, idleObserved]
  | reply error hc hp => simp [sendObs, idleObserved]
  | handle hc hp => simp [sendObs, idleObserved]

/-- In every run the requests are all sent with no data call observed exactly when the steps all
keep to the condition. -/
theorem sent_when_idle_iff {as : List RilAct} {log : List NetState}
    (hrun : exec (observe sendObs rilStep) (RilState.init, []) as = some (s, log)) :
    (∀ st ∈ log, ¬ st.dataCall) ↔
      exec (restrict idleObserved rilStep) RilState.init as = some s := by
  have hstep : ∀ s a s', rilStep s a = some s' →
      ((∀ st ∈ sendObs s a s', ¬ st.dataCall) ↔ idleObserved s a) :=
    fun _ _ _ h => sendObs_idle_iff h
  rw [observe_forall_iff hstep hrun]
  exact and_iff_right fun _ hst => by cases hst

/-- A call that is put off until the network is down. -/
theorem sent_when_down :
    ∃ s, exec (observe sendObs rilStep) (RilState.init, [])
        [.mobile .connecting, .call 3 none, .mobile .disconnected, .broadcast true,
          .receive 0 0] = some (s, [.disconnected]) ∧
      ∀ st ∈ [NetState.disconnected], ¬ st.dataCall := by
  obtain ⟨s, hs, hidle⟩ : ∃ s,
      exec (observe sendObs rilStep) (RilState.init, [])
        [.mobile .connecting, .call 3 none, .mobile .disconnected, .broadcast true,
          .receive 0 0] = some (s, [.disconnected]) ∧
      exec (restrict idleObserved rilStep) RilState.init
        [.mobile .connecting, .call 3 none, .mobile .disconnected, .broadcast true,
          .receive 0 0] = some s := ⟨_, rfl, rfl⟩
  exact ⟨s, hs, (sent_when_idle_iff hs).mpr hidle⟩

/-- While the network is CONNECTED the request is sent directly. -/
theorem sent_when_connected :
    ∃ s, exec (observe sendObs rilStep) (RilState.init, []) [.mobile .connected, .call 3 none] =
        some (s, [.connected]) ∧ NetState.connected.dataCall :=
  ⟨_, rfl, trivial⟩

end Ancora.Ril
