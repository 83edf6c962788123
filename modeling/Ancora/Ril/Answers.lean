import Ancora.Ril.NetworkType

/-!
# The answer to a caller that was put off (SamsungRIL.java:1043–1062)

A `ConnectivityHandler` sends the request with a message of its own and keeps the caller's in
`mNetworktypeResponse`. When the answer comes it enables the data connection and sends the
caller's message with neither result nor exception, whatever the answer was
(`deferred_error_is_lost`). It does so without a test for null, which the direct path has.

- `AsDirect c`: what a call has reported so far is what the direct path reports.
- `answerable`: a caller that is put off passes a message, and the modem reports success to it.
- **`deferred_as_direct`**: in every run of such steps every call is as the direct path, and
  the calls in progress can all be brought to their end.
-/

namespace Ancora.Ril

open Machine

variable {s s' : RilState} {a : RilAct} {c : Call}

/-- The call as the direct path takes it through the answer `error`. -/
def Call.direct (c : Call) (error : BitVec 32) : Call :=
  processSolicited (directCall c.networkType c.response) (c.response.map .caller) error

/-- The call has reported what the direct path reports: once it is done, the same requests and
the same completions, and before that nothing. The data connection is enabled once for a call
that was put off. -/
structure AsDirect (c : Call) : Prop where
  done : c.phase = .done → ∃ error, c.replies = [error] ∧ c.sends = (c.direct error).sends ∧
    c.completions = (c.direct error).completions ∧ c.enables = if c.deferred then 1 else 0
  pending : c.phase ≠ .done → c.completions = [] ∧ c.enables = 0

/-- The direct path completes a message once, and ignores a null message. -/
theorem direct_completions (error : BitVec 32) :
    (c.direct error).completions = (c.response.map fun _ => solicitedResult error).toList := by
  unfold Call.direct
  cases c.response with
  | none => rfl
  | some r => rfl

/-- A direct call sends its own network type. -/
theorem direct_sends (error : BitVec 32) : (c.direct error).sends = [c.networkType] := by
  unfold Call.direct
  cases c.response with
  | none => rfl
  | some r => rfl

/-- The condition on a step. -/
def answerable (s : RilState) : RilAct → Prop
  | .call _ response => s.mobile = .connecting → response.isSome = true
  | .reply i error => ∀ c ∈ s.calls[i]?, c.deferred = true → error = 0
  | .mobile _ | .broadcast _ | .receive _ _ | .handle _ => True

instance (s : RilState) : (a : RilAct) → Decidable (answerable s a)
  | .call _ _ => inferInstanceAs (Decidable (_ → _))
  | .reply i _ => inferInstanceAs (Decidable (∀ c ∈ s.calls[i]?, _))
  | .mobile _ | .broadcast _ | .receive _ _ | .handle _ => .isTrue trivial

/-! ## The invariant of a call -/

/-- A call that was put off holds on to the caller's message, which is there. -/
structure Call.Kept (c : Call) : Prop where
  deferred : c.deferred = true
  kept : c.mNetworktypeResponse = c.response
  present : c.response.isSome = true

/-- Nothing has been reported. -/
structure Call.Silent (c : Call) : Prop where
  completions : c.completions = []
  enables : c.enables = 0

def Call.Inv (c : Call) : Prop :=
  match c.phase with
  | .listening => c.Silent ∧ c.Kept ∧ c.mDesiredNetworkType = c.networkType ∧ c.sends = [] ∧
    c.replies = []
  | .sent mResult => c.Silent ∧ c.sends = [c.networkType] ∧ c.replies = [] ∧
    (c.Kept ∧ mResult = some .setPreferredNetworkType ∨
      c.deferred = false ∧ mResult = c.response.map .caller)
  | .replied _ => c.Silent ∧ c.Kept ∧ c.sends = [c.networkType] ∧ c.replies = [0]
  | .done => ∃ error, c.replies = [error] ∧ c.sends = (c.direct error).sends ∧
    c.completions = (c.direct error).completions ∧ c.enables = if c.deferred then 1 else 0

/-- With the invariant a call is answered as the direct one would be. -/
theorem Call.Inv.asDirect (h : c.Inv) : AsDirect c := by
  unfold Call.Inv at h
  split at h
  · rename_i hp
    exact ⟨by simp [hp], fun _ => ⟨h.1.completions, h.1.enables⟩⟩
  · rename_i hp
    exact ⟨by simp [hp], fun _ => ⟨h.1.completions, h.1.enables⟩⟩
  · rename_i hp
    exact ⟨by simp [hp], fun _ => ⟨h.1.completions, h.1.enables⟩⟩
  · rename_i hp
    exact ⟨fun _ => h, by simp [hp]⟩

/-- The call sets up the invariant, -/
theorem inv_call {st : NetState} {networkType : BitVec 32} {response : Option Nat}
    (h : st = .connecting → response.isSome = true) :
    (setPreferredNetworkType st networkType response).Inv := by
  unfold setPreferredNetworkType
  split
  · rename_i hst
    exact ⟨⟨rfl, rfl⟩, ⟨rfl, rfl, h hst⟩, rfl, rfl, rfl⟩
  · exact ⟨⟨rfl, rfl⟩, rfl, rfl, .inr ⟨rfl, rfl⟩⟩

/-- the broadcast keeps it, -/
theorem inv_receive {b : Broadcast} (h : c.Inv) (hp : c.phase = .listening) :
    (onReceive c b).Inv := by
  have hc := h
  simp only [Call.Inv, hp] at hc
  obtain ⟨hsilent, hkept, hwanted, hsends, hreplies⟩ := hc
  unfold onReceive
  split
  · refine ⟨⟨hsilent.completions, hsilent.enables⟩, ?_, hreplies,
      .inl ⟨⟨hkept.deferred, hkept.kept, hkept.present⟩, rfl⟩⟩
    simp [sendPreferedNetworktype, hsends, hwanted]
  · exact h

/-- the modem's reply keeps it, -/
theorem inv_reply {mResult : Option Message} {error : BitVec 32} (h : c.Inv)
    (hp : c.phase = .sent mResult) (hok : c.deferred = true → error = 0) :
    (processSolicited c mResult error).Inv := by
  simp only [Call.Inv, hp] at h
  obtain ⟨hsilent, hsends, hreplies, ⟨hkept, rfl⟩ | ⟨hdirect, rfl⟩⟩ := h
  · have hzero := hok hkept.deferred
    refine ⟨⟨hsilent.completions, hsilent.enables⟩, ⟨hkept.deferred, hkept.kept, hkept.present⟩,
      hsends, ?_⟩
    simp [processSolicited, hreplies, hzero]
  · -- The direct path: the answer goes to the caller at once.
    cases hr : c.response with
    | none =>
      refine ⟨error, by simp [processSolicited, hreplies], ?_, ?_, ?_⟩
      · rw [direct_sends]
        exact hsends
      · rw [direct_completions]
        simp [processSolicited, hsilent.completions, hr]
      · simp [processSolicited, hsilent.enables, hdirect]
    | some r =>
      refine ⟨error, by simp [processSolicited, hreplies], ?_, ?_, ?_⟩
      · rw [direct_sends]
        exact hsends
      · rw [direct_completions]
        simp [processSolicited, hsilent.completions, hr]
      · simp [processSolicited, hsilent.enables, hdirect]

/-- and the message does, without a crash. -/
theorem inv_handle {ar : AsyncResult} (h : c.Inv) (hp : c.phase = .replied ar) :
    (handleMessage c).1.Inv ∧ (handleMessage c).2 = true := by
  simp only [Call.Inv, hp] at h
  obtain ⟨hsilent, hkept, hsends, hreplies⟩ := h
  obtain ⟨r, hr⟩ := Option.isSome_iff_exists.mp hkept.present
  have hheld : c.mNetworktypeResponse = some r := hkept.kept.trans hr
  have heq : handleMessage c =
      ({ c with phase := .done, completions := c.completions ++ [⟨none, none⟩],
                mNetworktypeResponse := none, enables := c.enables + 1 }, true) := by
    simp [handleMessage, hheld]
  rw [heq]
  refine ⟨⟨0, hreplies, ?_, ?_, ?_⟩, rfl⟩
  · rw [direct_sends]
    exact hsends
  · rw [direct_completions]
    simp [hsilent.completions, hr, solicitedResult, responseVoid]
  · simp [hsilent.enables, hkept.deferred]

/-! ## Runs -/

structure Answering (s : RilState) : Prop where
  up : s.crashed = false
  calls : ∀ c ∈ s.calls, c.Inv

theorem answering_init : Answering .init := ⟨rfl, fun _ h => by cases h⟩

/-- A step of one call. -/
theorem Answering.put {c' : Call} (hs : Answering s) (i : Nat) (hc : c'.Inv) :
    Answering { s with calls := s.calls.set i c' } := by
  refine ⟨hs.up, fun d hd => ?_⟩
  rcases List.mem_or_eq_of_mem_set hd with hold | hnew
  · exact hs.calls d hold
  · exact hnew ▸ hc

/-- **Step lemma**. -/
theorem answering_step (hok : answerable s a) (h : rilStep s a = some s') (hs : Answering s) :
    Answering s' := by
  cases (rilStep_spec h).2 with
  | call networkType response =>
    refine ⟨hs.up, fun c hc => ?_⟩
    rcases List.mem_append.mp hc with hold | hnew
    · exact hs.calls c hold
    · rw [List.mem_singleton.mp hnew]
      exact inv_call hok
  | mobile st => exact ⟨hs.up, hs.calls⟩
  | broadcast noConnectivity hdoc => exact ⟨hs.up, hs.calls⟩
  | receive hc hb hp =>
    have hinv := hs.calls _ (List.mem_of_getElem? hc)
    exact hs.put _ (inv_receive hinv hp)
  | reply error hc hp =>
    have hinv := hs.calls _ (List.mem_of_getElem? hc)
    exact hs.put _ (inv_reply hinv hp (hok _ hc))
  | handle hc hp =>
    rename_i i c ar
    obtain ⟨hinv, hends⟩ := inv_handle (hs.calls _ (List.mem_of_getElem? hc)) hp
    exact ⟨by simp [hends], (hs.put i hinv).calls⟩

/-! ## Every call can be brought to its end -/

/-- The steps a call has ahead of it. -/
def Phase.ahead : Phase → Nat
  | .listening => 3
  | .sent _ => 2
  | .replied _ => 1
  | .done => 0

def ahead : List Call → Nat
  | [] => 0
  | c :: cs => c.phase.ahead + ahead cs

/-- A call that gets on brings all of them closer to the end. -/
theorem ahead_set {cs : List Call} {i : Nat} {c' : Call} (h : cs[i]? = some c)
    (hlt : c'.phase.ahead < c.phase.ahead) : ahead (cs.set i c') < ahead cs := by
  induction cs generalizing i with
  | nil => cases h
  | cons d cs ih =>
    cases i with
    | zero =>
      obtain rfl := Option.some.inj h
      simpa [ahead] using hlt
    | succ i => simpa [ahead] using ih h

/-- The state in which a handler can hear that connectivity is lost. -/
structure Heard (s : RilState) : Prop where
  answering : Answering s
  lost : ∃ (k : Nat) (b : Broadcast), s.broadcasts[k]? = some b ∧ b.noConnectivity = true

def allDone (s : RilState) : Prop := ∀ c ∈ s.calls, c.phase = .done

/-- The message is the last step of a call. -/
theorem handleMessage_done {ar : AsyncResult} (h : c.Inv) (hp : c.phase = .replied ar) :
    (handleMessage c).1.phase = .done := by
  simp only [Call.Inv, hp] at h
  obtain ⟨r, hr⟩ := Option.isSome_iff_exists.mp h.2.1.present
  have hheld : c.mNetworktypeResponse = some r := h.2.1.kept.trans hr
  simp [handleMessage, hheld]

/-- While a call is in progress, some step takes one further. -/
theorem heard_step (hs : Heard s) (hgoal : ¬ allDone s) :
    ∃ a s', restrict answerable rilStep s a = some s' ∧
      (Heard s' ∧ s'.calls.length = s.calls.length) ∧ ahead s'.calls < ahead s.calls := by
  obtain ⟨k, b, hb, hlost⟩ := hs.lost
  have hup := hs.answering.up
  simp only [allDone, not_forall] at hgoal
  obtain ⟨c, hc, hp⟩ := hgoal
  obtain ⟨i, hi⟩ := List.mem_iff_getElem?.mp hc
  have hinv := hs.answering.calls c hc
  -- One step of the call number `i`, which keeps the broadcasts.
  have hone : ∀ a {t c'}, answerable s a → rilStep s a = some t → t.calls = s.calls.set i c' →
      t.broadcasts = s.broadcasts → c'.phase.ahead < c.phase.ahead →
      ∃ a s', restrict answerable rilStep s a = some s' ∧
        (Heard s' ∧ s'.calls.length = s.calls.length) ∧ ahead s'.calls < ahead s.calls := by
    intro a t c' hok hstep hcalls hbs hlt
    refine ⟨a, t, restrict_eq_some.mpr ⟨hok, hstep⟩,
      ⟨⟨answering_step hok hstep hs.answering, k, b, ?_, hlost⟩, ?_⟩, ?_⟩
    · rw [hbs]
      exact hb
    · rw [hcalls, List.length_set]
    · rw [hcalls]
      exact ahead_set hi hlt
  cases hphase : c.phase with
  | listening =>
    have hstep : rilStep s (.receive i k) =
        some { s with calls := s.calls.set i (onReceive c b) } := by
      simp [rilStep, hup, hi, hb, hphase]
    exact hone (.receive i k) trivial hstep rfl rfl
      (by simp [onReceive, hlost, sendPreferedNetworktype, hphase, Phase.ahead])
  | sent mResult =>
    have hstep : rilStep s (.reply i 0) =
        some { s with calls := s.calls.set i (processSolicited c mResult 0) } := by
      simp [rilStep, hup, hi, hphase]
    refine hone (.reply i 0) (fun _ _ _ => rfl) hstep rfl rfl ?_
    unfold processSolicited
    cases mResult with
    | none => simp [Phase.ahead, hphase]
    | some m => cases m <;> simp [Phase.ahead, hphase]
  | replied ar =>
    have hstep : rilStep s (.handle i) = some { s with
        calls := s.calls.set i (handleMessage c).1, crashed := !(handleMessage c).2 } := by
      simp [rilStep, hup, hi, hphase]
    refine hone (.handle i) trivial hstep rfl rfl ?_
    rw [handleMessage_done hinv hphase, hphase]
    exact Nat.one_pos
  | done => exact absurd hphase hp

/-- The data connection can go down, with a broadcast that says so. -/
theorem goes_down (hs : Answering s) :
    ∃ s', Heard s' ∧ s'.calls = s.calls ∧ ∀ as,
      exec (restrict answerable rilStep) s (.mobile .disconnected :: .broadcast true :: as) =
        exec (restrict answerable rilStep) s' as := by
  have hdoc : true = true → NetState.disconnected ≠ .connected := fun _ => by decide
  refine ⟨{ s with
    mobile := .disconnected
    broadcasts := s.broadcasts ++ [⟨true, .disconnected, hdoc⟩] }, ?_, rfl, fun as => ?_⟩
  · exact ⟨⟨hs.up, hs.calls⟩, s.broadcasts.length, ⟨true, .disconnected, hdoc⟩, by simp, rfl⟩
  · simp [restrict, answerable, rilStep, hs.up]

/-- In every run in which callers that are put off pass a message and are answered with success,
no call ends the process, every call reports what the direct path reports, and the calls can
all be brought to their end. -/
theorem deferred_as_direct {as : List RilAct}
    (hrun : exec (restrict answerable rilStep) RilState.init as = some s) :
    s.crashed = false ∧ (∀ c ∈ s.calls, AsDirect c) ∧
      ∃ bs t, exec (restrict answerable rilStep) s bs = some t ∧
        t.calls.length = s.calls.length ∧ ∀ c ∈ t.calls, c.phase = .done := by
  have hs : Answering s :=
    exec_restrict_invariant (fun _ _ _ hok hstep hi => answering_step hok hstep hi)
      answering_init hrun
  refine ⟨hs.up, fun c hc => (hs.calls c hc).asDirect, ?_⟩
  obtain ⟨s₁, hheard, hcalls, hfrom⟩ := goes_down hs
  have hstep : ∀ t, Heard t ∧ t.calls.length = s.calls.length →
      ¬ (t.calls.length = s.calls.length ∧ allDone t) →
      ∃ a t', restrict answerable rilStep t a = some t' ∧
        (Heard t' ∧ t'.calls.length = s.calls.length) ∧ ahead t'.calls < ahead t.calls := by
    rintro t ⟨ht, hlen⟩ hgoal
    rw [← hlen]
    exact heard_step ht fun hdone => hgoal ⟨hlen, hdone⟩
  obtain ⟨bs, t, hbs, hgoal⟩ := reaches_of_measure (fun t => ahead t.calls) hstep s₁
    ⟨hheard, congrArg List.length hcalls⟩
  exact ⟨_, t, (hfrom bs).trans hbs, hgoal⟩

/-- Two calls at once, both put off; the modem has answered one of them. -/
theorem deferred_as_direct_two :
    ∃ s, exec (restrict answerable rilStep) RilState.init
        [.mobile .connecting, .call 3 (some 7), .call 0 (some 8), .mobile .disconnected,
          .broadcast true, .receive 1 0, .receive 0 0, .reply 1 0, .handle 1] = some s ∧
      ∀ c ∈ s.calls, AsDirect c := by
  obtain ⟨s, hs⟩ : ∃ s, exec (restrict answerable rilStep) RilState.init
      [.mobile .connecting, .call 3 (some 7), .call 0 (some 8), .mobile .disconnected,
        .broadcast true, .receive 1 0, .receive 0 0, .reply 1 0, .handle 1] = some s := ⟨_, rfl⟩
  exact ⟨s, hs, (deferred_as_direct hs).2.1⟩

/-- The modem refuses, and the caller is told of success. -/
theorem deferred_error_is_lost :
    ∃ s c, exec rilStep RilState.init
        [.mobile .connecting, .call 3 (some 7), .mobile .disconnected, .broadcast true,
          .receive 0 0, .reply 0 6, .handle 0] = some s ∧
      c ∈ s.calls ∧ c.completions = [⟨none, none⟩] ∧
      (c.direct 6).completions = [⟨none, some 6⟩] ∧ ¬ AsDirect c := by
  refine ⟨_, _, rfl, List.mem_singleton.mpr rfl, rfl, rfl, fun h => ?_⟩
  obtain ⟨error, hreplies, -, hcompletions, -⟩ := h.done rfl
  obtain rfl : 6 = error := (List.cons.inj hreplies).1
  exact absurd hcompletions (by decide)

-- a null message, which the direct path ignores, ends the process
example : ∃ s, exec rilStep RilState.init
        [.mobile .connecting, .call 3 none, .mobile .disconnected, .broadcast true,
          .receive 0 0, .reply 0 0, .handle 0] = some s ∧ s.crashed = true :=
  ⟨_, rfl, rfl⟩

end Ancora.Ril
