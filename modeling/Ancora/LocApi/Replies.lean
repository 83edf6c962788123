import Ancora.Lib.Machine
import Ancora.LocApi.Ledger

/-!
# Replies are matched, not lost and not shared

The runs of `loc_api_sync_ioctl` and of the callbacks that answer it produce a
`Ledger`, as long as no step takes one of the code's unguarded paths
(`replyTimely`):

- a walk finds a slot to match that belongs to a live call without a reply: not
  one that is allocated and not filled in (stale contents), not one whose call is
  over and not yet freed, not one that was signalled and whose waiter has not run;
- the wait ends by a signal, or by a time-out before any delivery
  (`loc_api_wait_callback` has no predicate loop);
- `loc_ioctl` does not fail after its callback has come in.

`SyncInv` ties each slot to the fate of the call that owns it, and
**`sync_replies_matched`** reads off the ledger what callers get. Without the
condition a wait that wakes up for no reason returns SUCCESS and no reply
(`sync_returns_without_reply`).
-/

namespace Ancora.LocApi.SyncCall

open Machine

variable {α : Type}

/-- Every live call that waits for this callback has a reply already. -/
def nobodyWaits (s : SyncState α) (cb : Callback α) : Prop :=
  ∀ j, ∀ c ∈ s.calls j, c.phase.live = true → awaits c.handle c.ioctlType cb →
    (s.slots j).delivered = true

instance (s : SyncState α) (cb : Callback α) : Decidable (nobodyWaits s cb) :=
  inferInstanceAs (Decidable (∀ _, _))

/-- The slot that would consume the callback is that of a live call without a
reply, and the event is an ioctl report and nothing else; or nobody waits for it. -/
def targetOk (s : SyncState α) (cb : Callback α) (i : SlotId) : Prop :=
  (s.liveCall i = none → nobodyWaits s cb) ∧
  (∀ c ∈ s.liveCall i, (s.slots i).delivered = false ∧ cb.locEvent = eventIoctlReport)

instance (s : SyncState α) (cb : Callback α) (i : SlotId) : Decidable (targetOk s cb i) :=
  inferInstanceAs (Decidable (_ ∧ _))

/-- The walk in progress. -/
def Holder.walk? : Holder α → Option (Walk α)
  | .callback w => some w
  | _ => none

/-- The steps that keep replies matched. -/
def replyTimely (s : SyncState α) : SyncAct α → Prop
  | .visit => ∀ w ∈ s.lock.walk?, ∀ i : SlotId, i.val = w.next →
    (s.slots i).accepts (s.slotInUse i) w.cb = true → targetOk s w.cb i
  | .wakeUp i => (s.slots i).signalled = true
  | .timeOut i => (s.slots i).delivered = false
  | .ioctlReturn i rc => rc = .error → (s.slots i).delivered = false
  | _ => True

instance (s : SyncState α) : (a : SyncAct α) → Decidable (replyTimely s a)
  | .visit => inferInstanceAs (Decidable (∀ w ∈ s.lock.walk?, _))
  | .wakeUp _ => inferInstanceAs (Decidable (_ = _))
  | .timeOut _ => inferInstanceAs (Decidable (_ = _))
  | .ioctlReturn _ _ => inferInstanceAs (Decidable (_ → _))
  | .alloc _ _ => .isTrue trivial
  | .fill _ => .isTrue trivial
  | .ioctl _ => .isTrue trivial
  | .waitCallback _ => .isTrue trivial
  | .freeSlot _ => .isTrue trivial
  | .callback _ _ _ => .isTrue trivial
  | .callbackEnd => .isTrue trivial

/-! ## The invariant -/

/-- The slot of a live call shows what the call waits for and whether it has been
given a callback. -/
structure Filled (slot : Slot α) (c : Call) (f : Fate α) : Prop where
  handle : slot.locHandle = c.handle
  ioctl : slot.ioctlType = c.ioctlType
  mask : slot.waitEventMask = waitMaskOf c.ioctlType
  fate : (f = .pending c.handle c.ioctlType ∧ slot.delivered = false) ∨
    ∃ cb, f = .holding cb ∧ slot.received = some cb ∧ slot.delivered = true

/-- A slot and the call that owns it. -/
structure SlotInv (slot : Slot α) (call : Option Call) (B : Nat → Fate α) : Prop where
  waiting : slot.isWaiting = true ↔ ∃ c, call = some c ∧ c.phase = .waiting
  signalled : slot.signalled = true → slot.isWaiting = true
  allocated : ∀ c, call = some c → c.phase = .allocated → B c.id = .absent
  live : ∀ c, call = some c → c.phase.live = true → Filled slot c (B c.id)
  done : ∀ c, call = some c → c.phase = .done → (B c.id).inProgress = false

/-- A callback's walk: if no call has taken the callback, the calls that have
waited for it since it came are still ahead. -/
structure WalkInv (s : SyncState α) (w : Walk α) (B : Nat → Fate α) : Prop where
  id_lt : w.cb.id < s.nextCb
  untaken : w.taken = false → ∀ c cb, (B c).callback = some cb → cb.id ≠ w.cb.id
  unconsumed : w.consumed = false → w.taken = false
  consumed : w.consumed = true → w.inUse = true
  inUse : ∀ j : SlotId, j.val < w.next → s.slotInUse j = true → w.inUse = true
  ahead : w.taken = false → ∀ pre mid, s.log = pre ++ .arrived w.cb :: mid →
    ∀ c h t, .filled c h t ∈ pre → awaits h t w.cb → B c = .pending h t →
      w.consumed = false ∧ ∀ j call, s.calls j = some call → call.id = c → w.next ≤ j.val

/-- The state and the ledger agree. -/
structure SyncInv (s : SyncState α) (B : Nat → Fate α) : Prop where
  ledger : Ledger s.log B
  slot : ∀ i, SlotInv (s.slots i) (s.calls i) B
  used : ∀ i, s.slotInUse i = (s.calls i).isSome
  summary : s.inUse = false → ∀ i, s.calls i = none
  distinct : ∀ i j c c', s.calls i = some c → s.calls j = some c' → c.id = c'.id → i = j
  bound : ∀ i c, s.calls i = some c → c.id < s.nextCall
  unborn : ∀ c, s.nextCall ≤ c → B c = .absent
  owned : ∀ c, (B c).inProgress = true → ∃ i call, s.calls i = some call ∧ call.id = c
  fresh : ∀ c cb, (B c).callback = some cb → cb.id < s.nextCb
  walk : ∀ w, s.lock = .callback w → WalkInv s w B

variable {s s' : SyncState α} {B : Nat → Fate α} {i : SlotId} {c : Call}

/-- A slot's invariant looks only at the fate of its own call. -/
theorem SlotInv.congr {slot : Slot α} {call : Option Call} {B' : Nat → Fate α}
    (h : SlotInv slot call B) (heq : ∀ c, call = some c → B' c.id = B c.id) :
    SlotInv slot call B' where
  waiting := h.waiting
  signalled := h.signalled
  allocated c hc hp := by rw [heq c hc]; exact h.allocated c hc hp
  live c hc hp := by rw [heq c hc]; exact h.live c hc hp
  done c hc hp := by rw [heq c hc]; exact h.done c hc hp

/-- A call that is in progress in the ledger is live. -/
theorem SlotInv.live_of_inProgress {slot : Slot α} (h : SlotInv slot (some c) B)
    (hp : (B c.id).inProgress = true) : c.phase.live = true := by
  cases hphase : c.phase with
  | allocated =>
    rw [h.allocated c rfl hphase] at hp
    cases hp
  | done =>
    rw [h.done c rfl hphase] at hp
    cases hp
  | _ => rfl

/-- A call that is pending in the ledger is live and its slot is empty. -/
theorem SyncInv.pending (hi : SyncInv s B) {id : Nat} {h : Int} {t : BitVec 32}
    (hp : B id = .pending h t) {j : SlotId} {call : Call} (hj : s.calls j = some call)
    (hid : call.id = id) :
    call.phase.live = true ∧ Filled (s.slots j) call (B id) ∧
      (s.slots j).delivered = false ∧ h = call.handle ∧ t = call.ioctlType := by
  have hs := hi.slot j
  rw [hj] at hs
  have hlive := hs.live_of_inProgress (by rw [hid, hp]; rfl)
  have hf := hs.live call rfl hlive
  rw [hid] at hf
  refine ⟨hlive, hf, ?_⟩
  rcases hf.fate with ⟨hpend, hd⟩ | ⟨cb, hhold, -⟩
  · rw [hp] at hpend
    cases hpend
    exact ⟨hd, rfl, rfl⟩
  · rw [hp] at hhold
    cases hhold

/-- The code's test accepts every callback that a pending call waits for. -/
theorem Filled.accepts {slot : Slot α} {f : Fate α} (hf : Filled slot c f)
    (hd : slot.delivered = false) {cb : Callback α} (hcb : awaits c.handle c.ioctlType cb) :
    slot.accepts true cb = true := by
  obtain ⟨hne, hh, he, ht⟩ := hcb
  have harr : slot.hasArrived = false := by
    cases h : slot.hasArrived with
    | false => rfl
    | true => simp [Slot.delivered, h] at hd
  have hmask : waitMaskOf c.ioctlType = eventIoctlReport := by
    rw [waitMaskOf, if_pos hne]
    rfl
  have hmatch : locMatchCallback slot.waitEventMask slot.ioctlType cb.locEvent cb.payload = true := by
    rw [locMatchCallback, hf.mask, hmask, he, if_neg (by decide), if_pos]
    exact .inr (.inr (by rw [ht, hf.ioctl]))
  simp [Slot.accepts, hmatch, harr, hf.handle, hh]

/-- What the code's test accepts for a pending call, the call waits for, if the
event is an ioctl report and nothing else. -/
theorem Filled.awaits_of_accepts {slot : Slot α} {f : Fate α} (hf : Filled slot c f)
    {inUse : Bool} {cb : Callback α} (hacc : slot.accepts inUse cb = true)
    (he : cb.locEvent = eventIoctlReport) : awaits c.handle c.ioctlType cb := by
  simp only [Slot.accepts, Bool.and_eq_true, beq_iff_eq] at hacc
  obtain ⟨⟨⟨-, hh⟩, hmatch⟩, -⟩ := hacc
  rw [locMatchCallback, hf.mask, hf.ioctl, he] at hmatch
  have hne : c.ioctlType ≠ 0 := by
    intro h0
    rw [waitMaskOf, if_neg (not_not.mpr h0)] at hmatch
    simp at hmatch
  have hmask : waitMaskOf c.ioctlType = eventIoctlReport := by
    rw [waitMaskOf, if_pos hne]
    rfl
  rw [hmask, if_neg (by decide)] at hmatch
  refine ⟨hne, hh.symm.trans hf.handle, he, ?_⟩
  by_contra hty
  rw [if_neg] at hmatch
  · cases hmatch
  · rintro (h | h | h)
    · exact h rfl
    · exact hne h
    · exact hty h

/-! ## Steps of a call's own thread -/

/-- An arrival in an extended log is an arrival in the log, if what was added
is about calls. -/
theorem arrived_split {log evs pre mid : List (SyncEvent α)} {cb : Callback α}
    (hevs : ∀ e ∈ evs, e.call ≠ none) (h : log ++ evs = pre ++ .arrived cb :: mid) :
    ∃ mid', log = pre ++ .arrived cb :: mid' := by
  rcases List.append_eq_append_iff.mp h with ⟨m, rfl, hm⟩ | ⟨m, rfl, hm⟩
  · exact absurd rfl (hevs (.arrived cb) (by rw [hm]; simp))
  · cases m with
    | nil =>
      rw [List.nil_append] at hm
      exact absurd rfl (hevs (.arrived cb) (by rw [← hm]; simp))
    | cons a m =>
      rw [List.cons_append, List.cons.injEq] at hm
      exact ⟨m, by rw [← hm.1]⟩

/-- A walk is not disturbed by a call that changes its own slot, gets no callback
and waits for nothing it did not wait for. -/
theorem WalkInv.put {w : Walk α} (hw : WalkInv s w B) (hledger : Ledger s.log B)
    (hc : s.calls i = some c) {slot' : Slot α} {c' : Call} {evs : List (SyncEvent α)} {f : Fate α}
    {lock' : Holder α} (hid : c'.id = c.id) (hevs : ∀ e ∈ evs, e.call ≠ none)
    (hcb : ∀ cb, f.callback = some cb → (B c.id).callback = some cb)
    (hpend : ∀ h t, f = .pending h t → B c.id = .pending h t ∨ B c.id = .absent) :
    WalkInv { s.put i slot' c' evs with lock := lock' } w (Function.update B c.id f) where
  id_lt := hw.id_lt
  untaken ht d cb hd := by
    by_cases hdc : d = c.id
    · rw [hdc, Function.update_self] at hd
      exact hw.untaken ht c.id cb (hcb cb hd)
    · rw [Function.update_of_ne hdc] at hd
      exact hw.untaken ht d cb hd
  unconsumed := hw.unconsumed
  consumed := hw.consumed
  inUse := hw.inUse
  ahead ht pre mid hlog d h t hmem haw hd := by
    obtain ⟨mid', hlog'⟩ := arrived_split hevs hlog
    have hold : B d = .pending h t := by
      by_cases hdc : d = c.id
      · rw [hdc, Function.update_self] at hd
        rcases hpend h t hd with hp | habs
        · rw [hdc, hp]
        · -- an absent call was not filled in before the callback came
          have hmem' : .filled d h t ∈ s.log := by
            rw [hlog']
            exact List.mem_append_left _ hmem
          exact absurd (hdc ▸ habs) (hledger.filled_mem hmem')
      · rwa [Function.update_of_ne hdc] at hd
    obtain ⟨hcons, hahead⟩ := hw.ahead ht pre mid' hlog' d h t hmem haw hold
    refine ⟨hcons, fun j call hj hcall => ?_⟩
    by_cases hji : j = i
    · have hj' : some c' = some call := by simpa [SyncState.put, hji] using hj
      cases hj'
      rw [hji]
      exact hahead i c hc (hid.symm.trans hcall)
    · exact hahead j call (by simpa [SyncState.put, hji] using hj) hcall

/-- The invariant after a step that changes one slot and its call, given what the
step does to the ledger, to the slot and to a walk. -/
theorem SyncInv.put (hi : SyncInv s B) (hc : s.calls i = some c) {slot' : Slot α} {c' : Call}
    {evs : List (SyncEvent α)} {f : Fate α} {lock' : Holder α} (hid : c'.id = c.id)
    (hledger : Ledger (s.log ++ evs) (Function.update B c.id f))
    (hslot : SlotInv slot' (some c') (Function.update B c.id f))
    (hfresh : ∀ cb, f.callback = some cb → cb.id < s.nextCb)
    (hwalk : ∀ w, lock' = .callback w →
      WalkInv { s.put i slot' c' evs with lock := lock' } w (Function.update B c.id f)) :
    SyncInv { s.put i slot' c' evs with lock := lock' } (Function.update B c.id f) := by
  have hcalls : ∀ j call, Function.update s.calls i (some c') j = some call →
      ∃ call', s.calls j = some call' ∧ call'.id = call.id := by
    intro j call hj
    by_cases hji : j = i
    · subst hji
      rw [Function.update_self, Option.some.injEq] at hj
      exact ⟨c, hc, by rw [← hj, hid]⟩
    · rw [Function.update_of_ne hji] at hj
      exact ⟨call, hj, rfl⟩
  refine ⟨hledger, fun j => ?_, fun j => ?_, fun hu j => ?_, fun j k a b hj hk hab => ?_,
    fun j a hj => ?_, fun d hd => ?_, fun d hd => ?_, fun d cb hd => ?_, hwalk⟩
  · by_cases hji : j = i
    · subst hji
      simpa [SyncState.put] using hslot
    · have hother : SlotInv (s.slots j) (s.calls j) (Function.update B c.id f) :=
        (hi.slot j).congr fun a ha => by
          rw [Function.update_of_ne]
          exact fun hid' => hji (hi.distinct j i a c ha hc hid')
      simpa [SyncState.put, hji] using hother
  · show s.slotInUse j = (Function.update s.calls i (some c') j).isSome
    by_cases hji : j = i
    · subst hji
      rw [hi.used, hc, Function.update_self]
      rfl
    · rw [Function.update_of_ne hji]
      exact hi.used j
  · have := hi.summary hu i
    rw [hc] at this
    cases this
  · obtain ⟨a', ha', hia⟩ := hcalls j a hj
    obtain ⟨b', hb', hib⟩ := hcalls k b hk
    exact hi.distinct j k a' b' ha' hb' (by rw [hia, hib, hab])
  · obtain ⟨a', ha', hia⟩ := hcalls j a hj
    rw [← hia]
    exact hi.bound j a' ha'
  · have hne : d ≠ c.id := by
      have := hi.bound i c hc
      have hd' : s.nextCall ≤ d := hd
      omega
    rw [Function.update_of_ne hne]
    exact hi.unborn d hd
  · by_cases hdc : d = c.id
    · exact ⟨i, c', by simp [SyncState.put], by rw [hid, hdc]⟩
    · rw [Function.update_of_ne hdc] at hd
      obtain ⟨j, call, hj, hcall⟩ := hi.owned d hd
      have hji : j ≠ i := by
        rintro rfl
        rw [hc, Option.some.injEq] at hj
        exact hdc (by rw [hj, hcall])
      exact ⟨j, call, by simpa [SyncState.put, hji] using hj, hcall⟩
  · by_cases hdc : d = c.id
    · rw [hdc, Function.update_self] at hd
      exact hfresh cb hd
    · rw [Function.update_of_ne hdc] at hd
      exact hi.fresh d cb hd

/-- A step of a call that logs nothing. -/
theorem SyncInv.quiet (hi : SyncInv s B) (hc : s.calls i = some c) {slot' : Slot α} {c' : Call}
    {lock' : Holder α} (hid : c'.id = c.id) (hslot : SlotInv slot' (some c') B)
    (hlock : ∀ w, lock' = .callback w → s.lock = .callback w) :
    SyncInv { s.put i slot' c' [] with lock := lock' } B := by
  have hB : Function.update B c.id (B c.id) = B := Function.update_eq_self c.id B
  have hput : SyncInv { s.put i slot' c' [] with lock := lock' }
      (Function.update B c.id (B c.id)) := by
    refine hi.put hc hid ?_ ?_ (hi.fresh c.id) ?_
    · rw [hB, List.append_nil]
      exact hi.ledger
    · rwa [hB]
    · intro w hw
      exact (hi.walk w (hlock w hw)).put hi.ledger hc hid (by simp) (fun _ h => h)
        fun h t hp => .inl hp
  rwa [hB] at hput

/-- A step of a call that logs an event about it and gives it no callback. -/
theorem SyncInv.moved (hi : SyncInv s B) (hc : s.calls i = some c) {slot' : Slot α} {c' : Call}
    {lock' : Holder α} {e : SyncEvent α} {f : Fate α} (hid : c'.id = c.id)
    (hm : Moves c.id (B c.id) e f) (he : e.deliveredCb = none)
    (hslot : SlotInv slot' (some c') (Function.update B c.id f))
    (hlock : ∀ w, lock' = .callback w → s.lock = .callback w) :
    SyncInv { s.put i slot' c' [e] with lock := lock' } (Function.update B c.id f) := by
  have hcb : ∀ cb, f.callback = some cb → (B c.id).callback = some cb := by
    intro cb hf
    generalize B c.id = g at hm
    cases hm with
    | delivered => cases he
    | returned => exact hf
    | _ => cases hf
  have hpend : ∀ h t, f = .pending h t → B c.id = .pending h t ∨ B c.id = .absent := by
    intro h t hf
    generalize B c.id = g at hm
    cases hm with
    | filled => exact .inr rfl
    | _ => cases hf
  have hledger : Ledger (s.log ++ [e]) (Function.update B c.id f) :=
    .call hi.ledger hm fun cb h => by rw [he] at h; cases h
  have hevs : ∀ x ∈ [e], x.call ≠ none := by
    intro x hx
    rw [List.mem_singleton.mp hx, hm.call_eq]
    exact Option.some_ne_none _
  exact hi.put hc hid hledger hslot (fun cb h => hi.fresh c.id cb (hcb cb h))
    fun w hw => (hi.walk w (hlock w hw)).put hi.ledger hc hid hevs hcb hpend

/-- Nobody waits on a slot whose call is not in the wait. -/
theorem SlotInv.not_waiting {slot : Slot α} {call : Option Call} (h : SlotInv slot call B)
    (hw : ∀ c, call = some c → c.phase ≠ .waiting) :
    slot.isWaiting = false ∧ slot.signalled = false := by
  have hwait : slot.isWaiting = false := by
    by_contra hne
    obtain ⟨c, hc, hp⟩ := h.waiting.mp (by simpa using hne)
    exact hw c hc hp
  refine ⟨hwait, ?_⟩
  by_contra hne
  have hs := h.signalled (by simpa using hne)
  rw [hwait] at hs
  cases hs

/-- The slot of a call that is not live. -/
theorem SlotInv.of_idle {slot : Slot α} {call : Option Call} (hw : slot.isWaiting = false)
    (hs : slot.signalled = false) (hlive : ∀ c, call = some c → c.phase.live = false)
    (halloc : ∀ c, call = some c → c.phase = .allocated → B c.id = .absent)
    (hdone : ∀ c, call = some c → c.phase = .done → (B c.id).inProgress = false) :
    SlotInv slot call B where
  waiting := by
    constructor
    · intro h
      rw [hw] at h
      cases h
    · rintro ⟨c, hc, hp⟩
      have := hlive c hc
      rw [hp] at this
      cases this
  signalled h := by rw [hs] at h; cases h
  allocated := halloc
  live c hc hl := by rw [hlive c hc] at hl; cases hl
  done := hdone

/-- A call that is over. -/
theorem SlotInv.over {slot : Slot α} (hw : slot.isWaiting = false) (hs : slot.signalled = false)
    {f : Fate α} (hf : f.inProgress = false) :
    SlotInv slot (some { c with phase := .done }) (Function.update B c.id f) := by
  refine .of_idle hw hs ?_ ?_ ?_
  · rintro _ ⟨⟩
    rfl
  · rintro _ ⟨⟩ ⟨⟩
  · rintro _ ⟨⟩ _
    simpa using hf

/-- The slot of a live call that is not in the wait. -/
theorem SlotInv.of_live {slot : Slot α} {p : Phase} (hl : p.live = true) (hp : p ≠ .waiting)
    (hw : slot.isWaiting = false) (hs : slot.signalled = false)
    (hf : Filled slot { c with phase := p } (B c.id)) :
    SlotInv slot (some { c with phase := p }) B where
  waiting := by
    constructor
    · intro h
      rw [hw] at h
      cases h
    · rintro ⟨_, ⟨⟩, h⟩
      exact absurd h hp
  signalled h := by rw [hs] at h; cases h
  allocated := by
    rintro _ ⟨⟩ h
    have h' : p = .allocated := h
    rw [h'] at hl
    cases hl
  live := by
    rintro _ ⟨⟩ _
    exact hf
  done := by
    rintro _ ⟨⟩ h
    have h' : p = .done := h
    rw [h'] at hl
    cases hl

/-- A call goes on to a phase in which it still wants its reply. -/
theorem SyncInv.phase (hi : SyncInv s B) (hc : s.calls i = some c) (hl : c.phase.live = true)
    (hnw : c.phase ≠ .waiting) (p : Phase) (lock' : Holder α) (hl' : p.live = true)
    (hnw' : p ≠ .waiting) (hlock : ∀ w, lock' = .callback w → s.lock = .callback w) :
    SyncInv { s.put i (s.slots i) { c with phase := p } [] with lock := lock' } B := by
  have hs := hi.slot i
  rw [hc] at hs
  obtain ⟨hw, hsig⟩ := hs.not_waiting (by rintro _ ⟨⟩; exact hnw)
  have hf := hs.live c rfl hl
  exact hi.quiet hc rfl
    (.of_live hl' hnw' hw hsig ⟨hf.handle, hf.ioctl, hf.mask, hf.fate⟩) hlock

/-- A call gives up: it was given nothing. -/
theorem SyncInv.giveUp (hi : SyncInv s B) (hc : s.calls i = some c) (hl : c.phase.live = true)
    (hd : (s.slots i).delivered = false) {slot' : Slot α} (hw : slot'.isWaiting = false)
    (hs : slot'.signalled = false) {e : SyncEvent α} (he : e = .timedOut c.id ∨ e = .failed c.id)
    {lock' : Holder α} (hlock : ∀ w, lock' = .callback w → s.lock = .callback w) :
    SyncInv { s.put i slot' { c with phase := .done } [e] with lock := lock' }
      (Function.update B c.id .gaveUp) := by
  have hslot := hi.slot i
  rw [hc] at hslot
  rcases (hslot.live c rfl hl).fate with ⟨hp, -⟩ | ⟨cb, -, -, hd'⟩
  · rcases he with rfl | rfl
    · exact hi.moved hc rfl (by rw [hp]; exact .timedOut _ _) rfl (.over hw hs rfl) hlock
    · exact hi.moved hc rfl (by rw [hp]; exact .failed _ _) rfl (.over hw hs rfl) hlock
  · rw [hd] at hd'
    cases hd'

/-- A call returns what it was given. -/
theorem SyncInv.return (hi : SyncInv s B) (hc : s.calls i = some c) (hl : c.phase.live = true)
    (hd : (s.slots i).delivered = true) {slot' : Slot α} (hw : slot'.isWaiting = false)
    (hs : slot'.signalled = false) :
    ∃ B', SyncInv (s.put i slot' { c with phase := .done }
      [.returned c.id (s.slots i).received]) B' := by
  have hslot := hi.slot i
  rw [hc] at hslot
  rcases (hslot.live c rfl hl).fate with ⟨-, hd'⟩ | ⟨cb, hh, hr, -⟩
  · rw [hd] at hd'
    cases hd'
  · rw [hr]
    have hm : Moves c.id (B c.id) (.returned c.id (some cb)) (.finished cb) := by
      rw [hh]
      exact .returned cb
    exact ⟨_, hi.moved hc rfl hm rfl (.over hw hs rfl) fun _ h => h⟩

/-- `loc_free_slot` by a call that is over. -/
theorem SyncInv.free (hi : SyncInv s B) (hc : s.calls i = some c) (hdone : c.phase = .done)
    (hlock : s.lock = .free) : SyncInv (s.free i) B := by
  have hs := hi.slot i
  rw [hc] at hs
  obtain ⟨hw, hsig⟩ := hs.not_waiting (by rintro _ ⟨⟩; rw [hdone]; exact nofun)
  have hcalls : ∀ j call, Function.update s.calls i none j = some call →
      s.calls j = some call := by
    intro j call hj
    by_cases hji : j = i
    · subst hji
      rw [Function.update_self] at hj
      cases hj
    · rwa [Function.update_of_ne hji] at hj
  have hused : ∀ j, Function.update s.slotInUse i false j =
      (Function.update s.calls i none j).isSome := by
    intro j
    by_cases hji : j = i
    · subst hji
      simp
    · rw [Function.update_of_ne hji, Function.update_of_ne hji]
      exact hi.used j
  refine ⟨hi.ledger, fun j => ?_, hused, fun hu j => ?_, fun j k a b hj hk => ?_,
    fun j a hj => hi.bound j a (hcalls j a hj), hi.unborn, fun d hd => ?_, hi.fresh, fun w hlw => ?_⟩
  · show SlotInv (s.slots j) (Function.update s.calls i none j) B
    by_cases hji : j = i
    · subst hji
      rw [Function.update_self]
      exact .of_idle hw hsig nofun nofun nofun
    · rw [Function.update_of_ne hji]
      exact hi.slot j
  · have hu' : (if ∀ j, Function.update s.slotInUse i false j = false then false else s.inUse) =
        false := hu
    show Function.update s.calls i none j = none
    split at hu'
    next hall =>
      have hj := hall j
      rwa [hused j, Option.isSome_eq_false_iff, Option.isNone_iff_eq_none] at hj
    · have hnone := hi.summary hu' i
      rw [hc] at hnone
      cases hnone
  · exact hi.distinct j k a b (hcalls j a hj) (hcalls k b hk)
  · obtain ⟨j, call, hj, hcall⟩ := hi.owned d hd
    have hji : j ≠ i := by
      rintro rfl
      rw [hc, Option.some.injEq] at hj
      have hnot := hs.done c rfl hdone
      rw [hj, hcall, hd] at hnot
      cases hnot
    exact ⟨j, call, (Function.update_of_ne hji _ _).trans hj, hcall⟩
  · have hlw' : s.lock = .callback w := hlw
    rw [hlock] at hlw'
    cases hlw'

/-- Every permitted step of a call keeps the invariant. -/
theorem SyncInv.callStep {a : SyncAct α} (hi : SyncInv s B) (hok : replyTimely s a)
    (ha : a.slot = some i) (hc : s.calls i = some c) (h : callStep s i c a = some s') :
    ∃ B', SyncInv s' B' := by
  have hs := hi.slot i
  rw [hc] at hs
  cases a with
  | fill j =>
    cases ha
    simp only [SyncCall.callStep, Option.ite_none_right_eq_some, Option.some.injEq] at h
    obtain ⟨hp, rfl⟩ := h
    obtain ⟨hw, hsig⟩ := hs.not_waiting (by rintro _ ⟨⟩; rw [hp]; exact nofun)
    have hm : Moves c.id (B c.id) (.filled c.id c.handle c.ioctlType)
        (.pending c.handle c.ioctlType) := by
      rw [hs.allocated c rfl hp]
      exact .filled _ _
    refine ⟨_, hi.moved hc rfl hm rfl (.of_live rfl nofun rfl hsig ⟨rfl, rfl, rfl, ?_⟩)
      fun _ h => h⟩
    rw [Function.update_self]
    exact .inl ⟨rfl, by simp [Slot.delivered, Slot.select, hsig]⟩
  | ioctl j =>
    cases ha
    simp only [SyncCall.callStep] at h
    split at h
    next hp hl =>
      cases h
      exact ⟨B, hi.phase hc (by rw [hp]; rfl) (by rw [hp]; exact nofun) .calling .caller rfl nofun nofun⟩
    next hp hl =>
      cases h
      exact ⟨B, hi.phase hc (by rw [hp]; rfl) (by rw [hp]; exact nofun) .calling .caller rfl nofun nofun⟩
    · cases h
  | ioctlReturn j rc =>
    cases ha
    simp only [SyncCall.callStep, Option.ite_none_right_eq_some] at h
    obtain ⟨hp, h⟩ := h
    have hl : c.phase.live = true := by rw [hp]; rfl
    have hnw : c.phase ≠ .waiting := by rw [hp]; exact nofun
    cases rc with
    | success =>
      cases h
      exact ⟨B, hi.phase hc hl hnw .called .free rfl nofun nofun⟩
    | engineBusy =>
      cases h
      exact ⟨B, hi.phase hc hl hnw .busyWait .free rfl nofun nofun⟩
    | error =>
      cases h
      obtain ⟨hw, hsig⟩ := hs.not_waiting (by rintro _ ⟨⟩; exact hnw)
      exact ⟨_, hi.giveUp hc hl (hok rfl) hw hsig (.inr rfl) nofun⟩
  | waitCallback j =>
    cases ha
    simp only [SyncCall.callStep, Option.ite_none_right_eq_some] at h
    obtain ⟨hp, h⟩ := h
    have hl : c.phase.live = true := by rw [hp]; rfl
    have hnw : c.phase ≠ .waiting := by rw [hp]; exact nofun
    obtain ⟨hw, hsig⟩ := hs.not_waiting (by rintro _ ⟨⟩; exact hnw)
    split at h
    next harr =>
      cases h
      exact hi.return hc hl (by simp [Slot.delivered, harr]) hw hsig
    next harr =>
      rw [if_neg (by simp [hw])] at h
      cases h
      have hf := hs.live c rfl hl
      refine ⟨B, hi.quiet hc rfl ⟨?_, ?_, ?_, ?_, ?_⟩ fun _ h => h⟩
      · exact ⟨fun _ => ⟨_, rfl, rfl⟩, fun _ => rfl⟩
      · exact fun _ => rfl
      · rintro _ ⟨⟩ ⟨⟩
      · rintro _ ⟨⟩ _
        exact ⟨hf.handle, hf.ioctl, hf.mask, hf.fate⟩
      · rintro _ ⟨⟩ ⟨⟩
  | wakeUp j =>
    cases ha
    simp only [SyncCall.callStep, Option.ite_none_right_eq_some, Option.some.injEq] at h
    obtain ⟨hp, rfl⟩ := h
    have hsig : (s.slots i).signalled = true := hok
    exact hi.return hc (by rw [hp]; rfl) (by simp [Slot.delivered, hsig]) rfl rfl
  | timeOut j =>
    cases ha
    simp only [SyncCall.callStep, Option.ite_none_right_eq_some, Option.some.injEq] at h
    obtain ⟨hp, rfl⟩ := h
    exact ⟨_, hi.giveUp hc (by rw [hp]; rfl) hok rfl rfl (.inl rfl) fun _ h => h⟩
  | freeSlot j =>
    cases ha
    simp only [SyncCall.callStep] at h
    split at h
    next hp hl =>
      cases h
      exact ⟨B, hi.free hc hp hl⟩
    · cases h
  | _ => cases ha

/-! ## Allocation and callbacks -/

/-- `loc_alloc_slot` on a slot that is not in use. -/
theorem SyncInv.alloc (hi : SyncInv s B) (hfree : s.slotInUse i = false) (hlock : s.lock = .free)
    (handle : Int) (ioctlType : BitVec 32) : SyncInv (s.alloc i handle ioctlType) B := by
  have hnone : s.calls i = none := by
    have := hi.used i
    rwa [hfree, eq_comm, Option.isSome_eq_false_iff, Option.isNone_iff_eq_none] at this
  have hs := hi.slot i
  rw [hnone] at hs
  obtain ⟨hw, hsig⟩ := hs.not_waiting nofun
  let new : Call := ⟨s.nextCall, handle, ioctlType, .allocated⟩
  have hcalls : ∀ j call, Function.update s.calls i (some new) j = some call →
      (j = i ∧ call = new) ∨ (j ≠ i ∧ s.calls j = some call) := by
    intro j call hj
    by_cases hji : j = i
    · subst hji
      rw [Function.update_self, Option.some.injEq] at hj
      exact .inl ⟨rfl, hj.symm⟩
    · rw [Function.update_of_ne hji] at hj
      exact .inr ⟨hji, hj⟩
  refine ⟨hi.ledger, fun j => ?_, fun j => ?_, nofun, fun j k a b hj hk hab => ?_,
    fun j a hj => ?_, fun d hd => hi.unborn d (by have hd' : s.nextCall + 1 ≤ d := hd; omega),
    fun d hd => ?_, hi.fresh, fun w hlw => ?_⟩
  · show SlotInv (s.slots j) (Function.update s.calls i (some new) j) B
    by_cases hji : j = i
    · subst hji
      rw [Function.update_self]
      refine .of_idle hw hsig ?_ ?_ ?_
      · rintro _ ⟨⟩
        rfl
      · rintro _ ⟨⟩ _
        exact hi.unborn _ (Nat.le_refl _)
      · rintro _ ⟨⟩ ⟨⟩
    · rw [Function.update_of_ne hji]
      exact hi.slot j
  · show Function.update s.slotInUse i true j = (Function.update s.calls i (some new) j).isSome
    by_cases hji : j = i
    · subst hji
      simp
    · rw [Function.update_of_ne hji, Function.update_of_ne hji]
      exact hi.used j
  · -- the new id is larger than all others
    rcases hcalls j a hj with ⟨rfl, rfl⟩ | ⟨-, hj'⟩
    · rcases hcalls k b hk with ⟨rfl, -⟩ | ⟨-, hk'⟩
      · rfl
      · have := hi.bound k b hk'
        have hab' : s.nextCall = b.id := hab
        omega
    · rcases hcalls k b hk with ⟨rfl, rfl⟩ | ⟨-, hk'⟩
      · have := hi.bound j a hj'
        have hab' : a.id = s.nextCall := hab
        omega
      · exact hi.distinct j k a b hj' hk' hab
  · show a.id < s.nextCall + 1
    rcases hcalls j a hj with ⟨-, rfl⟩ | ⟨-, hj'⟩
    · exact Nat.lt_succ_self _
    · have := hi.bound j a hj'
      omega
  · obtain ⟨j, call, hj, hcall⟩ := hi.owned d hd
    have hji : j ≠ i := by
      rintro rfl
      rw [hnone] at hj
      cases hj
    exact ⟨j, call, (Function.update_of_ne hji _ _).trans hj, hcall⟩
  · have hlw' : s.lock = .callback w := hlw
    rw [hlock] at hlw'
    cases hlw'

/-- A callback gets the lock and begins its walk. -/
theorem SyncInv.callback (hi : SyncInv s B) (handle : Int) (event : BitVec 64)
    (payload : EventPayload α) :
    SyncInv { s with
      nextCb := s.nextCb + 1
      lock := .callback ⟨⟨s.nextCb, handle, event, payload⟩, 0, false, false, false⟩
      log := s.log ++ [.arrived ⟨s.nextCb, handle, event, payload⟩] } B := by
  refine ⟨.arrived _ hi.ledger, hi.slot, hi.used, hi.summary, hi.distinct, hi.bound, hi.unborn,
    hi.owned, fun c cb h => Nat.lt_succ_of_lt (hi.fresh c cb h), ?_⟩
  rintro w ⟨⟩
  refine ⟨Nat.lt_succ_self _, ?_, fun _ => rfl, nofun, nofun, ?_⟩
  · intro _ c cb h
    have hlt := hi.fresh c cb h
    show cb.id ≠ s.nextCb
    omega
  · intro _ _ _ _ _ _ _ _ _ _
    exact ⟨rfl, fun _ _ _ _ => Nat.zero_le _⟩

/-- A callback returns at once when no slot is in use. -/
theorem SyncInv.callback_unused (hi : SyncInv s B) (hu : s.inUse = false) (hlock : s.lock = .free)
    (cb : Callback α) :
    SyncInv { s with
      nextCb := s.nextCb + 1, log := s.log ++ [.arrived cb, .ignored cb] } B := by
  have hledger : Ledger (s.log ++ [.arrived cb] ++ [.ignored cb]) B := by
    refine .ignored cb (.arrived cb hi.ledger) ?_
    intro _ _ _ c h t _ _ hp
    obtain ⟨j, call, hj, -⟩ := hi.owned c (by rw [hp]; rfl)
    rw [hi.summary hu j] at hj
    cases hj
  refine ⟨?_, hi.slot, hi.used, hi.summary, hi.distinct, hi.bound, hi.unborn, hi.owned,
    fun c cb h => Nat.lt_succ_of_lt (hi.fresh c cb h), ?_⟩
  · simpa using hledger
  · intro w hlw
    have hlw' : s.lock = .callback w := hlw
    rw [hlock] at hlw'
    cases hlw'

/-- A walk that is not interrupted has passed no call that waits for its callback. -/
theorem WalkInv.ended {w : Walk α} (hi : SyncInv s B) (hw : WalkInv s w B)
    (hend : w.consumed = true ∨ 8 ≤ w.next) (ht : w.taken = false) (pre mid : List (SyncEvent α))
    (hlog : s.log = pre ++ .arrived w.cb :: mid) (id : Nat) (h : Int) (t : BitVec 32)
    (hmem : .filled id h t ∈ pre) (haw : awaits h t w.cb) : B id ≠ .pending h t := by
  intro hp
  obtain ⟨hcons, hahead⟩ := hw.ahead ht pre mid hlog id h t hmem haw hp
  obtain ⟨j, call, hj, hid⟩ := hi.owned id (by rw [hp]; rfl)
  have hle := hahead j call hj hid
  have hlt := j.isLt
  rcases hend with hc | hn
  · rw [hcons] at hc
    cases hc
  · omega

/-- The end of a callback. -/
theorem SyncInv.callbackEnd (hi : SyncInv s B) {w : Walk α} (hlock : s.lock = .callback w)
    (hend : w.consumed = true ∨ 8 ≤ w.next) :
    SyncInv { s with
      inUse := w.inUse && s.inUse
      lock := .free
      log := if w.taken then s.log else s.log ++ [.ignored w.cb] } B := by
  have hw := hi.walk w hlock
  refine ⟨?_, hi.slot, hi.used, ?_, hi.distinct, hi.bound, hi.unborn, hi.owned, hi.fresh, nofun⟩
  · show Ledger (if w.taken then s.log else s.log ++ [.ignored w.cb]) B
    split
    · exact hi.ledger
    next ht => exact .ignored w.cb hi.ledger (hw.ended hi hend (by simpa using ht))
  · intro hu j
    rcases Bool.and_eq_false_iff.mp hu with hu' | hu'
    · -- the walk saw no slot in use, so it saw all of them
      by_contra hne
      have hused : s.slotInUse j = true := by
        rw [hi.used, Option.isSome_iff_ne_none]
        exact hne
      rcases hend with hc | hn
      · rw [hw.consumed hc] at hu'
        cases hu'
      · have hlt := j.isLt
        rw [hw.inUse j (by omega) hused] at hu'
        cases hu'
    · exact hi.summary hu' j

theorem liveCall_eq_some : s.liveCall i = some c ↔ s.calls i = some c ∧ c.phase.live = true := by
  rw [SyncState.liveCall, Option.filter_eq_some_iff]

/-- Copying a payload into a slot nobody waits on leaves the slot's call alone. -/
theorem SlotInv.deliver_idle (hs : SlotInv (s.slots i) (s.calls i) B) (hl : s.liveCall i = none)
    (cb : Callback α) : SlotInv ((s.slots i).deliver cb) (s.calls i) B := by
  have hlive : ∀ c, s.calls i = some c → c.phase.live = false := by
    intro c hc
    by_contra hne
    rw [liveCall_eq_some.mpr ⟨hc, by simpa using hne⟩] at hl
    cases hl
  obtain ⟨hw, hsig⟩ := hs.not_waiting fun c hc hp => by
    have := hlive c hc
    rw [hp] at this
    cases this
  rw [Slot.deliver, if_neg (by simp [hw])]
  exact .of_idle hw hsig hlive hs.allocated hs.done

/-- A pending call is given the callback. -/
theorem SlotInv.deliver_live {slot : Slot α} (hs : SlotInv slot (some c) B)
    (hl : c.phase.live = true) (cb : Callback α) :
    SlotInv (slot.deliver cb) (some c) (Function.update B c.id (.holding cb)) := by
  have hf := hs.live c rfl hl
  have hne : c.phase ≠ .allocated := by
    intro hp
    rw [hp] at hl
    cases hl
  have hne' : c.phase ≠ .done := by
    intro hp
    rw [hp] at hl
    cases hl
  have hfate : ∀ slot' : Slot α, slot'.received = some cb → slot'.delivered = true →
      (Function.update B c.id (.holding cb) c.id = .pending c.handle c.ioctlType ∧
        slot'.delivered = false) ∨
      ∃ cb', Function.update B c.id (.holding cb) c.id = .holding cb' ∧
        slot'.received = some cb' ∧ slot'.delivered = true := by
    intro slot' hr hd
    exact .inr ⟨cb, Function.update_self _ _ _, hr, hd⟩
  unfold Slot.deliver
  split
  next hw =>
    refine ⟨hs.waiting, fun _ => hw, ?_, ?_, ?_⟩
    · rintro _ ⟨⟩ hp
      exact absurd hp hne
    · rintro _ ⟨⟩ _
      exact ⟨hf.handle, hf.ioctl, hf.mask, hfate _ rfl (by simp [Slot.delivered])⟩
    · rintro _ ⟨⟩ hp
      exact absurd hp hne'
  next hw =>
    refine ⟨hs.waiting, hs.signalled, ?_, ?_, ?_⟩
    · rintro _ ⟨⟩ hp
      exact absurd hp hne
    · rintro _ ⟨⟩ _
      exact ⟨hf.handle, hf.ioctl, hf.mask, hfate _ rfl (by simp [Slot.delivered])⟩
    · rintro _ ⟨⟩ hp
      exact absurd hp hne'

/-- A turn of the walk that gives the callback to no call. -/
theorem SyncInv.passed (hi : SyncInv s B) {slot' : Slot α} (hslot : SlotInv slot' (s.calls i) B)
    {w : Walk α} (hw : WalkInv s w B) :
    SyncInv { s with slots := Function.update s.slots i slot', lock := .callback w } B := by
  refine ⟨hi.ledger, fun j => ?_, hi.used, hi.summary, hi.distinct, hi.bound, hi.unborn, hi.owned,
    hi.fresh, ?_⟩
  · show SlotInv (Function.update s.slots i slot' j) (s.calls j) B
    by_cases hji : j = i
    · subst hji
      rwa [Function.update_self]
    · rw [Function.update_of_ne hji]
      exact hi.slot j
  · rintro _ ⟨⟩
    exact ⟨hw.id_lt, hw.untaken, hw.unconsumed, hw.consumed, hw.inUse, hw.ahead⟩

/-- The local `in_use` after one more slot. -/
theorem WalkInv.inUse_next {w : Walk α} (hw : WalkInv s w B) (hi : i.val = w.next) (j : SlotId)
    (hj : j.val < w.next + 1) (hu : s.slotInUse j = true) : (w.inUse || s.slotInUse i) = true := by
  rw [Bool.or_eq_true]
  by_cases hji : j = i
  · exact .inr (hji ▸ hu)
  · have hne : j.val ≠ i.val := fun h => hji (Fin.ext h)
    exact .inl (hw.inUse j (by omega) hu)

/-- Every permitted turn of the walk keeps the invariant. -/
theorem SyncInv.visit (hi : SyncInv s B) {w : Walk α} (hlock : s.lock = .callback w)
    (hcons : w.consumed = false) (hn : i.val = w.next)
    (hok : (s.slots i).accepts (s.slotInUse i) w.cb = true → targetOk s w.cb i) :
    ∃ B', SyncInv (s.visit w i) B' := by
  have hw := hi.walk w hlock
  have huntaken := hw.unconsumed hcons
  unfold SyncState.visit
  by_cases hacc : (s.slots i).accepts (s.slotInUse i) w.cb = true
  · simp only [hacc, if_true]
    have hused : s.slotInUse i = true := by
      simp only [Slot.accepts, Bool.and_eq_true] at hacc
      exact hacc.1.1.1
    obtain ⟨hnone, hsome⟩ := hok hacc
    split
    next c hc =>
      obtain ⟨hcall, hl⟩ := liveCall_eq_some.mp hc
      obtain ⟨hd, he⟩ := hsome c hc
      have hs := hi.slot i
      rw [hcall] at hs
      have hf := hs.live c rfl hl
      have hpend : B c.id = .pending c.handle c.ioctlType := by
        rcases hf.fate with ⟨hp, -⟩ | ⟨_, -, -, hd'⟩
        · exact hp
        · rw [hd] at hd'
          cases hd'
      have hm : Moves c.id (B c.id) (.delivered w.cb c.id) (.holding w.cb) := by
        rw [hpend]
        exact .delivered (hf.awaits_of_accepts hacc he)
      have hledger : Ledger (s.log ++ [.delivered w.cb c.id])
          (Function.update B c.id (.holding w.cb)) := by
        refine .call hi.ledger hm ?_
        rintro _ ⟨⟩
        exact hw.untaken huntaken
      have hput : SyncInv { s.put i ((s.slots i).deliver w.cb) c [.delivered w.cb c.id] with
          lock := .callback { w with
            next := w.next + 1
            inUse := w.inUse || s.slotInUse i
            consumed := true
            taken := true } } (Function.update B c.id (.holding w.cb)) := by
        refine hi.put hcall rfl hledger (hs.deliver_live hl w.cb) ?_ ?_
        · rintro _ ⟨⟩
          exact hw.id_lt
        · rintro _ ⟨⟩
          exact ⟨hw.id_lt, nofun, nofun, fun _ => by simp [hused], hw.inUse_next hn, nofun⟩
      have hcalls : Function.update s.calls i (some c) = s.calls := by
        rw [← hcall, Function.update_eq_self]
      rw [SyncState.put, hcalls] at hput
      exact ⟨_, hput⟩
    next hc =>
      refine ⟨B, hi.passed ((hi.slot i).deliver_idle hc w.cb) ⟨hw.id_lt, hw.untaken, nofun,
        fun _ => by simp [hused], hw.inUse_next hn, ?_⟩⟩
      -- nobody who waits for the callback is left empty-handed
      intro ht pre mid hlog id h t hmem haw hp
      obtain ⟨j, call, hj, hid⟩ := hi.owned id (by rw [hp]; rfl)
      obtain ⟨hl, -, hd, rfl, rfl⟩ := hi.pending hp hj hid
      have := hnone hc j call hj hl haw
      rw [hd] at this
      cases this
  · simp only [if_neg hacc]
    have hnext : WalkInv s { w with next := w.next + 1, inUse := w.inUse || s.slotInUse i } B := by
      refine ⟨hw.id_lt, hw.untaken, hw.unconsumed, ?_, hw.inUse_next hn, ?_⟩
      · intro h
        rw [show w.consumed = true from h] at hcons
        cases hcons
      · intro ht pre mid hlog id h t hmem haw hp
        obtain ⟨-, hahead⟩ := hw.ahead ht pre mid hlog id h t hmem haw hp
        refine ⟨hcons, fun j call hj hid => ?_⟩
        have hle := hahead j call hj hid
        -- the slot just passed would have accepted the callback
        have hji : j ≠ i := by
          rintro rfl
          obtain ⟨-, hf, hd, rfl, rfl⟩ := hi.pending hp hj hid
          have hused : s.slotInUse j = true := by
            rw [hi.used, hj]
            rfl
          rw [hused] at hacc
          exact hacc (hf.accepts hd haw)
        have hne : j.val ≠ i.val := fun h => hji (Fin.ext h)
        show w.next + 1 ≤ j.val
        omega
    have hpassed := hi.passed (hi.slot i) hnext
    rw [Function.update_eq_self] at hpassed
    exact ⟨B, hpassed⟩

theorem SyncInv.init : SyncInv (locApiSyncCallInit α) fun _ => .absent where
  ledger := .start
  slot _ := .of_idle rfl rfl nofun nofun nofun
  used _ := rfl
  summary _ _ := rfl
  distinct := nofun
  bound := nofun
  unborn _ _ := rfl
  owned := nofun
  fresh := nofun
  walk := nofun

/-- Every permitted step keeps the invariant. -/
theorem SyncInv.step {a : SyncAct α} (hok : replyTimely s a) (h : syncStep s a = some s')
    (hi : ∃ B, SyncInv s B) : ∃ B, SyncInv s' B := by
  obtain ⟨B, hi⟩ := hi
  unfold syncStep at h
  split at h
  next i ha =>
    obtain ⟨c, hc, hstep⟩ := Option.bind_eq_some_iff.mp h
    exact hi.callStep hok ha hc hstep
  · split at h
    next handle ioctlType hlock _ =>
      split at h
      next i hfree =>
        cases h
        have hunused : s.slotInUse i = false := by
          have := List.find?_some hfree
          simpa using this
        exact ⟨B, hi.alloc hunused hlock handle ioctlType⟩
      · cases h
        exact ⟨B, hi⟩
    next handle event payload hlock _ =>
      split at h
      · cases h
        exact ⟨B, hi.callback handle event payload⟩
      next hu =>
        cases h
        exact ⟨B, hi.callback_unused (by simpa using hu) hlock _⟩
    next w hlock _ =>
      split at h
      · cases h
      next hcons =>
        split at h
        next hn =>
          cases h
          exact hi.visit hlock (by simpa using hcons) rfl
            (hok w (by rw [hlock]; rfl) ⟨w.next, hn⟩ rfl)
        · cases h
    next w hlock _ =>
      split at h
      next hend =>
        cases h
        exact ⟨B, hi.callbackEnd hlock hend⟩
      · cases h
    · cases h

/-! ## Whole runs -/

/-- The callbacks that a call took: the call gets no other and does not give
up; it has returned the callback, or still runs with the callback in its slot, and
then the end of its wait returns it. -/
def RepliesKept (s : SyncState α) : Prop :=
  ∀ cb c, .delivered cb c ∈ s.log →
    (∀ cb', .delivered cb' c ∈ s.log → cb' = cb) ∧ .timedOut c ∉ s.log ∧ .failed c ∉ s.log ∧
    (.returned c (some cb) ∈ s.log ∨
      ∃ i call, s.calls i = some call ∧ call.id = c ∧ call.phase.live = true ∧
        (s.slots i).received = some cb ∧
        ((call.phase = .called ∨ call.phase = .waiting) →
          ∃ a s', syncStep s a = some s' ∧ s'.log = s.log ++ [SyncEvent.returned c (some cb)]))

theorem SyncInv.repliesKept (hi : SyncInv s B) : RepliesKept s := by
  intro cb id hmem
  obtain ⟨hfate, ht, hf, hone⟩ := hi.ledger.delivered_mem hmem
  refine ⟨hone, ht, hf, ?_⟩
  rcases hfate with hh | ⟨-, hr⟩
  · right
    obtain ⟨i, c, hc, hid⟩ := hi.owned id (by rw [hh]; rfl)
    have hs := hi.slot i
    rw [hc] at hs
    have hl := hs.live_of_inProgress (by rw [hid, hh]; rfl)
    obtain ⟨hrec, hd⟩ : (s.slots i).received = some cb ∧ (s.slots i).delivered = true := by
      rcases (hs.live c rfl hl).fate with ⟨hp, -⟩ | ⟨cb', hh', hr, hd⟩
      · rw [hid, hh] at hp
        cases hp
      · rw [hid, hh] at hh'
        cases hh'
        exact ⟨hr, hd⟩
    refine ⟨i, c, hc, hid, hl, hrec, ?_⟩
    rintro (hp | hp)
    · -- the callback came before the wait, so it is remembered
      have harr : (s.slots i).hasArrived = true := by
        obtain ⟨-, hsig⟩ := hs.not_waiting (by rintro _ ⟨⟩; rw [hp]; exact nofun)
        simpa [Slot.delivered, hsig] using hd
      have hstep : syncStep s (.waitCallback i) = some (s.put i (s.slots i)
          { c with phase := .done } [.returned c.id (s.slots i).received]) := by
        simp [syncStep, SyncAct.slot, hc, SyncCall.callStep, hp, harr]
      exact ⟨_, _, hstep, by simp [SyncState.put, hrec, hid]⟩
    · have hstep : syncStep s (.wakeUp i) =
          some (s.endWait i c (.returned c.id (s.slots i).received)) := by
        simp [syncStep, SyncAct.slot, hc, SyncCall.callStep, hp]
      exact ⟨_, _, hstep, by simp [SyncState.endWait, SyncState.put, hrec, hid]⟩
  · exact .inl hr

/-- **Replies are matched, not lost and not shared.** In every run whose steps all
avoid the unguarded paths: a successful call returns a callback for its own handle
and ioctl type that was delivered after it was filled in; no callback is returned
twice; a delivered callback is kept for its call; and a callback that no call took
was missed by none. -/
theorem sync_replies_matched {as : List (SyncAct α)} {s : SyncState α}
    (h : exec (restrict replyTimely syncStep) (locApiSyncCallInit α) as = some s) :
    OwnReplies s.log ∧ ReturnedOnce s.log ∧ RepliesKept s ∧ NoneMissed s.log := by
  obtain ⟨B, hi⟩ : ∃ B, SyncInv s B := exec_restrict_invariant
    (fun s a s' hok hst (hi : ∃ B, SyncInv s B) => SyncInv.step hok hst hi) ⟨_, SyncInv.init⟩ h
  exact ⟨hi.ledger.ownReplies, hi.ledger.returnedOnce, hi.repliesKept, hi.ledger.noneMissed⟩

/-- Two calls of one type; the first reply comes before its caller waits. -/
def twoCalls : List (SyncAct Nat) :=
  [.alloc 1 400, .fill 0, .alloc 1 400, .fill 1, .ioctl 0, .ioctlReturn 0 .success,
    .ioctl 1, .ioctlReturn 1 .success, .waitCallback 1,
    .callback 1 eventIoctlReport ⟨400, 7⟩, .visit, .callbackEnd, .waitCallback 0,
    .freeSlot 0, .callback 1 eventIoctlReport ⟨400, 8⟩, .visit, .visit, .callbackEnd,
    .wakeUp 1, .freeSlot 1]

theorem sync_replies_matched_two_calls :
    ∃ s, exec (restrict replyTimely syncStep) (locApiSyncCallInit Nat) twoCalls = some s ∧
      s.log.filterMap SyncEvent.returnedCb = [0, 1] ∧
      OwnReplies s.log ∧ ReturnedOnce s.log ∧ RepliesKept s ∧ NoneMissed s.log := by
  have hrun : (exec (restrict replyTimely syncStep) (locApiSyncCallInit Nat) twoCalls).any (fun s =>
      s.log.filterMap SyncEvent.returnedCb = [0, 1]) = true := by decide
  obtain ⟨s, hs, hlog⟩ := (Option.any_eq_true _ _).mp hrun
  exact ⟨s, hs, of_decide_eq_true hlog, sync_replies_matched hs⟩

/-- A wait that wakes up for no reason. -/
def spuriousWake : List (SyncAct Nat) :=
  [.alloc 1 400, .fill 0, .ioctl 0, .ioctlReturn 0 .success, .waitCallback 0, .wakeUp 0]

/-- The call returns SUCCESS though no callback came. -/
theorem sync_returns_without_reply :
    ∃ s, exec syncStep (locApiSyncCallInit Nat) spuriousWake = some s ∧
      s.log = [.filled 0 1 400, .returned 0 none] ∧ ¬ OwnReplies s.log := by
  have hrun : (exec syncStep (locApiSyncCallInit Nat) spuriousWake).any (fun s =>
      s.log = [.filled 0 1 400, .returned 0 none]) = true := by decide
  obtain ⟨s, hs, h⟩ := (Option.any_eq_true _ _).mp hrun
  have hlog := of_decide_eq_true h
  refine ⟨s, hs, hlog, fun hown => ?_⟩
  obtain ⟨cb, _, _, _, _, _, hnone, -⟩ := hown [.filled 0 1 400] 0 none [] hlog
  cases hnone

end Ancora.LocApi.SyncCall
