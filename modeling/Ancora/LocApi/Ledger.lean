import Ancora.Lib.History
import Ancora.LocApi.SyncCall

/-!
# What callers of a synchronous call may rely on

A `Ledger` is a log of synchronous calls in which replies are matched, neither
lost nor shared: each call is filled in once, gets at most one callback, and only
one that it waits for and that no other call got; it returns that callback, or
gives up with none. A callback goes unused only if no call waited for it all the
while. The second argument says what became of each call.

- `OwnReplies`: a call returns a callback for its own handle and ioctl type that
  came after it was filled in.
- `ReturnedOnce`: no callback is returned twice.
- `Ledger.delivered_mem`: a call that was given a callback keeps that one.
- `NoneMissed`: an unused callback was not missed by a waiting call.
-/

namespace Ancora.LocApi.SyncCall

variable {α : Type}

/-- A call for `handle` and `ioctlType` waits for this callback. A call of type 0
waits for no ioctl report (loc_api_sync_call.c:286). -/
def awaits (handle : Int) (ioctlType : BitVec 32) (cb : Callback α) : Prop :=
  ioctlType ≠ 0 ∧ cb.locHandle = handle ∧ cb.locEvent = eventIoctlReport ∧
    cb.payload.ioctlType = ioctlType

instance (handle : Int) (ioctlType : BitVec 32) (cb : Callback α) :
    Decidable (awaits handle ioctlType cb) :=
  inferInstanceAs (Decidable (_ ∧ _))

/-- What became of a call so far. -/
inductive Fate (α : Type)
  | absent
  | pending (handle : Int) (ioctlType : BitVec 32)
  | holding (cb : Callback α)
  | finished (cb : Callback α)
  | gaveUp

/-- The callback a call was given. -/
def Fate.callback : Fate α → Option (Callback α)
  | .holding cb => some cb
  | .finished cb => some cb
  | _ => none

/-- The call is filled in and has no outcome yet. -/
def Fate.inProgress : Fate α → Bool
  | .pending _ _ => true
  | .holding _ => true
  | _ => false

/-- How an event about call `c` moves its fate. -/
inductive Moves (c : Nat) : Fate α → SyncEvent α → Fate α → Prop
  | filled (h : Int) (t : BitVec 32) : Moves c .absent (.filled c h t) (.pending h t)
  | delivered {h : Int} {t : BitVec 32} {cb : Callback α} (hcb : awaits h t cb) :
    Moves c (.pending h t) (.delivered cb c) (.holding cb)
  | returned (cb : Callback α) : Moves c (.holding cb) (.returned c (some cb)) (.finished cb)
  | timedOut (h : Int) (t : BitVec 32) : Moves c (.pending h t) (.timedOut c) .gaveUp
  | failed (h : Int) (t : BitVec 32) : Moves c (.pending h t) (.failed c) .gaveUp

/-- The callback an event gives to a call. -/
def SyncEvent.deliveredCb : SyncEvent α → Option (Callback α)
  | .delivered cb _ => some cb
  | _ => none

/-- Logs in which replies are matched, and the fate of each call. -/
inductive Ledger : List (SyncEvent α) → (Nat → Fate α) → Prop
  | start : Ledger [] fun _ => .absent
  | arrived {log B} (cb : Callback α) (hl : Ledger log B) : Ledger (log ++ [.arrived cb]) B
  | ignored {log B} (cb : Callback α) (hl : Ledger log B)
    (hcb : ∀ pre mid, log = pre ++ .arrived cb :: mid → ∀ c h t, .filled c h t ∈ pre →
      awaits h t cb → B c ≠ .pending h t) :
    Ledger (log ++ [.ignored cb]) B
  | call {log B c e f} (hl : Ledger log B) (hm : Moves c (B c) e f)
    (hnew : ∀ cb, e.deliveredCb = some cb →
      ∀ c' cb', (B c').callback = some cb' → cb'.id ≠ cb.id) :
    Ledger (log ++ [e]) (Function.update B c f)

/-- What a call returns was given to it after it was filled in, and is for
its own handle and ioctl type. -/
def OwnReplies (log : List (SyncEvent α)) : Prop :=
  ∀ pre c received post, log = pre ++ SyncEvent.returned c received :: post →
    ∃ cb h t p₁ p₂ p₃, received = some cb ∧
      pre = p₁ ++ SyncEvent.filled c h t :: p₂ ++ SyncEvent.delivered cb c :: p₃ ∧
      cb.locHandle = h ∧ cb.locEvent = eventIoctlReport ∧ cb.payload.ioctlType = t

/-- The callback an event returns to a caller. -/
def SyncEvent.returnedCb : SyncEvent α → Option Nat
  | .returned _ received => received.map Callback.id
  | _ => none

/-- No callback is returned twice. -/
def ReturnedOnce (log : List (SyncEvent α)) : Prop :=
  (log.filterMap SyncEvent.returnedCb).Nodup

/-- The event settles call `c`: it gives `c` a callback or ends it. -/
def SyncEvent.settles (c : Nat) : SyncEvent α → Prop
  | .delivered _ c' => c' = c
  | .timedOut c' => c' = c
  | .failed c' => c' = c
  | _ => False

/-- The callbacks that no call took: every call that waited for one when it
came was settled before the callback was done. -/
def NoneMissed (log : List (SyncEvent α)) : Prop :=
  ∀ pre cb mid post, log = pre ++ SyncEvent.arrived cb :: mid ++ SyncEvent.ignored cb :: post →
    ∀ c h t, .filled c h t ∈ pre → awaits h t cb →
      ∃ e ∈ pre ++ SyncEvent.arrived cb :: mid, e.settles c

/-- The call an event is about. -/
def SyncEvent.call : SyncEvent α → Option Nat
  | .filled c _ _ => some c
  | .delivered _ c => some c
  | .returned c _ => some c
  | .timedOut c => some c
  | .failed c => some c
  | _ => none

/-- All that the log says of call `c`. -/
def callLog (c : Nat) (log : List (SyncEvent α)) : List (SyncEvent α) :=
  log.filter fun e => e.call == some c

/-- The whole story of a call, by its fate. -/
inductive Story (c : Nat) : Fate α → List (SyncEvent α) → Prop
  | absent : Story c .absent []
  | pending (h : Int) (t : BitVec 32) : Story c (.pending h t) [.filled c h t]
  | holding {h : Int} {t : BitVec 32} {cb : Callback α} (hcb : awaits h t cb) :
    Story c (.holding cb) [.filled c h t, .delivered cb c]
  | finished {h : Int} {t : BitVec 32} {cb : Callback α} (hcb : awaits h t cb) :
    Story c (.finished cb) [.filled c h t, .delivered cb c, .returned c (some cb)]
  | timedOut (h : Int) (t : BitVec 32) : Story c .gaveUp [.filled c h t, .timedOut c]
  | failed (h : Int) (t : BitVec 32) : Story c .gaveUp [.filled c h t, .failed c]

/-- A move of a call is an event of this call. -/
theorem Moves.call_eq {c : Nat} {f f' : Fate α} {e : SyncEvent α} (hm : Moves c f e f') :
    e.call = some c := by
  cases hm <;> rfl

/-- A move continues the story. -/
theorem Story.snoc {c : Nat} {f f' : Fate α} {e : SyncEvent α} {l : List (SyncEvent α)}
    (hs : Story c f l) (hm : Moves c f e f') : Story c f' (l ++ [e]) := by
  cases hm with
  | filled h t =>
    cases hs
    exact .pending h t
  | delivered hcb =>
    cases hs
    exact .holding hcb
  | returned cb =>
    cases hs with
    | holding hcb => exact .finished hcb
  | timedOut h t =>
    cases hs
    exact .timedOut h t
  | failed h t =>
    cases hs
    exact .failed h t

namespace Ledger

variable {log : List (SyncEvent α)} {B : Nat → Fate α}

theorem callLog_snoc_self {c : Nat} {e : SyncEvent α} (he : e.call = some c) :
    callLog c (log ++ [e]) = callLog c log ++ [e] := by
  simp [callLog, List.filter_append, he]

theorem callLog_snoc_other {c : Nat} {e : SyncEvent α} (he : e.call ≠ some c) :
    callLog c (log ++ [e]) = callLog c log := by
  simp [callLog, List.filter_append, he]

/-- What a ledger says of a call is the story of its fate. -/
theorem story (hl : Ledger log B) (c : Nat) : Story c (B c) (callLog c log) := by
  induction hl with
  | start => exact .absent
  | arrived cb hl ih =>
    rw [callLog_snoc_other (by simp [SyncEvent.call])]
    exact ih
  | ignored cb hl hcb ih =>
    rw [callLog_snoc_other (by simp [SyncEvent.call])]
    exact ih
  | @call log B c' e f hl hm hnew ih =>
    by_cases hc : c = c'
    · subst hc
      rw [callLog_snoc_self hm.call_eq, Function.update_self]
      exact ih.snoc hm
    · have he : e.call ≠ some c := by
        rw [hm.call_eq, Ne, Option.some.injEq]
        exact Ne.symm hc
      rw [callLog_snoc_other he, Function.update_of_ne hc]
      exact ih

/-- What is in the log of a call. -/
theorem mem_callLog {c : Nat} {e : SyncEvent α} :
    e ∈ callLog c log ↔ e ∈ log ∧ e.call = some c := by
  rw [callLog, List.mem_filter, beq_iff_eq]

/-- A call that was filled in is not absent. -/
theorem filled_mem (hl : Ledger log B) {c : Nat} {h : Int} {t : BitVec 32}
    (hmem : .filled c h t ∈ log) : B c ≠ .absent := by
  intro habs
  have hs := hl.story c
  have hmem' : .filled c h t ∈ callLog c log := mem_callLog.mpr ⟨hmem, rfl⟩
  rw [habs] at hs
  generalize callLog c log = l at hs hmem'
  cases hs
  cases hmem'

/-- A call that was given a callback keeps that one: it holds it or has returned
it, and did not give up. -/
theorem delivered_mem (hl : Ledger log B) {c : Nat} {cb : Callback α}
    (hmem : .delivered cb c ∈ log) :
    (B c = .holding cb ∨ B c = .finished cb ∧ .returned c (some cb) ∈ log) ∧
      .timedOut c ∉ log ∧ .failed c ∉ log ∧ ∀ cb', .delivered cb' c ∈ log → cb' = cb := by
  have hs := hl.story c
  have hiff : ∀ e : SyncEvent α, e.call = some c → (e ∈ log ↔ e ∈ callLog c log) :=
    fun e he => ⟨fun h => mem_callLog.mpr ⟨h, he⟩, fun h => (mem_callLog.mp h).1⟩
  rw [hiff _ rfl] at hmem
  simp only [hiff (.returned c (some cb)) rfl, hiff (.timedOut c) rfl, hiff (.failed c) rfl,
    fun cb' => hiff (.delivered cb' c) rfl]
  generalize callLog c log = l at hs hmem
  generalize B c = f at hs
  cases hs <;> simp_all

/-- A returned callback was given to the call. -/
theorem returned_mem (hl : Ledger log B) {c : Nat} {received : Option (Callback α)}
    (hmem : .returned c received ∈ log) : ∃ cb, received = some cb ∧ B c = .finished cb := by
  have hs := hl.story c
  have hmem' : .returned c received ∈ callLog c log := mem_callLog.mpr ⟨hmem, rfl⟩
  generalize callLog c log = l at hs hmem'
  generalize B c = f at hs
  cases hs <;> simp_all

/-- No callback was given to two calls. -/
theorem callback_inj (hl : Ledger log B) {c c' : Nat} {cb cb' : Callback α}
    (h : (B c).callback = some cb) (h' : (B c').callback = some cb') (hid : cb.id = cb'.id) :
    c = c' := by
  induction hl generalizing c c' cb cb' with
  | start => cases h
  | arrived _ hl ih => exact ih h h' hid
  | ignored _ hl hcb ih => exact ih h h' hid
  | @call log B d e f hl hm hnew ih =>
    -- only a delivery gives `d` a callback it did not have
    have hold : ∀ x, f.callback = some x → (B d).callback = some x ∨ e.deliveredCb = some x := by
      intro x hx
      generalize B d = g at hm
      cases hm with
      | filled => cases hx
      | delivered => exact .inr hx
      | returned => exact .inl hx
      | timedOut => cases hx
      | failed => cases hx
    by_cases hc : c = d
    · by_cases hc' : c' = d
      · rw [hc, hc']
      · subst hc
        rw [Function.update_self] at h
        rw [Function.update_of_ne hc'] at h'
        rcases hold cb h with hB | he
        · exact ih hB h' hid
        · exact absurd hid.symm (hnew cb he c' cb' h')
    · rw [Function.update_of_ne hc] at h
      by_cases hc' : c' = d
      · subst hc'
        rw [Function.update_self] at h'
        rcases hold cb' h' with hB | he
        · exact ih h hB hid
        · exact absurd hid (hnew cb' he c cb h)
      · rw [Function.update_of_ne hc'] at h'
        exact ih h h' hid

/-- With the ledger each reply went to its own call, -/
theorem ownReplies (hl : Ledger log B) : OwnReplies log := by
  rintro pre c received post rfl
  have hs := hl.story c
  have hsplit : callLog c (pre ++ .returned c received :: post) =
      callLog c pre ++ .returned c received :: callLog c post := by
    simp [callLog, List.filter_append, SyncEvent.call]
  obtain ⟨cb, rfl, hfin⟩ := hl.returned_mem (List.mem_append_right _ List.mem_cons_self)
  rw [hfin, hsplit] at hs
  generalize hpre : callLog c pre = l at hs
  generalize callLog c post = l' at hs
  generalize hall : l ++ .returned c (some cb) :: l' = all at hs
  cases hs with
  | @finished h t _ hcb =>
    -- the story before the return is the fill-in and the delivery
    have hl2 : l = [.filled c h t, .delivered cb c] := by
      have hall' : [.filled c h t, .delivered cb c] ++ [.returned c (some cb)] =
          l ++ .returned c (some cb) :: l' := hall.symm
      rcases History.snoc_split hall' with ⟨heq, -, -⟩ | ⟨post', -, hlog⟩
      · exact heq
      · have hmem : SyncEvent.returned c (some cb) ∈ [.filled c h t, .delivered cb c] := by
          rw [hlog]
          simp
        simp at hmem
    rw [hl2, callLog, List.filter_eq_cons_iff] at hpre
    obtain ⟨p₁, q, rfl, -, -, hq⟩ := hpre
    obtain ⟨p₂, p₃, rfl, -, -, -⟩ := List.filter_eq_cons_iff.mp hq
    exact ⟨cb, h, t, p₁, p₂, p₃, rfl, by simp, hcb.2⟩

/-- a callback has been returned iff its call is finished with it, -/
theorem returned_iff {id : Nat} (hl : Ledger log B)
    (hid : id ∈ log.filterMap SyncEvent.returnedCb) :
    ∃ c cb, B c = .finished cb ∧ cb.id = id := by
  obtain ⟨e, he, hcb⟩ := List.mem_filterMap.mp hid
  cases e with
  | returned c received =>
    obtain ⟨cb, rfl, hfin⟩ := hl.returned_mem he
    exact ⟨c, cb, hfin, Option.some.inj hcb⟩
  | _ => cases hcb

/-- each is returned once, -/
theorem returnedOnce (hl : Ledger log B) : ReturnedOnce log := by
  induction hl with
  | start => exact List.nodup_nil
  | arrived cb hl ih =>
    unfold ReturnedOnce at ih ⊢
    simpa [List.filterMap_append, List.filterMap_cons, SyncEvent.returnedCb] using ih
  | ignored cb hl hcb ih =>
    unfold ReturnedOnce at ih ⊢
    simpa [List.filterMap_append, List.filterMap_cons, SyncEvent.returnedCb] using ih
  | @call log B c e f hl hm hnew ih =>
    rw [ReturnedOnce, List.filterMap_append, List.nodup_append]
    refine ⟨ih, ?_, ?_⟩
    · cases h : e.returnedCb <;> simp [h]
    · rintro id hid id' hid' rfl
      obtain ⟨c', cb', hfin, hcb'⟩ := hl.returned_iff hid
      generalize hg : B c = g at hm
      cases hm with
      | returned cb =>
        have hsame : id = cb.id := by simpa [SyncEvent.returnedCb] using hid'
        -- the callback would have been given to two calls
        have hcc : c = c' := hl.callback_inj (by rw [hg]; rfl) (by rw [hfin]; rfl)
          (hsame.symm.trans hcb'.symm)
        rw [hcc, hfin] at hg
        cases hg
      | _ => simp [SyncEvent.returnedCb] at hid'

/-- A call that was filled in is pending, or was settled. -/
theorem settled_or_pending (hl : Ledger log B) {c : Nat} {h : Int} {t : BitVec 32}
    (hmem : .filled c h t ∈ log) : B c = .pending h t ∨ ∃ e ∈ log, e.settles c := by
  have hs := hl.story c
  have hmem' : .filled c h t ∈ callLog c log := mem_callLog.mpr ⟨hmem, rfl⟩
  have hlog : ∀ e ∈ callLog c log, e ∈ log := fun e he => (mem_callLog.mp he).1
  generalize callLog c log = l at hs hmem' hlog
  generalize B c = f at hs
  cases hs with
  | absent => cases hmem'
  | pending h' t' =>
    left
    simpa [eq_comm] using hmem'
  | @holding _ _ cb => exact .inr ⟨.delivered cb c, hlog _ (by simp), rfl⟩
  | @finished _ _ cb => exact .inr ⟨.delivered cb c, hlog _ (by simp), rfl⟩
  | timedOut => exact .inr ⟨.timedOut c, hlog _ (by simp), rfl⟩
  | failed => exact .inr ⟨.failed c, hlog _ (by simp), rfl⟩

/-- and none is missed. -/
theorem noneMissed (hl : Ledger log B) : NoneMissed log := by
  induction hl with
  | start =>
    intro pre cb mid post heq
    simp at heq
  | @arrived log B cb₀ hl ih =>
    intro pre cb mid post heq
    rcases History.snoc_split heq with ⟨-, he, -⟩ | ⟨post', -, hlog⟩
    · cases he
    · exact ih pre cb mid post' hlog
  | @ignored log B cb₀ hl hcb ih =>
    intro pre cb mid post heq c h t hmem haw
    rcases History.snoc_split heq with ⟨hlog, he, -⟩ | ⟨post', -, hlog⟩
    · cases he
      have hmem' : .filled c h t ∈ log := hlog ▸ List.mem_append_left _ hmem
      rcases hl.settled_or_pending hmem' with hp | hsettled
      · exact absurd hp (hcb pre mid hlog.symm c h t hmem haw)
      · rwa [hlog]
    · exact ih pre cb mid post' hlog c h t hmem haw
  | @call log B c e f hl hm hnew ih =>
    intro pre cb mid post heq
    rcases History.snoc_split heq with ⟨-, he, -⟩ | ⟨post', -, hlog⟩
    · have hcall := hm.call_eq
      rw [← he] at hcall
      cases hcall
    · exact ih pre cb mid post' hlog

end Ledger

end Ancora.LocApi.SyncCall
