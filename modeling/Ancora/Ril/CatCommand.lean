import Ancora.Lib.Machine

/-!
# SIM toolkit commands (SamsungRIL.java:475–487, 942–950)

The modem may send a proactive command before `CatService` has registered for them, so
`processUnsolicited` buffers it "to make sure it does not get ignored", and
`setOnCatProactiveCmd` passes the buffered command on. The buffer has room for one command,
and nothing keeps the receiver thread and the registering threads apart.

- `catStep`: the receiver tests the registrant and then notifies or stores; a registering call
  sets the registrant, tests the buffer, passes its content on and clears it.
- `InOrder s`: what has been delivered, what the buffer still holds and what the receiver has
  in hand are, in this order, what has been received.
- `undisturbed`: a store finds the buffer empty, nothing is notified past a command in the
  buffer, and one call at a time empties it.
- **`commands_in_order`**: every run of such steps keeps the order; a burst before the first
  registration does not (`burst_is_lost`).
-/

namespace Ancora.Ril.Cat

open Machine

variable {α : Type}

/-- The receiver thread in `processUnsolicited`, with the command it has read. `responseString`
may give null. -/
inductive Receiver (α : Type) where
  | idle
  /-- It has found a registrant. -/
  | notify (ret : Option α)
  /-- It has found none. -/
  | store (ret : Option α)
  deriving DecidableEq, Repr

/-- A thread in `setOnCatProactiveCmd`, once it has set the registrant. -/
inductive Registering where
  | test
  /-- It has found the buffer full. -/
  | flush
  /-- It has passed the command on. -/
  | clear
  | done
  deriving DecidableEq, Repr

structure CatState (α : Type) where
  /-- The registration, by its number. -/
  mCatProCmdRegistrant : Option Nat
  mCatProCmdBuffer : Option α
  receiver : Receiver α
  registering : List Registering
  received : List (Option α)
  /-- The commands passed to a registrant, and to which. -/
  delivered : List (Nat × Option α)
  /-- How many commands came before the first registration. -/
  early : Option Nat
  deriving DecidableEq, Repr

def CatState.init : CatState α :=
  { mCatProCmdRegistrant := none, mCatProCmdBuffer := none, receiver := .idle, registering := [],
    received := [], delivered := [], early := none }

inductive CatAct (α : Type) where
  | receive (ret : Option α)
  | notify
  | store
  | register
  | regTest (i : Nat)
  | regFlush (i : Nat)
  | regClear (i : Nat)
  deriving DecidableEq, Repr

variable {s s' : CatState α} {a : CatAct α}

/-- `mCatProCmdRegistrant.notifyRegistrant(new AsyncResult(null, ret, null))`. -/
def notifyRegistrant (s : CatState α) (ret : Option α) : Option (CatState α) :=
  s.mCatProCmdRegistrant.map fun r => { s with delivered := s.delivered ++ [(r, ret)] }

/-- The next step of a registering call. -/
def CatState.goes (s : CatState α) (i : Nat) (r : Registering) : CatState α :=
  { s with registering := s.registering.set i r }

def catStep (s : CatState α) : CatAct α → Option (CatState α)
  | .receive ret =>
    if s.receiver matches .idle then
      some { s with
        receiver := if s.mCatProCmdRegistrant.isSome then .notify ret else .store ret
        received := s.received ++ [ret] }
    else none
  | .notify =>
    match s.receiver with
    | .notify ret => (notifyRegistrant s ret).map fun t => { t with receiver := .idle }
    | _ => none
  | .store =>
    match s.receiver with
    | .store ret => some { s with mCatProCmdBuffer := ret, receiver := .idle }
    | _ => none
  | .register =>
    some { s with
      mCatProCmdRegistrant := some s.registering.length
      registering := s.registering ++ [.test]
      early := s.early.or (some s.received.length) }
  | .regTest i =>
    if s.registering[i]? = some .test then
      some (s.goes i (if s.mCatProCmdBuffer.isSome then .flush else .done))
    else none
  | .regFlush i =>
    if s.registering[i]? = some .flush then
      (notifyRegistrant s s.mCatProCmdBuffer).map fun t => t.goes i .clear
    else none
  | .regClear i =>
    if s.registering[i]? = some .clear then
      some { s.goes i .done with mCatProCmdBuffer := none }
    else none

/-! ## The order of the commands -/

/-- What the receiver has read and neither delivered nor stored. -/
def CatState.inHand (s : CatState α) : List (Option α) :=
  match s.receiver with
  | .idle => []
  | .notify ret => [ret]
  | .store ret => [ret]

/-- Some call has passed the content of the buffer on and not cleared it yet. -/
def CatState.flushed (s : CatState α) : Bool := s.registering.any (· == .clear)

/-- What the buffer holds for a registration to come. -/
def CatState.held (s : CatState α) : List (Option α) :=
  if s.flushed then [] else s.mCatProCmdBuffer.toList.map some

/-- Each command is delivered once and in order, up to those the receiver has in hand and those
of before the first registration that the buffer still holds. -/
structure InOrder (s : CatState α) : Prop where
  sequence : s.delivered.map Prod.snd ++ s.held ++ s.inHand = s.received
  early : ∀ n ∈ s.early, s.held ≠ [] → s.delivered.length < n

/-- The condition on a step. -/
def undisturbed (s : CatState α) : CatAct α → Prop
  | .store => s.mCatProCmdBuffer = none ∧ s.receiver ≠ .store none
  | .notify => s.mCatProCmdBuffer = none ∨ s.flushed = true
  | .regTest _ => s.mCatProCmdBuffer = none ∨
    s.registering.any (fun r => r == .flush || r == .clear) = false
  | .receive _ | .register | .regFlush _ | .regClear _ => True

instance [DecidableEq α] (s : CatState α) : (a : CatAct α) → Decidable (undisturbed s a)
  | .store => inferInstanceAs (Decidable (_ ∧ _))
  | .notify => inferInstanceAs (Decidable (_ ∨ _))
  | .regTest _ => inferInstanceAs (Decidable (_ ∨ _))
  | .receive _ | .register | .regFlush _ | .regClear _ => .isTrue trivial

/-- Everything a step can do. -/
inductive CatStep (s : CatState α) : CatAct α → CatState α → Prop
  | receive (ret : Option α) (hidle : s.receiver = .idle) :
    CatStep s (.receive ret)
      { s with
        receiver := if s.mCatProCmdRegistrant.isSome then .notify ret else .store ret
        received := s.received ++ [ret] }
  | notify {ret : Option α} {r : Nat} (hrx : s.receiver = .notify ret)
      (hr : s.mCatProCmdRegistrant = some r) :
    CatStep s .notify { s with delivered := s.delivered ++ [(r, ret)], receiver := .idle }
  | store {ret : Option α} (hrx : s.receiver = .store ret) :
    CatStep s .store { s with mCatProCmdBuffer := ret, receiver := .idle }
  | register :
    CatStep s .register
      { s with
        mCatProCmdRegistrant := some s.registering.length
        registering := s.registering ++ [.test]
        early := s.early.or (some s.received.length) }
  | regTest {i : Nat} (hi : s.registering[i]? = some .test) :
    CatStep s (.regTest i) (s.goes i (if s.mCatProCmdBuffer.isSome then .flush else .done))
  | regFlush {i r : Nat} (hi : s.registering[i]? = some .flush)
      (hr : s.mCatProCmdRegistrant = some r) :
    CatStep s (.regFlush i)
      ({ s with delivered := s.delivered ++ [(r, s.mCatProCmdBuffer)] }.goes i .clear)
  | regClear {i : Nat} (hi : s.registering[i]? = some .clear) :
    CatStep s (.regClear i) { s.goes i .done with mCatProCmdBuffer := none }

/-- Every enabled step is one of these cases. -/
theorem catStep_spec (h : catStep s a = some s') : CatStep s a s' := by
  cases a with
  | receive ret =>
    cases hrx : s.receiver with
    | idle =>
      simp only [catStep, hrx] at h
      obtain rfl := Option.some.inj h
      exact .receive ret hrx
    | notify _ => simp [catStep, hrx] at h
    | store _ => simp [catStep, hrx] at h
  | notify =>
    cases hrx : s.receiver with
    | notify ret =>
      simp only [catStep, hrx, notifyRegistrant, Option.map_map, Option.map_eq_some_iff] at h
      obtain ⟨r, hr, rfl⟩ := h
      exact .notify hrx hr
    | idle => simp [catStep, hrx] at h
    | store _ => simp [catStep, hrx] at h
  | store =>
    cases hrx : s.receiver with
    | store ret =>
      simp only [catStep, hrx] at h
      obtain rfl := Option.some.inj h
      exact .store hrx
    | idle => simp [catStep, hrx] at h
    | notify _ => simp [catStep, hrx] at h
  | register =>
    obtain rfl := Option.some.inj h
    exact .register
  | regTest i =>
    simp only [catStep, Option.ite_none_right_eq_some] at h
    obtain ⟨hi, h⟩ := h
    obtain rfl := Option.some.inj h
    exact .regTest hi
  | regFlush i =>
    simp only [catStep, Option.ite_none_right_eq_some, notifyRegistrant, Option.map_map,
      Option.map_eq_some_iff] at h
    obtain ⟨hi, r, hr, rfl⟩ := h
    exact .regFlush hi hr
  | regClear i =>
    simp only [catStep, Option.ite_none_right_eq_some] at h
    obtain ⟨hi, h⟩ := h
    obtain rfl := Option.some.inj h
    exact .regClear hi

/-! ## The invariant -/

/-- Between the test that found the buffer full and the clearing of it. -/
def Registering.busy (r : Registering) : Bool := r == .flush || r == .clear

structure CatInv (s : CatState α) : Prop where
  order : InOrder s
  /-- The receiver stores only what came before the first registration. -/
  storing : ∀ ret, s.receiver = .store ret → ∀ n ∈ s.early, s.received.length ≤ n
  registered : s.early.isSome = s.mCatProCmdRegistrant.isSome
  full : ∀ r ∈ s.registering, r.busy = true → s.mCatProCmdBuffer.isSome = true
  single : ∀ (i j : Nat) (r r' : Registering), s.registering[i]? = some r →
    s.registering[j]? = some r' → r.busy = true → r'.busy = true → i = j

/-- Nothing is held in an empty buffer. -/
theorem held_of_empty (h : s.mCatProCmdBuffer = none) : s.held = [] := by
  simp [CatState.held, h]

/-- Nothing is held once the buffer has been delivered. -/
theorem held_of_flushed (h : s.flushed = true) : s.held = [] := if_pos h

/-- The buffer has been delivered when a registration is about to clear it. -/
theorem flushed_iff : s.flushed = true ↔ .clear ∈ s.registering := by
  simp [CatState.flushed]

/-- Until then the command in the buffer is held. -/
theorem held_of_not_mem {c : α} (h : .clear ∉ s.registering) (hb : s.mCatProCmdBuffer = some c) :
    s.held = [some c] := by
  have hno : s.flushed ≠ true := fun hf => h (flushed_iff.mp hf)
  simp [CatState.held, hno, hb]

/-- A registration that goes on is the only one that changes. -/
theorem mem_goes {i : Nat} {r r' : Registering} (h : r' ∈ (s.goes i r).registering) :
    r' ∈ s.registering ∨ r' = r := List.mem_or_eq_of_mem_set h

/-- One call goes on, and is busy afterwards only if it or no other was before. -/
theorem CatInv.single_goes {i : Nat} {r₀ r : Registering} (hs : CatInv s)
    (hi : s.registering[i]? = some r₀)
    (hr : r.busy = true → r₀.busy = true ∨ ∀ r' ∈ s.registering, r'.busy = false) :
    ∀ (j k : Nat) (r₁ r₂ : Registering), (s.registering.set i r)[j]? = some r₁ →
      (s.registering.set i r)[k]? = some r₂ → r₁.busy = true → r₂.busy = true → j = k := by
  -- Whoever is busy afterwards is the call itself, or another that was busy all along.
  have hwas : ∀ (j : Nat) (r₁ : Registering), (s.registering.set i r)[j]? = some r₁ →
      r₁.busy = true → (j = i ∧ r.busy = true) ∨ j ≠ i ∧ s.registering[j]? = some r₁ := by
    intro j r₁ hj hbusy
    rw [List.getElem?_set] at hj
    split at hj
    · rename_i hij
      split at hj
      · obtain rfl := Option.some.inj hj
        exact .inl ⟨hij.symm, hbusy⟩
      · cases hj
    · rename_i hij
      exact .inr ⟨fun h => hij h.symm, hj⟩
  -- The call and another are not busy together.
  have hnot : ∀ (j : Nat) (r₁ : Registering), r.busy = true → j ≠ i →
      s.registering[j]? = some r₁ → r₁.busy = true → False := by
    intro j r₁ hnew hji hj hbusy
    rcases hr hnew with hold | hnone
    · exact hji (hs.single j i r₁ r₀ hj hi hbusy hold)
    · rw [hnone r₁ (List.mem_of_getElem? hj)] at hbusy
      cases hbusy
  intro j k r₁ r₂ hj hk hb₁ hb₂
  obtain ⟨rfl, hn₁⟩ | ⟨hji, hj'⟩ := hwas j r₁ hj hb₁
  · obtain ⟨rfl, -⟩ | ⟨hki, hk⟩ := hwas k r₂ hk hb₂
    · rfl
    · exact (hnot k r₂ hn₁ hki hk hb₂).elim
  · obtain ⟨rfl, hn₂⟩ | ⟨-, hk'⟩ := hwas k r₂ hk hb₂
    · exact (hnot j r₁ hn₂ hji hj' hb₁).elim
    · exact hs.single j k r₁ r₂ hj' hk' hb₁ hb₂

/-- At first nothing has come. -/
theorem catInv_init : CatInv (CatState.init : CatState α) where
  order := ⟨rfl, fun n hn => by cases hn⟩
  storing := fun ret h => by cases h
  registered := rfl
  full := fun r hr => by cases hr
  single := fun i j r r' hi => by cases hi

/-- A command that comes is with the receiver. -/
theorem catInv_receive {ret : Option α} (hs : CatInv s) (hidle : s.receiver = .idle) :
    CatInv { s with
      receiver := if s.mCatProCmdRegistrant.isSome then .notify ret else .store ret
      received := s.received ++ [ret] } := by
  have hseq : s.delivered.map Prod.snd ++ s.held = s.received := by
    simpa [CatState.inHand, hidle] using hs.order.sequence
  refine ⟨⟨?_, hs.order.early⟩, ?_, hs.registered, hs.full, hs.single⟩
  · rw [← hseq]
    by_cases hr : s.mCatProCmdRegistrant.isSome = true
    · simp [CatState.inHand, hr, CatState.held, CatState.flushed]
    · simp [CatState.inHand, hr, CatState.held, CatState.flushed]
  · -- A command that is to be stored finds no registration.
    intro ret' hrx n hn
    dsimp only at hrx hn
    split at hrx
    · cases hrx
    · rename_i hnone
      rw [← hs.registered, hn] at hnone
      exact absurd rfl hnone

/-- A command is delivered to the registrant when none is held before it. -/
theorem catInv_notify {ret : Option α} {r : Nat} (hs : CatInv s)
    (hrx : s.receiver = .notify ret) (hok : s.mCatProCmdBuffer = none ∨ s.flushed = true) :
    CatInv { s with delivered := s.delivered ++ [(r, ret)], receiver := .idle } := by
  have hheld : s.held = [] := hok.elim held_of_empty held_of_flushed
  have hseq := hs.order.sequence
  rw [hheld] at hseq
  refine ⟨⟨?_, fun n hn hne => absurd hheld hne⟩, fun _ h => (by cases h), hs.registered,
    hs.full, hs.single⟩
  have hheld' : ({ s with delivered := s.delivered ++ [(r, ret)], receiver := .idle } :
    CatState α).held = [] := hheld
  rw [hheld', ← hseq]
  simp [CatState.inHand, hrx]

/-- A command goes into an empty buffer. -/
theorem catInv_store {ret : Option α} (hs : CatInv s) (hrx : s.receiver = .store ret)
    (hempty : s.mCatProCmdBuffer = none) (hret : ret ≠ none) :
    CatInv { s with mCatProCmdBuffer := ret, receiver := .idle } := by
  obtain ⟨c, rfl⟩ := Option.ne_none_iff_exists'.mp hret
  have hnone : ∀ r ∈ s.registering, r.busy ≠ true := by
    intro r hr hbusy
    have hfull := hs.full r hr hbusy
    rw [hempty] at hfull
    cases hfull
  have hheld : ({ s with mCatProCmdBuffer := some c, receiver := .idle } : CatState α).held =
      [some c] := held_of_not_mem (fun hmem => hnone _ hmem rfl) rfl
  have hseq := hs.order.sequence
  rw [held_of_empty hempty] at hseq
  simp only [CatState.inHand, hrx, List.append_nil] at hseq
  refine ⟨⟨?_, fun n hn _ => ?_⟩, fun _ h => (by cases h), hs.registered,
    fun r hr hbusy => absurd hbusy (hnone r hr), hs.single⟩
  · rw [hheld, ← hseq]
    simp [CatState.inHand]
  · have hlen := congrArg List.length hseq
    have hle := hs.storing _ hrx n hn
    simp only [List.length_append, List.length_map, List.length_singleton] at hlen
    dsimp only
    omega

/-- A registration begins. -/
theorem catInv_register (hs : CatInv s) :
    CatInv { s with
      mCatProCmdRegistrant := some s.registering.length
      registering := s.registering ++ [.test]
      early := s.early.or (some s.received.length) } := by
  have hflushed : ({ s with
      mCatProCmdRegistrant := some s.registering.length
      registering := s.registering ++ [.test]
      early := s.early.or (some s.received.length) } : CatState α).held = s.held := by
    simp [CatState.held, CatState.flushed]
  -- The first registration comes after all that has been received.
  have hearly : ∀ n, n ∈ s.early.or (some s.received.length) →
      n ∈ s.early ∨ n = s.received.length := by
    intro n hn
    cases he : s.early with
    | none =>
      rw [he] at hn
      exact .inr (Option.some.inj hn).symm
    | some m =>
      rw [he] at hn
      exact .inl hn
  refine ⟨⟨?_, fun n hn hne => ?_⟩, fun ret hrx n hn => ?_, ?_, fun r hr hbusy => ?_, ?_⟩
  · rw [hflushed]
    exact hs.order.sequence
  · rw [hflushed] at hne
    rcases hearly n hn with hold | rfl
    · exact hs.order.early n hold hne
    · have hlen := congrArg List.length hs.order.sequence
      have hpos := List.length_pos_iff.mpr hne
      simp only [List.length_append, List.length_map] at hlen
      dsimp only
      omega
  · rcases hearly n hn with hold | rfl
    · exact hs.storing ret hrx n hold
    · exact Nat.le_refl _
  · cases s.early with
    | none => rfl
    | some m => rfl
  · rcases List.mem_append.mp hr with hold | hnew
    · exact hs.full r hold hbusy
    · rw [List.mem_singleton.mp hnew] at hbusy
      cases hbusy
  · have hold : ∀ (i : Nat) (r : Registering), (s.registering ++ [.test])[i]? = some r →
        r.busy = true → s.registering[i]? = some r := by
      intro i r hi hbusy
      rw [List.getElem?_append] at hi
      split at hi
      · exact hi
      · rw [List.mem_singleton.mp (List.mem_of_getElem? hi)] at hbusy
        cases hbusy
    intro i j r r' hi hj hbusy hbusy'
    exact hs.single i j r r' (hold i r hi hbusy) (hold j r' hj hbusy') hbusy hbusy'

/-- A registration looks at the buffer while no other has found it filled. -/
theorem catInv_regTest {i : Nat} (hs : CatInv s) (hi : s.registering[i]? = some .test)
    (hok : s.mCatProCmdBuffer = none ∨
      s.registering.any (fun r => r == .flush || r == .clear) = false) :
    CatInv (s.goes i (if s.mCatProCmdBuffer.isSome then .flush else .done)) := by
  cases hb : s.mCatProCmdBuffer with
  | none =>
    have hheld : (s.goes i .done).held = s.held := by
      rw [held_of_empty hb]
      exact held_of_empty (s := s.goes i .done) hb
    refine ⟨⟨?_, ?_⟩, hs.storing, hs.registered, fun r hr hbusy => ?_,
      hs.single_goes hi fun h => by cases h⟩
    · exact hheld ▸ hs.order.sequence
    · exact hheld ▸ hs.order.early
    · rcases mem_goes hr with hold | rfl
      · exact hs.full r hold hbusy
      · cases hbusy
  | some c =>
    have hnone : ∀ r ∈ s.registering, r.busy = false := by
      intro r hr
      rcases hok with hempty | hany
      · rw [hb] at hempty
        cases hempty
      · simpa [Registering.busy] using List.any_eq_false.mp hany r hr
    have hno : .clear ∉ s.registering := fun hmem => by cases hnone _ hmem
    have hno' : .clear ∉ (s.goes i .flush).registering := by
      intro hmem
      rcases mem_goes hmem with hold | hnew
      · exact hno hold
      · cases hnew
    have hheld : (s.goes i .flush).held = s.held := by
      rw [held_of_not_mem hno hb, held_of_not_mem hno' (s := s.goes i .flush) hb]
    refine ⟨⟨?_, ?_⟩, hs.storing, hs.registered, fun r hr hbusy => ?_,
      hs.single_goes hi fun _ => .inr hnone⟩
    · exact hheld ▸ hs.order.sequence
    · exact hheld ▸ hs.order.early
    · exact congrArg Option.isSome hb

/-- A registration delivers what is held. -/
theorem catInv_regFlush {i r : Nat} (hs : CatInv s) (hi : s.registering[i]? = some .flush) :
    CatInv ({ s with delivered := s.delivered ++ [(r, s.mCatProCmdBuffer)] }.goes i .clear) := by
  obtain ⟨c, hb⟩ := Option.isSome_iff_exists.mp (hs.full _ (List.mem_of_getElem? hi) rfl)
  -- No other call has passed the command on.
  have hno : .clear ∉ s.registering := by
    intro hmem
    obtain ⟨j, hj⟩ := List.mem_iff_getElem?.mp hmem
    obtain rfl := hs.single i j _ _ hi hj rfl rfl
    rw [hi] at hj
    cases hj
  have hlt : i < s.registering.length := (List.getElem?_eq_some_iff.mp hi).1
  have hheld : ({ s with delivered := s.delivered ++ [(r, s.mCatProCmdBuffer)] }.goes i
      .clear).held = [] := held_of_flushed (flushed_iff.mpr (List.mem_set hlt _))
  refine ⟨⟨?_, fun n hn hne => absurd hheld hne⟩, hs.storing, hs.registered,
    fun r' hr' _ => congrArg Option.isSome hb, hs.single_goes hi fun _ => .inl rfl⟩
  have hseq := hs.order.sequence
  rw [held_of_not_mem hno hb] at hseq
  have hmoved : (s.delivered ++ [(r, s.mCatProCmdBuffer)]).map Prod.snd ++ [] ++ s.inHand =
      s.received := by
    simpa [hb] using hseq
  rw [hheld]
  exact hmoved

/-- After that it clears the buffer. -/
theorem catInv_regClear {i : Nat} (hs : CatInv s) (hi : s.registering[i]? = some .clear) :
    CatInv { s.goes i .done with mCatProCmdBuffer := none } := by
  have hheld : ({ s.goes i .done with mCatProCmdBuffer := none } : CatState α).held = [] :=
    held_of_empty rfl
  have hwas : s.held = [] := held_of_flushed (flushed_iff.mpr (List.mem_of_getElem? hi))
  refine ⟨⟨?_, fun n hn hne => absurd hheld hne⟩, hs.storing, hs.registered, fun r hr hbusy => ?_,
    hs.single_goes hi fun h => by cases h⟩
  · have hseq := hs.order.sequence
    rw [hwas] at hseq
    rw [hheld]
    exact hseq
  · -- The call that clears the buffer is the only one that has found it full.
    obtain ⟨j, hj⟩ := List.mem_iff_getElem?.mp hr
    rw [CatState.goes, List.getElem?_set] at hj
    split at hj
    · split at hj
      · obtain rfl := Option.some.inj hj
        cases hbusy
      · cases hj
    · rename_i hij
      exact absurd (hs.single i j _ _ hi hj rfl hbusy) hij

/-- **Step lemma**. -/
theorem catInv_step (hok : undisturbed s a) (h : catStep s a = some s') (hs : CatInv s) :
    CatInv s' := by
  cases catStep_spec h with
  | receive ret hidle => exact catInv_receive hs hidle
  | notify hrx hr => exact catInv_notify hs hrx hok
  | store hrx => exact catInv_store hs hrx hok.1 fun hnull => hok.2 (hnull ▸ hrx)
  | register => exact catInv_register hs
  | regTest hi => exact catInv_regTest hs hi hok
  | regFlush hi hr => exact catInv_regFlush hs hi
  | regClear hi => exact catInv_regClear hs hi

/-- No run of undisturbed steps loses a command, delivers one twice or changes their order. -/
theorem commands_in_order [DecidableEq α] {as : List (CatAct α)}
    (hrun : exec (restrict undisturbed catStep) (CatState.init : CatState α) as = some s) :
    InOrder s := by
  have hinv : CatInv s :=
    exec_restrict_invariant (fun _ _ _ hok hstep hs => catInv_step hok hstep hs) catInv_init hrun
  exact hinv.order

/-- One command before the registration, one while it is in progress, one after it. -/
theorem commands_in_order_three :
    ∃ s : CatState Nat, exec (restrict undisturbed catStep) CatState.init
        [.receive (some 1), .store, .register, .regTest 0, .regFlush 0, .receive (some 2),
          .notify, .regClear 0, .receive (some 3), .notify] = some s ∧ InOrder s := by
  obtain ⟨s, hs⟩ : ∃ s : CatState Nat, exec (restrict undisturbed catStep) CatState.init
      [.receive (some 1), .store, .register, .regTest 0, .regFlush 0, .receive (some 2),
        .notify, .regClear 0, .receive (some 3), .notify] = some s := ⟨_, rfl⟩
  exact ⟨s, hs, commands_in_order hs⟩

/-- Of two commands before the first registration the first is lost. -/
theorem burst_is_lost :
    ∃ s : CatState Nat, exec catStep CatState.init
        [.receive (some 1), .store, .receive (some 2), .store, .register, .regTest 0,
          .regFlush 0, .regClear 0] = some s ∧
      s.received = [some 1, some 2] ∧ s.delivered = [(0, some 2)] ∧ ¬ InOrder s := by
  refine ⟨_, rfl, rfl, rfl, fun h => ?_⟩
  exact absurd h.sequence (by decide)

end Ancora.Ril.Cat
