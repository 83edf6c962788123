import Ancora.Lib.Machine

/-!
# The receive thread and the list of clients (librpc/clnt.c:225–418, 678–858)

`rx_context` has two critical sections in each round of its loop. In the first it copies
the descriptors of the clients into `pbits`, in list order; in the second it walks the list
again and acts on `pbits[n].revents` for the `n`-th client. In between it polls, without
`rx_mutex`. `clnt_create` puts a client at the head of the list and `clnt_destroy` takes one
out, both under `rx_mutex`; the destroyer of the last client also joins the receive thread
under it.

- `rxStep`: the atomic steps of `rx_context` at each of its program points, and of the callers
  of `clnt_create` and `clnt_destroy`.
- `pollTimely`, **`poll_results_match`**: while nothing brings the number of clients back to the
  one that was polled for, each client is served with the poll result of its own descriptor.
- `joinTimely`, **`last_destroy_terminates`**: if the last client is not taken out between a test
  of `num_clients` and the lock that follows it, the join cannot hang.
-/

namespace Ancora.Rpc

open Machine

/-- A client in the list and the descriptor of its XDR; `id` tells clients apart whose
descriptors have the same number. -/
structure Conn where
  id : Nat
  fd : Nat
  deriving DecidableEq, Repr

/-- What an entry of `pbits` polls. -/
inductive PollFd
  | unset
  | wakeup
  | client (c : Conn)
  deriving DecidableEq, Repr

/-- Where `rx_context` is. -/
inductive RxPc
  /-- At `while(num_clients)` (clnt.c:233). -/
  | whileTest
  /-- Before the first `pthread_mutex_lock(&rx_mutex)`. -/
  | wantSetup
  | polling
  /-- After `poll`; `failed` if it returned an error. -/
  | polled (failed : Bool)
  /-- At `if (!num_clients) break` (clnt.c:268). -/
  | breakTest (failed : Bool)
  /-- Before the second `pthread_mutex_lock(&rx_mutex)`. -/
  | wantEvents
  /-- In the second critical section: `n`, and the clients from here on. -/
  | events (n : Nat) (rest : List Conn)
  | exited
  deriving DecidableEq, Repr

/-- Between the two critical sections. -/
def RxPc.between : RxPc → Bool
  | .polling => true
  | .polled _ => true
  | .breakTest _ => true
  | .wantEvents => true
  | _ => false

/-- About to take `rx_mutex`. -/
def RxPc.wantsMutex : RxPc → Bool
  | .wantSetup => true
  | .wantEvents => true
  | _ => false

/-- Who has `rx_mutex` over several steps. -/
inductive MutexOwner
  | free
  | rx
  /-- A `clnt_destroy` that waits in `pthread_join`. -/
  | destroyer
  deriving DecidableEq, Repr

structure RxState where
  clients : List Conn
  numClients : Nat
  nextId : Nat
  pbits : Option (List PollFd)
  numClientsCached : Nat
  /-- `pbits[0].revents` is set. -/
  wakeRevents : Bool
  /-- Bytes in the wake-up pipe. -/
  pipe : Nat
  rx : RxPc
  rxMutex : MutexOwner
  deriving DecidableEq, Repr

/-- Before the first client. -/
def rxInit : RxState where
  clients := []
  numClients := 0
  nextId := 0
  pbits := none
  numClientsCached := 0
  wakeRevents := false
  pipe := 0
  rx := .exited
  rxMutex := .free

inductive RxAct
  | clntCreate (fd : Nat)
  | clntDestroy (c : Conn)
  | join
  | whileTest
  | setup
  | poll (failed : Bool)
  | clear
  | breakTest
  | lockEvents
  | visit
  | unlock
  deriving DecidableEq, Repr

/-- `clnt_create` (clnt.c:690–750): the first client starts the receive thread. -/
def clntCreateConn (s : RxState) (fd : Nat) : RxState :=
  let s' := { s with
    clients := ⟨s.nextId, fd⟩ :: s.clients
    numClients := s.numClients + 1
    nextId := s.nextId + 1 }
  if s.numClients = 0 then
    { s' with
      pbits := none, numClientsCached := 0, wakeRevents := false, pipe := 0, rx := .whileTest }
  else { s' with pipe := s.pipe + 1 }

/-- `clnt_destroy` up to the join (clnt.c:808–832). -/
def clntDestroyConn (s : RxState) (c : Conn) : RxState :=
  let s' := { s with clients := s.clients.erase c, numClients := s.numClients - 1 }
  if s.numClients - 1 = 0 then { s' with pipe := s.pipe + 1, rxMutex := .destroyer } else s'

/-- The array that the first critical section fills (clnt.c:236–246). -/
def allocate (s : RxState) : List PollFd :=
  match s.pbits with
  | none => .wakeup :: List.replicate s.numClients .unset
  | some p =>
    if s.numClientsCached ≠ s.numClients then .wakeup :: List.replicate s.numClients .unset else p

/-- The loop that fills it (clnt.c:248–255); `set` past the end would be a write past the
array. -/
def fillSlots : Nat → List Conn → List PollFd → List PollFd
  | _, [], p => p
  | n, c :: cs, p => fillSlots (n + 1) cs (p.set n (.client c))

/-- The array is a new one. -/
def fresh (s : RxState) : Bool := s.pbits = none || s.numClientsCached ≠ s.numClients

/-- The steps of `rx_context`. -/
def rxContextStep (s : RxState) : RxAct → Option RxState
  | .whileTest =>
    if s.rx = .whileTest then
      some { s with rx := if s.numClients = 0 then .exited else .wantSetup }
    else none
  | .setup =>
    if s.rx = .wantSetup ∧ s.rxMutex = .free then
      some { s with
        pbits := some (fillSlots 1 s.clients (allocate s))
        numClientsCached := s.numClients
        wakeRevents := if fresh s then false else s.wakeRevents
        rx := .polling }
    else none
  | .poll failed =>
    -- an error leaves the `revents` of the poll before
    if s.rx = .polling then
      some { s with
        wakeRevents := if failed then s.wakeRevents else 0 < s.pipe
        rx := .polled failed }
    else none
  | .clear =>
    match s.rx with
    | .polled failed =>
      if s.wakeRevents then
        if s.pipe = 0 then none
        else some { s with pipe := s.pipe - 1, rx := .breakTest failed }
      else some { s with rx := .breakTest failed }
    | _ => none
  | .breakTest =>
    match s.rx with
    | .breakTest failed =>
      if s.numClients = 0 then some { s with rx := .exited }
      else some { s with rx := if failed then .whileTest else .wantEvents }
    | _ => none
  | .lockEvents =>
    if s.rx = .wantEvents ∧ s.rxMutex = .free then
      if s.numClientsCached ≠ s.numClients then some { s with rx := .whileTest }
      else some { s with rx := .events 1 s.clients, rxMutex := .rx }
    else none
  | .visit =>
    match s.rx with
    | .events n (_ :: rest) => some { s with rx := .events (n + 1) rest }
    | _ => none
  | .unlock =>
    match s.rx with
    | .events _ [] => some { s with rx := .whileTest, rxMutex := .free }
    | _ => none
  | _ => none

/-- One atomic step. -/
def rxStep (s : RxState) : RxAct → Option RxState
  | .clntCreate fd => if s.rxMutex = .free then some (clntCreateConn s fd) else none
  | .clntDestroy c =>
    if s.rxMutex = .free ∧ c ∈ s.clients then some (clntDestroyConn s c) else none
  | .join =>
    if s.rxMutex = .destroyer ∧ s.rx = .exited then some { s with rxMutex := .free } else none
  | a => rxContextStep s a

/-! ## What a step of the receive thread can do -/

/-- The steps of `rx_context`, by program point. -/
inductive RxMove (s : RxState) : RxState → Prop
  | stops (h : s.rx = .whileTest) (hn : s.numClients = 0) : RxMove s { s with rx := .exited }
  | goesOn (h : s.rx = .whileTest) (hn : s.numClients ≠ 0) : RxMove s { s with rx := .wantSetup }
  | setsUp (w : Bool) (h : s.rx = .wantSetup) (hm : s.rxMutex = .free) : RxMove s { s with
      pbits := some (fillSlots 1 s.clients (allocate s))
      numClientsCached := s.numClients
      wakeRevents := w
      rx := .polling }
  | polls (w failed : Bool) (h : s.rx = .polling) :
      RxMove s { s with wakeRevents := w, rx := .polled failed }
  | clears (failed : Bool) (h : s.rx = .polled failed) (hp : s.pipe ≠ 0) :
      RxMove s { s with pipe := s.pipe - 1, rx := .breakTest failed }
  | skips (failed : Bool) (h : s.rx = .polled failed) : RxMove s { s with rx := .breakTest failed }
  | breaks (failed : Bool) (h : s.rx = .breakTest failed) (hn : s.numClients = 0) :
      RxMove s { s with rx := .exited }
  | retries (h : s.rx = .breakTest true) (hn : s.numClients ≠ 0) :
      RxMove s { s with rx := .whileTest }
  | serves (h : s.rx = .breakTest false) (hn : s.numClients ≠ 0) :
      RxMove s { s with rx := .wantEvents }
  | discards (h : s.rx = .wantEvents) (hm : s.rxMutex = .free)
      (hn : s.numClientsCached ≠ s.numClients) : RxMove s { s with rx := .whileTest }
  | enters (h : s.rx = .wantEvents) (hm : s.rxMutex = .free)
      (hn : s.numClientsCached = s.numClients) :
      RxMove s { s with rx := .events 1 s.clients, rxMutex := .rx }
  | visits (n : Nat) (c : Conn) (rest : List Conn) (h : s.rx = .events n (c :: rest)) :
      RxMove s { s with rx := .events (n + 1) rest }
  | leaves (n : Nat) (h : s.rx = .events n []) :
      RxMove s { s with rx := .whileTest, rxMutex := .free }

/-- **Inversion** of a step of `rx_context`. -/
theorem rxContextStep_cases {s s' : RxState} {a : RxAct} (h : rxContextStep s a = some s') :
    RxMove s s' := by
  cases a with
  | whileTest =>
    simp only [rxContextStep, Option.ite_none_right_eq_some, Option.some.injEq] at h
    obtain ⟨hrx, rfl⟩ := h
    by_cases hn : s.numClients = 0
    · rw [if_pos hn]
      exact .stops hrx hn
    · rw [if_neg hn]
      exact .goesOn hrx hn
  | setup =>
    simp only [rxContextStep, Option.ite_none_right_eq_some, Option.some.injEq] at h
    obtain ⟨⟨hrx, hm⟩, rfl⟩ := h
    exact .setsUp _ hrx hm
  | poll failed =>
    simp only [rxContextStep, Option.ite_none_right_eq_some, Option.some.injEq] at h
    obtain ⟨hrx, rfl⟩ := h
    exact .polls _ failed hrx
  | clear =>
    simp only [rxContextStep] at h
    split at h
    · rename_i failed hrx
      split at h
      · split at h
        · cases h
        · rename_i hp
          cases h
          exact .clears failed hrx hp
      · cases h
        exact .skips failed hrx
    · cases h
  | breakTest =>
    simp only [rxContextStep] at h
    split at h
    · rename_i failed hrx
      split at h
      · rename_i hn
        cases h
        exact .breaks failed hrx hn
      · rename_i hn
        cases h
        cases failed with
        | true => exact .retries hrx hn
        | false => exact .serves hrx hn
    · cases h
  | lockEvents =>
    simp only [rxContextStep, Option.ite_none_right_eq_some] at h
    obtain ⟨⟨hrx, hm⟩, h⟩ := h
    split at h
    · rename_i hn
      cases h
      exact .discards hrx hm hn
    · rename_i hn
      cases h
      exact .enters hrx hm (not_not.mp hn)
  | visit =>
    simp only [rxContextStep] at h
    split at h
    · rename_i n c rest hrx
      cases h
      exact .visits n c rest hrx
    · cases h
  | unlock =>
    simp only [rxContextStep] at h
    split at h
    · rename_i n hrx
      cases h
      exact .leaves n hrx
    · cases h
  | clntCreate => cases h
  | clntDestroy => cases h
  | join => cases h

/-- The steps of all threads. -/
inductive RxStepped (s : RxState) (a : RxAct) (s' : RxState) : Prop
  | create (fd : Nat) (ha : a = .clntCreate fd) (hm : s.rxMutex = .free)
      (hs : s' = clntCreateConn s fd)
  | destroy (c : Conn) (ha : a = .clntDestroy c) (hm : s.rxMutex = .free) (hc : c ∈ s.clients)
      (hs : s' = clntDestroyConn s c)
  | joined (ha : a = .join) (hm : s.rxMutex = .destroyer) (hrx : s.rx = .exited)
      (hs : s' = { s with rxMutex := .free })
  | rx (hmove : RxMove s s')

/-- **Inversion** of a step of any thread. -/
theorem rxStep_cases {s s' : RxState} {a : RxAct} (h : rxStep s a = some s') :
    RxStepped s a s' := by
  cases a with
  | clntCreate fd =>
    simp only [rxStep, Option.ite_none_right_eq_some, Option.some.injEq] at h
    exact .create fd rfl h.1 h.2.symm
  | clntDestroy c =>
    simp only [rxStep, Option.ite_none_right_eq_some, Option.some.injEq] at h
    exact .destroy c rfl h.1.1 h.1.2 h.2.symm
  | join =>
    simp only [rxStep, Option.ite_none_right_eq_some, Option.some.injEq] at h
    exact .joined rfl h.1.1 h.1.2 h.2.symm
  | _ =>
    simp only [rxStep] at h
    exact .rx (rxContextStep_cases h)

/-! ## Poll results -/

/-- While `rx_context` polls, the number of clients does not come back to the one that was
polled for. -/
def pollTimely (s : RxState) : RxAct → Prop
  | .clntCreate _ => s.rx.between = true → s.numClients + 1 ≠ s.numClientsCached
  | .clntDestroy _ => s.rx.between = true → s.numClients - 1 ≠ s.numClientsCached
  | _ => True

instance (s : RxState) : (a : RxAct) → Decidable (pollTimely s a)
  | .clntCreate _ => inferInstanceAs (Decidable (_ → _))
  | .clntDestroy _ => inferInstanceAs (Decidable (_ → _))
  | .join | .whileTest | .setup | .poll _ | .clear | .breakTest | .lockEvents | .visit | .unlock =>
    .isTrue trivial

/-- Each client is served with the entry of `pbits` that polled for it, and neither loop leaves
the array. -/
structure PollsMatch (s : RxState) : Prop where
  served : ∀ n c rest, s.rx = .events n (c :: rest) →
    ∃ p, s.pbits = some p ∧ p[n]? = some (.client c)
  inRange : ∀ n rest, s.rx = .events n rest → ∃ p, s.pbits = some p ∧ n ≤ p.length
  fills : s.clients.length < (allocate s).length

/-- The loop writes one entry for each client and stays inside the array. -/
theorem fillSlots_append (cs : List Conn) :
    ∀ (a b : List PollFd), b.length = cs.length →
      fillSlots a.length cs (a ++ b) = a ++ cs.map .client := by
  induction cs with
  | nil =>
    intro a b hb
    rw [List.length_eq_zero_iff.mp hb]
    rfl
  | cons c cs ih =>
    intro a b hb
    cases b with
    | nil => cases hb
    | cons x b =>
      have hset : (a ++ x :: b).set a.length (.client c) = (a ++ [.client c]) ++ b := by
        rw [List.set_append_right _ _ (Nat.le_refl _), Nat.sub_self, List.append_assoc]
        rfl
      have hlen : a.length + 1 = (a ++ [PollFd.client c]).length := by simp
      rw [fillSlots, hset, hlen, ih _ b (Nat.succ.inj hb), List.append_assoc]
      rfl

/-- The array for these clients, filled. -/
def slots (cs : List Conn) : List PollFd := .wakeup :: cs.map .client

/-- The entry of a client stands one further than the client in the list. -/
theorem slots_getElem (a : List Conn) (c : Conn) (b : List Conn) :
    (slots (a ++ c :: b))[a.length + 1]? = some (.client c) := by
  rw [slots, List.getElem?_cons_succ, List.map_append, List.getElem?_append_right (by simp)]
  simp

structure PollInv (s : RxState) : Prop where
  count : s.numClients = s.clients.length
  array : ∀ p, s.pbits = some p →
    ∃ b : List PollFd, p = .wakeup :: b ∧ b.length = s.numClientsCached
  between : s.rx.between = true → ∃ cs, s.pbits = some (slots cs) ∧
    (s.clients = cs ∨ s.numClients ≠ s.numClientsCached)
  events : ∀ n rest, s.rx = .events n rest → s.rxMutex = .rx ∧
    ∃ a, s.clients = a ++ rest ∧ n = a.length + 1 ∧ s.pbits = some (slots s.clients)

/-- The array is as long as the list, and one more. -/
theorem PollInv.allocate_eq {s : RxState} (hi : PollInv s) :
    ∃ b : List PollFd, allocate s = .wakeup :: b ∧ b.length = s.clients.length := by
  unfold allocate
  split
  · exact ⟨_, rfl, by rw [List.length_replicate, hi.count]⟩
  · rename_i p hp
    split
    · exact ⟨_, rfl, by rw [List.length_replicate, hi.count]⟩
    · rename_i hn
      obtain ⟨b, rfl, hb⟩ := hi.array p hp
      exact ⟨b, rfl, by rw [hb, not_not.mp hn, hi.count]⟩

/-- The array that is polled has the wake-up pipe and then the clients in their order. -/
theorem PollInv.setup_eq {s : RxState} (hi : PollInv s) :
    fillSlots 1 s.clients (allocate s) = slots s.clients := by
  obtain ⟨b, hb, hlen⟩ := hi.allocate_eq
  rw [hb]
  exact fillSlots_append s.clients [.wakeup] b hlen

/-- A step inside `rx_context` that stays outside the second critical section. -/
theorem PollInv.moveRx {s s' : RxState} (hi : PollInv s) (hclients : s'.clients = s.clients)
    (hnum : s'.numClients = s.numClients) (hpbits : s'.pbits = s.pbits)
    (hcached : s'.numClientsCached = s.numClientsCached)
    (hbetween : s'.rx.between = true → s.rx.between = true)
    (hevents : ∀ n rest, s'.rx ≠ .events n rest) : PollInv s' where
  count := by
    rw [hnum, hclients]
    exact hi.count
  array p hp := by
    rw [hcached]
    exact hi.array p (hpbits ▸ hp)
  between h := by
    rw [hpbits, hclients, hnum, hcached]
    exact hi.between (hbetween h)
  events n rest h := absurd h (hevents n rest)

/-- The steps of `rx_context` keep the invariant. -/
theorem PollInv.rxMove {s s' : RxState} (hi : PollInv s) (h : RxMove s s') : PollInv s' := by
  cases h with
  | stops hrx hn => exact hi.moveRx rfl rfl rfl rfl nofun nofun
  | goesOn hrx hn => exact hi.moveRx rfl rfl rfl rfl nofun nofun
  | polls w failed hrx => exact hi.moveRx rfl rfl rfl rfl (fun _ => by rw [hrx]; rfl) nofun
  | clears failed hrx hp => exact hi.moveRx rfl rfl rfl rfl (fun _ => by rw [hrx]; rfl) nofun
  | skips failed hrx => exact hi.moveRx rfl rfl rfl rfl (fun _ => by rw [hrx]; rfl) nofun
  | breaks failed hrx hn => exact hi.moveRx rfl rfl rfl rfl nofun nofun
  | retries hrx hn => exact hi.moveRx rfl rfl rfl rfl nofun nofun
  | serves hrx hn => exact hi.moveRx rfl rfl rfl rfl (fun _ => by rw [hrx]; rfl) nofun
  | discards hrx hm hn => exact hi.moveRx rfl rfl rfl rfl nofun nofun
  | leaves n hrx => exact hi.moveRx rfl rfl rfl rfl nofun nofun
  | setsUp w hrx hm =>
    have hfill := hi.setup_eq
    refine ⟨hi.count, ?_, ?_, nofun⟩
    · intro p hp
      cases hp
      refine ⟨s.clients.map .client, hfill, ?_⟩
      rw [List.length_map]
      exact hi.count.symm
    · intro _
      exact ⟨s.clients, congrArg some hfill, .inl rfl⟩
  | enters hrx hm hn =>
    refine ⟨hi.count, hi.array, nofun, ?_⟩
    intro n rest h
    cases h
    obtain ⟨cs, hcs, hsame⟩ := hi.between (by rw [hrx]; rfl)
    -- the number is the one that was polled for, so the list is
    have hclients : s.clients = cs := hsame.resolve_right fun hne => hne hn.symm
    exact ⟨rfl, [], rfl, rfl, hclients ▸ hcs⟩
  | visits n c rest hrx =>
    obtain ⟨hm, a, ha, hn, hp⟩ := hi.events n (c :: rest) hrx
    refine ⟨hi.count, hi.array, nofun, ?_⟩
    intro n' rest' h
    cases h
    refine ⟨hm, a ++ [c], ?_, ?_, hp⟩
    · rw [List.append_assoc]
      exact ha
    · rw [List.length_append, hn]
      rfl

/-- Every permitted step keeps the invariant. -/
theorem PollInv.step {s s' : RxState} {a : RxAct} (hok : pollTimely s a) (h : rxStep s a = some s')
    (hi : PollInv s) : PollInv s' := by
  have hout : s.rxMutex ≠ .rx → ∀ n rest, s.rx ≠ .events n rest := by
    intro hm n rest hrx
    exact hm (hi.events n rest hrx).1
  rcases rxStep_cases h with
    ⟨fd, rfl, hm, rfl⟩ | ⟨c, rfl, hm, hc, rfl⟩ | ⟨rfl, hm, hrx, rfl⟩ | hmove
  · have hout := hout (by rw [hm]; exact nofun)
    unfold clntCreateConn
    by_cases hzero : s.numClients = 0
    · simp only [if_pos hzero]
      refine ⟨?_, nofun, nofun, nofun⟩
      show s.numClients + 1 = s.clients.length + 1
      rw [hi.count]
    · simp only [if_neg hzero]
      refine ⟨?_, hi.array, ?_, ?_⟩
      · show s.numClients + 1 = s.clients.length + 1
        rw [hi.count]
      · intro hb
        obtain ⟨cs, hcs, -⟩ := hi.between hb
        exact ⟨cs, hcs, .inr (hok hb)⟩
      · intro n rest hrx
        exact absurd hrx (hout n rest)
  · have hout := hout (by rw [hm]; exact nofun)
    have hcount : s.numClients - 1 = (s.clients.erase c).length := by
      rw [List.length_erase_of_mem hc, hi.count]
    have hbetween : s.rx.between = true → ∃ cs, s.pbits = some (slots cs) ∧
        (s.clients.erase c = cs ∨ s.numClients - 1 ≠ s.numClientsCached) := by
      intro hb
      obtain ⟨cs, hcs, -⟩ := hi.between hb
      exact ⟨cs, hcs, .inr (hok hb)⟩
    unfold clntDestroyConn
    by_cases hzero : s.numClients - 1 = 0
    · simp only [if_pos hzero]
      exact ⟨hcount, hi.array, hbetween, fun n rest hrx => absurd hrx (hout n rest)⟩
    · simp only [if_neg hzero]
      exact ⟨hcount, hi.array, hbetween, fun n rest hrx => absurd hrx (hout n rest)⟩
  · exact hi.moveRx rfl rfl rfl rfl id (hout (by rw [hm]; exact nofun))
  · exact hi.rxMove hmove

theorem PollInv.init : PollInv rxInit := ⟨rfl, nofun, nofun, nofun⟩

/-- **However clients come and go, as long as their number does not return to the one polled
for, each poll result goes to the client whose descriptor it is for.** -/
theorem poll_results_match {as : List RxAct} {s : RxState}
    (hrun : exec (restrict pollTimely rxStep) rxInit as = some s) : PollsMatch s := by
  have hi : PollInv s :=
    exec_restrict_invariant (fun _ _ _ hok h hi => hi.step hok h) PollInv.init hrun
  refine ⟨?_, ?_, ?_⟩
  · intro n c rest hrx
    obtain ⟨-, a, ha, rfl, hp⟩ := hi.events n (c :: rest) hrx
    exact ⟨_, hp, ha ▸ slots_getElem a c rest⟩
  · intro n rest hrx
    obtain ⟨-, a, ha, rfl, hp⟩ := hi.events n rest hrx
    refine ⟨_, hp, ?_⟩
    rw [slots, List.length_cons, List.length_map, ha, List.length_append]
    omega
  · obtain ⟨b, hb, hlen⟩ := hi.allocate_eq
    rw [hb, List.length_cons, hlen]
    exact Nat.lt_succ_self _

/-- Two clients, and `rx_context` polls for both. -/
def pollsForTwo : List RxAct := [
  .clntCreate 5, .clntCreate 6, .whileTest, .setup, .poll false, .clear, .breakTest]

/-- While it polls a third client comes; it polls again, and serves the first one. -/
def thirdClientComes : List RxAct := pollsForTwo ++ [
  RxAct.clntCreate 7, .lockEvents, .whileTest, .setup, .poll false, .clear, .breakTest, .lockEvents]

theorem poll_results_match_third_client :
    ∃ s, exec (restrict pollTimely rxStep) rxInit thirdClientComes = some s ∧
      s.rx = .events 1 [⟨2, 7⟩, ⟨1, 6⟩, ⟨0, 5⟩] ∧ PollsMatch s := by
  have hend : (exec (restrict pollTimely rxStep) rxInit thirdClientComes).map RxState.rx =
      some (.events 1 [⟨2, 7⟩, ⟨1, 6⟩, ⟨0, 5⟩]) := by decide +kernel
  obtain ⟨s, hrun, hrx⟩ := Option.map_eq_some_iff.mp hend
  exact ⟨s, hrun, hrx, poll_results_match hrun⟩

/-- While it polls one client goes and another one comes. -/
def clientReplaced : List RxAct := pollsForTwo ++ [
  RxAct.clntDestroy ⟨0, 5⟩, .clntCreate 7, .lockEvents]

/-- The new client is served with what was polled for the other one. -/
theorem poll_results_of_another_client :
    ∃ s, exec rxStep rxInit clientReplaced = some s ∧
      s.rx = .events 1 [⟨2, 7⟩, ⟨1, 6⟩] ∧
      s.pbits = some [.wakeup, .client ⟨1, 6⟩, .client ⟨0, 5⟩] ∧ ¬ PollsMatch s := by
  have hend : (exec rxStep rxInit clientReplaced).map (fun s => (s.rx, s.pbits)) =
      some (.events 1 [⟨2, 7⟩, ⟨1, 6⟩], some [.wakeup, .client ⟨1, 6⟩, .client ⟨0, 5⟩]) := by
    decide +kernel
  obtain ⟨s, hrun, hs⟩ := Option.map_eq_some_iff.mp hend
  obtain ⟨hrx, hp⟩ := Prod.mk.inj hs
  refine ⟨s, hrun, hrx, hp, ?_⟩
  intro hmatch
  obtain ⟨p, hp', hn⟩ := hmatch.served 1 ⟨2, 7⟩ [⟨1, 6⟩] hrx
  rw [hp] at hp'
  cases hp'
  revert hn
  decide

/-! ## The last client -/

/-- The last client is not taken out while `rx_context`, having seen clients, is about to take
`rx_mutex`. -/
def joinTimely (s : RxState) : RxAct → Prop
  | .clntDestroy _ => s.numClients = 1 → s.rx.wantsMutex = false
  | _ => True

instance (s : RxState) : (a : RxAct) → Decidable (joinTimely s a)
  | .clntDestroy _ => inferInstanceAs (Decidable (_ → _))
  | .clntCreate _ | .join | .whileTest | .setup | .poll _ | .clear | .breakTest | .lockEvents
  | .visit | .unlock => .isTrue trivial

/-- `clnt_destroy` waits for the receive thread, which waits for `rx_mutex`. -/
def JoinHangs (s : RxState) : Prop := s.rxMutex = .destroyer ∧ s.rx.wantsMutex = true

/-- The steps that the two threads take by themselves; `poll` returns because of the byte in the
wake-up pipe. -/
def leftAlone (s : RxState) : RxAct → Prop
  | .clntCreate _ => False
  | .clntDestroy _ => False
  | .poll failed => failed = false ∧ 0 < s.pipe
  | _ => True

instance (s : RxState) : (a : RxAct) → Decidable (leftAlone s a)
  | .clntCreate _ => .isFalse id
  | .clntDestroy _ => .isFalse id
  | .poll _ => inferInstanceAs (Decidable (_ ∧ _))
  | .join | .whileTest | .setup | .clear | .breakTest | .lockEvents | .visit | .unlock =>
    .isTrue trivial

/-- How far the receive thread is from its end once there are no clients; `none` where it would
not get there. -/
def RxPc.toExit : RxPc → Option Nat
  | .polling => some 4
  | .polled _ => some 3
  | .breakTest _ => some 2
  | .whileTest => some 2
  | .exited => some 1
  | _ => none

/-- There is a byte in the pipe where the receive thread may need it. -/
def awake (s : RxState) : Prop :=
  s.rx = .polling ∨ (∃ failed, s.rx = .polled failed) → 0 < s.pipe

structure JoinInv (s : RxState) : Prop where
  count : s.numClients = s.clients.length
  owner : ∀ n rest, s.rx = .events n rest → s.rxMutex = .rx
  /-- The destroyer found no client left, and the receive thread will see that. -/
  joining : s.rxMutex = .destroyer → s.numClients = 0 ∧ s.rx.toExit ≠ none ∧ awake s
  /-- Without clients there is no receive thread, unless it is being joined. -/
  idle : s.numClients = 0 → s.rxMutex = .destroyer ∨ s.rx = .exited

/-- Only at the mutex and in the second loop the thread does not get on by itself. -/
theorem RxPc.toExit_ne_none {rx : RxPc} (hwants : rx.wantsMutex = false)
    (hevents : ∀ n rest, rx ≠ .events n rest) : rx.toExit ≠ none := by
  cases rx with
  | wantSetup => cases hwants
  | wantEvents => cases hwants
  | events n rest => exact absurd rfl (hevents n rest)
  | _ => exact nofun

/-- A step of `rx_context` to a place from which it still sees that there are no clients. -/
theorem JoinInv.moveRx {s s' : RxState} (hi : JoinInv s) (hclients : s'.clients = s.clients)
    (hnum : s'.numClients = s.numClients) (hmutex : s'.rxMutex = s.rxMutex)
    (hevents : ∀ n rest, s'.rx ≠ .events n rest)
    (hexit : s.rxMutex = .destroyer → s'.rx.toExit ≠ none ∧ awake s')
    (hidle : s.numClients = 0 → s.rxMutex = .destroyer ∨ s'.rx = .exited) : JoinInv s' where
  count := by
    rw [hnum, hclients]
    exact hi.count
  owner n rest h := absurd h (hevents n rest)
  joining h := by
    rw [hmutex] at h
    rw [hnum]
    exact ⟨(hi.joining h).1, hexit h⟩
  idle h := by
    rw [hnum] at h
    rw [hmutex]
    exact hidle h

/-- Where the receive thread is while it is joined. -/
theorem JoinInv.toExit {s : RxState} (hi : JoinInv s) (hm : s.rxMutex = .destroyer) :
    s.rx.toExit ≠ none := (hi.joining hm).2.1

/-- The steps of `rx_context` keep it. -/
theorem JoinInv.rxMove {s s' : RxState} (hi : JoinInv s) (h : RxMove s s') : JoinInv s' := by
  -- without clients and without a join there is no thread to take the step
  have hthread : s.rx ≠ .exited → s.numClients = 0 → s.rxMutex = .destroyer :=
    fun hrx hn => (hi.idle hn).resolve_right hrx
  have hclients : s.numClients ≠ 0 → ¬ s.rxMutex = .destroyer := fun hn hm => hn (hi.joining hm).1
  cases h with
  | stops hrx hn =>
    refine hi.moveRx rfl rfl rfl nofun ?_ (fun _ => .inr rfl)
    exact fun _ => ⟨nofun, by rintro (h | ⟨_, h⟩) <;> cases h⟩
  | goesOn hrx hn =>
    refine hi.moveRx rfl rfl rfl nofun ?_ (fun h => absurd h hn)
    exact fun hm => absurd hm (hclients hn)
  | setsUp w hrx hm =>
    have hne : s.rxMutex ≠ .destroyer := by
      intro h
      exact hi.toExit h (by rw [hrx]; rfl)
    exact hi.moveRx rfl rfl rfl nofun (fun h => absurd h hne)
      (fun h => .inl (hthread (by rw [hrx]; exact nofun) h))
  | polls w failed hrx =>
    refine hi.moveRx rfl rfl rfl nofun ?_ (fun h => .inl (hthread (by rw [hrx]; exact nofun) h))
    exact fun hm => ⟨nofun, fun _ => (hi.joining hm).2.2 (.inl hrx)⟩
  | clears failed hrx hp =>
    refine hi.moveRx rfl rfl rfl nofun ?_ (fun h => .inl (hthread (by rw [hrx]; exact nofun) h))
    exact fun _ => ⟨nofun, by rintro (h | ⟨_, h⟩) <;> cases h⟩
  | skips failed hrx =>
    refine hi.moveRx rfl rfl rfl nofun ?_ (fun h => .inl (hthread (by rw [hrx]; exact nofun) h))
    exact fun _ => ⟨nofun, by rintro (h | ⟨_, h⟩) <;> cases h⟩
  | breaks failed hrx hn =>
    refine hi.moveRx rfl rfl rfl nofun ?_ (fun _ => .inr rfl)
    exact fun _ => ⟨nofun, by rintro (h | ⟨_, h⟩) <;> cases h⟩
  | retries hrx hn =>
    refine hi.moveRx rfl rfl rfl nofun ?_ (fun h => absurd h hn)
    exact fun hm => absurd hm (hclients hn)
  | serves hrx hn =>
    refine hi.moveRx rfl rfl rfl nofun ?_ (fun h => absurd h hn)
    exact fun hm => absurd hm (hclients hn)
  | discards hrx hm hn =>
    have hne : s.rxMutex ≠ .destroyer := by
      intro h
      exact hi.toExit h (by rw [hrx]; rfl)
    exact hi.moveRx rfl rfl rfl nofun (fun h => absurd h hne)
      (fun h => .inl (hthread (by rw [hrx]; exact nofun) h))
  | enters hrx hm hn =>
    refine ⟨hi.count, fun _ _ _ => rfl, nofun, ?_⟩
    intro h
    have hjoin := hthread (by rw [hrx]; exact nofun) h
    rw [hm] at hjoin
    cases hjoin
  | visits n c rest hrx =>
    have hm := hi.owner n _ hrx
    refine ⟨hi.count, fun _ _ _ => hm, ?_, ?_⟩
    · intro h
      have hm' : s.rxMutex = .destroyer := h
      rw [hm] at hm'
      cases hm'
    · intro h
      exact .inl (hthread (by rw [hrx]; exact nofun) h)
  | leaves n hrx =>
    have hm := hi.owner n _ hrx
    refine ⟨hi.count, nofun, nofun, ?_⟩
    intro h
    have hjoin := hthread (by rw [hrx]; exact nofun) h
    rw [hm] at hjoin
    cases hjoin

/-- Every permitted step keeps the invariant. -/
theorem JoinInv.step {s s' : RxState} {a : RxAct} (hok : joinTimely s a) (h : rxStep s a = some s')
    (hi : JoinInv s) : JoinInv s' := by
  rcases rxStep_cases h with
    ⟨fd, rfl, hm, rfl⟩ | ⟨c, rfl, hm, hc, rfl⟩ | ⟨rfl, hm, hrx, rfl⟩ | hmove
  · have hfree : s.rxMutex ≠ .destroyer := by
      rw [hm]
      exact nofun
    unfold clntCreateConn
    by_cases hzero : s.numClients = 0
    · simp only [if_pos hzero]
      refine ⟨?_, nofun, fun h => absurd h hfree, nofun⟩
      show s.numClients + 1 = s.clients.length + 1
      rw [hi.count]
    · simp only [if_neg hzero]
      refine ⟨?_, hi.owner, fun h => absurd h hfree, nofun⟩
      show s.numClients + 1 = s.clients.length + 1
      rw [hi.count]
  · have hcount : s.numClients - 1 = (s.clients.erase c).length := by
      rw [List.length_erase_of_mem hc, hi.count]
    have hout : ∀ n rest, s.rx ≠ .events n rest := by
      intro n rest hrx
      have howner := hi.owner n rest hrx
      rw [hm] at howner
      cases howner
    have hpos : s.numClients ≠ 0 := by
      rw [hi.count]
      exact fun h => List.ne_nil_of_mem hc (List.length_eq_zero_iff.mp h)
    unfold clntDestroyConn
    by_cases hzero : s.numClients - 1 = 0
    · simp only [if_pos hzero]
      have hwants := hok (by omega)
      refine ⟨hcount, fun n rest h => absurd h (hout n rest), fun _ => ?_, fun _ => .inl rfl⟩
      exact ⟨hzero, RxPc.toExit_ne_none hwants hout, fun _ => Nat.succ_pos _⟩
    · simp only [if_neg hzero]
      refine ⟨hcount, hi.owner, ?_, fun h => absurd h hzero⟩
      intro h
      have hm' : s.rxMutex = .destroyer := h
      rw [hm] at hm'
      cases hm'
  · refine ⟨hi.count, ?_, nofun, fun _ => .inr hrx⟩
    intro n rest h
    have hrx' : s.rx = .events n rest := h
    rw [hrx] at hrx'
    cases hrx'
  · exact hi.rxMove hmove

theorem JoinInv.init : JoinInv rxInit := ⟨rfl, nofun, nofun, fun _ => .inr rfl⟩

/-- While it is joined, the receive thread has a step that brings it nearer to its end. -/
theorem JoinInv.nearer {s : RxState} (hi : JoinInv s) (hm : s.rxMutex = .destroyer)
    (hexit : s.rx ≠ .exited) :
    ∃ a s', restrict leftAlone rxStep s a = some s' ∧
      (JoinInv s' ∧ s'.rxMutex = .destroyer) ∧ s'.rx.toExit.getD 0 < s.rx.toExit.getD 0 := by
  obtain ⟨hnum, hplace, hawake⟩ := hi.joining hm
  -- a step of `rx_context` keeps the invariant and the destroyer's hold on the mutex
  have hstep : ∀ a s', leftAlone s a → rxContextStep s a = some s' → rxStep s a = some s' →
      s'.rxMutex = s.rxMutex → s'.rx.toExit.getD 0 < s.rx.toExit.getD 0 →
      ∃ a s', restrict leftAlone rxStep s a = some s' ∧
        (JoinInv s' ∧ s'.rxMutex = .destroyer) ∧ s'.rx.toExit.getD 0 < s.rx.toExit.getD 0 := by
    intro a s' halone hctx hst hmutex hless
    exact ⟨a, s', restrict_eq_some.mpr ⟨halone, hst⟩,
      ⟨hi.rxMove (rxContextStep_cases hctx), hmutex.trans hm⟩, hless⟩
  cases hrx : s.rx with
  | whileTest =>
    have hst : rxContextStep s .whileTest = some { s with rx := .exited } := by
      simp only [rxContextStep, hrx, hnum, if_true]
    exact hrx ▸ hstep .whileTest _ trivial hst hst rfl (by rw [hrx]; exact Nat.lt_succ_self _)
  | polling =>
    have hst : rxContextStep s (.poll false) =
        some { s with wakeRevents := 0 < s.pipe, rx := .polled false } := by
      rw [rxContextStep, if_pos hrx]
      rfl
    exact hrx ▸ hstep (.poll false) _ ⟨rfl, hawake (.inl hrx)⟩ hst hst rfl
      (by rw [hrx]; exact Nat.lt_succ_self _)
  | polled failed =>
    have hpipe : 0 < s.pipe := hawake (.inr ⟨failed, hrx⟩)
    by_cases hw : s.wakeRevents = true
    · have hst : rxContextStep s .clear =
          some { s with pipe := s.pipe - 1, rx := .breakTest failed } := by
        simp only [rxContextStep, hrx]
        rw [if_pos hw, if_neg (by omega)]
      exact hrx ▸ hstep .clear _ trivial hst hst rfl (by rw [hrx]; exact Nat.lt_succ_self _)
    · have hst : rxContextStep s .clear = some { s with rx := .breakTest failed } := by
        simp only [rxContextStep, hrx]
        rw [if_neg hw]
      exact hrx ▸ hstep .clear _ trivial hst hst rfl (by rw [hrx]; exact Nat.lt_succ_self _)
  | breakTest failed =>
    have hst : rxContextStep s .breakTest = some { s with rx := .exited } := by
      simp only [rxContextStep, hrx]
      rw [if_pos hnum]
    exact hrx ▸ hstep .breakTest _ trivial hst hst rfl (by rw [hrx]; exact Nat.lt_succ_self _)
  | exited => exact absurd hrx hexit
  | wantSetup =>
    rw [hrx] at hplace
    exact absurd rfl hplace
  | wantEvents =>
    rw [hrx] at hplace
    exact absurd rfl hplace
  | events n rest =>
    rw [hrx] at hplace
    exact absurd rfl hplace

/-- The join of the last `clnt_destroy` returns. -/
def JoinReturns (s : RxState) : Prop :=
  s.rxMutex = .destroyer →
    ∃ as s', exec (restrict leftAlone rxStep) s as = some s' ∧ s'.rxMutex = .free

/-- With the invariant the join returns. -/
theorem JoinInv.returns {s : RxState} (hi : JoinInv s) : JoinReturns s := by
  intro hm
  have hnearer : ∀ t, (JoinInv t ∧ t.rxMutex = .destroyer) →
      ¬ (t.rx = .exited ∧ t.rxMutex = .destroyer) →
      ∃ a t', restrict leftAlone rxStep t a = some t' ∧
        (JoinInv t' ∧ t'.rxMutex = .destroyer) ∧ t'.rx.toExit.getD 0 < t.rx.toExit.getD 0 :=
    fun t ht hgoal => ht.1.nearer ht.2 fun h => hgoal ⟨h, ht.2⟩
  obtain ⟨as, t, hrun, hexit, hm'⟩ :=
    reaches_of_measure (fun t => t.rx.toExit.getD 0) hnearer s ⟨hi, hm⟩
  have hjoin : restrict leftAlone rxStep t .join = some { t with rxMutex := .free } := by
    refine restrict_eq_some.mpr ⟨trivial, ?_⟩
    rw [rxStep, if_pos ⟨hm', hexit⟩]
  exact ⟨as ++ [.join], _, exec_snoc.mpr ⟨t, hrun, hjoin⟩, rfl⟩

/-- **The destroyer of the last client never waits for a receive thread that waits for
`rx_mutex`, and its join returns.** -/
theorem last_destroy_terminates {as : List RxAct} {s : RxState}
    (hrun : exec (restrict joinTimely rxStep) rxInit as = some s) :
    ¬ JoinHangs s ∧ JoinReturns s := by
  have hi : JoinInv s :=
    exec_restrict_invariant (fun _ _ _ hok h hi => hi.step hok h) JoinInv.init hrun
  refine ⟨?_, hi.returns⟩
  rintro ⟨hm, hwants⟩
  have hplace := hi.toExit hm
  cases hrx : s.rx with
  | wantSetup =>
    rw [hrx] at hplace
    exact hplace rfl
  | wantEvents =>
    rw [hrx] at hplace
    exact hplace rfl
  | _ =>
    rw [hrx] at hwants
    cases hwants

/-- The only client is destroyed while `rx_context` polls. -/
def destroyedInPoll : List RxAct := [
  .clntCreate 5, .whileTest, .setup, .clntDestroy ⟨0, 5⟩]

theorem last_destroy_terminates_in_poll :
    ∃ s, exec (restrict joinTimely rxStep) rxInit destroyedInPoll = some s ∧
      s.rxMutex = .destroyer ∧ ¬ JoinHangs s ∧ JoinReturns s := by
  have hend : (exec (restrict joinTimely rxStep) rxInit destroyedInPoll).map RxState.rxMutex =
      some .destroyer := by decide +kernel
  obtain ⟨s, hrun, hm⟩ := Option.map_eq_some_iff.mp hend
  exact ⟨s, hrun, hm, last_destroy_terminates hrun⟩

/-- The only client is destroyed right after `rx_context` has seen it. -/
def destroyedAfterTest : List RxAct := [.clntCreate 5, .whileTest, .clntDestroy ⟨0, 5⟩]

theorem last_destroy_hangs :
    ∃ s, exec rxStep rxInit destroyedAfterTest = some s ∧ JoinHangs s := by
  have hend : (exec rxStep rxInit destroyedAfterTest).map (fun s => (s.rxMutex, s.rx.wantsMutex)) =
      some (.destroyer, true) := by decide +kernel
  obtain ⟨s, hrun, hs⟩ := Option.map_eq_some_iff.mp hend
  exact ⟨s, hrun, Prod.mk.inj hs⟩

end Ancora.Rpc
