import Mathlib.Data.Fintype.Card
import Mathlib.Data.List.Perm.Basic
import Ancora.Lib.Machine

/-!
# The list of clients (clnt.c:678–859)

The first `clnt_create` opens the router, a descriptor of its own and the pipe that wakes up
`rx_context`, and starts that thread; the last `clnt_destroy` takes all of it back. A client
whose set-up fails has to give back what it has opened so far. It does after a failed
`xdr_init_common`, but after a failed `pipe` it closes the router only: the descriptor of the
new client stays open (`clnt_create_leaks`).

- `clntCreate`, `clntDestroy`: the two calls, with the outcome of each system call chosen by
  the environment.
- `Exact s log`: the list, the counter, the descriptors and the thread are what the calls so
  far ask for.
- **`clients_exact`**: after every run in which `pipe` does not fail they are, and a call of
  `clnt_create` that fails changes nothing.
-/

namespace Ancora.Rpc.Clnt

open Machine

/-- A descriptor: an `int` that is not negative. -/
abbrev Fd := Fin 2147483648

/-- A `CLIENT` of the list: its address and the descriptor in its `xdr`. -/
structure Entry where
  addr : Nat
  fd : Fd
  deriving DecidableEq, Repr

/-- The variables of clnt.c, the open descriptors and the number of receive threads. -/
structure Clients where
  clients : List Entry
  numClients : BitVec 32
  /-- `none` for a negative value. -/
  routerFd : Option Fd
  wakeupPipe : Fd × Fd
  openFds : List Fd
  rxThreads : Nat
  deriving DecidableEq, Repr

/-- As the process starts. -/
def Clients.init : Clients :=
  { clients := [], numClients := 0, routerFd := some 0, wakeupPipe := (0, 0), openFds := [],
    rxThreads := 0 }

/-- What the system calls of one `clnt_create` return; `none` is a failure. -/
structure CreateEnv where
  calloc : Option Nat
  rOpen : Option Fd
  xdrInit : Option Fd
  pipe : Option (Fd × Fd)
  deriving DecidableEq, Repr

variable {s s' : Clients} {env : CreateEnv}

def Clients.opened (s : Clients) (fd : Fd) : Clients := { s with openFds := fd :: s.openFds }

/-- `close`. -/
def Clients.close (s : Clients) (fd : Fd) : Clients := { s with openFds := s.openFds.erase fd }

/-- `r_close(router_fd)`. -/
def Clients.closeRouter (s : Clients) : Clients :=
  match s.routerFd with
  | some fd => s.close fd
  | none => s

/-- `router_fd = r_open("00000000:0")`. -/
def Clients.openRouter (s : Clients) : Option Fd → Clients
  | some fd => { s.opened fd with routerFd := some fd }
  | none => { s with routerFd := none }

/-- `pipe(wakeup_pipe)`. -/
def Clients.openPipe (s : Clients) (p : Fd × Fd) : Clients :=
  { (s.opened p.1).opened p.2 with wakeupPipe := p }

/-- The end of a successful `clnt_create`. -/
def Clients.add (s : Clients) (e : Entry) : Clients :=
  { s with
    clients := e :: s.clients
    numClients := s.numClients + 1
    rxThreads := if s.numClients = 0 then s.rxThreads + 1 else s.rxThreads }

/-- `clnt_create` once `rx_mutex` is taken and the router is open. -/
def createClient (s : Clients) (env : CreateEnv) (client : Nat) : Clients × Option Nat :=
  match env.xdrInit with
  | none => (if s.numClients = 0 then s.closeRouter else s, none)
  | some fd =>
    if s.numClients = 0 then
      match env.pipe with
      | none => ((s.opened fd).closeRouter, none)
      | some p => (((s.opened fd).openPipe p).add ⟨client, fd⟩, some client)
    else ((s.opened fd).add ⟨client, fd⟩, some client)

/-- `clnt_create`: the state it leaves and the address it returns. -/
def clntCreate (s : Clients) (env : CreateEnv) : Clients × Option Nat :=
  match env.calloc with
  | none => (s, none)
  | some client =>
    if s.numClients = 0 then
      match env.rOpen with
      | none => (s.openRouter none, none)
      | some fd => createClient (s.openRouter (some fd)) env client
    else createClient s env client

/-- The end of the thread and of what the clients share. -/
def Clients.shutDown (s : Clients) : Clients :=
  ({ (s.close s.wakeupPipe.1).close s.wakeupPipe.2 with rxThreads := s.rxThreads - 1 }).closeRouter

/-- Takes the client out of the list. -/
def Clients.remove (s : Clients) (client : Nat) : Clients :=
  { s with
    clients := s.clients.eraseP (·.addr = client)
    numClients := s.numClients - 1 }

/-- `clnt_destroy`; `none` when the pointer is neither NULL nor that of a client. -/
def clntDestroy (s : Clients) : Option Nat → Option Clients
  | none => some s
  | some client => (s.clients.find? (·.addr = client)).map fun e =>
    let s1 := s.remove client
    let s2 := if s1.numClients = 0 then s1.shutDown else s1
    s2.close e.fd

/-! ## Runs -/

/-- Addresses and descriptors that are handed out are not in use. -/
structure Fresh (s : Clients) (env : CreateEnv) : Prop where
  calloc : ∀ c ∈ env.calloc, ∀ e ∈ s.clients, e.addr ≠ c
  fds : (((env.rOpen.toList ++ env.xdrInit.toList) ++
    env.pipe.toList.flatMap fun p => [p.1, p.2]) ++ s.openFds).Nodup

instance (s : Clients) (env : CreateEnv) : Decidable (Fresh s env) :=
  decidable_of_iff (_ ∧ _) ⟨fun h => ⟨h.1, h.2⟩, fun h => ⟨h.calloc, h.fds⟩⟩

inductive ClntAct where
  | create (env : CreateEnv)
  | destroy (client : Option Nat)
  deriving DecidableEq, Repr

def clntStep (s : Clients) : ClntAct → Option Clients
  | .create env => if Fresh s env then some (clntCreate s env).1 else none
  | .destroy client => clntDestroy s client

/-- What the caller of the library sees. -/
inductive ClntEvent where
  | created (client : Nat)
  | destroyed (client : Nat)
  deriving DecidableEq, Repr

def clntObs (s : Clients) : ClntAct → Clients → List ClntEvent
  | .create env, _ => (clntCreate s env).2.toList.map .created
  | .destroy client, _ => client.toList.map .destroyed

/-- The clients that have been created and not yet destroyed, the newest first. -/
def live (log : List ClntEvent) : List Nat :=
  log.foldl (fun cs ev => match ev with
    | .created c => c :: cs
    | .destroyed c => cs.erase c) []

/-- The descriptors that a state with clients needs besides theirs. -/
def shared (s : Clients) : List Fd :=
  s.routerFd.toList ++ [s.wakeupPipe.1, s.wakeupPipe.2]

/-- The bookkeeping is what the calls so far ask for. -/
structure Exact (s : Clients) (log : List ClntEvent) : Prop where
  count : s.numClients.toNat = s.clients.length
  listed : s.clients.map (·.addr) = live log
  distinct : s.openFds.Nodup
  descriptors : s.openFds.Perm
    (s.clients.map (·.fd) ++ if 0 < s.clients.length then shared s else [])
  router : 0 < s.clients.length → s.routerFd.isSome = true
  thread : s.rxThreads = if 0 < s.clients.length then 1 else 0

/-- Some system call that `clnt_create` makes fails. -/
def fails (s : Clients) (env : CreateEnv) : Prop :=
  env.calloc = none ∨ (s.numClients = 0 ∧ env.rOpen = none) ∨ env.xdrInit = none ∨
    (s.numClients = 0 ∧ env.pipe = none)

/-- The condition on a step: `pipe` does not fail when `clnt_create` gets to it. -/
def pipeHolds (s : Clients) : ClntAct → Prop
  | .create env => s.numClients = 0 → env.calloc.isSome = true → env.rOpen.isSome = true →
    env.xdrInit.isSome = true → env.pipe.isSome = true
  | .destroy _ => True

instance (s : Clients) : (a : ClntAct) → Decidable (pipeHolds s a)
  | .create _ => inferInstanceAs (Decidable (_ → _ → _ → _ → _))
  | .destroy _ => .isTrue trivial

/-! ## What a call does -/

section Fields

variable (fd : Fd) (p : Fd × Fd) (e : Entry)

@[simp] theorem opened_numClients : (s.opened fd).numClients = s.numClients := rfl
@[simp] theorem openRouter_numClients (r : Option Fd) :
    (s.openRouter r).numClients = s.numClients := by
  cases r with
  | none => rfl
  | some _ => rfl

/-- Closing the router that has just been opened gives the descriptors back. -/
theorem openRouter_closeRouter :
    (s.openRouter (some fd)).closeRouter = { s with routerFd := some fd } := by
  simp [Clients.openRouter, Clients.closeRouter, Clients.close, Clients.opened]

end Fields

/-- Everything `clnt_create` can do when `pipe` does not fail: nothing (but to the variable
`router_fd`), to set up the first client, or to add another one. -/
theorem clntCreate_cases (hok : pipeHolds s (.create env)) :
    (∃ r, (s.numClients ≠ 0 → r = s.routerFd) ∧
      clntCreate s env = ({ s with routerFd := r }, none)) ∨
    (∃ c rfd fd p, env = ⟨some c, some rfd, some fd, some p⟩ ∧ s.numClients = 0 ∧
      clntCreate s env =
        ((((s.openRouter (some rfd)).opened fd).openPipe p).add ⟨c, fd⟩, some c)) ∨
    (∃ c fd, env.calloc = some c ∧ env.xdrInit = some fd ∧ s.numClients ≠ 0 ∧
      clntCreate s env = ((s.opened fd).add ⟨c, fd⟩, some c)) := by
  obtain ⟨calloc, rOpen, xdrInit, pipe⟩ := env
  cases calloc with
  | none => exact .inl ⟨s.routerFd, fun _ => rfl, rfl⟩
  | some c =>
    by_cases hn : s.numClients = 0
    · cases rOpen with
      | none =>
        refine .inl ⟨none, fun h => absurd hn h, ?_⟩
        simp [clntCreate, hn, Clients.openRouter]
      | some rfd =>
        cases xdrInit with
        | none =>
          refine .inl ⟨some rfd, fun h => absurd hn h, ?_⟩
          simp [clntCreate, hn, createClient, openRouter_closeRouter]
        | some fd =>
          cases pipe with
          | none => exact absurd (hok hn rfl rfl rfl) (by simp)
          | some p =>
            refine .inr (.inl ⟨c, rfd, fd, p, rfl, hn, ?_⟩)
            simp [clntCreate, hn, createClient]
    · cases xdrInit with
      | none =>
        refine .inl ⟨s.routerFd, fun _ => rfl, ?_⟩
        simp only [clntCreate, createClient, if_neg hn]
      | some fd =>
        refine .inr (.inr ⟨c, fd, rfl, rfl, hn, ?_⟩)
        simp only [clntCreate, createClient, if_neg hn]

/-- What a failing `clnt_create` must not change. -/
structure SameBooks (s s' : Clients) : Prop where
  clients : s'.clients = s.clients
  numClients : s'.numClients = s.numClients
  openFds : s'.openFds = s.openFds
  rxThreads : s'.rxThreads = s.rxThreads

theorem clntCreate_fails (hok : pipeHolds s (.create env)) (hf : fails s env) :
    (clntCreate s env).2 = none ∧ SameBooks s (clntCreate s env).1 := by
  obtain ⟨r, -, heq⟩ | ⟨c, rfd, fd, p, rfl, -, -⟩ | ⟨c, fd, hc, hx, hn, -⟩ := clntCreate_cases hok
  · rw [heq]
    exact ⟨rfl, rfl, rfl, rfl, rfl⟩
  · simp [fails] at hf
  · rcases hf with hf | ⟨hz, -⟩ | hf | ⟨hz, -⟩
    · rw [hc] at hf
      cases hf
    · exact absurd hz hn
    · rw [hx] at hf
      cases hf
    · exact absurd hz hn

/-- The list around the client that is destroyed. -/
theorem clntDestroy_cases {client : Option Nat} (h : clntDestroy s client = some s') :
    (client = none ∧ s' = s) ∨
    ∃ e l₁ l₂, client = some e.addr ∧ s.clients = l₁ ++ e :: l₂ ∧ (∀ x ∈ l₁, x.addr ≠ e.addr) ∧
      (s.remove e.addr).clients = l₁ ++ l₂ ∧
      s' = (if (s.remove e.addr).numClients = 0 then (s.remove e.addr).shutDown
        else s.remove e.addr).close e.fd := by
  cases client with
  | none => exact .inl ⟨rfl, by simpa [clntDestroy] using h.symm⟩
  | some c =>
    simp only [clntDestroy, Option.map_eq_some_iff, List.find?_eq_some_iff_append] at h
    obtain ⟨e, ⟨he, l₁, l₂, hl, hbefore⟩, rfl⟩ := h
    obtain rfl : e.addr = c := by simpa using he
    have hne : ∀ x ∈ l₁, x.addr ≠ e.addr := by
      intro x hx
      simpa using hbefore x hx
    refine .inr ⟨e, l₁, l₂, rfl, hl, hne, ?_, rfl⟩
    simp only [Clients.remove]
    rw [hl, List.eraseP_append_right _ (by simpa using hne), List.eraseP_cons_of_pos (by simp)]

/-! ## The invariant -/

theorem live_created (log : List ClntEvent) (c : Nat) :
    live (log ++ [.created c]) = c :: live log := by
  simp [live]

theorem live_destroyed (log : List ClntEvent) (c : Nat) :
    live (log ++ [.destroyed c]) = (live log).erase c := by
  simp [live]

variable {log : List ClntEvent}

theorem exact_init : Exact Clients.init [] :=
  ⟨rfl, rfl, List.nodup_nil, List.Perm.refl _, by simp [Clients.init], rfl⟩

theorem Exact.numClients_eq_zero (h : Exact s log) : s.numClients = 0 ↔ s.clients = [] := by
  rw [← List.length_eq_zero_iff, ← h.count]
  constructor
  · intro hz
    rw [hz]
    rfl
  · intro hz
    exact BitVec.eq_of_toNat_eq hz

/-- There are fewer descriptors than `num_clients` can count. -/
theorem Exact.length_lt (h : Exact s log) : s.clients.length + 1 < 4294967296 := by
  have hcard := h.distinct.length_le_card
  have hlen := h.descriptors.length_eq
  simp only [List.length_append, List.length_map] at hlen
  simp only [Fintype.card_fin] at hcard
  omega

/-- Counting one more client does not wrap. -/
theorem Exact.count_succ (h : Exact s log) :
    (s.numClients + 1).toNat = s.clients.length + 1 := by
  have hlt := h.length_lt
  rw [BitVec.toNat_add, h.count]
  exact Nat.mod_eq_of_lt hlt

/-- Counting one client less does not wrap either. -/
theorem Exact.count_pred (h : Exact s log) (hpos : 0 < s.clients.length) :
    (s.numClients - 1).toNat = s.clients.length - 1 := by
  have hlt := h.length_lt
  have hone : (1 : BitVec 32).toNat = 1 := rfl
  rw [BitVec.toNat_sub, h.count, hone]
  omega

theorem exact_first {c : Nat} {rfd fd : Fd} {p : Fd × Fd} (h : Exact s log)
    (hn : s.numClients = 0) (hfresh : Fresh s ⟨some c, some rfd, some fd, some p⟩) :
    Exact ((((s.openRouter (some rfd)).opened fd).openPipe p).add ⟨c, fd⟩)
      (log ++ [.created c]) := by
  have hnil := h.numClients_eq_zero.mp hn
  have hopen : s.openFds = [] := by
    have hperm := h.descriptors
    rw [hnil] at hperm
    simpa using hperm
  have hfds := hfresh.fds
  simp only [hopen, Option.toList_some] at hfds
  refine ⟨?_, ?_, ?_, ?_, ?_, ?_⟩
  · simpa [Clients.add, Clients.openPipe, Clients.opened, Clients.openRouter] using h.count_succ
  · simpa [Clients.add, Clients.openPipe, Clients.opened, Clients.openRouter, live_created]
      using h.listed
  · have hperm : [p.2, p.1, fd, rfd].Perm [rfd, fd, p.1, p.2] :=
      List.reverse_perm [rfd, fd, p.1, p.2]
    simp only [Clients.add, Clients.openPipe, Clients.opened, Clients.openRouter, hopen]
    exact hperm.nodup_iff.mpr (by simpa using hfds)
  · simp only [Clients.add, Clients.openPipe, Clients.opened, Clients.openRouter, hopen, hnil,
      shared]
    exact (List.reverse_perm [rfd, fd, p.1, p.2]).trans (List.Perm.swap _ _ _)
  · intro _
    rfl
  · have hth := h.thread
    rw [hnil] at hth
    simpa [Clients.add, Clients.openPipe, Clients.opened, Clients.openRouter, hn] using hth

theorem add_pos {e : Entry} : 0 < (s.add e).clients.length := Nat.succ_pos _

theorem exact_another {c : Nat} {fd : Fd} (h : Exact s log) (hn : s.numClients ≠ 0)
    (hfd : fd ∉ s.openFds) :
    Exact ((s.opened fd).add ⟨c, fd⟩) (log ++ [.created c]) := by
  have hpos : 0 < s.clients.length := by
    rw [List.length_pos_iff]
    exact fun hnil => hn (h.numClients_eq_zero.mpr hnil)
  have hperm := h.descriptors
  have hth := h.thread
  rw [if_pos hpos] at hperm hth
  refine ⟨?_, ?_, ?_, ?_, ?_, ?_⟩
  · simpa [Clients.add, Clients.opened] using h.count_succ
  · simpa [Clients.add, Clients.opened, live_created] using h.listed
  · exact List.nodup_cons.mpr ⟨hfd, h.distinct⟩
  · rw [if_pos add_pos]
    exact hperm.cons fd
  · exact fun _ => h.router hpos
  · rw [if_pos add_pos]
    exact (if_neg hn).trans hth

/-- Closing a descriptor leaves the others. -/
theorem erase_perm {fds rest : List Fd} {fd : Fd} (h : fds.Perm (fd :: rest)) :
    (fds.erase fd).Perm rest := by
  have herase := h.erase fd
  rwa [List.erase_cons_head] at herase

/-- The descriptors of what the clients share, and of the last client, are closed. -/
theorem exact_last {e : Entry} (h : Exact s log) (hs : s.clients = [e]) :
    Exact ((s.remove e.addr).shutDown.close e.fd) (log ++ [.destroyed e.addr]) := by
  obtain ⟨rfd, hr⟩ := Option.isSome_iff_exists.mp (h.router (by simp [hs]))
  have hone : s.numClients = 1 := by
    apply BitVec.eq_of_toNat_eq
    rw [h.count, hs]
    rfl
  have hperm : s.openFds.Perm [e.fd, rfd, s.wakeupPipe.1, s.wakeupPipe.2] := by
    simpa [hs, shared, hr] using h.descriptors
  have hback : s.openFds.Perm [s.wakeupPipe.1, s.wakeupPipe.2, rfd, e.fd] :=
    (hperm.trans (List.reverse_perm _).symm).trans (List.Perm.swap _ _ _)
  have hclosed : ((s.remove e.addr).shutDown.close e.fd).openFds = [] := by
    have hnone := erase_perm (erase_perm (erase_perm (erase_perm hback)))
    simpa [Clients.shutDown, Clients.closeRouter, Clients.close, Clients.remove, hr]
      using hnone.eq_nil
  have hgone : ((s.remove e.addr).shutDown.close e.fd).clients = [] := by
    simp [Clients.shutDown, Clients.closeRouter, Clients.close, Clients.remove, hr, hs]
  have hth := h.thread
  rw [hs] at hth
  refine ⟨?_, ?_, ?_, ?_, ?_, ?_⟩
  · simp [Clients.shutDown, Clients.closeRouter, Clients.close, Clients.remove, hr, hs, hone]
  · rw [hgone, live_destroyed, ← h.listed, hs]
    simp
  · rw [hclosed]
    exact List.nodup_nil
  · rw [hclosed, hgone]
    exact List.Perm.refl _
  · rw [hgone]
    intro hlt
    cases hlt
  · rw [hgone]
    simp [Clients.shutDown, Clients.closeRouter, Clients.close, Clients.remove, hr, hth]

/-- One of several clients goes, and with it its descriptor. -/
theorem exact_removed {e : Entry} {l₁ l₂ : List Entry} (h : Exact s log)
    (hs : s.clients = l₁ ++ e :: l₂) (hne : ∀ x ∈ l₁, x.addr ≠ e.addr)
    (hleft : (s.remove e.addr).clients = l₁ ++ l₂) (hsome : l₁ ++ l₂ ≠ []) :
    Exact ((s.remove e.addr).close e.fd) (log ++ [.destroyed e.addr]) := by
  have hpos : 0 < (l₁ ++ l₂).length := List.length_pos_iff.mpr hsome
  have hwas : 0 < s.clients.length := by
    rw [hs, List.length_append, List.length_cons]
    omega
  have hgone : ((s.remove e.addr).close e.fd).clients = l₁ ++ l₂ := hleft
  have hperm := h.descriptors
  have hth := h.thread
  rw [if_pos hwas] at hperm hth
  refine ⟨?_, ?_, ?_, ?_, ?_, ?_⟩
  · rw [hgone]
    refine (h.count_pred hwas).trans ?_
    rw [hs, List.length_append, List.length_cons, List.length_append]
    omega
  · have hbefore : e.addr ∉ l₁.map (·.addr) := by
      intro hmem
      obtain ⟨x, hx, heq⟩ := List.mem_map.mp hmem
      exact hne x hx heq
    rw [hgone, live_destroyed, ← h.listed, hs, List.map_append, List.map_append, List.map_cons,
      List.erase_append_right _ hbefore, List.erase_cons_head]
  · exact h.distinct.erase _
  · rw [hgone, if_pos hpos]
    apply erase_perm
    have hmid : (s.clients.map (·.fd) ++ shared s).Perm
        (e.fd :: ((l₁ ++ l₂).map (·.fd) ++ shared s)) := by
      rw [hs]
      simp
    exact hperm.trans hmid
  · exact fun _ => h.router hwas
  · rw [hgone, if_pos hpos]
    exact hth

/-- **Step lemma**: every call keeps the bookkeeping exact. -/
theorem exact_step {a : ClntAct} (hok : pipeHolds s a) (hstep : clntStep s a = some s')
    (h : Exact s log) : Exact s' (log ++ clntObs s a s') := by
  cases a with
  | create env =>
    simp only [clntStep] at hstep
    split at hstep
    · rename_i hfresh
      obtain rfl := Option.some.inj hstep
      simp only [clntObs]
      obtain ⟨r, hr, heq⟩ | ⟨c, rfd, fd, p, rfl, hn, heq⟩ | ⟨c, fd, hc, hx, hn, heq⟩ :=
        clntCreate_cases hok
      · rw [heq]
        have hshared : 0 < s.clients.length → r = s.routerFd := by
          intro hpos
          refine hr fun hz => ?_
          rw [h.numClients_eq_zero.mp hz] at hpos
          cases hpos
        refine ⟨h.count, by simpa using h.listed, h.distinct, ?_, fun hpos => ?_, h.thread⟩
        · by_cases hpos : 0 < s.clients.length
          · rw [hshared hpos]
            exact h.descriptors
          · have hperm := h.descriptors
            rw [if_neg hpos] at hperm ⊢
            exact hperm
        · simp only [hshared hpos]
          exact h.router hpos
      · rw [heq]
        exact exact_first h hn hfresh
      · rw [heq]
        refine exact_another h hn fun hmem => ?_
        have hfds := hfresh.fds
        rw [hx, List.nodup_append] at hfds
        exact hfds.2.2 fd (by simp) fd hmem rfl
    · cases hstep
  | destroy client =>
    obtain ⟨rfl, rfl⟩ | ⟨e, l₁, l₂, rfl, hs, hne, hleft, rfl⟩ := clntDestroy_cases hstep
    · simpa [clntObs] using h
    · have hnum : (s.remove e.addr).numClients = 0 ↔ l₁ ++ l₂ = [] := by
        have hwas : s.clients.length = (l₁ ++ l₂).length + 1 := by
          rw [hs, List.length_append, List.length_cons, List.length_append]
          omega
        have hpred := h.count_pred (by omega)
        rw [← List.length_eq_zero_iff]
        constructor
        · intro hz
          have hz' : (s.numClients - 1).toNat = 0 := congrArg BitVec.toNat hz
          omega
        · intro hz
          apply BitVec.eq_of_toNat_eq
          refine hpred.trans ?_
          rw [hwas, hz]
          rfl
      by_cases hlast : l₁ ++ l₂ = []
      · rw [if_pos (hnum.mpr hlast)]
        obtain ⟨rfl, rfl⟩ := List.append_eq_nil_iff.mp hlast
        exact exact_last h hs
      · rw [if_neg fun hz => hlast (hnum.mp hz)]
        exact exact_removed h hs hne hleft hlast

/-- After every run whose calls of `pipe` succeed the bookkeeping is exact, and a call of
`clnt_create` that fails then returns NULL and changes nothing. -/
theorem clients_exact {as : List ClntAct}
    (hrun : exec (restrict (fun p a => pipeHolds p.1 a) (observe clntObs clntStep))
      (Clients.init, []) as = some (s, log)) :
    Exact s log ∧
      ∀ env, Fresh s env → pipeHolds s (.create env) → fails s env →
        (clntCreate s env).2 = none ∧ SameBooks s (clntCreate s env).1 := by
  have hinv : Exact s log := by
    refine observe_invariant ?_ exact_init hrun
    intro s log a s' hok hstep h
    exact exact_step hok hstep h
  exact ⟨hinv, fun _ _ hok hf => clntCreate_fails hok hf⟩

/-- A client, one whose `xdr_init_common` fails, another one, and the first is destroyed. -/
theorem clients_exact_two :
    Exact ⟨[⟨16, 6⟩], 1, some 2, (4, 5), [6, 5, 4, 2], 1⟩
      [.created 8, .created 16, .destroyed 8] := by
  have hrun : exec (restrict (fun p a => pipeHolds p.1 a) (observe clntObs clntStep))
      (Clients.init, [])
      [.create ⟨some 8, some 2, some 3, some (4, 5)⟩, .create ⟨some 16, none, none, none⟩,
        .create ⟨some 16, none, some 6, none⟩, .destroy (some 8)] =
      some (⟨[⟨16, 6⟩], 1, some 2, (4, 5), [6, 5, 4, 2], 1⟩,
        [.created 8, .created 16, .destroyed 8]) := by decide
  exact (clients_exact hrun).1

/-- A first client whose `pipe` fails leaves its descriptor open. -/
theorem clnt_create_leaks :
    ∃ s log, exec (observe clntObs clntStep) (Clients.init, [])
        [.create ⟨some 8, some 2, some 3, none⟩] = some (s, log) ∧
      s.openFds = [3] ∧ s.clients = [] ∧ ¬ Exact s log := by
  refine ⟨_, _, rfl, rfl, rfl, fun h => ?_⟩
  have hperm := h.descriptors
  exact absurd hperm.length_eq (by decide)

end Ancora.Rpc.Clnt
