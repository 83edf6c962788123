import Mathlib.Data.List.Nodup
import Ancora.Lib.Machine

/-!
# The registered services (svc.c:134–402, clnt.c:125–208)

The servers of a transport and the callback clients share one list. Only the former have an XDR
of their own, and `svc_unregister` tells the two apart by that; but while `cb_context`
dispatches a CALL to a callback client it puts the XDR of the client into its entry. A thread
for the servers is started whenever `num_servers` is 1 after a registration, also after one of
a callback client, and also when the thread before has not noticed yet that there were none.

- `xprtStep`: registrations, the threads of the servers and the callback threads, interleaved.
  An entry that is freed while a callback thread has found it may be given to a new one.
- `RegistryOk`: the keys are unique, the counters are right, and one thread at most runs.
- `settledStep`: nobody unregisters an entry that a callback thread has in hand, a CALL that
  comes in on a client is for a callback client, and a registration starts no second thread.
- **`registry_ok`**: every run of such steps keeps the registry right. A server and its
  callback client registered one after the other start two threads (`two_svc_threads`).
-/

namespace Ancora.Rpc.Svc

open Machine

/-- A `registered_server`, with its address and whether `xdr` is other than NULL. -/
structure Server where
  addr : Nat
  prog : BitVec 32
  vers : BitVec 32
  dispatch : Nat
  xdr : Bool
  deriving DecidableEq, Repr

/-- `prog & 0x01000000`. -/
def isCallback (prog : BitVec 32) : Bool := prog &&& 0x01000000#32 != 0

def Server.key (e : Server) : BitVec 32 × BitVec 32 := (e.prog, e.vers)

/-- A thread in `svc_context`: at the test of `num_servers`, or in the body of the loop. -/
inductive SvcThread where
  | test
  | body
  deriving DecidableEq, Repr

/-- A thread in `cb_context` with the entry it has found. -/
inductive CbThread where
  | found (addr : Nat)
  /-- The XDR of the client is in the entry. -/
  | dispatching (addr : Nat)
  deriving DecidableEq, Repr

def CbThread.addr : CbThread → Nat
  | .found addr => addr
  | .dispatching addr => addr

structure Xprt where
  servers : List Server
  numCbServers : Int
  numServers : Int
  threads : List SvcThread
  callbacks : List CbThread
  deriving DecidableEq, Repr

def Xprt.init : Xprt :=
  { servers := [], numCbServers := 0, numServers := 0, threads := [], callbacks := [] }

/-- `svc_find_nosync`. -/
def svcFind (s : Xprt) (prog vers : BitVec 32) : Option Server :=
  s.servers.find? fun e => e.prog == prog && e.vers == vers

/-- What `svc_register` gets from the system: the address of the new entry, and whether
`xdr_init_common` and the registration with the kernel succeed. -/
structure RegEnv where
  addr : Nat
  xdrInit : Bool
  rControl : Bool
  deriving DecidableEq, Repr

/-- The part of `svc_register` that adds the entry. -/
def Xprt.add (s : Xprt) (e : Server) : Xprt :=
  let numServers := if e.xdr then s.numServers + 1 else s.numServers
  { s with
    servers := e :: s.servers
    numServers := numServers
    numCbServers := if e.xdr then s.numCbServers else s.numCbServers + 1
    threads := if numServers = 1 then .test :: s.threads else s.threads }

/-- `svc_register`: the registry it leaves and what it returns. -/
def svcRegister (s : Xprt) (prog vers : BitVec 32) (dispatch : Nat) (env : RegEnv) :
    Xprt × Bool :=
  match svcFind s prog vers with
  | some svc => (s, svc.dispatch == dispatch)
  | none =>
    if isCallback prog then (s.add ⟨env.addr, prog, vers, dispatch, false⟩, true)
    else if !env.xdrInit then (s, false)
    else if !env.rControl then (s, false)
    else (s.add ⟨env.addr, prog, vers, dispatch, true⟩, true)

/-- `svc_unregister`. -/
def svcUnregister (s : Xprt) (prog vers : BitVec 32) : Xprt :=
  match svcFind s prog vers with
  | some found =>
    { s with
      servers := s.servers.eraseP fun e => e.prog == prog && e.vers == vers
      numServers := if found.xdr then s.numServers - 1 else s.numServers
      numCbServers := if found.xdr then s.numCbServers else s.numCbServers - 1 }
  | none => s

/-- `*svc_xdr = …`, through a pointer to the entry at `addr`. -/
def Xprt.setXdr (s : Xprt) (addr : Nat) (xdr : Bool) : Xprt :=
  { s with servers := s.servers.map fun e => if e.addr = addr then { e with xdr := xdr } else e }

inductive XprtAct where
  | register (prog vers : BitVec 32) (dispatch : Nat) (env : RegEnv)
  | unregister (prog vers : BitVec 32)
  /-- A thread tests `num_servers`, and ends if it is 0. -/
  | svcTest
  | svcLoop
  /-- A callback thread looks up the entry for a CALL. -/
  | cbFind (prog vers : BitVec 32)
  | cbTransplant (addr : Nat)
  /-- A length in the XDR of the client is negative. -/
  | cbBail (addr : Nat)
  /-- The CALL has been dispatched. -/
  | cbEnd (addr : Nat)
  deriving DecidableEq, Repr

def xprtStep (s : Xprt) : XprtAct → Option Xprt
  | .register prog vers dispatch env =>
    if ∀ e ∈ s.servers, e.addr ≠ env.addr then some (svcRegister s prog vers dispatch env).1
    else none
  | .unregister prog vers => some (svcUnregister s prog vers)
  | .svcTest =>
    if .test ∈ s.threads then
      some { s with
        threads := if s.numServers = 0 then s.threads.erase .test
          else .body :: s.threads.erase .test }
    else none
  | .svcLoop =>
    if .body ∈ s.threads then some { s with threads := .test :: s.threads.erase .body } else none
  | .cbFind prog vers =>
    some (match svcFind s prog vers with
      | some svc => { s with callbacks := .found svc.addr :: s.callbacks }
      | none => s)
  | .cbTransplant addr =>
    if .found addr ∈ s.callbacks then
      some { s.setXdr addr true with
        callbacks := .dispatching addr :: s.callbacks.erase (.found addr) }
    else none
  | .cbBail addr =>
    if .found addr ∈ s.callbacks then
      some { s with callbacks := s.callbacks.erase (.found addr) }
    else none
  | .cbEnd addr =>
    if .dispatching addr ∈ s.callbacks then
      some { s.setXdr addr false with callbacks := s.callbacks.erase (.dispatching addr) }
    else none

/-! ## What is to hold -/

structure RegistryOk (s : Xprt) : Prop where
  keys : (s.servers.map Server.key).Nodup
  cbServers : s.numCbServers = s.servers.countP fun e => isCallback e.prog
  servers : s.numServers = s.servers.countP fun e => !isCallback e.prog
  thread : s.threads.length ≤ 1

/-- A registration that adds an entry after which `num_servers` is 1. -/
def startsThread (s : Xprt) (prog vers : BitVec 32) (env : RegEnv) : Prop :=
  svcFind s prog vers = none ∧
    if isCallback prog then s.numServers = 1
    else env.xdrInit = true ∧ env.rControl = true ∧ s.numServers = 0

instance (s : Xprt) (prog vers : BitVec 32) (env : RegEnv) :
    Decidable (startsThread s prog vers env) :=
  inferInstanceAs (Decidable (_ ∧ _))

/-- The condition on a step. -/
def settledStep (s : Xprt) : XprtAct → Prop
  | .register prog vers _ env => startsThread s prog vers env → s.threads = []
  | .unregister prog vers =>
    ∀ e ∈ svcFind s prog vers, ∀ t ∈ s.callbacks, t.addr ≠ e.addr
  | .cbFind prog vers => (svcFind s prog vers).isSome = true → isCallback prog = true
  | .svcTest | .svcLoop | .cbTransplant _ | .cbBail _ | .cbEnd _ => True

instance (s : Xprt) : (a : XprtAct) → Decidable (settledStep s a)
  | .register _ _ _ _ => inferInstanceAs (Decidable (_ → _))
  | .unregister prog vers => inferInstanceAs (Decidable (∀ e ∈ svcFind s prog vers, _))
  | .cbFind _ _ => inferInstanceAs (Decidable (_ → _))
  | .svcTest | .svcLoop | .cbTransplant _ | .cbBail _ | .cbEnd _ => .isTrue trivial

/-! ## The invariant -/

variable {s s' : Xprt} {a : XprtAct} {e : Server} {prog vers : BitVec 32}

structure XprtInv (s : Xprt) : Prop where
  ok : RegistryOk s
  addrs : (s.servers.map Server.addr).Nodup
  /-- A server keeps its XDR. -/
  own : ∀ e ∈ s.servers, isCallback e.prog = false → e.xdr = true
  /-- A callback client has one during a dispatch only. -/
  lent : ∀ e ∈ s.servers, isCallback e.prog = true → e.xdr = true →
    .dispatching e.addr ∈ s.callbacks
  /-- A callback thread has a callback client in hand. -/
  live : ∀ t ∈ s.callbacks, ∃ e ∈ s.servers, e.addr = t.addr ∧ isCallback e.prog = true

theorem xprtInv_init : XprtInv .init where
  ok := ⟨List.nodup_nil, rfl, rfl, Nat.zero_le _⟩
  addrs := List.nodup_nil
  own := fun e he => by cases he
  lent := fun e he => by cases he
  live := fun t ht => by cases ht

theorem svcFind_some (h : svcFind s prog vers = some e) :
    e ∈ s.servers ∧ e.prog = prog ∧ e.vers = vers := by
  have hpos := List.find?_some h
  simp only [Bool.and_eq_true, beq_iff_eq] at hpos
  exact ⟨List.mem_of_find?_eq_some h, hpos.1, hpos.2⟩

theorem svcFind_none (h : svcFind s prog vers = none) :
    (prog, vers) ∉ s.servers.map Server.key := by
  intro hmem
  obtain ⟨e, he, hkey⟩ := List.mem_map.mp hmem
  obtain ⟨rfl, rfl⟩ := Prod.mk.inj hkey
  have hno := List.find?_eq_none.mp h e he
  simp at hno

/-- Two entries are not at one address. -/
theorem XprtInv.eq_of_addr (hs : XprtInv s) {e e' : Server} (he : e ∈ s.servers)
    (he' : e' ∈ s.servers) (h : e.addr = e'.addr) : e = e' :=
  List.inj_on_of_nodup_map hs.addrs he he' h

/-- What is at an address that a callback thread has in hand is a callback client. -/
theorem XprtInv.held (hs : XprtInv s) {t : CbThread} (ht : t ∈ s.callbacks) (he : e ∈ s.servers)
    (h : e.addr = t.addr) : isCallback e.prog = true := by
  obtain ⟨e', he', haddr, hcb⟩ := hs.live t ht
  rw [hs.eq_of_addr he he' (h.trans haddr.symm)]
  exact hcb

/-! ### Registrations -/

theorem xprtInv_add (hs : XprtInv s) (hnew : e.key ∉ s.servers.map Server.key)
    (haddr : ∀ e' ∈ s.servers, e'.addr ≠ e.addr) (hxdr : e.xdr = !isCallback e.prog)
    (hthread : (if e.xdr then s.numServers + 1 else s.numServers) = 1 → s.threads = []) :
    XprtInv (s.add e) := by
  refine ⟨⟨List.nodup_cons.mpr ⟨hnew, hs.ok.keys⟩, ?_, ?_, ?_⟩,
    List.nodup_cons.mpr ⟨?_, hs.addrs⟩, ?_, ?_, ?_⟩
  · have hcount := hs.ok.cbServers
    cases hcb : isCallback e.prog with
    | false => simp [Xprt.add, hxdr, hcb, hcount]
    | true => simp [Xprt.add, hxdr, hcb, hcount]
  · have hcount := hs.ok.servers
    cases hcb : isCallback e.prog with
    | false => simp [Xprt.add, hxdr, hcb, hcount]
    | true => simp [Xprt.add, hxdr, hcb, hcount]
  · by_cases hone : (if e.xdr then s.numServers + 1 else s.numServers) = 1
    · have hadd : (s.add e).threads = .test :: s.threads := if_pos hone
      rw [hadd, hthread hone]
      exact Nat.le_refl _
    · have hadd : (s.add e).threads = s.threads := if_neg hone
      rw [hadd]
      exact hs.ok.thread
  · intro hmem
    obtain ⟨e', he', heq⟩ := List.mem_map.mp hmem
    exact haddr e' he' heq
  · intro e' he' hcb
    rcases List.mem_cons.mp he' with rfl | hold
    · rw [hxdr, hcb]
      rfl
    · exact hs.own e' hold hcb
  · intro e' he' hcb hx
    rcases List.mem_cons.mp he' with rfl | hold
    · rw [hxdr, hcb] at hx
      cases hx
    · exact hs.lent e' hold hcb hx
  · intro t ht
    obtain ⟨e', he', heq⟩ := hs.live t ht
    exact ⟨e', List.mem_cons_of_mem e he', heq⟩

theorem xprtInv_register {dispatch : Nat} {env : RegEnv} (hs : XprtInv s)
    (haddr : ∀ e ∈ s.servers, e.addr ≠ env.addr)
    (hok : startsThread s prog vers env → s.threads = []) :
    XprtInv (svcRegister s prog vers dispatch env).1 := by
  unfold svcRegister
  split
  · exact hs
  · rename_i hnone
    have hnew := svcFind_none hnone
    split
    · rename_i hcb
      refine xprtInv_add hs hnew haddr ?_ fun hone => hok ⟨hnone, ?_⟩
      · simp [hcb]
      · rw [if_pos hcb]
        exact hone
    · rename_i hcb
      split
      · exact hs
      · rename_i hinit
        split
        · exact hs
        · rename_i hcontrol
          refine xprtInv_add hs hnew haddr ?_ fun hone => hok ⟨hnone, ?_⟩
          · simp [hcb]
          · rw [if_neg hcb]
            rw [if_pos rfl] at hone
            exact ⟨by simpa using hinit, by simpa using hcontrol, by omega⟩

/-- A registration that fails changes nothing. -/
theorem svcRegister_false {dispatch : Nat} {env : RegEnv}
    (h : (svcRegister s prog vers dispatch env).2 = false) :
    (svcRegister s prog vers dispatch env).1 = s := by
  unfold svcRegister at h ⊢
  split
  · rfl
  · rename_i hnone
    simp only [hnone] at h
    split
    · rename_i hcb
      simp [hcb] at h
    · rename_i hcb
      split
      · rfl
      · rename_i hinit
        split
        · rfl
        · rename_i hcontrol
          simp [hcb, hinit, hcontrol] at h

theorem xprtInv_unregister (hs : XprtInv s)
    (hok : ∀ e ∈ svcFind s prog vers, ∀ t ∈ s.callbacks, t.addr ≠ e.addr) :
    XprtInv (svcUnregister s prog vers) := by
  unfold svcUnregister
  split
  · rename_i e hfind
    obtain ⟨he, rfl, rfl⟩ := svcFind_some hfind
    have hfree := hok e hfind
    -- The entry is not in hand, so its XDR tells what it is.
    have hxdr : e.xdr = !isCallback e.prog := by
      cases hcb : isCallback e.prog with
      | false => exact hs.own e he hcb
      | true =>
        cases hx : e.xdr with
        | false => rfl
        | true => exact absurd rfl (hfree _ (hs.lent e he hcb hx))
    obtain ⟨hpos, l₁, l₂, hl, hbefore⟩ := List.find?_eq_some_iff_append.mp hfind
    have hleft : s.servers.eraseP (fun e' => e'.prog == e.prog && e'.vers == e.vers) =
        l₁ ++ l₂ := by
      have hskip : ∀ e' ∈ l₁, ¬ (e'.prog == e.prog && e'.vers == e.vers) = true := by
        intro e' he'
        rw [Bool.not_eq_true]
        simpa only [Bool.not_eq_true'] using hbefore e' he'
      rw [hl, List.eraseP_append_right _ hskip, List.eraseP_cons, hpos]
      rfl
    have hsub : (l₁ ++ l₂).Sublist s.servers := by
      rw [hl]
      exact (List.Sublist.refl l₁).append (List.sublist_cons_self e l₂)
    have hmem : ∀ e' ∈ s.servers, e' = e ∨ e' ∈ l₁ ++ l₂ := by
      intro e' he'
      rw [hl] at he'
      simp only [List.mem_append, List.mem_cons] at he' ⊢
      tauto
    have hcount : ∀ p : Server → Bool,
        (s.servers.countP p : Int) = (l₁ ++ l₂).countP p + if p e then 1 else 0 := by
      intro p
      rw [hl, List.countP_append, List.countP_cons, List.countP_append]
      split
      · push_cast
        omega
      · push_cast
        omega
    rw [hleft]
    refine ⟨⟨hs.ok.keys.sublist (hsub.map _), ?_, ?_, hs.ok.thread⟩, hs.addrs.sublist (hsub.map _),
      fun e' he' => hs.own e' (hsub.subset he'), fun e' he' => hs.lent e' (hsub.subset he'), ?_⟩
    · dsimp only
      rw [hs.ok.cbServers, hcount, hxdr]
      cases hcb : isCallback e.prog with
      | false => simp
      | true => simp
    · dsimp only
      rw [hs.ok.servers, hcount, hxdr]
      cases hcb : isCallback e.prog with
      | false => simp
      | true => simp
    · intro t ht
      obtain ⟨e', he', haddr, hcb⟩ := hs.live t ht
      rcases hmem e' he' with rfl | hother
      · exact absurd haddr.symm (hfree t ht)
      · exact ⟨e', hother, haddr, hcb⟩
  · exact hs

/-! ### Dispatches -/

theorem setXdr_mem {addr : Nat} {xdr : Bool} {e' : Server}
    (h : e' ∈ (s.setXdr addr xdr).servers) :
    ∃ e ∈ s.servers, e'.addr = e.addr ∧ e'.prog = e.prog ∧
      e'.xdr = if e.addr = addr then xdr else e.xdr := by
  obtain ⟨e, he, rfl⟩ := List.mem_map.mp h
  refine ⟨e, he, ?_⟩
  split
  · exact ⟨rfl, rfl, rfl⟩
  · exact ⟨rfl, rfl, rfl⟩

/-- Putting an XDR into an entry, or NULL, leaves the rest of the registry alone. -/
theorem setXdr_registryOk {addr : Nat} {xdr : Bool} (h : RegistryOk s) :
    RegistryOk (s.setXdr addr xdr) := by
  have hkey : (s.setXdr addr xdr).servers.map Server.key = s.servers.map Server.key := by
    simp only [Xprt.setXdr, List.map_map]
    refine List.map_congr_left fun e _ => ?_
    dsimp only [Function.comp]
    split
    · rfl
    · rfl
  have hcount : ∀ q : BitVec 32 → Bool,
      (s.setXdr addr xdr).servers.countP (fun e => q e.prog) =
        s.servers.countP fun e => q e.prog := by
    intro q
    simp only [Xprt.setXdr, List.countP_map]
    refine List.countP_congr fun e _ => ?_
    dsimp only [Function.comp]
    split
    · rfl
    · rfl
  refine ⟨?_, ?_, ?_, h.thread⟩
  · rw [hkey]
    exact h.keys
  · rw [hcount]
    exact h.cbServers
  · rw [hcount fun prog => !isCallback prog]
    exact h.servers

/-- A callback thread that has `t` in hand puts an XDR into the entry or takes it out. -/
theorem xprtInv_setXdr {t : CbThread} {xdr : Bool} {callbacks : List CbThread} (hs : XprtInv s)
    (ht : t ∈ s.callbacks)
    (hin : xdr = true → .dispatching t.addr ∈ callbacks)
    (hlent : ∀ addr, addr ≠ t.addr → .dispatching addr ∈ s.callbacks →
      .dispatching addr ∈ callbacks)
    (hfrom : ∀ t' ∈ callbacks, ∃ t'' ∈ s.callbacks, t''.addr = t'.addr) :
    XprtInv { s.setXdr t.addr xdr with callbacks := callbacks } := by
  have hok : RegistryOk (s.setXdr t.addr xdr) := setXdr_registryOk hs.ok
  refine ⟨⟨hok.keys, hok.cbServers, hok.servers, hok.thread⟩, ?_, ?_, ?_, ?_⟩
  · have haddr : (s.setXdr t.addr xdr).servers.map Server.addr = s.servers.map Server.addr := by
      simp only [Xprt.setXdr, List.map_map]
      refine List.map_congr_left fun e _ => ?_
      dsimp only [Function.comp]
      split
      · rfl
      · rfl
    dsimp only
    rw [haddr]
    exact hs.addrs
  · intro e' he' hcb
    obtain ⟨e, he, -, hprog, hxdr⟩ := setXdr_mem he'
    rw [hprog] at hcb
    have hne : e.addr ≠ t.addr := by
      intro heq
      rw [hs.held ht he heq] at hcb
      cases hcb
    rw [hxdr, if_neg hne]
    exact hs.own e he hcb
  · intro e' he' hcb hx
    obtain ⟨e, he, haddr, hprog, hxdr⟩ := setXdr_mem he'
    rw [hxdr] at hx
    rw [haddr]
    by_cases heq : e.addr = t.addr
    · rw [if_pos heq] at hx
      rw [heq]
      exact hin hx
    · rw [if_neg heq] at hx
      exact hlent _ heq (hs.lent e he (hprog ▸ hcb) hx)
  · intro t' ht'
    obtain ⟨t'', ht'', haddr⟩ := hfrom t' ht'
    obtain ⟨e, he, hea, hcb⟩ := hs.live t'' ht''
    refine ⟨if e.addr = t.addr then { e with xdr := xdr } else e, List.mem_map_of_mem he, ?_⟩
    split
    · exact ⟨hea.trans haddr, hcb⟩
    · exact ⟨hea.trans haddr, hcb⟩

/-- The callback threads have changed, but not what they have in hand. -/
theorem xprtInv_callbacks {callbacks : List CbThread} (hs : XprtInv s)
    (hlent : ∀ addr, .dispatching addr ∈ s.callbacks → .dispatching addr ∈ callbacks)
    (hlive : ∀ t ∈ callbacks, ∃ e ∈ s.servers, e.addr = t.addr ∧ isCallback e.prog = true) :
    XprtInv { s with callbacks := callbacks } :=
  ⟨⟨hs.ok.keys, hs.ok.cbServers, hs.ok.servers, hs.ok.thread⟩, hs.addrs, hs.own,
    fun e he hcb hx => hlent _ (hs.lent e he hcb hx), hlive⟩

/-- The threads of the servers have changed. -/
theorem xprtInv_threads {threads : List SvcThread} (hs : XprtInv s)
    (hlen : threads.length ≤ s.threads.length) : XprtInv { s with threads := threads } :=
  ⟨⟨hs.ok.keys, hs.ok.cbServers, hs.ok.servers, Nat.le_trans hlen hs.ok.thread⟩, hs.addrs, hs.own,
    hs.lent, hs.live⟩

/-- **Step lemma**. -/
theorem xprtInv_step (hok : settledStep s a) (h : xprtStep s a = some s') (hs : XprtInv s) :
    XprtInv s' := by
  cases a with
  | register prog vers dispatch env =>
    simp only [xprtStep, Option.ite_none_right_eq_some] at h
    obtain ⟨haddr, h⟩ := h
    obtain rfl := Option.some.inj h
    exact xprtInv_register hs haddr hok
  | unregister prog vers =>
    obtain rfl := Option.some.inj h
    exact xprtInv_unregister hs hok
  | svcTest =>
    simp only [xprtStep, Option.ite_none_right_eq_some] at h
    obtain ⟨hmem, h⟩ := h
    obtain rfl := Option.some.inj h
    have hpos := List.length_pos_of_mem hmem
    refine xprtInv_threads hs ?_
    split
    · rw [List.length_erase_of_mem hmem]
      omega
    · rw [List.length_cons, List.length_erase_of_mem hmem]
      omega
  | svcLoop =>
    simp only [xprtStep, Option.ite_none_right_eq_some] at h
    obtain ⟨hmem, h⟩ := h
    obtain rfl := Option.some.inj h
    have hpos := List.length_pos_of_mem hmem
    refine xprtInv_threads hs ?_
    rw [List.length_cons, List.length_erase_of_mem hmem]
    omega
  | cbFind prog vers =>
    obtain rfl := Option.some.inj h
    split
    · rename_i e hfind
      obtain ⟨he, rfl, rfl⟩ := svcFind_some hfind
      have hcb : isCallback e.prog = true := hok (by rw [hfind]; rfl)
      refine xprtInv_callbacks hs (fun addr hmem => List.mem_cons_of_mem _ hmem) fun t ht => ?_
      rcases List.mem_cons.mp ht with rfl | hold
      · exact ⟨e, he, rfl, hcb⟩
      · exact hs.live t hold
    · exact hs
  | cbTransplant addr =>
    simp only [xprtStep, Option.ite_none_right_eq_some] at h
    obtain ⟨hmem, h⟩ := h
    obtain rfl := Option.some.inj h
    refine xprtInv_setXdr hs hmem (fun _ => List.mem_cons_self) (fun addr' _ hd => ?_)
      fun t' ht' => ?_
    · exact List.mem_cons_of_mem _ ((List.mem_erase_of_ne (by simp)).mpr hd)
    · rcases List.mem_cons.mp ht' with rfl | hold
      · exact ⟨_, hmem, rfl⟩
      · exact ⟨t', List.mem_of_mem_erase hold, rfl⟩
  | cbBail addr =>
    simp only [xprtStep, Option.ite_none_right_eq_some] at h
    obtain ⟨hmem, h⟩ := h
    obtain rfl := Option.some.inj h
    refine xprtInv_callbacks hs (fun addr' hd => ?_) fun t ht => ?_
    · exact (List.mem_erase_of_ne (by simp)).mpr hd
    · exact hs.live t (List.mem_of_mem_erase ht)
  | cbEnd addr =>
    simp only [xprtStep, Option.ite_none_right_eq_some] at h
    obtain ⟨hmem, h⟩ := h
    obtain rfl := Option.some.inj h
    refine xprtInv_setXdr hs hmem (fun hx => by cases hx) (fun addr' hne hd => ?_) fun t' ht' => ?_
    · have hother : CbThread.dispatching addr' ≠ .dispatching addr :=
        fun heq => hne (CbThread.dispatching.inj heq)
      exact (List.mem_erase_of_ne hother).mpr hd
    · exact ⟨t', List.mem_of_mem_erase ht', rfl⟩

/-- After every run of settled steps the registry is right, and a registration that fails then
changes nothing. -/
theorem registry_ok {as : List XprtAct}
    (hrun : exec (restrict settledStep xprtStep) Xprt.init as = some s) :
    RegistryOk s ∧ ∀ prog vers dispatch env,
      (svcRegister s prog vers dispatch env).2 = false →
        (svcRegister s prog vers dispatch env).1 = s := by
  have hinv : XprtInv s :=
    exec_restrict_invariant (fun _ _ _ hok hstep hs => xprtInv_step hok hstep hs) xprtInv_init hrun
  exact ⟨hinv.ok, fun _ _ _ _ h => svcRegister_false h⟩

/-- A callback client, then a server; a dispatch to the client; both are unregistered. -/
theorem registry_ok_dispatch :
    ∃ s, exec (restrict settledStep xprtStep) Xprt.init
        [.register 0x31000000#32 1 5 ⟨8, true, true⟩, .register 0x30000000#32 1 6 ⟨16, true, true⟩,
          .cbFind 0x31000000#32 1, .cbTransplant 8, .svcTest, .cbEnd 8, .svcLoop,
          .unregister 0x31000000#32 1, .unregister 0x30000000#32 1] = some s ∧ RegistryOk s := by
  obtain ⟨s, hs⟩ : ∃ s, exec (restrict settledStep xprtStep) Xprt.init
      [.register 0x31000000#32 1 5 ⟨8, true, true⟩, .register 0x30000000#32 1 6 ⟨16, true, true⟩,
        .cbFind 0x31000000#32 1, .cbTransplant 8, .svcTest, .cbEnd 8, .svcLoop,
        .unregister 0x31000000#32 1, .unregister 0x30000000#32 1] = some s := ⟨_, rfl⟩
  exact ⟨s, hs, (registry_ok hs).1⟩

/-- A server and its callback client, registered one after the other. -/
theorem two_svc_threads :
    ∃ s, exec xprtStep Xprt.init
        [.register 0x30000000#32 1 6 ⟨8, true, true⟩,
          .register 0x31000000#32 1 5 ⟨16, true, true⟩] = some s ∧
      s.threads = [.test, .test] ∧ ¬ RegistryOk s := by
  refine ⟨_, rfl, rfl, fun h => ?_⟩
  exact absurd h.thread (by decide)

-- a callback client that is unregistered during a dispatch is counted as a server
example : ∃ s, exec xprtStep Xprt.init
        [.register 0x31000000#32 1 5 ⟨8, true, true⟩, .cbFind 0x31000000#32 1, .cbTransplant 8,
          .unregister 0x31000000#32 1] = some s ∧
      s.numServers = -1 ∧ s.numCbServers = 1 ∧ ¬ RegistryOk s := by
  refine ⟨_, rfl, rfl, rfl, fun h => ?_⟩
  exact absurd h.servers (by decide)

end Ancora.Rpc.Svc
