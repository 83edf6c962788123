import Mathlib.Data.Vector.Basic

/-!
# Writers and readers of a message

A message is a list of symbols. A writer appends to a buffer of `cap` symbols, a
reader moves a cursor over a received message; both may fail, and both leave
their position at a multiple of `unit`. The positions and the bound are fields
of the two states, so a writer or reader that broke them could not be defined.

- `Writes f w`: whenever `w` fits, `f` succeeds and appends exactly `w`.
- `Appends f w`: whenever `f` succeeds, it appended exactly `w`.
- `Reads f w a`: wherever `w` comes next, `f` succeeds, returns `a` and moves
  past exactly `w`.
- `FailsOr e f P`: `f` fails with `e`, or it leaves what `P` says.
- `Returns f P`: what `f` returns is always as `P` says.
- `Writes.bind`, `Reads.bind`: writing and reading in sequence;
  `Writes.forM`, `Reads.readN`: the same over a loop.
- **`Writes.then_reads`**: what one side writes, the other side reads, and the two
  positions agree.
-/

namespace Stream

/-- A buffer of `cap` symbols as far as it is filled. -/
structure Outgoing (β : Type) (unit cap : Nat) where
  bytes : List β
  aligned : unit ∣ bytes.length
  bounded : bytes.length ≤ cap

/-- A received message and how far it is read. -/
structure Incoming (β : Type) (unit cap : Nat) where
  msg : List β
  next : Nat
  aligned : unit ∣ next
  bounded : msg.length ≤ cap

variable {β ε α γ : Type} {unit cap : Nat}

/-- Where the next symbol goes. -/
def Outgoing.next (o : Outgoing β unit cap) : Nat := o.bytes.length

/-- What is still to be read. -/
def Incoming.rest (i : Incoming β unit cap) : List β := i.msg.drop i.next

/-- `f` appends exactly `w` whenever `w` fits. -/
def Writes (f : StateT (Outgoing β unit cap) (Except ε) Unit) (w : List β) : Prop :=
  ∀ o : Outgoing β unit cap, o.next + w.length ≤ cap →
    ∃ o', f.run o = .ok ((), o') ∧ o'.bytes = o.bytes ++ w

/-- `f` appended exactly `w` whenever it succeeds. -/
def Appends (f : StateT (Outgoing β unit cap) (Except ε) Unit) (w : List β) : Prop :=
  ∀ o o' : Outgoing β unit cap, f.run o = .ok ((), o') → o'.bytes = o.bytes ++ w

/-- `f` reads exactly `w`, wherever it stands, as the value `a`. -/
def Reads (f : StateT (Incoming β unit cap) (Except ε) α) (w : List β) (a : α) : Prop :=
  ∀ i : Incoming β unit cap, w <+: i.rest →
    ∃ i', f.run i = .ok (a, i') ∧ i'.msg = i.msg ∧ i'.next = i.next + w.length

/-- `f` fails with `e`, or its result and where it then stands are as `P` says. -/
def FailsOr (e : ε) (f : StateT (Incoming β unit cap) (Except ε) α)
    (P : Incoming β unit cap → α → Incoming β unit cap → Prop) : Prop :=
  ∀ i : Incoming β unit cap, f.run i = .error e ∨ ∃ a i', f.run i = .ok (a, i') ∧ P i a i'

/-- What `f` returns, if it returns, is as `P` says. -/
def Returns (f : StateT (Incoming β unit cap) (Except ε) α) (P : α → Prop) : Prop :=
  ∀ (i i' : Incoming β unit cap) (a : α), f.run i = .ok (a, i') → P a

/-! ## Sequencing -/

/-- A sequence that succeeds has steps that succeed. -/
theorem exists_of_run_bind_eq_ok {σ : Type} {f : StateT σ (Except ε) α}
    {g : α → StateT σ (Except ε) γ} {s s' : σ} {b : γ} (h : (f >>= g).run s = .ok (b, s')) :
    ∃ a s₁, f.run s = .ok (a, s₁) ∧ (g a).run s₁ = .ok (b, s') := by
  rw [StateT.run_bind] at h
  cases hfst : f.run s with
  | error e =>
    rw [hfst] at h
    cases h
  | ok r =>
    rw [hfst] at h
    exact ⟨r.1, r.2, rfl, h⟩

section Sequencing

variable {f g : StateT (Outgoing β unit cap) (Except ε) Unit} {w v : List β}

/-- To do nothing writes nothing. -/
theorem Writes.pure :
    Writes (pure () : StateT (Outgoing β unit cap) (Except ε) Unit) [] := by
  intro o _
  exact ⟨o, rfl, (List.append_nil _).symm⟩

/-- What is written one after the other stands one behind the other. -/
theorem Writes.bind (hf : Writes f w) (hg : Writes g v) :
    Writes (f >>= fun _ => g) (w ++ v) := by
  intro o hfit
  rw [List.length_append] at hfit
  obtain ⟨o₁, hrun₁, hb₁⟩ := hf o (by omega)
  have hnext : o₁.next = o.next + w.length := by
    simp [Outgoing.next, hb₁]
  obtain ⟨o₂, hrun₂, hb₂⟩ := hg o₁ (by omega)
  refine ⟨o₂, ?_, ?_⟩
  · rw [StateT.run_bind, hrun₁]
    exact hrun₂
  · rw [hb₂, hb₁, List.append_assoc]

/-- A loop over the elements writes their symbols one after the other. -/
theorem Writes.forM {send : α → StateT (Outgoing β unit cap) (Except ε) Unit}
    {wire : α → List β} :
    ∀ {xs : List α}, (∀ x ∈ xs, Writes (send x) (wire x)) →
      Writes (xs.forM send) (xs.flatMap wire)
  | [], _ => Writes.pure
  | x :: xs, h => by
    have hx : Writes (send x) (wire x) := h x List.mem_cons_self
    have hxs : Writes (xs.forM send) (xs.flatMap wire) :=
      Writes.forM fun y hy => h y (List.mem_cons_of_mem x hy)
    rw [List.flatMap_cons]
    exact hx.bind hxs

/-- To do nothing appends nothing. -/
theorem Appends.pure :
    Appends (pure () : StateT (Outgoing β unit cap) (Except ε) Unit) [] := by
  intro o o' hrun
  cases hrun
  exact (List.append_nil _).symm

/-- What is appended one after the other stands one behind the other. -/
theorem Appends.bind (hf : Appends f w) (hg : Appends g v) :
    Appends (f >>= fun _ => g) (w ++ v) := by
  intro o o' hrun
  obtain ⟨_, o₁, hrun₁, hrun₂⟩ := exists_of_run_bind_eq_ok hrun
  rw [hg o₁ o' hrun₂, hf o o₁ hrun₁, List.append_assoc]

/-- What never succeeds may be said to append anything. -/
theorem Appends.throw (e : ε) :
    Appends (throw e : StateT (Outgoing β unit cap) (Except ε) Unit) w := by
  intro o o' hrun
  cases hrun

/-- To do nothing reads nothing. -/
theorem Reads.pure (a : α) :
    Reads (pure a : StateT (Incoming β unit cap) (Except ε) α) [] a := by
  intro i _
  exact ⟨i, rfl, rfl, rfl⟩

/-- What is read one after the other is taken from one stretch behind the other. -/
theorem Reads.bind {f : StateT (Incoming β unit cap) (Except ε) α}
    {g : α → StateT (Incoming β unit cap) (Except ε) γ} {a : α} {b : γ}
    (hf : Reads f w a) (hg : Reads (g a) v b) : Reads (f >>= g) (w ++ v) b := by
  intro i hrest
  obtain ⟨i₁, hrun₁, hmsg₁, hnext₁⟩ := hf i ((List.prefix_append w v).trans hrest)
  have hrest₁ : v <+: i₁.rest := by
    obtain ⟨post, hpost⟩ := hrest
    refine ⟨post, ?_⟩
    rw [Incoming.rest, hmsg₁, hnext₁, ← List.drop_drop]
    change _ = List.drop w.length i.rest
    rw [← hpost, List.append_assoc, List.drop_left]
  obtain ⟨i₂, hrun₂, hmsg₂, hnext₂⟩ := hg i₁ hrest₁
  refine ⟨i₂, ?_, hmsg₂.trans hmsg₁, ?_⟩
  · rw [StateT.run_bind, hrun₁]
    exact hrun₂
  · rw [hnext₂, hnext₁, List.length_append, Nat.add_assoc]

/-- The value that was read may be worked on. -/
theorem Reads.map {f : StateT (Incoming β unit cap) (Except ε) α} {a : α}
    (hf : Reads f w a) (k : α → γ) : Reads (f >>= fun x => Pure.pure (k x)) w (k a) := by
  have h : Reads (f >>= fun x => Pure.pure (k x)) (w ++ []) (k a) :=
    hf.bind (Reads.pure (k a))
  rwa [List.append_nil] at h

section FailsOr

variable {e : ε} {P : Incoming β unit cap → α → Incoming β unit cap → Prop}
  {Q : Incoming β unit cap → γ → Incoming β unit cap → Prop}

/-- A value that is returned needs what is to hold of it. -/
theorem FailsOr.pure {a : α} (h : ∀ i, P i a i) :
    FailsOr e (Pure.pure a : StateT (Incoming β unit cap) (Except ε) α) P := by
  intro i
  exact .inr ⟨a, i, rfl, h i⟩

/-- A failure needs nothing. -/
theorem FailsOr.throw :
    FailsOr e (throw e : StateT (Incoming β unit cap) (Except ε) α) P := by
  intro i
  exact .inl rfl

/-- What the first step gives may be used for the second; either may fail. -/
theorem FailsOr.bind {f : StateT (Incoming β unit cap) (Except ε) α}
    {g : α → StateT (Incoming β unit cap) (Except ε) γ} (hf : FailsOr e f P)
    (hg : ∀ a, FailsOr e (g a) fun i₁ b i' => ∀ i, P i a i₁ → Q i b i') :
    FailsOr e (f >>= g) Q := by
  intro i
  rcases hf i with herr | ⟨a, i₁, hrun, hP⟩
  · left
    rw [StateT.run_bind, herr]
    rfl
  rcases hg a i₁ with herr | ⟨b, i', hrun', hQ⟩
  · left
    rw [StateT.run_bind, hrun]
    exact herr
  · right
    refine ⟨b, i', ?_, hQ i hP⟩
    rw [StateT.run_bind, hrun]
    exact hrun'

end FailsOr

section Returns

variable {P : α → Prop} {Q : γ → Prop}

/-- What holds of every value holds of what is returned. -/
theorem Returns.of_forall {f : StateT (Incoming β unit cap) (Except ε) α} (h : ∀ a, P a) :
    Returns f P := by
  intro _ _ a _
  exact h a

/-- A value that is returned has the property. -/
theorem Returns.pure {a : α} (h : P a) :
    Returns (Pure.pure a : StateT (Incoming β unit cap) (Except ε) α) P := by
  intro i i' b hrun
  cases hrun
  exact h

/-- A failure returns nothing. -/
theorem Returns.throw (e : ε) :
    Returns (throw e : StateT (Incoming β unit cap) (Except ε) α) P := by
  intro i i' a hrun
  cases hrun

/-- What the first step gives may be used for the second. -/
theorem Returns.bind {f : StateT (Incoming β unit cap) (Except ε) α}
    {g : α → StateT (Incoming β unit cap) (Except ε) γ} (hf : Returns f P)
    (hg : ∀ a, P a → Returns (g a) Q) : Returns (f >>= g) Q := by
  intro i i' b hrun
  obtain ⟨a, i₁, hrun₁, hrun₂⟩ := exists_of_run_bind_eq_ok hrun
  exact hg a (hf i i₁ a hrun₁) i₁ i' b hrun₂

end Returns

/-- What is longer than any message is never read. -/
theorem Reads.of_cap_lt {f : StateT (Incoming β unit cap) (Except ε) α} {a : α}
    (h : cap < w.length) : Reads f w a := by
  intro i hrest
  have hlen : w.length ≤ i.msg.length := by
    have hle := hrest.length_le
    rw [Incoming.rest, List.length_drop] at hle
    omega
  have hbound := i.bounded
  omega

/-- Read `n` values one after the other. -/
def readN (f : StateT (Incoming β unit cap) (Except ε) α) :
    (n : Nat) → StateT (Incoming β unit cap) (Except ε) (List.Vector α n)
  | 0 => Pure.pure List.Vector.nil
  | n + 1 => do
    let a ← f
    let as ← readN f n
    Pure.pure (a ::ᵥ as)

/-- A loop reads what a loop over the same elements wrote. -/
theorem Reads.readN {f : StateT (Incoming β unit cap) (Except ε) γ} {wire : α → List β}
    {k : α → γ} :
    ∀ {n : Nat} {xs : List.Vector α n}, (∀ x ∈ xs.toList, Reads f (wire x) (k x)) →
      Reads (Stream.readN f n) (xs.toList.flatMap wire) (xs.map k)
  | 0, xs, _ => by
    rw [xs.eq_nil]
    exact Reads.pure _
  | n + 1, xs, h => by
    obtain ⟨x, ys, rfl⟩ := xs.exists_eq_cons
    have hx : Reads f (wire x) (k x) := h x (by simp)
    have hys : Reads (Stream.readN f n) (ys.toList.flatMap wire) (ys.map k) :=
      Reads.readN fun y hy => h y (by simp [hy])
    rw [List.Vector.toList_cons, List.flatMap_cons, List.Vector.map_cons]
    exact hx.bind (hys.map fun as => k x ::ᵥ as)

/-- Each of several things read one after the other has the property. -/
theorem Returns.readN {f : StateT (Incoming β unit cap) (Except ε) α} {P : α → Prop}
    (hf : Returns f P) (n : Nat) :
    Returns (Stream.readN f n) fun as => ∀ a ∈ as.toList, P a := by
  induction n with
  | zero => exact Returns.pure (by simp)
  | succ n ih =>
    refine hf.bind fun a ha => ih.bind fun as has => Returns.pure ?_
    intro b hb
    rw [List.Vector.toList_cons] at hb
    rcases List.mem_cons.mp hb with rfl | hb
    · exact ha
    · exact has b hb

end Sequencing

/-- **What is written is read back**, and the reader ends where the writer did,
whatever else stands in the message. -/
theorem Writes.then_reads {send : StateT (Outgoing β unit cap) (Except ε) Unit}
    {recv : StateT (Incoming β unit cap) (Except ε) α} {w : List β} {a : α}
    (hw : Writes send w) (hr : Reads recv w a) (o : Outgoing β unit cap)
    (hfit : o.next + w.length ≤ cap) :
    ∃ o', send.run o = .ok ((), o') ∧ o'.next = o.next + w.length ∧
      ∀ i : Incoming β unit cap, i.next = o.next → o'.bytes.drop o.next <+: i.rest →
        ∃ i', recv.run i = .ok (a, i') ∧ i'.msg = i.msg ∧ i'.next = o'.next := by
  obtain ⟨o', hrun, hbytes⟩ := hw o hfit
  have hlen : o'.next = o.next + w.length := by
    rw [Outgoing.next, Outgoing.next, hbytes, List.length_append]
  refine ⟨o', hrun, hlen, fun i hnext hrest => ?_⟩
  have hsent : o'.bytes.drop o.next = w := by
    rw [hbytes, Outgoing.next, List.drop_left]
  rw [hsent] at hrest
  obtain ⟨i', hrun', hmsg, hend⟩ := hr i hrest
  exact ⟨i', hrun', hmsg, by rw [hend, hnext, hlen]⟩

end Stream
