import Ancora.Xdr.Storage

/-!
# The cursors and their buffers

`in_next` is an `int`, the lengths that `xdr_std_recv_bytes` is asked for are
`uint32` values out of the message, and the check adds the two in 32 bits. A
length for which the sum leaves the `int` range passes the check, so the bounds
hold for the runs in which no such length is asked for (`Event.Permitted`); the
size of an array, computed in 32 bits too, is the other case.

- `Confined`: in a run of permitted steps every event is inside its buffer, and
  the cursor only moves forward, up to the end of the message.
- `Routine.xdr_confined`, `Routine.xdr_stops`: every routine, by induction on it.
- `xdrStdSendBytes_confined`: the sending side.
- **`cursors_inside`**: any sequence of operations on any accepted message.
-/

namespace Ancora.Xdr.Storage

open Traced

/-! ## What a run may do -/

/-- `in_len` rounded up to a word. -/
def Env.limit (e : Env) : Int := (e.inLen.toInt + 3) / 4 * 4

/-- A length that passes the check is in the range of the sum, and an array has a
size. -/
def Event.Permitted (e : Env) : Event → Prop
  | .asks next len => (next + len).toInt ≤ e.inLen.toInt → next.toNat + len.toNat < 2147483648
  | .counts c elsize => c.toNat * elsize.toNat < 4294967296
  | _ => True

instance (e : Env) : (ev : Event) → Decidable (ev.Permitted e)
  | .asks next len =>
    inferInstanceAs (Decidable ((next + len).toInt ≤ e.inLen.toInt →
      next.toNat + len.toNat < 2147483648))
  | .counts c elsize => inferInstanceAs (Decidable (c.toNat * elsize.toNat < 4294967296))
  | .read _ _ | .moves _ _ | .refused | .alloc _ _ | .reach _ | .free _ _ =>
    inferInstanceAs (Decidable True)

/-- Nothing outside its buffer, and no step back. -/
def Event.Inside (e : Env) : Event → Prop
  | .read start len => 0 ≤ start ∧ start + len ≤ e.inLen.toInt
  | .moves before after => before ≤ after ∧ after ≤ e.limit
  | .reach inside => inside = true
  | _ => True

/-- `in_next` lies in the message. -/
def CursorOk (e : Env) (s : St) : Prop := 0 ≤ s.inNext.toInt ∧ s.inNext.toInt ≤ e.limit

/-- From `s` to `t` no block was lost, and if `A` and every step was permitted,
everything was inside. -/
structure Confined (e : Env) (A : Prop) (s t : St) (trace : List Event) : Prop where
  kept : ∀ p n, s.heap.size p = some n → t.heap.size p = some n
  inside : A → (∀ ev ∈ trace, ev.Permitted e) → CursorOk e s →
    CursorOk e t ∧ s.inNext.toInt ≤ t.inNext.toInt ∧ ∀ ev ∈ trace, ev.Inside e

/-- Confined steps one after the other are confined. -/
theorem Confined.compositional (e : Env) (A : Prop) : Compositional (Confined e A) where
  refl s := ⟨fun _ _ h => h, fun _ _ h => ⟨h, Int.le_refl _, by simp⟩⟩
  trans {s t u l l'} h₁ h₂ := by
    refine ⟨fun p n h => h₂.kept p n (h₁.kept p n h), ?_⟩
    intro hA hperm hs
    rw [List.forall_mem_append] at hperm ⊢
    obtain ⟨ht, hle₁, hin₁⟩ := h₁.inside hA hperm.1 hs
    obtain ⟨hu, hle₂, hin₂⟩ := h₂.inside hA hperm.2 ht
    exact ⟨hu, hle₁.trans hle₂, hin₁, hin₂⟩

/-- The block at `p` has `n` bytes, and everything is confined. -/
def Within (e : Env) (A : Prop) (p n : Nat) (s t : St) (trace : List Event) : Prop :=
  s.heap.size p = some n → Confined e A s t trace

/-- So are steps that work on one block. -/
theorem Within.compositional (e : Env) (A : Prop) (p n : Nat) :
    Compositional (Within e A p n) where
  refl s _ := (Confined.compositional e A).refl s
  trans h₁ h₂ := by
    intro hs
    have hst := h₁ hs
    exact (Confined.compositional e A).trans hst (h₂ (hst.kept p n hs))

section Steps

variable {e : Env} {A : Prop} {α β : Type}

/-- The condition may be made stronger. -/
theorem Confined.mono {B : Prop} (hBA : B → A) {s t : St} {trace : List Event}
    (h : Confined e A s t trace) : Confined e B s t trace :=
  ⟨h.kept, fun hB => h.inside (hBA hB)⟩

/-- What is confined needs no block. -/
theorem obeys_within {p : Run α} (h : Obeys (Confined e True) p) (q n : Nat) :
    Obeys (Within e A q n) p :=
  fun s _ => (h s).mono fun _ => trivial

/-! ## The operations -/

/-- Without an overflow the sum as an `int` is that of the numbers. -/
theorem toInt_add {x y : BitVec 32} (h : x.toNat + y.toNat < 2147483648) :
    (x + y).toInt = x.toNat + y.toNat := by
  have hsum : (x + y).toNat = x.toNat + y.toNat := by
    rw [BitVec.toNat_add]
    omega
  rw [BitVec.toInt_eq_toNat_of_lt (by omega), hsum]
  simp

/-- What is not negative as an `int` is the same number unsigned. -/
theorem toNat_of_nonneg {x : BitVec 32} (h : 0 ≤ x.toInt) :
    x.toInt = x.toNat ∧ x.toNat < 2147483648 := by
  have hx := x.isLt
  rw [BitVec.toInt_eq_toNat_cond] at h ⊢
  split at h <;> rename_i hc
  · rw [if_pos hc]
    omega
  · omega

/-- The cursor after `len` bytes and their padding. -/
theorem toInt_padded {x : BitVec 32} (h : x.toNat < 2147483640) :
    ((x + 3#32) &&& ~~~3#32).toInt = (x.toNat + 3) / 4 * 4 := by
  have hsum : (x + 3#32).toNat = x.toNat + 3 := by
    rw [BitVec.toNat_add]
    simp
    omega
  have hand : ((x + 3#32) &&& ~~~3#32).toNat = (x.toNat + 3) / 4 * 4 := by
    rw [and_not_three, hsum]
  rw [BitVec.toInt_eq_toNat_of_lt (by omega), hand]
  simp

theorem refuse_confined (a : α) : Obeys (Confined e A) (refuse a) :=
  fun _ => ⟨fun _ _ h => h, fun _ _ h => ⟨h, Int.le_refl _, by simp [refuse, Event.Inside]⟩⟩

/-- An allocation loses no block. -/
theorem memAlloc_confined (size : Nat) : Obeys (Confined e A) (memAlloc e size) := by
  intro s
  unfold memAlloc
  by_cases hg : e.grants s.heap.calls = true
  · rw [if_pos hg]
    refine ⟨?_, fun _ _ h => ⟨h, Int.le_refl _, by simp [Event.Inside]⟩⟩
    intro p n hp
    have hne : p ≠ s.heap.calls := by
      rintro rfl
      rw [s.heap.unused _ (Nat.le_refl _)] at hp
      cases hp
    exact (Function.update_of_ne hne _ _).trans hp
  · rw [if_neg hg]
    exact ⟨fun _ _ h => h, fun _ _ h => ⟨h, Int.le_refl _, by simp [Event.Inside]⟩⟩

/-- An allocation that succeeds gives a block of the size that was asked for. -/
theorem memAlloc_size (size : Nat) (s : St) (h : (memAlloc e size s).val.1 = true) :
    (memAlloc e size s).state.heap.size (memAlloc e size s).val.2 = some size := by
  unfold memAlloc at h ⊢
  by_cases hg : e.grants s.heap.calls = true
  · simp [if_pos hg, Heap.alloc]
  · simp [if_neg hg] at h

/-- What follows an allocation may use the block. -/
theorem alloc_confined {n : Nat} {left : Nat → β} {next : Nat → Run (Bool × β)}
    (h : ∀ p, Obeys (Within e A p n) (next p)) :
    Obeys (Confined e A) (attempt (memAlloc e n) left next) :=
  Obeys.attempt_of (Q := fun p s => s.heap.size p = some n) (Confined.compositional e A)
    (memAlloc_confined n) (memAlloc_size n) h

/-- A block is touched up to its size at most. -/
theorem touch_within {p n upto : Nat} (h : A → upto ≤ n) :
    Obeys (Within e A p n) (touch p upto) := by
  intro s hs
  refine ⟨fun _ _ h => h, fun hA _ hok => ⟨hok, Int.le_refl _, ?_⟩⟩
  simp [touch, Event.Inside, Heap.holds, hs, h hA]

section Receive

variable (hlen : e.inLen.toInt ≤ rpcrouterMsgsizeMax)

include hlen

theorem limit_small : e.limit ≤ 18432 := by
  have hmax : (rpcrouterMsgsizeMax : Int) = 18432 := rfl
  unfold Env.limit
  omega

/-- The test of `in_next` against `in_len` keeps the read of a word inside. -/
theorem xdrStdRecvUint32_confined (value : BitVec 32) :
    Obeys (Confined e A) (xdrStdRecvUint32 e value) := by
  intro s
  unfold xdrStdRecvUint32
  by_cases hfit : (s.inNext + 4#32).toInt > e.inLen.toInt
  · rw [if_pos hfit]
    exact refuse_confined value s
  · rw [if_neg hfit]
    refine ⟨fun _ _ h => h, ?_⟩
    rintro - - ⟨hnonneg, hle⟩
    have hlimit := limit_small hlen
    obtain ⟨hnat, -⟩ := toNat_of_nonneg hnonneg
    have hsum : (s.inNext + 4#32).toInt = s.inNext.toNat + 4 :=
      toInt_add (show s.inNext.toNat + 4 < _ by omega)
    rw [hsum] at hfit
    simp only [CursorOk, List.forall_mem_cons, List.not_mem_nil, Event.Inside, hsum, hnat,
      Env.limit] at *
    refine ⟨⟨by omega, by omega⟩, by omega, ⟨by omega, by omega⟩, ⟨by omega, by omega⟩, by simp⟩

/-- `hdest`: the block that the bytes go to has room for them. -/
theorem xdrStdRecvBytes_inside (buf : Dest) (len : BitVec 32) (old : Nat → Byte) (s : St)
    (hdest : ∀ p, buf = .block p → s.heap.holds p len.toNat = true) :
    Confined e A s (xdrStdRecvBytes e buf len old s).state
      (xdrStdRecvBytes e buf len old s).trace := by
  unfold xdrStdRecvBytes
  by_cases hfit : (s.inNext + len).toInt > e.inLen.toInt
  · rw [if_pos hfit]
    exact ⟨fun _ _ h => h, fun _ _ h => ⟨h, Int.le_refl _, by simp [Event.Inside]⟩⟩
  · rw [if_neg hfit]
    refine ⟨fun _ _ h => h, ?_⟩
    rintro - hperm ⟨hnonneg, hle⟩
    have hlimit := limit_small hlen
    have hmax : (rpcrouterMsgsizeMax : Int) = 18432 := rfl
    have hrange : s.inNext.toNat + len.toNat < 2147483648 :=
      hperm (.asks s.inNext len) List.mem_cons_self (by omega)
    have hsum := toInt_add hrange
    rw [hsum] at hfit
    have hadd : (s.inNext + len).toNat = s.inNext.toNat + len.toNat := by
      rw [BitVec.toNat_add]
      omega
    obtain ⟨hnat, -⟩ := toNat_of_nonneg hnonneg
    have hnext : ((s.inNext + len + 3#32) &&& ~~~3#32).toInt =
        (s.inNext.toNat + len.toNat + 3) / 4 * 4 := by
      rw [toInt_padded (by omega), hadd]
      simp
    have hmoves : (Event.moves s.inNext.toInt
        ((s.inNext + len + 3#32) &&& ~~~3#32).toInt).Inside e := by
      simp only [Event.Inside, hnext, hnat, Env.limit]
      omega
    have hread : (Event.read s.inNext.toInt len.toNat).Inside e := by
      simp only [Event.Inside, hnat]
      omega
    refine ⟨⟨by rw [hnext]; omega, hmoves.2⟩, hmoves.1, ?_⟩
    rw [List.forall_mem_cons, List.forall_mem_append]
    refine ⟨trivial, ?_, by simpa using hmoves⟩
    cases buf with
    | null => simp [Dest.copied]
    | given => simpa [Dest.copied] using hread
    | block p => simpa [Dest.copied] using ⟨hread, hdest p rfl⟩

/-- The same for bytes that are not stored in a block. -/
theorem xdrStdRecvBytes_confined {buf : Dest} (hbuf : ∀ p, buf ≠ .block p) (len : BitVec 32)
    (old : Nat → Byte) : Obeys (Confined e A) (xdrStdRecvBytes e buf len old) :=
  fun s => xdrStdRecvBytes_inside hlen buf len old s fun p hp => absurd hp (hbuf p)

/-- Bytes are stored inside a block that has room for them. -/
theorem xdrStdRecvBytes_within {p n : Nat} {len : BitVec 32} (h : len.toNat ≤ n)
    (old : Nat → Byte) : Obeys (Within e A p n) (xdrStdRecvBytes e (.block p) len old) := by
  intro s hs
  refine xdrStdRecvBytes_inside hlen _ len old s ?_
  intro q hq
  cases hq
  simp [Heap.holds, hs, h]

/-- Credentials and verifiers are skipped inside the message. -/
theorem xdrRecvAuth_confined : Obeys (Confined e A) (xdrRecvAuth e) := by
  have hR := Confined.compositional e A
  refine Obeys.attempt hR (xdrStdRecvUint32_confined hlen 0) ?_
  intro _
  refine Obeys.attempt hR (xdrStdRecvUint32_confined hlen 0) ?_
  intro oaLength
  by_cases h : oaLength ≠ 0
  · rw [if_pos h]
    exact Obeys.attempt hR (xdrStdRecvBytes_confined hlen (by simp) _ _)
      fun _ => refuse_confined ()
  · rw [if_neg h]
    exact Obeys.pure hR _

/-! ## The routines -/

/-- Scalars are read word by word. -/
theorem xdrScalar_confined (s : Scalar) (v : BitVec s.width) :
    Obeys (Confined e A) (xdrScalar e .decode s v) :=
  xdrScalar_obeys (Confined.compositional e A) (xdrStdRecvUint32_confined hlen) s v

/-- Opaque data of a fixed size, into storage that was given. -/
theorem xdrOpaque_confined {buf : Dest} (hbuf : ∀ p, buf ≠ .block p) (cnt : BitVec 32)
    (old : Nat → Byte) : Obeys (Confined e A) (xdrOpaque e .decode buf cnt old) := by
  unfold xdrOpaque
  by_cases h : cnt = 0
  · rw [if_pos h]
    exact Obeys.pure (Confined.compositional e A) _
  · rw [if_neg h]
    exact xdrStdRecvBytes_confined hlen hbuf cnt old

/-- The same, into a block that has room for it. -/
theorem xdrOpaque_within {p n : Nat} {cnt : BitVec 32} (h : cnt.toNat ≤ n) (old : Nat → Byte) :
    Obeys (Within e A p n) (xdrOpaque e .decode (.block p) cnt old) := by
  unfold xdrOpaque
  by_cases hc : cnt = 0
  · rw [if_pos hc]
    exact Obeys.pure (Within.compositional e A p n) _
  · rw [if_neg hc]
    exact xdrStdRecvBytes_within hlen h old

/-- `xdr_bytes` stores into a block that it has allocated for as many bytes. -/
theorem xdrBytes_confined (maxsize : BitVec 32) (x : BitVec 32 × Option (Block (Nat → Byte))) :
    Obeys (Confined e A) (xdrBytes e maxsize .decode x) := by
  have hR := Confined.compositional e A
  unfold xdrBytes
  refine Obeys.attempt hR (xdrStdRecvUint32_confined hlen x.1) ?_
  intro size
  by_cases hmax : size > maxsize
  · rw [if_pos hmax]
    exact refuse_confined _
  rw [if_neg hmax]
  by_cases hzero : size = 0
  · rw [if_pos hzero]
    exact Obeys.pure hR _
  rw [if_neg hzero]
  obtain ⟨_, _ | b⟩ := x
  · refine alloc_confined ?_
    intro p
    have hW := Within.compositional e A p size.toNat
    exact Obeys.bind hW (xdrStdRecvBytes_within hlen (Nat.le_refl _) _) fun _ => Obeys.pure hW _
  · exact Obeys.bind hR (xdrStdRecvBytes_confined hlen (by simp) _ _) fun _ => Obeys.pure hR _

/-- `xdr_string` needs one byte more, for the terminator. -/
theorem xdrString_confined (maxsize : BitVec 32) (x : Option (Block (Nat → Byte))) :
    Obeys (Confined e A) (xdrString e maxsize .decode x) := by
  have hR := Confined.compositional e A
  unfold xdrString
  refine Obeys.attempt hR (xdrStdRecvUint32_confined hlen 0) ?_
  intro size
  by_cases hmax : size > maxsize
  · rw [if_pos hmax]
    exact refuse_confined _
  rw [if_neg hmax]
  by_cases hzero : size + 1#32 = 0
  · simp only [if_pos hzero]
    exact Obeys.pure hR _
  simp only [if_neg hzero]
  have hroom : size.toNat + 1 = (size + 1#32).toNat := toNat_add_one hzero
  obtain _ | b := x
  · refine alloc_confined ?_
    intro p
    have hW := Within.compositional e A p (size + 1#32).toNat
    refine Obeys.bind hW (touch_within fun _ => by omega) fun _ => ?_
    exact Obeys.bind hW (xdrOpaque_within hlen (by omega) _) fun _ => Obeys.pure hW _
  · exact Obeys.bind hR (xdrOpaque_confined hlen (by simp) _ _) fun _ => Obeys.pure hR _

end Receive

variable {elproc : Proc α}

/-- A vector is confined if its elements are. -/
theorem xdrVector_confined (h : ∀ a, Obeys (Confined e A) (elproc a)) (nelem : BitVec 32)
    (xs : Nat → α) : Obeys (Confined e A) (xdrVector nelem elproc xs) :=
  Obeys.loop (Confined.compositional e A) fun _ x _ => h x

/-- What a reference stands for is read into a block of its size. -/
theorem xdrReference_confined (h : ∀ a, Obeys (Confined e True) (elproc a)) (size : BitVec 32)
    (zero : α) (x : Option (Block α)) :
    Obeys (Confined e True) (xdrReference e size zero .decode elproc x) := by
  have hR := Confined.compositional e True
  obtain _ | b := x
  · refine alloc_confined ?_
    intro p
    have hW := Within.compositional e True p size.toNat
    refine Obeys.bind hW (touch_within fun _ => Nat.le_refl _) fun _ => ?_
    exact Obeys.bind hW (obeys_within (h zero) p _) fun _ => Obeys.pure hW _
  · exact Obeys.bind hR (h b.content) fun _ => Obeys.pure hR _

/-- A pointer is a word and, unless it is NULL, a reference. -/
theorem xdrPointer_confined (hlen : e.inLen.toInt ≤ rpcrouterMsgsizeMax)
    (h : ∀ a, Obeys (Confined e True) (elproc a)) (size : BitVec 32)
    (zero : α) (x : Option (Block α)) :
    Obeys (Confined e True) (xdrPointer e size zero .decode elproc x) := by
  have hR := Confined.compositional e True
  refine Obeys.attempt hR (xdrScalar_confined hlen .bool _) ?_
  intro moreData
  by_cases hmore : moreData = 0
  · rw [if_pos hmore]
    exact Obeys.pure hR _
  · rw [if_neg hmore]
    exact xdrReference_confined h size zero x

/-- The elements of a new array, if its size is what the elements need. -/
theorem elements_within (h : ∀ a, Obeys (Confined e True) (elproc a)) (c elsize : BitVec 32)
    (p : Nat) (xs : Nat → α) :
    Obeys (Within e (c.toNat * elsize.toNat < 4294967296) p (c * elsize).toNat)
      (xdrElements elsize elproc p c xs) := by
  have hW := Within.compositional e (c.toNat * elsize.toNat < 4294967296) p (c * elsize).toNat
  refine Obeys.loop hW ?_
  intro i a hi
  refine Obeys.bind hW (touch_within fun hsize => ?_) fun _ => obeys_within (h a) p _
  have hmul : (c * elsize).toNat = c.toNat * elsize.toNat := by
    rw [BitVec.toNat_mul, Nat.mod_eq_of_lt hsize]
  rw [hmul]
  exact Nat.mul_le_mul_right _ (by omega)

/-- The elements of an array are stored in a block of their size, if that does not wrap around. -/
theorem xdrArray_confined (hlen : e.inLen.toInt ≤ rpcrouterMsgsizeMax)
    (h : ∀ a, Obeys (Confined e True) (elproc a)) (maxsize elsize : BitVec 32) (zero : α)
    (x : BitVec 32 × Option (Block (Nat → α))) :
    Obeys (Confined e True) (xdrArray e maxsize elsize zero .decode elproc x) := by
  have hR := Confined.compositional e True
  refine Obeys.attempt hR (xdrStdRecvUint32_confined hlen _) ?_
  intro c
  by_cases hmax : c > maxsize ∧ XdrOp.decode ≠ .free
  · rw [if_pos hmax]
    exact refuse_confined _
  rw [if_neg hmax]
  obtain ⟨_, _ | b⟩ := x
  · by_cases hzero : c = 0
    · simp only [if_pos hzero]
      exact Obeys.pure hR _
    simp only [if_neg hzero]
    have hrest : Obeys (Confined e (c.toNat * elsize.toNat < 4294967296))
        (attempt (memAlloc e (c * elsize).toNat) (fun _ => (c, none)) fun p => do
          touch p (c * elsize).toNat
          let o ← xdrElements elsize elproc p c fun _ => zero
          pure (o.1, c, some (⟨p, o.2⟩ : Block (Nat → α)))) := by
      refine alloc_confined ?_
      intro p
      have hW := Within.compositional e (c.toNat * elsize.toNat < 4294967296) p
        (c * elsize).toNat
      refine Obeys.bind hW (touch_within fun _ => Nat.le_refl _) fun _ => ?_
      exact Obeys.bind hW (elements_within h c elsize p _) fun _ => Obeys.pure hW _
    intro s
    -- the event of the count is what gives the size to the rest
    refine ⟨(hrest s).kept, ?_⟩
    intro _ hperm hok
    have hsize : c.toNat * elsize.toNat < 4294967296 := hperm (.counts c elsize) (by simp)
    obtain ⟨hok', hle, hin⟩ :=
      (hrest s).inside hsize (fun ev hev => hperm ev (List.mem_cons_of_mem _ hev)) hok
    exact ⟨hok', hle, List.forall_mem_cons.mpr ⟨trivial, hin⟩⟩
  · exact Obeys.bind hR (Obeys.loop hR fun _ a _ => h a) fun _ => Obeys.pure hR _

/-- The fields of a structure, one after the other. -/
theorem xdrFields_confined {first : Proc α} {rest : Proc β}
    (hfirst : ∀ a, Obeys (Confined e A) (first a)) (hrest : ∀ b, Obeys (Confined e A) (rest b))
    (x : α × β) : Obeys (Confined e A) (xdrFields first rest x) := by
  have hR := Confined.compositional e A
  refine Obeys.attempt hR (hfirst x.1) ?_
  intro a
  exact Obeys.attempt hR (hrest x.2) fun _ => Obeys.pure hR _

/-- The arm that the discriminant selects. -/
theorem xdrUnion_confined {δ : Type} [DecidableEq δ] {γ : δ → Type} {disc : Proc δ}
    {arm : (d : δ) → Proc (γ d)} (hdisc : ∀ d, Obeys (Confined e A) (disc d))
    (harm : ∀ d a, Obeys (Confined e A) (arm d a)) (x : δ × ((d : δ) → γ d)) :
    Obeys (Confined e A) (xdrUnion disc arm x) := by
  have hR := Confined.compositional e A
  refine Obeys.attempt hR (hdisc x.1) ?_
  intro d
  exact Obeys.attempt hR (harm d (x.2 d)) fun _ => Obeys.pure hR _

/-- **Every routine is confined**, whatever the storage it decodes into. -/
theorem Routine.xdr_confined (hlen : e.inLen.toInt ≤ rpcrouterMsgsizeMax) (r : Routine) :
    ∀ x : r.Store, Obeys (Confined e True) (r.xdr e .decode x) := by
  induction r with
  | scalar s => exact xdrScalar_confined hlen s
  | fixedOpaque cnt => exact xdrOpaque_confined hlen (by simp) cnt
  | bytes maxsize => exact xdrBytes_confined hlen maxsize
  | string maxsize => exact xdrString_confined hlen maxsize
  | array maxsize elsize elem ih => exact xdrArray_confined hlen ih maxsize elsize elem.zero
  | vector nelem elem ih => exact xdrVector_confined ih nelem
  | reference size obj ih => exact xdrReference_confined ih size obj.zero
  | pointer size obj ih => exact xdrPointer_confined hlen ih size obj.zero
  | void => exact fun _ => Obeys.pure (Confined.compositional e True) _
  | fields first rest ih₁ ih₂ => exact xdrFields_confined ih₁ ih₂
  | union disc arm ih => exact xdrUnion_confined (xdrScalar_confined hlen disc.scalar) ih

/-! ## Stopping -/

/-- A refusal is the last thing that happens. -/
theorem refuse_stops (a : α) : Stops .refused (refuse a) :=
  fun _ => ⟨[], List.not_mem_nil, rfl⟩

/-- A failed allocation is one. -/
theorem memAlloc_stops (size : Nat) : Stops .refused (memAlloc e size) := by
  intro s
  unfold memAlloc
  by_cases hg : e.grants s.heap.calls = true
  · rw [if_pos hg]
    exact Stopped.of_not_mem (by simp)
  · rw [if_neg hg]
    exact refuse_stops 0 s

theorem touch_goes_on (p upto : Nat) (s : St) : Event.refused ∉ (touch p upto s).trace := by
  simp [touch]

/-- A word that is not there is refused, and nothing happens after that. -/
theorem xdrStdRecvUint32_stops (value : BitVec 32) :
    Stops .refused (xdrStdRecvUint32 e value) := by
  intro s
  unfold xdrStdRecvUint32
  by_cases hfit : (s.inNext + 4#32).toInt > e.inLen.toInt
  · rw [if_pos hfit]
    exact refuse_stops value s
  · rw [if_neg hfit]
    exact Stopped.of_not_mem (by simp)

/-- The same for bytes. -/
theorem xdrStdRecvBytes_stops (buf : Dest) (len : BitVec 32) (old : Nat → Byte) :
    Stops .refused (xdrStdRecvBytes e buf len old) := by
  intro s
  unfold xdrStdRecvBytes
  by_cases hfit : (s.inNext + len).toInt > e.inLen.toInt
  · rw [if_pos hfit]
    exact ⟨[.asks s.inNext len], by simp, rfl⟩
  · rw [if_neg hfit]
    refine Stopped.of_not_mem ?_
    cases buf <;> simp [Dest.copied]

theorem xdrRecvAuth_stops : Stops .refused (xdrRecvAuth e) := by
  refine Stops.attempt (xdrStdRecvUint32_stops 0) fun _ => ?_
  refine Stops.attempt (xdrStdRecvUint32_stops 0) fun oaLength => ?_
  by_cases h : oaLength ≠ 0
  · rw [if_pos h]
    exact Stops.attempt (xdrStdRecvBytes_stops _ _ _) fun _ => refuse_stops ()
  · rw [if_neg h]
    exact Stops.pure ()

theorem oneWord_stops {w : Nat} (stored : BitVec 32 → BitVec w) (old : BitVec w) :
    Stops .refused (oneWord e stored old) :=
  Stops.attempt (xdrStdRecvUint32_stops 0) fun _ => Stops.pure _

theorem xdrScalar_stops (s : Scalar) (v : BitVec s.width) :
    Stops .refused (xdrScalar e .decode s v) := by
  cases s with
  | int | uInt | long | uLong | enum | float => exact xdrStdRecvUint32_stops v
  | bool | short | uShort | char | uChar => exact oneWord_stops _ v
  | uHyper | double =>
    unfold xdrScalar
    refine Stops.attempt (xdrStdRecvUint32_stops _) fun _ => ?_
    exact Stops.attempt (xdrStdRecvUint32_stops _) fun _ => Stops.pure _

/-- The same for opaque data. -/
theorem xdrOpaque_stops (buf : Dest) (cnt : BitVec 32) (old : Nat → Byte) :
    Stops .refused (xdrOpaque e .decode buf cnt old) := by
  unfold xdrOpaque
  by_cases h : cnt = 0
  · rw [if_pos h]
    exact Stops.pure old
  · rw [if_neg h]
    exact xdrStdRecvBytes_stops buf cnt old

/-- The same for counted bytes, also where there is no memory for them. -/
theorem xdrBytes_stops (maxsize : BitVec 32) (x : BitVec 32 × Option (Block (Nat → Byte))) :
    Stops .refused (xdrBytes e maxsize .decode x) := by
  unfold xdrBytes
  refine Stops.attempt (xdrStdRecvUint32_stops x.1) fun size => ?_
  by_cases hmax : size > maxsize
  · rw [if_pos hmax]
    exact refuse_stops _
  rw [if_neg hmax]
  by_cases hzero : size = 0
  · rw [if_pos hzero]
    exact Stops.pure _
  rw [if_neg hzero]
  obtain ⟨_, _ | b⟩ := x
  · refine Stops.attempt (memAlloc_stops _) fun p => ?_
    exact (xdrStdRecvBytes_stops _ _ _).map fun bytes => (size, some (Block.mk p bytes))
  · exact (xdrStdRecvBytes_stops _ _ _).map fun bytes => (size, some (Block.mk b.addr bytes))

theorem xdrString_stops (maxsize : BitVec 32) (x : Option (Block (Nat → Byte))) :
    Stops .refused (xdrString e maxsize .decode x) := by
  unfold xdrString
  refine Stops.attempt (xdrStdRecvUint32_stops 0) fun size => ?_
  by_cases hmax : size > maxsize
  · rw [if_pos hmax]
    exact refuse_stops _
  rw [if_neg hmax]
  by_cases hzero : size + 1#32 = 0
  · simp only [if_pos hzero]
    exact Stops.pure _
  simp only [if_neg hzero]
  obtain _ | b := x
  · refine Stops.attempt (memAlloc_stops _) fun p => ?_
    refine Stops.after (touch_goes_on p _) fun _ => ?_
    exact (xdrOpaque_stops _ _ _).map fun bytes => some (Block.mk p bytes)
  · exact (xdrOpaque_stops _ _ _).map fun bytes => some (Block.mk b.addr bytes)

/-- The elements of an array end with the first that is refused. -/
theorem xdrElements_stops (h : ∀ a, Stops .refused (elproc a)) (elsize : BitVec 32) (p : Nat)
    (c : BitVec 32) (xs : Nat → α) : Stops .refused (xdrElements elsize elproc p c xs) :=
  Stops.loop (fun _ a => Stops.after (touch_goes_on p _) fun _ => h a) _ _ xs

/-- An array ends with the word, the block or the element that is refused. -/
theorem xdrArray_stops (h : ∀ a, Stops .refused (elproc a)) (maxsize elsize : BitVec 32)
    (zero : α) (x : BitVec 32 × Option (Block (Nat → α))) :
    Stops .refused (xdrArray e maxsize elsize zero .decode elproc x) := by
  refine Stops.attempt (xdrStdRecvUint32_stops x.1) fun c => ?_
  by_cases hmax : c > maxsize ∧ XdrOp.decode ≠ .free
  · rw [if_pos hmax]
    exact refuse_stops _
  rw [if_neg hmax]
  obtain ⟨_, _ | b⟩ := x
  · by_cases hzero : c = 0
    · simp only [if_pos hzero]
      exact Stops.pure _
    simp only [if_neg hzero]
    refine Stops.after (fun s => by simp) fun _ => ?_
    refine Stops.attempt (memAlloc_stops _) fun p => ?_
    refine Stops.after (touch_goes_on p _) fun _ => ?_
    exact (xdrElements_stops h elsize p c _).map fun xs => (c, some (Block.mk p xs))
  · exact (Stops.loop (fun _ a => h a) _ _ _).map fun xs => (c, some (Block.mk b.addr xs))

theorem xdrReference_stops (h : ∀ a, Stops .refused (elproc a)) (size : BitVec 32) (zero : α)
    (x : Option (Block α)) : Stops .refused (xdrReference e size zero .decode elproc x) := by
  obtain _ | b := x
  · refine Stops.attempt (memAlloc_stops _) fun p => ?_
    refine Stops.after (touch_goes_on p _) fun _ => ?_
    exact (h zero).map fun a => some (Block.mk p a)
  · exact (h b.content).map fun a => some (Block.mk b.addr a)

theorem xdrPointer_stops (h : ∀ a, Stops .refused (elproc a)) (size : BitVec 32) (zero : α)
    (x : Option (Block α)) : Stops .refused (xdrPointer e size zero .decode elproc x) := by
  refine Stops.attempt (xdrScalar_stops .bool _) fun moreData => ?_
  by_cases hmore : moreData = 0
  · rw [if_pos hmore]
    exact Stops.pure _
  · rw [if_neg hmore]
    exact xdrReference_stops h size zero x

/-- **Every routine stops** at the first operation that fails. -/
theorem Routine.xdr_stops (r : Routine) :
    ∀ x : r.Store, Stops .refused (r.xdr e .decode x) := by
  induction r with
  | scalar s => exact xdrScalar_stops s
  | fixedOpaque cnt => exact xdrOpaque_stops _ cnt
  | bytes maxsize => exact xdrBytes_stops maxsize
  | string maxsize => exact xdrString_stops maxsize
  | array maxsize elsize elem ih => exact xdrArray_stops ih maxsize elsize elem.zero
  | vector nelem elem ih => exact fun xs => Stops.loop (fun _ a => ih a) _ _ xs
  | reference size obj ih => exact xdrReference_stops ih size obj.zero
  | pointer size obj ih => exact xdrPointer_stops ih size obj.zero
  | void => exact fun _ => Stops.pure _
  | fields first rest ih₁ ih₂ =>
    intro x
    exact Stops.attempt (ih₁ x.1) fun _ => Stops.attempt (ih₂ x.2) fun _ => Stops.pure _
  | union disc arm ih =>
    intro x
    refine Stops.attempt (xdrScalar_stops disc.scalar x.1) fun d => ?_
    exact Stops.attempt (ih d (x.2 d)) fun _ => Stops.pure _

end Steps

/-! ## Sequences of receive operations -/

/-- `xdr_std_read` (svc_clnt_common.c:100–112): where reading starts in a message
of `in_len` bytes. -/
def xdrStdRead (inLen : BitVec 32) : Option (BitVec 32) :=
  if inLen.toInt < 0 then none
  else if inLen.toInt < 8 then none
  else some 8#32

/-- A receive operation: `xdr_recv_auth`, or a routine with the storage it is given. -/
inductive Receive
  | auth
  | routine (r : Routine) (x : r.Store)

def Receive.exec (e : Env) : Receive → Run (Bool × Unit)
  | auth => xdrRecvAuth e
  | routine r x => do
    let o ← r.xdr e .decode x
    pure (o.1, ())

/-- One after the other, up to the first that fails. -/
def receiveAll (e : Env) : List Receive → Run (Bool × Unit)
  | [] => pure (true, ())
  | op :: ops => attempt (op.exec e) id fun _ => receiveAll e ops

section Sequences

variable {e : Env}

/-- Whatever is read from a message, one thing after the other, is confined to it. -/
theorem receiveAll_confined (hlen : e.inLen.toInt ≤ rpcrouterMsgsizeMax) :
    ∀ ops, Obeys (Confined e True) (receiveAll e ops)
  | [] => Obeys.pure (Confined.compositional e True) _
  | op :: ops => by
    have hR := Confined.compositional e True
    refine Obeys.attempt hR ?_ fun _ => receiveAll_confined hlen ops
    cases op with
    | auth => exact xdrRecvAuth_confined hlen
    | routine r x => exact Obeys.bind hR (r.xdr_confined hlen x) fun _ => Obeys.pure hR _

/-- Nothing is read after a refusal. -/
theorem receiveAll_stops : ∀ ops, Stops .refused (receiveAll e ops)
  | [] => Stops.pure ()
  | op :: ops => by
    refine Stops.attempt ?_ fun _ => receiveAll_stops ops
    cases op with
    | auth => exact xdrRecvAuth_stops
    | routine r x => exact (r.xdr_stops x).map fun _ => ()

/-- A message that was read starts with the cursor inside. -/
theorem xdrStdRead_cursorOk {next : BitVec 32} (h : xdrStdRead e.inLen = some next)
    (heap : Heap) : CursorOk e ⟨next, heap⟩ := by
  unfold xdrStdRead at h
  split at h
  · cases h
  split at h
  · cases h
  cases h
  have hnext : (8#32).toInt = 8 := by decide
  simp only [CursorOk, Env.limit, hnext]
  omega

end Sequences

/-! ## Send operations -/

inductive Sent
  /-- `xdr_std_send_bytes` is called for `len` bytes. -/
  | asks (next len : BitVec 32)
  /-- Bytes of `out_msg` are written. -/
  | write (start : Int) (len : Nat)
  deriving DecidableEq

/-- `out_next + len` is in the range of the unsigned sum. -/
def Sent.Permitted : Sent → Prop
  | asks next len => next.toNat + len.toNat < 4294967296
  | write _ _ => True

instance : (ev : Sent) → Decidable ev.Permitted
  | .asks next len => inferInstanceAs (Decidable (next.toNat + len.toNat < 4294967296))
  | .write _ _ => inferInstanceAs (Decidable True)

def Sent.Inside : Sent → Prop
  | asks _ _ => True
  | write start len => 0 ≤ start ∧ start + len ≤ rpcrouterMsgsizeMax

/-- `xdr_std_send_uint32` (svc_clnt_common.c:115–121), on `out_next`. -/
def xdrStdSendUint32 : Traced (BitVec 32) Sent Bool := fun next =>
  if next.toInt ≥ rpcrouterMsgsizeMax - 3 then ⟨false, next, []⟩
  else ⟨true, next + 4#32, [.write next.toInt 4]⟩

/-- `while(xdr->out_next % 4) xdr->out_msg[xdr->out_next++] = 0;` -/
def sendPadding (next : BitVec 32) : BitVec 32 × List Sent :=
  if next.toNat % 4 = 0 then (next, [])
  else
    let o := sendPadding (next + 1#32)
    (o.1, .write next.toInt 1 :: o.2)
  termination_by (4 - next.toNat % 4) % 4
  decreasing_by
    rw [BitVec.toNat_add, BitVec.toNat_ofNat]
    omega

/-- `xdr_std_send_bytes` (svc_clnt_common.c:152–161), on `out_next`. -/
def xdrStdSendBytes (len : BitVec 32) : Traced (BitVec 32) Sent Bool := fun next =>
  if (next + len).toNat > rpcrouterMsgsizeMax then ⟨false, next, [.asks next len]⟩
  else
    let o := sendPadding (next + len)
    ⟨true, o.1, .asks next len :: .write next.toInt len.toNat :: o.2⟩

inductive SendOp
  | uint32
  | bytes (len : BitVec 32)

def SendOp.exec : SendOp → Traced (BitVec 32) Sent Bool
  | uint32 => xdrStdSendUint32
  | bytes len => xdrStdSendBytes len

/-- One after the other, also past one that fails. -/
def sendAll : List SendOp → Traced (BitVec 32) Sent Unit
  | [] => pure ()
  | op :: ops => do
    let _ ← op.exec
    sendAll ops

/-- `out_next` lies in `out_msg`. -/
def SendOk (next : BitVec 32) : Prop := 0 ≤ next.toInt ∧ next.toInt ≤ rpcrouterMsgsizeMax

def SendConfined (s t : BitVec 32) (trace : List Sent) : Prop :=
  (∀ ev ∈ trace, ev.Permitted) → SendOk s → SendOk t ∧ ∀ ev ∈ trace, ev.Inside

/-- Confined writes one after the other are confined. -/
theorem SendConfined.compositional : Compositional SendConfined where
  refl _ := fun _ h => ⟨h, by simp⟩
  trans h₁ h₂ := by
    intro hperm hs
    rw [List.forall_mem_append] at hperm ⊢
    obtain ⟨ht, hin₁⟩ := h₁ hperm.1 hs
    obtain ⟨hu, hin₂⟩ := h₂ hperm.2 ht
    exact ⟨hu, hin₁, hin₂⟩

/-- Up to the size of the buffer `out_next` is not negative as an `int`. -/
theorem sendOk_of_le {next : BitVec 32} (h : next.toNat ≤ 18432) :
    SendOk next ∧ next.toInt = next.toNat := by
  have hint : next.toInt = next.toNat := BitVec.toInt_eq_toNat_of_lt (by omega)
  have hmax : (rpcrouterMsgsizeMax : Int) = 18432 := rfl
  refine ⟨⟨?_, ?_⟩, hint⟩ <;> omega

/-- The padding ends at the next multiple of 4, so inside a buffer whose size is one. -/
theorem sendPadding_inside (next : BitVec 32) (h : next.toNat ≤ 18432) :
    SendOk (sendPadding next).1 ∧ ∀ ev ∈ (sendPadding next).2, ev.Inside := by
  induction next using sendPadding.induct with
  | case1 next hmod =>
    rw [sendPadding, if_pos hmod]
    exact ⟨(sendOk_of_le h).1, by simp⟩
  | case2 next hmod ih =>
    have hstep : (next + 1#32).toNat = next.toNat + 1 := by
      rw [BitVec.toNat_add, BitVec.toNat_ofNat]
      omega
    obtain ⟨hok, hin⟩ := ih (by omega)
    rw [sendPadding, if_neg hmod]
    refine ⟨hok, List.forall_mem_cons.mpr ⟨?_, hin⟩⟩
    have hmax : (rpcrouterMsgsizeMax : Int) = 18432 := rfl
    simp only [Sent.Inside, (sendOk_of_le h).2]
    omega

/-- The test of `out_next` keeps a word inside the buffer. -/
theorem xdrStdSendUint32_confined : Obeys SendConfined xdrStdSendUint32 := by
  intro next _ hok
  unfold xdrStdSendUint32
  by_cases hfull : next.toInt ≥ rpcrouterMsgsizeMax - 3
  · rw [if_pos hfull]
    exact ⟨hok, by simp⟩
  · rw [if_neg hfull]
    have hmax : (rpcrouterMsgsizeMax : Int) = 18432 := rfl
    obtain ⟨hnat, -⟩ := toNat_of_nonneg hok.1
    have hstep : (next + 4#32).toNat = next.toNat + 4 := by
      rw [BitVec.toNat_add, BitVec.toNat_ofNat]
      omega
    have hok' : SendOk (next + 4#32) := (sendOk_of_le (by omega)).1
    refine ⟨hok', ?_⟩
    simp only [List.forall_mem_singleton, Sent.Inside]
    omega

/-- The test keeps bytes and their padding inside the buffer. -/
theorem xdrStdSendBytes_confined (len : BitVec 32) :
    Obeys SendConfined (xdrStdSendBytes len) := by
  intro next hperm hok
  unfold xdrStdSendBytes at hperm ⊢
  by_cases hfull : (next + len).toNat > rpcrouterMsgsizeMax
  · rw [if_pos hfull]
    exact ⟨hok, by simp [Sent.Inside]⟩
  · rw [if_neg hfull] at hperm ⊢
    have hrange : next.toNat + len.toNat < 4294967296 :=
      hperm (.asks next len) List.mem_cons_self
    have hsum : (next + len).toNat = next.toNat + len.toNat := by
      rw [BitVec.toNat_add]
      omega
    have hmax : rpcrouterMsgsizeMax = 18432 := rfl
    obtain ⟨hnat, -⟩ := toNat_of_nonneg hok.1
    obtain ⟨hok', hin⟩ := sendPadding_inside (next + len) (by omega)
    refine ⟨hok', List.forall_mem_cons.mpr ⟨trivial, List.forall_mem_cons.mpr ⟨?_, hin⟩⟩⟩
    simp only [Sent.Inside]
    omega

/-- Whatever is written, one thing after the other, stays inside the buffer. -/
theorem sendAll_confined : ∀ ops, Obeys SendConfined (sendAll ops)
  | [] => Obeys.pure SendConfined.compositional ()
  | op :: ops => by
    refine Obeys.bind SendConfined.compositional ?_ fun _ => sendAll_confined ops
    cases op with
    | uint32 => exact xdrStdSendUint32_confined
    | bytes len => exact xdrStdSendBytes_confined len

/-! ## Both directions -/

/-- **The cursors stay inside.** A message as `r_read` returns it and
`xdr_std_read` accepts it, any sequence of receive operations on it, in any storage
and with any allocations granted; and any sequence of send operations from
`xdr_std_msg_start` on. -/
theorem cursors_inside (e : Env) (hlen : e.inLen.toInt ≤ rpcrouterMsgsizeMax)
    (next : BitVec 32) (hread : xdrStdRead e.inLen = some next) (heap : Heap)
    (receives : List Receive)
    (hreceives : ∀ ev ∈ (receiveAll e receives ⟨next, heap⟩).trace, ev.Permitted e)
    (sends : List SendOp) (hsends : ∀ ev ∈ (sendAll sends 8#32).trace, ev.Permitted) :
    ((∀ ev ∈ (receiveAll e receives ⟨next, heap⟩).trace, ev.Inside e) ∧
      CursorOk e (receiveAll e receives ⟨next, heap⟩).state ∧
      next.toInt ≤ (receiveAll e receives ⟨next, heap⟩).state.inNext.toInt ∧
      Stopped .refused (receiveAll e receives ⟨next, heap⟩).val.1
        (receiveAll e receives ⟨next, heap⟩).trace) ∧
    (∀ ev ∈ (sendAll sends 8#32).trace, ev.Inside) ∧ SendOk (sendAll sends 8#32).state := by
  have hstart := xdrStdRead_cursorOk hread heap
  obtain ⟨hok, hle, hin⟩ :=
    (receiveAll_confined hlen receives ⟨next, heap⟩).inside trivial hreceives hstart
  have hsend : SendOk 8#32 := (sendOk_of_le (by decide)).1
  obtain ⟨hsent, hwritten⟩ := sendAll_confined sends 8#32 hsends hsend
  exact ⟨⟨hin, hok, hle, receiveAll_stops receives _⟩, hwritten, hsent⟩

/-- No block is allocated. -/
def noBlocks : Heap := ⟨fun _ => none, 0, fun _ _ => rfl⟩

/-- A header of two words and a counted byte string, of which `in_len` bytes were
received. -/
def countedBytes (count inLen : BitVec 32) : Env where
  inMsg k := if 8 ≤ k ∧ k < 12 then (htonl count).getD (k - 8).toNat 0 else 0
  inLen := inLen
  grants _ := true
  junk _ _ := 0

theorem cursors_inside_three_bytes :
    (∀ ev ∈ (receiveAll (countedBytes 3 16) [.routine (.bytes 0xFFFFFFFF) (0, none)]
      ⟨8#32, noBlocks⟩).trace, ev.Inside (countedBytes 3 16)) ∧
    SendOk (sendAll [.bytes 5, .uint32] 8#32).state := by
  have h := cursors_inside (countedBytes 3 16) (by decide) 8#32 (by decide) noBlocks
    [.routine (.bytes 0xFFFFFFFF) (0, none)] (by decide) [.bytes 5, .uint32] (by
      simp [sendAll, SendOp.exec, xdrStdSendBytes, xdrStdSendUint32, sendPadding,
        rpcrouterMsgsizeMax, Sent.Permitted])
  exact ⟨h.1.1, h.2.2⟩

/-- A byte string whose length makes the sum negative is copied from 2 GB behind
`in_msg`, and the cursor is left outside. -/
theorem huge_length_is_copied :
    ¬ ∀ (e : Env) (next : BitVec 32) (heap : Heap) (receives : List Receive),
      e.inLen.toInt ≤ rpcrouterMsgsizeMax → xdrStdRead e.inLen = some next →
      (∀ ev ∈ (receiveAll e receives ⟨next, heap⟩).trace, ev.Inside e) ∧
        CursorOk e (receiveAll e receives ⟨next, heap⟩).state := by
  intro h
  have hcase := h (countedBytes 0x80000000 12) 8#32 noBlocks
    [.routine (.bytes 0xFFFFFFFF) (0, none)] (by decide) (by decide)
  have hread : Event.read 12 2147483648 ∈ (receiveAll (countedBytes 0x80000000 12)
      [.routine (.bytes 0xFFFFFFFF) (0, none)] ⟨8#32, noBlocks⟩).trace := by
    decide
  exact absurd (hcase.1 _ hread).2 (by decide)

end Ancora.Xdr.Storage
