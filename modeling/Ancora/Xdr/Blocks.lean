import Mathlib.Data.List.Perm.Basic
import Mathlib.Data.List.Nodup
import Ancora.Xdr.Storage

/-!
# Decoding and freeing

A decode into zeroed storage may stop anywhere: with a count stored and no array,
with an array and only some of its elements, with a string allocated and not
filled. What `XDR_FREE` relies on in all of these states is that storage owns its
blocks (`Routine.owned`: their addresses, in the order in which they are freed)
and that each is as large as the routine takes it to be (`Routine.Sound`).

- `Routine.decode_spec`: a decode allocates exactly what the storage then owns,
  and leaves it sound.
- `Routine.free_spec`: one `XDR_FREE` pass over sound storage frees exactly what
  it owns, each block once, and leaves NULL pointers.
- `Routine.free_nulled`: over NULL pointers the pass does nothing.
- **`decode_free_balanced`**: the three together.
-/

namespace Ancora.Xdr.Storage

open Traced

/-! ## What a trace allocates and frees -/

def allocated (trace : List Event) : List Nat :=
  trace.filterMap fun
    | .alloc p _ => some p
    | _ => none

def freed (trace : List Event) : List Nat :=
  trace.filterMap fun
    | .free p _ => some p
    | _ => none

@[simp] theorem allocated_append (l l' : List Event) :
    allocated (l ++ l') = allocated l ++ allocated l' := List.filterMap_append

@[simp] theorem freed_append (l l' : List Event) : freed (l ++ l') = freed l ++ freed l' :=
  List.filterMap_append

/-- No pointer leaves its block, and only blocks are freed. -/
def Event.Tidy : Event → Prop
  | .reach inside => inside = true
  | .free _ allocated => allocated = true
  | _ => True

/-! ## Storage and its blocks -/

namespace Routine

/-- For the declared maxima the size of an array does not wrap. -/
def NoWrap : Routine → Prop
  | array maxsize elsize elem => maxsize.toNat * elsize.toNat < 4294967296 ∧ elem.NoWrap
  | vector _ elem => elem.NoWrap
  | reference _ obj => obj.NoWrap
  | pointer _ obj => obj.NoWrap
  | fields first rest => first.NoWrap ∧ rest.NoWrap
  | union _ arm => ∀ d, (arm d).NoWrap
  | _ => True

/-- The blocks that the storage points to, in the order in which they are freed. -/
def owned : (r : Routine) → r.Store → List Nat
  | scalar _, _ => []
  | fixedOpaque _, _ => []
  | bytes _, x => x.2.elim [] fun b => [b.addr]
  | string _, x => x.elim [] fun b : Block (Nat → Byte) => [b.addr]
  | array _ _ elem, x => x.2.elim [] fun b =>
    (List.range' 0 x.1.toNat).flatMap (fun i => elem.owned (b.content i)) ++ [b.addr]
  | vector nelem elem, x => (List.range' 0 nelem.toNat).flatMap fun i => elem.owned (x i)
  | reference _ obj, x => x.elim [] fun b : Block obj.Store => obj.owned b.content ++ [b.addr]
  | pointer _ obj, x => x.elim [] fun b : Block obj.Store => obj.owned b.content ++ [b.addr]
  | void, _ => []
  | fields first rest, x => first.owned x.1 ++ rest.owned x.2
  | union _ arm, x => (arm x.1).owned (x.2 x.1)

/-- Every pointer is to a block of the size that the routine takes it to have, and
every string ends in its block. -/
def Sound (size : Nat → Option Nat) : (r : Routine) → r.Store → Prop
  | scalar _, _ => True
  | fixedOpaque _, _ => True
  | bytes _, x => ∀ b, x.2 = some b → (size b.addr).isSome = true
  | string maxsize, x => ∀ b : Block (Nat → Byte), x = some b →
    ∃ n, size b.addr = some (n + 1) ∧ n ≤ maxsize.toNat ∧ b.content n = 0
  | array _ elsize elem, x => ∀ b, x.2 = some b →
    (∃ n, size b.addr = some n ∧ x.1.toNat * elsize.toNat ≤ n) ∧
      ∀ i < x.1.toNat, elem.Sound size (b.content i)
  | vector nelem elem, x => ∀ i < nelem.toNat, elem.Sound size (x i)
  | reference objSize obj, x => ∀ b : Block obj.Store, x = some b →
    (∃ n, size b.addr = some n ∧ objSize.toNat ≤ n) ∧ obj.Sound size b.content
  | pointer objSize obj, x => ∀ b : Block obj.Store, x = some b →
    (∃ n, size b.addr = some n ∧ objSize.toNat ≤ n) ∧ obj.Sound size b.content
  | void, _ => True
  | fields first rest, x => first.Sound size x.1 ∧ rest.Sound size x.2
  | union _ arm, x => (arm x.1).Sound size (x.2 x.1)

/-- Every pointer that `XDR_FREE` comes by is NULL. -/
def Nulled : (r : Routine) → r.Store → Prop
  | scalar _, _ => True
  | fixedOpaque _, _ => True
  | bytes _, x => x.2 = none
  | string _, x => x = none
  | array _ _ _, x => x.2 = none
  | vector nelem elem, x => ∀ i < nelem.toNat, elem.Nulled (x i)
  | reference _ _, x => x = none
  | pointer _ _, x => x = none
  | void, _ => True
  | fields first rest, x => first.Nulled x.1 ∧ rest.Nulled x.2
  | union _ arm, x => (arm x.1).Nulled (x.2 x.1)

/-- A cleared value owns no blocks. -/
theorem owned_zero (r : Routine) : r.owned r.zero = [] := by
  induction r with
  | scalar _ => rfl
  | fixedOpaque _ => rfl
  | bytes _ => rfl
  | string _ => rfl
  | array _ _ _ _ => rfl
  | vector nelem elem ih => simp [owned, zero, ih]
  | reference _ _ _ => rfl
  | pointer _ _ _ => rfl
  | void => rfl
  | fields first rest ih₁ ih₂ => simp [owned, zero, ih₁, ih₂]
  | union disc arm ih => exact ih 0

/-- A cleared value is sound, whatever there is in the heap. -/
theorem sound_zero (size : Nat → Option Nat) (r : Routine) : r.Sound size r.zero := by
  induction r with
  | scalar _ => trivial
  | fixedOpaque _ => trivial
  | bytes _ => simp [Sound, zero]
  | string _ => simp [Sound, zero]
  | array _ _ _ _ => simp [Sound, zero]
  | vector nelem elem ih => exact fun _ _ => ih
  | reference _ _ _ => simp [Sound, zero]
  | pointer _ _ _ => simp [Sound, zero]
  | void => trivial
  | fields first rest ih₁ ih₂ => exact ⟨ih₁, ih₂⟩
  | union disc arm ih => exact ih 0

/-- Only its own blocks matter to storage. -/
theorem Sound.congr {size size' : Nat → Option Nat} {r : Routine} {x : r.Store}
    (h : r.Sound size x) (hsize : ∀ p ∈ r.owned x, size' p = size p) : r.Sound size' x := by
  induction r with
  | scalar _ => trivial
  | fixedOpaque _ => trivial
  | bytes _ =>
    intro b hb
    rw [hsize b.addr (by simp [owned, hb])]
    exact h b hb
  | string _ =>
    intro b hb
    rw [hsize b.addr (by simp [owned, hb])]
    exact h b hb
  | array _ _ elem ih =>
    intro b hb
    obtain ⟨hblock, helems⟩ := h b hb
    rw [hsize b.addr (by simp [owned, hb])]
    refine ⟨hblock, fun i hi => ih (helems i hi) fun p hp => hsize p ?_⟩
    simp only [owned, hb, Option.elim_some, List.mem_append, List.mem_flatMap]
    exact Or.inl ⟨i, by simpa using hi, hp⟩
  | vector nelem elem ih =>
    intro i hi
    refine ih (h i hi) fun p hp => hsize p ?_
    simp only [owned, List.mem_flatMap]
    exact ⟨i, by simpa using hi, hp⟩
  | reference _ obj ih | pointer _ obj ih =>
    intro b hb
    obtain ⟨hblock, hobj⟩ := h b hb
    rw [hsize b.addr (by simp [owned, hb])]
    refine ⟨hblock, ih hobj fun p hp => hsize p ?_⟩
    simp [owned, hb, hp]
  | void => trivial
  | fields first rest ih₁ ih₂ =>
    exact ⟨ih₁ h.1 fun p hp => hsize p (List.mem_append_left _ hp),
      ih₂ h.2 fun p hp => hsize p (List.mem_append_right _ hp)⟩
  | union disc arm ih => exact ih x.1 h hsize

end Routine

/-! ## Decoding -/

/-- From `s` to `t` exactly the blocks `l` are new, and nothing was freed. -/
structure Grown (s t : Heap) (trace : List Event) (l : List Nat) : Prop where
  calls : s.calls ≤ t.calls
  range : ∀ p ∈ l, s.calls ≤ p ∧ p < t.calls
  nodup : l.Nodup
  frame : ∀ p, p ∉ l → t.size p = s.size p
  allocs : (allocated trace).Perm l
  tidy : ∀ ev ∈ trace, ev.Tidy

namespace Grown

variable {s t u : Heap} {trace trace' : List Event} {l l' : List Nat}

/-- What grows and grows again has grown. -/
theorem trans (h₁ : Grown s t trace l) (h₂ : Grown t u trace' l') :
    Grown s u (trace ++ trace') (l ++ l') where
  calls := h₁.calls.trans h₂.calls
  range p hp := by
    have hst := h₁.calls
    have htu := h₂.calls
    rcases List.mem_append.mp hp with hp | hp
    · have := h₁.range p hp
      omega
    · have := h₂.range p hp
      omega
  nodup := by
    refine List.nodup_append.mpr ⟨h₁.nodup, h₂.nodup, ?_⟩
    intro p hp q hq
    have := h₁.range p hp
    have := h₂.range q hq
    omega
  frame p hp := by
    rw [List.mem_append, not_or] at hp
    rw [h₂.frame p hp.2, h₁.frame p hp.1]
  allocs := by
    rw [allocated_append]
    exact h₁.allocs.append h₂.allocs
  tidy := List.forall_mem_append.mpr ⟨h₁.tidy, h₂.tidy⟩

/-- The order of the new blocks does not matter. -/
theorem perm (h : Grown s t trace l) (hl : l.Perm l') : Grown s t trace l' where
  calls := h.calls
  range p hp := h.range p (hl.mem_iff.mpr hp)
  nodup := hl.nodup_iff.mp h.nodup
  frame p hp := h.frame p fun hmem => hp (hl.mem_iff.mp hmem)
  allocs := h.allocs.trans hl
  tidy := h.tidy

/-- What was there before is still there. -/
theorem size_eq (h : Grown s t trace l) {p : Nat} (hp : p < s.calls) : t.size p = s.size p := by
  refine h.frame p fun hmem => ?_
  have := h.range p hmem
  omega

/-- A sound value stays so when the heap grows. -/
theorem sound (h : Grown s t trace l) {r : Routine} {x : r.Store} (hx : r.Sound s.size x)
    (howned : ∀ p ∈ r.owned x, p < s.calls) : r.Sound t.size x :=
  hx.congr fun p hp => h.size_eq (howned p hp)

end Grown

/-- The heap is as it was. -/
def Quiet (s t : St) (trace : List Event) : Prop :=
  t.heap = s.heap ∧ allocated trace = [] ∧ ∀ ev ∈ trace, ev.Tidy

/-- Quiet steps one after the other are quiet. -/
theorem Quiet.compositional : Compositional Quiet where
  refl s := ⟨rfl, rfl, by simp⟩
  trans h₁ h₂ := by
    refine ⟨h₂.1.trans h₁.1, ?_, List.forall_mem_append.mpr ⟨h₁.2.2, h₂.2.2⟩⟩
    rw [allocated_append, h₁.2.1, h₂.2.1]
    rfl

/-- With quiet steps there are no new blocks. -/
theorem Quiet.grown {s t : St} {trace : List Event} (h : Quiet s t trace) :
    Grown s.heap t.heap trace [] where
  calls := by rw [h.1]
  range p hp := by cases hp
  nodup := List.nodup_nil
  frame p _ := by rw [h.1]
  allocs := by rw [h.2.1]
  tidy := h.2.2

section Decode

variable {e : Env} {α β : Type}

/-- A refusal allocates nothing. -/
theorem refuse_quiet (a : α) : Obeys Quiet (refuse a) :=
  fun _ => ⟨rfl, rfl, by simp [refuse, Event.Tidy]⟩

/-- Reading a word allocates nothing. -/
theorem xdrStdRecvUint32_quiet (value : BitVec 32) : Obeys Quiet (xdrStdRecvUint32 e value) := by
  intro s
  unfold xdrStdRecvUint32
  by_cases hfit : (s.inNext + 4#32).toInt > e.inLen.toInt
  · rw [if_pos hfit]
    exact refuse_quiet value s
  · rw [if_neg hfit]
    exact ⟨rfl, rfl, by simp [Event.Tidy]⟩

/-- Reading bytes into storage that is there allocates nothing. -/
theorem xdrStdRecvBytes_quiet (buf : Dest) (len : BitVec 32) (old : Nat → Byte) (s : St)
    (hdest : ∀ p, buf = .block p → s.heap.holds p len.toNat = true) :
    Quiet s (xdrStdRecvBytes e buf len old s).state (xdrStdRecvBytes e buf len old s).trace := by
  unfold xdrStdRecvBytes
  by_cases hfit : (s.inNext + len).toInt > e.inLen.toInt
  · rw [if_pos hfit]
    exact ⟨rfl, rfl, by simp [Event.Tidy]⟩
  · rw [if_neg hfit]
    cases buf with
    | null => exact ⟨rfl, rfl, by simp [Dest.copied, Event.Tidy]⟩
    | given => exact ⟨rfl, rfl, by simp [Dest.copied, Event.Tidy]⟩
    | block p => exact ⟨rfl, rfl, by simp [Dest.copied, Event.Tidy, hdest p rfl]⟩

/-- Neither does reading opaque data into it. -/
theorem xdrOpaque_quiet (buf : Dest) (cnt : BitVec 32) (old : Nat → Byte) (s : St)
    (hdest : ∀ p, buf = .block p → s.heap.holds p cnt.toNat = true) :
    Quiet s (xdrOpaque e .decode buf cnt old s).state
      (xdrOpaque e .decode buf cnt old s).trace := by
  unfold xdrOpaque
  by_cases h : cnt = 0
  · rw [if_pos h]
    exact Quiet.compositional.refl s
  · rw [if_neg h]
    exact xdrStdRecvBytes_quiet buf cnt old s hdest

/-- An allocation that succeeds gives one new block, of the size asked for. -/
theorem memAlloc_granted {size : Nat} {s : St} (h : (memAlloc e size s).val.1 = true) :
    Grown s.heap (memAlloc e size s).state.heap (memAlloc e size s).trace
      [(memAlloc e size s).val.2] ∧
    (memAlloc e size s).state.heap.size (memAlloc e size s).val.2 = some size := by
  unfold memAlloc at h ⊢
  by_cases hg : e.grants s.heap.calls = true
  · rw [if_pos hg]
    refine ⟨⟨by simp [Heap.alloc], by simp [Heap.alloc], by simp, ?_, by simp [allocated],
      by simp [Event.Tidy]⟩, by simp [Heap.alloc]⟩
    intro p hp
    exact Function.update_of_ne (by simpa using hp) _ _
  · rw [if_neg hg] at h
    cases h

/-- One that fails gives none. -/
theorem memAlloc_denied {size : Nat} {s : St} (h : (memAlloc e size s).val.1 = false) :
    Grown s.heap (memAlloc e size s).state.heap (memAlloc e size s).trace [] := by
  unfold memAlloc at h ⊢
  by_cases hg : e.grants s.heap.calls = true
  · rw [if_pos hg] at h
    cases h
  · rw [if_neg hg]
    exact ⟨by simp [Heap.deny], by simp, by simp, fun _ _ => rfl, by simp [allocated],
      by simp [Event.Tidy]⟩

/-- The decode has allocated what the storage owns, and the storage is sound. -/
def Decoded (r : Routine) (s : St) (o : Outcome St Event (Bool × r.Store)) : Prop :=
  Grown s.heap o.state.heap o.trace (r.owned o.val.2) ∧ r.Sound o.state.heap.size o.val.2

/-- One `XDR_DECODE` pass over zeroed storage. -/
def Decodes (e : Env) (r : Routine) : Prop :=
  ∀ s, Decoded r s (r.xdr e .decode r.zero s)

/-- Storage without blocks. -/
def Bare (r : Routine) (x : r.Store) : Prop := r.owned x = [] ∧ ∀ size, r.Sound size x

theorem bare_zero (r : Routine) : Bare r r.zero := ⟨r.owned_zero, fun size => r.sound_zero size⟩

variable {r : Routine}

/-- A decoder that allocates nothing may leave a value without blocks. -/
theorem Quiet.decoded {s : St} {o : Outcome St Event (Bool × r.Store)}
    (h : Quiet s o.state o.trace) (hbare : Bare r o.val.2) : Decoded r s o := by
  refine ⟨?_, hbare.2 _⟩
  rw [hbare.1]
  exact h.grown

/-- The same for what a decoder does before it allocates anything. -/
theorem Decoded.after_quiet {p : Run (Bool × α)} {left : α → r.Store}
    {next : α → Run (Bool × r.Store)} (hp : Obeys Quiet p) (hleft : ∀ a, Bare r (left a))
    (hnext : ∀ a t, Decoded r t (next a t)) (s : St) : Decoded r s (attempt p left next s) := by
  have hquiet := hp s
  cases ho : (p s).val.1 with
  | false =>
    rw [attempt_false ho]
    exact Quiet.decoded hquiet (hleft _)
  | true =>
    rw [attempt_true ho]
    obtain ⟨hgrown, hsound⟩ := hnext (p s).val.2 (p s).state
    exact ⟨hquiet.grown.trans hgrown, hsound⟩

/-- An allocation, and then what is decoded into the block. -/
theorem Decoded.after_alloc {n : Nat} {left : Nat → r.Store} {next : Nat → Run (Bool × r.Store)}
    (hleft : ∀ p, Bare r (left p))
    (hnext : ∀ p t, t.heap.size p = some n → p < t.heap.calls →
      ∃ l, Grown t.heap (next p t).state.heap (next p t).trace l ∧
        r.owned (next p t).val.2 = l ++ [p] ∧
        r.Sound (next p t).state.heap.size (next p t).val.2) (s : St) :
    Decoded r s (attempt (memAlloc e n) left next s) := by
  cases ho : (memAlloc e n s).val.1 with
  | false =>
    rw [attempt_false ho]
    refine ⟨?_, (hleft _).2 _⟩
    rw [(hleft _).1]
    exact memAlloc_denied ho
  | true =>
    rw [attempt_true ho]
    obtain ⟨halloc, hsize⟩ := memAlloc_granted ho
    have hcalls := (halloc.range _ List.mem_cons_self).2
    obtain ⟨l, hgrown, howned, hsound⟩ := hnext _ _ hsize hcalls
    refine ⟨?_, hsound⟩
    rw [howned]
    exact (halloc.trans hgrown).perm List.perm_append_comm

/-- Counted bytes own their block, also when they are cut off. -/
theorem bytes_decoded (maxsize : BitVec 32) (s : St) :
    Decoded (.bytes maxsize) s (xdrBytes e maxsize .decode (0, none) s) := by
  have hbare (size : BitVec 32) : Bare (.bytes maxsize) (size, none) :=
    ⟨rfl, fun _ => by simp [Routine.Sound]⟩
  unfold xdrBytes
  refine Decoded.after_quiet (xdrStdRecvUint32_quiet 0) hbare ?_ s
  intro size t
  by_cases hmax : size > maxsize
  · rw [if_pos hmax]
    exact Quiet.decoded (refuse_quiet _ t) (hbare size)
  rw [if_neg hmax]
  by_cases hzero : size = 0
  · rw [if_pos hzero]
    exact Quiet.decoded (Quiet.compositional.refl t) (hbare size)
  rw [if_neg hzero]
  refine Decoded.after_alloc (fun _ => hbare size) ?_ t
  intro p u hsize _
  have hquiet := xdrStdRecvBytes_quiet (e := e) (.block p) size (e.junk p) u
    (by rintro q ⟨⟩; simp [Heap.holds, hsize])
  refine ⟨[], ?_, rfl, ?_⟩
  · simpa using hquiet.grown
  · rintro b ⟨⟩
    simp [hquiet.1, hsize]

/-- Cells behind the bytes that are read stay as they were. -/
theorem xdrStdRecvBytes_keeps (buf : Dest) (len : BitVec 32) (old : Nat → Byte) (s : St)
    {k : Nat} (hk : len.toNat ≤ k) : (xdrStdRecvBytes e buf len old s).val.2 k = old k := by
  unfold xdrStdRecvBytes
  by_cases hfit : (s.inNext + len).toInt > e.inLen.toInt
  · rw [if_pos hfit]
  · rw [if_neg hfit]
    exact if_neg (by omega)

/-- The NUL of a string is stored before its bytes, and they do not reach it. -/
theorem xdrOpaque_keeps_nul (buf : Dest) (size : BitVec 32) (old : Nat → Byte) (s : St) :
    (xdrOpaque e .decode buf size (Function.update old size.toNat 0) s).val.2 size.toNat = 0 := by
  unfold xdrOpaque
  by_cases h : size = 0
  · rw [if_pos h]
    exact Function.update_self _ _ _
  · rw [if_neg h]
    exact (xdrStdRecvBytes_keeps buf size _ s (Nat.le_refl _)).trans (Function.update_self _ _ _)

/-- A string owns its block, which has its terminator. -/
theorem string_decoded (maxsize : BitVec 32) (s : St) :
    Decoded (.string maxsize) s (xdrString e maxsize .decode none s) := by
  have hbare : Bare (.string maxsize) none := bare_zero (.string maxsize)
  unfold xdrString
  refine Decoded.after_quiet (xdrStdRecvUint32_quiet 0) (fun _ => hbare) ?_ s
  intro size t
  by_cases hmax : size > maxsize
  · rw [if_pos hmax]
    exact Quiet.decoded (refuse_quiet _ t) hbare
  rw [if_neg hmax]
  by_cases hzero : size + 1#32 = 0
  · simp only [if_pos hzero]
    exact Quiet.decoded (Quiet.compositional.refl t) hbare
  simp only [if_neg hzero]
  have hroom : size.toNat + 1 = (size + 1#32).toNat := toNat_add_one hzero
  refine Decoded.after_alloc (fun _ => hbare) ?_ t
  intro p u hsize _
  rw [← hroom] at hsize
  have hquiet := xdrOpaque_quiet (e := e) (.block p) size
    (Function.update (e.junk p) size.toNat 0) u
    (by rintro q ⟨⟩; simp [Heap.holds, hsize])
  refine ⟨[], ?_, rfl, ?_⟩
  · have htouch : Quiet u u [.reach (u.heap.holds p (size.toNat + 1))] :=
      ⟨rfl, rfl, by simp [Event.Tidy, Heap.holds, hsize]⟩
    simpa [touch] using (Quiet.compositional.trans htouch hquiet).grown
  · rintro b ⟨⟩
    refine ⟨size.toNat, ?_, BitVec.not_lt.mp hmax, xdrOpaque_keeps_nul _ size _ u⟩
    simp only [touch, bind_apply, pure_apply]
    rw [hquiet.1, hsize]

/-- Elements decoded one after the other into zeroed entries. `Pre` is what the
elements rely on and leave as it is. -/
theorem loop_decoded (elem : Routine) (body : Nat → elem.Store → Run (Bool × elem.Store))
    (Pre : Heap → Prop) {m : Nat}
    (hpre : ∀ {h h' trace l}, Pre h → Grown h h' trace l → Pre h')
    (hbody : ∀ i s, i < m → Pre s.heap → Decoded elem s (body i elem.zero s)) :
    ∀ (n i : Nat) (xs : Nat → elem.Store) (s : St), i + n ≤ m → Pre s.heap →
      (∀ k, i ≤ k → xs k = elem.zero) →
      Grown s.heap (loop body n i xs s).state.heap (loop body n i xs s).trace
        ((List.range' i n).flatMap fun k => elem.owned ((loop body n i xs s).val.2 k)) ∧
      ∀ k, i ≤ k → k < i + n →
        elem.Sound (loop body n i xs s).state.heap.size ((loop body n i xs s).val.2 k) := by
  intro n
  induction n with
  | zero =>
    intro i xs s _ _ _
    exact ⟨(Quiet.compositional.refl s).grown, fun k h₁ h₂ => by omega⟩
  | succ n ih =>
    intro i xs s hm hs hzero
    have hi := hbody i s (by omega) hs
    rw [← hzero i (Nat.le_refl i)] at hi
    obtain ⟨hgrown, hsound⟩ := hi
    rw [loop]
    cases ho : (body i (xs i) s).val.1 with
    | false =>
      rw [attempt_false ho]
      have hrest : ∀ k, i + 1 ≤ k →
          Function.update xs i (body i (xs i) s).val.2 k = elem.zero := by
        intro k hk
        rw [Function.update_of_ne (by omega)]
        exact hzero k (by omega)
      refine ⟨?_, ?_⟩
      · have htail : (List.range' (i + 1) n).flatMap (fun k =>
            elem.owned (Function.update xs i (body i (xs i) s).val.2 k)) = [] := by
          rw [List.flatMap_eq_nil_iff]
          intro k hk
          rw [hrest k (List.mem_range'_1.mp hk).1, elem.owned_zero]
        dsimp only
        rw [List.range'_succ, List.flatMap_cons, htail, Function.update_self, List.append_nil]
        exact hgrown
      · intro k hik _
        rcases Nat.eq_or_lt_of_le hik with rfl | hlt
        · dsimp only
          rw [Function.update_self]
          exact hsound
        · dsimp only
          rw [hrest k hlt]
          exact elem.sound_zero _
    | true =>
      rw [attempt_true ho]
      obtain ⟨hgrown', hsound'⟩ := ih (i + 1)
        (Function.update xs i (body i (xs i) s).val.2) (body i (xs i) s).state (by omega)
        (hpre hs hgrown) (by
          intro k hk
          rw [Function.update_of_ne (by omega)]
          exact hzero k (by omega))
      have hself : (loop body n (i + 1) (Function.update xs i (body i (xs i) s).val.2)
          (body i (xs i) s).state).val.2 i = (body i (xs i) s).val.2 := by
        rw [loop_before (Nat.lt_succ_self i), Function.update_self]
      refine ⟨?_, ?_⟩
      · rw [List.range'_succ, List.flatMap_cons, hself]
        exact hgrown.trans hgrown'
      · intro k hik hkn
        rcases Nat.eq_or_lt_of_le hik with rfl | hlt
        · rw [hself]
          exact hgrown'.sound hsound fun p hp => (hgrown.range p hp).2
        · exact hsound' k hlt (by omega)

variable {elem : Routine}

/-- A vector owns the blocks of its elements. -/
theorem vector_decoded (nelem : BitVec 32)
    (ih : Decodes e elem) (s : St) :
    Decoded (.vector nelem elem) s
      (xdrVector nelem (elem.xdr e .decode) (fun _ => elem.zero) s) := by
  obtain ⟨hgrown, hsound⟩ := loop_decoded elem (fun _ => elem.xdr e .decode) (fun _ => True)
    (fun _ _ => trivial) (fun _ s _ _ => ih s) nelem.toNat 0 (fun _ => elem.zero) s
    (Nat.le_refl _) trivial (fun _ _ => rfl)
  exact ⟨hgrown, fun i hi => hsound i (Nat.zero_le i) (by omega)⟩

/-- The elements of an array that has been allocated with the size they need. -/
theorem elements_decoded (ih : Decodes e elem)
    (elsize c : BitVec 32) {p : Nat} {s : St}
    (hsize : s.heap.size p = some (c.toNat * elsize.toNat)) (hp : p < s.heap.calls) :
    let o := xdrElements elsize (elem.xdr e .decode) p c (fun _ => elem.zero) s
    Grown s.heap o.state.heap o.trace
      ((List.range' 0 c.toNat).flatMap fun k => elem.owned (o.val.2 k)) ∧
    ∀ k < c.toNat, elem.Sound o.state.heap.size (o.val.2 k) := by
  let Pre : Heap → Prop := fun h => h.size p = some (c.toNat * elsize.toNat) ∧ p < h.calls
  have hpre {h h' : Heap} {trace : List Event} {l : List Nat} (hh : Pre h)
      (hgrown : Grown h h' trace l) : Pre h' :=
    ⟨(hgrown.size_eq hh.2).trans hh.1, hh.2.trans_le hgrown.calls⟩
  have hbody (i : Nat) (t : St) (hi : i < c.toNat) (ht : Pre t.heap) :
      Decoded elem t ((touch p ((i + 1) * elsize.toNat) >>=
        fun _ => elem.xdr e .decode elem.zero) t) := by
    have hfits : (i + 1) * elsize.toNat ≤ c.toNat * elsize.toNat :=
      Nat.mul_le_mul_right _ hi
    have htouch : Quiet t t [.reach (t.heap.holds p ((i + 1) * elsize.toNat))] :=
      ⟨rfl, rfl, by simp [Event.Tidy, Heap.holds, ht.1, hfits]⟩
    obtain ⟨hgrown, hsound⟩ := ih t
    exact ⟨htouch.grown.trans hgrown, hsound⟩
  obtain ⟨hgrown, hsound⟩ := loop_decoded elem
    (fun i a => touch p ((i + 1) * elsize.toNat) >>= fun _ => elem.xdr e .decode a) Pre
    hpre hbody c.toNat 0 (fun _ => elem.zero) s (Nat.le_of_eq (Nat.zero_add _)) ⟨hsize, hp⟩
    (fun _ _ => rfl)
  exact ⟨hgrown, fun i hi => hsound i (Nat.zero_le i) (by omega)⟩

/-- An array owns its block and those of its elements, as long as the size of the block does not
wrap around. -/
theorem array_decoded (maxsize elsize : BitVec 32)
    (hwrap : maxsize.toNat * elsize.toNat < 4294967296)
    (ih : Decodes e elem) (s : St) :
    Decoded (.array maxsize elsize elem) s
      (xdrArray e maxsize elsize elem.zero .decode (elem.xdr e .decode) (0, none) s) := by
  have hbare (c : BitVec 32) : Bare (.array maxsize elsize elem) (c, none) :=
    ⟨rfl, fun _ => by simp [Routine.Sound]⟩
  refine Decoded.after_quiet (xdrStdRecvUint32_quiet 0) hbare ?_ s
  intro c t
  by_cases hmax : c > maxsize ∧ XdrOp.decode ≠ .free
  · rw [if_pos hmax]
    exact Quiet.decoded (refuse_quiet _ t) (hbare c)
  rw [if_neg hmax]
  by_cases hzero : c = 0
  · simp only [if_pos hzero]
    exact Quiet.decoded (Quiet.compositional.refl t) (hbare c)
  simp only [if_neg hzero]
  have hle : c ≤ maxsize := BitVec.not_lt.mp fun h => hmax ⟨h, by decide⟩
  have hnodesize : (c * elsize).toNat = c.toNat * elsize.toNat := by
    rw [BitVec.toNat_mul, Nat.mod_eq_of_lt]
    exact (Nat.mul_le_mul_right _ hle).trans_lt hwrap
  have hcount : Quiet t t [.counts c elsize] := ⟨rfl, rfl, by simp [Event.Tidy]⟩
  have hrest : Decoded (.array maxsize elsize elem) t
      (attempt (memAlloc e (c * elsize).toNat) (fun _ => (c, none)) (fun p => do
        touch p (c * elsize).toNat
        let o ← xdrElements elsize (elem.xdr e .decode) p c fun _ => elem.zero
        pure (o.1, c, some ⟨p, o.2⟩)) t) := by
    refine Decoded.after_alloc (fun _ => hbare c) ?_ t
    intro p u hsize hp
    rw [hnodesize] at hsize
    obtain ⟨hgrown, hsound⟩ := elements_decoded ih elsize c hsize hp
    have htouch : Quiet u u [.reach (u.heap.holds p (c * elsize).toNat)] :=
      ⟨rfl, rfl, by simp [Event.Tidy, Heap.holds, hsize, hnodesize]⟩
    refine ⟨_, ?_, rfl, ?_⟩
    · simpa [touch] using htouch.grown.trans hgrown
    · rintro b ⟨⟩
      exact ⟨⟨_, (hgrown.size_eq hp).trans hsize, Nat.le_refl _⟩, hsound⟩
  exact ⟨hcount.grown.trans hrest.1, hrest.2⟩

/-- A reference owns its block and those of what is in it. -/
theorem reference_decoded (size : BitVec 32)
    (ih : Decodes e elem) (s : St) :
    Decoded (.reference size elem) s
      (xdrReference e size elem.zero .decode (elem.xdr e .decode) none s) := by
  refine Decoded.after_alloc (fun _ => bare_zero (.reference size elem)) ?_ s
  intro p t hsize hp
  obtain ⟨hgrown, hsound⟩ := ih t
  have htouch : Quiet t t [.reach (t.heap.holds p size.toNat)] :=
    ⟨rfl, rfl, by simp [Event.Tidy, Heap.holds, hsize]⟩
  refine ⟨_, ?_, rfl, ?_⟩
  · simpa [touch] using htouch.grown.trans hgrown
  · rintro b ⟨⟩
    exact ⟨⟨_, (hgrown.size_eq hp).trans hsize, Nat.le_refl _⟩, hsound⟩

/-- So does a pointer, unless it is NULL. -/
theorem pointer_decoded (size : BitVec 32)
    (ih : Decodes e elem) (s : St) :
    Decoded (.pointer size elem) s
      (xdrPointer e size elem.zero .decode (elem.xdr e .decode) none s) := by
  have hbare : Bare (.pointer size elem) none := bare_zero (.pointer size elem)
  refine Decoded.after_quiet (oneWord_obeys Quiet.compositional xdrStdRecvUint32_quiet truth _)
    (fun _ => hbare) ?_ s
  intro moreData t
  by_cases hmore : moreData = 0
  · rw [if_pos hmore]
    exact Quiet.decoded (Quiet.compositional.refl t) hbare
  · rw [if_neg hmore]
    exact reference_decoded size ih t

/-- A structure owns the blocks of its fields. -/
theorem fields_decoded {first rest : Routine}
    (ih₁ : Decodes e first) (ih₂ : Decodes e rest) (s : St) :
    Decoded (.fields first rest) s
      (xdrFields (first.xdr e .decode) (rest.xdr e .decode) (first.zero, rest.zero) s) := by
  obtain ⟨hgrown₁, hsound₁⟩ := ih₁ s
  unfold xdrFields
  cases h₁ : (first.xdr e .decode first.zero s).val.1 with
  | false =>
    rw [attempt_false h₁]
    refine ⟨?_, hsound₁, rest.sound_zero _⟩
    simpa [Routine.owned, rest.owned_zero] using hgrown₁
  | true =>
    rw [attempt_true h₁]
    obtain ⟨hgrown₂, hsound₂⟩ := ih₂ (first.xdr e .decode first.zero s).state
    have hkept := hgrown₂.sound hsound₁ fun p hp => (hgrown₁.range p hp).2
    cases h₂ : (rest.xdr e .decode rest.zero (first.xdr e .decode first.zero s).state).val.1 with
    | false =>
      rw [attempt_false h₂]
      exact ⟨hgrown₁.trans hgrown₂, hkept, hsound₂⟩
    | true =>
      rw [attempt_true h₂]
      refine ⟨?_, hkept, hsound₂⟩
      simpa [Routine.owned] using hgrown₁.trans hgrown₂

/-- A union owns the blocks of its arms. -/
theorem union_decoded (disc : Disc) (arm : BitVec disc.scalar.width → Routine)
    (ih : ∀ d, Decodes e (arm d)) (s : St) :
    Decoded (.union disc arm) s
      (xdrUnion (xdrScalar e .decode disc.scalar) (fun d => (arm d).xdr e .decode)
        (0, fun d => (arm d).zero) s) := by
  refine Decoded.after_quiet (xdrScalar_obeys Quiet.compositional xdrStdRecvUint32_quiet _ _)
    (fun d => bare_zero (arm d)) ?_ s
  intro d t
  obtain ⟨hgrown, hsound⟩ := ih d t
  have hself : Function.update (fun d => (arm d).zero) d
      ((arm d).xdr e .decode (arm d).zero t).val.2 d =
      ((arm d).xdr e .decode (arm d).zero t).val.2 := Function.update_self _ _ _
  cases h : ((arm d).xdr e .decode (arm d).zero t).val.1 with
  | false =>
    rw [attempt_false h]
    simp only [Decoded, Routine.owned, Routine.Sound, hself]
    exact ⟨hgrown, hsound⟩
  | true =>
    rw [attempt_true h]
    simp only [Decoded, Routine.owned, Routine.Sound, pure_apply, List.append_nil, hself]
    exact ⟨hgrown, hsound⟩

/-- **Every decode, however far it gets**, allocates what the storage owns in the
end. By induction on the routine. -/
theorem Routine.decode_spec (r : Routine) (hr : r.NoWrap) : Decodes e r := by
  induction r with
  | scalar sc =>
    intro s
    exact Quiet.decoded (xdrScalar_obeys Quiet.compositional xdrStdRecvUint32_quiet sc _ s)
      ⟨rfl, fun _ => trivial⟩
  | fixedOpaque cnt =>
    intro s
    exact Quiet.decoded (xdrOpaque_quiet .given cnt _ s (by simp)) ⟨rfl, fun _ => trivial⟩
  | bytes maxsize => exact bytes_decoded maxsize
  | string maxsize => exact string_decoded maxsize
  | array maxsize elsize elem ih => exact array_decoded maxsize elsize hr.1 (ih hr.2)
  | vector nelem elem ih => exact vector_decoded nelem (ih hr)
  | reference size obj ih => exact reference_decoded size (ih hr)
  | pointer size obj ih => exact pointer_decoded size (ih hr)
  | void => exact fun s => Quiet.decoded (Quiet.compositional.refl s) (bare_zero .void)
  | fields first rest ih₁ ih₂ => exact fields_decoded (ih₁ hr.1) (ih₂ hr.2)
  | union disc arm ih => exact union_decoded disc arm fun d => ih d (hr d)

end Decode

/-! ## Freeing -/

/-- From `s` to `t` exactly the blocks `l` were freed, in this order. -/
structure Shrunk (s t : Heap) (trace : List Event) (l : List Nat) : Prop where
  gone : ∀ p ∈ l, t.size p = none
  frame : ∀ p, p ∉ l → t.size p = s.size p
  frees : freed trace = l
  tidy : ∀ ev ∈ trace, ev.Tidy

namespace Shrunk

variable {s t u : Heap} {trace trace' : List Event} {l l' : List Nat}

theorem refl (s : Heap) : Shrunk s s [] [] := ⟨by simp, fun _ _ => rfl, rfl, by simp⟩

theorem trans (h₁ : Shrunk s t trace l) (h₂ : Shrunk t u trace' l') :
    Shrunk s u (trace ++ trace') (l ++ l') where
  gone p hp := by
    by_cases hp' : p ∈ l'
    · exact h₂.gone p hp'
    · rw [h₂.frame p hp']
      exact h₁.gone p ((List.mem_append.mp hp).resolve_right hp')
  frame p hp := by
    rw [List.mem_append, not_or] at hp
    rw [h₂.frame p hp.2, h₁.frame p hp.1]
  frees := by rw [freed_append, h₁.frees, h₂.frees]
  tidy := List.forall_mem_append.mpr ⟨h₁.tidy, h₂.tidy⟩

/-- Storage with other blocks stays sound. -/
theorem sound (h : Shrunk s t trace l) {r : Routine} {x : r.Store} (hx : r.Sound s.size x)
    (hother : ∀ p ∈ r.owned x, p ∉ l) : r.Sound t.size x :=
  hx.congr fun p hp => h.frame p (hother p hp)

end Shrunk

/-- `touch` inside a block. -/
theorem shrunk_touch {p upto n : Nat} {s : St} (hsize : s.heap.size p = some n) (h : upto ≤ n) :
    Shrunk s.heap s.heap (touch p upto s).trace [] :=
  ⟨by simp, fun _ _ => rfl, rfl, by simp [touch, Event.Tidy, Heap.holds, hsize, h]⟩

/-- Freeing a block takes this block away and no other. -/
theorem shrunk_free {p : Nat} {s : St} (h : (s.heap.size p).isSome = true) :
    Shrunk s.heap (memFree p s).state.heap (memFree p s).trace [p] where
  gone q hq := by
    rw [List.mem_singleton.mp hq]
    exact Function.update_self _ _ _
  frame q hq := Function.update_of_ne (by simpa using hq) _ _
  frees := rfl
  tidy := by simp [memFree, Event.Tidy, h]

/-- The pass went through, freed what the storage owned and left NULL pointers. -/
structure Released (r : Routine) (s : St) (x : r.Store)
    (o : Outcome St Event (Bool × r.Store)) : Prop where
  ok : o.val.1 = true
  shrunk : Shrunk s.heap o.state.heap o.trace (r.owned x)
  nulled : r.Nulled o.val.2

/-- One `XDR_FREE` pass over sound storage. -/
def Frees (e : Env) (r : Routine) : Prop :=
  ∀ x s, r.Sound s.heap.size x → (r.owned x).Nodup → Released r s x (r.xdr e .free x s)

section Free

variable {e : Env} {r elem : Routine}

/-- Opaque data of a fixed size has nothing to free. -/
theorem xdrOpaque_free (buf : Dest) (cnt : BitVec 32) (old : Nat → Byte) (s : St) :
    xdrOpaque e .free buf cnt old s = ⟨(true, old), s, []⟩ := by
  unfold xdrOpaque
  by_cases h : cnt = 0
  · rw [if_pos h]
    rfl
  · rw [if_neg h]
    rfl

theorem xdrArray_free_none {α : Type} (maxsize elsize c : BitVec 32) (zero : α)
    (elproc : Proc α) (s : St) :
    xdrArray e maxsize elsize zero .free elproc (c, none) s = ⟨(true, c, none), s, []⟩ := by
  simp [xdrArray, xdrUInt, attempt]

/-- What owns no blocks is left as it is. -/
theorem released_untouched {s : St} {x : r.Store} (hown : r.owned x = []) (hx : r.Nulled x) :
    Released r s x ⟨(true, x), s, []⟩ :=
  ⟨rfl, by rw [hown]; exact Shrunk.refl s.heap, hx⟩

/-- Counted bytes free their block and clear the pointer. -/
theorem bytes_released (maxsize : BitVec 32) (x : Routine.Store (.bytes maxsize)) (s : St)
    (hx : Routine.Sound s.heap.size (.bytes maxsize) x) :
    Released (.bytes maxsize) s x (xdrBytes e maxsize .free x s) := by
  obtain ⟨size, _ | b⟩ := x
  · exact released_untouched rfl rfl
  · refine ⟨rfl, ?_, rfl⟩
    simpa [xdrBytes, Routine.owned] using shrunk_free (hx b rfl)

/-- A string with a terminator has a length. -/
theorem strlen_le {n : Nat} {bytes : Nat → Byte} (h : bytes n = 0) :
    ∃ k ≤ n, strlen (n + 1) bytes = some k := by
  cases hfind : strlen (n + 1) bytes with
  | none =>
    have hnone := List.find?_eq_none.mp hfind n (List.mem_range.mpr (Nat.lt_succ_self n))
    simp [h] at hnone
  | some k =>
    have hmem := List.mem_range.mp (List.mem_of_find?_eq_some hfind)
    exact ⟨k, by omega, rfl⟩

/-- A string frees its block and clears the pointer. -/
theorem string_released (maxsize : BitVec 32) (x : Routine.Store (.string maxsize)) (s : St)
    (hx : Routine.Sound s.heap.size (.string maxsize) x) :
    Released (.string maxsize) s x (xdrString e maxsize .free x s) := by
  obtain _ | b := x
  · exact released_untouched rfl rfl
  · obtain ⟨n, hsize, hmax, hnul⟩ := hx b rfl
    obtain ⟨k, hk, hstrlen⟩ := strlen_le hnul
    have hlen : ¬ BitVec.ofNat 32 k > maxsize := by
      have hlt := maxsize.isLt
      rw [gt_iff_lt, BitVec.lt_def, BitVec.toNat_ofNat]
      omega
    have hrun : xdrString e maxsize .free (some b) s =
        (do touch b.addr (k + 1); memFree b.addr; pure (true, none) :
          Run (Bool × Option (Block (Nat → Byte)))) s := by
      simp only [xdrString, bind_apply, get_apply, hsize, Option.getD_some, hstrlen, if_neg hlen,
        List.nil_append]
    rw [hrun]
    refine ⟨rfl, ?_, rfl⟩
    have hfree : Shrunk s.heap (memFree b.addr s).state.heap (memFree b.addr s).trace [b.addr] :=
      shrunk_free (by simp [hsize])
    simpa [touch, Routine.owned] using
      (shrunk_touch hsize (show k + 1 ≤ n + 1 by omega)).trans hfree

/-- The elements one after the other. `Pre` is what they rely on besides their own
blocks; it is about the addresses `keep`, which are not freed. -/
theorem loop_released (elem : Routine) (body : Nat → elem.Store → Run (Bool × elem.Store))
    (Pre : (Nat → Option Nat) → Prop) (keep : Nat → Prop) {m : Nat}
    (hpre : ∀ {size size'}, (∀ p, keep p → size' p = size p) → Pre size → Pre size')
    (hbody : ∀ i x s, i < m → Pre s.heap.size → elem.Sound s.heap.size x →
      (elem.owned x).Nodup → Released elem s x (body i x s)) :
    ∀ (n i : Nat) (xs : Nat → elem.Store) (s : St), i + n ≤ m → Pre s.heap.size →
      (∀ k, i ≤ k → k < i + n → elem.Sound s.heap.size (xs k)) →
      ((List.range' i n).flatMap fun k => elem.owned (xs k)).Nodup →
      (∀ p ∈ (List.range' i n).flatMap fun k => elem.owned (xs k), ¬ keep p) →
      (loop body n i xs s).val.1 = true ∧
      Shrunk s.heap (loop body n i xs s).state.heap (loop body n i xs s).trace
        ((List.range' i n).flatMap fun k => elem.owned (xs k)) ∧
      ∀ k, i ≤ k → k < i + n → elem.Nulled ((loop body n i xs s).val.2 k) := by
  intro n
  induction n with
  | zero =>
    intro i xs s _ _ _ _ _
    exact ⟨rfl, Shrunk.refl s.heap, fun k h₁ h₂ => by omega⟩
  | succ n ih =>
    intro i xs s hm hs hsound hnodup hkeep
    rw [List.range'_succ, List.flatMap_cons] at hnodup hkeep ⊢
    obtain ⟨hnodup₁, hnodup₂, hdisj⟩ := List.nodup_append.mp hnodup
    obtain ⟨hok, hshrunk, hnulled⟩ := hbody i (xs i) s (by omega) hs
      (hsound i (Nat.le_refl i) (by omega)) hnodup₁
    -- the other entries are as they were
    have hentry (k : Nat) (hk : i + 1 ≤ k) :
        Function.update xs i (body i (xs i) s).val.2 k = xs k :=
      Function.update_of_ne (by omega) _ _
    have hflat : ((List.range' (i + 1) n).flatMap fun k =>
        elem.owned (Function.update xs i (body i (xs i) s).val.2 k)) =
        (List.range' (i + 1) n).flatMap fun k => elem.owned (xs k) := by
      refine List.flatMap_congr fun k hk => ?_
      rw [hentry k (List.mem_range'_1.mp hk).1]
    have hpre' : Pre (body i (xs i) s).state.heap.size := by
      refine hpre (fun p hp => hshrunk.frame p fun hmem => ?_) hs
      exact hkeep p (List.mem_append_left _ hmem) hp
    have hsound' : ∀ k, i + 1 ≤ k → k < i + 1 + n → elem.Sound (body i (xs i) s).state.heap.size
        (Function.update xs i (body i (xs i) s).val.2 k) := by
      intro k hk hkn
      rw [hentry k hk]
      refine hshrunk.sound (hsound k (by omega) (by omega)) fun p hp hmem => ?_
      refine hdisj p hmem p (List.mem_flatMap.mpr ⟨k, ?_, hp⟩) rfl
      exact List.mem_range'_1.mpr ⟨hk, hkn⟩
    obtain ⟨hok', hshrunk', hnulled'⟩ := ih (i + 1) _ _ (by omega) hpre' hsound'
      (by rw [hflat]; exact hnodup₂)
      (by rw [hflat]; exact fun p hp => hkeep p (List.mem_append_right _ hp))
    rw [hflat] at hshrunk'
    rw [loop, attempt_true hok]
    refine ⟨hok', hshrunk.trans hshrunk', ?_⟩
    intro k hik hkn
    rcases Nat.eq_or_lt_of_le hik with rfl | hlt
    · rw [loop_before (Nat.lt_succ_self i), Function.update_self]
      exact hnulled
    · exact hnulled' k hlt (by omega)

/-- A vector frees the blocks of its elements. -/
theorem vector_released (nelem : BitVec 32)
    (ih : Frees e elem)
    (x : Routine.Store (.vector nelem elem)) (s : St)
    (hx : Routine.Sound s.heap.size (.vector nelem elem) x)
    (hnodup : (Routine.owned (.vector nelem elem) x).Nodup) :
    Released (.vector nelem elem) s x (xdrVector nelem (elem.xdr e .free) x s) := by
  obtain ⟨hok, hshrunk, hnulled⟩ := loop_released elem (fun _ => elem.xdr e .free)
    (fun _ => True) (fun _ => False) (fun _ _ => trivial) (fun _ x s _ _ => ih x s)
    nelem.toNat 0 x s (Nat.le_refl _) trivial (fun k _ hk => hx k (by omega)) hnodup (by simp)
  exact ⟨hok, hshrunk, fun i hi => hnulled i (Nat.zero_le i) (by omega)⟩

/-- The elements of an array that is as large as its count says. -/
theorem elements_released
    (ih : Frees e elem) (elsize c : BitVec 32) (xs : Nat → elem.Store) {p n : Nat} {s : St}
    (hsize : s.heap.size p = some n) (hn : c.toNat * elsize.toNat ≤ n)
    (hx : ∀ i < c.toNat, elem.Sound s.heap.size (xs i))
    (hnodup : ((List.range' 0 c.toNat).flatMap (fun i => elem.owned (xs i)) ++ [p]).Nodup) :
    (xdrElements elsize (elem.xdr e .free) p c xs s).val.1 = true ∧
    Shrunk s.heap (xdrElements elsize (elem.xdr e .free) p c xs s).state.heap
      (xdrElements elsize (elem.xdr e .free) p c xs s).trace
      ((List.range' 0 c.toNat).flatMap fun i => elem.owned (xs i)) := by
  have hbody (i : Nat) (a : elem.Store) (t : St) (hi : i < c.toNat)
      (ht : t.heap.size p = some n) (ha : elem.Sound t.heap.size a)
      (hnd : (elem.owned a).Nodup) :
      Released elem t a
        ((touch p ((i + 1) * elsize.toNat) >>= fun _ => elem.xdr e .free a) t) := by
    have hfits : (i + 1) * elsize.toNat ≤ n := (Nat.mul_le_mul_right _ hi).trans hn
    obtain ⟨hok, hshrunk, hnulled⟩ := ih a t ha hnd
    exact ⟨hok, (shrunk_touch ht hfits).trans hshrunk, hnulled⟩
  obtain ⟨hnodup₁, -, hdisj⟩ := List.nodup_append.mp hnodup
  obtain ⟨hok, hshrunk, -⟩ := loop_released elem
    (fun i a => touch p ((i + 1) * elsize.toNat) >>= fun _ => elem.xdr e .free a)
    (fun size => size p = some n) (· = p) (fun hkeep h => (hkeep p rfl).trans h) hbody
    c.toNat 0 xs s (Nat.le_of_eq (Nat.zero_add _)) hsize (fun k _ hk => hx k (by omega)) hnodup₁
    (fun q hq heq => hdisj q hq p List.mem_cons_self heq)
  exact ⟨hok, hshrunk⟩

/-- An array frees the blocks of its elements, then its own. -/
theorem array_released (maxsize elsize : BitVec 32)
    (ih : Frees e elem)
    (x : Routine.Store (.array maxsize elsize elem)) (s : St)
    (hx : Routine.Sound s.heap.size (.array maxsize elsize elem) x)
    (hnodup : (Routine.owned (.array maxsize elsize elem) x).Nodup) :
    Released (.array maxsize elsize elem) s x
      (xdrArray e maxsize elsize elem.zero .free (elem.xdr e .free) x s) := by
  obtain ⟨c, _ | b⟩ := x
  · rw [xdrArray_free_none]
    exact released_untouched rfl rfl
  · obtain ⟨⟨n, hsize, hn⟩, helems⟩ := hx b rfl
    obtain ⟨hok, hshrunk⟩ := elements_released ih elsize c b.content hsize hn helems hnodup
    have hkept := hshrunk.frame b.addr fun hmem =>
      (List.nodup_append.mp hnodup).2.2 b.addr hmem b.addr List.mem_cons_self rfl
    have hfree : Shrunk _ _ _ [b.addr] := shrunk_free (p := b.addr)
      (s := (xdrElements elsize (elem.xdr e .free) b.addr c b.content s).state)
      (by simp [hkept, hsize])
    have hrun : xdrArray e maxsize elsize elem.zero .free (elem.xdr e .free) (c, some b) s =
        (do
          let o ← xdrElements elsize (elem.xdr e .free) b.addr c b.content
          memFree b.addr
          pure (o.1, c, none) : Run (Bool × BitVec 32 × Option (Block (Nat → elem.Store)))) s := by
      simp [xdrArray, xdrUInt, attempt]
    rw [hrun]
    refine ⟨hok, ?_, rfl⟩
    simpa [Routine.owned] using hshrunk.trans hfree

/-- A reference frees the blocks of what is in it, then its own. -/
theorem reference_released (size : BitVec 32)
    (ih : Frees e elem)
    (x : Option (Block elem.Store)) (s : St)
    (hx : Routine.Sound s.heap.size (.reference size elem) x)
    (hnodup : (Routine.owned (.reference size elem) x).Nodup) :
    Released (.reference size elem) s x
      (xdrReference e size elem.zero .free (elem.xdr e .free) x s) := by
  obtain _ | b := x
  · exact released_untouched rfl rfl
  · obtain ⟨⟨n, hsize, hn⟩, hobj⟩ := hx b rfl
    obtain ⟨hnodup₁, -, hdisj⟩ := List.nodup_append.mp hnodup
    obtain ⟨hok, hshrunk, -⟩ := ih b.content s hobj hnodup₁
    have hkept := hshrunk.frame b.addr fun hmem =>
      hdisj b.addr hmem b.addr List.mem_cons_self rfl
    have hfree : Shrunk _ _ _ [b.addr] := shrunk_free (p := b.addr)
      (s := (elem.xdr e .free b.content s).state) (by simp [hkept, hsize])
    refine ⟨hok, ?_, rfl⟩
    simpa [xdrReference, touch, Routine.owned] using
      ((shrunk_touch hsize hn).trans hshrunk).trans hfree

/-- So does a pointer, unless it is NULL. -/
theorem pointer_released (size : BitVec 32)
    (ih : Frees e elem)
    (x : Option (Block elem.Store)) (s : St)
    (hx : Routine.Sound s.heap.size (.pointer size elem) x)
    (hnodup : (Routine.owned (.pointer size elem) x).Nodup) :
    Released (.pointer size elem) s x
      (xdrPointer e size elem.zero .free (elem.xdr e .free) x s) := by
  obtain _ | b := x
  · exact released_untouched rfl rfl
  · have hrun : xdrPointer e size elem.zero .free (elem.xdr e .free) (some b) s =
        xdrReference e size elem.zero .free (elem.xdr e .free) (some b) s := by
      simp [xdrPointer, xdrBool, attempt]
    rw [hrun]
    obtain ⟨hok, hshrunk, hnulled⟩ := reference_released size ih (some b) s hx hnodup
    exact ⟨hok, hshrunk, hnulled⟩

/-- A structure frees the blocks of its fields. -/
theorem fields_released {first rest : Routine}
    (ih₁ : Frees e first) (ih₂ : Frees e rest)
    (x : Routine.Store (.fields first rest)) (s : St)
    (hx : Routine.Sound s.heap.size (.fields first rest) x)
    (hnodup : (Routine.owned (.fields first rest) x).Nodup) :
    Released (.fields first rest) s x
      (xdrFields (first.xdr e .free) (rest.xdr e .free) x s) := by
  obtain ⟨hnodup₁, hnodup₂, hdisj⟩ := List.nodup_append.mp hnodup
  obtain ⟨hok₁, hshrunk₁, hnulled₁⟩ := ih₁ x.1 s hx.1 hnodup₁
  have hsound := hshrunk₁.sound hx.2 fun p hp hmem => hdisj p hmem p hp rfl
  obtain ⟨hok₂, hshrunk₂, hnulled₂⟩ := ih₂ x.2 _ hsound hnodup₂
  unfold xdrFields
  rw [attempt_true hok₁, attempt_true hok₂]
  refine ⟨rfl, ?_, hnulled₁, hnulled₂⟩
  simpa [Routine.owned] using hshrunk₁.trans hshrunk₂

/-- A union frees the blocks of its arm. -/
theorem union_released (disc : Disc) (arm : BitVec disc.scalar.width → Routine)
    (ih : ∀ d, Frees e (arm d))
    (x : Routine.Store (.union disc arm)) (s : St)
    (hx : Routine.Sound s.heap.size (.union disc arm) x)
    (hnodup : (Routine.owned (.union disc arm) x).Nodup) :
    Released (.union disc arm) s x
      (xdrUnion (xdrScalar e .free disc.scalar) (fun d => (arm d).xdr e .free) x s) := by
  obtain ⟨d, arms⟩ := x
  obtain ⟨hok, hshrunk, hnulled⟩ := ih d (arms d) s hx hnodup
  have hself : Function.update arms d ((arm d).xdr e .free (arms d) s).val.2 d =
      ((arm d).xdr e .free (arms d) s).val.2 := Function.update_self _ _ _
  have hrun : xdrUnion (xdrScalar e .free disc.scalar) (fun d => (arm d).xdr e .free) (d, arms) s =
      ⟨(true, d, Function.update arms d ((arm d).xdr e .free (arms d) s).val.2),
        ((arm d).xdr e .free (arms d) s).state, ((arm d).xdr e .free (arms d) s).trace⟩ := by
    simp [xdrUnion, xdrScalar, attempt, hok]
  rw [hrun]
  refine ⟨rfl, hshrunk, ?_⟩
  simp only [Routine.Nulled, hself]
  exact hnulled

/-- **One pass frees what the storage owns.** By induction on the routine. -/
theorem Routine.free_spec (r : Routine) : Frees e r := by
  induction r with
  | scalar _ => exact fun x s _ _ => released_untouched rfl trivial
  | fixedOpaque cnt =>
    intro x s _ _
    have hrun : (fixedOpaque cnt).xdr e .free x s = ⟨(true, x), s, []⟩ :=
      xdrOpaque_free .given cnt x s
    rw [hrun]
    exact released_untouched rfl trivial
  | bytes maxsize => exact fun x s hx _ => bytes_released maxsize x s hx
  | string maxsize => exact fun x s hx _ => string_released maxsize x s hx
  | array maxsize elsize elem ih => exact array_released maxsize elsize ih
  | vector nelem elem ih => exact vector_released nelem ih
  | reference size obj ih => exact reference_released size ih
  | pointer size obj ih => exact pointer_released size ih
  | void => exact fun x s _ _ => released_untouched rfl trivial
  | fields first rest ih₁ ih₂ => exact fields_released ih₁ ih₂
  | union disc arm ih => exact union_released disc arm ih

theorem loop_nulled {body : Nat → elem.Store → Run (Bool × elem.Store)} {s : St} :
    ∀ (n i : Nat) (xs : Nat → elem.Store),
      (∀ k, i ≤ k → k < i + n → body k (xs k) s = ⟨(true, xs k), s, []⟩) →
      loop body n i xs s = ⟨(true, xs), s, []⟩
  | 0, _, _, _ => rfl
  | n + 1, i, xs, h => by
    have hi := h i (Nat.le_refl i) (by omega)
    have hrest := loop_nulled n (i + 1) xs fun k hk hkn => h k (by omega) (by omega)
    rw [loop, attempt_true (by rw [hi])]
    simp [hi, hrest]

/-- **A pass over NULL pointers does nothing.** -/
theorem Routine.free_nulled (r : Routine) :
    ∀ x s, r.Nulled x → r.xdr e .free x s = ⟨(true, x), s, []⟩ := by
  induction r with
  | scalar _ => exact fun _ _ _ => rfl
  | fixedOpaque cnt =>
    exact fun x s _ => xdrOpaque_free .given cnt x s
  | bytes _ =>
    rintro ⟨size, x⟩ s rfl
    rfl
  | array maxsize elsize elem _ =>
    rintro ⟨c, x⟩ s rfl
    exact xdrArray_free_none maxsize elsize c elem.zero _ s
  | string _ | reference _ _ _ | pointer _ _ _ =>
    rintro x s rfl
    rfl
  | vector nelem elem ih =>
    intro x s hx
    exact loop_nulled nelem.toNat 0 x fun k _ hk => ih (x k) s (hx k (by omega))
  | void => exact fun _ _ _ => rfl
  | fields first rest ih₁ ih₂ =>
    rintro ⟨a, b⟩ s ⟨ha, hb⟩
    have hrun : xdrFields (first.xdr e .free) (rest.xdr e .free) (a, b) s =
        ⟨(true, a, b), s, []⟩ := by
      simp [xdrFields, attempt, ih₁ a s ha, ih₂ b s hb]
    exact hrun
  | union disc arm ih =>
    rintro ⟨d, arms⟩ s hx
    have hrun : xdrUnion (xdrScalar e .free disc.scalar) (fun d => (arm d).xdr e .free)
        (d, arms) s = ⟨(true, d, arms), s, []⟩ := by
      simp [xdrUnion, xdrScalar, attempt, ih d (arms d) s hx]
    exact hrun

end Free

/-- **Decoding and freeing are balanced.** However far the decode into zeroed
storage gets, one `XDR_FREE` pass frees exactly the blocks that it allocated, each
once, and the heap is as it was before; the pass leaves NULL pointers and neither
of the two leaves a block; and a second pass does nothing. -/
theorem decode_free_balanced (e : Env) (r : Routine) (hr : r.NoWrap) (s : St) :
    let decoded := r.xdr e .decode r.zero s
    let once := r.xdr e .free decoded.val.2 decoded.state
    (freed once.trace).Perm (allocated decoded.trace) ∧ (freed once.trace).Nodup ∧
      once.state.heap.size = s.heap.size ∧ r.Nulled once.val.2 ∧
      (∀ ev ∈ decoded.trace ++ once.trace, ev.Tidy) ∧
      r.xdr e .free once.val.2 once.state = ⟨(true, once.val.2), once.state, []⟩ := by
  intro decoded once
  obtain ⟨hgrown, hsound⟩ := r.decode_spec hr s
  obtain ⟨-, hshrunk, hnulled⟩ := r.free_spec decoded.val.2 decoded.state hsound hgrown.nodup
  have hheap : once.state.heap.size = s.heap.size := by
    funext p
    by_cases hp : p ∈ r.owned decoded.val.2
    · exact (hshrunk.gone p hp).trans (s.heap.unused p (hgrown.range p hp).1).symm
    · exact (hshrunk.frame p hp).trans (hgrown.frame p hp)
  refine ⟨?_, ?_, hheap, hnulled, List.forall_mem_append.mpr ⟨hgrown.tidy, hshrunk.tidy⟩,
    r.free_nulled once.val.2 once.state hnulled⟩
  · rw [hshrunk.frees]
    exact hgrown.allocs.symm
  · rw [hshrunk.frees]
    exact hgrown.nodup

/-- Named numbers, of which the message holds the count, one name and no number. -/
def namedNumbers : Routine := .array 80 8 (.fields (.string 256) (.scalar .uInt))

def cutOff : Env where
  inMsg k := ([0, 0, 2, 3, 0x61626300].flatMap htonl).getD k.toNat 0
  inLen := 20
  grants _ := true
  junk _ _ := 0

theorem decode_free_balanced_cut_off :
    let decoded := namedNumbers.xdr cutOff .decode namedNumbers.zero
      ⟨8#32, fun _ => none, 0, fun _ _ => rfl⟩
    let once := namedNumbers.xdr cutOff .free decoded.val.2 decoded.state
    decoded.val.1 = false ∧ allocated decoded.trace = [0, 1] ∧
      (freed once.trace).Perm (allocated decoded.trace) := by
  refine ⟨by decide, by decide, ?_⟩
  exact (decode_free_balanced cutOff namedNumbers ⟨by decide, trivial, trivial⟩ _).1

end Ancora.Xdr.Storage
