import Mathlib.Data.List.Forall2
import Ancora.Xdr.Blocks
import Ancora.Xdr.Cursors

/-!
# Storage and values

The routines of `Storage` and the decoders of `Codec` are two readings of xdr.c:
the first says what happens in memory, the second which value a message stands
for. They agree. Where a decoder returns a value, the routine returns TRUE and the
storage holds that value (`Routine.Holds`); where it refuses, the routine returns
FALSE; and where it overruns its buffer, the routine asks for a length that is not
permitted. Memory is granted here: a decoder knows of no failing allocation.

- `Same`: the two stand at the same place of the same message.
- `Agrees`: the relation between a routine and a decoder, and its rules
  (`Agrees.attempt`, `Agrees.after`, `Agrees.loop`).
- **`Routine.xdr_agrees`**: every routine, by induction on it.
-/

namespace Ancora.Xdr.Storage

open Traced Stream

/-- The message that `i` reads lies in `in_msg`, and `s` is as far as `i`. -/
structure Same (e : Env) (s : St) (i : InMsg) : Prop where
  len : e.inLen.toInt = i.msg.length
  bytes : ∀ k (h : k < i.msg.length), e.inMsg k = i.msg.get ⟨k, h⟩
  next : s.inNext.toNat = i.next
  bound : i.next ≤ (i.msg.length + 3) / 4 * 4

/-- How the outcome of a routine goes with that of a decoder. -/
def Goes {α β : Type} (e : Env) (Rel : α → β → Prop) (o : Outcome St Event (Bool × α)) :
    Except Halt (β × InMsg) → Prop
  | .ok (b, i) => o.val.1 = true ∧ Rel o.val.2 b ∧ Same e o.state i
  | .error .refused => o.val.1 = false
  | .error .overrun => ∃ ev ∈ o.trace, ¬ ev.Permitted e

def Agrees {α β : Type} (e : Env) (Rel : α → β → Prop) (p : Run (Bool × α)) (q : Recv β) : Prop :=
  ∀ s i, Same e s i → Goes e Rel (p s) (q.run i)

/-! ## Rules -/

section Rules

variable {e : Env} {α β γ δ : Type} {Rel : α → β → Prop} {Rel' : γ → δ → Prop}

/-- The same answer and cursor, with at least the same events. -/
theorem Goes.carry {Rel₂ : γ → β → Prop} {o : Outcome St Event (Bool × α)}
    {o' : Outcome St Event (Bool × γ)} {x : Except Halt (β × InMsg)} (h : Goes e Rel o x)
    (hok : o'.val.1 = o.val.1) (hstate : o'.state = o.state) (htrace : o.trace ⊆ o'.trace)
    (hrel : ∀ b, Rel o.val.2 b → Rel₂ o'.val.2 b) : Goes e Rel₂ o' x := by
  match x, h with
  | .ok _, ⟨htrue, hb, hsame⟩ => exact ⟨hok.trans htrue, hrel _ hb, hstate ▸ hsame⟩
  | .error .refused, hfalse => exact hok.trans hfalse
  | .error .overrun, ⟨ev, hev, hbad⟩ => exact ⟨ev, htrace hev, hbad⟩

theorem Goes.prepend {o : Outcome St Event (Bool × α)} {x : Except Halt (β × InMsg)}
    (h : Goes e Rel o x) (before : List Event) :
    Goes e Rel ⟨o.val, o.state, before ++ o.trace⟩ x :=
  h.carry rfl rfl (List.subset_append_right _ _) fun _ hb => hb

/-- Values that agree may be returned. -/
theorem Agrees.pure {a : α} {b : β} (h : Rel a b) :
    Agrees e Rel (Pure.pure (true, a)) (Pure.pure b) :=
  fun _ _ hsame => ⟨rfl, h, hsame⟩

/-- Both refuse. -/
theorem Agrees.refuse (a : α) : Agrees e Rel (refuse a) (throw .refused) :=
  fun _ _ _ => rfl

/-- What agrees goes on with what agrees. -/
theorem Agrees.attempt {p : Run (Bool × α)} {q : Recv β} {left : α → γ}
    {next : α → Run (Bool × γ)} {k : β → Recv δ} (hp : Agrees e Rel p q)
    (hnext : ∀ a b, Rel a b → Agrees e Rel' (next a) (k b)) :
    Agrees e Rel' (attempt p left next) (q >>= k) := by
  intro s i hsame
  have hs := hp s i hsame
  rw [StateT.run_bind]
  match hq : q.run i with
  | .ok (b, i') =>
    rw [hq] at hs
    obtain ⟨hok, hrel, hsame'⟩ := hs
    rw [attempt_true hok]
    exact (hnext _ b hrel _ i' hsame').prepend _
  | .error .refused =>
    rw [hq] at hs
    rw [attempt_false hs]
    rfl
  | .error .overrun =>
    rw [hq] at hs
    obtain ⟨ev, hev, hbad⟩ := hs
    refine ⟨ev, ?_, hbad⟩
    cases ho : (p s).val.1 with
    | false =>
      rw [attempt_false ho]
      exact hev
    | true =>
      rw [attempt_true ho]
      exact List.mem_append_left _ hev

/-- After something that does not move the cursor. -/
theorem Agrees.after {p : Run γ} {next : γ → Run (Bool × α)} {q : Recv β}
    (hp : ∀ s, (p s).state.inNext = s.inNext) (hnext : ∀ c, Agrees e Rel (next c) q) :
    Agrees e Rel (p >>= next) q := by
  intro s i hsame
  exact (hnext _ _ i ⟨hsame.len, hsame.bytes, by rw [hp, hsame.next], hsame.bound⟩).prepend _

/-- An allocation that is granted has no counterpart. -/
theorem Agrees.alloc (hgrants : ∀ n, e.grants n = true) {size : Nat} {left : Nat → α}
    {next : Nat → Run (Bool × α)} {q : Recv β} (hnext : ∀ p, Agrees e Rel (next p) q) :
    Agrees e Rel (Traced.attempt (memAlloc e size) left next) q := by
  intro s i hsame
  have hok : (memAlloc e size s).val.1 = true := by rw [memAlloc, if_pos (hgrants _)]
  have hnexts : (memAlloc e size s).state.inNext = s.inNext := by rw [memAlloc, if_pos (hgrants _)]
  rw [attempt_true hok]
  exact (hnext _ _ i ⟨hsame.len, hsame.bytes, by rw [hnexts, hsame.next], hsame.bound⟩).prepend _

/-- What the routine leaves in any case. -/
theorem Agrees.and {P : α → Prop} {p : Run (Bool × α)} {q : Recv β} (h : Agrees e Rel p q)
    (hP : ∀ s, P (p s).val.2) : Agrees e (fun a b => Rel a b ∧ P a) p q :=
  fun s i hsame => (h s i hsame).carry rfl rfl (List.Subset.refl _) fun _ hb => ⟨hb, hP s⟩

/-- What the routine stores. -/
theorem Agrees.store {R : γ → β → Prop} {p : Run (Bool × α)} {q : Recv β}
    (h : Agrees e Rel p q) {f : α → γ} (hf : ∀ a b, Rel a b → R (f a) b) :
    Agrees e R (p >>= fun o => Pure.pure (o.1, f o.2)) q :=
  fun s i hsame => (h s i hsame).carry rfl rfl (List.subset_append_left _ _) fun _ hb => hf _ _ hb

/-- What the decoder makes of its value. -/
theorem Agrees.value {Rel₂ : α → δ → Prop} {p : Run (Bool × α)} {q : Recv β}
    (h : Agrees e Rel p q) {g : β → δ} (hg : ∀ a b, Rel a b → Rel₂ a (g b)) :
    Agrees e Rel₂ p (q >>= fun b => Pure.pure (g b)) := by
  intro s i hsame
  have hs := h s i hsame
  rw [StateT.run_bind]
  match hq : q.run i with
  | .ok _ =>
    rw [hq] at hs
    exact ⟨hs.1, hg _ _ hs.2.1, hs.2.2⟩
  | .error .refused =>
    rw [hq] at hs
    exact hs
  | .error .overrun =>
    rw [hq] at hs
    exact hs

/-- Both values may be worked on. -/
theorem Agrees.map {p : Run (Bool × α)} {q : Recv β} (h : Agrees e Rel p q) {f : α → γ}
    {g : β → δ} (hfg : ∀ a b, Rel a b → Rel' (f a) (g b)) :
    Agrees e Rel' (p >>= fun o => Pure.pure (o.1, f o.2)) (q >>= fun b => Pure.pure (g b)) :=
  (h.store (R := fun c b => Rel' c (g b)) hfg).value fun _ _ hrel => hrel

/-- A loop agrees with reading as many elements. -/
theorem Agrees.loop {body : Nat → α → Run (Bool × α)} {q : Recv β} :
    ∀ (n i : Nat) (xs : Nat → α),
      (∀ k, i ≤ k → k < i + n → Agrees e Rel (body k (xs k)) q) →
      Agrees e (fun ys v => List.Forall₂ Rel ((List.range' i n).map ys) v.toList)
        (Traced.loop body n i xs) (readN q n)
  | 0, _, _, _ => Agrees.pure .nil
  | n + 1, i, xs, h => by
    refine Agrees.attempt (h i (Nat.le_refl i) (by omega)) ?_
    intro a b hab
    have hrest := Agrees.loop n (i + 1) (Function.update xs i a) fun k hik hkn => by
      rw [Function.update_of_ne (by omega)]
      exact h k (by omega) (by omega)
    -- the entry before the rest is the one just stored
    have hentry (s : St) :
        (Traced.loop body n (i + 1) (Function.update xs i a) s).val.2 i = a := by
      rw [loop_before (Nat.lt_succ_self i), Function.update_self]
    refine (hrest.and (P := fun ys => ys i = a) hentry).value ?_
    rintro ys v ⟨hys, rfl⟩
    rw [List.range'_succ, List.map_cons, List.Vector.toList_cons]
    exact .cons hab hys

end Rules

/-! ## The receive operations -/

section Receive

variable {e : Env} {s : St} {i : InMsg}

/-- The bytes that come next. -/
theorem Same.slice (h : Same e s i) {n : Nat} (hn : i.next + n ≤ i.msg.length) :
    i.rest.take n = (List.range' 0 n).map fun k => e.inMsg (i.next + k : Nat) := by
  refine List.ext_getElem ?_ ?_
  · rw [List.length_take, Incoming.rest, List.length_drop, List.length_map, List.length_range']
    omega
  · intro k hk _
    have hkn : k < n := by
      rw [List.length_take] at hk
      omega
    have hbyte := h.bytes (i.next + k) (by omega)
    simpa [Incoming.rest] using hbyte.symm

/-- The cursor is in the buffer. -/
theorem Same.next_lt (h : Same e s i) : s.inNext.toNat ≤ 18432 := by
  have hmsg : i.msg.length ≤ 18432 := i.bounded
  have hnext := h.next
  have hbound := h.bound
  omega

/-- Both cursors are at the same place. -/
theorem Same.toInt_next (h : Same e s i) : s.inNext.toInt = i.next := by
  have hnext := h.next_lt
  rw [BitVec.toInt_eq_toNat_of_lt (by omega), h.next]

/-- Both read the same word, or refuse. -/
theorem recvUint32_agrees (value : BitVec 32) :
    Agrees e Eq (xdrStdRecvUint32 e value) Xdr.xdrStdRecvUint32 := by
  intro s i h
  have hlt := h.next_lt
  have hsum : (s.inNext + 4#32).toInt = i.next + 4 := by
    rw [toInt_add (show s.inNext.toNat + 4 < _ by omega), h.next]
    rfl
  by_cases hfit : i.next + 4 > i.msg.length
  · have hfit' : (s.inNext + 4#32).toInt > e.inLen.toInt := by
      rw [hsum, h.len]
      omega
    have hrun : Xdr.xdrStdRecvUint32.run i = .error .refused := if_pos hfit
    rw [hrun, xdrStdRecvUint32, if_pos hfit']
    rfl
  · have hfit' : ¬ (s.inNext + 4#32).toInt > e.inLen.toInt := by
      rw [hsum, h.len]
      omega
    have hrun : Xdr.xdrStdRecvUint32.run i = .ok (ntohl (i.rest.take 4),
        { i with next := i.next + 4, aligned := aligned_add_four i }) := if_neg hfit
    rw [hrun, xdrStdRecvUint32, if_neg hfit']
    refine ⟨rfl, ?_, h.len, h.bytes, ?_, ?_⟩
    · rw [h.slice (by omega)]
      simp [Env.word, h.toInt_next, List.range'_succ]
    · have hnext := h.next
      simp only [BitVec.toNat_add, BitVec.toNat_ofNat]
      omega
    · have haligned := i.aligned
      simp only
      omega

/-- `in_next + len` is the same sum in both. -/
theorem Same.sum_eq (h : Same e s i) (len : BitVec 32) :
    BitVec.ofNat 32 (i.next + len.toNat) = s.inNext + len := by
  rw [← h.next, BitVec.ofNat_add, BitVec.ofNat_toNat, BitVec.ofNat_toNat]
  simp

/-- Both read the same bytes, or refuse. -/
theorem recvBytes_agrees (buf : Dest) (len : BitVec 32) (old : Nat → Byte) :
    Agrees e (fun xs v => List.Forall₂ Eq ((List.range' 0 len.toNat).map xs) v.toList)
      (xdrStdRecvBytes e buf len old) (Xdr.xdrStdRecvBytes len) := by
  intro s i h
  have hstart : BitVec.ofNat 32 i.next = s.inNext := by simpa using h.sum_eq 0#32
  by_cases hfit : (s.inNext + len).toInt > e.inLen.toInt
  · have hrun : (Xdr.xdrStdRecvBytes len).run i = .error .refused :=
      if_pos (by rw [hstart, ← h.len]; exact hfit)
    rw [hrun, xdrStdRecvBytes, if_pos hfit]
    rfl
  have hpass : ¬ (BitVec.ofNat 32 i.next + len).toInt > i.msg.length := by
    rw [hstart, ← h.len]
    exact hfit
  have hlen := h.len
  have hnext := h.next
  by_cases hover : i.next + len.toNat > i.msg.length
  · have hrun : (Xdr.xdrStdRecvBytes len).run i = .error .overrun :=
      (if_neg hpass).trans (dif_pos hover)
    rw [hrun, xdrStdRecvBytes, if_neg hfit]
    refine ⟨.asks s.inNext len, List.mem_cons_self, fun hperm => ?_⟩
    have hsum := toInt_add (hperm (by omega))
    omega
  · have hrun : (Xdr.xdrStdRecvBytes len).run i =
        .ok (⟨i.rest.take len.toNat, rest_take_length hover⟩, {
          i with next := roundUp (i.next + len.toNat), aligned := dvd_roundUp _ }) :=
      (if_neg hpass).trans (dif_neg hover)
    have hmax : i.msg.length ≤ 18432 := i.bounded
    have hbytes : (List.range' 0 len.toNat).map
        (overlay len.toNat (fun k => e.inMsg (s.inNext.toInt + k)) old) = i.rest.take len.toNat := by
      rw [h.slice (by omega)]
      refine List.map_congr_left fun k hk => ?_
      have hk := List.mem_range'_1.mp hk
      simp [overlay, h.toInt_next, show k < len.toNat by omega]
    have hall : List.Forall₂ Eq ((List.range' 0 len.toNat).map
        (overlay len.toNat (fun k => e.inMsg (s.inNext.toInt + k)) old))
        (i.rest.take len.toNat) := by
      rw [hbytes]
      exact List.forall₂_same.mpr fun _ _ => rfl
    rw [hrun, xdrStdRecvBytes, if_neg hfit]
    refine ⟨rfl, hall, h.len, h.bytes, ?_, ?_⟩
    · simp only [roundUp, h.sum_eq]
    · simp only
      rw [roundUp_eq (by omega)]
      omega

/-- Scalars are read alike. -/
theorem scalar_agrees (s : Scalar) (v : BitVec s.width) :
    Agrees e Eq (xdrScalar e .decode s v) s.codec.decode := by
  have hword {w : Nat} (stored : BitVec 32 → BitVec w) (old : BitVec w) :
      Agrees e Eq (oneWord e stored old)
        (Xdr.xdrStdRecvUint32 >>= fun l => Pure.pure (stored l)) := by
    refine Agrees.attempt (recvUint32_agrees 0) ?_
    rintro l _ rfl
    exact Agrees.pure rfl
  cases s with
  | int | uInt | long | uLong | enum | float => exact recvUint32_agrees v
  | bool => exact hword truth v
  | short | uShort | char | uChar => exact hword (·.setWidth _) v
  | uHyper | double =>
    unfold xdrScalar
    refine Agrees.attempt (recvUint32_agrees _) ?_
    rintro t1 _ rfl
    refine Agrees.attempt (recvUint32_agrees _) ?_
    rintro t2 _ rfl
    exact Agrees.pure rfl

/-- Opaque data is read alike. -/
theorem opaque_agrees (buf : Dest) (cnt : BitVec 32) (old : Nat → Byte) :
    Agrees e (fun xs v => List.Forall₂ Eq ((List.range' 0 cnt.toNat).map xs) v.toList)
      (xdrOpaque e .decode buf cnt old) (Xdr.xdrOpaque cnt).decode := by
  unfold xdrOpaque Xdr.xdrOpaque
  by_cases h : cnt = 0
  · subst h
    rw [if_pos rfl]
    exact Agrees.pure .nil
  · rw [if_neg h]
    simp only [dif_neg h]
    exact recvBytes_agrees buf cnt old

end Receive

/-! ## What storage holds -/

/-- The storage points to what the value has, and to nothing where it has nothing. -/
def Points {α β : Type} (Rel : α → β → Prop) : Option (Block α) → Option β → Prop :=
  Option.Rel fun b => Rel b.content

/-- The first `n` entries are the items. -/
def Lists {α β : Type} (Rel : α → β → Prop) (n : BitVec 32) (xs : Nat → α) (items : List β) :
    Prop :=
  List.Forall₂ Rel ((List.range' 0 n.toNat).map xs) items

/-- The buffer holds the string, and a NUL after it. -/
def HoldsString (bytes : Nat → Byte) (s : CString) : Prop :=
  ∃ size, bytes size = 0 ∧ s.chars = ((List.range' 0 size).map bytes).takeWhile (· ≠ 0)

namespace Routine

/-- The type that the routine is of: the sizes in memory are forgotten, and
`xdr_reference` adds nothing to what it refers to. -/
def ty : Routine → Ty
  | scalar s => .scalar s
  | fixedOpaque cnt => .fixedOpaque cnt
  | bytes maxsize => .bytes maxsize
  | string maxsize => .string maxsize
  | array maxsize _ elem => .array maxsize elem.ty
  | vector nelem elem => .vector nelem elem.ty
  | reference _ obj => obj.ty
  | pointer _ obj => .pointer obj.ty
  | void => .void
  | fields first rest => .fields first.ty rest.ty
  | union disc arm => .union disc fun d => (arm d).ty

/-- The storage holds the value. -/
def Holds : (r : Routine) → r.Store → r.ty.Val → Prop
  | scalar _, x, v => x = v
  | fixedOpaque cnt, x, v => Lists Eq cnt x (List.Vector.toList v)
  | bytes _, x, v => Points (fun xs c => Lists Eq x.1 xs (Counted.items c)) x.2 v
  | string _, x, v => Points HoldsString x v
  | array _ _ elem, x, v => Points (fun xs c => Lists elem.Holds x.1 xs (Counted.items c)) x.2 v
  | vector nelem elem, x, v => Lists elem.Holds nelem x (List.Vector.toList v)
  | reference _ obj, x, v => Points obj.Holds x (some v)
  | pointer _ obj, x, v => Points obj.Holds x v
  | void, _, _ => True
  | fields first rest, x, v => first.Holds x.1 v.1 ∧ rest.Holds x.2 v.2
  | union _ arm, x, v => x.1 = v.1 ∧ (arm v.1).Holds (x.2 v.1) v.2

end Routine

section Agreement

variable {e : Env} (hgrants : ∀ n, e.grants n = true)

include hgrants

/-- Counted bytes are read alike, in a block or as a list. -/
theorem bytes_agrees (maxsize : BitVec 32) :
    Agrees e (Routine.bytes maxsize).Holds (xdrBytes e maxsize .decode (0, none))
      (Xdr.xdrBytes maxsize).decode := by
  unfold xdrBytes Xdr.xdrBytes
  refine Agrees.attempt (recvUint32_agrees 0) ?_
  rintro size _ rfl
  by_cases hmax : size > maxsize
  · rw [if_pos hmax, if_pos hmax]
    exact Agrees.refuse _
  rw [if_neg hmax, if_neg hmax]
  by_cases hzero : size = 0
  · rw [if_pos hzero, if_pos hzero]
    exact Agrees.pure Option.Rel.none
  rw [if_neg hzero, if_neg hzero]
  refine Agrees.alloc hgrants fun p => ?_
  exact (recvBytes_agrees (.block p) size (e.junk p)).map
    (f := fun xs => (size, some (Block.mk p xs))) fun _ _ hbytes => .some hbytes

/-- Strings are read alike. -/
theorem string_agrees (maxsize : BitVec 32) :
    Agrees e (Routine.string maxsize).Holds (xdrString e maxsize .decode none)
      (Xdr.xdrString maxsize).decode := by
  unfold xdrString Xdr.xdrString
  refine Agrees.attempt (recvUint32_agrees 0) ?_
  rintro size _ rfl
  by_cases hmax : size > maxsize
  · rw [if_pos hmax, if_pos hmax]
    exact Agrees.refuse _
  rw [if_neg hmax, if_neg hmax]
  by_cases hzero : size + 1 = 0
  · rw [if_pos hzero]
    simp only [show size + 1#32 = 0 from hzero, if_true]
    exact Agrees.pure Option.Rel.none
  rw [if_neg hzero]
  simp only [show size + 1#32 ≠ 0 from hzero, if_false]
  refine Agrees.alloc hgrants fun p => ?_
  refine Agrees.after (fun _ => rfl) fun _ => ?_
  -- what is copied stays before the NUL
  have hopaque := (opaque_agrees (e := e) (.block p) size
    (Function.update (e.junk p) size.toNat 0)).and (P := fun xs => xs size.toNat = 0)
    fun s => xdrOpaque_keeps_nul _ size _ s
  refine hopaque.map (f := fun xs => some (Block.mk p xs)) ?_
  rintro xs v ⟨hbytes, hnul⟩
  rw [List.forall₂_eq_eq_eq] at hbytes
  exact .some ⟨size.toNat, hnul, congrArg (List.takeWhile _) hbytes.symm⟩

section Element

variable {obj : Routine}
  (ih : Agrees e obj.Holds (obj.xdr e .decode obj.zero) obj.ty.codec.decode)

include ih

/-- Arrays are read alike if their elements are. -/
theorem array_agrees (maxsize elsize : BitVec 32) :
    Agrees e (Routine.array maxsize elsize obj).Holds
      (xdrArray e maxsize elsize obj.zero .decode (obj.xdr e .decode) (0, none))
      (Xdr.xdrArray maxsize obj.ty.codec).decode := by
  unfold xdrArray Xdr.xdrArray
  refine Agrees.attempt (recvUint32_agrees 0) ?_
  rintro c _ rfl
  by_cases hmax : c > maxsize
  · rw [if_pos ⟨hmax, nofun⟩, if_pos hmax]
    exact Agrees.refuse _
  rw [if_neg fun h => hmax h.1, if_neg hmax]
  by_cases hzero : c = 0
  · simp only [if_pos hzero]
    exact Agrees.pure Option.Rel.none
  simp only [if_neg hzero]
  refine Agrees.after (fun _ => rfl) fun _ => ?_
  refine Agrees.alloc hgrants fun p => ?_
  refine Agrees.after (fun _ => rfl) fun _ => ?_
  have hitems : Agrees e (fun xs v => Lists obj.Holds c xs v.toList)
      (xdrElements elsize (obj.xdr e .decode) p c fun _ => obj.zero)
      (readN obj.ty.codec.decode c.toNat) :=
    Agrees.loop c.toNat 0 _ fun _ _ _ => Agrees.after (fun _ => rfl) fun _ => ih
  exact hitems.map (f := fun xs => (c, some (Block.mk p xs))) fun _ _ h => .some h

/-- References are read alike if what is in them is. -/
theorem reference_agrees (size : BitVec 32) :
    Agrees e (Routine.reference size obj).Holds
      (xdrReference e size obj.zero .decode (obj.xdr e .decode) none) obj.ty.codec.decode := by
  unfold xdrReference
  refine Agrees.alloc hgrants fun p => ?_
  refine Agrees.after (fun _ => rfl) fun _ => ?_
  exact ih.store (f := fun x => some (Block.mk p x)) fun _ _ h => .some h

/-- So are pointers. -/
theorem pointer_agrees (size : BitVec 32) :
    Agrees e (Routine.pointer size obj).Holds
      (xdrPointer e size obj.zero .decode (obj.xdr e .decode) none)
      (Xdr.xdrPointer obj.ty.codec).decode := by
  unfold xdrPointer Xdr.xdrPointer
  refine Agrees.attempt (scalar_agrees .bool 0) ?_
  rintro moreData _ rfl
  by_cases hmore : moreData = 0
  · rw [if_pos hmore, if_pos hmore]
    exact Agrees.pure Option.Rel.none
  · rw [if_neg hmore, if_neg hmore]
    exact (reference_agrees hgrants ih size).value fun _ _ h => h

end Element

/-- **What is stored is what is decoded**: a routine on cleared storage goes with the
decoder of its type, for all messages and all types. -/
theorem Routine.xdr_agrees (r : Routine) :
    Agrees e r.Holds (r.xdr e .decode r.zero) r.ty.codec.decode := by
  induction r with
  | scalar s => exact scalar_agrees s _
  | fixedOpaque cnt => exact opaque_agrees .given cnt _
  | bytes maxsize => exact bytes_agrees hgrants maxsize
  | string maxsize => exact string_agrees hgrants maxsize
  | array maxsize elsize elem ih => exact array_agrees hgrants ih maxsize elsize
  | vector nelem elem ih => exact Agrees.loop nelem.toNat 0 _ fun _ _ _ => ih
  | reference size obj ih => exact reference_agrees hgrants ih size
  | pointer size obj ih => exact pointer_agrees hgrants ih size
  | void => exact Agrees.pure trivial
  | fields first rest ih₁ ih₂ =>
    refine Agrees.attempt ih₁ fun a v ha => ?_
    exact Agrees.attempt ih₂ fun b w hb => Agrees.pure ⟨ha, hb⟩
  | union disc arm ih =>
    refine Agrees.attempt (scalar_agrees disc.scalar 0) ?_
    rintro d _ rfl
    refine Agrees.attempt (ih d) fun a v ha => Agrees.pure ⟨rfl, ?_⟩
    show (arm d).Holds (Function.update (fun d => (arm d).zero) d a d) v
    rw [Function.update_self d a fun d => (arm d).zero]
    exact ha

end Agreement

end Ancora.Xdr.Storage
