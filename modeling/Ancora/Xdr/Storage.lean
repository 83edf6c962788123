import Ancora.Lib.Traced
import Ancora.Xdr.Types

/-!
# The XDR routines on memory (librpc/xdr.c, svc_clnt_common.c:100–254)

`Codec` decodes into values and takes every allocation as granted. Here the same
routines run on storage: pointers are addresses of allocated blocks, a decode that
stops leaves the storage as far as it got, and `XDR_FREE` goes over that storage
again. The cursor is an `int`, `in_msg` can be read outside its bounds, a block
can be reached past its end and an address can be freed that is no block's; each of
these is an event of the trace, and none of them stops the program. That the two
agree is in `Agreement`.

- `Heap`: the allocated blocks with their sizes; `memAlloc`, `memFree`.
- `xdrStdRecvUint32`, `xdrStdRecvBytes`: the receive operations.
- `Routine`: the calls that the routine of a type makes, with the sizes rpcgen
  passes to them; `Routine.Store`: the storage of the type.
- `Routine.xdr op`: the routine, for `XDR_DECODE` and `XDR_FREE`.
-/

namespace Ancora.Xdr.Storage

open Traced

/-- `x_op`, of the two operations that change storage. -/
inductive XdrOp
  | decode
  | free
  deriving DecidableEq, Repr

/-! ## Memory -/

/-- The allocated blocks. The `n`-th call of `malloc` returns the address `n` or NULL. -/
structure Heap where
  size : Nat → Option Nat
  calls : Nat
  unused : ∀ p, calls ≤ p → size p = none

namespace Heap

/-- A block that is taken leaves the later numbers unused. -/
theorem unused_alloc (h : Heap) (n p : Nat) (hp : h.calls + 1 ≤ p) :
    Function.update h.size h.calls (some n) p = none := by
  rw [Function.update_of_ne (by omega)]
  exact h.unused p (by omega)

/-- So does one that is given back. -/
theorem unused_free (h : Heap) (q p : Nat) (hp : h.calls ≤ p) :
    Function.update h.size q none p = none := by
  by_cases hpq : p = q
  · rw [hpq, Function.update_self]
  · rw [Function.update_of_ne hpq]
    exact h.unused p hp

def alloc (h : Heap) (n : Nat) : Heap where
  size := Function.update h.size h.calls (some n)
  calls := h.calls + 1
  unused := h.unused_alloc n

def deny (h : Heap) : Heap where
  size := h.size
  calls := h.calls + 1
  unused p hp := h.unused p (by omega)

def free (h : Heap) (p : Nat) : Heap where
  size := Function.update h.size p none
  calls := h.calls
  unused := h.unused_free p

/-- The first `upto` bytes at `p` lie in an allocated block. -/
def holds (h : Heap) (p upto : Nat) : Bool :=
  (h.size p).any fun size => decide (upto ≤ size)

end Heap

/-- What the program does not choose. -/
structure Env where
  /-- `in_msg[k]`, and the memory around the array. -/
  inMsg : Int → Byte
  inLen : BitVec 32
  /-- Whether a call of `malloc` is granted. -/
  grants : Nat → Bool
  /-- What a new block holds. -/
  junk : Nat → Nat → Byte

structure St where
  inNext : BitVec 32
  heap : Heap

inductive Event
  /-- `xdr_std_recv_bytes` is called for `len` bytes. -/
  | asks (next len : BitVec 32)
  /-- `xdr_array` is about to allocate `c` elements. -/
  | counts (c elsize : BitVec 32)
  /-- Bytes of `in_msg` are read. -/
  | read (start : Int) (len : Nat)
  /-- `in_next` changes. -/
  | moves (before after : Int)
  /-- FALSE. -/
  | refused
  | alloc (p size : Nat)
  /-- A pointer is followed, to bytes that are or are not in its block. -/
  | reach (inside : Bool)
  | free (p : Nat) (allocated : Bool)
  deriving DecidableEq

abbrev Run := Traced St Event

variable {α : Type}

def refuse (a : α) : Run (Bool × α) := fun s => ⟨(false, a), s, [.refused]⟩

/-- `mem_alloc` (rpc/types.h:96). Its callers return FALSE for NULL. -/
def memAlloc (e : Env) (size : Nat) : Run (Bool × Nat) := fun s =>
  if e.grants s.heap.calls then
    ⟨(true, s.heap.calls), { s with heap := s.heap.alloc size }, [.alloc s.heap.calls size]⟩
  else ⟨(false, 0), { s with heap := s.heap.deny }, [.refused]⟩

/-- `mem_free` (rpc/types.h:97). -/
def memFree (p : Nat) : Run Unit := fun s =>
  ⟨(), { s with heap := s.heap.free p }, [.free p (s.heap.size p).isSome]⟩

/-- The bytes at `p` up to `upto` are read or written. -/
def touch (p upto : Nat) : Run Unit := fun s => ⟨(), s, [.reach (s.heap.holds p upto)]⟩

/-! ## Receive operations -/

/-- The word at `start` of `in_msg`. -/
def Env.word (e : Env) (start : Int) : BitVec 32 :=
  ntohl [e.inMsg start, e.inMsg (start + 1), e.inMsg (start + 2), e.inMsg (start + 3)]

/-- `xdr_std_recv_uint32` (svc_clnt_common.c:196–210); a refused one leaves `*value`. -/
def xdrStdRecvUint32 (e : Env) (value : BitVec 32) : Run (Bool × BitVec 32) := fun s =>
  let next := s.inNext + 4#32
  if next.toInt > e.inLen.toInt then ⟨(false, value), s, [.refused]⟩
  else ⟨(true, e.word s.inNext.toInt), { s with inNext := next },
    [.read s.inNext.toInt 4, .moves s.inNext.toInt next.toInt]⟩

/-- Where `xdr_std_recv_bytes` copies to. -/
inductive Dest
  | null
  /-- Storage that the routine was given. -/
  | given
  /-- A block that the routine has allocated. -/
  | block (p : Nat)
  deriving DecidableEq

/-- The trace of `if (buf) memcpy(buf, &in_msg[in_next], len)`. -/
def Dest.copied (heap : Heap) (start : Int) (len : Nat) : Dest → List Event
  | null => []
  | given => [.read start len]
  | block p => [.read start len, .reach (heap.holds p len)]

/-- The bytes of a buffer after `memcpy` of `len` bytes into it. -/
def overlay (len : Nat) (new old : Nat → Byte) : Nat → Byte :=
  fun k => if k < len then new k else old k

/-- `xdr_std_recv_bytes` (svc_clnt_common.c:247–254). -/
def xdrStdRecvBytes (e : Env) (buf : Dest) (len : BitVec 32) (old : Nat → Byte) :
    Run (Bool × (Nat → Byte)) := fun s =>
  if (s.inNext + len).toInt > e.inLen.toInt then
    ⟨(false, old), s, [.asks s.inNext len, .refused]⟩
  else
    let next := (s.inNext + len + 3#32) &&& ~~~3#32
    ⟨(true, overlay len.toNat (fun k => e.inMsg (s.inNext.toInt + k)) old),
      { s with inNext := next },
      .asks s.inNext len :: (buf.copied s.heap s.inNext.toInt len.toNat ++
        [.moves s.inNext.toInt next.toInt])⟩

/-- `xdr_recv_auth` (clnt.c:562–589): the body of a verifier is thrown away, and the
answer is FALSE whether it was there or not. -/
def xdrRecvAuth (e : Env) : Run (Bool × Unit) :=
  attempt (xdrStdRecvUint32 e 0) (fun _ => ()) fun _ =>
    attempt (xdrStdRecvUint32 e 0) (fun _ => ()) fun oaLength =>
      if oaLength ≠ 0 then
        attempt (xdrStdRecvBytes e .null oaLength fun _ => 0) (fun _ => ()) fun _ => refuse ()
      else pure (true, ())

/-! ## Routines -/

/-- A scalar of one word. -/
def oneWord {w : Nat} (e : Env) (stored : BitVec 32 → BitVec w) (old : BitVec w) :
    Run (Bool × BitVec w) :=
  attempt (xdrStdRecvUint32 e 0) (fun _ => old) fun l => pure (true, stored l)

/-- `xdr_u_int` (xdr.c:83–96). -/
def xdrUInt (e : Env) (op : XdrOp) (v : BitVec 32) : Run (Bool × BitVec 32) :=
  match op with
  | .decode => xdrStdRecvUint32 e v
  | .free => pure (true, v)

/-- `xdr_bool` (xdr.c:222–242). -/
def xdrBool (e : Env) (op : XdrOp) (b : BitVec 32) : Run (Bool × BitVec 32) :=
  match op with
  | .decode => oneWord e truth b
  | .free => pure (true, b)

/-- The scalar routines; `XDR_FREE` does nothing in any of them. -/
def xdrScalar (e : Env) : XdrOp → (s : Scalar) → BitVec s.width → Run (Bool × BitVec s.width)
  | .free, _, v => pure (true, v)
  | .decode, .uInt, v => xdrUInt e .decode v
  | .decode, .bool, v => xdrBool e .decode v
  | .decode, .int, v | .decode, .long, v | .decode, .uLong, v | .decode, .enum, v
  | .decode, .float, v => xdrStdRecvUint32 e v
  | .decode, .short, v => oneWord e (·.setWidth 16) v
  | .decode, .uShort, v => oneWord e (·.setWidth 16) v
  | .decode, .char, v => oneWord e (·.setWidth 8) v
  | .decode, .uChar, v => oneWord e (·.setWidth 8) v
  | .decode, .uHyper, v =>
    attempt (xdrStdRecvUint32 e 0) (fun _ => v) fun t1 =>
      attempt (xdrStdRecvUint32 e 0) (fun _ => v) fun t2 =>
        pure (true, t1.setWidth 64 <<< 32 ||| t2.setWidth 64)
  -- the two halves of a `double` are stored as they come
  | .decode, .double, v =>
    attempt (xdrStdRecvUint32 e (v.extractLsb' 32 32)) (· ++ v.extractLsb' 0 32) fun high =>
      attempt (xdrStdRecvUint32 e (v.extractLsb' 0 32)) (high ++ ·) fun low =>
        pure (true, high ++ low)

section Words

variable {e : Env} {R : St → St → List Event → Prop} (hR : Compositional R)
  (hword : ∀ v, Obeys R (xdrStdRecvUint32 e v))

include hR hword

theorem oneWord_obeys {w : Nat} (stored : BitVec 32 → BitVec w) (old : BitVec w) :
    Obeys R (oneWord e stored old) :=
  Obeys.attempt hR (hword 0) fun _ => Obeys.pure hR _

/-- A scalar does what its words do. -/
theorem xdrScalar_obeys (s : Scalar) (v : BitVec s.width) :
    Obeys R (xdrScalar e .decode s v) := by
  cases s with
  | int | uInt | long | uLong | enum | float => exact hword v
  | bool | short | uShort | char | uChar => exact oneWord_obeys hR hword _ v
  | uHyper | double =>
    unfold xdrScalar
    refine Obeys.attempt hR (hword _) ?_
    intro t1
    exact Obeys.attempt hR (hword _) fun _ => Obeys.pure hR _

end Words

/-- `xdr_opaque` (xdr.c:412–430). -/
def xdrOpaque (e : Env) (op : XdrOp) (buf : Dest) (cnt : BitVec 32) (old : Nat → Byte) :
    Run (Bool × (Nat → Byte)) :=
  if cnt = 0 then pure (true, old)
  else match op with
    | .decode => xdrStdRecvBytes e buf cnt old
    | .free => pure (true, old)

/-- A block and what it holds. -/
structure Block (α : Type) where
  addr : Nat
  content : α

/-- `xdr_bytes` (xdr.c:10–36) on `*sizep` and `*cpp`. -/
def xdrBytes (e : Env) (maxsize : BitVec 32) (op : XdrOp)
    (x : BitVec 32 × Option (Block (Nat → Byte))) :
    Run (Bool × BitVec 32 × Option (Block (Nat → Byte))) :=
  match op with
  | .decode =>
    attempt (xdrStdRecvUint32 e x.1) (·, x.2) fun size =>
      if size > maxsize then refuse (size, x.2)
      else if size = 0 then pure (true, size, x.2)
      else match x.2 with
        | none =>
          attempt (memAlloc e size.toNat) (fun _ => (size, none)) fun p => do
            let o ← xdrStdRecvBytes e (.block p) size (e.junk p)
            pure (o.1, size, some ⟨p, o.2⟩)
        | some b => do
          let o ← xdrStdRecvBytes e .given size b.content
          pure (o.1, size, some ⟨b.addr, o.2⟩)
  | .free =>
    match x.2 with
    | none => pure (true, x)
    | some b => do
      memFree b.addr
      pure (true, x.1, none)

/-- `strlen` of the bytes of a block; `none` if there is no NUL in it. -/
def strlen (room : Nat) (bytes : Nat → Byte) : Option Nat :=
  (List.range room).find? fun k => bytes k = 0

/-- Unless it wraps, the `+ 1` makes room for the NUL. -/
theorem toNat_add_one {x : BitVec 32} (h : x + 1#32 ≠ 0) : x.toNat + 1 = (x + 1#32).toNat := by
  have hne : (x + 1#32).toNat ≠ 0 := fun h0 => h (BitVec.eq_of_toNat_eq h0)
  have hx := x.isLt
  rw [BitVec.toNat_add, BitVec.toNat_ofNat] at hne ⊢
  omega

/-- `xdr_string` (xdr.c:481–528) on `*cpp`. -/
def xdrString (e : Env) (maxsize : BitVec 32) (op : XdrOp) (x : Option (Block (Nat → Byte))) :
    Run (Bool × Option (Block (Nat → Byte))) :=
  match op with
  | .decode =>
    attempt (xdrStdRecvUint32 e 0) (fun _ => x) fun size =>
      if size > maxsize then refuse x
      else
        let nodesize := size + 1#32
        if nodesize = 0 then pure (true, x)
        else match x with
          | none =>
            attempt (memAlloc e nodesize.toNat) (fun _ => none) fun p => do
              touch p (size.toNat + 1)
              let o ← xdrOpaque e .decode (.block p) size (Function.update (e.junk p) size.toNat 0)
              pure (o.1, some ⟨p, o.2⟩)
          | some b => do
            let o ← xdrOpaque e .decode .given size (Function.update b.content size.toNat 0)
            pure (o.1, some ⟨b.addr, o.2⟩)
  | .free =>
    match x with
    | none => pure (true, none)
    | some b => do
      let s ← get
      match strlen ((s.heap.size b.addr).getD 0) b.content with
      | none => do
        -- `strlen` runs past the block, and what it makes of it is not known
        emit (.reach false)
        refuse x
      | some size => do
        touch b.addr (size + 1)
        if BitVec.ofNat 32 size > maxsize then refuse x
        else do
          memFree b.addr
          pure (true, none)

/-- An element routine, one call of it. -/
abbrev Proc (α : Type) := α → Run (Bool × α)

/-- `xdr_vector` (xdr.c:204–220). -/
def xdrVector (nelem : BitVec 32) (xdrElem : Proc α) : Proc (Nat → α) :=
  loop (fun _ => xdrElem) nelem.toNat 0

/-- The loop of `xdr_array` over `c` elements of the block at `p`. -/
def xdrElements (elsize : BitVec 32) (elproc : Proc α) (p : Nat) (c : BitVec 32) :
    Proc (Nat → α) :=
  loop (fun i a => do
    touch p ((i + 1) * elsize.toNat)
    elproc a) c.toNat 0

/-- `xdr_array` (xdr.c:336–394) on `*sizep` and `*addrp`. -/
def xdrArray (e : Env) (maxsize elsize : BitVec 32) (zero : α) (op : XdrOp) (elproc : Proc α)
    (x : BitVec 32 × Option (Block (Nat → α))) :
    Run (Bool × BitVec 32 × Option (Block (Nat → α))) :=
  attempt (xdrUInt e op x.1) (·, x.2) fun c =>
    if c > maxsize ∧ op ≠ .free then refuse (c, x.2)
    else
      let nodesize := c * elsize
      match op, x.2 with
      | .decode, none =>
        if c = 0 then pure (true, c, none)
        else do
          emit (.counts c elsize)
          attempt (memAlloc e nodesize.toNat) (fun _ => (c, none)) fun p => do
            touch p nodesize.toNat
            let o ← xdrElements elsize elproc p c fun _ => zero
            pure (o.1, c, some ⟨p, o.2⟩)
      | .decode, some b => do
        let o ← loop (fun _ => elproc) c.toNat 0 b.content
        pure (o.1, c, some ⟨b.addr, o.2⟩)
      | .free, none => pure (true, c, none)
      | .free, some b => do
        let o ← xdrElements elsize elproc b.addr c b.content
        memFree b.addr
        pure (o.1, c, none)

/-- `xdr_reference` (xdr.c:253–282) on `*pp`. -/
def xdrReference (e : Env) (size : BitVec 32) (zero : α) (op : XdrOp) (proc : Proc α)
    (x : Option (Block α)) : Run (Bool × Option (Block α)) :=
  match op, x with
  | .decode, none =>
    attempt (memAlloc e size.toNat) (fun _ => none) fun p => do
      touch p size.toNat
      let o ← proc zero
      pure (o.1, some ⟨p, o.2⟩)
  | .decode, some b => do
    let o ← proc b.content
    pure (o.1, some ⟨b.addr, o.2⟩)
  | .free, none => pure (true, none)
  | .free, some b => do
    touch b.addr size.toNat
    let o ← proc b.content
    memFree b.addr
    pure (o.1, none)

/-- `xdr_pointer` (xdr.c:304–318). -/
def xdrPointer (e : Env) (objSize : BitVec 32) (zero : α) (op : XdrOp) (xdrObj : Proc α)
    (x : Option (Block α)) : Run (Bool × Option (Block α)) :=
  attempt (xdrBool e op (if x.isSome then 1 else 0)) (fun _ => x) fun moreData =>
    if moreData = 0 then pure (true, none)
    else xdrReference e objSize zero op xdrObj x

/-- What rpcgen writes for a structure. -/
def xdrFields {β : Type} (first : Proc α) (rest : Proc β) : Proc (α × β) := fun x =>
  attempt (first x.1) (·, x.2) fun a =>
    attempt (rest x.2) (a, ·) fun b => pure (true, a, b)

/-- What rpcgen writes for a union: the discriminant, and the arm it selects. The
storage of the arms is one; `x.2 d` is what it holds as the arm of `d`. -/
def xdrUnion {δ : Type} [DecidableEq δ] {γ : δ → Type} (disc : Proc δ)
    (arm : (d : δ) → Proc (γ d)) : Proc (δ × ((d : δ) → γ d)) := fun x =>
  attempt (disc x.1) (·, x.2) fun d =>
    attempt (arm d (x.2 d)) (fun a => (d, Function.update x.2 d a)) fun a =>
      pure (true, d, Function.update x.2 d a)

/-- The calls that make up the routine of a type. -/
inductive Routine
  | scalar (s : Scalar)
  | fixedOpaque (cnt : BitVec 32)
  | bytes (maxsize : BitVec 32)
  | string (maxsize : BitVec 32)
  | array (maxsize elsize : BitVec 32) (elem : Routine)
  | vector (nelem : BitVec 32) (elem : Routine)
  | reference (size : BitVec 32) (obj : Routine)
  | pointer (size : BitVec 32) (obj : Routine)
  | void
  | fields (first rest : Routine)
  | union (disc : Disc) (arm : BitVec disc.scalar.width → Routine)

namespace Routine

/-- The storage that the routine works on. -/
def Store : Routine → Type
  | scalar s => BitVec s.width
  | fixedOpaque _ => Nat → Byte
  | bytes _ => BitVec 32 × Option (Block (Nat → Byte))
  | string _ => Option (Block (Nat → Byte))
  | array _ _ elem => BitVec 32 × Option (Block (Nat → elem.Store))
  | vector _ elem => Nat → elem.Store
  | reference _ obj => Option (Block obj.Store)
  | pointer _ obj => Option (Block obj.Store)
  | void => Unit
  | fields first rest => first.Store × rest.Store
  | union disc arm =>
    BitVec disc.scalar.width × ((d : BitVec disc.scalar.width) → (arm d).Store)

/-- Storage that `memset` has cleared. -/
def zero : (r : Routine) → r.Store
  | scalar s => 0#s.width
  | fixedOpaque _ => fun _ => 0
  | bytes _ => (0, none)
  | string _ => none
  | array _ _ _ => (0, none)
  | vector _ elem => fun _ => elem.zero
  | reference _ _ => none
  | pointer _ _ => none
  | void => ()
  | fields first rest => (first.zero, rest.zero)
  | union _ arm => (0, fun d => (arm d).zero)

/-- The routine. -/
def xdr (e : Env) (op : XdrOp) : (r : Routine) → Proc r.Store
  | scalar s => xdrScalar e op s
  | fixedOpaque cnt => xdrOpaque e op .given cnt
  | bytes maxsize => xdrBytes e maxsize op
  | string maxsize => xdrString e maxsize op
  | array maxsize elsize elem => xdrArray e maxsize elsize elem.zero op (elem.xdr e op)
  | vector nelem elem => xdrVector nelem (elem.xdr e op)
  | reference size obj => xdrReference e size obj.zero op (obj.xdr e op)
  | pointer size obj => xdrPointer e size obj.zero op (obj.xdr e op)
  | void => fun x => pure (true, x)
  | fields first rest => xdrFields (first.xdr e op) (rest.xdr e op)
  | union disc arm => xdrUnion (xdrScalar e op disc.scalar) fun d => (arm d).xdr e op

end Routine

end Ancora.Xdr.Storage
