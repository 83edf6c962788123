import Ancora.Xdr.Codec

/-!
# Types built from the XDR routines

`Ty` is the syntax of the types whose routines rpcgen composes out of xdr.c,
nested to any depth; a structure is its fields one after the other, a union its
discriminant and the arm it selects. By recursion on the type:

- `Ty.Val`: the value in memory on the 32-bit target;
- `Ty.codec`: the routine;
- `Ty.WithinMaxima`: no byte string, string or array exceeds its declared maximum;
- `Ty.wire`: the bytes that stand for the value, as the format prescribes them;
- `Ty.norm`: the value that decoding stores: a `bool_t` is 0 or 1, an empty
  counted sequence is a NULL pointer;
- `Ty.allocs`: the blocks that decoding allocates for it.

**`Ty.codec_faithful`**: the routine of every type is faithful to these.
-/

namespace Ancora.Xdr

open Stream

/-- The scalar routines. -/
inductive Scalar
  | int | uInt | long | uLong | enum | float | bool
  | short | uShort | char | uChar
  | uHyper | double
  deriving DecidableEq, Repr

namespace Scalar

/-- Bits in memory. -/
def width : Scalar → Nat
  | int | uInt | long | uLong | enum | float | bool => 32
  | short | uShort => 16
  | char | uChar => 8
  | uHyper | double => 64

def codec : (s : Scalar) → Codec (BitVec s.width)
  | int => xdrInt
  | uInt => xdrUInt
  | long => xdrLong
  | uLong => xdrULong
  | enum => xdrEnum
  | float => xdrFloat
  | bool => xdrBool
  | short => xdrShort
  | uShort => xdrUShort
  | char => xdrChar
  | uChar => xdrUChar
  | uHyper => xdrUHyper
  | double => xdrDouble

def wire : (s : Scalar) → BitVec s.width → List Byte
  | int | uInt | long | uLong | enum | float => htonl
  | bool => fun b => htonl (truth b)
  | short => fun v => htonl (v.signExtend 32)
  | uShort | char | uChar => fun v => htonl (v.setWidth 32)
  | uHyper | double => wire64

def norm : (s : Scalar) → BitVec s.width → BitVec s.width
  | bool => truth
  | _ => id

/-- The routine of every scalar type is faithful to its wire format. -/
theorem codec_faithful : ∀ s : Scalar, s.codec.Faithful (fun _ => True) s.wire s.norm
  | int | uInt | long | uLong | enum | float => uint32Codec_faithful
  | bool => xdrBool_faithful
  | short => narrow_faithful setWidth_signExtend
  | uShort => narrow_faithful fun v => BitVec.setWidth_setWidth_of_le v (by decide)
  | char | uChar => narrow_faithful fun v => BitVec.setWidth_setWidth_of_le v (by decide)
  | uHyper => xdrUHyper_faithful
  | double => xdrDouble_faithful

end Scalar

/-- What a union switches on. -/
inductive Disc
  | enum
  | uHyper
  deriving DecidableEq, Repr

def Disc.scalar : Disc → Scalar
  | enum => .enum
  | uHyper => .uHyper

/-- A discriminant comes back as it is. -/
theorem Disc.codec_faithful (d : Disc) :
    d.scalar.codec.Faithful (fun _ => True) d.scalar.wire id := by
  cases d with
  | enum => exact Scalar.codec_faithful .enum
  | uHyper => exact Scalar.codec_faithful .uHyper

inductive Ty
  | scalar (s : Scalar)
  | fixedOpaque (cnt : BitVec 32)
  | bytes (maxsize : BitVec 32)
  | string (maxsize : BitVec 32)
  | array (maxsize : BitVec 32) (elem : Ty)
  | vector (nelem : BitVec 32) (elem : Ty)
  | pointer (obj : Ty)
  | void
  | fields (first rest : Ty)
  | union (disc : Disc) (arm : BitVec disc.scalar.width → Ty)

namespace Ty

abbrev uChar : Ty := .scalar .uChar
abbrev enum : Ty := .scalar .enum
abbrev float : Ty := .scalar .float
abbrev double : Ty := .scalar .double

/-- A structure with these members. -/
def struct : List Ty → Ty
  | [] => .void
  | t :: ts => .fields t (struct ts)

/-- The arms of a union; every other discriminant has none. -/
def switch {w : Nat} (cases : List (BitVec w × Ty)) (d : BitVec w) : Ty :=
  (cases.lookup d).getD .void

/-- A value of the type in memory. -/
def Val : Ty → Type
  | scalar s => BitVec s.width
  | fixedOpaque cnt => List.Vector Byte cnt.toNat
  | bytes _ => Option (Counted Byte)
  | string _ => Option CString
  | array _ elem => Option (Counted elem.Val)
  | vector nelem elem => List.Vector elem.Val nelem.toNat
  | pointer obj => Option obj.Val
  | void => Unit
  | fields first rest => first.Val × rest.Val
  | union disc arm => (d : BitVec disc.scalar.width) × (arm d).Val

def codec : (t : Ty) → Codec t.Val
  | scalar s => s.codec
  | fixedOpaque cnt => xdrOpaque cnt
  | bytes maxsize => xdrBytes maxsize
  | string maxsize => xdrString maxsize
  | array maxsize elem => xdrArray maxsize elem.codec
  | vector nelem elem => xdrVector nelem elem.codec
  | pointer obj => xdrPointer obj.codec
  | void => xdrVoid
  | fields first rest => xdrFields first.codec rest.codec
  | union disc arm => xdrUnion disc.scalar.codec fun d => (arm d).codec

/-- Every count in the value is at most the declared maximum, and every string
is one. -/
def WithinMaxima : (t : Ty) → t.Val → Prop
  | scalar _, _ => True
  | fixedOpaque _, _ => True
  | bytes maxsize, p => (Counted.ofPointer p).len ≤ maxsize
  | string maxsize, p => ∃ s : CString, p = some s ∧ s.len ≤ maxsize
  | array maxsize elem, p =>
    (Counted.ofPointer p).len ≤ maxsize ∧
      ∀ x ∈ (Counted.ofPointer p).items, elem.WithinMaxima x
  | vector _ elem, v => ∀ x ∈ v.toList, elem.WithinMaxima x
  | pointer obj, p => ∀ x, p = some x → obj.WithinMaxima x
  | void, _ => True
  | fields first rest, v => first.WithinMaxima v.1 ∧ rest.WithinMaxima v.2
  | union _ arm, v => (arm v.1).WithinMaxima v.2

def wire : (t : Ty) → t.Val → List Byte
  | scalar s, v => s.wire v
  | fixedOpaque cnt, v => v.toList ++ padding cnt.toNat
  | bytes _, p =>
    htonl (Counted.ofPointer p).len ++
      ((Counted.ofPointer p).items ++ padding (Counted.ofPointer p).items.length)
  | string _, p =>
    p.elim [] fun s : CString => htonl s.len ++ (s.chars ++ padding s.chars.length)
  | array _ elem, p =>
    htonl (Counted.ofPointer p).len ++ (Counted.ofPointer p).items.flatMap elem.wire
  | vector _ elem, v => v.toList.flatMap elem.wire
  | pointer obj, p => htonl (if p.isSome then 1 else 0) ++ p.elim [] obj.wire
  | void, _ => []
  | fields first rest, v => first.wire v.1 ++ rest.wire v.2
  | union disc arm, v => disc.scalar.wire v.1 ++ (arm v.1).wire v.2

def norm : (t : Ty) → t.Val → t.Val
  | scalar s, v => s.norm v
  | fixedOpaque _, v => v
  | bytes _, p => Counted.stored id p
  | string _, p => p
  | array _ elem, p => Counted.stored elem.norm p
  | vector _ elem, v => v.map elem.norm
  | pointer obj, p => p.map obj.norm
  | void, v => v
  | fields first rest, v => (first.norm v.1, rest.norm v.2)
  | union _ arm, v => ⟨v.1, (arm v.1).norm v.2⟩

/-- **Every routine is faithful.** By induction on the type: the element routines
of a compound type are faithful, and each way of composing them keeps that. -/
theorem codec_faithful (t : Ty) : t.codec.Faithful t.WithinMaxima t.wire t.norm := by
  induction t with
  | scalar s => exact s.codec_faithful
  | fixedOpaque cnt => exact xdrOpaque_faithful cnt
  | bytes maxsize => exact xdrBytes_faithful maxsize
  | string maxsize => exact xdrString_faithful maxsize
  | array maxsize elem ih => exact xdrArray_faithful maxsize ih
  | vector nelem elem ih => exact xdrVector_faithful nelem ih
  | pointer obj ih => exact xdrPointer_faithful ih
  | void => exact xdrVoid_faithful
  | fields first rest ih₁ ih₂ => exact xdrFields_faithful ih₁ ih₂
  | union disc arm ih => exact xdrUnion_faithful disc.codec_faithful ih

/-- What zeroed storage holds. -/
def zero : (t : Ty) → t.Val
  | scalar s => 0#s.width
  | fixedOpaque cnt => List.Vector.replicate cnt.toNat 0#8
  | bytes _ => none
  | string _ => none
  | array _ _ => none
  | vector nelem elem => List.Vector.replicate nelem.toNat elem.zero
  | pointer _ => none
  | void => ()
  | fields first rest => (first.zero, rest.zero)
  | union _ arm => ⟨0, (arm 0).zero⟩

/-- How many blocks decoding allocates for the value: one for each pointer in it that is not
NULL. -/
def allocs : (t : Ty) → t.Val → Nat
  | scalar _, _ => 0
  | fixedOpaque _, _ => 0
  | bytes _, p => p.elim 0 fun _ => 1
  | string _, p => p.elim 0 fun _ => 1
  | array _ elem, p => p.elim 0 fun c => 1 + (c.items.map elem.allocs).sum
  | vector _ elem, v => (v.toList.map elem.allocs).sum
  | pointer obj, p => p.elim 0 fun x => 1 + obj.allocs x
  | void, _ => 0
  | fields first rest, v => first.allocs v.1 + rest.allocs v.2
  | union _ arm, v => (arm v.1).allocs v.2

/-- Scalars and byte fields of fixed size only: nothing is counted, and decoding changes
nothing. -/
def Plain : Ty → Prop
  | scalar s => s ≠ .bool
  | fixedOpaque _ => True
  | void => True
  | fields first rest => first.Plain ∧ rest.Plain
  | union _ arm => ∀ d, (arm d).Plain
  | _ => False

/-- Enumerations have no maxima and come back as they are. -/
theorem plain_enum : enum.Plain := by
  simp [Plain]

/-- A union has none if its arms have none. -/
theorem plain_switch {w : Nat} {cases : List (BitVec w × Ty)} (h : ∀ c ∈ cases, c.2.Plain)
    (d : BitVec w) : (switch cases d).Plain := by
  unfold switch
  cases hd : cases.lookup d with
  | none => trivial
  | some t =>
    obtain ⟨pre, post, hsplit, -⟩ := List.lookup_eq_some_iff.mp hd
    refine h (d, t) ?_
    rw [hsplit]
    exact List.mem_append_right pre List.mem_cons_self

/-- A plain type has no maxima to keep to. -/
theorem Plain.withinMaxima {t : Ty} (h : t.Plain) (v : t.Val) : t.WithinMaxima v := by
  induction t with
  | scalar _ => trivial
  | fixedOpaque _ => trivial
  | void => trivial
  | fields first rest ih₁ ih₂ => exact ⟨ih₁ h.1 v.1, ih₂ h.2 v.2⟩
  | union disc arm ih => exact ih v.1 (h v.1) v.2
  | bytes _ | string _ | array _ _ | vector _ _ | pointer _ => exact h.elim

/-- Values of a plain type come back as they are. -/
theorem Plain.norm_eq {t : Ty} (h : t.Plain) (v : t.Val) : t.norm v = v := by
  induction t with
  | scalar s =>
    cases s with
    | bool => exact absurd rfl h
    | _ => rfl
  | fixedOpaque _ => rfl
  | void => rfl
  | fields first rest ih₁ ih₂ => exact Prod.ext (ih₁ h.1 v.1) (ih₂ h.2 v.2)
  | union disc arm ih =>
    obtain ⟨d, x⟩ := v
    show (⟨d, (arm d).norm x⟩ : (d : BitVec disc.scalar.width) × (arm d).Val) = ⟨d, x⟩
    rw [ih d (h d) x]
  | bytes _ | string _ | array _ _ | vector _ _ | pointer _ => exact h.elim

end Ty

end Ancora.Xdr
