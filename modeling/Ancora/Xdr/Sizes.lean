import Ancora.Xdr.Types

/-!
# How long an encoding is, and when it is exact

For a bound on a message one needs to know how many bytes a value takes. Types without counted
members and without unions have one size for all their values (`Ty.fixedSize`); a union is as
long as its longest arm (`wireLe_switch`); the byte strings of a value are counted apart
(`Ty.byteCount`).

- `Ty.WireLe t n`: an encoding takes at most `n` bytes besides the contents of byte strings.
- `Ty.Uncounted`: there is nothing to count, and no maximum to keep.
- `Ty.Canonical v`: each `bool_t` of the value is 0 or 1, and an empty sequence is a NULL
  pointer; **`Ty.Canonical.norm_eq`**: decoding gives such a value back as it is.
- **`Ty.decode_canonical`**: decoding stores no others.
-/

namespace Ancora.Xdr.Ty

/-- The bytes in the byte strings of a value. -/
def byteCount : (t : Ty) → t.Val → Nat
  | scalar _, _ => 0
  | fixedOpaque _, _ => 0
  | bytes _, p => (Counted.ofPointer p).items.length
  | string _, p => p.elim 0 fun s : CString => s.chars.length
  | array _ elem, p => ((Counted.ofPointer p).items.map elem.byteCount).sum
  | vector _ elem, v => (v.toList.map elem.byteCount).sum
  | pointer obj, p => p.elim 0 obj.byteCount
  | void, _ => 0
  | fields first rest, v => first.byteCount v.1 + rest.byteCount v.2
  | union _ arm, v => (arm v.1).byteCount v.2

/-- The size of every encoding of a type that has neither counted members nor a union; of a
byte string, that of its count and its padding. -/
def fixedSize : Ty → Option Nat
  | scalar .uHyper | scalar .double => some 8
  | scalar _ => some 4
  | fixedOpaque cnt => some (cnt.toNat + 3)
  | bytes _ => some 7
  | vector nelem elem => elem.fixedSize.map (nelem.toNat * ·)
  | void => some 0
  | fields first rest => first.fixedSize.bind fun m => rest.fixedSize.map (m + ·)
  | _ => none

/-- An encoding takes at most `n` bytes besides the contents of byte strings. -/
def WireLe (t : Ty) (n : Nat) : Prop := ∀ v : t.Val, (t.wire v).length ≤ n + t.byteCount v

variable {t : Ty} {m n : Nat}

/-- There are at most three bytes of padding. -/
theorem padding_le (k : Nat) : (padding k).length ≤ 3 := by
  rw [padding_length]
  omega

/-- A bound may be made larger. -/
theorem WireLe.mono (h : t.WireLe m) (hle : m ≤ n) : t.WireLe n := fun v => by
  have hv := h v
  omega

/-- The encodings of the elements one after the other. -/
theorem flatMap_wire_le (h : t.WireLe n) (vs : List t.Val) :
    (vs.flatMap t.wire).length ≤ vs.length * n + (vs.map t.byteCount).sum := by
  induction vs with
  | nil => simp
  | cons v vs ih =>
    have hv := h v
    rw [List.flatMap_cons, List.length_append, List.map_cons, List.sum_cons, List.length_cons,
      Nat.succ_mul]
    omega

/-- A scalar is one word, or two if it is a hyper integer or a double. -/
theorem scalar_wire_length (s : Scalar) (v : BitVec s.width) :
    (s.wire v).length ≤ 8 ∧ (s ≠ .uHyper → s ≠ .double → (s.wire v).length = 4) := by
  cases s with
  | uHyper => exact ⟨Nat.le_refl 8, fun h => absurd rfl h⟩
  | double => exact ⟨Nat.le_refl 8, fun _ h => absurd rfl h⟩
  | _ => exact ⟨(by decide : 4 ≤ 8), fun _ _ => rfl⟩

/-- An encoding of a fixed size is bounded by it. -/
theorem wireLe_of_fixedSize (h : t.fixedSize = some n) : t.WireLe n := by
  induction t generalizing n with
  | scalar s =>
    intro v
    have hlen := scalar_wire_length s v
    cases s with
    | uHyper =>
      obtain rfl := Option.some.inj h
      exact hlen.1
    | double =>
      obtain rfl := Option.some.inj h
      exact hlen.1
    | _ =>
      obtain rfl := Option.some.inj h
      exact (hlen.2 (by decide) (by decide)).le
  | fixedOpaque cnt =>
    intro v
    have hpad := padding_le cnt.toNat
    have hlen : v.toList.length = cnt.toNat := v.toList_length
    obtain rfl := Option.some.inj h
    simp only [wire, List.length_append, byteCount]
    omega
  | bytes _ =>
    intro p
    have hpad := padding_le (Counted.ofPointer p).items.length
    obtain rfl := Option.some.inj h
    simp only [wire, List.length_append, htonl_length, byteCount]
    omega
  | vector nelem elem ih =>
    intro v
    obtain ⟨k, hk, rfl⟩ := Option.map_eq_some_iff.mp h
    have hall := flatMap_wire_le (ih hk) v.toList
    rw [v.toList_length] at hall
    exact hall
  | void =>
    intro v
    exact Nat.zero_le _
  | fields first rest ih₁ ih₂ =>
    intro v
    obtain ⟨k₁, hk₁, hrest⟩ := Option.bind_eq_some_iff.mp h
    obtain ⟨k₂, hk₂, rfl⟩ := Option.map_eq_some_iff.mp hrest
    have h₁ := ih₁ hk₁ v.1
    have h₂ := ih₂ hk₂ v.2
    simp only [wire, List.length_append, byteCount]
    omega
  | string _ | array _ _ _ | pointer _ _ | union _ _ _ => cases h

/-- The bounds of the fields of a structure add up. -/
theorem wireLe_fields {first rest : Ty} (h₁ : first.WireLe m) (h₂ : rest.WireLe n) :
    (fields first rest).WireLe (m + n) := by
  intro v
  have hfirst := h₁ v.1
  have hrest := h₂ v.2
  simp only [wire, List.length_append, byteCount]
  omega

/-- A bound for all cases is one for the arm that is selected. -/
theorem wireLe_switch {w : Nat} {cases : List (BitVec w × Ty)} (h : ∀ c ∈ cases, c.2.WireLe n)
    (d : BitVec w) : (switch cases d).WireLe n := by
  unfold switch
  cases hd : cases.lookup d with
  | none => exact fun v => Nat.zero_le _
  | some t =>
    obtain ⟨pre, post, hsplit, -⟩ := List.lookup_eq_some_iff.mp hd
    refine h (d, t) ?_
    rw [hsplit]
    exact List.mem_append_right pre List.mem_cons_self

/-- A union takes a word more than its arms. -/
theorem wireLe_union {arm : BitVec 32 → Ty} (h : ∀ d, (arm d).WireLe n) :
    (union .enum arm).WireLe (4 + n) := by
  intro v
  have hv := h v.1 v.2
  simp only [wire, List.length_append, byteCount]
  exact (Nat.add_le_add_left hv 4).trans (Nat.le_of_eq (Nat.add_assoc 4 n _).symm)

/-! ## Types without counted members -/

/-- Nothing in a value is counted. -/
def Uncounted : Ty → Prop
  | scalar _ | fixedOpaque _ | void => True
  | bytes _ | string _ | array _ _ => False
  | vector _ elem => elem.Uncounted
  | pointer obj => obj.Uncounted
  | fields first rest => first.Uncounted ∧ rest.Uncounted
  | union _ arm => ∀ d, (arm d).Uncounted

/-- A union has no counted members if the case that is selected has none. -/
theorem uncounted_switch {w : Nat} {cases : List (BitVec w × Ty)} {d : BitVec w}
    (h : ∀ c ∈ cases, c.1 = d → c.2.Uncounted) : (switch cases d).Uncounted := by
  unfold switch
  cases hd : cases.lookup d with
  | none => trivial
  | some t =>
    obtain ⟨pre, post, hsplit, -⟩ := List.lookup_eq_some_iff.mp hd
    refine h (d, t) ?_ rfl
    rw [hsplit]
    exact List.mem_append_right pre List.mem_cons_self

/-- There are no byte strings in it. -/
theorem Uncounted.byteCount_eq (h : t.Uncounted) (v : t.Val) : t.byteCount v = 0 := by
  induction t with
  | scalar _ => rfl
  | fixedOpaque _ => rfl
  | void => rfl
  | vector _ elem ih =>
    refine List.sum_eq_zero fun k hk => ?_
    obtain ⟨x, -, rfl⟩ := List.mem_map.mp hk
    exact ih h x
  | pointer obj ih =>
    cases v with
    | none => rfl
    | some x => exact ih h x
  | fields first rest ih₁ ih₂ =>
    simp only [byteCount]
    rw [ih₁ h.1 v.1, ih₂ h.2 v.2]
  | union disc arm ih => exact ih v.1 (h v.1) v.2
  | bytes _ | string _ | array _ _ => exact h.elim

/-- There are no maxima to keep to. -/
theorem Uncounted.withinMaxima (h : t.Uncounted) (v : t.Val) : t.WithinMaxima v := by
  induction t with
  | scalar _ => trivial
  | fixedOpaque _ => trivial
  | void => trivial
  | vector _ elem ih => exact fun x _ => ih h x
  | pointer obj ih => exact fun x _ => ih h x
  | fields first rest ih₁ ih₂ => exact ⟨ih₁ h.1 v.1, ih₂ h.2 v.2⟩
  | union disc arm ih => exact ih v.1 (h v.1) v.2
  | bytes _ | string _ | array _ _ => exact h.elim

/-! ## Values that decoding gives back as they are -/

/-- Each `bool_t` is 0 or 1, and an empty counted sequence has no pointer. -/
def Canonical : (t : Ty) → t.Val → Prop
  | scalar s, v => s.norm v = v
  | fixedOpaque _, _ => True
  | bytes _, p => ∀ c : Counted Byte, p = some c → c.items ≠ []
  | string _, _ => True
  | array _ elem, p => ∀ c : Counted elem.Val, p = some c →
    c.items ≠ [] ∧ ∀ x ∈ c.items, elem.Canonical x
  | vector _ elem, v => ∀ x ∈ v.toList, elem.Canonical x
  | pointer obj, p => ∀ x, p = some x → obj.Canonical x
  | void, _ => True
  | fields first rest, v => first.Canonical v.1 ∧ rest.Canonical v.2
  | union _ arm, v => (arm v.1).Canonical v.2

/-- For a `bool_t` this says what it is meant to. -/
theorem canonical_bool (b : BitVec 32) : (scalar .bool).Canonical b ↔ b = 0 ∨ b = 1 := by
  change truth b = b ↔ _
  unfold truth
  split
  · rename_i h
    simp [h]
  · rename_i h
    constructor
    · intro hb
      exact .inr hb.symm
    · rintro (hb | hb)
      · exact absurd hb h
      · exact hb.symm

/-- Counted items come back as they are if there are some and each of them does. -/
theorem stored_eq {α : Type} {f : α → α} {p : Option (Counted α)}
    (h : ∀ c, p = some c → c.items ≠ [] ∧ c.items.map f = c.items) : Counted.stored f p = p := by
  cases p with
  | none => rfl
  | some c =>
    obtain ⟨hne, hmap⟩ := h c rfl
    have hlen : (Counted.ofPointer (some c)).len ≠ 0 := fun hz => hne (Counted.items_eq_nil hz)
    rw [Counted.stored, if_neg hlen]
    obtain ⟨items, hlt⟩ := c
    exact congrArg some (by simpa [Counted.map, Counted.ofPointer] using hmap)

/-- Canonical values come back as they are. -/
theorem Canonical.norm_eq {v : t.Val} (h : t.Canonical v) : t.norm v = v := by
  induction t with
  | scalar s => exact h
  | fixedOpaque _ => rfl
  | bytes _ => exact stored_eq fun c hc => ⟨h c hc, List.map_id _⟩
  | string _ => rfl
  | array _ elem ih =>
    refine stored_eq fun c hc => ⟨(h c hc).1, ?_⟩
    exact (List.map_congr_left fun x hx => ih ((h c hc).2 x hx)).trans (List.map_id _)
  | vector _ elem ih =>
    have hmap : (List.Vector.toList v).map elem.norm = List.Vector.toList v :=
      (List.map_congr_left fun x hx => ih (h x hx)).trans (List.map_id _)
    exact List.Vector.eq _ _ ((List.Vector.toList_map v elem.norm).trans hmap)
  | pointer obj ih =>
    cases v with
    | none => rfl
    | some x => exact congrArg some (ih (h x rfl))
  | void => rfl
  | fields first rest ih₁ ih₂ => exact Prod.ext (ih₁ h.1) (ih₂ h.2)
  | union disc arm ih =>
    obtain ⟨d, x⟩ := v
    exact congrArg (Sigma.mk d) (ih d h)

/-! ## What decoding stores -/

open Stream

/-- A vector of a length other than 0 has items. -/
theorem items_ofVector_ne_nil {α : Type} {n : BitVec 32} (hne : ¬ n = 0)
    (v : List.Vector α n.toNat) : (Counted.ofVector v).items ≠ [] := by
  intro hnil
  have hlen : v.toList.length = 0 := congrArg List.length hnil
  rw [List.Vector.toList_length] at hlen
  exact hne (BitVec.eq_of_toNat_eq hlen)

/-- `xdr_bool` gives 0 or 1. -/
theorem decode_bool_canonical : Returns xdrBool.decode fun b => truth b = b := by
  have hword : Returns xdrStdRecvUint32 fun _ => True := Returns.of_forall fun _ => trivial
  refine hword.bind fun lb _ => Returns.pure ?_
  split
  · rfl
  · rfl

/-- **What decoding stores is canonical.** By induction on the type, as `Ty.codec_faithful`. -/
theorem decode_canonical (t : Ty) : Returns t.codec.decode t.Canonical := by
  induction t with
  | scalar s =>
    cases s with
    | bool => exact decode_bool_canonical
    | _ => exact Returns.of_forall fun _ => rfl
  | fixedOpaque cnt => exact Returns.of_forall fun _ => trivial
  | string maxsize => exact Returns.of_forall fun _ => trivial
  | void => exact Returns.of_forall fun _ => trivial
  | bytes maxsize =>
    have hsize : Returns xdrStdRecvUint32 fun _ => True := Returns.of_forall fun _ => trivial
    refine hsize.bind fun size _ => ?_
    split
    · exact Returns.throw _
    split
    · exact Returns.pure fun c hc => absurd hc nofun
    · rename_i hne
      have hbuf : Returns (xdrStdRecvBytes size) fun _ => True := Returns.of_forall fun _ => trivial
      refine hbuf.bind fun buf _ => Returns.pure fun c hc => ?_
      cases hc
      exact items_ofVector_ne_nil hne buf
  | array maxsize elem ih =>
    have hsize : Returns xdrStdRecvUint32 fun _ => True := Returns.of_forall fun _ => trivial
    refine hsize.bind fun size _ => ?_
    split
    · exact Returns.throw _
    split
    · exact Returns.pure fun c hc => absurd hc nofun
    · rename_i hne
      refine (ih.readN size.toNat).bind fun target htarget => Returns.pure fun c hc => ?_
      cases hc
      exact ⟨items_ofVector_ne_nil hne target, htarget⟩
  | vector nelem elem ih => exact ih.readN nelem.toNat
  | pointer obj ih =>
    refine decode_bool_canonical.bind fun moreData _ => ?_
    split
    · exact Returns.pure fun x hx => absurd hx nofun
    · refine ih.bind fun y hy => Returns.pure fun x hx => ?_
      cases hx
      exact hy
  | fields first rest ih₁ ih₂ =>
    exact ih₁.bind fun a ha => ih₂.bind fun b hb => Returns.pure ⟨ha, hb⟩
  | union disc arm ih =>
    have hdisc : Returns disc.scalar.codec.decode fun _ => True :=
      Returns.of_forall fun _ => trivial
    exact hdisc.bind fun d _ => (ih d).bind fun x hx => Returns.pure hx

end Ancora.Xdr.Ty
