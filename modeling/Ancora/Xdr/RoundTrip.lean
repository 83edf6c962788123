import Ancora.Xdr.Types

/-!
# The round trip

Encoding a value that is within its maxima and fits in what is left of `out_msg`
succeeds, and decoding the bytes it appended gives the value back and leaves
`in_next` where `out_next` was left. Because the positions agree after every
field, a whole sequence of fields is decoded by the same sequence of routines.

- `RoundTrips send size recv a`: the contract, for any place in any message.
- `encodeFields`, `decodeFields`: one routine after the other.
- **`xdr_round_trip`**: every type, and every sequence of fields.
-/

namespace Ancora.Xdr

open Stream

variable {α : Type}

/-- With `size` bytes left in `out_msg`, `send` succeeds and takes exactly these;
a message with the appended bytes at the same place is read by `recv` as `a`,
which stops where `send` stopped. -/
def RoundTrips (send : Send Unit) (size : Nat) (recv : Recv α) (a : α) : Prop :=
  ∀ out : OutMsg, out.next + size ≤ rpcrouterMsgsizeMax →
    ∃ out' : OutMsg, send.run out = .ok ((), out') ∧ out'.next = out.next + size ∧
      ∀ inp : InMsg, inp.next = out.next → out'.bytes.drop out.next <+: inp.rest →
        ∃ inp' : InMsg, recv.run inp = .ok (a, inp') ∧ inp'.msg = inp.msg ∧
          inp'.next = out'.next

theorem RoundTrips.of_writes_reads {send : Send Unit} {recv : Recv α} {w : List Byte} {a : α}
    (hw : Writes send w) (hr : Reads recv w a) : RoundTrips send w.length recv a :=
  fun out hfit => hw.then_reads hr out hfit

/-- A value with its type. -/
abbrev Field := (t : Ty) × t.Val

def Field.wire (f : Field) : List Byte := f.1.wire f.2

/-- What decoding stores for the field. -/
def Field.norm (f : Field) : Field := ⟨f.1, f.1.norm f.2⟩

def encodeFields (fs : List Field) : Send Unit := fs.forM fun f => f.1.codec.encode f.2

def decodeFields : List Ty → Recv (List Field)
  | [] => pure []
  | t :: ts => do
    let v ← t.codec.decode
    let fs ← decodeFields ts
    pure (⟨t, v⟩ :: fs)

theorem decodeFields_reads (fs : List Field) (hfs : ∀ f ∈ fs, f.1.WithinMaxima f.2) :
    Reads (decodeFields (fs.map Sigma.fst)) (fs.flatMap Field.wire) (fs.map Field.norm) := by
  induction fs with
  | nil => exact Reads.pure []
  | cons f fs ih =>
    have hf := f.1.codec_faithful.reads f.2 (hfs f List.mem_cons_self)
    have hrest := ih fun g hg => hfs g (List.mem_cons_of_mem f hg)
    rw [List.flatMap_cons]
    exact hf.bind (hrest.map fun gs => f.norm :: gs)

/-- **The codec round trip**: for every type built from the routines and every
value of it within the declared maxima, and for every sequence of such fields. -/
theorem xdr_round_trip :
    (∀ (t : Ty) (v : t.Val), t.WithinMaxima v →
      RoundTrips (t.codec.encode v) (t.wire v).length t.codec.decode (t.norm v)) ∧
    (∀ fs : List Field, (∀ f ∈ fs, f.1.WithinMaxima f.2) →
      RoundTrips (encodeFields fs) (fs.flatMap Field.wire).length
        (decodeFields (fs.map Sigma.fst)) (fs.map Field.norm)) := by
  constructor
  · intro t v hv
    exact .of_writes_reads (t.codec_faithful.writes v hv) (t.codec_faithful.reads v hv)
  · intro fs hfs
    have hwrites : Writes (encodeFields fs) (fs.flatMap Field.wire) :=
      Writes.forM fun f hf => f.1.codec_faithful.writes f.2 (hfs f hf)
    exact .of_writes_reads hwrites (decodeFields_reads fs hfs)

/-- An array of structures with a `bool_t`, a string and an optional `short`. -/
def nestedTy : Ty :=
  .array 3 (.struct [.scalar .bool, .string 5, .pointer (.scalar .short)])

def nestedVal (flag : BitVec 32) : nestedTy.Val :=
  some ⟨[(flag, some ⟨[0x61, 0x62], by decide, by decide⟩, some (-2 : BitVec 16), ())],
    (by decide : 1 < 2 ^ 32)⟩

def emptyOut : OutMsg := ⟨[], by decide, by decide⟩

/-- A flag of 5 comes back as 1; 24 bytes are written and read. -/
theorem xdr_round_trip_nested :
    ∃ out', (nestedTy.codec.encode (nestedVal 5)).run emptyOut = .ok ((), out') ∧
      ∃ inp', nestedTy.codec.decode.run ⟨out'.bytes, 0, by decide, out'.bounded⟩ =
        .ok (nestedVal 1, inp') ∧ inp'.next = 24 := by
  have hmax : nestedTy.WithinMaxima (nestedVal 5) := by
    refine ⟨by decide, fun x hx => ?_⟩
    rw [List.mem_singleton.mp hx]
    exact ⟨trivial, ⟨_, rfl, by decide⟩, fun _ _ => trivial, trivial⟩
  obtain ⟨out', hrun, hnext, hback⟩ := xdr_round_trip.1 nestedTy (nestedVal 5) hmax emptyOut
    (by decide)
  obtain ⟨inp', hdec, _, hend⟩ := hback ⟨out'.bytes, 0, by decide, out'.bounded⟩ rfl
    (List.prefix_rfl)
  exact ⟨out', hrun, inp', hdec, hend.trans hnext⟩

end Ancora.Xdr
