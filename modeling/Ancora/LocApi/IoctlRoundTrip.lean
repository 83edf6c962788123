import Ancora.LocApi.IoctlTypes
import Ancora.Rpc.Message
import Ancora.Xdr.RoundTrip
import Ancora.Xdr.Sizes

/-!
# The ioctl argument on the wire

`loc_ioctl` sets the discriminant of its data to the ioctl, and `clnt_call` encodes the argument
behind the call header. For every ioctl the arm that the routine takes is the one of the
interface file: the label too many is no ioctl. The longest arm is the wiper report, apart from
the byte strings of the orbit data and of the EFS data.

- `locIoctlArgs`: the argument as `loc_ioctl` makes it.
- `ioctlData_wire_le`: the data fits.
- **`ioctl_round_trip`**: the argument is encoded as the interface file prescribes, and decoding
  gives it back.
-/

namespace Ancora.LocApi

open Xdr Stream Rpc

/-- The arguments that `loc_ioctl` passes on (loc_api_rpc_glue.c:412–425): `disc` is the
ioctl. -/
def locIoctlArgs (arm : BitVec 32 → Ty) (handle ioctlType : BitVec 32)
    (data : Option (arm ioctlType).Val) :
    (Ty.struct [.scalar .long, .enum, .pointer (.union .enum arm)]).Val :=
  (handle, ioctlType, data.map fun x => ⟨ioctlType, x⟩, ())

/-- The routine has the arm of the interface file for every ioctl. -/
theorem ioctlDataArm_eq {ioctlType : BitVec 32} (h : ioctlType ∈ rpcLocIoctlEType) :
    xdrRpcLocIoctlDataArm ioctlType = Spec.rpcLocIoctlDataArm ioctlType := by
  have hall : ∀ d ∈ rpcLocIoctlEType,
      xdrRpcLocIoctlDataArm d = Spec.rpcLocIoctlDataArm d := by
    simp only [rpcLocIoctlEType, List.forall_mem_cons]
    refine ⟨rfl, rfl, rfl, rfl, rfl, rfl, rfl, rfl, rfl, rfl, rfl, rfl, rfl, rfl, rfl, rfl, rfl,
      rfl, rfl, rfl, rfl, rfl, rfl, rfl, rfl, rfl, rfl, rfl, rfl, rfl, rfl, rfl, rfl, rfl, rfl, ?_⟩
    intro d hd
    cases hd
  exact hall ioctlType h

/-! ## The arms -/

theorem wireLe_serverInfo : Spec.rpcLocServerInfoSType.WireLe 300 := by
  have harms : ∀ c ∈ [(rpcLocServerAddrIpv4, Spec.rpcLocServerAddrIpv4Type),
      (rpcLocServerAddrUrl, Spec.rpcLocServerAddrUrlType)], c.2.WireLe 263 := by
    simp only [List.forall_mem_cons]
    exact ⟨(Ty.wireLe_of_fixedSize rfl).mono (by decide),
      (Ty.wireLe_of_fixedSize rfl).mono (by decide), fun c hc => by cases hc⟩
  have haddr : Spec.rpcLocServerAddrUType.WireLe (4 + 263) :=
    Ty.wireLe_union (Ty.wireLe_switch harms)
  exact (Ty.wireLe_fields (Ty.wireLe_of_fixedSize rfl)
    (Ty.wireLe_fields haddr (Ty.wireLe_of_fixedSize rfl))).mono (by decide)

theorem wireLe_niSuplReq : Spec.rpcLocNiSuplNotifyVerifyReqSType.WireLe 800 := by
  have hsession : Spec.rpcLocNiSuplSlpSessionIdSType.WireLe (4 + (7 + (300 + 0))) :=
    Ty.wireLe_fields (Ty.wireLe_of_fixedSize rfl) (Ty.wireLe_fields (Ty.wireLe_of_fixedSize rfl)
      (Ty.wireLe_fields wireLe_serverInfo (Ty.wireLe_of_fixedSize rfl)))
  exact (Ty.wireLe_fields (Ty.wireLe_of_fixedSize rfl)
    (Ty.wireLe_fields (Ty.wireLe_of_fixedSize rfl)
      (Ty.wireLe_fields hsession (Ty.wireLe_of_fixedSize rfl)))).mono (by decide)

theorem wireLe_userVerify : Spec.rpcLocUserVerifySType.WireLe 900 := by
  have harms : ∀ c ∈ [(rpcLocNiEventVxNotifyVerifyReq, Spec.rpcLocNiVxNotifyVerifyReqSType),
      (rpcLocNiEventSuplNotifyVerifyReq, Spec.rpcLocNiSuplNotifyVerifyReqSType),
      (rpcLocNiEventUmtsCpNotifyVerifyReq, Spec.rpcLocNiUmtsCpNotifyVerifyReqSType),
      (rpcLocNiEventVxServiceInteractionReq, Spec.rpcLocNiVxServiceInteractionReqSType)],
      c.2.WireLe 800 := by
    simp only [List.forall_mem_cons]
    exact ⟨(Ty.wireLe_of_fixedSize rfl).mono (by decide), wireLe_niSuplReq,
      (Ty.wireLe_of_fixedSize rfl).mono (by decide),
      (Ty.wireLe_of_fixedSize rfl).mono (by decide), fun c hc => by cases hc⟩
  have hpayload : Spec.rpcLocNiEventPayloadUType.WireLe (4 + 800) :=
    Ty.wireLe_union (Ty.wireLe_switch harms)
  have hevent : Spec.rpcLocNiEventSType.WireLe (4 + (4 + 800 + 0)) :=
    Ty.wireLe_fields (Ty.wireLe_of_fixedSize rfl)
      (Ty.wireLe_fields hpayload (Ty.wireLe_of_fixedSize rfl))
  exact (Ty.wireLe_fields (Ty.wireLe_of_fixedSize rfl)
    (Ty.wireLe_fields hevent (Ty.wireLe_of_fixedSize rfl))).mono (by decide)

/-- The longest arm is the wiper report. -/
theorem ioctlDataArm_wireLe (ioctlType : BitVec 32) :
    (Spec.rpcLocIoctlDataArm ioctlType).WireLe 1100 := by
  have hfixed : ∀ {t : Ty} {n : Nat}, t.fixedSize = some n → n ≤ 1100 → t.WireLe 1100 :=
    fun h hle => (Ty.wireLe_of_fixedSize h).mono hle
  have hserver := wireLe_serverInfo.mono (by decide : 300 ≤ 1100)
  have hverify := wireLe_userVerify.mono (by decide : 900 ≤ 1100)
  refine Ty.wireLe_switch ?_ ioctlType
  simp only [Spec.rpcLocIoctlDataArms, List.forall_mem_cons]
  exact ⟨hfixed rfl (by decide), hverify, hfixed rfl (by decide), hfixed rfl (by decide),
    hfixed rfl (by decide), hfixed rfl (by decide), hfixed rfl (by decide), hfixed rfl (by decide),
    hfixed rfl (by decide), hfixed rfl (by decide), hfixed rfl (by decide), hfixed rfl (by decide),
    hfixed rfl (by decide), hfixed rfl (by decide), hserver, hserver, hserver, hserver,
    hfixed rfl (by decide), hfixed rfl (by decide), fun c hc => by cases hc⟩

/-- Only the orbit data and the EFS data have a byte string in them. -/
theorem ioctlDataArm_uncounted {ioctlType : BitVec 32}
    (horbits : ioctlType ≠ rpcLocIoctlInjectPredictedOrbitsData)
    (hefs : ioctlType ≠ rpcLocIoctlAccessEfsData) :
    (Spec.rpcLocIoctlDataArm ioctlType).Uncounted := by
  have hserver : Spec.rpcLocServerInfoSType.Uncounted := by
    refine ⟨trivial, fun d => Ty.uncounted_switch ?_, trivial⟩
    simp only [List.forall_mem_cons]
    exact ⟨fun _ => ⟨trivial, trivial, trivial⟩, fun _ => ⟨trivial, trivial, trivial⟩,
      fun c hc => by cases hc⟩
  have hverify : Spec.rpcLocUserVerifySType.Uncounted := by
    refine ⟨trivial, ⟨trivial, fun d => Ty.uncounted_switch ?_, trivial⟩, trivial⟩
    simp only [List.forall_mem_cons]
    refine ⟨fun _ => ?_, fun _ => ?_, fun _ => ?_, fun _ => ?_, fun c hc => by cases hc⟩
    · simp [Spec.rpcLocNiVxNotifyVerifyReqSType, Spec.rpcLocNiVxRequesterIdSType, Ty.struct,
        Ty.Uncounted]
    · exact ⟨trivial, trivial, ⟨trivial, trivial, hserver, trivial⟩, trivial, trivial, trivial,
        ⟨trivial, trivial, trivial, trivial⟩, ⟨trivial, trivial, trivial, trivial⟩,
        ⟨trivial, trivial, trivial, trivial, trivial, trivial⟩, trivial, trivial⟩
    · simp [Spec.rpcLocNiUmtsCpNotifyVerifyReqSType, Spec.rpcLocNiExtClientAddressSType,
        Spec.rpcLocNiDeferredLocationSType, Spec.rpcLocNiRequestorIdSType,
        Spec.rpcLocNiCodewordStringSType, Spec.rpcLocNiServiceTypeIdSType, Ty.struct, Ty.Uncounted]
    · simp [Spec.rpcLocNiVxServiceInteractionReqSType, Spec.rpcLocNiVxNotifyVerifyReqSType,
        Spec.rpcLocNiVxRequesterIdSType, Ty.struct, Ty.Uncounted]
  refine Ty.uncounted_switch ?_
  simp only [Spec.rpcLocIoctlDataArms, List.forall_mem_cons]
  refine ⟨fun _ => ?_, fun _ => hverify, fun h => absurd h.symm horbits, fun _ => ?_, fun _ => ?_,
    fun _ => ?_, fun _ => ?_, fun _ => ?_, fun _ => ?_, fun _ => trivial, fun _ => trivial,
    fun _ => trivial, fun _ => trivial, fun _ => trivial, fun _ => hserver, fun _ => hserver,
    fun _ => hserver, fun _ => hserver, fun _ => ?_, fun h => absurd h.symm hefs,
    fun c hc => by cases hc⟩
  · simp [Spec.rpcLocFixCriteriaSType, Ty.struct, Ty.Uncounted]
  · exact ⟨trivial, trivial, trivial⟩
  · exact ⟨trivial, trivial, trivial⟩
  · simp [Spec.rpcLocAssistDataPosSType, Ty.struct, Ty.Uncounted]
  · exact ⟨trivial, trivial, trivial, trivial⟩
  · exact ⟨trivial, trivial, trivial⟩
  · simp [Spec.rpcLocWiperPositionReportSType, Spec.rpcLocWiperFixTimeSType,
      Spec.rpcLocWiperFixPosSType, Spec.rpcLocWiperApSetSType, Spec.rpcLocWiperApInfoSType,
      Ty.struct, Ty.Uncounted]
  · exact ⟨trivial, trivial, trivial⟩

section Data

variable {ioctlType : BitVec 32} (d : (Spec.rpcLocIoctlDataArm ioctlType).Val)

/-- The byte strings have no maximum to keep. -/
theorem ioctlData_withinMaxima : (Spec.rpcLocIoctlDataArm ioctlType).WithinMaxima d := by
  have hmax : ∀ p : Option (Counted Byte), (Counted.ofPointer p).len ≤ -1#32 := by
    intro p
    have hlt := (Counted.ofPointer p).len.isLt
    exact BitVec.le_def.mpr (Nat.le_of_lt_succ hlt)
  by_cases horbits : ioctlType = rpcLocIoctlInjectPredictedOrbitsData
  · subst horbits
    exact ⟨trivial, trivial, trivial, trivial, trivial, hmax _, trivial⟩
  · by_cases hefs : ioctlType = rpcLocIoctlAccessEfsData
    · subst hefs
      exact ⟨trivial, trivial, trivial, hmax _, trivial, trivial, trivial, trivial, trivial⟩
    · exact (ioctlDataArm_uncounted horbits hefs).withinMaxima d

theorem ioctlData_wire_le
    (horbits : ioctlType = rpcLocIoctlInjectPredictedOrbitsData →
      (Spec.rpcLocIoctlDataArm ioctlType).byteCount d ≤ 1024)
    (hefs : ioctlType = rpcLocIoctlAccessEfsData →
      (Spec.rpcLocIoctlDataArm ioctlType).byteCount d ≤ 2000) :
    ((Spec.rpcLocIoctlDataArm ioctlType).wire d).length ≤ 3100 := by
  have hle := ioctlDataArm_wireLe ioctlType d
  by_cases h₁ : ioctlType = rpcLocIoctlInjectPredictedOrbitsData
  · have hcount := horbits h₁
    omega
  · by_cases h₂ : ioctlType = rpcLocIoctlAccessEfsData
    · have hcount := hefs h₂
      omega
    · have hcount := (ioctlDataArm_uncounted h₁ h₂).byteCount_eq d
      omega

end Data

/-! ## The round trip -/

section Args

variable {arm : BitVec 32 → Ty} {handle ioctlType : BitVec 32}

/-- The encoding of the arguments depends on the arm of the ioctl only. -/
def argsWire (t : Ty) (handle ioctlType : BitVec 32) (data : Option t.Val) : List Byte :=
  htonl handle ++ (htonl ioctlType ++
    ((htonl (if data.isSome then 1 else 0) ++ data.elim [] fun x => htonl ioctlType ++ t.wire x) ++
      []))

theorem locIoctlArgs_wire (data : Option (arm ioctlType).Val) :
    (Ty.struct [.scalar .long, .enum, .pointer (.union .enum arm)]).wire
      (locIoctlArgs arm handle ioctlType data) =
        argsWire (arm ioctlType) handle ioctlType data := by
  cases data with
  | none => rfl
  | some x => rfl

theorem argsWire_length {t : Ty} {data : Option t.Val}
    (h : ∀ x ∈ data, (t.wire x).length ≤ 3100) :
    (argsWire t handle ioctlType data).length ≤ 3116 := by
  cases data with
  | none => simp [argsWire]
  | some x =>
    have hx := h x rfl
    simp only [argsWire, List.length_append, htonl_length, Option.elim, List.length_nil]
    omega

/-- The same value for another type that is equal. -/
theorem exists_stored (handle ioctlType : BitVec 32) {t t' : Ty} (h : t = t')
    (data : Option t'.Val) :
    ∃ stored : Option t.Val, HEq stored data ∧
      argsWire t handle ioctlType stored = argsWire t' handle ioctlType data ∧
      ((∀ x ∈ data, t'.WithinMaxima x) → ∀ x ∈ stored, t.WithinMaxima x) := by
  subst h
  exact ⟨data, HEq.rfl, rfl, id⟩

/-- The header of a call without credentials. -/
theorem xdrCallHeader_writes (prog vers proc : BitVec 32) :
    Writes (xdrCallHeader prog vers proc authNone authNone)
      (htonl rpcMsgVersion ++ (htonl prog ++ (htonl vers ++ (htonl proc ++
        ((htonl 0 ++ htonl 0) ++ (htonl 0 ++ htonl 0)))))) :=
  (xdrStdSendUint32_writes _).bind <| (xdrStdSendUint32_writes _).bind <|
    (xdrStdSendUint32_writes _).bind <| (xdrStdSendUint32_writes _).bind <|
      xdrSendAuth_none_writes.bind xdrSendAuth_none_writes

end Args

/-- The argument of every ioctl fits behind the call header and is encoded as the interface file
prescribes. Decoding the encoding takes all of it and gives the argument back, but for the form
of a `bool_t` and of an empty byte string. -/
theorem ioctl_round_trip (xid prog vers proc handle ioctlType : BitVec 32)
    (h : ioctlType ∈ rpcLocIoctlEType) (data : Option (Spec.rpcLocIoctlDataArm ioctlType).Val)
    (horbits : ioctlType = rpcLocIoctlInjectPredictedOrbitsData →
      ∀ d ∈ data, (Spec.rpcLocIoctlDataArm ioctlType).byteCount d ≤ 1024)
    (hefs : ioctlType = rpcLocIoctlAccessEfsData →
      ∀ d ∈ data, (Spec.rpcLocIoctlDataArm ioctlType).byteCount d ≤ 2000) :
    ∃ (stored : Option (xdrRpcLocIoctlDataArm ioctlType).Val) (args : xdrRpcLocIoctlArgs.Val)
      (out : OutMsg),
      HEq stored data ∧ args = locIoctlArgs xdrRpcLocIoctlDataArm handle ioctlType stored ∧
      (xdrCallHeader prog vers proc authNone authNone >>= fun _ =>
        xdrRpcLocIoctlArgs.codec.encode args).run (msgHead xid rpcMsgCall) = .ok ((), out) ∧
      out.bytes.drop 40 = Spec.rpcLocIoctlArgs.wire
        (locIoctlArgs Spec.rpcLocIoctlDataArm handle ioctlType data) ∧
      (∀ inp : InMsg, inp.msg = out.bytes → inp.next = 40 →
        ∃ inp', xdrRpcLocIoctlArgs.codec.decode.run inp =
            .ok (xdrRpcLocIoctlArgs.norm args, inp') ∧ inp'.next = inp.msg.length) ∧
      (xdrRpcLocIoctlArgs.Canonical args → xdrRpcLocIoctlArgs.norm args = args) := by
  obtain ⟨stored, hsame, hwire, hmax⟩ :=
    exists_stored handle ioctlType (ioctlDataArm_eq h) data
  have hwithin : xdrRpcLocIoctlArgs.WithinMaxima
      (locIoctlArgs xdrRpcLocIoctlDataArm handle ioctlType stored) := by
    refine ⟨trivial, trivial, fun x hx => ?_, trivial⟩
    obtain ⟨d, hd, rfl⟩ := Option.map_eq_some_iff.mp hx
    exact hmax (fun d _ => ioctlData_withinMaxima d) d hd
  have hargs : xdrRpcLocIoctlArgs.wire
      (locIoctlArgs xdrRpcLocIoctlDataArm handle ioctlType stored) =
        argsWire _ handle ioctlType data := (locIoctlArgs_wire stored).trans hwire
  have hlen : (argsWire _ handle ioctlType data).length ≤ 3116 :=
    argsWire_length fun d hd =>
      ioctlData_wire_le d (fun heq => horbits heq d hd) fun heq => hefs heq d hd
  have hfaithful := xdrRpcLocIoctlArgs.codec_faithful
  -- The header and the arguments are written one after the other.
  have hwrites := (xdrCallHeader_writes prog vers proc).bind (hfaithful.writes _ hwithin)
  obtain ⟨out, hrun, hbytes⟩ := hwrites (msgHead xid rpcMsgCall) (by
    rw [List.length_append, hargs]
    simp only [Outgoing.next, msgHead, List.length_append, htonl_length, rpcrouterMsgsizeMax]
    omega)
  have hdrop : out.bytes.drop 40 = argsWire _ handle ioctlType data := by
    rw [hbytes, hargs, ← List.append_assoc]
    exact List.drop_left' rfl
  refine ⟨stored, _, out, hsame, rfl, hrun, hdrop.trans (locIoctlArgs_wire data).symm,
    fun inp hmsg hnext => ?_, Ty.Canonical.norm_eq⟩
  have hrest : inp.rest = argsWire _ handle ioctlType data := by
    rw [Incoming.rest, hmsg, hnext, hdrop]
  have hahead : xdrRpcLocIoctlArgs.wire
      (locIoctlArgs xdrRpcLocIoctlDataArm handle ioctlType stored) <+: inp.rest :=
    (hargs.trans hrest.symm) ▸ List.prefix_rfl
  obtain ⟨inp', hdecode, -, hend⟩ := hfaithful.reads _ hwithin inp hahead
  refine ⟨inp', hdecode, ?_⟩
  have hfull : (inp.msg.drop 40).length = (argsWire _ handle ioctlType data).length := by
    rw [hmsg, hdrop]
  have hlong : 40 ≤ inp.msg.length := by
    rw [hmsg, hbytes]
    simp only [msgHead, List.length_append, htonl_length]
    omega
  rw [hend, hargs, hnext, ← hfull, List.length_drop]
  omega

/-- The only part of an XTRA file of three bytes. -/
def orbitsData : Spec.rpcLocPredictedOrbitsDataSType.Val :=
  (0#32, 3#32, 1#8, 1#8, 3#16, some ⟨[1, 2, 3], by decide⟩, ())

theorem ioctl_round_trip_orbits :
    ∃ (args : xdrRpcLocIoctlArgs.Val) (out : OutMsg),
      args = locIoctlArgs xdrRpcLocIoctlDataArm 0 rpcLocIoctlInjectPredictedOrbitsData
        (some orbitsData) ∧
      (xdrCallHeader 0x3000008C 0x00050001 6 authNone authNone >>= fun _ =>
        xdrRpcLocIoctlArgs.codec.encode args).run (msgHead 1 rpcMsgCall) = .ok ((), out) ∧
      (out.bytes.drop 40).length = 44 := by
  obtain ⟨stored, args, out, hsame, hargs, hrun, hwire, -⟩ :=
    ioctl_round_trip 1 0x3000008C 0x00050001 6 0 rpcLocIoctlInjectPredictedOrbitsData (by decide)
      (some orbitsData) (fun _ d hd => by
        obtain rfl : orbitsData = d := Option.some.inj hd
        decide) (fun h => absurd h (by decide))
  obtain rfl : stored = some orbitsData := eq_of_heq hsame
  refine ⟨args, out, hargs, hrun, ?_⟩
  rw [hwire]
  rfl

end Ancora.LocApi
