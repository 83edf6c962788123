import Ancora.LocApi.EventStorage
import Ancora.Xdr.RoundTrip

/-!
# The event payload codec against its specification

`loc_eng_init` registers eight events. For each of them the encoding that the
interface file prescribes is decoded by `xdr_rpc_loc_event_payload_u_type`, into
the structure of the header.

- `Agrees v`: the payload `v` is decoded to the same value, all of its bytes are
  consumed, and nothing is stored past a fixed field.
- `room_…`: the arms of the registered events have room in the header's
  structures.
- **`event_payload_agrees`**: a registered payload agrees iff it is not an
  `NMEA_1HZ` report; that one has an arm in the interface file and none in the
  routine.
-/

namespace Ancora.LocApi

open Xdr Stream

/-- The mask that `loc_eng_init` opens the client with, event by event
(loc_eng.cpp:262–269). -/
def registeredEvents : List (BitVec 64) := [
  rpcLocEventParsedPositionReport,
  rpcLocEventSatelliteReport,
  rpcLocEventLocationServerRequest,
  rpcLocEventAssistanceDataRequest,
  rpcLocEventIoctlReport,
  rpcLocEventStatusReport,
  rpcLocEventNmea1hzReport,
  rpcLocEventNiNotifyVerifyRequest]

/-- A payload value of the interface file: an event and the value of its arm. -/
abbrev Payload := (event : BitVec 64) × (Spec.rpcLocEventPayloadArm event).Val

/-- The encoding that the interface file prescribes. -/
def Payload.wire (v : Payload) : List Byte := Spec.rpcLocEventPayloadUType.wire v

/-- The maxima of the interface file are kept. -/
def Payload.Allowed (v : Payload) : Prop := Spec.rpcLocEventPayloadUType.WithinMaxima v

/-- Wherever the encoding of `v` comes next, the routine decodes it to the event
and arm value of `v` and moves past exactly its bytes. -/
def Decodes (v : Payload) : Prop :=
  ∀ inp : InMsg, v.wire <+: inp.rest →
    ∃ (x : (xdrRpcLocEventPayloadArm v.1).Val) (inp' : InMsg),
      xdrRpcLocEventPayloadUType.codec.decode.run inp = .ok (⟨v.1, x⟩, inp') ∧
      (⟨xdrRpcLocEventPayloadArm v.1, x⟩ : Field) =
        Field.norm ⟨Spec.rpcLocEventPayloadArm v.1, v.2⟩ ∧
      inp'.next = inp.next + v.wire.length

/-- The payload is decoded as specified, into fields that are large enough. -/
def Agrees (v : Payload) : Prop :=
  Decodes v ∧
    Room (xdrRpcLocEventPayloadArm v.1) (Header.rpcLocEventPayloadMember v.1.toNat)

/-! ## The fields are large enough -/

/-- The header has room for all that the routine stores of a server's info. -/
theorem room_serverInfo : Room xdrRpcLocServerInfoSType Header.rpcLocServerInfoSType := by
  have hipv4 : Room xdrRpcLocServerAddrIpv4Type Header.rpcLocServerAddrIpv4Type :=
    room_of_check (by decide)
  have hurl : Room xdrRpcLocServerAddrUrlType Header.rpcLocServerAddrUrlType :=
    room_of_check (by decide)
  have haddr : Room xdrRpcLocServerAddrUType Header.rpcLocServerAddrUType :=
    ⟨by decide, room_switch (.cons ⟨rfl, hipv4⟩ (.cons ⟨rfl, hurl⟩ .nil))⟩
  exact ⟨room_of_check (by decide), haddr, trivial⟩

/-- The same for the sources of predicted orbits. -/
theorem room_predictedOrbitsDataSource :
    Room xdrRpcLocPredictedOrbitsDataSourceSType Header.rpcLocPredictedOrbitsDataSourceSType :=
  room_of_check (by decide)

/-- The same for a server request. -/
theorem room_serverRequest :
    Room xdrRpcLocServerRequestSType Header.rpcLocServerRequestSType := by
  have hopen : Room xdrRpcLocServerOpenReqSType Header.rpcLocServerOpenReqSType :=
    room_of_check (by decide)
  have hclose : Room xdrRpcLocServerCloseReqSType Header.rpcLocServerCloseReqSType :=
    room_of_check (by decide)
  have harms : Room xdrRpcLocServerRequestUType Header.rpcLocServerRequestUType :=
    ⟨by decide, room_switch (.cons ⟨rfl, hopen⟩ (.cons ⟨rfl, hclose⟩ .nil))⟩
  exact ⟨room_of_check (by decide), harms, trivial⟩

/-- The same for a request of assistance data. -/
theorem room_assistDataRequest :
    Room xdrRpcLocAssistDataRequestSType Header.rpcLocAssistDataRequestSType := by
  have htime : Room xdrRpcLocTimeDownloadSourceSType Header.rpcLocTimeDownloadSourceSType :=
    room_of_check (by decide)
  have harms : Room xdrRpcLocAssistDataRequestPayloadUType
      Header.rpcLocAssistDataRequestPayloadUType :=
    ⟨by decide, room_switch
      (.cons ⟨rfl, htime⟩ (.cons ⟨rfl, room_predictedOrbitsDataSource⟩ .nil))⟩
  exact ⟨room_of_check (by decide), harms, trivial⟩

/-- The same for an ioctl report. -/
theorem room_ioctlCallback :
    Room xdrRpcLocIoctlCallbackSType Header.rpcLocIoctlCallbackSType := by
  have hversion : Room xdrRpcLocApiVersionSType Header.rpcLocApiVersionSType :=
    room_of_check (by decide)
  have hcriteria : Room xdrRpcLocFixCriteriaSType Header.rpcLocFixCriteriaSType :=
    room_of_check (by decide)
  have hvalidity : Room xdrRpcLocPredictedOrbitsDataValidityReportSType
      Header.rpcLocPredictedOrbitsDataValidityReportSType :=
    room_of_check (by decide)
  have hword : Room .enum Header.enum := room_of_check (by decide)
  have hflag : Room xdrRpcBoolean Header.rpcBoolean := room_of_check (by decide)
  have hmask : Room xdrRpcUint32 Header.rpcUint32 := room_of_check (by decide)
  have harms : Room xdrRpcLocIoctlCallbackDataUType Header.rpcLocIoctlCallbackDataUType := by
    refine ⟨by decide, room_switch ?_⟩
    exact .cons ⟨rfl, hversion⟩ <| .cons ⟨rfl, hcriteria⟩ <| .cons ⟨rfl, hword⟩ <|
      .cons ⟨rfl, hflag⟩ <| .cons ⟨rfl, hmask⟩ <| .cons ⟨rfl, hflag⟩ <|
      .cons ⟨rfl, room_serverInfo⟩ <| .cons ⟨rfl, room_serverInfo⟩ <|
      .cons ⟨rfl, room_serverInfo⟩ <| .cons ⟨rfl, room_serverInfo⟩ <|
      .cons ⟨rfl, room_predictedOrbitsDataSource⟩ <| .cons ⟨rfl, hvalidity⟩ .nil
  exact ⟨room_of_check (by decide), room_of_check (by decide), harms, trivial⟩

/-- The same for a status report. -/
theorem room_statusEvent : Room xdrRpcLocStatusEventSType Header.rpcLocStatusEventSType := by
  have hstate : Room .enum Header.enum := room_of_check (by decide)
  have harms : Room xdrRpcLocStatusEventPayloadUType Header.rpcLocStatusEventPayloadUType :=
    ⟨by decide, room_switch (.cons ⟨rfl, hstate⟩ (.cons ⟨rfl, hstate⟩ .nil))⟩
  exact ⟨room_of_check (by decide), harms, trivial⟩

/-- The SUPL request has the server address of its session inside, a union. -/
theorem room_niSuplReq :
    Room xdrRpcLocNiSuplNotifyVerifyReqSType Header.rpcLocNiSuplNotifyVerifyReqSType := by
  have hsession : Room xdrRpcLocNiSuplSlpSessionIdSType Header.rpcLocNiSuplSlpSessionIdSType :=
    ⟨room_of_check (by decide), room_of_check (by decide), room_serverInfo, trivial⟩
  exact ⟨room_of_check (by decide), room_of_check (by decide), hsession,
    room_of_check (by decide)⟩

/-- The same for an NI request. -/
theorem room_niEvent : Room xdrRpcLocNiEventSType Header.rpcLocNiEventSType := by
  have hvx : Room xdrRpcLocNiVxNotifyVerifyReqSType Header.rpcLocNiVxNotifyVerifyReqSType :=
    room_of_check (by decide)
  have humts : Room xdrRpcLocNiUmtsCpNotifyVerifyReqSType
      Header.rpcLocNiUmtsCpNotifyVerifyReqSType :=
    room_of_check (by decide)
  have hinteraction : Room xdrRpcLocNiVxServiceInteractionReqSType
      Header.rpcLocNiVxServiceInteractionReqSType :=
    room_of_check (by decide)
  have harms : Room xdrRpcLocNiEventPayloadUType Header.rpcLocNiEventPayloadUType := by
    refine ⟨by decide, room_switch ?_⟩
    exact .cons ⟨rfl, hvx⟩ <| .cons ⟨rfl, room_niSuplReq⟩ <| .cons ⟨rfl, humts⟩ <|
      .cons ⟨rfl, hinteraction⟩ .nil
  exact ⟨room_of_check (by decide), harms, trivial⟩

/-! ## Decoding -/

/-- The routine reads a discriminant and what its own arm for it, `t`, prescribes. -/
theorem payload_reads {d : BitVec 64} {t : Ty} (h : xdrRpcLocEventPayloadArm d = t) (x : t.Val)
    (hx : t.WithinMaxima x) :
    ∃ x' : (xdrRpcLocEventPayloadArm d).Val,
      Reads xdrRpcLocEventPayloadUType.codec.decode (wire64 d ++ t.wire x) ⟨d, x'⟩ ∧
      (⟨xdrRpcLocEventPayloadArm d, x'⟩ : Field) = Field.norm ⟨t, x⟩ := by
  subst h
  exact ⟨_, xdrRpcLocEventPayloadUType.codec_faithful.reads ⟨d, x⟩ hx, rfl⟩

/-- Where the routine has the arm of the specification, its payloads are decoded. -/
theorem decodes_of_arm_eq {v : Payload} (hv : v.Allowed)
    (h : xdrRpcLocEventPayloadArm v.1 = Spec.rpcLocEventPayloadArm v.1) : Decodes v := by
  intro inp hrest
  obtain ⟨x, hreads, hx⟩ := payload_reads h v.2 hv
  obtain ⟨inp', hrun, _, hnext⟩ := hreads inp hrest
  exact ⟨x, inp', hrun, hx, hnext⟩

/-- The size of an `NMEA_1HZ` payload: discriminant, length and 200 characters. -/
theorem nmea1hz_wire_length (x : (Spec.rpcLocEventPayloadArm rpcLocEventNmea1hzReport).Val) :
    (Payload.wire ⟨rpcLocEventNmea1hzReport, x⟩).length = 212 := by
  obtain ⟨len, sentences, _⟩ : BitVec 16 × List.Vector Byte 200 × Unit := x
  change (wire64 rpcLocEventNmea1hzReport ++ (htonl (len.setWidth 32) ++
    ((sentences.toList ++ padding 200) ++ []))).length = 212
  simp [wire64, padding]

/-- After the discriminant of an `NMEA_1HZ` report the routine is done; the report
itself stays unread. -/
theorem not_decodes_nmea1hz (x : (Spec.rpcLocEventPayloadArm rpcLocEventNmea1hzReport).Val) :
    ¬ Decodes ⟨rpcLocEventNmea1hzReport, x⟩ := by
  intro h
  have hlen := nmea1hz_wire_length x
  have hbound :
      (Payload.wire ⟨rpcLocEventNmea1hzReport, x⟩).length ≤ rpcrouterMsgsizeMax := by
    rw [hlen]
    decide
  obtain ⟨x₁, inp₁, hrun₁, -, hnext₁⟩ := h ⟨_, 0, by decide, hbound⟩ List.prefix_rfl
  have hvoid : xdrRpcLocEventPayloadArm rpcLocEventNmea1hzReport = .void := rfl
  obtain ⟨x₂, hreads, -⟩ := payload_reads hvoid () trivial
  obtain ⟨inp₂, hrun₂, -, hnext₂⟩ := hreads ⟨_, 0, by decide, hbound⟩ ⟨_, rfl⟩
  have heq : inp₁ = inp₂ := by
    have hboth := hrun₁.symm.trans hrun₂
    cases hboth
    rfl
  rw [heq, hnext₂, hlen] at hnext₁
  exact absurd (show 0 + 8 = 0 + 212 from hnext₁) (by decide)

/-- Every other registered event has the specified arm, and room for it. -/
theorem arm_agrees {d : BitVec 64} (hreg : d ∈ registeredEvents)
    (hne : d ≠ rpcLocEventNmea1hzReport) :
    xdrRpcLocEventPayloadArm d = Spec.rpcLocEventPayloadArm d ∧
      Room (xdrRpcLocEventPayloadArm d) (Header.rpcLocEventPayloadMember d.toNat) := by
  simp only [registeredEvents, List.mem_cons, List.not_mem_nil, or_false] at hreg
  rcases hreg with rfl | rfl | rfl | rfl | rfl | rfl | rfl | rfl
  · exact ⟨rfl, room_of_check (by decide)⟩
  · exact ⟨rfl, room_of_check (by decide)⟩
  · exact ⟨rfl, room_serverRequest⟩
  · exact ⟨rfl, room_assistDataRequest⟩
  · exact ⟨rfl, room_ioctlCallback⟩
  · exact ⟨rfl, room_statusEvent⟩
  · exact absurd rfl hne
  · exact ⟨rfl, room_niEvent⟩

/-- **The codec agrees with the interface file exactly off the `NMEA_1HZ` report.** -/
theorem event_payload_agrees (v : Payload) (hreg : v.1 ∈ registeredEvents)
    (hv : v.Allowed) :
    Agrees v ↔ v.1 ≠ rpcLocEventNmea1hzReport := by
  constructor
  · rintro ⟨hdec, -⟩ heq
    obtain ⟨d, x⟩ := v
    subst heq
    exact not_decodes_nmea1hz x hdec
  · intro hne
    suffices h : xdrRpcLocEventPayloadArm v.1 = Spec.rpcLocEventPayloadArm v.1 ∧
        Room (xdrRpcLocEventPayloadArm v.1) (Header.rpcLocEventPayloadMember v.1.toNat) from
      ⟨decodes_of_arm_eq hv h.1, h.2⟩
    exact arm_agrees hreg hne

/-- A satellite report with one satellite in its list. -/
def satellitePayload : Payload :=
  ⟨rpcLocEventSatelliteReport, (1#32, 0#32, 0#32, 0#32, 1#32, 1#16,
    some ⟨[(1#32, 1#32, 5#8, 0#8, 2#32, 1#32, 0#32, 0#32, 0#32, 0#32, ())], by decide⟩, ())⟩

theorem event_payload_agrees_satellite : Agrees satellitePayload := by
  have hsv : satellitePayload.Allowed := by
    refine ⟨trivial, trivial, trivial, trivial, trivial, trivial, ⟨by decide, ?_⟩, trivial⟩
    intro x _
    exact ⟨trivial, trivial, trivial, trivial, trivial, trivial, trivial, trivial, trivial,
      trivial, trivial⟩
  exact (event_payload_agrees satellitePayload (by decide) hsv).mpr (by decide)

/-- An `NMEA_1HZ` report of 200 characters. -/
def nmeaPayload : Payload :=
  ⟨rpcLocEventNmea1hzReport, (200#16, ⟨List.replicate 200 0x24, List.length_replicate⟩, ())⟩

theorem nmea_payload_undecoded :
    nmeaPayload.1 ∈ registeredEvents ∧ nmeaPayload.Allowed ∧ ¬ Agrees nmeaPayload :=
  ⟨by decide, ⟨trivial, trivial, trivial⟩, fun h => not_decodes_nmea1hz _ h.1⟩

-- The arm for the unregistered NMEA report stores 1200 characters into 200.
example : ¬ Room (xdrRpcLocEventPayloadArm rpcLocEventNmeaPositionReport)
    (Header.rpcLocEventPayloadMember rpcLocEventNmeaPositionReport.toNat) :=
  fun h => absurd (show 1200 ≤ 200 from h.2.1) (by decide)

end Ancora.LocApi
