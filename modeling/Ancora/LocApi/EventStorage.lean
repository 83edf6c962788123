import Ancora.LocApi.EventRoutines

/-!
# Where the decoded payload goes (inc-50000/loc_api_common.h)

The C declarations of the payload's types, with the sizes of the 32-bit target.
The members of a structure stand in the order in which its routine stores them,
which is the order of the header (Ancora/LocApi/EventSpec names them); a member of
a union is listed under each discriminant whose arm stores into it.

- `Decl`: a declaration, as far as it bounds what may be stored.
- `Room t decl`: decoding with the routine of `t` stores no more into any fixed
  field than `decl` declares for it. What it stores is fixed by `t`: a scalar its
  width, an opaque field its count, a vector its number of elements; counted
  sequences and strings are allocated by the routine, whose elements then have to
  fit the element type.
- `room_of_check`: a type without a union is checked by evaluation;
  `room_switch`: a union has room when each arm has.
-/

namespace Ancora.LocApi

open Xdr

inductive Decl
  /-- A scalar of so many bytes. -/
  | object (size : Nat)
  /-- `char f[n]` -/
  | chars (n : Nat)
  /-- `struct { u_int f_len; T *f_val; } f` -/
  | counted (elem : Decl)
  /-- `char *f` -/
  | string
  /-- `T f[n]` -/
  | elems (n : Nat) (elem : Decl)
  | void
  | fields (first rest : Decl)
  /-- A discriminant of `tag` bytes and the member for each of its values. -/
  | union (tag : Nat) (member : Nat → Decl)

namespace Decl

def struct : List Decl → Decl
  | [] => .void
  | d :: ds => .fields d (struct ds)

def switch (members : List (Nat × Decl)) (d : Nat) : Decl := (members.lookup d).getD .void

end Decl

def Room : Ty → Decl → Prop
  | .scalar s, .object size => s.width ≤ 8 * size
  | .fixedOpaque cnt, .chars n => cnt.toNat ≤ n
  | .bytes _, .counted _ => True
  | .string _, .string => True
  | .array _ elem, .counted e => Room elem e
  | .vector nelem elem, .elems n e => nelem.toNat ≤ n ∧ Room elem e
  | .void, _ => True
  | .fields first rest, .fields f r => Room first f ∧ Room rest r
  | .union disc arm, .union tag member =>
    disc.scalar.width ≤ 8 * tag ∧ ∀ d, Room (arm d) (member d.toNat)
  | _, _ => False

/-- A check for types without a union. -/
def checkRoom : Ty → Decl → Bool
  | .scalar s, .object size => s.width ≤ 8 * size
  | .fixedOpaque cnt, .chars n => cnt.toNat ≤ n
  | .bytes _, .counted _ => true
  | .string _, .string => true
  | .array _ elem, .counted e => checkRoom elem e
  | .vector nelem elem, .elems n e => nelem.toNat ≤ n && checkRoom elem e
  | .void, _ => true
  | .fields first rest, .fields f r => checkRoom first f && checkRoom rest r
  | _, _ => false

theorem room_of_check {t : Ty} {decl : Decl} (h : checkRoom t decl = true) : Room t decl := by
  induction t generalizing decl with
  | scalar s => cases decl <;> simp_all [checkRoom, Room]
  | fixedOpaque cnt => cases decl <;> simp_all [checkRoom, Room]
  | bytes maxsize => cases decl <;> simp_all [checkRoom, Room]
  | string maxsize => cases decl <;> simp_all [checkRoom, Room]
  | array maxsize elem ih => cases decl <;> simp_all [checkRoom, Room]
  | vector nelem elem ih => cases decl <;> simp_all [checkRoom, Room]
  | pointer obj ih => cases decl <;> simp_all [checkRoom]
  | void => trivial
  | fields first rest ih₁ ih₂ => cases decl <;> simp_all [checkRoom, Room]
  | union disc arm ih => cases decl <;> simp_all [checkRoom]

/-- A union has room when each of its arms has room in the member for it. -/
theorem room_switch {w : Nat} {arms : List (BitVec w × Ty)} {members : List (Nat × Decl)}
    (h : List.Forall₂ (fun a m => a.1.toNat = m.1 ∧ Room a.2 m.2) arms members)
    (d : BitVec w) : Room (Ty.switch arms d) (Decl.switch members d.toNat) := by
  induction h with
  | nil => trivial
  | @cons a m arms members hd _ ih =>
    obtain ⟨k, t⟩ := a
    obtain ⟨n, e⟩ := m
    obtain ⟨rfl, hroom⟩ : k.toNat = n ∧ Room t e := hd
    simp only [Ty.switch, Decl.switch, List.lookup_cons] at ih ⊢
    by_cases heq : d = k
    · subst heq
      simpa using hroom
    · have hne : d.toNat ≠ k.toNat := fun h => heq (BitVec.eq_of_toNat_eq h)
      rw [beq_false_of_ne heq, beq_false_of_ne hne]
      exact ih

/-! ## The declarations -/

namespace Header

abbrev char : Decl := .object 1
abbrev uChar : Decl := .object 1
abbrev float : Decl := .object 4
abbrev double : Decl := .object 8
abbrev enum : Decl := .object 4
abbrev rpcBoolean : Decl := .object 4
abbrev rpcUint32 : Decl := .object 4
abbrev rpcUint16 : Decl := .object 2
abbrev rpcUint8 : Decl := .object 1
abbrev rpcInt32 : Decl := .object 4
abbrev rpcUint64 : Decl := .object 8

def rpcLocCalendarTimeSType : Decl := .struct [
  rpcUint16, uChar, uChar, uChar, uChar, uChar, uChar, rpcUint16]

def rpcLocParsedPositionSType : Decl := .struct [
  rpcUint64, enum, rpcLocCalendarTimeSType, rpcUint64, rpcUint8, float, double, double, float,
  float, float, float, float, float, float, float, float, float, float, float, uChar, uChar,
  float, rpcUint32]

def rpcLocSvInfoSType : Decl := .struct [
  rpcUint32, enum, rpcUint8, rpcUint8, enum, rpcBoolean, rpcBoolean, float, float, float]

def rpcLocGnssInfoSType : Decl := .struct [
  rpcUint32, float, float, float, rpcBoolean, rpcUint16, .counted rpcLocSvInfoSType]

def rpcLocNmeaReportSType : Decl := .struct [rpcUint16, .chars 200]

def rpcLocNiVxRequesterIdSType : Decl := .struct [uChar, .chars 200]

def rpcLocNiVxNotifyVerifyReqSType : Decl := .struct [
  enum, uChar, uChar, rpcUint32, rpcUint32, enum, enum, rpcLocNiVxRequesterIdSType, rpcUint16]

def rpcLocServerAddrIpv4Type : Decl := .struct [rpcUint32, rpcUint16]

def rpcLocServerAddrUrlType : Decl := .struct [rpcUint16, .chars 256]

def rpcLocServerAddrUType : Decl := .union 4 <| Decl.switch [
  (rpcLocServerAddrIpv4.toNat, rpcLocServerAddrIpv4Type),
  (rpcLocServerAddrUrl.toNat, rpcLocServerAddrUrlType)]

def rpcLocServerInfoSType : Decl := .struct [enum, rpcLocServerAddrUType]

def rpcLocNiSuplSlpSessionIdSType : Decl := .struct [uChar, .chars 4, rpcLocServerInfoSType]

def rpcLocNiRequestorIdSType : Decl := .struct [uChar, .chars 200, uChar]

def rpcLocNiSuplClientNameSType : Decl := .struct [uChar, .chars 64, uChar]

def rpcLocNiSuplQopSType : Decl := .struct [uChar, uChar, uChar, rpcUint16, uChar]

def rpcLocNiSuplNotifyVerifyReqSType : Decl := .struct [
  enum, rpcUint16, rpcLocNiSuplSlpSessionIdSType, .chars 8, enum, enum, rpcLocNiRequestorIdSType,
  rpcLocNiSuplClientNameSType, rpcLocNiSuplQopSType, rpcUint16]

def rpcLocNiExtClientAddressSType : Decl := .struct [uChar, .chars 20]

def rpcLocNiDeferredLocationSType : Decl := .struct [uChar, uChar]

def rpcLocNiCodewordStringSType : Decl := .struct [uChar, .chars 20, uChar]

def rpcLocNiServiceTypeIdSType : Decl := .struct [uChar]

def rpcLocNiUmtsCpNotifyVerifyReqSType : Decl := .struct [
  enum, uChar, rpcUint16, uChar, .chars 64, enum, rpcLocNiExtClientAddressSType, enum,
  rpcLocNiDeferredLocationSType, rpcLocNiRequestorIdSType, rpcLocNiCodewordStringSType,
  rpcLocNiServiceTypeIdSType, rpcUint16]

def rpcLocNiVxServiceInteractionReqSType : Decl := .struct [rpcLocNiVxNotifyVerifyReqSType, enum]

def rpcLocNiEventPayloadUType : Decl := .union 4 <| Decl.switch [
  (rpcLocNiEventVxNotifyVerifyReq.toNat, rpcLocNiVxNotifyVerifyReqSType),
  (rpcLocNiEventSuplNotifyVerifyReq.toNat, rpcLocNiSuplNotifyVerifyReqSType),
  (rpcLocNiEventUmtsCpNotifyVerifyReq.toNat, rpcLocNiUmtsCpNotifyVerifyReqSType),
  (rpcLocNiEventVxServiceInteractionReq.toNat, rpcLocNiVxServiceInteractionReqSType)]

def rpcLocNiEventSType : Decl := .struct [enum, rpcLocNiEventPayloadUType]

def rpcLocTimeDownloadSourceSType : Decl := .struct [rpcUint32, .elems 3 .string]

def rpcLocPredictedOrbitsDataSourceSType : Decl := .struct [rpcUint32, rpcUint32, .elems 3 .string]

def rpcLocAssistDataRequestPayloadUType : Decl := .union 4 <| Decl.switch [
  (rpcLocAssistDataTimeReq.toNat, rpcLocTimeDownloadSourceSType),
  (rpcLocAssistDataPredictedOrbitsReq.toNat, rpcLocPredictedOrbitsDataSourceSType)]

def rpcLocAssistDataRequestSType : Decl := .struct [enum, rpcLocAssistDataRequestPayloadUType]

def rpcLocServerOpenReqSType : Decl := .struct [rpcUint32, enum]

def rpcLocServerCloseReqSType : Decl := .struct [rpcUint32]

def rpcLocServerRequestUType : Decl := .union 4 <| Decl.switch [
  (rpcLocServerRequestOpen.toNat, rpcLocServerOpenReqSType),
  (rpcLocServerRequestClose.toNat, rpcLocServerCloseReqSType)]

def rpcLocServerRequestSType : Decl := .struct [enum, rpcLocServerRequestUType]

def rpcLocApiVersionSType : Decl := .struct [uChar, uChar]

def rpcLocFixCriteriaSType : Decl := .struct [
  rpcUint32, enum, enum, rpcUint32, rpcUint32, rpcBoolean, enum, rpcUint32, float, rpcUint32]

def rpcLocPredictedOrbitsDataValidityReportSType : Decl := .struct [rpcUint64, rpcUint16]

def rpcLocIoctlCallbackDataUType : Decl := .union 4 <| Decl.switch [
  (rpcLocIoctlGetApiVersion.toNat, rpcLocApiVersionSType),
  (rpcLocIoctlGetFixCriteria.toNat, rpcLocFixCriteriaSType),
  (rpcLocIoctlGetEngineLock.toNat, enum),
  (rpcLocIoctlGetSbasConfig.toNat, rpcBoolean),
  (rpcLocIoctlGetNmeaTypes.toNat, rpcUint32),
  (rpcLocIoctlGetOnDemandLpm.toNat, rpcBoolean),
  (rpcLocIoctlGetCdmaPdeServerAddr.toNat, rpcLocServerInfoSType),
  (rpcLocIoctlGetCdmaMpcServerAddr.toNat, rpcLocServerInfoSType),
  (rpcLocIoctlGetUmtsSlpServerAddr.toNat, rpcLocServerInfoSType),
  (rpcLocIoctlGetCustomPdeServerAddr.toNat, rpcLocServerInfoSType),
  (rpcLocIoctlQueryPredictedOrbitsDataSource.toNat, rpcLocPredictedOrbitsDataSourceSType),
  (rpcLocIoctlQueryPredictedOrbitsDataValidity.toNat,
    rpcLocPredictedOrbitsDataValidityReportSType)]

def rpcLocIoctlCallbackSType : Decl := .struct [enum, rpcInt32, rpcLocIoctlCallbackDataUType]

def rpcLocStatusEventPayloadUType : Decl := .union 4 <| Decl.switch [
  (rpcLocStatusEventEngineState.toNat, enum),
  (rpcLocStatusEventFixSessionState.toNat, enum)]

def rpcLocStatusEventSType : Decl := .struct [enum, rpcLocStatusEventPayloadUType]

def rpcLocQwipRequestSType : Decl := .struct [enum, rpcUint16]

def rpcLocReservedPayloadSType : Decl := .struct [rpcUint16, .counted char]

/-- `rpc_loc_event_payload_u_type_u` (loc_api_common.h:911–922). -/
def rpcLocEventPayloadMember : Nat → Decl := Decl.switch [
  (rpcLocEventParsedPositionReport.toNat, rpcLocParsedPositionSType),
  (rpcLocEventSatelliteReport.toNat, rpcLocGnssInfoSType),
  (rpcLocEventNmeaPositionReport.toNat, rpcLocNmeaReportSType),
  (rpcLocEventNiNotifyVerifyRequest.toNat, rpcLocNiEventSType),
  (rpcLocEventAssistanceDataRequest.toNat, rpcLocAssistDataRequestSType),
  (rpcLocEventLocationServerRequest.toNat, rpcLocServerRequestSType),
  (rpcLocEventIoctlReport.toNat, rpcLocIoctlCallbackSType),
  (rpcLocEventStatusReport.toNat, rpcLocStatusEventSType),
  (rpcLocEventWpsNeededRequest.toNat, rpcLocQwipRequestSType),
  (rpcLocEventReserved.toNat, rpcLocReservedPayloadSType)]

end Header

end Ancora.LocApi
