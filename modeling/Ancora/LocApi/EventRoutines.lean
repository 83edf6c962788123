import Ancora.LocApi.EventSpec

/-!
# The event payload routines (gen-50000/loc_api_common_xdr.c)

Each `xdr_rpc_…` routine calls the routines of its members one after the other,
or that of its discriminant and then, in a `switch` whose default does nothing,
that of one arm. So a routine is a `Ty` again: the one whose `codec` it is.

The members of a structure stand in the order of the calls; Ancora/LocApi/EventSpec
names them. A routine that only calls one other (those of the enumerations and of the mask
types) is written as the one it calls.

- **`xdrRpcLocEventPayloadUType`**: the routine the callback dispatcher decodes an
  event with.
-/

namespace Ancora.LocApi

open Xdr

abbrev xdrRpcBoolean : Ty := .scalar .bool
abbrev xdrRpcUint32 : Ty := .scalar .uLong
abbrev xdrRpcUint16 : Ty := .scalar .uShort
abbrev xdrRpcUint8 : Ty := .scalar .uChar
abbrev xdrRpcInt32 : Ty := .scalar .long
abbrev xdrRpcUint64 : Ty := .scalar .uHyper

def xdrRpcLocCalendarTimeSType : Ty := .struct [
  xdrRpcUint16, .uChar, .uChar, .uChar, .uChar, .uChar, .uChar, xdrRpcUint16]

def xdrRpcLocParsedPositionSType : Ty := .struct [
  xdrRpcUint64, .enum, xdrRpcLocCalendarTimeSType, xdrRpcUint64, xdrRpcUint8, .float, .double,
  .double, .float, .float, .float, .float, .float, .float, .float, .float, .float, .float, .float,
  .float, .uChar, .uChar, .float, xdrRpcUint32]

def xdrRpcLocSvInfoSType : Ty := .struct [
  xdrRpcUint32, .enum, xdrRpcUint8, xdrRpcUint8, .enum, xdrRpcBoolean, xdrRpcBoolean, .float,
  .float, .float]

def xdrRpcLocGnssInfoSType : Ty := .struct [
  xdrRpcUint32, .float, .float, .float, xdrRpcBoolean, xdrRpcUint16,
  .array 80 xdrRpcLocSvInfoSType]

/-- loc_api_common_xdr.c:299–310. The count is not the one of the interface file. -/
def xdrRpcLocNmeaReportSType : Ty := .struct [xdrRpcUint16, .fixedOpaque 1200]

def xdrRpcLocNiVxRequesterIdSType : Ty := .struct [.uChar, .fixedOpaque 200]

def xdrRpcLocNiVxNotifyVerifyReqSType : Ty := .struct [
  .enum, .uChar, .uChar, xdrRpcUint32, xdrRpcUint32, .enum, .enum, xdrRpcLocNiVxRequesterIdSType,
  xdrRpcUint16]

def xdrRpcLocServerAddrIpv4Type : Ty := .struct [xdrRpcUint32, xdrRpcUint16]

def xdrRpcLocServerAddrUrlType : Ty := .struct [xdrRpcUint16, .fixedOpaque 256]

def xdrRpcLocServerAddrUType : Ty := .union .enum <| Ty.switch [
  (rpcLocServerAddrIpv4, xdrRpcLocServerAddrIpv4Type),
  (rpcLocServerAddrUrl, xdrRpcLocServerAddrUrlType)]

def xdrRpcLocServerInfoSType : Ty := .struct [.enum, xdrRpcLocServerAddrUType]

def xdrRpcLocNiSuplSlpSessionIdSType : Ty := .struct [
  .uChar, .fixedOpaque 4, xdrRpcLocServerInfoSType]

def xdrRpcLocNiRequestorIdSType : Ty := .struct [.uChar, .fixedOpaque 200, .uChar]

def xdrRpcLocNiSuplClientNameSType : Ty := .struct [.uChar, .fixedOpaque 64, .uChar]

def xdrRpcLocNiSuplQopSType : Ty := .struct [.uChar, .uChar, .uChar, xdrRpcUint16, .uChar]

def xdrRpcLocNiSuplNotifyVerifyReqSType : Ty := .struct [
  .enum, xdrRpcUint16, xdrRpcLocNiSuplSlpSessionIdSType, .fixedOpaque 8, .enum, .enum,
  xdrRpcLocNiRequestorIdSType, xdrRpcLocNiSuplClientNameSType, xdrRpcLocNiSuplQopSType,
  xdrRpcUint16]

def xdrRpcLocNiExtClientAddressSType : Ty := .struct [.uChar, .fixedOpaque 20]

def xdrRpcLocNiDeferredLocationSType : Ty := .struct [.uChar, .uChar]

def xdrRpcLocNiCodewordStringSType : Ty := .struct [.uChar, .fixedOpaque 20, .uChar]

def xdrRpcLocNiServiceTypeIdSType : Ty := .struct [.uChar]

def xdrRpcLocNiUmtsCpNotifyVerifyReqSType : Ty := .struct [
  .enum, .uChar, xdrRpcUint16, .uChar, .fixedOpaque 64, .enum, xdrRpcLocNiExtClientAddressSType,
  .enum, xdrRpcLocNiDeferredLocationSType, xdrRpcLocNiRequestorIdSType,
  xdrRpcLocNiCodewordStringSType, xdrRpcLocNiServiceTypeIdSType, xdrRpcUint16]

def xdrRpcLocNiVxServiceInteractionReqSType : Ty := .struct [
  xdrRpcLocNiVxNotifyVerifyReqSType, .enum]

def xdrRpcLocNiEventPayloadUType : Ty := .union .enum <| Ty.switch [
  (rpcLocNiEventVxNotifyVerifyReq, xdrRpcLocNiVxNotifyVerifyReqSType),
  (rpcLocNiEventSuplNotifyVerifyReq, xdrRpcLocNiSuplNotifyVerifyReqSType),
  (rpcLocNiEventUmtsCpNotifyVerifyReq, xdrRpcLocNiUmtsCpNotifyVerifyReqSType),
  (rpcLocNiEventVxServiceInteractionReq, xdrRpcLocNiVxServiceInteractionReqSType)]

def xdrRpcLocNiEventSType : Ty := .struct [.enum, xdrRpcLocNiEventPayloadUType]

def xdrRpcLocTimeDownloadSourceSType : Ty := .struct [xdrRpcUint32, .vector 3 (.string 256)]

def xdrRpcLocPredictedOrbitsDataSourceSType : Ty := .struct [
  xdrRpcUint32, xdrRpcUint32, .vector 3 (.string 256)]

def xdrRpcLocAssistDataRequestPayloadUType : Ty := .union .enum <| Ty.switch [
  (rpcLocAssistDataTimeReq, xdrRpcLocTimeDownloadSourceSType),
  (rpcLocAssistDataPredictedOrbitsReq, xdrRpcLocPredictedOrbitsDataSourceSType)]

def xdrRpcLocAssistDataRequestSType : Ty := .struct [.enum, xdrRpcLocAssistDataRequestPayloadUType]

def xdrRpcLocServerOpenReqSType : Ty := .struct [xdrRpcUint32, .enum]

def xdrRpcLocServerCloseReqSType : Ty := .struct [xdrRpcUint32]

def xdrRpcLocServerRequestUType : Ty := .union .enum <| Ty.switch [
  (rpcLocServerRequestOpen, xdrRpcLocServerOpenReqSType),
  (rpcLocServerRequestClose, xdrRpcLocServerCloseReqSType)]

def xdrRpcLocServerRequestSType : Ty := .struct [.enum, xdrRpcLocServerRequestUType]

def xdrRpcLocApiVersionSType : Ty := .struct [.uChar, .uChar]

def xdrRpcLocFixCriteriaSType : Ty := .struct [
  xdrRpcUint32, .enum, .enum, xdrRpcUint32, xdrRpcUint32, xdrRpcBoolean, .enum, xdrRpcUint32,
  .float, xdrRpcUint32]

def xdrRpcLocPredictedOrbitsDataValidityReportSType : Ty := .struct [xdrRpcUint64, xdrRpcUint16]

def xdrRpcLocIoctlCallbackDataUType : Ty := .union .enum <| Ty.switch [
  (rpcLocIoctlGetApiVersion, xdrRpcLocApiVersionSType),
  (rpcLocIoctlGetFixCriteria, xdrRpcLocFixCriteriaSType),
  (rpcLocIoctlGetEngineLock, .enum),
  (rpcLocIoctlGetSbasConfig, xdrRpcBoolean),
  (rpcLocIoctlGetNmeaTypes, xdrRpcUint32),
  (rpcLocIoctlGetOnDemandLpm, xdrRpcBoolean),
  (rpcLocIoctlGetCdmaPdeServerAddr, xdrRpcLocServerInfoSType),
  (rpcLocIoctlGetCdmaMpcServerAddr, xdrRpcLocServerInfoSType),
  (rpcLocIoctlGetUmtsSlpServerAddr, xdrRpcLocServerInfoSType),
  (rpcLocIoctlGetCustomPdeServerAddr, xdrRpcLocServerInfoSType),
  (rpcLocIoctlQueryPredictedOrbitsDataSource, xdrRpcLocPredictedOrbitsDataSourceSType),
  (rpcLocIoctlQueryPredictedOrbitsDataValidity, xdrRpcLocPredictedOrbitsDataValidityReportSType)]

def xdrRpcLocIoctlCallbackSType : Ty := .struct [
  .enum, xdrRpcInt32, xdrRpcLocIoctlCallbackDataUType]

def xdrRpcLocStatusEventPayloadUType : Ty := .union .enum <| Ty.switch [
  (rpcLocStatusEventEngineState, .enum),
  (rpcLocStatusEventFixSessionState, .enum)]

def xdrRpcLocStatusEventSType : Ty := .struct [.enum, xdrRpcLocStatusEventPayloadUType]

def xdrRpcLocQwipRequestSType : Ty := .struct [.enum, xdrRpcUint16]

def xdrRpcLocReservedPayloadSType : Ty := .struct [xdrRpcUint16, .bytes (-1)]

/-- The `switch` of `xdr_rpc_loc_event_payload_u_type` (loc_api_common_xdr.c:1607–1649).
There is no case for `RPC_LOC_EVENT_NMEA_1HZ_REPORT`. -/
def xdrRpcLocEventPayloadArm : BitVec 64 → Ty := Ty.switch [
  (rpcLocEventParsedPositionReport, xdrRpcLocParsedPositionSType),
  (rpcLocEventSatelliteReport, xdrRpcLocGnssInfoSType),
  (rpcLocEventNmeaPositionReport, xdrRpcLocNmeaReportSType),
  (rpcLocEventNiNotifyVerifyRequest, xdrRpcLocNiEventSType),
  (rpcLocEventAssistanceDataRequest, xdrRpcLocAssistDataRequestSType),
  (rpcLocEventLocationServerRequest, xdrRpcLocServerRequestSType),
  (rpcLocEventIoctlReport, xdrRpcLocIoctlCallbackSType),
  (rpcLocEventStatusReport, xdrRpcLocStatusEventSType),
  (rpcLocEventWpsNeededRequest, xdrRpcLocQwipRequestSType),
  (rpcLocEventReserved, xdrRpcLocReservedPayloadSType)]

/-- `xdr_rpc_loc_event_payload_u_type` (loc_api_common_xdr.c:1599–1651). -/
def xdrRpcLocEventPayloadUType : Ty := .union .uHyper xdrRpcLocEventPayloadArm

/-- `xdr_rpc_loc_event_cb_f_type_args` (loc_api_cb_xdr.c:8–22): callback id, handle, event
mask and a pointer to the payload. -/
def xdrRpcLocEventCbFTypeArgs : Ty := .struct [
  xdrRpcUint32, xdrRpcInt32, xdrRpcUint64, .pointer xdrRpcLocEventPayloadUType]

/-- `xdr_rpc_loc_event_cb_f_type_rets` (loc_api_cb_xdr.c:24–32). -/
def xdrRpcLocEventCbFTypeRets : Ty := .struct [xdrRpcInt32]

/-- loc_api_common_xdr.c:1117–1127: the response to an NI request, with the request passed back. -/
def xdrRpcLocUserVerifySType : Ty := .struct [.enum, xdrRpcLocNiEventSType]

end Ancora.LocApi
