import Ancora.Xdr.Types

/-!
# The event payload as specified (gen-50000/loc_api_common.xdr)

The types that an `rpc_loc_event_payload_u_type` is made of, member by member as
the interface file declares them. An enumeration is `.enum`, and a mask or handle
type is written as the integer type it stands for; the integer types themselves
are not in the file, loc_api_common.h:42–54 has them.

- `rpcLocEvent…`: the events, with the same values here and in loc_api_common.h;
  so have the enumerators that the inner unions switch on.
- **`Spec.rpcLocEventPayloadUType`**: the payload; its `wire` is the encoding the
  interface file prescribes.
-/

namespace Ancora.LocApi

open Xdr

/-! ## Constants (loc_api_common.xdr:68–88 and its enumerations) -/

abbrev rpcLocEventParsedPositionReport : BitVec 64 := 0x1
abbrev rpcLocEventSatelliteReport : BitVec 64 := 0x2
abbrev rpcLocEventNmea1hzReport : BitVec 64 := 0x4
abbrev rpcLocEventNmeaPositionReport : BitVec 64 := 0x8
abbrev rpcLocEventNiNotifyVerifyRequest : BitVec 64 := 0x10
abbrev rpcLocEventAssistanceDataRequest : BitVec 64 := 0x20
abbrev rpcLocEventLocationServerRequest : BitVec 64 := 0x40
abbrev rpcLocEventIoctlReport : BitVec 64 := 0x80
abbrev rpcLocEventStatusReport : BitVec 64 := 0x100
abbrev rpcLocEventWpsNeededRequest : BitVec 64 := 0x200
abbrev rpcLocEventReserved : BitVec 64 := 0x8000000000000000

abbrev rpcLocServerAddrIpv4 : BitVec 32 := 1
abbrev rpcLocServerAddrUrl : BitVec 32 := 2
abbrev rpcLocNiEventVxNotifyVerifyReq : BitVec 32 := 1
abbrev rpcLocNiEventSuplNotifyVerifyReq : BitVec 32 := 2
abbrev rpcLocNiEventUmtsCpNotifyVerifyReq : BitVec 32 := 3
abbrev rpcLocNiEventVxServiceInteractionReq : BitVec 32 := 4
abbrev rpcLocAssistDataTimeReq : BitVec 32 := 1
abbrev rpcLocAssistDataPredictedOrbitsReq : BitVec 32 := 2
abbrev rpcLocServerRequestOpen : BitVec 32 := 1
abbrev rpcLocServerRequestClose : BitVec 32 := 2
abbrev rpcLocIoctlGetApiVersion : BitVec 32 := 1
abbrev rpcLocIoctlGetFixCriteria : BitVec 32 := 3
abbrev rpcLocIoctlGetEngineLock : BitVec 32 := 801
abbrev rpcLocIoctlGetSbasConfig : BitVec 32 := 803
abbrev rpcLocIoctlGetNmeaTypes : BitVec 32 := 805
abbrev rpcLocIoctlGetOnDemandLpm : BitVec 32 := 813
abbrev rpcLocIoctlGetCdmaPdeServerAddr : BitVec 32 := 807
abbrev rpcLocIoctlGetCdmaMpcServerAddr : BitVec 32 := 809
abbrev rpcLocIoctlGetUmtsSlpServerAddr : BitVec 32 := 811
abbrev rpcLocIoctlGetCustomPdeServerAddr : BitVec 32 := 1002
abbrev rpcLocIoctlQueryPredictedOrbitsDataSource : BitVec 32 := 403
abbrev rpcLocIoctlQueryPredictedOrbitsDataValidity : BitVec 32 := 402
abbrev rpcLocStatusEventEngineState : BitVec 32 := 1
abbrev rpcLocStatusEventFixSessionState : BitVec 32 := 2

namespace Spec

abbrev rpcBoolean : Ty := .scalar .bool
abbrev rpcUint32 : Ty := .scalar .uLong
abbrev rpcUint16 : Ty := .scalar .uShort
abbrev rpcUint8 : Ty := .scalar .uChar
abbrev rpcInt32 : Ty := .scalar .long
abbrev rpcUint64 : Ty := .scalar .uHyper

def rpcLocCalendarTimeSType : Ty := .struct [
  -- year, month, day_of_week, day, hour, minute, second, millisecond
  rpcUint16, .uChar, .uChar, .uChar, .uChar, .uChar, .uChar, rpcUint16]

def rpcLocParsedPositionSType : Ty := .struct [
  -- valid_mask, session_status, timestamp_calendar, timestamp_utc, leap_seconds, time_unc
  rpcUint64, .enum, rpcLocCalendarTimeSType, rpcUint64, rpcUint8, .float,
  -- latitude, longitude, altitude_wrt_ellipsoid, altitude_wrt_mean_sea_level, speed_horizontal
  .double, .double, .float, .float, .float,
  -- speed_vertical, heading, hor_unc_circular, hor_unc_ellipse_semi_major
  .float, .float, .float, .float,
  -- hor_unc_ellipse_semi_minor, hor_unc_ellipse_orient_azimuth, vert_unc, speed_unc, heading_unc
  .float, .float, .float, .float, .float,
  -- confidence_horizontal, confidence_vertical, magnetic_deviation, technology_mask
  .uChar, .uChar, .float, rpcUint32]

def rpcLocSvInfoSType : Ty := .struct [
  -- valid_mask, system, prn, health_status, process_status, has_eph, has_alm, elevation, azimuth
  rpcUint32, .enum, rpcUint8, rpcUint8, .enum, rpcBoolean, rpcBoolean, .float, .float,
  -- snr
  .float]

def rpcLocGnssInfoSType : Ty := .struct [
  -- valid_mask, position_dop, horizontal_dop, vertical_dop, altitude_assumed, sv_count, sv_list
  rpcUint32, .float, .float, .float, rpcBoolean, rpcUint16, .array 80 rpcLocSvInfoSType]

def rpcLocNmeaReportSType : Ty := .struct [
  -- length, nmea_sentences
  rpcUint16, .fixedOpaque 200]

def rpcLocNiVxRequesterIdSType : Ty := .struct [
  -- requester_id_length, requester_id
  .uChar, .fixedOpaque 200]

def rpcLocNiVxNotifyVerifyReqSType : Ty := .struct [
  -- notification_priv_type, pos_qos_incl, pos_qos, num_fixes, tbf, pos_mode, encoding_scheme
  .enum, .uChar, .uChar, rpcUint32, rpcUint32, .enum, .enum,
  -- requester_id, user_resp_timer_val
  rpcLocNiVxRequesterIdSType, rpcUint16]

def rpcLocServerAddrIpv4Type : Ty := .struct [
  -- addr, port
  rpcUint32, rpcUint16]

def rpcLocServerAddrUrlType : Ty := .struct [
  -- length, addr
  rpcUint16, .fixedOpaque 256]

def rpcLocServerAddrUType : Ty := .union .enum <| Ty.switch [
  (rpcLocServerAddrIpv4, rpcLocServerAddrIpv4Type),
  (rpcLocServerAddrUrl, rpcLocServerAddrUrlType)]

def rpcLocServerInfoSType : Ty := .struct [
  -- addr_type, addr_info
  .enum, rpcLocServerAddrUType]

def rpcLocNiSuplSlpSessionIdSType : Ty := .struct [
  -- presence, session_id, slp_address
  .uChar, .fixedOpaque 4, rpcLocServerInfoSType]

def rpcLocNiRequestorIdSType : Ty := .struct [
  -- data_coding_scheme, requestor_id_string, string_len
  .uChar, .fixedOpaque 200, .uChar]

def rpcLocNiSuplClientNameSType : Ty := .struct [
  -- data_coding_scheme, client_name_string, string_len
  .uChar, .fixedOpaque 64, .uChar]

def rpcLocNiSuplQopSType : Ty := .struct [
  -- bit_mask, horacc, veracc, maxLocAge, delay
  .uChar, .uChar, .uChar, rpcUint16, .uChar]

def rpcLocNiSuplNotifyVerifyReqSType : Ty := .struct [
  -- notification_priv_type, flags, supl_slp_session_id, supl_hash, datacoding_scheme, pos_method
  .enum, rpcUint16, rpcLocNiSuplSlpSessionIdSType, .fixedOpaque 8, .enum, .enum,
  -- requestor_id, client_name, supl_qop, user_response_timer
  rpcLocNiRequestorIdSType, rpcLocNiSuplClientNameSType, rpcLocNiSuplQopSType, rpcUint16]

def rpcLocNiExtClientAddressSType : Ty := .struct [
  -- ext_client_address_len, ext_client_address
  .uChar, .fixedOpaque 20]

def rpcLocNiDeferredLocationSType : Ty := .struct [
  -- unused_bits, ms_available
  .uChar, .uChar]

def rpcLocNiCodewordStringSType : Ty := .struct [
  -- data_coding_scheme, lcs_codeword_string, string_len
  .uChar, .fixedOpaque 20, .uChar]

def rpcLocNiServiceTypeIdSType : Ty := .struct [
  -- lcs_service_type_id
  .uChar]

def rpcLocNiUmtsCpNotifyVerifyReqSType : Ty := .struct [
  -- notification_priv_type, invoke_id, flags, notification_length, notification_text
  .enum, .uChar, rpcUint16, .uChar, .fixedOpaque 64,
  -- datacoding_scheme, ext_client_address_data, location_type, deferred_location
  .enum, rpcLocNiExtClientAddressSType, .enum, rpcLocNiDeferredLocationSType,
  -- requestor_id, codeword_string, service_type_id, user_response_timer
  rpcLocNiRequestorIdSType, rpcLocNiCodewordStringSType, rpcLocNiServiceTypeIdSType, rpcUint16]

def rpcLocNiVxServiceInteractionReqSType : Ty := .struct [
  -- ni_vx_req, service_interation_type
  rpcLocNiVxNotifyVerifyReqSType, .enum]

def rpcLocNiEventPayloadUType : Ty := .union .enum <| Ty.switch [
  (rpcLocNiEventVxNotifyVerifyReq, rpcLocNiVxNotifyVerifyReqSType),
  (rpcLocNiEventSuplNotifyVerifyReq, rpcLocNiSuplNotifyVerifyReqSType),
  (rpcLocNiEventUmtsCpNotifyVerifyReq, rpcLocNiUmtsCpNotifyVerifyReqSType),
  (rpcLocNiEventVxServiceInteractionReq, rpcLocNiVxServiceInteractionReqSType)]

def rpcLocNiEventSType : Ty := .struct [
  -- event, payload
  .enum, rpcLocNiEventPayloadUType]

def rpcLocTimeDownloadSourceSType : Ty := .struct [
  -- delay_threshold, servers
  rpcUint32, .vector 3 (.string 256)]

def rpcLocPredictedOrbitsDataSourceSType : Ty := .struct [
  -- max_file_size, max_part_size, servers
  rpcUint32, rpcUint32, .vector 3 (.string 256)]

def rpcLocAssistDataRequestPayloadUType : Ty := .union .enum <| Ty.switch [
  (rpcLocAssistDataTimeReq, rpcLocTimeDownloadSourceSType),
  (rpcLocAssistDataPredictedOrbitsReq, rpcLocPredictedOrbitsDataSourceSType)]

def rpcLocAssistDataRequestSType : Ty := .struct [
  -- event, payload
  .enum, rpcLocAssistDataRequestPayloadUType]

def rpcLocServerOpenReqSType : Ty := .struct [
  -- conn_handle, protocol
  rpcUint32, .enum]

def rpcLocServerCloseReqSType : Ty := .struct [
  -- conn_handle
  rpcUint32]

def rpcLocServerRequestUType : Ty := .union .enum <| Ty.switch [
  (rpcLocServerRequestOpen, rpcLocServerOpenReqSType),
  (rpcLocServerRequestClose, rpcLocServerCloseReqSType)]

def rpcLocServerRequestSType : Ty := .struct [
  -- event, payload
  .enum, rpcLocServerRequestUType]

def rpcLocApiVersionSType : Ty := .struct [
  -- major, minor
  .uChar, .uChar]

def rpcLocFixCriteriaSType : Ty := .struct [
  -- valid_mask, recurrence_type, preferred_operation_mode, preferred_accuracy
  rpcUint32, .enum, .enum, rpcUint32,
  -- preferred_response_time, intermediate_pos_report_enabled, notify_type, min_interval
  rpcUint32, rpcBoolean, .enum, rpcUint32,
  -- min_distance, min_dist_sample_interval
  .float, rpcUint32]

def rpcLocPredictedOrbitsDataValidityReportSType : Ty := .struct [
  -- start_time_utc, valid_duration_hrs
  rpcUint64, rpcUint16]

def rpcLocIoctlCallbackDataUType : Ty := .union .enum <| Ty.switch [
  (rpcLocIoctlGetApiVersion, rpcLocApiVersionSType),
  (rpcLocIoctlGetFixCriteria, rpcLocFixCriteriaSType),
  (rpcLocIoctlGetEngineLock, .enum),
  (rpcLocIoctlGetSbasConfig, rpcBoolean),
  (rpcLocIoctlGetNmeaTypes, rpcUint32),
  (rpcLocIoctlGetOnDemandLpm, rpcBoolean),
  (rpcLocIoctlGetCdmaPdeServerAddr, rpcLocServerInfoSType),
  (rpcLocIoctlGetCdmaMpcServerAddr, rpcLocServerInfoSType),
  (rpcLocIoctlGetUmtsSlpServerAddr, rpcLocServerInfoSType),
  (rpcLocIoctlGetCustomPdeServerAddr, rpcLocServerInfoSType),
  (rpcLocIoctlQueryPredictedOrbitsDataSource, rpcLocPredictedOrbitsDataSourceSType),
  (rpcLocIoctlQueryPredictedOrbitsDataValidity, rpcLocPredictedOrbitsDataValidityReportSType)]

def rpcLocIoctlCallbackSType : Ty := .struct [
  -- type, status, data
  .enum, rpcInt32, rpcLocIoctlCallbackDataUType]

def rpcLocStatusEventPayloadUType : Ty := .union .enum <| Ty.switch [
  (rpcLocStatusEventEngineState, .enum),
  (rpcLocStatusEventFixSessionState, .enum)]

def rpcLocStatusEventSType : Ty := .struct [
  -- event, payload
  .enum, rpcLocStatusEventPayloadUType]

def rpcLocQwipRequestSType : Ty := .struct [
  -- request_type, tbf_ms
  .enum, rpcUint16]

def rpcLocReservedPayloadSType : Ty := .struct [
  -- data_size, data
  rpcUint16, .bytes (-1)]

/-- The arms of `rpc_loc_event_payload_u_type` (loc_api_common.xdr:901–925). -/
def rpcLocEventPayloadArm : BitVec 64 → Ty := Ty.switch [
  (rpcLocEventParsedPositionReport, rpcLocParsedPositionSType),
  (rpcLocEventSatelliteReport, rpcLocGnssInfoSType),
  (rpcLocEventNmeaPositionReport, rpcLocNmeaReportSType),
  (rpcLocEventNmea1hzReport, rpcLocNmeaReportSType),
  (rpcLocEventNiNotifyVerifyRequest, rpcLocNiEventSType),
  (rpcLocEventAssistanceDataRequest, rpcLocAssistDataRequestSType),
  (rpcLocEventLocationServerRequest, rpcLocServerRequestSType),
  (rpcLocEventIoctlReport, rpcLocIoctlCallbackSType),
  (rpcLocEventStatusReport, rpcLocStatusEventSType),
  (rpcLocEventWpsNeededRequest, rpcLocQwipRequestSType),
  (rpcLocEventReserved, rpcLocReservedPayloadSType)]

def rpcLocEventPayloadUType : Ty := .union .uHyper rpcLocEventPayloadArm

end Spec

end Ancora.LocApi
