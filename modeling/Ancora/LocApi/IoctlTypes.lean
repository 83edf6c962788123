import Ancora.LocApi.EventRoutines

/-!
# The ioctl argument, as specified and as coded

The argument of `loc_ioctl` once more in the two ways of Ancora/LocApi/EventSpec and
Ancora/LocApi/EventRoutines: the types of gen-50000/loc_api_common.xdr member by member, and
the routines of gen-50000/loc_api_common_xdr.c and loc_api_xdr.c call by call.

- `rpcLocIoctlEType`: the ioctls.
- **`Spec.rpcLocIoctlArgs`**, **`xdrRpcLocIoctlArgs`**: client handle, ioctl and a pointer to
  its data, a union. The routine of the union has one label more than the interface file, the
  event `RPC_LOC_EVENT_NMEA_1HZ_REPORT`.
-/

namespace Ancora.LocApi

open Xdr

/-! ## Constants (loc_api_common.xdr:589–631) -/

abbrev rpcLocIoctlSetFixCriteria : BitVec 32 := 2
abbrev rpcLocIoctlInformNiUserResponse : BitVec 32 := 400
abbrev rpcLocIoctlInjectPredictedOrbitsData : BitVec 32 := 401
abbrev rpcLocIoctlSetPredictedOrbitsDataAutoDownload : BitVec 32 := 404
abbrev rpcLocIoctlInjectUtcTime : BitVec 32 := 405
abbrev rpcLocIoctlInjectRtcValue : BitVec 32 := 406
abbrev rpcLocIoctlInjectPosition : BitVec 32 := 407
abbrev rpcLocIoctlQueryEngineState : BitVec 32 := 408
abbrev rpcLocIoctlInformServerOpenStatus : BitVec 32 := 409
abbrev rpcLocIoctlInformServerCloseStatus : BitVec 32 := 410
abbrev rpcLocIoctlSendWiperPositionReport : BitVec 32 := 411
abbrev rpcLocIoctlNotifyWiperStatus : BitVec 32 := 412
abbrev rpcLocIoctlAccessEfsData : BitVec 32 := 413
abbrev rpcLocIoctlSetEngineLock : BitVec 32 := 800
abbrev rpcLocIoctlSetSbasConfig : BitVec 32 := 802
abbrev rpcLocIoctlSetNmeaTypes : BitVec 32 := 804
abbrev rpcLocIoctlSetCdmaPdeServerAddr : BitVec 32 := 806
abbrev rpcLocIoctlSetCdmaMpcServerAddr : BitVec 32 := 808
abbrev rpcLocIoctlSetUmtsSlpServerAddr : BitVec 32 := 810
abbrev rpcLocIoctlSetOnDemandLpm : BitVec 32 := 812
abbrev rpcLocIoctlDeleteAssistData : BitVec 32 := 1000
abbrev rpcLocIoctlSetCustomPdeServerAddr : BitVec 32 := 1001
abbrev rpcLocIoctlThirdPartyStartIndex : BitVec 32 := 1073741824

/-- `rpc_loc_ioctl_e_type`, each value once. -/
def rpcLocIoctlEType : List (BitVec 32) := [
  rpcLocIoctlGetApiVersion, rpcLocIoctlSetFixCriteria, rpcLocIoctlGetFixCriteria,
  rpcLocIoctlInformNiUserResponse, rpcLocIoctlInjectPredictedOrbitsData,
  rpcLocIoctlQueryPredictedOrbitsDataValidity, rpcLocIoctlQueryPredictedOrbitsDataSource,
  rpcLocIoctlSetPredictedOrbitsDataAutoDownload, rpcLocIoctlInjectUtcTime,
  rpcLocIoctlInjectRtcValue, rpcLocIoctlInjectPosition, rpcLocIoctlQueryEngineState,
  rpcLocIoctlInformServerOpenStatus, rpcLocIoctlInformServerCloseStatus,
  rpcLocIoctlSendWiperPositionReport, rpcLocIoctlNotifyWiperStatus, rpcLocIoctlAccessEfsData,
  rpcLocIoctlSetEngineLock, rpcLocIoctlGetEngineLock, rpcLocIoctlSetSbasConfig,
  rpcLocIoctlGetSbasConfig, rpcLocIoctlSetNmeaTypes, rpcLocIoctlGetNmeaTypes,
  rpcLocIoctlSetCdmaPdeServerAddr, rpcLocIoctlGetCdmaPdeServerAddr,
  rpcLocIoctlSetCdmaMpcServerAddr, rpcLocIoctlGetCdmaMpcServerAddr,
  rpcLocIoctlSetUmtsSlpServerAddr, rpcLocIoctlGetUmtsSlpServerAddr, rpcLocIoctlSetOnDemandLpm,
  rpcLocIoctlGetOnDemandLpm, rpcLocIoctlDeleteAssistData, rpcLocIoctlSetCustomPdeServerAddr,
  rpcLocIoctlGetCustomPdeServerAddr, rpcLocIoctlThirdPartyStartIndex]

/-! ## The interface file (loc_api_common.xdr:676–867, loc_api.xdr:94–98) -/

namespace Spec

def rpcLocUserVerifySType : Ty := .struct [
  -- user_resp, ni_event_pass_back
  .enum, rpcLocNiEventSType]

def rpcLocPredictedOrbitsDataSType : Ty := .struct [
  -- format_type, total_size, total_parts, part, part_len, data_ptr
  .enum, rpcUint32, rpcUint8, rpcUint8, rpcUint16, .bytes (-1)]

def rpcLocPredictedOrbitsAutoDownloadConfigSType : Ty := .struct [
  -- enable, auto_check_every_hrs
  rpcBoolean, .uChar]

def rpcLocAssistDataTimeSType : Ty := .struct [
  -- time_utc, uncertainty
  rpcUint64, rpcUint32]

def rpcLocAssistDataPosSType : Ty := .struct [
  -- valid_mask, timestamp_utc, latitude, longitude, altitude_wrt_ellipsoid
  rpcUint64, rpcUint64, .double, .double, .float,
  -- altitude_wrt_mean_sea_level, hor_unc_circular, vert_unc, confidence_horizontal
  .float, .float, .float, .uChar,
  -- confidence_vertical, timestamp_age
  .uChar, rpcInt32]

def rpcLocServerOpenStatusSType : Ty := .struct [
  -- conn_handle, open_status, apn_name
  rpcUint32, .enum, .fixedOpaque 100]

def rpcLocServerCloseStatusSType : Ty := .struct [
  -- conn_handle, close_status
  rpcUint32, .enum]

def rpcLocWiperFixTimeSType : Ty := .struct [
  -- slow_clock_count
  rpcUint32]

def rpcLocWiperFixPosSType : Ty := .struct [
  -- lat, lon, HEPE, num_of_aps_used, fix_error_code
  rpcInt32, rpcInt32, rpcUint16, rpcUint8, rpcUint8]

def rpcLocWiperApInfoSType : Ty := .struct [
  -- mac_addr, rssi, channel, ap_qualifier
  .fixedOpaque 6, rpcInt32, rpcUint16, rpcUint8]

def rpcLocWiperApSetSType : Ty := .struct [
  -- num_of_aps, ap_info
  rpcUint8, .vector 50 rpcLocWiperApInfoSType]

def rpcLocWiperPositionReportSType : Ty := .struct [
  -- wiper_valid_info_flag, wiper_fix_time, wiper_fix_position, wiper_ap_set
  rpcUint8, rpcLocWiperFixTimeSType, rpcLocWiperFixPosSType, rpcLocWiperApSetSType]

def rpcLocEfsDataSType : Ty := .struct [
  -- filename, operation, total_size, data_ptr, part_len, part, total_parts, reserved
  .fixedOpaque 64, .enum, rpcUint32, .bytes (-1), rpcUint32, rpcUint8, rpcUint8, rpcUint32]

def rpcLocAssistDataDeleteSType : Ty := .struct [
  -- type, reserved
  rpcUint32, .vector 8 rpcUint32]

def rpcLocIoctlDataArms : List (BitVec 32 × Ty) := [
  (rpcLocIoctlSetFixCriteria, rpcLocFixCriteriaSType),
  (rpcLocIoctlInformNiUserResponse, rpcLocUserVerifySType),
  (rpcLocIoctlInjectPredictedOrbitsData, rpcLocPredictedOrbitsDataSType),
  (rpcLocIoctlSetPredictedOrbitsDataAutoDownload, rpcLocPredictedOrbitsAutoDownloadConfigSType),
  (rpcLocIoctlInjectUtcTime, rpcLocAssistDataTimeSType),
  (rpcLocIoctlInjectPosition, rpcLocAssistDataPosSType),
  (rpcLocIoctlInformServerOpenStatus, rpcLocServerOpenStatusSType),
  (rpcLocIoctlInformServerCloseStatus, rpcLocServerCloseStatusSType),
  (rpcLocIoctlSendWiperPositionReport, rpcLocWiperPositionReportSType),
  (rpcLocIoctlNotifyWiperStatus, .enum),
  (rpcLocIoctlSetEngineLock, .enum),
  (rpcLocIoctlSetSbasConfig, rpcBoolean),
  (rpcLocIoctlSetNmeaTypes, rpcUint32),
  (rpcLocIoctlSetOnDemandLpm, rpcBoolean),
  (rpcLocIoctlSetCdmaPdeServerAddr, rpcLocServerInfoSType),
  (rpcLocIoctlSetCdmaMpcServerAddr, rpcLocServerInfoSType),
  (rpcLocIoctlSetUmtsSlpServerAddr, rpcLocServerInfoSType),
  (rpcLocIoctlSetCustomPdeServerAddr, rpcLocServerInfoSType),
  (rpcLocIoctlDeleteAssistData, rpcLocAssistDataDeleteSType),
  (rpcLocIoctlAccessEfsData, rpcLocEfsDataSType)]

def rpcLocIoctlDataArm : BitVec 32 → Ty := Ty.switch rpcLocIoctlDataArms

def rpcLocIoctlDataUType : Ty := .union .enum rpcLocIoctlDataArm

def rpcLocIoctlArgs : Ty := .struct [
  -- handle, ioctl_type, ioctl_data
  rpcInt32, .enum, .pointer rpcLocIoctlDataUType]

end Spec

/-! ## The routines (loc_api_common_xdr.c:1129–1530, loc_api_xdr.c:71–83) -/

def xdrRpcLocPredictedOrbitsDataSType : Ty := .struct [
  .enum, xdrRpcUint32, xdrRpcUint8, xdrRpcUint8, xdrRpcUint16, .bytes (-1)]

def xdrRpcLocPredictedOrbitsAutoDownloadConfigSType : Ty := .struct [xdrRpcBoolean, .uChar]

def xdrRpcLocAssistDataTimeSType : Ty := .struct [xdrRpcUint64, xdrRpcUint32]

def xdrRpcLocAssistDataPosSType : Ty := .struct [
  xdrRpcUint64, xdrRpcUint64, .double, .double, .float, .float, .float, .float, .uChar, .uChar,
  xdrRpcInt32]

def xdrRpcLocServerOpenStatusSType : Ty := .struct [xdrRpcUint32, .enum, .fixedOpaque 100]

def xdrRpcLocServerCloseStatusSType : Ty := .struct [xdrRpcUint32, .enum]

def xdrRpcLocWiperFixTimeSType : Ty := .struct [xdrRpcUint32]

def xdrRpcLocWiperFixPosSType : Ty := .struct [
  xdrRpcInt32, xdrRpcInt32, xdrRpcUint16, xdrRpcUint8, xdrRpcUint8]

def xdrRpcLocWiperApInfoSType : Ty := .struct [
  .fixedOpaque 6, xdrRpcInt32, xdrRpcUint16, xdrRpcUint8]

def xdrRpcLocWiperApSetSType : Ty := .struct [xdrRpcUint8, .vector 50 xdrRpcLocWiperApInfoSType]

def xdrRpcLocWiperPositionReportSType : Ty := .struct [
  xdrRpcUint8, xdrRpcLocWiperFixTimeSType, xdrRpcLocWiperFixPosSType, xdrRpcLocWiperApSetSType]

def xdrRpcLocEfsDataSType : Ty := .struct [
  .fixedOpaque 64, .enum, xdrRpcUint32, .bytes (-1), xdrRpcUint32, xdrRpcUint8, xdrRpcUint8,
  xdrRpcUint32]

def xdrRpcLocAssistDataDeleteSType : Ty := .struct [xdrRpcUint32, .vector 8 xdrRpcUint32]

/-- The `switch` of `xdr_rpc_loc_ioctl_data_u_type` (loc_api_common_xdr.c:1453–1527). The label
after the wiper report's is `RPC_LOC_EVENT_NMEA_1HZ_REPORT`, an event. -/
def xdrRpcLocIoctlDataArm : BitVec 32 → Ty := Ty.switch [
  (rpcLocIoctlSetFixCriteria, xdrRpcLocFixCriteriaSType),
  (rpcLocIoctlInformNiUserResponse, xdrRpcLocUserVerifySType),
  (rpcLocIoctlInjectPredictedOrbitsData, xdrRpcLocPredictedOrbitsDataSType),
  (rpcLocIoctlSetPredictedOrbitsDataAutoDownload, xdrRpcLocPredictedOrbitsAutoDownloadConfigSType),
  (rpcLocIoctlInjectUtcTime, xdrRpcLocAssistDataTimeSType),
  (rpcLocIoctlInjectPosition, xdrRpcLocAssistDataPosSType),
  (rpcLocIoctlInformServerOpenStatus, xdrRpcLocServerOpenStatusSType),
  (rpcLocIoctlInformServerCloseStatus, xdrRpcLocServerCloseStatusSType),
  (rpcLocIoctlSendWiperPositionReport, xdrRpcLocWiperPositionReportSType),
  (rpcLocEventNmea1hzReport.setWidth 32, xdrRpcLocWiperPositionReportSType),
  (rpcLocIoctlNotifyWiperStatus, .enum),
  (rpcLocIoctlSetEngineLock, .enum),
  (rpcLocIoctlSetSbasConfig, xdrRpcBoolean),
  (rpcLocIoctlSetNmeaTypes, xdrRpcUint32),
  (rpcLocIoctlSetOnDemandLpm, xdrRpcBoolean),
  (rpcLocIoctlSetCdmaPdeServerAddr, xdrRpcLocServerInfoSType),
  (rpcLocIoctlSetCdmaMpcServerAddr, xdrRpcLocServerInfoSType),
  (rpcLocIoctlSetUmtsSlpServerAddr, xdrRpcLocServerInfoSType),
  (rpcLocIoctlSetCustomPdeServerAddr, xdrRpcLocServerInfoSType),
  (rpcLocIoctlDeleteAssistData, xdrRpcLocAssistDataDeleteSType),
  (rpcLocIoctlAccessEfsData, xdrRpcLocEfsDataSType)]

/-- `xdr_rpc_loc_ioctl_data_u_type`. -/
def xdrRpcLocIoctlDataUType : Ty := .union .enum xdrRpcLocIoctlDataArm

/-- `xdr_rpc_loc_ioctl_args` (loc_api_xdr.c:71–83). -/
def xdrRpcLocIoctlArgs : Ty := .struct [
  xdrRpcInt32, .enum, .pointer xdrRpcLocIoctlDataUType]

end Ancora.LocApi
