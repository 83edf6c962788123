import Ancora.Xdr.Codec

/-!
# The AGPS servers (loc_eng.cpp)

The framework sets the address of the SUPL and of the C2K server with
`loc_eng_set_server_proxy`. Before `loc_eng_init` there is no client to send it with, so that the
proxy saves it in a buffer, from which `loc_eng_agps_init` sends it; afterwards it is sent at
once. A C string is the list of its characters before the NUL.

- `loc_eng_set_server` sends the ioctl; the name resolution behind it is the parameter `dns`.
- `loc_eng_set_position_mode` falls back to STANDALONE unless one of the buffers has been set.
- `serverBefore`, `serverAfter`: the two orders, from process start.
- **`server_order_iff`**: they agree exactly on names that fit the buffer (or that resolve to the
  same after being cut) and on modes that need no server. The second way does not set `supl_host_set`
  or `c2k_host_set`, so that the modes that need a server stay off.
-/

namespace Ancora.LocEng

open Xdr

/-! ## The data -/

/-- `AGpsType`. -/
inductive AgpsType
  | supl
  | c2k
  | other
  deriving DecidableEq, Repr

/-- The commands that `loc_eng_set_server` uses. -/
inductive ServerIoctl
  | setUmtsSlpServerAddr
  | setCdmaPdeServerAddr
  deriving DecidableEq, Repr

/-- `rpc_loc_server_addr_u_type`; the URL without what follows its NUL. -/
inductive ServerAddr
  | ipv4 (addr : BitVec 32) (port : BitVec 16)
  | url (length : BitVec 16) (addr : List Byte)
  deriving DecidableEq, Repr

/-- A server address kept until the client is open. -/
structure ServerBuf where
  hostSet : Bool
  hostBuf : List Byte
  portBuf : BitVec 32
  deriving DecidableEq, Repr

/-- The globals of loc_eng.cpp that have to do with servers, and the ioctls sent. -/
structure Servers where
  locEngInited : Bool
  supl : ServerBuf
  c2k : ServerBuf
  locC2kAddrIsSet : Bool
  sent : List (ServerIoctl × ServerAddr)
  deriving DecidableEq, Repr

/-- Process start (loc_eng.cpp:130–148). -/
def serversInit : Servers where
  locEngInited := false
  supl := ⟨false, [], 0⟩
  c2k := ⟨false, [], 0⟩
  locC2kAddrIsSet := false
  sent := []

/-- `gethostbyname` and `inet_aton`, each with the `s_addr` it finds. -/
structure Dns where
  gethostbyname : List Byte → Option (BitVec 32)
  inetAton : List Byte → Option (BitVec 32)

/-! ## The functions -/

/-- `htonl` on the little-endian target. -/
def htonlWord (w : BitVec 32) : BitVec 32 := ntohl (htonl w).reverse

/-- `%u`. -/
def decimal (n : BitVec 32) : List Byte := (Nat.toDigits 10 n.toNat).map fun c => .ofNat 8 c.toNat

/-- `"%s:%u"`. -/
def serverUrl (hostname : List Byte) (port : BitVec 32) : List Byte :=
  hostname ++ (0x3a#8 :: decimal port)

/-- `strlcpy` into a buffer of `size` characters. -/
def strlcpy (size : Nat) (src : List Byte) : List Byte := src.take (size - 1)

/-- `resolve_in_addr` (loc_eng.cpp:1770–1790). -/
def resolveInAddr (dns : Dns) (hostAddr : List Byte) : Option (BitVec 32) :=
  (dns.gethostbyname hostAddr).or (dns.inetAton hostAddr)

/-- `loc_eng_set_server` (loc_eng.cpp:1806–1892). -/
def locEngSetServer (dns : Dns) (type : AgpsType) (hostname : List Byte) (port : BitVec 32)
    (s : Servers) : Servers :=
  let url := serverUrl hostname port
  if url.length ≥ 256 then s
  else
    match type with
    | .supl =>
      { s with sent := s.sent ++
          [(.setUmtsSlpServerAddr, .url (.ofNat 16 url.length) (strlcpy 256 url))] }
    | .c2k =>
      match resolveInAddr dns hostname with
      | none => s
      | some addr =>
        { s with
          locC2kAddrIsSet := true
          sent := s.sent ++ [(.setCdmaPdeServerAddr, .ipv4 (htonlWord addr) (port.setWidth 16))] }
    | .other => s

/-- `loc_eng_set_server_proxy` (loc_eng.cpp:1912–1938). -/
def locEngSetServerProxy (dns : Dns) (type : AgpsType) (hostname : List Byte) (port : BitVec 32)
    (s : Servers) : Servers :=
  if s.locEngInited then locEngSetServer dns type hostname port s
  else
    match type with
    | .supl => { s with supl := ⟨true, strlcpy 100 hostname, port⟩ }
    | .c2k => { s with c2k := ⟨true, strlcpy 100 hostname, port⟩ }
    | .other => s

/-- `loc_eng_init` (loc_eng.cpp:212–292), as far as the servers go: no buffer is cleared. -/
def Servers.locEngInit (s : Servers) : Servers := { s with locEngInited := true }

/-- `loc_eng_agps_init` (loc_eng.cpp:1480–1497). -/
def locEngAgpsInit (dns : Dns) (s : Servers) : Servers :=
  let s := { s with locC2kAddrIsSet := false }
  let s := if s.supl.hostSet then locEngSetServer dns .supl s.supl.hostBuf s.supl.portBuf s else s
  if s.c2k.hostSet then locEngSetServer dns .c2k s.c2k.hostBuf s.c2k.portBuf s else s

/-- `GpsPositionMode`. -/
inductive GpsPositionMode
  | standalone
  | msBased
  | msAssisted
  | other
  deriving DecidableEq, Repr

/-- `GpsPositionRecurrence`. -/
inductive GpsPositionRecurrence
  | periodic
  | single
  | other
  deriving DecidableEq, Repr

/-- `rpc_loc_operation_mode_e_type`, as far as it is used. -/
inductive OperMode
  | msb
  | msa
  | standalone
  deriving DecidableEq, Repr

/-- `rpc_loc_fix_criteria_s_type`: the members that `loc_eng_set_position_mode` fills in. -/
structure FixCriteria where
  validMask : BitVec 32
  recurrenceSingle : Bool
  preferredOperationMode : OperMode
  preferredAccuracy : BitVec 32
  preferredResponseTime : BitVec 32
  minInterval : BitVec 32
  deriving DecidableEq, Repr

abbrev fixCritValidRecurrenceType : BitVec 32 := 0x1
abbrev fixCritValidPreferredOperationMode : BitVec 32 := 0x2
abbrev fixCritValidPreferredAccuracy : BitVec 32 := 0x4
abbrev fixCritValidPreferredResponseTime : BitVec 32 := 0x8
abbrev fixCritValidMinInterval : BitVec 32 := 0x40

/-- `MIN_POSSIBLE_FIX_INTERVAL`. -/
abbrev minPossibleFixInterval : BitVec 32 := 1000

/-- The switch over the mode: the operation mode and the response time. -/
def GpsPositionMode.criteria : GpsPositionMode → OperMode × BitVec 32
  | .msBased => (.msb, 89)
  | .msAssisted => (.msa, 89)
  | _ => (.standalone, 60)

/-- `loc_eng_set_position_mode` (loc_eng.cpp:516–604): the fix criteria it sends. -/
def locEngSetPositionMode (mode : GpsPositionMode) (recurrence : GpsPositionRecurrence)
    (minInterval preferredAccuracy preferredTime : BitVec 32) (s : Servers) : Option FixCriteria :=
  if s.locEngInited then
    let mode := if s.supl.hostSet || s.c2k.hostSet then mode else .standalone
    some {
      validMask := fixCritValidPreferredOperationMode ||| fixCritValidRecurrenceType |||
        (if minInterval ≠ 0 then fixCritValidMinInterval else 0) |||
        (if preferredAccuracy ≠ 0 then fixCritValidPreferredAccuracy else 0) |||
        (if preferredTime ≠ 0 then fixCritValidPreferredResponseTime else 0)
      recurrenceSingle := recurrence = .single
      preferredOperationMode := mode.criteria.1
      preferredAccuracy := if preferredAccuracy ≠ 0 then preferredAccuracy else 50
      preferredResponseTime := if preferredTime ≠ 0 then preferredTime else mode.criteria.2
      minInterval := if minInterval ≠ 0 then minInterval else minPossibleFixInterval }
  else none

/-! ## The two orders -/

/-- The server is set, then the engine is initialised. -/
def serverBefore (dns : Dns) (type : AgpsType) (hostname : List Byte) (port : BitVec 32) :
    Servers :=
  locEngAgpsInit dns (locEngSetServerProxy dns type hostname port serversInit).locEngInit

/-- The engine is initialised, then the server is set. -/
def serverAfter (dns : Dns) (type : AgpsType) (hostname : List Byte) (port : BitVec 32) : Servers :=
  locEngSetServerProxy dns type hostname port (locEngAgpsInit dns serversInit.locEngInit)

/-- The modem has been sent the same, and the given position mode leads to the same operation
mode. -/
structure SameServer (mode : GpsPositionMode) (s s' : Servers) : Prop where
  sent : s.sent = s'.sent
  operMode : ∀ recurrence minInterval preferredAccuracy preferredTime,
    (locEngSetPositionMode mode recurrence minInterval preferredAccuracy preferredTime s).map
        FixCriteria.preferredOperationMode =
      (locEngSetPositionMode mode recurrence minInterval preferredAccuracy preferredTime s').map
        FixCriteria.preferredOperationMode

/-- The mode needs a server. -/
def GpsPositionMode.needsServer : GpsPositionMode → Bool
  | .msBased => true
  | .msAssisted => true
  | _ => false

/-- The address that a C2K server gets, if its URL fits. -/
def c2kAddr (dns : Dns) (hostname : List Byte) (port : BitVec 32) : Option (BitVec 32) :=
  if (serverUrl hostname port).length < 256 then resolveInAddr dns hostname else none

/-! ## What is sent -/

/-- Different addresses are different in network order. -/
theorem htonlWord_inj {v w : BitVec 32} (h : htonlWord v = htonlWord w) : v = w := by
  have hbytes : (htonl v).reverse = (htonl w).reverse :=
    calc (htonl v).reverse = htonl (htonlWord v) := (htonl_ntohl _ _ _ _).symm
      _ = htonl (htonlWord w) := by rw [h]
      _ = (htonl w).reverse := htonl_ntohl _ _ _ _
  calc v = ntohl (htonl v) := (ntohl_htonl v).symm
    _ = ntohl (htonl w) := by rw [List.reverse_inj.mp hbytes]
    _ = w := ntohl_htonl w

section Lengths

variable {hostname : List Byte} {port : BitVec 32}

/-- A port has at most ten digits. -/
theorem decimal_length_le (port : BitVec 32) : (decimal port).length ≤ 10 := by
  unfold decimal
  rw [List.length_map, Nat.length_toDigits_le_iff (by decide) (by decide)]
  have h := port.isLt
  omega

/-- The URL is the host name, a colon and the port. -/
theorem serverUrl_length (hostname : List Byte) (port : BitVec 32) :
    (serverUrl hostname port).length = hostname.length + 1 + (decimal port).length := by
  unfold serverUrl
  rw [List.length_append, List.length_cons]
  omega

/-- What comes out of the buffer of 100 characters always fits the URL. -/
theorem saved_fits (hostname : List Byte) (port : BitVec 32) :
    (serverUrl (strlcpy 100 hostname) port).length < 256 := by
  rw [serverUrl_length, strlcpy, List.length_take]
  have h := decimal_length_le port
  omega

/-- A host name that fits is kept. -/
theorem strlcpy_of_le {size : Nat} (h : hostname.length ≤ size - 1) :
    strlcpy size hostname = hostname := List.take_of_length_le h

/-- A longer one is cut. -/
theorem strlcpy_length_lt {size : Nat} (h : size - 1 < hostname.length) :
    (strlcpy size hostname).length < hostname.length := by
  rw [strlcpy, List.length_take]
  omega

end Lengths

section Sent

variable (dns : Dns) (hostname : List Byte) (port : BitVec 32)

/-- The SUPL ioctl, if the URL fits. -/
def suplSent : List (ServerIoctl × ServerAddr) :=
  if (serverUrl hostname port).length < 256 then
    [(.setUmtsSlpServerAddr,
      .url (.ofNat 16 (serverUrl hostname port).length) (serverUrl hostname port))]
  else []

/-- The C2K ioctl, if the URL fits and the name resolves. -/
def c2kSent : List (ServerIoctl × ServerAddr) :=
  (c2kAddr dns hostname port).toList.map fun addr =>
    (.setCdmaPdeServerAddr, .ipv4 (htonlWord addr) (port.setWidth 16))

/-- Setting a SUPL server sends its URL. -/
theorem locEngSetServer_supl_sent (s : Servers) :
    (locEngSetServer dns .supl hostname port s).sent = s.sent ++ suplSent hostname port := by
  unfold locEngSetServer suplSent
  by_cases h : (serverUrl hostname port).length < 256
  · rw [if_neg (by omega), if_pos h, strlcpy_of_le (by omega)]
  · rw [if_pos (by omega), if_neg h, List.append_nil]

/-- Setting a C2K server sends its address, if there is one. -/
theorem locEngSetServer_c2k_sent (s : Servers) :
    (locEngSetServer dns .c2k hostname port s).sent = s.sent ++ c2kSent dns hostname port := by
  unfold locEngSetServer c2kSent c2kAddr
  by_cases h : (serverUrl hostname port).length < 256
  · rw [if_neg (by omega), if_pos h]
    cases resolveInAddr dns hostname with
    | none => exact (List.append_nil _).symm
    | some addr => rfl
  · rw [if_pos (by omega), if_neg h]
    exact (List.append_nil _).symm

/-- Sending leaves the buffers alone. -/
theorem locEngSetServer_frame (type : AgpsType) (s : Servers) :
    (locEngSetServer dns type hostname port s).locEngInited = s.locEngInited ∧
      (locEngSetServer dns type hostname port s).supl = s.supl ∧
      (locEngSetServer dns type hostname port s).c2k = s.c2k := by
  unfold locEngSetServer
  dsimp only
  split
  · exact ⟨rfl, rfl, rfl⟩
  · cases type with
    | supl => exact ⟨rfl, rfl, rfl⟩
    | c2k =>
      cases resolveInAddr dns hostname with
      | none => exact ⟨rfl, rfl, rfl⟩
      | some addr => exact ⟨rfl, rfl, rfl⟩
    | other => exact ⟨rfl, rfl, rfl⟩

/-- The URLs tell apart the name and what the buffer holds of it. -/
theorem suplSent_saved_iff :
    suplSent (strlcpy 100 hostname) port = suplSent hostname port ↔ hostname.length ≤ 99 := by
  constructor
  · intro h
    by_contra hlong
    have hlt : (strlcpy 100 hostname).length < hostname.length := strlcpy_length_lt (by omega)
    have hurl := serverUrl_length (strlcpy 100 hostname) port
    unfold suplSent at h
    rw [if_pos (saved_fits hostname port)] at h
    split at h
    · simp only [List.cons.injEq, Prod.mk.injEq, ServerAddr.url.injEq, and_true, true_and] at h
      have hlen := congrArg List.length h.2
      rw [serverUrl_length hostname, hurl] at hlen
      omega
    · cases h
  · intro hshort
    rw [strlcpy_of_le hshort]

/-- A C2K server that was saved is sent alike if its cut name has the same address. -/
theorem c2kSent_saved_iff :
    c2kSent dns (strlcpy 100 hostname) port = c2kSent dns hostname port ↔
      resolveInAddr dns (strlcpy 100 hostname) = c2kAddr dns hostname port := by
  have hsaved : c2kAddr dns (strlcpy 100 hostname) port =
      resolveInAddr dns (strlcpy 100 hostname) := if_pos (saved_fits hostname port)
  unfold c2kSent
  rw [hsaved]
  constructor
  · intro h
    cases hcut : resolveInAddr dns (strlcpy 100 hostname) with
    | none =>
      cases hfull : c2kAddr dns hostname port with
      | none => rfl
      | some addr =>
        rw [hcut, hfull] at h
        cases h
    | some addr =>
      cases hfull : c2kAddr dns hostname port with
      | none =>
        rw [hcut, hfull] at h
        cases h
      | some addr' =>
        rw [hcut, hfull] at h
        simp only [Option.toList_some, List.map_cons, List.map_nil, List.cons.injEq, Prod.mk.injEq,
          ServerAddr.ipv4.injEq, and_true, true_and] at h
        rw [htonlWord_inj h]
  · intro h
    rw [h]

/-- A name that fits the buffer resolves as it is. -/
theorem resolve_saved_of_short (hshort : hostname.length ≤ 99) :
    resolveInAddr dns (strlcpy 100 hostname) = c2kAddr dns hostname port := by
  have hcopy : strlcpy 100 hostname = hostname := strlcpy_of_le hshort
  have hfits := saved_fits hostname port
  rw [hcopy] at hfits ⊢
  exact (if_pos hfits).symm

end Sent

/-! ## When the orders agree -/

/-- A buffer has been set. -/
def Servers.hostSet (s : Servers) : Bool := s.supl.hostSet || s.c2k.hostSet

/-- The mode is sent in the module that has been opened. -/
theorem operMode_eq (mode : GpsPositionMode) (recurrence : GpsPositionRecurrence)
    (minInterval preferredAccuracy preferredTime : BitVec 32) {s : Servers}
    (hs : s.locEngInited = true) :
    (locEngSetPositionMode mode recurrence minInterval preferredAccuracy preferredTime s).map
        FixCriteria.preferredOperationMode =
      some (if s.hostSet then mode else .standalone).criteria.1 := by
  unfold locEngSetPositionMode
  rw [if_pos hs]
  rfl

/-- One order has set a buffer and the other has not: the modes that need a server tell them
apart. -/
theorem sameServer_iff {mode : GpsPositionMode} {s s' : Servers} (hs : s.locEngInited = true)
    (hs' : s'.locEngInited = true) (hset : s.hostSet = true) (hset' : s'.hostSet = false) :
    SameServer mode s s' ↔ mode.needsServer = false ∧ s.sent = s'.sent := by
  constructor
  · rintro ⟨hsent, hmode⟩
    have h := hmode .periodic 0 0 0
    rw [operMode_eq _ _ _ _ _ hs, operMode_eq _ _ _ _ _ hs', hset, hset'] at h
    refine ⟨?_, hsent⟩
    cases mode with
    | standalone => rfl
    | msBased => cases h
    | msAssisted => cases h
    | other => rfl
  · rintro ⟨hneeds, hsent⟩
    refine ⟨hsent, ?_⟩
    intro recurrence minInterval preferredAccuracy preferredTime
    rw [operMode_eq _ _ _ _ _ hs, operMode_eq _ _ _ _ _ hs', hset, hset']
    cases mode with
    | standalone => rfl
    | msBased => cases hneeds
    | msAssisted => cases hneeds
    | other => rfl

section Orders

variable (dns : Dns) (hostname : List Byte) (port : BitVec 32) (mode : GpsPositionMode)

/-- For SUPL the order does not matter in a mode without a server and with a host name that fits. -/
theorem supl_order_iff :
    SameServer mode (serverBefore dns .supl hostname port) (serverAfter dns .supl hostname port) ↔
      mode.needsServer = false ∧ hostname.length ≤ 99 := by
  have hbefore : serverBefore dns .supl hostname port =
      locEngSetServer dns .supl (strlcpy 100 hostname) port
        { serversInit with locEngInited := true, supl := ⟨true, strlcpy 100 hostname, port⟩ } := by
    unfold serverBefore locEngAgpsInit
    dsimp only
    rw [if_neg]
    · rfl
    · show ¬ (locEngSetServer dns .supl _ _ _).c2k.hostSet = true
      rw [(locEngSetServer_frame dns _ _ .supl _).2.2]
      exact Bool.false_ne_true
  have hafter : serverAfter dns .supl hostname port =
      locEngSetServer dns .supl hostname port { serversInit with locEngInited := true } := rfl
  obtain ⟨hin, hs, hc⟩ := locEngSetServer_frame dns (strlcpy 100 hostname) port .supl
    { serversInit with locEngInited := true, supl := ⟨true, strlcpy 100 hostname, port⟩ }
  obtain ⟨hin', hs', hc'⟩ := locEngSetServer_frame dns hostname port .supl
    { serversInit with locEngInited := true }
  rw [hbefore, hafter, sameServer_iff hin hin' (by rw [Servers.hostSet, hs]; rfl)
    (by rw [Servers.hostSet, hs', hc']; rfl), locEngSetServer_supl_sent, locEngSetServer_supl_sent]
  exact and_congr_right fun _ => suplSent_saved_iff hostname port

/-- For C2K it is the address that has to be the same. -/
theorem c2k_order_iff :
    SameServer mode (serverBefore dns .c2k hostname port) (serverAfter dns .c2k hostname port) ↔
      mode.needsServer = false ∧
        resolveInAddr dns (strlcpy 100 hostname) = c2kAddr dns hostname port := by
  have hbefore : serverBefore dns .c2k hostname port =
      locEngSetServer dns .c2k (strlcpy 100 hostname) port
        { serversInit with locEngInited := true, c2k := ⟨true, strlcpy 100 hostname, port⟩ } := rfl
  have hafter : serverAfter dns .c2k hostname port =
      locEngSetServer dns .c2k hostname port { serversInit with locEngInited := true } := rfl
  obtain ⟨hin, hs, hc⟩ := locEngSetServer_frame dns (strlcpy 100 hostname) port .c2k
    { serversInit with locEngInited := true, c2k := ⟨true, strlcpy 100 hostname, port⟩ }
  obtain ⟨hin', hs', hc'⟩ := locEngSetServer_frame dns hostname port .c2k
    { serversInit with locEngInited := true }
  rw [hbefore, hafter, sameServer_iff hin hin' (by rw [Servers.hostSet, hs, hc]; rfl)
    (by rw [Servers.hostSet, hs', hc']; rfl), locEngSetServer_c2k_sent, locEngSetServer_c2k_sent]
  exact and_congr_right fun _ => c2kSent_saved_iff dns hostname port

/-- An unknown type is neither saved nor sent. -/
theorem other_order :
    SameServer mode (serverBefore dns .other hostname port)
      (serverAfter dns .other hostname port) := by
  have hafter : serverAfter dns .other hostname port =
      { serversInit with locEngInited := true } := by
    show locEngSetServer dns .other hostname port { serversInit with locEngInited := true } = _
    unfold locEngSetServer
    dsimp only
    split <;> rfl
  rw [hafter]
  exact ⟨rfl, fun _ _ _ _ => rfl⟩

/-- **Setting a server before or after the initialisation comes to the same exactly when the later
position mode needs no server and the name fits the buffer, or, for a C2K server, resolves to the
same after being cut.** -/
theorem server_order_iff (type : AgpsType) :
    SameServer mode (serverBefore dns type hostname port) (serverAfter dns type hostname port) ↔
      type = .other ∨ mode.needsServer = false ∧
        (hostname.length ≤ 99 ∨
          type = .c2k ∧ resolveInAddr dns (strlcpy 100 hostname) = c2kAddr dns hostname port) := by
  cases type with
  | supl =>
    rw [supl_order_iff]
    simp
  | c2k =>
    rw [c2k_order_iff]
    have hshort := resolve_saved_of_short dns hostname port
    simp only [reduceCtorEq, true_and, false_or]
    refine and_congr_right fun _ => ?_
    exact ⟨.inr, fun h => h.elim hshort id⟩
  | other => simp [other_order dns hostname port mode]

end Orders

/-- The host name "supl". -/
def suplHost : List Byte := [0x73, 0x75, 0x70, 0x6c]

/-- Set after the initialisation, the server is the same to the modem, but MS-based positioning
stays off. -/
theorem server_after_init_disables_msb :
    (serverBefore ⟨fun _ => none, fun _ => none⟩ .supl suplHost 7276).sent =
        (serverAfter ⟨fun _ => none, fun _ => none⟩ .supl suplHost 7276).sent ∧
      (locEngSetPositionMode .msBased .periodic 1000 0 0
        (serverBefore ⟨fun _ => none, fun _ => none⟩ .supl suplHost 7276)).map
          FixCriteria.preferredOperationMode = some .msb ∧
      (locEngSetPositionMode .msBased .periodic 1000 0 0
        (serverAfter ⟨fun _ => none, fun _ => none⟩ .supl suplHost 7276)).map
          FixCriteria.preferredOperationMode = some .standalone ∧
      ¬ SameServer .msBased (serverBefore ⟨fun _ => none, fun _ => none⟩ .supl suplHost 7276)
        (serverAfter ⟨fun _ => none, fun _ => none⟩ .supl suplHost 7276) := by
  refine ⟨by decide +kernel, by decide +kernel, by decide +kernel, ?_⟩
  rw [supl_order_iff]
  rintro ⟨hneeds, -⟩
  cases hneeds

end Ancora.LocEng
