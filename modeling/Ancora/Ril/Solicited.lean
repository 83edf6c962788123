import Mathlib.Data.List.Basic

/-!
# Answers to requests (SamsungRIL.java:118–323)

An answer of the modem has the serial of a request, an error and a payload. `processSolicited`
takes the request off the list of pending ones, decodes the payload as its type asks for, and
completes its `Message` with the result or an error. "Ugly fix for Samsung messing up SMS_SEND
request fail": an answer to SEND_SMS with error -1 is a success, and for it the payload is
decoded again, from where the first decoding has left the parcel.

- `Request`, `responseOf`: the request types and their decoders. The decoders are a parameter:
  what they return and where they leave the parcel.
- `respond`: what the `Message` is completed with.
- `CompletedOnce`: one completion for the request with this serial, and what is delivered as a
  success was decoded from the first byte of the payload.
- **`solicited_completed_once_iff`**: so it is, if and only if no answer to SEND_SMS with error
  -1 has a payload whose second decoding gives something else than the first (`RereadsSms`).
-/

namespace Ancora.Ril.Solicited

/-! ## Parcels -/

/-- The bytes of a `Parcel` and its data position. -/
structure Parcel where
  data : List (BitVec 8)
  pos : Nat
  deriving DecidableEq

def Parcel.dataAvail (p : Parcel) : Nat := p.data.length - p.pos

def Parcel.byte (p : Parcel) (k : Nat) : BitVec 8 := p.data.getD (p.pos + k) 0

/-- Four bytes, the lowest first; past the end it is zero. -/
def Parcel.readInt (p : Parcel) : BitVec 32 × Parcel :=
  if p.pos + 4 ≤ p.data.length then
    (p.byte 3 ++ p.byte 2 ++ p.byte 1 ++ p.byte 0, { p with pos := p.pos + 4 })
  else (0, p)

/-! ## Requests and decoders -/

/-- `RIL_REQUEST_…`, as far as the switch knows them. -/
inductive Request
  | getSimStatus | enterSimPin | enterSimPuk | enterSimPin2 | enterSimPuk2 | changeSimPin
  | changeSimPin2 | enterDepersonalizationCode | getCurrentCalls | dial | getImsi | hangup
  | hangupWaitingOrBackground | hangupForegroundResumeBackground
  | switchWaitingOrHoldingAndActive | conference | udub | lastCallFailCause | signalStrength
  | voiceRegistrationState | dataRegistrationState | operator | radioPower | dtmf | sendSms
  | sendSmsExpectMore | setupDataCall | simIo | sendUssd | cancelUssd | getClir | setClir
  | queryCallForwardStatus | setCallForward | queryCallWaiting | setCallWaiting | smsAcknowledge
  | getImei | getImeisv | answer | deactivateDataCall | queryFacilityLock | setFacilityLock
  | changeBarringPassword | queryNetworkSelectionMode | setNetworkSelectionAutomatic
  | setNetworkSelectionManual | queryAvailableNetworks | dtmfStart | dtmfStop | basebandVersion
  | separateConnection | setMute | getMute | queryClip | lastDataCallFailCause | dataCallList
  | resetRadio | oemHookRaw | oemHookStrings | screenState | setSuppSvcNotification
  | writeSmsToSim | deleteSmsOnSim | setBandMode | queryAvailableBandMode | stkGetProfile
  | stkSetProfile | stkSendEnvelopeCommand | stkSendTerminalResponse
  | stkHandleCallSetupRequestedFromSim | explicitCallTransfer | setPreferredNetworkType
  | getPreferredNetworkType | getNeighboringCellIds | setLocationUpdates
  | cdmaSetSubscriptionSource | cdmaSetRoamingPreference | cdmaQueryRoamingPreference
  | setTtyMode | queryTtyMode | cdmaSetPreferredVoicePrivacyMode
  | cdmaQueryPreferredVoicePrivacyMode | cdmaFlash | cdmaBurstDtmf | cdmaSendSms
  | cdmaSmsAcknowledge | gsmGetBroadcastConfig | gsmSetBroadcastConfig | gsmBroadcastActivation
  | cdmaGetBroadcastConfig | cdmaSetBroadcastConfig | cdmaBroadcastActivation
  | cdmaValidateAndWriteAkey | cdmaSubscription | cdmaWriteSmsToRuim | cdmaDeleteSmsOnRuim
  | deviceIdentity | getSmscAddress | setSmscAddress | exitEmergencyCallbackMode
  | reportSmsMemoryStatus | reportStkServiceIsRunning | cdmaGetSubscriptionSource
  | isimAuthentication | acknowledgeIncomingGsmSmsWithPdu | stkSendEnvelopeWithStatus
  | voiceRadioTech | getCellInfoList | setUnsolCellInfoListRate | dialEmergency
  deriving DecidableEq

inductive Decoder
  | responseIccCardStatus | responseInts | responseCallList | responseVoid | responseString
  | responseLastCallFailCause | responseSignalStrength | responseVoiceRegistrationState
  | responseStrings | responseSMS | responseSetupDataCall | responseIccIo | responseCallForward
  | responseOperatorInfos | responseDataCallList | responseRaw | responseNetworkType
  | responseCellList | responseGmsBroadcastConfig | responseCdmaBroadcastConfig
  | responseCdmaSubscription | responseCellInfoList
  deriving DecidableEq

/-- The switch of `processSolicited`. -/
def responseOf : Request → Decoder
  | .getSimStatus => .responseIccCardStatus
  | .enterSimPin | .enterSimPuk | .enterSimPin2 | .enterSimPuk2 | .changeSimPin | .changeSimPin2
  | .enterDepersonalizationCode | .getClir | .queryCallWaiting | .queryFacilityLock
  | .setFacilityLock | .queryNetworkSelectionMode | .getMute | .queryClip
  | .lastDataCallFailCause | .writeSmsToSim | .queryAvailableBandMode
  | .stkHandleCallSetupRequestedFromSim | .cdmaQueryRoamingPreference | .queryTtyMode
  | .cdmaQueryPreferredVoicePrivacyMode | .cdmaWriteSmsToRuim | .cdmaGetSubscriptionSource
  | .voiceRadioTech => .responseInts
  | .getCurrentCalls => .responseCallList
  | .dial | .hangup | .hangupWaitingOrBackground | .hangupForegroundResumeBackground
  | .switchWaitingOrHoldingAndActive | .conference | .udub | .radioPower | .dtmf | .sendUssd
  | .cancelUssd | .setClir | .setCallForward | .setCallWaiting | .smsAcknowledge | .answer
  | .deactivateDataCall | .changeBarringPassword | .setNetworkSelectionAutomatic
  | .setNetworkSelectionManual | .dtmfStart | .dtmfStop | .separateConnection | .setMute
  | .resetRadio | .screenState | .setSuppSvcNotification | .deleteSmsOnSim | .setBandMode
  | .stkSetProfile | .stkSendTerminalResponse | .explicitCallTransfer | .setPreferredNetworkType
  | .setLocationUpdates | .cdmaSetSubscriptionSource | .cdmaSetRoamingPreference | .setTtyMode
  | .cdmaSetPreferredVoicePrivacyMode | .cdmaFlash | .cdmaBurstDtmf | .cdmaSmsAcknowledge
  | .gsmSetBroadcastConfig | .gsmBroadcastActivation | .cdmaSetBroadcastConfig
  | .cdmaBroadcastActivation | .cdmaValidateAndWriteAkey | .cdmaDeleteSmsOnRuim | .setSmscAddress
  | .exitEmergencyCallbackMode | .reportSmsMemoryStatus | .reportStkServiceIsRunning
  | .acknowledgeIncomingGsmSmsWithPdu | .setUnsolCellInfoListRate | .dialEmergency
    => .responseVoid
  | .getImsi | .getImei | .getImeisv | .basebandVersion | .stkGetProfile
  | .stkSendEnvelopeCommand | .getSmscAddress | .isimAuthentication => .responseString
  | .lastCallFailCause => .responseLastCallFailCause
  | .signalStrength => .responseSignalStrength
  | .voiceRegistrationState => .responseVoiceRegistrationState
  | .dataRegistrationState | .operator | .oemHookStrings | .deviceIdentity => .responseStrings
  | .sendSms | .sendSmsExpectMore | .cdmaSendSms => .responseSMS
  | .setupDataCall => .responseSetupDataCall
  | .simIo | .stkSendEnvelopeWithStatus => .responseIccIo
  | .queryCallForwardStatus => .responseCallForward
  | .queryAvailableNetworks => .responseOperatorInfos
  | .dataCallList => .responseDataCallList
  | .oemHookRaw => .responseRaw
  | .getPreferredNetworkType => .responseNetworkType
  | .getNeighboringCellIds => .responseCellList
  | .gsmGetBroadcastConfig => .responseGmsBroadcastConfig
  | .cdmaGetBroadcastConfig => .responseCdmaBroadcastConfig
  | .cdmaSubscription => .responseCdmaSubscription
  | .getCellInfoList => .responseCellInfoList

/-! ## The code -/

variable {μ ο τ : Type}

/-- `RILRequest`; a type that the switch does not know is `none`. -/
structure RilRequest (μ : Type) where
  mSerial : BitVec 32
  mRequest : Option Request
  mResult : Option μ
  deriving DecidableEq

/-- The exception a `Message` is completed with. -/
inductive Failure (τ : Type)
  /-- A decoder has thrown it. -/
  | thrown (tr : τ)
  /-- "Unrecognized solicited response". -/
  | unrecognized
  /-- `CommandException.fromRilErrno(error)` -/
  | rilErrno (error : BitVec 32)
  deriving DecidableEq

/-- `AsyncResult.forMessage(message, result, exception)` and `message.sendToTarget()`. -/
structure Completion (μ ο τ : Type) where
  message : μ
  result : Option ο
  exception : Option (Failure τ)
  deriving DecidableEq

inductive Event (μ ο τ : Type)
  | completed (c : Completion μ ο τ)
  /-- `mIccStatusChangedRegistrants.notifyRegistrants()` -/
  | iccStatusChanged

/-- The value of a decoder and the parcel as it leaves it, or what it throws. -/
abbrev Decode (ο τ : Type) := Decoder → Parcel → Except τ (Option ο × Parcel)

/-- `findAndRemoveRequestFromList` -/
def findAndRemoveRequestFromList (serial : BitVec 32) :
    List (RilRequest μ) → Option (RilRequest μ × List (RilRequest μ))
  | [] => none
  | rr :: rrs =>
    if rr.mSerial = serial then some (rr, rrs)
    else (findAndRemoveRequestFromList serial rrs).map fun r => (r.1, rr :: r.2)

/-- The completion of a request, if it has a `Message`. -/
def complete (rr : RilRequest μ) (ret : Option ο) (exception : Option (Failure τ)) :
    List (Event μ ο τ) :=
  match rr.mResult with
  | some message => [.completed ⟨message, ret, exception⟩]
  | none => []

/-- `RILRequest.onError` -/
def onError (rr : RilRequest μ) (error : BitVec 32) (ret : Option ο) : List (Event μ ο τ) :=
  complete rr ret (some (.rilErrno error))

/-- The first switch. -/
def decodeRequest (decode : Decode ο τ) (request : Option Request) (p : Parcel) :
    Except (Failure τ) (Option ο × Parcel) :=
  match request with
  | some request =>
    match decode (responseOf request) p with
    | .ok r => .ok r
    | .error tr => .error (.thrown tr)
  | none => .error .unrecognized

/-- The second switch: "ON some errors fakeSimStatusChanged". -/
def fakesSimStatus (request : Option Request) : Bool :=
  request == some .enterSimPin || request == some .enterSimPin2 ||
    request == some .changeSimPin || request == some .changeSimPin2 ||
    request == some .setFacilityLock

/-- "Ugly fix for Samsung messing up SMS_SEND request fail in binary RIL": the parcel is where
the first switch has left it. -/
def fixSendSms (decode : Decode ο τ) (rr : RilRequest μ) (error : BitVec 32) (ret : Option ο)
    (p : Parcel) : List (Event μ ο τ) :=
  match decode .responseSMS p with
  | .ok r => complete rr r.1 none
  | .error _ => onError rr error ret

/-- `processSolicited` once the request is found. `icc` is whether there are
`mIccStatusChangedRegistrants`. -/
def respond (decode : Decode ο τ) (icc : Bool) (rr : RilRequest μ) (error : BitVec 32)
    (p : Parcel) : List (Event μ ο τ) :=
  let decoded := if error = 0 ∨ 0 < p.dataAvail then decodeRequest decode rr.mRequest p
    else .ok (none, p)
  match decoded with
  | .error tr => complete rr none (some tr)
  | .ok r =>
    if error ≠ 0 then
      (if fakesSimStatus rr.mRequest && icc then [.iccStatusChanged] else []) ++
        if error = -1 ∧ rr.mRequest = some .sendSms then fixSendSms decode rr error r.1 r.2
        else onError rr error r.1
    else complete rr r.1 none

/-- What `processSolicited` returns, the pending requests afterwards, and what happened. -/
structure Outcome (μ ο τ : Type) where
  returned : Option (RilRequest μ)
  pending : List (RilRequest μ)
  events : List (Event μ ο τ)

/-- The serial, the error and the payload of an answer. -/
def serialOf (p : Parcel) : BitVec 32 := p.readInt.1

def errorOf (p : Parcel) : BitVec 32 := p.readInt.2.readInt.1

def payloadOf (p : Parcel) : Parcel := p.readInt.2.readInt.2

/-- `processSolicited` (SamsungRIL.java:119). -/
def processSolicited (decode : Decode ο τ) (icc : Bool) (pending : List (RilRequest μ))
    (p : Parcel) : Outcome μ ο τ :=
  match findAndRemoveRequestFromList (serialOf p) pending with
  | none => ⟨none, pending, []⟩
  | some (rr, rest) => ⟨some rr, rest, respond decode icc rr (errorOf p) (payloadOf p)⟩

/-! ## Completed once -/

/-- The completions among the events. -/
def completions (events : List (Event μ ο τ)) : List (Completion μ ο τ) :=
  events.filterMap fun e =>
    match e with
    | .completed c => some c
    | .iccStatusChanged => none

/-- The completion answers `rr`: its `Message`, if it has one, is completed once, and with a
success only if the result was decoded from the first byte of the payload. -/
structure Answers (decode : Decode ο τ) (payload : Parcel) (rr : RilRequest μ)
    (cs : List (Completion μ ο τ)) : Prop where
  silent : rr.mResult = none → cs = []
  once : ∀ message, rr.mResult = some message → ∃ c, cs = [c] ∧ c.message = message ∧
    (c.exception = none → ∃ request rest, rr.mRequest = some request ∧
      decode (responseOf request) payload = .ok (c.result, rest))

/-- An answer without a pending request completes nothing; one with a request removes it, and no
other, and answers it. -/
structure CompletedOnce (decode : Decode ο τ) (pending : List (RilRequest μ)) (p : Parcel)
    (out : Outcome μ ο τ) : Prop where
  unexpected : (∀ rr ∈ pending, rr.mSerial ≠ serialOf p) →
    out.pending = pending ∧ completions out.events = []
  expected : ∀ before rr after, pending = before ++ rr :: after → rr.mSerial = serialOf p →
    (∀ r ∈ before, r.mSerial ≠ serialOf p) →
    out.pending = before ++ after ∧ Answers decode (payloadOf p) rr (completions out.events)

/-- An answer to SEND_SMS with error -1 has a payload, and decoding it goes on to something else
when it is repeated. -/
def RereadsSms (decode : Decode ο τ) (rr : RilRequest μ) (error : BitVec 32) (p : Parcel) : Prop :=
  rr.mResult ≠ none ∧ rr.mRequest = some .sendSms ∧ error = -1 ∧ 0 < p.dataAvail ∧
    ∃ ret rest ret' rest', decode .responseSMS p = .ok (ret, rest) ∧
      decode .responseSMS rest = .ok (ret', rest') ∧ ret' ≠ ret

/-! ## One request -/

section Respond

variable {decode : Decode ο τ} {icc : Bool} {rr : RilRequest μ} {error : BitVec 32} {p : Parcel}

theorem completions_complete (rr : RilRequest μ) (ret : Option ο) (e : Option (Failure τ)) :
    completions (complete rr ret e) = (rr.mResult.map fun m => ⟨m, ret, e⟩).toList := by
  unfold complete
  cases rr.mResult with
  | none => rfl
  | some message => rfl

/-- Fake changes of the SIM's status complete nothing. -/
theorem completions_fakes (b : Bool) (es : List (Event μ ο τ)) :
    completions ((if b then [.iccStatusChanged] else []) ++ es) = completions es := by
  cases b with
  | true => rfl
  | false => rfl

/-- A completion is an answer, unless it is a success that the payload does not account for. -/
theorem answers_complete {ret : Option ο} {e : Option (Failure τ)}
    (h : rr.mResult ≠ none → e = none → ∃ request rest, rr.mRequest = some request ∧
      decode (responseOf request) p = .ok (ret, rest)) :
    Answers decode p rr (completions (complete rr ret e)) := by
  rw [completions_complete]
  constructor
  · intro hnone
    rw [hnone]
    rfl
  · intro message hmessage
    have hdecoded := h (by simp [hmessage])
    rw [hmessage]
    exact ⟨_, rfl, rfl, hdecoded⟩

theorem answers_error (ret : Option ο) (f : Failure τ) :
    Answers decode p rr (completions (complete rr ret (some f))) :=
  answers_complete fun _ h => by cases h

theorem answers_success {request : Request} {ret : Option ο} {rest : Parcel}
    (hrequest : rr.mRequest = some request)
    (hdecode : decode (responseOf request) p = .ok (ret, rest)) :
    Answers decode p rr (completions (complete rr ret none)) :=
  answers_complete fun _ _ => ⟨request, rest, hrequest, hdecode⟩

theorem decodeRequest_ok {request : Option Request} {r : Option ο × Parcel}
    (h : decodeRequest decode request p = .ok r) :
    ∃ k, request = some k ∧ decode (responseOf k) p = .ok r := by
  unfold decodeRequest at h
  cases request with
  | none => cases h
  | some k =>
    cases hk : decode (responseOf k) p with
    | error tr =>
      simp only [hk] at h
      cases h
    | ok r' =>
      simp only [hk] at h
      cases h
      exact ⟨k, rfl, hk⟩

/-- The payload was decoded once when the errors are looked at. -/
theorem respond_decoded {ret : Option ο} {rest : Parcel} {request : Request}
    (hno : ¬ RereadsSms decode rr error p) (havail : 0 < p.dataAvail)
    (hrequest : rr.mRequest = some request)
    (hdecode : decode (responseOf request) p = .ok (ret, rest)) :
    Answers decode p rr (completions
      (if error = -1 ∧ rr.mRequest = some .sendSms then fixSendSms decode rr error ret rest
      else onError rr error ret)) := by
  split
  · rename_i hsms
    obtain rfl : request = .sendSms := Option.some.inj (hrequest.symm.trans hsms.2)
    unfold fixSendSms
    cases hagain : decode .responseSMS rest with
    | error tr => exact answers_error ret _
    | ok r =>
      obtain ⟨ret', rest'⟩ := r
      refine answers_complete fun hmessage _ => ?_
      -- the second result is the first one
      have hsame : ret' = ret := by
        by_contra hne
        exact hno ⟨hmessage, hrequest, hsms.1, havail, ret, rest, ret', rest', hdecode, hagain,
          hne⟩
      subst hsame
      exact ⟨.sendSms, rest, hrequest, hdecode⟩
  · exact answers_error ret _

/-- There was nothing to decode. -/
theorem respond_empty :
    Answers decode p rr (completions
      (if error = -1 ∧ rr.mRequest = some .sendSms then fixSendSms decode rr error none p
      else onError rr error none)) := by
  split
  · rename_i hsms
    unfold fixSendSms
    cases hdecode : decode .responseSMS p with
    | error tr => exact answers_error none _
    | ok r => exact answers_success hsms.2 hdecode
  · exact answers_error none _

/-- Without a second, different decoding the request is answered. -/
theorem respond_answers (hno : ¬ RereadsSms decode rr error p) :
    Answers decode p rr (completions (respond decode icc rr error p)) := by
  unfold respond
  by_cases hdecodes : error = 0 ∨ 0 < p.dataAvail
  · simp only [if_pos hdecodes]
    cases hr : decodeRequest decode rr.mRequest p with
    | error f => exact answers_error none f
    | ok r =>
      obtain ⟨request, hrequest, hdecode⟩ := decodeRequest_ok hr
      by_cases herror : error = 0
      · simp only [ne_eq, herror, not_true, if_false]
        exact answers_success hrequest hdecode
      · simp only [ne_eq, herror, not_false_eq_true, if_true]
        rw [completions_fakes]
        exact respond_decoded hno (hdecodes.resolve_left herror) hrequest hdecode
  · have herror : error ≠ 0 := fun h => hdecodes (.inl h)
    simp only [if_neg hdecodes, if_pos herror]
    rw [completions_fakes]
    exact respond_empty

/-- With one it is not. -/
theorem respond_not_answers (h : RereadsSms decode rr error p) :
    ¬ Answers decode p rr (completions (respond decode icc rr error p)) := by
  obtain ⟨hmessage, hrequest, rfl, havail, ret, rest, ret', rest', hdecode, hagain, hne⟩ := h
  obtain ⟨message, hmessage⟩ := Option.ne_none_iff_exists'.mp hmessage
  have hfirst : decodeRequest decode rr.mRequest p = .ok (ret, rest) := by
    simp only [decodeRequest, hrequest, responseOf, hdecode]
  have hnonzero : (-1 : BitVec 32) ≠ 0 := by decide
  have hevents : completions (respond decode icc rr (-1) p) = [⟨message, ret', none⟩] := by
    unfold respond
    have hdecodes : (-1 : BitVec 32) = 0 ∨ 0 < p.dataAvail := .inr havail
    simp only [if_pos hdecodes, hfirst, if_pos hnonzero]
    rw [completions_fakes, if_pos ⟨trivial, hrequest⟩, fixSendSms, hagain]
    show completions (complete rr ret' none) = _
    rw [completions_complete, hmessage]
    rfl
  intro hanswers
  obtain ⟨c, hc, -, hsuccess⟩ := hanswers.once message hmessage
  rw [hevents] at hc
  obtain rfl := List.singleton_inj.mp hc
  obtain ⟨request, rest₂, hrequest₂, hdecode₂⟩ := hsuccess rfl
  obtain rfl : Request.sendSms = request := Option.some.inj (hrequest.symm.trans hrequest₂)
  have heq : (ret, rest) = (ret', rest₂) := Except.ok.inj (hdecode.symm.trans hdecode₂)
  exact hne (congrArg Prod.fst heq).symm

end Respond

/-! ## The list of requests -/

section Pending

variable {serial : BitVec 32} {rr : RilRequest μ} {before after : List (RilRequest μ)}

theorem findAndRemove_none {pending : List (RilRequest μ)}
    (h : ∀ rr ∈ pending, rr.mSerial ≠ serial) :
    findAndRemoveRequestFromList serial pending = none := by
  induction pending with
  | nil => rfl
  | cons rr pending ih =>
    rw [findAndRemoveRequestFromList, if_neg (h rr List.mem_cons_self),
      ih fun r hr => h r (List.mem_cons_of_mem rr hr)]
    rfl

theorem findAndRemove_append (hserial : rr.mSerial = serial)
    (hbefore : ∀ r ∈ before, r.mSerial ≠ serial) :
    findAndRemoveRequestFromList serial (before ++ rr :: after) = some (rr, before ++ after) := by
  induction before with
  | nil =>
    rw [List.nil_append, findAndRemoveRequestFromList, if_pos hserial]
    rfl
  | cons r before ih =>
    rw [List.cons_append, findAndRemoveRequestFromList, if_neg (hbefore r List.mem_cons_self),
      ih fun r' hr' => hbefore r' (List.mem_cons_of_mem r hr')]
    rfl

end Pending

/-- Every answer completes its request once and with its own payload, if and only if it is not
an answer to SEND_SMS with error -1 that is decoded twice, to two different results. -/
theorem solicited_completed_once_iff (decode : Decode ο τ) (icc : Bool)
    (pending : List (RilRequest μ)) (p : Parcel) :
    CompletedOnce decode pending p (processSolicited decode icc pending p) ↔
      ∀ rr, pending.find? (fun r => r.mSerial = serialOf p) = some rr →
        ¬ RereadsSms decode rr (errorOf p) (payloadOf p) := by
  constructor
  · intro h rr hfind hrereads
    obtain ⟨hserial, before, after, rfl, hbefore⟩ := List.find?_eq_some_iff_append.mp hfind
    have hserial : rr.mSerial = serialOf p := of_decide_eq_true hserial
    have hbefore : ∀ r ∈ before, r.mSerial ≠ serialOf p := by
      intro r hr heq
      have hno := hbefore r hr
      rw [decide_eq_true heq] at hno
      cases hno
    have hanswers := (h.expected before rr after rfl hserial hbefore).2
    rw [processSolicited, findAndRemove_append hserial hbefore] at hanswers
    exact respond_not_answers hrereads hanswers
  · intro h
    constructor
    · intro hnone
      rw [processSolicited, findAndRemove_none hnone]
      exact ⟨rfl, rfl⟩
    · rintro before rr after rfl hserial hbefore
      rw [processSolicited, findAndRemove_append hserial hbefore]
      refine ⟨rfl, respond_answers (h rr ?_)⟩
      refine List.find?_eq_some_iff_append.mpr ⟨decide_eq_true hserial, before, after, rfl, ?_⟩
      intro r hr
      rw [decide_eq_false (hbefore r hr)]
      rfl

/-! ## A message that was sent -/

/-- `SmsResponse` -/
structure SmsResponse where
  messageRef : BitVec 32
  ackPdu : Option (List (BitVec 16))
  errorCode : BitVec 32
  deriving DecidableEq

/-- `Parcel.readString`: the length, the characters and a zero, padded to four bytes; past the
end it is null. -/
def Parcel.readString (p : Parcel) : Option (List (BitVec 16)) × Parcel :=
  let r := p.readInt
  let size := ((r.1.toNat + 1) * 2 + 3) / 4 * 4
  if r.1.toNat < 2147483647 ∧ r.2.pos + size ≤ r.2.data.length then
    (some ((List.range r.1.toNat).map fun k => r.2.byte (2 * k + 1) ++ r.2.byte (2 * k)),
      { r.2 with pos := r.2.pos + size })
  else (none, r.2)

/-- The decoders of Android for a payload of this kind. -/
def androidDecode : Decode SmsResponse Unit
  | .responseSMS, p =>
    let messageRef := p.readInt
    let ackPdu := messageRef.2.readString
    let errorCode := ackPdu.2.readInt
    .ok (some ⟨messageRef.1, ackPdu.1, errorCode.1⟩, errorCode.2)
  | _, p => .ok (none, p)

/-- Serial 1, error -1, and message 5 without an acknowledgement. -/
def smsAnswer : Parcel :=
  ⟨[1, 0, 0, 0, 0xff, 0xff, 0xff, 0xff, 5, 0, 0, 0, 0xff, 0xff, 0xff, 0xff, 0, 0, 0, 0], 0⟩

/-- The request is completed with message 0. -/
theorem sendSms_reread :
    androidDecode .responseSMS (payloadOf smsAnswer) =
      .ok (some ⟨5, none, 0⟩, ⟨smsAnswer.data, 20⟩) ∧
    completions (processSolicited androidDecode true [⟨1, some .sendSms, some ()⟩]
      smsAnswer).events = [⟨(), some ⟨0, none, 0⟩, none⟩] ∧
    ¬ CompletedOnce androidDecode [⟨1, some .sendSms, some ()⟩] smsAnswer
      (processSolicited androidDecode true [⟨1, some .sendSms, some ()⟩] smsAnswer) := by
  have hdecode : androidDecode .responseSMS (payloadOf smsAnswer) =
      .ok (some ⟨5, none, 0⟩, ⟨smsAnswer.data, 20⟩) := rfl
  have hevents : completions (processSolicited androidDecode true [⟨1, some .sendSms, some ()⟩]
      smsAnswer).events = [⟨(), some ⟨0, none, 0⟩, none⟩] := rfl
  refine ⟨hdecode, hevents, fun h => ?_⟩
  have hanswers := (h.expected [] ⟨1, some .sendSms, some ()⟩ [] rfl rfl
    fun r hr => by cases hr).2
  obtain ⟨c, hc, -, hsuccess⟩ := hanswers.once () rfl
  rw [hevents] at hc
  obtain rfl := List.singleton_inj.mp hc
  obtain ⟨request, rest, hrequest, hresult⟩ := hsuccess rfl
  obtain rfl : Request.sendSms = request := Option.some.inj hrequest
  have heq : some (⟨5, none, 0⟩ : SmsResponse) = some ⟨0, none, 0⟩ :=
    congrArg Prod.fst (Except.ok.inj (hdecode.symm.trans hresult))
  exact absurd heq (by decide)

end Ancora.Ril.Solicited
