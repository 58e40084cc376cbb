import ArchosGpl.Lib.Machine
import Mathlib.Algebra.Group.Nat.Defs
import Mathlib.Logic.Function.Basic

/-!
# Model of traffic admission (`stad/src/Sta_Management/qosMngr.c`, `trafficAdmControl.c`)

The QoS manager keeps for each access category the TSPEC in use and a candidate, and the total of
the medium time that the AP has granted. A candidate is negotiated by the admission control, which
sends an ADDTS request with a dialog token and waits for the response with a timer, or during a
reassociation, by an element of the association request.

A category's timer is running or not. Of the AP's WME parameters only the admission rules are in the
model, and they are taken to be in range. What goes to the data path and to the firmware is left
out.
-/

open Function (update)

namespace ArchosGpl.Wlan.QosMngr

inductive EAcTrfcType
  | be
  | bk
  | vi
  | vo
  deriving DecidableEq

/-- The access categories in their order. -/
def acs : List EAcTrfcType := [.be, .bk, .vi, .vo]

def wmeQosTagToAcTable : ℕ → EAcTrfcType
  | 0 | 3 => .be
  | 1 | 2 => .bk
  | 4 | 5 => .vi
  | _ => .vo

inductive ETrafficAdmState
  | notAdmitted
  | waitAdmission
  | admitted
  deriving DecidableEq

inductive EQosProtocol
  | none
  | wme
  deriving DecidableEq

/-- `PSScheme_e`, as far as it is asked for. -/
inductive PsScheme
  | legacy
  | upsdTrigger
  deriving DecidableEq

inductive Status
  | ok
  | nok
  | notConnected
  | trafficAdmPending
  | noQosAp
  | admCtrlDisable
  | acAlreadyInUse
  | userPriorityNotAdmitted
  deriving DecidableEq

structure TspecParams where
  uUserPriority : ℕ
  uNominalMsduSize : ℕ
  uMeanDataRate : ℕ
  uMinimumPhyRate : ℕ
  uSurplusBandwidthAllowance : ℕ
  uApsdFlag : ℕ
  uMinimumServiceInterval : ℕ
  uMaximumServiceInterval : ℕ
  uMediumTime : ℕ
  deriving DecidableEq

structure TspecInfo where
  ac : EAcTrfcType
  tid : ℕ
  userPriority : ℕ
  nominalMsduSize : ℕ
  meanDataRate : ℕ
  surplusBwAllowance : ℕ
  minimumPhyRate : ℕ
  mediumTime : ℕ
  upsdFlag : ℕ
  uMinimumServiceInterval : ℕ
  uMaximumServiceInterval : ℕ
  streamDirection : ℕ
  trafficAdmState : ETrafficAdmState
  statusCode : ℕ
  deriving DecidableEq

/-- The fields of a received TSPEC element, before they are cut to their widths. -/
structure TspecIe where
  tsid : ℕ
  direction : ℕ
  apsd : ℕ
  userPriority : ℕ
  nominalMsduSize : ℕ
  minimumServiceInterval : ℕ
  maximumServiceInterval : ℕ
  meanDataRate : ℕ
  minimumPhyRate : ℕ
  surplusBwAllowance : ℕ
  mediumTime : ℕ

def inactiveUserPriority : ℕ := 0xFF

def maxUserPriority : ℕ := 7

def fixedNominalMsduSizeMask : ℕ := 0x8000

def maxDataBodyLength : ℕ := 4096

def initialDialogToken : ℕ := 1

def biDirectional : ℕ := 3

/-- `PS_SCHEME_UPSD_TRIGGER`, in a request. -/
def psSchemeUpsdTrigger : ℕ := 1

/-- A size without the bit of `FIXED_NOMINAL_MSDU_SIZE_MASK`. -/
def withoutFixedMask (size : ℕ) : ℕ := size - (size &&& fixedNominalMsduSizeMask)

/-- `trafficAdmCtrl_parseTspecIE`, with the status code of the frame. -/
def parseTspecIe (ie : TspecIe) (statusCode : ℕ) : TspecInfo where
  ac := wmeQosTagToAcTable (ie.userPriority % 8)
  tid := ie.tsid % 16
  userPriority := ie.userPriority % 8
  nominalMsduSize := ie.nominalMsduSize % 2 ^ 16
  meanDataRate := ie.meanDataRate % 2 ^ 32
  surplusBwAllowance := ie.surplusBwAllowance % 2 ^ 16 / 2 ^ 13
  minimumPhyRate := ie.minimumPhyRate % 2 ^ 32
  mediumTime := ie.mediumTime % 2 ^ 16
  upsdFlag := ie.apsd % 2
  uMinimumServiceInterval := ie.minimumServiceInterval % 2 ^ 32
  uMaximumServiceInterval := ie.maximumServiceInterval % 2 ^ 32
  streamDirection := ie.direction % 4
  trafficAdmState := .notAdmitted
  statusCode := statusCode % 2 ^ 8

def storeTspecCandidateParams (candidate : TspecInfo) (params : TspecParams) (ac : EAcTrfcType) :
    TspecInfo :=
  { candidate with
    ac := ac
    tid := params.uUserPriority % 2 ^ 8
    userPriority := params.uUserPriority % 2 ^ 8
    meanDataRate := params.uMeanDataRate
    nominalMsduSize := params.uNominalMsduSize % 2 ^ 16 ||| fixedNominalMsduSizeMask
    upsdFlag := params.uApsdFlag
    uMinimumServiceInterval := params.uMinimumServiceInterval
    uMaximumServiceInterval := params.uMaximumServiceInterval
    surplusBwAllowance := params.uSurplusBandwidthAllowance % 2 ^ 16
    minimumPhyRate := params.uMinimumPhyRate
    streamDirection := biDirectional
    mediumTime := 0 }

/-- The parameters of a TSPEC, as they are kept for a renegotiation. -/
def TspecInfo.params (info : TspecInfo) : TspecParams where
  uUserPriority := info.userPriority
  uNominalMsduSize := info.nominalMsduSize
  uMeanDataRate := info.meanDataRate
  uMinimumPhyRate := info.minimumPhyRate
  uSurplusBandwidthAllowance := info.surplusBwAllowance
  uApsdFlag := info.upsdFlag
  uMinimumServiceInterval := info.uMinimumServiceInterval
  uMaximumServiceInterval := info.uMaximumServiceInterval
  uMediumTime := info.mediumTime

/-- No parameters but a user priority. -/
def TspecParams.only (userPriority : ℕ) : TspecParams := ⟨userPriority, 0, 0, 0, 0, 0, 0, 0, 0⟩

/-- What a TSPEC status event is about: the outcome of a request, a response that is not expected,
or a deletion by the AP. -/
inductive Report
  | accepted
  | invalid
  | rejected
  | timeout
  | unexpected
  | deletedByAp
  deriving DecidableEq

/-- What is seen from outside. -/
inductive Event
  /-- An ADDTS request is sent. -/
  | addtsRequest (ac : EAcTrfcType) (dialogToken : ℕ)
  | requestAnswer (userPriority : ℕ) (status : Status)
  | deleteAnswer (userPriority : ℕ) (status : Status)
  /-- `IPC_EVENT_TSPEC_STATUS`, with its reason code. -/
  | tspecStatus (ac : EAcTrfcType) (report : Report) (params : TspecParams) (uReasonCode : ℕ)
  | disconnected
  deriving DecidableEq

/-- `trafficAdmCtrl_smState_t`. -/
inductive SmState
  | idle
  | wait
  deriving DecidableEq

/-- The fields of `qosMngr_t` and `trafficAdmCtrl_t` that admission uses, and the log. -/
structure Sys where
  isConnected : Bool
  activeProtocol : EQosProtocol
  trafficAdmCtrlEnable : Bool
  currentPsMode : PsScheme
  apAdmissionRequired : EAcTrfcType → Bool
  currentTspecInfo : EAcTrfcType → TspecInfo
  candidateTspecInfo : EAcTrfcType → TspecInfo
  totalAllocatedMediumTime : ℕ
  voiceTspecConfigured : Bool
  videoTspecConfigured : Bool
  performTspecRenegotiation : Bool
  tspecRenegotiationParams : EAcTrfcType → TspecParams
  currentState : EAcTrfcType → SmState
  dialogToken : EAcTrfcType → ℕ
  dialogTokenCounter : ℕ
  timer : EAcTrfcType → Bool
  log : List Event

namespace Sys

def setCurrent (s : Sys) (ac : EAcTrfcType) (info : TspecInfo) : Sys :=
  { s with currentTspecInfo := update s.currentTspecInfo ac info }

def setCandidate (s : Sys) (ac : EAcTrfcType) (info : TspecInfo) : Sys :=
  { s with candidateTspecInfo := update s.candidateTspecInfo ac info }

def setCandidateState (s : Sys) (ac : EAcTrfcType) (state : ETrafficAdmState) : Sys :=
  s.setCandidate ac { s.candidateTspecInfo ac with trafficAdmState := state }

def setTimer (s : Sys) (ac : EAcTrfcType) (running : Bool) : Sys :=
  { s with timer := update s.timer ac running }

/-- `EvHandlerSendEvent` and what else is seen. -/
def tell (s : Sys) (e : Event) : Sys := { s with log := s.log ++ [e] }

/-! ## The QoS manager's tables -/

def resetTspec (info : TspecInfo) : TspecInfo :=
  { info with
    nominalMsduSize := 0
    minimumPhyRate := 0
    meanDataRate := 0
    surplusBwAllowance := 0
    mediumTime := 0
    upsdFlag := 0
    uMinimumServiceInterval := 0
    uMaximumServiceInterval := 0
    streamDirection := biDirectional }

def resetAdmCtrlParameters (s : Sys) : Sys :=
  { s with
    currentTspecInfo := fun ac => { resetTspec (s.currentTspecInfo ac) with
      ac := ac, userPriority := inactiveUserPriority, trafficAdmState := .notAdmitted }
    candidateTspecInfo := fun ac => { resetTspec (s.candidateTspecInfo ac) with
      ac := ac, userPriority := inactiveUserPriority, trafficAdmState := .notAdmitted }
    totalAllocatedMediumTime := 0 }

/-- `setNonQosAdmissionState` for every category. -/
def setNonQosAdmissionState (s : Sys) : Sys :=
  { s with
    apAdmissionRequired := fun ac => ac ≠ .be
    currentTspecInfo := fun ac => { s.currentTspecInfo ac with
      trafficAdmState := if ac = .be then .admitted else .notAdmitted } }

/-- `deleteTspecConfiguration`: the parameters are zeroed, the total is updated, then the state and
the user priority. -/
def deleteTspecConfiguration (s : Sys) (ac : EAcTrfcType) : Sys :=
  let s := s.setCurrent ac (resetTspec (s.currentTspecInfo ac))
  let s := { s with totalAllocatedMediumTime :=
    (s.totalAllocatedMediumTime + 2 ^ 16 - (s.currentTspecInfo ac).mediumTime) % 2 ^ 16 }
  let s := s.setCurrent ac { s.currentTspecInfo ac with
    trafficAdmState := if s.apAdmissionRequired ac then .notAdmitted else .admitted
    userPriority := inactiveUserPriority }
  { s with
    voiceTspecConfigured := s.voiceTspecConfigured && ac ≠ .vo
    videoTspecConfigured := s.videoTspecConfigured && ac ≠ .vi }

def responseParams (info : TspecInfo) (userPriority : ℕ) : TspecParams :=
  { info.params with
    uUserPriority := userPriority
    uNominalMsduSize := withoutFixedMask info.nominalMsduSize }

/-- `trafficAdmRequestStatus_e`. -/
inductive RequestStatus
  | accept
  | reject
  | timeout

/-- The case `STATUS_TRAFFIC_ADM_REQUEST_ACCEPT` of `qosMngr_setAdmissionInfo`. -/
def setAccepted (s : Sys) (ac : EAcTrfcType) (info : TspecInfo) : Sys :=
  let params := responseParams info info.userPriority
  let s := s.setCandidateState ac .notAdmitted
  if info.tid = (s.candidateTspecInfo ac).tid then
    let s := s.tell (.tspecStatus ac .accepted params 0)
    { s.setCurrent ac { info with trafficAdmState := .admitted } with
      totalAllocatedMediumTime := (s.totalAllocatedMediumTime + info.mediumTime) % 2 ^ 16 }
  else s.tell (.tspecStatus ac .invalid params 253)

def setAdmissionInfo (s : Sys) (ac : EAcTrfcType) (info : TspecInfo) (status : RequestStatus) :
    Sys :=
  let candidate := s.candidateTspecInfo ac
  if candidate.trafficAdmState ≠ .waitAdmission then s
  else
    match status with
    | .accept => s.setAccepted ac info
    | .reject =>
      (s.setCandidateState ac .notAdmitted).tell
        (.tspecStatus ac .rejected (responseParams info candidate.userPriority)
          (if info.tid = candidate.tid then info.statusCode else 253))
    | .timeout =>
      (s.setCandidateState ac .notAdmitted).tell
        (.tspecStatus ac .timeout (.only candidate.userPriority) 254)

def sendUnexpectedTspecResponseEvent (s : Sys) (info : TspecInfo) : Sys :=
  s.tell (.tspecStatus info.ac .unexpected info.params (info.statusCode + 0x1000))

/-! ## Admission control -/

/-- `trafficAdmCtrl_sendAdmissionReq`; a frame needs a buffer and its header. -/
def sendAdmissionReq (s : Sys) (ac : EAcTrfcType) (frame : Bool) : Sys × Status :=
  if frame then
    ({ s with
        dialogToken := update s.dialogToken ac s.dialogTokenCounter
        dialogTokenCounter := (s.dialogTokenCounter + 1) % 2 ^ 8 }.tell
      (.addtsRequest ac s.dialogTokenCounter), .ok)
  else (s, .nok)

/-- `trafficAdmCtrl_smEvents_t`, with what the action uses. -/
inductive SmEvent
  | start (frame : Bool)
  | stop
  | accept (info : TspecInfo)
  | reject (info : TspecInfo)
  | timeout (info : TspecInfo)

/-- The next state of the matrix: in `WAIT` every event but `START` goes to `IDLE`. -/
def nextState : SmState → SmEvent → SmState
  | .idle, .start _ => .wait
  | .idle, _ => .idle
  | .wait, .start _ => .wait
  | .wait, _ => .idle

/-- `trafficAdmCtrl_smStart`. -/
def smStart (s : Sys) (ac : EAcTrfcType) (frame : Bool) : Sys × Status :=
  let (s, status) := s.sendAdmissionReq ac frame
  if status ≠ .ok then (s, status) else (s.setTimer ac true, .ok)

def act (s : Sys) (ac : EAcTrfcType) : SmState → SmEvent → Sys × Status
  | .idle, .start frame => s.smStart ac frame
  | .idle, .stop => (s, .ok)
  | .idle, .accept info => (s.sendUnexpectedTspecResponseEvent info, .ok)
  | .idle, .reject info => (s.sendUnexpectedTspecResponseEvent info, .ok)
  | .idle, .timeout _ => (s, .ok)
  | .wait, .start _ => (s, .ok)
  | .wait, .stop => (s.setTimer ac false, .ok)
  | .wait, .accept info => (s.setAdmissionInfo ac info .accept, .ok)
  | .wait, .reject info => (s.setAdmissionInfo ac info .reject, .ok)
  | .wait, .timeout info => (s.setAdmissionInfo ac info .timeout, .ok)

/-- `trafficAdmCtrl_smEvent`: the state changes before the action. -/
def smEvent (s : Sys) (ac : EAcTrfcType) (e : SmEvent) : Sys × Status :=
  { s with
    currentState := update s.currentState ac (nextState (s.currentState ac) e) }.act ac
      (s.currentState ac) e

def trafficAdmCtrlStop (s : Sys) : Sys :=
  { acs.foldl (fun s ac => (s.smEvent ac .stop).1) s with
    dialogToken := fun _ => 0
    dialogTokenCounter := initialDialogToken }

/-- `trafficAdmCtrl_recv` for an ADDTS response. -/
def trafficAdmCtrlRecv (s : Sys) (dialogToken statusCode : ℕ) (ie : TspecIe) : Sys :=
  let info := parseTspecIe ie statusCode
  if ∀ ac ∈ acs, s.dialogToken ac ≠ dialogToken then s.sendUnexpectedTspecResponseEvent info
  else if s.dialogToken info.ac ≠ dialogToken then s.sendUnexpectedTspecResponseEvent info
  else if info.statusCode ≠ 0 then ((s.setTimer info.ac false).smEvent info.ac (.reject info)).1
  else ((s.setTimer info.ac false).smEvent info.ac (.accept info)).1

/-! ## Requests -/

/-- The checks of `qosMngr_requestAdmission`. -/
def checkRequest (s : Sys) (params : TspecParams) : Status :=
  let ac := wmeQosTagToAcTable params.uUserPriority
  let current := s.currentTspecInfo ac
  if s.isConnected = false then .notConnected
  else if s.activeProtocol ≠ .wme then .noQosAp
  else if s.trafficAdmCtrlEnable = false then .admCtrlDisable
  else if maxUserPriority < params.uUserPriority then .nok
  else if (s.candidateTspecInfo ac).trafficAdmState = .waitAdmission then .trafficAdmPending
  else if current.trafficAdmState = .admitted ∧ current.userPriority ≤ maxUserPriority ∧
      current.userPriority ≠ params.uUserPriority then .acAlreadyInUse
  else if maxDataBodyLength < withoutFixedMask params.uNominalMsduSize then .nok
  else if params.uApsdFlag = psSchemeUpsdTrigger ∧ s.currentPsMode ≠ .upsdTrigger then .nok
  else .ok

/-- `qosMngr_requestAdmission`; `frame` says whether the ADDTS frame can be made. -/
def requestAdmission (s : Sys) (params : TspecParams) (frame : Bool) : Sys :=
  let ac := wmeQosTagToAcTable params.uUserPriority
  let status := s.checkRequest params
  if status ≠ .ok then s.tell (.requestAnswer params.uUserPriority status)
  else
    let s := s.setCandidate ac (storeTspecCandidateParams (s.candidateTspecInfo ac) params ac)
    let s : Sys := { s with
      voiceTspecConfigured := s.voiceTspecConfigured || decide (ac = .vo)
      videoTspecConfigured := s.videoTspecConfigured || decide (ac = .vi) }
    let (s, status) := s.smEvent ac (.start frame)
    if status = Status.ok then
      (s.setCandidateState ac .waitAdmission).tell (.requestAnswer params.uUserPriority .ok)
    else (s.setCandidateState ac .notAdmitted).tell (.requestAnswer params.uUserPriority .nok)

/-- The checks of `qosMngr_deleteAdmission`. -/
def checkDelete (s : Sys) (userPriority : ℕ) : Status :=
  let ac := wmeQosTagToAcTable userPriority
  if maxUserPriority < userPriority then .nok
  else if s.isConnected = false then .notConnected
  else if s.activeProtocol ≠ .wme then .noQosAp
  else if (s.currentTspecInfo ac).trafficAdmState ≠ .admitted then .nok
  else if (s.currentTspecInfo ac).userPriority ≠ userPriority then .userPriorityNotAdmitted
  else if (s.candidateTspecInfo ac).trafficAdmState = .waitAdmission then .trafficAdmPending
  else .ok

def deleteAdmission (s : Sys) (userPriority : ℕ) : Sys :=
  let status := s.checkDelete userPriority
  let s := if status = .ok then s.deleteTspecConfiguration (wmeQosTagToAcTable userPriority) else s
  s.tell (.deleteAnswer userPriority status)

/-- The first check of `QosMngr_receiveActionFrames`. -/
def takesActionFrames (s : Sys) : Bool :=
  s.isConnected && s.activeProtocol = .wme && s.trafficAdmCtrlEnable

/-- `QosMngr_receiveActionFrames` for a DELTS frame. -/
def receiveDelts (s : Sys) (userPriority : ℕ) : Sys :=
  let userPriority := userPriority % 8
  let ac := wmeQosTagToAcTable userPriority
  if s.takesActionFrames = true ∧ (s.currentTspecInfo ac).trafficAdmState = .admitted ∧
      (s.currentTspecInfo ac).userPriority = userPriority then
    (s.deleteTspecConfiguration ac).tell (.tspecStatus ac .deletedByAp (.only userPriority) 255)
  else s

/-- `QosMngr_receiveActionFrames` for an ADDTS response. -/
def receiveAddtsResponse (s : Sys) (dialogToken statusCode : ℕ) (ie : TspecIe) : Sys :=
  if s.takesActionFrames then s.trafficAdmCtrlRecv dialogToken statusCode ie else s

/-! ## Connection and renegotiation -/

def selectActiveProtocol (s : Sys) (supported : Bool) : Sys :=
  { s with activeProtocol := if supported then .wme else .none }

/-- `updateACParams`: the AP says which categories need admission. -/
def updateAcParams (s : Sys) (required : EAcTrfcType → Bool) : Sys :=
  { s with
    apAdmissionRequired := required
    currentTspecInfo := fun ac => { s.currentTspecInfo ac with
      trafficAdmState := if required ac then .notAdmitted else .admitted } }

def updateIeInfo (s : Sys) (required : EAcTrfcType → Bool) : Sys :=
  if s.activeProtocol = .wme then s.updateAcParams required else s

def disconnect (s : Sys) : Sys :=
  let s := { s with activeProtocol := .none }.resetAdmCtrlParameters.trafficAdmCtrlStop
  { s.setNonQosAdmissionState with
    isConnected := false
    voiceTspecConfigured := false
    videoTspecConfigured := false }.tell .disconnected

/-- `QOS_MNGR_VOICE_RE_NEGOTIATE_TSPEC` of `qosMngr_getParams`: the candidates of voice and video
are kept. -/
def keepTspecs (s : Sys) : Sys :=
  let voice := if s.voiceTspecConfigured then (s.candidateTspecInfo .vo).params
    else { s.tspecRenegotiationParams .vo with uUserPriority := maxUserPriority }
  let video := if s.videoTspecConfigured then (s.candidateTspecInfo .vi).params
    else { s.tspecRenegotiationParams .vi with uUserPriority := maxUserPriority }
  { s with tspecRenegotiationParams :=
      update (update s.tspecRenegotiationParams .vo voice) .vi video }

/-- `QOS_MNGR_VOICE_RE_NEGOTIATE_TSPEC` of `qosMngr_setParams`. -/
def setRenegotiation (s : Sys) (voice video : Bool) : Sys :=
  { s with performTspecRenegotiation := voice || video }

def buildTspec (s : Sys) (ac : EAcTrfcType) : Sys :=
  let params := s.tspecRenegotiationParams ac
  if params.uUserPriority ≠ maxUserPriority then
    s.setCandidate ac { storeTspecCandidateParams (s.candidateTspecInfo ac) params ac with
      trafficAdmState := .waitAdmission }
  else s

def renegotiatesVideo (s : Sys) : Bool :=
  (s.tspecRenegotiationParams .vi).uUserPriority ≠ maxUserPriority

/-- An element of the association response is a result. -/
def acceptRenegotiated (s : Sys) (ie : TspecIe) : Sys :=
  let info := parseTspecIe ie 0
  s.setAdmissionInfo info.ac info .accept

def rejectRenegotiated (s : Sys) (ac : EAcTrfcType) : Sys :=
  s.setAdmissionInfo ac (s.candidateTspecInfo ac) .reject

def checkTspecRenegResults (s : Sys) (voice signal : Option TspecIe) : Sys :=
  if s.performTspecRenegotiation = false then s
  else
    match voice, signal with
    | none, none =>
      let s := s.rejectRenegotiated .vo
      if s.renegotiatesVideo then s.rejectRenegotiated .vi else s
    | voice, signal =>
      let s := match voice with
        | some ie => { s with voiceTspecConfigured := true }.acceptRenegotiated ie
        | none => s
      match signal with
      | some ie => { s with videoTspecConfigured := true }.acceptRenegotiated ie
      | none => if s.renegotiatesVideo then s.rejectRenegotiated .vi else s

/-- `qosMngr_setSite` for an association response, with or without the AP's WME parameters. -/
def setSite (s : Sys) (required : Option (EAcTrfcType → Bool)) (voice signal : Option TspecIe) :
    Sys :=
  let s := if s.activeProtocol = .wme then
      match required with
      | some required => s.updateAcParams required
      | none => { s with activeProtocol := .none }
    else s
  s.checkTspecRenegResults voice signal

/-! ## Runs -/

inductive Input
  | selectActiveProtocol (supported : Bool)
  | setSite (required : Option (EAcTrfcType → Bool)) (voice signal : Option TspecIe)
  /-- `qosMngr_connect`. -/
  | connect
  | updateIeInfo (required : EAcTrfcType → Bool)
  | disconnect
  | requestAdmission (params : TspecParams) (frame : Bool)
  | deleteAdmission (userPriority : ℕ)
  | addtsResponse (dialogToken statusCode : ℕ) (ie : TspecIe)
  | delts (userPriority : ℕ)
  /-- The timer of a category expires. -/
  | timeout (ac : EAcTrfcType)
  | keepTspecs
  | setRenegotiation (voice video : Bool)
  | buildTspec (ac : EAcTrfcType)
  /-- An association response that rejects. -/
  | checkTspecRenegResults (voice signal : Option TspecIe)

/-- `trafficAdmCtrl_timeoutAcBE` and the other three. -/
def timeoutAc (s : Sys) (ac : EAcTrfcType) : Sys :=
  ((s.setTimer ac false).smEvent ac (.timeout (s.candidateTspecInfo ac))).1

/-- One step. A timer expires that is running. -/
def step (s : Sys) : Input → Option Sys
  | .selectActiveProtocol supported => some (s.selectActiveProtocol supported)
  | .setSite required voice signal => some (s.setSite required voice signal)
  | .connect => some { s with isConnected := true }
  | .updateIeInfo required => some (s.updateIeInfo required)
  | .disconnect => some s.disconnect
  | .requestAdmission params frame => some (s.requestAdmission params frame)
  | .deleteAdmission userPriority => some (s.deleteAdmission userPriority)
  | .addtsResponse dialogToken statusCode ie =>
    some (s.receiveAddtsResponse dialogToken statusCode ie)
  | .delts userPriority => some (s.receiveDelts userPriority)
  | .timeout ac => if s.timer ac then some (s.timeoutAc ac) else none
  | .keepTspecs => some s.keepTspecs
  | .setRenegotiation voice video => some (s.setRenegotiation voice video)
  | .buildTspec ac => some (s.buildTspec ac)
  | .checkTspecRenegResults voice signal => some (s.checkTspecRenegResults voice signal)

/-- After `qosMngr_SetDefaults`. -/
def init (trafficAdmCtrlEnable : Bool) (currentPsMode : PsScheme) : Sys where
  isConnected := false
  activeProtocol := .none
  trafficAdmCtrlEnable := trafficAdmCtrlEnable
  currentPsMode := currentPsMode
  apAdmissionRequired := fun ac => ac ≠ .be
  currentTspecInfo := fun ac => ⟨ac, 0, inactiveUserPriority, 0, 0, 0, 0, 0, 0, 0, 0, biDirectional,
    if ac = .be then .admitted else .notAdmitted, 0⟩
  candidateTspecInfo := fun ac =>
    ⟨ac, 0, inactiveUserPriority, 0, 0, 0, 0, 0, 0, 0, 0, biDirectional, .notAdmitted, 0⟩
  totalAllocatedMediumTime := 0
  voiceTspecConfigured := false
  videoTspecConfigured := false
  performTspecRenegotiation := false
  tspecRenegotiationParams := fun _ => .only 0
  currentState := fun _ => .idle
  dialogToken := fun _ => 0
  dialogTokenCounter := initialDialogToken
  timer := fun _ => false
  log := []

end Sys

end ArchosGpl.Wlan.QosMngr
