import ArchosGpl.Lib.Machine
import Mathlib.Algebra.Group.Nat.Defs
import Mathlib.Data.Nat.Notation
import Mathlib.Tactic.TypeStar

/-!
# Model of the measurement service (`TWD/MacServices/MeasurementSrv.c`, `MeasurementSrvSM.c`)

The service runs one measurement at a time.

An action of the state machine sends the next event itself, so `smEvent` re-enters itself. The model
gives it a depth, which no chain of events exhausts (`Callbacks.lean`). What the other modules
answer within a call is an input (`Answers`). Beside the fields of `measurementSRV_t` the state has
the timers, whether the power server owes an answer, and the log. `R` are the command response
callbacks, `C` the complete callbacks; a callback that calls the service again does so at the end of
the call that makes it. How long the timers run is not in the model.
-/

namespace ArchosGpl.Wlan.MeasurementSrv

/-- `measurements_SRVSMStates_e`. -/
inductive SmState
  | idle
  | waitForDriverMode
  | waitForMeasureStart
  | measureInProgress
  | waitForMeasureStop
  deriving DecidableEq

/-- `measurement_SRVSMEvents_e`. -/
inductive SmEvent
  | measureStartRequest
  | driverModeSuccess
  | driverModeFailure
  | startSuccess
  | startFailure
  | allTypesComplete
  | stopComplete
  | measureStopRequest
  deriving DecidableEq

inductive Action
  | requestDriverMode
  | requestMeasureStart
  | startMeasureTypes
  | requestMeasureStop
  | completeMeasure
  | stopFromWaitForDriverMode
  | stopFromWaitForMeasureStart
  | stopFromMeasureInProgress
  | driverModeFailure
  | measureStartFailure
  | dummyStop
  | unexpected

/-- `smMatrix` of `measurementSRVSM_init`. -/
def smMatrix : SmState → SmEvent → SmState × Action
  | .idle, .measureStartRequest => (.waitForDriverMode, .requestDriverMode)
  | .idle, .measureStopRequest => (.idle, .dummyStop)
  | .waitForDriverMode, .driverModeSuccess => (.waitForMeasureStart, .requestMeasureStart)
  | .waitForDriverMode, .driverModeFailure => (.idle, .driverModeFailure)
  | .waitForDriverMode, .measureStopRequest => (.idle, .stopFromWaitForDriverMode)
  | .waitForMeasureStart, .startSuccess => (.measureInProgress, .startMeasureTypes)
  | .waitForMeasureStart, .startFailure => (.idle, .measureStartFailure)
  | .waitForMeasureStart, .stopComplete => (.idle, .completeMeasure)
  | .waitForMeasureStart, .measureStopRequest =>
    (.waitForMeasureStop, .stopFromWaitForMeasureStart)
  | .measureInProgress, .allTypesComplete => (.waitForMeasureStop, .requestMeasureStop)
  | .measureInProgress, .measureStopRequest => (.waitForMeasureStop, .stopFromMeasureInProgress)
  | .waitForMeasureStop, .stopComplete => (.idle, .completeMeasure)
  | .waitForMeasureStop, .measureStopRequest => (.waitForMeasureStop, .dummyStop)
  | _, _ => (.idle, .unexpected)

/-! ## Data -/

def tiOk : ℕ := 0

def tiNok : ℕ := 1

def msrRejectMaxDelayPassed : ℕ := 7

/-- `POWER_SAVE_802_11_PENDING` of `E80211PsStatus`. -/
def powerSave80211Pending : ℕ := 4

/-- `POWER_SAVE_802_11_IS_CURRENT` of `E80211PsStatus`. -/
def powerSave80211IsCurrent : ℕ := 5

def maxNumOfMsrTypesInParallel : ℕ := 3

def numOfNoiseHistogramCounters : ℕ := 8

def noiseHistogramThreshold : ℕ := 100

/-- `EMeasurementType`; another value is handled like the unsupported ones. -/
inductive EMeasurementType
  | basic
  | ccaLoad
  | noiseHistogram
  | beacon
  | frame
  deriving DecidableEq

structure TMeasurementTypeRequest where
  msrType : EMeasurementType
  duration : ℕ

/-- `TMeasurementRequest`; its array has `MAX_NUM_OF_MSR_TYPES_IN_PARALLEL` entries. -/
structure TMeasurementRequest where
  band : ℕ
  channel : ℕ
  eTag : ℕ
  numberOfTypes : ℕ
  msrTypes : ℕ → TMeasurementTypeRequest
  numberOfTypes_le : numberOfTypes ≤ maxNumOfMsrTypesInParallel

/-- `TMeasurementTypeReply`; `replyValue` are the bytes of its union. -/
structure TMeasurementTypeReply where
  msrType : EMeasurementType
  status : ℕ
  replyValue : ℕ → ℕ

structure TMeasurementReply where
  numberOfTypes : ℕ
  msrTypes : ℕ → TMeasurementTypeReply

structure TMediumOccupancy where
  mediumUsage : ℕ
  period : ℕ

structure TNoiseHistogramResults where
  counters : ℕ → ℕ
  numOfLostCycles : ℕ

/-- The statuses of `MacServices_measurementSRV_powerSaveCB`. -/
inductive PsStatus
  | enterFail
  | enterSuccess
  | exitFail
  | exitSuccess
  deriving DecidableEq

/-- `EventsPowerSave_enum`. -/
def PsStatus.code : PsStatus → ℕ
  | .enterFail => 0
  | .enterSuccess => 1
  | .exitFail => 2
  | .exitSuccess => 3

/-- The modes of `powerSrv_ReservePS` that the service asks for. -/
inductive E80211PsMode
  | on
  | keepCurrent
  deriving DecidableEq

/-- The options of the measurement command: the current ones, those of the serving channel, or those
for beacons and probe responses. -/
inductive RxOptions
  | current
  | join
  | beacons
  deriving DecidableEq

/-- What the other modules answer within one call: the clock, the channel, the power server, and the
command builder (for the start of a type by its index). -/
structure Answers where
  timeStampMs : ℕ
  currentChannel : ℕ
  reserve : ℕ
  measurement : ℕ
  measurementStop : ℕ
  startType : ℕ → ℕ
  stopNoiseHistogram : ℕ
  getParam : ℕ

/-- The arguments of `MacServices_measurementSRV_startMeasurement`. -/
structure StartRequest (R C : Type*) where
  msrRequest : TMeasurementRequest
  timeToRequestExpiryMs : ℕ
  receptionTimeStampMs : ℕ
  cmdResponse : Option R
  cmdComplete : C

/-- What is seen from outside. -/
inductive Act (R C : Type*)
  /-- A start request comes in. -/
  | start (cmdComplete : C)
  /-- A start request returns. -/
  | startReturned (status : ℕ)
  | reservePs (mode : E80211PsMode) (status : ℕ)
  | releasePs (bSendNullData : Bool)
  | cmdMeasurement (channel band eTag : ℕ) (options : RxOptions) (status : ℕ)
  | cmdMeasurementStop (cmdResponse : Option R) (status : ℕ)
  | startType (msrType : EMeasurementType) (status : ℕ)
  | stopType (msrType : EMeasurementType)
  | getResults (msrType : EMeasurementType) (status : ℕ)
  | cmdResponse (cb : R) (status : ℕ)
  | cmdComplete (cb : C) (reply : TMeasurementReply)
  | measurementFailure

/-- `measurementSRV_t`, with the timers, whether the power server owes an answer to the reservation,
and the log. -/
structure Sys (R C : Type*) where
  smState : SmState
  measurementComplete : Option C
  commandResponse : Option R
  bRequestTimerRunning : ℕ → Bool
  bStartStopTimerRunning : Bool
  bInRequest : Bool
  returnStatus : ℕ
  bSendNullDataWhenExitPs : Bool
  msrRequest : TMeasurementRequest
  msrReply : TMeasurementReply
  requestReceptionTimeStampMs : ℕ
  timeToRequestExpiryMs : ℕ
  pendingChannelLoad : Bool
  pendingNoiseHistogram : Bool
  requestTimer : ℕ → Bool
  startStopTimer : Bool
  psOwes : Bool
  log : List (Act R C)

namespace Sys

variable {R C : Type*}

/-- After `MacServices_measurementSRV_create` (all fields zero) and `_init`. -/
def init : Sys R C where
  smState := .idle
  measurementComplete := none
  commandResponse := none
  bRequestTimerRunning _ := false
  bStartStopTimerRunning := false
  bInRequest := false
  returnStatus := tiOk
  bSendNullDataWhenExitPs := false
  msrRequest := ⟨0, 0, 0, 0, fun _ => ⟨.basic, 0⟩, Nat.zero_le _⟩
  msrReply := ⟨0, fun _ => ⟨.basic, 0, fun _ => 0⟩⟩
  requestReceptionTimeStampMs := 0
  timeToRequestExpiryMs := 0
  pendingChannelLoad := false
  pendingNoiseHistogram := false
  requestTimer _ := false
  startStopTimer := false
  psOwes := false
  log := []

def emit (s : Sys R C) (a : Act R C) : Sys R C := { s with log := s.log ++ [a] }

/-- `if (bStartStopTimerRunning) { tmr_StopTimer; bStartStopTimerRunning = TI_FALSE; }`. -/
def stopStartStopTimer (s : Sys R C) : Sys R C :=
  if s.bStartStopTimerRunning then
    { s with startStopTimer := false, bStartStopTimerRunning := false }
  else s

def stopRequestTimers (s : Sys R C) : Sys R C :=
  { s with
    requestTimer := fun i => s.requestTimer i &&
      !(decide (i < maxNumOfMsrTypesInParallel) && s.bRequestTimerRunning i)
    bRequestTimerRunning := fun i =>
      s.bRequestTimerRunning i && !decide (i < maxNumOfMsrTypesInParallel) }

def startGuard (s : Sys R C) : Sys R C :=
  { s with bStartStopTimerRunning := true, startStopTimer := true }

/-- Set the status of the first `n` types of the reply. -/
def failTypes (s : Sys R C) (n status : ℕ) : Sys R C :=
  { s with msrReply := { s.msrReply with
      msrTypes := fun i =>
        if i < n then { s.msrReply.msrTypes i with status := status } else s.msrReply.msrTypes i } }

def failType (s : Sys R C) (requestIndex : ℕ) : Sys R C :=
  { s with msrReply := { s.msrReply with
      msrTypes := fun i =>
        if i = requestIndex then { s.msrReply.msrTypes i with status := tiNok }
        else s.msrReply.msrTypes i } }

/-- `cmdBld_CmdMeasurementStop` with the command response, which is passed on once. -/
def cmdMeasurementStop (s : Sys R C) (a : Answers) : Sys R C :=
  { s.emit (.cmdMeasurementStop s.commandResponse a.measurementStop) with commandResponse := none }

/-- Call the command response, where there is one; it stays. -/
def callResponse (s : Sys R C) (status : ℕ) : Sys R C :=
  match s.commandResponse with
  | some cb => s.emit (.cmdResponse cb status)
  | none => s

def callComplete (s : Sys R C) : Sys R C :=
  match s.measurementComplete with
  | some cb => s.emit (.cmdComplete cb s.msrReply)
  | none => s

/-- Mark that all types have failed and call the complete callback, where there is one. -/
def callCompleteFailed (s : Sys R C) : Sys R C :=
  if s.measurementComplete.isSome then (s.failTypes maxNumOfMsrTypesInParallel tiNok).callComplete
  else s

/-! ## The measurement types -/

/-- `measurementSRVIsBeaconMeasureIncluded`, which looks at the whole array. -/
def isBeaconMeasureIncluded (s : Sys R C) : Bool :=
  (List.range maxNumOfMsrTypesInParallel).any fun i =>
    decide ((s.msrRequest.msrTypes i).msrType = .beacon)

def isMeasurementComplete (s : Sys R C) : Bool :=
  (List.range s.msrRequest.numberOfTypes).all (fun i => !s.bRequestTimerRunning i) &&
    !s.pendingChannelLoad && !s.pendingNoiseHistogram

def findIndexByType (s : Sys R C) (type : EMeasurementType) : Option ℕ :=
  (List.range s.msrRequest.numberOfTypes).find? fun i =>
    decide ((s.msrRequest.msrTypes i).msrType = type)

/-- The loop of `measurementSRVFindMinDuration`: the minimum so far and its index. -/
def minDuration (s : Sys R C) (min : ℕ × ℕ) (i : ℕ) : ℕ × ℕ :=
  if s.bRequestTimerRunning i = true ∧
      (min.1 = 0 ∨ (s.msrRequest.msrTypes i).duration < min.1) then
    ((s.msrRequest.msrTypes i).duration, i)
  else min

def findMinDuration (s : Sys R C) : Option ℕ :=
  let (minValue, minIndex) :=
    (List.range s.msrRequest.numberOfTypes).foldl s.minDuration (0, 0)
  if minValue = 0 then none else some minIndex

def isSupported : EMeasurementType → Bool
  | .ccaLoad | .noiseHistogram | .beacon => true
  | .basic | .frame => false

/-- One pass of the loop of `measurementSRVSM_startMeasureTypes`. -/
def startMeasureType (a : Answers) (s : Sys R C) (requestIndex : ℕ) : Sys R C :=
  let msrType := (s.msrRequest.msrTypes requestIndex).msrType
  if isSupported msrType then
    let s := s.emit (.startType msrType (a.startType requestIndex))
    if a.startType requestIndex = tiOk then
      { s with
        requestTimer := fun i => decide (i = requestIndex) || s.requestTimer i
        bRequestTimerRunning := fun i => decide (i = requestIndex) || s.bRequestTimerRunning i }
    else s
  else s

/-- One pass of the loop of `measurementSRVSM_stopFromMeasureInProgress`. -/
def stopMeasureType (s : Sys R C) (i : ℕ) : Sys R C :=
  if s.bRequestTimerRunning i then
    let s := { s with
      requestTimer := fun j => s.requestTimer j && !decide (j = i)
      bRequestTimerRunning := fun j => s.bRequestTimerRunning j && !decide (j = i) }
    let msrType := (s.msrRequest.msrTypes i).msrType
    let s := if msrType = .beacon ∨ msrType = .noiseHistogram then s.emit (.stopType msrType) else s
    s.failType i
  else s

def handleBeaconMsrComplete (s : Sys R C) : Sys R C := s.emit (.stopType .beacon)

def handleChannelLoadComplete (a : Answers) (s : Sys R C) (requestIndex : ℕ) : Sys R C :=
  let s := s.emit (.getResults .ccaLoad a.getParam)
  if a.getParam ≠ tiOk then s.failType requestIndex
  else { s with pendingChannelLoad := true }

def handleNoiseHistogramComplete (a : Answers) (s : Sys R C) (requestIndex : ℕ) : Sys R C :=
  let s := s.emit (.stopType .noiseHistogram)
  let s := if a.stopNoiseHistogram ≠ tiOk then s.failType requestIndex else s
  let s := s.emit (.getResults .noiseHistogram a.getParam)
  if a.getParam = tiOk then { s with pendingNoiseHistogram := true } else s.failType requestIndex

/-! ## The actions

`self` is `measurementSRVSM_SMEvent`. -/

section Actions

variable (self : Sys R C → SmEvent → Sys R C) (a : Answers) (s : Sys R C)

/-- The request has waited too long: `requestRecptionTimeStampMs + timeToRequestExpiryMs` has
passed, where the sum is taken in 32 bits. -/
def hasExpired : Bool :=
  decide ((s.requestReceptionTimeStampMs + s.timeToRequestExpiryMs) % 2 ^ 32 < a.timeStampMs)

def requestDriverMode : Sys R C :=
  let mode : E80211PsMode :=
    if a.currentChannel = s.msrRequest.channel then .keepCurrent else .on
  let s := s.emit (.reservePs mode a.reserve)
  if a.reserve = powerSave80211IsCurrent then self s .driverModeSuccess
  else if a.reserve = powerSave80211Pending ∨ a.reserve = tiOk then { s with psOwes := true }
  else self { s with returnStatus := a.reserve } .driverModeFailure

def rxOptions : RxOptions :=
  if s.isBeaconMeasureIncluded then
    if a.currentChannel = s.msrRequest.channel then .join else .beacons
  else .current

def requestMeasureStart : Sys R C :=
  if s.hasExpired a then
    self (s.failTypes s.msrRequest.numberOfTypes tiNok) .stopComplete
  else
    let s := s.emit (.cmdMeasurement s.msrRequest.channel s.msrRequest.band s.msrRequest.eTag
      (s.rxOptions a) a.measurement)
    if a.measurement ≠ tiOk then self { s with returnStatus := a.measurement } .startFailure
    else s.startGuard

def startMeasureTypes : Sys R C :=
  if s.hasExpired a then
    self (s.failTypes s.msrRequest.numberOfTypes msrRejectMaxDelayPassed) .allTypesComplete
  else
    let s := (List.range s.msrRequest.numberOfTypes).foldl (startMeasureType a) s
    if s.isMeasurementComplete then self s .allTypesComplete else s

/-- The end of `measurementSRVSM_requestMeasureStop` and `_stopFromMeasureInProgress`: the stop
command. -/
def sendMeasureStop : Sys R C :=
  let s := s.cmdMeasurementStop a
  if a.measurementStop ≠ tiOk then self s .stopComplete else s.startGuard

def requestMeasureStop : Sys R C := s.stopStartStopTimer.sendMeasureStop self a

/-- `powerSrv_ReleasePS` with no callback: the power server owes nothing any more. -/
def releasePs : Sys R C :=
  { s.emit (.releasePs s.bSendNullDataWhenExitPs) with psOwes := false }

def completeMeasure : Sys R C := (s.releasePs.callResponse tiOk).callComplete

/-- `measurementSRVSM_stopFromWaitForDriverMode`: the command response is called, or passed to the
firmware with a stop command within a request. -/
def stopFromWaitForDriverMode : Sys R C :=
  let s := s.releasePs
  let s :=
    if s.commandResponse.isSome then
      if s.bInRequest then s.cmdMeasurementStop a
      else { s.callResponse tiOk with commandResponse := none }
    else s
  s.callCompleteFailed

def stopFromWaitForMeasureStart : Sys R C :=
  (s.failTypes s.msrRequest.numberOfTypes tiNok).requestMeasureStop self a

def stopFromMeasureInProgress : Sys R C :=
  ((List.range s.msrRequest.numberOfTypes).foldl stopMeasureType s).sendMeasureStop self a

def callFailed : Sys R C :=
  if s.bInRequest then s else (s.callResponse tiNok).callCompleteFailed

def driverModeFailure : Sys R C := s.callFailed

def measureStartFailure : Sys R C := s.releasePs.callFailed

def dummyStop : Sys R C := s.cmdMeasurementStop a

def actionUnexpected : Sys R C :=
  { s.stopStartStopTimer.stopRequestTimers with commandResponse := none, returnStatus := tiNok }

def act : Action → Sys R C
  | .requestDriverMode => s.requestDriverMode self a
  | .requestMeasureStart => s.requestMeasureStart self a
  | .startMeasureTypes => s.startMeasureTypes self a
  | .requestMeasureStop => s.requestMeasureStop self a
  | .completeMeasure => s.completeMeasure
  | .stopFromWaitForDriverMode => s.stopFromWaitForDriverMode a
  | .stopFromWaitForMeasureStart => s.stopFromWaitForMeasureStart self a
  | .stopFromMeasureInProgress => s.stopFromMeasureInProgress self a
  | .driverModeFailure => s.driverModeFailure
  | .measureStartFailure => s.measureStartFailure
  | .dummyStop => s.dummyStop a
  | .unexpected => s.actionUnexpected

end Actions

/-- `measurementSRVSM_SMEvent`, which changes the state before the action, to a depth of calls. -/
def smEventTo (a : Answers) : ℕ → Sys R C → SmEvent → Sys R C
  | 0, s, _ => s
  | depth + 1, s, e =>
    act (smEventTo a depth) a { s with smState := (smMatrix s.smState e).1 }
      (smMatrix s.smState e).2

/-- `measurementSRVSM_SMEvent`: no call goes deeper. -/
def smEvent (a : Answers) (s : Sys R C) (e : SmEvent) : Sys R C := smEventTo a 3 s e

/-! ## The calls to the service -/

/-- The fields that `MacServices_measurementSRV_startMeasurement` sets. -/
def copyRequest (s : Sys R C) (req : StartRequest R C) : Sys R C :=
  { s with
    bInRequest := true
    bSendNullDataWhenExitPs := true
    returnStatus := tiOk
    msrRequest := req.msrRequest
    requestReceptionTimeStampMs := req.receptionTimeStampMs
    timeToRequestExpiryMs := req.timeToRequestExpiryMs
    commandResponse := req.cmdResponse
    measurementComplete := some req.cmdComplete
    msrReply :=
      { numberOfTypes := req.msrRequest.numberOfTypes
        msrTypes := fun i =>
          if i < req.msrRequest.numberOfTypes then
            ⟨(req.msrRequest.msrTypes i).msrType, tiOk, (s.msrReply.msrTypes i).replyValue⟩
          else s.msrReply.msrTypes i }
    pendingChannelLoad := false
    pendingNoiseHistogram := false }

def startMeasurement (a : Answers) (s : Sys R C) (req : StartRequest R C) : Sys R C :=
  let s := ((s.copyRequest req).emit (.start req.cmdComplete)).smEvent a .measureStartRequest
  { s with bInRequest := false }.emit (.startReturned s.returnStatus)

def stopMeasurement (a : Answers) (s : Sys R C) (bSendNullData : Bool) (cmdResponse : Option R) :
    Sys R C :=
  let s := { s with
    commandResponse := cmdResponse
    bSendNullDataWhenExitPs := bSendNullData
    returnStatus := tiOk
    bInRequest := true }
  { s.smEvent a .measureStopRequest with bInRequest := false }

/-- `MacServices_measurementSRV_FWReset`. -/
def fwReset (s : Sys R C) : Sys R C :=
  { s.stopStartStopTimer.stopRequestTimers with smState := .idle }

def powerSaveCb (a : Answers) (s : Sys R C) (psStatus : PsStatus) : Sys R C :=
  let s := { s with psOwes := false }
  if psStatus = .enterSuccess then s.smEvent a .driverModeSuccess
  else { s with returnStatus := psStatus.code }.smEvent a .driverModeFailure

def measureStartCb (a : Answers) (s : Sys R C) : Sys R C :=
  { s with
    startStopTimer := false
    bStartStopTimerRunning := false
    commandResponse := none }.smEvent a .startSuccess

def measureCompleteCb (a : Answers) (s : Sys R C) : Sys R C :=
  { s with startStopTimer := false, bStartStopTimerRunning := false }.smEvent a .stopComplete

def requestMeasureStartResponseCb (a : Answers) (s : Sys R C) (mboxStatus : ℕ) : Sys R C :=
  if mboxStatus = tiOk then s.callResponse tiOk
  else s.stopStartStopTimer.stopRequestTimers.smEvent a .startFailure

def startStopTimerExpired (s : Sys R C) : Sys R C :=
  ({ { s with startStopTimer := false, bStartStopTimerRunning := false }.stopRequestTimers with
    smState := .idle } : Sys R C).emit .measurementFailure

/-- The end of the callbacks below. -/
def checkComplete (a : Answers) (s : Sys R C) : Sys R C :=
  if s.isMeasurementComplete then s.smEvent a .allTypesComplete else s

/-- `MacServices_measurementSRV_requestTimerExpired`, where the timer with an index expires. The
function looks for the index itself. -/
def requestTimerExpired (a : Answers) (s : Sys R C) (expired : ℕ) : Sys R C :=
  let s := { s with requestTimer := fun i => s.requestTimer i && !decide (i = expired) }
  match s.findMinDuration with
  | none => s
  | some requestIndex =>
    let s := { s with
      bRequestTimerRunning := fun i =>
        s.bRequestTimerRunning i && !decide (i = requestIndex) }
    let s := match (s.msrRequest.msrTypes requestIndex).msrType with
      | .beacon => s.handleBeaconMsrComplete
      | .ccaLoad => s.handleChannelLoadComplete a requestIndex
      | .noiseHistogram => s.handleNoiseHistogramComplete a requestIndex
      | .basic | .frame => s
    s.checkComplete a

def setReplyValue (s : Sys R C) (requestIndex : ℕ) (replyValue : ℕ → ℕ) : Sys R C :=
  { s with msrReply := { s.msrReply with
      msrTypes := fun i =>
        if i = requestIndex then { s.msrReply.msrTypes i with replyValue := replyValue }
        else s.msrReply.msrTypes i } }

/-- The fraction of `MacServices_measurementSRV_channelLoadParamCB`, in 32 bits, and the byte of
it that is stored. -/
def ccaBusyFraction (results : TMediumOccupancy) (duration : ℕ) : ℕ :=
  let divisor :=
    if results.period / 1000 ≤ duration then results.period else duration * 1000 % 2 ^ 32
  255 * results.mediumUsage % 2 ^ 32 / divisor % 2 ^ 8

def channelLoadParamCb (a : Answers) (s : Sys R C) (status : ℕ) (results : TMediumOccupancy) :
    Sys R C :=
  let s := { s with pendingChannelLoad := false }
  match s.findIndexByType .ccaLoad with
  | none => s
  | some requestIndex =>
    let s :=
      if status = tiOk ∧ results.period ≠ 0 then
        let value := ccaBusyFraction results (s.msrRequest.msrTypes requestIndex).duration
        s.setReplyValue requestIndex fun i =>
          if i = 0 then value else (s.msrReply.msrTypes requestIndex).replyValue i
      else s.failType requestIndex
    s.checkComplete a

/-- The samples of a noise histogram, with the lost cycles, in 32 bits. -/
def sumOfSamples (results : TNoiseHistogramResults) : ℕ :=
  (List.range numOfNoiseHistogramCounters).foldl
    (fun sum i => (sum + results.counters i) % 2 ^ 32) results.numOfLostCycles

def noiseHistCallBack (a : Answers) (s : Sys R C) (status : ℕ) (results : TNoiseHistogramResults) :
    Sys R C :=
  let s := { s with pendingNoiseHistogram := false }
  match s.findIndexByType .noiseHistogram with
  | none => s
  | some requestIndex =>
    let sum := sumOfSamples results
    let s :=
      if status = tiOk ∧
          noiseHistogramThreshold ≤ (sum + 2 ^ 32 - results.numOfLostCycles) % 2 ^ 32 then
        s.setReplyValue requestIndex fun i =>
          if i < numOfNoiseHistogramCounters then
            255 * results.counters i % 2 ^ 32 / sum % 2 ^ 8
          else (s.msrReply.msrTypes requestIndex).replyValue i
      else s.failType requestIndex
    s.checkComplete a

/-! ## Runs -/

/-- What can happen, with what the other modules answer meanwhile. -/
inductive Input (R C : Type*)
  | startMeasurement (req : StartRequest R C) (a : Answers)
  | stopMeasurement (bSendNullData : Bool) (cmdResponse : Option R) (a : Answers)
  /-- The power server calls back with the answer that it owes. -/
  | psAnswer (psStatus : PsStatus) (a : Answers)
  /-- The power server calls back and owes no answer. -/
  | psReport (psStatus : PsStatus) (a : Answers)
  | requestMeasureStartResponseCb (mboxStatus : ℕ) (a : Answers)
  | measureStartCb (a : Answers)
  | measureCompleteCb (a : Answers)
  | requestTimerExpired (expired : ℕ) (a : Answers)
  | channelLoadParamCb (status : ℕ) (results : TMediumOccupancy) (a : Answers)
  | noiseHistCallBack (status : ℕ) (results : TNoiseHistogramResults) (a : Answers)
  | startStopTimerExpired
  | fwReset

/-- One step. A timer expires only while it runs. -/
def step (s : Sys R C) : Input R C → Option (Sys R C)
  | .startMeasurement req a => some (s.startMeasurement a req)
  | .stopMeasurement bSendNullData cmdResponse a =>
    some (s.stopMeasurement a bSendNullData cmdResponse)
  | .psAnswer psStatus a => if s.psOwes then some (s.powerSaveCb a psStatus) else none
  | .psReport psStatus a => if s.psOwes then none else some (s.powerSaveCb a psStatus)
  | .requestMeasureStartResponseCb mboxStatus a =>
    some (s.requestMeasureStartResponseCb a mboxStatus)
  | .measureStartCb a => some (s.measureStartCb a)
  | .measureCompleteCb a => some (s.measureCompleteCb a)
  | .requestTimerExpired expired a =>
    if s.requestTimer expired then some (s.requestTimerExpired a expired) else none
  | .channelLoadParamCb status results a => some (s.channelLoadParamCb a status results)
  | .noiseHistCallBack status results a => some (s.noiseHistCallBack a status results)
  | .startStopTimerExpired => if s.startStopTimer then some s.startStopTimerExpired else none
  | .fwReset => some s.fwReset

end Sys

end ArchosGpl.Wlan.MeasurementSrv
