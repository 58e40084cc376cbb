import ArchosGpl.Lib.Machine
import Mathlib.Algebra.Group.Nat.Defs
import Mathlib.Data.Nat.Notation
import Mathlib.Tactic.TypeStar

/-!
# Model of the scan service (`TWD/MacServices/ScanSrv.c`, `ScanSrvSM.c`)

The service runs one scan at a time: it reserves the power server where the scan wants driver mode,
gives the scan command to the firmware, waits for the scan-complete event under a timer, releases
the power server and notifies the layer above.

An action of the state machine sends the next event itself, so `smEvent` re-enters itself. The model
gives it a depth, which no chain of events exhausts (`Completion.lean`). What the other modules
answer within a call is an input (`Answers`). Beside the fields of `scanSRV_t` the state has the
timer, what the power server owes, and the log. `C` are the command response callbacks. A callback
that calls the service again does so at the end of the call that makes it: that is the next input.
-/

namespace ArchosGpl.Wlan.ScanSrv

/-- `scan_SRVSMStates_e`. -/
inductive SmState
  | idle
  | psWait
  | scanning
  | stopping
  | psExit
  deriving DecidableEq

/-- `scan_SRVSMEvents_e`. -/
inductive SmEvent
  | requestPs
  | psFail
  | psSuccess
  | psPend
  | stopScan
  | fwReset
  | timerExpired
  | scanComplete
  deriving DecidableEq

inductive Action
  | requestPs
  | releasePs
  | startActualScan
  | notifyScanComplete
  | handleTimerExpiry
  | psFailWhileScanning
  | handleRecovery
  | unexpected
  | nop

/-- `smMatrix` of `scanSRVSM_init`. -/
def smMatrix : SmState → SmEvent → SmState × Action
  | .idle, .requestPs => (.psWait, .requestPs)
  | .idle, .psFail => (.idle, .unexpected)
  | .idle, .psSuccess => (.scanning, .startActualScan)
  | .idle, .psPend => (.idle, .unexpected)
  | .idle, .stopScan => (.idle, .unexpected)
  | .idle, .fwReset => (.idle, .nop)
  | .idle, .timerExpired => (.idle, .unexpected)
  | .idle, .scanComplete => (.idle, .unexpected)
  | .psWait, .requestPs => (.psWait, .unexpected)
  | .psWait, .psFail => (.psExit, .releasePs)
  | .psWait, .psSuccess => (.scanning, .startActualScan)
  | .psWait, .psPend => (.psWait, .nop)
  | .psWait, .stopScan => (.stopping, .nop)
  | .psWait, .fwReset => (.idle, .handleRecovery)
  | .psWait, .timerExpired => (.psWait, .unexpected)
  | .psWait, .scanComplete => (.psWait, .unexpected)
  | .scanning, .requestPs => (.scanning, .unexpected)
  | .scanning, .psFail => (.scanning, .psFailWhileScanning)
  | .scanning, .psSuccess => (.scanning, .unexpected)
  | .scanning, .psPend => (.scanning, .unexpected)
  | .scanning, .stopScan => (.stopping, .nop)
  | .scanning, .fwReset => (.idle, .handleRecovery)
  | .scanning, .timerExpired => (.scanning, .handleTimerExpiry)
  | .scanning, .scanComplete => (.psExit, .releasePs)
  | .stopping, .requestPs => (.stopping, .unexpected)
  | .stopping, .psFail => (.psExit, .releasePs)
  | .stopping, .psSuccess => (.psExit, .releasePs)
  | .stopping, .psPend => (.stopping, .unexpected)
  | .stopping, .stopScan => (.stopping, .nop)
  | .stopping, .fwReset => (.idle, .handleRecovery)
  | .stopping, .timerExpired => (.stopping, .handleTimerExpiry)
  | .stopping, .scanComplete => (.psExit, .releasePs)
  | .psExit, .requestPs => (.psExit, .unexpected)
  | .psExit, .psFail => (.idle, .notifyScanComplete)
  | .psExit, .psSuccess => (.idle, .notifyScanComplete)
  | .psExit, .psPend => (.psExit, .nop)
  | .psExit, .stopScan => (.psExit, .nop)
  | .psExit, .fwReset => (.idle, .handleRecovery)
  | .psExit, .timerExpired => (.psExit, .unexpected)
  | .psExit, .scanComplete => (.psExit, .unexpected)

/-! ## Data -/

/-- `TI_OK` of `TI_STATUS`. -/
def tiOk : ℕ := 0

/-- `TI_NOK` of `TI_STATUS`. -/
def tiNok : ℕ := 1

inductive E80211PsMode
  | off
  | on
  | keepCurrent
  deriving DecidableEq

/-- What `powerSrv_ReservePS` and `powerSrv_ReleasePS` answer. -/
inductive PsAnswer
  | isCurrent
  | pending
  | ok
  | failed
  deriving DecidableEq

/-- The power server calls back later. -/
def PsAnswer.later : PsAnswer → Bool
  | .pending | .ok => true
  | .isCurrent | .failed => false

/-- The statuses of `MacServices_scanSRV_powerSaveCB`. -/
inductive PsStatus
  | enterFail
  | enterSuccess
  | exitFail
  | exitSuccess
  deriving DecidableEq

/-- The two requests to the power server. -/
inductive PsRequest
  | reserve
  | release
  deriving DecidableEq

/-- The arguments of `MacServices_scanSRV_scan`; `sps` where the scan type is `SCAN_TYPE_SPS`. -/
structure ScanRequest (C : Type*) where
  sps : Bool
  eScanTag : ℕ
  bHighPriority : Bool
  bDriverMode : Bool
  bScanOnDriverModeError : Bool
  psRequest : E80211PsMode
  bSendNullData : Bool
  commandResponse : Option C

structure ScanCompleteResults where
  numberOfScanResults : ℕ
  scheduledScanStatus : ℕ
  scanTag : ℕ

/-- The arguments of the scan-complete notification; `psMode` is the power server's. -/
structure Notification where
  eScanTag : ℕ
  uResultCount : ℕ
  spsScanResult : ℕ
  bTsfError : Bool
  status : ℕ
  psMode : Bool

/-- What the other modules answer within one call: the power server, the command builder, and the
power server's mode. -/
structure Answers where
  reserve : PsAnswer
  startScan : ℕ
  release : PsAnswer
  psMode : Bool

/-- What is seen from outside. -/
inductive Act (C : Type*)
  /-- A scan request is taken up. -/
  | scan (req : ScanRequest C)
  /-- A scan request returns. -/
  | scanReturned (status : ℕ)
  | reservePs (psRequest : E80211PsMode) (bSendNullData : Bool) (answer : PsAnswer)
  | releasePs (bSendNullData : Bool) (answer : PsAnswer)
  | cmdStartScan (sps : Bool) (eScanTag : ℕ) (bHighPriority : Bool) (status : ℕ)
  | cmdStopScan (sps : Bool) (eScanTag : ℕ)
  | commandResponse (cb : C) (status : ℕ)
  /-- The power server calls back, while it owes an answer or not, in a state of the machine. -/
  | powerSaveCb (owed : Option PsRequest) (state : SmState) (status : PsStatus)
  | scanCompleteNotification (state : SmState) (n : Notification)
  | noScanCompleteFailure

/-- `scanSRV_t`, with the timer, the request that the power server owes an answer to, and the log.
-/
structure Sys (C : Type*) where
  smState : SmState
  commandResponse : Option C
  spsScanResult : ℕ
  bTsfError : Bool
  bDtimOverlapping : Bool
  bExitFromDriverMode : Bool
  bSendNullData : Bool
  bScanOnDriverModeFailure : Bool
  bHighPriority : Bool
  bSpsScan : Bool
  scanType : Bool
  eScanTag : ℕ
  uResultCount : ℕ
  bTimerRunning : Bool
  bInRequest : Bool
  returnStatus : ℕ
  psRequest : E80211PsMode
  numberOfNoScanCompleteToRecovery : ℕ
  currentNumberOfConsecutiveNoScanCompleteEvents : ℕ
  bNoScanCompleteFlag : Bool
  timer : Bool
  psOwes : Option PsRequest
  log : List (Act C)

namespace Sys

variable {C : Type*}

/-- After `scanSRV_create` (all fields zero), `scanSRV_init` and `MacServices_scanSrv_config`. -/
def init (numberOfNoScanCompleteToRecovery : ℕ) : Sys C where
  smState := .idle
  commandResponse := none
  spsScanResult := 0
  bTsfError := false
  bDtimOverlapping := false
  bExitFromDriverMode := false
  bSendNullData := false
  bScanOnDriverModeFailure := false
  bHighPriority := false
  bSpsScan := false
  scanType := false
  eScanTag := 0
  uResultCount := 0
  bTimerRunning := false
  bInRequest := false
  returnStatus := tiOk
  psRequest := .off
  numberOfNoScanCompleteToRecovery := numberOfNoScanCompleteToRecovery
  currentNumberOfConsecutiveNoScanCompleteEvents := 0
  bNoScanCompleteFlag := false
  timer := false
  psOwes := none
  log := []

def emit (s : Sys C) (a : Act C) : Sys C := { s with log := s.log ++ [a] }

/-- `if (pScanSRV->bTimerRunning) { tmr_StopTimer; bTimerRunning = TI_FALSE; }`. -/
def stopTimer (s : Sys C) : Sys C :=
  if s.bTimerRunning then { s with timer := false, bTimerRunning := false } else s

/-! ## The actions

`self` is `scanSRVSM_SMEvent`. -/

section Actions

variable (self : Sys C → SmEvent → Sys C) (a : Answers) (s : Sys C)

def requestPs : Sys C :=
  let s := { s.emit (.reservePs s.psRequest s.bSendNullData a.reserve) with
    psOwes := if a.reserve.later then some .reserve else none }
  match a.reserve with
  | .isCurrent => self s .psSuccess
  | .pending | .ok => self s .psPend
  | .failed =>
    let s := { s with bExitFromDriverMode := false }
    if s.bScanOnDriverModeFailure then self s .psSuccess
    else self { s with returnStatus := tiNok } .psFail

def releasePs : Sys C :=
  let s := s.stopTimer
  if s.bExitFromDriverMode then
    let s := { s.emit (.releasePs s.bSendNullData a.release) with
      psOwes := if a.release.later then some .release else none }
    match a.release with
    | .isCurrent => self s .psSuccess
    | .pending | .ok => s
    | .failed => self s .psFail
  else self s .psSuccess

def startActualScan : Sys C :=
  let s := { s with bTimerRunning := true, timer := true }
  let s := { s.emit (.cmdStartScan s.scanType s.eScanTag s.bHighPriority a.startScan) with
    returnStatus := a.startScan }
  if s.returnStatus ≠ tiOk then self s .scanComplete else s

/-- The command response, where it was not given yet. -/
def respond (status : ℕ) : Sys C :=
  match s.commandResponse with
  | some cb => { s with commandResponse := none }.emit (.commandResponse cb status)
  | none => s

def notifyScanComplete : Sys C :=
  if s.bInRequest then s
  else
    let s := s.respond tiOk
    s.emit (.scanCompleteNotification s.smState
      ⟨s.eScanTag, s.uResultCount, s.spsScanResult, s.bTsfError, s.returnStatus, a.psMode⟩)

def handleTimerExpiry : Sys C :=
  let s := { s with
    currentNumberOfConsecutiveNoScanCompleteEvents :=
      (s.currentNumberOfConsecutiveNoScanCompleteEvents + 1) % 2 ^ 32 }
  if s.numberOfNoScanCompleteToRecovery ≤ s.currentNumberOfConsecutiveNoScanCompleteEvents then
    ({ s with
      currentNumberOfConsecutiveNoScanCompleteEvents := 0
      returnStatus := tiNok
      bTimerRunning := false } : Sys C).emit .noScanCompleteFailure
  else
    self { s.emit (.cmdStopScan s.bSpsScan s.eScanTag) with
      bTsfError := false, spsScanResult := 0xffff } .scanComplete

def psFailWhileScanning : Sys C := { s with bExitFromDriverMode := false }

def handleRecovery : Sys C := s.stopTimer

def actionUnexpected : Sys C :=
  { s.stopTimer with commandResponse := none, returnStatus := tiNok }

def act : Action → Sys C
  | .requestPs => s.requestPs self a
  | .releasePs => s.releasePs self a
  | .startActualScan => s.startActualScan self a
  | .notifyScanComplete => s.notifyScanComplete a
  | .handleTimerExpiry => s.handleTimerExpiry self
  | .psFailWhileScanning => s.psFailWhileScanning
  | .handleRecovery => s.handleRecovery
  | .unexpected => s.actionUnexpected
  | .nop => s

end Actions

/-- `scanSRVSM_SMEvent`, which changes the state before the action, to a depth of calls. -/
def smEventTo (a : Answers) : ℕ → Sys C → SmEvent → Sys C
  | 0, s, _ => s
  | depth + 1, s, e =>
    act (smEventTo a depth) a { s with smState := (smMatrix s.smState e).1 }
      (smMatrix s.smState e).2

/-- `scanSRVSM_SMEvent`: no call goes deeper. -/
def smEvent (a : Answers) (s : Sys C) (e : SmEvent) : Sys C := smEventTo a 4 s e

/-! ## The calls to the service -/

def commandMailBoxCb (a : Answers) (s : Sys C) (mboxStatus : ℕ) : Sys C :=
  let responseStatus := if 0 < mboxStatus then tiNok else tiOk
  let s := s.respond responseStatus
  if responseStatus ≠ tiOk then s.smEvent a .scanComplete else s

/-- The fields that `MacServices_scanSRV_scan` sets from its arguments. -/
def copyRequest (s : Sys C) (req : ScanRequest C) : Sys C :=
  { s with
    commandResponse := req.commandResponse
    bInRequest := true
    returnStatus := tiOk
    scanType := req.sps
    eScanTag := req.eScanTag
    uResultCount := 0
    bHighPriority := req.bHighPriority
    bScanOnDriverModeFailure := req.bScanOnDriverModeError
    bSendNullData := req.bSendNullData
    psRequest := req.psRequest
    bSpsScan := req.sps
    bDtimOverlapping := req.bHighPriority || !req.bDriverMode
    bNoScanCompleteFlag := false
    bExitFromDriverMode := req.bDriverMode }

/-- `MacServices_scanSRV_scan`. -/
def scan (a : Answers) (s : Sys C) (req : ScanRequest C) : Sys C :=
  if s.smState ≠ .idle then s.emit (.scanReturned tiNok)
  else
    let s := (s.copyRequest req).emit (.scan req)
    let s := s.smEvent a (if req.bDriverMode then .requestPs else .psSuccess)
    { s with bInRequest := false }.emit (.scanReturned s.returnStatus)

/-- `MacServices_scanSRV_stopScan`; the command builder answers `status`. -/
def stopScan (a : Answers) (s : Sys C) (eScanTag : ℕ) (bSendNullData : Bool) (status : ℕ) : Sys C :=
  let s := { s with bSendNullData := bSendNullData }.emit (.cmdStopScan s.bSpsScan eScanTag)
  if status ≠ tiOk then s else s.smEvent a .stopScan

def stopOnFwReset (a : Answers) (s : Sys C) : Sys C :=
  { s with returnStatus := tiNok }.smEvent a .fwReset

/-- The event that `MacServices_scanSRV_powerSaveCB` makes of a status. -/
def psEvent (s : Sys C) : PsStatus → SmEvent
  | .enterSuccess | .exitSuccess => .psSuccess
  | .enterFail => if s.bScanOnDriverModeFailure then .psSuccess else .psFail
  | .exitFail => .psFail

def powerSaveCb (a : Answers) (s : Sys C) (status : PsStatus) : Sys C :=
  let s := { s.emit (.powerSaveCb s.psOwes s.smState status) with psOwes := none }
  let event := s.psEvent status
  let s := if event = .psFail ∧ status = .enterFail then { s with returnStatus := tiNok } else s
  s.smEvent a event

/-- `MacServices_scanSRV_scanCompleteCB`; `ENDIAN_HANDLE_WORD` is the identity. -/
def scanCompleteCb (a : Answers) (s : Sys C) (results : ScanCompleteResults) : Sys C :=
  let s := if s.bNoScanCompleteFlag then s
    else { s with currentNumberOfConsecutiveNoScanCompleteEvents := 0 }
  let s := { s with uResultCount := results.numberOfScanResults, eScanTag := results.scanTag }
  let s :=
    if s.bSpsScan then
      { s with
        bTsfError := decide (results.scheduledScanStatus >>> 24 ≠ 0)
        spsScanResult := (results.scheduledScanStatus >>> 16) % 2 ^ 16 ||| 0xff }
    else { s with bTsfError := false }
  s.smEvent a .scanComplete

def scanTimerExpired (a : Answers) (s : Sys C) : Sys C :=
  { s with bNoScanCompleteFlag := true, timer := false }.smEvent a .timerExpired

/-- `scanSRV_restart`. -/
def restart (s : Sys C) : Sys C := { s with smState := .idle }.stopTimer

/-! ## Runs -/

/-- What can happen, with what the other modules answer meanwhile. -/
inductive Input (C : Type*)
  | scan (req : ScanRequest C) (a : Answers)
  | stopScan (eScanTag : ℕ) (bSendNullData : Bool) (status : ℕ) (a : Answers)
  /-- The power server calls back with the answer that it owes. -/
  | psAnswer (status : PsStatus) (a : Answers)
  /-- The power server calls back and owes no answer. -/
  | psReport (status : PsStatus) (a : Answers)
  | commandMailBoxCb (mboxStatus : ℕ) (a : Answers)
  | scanCompleteCb (results : ScanCompleteResults) (a : Answers)
  | scanTimerExpired (a : Answers)
  | stopOnFwReset (a : Answers)
  | restart

/-- One step. The timer expires only while it runs. -/
def step (s : Sys C) : Input C → Option (Sys C)
  | .scan req a => some (s.scan a req)
  | .stopScan eScanTag bSendNullData status a => some (s.stopScan a eScanTag bSendNullData status)
  | .psAnswer status a => if s.psOwes = none then none else some (s.powerSaveCb a status)
  | .psReport status a => if s.psOwes = none then some (s.powerSaveCb a status) else none
  | .commandMailBoxCb mboxStatus a => some (s.commandMailBoxCb a mboxStatus)
  | .scanCompleteCb results a => some (s.scanCompleteCb a results)
  | .scanTimerExpired a => if s.timer then some (s.scanTimerExpired a) else none
  | .stopOnFwReset a => some (s.stopOnFwReset a)
  | .restart => some s.restart

end Sys

end ArchosGpl.Wlan.ScanSrv
