import ArchosGpl.Lib.Trace
import ArchosGpl.Wlan.Scr.Model
import Mathlib.Algebra.Group.Nat.Defs

/-!
# Model of a scan concentrator client (`ScanCncn.c`, `ScanCncnSm.c`, `ScanCncnSmSpecific.c`)

Each of the five clients has its own state machine, parameters and result; the clients share
nothing that is modelled here, so the model is of one client, whose kind decides the
client-specific functions.

The client's state machine is a generic one (`utils/GenSM.c`): the state changes before the action,
and an event that is sent during an action waits in a single slot until the action returns. The
final callback is called from an action, so a start or stop that the client makes from inside it
only fills the slot. `run` executes events until the slot is empty. What the serving channel
resource, the driver and the client answer to each action is an input (`Answers`).

The parameters are stored after the channels are verified with the regulatory domain, mixed and
adapted to Bluetooth activity; a request gives them as they are stored, with the number of channels
left. How a received frame is filtered and passed on is not in the model; its count is.
-/

namespace ArchosGpl.Wlan.ScanCncn

open Lib

inductive EScanCncnClient
  | roamingImmed
  | roamingCont
  | driver
  | appPeriodic
  | appOneShot
  deriving DecidableEq

/-- `EScanCncnSmStates`. -/
inductive SmState
  | idle
  | scrWait
  | scanning
  | stopping
  deriving DecidableEq

/-- `EScanCncnSmEvents`. -/
inductive SmEvent
  | start
  | run
  | scanComplete
  | stop
  | abort
  | recovery
  | reject
  deriving DecidableEq

inductive Action
  | requestScr
  | startScan
  | stopScan
  | scanComplete
  | nop
  | actionUnexpected
  | rejectScan
  | recovery

def tSmMatrix : SmState → SmEvent → SmState × Action
  | .idle, .start => (.scrWait, .requestScr)
  | .idle, .run => (.idle, .actionUnexpected)
  | .idle, .scanComplete => (.idle, .actionUnexpected)
  | .idle, .stop => (.idle, .actionUnexpected)
  | .idle, .abort => (.idle, .actionUnexpected)
  | .idle, .recovery => (.idle, .actionUnexpected)
  | .idle, .reject => (.idle, .actionUnexpected)
  | .scrWait, .start => (.scrWait, .actionUnexpected)
  | .scrWait, .run => (.scanning, .startScan)
  | .scrWait, .scanComplete => (.scrWait, .actionUnexpected)
  | .scrWait, .stop => (.idle, .rejectScan)
  | .scrWait, .abort => (.scrWait, .actionUnexpected)
  | .scrWait, .recovery => (.scrWait, .actionUnexpected)
  | .scrWait, .reject => (.idle, .rejectScan)
  | .scanning, .start => (.scanning, .actionUnexpected)
  | .scanning, .run => (.scanning, .actionUnexpected)
  | .scanning, .scanComplete => (.idle, .scanComplete)
  | .scanning, .stop => (.stopping, .stopScan)
  | .scanning, .abort => (.stopping, .stopScan)
  | .scanning, .recovery => (.idle, .recovery)
  | .scanning, .reject => (.scanning, .actionUnexpected)
  | .stopping, .start => (.stopping, .actionUnexpected)
  | .stopping, .run => (.stopping, .actionUnexpected)
  | .stopping, .scanComplete => (.idle, .scanComplete)
  | .stopping, .stop => (.stopping, .nop)
  | .stopping, .abort => (.stopping, .nop)
  | .stopping, .recovery => (.idle, .recovery)
  | .stopping, .reject => (.stopping, .actionUnexpected)

/-! ## Data -/

/-- `EScanCncnResultStatus`, without the status of a received frame. -/
inductive EScanCncnResultStatus
  | scanCompleteOk
  | scanRunning
  | scanFailed
  | scanStopped
  | tsfError
  | scanAbortedFwReset
  | scanAbortedHigherPriority
  deriving DecidableEq

/-- `UScanParams`; `bSps` where the scan type is `SCAN_TYPE_SPS`. -/
structure UScanParams (P : Type*) where
  bSps : Bool
  rest : P

/-- A start request: the parameters as they are stored, and the channels left in them. -/
structure Request (P : Type*) where
  uScanParams : UScanParams P
  numOfChannels : ℕ

inductive ClientCall (P : Type*)
  | start (req : Request P)
  | stop

/-- What `scr_clientRequest` answers. -/
inductive ScrReply
  | run
  | pend (reason : Scr.EScePendReason)
  | unrecognized

/-- What an action is answered: by the serving channel resource, by the driver to a start and to a
stop of the scan, and by the client to its final callback; and whether the station is connected. -/
structure Answers (P : Type*) where
  scrReply : ScrReply
  bStartOk : Bool
  bStopOk : Bool
  bConnected : Bool
  calls : List (ClientCall P)

/-- What a start request must not change while a scan is running. -/
structure Shown (P : Type*) where
  uScanParams : UScanParams P
  eScanResult : EScanCncnResultStatus

/-- What is seen from outside. -/
inductive Act (P : Type*)
  /-- A start request returns; what it found and what it leaves. -/
  | started (before after : Shown P) (answer : EScanCncnResultStatus)
  /-- The final result callback. -/
  | finalCb (eStatus : EScanCncnResultStatus) (uSpsStatus : ℕ)
  | twdStartScan
  | twdStopScan (bSendNullData : Bool)
  | twdStopScanOnFwReset

/-- `TScanCncnClient` with its state machine. `atScr` says that the client has a request or a grant
at the serving channel resource. -/
structure Sys (P : Type*) where
  smState : SmState
  pending : Option SmEvent
  bScanCompletePending : Bool
  bInRequest : Bool
  bSendNullDataOnStop : Bool
  uScanParams : UScanParams P
  eScanResult : EScanCncnResultStatus
  uSpsScanResult : ℕ
  uResultCounter : ℕ
  uResultExpectedNumber : ℕ
  bScanRejectedOn2_4 : Bool
  atScr : Bool
  log : List (Act P)

namespace Sys

variable {P : Type*}

/-- After the create functions; the parameters have no value before the first request. -/
def init (uScanParams : UScanParams P) : Sys P where
  smState := .idle
  pending := none
  bScanCompletePending := false
  bInRequest := false
  bSendNullDataOnStop := false
  uScanParams := uScanParams
  eScanResult := .scanCompleteOk
  uSpsScanResult := 0
  uResultCounter := 0
  uResultExpectedNumber := 0
  bScanRejectedOn2_4 := false
  atScr := false
  log := []

def emit (s : Sys P) (a : Act P) : Sys P := { s with log := s.log ++ [a] }

/-- `genSM_Event` during an action: the event takes the slot. -/
def send (s : Sys P) (e : SmEvent) : Sys P := { s with pending := some e }

def shown (s : Sys P) : Shown P := ⟨s.uScanParams, s.eScanResult⟩

def setResult (s : Sys P) (eStatus : EScanCncnResultStatus) : Sys P :=
  { s with eScanResult := if s.eScanResult = .scanCompleteOk then eStatus else s.eScanResult }

def startAnswer (s : Sys P) : EScanCncnResultStatus :=
  if s.eScanResult ≠ .scanCompleteOk then s.eScanResult else .scanRunning

/-- `scanCncn_StopScan` and `scanCncn_StopPeriodicScan` up to the event. -/
def stopCall (c : EScanCncnClient) (s : Sys P) : Sys P :=
  let bOneShot := c = .roamingImmed || c = .roamingCont || c = .appOneShot
  ({ s with bSendNullDataOnStop := bOneShot || s.bSendNullDataOnStop }.setResult .scanStopped).send
    .stop

/-- `scanCncn_Start1ShotScan` and `scanCncn_StartPeriodicScan` from inside an action: the event
waits, and no request is in progress any more when it is executed. -/
def startCall (s : Sys P) (req : Request P) : Sys P :=
  let t := { s with uScanParams := req.uScanParams }
  if req.numOfChannels = 0 then t.emit (.started s.shown t.shown .scanFailed)
  else
    let t := { t with eScanResult := .scanCompleteOk }.send .start
    t.emit (.started s.shown t.shown t.startAnswer)

def clientCall (c : EScanCncnClient) (s : Sys P) : ClientCall P → Sys P
  | .start req => s.startCall req
  | .stop => s.stopCall c

/-! ## The actions -/

/-- The pend reasons on which the client-specific request function rejects the scan. -/
def rejectsPend : EScanCncnClient → Scr.EScePendReason → Bool
  | .appOneShot, _ | .appPeriodic, _ => true
  | .driver, reason => reason ≠ .otherClientAborting
  | .roamingCont, reason | .roamingImmed, reason => reason = .differentGroupRunning

def reject (s : Sys P) : Sys P := { s with eScanResult := .scanFailed }.send .reject

def scrRequest (c : EScanCncnClient) (a : Answers P) (s : Sys P) : Sys P :=
  let s := { s with atScr := true }
  match a.scrReply with
  | .run => s.send .run
  | .pend reason => if rejectsPend c reason then s.reject else s
  | .unrecognized => s.reject

/-- `scanCncnSm_StartScan` with `fStartScan`. -/
def startScan (a : Answers P) (s : Sys P) : Sys P :=
  let s := { s with
    uResultCounter := 0
    uResultExpectedNumber := 0
    bScanCompletePending := false
    bScanRejectedOn2_4 := false }.emit .twdStartScan
  if a.bStartOk then s else { s with eScanResult := .scanFailed }.send .scanComplete

def stopScan (c : EScanCncnClient) (a : Answers P) (s : Sys P) : Sys P :=
  let s := s.emit (.twdStopScan
    (if c = .appOneShot && !a.bConnected then false else s.bSendNullDataOnStop))
  if a.bStopOk then s else s.send .scanComplete

/-- The final callback, with the calls that the client makes from inside it. -/
def finalCb (c : EScanCncnClient) (a : Answers P) (s : Sys P) : Sys P :=
  if s.bInRequest then s
  else a.calls.foldl (clientCall c) (s.emit (.finalCb s.eScanResult s.uSpsScanResult))

def scrRelease (s : Sys P) : Sys P := { s with atScr := false }

def recovery (c : EScanCncnClient) (s : Sys P) : Sys P :=
  match c with
  | .appOneShot | .roamingCont | .roamingImmed => s.emit .twdStopScanOnFwReset
  | .appPeriodic | .driver => s

def act (c : EScanCncnClient) (a : Answers P) (s : Sys P) : Action → Sys P
  | .requestScr => s.scrRequest c a
  | .startScan => s.startScan a
  | .stopScan => s.stopScan c a
  | .scanComplete => s.scrRelease.finalCb c a
  | .nop => s
  | .actionUnexpected => { s with eScanResult := .scanFailed }
  | .rejectScan => ({ s with bScanRejectedOn2_4 := true } : Sys P).scrRelease.finalCb c a
  | .recovery => (s.recovery c).finalCb c a

/-- One event of the loop in `genSM_Event`. -/
def execute (c : EScanCncnClient) (a : Answers P) (s : Sys P) (e : SmEvent) : Sys P :=
  act c a { s with pending := none, smState := (tSmMatrix s.smState e).1 } (tSmMatrix s.smState e).2

/-- The loop of `genSM_Event`: one answer for each event; `none` if there are more events. -/
def run (c : EScanCncnClient) : List (Answers P) → Sys P → Option (Sys P)
  | [], s => if s.pending.isNone then some s else none
  | a :: as, s =>
    match s.pending with
    | none => some s
    | some e => run c as (s.execute c a e)

/-! ## The calls from outside an action -/

/-- The statuses that the serving channel resource calls back with. -/
inductive ScrStatus
  | run
  | pend (reason : Scr.EScePendReason)
  | abort
  | fwReset

/-- The four callbacks of the serving channel resource, up to the event. An application scan is
never pending, a driver scan and an immediate scan are never aborted. -/
def scrCb (c : EScanCncnClient) (s : Sys P) : ScrStatus → Sys P
  | .run => s.send .run
  | .pend reason =>
    match c with
    | .roamingImmed | .roamingCont | .driver =>
      if reason = .differentGroupRunning then s.reject else s
    | .appOneShot | .appPeriodic => s
  | .abort =>
    match c with
    | .roamingCont | .appOneShot | .appPeriodic =>
      ({ s with bSendNullDataOnStop := false }.setResult .scanAbortedHigherPriority).send .abort
    | .roamingImmed | .driver => s
  | .fwReset => (s.setResult .scanAbortedFwReset).send .recovery

/-- The end of both completion callbacks: wait for the frames that are still to come. -/
def awaitResults (s : Sys P) (uResultCount : ℕ) : Sys P :=
  let s := { s with
    uResultExpectedNumber := (s.uResultExpectedNumber + uResultCount) % 2 ^ 32 }
  if s.uResultExpectedNumber ≤ s.uResultCounter then s.send .scanComplete
  else { s with bScanCompletePending := true }

def scanCompleteNotificationCb (s : Sys P) (uResultCount spsStatus : ℕ) (bTsfError bOk : Bool) :
    Sys P :=
  let s := if bOk then s else s.setResult .scanFailed
  let s := if s.uScanParams.bSps then
      { s with
        uSpsScanResult := spsStatus
        eScanResult := if bTsfError then .tsfError else s.eScanResult }
    else s
  s.awaitResults uResultCount

def periodicScanReportCb (s : Sys P) (uResultCount : ℕ) : Sys P :=
  { s with uResultExpectedNumber := (s.uResultExpectedNumber + uResultCount) % 2 ^ 32 }

/-- The end of `scanCncn_MlmeResultCB`. -/
def checkResults (s : Sys P) : Sys P :=
  if s.bScanCompletePending && s.uResultCounter = s.uResultExpectedNumber then s.send .scanComplete
  else s

/-- What can happen. A received frame is counted, then the client is called, then the count is
checked: what the client calls in between are steps of their own. -/
inductive Input (P : Type*)
  | start (req : Request P)
  | stop
  | scrCb (status : ScrStatus)
  | scanCompleteNotificationCb (uResultCount spsStatus : ℕ) (bTsfError bOk : Bool)
  | periodicScanReportCb (uResultCount : ℕ)
  | periodicScanCompleteCb (uResultCount : ℕ)
  | mlmeResultCb
  | checkResults

/-- `scanCncn_Start1ShotScan` and `scanCncn_StartPeriodicScan` from outside an action. -/
def start (c : EScanCncnClient) (as : List (Answers P)) (s : Sys P) (req : Request P) :
    Option (Sys P) :=
  let t := { s with uScanParams := req.uScanParams }
  if req.numOfChannels = 0 then some (t.emit (.started s.shown t.shown .scanFailed))
  else
    (run c as ({ t with bInRequest := true, eScanResult := .scanCompleteOk }.send .start)).map
      fun t =>
        let t := { t with bInRequest := false }
        t.emit (.started s.shown t.shown t.startAnswer)

/-- One step: a call, and its events to the end. -/
def step (c : EScanCncnClient) (s : Sys P) (i : Input P × List (Answers P)) : Option (Sys P) :=
  match i.1 with
  | .start req => s.start c i.2 req
  | .stop => run c i.2 (s.stopCall c)
  | .scrCb status => run c i.2 (s.scrCb c status)
  | .scanCompleteNotificationCb uResultCount spsStatus bTsfError bOk =>
    run c i.2 (s.scanCompleteNotificationCb uResultCount spsStatus bTsfError bOk)
  | .periodicScanReportCb uResultCount => some (s.periodicScanReportCb uResultCount)
  | .periodicScanCompleteCb uResultCount => run c i.2 (s.awaitResults uResultCount)
  | .mlmeResultCb => some { s with uResultCounter := (s.uResultCounter + 1) % 2 ^ 32 }
  | .checkResults => run c i.2 s.checkResults

end Sys

end ArchosGpl.Wlan.ScanCncn
