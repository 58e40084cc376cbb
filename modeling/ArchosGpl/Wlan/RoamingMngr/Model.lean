import ArchosGpl.Lib.Word
import ArchosGpl.Wlan.ScanMngr.Model

/-!
# Model of the roaming manager in automatic mode (`roamingMngr.c`, `roamingMngr_autoSM.c`)

The state machine is a generic one (`utils/GenSM.c`): the state changes before the action, and an
event that is sent during an action waits in a single slot until the action returns. `.dispatch`
executes the event in the slot, and nothing else happens until the slot is empty.

An action calls the scan manager and the AP connection; what they answer, and what they call back
before they return, is an input of the step (`Answers`). `scans` and `requests` count the immediate
scans and the connect requests that have no answer yet; an answer comes only to one that was made.

The list of APs is the scan manager's own: `pListOfAPs` points to it, and it may change whenever no
event is being processed.
-/

namespace ArchosGpl.Wlan.RoamingMngr

open Lib
open Wlan.ScanMngr (BssEntry BssList ScanMngrResultStatus)
open Wlan.RegulatoryDomain (ERadioBand)

/-! ## The state machine -/

/-- `roamingMngr_smStates`. -/
inductive SmState
  | idle
  | wait4Trigger
  | wait4Cmd
  | scanning
  | selecting
  | connecting
  deriving DecidableEq

/-- `roamingMngr_smEvents`. -/
inductive SmEvent
  | start
  | stop
  | roamTrigger
  | scan
  | select
  | reqHandover
  | roamSuccess
  | failure
  deriving DecidableEq

inductive Action
  | startIdle
  | nop
  | unexpected
  | stop
  | roamTrigger
  | invokeScan
  | selection
  | stopWhileScanning
  | scanFailure
  | handover
  | disconnectWhileConnecting
  | succHandover
  | failHandover
  deriving DecidableEq

def roamingMngrAutoMatrix : SmState → SmEvent → SmState × Action
  | .idle, .start => (.wait4Trigger, .startIdle)
  | .idle, .stop => (.idle, .nop)
  | .idle, .roamTrigger => (.idle, .nop)
  | .idle, .scan => (.idle, .unexpected)
  | .idle, .select => (.idle, .unexpected)
  | .idle, .reqHandover => (.idle, .unexpected)
  | .idle, .roamSuccess => (.idle, .unexpected)
  | .idle, .failure => (.idle, .unexpected)
  | .wait4Trigger, .start => (.wait4Trigger, .unexpected)
  | .wait4Trigger, .stop => (.idle, .stop)
  | .wait4Trigger, .roamTrigger => (.wait4Cmd, .roamTrigger)
  | .wait4Trigger, .scan => (.wait4Trigger, .unexpected)
  | .wait4Trigger, .select => (.wait4Trigger, .unexpected)
  | .wait4Trigger, .reqHandover => (.wait4Trigger, .unexpected)
  | .wait4Trigger, .roamSuccess => (.wait4Trigger, .unexpected)
  | .wait4Trigger, .failure => (.wait4Trigger, .unexpected)
  | .wait4Cmd, .start => (.wait4Cmd, .unexpected)
  | .wait4Cmd, .stop => (.wait4Cmd, .unexpected)
  | .wait4Cmd, .roamTrigger => (.wait4Cmd, .unexpected)
  | .wait4Cmd, .scan => (.scanning, .invokeScan)
  | .wait4Cmd, .select => (.selecting, .selection)
  | .wait4Cmd, .reqHandover => (.wait4Cmd, .unexpected)
  | .wait4Cmd, .roamSuccess => (.wait4Cmd, .unexpected)
  | .wait4Cmd, .failure => (.wait4Cmd, .unexpected)
  | .scanning, .start => (.scanning, .unexpected)
  | .scanning, .stop => (.idle, .stopWhileScanning)
  | .scanning, .roamTrigger => (.scanning, .nop)
  | .scanning, .scan => (.scanning, .invokeScan)
  | .scanning, .select => (.selecting, .selection)
  | .scanning, .reqHandover => (.scanning, .unexpected)
  | .scanning, .roamSuccess => (.scanning, .unexpected)
  | .scanning, .failure => (.idle, .scanFailure)
  | .selecting, .start => (.selecting, .unexpected)
  | .selecting, .stop => (.selecting, .unexpected)
  | .selecting, .roamTrigger => (.selecting, .unexpected)
  | .selecting, .scan => (.selecting, .unexpected)
  | .selecting, .select => (.selecting, .unexpected)
  | .selecting, .reqHandover => (.connecting, .handover)
  | .selecting, .roamSuccess => (.selecting, .unexpected)
  | .selecting, .failure => (.selecting, .unexpected)
  | .connecting, .start => (.connecting, .unexpected)
  | .connecting, .stop => (.idle, .stop)
  | .connecting, .roamTrigger => (.idle, .disconnectWhileConnecting)
  | .connecting, .scan => (.connecting, .unexpected)
  | .connecting, .select => (.connecting, .unexpected)
  | .connecting, .reqHandover => (.connecting, .handover)
  | .connecting, .roamSuccess => (.wait4Trigger, .succHandover)
  | .connecting, .failure => (.idle, .failHandover)

/-! ## Data -/

/-- `apConn_roamingTrigger_e`. -/
inductive RoamingTrigger
  | none
  | lowQualityForBgScan
  | highQualityForBgScan
  | normalQualityForBgScan
  | lowTxRate
  | lowSnr
  | lowQuality
  | tspecRejected
  | maxTxRetries
  | bssLoss
  | switchChannel
  | apDisconnect
  | securityAttack
  | last
  deriving DecidableEq

/-- The number of a trigger: the higher, the more severe. -/
def RoamingTrigger.rank : RoamingTrigger → ℕ
  | .none => 0
  | .lowQualityForBgScan => 1
  | .highQualityForBgScan => 2
  | .normalQualityForBgScan => 3
  | .lowTxRate => 4
  | .lowSnr => 5
  | .lowQuality => 6
  | .tspecRejected => 7
  | .maxTxRetries => 8
  | .bssLoss => 9
  | .switchChannel => 10
  | .apDisconnect => 11
  | .securityAttack => 12
  | .last => 13

def bgScanGroup : ℕ := RoamingTrigger.normalQualityForBgScan.rank

def lowQualityGroup : ℕ := RoamingTrigger.maxTxRetries.rank

def fastConnectGroup : ℕ := RoamingTrigger.switchChannel.rank

/-- `scan4RoamingType_e`. -/
inductive Scan4RoamingType
  | noScan
  | partialScan
  | partialScanRetry
  | fullScan
  | fullScanRetry
  deriving DecidableEq

/-- `apConn_connRequest_e`. -/
inductive ConnRequest
  | retainCurrAp
  | reconnectCurrAp
  | fastToAp
  | fullToAp
  deriving DecidableEq

/-- `apConn_connStatus_e`. -/
inductive ConnStatus
  | connected
  | notConnected
  | handoverFailure
  | handoverSuccess
  deriving DecidableEq

def ConnStatus.isAnswer : ConnStatus → Bool
  | .connected => false
  | _ => true

/-- `candidateApIndex`: `INVALID_CANDIDATE_INDEX`, `CURRENT_AP_INDEX` or an index in the list. -/
inductive CandidateApIndex
  | invalid
  | current
  | listed (index : ℕ)
  deriving DecidableEq

/-- `listOfCandidateAps_t`: the indices of each class, the last one that was put in first. -/
structure ListOfCandidateAps where
  neighborBSSList : List ℕ
  preAuthBSSList : List ℕ
  regularBSSList : List ℕ

/-- All candidates, in the order in which they are taken. -/
def ListOfCandidateAps.all (l : ListOfCandidateAps) : List ℕ :=
  l.neighborBSSList ++ l.preAuthBSSList ++ l.regularBSSList

variable {B : Type*}

/-- What a selection had before it, and what it selected. -/
structure Selected (B : Type*) where
  roamingTrigger : RoamingTrigger
  apQualityThreshold : ℤ
  isSiteBanned : B → Bool
  getPreAuthAPStatus : B → Bool
  neighbor : List (BssEntry B)
  preAuth : List (BssEntry B)
  regular : List (BssEntry B)

/-- The selected APs in the order in which they are to be tried. -/
def Selected.all (sel : Selected B) : List (BssEntry B) := sel.neighbor ++ sel.preAuth ++ sel.regular

/-- What is seen of the roaming manager. -/
inductive Entry (B : Type*)
  /-- A trigger that is not masked is passed to the state machine. -/
  | accepted
  | startImmediateScan (bNeighborAPsOnly : Bool)
  | selected (sel : Selected B)
  | connectToAP (requestType : ConnRequest) (BSSID : B)
  | handoverDone (BSSID : B)
  /-- The end of a successful handover, or of a connection that was retained. -/
  | succeeded
  | disconnect
  | stopped

/-- What the calls of an action are answered. -/
structure Answers (B : Type*) where
  /-- The regulatory domain, in `scanMngr_getBSSList`. -/
  channelValidity : BssEntry B → Bool
  /-- `scanMngr_startImmediateScan`. -/
  scanResult : ScanMngrResultStatus
  /-- The completion that `scanMngr_stopImmediateScan` calls back before it returns. -/
  stoppedScan : Option ScanMngrResultStatus
  isSiteBanned : B → Bool
  getPreAuthAPStatus : B → Bool
  /-- The status that `apConn_connectToAP` or `apConn_disconnect` reports before it returns. -/
  connStatus : Option ConnStatus
  /-- `apConn_getBSSParams`, at the start of a connection. -/
  bssParams : BssEntry B

/-- `roamingMngr_t`, the list of the scan manager, and what is not answered yet. -/
structure Sys (B : Type*) where
  smState : SmState
  pending : Option SmEvent
  enableDisable : Bool
  apQualityThreshold : ℤ
  lowPassFilterRoamingAttemptInMsec : ℕ
  roamingTrigger : RoamingTrigger
  maskRoamingEvents : Bool
  lowQualityTriggerTimestamp : ℕ
  scanType : Scan4RoamingType
  pListOfAPs : Bool
  neighborApsExist : Bool
  listOfCandidateAps : ListOfCandidateAps
  candidateApIndex : CandidateApIndex
  handoverWasPerformed : Bool
  bssList : BssList B
  currentAp : BssEntry B
  apToConnect : BssEntry B
  scans : ℕ
  requests : ℕ
  log : List (Entry B)

namespace Sys

/-- `roamingMngr_smEvent`: the event is put into the slot. -/
def smEvent (s : Sys B) (event : SmEvent) : Sys B := { s with pending := some event }

/-- An entry of the log. -/
def record (s : Sys B) (e : Entry B) : Sys B := { s with log := s.log ++ [e] }

/-! ## Callbacks -/

/-- The trigger of the highest priority is saved, and a trigger above low quality resets the filter. -/
def saveTrigger (s : Sys B) (roamingTrigger : RoamingTrigger) : Sys B :=
  { s with
    roamingTrigger :=
      if s.roamingTrigger.rank < roamingTrigger.rank then roamingTrigger else s.roamingTrigger
    lowQualityTriggerTimestamp :=
      if lowQualityGroup < roamingTrigger.rank then 0 else s.lowQualityTriggerTimestamp }

/-- A trigger is passed to the state machine, and others are masked from now on. -/
def acceptTrigger (s : Sys B) : Sys B :=
  ({ s with maskRoamingEvents := true }.record .accepted).smEvent .roamTrigger

def triggerRoamingCb (s : Sys B) (roamingTrigger : RoamingTrigger) (curTimestamp : ℕ) : Sys B :=
  if RoamingTrigger.last.rank ≤ roamingTrigger.rank then s
  else if roamingTrigger.rank ≤ bgScanGroup then s
  else
    let s := s.saveTrigger roamingTrigger
    if s.maskRoamingEvents = false then
      if roamingTrigger.rank ≤ lowQualityGroup then
        if s.lowQualityTriggerTimestamp ≠ 0 ∧
            sub32 curTimestamp s.lowQualityTriggerTimestamp < s.lowPassFilterRoamingAttemptInMsec then
          s
        else { s with lowQualityTriggerTimestamp := curTimestamp }.acceptTrigger
      else s.acceptTrigger
    else if fastConnectGroup < roamingTrigger.rank then s.smEvent .roamTrigger
    else s

def ConnStatus.event : ConnStatus → SmEvent
  | .connected => .start
  | .notConnected => .stop
  | .handoverSuccess => .roamSuccess
  | .handoverFailure => .reqHandover

def connStatusCb (s : Sys B) (connStatus : ConnStatus) : Sys B :=
  if s.enableDisable then s.smEvent (ConnStatus.event connStatus) else s

def reportStatus (s : Sys B) (connStatus : ConnStatus) : Sys B :=
  ({ s with requests := if connStatus.isAnswer then s.requests - 1 else s.requests }
    ).connStatusCb connStatus

/-- `scanMngr_getBSSList`, whose answer is kept. -/
def getBSSList (s : Sys B) (channelValidity : BssEntry B → Bool) : Sys B :=
  { s with bssList := s.bssList.getBSSList channelValidity, pListOfAPs := true }

/-- What a scan that found no AP leads to. -/
def afterEmptyScan (scanType : Scan4RoamingType) (bOk : Bool) : Scan4RoamingType × SmEvent :=
  match bOk, scanType with
  | true, .partialScan => (.fullScan, .scan)
  | true, .partialScanRetry => (.fullScan, .scan)
  | true, scanType => (scanType, .select)
  | false, .partialScan => (.partialScanRetry, .scan)
  | false, .partialScanRetry => (.noScan, .select)
  | false, .fullScan => (.fullScanRetry, .scan)
  | false, .fullScanRetry => (.noScan, .select)
  | false, .noScan => (.noScan, .select)

def immediateScanComplete (s : Sys B) (scanCmpltStatus : ScanMngrResultStatus)
    (channelValidity : BssEntry B → Bool) : Sys B :=
  let s := s.getBSSList channelValidity
  if 0 < s.bssList.numOfEntries then { s with scanType := .noScan }.smEvent .select
  else
    let next := afterEmptyScan s.scanType (scanCmpltStatus = .scanCompleteOk)
    { s with scanType := next.1 }.smEvent next.2

def reportScan (s : Sys B) (scanCmpltStatus : ScanMngrResultStatus)
    (channelValidity : BssEntry B → Bool) : Sys B :=
  { s with scans := s.scans - 1 }.immediateScanComplete scanCmpltStatus channelValidity

def updateNeighborApListCb (s : Sys B) (numOfEntries : ℕ) : Sys B :=
  { s with neighborApsExist := 0 < numOfEntries }

/-- The configuration of `roamingMngr_setParam`. `bConnected` says that the AP connection reports a
connection when the callbacks are registered. -/
def setParam (s : Sys B) (enableDisable : Bool) (lowPassFilterRoamingAttempt : ℕ)
    (apQualityThreshold : ℤ) (bConnected : Bool) : Sys B :=
  let s := { s with
    apQualityThreshold := apQualityThreshold
    lowPassFilterRoamingAttemptInMsec := lowPassFilterRoamingAttempt * 1000 }
  if s.enableDisable && !enableDisable then { s with enableDisable := false }.smEvent .stop
  else if !s.enableDisable && enableDisable then
    let s := { s with enableDisable := true }
    if bConnected then s.connStatusCb .connected else s
  else s

/-! ## Actions -/

def smRoamTrigger (s : Sys B) (a : Answers B) : Sys B :=
  if s.enableDisable then
    let s := s.getBSSList a.channelValidity
    if 0 < s.bssList.numOfEntries then s.smEvent .select
    else
      { s with scanType := if s.neighborApsExist then .partialScan else .fullScan }.smEvent .scan
  else s

def smInvokeScan (s : Sys B) (a : Answers B) : Sys B :=
  let s := s.record
    (.startImmediateScan (s.scanType = .partialScan ∨ s.scanType = .partialScanRetry))
  if a.scanResult = .scanRunning then { s with scans := s.scans + 1 }
  else s.immediateScanComplete a.scanResult a.channelValidity

/-- The selection's filters: quality if the trigger is low quality, and the ban. -/
def passes (s : Sys B) (isSiteBanned : B → Bool) (e : BssEntry B) : Bool :=
  !(s.roamingTrigger.rank ≤ lowQualityGroup && e.rssi < s.apQualityThreshold) &&
    !isSiteBanned e.BSSID

/-- An AP is put into the list of its class if it passes the filters. -/
def addCandidate (s : Sys B) (a : Answers B) (l : ListOfCandidateAps) (index : ℕ) :
    ListOfCandidateAps :=
  let e := s.bssList.entry index
  if s.passes a.isSiteBanned e then
    if e.bNeighborAP then { l with neighborBSSList := index :: l.neighborBSSList }
    else if a.getPreAuthAPStatus e.BSSID then { l with preAuthBSSList := index :: l.preAuthBSSList }
    else { l with regularBSSList := index :: l.regularBSSList }
  else l

def candidates (s : Sys B) (a : Answers B) : ListOfCandidateAps :=
  if s.pListOfAPs then
    (List.range s.bssList.numOfEntries).foldl (s.addCandidate a) ⟨[], [], []⟩
  else ⟨[], [], []⟩

def selectedOf (s : Sys B) (a : Answers B) (l : ListOfCandidateAps) : Selected B where
  roamingTrigger := s.roamingTrigger
  apQualityThreshold := s.apQualityThreshold
  isSiteBanned := a.isSiteBanned
  getPreAuthAPStatus := a.getPreAuthAPStatus
  neighbor := l.neighborBSSList.map s.bssList.entry
  preAuth := l.preAuthBSSList.map s.bssList.entry
  regular := l.regularBSSList.map s.bssList.entry

def smSelection (s : Sys B) (a : Answers B) : Sys B :=
  let l := s.candidates a
  ({ s with listOfCandidateAps := l, candidateApIndex := .invalid }.record
    (.selected (s.selectedOf a l))).smEvent .reqHandover

def nextCandidate (l : ListOfCandidateAps) : Option (ℕ × ListOfCandidateAps) :=
  match l.neighborBSSList, l.preAuthBSSList, l.regularBSSList with
  | index :: rest, _, _ => some (index, { l with neighborBSSList := rest })
  | [], index :: rest, _ => some (index, { l with preAuthBSSList := rest })
  | [], [], index :: rest => some (index, { l with regularBSSList := rest })
  | [], [], [] => none

def connectToAP (s : Sys B) (a : Answers B) (requestType : ConnRequest) (ap : BssEntry B) : Sys B :=
  let s := { s with apToConnect := ap, requests := s.requests + 1 }.record
    (.connectToAP requestType ap.BSSID)
  match a.connStatus with
  | some connStatus => s.reportStatus connStatus
  | none => s

def smHandover (s : Sys B) (a : Answers B) : Sys B :=
  if s.handoverWasPerformed = true ∧ s.candidateApIndex = .current then s.smEvent .failure
  else
    match nextCandidate s.listOfCandidateAps with
    | some (index, l) =>
      { s with
        listOfCandidateAps := l
        candidateApIndex := .listed index
        handoverWasPerformed := true }.connectToAP a
          (if fastConnectGroup < s.roamingTrigger.rank then .fullToAp else .fastToAp)
          (s.bssList.entry index)
    | none =>
      if s.roamingTrigger.rank ≤ lowQualityGroup then
        { s with candidateApIndex := .current }.connectToAP a
          (if s.handoverWasPerformed then .reconnectCurrAp else .retainCurrAp) s.currentAp
      else { s with candidateApIndex := .invalid }.smEvent .failure

def disconnect (s : Sys B) (a : Answers B) : Sys B :=
  let s := s.record .disconnect
  match a.connStatus with
  | some connStatus => s.reportStatus connStatus
  | none => s

/-- `roamingMngr_smFailHandover` and `roamingMngr_smScanFailure`. -/
def smFailHandover (s : Sys B) (a : Answers B) : Sys B :=
  { s with maskRoamingEvents := true, roamingTrigger := .none }.disconnect a

def smDisconnectWhileConnecting (s : Sys B) (a : Answers B) : Sys B :=
  if fastConnectGroup < s.roamingTrigger.rank then s.smFailHandover a else s

/-- `roamingMngr_smStartIdle`. The continuous scan starts with an empty list. -/
def smStartIdle (s : Sys B) (a : Answers B) : Sys B :=
  { s with
    maskRoamingEvents := false
    handoverWasPerformed := false
    roamingTrigger := .none
    currentAp := a.bssParams
    bssList := s.bssList.clear }

/-- `roamingMngr_smStop`. -/
def smStop (s : Sys B) : Sys B :=
  { s with
    maskRoamingEvents := true
    neighborApsExist := false
    roamingTrigger := .none }.record .stopped

/-- `scanMngr_stopImmediateScan`: the scan that runs may be answered at once. -/
def stopImmediateScan (s : Sys B) (a : Answers B) : Sys B :=
  match a.stoppedScan with
  | some scanCmpltStatus =>
    if 0 < s.scans then s.reportScan scanCmpltStatus a.channelValidity else s
  | none => s

def smStopWhileScanning (s : Sys B) (a : Answers B) : Sys B := (s.stopImmediateScan a).smStop

variable [DecidableEq B]

/-- The AP that is reported to the scan manager after a success. `INVALID_CANDIDATE_INDEX` is beyond
the list. -/
def newConnectedAp (s : Sys B) : BssEntry B :=
  match s.candidateApIndex with
  | .current => s.currentAp
  | .listed index => s.bssList.entry index
  | .invalid => s.bssList.entry 0xFF

def handoverDone (s : Sys B) (BSSID : B) : Sys B :=
  { s with bssList := s.bssList.removeBssid BSSID }.record (.handoverDone BSSID)

/-- `roamingMngr_smSuccHandover`. The AP of the request is the current one from now on. -/
def smSuccHandover (s : Sys B) : Sys B :=
  let s :=
    if s.handoverWasPerformed && s.pListOfAPs && 0 < s.bssList.numOfEntries then
      s.handoverDone s.newConnectedAp.BSSID
    else s
  { s with
    maskRoamingEvents := false
    candidateApIndex := .invalid
    handoverWasPerformed := false
    roamingTrigger := .none
    currentAp := s.apToConnect }.record .succeeded

def act (s : Sys B) (a : Answers B) : Action → Sys B
  | .startIdle => s.smStartIdle a
  | .nop => s
  | .unexpected => s
  | .stop => s.smStop
  | .roamTrigger => s.smRoamTrigger a
  | .invokeScan => s.smInvokeScan a
  | .selection => s.smSelection a
  | .stopWhileScanning => s.smStopWhileScanning a
  | .scanFailure => s.smFailHandover a
  | .handover => s.smHandover a
  | .disconnectWhileConnecting => s.smDisconnectWhileConnecting a
  | .succHandover => s.smSuccHandover
  | .failHandover => s.smFailHandover a

/-- The event in the slot is executed. -/
def dispatch (s : Sys B) (a : Answers B) (event : SmEvent) : Sys B :=
  let cell := roamingMngrAutoMatrix s.smState event
  { s with pending := none, smState := cell.1 }.act a cell.2

/-! ## Steps -/

inductive Input (B : Type*)
  | triggerRoamingCb (roamingTrigger : RoamingTrigger) (curTimestamp : ℕ)
  | connStatusCb (connStatus : ConnStatus)
  | immediateScanComplete (scanCmpltStatus : ScanMngrResultStatus)
      (channelValidity : BssEntry B → Bool)
  | updateNeighborApListCb (numOfEntries : ℕ)
  | setParam (enableDisable : Bool) (lowPassFilterRoamingAttempt : ℕ) (apQualityThreshold : ℤ)
      (bConnected : Bool)
  /-- The scan manager removes, inserts or updates an entry of its list. -/
  | removeEntry (index : ℕ)
  | insertNewBSS (e : BssEntry B)
  | updateBSSInfo (index : ℕ) (band : ERadioBand) (rssi : ℤ)
  | dispatch (a : Answers B)

/-- A handover status answers a request. -/
def mayReport (s : Sys B) : ConnStatus → Bool
  | .handoverSuccess => 0 < s.requests
  | .handoverFailure => 0 < s.requests
  | _ => true

/-- What happens from outside, while no event is processed. -/
def receive (s : Sys B) : Input B → Option (Sys B)
  | .triggerRoamingCb roamingTrigger curTimestamp =>
    some (s.triggerRoamingCb roamingTrigger curTimestamp)
  | .connStatusCb connStatus =>
    if s.mayReport connStatus then some (s.reportStatus connStatus) else none
  | .immediateScanComplete scanCmpltStatus channelValidity =>
    if 0 < s.scans then some (s.reportScan scanCmpltStatus channelValidity) else none
  | .updateNeighborApListCb numOfEntries => some (s.updateNeighborApListCb numOfEntries)
  | .setParam enableDisable lowPassFilterRoamingAttempt apQualityThreshold bConnected =>
    some (s.setParam enableDisable lowPassFilterRoamingAttempt apQualityThreshold bConnected)
  | .removeEntry index =>
    if index < s.bssList.numOfEntries then some { s with bssList := s.bssList.removeEntry index }
    else none
  | .insertNewBSS e => some { s with bssList := s.bssList.insertNewBSS e }
  | .updateBSSInfo index band rssi =>
    some { s with bssList := s.bssList.updateBSSInfo index band rssi }
  | .dispatch _ => none

def step (s : Sys B) (i : Input B) : Option (Sys B) :=
  match s.pending, i with
  | some event, .dispatch a => some (s.dispatch a event)
  | some _, _ => none
  | none, i => s.receive i

/-- After `roamingMngr_setDefaults`, with any list and AP in the modules beside it. -/
def init (bssList : BssList B) (ap : BssEntry B) : Sys B where
  smState := .idle
  pending := none
  enableDisable := false
  apQualityThreshold := -70
  lowPassFilterRoamingAttemptInMsec := 0
  roamingTrigger := .none
  maskRoamingEvents := true
  lowQualityTriggerTimestamp := 0
  scanType := .noScan
  pListOfAPs := false
  neighborApsExist := false
  listOfCandidateAps := ⟨[], [], []⟩
  candidateApIndex := .invalid
  handoverWasPerformed := false
  bssList := bssList
  currentAp := ap
  apToConnect := ap
  scans := 0
  requests := 0
  log := []

end Sys

end ArchosGpl.Wlan.RoamingMngr
