import ArchosGpl.Wlan.RegulatoryDomain.Model
import ArchosGpl.Wlan.ScanCncn.Model

/-!
# Model of the roaming scans of the scan manager (`scanMngr.c`)

The scan manager is the client of the scan concentrator for two kinds of scans: the continuous scan,
a cycle of tracking on each band and of discovery, and the immediate scan, which the roaming manager
asks for. `Sys` holds the states of both with the policy, and which of the two has a scan in the
concentrator: one that was answered `SCAN_CRS_SCAN_RUNNING` and had no final callback yet.

`scanCncn_StopScan` may call back before it returns, so a function stops at that call: it leaves
what it has to do after it on `stack`, and `.stopScanReturns` goes on with it. Any other input may
come in between, which covers what a client does from inside the callback.

A scan command is built from the lists of channels, neighbours and tracked APs. What these give is
an input (`Found`): which of the listed channels may be added, what is known of the current BSS, and
what the concentrator answers to the command. A cycle may begin at any time.
-/

open Function (update update_apply)

namespace ArchosGpl.Wlan.ScanMngr

open Lib
open Wlan.ScanCncn (EScanCncnResultStatus)

/-! ## Data -/

/-- `scan_immedScanState_e`. -/
inductive ImmedScanState
  | idle
  | gBand
  | aBand
  | stopping
  deriving DecidableEq

/-- `scan_contScanState_e`. -/
inductive ContScanState
  | idle
  | trackingGBand
  | trackingABand
  | discovering
  | stopping
  deriving DecidableEq

/-- `scan_discoveryPart_e`. -/
inductive DiscoveryPart
  | neighborG
  | neighborA
  | channelListG
  | channelListA
  | noDiscovery
  deriving DecidableEq

/-- `scan_mngrResultStatus_e`. -/
inductive ScanMngrResultStatus
  | scanCompleteOk
  | scanRunning
  | scanNotAttemptedAlreadyRunning
  | scanNotAttemptedEmptyPolicy
  | scanNotAttemptedNoChannelsAvailable
  | scanFailed
  | scanStopped
  | scanAbortedFwReset
  | scanAbortedHigherPriority
  deriving DecidableEq

def scanMngrConvertResultStatus : EScanCncnResultStatus → ScanMngrResultStatus
  | .scanCompleteOk => .scanCompleteOk
  | .scanRunning => .scanRunning
  | .scanFailed => .scanFailed
  | .scanStopped => .scanStopped
  | .tsfError => .scanFailed
  | .scanAbortedFwReset => .scanAbortedFwReset
  | .scanAbortedHigherPriority => .scanAbortedHigherPriority

/-- `TScanBandPolicy`: whether the method of a scan is other than `SCAN_TYPE_NO_SCAN`. -/
structure ScanBandPolicy where
  bTracking : Bool
  bImmediate : Bool
  numOfChannelsForDiscovery : ℕ

/-- `TScanPolicy`, with the result of `scanMngrGetPolicyByBand` for each band. -/
structure ScanPolicy where
  gPolicy : Option ScanBandPolicy
  aPolicy : Option ScanBandPolicy
  bssNumberToStartDiscovery : ℕ

/-- What a command is built from and answered with. A list of channels says which of them are valid
for the scan. -/
structure Found where
  currentBSSBeaconInterval : ℕ
  currentBSSDtimPeriod : ℕ
  gChannels : List Bool
  aChannels : List Bool
  discoveryFirst : List Bool
  discoverySecond : List Bool
  currentDiscoveryPart : DiscoveryPart
  numOfEntries : ℕ
  resultStatus : EScanCncnResultStatus

/-- What is left to do when `scanCncn_StopScan` returns. -/
inductive Frame
  /-- In `scanMngr_stopContScan`. -/
  | stopContScan
  /-- In `scanMngr_setScanPolicy`, after the continuous scan was stopped. -/
  | setScanPolicyCont (scanPolicy : ScanPolicy)
  /-- In `scanMngr_setScanPolicy`, after the immediate scan was stopped. -/
  | setScanPolicyImmed (scanPolicy : ScanPolicy)
  /-- In `scanMngr_handoverDone`. -/
  | handoverDone
  /-- In `scanMngr_stopImmediateScan`. -/
  | stopImmediateScan

/-- What the roaming manager sees of its immediate scans. -/
inductive Entry
  /-- `scanMngr_startImmediateScan` returned `SCAN_MRS_SCAN_RUNNING`. -/
  | accepted
  /-- `scanMngr_immediateScanComplete` was called. -/
  | answered (scanCmpltStatus : ScanMngrResultStatus)
  deriving DecidableEq

/-- The scan manager, and the scans that it has in the concentrator. -/
structure Sys where
  contScanState : ContScanState
  immedScanState : ImmedScanState
  bContinuousScanStarted : Bool
  scanPolicy : ScanPolicy
  numOfChannels : ℕ
  stack : List Frame
  bContOutstanding : Bool
  bImmedOutstanding : Bool
  log : List Entry

/-! ## Building a command -/

def scanMaxNumOfNormalChannelsPerCommand : ℕ := 16

def scanMaxNumOfSpsChannelsPerCommand : ℕ := 16

/-- The loops that add the valid channels of a list as long as there is room in the command. -/
def addChannels (limit : ℕ) : List Bool → ℕ → ℕ
  | [], numOfChannels => numOfChannels
  | bValid :: channels, numOfChannels =>
    if numOfChannels < limit then
      addChannels limit channels (if bValid then numOfChannels + 1 else numOfChannels)
    else numOfChannels

namespace Sys

/-- `scanMngrBuildImmediateScanCommand` and `scanMngrBuildTrackScanCommand`. -/
def buildScanCommand (s : Sys) (channels : List Bool) : Sys :=
  { s with numOfChannels := addChannels scanMaxNumOfNormalChannelsPerCommand channels 0 }

def discoveryPolicy (s : Sys) : DiscoveryPart → Option ScanBandPolicy
  | .neighborG | .channelListG => s.scanPolicy.gPolicy
  | _ => s.scanPolicy.aPolicy

/-- `scanMngrBuildDiscoveryScanCommand`. Both lists that it may add are on the band of the discovery
part. -/
def buildDiscoveryScanCommand (s : Sys) (f : Found) : Sys :=
  match s.discoveryPolicy f.currentDiscoveryPart with
  | none => s
  | some bandPolicy =>
    let limit :=
      min bandPolicy.numOfChannelsForDiscovery scanMaxNumOfNormalChannelsPerCommand
    let numOfChannels := addChannels limit f.discoveryFirst 0
    { s with
      numOfChannels :=
        if numOfChannels < bandPolicy.numOfChannelsForDiscovery then
          addChannels limit f.discoverySecond numOfChannels
        else numOfChannels }

/-! ## The continuous scan -/

/-- A command of the continuous scan, sent in a new state. A failure ends the cycle. -/
def startCont (s : Sys) (contScanState : ContScanState) (resultStatus : EScanCncnResultStatus) :
    Sys :=
  if resultStatus = .scanRunning then
    { s with contScanState := contScanState, bContOutstanding := true }
  else { s with contScanState := .idle }

/-- The attempt to track on a band, and whether a command was sent. -/
def startTracking (s : Sys) (bandPolicy : Option ScanBandPolicy) (channels : List Bool)
    (contScanState : ContScanState) (resultStatus : EScanCncnResultStatus) : Sys × Bool :=
  match bandPolicy with
  | some bandPolicy =>
    if bandPolicy.bTracking then
      let s := s.buildScanCommand channels
      if 0 < s.numOfChannels then (s.startCont contScanState resultStatus, true) else (s, false)
    else (s, false)
  | none => (s, false)

/-- The attempt to discover, and whether a command was sent. -/
def startDiscovery (s : Sys) (f : Found) : Sys × Bool :=
  if f.currentDiscoveryPart ≠ .noDiscovery ∧
      f.numOfEntries ≤ s.scanPolicy.bssNumberToStartDiscovery then
    let s := s.buildDiscoveryScanCommand f
    if 0 < s.numOfChannels then (s.startCont .discovering f.resultStatus, true) else (s, false)
  else (s, false)

/-- Go on where no command was sent. -/
def orElse : Sys × Bool → (Sys → Sys) → Sys
  | (s, true), _ => s
  | (s, false), next => next s

def performContinuousScan (s : Sys) (f : Found) : Sys :=
  if s.contScanState ≠ .idle then s
  else if f.currentBSSBeaconInterval = 0 ∨ f.currentBSSDtimPeriod = 0 then s
  else
    orElse (s.startTracking s.scanPolicy.gPolicy f.gChannels .trackingGBand f.resultStatus) fun s =>
      orElse (s.startTracking s.scanPolicy.aPolicy f.aChannels .trackingABand f.resultStatus) fun s =>
        (s.startDiscovery f).1

/-- The cases of `scanMngr_contScanCB` from tracking on A on: discovery, or the end of the cycle. -/
def contDiscover (s : Sys) (f : Found) : Sys :=
  orElse (s.startDiscovery f) fun s => { s with contScanState := .idle }

/-- `scanMngr_contScanCB` when a scan has ended. -/
def contScanCB (s : Sys) (resultStatus : EScanCncnResultStatus) (f : Found) : Sys :=
  if scanMaxNumOfSpsChannelsPerCommand < s.numOfChannels then s
  else
    match resultStatus with
    | .scanCompleteOk =>
      match s.contScanState with
      | .trackingGBand =>
        orElse (s.startTracking s.scanPolicy.aPolicy f.aChannels .trackingABand f.resultStatus)
          fun s => s.contDiscover f
      | .trackingABand => s.contDiscover f
      | .discovering => { s with contScanState := .idle }
      | .stopping => { s with contScanState := .idle }
      | .idle => { s with contScanState := .idle }
    | _ => { s with contScanState := .idle }

def startContScan (s : Sys) : Sys :=
  if s.bContinuousScanStarted then s else { s with bContinuousScanStarted := true }

/-- `scanMngr_stopContScan`, up to the stop. -/
def stopContScan (s : Sys) : Sys :=
  if s.bContinuousScanStarted then
    let s := { s with bContinuousScanStarted := false }
    if s.contScanState ≠ .idle ∧ s.contScanState ≠ .stopping then
      { s with stack := .stopContScan :: s.stack }
    else s
  else s

/-- A continuous scan that is running shall not go on. -/
def markContStopping (s : Sys) : Sys :=
  if s.contScanState ≠ .idle then { s with contScanState := .stopping } else s

def setNeighborAPs (s : Sys) : Sys := s.markContStopping

/-- `scanMngr_handoverDone`, up to the stop. -/
def handoverDone (s : Sys) : Sys :=
  if s.contScanState ≠ .idle then
    { s with contScanState := .stopping, stack := .handoverDone :: s.stack }
  else s

/-! ## The immediate scan -/

def immediateScanComplete (s : Sys) (scanCmpltStatus : ScanMngrResultStatus) : Sys :=
  { s with log := s.log ++ [.answered scanCmpltStatus] }

/-- The end of an immediate scan: its state is reset, and the roaming manager is answered. -/
def endImmed (s : Sys) (scanCmpltStatus : ScanMngrResultStatus) : Sys :=
  ({ s with immedScanState := .idle } : Sys).immediateScanComplete scanCmpltStatus

/-- `scanMngr_immedScanCB` when the scan on G has ended: go on with A. -/
def immedNextBand (s : Sys) (f : Found) : Sys :=
  match s.scanPolicy.aPolicy with
  | some aPolicy =>
    if aPolicy.bImmediate then
      let s := s.buildScanCommand f.aChannels
      if 0 < s.numOfChannels ∧ f.resultStatus = .scanRunning then
        { s with immedScanState := .aBand, bImmedOutstanding := true }
      else s.endImmed .scanCompleteOk
    else s.endImmed .scanCompleteOk
  | none => s.endImmed .scanCompleteOk

/-- `scanMngr_immedScanCB` when a scan has ended. -/
def immedScanCB (s : Sys) (resultStatus : EScanCncnResultStatus) (f : Found) : Sys :=
  match resultStatus with
  | .scanCompleteOk =>
    match s.immedScanState with
    | .gBand => s.immedNextBand f
    | .stopping => s.endImmed .scanStopped
    | .aBand => s.endImmed .scanCompleteOk
    | .idle => { s with immedScanState := .idle }
  | resultStatus => s.endImmed (scanMngrConvertResultStatus resultStatus)

def startImmed (s : Sys) (immedScanState : ImmedScanState) (resultStatus : EScanCncnResultStatus) :
    Sys × ScanMngrResultStatus :=
  let s := ({ s with immedScanState := immedScanState } : Sys).markContStopping
  if resultStatus = .scanRunning then
    ({ s with bImmedOutstanding := true, log := s.log ++ [.accepted] }, .scanRunning)
  else (s, .scanFailed)

/-- Whether the policy of a band has an immediate scan. -/
def hasImmediate : Option ScanBandPolicy → Bool
  | some bandPolicy => bandPolicy.bImmediate
  | none => false

/-- The attempt of `scanMngr_startImmediateScan` on A. -/
def startImmedABand (s : Sys) (f : Found) : Sys × ScanMngrResultStatus :=
  if hasImmediate s.scanPolicy.aPolicy then
    let s := s.buildScanCommand f.aChannels
    if s.numOfChannels = 0 then (s, .scanNotAttemptedNoChannelsAvailable)
    else s.startImmed .aBand f.resultStatus
  else (s, .scanNotAttemptedNoChannelsAvailable)

/-- `scanMngr_startImmediateScan`. Whether only neighbours are scanned is in the lists of channels. -/
def startImmediateScan (s : Sys) (f : Found) : Sys × ScanMngrResultStatus :=
  if s.immedScanState ≠ .idle then (s, .scanNotAttemptedAlreadyRunning)
  else if !hasImmediate s.scanPolicy.gPolicy && !hasImmediate s.scanPolicy.aPolicy then
    (s, .scanNotAttemptedEmptyPolicy)
  else if hasImmediate s.scanPolicy.gPolicy then
    let s := s.buildScanCommand f.gChannels
    if 0 < s.numOfChannels then s.startImmed .gBand f.resultStatus else s.startImmedABand f
  else s.startImmedABand f

/-- `scanMngr_stopImmediateScan`, up to the stop. -/
def stopImmediateScan (s : Sys) : Sys :=
  if s.immedScanState = .aBand ∨ s.immedScanState = .gBand then
    { s with immedScanState := .stopping, stack := .stopImmediateScan :: s.stack }
  else s

/-! ## The policy -/

/-- `scanMngr_setScanPolicy` from the immediate scan on, up to the stop. -/
def setScanPolicyImmed (s : Sys) (scanPolicy : ScanPolicy) : Sys :=
  if s.immedScanState ≠ .idle then
    { s with immedScanState := .stopping, stack := .setScanPolicyImmed scanPolicy :: s.stack }
  else { s with scanPolicy := scanPolicy }

/-- `scanMngr_setScanPolicy`, up to the first stop. -/
def setScanPolicy (s : Sys) (scanPolicy : ScanPolicy) : Sys :=
  if s.contScanState ≠ .idle then
    { s with contScanState := .stopping, stack := .setScanPolicyCont scanPolicy :: s.stack }
  else s.setScanPolicyImmed scanPolicy

/-! ## Steps -/

/-- Go on after `scanCncn_StopScan`. -/
def resume (s : Sys) : Frame → Sys
  | .stopContScan => { s with contScanState := .stopping }
  | .setScanPolicyCont scanPolicy => s.setScanPolicyImmed scanPolicy
  | .setScanPolicyImmed scanPolicy => { s with scanPolicy := scanPolicy }
  | .handoverDone => s
  | .stopImmediateScan => s

/-- `scanCncn_StopScan` returns. -/
def stopScanReturns (s : Sys) : Option Sys :=
  match s.stack with
  | frame :: stack => some (({ s with stack := stack } : Sys).resume frame)
  | [] => none

inductive Input
  /-- A cycle of the continuous scan begins. -/
  | performContinuousScan (f : Found)
  | receivedFrame
  /-- The final callback of the continuous scan. -/
  | contScanCB (resultStatus : EScanCncnResultStatus) (f : Found)
  /-- The final callback of the immediate scan. -/
  | immedScanCB (resultStatus : EScanCncnResultStatus) (f : Found)
  | setScanPolicy (scanPolicy : ScanPolicy)
  | setNeighborAPs
  | handoverDone
  | startImmediateScan (f : Found)
  | stopImmediateScan
  | startContScan
  | stopContScan
  | stopScanReturns

/-- One step. A final callback comes for a scan that is outstanding. -/
def step (s : Sys) : Input → Option Sys
  | .performContinuousScan f => some (s.performContinuousScan f)
  | .receivedFrame => some s
  | .contScanCB resultStatus f =>
    if s.bContOutstanding then
      some (({ s with bContOutstanding := false } : Sys).contScanCB resultStatus f)
    else none
  | .immedScanCB resultStatus f =>
    if s.bImmedOutstanding then
      some (({ s with bImmedOutstanding := false } : Sys).immedScanCB resultStatus f)
    else none
  | .setScanPolicy scanPolicy => some (s.setScanPolicy scanPolicy)
  | .setNeighborAPs => some s.setNeighborAPs
  | .handoverDone => some s.handoverDone
  | .startImmediateScan f => some (s.startImmediateScan f).1
  | .stopImmediateScan => some s.stopImmediateScan
  | .startContScan => some s.startContScan
  | .stopContScan => some s.stopContScan
  | .stopScanReturns => s.stopScanReturns

/-- After `scanMngr_init`. -/
def init : Sys :=
  ⟨.idle, .idle, false, ⟨none, none, 0⟩, 0, [], false, false, []⟩

end Sys

/-!
## The track list of the scan manager (`scanMngr.c`)

The list of the APs that were found, which `scanMngr_getBSSList` hands out by its address. An entry
is removed by moving the last one into its place, so what is behind an index may change; the slots
from `numOfEntries` on keep what was in them.

`BssList` carries what its operations keep: there are at most `MAX_SIZE_OF_BSS_TRACK_LIST` entries
(the policy's list size is taken to be no larger), and no two of them have the same BSSID. The
fields of an entry that are not read here are left out.
-/

section BssList

open Wlan.RegulatoryDomain (ERadioBand)

variable {B : Type*}

structure BssEntry (B : Type*) where
  BSSID : B
  band : ERadioBand
  rssi : ℤ
  bNeighborAP : Bool

def maxSizeOfBssTrackList : ℕ := 16

structure BssList (B : Type*) where
  numOfEntries : ℕ
  entry : ℕ → BssEntry B
  numOfEntries_le : numOfEntries ≤ maxSizeOfBssTrackList
  eq_of_bssid : ∀ i < numOfEntries, ∀ j < numOfEntries, (entry i).BSSID = (entry j).BSSID → i = j

namespace BssList

def clear (l : BssList B) : BssList B :=
  ⟨0, l.entry, Nat.zero_le _, fun _ h => absurd h (Nat.not_lt_zero _)⟩

/-- `scanMngrRemoveBSSListEntry`. -/
def removeEntry (l : BssList B) (index : ℕ) : BssList B where
  numOfEntries := l.numOfEntries - 1
  entry :=
    if index = l.numOfEntries - 1 then l.entry
    else update l.entry index (l.entry (l.numOfEntries - 1))
  numOfEntries_le := Nat.le_trans (Nat.sub_le _ _) l.numOfEntries_le
  eq_of_bssid := by
    intro i hi j hj h
    have hlast := l.eq_of_bssid (l.numOfEntries - 1) (by omega)
    have hij := l.eq_of_bssid i (by omega) j (by omega)
    split at h
    · exact hij h
    · simp only [update_apply] at h
      split at h <;> split at h
      · omega
      · have := hlast j (by omega) h
        omega
      · have := hlast i (by omega) h.symm
        omega
      · exact hij h

/-- The loops that remove the entries that are not to stay. -/
def removeLoop (stays : BssEntry B → Bool) : ℕ → ℕ → BssList B → BssList B
  | 0, _, l => l
  | fuel + 1, index, l =>
    if index < l.numOfEntries then
      if stays (l.entry index) then removeLoop stays fuel (index + 1) l
      else removeLoop stays fuel index (l.removeEntry index)
    else l

/-- `scanMngr_getBSSList`: the entries whose channels are not valid any more are removed first. -/
def getBSSList (channelValidity : BssEntry B → Bool) (l : BssList B) : BssList B :=
  removeLoop channelValidity l.numOfEntries 0 l

/-- `scanMngrUpdateBSSInfo`, which leaves the BSSID and the neighbour mark. -/
def updateBSSInfo (l : BssList B) (index : ℕ) (band : ERadioBand) (rssi : ℤ) : BssList B where
  numOfEntries := l.numOfEntries
  entry := update l.entry index { l.entry index with band := band, rssi := rssi }
  numOfEntries_le := l.numOfEntries_le
  eq_of_bssid := by
    intro i hi j hj h
    refine l.eq_of_bssid i hi j hj ?_
    simp only [update_apply] at h
    split at h <;> split at h <;> simp_all

variable [DecidableEq B]

def getTrackIndexByBssid (l : BssList B) (bssId : B) : Option ℕ :=
  (List.range l.numOfEntries).find? fun i => (l.entry i).BSSID = bssId

theorem bssid_ne_of_not_tracked {l : BssList B} {bssId : B}
    (h : l.getTrackIndexByBssid bssId = none) {i : ℕ} (hi : i < l.numOfEntries) :
    (l.entry i).BSSID ≠ bssId := by
  have hnone := List.find?_eq_none.mp h i (List.mem_range.mpr hi)
  simpa using hnone

/-- `scanMngrInsertNewBSSToTrackingList`, for an AP that is not in the list, while there is room. -/
def insertNewBSS (l : BssList B) (e : BssEntry B) : BssList B :=
  if h : l.numOfEntries < maxSizeOfBssTrackList ∧ l.getTrackIndexByBssid e.BSSID = none then
    { numOfEntries := l.numOfEntries + 1
      entry := update l.entry l.numOfEntries e
      numOfEntries_le := h.1
      eq_of_bssid := by
        intro i hi j hj hij
        simp only [update_apply] at hij
        split at hij <;> split at hij
        · omega
        · exact absurd hij.symm (bssid_ne_of_not_tracked h.2 (by omega))
        · exact absurd hij (bssid_ne_of_not_tracked h.2 (by omega))
        · exact l.eq_of_bssid i (by omega) j (by omega) hij }
  else l

/-- The end of `scanMngr_handoverDone`: the new AP is not tracked any more. -/
def removeBssid (l : BssList B) (bssId : B) : BssList B :=
  match l.getTrackIndexByBssid bssId with
  | some index => l.removeEntry index
  | none => l

end BssList

end BssList

end ArchosGpl.Wlan.ScanMngr
