import ArchosGpl.Lib.Trace
import ArchosGpl.Lib.Machine
import Mathlib.Data.Nat.Notation

/-!
# Model of the station management entity (`Connection_Managment/sme.c`, `smeSm.c`)

The SME scans, connects and disconnects. Its events go through the generic state machine: the state
changes before the action runs, an event that an action sends waits until the action returns, and
none waits when `genSM_Event` returns to its caller (`utils/GenSM.c`). No action and no callback
sends two events, so an action here returns its event beside the new state, and `settle` executes
events until none is left.

Beside the fields of `TSme` the state has what is outstanding in the other modules (`scan`,
`connStarts`, `connStops`, `apConnStops`) and the log of the calls. A callback is an input; one that
another module makes while the SME calls it has its event executed after the action, which is the
next input. The site that the selection finds, the self site, the channel's validity and the answer
of the scan concentrator are inputs of the call that asks for them (`Selection`, `Answers`): the
scan result table and the scan parameters are not in the model. No allocation fails.
-/

namespace ArchosGpl.Wlan.Sme

open Lib

/-- `ESmeSmStates`. -/
inductive SmState
  | idle
  | waitConnect
  | scanning
  | connecting
  | connected
  | disconnecting
  deriving DecidableEq

/-- `ESmeSmEvents`. -/
inductive SmEvent
  | start
  | stop
  | connect
  | connectSuccess
  | connectFailure
  | disconnect
  deriving DecidableEq

inductive Action
  | start
  | stop
  | preConnect
  | connect
  | connectSuccess
  | disconnect
  | disconnectDone
  | stopScan
  | stopConnect
  | connWhenConnecting
  | actionUnexpected
  | nopAction
  | checkStartConditions

def tSmMatrix : SmState → SmEvent → SmState × Action
  | .idle, .start => (.waitConnect, .start)
  | .idle, .stop => (.idle, .actionUnexpected)
  | .idle, .connect => (.idle, .actionUnexpected)
  | .idle, .connectSuccess => (.idle, .actionUnexpected)
  | .idle, .connectFailure => (.idle, .actionUnexpected)
  | .idle, .disconnect => (.idle, .checkStartConditions)
  | .waitConnect, .start => (.waitConnect, .actionUnexpected)
  | .waitConnect, .stop => (.idle, .stop)
  | .waitConnect, .connect => (.scanning, .preConnect)
  | .waitConnect, .connectSuccess => (.waitConnect, .actionUnexpected)
  | .waitConnect, .connectFailure => (.waitConnect, .actionUnexpected)
  | .waitConnect, .disconnect => (.waitConnect, .start)
  | .scanning, .start => (.scanning, .actionUnexpected)
  | .scanning, .stop => (.disconnecting, .stopScan)
  | .scanning, .connect => (.connecting, .connect)
  | .scanning, .connectSuccess => (.scanning, .actionUnexpected)
  | .scanning, .connectFailure => (.waitConnect, .disconnectDone)
  | .scanning, .disconnect => (.disconnecting, .stopScan)
  | .connecting, .start => (.connecting, .actionUnexpected)
  | .connecting, .stop => (.disconnecting, .stopConnect)
  | .connecting, .connect => (.connecting, .connWhenConnecting)
  | .connecting, .connectSuccess => (.connected, .connectSuccess)
  | .connecting, .connectFailure => (.waitConnect, .disconnectDone)
  | .connecting, .disconnect => (.disconnecting, .stopConnect)
  | .connected, .start => (.connected, .actionUnexpected)
  | .connected, .stop => (.disconnecting, .disconnect)
  | .connected, .connect => (.connected, .actionUnexpected)
  | .connected, .connectSuccess => (.connected, .actionUnexpected)
  | .connected, .connectFailure => (.waitConnect, .disconnectDone)
  | .connected, .disconnect => (.disconnecting, .disconnect)
  | .disconnecting, .start => (.disconnecting, .actionUnexpected)
  | .disconnecting, .stop => (.disconnecting, .actionUnexpected)
  | .disconnecting, .connect => (.disconnecting, .actionUnexpected)
  | .disconnecting, .connectSuccess => (.disconnecting, .actionUnexpected)
  | .disconnecting, .connectFailure => (.waitConnect, .disconnectDone)
  | .disconnecting, .disconnect => (.disconnecting, .nopAction)

/-! ## Data -/

inductive EConnectMode
  | auto
  | manual
  deriving DecidableEq

/-- `ScanBssType_e`. -/
inductive ScanBssType
  | independent
  | infrastructure
  | any
  deriving DecidableEq

inductive ESsidType
  | any
  | specific
  | invalid
  deriving DecidableEq

/-- The connection types of `CONN_TYPE_PARAM`. -/
inductive ConnType
  | infra
  | self
  | ibss
  deriving DecidableEq

/-- The groups of the serving channel resource that the SME sets. -/
inductive ScrGroup
  | idle
  | drvScan
  | appScan
  | connect
  | connected
  deriving DecidableEq

inductive EScanCncnResultStatus
  | receivedFrame
  | scanCompleteOk
  | scanRunning
  | scanFailed
  | scanStopped
  | tsfError
  | scanAbortedFwReset
  | scanAbortedHigherPriority
  deriving DecidableEq

def EScanCncnResultStatus.final : EScanCncnResultStatus → Bool
  | .receivedFrame | .scanRunning => false
  | _ => true

/-- `mgmtStatus_e`. -/
inductive MgmtStatus
  | successful
  | unspecified
  | authReject
  | assocReject
  | securityFailure
  | apDeauthenticate
  | apDisassociate
  | roamingTrigger
  | disconnectDuringConnect
  | sgReselect
  | micFailure
  deriving DecidableEq

/-- The fields of `TSiteEntry` that are read: `bSelf` where the site type is `SITE_SELF`. -/
structure TSiteEntry where
  bssType : ScanBssType
  bSelf : Bool
  deriving DecidableEq

/-- A MAC address, and an SSID of `len` bytes. -/
abbrev MacAddr := List UInt8

abbrev Ssid := List UInt8

def maxSsidLen : ℕ := 32

def firstValidChar : UInt8 := 32

def ssidJunk (ssid : Ssid) : Bool :=
  decide (2 < ssid.length) && (ssid.take 3).all (· < firstValidChar)

def periodicScanMaxIntervalNum : ℕ := 16

structure TDisAssocReason where
  eMgmtStatus : MgmtStatus
  uStatusCode : ℕ

/-- What a search for a candidate is answered: the site that `sme_Select` finds, whether the desired
channel is valid, and the self site. -/
structure Selection where
  select : Option TSiteEntry
  channelValidity : Bool
  selfSite : Option TSiteEntry

/-- The candidate for an IBSS where no site is found. -/
def Selection.own (a : Selection) : Option TSiteEntry :=
  if a.channelValidity then a.selfSite else none

/-- What `smeSm_PreConnect` is answered: its search, and whether the driver scan is running. -/
structure Answers where
  selection : Selection
  scanRunning : Bool

/-- What is seen from outside. -/
inductive Act
  /-- `sme_Stop` is called. -/
  | smeStop
  | drvMainSmeStop
  | startPeriodicScan (running : Bool)
  | stopPeriodicScan
  | connSetType (connType : ConnType)
  | connStart
  | connStop
  | apConnStart (bIsForced : Bool)
  | apConnStop
  | disassociated (reason : TDisAssocReason)
  | notAssociated
  | disSelectSite

def Act.isSmeStop : Act → Bool
  | .smeStop => true
  | _ => false

def Act.isDrvMainSmeStop : Act → Bool
  | .drvMainSmeStop => true
  | _ => false

inductive DriverScan
  | none
  | running
  /-- Its stop was asked for. -/
  | stopping
  deriving DecidableEq

/-- `TSme`, with the state of its state machine, what is outstanding and the log. -/
structure Sys where
  smState : SmState
  bRadioOn : Bool
  eConnectMode : EConnectMode
  eBssType : ScanBssType
  tBssid : MacAddr
  eSsidType : ESsidType
  tSsid : Ssid
  bConnectRequired : Bool
  bRunning : Bool
  eLastConnectMode : EConnectMode
  bAuthSent : Bool
  uScanCount : ℕ
  bReselect : Bool
  bConstantScan : Bool
  pCandidate : Option TSiteEntry
  tDisAssoc : TDisAssocReason
  scrGroup : ScrGroup
  scan : DriverScan
  connStarts : ℕ
  connStops : ℕ
  apConnStops : ℕ
  log : List Act

/-- The parameters that `sme_SetDefaults` takes. -/
structure InitParams where
  bRadioOn : Bool
  eConnectMode : EConnectMode
  eDesiredBssType : ScanBssType
  tDesiredBssid : MacAddr
  tDesiredSsid : Ssid

namespace Sys

/-- The SSID type and the connect-required flag that go with an SSID. -/
def setSsidType (s : Sys) : Sys :=
  if ssidJunk s.tSsid then { s with eSsidType := .invalid, bConnectRequired := false }
  else if s.tSsid.length = 0 then { s with eSsidType := .any, bConnectRequired := true }
  else { s with eSsidType := .specific, bConnectRequired := true }

/-- The fields that `sme_Create` (all zero) and `sme_SetDefaults` set before the SSID type. -/
def unset (p : InitParams) : Sys where
  smState := .idle
  bRadioOn := p.bRadioOn
  eConnectMode := p.eConnectMode
  eBssType := p.eDesiredBssType
  tBssid := p.tDesiredBssid
  eSsidType := .any
  tSsid := p.tDesiredSsid.take maxSsidLen
  bConnectRequired := false
  bRunning := false
  eLastConnectMode := .auto
  bAuthSent := false
  uScanCount := 0
  bReselect := false
  bConstantScan := false
  pCandidate := none
  tDisAssoc := ⟨.successful, 0⟩
  scrGroup := .idle
  scan := .none
  connStarts := 0
  connStops := 0
  apConnStops := 0
  log := []

/-- After `sme_SetDefaults`. -/
def init (p : InitParams) : Sys := (unset p).setSsidType

def emit (s : Sys) (a : Act) : Sys := { s with log := s.log ++ [a] }

/-- `sme_Select` into `pCandidate`; with the reselect flag it is the primary site. -/
def smeSelect (s : Sys) (found : Option TSiteEntry) : Sys :=
  { s with bReselect := false, pCandidate := found }

/-- A call of `conn_start`; its status is only traced. -/
def connStart (s : Sys) : Sys := { s.emit .connStart with connStarts := s.connStarts + 1 }

/-- A call of `conn_stop`; its status is only traced. -/
def connStop (s : Sys) : Sys := { s.emit .connStop with connStops := s.connStops + 1 }

/-! ## The actions

Each returns the event that it sends. -/

def smeSmStart (s : Sys) : Sys × Option SmEvent :=
  let s := { s with scrGroup := if s.eConnectMode = .auto then .drvScan else .appScan }
  if !s.bRadioOn || !s.bRunning then (s, some .stop)
  else if s.bConnectRequired then (s, some .connect)
  else (s, none)

def smeSmStop (s : Sys) : Sys :=
  let s := { s with scrGroup := .idle }
  if !s.bRunning then s.emit .drvMainSmeStop else s

/-- The scan counter of `smeSm_PreConnect`. -/
def countScan (s : Sys) : Sys :=
  { s with uScanCount := s.uScanCount + if s.uScanCount < periodicScanMaxIntervalNum then 1 else 0 }

/-- `smeSm_PreConnect` in automatic mode, without a candidate: `sme_StartScan`, which does not start
a scan again that is not over, and the radio off if no scan starts. -/
def preConnectAuto (s : Sys) (a : Answers) : Sys × Option SmEvent :=
  if a.scanRunning && s.scan = .none then
    (({ s.emit (.startPeriodicScan true) with scan := .running } : Sys).countScan, none)
  else
    (({ s.emit (.startPeriodicScan false) with bRadioOn := false } : Sys).countScan,
      some .connectFailure)

/-- `smeSm_PreConnect` in manual mode, without a candidate. -/
def preConnectManual (s : Sys) (a : Answers) : Sys × Option SmEvent :=
  let s := { s with bConnectRequired := false }
  if s.eBssType = .infrastructure then (s, some .connectFailure)
  else
    let s := { s with pCandidate := a.selection.own }
    (s, some (if s.pCandidate.isSome then .connect else .connectFailure))

def smeSmPreConnect (s : Sys) (a : Answers) : Sys × Option SmEvent :=
  let s := { s with eLastConnectMode := s.eConnectMode, bAuthSent := false }
  let s := s.smeSelect a.selection.select
  match s.pCandidate, s.eConnectMode with
  | some _, _ => (s, some .connect)
  | none, .auto => s.preConnectAuto a
  | none, .manual => s.preConnectManual a

/-- The value of `CONN_TYPE_PARAM` for a candidate. -/
def connType (c : TSiteEntry) : ConnType :=
  if c.bssType = .independent then (if c.bSelf then .self else .ibss) else .infra

def smeSmConnect (s : Sys) : Sys × Option SmEvent :=
  match s.pCandidate with
  | none => (s, some .connectFailure)
  | some c =>
    let s := if c.bssType = .infrastructure then { s with scrGroup := .connect } else s
    ((s.emit (.connSetType (connType c))).connStart, none)

/-- The candidate's type is `BSS_INFRASTRUCTURE`; there is a candidate where this is asked
(`Inv.candidate`). -/
def infraCandidate (s : Sys) : Bool := s.pCandidate.any (·.bssType = .infrastructure)

def smeSmConnectSuccess (s : Sys) : Sys :=
  let s := { s with uScanCount := 0 }
  let s := if s.infraCandidate then
      s.emit (.apConnStart (s.tSsid.length ≠ 0 && !ssidJunk s.tSsid)) else s
  { s with scrGroup := .connected }

def smeSmDisconnect (s : Sys) : Sys :=
  let s := { s with scrGroup := .connect }
  if s.infraCandidate then { s.emit .apConnStop with apConnStops := s.apConnStops + 1 }
  else s.connStop

/-- The event to user mode at the end of a connection. -/
def notifyDisconnect (s : Sys) : Sys :=
  if s.bReselect then s
  else if s.bAuthSent then s.emit (.disassociated s.tDisAssoc)
  else if s.eLastConnectMode ≠ .auto then s.emit .notAssociated
  else s

def smeSmDisconnectDone (s : Sys) : Sys × Option SmEvent :=
  (s.notifyDisconnect.emit .disSelectSite).smeSmStart

def smeSmStopScan (s : Sys) : Sys :=
  { s.emit .stopPeriodicScan with scan := if s.scan = .none then .none else .stopping }

def smeSmCheckStartConditions (s : Sys) : Sys × Option SmEvent :=
  (s, if s.bRunning && s.bRadioOn then some .start else none)

def act (a : Answers) (s : Sys) : Action → Sys × Option SmEvent
  | .start => s.smeSmStart
  | .stop => (s.smeSmStop, none)
  | .preConnect => s.smeSmPreConnect a
  | .connect => s.smeSmConnect
  | .connectSuccess => (s.smeSmConnectSuccess, none)
  | .disconnect => (s.smeSmDisconnect, none)
  | .disconnectDone => s.smeSmDisconnectDone
  | .stopScan => (s.smeSmStopScan, none)
  | .stopConnect => (s.connStop, none)
  | .connWhenConnecting => (s.connStart, none)
  | .actionUnexpected => (s, none)
  | .nopAction => (s, none)
  | .checkStartConditions => s.smeSmCheckStartConditions

/-- The loop of `genSM_Event`, at most `fuel` events; `none` if events are left. -/
def settle (a : Answers) : ℕ → Sys × Option SmEvent → Option Sys
  | _, (s, none) => some s
  | 0, (_, some _) => none
  | fuel + 1, (s, some e) =>
    settle a fuel (act a { s with smState := (tSmMatrix s.smState e).1 } (tSmMatrix s.smState e).2)

/-! ## The calls to the SME -/

/-- The parameters of `sme_SetParam`; `wscPbMode` says that the mode is not off. -/
inductive SmeParam
  | radioOn (smeRadioOn : Bool)
  | desiredSsid (smeDesiredSsid : Ssid)
  | desiredSsidAct (smeDesiredSsid : Ssid)
  | desiredBssid (smeDesiredBssid : MacAddr)
  | connectionMode (smeConnectionMode : EConnectMode)
  | desiredBssType (smeDesiredBssType : ScanBssType)
  | wscPbMode (on : Bool)
  | unrecognized

/-- The statuses that `sme_SetParam` returns. -/
inductive ParamStatus
  | ok
  | valueNotValid
  | notSupported
  deriving DecidableEq

def smeSetParam (s : Sys) : SmeParam → ParamStatus × Sys × Option SmEvent
  | .radioOn b =>
    if s.bRadioOn ≠ b then
      let s := { s with bRadioOn := b }
      (.ok, s, if b then (if s.bRunning then some .start else none) else some .stop)
    else (.ok, s, none)
  | .desiredSsid ssid =>
    if maxSsidLen < ssid.length then (.valueNotValid, s, none)
    else if s.tSsid ≠ ssid then (.ok, { s with tSsid := ssid, uScanCount := 0 }, some .disconnect)
    else (.ok, s, none)
  | .desiredSsidAct ssid =>
    if maxSsidLen < ssid.length then (.valueNotValid, s, none)
    else
      let s := ({ s with bRadioOn := true, tSsid := ssid } : Sys).setSsidType
      let s := { s with uScanCount := 0 }
      (.ok, if s.bConnectRequired then s else { s with bConstantScan := false }, some .disconnect)
  | .desiredBssid bssid =>
    if s.tBssid ≠ bssid then (.ok, { s with tBssid := bssid, uScanCount := 0 }, some .disconnect)
    else (.ok, s, none)
  | .connectionMode mode =>
    if s.eConnectMode ≠ mode then
      (.ok, { s with eConnectMode := mode, uScanCount := 0 }, some .disconnect)
    else (.ok, s, none)
  | .desiredBssType bssType =>
    if s.eBssType ≠ bssType then
      (.ok, { s with eBssType := bssType, uScanCount := 0 }, some .disconnect)
    else (.ok, s, none)
  | .wscPbMode on =>
    if on then (.ok, { s with bConstantScan := true, uScanCount := 0 }, some .disconnect)
    else (.ok, { s with bConstantScan := false }, none)
  | .unrecognized => (.notSupported, s, none)

def smeStart (s : Sys) : Sys × Option SmEvent :=
  ({ s with bRunning := true }, if s.bRadioOn then some .start else none)

def smeStop (s : Sys) : Sys × Option SmEvent :=
  ({ s.emit .smeStop with bRunning := false }, some .stop)

def smeRestart (s : Sys) : Sys × Option SmEvent := ({ s with uScanCount := 0 }, some .disconnect)

def smeConnectRequired (s : Sys) : Sys × Option SmEvent :=
  ({ s with bRadioOn := true, uScanCount := 0, bConnectRequired := true }, some .disconnect)

def smeDisconnect (s : Sys) : Sys × Option SmEvent :=
  ({ s with bConnectRequired := false, bConstantScan := false }, some .disconnect)

/-- The end of a scan in `sme_ScanResultCB`: the candidate is searched in automatic mode only. -/
def scanEnded (s : Sys) (a : Selection) : Sys × Option SmEvent :=
  if s.eConnectMode = .auto then
    let s := s.smeSelect a.select
    let s := if s.pCandidate.isNone && s.eBssType ≠ .infrastructure then
        { s with pCandidate := a.own } else s
    (s, some (if s.pCandidate.isSome then .connect else .connectFailure))
  else (s, none)

def smeScanResultCb (s : Sys) (eStatus : EScanCncnResultStatus) (a : Selection) :
    Sys × Option SmEvent :=
  match eStatus with
  | .receivedFrame | .scanRunning => (s, none)
  | .scanStopped => (s, some .connectFailure)
  | .scanCompleteOk | .scanAbortedFwReset | .scanAbortedHigherPriority | .scanFailed | .tsfError =>
    s.scanEnded a

/-- `sme_ReportConnStatus`; `found` is the site that `sme_Select` finds. -/
def smeReportConnStatus (s : Sys) (eStatusType : MgmtStatus) (uStatusCode : ℕ)
    (found : Option TSiteEntry) : Sys × Option SmEvent :=
  match eStatusType with
  | .successful => ({ s with bAuthSent := true }, some .connectSuccess)
  | .assocReject | .securityFailure | .apDeauthenticate | .apDisassociate | .roamingTrigger
  | .authReject =>
    let s := { s with bAuthSent := true, tDisAssoc := ⟨eStatusType, uStatusCode⟩ }
    let s := s.smeSelect found
    (s, some (if s.pCandidate.isSome then .connect else .connectFailure))
  | .unspecified => ({ s with bAuthSent := true }, some .connectFailure)
  | .disconnectDuringConnect | .sgReselect | .micFailure => (s, none)

def smeReportApConnStatus (s : Sys) (eStatusType : MgmtStatus) (uStatusCode : ℕ) :
    Sys × Option SmEvent :=
  match eStatusType with
  | .sgReselect => ({ s with bReselect := true, bConnectRequired := true }, some .connectFailure)
  | .unspecified | .authReject | .assocReject | .securityFailure | .apDeauthenticate
  | .apDisassociate | .roamingTrigger =>
    ({ s with tDisAssoc := ⟨eStatusType, uStatusCode⟩ }, some .connectFailure)
  | .disconnectDuringConnect => (s, some .disconnect)
  | .successful | .micFailure => (s, none)

/-! ## Steps -/

/-- What can happen. A connection report answers a start or a stop (`bStop`); an AP connection
report answers a stop or nothing. -/
inductive Input
  | start
  | stop
  | restart
  | setParam (p : SmeParam)
  | connectRequired
  | disconnect
  | scanResultCb (eStatus : EScanCncnResultStatus) (a : Selection)
  | reportConnStatus (bStop : Bool) (eStatusType : MgmtStatus) (uStatusCode : ℕ)
      (found : Option TSiteEntry)
  | reportApConnStatus (bStop : Bool) (eStatusType : MgmtStatus) (uStatusCode : ℕ)

/-- A final scan status ends the scan that it reports. -/
def scanAnswered (s : Sys) (eStatus : EScanCncnResultStatus) : Option Sys :=
  if !eStatus.final then some s
  else if s.scan = .none then none
  else some { s with scan := .none }

def connAnswered (s : Sys) (bStop : Bool) : Option Sys :=
  if bStop then
    if s.connStops = 0 then none else some { s with connStops := s.connStops - 1 }
  else if s.connStarts = 0 then none else some { s with connStarts := s.connStarts - 1 }

/-- An AP connection report answers a stop, or comes unasked. -/
def apConnAnswered (s : Sys) (bStop : Bool) : Option Sys :=
  if !bStop then some s
  else if s.apConnStops = 0 then none
  else some { s with apConnStops := s.apConnStops - 1 }

/-- The call of an input up to its event; `none` for a report of what is not outstanding. -/
def call (s : Sys) : Input → Option (Sys × Option SmEvent)
  | .start => some s.smeStart
  | .stop => some s.smeStop
  | .restart => some s.smeRestart
  | .setParam p => some (s.smeSetParam p).2
  | .connectRequired => some s.smeConnectRequired
  | .disconnect => some s.smeDisconnect
  | .scanResultCb eStatus a => (s.scanAnswered eStatus).map (·.smeScanResultCb eStatus a)
  | .reportConnStatus bStop eStatusType uStatusCode found =>
    (s.connAnswered bStop).map (·.smeReportConnStatus eStatusType uStatusCode found)
  | .reportApConnStatus bStop eStatusType uStatusCode =>
    (s.apConnAnswered bStop).map (·.smeReportApConnStatus eStatusType uStatusCode)

/-- The most events that one call makes. -/
def maxEvents : ℕ := 6

/-- One step: a call, and the events to the end. -/
def step (s : Sys) (i : Input × Answers) : Option Sys := (s.call i.1).bind (settle i.2 maxEvents)

end Sys

end ArchosGpl.Wlan.Sme
