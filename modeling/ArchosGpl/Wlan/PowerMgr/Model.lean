import ArchosGpl.Lib.Machine
import Mathlib.Algebra.Group.Nat.Defs
import Mathlib.Logic.Function.Basic

/-!
# The power manager

Model of `stad/src/Sta_Management/PowerMgr.c`. The power manager keeps one power mode for each
priority and follows the highest priority that is enabled. While power save is on it watches the
traffic with two pairs of threshold notifications of the traffic monitor: the pass to active and to
doze for the automatic mode, and the enabling and disabling of the beacon early termination (BET).

* `notif` says which notifications are enabled (`TrafficMonitor_StartEventNotif`,
  `TrafficMonitor_StopEventNotif`).
* The commands to the firmware, the QoS manager and the keep-alive module are logged in `commands`.
  `connections` logs, for each start of power save, its profile and whether the BET notifications
  were started.

Registration of the events, tracing and the keep-alive parameters are left out.
-/

namespace ArchosGpl.Wlan.PowerMgr

open Lib

/-! ## Data -/

/-- `PowerMgr_PowerMode_e`. -/
inductive PowerMode where
  | auto | active | shortDoze | longDoze | psOnly
  deriving DecidableEq

/-- `PowerMgr_Priority_e`; the reauthentication and the WPS priority are the same. -/
inductive Priority where
  | user | sg | reauth | psPollFailure
  deriving DecidableEq

def Priority.descending : List Priority := [.psPollFailure, .reauth, .sg, .user]

structure ModePriority where
  powerMode : PowerMode
  priorityEnable : Bool

/-- The events registered in the traffic monitor. -/
inductive TMEvent where
  | passToActive | passToDoze | betEnable | betDisable
  deriving DecidableEq

/-- `ETnetWakeOn`. -/
inductive WakeOn where
  | beacon | dtim | nBeacon | nDtim
  deriving DecidableEq

inductive PowerPolicy where
  | elp | pd | awake
  deriving DecidableEq

/-- `EventsPowerSave_e`. -/
inductive PsStatus where
  | enterFail | enterSuccess | exitFail | exitSuccess | other
  deriving DecidableEq

/-- What the power manager asks of the other modules. -/
inductive Command where
  | setPsMode (on sendNullDataOnExit : Bool)
  | cfgWakeUpCondition (listenInterval : ℕ) (tnetWakeupOn : WakeOn)
  | cfgSleepAuth (level : PowerPolicy)
  | cfgBet (enable : Bool) (maximumConsecutiveET : ℕ)
  | setNullRateModulation
  | updatePsTraffic (on : Bool)
  | keepAliveStart
  | keepAliveStop (bDisconnect : Bool)
  deriving DecidableEq

/-- A start of power save. -/
structure Connection where
  profile : PowerMode
  betStarted : Bool

/-- What the traffic monitor and the site manager report. -/
structure Env where
  frameCount : ℕ
  beaconInterval : ℕ
  dtimPeriod : ℕ

structure InitParams where
  powerMode : PowerMode
  reAuthActivePriority : Bool
  beaconListenInterval : ℕ
  dtimListenInterval : ℕ
  defaultPowerLevel : PowerPolicy
  powerSavePowerLevel : PowerPolicy
  maximalFullBeaconReceptionInterval : ℕ
  psPollDeliveryFailureRecoveryPeriod : ℕ
  autoModeActiveTH : ℕ
  autoModeDozeMode : PowerMode
  betEnable : Bool
  betEnableThreshold : ℕ
  betDisableThreshold : ℕ

/-- `PowerMgr_t`, the notifications and the logs. -/
structure PowerMgrT where
  desiredPowerModeProfile : PowerMode
  powerMngModePriority : Priority → ModePriority
  lastPowerModeProfile : PowerMode
  psEnable : Bool
  autoModeActiveTH : ℕ
  autoModeDozeMode : PowerMode
  beaconListenInterval : ℕ
  dtimListenInterval : ℕ
  defaultPowerLevel : PowerPolicy
  powerSavePowerLevel : PowerPolicy
  lastPsTransaction : PsStatus
  maxFullBeaconInterval : ℕ
  betEnable : Bool
  betTrafficEnable : Bool
  betEnableThreshold : ℕ
  betDisableThreshold : ℕ
  psPollDeliveryFailureRecoveryPeriod : ℕ
  retryPsTimer : Bool
  psPollFailureTimer : Bool
  notif : TMEvent → Bool
  commands : List Command
  connections : List Connection

namespace PowerMgrT

/-- `PowerMgr_SetDefaults`, on the memory that `PowerMgr_create` has cleared. -/
def setDefaults (init : InitParams) : PowerMgrT where
  desiredPowerModeProfile := init.powerMode
  powerMngModePriority p :=
    { powerMode := if p = .reauth ∧ init.reAuthActivePriority then .active else init.powerMode
      priorityEnable := p = .user }
  lastPowerModeProfile := .auto
  psEnable := false
  autoModeActiveTH := init.autoModeActiveTH
  autoModeDozeMode := init.autoModeDozeMode
  beaconListenInterval := init.beaconListenInterval
  dtimListenInterval := init.dtimListenInterval
  defaultPowerLevel := init.defaultPowerLevel
  powerSavePowerLevel := init.powerSavePowerLevel
  lastPsTransaction := .enterFail
  maxFullBeaconInterval := init.maximalFullBeaconReceptionInterval
  betEnable := init.betEnable
  betTrafficEnable := false
  betEnableThreshold := init.betEnableThreshold
  betDisableThreshold := init.betDisableThreshold
  psPollDeliveryFailureRecoveryPeriod := init.psPollDeliveryFailureRecoveryPeriod
  retryPsTimer := false
  psPollFailureTimer := false
  notif _ := false
  commands := [.cfgSleepAuth init.defaultPowerLevel]
  connections := []

variable (s : PowerMgrT)

def send (c : Command) : PowerMgrT := { s with commands := s.commands ++ [c] }

def startEventNotif (e : TMEvent) : PowerMgrT := { s with notif := Function.update s.notif e true }

def stopEventNotif (e : TMEvent) : PowerMgrT := { s with notif := Function.update s.notif e false }

def setProfile (m : PowerMode) : PowerMgrT := { s with desiredPowerModeProfile := m }

def setPsEnable (b : Bool) : PowerMgrT := { s with psEnable := b }

def setModePriority (p : Priority) (m : ModePriority) : PowerMgrT :=
  { s with powerMngModePriority := Function.update s.powerMngModePriority p m }

/-! ## The profile -/

def powerMgrGetHighestPriority : PowerMode :=
  match Priority.descending.find? fun p => (s.powerMngModePriority p).priorityEnable with
  | some p => (s.powerMngModePriority p).powerMode
  | none => s.desiredPowerModeProfile

def wakeUpShortDoze : PowerMgrT :=
  s.send (.cfgWakeUpCondition s.beaconListenInterval
    (if s.beaconListenInterval > 1 then .nBeacon else .beacon))

def wakeUpLongDoze : PowerMgrT :=
  s.send (.cfgWakeUpCondition s.dtimListenInterval
    (if s.dtimListenInterval > 1 then .nDtim else .dtim))

def powerMgr_SGSetUserDesiredwakeUpCond : PowerMgrT :=
  if s.psEnable then
    match (s.powerMngModePriority .user).powerMode with
    | .auto => if s.autoModeDozeMode = .shortDoze then s.wakeUpShortDoze else s.wakeUpLongDoze
    | .shortDoze => s.wakeUpShortDoze
    | .longDoze => s.wakeUpLongDoze
    | _ => s
  else s

def powerMgrPowerProfileConfiguration (desiredPowerMode : PowerMode) : PowerMgrT :=
  let s := { s with retryPsTimer := false, lastPowerModeProfile := desiredPowerMode }
  match desiredPowerMode with
  | .auto => s
  | .active => s.send (.setPsMode false true)
  | .shortDoze => s.wakeUpShortDoze.send (.setPsMode true true)
  | .longDoze => s.wakeUpLongDoze.send (.setPsMode true true)
  | .psOnly => s.powerMgr_SGSetUserDesiredwakeUpCond.send (.setPsMode true true)

def powerMgrDisableThresholdsIndications : PowerMgrT :=
  (s.stopEventNotif .passToActive).stopEventNotif .passToDoze

def powerMgrEnableThresholdsIndications : PowerMgrT :=
  (s.startEventNotif .passToActive).startEventNotif .passToDoze

def powerMgrStartAutoPowerMode (e : Env) : PowerMgrT :=
  let busy : Bool := e.frameCount ≥ s.autoModeActiveTH ∧ e.frameCount > 0
  let s :=
    if s.desiredPowerModeProfile = .auto then
      s.powerMgrPowerProfileConfiguration (if busy then .active else s.autoModeDozeMode)
    else if s.desiredPowerModeProfile ≠ .active then s.send (.updatePsTraffic busy)
    else s
  s.powerMgrEnableThresholdsIndications

def powerMgr_setPowerMode (e : Env) : PowerMgrT :=
  let powerMode := s.powerMgrGetHighestPriority
  if s.desiredPowerModeProfile ≠ powerMode then
    let previousPowerModeProfile := s.desiredPowerModeProfile
    let s := s.setProfile powerMode
    let s := if powerMode = .active ∨ powerMode = .auto then s.send (.updatePsTraffic false) else s
    let s :=
      if previousPowerModeProfile ≠ .active then s.powerMgrDisableThresholdsIndications else s
    if powerMode = .auto then
      if s.psEnable then s.powerMgrStartAutoPowerMode e else s
    else if s.psEnable then
      let s := if powerMode ≠ .active then s.powerMgrStartAutoPowerMode e else s
      s.powerMgrPowerProfileConfiguration powerMode
    else s
  else s

def powerMgr_setDozeModeInAuto (dozeMode : PowerMode) : PowerMgrT :=
  if dozeMode ≠ s.autoModeDozeMode then
    let powerMode := s.powerMgrGetHighestPriority
    let s := { s with autoModeDozeMode := dozeMode }
    if powerMode = .auto then
      if dozeMode = .shortDoze then s.wakeUpShortDoze else s.wakeUpLongDoze
    else s
  else s

/-! ## Beacon early termination -/

/-- The listen interval of `PowerMgrConfigBetToFw`. -/
def betListenInterval (e : Env) : ℕ :=
  let powerMode :=
    if s.desiredPowerModeProfile = .auto then s.autoModeDozeMode else s.lastPowerModeProfile
  match powerMode with
  | .shortDoze => e.beaconInterval * s.beaconListenInterval % 2 ^ 32
  | .longDoze => e.dtimPeriod * e.beaconInterval * s.dtimListenInterval % 2 ^ 32
  | _ => e.beaconInterval

/-- `PowerMgrConfigBetToFw`, called with the cookie of a BET event or from the manager itself. -/
def powerMgrConfigBetToFw (betEnable : Bool) (e : Env) : PowerMgrT :=
  let listenInterval := s.betListenInterval e
  if listenInterval = 0 then s
  else
    ({ s with betEnable := betEnable } : PowerMgrT).send
      (.cfgBet betEnable (s.maxFullBeaconInterval / listenInterval % 2 ^ 8))

/-! ## The parameters -/

/-- `POWER_MGR_POWER_MODE` of `powerMgr_setParam`. -/
def setParamPowerMode (p : Priority) (mode : PowerMode) (e : Env) : PowerMgrT :=
  let s := s.setModePriority p { s.powerMngModePriority p with powerMode := mode }
  let s := s.powerMgr_setPowerMode e
  if s.betEnable then s.powerMgrConfigBetToFw s.betEnable e else s

/-- `POWER_MGR_ENABLE_PRIORITY` and `POWER_MGR_DISABLE_PRIORITY` of `powerMgr_setParam`. -/
def setParamPriority (p : Priority) (enable : Bool) (e : Env) : PowerMgrT :=
  (s.setModePriority p
    { s.powerMngModePriority p with priorityEnable := enable }).powerMgr_setPowerMode e

/-- `POWER_MGR_POWER_LEVEL_PS` of `powerMgr_setParam`. -/
def setParamPowerLevelPs (level : PowerPolicy) : PowerMgrT :=
  let s := { s with powerSavePowerLevel := level }
  if s.psEnable then s.send (.cfgSleepAuth level) else s

/-- `POWER_MGR_POWER_LEVEL_DEFAULT` of `powerMgr_setParam`. -/
def setParamPowerLevelDefault (level : PowerPolicy) : PowerMgrT :=
  let s := { s with defaultPowerLevel := level }
  if s.psEnable then s else s.send (.cfgSleepAuth level)

/-- `POWER_MGR_POWER_LEVEL_DOZE_MODE` of `powerMgr_setParam`. -/
def setParamDozeMode (mode : PowerMode) (e : Env) : PowerMgrT :=
  let s := s.powerMgr_setDozeModeInAuto mode
  if s.betEnable then s.powerMgrConfigBetToFw s.betEnable e else s

/-! ## The workaround for PS-poll failures -/

def powerMgr_PsPollFailureCB (e : Env) : PowerMgrT :=
  if s.psPollDeliveryFailureRecoveryPeriod ≠ 0 then
    { (s.setParamPowerMode .psPollFailure .active e).setParamPriority .psPollFailure true e with
      psPollFailureTimer := true }
  else s

def powerMgr_PsPollFailureTimeout (e : Env) : PowerMgrT := s.setParamPriority .psPollFailure false e

/-! ## Start and stop -/

/-- The part of `PowerMgr_startPS` that starts BET. -/
def startBet (e : Env) : PowerMgrT :=
  let s := (s.startEventNotif .betEnable).startEventNotif .betDisable
  let betTrafficEnable :=
    if e.frameCount < s.betEnableThreshold then true
    else if e.frameCount > s.betDisableThreshold then false
    else s.betTrafficEnable
  ({ s with betTrafficEnable := betTrafficEnable } : PowerMgrT).powerMgrConfigBetToFw
    betTrafficEnable e

/-- The part of `PowerMgr_stopPS` that stops BET. -/
def stopBet : PowerMgrT := (s.stopEventNotif .betEnable).stopEventNotif .betDisable

def logConnection (c : Connection) : PowerMgrT := { s with connections := s.connections ++ [c] }

/-- `PowerMgr_startPS` up to the power level: the profile is chosen and configured. -/
def startProfile (e : Env) : PowerMgrT :=
  let s := (s.setPsEnable true).send .setNullRateModulation
  let profile := s.powerMgrGetHighestPriority
  let s := s.setProfile profile
  let s := if profile ≠ .active then s.powerMgrStartAutoPowerMode e else s
  let s := if profile ≠ .auto then s.powerMgrPowerProfileConfiguration profile else s
  s.send (.cfgSleepAuth s.powerSavePowerLevel)

def powerMgr_startPS (e : Env) : PowerMgrT :=
  if s.psEnable then s
  else
    let s := s.startProfile e
    let profile := s.desiredPowerModeProfile
    let started : Bool := s.betEnable ∧ profile ≠ .active
    let s := if started then s.startBet e else s
    (s.send .keepAliveStart).logConnection { profile := profile, betStarted := started }

/-- `PowerMgr_stopPS` up to the PS-poll workaround, which it leaves. -/
def leavePs (e : Env) : PowerMgrT :=
  let s := { s.setPsEnable false with retryPsTimer := false }
  if (s.powerMngModePriority .psPollFailure).priorityEnable then
    ({ s with psPollFailureTimer := false } : PowerMgrT).powerMgr_PsPollFailureTimeout e
  else s

def powerMgr_stopPS (bDisconnect : Bool) (e : Env) : PowerMgrT :=
  if s.psEnable then
    let s := s.leavePs e
    let profile := s.desiredPowerModeProfile
    let s := if profile ≠ .active then s.powerMgrDisableThresholdsIndications else s
    let s :=
      if profile ≠ .active ∧ profile ≠ .auto then s.send (.updatePsTraffic false) else s
    let s := (s.send (.setPsMode false false)).send (.cfgSleepAuth s.defaultPowerLevel)
    let s := if s.betEnable ∧ profile ≠ .active then s.stopBet else s
    s.send (.keepAliveStop bDisconnect)
  else s

/-! ## Callbacks -/

/-- `PowerMgrTMThresholdCrossCB`: the traffic passed to active, or to doze. -/
def powerMgrTMThresholdCrossCB (toActive : Bool) : PowerMgrT :=
  if s.psEnable ∧ s.desiredPowerModeProfile = .auto then
    s.powerMgrPowerProfileConfiguration (if toActive then .active else s.autoModeDozeMode)
  else if s.psEnable ∧ s.desiredPowerModeProfile ≠ .active then s.send (.updatePsTraffic toActive)
  else s

def powerSaveCompleteCB : PsStatus → PowerMgrT
  | .enterFail => { s with lastPsTransaction := .enterFail, retryPsTimer := true }
  | .exitFail => { s with lastPsTransaction := .exitFail, retryPsTimer := true }
  | _ => s

def powerMgrRetryPsTimeout : PowerMgrT :=
  s.send (.setPsMode (s.lastPsTransaction = .enterFail) true)

def powerMgr_notifyFWReset : PowerMgrT :=
  if s.psEnable then s.powerMgrPowerProfileConfiguration s.lastPowerModeProfile else s

end PowerMgrT

/-! ## The system -/

inductive Input where
  | powerMode (p : Priority) (mode : PowerMode)
  | priority (p : Priority) (enable : Bool)
  | powerLevelPs (level : PowerPolicy)
  | powerLevelDefault (level : PowerPolicy)
  | dozeMode (mode : PowerMode)
  | startPS
  | stopPS (bDisconnect : Bool)
  | psPollFailure
  | psPollTimeout
  /-- a BET threshold is crossed, the one that enables BET or the one that disables it -/
  | betCrossed (enable : Bool)
  /-- a threshold of the automatic mode is crossed -/
  | autoCrossed (toActive : Bool)
  | psReport (status : PsStatus)
  | retryTimeout
  | fwReset
  deriving DecidableEq

def betEvent (enable : Bool) : TMEvent := if enable then .betEnable else .betDisable

/-- The event that tells of a crossed threshold of the automatic mode. -/
def autoEvent (toActive : Bool) : TMEvent := if toActive then .passToActive else .passToDoze

/-- One step. A timer expires once, and the traffic monitor calls back for enabled notifications
only. -/
def step (s : PowerMgrT) : Input × Env → Option PowerMgrT
  | (.powerMode p mode, e) => some (s.setParamPowerMode p mode e)
  | (.priority p enable, e) => some (s.setParamPriority p enable e)
  | (.powerLevelPs level, _) => some (s.setParamPowerLevelPs level)
  | (.powerLevelDefault level, _) => some (s.setParamPowerLevelDefault level)
  | (.dozeMode mode, e) => some (s.setParamDozeMode mode e)
  | (.startPS, e) => some (s.powerMgr_startPS e)
  | (.stopPS bDisconnect, e) => some (s.powerMgr_stopPS bDisconnect e)
  | (.psPollFailure, e) => some (s.powerMgr_PsPollFailureCB e)
  | (.psPollTimeout, e) =>
    if s.psPollFailureTimer then
      some (({ s with psPollFailureTimer := false } : PowerMgrT).powerMgr_PsPollFailureTimeout e)
    else none
  | (.betCrossed enable, e) =>
    if s.notif (betEvent enable) then some (s.powerMgrConfigBetToFw enable e) else none
  | (.autoCrossed toActive, _) =>
    if s.notif (autoEvent toActive) then some (s.powerMgrTMThresholdCrossCB toActive) else none
  | (.psReport status, _) => some (s.powerSaveCompleteCB status)
  | (.retryTimeout, _) =>
    if s.retryPsTimer then
      some ({ s with retryPsTimer := false } : PowerMgrT).powerMgrRetryPsTimeout
    else none
  | (.fwReset, _) => some s.powerMgr_notifyFWReset

end ArchosGpl.Wlan.PowerMgr
