import ArchosGpl.Wlan.Scr.Model
import Mathlib.Algebra.Group.Int.Defs
import Mathlib.Algebra.Group.Nat.Defs
import Mathlib.Data.Int.Notation

/-!
# Model of the channel switch (`stad/src/AirLink_Managment/SwitchChannel.c`)

The module follows channel-switch announcements of the AP: it asks for the serving channel, tells
the AP connection that a switch is in progress, and gives the command to the firmware.

Beside the fields of `switchChannel_t` the state has what the module's calls leave behind: the state
that `scr.c` keeps of this client, the channel of the current site, and the log. The SCR makes a
client run that is pending; its other callbacks do not change its record. While the module is
started there is a current site. The debug functions are not in the model.
-/

namespace ArchosGpl.Wlan.SwitchChannel

open Scr (EScrClientState EScePendReason)

/-- `dot11_CHANNEL_SWITCH_t` without its header. -/
structure ChannelSwitch where
  channelSwitchMode : ℕ
  channelNumber : ℕ
  channelSwitchCount : ℕ
  deriving DecidableEq

def switchChannelModeTxSus : ℕ := 1

def switchChannelModeNotTxSus : ℕ := 0

structure TSwitchChannelParams where
  channelNumber : ℕ
  switchTime : ℕ
  txFlag : ℕ
  flush : ℕ
  deriving DecidableEq

/-- `switchChannel_smStates`. -/
inductive SmState
  | idle
  | wait4Cmd
  | wait4Scr
  | scInProg
  deriving DecidableEq

/-- `switchChannel_smEvents`. -/
inductive SmEvent
  | start
  | stop
  | scCmd
  | scrRun
  | scrFail
  | scCmplt
  | fwReset
  deriving DecidableEq

inductive EScrClientRequestStatus
  | run
  | pend
  | abort
  | fwReset
  deriving DecidableEq

inductive Action
  | smStart
  | smReqScrUpdateCmd
  | smStartSwitchChannelCmd
  | smSwitchChannelCmplt
  | smFwResetWhileScInProg
  | smScrFailWhileWait4Scr
  | smStopWhileWait4Cmd
  | smStopWhileWait4Scr
  | smStopWhileSwitchChannelInProg
  | smNop
  | smUnexpected
  deriving DecidableEq

/-- The matrix `switchChannel_SM`. -/
def smMatrix : SmState → SmEvent → SmState × Action
  | .idle, .start => (.wait4Cmd, .smStart)
  | .idle, .stop => (.idle, .smNop)
  | .idle, .scCmd => (.idle, .smNop)
  | .idle, .scrRun => (.idle, .smUnexpected)
  | .idle, .scrFail => (.idle, .smUnexpected)
  | .idle, .scCmplt => (.idle, .smUnexpected)
  | .idle, .fwReset => (.idle, .smUnexpected)
  | .wait4Cmd, .start => (.wait4Cmd, .smNop)
  | .wait4Cmd, .stop => (.idle, .smStopWhileWait4Cmd)
  | .wait4Cmd, .scCmd => (.wait4Scr, .smReqScrUpdateCmd)
  | .wait4Cmd, .scrRun => (.wait4Cmd, .smUnexpected)
  | .wait4Cmd, .scrFail => (.wait4Cmd, .smUnexpected)
  | .wait4Cmd, .scCmplt => (.wait4Cmd, .smUnexpected)
  | .wait4Cmd, .fwReset => (.wait4Cmd, .smUnexpected)
  | .wait4Scr, .start => (.wait4Scr, .smUnexpected)
  | .wait4Scr, .stop => (.idle, .smStopWhileWait4Scr)
  | .wait4Scr, .scCmd => (.wait4Scr, .smNop)
  | .wait4Scr, .scrRun => (.scInProg, .smStartSwitchChannelCmd)
  | .wait4Scr, .scrFail => (.wait4Cmd, .smScrFailWhileWait4Scr)
  | .wait4Scr, .scCmplt => (.wait4Scr, .smUnexpected)
  | .wait4Scr, .fwReset => (.wait4Cmd, .smUnexpected)
  | .scInProg, .start => (.scInProg, .smUnexpected)
  | .scInProg, .stop => (.idle, .smStopWhileSwitchChannelInProg)
  | .scInProg, .scCmd => (.scInProg, .smNop)
  | .scInProg, .scrRun => (.scInProg, .smUnexpected)
  | .scInProg, .scrFail => (.wait4Cmd, .smUnexpected)
  | .scInProg, .scCmplt => (.wait4Cmd, .smSwitchChannelCmplt)
  | .scInProg, .fwReset => (.wait4Cmd, .smFwResetWhileScInProg)

/-- What is seen from outside: the completion that comes from the firmware, and the calls to the AP
connection, the firmware, the site manager and the regulatory domain. -/
inductive Event
  | switchChannelCmplt
  | indicateSwitchChannelInProgress
  | indicateSwitchChannelFinished
  | cmdSwitchChannel (params : TSwitchChannelParams)
  | cmdSwitchChannelCancel (channel : ℕ)
  | setCurrentChannel (channel : ℕ)
  | reportRoamingEvent
  | updateChannelValidity (channel : ℕ)
  | setChannelValidity (channel : ℕ) (validity : Bool)
  deriving DecidableEq

/-- What the calls of a step answer: the SCR to a request, the clock at the request and at the start
of the switch, and the site manager on the beacon interval. -/
structure Env where
  scrStatus : EScrClientRequestStatus
  scrPendReason : EScePendReason
  requestTime : ℕ
  startTime : ℕ
  beaconInterval : ℕ

/-- What the regulatory domain answers. -/
structure RegDomain where
  minDfsChannelNum : ℕ
  maxDfsChannelNum : ℕ
  isChannelSupported : ℕ → Bool

/-- `switchChannel_t`, what its calls leave behind, the last command to the firmware, and the
channel of the last announcement taken over since. -/
structure Sys where
  dot11SpectrumManagementRequired : Bool
  currentState : SmState
  curChannelSwitchCmdParams : ChannelSwitch
  scrRequestTimestamp : ℕ
  currentChannel : ℕ
  switchChannelStarted : Bool
  scrState : EScrClientState
  siteChannel : ℕ
  command : Option TSwitchChannelParams
  announced : Option ℕ
  log : List Event

namespace Sys

/-- After `switchChannel_SetDefaults`, with the current site on a channel. -/
def init (dot11SpectrumManagementRequired : Bool) (siteChannel : ℕ) : Sys where
  dot11SpectrumManagementRequired := dot11SpectrumManagementRequired
  currentState := .idle
  curChannelSwitchCmdParams := ⟨0, 0, 0⟩
  scrRequestTimestamp := 0
  currentChannel := 0
  switchChannelStarted := false
  scrState := .idle
  siteChannel := siteChannel
  command := none
  announced := none
  log := []

/-! ## Actions -/

def zeroDatabase (s : Sys) : Sys :=
  { s with
    curChannelSwitchCmdParams := ⟨switchChannelModeNotTxSus, 0, 0⟩
    currentChannel := 0 }

def clientComplete (s : Sys) : Sys := { s with scrState := .idle }

def indicateSwitchChannelFinished (s : Sys) : Sys :=
  { s with log := s.log ++ [.indicateSwitchChannelFinished] }

/-- The site manager's `SITE_MGR_CURRENT_CHANNEL_PARAM` is set. -/
def setCurrentChannel (s : Sys) (channel : ℕ) : Sys :=
  { s with siteChannel := channel, log := s.log ++ [.setCurrentChannel channel] }

/-- The duration until the switch, in ms. The product is an `int`. -/
def switchChannelTimeDuration (channelSwitchCount beaconInterval : ℕ) : ℕ :=
  ((Int.bmod (channelSwitchCount * beaconInterval * 1024) (2 ^ 32)).tdiv 1000 % 2 ^ 32).toNat

/-- The count that the command is given: 1 if the time is up. -/
def switchCount (s : Sys) (env : Env) : ℕ :=
  let duration :=
    switchChannelTimeDuration s.curChannelSwitchCmdParams.channelSwitchCount env.beaconInterval
  let passed := (env.startTime + 2 ^ 32 - s.scrRequestTimestamp) % 2 ^ 32
  if duration ≠ 0 ∧ duration ≤ passed then 1 else s.curChannelSwitchCmdParams.channelSwitchCount

def smStartSwitchChannelCmd (s : Sys) (env : Env) : Sys :=
  let params := { s.curChannelSwitchCmdParams with channelSwitchCount := s.switchCount env }
  let command : TSwitchChannelParams :=
    ⟨params.channelNumber, params.channelSwitchCount, params.channelSwitchMode, 0⟩
  { s with
    curChannelSwitchCmdParams := params
    command := some command
    announced := none
    log := s.log ++ [.indicateSwitchChannelInProgress, .cmdSwitchChannel command] }

def smFwResetWhileScInProg (s : Sys) : Sys :=
  (s.setCurrentChannel s.curChannelSwitchCmdParams.channelNumber).indicateSwitchChannelFinished
    |>.zeroDatabase |>.clientComplete

def smSwitchChannelCmplt (s : Sys) : Sys :=
  (s.setCurrentChannel s.curChannelSwitchCmdParams.channelNumber).indicateSwitchChannelFinished
    |>.zeroDatabase |>.clientComplete

def smStopWhileSwitchChannelInProg (s : Sys) : Sys :=
  let s := s.indicateSwitchChannelFinished
  ({ s with log := s.log ++ [.cmdSwitchChannelCancel s.currentChannel] } : Sys)
    |>.zeroDatabase |>.clientComplete

/-- The actions that raise no event of their own. -/
def act (s : Sys) (env : Env) : Action → Sys
  | .smStart => { s with currentChannel := s.siteChannel }
  | .smStartSwitchChannelCmd => s.smStartSwitchChannelCmd env
  | .smSwitchChannelCmplt => s.smSwitchChannelCmplt
  | .smFwResetWhileScInProg => s.smFwResetWhileScInProg
  | .smScrFailWhileWait4Scr => s.zeroDatabase.clientComplete
  | .smStopWhileWait4Cmd => s.zeroDatabase
  | .smStopWhileWait4Scr => s.zeroDatabase.clientComplete
  | .smStopWhileSwitchChannelInProg => s.smStopWhileSwitchChannelInProg
  | .smReqScrUpdateCmd | .smNop | .smUnexpected => s

/-- `switchChannel_smEvent` for an event whose action raises none: the state changes first. -/
def smRaised (s : Sys) (env : Env) (e : SmEvent) : Sys :=
  { s with currentState := (smMatrix s.currentState e).1 }.act env (smMatrix s.currentState e).2

/-- The event of `switchChannel_scrStatusCB`. -/
def scrEvent : EScrClientRequestStatus → SmEvent
  | .run => .scrRun
  | .fwReset => .fwReset
  | .pend => .scrFail
  | .abort => .scrFail

/-- `scr_clientRequest`, as the SCR records it. -/
def clientRequest (s : Sys) (env : Env) : Sys :=
  match env.scrStatus with
  | .run => { s with scrState := .running }
  | .pend => { s with scrState := .pending }
  | .abort | .fwReset => s

/-- `switchChannel_smReqSCR_UpdateCmd`. The events that it raises are `SCR_RUN` and `SCR_FAIL`. -/
def smReqScrUpdateCmd (s : Sys) (env : Env) : Sys :=
  let s := { s with scrRequestTimestamp := env.requestTime }.clientRequest env
  if env.scrStatus ≠ .run ∧ env.scrStatus ≠ .pend then s.smRaised env .scrFail
  else if env.scrStatus = .run then s.smRaised env .scrRun
  else if env.scrPendReason = .otherClientRunning ∨ env.scrPendReason = .differentGroupRunning then
    s.smRaised env .scrFail
  else s

/-- `switchChannel_smEvent`. -/
def smEvent (s : Sys) (env : Env) (e : SmEvent) : Sys :=
  match (smMatrix s.currentState e).2 with
  | .smReqScrUpdateCmd =>
    { s with currentState := (smMatrix s.currentState e).1 }.smReqScrUpdateCmd env
  | _ => s.smRaised env e

/-! ## Calls -/

/-- `switchChannel_stop`. -/
def stop (s : Sys) (env : Env) : Sys := { s with switchChannelStarted := false }.smEvent env .stop

/-- `switchChannel_start`. -/
def start (s : Sys) (env : Env) : Sys := { s with switchChannelStarted := true }.smEvent env .start

def enableDisableSpectrumMngmt (s : Sys) (env : Env) (enableDisable : Bool) : Sys :=
  let s := { s with dot11SpectrumManagementRequired := enableDisable }
  if enableDisable then if s.switchChannelStarted then s.smEvent env .start else s
  else s.smEvent env .stop

/-- The announcement is one that the station cannot follow, and roams from. -/
def isRoamingTrigger (reg : RegDomain) (channelSwitch : ChannelSwitch) : Bool :=
  !reg.isChannelSupported channelSwitch.channelNumber || channelSwitch.channelSwitchCount = 0 ||
    channelSwitch.channelSwitchMode = switchChannelModeTxSus

/-- The roaming trigger of `switchChannel_recvCmd`. -/
def triggerRoaming (s : Sys) (channelSwitch : ChannelSwitch) (channel : ℕ) : Sys :=
  let s := if channelSwitch.channelSwitchMode = switchChannelModeTxSus then
      { s with log := s.log ++ [.setChannelValidity channel false] }
    else s
  if s.switchChannelStarted then { s with log := s.log ++ [.reportRoamingEvent] } else s

/-- `switchChannel_recvCmd`. -/
def recvCmd (s : Sys) (env : Env) (reg : RegDomain) (channelSwitch : Option ChannelSwitch)
    (channel : ℕ) : Sys :=
  if s.dot11SpectrumManagementRequired = false ∨ channel < reg.minDfsChannelNum ∨
      reg.maxDfsChannelNum < channel then s
  else
    match channelSwitch with
    | none => { s with log := s.log ++ [.updateChannelValidity channel] }
    | some channelSwitch =>
      if isRoamingTrigger reg channelSwitch then s.triggerRoaming channelSwitch channel
      else { s with
          curChannelSwitchCmdParams := channelSwitch
          announced := some channelSwitch.channelNumber }.smEvent env .scCmd

def switchChannelCmdCompleteReturn (s : Sys) (env : Env) : Sys :=
  ({ s with log := s.log ++ [.switchChannelCmplt] } : Sys).smEvent env .scCmplt

def scrStatusCB (s : Sys) (env : Env) (requestStatus : EScrClientRequestStatus) : Sys :=
  s.smEvent env (scrEvent requestStatus)

/-! ## Runs -/

inductive Input
  | start
  | stop
  | enableDisableSpectrumMngmt (enableDisable : Bool)
  | recvCmd (reg : RegDomain) (channelSwitch : Option ChannelSwitch) (channel : ℕ)
  | scrStatusCB (requestStatus : EScrClientRequestStatus)
  | switchChannelCmdCompleteReturn

/-- One step. The SCR tells a client that it runs when it has made it the running one. -/
def step (s : Sys) : Input × Env → Option Sys
  | (.start, env) => some (s.start env)
  | (.stop, env) => some (s.stop env)
  | (.enableDisableSpectrumMngmt enableDisable, env) =>
    some (s.enableDisableSpectrumMngmt env enableDisable)
  | (.recvCmd reg channelSwitch channel, env) => some (s.recvCmd env reg channelSwitch channel)
  | (.scrStatusCB .run, env) =>
    if s.scrState = .pending then some ({ s with scrState := .running }.scrStatusCB env .run)
    else none
  | (.scrStatusCB requestStatus, env) => some (s.scrStatusCB env requestStatus)
  | (.switchChannelCmdCompleteReturn, env) => some (s.switchChannelCmdCompleteReturn env)

end Sys

end ArchosGpl.Wlan.SwitchChannel
