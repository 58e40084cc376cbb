import Mathlib.Logic.Basic
import ArchosGpl.Lib.Machine

/-!
# Model of the serving channel resource (`stad/src/Sta_Management/scr.c`)

A step is one call of the module, except that `scr_clientRequest` stops where it calls the abort
callback of the running client: during it clients complete and request, and the return of the
callback is a step of its own. Every client that requests has registered its callback.
`scr_setMode` is without `SCR_ABORT_NOTIFY_ENABLED`, which nothing defines.
-/

namespace ArchosGpl.Wlan.Scr

/-- `EScrClientId`, the lowest priority first. -/
inductive EScrClientId
  | appScan
  | driverFgScan
  | contScan
  | xccMeasure
  | basicMeasure
  | connect
  | immedScan
  | switchChannel
  deriving DecidableEq, Repr

inductive EScrResourceId
  | servingChannel
  | periodicScan
  deriving DecidableEq, Repr

inductive EScrModeId
  | normal
  | sg
  deriving DecidableEq, Repr

inductive EScrGroupId
  | idle
  | drvScan
  | appScan
  | connect
  | connected
  | roaming
  deriving DecidableEq, Repr

inductive EScrClientState
  | idle
  | pending
  | running
  | aborting
  deriving DecidableEq, Repr

inductive EScePendReason
  | otherClientAborting
  | otherClientRunning
  | differentGroupRunning
  | none
  deriving DecidableEq, Repr

/-- The value of an `EScrClientId`: its priority. -/
def EScrClientId.prio : EScrClientId → ℕ
  | .appScan => 0
  | .driverFgScan => 1
  | .contScan => 2
  | .xccMeasure => 3
  | .basicMeasure => 4
  | .connect => 5
  | .immedScan => 6
  | .switchChannel => 7

/-- The clients from the highest priority to the lowest. -/
def clients : List EScrClientId :=
  [.switchChannel, .immedScan, .connect, .basicMeasure, .xccMeasure, .contScan, .driverFgScan,
    .appScan]

/-- `abortOthers`: the highest client that a client aborts. -/
def abortOthers : EScrResourceId → EScrClientId → Option EScrClientId
  | .servingChannel, .connect => some .basicMeasure
  | .servingChannel, .immedScan => some .basicMeasure
  | .servingChannel, .switchChannel => some .basicMeasure
  | .servingChannel, _ => none
  | .periodicScan, .driverFgScan => some .appScan
  | .periodicScan, .connect => some .driverFgScan
  | .periodicScan, _ => none

/-- The clients that a row of `clientStatus` enables. -/
def enabledClients : EScrResourceId → EScrModeId → EScrGroupId → List EScrClientId
  | .servingChannel, .normal, .idle => []
  | .servingChannel, .normal, .drvScan => [.appScan]
  | .servingChannel, .normal, .appScan => [.appScan]
  | .servingChannel, .normal, .connect => [.driverFgScan, .connect]
  | .servingChannel, .normal, .connected =>
    [.appScan, .contScan, .xccMeasure, .basicMeasure, .switchChannel]
  | .servingChannel, .normal, .roaming => [.connect, .immedScan]
  | .servingChannel, .sg, .idle => []
  | .servingChannel, .sg, .drvScan => [.appScan]
  | .servingChannel, .sg, .appScan => [.appScan]
  | .servingChannel, .sg, .connect => [.driverFgScan, .connect]
  | .servingChannel, .sg, .connected =>
    [.appScan, .contScan, .xccMeasure, .basicMeasure, .switchChannel]
  | .servingChannel, .sg, .roaming => [.connect, .immedScan]
  | .periodicScan, .normal, .idle => []
  | .periodicScan, .normal, .drvScan => [.driverFgScan]
  | .periodicScan, .normal, .appScan => [.appScan]
  | .periodicScan, .normal, .connect => [.connect]
  | .periodicScan, .normal, .connected => []
  | .periodicScan, .normal, .roaming => [.connect]
  | .periodicScan, .sg, .idle => []
  | .periodicScan, .sg, .drvScan => [.driverFgScan]
  | .periodicScan, .sg, .appScan => [.appScan]
  | .periodicScan, .sg, .connect => [.connect]
  | .periodicScan, .sg, .connected => []
  | .periodicScan, .sg, .roaming => [.connect]

def clientStatus (eResource : EScrResourceId) (mode : EScrModeId) (group : EScrGroupId)
    (client : EScrClientId) : Bool :=
  client ∈ enabledClients eResource mode group

/-- `TScr`, with the client array as functions of client and resource. -/
structure TScr where
  statusNotficationPending : Bool
  runningClient : EScrResourceId → Option EScrClientId
  currentGroup : EScrGroupId
  currentMode : EScrModeId
  state : EScrClientId → EScrResourceId → EScrClientState
  currentPendingReason : EScrClientId → EScrResourceId → EScePendReason

namespace TScr

/-- The client is enabled in the current mode and group. -/
def isEnabled (pScr : TScr) (eResource : EScrResourceId) (client : EScrClientId) : Bool :=
  clientStatus eResource pScr.currentMode pScr.currentGroup client

def setState (pScr : TScr) (client : EScrClientId) (eResource : EScrResourceId)
    (state : EScrClientState) : TScr :=
  { pScr with state := fun c r => if c = client ∧ r = eResource then state else pScr.state c r }

def setReason (pScr : TScr) (client : EScrClientId) (eResource : EScrResourceId)
    (reason : EScePendReason) : TScr :=
  { pScr with currentPendingReason := fun c r =>
      if c = client ∧ r = eResource then reason else pScr.currentPendingReason c r }

def setRunning (pScr : TScr) (eResource : EScrResourceId) (client : Option EScrClientId) : TScr :=
  { pScr with runningClient := fun r => if r = eResource then client else pScr.runningClient r }

/-- `scrFindHighest` from the highest client. -/
def scrFindHighest (pScr : TScr) (requiredState : EScrClientState) (eResource : EScrResourceId)
    (endAt : EScrClientId) : Option EScrClientId :=
  clients.find? fun i =>
    endAt.prio ≤ i.prio && pScr.isEnabled eResource i && pScr.state i eResource = requiredState

/-- `scr_init`. -/
def init : TScr where
  statusNotficationPending := false
  runningClient := fun _ => none
  currentGroup := .idle
  currentMode := .normal
  state := fun _ _ => .idle
  currentPendingReason := fun _ _ => .none

/-- The escalation of the pending reasons in `scr_setGroup`. -/
def escalate (pScr : TScr) (eResource : EScrResourceId) : TScr :=
  { pScr with currentPendingReason := fun c r =>
      if r = eResource ∧ pScr.state c r = .pending ∧
          (pScr.currentPendingReason c r = .otherClientAborting ∨
            pScr.currentPendingReason c r = .otherClientRunning) ∧
          pScr.isEnabled r c = false then .differentGroupRunning
      else pScr.currentPendingReason c r }

/-- A client becomes the running one. -/
def grant (pScr : TScr) (client : EScrClientId) (eResource : EScrResourceId) : TScr :=
  ((pScr.setState client eResource .running).setReason client eResource .none).setRunning eResource
    (some client)

end TScr

/-- The module, and the request whose abort callback is running. The rest is history: who became
RUNNING, who was told so, and who was answered PEND, with its state then. -/
structure Sys where
  obj : TScr
  inRequest : Option (EScrClientId × EScrResourceId)
  granted : List (EScrClientId × EScrResourceId)
  told : List (EScrClientId × EScrResourceId)
  pended : List ((EScrClientId × EScrResourceId) × EScrClientState)

namespace Sys

/-- After `scr_init`. -/
def init : Sys where
  obj := .init
  inRequest := none
  granted := []
  told := []
  pended := []

def answerPend (s : Sys) (client : EScrClientId) (eResource : EScrResourceId) : Sys :=
  { s with pended := s.pended ++ [((client, eResource), s.obj.state client eResource)] }

/-- The client is marked pending with a reason and answered PEND. -/
def pend (s : Sys) (client : EScrClientId) (eResource : EScrResourceId) (reason : EScePendReason) :
    Sys :=
  { s with obj := (s.obj.setState client eResource .pending).setReason client eResource reason }
    |>.answerPend client eResource

/-- The reason that `scr_clientRequest` gives while a client is aborting. -/
def abortingReason (pScr : TScr) (client : EScrClientId) (eResource : EScrResourceId) :
    EScePendReason :=
  match pScr.scrFindHighest .pending eResource client with
  | none => .otherClientAborting
  | some highestPending =>
    if highestPending.prio < client.prio then .otherClientAborting else .otherClientRunning

/-- `scr_clientRequest`, up to the abort callback. -/
def clientRequest (s : Sys) (client : EScrClientId) (eResource : EScrResourceId) : Sys :=
  if s.obj.statusNotficationPending then s.answerPend client eResource
  else if s.obj.runningClient eResource = some client then s
  else if s.obj.isEnabled eResource client = false then
    s.pend client eResource .differentGroupRunning
  else
    match s.obj.runningClient eResource with
    | none => { s with
        obj := (s.obj.setState client eResource .running).setRunning eResource (some client)
        granted := s.granted ++ [(client, eResource)]
        told := s.told ++ [(client, eResource)] }
    | some running =>
      if s.obj.state running eResource = .aborting then
        s.pend client eResource (abortingReason s.obj client eResource)
      else if client.prio < running.prio then s.pend client eResource .otherClientRunning
      else if ∀ others ∈ abortOthers eResource client, others.prio < running.prio then
        s.pend client eResource .otherClientRunning
      else { s with
        obj := { (s.obj.setState client eResource .pending).setState running eResource .aborting with
          statusNotficationPending := true }
        inRequest := some (client, eResource) }

/-- `scr_clientRequest` after the abort callback. -/
def abortReturn (s : Sys) (client : EScrClientId) (eResource : EScrResourceId) : Sys :=
  let s := { s with obj := { s.obj with statusNotficationPending := false }, inRequest := none }
  if s.obj.state client eResource = .running then
    { s with told := s.told ++ [(client, eResource)] }
  else { s with obj := s.obj.setReason client eResource .otherClientAborting }
    |>.answerPend client eResource

/-- The highest pending client of a free resource becomes the running one, and is told so unless the
call comes from within a request. -/
def grantHighest (s : Sys) (eResource : EScrResourceId) : Sys :=
  match s.obj.scrFindHighest .pending eResource .appScan with
  | none => s
  | some highestPending => { s with
      obj := s.obj.grant highestPending eResource
      granted := s.granted ++ [(highestPending, eResource)]
      told :=
        if s.obj.statusNotficationPending then s.told else s.told ++ [(highestPending, eResource)] }

def clientComplete (s : Sys) (client : EScrClientId) (eResource : EScrResourceId) : Sys :=
  let s := { s with
    obj := (s.obj.setState client eResource .idle).setReason client eResource .none }
  if s.obj.runningClient eResource = some client then
    grantHighest { s with obj := s.obj.setRunning eResource none } eResource
  else s

/-- The pass of `scr_setGroup` for a resource. -/
def regroup (s : Sys) (eResource : EScrResourceId) : Sys :=
  let s := { s with obj := s.obj.escalate eResource }
  if s.obj.runningClient eResource = none then s.grantHighest eResource else s

def setGroup (s : Sys) (newGroup : EScrGroupId) : Sys :=
  { s with obj := { s.obj with currentGroup := newGroup } }
    |>.regroup .servingChannel |>.regroup .periodicScan

/-- `scr_setMode`. -/
def setMode (s : Sys) (newMode : EScrModeId) : Sys :=
  { s with obj := { s.obj with currentMode := newMode } }

inductive Op
  | clientRequest (client : EScrClientId) (eResource : EScrResourceId)
  | clientComplete (client : EScrClientId) (eResource : EScrResourceId)
  | setGroup (newGroup : EScrGroupId)
  | setMode (newMode : EScrModeId)
  /-- The abort callback returns. -/
  | abortReturn
  deriving DecidableEq, Repr

/-- One step. An abort callback completes and requests. -/
def step (s : Sys) : Op → Option Sys
  | .clientRequest client eResource => some (s.clientRequest client eResource)
  | .clientComplete client eResource => some (s.clientComplete client eResource)
  | .setGroup newGroup => if s.inRequest = none then some (s.setGroup newGroup) else none
  | .setMode newMode => if s.inRequest = none then some (s.setMode newMode) else none
  | .abortReturn => s.inRequest.map fun x => s.abortReturn x.1 x.2

end Sys

end ArchosGpl.Wlan.Scr
