import ArchosGpl.Lib.Machine
import Mathlib.Logic.Function.Basic

/-!
# Model of the power-save server (`TWD/MacServices/PowerSrv.c`, `PowerSrvSM.c`)

The server takes power-save requests from the user and from the driver, each kind in a slot of its
own. A driver request reserves the server: while it is reserved, user requests wait. A state machine
sends the command for a change to the firmware, which reports once for each command.

The server keeps two pointers to the slots (`pCurrentRequest`, and `pSmRequest` inside the state
machine). `C` are the callbacks that come with the requests; a callback may call the server again,
so a report that calls one stops there (`inCallback`), and goes on with `resume`.
-/

namespace ArchosGpl.Wlan.PowerSrv

open Lib

/-- `powerSrvMode_e`: a kind of request, and the slot for it. -/
inductive PowerSrvMode
  | driver
  | user
  deriving DecidableEq

def PowerSrvMode.code : PowerSrvMode → ℕ
  | .driver => 0
  | .user => 1

/-- `powerSrvRequestState_e`. -/
inductive RequestState
  | new
  | pending
  | running
  | handled
  deriving DecidableEq

/-- `E80211PsMode`. -/
inductive PsMode
  | off
  | on
  | keepCurrent
  deriving DecidableEq

/-- `EventsPowerSave_e`: what the firmware reports. -/
inductive EventsPowerSave
  | enterPowerSaveFail
  | enterPowerSaveSuccess
  | exitPowerSaveFail
  | exitPowerSaveSuccess
  deriving DecidableEq

/-- `PowerSrvSMStates_e`. -/
inductive SmState
  | active
  | pendPs
  | ps
  | pendActive
  | errorActive
  deriving DecidableEq

/-- `PowerSrvSMEvents_e`. -/
inductive SmEvent
  | requestActive
  | requestPs
  | success
  | fail

/-- `TI_OK`, and the two values of `E80211PsStatus` that the server answers. -/
inductive Status
  | ok
  | pending
  | isCurrent
  deriving DecidableEq

def powerSave80211Pending : ℕ := 4

/-- `powerSrvRequest_t`. -/
structure Request (C : Type*) where
  requestState : RequestState
  requestMode : PowerSrvMode
  psMode : PsMode
  powerSrvCompleteCb : Option C

/-- What is seen from outside: the answer to a request, and a completion callback. -/
inductive Event (C : Type*)
  | answer (mode : PowerSrvMode) (psMode : PsMode) (cb : Option C) (status : Status)
  | callback (mode : PowerSrvMode) (cb : C) (psMode : PsMode) (status : EventsPowerSave)

/-- `powerSrv_t` with its state machine, the commands that the firmware has not reported on, and
whether the driver's last call was a reservation. -/
structure Sys (C : Type*) where
  currentState : SmState
  pSmRequest : PowerSrvMode
  request : PowerSrvMode → Request C
  pCurrentRequest : PowerSrvMode
  currentMode : PowerSrvMode
  userLastRequestMode : PsMode
  commands : List Bool
  inCallback : Bool
  reserved : Bool
  log : List (Event C)

inductive Action
  | doAllready
  | doEnterPowerSave
  | doExitPowerSave
  | doUpdateRequest
  | doPending
  | unexpected

/-- The state matrix of `powerSrvSM_init`. -/
def smMatrix : SmState → SmEvent → SmState × Action
  | .active, .requestActive => (.active, .doAllready)
  | .active, .requestPs => (.pendPs, .doEnterPowerSave)
  | .active, .success => (.active, .unexpected)
  | .active, .fail => (.active, .unexpected)
  | .pendPs, .requestActive => (.pendPs, .doPending)
  | .pendPs, .requestPs => (.pendPs, .doPending)
  | .pendPs, .success => (.ps, .doUpdateRequest)
  | .pendPs, .fail => (.active, .doUpdateRequest)
  | .ps, .requestActive => (.pendActive, .doExitPowerSave)
  | .ps, .requestPs => (.ps, .doAllready)
  | .ps, .success => (.ps, .unexpected)
  | .ps, .fail => (.ps, .unexpected)
  | .pendActive, .requestActive => (.pendActive, .doPending)
  | .pendActive, .requestPs => (.pendActive, .doPending)
  | .pendActive, .success => (.active, .doUpdateRequest)
  | .pendActive, .fail => (.errorActive, .doUpdateRequest)
  | .errorActive, .requestActive => (.pendActive, .doExitPowerSave)
  | .errorActive, .requestPs => (.pendPs, .doEnterPowerSave)
  | .errorActive, .success => (.errorActive, .unexpected)
  | .errorActive, .fail => (.errorActive, .unexpected)

namespace Sys

variable {C : Type*}

/-- After `powerSrv_init`. -/
def init : Sys C where
  currentState := .active
  pSmRequest := .user
  request mode := ⟨.handled, mode, .off, none⟩
  pCurrentRequest := .user
  currentMode := .user
  userLastRequestMode := .off
  commands := []
  inCallback := false
  reserved := false
  log := []

def setRequestState (s : Sys C) (mode : PowerSrvMode) (state : RequestState) : Sys C :=
  { s with
    request := Function.update s.request mode { s.request mode with requestState := state } }

def createPssRequest (s : Sys C) (mode : PowerSrvMode) (state : RequestState) (psMode : PsMode)
    (cb : Option C) : Sys C :=
  { s with request := Function.update s.request mode ⟨state, mode, psMode, cb⟩ }

/-! ## The state machine -/

/-- The actions, on the request that `pSmRequest` points to. -/
def act (s : Sys C) : Action → Sys C × Status
  | .doAllready => (s.setRequestState s.pSmRequest .handled, .isCurrent)
  | .doEnterPowerSave =>
    ({ s.setRequestState s.pSmRequest .running with commands := s.commands ++ [true] }, .ok)
  | .doExitPowerSave =>
    ({ s.setRequestState s.pSmRequest .running with commands := s.commands ++ [false] }, .ok)
  | .doUpdateRequest =>
    if (s.request s.pSmRequest).requestState = .running then
      (s.setRequestState s.pSmRequest .handled, .ok)
    else (s, .ok)
  | .doPending => (s.setRequestState s.pSmRequest .pending, .pending)
  | .unexpected => (s, .ok)

/-- `powerSrvSM_SMApi`. -/
def smApi (s : Sys C) (e : SmEvent) : Sys C × Status :=
  { s with currentState := (smMatrix s.currentState e).1 }.act (smMatrix s.currentState e).2

/-! ## Requests -/

/-- A command is on its way, and the current request is the driver's. -/
def isBusyForDriver (s : Sys C) : Bool :=
  (s.currentState = .pendActive || s.currentState = .pendPs) &&
    (s.request s.pCurrentRequest).requestMode = .driver

/-- The end of `powerSrvProcessRequest`. -/
def updateCurrent (s : Sys C) (mode : PowerSrvMode) : Sys C :=
  if (s.request mode).requestState ≠ .pending then
    { s with pCurrentRequest := mode, currentMode := (s.request mode).requestMode }
  else s

def processRequest (s : Sys C) (requestMode : PowerSrvMode) : Sys C × Status :=
  if s.isBusyForDriver then (s.setRequestState requestMode .pending, .pending)
  else
    let event := if (s.request requestMode).psMode = .on then SmEvent.requestPs
      else .requestActive
    let (s, status) := { s with pSmRequest := requestMode }.smApi event
    (s.updateCurrent requestMode, status)

/-- The answer to the request in a slot. -/
def answer (s : Sys C) (mode : PowerSrvMode) (status : Status) : Sys C :=
  { s with log := s.log ++
    [.answer mode (s.request mode).psMode (s.request mode).powerSrvCompleteCb status] }

def setPsMode (s : Sys C) (psMode : PsMode) (cb : Option C) : Sys C :=
  let s := s.createPssRequest .user .new psMode cb
  let (s, status) :=
    if s.currentMode = .user then s.processRequest (s.request .user).requestMode
    else (s.setRequestState .user .pending, .pending)
  s.answer .user status

def reservePs (s : Sys C) (psMode : PsMode) (cb : Option C) : Sys C :=
  let psMode := if psMode = .keepCurrent then (s.request .user).psMode else psMode
  let s := { s.createPssRequest .driver .new psMode cb with reserved := true }
  let (s, status) := s.processRequest (s.request .driver).requestMode
  s.answer .driver status

/-- A request that waits: `NEW_REQUEST` or `PENDING_REQUEST`. -/
def waits (s : Sys C) (mode : PowerSrvMode) : Bool :=
  (s.request mode).requestState = .new || (s.request mode).requestState = .pending

def releaseMode (s : Sys C) : PsMode :=
  if s.waits .user then (s.request .user).psMode else s.userLastRequestMode

/-- `powerSrv_ReleasePS`. Its first test compares the kind of the request with a status. -/
def releasePs (s : Sys C) (cb : Option C) : Sys C :=
  let s := { s with reserved := false }
  if (s.request .driver).requestMode.code = powerSave80211Pending then
    (s.createPssRequest .driver .handled .off none).answer .driver .isCurrent
  else
    let s := s.createPssRequest .driver .new s.releaseMode cb
    let (s, status) := s.processRequest (s.request .driver).requestMode
    let s := if status ≠ .pending then { s with currentMode := .user } else s
    s.answer .driver status

/-! ## Reports -/

def reportOn (ps success : Bool) : EventsPowerSave :=
  match ps, success with
  | true, true => .enterPowerSaveSuccess
  | true, false => .enterPowerSaveFail
  | false, true => .exitPowerSaveSuccess
  | false, false => .exitPowerSaveFail

def complete (s : Sys C) (psMode : PsMode) (status : EventsPowerSave) : Sys C :=
  match (s.request s.pCurrentRequest).powerSrvCompleteCb with
  | some cb => { s with log := s.log ++ [.callback s.pCurrentRequest cb psMode status] }
  | none => s

/-- The waiting request that `powerSrv802_11PsReport` processes, the driver's first. -/
def processWaiting (s : Sys C) : Sys C × Status :=
  if s.waits .driver then s.processRequest (s.request .driver).requestMode
  else if s.currentMode = .user ∧ s.waits .user = true then
    s.processRequest (s.request .user).requestMode
  else (s, .ok)

/-- The end of `powerSrv802_11PsReport`, after the first callback. -/
def resume (s : Sys C) : Sys C :=
  let (s, status) := { s with inCallback := false }.processWaiting
  if status = .isCurrent then
    let psMode := (s.request s.pCurrentRequest).psMode
    s.complete psMode (reportOn (psMode = .on) true)
  else s

/-- `powerSrv802_11PsReport` up to the first callback: the report goes to the state machine. -/
def reported (s : Sys C) (success : Bool) : Sys C :=
  let s := (s.smApi (if success then .success else .fail)).1
  if success = true ∧ s.currentMode = .user then
    { s with userLastRequestMode := (s.request .user).psMode }
  else s

/-- The first callback is made. -/
def isCompleted (s : Sys C) : Bool :=
  (s.request s.pCurrentRequest).requestState = .handled &&
    (s.request s.pCurrentRequest).powerSrvCompleteCb.isSome

/-- `powerSrv802_11PsReport`, to the first callback or to its end. -/
def psReport (s : Sys C) (ps success : Bool) : Sys C :=
  let s := s.reported success
  let status : EventsPowerSave := reportOn ps success
  if s.isCompleted then
    { s with inCallback := true }.complete
      (if status = EventsPowerSave.enterPowerSaveSuccess then .on else .off) status
  else s.resume

/-! ## Runs -/

inductive Input (C : Type*)
  | setPsMode (psMode : PsMode) (cb : Option C)
  | reservePs (psMode : PsMode) (cb : Option C)
  | releasePs (cb : Option C)
  /-- The firmware reports on its oldest command. -/
  | psReport (success : Bool)
  /-- The callback of a report returns. -/
  | resume

/-- One step. The driver reserves and releases in turn. -/
def step (s : Sys C) : Input C → Option (Sys C)
  | .setPsMode psMode cb => some (s.setPsMode psMode cb)
  | .reservePs psMode cb => if s.reserved then none else some (s.reservePs psMode cb)
  | .releasePs cb => if s.reserved then some (s.releasePs cb) else none
  | .psReport success =>
    match s.inCallback, s.commands with
    | false, ps :: rest => some ({ s with commands := rest }.psReport ps success)
    | _, _ => none
  | .resume => if s.inCallback then some s.resume else none

end Sys

end ArchosGpl.Wlan.PowerSrv
