import Mathlib.Data.Fintype.Basic
import Mathlib.Logic.Function.Basic
import ArchosGpl.Lib.Machine

/-!
# Model of the TX path mux (`stad/src/Data_link/txMgmtQueue.c`, `txPort.c`)

The management queues hold the driver's own packets and the EAPOL packets of the network stack.
Their state machine follows the connection and gives the port to the management queues or to the
data queues; the port wakes them, and a wake runs the scheduler, which may call the state machine
again.

The state machine and the port do not look at the queues' packets, so a call of them is one step up
to the top of the scheduler's loop. A step of the scheduler is one critical section, one
`txCtrl_XmitMgmt`, or the test after the loop; the network stack's steps interleave with these.

A packet is a number. Of the data queues there is `bDataPortEnable`, and of `txCtrl` how it answers
and whether TID 7 is among those it stops.
-/

namespace ArchosGpl.Wlan.TxMgmtQueue

open Lib

abbrev mgmtQueuesDepth : ℕ := 4

inductive EMgmtQueueTypes
  | mgmt
  | eapol
  deriving DecidableEq, Repr

instance : Fintype EMgmtQueueTypes :=
  ⟨{.mgmt, .eapol}, fun q => by cases q <;> decide⟩

inductive ESmEvent
  | close
  | mgmt
  | eapol
  | openTx
  | queuesEmpty
  | queuesNotEmpty
  deriving DecidableEq, Repr

inductive ESmState
  | close
  | mgmt
  | eapol
  | openMgmt
  | openData
  deriving DecidableEq, Repr

inductive ESmAction
  | null
  | enableData
  | enableMgmt
  | runScheduler
  deriving DecidableEq, Repr

inductive ETxConnState
  | close
  | mgmt
  | eapol
  | openTx
  deriving DecidableEq, Repr

/-- `TTxMgmtQ`. The queues are listed from the tail, where packets are taken. -/
structure TTxMgmtQ where
  bMgmtPortEnable : Bool
  eSmState : ESmState
  eTxConnState : ETxConnState
  aQueues : EMgmtQueueTypes → List ℕ
  aQueueBusy : EMgmtQueueTypes → Bool
  aQueueEnabledBySM : EMgmtQueueTypes → Bool

inductive EQueuesMuxState
  | mgmtQueues
  | dataQueues
  deriving DecidableEq, Repr

inductive EQueueAction
  | none
  | stop
  | wake
  deriving DecidableEq, Repr

structure TTxPortObj where
  queuesMuxState : EQueuesMuxState
  txSuspended : Bool
  mgmtQueueEnabled : Bool
  dataQueueEnabled : Bool

/-- `ETxHwQueStatus`: how `txCtrl_XmitMgmt` finds the HW queues. -/
inductive ETxHwQueStatus
  | success
  | stopNext
  | stopCurrent
  deriving DecidableEq, Repr

/-- Where `txMgmtQ_Xmit` is in the network stack's context: outside, or between its critical section
and its request. -/
inductive Network
  | outside
  | left (bRequestSchedule : Bool)
  deriving DecidableEq, Repr

/-- Where `runScheduler` is in the driver's context: at the top of the loop, with a packet, with a
packet that `txCtrl` refused, or after the loop in `runSchedulerNotFromSm`. -/
inductive Driver
  | outside
  | loop (notFromSm : Bool) (uQueId : EMgmtQueueTypes)
  | dequeued (notFromSm : Bool) (uQueId : EMgmtQueueTypes) (pPktCtrlBlk : ℕ)
  | refused (notFromSm : Bool) (uQueId : EMgmtQueueTypes) (pPktCtrlBlk : ℕ)
  | ran
  deriving DecidableEq, Repr

/-- The two modules with the two contexts. `hwRefused` says that a HW queue that refused a packet is
still busy. -/
structure Sys where
  mgmtQ : TTxMgmtQ
  port : TTxPortObj
  bDataPortEnable : Bool
  driver : Driver
  network : Network
  scheduled : Bool
  hwRefused : Bool
  inserted : ℕ

/-! ## The state machine -/

def areAllMgmtQueuesEmpty (aQueues : EMgmtQueueTypes → List ℕ) : Bool :=
  (aQueues .mgmt).isEmpty && (aQueues .eapol).isEmpty

/-- Both writes of `aQueueEnabledBySM`. -/
def enable (mgmt eapol : Bool) : EMgmtQueueTypes → Bool
  | .mgmt => mgmt
  | .eapol => eapol

/-- `mgmtQueuesSM` up to its action. -/
def TTxMgmtQ.transition (q : TTxMgmtQ) : ESmEvent → TTxMgmtQ × ESmAction
  | .close =>
    ({ q with eSmState := .close, aQueueEnabledBySM := enable false false },
      if q.eSmState = .openData then .enableMgmt else .null)
  | .mgmt =>
    ({ q with eSmState := .mgmt, aQueueEnabledBySM := enable true false },
      if q.eSmState = .openData then .enableMgmt else .runScheduler)
  | .eapol =>
    ({ q with eSmState := .eapol, aQueueEnabledBySM := enable true true }, .runScheduler)
  | .openTx =>
    if areAllMgmtQueuesEmpty q.aQueues then
      ({ q with eSmState := .openData, aQueueEnabledBySM := enable false false }, .enableData)
    else ({ q with eSmState := .openMgmt }, .null)
  | .queuesEmpty =>
    if q.eSmState = .openMgmt then
      ({ q with eSmState := .openData, aQueueEnabledBySM := enable false false }, .enableData)
    else (q, .null)
  | .queuesNotEmpty =>
    if q.eSmState = .openData then
      ({ q with eSmState := .openMgmt, aQueueEnabledBySM := enable true true }, .enableMgmt)
    else if q.eSmState = .mgmt ∨ q.eSmState = .eapol then (q, .runScheduler)
    else (q, .null)

namespace Sys

/-- After `txMgmtQ_Init`, `txPort_init` and `txDataQ_Init`. -/
def init : Sys where
  mgmtQ :=
    { bMgmtPortEnable := true
      eSmState := .close
      eTxConnState := .close
      aQueues := fun _ => []
      aQueueBusy := fun _ => false
      aQueueEnabledBySM := fun _ => false }
  port :=
    { queuesMuxState := .mgmtQueues
      txSuspended := false
      mgmtQueueEnabled := true
      dataQueueEnabled := false }
  bDataPortEnable := false
  driver := .outside
  network := .outside
  scheduled := false
  hwRefused := false
  inserted := 0

/-- `runSchedulerNotFromSm`, up to the loop. -/
def runSchedulerNotFromSm (s : Sys) : Sys :=
  if areAllMgmtQueuesEmpty s.mgmtQ.aQueues then s else { s with driver := .loop true .mgmt }

/-! ## The port -/

/-- The actions of `updateQueuesStates`, for the management queues and for the data queues. -/
def queueActions (port : TTxPortObj) : EQueueAction × EQueueAction :=
  if !port.txSuspended then
    match port.queuesMuxState with
    | .mgmtQueues =>
      (if !port.mgmtQueueEnabled then .wake else .none,
        if port.dataQueueEnabled then .stop else .none)
    | .dataQueues =>
      (if port.mgmtQueueEnabled then .stop else .none,
        if !port.dataQueueEnabled then .wake else .none)
  else
    (if port.mgmtQueueEnabled then .stop else .none, if port.dataQueueEnabled then .stop else .none)

/-- `txMgmtQ_StopAll`. -/
def stopAll (s : Sys) : Sys :=
  { s with
    port := { s.port with mgmtQueueEnabled := false }
    mgmtQ := { s.mgmtQ with bMgmtPortEnable := false } }

/-- `txMgmtQ_WakeAll`. -/
def wakeAll (s : Sys) : Sys :=
  { s with
    port := { s.port with mgmtQueueEnabled := true }
    mgmtQ := { s.mgmtQ with bMgmtPortEnable := true } }.runSchedulerNotFromSm

/-- `txDataQ_StopAll` and `txDataQ_WakeAll`. -/
def setDataPort (s : Sys) (enabled : Bool) : Sys :=
  { s with port := { s.port with dataQueueEnabled := enabled }, bDataPortEnable := enabled }

/-- `updateQueuesStates`: the stops before the wakes. -/
def updateQueuesStates (s : Sys) : Sys :=
  let (mgmtQueueAction, dataQueueAction) := queueActions s.port
  let s := if mgmtQueueAction = .stop then s.stopAll else s
  let s := if dataQueueAction = .stop then s.setDataPort false else s
  let s := if mgmtQueueAction = .wake then s.wakeAll else s
  if dataQueueAction = .wake then s.setDataPort true else s

/-- `txPort_enableData` and `txPort_enableMgmt`. -/
def setMux (s : Sys) (queuesMuxState : EQueuesMuxState) : Sys :=
  { s with port := { s.port with queuesMuxState := queuesMuxState } }.updateQueuesStates

/-- `txPort_suspendTx` and `txPort_resumeTx`. -/
def setSuspended (s : Sys) (txSuspended : Bool) : Sys :=
  { s with port := { s.port with txSuspended := txSuspended } }.updateQueuesStates

def mgmtQueuesSM (s : Sys) (eSmEvent : ESmEvent) : Sys :=
  let (mgmtQ, eSmAction) := s.mgmtQ.transition eSmEvent
  let s := { s with mgmtQ := mgmtQ }
  match eSmAction with
  | .null => s
  | .enableData => s.setMux .dataQueues
  | .enableMgmt => s.setMux .mgmtQueues
  | .runScheduler => { s with driver := .loop false .mgmt }

/-! ## The calls of the management queues -/

/-- The critical section of `txMgmtQ_Xmit`: whether the packet was queued into an empty queue. -/
def enqueue (s : Sys) (uQueId : EMgmtQueueTypes) : Bool × Sys :=
  let queue := s.mgmtQ.aQueues uQueId
  if queue.length < mgmtQueuesDepth then
    ((queue ++ [s.inserted]).length = 1, { s with
      mgmtQ := { s.mgmtQ with
        aQueues := Function.update s.mgmtQ.aQueues uQueId (queue ++ [s.inserted]) }
      inserted := s.inserted + 1 })
  else (false, { s with inserted := s.inserted + 1 })

/-- `txMgmtQ_Xmit` in the driver's context. -/
def xmit (s : Sys) (uQueId : EMgmtQueueTypes) : Sys :=
  let (wasEmpty, s) := s.enqueue uQueId
  if wasEmpty then s.mgmtQueuesSM .queuesNotEmpty else s

/-- `txMgmtQ_Xmit` in the network stack's context, up to the end of its critical section. -/
def xmitExternal (s : Sys) (uQueId : EMgmtQueueTypes) : Sys :=
  let (wasEmpty, s) := s.enqueue uQueId
  { s with network := .left wasEmpty }

/-- The event of `txMgmtQ_SetConnState`. -/
def connEvent : ETxConnState → ESmEvent
  | .close => .close
  | .mgmt => .mgmt
  | .eapol => .eapol
  | .openTx => .openTx

def setConnState (s : Sys) (eTxConnState : ETxConnState) : Sys :=
  { s with mgmtQ := { s.mgmtQ with eTxConnState := eTxConnState } }.mgmtQueuesSM
    (connEvent eTxConnState)

/-- `updateQueuesBusyMap`, with the bit of TID 7. -/
def updateQueuesBusyMap (s : Sys) (busy : Bool) : Sys :=
  { s with mgmtQ := { s.mgmtQ with aQueueBusy := fun _ => busy } }

def updateBusyMap (s : Sys) (busy : Bool) : Sys :=
  { s.updateQueuesBusyMap busy with hwRefused := false }.runSchedulerNotFromSm

/-! ## The scheduler -/

/-- `runScheduler` returns, to the state machine or to `runSchedulerNotFromSm`. -/
def leave : Bool → Driver
  | true => .ran
  | false => .outside

/-- Nothing could be sent from a queue. -/
def nextQueue (notFromSm : Bool) : EMgmtQueueTypes → Driver
  | .mgmt => .loop notFromSm .eapol
  | .eapol => leave notFromSm

/-- An iteration up to the critical section that dequeues. -/
def iterate (s : Sys) (notFromSm : Bool) (uQueId : EMgmtQueueTypes) : Sys :=
  if !s.mgmtQ.bMgmtPortEnable then { s with driver := leave notFromSm }
  else if !s.mgmtQ.aQueueBusy uQueId && s.mgmtQ.aQueueEnabledBySM uQueId then
    match s.mgmtQ.aQueues uQueId with
    | [] => { s with driver := nextQueue notFromSm uQueId }
    | p :: rest => { s with
        mgmtQ := { s.mgmtQ with aQueues := Function.update s.mgmtQ.aQueues uQueId rest }
        driver := .dequeued notFromSm uQueId p }
  else { s with driver := nextQueue notFromSm uQueId }

/-- `txCtrl_XmitMgmt` and what the scheduler does with its answer. -/
def xmitMgmt (s : Sys) (notFromSm : Bool) (uQueId : EMgmtQueueTypes) (pPktCtrlBlk : ℕ)
    (eHwQueStatus : ETxHwQueStatus) (busy : Bool) : Sys :=
  match eHwQueStatus with
  | .success => { s with driver := .loop notFromSm .mgmt }
  | .stopNext => { s.updateQueuesBusyMap busy with driver := .loop notFromSm .mgmt }
  | .stopCurrent => { s.updateQueuesBusyMap busy with
      driver := .refused notFromSm uQueId pPktCtrlBlk
      hwRefused := true }

def requeue (s : Sys) (notFromSm : Bool) (uQueId : EMgmtQueueTypes) (pPktCtrlBlk : ℕ) : Sys :=
  let queue := s.mgmtQ.aQueues uQueId
  { s with
    mgmtQ := { s.mgmtQ with
      aQueues := Function.update s.mgmtQ.aQueues uQueId
        (if queue.length < mgmtQueuesDepth then pPktCtrlBlk :: queue else queue) }
    driver := nextQueue notFromSm uQueId }

/-- The test after the loop in `runSchedulerNotFromSm`. -/
def testEmpty (s : Sys) : Sys :=
  let s := { s with driver := .outside }
  if areAllMgmtQueuesEmpty s.mgmtQ.aQueues then s.mgmtQueuesSM .queuesEmpty else s

inductive Op
  | xmit (uQueId : EMgmtQueueTypes)
  /-- The network stack calls `txMgmtQ_Xmit`, up to the end of its critical section. -/
  | xmitExternal (uQueId : EMgmtQueueTypes)
  | requestSchedule
  /-- The driver task calls `txMgmtQ_QueuesNotEmpty`. -/
  | queuesNotEmpty
  | setConnState (eTxConnState : ETxConnState)
  | updateBusyMap (busy : Bool)
  | setSuspended (txSuspended : Bool)
  | iterate
  | xmitMgmt (eHwQueStatus : ETxHwQueStatus) (busy : Bool)
  | requeue
  | testEmpty

def step (s : Sys) : Op → Option Sys
  | .xmit uQueId => if s.driver = .outside then some (s.xmit uQueId) else none
  | .xmitExternal uQueId => if s.network = .outside then some (s.xmitExternal uQueId) else none
  | .requestSchedule =>
    match s.network with
    | .left bRequestSchedule =>
      some { s with network := .outside, scheduled := bRequestSchedule || s.scheduled }
    | .outside => none
  | .queuesNotEmpty =>
    if s.scheduled ∧ s.driver = .outside then
      some ({ s with scheduled := false }.mgmtQueuesSM .queuesNotEmpty)
    else none
  | .setConnState eTxConnState =>
    if s.driver = .outside then some (s.setConnState eTxConnState) else none
  | .updateBusyMap busy => if s.driver = .outside then some (s.updateBusyMap busy) else none
  | .setSuspended txSuspended =>
    if s.driver = .outside then some (s.setSuspended txSuspended) else none
  | .iterate =>
    match s.driver with
    | .loop notFromSm uQueId => some (s.iterate notFromSm uQueId)
    | _ => none
  | .xmitMgmt eHwQueStatus busy =>
    match s.driver with
    | .dequeued notFromSm uQueId p => some (s.xmitMgmt notFromSm uQueId p eHwQueStatus busy)
    | _ => none
  | .requeue =>
    match s.driver with
    | .refused notFromSm uQueId p => some (s.requeue notFromSm uQueId p)
    | _ => none
  | .testEmpty => if s.driver = .ran then some s.testEmpty else none

end Sys

end ArchosGpl.Wlan.TxMgmtQueue
