import Mathlib.Algebra.GroupWithZero.Nat
import Mathlib.Data.Fin.VecNotation
import Mathlib.Data.List.FinRange
import Mathlib.Logic.Function.Basic
import ArchosGpl.Lib.Machine

/-!
# Model of the TX data queues (`stad/src/Data_link/txDataQueue.c`)

The network stack inserts packets in its own context, the scheduler runs in the driver's context. A
step is one critical section, one call out (`txCtrl_XmitData`, `wlanDrvIf_StopTx`,
`wlanDrvIf_ResumeTx`, `context_RequestSchedule`), or one test or write of a shared flag; the steps
of the two contexts interleave.

A packet is numbered in the order of the calls of `txDataQ_InsertPacket` and carries the TID that
the classifier gave it. EAPOL packets go to the management queues and are not seen here. The driver
is in its operational state, and `context_RequestSchedule` switches the context.
-/

open Function (update)

namespace ArchosGpl.Wlan.TxDataQueue

open Lib

scoped instance neZero_4 : NeZero 4 := ⟨by decide⟩

scoped instance neZero_8 : NeZero 8 := ⟨by decide⟩

abbrev maxNumOfAc : ℕ := 4

abbrev maxNumOf8021dTags : ℕ := 8

/-- `aTidToQueueTable`. `WMEQosTagToACTable` is the same. -/
def aTidToQueueTable : Fin maxNumOf8021dTags → Fin maxNumOfAc := ![0, 1, 1, 0, 2, 2, 3, 3]

def wmeQosAcToTid : Fin maxNumOfAc → Fin maxNumOf8021dTags := ![0, 2, 4, 6]

/-- `DATA_QUEUE_DEPTH_BE`, `_BK`, `_VI` and `_VO`. -/
def dataQueueDepth : Fin maxNumOfAc → ℕ := ![60, 10, 32, 10]

/-- A packet: its number and `tTxDescriptor.tid`. -/
structure TTxCtrlBlk where
  num : ℕ
  tid : Fin maxNumOf8021dTags
  deriving DecidableEq

/-- `TTxDataQ`. The queues are listed from the tail, where packets are taken. -/
structure TTxDataQ where
  bDataPortEnable : Bool
  aQueueMaxSize : Fin maxNumOfAc → ℕ
  aTxSendPaceThresh : Fin maxNumOfAc → ℕ
  aQueues : Fin maxNumOfAc → List TTxCtrlBlk
  aQueueBusy : Fin maxNumOfAc → Bool
  uLastQueId : Fin maxNumOfAc
  aNetStackQueueStopped : Fin maxNumOfAc → Bool
  bStopNetStackTx : Bool

/-- `txDataInitParams_t`. The registry keeps the threshold at or above `TX_SEND_PACE_THRESH_MIN`. -/
structure TxDataInitParams where
  bStopNetStackTx : Bool
  uTxSendPaceThresh : ℕ
  thresh_pos : 1 ≤ uTxSendPaceThresh

/-- Where `txDataQ_InsertPacket` is, after its critical section. -/
inductive Network
  | outside
  | left (pPktCtrlBlk : TTxCtrlBlk) (uQueId : Fin maxNumOfAc) (queued bRequestSchedule
      bStopNetStack : Bool)
  | requested (pPktCtrlBlk : TTxCtrlBlk) (uQueId : Fin maxNumOfAc) (queued bStopNetStack : Bool)
  deriving DecidableEq

/-- Where `txDataQ_RunScheduler` is: at the top of the loop, after `que_Dequeue` found the queue
empty, about to resume the network stack, with a packet, or with a packet that `txCtrl` refused. -/
inductive Driver
  | outside
  | loop (uIdleIterationsCount : ℕ) (uQueId : Fin maxNumOfAc)
  | empty (uIdleIterationsCount : ℕ) (uQueId : Fin maxNumOfAc)
  | resuming (uIdleIterationsCount : ℕ) (uQueId : Fin maxNumOfAc)
  | dequeued (uIdleIterationsCount : ℕ) (uQueId : Fin maxNumOfAc) (pPktCtrlBlk : TTxCtrlBlk)
  | refused (uIdleIterationsCount : ℕ) (uQueId : Fin maxNumOfAc) (pPktCtrlBlk : TTxCtrlBlk)
  deriving DecidableEq

/-- `ETxHwQueStatus`: what `TWD_txHwQueue_AllocResources` answers. -/
inductive ETxHwQueStatus
  | success
  | stopNext
  | stopCurrent
  deriving DecidableEq, Repr

/-- The module with the two contexts. `scheduled` is the client's pending flag; the pacing timer
runs (`paceTimer`) or has expired (`expired`); `netStopped` is the state of the network stack. The
rest is history. -/
structure Sys where
  obj : TTxDataQ
  network : Network
  driver : Driver
  scheduled : Bool
  paceTimer : Bool
  expired : Bool
  netStopped : Bool
  inserted : ℕ
  handed : List (Fin maxNumOfAc × ℕ)
  freed : List ℕ

namespace Sys

/-- After `txDataQ_Init` and `txDataQ_SetDefaults`. -/
def init (p : TxDataInitParams) : Sys where
  obj :=
    { bDataPortEnable := false
      aQueueMaxSize := dataQueueDepth
      aTxSendPaceThresh := update (fun _ => p.uTxSendPaceThresh) 3 1
      aQueues := fun _ => []
      aQueueBusy := fun _ => false
      uLastQueId := 0
      aNetStackQueueStopped := fun _ => false
      bStopNetStackTx := p.bStopNetStackTx }
  network := .outside
  driver := .outside
  scheduled := false
  paceTimer := false
  expired := false
  netStopped := false
  inserted := 0
  handed := []
  freed := []

/-! ## `txDataQ_InsertPacket` -/

/-- `que_Enqueue` in the critical section. -/
def enqueue (s : Sys) (q : Fin maxNumOfAc) (pPktCtrlBlk : TTxCtrlBlk) : List TTxCtrlBlk :=
  if (s.obj.aQueues q).length < s.obj.aQueueMaxSize q then s.obj.aQueues q ++ [pPktCtrlBlk]
  else s.obj.aQueues q

/-- The critical section. -/
def insertPacket (s : Sys) (tid : Fin maxNumOf8021dTags) : Sys :=
  let pPktCtrlBlk : TTxCtrlBlk := ⟨s.inserted, tid⟩
  let q := aTidToQueueTable tid
  let queue := s.enqueue q pPktCtrlBlk
  let uQueSize := queue.length
  let pace := !s.obj.aQueueBusy q && uQueSize = s.obj.aTxSendPaceThresh q
  let below := !s.obj.aQueueBusy q && uQueSize < s.obj.aTxSendPaceThresh q
  let bStopNetStack := s.obj.bStopNetStackTx && uQueSize = s.obj.aQueueMaxSize q
  { s with
    obj := { s.obj with
      aQueues := update s.obj.aQueues q queue
      aNetStackQueueStopped :=
        if bStopNetStack then update s.obj.aNetStackQueueStopped q true
        else s.obj.aNetStackQueueStopped }
    paceTimer := if pace then false else below || s.paceTimer
    network := .left pPktCtrlBlk q ((s.obj.aQueues q).length < s.obj.aQueueMaxSize q)
      (pace || bStopNetStack) bStopNetStack
    inserted := s.inserted + 1 }

/-- The calls after the critical section. A packet that was not queued is freed. -/
def stopTx (s : Sys) (pPktCtrlBlk : TTxCtrlBlk) (queued bStopNetStack : Bool) : Sys :=
  { s with
    network := .outside
    netStopped := bStopNetStack || s.netStopped
    freed := if queued then s.freed else s.freed ++ [pPktCtrlBlk.num] }

/-! ## The driver's context -/

def updateQueuesBusyState (s : Sys) (uTidBitMap : Fin maxNumOf8021dTags → Bool) : Sys :=
  { s with obj := { s.obj with
      aQueueBusy := (List.finRange maxNumOf8021dTags).foldl
        (fun busy uTidIdx => update busy (aTidToQueueTable uTidIdx) (uTidBitMap uTidIdx))
        s.obj.aQueueBusy } }

def enterScheduler (s : Sys) : Sys := { s with driver := .loop 0 s.obj.uLastQueId }

/-- An iteration up to the critical section that dequeues. -/
def iterate (s : Sys) (uIdleIterationsCount : ℕ) (uQueId : Fin maxNumOfAc) : Sys :=
  if !s.obj.bDataPortEnable || uIdleIterationsCount ≥ maxNumOfAc then { s with driver := .outside }
  else
    let q := uQueId + 1
    let idle := uIdleIterationsCount + 1
    let s := { s with obj := { s.obj with uLastQueId := q } }
    if s.obj.aQueueBusy q then { s with driver := .loop idle q }
    else match s.obj.aQueues q with
      | [] => { s with driver := .empty idle q }
      | p :: rest => { s with
          obj := { s.obj with aQueues := update s.obj.aQueues q rest }
          driver := .dequeued idle q p }

/-- The queue was empty. -/
def testStopped (s : Sys) (idle : ℕ) (q : Fin maxNumOfAc) : Sys :=
  if s.obj.bStopNetStackTx && s.obj.aNetStackQueueStopped q then
    { s with
      obj := { s.obj with
        aNetStackQueueStopped := update s.obj.aNetStackQueueStopped q false }
      driver := .resuming idle q }
  else { s with driver := .loop idle q }

/-- `SELECT_AC_FOR_TID`: the access category, and the TID of the packet afterwards. -/
def selectAcForTid (highestAdmittedAc : Fin maxNumOfAc → Fin maxNumOfAc)
    (tid : Fin maxNumOf8021dTags) : Fin maxNumOfAc × Fin maxNumOf8021dTags :=
  let ac := highestAdmittedAc (aTidToQueueTable tid)
  (ac, if ac ≠ aTidToQueueTable tid then wmeQosAcToTid ac else tid)

/-- `txCtrl_UpdateAcToTidMapping`: the TIDs that use an access category. -/
def admittedAcToTidMap (highestAdmittedAc : Fin maxNumOfAc → Fin maxNumOfAc) (ac : Fin maxNumOfAc) :
    Fin maxNumOf8021dTags → Bool :=
  fun tid => highestAdmittedAc (aTidToQueueTable tid) = ac

/-- `txCtrl_XmitData` and what the scheduler does with its answer. -/
def xmitData (s : Sys) (idle : ℕ) (q : Fin maxNumOfAc) (p : TTxCtrlBlk)
    (highestAdmittedAc : Fin maxNumOfAc → Fin maxNumOfAc) (eHwQueStatus : ETxHwQueStatus) : Sys :=
  let (ac, tid) := selectAcForTid highestAdmittedAc p.tid
  let stopped := s.updateQueuesBusyState (admittedAcToTidMap highestAdmittedAc ac)
  match eHwQueStatus with
  | .success => { s with driver := .loop 0 q, handed := s.handed ++ [(q, p.num)] }
  | .stopNext => { stopped with driver := .loop 0 q, handed := s.handed ++ [(q, p.num)] }
  | .stopCurrent => { stopped with driver := .refused idle q { p with tid := tid } }

def requeue (s : Sys) (idle : ℕ) (q : Fin maxNumOfAc) (p : TTxCtrlBlk) : Sys :=
  if (s.obj.aQueues q).length < s.obj.aQueueMaxSize q then
    { s with
      obj := { s.obj with aQueues := update s.obj.aQueues q (p :: s.obj.aQueues q) }
      driver := .loop idle q }
  else { s with driver := .loop idle q, freed := s.freed ++ [p.num] }

inductive Op
  /-- `txDataQ_InsertPacket` with the TID of the classifier, up to the end of its critical section. -/
  | insertPacket (tid : Fin maxNumOf8021dTags)
  | requestSchedule
  | stopTx
  /-- The pacing timer expires. -/
  | paceExpiry
  /-- The driver task calls `txDataQ_RunScheduler`. -/
  | runScheduler
  | txSendPaceTimeout
  | updateBusyMap (uTidBitMap : Fin maxNumOf8021dTags → Bool)
  | stopAll
  | wakeAll
  | iterate
  | testStopped
  | resumeTx
  /-- `txCtrl_XmitData`, with the admitted access categories and what the HW queues answer. -/
  | xmitData (highestAdmittedAc : Fin maxNumOfAc → Fin maxNumOfAc) (eHwQueStatus : ETxHwQueStatus)
  | requeue

def step (s : Sys) : Op → Option Sys
  | .insertPacket tid => if s.network = .outside then some (s.insertPacket tid) else none
  | .requestSchedule =>
    match s.network with
    | .left p q queued bRequestSchedule bStopNetStack =>
      some { s with
        network := .requested p q queued bStopNetStack
        scheduled := bRequestSchedule || s.scheduled }
    | _ => none
  | .stopTx =>
    match s.network with
    | .requested p _ queued bStopNetStack => some (s.stopTx p queued bStopNetStack)
    | _ => none
  | .paceExpiry => if s.paceTimer then some { s with paceTimer := false, expired := true } else none
  | .runScheduler =>
    if s.scheduled ∧ s.driver = .outside then some (enterScheduler { s with scheduled := false })
    else none
  | .txSendPaceTimeout =>
    if s.expired ∧ s.driver = .outside then some (enterScheduler { s with expired := false })
    else none
  | .updateBusyMap uTidBitMap =>
    if s.driver = .outside then some (s.updateQueuesBusyState uTidBitMap).enterScheduler else none
  | .stopAll =>
    if s.driver = .outside then some { s with obj := { s.obj with bDataPortEnable := false } }
    else none
  | .wakeAll =>
    if s.driver = .outside then
      some (enterScheduler { s with obj := { s.obj with bDataPortEnable := true } })
    else none
  | .iterate =>
    match s.driver with
    | .loop idle q => some (s.iterate idle q)
    | _ => none
  | .testStopped =>
    match s.driver with
    | .empty idle q => some (s.testStopped idle q)
    | _ => none
  | .resumeTx =>
    match s.driver with
    | .resuming idle q => some { s with netStopped := false, driver := .loop idle q }
    | _ => none
  | .xmitData highestAdmittedAc eHwQueStatus =>
    match s.driver with
    | .dequeued idle q p => some (s.xmitData idle q p highestAdmittedAc eHwQueStatus)
    | _ => none
  | .requeue =>
    match s.driver with
    | .refused idle q p => some (s.requeue idle q p)
    | _ => none

end Sys

end ArchosGpl.Wlan.TxDataQueue
