import ArchosGpl.Wlan.TxDataQueue.Model
import ArchosGpl.Wlan.TxHwQueue.Model

/-!
# Model of TX control between the queues (`stad/src/Data_link/txCtrl.c`)

`txCtrl` takes a packet from the data queues or from the management queues, allocates its HW
resources, and passes the HW queues' backpressure up. The system is the three modules together: the
data queues of `TxDataQueue` with their scheduler, `txCtrl`, and the HW queues of `TxHwQueue`.

Of the packet there is its TID and its length, and of the management queues only that they send. The
calls of `txCtrl` run in the driver's context: all but `txCtrl_XmitData` come from outside the
scheduler of the data queues.
-/

namespace ArchosGpl.Wlan.TxCtrl

open Lib
open TxDataQueue (maxNumOfAc maxNumOf8021dTags)
open TxHwQueue (TTxHwQueue TxIfDescriptor FwStatus HwParams)

scoped instance neZero_4 : NeZero 4 := ⟨by decide⟩

scoped instance neZero_8 : NeZero 8 := ⟨by decide⟩

/-- `priorityOrderedAc`: background, best effort, video and voice. -/
def priorityOrderedAc : List (Fin maxNumOfAc) := [1, 0, 2, 3]

/-- The fields of `txCtrl_t` that carry the backpressure. A bit is set for each busy category. -/
structure TTxCtrl where
  highestAdmittedAc : Fin maxNumOfAc → Fin maxNumOfAc
  busyAcBitmap : Fin maxNumOfAc → Bool

/-- The three modules. -/
structure Sys where
  ctrl : TTxCtrl
  dataQ : TxDataQueue.Sys
  hwQ : TTxHwQueue

/-- The inner loop of `txCtrl_UpdateHighestAdmittedAcTable`: the highest category at or below the
input that does not require admission, else best effort. -/
def highestNotRequired (admissionRequired : Fin maxNumOfAc → Bool) (inputAc : Fin maxNumOfAc) :
    Fin maxNumOfAc :=
  let below := priorityOrderedAc.take (priorityOrderedAc.idxOf inputAc + 1)
  (below.reverse.find? fun outputAc => !admissionRequired outputAc).getD 0

def updateHighestAdmittedAcTable (admissionState admissionRequired : Fin maxNumOfAc → Bool)
    (inputAc : Fin maxNumOfAc) : Fin maxNumOfAc :=
  if admissionState inputAc then inputAc else highestNotRequired admissionRequired inputAc

/-- The answer of the HW queues, as the data queues' scheduler sees it. -/
def answer : TxHwQueue.ETxHwQueStatus → TxDataQueue.ETxHwQueStatus
  | .success => .success
  | .stopNext => .stopNext
  | .stopCurrent => .stopCurrent

namespace Sys

/-- After `txCtrl_SetDefaults` and the start of the firmware: every category is admitted. -/
def start (p : TxDataQueue.TxDataInitParams) (params : HwParams) : Sys where
  ctrl :=
    { highestAdmittedAc := updateHighestAdmittedAcTable (fun _ => true) fun _ => false
      busyAcBitmap := fun _ => false }
  dataQ := TxDataQueue.Sys.init p
  hwQ := (TTxHwQueue.start params).registerCb

/-- `txCtrl_UpdateBackpressure`: the busy categories' TIDs, for the data queues. -/
def updateBackpressure (s : Sys) (freedAcBitmap : ℕ) : Sys :=
  let busyAcBitmap : Fin maxNumOfAc → Bool :=
    fun ac => s.ctrl.busyAcBitmap ac && !freedAcBitmap.testBit ac.val
  let busyTidBitmap : Fin maxNumOf8021dTags → Bool := fun tid =>
    (List.finRange maxNumOfAc).any fun ac =>
      busyAcBitmap ac && TxDataQueue.Sys.admittedAcToTidMap s.ctrl.highestAdmittedAc ac tid
  { s with
    ctrl := { s.ctrl with busyAcBitmap := busyAcBitmap }
    dataQ := (s.dataQ.updateQueuesBusyState busyTidBitmap).enterScheduler }

/-- `busyAcBitmap` after the HW queues' answer. -/
def setBusyBit (ctrl : TTxCtrl) (ac : Fin maxNumOfAc) : TxHwQueue.ETxHwQueStatus → TTxCtrl
  | .stopNext => { ctrl with busyAcBitmap := Function.update ctrl.busyAcBitmap ac true }
  | .success | .stopCurrent => ctrl

/-- The category of a packet and its descriptor for the HW queues, downgraded where needed. -/
def select (s : Sys) (tid : Fin maxNumOf8021dTags) (length : UInt16) :
    Fin maxNumOfAc × TxIfDescriptor :=
  let (ac, tid) := TxDataQueue.Sys.selectAcForTid s.ctrl.highestAdmittedAc tid
  (ac, ⟨length, 0, 0, tid⟩)

/-- `txCtrl_XmitData`, with `txDataQ_StopQueue` on the side of the data queues. -/
def xmitData (s : Sys) (idle : ℕ) (q : Fin maxNumOfAc) (p : TxDataQueue.TTxCtrlBlk)
    (length : UInt16) : Sys :=
  let (ac, d) := s.select p.tid length
  let (eHwQueStatus, hwQ, _) := s.hwQ.allocResources d
  { ctrl := setBusyBit s.ctrl ac eHwQueStatus
    dataQ := s.dataQ.xmitData idle q p s.ctrl.highestAdmittedAc (answer eHwQueStatus)
    hwQ := hwQ }

/-- `txCtrl_XmitMgmt`: what it stops is in the management queues. -/
def xmitMgmt (s : Sys) (tid : Fin maxNumOf8021dTags) (length : UInt16) : Sys :=
  let (ac, d) := s.select tid length
  let (eHwQueStatus, hwQ, _) := s.hwQ.allocResources d
  { s with ctrl := setBusyBit s.ctrl ac eHwQueStatus, hwQ := hwQ }

/-- `txHwQueue_UpdateFreeResources`, with the callback where it calls it. -/
def updateFreeResources (s : Sys) (fw : FwStatus) : Sys :=
  let hwQ := s.hwQ.updateFreeResources fw
  (hwQ.busyMaps.drop s.hwQ.busyMaps.length).foldl updateBackpressure { s with hwQ := hwQ }

def updateQueuesMapping (s : Sys) (admissionState admissionRequired : Fin maxNumOfAc → Bool) : Sys :=
  let highestAdmittedAc := updateHighestAdmittedAcTable admissionState admissionRequired
  { s with ctrl := { s.ctrl with highestAdmittedAc := highestAdmittedAc } }.updateBackpressure 0

/-- A recovery: `txHwQueue_Restart`, and `txCtrl_NotifyFwReset`. -/
def notifyFwReset (s : Sys) : Sys :=
  { s with
    ctrl := { s.ctrl with busyAcBitmap := fun _ => false }
    hwQ := s.hwQ.restart }.updateBackpressure 0

/-- The steps of the data queues that do not go through `txCtrl`. -/
def isInner : TxDataQueue.Sys.Op → Bool
  | .xmitData _ _ | .updateBusyMap _ => false
  | _ => true

inductive Op
  /-- A step of the network stack or of the data queues' scheduler. -/
  | dataQ (op : TxDataQueue.Sys.Op)
  | xmitData (length : UInt16)
  | xmitMgmt (tid : Fin maxNumOf8021dTags) (length : UInt16)
  | updateFreeResources (fw : FwStatus)
  | updateQueuesMapping (admissionState admissionRequired : Fin maxNumOfAc → Bool)
  | notifyFwReset

def step (s : Sys) : Op → Option Sys
  | .dataQ op =>
    if isInner op then (s.dataQ.step op).map fun dataQ => { s with dataQ := dataQ } else none
  | .xmitData length =>
    match s.dataQ.driver with
    | .dequeued idle q p => some (s.xmitData idle q p length)
    | _ => none
  | .xmitMgmt tid length =>
    if s.dataQ.driver = .outside then some (s.xmitMgmt tid length) else none
  | .updateFreeResources fw =>
    if s.dataQ.driver = .outside then some (s.updateFreeResources fw) else none
  | .updateQueuesMapping admissionState admissionRequired =>
    if s.dataQ.driver = .outside then
      some (s.updateQueuesMapping admissionState admissionRequired)
    else none
  | .notifyFwReset => if s.dataQ.driver = .outside then some s.notifyFwReset else none

end Sys

end ArchosGpl.Wlan.TxCtrl
