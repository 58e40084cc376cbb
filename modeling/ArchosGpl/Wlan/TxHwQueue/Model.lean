import Mathlib.Data.Fin.VecNotation
import Mathlib.Data.Fintype.Basic
import ArchosGpl.Lib.Machine
import ArchosGpl.Lib.Word

/-!
# Model of the TX HW queue (`TWD/Data_Service/txHwQueue.c`)

The firmware has a fixed number of TX memory blocks and of TX descriptors. The driver allocates
blocks by an estimate from the packet length, per access category, and frees them by the firmware's
accumulated counters, which it reads on every interrupt.

`TI_UINT32` fields are naturals, and every addition and subtraction on them is `add32` or `sub32`,
which wrap as in C. The update-busy-map callback is the log `busyMaps`: one entry per call, with the
map it was called with.
-/

namespace ArchosGpl.Wlan.TxHwQueue

open Lib

scoped instance neZero_4 : NeZero 4 := ⟨by decide⟩

scoped instance neZero_8 : NeZero 8 := ⟨by decide⟩

abbrev numTxDescriptors : ℕ := 32

abbrev maxHeaderSize : ℕ := 48

abbrev blksHwAllocSpare : ℕ := 2

/-- A queue of the firmware: one per access category, below `MAX_NUM_OF_AC`. -/
abbrev QueueId := Fin 4

/-- `WMEQosTagToACTable`, with `QOS_AC_BE`, `QOS_AC_BK`, `QOS_AC_VI` and `QOS_AC_VO` from 0 to 3. -/
def wmeQosTagToACTable : Fin 8 → QueueId := ![0, 1, 1, 0, 2, 2, 3, 3]

/-! ## Data -/

inductive ETxHwQueStatus
  | success
  | stopCurrent
  | stopNext
  deriving DecidableEq, Repr

/-- The fields of `TxIfDescriptor_t` that the module reads or writes. -/
structure TxIfDescriptor where
  length : UInt16
  extraMemBlks : UInt8
  totalMemBlks : UInt8
  tid : Fin 8
  deriving DecidableEq, Repr

/-- The fields of `FwStatus_t` that the module reads: `txResultsCntr` of `counters`, and the blocks
released per queue since the firmware was reset. -/
structure FwStatus where
  txResultsCntr : UInt8
  txReleasedBlks : QueueId → UInt32

/-- What `txHwQueue_Config` and `txHwQueue_SetHwInfo` read of their parameters. -/
structure HwParams where
  TxBlocksThresholdPerAc : QueueId → UInt8
  NumTxBlocks : UInt32

/-- `TTxHwQueueInfo`: the block accounting of one queue. -/
structure TTxHwQueueInfo where
  uNumBlksThresh : ℕ
  uNumBlksUsed : ℕ
  uNumBlksReserved : ℕ
  uAllocatedBlksCntr : ℕ
  uFwFreedBlksCntr : ℕ
  uNumBlksCausedBusy : ℕ
  bQueueBusy : Bool
  deriving DecidableEq, Repr

/-- A queue's accounting at restart: no blocks are used, so its low threshold is reserved. -/
def TTxHwQueueInfo.restart (i : TTxHwQueueInfo) : TTxHwQueueInfo :=
  { i with
    uNumBlksUsed := 0
    uAllocatedBlksCntr := 0
    uFwFreedBlksCntr := 0
    uNumBlksCausedBusy := 0
    bQueueBusy := false
    uNumBlksReserved := i.uNumBlksThresh }

/-- `TTxHwQueue`, with whether `fUpdateBusyMapCb` is set and the log of its calls. -/
structure TTxHwQueue where
  fUpdateBusyMapCb : Bool
  uNumTotalBlks : ℕ
  uNumTotalBlksFree : ℕ
  uNumTotalBlksReserved : ℕ
  uNumUsedDescriptors : ℕ
  uFwTxResultsCntr : ℕ
  uDrvTxPacketsCntr : ℕ
  aTxHwQueueInfo : QueueId → TTxHwQueueInfo
  busyMaps : List ℕ

namespace TTxHwQueue

def setInfo (s : TTxHwQueue) (q : QueueId) (i : TTxHwQueueInfo) : TTxHwQueue :=
  { s with aTxHwQueueInfo := Function.update s.aTxHwQueueInfo q i }

section setInfo

variable (s : TTxHwQueue) (q : QueueId) (i : TTxHwQueueInfo)

@[simp] theorem setInfo_aTxHwQueueInfo :
    (s.setInfo q i).aTxHwQueueInfo = Function.update s.aTxHwQueueInfo q i := rfl

@[simp] theorem setInfo_uNumTotalBlks : (s.setInfo q i).uNumTotalBlks = s.uNumTotalBlks := rfl

@[simp] theorem setInfo_uNumTotalBlksFree :
    (s.setInfo q i).uNumTotalBlksFree = s.uNumTotalBlksFree := rfl

@[simp] theorem setInfo_uNumTotalBlksReserved :
    (s.setInfo q i).uNumTotalBlksReserved = s.uNumTotalBlksReserved := rfl

@[simp] theorem setInfo_uNumUsedDescriptors :
    (s.setInfo q i).uNumUsedDescriptors = s.uNumUsedDescriptors := rfl

@[simp] theorem setInfo_fUpdateBusyMapCb :
    (s.setInfo q i).fUpdateBusyMapCb = s.fUpdateBusyMapCb := rfl

@[simp] theorem setInfo_busyMaps : (s.setInfo q i).busyMaps = s.busyMaps := rfl

end setInfo

/-! ## Creation and restart -/

/-- `txHwQueue_Create`: a zeroed object. -/
def create : TTxHwQueue where
  fUpdateBusyMapCb := false
  uNumTotalBlks := 0
  uNumTotalBlksFree := 0
  uNumTotalBlksReserved := 0
  uNumUsedDescriptors := 0
  uFwTxResultsCntr := 0
  uDrvTxPacketsCntr := 0
  aTxHwQueueInfo := fun _ => ⟨0, 0, 0, 0, 0, 0, false⟩
  busyMaps := []

/-- `txHwQueue_Config`. -/
def config (s : TTxHwQueue) (params : HwParams) : TTxHwQueue :=
  { s with
    aTxHwQueueInfo := fun q =>
      { s.aTxHwQueueInfo q with uNumBlksThresh := (params.TxBlocksThresholdPerAc q).toNat } }

/-- The loop body of `txHwQueue_Restart`. -/
def restartQueue (s : TTxHwQueue) (q : QueueId) : TTxHwQueue :=
  let i := (s.aTxHwQueueInfo q).restart
  { s.setInfo q i with
    uNumTotalBlksReserved := add32 s.uNumTotalBlksReserved i.uNumBlksReserved }

/-- `txHwQueue_Restart`. -/
def restart (s : TTxHwQueue) : TTxHwQueue :=
  (List.finRange 4).foldl restartQueue
    { s with
      uNumTotalBlksFree := s.uNumTotalBlks
      uNumTotalBlksReserved := 0
      uNumUsedDescriptors := 0
      uFwTxResultsCntr := 0
      uDrvTxPacketsCntr := 0 }

/-- `txHwQueue_SetHwInfo`: one block must always be free for the firmware. -/
def setHwInfo (s : TTxHwQueue) (params : HwParams) : TTxHwQueue :=
  { s with uNumTotalBlks := sub32 params.NumTxBlocks.toNat 1 }.restart

/-- The module as the driver's start leaves it. -/
def start (params : HwParams) : TTxHwQueue :=
  (create.config params).setHwInfo params

/-- `txHwQueue_RegisterCb` with `TWD_INT_UPDATE_BUSY_MAP`. -/
def registerCb (s : TTxHwQueue) : TTxHwQueue :=
  { s with fUpdateBusyMapCb := true }

/-! ## Allocation -/

/-- `txHwQueue_CheckResources`: the blocks available to a queue, 0 when no descriptor is left. -/
def checkResources (s : TTxHwQueue) (q : QueueId) : ℕ :=
  if s.uNumUsedDescriptors < numTxDescriptors then
    sub32 s.uNumTotalBlksFree
      (sub32 s.uNumTotalBlksReserved (s.aTxHwQueueInfo q).uNumBlksReserved)
  else 0

/-- The packet's blocks: its length by 256, one or two for what that leaves out, and the spare. -/
def numBlksToAlloc (length : UInt16) : ℕ :=
  let uNumBlksToAlloc := (length.toNat + 20) >>> 8
  let uExcludedLength :=
    (uNumBlksToAlloc <<< 2) + ((length.toNat + 20) &&& 0xFF) + maxHeaderSize - 14
  uNumBlksToAlloc + (if uExcludedLength > 252 then 2 else 1) + blksHwAllocSpare

/-- A queue's reservation and the total reservation after `n` blocks are allocated to it. -/
def takeReserved (uNumBlksReserved uNumTotalBlksReserved n : ℕ) : ℕ × ℕ :=
  if uNumBlksReserved ≠ 0 then
    if n > uNumBlksReserved then (0, sub32 uNumTotalBlksReserved uNumBlksReserved)
    else (sub32 uNumBlksReserved n, sub32 uNumTotalBlksReserved n)
  else (uNumBlksReserved, uNumTotalBlksReserved)

/-- The counters once `n` blocks and a descriptor are allocated to a queue. -/
def allocate (s : TTxHwQueue) (q : QueueId) (n : ℕ) : TTxHwQueue :=
  let i := s.aTxHwQueueInfo q
  let reserved := takeReserved i.uNumBlksReserved s.uNumTotalBlksReserved n
  { s.setInfo q
      { i with
        uAllocatedBlksCntr := add32 i.uAllocatedBlksCntr n
        uNumBlksReserved := reserved.1
        uNumBlksUsed := add32 i.uNumBlksUsed n } with
    uNumUsedDescriptors := add32 s.uNumUsedDescriptors 1
    uDrvTxPacketsCntr := (s.uDrvTxPacketsCntr + 1) % 2 ^ 8
    uNumTotalBlksReserved := reserved.2
    uNumTotalBlksFree := sub32 s.uNumTotalBlksFree n }

/-- A queue is stopped for want of `n` blocks. -/
def stopQueue (s : TTxHwQueue) (q : QueueId) (n : ℕ) : TTxHwQueue :=
  s.setInfo q { s.aTxHwQueueInfo q with uNumBlksCausedBusy := n, bQueueBusy := true }

def allocResources (s : TTxHwQueue) (d : TxIfDescriptor) :
    ETxHwQueStatus × TTxHwQueue × TxIfDescriptor :=
  let q := wmeQosTagToACTable d.tid
  let n := numBlksToAlloc d.length
  let uAvailableBlks := s.checkResources q
  if n > uAvailableBlks then (.stopCurrent, s.stopQueue q n, d)
  else
    let d' := { d with extraMemBlks := 2, totalMemBlks := UInt8.ofNat n }
    -- no room for another packet of this size: the current one goes on, the queue stops
    if n <<< 1 > uAvailableBlks then (.stopNext, (s.allocate q n).stopQueue q n, d')
    else (.success, s.allocate q n, d')

/-! ## Freeing -/

/-- `txHwQueue_UpdateFreeBlocks`: a queue's accounting from the firmware's freed-blocks counter. -/
def updateFreeBlocks (s : TTxHwQueue) (q : QueueId) (uFreeBlocks : ℕ) : TTxHwQueue :=
  let i := s.aTxHwQueueInfo q
  if uFreeBlocks = i.uFwFreedBlksCntr then s
  else
    let newUsedBlks := sub32 i.uAllocatedBlksCntr uFreeBlocks
    let numBlksToFree := sub32 i.uNumBlksUsed newUsedBlks
    let lowThreshold := i.uNumBlksThresh
    let newReserved := lowThreshold - newUsedBlks
    { s with
      uNumTotalBlksFree := add32 s.uNumTotalBlksFree numBlksToFree
      -- blocks are reserved only up to the low threshold
      uNumTotalBlksReserved :=
        if newUsedBlks < lowThreshold then
          if numBlksToFree > newReserved then add32 s.uNumTotalBlksReserved newReserved
          else add32 s.uNumTotalBlksReserved numBlksToFree
        else s.uNumTotalBlksReserved
      aTxHwQueueInfo := Function.update s.aTxHwQueueInfo q
        { i with
          uFwFreedBlksCntr := uFreeBlocks
          uNumBlksUsed := newUsedBlks
          uNumBlksReserved :=
            if newUsedBlks < lowThreshold then newReserved else i.uNumBlksReserved } }

/-- The descriptors in use, from the firmware's counter of TX results. -/
def updateDescriptors (s : TTxHwQueue) (txResultsCntr : ℕ) : TTxHwQueue :=
  if txResultsCntr = s.uFwTxResultsCntr then s
  else
    { s with
      uFwTxResultsCntr := txResultsCntr
      uNumUsedDescriptors :=
        if txResultsCntr ≤ s.uDrvTxPacketsCntr then s.uDrvTxPacketsCntr - txResultsCntr
        else 0x100 - (txResultsCntr - s.uDrvTxPacketsCntr) }

/-- The first loop of `txHwQueue_UpdateFreeResources`. -/
def freeBlocks (s : TTxHwQueue) (txReleasedBlks : QueueId → UInt32) : TTxHwQueue :=
  (List.finRange 4).foldl (fun s q => s.updateFreeBlocks q (txReleasedBlks q).toNat) s

/-- The body of the second loop: a busy queue whose demand is met is started, with its bit set in
the map. -/
def startQueue (m : TTxHwQueue × ℕ) (q : QueueId) : TTxHwQueue × ℕ :=
  let i := m.1.aTxHwQueueInfo q
  if i.bQueueBusy ∧ i.uNumBlksCausedBusy ≤ m.1.checkResources q then
    (m.1.setInfo q { i with bQueueBusy := false }, m.2 ||| (1 <<< q.val))
  else m

/-- The second loop of `txHwQueue_UpdateFreeResources`: the state and the map `uBackpressure`. -/
def startQueues (s : TTxHwQueue) : TTxHwQueue × ℕ :=
  (List.finRange 4).foldl startQueue (s, 0)

def updateFreeResources (s : TTxHwQueue) (fw : FwStatus) : TTxHwQueue :=
  let freed := (s.updateDescriptors fw.txResultsCntr.toNat).freeBlocks fw.txReleasedBlks
  let m := freed.startQueues
  if m.2 > 0 ∧ m.1.fUpdateBusyMapCb then { m.1 with busyMaps := m.1.busyMaps ++ [m.2] } else m.1

/-! ## Runs -/

inductive Op
  | allocResources (d : TxIfDescriptor)
  | updateFreeResources (fw : FwStatus)
  | restart
  | registerCb

def step (s : TTxHwQueue) : Op → Option TTxHwQueue
  | .allocResources d => some (s.allocResources d).2.1
  | .updateFreeResources fw => some (s.updateFreeResources fw)
  | .restart => some s.restart
  | .registerCb => some s.registerCb

end TTxHwQueue

end ArchosGpl.Wlan.TxHwQueue
