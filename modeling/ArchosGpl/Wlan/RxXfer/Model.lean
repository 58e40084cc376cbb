import Mathlib.Data.Fintype.Basic
import ArchosGpl.Lib.Machine
import ArchosGpl.Lib.Word

/-!
# Model of the RX transfer (`TWD/FW_Transfer/RxXfer.c`)

The firmware reports packets by short descriptors. The host allocates a buffer for each, aggregates
packets into read transactions, and hands the buffers of a read to the RX queue when the read
completes. A packet without a buffer is read into a dummy buffer.

Buffers are numbered as the allocation callback gives them out. A step is a call into the module:
an RX event of the firmware, the completion of a read in flight, its failure (`twIf` calls no
callback then and starts the recovery), and the restart. What the allocation callback and the bus
answer during a step are inputs of the step. Reads in flight complete in the order of their issue.
The module is the one built with `TI_DBG`.
-/

namespace ArchosGpl.Wlan.RxXfer

open Lib

scoped instance neZero_8 : NeZero 8 := ⟨by decide⟩

scoped instance neZero_16 : NeZero 16 := ⟨by decide⟩

abbrev numRxPktDesc : ℕ := 8

abbrev maxConsecutiveReadTxn : ℕ := 16

abbrev maxXferBufs : ℕ := 4

def rxDescGetMemBlk (desc : ℕ) : ℕ := desc % 2 ^ 8

/-- `RX_DESC_GET_LENGTH`, in words. -/
def rxDescGetLength (desc : ℕ) : ℕ := desc / 2 ^ 8 % 2 ^ 12

def buffSize (desc : ℕ) : ℕ := rxDescGetLength desc * 2 ^ 2

inductive ERxBufferStatus
  | pending
  | complete
  | outOfMem
  deriving DecidableEq, Repr

/-- `ETxnStatus`: how `twIf_Transact` returns. -/
inductive ETxnStatus
  | complete
  | pending
  | error
  deriving DecidableEq, Repr

/-- The two callbacks of a read, `rxXfer_TxnDoneCb` and `rxXfer_PktDropTxnDoneCb`. -/
inductive TTxnDoneCb
  | txnDone
  | pktDrop
  deriving DecidableEq, Repr

/-- A buffer, `none` for `aTempBuffer`. -/
abbrev Buf := Option ℕ

/-- `TTxnStruct` of a read. `aBuf` are the used buffers with their `aLen`, empty when `aBuf[0]` is
0. -/
structure TTxnStruct where
  aBuf : List (Buf × ℕ)
  endOfBurst : Bool
  fTxnDoneCb : TTxnDoneCb
  deriving DecidableEq

/-- `TRxXfer`. The registry keeps `uMaxAggregPkts` within the buffers of a transaction. -/
structure TRxXfer where
  aRxPktsDesc : Fin numRxPktDesc → ℕ
  uFwRxCntr : ℕ
  uDrvRxCntr : ℕ
  uPacketMemoryPoolStart : ℕ
  uMaxAggregLen : ℕ
  uMaxAggregPkts : Fin (maxXferBufs + 1)
  bPendingBuffer : Bool
  uCurrTxnIndex : Fin maxConsecutiveReadTxn
  uAvailableTxn : ℕ
  aTxnStruct : Fin maxConsecutiveReadTxn → TTxnStruct

/-- A call of `RxQueue_ReceivePacket`: the buffer, whether it carries `DRV_RX_FLAG_END_OF_BURST`,
and whether it is tagged `TAG_CLASS_UNKNOWN`, only to be freed. -/
structure Handed where
  buf : Buf
  endOfBurst : Bool
  unknown : Bool
  deriving DecidableEq

/-- A call of `rxXfer_IssueTxn`: the structure as the bus gets it, those whose reads were in flight,
the driver counter, and how the read stands. -/
structure Read where
  uIndex : Fin maxConsecutiveReadTxn
  inFlight : List (Fin maxConsecutiveReadTxn)
  uRegData : ℕ
  txn : TTxnStruct
  uCounter : ℕ
  eStatus : ETxnStatus
  deriving DecidableEq

/-- The module with the structures whose reads are in flight, in the order of issue, and those whose
reads failed since the restart. The rest is history. -/
structure Sys where
  obj : TRxXfer
  inFlight : List (Fin maxConsecutiveReadTxn)
  failed : List (Fin maxConsecutiveReadTxn)
  obtained : ℕ
  handed : List Handed
  reads : List Read

/-- What the allocation callback answers to the requests of a call, and the bus to its reads. -/
structure Answers where
  alloc : ℕ → ERxBufferStatus
  bus : ℕ → ETxnStatus

/-- The variables of `rxXfer_Handle`: the packets of the current transaction (`uAggregPktsNum` of
them), their length and the first memory block, and how many requests and reads the call made. -/
structure Locals where
  group : List (Buf × ℕ)
  uTotalAggregLen : ℕ
  uFirstMemBlkAddr : ℕ
  requests : ℕ
  reads : ℕ

/-- The variables at the start, or after a transaction is issued. -/
def Locals.start : Locals := ⟨[], 0, 0, 0, 0⟩

namespace TTxnStruct

/-- The buffers that `rxXfer_ForwardPacket` goes over: a length 0 ends them. -/
def live (t : TTxnStruct) : List Buf := (t.aBuf.takeWhile fun b => b.2 ≠ 0).map Prod.fst

end TTxnStruct

/-- Buffers as they are handed over: the last one gets the mark. -/
def mark (endOfBurst unknown : Bool) : List Buf → List Handed
  | [] => []
  | [b] => [⟨b, endOfBurst, unknown⟩]
  | b :: c :: bs => ⟨b, false, unknown⟩ :: mark endOfBurst unknown (c :: bs)

/-- The oldest pending read ends. -/
def settle (eStatus : ETxnStatus) : List Read → List Read
  | [] => []
  | r :: rs =>
    if r.eStatus = .pending then { r with eStatus := eStatus } :: rs else r :: settle eStatus rs

/-- A pending read is dropped by the restart of `twIf`. -/
def Read.abandon (r : Read) : Read :=
  if r.eStatus = .pending then { r with eStatus := .error } else r

namespace Sys

def forwardPacket (s : Sys) (i : Fin maxConsecutiveReadTxn) (unknown : Bool) : Sys :=
  let pTxn := s.obj.aTxnStruct i
  { s with
    obj := { s.obj with
      aTxnStruct := Function.update s.obj.aTxnStruct i
        { pTxn with aBuf := [], endOfBurst := pTxn.endOfBurst && pTxn.live.isEmpty } }
    handed := s.handed ++ mark pTxn.endOfBurst unknown pTxn.live }

/-- `rxXfer_IssueTxn` of the structure `uCurrTxnIndex`, prepared as `pTxn`, with what
`rxXfer_Handle` does for a read that is pending. -/
def issueTxn (s : Sys) (uFirstMemBlkAddr : ℕ) (pTxn : TTxnStruct) (eTxnStatus : ETxnStatus) : Sys :=
  { s with
    obj := { s.obj with
      aTxnStruct := Function.update s.obj.aTxnStruct s.obj.uCurrTxnIndex pTxn
      uAvailableTxn :=
        if eTxnStatus = .pending then sub32 s.obj.uAvailableTxn 1 else s.obj.uAvailableTxn }
    inFlight := if eTxnStatus = .pending then s.inFlight ++ [s.obj.uCurrTxnIndex] else s.inFlight
    failed := if eTxnStatus = .error then s.failed ++ [s.obj.uCurrTxnIndex] else s.failed
    reads := s.reads ++
      [⟨s.obj.uCurrTxnIndex, s.inFlight, uFirstMemBlkAddr, pTxn, s.obj.uDrvRxCntr, eTxnStatus⟩] }

def nextTxn (s : Sys) : Sys :=
  { s with obj := { s.obj with uCurrTxnIndex := s.obj.uCurrTxnIndex + 1 } }

/-- The part of `rxXfer_Handle` under `bIssueTxn`. -/
def issueGroup (s : Sys) (l : Locals) (bExit : Bool) (eTxnStatus : ETxnStatus) : Sys :=
  let old := s.obj.aTxnStruct s.obj.uCurrTxnIndex
  let pTxn := { old with aBuf := l.group, endOfBurst := bExit || old.endOfBurst }
  let issued := s.issueTxn l.uFirstMemBlkAddr pTxn eTxnStatus
  nextTxn <|
    if eTxnStatus = .complete then issued.forwardPacket s.obj.uCurrTxnIndex false else issued

/-- The part of `rxXfer_Handle` under `bDropLastPkt`. -/
def dropPacket (s : Sys) (desc : ℕ) (eTxnStatus : ETxnStatus) : Sys :=
  let s := { s with obj := { s.obj with uDrvRxCntr := add32 s.obj.uDrvRxCntr 1 } }
  let old := s.obj.aTxnStruct s.obj.uCurrTxnIndex
  let pTxn := { old with aBuf := [(none, buffSize desc)], fTxnDoneCb := .pktDrop }
  let addr := rxDescGetMemBlk desc * 2 ^ 8 + s.obj.uPacketMemoryPoolStart
  nextTxn (s.issueTxn addr pTxn eTxnStatus)

/-- `issueGroup` if there are packets to issue. -/
def issueRest (s : Sys) (l : Locals) (bExit : Bool) (a : Answers) : Sys :=
  if l.group = [] then s else s.issueGroup l bExit (a.bus l.reads)

/-- The reads made so far after `issueRest`. -/
def readsAfter (l : Locals) : ℕ := if l.group = [] then l.reads else l.reads + 1

/-- The packet gets the next buffer. -/
def addPacket (s : Sys) (l : Locals) (desc : ℕ) : Sys × Locals :=
  ({ s with
      obj := { s.obj with uDrvRxCntr := add32 s.obj.uDrvRxCntr 1 }
      obtained := s.obtained + 1 },
    { l with
      group := l.group ++ [(some s.obtained, buffSize desc)]
      uTotalAggregLen := l.uTotalAggregLen + buffSize desc
      uFirstMemBlkAddr :=
        if l.group = [] then rxDescGetMemBlk desc * 2 ^ 8 + s.obj.uPacketMemoryPoolStart
        else l.uFirstMemBlkAddr
      requests := l.requests + 1 })

/-- The current transaction is issued if the packet does not fit into it. -/
def makeRoom (s : Sys) (l : Locals) (a : Answers) (uBuffSize : ℕ) : Sys × Locals :=
  if l.uTotalAggregLen + uBuffSize > s.obj.uMaxAggregLen then
    (s.issueRest l false a, { l with group := [], uTotalAggregLen := 0, reads := readsAfter l })
  else (s, l)

/-- The pass of the loop for a packet that fits. `error` says that the handler exits. -/
def servePacket (s : Sys) (l : Locals) (a : Answers) (desc : ℕ) : Except Sys (Sys × Locals) :=
  match a.alloc l.requests with
  | .complete =>
    let (s, l) := s.addPacket l desc
    .ok <|
      if l.group.length ≥ s.obj.uMaxAggregPkts then
        (s.issueGroup l false (a.bus l.reads),
          { l with group := [], uTotalAggregLen := 0, reads := l.reads + 1 })
      else (s, l)
  | .pending => .error (issueRest { s with obj := { s.obj with bPendingBuffer := true } } l true a)
  | .outOfMem =>
    .ok ((s.issueRest l false a).dropPacket desc (a.bus (readsAfter l)),
      { l with
        group := [], uTotalAggregLen := 0, requests := l.requests + 1, reads := readsAfter l + 1 })

def nextDesc (s : Sys) : ℕ := s.obj.aRxPktsDesc (Fin.ofNat _ s.obj.uDrvRxCntr)

/-- The loop of `rxXfer_Handle` with `n` packets unprocessed. If a packet fits into no transaction,
the loop never ends. -/
def handleLoop (a : Answers) : ℕ → Sys → Locals → Option Sys
  | 0, s, l => some (s.issueRest l true a)
  | n + 1, s, l =>
    let desc := s.nextDesc
    let (s, l) := s.makeRoom l a (buffSize desc)
    if l.uTotalAggregLen + buffSize desc > s.obj.uMaxAggregLen then none
    else match s.servePacket l a desc with
      | .error s => some s
      | .ok (s, l) => handleLoop a n s l

/-- The packets reported and not processed. -/
def unprocessed (s : Sys) : ℕ :=
  (s.obj.uFwRxCntr % numRxPktDesc + numRxPktDesc - s.obj.uDrvRxCntr % numRxPktDesc) % numRxPktDesc

/-- `rxXfer_Handle`. -/
def handle (s : Sys) (a : Answers) : Option Sys :=
  if s.obj.uAvailableTxn = 0 then some s else handleLoop a s.unprocessed s .start

/-- `rxXfer_RxEvent`. -/
def rxEvent (s : Sys) (fwRxCntr : UInt8) (rxPktsDesc : Fin numRxPktDesc → ℕ) (a : Answers) :
    Option Sys :=
  if fwRxCntr.toNat % numRxPktDesc = s.obj.uFwRxCntr % numRxPktDesc then some s
  else handle { s with
    obj := { s.obj with uFwRxCntr := fwRxCntr.toNat, aRxPktsDesc := rxPktsDesc } } a

/-- The callback of a read in flight. -/
def txnDone (s : Sys) (i : Fin maxConsecutiveReadTxn) (a : Answers) : Option Sys :=
  let s := { s with obj := { s.obj with uAvailableTxn := add32 s.obj.uAvailableTxn 1 } }
  match (s.obj.aTxnStruct i).fTxnDoneCb with
  | .txnDone =>
    let s := s.forwardPacket i false
    if s.obj.bPendingBuffer then handle { s with obj := { s.obj with bPendingBuffer := false } } a
    else some s
  | .pktDrop =>
    some { s with
      obj := { s.obj with
        aTxnStruct := Function.update s.obj.aTxnStruct i
          { s.obj.aTxnStruct i with fTxnDoneCb := .txnDone } } }

/-- The scan of `rxXfer_Restart`: what is allocated is handed over only to be freed. -/
def release (s : Sys) (i : Fin maxConsecutiveReadTxn) : Sys :=
  if (s.obj.aTxnStruct i).aBuf ≠ [] ∧ (s.obj.aTxnStruct i).fTxnDoneCb = .txnDone then
    s.forwardPacket i true
  else s

/-- `rxXfer_Restart`. The restart of `twIf` before it dropped the reads in flight. -/
def restart (s : Sys) : Sys :=
  let s := (List.finRange maxConsecutiveReadTxn).foldl release { s with
    obj := { s.obj with
      uFwRxCntr := 0
      uDrvRxCntr := 0
      uCurrTxnIndex := 0
      uAvailableTxn := maxConsecutiveReadTxn - 1 } }
  { s with
    obj := { s.obj with
      aTxnStruct := fun i => { s.obj.aTxnStruct i with fTxnDoneCb := .txnDone } }
    inFlight := []
    failed := []
    reads := s.reads.map Read.abandon }

/-- The module after `rxXfer_Init`, with any limits. -/
def init (uPacketMemoryPoolStart uMaxAggregLen : ℕ) (uMaxAggregPkts : Fin (maxXferBufs + 1)) :
    Sys :=
  restart
    { obj :=
        { aRxPktsDesc := fun _ => 0
          uFwRxCntr := 0
          uDrvRxCntr := 0
          uPacketMemoryPoolStart := uPacketMemoryPoolStart
          uMaxAggregLen := uMaxAggregLen
          uMaxAggregPkts := uMaxAggregPkts
          bPendingBuffer := false
          uCurrTxnIndex := 0
          uAvailableTxn := 0
          aTxnStruct := fun _ => ⟨[], false, .txnDone⟩ }
      inFlight := []
      failed := []
      obtained := 0
      handed := []
      reads := [] }

inductive Op
  | rxEvent (fwRxCntr : UInt8) (rxPktsDesc : Fin numRxPktDesc → ℕ) (a : Answers)
  /-- The oldest read in flight completes. -/
  | txnDone (a : Answers)
  /-- The oldest read in flight fails. -/
  | txnFail
  | restart

def step (s : Sys) : Op → Option Sys
  | .rxEvent fwRxCntr rxPktsDesc a => s.rxEvent fwRxCntr rxPktsDesc a
  | .txnDone a =>
    match s.inFlight with
    | [] => none
    | i :: rest => txnDone { s with inFlight := rest, reads := settle .complete s.reads } i a
  | .txnFail =>
    match s.inFlight with
    | [] => none
    | i :: rest => some { s with
        inFlight := rest
        failed := s.failed ++ [i]
        reads := settle .error s.reads }
  | .restart => some s.restart

end Sys

end ArchosGpl.Wlan.RxXfer
