import ArchosGpl.Lib.Buffer
import ArchosGpl.Lib.Machine
import Mathlib.Algebra.GroupWithZero.Nat
import Mathlib.Algebra.Order.Group.Nat
import Mathlib.Data.List.TakeWhile
import Mathlib.Logic.Basic

/-!
# Model of the SDIO bus driver (`Txn/SdioBusDrv.c`)

`busDrv_Transact` copies a write transaction to the Tx buffer and sends it in parts: the remainder
over whole blocks, then the blocks. A transaction within an aggregation is only copied; it is sent
with the last one of the aggregation. The bus completes a part in the call, fails, or is pending and
calls `busDrv_TxnDoneCb` later. That callback sends what is left.

A call is two steps: the first one sends until a part is pending or all are done, the second one
returns `eCurrTxnStatus`. The callback of a pending part is a step of its own, which may come
between them.
-/

namespace ArchosGpl.Wlan.SdioBusDrv

open Lib

abbrev MAX_XFER_BUFS : ℕ := 4
abbrev TXN_FUNC_ID_CTRL : ℕ := 0

abbrev Byte := BitVec 8

inductive ETxnStatus
  | complete
  | pending
  | error
  deriving DecidableEq, Repr

inductive Direction
  | write
  | read
  deriving DecidableEq, Repr

/-- `TTxnStruct`, with the fields of `uTxnParams`. `aBuf` are the host buffers, with their
lengths. -/
structure TTxnStruct where
  funcId : ℕ
  direction : Direction
  fixedAddr : Bool
  more : Bool
  singleStep : Bool
  aggregate : Bool
  uHwAddr : BitVec 32
  aBuf : List (List Byte)
  deriving DecidableEq, Repr

/-- `TTxnPart`. The host address is an offset in the DMA buffer. -/
structure TTxnPart where
  bBlkMode : Bool
  uLength : ℕ
  uHwAddr : BitVec 32
  pHostAddr : ℕ
  bMore : Bool
  deriving DecidableEq, Repr

/-- How the bus is called: `sdioAdapt_TransactBytes`, or `sdioAdapt_Transact` with `bBlkMode` and
whether the address is incremented. -/
inductive BusMode
  | bytes
  | regular (bBlkMode bIncAddr : Bool)
  deriving DecidableEq, Repr

structure BusCall where
  mode : BusMode
  uFuncId : ℕ
  uHwAddr : BitVec 32
  data : List Byte
  uLength : ℕ
  direction : Direction
  bMore : Bool
  deriving DecidableEq, Repr

/-- How the bus answers a call. What a read delivers is given by offset. -/
inductive OpResult
  | complete (data : ℕ → Byte)
  | pending
  | error

def OpResult.status : OpResult → ETxnStatus
  | .complete _ => .complete
  | .pending => .pending
  | .error => .error

/-- A part that was sent: the calls' results, one or two, and whether the part succeeded. -/
structure Sent where
  call : BusCall
  tries : List ETxnStatus
  ok : Bool
  deriving DecidableEq, Repr

/-- What is seen of a transaction with the aggregated ones before it: its parts, what was read, the
host buffers, the values `busDrv_Transact` returned, and the statuses that `fTxnDoneCb` was called
with. -/
structure Group where
  txns : List TTxnStruct
  sent : List Sent
  onBus : Option (BusCall × List ETxnStatus)
  received : List Byte
  hostBufs : Option (List (List Byte))
  returned : List ETxnStatus
  doneCbs : List Bool

def Group.empty : Group := ⟨[], [], none, [], none, [], []⟩

/-- The last transaction of the group was given. -/
def Group.closed (g : Group) : Bool :=
  match g.txns.getLast? with
  | none => false
  | some pTxn => !pTxn.aggregate

/-- `TBusDrvObj`. `statusOk` is the status in `pCurrTxn`. -/
structure TBusDrvObj where
  pCurrTxn : Option TTxnStruct
  statusOk : Bool
  eCurrTxnStatus : ETxnStatus
  aTxnParts : List TTxnPart
  uCurrTxnPartsCount : ℕ
  uCurrTxnPartsCountSync : ℕ
  uBlkSizeShift : ℕ
  pRxDmaBuf : Buffer Byte
  pTxDmaBuf : Buffer Byte
  uTxnLength : ℕ

def TBusDrvObj.uBlkSize (b : TBusDrvObj) : ℕ := 1 <<< b.uBlkSizeShift

def TBusDrvObj.uBlkSizeMask (b : TBusDrvObj) : ℕ := b.uBlkSize - 1

/-- The driver, whether a call of `busDrv_Transact` has not returned, and what was seen. -/
structure Sys where
  bus : TBusDrvObj
  inCall : Bool
  group : Group
  past : List Group

/-! ## Preparing the parts -/

def copyBufs (bWrite : Bool) : List (List Byte) → TBusDrvObj → TBusDrvObj
  | [], b => b
  | buf :: bufs, b =>
    if buf.length = 0 then b
    else copyBufs bWrite bufs { b with
      pTxDmaBuf := if bWrite then b.pTxDmaBuf.copyTo b.uTxnLength buf else b.pTxDmaBuf
      uTxnLength := b.uTxnLength + buf.length }

def setLastMore (bMore : Bool) : List TTxnPart → List TTxnPart
  | [] => []
  | [p] => [{ p with bMore := bMore }]
  | p :: ps => p :: setLastMore bMore ps

/-- `busDrv_PrepareTxnParts`. For a transaction without data the source writes before the table. -/
def busDrv_PrepareTxnParts (b : TBusDrvObj) (pTxn : TTxnStruct) : Bool × TBusDrvObj :=
  let b := copyBufs (pTxn.direction = .write) (pTxn.aBuf.take MAX_XFER_BUFS) b
  if pTxn.aggregate then (true, b)
  else
    let uRemainderLen := b.uTxnLength &&& b.uBlkSizeMask
    let remainder : List TTxnPart :=
      if 0 < uRemainderLen then [⟨false, uRemainderLen, pTxn.uHwAddr, 0, true⟩] else []
    let uCurrHwAddr :=
      if 0 < uRemainderLen ∧ pTxn.fixedAddr = false then
        pTxn.uHwAddr + BitVec.ofNat 32 uRemainderLen
      else pTxn.uHwAddr
    let blocks : List TTxnPart :=
      if b.uBlkSize ≤ b.uTxnLength then
        [⟨true, b.uTxnLength - uRemainderLen, uCurrHwAddr, uRemainderLen, true⟩]
      else []
    (false, { b with aTxnParts := setLastMore pTxn.more (remainder ++ blocks), uTxnLength := 0 })

/-! ## Sending the parts -/

def busCall (b : TBusDrvObj) (pTxn : TTxnStruct) (p : TTxnPart) : BusCall where
  mode := if pTxn.singleStep then .bytes else .regular p.bBlkMode !pTxn.fixedAddr
  uFuncId := if pTxn.singleStep then TXN_FUNC_ID_CTRL else pTxn.funcId
  uHwAddr := p.uHwAddr
  data := if pTxn.direction = .write then b.pTxDmaBuf.slice p.pHostAddr p.uLength else []
  uLength := p.uLength
  direction := pTxn.direction
  bMore := p.bMore

/-- The calls for one part, from answer `n` of the bus on: a single step that fails is tried once
again. The results, the last answer, and the number of the next one. -/
def tryPart (pTxn : TTxnStruct) (op : ℕ → OpResult) (n : ℕ) : List ETxnStatus × OpResult × ℕ :=
  if pTxn.singleStep = true ∧ (op n).status = .error then
    ([.error, (op (n + 1)).status], op (n + 1), n + 2)
  else ([(op n).status], op n, n + 1)

/-- The loop that copies what was read to the host buffers. -/
def scatter (rx : Buffer Byte) (off : ℕ) : List (List Byte) → List (List Byte)
  | [] => []
  | buf :: bufs =>
    if buf.length = 0 then buf :: bufs
    else rx.slice off buf.length :: scatter rx (off + buf.length) bufs

namespace Sys

def fTxnDoneCb (s : Sys) : Sys :=
  { s with group := { s.group with doneCbs := s.group.doneCbs ++ [s.bus.statusOk] } }

/-- Call the callback if not fully sync. -/
def reportAsync (s : Sys) : Sys :=
  if s.bus.uCurrTxnPartsCountSync ≠ s.bus.uCurrTxnPartsCount then s.fTxnDoneCb else s

/-- The data of a part of a read is in the Rx buffer. -/
def deliver (pTxn : TTxnStruct) (pHostAddr uLength : ℕ) (data : ℕ → Byte) (s : Sys) : Sys :=
  if pTxn.direction = .read then
    { s with
      bus := { s.bus with
        pRxDmaBuf := s.bus.pRxDmaBuf.copyTo pHostAddr ((List.range uLength).map data) }
      group := { s.group with received := s.group.received ++ (List.range uLength).map data } }
  else s

/-- The end of `busDrv_SendTxnParts`, when all parts are done. -/
def finish (pTxn : TTxnStruct) (s : Sys) : Sys :=
  let s := if pTxn.direction = .read then
    { s with group := { s.group with
      hostBufs := some (scatter s.bus.pRxDmaBuf 0 (pTxn.aBuf.take MAX_XFER_BUFS) ++
        pTxn.aBuf.drop MAX_XFER_BUFS) } }
    else s
  s.reportAsync

/-- The loop of `busDrv_SendTxnParts` over the parts that are left. -/
def sendParts (pTxn : TTxnStruct) (op : ℕ → OpResult) : ℕ → List TTxnPart → Sys → Sys
  | _, [], s => s.finish pTxn
  | n, p :: ps, s =>
    let s := { s with bus := { s.bus with
      uCurrTxnPartsCount := s.bus.uCurrTxnPartsCount + 1
      eCurrTxnStatus := .pending } }
    let r := tryPart pTxn op n
    match r.2.1 with
    | .pending =>
      { s with group := { s.group with onBus := some (busCall s.bus pTxn p, r.1) } }
    | .error =>
      let s := { s with
        bus := { s.bus with
          eCurrTxnStatus := .error
          uCurrTxnPartsCountSync := s.bus.uCurrTxnPartsCountSync + 1
          statusOk := false }
        group := { s.group with
          sent := s.group.sent ++ [Sent.mk (busCall s.bus pTxn p) r.1 false] } }
      s.reportAsync
    | .complete data =>
      let s := { s with
        bus := { s.bus with
          eCurrTxnStatus := .complete
          uCurrTxnPartsCountSync := s.bus.uCurrTxnPartsCountSync + 1 }
        group := { s.group with
          sent := s.group.sent ++ [Sent.mk (busCall s.bus pTxn p) r.1 true] } }
      sendParts pTxn op r.2.2 ps (s.deliver pTxn p.pHostAddr p.uLength data)

def busDrv_SendTxnParts (op : ℕ → OpResult) (s : Sys) : Sys :=
  match s.bus.pCurrTxn with
  | none => s
  | some pTxn => sendParts pTxn op 0 (s.bus.aTxnParts.drop s.bus.uCurrTxnPartsCount) s

/-- `busDrv_Transact` up to where it returns. Within an aggregation it returns at once. -/
def busDrv_Transact (pTxn : TTxnStruct) (op : ℕ → OpResult) (s : Sys) : Sys :=
  let s := if s.group.closed then { s with group := .empty, past := s.past ++ [s.group] } else s
  let r := busDrv_PrepareTxnParts { s.bus with
    pCurrTxn := some pTxn
    uCurrTxnPartsCount := 0
    uCurrTxnPartsCountSync := 0
    statusOk := true } pTxn
  let s := { s with bus := r.2, group := { s.group with txns := s.group.txns ++ [pTxn] } }
  if r.1 then { s with group := { s.group with returned := s.group.returned ++ [.complete] } }
  else { s.busDrv_SendTxnParts op with inCall := true }

/-- The value that `busDrv_Transact` returns. -/
def ret (s : Sys) : Sys :=
  { s with
    inCall := false
    group := { s.group with returned := s.group.returned ++ [s.bus.eCurrTxnStatus] } }

/-- `busDrv_TxnDoneCb` for the part on the bus, whether it succeeded and what it has read. -/
def busDrv_TxnDoneCb (ok : Bool) (data : ℕ → Byte) (op : ℕ → OpResult) (pTxn : TTxnStruct)
    (part : BusCall × List ETxnStatus) (p : TTxnPart) (s : Sys) : Sys :=
  let s := { s with group := { s.group with
    onBus := none
    sent := s.group.sent ++ [Sent.mk part.1 part.2 ok] } }
  if ok then (s.deliver pTxn p.pHostAddr p.uLength data).busDrv_SendTxnParts op
  else { s with bus := { s.bus with statusOk := false } }.fTxnDoneCb

end Sys

/-! ## The steps -/

/-- The buffers of a transaction: a length of zero marks the end (`Txn/BusDrv.h`). -/
def TTxnStruct.bufs (pTxn : TTxnStruct) : List (List Byte) :=
  (pTxn.aBuf.take MAX_XFER_BUFS).takeWhile fun buf => buf.length ≠ 0

def TTxnStruct.length (pTxn : TTxnStruct) : ℕ := (pTxn.bufs.map List.length).sum

/-- What callers give: there is data to send that fits the DMA buffer, and only writes are
aggregated (`TWD/FW_Transfer/txXfer.c`). -/
structure Admissible (dmaBufLen : ℕ) (g : Group) (pTxn : TTxnStruct) : Prop where
  write : pTxn.aggregate = true ∨ (g.closed = false ∧ g.txns ≠ []) → pTxn.direction = .write
  fits : (if g.closed then 0 else (g.txns.map TTxnStruct.length).sum) + pTxn.length ≤ dmaBufLen
  data : pTxn.aggregate = false →
    0 < (if g.closed then 0 else (g.txns.map TTxnStruct.length).sum) + pTxn.length

instance (dmaBufLen : ℕ) (g : Group) (pTxn : TTxnStruct) :
    Decidable (Admissible dmaBufLen g pTxn) :=
  decidable_of_iff
    ((pTxn.aggregate = true ∨ (g.closed = false ∧ g.txns ≠ []) → pTxn.direction = .write) ∧
      (if g.closed then 0 else (g.txns.map TTxnStruct.length).sum) + pTxn.length ≤ dmaBufLen ∧
      (pTxn.aggregate = false →
        0 < (if g.closed then 0 else (g.txns.map TTxnStruct.length).sum) + pTxn.length))
    ⟨fun ⟨h₁, h₂, h₃⟩ => ⟨h₁, h₂, h₃⟩, fun ⟨h₁, h₂, h₃⟩ => ⟨h₁, h₂, h₃⟩⟩

inductive Input
  | transact (pTxn : TTxnStruct) (op : ℕ → OpResult)
  | ret
  | txnDone (ok : Bool) (data : ℕ → Byte) (op : ℕ → OpResult)

/-- One transaction is given at a time: the last call has returned and no part is on the bus. -/
def step (dmaBufLen : ℕ) (s : Sys) : Input → Option Sys
  | .transact pTxn op =>
    if s.inCall = false ∧ s.group.onBus = none ∧ Admissible dmaBufLen s.group pTxn then
      some (s.busDrv_Transact pTxn op)
    else none
  | .ret => if s.inCall = true then some s.ret else none
  | .txnDone ok data op =>
    match s.group.onBus, s.bus.pCurrTxn, s.bus.aTxnParts[s.bus.uCurrTxnPartsCount - 1]? with
    | some part, some pTxn, some p => some (s.busDrv_TxnDoneCb ok data op pTxn part p)
    | _, _, _ => none

/-- After `busDrv_ConnectBus`, with any contents of the DMA buffers. -/
def Sys.init (uBlkSizeShift : ℕ) (pRxDmaBuf pTxDmaBuf : Buffer Byte) : Sys where
  bus := ⟨none, true, .complete, [], 0, 0, uBlkSizeShift, pRxDmaBuf, pTxDmaBuf, 0⟩
  inCall := false
  group := .empty
  past := []

/-!
## The parts of a transaction cover its data

**The parts that `busDrv_PrepareTxnParts` prepares cover the buffers of a transaction, and of the
aggregated ones before it, in order** (`prepared_covers`): first the remainder over whole blocks,
then the blocks, each at the address that is as far from the transaction's as the data before it is
long.
-/

def Group.data (g : Group) : List Byte := g.txns.flatMap fun pTxn => pTxn.bufs.flatten

def Group.total (g : Group) : ℕ := (g.txns.map TTxnStruct.length).sum

/-- The device address of what follows `n` bytes of the transaction. -/
def TTxnStruct.addrAfter (pTxn : TTxnStruct) (n : ℕ) : BitVec 32 :=
  if pTxn.fixedAddr then pTxn.uHwAddr else pTxn.uHwAddr + BitVec.ofNat 32 n

theorem addrAfter_zero (pTxn : TTxnStruct) : pTxn.addrAfter 0 = pTxn.uHwAddr := by
  unfold TTxnStruct.addrAfter
  split
  · rfl
  · exact BitVec.add_zero _

/-- The calls of the bus carry the data of a group that the transaction `pTxn` ends. -/
structure Covers (uBlkSize : ℕ) (g : Group) (pTxn : TTxnStruct) (calls : List BusCall) : Prop where
  /-- The remainder first, then whole blocks. -/
  lengths : calls.map (·.uLength) =
    [g.total % uBlkSize, g.total - g.total % uBlkSize].filter fun n => 0 < n
  /-- The data of a write is that of the buffers. -/
  data : pTxn.direction = .write → (calls.map (·.data)).flatten = g.data
  /-- Every call's address is as far from the transaction's as the calls before it are long. -/
  addr : calls.map (·.uHwAddr) = (List.range calls.length).map fun i =>
    pTxn.addrAfter ((calls.map (·.uLength)).take i).sum
  /-- Only whole blocks are sent in block mode. -/
  mode : ∀ c ∈ calls, c.mode =
    if pTxn.singleStep then .bytes else .regular (uBlkSize ∣ c.uLength) !pTxn.fixedAddr
  params : ∀ c ∈ calls, c.direction = pTxn.direction ∧
    c.uFuncId = if pTxn.singleStep then TXN_FUNC_ID_CTRL else pTxn.funcId
  /-- The bus is kept awake between the calls. -/
  more : calls.map (·.bMore) = List.replicate (calls.length - 1) true ++
    if calls = [] then [] else [pTxn.more]

/-! ### Copying the buffers -/

theorem copyBufs_length (w : Bool) (bufs : List (List Byte)) (b : TBusDrvObj) :
    (copyBufs w bufs b).uTxnLength =
      b.uTxnLength + ((bufs.takeWhile fun buf => buf.length ≠ 0).map List.length).sum := by
  induction bufs generalizing b with
  | nil => rfl
  | cons buf bufs ih =>
    unfold copyBufs
    by_cases h : buf.length = 0
    · rw [if_pos h, List.takeWhile_cons_of_neg (by simpa using h)]
      rfl
    · rw [if_neg h, ih, List.takeWhile_cons_of_pos (by simpa using h), List.map_cons,
        List.sum_cons, Nat.add_assoc]

theorem copyBufs_slice (bufs : List (List Byte)) (b : TBusDrvObj) :
    (copyBufs true bufs b).pTxDmaBuf.slice 0 (copyBufs true bufs b).uTxnLength =
      b.pTxDmaBuf.slice 0 b.uTxnLength ++ (bufs.takeWhile fun buf => buf.length ≠ 0).flatten := by
  induction bufs generalizing b with
  | nil => exact (List.append_nil _).symm
  | cons buf bufs ih =>
    unfold copyBufs
    by_cases h : buf.length = 0
    · rw [if_pos h, List.takeWhile_cons_of_neg (by simpa using h)]
      exact (List.append_nil _).symm
    · rw [if_neg h, ih, List.takeWhile_cons_of_pos (by simpa using h), List.flatten_cons,
        ← List.append_assoc]
      congr 1
      have := b.pTxDmaBuf.slice_copyTo_append 0 b.uTxnLength buf
      rwa [Nat.zero_add] at this

theorem copyBufs_frame (w : Bool) (bufs : List (List Byte)) (b : TBusDrvObj) :
    copyBufs w bufs b = { b with
      pTxDmaBuf := (copyBufs w bufs b).pTxDmaBuf
      uTxnLength := (copyBufs w bufs b).uTxnLength } := by
  induction bufs generalizing b with
  | nil => rfl
  | cons buf bufs ih =>
    unfold copyBufs
    by_cases h : buf.length = 0
    · rw [if_pos h]
    · rw [if_neg h]
      exact ih _

theorem uBlkSize_eq (b : TBusDrvObj) : b.uBlkSize = 2 ^ b.uBlkSizeShift := Nat.one_shiftLeft _

theorem and_uBlkSizeMask (b : TBusDrvObj) (n : ℕ) : n &&& b.uBlkSizeMask = n % b.uBlkSize := by
  rw [TBusDrvObj.uBlkSizeMask, uBlkSize_eq, Nat.and_two_pow_sub_one_eq_mod]

/-! ### The table of parts -/

/-- The parts for `n` bytes. -/
def partsOf (uBlkSize : ℕ) (pTxn : TTxnStruct) (n : ℕ) : List TTxnPart :=
  if n % uBlkSize = 0 then
    if n < uBlkSize then [] else [⟨true, n, pTxn.uHwAddr, 0, pTxn.more⟩]
  else if n < uBlkSize then [⟨false, n, pTxn.uHwAddr, 0, pTxn.more⟩]
  else
    [⟨false, n % uBlkSize, pTxn.uHwAddr, 0, true⟩,
      ⟨true, n - n % uBlkSize, pTxn.addrAfter (n % uBlkSize), n % uBlkSize, pTxn.more⟩]

variable {uBlkSize : ℕ}

theorem setLastMore_parts (hpos : 0 < uBlkSize) (pTxn : TTxnStruct) (n : ℕ) : setLastMore pTxn.more
      ((if 0 < n % uBlkSize then [⟨false, n % uBlkSize, pTxn.uHwAddr, 0, true⟩] else []) ++
        (if uBlkSize ≤ n then
          [⟨true, n - n % uBlkSize,
            if 0 < n % uBlkSize ∧ pTxn.fixedAddr = false then
              pTxn.uHwAddr + BitVec.ofNat 32 (n % uBlkSize)
            else pTxn.uHwAddr, n % uBlkSize, true⟩]
        else [])) = partsOf uBlkSize pTxn n := by
  have hmod := Nat.mod_lt n hpos
  unfold partsOf
  by_cases h0 : n % uBlkSize = 0
  · rw [if_pos h0, h0, if_neg (Nat.lt_irrefl 0), List.nil_append]
    by_cases hlt : n < uBlkSize
    · rw [if_pos hlt, if_neg (Nat.not_le.mpr hlt)]
      rfl
    · rw [if_neg hlt, if_pos (Nat.not_lt.mp hlt), if_neg fun h => Nat.lt_irrefl 0 h.1]
      rfl
  · have hrem : 0 < n % uBlkSize := Nat.pos_of_ne_zero h0
    rw [if_neg h0, if_pos hrem]
    by_cases hlt : n < uBlkSize
    · rw [if_pos hlt, if_neg (Nat.not_le.mpr hlt), Nat.mod_eq_of_lt hlt]
      rfl
    · rw [if_neg hlt, if_pos (Nat.not_lt.mp hlt)]
      unfold TTxnStruct.addrAfter
      cases pTxn.fixedAddr with
      | true =>
        rw [if_neg fun h => Bool.noConfusion h.2]
        rfl
      | false =>
        rw [if_pos ⟨hrem, rfl⟩]
        rfl

variable {b : TBusDrvObj} {pTxn : TTxnStruct}

theorem prepared_within (h : pTxn.aggregate = true) : busDrv_PrepareTxnParts b pTxn =
      (true, copyBufs (pTxn.direction = .write) (pTxn.aBuf.take MAX_XFER_BUFS) b) := by
  unfold busDrv_PrepareTxnParts
  rw [if_pos h]

theorem prepared_parts (h : pTxn.aggregate = false) : busDrv_PrepareTxnParts b pTxn = (false,
      { copyBufs (pTxn.direction = .write) (pTxn.aBuf.take MAX_XFER_BUFS) b with
        aTxnParts := partsOf b.uBlkSize pTxn (b.uTxnLength + pTxn.length)
        uTxnLength := 0 }) := by
  have hshift : (copyBufs (pTxn.direction = .write) (pTxn.aBuf.take MAX_XFER_BUFS) b).uBlkSize =
      b.uBlkSize := by
    rw [copyBufs_frame]
    rfl
  have hlen : (copyBufs (pTxn.direction = .write) (pTxn.aBuf.take MAX_XFER_BUFS) b).uTxnLength =
      b.uTxnLength + pTxn.length := copyBufs_length ..
  have hpos : 0 < b.uBlkSize := by
    rw [uBlkSize_eq]
    exact Nat.two_pow_pos _
  unfold busDrv_PrepareTxnParts
  rw [if_neg (by rw [h]; exact Bool.false_ne_true)]
  simp only [and_uBlkSizeMask, hshift, hlen]
  rw [setLastMore_parts hpos]

theorem partsOf_host (uBlkSize : ℕ) (pTxn : TTxnStruct) (n i : ℕ) (p : TTxnPart)
    (h : (partsOf uBlkSize pTxn n)[i]? = some p) :
    p.pHostAddr = (((partsOf uBlkSize pTxn n).map (·.uLength)).take i).sum := by
  unfold partsOf at h ⊢
  split_ifs at h ⊢
  · cases h
  · match i, h with
    | 0, h => rw [← Option.some.inj h]; rfl
  · match i, h with
    | 0, h => rw [← Option.some.inj h]; rfl
  · match i, h with
    | 0, h => rw [← Option.some.inj h]; rfl
    | 1, h => rw [← Option.some.inj h]; rfl

theorem partsOf_pos {n : ℕ} (h : 0 < n) : 0 < (partsOf uBlkSize pTxn n).length := by
  unfold partsOf
  split_ifs with h0 hlt
  · rw [Nat.mod_eq_of_lt hlt] at h0
    omega
  all_goals exact Nat.succ_pos _

theorem partsOf_sum (uBlkSize : ℕ) (pTxn : TTxnStruct) (n : ℕ) :
    ((partsOf uBlkSize pTxn n).map (·.uLength)).sum = n := by
  unfold partsOf
  split_ifs with h0 hlt
  · rw [Nat.mod_eq_of_lt hlt] at h0
    exact h0.symm
  · exact Nat.add_zero n
  · exact Nat.add_zero n
  · have := Nat.mod_le n uBlkSize
    simp only [List.map_cons, List.map_nil, List.sum_cons, List.sum_nil]
    omega

theorem prepared_covers (hpos : 0 < uBlkSize) {g : Group}
    (hdata : pTxn.direction = .write → b.pTxDmaBuf.slice 0 g.total = g.data) :
    Covers uBlkSize g pTxn ((partsOf uBlkSize pTxn g.total).map (busCall b pTxn)) := by
  have hmod := Nat.mod_lt g.total hpos
  have hle := Nat.mod_le g.total uBlkSize
  have hdvd : uBlkSize ∣ g.total - g.total % uBlkSize := Nat.dvd_sub_mod g.total
  unfold partsOf
  split_ifs with h0 hlt hlt
  · have : g.total = 0 := by rwa [Nat.mod_eq_of_lt hlt] at h0
    refine ⟨?_, fun hw => ?_, rfl, ?_, ?_, rfl⟩
    · simp [this]
    · rw [← hdata hw, this]
      rfl
    · rintro c ⟨⟩
    · rintro c ⟨⟩
  · refine ⟨?_, fun hw => ?_, ?_, ?_, ?_, rfl⟩
    · rw [h0, Nat.sub_zero, List.filter_cons_of_neg (by simp),
        List.filter_cons_of_pos (by simp; omega)]
      rfl
    · rw [← hdata hw]
      simp [busCall, hw]
    · exact congrArg (fun a => [a]) (addrAfter_zero pTxn).symm
    · rintro c hc
      rw [List.mem_singleton.mp hc]
      have : uBlkSize ∣ g.total := Nat.dvd_of_mod_eq_zero h0
      simp [busCall, this]
    · rintro c hc
      rw [List.mem_singleton.mp hc]
      exact ⟨rfl, rfl⟩
  · refine ⟨?_, fun hw => ?_, ?_, ?_, ?_, rfl⟩
    · rw [Nat.mod_eq_of_lt hlt, Nat.sub_self, List.filter_cons_of_pos (by simp; grind),
        List.filter_cons_of_neg (by simp)]
      rfl
    · rw [← hdata hw]
      simp [busCall, hw]
    · exact congrArg (fun a => [a]) (addrAfter_zero pTxn).symm
    · rintro c hc
      rw [List.mem_singleton.mp hc]
      have : ¬ uBlkSize ∣ g.total := fun hd => h0 (Nat.mod_eq_zero_of_dvd hd)
      simp [busCall, this]
    · rintro c hc
      rw [List.mem_singleton.mp hc]
      exact ⟨rfl, rfl⟩
  · refine ⟨?_, fun hw => ?_, ?_, ?_, ?_, rfl⟩
    · rw [List.filter_cons_of_pos (by simp; omega), List.filter_cons_of_pos (by simp; omega)]
      rfl
    · have hslice := b.pTxDmaBuf.slice_add 0 (g.total % uBlkSize) (g.total - g.total % uBlkSize)
      rw [Nat.add_sub_cancel' hle, Nat.zero_add] at hslice
      rw [← hdata hw, hslice]
      simp [busCall, hw]
    · refine congrArg₂ (fun a c => [a, c]) (addrAfter_zero pTxn).symm ?_
      exact congrArg pTxn.addrAfter (Nat.add_zero _).symm
    · rintro c hc
      have hrem : ¬ uBlkSize ∣ g.total % uBlkSize := fun hd => by
        have := Nat.le_of_dvd (Nat.pos_of_ne_zero h0) hd
        omega
      rcases List.mem_pair.mp hc with rfl | rfl
      · simp [busCall, hrem]
      · simp [busCall, hdvd]
    · rintro c hc
      rcases List.mem_pair.mp hc with rfl | rfl <;> exact ⟨rfl, rfl⟩

end ArchosGpl.Wlan.SdioBusDrv
