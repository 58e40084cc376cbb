import Mathlib.Data.Fintype.Basic
import ArchosGpl.Lib.Window

/-!
# Model of the RX queue (`TWD/Data_Service/RxQueue.c`)

The RX queue puts the frames of block-ack sessions back in order. Per TID it keeps an array of
`RX_QUEUE_ARRAY_SIZE` slots, read cyclically from `aWinStartArrayInex`, and the expected sequence
number `aTidExpectedSn`; one packet counter and one timer serve all TIDs.

The receive callback is the log `passed`: one entry per call of `RxQueue_PassPacket`, with the
status it was called with. The timer is the state of `utils/timer.c` for the one timer of the
queue: running, or expired with its event waiting in the timer module's queue. `tmr_StopTimer`
stops a running timer and leaves an event that already waits; an event that waits is not queued
twice.

`TI_UINT16` sequence numbers are masked to 12 bits wherever the code stores them, so they are
naturals with the masks written as `%`. Comparisons of 32-bit differences are written with the
wrap at `2 ^ 32`. `aPacketsStored` is the 16-bit counter of the code.
-/

namespace ArchosGpl.Wlan.RxQueue

open Lib

scoped instance neZero_8 : NeZero 8 := ⟨by decide⟩

/-- `RX_QUEUE_ARRAY_SIZE`, and `RX_QUEUE_WIN_SIZE`, which is the same. -/
abbrev arraySize : ℕ := 8

/-- A TID below `MAX_NUM_OF_802_1d_TAGS`. -/
abbrev Tid := Fin 8

/-- The two values of `TI_STATUS` that the module uses. -/
inductive TiStatus
  | ok
  | nok
  deriving DecidableEq, Repr

/-! ## Receive buffers -/

/-- A receive buffer: its address, the two fields of `RxIfDescriptor_t` that the module reads or
writes, and the frame. -/
structure RxBuf where
  addr : ℕ
  packetClassTag : UInt8
  status : UInt8
  frame : List UInt8
  deriving DecidableEq, Repr

/-- `TAG_CLASS_QOS_DATA`. -/
abbrev tagQosData : UInt8 := 3

/-- `TAG_CLASS_BA_EVENT`. -/
abbrev tagBaEvent : UInt8 := 6

/-- `TAG_CLASS_AMSDU`. -/
abbrev tagAmsdu : UInt8 := 7

namespace RxBuf

def byte (b : RxBuf) (i : ℕ) : ℕ := (b.frame.getD i 0).toNat

/-- `COPY_WLAN_WORD`: the little-endian word at an offset of the frame. -/
def word (b : RxBuf) (i : ℕ) : ℕ := b.byte i + 256 * b.byte (i + 1)

/-- `IS_QOS_FRAME`: a QoS data or a QoS null frame by its type and subtype. -/
def isQosFrame (b : RxBuf) : Bool :=
  b.word 0 &&& 0xFC == 0x88 || b.word 0 &&& 0xFC == 0xC8

/-- `qosControl` of `dot11_header_t`. -/
def qosControl (b : RxBuf) : ℕ := b.word 24

def frameTid (b : RxBuf) : ℕ := b.qosControl &&& 0xF

/-- The sequence number of a data frame, from `seqCtrl` of `dot11_header_t`. -/
def frameSn (b : RxBuf) : ℕ := (b.word 22 &&& 0xFFF0) >>> 4

/-- `ufc & DOT11_FC_SUB_MASK`. -/
def subtype (b : RxBuf) : ℕ := b.word 0 &&& 0xF0

/-- TID of a BAR, from the control field after `dot11_BarFrameHeader_t`. -/
def barTid (b : RxBuf) : ℕ := (b.word 16 &&& 0xF000) >>> 12

def barStart (b : RxBuf) : ℕ := (b.word 18 &&& 0xFFF0) >>> 4

/-- The action field, one byte after `dot11_mgmtHeader_t`. -/
def action (b : RxBuf) : ℕ := b.byte 25

def addbaTid (b : RxBuf) : ℕ := (b.word 27 &&& 0x3C) >>> 2

/-- Window size of an ADDBA request, cut down to `RX_QUEUE_WIN_SIZE`. -/
def addbaWinSize (b : RxBuf) : ℕ :=
  if arraySize < (b.word 27 &&& 0xFFC0) >>> 6 then arraySize else (b.word 27 &&& 0xFFC0) >>> 6

/-- Initial sequence number of an ADDBA request. -/
def addbaStart (b : RxBuf) : ℕ := (b.word 31 &&& 0xFFF0) >>> 4

def delbaTid (b : RxBuf) : ℕ := (b.word 26 &&& 0xF000) >>> 12

/-- A QoS frame with another class tag gets `TAG_CLASS_QOS_DATA` or `TAG_CLASS_AMSDU`, by the
A-MSDU bit of its QoS control. -/
def forceTag (b : RxBuf) : RxBuf :=
  if b.isQosFrame ∧ b.packetClassTag ≠ tagQosData ∧ b.packetClassTag ≠ tagAmsdu then
    if b.qosControl &&& 0x80 ≠ 0 then { b with packetClassTag := tagAmsdu }
    else { b with packetClassTag := tagQosData }
  else b

/-- The buffer as `RxQueue_PassPacket` hands it to the callback: unless the status is `TI_OK`, its
descriptor gets `RX_DESC_STATUS_DRIVER_RX_Q_FAIL`. -/
def handed (b : RxBuf) : TiStatus → RxBuf
  | .ok => b
  | .nok => { b with status := b.status &&& 0xF8 ||| 3 }

end RxBuf

/-! ## State -/

structure PacketEntry where
  pPacket : Option RxBuf
  tStatus : TiStatus
  uFrameSn : ℕ
  deriving DecidableEq, Repr

/-- The entry that `os_memoryZero` leaves. -/
def PacketEntry.zero : PacketEntry := ⟨none, .ok, 0⟩

def PacketEntry.content (e : PacketEntry) : Option (TiStatus × RxBuf) :=
  e.pPacket.map fun p => (e.tStatus, p)

structure TidDataBase where
  aPaketsQueue : Fin arraySize → PacketEntry
  aTidBaEstablished : Bool
  aWinStartArrayInex : Fin arraySize
  aTidWinSize : ℕ
  aTidExpectedSn : ℕ

/-- A TID after `RxQueue_Create`. -/
def TidDataBase.zero : TidDataBase := ⟨fun _ => .zero, false, 0, 0, 0⟩

/-- The entry at the start of the window. -/
def TidDataBase.slot (db : TidDataBase) : PacketEntry := db.aPaketsQueue db.aWinStartArrayInex

/-- `TRxQueue`: the TIDs' arrays, the fields of `TPacketTimeout`, the timer and the callback's
log. -/
structure TRxQueue where
  tSa1ArrayMng : Tid → TidDataBase
  bPacketMiss : Bool
  aPacketsStored : UInt16
  aFrameTid : Tid
  bRunning : Bool
  bExpired : Bool
  passed : List (TiStatus × RxBuf)

/-- `RxQueue_Create`. -/
def TRxQueue.create : TRxQueue := ⟨fun _ => .zero, false, 0, 0, false, false, []⟩

/-- What the loops over one TID's array work on: the array, the packet counter and the callback. -/
structure TidCtx where
  db : TidDataBase
  aPacketsStored : UInt16
  passed : List (TiStatus × RxBuf)

/-! ## The loops -/

namespace TidCtx

def passPacket (c : TidCtx) (tStatus : TiStatus) (b : RxBuf) : TidCtx :=
  { c with passed := c.passed ++ [(tStatus, b.handed tStatus)] }

/-- `aWinStartArrayInex++`, cut to the array by `RX_QUEUE_ARRAY_SIZE_BIT_MASK`. -/
def incIndex (c : TidCtx) : TidCtx :=
  { c with db := { c.db with aWinStartArrayInex := c.db.aWinStartArrayInex + 1 } }

/-- `aTidExpectedSn++`, cut to 12 bits. -/
def incSn (c : TidCtx) : TidCtx :=
  { c with db := { c.db with aTidExpectedSn := (c.db.aTidExpectedSn + 1) % 0x1000 } }

def setSn (c : TidCtx) (sn : ℕ) : TidCtx := { c with db := { c.db with aTidExpectedSn := sn } }

/-- Pass the packet at the start of the window, if there is one, and free its slot. -/
def passSlot (c : TidCtx) : TidCtx :=
  match c.db.slot.pPacket with
  | none => c
  | some p =>
    { c.passPacket c.db.slot.tStatus p with
      db :=
        { c.db with
          aPaketsQueue := Function.update c.db.aPaketsQueue c.db.aWinStartArrayInex
            { c.db.slot with pPacket := none } }
      aPacketsStored := c.aPacketsStored - 1 }

/-- `(uFrameSn + SEQ_NUM_WRAP - aTidExpectedSn) & SEQ_NUM_MASK` places after the start. -/
def saveIndex (db : TidDataBase) (sn : ℕ) : Fin arraySize :=
  db.aWinStartArrayInex + Fin.ofNat arraySize ((sn + 0x1000 - db.aTidExpectedSn) % 0x1000)

def store (c : TidCtx) (i : Fin arraySize) (e : PacketEntry) : TidCtx :=
  { c with
    db := { c.db with aPaketsQueue := Function.update c.db.aPaketsQueue i e }
    aPacketsStored := c.aPacketsStored + 1 }

/-- `BA_SESSION_IS_A_BIGGER_THAN_B` on 32-bit operands. -/
def isABiggerThanB (a b : ℕ) : Bool := (a + 2 ^ 32 - b) % 0x1000 < 0x7FF && a != b

/-- The window end `aTidExpectedSn + aTidWinSize - 1`, in 32 bits and not masked. -/
def winEnd (db : TidDataBase) : ℕ := (db.aTidExpectedSn + db.aTidWinSize + (2 ^ 32 - 1)) % 2 ^ 32

/-- The loop that passes consecutive packets from the start of the window, `n` rounds at most. -/
def drain : ℕ → TidCtx → TidCtx
  | 0, c => c
  | n + 1, c =>
    if c.db.slot.pPacket.isSome then drain n c.passSlot.incIndex.incSn else c

/-- The loop of Part 3 that moves the window towards `uNewWinStartSn`, `n` rounds at most, with
the number of rounds it took. -/
def passBelow (uNewWinStartSn : ℕ) : ℕ → TidCtx → ℕ × TidCtx
  | 0, c => (0, c)
  | n + 1, c =>
    if isABiggerThanB uNewWinStartSn c.db.aTidExpectedSn then
      let r := passBelow uNewWinStartSn n c.passSlot.incIndex.incSn
      (r.1 + 1, r.2)
    else (0, c)

/-- The loop of a BAR from round `i` on, `n` more rounds at most. -/
def passToBar (uWinStartDelta : ℕ) : ℕ → ℕ → TidCtx → TidCtx
  | 0, _, c => c
  | n + 1, i, c =>
    if i < uWinStartDelta ∨ c.db.slot.pPacket.isSome then
      passToBar uWinStartDelta n (i + 1) c.passSlot.incIndex
    else c

/-- The loop of a closed session over all slots. -/
def passAll : ℕ → TidCtx → TidCtx
  | 0, c => c
  | n + 1, c => passAll n c.passSlot.incIndex

/-- The search of the time-out for the first stored packet; `none` if it has not ended after `n`
rounds. -/
def findStored : ℕ → TidCtx → Option TidCtx
  | 0, _ => none
  | n + 1, c => if c.db.slot.pPacket.isSome then some c else findStored n c.incIndex.incSn

/-- The loop of the time-out that passes consecutive packets while any packet is counted. -/
def drainStored : ℕ → TidCtx → TidCtx
  | 0, c => c
  | n + 1, c =>
    if 0 < c.aPacketsStored ∧ c.db.slot.pPacket.isSome then
      drainStored n c.passSlot.incIndex.incSn
    else c

/-- Part 1: the expected frame. -/
def inOrder (c : TidCtx) (b : RxBuf) : TidCtx :=
  (c.passPacket .ok b).incSn.incIndex.drain arraySize

/-- The loops of Part 3: give the expected frame up and move the window to its new start. -/
def moveWindow (c : TidCtx) (uNewWinStartSn : ℕ) : TidCtx :=
  let r := c.incIndex.incSn.passBelow uNewWinStartSn (min arraySize c.db.aTidWinSize)
  if r.1 = c.db.aTidWinSize then r.2.setSn uNewWinStartSn else r.2.drain arraySize

/-- Part 3: a frame beyond the window end. Its slot gets no `uFrameSn`. -/
def beyond (c : TidCtx) (b : RxBuf) : TidCtx :=
  let c := c.moveWindow ((b.frameSn + 0x1000 - c.db.aTidWinSize + 1) % 0x1000)
  if c.db.aTidExpectedSn = b.frameSn then (c.passPacket .ok b).incSn
  else
    let i := saveIndex c.db b.frameSn
    c.store i { c.db.aPaketsQueue i with pPacket := some b, tStatus := .ok }

/-- A BAR ahead of the expected sequence number. `uWinStartDelta` is a `TI_UINT16`. -/
def bar (c : TidCtx) (uStartingSequenceNumber : ℕ) : TidCtx :=
  let uWinStartDelta := (uStartingSequenceNumber + 2 ^ 16 - c.db.aTidExpectedSn) % 2 ^ 16
  (c.passToBar uWinStartDelta arraySize 0).setSn uStartingSequenceNumber

end TidCtx

/-! ## The module's functions -/

namespace TRxQueue

open TidCtx

def passPacket (s : TRxQueue) (tStatus : TiStatus) (b : RxBuf) : TRxQueue :=
  { s with passed := s.passed ++ [(tStatus, b.handed tStatus)] }

/-- The context of a TID's loops. -/
def tid (s : TRxQueue) (t : Tid) : TidCtx := ⟨s.tSa1ArrayMng t, s.aPacketsStored, s.passed⟩

/-- Write the context of a TID back. -/
def withTid (s : TRxQueue) (t : Tid) (c : TidCtx) : TRxQueue :=
  { s with
    tSa1ArrayMng := Function.update s.tSa1ArrayMng t c.db
    aPacketsStored := c.aPacketsStored
    passed := c.passed }

/-- Stop the timer if a packet is missed. -/
def stopTimer (s : TRxQueue) : TRxQueue :=
  if s.bPacketMiss then { s with bRunning := false, bPacketMiss := false } else s

/-- Start the timer for a packet of TID `t`. -/
def startTimer (s : TRxQueue) (t : Tid) : TRxQueue :=
  { s with bRunning := true, bPacketMiss := true, aFrameTid := t }

/-- Start the timer if packets are still stored. -/
def startIfStored (s : TRxQueue) (t : Tid) : TRxQueue :=
  if s.aPacketsStored ≠ 0 then s.startTimer t else s

/-- `RxQueue_ReceivePacket` on a data frame of a TID with a session. -/
def receiveData (s : TRxQueue) (t : Tid) (b : RxBuf) : TRxQueue :=
  let db := s.tSa1ArrayMng t
  if b.frameSn = db.aTidExpectedSn then
    (s.stopTimer.withTid t ((s.tid t).inOrder b)).startIfStored t
  else if !isABiggerThanB b.frameSn db.aTidExpectedSn then
    s.passPacket .ok b
  else if isABiggerThanB b.frameSn db.aTidExpectedSn ∧ !isABiggerThanB b.frameSn (winEnd db) then
    let i := saveIndex db b.frameSn
    if (db.aPaketsQueue i).pPacket = none then
      let s := s.withTid t ((s.tid t).store i ⟨some b, .ok, b.frameSn⟩)
      if s.bPacketMiss = false then s.startTimer t else s
    else s.passPacket .nok b
  else if isABiggerThanB b.frameSn (winEnd db) then
    (s.stopTimer.withTid t ((s.tid t).beyond b)).startIfStored t
  else s.passPacket .ok b

def closeBaSession (s : TRxQueue) (uFrameTid : ℕ) : TRxQueue :=
  if h : uFrameTid < 8 then
    let t : Tid := ⟨uFrameTid, h⟩
    if (s.tSa1ArrayMng t).aTidBaEstablished then
      let c := s.tid t
      let c := { c with db := { c.db with aTidBaEstablished := false } }
      (s.withTid t (c.passAll arraySize)).stopTimer
    else s
  else s

/-- `RxQueue_ReceivePacket` on a BAR. -/
def receiveBar (s : TRxQueue) (b : RxBuf) : TRxQueue :=
  if h : b.barTid < 8 then
    let t : Tid := ⟨b.barTid, h⟩
    if (s.tSa1ArrayMng t).aTidBaEstablished then
      if isABiggerThanB b.barStart (s.tSa1ArrayMng t).aTidExpectedSn then
        ((s.stopTimer.withTid t ((s.tid t).bar b.barStart)).startIfStored t).passPacket .ok b
      else s.passPacket .ok b
    else s.passPacket .nok b
  else s.passPacket .nok b

/-- `RxQueue_ReceivePacket` on an ADDBA request. -/
def receiveAddba (s : TRxQueue) (b : RxBuf) : TRxQueue :=
  if h : b.addbaTid < 8 then
    let t : Tid := ⟨b.addbaTid, h⟩
    if (s.tSa1ArrayMng t).aTidBaEstablished then s.passPacket .nok b
    else
      let db : TidDataBase := ⟨fun _ => .zero, true, 0, b.addbaWinSize, b.addbaStart⟩
      (s.withTid t { s.tid t with db }).passPacket .ok b
  else s.passPacket .nok b

/-- `RxQueue_ReceivePacket` on a DELBA. -/
def receiveDelba (s : TRxQueue) (b : RxBuf) : TRxQueue :=
  if h : b.delbaTid < 8 then
    if (s.tSa1ArrayMng ⟨b.delbaTid, h⟩).aTidBaEstablished then
      (s.closeBaSession b.delbaTid).passPacket .ok b
    else s.passPacket .nok b
  else s.passPacket .nok b

/-- `RxQueue_ReceivePacket` on a BA event: a switch on the subtype and on the action. -/
def receiveBaEvent (s : TRxQueue) (b : RxBuf) : TRxQueue :=
  if b.subtype = 0x80 then s.receiveBar b
  else if b.subtype = 0xD0 then
    if b.action = 0 then s.receiveAddba b
    else if b.action = 2 then s.receiveDelba b
    else s.passPacket .nok b
  else s.passPacket .nok b

def receivePacket (s : TRxQueue) (b : RxBuf) : TRxQueue :=
  let b := b.forceTag
  if b.packetClassTag ≠ tagQosData ∧ b.packetClassTag ≠ tagBaEvent ∧
      b.packetClassTag ≠ tagAmsdu then
    s.passPacket .ok b
  else if b.packetClassTag = tagQosData ∨ b.packetClassTag = tagAmsdu then
    if h : b.frameTid < 8 then
      if (s.tSa1ArrayMng ⟨b.frameTid, h⟩).aTidBaEstablished then s.receiveData ⟨b.frameTid, h⟩ b
      else s.passPacket .ok b
    else s.passPacket .nok b
  else s.receiveBaEvent b

/-- `RxQueue_PacketTimeOut`; `none` if the search for a stored packet does not end. After
`arraySize` rounds the search is back where it began. -/
def packetTimeOut (s : TRxQueue) : Option TRxQueue :=
  let s := { s with bPacketMiss := false }
  let t := s.aFrameTid
  let found :=
    if s.aPacketsStored ≠ 0 then
      (findStored arraySize (s.tid t)).map fun c => s.withTid t (c.drainStored arraySize)
    else some s
  found.map fun s =>
    if s.aPacketsStored ≠ 0 then { s with bRunning := true, bPacketMiss := true } else s

end TRxQueue

/-! ## Runs -/

/-- What happens to the queue: a buffer received from the RX transfer, a session closed by the
driver, the timer's expiry, and the timer module's call of the waiting expiry event. -/
inductive Op
  | receivePacket (b : RxBuf)
  | closeBaSession (uFrameTid : ℕ)
  | timerExpiry
  | packetTimeOut
  deriving DecidableEq, Repr

/-- One operation; `none` if it is not possible or does not return. -/
def step (s : TRxQueue) : Op → Option TRxQueue
  | .receivePacket b => some (s.receivePacket b)
  | .closeBaSession t => some (s.closeBaSession t)
  | .timerExpiry => if s.bRunning then some { s with bRunning := false, bExpired := true } else none
  | .packetTimeOut => if s.bExpired then { s with bExpired := false }.packetTimeOut else none

/-! ## Frames for examples -/

def leWord (n : ℕ) : List UInt8 := [UInt8.ofNat n, UInt8.ofNat (n / 256)]

def qosFrame (addr tid sn : ℕ) : RxBuf :=
  ⟨addr, tagQosData, 0, [0x88, 0] ++ List.replicate 20 0 ++ leWord (sn * 16) ++ leWord tid⟩

def addbaFrame (addr tid winSize start : ℕ) : RxBuf :=
  ⟨addr, tagBaEvent, 0, [0xD0, 0] ++ List.replicate 22 0 ++ [3, 0, 1] ++
    leWord (tid * 4 + winSize * 64) ++ [0, 0] ++ leWord (start * 16)⟩

end ArchosGpl.Wlan.RxQueue
