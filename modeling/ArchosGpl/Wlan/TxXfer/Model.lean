import ArchosGpl.Lib.Looped
import ArchosGpl.Lib.Machine
import ArchosGpl.Lib.Word
import Mathlib.Data.Fintype.Basic
import Mathlib.Data.List.TakeDrop

/-!
# Model of the TX transfer (`TWD/FW_Transfer/txXfer.c`)

The upper layers hand packets over one by one, and say when a burst ends. The module links packets
into an aggregation, gives the packets of an aggregation to the bus one after the other, and writes
the packets counter to the firmware after them.

A packet is named by its control block. The bus combines the packets given to it up to one without
the aggregation mark into a transaction (`Txn/SdioBusDrv.c`); the status it returns for that packet
is the transaction's. A transaction that is pending completes or fails later, in the order of issue;
then `twIf` calls the callback in its last packet, or none. What the bus answers is an input of the
step.
-/

open Function (update update_of_ne update_self)

namespace ArchosGpl.Wlan.TxXfer

open Lib

abbrev ctrlBlkEntriesNum : ℕ := 160

abbrev twdTxAggregPktsLimitMax : ℕ := 32

inductive ETxnStatus
  | complete
  | pending
  | error
  deriving DecidableEq, Repr

abbrev Pkt := ℕ

/-- `TTxCtrlBlk` with its `TTxnStruct`: the link, the length of the descriptor in words, the
aggregation mark, and whether `fTxnDoneCb` is `txXfer_TransferDoneCb` (else `NULL`). -/
structure TTxCtrlBlk where
  pNextAggregEntry : Pkt
  length : UInt16
  aggregate : Bool
  fTxnDoneCb : Bool
  deriving DecidableEq

/-- `uPktLen`, in bytes. -/
def TTxCtrlBlk.pktLen (b : TTxCtrlBlk) : ℕ := b.length.toNat * 2 ^ 2

/-- `TTxXferObj`. `fSendPacketTransferCb` says whether the upper layers registered their callback.
The registry keeps `uAggregMaxPkts` within its limit, so that the lengths of an aggregation add
up within 32 bits. -/
structure TTxXferObj where
  uAggregMaxPkts : Fin (twdTxAggregPktsLimitMax + 1)
  uAggregMaxLen : ℕ
  uAggregPktsNum : ℕ
  uAggregPktsLen : ℕ
  pAggregFirstPkt : Pkt
  pAggregLastPkt : Pkt
  fSendPacketTransferCb : Bool
  uPktsCntr : ℕ
  uPktsCntrTxnIndex : Fin ctrlBlkEntriesNum
  aPktsCntrTxn : Fin ctrlBlkEntriesNum → ℕ

/-- What can be seen of the module: a transaction with its packets and their lengths, and how the
bus returned; a write of the packets counter with its structure; a call of the upper layers'
callback; a return of `txXfer_SendPacket`; and a pending transaction that failed. -/
inductive Event
  | transaction (pkts : List (Pkt × ℕ)) (eStatus : ETxnStatus)
  | counter (uIndex : Fin ctrlBlkEntriesNum) (uPktsCntr : ℕ)
  | transferDone (pkt : Pkt)
  | returned (pkt : Pkt) (eStatus : ETxnStatus)
  | failed (pkts : List (Pkt × ℕ))
  deriving DecidableEq

/-- The module with the control blocks, what the bus has collected for the next transaction, the
transactions pending, and what happened so far. -/
structure Sys where
  obj : TTxXferObj
  blk : Pkt → TTxCtrlBlk
  collected : List (Pkt × ℕ)
  inFlight : List (List (Pkt × ℕ))
  log : List Event

namespace Sys

/-- The links. -/
def next (s : Sys) (p : Pkt) : Pkt := (s.blk p).pNextAggregEntry

/-- `twIf_Transact` of a packet. -/
def transact (s : Sys) (p : Pkt) (eStatus : ETxnStatus) : Sys :=
  let pkts := s.collected ++ [(p, (s.blk p).pktLen)]
  if (s.blk p).aggregate then { s with collected := pkts }
  else { s with
    collected := []
    inFlight := if eStatus = .pending then s.inFlight ++ [pkts] else s.inFlight
    log := s.log ++ [.transaction pkts eStatus] }

/-- A packet is prepared and given to the bus. -/
def sendPkt (s : Sys) (p : Pkt) (last : Bool) (eStatus : ETxnStatus) : Sys :=
  transact { s with
    blk := update s.blk p { s.blk p with
      aggregate := !last
      fTxnDoneCb := last && s.obj.fSendPacketTransferCb } } p eStatus

/-- The first loop of `txXfer_SendAggregatedPkts`, with so many packets to go, from the `i`-th on,
and the last status. -/
def sendLoop (bus : ℕ → ETxnStatus) : ℕ → ℕ → Sys → Pkt → ETxnStatus → Sys × ETxnStatus
  | 0, _, s, _, eStatus => (s, eStatus)
  | 1, i, s, p, _ => (s.sendPkt p true (bus i), bus i)
  | k + 2, i, s, p, _ =>
    let s' := s.sendPkt p false (bus i)
    sendLoop bus (k + 1) (i + 1) s' (s.next p) (bus i)

def writeCounter (s : Sys) : Sys :=
  let uPktsCntr := add32 s.obj.uPktsCntr s.obj.uAggregPktsNum
  let uIndex := s.obj.uPktsCntrTxnIndex + 1
  { s with
    obj := { s.obj with
      uPktsCntr := uPktsCntr
      uPktsCntrTxnIndex := uIndex
      aPktsCntrTxn := update s.obj.aPktsCntrTxn uIndex uPktsCntr }
    log := s.log ++ [.counter uIndex uPktsCntr] }

/-- The upper layers' callback for each of these packets. -/
def callBack (s : Sys) (pkts : List Pkt) : Sys :=
  { s with log := s.log ++ pkts.map Event.transferDone }

def sendAggregatedPkts (s : Sys) (bus : ℕ → ETxnStatus) (bLastPktSentNow : Bool) :
    Sys × ETxnStatus :=
  let (s, eStatus) := sendLoop bus s.obj.uAggregPktsNum 0 s s.obj.pAggregFirstPkt .complete
  if eStatus = .error then (s, eStatus)
  else
    let s := s.writeCounter
    if s.obj.fSendPacketTransferCb ∧ eStatus = .complete then
      let uNumCbCalls :=
        if bLastPktSentNow then s.obj.uAggregPktsNum - 1 else s.obj.uAggregPktsNum
      (s.callBack (List.iterate s.next s.obj.pAggregFirstPkt uNumCbCalls), eStatus)
    else (s, eStatus)

def setNext (blk : Pkt → TTxCtrlBlk) (p q : Pkt) : Pkt → TTxCtrlBlk :=
  update blk p { blk p with pNextAggregEntry := q }

def start (s : Sys) (p : Pkt) : Sys :=
  { s with
    obj := { s.obj with
      uAggregPktsNum := 1
      uAggregPktsLen := (s.blk p).pktLen
      pAggregFirstPkt := p
      pAggregLastPkt := p }
    blk := setNext s.blk p p }

def add (s : Sys) (p : Pkt) : Sys :=
  { s with
    obj := { s.obj with
      uAggregPktsNum := s.obj.uAggregPktsNum + 1
      uAggregPktsLen := s.obj.uAggregPktsLen + (s.blk p).pktLen
      pAggregLastPkt := p }
    blk := setNext (setNext s.blk s.obj.pAggregLastPkt p) p s.obj.pAggregFirstPkt }

/-- The aggregation is over. -/
def clear (s : Sys) : Sys := { s with obj := { s.obj with uAggregPktsNum := 0 } }

/-- `txXfer_SendPacket` of a prepared control block. -/
def sendPacket (s : Sys) (p : Pkt) (bus : ℕ → ETxnStatus) : Sys × ETxnStatus :=
  if s.obj.uAggregPktsNum = 0 then
    let s := s.start p
    if s.obj.uAggregMaxPkts.val ≤ 1 then
      let (s, eStatus) := s.sendAggregatedPkts bus true
      (s.clear, eStatus)
    else (s, .pending)
  else if s.obj.uAggregPktsNum + 1 ≤ s.obj.uAggregMaxPkts ∧
      s.obj.uAggregPktsLen + (s.blk p).pktLen ≤ s.obj.uAggregMaxLen then
    (s.add p, .pending)
  else (((s.sendAggregatedPkts bus false).1).start p, .pending)

def endOfBurst (s : Sys) (bus : ℕ → ETxnStatus) : Sys :=
  if s.obj.uAggregPktsNum > 0 then (s.sendAggregatedPkts bus false).1.clear else s

def transferDoneCb (s : Sys) (pInputPkt : Pkt) : Sys :=
  s.callBack (walkUntil s.next pInputPkt s.obj.uAggregMaxPkts (s.next pInputPkt))

/-- The module after `txXfer_Init`, with the limits and the callback. -/
def init (uAggregMaxPkts : Fin (twdTxAggregPktsLimitMax + 1)) (uAggregMaxLen : ℕ)
    (fSendPacketTransferCb : Bool) : Sys where
  obj :=
    { uAggregMaxPkts := uAggregMaxPkts
      uAggregMaxLen := uAggregMaxLen
      uAggregPktsNum := 0
      uAggregPktsLen := 0
      pAggregFirstPkt := 0
      pAggregLastPkt := 0
      fSendPacketTransferCb := fSendPacketTransferCb
      uPktsCntr := 0
      uPktsCntrTxnIndex := 0
      aPktsCntrTxn := fun _ => 0 }
  blk := fun p => ⟨p, 0, false, false⟩
  collected := []
  inFlight := []
  log := []

inductive Op
  /-- The upper layers fill in a control block and hand it over. -/
  | sendPacket (p : Pkt) (length : UInt16) (bus : ℕ → ETxnStatus)
  | endOfBurst (bus : ℕ → ETxnStatus)
  /-- The oldest pending transaction completes. -/
  | txnDone
  /-- The oldest pending transaction fails. -/
  | txnFail

def fillIn (s : Sys) (p : Pkt) (length : UInt16) : Sys :=
  { s with blk := update s.blk p { s.blk p with length := length } }

def step (s : Sys) : Op → Option Sys
  | .sendPacket p length bus =>
    let (s, eStatus) := (s.fillIn p length).sendPacket p bus
    some { s with log := s.log ++ [.returned p eStatus] }
  | .endOfBurst bus => some (s.endOfBurst bus)
  | .txnDone =>
    match s.inFlight with
    | [] => none
    | pkts :: rest =>
      let s := { s with inFlight := rest }
      match pkts.getLast? with
      | none => some s
      | some (p, _) => some (if (s.blk p).fTxnDoneCb then s.transferDoneCb p else s)
  | .txnFail =>
    match s.inFlight with
    | [] => none
    | pkts :: rest => some { s with inFlight := rest, log := s.log ++ [.failed pkts] }

end Sys

/-!
## An aggregation is sent

What `txXfer_SendAggregatedPkts` does with the packets of an aggregation (`flush_spec`): **the bus
gets them as one transaction, in their order**; unless that fails, the counter is written with so
many packets more; and where it is complete at once, the upper layers' callback is called for them.

`Current` says which packets the module has linked into its aggregation.
-/

/-- A packet with its length. -/
abbrev Item := Pkt × ℕ

/-- The packets of a list. -/
abbrev pkts (g : List Item) : List Pkt := g.map Prod.fst

theorem pkts_append (g h : List Item) : pkts (g ++ h) = pkts g ++ pkts h := List.map_append

abbrev lengthOf (g : List Item) : ℕ := (g.map Prod.snd).sum

namespace Sys

/-- The aggregation is this one. -/
structure Current (s : Sys) (x : Item) (l : List Item) : Prop where
  num : s.obj.uAggregPktsNum = l.length + 1
  len : s.obj.uAggregPktsLen = lengthOf (x :: l)
  first : s.obj.pAggregFirstPkt = x.1
  last : s.obj.pAggregLastPkt = lastOf x.1 (pkts l)
  ring : Looped s.next x.1 (pkts l)
  lengths : ∀ y ∈ x :: l, (s.blk y.1).pktLen = y.2

/-- The packets of an aggregation have been given to the bus. -/
structure Sent (s t : Sys) (g : List Item) (last : Pkt) (eStatus : ETxnStatus) : Prop where
  obj : t.obj = s.obj
  next : t.next = s.next
  others : ∀ p ∉ pkts g, t.blk p = s.blk p
  lengths : ∀ p, (t.blk p).length = (s.blk p).length
  callback : (t.blk last).fTxnDoneCb = s.obj.fSendPacketTransferCb
  collected : t.collected = []
  inFlight : t.inFlight =
    if eStatus = .pending then s.inFlight ++ [s.collected ++ g] else s.inFlight
  log : t.log = s.log ++ [.transaction (s.collected ++ g) eStatus]

variable (s : Sys) (p : Pkt) (last : Bool) (eStatus : ETxnStatus)

/-- The control block of a packet as it is sent. -/
def sentBlk : TTxCtrlBlk :=
  { s.blk p with aggregate := !last, fTxnDoneCb := last && s.obj.fSendPacketTransferCb }

theorem sendPkt_marked : s.sendPkt p false eStatus = { s with
    blk := update s.blk p (s.sentBlk p false)
    collected := s.collected ++ [(p, (s.blk p).pktLen)] } := by
  rw [sendPkt, transact]
  simp only [update_self]
  rfl

theorem sendPkt_last : s.sendPkt p true eStatus = { s with
    blk := update s.blk p (s.sentBlk p true)
    collected := []
    inFlight := if eStatus = .pending then s.inFlight ++ [s.collected ++ [(p, (s.blk p).pktLen)]]
      else s.inFlight
    log := s.log ++ [.transaction (s.collected ++ [(p, (s.blk p).pktLen)]) eStatus] } := by
  rw [sendPkt, transact]
  simp only [update_self]
  rfl

theorem sentBlk_fields (q : Pkt) :
    (update s.blk p (s.sentBlk p last) q).pNextAggregEntry = s.next q ∧
      (update s.blk p (s.sentBlk p last) q).length = (s.blk q).length := by
  by_cases hq : q = p
  · rw [hq, update_self]
    exact ⟨rfl, rfl⟩
  · rw [update_of_ne hq]
    exact ⟨rfl, rfl⟩

variable {x : Item} {l : List Item} {s : Sys}

/-- **The loop gives the packets to the bus**, in the order of the links. -/
theorem sendLoop_spec {q : Pkt} (bus : ℕ → ETxnStatus) (i : ℕ)
    (hlinks : (x.1 :: pkts l).map s.next = pkts l ++ [q])
    (hlengths : ∀ y ∈ x :: l, (s.blk y.1).pktLen = y.2) (st : ETxnStatus) :
    ∃ t, sendLoop bus (l.length + 1) i s x.1 st = (t, bus (i + l.length)) ∧
      Sent s t (x :: l) (lastOf x.1 (pkts l)) (bus (i + l.length)) := by
  induction l generalizing s x i st with
  | nil =>
    have hx : (x.1, (s.blk x.1).pktLen) = x := by
      rw [hlengths x List.mem_cons_self]
    refine ⟨_, rfl, ?_⟩
    rw [List.length_nil, Nat.add_zero, sendPkt_last, hx]
    constructor
    case obj => rfl
    case next => funext q; exact (s.sentBlk_fields x.1 true q).1
    case others => exact fun p hp => update_of_ne (by simpa using hp) _ _
    case lengths => exact fun p => (s.sentBlk_fields x.1 true p).2
    case callback => exact congrArg TTxCtrlBlk.fTxnDoneCb (update_self x.1 _ s.blk)
    case collected => rfl
    case inFlight => rfl
    case log => rfl
  | cons y l ih =>
    obtain ⟨hnext, hrest⟩ := List.cons.inj hlinks
    have hx : (x.1, (s.blk x.1).pktLen) = x := by
      rw [hlengths x List.mem_cons_self]
    have hmarked := s.sendPkt_marked x.1 (bus i)
    rw [hx] at hmarked
    have hnexts : (s.sendPkt x.1 false (bus i)).next = s.next := by
      funext q
      rw [hmarked]
      exact (s.sentBlk_fields x.1 false q).1
    have hlens : ∀ q, ((s.sendPkt x.1 false (bus i)).blk q).length = (s.blk q).length := by
      intro q
      rw [hmarked]
      exact (s.sentBlk_fields x.1 false q).2
    obtain ⟨t, ht, hsent⟩ := ih (s := s.sendPkt x.1 false (bus i)) (x := y) (i + 1)
      (by rw [hnexts]; exact hrest)
      (fun z hz => by
        rw [TTxCtrlBlk.pktLen, hlens]
        exact hlengths z (List.mem_cons_of_mem x hz)) (bus i)
    have hidx : i + 1 + l.length = i + (y :: l).length := by
      rw [List.length_cons]
      omega
    rw [hidx] at ht hsent
    refine ⟨t, ?_, ?_⟩
    · rw [List.length_cons, sendLoop, hnext]
      exact ht
    · have hcollected : (s.sendPkt x.1 false (bus i)).collected ++ (y :: l) =
          s.collected ++ (x :: y :: l) := by
        rw [hmarked, List.append_assoc]
        rfl
      constructor
      case obj => rw [hsent.obj, hmarked]
      case next => rw [hsent.next, hnexts]
      case others =>
        intro p hp
        obtain ⟨hpx, hp⟩ := not_or.mp (mt List.mem_cons.mpr hp)
        rw [hsent.others p hp, hmarked]
        exact update_of_ne hpx _ _
      case lengths => exact fun p => (hsent.lengths p).trans (hlens p)
      case callback =>
        rw [pkts, List.map_cons, lastOf_cons, hsent.callback, hmarked]
      case collected => exact hsent.collected
      case inFlight => rw [hsent.inFlight, hcollected, hmarked]
      case log => rw [hsent.log, hcollected, hmarked]

/-! ### The whole function -/

def calledNow (g : List Item) (now : Bool) : List Pkt := if now then (pkts g).dropLast else pkts g

/-- What is seen of an aggregation that is sent. -/
def flushLog (s : Sys) (g : List Item) (eStatus : ETxnStatus) (now : Bool) : List Event :=
  .transaction g eStatus ::
    if eStatus = .error then []
    else .counter (s.obj.uPktsCntrTxnIndex + 1) (add32 s.obj.uPktsCntr g.length) ::
      if s.obj.fSendPacketTransferCb ∧ eStatus = .complete then
        (calledNow g now).map .transferDone
      else []

/-- An aggregation has been sent. -/
structure Flushed (s t : Sys) (g : List Item) (last : Pkt) (eStatus : ETxnStatus) (now : Bool) :
    Prop where
  maxPkts : t.obj.uAggregMaxPkts = s.obj.uAggregMaxPkts
  maxLen : t.obj.uAggregMaxLen = s.obj.uAggregMaxLen
  registered : t.obj.fSendPacketTransferCb = s.obj.fSendPacketTransferCb
  next : t.next = s.next
  others : ∀ p ∉ pkts g, t.blk p = s.blk p
  lengths : ∀ p, (t.blk p).length = (s.blk p).length
  callback : (t.blk last).fTxnDoneCb = s.obj.fSendPacketTransferCb
  collected : t.collected = []
  inFlight : t.inFlight = if eStatus = .pending then s.inFlight ++ [g] else s.inFlight
  cntr : t.obj.uPktsCntr =
    if eStatus = .error then s.obj.uPktsCntr else add32 s.obj.uPktsCntr g.length
  index : t.obj.uPktsCntrTxnIndex =
    if eStatus = .error then s.obj.uPktsCntrTxnIndex else s.obj.uPktsCntrTxnIndex + 1
  slots : t.obj.aPktsCntrTxn = if eStatus = .error then s.obj.aPktsCntrTxn
    else update s.obj.aPktsCntrTxn (s.obj.uPktsCntrTxnIndex + 1)
      (add32 s.obj.uPktsCntr g.length)
  log : t.log = s.log ++ flushLog s g eStatus now

theorem Current.called (h : Current s x l) (now : Bool) :
    List.iterate s.next x.1 (if now then l.length + 1 - 1 else l.length + 1) =
      calledNow (x :: l) now := by
  have hwalk := h.ring.iterate_eq
  rw [List.length_map] at hwalk
  cases now with
  | false => exact hwalk
  | true =>
    have hlen : (x.1 :: pkts l).length - 1 = l.length := by
      rw [List.length_cons, List.length_map, Nat.add_sub_cancel]
    change List.iterate s.next x.1 (l.length + 1 - 1) = (x.1 :: pkts l).dropLast
    rw [List.dropLast_eq_take, hlen, ← hwalk, List.take_iterate, Nat.add_sub_cancel,
      Nat.min_eq_left (Nat.le_succ _)]

/-- **An aggregation is sent** as one transaction, with the write of the counter after it. -/
theorem flush_spec (h : Current s x l)
    (hcollected : s.collected = []) (bus : ℕ → ETxnStatus) (now : Bool) :
    Flushed s (s.sendAggregatedPkts bus now).1 (x :: l) (lastOf x.1 (pkts l)) (bus l.length) now ∧
      (s.sendAggregatedPkts bus now).2 = bus l.length := by
  obtain ⟨t, ht, hsent⟩ := sendLoop_spec bus 0 h.ring.links h.lengths .complete
  rw [Nat.zero_add] at ht hsent
  have hin := hsent.inFlight
  have hlog := hsent.log
  rw [hcollected, List.nil_append] at hin hlog
  have hwalk := h.called now
  rw [← hsent.next] at hwalk
  rw [sendAggregatedPkts, h.num, h.first, ht]
  dsimp only
  by_cases herr : bus l.length = .error
  · rw [if_pos herr]
    refine ⟨?_, rfl⟩
    constructor
    case maxPkts => rw [hsent.obj]
    case maxLen => rw [hsent.obj]
    case registered => rw [hsent.obj]
    case next => exact hsent.next
    case others => exact hsent.others
    case lengths => exact hsent.lengths
    case callback => exact hsent.callback
    case collected => exact hsent.collected
    case inFlight => exact hin
    case cntr => rw [hsent.obj, if_pos herr]
    case index => rw [hsent.obj, if_pos herr]
    case slots => rw [hsent.obj, if_pos herr]
    case log => rw [hlog, flushLog, if_pos herr]
  · rw [if_neg herr]
    -- the counter is written; the callbacks only add to what is seen
    have hwritten : ∀ u : Sys, u.obj = t.writeCounter.obj → u.blk = t.blk → u.collected = [] →
        u.inFlight = t.inFlight → u.log = s.log ++ flushLog s (x :: l) (bus l.length) now →
        Flushed s u (x :: l) (lastOf x.1 (pkts l)) (bus l.length) now := by
      intro u hobj hblk hc hinu hlogu
      have hnum : t.obj.uAggregPktsNum = (x :: l).length := by rw [hsent.obj, h.num]; rfl
      have hcntr : u.obj.uPktsCntr = add32 s.obj.uPktsCntr (x :: l).length := by
        rw [hobj, writeCounter, hnum, hsent.obj]
      constructor
      case maxPkts => rw [hobj, writeCounter, hsent.obj]
      case maxLen => rw [hobj, writeCounter, hsent.obj]
      case registered => rw [hobj, writeCounter, hsent.obj]
      case next => rw [← hsent.next]; funext q; rw [Sys.next, hblk, Sys.next]
      case others => exact fun p hp => by rw [hblk, hsent.others p hp]
      case lengths => exact fun p => by rw [hblk, hsent.lengths p]
      case callback => rw [hblk, hsent.callback]
      case collected => exact hc
      case inFlight => rw [hinu, hin]
      case cntr => rw [if_neg herr, hcntr]
      case index => rw [if_neg herr, hobj, writeCounter, hsent.obj]
      case slots => rw [if_neg herr, hobj, writeCounter, hnum, hsent.obj]
      case log => exact hlogu
    have hnum : t.obj.uAggregPktsNum = l.length + 1 := by rw [hsent.obj, h.num]
    have hreg : t.writeCounter.obj.fSendPacketTransferCb = s.obj.fSendPacketTransferCb := by
      rw [writeCounter, hsent.obj]
    have hlogw : t.writeCounter.log = s.log ++ [.transaction (x :: l) (bus l.length),
        .counter (s.obj.uPktsCntrTxnIndex + 1) (add32 s.obj.uPktsCntr (x :: l).length)] := by
      rw [writeCounter, hlog, hnum, hsent.obj, List.append_assoc]
      rfl
    by_cases hcall : s.obj.fSendPacketTransferCb ∧ bus l.length = .complete
    · rw [if_pos (by rw [hreg]; exact hcall)]
      refine ⟨hwritten _ rfl rfl hsent.collected rfl ?_, rfl⟩
      have hfirst : t.writeCounter.obj.pAggregFirstPkt = x.1 := by
        rw [writeCounter, hsent.obj, h.first]
      have hnumw : t.writeCounter.obj.uAggregPktsNum = l.length + 1 := by
        rw [writeCounter, hnum]
      have hnextw : t.writeCounter.next = t.next := rfl
      rw [callBack, hfirst, hnumw, hnextw, hwalk, hlogw, flushLog, if_neg herr, if_pos hcall,
        List.append_assoc]
      rfl
    · rw [if_neg (by rw [hreg]; exact hcall)]
      refine ⟨hwritten _ rfl rfl hsent.collected rfl ?_, rfl⟩
      rw [hlogw, flushLog, if_neg herr, if_neg hcall]

end Sys

end ArchosGpl.Wlan.TxXfer
