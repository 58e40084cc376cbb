import ArchosGpl.Lib.Batch
import ArchosGpl.Wlan.TxXfer.Books

/-!
# Aggregation of TX packets

* **Aggregation** (`packets_aggregated`): after every run the transactions given to the bus are the
  batches of the packets handed over (`Batches`), in their order, each within the limits or a single
  packet; each write of the packets counter has the number of packets sent by then; and each packet
  handed over is in one place, once.
* **The return code** (`complete_not_called`): a packet that its `txXfer_SendPacket` sends at once,
  and that is complete then, is not called back.

A run is one in which a control block is handed over only when the module and the bus have done with
it, and in which, where the upper layers registered their callback, no transaction completes
asynchronously under the limit 0 (`Usable`).
-/

namespace ArchosGpl.Wlan.TxXfer

open Lib

/-- A packet may join an aggregation. -/
def fits (uAggregMaxPkts : Fin (twdTxAggregPktsLimitMax + 1)) (uAggregMaxLen : ℕ) (g : List Item)
    (x : Item) : Bool :=
  decide (g.length + 1 ≤ uAggregMaxPkts ∧ lengthOf g + x.2 ≤ uAggregMaxLen)

/-- What an operation does to the aggregation. -/
def Sys.Op.cmd : Sys.Op → Option (BatchCmd Item)
  | .sendPacket p length _ => some (.push (p, length.toNat * 2 ^ 2))
  | .endOfBurst _ => some .flush
  | _ => none

def aggregations (uAggregMaxPkts : Fin (twdTxAggregPktsLimitMax + 1)) (uAggregMaxLen : ℕ)
    (ops : List Sys.Op) : Batches Item :=
  Batches.run (fits uAggregMaxPkts uAggregMaxLen) (decide (uAggregMaxPkts.val ≤ 1))
    (ops.filterMap Sys.Op.cmd)

def submitted (ops : List Sys.Op) : List Item := pushed (ops.filterMap Sys.Op.cmd)

namespace Sys

/-- The packets that the module has linked into its aggregation. -/
def aggregated (s : Sys) : List Item :=
  (List.iterate s.next s.obj.pAggregFirstPkt s.obj.uAggregPktsNum).map fun p =>
    (p, (s.blk p).pktLen)

theorem Core.aggregated {s : Sys} {cur : List Item} (h : Core s cur) : s.aggregated = cur := by
  cases cur with
  | nil =>
    rw [Sys.aggregated, h.empty rfl]
    rfl
  | cons x l =>
    have hcur := h.current x l rfl
    have hwalk := hcur.ring.iterate_eq
    rw [List.length_map] at hwalk
    rw [Sys.aggregated, hcur.num, hcur.first, hwalk]
    change (pkts (x :: l)).map _ = _
    rw [List.map_map]
    refine (List.map_congr_left fun y hy => ?_).trans (List.map_id _)
    exact Prod.ext rfl (hcur.lengths y hy)

/-- The module between two calls, with its aggregations and the packets handed over, which are
accounted for if `calls`. -/
structure Tracks (uAggregMaxPkts : Fin (twdTxAggregPktsLimitMax + 1)) (uAggregMaxLen : ℕ)
    (fSendPacketTransferCb : Bool) (calls : Prop) (b : Batches Item) (sub : List Pkt) (s : Sys) :
    Prop where
  maxPkts : s.obj.uAggregMaxPkts = uAggregMaxPkts
  maxLen : s.obj.uAggregMaxLen = uAggregMaxLen
  registered : s.obj.fSendPacketTransferCb = fSendPacketTransferCb
  core : Core s b.cur
  seen : transactions s.log = b.closed
  counted : Counted s
  account : fSendPacketTransferCb = true → calls → ∀ q, sub.count q = s.total b.cur q

variable {m : Fin (twdTxAggregPktsLimitMax + 1)} {n : ℕ} {r : Bool} {c c' : Prop} {b : Batches Item}
  {sub : List Pkt} {s t : Sys} {x : Item} {l : List Item} {p : Pkt} {st : ETxnStatus}

theorem Tracks.fillIn (h : Tracks m n r c b sub s) (hp : p ∉ s.held b.cur) (length : UInt16) :
    Tracks m n r c b sub (s.fillIn p length) :=
  ⟨h.maxPkts, h.maxLen, h.registered, h.core.fillIn hp length, h.seen,
    ⟨h.counted.cntr, h.counted.each, h.counted.last, h.counted.slots⟩, h.account⟩

theorem Tracks.handed (h : Tracks m n r c b sub s) (hlog : t.log = s.log)
    (hin : t.inFlight = s.inFlight) (x : Item) (hr : r = true) (hc : c) (q : Pkt) :
    (sub ++ [x.1]).count q = t.total (b.cur ++ [x]) q := by
  rw [List.count_append, h.account hr hc q, total_snoc hlog hin]

theorem Tracks.start (h : Tracks m n r c b sub s) (hcur : b.cur = []) (hp : p ∉ s.held b.cur) :
    Tracks m n r c { b with cur := [(p, (s.blk p).pktLen)] } (sub ++ [p]) (s.start p) where
  maxPkts := h.maxPkts
  maxLen := h.maxLen
  registered := h.registered
  core := by
    have hcore := h.core
    rw [hcur] at hcore hp
    exact hcore.start hp
  seen := h.seen
  counted := ⟨h.counted.cntr, h.counted.each, h.counted.last, h.counted.slots⟩
  account hr hc q := by
    have := h.handed (t := s.start p) rfl rfl (p, (s.blk p).pktLen) hr hc q
    rwa [hcur] at this

theorem Tracks.add (h : Tracks m n r c b sub s) (hcur : b.cur = x :: l) (hp : p ∉ s.held b.cur)
    (hroom : s.obj.uAggregPktsNum + 1 ≤ s.obj.uAggregMaxPkts) :
    Tracks m n r c { b with cur := b.cur ++ [(p, (s.blk p).pktLen)] } (sub ++ [p]) (s.add p) where
  maxPkts := h.maxPkts
  maxLen := h.maxLen
  registered := h.registered
  core := by
    have hcore := h.core
    rw [hcur] at hcore hp ⊢
    exact hcore.add hp hroom
  seen := h.seen
  counted := ⟨h.counted.cntr, h.counted.each, h.counted.last, h.counted.slots⟩
  account hr hc q := h.handed (t := s.add p) rfl rfl (p, (s.blk p).pktLen) hr hc q

theorem Tracks.sent {now : Bool} (h : Tracks m n r c b sub s) (hcur : b.cur = x :: l)
    (hf : Flushed s t (x :: l) (lastOf x.1 (pkts l)) st now) :
    t.clear.obj.uAggregMaxPkts = m ∧ t.clear.obj.uAggregMaxLen = n ∧
      t.clear.obj.fSendPacketTransferCb = r ∧ Core t.clear [] ∧
      transactions t.clear.log = b.closed ++ [b.cur] ∧ Counted t.clear := by
  have hcounted := h.counted.flush hf
  refine ⟨hf.maxPkts.trans h.maxPkts, hf.maxLen.trans h.maxLen, hf.registered.trans h.registered,
    ?_, ?_, hcounted.cntr, hcounted.each, hcounted.last, hcounted.slots⟩
  · have hcore := h.core
    rw [hcur] at hcore
    exact hcore.flush hf
  · have hlog : t.clear.log = s.log ++ flushLog s (x :: l) st now := hf.log
    rw [hlog, transactions_append, flushLog_transactions, h.seen, hcur]

/-- **The aggregation is sent** while the packet that overflows it, or none, is at hand. -/
theorem Tracks.flush (h : Tracks m n r c b sub s) (hcur : b.cur = x :: l)
    (hf : Flushed s t (x :: l) (lastOf x.1 (pkts l)) st false) :
    Tracks m n r c ⟨b.closed ++ [b.cur], []⟩ sub t.clear := by
  obtain ⟨hm, hn, hr, hcore, hseen, hcounted⟩ := h.sent hcur hf
  refine ⟨hm, hn, hr, hcore, hseen, hcounted, fun hreg hc q => ?_⟩
  have htotal := flush_total hf q
  have hcalls : flushCalls s (x :: l) st false = if st = .complete then pkts (x :: l) else [] := by
    rw [flushCalls, h.registered, hreg, calledNow]
    simp only [true_and, Bool.false_eq_true, if_false]
  rw [h.account hreg hc q, hcur]
  change s.total (x :: l) q = t.clear.total [] q
  rw [hcalls] at htotal
  by_cases hst : st = .complete
  · rw [if_pos hst, if_pos hst] at htotal
    omega
  · rw [if_neg hst, if_neg hst, List.count_nil] at htotal
    omega

theorem Counted.returned (h : Counted s) (p : Pkt) (st : ETxnStatus) :
    Counted { s with log := s.log ++ [.returned p st] } :=
  h.quiet rfl rfl rfl rfl (each_snoc.mpr ⟨h.each, fun _ _ hv => nomatch hv⟩)

/-- **A packet is sent at once**, and its call returns how that went. -/
theorem Tracks.flushNow (h : Tracks m n r c b sub s) (hcur : b.cur = [x])
    (hf : Flushed s t [x] x.1 st true) :
    Tracks m n r c ⟨b.closed ++ [[x]], []⟩ sub
      { t.clear with log := t.clear.log ++ [.returned x.1 st] } := by
  obtain ⟨hm, hn, hr, hcore, hseen, hcounted⟩ := h.sent hcur hf
  constructor
  case maxPkts => exact hm
  case maxLen => exact hn
  case registered => exact hr
  case core => exact hcore.congr rfl rfl rfl fun _ _ => rfl
  case seen =>
    rw [hcur] at hseen
    rw [transactions_append, hseen]
    exact List.append_nil _
  case counted => exact hcounted.returned x.1 st
  case account =>
    intro hreg hc q
    have htotal := flush_total hf q
    have hcalls : flushCalls s [x] st true = [] := by
      rw [flushCalls]
      split <;> rfl
    rw [hcalls, List.count_nil, Nat.add_zero] at htotal
    rw [h.account hreg hc q, returned_total, hcur]
    exact htotal.symm

theorem Tracks.returned (h : Tracks m n r c b sub s) (p : Pkt) (hst : st ≠ .complete) :
    Tracks m n r c b sub { s with log := s.log ++ [.returned p st] } where
  maxPkts := h.maxPkts
  maxLen := h.maxLen
  registered := h.registered
  core := h.core.congr rfl rfl rfl fun _ _ => rfl
  seen := by
    rw [transactions_append, h.seen]
    exact List.append_nil _
  counted := h.counted.returned p st
  account hreg hc q := by rw [returned_total, if_neg hst, Nat.add_zero, h.account hreg hc q]

/-- **A transaction in flight completes**: the callback in its last packet is called. -/
theorem Tracks.done {g : List Item} {rest : List (List Item)} (h : Tracks m n r c b sub s)
    (hin : s.inFlight = g :: rest) (hmax : c → 0 < m.val) (ht : step s .txnDone = some t) :
    Tracks m n r c b sub t := by
  have hfly := h.core.flying g (by rw [hin]; exact List.mem_cons_self)
  obtain ⟨p, k, hlast, hcb, hwalk⟩ := hfly.called
  rw [h.registered] at hcb
  rw [step, hin] at ht
  dsimp only at ht
  rw [hlast] at ht
  dsimp only at ht
  rw [hcb] at ht
  cases hr : r with
  | false =>
    rw [hr, if_neg Bool.false_ne_true] at ht
    cases ht
    rw [hr] at h
    exact ⟨h.maxPkts, h.maxLen, h.registered, h.core.landed hin, h.seen,
      ⟨h.counted.cntr, h.counted.each, h.counted.last, h.counted.slots⟩, nofun⟩
  | true =>
    have hcalled : c → walkUntil s.next p s.obj.uAggregMaxPkts (s.next p) = pkts g :=
      fun hc => hwalk (by rw [h.maxPkts]; exact hmax hc)
    rw [hr, if_pos rfl] at ht
    cases ht
    have hdone : transferDoneCb { s with inFlight := rest } p =
        callBack { s with inFlight := rest }
          (walkUntil s.next p s.obj.uAggregMaxPkts (s.next p)) := rfl
    rw [hdone]
    revert hcalled
    generalize walkUntil s.next p s.obj.uAggregMaxPkts (s.next p) = called
    intro hcalled
    obtain ⟨htrans, hsent, hcounters, -, -, -⟩ := calls_seen called
    rw [hr] at h
    constructor
    case maxPkts => exact h.maxPkts
    case maxLen => exact h.maxLen
    case registered => exact h.registered
    case core => exact (h.core.landed hin).congr rfl rfl rfl fun _ _ => rfl
    case seen =>
      rw [callBack, transactions_append, htrans, List.append_nil]
      exact h.seen
    case counted =>
      exact h.counted.quiet rfl rfl hsent hcounters (each_calls h.counted.each called)
    case account =>
      intro hreg hc q
      rw [hcalled hc, done_total hin, h.account hreg hc q]

theorem Tracks.fail {g : List Item} {rest : List (List Item)} (h : Tracks m n r c b sub s)
    (hin : s.inFlight = g :: rest) :
    Tracks m n r c b sub { s with inFlight := rest, log := s.log ++ [.failed g] } where
  maxPkts := h.maxPkts
  maxLen := h.maxLen
  registered := h.registered
  core := (h.core.landed hin).congr rfl rfl rfl fun _ _ => rfl
  seen := by
    rw [transactions_append, h.seen]
    exact List.append_nil _
  counted := h.counted.quiet rfl rfl rfl rfl
    (each_snoc.mpr ⟨h.counted.each, fun _ _ hv => nomatch hv⟩)
  account hreg hc q := by rw [fail_total hin, h.account hreg hc q]

/-! ## The steps -/

/-- What the callers promise: a control block is handed over when the module and the bus have done
with it. -/
def Usable (s : Sys) : Op → Prop
  | .sendPacket p _ _ => p ∉ s.held s.aggregated
  | _ => True

/-- `txXfer_SendPacket` with its return. -/
def sent (s : Sys) (p : Pkt) (bus : ℕ → ETxnStatus) : Sys :=
  { (s.sendPacket p bus).1 with
    log := (s.sendPacket p bus).1.log ++ [.returned p (s.sendPacket p bus).2] }

theorem sent_of_eq {s t : Sys} {p : Pkt} {bus : ℕ → ETxnStatus} {st : ETxnStatus}
    (h : s.sendPacket p bus = (t, st)) :
    s.sent p bus = { t with log := t.log ++ [.returned p st] } := by
  rw [sent, h]

theorem Tracks.sendPacket (h : Tracks m n r c b sub s) (hp : p ∉ s.held b.cur) (length : UInt16)
    (bus : ℕ → ETxnStatus) :
    Tracks m n r c (b.push (fits m n) (decide (m.val ≤ 1)) (p, length.toNat * 2 ^ 2)) (sub ++ [p])
      ((s.fillIn p length).sent p bus) := by
  have hu := h.fillIn hp length
  have hpu : p ∉ (s.fillIn p length).held b.cur := hp
  have hlen := fillIn_pktLen s p length
  revert hu hpu hlen
  generalize s.fillIn p length = u
  intro hu hpu hlen
  rw [← hlen, Batches.push]
  by_cases hnil : b.cur = []
  · have hnum := hu.core.empty hnil
    have hstart := hu.start hnil hpu
    rw [if_pos hnil]
    by_cases hone : m.val ≤ 1
    · -- the packet is sent in its own call
      have hcurrent := hstart.core.current _ _ rfl
      obtain ⟨hf, hst⟩ := flush_spec hcurrent hstart.core.collected bus true
      have hsend : u.sendPacket p bus =
          (((u.start p).sendAggregatedPkts bus true).1.clear, bus 0) := by
        rw [Sys.sendPacket, if_pos hnum]
        dsimp only
        rw [if_pos (by rw [hstart.maxPkts]; exact hone), hst]
        rfl
      rw [if_pos (decide_eq_true hone), sent_of_eq hsend, hnil]
      exact hstart.flushNow rfl hf
    · have hsend : u.sendPacket p bus = (u.start p, .pending) := by
        rw [Sys.sendPacket, if_pos hnum]
        dsimp only
        rw [if_neg (by rw [hstart.maxPkts]; exact hone)]
      rw [if_neg (by simpa using hone), sent_of_eq hsend]
      exact hstart.returned p (by decide)
  · obtain ⟨x, l, hcur⟩ := List.exists_cons_of_ne_nil hnil
    have hcurrent := hu.core.current x l hcur
    have hnum : u.obj.uAggregPktsNum ≠ 0 := by
      rw [hcurrent.num]
      exact Nat.succ_ne_zero _
    have hfits : (fits m n b.cur (p, (u.blk p).pktLen) = true) ↔
        u.obj.uAggregPktsNum + 1 ≤ u.obj.uAggregMaxPkts ∧
          u.obj.uAggregPktsLen + (u.blk p).pktLen ≤ u.obj.uAggregMaxLen := by
      rw [fits, decide_eq_true_iff, hcurrent.num, hcurrent.len, hu.maxPkts, hu.maxLen, hcur,
        List.length_cons]
    rw [if_neg hnil]
    by_cases hroom : fits m n b.cur (p, (u.blk p).pktLen) = true
    · have hsend : u.sendPacket p bus = (u.add p, .pending) := by
        rw [Sys.sendPacket, if_neg hnum, if_pos (hfits.mp hroom)]
      rw [if_pos hroom, sent_of_eq hsend]
      exact (hu.add hcur hpu (hfits.mp hroom).1).returned p (by decide)
    · -- what is in hand is sent, and the packet starts the next aggregation
      have hf := (flush_spec hcurrent hu.core.collected bus false).1
      have hflush := hu.flush hcur hf
      have hsend : u.sendPacket p bus =
          ((u.sendAggregatedPkts bus false).1.clear.start p, .pending) := by
        rw [Sys.sendPacket, if_neg hnum, if_neg (mt hfits.mpr hroom)]
        rfl
      have hfresh : p ∉ (u.sendAggregatedPkts bus false).1.clear.held [] := by
        intro hc
        have := hf.held_subset hc
        rw [← hcur] at this
        exact hpu this
      have hpkt : ((u.sendAggregatedPkts bus false).1.clear.blk p).pktLen = (u.blk p).pktLen := by
        rw [TTxCtrlBlk.pktLen, TTxCtrlBlk.pktLen, ← hf.lengths p]
        rfl
      rw [if_neg hroom, sent_of_eq hsend, ← hpkt]
      exact (hflush.start rfl hfresh).returned p (by decide)

theorem Tracks.endOfBurst (h : Tracks m n r c b sub s) (bus : ℕ → ETxnStatus) :
    Tracks m n r c b.flush sub (s.endOfBurst bus) := by
  rw [Sys.endOfBurst, Batches.flush]
  by_cases hnil : b.cur = []
  · have hnum : ¬ s.obj.uAggregPktsNum > 0 := by
      rw [h.core.empty hnil]
      exact Nat.lt_irrefl 0
    rw [if_neg hnum, if_pos hnil]
    exact h
  · obtain ⟨x, l, hcur⟩ := List.exists_cons_of_ne_nil hnil
    have hcurrent := h.core.current x l hcur
    have hf := (flush_spec hcurrent h.core.collected bus false).1
    have hnum : s.obj.uAggregPktsNum > 0 := by
      rw [hcurrent.num]
      exact Nat.succ_pos _
    rw [if_pos hnum, if_neg hnil]
    exact h.flush hcur hf

theorem Tracks.mono (h : Tracks m n r c b sub s) (hc : c' → c) : Tracks m n r c' b sub s :=
  ⟨h.maxPkts, h.maxLen, h.registered, h.core, h.seen, h.counted,
    fun hr hc' => h.account hr (hc hc')⟩

/-- The callback of a transaction that completes asynchronously makes a step, or there is none. -/
def Called (m : Fin (twdTxAggregPktsLimitMax + 1)) (ops : List Op) : Prop :=
  0 < m.val ∨ Op.txnDone ∉ ops

theorem Tracks.step {ops : List Op} {op : Op}
    (h : Tracks m n r (Called m ops) (aggregations m n ops) (pkts (submitted ops)) s)
    (hu : Usable s op) (ht : step s op = some t) :
    Tracks m n r (Called m (ops ++ [op])) (aggregations m n (ops ++ [op]))
      (pkts (submitted (ops ++ [op]))) t := by
  have hcalled : Called m (ops ++ [op]) → Called m ops :=
    Or.imp_right fun hn hmem => hn (List.mem_append_left _ hmem)
  replace h := h.mono hcalled
  rw [aggregations, submitted, List.filterMap_append]
  cases op with
  | sendPacket p length bus =>
    cases ht
    rw [Usable, h.core.aggregated] at hu
    have hcmd : [Op.sendPacket p length bus].filterMap Op.cmd =
        [.push (p, length.toNat * 2 ^ 2)] := rfl
    rw [hcmd, Batches.run_snoc, pushed_append, pkts_append]
    exact h.sendPacket hu length bus
  | endOfBurst bus =>
    cases ht
    have hcmd : [Op.endOfBurst bus].filterMap Op.cmd = [.flush] := rfl
    have hnone : pkts (pushed [BatchCmd.flush]) = [] := rfl
    rw [hcmd, Batches.run_snoc, pushed_append, pkts_append, hnone, List.append_nil]
    exact h.endOfBurst bus
  | txnDone =>
    have hcmd : [Op.txnDone].filterMap Op.cmd = [] := rfl
    rw [hcmd, List.append_nil]
    cases hin : s.inFlight with
    | nil =>
      rw [Sys.step, hin] at ht
      cases ht
    | cons g rest =>
      refine h.done hin (fun hc => ?_) ht
      exact hc.resolve_right fun hn => hn (List.mem_append_right _ (List.mem_singleton_self _))
  | txnFail =>
    have hcmd : [Op.txnFail].filterMap Op.cmd = [] := rfl
    rw [hcmd, List.append_nil]
    rw [Sys.step] at ht
    cases hin : s.inFlight with
    | nil =>
      rw [hin] at ht
      cases ht
    | cons g rest =>
      rw [hin] at ht
      cases ht
      exact h.fail hin

theorem Tracks.init (m : Fin (twdTxAggregPktsLimitMax + 1)) (n : ℕ) (r : Bool) :
    Tracks m n r c ⟨[], []⟩ [] (Sys.init m n r) where
  maxPkts := rfl
  maxLen := rfl
  registered := rfl
  core := ⟨rfl, fun _ => rfl, nofun, Or.inl (Nat.zero_le 1), nofun, List.nodup_nil⟩
  seen := rfl
  counted := ⟨rfl, each_nil, rfl, nofun⟩
  account _ _ _ := rfl

/-! ## Runs -/

/-- What a run comes to. -/
structure Aggregates (uAggregMaxPkts : Fin (twdTxAggregPktsLimitMax + 1)) (uAggregMaxLen : ℕ)
    (fSendPacketTransferCb : Bool) (ops : List Op) (s : Sys) : Prop where
  /-- Each packet is transacted once, in the order of submission, or still in the aggregation. -/
  order : (transactions s.log).flatten ++ s.aggregated = submitted ops
  /-- The transactions are the aggregations: the bus takes the packets of one together. -/
  groups : transactions s.log = (aggregations uAggregMaxPkts uAggregMaxLen ops).closed
  /-- No packet with a mark is left without its last one. -/
  marks : s.collected = []
  limits : ∀ g ∈ transactions s.log,
    g.length = 1 ∨ g ≠ [] ∧ g.length ≤ uAggregMaxPkts ∧ lengthOf g ≤ uAggregMaxLen
  /-- Each value of the counter is the number of packets sent by then. -/
  counter : Each CounterRight s.log
  /-- The last value counts all packets sent. -/
  written : ((counters s.log).getLastD (0, 0)).2 = sentPkts s.log % 2 ^ 32
  /-- A value stays in its structure until as many writes later as there are structures. -/
  intact : ∀ k < ctrlBlkEntriesNum, ∀ i v, (counters s.log).reverse[k]? = some (i, v) →
    s.obj.aPktsCntrTxn i = v
  /-- Each packet is called back, or returned as complete, or failed, or still worked on, once. -/
  once : fSendPacketTransferCb = true → 0 < uAggregMaxPkts.val ∨ Op.txnDone ∉ ops →
    ∀ p, (pkts (submitted ops)).count p = s.total s.aggregated p

theorem aggregations_limits (m : Fin (twdTxAggregPktsLimitMax + 1)) (n : ℕ) (ops : List Op) :
    ∀ g ∈ (aggregations m n ops).closed,
      g.length = 1 ∨ g ≠ [] ∧ g.length ≤ m ∧ lengthOf g ≤ n := by
  refine (Batches.batch_forall (fun x => Or.inl rfl) (fun g x hne _ hf => Or.inr ?_) _).1
  obtain ⟨hlen, hsum⟩ := of_decide_eq_true hf
  refine ⟨List.append_ne_nil_of_left_ne_nil hne _, ?_, ?_⟩
  · rw [List.length_append, List.length_singleton]
    exact hlen
  · rw [lengthOf, List.map_append, List.sum_append, List.map_singleton, List.sum_singleton]
    exact hsum

/-- **Packets are aggregated**, counted and completed. -/
theorem packets_aggregated (uAggregMaxPkts : Fin (twdTxAggregPktsLimitMax + 1)) (uAggregMaxLen : ℕ)
    (fSendPacketTransferCb : Bool) {ops : List Op} {s : Sys}
    (ha : Along step Usable (init uAggregMaxPkts uAggregMaxLen fSendPacketTransferCb) ops)
    (he : exec step (init uAggregMaxPkts uAggregMaxLen fSendPacketTransferCb) ops = some s) :
    Aggregates uAggregMaxPkts uAggregMaxLen fSendPacketTransferCb ops s := by
  have h := ha.history (I := fun ops s => Tracks uAggregMaxPkts uAggregMaxLen fSendPacketTransferCb
    (Called uAggregMaxPkts ops) (aggregations uAggregMaxPkts uAggregMaxLen ops)
    (pkts (submitted ops)) s)
    (fun _ _ _ _ h hu ht => h.step hu ht) (Tracks.init _ _ _) he
  constructor
  case order =>
    rw [h.seen, h.core.aggregated]
    exact Batches.batch_flatten _
  case groups => exact h.seen
  case marks => exact h.core.collected
  case limits =>
    rw [h.seen]
    exact aggregations_limits _ _ ops
  case counter => exact h.counted.each
  case written => rw [h.counted.last, h.counted.cntr]
  case intact => exact fun k hk i v hiv => (h.counted.slots k hk i v hiv).2
  case once =>
    rw [h.core.aggregated]
    exact h.account

instance (s : Sys) : (op : Op) → Decidable (Usable s op)
  | .sendPacket p _ _ => inferInstanceAs (Decidable (p ∉ s.held s.aggregated))
  | .endOfBurst _ => isTrue trivial
  | .txnDone => isTrue trivial
  | .txnFail => isTrue trivial

/-- Every transaction is pending, or complete at once. -/
def allPending : ℕ → ETxnStatus := fun _ => .pending

/-- Every transaction is complete at once. -/
def allComplete : ℕ → ETxnStatus := fun _ => .complete

/-- Three packets of 40 bytes, of which two go together, with one completion for each way. -/
def threePackets : List Op :=
  [.sendPacket 5 10 allPending, .sendPacket 6 10 allPending, .sendPacket 7 10 allPending, .txnDone,
    .endOfBurst allComplete]

theorem packets_aggregated_threePackets : ∃ s, exec step (init 3 100 true) threePackets = some s ∧
    transactions s.log = [[(5, 40), (6, 40)], [(7, 40)]] ∧ calledBack s.log = [5, 6, 7] ∧
    Aggregates 3 100 true threePackets s :=
  ⟨_, rfl, by decide, by decide, packets_aggregated 3 100 true (by decide) rfl⟩

/-- **A packet that is complete at once is not called back** when its own call sends it: the return
code says it. -/
theorem complete_not_called :
    (∃ s, exec step (init 1 100 true) [.sendPacket 5 10 allComplete] = some s ∧
      transactions s.log = [[(5, 40)]] ∧ s.inFlight = [] ∧ calledBack s.log = []) ∧
    ∃ s, exec step (init 0 100 true) [.sendPacket 5 10 allPending, .txnDone] = some s ∧
      transactions s.log = [[(5, 40)]] ∧ s.inFlight = [] ∧ calledBack s.log = [] :=
  ⟨⟨_, rfl, by decide, by decide, by decide⟩, ⟨_, rfl, by decide, by decide, by decide⟩⟩

end Sys

end ArchosGpl.Wlan.TxXfer
