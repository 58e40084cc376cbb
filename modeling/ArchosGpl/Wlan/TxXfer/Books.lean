import Mathlib.Algebra.BigOperators.Group.List.Basic
import ArchosGpl.Lib.Trace
import ArchosGpl.Wlan.TxXfer.Blocks

/-!
# What is seen of the packets

The packets counter and the fate of each packet, read off what happened so far. `Counted` is that
each value of the counter was the number of packets the bus had taken by then. `Sys.total` counts
the calls of the callback for a packet, its synchronous completions, its failures, and whether it
is still in the aggregation or in flight: **sending an aggregation and the end of a transaction
keep that number** (`flush_total`, `done_total`, `fail_total`), a packet that is handed over adds
one.
-/

namespace ArchosGpl.Wlan.TxXfer

open Lib

def transactions (log : List Event) : List (List Item) :=
  log.filterMap fun
    | .transaction g _ => some g
    | _ => none

/-- How many packets the bus took. -/
def sentPkts (log : List Event) : ℕ :=
  (log.map fun
    | .transaction g eStatus => if eStatus = .error then 0 else g.length
    | _ => 0).sum

/-- The writes of the packets counter: the structure and the value. -/
def counters (log : List Event) : List (Fin ctrlBlkEntriesNum × ℕ) :=
  log.filterMap fun
    | .counter uIndex uPktsCntr => some (uIndex, uPktsCntr)
    | _ => none

def calledBack (log : List Event) : List Pkt :=
  log.filterMap fun
    | .transferDone p => some p
    | _ => none

/-- The packets whose `txXfer_SendPacket` returned `TXN_STATUS_COMPLETE`. -/
def returnedComplete (log : List Event) : List Pkt :=
  log.filterMap fun
    | .returned p .complete => some p
    | _ => none

/-- The packets of the transactions that failed, at once or later. -/
def failedPkts (log : List Event) : List Pkt :=
  log.flatMap fun
    | .transaction g .error => pkts g
    | .failed g => pkts g
    | _ => []

/-- The counter is written with the number of packets sent by then. -/
def CounterRight (before : List Event) (e : Event) : Prop :=
  ∀ i v, e = .counter i v → v = sentPkts before % 2 ^ 32

theorem sentPkts_transaction (g : List Item) (st : ETxnStatus) :
    sentPkts [.transaction g st] = if st = .error then 0 else g.length :=
  List.sum_singleton

/-! ## Projections of what is appended -/

section Append

variable (l m : List Event)

@[simp] theorem transactions_append : transactions (l ++ m) = transactions l ++ transactions m :=
  List.filterMap_append

@[simp] theorem sentPkts_append : sentPkts (l ++ m) = sentPkts l + sentPkts m := by
  rw [sentPkts, List.map_append, List.sum_append, sentPkts, sentPkts]

@[simp] theorem counters_append : counters (l ++ m) = counters l ++ counters m :=
  List.filterMap_append

@[simp] theorem calledBack_append : calledBack (l ++ m) = calledBack l ++ calledBack m :=
  List.filterMap_append

@[simp] theorem returnedComplete_append :
    returnedComplete (l ++ m) = returnedComplete l ++ returnedComplete m :=
  List.filterMap_append

@[simp] theorem failedPkts_append : failedPkts (l ++ m) = failedPkts l ++ failedPkts m :=
  List.flatMap_append

end Append

theorem calls_seen (ps : List Pkt) : transactions (ps.map .transferDone) = [] ∧
    sentPkts (ps.map .transferDone) = 0 ∧ counters (ps.map .transferDone) = [] ∧
    calledBack (ps.map .transferDone) = ps ∧ returnedComplete (ps.map .transferDone) = [] ∧
    failedPkts (ps.map .transferDone) = [] := by
  induction ps with
  | nil => exact ⟨rfl, rfl, rfl, rfl, rfl, rfl⟩
  | cons p ps ih =>
    obtain ⟨ht, hs, hc, hb, hr, hf⟩ := ih
    have hcons : (p :: ps).map Event.transferDone = [.transferDone p] ++ ps.map .transferDone := rfl
    rw [hcons]
    simp only [transactions_append, sentPkts_append, counters_append, calledBack_append,
      returnedComplete_append, failedPkts_append, ht, hs, hc, hb, hr, hf]
    exact ⟨rfl, rfl, rfl, rfl, rfl, rfl⟩

theorem each_calls {log : List Event} (h : Each CounterRight log) (ps : List Pkt) :
    Each CounterRight (log ++ ps.map .transferDone) := by
  induction ps generalizing log with
  | nil => rwa [List.map_nil, List.append_nil]
  | cons p ps ih =>
    have hone : Each CounterRight (log ++ [.transferDone p]) :=
      each_snoc.mpr ⟨h, fun i v hv => by cases hv⟩
    have := ih hone
    rwa [List.append_assoc] at this

namespace Sys

/-! ## The counter -/

/-- The counter is what was sent, and what was written last; the structures of the last writes are
one behind the other, and keep their values. -/
structure Counted (s : Sys) : Prop where
  cntr : s.obj.uPktsCntr = sentPkts s.log % 2 ^ 32
  each : Each CounterRight s.log
  last : ((counters s.log).getLastD (0, 0)).2 = s.obj.uPktsCntr
  slots : ∀ k < ctrlBlkEntriesNum, ∀ i v, (counters s.log).reverse[k]? = some (i, v) →
    i + Fin.ofNat _ k = s.obj.uPktsCntrTxnIndex ∧ s.obj.aPktsCntrTxn i = v

variable {s t : Sys} {cur g : List Item} {p : Pkt} {last : Pkt} {st : ETxnStatus} {now : Bool}

/-- The packets that the callback is called for as an aggregation is sent. -/
def flushCalls (s : Sys) (g : List Item) (st : ETxnStatus) (now : Bool) : List Pkt :=
  if s.obj.fSendPacketTransferCb ∧ st = .complete then calledNow g now else []

theorem flushLog_error (s : Sys) (g : List Item) (now : Bool) :
    flushLog s g .error now = [.transaction g .error] := rfl

theorem flushLog_sent (s : Sys) (g : List Item) (hst : st ≠ .error) (now : Bool) :
    flushLog s g st now = [.transaction g st] ++
      ([.counter (s.obj.uPktsCntrTxnIndex + 1) (add32 s.obj.uPktsCntr g.length)] ++
        (flushCalls s g st now).map .transferDone) := by
  rw [flushLog, if_neg hst, flushCalls]
  split <;> rfl

theorem flushLog_transactions (s : Sys) (g : List Item) (st : ETxnStatus) (now : Bool) :
    transactions (flushLog s g st now) = [g] := by
  by_cases hst : st = .error
  · rw [hst, flushLog_error]
    rfl
  · rw [flushLog_sent s g hst, transactions_append, transactions_append, (calls_seen _).1]
    rfl

theorem flushLog_sentPkts (s : Sys) (g : List Item) (st : ETxnStatus) (now : Bool) :
    sentPkts (flushLog s g st now) = if st = .error then 0 else g.length := by
  by_cases hst : st = .error
  · rw [hst, flushLog_error]
    rfl
  · rw [flushLog_sent s g hst, sentPkts_append, sentPkts_append, (calls_seen _).2.1,
      sentPkts_transaction]
    rfl

theorem flushLog_counters (s : Sys) (g : List Item) (st : ETxnStatus) (now : Bool) :
    counters (flushLog s g st now) =
      if st = .error then []
      else [(s.obj.uPktsCntrTxnIndex + 1, add32 s.obj.uPktsCntr g.length)] := by
  by_cases hst : st = .error
  · rw [hst, flushLog_error]
    rfl
  · rw [flushLog_sent s g hst, counters_append, counters_append, (calls_seen _).2.2.1, if_neg hst]
    rfl

theorem flushLog_calledBack (s : Sys) (g : List Item) (st : ETxnStatus) (now : Bool) :
    calledBack (flushLog s g st now) = flushCalls s g st now := by
  by_cases hst : st = .error
  · rw [hst, flushLog_error, flushCalls, if_neg fun h => nomatch h.2]
    rfl
  · rw [flushLog_sent s g hst, calledBack_append, calledBack_append, (calls_seen _).2.2.2.1]
    rfl

theorem flushLog_returned (s : Sys) (g : List Item) (st : ETxnStatus) (now : Bool) :
    returnedComplete (flushLog s g st now) = [] := by
  by_cases hst : st = .error
  · rw [hst, flushLog_error]
    rfl
  · rw [flushLog_sent s g hst, returnedComplete_append, returnedComplete_append,
      (calls_seen _).2.2.2.2.1]
    rfl

theorem flushLog_failed (s : Sys) (g : List Item) (st : ETxnStatus) (now : Bool) :
    failedPkts (flushLog s g st now) = if st = .error then pkts g else [] := by
  by_cases hst : st = .error
  · rw [hst, flushLog_error, if_pos rfl, failedPkts, List.flatMap_singleton]
  · rw [flushLog_sent s g hst, failedPkts_append, failedPkts_append, (calls_seen _).2.2.2.2.2,
      if_neg hst, failedPkts, List.flatMap_singleton]
    cases st with
    | complete => rfl
    | pending => rfl
    | error => exact absurd rfl hst

theorem slot_ne {i j : Fin ctrlBlkEntriesNum} {k : ℕ} (hi : i + Fin.ofNat _ k = j)
    (hk : k + 1 < ctrlBlkEntriesNum) :
    i ≠ j + 1 ∧ i + Fin.ofNat _ (k + 1) = j + 1 := by
  have hn : ctrlBlkEntriesNum = 160 := rfl
  subst hi
  constructor
  · intro hc
    have := congrArg Fin.val hc
    simp only [Fin.val_add, Fin.val_ofNat, Fin.val_one, hn] at this
    omega
  · apply Fin.ext
    simp only [Fin.val_add, Fin.val_ofNat, Fin.val_one, hn]
    omega

/-- **The counter goes up** by the packets of the transaction that is sent. -/
theorem Counted.flush (h : Counted s) (hf : Flushed s t g last st now) : Counted t := by
  by_cases hst : st = .error
  · subst hst
    constructor
    case cntr =>
      rw [hf.cntr, if_pos rfl, hf.log, sentPkts_append, flushLog_sentPkts, if_pos rfl, Nat.add_zero]
      exact h.cntr
    case each =>
      rw [hf.log, flushLog_error]
      exact each_snoc.mpr ⟨h.each, fun i v hv => by cases hv⟩
    case last =>
      rw [hf.cntr, if_pos rfl, hf.log, counters_append, flushLog_counters, if_pos rfl,
        List.append_nil]
      exact h.last
    case slots =>
      rw [hf.log, counters_append, flushLog_counters, if_pos rfl, List.append_nil, hf.index,
        if_pos rfl, hf.slots, if_pos rfl]
      exact h.slots
  · have hsum : add32 s.obj.uPktsCntr g.length = (sentPkts s.log + g.length) % 2 ^ 32 := by
      rw [h.cntr, add32]
      omega
    constructor
    case cntr =>
      rw [hf.cntr, if_neg hst, hf.log, sentPkts_append, flushLog_sentPkts, if_neg hst, hsum]
    case each =>
      have htxn : Each CounterRight (s.log ++ [.transaction g st]) :=
        each_snoc.mpr ⟨h.each, fun i v hv => by cases hv⟩
      rw [hf.log, flushLog_sent s g hst, ← List.append_assoc, ← List.append_assoc]
      refine each_calls (each_snoc.mpr ⟨htxn, ?_⟩) _
      intro i v hv
      cases hv
      rw [hsum, sentPkts_append, sentPkts_transaction, if_neg hst]
    case last =>
      rw [hf.cntr, if_neg hst, hf.log, counters_append, flushLog_counters, if_neg hst,
        List.getLastD_concat]
    case slots =>
      rw [hf.log, counters_append, flushLog_counters, if_neg hst, hf.index, if_neg hst, hf.slots,
        if_neg hst, List.reverse_concat]
      rintro (_ | k) hk i v hiv
      · cases hiv
        exact ⟨by simp, Function.update_self _ _ _⟩
      · obtain ⟨hi, hv⟩ := h.slots k (Nat.lt_of_succ_lt hk) i v hiv
        obtain ⟨hne, hnext⟩ := slot_ne hi hk
        exact ⟨hnext, by rw [Function.update_of_ne hne, hv]⟩

theorem Counted.quiet {m : List Event} (h : Counted s) (hobj : t.obj = s.obj)
    (hlog : t.log = s.log ++ m) (hs : sentPkts m = 0) (hc : counters m = [])
    (he : Each CounterRight (s.log ++ m)) : Counted t where
  cntr := by rw [hobj, hlog, sentPkts_append, hs, Nat.add_zero, h.cntr]
  each := by rw [hlog]; exact he
  last := by rw [hobj, hlog, counters_append, hc, List.append_nil, h.last]
  slots := by
    rw [hobj, hlog, counters_append, hc, List.append_nil]
    exact h.slots

/-! ## The fate of a packet -/

/-- How often a packet was called back, completed at once or failed, and is still worked on. -/
def total (s : Sys) (cur : List Item) (q : Pkt) : ℕ :=
  (calledBack s.log).count q + (returnedComplete s.log).count q + (failedPkts s.log).count q +
    (s.held cur).count q

theorem count_held (s : Sys) (cur : List Item) (q : Pkt) :
    (s.held cur).count q = (pkts s.inFlight.flatten).count q + (pkts cur).count q := by
  rw [held, pkts_append, List.count_append]

theorem count_landed {rest : List (List Item)} (hin : s.inFlight = g :: rest) (q : Pkt) :
    (pkts s.inFlight.flatten).count q = (pkts g).count q + (pkts rest.flatten).count q := by
  rw [hin, List.flatten_cons, pkts_append, List.count_append]

/-- **An aggregation is sent**: its packets are in flight, have failed, or are complete. -/
theorem flush_total (hf : Flushed s t g last st now) (q : Pkt) :
    t.clear.total [] q + (if st = .complete then (pkts g).count q else 0) =
      s.total g q + (flushCalls s g st now).count q := by
  have hlog : t.clear.log = s.log ++ flushLog s g st now := hf.log
  have hin : t.clear.inFlight = if st = .pending then s.inFlight ++ [g] else s.inFlight :=
    hf.inFlight
  rw [total, total, count_held, count_held, hlog, hin, calledBack_append, flushLog_calledBack,
    returnedComplete_append, flushLog_returned, failedPkts_append, flushLog_failed]
  cases st with
  | complete =>
    simp only [List.count_append, List.map_nil, List.count_nil, List.append_nil, reduceCtorEq,
      if_true, if_false]
    omega
  | pending =>
    have hcalls : flushCalls s g .pending now = [] := if_neg fun h => nomatch h.2
    rw [hcalls]
    simp only [List.flatten_append, List.flatten_singleton, pkts_append, List.count_append,
      List.map_nil, List.count_nil, List.append_nil, reduceCtorEq, if_true, if_false]
    omega
  | error =>
    have hcalls : flushCalls s g .error now = [] := if_neg fun h => nomatch h.2
    rw [hcalls]
    simp only [List.count_append, List.map_nil, List.count_nil, List.append_nil, reduceCtorEq,
      if_true, if_false]
    omega

theorem done_total {rest : List (List Item)} (hin : s.inFlight = g :: rest) (q : Pkt) :
    (callBack { s with inFlight := rest } (pkts g)).total cur q = s.total cur q := by
  obtain ⟨-, -, -, hb, hr, hf⟩ := calls_seen (pkts g)
  have hlog : (callBack { s with inFlight := rest } (pkts g)).log =
      s.log ++ (pkts g).map .transferDone := rfl
  have hrest : (callBack { s with inFlight := rest } (pkts g)).inFlight = rest := rfl
  rw [total, total, count_held, count_held, hlog, hrest, count_landed hin, calledBack_append,
    returnedComplete_append, failedPkts_append, hb, hr, hf, List.append_nil, List.append_nil,
    List.count_append]
  omega

theorem fail_total {rest : List (List Item)} (hin : s.inFlight = g :: rest) (q : Pkt) :
    total { s with inFlight := rest, log := s.log ++ [.failed g] } cur q = s.total cur q := by
  have hb : calledBack [.failed g] = [] := rfl
  have hr : returnedComplete [.failed g] = [] := rfl
  have hf : failedPkts [.failed g] = pkts g := List.flatMap_singleton ..
  rw [total, total, count_held, count_held, count_landed hin]
  dsimp only
  rw [calledBack_append, returnedComplete_append, failedPkts_append, hb, hr, hf,
    List.append_nil, List.append_nil, List.count_append]
  omega

theorem total_snoc (hlog : t.log = s.log) (hin : t.inFlight = s.inFlight) (x : Item) (q : Pkt) :
    t.total (cur ++ [x]) q = s.total cur q + [x.1].count q := by
  rw [total, total, count_held, count_held, hlog, hin, pkts_append, List.count_append]
  have hone : pkts [x] = [x.1] := rfl
  rw [hone]
  omega

theorem returned_total (s : Sys) (p : Pkt) (st : ETxnStatus) (q : Pkt) :
    total { s with log := s.log ++ [.returned p st] } cur q =
      s.total cur q + if st = .complete then [p].count q else 0 := by
  have hb : calledBack [.returned p st] = [] := rfl
  have hr : returnedComplete [.returned p st] = if st = .complete then [p] else [] := by
    cases st <;> rfl
  have hf : failedPkts [.returned p st] = [] := rfl
  rw [total, total, count_held, count_held]
  dsimp only
  rw [calledBack_append, returnedComplete_append, failedPkts_append, hb, hr, hf, List.append_nil,
    List.append_nil, List.count_append]
  split
  · omega
  · rw [List.count_nil]
    omega

end Sys

end ArchosGpl.Wlan.TxXfer
