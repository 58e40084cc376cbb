import ArchosGpl.Lib.Machine
import ArchosGpl.Lib.Word
import Mathlib.Data.Fintype.Basic
import Mathlib.Data.List.Infix

/-!
# Delivery of TX results

As long as the firmware keeps its counter within the table's depth of the host's,
**`results_delivered`**: the results passed are a prefix of those written, also when the counters
wrap; in IDLE the module has passed all that were written at its last read; and in READING, unless
a read failed, its own steps lead back to IDLE.

The invariant rests on `Snapshot`: the last `trqDepth` results of a table that held `n` are where
their numbers say. Later results do not change that, so the copy the host read stays valid.
-/

namespace ArchosGpl.Wlan.TxResult

open Lib

scoped instance neZero_16 : NeZero 16 := ⟨by decide⟩

/-!
## Model of the TX results (`TWD/FW_Transfer/txResult.c`)

The firmware writes TX results to a cyclic table and counts them. On a DATA interrupt the host reads
the counters and the whole table in one transaction, passes the new results to the
send-packet-complete callback and writes its own counter back.

A step is what one context does without a visible interruption: the firmware writes a result, the
driver handles an interrupt, the bus performs a pending read, the driver runs the read's callback,
the handler makes one call of the send-packet-complete callback. The module is the one built with
`TI_DBG`. A read that fails after it was pending never gets its callback: `twIf_HandleTxnDone`
starts the recovery instead.
-/

abbrev trqDepth : ℕ := 16

/-- `TxResultInterface_t`: the two counters of `TxResultControl_t` and the table. -/
structure TxResultInterface (R : Type*) where
  TxResultFwCounter : ℕ
  TxResultHostCounter : ℕ
  TxResultQueue : Fin trqDepth → R

inductive ETxResultState
  | idle
  | reading
  deriving DecidableEq, Repr

/-- `ETxnStatus`: how `twIf_Transact` returns. -/
inductive ETxnStatus
  | complete
  | pending
  | error
  deriving DecidableEq, Repr

/-- The transaction of `tResultsInfoReadTxn`: not issued, pending, or performed with its callback
still to come. -/
inductive ReadTxn
  | free
  | onBus
  | done
  deriving DecidableEq, Repr

/-- `TTxResultObj`. `uNumNewResults` are the results that `txResult_HandleNewResults` still has to
pass, 0 when it is not running. -/
structure TTxResultObj (R : Type*) where
  uHostResultsCounter : ℕ
  eState : ETxResultState
  tTxResultInfo : TxResultInterface R
  readTxn : ReadTxn
  uNumNewResults : ℕ

/-- The module and the firmware's memory. The rest is history: the results `written` by the firmware
and `passed` to the callback since the firmware was initialised, how many were written at the last
performed read, and whether a read has failed. -/
structure Sys (R : Type*) where
  obj : TTxResultObj R
  fw : TxResultInterface R
  written : List R
  passed : List R
  readAt : ℕ
  failed : Bool

namespace Sys

variable {R : Type*}

/-- `txResult_Init`, or `txResult_setHwInfo` after the firmware was initialised. -/
def setHwInfo (s : Sys R) : Sys R where
  obj := { s.obj with
    uHostResultsCounter := 0, eState := .idle, readTxn := .free, uNumNewResults := 0 }
  fw := { s.fw with TxResultFwCounter := 0, TxResultHostCounter := 0 }
  written := []
  passed := []
  readAt := 0
  failed := false

/-- The module before any interrupt, over a table with any contents. -/
def start (table : Fin trqDepth → R) : Sys R :=
  setHwInfo ⟨⟨0, .idle, ⟨0, 0, table⟩, .free, 0⟩, ⟨0, 0, table⟩, [], [], 0, false⟩

/-- The firmware writes a result and counts it. -/
def fwResult (s : Sys R) (r : R) : Sys R :=
  { s with
    fw := { s.fw with
      TxResultQueue := Function.update s.fw.TxResultQueue (Fin.ofNat _ s.fw.TxResultFwCounter) r
      TxResultFwCounter := add32 s.fw.TxResultFwCounter 1 }
    written := s.written ++ [r] }

def readTable (s : Sys R) : Sys R :=
  { s with obj := { s.obj with tTxResultInfo := s.fw }, readAt := s.written.length }

/-- `txResult_HandleNewResults` up to its loop. -/
def handleNewResults (s : Sys R) : Sys R :=
  let uFwResultsCounter := s.obj.tTxResultInfo.TxResultFwCounter
  let uNumNewResults := sub32 uFwResultsCounter s.obj.uHostResultsCounter
  if uNumNewResults = 0 then { s with obj := { s.obj with eState := .idle } }
  else
    { s with
      obj := { s.obj with uNumNewResults := uNumNewResults }
      fw := { s.fw with TxResultHostCounter := uFwResultsCounter } }

/-- One round of the loop of `txResult_HandleNewResults`; after the last one the state machine
returns to IDLE. -/
def passResult (s : Sys R) : Sys R :=
  let uTableIndex := Fin.ofNat trqDepth s.obj.uHostResultsCounter
  { s with
    obj := { s.obj with
      uHostResultsCounter := add32 s.obj.uHostResultsCounter 1
      uNumNewResults := s.obj.uNumNewResults - 1
      eState := if s.obj.uNumNewResults = 1 then .idle else s.obj.eState }
    passed := s.passed ++ [s.obj.tTxResultInfo.TxResultQueue uTableIndex] }

/-- `txResult_StateMachine`, with how the bus answers the read it may issue. The state becomes
READING whatever the answer is. -/
def stateMachine (s : Sys R) (eTwifStatus : ETxnStatus) : Sys R :=
  match s.obj.eState, eTwifStatus with
  | .idle, .complete => handleNewResults { s.readTable with
      obj := { s.readTable.obj with eState := .reading } }
  | .idle, .pending => { s with obj := { s.obj with eState := .reading, readTxn := .onBus } }
  | .idle, .error => { s with obj := { s.obj with eState := .reading }, failed := true }
  | .reading, _ => s.handleNewResults

def txCmpltIntrCb (s : Sys R) (txResultsCntr : UInt8) (eTwifStatus : ETxnStatus) : Sys R :=
  if s.obj.eState ≠ .idle then s
  else if txResultsCntr.toNat = s.obj.uHostResultsCounter % 2 ^ 8 then s
  else s.stateMachine eTwifStatus

inductive Op (R : Type*)
  | fwResult (r : R)
  | dataIntr (txResultsCntr : UInt8) (eTwifStatus : ETxnStatus)
  | busRead (ok : Bool)
  | readDone
  | passResult
  | setHwInfo

/-- One step. The driver's context runs one handler at a time, so the module is not restarted while
it passes results. -/
def step (s : Sys R) : Op R → Option (Sys R)
  | .fwResult r => some (s.fwResult r)
  | .dataIntr cntr status => some (s.txCmpltIntrCb cntr status)
  | .busRead ok =>
    if s.obj.readTxn ≠ .onBus then none
    else if ok then some { s.readTable with obj := { s.readTable.obj with readTxn := .done } }
    else some { s with obj := { s.obj with readTxn := .free }, failed := true }
  | .readDone =>
    if s.obj.readTxn ≠ .done then none
    else some (stateMachine { s with obj := { s.obj with readTxn := .free } } .complete)
  | .passResult => if s.obj.uNumNewResults = 0 then none else some s.passResult
  | .setHwInfo => if s.obj.uNumNewResults = 0 then some s.setHwInfo else none

end Sys

variable {R : Type*}

/-! ## Snapshots of the table -/

/-- The table as it was when it held the first `n` results. -/
structure Snapshot (t : TxResultInterface R) (written : List R) (n : ℕ) : Prop where
  le : n ≤ written.length
  counter : t.TxResultFwCounter = n % 2 ^ 32
  entry : ∀ i (hi : i < written.length), i < n → n ≤ i + trqDepth →
    t.TxResultQueue (Fin.ofNat _ i) = written[i]

theorem Snapshot.append {t : TxResultInterface R} {written : List R} {n : ℕ}
    (h : Snapshot t written n) (r : R) : Snapshot t (written ++ [r]) n where
  le := by
    rw [List.length_append]
    exact Nat.le_add_right_of_le h.le
  counter := h.counter
  entry i hi hin hdepth := by
    have hold : i < written.length := Nat.lt_of_lt_of_le hin h.le
    rw [List.getElem_append_left hold]
    exact h.entry i hold hin hdepth

/-- The slot of a number depends on the number modulo the depth only, so a wrapped counter gives it
too. -/
theorem slot_mod (n : ℕ) : Fin.ofNat trqDepth (n % 2 ^ 32) = Fin.ofNat trqDepth n := by
  ext
  exact Nat.mod_mod_of_dvd n ⟨2 ^ 28, rfl⟩

theorem slot_ne {i n : ℕ} (hlt : i < n) (hdepth : n < i + trqDepth) :
    Fin.ofNat trqDepth i ≠ Fin.ofNat trqDepth n := by
  intro h
  have hval : i % 16 = n % 16 := congrArg Fin.val h
  have hdepth : n < i + 16 := hdepth
  omega

theorem Snapshot.write {t : TxResultInterface R} {written : List R}
    (h : Snapshot t written written.length) (r : R) (host : ℕ) :
    Snapshot ⟨add32 t.TxResultFwCounter 1, host,
      Function.update t.TxResultQueue (Fin.ofNat _ t.TxResultFwCounter) r⟩
      (written ++ [r]) (written ++ [r]).length where
  le := Nat.le_refl _
  counter := by
    rw [h.counter, add32_mod]
    simp
  entry i hi hin hdepth := by
    simp only [List.length_append, List.length_singleton] at hi hin hdepth
    rw [h.counter, slot_mod]
    by_cases hlast : i = written.length
    · subst hlast
      simp
    · have hold : i < written.length := by omega
      simp only
      rw [Function.update_of_ne (slot_ne hold (by omega)), List.getElem_append_left hold]
      exact h.entry i hold hold (by omega)

theorem prefix_snoc {passed written : List R} (h : passed <+: written)
    (hlt : passed.length < written.length) : passed ++ [written[passed.length]] <+: written := by
  obtain ⟨rest, rfl⟩ := h
  cases rest with
  | nil => simp at hlt
  | cons r rest =>
    refine ⟨rest, ?_⟩
    simp

/-! ## The invariant -/

namespace Sys

variable {s s' : Sys R}

/-- Where the module is between two reads. -/
inductive Phase (s : Sys R) : Prop
  /-- All of the last read is passed. -/
  | idle (state : s.obj.eState = .idle) (free : s.obj.readTxn = .free)
      (none : s.obj.uNumNewResults = 0) (sound : s.failed = false)
      (all : s.passed.length = s.readAt)
  /-- A read is pending. -/
  | onBus (state : s.obj.eState = .reading) (busy : s.obj.readTxn = .onBus)
      (none : s.obj.uNumNewResults = 0) (sound : s.failed = false)
  /-- A read is performed and its callback has not run. -/
  | done (state : s.obj.eState = .reading) (busy : s.obj.readTxn = .done)
      (none : s.obj.uNumNewResults = 0) (sound : s.failed = false)
      (ahead : s.passed.length ≤ s.readAt ∧ s.readAt ≤ s.passed.length + trqDepth)
      (copy : Snapshot s.obj.tTxResultInfo s.written s.readAt)
  /-- The results of a read are being passed. -/
  | passing (state : s.obj.eState = .reading) (free : s.obj.readTxn = .free)
      (some : 0 < s.obj.uNumNewResults) (sound : s.failed = false)
      (few : s.obj.uNumNewResults ≤ trqDepth)
      (all : s.passed.length + s.obj.uNumNewResults = s.readAt)
      (copy : Snapshot s.obj.tTxResultInfo s.written s.readAt)
  /-- A read has failed. -/
  | stuck (state : s.obj.eState = .reading) (free : s.obj.readTxn = .free)
      (none : s.obj.uNumNewResults = 0) (failed : s.failed = true)

/-- How the counters, the table and the history fit together. -/
structure Counted (s : Sys R) : Prop where
  order : s.passed <+: s.written
  host : s.obj.uHostResultsCounter = s.passed.length % 2 ^ 32
  table : Snapshot s.fw s.written s.written.length
  hostInFw : s.fw.TxResultHostCounter = (s.passed.length + s.obj.uNumNewResults) % 2 ^ 32
  ahead : s.passed.length + s.obj.uNumNewResults ≤ s.written.length
  depth : s.written.length ≤ s.passed.length + s.obj.uNumNewResults + trqDepth

/-- What holds in every state of a run. -/
structure Delivers (s : Sys R) : Prop extends Counted s where
  phase : Phase s

/-- The firmware writes a result only while its counter stays within the depth of the host's. -/
def WithinDepth (s : Sys R) : Op R → Prop
  | .fwResult _ => sub32 (add32 s.fw.TxResultFwCounter 1) s.fw.TxResultHostCounter ≤ trqDepth
  | _ => True

instance (s : Sys R) : (op : Op R) → Decidable (s.WithinDepth op)
  | .fwResult _ => inferInstanceAs (Decidable (_ ≤ _))
  | .dataIntr .. => isTrue trivial
  | .busRead _ => isTrue trivial
  | .readDone => isTrue trivial
  | .passResult => isTrue trivial
  | .setHwInfo => isTrue trivial

theorem delivers_setHwInfo (s : Sys R) : Delivers s.setHwInfo where
  order := List.prefix_rfl
  host := rfl
  table := ⟨Nat.le_refl _, rfl, fun i hi => absurd hi (Nat.not_lt_zero i)⟩
  hostInFw := rfl
  ahead := Nat.le_refl _
  depth := Nat.zero_le _
  phase := .idle rfl rfl rfl rfl rfl

/-! ## Steps -/

theorem Delivers.fwResult (h : Delivers s) {r : R}
    (hd : sub32 (add32 s.fw.TxResultFwCounter 1) s.fw.TxResultHostCounter ≤ trqDepth) :
    Delivers (s.fwResult r) := by
  have hahead := h.ahead
  have hdepth := h.depth
  have hroom : s.written.length + 1 ≤ s.passed.length + s.obj.uNumNewResults + trqDepth := by
    have hle : trqDepth = 16 := rfl
    rw [h.table.counter, add32_mod, h.hostInFw, sub32_mod (by omega) (by omega)] at hd
    omega
  constructor
  case toCounted =>
    constructor
    case order => exact h.order.trans (List.prefix_append _ _)
    case host => exact h.host
    case table => exact h.table.write r _
    case hostInFw => exact h.hostInFw
    case ahead =>
      simp only [Sys.fwResult, List.length_append, List.length_singleton]
      omega
    case depth => simpa [Sys.fwResult] using hroom
  case phase =>
    cases h.phase with
    | idle hst hfree hn hf hall => exact .idle hst hfree hn hf hall
    | onBus hst hbusy hn hf => exact .onBus hst hbusy hn hf
    | done hst hbusy hn hf hle hcopy => exact .done hst hbusy hn hf hle (hcopy.append r)
    | passing hst hfree hn hf hfew hall hcopy =>
      exact .passing hst hfree hn hf hfew hall (hcopy.append r)
    | stuck hst hfree hn hf => exact .stuck hst hfree hn hf

theorem Counted.readTable (h : Counted s) (hn : s.obj.uNumNewResults = 0) :
    s.passed.length ≤ s.readTable.readAt ∧
    s.readTable.readAt ≤ s.passed.length + trqDepth ∧
    Snapshot s.readTable.obj.tTxResultInfo s.written s.readTable.readAt := by
  have hahead := h.ahead
  have hdepth := h.depth
  rw [hn] at hahead hdepth
  exact ⟨hahead, hdepth, h.table⟩

theorem Counted.handleNewResults (h : Counted s) (hst : s.obj.eState = .reading)
    (hfree : s.obj.readTxn = .free) (hn : s.obj.uNumNewResults = 0) (hf : s.failed = false)
    (hle : s.passed.length ≤ s.readAt) (hdepth : s.readAt ≤ s.passed.length + trqDepth)
    (hcopy : Snapshot s.obj.tTxResultInfo s.written s.readAt) : Delivers s.handleNewResults := by
  have hnum : sub32 s.obj.tTxResultInfo.TxResultFwCounter s.obj.uHostResultsCounter =
      s.readAt - s.passed.length := by
    have : trqDepth = 16 := rfl
    rw [hcopy.counter, h.host, sub32_mod hle (by omega)]
  unfold Sys.handleNewResults
  simp only [hnum]
  split
  case isTrue hzero =>
    refine ⟨⟨h.order, h.host, h.table, h.hostInFw, h.ahead, h.depth⟩, ?_⟩
    exact .idle rfl hfree hn hf (by simp only; omega)
  case isFalse hne =>
    have hat := hcopy.le
    have hd := h.depth
    refine ⟨⟨h.order, h.host, ?_, ?_, ?_, ?_⟩, ?_⟩
    · exact ⟨h.table.le, h.table.counter, h.table.entry⟩
    · simp only [hcopy.counter]
      congr 1
      omega
    · simp only
      omega
    · simp only
      omega
    · exact .passing hst hfree (by simp only; omega) hf (by simp only; omega)
        (by simp only; omega) hcopy

theorem Delivers.passResult (h : Delivers s) (hn : s.obj.uNumNewResults ≠ 0) :
    Delivers s.passResult := by
  cases h.phase with
  | idle _ _ hzero | onBus _ _ hzero | done _ _ hzero | stuck _ _ hzero => exact absurd hzero hn
  | passing hst hfree hpos hf hfew hall hcopy =>
    have hat := hcopy.le
    have hlt : s.passed.length < s.written.length := by omega
    have hentry : s.obj.tTxResultInfo.TxResultQueue (Fin.ofNat _ s.obj.uHostResultsCounter) =
        s.written[s.passed.length] := by
      rw [h.host, slot_mod]
      exact hcopy.entry _ hlt (by omega) (by omega)
    have hlen : (s.passResult).passed.length = s.passed.length + 1 := by simp [Sys.passResult]
    have hleft : (s.passResult).obj.uNumNewResults = s.obj.uNumNewResults - 1 := rfl
    constructor
    case toCounted =>
      constructor
      case order =>
        simp only [Sys.passResult, hentry]
        exact prefix_snoc h.order hlt
      case host =>
        rw [hlen]
        simp only [Sys.passResult, h.host, add32_mod]
      case table => exact h.table
      case hostInFw =>
        rw [hlen, hleft, show s.passed.length + 1 + (s.obj.uNumNewResults - 1) =
          s.passed.length + s.obj.uNumNewResults by omega]
        exact h.hostInFw
      case ahead =>
        have := h.ahead
        rw [hlen, hleft]
        exact le_trans (by omega) h.ahead
      case depth =>
        have := h.depth
        rw [hlen, hleft]
        exact le_trans h.depth (by omega)
    case phase =>
      by_cases hone : s.obj.uNumNewResults = 1
      · refine .idle ?_ hfree ?_ hf ?_
        · simp only [Sys.passResult, hone, if_true]
        · rw [hleft, hone]
        · rw [hlen]
          exact hone ▸ hall
      · refine .passing ?_ hfree ?_ hf ?_ ?_ hcopy
        · simp only [Sys.passResult, hone, if_false, hst]
        · rw [hleft]
          omega
        · rw [hleft]
          omega
        · rw [hlen, hleft]
          exact (by omega : s.passed.length + 1 + (s.obj.uNumNewResults - 1) = s.readAt)

theorem Delivers.stateMachine_idle (h : Delivers s) (hst : s.obj.eState = .idle)
    (status : ETxnStatus) : Delivers (s.stateMachine status) := by
  cases h.phase with
  | onBus hbusy | done hbusy | passing hbusy | stuck hbusy => simp [hst] at hbusy
  | idle _ hfree hn hf hall =>
    cases status with
    | complete =>
      obtain ⟨hle, hdepth, hcopy⟩ := h.readTable hn
      simp only [Sys.stateMachine, hst]
      refine Counted.handleNewResults ?_ rfl hfree hn hf hle hdepth hcopy
      exact ⟨h.order, h.host, h.table, h.hostInFw, h.ahead, h.depth⟩
    | pending =>
      simp only [Sys.stateMachine, hst]
      exact ⟨⟨h.order, h.host, h.table, h.hostInFw, h.ahead, h.depth⟩, .onBus rfl rfl hn hf⟩
    | error =>
      simp only [Sys.stateMachine, hst]
      exact ⟨⟨h.order, h.host, h.table, h.hostInFw, h.ahead, h.depth⟩, .stuck rfl hfree hn rfl⟩

theorem Delivers.step {op : Op R} (h : Delivers s) (hd : s.WithinDepth op)
    (hs : s.step op = some s') : Delivers s' := by
  cases op with
  | fwResult r =>
    cases hs
    exact h.fwResult hd
  | dataIntr cntr status =>
    cases hs
    unfold txCmpltIntrCb
    split
    case isTrue => exact h
    case isFalse hidle =>
      split
      case isTrue => exact h
      case isFalse => exact h.stateMachine_idle (not_not.mp hidle) status
  | busRead ok =>
    simp only [Sys.step] at hs
    split at hs
    case isTrue => cases hs
    case isFalse hbus =>
      have hc : Counted s := h.toCounted
      cases h.phase with
      | idle _ hfree | passing _ hfree | stuck _ hfree => simp [hfree] at hbus
      | done _ hdone => simp [hdone] at hbus
      | onBus hst _ hn hf =>
        obtain ⟨hle, hdepth, hcopy⟩ := hc.readTable hn
        split at hs
        · cases hs
          exact ⟨⟨h.order, h.host, h.table, h.hostInFw, h.ahead, h.depth⟩,
            .done hst rfl hn hf ⟨hle, hdepth⟩ hcopy⟩
        · cases hs
          exact ⟨⟨h.order, h.host, h.table, h.hostInFw, h.ahead, h.depth⟩, .stuck hst rfl hn rfl⟩
  | readDone =>
    simp only [Sys.step] at hs
    split at hs
    case isTrue => cases hs
    case isFalse hdone =>
      cases h.phase with
      | idle _ hfree | passing _ hfree | stuck _ hfree => simp [hfree] at hdone
      | onBus _ hbus => simp [hbus] at hdone
      | done hst _ hn hf hle hcopy =>
        cases hs
        simp only [Sys.stateMachine, hst]
        refine Counted.handleNewResults ?_ rfl rfl hn hf hle.1 hle.2 hcopy
        exact ⟨h.order, h.host, h.table, h.hostInFw, h.ahead, h.depth⟩
  | passResult =>
    simp only [Sys.step] at hs
    split at hs
    case isTrue => cases hs
    case isFalse hn =>
      cases hs
      exact h.passResult hn
  | setHwInfo =>
    simp only [Sys.step] at hs
    split at hs
    · cases hs
      exact delivers_setHwInfo s
    · cases hs

/-! ## Back to IDLE -/

/-- The steps with which the bus and the driver finish a read that does not fail. -/
def Op.Finishes : Op R → Prop
  | .busRead ok => ok = true
  | .readDone => True
  | .passResult => True
  | _ => False

/-- What the read in progress finds, or has found. -/
def found (s : Sys R) : ℕ :=
  if s.obj.readTxn = .onBus then s.written.length else s.readAt

/-- From `s` the read in progress can be finished, with all that it finds passed. -/
def Returns (s : Sys R) : Prop :=
  ∃ own s', (∀ op ∈ own, Op.Finishes op) ∧ exec step s own = some s' ∧ s'.obj.eState = .idle ∧
    s'.written = s.written ∧ s'.passed = s.written.take s.found ∧ s'.readAt = s.found

theorem Delivers.caughtUp (h : Delivers s) (hst : s.obj.eState = .idle) :
    s.passed = s.written.take s.readAt := by
  cases h.phase with
  | onBus hbusy | done hbusy | passing hbusy | stuck hbusy => simp [hst] at hbusy
  | idle _ _ _ _ hall =>
    rw [← hall]
    exact List.prefix_iff_eq_take.mp h.order

theorem found_of_ne (h : s.obj.readTxn ≠ .onBus) : s.found = s.readAt := if_neg h

theorem returns_idle (h : Delivers s) (hst : s.obj.eState = .idle)
    (hbus : s.obj.readTxn ≠ .onBus) : Returns s := by
  refine ⟨[], s, by simp, rfl, hst, rfl, ?_, ?_⟩
  · rw [found_of_ne hbus]
    exact h.caughtUp hst
  · rw [found_of_ne hbus]

theorem Returns.cons {op : Op R} {t : Sys R} (h : Returns t) (hs : s.step op = some t)
    (hop : op.Finishes) (hw : t.written = s.written) (hfound : t.found = s.found) : Returns s := by
  obtain ⟨own, u, hown, hu, hidle, hwu, hp, hat⟩ := h
  refine ⟨op :: own, u, ?_, exec_cons.mpr ⟨t, hs, hu⟩, hidle, hwu.trans hw, ?_, hat.trans hfound⟩
  · simpa using ⟨hop, hown⟩
  · rw [hp, hw, hfound]

theorem returns_passing (n : ℕ) (h : Delivers s) (hn : s.obj.uNumNewResults = n + 1) :
    Returns s := by
  have hfree : s.obj.readTxn = .free := by
    cases h.phase with
    | idle _ hfree => exact hfree
    | onBus _ _ hzero => omega
    | done _ _ hzero => omega
    | passing _ hfree => exact hfree
    | stuck _ hfree => exact hfree
  have hs : s.step .passResult = some s.passResult := by simp [Sys.step, hn]
  have h' := h.passResult (by omega)
  have hfree' : s.passResult.obj.readTxn ≠ .onBus := by simp [Sys.passResult, hfree]
  have hfound : s.passResult.found = s.found := by
    rw [found_of_ne hfree', found_of_ne (by simp [hfree])]
    rfl
  induction n generalizing s with
  | zero => exact (returns_idle h' (by simp [Sys.passResult, hn]) hfree').cons hs trivial rfl hfound
  | succ n ih =>
    have hn' : s.passResult.obj.uNumNewResults = n + 1 := by simp [Sys.passResult, hn]
    have hfree2 : s.passResult.passResult.obj.readTxn ≠ .onBus := by simp [Sys.passResult, hfree]
    refine (ih h' hn' ?_ ?_ ?_ hfree2 ?_).cons hs trivial rfl hfound
    · simpa [Sys.passResult] using hfree
    · simp [Sys.step, hn']
    · exact h'.passResult (by omega)
    · rw [found_of_ne hfree2, found_of_ne hfree']
      rfl

theorem returns_done (h : Delivers s) (hst : s.obj.eState = .reading)
    (hdone : s.obj.readTxn = .done) : Returns s := by
  generalize ht : stateMachine { s with obj := { s.obj with readTxn := .free } } .complete = t
  have hs : s.step .readDone = some t := by simp [Sys.step, hdone, ht]
  have hdepth : s.WithinDepth .readDone := trivial
  have h' : Delivers t := h.step hdepth hs
  have hkeep : t.obj.readTxn = .free ∧ t.written = s.written ∧ t.readAt = s.readAt := by
    rw [← ht]
    simp only [Sys.stateMachine, hst, Sys.handleNewResults]
    split <;> exact ⟨rfl, rfl, rfl⟩
  have hbus : t.obj.readTxn ≠ .onBus := by simp [hkeep.1]
  refine Returns.cons ?_ hs trivial hkeep.2.1 ?_
  · cases hphase : t.obj.uNumNewResults with
    | succ n => exact returns_passing n h' hphase
    | zero =>
      refine returns_idle h' ?_ hbus
      rw [← ht] at hphase ⊢
      simp only [Sys.stateMachine, hst, Sys.handleNewResults] at hphase ⊢
      split at hphase
      case isTrue hz => rw [if_pos hz]
      case isFalse hz => exact absurd hphase hz
  · rw [found_of_ne hbus, found_of_ne (by simp [hdone]), hkeep.2.2]

/-- **Unless a read failed, the module's own steps lead from READING back to IDLE.** -/
theorem Delivers.returns (h : Delivers s) (hst : s.obj.eState = .reading)
    (hf : s.failed = false) : Returns s := by
  cases h.phase with
  | idle hidle => simp [hst] at hidle
  | stuck _ _ _ hfail => simp [hf] at hfail
  | done _ hdone => exact returns_done h hst hdone
  | passing _ _ hpos => exact returns_passing (s.obj.uNumNewResults - 1) h (by omega)
  | onBus _ hbus _ _ =>
    have hs : s.step (.busRead true) =
        some { s.readTable with obj := { s.readTable.obj with readTxn := .done } } := by
      simp [Sys.step, hbus]
    have hdepth : s.WithinDepth (.busRead true) := trivial
    have h' := h.step hdepth hs
    refine (returns_done h' hst rfl).cons hs rfl rfl ?_
    simp [found, hbus, Sys.readTable]

/-! ## After a failed read -/

theorem Delivers.stuck_step {op : Op R} (h : Delivers s) (hf : s.failed = true)
    (hno : op ≠ .setHwInfo) (hs : s.step op = some s') :
    s.obj.eState = .reading ∧ s'.failed = true ∧ s'.passed = s.passed := by
  cases h.phase with
  | idle _ _ _ hsound | onBus _ _ _ hsound | done _ _ _ hsound | passing _ _ _ hsound =>
    simp [hf] at hsound
  | stuck hst hfree hn _ =>
    cases op with
    | fwResult r =>
      cases hs
      exact ⟨hst, hf, rfl⟩
    | dataIntr cntr status =>
      cases hs
      simp [txCmpltIntrCb, hst, hf]
    | busRead ok | readDone => simp [Sys.step, hfree] at hs
    | passResult => simp [Sys.step, hn] at hs
    | setHwInfo => exact absurd rfl hno

/-- **A failed read leaves the module in READING, passing nothing, until it is restarted.** -/
theorem Delivers.stays_stuck {ops : List (Op R)} (h : Delivers s) (hf : s.failed = true)
    (hd : Along Sys.step WithinDepth s ops) (hno : Op.setHwInfo ∉ ops)
    (hs : exec Sys.step s ops = some s') : s'.obj.eState = .reading ∧ s'.passed = s.passed := by
  induction ops generalizing s with
  | nil =>
    cases hs
    cases h.phase with
    | idle _ _ _ hsound => simp [hf] at hsound
    | onBus hst | done hst | passing hst | stuck hst => exact ⟨hst, rfl⟩
  | cons op ops ih =>
    obtain ⟨t, ht, hs'⟩ := exec_cons.mp hs
    obtain ⟨hop, hno'⟩ : Op.setHwInfo ≠ op ∧ Op.setHwInfo ∉ ops := by simpa using hno
    obtain ⟨-, hft, hp⟩ := h.stuck_step hf hop.symm ht
    obtain ⟨hst, hp'⟩ := ih (h.step hd.1 ht) hft (hd.2 t ht) hno' hs'
    exact ⟨hst, hp'.trans hp⟩

/-! ## Runs -/

theorem txCmpltIntrCb_reads {cntr : UInt8} {status : ETxnStatus} (hst : s.obj.eState = .idle)
    (hnew : cntr.toNat ≠ s.obj.uHostResultsCounter % 2 ^ 8) (hok : status ≠ .error) :
    (s.txCmpltIntrCb cntr status).obj.readTxn = .onBus ∨
    (s.txCmpltIntrCb cntr status).readAt = s.written.length := by
  cases status with
  | error => exact absurd rfl hok
  | pending =>
    left
    simp only [txCmpltIntrCb, hst, hnew, ne_eq, not_true_eq_false, if_false, stateMachine]
  | complete =>
    right
    simp only [txCmpltIntrCb, hst, hnew, ne_eq, not_true_eq_false, if_false, stateMachine,
      handleNewResults]
    split <;> rfl

/-- What the module guarantees about TX results. -/
structure Delivery (s : Sys R) : Prop where
  /-- Results are passed once each, in the firmware's order, with none left out. -/
  inOrder : s.passed <+: s.written
  /-- In IDLE all results found by the last read are passed. -/
  caughtUp : s.obj.eState = .idle → s.passed = s.written.take s.readAt
  /-- An interrupt with new results in IDLE makes the module read. -/
  reads : s.obj.eState = .idle → ∀ cntr status, cntr.toNat ≠ s.obj.uHostResultsCounter % 2 ^ 8 →
    status ≠ .error → (s.txCmpltIntrCb cntr status).obj.readTxn = .onBus ∨
      (s.txCmpltIntrCb cntr status).readAt = s.written.length
  /-- A read that does not fail ends in IDLE. -/
  returns : s.obj.eState = .reading → s.failed = false → Returns s
  /-- A read that failed leaves the module in READING until it is restarted. -/
  stays : s.failed = true → ∀ ops s', Along step WithinDepth s ops → Op.setHwInfo ∉ ops →
    exec step s ops = some s' → s'.obj.eState = .reading ∧ s'.passed = s.passed
  restarts : ∀ s', s.step .setHwInfo = some s' → s'.obj.eState = .idle

/-- **TX result delivery**, for every run in which the firmware stays within the table's depth. -/
theorem results_delivered {table : Fin trqDepth → R} {ops : List (Op R)}
    (hd : Along step WithinDepth (start table) ops)
    (hs : exec step (start table) ops = some s) : Delivery s := by
  have h : Delivers s := Along.invariant (fun _ _ _ h hop hstep => h.step hop hstep)
    (delivers_setHwInfo _) hd hs
  constructor
  case inOrder => exact h.order
  case caughtUp => exact h.caughtUp
  case reads => exact fun hst cntr status hnew hok => txCmpltIntrCb_reads hst hnew hok
  case returns => exact h.returns
  case stays => exact fun hf ops s' hd hno hs => h.stays_stuck hf hd hno hs
  case restarts =>
    intro s' hstep
    simp only [step] at hstep
    split at hstep
    · cases hstep
      rfl
    · cases hstep

/-- Two results, of which the second is written while the first is being read. -/
def overtakenRun : List (Op ℕ) :=
  [.fwResult 7, .dataIntr 1 .pending, .busRead true, .fwResult 8, .dataIntr 2 .pending, .readDone,
    .passResult]

theorem results_delivered_overtakenRun :
    ∃ s, exec step (start fun _ => 0) overtakenRun = some s ∧ Delivery s ∧ s.passed = [7] := by
  have hd : Along step WithinDepth (start fun _ => 0) overtakenRun := by decide +kernel
  have hp : (exec step (start fun _ => 0) overtakenRun).map Sys.passed = some [7] := by
    decide +kernel
  obtain ⟨s, hs, hps⟩ := Option.map_eq_some_iff.mp hp
  exact ⟨s, hs, results_delivered hd hs, hps⟩

/-- The interrupt for the second result is ignored and the module is back in IDLE without it; and
after a read that fails it ignores interrupts. -/
theorem interrupt_ignored_while_reading :
    (∃ s, exec step (start fun _ => 0) overtakenRun = some s ∧ s.obj.eState = .idle ∧
      s.obj.readTxn = .free ∧ s.written = [7, 8] ∧ s.passed = [7]) ∧
    (∃ s, exec step (start fun _ => 0) [.fwResult 7, .dataIntr 1 .error] = some s ∧
      s.obj.eState = .reading ∧ ∀ cntr status, s.step (.dataIntr cntr status) = some s) := by
  constructor
  · have h : (exec step (start fun _ => 0) overtakenRun).map
        (fun s => (s.obj.eState, s.obj.readTxn, s.written, s.passed)) =
          some (.idle, .free, [7, 8], [7]) := by
      decide +kernel
    obtain ⟨s, hs, hfields⟩ := Option.map_eq_some_iff.mp h
    simp only [Prod.mk.injEq] at hfields
    exact ⟨s, hs, hfields⟩
  · exact ⟨_, rfl, rfl, fun _ _ => rfl⟩

end Sys

end ArchosGpl.Wlan.TxResult
