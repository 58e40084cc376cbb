import ArchosGpl.Lib.Trace
import ArchosGpl.Wlan.FwEvent.Model

/-!
# Firmware interrupts are serviced

**No interrupt is lost** as long as no status read fails: whenever nothing is outstanding, every
interrupt is followed by a status read (`Serviced.never_lost`). **Every status read is dispatched
once**, to the handlers whose bits are set and not masked, and the next read waits for all of them
(`Serviced.dispatched`, `Serviced.waits`). **The awake requests are released**: in the state IDLE
there are as many as releases, and one more for each read that failed in its call
(`Serviced.balanced`), since `fwEvent_Stop` leaves the release to the recovery.
-/

namespace ArchosGpl.Wlan.FwEvent

open Lib Sys

/-! ## What the trace says of a read -/

/-- The interrupt bit that calls the handler. -/
def Handler.bit : Handler → BitVec 32
  | .TWD_WdExpireEvent => ACX_INTR_WATCHDOG
  | .cmdMbox_CommandComplete => ACX_INTR_CMD_COMPLETE
  | .eventMbox_HandleA => ACX_INTR_EVENT_A
  | .eventMbox_HandleB => ACX_INTR_EVENT_B
  | .rxXfer_RxEvent => ACX_INTR_DATA
  | .txHwQueue_UpdateFreeResources => ACX_INTR_DATA
  | .txResult_TxCmpltIntrCb => ACX_INTR_DATA

/-- All handlers, each once, in the order of their calls. -/
def allHandlers : List Handler :=
  [.TWD_WdExpireEvent, .cmdMbox_CommandComplete, .eventMbox_HandleA, .eventMbox_HandleB,
    .rxXfer_RxEvent, .txHwQueue_UpdateFreeResources, .txResult_TxCmpltIntrCb]

/-- The handlers that a vector of interrupts calls. -/
def due (v : BitVec 32) : List Handler := allHandlers.filter fun h => v &&& h.bit ≠ 0

/-- The handlers that a status calls under a mask. -/
def dispatch (r : FwStatus_t × BitVec 32) : List (Handler × FwStatus_t) :=
  (due (r.1.intrStatus &&& r.2)).map fun h => (h, r.1)

def isRead (e : Event) : Bool := e = .readStart

/-- The statuses that were handled, with their masks. -/
def results (l : List Event) : List (FwStatus_t × BitVec 32) :=
  l.filterMap fun
    | .status tFwStatus uEventMask => some (tFwStatus, uEventMask)
    | _ => none

/-- The handlers that were called, with their statuses. -/
def calls (l : List Event) : List (Handler × FwStatus_t) :=
  l.filterMap fun
    | .handler h tFwStatus _ => some (h, tFwStatus)
    | _ => none

/-- How many handlers have returned `PENDING`. -/
def pends (l : List Event) : ℕ :=
  l.countP fun
    | .handler _ _ .pending => true
    | _ => false

/-- How many handlers have completed after that. -/
def completions (l : List Event) : ℕ := l.count .completed

theorem results_append (l m : List Event) : results (l ++ m) = results l ++ results m :=
  List.filterMap_append

theorem calls_append (l m : List Event) : calls (l ++ m) = calls l ++ calls m :=
  List.filterMap_append

theorem pends_append (l m : List Event) : pends (l ++ m) = pends l + pends m :=
  List.countP_append

theorem completions_append (l m : List Event) :
    completions (l ++ m) = completions l + completions m :=
  List.count_append

/-- Every event after a status is one of its handlers' calls. -/
def handlerEvents (env : Env) (n : ℕ) (tFwStatus : FwStatus_t) (hs : List Handler) : List Event :=
  hs.map fun h => .handler h tFwStatus (env.handler n h)

theorem results_handlerEvents (env : Env) (n : ℕ) (st : FwStatus_t) (hs : List Handler) :
    results (handlerEvents env n st hs) = [] := by
  induction hs with
  | nil => rfl
  | cons h hs ih => exact ih

theorem calls_handlerEvents (env : Env) (n : ℕ) (st : FwStatus_t) (hs : List Handler) :
    calls (handlerEvents env n st hs) = hs.map fun h => (h, st) := by
  induction hs with
  | nil => rfl
  | cons h hs ih => exact congrArg (List.cons (h, st)) ih

theorem completions_handlerEvents (env : Env) (n : ℕ) (st : FwStatus_t) (hs : List Handler) :
    completions (handlerEvents env n st hs) = 0 := by
  induction hs with
  | nil => rfl
  | cons h hs ih => exact (List.count_cons_of_ne (by rintro ⟨⟩)).trans ih

theorem not_mem_handlerEvents {env : Env} {n : ℕ} {st : FwStatus_t} {hs : List Handler} {e : Event}
    (he : e ∈ handlerEvents env n st hs) : ∃ h r, e = .handler h st r := by
  obtain ⟨h, -, rfl⟩ := List.mem_map.mp he
  exact ⟨h, _, rfl⟩

/-! ## The handlers' loop -/

/-- How many of the handlers return `PENDING`. -/
def pendsOf (env : Env) (n : ℕ) (hs : List Handler) : ℕ :=
  hs.countP fun h => env.handler n h = .pending

theorem pends_handlerEvents (env : Env) (n : ℕ) (st : FwStatus_t) (hs : List Handler) :
    pends (handlerEvents env n st hs) = pendsOf env n hs := by
  unfold pends handlerEvents pendsOf
  rw [List.countP_map]
  refine List.countP_congr fun h _ => ?_
  cases hr : env.handler n h <;> simp [hr]

def afterCalls (env : Env) (n : ℕ) (hs : List Handler) (s : Sys) : Sys :=
  { s with
    fw := { s.fw with uNumPendHndlrs := s.fw.uNumPendHndlrs + pendsOf env n hs }
    handlers := s.handlers + pendsOf env n hs
    log := s.log ++ handlerEvents env n s.fw.tFwStatus hs }

theorem foldl_callHandler (env : Env) (n : ℕ) (hs : List Handler) (s : Sys) :
    hs.foldl (callHandler env n) s = afterCalls env n hs s := by
  induction hs generalizing s with
  | nil => exact (by simp [afterCalls, pendsOf, handlerEvents] : s = afterCalls env n [] s)
  | cons h hs ih =>
    rw [List.foldl_cons, ih]
    unfold afterCalls callHandler
    by_cases hp : env.handler n h = .pending
    · simp only [hp, pendsOf, handlerEvents, List.countP_cons, List.map_cons, decide_true, if_true,
        seen_fw, seen_readPending, seen_handlers, seen_log, List.append_assoc, List.singleton_append,
        Nat.add_assoc, Nat.add_comm 1]
    · simp [hp, pendsOf, handlerEvents]

theorem afterCalls_afterCalls (env : Env) (n : ℕ) (hs hs' : List Handler) (s : Sys) :
    afterCalls env n hs' (afterCalls env n hs s) = afterCalls env n (hs ++ hs') s := by
  rw [← foldl_callHandler, ← foldl_callHandler, ← foldl_callHandler, List.foldl_append]

theorem callIf_eq (env : Env) (n : ℕ) (bit : BitVec 32) (hs : List Handler) (s : Sys) :
    callIf env n bit hs s =
      afterCalls env n (hs.filter fun _ => s.fw.uEventVector &&& bit ≠ 0) s := by
  unfold callIf
  by_cases h : s.fw.uEventVector &&& bit = 0
  · rw [if_neg (not_not.mpr h), List.filter_eq_nil_iff.mpr fun _ _ => by simpa using h]
    exact foldl_callHandler env n [] s
  · rw [if_pos h, List.filter_eq_self.mpr fun _ _ => by simpa using h]
    exact foldl_callHandler env n hs s

theorem due_eq (v : BitVec 32) : due v =
    ([.TWD_WdExpireEvent] : List Handler).filter (fun _ => v &&& ACX_INTR_WATCHDOG ≠ 0) ++
      ([.cmdMbox_CommandComplete] : List Handler).filter
        (fun _ => v &&& ACX_INTR_CMD_COMPLETE ≠ 0) ++
      ([.eventMbox_HandleA] : List Handler).filter (fun _ => v &&& ACX_INTR_EVENT_A ≠ 0) ++
      ([.eventMbox_HandleB] : List Handler).filter (fun _ => v &&& ACX_INTR_EVENT_B ≠ 0) ++
      ([.rxXfer_RxEvent, .txHwQueue_UpdateFreeResources, .txResult_TxCmpltIntrCb] :
        List Handler).filter (fun _ => v &&& ACX_INTR_DATA ≠ 0) := by
  have hbit : ∀ hs : List Handler, ∀ bit, (∀ h ∈ hs, h.bit = bit) →
      hs.filter (fun h => v &&& h.bit ≠ 0) = hs.filter fun _ => v &&& bit ≠ 0 := by
    intro hs bit hb
    exact List.filter_congr fun h hh => by rw [hb h hh]
  rw [← hbit _ _ (by simp [Handler.bit]), ← hbit _ _ (by simp [Handler.bit]),
    ← hbit _ _ (by simp [Handler.bit]), ← hbit _ _ (by simp [Handler.bit]),
    ← hbit _ _ (by simp [Handler.bit])]
  rw [← List.filter_append, ← List.filter_append, ← List.filter_append, ← List.filter_append]
  rfl

theorem fwEvent_CallHandlers_eq (env : Env) (n : ℕ) (s : Sys) :
    (fwEvent_CallHandlers env n s).1 =
      afterCalls env n (due s.fw.uEventVector) { s with fw := { s.fw with uNumPendHndlrs := 0 } } := by
  have hv : ∀ hs s, (afterCalls env n hs s).fw.uEventVector = s.fw.uEventVector := fun _ _ => rfl
  unfold fwEvent_CallHandlers
  simp only [callIf_eq, hv, afterCalls_afterCalls, due_eq]

theorem fwEvent_CallHandlers_status (env : Env) (n : ℕ) (s : Sys) :
    (fwEvent_CallHandlers env n s).2 =
      if pendsOf env n (due s.fw.uEventVector) = 0 then .complete else .pending := by
  have h : (fwEvent_CallHandlers env n s).2 =
      if (fwEvent_CallHandlers env n s).1.fw.uNumPendHndlrs = 0 then .complete else .pending := rfl
  rw [h, fwEvent_CallHandlers_eq]
  simp only [afterCalls, Nat.zero_add]

/-! ## The invariant -/

/-- The events since the last read was started. -/
def Sys.pass (s : Sys) : List Event := since isRead s.log

/-- The last read has an end: its status was handled, or it failed. -/
def Ended (l : List Event) : Prop :=
  .readStart ∈ l → (results (since isRead l)).length = 1 ∨ .readFailed ∈ since isRead l

/-- What the trace is before a read is started: the read before it has ended, all handlers of its
status were called, and all that were pending have completed. -/
structure Settled (l : List Event) : Prop where
  ended : Ended l
  one : (results (since isRead l)).length ≤ 1
  called : calls (since isRead l) = (results (since isRead l)).flatMap dispatch
  completed : pends (since isRead l) = completions (since isRead l)

/-- Every interrupt is followed by a read, or by the end of a failing one. -/
def AllServed (l : List Event) : Prop :=
  Answered (· = .newEvent) (fun e => e = .readStart ∨ e = .readFailed) l

/-- The awake requests that are not released, but for those of failed reads. -/
def AwakeBy (k : ℕ) (l : List Event) : Prop :=
  l.count .twIf_Awake = l.count .twIf_Sleep + l.count .readFailed + k

/-- What holds in every state, also between two turns of the loop. -/
structure Good (s : Sys) : Prop where
  past : Before (· = .readStart) Settled s.log
  one : (results s.pass).length ≤ 1
  called : calls s.pass = (results s.pass).flatMap dispatch
  pending : pends s.pass = completions s.pass + s.handlers

/-- What holds before a turn of the loop, by the state of the machine. -/
def Top (s : Sys) : Prop :=
  s.readPending = false ∧ s.handlers = 0 ∧
    match s.fw.eSmState with
    | .idle => s.fw.bIntrPending = false ∧ Ended s.log ∧ AwakeBy 0 s.log
    | .waitIntrInfo =>
      results s.pass = [] ∧ AwakeBy 1 s.log ∧ (AllServed s.log ∨ s.fw.bIntrPending = true)
    | .waitHandleComplt =>
      s.fw.uNumPendHndlrs = 0 ∧ Ended s.log ∧ AwakeBy 1 s.log ∧
        (AllServed s.log ∨ s.fw.bIntrPending = true)

/-- What holds between two calls, by the state of the machine. -/
def Rest (s : Sys) : Prop :=
  match s.fw.eSmState with
  | .idle =>
    s.readPending = false ∧ s.handlers = 0 ∧ s.fw.bIntrPending = false ∧ Ended s.log ∧
      AwakeBy 0 s.log ∧ AllServed s.log
  | .waitIntrInfo =>
    (s.readPending = true ∨ .readLost ∈ s.log) ∧ s.handlers = 0 ∧ results s.pass = [] ∧
      AwakeBy 1 s.log ∧ (AllServed s.log ∨ s.fw.bIntrPending = true)
  | .waitHandleComplt =>
    s.readPending = false ∧ s.handlers = s.fw.uNumPendHndlrs ∧ 0 < s.fw.uNumPendHndlrs ∧
      Ended s.log ∧ AwakeBy 1 s.log ∧ (AllServed s.log ∨ s.fw.bIntrPending = true)

/-! ### One more event -/

/-- Events that say nothing about a read and its handlers. -/
def Silent (e : Event) : Prop :=
  e = .newEvent ∨ e = .twIf_Awake ∨ e = .twIf_Sleep ∨ e = .twIf_HwAvailable ∨ e = .readLost

theorem Silent.not_read {e : Event} (he : Silent e) : isRead e = false := by
  rcases he with rfl | rfl | rfl | rfl | rfl <;> rfl

theorem Silent.results {e : Event} (he : Silent e) (l : List Event) :
    results (l ++ [e]) = results l := by
  rw [results_append]
  rcases he with rfl | rfl | rfl | rfl | rfl <;> exact List.append_nil _

theorem Silent.calls {e : Event} (he : Silent e) (l : List Event) : calls (l ++ [e]) = calls l := by
  rw [calls_append]
  rcases he with rfl | rfl | rfl | rfl | rfl <;> exact List.append_nil _

theorem Silent.pends {e : Event} (he : Silent e) (l : List Event) : pends (l ++ [e]) = pends l := by
  rw [pends_append]
  rcases he with rfl | rfl | rfl | rfl | rfl <;> rfl

theorem Silent.completions {e : Event} (he : Silent e) (l : List Event) :
    completions (l ++ [e]) = completions l := by
  rw [completions_append]
  rcases he with rfl | rfl | rfl | rfl | rfl <;> rfl

theorem Ended.silent {l : List Event} {e : Event} (h : Ended l) (he : Silent e) :
    Ended (l ++ [e]) := by
  unfold Ended
  rw [since_snoc_of_other he.not_read, he.results]
  intro hm
  have hmem : .readStart ∈ l := by
    rcases List.mem_append.mp hm with hl | hl
    · exact hl
    · obtain rfl := List.mem_singleton.mp hl
      exact absurd he.not_read (by rintro ⟨⟩)
  exact (h hmem).imp id (List.mem_append_left _)

theorem Good.silent {s t : Sys} {e : Event} (h : Good s) (he : Silent e)
    (hl : t.log = s.log ++ [e]) (hh : t.handlers = s.handlers) : Good t := by
  have hpass : t.pass = s.pass ++ [e] := by
    unfold Sys.pass
    rw [hl, since_snoc_of_other he.not_read]
  constructor
  · rw [hl]
    refine h.past.snoc ?_
    rintro rfl
    exact absurd he.not_read (by rintro ⟨⟩)
  · rw [hpass, he.results]
    exact h.one
  · rw [hpass, he.results, he.calls]
    exact h.called
  · rw [hpass, he.pends, he.completions, hh]
    exact h.pending

theorem Good.settled {s : Sys} (h : Good s) (hh : s.handlers = 0) (he : Ended s.log) :
    Settled s.log :=
  ⟨he, h.one, h.called, by have := h.pending; rw [hh] at this; exact this⟩

theorem Good.readStart {s t : Sys} (h : Good s) (hs : Settled s.log)
    (hl : t.log = s.log ++ [.readStart]) (hh : t.handlers = 0) : Good t ∧ t.pass = [] := by
  have hpass : t.pass = [] := by
    unfold Sys.pass
    rw [hl, since_snoc_of_mark rfl]
  refine ⟨⟨?_, ?_, ?_, ?_⟩, hpass⟩
  · rw [hl]
    exact h.past.snoc fun _ => hs
  · rw [hpass]
    exact Nat.zero_le 1
  · rw [hpass]
    rfl
  · rw [hpass, hh]
    rfl

theorem AllServed.silent {l : List Event} {e : Event} (h : AllServed l) (he : e ≠ .newEvent) :
    AllServed (l ++ [e]) :=
  Answered.snoc h he

theorem AwakeBy.other {k : ℕ} {l : List Event} {e : Event} (h : AwakeBy k l)
    (ha : e ≠ .twIf_Awake) (hs : e ≠ .twIf_Sleep) (hf : e ≠ .readFailed) :
    AwakeBy k (l ++ [e]) := by
  unfold AwakeBy at h ⊢
  rw [List.count_append, List.count_append, List.count_append, List.count_singleton,
    List.count_singleton, List.count_singleton, if_neg (by simpa using ha),
    if_neg (by simpa using hs), if_neg (by simpa using hf)]
  exact h

theorem Good.congr {s t : Sys} (h : Good s) (hl : t.log = s.log) (hh : t.handlers = s.handlers) :
    Good t := by
  have hpass : t.pass = s.pass := congrArg (since isRead) hl
  exact ⟨hl ▸ h.past, hpass ▸ h.one, hpass ▸ h.called, by rw [hpass, hh]; exact h.pending⟩

/-! ### One turn of the loop -/

def Turned (r : Sys × Bool) : Prop := Good r.1 ∧ if r.2 then Top r.1 else Rest r.1

theorem Good.read_turn {s : Sys} (h : Good s) (env : Env) (n : ℕ) (hr : s.readPending = false)
    (hh : s.handlers = 0) (he : Ended s.log) (ha : AwakeBy 1 s.log) :
    Turned (checkStatus ((s.fwEvent_SmReadIntrInfo env n).1.setState .waitIntrInfo)
      (s.fwEvent_SmReadIntrInfo env n).2) := by
  have hsil : Silent .twIf_HwAvailable := Or.inr (Or.inr (Or.inr (Or.inl rfl)))
  have h₁ : Good (s.seen .twIf_HwAvailable) := h.silent hsil rfl rfl
  obtain ⟨h₂, hpass⟩ := h₁.readStart (t := (s.seen .twIf_HwAvailable).seen .readStart)
    (h₁.settled hh (he.silent hsil)) rfl hh
  have ha₂ : AwakeBy 1 ((s.seen .twIf_HwAvailable).seen .readStart).log :=
    (ha.other (by rintro ⟨⟩) (by rintro ⟨⟩) (by rintro ⟨⟩)).other (by rintro ⟨⟩) (by rintro ⟨⟩)
      (by rintro ⟨⟩)
  have hserved : AllServed ((s.seen .twIf_HwAvailable).seen .readStart).log :=
    Answered.of_answer (Or.inl rfl) (by rintro ⟨⟩)
  unfold fwEvent_SmReadIntrInfo
  cases env.read n with
  | complete st =>
    refine ⟨h₂.congr rfl rfl, ?_⟩
    exact ⟨hr, hh, congrArg results hpass, ha₂, Or.inl hserved⟩
  | pending =>
    refine ⟨h₂.congr rfl rfl, ?_⟩
    exact ⟨Or.inl rfl, hh, congrArg results hpass, ha₂, Or.inl hserved⟩
  | error =>
    have hfailed : since isRead (((s.seen .twIf_HwAvailable).seen .readStart).log ++
        [.readFailed]) = [.readFailed] := by
      rw [since_snoc_of_other rfl]
      exact congrArg (· ++ [Event.readFailed]) hpass
    refine ⟨⟨?_, ?_, ?_, ?_⟩, hr, hh, rfl, ?_, ?_, ?_⟩
    · exact h₂.past.snoc (by rintro ⟨⟩)
    · exact Nat.le_trans (Nat.le_of_eq (congrArg (fun l => (results l).length) hfailed))
        (Nat.zero_le 1)
    · exact (congrArg calls hfailed).trans
        (congrArg (fun l => (results l).flatMap dispatch) hfailed).symm
    · exact (congrArg pends hfailed).trans
        (congrArg₂ (fun l k => completions l + k) hfailed hh).symm
    · intro _
      refine Or.inr ?_
      change Event.readFailed ∈ since isRead (_ ++ [Event.readFailed])
      rw [hfailed]
      exact List.mem_singleton_self _
    · change AwakeBy 0 (((s.seen .twIf_HwAvailable).seen .readStart).log ++ [.readFailed])
      unfold AwakeBy at ha₂ ⊢
      have hawake : [Event.readFailed].count .twIf_Awake = 0 := rfl
      have hsleep : [Event.readFailed].count .twIf_Sleep = 0 := rfl
      have hfail : [Event.readFailed].count .readFailed = 1 := rfl
      rw [List.count_append, List.count_append, List.count_append, hawake, hsleep, hfail]
      omega
    · exact Answered.of_answer (Or.inr rfl) (by rintro ⟨⟩)

def afterStatus (env : Env) (n : ℕ) (s : Sys) : Sys :=
  afterCalls env n (due (s.fw.tFwStatus.intrStatus &&& s.fw.uEventMask))
    { s.seen (.status s.fw.tFwStatus s.fw.uEventMask) with fw := { s.fw with
      uFwTimeOffset := env.timeStampMs n * 1000#32 - s.fw.tFwStatus.fwLocalTime
      uEventVector := s.fw.tFwStatus.intrStatus &&& s.fw.uEventMask
      uNumPendHndlrs := 0 } }

theorem fwEvent_SmHandleEvents_eq (env : Env) (n : ℕ) (s : Sys) :
    s.fwEvent_SmHandleEvents env n = (afterStatus env n s,
      if (afterStatus env n s).fw.uNumPendHndlrs = 0 then .complete else .pending) := by
  refine Prod.ext (fwEvent_CallHandlers_eq env n _) ((fwEvent_CallHandlers_status env n _).trans ?_)
  unfold afterStatus afterCalls
  rw [Nat.zero_add]
  rfl

def statusEvents (env : Env) (n : ℕ) (s : Sys) : List Event :=
  .status s.fw.tFwStatus s.fw.uEventMask :: handlerEvents env n s.fw.tFwStatus
    (due (s.fw.tFwStatus.intrStatus &&& s.fw.uEventMask))

theorem afterStatus_log (env : Env) (n : ℕ) (s : Sys) :
    (afterStatus env n s).log = s.log ++ statusEvents env n s := by
  unfold afterStatus afterCalls statusEvents
  rw [← List.singleton_append, ← List.append_assoc]
  rfl

theorem mem_statusEvents {env : Env} {n : ℕ} {s : Sys} {e : Event}
    (he : e ∈ statusEvents env n s) :
    (∃ st m, e = .status st m) ∨ ∃ h st r, e = .handler h st r := by
  rcases List.mem_cons.mp he with rfl | he
  · exact Or.inl ⟨_, _, rfl⟩
  · obtain ⟨h, r, rfl⟩ := not_mem_handlerEvents he
    exact Or.inr ⟨h, _, r, rfl⟩

theorem not_mem_statusEvents {env : Env} {n : ℕ} {s : Sys} {e : Event}
    (hs : ∀ st m, e ≠ .status st m) (hh : ∀ h st r, e ≠ .handler h st r) :
    e ∉ statusEvents env n s := by
  intro he
  rcases mem_statusEvents he with ⟨st, m, h⟩ | ⟨h', st, r, h⟩
  · exact hs st m h
  · exact hh h' st r h

theorem afterStatus_pass (env : Env) (n : ℕ) (s : Sys) :
    (afterStatus env n s).pass = s.pass ++ statusEvents env n s := by
  unfold Sys.pass
  rw [afterStatus_log, since_append]
  intro e he
  rcases mem_statusEvents he with ⟨st, m, rfl⟩ | ⟨h, st, r, rfl⟩ <;> rfl

theorem Good.handled {s : Sys} (h : Good s) (env : Env) (n : ℕ) (hh : s.handlers = 0)
    (hres : results s.pass = []) :
    Good (afterStatus env n s) ∧ (results (afterStatus env n s).pass).length = 1 := by
  have hcalls : calls s.pass = [] := h.called.trans (congrArg (List.flatMap dispatch) hres)
  have hpends : pends s.pass = completions s.pass := by
    have := h.pending
    rwa [hh] at this
  have hresults : results (afterStatus env n s).pass =
      [(s.fw.tFwStatus, s.fw.uEventMask)] := by
    rw [afterStatus_pass, results_append, hres, List.nil_append, statusEvents,
      ← List.singleton_append, results_append, results_handlerEvents]
    rfl
  refine ⟨⟨?_, ?_, ?_, ?_⟩, congrArg List.length hresults⟩
  · rw [afterStatus_log]
    refine h.past.append fun e he => ?_
    rintro rfl
    exact not_mem_statusEvents (by rintro _ _ ⟨⟩) (by rintro _ _ _ ⟨⟩) he
  · exact Nat.le_of_eq (congrArg List.length hresults)
  · rw [hresults, afterStatus_pass, calls_append, hcalls, List.nil_append, statusEvents,
      ← List.singleton_append, calls_append, calls_handlerEvents, List.flatMap_singleton]
    rfl
  · have hhandlers : (afterStatus env n s).handlers =
        pendsOf env n (due (s.fw.tFwStatus.intrStatus &&& s.fw.uEventMask)) := by
      change s.handlers + _ = _
      rw [hh, Nat.zero_add]
    rw [afterStatus_pass, pends_append, completions_append, statusEvents, ← List.singleton_append,
      pends_append, completions_append, pends_handlerEvents, completions_handlerEvents, hhandlers,
      hpends]
    exact congrArg (completions s.pass + ·) (Nat.zero_add _)

theorem AwakeBy.append {k : ℕ} {l q : List Event} (h : AwakeBy k l) (ha : .twIf_Awake ∉ q)
    (hs : .twIf_Sleep ∉ q) (hf : .readFailed ∉ q) : AwakeBy k (l ++ q) := by
  unfold AwakeBy at h ⊢
  rw [List.count_append, List.count_append, List.count_append, List.count_eq_zero_of_not_mem ha,
    List.count_eq_zero_of_not_mem hs, List.count_eq_zero_of_not_mem hf]
  exact h

theorem Good.handle_turn {s : Sys} (h : Good s) (env : Env) (n : ℕ) (hr : s.readPending = false)
    (hh : s.handlers = 0) (hs : s.fw.eSmState = .waitIntrInfo) (hres : results s.pass = [])
    (ha : AwakeBy 1 s.log) (hv : AllServed s.log ∨ s.fw.bIntrPending = true) :
    Turned (smTurn env n s) := by
  obtain ⟨hg, hone⟩ := h.handled env n hh hres
  have hended : Ended (afterStatus env n s).log := fun _ => Or.inl hone
  have hawake : AwakeBy 1 (afterStatus env n s).log := by
    rw [afterStatus_log]
    refine ha.append ?_ ?_ ?_ <;>
      exact not_mem_statusEvents (by rintro _ _ ⟨⟩) (by rintro _ _ _ ⟨⟩)
  have hserved : AllServed (afterStatus env n s).log ∨ s.fw.bIntrPending = true := by
    refine hv.imp (fun hv => ?_) id
    rw [afterStatus_log]
    refine hv.append fun e he => ?_
    rintro rfl
    exact not_mem_statusEvents (by rintro _ _ ⟨⟩) (by rintro _ _ _ ⟨⟩) he
  have hhandlers : (afterStatus env n s).handlers =
      (afterStatus env n s).fw.uNumPendHndlrs := by
    change s.handlers + _ = 0 + _
    rw [hh]
  have hstate : ¬ (afterStatus env n s).fw.eSmState = .idle := by
    change ¬ s.fw.eSmState = .idle
    rw [hs]
    rintro ⟨⟩
  unfold smTurn
  rw [hs]
  simp only [fwEvent_SmHandleEvents_eq, if_neg hstate]
  by_cases hk : (afterStatus env n s).fw.uNumPendHndlrs = 0
  · rw [if_pos hk]
    exact ⟨hg.congr rfl rfl, hr, hhandlers.trans hk, hk, hended, hawake, hserved⟩
  · rw [if_neg hk]
    exact ⟨hg.congr rfl rfl, hr, hhandlers, Nat.pos_of_ne_zero hk, hended, hawake, hserved⟩

theorem Good.sleep_turn {s : Sys} (h : Good s) (hr : s.readPending = false) (hh : s.handlers = 0)
    (hp : s.fw.bIntrPending = false) (he : Ended s.log) (ha : AwakeBy 1 s.log)
    (hv : AllServed s.log) : Turned ((s.seen .twIf_Sleep).setState .idle, false) := by
  have hsil : Silent .twIf_Sleep := Or.inr (Or.inr (Or.inl rfl))
  refine ⟨h.silent hsil rfl rfl, hr, hh, hp, he.silent hsil, ?_, hv.silent (by rintro ⟨⟩)⟩
  change AwakeBy 0 (s.log ++ [.twIf_Sleep])
  have hawake : [Event.twIf_Sleep].count .twIf_Awake = 0 := rfl
  have hsleep : [Event.twIf_Sleep].count .twIf_Sleep = 1 := rfl
  have hfail : [Event.twIf_Sleep].count .readFailed = 0 := rfl
  unfold AwakeBy at ha ⊢
  rw [List.count_append, List.count_append, List.count_append, hawake, hsleep, hfail]
  omega

theorem AwakeBy.awake {l : List Event} (h : AwakeBy 0 l) : AwakeBy 1 (l ++ [.twIf_Awake]) := by
  have hawake : [Event.twIf_Awake].count .twIf_Awake = 1 := rfl
  have hsleep : [Event.twIf_Awake].count .twIf_Sleep = 0 := rfl
  have hfail : [Event.twIf_Awake].count .readFailed = 0 := rfl
  unfold AwakeBy at h ⊢
  rw [List.count_append, List.count_append, List.count_append, hawake, hsleep, hfail]
  omega

theorem Good.turn {s : Sys} (h : Good s) (ht : Top s) (env : Env) (n : ℕ) :
    Turned (smTurn env n s) := by
  obtain ⟨hr, hh, hstate⟩ := ht
  cases hs : s.fw.eSmState with
  | idle =>
    rw [hs] at hstate
    obtain ⟨-, he, ha⟩ := hstate
    have hsil : Silent .twIf_Awake := Or.inr (Or.inl rfl)
    unfold smTurn
    rw [hs]
    exact (h.silent hsil (t := s.seen .twIf_Awake) rfl rfl).read_turn env n hr hh (he.silent hsil)
      ha.awake
  | waitIntrInfo =>
    rw [hs] at hstate
    obtain ⟨hres, ha, hv⟩ := hstate
    exact h.handle_turn env n hr hh hs hres ha hv
  | waitHandleComplt =>
    rw [hs] at hstate
    obtain ⟨-, he, ha, hv⟩ := hstate
    unfold smTurn
    rw [hs]
    cases hp : s.fw.bIntrPending with
    | true =>
      exact (h.congr (t := { s with fw := { s.fw with bIntrPending := false } }) rfl rfl).read_turn
        env n hr hh he ha
    | false =>
      rw [hp] at hv
      exact h.sleep_turn hr hh hp he ha (hv.resolve_right Bool.false_ne_true)

/-! ### The loop and the calls -/

theorem Good.loop {env : Env} {turns n : ℕ} {s t : Sys} (h : Good s) (ht : Top s)
    (he : smLoop env turns n s = some t) : Good t ∧ Rest t := by
  induction turns generalizing n s with
  | zero => cases he
  | succ turns ih =>
    obtain ⟨hg, hr⟩ := h.turn ht env n
    unfold smLoop at he
    cases hc : (smTurn env n s).2 with
    | true =>
      simp only [hc, if_true] at he hr
      exact ih hg hr he
    | false =>
      simp only [hc, Bool.false_eq_true, if_false] at he hr
      cases he
      exact ⟨hg, hr⟩

/-- How many turns are left at most. -/
def turnsLeft (s : Sys) : ℕ :=
  (if s.fw.bIntrPending then 2 else 0) +
    match s.fw.eSmState with
    | .idle => 3
    | .waitIntrInfo => 2
    | .waitHandleComplt => 1

theorem turnsLeft_read {env : Env} {n : ℕ} {s : Sys}
    (h : (checkStatus ((s.fwEvent_SmReadIntrInfo env n).1.setState .waitIntrInfo)
      (s.fwEvent_SmReadIntrInfo env n).2).2 = true) :
    turnsLeft (checkStatus ((s.fwEvent_SmReadIntrInfo env n).1.setState .waitIntrInfo)
      (s.fwEvent_SmReadIntrInfo env n).2).1 = (if s.fw.bIntrPending then 2 else 0) + 2 := by
  unfold fwEvent_SmReadIntrInfo at h ⊢
  cases hr : env.read n with
  | complete st => rfl
  | pending =>
    rw [hr] at h
    cases h
  | error =>
    rw [hr] at h
    cases h

theorem turnsLeft_smTurn {env : Env} {n : ℕ} {s : Sys} (h : (smTurn env n s).2 = true) :
    turnsLeft (smTurn env n s).1 < turnsLeft s := by
  cases hs : s.fw.eSmState with
  | idle =>
    have hleft : turnsLeft s = (if s.fw.bIntrPending then 2 else 0) + 3 := by
      unfold turnsLeft
      rw [hs]
    unfold smTurn at h ⊢
    rw [hs] at h ⊢
    have := turnsLeft_read h
    rw [hleft, this]
    exact Nat.lt_succ_self _
  | waitIntrInfo =>
    have hleft : turnsLeft s = (if s.fw.bIntrPending then 2 else 0) + 2 := by
      unfold turnsLeft
      rw [hs]
    have hstate : ¬ (afterStatus env n s).fw.eSmState = .idle := by
      change ¬ s.fw.eSmState = .idle
      rw [hs]
      rintro ⟨⟩
    unfold smTurn at h ⊢
    rw [hs] at h ⊢
    simp only [fwEvent_SmHandleEvents_eq, if_neg hstate] at h ⊢
    by_cases hk : (afterStatus env n s).fw.uNumPendHndlrs = 0
    · rw [if_pos hk, hleft]
      exact Nat.lt_succ_self _
    · rw [if_neg hk] at h
      cases h
  | waitHandleComplt =>
    unfold smTurn at h ⊢
    rw [hs] at h ⊢
    cases hp : s.fw.bIntrPending with
    | true =>
      rw [hp] at h
      have hleft : turnsLeft s = 3 := by
        unfold turnsLeft
        rw [hs, hp]
        rfl
      have := turnsLeft_read (s := { s with fw := { s.fw with bIntrPending := false } }) h
      rw [hleft]
      exact Nat.lt_of_le_of_lt (Nat.le_of_eq this) (Nat.lt_succ_self 2)
    | false =>
      rw [hp] at h
      cases h

theorem smLoop_returns {env : Env} {turns n : ℕ} {s : Sys} (h : turnsLeft s ≤ turns) :
    ∃ t, smLoop env turns n s = some t := by
  induction turns generalizing n s with
  | zero =>
    have : 0 < turnsLeft s := by
      unfold turnsLeft
      cases s.fw.eSmState <;> exact Nat.succ_pos _
    omega
  | succ turns ih =>
    unfold smLoop
    cases hc : (smTurn env n s).2 with
    | true =>
      have := turnsLeft_smTurn hc
      simp only [hc, if_true]
      exact ih (by omega)
    | false => exact ⟨(smTurn env n s).1, by simp only [hc, Bool.false_eq_true, if_false]⟩

theorem stateMachine_returns (env : Env) (s : Sys) : ∃ t, s.fwEvent_StateMachine env = some t := by
  refine smLoop_returns ?_
  unfold turnsLeft
  cases s.fw.bIntrPending <;> cases s.fw.eSmState <;> exact by decide

/-! ### The calls -/

theorem fwEvent_NewEvent_cases {env : Env} {s t : Sys} (h : s.fwEvent_NewEvent env = some t) :
    (s.fw.eSmState = .idle ∧ (s.seen .newEvent).fwEvent_StateMachine env = some t) ∨
      (s.fw.eSmState ≠ .idle ∧
        t = { s.seen .newEvent with fw := { s.fw with bIntrPending := true } }) := by
  change (if s.fw.eSmState = .idle then _ else some _) = some t at h
  by_cases hs : s.fw.eSmState = .idle
  · rw [if_pos hs] at h
    exact Or.inl ⟨hs, h⟩
  · rw [if_neg hs] at h
    exact Or.inr ⟨hs, (Option.some.inj h).symm⟩

theorem Good.newEvent {env : Env} {s t : Sys} (h : Good s) (hr : Rest s)
    (he : s.fwEvent_NewEvent env = some t) : Good t ∧ Rest t := by
  have hsil : Silent .newEvent := Or.inl rfl
  have hg : Good (s.seen .newEvent) := h.silent hsil rfl rfl
  have hawake : ∀ {k}, AwakeBy k s.log → AwakeBy k (s.log ++ [.newEvent]) := fun ha =>
    ha.other (by rintro ⟨⟩) (by rintro ⟨⟩) (by rintro ⟨⟩)
  unfold Rest at hr
  rcases fwEvent_NewEvent_cases he with ⟨hs, he⟩ | ⟨hs, rfl⟩
  · rw [hs] at hr
    obtain ⟨hp, hh, hi, hend, ha, -⟩ := hr
    refine hg.loop ⟨hp, hh, ?_⟩ he
    rw [seen_fw, hs]
    exact ⟨hi, hend.silent hsil, hawake ha⟩
  · refine ⟨hg.congr rfl rfl, ?_⟩
    unfold Rest
    cases hs' : s.fw.eSmState with
    | idle => exact absurd hs' hs
    | waitIntrInfo =>
      rw [hs'] at hr
      obtain ⟨hp, hh, hres, ha, -⟩ := hr
      simp only [hs']
      refine ⟨hp.imp id (List.mem_append_left _), hh, ?_, hawake ha, Or.inr trivial⟩
      change results (since isRead (s.log ++ [.newEvent])) = []
      rw [since_snoc_of_other rfl, hsil.results]
      exact hres
    | waitHandleComplt =>
      rw [hs'] at hr
      obtain ⟨hp, hh, hpos, hend, ha, -⟩ := hr
      simp only
      exact ⟨hp, hh, hpos, hend.silent hsil, hawake ha, Or.inr trivial⟩

theorem Good.readDone {env : Env} {tFwStatus : FwStatus_t} {s t : Sys} (h : Good s) (hr : Rest s)
    (hp : s.readPending = true) (he : fwEvent_StateMachine env
      { s with fw := { s.fw with tFwStatus := tFwStatus }, readPending := false } = some t) :
    Good t ∧ Rest t := by
  refine (h.congr (t := { s with fw := { s.fw with tFwStatus := tFwStatus }, readPending := false })
    rfl rfl).loop ?_ he
  unfold Rest at hr
  unfold Top
  cases hs : s.fw.eSmState with
  | idle =>
    rw [hs, hp] at hr
    exact absurd hr.1 (by rintro ⟨⟩)
  | waitIntrInfo =>
    rw [hs] at hr
    obtain ⟨-, hh, hres, ha, hv⟩ := hr
    simp only [hs]
    exact ⟨trivial, hh, hres, ha, hv⟩
  | waitHandleComplt =>
    rw [hs, hp] at hr
    exact absurd hr.1 (by rintro ⟨⟩)

theorem Good.readLost {s : Sys} (h : Good s) (hr : Rest s) (hp : s.readPending = true) :
    Good { s with log := s.log ++ [.readLost], readPending := false } ∧
      Rest { s with log := s.log ++ [.readLost], readPending := false } := by
  have hsil : Silent .readLost := Or.inr (Or.inr (Or.inr (Or.inr rfl)))
  refine ⟨h.silent hsil rfl rfl, ?_⟩
  unfold Rest at hr ⊢
  cases hs : s.fw.eSmState with
  | idle =>
    rw [hs, hp] at hr
    exact absurd hr.1 (by rintro ⟨⟩)
  | waitIntrInfo =>
    rw [hs] at hr
    obtain ⟨-, hh, hres, ha, hv⟩ := hr
    refine ⟨Or.inr (List.mem_append_right _ (List.mem_singleton_self _)), hh, ?_,
      ha.other (by rintro ⟨⟩) (by rintro ⟨⟩) (by rintro ⟨⟩),
      hv.imp (fun hv => hv.silent (by rintro ⟨⟩)) id⟩
    change results (since isRead (s.log ++ [.readLost])) = []
    rw [since_snoc_of_other rfl, hsil.results]
    exact hres
  | waitHandleComplt =>
    rw [hs, hp] at hr
    exact absurd hr.1 (by rintro ⟨⟩)

theorem Rest.of_handlers {s : Sys} (hr : Rest s) (hh : 0 < s.handlers) :
    s.fw.eSmState = .waitHandleComplt ∧ s.readPending = false ∧
      s.handlers = s.fw.uNumPendHndlrs ∧ Ended s.log ∧ AwakeBy 1 s.log ∧
        (AllServed s.log ∨ s.fw.bIntrPending = true) := by
  unfold Rest at hr
  cases hs : s.fw.eSmState with
  | idle =>
    rw [hs] at hr
    omega
  | waitIntrInfo =>
    rw [hs] at hr
    omega
  | waitHandleComplt =>
    rw [hs] at hr
    obtain ⟨hp, heq, -, hend, ha, hv⟩ := hr
    exact ⟨rfl, hp, heq, hend, ha, hv⟩

def oneCompleted (s : Sys) : Sys :=
  { s.seen .completed with
    fw := { s.fw with uNumPendHndlrs := s.fw.uNumPendHndlrs - 1 }
    handlers := s.handlers - 1 }

theorem fwEvent_HandlerCompleted_eq {D : Bool} {env : Env} {s : Sys} (hh : 0 < s.handlers)
    (hs : s.fw.eSmState = .waitHandleComplt) (heq : s.handlers = s.fw.uNumPendHndlrs) :
    fwEvent_HandlerCompleted D env { s with handlers := s.handlers - 1 } =
      if s.fw.uNumPendHndlrs - 1 = 0 then (oneCompleted s).fwEvent_StateMachine env
      else some (oneCompleted s) := by
  have h₁ : ¬ (D = true ∧ s.fw.uNumPendHndlrs = 0) := by omega
  have h₂ : ¬ (D = true ∧ s.fw.eSmState ≠ .waitHandleComplt) := fun h => h.2 hs
  change (if D = true ∧ s.fw.uNumPendHndlrs = 0 then _
    else if D = true ∧ s.fw.eSmState ≠ .waitHandleComplt then _
    else if s.fw.uNumPendHndlrs - 1 = 0 then _ else _) = _
  rw [if_neg h₁, if_neg h₂]
  rfl

theorem Good.oneCompleted {s : Sys} (h : Good s) (hh : 0 < s.handlers) : Good (oneCompleted s) := by
  have hpass : (FwEvent.oneCompleted s).pass = s.pass ++ [.completed] := since_snoc_of_other rfl
  refine ⟨h.past.snoc (by rintro ⟨⟩), ?_, ?_, ?_⟩
  · rw [hpass, results_append]
    exact Nat.le_trans (Nat.le_of_eq (congrArg List.length (List.append_nil _))) h.one
  · rw [hpass, results_append, calls_append]
    exact (List.append_nil _).trans
      (h.called.trans (congrArg (List.flatMap dispatch) (List.append_nil _).symm))
  · have hp := h.pending
    rw [hpass, pends_append, completions_append]
    change pends s.pass + 0 = completions s.pass + 1 + (s.handlers - 1)
    omega

theorem Good.handlerCompleted {D : Bool} {env : Env} {s t : Sys} (h : Good s) (hr : Rest s)
    (hh : 0 < s.handlers)
    (he : fwEvent_HandlerCompleted D env { s with handlers := s.handlers - 1 } = some t) :
    Good t ∧ Rest t := by
  obtain ⟨hs, hp, heq, hend, ha, hv⟩ := hr.of_handlers hh
  have hg := h.oneCompleted hh
  have hend' : Ended (FwEvent.oneCompleted s).log := by
    intro hm
    change _ ∈ s.log ++ [_] at hm
    have hmem : .readStart ∈ s.log := by simpa using hm
    change (results (since isRead (s.log ++ [_]))).length = 1 ∨ _ ∈ since isRead (s.log ++ [_])
    rw [since_snoc_of_other rfl, results_append]
    exact (hend hmem).imp
      (fun hl => (congrArg List.length (List.append_nil _)).trans hl) (List.mem_append_left _)
  have ha' : AwakeBy 1 (FwEvent.oneCompleted s).log :=
    ha.other (by rintro ⟨⟩) (by rintro ⟨⟩) (by rintro ⟨⟩)
  have hv' : AllServed (FwEvent.oneCompleted s).log ∨ s.fw.bIntrPending = true :=
    hv.imp (fun hv => hv.silent (by rintro ⟨⟩)) id
  rw [fwEvent_HandlerCompleted_eq hh hs heq] at he
  by_cases hz : s.fw.uNumPendHndlrs - 1 = 0
  · rw [if_pos hz] at he
    refine hg.loop ⟨hp, (congrArg (· - 1) heq).trans hz, ?_⟩ he
    change match s.fw.eSmState with | .idle => _ | .waitIntrInfo => _ | .waitHandleComplt => _
    rw [hs]
    exact ⟨hz, hend', ha', hv'⟩
  · rw [if_neg hz] at he
    cases he
    refine ⟨hg, ?_⟩
    change match s.fw.eSmState with | .idle => _ | .waitIntrInfo => _ | .waitHandleComplt => _
    rw [hs]
    exact ⟨hp, congrArg (· - 1) heq, Nat.pos_of_ne_zero hz, hend', ha', hv'⟩

theorem Good.step {D : Bool} {s t : Sys} {i : Input} (h : Good s) (hr : Rest s)
    (he : step D s i = some t) : Good t ∧ Rest t := by
  cases i with
  | newEvent env => exact h.newEvent hr he
  | readDone st env =>
    obtain ⟨hp, he⟩ := Option.ite_none_right_eq_some.mp he
    exact h.readDone hr hp he
  | readLost =>
    obtain ⟨hp, ⟨⟩⟩ := Option.ite_none_right_eq_some.mp he
    exact h.readLost hr hp
  | handlerCompleted env =>
    obtain ⟨hh, he⟩ := Option.ite_none_right_eq_some.mp he
    exact h.handlerCompleted hr hh he
  | setInitMask =>
    cases he
    exact ⟨h.congr rfl rfl, hr⟩
  | maskAllFwInterrupts =>
    cases he
    exact ⟨h.congr rfl rfl, hr⟩
  | enableExternalEvents =>
    cases he
    exact ⟨h.congr rfl rfl, hr⟩

theorem good_init (tFwStatus : FwStatus_t) (uFwTimeOffset : BitVec 32) :
    Good (init tFwStatus uFwTimeOffset) ∧ Rest (init tFwStatus uFwTimeOffset) :=
  ⟨⟨before_nil, Nat.zero_le 1, rfl, rfl⟩, rfl, rfl, rfl, fun h => absurd h List.not_mem_nil, rfl,
    answered_nil⟩

theorem good_run {D : Bool} {tFwStatus : FwStatus_t} {uFwTimeOffset : BitVec 32} {s : Sys}
    {is : List Input} (h : exec (step D) (init tFwStatus uFwTimeOffset) is = some s) :
    Good s ∧ Rest s :=
  exec_invariant (I := fun s => Good s ∧ Rest s) (fun _ _ _ hs he => hs.1.step hs.2 he)
    (good_init tFwStatus uFwTimeOffset) h

theorem Rest.served {s : Sys} (hr : Rest s) : AllServed s.log ∨
    (s.fw.eSmState ≠ .idle ∧ s.fw.bIntrPending = true ∧
      (.readLost ∈ s.log ∨ s.readPending = true ∨ 0 < s.handlers)) := by
  unfold Rest at hr
  cases hs : s.fw.eSmState with
  | idle =>
    rw [hs] at hr
    exact Or.inl hr.2.2.2.2.2
  | waitIntrInfo =>
    rw [hs] at hr
    obtain ⟨hp, -, -, -, hv⟩ := hr
    exact hv.imp id fun hv => ⟨by rintro ⟨⟩, hv, hp.symm.imp id Or.inl⟩
  | waitHandleComplt =>
    rw [hs] at hr
    obtain ⟨-, heq, hpos, -, -, hv⟩ := hr
    exact hv.imp id fun hv => ⟨by rintro ⟨⟩, hv, Or.inr (Or.inr (heq ▸ hpos))⟩

/-! ## What every run does -/

/-- What the trace of a run says. -/
structure Serviced (s : Sys) : Prop where
  /-- An interrupt that no read has followed waits for what is outstanding, unless a read fails. -/
  never_lost : ∀ p q, s.log = p ++ .newEvent :: q →
    .readStart ∈ q ∨ .readFailed ∈ q ∨ .readLost ∈ s.log ∨
      (s.fw.bIntrPending = true ∧ (s.readPending = true ∨ 0 < s.handlers))
  /-- From one read to the next at most one status is handled, and it calls its handlers once. -/
  dispatched : ∀ p q r, s.log = p ++ .readStart :: (q ++ r) → .readStart ∉ q →
    (r = [] ∨ ∃ r', r = .readStart :: r') →
      (results q).length ≤ 1 ∧ calls q = (results q).flatMap dispatch
  /-- The next read is started when the last one has ended and its handlers have completed. -/
  waits : ∀ p q r, s.log = p ++ .readStart :: (q ++ .readStart :: r) → .readStart ∉ q →
    ((results q).length = 1 ∨ .readFailed ∈ q) ∧ pends q = completions q
  /-- In the state IDLE every awake request is released, but for those of failed reads. -/
  balanced : s.fw.eSmState = .idle →
    s.log.count .twIf_Awake = s.log.count .twIf_Sleep + s.log.count .readFailed

theorem Good.serviced {s : Sys} (h : Good s) (hr : Rest s) : Serviced s := by
  have hnot : ∀ {q : List Event}, .readStart ∉ q → ∀ e ∈ q, isRead e = false := by
    rintro q hq e he
    refine decide_eq_false ?_
    rintro rfl
    exact hq he
  -- What precedes a read that is followed by another one.
  have hsettled : ∀ {p q r : List Event}, s.log = p ++ .readStart :: (q ++ .readStart :: r) →
      .readStart ∉ q → Settled (p ++ .readStart :: q) ∧ since isRead (p ++ .readStart :: q) = q := by
    rintro p q r hl hq
    rw [← List.cons_append, ← List.append_assoc] at hl
    exact ⟨h.past _ _ _ hl rfl, since_eq rfl (hnot hq)⟩
  refine ⟨?_, ?_, ?_, ?_⟩
  · rintro p q hl
    rcases hr.served with hv | ⟨-, hf, hout⟩
    · obtain ⟨b, hb, rfl | rfl⟩ := hv p _ q hl rfl
      · exact Or.inl hb
      · exact Or.inr (Or.inl hb)
    · exact Or.inr (Or.inr (hout.imp id fun hout => ⟨hf, hout⟩))
  · rintro p q r hl hq (rfl | ⟨r, rfl⟩)
    · have hpass : s.pass = q := by
        unfold Sys.pass
        rw [hl, List.append_nil, since_eq rfl (hnot hq)]
      exact hpass ▸ ⟨h.one, h.called⟩
    · obtain ⟨hset, hpass⟩ := hsettled hl hq
      have hone := hset.one
      have hcalled := hset.called
      rw [hpass] at hone hcalled
      exact ⟨hone, hcalled⟩
  · rintro p q r hl hq
    obtain ⟨hset, hpass⟩ := hsettled hl hq
    have hend := hset.ended (by simp)
    have hcompleted := hset.completed
    rw [hpass] at hend hcompleted
    exact ⟨hend, hcompleted⟩
  · intro hs
    unfold Rest at hr
    rw [hs] at hr
    exact hr.2.2.2.2.1

def FwStatus_t.none : FwStatus_t := ⟨0, 0, [], [], 0⟩

/-- The status read of an interrupt fails in its call. The machine is in IDLE again, with an awake
request that it does not release. -/
theorem failed_read_keeps_awake : ∃ s,
    exec (step true) (init .none 0)
      [.newEvent ⟨fun _ => .error, fun _ _ => .complete, fun _ => 0⟩] = some s ∧
    s.fw.eSmState = .idle ∧ s.log.count .twIf_Awake = 1 ∧ s.log.count .twIf_Sleep = 0 :=
  ⟨_, rfl, rfl, rfl, rfl⟩

end ArchosGpl.Wlan.FwEvent
