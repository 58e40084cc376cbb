import Mathlib.Data.List.Nodup
import ArchosGpl.Wlan.EventMbox.Model

/-!
# Dispatch of firmware events

The purpose of the module is the machine `Exchange`: the mailboxes are published in turn, the host
reads the published one, calls the callbacks of its events one after the other, acknowledges once,
and the other mailbox is next; a stop leads back to the first mailbox from anywhere.
**`events_dispatched`**: what is seen in any run is a run of `Exchange`, and unless a read failed
the module's own steps lead on to a state in which every published mailbox is dispatched and
acknowledged. **`stop_drops_events`**: events that a callback's stop leaves are not dispatched.
-/

namespace ArchosGpl.Wlan.EventMbox

open Lib

variable {D : Type*}

/-! ## What the module is for -/

def eventsFrom (eventsVector : BitVec 32) (EvID : ℕ) : List ℕ :=
  (List.range' EvID (twdOwnEventAll - EvID)).filter fun e => eventsVector &&& bitMask e ≠ 0

abbrev events (eventsVector : BitVec 32) : List ℕ := eventsFrom eventsVector 0

/-- What a callback gets of a mailbox's data. -/
def dataFor (eventData : D) (EvID : ℕ) : Option D :=
  if dataLen EvID ≠ 0 then some eventData else none

inductive Exchange (D : Type*)
  /-- Everything published is dispatched; this mailbox is next. -/
  | idle (mbox : Fin 2)
  | published (mbox : Fin 2) (content : EventMailBox D)
  /-- A mailbox is read, and these events of it are still to dispatch. -/
  | dispatching (mbox : Fin 2) (eventData : D) (pending : List ℕ)
  /-- A mailbox could not be read. -/
  | lost

def Exchange.step [DecidableEq D] : Exchange D → Event D → Option (Exchange D)
  | _, .stop => some (.idle 0)
  | σ, .cfgEventMask _ => some σ
  | .idle m, .publish mbox content => if mbox = m then some (.published m content) else none
  | .published m content, .read mbox =>
    if mbox = m then some (.dispatching m content.eventData (events content.eventsVector)) else none
  | .published m _, .readFailed mbox => if mbox = m then some .lost else none
  | .dispatching m eventData (e :: es), .callback EvID data =>
    if EvID = e ∧ data = dataFor eventData e then some (.dispatching m eventData es) else none
  | .dispatching m _ [], .ack => some (.idle (1 - m))
  | _, _ => none

theorem eventsFrom_end {v : BitVec 32} {n : ℕ} (h : ¬ n < twdOwnEventAll) :
    eventsFrom v n = [] := by
  have hz : twdOwnEventAll - n = 0 := Nat.sub_eq_zero_of_le (Nat.le_of_not_lt h)
  simp [eventsFrom, hz]

theorem eventsFrom_next {v : BitVec 32} {n : ℕ} (h : n < twdOwnEventAll) :
    eventsFrom v n =
      if v &&& bitMask n ≠ 0 then n :: eventsFrom v (n + 1) else eventsFrom v (n + 1) := by
  have hs : twdOwnEventAll - n = twdOwnEventAll - (n + 1) + 1 := by omega
  unfold eventsFrom
  rw [hs, List.range'_succ, List.filter_cons]
  simp

/-! ## The two parties follow the exchange -/

namespace Sys

/-- The host has nothing under way for a mailbox, and the next it will read is `m`. A loop that
still runs was stopped. -/
structure Quiet (s : Sys D) (m : Fin 2) : Prop where
  active : s.obj.ActiveMbox = m
  state : s.obj.CurrentState = .idle
  free : s.obj.readTxn = .free
  stopped : s.obj.EvID = none ∨ s.obj.iEventMboxBuf.eventsVector = 0

/-- The host processes mailbox `m` and the firmware waits for it. -/
structure Processing (s : Sys D) (m : Fin 2) : Prop where
  active : s.obj.ActiveMbox = 1 - m
  state : s.obj.CurrentState = .reading
  collects : s.collects = 1 - m
  waits : s.waits = true
  noAck : s.obj.ackTxn = false
  noIntr : s.intr = none

/-- A state of the exchange and the states of the two parties. -/
inductive Agrees : Exchange D → Sys D → Prop
  | idle {s m} (host : Quiet s m) (collects : s.collects = m) (noIntr : s.intr = none)
      (ack : s.obj.ackTxn = true → s.waits = true) : Agrees (.idle m) s
  | published {s m content} (host : Quiet s m) (collects : s.collects = 1 - m)
      (waits : s.waits = true) (noAck : s.obj.ackTxn = false) (intr : s.intr = some m)
      (stays : s.mem m = content) : Agrees (.published m content) s
  | onBus {s m content} (host : Processing s m) (busy : s.obj.readTxn = .onBus m)
      (noLoop : s.obj.EvID = none) (stays : s.mem m = content) : Agrees (.published m content) s
  | done {s m data v} (host : Processing s m) (busy : s.obj.readTxn = .done)
      (noLoop : s.obj.EvID = none) (data_eq : s.obj.iEventMboxBuf.eventData = data)
      (vector_eq : s.obj.iEventMboxBuf.eventsVector = v) : Agrees (.dispatching m data (events v)) s
  | looping {s m data v n} (host : Processing s m) (free : s.obj.readTxn = .free)
      (loop : s.obj.EvID = some n) (data_eq : s.obj.iEventMboxBuf.eventData = data)
      (vector_eq : s.obj.iEventMboxBuf.eventsVector = v) :
      Agrees (.dispatching m data (eventsFrom v n)) s
  | lost {s m} (host : Processing s m) (free : s.obj.readTxn = .free)
      (noLoop : s.obj.EvID = none) : Agrees .lost s

variable {s s' : Sys D} {σ : Exchange D}

variable {m : Fin 2}

theorem Quiet.cfgEventMask (h : Quiet s m) (mask : BitVec 32) : Quiet (s.cfgEventMask mask) m :=
  ⟨h.active, h.state, h.free, h.stopped⟩

theorem Processing.cfgEventMask (h : Processing s m) (mask : BitVec 32) :
    Processing (s.cfgEventMask mask) m :=
  ⟨h.active, h.state, h.collects, h.waits, h.noAck, h.noIntr⟩

theorem Agrees.cfgEventMask (h : Agrees σ s) (mask : BitVec 32) :
    Agrees σ (s.cfgEventMask mask) := by
  cases h with
  | idle hq hc hi ha => exact .idle (hq.cfgEventMask mask) hc hi ha
  | published hq hc hw hn hi hm => exact .published (hq.cfgEventMask mask) hc hw hn hi hm
  | onBus hp hb hl hm => exact .onBus (hp.cfgEventMask mask) hb hl hm
  | done hp hb hl hd hv => exact .done (hp.cfgEventMask mask) hb hl hd hv
  | looping hp hf hl hd hv => exact .looping (hp.cfgEventMask mask) hf hl hd hv
  | lost hp hf hl => exact .lost (hp.cfgEventMask mask) hf hl

theorem Agrees.intr (h : Agrees σ s) (hi : s.intr ≠ none) :
    ∃ content, σ = .published s.obj.ActiveMbox content ∧ Quiet s s.obj.ActiveMbox ∧
      s.collects = 1 - s.obj.ActiveMbox ∧ s.waits = true ∧ s.obj.ackTxn = false ∧
      s.mem s.obj.ActiveMbox = content := by
  cases h with
  | idle _ _ hi' => exact absurd hi' hi
  | published hq hc hw hn _ hm =>
    obtain rfl := hq.active
    exact ⟨_, rfl, hq, hc, hw, hn, hm⟩
  | onBus hp | done hp | looping hp | lost hp => exact absurd hp.noIntr hi

variable {n : ℕ}

theorem Agrees.loop (h : Agrees σ s) (hl : s.obj.EvID = some n) :
    (s.obj.iEventMboxBuf.eventsVector = 0 ∧ s.obj.CurrentState = .idle ∧
      ∀ e, Agrees σ { s with obj := { s.obj with EvID := e } }) ∨
    ∃ m, σ = .dispatching m s.obj.iEventMboxBuf.eventData
      (eventsFrom s.obj.iEventMboxBuf.eventsVector n) ∧ Processing s m ∧ s.obj.readTxn = .free := by
  have stopped : ∀ {m}, Quiet s m → s.obj.iEventMboxBuf.eventsVector = 0 := by
    intro m hq
    rcases hq.stopped with hnone | hzero
    · exact absurd (hnone.symm.trans hl) (by simp)
    · exact hzero
  cases h with
  | idle hq hc hi ha =>
    refine .inl ⟨stopped hq, hq.state, fun e => ?_⟩
    exact .idle ⟨hq.active, hq.state, hq.free, .inr (stopped hq)⟩ hc hi ha
  | published hq hc hw hn hi hm =>
    refine .inl ⟨stopped hq, hq.state, fun e => ?_⟩
    exact .published ⟨hq.active, hq.state, hq.free, .inr (stopped hq)⟩ hc hw hn hi hm
  | looping hp hf hl' hd hv =>
    cases hl.symm.trans hl'
    subst hd hv
    exact .inr ⟨_, rfl, hp, hf⟩
  | onBus _ _ hl' | done _ _ hl' | lost _ _ hl' => cases hl.symm.trans hl'

/-- The round of an event number whose bit is set, up to what the callback asks for. -/
abbrev callback (s : Sys D) (EvID : ℕ) : Sys D :=
  { s with
    obj := { s.obj with EvID := some (EvID + 1) }
    log := s.log ++ [.callback EvID (dataFor s.obj.iEventMboxBuf.eventData EvID)] }

theorem dispatch_set (hbit : s.obj.iEventMboxBuf.eventsVector &&& bitMask n ≠ 0)
    (rs : List Request) : s.dispatch n rs = rs.foldl Sys.request (s.callback n) :=
  if_pos hbit

theorem dispatch_clear {rs : List Request}
    (hbit : s.obj.iEventMboxBuf.eventsVector &&& bitMask n = 0) :
    s.dispatch n rs = { s with obj := { s.obj with EvID := some (n + 1) } } :=
  if_neg (not_not.mpr hbit)

/-! ## The module's own steps -/

/-- What the module and the bus do by themselves: handle an interrupt, read, dispatch with callbacks
that ask for nothing, and acknowledge. -/
def own : List (Op D) := [.handle .complete, .busRead true, .readDone, .dispatch []]

theorem leads_round {t : Sys D} (hl : s.obj.EvID = some n)
    (h : Leads Sys.step own (if n < twdOwnEventAll then s.dispatch n [] else s.ackEvents) t) : Leads Sys.step own s t := by
  have hstep : Sys.step s (.dispatch []) =
      some (if n < twdOwnEventAll then s.dispatch n [] else s.ackEvents) := by
    simp only [Sys.step, hl]
  exact .head (by simp [own]) hstep h

theorem stopped_loop_leads (hl : s.obj.EvID = some n)
    (hzero : s.obj.iEventMboxBuf.eventsVector = 0) (hidle : s.obj.CurrentState = .idle) :
    Leads Sys.step own s { s with obj := { s.obj with EvID := none } } := by
  induction hk : twdOwnEventAll - n generalizing s n with
  | zero =>
    refine leads_round hl ?_
    rw [if_neg (by omega), Sys.ackEvents, if_pos hidle]
    exact .refl _
  | succ k ih =>
    refine leads_round hl ?_
    rw [if_pos (by omega), dispatch_clear (by simp [hzero])]
    exact ih (s := { s with obj := { s.obj with EvID := some (n + 1) } }) rfl hzero hidle (by omega)

/-! ## Every step follows the exchange -/

variable [DecidableEq D]

/-- What was seen is a run of the exchange to a state that agrees with the parties. -/
def Follows (σ : Exchange D) (s : Sys D) : Prop :=
  exec Exchange.step (.idle 0) s.log = some σ ∧ Agrees σ s

theorem seen_snoc {l : List (Event D)} {e : Event D} {τ : Exchange D}
    (h : exec Exchange.step (.idle 0) l = some σ) (he : σ.step e = some τ) :
    exec Exchange.step (.idle 0) (l ++ [e]) = some τ :=
  exec_snoc.mpr ⟨σ, h, he⟩

theorem follows_start (buffer : EventMailBox D) (mem : Fin 2 → EventMailBox D) :
    Follows (.idle 0) (start buffer mem) :=
  ⟨rfl, .idle ⟨rfl, rfl, rfl, .inl rfl⟩ rfl rfl fun h => absurd h Bool.false_ne_true⟩

/-! ### Requests -/

theorem Follows.stop (h : Follows σ s) : Follows (.idle 0) s.stop := by
  constructor
  · refine seen_snoc h.1 ?_
    cases σ <;> rfl
  · exact .idle ⟨rfl, rfl, rfl, .inr rfl⟩ rfl rfl fun h => absurd h Bool.false_ne_true

theorem Follows.cfgEventMask (h : Follows σ s) (mask : BitVec 32) :
    Follows σ (s.cfgEventMask mask) := by
  refine ⟨seen_snoc h.1 ?_, h.2.cfgEventMask mask⟩
  cases σ <;> rfl

theorem Follows.request (h : Follows σ s) (r : Request) : ∃ τ, Follows τ (s.request r) := by
  cases r with
  | maskEvent EvID =>
    by_cases hn : EvID ≥ twdOwnEventAll
    · exact ⟨σ, by simpa [Sys.request, Sys.maskEvent, hn] using h⟩
    · exact ⟨σ, by simpa [Sys.request, Sys.maskEvent, hn] using h.cfgEventMask _⟩
  | unMaskEvent EvID =>
    by_cases hn : EvID ≥ twdOwnEventAll
    · exact ⟨σ, by simpa [Sys.request, Sys.unMaskEvent, hn] using h⟩
    · exact ⟨σ, by simpa [Sys.request, Sys.unMaskEvent, hn] using h.cfgEventMask _⟩
  | stop => exact ⟨.idle 0, h.stop⟩

theorem Follows.requests (h : Follows σ s) (rs : List Request) :
    ∃ τ, Follows τ (rs.foldl Sys.request s) := by
  induction rs generalizing σ s with
  | nil => exact ⟨σ, h⟩
  | cons r rs ih =>
    obtain ⟨τ, hτ⟩ := h.request r
    exact ih hτ

/-! ### The firmware -/

theorem other_ne (m : Fin 2) : m ≠ 1 - m := by
  revert m
  decide

theorem Follows.fwCollect (h : Follows σ s) (content : EventMailBox D) :
    Follows σ (s.fwCollect content) := by
  have keeps : ∀ m, s.collects = 1 - m → (s.fwCollect content).mem m = s.mem m := by
    intro m hc
    refine Function.update_of_ne ?_ _ _
    rw [hc]
    exact other_ne m
  refine ⟨h.1, ?_⟩
  cases h.2 with
  | idle hq hc hi ha => exact .idle ⟨hq.active, hq.state, hq.free, hq.stopped⟩ hc hi ha
  | published hq hc hw hn hi hm =>
    exact .published ⟨hq.active, hq.state, hq.free, hq.stopped⟩ hc hw hn hi ((keeps _ hc).trans hm)
  | onBus hp hb hl hm =>
    exact .onBus ⟨hp.active, hp.state, hp.collects, hp.waits, hp.noAck, hp.noIntr⟩ hb hl
      ((keeps _ hp.collects).trans hm)
  | done hp hb hl hd hv =>
    exact .done ⟨hp.active, hp.state, hp.collects, hp.waits, hp.noAck, hp.noIntr⟩ hb hl hd hv
  | looping hp hf hl hd hv =>
    exact .looping ⟨hp.active, hp.state, hp.collects, hp.waits, hp.noAck, hp.noIntr⟩ hf hl hd hv
  | lost hp hf hl =>
    exact .lost ⟨hp.active, hp.state, hp.collects, hp.waits, hp.noAck, hp.noIntr⟩ hf hl

theorem Follows.fwPublish (h : Follows σ s) (hw : s.waits = false) :
    ∃ τ, Follows τ s.fwPublish := by
  obtain ⟨hrun, hag⟩ := h
  cases hag with
  | idle hq hc hi ha =>
    subst hc
    have hn : s.obj.ackTxn = false := by
      cases hack : s.obj.ackTxn with
      | false => rfl
      | true => exact absurd (ha hack) (by simp [hw])
    refine ⟨.published s.collects (s.mem s.collects), seen_snoc hrun ?_, ?_⟩
    · simp [Exchange.step]
    · exact .published ⟨hq.active, hq.state, hq.free, hq.stopped⟩ rfl rfl hn rfl rfl
  | published _ _ hw' => exact absurd hw' (by simp [hw])
  | onBus hp | done hp | looping hp | lost hp => exact absurd hp.waits (by simp [hw])

/-! ### Reading -/

theorem Follows.handle (h : Follows σ s) (hi : s.intr ≠ none) (hl : s.obj.EvID = none)
    (rc : ETxnStatus) : ∃ τ, Follows τ (s.handle rc) := by
  obtain ⟨content, rfl, hq, hc, hw, hn, hm⟩ := h.2.intr hi
  cases rc with
  | complete =>
    refine ⟨.dispatching s.obj.ActiveMbox content.eventData (events content.eventsVector),
      seen_snoc h.1 (by simp [Exchange.step]), ?_⟩
    exact .looping ⟨rfl, rfl, hc, hw, hn, rfl⟩ rfl rfl (congrArg _ hm) (congrArg _ hm)
  | pending => exact ⟨_, h.1, .onBus ⟨rfl, rfl, hc, hw, hn, rfl⟩ rfl hl hm⟩
  | error =>
    refine ⟨.lost, seen_snoc h.1 (by simp [Exchange.step]), ?_⟩
    exact .lost (m := s.obj.ActiveMbox) ⟨rfl, rfl, hc, hw, hn, rfl⟩ rfl hl

theorem Follows.busRead (h : Follows σ s) (hb : s.obj.readTxn = .onBus m) (ok : Bool) :
    ∃ τ, Follows τ (if ok then s.readMbox m else s.failMbox m) := by
  obtain ⟨hrun, hag⟩ := h
  cases hag with
  | onBus hp hb' hl hm =>
    obtain rfl := ReadTxn.onBus.inj (hb.symm.trans hb')
    obtain rfl := hm
    cases ok with
    | true =>
      refine ⟨.dispatching m (s.mem m).eventData (events (s.mem m).eventsVector),
        seen_snoc hrun (by simp [Exchange.step]), ?_⟩
      exact .done ⟨hp.active, hp.state, hp.collects, hp.waits, hp.noAck, hp.noIntr⟩ rfl hl rfl rfl
    | false =>
      refine ⟨.lost, seen_snoc hrun (by simp [Exchange.step]), ?_⟩
      exact .lost ⟨hp.active, hp.state, hp.collects, hp.waits, hp.noAck, hp.noIntr⟩ rfl hl
  | idle hq | published hq => cases hq.free.symm.trans hb
  | done _ hd => cases hd.symm.trans hb
  | looping _ hf | lost _ hf => cases hf.symm.trans hb

theorem Follows.readDone (h : Follows σ s) (hb : s.obj.readTxn = .done) :
    Follows σ s.readCompleteCB := by
  refine ⟨h.1, ?_⟩
  cases h.2 with
  | done hp _ _ hd hv =>
    exact .looping ⟨hp.active, hp.state, hp.collects, hp.waits, hp.noAck, hp.noIntr⟩ rfl rfl hd hv
  | idle hq | published hq => cases hq.free.symm.trans hb
  | onBus _ hd => cases hd.symm.trans hb
  | looping _ hf | lost _ hf => cases hf.symm.trans hb

/-! ### The dispatch loop -/

theorem Follows.callback (h : Follows (.dispatching m
      s.obj.iEventMboxBuf.eventData (eventsFrom s.obj.iEventMboxBuf.eventsVector n)) s)
    (hp : Processing s m) (hf : s.obj.readTxn = .free) (hn : n < twdOwnEventAll)
    (hbit : s.obj.iEventMboxBuf.eventsVector &&& bitMask n ≠ 0) :
    Follows (.dispatching m s.obj.iEventMboxBuf.eventData
      (eventsFrom s.obj.iEventMboxBuf.eventsVector (n + 1))) (s.callback n) := by
  have hnext := eventsFrom_next (v := s.obj.iEventMboxBuf.eventsVector) hn
  rw [if_pos hbit] at hnext
  constructor
  · refine seen_snoc h.1 ?_
    rw [hnext]
    simp [Exchange.step]
  · exact .looping ⟨hp.active, hp.state, hp.collects, hp.waits, hp.noAck, hp.noIntr⟩ hf rfl rfl rfl

theorem Follows.pass (h : Follows (.dispatching m
      s.obj.iEventMboxBuf.eventData (eventsFrom s.obj.iEventMboxBuf.eventsVector n)) s)
    (hp : Processing s m) (hf : s.obj.readTxn = .free) (hn : n < twdOwnEventAll)
    (hbit : s.obj.iEventMboxBuf.eventsVector &&& bitMask n = 0) :
    Follows (.dispatching m s.obj.iEventMboxBuf.eventData
      (eventsFrom s.obj.iEventMboxBuf.eventsVector (n + 1)))
      { s with obj := { s.obj with EvID := some (n + 1) } } := by
  have hnext := eventsFrom_next (v := s.obj.iEventMboxBuf.eventsVector) hn
  rw [if_neg (not_not.mpr hbit)] at hnext
  rw [hnext] at h
  exact ⟨h.1, .looping ⟨hp.active, hp.state, hp.collects, hp.waits, hp.noAck, hp.noIntr⟩
    hf rfl rfl rfl⟩

theorem Follows.dispatch (h : Follows σ s) (hl : s.obj.EvID = some n)
    (hn : n < twdOwnEventAll) (rs : List Request) : ∃ τ, Follows τ (s.dispatch n rs) := by
  rcases h.2.loop hl with ⟨hzero, -, hkeep⟩ | ⟨m, rfl, hp, hf⟩
  · rw [dispatch_clear (by simp [hzero])]
    exact ⟨σ, h.1, hkeep _⟩
  · by_cases hbit : s.obj.iEventMboxBuf.eventsVector &&& bitMask n ≠ 0
    · rw [dispatch_set hbit]
      exact (h.callback hp hf hn hbit).requests rs
    · rw [dispatch_clear (not_not.mp hbit)]
      exact ⟨_, h.pass hp hf hn (not_not.mp hbit)⟩

theorem Follows.ack (h : Follows (.dispatching m
      s.obj.iEventMboxBuf.eventData (eventsFrom s.obj.iEventMboxBuf.eventsVector n)) s)
    (hp : Processing s m) (hf : s.obj.readTxn = .free) (hn : ¬ n < twdOwnEventAll) :
    Follows (.idle (1 - m)) s.ackEvents := by
  have hstate : s.obj.CurrentState ≠ .idle := by simp [hp.state]
  rw [Sys.ackEvents, if_neg hstate]
  constructor
  · refine seen_snoc h.1 ?_
    simp [eventsFrom_end hn, Exchange.step]
  · exact .idle ⟨hp.active, rfl, hf, .inl rfl⟩ hp.collects hp.noIntr fun _ => hp.waits

theorem Follows.ackEvents (h : Follows σ s) (hl : s.obj.EvID = some n)
    (hn : ¬ n < twdOwnEventAll) : ∃ τ, Follows τ s.ackEvents := by
  rcases h.2.loop hl with ⟨-, hidle, hkeep⟩ | ⟨m, rfl, hp, hf⟩
  · rw [Sys.ackEvents, if_pos hidle]
    exact ⟨σ, h.1, hkeep none⟩
  · exact ⟨_, h.ack hp hf hn⟩

/-! ## Runs -/

theorem Follows.busAck (h : Follows σ s) (ha : s.obj.ackTxn = true) (ok : Bool) :
    Follows σ { s with obj := { s.obj with ackTxn := false }, waits := !ok } := by
  refine ⟨h.1, ?_⟩
  cases h.2 with
  | idle hq hc hi _ =>
    exact .idle ⟨hq.active, hq.state, hq.free, hq.stopped⟩ hc hi
      fun h => absurd h Bool.false_ne_true
  | published _ _ _ hn => exact absurd ha (by simp [hn])
  | onBus hp | done hp | looping hp | lost hp => exact absurd ha (by simp [hp.noAck])

theorem Follows.step (h : Follows σ s) {op : Op D} (hs : Sys.step s op = some s') :
    ∃ τ, Follows τ s' := by
  cases op with
  | fwCollect content =>
    cases hs
    exact ⟨σ, h.fwCollect content⟩
  | fwPublish =>
    simp only [Sys.step] at hs
    split at hs
    case isTrue => cases hs
    case isFalse hw =>
      cases hs
      exact h.fwPublish (by simpa using hw)
  | handle rc =>
    simp only [Sys.step] at hs
    split at hs
    case isTrue => cases hs
    case isFalse hn =>
      cases hs
      obtain ⟨hi, hl⟩ := not_or.mp hn
      exact h.handle hi (not_not.mp hl) rc
  | busRead ok =>
    simp only [Sys.step] at hs
    split at hs
    case h_1 m hb =>
      cases hs
      exact h.busRead hb ok
    case h_2 => cases hs
  | readDone =>
    simp only [Sys.step] at hs
    split at hs
    case isTrue => cases hs
    case isFalse hn =>
      cases hs
      exact ⟨σ, h.readDone (not_not.mp (not_or.mp hn).1)⟩
  | dispatch rs =>
    simp only [Sys.step] at hs
    split at hs
    case h_1 => cases hs
    case h_2 n hl =>
      cases hs
      by_cases hn : n < twdOwnEventAll
      · rw [if_pos hn]
        exact h.dispatch hl hn rs
      · rw [if_neg hn]
        exact h.ackEvents hl hn
  | busAck ok =>
    simp only [Sys.step] at hs
    split at hs
    case isTrue ha =>
      cases hs
      exact ⟨σ, h.busAck ha ok⟩
    case isFalse => cases hs
  | request r =>
    simp only [Sys.step] at hs
    split at hs
    case isTrue => cases hs
    case isFalse =>
      cases hs
      exact h.request r

theorem follows_run {ops : List (Op D)} (h : Follows σ s) (he : exec Sys.step s ops = some s') :
    ∃ τ, Follows τ s' :=
  exec_invariant (I := fun s => ∃ σ, Follows σ s) (fun _ _ _ ⟨_, h⟩ hs => h.step hs) ⟨σ, h⟩ he

/-! ### Progress -/

theorem Follows.loop_leads (h : Follows (.dispatching m
      s.obj.iEventMboxBuf.eventData (eventsFrom s.obj.iEventMboxBuf.eventsVector n)) s)
    (hp : Processing s m) (hf : s.obj.readTxn = .free) (hl : s.obj.EvID = some n) :
    ∃ t, Leads Sys.step own s t ∧ Follows (.idle (1 - m)) t := by
  induction hk : twdOwnEventAll - n generalizing s n with
  | zero =>
    have hn : ¬ n < twdOwnEventAll := by omega
    refine ⟨s.ackEvents, leads_round hl (if_neg hn ▸ .refl _), ?_⟩
    exact h.ack hp hf hn
  | succ k ih =>
    have hn : n < twdOwnEventAll := by omega
    have hp' : ∀ l, Processing
        { s with obj := { s.obj with EvID := some (n + 1) }, log := l } m := fun _ =>
      ⟨hp.active, hp.state, hp.collects, hp.waits, hp.noAck, hp.noIntr⟩
    by_cases hbit : s.obj.iEventMboxBuf.eventsVector &&& bitMask n ≠ 0
    · obtain ⟨t, hlead, ht⟩ := ih (h.callback hp hf hn hbit) (hp' _) hf rfl (by omega)
      refine ⟨t, leads_round hl ?_, ht⟩
      rw [if_pos hn, dispatch_set hbit]
      exact hlead
    · obtain ⟨t, hlead, ht⟩ := ih (h.pass hp hf hn (not_not.mp hbit)) (hp' _) hf rfl (by omega)
      refine ⟨t, leads_round hl ?_, ht⟩
      rw [if_pos hn, dispatch_clear (not_not.mp hbit)]
      exact hlead

theorem Follows.running_leads (h : Follows σ s) (hl : s.obj.EvID = some n)
    (hst : s.obj.CurrentState = .reading) : ∃ t m, Leads Sys.step own s t ∧ Follows (.idle m) t := by
  rcases h.2.loop hl with ⟨-, hidle, -⟩ | ⟨m, rfl, hp, hf⟩
  · cases hidle.symm.trans hst
  · obtain ⟨t, hlead, ht⟩ := h.loop_leads hp hf hl
    exact ⟨t, 1 - m, hlead, ht⟩

theorem Follows.waiting_leads (h : Follows σ s) (hσ : σ ≠ .lost) (hl : s.obj.EvID = none) :
    ∃ t m, Leads Sys.step own s t ∧ Follows (.idle m) t := by
  have hdone : ∀ {s : Sys D} {σ}, Follows σ s → s.obj.readTxn = .done → s.obj.EvID = none →
      s.obj.CurrentState = .reading → ∃ t m, Leads Sys.step own s t ∧ Follows (.idle m) t := by
    intro s σ h hb hl hst
    obtain ⟨t, m, hlead, ht⟩ := (h.readDone hb).running_leads rfl hst
    have hstep : Sys.step s .readDone = some s.readCompleteCB := by
      simp [Sys.step, hb, hl]
    exact ⟨t, m, .head (by simp [own]) hstep hlead, ht⟩
  cases h.2 with
  | idle => exact ⟨s, _, .refl s, h⟩
  | published _ _ _ _ hi =>
    obtain ⟨τ, hτ⟩ := h.handle (by simp [hi]) hl .complete
    obtain ⟨t, m, hlead, ht⟩ := hτ.running_leads rfl rfl
    have hstep : Sys.step s (.handle .complete) = some (s.handle .complete) := by
      simp [Sys.step, hi, hl]
    exact ⟨t, m, .head (by simp [own]) hstep hlead, ht⟩
  | @onBus _ mbox _ hp hb =>
    obtain ⟨τ, hτ⟩ := h.busRead hb true
    obtain ⟨t, m, hlead, ht⟩ := hdone hτ rfl hl hp.state
    have hstep : Sys.step s (.busRead true) = some (s.readMbox mbox) := by
      simp [Sys.step, hb]
    exact ⟨t, m, .head (by simp [own]) hstep hlead, ht⟩
  | done hp hb => exact hdone h hb hl hp.state
  | looping _ _ hl' => cases hl.symm.trans hl'
  | lost => exact absurd rfl hσ

theorem Follows.leads (h : Follows σ s) (hσ : σ ≠ .lost) :
    ∃ t m, Leads Sys.step own s t ∧ Follows (.idle m) t := by
  cases hl : s.obj.EvID with
  | none => exact h.waiting_leads hσ hl
  | some n =>
    rcases h.2.loop hl with ⟨hzero, hidle, hkeep⟩ | ⟨m, rfl, hp, hf⟩
    · have hrest : Follows σ { s with obj := { s.obj with EvID := none } } := ⟨h.1, hkeep none⟩
      obtain ⟨t, m, hlead, ht⟩ := hrest.waiting_leads hσ rfl
      exact ⟨t, m, (stopped_loop_leads hl hzero hidle).trans hlead, ht⟩
    · obtain ⟨t, hlead, ht⟩ := h.loop_leads hp hf hl
      exact ⟨t, 1 - m, hlead, ht⟩

/-! ## Results -/

/-- **Firmware events are dispatched.** In a run, mailboxes are read in turn, every event of a
mailbox is dispatched once and in order, with one acknowledgement after the last callback and none
after a stop. Unless a read failed, the module's own steps lead to a state in which nothing
published is left. -/
theorem events_dispatched {buffer : EventMailBox D} {mem : Fin 2 → EventMailBox D}
    {ops : List (Op D)} (h : exec Sys.step (start buffer mem) ops = some s) :
    ∃ σ, exec Exchange.step (.idle 0) s.log = some σ ∧
      (σ ≠ .lost →
        ∃ t m, Leads Sys.step own s t ∧ exec Exchange.step (.idle 0) t.log = some (.idle m)) := by
  obtain ⟨σ, hσ⟩ := follows_run (follows_start buffer mem) h
  refine ⟨σ, hσ.1, fun hne => ?_⟩
  obtain ⟨t, m, hlead, ht⟩ := hσ.leads hne
  exact ⟨t, m, hlead, ht.1⟩

/-- Two events in mailbox A, an asynchronous read, a callback that masks an event, and the next
mailbox. -/
def twoMailboxes : List (Op ℕ) :=
  [.fwCollect ⟨3, 0, 7⟩, .fwPublish, .handle .pending, .fwCollect ⟨4, 0, 8⟩, .busRead true,
    .readDone, .dispatch [.maskEvent 1]] ++ List.replicate 31 (.dispatch []) ++
  [.busAck true, .fwPublish, .handle .complete] ++ List.replicate 32 (.dispatch [])

/-- **`events_dispatched` on `twoMailboxes`.** -/
theorem events_dispatched_twoMailboxes :
    ∃ s, exec Sys.step (start ⟨0, 0, 0⟩ fun _ => ⟨0, 0, 0⟩) twoMailboxes = some s ∧
      s.log = [.publish 0 ⟨3, 0, 7⟩, .read 0, .callback 0 (some 7), .cfgEventMask 2,
        .callback 1 (some 7), .ack, .publish 1 ⟨4, 0, 8⟩, .read 1, .callback 2 (some 8), .ack] ∧
      ∃ σ, exec Exchange.step (.idle 0) s.log = some σ ∧
        (σ ≠ .lost →
          ∃ t m, Leads Sys.step own s t ∧ exec Exchange.step (.idle 0) t.log = some (.idle m)) := by
  have hp : (exec Sys.step (start ⟨0, 0, 0⟩ fun _ => ⟨0, 0, 0⟩) twoMailboxes).map log =
      some [.publish 0 ⟨3, 0, 7⟩, .read 0, .callback 0 (some 7), .cfgEventMask 2,
        .callback 1 (some 7), .ack, .publish 1 ⟨4, 0, 8⟩, .read 1, .callback 2 (some 8), .ack] := by
    decide +kernel
  obtain ⟨s, hs, hlog⟩ := Option.map_eq_some_iff.mp hp
  exact ⟨s, hs, hlog, events_dispatched hs⟩

/-- **Events that a stop leaves are dropped.** The callback of event 0 stops the module, the loop
ends, and event 1 is never dispatched. -/
theorem stop_drops_events :
    ∃ s, exec Sys.step (start ⟨0, 0, 0⟩ fun _ => ⟨0, 0, 0⟩)
        ([.fwCollect ⟨3, 0, 7⟩, .fwPublish, .handle .complete, .dispatch [.stop]] ++
          List.replicate 31 (.dispatch [])) = some s ∧
      s.obj.EvID = none ∧ 1 ∈ events 3 ∧
      s.log = [.publish 0 ⟨3, 0, 7⟩, .read 0, .callback 0 (some 7), .stop] := by
  have hp : (exec Sys.step (start ⟨0, 0, 0⟩ fun _ => ⟨0, 0, 0⟩)
      ([.fwCollect ⟨3, 0, 7⟩, .fwPublish, .handle .complete, .dispatch [.stop]] ++
        List.replicate 31 (.dispatch []))).map (fun s => (s.obj.EvID, s.log)) =
      some (none, [.publish 0 ⟨3, 0, 7⟩, .read 0, .callback 0 (some 7), .stop]) := by
    decide +kernel
  obtain ⟨s, hs, hf⟩ := Option.map_eq_some_iff.mp hp
  obtain ⟨hl, hlog⟩ := Prod.mk.inj hf
  exact ⟨s, hs, hl, by decide, hlog⟩

end Sys

end ArchosGpl.Wlan.EventMbox
