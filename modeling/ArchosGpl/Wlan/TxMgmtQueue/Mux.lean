import ArchosGpl.Wlan.TxMgmtQueue.Model

/-!
# The mux gives the port to one side, and does not stall

`Controlled` ties the port, the enabled queues and the connection to the state of the state machine.
`Live` says why a packet may be left in a queue: the queue is blocked by the HW queues (`Blocked`),
or a request is on its way (`Asked`) in a state whose handler runs the scheduler.

`Regular` excludes the three ways in which a request comes at the wrong time: the connection opens
with a packet that waits for its request, a packet comes in while the scheduler in OPEN_MGMT is past
its queue, or a request is handled in OPEN_DATA after the packet was sent.

**`mux_sound`**: in every such run the port is open for at most one side, for the data queues only
in OPEN_DATA, and a packet that may be sent is not left without an event that runs the scheduler.
-/

namespace ArchosGpl.Wlan.TxMgmtQueue

open Lib

/-- The queues that a state of the state machine enables. -/
def enables : ESmState → EMgmtQueueTypes → Bool
  | .close | .openData => enable false false
  | .mgmt => enable true false
  | .eapol | .openMgmt => enable true true

def EQueuesMuxState.isMgmt : EQueuesMuxState → Bool
  | .mgmtQueues => true
  | .dataQueues => false

/-- The side that a state of the state machine gives the port to. -/
def muxOf : ESmState → EQueuesMuxState
  | .openData => .dataQueues
  | .close | .mgmt | .eapol | .openMgmt => .mgmtQueues

/-- The connection state that a state of the state machine belongs to. -/
def connOf : ESmState → ETxConnState
  | .close => .close
  | .mgmt => .mgmt
  | .eapol => .eapol
  | .openMgmt | .openData => .openTx

/-- The packets that a connection state permits. -/
def permitted : ETxConnState → EMgmtQueueTypes → Bool
  | .close => enable false false
  | .mgmt => enable true false
  | .eapol | .openTx => enable true true

namespace Sys

variable {s s' : Sys} {n : Bool} {q r : EMgmtQueueTypes}

/-! ## The port -/

/-- The modules' flags are the port's, the port and the enabled queues follow the state, and the
queues are busy together. -/
structure Controlled (s : Sys) : Prop where
  mgmtPort : s.mgmtQ.bMgmtPortEnable = s.port.mgmtQueueEnabled
  dataPort : s.bDataPortEnable = s.port.dataQueueEnabled
  mux : s.port.queuesMuxState = muxOf s.mgmtQ.eSmState
  mgmtOn : s.port.mgmtQueueEnabled = (!s.port.txSuspended && s.port.queuesMuxState.isMgmt)
  dataOn : s.port.dataQueueEnabled = (!s.port.txSuspended && !s.port.queuesMuxState.isMgmt)
  enabled : s.mgmtQ.aQueueEnabledBySM = enables s.mgmtQ.eSmState
  busy : ∀ q r, s.mgmtQ.aQueueBusy q = s.mgmtQ.aQueueBusy r

/-- The port after `updateQueuesStates`. -/
def opened (s : Sys) (driver : Driver) : Sys :=
  let mgmtOn := !s.port.txSuspended && s.port.queuesMuxState.isMgmt
  let dataOn := !s.port.txSuspended && !s.port.queuesMuxState.isMgmt
  { s with
    mgmtQ := { s.mgmtQ with bMgmtPortEnable := mgmtOn }
    port := { s.port with mgmtQueueEnabled := mgmtOn, dataQueueEnabled := dataOn }
    bDataPortEnable := dataOn
    driver := driver }

/-- **What `updateQueuesStates` does**: the flags follow the mux and the suspension, and the
scheduler runs if the management queues are woken with packets. -/
theorem updateQueuesStates_eq (hmgmt : s.mgmtQ.bMgmtPortEnable = s.port.mgmtQueueEnabled)
    (hdata : s.bDataPortEnable = s.port.dataQueueEnabled) :
    s.updateQueuesStates = s.opened
      (if s.port.txSuspended = false ∧ s.port.queuesMuxState = .mgmtQueues ∧
          s.port.mgmtQueueEnabled = false ∧ areAllMgmtQueuesEmpty s.mgmtQ.aQueues = false
        then .loop true .mgmt else s.driver) := by
  obtain ⟨⟨bMgmtPortEnable, state, conn, aQueues, busy, enabled⟩, ⟨mux, susp, mgmtOn, dataOn⟩, bData,
    driver, network, scheduled, hwRefused, inserted⟩ := s
  obtain rfl : bMgmtPortEnable = mgmtOn := hmgmt
  obtain rfl : bData = dataOn := hdata
  cases hempty : areAllMgmtQueuesEmpty aQueues <;> cases mux <;> cases susp <;>
    cases bMgmtPortEnable <;> cases bData <;>
    simp [updateQueuesStates, queueActions, stopAll, wakeAll, setDataPort, runSchedulerNotFromSm,
      opened, hempty, EQueuesMuxState.isMgmt]

theorem setMux_eq (hmgmt : s.mgmtQ.bMgmtPortEnable = s.port.mgmtQueueEnabled)
    (hdata : s.bDataPortEnable = s.port.dataQueueEnabled) (mux : EQueuesMuxState) :
    s.setMux mux = { s with port := { s.port with queuesMuxState := mux } }.opened
      (if s.port.txSuspended = false ∧ mux = EQueuesMuxState.mgmtQueues ∧
          s.port.mgmtQueueEnabled = false ∧ areAllMgmtQueuesEmpty s.mgmtQ.aQueues = false
        then .loop true .mgmt else s.driver) :=
  updateQueuesStates_eq (s := { s with port := { s.port with queuesMuxState := mux } }) hmgmt hdata

/-! ## The state machine -/

/-- The order of the events that the comments expect. -/
def Expected (state : ESmState) : ESmEvent → Prop
  | .eapol => state = .close ∨ state = .mgmt
  | .openTx => state = .eapol
  | .close | .mgmt | .queuesEmpty | .queuesNotEmpty => True

def nextState (state : ESmState) (empty : Bool) : ESmEvent → ESmState
  | .close => .close
  | .mgmt => .mgmt
  | .eapol => .eapol
  | .openTx => if empty then .openData else .openMgmt
  | .queuesEmpty => if state = .openMgmt then .openData else state
  | .queuesNotEmpty => if state = .openData then .openMgmt else state

/-- Where the driver's context is after an event: a wake runs the scheduler if there are packets. -/
def nextDriver (s : Sys) : ESmEvent → Driver
  | .eapol => .loop false .mgmt
  | .openTx | .queuesEmpty => s.driver
  | .close => if s.mgmtQ.eSmState = .openData then woken else s.driver
  | .mgmt => if s.mgmtQ.eSmState = .openData then woken else .loop false .mgmt
  | .queuesNotEmpty =>
    match s.mgmtQ.eSmState with
    | .openData => woken
    | .mgmt | .eapol => .loop false .mgmt
    | .close | .openMgmt => s.driver
where
  /-- After `txPort_enableMgmt` in OPEN_DATA. -/
  woken : Driver :=
    if s.port.txSuspended = false ∧ areAllMgmtQueuesEmpty s.mgmtQ.aQueues = false then
      .loop true .mgmt
    else s.driver

/-- The system with the state machine in a state and what follows it. -/
def inState (s : Sys) (state : ESmState) (driver : Driver) : Sys :=
  { s with
    mgmtQ := { s.mgmtQ with eSmState := state, aQueueEnabledBySM := enables state }
    port := { s.port with queuesMuxState := muxOf state } }.opened driver

theorem Controlled.inState (h : Controlled s) (state : ESmState) (driver : Driver) :
    Controlled (s.inState state driver) where
  mgmtPort := rfl
  dataPort := rfl
  mux := rfl
  mgmtOn := rfl
  dataOn := rfl
  enabled := rfl
  busy := h.busy

/-- The system with only the state changed. -/
def setState (s : Sys) (state : ESmState) : Sys :=
  { s with mgmtQ := { s.mgmtQ with eSmState := state, aQueueEnabledBySM := enables state } }

theorem Controlled.setState_eq (h : Controlled s) (state : ESmState) (driver : Driver)
    (hmux : muxOf s.mgmtQ.eSmState = muxOf state) :
    { s.setState state with driver := driver } = s.inState state driver := by
  obtain ⟨⟨bMgmtPortEnable, old, conn, aQueues, busy, enabled⟩, ⟨mux, susp, mgmtOn, dataOn⟩, bData,
    driver, network, scheduled, hwRefused, inserted⟩ := s
  obtain ⟨hmgmt, hdata, hold, hon, hdon, -, -⟩ := h
  dsimp only at hmgmt hdata hold hon hdon hmux
  rw [hmux] at hold
  subst hmgmt hdata hon hdon hold
  rfl

theorem Controlled.inState_self (h : Controlled s) (driver : Driver) :
    s.inState s.mgmtQ.eSmState driver = { s with driver := driver } := by
  rw [← h.setState_eq _ _ rfl, setState, ← h.enabled]

theorem Controlled.enableMgmt_eq (h : Controlled s) (hopen : s.mgmtQ.eSmState = .openData)
    (state : ESmState) (hstate : muxOf state = .mgmtQueues) :
    (s.setState state).setMux .mgmtQueues = s.inState state (nextDriver.woken s) := by
  have hoff : (s.setState state).port.mgmtQueueEnabled = false := by
    refine h.mgmtOn.trans ?_
    rw [h.mux, hopen]
    exact Bool.and_false _
  have hmux := setMux_eq (s := s.setState state) h.mgmtPort h.dataPort .mgmtQueues
  rw [hmux, Sys.inState, hstate, hoff]
  simp only [true_and]
  rfl

theorem Controlled.enableData_eq (h : Controlled s) :
    (s.setState .openData).setMux .dataQueues = s.inState .openData s.driver := by
  have hmux := setMux_eq (s := s.setState .openData) h.mgmtPort h.dataPort .dataQueues
  rw [hmux, if_neg (fun hno => by cases hno.2.1)]
  rfl

theorem muxOf_of_ne {state : ESmState} (h : state ≠ .openData) : muxOf state = .mgmtQueues := by
  cases state with
  | openData => exact absurd rfl h
  | _ => rfl

/-- **What the state machine does**: the next state, what follows it, and the scheduler. -/
theorem Controlled.mgmtQueuesSM_eq (h : Controlled s) {e : ESmEvent}
    (he : Expected s.mgmtQ.eSmState e) : s.mgmtQueuesSM e =
      s.inState (nextState s.mgmtQ.eSmState (areAllMgmtQueuesEmpty s.mgmtQ.aQueues) e)
        (s.nextDriver e) := by
  have hself := h.inState_self s.driver
  have hself' := h.inState_self (.loop false .mgmt)
  cases e with
  | close =>
    by_cases hopen : s.mgmtQ.eSmState = .openData
    · simp only [mgmtQueuesSM, TTxMgmtQ.transition, nextState, nextDriver, hopen, if_true]
      exact h.enableMgmt_eq hopen .close rfl
    · simp only [mgmtQueuesSM, TTxMgmtQ.transition, nextState, nextDriver, hopen, if_false]
      exact h.setState_eq .close s.driver (muxOf_of_ne hopen)
  | mgmt =>
    by_cases hopen : s.mgmtQ.eSmState = .openData
    · simp only [mgmtQueuesSM, TTxMgmtQ.transition, nextState, nextDriver, hopen, if_true]
      exact h.enableMgmt_eq hopen .mgmt rfl
    · simp only [mgmtQueuesSM, TTxMgmtQ.transition, nextState, nextDriver, hopen, if_false]
      exact h.setState_eq .mgmt (.loop false .mgmt) (muxOf_of_ne hopen)
  | eapol =>
    have hmux : muxOf s.mgmtQ.eSmState = .mgmtQueues := by
      rcases he with he | he <;> rw [he] <;> rfl
    exact h.setState_eq .eapol (.loop false .mgmt) hmux
  | openTx =>
    have heapol : s.mgmtQ.eSmState = .eapol := he
    cases hempty : areAllMgmtQueuesEmpty s.mgmtQ.aQueues with
    | true =>
      simp only [mgmtQueuesSM, TTxMgmtQ.transition, nextState, nextDriver, hempty, if_true]
      exact h.enableData_eq
    | false =>
      have hmux : muxOf s.mgmtQ.eSmState = .mgmtQueues := by rw [heapol]; rfl
      have hen : s.mgmtQ.aQueueEnabledBySM = enables .openMgmt := by rw [h.enabled, heapol]; rfl
      simp only [mgmtQueuesSM, TTxMgmtQ.transition, nextState, nextDriver, hempty, if_false,
        Bool.false_eq_true]
      rw [← h.setState_eq .openMgmt s.driver hmux, setState, ← hen]
  | queuesEmpty =>
    by_cases hopen : s.mgmtQ.eSmState = .openMgmt
    · simp only [mgmtQueuesSM, TTxMgmtQ.transition, nextState, nextDriver, hopen, if_true]
      exact h.enableData_eq
    · simp only [mgmtQueuesSM, TTxMgmtQ.transition, nextState, nextDriver, hopen, if_false]
      exact hself.symm
  | queuesNotEmpty =>
    simp only [mgmtQueuesSM, TTxMgmtQ.transition, nextState, nextDriver]
    cases hs : s.mgmtQ.eSmState with
    | openData =>
      exact h.enableMgmt_eq hs .openMgmt rfl
    | close | openMgmt =>
      rw [hs] at hself
      exact hself.symm
    | mgmt | eapol =>
      rw [hs] at hself'
      exact hself'.symm

/-! ## Packets that wait -/

/-- A request of the network stack is on its way. -/
def Asked (s : Sys) : Prop := s.scheduled = true ∨ s.network = .left true

/-- The HW queues hold the packets back, and will run the scheduler. -/
def Blocked (s : Sys) : Prop := (∀ q, s.mgmtQ.aQueueBusy q = true) ∨ s.hwRefused = true

/-- The scheduler was called by the state machine. -/
def fromSm : Driver → Bool
  | .loop notFromSm _ | .dequeued notFromSm _ _ | .refused notFromSm _ _ => !notFromSm
  | .outside | .ran => false

def inHand : Driver → Bool
  | .dequeued _ _ _ | .refused _ _ _ => true
  | .outside | .loop _ _ | .ran => false

/-- The scheduler is past a queue. -/
def passed : Driver → EMgmtQueueTypes → Bool
  | .loop _ uQueId, q | .dequeued _ uQueId _, q | .refused _ uQueId _, q =>
    uQueId = .eapol && q = .mgmt
  | .outside, _ | .ran, _ => true

/-- Why packets may wait: in OPEN_DATA for a request, in OPEN_MGMT for the HW queues or the resume
of the port, and in MGMT and EAPOL for any of these or for the scheduler on its way. -/
structure Live (s : Sys) : Prop where
  conn : s.mgmtQ.eTxConnState = connOf s.mgmtQ.eSmState
  fromSm : fromSm s.driver = true → s.mgmtQ.eSmState ≠ .openMgmt
  inHand : inHand s.driver = true → s.mgmtQ.eSmState ≠ .openData
  refused : ∀ n q p, s.driver = .refused n q p → s.hwRefused = true
  data : s.mgmtQ.eSmState = .openData → ∀ q, s.mgmtQ.aQueues q ≠ [] → Asked s
  held : s.mgmtQ.eSmState = .openMgmt → s.driver = .outside →
    areAllMgmtQueuesEmpty s.mgmtQ.aQueues = false ∧ (s.port.txSuspended = true ∨ Blocked s)
  waiting : s.mgmtQ.eSmState = .mgmt ∨ s.mgmtQ.eSmState = .eapol → s.port.txSuspended = false →
    ∀ q, enables s.mgmtQ.eSmState q = true → passed s.driver q = true → s.mgmtQ.aQueues q ≠ [] →
      Blocked s ∨ Asked s

theorem Live.of_loop (hdriver : s.driver = .loop n .mgmt)
    (hconn : s.mgmtQ.eTxConnState = connOf s.mgmtQ.eSmState)
    (hfrom : n = false → s.mgmtQ.eSmState ≠ .openMgmt)
    (hdata : s.mgmtQ.eSmState = .openData → ∀ q, s.mgmtQ.aQueues q ≠ [] → Asked s) : Live s where
  conn := hconn
  fromSm hn := hfrom (by simpa [hdriver, Sys.fromSm] using hn)
  inHand hp := absurd hp (by simp [hdriver, Sys.inHand])
  refused n q p hr := by simp [hdriver] at hr
  data := hdata
  held _ ho := by simp [hdriver] at ho
  waiting _ _ q _ hpassed := by simp [hdriver, passed] at hpassed

theorem Live.of_outside (hdriver : s.driver = .outside)
    (hconn : s.mgmtQ.eTxConnState = connOf s.mgmtQ.eSmState)
    (hdata : s.mgmtQ.eSmState = .openData → ∀ q, s.mgmtQ.aQueues q ≠ [] → Asked s)
    (hheld : s.mgmtQ.eSmState = .openMgmt →
      areAllMgmtQueuesEmpty s.mgmtQ.aQueues = false ∧ (s.port.txSuspended = true ∨ Blocked s))
    (hwait : s.mgmtQ.eSmState = .mgmt ∨ s.mgmtQ.eSmState = .eapol → s.port.txSuspended = false →
      ∀ q, enables s.mgmtQ.eSmState q = true → s.mgmtQ.aQueues q ≠ [] → Blocked s ∨ Asked s) :
    Live s where
  conn := hconn
  fromSm hn := by simp [hdriver, Sys.fromSm] at hn
  inHand hp := by simp [hdriver, Sys.inHand] at hp
  refused n q p hr := by simp [hdriver] at hr
  data := hdata
  held hs _ := hheld hs
  waiting hs hsusp q hen _ hne := hwait hs hsusp q hen hne

theorem eq_nil_of_empty {aQueues : EMgmtQueueTypes → List ℕ}
    (h : areAllMgmtQueuesEmpty aQueues = true) (q : EMgmtQueueTypes) : aQueues q = [] := by
  simp only [areAllMgmtQueuesEmpty, Bool.and_eq_true, List.isEmpty_iff] at h
  cases q with
  | mgmt => exact h.1
  | eapol => exact h.2

theorem not_empty_of_ne {aQueues : EMgmtQueueTypes → List ℕ} (h : aQueues q ≠ []) :
    areAllMgmtQueuesEmpty aQueues = false := by
  by_contra hempty
  exact h (eq_nil_of_empty (Bool.eq_true_of_not_eq_false hempty) q)

theorem Live.runSchedulerNotFromSm (hdriver : s.driver = .outside)
    (hconn : s.mgmtQ.eTxConnState = connOf s.mgmtQ.eSmState)
    (hdata : s.mgmtQ.eSmState = .openData → ∀ q, s.mgmtQ.aQueues q ≠ [] → Asked s)
    (hne : s.mgmtQ.eSmState = .openMgmt → areAllMgmtQueuesEmpty s.mgmtQ.aQueues = false) :
    Live s.runSchedulerNotFromSm := by
  unfold Sys.runSchedulerNotFromSm
  split
  case isTrue hempty =>
    have hnil := eq_nil_of_empty hempty
    refine Live.of_outside hdriver hconn hdata (fun hs => ?_) fun _ _ q _ hq => absurd (hnil q) hq
    rw [hne hs] at hempty
    exact absurd hempty Bool.false_ne_true
  case isFalse => exact Live.of_loop rfl hconn nofun hdata

theorem live_woken {state : ESmState} (hdriver : s.driver = .outside)
    (hconn : s.mgmtQ.eTxConnState = connOf state) (hstate : state ≠ .openData)
    (hne : state = .openMgmt → areAllMgmtQueuesEmpty s.mgmtQ.aQueues = false) :
    Live (s.inState state (nextDriver.woken s)) := by
  unfold nextDriver.woken
  split
  case isTrue => exact Live.of_loop rfl hconn nofun fun hs => absurd hs hstate
  case isFalse hno =>
    refine Live.of_outside hdriver hconn (fun hs => absurd hs hstate) (fun hs => ?_) ?_
    · refine ⟨hne hs, .inl ?_⟩
      by_contra hsusp
      exact hno ⟨Bool.eq_false_of_not_eq_true hsusp, hne hs⟩
    · intro _ hsusp q _ hq
      exact absurd ⟨hsusp, not_empty_of_ne hq⟩ hno

theorem live_queuesNotEmpty (h : Controlled s) (hdriver : s.driver = .outside)
    (hconn : s.mgmtQ.eTxConnState = connOf s.mgmtQ.eSmState)
    (hdata : s.mgmtQ.eSmState = .openData → areAllMgmtQueuesEmpty s.mgmtQ.aQueues = false)
    (hheld : s.mgmtQ.eSmState = .openMgmt →
      areAllMgmtQueuesEmpty s.mgmtQ.aQueues = false ∧ (s.port.txSuspended = true ∨ Blocked s)) :
    Live (s.mgmtQueuesSM .queuesNotEmpty) := by
  rw [h.mgmtQueuesSM_eq (e := .queuesNotEmpty) trivial]
  cases hs : s.mgmtQ.eSmState with
  | close =>
    rw [hs] at hconn
    simp only [nextState, nextDriver, hs, reduceCtorEq, if_false]
    exact Live.of_outside hdriver hconn nofun nofun nofun
  | mgmt | eapol =>
    rw [hs] at hconn
    simp only [nextState, nextDriver, hs, reduceCtorEq, if_false]
    exact Live.of_loop rfl hconn nofun nofun
  | openMgmt =>
    rw [hs] at hconn
    simp only [nextState, nextDriver, hs, reduceCtorEq, if_false]
    exact Live.of_outside hdriver hconn nofun (fun _ => hheld hs) nofun
  | openData =>
    rw [hs] at hconn
    simp only [nextState, nextDriver, hs, if_true]
    exact live_woken hdriver hconn nofun fun _ => hdata hs

theorem live_queuesEmpty (h : Controlled s) (hdriver : s.driver = .outside)
    (hconn : s.mgmtQ.eTxConnState = connOf s.mgmtQ.eSmState)
    (hempty : areAllMgmtQueuesEmpty s.mgmtQ.aQueues = true) :
    Live (s.mgmtQueuesSM .queuesEmpty) := by
  have hnil := eq_nil_of_empty hempty
  rw [h.mgmtQueuesSM_eq (e := .queuesEmpty) trivial]
  simp only [nextState, nextDriver]
  split
  case isTrue hs =>
    rw [hs] at hconn
    exact Live.of_outside hdriver hconn (fun _ q hq => absurd (hnil q) hq) nofun nofun
  case isFalse hs =>
    exact Live.of_outside hdriver hconn (fun _ q hq => absurd (hnil q) hq) (fun hs' => absurd hs' hs)
      fun _ _ q _ hq => absurd (hnil q) hq

theorem live_setConnState (h : Controlled s) (hdriver : s.driver = .outside) {c : ETxConnState}
    (he : Expected s.mgmtQ.eSmState (connEvent c))
    (hopen : c = .openTx → areAllMgmtQueuesEmpty s.mgmtQ.aQueues = false →
      s.port.txSuspended = true ∨ Blocked s) : Live (s.setConnState c) := by
  have h' : Controlled { s with mgmtQ := { s.mgmtQ with eTxConnState := c } } :=
    ⟨h.mgmtPort, h.dataPort, h.mux, h.mgmtOn, h.dataOn, h.enabled, h.busy⟩
  unfold Sys.setConnState
  rw [h'.mgmtQueuesSM_eq he]
  cases c with
  | close =>
    simp only [connEvent, nextState, nextDriver]
    split
    · exact live_woken hdriver rfl nofun nofun
    · exact Live.of_outside hdriver rfl nofun nofun nofun
  | mgmt =>
    simp only [connEvent, nextState, nextDriver]
    split
    · exact live_woken hdriver rfl nofun nofun
    · exact Live.of_loop rfl rfl nofun nofun
  | eapol => exact Live.of_loop rfl rfl nofun nofun
  | openTx =>
    simp only [connEvent, nextState, nextDriver]
    split
    case isTrue hempty =>
      have hnil := eq_nil_of_empty hempty
      exact Live.of_outside hdriver rfl (fun _ q hq => absurd (hnil q) hq) nofun nofun
    case isFalse hempty =>
      have hne := Bool.eq_false_of_not_eq_true hempty
      exact Live.of_outside hdriver rfl nofun (fun _ => ⟨hne, hopen rfl hne⟩) nofun

/-! ## The critical section of `txMgmtQ_Xmit` -/

/-- **What an insert does**: the queue is not empty afterwards, and it was empty before only if the
insert says so. -/
theorem enqueue_cases (s : Sys) (q : EMgmtQueueTypes) : ∃ aQueues : EMgmtQueueTypes → List ℕ,
    (s.enqueue q).2 = { s with
      mgmtQ := { s.mgmtQ with aQueues := aQueues }
      inserted := s.inserted + 1 } ∧
    ((s.enqueue q).1 = true → aQueues q ≠ []) ∧
    (∀ r, s.mgmtQ.aQueues r ≠ [] → aQueues r ≠ []) ∧
    ((s.enqueue q).1 = false → ∀ r, aQueues r ≠ [] → s.mgmtQ.aQueues r ≠ []) := by
  simp only [Sys.enqueue]
  split
  case isTrue hroom =>
    refine ⟨Function.update s.mgmtQ.aQueues q (s.mgmtQ.aQueues q ++ [s.inserted]), rfl, ?_, ?_, ?_⟩
    · intro _
      simp
    · intro r hr
      by_cases hrq : r = q
      · subst hrq
        simp
      · simpa [hrq] using hr
    · intro hsize r hr
      by_cases hrq : r = q
      · subst hrq
        rintro hnil
        simp [hnil] at hsize
      · simpa [hrq] using hr
  case isFalse => exact ⟨s.mgmtQ.aQueues, rfl, nofun, fun r hr => hr, fun _ r hr => hr⟩

theorem empty_of_grown {aQueues bQueues : EMgmtQueueTypes → List ℕ}
    (hgrown : ∀ r, aQueues r ≠ [] → bQueues r ≠ []) (h : areAllMgmtQueuesEmpty aQueues = false) :
    areAllMgmtQueuesEmpty bQueues = false := by
  by_contra hempty
  have hnil := eq_nil_of_empty (Bool.eq_true_of_not_eq_false hempty)
  have hall : ∀ r, aQueues r = [] := fun r => by
    by_contra hr
    exact hgrown r hr (hnil r)
  simp [areAllMgmtQueuesEmpty, hall] at h

theorem Live.xmit (h : Live s) (hc : Controlled s) (hdriver : s.driver = .outside)
    (q : EMgmtQueueTypes) : Live (s.xmit q) := by
  obtain ⟨aQueues, hs, hnew, hgrown, hold⟩ := s.enqueue_cases q
  unfold Sys.xmit
  simp only []
  rw [hs]
  split
  case isTrue hempty =>
    have hne := not_empty_of_ne (hnew hempty)
    refine live_queuesNotEmpty ⟨hc.mgmtPort, hc.dataPort, hc.mux, hc.mgmtOn, hc.dataOn, hc.enabled,
      hc.busy⟩ hdriver h.conn (fun _ => hne) fun hstate => ⟨hne, (h.held hstate hdriver).2⟩
  case isFalse hempty =>
    have hold := hold (Bool.eq_false_of_not_eq_true hempty)
    refine Live.of_outside hdriver h.conn (fun hstate r hr => h.data hstate r (hold r hr))
      (fun hstate => ?_) fun hstate hsusp r hen hr => ?_
    · obtain ⟨hne, hheld⟩ := h.held hstate hdriver
      exact ⟨empty_of_grown hgrown hne, hheld⟩
    · refine h.waiting hstate hsusp r hen ?_ (hold r hr)
      rw [hdriver]
      rfl

theorem Live.xmitExternal (h : Live s) (hnet : s.network = .outside) (q : EMgmtQueueTypes) :
    Live (s.xmitExternal q) := by
  obtain ⟨aQueues, hs, -, hgrown, hold⟩ := s.enqueue_cases q
  unfold Sys.xmitExternal
  simp only []
  rw [hs]
  generalize (s.enqueue q).1 = wasEmpty at hold
  -- a request is on its way, or the queues that hold packets are those that held some before
  have hasked : ∀ r, aQueues r ≠ [] → (wasEmpty = true ∨ s.mgmtQ.aQueues r ≠ []) := by
    intro r hr
    cases wasEmpty with
    | true => exact .inl rfl
    | false => exact .inr (hold rfl r hr)
  have hkept : Asked s → s.scheduled = true := by
    rintro (hsched | hleft)
    · exact hsched
    · rw [hnet] at hleft
      cases hleft
  constructor
  case conn => exact h.conn
  case fromSm => exact h.fromSm
  case inHand => exact h.inHand
  case refused => exact h.refused
  case data =>
    intro hstate r hr
    rcases hasked r hr with rfl | hr
    · exact .inr rfl
    · exact .inl (hkept (h.data hstate r hr))
  case held =>
    intro hstate hdriver
    obtain ⟨hne, hheld⟩ := h.held hstate hdriver
    exact ⟨empty_of_grown hgrown hne, hheld⟩
  case waiting =>
    intro hstate hsusp r hen hpassed hr
    rcases hasked r hr with rfl | hr
    · exact .inr (.inr rfl)
    · rcases h.waiting hstate hsusp r hen hpassed hr with hblocked | hasked
      · exact .inl hblocked
      · exact .inr (.inl (hkept hasked))

theorem Live.requestSchedule (h : Live s) {bRequestSchedule : Bool}
    (hnet : s.network = .left bRequestSchedule) :
    Live { s with network := .outside, scheduled := bRequestSchedule || s.scheduled } := by
  have hkept : Asked s →
      Asked { s with network := .outside, scheduled := bRequestSchedule || s.scheduled } := by
    rintro (hsched | hleft)
    · exact .inl (by simp [hsched])
    · rw [hnet, Network.left.injEq] at hleft
      exact .inl (by simp [hleft])
  exact ⟨h.conn, h.fromSm, h.inHand, h.refused, fun hs q hq => hkept (h.data hs q hq), h.held,
    fun hs hsusp q hen hp hq => (h.waiting hs hsusp q hen hp hq).imp_right hkept⟩

/-! ## The scheduler -/

theorem Live.leave (h : Live s) (hdriver : s.driver = .loop n q)
    (hclosed : s.port.txSuspended = true ∨ s.mgmtQ.eSmState = .openData) :
    Live { s with driver := leave n } := by
  have hfrom : n = false → s.mgmtQ.eSmState ≠ .openMgmt := fun hn =>
    h.fromSm (by rw [hdriver, hn]; rfl)
  constructor
  case conn => exact h.conn
  case fromSm =>
    intro hn
    cases n <;> simp [Sys.leave, Sys.fromSm] at hn
  case inHand =>
    intro hn
    cases n <;> simp [Sys.leave, Sys.inHand] at hn
  case refused =>
    intro n' q' p hn
    cases n <;> simp [Sys.leave] at hn
  case data => exact h.data
  case held =>
    intro hstate hn
    cases n with
    | true => simp [Sys.leave] at hn
    | false => exact absurd hstate (hfrom rfl)
  case waiting =>
    intro hstate hsusp
    rcases hclosed with hclosed | hclosed
    · rw [hclosed] at hsusp
      cases hsusp
    · rw [hclosed] at hstate
      rcases hstate with hstate | hstate <;> cases hstate

theorem Live.nextQueue (h : Live s) (hcur : ∀ r, passed s.driver r = (q = .eapol && r = .mgmt))
    (hfrom : n = false → s.mgmtQ.eSmState ≠ .openMgmt)
    (hq : s.mgmtQ.aQueues q ≠ [] → s.mgmtQ.aQueueEnabledBySM q = true → Blocked s)
    (hen : s.mgmtQ.aQueueEnabledBySM = enables s.mgmtQ.eSmState) :
    Live { s with driver := nextQueue n q } := by
  constructor
  case conn => exact h.conn
  case fromSm =>
    intro hn
    cases q <;> cases n <;> simp [Sys.nextQueue, Sys.leave, Sys.fromSm] at hn
    exact hfrom rfl
  case inHand =>
    intro hn
    cases q <;> cases n <;> simp [Sys.nextQueue, Sys.leave, Sys.inHand] at hn
  case refused =>
    intro n' q' p hn
    cases q <;> cases n <;> simp [Sys.nextQueue, Sys.leave] at hn
  case data => exact h.data
  case held =>
    intro hstate hn
    cases n with
    | true => cases q <;> simp [Sys.nextQueue, Sys.leave] at hn
    | false => exact absurd hstate (hfrom rfl)
  case waiting =>
    intro hstate hsusp r henr hpassed hr
    by_cases hrq : r = q
    · subst hrq
      exact .inl (hq hr (by rw [hen]; exact henr))
    · -- another queue is passed now only if it was passed before
      refine h.waiting hstate hsusp r henr ?_ hr
      cases q <;> cases r <;> cases n <;>
        simp_all [Sys.nextQueue, Sys.leave, passed]

theorem Live.iterate (h : Live s) (hc : Controlled s) (hdriver : s.driver = .loop n q) :
    Live (s.iterate n q) := by
  have hfrom : n = false → s.mgmtQ.eSmState ≠ .openMgmt := fun hn =>
    h.fromSm (by rw [hdriver, hn]; rfl)
  have hcur : ∀ r, passed s.driver r = (q = .eapol && r = .mgmt) := fun r => by rw [hdriver]; rfl
  unfold Sys.iterate
  split
  case isTrue hclosed =>
    refine h.leave hdriver ?_
    rw [hc.mgmtPort, hc.mgmtOn, hc.mux] at hclosed
    by_contra! hopen
    rw [muxOf_of_ne hopen.2, Bool.eq_false_of_not_eq_true hopen.1] at hclosed
    exact absurd hclosed (by simp [EQueuesMuxState.isMgmt])
  case isFalse =>
    split
    case isTrue hfree =>
      rw [Bool.and_eq_true, Bool.not_eq_true'] at hfree
      split
      case h_1 hnil =>
        exact h.nextQueue hcur hfrom (fun hne => absurd hnil hne) hc.enabled
      case h_2 p rest hcons =>
        have hstate : s.mgmtQ.eSmState ≠ .openData := by
          intro hs
          have hoff := hfree.2
          rw [hc.enabled, hs] at hoff
          cases q <;> cases hoff
        constructor
        case conn => exact h.conn
        case fromSm => exact fun hn => hfrom (by simpa [Sys.fromSm] using hn)
        case inHand => exact fun _ => hstate
        case refused => exact nofun
        case data => exact fun hs => absurd hs hstate
        case held => exact nofun
        case waiting =>
          intro hs hsusp r hen hpassed hr
          have hrq : r ≠ q := by
            rintro rfl
            cases r <;> simp [passed] at hpassed
          refine h.waiting hs hsusp r hen ?_ ?_
          · rw [hcur]
            exact hpassed
          · simpa [hrq] using hr
    case isFalse hbusy =>
      refine h.nextQueue hcur hfrom (fun _ hen => .inl fun r => ?_) hc.enabled
      rw [hc.busy r q]
      by_contra hfree
      exact hbusy (by simp [hen, hfree])

theorem Live.xmitMgmt (h : Live s) {p : ℕ} (hdriver : s.driver = .dequeued n q p)
    (eHwQueStatus : ETxHwQueStatus) (busy : Bool) :
    Live (s.xmitMgmt n q p eHwQueStatus busy) := by
  have hfrom : n = false → s.mgmtQ.eSmState ≠ .openMgmt := fun hn =>
    h.fromSm (by rw [hdriver, hn]; rfl)
  have hstate : s.mgmtQ.eSmState ≠ .openData := h.inHand (by rw [hdriver]; rfl)
  cases eHwQueStatus with
  | success | stopNext => exact Live.of_loop rfl h.conn hfrom fun hs => absurd hs hstate
  | stopCurrent =>
    constructor
    case conn => exact h.conn
    case fromSm => exact fun hn => hfrom (by simpa [Sys.xmitMgmt, Sys.fromSm] using hn)
    case inHand => exact fun _ => hstate
    case refused => exact fun _ _ _ _ => rfl
    case data => exact fun hs => absurd hs hstate
    case held => exact nofun
    case waiting => exact fun _ _ _ _ _ _ => .inl (.inr rfl)

theorem Live.requeue (h : Live s) (hc : Controlled s) {p : ℕ} (hdriver : s.driver = .refused n q p) :
    Live (s.requeue n q p) := by
  have hfrom : n = false → s.mgmtQ.eSmState ≠ .openMgmt := fun hn =>
    h.fromSm (by rw [hdriver, hn]; rfl)
  have hstate : s.mgmtQ.eSmState ≠ .openData := h.inHand (by rw [hdriver]; rfl)
  have hblocked : s.hwRefused = true := h.refused n q p hdriver
  have h' : ∀ queue, Live { s with mgmtQ := { s.mgmtQ with
      aQueues := Function.update s.mgmtQ.aQueues q queue } } := by
    intro queue
    refine ⟨h.conn, h.fromSm, h.inHand, h.refused, fun hs => absurd hs hstate, ?_,
      fun _ _ _ _ _ _ => .inl (.inr hblocked)⟩
    intro _ ho
    rw [hdriver] at ho
    cases ho
  exact (h' _).nextQueue (fun r => by rw [hdriver]; rfl) hfrom (fun _ _ => .inr hblocked) hc.enabled

theorem Live.testEmpty (h : Live s) (hc : Controlled s) (hdriver : s.driver = .ran)
    (hheld : s.mgmtQ.eSmState = .openMgmt → areAllMgmtQueuesEmpty s.mgmtQ.aQueues = false →
      s.port.txSuspended = true ∨ Blocked s) : Live s.testEmpty := by
  unfold Sys.testEmpty
  simp only []
  split
  case isTrue hempty =>
    refine live_queuesEmpty ⟨hc.mgmtPort, hc.dataPort, hc.mux, hc.mgmtOn, hc.dataOn, hc.enabled,
      hc.busy⟩ rfl h.conn hempty
  case isFalse hempty =>
    have hne := Bool.eq_false_of_not_eq_true hempty
    refine Live.of_outside rfl h.conn h.data (fun hs => ⟨hne, hheld hs hne⟩) ?_
    intro hs hsusp r hen hr
    refine h.waiting hs hsusp r hen ?_ hr
    rw [hdriver]
    rfl

/-! ## The port's and `txCtrl`'s calls -/

theorem Live.updateBusyMap (h : Live s) (hdriver : s.driver = .outside) (busy : Bool) :
    Live (s.updateBusyMap busy) :=
  Live.runSchedulerNotFromSm hdriver h.conn h.data fun hs => (h.held hs hdriver).1

theorem Live.setSuspended (h : Live s) (hc : Controlled s) (hdriver : s.driver = .outside)
    (txSuspended : Bool) : Live (s.setSuspended txSuspended) := by
  have heq := updateQueuesStates_eq (s := { s with port := { s.port with txSuspended := txSuspended } })
    hc.mgmtPort hc.dataPort
  unfold Sys.setSuspended
  rw [heq]
  split
  case isTrue hwake =>
    exact Live.of_loop rfl h.conn nofun h.data
  case isFalse hno =>
    -- a port that is not woken with packets was not suspended before
    have hold : s.mgmtQ.eSmState ≠ .openData → txSuspended = false →
        areAllMgmtQueuesEmpty s.mgmtQ.aQueues = false → s.port.txSuspended = false := by
      intro hs hsusp hne
      have hon : s.port.mgmtQueueEnabled = true := by
        by_contra hoff
        exact hno ⟨hsusp, hc.mux.trans (muxOf_of_ne hs), Bool.eq_false_of_not_eq_true hoff, hne⟩
      rw [hc.mgmtOn, Bool.and_eq_true, Bool.not_eq_true'] at hon
      exact hon.1
    refine Live.of_outside hdriver h.conn h.data (fun hs => ?_) fun hs hsusp q hen hq => ?_
    · obtain ⟨hne, hheld⟩ := h.held hs hdriver
      refine ⟨hne, ?_⟩
      cases txSuspended with
      | true => exact .inl rfl
      | false =>
        have hs' : s.mgmtQ.eSmState = .openMgmt := hs
        have hwas := hold (by rw [hs']; nofun) rfl hne
        rw [hwas] at hheld
        exact .inr (hheld.resolve_left Bool.false_ne_true)
    · have hs' : s.mgmtQ.eSmState ≠ .openData := by
        rcases hs with hs | hs <;> exact fun hno => by cases hs.symm.trans hno
      refine h.waiting hs (hold hs' hsusp (not_empty_of_ne hq)) q hen ?_ hq
      rw [hdriver]
      rfl

/-! ## Runs -/

/-- Connection states are set in the order that the comments expect. -/
def Ordered (s : Sys) : Op → Prop
  | .setConnState c => Expected s.mgmtQ.eSmState (connEvent c)
  | _ => True

/-- A request is not handled at the wrong time: the connection opens only when no packet waits for
one; in OPEN_MGMT the scheduler leaves no packet; and in OPEN_DATA the packet of a request is still
there. -/
def Regular (s : Sys) : Op → Prop
  | .setConnState .openTx => areAllMgmtQueuesEmpty s.mgmtQ.aQueues = false →
    s.port.txSuspended = true ∨ Blocked s
  | .testEmpty => s.mgmtQ.eSmState = .openMgmt → areAllMgmtQueuesEmpty s.mgmtQ.aQueues = false →
    s.port.txSuspended = true ∨ Blocked s
  | .queuesNotEmpty => s.mgmtQ.eSmState = .openData → areAllMgmtQueuesEmpty s.mgmtQ.aQueues = false
  | _ => True

instance (state : ESmState) : (e : ESmEvent) → Decidable (Expected state e)
  | .eapol => inferInstanceAs (Decidable (_ ∨ _))
  | .openTx => inferInstanceAs (Decidable (_ = _))
  | .close | .mgmt | .queuesEmpty | .queuesNotEmpty => isTrue trivial

instance (s : Sys) : Decidable (Blocked s) := inferInstanceAs (Decidable (_ ∨ _))

instance (s : Sys) : (op : Op) → Decidable (Ordered s op)
  | .setConnState _ => inferInstanceAs (Decidable (Expected _ _))
  | .xmit _ | .xmitExternal _ | .requestSchedule | .queuesNotEmpty | .updateBusyMap _
  | .setSuspended _ | .iterate | .xmitMgmt _ _ | .requeue | .testEmpty => isTrue trivial

instance (s : Sys) : (op : Op) → Decidable (Regular s op)
  | .setConnState .openTx | .testEmpty | .queuesNotEmpty => inferInstanceAs (Decidable (_ → _))
  | .setConnState .close | .setConnState .mgmt | .setConnState .eapol | .xmit _ | .xmitExternal _
  | .requestSchedule | .updateBusyMap _ | .setSuspended _ | .iterate | .xmitMgmt _ _ | .requeue =>
    isTrue trivial

theorem Controlled.opened (h : Controlled s) (driver : Driver) (txSuspended : Bool) :
    Controlled ({ s with port := { s.port with txSuspended := txSuspended } }.opened driver) where
  mgmtPort := rfl
  dataPort := rfl
  mux := h.mux
  mgmtOn := rfl
  dataOn := rfl
  enabled := h.enabled
  busy := h.busy

theorem Controlled.congr (h : Controlled s) (hport : s'.port = s.port)
    (hdata : s'.bDataPortEnable = s.bDataPortEnable)
    (hmgmt : s'.mgmtQ.bMgmtPortEnable = s.mgmtQ.bMgmtPortEnable)
    (hstate : s'.mgmtQ.eSmState = s.mgmtQ.eSmState)
    (hen : s'.mgmtQ.aQueueEnabledBySM = s.mgmtQ.aQueueEnabledBySM)
    (hbusy : ∀ q r, s'.mgmtQ.aQueueBusy q = s'.mgmtQ.aQueueBusy r) : Controlled s' where
  mgmtPort := by rw [hmgmt, hport]; exact h.mgmtPort
  dataPort := by rw [hdata, hport]; exact h.dataPort
  mux := by rw [hport, hstate]; exact h.mux
  mgmtOn := by rw [hport]; exact h.mgmtOn
  dataOn := by rw [hport]; exact h.dataOn
  enabled := by rw [hen, hstate]; exact h.enabled
  busy := hbusy

theorem Controlled.mgmtQueuesSM (h : Controlled s) {e : ESmEvent}
    (he : Expected s.mgmtQ.eSmState e) : Controlled (s.mgmtQueuesSM e) := by
  rw [h.mgmtQueuesSM_eq he]
  exact h.inState _ _

theorem Controlled.enqueue (h : Controlled s) (q : EMgmtQueueTypes) :
    Controlled (s.enqueue q).2 := by
  obtain ⟨aQueues, hs, -⟩ := s.enqueue_cases q
  rw [hs]
  exact h.congr rfl rfl rfl rfl rfl h.busy

theorem Controlled.xmit (h : Controlled s) (q : EMgmtQueueTypes) : Controlled (s.xmit q) := by
  have henq := h.enqueue q
  unfold Sys.xmit
  simp only []
  split
  · exact henq.mgmtQueuesSM (e := .queuesNotEmpty) trivial
  · exact henq

theorem Controlled.runSchedulerNotFromSm (h : Controlled s) :
    Controlled s.runSchedulerNotFromSm := by
  unfold Sys.runSchedulerNotFromSm
  split
  · exact h
  · exact h.congr rfl rfl rfl rfl rfl h.busy

theorem Controlled.setSuspended (h : Controlled s) (txSuspended : Bool) :
    Controlled (s.setSuspended txSuspended) := by
  have heq := updateQueuesStates_eq (s := { s with port := { s.port with txSuspended := txSuspended } })
    h.mgmtPort h.dataPort
  unfold Sys.setSuspended
  rw [heq]
  exact h.opened _ _

theorem Controlled.iterate (h : Controlled s) (n : Bool) (q : EMgmtQueueTypes) :
    Controlled (s.iterate n q) := by
  unfold Sys.iterate
  split
  · exact h.congr rfl rfl rfl rfl rfl h.busy
  · split
    · split <;> exact h.congr rfl rfl rfl rfl rfl h.busy
    · exact h.congr rfl rfl rfl rfl rfl h.busy

theorem Controlled.xmitMgmt (h : Controlled s) (n : Bool) (q : EMgmtQueueTypes) (p : ℕ)
    (eHwQueStatus : ETxHwQueStatus) (busy : Bool) :
    Controlled (s.xmitMgmt n q p eHwQueStatus busy) := by
  cases eHwQueStatus with
  | success => exact h.congr rfl rfl rfl rfl rfl h.busy
  | stopNext | stopCurrent => exact h.congr rfl rfl rfl rfl rfl fun _ _ => rfl

theorem Controlled.testEmpty (h : Controlled s) : Controlled s.testEmpty := by
  have h' : Controlled { s with driver := .outside } := h.congr rfl rfl rfl rfl rfl h.busy
  unfold Sys.testEmpty
  simp only []
  split
  · exact h'.mgmtQueuesSM (e := .queuesEmpty) trivial
  · exact h'

theorem step_keeps {op : Op} (hc : Controlled s) (h : Live s) (hordered : Ordered s op)
    (hregular : Regular s op) (hs : step s op = some s') : Controlled s' ∧ Live s' := by
  cases op with
  | xmit q =>
    obtain ⟨hdriver, ⟨⟩⟩ := Option.ite_none_right_eq_some.mp hs
    exact ⟨hc.xmit q, h.xmit hc hdriver q⟩
  | xmitExternal q =>
    obtain ⟨hnet, ⟨⟩⟩ := Option.ite_none_right_eq_some.mp hs
    exact ⟨(hc.enqueue q).congr rfl rfl rfl rfl rfl (hc.enqueue q).busy, h.xmitExternal hnet q⟩
  | requestSchedule =>
    simp only [step] at hs
    split at hs
    case h_1 bRequestSchedule hnet =>
      cases hs
      exact ⟨hc.congr rfl rfl rfl rfl rfl hc.busy, h.requestSchedule hnet⟩
    case h_2 => cases hs
  | queuesNotEmpty =>
    obtain ⟨⟨-, hdriver⟩, ⟨⟩⟩ := Option.ite_none_right_eq_some.mp hs
    have hc' : Controlled { s with scheduled := false } := hc.congr rfl rfl rfl rfl rfl hc.busy
    refine ⟨hc'.mgmtQueuesSM (e := .queuesNotEmpty) trivial, ?_⟩
    exact live_queuesNotEmpty hc' hdriver h.conn hregular fun hstate => h.held hstate hdriver
  | setConnState c =>
    obtain ⟨hdriver, ⟨⟩⟩ := Option.ite_none_right_eq_some.mp hs
    have hc' : Controlled { s with mgmtQ := { s.mgmtQ with eTxConnState := c } } :=
      hc.congr rfl rfl rfl rfl rfl hc.busy
    refine ⟨hc'.mgmtQueuesSM hordered, live_setConnState hc hdriver hordered ?_⟩
    rintro rfl
    exact hregular
  | updateBusyMap busy =>
    obtain ⟨hdriver, ⟨⟩⟩ := Option.ite_none_right_eq_some.mp hs
    refine ⟨Controlled.runSchedulerNotFromSm ?_, h.updateBusyMap hdriver busy⟩
    exact hc.congr rfl rfl rfl rfl rfl fun _ _ => rfl
  | setSuspended txSuspended =>
    obtain ⟨hdriver, ⟨⟩⟩ := Option.ite_none_right_eq_some.mp hs
    exact ⟨hc.setSuspended txSuspended, h.setSuspended hc hdriver txSuspended⟩
  | iterate =>
    simp only [step] at hs
    split at hs
    case h_1 n q hdriver =>
      cases hs
      exact ⟨hc.iterate n q, h.iterate hc hdriver⟩
    case h_2 => cases hs
  | xmitMgmt eHwQueStatus busy =>
    simp only [step] at hs
    split at hs
    case h_1 n q p hdriver =>
      cases hs
      exact ⟨hc.xmitMgmt n q p eHwQueStatus busy, h.xmitMgmt hdriver eHwQueStatus busy⟩
    case h_2 => cases hs
  | requeue =>
    simp only [step] at hs
    split at hs
    case h_1 n q p hdriver =>
      cases hs
      exact ⟨hc.congr rfl rfl rfl rfl rfl hc.busy, h.requeue hc hdriver⟩
    case h_2 => cases hs
  | testEmpty =>
    obtain ⟨hdriver, ⟨⟩⟩ := Option.ite_none_right_eq_some.mp hs
    exact ⟨hc.testEmpty, h.testEmpty hc hdriver hregular⟩

theorem init_keeps : Controlled init ∧ Live init :=
  ⟨⟨rfl, rfl, rfl, rfl, rfl, funext fun q => by cases q <;> rfl, fun _ _ => rfl⟩,
    Live.of_outside rfl rfl nofun nofun nofun⟩

/-- An event on its way runs the scheduler: a request whose handler does, or the HW queues' call. -/
def Pending (s : Sys) : Prop :=
  (Asked s ∧ (s.mgmtQ.eSmState = .mgmt ∨ s.mgmtQ.eSmState = .eapol ∨ s.mgmtQ.eSmState = .openData)) ∨
    s.hwRefused = true

/-- The port is open for one side at most, for the data queues only in OPEN_DATA, and outside the
scheduler no packet that may be sent is left without a pending event. -/
structure MuxSound (s : Sys) : Prop where
  flags : s.mgmtQ.bMgmtPortEnable = s.port.mgmtQueueEnabled ∧
    s.bDataPortEnable = s.port.dataQueueEnabled
  exclusive : ¬ (s.port.mgmtQueueEnabled = true ∧ s.port.dataQueueEnabled = true)
  dataOpen : s.port.dataQueueEnabled = true → s.mgmtQ.eSmState = .openData
  progress : s.driver = .outside → s.port.txSuspended = false → ∀ q, s.mgmtQ.aQueues q ≠ [] →
    permitted s.mgmtQ.eTxConnState q = true → s.mgmtQ.aQueueBusy q = false → s.Pending

theorem Live.muxSound (h : Live s) (hc : Controlled s) : MuxSound s where
  flags := ⟨hc.mgmtPort, hc.dataPort⟩
  exclusive := by
    rintro ⟨hmgmt, hdata⟩
    rw [hc.mgmtOn, Bool.and_eq_true] at hmgmt
    rw [hc.dataOn, Bool.and_eq_true, Bool.not_eq_true', hmgmt.2] at hdata
    exact absurd hdata.2 (by decide)
  dataOpen hdata := by
    by_contra hs
    rw [hc.dataOn, hc.mux, muxOf_of_ne hs, Bool.and_eq_true] at hdata
    exact absurd hdata.2 (by decide)
  progress hdriver hsusp q hq hperm hfree := by
    have hunblock : Blocked s → s.Pending := by
      rintro (hbusy | hrefused)
      · rw [hbusy q] at hfree
        cases hfree
      · exact .inr hrefused
    rw [h.conn] at hperm
    cases hs : s.mgmtQ.eSmState with
    | close =>
      rw [hs] at hperm
      cases q <;> cases hperm
    | openMgmt =>
      have hheld := (h.held hs hdriver).2
      rw [hsusp] at hheld
      exact hunblock (hheld.resolve_left Bool.false_ne_true)
    | openData => exact .inl ⟨h.data hs q hq, .inr (.inr hs)⟩
    | mgmt =>
      rw [hs] at hperm
      rcases h.waiting (.inl hs) hsusp q (by rw [hs]; exact hperm) (by rw [hdriver]; rfl) hq with hb | ha
      · exact hunblock hb
      · exact .inl ⟨ha, .inl hs⟩
    | eapol =>
      rw [hs] at hperm
      rcases h.waiting (.inr hs) hsusp q (by rw [hs]; exact hperm) (by rw [hdriver]; rfl) hq with hb | ha
      · exact hunblock hb
      · exact .inl ⟨ha, .inr (.inl hs)⟩

/-- **The mux, in every run in the expected order whose requests come at the right time.** -/
theorem mux_sound {ops : List Op} (hordered : Along step Ordered init ops)
    (hregular : Along step Regular init ops) (he : exec step init ops = some s) : MuxSound s := by
  obtain ⟨hc, h⟩ := Along.invariant (I := fun s => Controlled s ∧ Live s)
    (fun _ _ _ hI hP hs => step_keeps hI.1 hI.2 hP.1 hP.2 hs) init_keeps (hordered.and hregular) he
  exact h.muxSound hc

/-- The connection is set up as far as EAPOL, with no packet. -/
def connectOps : List Op :=
  [.setConnState .mgmt, .iterate, .iterate, .setConnState .eapol, .iterate, .iterate]

/-- The network stack sends an EAPOL packet. -/
def eapolOps : List Op := [.xmitExternal .eapol, .requestSchedule]

/-- The driver sends it in OPEN_DATA, and the next one is on its way. -/
def sentOps : List Op :=
  connectOps ++ [.setConnState .openTx] ++ eapolOps ++
    [.queuesNotEmpty, .iterate, .iterate, .xmitMgmt .success false, .iterate, .iterate, .testEmpty] ++
    eapolOps

theorem mux_sound_sent : ∃ s, exec step init sentOps = some s ∧ s.mgmtQ.eSmState = .openData ∧
    s.mgmtQ.aQueues .eapol ≠ [] ∧ MuxSound s := by
  have hrun : (exec step init sentOps).map (fun s => (s.mgmtQ.eSmState, s.mgmtQ.aQueues .eapol)) =
      some (.openData, [1]) := by
    decide +kernel
  obtain ⟨s, hs, hfields⟩ := Option.map_eq_some_iff.mp hrun
  obtain ⟨hstate, hqueue⟩ := Prod.mk.inj hfields
  have hordered : Along step Ordered init sentOps := by
    decide +kernel
  have hregular : Along step Regular init sentOps := by
    decide +kernel
  exact ⟨s, hs, hstate, by simp [hqueue], mux_sound hordered hregular hs⟩

/-- An EAPOL packet comes in just before the connection opens: its request is handled in OPEN_MGMT,
the packet stays, and the data queues stay closed. -/
theorem eapol_before_open_stays : ∃ s,
    Along step Ordered init (connectOps ++ eapolOps ++ [.setConnState .openTx, .queuesNotEmpty]) ∧
    exec step init (connectOps ++ eapolOps ++ [.setConnState .openTx, .queuesNotEmpty]) = some s ∧
      ¬ MuxSound s := by
  have hrun : (exec step init
      (connectOps ++ eapolOps ++ [.setConnState .openTx, .queuesNotEmpty])).map
      (fun s => decide (s.driver = .outside ∧ s.port.txSuspended = false ∧
        s.mgmtQ.aQueues .eapol = [0] ∧ s.mgmtQ.aQueueBusy .eapol = false ∧
        s.mgmtQ.eTxConnState = .openTx ∧ s.scheduled = false ∧ s.network = .outside ∧
        s.hwRefused = false)) = some true := by
    decide +kernel
  obtain ⟨s, hs, hfields⟩ := Option.map_eq_some_iff.mp hrun
  obtain ⟨hdriver, hsusp, hqueue, hfree, hconn, hsched, hnet, hrefused⟩ :=
    of_decide_eq_true hfields
  refine ⟨s, by decide +kernel, hs, fun h => ?_⟩
  rcases h.progress hdriver hsusp .eapol (by simp [hqueue]) (by rw [hconn]; rfl) hfree with
    ⟨hasked | hasked, -⟩ | hblocked
  · rw [hsched] at hasked
    cases hasked
  · rw [hnet] at hasked
    cases hasked
  · rw [hrefused] at hblocked
    cases hblocked

end Sys

end ArchosGpl.Wlan.TxMgmtQueue
