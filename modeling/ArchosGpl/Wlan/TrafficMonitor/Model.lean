import Mathlib.Logic.Function.Basic
import ArchosGpl.Lib.Cursor
import ArchosGpl.Lib.Machine
import ArchosGpl.Lib.Word

/-!
# The traffic monitor (`Data_link/TrafficMonitor.c`, the list of `GeneralUtil.c`)

Clients register alerts: an *up* alert is raised when more than its threshold is counted within its
interval, a *down* alert when an interval ends with no more than its threshold. An *edge* alert that
was raised waits until an alert that has it as a reset element is raised. Up alerts are checked at
each traffic event, down alerts when the periodic down timer expires; that timer runs while a down
edge alert is armed (`TrafficMonitor_UpdateDownTrafficTimerState`).

The alerts are the slots of a list with one cursor, which every loop over the list moves. An alert's
callback may call `TrafficMonitor_StartEventNotif` and `TrafficMonitor_StopEventNotif`, which loop
over the same list; what the callbacks call is an input of the operation that raises the alerts.

`time` is the time since the clock started, of which `os_timeStampMs` gives the low 32 bits, and
`log` says what happened to the alerts; the code reads neither. An overflow of the signed counters
is undefined in the source and not modelled.
-/

open Function (update)

namespace ArchosGpl.Wlan.TrafficMonitor

open Lib

/-! ## Alerts -/

inductive TraffAlertState
  | waitForReset
  | off
  | on
  deriving DecidableEq, Repr

inductive TraffDirection
  | up
  | down
  deriving DecidableEq, Repr

inductive TraffTrigger
  | edge
  | level
  deriving DecidableEq, Repr

inductive TraffEvntOptNum
  | txAllMsduFrames
  | rxAllMsduFrames
  | txRxDirectedFrames
  | txRxAllMsduFrames
  | txRxAllMsduInBytes
  | txRxDirectedInBytes
  | txRxAll80211DataInBytes
  | txRxAll80211DataFrames
  deriving DecidableEq, Repr

/-- What `ActionFunc` points to. -/
inductive TraffActionFunc
  | simpleByteAggregation
  | simpleFrameAggregation
  deriving DecidableEq, Repr

/-- What is counted for an event: by `SimpleByteAggregation` its count, by
`SimpleFrameAggregation` one. -/
def TraffActionFunc.amount (count : ℤ) : TraffActionFunc → ℤ
  | .simpleByteAggregation => count
  | .simpleFrameAggregation => 1

/-- `TX_TRAFF_MODULE` -/
def txTraffModule : ℕ := 0

/-- `RX_TRAFF_MODULE` -/
def rxTraffModule : ℕ := 1

/-- `DIRECTED_BYTES_RECV`, `DIRECTED_BYTES_XFER` -/
def directedBytes : ℕ := 0x2

/-- `DIRECTED_FRAMES_RECV`, `DIRECTED_FRAMES_XFER` -/
def directedFrames : ℕ := 0x4

/-- `MULTICAST_BYTES_RECV`, `MULTICAST_BYTES_XFER` -/
def multicastBytes : ℕ := 0x8

/-- `MULTICAST_FRAMES_RECV`, `MULTICAST_FRAMES_XFER` -/
def multicastFrames : ℕ := 0x10

/-- `BROADCAST_BYTES_RECV`, `BROADCAST_BYTES_XFER` -/
def broadcastBytes : ℕ := 0x20

/-- `BROADCAST_FRAMES_RECV`, `BROADCAST_FRAMES_XFER` -/
def broadcastFrames : ℕ := 0x40

/-- `TrafficAlertElement_t`; `callBack` says whether there is one. The defaults are what
`List_AllocElement` leaves, all zero. -/
structure TrafficAlertElement where
  currentState : TraffAlertState := .waitForReset
  eventCounter : ℤ := 0
  threshold : ℤ := 0
  timeOut : ℕ := 0
  direction : TraffDirection := .up
  trigger : TraffTrigger := .edge
  enabled : Bool := false
  lastCounte : ℤ := 0
  callBack : Bool := false
  timeIntervalMs : ℕ := 0
  autoCreated : Bool := false
  rstWasAssigned : Bool := false
  actionFunc : TraffActionFunc := .simpleByteAggregation
  monitorMask : ℕ → ℕ := fun _ => 0
  resetElment : Fin 3 → Option ℕ := fun _ => none

structure TrafficAlertRegParm where
  callBack : Bool
  direction : TraffDirection
  trigger : TraffTrigger
  threshold : ℤ
  timeIntervalMs : ℕ
  monitorType : TraffEvntOptNum
  deriving DecidableEq, Repr

/-- The sliding windows of `BandWidth_t`. -/
structure BandWidth where
  currentWindow : ℕ := 0
  firstEventsTS : ℕ → ℕ := fun _ => 0
  windowCounter : ℕ → ℕ := fun _ => 0

/-- What happened to an alert. -/
inductive Note
  /-- The monitor was started. -/
  | started
  /-- `n` was counted for the alert. -/
  | counted (i : ℕ) (n : ℤ)
  /-- An interval of the alert began, with `c` counted in it. -/
  | begun (i t : ℕ) (c : ℤ)
  /-- The alert was armed by another one, which begins an interval. -/
  | armed (i t : ℕ)
  /-- The alert was raised; `called` says whether its callback was called. -/
  | crossed (i t : ℕ) (called : Bool)
  deriving DecidableEq, Repr

/-- `MAX_MONITORED_REQ` -/
def maxMonitoredReq : ℕ := 32

/-- `MIN_INTERVAL_PERCENT` -/
def minIntervalPercent : ℕ := 50

/-- `TrafficMonitor_t` with its list; `hTrafficMonTimer` is the period of the timer while it runs. -/
structure TrafficMonitorT where
  active : Bool := false
  inuse : ℕ → Bool := fun _ => false
  container : ℕ → TrafficAlertElement := fun _ => {}
  currentIndex : ℕ := 0
  directTxFrameBW : BandWidth := {}
  directRxFrameBW : BandWidth := {}
  trafficDownTestIntervalPercent : ℕ := minIntervalPercent
  downTimerEnabled : Bool := false
  hTrafficMonTimer : Option ℕ := none
  time : ℕ := 0
  log : List Note := []

/-- A call to the monitor from a callback: `TrafficMonitor_StartEventNotif` or
`TrafficMonitor_StopEventNotif`. -/
inductive NotifCall
  | start (i : ℕ)
  | stop (i : ℕ)
  deriving DecidableEq, Repr

namespace TrafficMonitorT

variable (m : TrafficMonitorT)

/-- `os_timeStampMs` -/
def osTimeStampMs : ℕ := m.time % 2 ^ 32

def note (x : Note) : TrafficMonitorT := { m with log := m.log ++ [x] }

/-- Change the alert in slot `i`. -/
def modify (i : ℕ) (f : TrafficAlertElement → TrafficAlertElement) : TrafficMonitorT :=
  { m with container := update m.container i (f (m.container i)) }

/-! ## The list -/

/-- `List_GetFirst`, `List_GetNext` -/
def list : Cursor TrafficMonitorT where
  size := maxMonitoredReq
  inuse := inuse
  cursor := currentIndex
  moved k m := { m with currentIndex := k }

/-- `List_AllocElement` -/
def listAllocElement : Option (ℕ × TrafficMonitorT) :=
  ((List.range maxMonitoredReq).find? fun i => !m.inuse i).map fun i =>
    (i, { m with
      inuse := update m.inuse i true
      container := update m.container i {} })

/-- `List_FreeElement`; a pointer that is not a container of the list frees nothing. -/
def listFreeElement : Option ℕ → TrafficMonitorT
  | some i => { m with inuse := update m.inuse i false }
  | none => m

end TrafficMonitorT

/-! ## The down timer -/

/-- The condition under which the loops count an alert: an enabled armed down edge alert. -/
def TrafficAlertElement.activeTrafDown (e : TrafficAlertElement) : Bool :=
  decide (e.direction = .down) && decide (e.trigger = .edge) && decide (e.currentState = .off) &&
    e.enabled

/-- A loop over the list with the counters `activeTrafDownEventsNum` and
`trafficDownMinTimeout`. -/
structure Pass where
  tm : TrafficMonitorT
  activeTrafDownEventsNum : ℕ := 0
  trafficDownMinTimeout : ℕ := 0xFFFFFFFF

namespace Pass

def list : Cursor Pass where
  size := maxMonitoredReq
  inuse p := p.tm.inuse
  cursor p := p.tm.currentIndex
  moved k p := { p with tm := { p.tm with currentIndex := k } }

/-- Count the alert in slot `k` if it is active, and keep the shortest interval. -/
def count (k : ℕ) (p : Pass) : Pass :=
  let e := p.tm.container k
  if e.activeTrafDown then
    { p with
      activeTrafDownEventsNum := p.activeTrafDownEventsNum + 1
      trafficDownMinTimeout :=
        if e.timeIntervalMs < p.trafficDownMinTimeout then e.timeIntervalMs
        else p.trafficDownMinTimeout }
  else p

end Pass

namespace TrafficMonitorT

variable (m : TrafficMonitorT)

/-- `TrafficMonitor_ChangeDownTimerStatus` -/
def changeDownTimerStatus (downEventsFound minIntervalTime : ℕ) : TrafficMonitorT :=
  if downEventsFound = 0 ∧ m.downTimerEnabled = true then
    { m with downTimerEnabled := false, hTrafficMonTimer := none }
  else if 0 < downEventsFound ∧ m.downTimerEnabled = false then
    { m with
      downTimerEnabled := true
      hTrafficMonTimer :=
        some ((minIntervalTime * m.trafficDownTestIntervalPercent) % 2 ^ 32 / 100) }
  else m

end TrafficMonitorT

/-- The end of a loop that counted. -/
def Pass.changeDownTimerStatus (p : Pass) : TrafficMonitorT :=
  p.tm.changeDownTimerStatus p.activeTrafDownEventsNum p.trafficDownMinTimeout

namespace TrafficMonitorT

variable (m : TrafficMonitorT)

/-- `TrafficMonitor_UpdateDownTrafficTimerState` -/
def updateDownTrafficTimerState : TrafficMonitorT :=
  (Pass.list.walk Pass.count { tm := m }).changeDownTimerStatus

/-- `TrafficMonitor_StartEventNotif` -/
def startEventNotif (i : ℕ) : TrafficMonitorT :=
  (m.modify i fun e => { e with enabled := true }).updateDownTrafficTimerState

/-- `TrafficMonitor_StopEventNotif` -/
def stopEventNotif (i : ℕ) : TrafficMonitorT :=
  (m.modify i fun e => { e with enabled := false }).updateDownTrafficTimerState

/-- `TrafficMonitor_ResetEvent` -/
def resetEvent (i : ℕ) : TrafficMonitorT :=
  (m.modify i fun e => { e with currentState := .off }).updateDownTrafficTimerState

def notif : NotifCall → TrafficMonitorT
  | .start i => m.startEventNotif i
  | .stop i => m.stopEventNotif i

/-! ## Thresholds -/

/-- A new interval of the alert, with `c` counted in it: its counter and its `TimeOut` are set. -/
def beginInterval (i now : ℕ) (c : ℤ) : TrafficMonitorT :=
  (m.modify i fun e =>
    { e with eventCounter := c, timeOut := add32 now e.timeIntervalMs }).note (.begun i m.time c)

/-- A reset element that waits is armed. -/
def armReset (now : ℕ) : Option ℕ → TrafficMonitorT
  | none => m
  | some j =>
    if (m.container j).currentState = .waitForReset then
      (m.modify j fun e =>
        { e with
          currentState := .off
          eventCounter := 0
          timeOut := add32 now e.timeIntervalMs }).note (.armed j m.time)
    else m

/-- The loop over `ResetElment`. -/
def armResets (k now : ℕ) : TrafficMonitorT :=
  ((List.finRange 3).map (m.container k).resetElment).foldl (fun m r => m.armReset now r) m

/-- An edge alert that was raised waits and its reset elements are armed, a level alert is on. -/
def toggle (k now : ℕ) : TrafficMonitorT :=
  match (m.container k).trigger with
  | .edge => (m.modify k fun e => { e with currentState := .waitForReset }).armResets k now
  | .level => m.modify k fun e => { e with currentState := .on }

/-- The condition under which the callback is called. -/
def notified (k : ℕ) : Bool := (m.container k).callBack && (m.container k).enabled

/-- The call of `CallBack`, which makes the calls `react k`. -/
def callBack (react : ℕ → List NotifCall) (k : ℕ) : TrafficMonitorT :=
  if m.notified k then (react k).foldl notif m else m

/-- The alert `k` is raised. -/
def cross (k : ℕ) : TrafficMonitorT := m.note (.crossed k m.time (m.notified k))

/-- `isThresholdUp` once `TimeOut` has been looked at. -/
def checkUp (react : ℕ → List NotifCall) (k now : ℕ) : TrafficMonitorT :=
  if (m.container k).threshold < (m.container k).eventCounter then
    (((m.cross k).beginInterval k now 0).toggle k now).callBack react k
  else m

/-- `isThresholdUp` -/
def isThresholdUp (react : ℕ → List NotifCall) (k now : ℕ) : TrafficMonitorT :=
  if (m.container k).timeOut < now then
    (m.beginInterval k now (m.container k).lastCounte).checkUp react k now
  else m.checkUp react k now

/-- `isThresholdDown` -/
def isThresholdDown (react : ℕ → List NotifCall) (k now : ℕ) : TrafficMonitorT :=
  let e := m.container k
  if e.timeOut ≤ now then
    if e.eventCounter ≤ e.threshold then
      (((m.cross k).toggle k now).callBack react k).beginInterval k now 0
    else m.beginInterval k now 0
  else if e.threshold < e.eventCounter then m.beginInterval k now 0
  else m

/-- The call of `ActionFunc`. -/
def actionFunc (k : ℕ) (count : ℤ) : TrafficMonitorT :=
  let n := (m.container k).actionFunc.amount count
  (m.modify k fun e =>
    { e with eventCounter := e.eventCounter + n, lastCounte := n }).note (.counted k n)

/-! ## Start and stop -/

/-- `TrafficMonitor_Start` for one alert. -/
def startElement (now k : ℕ) (m : TrafficMonitorT) : TrafficMonitorT :=
  if (m.container k).currentState ≠ .waitForReset then m.beginInterval k now 0 else m

/-- `TrafficMonitor_Start` -/
def start : TrafficMonitorT :=
  let m := if m.active then m else m.updateDownTrafficTimerState
  { list.walk (startElement m.osTimeStampMs) (m.note .started) with active := true }

/-- `TrafficMonitor_Stop` -/
def stop : TrafficMonitorT :=
  let m :=
    if m.active then { m with active := false, downTimerEnabled := false, hTrafficMonTimer := none }
    else m
  list.walk (fun k m => m.modify k fun e => { e with currentState := .off }) m

end TrafficMonitorT

/-! ## Registration -/

/-- `TrafficMonitor_SetMask` -/
def TrafficAlertElement.setMask (e : TrafficAlertElement) (maskType : TraffEvntOptNum) :
    TrafficAlertElement :=
  let setMasks (f : TraffActionFunc) (tx rx : ℕ) : TrafficAlertElement :=
    { e with
      actionFunc := f
      monitorMask := fun i =>
        if i = rxTraffModule ∧ rx ≠ 0 then rx else if i = txTraffModule ∧ tx ≠ 0 then tx
        else e.monitorMask i }
  let allFrames := directedFrames ||| multicastFrames ||| broadcastFrames
  let allBytes := directedBytes ||| multicastBytes ||| broadcastBytes
  match maskType with
  | .txRxDirectedFrames => setMasks .simpleFrameAggregation directedFrames directedFrames
  | .txAllMsduFrames => setMasks .simpleFrameAggregation allFrames 0
  | .rxAllMsduFrames => setMasks .simpleFrameAggregation 0 allFrames
  | .txRxAllMsduFrames => setMasks .simpleFrameAggregation allFrames allFrames
  | .txRxAllMsduInBytes => setMasks .simpleByteAggregation allBytes allBytes
  | .txRxDirectedInBytes => setMasks .simpleByteAggregation directedBytes directedBytes
  | .txRxAll80211DataInBytes =>
    setMasks .simpleByteAggregation (directedBytes ||| multicastBytes)
      (directedBytes ||| multicastBytes)
  | .txRxAll80211DataFrames =>
    setMasks .simpleFrameAggregation (directedFrames ||| multicastFrames)
      (directedFrames ||| multicastFrames)

def TraffDirection.opposite : TraffDirection → TraffDirection
  | .up => .down
  | .down => .up

/-- `FindRstElemEntryIndex` -/
def TrafficAlertElement.findRstElemEntryIndex (e : TrafficAlertElement) : Option (Fin 3) :=
  (List.finRange 3).find? fun x => (e.resetElment x).isNone

def TrafficAlertElement.setReset (e : TrafficAlertElement) (x : Fin 3) (r : Option ℕ) :
    TrafficAlertElement :=
  { e with resetElment := update e.resetElment x r }

namespace TrafficMonitorT

variable (m : TrafficMonitorT)

/-- The element as `TrafficMonitor_RegEvent` fills it in. -/
def initElement (p : TrafficAlertRegParm) (e : TrafficAlertElement) : TrafficAlertElement :=
  { ({ e with
      callBack := p.callBack
      direction := p.direction
      threshold := p.threshold
      trigger := p.trigger
      timeIntervalMs := p.timeIntervalMs
      timeOut := add32 m.osTimeStampMs p.timeIntervalMs
      eventCounter := 0 } : TrafficAlertElement).setMask p.monitorType with
    currentState := .off
    autoCreated := false
    enabled := false }

/-- The reset element that `TrafficMonitor_RegEvent` creates for the alert `e` in slot `i`. -/
def autoReset (e : TrafficAlertElement) (i j : ℕ) (d : TraffDirection) : TrafficAlertElement :=
  { (e.setReset 0 (some j)).setReset 0 (some i) with
    callBack := false
    direction := d.opposite
    currentState := .waitForReset
    autoCreated := true
    rstWasAssigned := true }

/-- The registration of an alert in the slot `i`, up to the update of the timer; `none` if there is
no slot for its reset element. -/
def fillElement (p : TrafficAlertRegParm) (autoResetCreate : Bool) (i : ℕ) :
    Option TrafficMonitorT :=
  let m := m.modify i (m.initElement p)
  match p.trigger, autoResetCreate with
  | .edge, true =>
    m.listAllocElement.map fun (j, m) =>
      let e := m.container i
      (m.modify j fun _ => autoReset e i j p.direction).modify i fun e =>
        { e.setReset 0 (some j) with rstWasAssigned := true }
  | .edge, false =>
    some (m.modify i fun e => { e with rstWasAssigned := false, currentState := .waitForReset })
  | .level, _ => some m

/-- `TrafficMonitor_RegEvent`; the slot is `none` when it returns `NULL`. -/
def regEvent (p : TrafficAlertRegParm) (autoResetCreate : Bool) : Option ℕ × TrafficMonitorT :=
  match m.listAllocElement with
  | none => (none, m)
  | some (i, m) =>
    match m.fillElement p autoResetCreate i with
    | none => (none, (m.modify i (m.initElement p)).listFreeElement (some i))
    | some m => (some i, m.updateDownTrafficTimerState)

/-- The end of a wait for a reset condition: an alert that had none is armed. -/
def assignRst (i interval : ℕ) : TrafficMonitorT :=
  if (m.container i).rstWasAssigned then m
  else
    (m.modify i fun e =>
      { e with
        rstWasAssigned := true
        currentState := .off
        timeOut := add32 m.osTimeStampMs interval
        eventCounter := 0 }).note (.armed i m.time)

/-- The validity of a reset condition: both are edge alerts, of opposite directions. -/
def rstValid (i j : ℕ) : Bool :=
  decide ((m.container j).trigger = .edge) && decide ((m.container i).trigger = .edge) &&
    decide ((m.container j).direction ≠ (m.container i).direction)

/-- The part of `TrafficMonitor_SetRstCondition` for `MutualRst`, where the entry `x` of the reset
element has been written. -/
def setMutualRst (i j : ℕ) (x : Fin 3) : TrafficMonitorT :=
  match (m.container i).findRstElemEntryIndex with
  | none => m.modify j fun e => e.setReset x none
  | some y =>
    (m.modify i fun e => e.setReset y (some j)).assignRst j (m.container i).timeIntervalMs

/-- `TrafficMonitor_SetRstCondition`: the alert `i` is reset by `j`, and with `mutualRst` the
alert `j` by `i`. -/
def setRstCondition (i j : ℕ) (mutualRst : Bool) : TrafficMonitorT :=
  if m.rstValid i j then
    match (m.container j).findRstElemEntryIndex with
    | none => m
    | some x =>
      let m := (m.modify j fun e => e.setReset x (some i)).assignRst i (m.container i).timeIntervalMs
      if mutualRst then m.setMutualRst i j x else m
  else m

/-- `TrafficMonitor_CleanRelatedRef` -/
def cleanRelatedRef (i : ℕ) : TrafficMonitorT :=
  list.walk (fun k m => m.modify k fun e =>
    { e with resetElment := fun x => if e.resetElment x = some i then none else e.resetElment x }) m

/-- `TrafficMonitor_UnregEvent`. For an alert with a created reset element, the pointer it frees is
that of the array `ResetElment`, which is not a container of the list. -/
def unregEvent (i : ℕ) : TrafficMonitorT :=
  let m :=
    match (m.container i).resetElment 0 with
    | some j => if (m.container j).autoCreated then m.listFreeElement none else m
    | none => m
  ((m.cleanRelatedRef i).listFreeElement (some i)).updateDownTrafficTimerState

end TrafficMonitorT

/-! ## Traffic events and the down timer -/

/-- `TrafficMonitor_updateBW` -/
def BandWidth.updateBW (b : BandWidth) (currentTS : ℕ) : BandWidth :=
  if sub32 currentTS (b.firstEventsTS b.currentWindow) < 1000 / 8 then
    { b with
      windowCounter :=
        update b.windowCounter b.currentWindow (add32 (b.windowCounter b.currentWindow) 1) }
  else
    let w := (b.currentWindow + 1) % 8
    { currentWindow := w
      firstEventsTS := update b.firstEventsTS w currentTS
      windowCounter := update b.windowCounter w 1 }

namespace TrafficMonitorT

variable (m : TrafficMonitorT)

/-- The bandwidth part of `TrafficMonitor_Event`; `none` for a module that does not exist. -/
def eventBW (mask monitorModuleType : ℕ) : Option TrafficMonitorT :=
  if monitorModuleType = rxTraffModule then
    if mask &&& directedFrames ≠ 0 then
      some { m with directRxFrameBW := m.directRxFrameBW.updateBW m.osTimeStampMs }
    else some m
  else if monitorModuleType = txTraffModule then
    if mask &&& directedFrames ≠ 0 then
      some { m with directTxFrameBW := m.directTxFrameBW.updateBW m.osTimeStampMs }
    else some m
  else none

/-- The check of one alert in `TrafficMonitor_Event`. -/
def eventElement (react : ℕ → List NotifCall) (now : ℕ) (count : ℤ) (mask module k : ℕ) :
    TrafficMonitorT :=
  if (m.container k).monitorMask module &&& mask ≠ 0 then
    if (m.container k).direction = .up then (m.actionFunc k count).isThresholdUp react k now
    else m.actionFunc k count
  else m

end TrafficMonitorT

/-- The loop body of `TrafficMonitor_Event`. -/
def Pass.eventVisit (react : ℕ → List NotifCall) (now : ℕ) (count : ℤ) (mask module k : ℕ)
    (p : Pass) : Pass :=
  if (p.tm.container k).currentState ≠ .waitForReset then
    ({ p with tm := p.tm.eventElement react now count mask module k } : Pass).count k
  else p

/-- The loop body of `TimerMonitor_TimeOut`. -/
def Pass.timeOutVisit (react : ℕ → List NotifCall) (now k : ℕ) (p : Pass) : Pass :=
  if (p.tm.container k).currentState ≠ .waitForReset ∧ (p.tm.container k).direction = .down then
    ({ p with tm := p.tm.isThresholdDown react k now } : Pass).count k
  else p.count k

namespace TrafficMonitorT

variable (m : TrafficMonitorT)

/-- The loop of `TrafficMonitor_Event` and what follows it. -/
def eventLoop (react : ℕ → List NotifCall) (count : ℤ) (mask module : ℕ) : TrafficMonitorT :=
  (Pass.list.walk (Pass.eventVisit react m.osTimeStampMs count mask module)
    { tm := m }).changeDownTimerStatus

/-- `TrafficMonitor_Event` -/
def event (react : ℕ → List NotifCall) (count : ℤ) (mask module : ℕ) : TrafficMonitorT :=
  if m.active then
    match m.eventBW mask module with
    | some m => m.eventLoop react count mask module
    | none => m
  else m

/-- `TimerMonitor_TimeOut` -/
def timeOut (react : ℕ → List NotifCall) : TrafficMonitorT :=
  (Pass.list.walk (Pass.timeOutVisit react m.osTimeStampMs) { tm := m }).changeDownTimerStatus

end TrafficMonitorT

/-! ## Runs -/

/-- What happens to the monitor: time passes, a client calls a function, traffic is reported, the
down timer expires. `react` says what each alert's callback calls, should it be called. -/
inductive Op
  | elapse (ms : ℕ)
  | start
  | stop
  | regEvent (p : TrafficAlertRegParm) (autoResetCreate : Bool)
  | setRstCondition (i j : ℕ) (mutualRst : Bool)
  | startEventNotif (i : ℕ)
  | stopEventNotif (i : ℕ)
  | resetEvent (i : ℕ)
  | unregEvent (i : ℕ)
  | event (react : ℕ → List NotifCall) (count : ℤ) (mask module : ℕ)
  | timeOut (react : ℕ → List NotifCall)

namespace TrafficMonitorT

/-- `i` is the handle of a registered alert. -/
def registered (m : TrafficMonitorT) (i : ℕ) : Prop := i < maxMonitoredReq ∧ m.inuse i = true

instance (m : TrafficMonitorT) (i : ℕ) : Decidable (m.registered i) :=
  inferInstanceAs (Decidable (_ ∧ _))

/-- One operation. Clients pass handles of registered alerts, and the timer expires while it
runs. -/
def step (m : TrafficMonitorT) : Op → Option TrafficMonitorT
  | .elapse ms => some { m with time := m.time + ms }
  | .start => some m.start
  | .stop => some m.stop
  | .regEvent p auto => some (m.regEvent p auto).2
  | .setRstCondition i j b =>
    if m.registered i ∧ m.registered j then some (m.setRstCondition i j b) else none
  | .startEventNotif i => if m.registered i then some (m.startEventNotif i) else none
  | .stopEventNotif i => if m.registered i then some (m.stopEventNotif i) else none
  | .resetEvent i => if m.registered i then some (m.resetEvent i) else none
  | .unregEvent i => if m.registered i then some (m.unregEvent i) else none
  | .event react count mask module => some (m.event react count mask module)
  | .timeOut react => if m.hTrafficMonTimer.isSome then some (m.timeOut react) else none

end TrafficMonitorT

/-- The monitor after `TrafficMonitor_Init`. -/
def init : TrafficMonitorT := {}

/-- An alert on data frames within a second. -/
def frames (direction : TraffDirection) (threshold : ℤ) : TrafficAlertRegParm where
  callBack := true
  direction := direction
  trigger := .edge
  threshold := threshold
  timeIntervalMs := 1000
  monitorType := .txRxAll80211DataFrames

end ArchosGpl.Wlan.TrafficMonitor
