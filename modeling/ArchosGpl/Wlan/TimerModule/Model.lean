import Mathlib.Logic.Function.Basic
import ArchosGpl.Lib.Machine
import ArchosGpl.Lib.Word

/-!
# Model of the timer module (`utils/timer.c`)

A timer that expires in the OS context is linked into one of two queues, by the driver state at its
last start, and the driver's context calls the callbacks of the queue of the current state.

A step is what one context does without a visible interruption. `tmr_GetExpiry` is its critical
section, and the request for the driver task after it is a step of its own; so is `os_timerStart` at
the end of `tmr_StartTimer`, whose parameters are saved outside any critical section.

A timer is destroyed only while it is in no queue and its callback is not running: otherwise
`tmr_HandleExpiry` goes on with freed memory.
-/

namespace ArchosGpl.Wlan.TimerModule

open Lib

/-- `TTimerInfo`. `fExpiryCb` is the callback function with its handle, `none` before the first
start; `linked` says that `tQueNodeHdr.pNext` is set, `armed` that the OS timer runs. -/
structure TTimerInfo (C : Type*) where
  fExpiryCb : Option C
  uIntervalMsec : ℕ
  bPeriodic : Bool
  bOperStateWhenStarted : Bool
  uTwdInitCountWhenStarted : ℕ
  linked : Bool
  armed : Bool

/-- What an observer sees of the timers `T`. -/
inductive Event (T C : Type*)
  | created (t : T)
  /-- The parameters of a start are saved. -/
  | started (t : T) (fExpiryCb : C)
  /-- `tmr_GetExpiry` takes an expiry. -/
  | expired (t : T)
  /-- `tmr_HandleExpiry` dequeues a timer. -/
  | taken (t : T)
  | callback (t : T) (fExpiryCb : C) (bTwdInitOccured : Bool)
  | driverState (bOperState : Bool)
  deriving DecidableEq

/-- Where the driver's context is: outside `tmr_HandleExpiry`, at the head of its loop, with a timer
that it dequeued, or in the callback of that timer. -/
inductive Driver (T : Type*)
  | outside
  | loop
  | took (t : T)
  | callback (t : T)
  deriving DecidableEq

/-- `TTimerModule` with its timers, the OS timer that the driver's context is about to start, the
calls of `tmr_GetExpiry` that have still to request the driver task, and what was seen. -/
structure Sys (T C : Type*) where
  bOperState : Bool
  uTwdInitCount : ℕ
  hInitQueue : List T
  hOperQueue : List T
  timers : T → Option (TTimerInfo C)
  driver : Driver T
  starting : Option T
  requesting : ℕ
  scheduled : Bool
  log : List (Event T C)

namespace Sys

variable {T C : Type*} [DecidableEq T]

/-- After `tmr_Init`. -/
def init : Sys T C := ⟨false, 0, [], [], fun _ => none, .outside, none, 0, false, []⟩

def modify (s : Sys T C) (t : T) (f : TTimerInfo C → TTimerInfo C) : Sys T C :=
  { s with timers := Function.update s.timers t ((s.timers t).map f) }

/-- The timers after `que_Dequeue` took one: it clears `pNext`. -/
def unlink (timers : T → Option (TTimerInfo C)) (t : T) : T → Option (TTimerInfo C) :=
  Function.update timers t ((timers t).map fun i => { i with linked := false })

/-- `que_Enqueue` on the Operational-queue. It refuses an item that is linked. -/
def enqueueOper (s : Sys T C) (t : T) (info : TTimerInfo C) : Sys T C :=
  if info.linked then s
  else { s.modify t fun i => { i with linked := true } with hOperQueue := s.hOperQueue ++ [t] }

/-- `que_Enqueue` on the Init-queue. -/
def enqueueInit (s : Sys T C) (t : T) (info : TTimerInfo C) : Sys T C :=
  if info.linked then s
  else { s.modify t fun i => { i with linked := true } with hInitQueue := s.hInitQueue ++ [t] }

def updateDriverState (s : Sys T C) (bOperState : Bool) : Sys T C :=
  if bOperState = s.bOperState then s
  else if bOperState then
    { s with
      bOperState := true
      uTwdInitCount := add32 s.uTwdInitCount 1
      hInitQueue := []
      timers := s.hInitQueue.foldl unlink s.timers
      scheduled := true
      log := s.log ++ [.driverState true] }
  else { s with bOperState := false, log := s.log ++ [.driverState false] }

/-- `tmr_CreateTimer`, with the handle that the allocation returns. -/
def createTimer (s : Sys T C) (t : T) : Sys T C :=
  { s with
    timers := Function.update s.timers t (some ⟨none, 0, false, false, 0, false, false⟩)
    log := s.log ++ [.created t] }

/-- `tmr_StartTimer` up to `os_timerStart`. -/
def startTimer (s : Sys T C) (t : T) (fExpiryCb : C) (uIntervalMsec : ℕ) (bPeriodic : Bool) :
    Sys T C :=
  { s.modify t fun i => { i with
      fExpiryCb := some fExpiryCb
      uIntervalMsec := uIntervalMsec
      bPeriodic := bPeriodic
      bOperStateWhenStarted := s.bOperState
      uTwdInitCountWhenStarted := s.uTwdInitCount } with
    starting := some t
    log := s.log ++ [.started t fExpiryCb] }

/-- `os_timerStart` of the timer that is being started. -/
def osTimerStart (s : Sys T C) (t : T) : Sys T C :=
  { s.modify t fun i => { i with armed := true } with starting := none }

def stopTimer (s : Sys T C) (t : T) : Sys T C :=
  s.modify t fun i => { i with armed := false, bPeriodic := false }

def destroyTimer (s : Sys T C) (t : T) : Sys T C :=
  { s with timers := Function.update s.timers t none }

/-- The OS timer runs out and `tmr_GetExpiry` takes the expiry. -/
def runOut (s : Sys T C) (t : T) : Sys T C :=
  { s.modify t fun i => { i with armed := false } with
    requesting := s.requesting + 1
    log := s.log ++ [.expired t] }

/-- The critical section of `tmr_GetExpiry`. -/
def getExpiry (s : Sys T C) (t : T) (info : TTimerInfo C) : Sys T C :=
  if info.bOperStateWhenStarted then (s.runOut t).enqueueOper t info
  else if s.bOperState then s.runOut t
  else (s.runOut t).enqueueInit t info

/-- The queue of the current driver state. -/
def current (s : Sys T C) : List T := if s.bOperState then s.hOperQueue else s.hInitQueue

/-- `que_Dequeue` on the queue of the current driver state. -/
def dequeue (s : Sys T C) (t : T) (rest : List T) : Sys T C :=
  { s with
    hOperQueue := if s.bOperState then rest else s.hOperQueue
    hInitQueue := if s.bOperState then s.hInitQueue else rest
    timers := unlink s.timers t
    driver := .took t
    log := s.log ++ [.taken t] }

def call (s : Sys T C) (t : T) (info : TTimerInfo C) (fExpiryCb : C) : Sys T C :=
  { s with
    driver := .callback t
    log := s.log ++ [.callback t fExpiryCb (s.uTwdInitCount ≠ info.uTwdInitCountWhenStarted)] }

inductive Op (T C : Type*)
  | createTimer (t : T)
  | startTimer (t : T) (fExpiryCb : C) (uIntervalMsec : ℕ) (bPeriodic : Bool)
  | osTimerStart
  | stopTimer (t : T)
  | destroyTimer (t : T)
  | updateDriverState (bOperState : Bool)
  | getExpiry (t : T)
  | requestSchedule
  /-- The driver task calls `tmr_HandleExpiry`. -/
  | handleExpiry
  /-- The critical section of its loop. -/
  | dequeue
  | call
  | callbackReturn

/-- The driver's context may make a call: it is not inside one. -/
def mayCall (s : Sys T C) : Bool :=
  s.starting.isNone && match s.driver with
    | .outside => true
    | .callback _ => true
    | _ => false

def step (s : Sys T C) : Op T C → Option (Sys T C)
  | .createTimer t => if s.mayCall ∧ (s.timers t).isNone then some (s.createTimer t) else none
  | .startTimer t cb interval periodic =>
    if s.mayCall ∧ (s.timers t).isSome then some (s.startTimer t cb interval periodic) else none
  | .osTimerStart => s.starting.map s.osTimerStart
  | .stopTimer t => if s.mayCall ∧ (s.timers t).isSome then some (s.stopTimer t) else none
  | .destroyTimer t =>
    match s.timers t with
    | none => none
    | some info =>
      if s.mayCall ∧ ¬ info.linked ∧ s.driver ≠ .callback t then some (s.destroyTimer t) else none
  | .updateDriverState b => if s.mayCall then some (s.updateDriverState b) else none
  | .getExpiry t =>
    match s.timers t with
    | none => none
    | some info => if info.armed then some (s.getExpiry t info) else none
  | .requestSchedule =>
    if s.requesting = 0 then none
    else some { s with requesting := s.requesting - 1, scheduled := true }
  | .handleExpiry =>
    if s.scheduled ∧ s.starting.isNone ∧ s.driver = .outside then
      some { s with scheduled := false, driver := .loop }
    else none
  | .dequeue =>
    if s.driver ≠ .loop ∨ s.starting.isSome then none
    else match s.current with
      | [] => some { s with driver := .outside }
      | t :: rest => some (s.dequeue t rest)
  | .call =>
    match s.driver with
    | .took t => (s.timers t).bind fun info => info.fExpiryCb.map fun cb => s.call t info cb
    | _ => none
  | .callbackReturn =>
    match s.driver with
    | .callback t =>
      if s.starting.isSome then none
      else (s.timers t).bind fun info => info.fExpiryCb.map fun cb =>
        if info.bPeriodic then
          { s.startTimer t cb info.uIntervalMsec info.bPeriodic with driver := .loop }
        else { s with driver := .loop }
    | _ => none

end Sys

end ArchosGpl.Wlan.TimerModule
