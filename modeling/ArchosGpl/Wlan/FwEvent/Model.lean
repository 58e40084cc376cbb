import ArchosGpl.Lib.Machine

/-!
# Model of the firmware events (`TWD/FW_Transfer/FwEvent.c`)

The firmware interrupts the host. `fwEvent_NewEvent` then reads the firmware status, calls the
handler of every interrupt bit that is set and not masked, and starts again if another interrupt
came meanwhile. A step is one call from the driver's context: an interrupt, the completion of a
status read that was pending, a handler that was pending and has completed, a change of the mask.
What the bus and the handlers return in a call is an `Env`, for each turn of the loop of
`fwEvent_StateMachine`. A read that fails after it was pending gets no callback: `twIf` starts the
recovery.
-/

namespace ArchosGpl.Wlan.FwEvent

abbrev ACX_INTR_WATCHDOG : BitVec 32 := 0x1#32
abbrev ACX_INTR_INIT_COMPLETE : BitVec 32 := 0x2#32
abbrev ACX_INTR_EVENT_A : BitVec 32 := 0x4#32
abbrev ACX_INTR_EVENT_B : BitVec 32 := 0x8#32
abbrev ACX_INTR_CMD_COMPLETE : BitVec 32 := 0x10#32
abbrev ACX_INTR_HW_AVAILABLE : BitVec 32 := 0x20#32
abbrev ACX_INTR_DATA : BitVec 32 := 0x40#32

abbrev ALL_EVENTS_VECTOR : BitVec 32 :=
  ACX_INTR_WATCHDOG ||| ACX_INTR_INIT_COMPLETE ||| ACX_INTR_EVENT_A ||| ACX_INTR_EVENT_B |||
    ACX_INTR_CMD_COMPLETE ||| ACX_INTR_HW_AVAILABLE ||| ACX_INTR_DATA

inductive EFwEventState
  | idle
  | waitIntrInfo
  | waitHandleComplt
  deriving DecidableEq, Repr

inductive ETxnStatus
  | complete
  | pending
  | error
  deriving DecidableEq, Repr

structure FwStatus_t where
  intrStatus : BitVec 32
  counters : BitVec 32
  rxPktsDesc : List (BitVec 32)
  txReleasedBlks : List (BitVec 32)
  fwLocalTime : BitVec 32
  deriving DecidableEq, Repr

/-- The handlers that `fwEvent_CallHandlers` calls. `eventMbox_Handle` is called for two bits. -/
inductive Handler
  | TWD_WdExpireEvent
  | cmdMbox_CommandComplete
  | eventMbox_HandleA
  | eventMbox_HandleB
  | rxXfer_RxEvent
  | txHwQueue_UpdateFreeResources
  | txResult_TxCmpltIntrCb
  deriving DecidableEq, Repr

/-- The module's state. -/
structure TfwEvent where
  eSmState : EFwEventState
  uEventMask : BitVec 32
  uEventVector : BitVec 32
  tFwStatus : FwStatus_t
  uFwTimeOffset : BitVec 32
  bIntrPending : Bool
  uNumPendHndlrs : ℕ

/-- What an observer of the module sees. -/
inductive Event
  /-- `fwEvent_NewEvent` is called. -/
  | newEvent
  | twIf_Awake
  | twIf_Sleep
  | twIf_HwAvailable
  /-- `twIf_TransactReadFWStatus` is called. -/
  | readStart
  /-- The status of a read is handled, under the mask. -/
  | status (tFwStatus : FwStatus_t) (uEventMask : BitVec 32)
  /-- A read has failed in the call. -/
  | readFailed
  /-- A read that was pending has failed. -/
  | readLost
  | handler (h : Handler) (tFwStatus : FwStatus_t) (eStatus : ETxnStatus)
  /-- `fwEvent_HandlerCompleted` is called. -/
  | completed
  deriving DecidableEq, Repr

/-- The module, whether a status read is on the bus, how many handlers have returned `PENDING` and
not completed, and what was seen. -/
structure Sys where
  fw : TfwEvent
  readPending : Bool
  handlers : ℕ
  log : List Event

/-- How a status read returns. -/
inductive ReadResult
  | complete (tFwStatus : FwStatus_t)
  | pending
  | error

/-- What the bus, the handlers and the clock return in turn `n` of the loop. -/
structure Env where
  read : ℕ → ReadResult
  handler : ℕ → Handler → ETxnStatus
  timeStampMs : ℕ → BitVec 32

namespace Sys

/-- After `fwEvent_Init`, with any contents of the status buffer. -/
def init (tFwStatus : FwStatus_t) (uFwTimeOffset : BitVec 32) : Sys where
  fw := ⟨.idle, 0, 0, tFwStatus, uFwTimeOffset, false, 0⟩
  readPending := false
  handlers := 0
  log := []

def seen (e : Event) (s : Sys) : Sys := { s with log := s.log ++ [e] }

@[simp] theorem seen_fw (e : Event) (s : Sys) : (s.seen e).fw = s.fw := rfl
@[simp] theorem seen_readPending (e : Event) (s : Sys) :
    (s.seen e).readPending = s.readPending := rfl
@[simp] theorem seen_handlers (e : Event) (s : Sys) : (s.seen e).handlers = s.handlers := rfl
@[simp] theorem seen_log (e : Event) (s : Sys) : (s.seen e).log = s.log ++ [e] := rfl

def fwEvent_Stop (s : Sys) : Sys :=
  { s with fw := { s.fw with
      eSmState := .idle
      bIntrPending := false
      uNumPendHndlrs := 0
      uEventMask := 0
      uEventVector := 0 } }

def fwEvent_SetInitMask (s : Sys) : Sys :=
  { s with fw := { s.fw with
      uEventMask := ACX_INTR_CMD_COMPLETE ||| ACX_INTR_EVENT_A ||| ACX_INTR_EVENT_B |||
        ACX_INTR_HW_AVAILABLE } }

def fwEvent_MaskAllFwInterrupts (s : Sys) : Sys :=
  { s with fw := { s.fw with uEventMask := 0 } }

def fwEvent_EnableExternalEvents (s : Sys) : Sys :=
  { s with fw := { s.fw with uEventMask := ALL_EVENTS_VECTOR } }

/-- The read of the status. The data of a read that completes at once is in the buffer. -/
def fwEvent_SmReadIntrInfo (env : Env) (n : ℕ) (s : Sys) : Sys × ETxnStatus :=
  let s := (s.seen .twIf_HwAvailable).seen .readStart
  match env.read n with
  | .complete tFwStatus => ({ s with fw := { s.fw with tFwStatus := tFwStatus } }, .complete)
  | .pending => ({ s with readPending := true }, .pending)
  | .error => (s.seen .readFailed, .error)

/-- The call of one handler and `UPDATE_PENDING_HANDLERS_NUMBER`. -/
def callHandler (env : Env) (n : ℕ) (s : Sys) (h : Handler) : Sys :=
  let s := s.seen (.handler h s.fw.tFwStatus (env.handler n h))
  if env.handler n h = .pending then
    { s with
      fw := { s.fw with uNumPendHndlrs := s.fw.uNumPendHndlrs + 1 }
      handlers := s.handlers + 1 }
  else s

/-- The calls under one interrupt bit. -/
def callIf (env : Env) (n : ℕ) (bit : BitVec 32) (hs : List Handler) (s : Sys) : Sys :=
  if s.fw.uEventVector &&& bit ≠ 0 then hs.foldl (callHandler env n) s else s

def fwEvent_CallHandlers (env : Env) (n : ℕ) (s : Sys) : Sys × ETxnStatus :=
  let s := { s with fw := { s.fw with uNumPendHndlrs := 0 } }
  let s := callIf env n ACX_INTR_WATCHDOG [.TWD_WdExpireEvent] s
  let s := callIf env n ACX_INTR_CMD_COMPLETE [.cmdMbox_CommandComplete] s
  let s := callIf env n ACX_INTR_EVENT_A [.eventMbox_HandleA] s
  let s := callIf env n ACX_INTR_EVENT_B [.eventMbox_HandleB] s
  let s := callIf env n ACX_INTR_DATA
    [.rxXfer_RxEvent, .txHwQueue_UpdateFreeResources, .txResult_TxCmpltIntrCb] s
  (s, if s.fw.uNumPendHndlrs = 0 then .complete else .pending)

def fwEvent_SmHandleEvents (env : Env) (n : ℕ) (s : Sys) : Sys × ETxnStatus :=
  let s := s.seen (.status s.fw.tFwStatus s.fw.uEventMask)
  fwEvent_CallHandlers env n { s with fw := { s.fw with
    uFwTimeOffset := env.timeStampMs n * 1000#32 - s.fw.tFwStatus.fwLocalTime
    uEventVector := s.fw.tFwStatus.intrStatus &&& s.fw.uEventMask } }

def setState (eSmState : EFwEventState) (s : Sys) : Sys :=
  { s with fw := { s.fw with eSmState := eSmState } }

/-- The end of a turn of the loop: whether there is another one. -/
def checkStatus (s : Sys) : ETxnStatus → Sys × Bool
  | .pending => (s, false)
  | .error => (s.fwEvent_Stop, false)
  | .complete => (s, true)

/-- One turn of the loop of `fwEvent_StateMachine`. -/
def smTurn (env : Env) (n : ℕ) (s : Sys) : Sys × Bool :=
  match s.fw.eSmState with
  | .idle =>
    let r := (s.seen .twIf_Awake).fwEvent_SmReadIntrInfo env n
    checkStatus (r.1.setState .waitIntrInfo) r.2
  | .waitIntrInfo =>
    let r := s.fwEvent_SmHandleEvents env n
    if r.1.fw.eSmState = .idle then (r.1, false)
    else checkStatus (r.1.setState .waitHandleComplt) r.2
  | .waitHandleComplt =>
    if s.fw.bIntrPending = true then
      let s := { s with fw := { s.fw with bIntrPending := false } }
      let r := s.fwEvent_SmReadIntrInfo env n
      checkStatus (r.1.setState .waitIntrInfo) r.2
    else ((s.seen .twIf_Sleep).setState .idle, false)

/-- The loop, from turn `n` on, for so many turns; `none` if it goes on. -/
def smLoop (env : Env) : ℕ → ℕ → Sys → Option Sys
  | 0, _, _ => none
  | turns + 1, n, s =>
    let r := s.smTurn env n
    if r.2 then smLoop env turns (n + 1) r.1 else some r.1

/-- Five turns are enough (`stateMachine_returns`). -/
def fwEvent_StateMachine (env : Env) (s : Sys) : Option Sys := smLoop env 5 0 s

def fwEvent_NewEvent (env : Env) (s : Sys) : Option Sys :=
  let s := s.seen .newEvent
  if s.fw.eSmState = .idle then s.fwEvent_StateMachine env
  else some { s with fw := { s.fw with bIntrPending := true } }

/-- `TI_DBG` is whether the checks under that switch are compiled. -/
def fwEvent_HandlerCompleted (TI_DBG : Bool) (env : Env) (s : Sys) : Option Sys :=
  let s := s.seen .completed
  if TI_DBG = true ∧ s.fw.uNumPendHndlrs = 0 then some s
  else if TI_DBG = true ∧ s.fw.eSmState ≠ .waitHandleComplt then some s
  else
    let s := { s with fw := { s.fw with uNumPendHndlrs := s.fw.uNumPendHndlrs - 1 } }
    if s.fw.uNumPendHndlrs = 0 then s.fwEvent_StateMachine env else some s

end Sys

/-- The calls from the driver's context, and the bus losing a read. -/
inductive Input
  | newEvent (env : Env)
  /-- A pending read completes: `fwEvent_StateMachine` is its callback. -/
  | readDone (tFwStatus : FwStatus_t) (env : Env)
  | readLost
  | handlerCompleted (env : Env)
  | setInitMask
  | maskAllFwInterrupts
  | enableExternalEvents

open Sys

def step (TI_DBG : Bool) (s : Sys) : Input → Option Sys
  | .newEvent env => s.fwEvent_NewEvent env
  | .readDone tFwStatus env =>
    if s.readPending = true then
      fwEvent_StateMachine env
        { s with fw := { s.fw with tFwStatus := tFwStatus }, readPending := false }
    else none
  | .readLost =>
    if s.readPending = true then some { s with log := s.log ++ [.readLost], readPending := false }
    else none
  | .handlerCompleted env =>
    if 0 < s.handlers then
      fwEvent_HandlerCompleted TI_DBG env { s with handlers := s.handlers - 1 }
    else none
  | .setInitMask => some s.fwEvent_SetInitMask
  | .maskAllFwInterrupts => some s.fwEvent_MaskAllFwInterrupts
  | .enableExternalEvents => some s.fwEvent_EnableExternalEvents

end ArchosGpl.Wlan.FwEvent
