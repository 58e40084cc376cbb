import ArchosGpl.Lib.Machine
import Mathlib.Logic.Function.Basic

/-!
# Model of the command mailbox (`TWD/FW_Transfer/CmdMBox.c`) and queue (`TWD/Ctrl/CmdQueue.c`)

The queue hands its head command to the mailbox, which writes it to the firmware's memory, triggers
the firmware and starts a timer.

A step is what one party does without a visible interruption: the driver pushes a command, handles
an interrupt, runs the timer's callback or restarts; the bus performs its next transaction; the
firmware executes a command. Transactions are performed in the order they were issued in, at once if
the bus is free and takes them synchronously. A callback may call the queue again, so what calls one
stops there (`inCallback`) and goes on with `resume`.
-/

namespace ArchosGpl.Wlan.CmdMBox

/-- `Command_e`, as the queue tells the commands apart. -/
inductive CommandE
  | interrogate
  | test
  | other (code : ℕ)
  deriving DecidableEq

/-- `CommandStatus_e`, as the queue tells the results apart. -/
inductive CommandStatus
  | success
  | rejectMeasSgActive
  | other (code : ℕ)
  deriving DecidableEq

/-- What a callback gets: `TI_OK`, `SG_REJECT_MEAS_SG_ACTIVE`, `TI_NOK` or `CMD_STATUS_FW_RESET`. -/
inductive CbStatus
  | ok
  | sgReject
  | nok
  | fwReset
  deriving DecidableEq

abbrev queueDepth : ℕ := 30

abbrev maxCmdParams : ℕ := 610

abbrev headerLen : UInt32 := 4

abbrev infoElemHeaderLen : UInt32 := 4

/-- `os_memoryCopy` of `n` bytes. -/
def memoryCopy (n : UInt32) (src dst : ℕ → UInt8) : ℕ → UInt8 :=
  fun i => if i < n.toNat then src i else dst i

/-- `Command_t`: what the mailbox, and the driver's copies of it, hold. -/
structure CommandT where
  cmdID : CommandE
  cmdStatus : CommandStatus
  parameters : ℕ → UInt8
  owner : Option ℕ
  answered : Bool

/-- The memory before the first command. -/
def CommandT.zero : CommandT := ⟨.other 0, .other 0, fun _ => 0, none, false⟩

/-- The arguments of `cmdQueue_SendCommand`; `fCb` and `pCb` say whether the pointers are not
`NULL`. The parameters fit the buffers they are copied to. -/
structure Request where
  cmdType : CommandE
  pParamsBuf : ℕ → UInt8
  uParamsLen : UInt32
  fCb : Bool
  pCb : Bool
  fits : uParamsLen.toNat ≤ maxCmdParams

/-- `TCmdQueueNode`, and the number of the call that queued it. -/
structure CmdQueueNode extends Request where
  no : ℕ

structure RecoveryNode where
  pInterrogateBuf : Bool
  no : ℕ
  deriving DecidableEq

/-- `ECmdQueueSmStates`. -/
inductive QueueState
  | idle
  | waitForCompletion
  deriving DecidableEq

/-- A transaction of the mailbox on the bus: the command, the trigger, the result. -/
inductive Txn
  | write (len : UInt32)
  | trigger
  | read (len : UInt32)
  deriving DecidableEq

/-- Where a function of the queue is that called a callback: the completion in `cmdQueue_SM`, or the
loop of `cmdQueue_EndReconfig`. -/
inductive Frame
  | complete
  | endReconfig (uCbIndex : ℕ)
  deriving DecidableEq

/-- A result reported to the queue: the memory `aCmdTxn[1]`, and the length that
`cmdMbox_GetCmdParams` copies from it. -/
structure Report where
  owner : Option ℕ
  answered : Bool
  parameters : ℕ → UInt8
  copied : Option UInt32

/-- What an observer of both parties sees. -/
inductive Event
  /-- `cmdQueue_SendCommand` takes a command into the queue. -/
  | queued (no : ℕ)
  /-- It returns an error. -/
  | refused (no : ℕ)
  /-- It returns `TI_OK` and does nothing, as the mailbox is disabled. -/
  | skipped (no : ℕ)
  /-- `cmdMbox_SendCommand` takes a command. -/
  | sent (no : ℕ) (uReadLen : UInt32)
  /-- The command complete interrupt is handled. -/
  | completed
  /-- The timer expires. -/
  | timeOut
  | restarted
  /-- A result is reported to the queue. -/
  | result (r : Report)
  /-- A result is reported to the queue in `CMDQUEUE_STATE_IDLE`. -/
  | noSuchEvent
  /-- A command's callback is called; the generic one if it has none of its own. -/
  | called (no : ℕ) (own : Bool) (status : CbStatus)

/-- `TCmdMbox` and `TCmdQueue`, the bus, the firmware's memory, the commands it was triggered for
and the interrupts it raised, and what was seen. -/
structure Sys where
  -- `TCmdMbox`
  cmd : CommandT
  result : CommandT
  bCmdInProgress : Bool
  uReadLen : UInt32
  uWriteLen : UInt32
  cmdMboxTimer : Bool
  -- `TCmdQueue`
  state : QueueState
  aCmdQueue : ℕ → CmdQueueNode
  aRecoveryQueue : ℕ → RecoveryNode
  head : ℕ
  tail : ℕ
  uNumberOfCommandInQueue : ℕ
  uNumberOfRecoveryNodes : ℕ
  bErrorFlag : Bool
  bMboxEnabled : Bool
  bAwake : Bool
  -- the others
  inCallback : Option Frame
  bus : List Txn
  mbox : CommandT
  todo : List CommandT
  raised : ℕ
  calls : ℕ
  log : List Event

/-- After `cmdQueue_Init`. -/
def init : Sys where
  cmd := .zero
  result := .zero
  bCmdInProgress := false
  uReadLen := 0
  uWriteLen := 0
  cmdMboxTimer := false
  state := .idle
  aCmdQueue := fun _ => ⟨⟨.other 0, fun _ => 0, 0, false, false, by decide⟩, 0⟩
  aRecoveryQueue := fun _ => ⟨false, 0⟩
  head := 0
  tail := 0
  uNumberOfCommandInQueue := 0
  uNumberOfRecoveryNodes := 0
  bErrorFlag := false
  bMboxEnabled := false
  bAwake := false
  inCallback := none
  bus := []
  mbox := .zero
  todo := []
  raised := 0
  calls := 0
  log := []

namespace Sys

def note (s : Sys) (e : Event) : Sys := { s with log := s.log ++ [e] }

/-! ## The bus and the firmware -/

/-- The bus performs a transaction. The header of a command are its first four bytes. -/
def perform (s : Sys) : Txn → Sys
  | .write len =>
    { s with mbox := { s.cmd with
        parameters := memoryCopy (len - headerLen) s.cmd.parameters s.mbox.parameters } }
  | .trigger => { s with todo := s.todo ++ [s.mbox] }
  | .read len =>
    if len < headerLen then s
    else { s with result := { s.mbox with
      parameters := memoryCopy (len - headerLen) s.mbox.parameters s.result.parameters } }

/-- `twIf_Transact`: whether it completes. -/
def transact (s : Sys) (sync : Bool) (t : Txn) : Bool × Sys :=
  if s.bus = [] ∧ sync = true then (true, s.perform t)
  else (false, { s with bus := s.bus ++ [t] })

/-- The firmware executes the next command it was triggered for. -/
def execute (s : Sys) (status : CommandStatus) (parameters : ℕ → UInt8) : Option Sys :=
  match s.todo with
  | [] => none
  | c :: todo =>
    some { s with
      mbox := { c with cmdStatus := status, parameters := parameters, answered := true }
      todo := todo
      raised := s.raised + 1 }

/-! ## The mailbox -/

/-- The length of a command in the mailbox, a multiple of 32 bits. -/
def alignedLen (len : UInt32) : UInt32 :=
  if len &&& 3 ≠ 0 then (len + 4) &&& 0xFFFFFFFC else len

/-- `cmdMbox_SendCommand`, with how the bus takes its two transactions. -/
def sendCommand (s : Sys) (sync : Bool × Bool) (node : CmdQueueNode) (uWriteLen uReadLen : UInt32) :
    Sys :=
  if s.bCmdInProgress then s
  else
    let s := { s with
      uReadLen := uReadLen + headerLen
      cmd := {
        cmdID := node.cmdType
        cmdStatus := .success
        parameters := memoryCopy uWriteLen node.pParamsBuf s.cmd.parameters
        owner := some node.no
        answered := false }
      uWriteLen := alignedLen (uWriteLen + headerLen)
      bCmdInProgress := true }
    let s := (s.transact sync.1 (.write s.uWriteLen)).2
    let s := { s with cmdMboxTimer := true }
    let s := (s.transact sync.2 .trigger).2
    s.note (.sent node.no uReadLen)

def getStatus (s : Sys) : CommandStatus := s.result.cmdStatus

/-- `cmdMbox_TimeOut`: the recovery that its error callback asks for is `restart`. -/
def timeOut (s : Sys) : Option Sys :=
  if s.cmdMboxTimer then some { s with cmdMboxTimer := false, log := s.log ++ [.timeOut] }
  else none

/-! ## The queue -/

/-- The lengths to write and to read for a command. -/
def CmdQueueNode.lens (node : CmdQueueNode) : UInt32 × UInt32 :=
  match node.cmdType with
  | .interrogate => (infoElemHeaderLen, node.uParamsLen)
  | .test => (node.uParamsLen, node.uParamsLen)
  | .other _ => (node.uParamsLen, 0)

/-- `cmdQueue_SM` on `CMDQUEUE_EVENT_RUN`. -/
def run (s : Sys) (sync : Bool × Bool) : Sys :=
  match s.state with
  | .idle =>
    let node := s.aCmdQueue s.head
    let s := { s with state := .waitForCompletion, bAwake := true }
    s.sendCommand sync node (CmdQueueNode.lens node).1 (CmdQueueNode.lens node).2
  | .waitForCompletion => s

/-- What `cmdQueue_SM` makes of the status of a result: what the callback gets, and
`bErrorFlag`. -/
def CommandStatus.taken : CommandStatus → CbStatus × Bool
  | .success => (.ok, false)
  | .rejectMeasSgActive => (.sgReject, false)
  | .other _ => (.nok, true)

/-- The result that is reported for a node, with the length `cmdMbox_GetCmdParams` copies. -/
def report (s : Sys) (node : CmdQueueNode) : Report where
  owner := s.result.owner
  answered := s.result.answered
  parameters := s.result.parameters
  copied := if node.fCb ∧ node.pCb then some (s.uReadLen - headerLen) else none

/-- `cmdQueue_SM` on `CMDQUEUE_EVENT_COMPLETE`, up to its callback. -/
def complete (s : Sys) : Sys :=
  match s.state with
  | .idle => s.note .noSuchEvent
  | .waitForCompletion =>
    let node := s.aCmdQueue s.head
    let taken := CommandStatus.taken s.getStatus
    { s with
      head := if s.head + 1 ≥ queueDepth then 0 else s.head + 1
      uNumberOfCommandInQueue := s.uNumberOfCommandInQueue - 1
      bErrorFlag := taken.2
      inCallback := some .complete
      log := s.log ++ [.result (s.report node), .called node.no node.fCb taken.1] }

/-- `cmdQueue_SM` after that callback. -/
def afterComplete (s : Sys) (sync : Bool × Bool) : Sys :=
  let s := { s with state := .idle, inCallback := none }
  if s.uNumberOfCommandInQueue > 0 then s.run sync
  else { s with bAwake := false }

def transferComplete (s : Sys) : Sys :=
  ({ s with bCmdInProgress := false } : Sys).complete

def commandComplete (s : Sys) (sync : Bool) : Sys :=
  let s : Sys := { s with cmdMboxTimer := false, log := s.log ++ [.completed] }
  match s.transact sync (.read s.uReadLen) with
  | (true, s) => s.transferComplete
  | (false, s) => s

/-- `cmdQueue_Push`. -/
def push (dbg : Bool) (s : Sys) (sync : Bool × Bool) (r : Request) : Sys :=
  if s.bMboxEnabled then
    if dbg ∧ s.uNumberOfCommandInQueue = queueDepth then s.note (.refused s.calls)
    else
      let s := { s with
        aCmdQueue := Function.update s.aCmdQueue s.tail { r with no := s.calls }
        tail := if s.tail + 1 = queueDepth then 0 else s.tail + 1
        uNumberOfCommandInQueue := s.uNumberOfCommandInQueue + 1
        log := s.log ++ [.queued s.calls] }
      if s.uNumberOfCommandInQueue = 1 then s.run sync else s
  else s.note (.skipped s.calls)

/-- `cmdQueue_SendCommand`. -/
def queueCommand (dbg : Bool) (s : Sys) (sync : Bool × Bool) (r : Request) : Sys :=
  let s := if s.bErrorFlag then s.note (.refused s.calls) else s.push dbg sync r
  { s with calls := s.calls + 1 }

/-- One round of the loop of `cmdQueue_Restart`. -/
def saveNode (s : Sys) (first : ℕ) : Sys :=
  let node := s.aCmdQueue first
  if node.fCb then
    { s with
      aRecoveryQueue := Function.update s.aRecoveryQueue s.uNumberOfRecoveryNodes
        ⟨node.pCb, node.no⟩
      uNumberOfRecoveryNodes := s.uNumberOfRecoveryNodes + 1 }
  else s

/-- The loop of `cmdQueue_Restart`. -/
def saveNodes (s : Sys) (first : ℕ) : ℕ → Sys
  | 0 => s
  | n + 1 => (s.saveNode first).saveNodes (if first + 1 = queueDepth then 0 else first + 1) n

/-- `cmdMbox_Restart` and `cmdQueue_Restart`, as `TWD_Stop` calls them. -/
def restart (s : Sys) : Sys :=
  let s := { s with cmdMboxTimer := false, bCmdInProgress := false, uReadLen := 0, uWriteLen := 0 }
  let s := { s with state := .idle, bAwake := false, uNumberOfRecoveryNodes := 0 }
  let s := s.saveNodes s.head s.uNumberOfCommandInQueue
  { s with
    head := 0
    tail := 0
    uNumberOfCommandInQueue := 0
    log := s.log ++ [.restarted] }

/-- The loop of `cmdQueue_EndReconfig` from `uCbIndex` on, up to its next callback. -/
def endReconfig (s : Sys) (uCbIndex : ℕ) : Sys :=
  if uCbIndex < s.uNumberOfRecoveryNodes then
    { s with
      inCallback := some (.endReconfig uCbIndex)
      log := s.log ++ [.called (s.aRecoveryQueue uCbIndex).no true .fwReset] }
  else { s with uNumberOfRecoveryNodes := 0, inCallback := none }

/-- What calls a callback goes on after it. -/
def resume (s : Sys) (sync : Bool × Bool) : Option Sys :=
  match s.inCallback with
  | none => none
  | some .complete => some (s.afterComplete sync)
  | some (.endReconfig uCbIndex) => some (s.endReconfig (uCbIndex + 1))

end Sys

/-- What the parties do. `sync` says how the bus takes the transactions. -/
inductive Op
  | sendCommand (r : Request) (sync : Bool × Bool)
  | enableMbox
  | disableMbox
  | restart
  | endReconfig
  | commandComplete (sync : Bool)
  | timeOut
  | resume (sync : Bool × Bool)
  | txnDone
  | execute (status : CommandStatus) (parameters : ℕ → UInt8)

open Sys in
/-- One step. While a callback runs, the driver does only what the callback calls. -/
def step (dbg : Bool) (s : Sys) : Op → Option Sys
  | .sendCommand r sync => some (s.queueCommand dbg sync r)
  | .enableMbox => some { s with bMboxEnabled := true }
  | .disableMbox => some { s with bMboxEnabled := false }
  | .restart => some s.restart
  | .endReconfig => if s.inCallback = none then some (s.endReconfig 0) else none
  | .commandComplete sync =>
    if s.inCallback = none ∧ s.raised ≠ 0 then
      some (({ s with raised := s.raised - 1 } : Sys).commandComplete sync)
    else none
  | .timeOut => if s.inCallback = none then s.timeOut else none
  | .resume sync => s.resume sync
  | .txnDone =>
    match s.bus with
    | [] => none
    | .read len :: bus =>
      if s.inCallback = none then
        some (({ s with bus := bus } : Sys).perform (.read len)).transferComplete
      else none
    | t :: bus => some (({ s with bus := bus } : Sys).perform t)
  | .execute status parameters => s.execute status parameters

end ArchosGpl.Wlan.CmdMBox
