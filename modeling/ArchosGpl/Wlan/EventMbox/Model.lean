import Mathlib.Algebra.GroupWithZero.Nat
import Mathlib.Data.List.Range
import Mathlib.Logic.Function.Basic
import ArchosGpl.Lib.Machine

/-!
# Model of the event mailbox (`TWD/FW_Transfer/eventMbox.c`)

The firmware collects events in one of two mailboxes. It publishes that mailbox by an interrupt when
the host has acknowledged the last one, and goes on collecting in the other
(`TWD/FirmwareApi/public_event_mbox.h`). The host reads the published mailbox, calls the callback of
every event bit that is set, and writes the acknowledgement.

A step is what one party does without a visible interruption: the firmware, the driver's interrupt,
the bus, or the dispatch of one event number. A callback may mask and unmask events and stop the
module. A read that fails gets no callback: `twIf` starts the recovery, which stops the module.
-/

namespace ArchosGpl.Wlan.EventMbox

scoped instance neZero_2 : NeZero 2 := ⟨by decide⟩

/-- `TWD_OWN_EVENT_ALL`: the events are numbered below it. -/
abbrev twdOwnEventAll : ℕ := 31

/-- `EventMailBox_t`. `eventData` are the fields after the two vectors, which hold what some of the
events tell. -/
structure EventMailBox (D : Type*) where
  eventsVector : BitVec 32
  eventsMask : BitVec 32
  eventData : D
  deriving DecidableEq

/-- The `bitMask` column of `eventTable`. -/
def bitMask (EvID : ℕ) : BitVec 32 := 1#32 <<< EvID

/-- The `dataLen` column of `eventTable`. -/
def dataLen (EvID : ℕ) : ℕ :=
  if EvID ≤ 7 then 1
  else match EvID with
    | 10 => 8
    | 11 => 3
    | 13 => 1
    | 22 => 1
    | 23 => 1
    | 26 => 16
    | 28 => 8
    | 29 => 8
    | _ => 0

inductive EEventMboxState
  | idle
  | reading
  deriving DecidableEq, Repr

/-- `ETxnStatus`: how `twIf_Transact` returns. -/
inductive ETxnStatus
  | complete
  | pending
  | error
  deriving DecidableEq, Repr

/-- The transaction of `iTxnEventMbox`: not issued, pending on a mailbox, or performed with its
callback still to come. -/
inductive ReadTxn
  | free
  | onBus (mbox : Fin 2)
  | done
  deriving DecidableEq, Repr

/-- `ackTxn` says that the acknowledgement is on its way; `EvID` is the next event number of the
loop of `eventMbox_ReadCompleteCB`, `none` when it is not running. -/
structure TEventMbox (D : Type*) where
  ActiveMbox : Fin 2
  CurrentState : EEventMboxState
  iEventMboxBuf : EventMailBox D
  readTxn : ReadTxn
  ackTxn : Bool
  EvID : Option ℕ

/-- What an observer of both parties sees. -/
inductive Event (D : Type*)
  /-- The firmware interrupts the host for a mailbox. -/
  | publish (mbox : Fin 2) (content : EventMailBox D)
  /-- The host has read a mailbox. -/
  | read (mbox : Fin 2)
  /-- The host could not read a mailbox. -/
  | readFailed (mbox : Fin 2)
  /-- The callback of an event is called. -/
  | callback (EvID : ℕ) (eventData : Option D)
  /-- The host writes `INTR_TRIG_EVENT_ACK`. -/
  | ack
  /-- `cmdBld_CfgEventMask`. -/
  | cfgEventMask (mask : BitVec 32)
  | stop
  deriving DecidableEq

/-- The module, the firmware's two mailboxes, the one it collects in, whether it waits for an
acknowledgement, the interrupt it raised, and what was seen. -/
structure Sys (D : Type*) where
  obj : TEventMbox D
  mem : Fin 2 → EventMailBox D
  collects : Fin 2
  waits : Bool
  intr : Option (Fin 2)
  log : List (Event D)

/-- What a callback may ask of the module. -/
inductive Request
  | maskEvent (EvID : ℕ)
  | unMaskEvent (EvID : ℕ)
  | stop
  deriving DecidableEq, Repr

namespace Sys

variable {D : Type*}

/-- After `eventMbox_Config` and the firmware's start, with any contents of the memories. -/
def start (buffer : EventMailBox D) (mem : Fin 2 → EventMailBox D) : Sys D where
  obj := ⟨0, .idle, buffer, .free, false, none⟩
  mem := mem
  collects := 0
  waits := false
  intr := none
  log := []

/-- `eventMbox_Stop`, with the end of the pending transactions and of the firmware that goes with
it. -/
def stop (s : Sys D) : Sys D where
  obj := { s.obj with
    ActiveMbox := 0, CurrentState := .idle, readTxn := .free, ackTxn := false
    iEventMboxBuf := { s.obj.iEventMboxBuf with eventsVector := 0 } }
  mem := s.mem
  collects := 0
  waits := false
  intr := none
  log := s.log ++ [.stop]

/-- Set the mask and send it to the firmware. -/
def cfgEventMask (s : Sys D) (mask : BitVec 32) : Sys D :=
  { s with
    obj := { s.obj with iEventMboxBuf := { s.obj.iEventMboxBuf with eventsMask := mask } }
    log := s.log ++ [.cfgEventMask mask] }

def maskEvent (s : Sys D) (EvID : ℕ) : Sys D :=
  if EvID ≥ twdOwnEventAll then s
  else s.cfgEventMask (s.obj.iEventMboxBuf.eventsMask ||| bitMask EvID)

def unMaskEvent (s : Sys D) (EvID : ℕ) : Sys D :=
  if EvID ≥ twdOwnEventAll then s
  else s.cfgEventMask (s.obj.iEventMboxBuf.eventsMask &&& ~~~bitMask EvID)

/-- A callback's request, or one from elsewhere in the driver. -/
def request (s : Sys D) : Request → Sys D
  | .maskEvent EvID => s.maskEvent EvID
  | .unMaskEvent EvID => s.unMaskEvent EvID
  | .stop => s.stop

/-- The firmware changes the mailbox it collects in. -/
def fwCollect (s : Sys D) (content : EventMailBox D) : Sys D :=
  { s with mem := Function.update s.mem s.collects content }

/-- The firmware publishes that mailbox and collects in the other. -/
def fwPublish (s : Sys D) : Sys D :=
  { s with
    collects := 1 - s.collects
    waits := true
    intr := some s.collects
    log := s.log ++ [.publish s.collects (s.mem s.collects)] }

def readMbox (s : Sys D) (mbox : Fin 2) : Sys D :=
  { s with
    obj := { s.obj with iEventMboxBuf := s.mem mbox, readTxn := .done }
    log := s.log ++ [.read mbox] }

def failMbox (s : Sys D) (mbox : Fin 2) : Sys D :=
  { s with obj := { s.obj with readTxn := .free }, log := s.log ++ [.readFailed mbox] }

/-- `eventMbox_ReadCompleteCB` up to its loop. -/
def readCompleteCB (s : Sys D) : Sys D :=
  { s with obj := { s.obj with readTxn := .free, EvID := some 0 } }

/-- `eventMbox_Handle`, with how the bus answers the read. -/
def handle (s : Sys D) (rc : ETxnStatus) : Sys D :=
  let mbox := s.obj.ActiveMbox
  let s := { s with
    obj := { s.obj with
      ActiveMbox := 1 - s.obj.ActiveMbox, CurrentState := .reading, readTxn := .onBus mbox }
    intr := none }
  match rc with
  | .complete => (s.readMbox mbox).readCompleteCB
  | .pending => s
  | .error => s.failMbox mbox

/-- One round of the loop of `eventMbox_ReadCompleteCB`: the callback gets the event's data if it
has any, and makes its requests. -/
def dispatch (s : Sys D) (EvID : ℕ) (requests : List Request) : Sys D :=
  let next := { s with obj := { s.obj with EvID := some (EvID + 1) } }
  if s.obj.iEventMboxBuf.eventsVector &&& bitMask EvID ≠ 0 then
    let data := if dataLen EvID ≠ 0 then some s.obj.iEventMboxBuf.eventData else none
    requests.foldl request { next with log := s.log ++ [.callback EvID data] }
  else next

/-- `eventMbox_ReadCompleteCB` after its loop. -/
def ackEvents (s : Sys D) : Sys D :=
  if s.obj.CurrentState = .idle then { s with obj := { s.obj with EvID := none } }
  else
    { s with
      obj := { s.obj with EvID := none, CurrentState := .idle, ackTxn := true }
      log := s.log ++ [.ack] }

inductive Op (D : Type*)
  | fwCollect (content : EventMailBox D)
  | fwPublish
  | handle (rc : ETxnStatus)
  | busRead (ok : Bool)
  | readDone
  | dispatch (requests : List Request)
  | busAck (ok : Bool)
  | request (r : Request)

/-- One step. The driver's context runs one handler at a time: while the dispatch loop runs it
handles nothing else. -/
def step (s : Sys D) : Op D → Option (Sys D)
  | .fwCollect content => some (s.fwCollect content)
  | .fwPublish => if s.waits then none else some s.fwPublish
  | .handle rc => if s.intr = none ∨ s.obj.EvID ≠ none then none else some (s.handle rc)
  | .busRead ok =>
    match s.obj.readTxn with
    | .onBus mbox => some (if ok then s.readMbox mbox else s.failMbox mbox)
    | _ => none
  | .readDone =>
    if s.obj.readTxn ≠ .done ∨ s.obj.EvID ≠ none then none else some s.readCompleteCB
  | .dispatch requests =>
    match s.obj.EvID with
    | none => none
    | some EvID => some (if EvID < twdOwnEventAll then s.dispatch EvID requests else s.ackEvents)
  | .busAck ok =>
    if s.obj.ackTxn then
      some { s with obj := { s.obj with ackTxn := false }, waits := !ok }
    else none
  | .request r => if s.obj.EvID ≠ none then none else some (s.request r)

end Sys

end ArchosGpl.Wlan.EventMbox
