import ArchosGpl.Lib.Machine
import ArchosGpl.Lib.Trace
import Mathlib.Data.Nat.Notation

/-!
# Model of the association state machine (`Sta_Management/assocSM.c`)

`assoc_start` sends an association request and starts the response timer, `assoc_smTimeout` sends it
again, and `assoc_smIncRetry`, at the end of both, gives up with a nested event when too many
requests were sent.

A step is one call from outside, or the expiry of the OS timer. `tmr_StopTimer` and `tmr_StartTimer`
do not take back an expiry that waits for the driver's context, so the timer is two flags, as in the
timer module: `armed`, the OS timer runs, and `linked`, an expiry waits. An input says how a send
ended, and what the QoS manager answered. The statuses that the functions return, what other modules
are told of a response, and the contents of the frames are not in the model.
-/

namespace ArchosGpl.Wlan.AssocSm

/-- `assoc_smStates`. -/
inductive SmState
  | idle
  | wait
  | assoc
  deriving DecidableEq

/-- `assoc_smEvents_t`. -/
inductive SmEvent
  | start
  | stop
  | success
  | fail
  | timeout
  | maxRetry
  deriving DecidableEq

inductive Action
  | startIdle
  | stopWait
  | successWait
  | failureWait
  | timeoutWait
  | maxRetryWait
  | stopAssoc
  | unexpected

/-- `assoc_smMatrix` of `assoc_init`. -/
def smMatrix : SmState → SmEvent → SmState × Action
  | .idle, .start => (.wait, .startIdle)
  | .idle, _ => (.idle, .unexpected)
  | .wait, .start => (.wait, .unexpected)
  | .wait, .stop => (.idle, .stopWait)
  | .wait, .success => (.assoc, .successWait)
  | .wait, .fail => (.idle, .failureWait)
  | .wait, .timeout => (.wait, .timeoutWait)
  | .wait, .maxRetry => (.idle, .maxRetryWait)
  | .assoc, .stop => (.idle, .stopAssoc)
  | .assoc, _ => (.assoc, .unexpected)

/-! ## Data -/

/-- `TI_OK`, as a status of the association. -/
def tiOk : UInt16 := 0

/-- `TI_NOK`, as a status of the association. -/
def tiNok : UInt16 := 1

def statusPacketRejTimeout : UInt16 := 0xFFFF

/-- `ASSOC_RESPONSE` of `dot11MgmtSubType_e`. -/
def assocResponse : ℕ := 1

/-- `RE_ASSOC_RESPONSE` of `dot11MgmtSubType_e`. -/
def reAssocResponse : ℕ := 3

/-- What is seen from outside. -/
inductive Act
  /-- An attempt begins. -/
  | start
  /-- `assoc_stop` is called. -/
  | stop
  /-- A request is sent. -/
  | request (reAssoc : Bool)
  /-- The OS timer expires. -/
  | expired
  /-- `mlme_reportAssocStatus`, by the action of an event. -/
  | report (event : SmEvent) (status : UInt16)
  | disAssoc
  deriving DecidableEq

/-- `assoc_t`, with the timer and the log. `assocRespStatus` are bytes 2 and 3 of
`assocRespBuffer`. -/
structure Assoc where
  currentState : SmState
  maxCount : UInt32
  retryCount : UInt8
  assocRejectCount : UInt32
  assocTimeoutCount : UInt32
  assocRespStatus : UInt16
  reAssoc : Bool
  disAssoc : Bool
  armed : Bool
  linked : Bool
  log : List Act

namespace Assoc

/-- After `assoc_create` (all fields zero), `assoc_init` and `assoc_SetDefaults`. -/
def init (maxCount : UInt32) : Assoc where
  currentState := .idle
  maxCount := maxCount
  retryCount := 0
  assocRejectCount := 0
  assocTimeoutCount := 0
  assocRespStatus := 0
  reAssoc := false
  disAssoc := false
  armed := false
  linked := false
  log := []

def emit (s : Assoc) (a : Act) : Assoc := { s with log := s.log ++ [a] }

/-! ## The actions

`sent` says that the memory for a request was there and that it was built and queued. -/

variable (s : Assoc) (sent : Bool)

def smResetRetry : Assoc := { s with retryCount := 0 }

def smSendAssocReq : Assoc := if sent then s.emit (.request s.reAssoc) else s

def smStartTimer : Assoc := { s with armed := true }

def smStopTimer : Assoc := { s with armed := false }

/-- `assoc_smReportSuccess` and `assoc_smReportFailure`. -/
def smReport (event : SmEvent) (status : UInt16) : Assoc := s.emit (.report event status)

/-- The count has 8 bits, its limit 32. The second component is the event that is raised. -/
def smIncRetry : Assoc × Option SmEvent :=
  let s := { s with retryCount := s.retryCount + 1 }
  (s, if s.maxCount < s.retryCount.toUInt32 then some .maxRetry else none)

def smStartIdle : Assoc × Option SmEvent :=
  (((s.emit .start).smResetRetry.smSendAssocReq sent).smStartTimer).smIncRetry

def smTimeoutWait : Assoc × Option SmEvent :=
  (s.smSendAssocReq sent).smStartTimer.smIncRetry

def smStopWait : Assoc := s.smStopTimer

def smSuccessWait : Assoc := s.smStopTimer.smReport .success tiOk

def smFailureWait : Assoc :=
  if s.assocRespStatus ≠ 0 then s.smStopTimer.smReport .fail s.assocRespStatus
  else s.smStopTimer.smReport .fail tiNok

def smMaxRetryWait : Assoc := s.smStopTimer.smReport .maxRetry statusPacketRejTimeout

def smStopAssoc : Assoc := if s.disAssoc then s.emit .disAssoc else s

def perform : Action → Assoc × Option SmEvent
  | .startIdle => s.smStartIdle sent
  | .stopWait => (s.smStopWait, none)
  | .successWait => (s.smSuccessWait, none)
  | .failureWait => (s.smFailureWait, none)
  | .timeoutWait => s.smTimeoutWait sent
  | .maxRetryWait => (s.smMaxRetryWait, none)
  | .stopAssoc => (s.smStopAssoc, none)
  | .unexpected => (s, none)

/-- `fsm_Event`: the state changes before the action runs. -/
def fsmEvent (e : SmEvent) : Assoc × Option SmEvent :=
  let cell := smMatrix s.currentState e
  perform { s with currentState := cell.1 } sent cell.2

/-- The event that an action raises is handled before the action returns, and raises none
(`fsmEvent_maxRetry`). -/
def smEvent (e : SmEvent) : Assoc :=
  match s.fsmEvent sent e with
  | (s, none) => s
  | (s, some e) => (s.fsmEvent sent e).1

/-! ## The functions called from outside -/

def assocStart : Assoc := smEvent { s with reAssoc := false, disAssoc := false } sent .start

def reassocStart : Assoc := smEvent { s with reAssoc := true } sent .start

def assocStop : Assoc := (s.emit .stop).smEvent sent .stop

def assocSetDisAssocFlag (disAssocFlag : Bool) : Assoc := { s with disAssoc := disAssocFlag }

/-- `assoc_saveAssocRespMessage`, for a message that is not refused. -/
def assocSaveAssocRespMessage (status : UInt16) : Assoc := { s with assocRespStatus := status }

/-- `assoc_recv`; `qosOk` is the answer of `qosMngr_setSite`. -/
def assocRecv (subType : ℕ) (rspStatus : UInt16) (qosOk : Bool) : Assoc :=
  if s.currentState ≠ .wait then s
  else if subType ≠ assocResponse ∧ subType ≠ reAssocResponse then s
  else if rspStatus = 0 then s.smEvent sent (if qosOk then .success else .fail)
  else smEvent { s with assocRejectCount := s.assocRejectCount + 1 } sent .fail

def assocSmTimeout : Assoc :=
  smEvent { s with assocTimeoutCount := s.assocTimeoutCount + 1 } sent .timeout

end Assoc

/-! ## Steps -/

/-- What comes from outside. -/
inductive Input
  /-- `assoc_start`, or `reassoc_start`. -/
  | start (reAssoc sent : Bool)
  | stop
  | setDisAssocFlag (disAssocFlag : Bool)
  | saveResp (status : UInt16)
  | recv (subType : ℕ) (rspStatus : UInt16) (qosOk : Bool)
  /-- The OS timer expires. -/
  | expiry
  /-- The timer module calls `assoc_smTimeout` for an expiry. -/
  | timeout (sent : Bool)
  deriving DecidableEq

/-- Only a timer that runs expires, and only an expiry that waits is handled. -/
def step (s : Assoc) : Input → Option Assoc
  | .start false sent => some (s.assocStart sent)
  | .start true sent => some (s.reassocStart sent)
  | .stop => some (s.assocStop false)
  | .setDisAssocFlag disAssocFlag => some (s.assocSetDisAssocFlag disAssocFlag)
  | .saveResp status => some (s.assocSaveAssocRespMessage status)
  | .recv subType rspStatus qosOk => some (s.assocRecv false subType rspStatus qosOk)
  | .expiry =>
    if s.armed then some { s.emit .expired with armed := false, linked := true } else none
  | .timeout sent =>
    if s.linked then some (Assoc.assocSmTimeout { s with linked := false } sent) else none

/-!
## What a step of the association state machine does

`Core` is the part of the state that an attempt is about, and `Move` lists what a step can do to it.
**`step_move`**: every step is such a move; what is proved about attempts follows from the moves.
-/

section Moves

/-- The state of an attempt. -/
structure Core where
  currentState : SmState
  maxCount : UInt32
  retryCount : UInt8
  armed : Bool
  linked : Bool
  log : List Act

def Assoc.core (s : Assoc) : Core :=
  ⟨s.currentState, s.maxCount, s.retryCount, s.armed, s.linked, s.log⟩

/-- The request that a send leaves in the log. -/
def requests (sent reAssoc : Bool) : List Act := if sent then [.request reAssoc] else []

/-- A call of `assoc_smTimeout`. -/
def Input.isTimeout : Input → Bool
  | .timeout _ => true
  | _ => false

def Input.isStart : Input → Bool
  | .start _ _ => true
  | _ => false

/-- What a step can do. `begun` and `refused` are the starts, `retried` and `gaveUp` the time-outs:
the second of each pair is the one whose count is above the limit. -/
inductive Move (c : Core) : Input → Core → Prop
  | stays {i : Input} (hs : i.isStart = true → c.currentState ≠ .idle) (ht : i.isTimeout = false)
      (he : i ≠ .expiry) : Move c i c
  | dropped {sent : Bool} (hw : c.currentState ≠ .wait) :
      Move c (.timeout sent) { c with linked := false }
  | expiry (ha : c.armed = true) :
      Move c .expiry
        { c with
          armed := false
          linked := true
          log := c.log ++ [.expired] }
  | begun {reAssoc sent : Bool} (b : Bool) (hi : c.currentState = .idle)
      (hm : 1 ≤ c.maxCount.toNat) :
      Move c (.start reAssoc sent)
        { c with
          currentState := .wait
          retryCount := 1
          armed := true
          log := c.log ++ .start :: requests sent b }
  | refused {reAssoc sent : Bool} (b : Bool) (hi : c.currentState = .idle)
      (hm : c.maxCount.toNat = 0) :
      Move c (.start reAssoc sent)
        { c with
          retryCount := 1
          armed := false
          log := c.log ++
            .start :: (requests sent b ++ [.report .maxRetry statusPacketRejTimeout]) }
  | retried {sent : Bool} (b : Bool) (hw : c.currentState = .wait) (hl : c.linked = true)
      (hm : (c.retryCount + 1).toNat ≤ c.maxCount.toNat) :
      Move c (.timeout sent)
        { c with
          retryCount := c.retryCount + 1
          armed := true
          linked := false
          log := c.log ++ requests sent b }
  | gaveUp {sent : Bool} (b : Bool) (hw : c.currentState = .wait) (hl : c.linked = true)
      (hm : c.maxCount.toNat < (c.retryCount + 1).toNat) :
      Move c (.timeout sent)
        { c with
          currentState := .idle
          retryCount := c.retryCount + 1
          armed := false
          linked := false
          log := c.log ++ (requests sent b ++ [.report .maxRetry statusPacketRejTimeout]) }
  | answered {subType : ℕ} {rspStatus : UInt16} {qosOk : Bool} (state : SmState) (event : SmEvent)
      (status : UInt16) (hw : c.currentState = .wait) (hs : state ≠ .wait)
      (he : event ≠ .maxRetry) :
      Move c (.recv subType rspStatus qosOk)
        { c with
          currentState := state
          armed := false
          log := c.log ++ [.report event status] }
  | stopped (sends : Bool) :
      Move c .stop
        { c with
          currentState := .idle
          armed := c.armed && decide (c.currentState ≠ .wait)
          log := c.log ++ .stop :: if sends then [.disAssoc] else [] }

/-! ### The events -/

namespace Assoc

variable {s : Assoc} {sent : Bool}

theorem smEvent_of_none {e : SmEvent} {t : Assoc} (h : s.fsmEvent sent e = (t, none)) :
    s.smEvent sent e = t := by
  rw [smEvent, h]

theorem smEvent_of_some {e e' : SmEvent} {t : Assoc} (h : s.fsmEvent sent e = (t, some e')) :
    s.smEvent sent e = (t.fsmEvent sent e').1 := by
  rw [smEvent, h]

theorem smEvent_unexpected {e : SmEvent}
    (he : smMatrix s.currentState e = (s.currentState, .unexpected)) :
    s.smEvent sent e = s := by
  refine smEvent_of_none ?_
  unfold fsmEvent
  rw [he]
  rfl

/-- The state after a send, the start of the timer and the count. -/
def counted (s : Assoc) (sent : Bool) : Assoc :=
  { (s.smSendAssocReq sent).smStartTimer with retryCount := s.retryCount + 1 }

theorem core_counted :
    (s.counted sent).core = { s.core with
      retryCount := s.retryCount + 1
      armed := true
      log := s.log ++ requests sent s.reAssoc } := by
  cases sent
  · simp [counted, core, smSendAssocReq, smStartTimer, requests]
  · rfl

theorem smTimeoutWait_eq :
    s.smTimeoutWait sent =
      (s.counted sent,
        if s.maxCount.toNat < (s.retryCount + 1).toNat then some .maxRetry else none) := by
  have hlt : s.maxCount < (s.retryCount + 1).toUInt32 ↔
      s.maxCount.toNat < (s.retryCount + 1).toNat := by
    rw [UInt32.lt_iff_toNat_lt, UInt8.toNat_toUInt32]
  cases sent <;> simp only [smTimeoutWait, smIncRetry, ← hlt] <;> rfl

/-- **An event whose action sends a request** either waits for the response, or gives up at once
if the count is above the limit. -/
theorem smEvent_sends {e : SmEvent} {u : Assoc} (he : s.fsmEvent sent e = u.smTimeoutWait sent)
    (hw : u.currentState = .wait) :
    ((u.retryCount + 1).toNat ≤ u.maxCount.toNat ∧
      (s.smEvent sent e).core = { u.core with
        retryCount := u.retryCount + 1
        armed := true
        log := u.log ++ requests sent u.reAssoc }) ∨
    (u.maxCount.toNat < (u.retryCount + 1).toNat ∧
      (s.smEvent sent e).core = { u.core with
        currentState := .idle
        retryCount := u.retryCount + 1
        armed := false
        log := u.log ++
          (requests sent u.reAssoc ++ [.report .maxRetry statusPacketRejTimeout]) }) := by
  rw [smTimeoutWait_eq] at he
  by_cases hm : u.maxCount.toNat < (u.retryCount + 1).toNat
  · rw [if_pos hm] at he
    refine Or.inr ⟨hm, ?_⟩
    have hc : (u.counted sent).currentState = .wait :=
      (congrArg Core.currentState core_counted).trans hw
    have hgive : ((u.counted sent).fsmEvent sent .maxRetry).1.core =
        { (u.counted sent).core with
          currentState := .idle
          armed := false
          log := (u.counted sent).log ++ [.report .maxRetry statusPacketRejTimeout] } := by
      unfold fsmEvent
      rw [hc]
      rfl
    have hlog : (u.counted sent).log = u.log ++ requests sent u.reAssoc :=
      congrArg Core.log core_counted
    rw [smEvent_of_some he, hgive, hlog, core_counted, List.append_assoc]
  · rw [if_neg hm] at he
    exact Or.inl ⟨Nat.le_of_not_lt hm, by rw [smEvent_of_none he, core_counted]⟩

end Assoc

/-! ### The calls -/

open Assoc

variable {s : Assoc} {sent : Bool}

theorem start_move (reAssoc : Bool) {u : Assoc} (hu : u.core = s.core) :
    Move s.core (.start reAssoc sent) (u.smEvent sent .start).core := by
  rw [← hu]
  by_cases hi : u.currentState = .idle
  · have he : u.fsmEvent sent .start =
        (smResetRetry { u.emit .start with currentState := .wait }).smTimeoutWait sent := by
      unfold fsmEvent
      rw [hi]
      rfl
    rcases smEvent_sends he rfl with ⟨hm, hc⟩ | ⟨hm, hc⟩
    · rw [hc]
      dsimp only [smResetRetry, emit, core]
      rw [List.append_assoc]
      exact .begun u.reAssoc hi hm
    · rw [hc]
      dsimp only [smResetRetry, emit, core]
      rw [List.append_assoc, ← hi]
      exact .refused u.reAssoc hi (Nat.lt_one_iff.mp hm)
  · have hun : smMatrix u.currentState .start = (u.currentState, .unexpected) := by
      cases hc : u.currentState with
      | idle => exact absurd hc hi
      | wait => rfl
      | assoc => rfl
    rw [smEvent_unexpected hun]
    exact .stays (fun _ => hi) rfl nofun

theorem fsmEvent_timeout (hw : s.currentState = .wait) :
    s.fsmEvent sent .timeout = s.smTimeoutWait sent := by
  obtain ⟨state, maxCount, retryCount, rejects, timeouts, status, re, dis, armed, linked, log⟩ := s
  obtain rfl : state = .wait := hw
  rfl

theorem timeout_move (hl : s.linked = true) {u : Assoc}
    (hu : u.core = { s.core with linked := false }) :
    Move s.core (.timeout sent) (u.smEvent sent .timeout).core := by
  have hstate : u.currentState = s.currentState := congrArg Core.currentState hu
  have hmax : u.maxCount = s.maxCount := congrArg Core.maxCount hu
  have hretry : u.retryCount = s.retryCount := congrArg Core.retryCount hu
  have hlog : u.log = s.log := congrArg Core.log hu
  by_cases hw : s.currentState = .wait
  · rcases smEvent_sends (fsmEvent_timeout (hstate.trans hw)) (hstate.trans hw) with
      ⟨hm, hc⟩ | ⟨hm, hc⟩
    · rw [hc, hu, hretry, hlog]
      rw [hretry, hmax] at hm
      exact .retried u.reAssoc hw hl hm
    · rw [hc, hu, hretry, hlog]
      rw [hretry, hmax] at hm
      exact .gaveUp u.reAssoc hw hl hm
  · have hun : smMatrix u.currentState .timeout = (u.currentState, .unexpected) := by
      rw [hstate]
      cases hc : s.currentState with
      | idle => rfl
      | wait => exact absurd hc hw
      | assoc => rfl
    rw [smEvent_unexpected hun, hu]
    exact .dropped hw

theorem stop_move : Move s.core .stop (s.assocStop sent).core := by
  obtain ⟨state, maxCount, retryCount, rejects, timeouts, status, re, dis, armed, linked, log⟩ := s
  cases state with
  | idle =>
    have h := Move.stopped (c := ⟨.idle, maxCount, retryCount, armed, linked, log⟩) false
    rwa [show (armed && decide (SmState.idle ≠ .wait)) = armed from Bool.and_true armed] at h
  | wait =>
    have h := Move.stopped (c := ⟨.wait, maxCount, retryCount, armed, linked, log⟩) false
    rwa [show (armed && decide (SmState.wait ≠ .wait)) = false from Bool.and_false armed] at h
  | assoc =>
    have h := Move.stopped (c := ⟨.assoc, maxCount, retryCount, armed, linked, log⟩) dis
    rw [show (armed && decide (SmState.assoc ≠ .wait)) = armed from Bool.and_true armed] at h
    cases dis with
    | false => exact h
    | true => rwa [← List.singleton_append, ← List.append_assoc] at h

theorem answer_move (subType : ℕ) (rspStatus : UInt16) (qosOk : Bool) {e : SmEvent}
    (he : e = .success ∨ e = .fail) (hw : s.currentState = .wait) :
    Move s.core (.recv subType rspStatus qosOk) (s.smEvent sent e).core := by
  rcases he with rfl | rfl
  · have hok : s.smEvent sent .success = smSuccessWait { s with currentState := .assoc } := by
      refine smEvent_of_none ?_
      unfold fsmEvent
      rw [hw]
      rfl
    rw [hok]
    exact .answered .assoc .success tiOk hw (by decide) (by decide)
  · have hfail : s.smEvent sent .fail = smFailureWait { s with currentState := .idle } := by
      refine smEvent_of_none ?_
      unfold fsmEvent
      rw [hw]
      rfl
    rw [hfail]
    unfold smFailureWait
    split
    · exact .answered .idle .fail s.assocRespStatus hw (by decide) (by decide)
    · exact .answered .idle .fail tiNok hw (by decide) (by decide)

theorem recv_move (subType : ℕ) (rspStatus : UInt16) (qosOk : Bool) :
    Move s.core (.recv subType rspStatus qosOk)
      (s.assocRecv sent subType rspStatus qosOk).core := by
  unfold assocRecv
  by_cases hw : s.currentState = .wait
  · rw [if_neg (not_not.mpr hw)]
    split
    · exact .stays nofun rfl nofun
    · split
      · refine answer_move _ _ _ ?_ hw
        cases qosOk
        · exact Or.inr rfl
        · exact Or.inl rfl
      · exact answer_move (s := { s with assocRejectCount := s.assocRejectCount + 1 }) _ _ _
          (Or.inr rfl) hw
  · rw [if_pos hw]
    exact .stays nofun rfl nofun

theorem step_move {i : Input} {t : Assoc} (h : step s i = some t) : Move s.core i t.core := by
  cases i with
  | start reAssoc sent =>
    cases reAssoc <;> (obtain rfl := Option.some.inj h; exact start_move _ rfl)
  | stop =>
    cases h
    exact stop_move
  | setDisAssocFlag disAssocFlag | saveResp status =>
    cases h
    exact .stays nofun rfl nofun
  | recv subType rspStatus qosOk =>
    cases h
    exact recv_move subType rspStatus qosOk
  | expiry =>
    simp only [step] at h
    split at h
    · rename_i ha
      cases h
      exact .expiry ha
    · cases h
  | timeout sent =>
    simp only [step] at h
    split at h
    · rename_i hl
      cases h
      exact timeout_move hl rfl
    · cases h

end Moves

end ArchosGpl.Wlan.AssocSm
