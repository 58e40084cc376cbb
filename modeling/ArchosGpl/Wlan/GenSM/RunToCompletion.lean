import ArchosGpl.Lib.Machine

/-!
# Events run to completion

`Engine` is what the state machine is for: a queue of events, each executed in the order sent, from
the state that the one before left, and no action inside another. The object has room for one event
only: an event that an action sends replaces the one that the same action sent before. `survivors`
is a log without the calls that were replaced.

**`runs_to_completion`**: the surviving events of every run are executed by the engine, and the
queue is empty when no action runs; if no action sends two events, they are all events.
-/

namespace ArchosGpl.Wlan.GenSM

open Lib

/-!
## Model of the generic state machine (`utils/GenSM.c`)

`genSM_Event` saves the event and its data in the object. If an action is running it returns, else
it executes events until none is pending. An action is an arbitrary sequence of calls of
`genSM_Event` followed by its return, so the engine is a machine whose inputs are these calls and
the returns. The checks under `TI_DBG` only print.
-/

section Model

variable {α δ : Type*}

structure TGenSMActionCell (α : Type*) where
  uNextState : ℕ
  fAction : α

/-- What `genSM_SetDefaults` is given: the matrix by its index, and the initial state. -/
structure Config (α : Type*) where
  uEventNum : ℕ
  tMatrix : ℕ → TGenSMActionCell α
  uInitialState : ℕ

def Config.cell (c : Config α) (uCurrentState uEvent : ℕ) : TGenSMActionCell α :=
  c.tMatrix (uCurrentState * c.uEventNum + uEvent)

/-- What is seen of the engine. -/
inductive Entry (α δ : Type*)
  /-- `genSM_Event` is called. -/
  | sent (uEvent : ℕ) (pData : δ)
  /-- An action starts: its function, its event and data, and the state that it finds. -/
  | called (fAction : α) (uEvent : ℕ) (pData : δ) (uCurrentState : ℕ)
  | returned
  deriving DecidableEq

/-- `TGenSM`, and the log. The event and its data have no value before the first call. -/
structure Sys (α δ : Type*) where
  uCurrentState : ℕ
  event : Option (ℕ × δ)
  bEventPending : Bool
  bInAction : Bool
  log : List (Entry α δ)

namespace Sys

/-- The loop of `genSM_Event` up to the start of the action, or the end of the loop. -/
def execute (c : Config α) (s : Sys α δ) : Sys α δ :=
  match s.bEventPending, s.event with
  | true, some (uEvent, pData) =>
    let pCell := c.cell s.uCurrentState uEvent
    let s := { s with
      bInAction := true
      bEventPending := false
      uCurrentState := pCell.uNextState }
    { s with log := s.log ++ [.called pCell.fAction uEvent pData s.uCurrentState] }
  | _, _ => s

def genSMEvent (c : Config α) (s : Sys α δ) (uEvent : ℕ) (pData : δ) : Sys α δ :=
  let s := { s with
    bEventPending := true
    event := some (uEvent, pData)
    log := s.log ++ [.sent uEvent pData] }
  if s.bInAction then s else s.execute c

def actionReturns (c : Config α) (s : Sys α δ) : Sys α δ :=
  ({ s with bInAction := false, log := s.log ++ [.returned] } : Sys α δ).execute c

/-- What can happen; an event is sent by the action that runs, or from outside if none does. -/
inductive Input (δ : Type*)
  | event (uEvent : ℕ) (pData : δ)
  | actionReturns

def step (c : Config α) (s : Sys α δ) : Input δ → Option (Sys α δ)
  | .event uEvent pData => some (s.genSMEvent c uEvent pData)
  | .actionReturns => if s.bInAction then some (s.actionReturns c) else none

/-- After `genSM_SetDefaults`. -/
def init (c : Config α) : Sys α δ := ⟨c.uInitialState, none, false, false, []⟩

end Sys

end Model

variable {α δ : Type*}

/-! ## The engine with a queue -/

/-- The current state, the events that wait, and whether an action runs. -/
structure Engine (δ : Type*) where
  uCurrentState : ℕ
  queue : List (ℕ × δ)
  running : Bool

/-- What an entry of the log makes of the engine; `none` for one that is out of order. -/
def Engine.step [DecidableEq α] [DecidableEq δ] (c : Config α) (q : Engine δ) :
    Entry α δ → Option (Engine δ)
  | .sent uEvent pData => some { q with queue := q.queue ++ [(uEvent, pData)] }
  | .called fAction uEvent pData uCurrentState =>
    let pCell := c.cell q.uCurrentState uEvent
    match q.queue with
    | next :: queue =>
      if q.running = false ∧ next = (uEvent, pData) ∧ fAction = pCell.fAction ∧
          uCurrentState = pCell.uNextState then some ⟨uCurrentState, queue, true⟩
      else none
    | [] => none
  | .returned => if q.running then some { q with running := false } else none

/-- The log is a run of the engine to `q`. -/
def Engine.Accepts [DecidableEq α] [DecidableEq δ] (c : Config α) (log : List (Entry α δ))
    (q : Engine δ) : Prop :=
  exec (Engine.step c) ⟨c.uInitialState, [], false⟩ log = some q

/-! ## Replaced events -/

def Entry.isSent : Entry α δ → Bool
  | .sent _ _ => true
  | _ => false

@[simp] theorem Entry.isSent_sent (uEvent : ℕ) (pData : δ) :
    (Entry.sent uEvent pData : Entry α δ).isSent = true := rfl

/-- The log without the events that the next call replaced. -/
def survivors : List (Entry α δ) → List (Entry α δ)
  | e :: e' :: log => if e.isSent && e'.isSent then survivors (e' :: log)
    else e :: survivors (e' :: log)
  | log => log

/-- No event is sent right after another one. -/
def NoneReplaced (log : List (Entry α δ)) : Prop :=
  log.IsChain fun e e' => ¬ (e.isSent = true ∧ e'.isSent = true)

theorem survivors_of_noneReplaced {log : List (Entry α δ)} (h : NoneReplaced log) :
    survivors log = log := by
  induction log with
  | nil => rfl
  | cons e log ih =>
    cases log with
    | nil => rfl
    | cons e' log =>
      have hrest := List.isChain_cons_cons.mp h
      rw [survivors, if_neg (by simpa using hrest.1), ih hrest.2]

theorem survivors_sent (log : List (Entry α δ)) :
    ∃ kept, ∀ uEvent pData,
      survivors (log ++ [.sent uEvent pData]) = kept ++ [.sent uEvent pData] := by
  induction log with
  | nil => exact ⟨[], fun _ _ => rfl⟩
  | cons e log ih =>
    obtain ⟨kept, hkept⟩ := ih
    cases log with
    | nil =>
      cases he : e.isSent with
      | true => exact ⟨[], fun uEvent pData => by simp [survivors, he]⟩
      | false => exact ⟨[e], fun uEvent pData => by simp [survivors, he]⟩
    | cons e' log =>
      by_cases hboth : (e.isSent && e'.isSent) = true
      · refine ⟨kept, fun uEvent pData => ?_⟩
        rw [← hkept, List.cons_append, List.cons_append, survivors, if_pos hboth]
      · refine ⟨e :: kept, fun uEvent pData => ?_⟩
        rw [List.cons_append, List.cons_append, survivors, if_neg hboth, List.cons_append,
          ← hkept, List.cons_append]

theorem survivors_sent_sent (log : List (Entry α δ)) (e e' : ℕ × δ) :
    survivors (log ++ [.sent e.1 e.2, .sent e'.1 e'.2]) = survivors (log ++ [.sent e'.1 e'.2]) := by
  induction log with
  | nil => rfl
  | cons first log ih =>
    cases log with
    | nil =>
      cases hfirst : first.isSent <;> simp [survivors, hfirst]
    | cons second log =>
      simp only [List.cons_append, survivors] at ih ⊢
      rw [ih]

theorem survivors_snoc {log : List (Entry α δ)} {e : Entry α δ}
    (h : e.isSent = false ∨ ∀ last ∈ log.getLast?, last.isSent = false) :
    survivors (log ++ [e]) = survivors log ++ [e] := by
  induction log with
  | nil => rfl
  | cons first log ih =>
    cases log with
    | nil =>
      have hnot : ¬ (first.isSent && e.isSent) = true := by
        obtain h | h := h
        · simp [h]
        · simp [h first rfl]
      rw [List.singleton_append, survivors, if_neg hnot]
      rfl
    | cons second log =>
      have hrest := ih (h.imp_right fun hlast last hmem => hlast last (by simpa using hmem))
      simp only [List.cons_append, survivors] at hrest ⊢
      rw [hrest]
      split <;> rfl

/-! ## The object executes as the engine -/

namespace Sys

variable [DecidableEq α] [DecidableEq δ] {c : Config α} {s t : Sys α δ}

/-- The engine that the object stands for. -/
def engine (s : Sys α δ) : Engine δ where
  uCurrentState := s.uCurrentState
  queue := if s.bEventPending then s.event.toList else []
  running := s.bInAction

/-- **The surviving events are executed by the engine**, and what is pending was sent last. -/
structure Inv (c : Config α) (s : Sys α δ) : Prop where
  accepts : Engine.Accepts c (survivors s.log) s.engine
  pending : s.bEventPending = true →
    ∃ log uEvent pData, s.event = some (uEvent, pData) ∧ s.log = log ++ [.sent uEvent pData]
  none : s.bEventPending = false → ∀ last ∈ s.log.getLast?, last.isSent = false
  idle : s.bInAction = false → s.bEventPending = false

def save (s : Sys α δ) (uEvent : ℕ) (pData : δ) : Sys α δ :=
  { s with
    bEventPending := true
    event := some (uEvent, pData)
    log := s.log ++ [.sent uEvent pData] }

theorem accepts_save (hs : s.Inv c) (uEvent : ℕ) (pData : δ) :
    Engine.Accepts c (survivors (s.save uEvent pData).log) (s.save uEvent pData).engine := by
  have haccepts := hs.accepts
  cases hpending : s.bEventPending with
  | false =>
    simp only [save]
    rw [survivors_snoc (.inr (hs.none hpending))]
    refine exec_snoc.mpr ⟨_, haccepts, ?_⟩
    simp only [Engine.step, engine, hpending]
    rfl
  | true =>
    obtain ⟨log, uEvent', pData', hevent, hlog⟩ := hs.pending hpending
    obtain ⟨kept, hkept⟩ := survivors_sent log
    rw [Engine.Accepts, hlog, hkept] at haccepts
    obtain ⟨q, hq, hlast⟩ := exec_snoc.mp haccepts
    simp only [save]
    rw [hlog, List.append_assoc, List.singleton_append,
      survivors_sent_sent log (uEvent', pData') (uEvent, pData), hkept]
    refine exec_snoc.mpr ⟨q, hq, ?_⟩
    obtain ⟨uCurrentState, queue, running⟩ := q
    simp only [Engine.step, engine, hpending, hevent, if_true, Option.toList_some,
      Option.some.injEq, Engine.mk.injEq] at hlast ⊢
    obtain ⟨hstate, hqueue, hrunning⟩ := hlast
    obtain rfl : queue = [] := by
      rw [← List.nil_append [(uEvent', pData')]] at hqueue
      exact List.append_cancel_right hqueue
    exact ⟨hstate, rfl, hrunning⟩

theorem Inv.execute (hs : Engine.Accepts c (survivors s.log) s.engine)
    (hrunning : s.bInAction = false)
    (hpending : s.bEventPending = true → ∃ uEvent pData, s.event = some (uEvent, pData))
    (hnone : s.bEventPending = false → ∀ last ∈ s.log.getLast?, last.isSent = false) :
    (s.execute c).Inv c := by
  unfold Sys.execute
  cases h : s.bEventPending with
  | false =>
    refine ⟨hs, fun hp => ?_, fun _ => hnone h, fun _ => h⟩
    rw [h] at hp
    cases hp
  | true =>
    obtain ⟨uEvent, pData, hevent⟩ := hpending h
    rw [hevent]
    refine ⟨?_, fun hp => (nomatch hp), fun _ last hlast => ?_, fun hp => (nomatch hp)⟩
    · simp only
      rw [survivors_snoc (.inl rfl)]
      refine exec_snoc.mpr ⟨_, hs, ?_⟩
      simp [Engine.step, engine, h, hevent, hrunning]
    · rw [List.getLast?_concat, Option.mem_some_iff] at hlast
      exact hlast ▸ rfl

theorem Inv.step {i : Input δ} (hs : s.Inv c) (h : s.step c i = some t) : t.Inv c := by
  cases i with
  | event uEvent pData =>
    cases h
    have haccepts := accepts_save hs uEvent pData
    show ((if s.bInAction then s.save uEvent pData else (s.save uEvent pData).execute c) :
      Sys α δ).Inv c
    cases hrunning : s.bInAction with
    | true =>
      refine ⟨haccepts, fun _ => ⟨s.log, uEvent, pData, rfl, rfl⟩, fun hp => (nomatch hp),
        fun hidle => ?_⟩
      cases hrunning.symm.trans hidle
    | false => exact .execute haccepts hrunning (fun _ => ⟨uEvent, pData, rfl⟩) fun hp => (nomatch hp)
  | actionReturns =>
    simp only [Sys.step] at h
    split at h
    · rename_i hrunning
      cases h
      refine .execute ?_ rfl (fun hp => ?_) fun _ last hlast => ?_
      · simp only
        rw [survivors_snoc (.inl rfl)]
        refine exec_snoc.mpr ⟨_, hs.accepts, ?_⟩
        simp [Engine.step, engine, hrunning]
      · obtain ⟨-, uEvent, pData, hevent, -⟩ := hs.pending hp
        exact ⟨uEvent, pData, hevent⟩
      · rw [List.getLast?_concat, Option.mem_some_iff] at hlast
        exact hlast ▸ rfl
    · cases h

theorem inv_init (c : Config α) : (init c : Sys α δ).Inv c :=
  ⟨rfl, fun hp => (nomatch hp), fun _ _ hlast => (nomatch hlast), fun _ => rfl⟩

/-- **The surviving events of a run are executed in the order sent, each exactly once, with its
data, from the state that the one before left; when no action runs there is none to execute.**
If no action sends two events, all survive. -/
theorem runs_to_completion {is : List (Input δ)} (he : exec (step c) (init c) is = some s) :
    (∃ q, Engine.Accepts c (survivors s.log) q ∧ q.uCurrentState = s.uCurrentState ∧
      q.running = s.bInAction ∧ (s.bInAction = false → q.queue = [])) ∧
      (NoneReplaced s.log → survivors s.log = s.log) := by
  have hs : s.Inv c := exec_invariant (fun _ _ _ hs h => hs.step h) (inv_init c) he
  refine ⟨⟨s.engine, hs.accepts, rfl, rfl, fun hidle => ?_⟩, survivors_of_noneReplaced⟩
  exact if_neg (by simp [hs.idle hidle])

end Sys

/-! ## Sample runs -/

/-- Three events and one state. -/
def sample : Config Unit := ⟨3, fun _ => ⟨0, ()⟩, 0⟩

/-- The action of the first event sends one more. -/
def oneSent : List (Sys.Input ℕ) := [.event 0 7, .event 1 8, .actionReturns, .actionReturns]

theorem runs_to_completion_oneSent :
    ∃ s, exec (Sys.step sample) (Sys.init sample) oneSent = some s ∧
      survivors s.log = s.log ∧ ∃ q, Engine.Accepts sample s.log q ∧ q.queue = [] := by
  have hrun : (exec (Sys.step sample) (Sys.init sample) oneSent).any fun s =>
      (survivors s.log = s.log && !s.bInAction) := by
    decide
  cases he : exec (Sys.step sample) (Sys.init sample) oneSent with
  | none => simp [he] at hrun
  | some s =>
    simp only [he, Option.any_some, Bool.and_eq_true, decide_eq_true_eq, Bool.not_eq_true'] at hrun
    obtain ⟨⟨q, hq, -, -, hqueue⟩, -⟩ := Sys.runs_to_completion he
    exact ⟨s, rfl, hrun.1, q, hrun.1 ▸ hq, hqueue hrun.2⟩

/-- The action of the first event sends two more. -/
def twoSent : List (Sys.Input ℕ) :=
  [.event 0 7, .event 1 8, .event 2 9, .actionReturns, .actionReturns]

/-- The first of two events is lost. -/
theorem event_lost :
    ∃ s, exec (Sys.step sample) (Sys.init sample) twoSent = some s ∧ s.bInAction = false ∧
      ∀ q, ¬ Engine.Accepts sample s.log q := by
  refine ⟨_, rfl, rfl, fun q hq => ?_⟩
  cases hq

end ArchosGpl.Wlan.GenSM
