import ArchosGpl.Wlan.PowerSrv.Model

/-!
# What becomes of a power-save request

While a command is on its way a request waits; at rest it is in the current state already, or its
own command is sent (`processRequest_busy`, `processRequest_settled`). `Core` is what the server
keeps of the slots, the pointers and the state machine, `Ready` the same with a new request in one
slot, and **`Ready.processRequest`** says what `powerSrvProcessRequest` makes of that request. A
report brings the state machine to rest (`reported_spec`).
-/

open Function (update update_of_ne update_self)

namespace ArchosGpl.Wlan.PowerSrv

open Lib

variable {C : Type*}

/-! ## The state machine at rest and at work -/

/-- The command that the state machine waits for: to power save, or back. -/
def SmState.command : SmState → Option Bool
  | .pendPs => some true
  | .pendActive => some false
  | .active | .ps | .errorActive => none

/-- The state is the one that the mode asks for. -/
def SmState.isCurrent : SmState → PsMode → Bool
  | .active, psMode => psMode ≠ .on
  | .ps, psMode => psMode = .on
  | _, _ => false

def Status.state : Status → RequestState
  | .ok => .running
  | .pending => .pending
  | .isCurrent => .handled

namespace Sys

variable {s t : Sys C} {mode m : PowerSrvMode} {status : Status}

def stateOf (s : Sys C) (mode : PowerSrvMode) : RequestState := (s.request mode).requestState

/-! ## One request -/

/-- The state after a request has been taken by the state machine. -/
def taken (s : Sys C) (mode : PowerSrvMode) (status : Status) : Sys C :=
  { ({ s with pSmRequest := mode } : Sys C).setRequestState mode status.state with
    pCurrentRequest := mode
    currentMode := mode }

theorem stateOf_setRequestState (s : Sys C) (mode : PowerSrvMode) (state : RequestState) :
    ((s.setRequestState mode state).request mode).requestState = state := by
  simp [setRequestState]

theorem processRequest_busy (s : Sys C) (mode : PowerSrvMode)
    (hmodes : ∀ m, (s.request m).requestMode = m) (h : s.currentState.command ≠ none) :
    ∃ p, (s.pCurrentRequest = .driver → p = s.pSmRequest) ∧ s.processRequest mode =
      (({ s with pSmRequest := p } : Sys C).setRequestState mode .pending, .pending) := by
  have hstate : s.currentState = .pendActive ∨ s.currentState = .pendPs := by
    cases hs : s.currentState <;> simp_all [SmState.command]
  have hmatrix : ∀ e, e = .requestPs ∨ e = .requestActive →
      smMatrix s.currentState e = (s.currentState, .doPending) := by
    rintro e (rfl | rfl) <;> obtain hs | hs := hstate <;> rw [hs] <;> rfl
  unfold processRequest isBusyForDriver
  rw [hmodes]
  by_cases hcur : s.pCurrentRequest = .driver
  · refine ⟨s.pSmRequest, fun _ => rfl, ?_⟩
    rw [if_pos (by simpa [hcur] using hstate)]
  · refine ⟨mode, fun h => absurd h hcur, ?_⟩
    rw [if_neg (by simp [hcur])]
    have hevent : (if (s.request mode).psMode = .on then SmEvent.requestPs else .requestActive) =
        .requestPs ∨ (if (s.request mode).psMode = .on then SmEvent.requestPs
          else .requestActive) = .requestActive := by
      split <;> simp
    simp only [smApi, hmatrix _ hevent, act]
    rw [updateCurrent, if_neg (by simp [stateOf_setRequestState])]

theorem updateCurrent_of_ne (h : (s.request mode).requestState ≠ .pending)
    (hmode : (s.request mode).requestMode = mode) :
    s.updateCurrent mode = { s with pCurrentRequest := mode, currentMode := mode } := by
  rw [updateCurrent, if_pos h, hmode]

/-- **What becomes of a request** at rest: it is in the current state already, or its own command is
sent. -/
theorem processRequest_settled (s : Sys C) (mode : PowerSrvMode)
    (hmodes : ∀ m, (s.request m).requestMode = m) (h : s.currentState.command = none) :
    (s.currentState.isCurrent (s.request mode).psMode = true ∧
      s.processRequest mode = (s.taken mode .isCurrent, .isCurrent)) ∨
    (s.currentState.isCurrent (s.request mode).psMode = false ∧ ∃ state,
      state.command = some (decide ((s.request mode).psMode = .on)) ∧
      s.processRequest mode =
        ({ s.taken mode .ok with
            currentState := state
            commands := s.commands ++ [decide ((s.request mode).psMode = .on)] }, .ok)) := by
  have hbusy : s.isBusyForDriver = false := by
    unfold isBusyForDriver
    cases hs : s.currentState <;> simp_all [SmState.command]
  unfold processRequest
  rw [hbusy]
  by_cases hon : (s.request mode).psMode = .on
  · cases hs : s.currentState with
    | pendPs | pendActive => simp [hs, SmState.command] at h
    | active =>
      refine .inr ⟨by simp [SmState.isCurrent, hon], .pendPs, by simp [SmState.command, hon], ?_⟩
      simp only [hon, smApi, smMatrix, act, Bool.false_eq_true, if_false, if_true]
      rw [updateCurrent_of_ne (by simp [setRequestState]) (by simp [setRequestState, hmodes])]
      simp [taken, Status.state, setRequestState]
    | errorActive =>
      refine .inr ⟨by simp [SmState.isCurrent], .pendPs, by simp [SmState.command, hon], ?_⟩
      simp only [hon, smApi, smMatrix, act, Bool.false_eq_true, if_false, if_true]
      rw [updateCurrent_of_ne (by simp [setRequestState]) (by simp [setRequestState, hmodes])]
      simp [taken, Status.state, setRequestState]
    | ps =>
      refine .inl ⟨by simp [SmState.isCurrent, hon], ?_⟩
      simp only [hon, smApi, smMatrix, act, Bool.false_eq_true, if_false, if_true]
      rw [updateCurrent_of_ne (by simp [setRequestState]) (by simp [setRequestState, hmodes])]
      simp [taken, Status.state, setRequestState, hs]
  · cases hs : s.currentState with
    | pendPs | pendActive => simp [hs, SmState.command] at h
    | active =>
      refine .inl ⟨by simp [SmState.isCurrent, hon], ?_⟩
      simp only [hon, smApi, smMatrix, act, Bool.false_eq_true, if_false]
      rw [updateCurrent_of_ne (by simp [setRequestState]) (by simp [setRequestState, hmodes])]
      simp [taken, Status.state, setRequestState, hs]
    | errorActive =>
      refine .inr ⟨by simp [SmState.isCurrent], .pendActive, by simp [SmState.command, hon], ?_⟩
      simp only [hon, smApi, smMatrix, act, Bool.false_eq_true, if_false]
      rw [updateCurrent_of_ne (by simp [setRequestState]) (by simp [setRequestState, hmodes])]
      simp [taken, Status.state, setRequestState]
    | ps =>
      refine .inr ⟨by simp [SmState.isCurrent, hon], .pendActive, by simp [SmState.command, hon],
        ?_⟩
      simp only [hon, smApi, smMatrix, act, Bool.false_eq_true, if_false]
      rw [updateCurrent_of_ne (by simp [setRequestState]) (by simp [setRequestState, hmodes])]
      simp [taken, Status.state, setRequestState]

/-! ## What the server keeps -/

/-- What holds of the requests and the state machine, the slot `mode` apart. -/
structure Ready (s : Sys C) (mode : PowerSrvMode) : Prop where
  modes : ∀ m, (s.request m).requestMode = m
  commands : s.commands = s.currentState.command.toList
  /-- A running request is the current one, and its command is on its way. -/
  running : ∀ m ≠ mode, s.stateOf m = .running →
    s.pCurrentRequest = m ∧ s.currentState.command = some (decide ((s.request m).psMode = .on))
  old : ∀ m ≠ mode, s.stateOf m ≠ .new
  current : s.currentState.command ≠ none → s.pCurrentRequest ≠ mode →
    s.stateOf s.pCurrentRequest ≠ .handled
  smRequest : s.currentState.command ≠ none → s.pCurrentRequest = .driver → s.pSmRequest = .driver

/-- What holds of the requests and the state machine. -/
structure Core (s : Sys C) : Prop where
  modes : ∀ m, (s.request m).requestMode = m
  commands : s.commands = s.currentState.command.toList
  running : ∀ m, s.stateOf m = .running →
    s.pCurrentRequest = m ∧ s.currentState.command = some (decide ((s.request m).psMode = .on))
  old : ∀ m, s.stateOf m ≠ .new
  current : s.currentState.command ≠ none → s.stateOf s.pCurrentRequest ≠ .handled
  smRequest : s.currentState.command ≠ none → s.pCurrentRequest = .driver → s.pSmRequest = .driver

theorem Core.ready (h : s.Core) (mode : PowerSrvMode) : s.Ready mode :=
  ⟨h.modes, h.commands, fun m _ => h.running m, fun m _ => h.old m, fun hc _ => h.current hc,
    h.smRequest⟩

/-- What `powerSrvProcessRequest` makes of a request. -/
structure Processed (s : Sys C) (mode : PowerSrvMode) (t : Sys C) (status : Status) : Prop where
  core : t.Core
  request : t.request =
    update s.request mode { s.request mode with requestState := status.state }
  frame : t.log = s.log ∧ t.reserved = s.reserved ∧ t.inCallback = s.inCallback
  currentMode : t.currentMode = if status = .pending then s.currentMode else mode
  current : status ≠ .pending → t.pCurrentRequest = mode
  /-- It waits exactly while a command is on its way. -/
  pending : status = .pending ↔ s.currentState.command ≠ none
  isCurrent : t.currentState.command = none →
    status = .isCurrent ∧ s.currentState.isCurrent (s.request mode).psMode = true

theorem modes_of_update {t : Sys C} {state : RequestState}
    (hmodes : ∀ m, (s.request m).requestMode = m)
    (ht : t.request = update s.request mode { s.request mode with requestState := state })
    (m : PowerSrvMode) : (t.request m).requestMode = m := by
  rw [ht]
  by_cases hm : m = mode
  · subst hm
    rw [update_self]
    exact hmodes m
  · rw [update_of_ne hm]
    exact hmodes m

theorem slot_cases {t : Sys C} {r : Request C} (ht : t.request = update s.request mode r)
    (m : PowerSrvMode) : m = mode ∧ t.request m = r ∨ m ≠ mode ∧ t.request m = s.request m := by
  by_cases hm : m = mode
  · subst hm
    exact .inl ⟨rfl, by rw [ht, update_self]⟩
  · exact .inr ⟨hm, by rw [ht, update_of_ne hm]⟩

theorem Ready.core_pending (h : s.Ready mode) {p : PowerSrvMode}
    (hp : s.pCurrentRequest = .driver → p = s.pSmRequest) :
    (({ s with pSmRequest := p } : Sys C).setRequestState mode .pending).Core := by
  have hslot := slot_cases (s := s)
    (t := ({ s with pSmRequest := p } : Sys C).setRequestState mode .pending) rfl
  refine ⟨modes_of_update h.modes rfl, h.commands, fun m hm => ?_, fun m hm => ?_, fun hc => ?_,
    fun hc hd => (hp hd).trans (h.smRequest hc hd)⟩
  · obtain ⟨-, hr⟩ | ⟨hne, hr⟩ := hslot m
    · simp [stateOf, hr] at hm
    · rw [stateOf, hr] at hm
      rw [hr]
      exact h.running m hne hm
  · obtain ⟨-, hr⟩ | ⟨hne, hr⟩ := hslot m
    · simp [stateOf, hr] at hm
    · rw [stateOf, hr] at hm
      exact h.old m hne hm
  · intro hm
    obtain ⟨-, hr⟩ | ⟨hne, hr⟩ := hslot s.pCurrentRequest
    · simp [stateOf, setRequestState] at hm hr
      simp [hr] at hm
    · rw [stateOf] at hm
      exact h.current hc hne ((congrArg Request.requestState hr).symm.trans hm)

theorem Ready.core_taken (h : s.Ready mode) (hcmd : s.currentState.command = none)
    (status : Status) (hstatus : status ≠ .pending) (state : SmState)
    (hstate : state.command =
      if status = .ok then some (decide ((s.request mode).psMode = .on)) else none) :
    ({ s.taken mode status with
        currentState := state
        commands := state.command.toList } : Sys C).Core := by
  have hslot := slot_cases (s := s) (t := s.taken mode status) rfl
  have hrun : ∀ m ≠ mode, s.stateOf m ≠ .running := by
    intro m hm hr
    have := (h.running m hm hr).2
    rw [hcmd] at this
    cases this
  have hnew : (s.taken mode status).stateOf mode = status.state := stateOf_setRequestState _ _ _
  refine ⟨modes_of_update h.modes rfl, rfl, fun m hm => ?_, fun m hm => ?_, fun hc hm => ?_,
    fun _ hd => hd⟩
  · obtain ⟨rfl, hr⟩ | ⟨hne, hr⟩ := hslot m
    · have hok : status = .ok := by
        have : status.state = .running := hnew.symm.trans hm
        cases status <;> simp_all [Status.state]
      rw [hok, if_pos rfl] at hstate
      exact ⟨rfl, hstate.trans (by rw [hr])⟩
    · exact absurd ((congrArg Request.requestState hr).symm.trans hm) (hrun m hne)
  · obtain ⟨rfl, -⟩ | ⟨hne, hr⟩ := hslot m
    · have : status.state = .new := hnew.symm.trans hm
      cases status <;> cases this
    · exact h.old m hne ((congrArg Request.requestState hr).symm.trans hm)
  · have hhandled : status.state = .handled := hnew.symm.trans hm
    have hc : state.command ≠ none := hc
    cases status <;> simp_all [Status.state]

theorem Ready.processRequest (h : s.Ready mode) :
    Processed s mode (s.processRequest mode).1 (s.processRequest mode).2 := by
  by_cases hcmd : s.currentState.command = none
  · have hcommands : s.commands = [] := by rw [h.commands, hcmd]; rfl
    obtain ⟨hcur, heq⟩ | ⟨hcur, state, hstate, heq⟩ := processRequest_settled s mode h.modes hcmd
    · rw [heq]
      have hcore := h.core_taken hcmd .isCurrent (by simp) s.currentState (by simp [hcmd])
      rw [← h.commands] at hcore
      exact ⟨hcore, rfl, ⟨rfl, rfl, rfl⟩, rfl, fun _ => rfl, by simp [hcmd], fun _ => ⟨rfl, hcur⟩⟩
    · rw [heq]
      have hcore := h.core_taken hcmd .ok (by simp) state (by simp [hstate])
      rw [hcommands, List.nil_append]
      rw [hstate, Option.toList_some] at hcore
      exact ⟨hcore, rfl, ⟨rfl, rfl, rfl⟩, rfl, fun _ => rfl, by simp [hcmd],
        fun hn => by simp [hstate] at hn⟩
  · obtain ⟨p, hp, heq⟩ := processRequest_busy s mode h.modes hcmd
    rw [heq]
    exact ⟨h.core_pending hp, rfl, ⟨rfl, rfl, rfl⟩, rfl, by simp, by simp [hcmd],
      fun hn => absurd hn hcmd⟩

theorem Core.create (h : s.Core) (mode : PowerSrvMode) (psMode : PsMode) (cb : Option C) :
    (s.createPssRequest mode .new psMode cb).Ready mode := by
  have hslot := slot_cases (s := s) (t := s.createPssRequest mode .new psMode cb) rfl
  refine ⟨fun m => ?_, h.commands, fun m hne hm => ?_, fun m hne hm => ?_, fun hc hne hm => ?_,
    h.smRequest⟩
  · obtain ⟨rfl, hr⟩ | ⟨-, hr⟩ := hslot m
    · rw [hr]
    · rw [hr]
      exact h.modes m
  · obtain ⟨heq, -⟩ | ⟨-, hr⟩ := hslot m
    · exact absurd heq hne
    · rw [stateOf, hr] at hm
      rw [hr]
      exact h.running m hm
  · obtain ⟨heq, -⟩ | ⟨-, hr⟩ := hslot m
    · exact absurd heq hne
    · exact h.old m ((congrArg Request.requestState hr).symm.trans hm)
  · obtain ⟨heq, -⟩ | ⟨-, hr⟩ := hslot s.pCurrentRequest
    · exact absurd heq hne
    · exact h.current hc ((congrArg Request.requestState hr).symm.trans hm)

theorem Core.answer (h : s.Core) (mode : PowerSrvMode) (status : Status) :
    (s.answer mode status).Core :=
  ⟨h.modes, h.commands, h.running, h.old, h.current, h.smRequest⟩

theorem Processed.request_create {psMode : PsMode} {cb : Option C} {t : Sys C}
    (h : Processed (s.createPssRequest mode .new psMode cb) mode t status) :
    t.request = update s.request mode ⟨status.state, mode, psMode, cb⟩ := by
  rw [h.request]
  simp [createPssRequest]

/-! ## The three requests -/

theorem setPsMode_user (psMode : PsMode) (cb : Option C)
    (hready : (s.createPssRequest .user .new psMode cb).Ready .user)
    (huser : s.currentMode = .user) :
    ∃ t status, Processed (s.createPssRequest .user .new psMode cb) .user t status ∧
      s.setPsMode psMode cb = t.answer .user status := by
  refine ⟨_, _, hready.processRequest, ?_⟩
  rw [Sys.setPsMode]
  simp only [hready.modes]
  rw [if_pos (show (s.createPssRequest .user .new psMode cb).currentMode = .user from huser)]

def reserveMode (s : Sys C) (psMode : PsMode) : PsMode :=
  if psMode = .keepCurrent then (s.request .user).psMode else psMode

theorem reservePs_driver (psMode : PsMode) (cb : Option C) (h : s.Core) :
    ∃ t status, Processed (({ s with reserved := true } : Sys C).createPssRequest .driver .new
        (s.reserveMode psMode) cb) .driver t status ∧
      s.reservePs psMode cb = t.answer .driver status := by
  have hcore : ({ s with reserved := true } : Sys C).Core :=
    ⟨h.modes, h.commands, h.running, h.old, h.current, h.smRequest⟩
  have hready := hcore.create .driver (s.reserveMode psMode) cb
  exact ⟨_, _, hready.processRequest, rfl⟩

theorem releasePs_driver (cb : Option C) (h : s.Core) :
    ∃ t status, Processed (({ s with reserved := false } : Sys C).createPssRequest .driver .new
        s.releaseMode cb) .driver t status ∧
      s.releasePs cb = (if status ≠ .pending then { t with currentMode := .user }
        else t).answer .driver status := by
  have hcore : ({ s with reserved := false } : Sys C).Core :=
    ⟨h.modes, h.commands, h.running, h.old, h.current, h.smRequest⟩
  have hready := hcore.create .driver s.releaseMode cb
  refine ⟨_, _, hready.processRequest, ?_⟩
  have hcode : (s.request .driver).requestMode.code ≠ powerSave80211Pending := by
    rw [h.modes]
    decide
  rw [releasePs, if_neg (show (({ s with reserved := false } : Sys C).request
    .driver).requestMode.code ≠ powerSave80211Pending from hcode)]
  rfl

/-! ## Reports -/

theorem smMatrix_report {state : SmState} {ps : Bool} (h : state.command = some ps)
    (success : Bool) :
    ∃ state', state'.command = none ∧
      smMatrix state (if success then .success else .fail) = (state', .doUpdateRequest) := by
  cases state <;> cases success <;> first | (cases h; done) | exact ⟨_, rfl, rfl⟩

/-- What a report does: it ends the request of the state machine, if that one runs. -/
structure Reported (s t : Sys C) : Prop where
  rest : t.currentState.command = none
  handled : s.stateOf s.pSmRequest = .running → t.request =
    update s.request s.pSmRequest { s.request s.pSmRequest with requestState := .handled }
  kept : s.stateOf s.pSmRequest ≠ .running → t.request = s.request
  frame : t.commands = s.commands ∧ t.pCurrentRequest = s.pCurrentRequest ∧
    t.currentMode = s.currentMode ∧ t.reserved = s.reserved ∧ t.log = s.log

theorem reported_spec {ps : Bool} (h : s.currentState.command = some ps) (success : Bool) :
    Reported s (s.reported success) := by
  obtain ⟨state, hstate, hmatrix⟩ := smMatrix_report h success
  have hact : Reported s (({ s with currentState := state } : Sys C).act .doUpdateRequest).1 := by
    unfold act
    by_cases hrun : (s.request s.pSmRequest).requestState = .running
    · rw [if_pos hrun]
      exact ⟨hstate, fun _ => rfl, fun hn => absurd hrun hn, rfl, rfl, rfl, rfl, rfl⟩
    · rw [if_neg hrun]
      exact ⟨hstate, fun hr => absurd hr hrun, fun _ => rfl, rfl, rfl, rfl, rfl, rfl⟩
  unfold reported smApi
  rw [hmatrix]
  dsimp only
  split
  · exact ⟨hact.rest, hact.handled, hact.kept, hact.frame⟩
  · exact hact

theorem Core.not_running (h : s.Core) (hrest : s.currentState.command = none)
    (mode : PowerSrvMode) : s.stateOf mode ≠ .running := by
  intro hr
  have := (h.running mode hr).2
  rw [hrest] at this
  cases this

theorem Core.at_rest (h : s.Core) {t : Sys C}
    (hmodes : ∀ m, (t.request m).requestMode = (s.request m).requestMode)
    (hrun : ∀ m, t.stateOf m ≠ .running) (hold : ∀ m, t.stateOf m = .new → s.stateOf m = .new)
    (hcmd : t.currentState.command = none) (hcommands : t.commands = []) : t.Core :=
  ⟨fun m => (hmodes m).trans (h.modes m), by rw [hcommands, hcmd]; rfl,
    fun m hm => absurd hm (hrun m), fun m hm => h.old m (hold m hm), fun hc => absurd hcmd hc,
    fun hc => absurd hcmd hc⟩

theorem waits_iff (h : s.Core) (mode : PowerSrvMode) :
    s.waits mode = true ↔ s.stateOf mode = .pending := by
  have := h.old mode
  simp only [waits, stateOf, Bool.or_eq_true, decide_eq_true_eq] at this ⊢
  exact or_iff_right this

theorem processWaiting_of (h : s.Core) (hpend : s.stateOf mode = .pending)
    (hprio : mode = .driver ∨ s.stateOf .driver ≠ .pending ∧ s.currentMode = .user) :
    ∃ t status, Processed s mode t status ∧ s.processWaiting = (t, status) := by
  refine ⟨_, _, (h.ready mode).processRequest, ?_⟩
  have hwaits := (waits_iff h mode).mpr hpend
  unfold processWaiting
  rw [h.modes, h.modes]
  cases mode with
  | driver => rw [if_pos hwaits]
  | user =>
    obtain hd | ⟨hdriver, huser⟩ := hprio
    · cases hd
    · rw [if_neg fun hw => hdriver ((waits_iff h .driver).mp hw), if_pos ⟨huser, hwaits⟩]

theorem complete_eq (s : Sys C) (psMode : PsMode) (report : EventsPowerSave) :
    ∃ log, s.complete psMode report = { s with log := log } := by
  unfold Sys.complete
  split
  · exact ⟨_, rfl⟩
  · exact ⟨s.log, rfl⟩

end Sys

end ArchosGpl.Wlan.PowerSrv
