import ArchosGpl.Wlan.PowerSrv.Requests

/-!
# Completion of power-save requests

What the server owes is read from outside (`Owed.step`): a request's callback is owed from its
answer on, once, with the outcome of its own mode. `Served` says that the log is a run of this, that
at rest only a user request that waits for a release is owed anything, and that a released server is
in user mode.

The code falls short in three ways. A reservation made while a user request runs takes the state
machine's pointer away from it, and the user request is never completed; a release that has to wait
is processed like a reservation, and leaves the server in driver mode; and a release into the
current state does not look at the user request that waits. **`requests_served`**: in a run whose
steps are `Regular`, which excludes these, the requests are served in every state.
-/

open Function (update update_eq_self update_of_ne update_self)

namespace ArchosGpl.Wlan.PowerSrv

open Lib

variable {C : Type*}

/-! ## What is owed -/

/-- The report is the outcome of a request for the mode, and the callback's mode goes with it. -/
def Outcome (requested psMode : PsMode) (status : EventsPowerSave) : Prop :=
  (requested = .on ↔ status = .enterPowerSaveSuccess ∨ status = .enterPowerSaveFail) ∧
    (psMode = .on ↔ status = .enterPowerSaveSuccess)

instance (requested psMode : PsMode) (status : EventsPowerSave) :
    Decidable (Outcome requested psMode status) := by
  unfold Outcome
  infer_instance

/-- The mode and the callback of the request of each kind that is owed its completion. -/
abbrev Owed (C : Type*) := PowerSrvMode → Option (PsMode × C)

/-- What an event makes of what is owed; `none` for a callback that is not owed. -/
def Owed.step [DecidableEq C] (o : Owed C) : Event C → Option (Owed C)
  | .answer mode psMode cb status =>
    some (update o mode (if status = .isCurrent then none else cb.map (psMode, ·)))
  | .callback mode cb psMode status =>
    match o mode with
    | some (requested, owed) =>
      if cb = owed ∧ Outcome requested psMode status then some (update o mode none)
      else none
    | none => none

def Owed.nothing : Owed C := fun _ => none

namespace Sys

variable {s t : Sys C} {mode m : PowerSrvMode} {status : Status}

theorem outcome_reportOn (requested : PsMode) (success : Bool) :
    Outcome requested
      (if reportOn (requested = .on) success = .enterPowerSaveSuccess then .on else .off)
      (reportOn (requested = .on) success) := by
  cases requested <;> cases success <;> decide

theorem outcome_current (requested : PsMode) :
    Outcome requested requested (reportOn (requested = .on) true) := by
  cases requested <;> decide

/-- The server is at rest: no command is on its way, and no report is being handled. -/
def AtRest (s : Sys C) : Prop := s.inCallback = false ∧ s.currentState.command = none

/-- **The requests are served.** -/
structure Served [DecidableEq C] (s : Sys C) : Prop where
  /-- Each callback is the one that was owed, and at rest only a user request that waits for the
  driver's release is owed one. -/
  completed : ∃ owed, exec Owed.step Owed.nothing s.log = some owed ∧ (s.AtRest →
    owed .driver = none ∧ (owed .user ≠ none → s.reserved = true ∧ s.stateOf .user = .pending))
  /-- After a release is completed the server is in user mode. -/
  userMode : s.reserved = false → s.stateOf .driver = .handled → s.currentMode = .user
  /-- No user request waits at rest. -/
  noneWaits : s.AtRest → s.reserved = false → s.waits .user = false

/-- **The condition under which requests are served.** -/
def Regular (s : Sys C) : Input C → Prop
  | .psReport _ =>
    -- no driver request has come behind a running user request
    (s.stateOf .user = .running → s.pSmRequest = .user) ∧
      -- no release waits, unless a callback is made before it is looked at
      (s.stateOf .driver = .pending → s.reserved = true ∨ s.stateOf s.pCurrentRequest = .running ∧
        (s.request s.pCurrentRequest).powerSrvCompleteCb.isSome = true)
  | .resume =>
    s.currentState.command = none → s.stateOf .driver = .pending → s.reserved = true
  | .releasePs _ =>
    -- no user request waits for the state that the server is in
    s.inCallback = false → s.waits .user = true →
      s.currentState.isCurrent (s.request .user).psMode = false
  | _ => True

instance (s : Sys C) (i : Input C) : Decidable (s.Regular i) := by
  cases i <;> simp only [Regular] <;> infer_instance

/-! ## What the server owes -/

/-- What is owed to a request. -/
def debt (r : Request C) : Option (PsMode × C) :=
  match r.requestState with
  | .running | .pending => r.powerSrvCompleteCb.map (r.psMode, ·)
  | .new | .handled => none

def debts (s : Sys C) : Owed C := fun mode => debt (s.request mode)

theorem debts_update {t : Sys C} {r : Request C}
    (ht : t.request = update s.request mode r) :
    t.debts = update s.debts mode (debt r) := by
  funext m
  obtain ⟨rfl, hr⟩ | ⟨hne, hr⟩ := slot_cases ht m
  · rw [update_self, debts, hr]
  · rw [update_of_ne hne, debts, hr, debts]

theorem debt_state (r : Request C) (status : Status) :
    debt { r with requestState := status.state } =
      if status = .isCurrent then none else r.powerSrvCompleteCb.map (r.psMode, ·) := by
  cases status <;> rfl

section Served

variable [DecidableEq C]

/-- The log accounts for what is owed. -/
def Accounted (s : Sys C) : Prop := exec Owed.step Owed.nothing s.log = some s.debts

theorem Accounted.answer (h : s.Accounted) {t : Sys C} {r : Request C} (hlog : t.log = s.log)
    (ht : t.request = update s.request mode { r with requestState := status.state }) :
    (t.answer mode status).Accounted := by
  refine exec_snoc.mpr ⟨s.debts, hlog ▸ h, ?_⟩
  have hr : t.request mode = { r with requestState := status.state } := by
    rw [ht, update_self]
  rw [Owed.step, hr]
  exact congrArg some ((congrArg _ (debt_state r status).symm).trans (debts_update ht).symm)

theorem Accounted.complete (h : s.Accounted) {t : Sys C} {psMode : PsMode}
    {report : EventsPowerSave} (hlog : t.log = s.log)
    (ht : t.request = update s.request t.pCurrentRequest
      { s.request t.pCurrentRequest with requestState := .handled })
    (howed : s.stateOf t.pCurrentRequest = .running ∨ s.stateOf t.pCurrentRequest = .pending)
    (hout : Outcome (s.request t.pCurrentRequest).psMode psMode report) :
    (t.complete psMode report).Accounted := by
  have hr : t.request t.pCurrentRequest =
      { s.request t.pCurrentRequest with requestState := .handled } := by
    rw [ht, update_self]
  have hdebts : t.debts = update s.debts t.pCurrentRequest none := debts_update ht
  have hdebt : s.debts t.pCurrentRequest = (s.request t.pCurrentRequest).powerSrvCompleteCb.map
      ((s.request t.pCurrentRequest).psMode, ·) := by
    unfold debts debt
    obtain howed | howed := howed <;> rw [stateOf] at howed <;> rw [howed]
  rw [Sys.complete, hr]
  cases hcb : (s.request t.pCurrentRequest).powerSrvCompleteCb with
  | none =>
    rw [hcb, Option.map_none] at hdebt
    rw [Accounted, hlog, hdebts, ← hdebt, update_eq_self]
    exact h
  | some cb =>
    rw [hcb, Option.map_some] at hdebt
    refine exec_snoc.mpr ⟨s.debts, hlog ▸ h, ?_⟩
    rw [Owed.step, hdebt]
    simp only [hout, and_self, if_true]
    exact congrArg some hdebts.symm

/-! ## The steps -/

/-- What holds in every state, also while a report is handled. -/
structure Sound (s : Sys C) : Prop where
  core : s.Core
  mode : s.stateOf .driver ≠ .pending → (s.currentMode = .driver ↔ s.reserved = true)
  accounted : s.Accounted

def Waiting (s : Sys C) : Prop :=
  s.inCallback = false → s.currentState.command = none →
    s.stateOf .driver ≠ .pending ∧ (s.stateOf .user = .pending → s.currentMode = .driver)

/-- **The invariant.** -/
structure Inv (s : Sys C) : Prop where
  sound : s.Sound
  waiting : s.Waiting

theorem Sound.answer (h : s.Sound) {t : Sys C} (r : Request C) (hcore : t.Core)
    (ht : t.request = update s.request mode { r with requestState := status.state })
    (hlog : t.log = s.log)
    (hmode : t.stateOf .driver ≠ .pending → (t.currentMode = .driver ↔ t.reserved = true)) :
    (t.answer mode status).Sound :=
  ⟨hcore.answer _ _, hmode, h.accounted.answer hlog ht⟩

theorem Inv.setPsMode (h : s.Inv) (psMode : PsMode) (cb : Option C) :
    (s.setPsMode psMode cb).Inv := by
  have hready := h.sound.core.create .user psMode cb
  by_cases huser : s.currentMode = .user
  · obtain ⟨t, status, hp, heq⟩ := setPsMode_user psMode cb hready huser
    have hreq := hp.request_create
    have hdriver : t.request .driver = s.request .driver := by rw [hreq]; rfl
    have hmode : t.currentMode = s.currentMode := by
      rw [hp.currentMode, huser]
      split
      · exact huser
      · rfl
    rw [heq]
    refine ⟨h.sound.answer ⟨.new, .user, psMode, cb⟩ hp.core hreq hp.frame.1 fun hd => ?_, ?_⟩
    · rw [hmode, show t.reserved = s.reserved from hp.frame.2.1]
      rw [stateOf, hdriver] at hd
      exact h.sound.mode hd
    · intro hcb hcmd
      obtain ⟨rfl, -⟩ := hp.isCurrent hcmd
      have hs : s.currentState.command = none := by
        by_contra hc
        cases hp.pending.mpr hc
      have hd : t.stateOf .driver = s.stateOf .driver := congrArg Request.requestState hdriver
      refine ⟨?_, fun hu => ?_⟩
      · exact hd ▸ (h.waiting (hp.frame.2.2.symm.trans hcb) hs).1
      · have : t.stateOf .user = .handled := by rw [stateOf, hreq]; rfl
        cases this.symm.trans hu
  · have hdriver : s.currentMode = .driver := by
      cases hm : s.currentMode with
      | driver => rfl
      | user => exact absurd hm huser
    have heq : s.setPsMode psMode cb = ((s.createPssRequest .user .new psMode cb).setRequestState
        .user .pending).answer .user .pending := by
      rw [Sys.setPsMode]
      rw [if_neg (show (s.createPssRequest .user .new psMode cb).currentMode ≠ .user from huser)]
    rw [heq]
    refine ⟨h.sound.answer ⟨.new, .user, psMode, cb⟩ (hready.core_pending fun _ => rfl) ?_ rfl
      h.sound.mode, fun hcb hcmd => ⟨(h.waiting hcb hcmd).1, fun _ => hdriver⟩⟩
    simp [setRequestState, createPssRequest, Status.state]

theorem Inv.reservePs (h : s.Inv) (psMode : PsMode) (cb : Option C) :
    (s.reservePs psMode cb).Inv := by
  obtain ⟨t, status, hp, heq⟩ := reservePs_driver psMode cb h.sound.core
  have hreq := hp.request_create
  have hstate : t.stateOf .driver = status.state := by rw [stateOf, hreq]; rfl
  rw [heq]
  refine ⟨h.sound.answer ⟨.new, .driver, _, cb⟩ hp.core hreq hp.frame.1 fun hd => ?_,
    fun hcb hcmd => ?_⟩
  · have hmode := hp.currentMode
    rw [if_neg fun hs => hd (by rw [hstate, hs]; rfl)] at hmode
    exact iff_of_true hmode hp.frame.2.1
  · obtain ⟨rfl, -⟩ := hp.isCurrent hcmd
    refine ⟨?_, fun _ => hp.currentMode⟩
    rw [show (t.answer .driver .isCurrent).stateOf .driver = t.stateOf .driver from rfl, hstate]
    simp [Status.state]

theorem Inv.releasePs (h : s.Inv) (cb : Option C) (hreg : s.Regular (.releasePs cb)) :
    (s.releasePs cb).Inv := by
  obtain ⟨t, status, hp, heq⟩ := releasePs_driver cb h.sound.core
  have hreq := hp.request_create
  have hstate : t.stateOf .driver = status.state := by rw [stateOf, hreq]; rfl
  have hres : t.reserved = false := hp.frame.2.1
  rw [heq]
  by_cases hpend : status = .pending
  · subst hpend
    rw [if_neg (by simp)]
    refine ⟨h.sound.answer ⟨.new, .driver, _, cb⟩ hp.core hreq hp.frame.1
      fun hd => absurd hstate hd, fun _ hcmd => ?_⟩
    cases (hp.isCurrent hcmd).1
  · rw [if_pos hpend]
    have hcore : ({ t with currentMode := .user } : Sys C).Core :=
      ⟨hp.core.modes, hp.core.commands, hp.core.running, hp.core.old, hp.core.current,
        hp.core.smRequest⟩
    refine ⟨h.sound.answer ⟨.new, .driver, _, cb⟩ hcore hreq hp.frame.1
      fun _ => iff_of_false (by simp) (by simp [hres]), fun hcb hcmd => ?_⟩
    obtain ⟨rfl, hcur⟩ := hp.isCurrent hcmd
    have huser : t.request .user = s.request .user := by rw [hreq]; rfl
    refine ⟨fun hd => ?_, fun hu => ?_⟩
    · cases hstate.symm.trans hd
    · have hu : s.stateOf .user = .pending := (congrArg Request.requestState huser).symm.trans hu
      have hwait : s.waits .user = true := by
        rw [waits, show (s.request .user).requestState = .pending from hu]
        rfl
      have hnot := hreg (hp.frame.2.2.symm.trans hcb) hwait
      have hcur : s.currentState.isCurrent s.releaseMode = true := hcur
      rw [show s.releaseMode = (s.request .user).psMode by rw [releaseMode, if_pos hwait]] at hcur
      cases hnot.symm.trans hcur

/-! ## The steps: reports -/

/-- A waiting request that is processed after a report: it is owed its callback still, or it is in
the current state and gets the callback now. -/
theorem Sound.processed (h : s.Sound) {t : Sys C} (hpend : s.stateOf mode = .pending)
    (hp : Processed { s with inCallback := false } mode t status) :
    ∃ log, (if status = .isCurrent then t.complete (t.request t.pCurrentRequest).psMode
        (reportOn ((t.request t.pCurrentRequest).psMode = .on) true) else t) =
          { t with log := log } ∧
      ({ t with log := log } : Sys C).Core ∧ ({ t with log := log } : Sys C).Accounted := by
  have hcore : ∀ log, ({ t with log := log } : Sys C).Core := fun _ =>
    ⟨hp.core.modes, hp.core.commands, hp.core.running, hp.core.old, hp.core.current,
      hp.core.smRequest⟩
  by_cases hcur : status = .isCurrent
  · rw [if_pos hcur]
    obtain ⟨log, hlog⟩ := complete_eq t (t.request t.pCurrentRequest).psMode
      (reportOn ((t.request t.pCurrentRequest).psMode = .on) true)
    refine ⟨log, hlog, hcore log, ?_⟩
    rw [← hlog]
    have hmode : t.pCurrentRequest = mode := hp.current (by simp [hcur])
    refine h.accounted.complete hp.frame.1 ?_ ?_ ?_
    · rw [hmode, hp.request, hcur]
      rfl
    · rw [hmode]
      exact .inr hpend
    · rw [hmode, hp.request, update_self]
      exact outcome_current _
  · rw [if_neg hcur]
    refine ⟨t.log, rfl, hcore _, ?_⟩
    have hdebts : t.debts = s.debts := by
      rw [debts_update (s := s) hp.request, debt_state, if_neg hcur]
      refine (congrArg _ ?_).trans (update_eq_self mode s.debts)
      unfold debts debt
      rw [show (s.request mode).requestState = .pending from hpend]
    have haccounted : exec Owed.step Owed.nothing t.log = some t.debts := by
      rw [hp.frame.1, hdebts]
      exact h.accounted
    exact haccounted

theorem Sound.resume (h : s.Sound) (hreg : s.Regular .resume) : s.resume.Inv := by
  have hcore : ({ s with inCallback := false } : Sys C).Core :=
    ⟨h.core.modes, h.core.commands, h.core.running, h.core.old, h.core.current, h.core.smRequest⟩
  by_cases hdriver : s.stateOf .driver = .pending
  · obtain ⟨t, status, hp, hw⟩ := processWaiting_of hcore hdriver (.inl rfl)
    obtain ⟨log, heq, hcore, hacc⟩ := h.processed hdriver hp
    have hstate : t.stateOf .driver = status.state := by rw [stateOf, hp.request]; rfl
    rw [Sys.resume, hw]
    dsimp only
    rw [heq]
    refine ⟨⟨hcore, fun hd => ?_, hacc⟩, fun hcb hcmd => ?_⟩
    · have hstatus : status ≠ .pending := fun hs => hd (hstate.trans (by rw [hs]; rfl))
      have hmode := hp.currentMode
      rw [if_neg hstatus] at hmode
      have hrest : s.currentState.command = none := by
        by_contra hc
        exact hstatus (hp.pending.mpr hc)
      exact iff_of_true hmode (hp.frame.2.1.trans (hreg hrest hdriver))
    · obtain ⟨rfl, -⟩ := hp.isCurrent hcmd
      exact ⟨fun hd => absurd (hstate.symm.trans hd) (by decide), fun _ => hp.currentMode⟩
  · by_cases huser : s.currentMode = .user ∧ s.stateOf .user = .pending
    · obtain ⟨t, status, hp, hw⟩ := processWaiting_of hcore huser.2 (.inr ⟨hdriver, huser.1⟩)
      obtain ⟨log, heq, hcore, hacc⟩ := h.processed huser.2 hp
      have hstate : t.stateOf .user = status.state := by rw [stateOf, hp.request]; rfl
      have hdriver' : t.stateOf .driver = s.stateOf .driver := by rw [stateOf, hp.request]; rfl
      have hmode : t.currentMode = s.currentMode := by
        refine hp.currentMode.trans ?_
        rw [huser.1]
        exact ite_self _
      rw [Sys.resume, hw]
      dsimp only
      rw [heq]
      refine ⟨⟨hcore, fun _ => ?_, hacc⟩, fun hcb hcmd => ?_⟩
      · dsimp only
        rw [hmode, hp.frame.2.1]
        exact h.mode hdriver
      · obtain ⟨rfl, -⟩ := hp.isCurrent hcmd
        exact ⟨fun hd => hdriver (hdriver'.symm.trans hd), fun hu => absurd (hstate.symm.trans hu) (by decide)⟩
    · have hw : ({ s with inCallback := false } : Sys C).processWaiting =
          ({ s with inCallback := false }, .ok) := by
        unfold processWaiting
        rw [if_neg fun hw => hdriver ((waits_iff hcore .driver).mp hw),
          if_neg fun hu => huser ⟨hu.1, (waits_iff hcore .user).mp hu.2⟩]
      rw [Sys.resume, hw]
      refine ⟨⟨hcore, h.mode, h.accounted⟩, fun _ _ => ⟨hdriver, fun hu => ?_⟩⟩
      show s.currentMode = .driver
      cases hm : s.currentMode with
      | driver => rfl
      | user => exact absurd ⟨hm, hu⟩ huser

theorem Inv.psReport {ps : Bool} {rest : List Bool} (h : s.Inv)
    (hcommands : s.commands = ps :: rest) (success : Bool) (hreg : s.Regular (.psReport success)) :
    (({ s with commands := rest } : Sys C).psReport ps success).Inv := by
  have hcmd : s.currentState.command = some ps ∧ rest = [] := by
    have := h.sound.core.commands.symm.trans hcommands
    cases hc : s.currentState.command with
    | none => rw [hc] at this; cases this
    | some c =>
      rw [hc] at this
      cases this
      exact ⟨rfl, rfl⟩
  obtain ⟨hcmd, rfl⟩ := hcmd
  have hrep := reported_spec (s := ({ s with commands := [] } : Sys C)) hcmd success
  obtain ⟨hcommands', hcurrent, hmode, hreserved, hlog⟩ := hrep.frame
  unfold Sys.psReport
  generalize ({ s with commands := [] } : Sys C).reported success = t at *
  by_cases hrun : s.stateOf s.pCurrentRequest = .running
  · have hsm : s.pSmRequest = s.pCurrentRequest := by
      cases hc : s.pCurrentRequest with
      | driver => exact h.sound.core.smRequest (by simp [hcmd]) hc
      | user => exact hreg.1 (by rwa [hc] at hrun)
    have hps : ps = decide ((s.request s.pCurrentRequest).psMode = .on) :=
      Option.some.inj (hcmd.symm.trans (h.sound.core.running _ hrun).2)
    have hreq : t.request = update s.request s.pCurrentRequest
        { s.request s.pCurrentRequest with requestState := .handled } := by
      rw [← hsm]
      exact hrep.handled (by rw [stateOf, hsm]; exact hrun)
    have hcore : t.Core := by
      refine h.sound.core.at_rest (fun m => ?_) (fun m hm => ?_) (fun m hm => ?_) hrep.rest
        hcommands'
      all_goals obtain ⟨rfl, hr⟩ | ⟨hne, hr⟩ := slot_cases hreq m
      · rw [hr]
      · rw [hr]
      · simp [stateOf, hr] at hm
      · exact hne (h.sound.core.running m ((congrArg Request.requestState hr).symm.trans hm)).1.symm
      · simp [stateOf, hr] at hm
      · exact (congrArg Request.requestState hr).symm.trans hm
    have hdriver : t.stateOf .driver = .pending ↔ s.stateOf .driver = .pending := by
      obtain ⟨hm, hr⟩ | ⟨-, hr⟩ := slot_cases hreq .driver
      · rw [stateOf, hr, hm, hrun]
        simp
      · rw [stateOf, hr, stateOf]
    have hmode' : t.stateOf .driver ≠ .pending → (t.currentMode = .driver ↔ t.reserved = true) := by
      intro hd
      rw [hmode, hreserved]
      exact h.sound.mode fun hn => hd (hdriver.mpr hn)
    have hacc : ∀ b, (({ t with inCallback := b } : Sys C).complete
        (if reportOn ps success = .enterPowerSaveSuccess then .on else .off)
        (reportOn ps success)).Accounted := by
      intro b
      refine h.sound.accounted.complete hlog ?_ ?_ ?_
      · show t.request = update s.request t.pCurrentRequest _
        rw [hcurrent]
        exact hreq
      · exact .inl (show s.stateOf t.pCurrentRequest = .running by rw [hcurrent]; exact hrun)
      · show Outcome (s.request t.pCurrentRequest).psMode _ _
        rw [hcurrent, hps]
        exact outcome_reportOn _ _
    have hhandled : (t.request t.pCurrentRequest).requestState = .handled := by
      rw [hreq, hcurrent, update_self]
    dsimp only
    cases hcb : (t.request t.pCurrentRequest).powerSrvCompleteCb with
    | none =>
      have hcompleted : t.isCompleted = false := by
        rw [isCompleted, hcb]
        exact Bool.and_false _
      rw [hcompleted, if_neg (by simp)]
      have hacc' := hacc t.inCallback
      unfold Sys.complete at hacc'
      dsimp only at hacc'
      rw [hcb] at hacc'
      refine Sound.resume ⟨hcore, hmode', hacc'⟩ fun _ hd => ?_
      rw [hreserved]
      refine (hreg.2 (hdriver.mp hd)).resolve_right fun hc => ?_
      rw [hreq, hcurrent, update_self] at hcb
      rw [hcb] at hc
      cases hc.2
    | some cb =>
      have hcompleted : t.isCompleted = true := by
        rw [isCompleted, hcb, hhandled]
        rfl
      rw [if_pos hcompleted]
      obtain ⟨log, heq⟩ := complete_eq ({ t with inCallback := true } : Sys C)
        (if reportOn ps success = .enterPowerSaveSuccess then .on else .off) (reportOn ps success)
      refine ⟨⟨?_, ?_, hacc true⟩, ?_⟩
      all_goals rw [heq]
      · exact ⟨hcore.modes, hcore.commands, hcore.running, hcore.old, hcore.current,
          hcore.smRequest⟩
      · exact hmode'
      · intro hc
        cases hc
  · have hnone : ∀ m, s.stateOf m ≠ .running := by
      intro m hm
      have := (h.sound.core.running m hm).1
      exact hrun (this ▸ hm)
    have hreq : t.request = s.request := hrep.kept (hnone _)
    have hcore : t.Core := by
      refine h.sound.core.at_rest (fun m => by rw [hreq]) (fun m hm => ?_) (fun m hm => ?_)
        hrep.rest hcommands'
      · exact hnone m ((congrArg (fun f => (f m).requestState) hreq).symm.trans hm)
      · exact (congrArg (fun f => (f m).requestState) hreq).symm.trans hm
    have hcompleted : t.isCompleted = false := by
      have hne := h.sound.core.current (by simp [hcmd])
      rw [isCompleted, hreq, hcurrent, Bool.and_eq_false_iff]
      exact .inl (decide_eq_false hne)
    have hdriver : t.stateOf .driver = s.stateOf .driver := by rw [stateOf, hreq, stateOf]
    dsimp only
    rw [hcompleted, if_neg (by simp)]
    refine Sound.resume ⟨hcore, ?_, ?_⟩ ?_
    · rw [hdriver, hmode, hreserved]
      exact h.sound.mode
    · have hdebts : t.debts = s.debts := by
        funext m
        rw [debts, hreq, debts]
      rw [Accounted, hlog, hdebts]
      exact h.sound.accounted
    · intro _ hd
      rw [hdriver] at hd
      rw [hreserved]
      exact (hreg.2 hd).resolve_right fun hc => hrun hc.1

/-! ## Runs -/

theorem inv_init : (init : Sys C).Inv := by
  have hcore : (init : Sys C).Core :=
    ⟨fun _ => rfl, rfl, fun _ h => (nomatch h), fun _ h => (nomatch h), fun h => absurd rfl h,
      fun h => absurd rfl h⟩
  refine ⟨⟨hcore, fun _ => ?_, rfl⟩, fun _ _ => ⟨fun h => (nomatch h), fun h => (nomatch h)⟩⟩
  exact iff_of_false (by simp [init]) (by simp [init])

theorem Inv.step (h : s.Inv) {i : Input C} (hreg : s.Regular i) (hs : s.step i = some t) :
    t.Inv := by
  cases i with
  | setPsMode psMode cb =>
    cases hs
    exact h.setPsMode psMode cb
  | reservePs psMode cb =>
    rw [Sys.step] at hs
    split at hs
    · cases hs
    · cases hs
      exact h.reservePs psMode cb
  | releasePs cb =>
    rw [Sys.step] at hs
    split at hs
    · cases hs
      exact h.releasePs cb hreg
    · cases hs
  | psReport success =>
    rw [Sys.step] at hs
    split at hs
    · rename_i hcommands
      cases hs
      exact h.psReport hcommands success hreg
    · cases hs
  | resume =>
    rw [Sys.step] at hs
    split at hs
    · cases hs
      exact h.sound.resume hreg
    · cases hs

theorem Inv.served (h : s.Inv) : s.Served := by
  have huser : s.stateOf .driver ≠ .pending → s.reserved = false → s.currentMode = .user := by
    intro hd hr
    cases hm : s.currentMode with
    | user => rfl
    | driver =>
      have := (h.sound.mode hd).mp hm
      rw [hr] at this
      cases this
  have howed : ∀ mode, s.currentState.command = none → s.debts mode ≠ none →
      s.stateOf mode = .pending := by
    intro mode hrest hne
    unfold debts debt at hne
    split at hne
    · rename_i hr
      exact absurd hr (h.sound.core.not_running hrest mode)
    · rename_i hr
      exact hr
    · exact absurd rfl hne
    · exact absurd rfl hne
  refine ⟨⟨s.debts, h.sound.accounted, fun ⟨hcb, hrest⟩ => ⟨?_, fun hne => ?_⟩⟩, fun hr hd => ?_,
    fun ⟨hcb, hrest⟩ hr => ?_⟩
  · by_contra hne
    exact (h.waiting hcb hrest).1 (howed .driver hrest hne)
  · obtain ⟨hd, hu⟩ := h.waiting hcb hrest
    have hpend := howed .user hrest hne
    exact ⟨(h.sound.mode hd).mp (hu hpend), hpend⟩
  · exact huser (by rw [hd]; simp) hr
  · obtain ⟨hd, hu⟩ := h.waiting hcb hrest
    rw [Bool.eq_false_iff]
    intro hw
    have := hu ((waits_iff h.sound.core .user).mp hw)
    rw [huser hd hr] at this
    cases this

end Served

end Sys

/-- A reservation and its release around a user request that waits. -/
def wellServed : List (Sys.Input ℕ) :=
  [.reservePs .on (some 1), .psReport true, .resume, .setPsMode .off (some 2), .releasePs (some 3),
    .psReport true, .resume]

/-- The reservation comes while the user request runs. -/
def reservedBehind : List (Sys.Input ℕ) :=
  [.setPsMode .on (some 1), .reservePs .on (some 2), .psReport true]

/-- The release comes while the reservation runs. -/
def releasedEarly : List (Sys.Input ℕ) :=
  [.reservePs .on (some 1), .releasePs (some 2), .psReport true, .psReport true]

/-- The release, like the user request that waits, is for the current state. -/
def releasedCurrent : List (Sys.Input ℕ) :=
  [.reservePs .off (some 1), .setPsMode .off (some 2), .releasePs (some 3)]

end ArchosGpl.Wlan.PowerSrv
