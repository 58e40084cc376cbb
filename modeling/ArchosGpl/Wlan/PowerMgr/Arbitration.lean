import ArchosGpl.Wlan.PowerMgr.Model

/-!
# The profile followed and the notifications enabled

Results:
* **`arbitrated_iff`**: a run meets `Arbitrated` in each of its states exactly if each of its steps
  is `Clean`: power save starts with `betEnable` as configured, unless the profile is active, and
  stops with `betEnable` set and a profile other than active, unless the BET notifications are off.
* **`bet_left_enabled`**: a run that leaves the BET notifications enabled when power save stops.
-/

open Function (update update_eq_self)

namespace ArchosGpl.Wlan.PowerMgr

open Lib

/-! ## The core of the state -/

/-- The part of `PowerMgr_t` that decides the profile and the notifications. -/
structure Core where
  profile : PowerMode
  table : Priority → ModePriority
  psEnable : Bool
  betEnable : Bool
  notif : TMEvent → Bool
  connections : List Connection

namespace Core

variable (c : Core)

def setAuto (b : Bool) : Core :=
  { c with notif := update (update c.notif .passToActive b) .passToDoze b }

def setBet (b : Bool) : Core :=
  { c with notif := update (update c.notif .betEnable b) .betDisable b }

/-- The mode of the highest enabled priority, the profile itself if none is enabled. -/
def highest : PowerMode :=
  match Priority.descending.find? fun p => (c.table p).priorityEnable with
  | some p => (c.table p).powerMode
  | none => c.profile

/-- The automatic-mode notifications that belong to the profile. -/
def wanted : Bool := c.psEnable && decide (c.profile ≠ .active)

/-- The profile becomes `m`; the notifications of the old one end. -/
def leave (m : PowerMode) : Core :=
  if c.profile ≠ .active then ({ c with profile := m } : Core).setAuto false
  else { c with profile := m }

/-- The notifications of the profile begin. -/
def want : Core := if c.wanted then c.setAuto true else c

/-- The notifications end, those of BET only if the flag is set and the profile is not active. -/
def stop : Core :=
  let c := if c.profile ≠ .active then c.setAuto false else c
  if c.betEnable ∧ c.profile ≠ .active then c.setBet false else c

/-- A connection begins; with `started` its BET notifications are enabled and the flag becomes `b`. -/
def connect (started b : Bool) : Core :=
  let c' := if started then { c.setBet true with betEnable := b } else c
  { c' with connections := c.connections ++ [{ profile := c.profile, betStarted := started }] }

/-- All but the profile and the notifications. -/
def fixed : (Priority → ModePriority) × Bool × Bool × List Connection :=
  (c.table, c.psEnable, c.betEnable, c.connections)

@[simp] theorem leave_profile (m : PowerMode) : (c.leave m).profile = m := by
  unfold leave
  split <;> rfl

@[simp] theorem leave_fixed (m : PowerMode) : (c.leave m).fixed = c.fixed := by
  unfold leave
  split <;> rfl

@[simp] theorem want_profile : c.want.profile = c.profile := by
  unfold want
  split <;> rfl

@[simp] theorem want_fixed : c.want.fixed = c.fixed := by
  unfold want
  split <;> rfl

@[simp] theorem stop_fixed : c.stop.fixed = c.fixed := by
  simp only [stop]
  split <;> split <;> rfl

@[simp] theorem want_wanted : c.want.wanted = c.wanted := by
  unfold want
  split <;> rfl

end Core

/-- The automatic-mode notifications are `auto`, those of BET are `bet`. -/
structure Notifies (notif : TMEvent → Bool) (auto bet : Bool) : Prop where
  auto : ∀ a, notif (autoEvent a) = auto
  bet : ∀ a, notif (betEvent a) = bet

def PowerMgrT.core (s : PowerMgrT) : Core where
  profile := s.desiredPowerModeProfile
  table := s.powerMngModePriority
  psEnable := s.psEnable
  betEnable := s.betEnable
  notif := s.notif
  connections := s.connections

variable {s s' : PowerMgrT} {c : Core} {e : Env} {auto bet : Bool}

theorem Notifies.setAuto (h : Notifies c.notif auto bet) (b : Bool) :
    Notifies (c.setAuto b).notif b bet where
  auto a := by cases a <;> rfl
  bet a := by cases a <;> exact h.bet _

theorem Notifies.setBet (h : Notifies c.notif auto bet) (b : Bool) :
    Notifies (c.setBet b).notif auto b where
  auto a := by cases a <;> exact h.auto _
  bet a := by cases a <;> rfl

/-! ## What the operations do to the core -/

@[simp] theorem core_send (x : Command) : (s.send x).core = s.core := rfl

@[simp] theorem core_sgWakeUp : s.powerMgr_SGSetUserDesiredwakeUpCond.core = s.core := by
  unfold PowerMgrT.powerMgr_SGSetUserDesiredwakeUpCond
  repeat' split
  all_goals rfl

@[simp] theorem core_profileConfiguration (m : PowerMode) :
    (s.powerMgrPowerProfileConfiguration m).core = s.core := by
  cases m with
  | psOnly =>
    exact core_sgWakeUp (s := { s with retryPsTimer := false, lastPowerModeProfile := .psOnly })
  | _ => rfl

@[simp] theorem core_disableThresholds :
    s.powerMgrDisableThresholdsIndications.core = s.core.setAuto false := rfl

@[simp] theorem core_enableThresholds :
    s.powerMgrEnableThresholdsIndications.core = s.core.setAuto true := rfl

@[simp] theorem core_startAuto : (s.powerMgrStartAutoPowerMode e).core = s.core.setAuto true := by
  unfold PowerMgrT.powerMgrStartAutoPowerMode
  simp only [core_enableThresholds]
  split
  · rw [core_profileConfiguration]
  · split <;> rfl

@[simp] theorem core_setProfile (m : PowerMode) :
    (s.setProfile m).core = { s.core with profile := m } := rfl

@[simp] theorem core_setPsEnable (b : Bool) :
    (s.setPsEnable b).core = { s.core with psEnable := b } := rfl

@[simp] theorem core_powerLevelPs (level : PowerPolicy) :
    (s.setParamPowerLevelPs level).core = s.core := by
  simp only [PowerMgrT.setParamPowerLevelPs]
  split <;> rfl

@[simp] theorem core_powerLevelDefault (level : PowerPolicy) :
    (s.setParamPowerLevelDefault level).core = s.core := by
  simp only [PowerMgrT.setParamPowerLevelDefault]
  split <;> rfl

@[simp] theorem core_setDozeModeInAuto (m : PowerMode) :
    (s.powerMgr_setDozeModeInAuto m).core = s.core := by
  simp only [PowerMgrT.powerMgr_setDozeModeInAuto]
  repeat' split
  all_goals rfl

@[simp] theorem core_thresholdCross (b : Bool) :
    (s.powerMgrTMThresholdCrossCB b).core = s.core := by
  unfold PowerMgrT.powerMgrTMThresholdCrossCB
  split
  · rw [core_profileConfiguration]
  · split <;> rfl

@[simp] theorem core_powerSaveCompleteCB (status : PsStatus) :
    (s.powerSaveCompleteCB status).core = s.core := by
  cases status <;> rfl

@[simp] theorem core_notifyFWReset : s.powerMgr_notifyFWReset.core = s.core := by
  unfold PowerMgrT.powerMgr_notifyFWReset
  split
  · rw [core_profileConfiguration]
  · rfl

theorem core_setPowerMode :
    (s.powerMgr_setPowerMode e).core =
      if s.core.profile = s.core.highest then s.core else (s.core.leave s.core.highest).want := by
  have hhighest : s.powerMgrGetHighestPriority = s.core.highest := rfl
  simp only [PowerMgrT.powerMgr_setPowerMode, hhighest]
  split
  next hne =>
    rw [if_neg (show ¬ s.core.profile = s.core.highest from hne)]
    generalize s.core.highest = m
    have hprofile : s.desiredPowerModeProfile = s.core.profile := rfl
    have hps : ∀ t : PowerMgrT, t.psEnable = t.core.psEnable := fun _ => rfl
    simp only [hps, hprofile, apply_ite PowerMgrT.core, core_startAuto, core_send, core_setProfile,
      core_disableThresholds, core_profileConfiguration, ite_self]
    have hm := s.core.leave_profile m
    unfold Core.leave at hm ⊢
    generalize (if s.core.profile ≠ .active then ({ s.core with profile := m } : Core).setAuto false
        else { s.core with profile := m }) = c at hm ⊢
    subst hm
    cases hen : c.psEnable <;> by_cases hactive : c.profile = .active <;>
      simp [Core.want, Core.wanted, hen, hactive]
  next heq => rw [if_pos (show s.core.profile = s.core.highest from not_not.mp heq)]

theorem core_configBet (b : Bool) :
    ∃ b', (s.powerMgrConfigBetToFw b e).core = { s.core with betEnable := b' } := by
  simp only [PowerMgrT.powerMgrConfigBetToFw]
  split
  · exact ⟨s.betEnable, rfl⟩
  · exact ⟨b, rfl⟩

theorem core_startBet :
    ∃ b, (s.startBet e).core = { s.core.setBet true with betEnable := b } :=
  core_configBet _

theorem core_stopBet : s.stopBet.core = s.core.setBet false := rfl

@[simp] theorem core_logConnection (x : Connection) :
    (s.logConnection x).core = { s.core with connections := s.core.connections ++ [x] } := rfl

theorem core_startProfile :
    (s.startProfile e).core =
      ({ s.core with psEnable := true, profile := s.core.highest } : Core).want := by
  have hhighest : ((s.setPsEnable true).send .setNullRateModulation).powerMgrGetHighestPriority =
      s.core.highest := rfl
  simp only [PowerMgrT.startProfile, hhighest, core_send, apply_ite PowerMgrT.core,
    core_profileConfiguration, ite_self, core_startAuto, core_setProfile, core_setPsEnable]
  simp [Core.want, Core.wanted]

theorem startProfile_spec :
    (s.startProfile e).core.psEnable = true ∧ (s.startProfile e).core.betEnable = s.betEnable ∧
      (s.startProfile e).core.profile = s.powerMgrGetHighestPriority := by
  rw [core_startProfile]
  unfold Core.want
  split <;> exact ⟨rfl, rfl, rfl⟩

theorem core_startPS (hoff : s.psEnable = false) :
    ∃ b, (s.powerMgr_startPS e).core = (s.startProfile e).core.connect
      ((s.startProfile e).core.betEnable && decide ((s.startProfile e).core.profile ≠ .active)) b := by
  obtain ⟨b, hb⟩ := core_startBet (s := s.startProfile e) (e := e)
  refine ⟨b, ?_⟩
  simp only [PowerMgrT.powerMgr_startPS, hoff, Bool.false_eq_true, if_false, core_logConnection,
    core_send, apply_ite PowerMgrT.core, hb, Bool.decide_and, Bool.decide_eq_true]
  change _ = (s.startProfile e).core.connect
    ((s.startProfile e).betEnable && decide ((s.startProfile e).desiredPowerModeProfile ≠ .active)) b
  cases (s.startProfile e).betEnable &&
    decide ((s.startProfile e).desiredPowerModeProfile ≠ .active) <;> rfl

theorem core_stopPS {d : Bool} (hon : s.psEnable = true) :
    (s.powerMgr_stopPS d e).core = (s.leavePs e).core.stop := by
  have hbet : ∀ t : PowerMgrT, t.betEnable = t.core.betEnable := fun _ => rfl
  have hprofile : ∀ t : PowerMgrT, t.desiredPowerModeProfile = t.core.profile := fun _ => rfl
  simp only [PowerMgrT.powerMgr_stopPS, hon, if_true, hbet, hprofile, apply_ite PowerMgrT.core,
    core_send, core_disableThresholds, core_stopBet, ite_self, Core.stop]
  by_cases hp : (s.leavePs e).core.profile = .active
  · simp [hp]
  · simp [hp, Core.setAuto]

/-! ## The property -/

def Priority.rank : Priority → ℕ
  | .user => 0
  | .sg => 1
  | .reauth => 2
  | .psPollFailure => 3

/-- `p` is the highest of the enabled priorities. -/
def HighestEnabled (table : Priority → ModePriority) (p : Priority) : Prop :=
  (table p).priorityEnable = true ∧ ∀ q, (table q).priorityEnable = true → q.rank ≤ p.rank

/-- The power manager follows the highest enabled priority and listens to the traffic accordingly.
`configured` is the BET enable of the configuration. -/
structure Arbitrated (configured : Bool) (s : PowerMgrT) : Prop where
  /-- the profile is the mode of the highest enabled priority -/
  profile : s.psEnable = true → ∀ p, HighestEnabled s.powerMngModePriority p →
    s.desiredPowerModeProfile = (s.powerMngModePriority p).powerMode
  /-- the automatic-mode notifications are enabled unless the profile is active -/
  auto : s.psEnable = true → ∀ a, s.notif (autoEvent a) = true ↔ s.desiredPowerModeProfile ≠ .active
  /-- without power save no notification is enabled -/
  disabled : s.psEnable = false → ∀ ev, s.notif ev = false
  /-- a connection starts BET by the configuration and its profile alone -/
  bet : ∀ x ∈ s.connections, x.betStarted = (configured && decide (x.profile ≠ .active))

theorem HighestEnabled.highest {p : Priority} (h : HighestEnabled c.table p) :
    c.highest = (c.table p).powerMode := by
  obtain ⟨hp, hmax⟩ := h
  have hoff : ∀ q, p.rank < q.rank → (c.table q).priorityEnable = false := by
    intro q hq
    by_contra hon
    exact absurd (hmax q (eq_true_of_ne_false hon)) (by omega)
  unfold Core.highest Priority.descending
  cases p with
  | psPollFailure => simp [hp]
  | reauth => simp [hp, hoff .psPollFailure (by decide)]
  | sg => simp [hp, hoff .psPollFailure (by decide), hoff .reauth (by decide)]
  | user =>
    simp [hp, hoff .psPollFailure (by decide), hoff .reauth (by decide), hoff .sg (by decide)]

theorem highest_eq {c' : Core} (htable : c'.table = c.table) (hprofile : c'.profile = c.highest) :
    c'.highest = c.highest := by
  unfold Core.highest at hprofile ⊢
  rw [htable, hprofile]
  split <;> rfl

/-! ## The invariant -/

structure Core.Inv (configured : Bool) (c : Core) : Prop where
  profile : c.psEnable = true → c.profile = c.highest
  notifies : ∃ bet, Notifies c.notif c.wanted bet ∧ (c.psEnable = false → bet = false)
  bet : ∀ x ∈ c.connections, x.betStarted = (configured && decide (x.profile ≠ .active))

variable {configured : Bool}

theorem inv_setDefaults (init : InitParams) :
    (PowerMgrT.setDefaults init).core.Inv configured where
  profile h := by cases h
  notifies := ⟨false, ⟨fun _ => rfl, fun _ => rfl⟩, fun _ => rfl⟩
  bet x hx := by cases hx

theorem Core.Inv.meets (h : s.core.Inv configured) : Arbitrated configured s := by
  obtain ⟨bet, hnotif, hbet⟩ := h.notifies
  refine ⟨fun hon p hp => ?_, fun hon a => ?_, fun hoff ev => ?_, h.bet⟩
  · exact (h.profile hon).trans (HighestEnabled.highest (c := s.core) hp)
  · rw [show s.notif (autoEvent a) = s.core.wanted from hnotif.auto a]
    simp [Core.wanted, PowerMgrT.core, hon]
  · have hauto : s.core.wanted = false := by simp [Core.wanted, PowerMgrT.core, hoff]
    cases ev with
    | passToActive => exact (hnotif.auto true).trans hauto
    | passToDoze => exact (hnotif.auto false).trans hauto
    | betEnable => exact (hnotif.bet true).trans (hbet hoff)
    | betDisable => exact (hnotif.bet false).trans (hbet hoff)

theorem Core.Inv.betEnable (h : c.Inv configured) (b : Bool) :
    ({ c with betEnable := b } : Core).Inv configured :=
  ⟨h.profile, h.notifies, h.bet⟩

theorem Notifies.want (h : Notifies c.notif false bet) : Notifies c.want.notif c.wanted bet := by
  unfold Core.want
  cases hw : c.wanted
  · simpa using h
  · exact h.setAuto true

theorem wanted_active (h : c.profile = .active) : c.wanted = false := by simp [Core.wanted, h]

theorem Notifies.leave {m : PowerMode} (h : Notifies c.notif auto bet)
    (hactive : c.profile = .active → auto = false) : Notifies (c.leave m).notif false bet := by
  unfold Core.leave
  split
  next => exact Notifies.setAuto (c := { c with profile := m }) h false
  next hne => exact hactive (not_not.mp hne) ▸ h

theorem Core.Inv.of_fixed {c' : Core} (hfixed : c'.fixed = c.fixed)
    (hprofile : c'.profile = c.highest) (hnotif : Notifies c'.notif c'.wanted bet)
    (hbet : c.psEnable = false → bet = false)
    (hconn : ∀ x ∈ c.connections, x.betStarted = (configured && decide (x.profile ≠ .active))) :
    c'.Inv configured := by
  simp only [Core.fixed, Prod.mk.injEq] at hfixed
  obtain ⟨htable, hps, -, hc⟩ := hfixed
  exact ⟨fun _ => hprofile.trans (highest_eq htable hprofile).symm, ⟨bet, hnotif, hps ▸ hbet⟩,
    hc ▸ hconn⟩

theorem Core.Inv.follow {s₀ : PowerMgrT} {t : Priority → ModePriority}
    (h : s₀.core.Inv configured) (ht : s.core = { s₀.core with table := t }) :
    (s.powerMgr_setPowerMode e).core.Inv configured := by
  obtain ⟨bet, hnotif, hbet⟩ := h.notifies
  have hnotif' : Notifies s.core.notif s.core.wanted bet := by
    rw [ht]
    exact hnotif
  have hbet' : s.core.psEnable = false → bet = false := by rwa [ht]
  have hconn : ∀ x ∈ s.core.connections,
      x.betStarted = (configured && decide (x.profile ≠ .active)) := by
    rw [ht]
    exact h.bet
  rw [core_setPowerMode]
  split
  next heq => exact .of_fixed rfl heq hnotif' hbet' hconn
  next hne =>
    refine .of_fixed (by simp) (by simp) ?_ hbet' hconn
    rw [Core.want_wanted]
    exact (hnotif'.leave wanted_active).want

theorem Core.Inv.setParamPowerMode {p : Priority} {m : PowerMode} (h : s.core.Inv configured) :
    (s.setParamPowerMode p m e).core.Inv configured := by
  simp only [PowerMgrT.setParamPowerMode]
  generalize ht : s.setModePriority p { s.powerMngModePriority p with powerMode := m } = t
  have hfollow : (t.powerMgr_setPowerMode e).core.Inv configured := h.follow (by rw [← ht]; rfl)
  split
  next =>
    obtain ⟨b, hb⟩ := core_configBet (s := t.powerMgr_setPowerMode e) (e := e) _
    rw [hb]
    exact hfollow.betEnable b
  next => exact hfollow

theorem Core.Inv.setParamPriority {p : Priority} {b : Bool} (h : s.core.Inv configured) :
    (s.setParamPriority p b e).core.Inv configured := h.follow rfl

/-! ## Start and stop -/

/-- The profile once the PS-poll workaround is left. -/
def PowerMgrT.profileAtStop (s : PowerMgrT) : PowerMode :=
  (s.setModePriority .psPollFailure
    { s.powerMngModePriority .psPollFailure with priorityEnable := false }).powerMgrGetHighestPriority

/-- `betEnable` is as configured when power save starts, and when it stops, it is set and the
profile is not active, unless the BET notifications are off or the profile makes `betEnable`
irrelevant. -/
def Clean (configured : Bool) (s : PowerMgrT) : Input × Env → Prop
  | (.startPS, _) =>
    s.psEnable = false → s.powerMgrGetHighestPriority ≠ .active → s.betEnable = configured
  | (.stopPS _, _) =>
    s.psEnable = true → (∀ b, s.notif (betEvent b) = false) ∨
      s.betEnable = true ∧ s.profileAtStop ≠ .active
  | _ => True

theorem inv_startProfile (h : s.core.Inv configured) (hoff : s.psEnable = false) :
    (s.startProfile e).core.Inv configured := by
  obtain ⟨bet, hnotif, hbet⟩ := h.notifies
  have hwanted : s.core.wanted = false := by simp [Core.wanted, PowerMgrT.core, hoff]
  rw [hbet hoff, hwanted] at hnotif
  have hwant := Notifies.want
    (c := { s.core with psEnable := true, profile := s.core.highest }) hnotif
  rw [core_startProfile]
  rw [← Core.want_wanted] at hwant
  exact .of_fixed (c := { s.core with psEnable := true }) (Core.want_fixed _) (Core.want_profile _)
    hwant (fun hps => by cases hps) h.bet

theorem Core.Inv.connect {started b : Bool} (h : c.Inv configured) (hon : c.psEnable = true)
    (hstarted : started = (configured && decide (c.profile ≠ .active))) :
    (c.connect started b).Inv configured := by
  obtain ⟨bet, hnotif, -⟩ := h.notifies
  have hconn : ∀ x ∈ c.connections ++ [{ profile := c.profile, betStarted := started }],
      x.betStarted = (configured && decide (x.profile ≠ .active)) := by
    intro x hx
    rcases List.mem_append.mp hx with hx | hx
    · exact h.bet x hx
    · obtain rfl := List.mem_singleton.mp hx
      exact hstarted
  have hpsOn : ∀ b, c.psEnable = false → b = false := fun b hoff => by
    rw [hon] at hoff
    cases hoff
  cases started with
  | true => exact ⟨h.profile, ⟨true, hnotif.setBet true, hpsOn true⟩, hconn⟩
  | false => exact ⟨h.profile, ⟨bet, hnotif, hpsOn bet⟩, hconn⟩

instance (configured : Bool) (s : PowerMgrT) : (i : Input × Env) → Decidable (Clean configured s i)
  | (.startPS, _) => inferInstanceAs (Decidable (_ → _ → _))
  | (.stopPS _, _) => inferInstanceAs (Decidable (_ → _ ∨ _))
  | (.powerMode .., _) | (.priority .., _) | (.powerLevelPs _, _) | (.powerLevelDefault _, _)
  | (.dozeMode _, _) | (.psPollFailure, _) | (.psPollTimeout, _) | (.betCrossed _, _)
  | (.autoCrossed _, _) | (.psReport _, _) | (.retryTimeout, _) | (.fwReset, _) => isTrue trivial

theorem Core.Inv.startPS (h : s.core.Inv configured) (hoff : s.psEnable = false)
    (hclean : s.powerMgrGetHighestPriority ≠ .active → s.betEnable = configured) :
    (s.powerMgr_startPS e).core.Inv configured := by
  obtain ⟨b, hb⟩ := core_startPS (e := e) hoff
  obtain ⟨hps, hbet, hprofile⟩ := startProfile_spec (s := s) (e := e)
  rw [hb]
  refine (inv_startProfile h hoff).connect hps ?_
  rw [hbet, hprofile]
  by_cases hactive : s.powerMgrGetHighestPriority = .active
  · simp [hactive]
  · rw [hclean hactive]

theorem not_arbitrated_startPS (hoff : s.psEnable = false)
    (hactive : s.powerMgrGetHighestPriority ≠ .active) (hne : s.betEnable ≠ configured) :
    ¬ Arbitrated configured (s.powerMgr_startPS e) := by
  obtain ⟨b, hb⟩ := core_startPS (e := e) hoff
  obtain ⟨-, hbet, hprofile⟩ := startProfile_spec (s := s) (e := e)
  intro h
  have hentry := h.bet ⟨(s.startProfile e).core.profile, (s.startProfile e).core.betEnable &&
    decide ((s.startProfile e).core.profile ≠ .active)⟩ (by
      show _ ∈ (s.powerMgr_startPS e).core.connections
      rw [hb]
      exact List.mem_append_right _ (List.mem_singleton_self _))
  rw [hbet, hprofile] at hentry
  exact hne (by simpa [hactive] using hentry)

theorem profileAtStop_of_idle
    (hpoll : (s.powerMngModePriority .psPollFailure).priorityEnable = false) :
    s.profileAtStop = s.core.highest := by
  have hentry : { s.powerMngModePriority .psPollFailure with priorityEnable := false } =
      s.powerMngModePriority .psPollFailure := by
    rw [← hpoll]
  unfold PowerMgrT.profileAtStop PowerMgrT.setModePriority
  rw [hentry, update_eq_self]
  rfl

/-- What is left of power save when the BET notifications are to be stopped. -/
structure Leaves (s : PowerMgrT) (c : Core) : Prop where
  psEnable : c.psEnable = false
  profile : c.profile = s.profileAtStop
  betEnable : c.betEnable = s.betEnable
  connections : c.connections = s.connections
  notifies : ∃ auto, Notifies c.notif auto (s.notif .betEnable) ∧
    (s.profileAtStop = .active → auto = false)

theorem leavePs_leaves (h : s.core.Inv configured) (hon : s.psEnable = true) :
    Leaves s (s.leavePs e).core := by
  obtain ⟨bet, hnotif, -⟩ := h.notifies
  have hbet : s.notif .betEnable = bet := hnotif.bet true
  subst hbet
  simp only [PowerMgrT.leavePs]
  split
  next hpoll =>
    -- the workaround is left with power save off, so the new profile wants no notification
    let t := (({ s.setPsEnable false with retryPsTimer := false, psPollFailureTimer := false } :
      PowerMgrT).setModePriority .psPollFailure
        { s.powerMngModePriority .psPollFailure with priorityEnable := false })
    change Leaves s (t.powerMgr_setPowerMode e).core
    rw [core_setPowerMode]
    split
    next heq =>
      exact ⟨rfl, heq, rfl, rfl, _, hnotif, fun hactive => wanted_active (Eq.trans heq hactive)⟩
    next hne =>
      have hfixed : (t.core.leave t.core.highest).want.fixed = t.core.fixed := by simp
      simp only [Core.fixed, Prod.mk.injEq] at hfixed
      have hwanted : (t.core.leave t.core.highest).wanted = false := by
        rw [← Core.want_wanted, Core.wanted, hfixed.2.1]
        rfl
      have hleave := (Notifies.leave (c := t.core) (m := t.core.highest) hnotif
        fun hactive => wanted_active (c := s.core) hactive).want
      rw [hwanted] at hleave
      exact ⟨hfixed.2.1, by simp; rfl, hfixed.2.2.1, hfixed.2.2.2, false, hleave, fun _ => rfl⟩
  next hpoll =>
    have hprofile : s.core.profile = s.profileAtStop := by
      rw [profileAtStop_of_idle (s := s) (eq_false_of_ne_true hpoll)]
      exact h.profile hon
    exact ⟨rfl, hprofile, rfl, rfl, _, hnotif, fun hactive => wanted_active (hprofile.trans hactive)⟩

theorem Notifies.stop (h : Notifies c.notif auto bet) (hactive : c.profile = .active → auto = false) :
    Notifies c.stop.notif false (bet && !(c.betEnable && decide (c.profile ≠ .active))) := by
  unfold Core.stop
  by_cases hp : c.profile = .active
  · simpa [hp] using hactive hp ▸ h
  · have hauto := h.setAuto false
    cases hb : c.betEnable
    · simpa [hp, Core.setAuto, hb] using hauto
    · simpa [hp, Core.setAuto, hb] using hauto.setBet false

theorem stopPS_spec {d : Bool} (h : s.core.Inv configured) (hon : s.psEnable = true) :
    (s.powerMgr_stopPS d e).core.psEnable = false ∧
      (s.powerMgr_stopPS d e).core.connections = s.connections ∧
      Notifies (s.powerMgr_stopPS d e).core.notif false
        (s.notif .betEnable && !(s.betEnable && decide (s.profileAtStop ≠ .active))) := by
  obtain ⟨hps, hprofile, hbet, hconn, auto, hnotif, hactive⟩ := leavePs_leaves (e := e) h hon
  rw [core_stopPS hon]
  have hfixed := (s.leavePs e).core.stop_fixed
  simp only [Core.fixed, Prod.mk.injEq] at hfixed
  refine ⟨hfixed.2.1.trans hps, hfixed.2.2.2.trans hconn, ?_⟩
  rw [← hbet, ← hprofile]
  exact hnotif.stop fun hp => hactive (hprofile ▸ hp)

theorem Core.Inv.stopPS {d : Bool} (h : s.core.Inv configured) (hon : s.psEnable = true)
    (hclean : (∀ b, s.notif (betEvent b) = false) ∨ s.betEnable = true ∧ s.profileAtStop ≠ .active) :
    (s.powerMgr_stopPS d e).core.Inv configured := by
  obtain ⟨hps, hconn, hnotif⟩ := stopPS_spec (d := d) (e := e) h hon
  have hoff :
      (s.notif .betEnable && !(s.betEnable && decide (s.profileAtStop ≠ .active))) = false := by
    rcases hclean with hclean | ⟨hb, hp⟩
    · rw [show s.notif .betEnable = false from hclean true]
      rfl
    · simp [hb, hp]
  rw [hoff] at hnotif
  refine ⟨fun hon => absurd (hps.symm.trans hon) (by simp), ⟨false, ?_, fun _ => rfl⟩, ?_⟩
  · rwa [Core.wanted, hps]
  · rw [hconn]
    exact h.bet

theorem not_arbitrated_stopPS {d : Bool} (h : s.core.Inv configured) (hon : s.psEnable = true)
    (hbet : ¬ ∀ b, s.notif (betEvent b) = false)
    (hkept : ¬ (s.betEnable = true ∧ s.profileAtStop ≠ .active)) :
    ¬ Arbitrated configured (s.powerMgr_stopPS d e) := by
  obtain ⟨hps, -, hnotif⟩ := stopPS_spec (d := d) (e := e) h hon
  obtain ⟨bet, hbets, -⟩ := h.notifies
  have hrun : s.notif .betEnable = true := by
    by_contra hne
    have hfalse : bet = false := (hbets.bet true).symm.trans (eq_false_of_ne_true hne)
    exact hbet fun b => (hbets.bet b).trans hfalse
  intro harb
  have hoff := harb.disabled hps .betEnable
  have hkept' : (s.betEnable && decide (s.profileAtStop ≠ .active)) = false := by
    simpa using hkept
  have hleft := hnotif.bet true
  rw [hrun, hkept'] at hleft
  exact absurd (hleft.symm.trans hoff) (by simp)

theorem Core.Inv.step {i : Input × Env} (h : s.core.Inv configured) (hclean : Clean configured s i)
    (hs : step s i = some s') : s'.core.Inv configured := by
  obtain ⟨i, e⟩ := i
  cases i with
  | powerMode p m =>
    cases hs
    exact h.setParamPowerMode
  | priority p b =>
    cases hs
    exact h.setParamPriority
  | powerLevelPs level =>
    cases hs
    rwa [core_powerLevelPs]
  | powerLevelDefault level =>
    cases hs
    rwa [core_powerLevelDefault]
  | dozeMode m =>
    cases hs
    simp only [PowerMgrT.setParamDozeMode]
    split
    · obtain ⟨b, hb⟩ := core_configBet (s := s.powerMgr_setDozeModeInAuto m) (e := e) _
      rw [hb, core_setDozeModeInAuto]
      exact h.betEnable b
    · rwa [core_setDozeModeInAuto]
  | startPS =>
    cases hs
    by_cases hon : s.psEnable = true
    · rwa [PowerMgrT.powerMgr_startPS, if_pos hon]
    · have hoff := eq_false_of_ne_true hon
      exact h.startPS hoff (hclean hoff)
  | stopPS d =>
    cases hs
    by_cases hon : s.psEnable = true
    · exact h.stopPS hon (hclean hon)
    · rwa [PowerMgrT.powerMgr_stopPS, if_neg hon]
  | psPollFailure =>
    cases hs
    simp only [PowerMgrT.powerMgr_PsPollFailureCB]
    split
    · exact h.setParamPowerMode.setParamPriority
    · exact h
  | psPollTimeout =>
    obtain ⟨-, ⟨⟩⟩ := Option.ite_none_right_eq_some.mp hs
    exact h.setParamPriority (s := { s with psPollFailureTimer := false })
  | betCrossed b =>
    obtain ⟨-, ⟨⟩⟩ := Option.ite_none_right_eq_some.mp hs
    obtain ⟨b', hb⟩ := core_configBet (s := s) (e := e) b
    rw [hb]
    exact h.betEnable b'
  | autoCrossed b =>
    obtain ⟨-, ⟨⟩⟩ := Option.ite_none_right_eq_some.mp hs
    rwa [core_thresholdCross]
  | psReport status =>
    cases hs
    rwa [core_powerSaveCompleteCB]
  | retryTimeout =>
    obtain ⟨-, ⟨⟩⟩ := Option.ite_none_right_eq_some.mp hs
    exact h
  | fwReset =>
    cases hs
    rwa [core_notifyFWReset]

theorem not_arbitrated_step {i : Input × Env} (h : s.core.Inv configured)
    (hclean : ¬ Clean configured s i) (hs : step s i = some s') : ¬ Arbitrated configured s' := by
  obtain ⟨i, e⟩ := i
  cases i with
  | startPS =>
    cases hs
    simp only [Clean, not_forall] at hclean
    obtain ⟨hoff, hactive, hne⟩ := hclean
    exact not_arbitrated_startPS hoff hactive hne
  | stopPS d =>
    cases hs
    simp only [Clean, not_forall, not_or] at hclean
    obtain ⟨hon, hbet, hkept⟩ := hclean
    exact not_arbitrated_stopPS h hon (not_forall.mpr hbet) hkept
  | _ => exact absurd trivial hclean

/-- **The power manager arbitrates**: a run follows the highest enabled priority and keeps the
notifications that belong to it exactly if each of its steps is clean. -/
theorem arbitrated_iff (init : InitParams) {is : List (Input × Env)} {s' : PowerMgrT}
    (he : exec step (.setDefaults init) is = some s') :
    (∀ js t, js <+: is → exec step (.setDefaults init) js = some t → Arbitrated init.betEnable t) ↔
      Along step (Clean init.betEnable) (.setDefaults init) is :=
  along_iff_of_invariant (I := fun s => s.core.Inv init.betEnable) (D := fun _ => True)
    (fun _ h => h.meets) (fun _ _ _ h _ hc hs => h.step hc hs)
    (fun _ _ _ h _ hc hs => not_arbitrated_step h hc hs) (inv_setDefaults init)
    (fun _ _ => trivial) he

/-! ## Runs -/

def autoWithBet : InitParams where
  powerMode := .auto
  reAuthActivePriority := false
  beaconListenInterval := 1
  dtimListenInterval := 1
  defaultPowerLevel := .pd
  powerSavePowerLevel := .elp
  maximalFullBeaconReceptionInterval := 1000
  psPollDeliveryFailureRecoveryPeriod := 20000
  autoModeActiveTH := 15
  autoModeDozeMode := .longDoze
  betEnable := true
  betEnableThreshold := 8
  betDisableThreshold := 12

def quiet : Env := { frameCount := 0, beaconInterval := 100, dtimPeriod := 1 }

def busy : Env := { frameCount := 50, beaconInterval := 100, dtimPeriod := 1 }

def quietConnections : List (Input × Env) :=
  [(.startPS, quiet), (.autoCrossed false, quiet), (.stopPS true, quiet), (.startPS, quiet),
    (.stopPS true, quiet)]

/-- In a connection the user asks for the active mode, then the connection ends. -/
def activeAtStop : List (Input × Env) :=
  [(.startPS, quiet), (.powerMode .user .active, quiet), (.stopPS true, quiet)]

/-- In a connection the traffic disables BET, then another connection begins. -/
def busyThenQuiet : List (Input × Env) :=
  [(.startPS, quiet), (.betCrossed false, busy), (.stopPS true, busy), (.startPS, quiet)]

theorem arbitrated_quietConnections :
    ∃ s', exec step (.setDefaults autoWithBet) quietConnections = some s' ∧
      ∀ js t, js <+: quietConnections → exec step (.setDefaults autoWithBet) js = some t →
        Arbitrated true t := by
  obtain ⟨s', hs'⟩ := Option.isSome_iff_exists.mp (show
    (exec step (.setDefaults autoWithBet) quietConnections).isSome = true by decide +kernel)
  exact ⟨s', hs', (arbitrated_iff autoWithBet hs').mpr (by decide +kernel)⟩

/-- **The BET notifications outlive power save, and a crossed BET threshold decides over the next
connection.** -/
theorem bet_left_enabled :
    (∃ s', exec step (.setDefaults autoWithBet) activeAtStop = some s' ∧ s'.psEnable = false ∧
      s'.notif .betEnable = true ∧ ¬ Arbitrated true s') ∧
    ∃ s', exec step (.setDefaults autoWithBet) busyThenQuiet = some s' ∧
      s'.connections.map (fun x => (x.profile, x.betStarted)) = [(.auto, true), (.auto, false)] ∧
      ¬ Arbitrated true s' := by
  constructor
  · obtain ⟨s', hs', h⟩ := (Option.any_eq_true _ _).mp (show
      (exec step (.setDefaults autoWithBet) activeAtStop).any
        (fun s => s.psEnable = false ∧ s.notif .betEnable = true) = true by decide +kernel)
    obtain ⟨hoff, hbet⟩ := of_decide_eq_true h
    refine ⟨s', hs', hoff, hbet, fun harb => ?_⟩
    rw [harb.disabled hoff .betEnable] at hbet
    cases hbet
  · obtain ⟨s', hs', h⟩ := (Option.any_eq_true _ _).mp (show
      (exec step (.setDefaults autoWithBet) busyThenQuiet).any (fun s =>
        s.connections.map (fun x => (x.profile, x.betStarted)) =
          [(.auto, true), (.auto, false)]) = true by decide +kernel)
    have hconn := of_decide_eq_true h
    refine ⟨s', hs', hconn, fun harb => ?_⟩
    have hmem : (PowerMode.auto, false) ∈ s'.connections.map fun x => (x.profile, x.betStarted) := by
      simp [hconn]
    obtain ⟨x, hx, hxe⟩ := List.mem_map.mp hmem
    obtain ⟨hprofile, hstarted⟩ := Prod.mk.inj hxe
    have hbet := harb.bet x hx
    rw [hprofile, hstarted] at hbet
    cases hbet

end ArchosGpl.Wlan.PowerMgr
