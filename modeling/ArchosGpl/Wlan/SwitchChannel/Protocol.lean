import ArchosGpl.Wlan.SwitchChannel.Model

/-!
# The channel switch as its neighbours see it

`Switch` is a switch from outside: the indications of its start and its end, with the command and
the firmware's completion between. `Proper` says that the log is a run of switches with one open
exactly in `SC_IN_PROG`, and that the serving channel is held or requested exactly in `WAIT_4_SCR`
and `SC_IN_PROG`.

The code takes the channel of the last announcement for the one that the firmware has switched to,
and two cells of its matrix that it calls unexpected leave a state without giving back what goes
with it. **`switch_proper`**: in a run whose steps are `Regular`, every state is proper.
-/

namespace ArchosGpl.Wlan.SwitchChannel

open Lib

/-! ## A switch from outside -/

/-- No switch, or how far it has come, with the channel of its command. -/
inductive Switch
  | none
  | indicated
  | commanded (channel : ℕ)
  | completed (channel : ℕ)
  deriving DecidableEq

/-- What an event makes of a switch; `none` for an event that is out of order, and for a completion
after which another channel is stored. -/
def Switch.step : Switch → Event → Option Switch
  | .none, .indicateSwitchChannelInProgress => some .indicated
  | .indicated, .cmdSwitchChannel params => some (.commanded params.channelNumber)
  | .commanded channel, .switchChannelCmplt => some (.completed channel)
  | .completed channel, .setCurrentChannel stored =>
    if stored = channel then some (.commanded channel) else Option.none
  | .commanded channel, .setCurrentChannel _ => some (.commanded channel)
  | .commanded _, .indicateSwitchChannelFinished => some .none
  | .none, .switchChannelCmplt => some .none
  | switch, .cmdSwitchChannelCancel _ | switch, .reportRoamingEvent
  | switch, .updateChannelValidity _ | switch, .setChannelValidity _ _ => some switch
  | _, _ => Option.none

namespace Sys

variable {s t : Sys} {env : Env} {switch : Switch}

/-- The switch that the log leads to. -/
def LogAt (s : Sys) (switch : Switch) : Prop := exec Switch.step .none s.log = some switch

theorem LogAt.snoc (h : s.LogAt switch) {e : Event} {switch' : Switch}
    (hs : switch.step e = some switch') (ht : t.log = s.log ++ [e]) : t.LogAt switch' := by
  rw [LogAt, ht]
  exact exec_snoc.mpr ⟨switch, h, hs⟩

/-- The module holds the serving channel or waits for it. -/
def InSwitch (s : Sys) : Prop := s.currentState = .wait4Scr ∨ s.currentState = .scInProg

/-- **The state is proper.** -/
structure Proper (s : Sys) : Prop where
  resource : s.scrState ≠ .idle ↔ s.InSwitch
  switch : ∃ switch, s.LogAt switch ∧
    (s.currentState = .scInProg → ∃ channel, switch = .commanded channel) ∧
    (s.currentState ≠ .scInProg → switch = .none)

/-- **The condition under which a step keeps the state proper.** -/
def Regular (s : Sys) : Input × Env → Prop
  | (.scrStatusCB requestStatus, _) =>
    -- the SCR does not turn to a client that holds the resource with PEND or ABORT, or to one that
    -- waits with FW_RESET
    (s.currentState = .scInProg → requestStatus ≠ .pend ∧ requestStatus ≠ .abort) ∧
      (s.currentState = .wait4Scr → requestStatus ≠ .fwReset)
  | (.switchChannelCmdCompleteReturn, _) =>
    -- the last announcement since the command is for the same channel
    s.currentState = .scInProg →
      ∀ channel ∈ s.announced, ∀ params ∈ s.command, channel = params.channelNumber
  | _ => True

instance (s : Sys) (i : Input × Env) : Decidable (s.Regular i) := by
  obtain ⟨i, env⟩ := i
  cases i <;> simp only [Regular] <;> infer_instance

/-- **The invariant.** -/
structure Inv (s : Sys) : Prop where
  resource : s.scrState ≠ .idle ↔ s.InSwitch
  closed : s.currentState ≠ .scInProg → s.LogAt .none
  /-- The parameters at hand are the last announcement's, or the command's. -/
  opened : s.currentState = .scInProg → ∃ params, s.command = some params ∧
    s.LogAt (.commanded params.channelNumber) ∧
    s.curChannelSwitchCmdParams.channelNumber = s.announced.getD params.channelNumber

theorem Inv.proper (h : s.Inv) : s.Proper := by
  refine ⟨h.resource, ?_⟩
  by_cases hs : s.currentState = .scInProg
  · obtain ⟨params, -, hlog, -⟩ := h.opened hs
    exact ⟨_, hlog, fun _ => ⟨_, rfl⟩, fun hn => absurd hs hn⟩
  · exact ⟨_, h.closed hs, fun hn => absurd hn hs, fun _ => rfl⟩

/-! ## The state machine -/

theorem Inv.of_closed (hstate : s.currentState = .idle ∨ s.currentState = .wait4Cmd)
    (hscr : s.scrState = .idle) (hlog : s.LogAt .none) : s.Inv := by
  refine ⟨?_, fun _ => hlog, fun hs => ?_⟩
  · refine iff_of_false (fun hn => hn hscr) fun hin => ?_
    obtain hs | hs := hstate <;> obtain hin | hin := hin <;> rw [hs] at hin <;> cases hin
  · obtain hs' | hs' := hstate <;> rw [hs] at hs' <;> cases hs'

theorem inv_scrFail (hs : s.currentState = .wait4Scr) (hlog : s.LogAt .none) :
    (s.smRaised env .scrFail).Inv := by
  unfold smRaised
  rw [hs]
  exact .of_closed (.inr rfl) rfl hlog

theorem inv_scrRun (hs : s.currentState = .wait4Scr) (hscr : s.scrState ≠ .idle)
    (hlog : s.LogAt .none) : (s.smRaised env .scrRun).Inv := by
  unfold smRaised
  rw [hs]
  refine ⟨iff_of_true hscr (.inr rfl), fun hn => absurd rfl hn, fun _ => ⟨_, rfl, ?_, rfl⟩⟩
  exact exec_append.mpr ⟨.none, hlog, rfl⟩

theorem inv_reqScr (hs : s.currentState = .wait4Scr) (hlog : s.LogAt .none) :
    (s.smReqScrUpdateCmd env).Inv := by
  unfold smReqScrUpdateCmd clientRequest
  cases hscr : env.scrStatus with
  | run =>
    rw [if_neg (by simp), if_pos rfl]
    exact inv_scrRun hs (by simp) hlog
  | pend =>
    rw [if_neg (by simp), if_neg (by simp)]
    split
    · exact inv_scrFail hs hlog
    · refine ⟨iff_of_true (by simp) (.inl hs), fun _ => hlog, fun hn => ?_⟩
      cases hs.symm.trans hn
  | abort | fwReset =>
    rw [if_pos (by simp)]
    exact inv_scrFail hs hlog

theorem smEvent_same {e : SmEvent} {action : Action}
    (h : smMatrix s.currentState e = (s.currentState, action))
    (ha : action = .smNop ∨ action = .smUnexpected) : s.smEvent env e = s := by
  obtain rfl | rfl := ha <;> simp only [smEvent, smRaised, h, act]

theorem Inv.smEvent (h : s.Inv) {e : SmEvent} (hcmplt : e = .scCmplt → s.currentState ≠ .scInProg)
    (hfail : e = .scrFail → s.currentState ≠ .scInProg)
    (hreset : e = .fwReset → s.currentState ≠ .wait4Scr) : (s.smEvent env e).Inv := by
  cases hs : s.currentState with
  | idle =>
    cases e with
    | start =>
      have hlog := h.closed (by simp [hs])
      have hscr : s.scrState = .idle := by
        by_contra hn
        have := h.resource.mp hn
        simp [InSwitch, hs] at this
      simp only [Sys.smEvent, smRaised, hs, smMatrix, act]
      exact .of_closed (.inr rfl) hscr hlog
    | _ => rwa [smEvent_same (by rw [hs]; rfl) (by simp)]
  | wait4Cmd =>
    have hlog := h.closed (by simp [hs])
    have hscr : s.scrState = .idle := by
      by_contra hn
      have := h.resource.mp hn
      simp [InSwitch, hs] at this
    cases e with
    | stop =>
      simp only [Sys.smEvent, smRaised, hs, smMatrix, act]
      exact .of_closed (.inl rfl) hscr hlog
    | scCmd =>
      simp only [Sys.smEvent, hs, smMatrix]
      exact inv_reqScr rfl hlog
    | _ => rwa [smEvent_same (by rw [hs]; rfl) (by simp)]
  | wait4Scr =>
    have hlog := h.closed (by simp [hs])
    cases e with
    | stop =>
      simp only [Sys.smEvent, smRaised, hs, smMatrix, act]
      exact .of_closed (.inl rfl) rfl hlog
    | scrRun =>
      have heq : s.smEvent env .scrRun = s.smRaised env .scrRun := by
        simp only [Sys.smEvent, hs, smMatrix]
      rw [heq]
      exact inv_scrRun hs (h.resource.mpr (.inl hs)) hlog
    | scrFail =>
      have heq : s.smEvent env .scrFail = s.smRaised env .scrFail := by
        simp only [Sys.smEvent, hs, smMatrix]
      rw [heq]
      exact inv_scrFail hs hlog
    | fwReset => exact absurd hs (hreset rfl)
    | _ => rwa [smEvent_same (by rw [hs]; rfl) (by simp)]
  | scInProg =>
    obtain ⟨params, -, hlog, -⟩ := h.opened hs
    cases e with
    | stop =>
      simp only [Sys.smEvent, smRaised, hs, smMatrix, act]
      refine .of_closed (.inl rfl) rfl ?_
      have hfin : s.indicateSwitchChannelFinished.LogAt .none := hlog.snoc rfl rfl
      exact hfin.snoc (e := .cmdSwitchChannelCancel s.currentChannel) rfl rfl
    | scrFail => exact absurd hs (hfail rfl)
    | scCmplt => exact absurd hs (hcmplt rfl)
    | fwReset =>
      simp only [Sys.smEvent, smRaised, hs, smMatrix, act]
      refine .of_closed (.inr rfl) rfl ?_
      have hset : (s.setCurrentChannel s.curChannelSwitchCmdParams.channelNumber).LogAt
          (.commanded params.channelNumber) := hlog.snoc rfl rfl
      exact hset.snoc (e := .indicateSwitchChannelFinished) rfl rfl
    | _ => rwa [smEvent_same (by rw [hs]; rfl) (by simp)]

/-! ## The calls -/

theorem Inv.log_snoc (h : s.Inv) {e : Event} (he : ∀ switch : Switch, switch.step e = some switch) :
    ({ s with log := s.log ++ [e] } : Sys).Inv := by
  refine ⟨h.resource, fun hs => (h.closed hs).snoc (he _) rfl, fun hs => ?_⟩
  obtain ⟨params, hcmd, hlog, hcur⟩ := h.opened hs
  exact ⟨params, hcmd, hlog.snoc (he _) rfl, hcur⟩

theorem Inv.triggerRoaming (h : s.Inv) (channelSwitch : ChannelSwitch) (channel : ℕ) :
    (s.triggerRoaming channelSwitch channel).Inv := by
  have hvalid : (if channelSwitch.channelSwitchMode = switchChannelModeTxSus then
      ({ s with log := s.log ++ [.setChannelValidity channel false] } : Sys) else s).Inv := by
    split
    · exact h.log_snoc fun switch => by cases switch <;> rfl
    · exact h
  unfold Sys.triggerRoaming
  generalize (if channelSwitch.channelSwitchMode = switchChannelModeTxSus then
      ({ s with log := s.log ++ [.setChannelValidity channel false] } : Sys) else s) = t at hvalid
  by_cases hs : t.switchChannelStarted = true
  · rw [if_pos hs]
    exact hvalid.log_snoc (e := .reportRoamingEvent) fun switch => by cases switch <;> rfl
  · rw [if_neg hs]
    exact hvalid

theorem Inv.recvCmd (h : s.Inv) (reg : RegDomain) (channelSwitch : Option ChannelSwitch)
    (channel : ℕ) : (s.recvCmd env reg channelSwitch channel).Inv := by
  unfold Sys.recvCmd
  split
  · exact h
  · cases channelSwitch with
    | none => exact h.log_snoc fun switch => by cases switch <;> rfl
    | some channelSwitch =>
      dsimp only
      split
      · exact h.triggerRoaming channelSwitch channel
      · have hinv : ({ s with
            curChannelSwitchCmdParams := channelSwitch
            announced := some channelSwitch.channelNumber } : Sys).Inv := by
          refine ⟨h.resource, h.closed, fun hs => ?_⟩
          obtain ⟨params, hcmd, hlog, -⟩ := h.opened hs
          exact ⟨params, hcmd, hlog, rfl⟩
        exact hinv.smEvent nofun nofun nofun

theorem Inv.switchChannelCmdCompleteReturn (h : s.Inv)
    (hreg : s.Regular (.switchChannelCmdCompleteReturn, env)) :
    (s.switchChannelCmdCompleteReturn env).Inv := by
  unfold Sys.switchChannelCmdCompleteReturn
  by_cases hs : s.currentState = .scInProg
  · obtain ⟨params, hcmd, hlog, hcur⟩ := h.opened hs
    have hchannel : s.curChannelSwitchCmdParams.channelNumber = params.channelNumber := by
      rw [hcur]
      cases ha : s.announced with
      | none => rfl
      | some channel => exact hreg hs channel ha params hcmd
    have hdone : ({ s with log := s.log ++ [.switchChannelCmplt] } : Sys).LogAt
        (.completed params.channelNumber) := hlog.snoc rfl rfl
    simp only [Sys.smEvent, smRaised, hs, smMatrix, act]
    refine .of_closed (.inr rfl) rfl ?_
    have hset : (({ s with log := s.log ++ [.switchChannelCmplt] } : Sys).setCurrentChannel
        s.curChannelSwitchCmdParams.channelNumber).LogAt (.commanded params.channelNumber) :=
      hdone.snoc (e := .setCurrentChannel s.curChannelSwitchCmdParams.channelNumber)
        (if_pos hchannel) rfl
    exact hset.snoc (e := .indicateSwitchChannelFinished) rfl rfl
  · have hinv : ({ s with log := s.log ++ [.switchChannelCmplt] } : Sys).Inv :=
      ⟨h.resource, fun _ => (h.closed hs).snoc rfl rfl, fun hn => absurd hn hs⟩
    exact hinv.smEvent (fun _ => hs) nofun nofun

theorem Inv.scrStatusCB (h : s.Inv) {requestStatus : EScrClientRequestStatus}
    (hreg : s.Regular (.scrStatusCB requestStatus, env)) :
    (s.scrStatusCB env requestStatus).Inv := by
  obtain ⟨hprog, hwait⟩ := hreg
  refine h.smEvent ?_ ?_ ?_
  · cases requestStatus <;> exact nofun
  · intro he hs
    cases requestStatus with
    | run => cases he
    | fwReset => cases he
    | pend => exact (hprog hs).1 rfl
    | abort => exact (hprog hs).2 rfl
  · intro he hs
    cases requestStatus with
    | fwReset => exact hwait hs rfl
    | _ => cases he

theorem Inv.step (h : s.Inv) {i : Input × Env} (hreg : s.Regular i) (hs : s.step i = some t) :
    t.Inv := by
  obtain ⟨i, env⟩ := i
  cases i with
  | start =>
    cases hs
    have hinv : ({ s with switchChannelStarted := true } : Sys).Inv :=
      ⟨h.resource, h.closed, h.opened⟩
    exact hinv.smEvent nofun nofun nofun
  | stop =>
    cases hs
    have hinv : ({ s with switchChannelStarted := false } : Sys).Inv :=
      ⟨h.resource, h.closed, h.opened⟩
    exact hinv.smEvent nofun nofun nofun
  | enableDisableSpectrumMngmt enableDisable =>
    cases hs
    have hinv : ({ s with dot11SpectrumManagementRequired := enableDisable } : Sys).Inv :=
      ⟨h.resource, h.closed, h.opened⟩
    unfold Sys.enableDisableSpectrumMngmt
    dsimp only
    split
    · split
      · exact hinv.smEvent nofun nofun nofun
      · exact hinv
    · exact hinv.smEvent nofun nofun nofun
  | recvCmd reg channelSwitch channel =>
    cases hs
    exact h.recvCmd reg channelSwitch channel
  | scrStatusCB requestStatus =>
    cases requestStatus with
    | run =>
      rw [Sys.step] at hs
      split at hs
      · rename_i hpend
        cases hs
        have hinv : ({ s with scrState := .running } : Sys).Inv := by
          refine ⟨?_, h.closed, h.opened⟩
          have hin := h.resource.mp (by simp [hpend])
          exact iff_of_true (by simp) hin
        exact hinv.scrStatusCB hreg
      · cases hs
    | _ =>
      cases hs
      exact h.scrStatusCB hreg
  | switchChannelCmdCompleteReturn =>
    cases hs
    exact h.switchChannelCmdCompleteReturn hreg

theorem inv_init (required : Bool) (siteChannel : ℕ) : (init required siteChannel).Inv :=
  .of_closed (.inl rfl) rfl rfl

end Sys

/-- **In a regular run every state is proper.** -/
theorem switch_proper {required : Bool} {siteChannel : ℕ} {is : List (Sys.Input × Env)} {s : Sys}
    (ha : Along Sys.step Sys.Regular (Sys.init required siteChannel) is)
    (he : exec Sys.step (Sys.init required siteChannel) is = some s) : s.Proper :=
  (Along.invariant (I := Sys.Inv) (fun _ _ _ h hp hs => h.step hp hs)
    (Sys.inv_init required siteChannel) ha he).proper

/-- Every channel is supported, and those of the lower 5 GHz bands are DFS channels. -/
def sampleReg : RegDomain := ⟨36, 64, fun _ => true⟩

/-- The SCR answers a request so. -/
def sampleEnv (scrStatus : EScrClientRequestStatus) (scrPendReason : Scr.EScePendReason) : Env :=
  ⟨scrStatus, scrPendReason, 0, 10, 100⟩

/-- An announcement of a switch in ten beacons. -/
def announce (channelNumber : ℕ) : Sys.Input := .recvCmd sampleReg (some ⟨0, channelNumber, 10⟩) 36

/-- An announcement while the resource is waited for, repeated during the switch. -/
def wellSwitched : List (Sys.Input × Env) :=
  [(.start, sampleEnv .run .none), (announce 44, sampleEnv .pend .otherClientAborting),
    (announce 48, sampleEnv .run .none), (.scrStatusCB .run, sampleEnv .run .none),
    (announce 48, sampleEnv .run .none), (.switchChannelCmdCompleteReturn, sampleEnv .run .none)]

theorem switch_proper_wellSwitched :
    ∃ s, exec Sys.step (Sys.init true 36) wellSwitched = some s ∧ s.Proper := by
  obtain ⟨s, hs⟩ := Option.isSome_iff_exists.mp
    (by decide +kernel : (exec Sys.step (Sys.init true 36) wellSwitched).isSome = true)
  exact ⟨s, hs, switch_proper (by decide +kernel) hs⟩

/-- Another channel is announced during the switch. -/
def announcedAgain : List (Sys.Input × Env) :=
  [(.start, sampleEnv .run .none), (announce 44, sampleEnv .run .none),
    (announce 48, sampleEnv .run .none), (.switchChannelCmdCompleteReturn, sampleEnv .run .none)]

/-- The SCR aborts the client during the switch. -/
def aborted : List (Sys.Input × Env) :=
  [(.start, sampleEnv .run .none), (announce 44, sampleEnv .run .none),
    (.scrStatusCB .abort, sampleEnv .run .none)]

/-- The firmware resets while the resource is waited for. -/
def resetWaiting : List (Sys.Input × Env) :=
  [(.start, sampleEnv .run .none), (announce 44, sampleEnv .pend .otherClientAborting),
    (.scrStatusCB .fwReset, sampleEnv .run .none)]

/-- A channel is stored that the firmware was not sent to, and the resource is kept outside a
switch, held or requested. -/
theorem switch_not_proper :
    (∃ s, exec Sys.step (Sys.init true 36) announcedAgain = some s ∧ ¬ s.Proper) ∧
      (∃ s, exec Sys.step (Sys.init true 36) aborted = some s ∧ ¬ s.Proper) ∧
        ∃ s, exec Sys.step (Sys.init true 36) resetWaiting = some s ∧ ¬ s.Proper := by
  have hleak : ∀ is, ((exec Sys.step (Sys.init true 36) is).any fun s =>
      s.currentState = .wait4Cmd ∧ s.scrState ≠ .idle) = true →
      ∃ s, exec Sys.step (Sys.init true 36) is = some s ∧ ¬ s.Proper := by
    intro is h
    cases he : exec Sys.step (Sys.init true 36) is with
    | none => simp [he] at h
    | some s =>
      simp only [he, Option.any_some, decide_eq_true_eq] at h
      refine ⟨s, rfl, fun hp => ?_⟩
      have := hp.resource.mp h.2
      simp [Sys.InSwitch, h.1] at this
  refine ⟨?_, hleak _ (by decide +kernel), hleak _ (by decide +kernel)⟩
  obtain ⟨s, hs⟩ := Option.isSome_iff_exists.mp
    (by decide +kernel : (exec Sys.step (Sys.init true 36) announcedAgain).isSome = true)
  have hlog : (exec Sys.step (Sys.init true 36) announcedAgain).map (fun s =>
      exec Switch.step .none s.log) = some none := by
    decide +kernel
  rw [hs, Option.map_some, Option.some.injEq] at hlog
  refine ⟨s, hs, fun hp => ?_⟩
  obtain ⟨switch, hat, -⟩ := hp.switch
  cases hat.symm.trans hlog

end ArchosGpl.Wlan.SwitchChannel
