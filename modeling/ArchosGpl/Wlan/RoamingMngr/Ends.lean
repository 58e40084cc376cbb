import ArchosGpl.Wlan.RoamingMngr.Process

/-!
# The end of a roaming process

An open process waits for the event in the slot, for a scan or for the answer to a connect request.
`Goes` says what a step does: it keeps the invariant, and a process that stays open comes nearer to
its end or goes on waiting for the same. `Keeps` is what is assumed of the AP connection: a request
to retain the current AP is not answered with a failure.

* `process_ends`: **every process ends once, after at most four scans and one request more than it
  has candidates**; at rest the triggers are unmasked in `WAIT_4_TRIGGER` and nowhere else.
-/

namespace ArchosGpl.Wlan.RoamingMngr

open Lib
open Wlan.ScanMngr (BssEntry BssList ScanMngrResultStatus)

variable {B : Type*}

/-! ## What an open process waits for -/

/-- What an open process waits for. -/
inductive Waits
  | event
  | scan
  | answer
  deriving DecidableEq

/-- What a process waits for when the slot is empty. -/
def SmState.waits : SmState → Waits
  | .scanning => .scan
  | .connecting => .answer
  | _ => .event

namespace Sys

variable {s t : Sys B}

/-- What an open process waits for: the event in the slot, unless it does nothing. -/
def waits (s : Sys B) : Waits :=
  match s.pending with
  | none => s.smState.waits
  | some event => if Inactive s.smState event then s.smState.waits else .event

/-- The invariant is kept, and a process that stays open comes nearer to its end or waits for the
same as before. -/
structure Goes (s t : Sys B) : Prop where
  inv : t.Inv
  steady : isOpen s.log = true → isOpen t.log = true →
    t.distance < s.distance ∨ t.distance = s.distance ∧ t.waits = s.waits

theorem Nearer.goes (h : t.Nearer s.distance) : s.Goes t :=
  ⟨h.inv, fun _ hopen => Or.inl (h.less hopen)⟩

theorem Goes.of_closed (h : t.Inv) (hclosed : isOpen s.log = false) : s.Goes t :=
  ⟨h, fun hopen => by rw [hclosed] at hopen; cases hopen⟩

theorem Goes.of_inactive (h : t.Inv) (hnone : s.pending = none) (hs : t.smState = s.smState)
    (event : SmEvent) (hp : t.pending = some event) (hin : Inactive s.smState event)
    (hdist : t.distanceAt s.smState none = s.distanceAt s.smState none) : s.Goes t := by
  refine ⟨h, fun _ _ => Or.inr ⟨?_, ?_⟩⟩
  · rw [distance, distance, hs, hp, hnone, distanceAt_inactive hin, hdist]
  · rw [waits, waits, hp, hnone, hs]
    exact if_pos hin

theorem Goes.refl (h : s.Inv) : s.Goes s := ⟨h, fun _ _ => Or.inr ⟨rfl, rfl⟩⟩

theorem Inv.frame (h : s.Inv) (hnone : s.pending = none) (apQualityThreshold : ℤ)
    (lowPassFilterRoamingAttemptInMsec lowQualityTriggerTimestamp : ℕ)
    (roamingTrigger : RoamingTrigger) (neighborApsExist : Bool) (bssList : BssList B) :
    s.Goes { s with
      apQualityThreshold := apQualityThreshold
      lowPassFilterRoamingAttemptInMsec := lowPassFilterRoamingAttemptInMsec
      lowQualityTriggerTimestamp := lowQualityTriggerTimestamp
      roamingTrigger := roamingTrigger
      neighborApsExist := neighborApsExist
      bssList := bssList } := by
  have hphase := h.phase
  refine ⟨⟨?_, h.enabled, h.starts⟩, fun _ _ => Or.inr ⟨rfl, rfl⟩⟩
  rw [hnone] at hphase ⊢
  cases hs : s.smState <;> (rw [hs] at hphase; exact hphase)

theorem Inv.enabled_of_none (h : s.Inv) (hnone : s.pending = none) (hs : s.smState ≠ .idle) :
    s.enableDisable = true :=
  h.enabled hs (by rw [hnone]; exact nofun)

theorem Inv.phase_none (h : s.Inv) (hnone : s.pending = none) : s.Phase s.smState none := by
  have hphase := h.phase
  rwa [hnone] at hphase

theorem Inv.smEvent (h : s.Inv) (hnone : s.pending = none) {event : SmEvent}
    (hphase : s.Phase s.smState (some event))
    (hstart : event = .start → s.enableDisable = true) : (s.smEvent event).Inv where
  phase := hphase
  enabled hs _ := h.enabled_of_none hnone hs
  starts he := hstart (Option.some.inj he)

/-! ## Roaming triggers -/

theorem Inv.wait_of_unmasked (h : s.Inv) (hnone : s.pending = none)
    (hmask : s.maskRoamingEvents = false) :
    s.smState = .wait4Trigger ∧ Closed s.log s.listOfCandidateAps := by
  have hphase := h.phase_none hnone
  have hmasked : ∀ p : Prop, ¬ (p ∧ s.maskRoamingEvents = true) := by
    rintro p ⟨-, htrue⟩
    rw [hmask] at htrue
    cases htrue
  cases hs : s.smState with
  | wait4Trigger =>
    rw [hs] at hphase
    exact ⟨rfl, hphase.1⟩
  | wait4Cmd | selecting =>
    rw [hs] at hphase
    exact hphase.elim
  | idle | scanning | connecting =>
    rw [hs] at hphase
    exact absurd hphase (hmasked _)

theorem Inv.acceptTrigger (h : s.Inv) (hnone : s.pending = none)
    (hmask : s.maskRoamingEvents = false) : s.acceptTrigger.Inv := by
  obtain ⟨hs, hclosed⟩ := h.wait_of_unmasked hnone hmask
  have hen : s.enableDisable = true := h.enabled_of_none hnone (by rw [hs]; exact nofun)
  refine ⟨?_, fun _ _ => hen, fun _ => hen⟩
  show Phase _ s.smState (some .roamTrigger)
  rw [hs]
  exact ⟨hclosed.accepted, rfl⟩

theorem Inv.severe_goes (h : s.Inv) (hnone : s.pending = none)
    (hmask : s.maskRoamingEvents = true) (hrank : fastConnectGroup < s.roamingTrigger.rank) :
    s.Goes (s.smEvent .roamTrigger) := by
  have hphase := h.phase_none hnone
  have hevent : s.Phase s.smState (some .roamTrigger) → (s.smEvent .roamTrigger).Inv :=
    fun hp => h.smEvent hnone hp nofun
  cases hs : s.smState with
  | idle =>
    rw [hs] at hphase hevent
    exact Goes.of_closed (hevent hphase) hphase.1.closed
  | wait4Trigger =>
    rw [hs] at hphase
    rw [hphase.2] at hmask
    cases hmask
  | wait4Cmd | selecting =>
    rw [hs] at hphase
    exact hphase.elim
  | scanning =>
    rw [hs] at hphase hevent
    exact Goes.of_inactive (hevent hphase) hnone rfl _ rfl (by rw [hs]; decide) rfl
  | connecting =>
    rw [hs] at hphase hevent
    refine ⟨hevent ⟨⟨hphase.1.1.toRoaming, hrank⟩, hphase.2⟩, fun _ _ => Or.inl ?_⟩
    rw [distance, distance, hnone]
    show distanceAt _ s.smState (some .roamTrigger) < s.distanceAt s.smState none
    rw [hs]
    exact Nat.succ_pos _

theorem Inv.trigger_goes (h : s.Inv) (hnone : s.pending = none) (roamingTrigger : RoamingTrigger)
    (curTimestamp : ℕ) : s.Goes (s.triggerRoamingCb roamingTrigger curTimestamp) := by
  have hsave : ∀ ts trigger, s.Goes { s with
      lowQualityTriggerTimestamp := ts, roamingTrigger := trigger } := fun ts trigger =>
    h.frame hnone s.apQualityThreshold s.lowPassFilterRoamingAttemptInMsec ts trigger
      s.neighborApsExist s.bssList
  have haccept : ∀ ts trigger, s.maskRoamingEvents = false → s.Goes ({ s with
      lowQualityTriggerTimestamp := ts, roamingTrigger := trigger } : Sys B).acceptTrigger :=
    fun ts trigger hmask => Goes.of_closed ((hsave ts trigger).inv.acceptTrigger hnone hmask)
      (h.wait_of_unmasked hnone hmask).2.closed
  unfold triggerRoamingCb
  dsimp only
  split
  · exact Goes.refl h
  split
  · exact Goes.refl h
  split
  case isTrue hmask =>
    split
    · split
      · exact hsave _ _
      · exact haccept _ _ hmask
    · exact haccept _ _ hmask
  case isFalse hmask =>
    split
    case isTrue hrank =>
      have hsevere : fastConnectGroup < (s.saveTrigger roamingTrigger).roamingTrigger.rank := by
        show _ < (if _ then roamingTrigger else s.roamingTrigger).rank
        split
        · exact hrank
        · omega
      have hgo := (hsave _ _).inv.severe_goes (s := s.saveTrigger roamingTrigger) hnone
        (Bool.not_eq_false _ ▸ hmask) hsevere
      exact ⟨hgo.inv, hgo.steady⟩
    case isFalse => exact hsave _ _

/-! ## Statuses and completions -/

theorem Inv.answer_nearer (h : s.Inv) (hnone : s.pending = none) (hs : s.smState = .connecting)
    {connStatus : ConnStatus} (hkeep : s.Keeps (.connStatusCb connStatus))
    (hans : connStatus.isAnswer = true) : (s.reportStatus connStatus).Nearer s.distance := by
  have hphase := h.phase_none hnone
  rw [hs] at hphase
  obtain ⟨⟨htry, hreq⟩, hmask⟩ := hphase
  have hen : s.enableDisable = true := h.enabled_of_none hnone (by rw [hs]; exact nofun)
  have hnear := report_connecting hs hen hmask hreq htry fun he hr => hkeep he ⟨hs, hr⟩
  rw [if_pos hans] at hnear
  rw [distance, hs, hnone]
  exact hnear

theorem Inv.report_goes (h : s.Inv) (hnone : s.pending = none) {connStatus : ConnStatus}
    (hkeep : s.Keeps (.connStatusCb connStatus)) : s.Goes (s.reportStatus connStatus) := by
  have hphase := h.phase_none hnone
  have hen := h.enabled_of_none hnone
  cases hs : s.smState with
  | idle =>
    rw [hs] at hphase
    exact Goes.of_closed (Inv.report_idle hs hnone hphase.2 hphase.1 connStatus) hphase.1.closed
  | wait4Trigger =>
    rw [hs] at hphase
    have hen := hen (by rw [hs]; decide)
    refine Goes.of_closed ?_ hphase.1.closed
    rw [reportStatus_enabled hen]
    refine ⟨?_, fun _ _ => hen, fun _ => hen⟩
    rw [hs]
    cases connStatus <;> exact hphase
  | wait4Cmd | selecting =>
    rw [hs] at hphase
    exact hphase.elim
  | scanning =>
    rw [hs] at hphase
    have hen := hen (by rw [hs]; decide)
    have hinv : (s.reportStatus connStatus).Inv := by
      rw [reportStatus_enabled hen]
      refine ⟨?_, fun _ _ => hen, fun _ => hen⟩
      rw [hs]
      cases connStatus with
      | notConnected => exact ⟨hphase.1.1.toRoaming, hphase.2⟩
      | _ => exact hphase
    have hstate : (s.reportStatus connStatus).smState = s.smState := by
      rw [reportStatus_enabled hen]
    have hslot : (s.reportStatus connStatus).pending = some (ConnStatus.event connStatus) := by
      rw [reportStatus_enabled hen]
    have hdist : (s.reportStatus connStatus).distanceAt s.smState none =
        s.distanceAt s.smState none := by
      rw [reportStatus_enabled hen]
      rfl
    cases connStatus with
    | notConnected =>
      refine ⟨hinv, fun _ _ => Or.inl ?_⟩
      rw [distance, distance, hstate, hslot, hnone, hs]
      exact Nat.lt_of_lt_of_le (by decide : 0 < 41) (Nat.le_add_right 41 _)
    | _ => exact Goes.of_inactive hinv hnone hstate _ hslot (by rw [hs]; decide) hdist
  | connecting =>
    cases hans : connStatus.isAnswer with
    | true => exact (h.answer_nearer hnone hs hkeep hans).goes
    | false =>
      obtain rfl : connStatus = .connected := by cases connStatus <;> first | rfl | cases hans
      have hen := hen (by rw [hs]; decide)
      rw [hs] at hphase
      rw [reportStatus_enabled hen]
      refine Goes.of_inactive ⟨?_, fun _ _ => hen, fun _ => hen⟩ hnone rfl _ rfl
        (by rw [hs]; decide) rfl
      rw [hs]
      exact hphase

theorem Inv.scan_nearer (h : s.Inv) (hnone : s.pending = none) (hs : s.smState = .scanning)
    (scanCmpltStatus : ScanMngrResultStatus) (channelValidity : BssEntry B → Bool) :
    (s.reportScan scanCmpltStatus channelValidity).Nearer s.distance := by
  have hphase := h.phase_none hnone
  rw [hs] at hphase
  obtain ⟨⟨hsearch, hpos, -⟩, hmask⟩ := hphase
  have hen : s.enableDisable = true := h.enabled_of_none hnone (by rw [hs]; exact nofun)
  rw [distance, hs, hnone]
  exact complete_scanning (s := { s with scans := s.scans - 1 }) hs hen hmask hsearch hpos _ _

theorem Inv.complete_goes (h : s.Inv) (hnone : s.pending = none)
    (scanCmpltStatus : ScanMngrResultStatus) (channelValidity : BssEntry B → Bool) :
    s.Goes (s.reportScan scanCmpltStatus channelValidity) := by
  have hphase := h.phase_none hnone
  have hen := h.enabled_of_none hnone
  obtain ⟨scanType, event, heq, hevent⟩ :=
    immediateScanComplete_cases { s with scans := s.scans - 1 } scanCmpltStatus channelValidity
  have hcases : event = .select ∨ event = .scan := by
    rcases hevent with he | ⟨he, -⟩
    · exact Or.inl he
    · exact Or.inr he
  have hinv : (Phase { s with
      scans := s.scans - 1
      bssList := s.bssList.getBSSList channelValidity
      pListOfAPs := true
      scanType := scanType
      pending := some event } s.smState (some event)) →
      (s.reportScan scanCmpltStatus channelValidity).Inv := by
    intro hp
    rw [reportScan, heq]
    refine ⟨hp, fun hs _ => hen hs, fun he => ?_⟩
    rcases hcases with rfl | rfl <;> cases he
  cases hs : s.smState with
  | idle =>
    rw [hs] at hphase hinv
    exact Goes.of_closed (hinv hphase) hphase.1.closed
  | wait4Trigger =>
    rw [hs] at hphase hinv
    refine Goes.of_closed (hinv ?_) hphase.1.closed
    rcases hcases with rfl | rfl <;> exact hphase
  | wait4Cmd | selecting =>
    rw [hs] at hphase
    exact hphase.elim
  | scanning => exact (h.scan_nearer hnone hs _ _).goes
  | connecting =>
    rw [hs] at hphase hinv
    refine Goes.of_inactive (hinv ?_) hnone ?_ event ?_ ?_ ?_
    · rcases hcases with rfl | rfl <;> exact hphase
    · rw [reportScan, heq]
    · rw [reportScan, heq]
    · rw [hs]
      rcases hcases with rfl | rfl <;> decide
    · rw [reportScan, heq, hs]
      rfl

/-! ## Configuration -/

theorem Inv.disable_goes (h : s.Inv) (hnone : s.pending = none) :
    s.Goes ({ s with enableDisable := false }.smEvent .stop) := by
  have hphase := h.phase_none hnone
  have hinv : s.Phase s.smState (some .stop) →
      ({ s with enableDisable := false }.smEvent .stop : Sys B).Inv :=
    fun hp => ⟨hp, fun _ hstop => absurd rfl hstop, nofun⟩
  cases hs : s.smState with
  | idle | wait4Trigger =>
    rw [hs] at hphase hinv
    exact Goes.of_closed (hinv hphase) hphase.1.closed
  | wait4Cmd | selecting =>
    rw [hs] at hphase
    exact hphase.elim
  | scanning =>
    rw [hs] at hphase hinv
    refine ⟨hinv ⟨hphase.1.1.toRoaming, hphase.2⟩, fun _ _ => Or.inl ?_⟩
    show 0 < s.distance
    rw [distance, hs, hnone]
    exact Nat.lt_of_lt_of_le (by decide : 0 < 41) (Nat.le_add_right 41 _)
  | connecting =>
    rw [hs] at hphase hinv
    refine ⟨hinv ⟨hphase.1.1.toRoaming, hphase.2⟩, fun _ _ => Or.inl ?_⟩
    show 0 < s.distance
    rw [distance, hs, hnone]
    exact Nat.succ_pos _

theorem Inv.enable_goes (h : s.Inv) (hnone : s.pending = none) (hen : s.enableDisable = false)
    (bConnected : Bool) :
    s.Goes (if bConnected then ({ s with enableDisable := true } : Sys B).connStatusCb .connected
      else { s with enableDisable := true }) := by
  have hs : s.smState = .idle := by
    by_contra hs
    rw [h.enabled_of_none hnone hs] at hen
    cases hen
  have hphase := h.phase_none hnone
  rw [hs] at hphase
  refine Goes.of_closed ?_ hphase.1.closed
  cases bConnected with
  | true =>
    refine ⟨?_, fun _ _ => rfl, fun _ => rfl⟩
    rw [hs]
    exact hphase
  | false =>
    refine ⟨?_, fun _ _ => rfl, fun _ => rfl⟩
    rw [hs, hnone]
    exact hphase

theorem Inv.setParam_goes (h : s.Inv) (hnone : s.pending = none) (enableDisable : Bool)
    (lowPassFilterRoamingAttempt : ℕ) (apQualityThreshold : ℤ) (bConnected : Bool) :
    s.Goes (s.setParam enableDisable lowPassFilterRoamingAttempt apQualityThreshold bConnected) := by
  have hframe := h.frame hnone apQualityThreshold (lowPassFilterRoamingAttempt * 1000)
    s.lowQualityTriggerTimestamp s.roamingTrigger s.neighborApsExist s.bssList
  unfold setParam
  dsimp only
  split
  · have hgo := hframe.inv.disable_goes hnone
    exact ⟨hgo.inv, hgo.steady⟩
  · split
    case isTrue hen =>
      have hfalse : s.enableDisable = false := by
        cases hs : s.enableDisable with
        | false => rfl
        | true =>
          rw [hs] at hen
          cases hen
      have hgo := hframe.inv.enable_goes hnone hfalse bConnected
      exact ⟨hgo.inv, hgo.steady⟩
    case isFalse => exact hframe

/-! ## Steps -/

theorem phase_of_stop {smState : SmState} (hs : smState ≠ .idle) (hin : Inactive smState .stop) :
    ¬ s.Phase smState none := by
  cases smState with
  | idle => exact absurd rfl hs
  | wait4Cmd => exact id
  | selecting => exact id
  | _ => exact absurd hin (by decide)

theorem init_inv (bssList : BssList B) (ap : BssEntry B) : (init bssList ap).Inv where
  phase := ⟨⟨⟨each_nil, Nat.zero_le _, Nat.zero_le _, Nat.zero_le _⟩, rfl⟩, rfl⟩
  enabled h := absurd rfl h
  starts := nofun

theorem phase_open {smState : SmState} (h : s.Phase smState none) (hopen : isOpen s.log = true) :
    smState = .scanning ∧ 0 < s.scans ∨ smState = .connecting ∧ 0 < s.requests := by
  have hnot : ¬ Closed s.log s.listOfCandidateAps := by
    rintro ⟨-, hclosed⟩
    rw [hopen] at hclosed
    cases hclosed
  cases smState with
  | idle | wait4Trigger => exact absurd h.1 hnot
  | wait4Cmd => exact h.elim
  | scanning => exact Or.inl ⟨rfl, h.1.2.2⟩
  | selecting => exact h.elim
  | connecting => exact Or.inr ⟨rfl, h.1.2⟩

theorem phase_base {smState : SmState} {pending : Option SmEvent} (h : s.Phase smState pending) :
    Base s.log s.listOfCandidateAps := by
  cases smState <;> rcases pending with _ | event <;> try cases event
  all_goals first
    | exact h.1.toBase
    | exact h.1.1.toBase
    | exact h.elim

theorem Inv.due (h : s.Inv) (hopen : isOpen s.log = true) :
    (s.waits = .event → s.pending ≠ none) ∧
      (s.waits = .scan → s.smState = .scanning ∧ 0 < s.scans) ∧
      (s.waits = .answer → s.smState = .connecting ∧ 0 < s.requests) := by
  have hphase := h.phase
  have hwaits : s.waits = s.smState.waits → s.Phase s.smState none →
      (s.waits = .event → s.pending ≠ none) ∧
        (s.waits = .scan → s.smState = .scanning ∧ 0 < s.scans) ∧
        (s.waits = .answer → s.smState = .connecting ∧ 0 < s.requests) := by
    intro hw hp
    rw [hw]
    obtain ⟨hs, hdue⟩ | ⟨hs, hdue⟩ := phase_open hp hopen
    · rw [hs]
      exact ⟨nofun, fun _ => ⟨rfl, hdue⟩, nofun⟩
    · rw [hs]
      exact ⟨nofun, nofun, fun _ => ⟨rfl, hdue⟩⟩
  cases hp : s.pending with
  | none =>
    rw [hp] at hphase hwaits
    exact hwaits (by rw [waits, hp]) hphase
  | some event =>
    rw [hp] at hphase hwaits
    by_cases hin : Inactive s.smState event
    · rw [phase_inactive hin] at hphase
      refine hwaits ?_ hphase
      rw [waits, hp]
      exact if_pos hin
    · have hw : s.waits = .event := by
        rw [waits, hp]
        exact if_neg hin
      rw [hw]
      exact ⟨fun _ => nofun, nofun, nofun⟩

/-- With an empty slot, triggers are unmasked in `WAIT_4_TRIGGER` and nowhere else, and no command
is waited for. -/
theorem Inv.unmasked_iff (h : s.Inv) (hnone : s.pending = none) :
    (s.maskRoamingEvents = false ↔ s.smState = .wait4Trigger) ∧ s.smState ≠ .wait4Cmd ∧
      s.smState ≠ .selecting := by
  have hphase := h.phase_none hnone
  refine ⟨⟨fun hmask => (h.wait_of_unmasked hnone hmask).1, fun hs => ?_⟩, fun hs => ?_, fun hs => ?_⟩
  · rw [hs] at hphase
    exact hphase.2
  · rw [hs] at hphase
    exact hphase
  · rw [hs] at hphase
    exact hphase

variable [DecidableEq B]

theorem Inv.receive_goes (h : s.Inv) (hnone : s.pending = none) {i : Input B}
    (hkeep : s.Keeps i) (hr : s.receive i = some t) : s.Goes t := by
  have hframe := h.frame hnone s.apQualityThreshold s.lowPassFilterRoamingAttemptInMsec
    s.lowQualityTriggerTimestamp s.roamingTrigger
  cases i with
  | triggerRoamingCb roamingTrigger curTimestamp =>
    cases hr
    exact h.trigger_goes hnone roamingTrigger curTimestamp
  | connStatusCb connStatus =>
    obtain ⟨-, ⟨⟩⟩ := Option.ite_none_right_eq_some.mp hr
    exact h.report_goes hnone hkeep
  | immediateScanComplete scanCmpltStatus channelValidity =>
    obtain ⟨-, ⟨⟩⟩ := Option.ite_none_right_eq_some.mp hr
    exact h.complete_goes hnone scanCmpltStatus channelValidity
  | updateNeighborApListCb numOfEntries =>
    cases hr
    exact hframe _ s.bssList
  | setParam enableDisable lowPassFilterRoamingAttempt apQualityThreshold bConnected =>
    cases hr
    exact h.setParam_goes hnone _ _ _ _
  | removeEntry index =>
    obtain ⟨-, ⟨⟩⟩ := Option.ite_none_right_eq_some.mp hr
    exact hframe s.neighborApsExist _
  | insertNewBSS e | updateBSSInfo index band rssi =>
    cases hr
    exact hframe s.neighborApsExist _
  | dispatch a => cases hr

theorem Inv.dispatch_goes (h : s.Inv) {event : SmEvent} (hp : s.pending = some event)
    {a : Answers B} (hkeep : s.Keeps (.dispatch a)) : s.Goes (s.dispatch a event) := by
  by_cases hin : Inactive s.smState event
  · have hphase := h.phase
    rw [hp, phase_inactive hin] at hphase
    have hen : s.smState ≠ .idle → s.enableDisable = true := by
      intro hs
      refine h.enabled hs ?_
      rw [hp]
      rintro ⟨⟩
      exact phase_of_stop hs hin hphase
    rw [dispatch_inactive hin]
    refine ⟨⟨hphase, fun hs _ => hen hs, nofun⟩, fun _ _ => Or.inr ⟨?_, ?_⟩⟩
    · rw [distance, distance, hp, distanceAt_inactive hin]
      rfl
    · rw [waits, waits, hp]
      exact (if_pos hin).symm
  · exact (h.dispatch_active hp hin hkeep).goes

theorem Inv.step (h : s.Inv) {i : Input B} (hkeep : s.Keeps i) (hstep : Sys.step s i = some t) :
    s.Goes t := by
  cases hp : s.pending with
  | none =>
    rw [step_of_none hp] at hstep
    exact h.receive_goes hp hkeep hstep
  | some event =>
    obtain ⟨a, rfl, rfl⟩ := step_of_some hp hstep
    exact h.dispatch_goes hp hkeep

/-! ## Runs -/

def Brings : Waits → Input B → Prop
  | .event, .dispatch _ => True
  | .scan, .immediateScanComplete _ _ => True
  | .answer, .connStatusCb connStatus => connStatus.isAnswer = true
  | _, _ => False

theorem Inv.brought (h : s.Inv) (hopen : isOpen s.log = true) {i : Input B} (hkeep : s.Keeps i)
    (hb : Brings s.waits i) (hstep : Sys.step s i = some t) : t.Nearer s.distance := by
  obtain ⟨-, hscan, hanswer⟩ := h.due hopen
  cases hp : s.pending with
  | some event =>
    obtain ⟨a, rfl, rfl⟩ := step_of_some hp hstep
    refine h.dispatch_active hp (fun hin => ?_) hkeep
    have hphase := h.phase
    rw [hp, phase_inactive hin] at hphase
    rw [waits, hp] at hb
    dsimp only at hb
    rw [if_pos hin] at hb
    obtain ⟨hs, -⟩ | ⟨hs, -⟩ := phase_open hphase hopen
    · rw [hs] at hb
      exact hb
    · rw [hs] at hb
      exact hb
  | none =>
    rw [step_of_none hp] at hstep
    cases hw : s.waits with
    | event =>
      rw [hw] at hb
      cases i with
      | dispatch a => cases hstep
      | _ => exact hb.elim
    | scan =>
      rw [hw] at hb
      cases i with
      | immediateScanComplete scanCmpltStatus channelValidity =>
        obtain ⟨-, ⟨⟩⟩ := Option.ite_none_right_eq_some.mp hstep
        exact h.scan_nearer hp (hscan hw).1 _ _
      | _ => exact hb.elim
    | answer =>
      rw [hw] at hb
      cases i with
      | connStatusCb connStatus =>
        obtain ⟨-, ⟨⟩⟩ := Option.ite_none_right_eq_some.mp hstep
        exact h.answer_nearer hp (hanswer hw).1 hkeep hb
      | _ => exact hb.elim

/-- What brings the state machine on, and what answers a scan and a request. -/
def Served (r : Run (Sys.step (B := B))) : Prop :=
  r.Serves (fun s => s.pending ≠ none) (Brings .event) ∧
    r.Serves (fun s => 0 < s.scans) (Brings .scan) ∧
    r.Serves (fun s => 0 < s.requests) (Brings .answer)

theorem Inv.closes {r : Run (Sys.step (B := B))} (hinv : ∀ k, (r.state k).Inv)
    (hkeep : ∀ k i, r.input k = some i → (r.state k).Keeps i) (hserved : Served r) {k : ℕ}
    (hopen : isOpen (r.state k).log = true) : ∃ j ≥ k, isOpen (r.state j).log = false := by
  obtain ⟨hevent, hscan, hanswer⟩ := hserved
  have hserves : ∀ c, r.Serves (fun s => (s.Inv ∧ isOpen s.log = true) ∧ s.waits = c)
      (Brings c) := by
    intro c
    cases c with
    | event => exact Run.Serves.mono r hevent fun _ hs => (hs.1.1.due hs.1.2).1 hs.2
    | scan => exact Run.Serves.mono r hscan fun _ hs => ((hs.1.1.due hs.1.2).2.1 hs.2).2
    | answer => exact Run.Serves.mono r hanswer fun _ hs => ((hs.1.1.due hs.1.2).2.2 hs.2).2
  obtain ⟨j, hj, hclosed⟩ := r.waiting_leads (P := fun s => s.Inv ∧ isOpen s.log = true)
    (A := Brings) (Q := fun k => isOpen (r.state (k + 1)).log = false) distance waits hserves
    (fun k hP hnot => by
      have hstill : isOpen (r.state (k + 1)).log = true := Bool.not_eq_false _ ▸ hnot
      refine ⟨⟨hinv (k + 1), hstill⟩, ?_⟩
      cases hi : r.input k with
      | none => exact Or.inr (by rw [r.rest hi]; exact ⟨rfl, rfl⟩)
      | some i => exact (hP.1.step (hkeep k i hi) (r.took hi)).steady hP.2 hstill)
    (fun k i hP hnot hi hb =>
      (hP.1.brought hP.2 (hkeep k i hi) hb (r.took hi)).less (Bool.not_eq_false _ ▸ hnot))
    ⟨hinv k, hopen⟩
  exact ⟨j + 1, Nat.le_succ_of_le hj, hclosed⟩

/-- **The process of a trigger.** With an empty slot the triggers are unmasked in `WAIT_4_TRIGGER`
and nowhere else, and neither `WAIT_4_CMD` nor `SELECTING` is left open. A process begins when
none is open and ends once, after at most four scans and one connect request more than it
selected candidates; and it does end where each scan and each request is answered. -/
theorem process_ends (r : Run (Sys.step (B := B))) {bssList : BssList B} {ap : BssEntry B}
    (hinit : r.state 0 = init bssList ap)
    (hkeep : ∀ k i, r.input k = some i → (r.state k).Keeps i) :
    (∀ k, (r.state k).pending = none →
      ((r.state k).maskRoamingEvents = false ↔ (r.state k).smState = .wait4Trigger) ∧
        (r.state k).smState ≠ .wait4Cmd ∧ (r.state k).smState ≠ .selecting) ∧
    (∀ k, Each InTurn (r.state k).log ∧ total Entry.scan (r.state k).log ≤ 4 ∧
      total Entry.request (r.state k).log ≤ total Entry.candidates (r.state k).log + 1) ∧
    (Served r → ∀ k, isOpen (r.state k).log = true →
      ∃ j ≥ k, isOpen (r.state j).log = false) := by
  have hinv : ∀ k, (r.state k).Inv := by
    intro k
    induction k with
    | zero =>
      rw [hinit]
      exact init_inv bssList ap
    | succ k ih =>
      cases hi : r.input k with
      | none =>
        rw [r.rest hi]
        exact ih
      | some i => exact (ih.step (hkeep k i hi) (r.took hi)).inv
  refine ⟨fun k hnone => (hinv k).unmasked_iff hnone, fun k => ?_, fun hserved k hopen => ?_⟩
  · have hbase := phase_base (hinv k).phase
    exact ⟨hbase.inTurn, hbase.scans, hbase.requests⟩
  · exact Inv.closes hinv hkeep hserved hopen

/-! ## Sample runs -/

def homeAp : BssEntry ℕ := ⟨0, .band24GHz, -80, false⟩

def foundAp : BssEntry ℕ := ⟨1, .band24GHz, -50, false⟩

def emptyList : BssList ℕ :=
  ⟨0, fun _ => homeAp, Nat.zero_le _, fun _ h => absurd h (Nat.not_lt_zero _)⟩

/-- Scans run and requests are answered later. -/
def later : Answers ℕ :=
  ⟨fun _ => true, .scanRunning, none, fun _ => false, fun _ => false, none, homeAp⟩

/-- The connection is lost, a scan finds an AP, and the handover succeeds. -/
def roamToFound : List (Input ℕ) :=
  [.setParam true 0 (-70) true, .dispatch later, .triggerRoamingCb .bssLoss 0, .dispatch later,
    .dispatch later, .insertNewBSS foundAp, .immediateScanComplete .scanCompleteOk fun _ => true,
    .dispatch later, .dispatch later, .connStatusCb .handoverSuccess, .dispatch later]

/-- The process of the trigger is open after it, and ends. -/
theorem process_ends_roamToFound : ∃ r : Run (Sys.step (B := ℕ)),
    r.state 0 = init emptyList homeAp ∧ isOpen (r.state 3).log = true ∧
      (∀ k, total Entry.request (r.state k).log ≤ total Entry.candidates (r.state k).log + 1) ∧
      ∃ j ≥ 3, isOpen (r.state j).log = false := by
  have hkeep : Along Sys.step Keeps (init emptyList homeAp) roamToFound := by
    refine ⟨trivial, fun _ h => ?_⟩
    cases h
    refine ⟨nofun, fun _ h => ?_⟩
    cases h
    refine ⟨trivial, fun _ h => ?_⟩
    cases h
    refine ⟨nofun, fun _ h => ?_⟩
    cases h
    refine ⟨nofun, fun _ h => ?_⟩
    cases h
    refine ⟨trivial, fun _ h => ?_⟩
    cases h
    refine ⟨trivial, fun _ h => ?_⟩
    cases h
    refine ⟨nofun, fun _ h => ?_⟩
    cases h
    refine ⟨nofun, fun _ h => ?_⟩
    cases h
    refine ⟨nofun, fun _ h => ?_⟩
    cases h
    exact ⟨nofun, fun _ _ => trivial⟩
  obtain ⟨-, hlog, hends⟩ := process_ends (Run.ofExec Sys.step (init emptyList homeAp) roamToFound rfl)
    rfl (Run.ofExec_along rfl hkeep)
  refine ⟨_, rfl, rfl, fun k => (hlog k).2.2, hends ⟨?_, ?_, ?_⟩ 3 rfl⟩
  · exact Run.ofExec_serves rfl fun h => h rfl
  · exact Run.ofExec_serves rfl (Nat.lt_irrefl 0)
  · exact Run.ofExec_serves rfl (Nat.lt_irrefl 0)

/-- A trigger of low quality, and a scan that finds nothing: the current AP is to be retained. -/
def findNothing : List (Input ℕ) :=
  [.setParam true 0 (-70) true, .dispatch later, .triggerRoamingCb .lowQuality 1, .dispatch later,
    .dispatch later, .immediateScanComplete .scanCompleteOk fun _ => true, .dispatch later,
    .dispatch later]

/-- The request is answered with a failure, and the next event is executed. -/
def refuse : List (Input ℕ) := [.connStatusCb .handoverFailure, .dispatch later]

/-- The `n`-th request to retain the current AP waits for its answer. -/
structure Retrying (n : ℕ) (s : Sys ℕ) : Prop where
  smState : s.smState = .connecting
  pending : s.pending = none
  enabled : s.enableDisable = true
  trigger : s.roamingTrigger = .lowQuality
  candidates : s.listOfCandidateAps = ⟨[], [], []⟩
  performed : s.handoverWasPerformed = false
  requests : s.requests = 1
  opened : isOpen s.log = true
  selected : total Entry.candidates s.log = 0
  requested : total Entry.request s.log = n

theorem Retrying.refuse {n : ℕ} {s : Sys ℕ} (h : Retrying n s) :
    ∃ t, exec Sys.step s refuse = some t ∧ Retrying (n + 1) t := by
  obtain ⟨smState, pending, enableDisable, apQualityThreshold, lowPass, roamingTrigger, mask, stamp,
    scanType, pListOfAPs, neighborApsExist, l, candidateApIndex, performed, bssList, currentAp,
    apToConnect, scans, requests, log⟩ := s
  obtain ⟨hs, hp, hen, htrigger, hl, hperf, hreq, hopen, hsel, hn⟩ := h
  subst hs hp hen htrigger hl hperf hreq
  refine ⟨_, rfl, rfl, rfl, rfl, rfl, rfl, rfl, rfl, ?_, ?_, ?_⟩
  · show isOpen (log ++ [.connectToAP .retainCurrAp currentAp.BSSID]) = true
    simpa [Entry.openAfter] using hopen
  · show total Entry.candidates (log ++ [.connectToAP .retainCurrAp currentAp.BSSID]) = 0
    rw [total_snoc _ _ rfl, hsel]
    rfl
  · show total Entry.request (log ++ [.connectToAP .retainCurrAp currentAp.BSSID]) = n + 1
    rw [total_snoc _ _ rfl, hn]
    rfl

/-- A retained connection that is refused is retried without end: one trigger, no candidates, each
request answered with one failure, and as many requests as one likes. -/
theorem retain_retried (n : ℕ) : ∃ t,
    exec Sys.step (init emptyList homeAp) (findNothing ++ (List.replicate n refuse).flatten) =
      some t ∧ Retrying (n + 1) t := by
  induction n with
  | zero => exact ⟨_, rfl, rfl, rfl, rfl, rfl, rfl, rfl, rfl, rfl, rfl, rfl⟩
  | succ n ih =>
    obtain ⟨s, hs, hr⟩ := ih
    obtain ⟨t, ht, hr'⟩ := hr.refuse
    refine ⟨t, ?_, hr'⟩
    rw [List.replicate_succ', List.flatten_append, ← List.append_assoc]
    refine exec_append.mpr ⟨s, hs, ?_⟩
    rwa [List.flatten_singleton]

/-- The candidates of a trigger do not bound its connect requests when a request to retain the
current AP may fail. -/
theorem requests_unbounded : ¬ ∃ bound : ℕ → ℕ, ∀ is t,
    exec Sys.step (init emptyList homeAp) is = some t →
      total Entry.request t.log ≤ bound (total Entry.candidates t.log) := by
  rintro ⟨bound, hbound⟩
  obtain ⟨t, ht, hr⟩ := retain_retried (bound 0)
  have hle := hbound _ t ht
  rw [hr.selected, hr.requested] at hle
  exact Nat.not_succ_le_self _ hle

end Sys

end ArchosGpl.Wlan.RoamingMngr
