import ArchosGpl.Wlan.QosMngr.Model

/-!
# The admission handshake of a category

`Phase` is a category's request from outside: an ADDTS request with its token, the answer to the
caller, and one outcome. `Proper` says that the log is a run of it for each category, that a
category's request is outstanding exactly while its candidate waits and its state machine is in
`WAIT`, with the timer running, and that a response touches only the category of its TSPEC, and
only if that waits with its token.

The state machine enters `WAIT` before its action can fail. **`handshake_iff`**: every state of a
run is proper exactly if the frame of every request that passes the checks can be made.
-/

open Function (update update_eq_self update_idem update_of_ne update_self)

namespace ArchosGpl.Wlan.QosMngr

open Lib

/-! ## A request from outside -/

def Report.isOutcome : Report → Bool
  | .accepted | .invalid | .rejected | .timeout => true
  | .unexpected | .deletedByAp => false

/-- How far the request of a category has come. -/
inductive Phase
  | idle
  | sent (dialogToken : ℕ)
  | waiting (dialogToken : ℕ)
  deriving DecidableEq

/-- What an event makes of the request of a category; `none` for an event that is out of order. -/
def Phase.step (ac : EAcTrfcType) (phase : Phase) : Event → Option Phase
  | .addtsRequest ac' dialogToken =>
    if ac' = ac then if phase = .idle then some (.sent dialogToken) else none else some phase
  | .requestAnswer userPriority status =>
    if wmeQosTagToAcTable userPriority = ac then
      match phase, status with
      | .sent dialogToken, .ok => some (.waiting dialogToken)
      | .sent _, _ => none
      | .idle, .ok | .waiting _, .ok => none
      | phase, _ => some phase
    else some phase
  | .tspecStatus ac' report _ _ =>
    if ac' = ac ∧ report.isOutcome = true then
      match phase with
      | .waiting _ => some .idle
      | _ => none
    else some phase
  | .deleteAnswer _ _ => some phase
  | .disconnected => some .idle

namespace Sys

variable {s t : Sys} {ac : EAcTrfcType} {info : TspecInfo}

/-- The request of a category that the log leads to. -/
def LogAt (s : Sys) (ac : EAcTrfcType) (phase : Phase) : Prop :=
  exec (Phase.step ac) .idle s.log = some phase

structure SameCategory (s t : Sys) (ac : EAcTrfcType) : Prop where
  candidate : t.candidateTspecInfo ac = s.candidateTspecInfo ac
  currentState : t.currentState ac = s.currentState ac
  timer : t.timer ac = s.timer ac
  dialogToken : t.dialogToken ac = s.dialogToken ac

/-- **The state is proper.** -/
structure Proper (s : Sys) : Prop where
  /-- A candidate waits exactly if its state machine does, and then the timer runs. -/
  waits : ∀ ac, (s.candidateTspecInfo ac).trafficAdmState = .waitAdmission ↔
    s.currentState ac = .wait
  timer : ∀ ac, s.currentState ac = .wait → s.timer ac = true
  /-- A request that was answered `TI_OK` is outstanding until its one outcome. -/
  log : ∀ ac, ∃ phase, s.LogAt ac phase ∧
    (s.currentState ac = .wait ↔ ∃ dialogToken, phase = .waiting dialogToken)
  /-- The timer brings the outcome if nothing else does. -/
  outcome : ∀ ac, s.currentState ac = .wait →
    ∃ t, step s (.timeout ac) = some t ∧ t.LogAt ac .idle
  response : ∀ dialogToken statusCode ie t,
    step s (.addtsResponse dialogToken statusCode ie) = some t → ∀ ac,
      t.currentTspecInfo ac = s.currentTspecInfo ac ∧ SameCategory s t ac ∨
        ac = (parseTspecIe ie statusCode).ac ∧ s.LogAt ac (.waiting dialogToken)

/-- **The condition under which a step keeps the state proper**: the frame of a request that passes
the checks can be made. -/
def Regular (s : Sys) : Input → Prop
  | .requestAdmission params frame => s.checkRequest params = .ok → frame = true
  | _ => True

instance (i : Input) : Decidable (s.Regular i) := by
  cases i <;> simp only [Regular] <;> infer_instance

/-- The inputs of the handshake; the rest are those of a renegotiation during a reassociation. -/
def Input.IsHandshake : Input → Bool
  | .keepTspecs | .setRenegotiation _ _ | .buildTspec _ => false
  | _ => true

/-- The request of a category, from its state. -/
def phase (s : Sys) (ac : EAcTrfcType) : Phase :=
  if s.currentState ac = .wait then .waiting (s.dialogToken ac) else .idle

/-- **The invariant.** -/
structure Inv (s : Sys) : Prop where
  waits : ∀ ac, (s.candidateTspecInfo ac).trafficAdmState = .waitAdmission ↔
    s.currentState ac = .wait
  timer : ∀ ac, s.timer ac = true ↔ s.currentState ac = .wait
  log : ∀ ac, s.LogAt ac (s.phase ac)
  renegotiation : s.performTspecRenegotiation = false

/-! ## Steps of one category -/

/-- A step of one category: the others see nothing of it. -/
structure StepOf (s t : Sys) (ac : EAcTrfcType) (events : List Event) : Prop where
  others : ∀ other, other ≠ ac → SameCategory s t other
  log : t.log = s.log ++ events
  foreign : ∀ e ∈ events, ∀ other, other ≠ ac → ∀ phase, Phase.step other phase e = some phase
  renegotiation : t.performTspecRenegotiation = s.performTspecRenegotiation

variable {events : List Event}

theorem exec_foreign {phase : Phase} (h : ∀ e ∈ events, Phase.step ac phase e = some phase) :
    exec (Phase.step ac) phase events = some phase := by
  induction events with
  | nil => rfl
  | cons e events ih =>
    obtain ⟨he, hrest⟩ := List.forall_mem_cons.mp h
    exact exec_cons.mpr ⟨phase, he, ih hrest⟩

theorem SameCategory.phase_eq (h : SameCategory s t ac) : t.phase ac = s.phase ac := by
  rw [phase, phase, h.currentState, h.dialogToken]

/-- **A step of one category keeps the invariant if that category does.** -/
theorem Inv.stepOf (hs : s.Inv) (h : StepOf s t ac events)
    (hwaits : (t.candidateTspecInfo ac).trafficAdmState = .waitAdmission ↔
      t.currentState ac = .wait)
    (htimer : t.timer ac = true ↔ t.currentState ac = .wait)
    (hlog : exec (Phase.step ac) (s.phase ac) events = some (t.phase ac)) : t.Inv := by
  refine ⟨fun other => ?_, fun other => ?_, fun other => ?_, h.renegotiation.trans hs.renegotiation⟩
  · by_cases hother : other = ac
    · exact hother ▸ hwaits
    · rw [(h.others other hother).candidate, (h.others other hother).currentState]
      exact hs.waits other
  · by_cases hother : other = ac
    · exact hother ▸ htimer
    · rw [(h.others other hother).timer, (h.others other hother).currentState]
      exact hs.timer other
  · rw [LogAt, h.log]
    refine exec_append.mpr ⟨s.phase other, hs.log other, ?_⟩
    by_cases hother : other = ac
    · exact hother ▸ hlog
    · rw [(h.others other hother).phase_eq]
      exact exec_foreign fun e he => h.foreign e he other hother _

theorem Inv.same (hs : s.Inv) (hsame : ∀ ac, SameCategory s t ac) (hlog : t.log = s.log ++ events)
    (hforeign : ∀ e ∈ events, ∀ ac, Phase.step ac (s.phase ac) e = some (s.phase ac))
    (hreneg : t.performTspecRenegotiation = s.performTspecRenegotiation) : t.Inv := by
  refine ⟨fun ac => ?_, fun ac => ?_, fun ac => ?_, hreneg.trans hs.renegotiation⟩
  · rw [(hsame ac).candidate, (hsame ac).currentState]
    exact hs.waits ac
  · rw [(hsame ac).timer, (hsame ac).currentState]
    exact hs.timer ac
  · rw [LogAt, hlog, (hsame ac).phase_eq]
    exact exec_append.mpr ⟨s.phase ac, hs.log ac, exec_foreign fun e he => hforeign e he ac⟩

/-! ## Outcomes -/

/-- The outcome of a waiting category is reported. -/
structure Settles (s t : Sys) (ac : EAcTrfcType) : Prop where
  step : ∃ report params uReasonCode, report.isOutcome = true ∧
    StepOf s t ac [.tspecStatus ac report params uReasonCode]
  candidate : (t.candidateTspecInfo ac).trafficAdmState ≠ .waitAdmission
  currentState : t.currentState ac = s.currentState ac
  timer : t.timer ac = s.timer ac
  current : ∀ other, other ≠ ac → t.currentTspecInfo other = s.currentTspecInfo other

variable {params : TspecParams}

theorem Settles.of_report {report : Report} {uReasonCode : ℕ} (hreport : report.isOutcome = true)
    (hcandidate : t.candidateTspecInfo = update s.candidateTspecInfo ac
      { s.candidateTspecInfo ac with trafficAdmState := .notAdmitted })
    (hcurrent : ∀ other, other ≠ ac → t.currentTspecInfo other = s.currentTspecInfo other)
    (hstate : t.currentState = s.currentState) (htimer : t.timer = s.timer)
    (htoken : t.dialogToken = s.dialogToken)
    (hlog : t.log = s.log ++ [.tspecStatus ac report params uReasonCode])
    (hreneg : t.performTspecRenegotiation = s.performTspecRenegotiation) : Settles s t ac := by
  refine ⟨⟨report, params, uReasonCode, hreport, fun other hother => ?_, hlog, ?_, hreneg⟩, ?_,
    congrFun hstate ac, congrFun htimer ac, hcurrent⟩
  · refine ⟨?_, congrFun hstate other, congrFun htimer other, congrFun htoken other⟩
    rw [hcandidate, update_of_ne hother]
  · intro e he other hother phase
    obtain rfl := List.mem_singleton.mp he
    exact if_neg fun h => hother h.1.symm
  · rw [hcandidate, update_self]
    exact fun h => nomatch h

theorem settles_setAdmissionInfo (info : TspecInfo) (status : RequestStatus)
    (hwait : (s.candidateTspecInfo ac).trafficAdmState = .waitAdmission) :
    Settles s (s.setAdmissionInfo ac info status) ac := by
  unfold setAdmissionInfo
  simp only [hwait, ne_eq, not_true_eq_false, if_false]
  cases status with
  | accept =>
    unfold setAccepted
    simp only
    split
    · refine .of_report rfl rfl (fun other hother => ?_) rfl rfl rfl rfl rfl
      exact update_of_ne hother _ _
    · exact .of_report rfl rfl (fun _ _ => rfl) rfl rfl rfl rfl rfl
  | reject | timeout => exact .of_report rfl rfl (fun _ _ => rfl) rfl rfl rfl rfl rfl

def SmEvent.isOutcome : SmEvent → Bool
  | .accept _ | .reject _ | .timeout _ => true
  | .start _ | .stop => false

/-- A category leaves `WAIT`. -/
def leaveWait (s : Sys) (ac : EAcTrfcType) : Sys :=
  { s.setTimer ac false with currentState := update s.currentState ac .idle }

/-- The request of a category is over: its outcome is reported. -/
structure Settled (s t : Sys) (ac : EAcTrfcType) : Prop where
  step : ∃ report params uReasonCode, report.isOutcome = true ∧
    StepOf s t ac [.tspecStatus ac report params uReasonCode]
  candidate : (t.candidateTspecInfo ac).trafficAdmState ≠ .waitAdmission
  currentState : t.currentState ac = .idle
  timer : t.timer ac = false
  current : ∀ other, other ≠ ac → t.currentTspecInfo other = s.currentTspecInfo other

theorem Settles.settled (h : Settles (s.leaveWait ac) t ac) : Settled s t ac := by
  obtain ⟨report, params, uReasonCode, hreport, hstep⟩ := h.step
  refine ⟨⟨report, params, uReasonCode, hreport, fun other hother => ?_, hstep.log, hstep.foreign,
    hstep.renegotiation⟩, h.candidate, ?_, ?_, h.current⟩
  · have hsame := hstep.others other hother
    refine ⟨hsame.candidate, hsame.currentState.trans ?_, hsame.timer.trans ?_, hsame.dialogToken⟩
    · exact update_of_ne hother _ _
    · exact update_of_ne hother _ _
  · exact h.currentState.trans (update_self _ _ _)
  · exact h.timer.trans (update_self _ _ _)

/-- **An outcome in `WAIT` settles the request of the category.** -/
theorem settled_smEvent {e : SmEvent} (hs : s.Inv) (hstate : s.currentState ac = .wait)
    (he : e.isOutcome = true) : Settled s ((s.setTimer ac false).smEvent ac e).1 ac := by
  have hwait := (hs.waits ac).mpr hstate
  have hstate' : (s.setTimer ac false).currentState ac = .wait := hstate
  unfold smEvent
  rw [hstate']
  cases e with
  | start | stop => cases he
  | accept info => exact (settles_setAdmissionInfo (s := s.leaveWait ac) info .accept hwait).settled
  | reject info => exact (settles_setAdmissionInfo (s := s.leaveWait ac) info .reject hwait).settled
  | timeout info => exact (settles_setAdmissionInfo (s := s.leaveWait ac) info .timeout hwait).settled

theorem Inv.settled (hs : s.Inv) (hstate : s.currentState ac = .wait) (h : Settled s t ac) :
    t.Inv := by
  obtain ⟨report, params, uReasonCode, hreport, hstep⟩ := h.step
  have hphase : s.phase ac = .waiting (s.dialogToken ac) := if_pos hstate
  have hphase' : t.phase ac = .idle := if_neg (by simp [h.currentState])
  refine hs.stepOf hstep ?_ ?_ ?_
  · exact iff_of_false h.candidate (by simp [h.currentState])
  · exact iff_of_false (by simp [h.timer]) (by simp [h.currentState])
  · rw [hphase, hphase']
    refine exec_cons.mpr ⟨.idle, ?_, rfl⟩
    exact if_pos ⟨rfl, hreport⟩

/-! ## Responses -/

theorem inv_unexpected (hs : s.Inv) : (s.sendUnexpectedTspecResponseEvent info).Inv := by
  refine hs.same (fun _ => ⟨rfl, rfl, rfl, rfl⟩) rfl (fun e he ac => ?_) rfl
  obtain rfl := List.mem_singleton.mp he
  exact if_neg fun h => nomatch h.2

theorem setTimer_of_idle (hs : s.Inv) (hstate : s.currentState ac = .idle) :
    s.setTimer ac false = s := by
  have htimer : s.timer ac = false := by
    rw [← Bool.not_eq_true, hs.timer ac, hstate]
    exact fun h => nomatch h
  unfold setTimer
  rw [← htimer, update_eq_self]

theorem smEvent_of_idle {e : SmEvent} (he : e = .accept info ∨ e = .reject info)
    (hstate : s.currentState ac = .idle) :
    (s.smEvent ac e).1 = s.sendUnexpectedTspecResponseEvent info := by
  have hsame : update s.currentState ac .idle = s.currentState := by
    rw [← hstate, update_eq_self]
  unfold smEvent
  rw [hstate]
  obtain rfl | rfl := he <;> simp only [nextState, hsame, act]

/-- **What a response does**: it settles the request of the category of its TSPEC, if that waits
with its token, or no category notices. -/
theorem receiveAddtsResponse_cases (hs : s.Inv) (dialogToken statusCode : ℕ) (ie : TspecIe) :
    (s.currentState (parseTspecIe ie statusCode).ac = .wait ∧
      s.dialogToken (parseTspecIe ie statusCode).ac = dialogToken ∧
      Settled s (s.receiveAddtsResponse dialogToken statusCode ie) (parseTspecIe ie statusCode).ac) ∨
    s.receiveAddtsResponse dialogToken statusCode ie = s ∨
      s.receiveAddtsResponse dialogToken statusCode ie =
        s.sendUnexpectedTspecResponseEvent (parseTspecIe ie statusCode) := by
  unfold receiveAddtsResponse trafficAdmCtrlRecv
  generalize parseTspecIe ie statusCode = info
  by_cases htakes : s.takesActionFrames = true
  · rw [if_pos htakes]
    by_cases hnone : ∀ ac ∈ acs, s.dialogToken ac ≠ dialogToken
    · rw [if_pos hnone]
      exact .inr (.inr rfl)
    rw [if_neg hnone]
    by_cases htoken : s.dialogToken info.ac = dialogToken
    · rw [if_neg (not_not_intro htoken)]
      cases hstate : s.currentState info.ac with
      | idle =>
        rw [setTimer_of_idle hs hstate, smEvent_of_idle (.inl rfl) hstate,
          smEvent_of_idle (.inr rfl) hstate]
        exact .inr (.inr (ite_self _))
      | wait =>
        refine .inl ⟨rfl, htoken, ?_⟩
        split <;> exact settled_smEvent hs hstate rfl
    · rw [if_pos htoken]
      exact .inr (.inr rfl)
  · rw [if_neg htakes]
    exact .inr (.inl rfl)

/-! ## Requests -/

theorem inv_refused {userPriority : ℕ} {status : Status} (hs : s.Inv) (h : status ≠ .ok) :
    (s.tell (.requestAnswer userPriority status)).Inv := by
  refine hs.same (fun _ => ⟨rfl, rfl, rfl, rfl⟩) rfl (fun e he ac => ?_) rfl
  obtain rfl := List.mem_singleton.mp he
  have hphase : s.phase ac = .idle ∨ ∃ token, s.phase ac = .waiting token := by
    unfold phase
    split
    · exact .inr ⟨_, rfl⟩
    · exact .inl rfl
  simp only [Phase.step]
  split
  · obtain hphase | ⟨token, hphase⟩ := hphase <;> rw [hphase] <;>
      cases status <;> first | rfl | exact absurd rfl h
  · rfl

theorem not_waiting_of_checkRequest (h : s.checkRequest params = .ok) :
    (s.candidateTspecInfo (wmeQosTagToAcTable params.uUserPriority)).trafficAdmState ≠
      .waitAdmission := by
  intro hwait
  unfold checkRequest at h
  simp only [hwait, if_true] at h
  split at h
  · cases h
  split at h
  · cases h
  split at h
  · cases h
  split at h <;> cases h

theorem Inv.idle_of_checkRequest (hs : s.Inv) (h : s.checkRequest params = .ok) :
    s.currentState (wmeQosTagToAcTable params.uUserPriority) = .idle := by
  cases hstate : s.currentState (wmeQosTagToAcTable params.uUserPriority) with
  | idle => rfl
  | wait => exact absurd ((hs.waits _).mpr hstate) (not_waiting_of_checkRequest h)

theorem requestAdmission_of_ok (frame : Bool) (h : s.checkRequest params = .ok)
    (hstate : s.currentState (wmeQosTagToAcTable params.uUserPriority) = .idle) :
    ∃ info : TspecInfo, (info.trafficAdmState = .waitAdmission ↔ frame = true) ∧
      (s.requestAdmission params frame).candidateTspecInfo =
        update s.candidateTspecInfo (wmeQosTagToAcTable params.uUserPriority) info ∧
      (s.requestAdmission params frame).currentState =
        update s.currentState (wmeQosTagToAcTable params.uUserPriority) .wait ∧
      (frame = true →
        (s.requestAdmission params frame).timer =
          update s.timer (wmeQosTagToAcTable params.uUserPriority) true ∧
        (s.requestAdmission params frame).dialogToken =
          update s.dialogToken (wmeQosTagToAcTable params.uUserPriority)
            s.dialogTokenCounter ∧
        (s.requestAdmission params frame).log = s.log ++
          [.addtsRequest (wmeQosTagToAcTable params.uUserPriority) s.dialogTokenCounter,
            .requestAnswer params.uUserPriority .ok] ∧
        (s.requestAdmission params frame).performTspecRenegotiation =
          s.performTspecRenegotiation) := by
  unfold requestAdmission
  simp only [h, ne_eq, not_true_eq_false, if_false]
  unfold smEvent
  simp only [setCandidate, hstate]
  cases frame with
  | true =>
    refine ⟨_, ?_, update_idem _ _ _, rfl, fun _ => ⟨rfl, rfl, ?_, rfl⟩⟩
    · exact iff_of_true rfl rfl
    · exact List.append_assoc _ _ _
  | false =>
    refine ⟨_, ?_, update_idem _ _ _, rfl, fun hframe => nomatch hframe⟩
    exact iff_of_false (fun hwait => nomatch hwait) (fun hframe => nomatch hframe)

theorem inv_requested (hs : s.Inv) (h : s.checkRequest params = .ok) :
    (s.requestAdmission params true).Inv := by
  have hstate := hs.idle_of_checkRequest h
  have hphase : s.phase (wmeQosTagToAcTable params.uUserPriority) = .idle := by
    rw [phase, hstate]
    rfl
  obtain ⟨info, hinfo, hcandidate, hcurrent, hmade⟩ := requestAdmission_of_ok true h hstate
  obtain ⟨htimer, htoken, hlog, hreneg⟩ := hmade rfl
  have hstep : StepOf s (s.requestAdmission params true)
      (wmeQosTagToAcTable params.uUserPriority)
      [.addtsRequest (wmeQosTagToAcTable params.uUserPriority) s.dialogTokenCounter,
        .requestAnswer params.uUserPriority .ok] := by
    refine ⟨fun other hother => ⟨?_, ?_, ?_, ?_⟩, hlog, ?_, hreneg⟩
    · rw [hcandidate, update_of_ne hother]
    · rw [hcurrent, update_of_ne hother]
    · rw [htimer, update_of_ne hother]
    · rw [htoken, update_of_ne hother]
    · rw [List.forall_mem_cons, List.forall_mem_singleton]
      exact ⟨fun other hother phase => if_neg hother.symm,
        fun other hother phase => if_neg hother.symm⟩
  refine hs.stepOf hstep ?_ ?_ ?_
  · rw [hcandidate, hcurrent, update_self, update_self]
    exact iff_of_true (hinfo.mpr rfl) rfl
  · rw [htimer, hcurrent, update_self, update_self]
    exact iff_of_true rfl rfl
  · rw [hphase, phase, hcurrent, htoken, update_self, update_self]
    simp [exec, Phase.step]

theorem not_proper_of_failed (hs : s.Inv)
    (h : s.checkRequest params = .ok) : ¬ (s.requestAdmission params false).Proper := by
  intro hp
  have hstate := hs.idle_of_checkRequest h
  obtain ⟨info, hinfo, hcandidate, hcurrent, -⟩ := requestAdmission_of_ok false h hstate
  have hwait := (hp.waits (wmeQosTagToAcTable params.uUserPriority)).mpr
    (by rw [hcurrent, update_self])
  rw [hcandidate, update_self] at hwait
  exact nomatch hinfo.mp hwait

/-! ## The other steps -/

theorem inv_deleteAdmission (hs : s.Inv) (userPriority : ℕ) :
    (s.deleteAdmission userPriority).Inv := by
  have hevents : ∀ e ∈ [Event.deleteAnswer userPriority (s.checkDelete userPriority)],
      ∀ ac, Phase.step ac (s.phase ac) e = some (s.phase ac) := by
    rintro e he ac
    obtain rfl := List.mem_singleton.mp he
    rfl
  unfold deleteAdmission
  simp only
  split <;> exact hs.same (fun _ => ⟨rfl, rfl, rfl, rfl⟩) rfl hevents rfl

theorem inv_receiveDelts (hs : s.Inv) (userPriority : ℕ) : (s.receiveDelts userPriority).Inv := by
  unfold receiveDelts
  simp only
  split
  · refine hs.same (fun _ => ⟨rfl, rfl, rfl, rfl⟩) rfl (fun e he ac => ?_) rfl
    obtain rfl := List.mem_singleton.mp he
    exact if_neg fun h => nomatch h.2
  · exact hs

theorem inv_receiveAddtsResponse (hs : s.Inv) (dialogToken statusCode : ℕ) (ie : TspecIe) :
    (s.receiveAddtsResponse dialogToken statusCode ie).Inv := by
  obtain ⟨hstate, -, h⟩ | h | h := receiveAddtsResponse_cases hs dialogToken statusCode ie
  · exact hs.settled hstate h
  · rw [h]
    exact hs
  · rw [h]
    exact inv_unexpected hs

theorem Inv.unnoticed (hs : s.Inv) (hcandidate : t.candidateTspecInfo = s.candidateTspecInfo)
    (hstate : t.currentState = s.currentState) (htimer : t.timer = s.timer)
    (htoken : t.dialogToken = s.dialogToken) (hlog : t.log = s.log)
    (hreneg : t.performTspecRenegotiation = s.performTspecRenegotiation) : t.Inv := by
  have hlog' : t.log = s.log ++ [] := by rw [hlog, List.append_nil]
  refine hs.same (fun ac => ?_) hlog' (fun e he => absurd he (List.not_mem_nil)) hreneg
  exact ⟨congrFun hcandidate ac, congrFun hstate ac, congrFun htimer ac, congrFun htoken ac⟩

theorem inv_setSite (hs : s.Inv) (required : Option (EAcTrfcType → Bool))
    (voice signal : Option TspecIe) : (s.setSite required voice signal).Inv := by
  have hcheck : ∀ t : Sys, t.Inv → (t.checkTspecRenegResults voice signal).Inv := by
    intro t ht
    unfold checkTspecRenegResults
    rw [if_pos ht.renegotiation]
    exact ht
  unfold setSite
  split
  · cases required with
    | none | some required => exact hcheck _ (hs.unnoticed rfl rfl rfl rfl rfl rfl)
  · exact hcheck _ hs

/-- The timers that run are those of the categories in `WAIT`. -/
def TimersMatch (s : Sys) : Prop := ∀ ac, s.timer ac = true ↔ s.currentState ac = .wait

/-- The categories of a list are in `IDLE`, and nothing else has changed but their timers. -/
structure Stopped (s t : Sys) (acs : List EAcTrfcType) : Prop where
  idle : ∀ ac ∈ acs, t.currentState ac = .idle
  kept : ∀ ac, s.currentState ac = .idle → t.currentState ac = .idle
  timers : t.TimersMatch
  candidate : t.candidateTspecInfo = s.candidateTspecInfo
  log : t.log = s.log
  renegotiation : t.performTspecRenegotiation = s.performTspecRenegotiation

theorem stopped_smEvent (h : s.TimersMatch) (ac : EAcTrfcType) :
    Stopped s (s.smEvent ac .stop).1 [ac] := by
  have hkept : ∀ other, s.currentState other = .idle →
      update s.currentState ac .idle other = .idle := by
    intro other hother
    by_cases hac : other = ac
    · rw [hac, update_self]
    · rw [update_of_ne hac, hother]
  unfold smEvent
  cases hstate : s.currentState ac with
  | idle =>
    refine ⟨?_, hkept, fun other => ?_, rfl, rfl, rfl⟩
    · exact List.forall_mem_singleton.mpr (update_self _ _ _)
    · simp only [act, nextState, ← hstate, update_eq_self]
      exact h other
  | wait =>
    refine ⟨?_, hkept, fun other => ?_, rfl, rfl, rfl⟩
    · exact List.forall_mem_singleton.mpr (update_self _ _ _)
    · simp only [act, nextState, setTimer]
      by_cases hac : other = ac
      · simp [hac]
      · rw [update_of_ne hac, update_of_ne hac]
        exact h other

theorem stopped_foldl (h : s.TimersMatch) (acs : List EAcTrfcType) :
    Stopped s (acs.foldl (fun s ac => (s.smEvent ac .stop).1) s) acs := by
  induction acs generalizing s with
  | nil => exact ⟨fun _ h => absurd h (by simp), fun _ h => h, h, rfl, rfl, rfl⟩
  | cons ac acs ih =>
    have hfirst := stopped_smEvent h ac
    have hrest := ih hfirst.timers
    refine ⟨?_, fun other hother => hrest.kept other (hfirst.kept other hother), hrest.timers,
      hrest.candidate.trans hfirst.candidate, hrest.log.trans hfirst.log,
      hrest.renegotiation.trans hfirst.renegotiation⟩
    rw [List.forall_mem_cons]
    exact ⟨hrest.kept ac (hfirst.idle ac (List.mem_singleton_self ac)), hrest.idle⟩

theorem inv_disconnect (hs : s.Inv) : s.disconnect.Inv := by
  have hstopped := stopped_foldl
    (s := ({ s with activeProtocol := .none } : Sys).resetAdmCtrlParameters) hs.timer acs
  have hidle : ∀ ac, s.disconnect.currentState ac = .idle := fun ac =>
    hstopped.idle ac (by cases ac <;> decide)
  have hcandidate : ∀ ac, (s.disconnect.candidateTspecInfo ac).trafficAdmState = .notAdmitted :=
    fun ac => congrArg TspecInfo.trafficAdmState (congrFun hstopped.candidate ac)
  have hlog : s.disconnect.log = s.log ++ [.disconnected] :=
    congrArg (· ++ [Event.disconnected]) hstopped.log
  refine ⟨fun ac => ?_, hstopped.timers, fun ac => ?_, hstopped.renegotiation.trans hs.renegotiation⟩
  · rw [hcandidate, hidle]
    exact iff_of_false (fun h => nomatch h) (fun h => nomatch h)
  · rw [LogAt, hlog, phase, hidle]
    exact exec_snoc.mpr ⟨s.phase ac, hs.log ac, rfl⟩

theorem inv_timeout (hs : s.Inv) (h : s.timer ac = true) : (s.timeoutAc ac).Inv :=
  hs.settled ((hs.timer ac).mp h) (settled_smEvent hs ((hs.timer ac).mp h) rfl)

/-! ## Runs -/

theorem Inv.step {i : Input} (hs : s.Inv) (hinput : i.IsHandshake = true) (hi : s.Regular i)
    (h : s.step i = some t) : t.Inv := by
  cases i with
  | keepTspecs | setRenegotiation | buildTspec => cases hinput
  | selectActiveProtocol | connect =>
    cases h
    exact hs.unnoticed rfl rfl rfl rfl rfl rfl
  | updateIeInfo required =>
    cases h
    unfold updateIeInfo
    split
    · exact hs.unnoticed rfl rfl rfl rfl rfl rfl
    · exact hs
  | setSite required voice signal =>
    cases h
    exact inv_setSite hs required voice signal
  | checkTspecRenegResults voice signal =>
    cases h
    unfold checkTspecRenegResults
    rw [if_pos hs.renegotiation]
    exact hs
  | disconnect =>
    cases h
    exact inv_disconnect hs
  | requestAdmission params frame =>
    cases h
    by_cases hok : s.checkRequest params = .ok
    · obtain rfl := hi hok
      exact inv_requested hs hok
    · unfold requestAdmission
      simp only [hok, ne_eq, not_false_eq_true, if_true]
      exact inv_refused hs hok
  | deleteAdmission userPriority =>
    cases h
    exact inv_deleteAdmission hs userPriority
  | addtsResponse dialogToken statusCode ie =>
    cases h
    exact inv_receiveAddtsResponse hs dialogToken statusCode ie
  | delts userPriority =>
    cases h
    exact inv_receiveDelts hs userPriority
  | timeout ac =>
    simp only [Sys.step] at h
    split at h
    · rename_i htimer
      cases h
      exact inv_timeout hs htimer
    · cases h

theorem Inv.waiting_iff (hs : s.Inv) (dialogToken : ℕ) :
    s.LogAt ac (.waiting dialogToken) ↔
      s.currentState ac = .wait ∧ s.dialogToken ac = dialogToken := by
  have hlog := hs.log ac
  rw [LogAt] at hlog ⊢
  rw [hlog, Option.some.injEq, phase]
  split
  · rename_i hstate
    simp [hstate]
  · rename_i hstate
    simp [hstate]

theorem Inv.proper (hs : s.Inv) : s.Proper := by
  refine ⟨hs.waits, fun ac => (hs.timer ac).mpr, fun ac => ⟨s.phase ac, hs.log ac, ?_⟩,
    fun ac hstate => ?_, fun dialogToken statusCode ie t h ac => ?_⟩
  · unfold phase
    split
    · rename_i hstate
      exact iff_of_true hstate ⟨_, rfl⟩
    · rename_i hstate
      exact iff_of_false hstate fun ⟨_, h⟩ => nomatch h
  · have htimer := (hs.timer ac).mpr hstate
    have hsettled := settled_smEvent (e := .timeout (s.candidateTspecInfo ac)) hs hstate rfl
    have hinv := hs.settled hstate hsettled
    refine ⟨s.timeoutAc ac, if_pos htimer, ?_⟩
    have hphase : (s.timeoutAc ac).phase ac = .idle := if_neg (by
      rw [show (s.timeoutAc ac).currentState ac = .idle from hsettled.currentState]
      exact fun h => nomatch h)
    exact hphase ▸ hinv.log ac
  · cases h
    obtain ⟨hstate, htoken, hsettled⟩ | hsame | hsame :=
      receiveAddtsResponse_cases hs dialogToken statusCode ie
    · by_cases hac : ac = (parseTspecIe ie statusCode).ac
      · exact .inr ⟨hac, (hs.waiting_iff dialogToken).mpr (hac ▸ ⟨hstate, htoken⟩)⟩
      · obtain ⟨report, params, uReasonCode, -, hstep⟩ := hsettled.step
        exact .inl ⟨hsettled.current ac hac, hstep.others ac hac⟩
    · rw [hsame]
      exact .inl ⟨rfl, rfl, rfl, rfl, rfl⟩
    · rw [hsame]
      exact .inl ⟨rfl, rfl, rfl, rfl, rfl⟩

theorem inv_init (trafficAdmCtrlEnable : Bool) (currentPsMode : PsScheme) :
    (init trafficAdmCtrlEnable currentPsMode).Inv := by
  refine ⟨fun ac => ?_, fun ac => ?_, fun ac => rfl, rfl⟩
  · exact iff_of_false (fun h => nomatch h) (fun h => nomatch h)
  · exact iff_of_false (fun h => nomatch h) (fun h => nomatch h)

/-- **Every state of a run is proper exactly if every request that passes the checks has its frame
made.** -/
theorem handshake_iff {trafficAdmCtrlEnable : Bool} {currentPsMode : PsScheme} {is : List Input}
    (his : ∀ i ∈ is, i.IsHandshake = true)
    (he : exec step (init trafficAdmCtrlEnable currentPsMode) is = some s) :
    (∀ js t, js <+: is → exec step (init trafficAdmCtrlEnable currentPsMode) js = some t →
        t.Proper) ↔
      Along step Regular (init trafficAdmCtrlEnable currentPsMode) is := by
  refine along_iff_of_invariant (I := Inv) (D := fun i => i.IsHandshake = true)
    (fun _ hs => hs.proper) (fun _ _ _ hs hD hP h => hs.step hD hP h) ?_
    (inv_init trafficAdmCtrlEnable currentPsMode) his he
  intro s i t hs _ hi h
  cases i with
  | requestAdmission params frame =>
    obtain ⟨hok, hframe⟩ := Classical.not_imp.mp hi
    obtain rfl := Bool.not_eq_true _ ▸ hframe
    cases h
    exact not_proper_of_failed hs hok
  | _ => exact absurd trivial hi

end Sys

/-! ## Sample runs -/

/-- A connection, and a request for each of the two user priorities: one is answered, one is not. -/
def oneAnswered : List Sys.Input :=
  [.selectActiveProtocol true, .setSite (some fun _ => true) none none, .connect,
    .requestAdmission (.only 6) true, .requestAdmission (.only 4) true,
    .addtsResponse 1 0 ⟨6, 3, 0, 6, 200, 0, 0, 64000, 6000000, 0x2000, 100⟩, .timeout .vi]

theorem handshake_oneAnswered :
    ∃ s, exec Sys.step (Sys.init true .legacy) oneAnswered = some s ∧ s.Proper := by
  obtain ⟨s, hs⟩ := Option.isSome_iff_exists.mp
    (by decide +kernel : (exec Sys.step (Sys.init true .legacy) oneAnswered).isSome = true)
  refine ⟨s, hs, ?_⟩
  exact (Sys.handshake_iff (by decide) hs).mpr (by decide +kernel) oneAnswered s
    (List.prefix_refl _) hs

/-- A frame cannot be made, and the next request is answered `TI_OK` without one. -/
def frameMissing : List Sys.Input :=
  [.selectActiveProtocol true, .setSite (some fun _ => true) none none, .connect,
    .requestAdmission (.only 6) false, .requestAdmission (.only 6) true]

/-- The state machine waits with no candidate, and then a request waits with no timer. -/
theorem handshake_not_proper :
    ∃ s, exec Sys.step (Sys.init true .legacy) frameMissing = some s ∧
      s.log = [.requestAnswer 6 .nok, .requestAnswer 6 .ok] ∧ s.timer .vo = false ∧ ¬ s.Proper := by
  obtain ⟨s, hs⟩ := Option.isSome_iff_exists.mp
    (by decide +kernel : (exec Sys.step (Sys.init true .legacy) frameMissing).isSome = true)
  have hview : (exec Sys.step (Sys.init true .legacy) frameMissing).map (fun s =>
      (s.log, s.timer .vo, s.currentState .vo)) =
        some ([.requestAnswer 6 .nok, .requestAnswer 6 .ok], false, .wait) := by
    decide +kernel
  rw [hs, Option.map_some, Option.some.injEq, Prod.mk.injEq, Prod.mk.injEq] at hview
  refine ⟨s, hs, hview.1, hview.2.1, fun hp => ?_⟩
  have htimer := hp.timer .vo hview.2.2
  rw [hview.2.1] at htimer
  cases htimer

end ArchosGpl.Wlan.QosMngr
