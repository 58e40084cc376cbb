import ArchosGpl.Wlan.MeasurementSrv.Model

/-!
# The completions of the measurement service

`MacServices_measurementSRV_startMeasurement` keeps the complete callback of its caller, and an end
of a measurement calls it. Nothing clears the field, so that a second call depends on the state
machine alone. **`completions_answered`**: in every run, whatever the other modules answer and
whenever the timers and the firmware call back, each call of a complete callback answers the last
start before it, no start is answered twice, and outside IDLE the callback that is kept is the one
that may still come.

It rests on `smMatrix`: only a start leaves IDLE, and the actions that call the callback occur only
where the machine goes from another state to IDLE.

**`smEvent_deep`**: no chain of events nests more than three calls, so that the depth of the model's
`smEvent` leaves nothing out.
-/

namespace ArchosGpl.Wlan.MeasurementSrv

open Lib

/-! ## What a caller sees -/

/-- A caller starts a measurement; its callback is called. -/
inductive Seen (C : Type*)
  | started (cmdComplete : C)
  | completed (cmdComplete : C)

/-- What the caller sees of an action. -/
def Act.seen {R C : Type*} : Act R C → Option (Seen C)
  | Act.start cb => some (Seen.started cb)
  | Act.cmdComplete cb _ => some (Seen.completed cb)
  | _ => none

/-- **Each completion answers the last start before it, and no start twice.** The second argument is
the callback that may still come. -/
inductive Answered {C : Type*} : List (Seen C) → Option C → Prop
  | nil : Answered [] none
  | started {l : List (Seen C)} {o : Option C} (h : Answered l o) (cmdComplete : C) :
      Answered (l ++ [Seen.started cmdComplete]) (some cmdComplete)
  | completed {l : List (Seen C)} {cmdComplete : C} (h : Answered l (some cmdComplete)) :
      Answered (l ++ [Seen.completed cmdComplete]) none

namespace Sys

variable {R C : Type*} {s t : Sys R C} {a : Answers}

/-- The log is answered. Outside IDLE the callback that may come is the one that is kept. -/
def Paired (s : Sys R C) : Prop :=
  ∃ o, Answered (s.log.filterMap Act.seen) o ∧ (s.smState ≠ .idle → o = s.measurementComplete)

/-- The callback that is kept may come. -/
def Due (s : Sys R C) : Prop := Answered (s.log.filterMap Act.seen) s.measurementComplete

theorem Due.paired (h : s.Due) : s.Paired := ⟨_, h, fun _ => rfl⟩

theorem Paired.due (h : s.Paired) (hne : s.smState ≠ .idle) : s.Due := by
  obtain ⟨o, hlog, hkept⟩ := h
  rw [Due, ← hkept hne]
  exact hlog

/-! ## What leaves the callbacks alone -/

/-- The state, the callback that is kept, and what the caller has seen are the same. -/
structure Same (s t : Sys R C) : Prop where
  smState : t.smState = s.smState
  kept : t.measurementComplete = s.measurementComplete
  seen : t.log.filterMap Act.seen = s.log.filterMap Act.seen

namespace Same

protected theorem refl (s : Sys R C) : Same s s := ⟨rfl, rfl, rfl⟩

protected theorem trans {u : Sys R C} (h : Same s t) (h' : Same t u) : Same s u :=
  ⟨h'.smState.trans h.smState, h'.kept.trans h.kept, h'.seen.trans h.seen⟩

theorem due (h : Same s t) (hs : s.Due) : t.Due := by
  rw [Due, h.seen, h.kept]
  exact hs

theorem paired (h : Same s t) (hs : s.Paired) : t.Paired := by
  obtain ⟨o, hlog, hkept⟩ := hs
  refine ⟨o, h.seen ▸ hlog, fun hne => ?_⟩
  rw [h.kept]
  exact hkept (h.smState ▸ hne)

theorem emit (s : Sys R C) {x : Act R C} (hx : x.seen = none) : Same s (s.emit x) := by
  refine ⟨rfl, rfl, ?_⟩
  rw [Sys.emit, List.filterMap_append, List.filterMap_cons, hx, List.filterMap_nil, List.append_nil]

theorem foldl {α : Type*} {f : Sys R C → α → Sys R C} (hf : ∀ s x, Same s (f s x)) (l : List α)
    (s : Sys R C) : Same s (l.foldl f s) := by
  induction l generalizing s with
  | nil => exact .refl s
  | cons x l ih => exact (hf s x).trans (ih _)

theorem startMeasureType (s : Sys R C) (i : ℕ) : Same s (startMeasureType a s i) := by
  unfold Sys.startMeasureType
  dsimp only
  split
  · split <;> exact ⟨rfl, rfl, (Same.emit s rfl).seen⟩
  · exact .refl s

theorem stopMeasureType (s : Sys R C) (i : ℕ) : Same s (stopMeasureType s i) := by
  unfold Sys.stopMeasureType
  dsimp only
  split
  · split
    · exact ⟨rfl, rfl, (Same.emit s rfl).seen⟩
    · exact ⟨rfl, rfl, rfl⟩
  · exact .refl s

theorem stopStartStopTimer (s : Sys R C) : Same s s.stopStartStopTimer := by
  unfold Sys.stopStartStopTimer
  split <;> exact ⟨rfl, rfl, rfl⟩

theorem callResponse (s : Sys R C) (status : ℕ) : Same s (s.callResponse status) := by
  unfold Sys.callResponse
  split
  · exact .emit s rfl
  · exact .refl s

theorem releasePs (s : Sys R C) : Same s s.releasePs := ⟨rfl, rfl, (Same.emit s rfl).seen⟩

theorem cmdMeasurementStop (s : Sys R C) (a : Answers) : Same s (s.cmdMeasurementStop a) :=
  ⟨rfl, rfl, (Same.emit s rfl).seen⟩

theorem handleChannelLoadComplete (s : Sys R C) (i : ℕ) :
    Same s (handleChannelLoadComplete a s i) := by
  unfold Sys.handleChannelLoadComplete
  dsimp only
  split <;> exact ⟨rfl, rfl, (Same.emit s rfl).seen⟩

theorem handleNoiseHistogramComplete (s : Sys R C) (i : ℕ) :
    Same s (handleNoiseHistogramComplete a s i) := by
  have hstop : Same s (s.emit (.stopType .noiseHistogram)) := .emit s rfl
  have hfail : Same s (if a.stopNoiseHistogram ≠ tiOk then
      (s.emit (.stopType .noiseHistogram)).failType i else s.emit (.stopType .noiseHistogram)) := by
    split
    · exact ⟨hstop.smState, hstop.kept, hstop.seen⟩
    · exact hstop
  have hget := hfail.trans (.emit _ (x := .getResults .noiseHistogram a.getParam) rfl)
  unfold Sys.handleNoiseHistogramComplete
  dsimp only
  split
  · exact ⟨hget.smState, hget.kept, hget.seen⟩
  · exact ⟨hget.smState, hget.kept, hget.seen⟩

end Same

/-! ## The calls of the callback -/

theorem callComplete_paired (h : s.Due) (hidle : s.smState = .idle) : s.callComplete.Paired := by
  unfold Sys.callComplete
  split
  next cb hcb =>
    rw [Due, hcb] at h
    refine ⟨none, ?_, fun hne => absurd hidle hne⟩
    rw [Sys.emit, List.filterMap_append]
    exact h.completed
  next => exact h.paired

theorem callCompleteFailed_paired (h : s.Due) (hidle : s.smState = .idle) :
    s.callCompleteFailed.Paired := by
  unfold Sys.callCompleteFailed
  split
  · exact callComplete_paired (s := s.failTypes _ _) h hidle
  · exact h.paired

theorem callFailed_paired (h : s.Due) (hidle : s.smState = .idle) : s.callFailed.Paired := by
  unfold Sys.callFailed
  split
  · exact h.paired
  · have hsame := Same.callResponse s tiNok
    exact callCompleteFailed_paired (hsame.due h) (hsame.smState.trans hidle)

theorem completeMeasure_paired (h : s.Due) (hidle : s.smState = .idle) :
    s.completeMeasure.Paired := by
  have hsame := (Same.releasePs s).trans (.callResponse _ tiOk)
  exact callComplete_paired (hsame.due h) (hsame.smState.trans hidle)

theorem stopFromWaitForDriverMode_paired (h : s.Due) (hidle : s.smState = .idle) :
    (s.stopFromWaitForDriverMode a).Paired := by
  have hps := Same.releasePs s
  have hsame : Same s (if s.releasePs.commandResponse.isSome then
      if s.releasePs.bInRequest then s.releasePs.cmdMeasurementStop a
      else { s.releasePs.callResponse tiOk with commandResponse := none }
    else s.releasePs) := by
    split
    · split
      · exact hps.trans (.cmdMeasurementStop _ a)
      · have hresp := hps.trans (.callResponse _ tiOk)
        exact ⟨hresp.smState, hresp.kept, hresp.seen⟩
    · exact hps
  exact callCompleteFailed_paired (hsame.due h) (hsame.smState.trans hidle)

/-! ## The state machine -/

/-- Only a start leaves IDLE. -/
theorem smMatrix_idle (e : SmEvent) :
    (smMatrix .idle e).1 = .idle ∨ e = .measureStartRequest := by
  cases e <;> simp [smMatrix]

/-- The actions that call the complete callback. -/
def completes : Action → Bool
  | .completeMeasure | .stopFromWaitForDriverMode | .driverModeFailure | .measureStartFailure => true
  | _ => false

/-- **The callback is called only on the way to IDLE**, from another state. -/
theorem smMatrix_completes {st : SmState} {e : SmEvent} (h : completes (smMatrix st e).2 = true) :
    st ≠ .idle ∧ (smMatrix st e).1 = .idle := by
  cases st <;> cases e <;> simp_all [smMatrix, completes]

section Actions

variable {self : Sys R C → SmEvent → Sys R C}
  (hself : ∀ s e, e ≠ .measureStartRequest → Paired s → (self s e).Paired)
include hself

theorem requestDriverMode_paired (h : s.Paired) : (s.requestDriverMode self a).Paired := by
  unfold Sys.requestDriverMode
  dsimp only
  have hsame := Same.emit s
    (x := .reservePs (if a.currentChannel = s.msrRequest.channel then .keepCurrent else .on)
      a.reserve) rfl
  split
  · exact hself _ _ (by decide) (hsame.paired h)
  · split
    · exact hsame.paired h
    · exact hself _ _ (by decide) (hsame.paired h)

theorem requestMeasureStart_paired (h : s.Paired) : (s.requestMeasureStart self a).Paired := by
  unfold Sys.requestMeasureStart
  dsimp only
  have hsame := Same.emit s
    (x := .cmdMeasurement s.msrRequest.channel s.msrRequest.band s.msrRequest.eTag
      (s.rxOptions a) a.measurement) rfl
  split
  · exact hself _ _ (by decide) h
  · split
    · exact hself _ _ (by decide) (hsame.paired h)
    · exact hsame.paired h

theorem startMeasureTypes_paired (h : s.Paired) : (s.startMeasureTypes self a).Paired := by
  unfold Sys.startMeasureTypes
  dsimp only
  have hsame := Same.foldl (fun s i => Same.startMeasureType (a := a) s i)
    (List.range s.msrRequest.numberOfTypes) s
  split
  · exact hself _ _ (by decide) h
  · split
    · exact hself _ _ (by decide) (hsame.paired h)
    · exact hsame.paired h

theorem sendMeasureStop_paired (h : s.Paired) : (s.sendMeasureStop self a).Paired := by
  unfold Sys.sendMeasureStop
  dsimp only
  have hsame := Same.cmdMeasurementStop s a
  split
  · exact hself _ _ (by decide) (hsame.paired h)
  · exact hsame.paired h

theorem requestMeasureStop_paired (h : s.Paired) : (s.requestMeasureStop self a).Paired :=
  sendMeasureStop_paired hself ((Same.stopStartStopTimer s).paired h)

theorem act_paired {x : Action} (h : s.Paired)
    (hdue : completes x = true → s.Due ∧ s.smState = .idle) : (act self a s x).Paired := by
  cases x with
  | requestDriverMode => exact requestDriverMode_paired hself h
  | requestMeasureStart => exact requestMeasureStart_paired hself h
  | startMeasureTypes => exact startMeasureTypes_paired hself h
  | requestMeasureStop => exact requestMeasureStop_paired hself h
  | completeMeasure =>
    obtain ⟨hdue, hidle⟩ := hdue rfl
    exact completeMeasure_paired hdue hidle
  | stopFromWaitForDriverMode =>
    obtain ⟨hdue, hidle⟩ := hdue rfl
    exact stopFromWaitForDriverMode_paired hdue hidle
  | stopFromWaitForMeasureStart =>
    exact requestMeasureStop_paired (s := s.failTypes _ _) hself h
  | stopFromMeasureInProgress =>
    exact sendMeasureStop_paired hself ((Same.foldl Same.stopMeasureType _ s).paired h)
  | driverModeFailure =>
    obtain ⟨hdue, hidle⟩ := hdue rfl
    exact callFailed_paired hdue hidle
  | measureStartFailure =>
    obtain ⟨hdue, hidle⟩ := hdue rfl
    have hsame := Same.releasePs s
    exact callFailed_paired (hsame.due hdue) (hsame.smState.trans hidle)
  | dummyStop => exact (Same.cmdMeasurementStop s a).paired h
  | unexpected =>
    have hsame := Same.stopStartStopTimer s
    exact Same.paired ⟨hsame.smState, hsame.kept, hsame.seen⟩ h

end Actions

/-- **An event keeps the callbacks paired**, by induction on the depth of its calls. A start needs
the callback of its caller. -/
theorem smEventTo_paired (depth : ℕ) {e : SmEvent} (h : s.Paired)
    (hstart : e = .measureStartRequest → s.Due) : (smEventTo a depth s e).Paired := by
  induction depth generalizing s e with
  | zero => exact h
  | succ depth ih =>
    have hdue : s.smState ≠ .idle ∨ e = .measureStartRequest → s.Due := by
      rintro (hne | rfl)
      · exact h.due hne
      · exact hstart rfl
    refine act_paired (fun s e he hs => ih hs (absurd · he)) ?_ ?_
    · by_cases hidle : s.smState = .idle
      · rcases smMatrix_idle e with hstay | he
        · obtain ⟨o, hlog, -⟩ := h
          refine ⟨o, hlog, fun hne => absurd ?_ hne⟩
          rw [← hstay, ← hidle]
        · exact Due.paired (hdue (.inr he))
      · exact Due.paired (hdue (.inl hidle))
    · intro hx
      obtain ⟨hne, hto⟩ := smMatrix_completes hx
      exact ⟨hdue (.inl hne), hto⟩

theorem Paired.event {e : SmEvent} (he : e ≠ .measureStartRequest) (h : s.Paired) :
    (s.smEvent a e).Paired :=
  smEventTo_paired 3 h (absurd · he)

/-! ## The calls to the service -/

theorem startMeasurement_paired (h : s.Paired) (req : StartRequest R C) :
    (s.startMeasurement a req).Paired := by
  obtain ⟨o, hlog, -⟩ := h
  have hdue : ((s.copyRequest req).emit (.start req.cmdComplete)).Due := by
    unfold Due
    rw [Sys.emit, List.filterMap_append]
    exact hlog.started _
  exact (Same.emit _ rfl).paired (smEventTo_paired 3 hdue.paired fun _ => hdue)

theorem stopMeasurement_paired (h : s.Paired) (bSendNullData : Bool) (cmdResponse : Option R) :
    (s.stopMeasurement a bSendNullData cmdResponse).Paired := by
  unfold Sys.stopMeasurement
  dsimp only
  exact Same.paired ⟨rfl, rfl, rfl⟩ (Paired.event (by decide) (Same.paired ⟨rfl, rfl, rfl⟩ h))

theorem powerSaveCb_paired (h : s.Paired) (psStatus : PsStatus) :
    (s.powerSaveCb a psStatus).Paired := by
  unfold Sys.powerSaveCb
  dsimp only
  split
  · exact Paired.event (by decide) h
  · exact Paired.event (by decide) h

theorem checkComplete_paired (h : s.Paired) : (s.checkComplete a).Paired := by
  unfold Sys.checkComplete
  split
  · exact h.event (by decide)
  · exact h

theorem requestTimerExpired_paired (h : s.Paired) (expired : ℕ) :
    (s.requestTimerExpired a expired).Paired := by
  unfold Sys.requestTimerExpired
  dsimp only
  split
  next => exact h
  next i _ =>
    refine checkComplete_paired ?_
    split
    · exact (Same.emit _ rfl).paired h
    · exact (Same.handleChannelLoadComplete _ i).paired h
    · exact (Same.handleNoiseHistogramComplete _ i).paired h
    · exact h
    · exact h

theorem channelLoadParamCb_paired (h : s.Paired) (status : ℕ) (results : TMediumOccupancy) :
    (s.channelLoadParamCb a status results).Paired := by
  unfold Sys.channelLoadParamCb
  dsimp only
  split
  · exact h
  · refine checkComplete_paired ?_
    split <;> exact h

theorem noiseHistCallBack_paired (h : s.Paired) (status : ℕ) (results : TNoiseHistogramResults) :
    (s.noiseHistCallBack a status results).Paired := by
  unfold Sys.noiseHistCallBack
  dsimp only
  split
  · exact h
  · refine checkComplete_paired ?_
    split <;> exact h

theorem requestMeasureStartResponseCb_paired (h : s.Paired) (mboxStatus : ℕ) :
    (s.requestMeasureStartResponseCb a mboxStatus).Paired := by
  unfold Sys.requestMeasureStartResponseCb
  split
  · exact (Same.callResponse s tiOk).paired h
  · have hsame := Same.stopStartStopTimer s
    exact Paired.event (by decide) (Same.paired ⟨hsame.smState, hsame.kept, hsame.seen⟩ h)

theorem measureStartCb_paired (h : s.Paired) : (s.measureStartCb a).Paired := by
  unfold Sys.measureStartCb
  exact Paired.event (by decide) (Same.paired ⟨rfl, rfl, rfl⟩ h)

theorem measureCompleteCb_paired (h : s.Paired) : (s.measureCompleteCb a).Paired := by
  unfold Sys.measureCompleteCb
  exact Paired.event (by decide) (Same.paired ⟨rfl, rfl, rfl⟩ h)

/-- The machine is put to IDLE from outside. -/
theorem Paired.toIdle (h : s.Paired) (hidle : t.smState = .idle)
    (hseen : t.log.filterMap Act.seen = s.log.filterMap Act.seen) : t.Paired := by
  obtain ⟨o, hlog, -⟩ := h
  exact ⟨o, hseen ▸ hlog, fun hne => absurd hidle hne⟩

theorem startStopTimerExpired_paired (h : s.Paired) : s.startStopTimerExpired.Paired := by
  unfold Sys.startStopTimerExpired
  exact (Same.emit _ rfl).paired (h.toIdle rfl rfl)

theorem fwReset_paired (h : s.Paired) : s.fwReset.Paired := by
  unfold Sys.fwReset
  exact h.toIdle rfl (Same.stopStartStopTimer s).seen

theorem step_paired {i : Input R C} (h : s.Paired) (hs : step s i = some t) : t.Paired := by
  have hdone {u : Sys R C} (hu : u.Paired) (hs : some u = some t) : t.Paired :=
    Option.some.inj hs ▸ hu
  have hguard {b : Prop} [Decidable b] {u : Option (Sys R C)}
      (hs : (if b then u else none) = some t) : u = some t := by
    split at hs
    · exact hs
    · cases hs
  cases i with
  | startMeasurement req a => exact hdone (startMeasurement_paired h req) hs
  | stopMeasurement bSendNullData cmdResponse a =>
    exact hdone (stopMeasurement_paired h bSendNullData cmdResponse) hs
  | psAnswer psStatus a => exact hdone (powerSaveCb_paired h psStatus) (hguard hs)
  | psReport psStatus a =>
    dsimp only [step] at hs
    split at hs
    · cases hs
    · exact hdone (powerSaveCb_paired h psStatus) hs
  | requestMeasureStartResponseCb mboxStatus a =>
    exact hdone (requestMeasureStartResponseCb_paired h mboxStatus) hs
  | measureStartCb a => exact hdone (measureStartCb_paired h) hs
  | measureCompleteCb a => exact hdone (measureCompleteCb_paired h) hs
  | requestTimerExpired expired a => exact hdone (requestTimerExpired_paired h expired) (hguard hs)
  | channelLoadParamCb status results a =>
    exact hdone (channelLoadParamCb_paired h status results) hs
  | noiseHistCallBack status results a => exact hdone (noiseHistCallBack_paired h status results) hs
  | startStopTimerExpired => exact hdone (startStopTimerExpired_paired h) (hguard hs)
  | fwReset => exact hdone (fwReset_paired h) hs

/-- **In every run each completion answers the last start before it, no start is answered twice, and
outside IDLE the callback that is kept is the one that may still come.** -/
theorem completions_answered {is : List (Input R C)} (h : exec step init is = some s) :
    ∃ o, Answered (s.log.filterMap Act.seen) o ∧ (s.smState ≠ .idle → o = s.measurementComplete) := by
  have hinit : Paired (init : Sys R C) := ⟨none, .nil, fun hne => absurd rfl hne⟩
  exact exec_invariant (I := Paired) (fun _ _ _ => step_paired) hinit h

/-- The power server is asked for power save on another channel, and does not enter it. -/
def noPowerSave : List (Input ℕ ℕ) :=
  let a : Answers := ⟨0, 1, tiOk, tiOk, tiOk, fun _ => tiOk, tiOk, tiOk⟩
  [.startMeasurement ⟨⟨0, 6, 0, 1, fun _ => ⟨.beacon, 20⟩, by decide⟩, 100, 0, none, 3⟩ a,
    .psAnswer .enterFail a]

theorem completions_answered_noPowerSave : ∃ s, exec step init noPowerSave = some s ∧
    ∃ o, Answered (s.log.filterMap Act.seen) o ∧
      (s.smState ≠ .idle → o = s.measurementComplete) := by
  have hrun : exec step init noPowerSave = some _ := rfl
  exact ⟨_, hrun, completions_answered hrun⟩

/-! ## The depth of the calls -/

def sends : Action → SmEvent → Bool
  | .requestDriverMode, .driverModeSuccess | .requestDriverMode, .driverModeFailure => true
  | .requestMeasureStart, .stopComplete | .requestMeasureStart, .startFailure => true
  | .startMeasureTypes, .allTypesComplete => true
  | .requestMeasureStop, .stopComplete | .stopFromWaitForMeasureStart, .stopComplete
  | .stopFromMeasureInProgress, .stopComplete => true
  | _, _ => false

/-- The calls that an action may nest. -/
def nests : Action → ℕ
  | .requestDriverMode | .startMeasureTypes => 2
  | .requestMeasureStart | .requestMeasureStop | .stopFromWaitForMeasureStart
  | .stopFromMeasureInProgress => 1
  | _ => 0

/-- An event that an action sends, in the state that the machine has gone to, nests less. -/
theorem nests_lt {st : SmState} {e e' : SmEvent} (h : sends (smMatrix st e).2 e' = true) :
    nests (smMatrix (smMatrix st e).1 e').2 < nests (smMatrix st e).2 := by
  cases st <;> cases e <;> cases e' <;> first | exact absurd h (by decide) | decide

theorem sendMeasureStop_congr {self self' : Sys R C → SmEvent → Sys R C}
    (h : ∀ t, t.smState = s.smState → self t .stopComplete = self' t .stopComplete) :
    s.sendMeasureStop self a = s.sendMeasureStop self' a := by
  unfold Sys.sendMeasureStop
  dsimp only
  rw [h _ (Same.cmdMeasurementStop s a).smState]

/-- An action depends only on the events that it sends, in its own state. -/
theorem act_congr {self self' : Sys R C → SmEvent → Sys R C} {x : Action}
    (h : ∀ t e, t.smState = s.smState → sends x e = true → self t e = self' t e) :
    act self a s x = act self' a s x := by
  cases x with
  | requestDriverMode =>
    simp only [act, Sys.requestDriverMode]
    rw [h (s.emit _) .driverModeSuccess rfl rfl, h { s.emit _ with returnStatus := _ } .driverModeFailure rfl rfl]
  | requestMeasureStart =>
    simp only [act, Sys.requestMeasureStart]
    rw [h (s.failTypes _ _) .stopComplete rfl rfl, h { s.emit _ with returnStatus := _ } .startFailure rfl rfl]
  | startMeasureTypes =>
    have hsame := Same.foldl (fun s i => Same.startMeasureType (a := a) s i)
      (List.range s.msrRequest.numberOfTypes) s
    simp only [act, Sys.startMeasureTypes]
    rw [h (s.failTypes _ _) .allTypesComplete rfl rfl, h _ .allTypesComplete hsame.smState rfl]
  | requestMeasureStop =>
    have hsame := Same.stopStartStopTimer s
    exact sendMeasureStop_congr fun t ht => h t _ (ht.trans hsame.smState) rfl
  | stopFromWaitForMeasureStart =>
    have hsame := Same.stopStartStopTimer (s.failTypes s.msrRequest.numberOfTypes tiNok)
    exact sendMeasureStop_congr fun t ht => h t _ (ht.trans hsame.smState) rfl
  | stopFromMeasureInProgress =>
    have hsame := Same.foldl Same.stopMeasureType (List.range s.msrRequest.numberOfTypes) s
    exact sendMeasureStop_congr fun t ht => h t _ (ht.trans hsame.smState) rfl
  | _ => rfl

/-- **A depth that is more than the calls that an event may nest makes no difference**, by induction
on the depth. -/
theorem smEventTo_of_nests {depth : ℕ} {e : SmEvent}
    (h : nests (smMatrix s.smState e).2 < depth) :
    smEventTo a depth s e = smEventTo a (depth + 1) s e := by
  induction depth generalizing s e with
  | zero => exact absurd h (Nat.not_lt_zero _)
  | succ depth ih =>
    refine act_congr fun t e' ht he' => ih ?_
    have hstate : t.smState = (smMatrix s.smState e).1 := ht
    rw [hstate]
    exact Nat.lt_of_lt_of_le (nests_lt he') (Nat.le_of_lt_succ h)

/-- **No chain of events is deeper than three calls.** -/
theorem smEvent_deep (depth : ℕ) (e : SmEvent) : smEventTo a (depth + 3) s e = s.smEvent a e := by
  induction depth with
  | zero => rfl
  | succ depth ih =>
    have hle : nests (smMatrix s.smState e).2 ≤ 2 := by
      cases (smMatrix s.smState e).2 <;> decide
    rw [← ih]
    exact (smEventTo_of_nests (by omega)).symm

end Sys

end ArchosGpl.Wlan.MeasurementSrv
