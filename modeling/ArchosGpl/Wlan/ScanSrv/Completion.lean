import ArchosGpl.Lib.Fair
import ArchosGpl.Wlan.ScanSrv.Events

/-!
# Scan completion

* `Sys.scan_completes`: **in a run without a reset whose steps are sound** the log is one of
  `Phase`, the timer runs while the firmware scans, and in fair runs every scan that returned
  `TI_OK` is notified.
-/

namespace ArchosGpl.Wlan.ScanSrv

open Lib

variable {C : Type*}

namespace Sys

/-! ## Steps -/

/-- No firmware reset and no recovery. -/
def Quiet (s : Sys C) : Input C → Prop
  | .scanTimerExpired _ =>
    (s.currentNumberOfConsecutiveNoScanCompleteEvents + 1) % 2 ^ 32 <
      s.numberOfNoScanCompleteToRecovery
  | .stopOnFwReset _ | .restart => False
  | _ => True

/-- A report that comes unasked does not read as a success while the service is idle or the firmware
scans; where a scan command is refused within its request, the release is not answered later. -/
def Sound (s : Sys C) : Input C → Prop
  | .scan req a => s.smState = .idle → req.bDriverMode = true → a.reserve = .isCurrent →
      a.startScan ≠ tiOk → a.release.later = false
  | .psReport status _ =>
    s.psEvent status = .psSuccess → s.smState ≠ .idle ∧ s.smState ≠ .scanning
  | _ => True

def Inv (s : Sys C) : Prop := s.Settled ∧ s.bInRequest = false

/-- Between requests: nearer to the end, or waiting for the same. -/
def Moves (s t : Sys C) : Prop :=
  t.Inv ∧ (t.rank < s.rank ∨ t.rank = s.rank ∧ t.timer = s.timer ∧ t.psOwes = s.psOwes)

variable {s t : Sys C}

theorem Ends.moves {n : ℕ} (h : Ends t s.bInRequest n) (hq : s.bInRequest = false)
    (hn : n < s.rank) : s.Moves t :=
  ⟨⟨h.settled, h.inRequest.trans hq⟩, Or.inl (h.rank_le.trans_lt hn)⟩

/-- Nothing changes that the invariant speaks of. -/
structure Agrees (s t : Sys C) : Prop where
  smState : t.smState = s.smState
  bInRequest : t.bInRequest = s.bInRequest
  timer : t.timer = s.timer
  bTimerRunning : t.bTimerRunning = s.bTimerRunning
  psOwes : t.psOwes = s.psOwes
  bExitFromDriverMode : t.bExitFromDriverMode = s.bExitFromDriverMode
  log : track t.log = track s.log

theorem Agrees.moves (h : Agrees s t) (hI : s.Inv) : s.Moves t := by
  obtain ⟨hs, hq, ht, hb, ho, hx, hl⟩ := h
  obtain ⟨hset, hno⟩ := hI
  have hrank : t.rank = s.rank := by rw [rank, rank, hs]
  have hphase : ∀ r, t.phaseOf r = s.phaseOf r := fun r => by rw [phaseOf, phaseOf, hq]
  have hfree : ∀ P : Prop, t.bInRequest = true → P :=
    fun P h => absurd (hno.symm.trans (hq.symm.trans h)) Bool.false_ne_true
  have hbt : s.bTimerRunning = s.timer → t.bTimerRunning = t.timer :=
    fun h => hb.trans (h.trans ht.symm)
  refine ⟨⟨?_, hq.trans hno⟩, Or.inr ⟨hrank, ht, ho⟩⟩
  cases hset with
  | idle hs' _ ht' hb' ho' hp' =>
    exact .idle (hs.trans hs') (hq.trans hno) (ht.trans ht') (hbt hb') (ho.trans ho') (hl.trans hp')
  | failed _ _ hq' => exact absurd (hno.symm.trans hq') Bool.false_ne_true
  | psWait hs' ht' hb' ho' hx' hp' =>
    exact .psWait (hs.trans hs') (ht.trans ht') (hbt hb') (ho.trans ho') (hx.trans hx')
      ((hl.trans hp').trans (by rw [hphase])) (hfree _)
  | scanning r hs' ht' hb' ho' hr' hp' =>
    refine .scanning r (by rwa [hs]) (ht.trans ht') (hbt hb') (ho.trans ho') ?_
      ((hl.trans hp').trans (by rw [hphase])) (hfree _)
    rwa [Releasable, hx]
  | stopping hs' _ ht' hb' ho' hx' hp' =>
    exact .stopping (hs.trans hs') (hq.trans hno) (ht.trans ht') (hbt hb') (ho.trans ho')
      (hx.trans hx') (hl.trans hp')
  | psExit hs' _ ht' hb' ho' hp' =>
    exact .psExit (hs.trans hs') (hq.trans hno) (ht.trans ht') (hbt hb') (ho.trans ho')
      (hl.trans hp')

theorem actionUnexpected_agrees (ht : s.timer = false)
    (hb : s.bTimerRunning = s.timer) : Agrees s s.actionUnexpected := by
  have hstop : s.stopTimer = s := by
    rw [stopTimer, if_neg]
    rw [hb, ht]
    exact Bool.false_ne_true
  unfold actionUnexpected
  rw [hstop]
  exact ⟨rfl, rfl, rfl, rfl, rfl, rfl, rfl⟩

theorem respond_agrees (s : Sys C) (status : ℕ) : Agrees s (s.respond status) := by
  obtain ⟨acts, he, hl⟩ := s.respond_eq status
  rw [he]
  exact ⟨rfl, rfl, rfl, rfl, rfl, rfl, hl⟩

theorem Agrees.then {u : Sys C} (h : Agrees s t) (hI : s.Inv)
    (hu : t.Inv → t.Moves u) : s.Moves u := by
  obtain ⟨hIt, hmove⟩ := h.moves hI
  obtain ⟨hIu, hrank⟩ := hu hIt
  have hr : t.rank = s.rank := by rw [rank, rank, h.smState]
  rw [hr, h.timer, h.psOwes] at hrank
  exact ⟨hIu, hrank⟩

theorem track_running {r : Reservation} {log : List (Act C)} (hq : s.bInRequest = false) :
    track log = some (s.phaseOf r) ↔ track log = some (.running r) := by
  rw [phaseOf, hq]
  rfl

section Step

variable {s : Sys C} (a : Answers)

theorem Inv.free (hI : s.Inv) (P : Prop) (hq : s.bInRequest = true) : P :=
  absurd (hI.2.symm.trans hq) Bool.false_ne_true

variable {e : SmEvent}

theorem unexpected_moves {state : SmState} (hI : s.Inv) (hs : s.smState = state)
    (ht : s.timer = false) (hb : s.bTimerRunning = s.timer)
    (hm : smMatrix state e = (state, .unexpected)) : s.Moves (s.smEvent a e) := by
  have he : s.smEvent a e = s.actionUnexpected := by
    rw [smEvent, smEventTo_succ a 3 hs, hm]
    show actionUnexpected { s with smState := state } = _
    rw [at_state hs]
  rw [he]
  exact (actionUnexpected_agrees ht hb).moves hI

theorem smEvent_nop {state next : SmState} (hs : s.smState = state)
    (hm : smMatrix state e = (next, .nop)) : s.smEvent a e = { s with smState := next } := by
  rw [smEvent, smEventTo_succ a 3 hs, hm]
  rfl

theorem scanComplete_moves (hI : s.Inv) : s.Moves (s.smEvent a .scanComplete) := by
  obtain ⟨hset, hq⟩ := id hI
  cases hset with
  | idle hs _ ht hb | psWait hs ht hb | psExit hs _ ht hb =>
    exact unexpected_moves a hI hs ht hb rfl
  | failed _ _ hq' => exact hI.free _ hq'
  | scanning r hs ht hb ho hr hp =>
    refine (scanComplete_ends 2 hs (fun _ => hb.trans ht) (fun _ => ho) hr hp (hI.free _)
      (hI.free _)).moves hq ?_
    rcases hs with hs | hs <;> rw [rank, hs] <;> exact Nat.one_lt_two
  | stopping hs _ ht hb ho hx hp =>
    refine (scanComplete_ends (r := .none) 2 (Or.inr hs) (fun h => hb.trans h) ?_ (Or.inl rfl)
      ((track_running hq).mpr hp) (hI.free _) (hI.free _)).moves hq ?_
    · rw [hx]
      exact fun h => absurd h.symm Bool.false_ne_true
    · rw [rank, hs]
      exact Nat.one_lt_two

theorem stopScan_moves (hI : s.Inv) : s.Moves (s.smEvent a .stopScan) := by
  obtain ⟨hset, hq⟩ := id hI
  cases hset with
  | idle hs _ ht hb => exact unexpected_moves a hI hs ht hb rfl
  | failed _ _ hq' => exact hI.free _ hq'
  | psWait hs ht hb ho hx hp =>
    rw [smEvent_nop a hs rfl]
    refine ⟨⟨.stopping rfl hq ht hb ho hx ((track_running hq).mp hp), hq⟩, Or.inl ?_⟩
    rw [rank, rank, hs]
    exact Nat.lt_succ_self 2
  | scanning r hs ht hb ho hr hp hst =>
    have he : s.smEvent a .stopScan = { s with smState := .stopping } := by
      rcases hs with hs | hs <;> exact smEvent_nop a hs rfl
    rw [he]
    refine ⟨⟨.scanning r (Or.inr rfl) ht hb ho hr hp hst, hq⟩, Or.inr ⟨?_, rfl, rfl⟩⟩
    rcases hs with hs | hs <;> rw [rank, rank, hs]
  | stopping hs | psExit hs =>
    rw [smEvent_nop a hs rfl, at_state hs]
    exact ⟨hI, Or.inr ⟨rfl, rfl, rfl⟩⟩

theorem psEvent_cases (s : Sys C) (status : PsStatus) :
    s.psEvent status = .psSuccess ∨ s.psEvent status = .psFail := by
  cases status with
  | enterFail =>
    unfold psEvent
    cases s.bScanOnDriverModeFailure
    · exact Or.inr rfl
    · exact Or.inl rfl
  | exitFail => exact Or.inr rfl
  | enterSuccess | exitSuccess => exact Or.inl rfl

theorem stopping_ends {r : Reservation} (hs : s.smState = .stopping)
    (he : e = .psSuccess ∨ e = .psFail) (hq : s.bInRequest = false) (ht : s.bTimerRunning = s.timer)
    (ho : s.psOwes = none) (hr : s.Releasable r) (hp : track s.log = some (.running r)) :
    Ends (s.smEvent a e) s.bInRequest 1 := by
  have hfree : ∀ P : Prop, s.bInRequest = true → P :=
    fun P h => absurd (hq.symm.trans h) Bool.false_ne_true
  have he' : s.smEvent a e = releasePs (smEventTo a 3) a { s with smState := .psExit } := by
    rcases he with rfl | rfl <;> exact smEventTo_succ a 3 hs _
  rw [he']
  exact releasePs_ends 2 rfl (fun h => ht.trans h) (fun _ => ho) hr
    ((track_running hq).mpr hp) (hfree _) (hfree _)

theorem psExit_ends (hs : s.smState = .psExit) (he : e = .psSuccess ∨ e = .psFail)
    (hq : s.bInRequest = false) (ht : s.timer = false) (hb : s.bTimerRunning = s.timer)
    (ho : s.psOwes = none) (hp : track s.log = some (.running .released)) :
    Ends (s.smEvent a e) s.bInRequest 0 := by
  have he' : s.smEvent a e = notifyScanComplete a { s with smState := .idle } := by
    rcases he with rfl | rfl
    · exact smEventTo_psSuccess a 3 hs
    · exact smEventTo_psFail a 3 hs
  rw [he']
  refine notifyScanComplete_ends (r := .released) rfl ht (hb.trans ht) ho
    ((track_running hq).mpr hp) (by simp) ?_
  exact fun h => absurd (hq.symm.trans h) Bool.false_ne_true

/-- The state in which the event of the power server's callback is handled. -/
def calledBack (s : Sys C) (status : PsStatus) : Sys C :=
  { s with
    psOwes := none
    log := s.log ++ [.powerSaveCb s.psOwes s.smState status]
    returnStatus :=
      if s.psEvent status = .psFail ∧ status = .enterFail then tiNok else s.returnStatus }

theorem powerSaveCb_eq (s : Sys C) (status : PsStatus) :
    s.powerSaveCb a status = (s.calledBack status).smEvent a (s.psEvent status) := by
  unfold powerSaveCb calledBack
  by_cases h : s.psEvent status = .psFail ∧ status = .enterFail
  · rw [if_pos h]
    exact congrArg (fun t : Sys C => t.smEvent a (s.psEvent status)) (if_pos h)
  · rw [if_neg h]
    exact congrArg (fun t : Sys C => t.smEvent a (s.psEvent status)) (if_neg h)

theorem track_reserved (status : PsStatus) (hp : track s.log = some (.running .none))
    (hs : s.smState ≠ .scanning) (ho : s.psOwes = some .reserve) :
    track (s.calledBack status).log =
      some (.running (if status = .enterSuccess then .held else .none)) := by
  simp only [calledBack, track_snoc, hp, Option.bind_some, Phase.step, ho, hs, true_and, false_and,
    if_false]
  split <;> rfl

variable {status : PsStatus}

theorem releasable_reserved (hx : s.bExitFromDriverMode = true) :
    (s.calledBack status).Releasable (if status = .enterSuccess then .held else .none) := by
  unfold Releasable calledBack
  split
  · exact Or.inr rfl
  · exact Or.inl rfl

/-- **The answer that the power server owes** brings the scan nearer to its end. -/
theorem psAnswer_moves (hI : s.Inv) (howes : s.psOwes ≠ none) :
    (s.powerSaveCb a status).Inv ∧ (s.powerSaveCb a status).rank < s.rank := by
  have hends : ∀ n < s.rank, Ends (s.powerSaveCb a status) s.bInRequest n →
      (s.powerSaveCb a status).Inv ∧ (s.powerSaveCb a status).rank < s.rank := fun n hn h =>
    ⟨⟨h.settled, h.inRequest.trans hI.2⟩, h.rank_le.trans_lt hn⟩
  obtain ⟨hset, hq⟩ := id hI
  cases hset with
  | idle _ _ _ _ ho | scanning _ _ _ _ ho => exact absurd ho howes
  | failed _ _ hq' => exact hI.free _ hq'
  | psWait hs ht hb ho hx hp =>
    have hp' := track_reserved status ((track_running hq).mp hp) (by simp [hs]) ho
    have hrank : s.rank = 3 := by rw [rank, hs]
    rw [powerSaveCb_eq] at hends ⊢
    rcases s.psEvent_cases status with he | he <;> rw [he] at hends ⊢
    · exact hends 2 (by omega) (psSuccess_ends 1 (Or.inl hs) rfl (releasable_reserved hx)
        ((track_running hq).mpr hp') (hI.free _))
    · exact hends 1 (by omega) (psFail_ends 2 (Or.inl hs) (fun h => hb.trans h) (fun _ => rfl)
        (releasable_reserved hx) ((track_running hq).mpr hp') (hI.free _) (hI.free _))
  | stopping hs _ ht hb ho hx hp =>
    have hp' := track_reserved status hp (by simp [hs]) ho
    have hrank : s.rank = 2 := by rw [rank, hs]
    rw [powerSaveCb_eq] at hends ⊢
    exact hends 1 (by omega) (stopping_ends a hs (s.psEvent_cases status) hq hb rfl
      (releasable_reserved hx) hp')
  | psExit hs _ ht hb ho hp =>
    have hp' : track (s.calledBack status).log = some (.running .released) := by
      simp [calledBack, hp, Phase.step, ho, hs]
    have hrank : s.rank = 1 := by rw [rank, hs]
    rw [powerSaveCb_eq] at hends ⊢
    exact hends 0 (by omega) (psExit_ends a hs (s.psEvent_cases status) hq ht hb rfl hp')

/-- **A report that comes unasked**: where it is sound it changes nothing, or withdraws the
reservation, or ends the scan that is stopped. -/
theorem psReport_moves (hI : s.Inv) (howes : s.psOwes = none)
    (hsound : s.psEvent status = .psSuccess → s.smState ≠ .idle ∧ s.smState ≠ .scanning) :
    s.Moves (s.powerSaveCb a status) := by
  obtain ⟨hset, hq⟩ := id hI
  rw [powerSaveCb_eq]
  have hlog : s.smState ≠ .scanning → track (s.calledBack status).log = track s.log := by
    intro hs
    simp only [calledBack, track_snoc, Phase.step, howes, hs, false_and, if_false, reduceCtorEq]
    exact Option.bind_fun_some _
  cases hset with
  | idle hs _ ht hb ho =>
    have he : s.psEvent status = .psFail :=
      (s.psEvent_cases status).resolve_left fun he => (hsound he).1 hs
    have hagree : Agrees s (s.calledBack status) :=
      ⟨rfl, rfl, rfl, rfl, ho.symm, rfl, hlog (by simp [hs])⟩
    rw [he]
    exact hagree.then hI fun hI' => unexpected_moves a hI' hs ht hb rfl
  | failed _ _ hq' => exact hI.free _ hq'
  | psWait _ _ _ ho | stopping _ _ _ _ ho | psExit _ _ _ _ ho => simp [howes] at ho
  | scanning r hs ht hb ho hr hp =>
    rcases hs with hs | hs
    · have he : s.psEvent status = .psFail :=
        (s.psEvent_cases status).resolve_left fun he => (hsound he).2 hs
      have hfail : status = .enterFail ∨ status = .exitFail := by
        cases status <;> simp [psEvent] at he ⊢
      have hp' : track (s.calledBack status).log = some (.running .withdrawn) := by
        simp only [calledBack, track_snoc, (track_running hq).mp hp, Option.bind_some, Phase.step,
          howes, hs, hfail, reduceCtorEq, false_and, and_self, if_false, if_true]
        rcases hr with rfl | rfl
        · rfl
        · cases s.bExitFromDriverMode <;> rfl
      have hact : (s.calledBack status).smEvent a .psFail =
          { s.calledBack status with smState := .scanning, bExitFromDriverMode := false } :=
        smEventTo_succ (s := s.calledBack status) a 3 hs _
      rw [he, hact]
      refine ⟨⟨.scanning .withdrawn (Or.inl rfl) ht hb rfl (Or.inr rfl)
        ((track_running hq).mpr hp') (hI.free _), hq⟩, Or.inr ⟨?_, rfl, howes.symm⟩⟩
      rw [rank, rank, hs]
    · have hp' : track (s.calledBack status).log = some (.running r) :=
        (hlog (by simp [hs])).trans ((track_running hq).mp hp)
      have hends : Ends ((s.calledBack status).smEvent a (s.psEvent status)) s.bInRequest 1 :=
        stopping_ends a hs (s.psEvent_cases status) hq hb rfl hr hp'
      refine hends.moves hq ?_
      rw [rank, hs]
      exact Nat.one_lt_two

theorem scanTimerExpired_moves (hI : s.Inv) (htimer : s.timer = true)
    (hn : (s.currentNumberOfConsecutiveNoScanCompleteEvents + 1) % 2 ^ 32 <
      s.numberOfNoScanCompleteToRecovery) :
    (s.scanTimerExpired a).Inv ∧ (s.scanTimerExpired a).rank < s.rank := by
  have hcontra : s.timer = false → ∀ P : Prop, P := fun h P =>
    absurd (h.symm.trans htimer) Bool.false_ne_true
  obtain ⟨hset, hq⟩ := id hI
  cases hset with
  | idle _ _ ht | psWait _ ht | stopping _ _ ht | psExit _ _ ht => exact hcontra ht _
  | failed _ _ hq' => exact hI.free _ hq'
  | scanning r hs ht hb ho hr hp =>
    have hrank : s.rank = 2 := by rcases hs with hs | hs <;> rw [rank, hs]
    have he : s.scanTimerExpired a =
        handleTimerExpiry (smEventTo a 3) { s with bNoScanCompleteFlag := true, timer := false } := by
      rcases hs with hs | hs
      · refine (smEventTo_succ a 3 (by exact hs) _).trans ?_
        exact congrArg (handleTimerExpiry _) (at_state hs)
      · refine (smEventTo_succ a 3 (by exact hs) _).trans ?_
        exact congrArg (handleTimerExpiry _) (at_state hs)
    have hends : Ends (s.scanTimerExpired a) s.bInRequest 1 := by
      rw [he]
      exact handleTimerExpiry_ends 1 hs hq rfl ho hr ((track_running hq).mp hp) hn
    exact ⟨⟨hends.settled, hends.inRequest.trans hq⟩, hends.rank_le.trans_lt (by omega)⟩

theorem Settled.returned (h : s.Settled) (hq : s.bInRequest = true) :
    ({ s with bInRequest := false }.emit (.scanReturned s.returnStatus)).Inv := by
  have hcontra : s.bInRequest = false → ∀ P : Prop, P := fun h P =>
    absurd (h.symm.trans hq) Bool.false_ne_true
  have hok : ∀ r, s.returnStatus = tiOk → track s.log = some (s.phaseOf r) →
      track (s.log ++ [.scanReturned s.returnStatus]) = some (.running r) := by
    intro r hst hp
    rw [track_snoc, hp, phaseOf, hq, hst]
    rfl
  refine ⟨?_, rfl⟩
  cases h with
  | idle _ hq' | stopping _ hq' | psExit _ hq' => exact hcontra hq' _
  | failed r hs _ ht hb ho hp hr hst =>
    refine .idle hs rfl ht hb ho ?_
    show track (s.log ++ [.scanReturned s.returnStatus]) = _
    rw [track_snoc, hp]
    exact (if_neg hst).trans (if_neg hr)
  | psWait hs ht hb ho hx hp hst =>
    exact .psWait hs ht hb ho hx (hok _ (hst hq) hp) fun h => absurd h Bool.false_ne_true
  | scanning r hs ht hb ho hr hp hst =>
    exact .scanning r hs ht hb ho hr (hok _ (hst hq) hp) fun h => absurd h Bool.false_ne_true

theorem scan_inv {req : ScanRequest C} (hI : s.Inv) (hs : s.smState = .idle)
    (hsound : s.Sound (.scan req a)) : (s.scan a req).Inv := by
  obtain ⟨ht, hb, ho, hp⟩ : s.timer = false ∧ s.bTimerRunning = false ∧ s.psOwes = none ∧
      track s.log = some .idle := by
    obtain ⟨hset, hq⟩ := id hI
    cases hset with
    | idle _ _ ht hb ho hp => exact ⟨ht, hb.trans ht, ho, hp⟩
    | failed _ _ hq' => exact hI.free _ hq'
    | psWait hs' | stopping hs' | psExit hs' => simp [hs] at hs'
    | scanning _ hs' => simp [hs] at hs'
  have hp' : track (s.log ++ [.scan req]) = some (.requesting .none) := by
    rw [track_snoc, hp]
    rfl
  unfold scan
  rw [if_neg (not_not.mpr hs)]
  cases hd : req.bDriverMode with
  | true =>
    have hends : Ends (((s.copyRequest req).emit (.scan req)).smEvent a .requestPs) true 3 := by
      have he : ((s.copyRequest req).emit (.scan req)).smEvent a .requestPs = requestPs
          (smEventTo a 3) a { (s.copyRequest req).emit (.scan req) with smState := .psWait } :=
        smEventTo_succ (s := (s.copyRequest req).emit (.scan req)) a 3 hs _
      rw [he]
      exact requestPs_ends 0 rfl rfl ht hb hd hp' rfl (hsound hs hd)
    exact hends.settled.returned hends.inRequest
  | false =>
    have hends : Ends (((s.copyRequest req).emit (.scan req)).smEvent a .psSuccess) true 2 :=
      psSuccess_ends (s := (s.copyRequest req).emit (.scan req)) 1 (Or.inr hs) ho (Or.inl rfl) hp'
        fun _ hx => absurd (hd.symm.trans hx) Bool.false_ne_true
    exact hends.settled.returned hends.inRequest

theorem Inv.phase (hI : s.Inv) : s.smState = .idle ∧ track s.log = some .idle ∨
    s.smState ≠ .idle ∧ ∃ r, track s.log = some (.running r) := by
  obtain ⟨hset, hq⟩ := id hI
  cases hset with
  | idle hs _ _ _ _ hp => exact Or.inl ⟨hs, hp⟩
  | failed _ _ hq' => exact hI.free _ hq'
  | psWait hs _ _ _ _ hp => exact Or.inr ⟨by simp [hs], .none, (track_running hq).mp hp⟩
  | scanning r hs _ _ _ _ hp =>
    refine Or.inr ⟨?_, r, (track_running hq).mp hp⟩
    rcases hs with hs | hs <;> simp [hs]
  | stopping hs _ _ _ _ _ hp | psExit hs _ _ _ _ hp => exact Or.inr ⟨by simp [hs], _, hp⟩

theorem refused_agrees (hI : s.Inv) : Agrees s (s.emit (.scanReturned tiNok)) := by
  refine ⟨rfl, rfl, rfl, rfl, rfl, rfl, ?_⟩
  show track (s.log ++ [.scanReturned tiNok]) = _
  rw [track_snoc]
  rcases hI.phase with ⟨-, hp⟩ | ⟨-, r, hp⟩ <;> rw [hp] <;> rfl

theorem scanCompleteCb_moves {results : ScanCompleteResults} (hI : s.Inv) :
    s.Moves (s.scanCompleteCb a results) := by
  have hthen : ∀ t : Sys C, Agrees s t → s.Moves (t.smEvent a .scanComplete) := fun t h =>
    h.then hI (scanComplete_moves a)
  unfold scanCompleteCb
  cases s.bNoScanCompleteFlag <;> cases hsps : s.bSpsScan <;>
    simp only [hsps, if_true, if_false, Bool.false_eq_true] <;>
    exact hthen _ ⟨rfl, rfl, rfl, rfl, rfl, rfl, rfl⟩

theorem commandMailBoxCb_moves {mboxStatus : ℕ} (hI : s.Inv) :
    s.Moves (s.commandMailBoxCb a mboxStatus) := by
  unfold commandMailBoxCb
  by_cases hm : 0 < mboxStatus
  · rw [if_pos hm]
    exact (s.respond_agrees tiNok).then hI (scanComplete_moves a)
  · rw [if_neg hm]
    exact (s.respond_agrees tiOk).moves hI

theorem stopScanRequest_moves {eScanTag : ℕ} {bSendNullData : Bool} {status : ℕ} (hI : s.Inv) :
    s.Moves (s.stopScan a eScanTag bSendNullData status) := by
  have hagree : Agrees s ({ s with bSendNullData := bSendNullData }.emit
      (.cmdStopScan s.bSpsScan eScanTag)) :=
    ⟨rfl, rfl, rfl, rfl, rfl, rfl, (track_snoc _ _).trans (Option.bind_fun_some _)⟩
  unfold stopScan
  by_cases hst : status ≠ tiOk
  · rw [if_pos hst]
    exact hagree.moves hI
  · rw [if_neg hst]
    exact hagree.then hI (stopScan_moves a)

end Step

/-- **Every step but the request of an idle service** keeps the invariant and gets no farther from
the end of the scan. -/
theorem step_moves {i : Input C} (hI : s.Inv) (hquiet : s.Quiet i)
    (hsound : s.Sound i) (hscan : ∀ req a, i = .scan req a → s.smState ≠ .idle)
    (h : s.step i = some t) : s.Moves t := by
  cases i with
  | scan req a =>
    cases h
    rw [scan, if_pos (hscan req a rfl)]
    exact (refused_agrees hI).moves hI
  | stopScan eScanTag bSendNullData status a =>
    cases h
    exact stopScanRequest_moves a hI
  | psAnswer status a =>
    obtain ⟨howes, ⟨⟩⟩ := Option.ite_none_left_eq_some.mp h
    obtain ⟨hI', hlt⟩ := psAnswer_moves a hI howes
    exact ⟨hI', Or.inl hlt⟩
  | psReport status a =>
    obtain ⟨howes, ⟨⟩⟩ := Option.ite_none_right_eq_some.mp h
    exact psReport_moves a hI howes hsound
  | commandMailBoxCb mboxStatus a =>
    cases h
    exact commandMailBoxCb_moves a hI
  | scanCompleteCb results a =>
    cases h
    exact scanCompleteCb_moves a hI
  | scanTimerExpired a =>
    obtain ⟨htimer, ⟨⟩⟩ := Option.ite_none_right_eq_some.mp h
    obtain ⟨hI', hlt⟩ := scanTimerExpired_moves a hI htimer hquiet
    exact ⟨hI', Or.inl hlt⟩
  | stopOnFwReset | restart => exact absurd hquiet id

theorem Inv.step {i : Input C} (hI : s.Inv) (hquiet : s.Quiet i) (hsound : s.Sound i)
    (h : s.step i = some t) : t.Inv := by
  by_cases hidle : (∃ req a, i = .scan req a) ∧ s.smState = .idle
  · obtain ⟨⟨req, a, rfl⟩, hs⟩ := hidle
    cases h
    exact scan_inv a hI hs hsound
  · exact (step_moves hI hquiet hsound (fun req a hi hs => hidle ⟨⟨req, a, hi⟩, hs⟩) h).1

theorem inv_init (n : ℕ) : (init n : Sys C).Inv := ⟨.idle rfl rfl rfl rfl rfl rfl, rfl⟩

/-! ## The log -/

section Log

variable {self : Sys C → SmEvent → Sys C} (a : Answers) (s : Sys C)

theorem stopTimer_log : s.stopTimer.log = s.log := by
  unfold stopTimer
  split <;> rfl

theorem respond_log (status : ℕ) : s.log <+: (s.respond status).log := by
  obtain ⟨acts, he, -⟩ := s.respond_eq status
  rw [he]
  exact List.prefix_append _ _

theorem act_log (hself : ∀ (t : Sys C) e, t.log <+: (self t e).log) (action : Action) :
    s.log <+: (s.act self a action).log := by
  have hadd : ∀ (t : Sys C) e (x : Act C), t.log = s.log ++ [x] → s.log <+: (self t e).log := by
    intro t e x ht
    have he := hself t e
    rw [ht] at he
    exact (List.prefix_append s.log [x]).trans he
  cases action with
  | requestPs =>
    unfold act requestPs
    cases a.reserve with
    | isCurrent | pending | ok => exact hadd _ _ _ rfl
    | failed =>
      simp only
      split <;> exact hadd _ _ _ rfl
  | releasePs =>
    have hstop := s.stopTimer_log
    unfold act releasePs
    simp only
    split
    · split
      · exact hadd _ _ _ (congrArg (· ++ _) hstop)
      · exact (List.prefix_append s.log _).trans (by rw [← hstop]; exact List.prefix_rfl)
      · exact (List.prefix_append s.log _).trans (by rw [← hstop]; exact List.prefix_rfl)
      · exact hadd _ _ _ (congrArg (· ++ _) hstop)
    · exact hstop ▸ hself _ _
  | startActualScan =>
    unfold act startActualScan
    simp only
    split
    · exact hadd _ _ _ rfl
    · exact List.prefix_append _ _
  | notifyScanComplete =>
    show s.log <+: (s.notifyScanComplete a).log
    unfold notifyScanComplete
    split
    · exact List.prefix_rfl
    · exact (s.respond_log tiOk).trans (List.prefix_append _ _)
  | handleTimerExpiry =>
    show s.log <+: (s.handleTimerExpiry self).log
    unfold handleTimerExpiry
    simp only
    split
    · exact List.prefix_append _ _
    · exact hadd _ _ _ rfl
  | psFailWhileScanning | nop => exact List.prefix_rfl
  | handleRecovery | unexpected => exact s.stopTimer_log ▸ List.prefix_rfl

theorem smEventTo_log (depth : ℕ) (e : SmEvent) : s.log <+: (smEventTo a depth s e).log := by
  induction depth generalizing s e with
  | zero => exact List.prefix_rfl
  | succ depth ih => exact act_log a { s with smState := (smMatrix s.smState e).1 } ih _

theorem smEvent_log (e : SmEvent) : s.log <+: (s.smEvent a e).log := smEventTo_log a s 4 e

theorem scan_log (req : ScanRequest C) : s.log <+: (s.scan a req).log := by
  unfold scan
  split
  · exact List.prefix_append _ _
  · have he := smEvent_log a ((s.copyRequest req).emit (.scan req))
      (if req.bDriverMode then .requestPs else .psSuccess)
    exact ((List.prefix_append s.log _).trans he).trans (List.prefix_append _ _)

theorem step_log {t : Sys C} {i : Input C} (h : s.step i = some t) : s.log <+: t.log := by
  have hcb : ∀ a status, s.log <+: (s.powerSaveCb a status).log := by
    intro a status
    rw [powerSaveCb_eq]
    refine List.IsPrefix.trans ?_ (smEvent_log a _ _)
    exact List.prefix_append _ _
  cases i with
  | scan req a => exact Option.some.inj h ▸ scan_log a s req
  | stopScan eScanTag bSendNullData status a =>
    cases h
    unfold stopScan
    split
    · exact List.prefix_append _ _
    · refine List.IsPrefix.trans ?_ (smEvent_log a _ _)
      exact List.prefix_append _ _
  | psAnswer status a =>
    obtain ⟨-, ht⟩ := Option.ite_none_left_eq_some.mp h
    exact Option.some.inj ht ▸ hcb a status
  | psReport status a =>
    obtain ⟨-, ht⟩ := Option.ite_none_right_eq_some.mp h
    exact Option.some.inj ht ▸ hcb a status
  | commandMailBoxCb mboxStatus a =>
    cases h
    unfold commandMailBoxCb
    split
    · exact (s.respond_log _).trans (smEvent_log a _ _)
    · exact s.respond_log _
  | scanCompleteCb results a =>
    cases h
    unfold scanCompleteCb
    refine List.IsPrefix.trans ?_ (smEvent_log a _ _)
    cases s.bNoScanCompleteFlag <;> cases hsps : s.bSpsScan <;>
      simp only [hsps, if_true, if_false, Bool.false_eq_true] <;> exact List.prefix_rfl
  | scanTimerExpired a =>
    obtain ⟨-, ⟨⟩⟩ := Option.ite_none_right_eq_some.mp h
    exact smEvent_log a { s with bNoScanCompleteFlag := true, timer := false } _
  | stopOnFwReset a =>
    cases h
    exact smEvent_log a { s with returnStatus := tiNok } _
  | restart =>
    cases h
    exact (stopTimer_log { s with smState := .idle }) ▸ List.prefix_rfl

end Log

/-! ## Runs -/

def Timer : Input C → Prop
  | .scanTimerExpired _ => True
  | _ => False

/-- The power server gives an answer that it owes. -/
def Answer : Input C → Prop
  | .psAnswer _ _ => True
  | _ => False

theorem Inv.waits (hI : s.Inv) (hs : 0 < s.rank) : s.timer = true ∨ s.psOwes ≠ none := by
  obtain ⟨hset, hq⟩ := id hI
  cases hset with
  | idle hs' => simp [rank, hs'] at hs
  | failed _ _ hq' => exact hI.free _ hq'
  | scanning _ _ ht => exact Or.inl ht
  | psWait _ _ _ ho | stopping _ _ _ _ ho | psExit _ _ _ _ ho => exact Or.inr (by simp [ho])

section Runs

variable {r : Run (step (C := C))} {k : ℕ}

/-- A run without a reset, whose steps are sound. -/
structure Orderly (r : Run (step (C := C))) : Prop where
  start : ∃ n, r.state 0 = init n
  quiet : ∀ k i, r.input k = some i → (r.state k).Quiet i
  sound : ∀ k i, r.input k = some i → (r.state k).Sound i

/-- A scan is notified at instant `k`. -/
def NotifiedAt (r : Run (step (C := C))) (k : ℕ) : Prop :=
  ∃ acts n, (r.state (k + 1)).log = (r.state k).log ++ acts ∧
    .scanCompleteNotification .idle n ∈ acts

theorem Orderly.inv (h : Orderly r) (k : ℕ) : (r.state k).Inv := by
  induction k with
  | zero =>
    obtain ⟨n, hn⟩ := h.start
    exact hn ▸ inv_init n
  | succ k ih =>
    cases hi : r.input k with
    | none => rwa [r.rest hi]
    | some i => exact ih.step (h.quiet k i hi) (h.sound k i hi) (r.took hi)

theorem Orderly.moves (h : Orderly r) (hk : 0 < (r.state k).rank) :
    (r.state k).Moves (r.state (k + 1)) := by
  cases hi : r.input k with
  | none =>
    rw [r.rest hi]
    exact ⟨h.inv k, Or.inr ⟨rfl, rfl, rfl⟩⟩
  | some i =>
    refine step_moves (h.inv k) (h.quiet k i hi) (h.sound k i hi) (fun req a _ hs => ?_) (r.took hi)
    rw [rank, hs] at hk
    exact lt_irrefl 0 hk

theorem rank_leads (h : Orderly r) {A : Input C → Prop} {W : Sys C → Prop} (hfair : r.Fair A)
    (henabled : ∀ s, W s → Enabled step A s)
    (hW : ∀ s t : Sys C, W s → t.timer = s.timer → t.psOwes = s.psOwes → W t)
    (hless : ∀ s t : Sys C, ∀ i, s.Inv → s.Quiet i → A i → s.step i = some t → t.rank < s.rank)
    (hk : W (r.state k)) (hrank : 0 < (r.state k).rank) :
    ∃ j ≥ k, 0 < (r.state j).rank ∧ (r.state (j + 1)).rank < (r.state k).rank := by
  refine r.leads (P := fun s => W s ∧ s.rank = (r.state k).rank) (fun _ => 0) hfair
    (fun k hP => henabled _ hP.1) ?_ ?_ ⟨hk, rfl⟩
  · rintro j ⟨hWj, hj⟩ hQ
    have hpos : 0 < (r.state j).rank := hj ▸ hrank
    obtain ⟨-, hlt | ⟨heq, ht, ho⟩⟩ := h.moves hpos
    · exact absurd ⟨hpos, hj ▸ hlt⟩ hQ
    · exact ⟨⟨hW _ _ hWj ht ho, heq.trans hj⟩, le_rfl⟩
  · rintro j i ⟨-, hj⟩ hQ hi hA
    have hlt := hless _ _ i (h.inv j) (h.quiet j i hi) hA (r.took hi)
    exact absurd ⟨hj ▸ hrank, hj ▸ hlt⟩ hQ

theorem idle_leads (h : Orderly r) (htimer : r.Fair Timer) (hanswer : r.Fair Answer)
    (hk : 0 < (r.state k).rank) :
    ∃ m ≥ k, 0 < (r.state m).rank ∧ (r.state (m + 1)).rank = 0 := by
  induction hn : (r.state k).rank using Nat.strong_induction_on generalizing k with
  | _ n ih =>
    obtain ⟨j, hj, hpos, hlt⟩ :
        ∃ j ≥ k, 0 < (r.state j).rank ∧ (r.state (j + 1)).rank < (r.state k).rank := by
      rcases (h.inv k).waits hk with ht | ho
      · refine rank_leads h (W := fun s => s.timer = true) htimer ?_ ?_ ?_ ht hk
        · exact fun s hs => ⟨.scanTimerExpired ⟨.ok, tiOk, .ok, false⟩, trivial, _, if_pos hs⟩
        · exact fun s t hs ht _ => ht.trans hs
        · rintro s t i hI hq hA hst
          cases i with
          | scanTimerExpired a =>
            obtain ⟨ht, heq⟩ := Option.ite_none_right_eq_some.mp hst
            exact Option.some.inj heq ▸ (scanTimerExpired_moves a hI ht hq).2
          | _ => exact absurd hA id
      · refine rank_leads h (W := fun s => s.psOwes ≠ none) hanswer ?_ ?_ ?_ ho hk
        · exact fun s hs => ⟨.psAnswer .enterFail ⟨.ok, tiOk, .ok, false⟩, trivial, _, if_neg hs⟩
        · exact fun s t hs _ ho => ho ▸ hs
        · rintro s t i hI hq hA hst
          cases i with
          | psAnswer status a =>
            obtain ⟨ho, heq⟩ := Option.ite_none_left_eq_some.mp hst
            exact Option.some.inj heq ▸ (psAnswer_moves a hI ho).2
          | _ => exact absurd hA id
    rcases Nat.eq_zero_or_pos (r.state (j + 1)).rank with hz | hp
    · exact ⟨j, hj, hpos, hz⟩
    · obtain ⟨m, hm, hrest⟩ := ih _ (hn ▸ hlt) hp rfl
      exact ⟨m, by omega, hrest⟩

theorem rank_eq_zero {s : Sys C} : s.rank = 0 ↔ s.smState = .idle := by
  unfold rank
  cases s.smState <;> simp

theorem Orderly.notified (h : Orderly r) (hk : 0 < (r.state k).rank)
    (hnext : (r.state (k + 1)).rank = 0) : NotifiedAt r k := by
  have hbusy : (r.state k).smState ≠ .idle := fun hs => by
    rw [rank_eq_zero.mpr hs] at hk
    exact lt_irrefl 0 hk
  have hidle := rank_eq_zero.mp hnext
  obtain ⟨res, hp⟩ : ∃ res, track (r.state k).log = some (.running res) := by
    rcases (h.inv k).phase with ⟨hs, -⟩ | ⟨-, hp⟩
    · exact absurd hs hbusy
    · exact hp
  have hp' : track (r.state (k + 1)).log = some .idle := by
    rcases (h.inv (k + 1)).phase with ⟨-, hp'⟩ | ⟨hs, -⟩
    · exact hp'
    · exact absurd hidle hs
  obtain ⟨acts, hlog⟩ : (r.state k).log <+: (r.state (k + 1)).log := by
    cases hi : r.input k with
    | none => exact (r.rest hi).symm ▸ List.prefix_rfl
    | some i => exact step_log _ (r.took hi)
  rw [track, ← hlog, exec_append] at hp'
  obtain ⟨p, hp₁, hp₂⟩ := hp'
  cases hp.symm.trans hp₁
  obtain ⟨n, hn⟩ := exec_running hp₂
  exact ⟨acts, n, hlog.symm, hn⟩

end Runs

/-! ## Runs on fixed inputs -/

instance (s : Sys C) (i : Input C) : Decidable (s.Quiet i) := by
  unfold Quiet
  split <;> infer_instance

instance (s : Sys C) (i : Input C) : Decidable (s.Sound i) := by
  unfold Sound
  split <;> infer_instance

theorem Orderly.ofExec {n : ℕ} {is : List (Input C)}
    (he : (exec step (init n) is).isSome = true) (hquiet : Along step Quiet (init n) is)
    (hsound : Along step Sound (init n) is) : Orderly (Run.ofExec step (init n) is he) where
  start := ⟨n, rfl⟩
  quiet := Run.ofExec_along he hquiet
  sound := Run.ofExec_along he hsound

def driverScan : ScanRequest ℕ := ⟨false, 1, false, true, false, .on, true, none⟩

/-- The reservation is awaited, the firmware scans, and the release is awaited. -/
def completedScan : List (Input ℕ) :=
  [.scan driverScan ⟨.pending, tiOk, .ok, false⟩, .psAnswer .enterSuccess ⟨.ok, tiOk, .ok, true⟩,
    .scanCompleteCb ⟨10, 0, 1⟩ ⟨.ok, tiOk, .pending, true⟩,
    .psAnswer .exitSuccess ⟨.ok, tiOk, .ok, false⟩]

theorem completedScan_orderly : (exec step (init 3) completedScan).isSome = true ∧
    Along step Quiet (init 3) completedScan ∧ Along step Sound (init 3) completedScan := by
  decide +kernel

/-- The scan command is refused within the request, and the release is awaited. -/
def refusedScan : List (Input ℕ) :=
  [.scan driverScan ⟨.isCurrent, tiNok, .pending, true⟩,
    .psAnswer .exitSuccess ⟨.ok, tiOk, .ok, false⟩]

theorem refusedScan_log : (exec step (init 3) refusedScan).map log = some
    [.scan driverScan, .reservePs .on true .isCurrent, .cmdStartScan false 1 false tiNok,
      .releasePs true .pending, .scanReturned tiNok,
      .powerSaveCb (some .release) .psExit .exitSuccess,
      .scanCompleteNotification .idle ⟨1, 0, 0, false, tiNok, false⟩] := rfl

/-- A failure of the power server while the firmware scans reads as a success where the scan is to
go on without driver mode, and stops the timer. -/
example : (exec step (init 3)
    [.scan { driverScan with bScanOnDriverModeError := true } ⟨.isCurrent, tiOk, .ok, true⟩,
      .psReport .enterFail ⟨.ok, tiOk, .ok, false⟩]).map
      (fun t : Sys ℕ => (t.smState, t.timer)) = some (.scanning, false) := rfl

/-- A success that comes unasked starts a scan that nobody requested. -/
example : (exec step (init 3) [.psReport .exitSuccess ⟨.ok, tiOk, .ok, false⟩]).map
    (fun t : Sys ℕ => (t.smState, t.timer)) = some (.scanning, true) := rfl

end Sys

end ArchosGpl.Wlan.ScanSrv
