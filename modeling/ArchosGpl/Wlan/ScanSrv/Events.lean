import ArchosGpl.Wlan.ScanSrv.Model

/-!
# The events of the scan service

* `Sys.smEventTo_deep`: **no chain of events is deeper than four calls**.
* `Sys.Settled`: **the invariant**, which holds at the end of a request's events too.
-/

namespace ArchosGpl.Wlan.ScanSrv

open Lib

/-!
## What the scan service is for

`Phase` is the service as the layer above sees it: a scan request is taken up, is answered, and
where the answer is `TI_OK` one notification follows, from the idle state; a reservation of the
power server that succeeded is released once before. A failure that the power server reports while
the firmware scans withdraws the reservation. `track` follows a log through the phases.

* `exec_running`: **only a notification, from the idle state, ends a scan** that returned `TI_OK`.
-/

section Phases

/-- What has become of the power-save reservation of a scan. -/
inductive Reservation
  | none
  | held
  | withdrawn
  | released
  deriving DecidableEq

/-- The service as the layer above sees it. -/
inductive Phase
  | idle
  | requesting (r : Reservation)
  | running (r : Reservation)
  deriving DecidableEq

namespace Phase

def reserve : Phase → Option Phase
  | .requesting .none => some (.requesting .held)
  | .running .none => some (.running .held)
  | _ => none

/-- The service releases the power server, once. -/
def release : Phase → Option Phase
  | .requesting .none | .requesting .held => some (.requesting .released)
  | .running .none | .running .held => some (.running .released)
  | _ => none

/-- The power server reports a failure while the firmware scans: it has no reservation any more. -/
def withdraw : Phase → Option Phase
  | .running .none | .running .held | .running .withdrawn => some (.running .withdrawn)
  | _ => none

/-- A scan request returns. While a scan runs, a request is refused. -/
def answer : Phase → ℕ → Option Phase
  | .requesting r, status =>
    if status = tiOk then some (.running r) else if r = .held then none else some .idle
  | p, status => if status = tiOk then none else some p

/-- The notification of a scan that returned `TI_OK`. -/
def notify : Phase → SmState → Option Phase
  | .running r, state => if state = .idle ∧ r ≠ .held then some .idle else none
  | _, _ => none

variable {C : Type*}

/-- What may be seen, and what it means. -/
def step (p : Phase) : Act C → Option Phase
  | .scan _ => if p = .idle then some (.requesting .none) else none
  | .scanReturned status => p.answer status
  | .reservePs _ _ answer => if answer = .isCurrent then p.reserve else some p
  | .releasePs _ _ => p.release
  | .powerSaveCb owed state status =>
    if owed = some .reserve ∧ status = .enterSuccess then p.reserve
    else if state = .scanning ∧ (status = .enterFail ∨ status = .exitFail) then p.withdraw
    else some p
  | .scanCompleteNotification state _ => p.notify state
  | .cmdStartScan _ _ _ _ | .cmdStopScan _ _ | .commandResponse _ _ | .noScanCompleteFailure => some p

end Phase

variable {C : Type*}

/-- The phase that a log leads to, where it is one of the service. -/
def track (log : List (Act C)) : Option Phase := exec Phase.step .idle log

@[simp] theorem track_snoc (log : List (Act C)) (e : Act C) :
    track (log ++ [e]) = (track log).bind fun p => p.step e := by
  ext p
  simp [track, exec_snoc, Option.bind_eq_some_iff]

theorem step_running {r : Reservation} {e : Act C} {p : Phase}
    (h : Phase.step (.running r) e = some p) :
    (∃ r', p = .running r') ∨ ∃ n, e = .scanCompleteNotification .idle n := by
  cases e with
  | scanCompleteNotification state n =>
    obtain ⟨⟨rfl, -⟩, -⟩ := Option.ite_none_right_eq_some.mp h
    exact Or.inr ⟨n, rfl⟩
  | _ =>
    left
    cases r <;>
      simp only [Phase.step, Phase.answer, Phase.reserve, Phase.release, Phase.withdraw] at h <;>
      grind

theorem exec_running {r : Reservation} {acts : List (Act C)}
    (h : exec Phase.step (.running r) acts = some .idle) :
    ∃ n, Act.scanCompleteNotification .idle n ∈ acts := by
  induction acts generalizing r with
  | nil => cases h
  | cons e acts ih =>
    obtain ⟨p, hp, h⟩ := exec_cons.mp h
    rcases step_running hp with ⟨r', rfl⟩ | ⟨n, rfl⟩
    · obtain ⟨n, hn⟩ := ih h
      exact ⟨n, List.mem_cons_of_mem _ hn⟩
    · exact ⟨n, List.mem_cons_self⟩

end Phases

variable {C : Type*}

namespace Sys

/-! ## The depth of the calls -/

section Depth

variable (a : Answers) (depth : ℕ) {s : Sys C}

theorem at_state {state : SmState} (hs : s.smState = state) :
    ({ s with smState := state } : Sys C) = s := by
  subst hs
  rfl

theorem smEventTo_succ {state : SmState} (hs : s.smState = state) (e : SmEvent) :
    smEventTo a (depth + 1) s e =
      act (smEventTo a depth) a { s with smState := (smMatrix state e).1 } (smMatrix state e).2 := by
  subst hs
  rfl

theorem smEventTo_psSuccess (hs : s.smState = .psExit) :
    smEventTo a (depth + 1) s .psSuccess = notifyScanComplete a { s with smState := .idle } :=
  smEventTo_succ a depth hs _

theorem smEventTo_psFail (hs : s.smState = .psExit) :
    smEventTo a (depth + 1) s .psFail = notifyScanComplete a { s with smState := .idle } :=
  smEventTo_succ a depth hs _

theorem smEventTo_scanComplete (hs : s.smState = .scanning ∨ s.smState = .stopping) :
    smEventTo a (depth + 1) s .scanComplete =
      releasePs (smEventTo a depth) a { s with smState := .psExit } := by
  rcases hs with hs | hs <;> exact smEventTo_succ a depth hs _

end Depth

/-! ## The invariant -/

/-- The phase of a scan with a reservation, inside its request or after. -/
def phaseOf (s : Sys C) (r : Reservation) : Phase :=
  if s.bInRequest then .requesting r else .running r

/-- What is known of the reservation, from whether the service is to exit driver mode. -/
def Releasable (s : Sys C) (r : Reservation) : Prop :=
  r = .none ∨ r = if s.bExitFromDriverMode then .held else .withdrawn

/-- **The invariant**: where the service stands, after a call or at the end of a request's events. -/
inductive Settled (s : Sys C) : Prop
  | idle (hs : s.smState = .idle) (hq : s.bInRequest = false) (ht : s.timer = false)
      (hb : s.bTimerRunning = s.timer) (ho : s.psOwes = none) (hp : track s.log = some .idle)
  /-- The request has failed, and is going to return an error. -/
  | failed (r : Reservation) (hs : s.smState = .idle) (hq : s.bInRequest = true)
      (ht : s.timer = false) (hb : s.bTimerRunning = s.timer) (ho : s.psOwes = none)
      (hp : track s.log = some (.requesting r)) (hr : r ≠ .held) (hst : s.returnStatus ≠ tiOk)
  | psWait (hs : s.smState = .psWait) (ht : s.timer = false) (hb : s.bTimerRunning = s.timer)
      (ho : s.psOwes = some .reserve) (hx : s.bExitFromDriverMode = true)
      (hp : track s.log = some (s.phaseOf .none)) (hst : s.bInRequest → s.returnStatus = tiOk)
  /-- The firmware scans: SCANNING, or STOPPING after it. -/
  | scanning (r : Reservation) (hs : s.smState = .scanning ∨ s.smState = .stopping)
      (ht : s.timer = true) (hb : s.bTimerRunning = s.timer) (ho : s.psOwes = none)
      (hr : s.Releasable r) (hp : track s.log = some (s.phaseOf r))
      (hst : s.bInRequest → s.returnStatus = tiOk)
  /-- STOPPING before the power server has answered. -/
  | stopping (hs : s.smState = .stopping) (hq : s.bInRequest = false) (ht : s.timer = false)
      (hb : s.bTimerRunning = s.timer) (ho : s.psOwes = some .reserve)
      (hx : s.bExitFromDriverMode = true) (hp : track s.log = some (.running .none))
  | psExit (hs : s.smState = .psExit) (hq : s.bInRequest = false) (ht : s.timer = false)
      (hb : s.bTimerRunning = s.timer) (ho : s.psOwes = some .release)
      (hp : track s.log = some (.running .released))

/-- How far the end of the scan is, in calls that it waits for. -/
def rank (s : Sys C) : ℕ :=
  match s.smState with
  | .idle => 0
  | .psExit => 1
  | .scanning | .stopping => 2
  | .psWait => 3

/-- Where an event leads to: within the same request, and near enough to the end. -/
structure Ends (t : Sys C) (bInRequest : Bool) (rank : ℕ) : Prop where
  settled : t.Settled
  inRequest : t.bInRequest = bInRequest
  rank_le : t.rank ≤ rank

theorem Ends.mono {t : Sys C} {q : Bool} {m n : ℕ} (hmn : m ≤ n) (h : Ends t q m) : Ends t q n :=
  ⟨h.settled, h.inRequest, Nat.le_trans h.rank_le hmn⟩

theorem stopTimer_eq {s : Sys C} (h : s.timer = true → s.bTimerRunning = true) :
    s.stopTimer = { s with timer := false, bTimerRunning := false } := by
  unfold stopTimer
  split
  · rfl
  · obtain ⟨⟩ := s
    simp_all

theorem respond_eq (s : Sys C) (status : ℕ) : ∃ acts,
    s.respond status = { s with commandResponse := none, log := s.log ++ acts } ∧
      track (s.log ++ acts) = track s.log := by
  obtain ⟨_, commandResponse, _⟩ := s
  cases commandResponse with
  | none => exact ⟨[], by simp [respond], by simp⟩
  | some cb => exact ⟨[.commandResponse cb status], rfl, by simp [Phase.step]⟩

section Events

variable {a : Answers} (depth : ℕ) {s : Sys C} {r : Reservation}

/-- **The end of a scan**: notified, unless the request is still to return. -/
theorem notifyScanComplete_ends (hs : s.smState = .idle) (ht : s.timer = false)
    (hb : s.bTimerRunning = false) (ho : s.psOwes = none) (hp : track s.log = some (s.phaseOf r))
    (hr : r ≠ .held) (hst : s.bInRequest → s.returnStatus ≠ tiOk) :
    Ends (s.notifyScanComplete a) s.bInRequest 0 := by
  unfold phaseOf at hp
  by_cases hq : s.bInRequest = true
  · rw [notifyScanComplete, if_pos hq]
    rw [if_pos hq] at hp
    exact ⟨.failed r hs hq ht (hb.trans ht.symm) ho hp hr (hst hq), rfl, by simp only [rank, hs, Nat.le_refl]⟩
  · rw [notifyScanComplete, if_neg hq]
    rw [if_neg hq] at hp
    obtain ⟨acts, he, hl⟩ := s.respond_eq tiOk
    simp only [he, emit]
    refine ⟨.idle hs (eq_false_of_ne_true hq) ht (hb.trans ht.symm) ho ?_, rfl,
      by simp only [rank, hs, Nat.le_refl]⟩
    rw [track_snoc, hl, hp]
    simp [Phase.step, Phase.notify, hs, hr]

/-- The state in which the power server is asked for the release. -/
def released (a : Answers) (s : Sys C) : Sys C :=
  { s with
    timer := false
    bTimerRunning := false
    psOwes := if a.release.later then some .release else none
    log := s.log ++ [.releasePs s.bSendNullData a.release] }

theorem releasePs_eq (hs : s.smState = .psExit) (ht : s.timer = true → s.bTimerRunning = true) :
    s.releasePs (smEventTo a (depth + 1)) a =
      if s.bExitFromDriverMode then
        if a.release.later then s.released a
        else notifyScanComplete a { s.released a with smState := .idle }
      else notifyScanComplete a
        { s with timer := false, bTimerRunning := false, smState := .idle } := by
  unfold releasePs released
  rw [stopTimer_eq ht]
  cases hx : s.bExitFromDriverMode with
  | false => exact smEventTo_psSuccess a depth hs
  | true =>
    simp only [if_true, emit]
    cases a.release with
    | isCurrent => exact smEventTo_psSuccess a depth hs
    | failed => exact smEventTo_psFail a depth hs
    | pending | ok => rfl

/-- **The release**: the power server answers later, or the scan ends here. -/
theorem releasePs_ends (hs : s.smState = .psExit) (ht : s.timer = true → s.bTimerRunning = true)
    (ho : s.bExitFromDriverMode = false → s.psOwes = none) (hr : s.Releasable r)
    (hp : track s.log = some (s.phaseOf r)) (hst : s.bInRequest → s.returnStatus ≠ tiOk)
    (hl : s.bInRequest → s.bExitFromDriverMode → a.release.later = false) :
    Ends (s.releasePs (smEventTo a (depth + 1)) a) s.bInRequest 1 := by
  rw [releasePs_eq depth hs ht]
  by_cases hx : s.bExitFromDriverMode = true
  · have hp' : track (s.released a).log = some (s.phaseOf .released) := by
      rw [released, track_snoc, hp]
      unfold phaseOf
      rcases hr with rfl | rfl
      · cases s.bInRequest <;> rfl
      · rw [if_pos hx]
        cases s.bInRequest <;> rfl
    rw [if_pos hx]
    by_cases hlater : a.release.later = true
    · have hq : s.bInRequest = false := by
        by_contra hq
        rw [Bool.not_eq_false] at hq
        rw [hl hq hx] at hlater
        cases hlater
      rw [if_pos hlater]
      refine ⟨.psExit hs hq rfl rfl (if_pos hlater) ?_, rfl,
        by simp only [rank, released, hs, Nat.le_refl]⟩
      rwa [phaseOf, hq] at hp'
    · rw [if_neg hlater]
      exact Ends.mono (Nat.zero_le 1) (notifyScanComplete_ends (r := .released) rfl rfl rfl
        (if_neg hlater) hp' (by simp) hst)
  · rw [if_neg hx]
    refine Ends.mono (Nat.zero_le 1) (notifyScanComplete_ends (r := r) rfl rfl rfl
      (ho (eq_false_of_ne_true hx)) hp ?_ hst)
    rintro rfl
    simp [Releasable, hx] at hr

theorem scanComplete_ends (hs : s.smState = .scanning ∨ s.smState = .stopping)
    (ht : s.timer = true → s.bTimerRunning = true)
    (ho : s.bExitFromDriverMode = false → s.psOwes = none) (hr : s.Releasable r)
    (hp : track s.log = some (s.phaseOf r)) (hst : s.bInRequest → s.returnStatus ≠ tiOk)
    (hl : s.bInRequest → s.bExitFromDriverMode → a.release.later = false) :
    Ends (smEventTo a (depth + 2) s .scanComplete) s.bInRequest 1 := by
  rw [smEventTo_scanComplete a _ hs]
  exact releasePs_ends depth rfl ht ho hr hp hst hl

/-- **The scan command**: the firmware scans, or the scan ends here. -/
theorem startActualScan_ends (hs : s.smState = .scanning) (ho : s.psOwes = none)
    (hr : s.Releasable r) (hp : track s.log = some (s.phaseOf r))
    (hl : s.bInRequest → s.bExitFromDriverMode → a.startScan ≠ tiOk → a.release.later = false) :
    Ends (s.startActualScan (smEventTo a (depth + 2)) a) s.bInRequest 2 := by
  have hp' : track (s.log ++ [.cmdStartScan s.scanType s.eScanTag s.bHighPriority a.startScan]) =
      some (s.phaseOf r) := by
    rw [track_snoc, hp]
    rfl
  unfold startActualScan
  by_cases ha : a.startScan = tiOk
  · simp only [emit, ha, ne_eq, not_true_eq_false, if_false]
    rw [ha] at hp'
    exact ⟨.scanning r (Or.inl hs) rfl rfl ho hr hp' fun _ => rfl, rfl,
      by simp only [rank, hs, Nat.le_refl]⟩
  · simp only [emit, ne_eq, ha, not_false_eq_true, if_true]
    exact Ends.mono (Nat.le_succ 1) (scanComplete_ends depth (Or.inl hs) (fun _ => rfl)
      (fun _ => ho) hr hp' (fun _ => ha) fun hq hx => hl hq hx ha)

theorem psSuccess_ends (hs : s.smState = .psWait ∨ s.smState = .idle) (ho : s.psOwes = none)
    (hr : s.Releasable r) (hp : track s.log = some (s.phaseOf r))
    (hl : s.bInRequest → s.bExitFromDriverMode → a.startScan ≠ tiOk → a.release.later = false) :
    Ends (smEventTo a (depth + 3) s .psSuccess) s.bInRequest 2 := by
  have he : smEventTo a (depth + 3) s .psSuccess =
      startActualScan (smEventTo a (depth + 2)) a { s with smState := .scanning } := by
    rcases hs with hs | hs <;> exact smEventTo_succ a _ hs _
  rw [he]
  exact startActualScan_ends depth rfl ho hr hp hl

theorem psFail_ends (hs : s.smState = .psWait ∨ s.smState = .stopping)
    (ht : s.timer = true → s.bTimerRunning = true)
    (ho : s.bExitFromDriverMode = false → s.psOwes = none) (hr : s.Releasable r)
    (hp : track s.log = some (s.phaseOf r)) (hst : s.bInRequest → s.returnStatus ≠ tiOk)
    (hl : s.bInRequest → s.bExitFromDriverMode → a.release.later = false) :
    Ends (smEventTo a (depth + 2) s .psFail) s.bInRequest 1 := by
  have he : smEventTo a (depth + 2) s .psFail =
      releasePs (smEventTo a (depth + 1)) a { s with smState := .psExit } := by
    rcases hs with hs | hs <;> exact smEventTo_succ a _ hs _
  rw [he]
  exact releasePs_ends depth rfl ht ho hr hp hst hl

theorem psPend_ends (hs : s.smState = .psWait) (h : s.Settled) :
    Ends (smEventTo a (depth + 1) s .psPend) s.bInRequest 3 := by
  have he : smEventTo a (depth + 1) s .psPend = s :=
    (smEventTo_succ a depth hs _).trans (at_state hs)
  rw [he]
  exact ⟨h, rfl, by simp only [rank, hs, Nat.le_refl]⟩

theorem requestPs_ends (hs : s.smState = .psWait) (hq : s.bInRequest = true)
    (ht : s.timer = false) (hb : s.bTimerRunning = false) (hx : s.bExitFromDriverMode = true)
    (hp : track s.log = some (.requesting .none)) (hst : s.returnStatus = tiOk)
    (hl : a.reserve = .isCurrent → a.startScan ≠ tiOk → a.release.later = false) :
    Ends (s.requestPs (smEventTo a (depth + 3)) a) s.bInRequest 3 := by
  have hask : ∀ answer, track (s.log ++ [.reservePs s.psRequest s.bSendNullData answer]) =
      some (s.phaseOf (if answer = .isCurrent then .held else .none)) := by
    intro answer
    rw [track_snoc, hp, phaseOf, if_pos hq]
    cases answer <;> rfl
  have htimer : s.timer = true → s.bTimerRunning = true := by
    rw [ht]
    exact fun h => absurd h Bool.false_ne_true
  unfold requestPs
  cases ha : a.reserve with
  | isCurrent =>
    exact Ends.mono (Nat.le_succ 2) (psSuccess_ends depth (r := .held) (Or.inl hs) rfl
      (Or.inr (if_pos hx).symm) (hask .isCurrent) fun _ _ => hl ha)
  | pending | ok =>
    exact psPend_ends (depth + 2) hs
      (.psWait hs ht (hb.trans ht.symm) rfl hx (hask _) fun _ => hst)
  | failed =>
    simp only [emit, PsAnswer.later, Bool.false_eq_true, if_false]
    split
    · exact Ends.mono (Nat.le_succ 2) (psSuccess_ends depth (r := .none) (Or.inl hs) rfl
        (Or.inl rfl) (hask .failed) fun _ h => absurd h Bool.false_ne_true)
    · exact Ends.mono (by omega) (psFail_ends (depth + 1) (r := .none) (Or.inl hs) htimer
        (fun _ => rfl) (Or.inl rfl) (hask .failed) (fun _ => Nat.one_ne_zero)
        fun _ h => absurd h Bool.false_ne_true)

/-- **The timer**: below the number of timeouts for a recovery, the scan ends as if it completed. -/
theorem handleTimerExpiry_ends (hs : s.smState = .scanning ∨ s.smState = .stopping)
    (hq : s.bInRequest = false) (ht : s.timer = false) (ho : s.psOwes = none)
    (hr : s.Releasable r) (hp : track s.log = some (.running r))
    (hn : (s.currentNumberOfConsecutiveNoScanCompleteEvents + 1) % 2 ^ 32 <
      s.numberOfNoScanCompleteToRecovery) :
    Ends (s.handleTimerExpiry (smEventTo a (depth + 2))) s.bInRequest 1 := by
  have hno : ∀ P : Prop, s.bInRequest = true → P := by
    rw [hq]
    exact fun _ h => absurd h Bool.false_ne_true
  unfold handleTimerExpiry
  rw [if_neg (Nat.not_le.mpr hn)]
  refine scanComplete_ends depth (r := r) hs ?_ (fun _ => ho) hr ?_ (hno _) (hno _)
  · exact fun h => absurd (ht.symm.trans h) Bool.false_ne_true
  · simp only [emit, track_snoc, hp, phaseOf, hq]
    rfl

end Events

end Sys

end ArchosGpl.Wlan.ScanSrv
