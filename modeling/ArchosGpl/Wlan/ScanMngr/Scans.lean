import ArchosGpl.Wlan.ScanMngr.Model

/-!
# The scans of the scan manager

* **`states_follow_scans`**: in every run whose steps satisfy `Keeps`, each of the two states is
  different from idle exactly if a scan of that kind is outstanding in the concentrator, and every
  immediate scan that was accepted is answered to the roaming manager exactly once. `Keeps` leaves
  out a final callback from inside `scanMngr_stopContScan` and an immediate scan that the
  concentrator refuses.
* **`scan_lost`**: the two runs.
* **`never_scans_again`**: the state that is left behind is never idle again.
-/

namespace ArchosGpl.Wlan.ScanMngr

open Lib
open Wlan.ScanCncn (EScanCncnResultStatus)

/-! ## What is proved -/

def Entry.isAnswer : Entry → Bool
  | .accepted => false
  | .answered _ => true

/-- The immediate scans that were accepted since the last answer. -/
def unanswered (log : List Entry) : ℕ := (since Entry.isAnswer log).count .accepted

/-- A scan is accepted when none is unanswered, an answer is given when one is. -/
def InTurn (p : List Entry) : Entry → Prop
  | .accepted => unanswered p = 0
  | .answered _ => unanswered p = 1

@[simp] theorem unanswered_accepted (log : List Entry) :
    unanswered (log ++ [.accepted]) = unanswered log + 1 := by
  simp [unanswered, since_snoc_of_other (M := Entry.isAnswer) (e := Entry.accepted) rfl]

@[simp] theorem unanswered_answered (log : List Entry) (scanCmpltStatus : ScanMngrResultStatus) :
    unanswered (log ++ [.answered scanCmpltStatus]) = 0 := by
  rw [unanswered, since_snoc_of_mark rfl]
  rfl

namespace Sys

variable {s t : Sys} {f : Found}

/-- The states follow the scans that are outstanding, and each accepted immediate scan has one
answer, or is outstanding. -/
structure FollowsScans (s : Sys) : Prop where
  cont : s.contScanState ≠ .idle ↔ s.bContOutstanding = true
  immed : s.immedScanState ≠ .idle ↔ s.bImmedOutstanding = true
  inTurn : Each InTurn s.log
  owed : unanswered s.log = if s.bImmedOutstanding then 1 else 0

/-- `scanMngr_startImmediateScan` sends a command. -/
def SendsImmediate (s : Sys) (f : Found) : Prop :=
  s.immedScanState = .idle ∧
    ((hasImmediate s.scanPolicy.gPolicy = true ∧
        0 < addChannels scanMaxNumOfNormalChannelsPerCommand f.gChannels 0) ∨
      (hasImmediate s.scanPolicy.aPolicy = true ∧
        0 < addChannels scanMaxNumOfNormalChannelsPerCommand f.aChannels 0))

/-- The condition: the continuous scan does not end inside the stop of `scanMngr_stopContScan`, and
the concentrator does not refuse an immediate scan. -/
def Keeps (s : Sys) : Input → Prop
  | .contScanCB _ _ => Frame.stopContScan ∉ s.stack
  | .startImmediateScan f => s.SendsImmediate f → f.resultStatus = .scanRunning
  | _ => True

/-! ## The invariant -/

/-- The part of the invariant that the continuous scan does not touch. -/
structure Core (s : Sys) : Prop where
  immed : s.immedScanState ≠ .idle ↔ s.bImmedOutstanding = true
  inTurn : Each InTurn s.log
  owed : unanswered s.log = if s.bImmedOutstanding then 1 else 0
  room : s.numOfChannels ≤ scanMaxNumOfSpsChannelsPerCommand

/-- The invariant. A continuous scan that `scanMngr_stopContScan` is stopping is outstanding. -/
structure Inv (s : Sys) : Prop where
  core : s.Core
  cont : s.contScanState ≠ .idle ↔ s.bContOutstanding = true
  stopping : Frame.stopContScan ∈ s.stack → s.bContOutstanding = true

theorem Inv.followsScans (h : s.Inv) : s.FollowsScans :=
  ⟨h.cont, h.core.immed, h.core.inTurn, h.core.owed⟩

/-- No continuous scan is outstanding and none is being stopped; the state is yet to be set. -/
structure Quiet (c : ContScanState) (s : Sys) : Prop where
  core : s.Core
  state : s.contScanState = c
  notOutstanding : s.bContOutstanding = false
  notStopping : Frame.stopContScan ∉ s.stack

variable {c : ContScanState}

theorem Quiet.inv (h : Quiet .idle s) : s.Inv where
  core := h.core
  cont := by simp [h.state, h.notOutstanding]
  stopping := fun hm => absurd hm h.notStopping

theorem Quiet.toIdle (h : Quiet c s) : ({ s with contScanState := .idle } : Sys).Inv :=
  Quiet.inv ⟨⟨h.core.immed, h.core.inTurn, h.core.owed, h.core.room⟩, rfl, h.notOutstanding,
    h.notStopping⟩

theorem Inv.quiet (h : s.Inv) (hs : s.contScanState = .idle) : Quiet .idle s := by
  have hout : s.bContOutstanding = false := by
    by_contra hne
    exact h.cont.mpr (by simpa using hne) hs
  exact ⟨h.core, hs, hout, fun hm => by simp [h.stopping hm] at hout⟩

/-! ## Building a command -/

theorem addChannels_le (limit : ℕ) {numOfChannels : ℕ} (channels : List Bool)
    (h : numOfChannels ≤ limit) : addChannels limit channels numOfChannels ≤ limit := by
  induction channels generalizing numOfChannels with
  | nil => exact h
  | cons bValid channels ih =>
    rw [addChannels]
    split
    · refine ih ?_
      split <;> omega
    · exact h

theorem Core.setChannels {numOfChannels : ℕ} (h : s.Core)
    (hn : numOfChannels ≤ scanMaxNumOfSpsChannelsPerCommand) :
    ({ s with numOfChannels := numOfChannels } : Sys).Core :=
  ⟨h.immed, h.inTurn, h.owed, hn⟩

theorem Core.buildScanCommand (h : s.Core) (channels : List Bool) :
    (s.buildScanCommand channels).Core :=
  h.setChannels (addChannels_le _ channels (Nat.zero_le _))

theorem Quiet.buildScanCommand (h : Quiet c s) (channels : List Bool) :
    Quiet c (s.buildScanCommand channels) :=
  ⟨h.core.buildScanCommand channels, h.state, h.notOutstanding, h.notStopping⟩

theorem Inv.buildScanCommand (h : s.Inv) (channels : List Bool) :
    (s.buildScanCommand channels).Inv :=
  ⟨h.core.buildScanCommand channels, h.cont, h.stopping⟩

theorem Quiet.buildDiscoveryScanCommand (h : Quiet c s) (f : Found) :
    Quiet c (s.buildDiscoveryScanCommand f) := by
  unfold Sys.buildDiscoveryScanCommand
  split
  · exact h
  · rename_i p _
    have hfirst := addChannels_le (min p.numOfChannelsForDiscovery
      scanMaxNumOfNormalChannelsPerCommand) f.discoveryFirst (Nat.zero_le _)
    have hlimit : min p.numOfChannelsForDiscovery scanMaxNumOfNormalChannelsPerCommand ≤
        scanMaxNumOfSpsChannelsPerCommand := Nat.min_le_right _ _
    refine ⟨h.core.setChannels ?_, h.state, h.notOutstanding, h.notStopping⟩
    split
    · exact Nat.le_trans (addChannels_le _ f.discoverySecond hfirst) hlimit
    · exact Nat.le_trans hfirst hlimit

/-! ## The continuous scan -/

theorem Quiet.startCont (h : Quiet c s) {c' : ContScanState} (hc : c' ≠ .idle)
    (resultStatus : EScanCncnResultStatus) : (s.startCont c' resultStatus).Inv := by
  unfold Sys.startCont
  split
  · exact ⟨⟨h.core.immed, h.core.inTurn, h.core.owed, h.core.room⟩, by simp [hc], fun _ => rfl⟩
  · exact h.toIdle

/-- After an attempt to start a scan: the invariant holds if a command was sent. -/
def Tried (c : ContScanState) : Sys × Bool → Prop
  | (s, true) => s.Inv
  | (s, false) => Quiet c s

theorem Tried.orElse {p : Sys × Bool} {next : Sys → Sys} (h : Tried c p)
    (hnext : ∀ s, Quiet c s → (next s).Inv) : (Sys.orElse p next).Inv := by
  obtain ⟨s, _ | _⟩ := p
  · exact hnext s h
  · exact h

theorem Quiet.startTracking (h : Quiet c s) (bandPolicy : Option ScanBandPolicy)
    (channels : List Bool) {c' : ContScanState} (hc : c' ≠ .idle)
    (resultStatus : EScanCncnResultStatus) :
    Tried c (s.startTracking bandPolicy channels c' resultStatus) := by
  have hb := h.buildScanCommand channels
  unfold Sys.startTracking
  split
  · split
    · dsimp only
      split
      · exact hb.startCont hc resultStatus
      · exact hb
    · exact h
  · exact h

theorem Quiet.startDiscovery (h : Quiet c s) (f : Found) : Tried c (s.startDiscovery f) := by
  have hb := h.buildDiscoveryScanCommand f
  unfold Sys.startDiscovery
  split
  · dsimp only
    split
    · exact hb.startCont (by simp) f.resultStatus
    · exact hb
  · exact h

theorem Inv.performContinuousScan (h : s.Inv) (f : Found) : (s.performContinuousScan f).Inv := by
  unfold Sys.performContinuousScan
  split
  · exact h
  · rename_i hidle
    split
    · exact h
    · have hq := h.quiet (not_not.mp hidle)
      refine (hq.startTracking _ _ (by simp) _).orElse fun u hu => ?_
      refine (hu.startTracking _ _ (by simp) _).orElse fun v hv => ?_
      have hd := hv.startDiscovery f
      generalize v.startDiscovery f = p at hd
      obtain ⟨w, _ | _⟩ := p
      · exact hd.inv
      · exact hd

theorem Quiet.contDiscover (h : Quiet c s) (f : Found) : (s.contDiscover f).Inv :=
  (h.startDiscovery f).orElse fun _ hu => hu.toIdle

theorem Quiet.contScanCB (h : Quiet c s) (resultStatus : EScanCncnResultStatus) (f : Found) :
    (s.contScanCB resultStatus f).Inv := by
  unfold Sys.contScanCB
  rw [if_neg (Nat.not_lt.mpr h.core.room)]
  split
  · split
    · exact (h.startTracking _ _ (by simp) _).orElse fun u hu => hu.contDiscover f
    · exact h.contDiscover f
    · exact h.toIdle
    · exact h.toIdle
    · exact h.toIdle
  · exact h.toIdle

theorem Inv.stop (h : s.Inv) (hs : s.contScanState ≠ .idle) (frame : Frame) :
    ({ s with contScanState := .stopping, stack := frame :: s.stack } : Sys).Inv where
  core := ⟨h.core.immed, h.core.inTurn, h.core.owed, h.core.room⟩
  cont := by simpa using h.cont.mp hs
  stopping := fun _ => h.cont.mp hs

theorem markContStopping_eq (s : Sys) : s.markContStopping =
    { s with
      contScanState := if s.contScanState ≠ .idle then .stopping else s.contScanState } := by
  unfold Sys.markContStopping
  split <;> rfl

theorem Inv.markContStopping (h : s.Inv) : s.markContStopping.Inv := by
  unfold Sys.markContStopping
  split
  · rename_i hs
    exact ⟨⟨h.core.immed, h.core.inTurn, h.core.owed, h.core.room⟩, by simpa using h.cont.mp hs,
      h.stopping⟩
  · exact h

theorem Inv.stopContScan (h : s.Inv) : s.stopContScan.Inv := by
  unfold Sys.stopContScan
  split
  · dsimp only
    have hcore : ({ s with bContinuousScanStarted := false } : Sys).Core :=
      ⟨h.core.immed, h.core.inTurn, h.core.owed, h.core.room⟩
    split
    · rename_i hs
      exact ⟨⟨hcore.immed, hcore.inTurn, hcore.owed, hcore.room⟩, h.cont,
        fun _ => h.cont.mp hs.1⟩
    · exact ⟨hcore, h.cont, h.stopping⟩
  · exact h

theorem Inv.handoverDone (h : s.Inv) : s.handoverDone.Inv := by
  unfold Sys.handoverDone
  split
  · rename_i hs
    exact h.stop hs .handoverDone
  · exact h

/-! ## The immediate scan -/

/-- The final callback of an immediate scan is being handled: it is still to be answered. -/
structure Due (s : Sys) : Prop where
  state : s.immedScanState ≠ .idle
  notOutstanding : s.bImmedOutstanding = false
  inTurn : Each InTurn s.log
  owed : unanswered s.log = 1
  room : s.numOfChannels ≤ scanMaxNumOfSpsChannelsPerCommand
  cont : s.contScanState ≠ .idle ↔ s.bContOutstanding = true
  stopping : Frame.stopContScan ∈ s.stack → s.bContOutstanding = true

theorem Inv.due (h : s.Inv) (hout : s.bImmedOutstanding = true) :
    ({ s with bImmedOutstanding := false } : Sys).Due := by
  refine ⟨h.core.immed.mpr hout, rfl, h.core.inTurn, ?_, h.core.room, h.cont, h.stopping⟩
  have howed := h.core.owed
  rwa [if_pos hout] at howed

theorem Due.endImmed (h : s.Due) (scanCmpltStatus : ScanMngrResultStatus) :
    (s.endImmed scanCmpltStatus).Inv := by
  refine ⟨⟨?_, each_snoc.mpr ⟨h.inTurn, h.owed⟩, ?_, h.room⟩, h.cont, h.stopping⟩
  · simp [Sys.endImmed, immediateScanComplete, h.notOutstanding]
  · simp [Sys.endImmed, immediateScanComplete, h.notOutstanding]

theorem Due.buildScanCommand (h : s.Due) (channels : List Bool) :
    (s.buildScanCommand channels).Due :=
  ⟨h.state, h.notOutstanding, h.inTurn, h.owed, addChannels_le _ channels (Nat.zero_le _), h.cont,
    h.stopping⟩

theorem Due.immedNextBand (h : s.Due) (f : Found) : (s.immedNextBand f).Inv := by
  have hb := h.buildScanCommand f.aChannels
  unfold Sys.immedNextBand
  split
  · split
    · dsimp only
      split
      · exact ⟨⟨by simp, hb.inTurn, hb.owed, hb.room⟩, hb.cont, hb.stopping⟩
      · exact hb.endImmed _
    · exact h.endImmed _
  · exact h.endImmed _

theorem Due.immedScanCB (h : s.Due) (resultStatus : EScanCncnResultStatus) (f : Found) :
    (s.immedScanCB resultStatus f).Inv := by
  unfold Sys.immedScanCB
  split
  · split
    · exact h.immedNextBand f
    · exact h.endImmed _
    · exact h.endImmed _
    · rename_i hidle
      exact absurd hidle h.state
  · exact h.endImmed _

theorem Core.notOutstanding (h : s.Core) (hs : s.immedScanState = .idle) :
    s.bImmedOutstanding = false := by
  by_contra hne
  exact h.immed.mpr (by simpa using hne) hs

theorem Inv.startImmed (h : s.Inv) (hs : s.immedScanState = .idle) {i : ImmedScanState}
    (hi : i ≠ .idle) {resultStatus : EScanCncnResultStatus} (hrun : resultStatus = .scanRunning) :
    (s.startImmed i resultStatus).1.Inv := by
  have hnone : unanswered s.log = 0 := by
    have howed := h.core.owed
    rwa [h.core.notOutstanding hs, if_neg (by simp)] at howed
  have hcont := h.markContStopping.cont
  rw [markContStopping_eq] at hcont
  rw [Sys.startImmed, markContStopping_eq, if_pos hrun]
  refine ⟨⟨by simp [hi], each_snoc.mpr ⟨h.core.inTurn, hnone⟩, ?_, h.core.room⟩, hcont, h.stopping⟩
  simp [hnone]

theorem Inv.startImmedABand (h : s.Inv) (hs : s.immedScanState = .idle)
    (hrun : (hasImmediate s.scanPolicy.aPolicy = true ∧
      0 < addChannels scanMaxNumOfNormalChannelsPerCommand f.aChannels 0) →
      f.resultStatus = .scanRunning) : (s.startImmedABand f).1.Inv := by
  have hb := h.buildScanCommand f.aChannels
  unfold Sys.startImmedABand
  split
  · rename_i ha
    dsimp only
    split
    · exact hb
    · rename_i hn
      exact hb.startImmed hs (by simp) (hrun ⟨ha, Nat.pos_of_ne_zero hn⟩)
  · exact h

theorem Inv.startImmediateScan (h : s.Inv)
    (hrun : s.SendsImmediate f → f.resultStatus = .scanRunning) :
    (s.startImmediateScan f).1.Inv := by
  have hb := h.buildScanCommand f.gChannels
  unfold Sys.startImmediateScan
  split
  · exact h
  rename_i hs
  have hs := not_not.mp hs
  split
  · exact h
  split
  · rename_i hg
    dsimp only
    split
    · rename_i hn
      exact hb.startImmed hs (by simp) (hrun ⟨hs, Or.inl ⟨hg, hn⟩⟩)
    · exact hb.startImmedABand hs fun ha => hrun ⟨hs, Or.inr ha⟩
  · exact h.startImmedABand hs fun ha => hrun ⟨hs, Or.inr ha⟩

theorem Inv.stopImmed (h : s.Inv) (hs : s.immedScanState ≠ .idle) (frame : Frame) 
    (hframe : frame ≠ .stopContScan) :
    ({ s with immedScanState := .stopping, stack := frame :: s.stack } : Sys).Inv where
  core := ⟨by simpa using h.core.immed.mp hs, h.core.inTurn, h.core.owed, h.core.room⟩
  cont := h.cont
  stopping := fun hm => h.stopping (List.mem_of_ne_of_mem hframe.symm hm)

theorem Inv.stopImmediateScan (h : s.Inv) : s.stopImmediateScan.Inv := by
  unfold Sys.stopImmediateScan
  split
  · rename_i hs
    refine h.stopImmed ?_ _ (by simp)
    rcases hs with hs | hs <;> simp [hs]
  · exact h

/-! ## The policy -/

theorem Inv.setScanPolicyImmed (h : s.Inv) (scanPolicy : ScanPolicy) :
    (s.setScanPolicyImmed scanPolicy).Inv := by
  unfold Sys.setScanPolicyImmed
  split
  · rename_i hs
    exact h.stopImmed hs _ (by simp)
  · exact ⟨⟨h.core.immed, h.core.inTurn, h.core.owed, h.core.room⟩, h.cont, h.stopping⟩

theorem Inv.setScanPolicy (h : s.Inv) (scanPolicy : ScanPolicy) :
    (s.setScanPolicy scanPolicy).Inv := by
  unfold Sys.setScanPolicy
  split
  · rename_i hs
    exact h.stop hs _
  · exact h.setScanPolicyImmed scanPolicy

/-! ## Steps and runs -/

theorem Inv.resume {frame : Frame} {stack : List Frame} (h : s.Inv)
    (hstack : s.stack = frame :: stack) : (({ s with stack := stack } : Sys).resume frame).Inv := by
  have hpop : ({ s with stack := stack } : Sys).Inv :=
    ⟨⟨h.core.immed, h.core.inTurn, h.core.owed, h.core.room⟩, h.cont,
      fun hm => h.stopping (hstack ▸ List.mem_cons_of_mem frame hm)⟩
  cases frame with
  | stopContScan =>
    have hout := h.stopping (hstack ▸ List.mem_cons_self)
    exact ⟨⟨hpop.core.immed, hpop.core.inTurn, hpop.core.owed, hpop.core.room⟩,
      by simpa [Sys.resume] using hout, fun _ => hout⟩
  | setScanPolicyCont scanPolicy => exact hpop.setScanPolicyImmed scanPolicy
  | setScanPolicyImmed scanPolicy =>
    exact ⟨⟨hpop.core.immed, hpop.core.inTurn, hpop.core.owed, hpop.core.room⟩, hpop.cont,
      hpop.stopping⟩
  | handoverDone => exact hpop
  | stopImmediateScan => exact hpop

theorem Inv.stopScanReturns (h : s.Inv) (ht : s.stopScanReturns = some t) : t.Inv := by
  unfold Sys.stopScanReturns at ht
  split at ht
  · rename_i frame stack hstack
    cases ht
    exact h.resume hstack
  · cases ht

theorem inv_init : init.Inv := by
  refine ⟨⟨by simp [init], each_nil, rfl, Nat.zero_le _⟩, by simp [init], fun hm => ?_⟩
  cases hm

theorem Inv.step {i : Input} (h : s.Inv) (hk : s.Keeps i) (ht : s.step i = some t) : t.Inv := by
  cases i with
  | performContinuousScan f =>
    cases ht
    exact h.performContinuousScan f
  | receivedFrame =>
    cases ht
    exact h
  | contScanCB resultStatus f =>
    obtain ⟨-, ⟨⟩⟩ := Option.ite_none_right_eq_some.mp ht
    have hq : Quiet s.contScanState { s with bContOutstanding := false } :=
      ⟨⟨h.core.immed, h.core.inTurn, h.core.owed, h.core.room⟩, rfl, rfl, hk⟩
    exact hq.contScanCB resultStatus f
  | immedScanCB resultStatus f =>
    obtain ⟨hout, ⟨⟩⟩ := Option.ite_none_right_eq_some.mp ht
    exact (h.due hout).immedScanCB resultStatus f
  | setScanPolicy scanPolicy =>
    cases ht
    exact h.setScanPolicy scanPolicy
  | setNeighborAPs =>
    cases ht
    exact h.markContStopping
  | handoverDone =>
    cases ht
    exact h.handoverDone
  | startImmediateScan f =>
    cases ht
    exact h.startImmediateScan hk
  | stopImmediateScan =>
    cases ht
    exact h.stopImmediateScan
  | startContScan =>
    cases ht
    unfold Sys.startContScan
    split
    · exact h
    · exact ⟨⟨h.core.immed, h.core.inTurn, h.core.owed, h.core.room⟩, h.cont, h.stopping⟩
  | stopContScan =>
    cases ht
    exact h.stopContScan
  | stopScanReturns => exact h.stopScanReturns ht

/-- **The states follow the scans**, in every run whose steps satisfy the condition. -/
theorem states_follow_scans {is : List Input} (hkeeps : Along step Keeps init is)
    (hrun : exec step init is = some s) : s.FollowsScans :=
  (hkeeps.invariant (fun _ _ _ h hk ht => h.step hk ht) inv_init hrun).followsScans

/-! ## After a scan is lost -/

/-- The state of the continuous scan is not idle, but no scan is outstanding. -/
def Stuck (s : Sys) : Prop := s.contScanState ≠ .idle ∧ s.bContOutstanding = false

theorem Stuck.markContStopping (h : s.Stuck) : s.markContStopping.Stuck := by
  rw [markContStopping_eq, if_pos h.1]
  exact ⟨by simp, h.2⟩

theorem Stuck.startImmed (h : s.Stuck) (i : ImmedScanState) (r : EScanCncnResultStatus) :
    (s.startImmed i r).1.Stuck := by
  have hm : (({ s with immedScanState := i } : Sys).markContStopping).Stuck :=
    Stuck.markContStopping h
  unfold Sys.startImmed
  dsimp only
  split <;> exact hm

theorem Stuck.startImmedABand (h : s.Stuck) (f : Found) : (s.startImmedABand f).1.Stuck := by
  have hb : (s.buildScanCommand f.aChannels).Stuck := h
  unfold Sys.startImmedABand
  split
  · dsimp only
    split
    · exact hb
    · exact hb.startImmed _ _
  · exact h

theorem Stuck.startImmediateScan (h : s.Stuck) (f : Found) :
    (s.startImmediateScan f).1.Stuck := by
  have hb : (s.buildScanCommand f.gChannels).Stuck := h
  unfold Sys.startImmediateScan
  split
  · exact h
  split
  · exact h
  split
  · dsimp only
    split
    · exact hb.startImmed _ _
    · exact hb.startImmedABand f
  · exact h.startImmedABand f

theorem Stuck.immedNextBand (h : s.Stuck) (f : Found) : (s.immedNextBand f).Stuck := by
  unfold Sys.immedNextBand
  split
  · split
    · dsimp only
      split <;> exact h
    · exact h
  · exact h

theorem Stuck.immedScanCB (h : s.Stuck) (resultStatus : EScanCncnResultStatus) (f : Found) :
    (s.immedScanCB resultStatus f).Stuck := by
  unfold Sys.immedScanCB
  split
  · split
    · exact h.immedNextBand f
    all_goals exact h
  · exact h

theorem Stuck.setScanPolicyImmed (h : s.Stuck) (scanPolicy : ScanPolicy) :
    (s.setScanPolicyImmed scanPolicy).Stuck := by
  unfold Sys.setScanPolicyImmed
  split <;> exact h

theorem Stuck.stopScanReturns (h : s.Stuck) (ht : s.stopScanReturns = some t) : t.Stuck := by
  unfold Sys.stopScanReturns at ht
  split at ht
  · rename_i frame stack _
    cases ht
    cases frame with
    | stopContScan => exact ⟨by simp [Sys.resume], h.2⟩
    | setScanPolicyCont scanPolicy =>
      exact Stuck.setScanPolicyImmed (s := { s with stack := stack }) h scanPolicy
    | setScanPolicyImmed scanPolicy => exact h
    | handoverDone => exact h
    | stopImmediateScan => exact h
  · cases ht

theorem Stuck.step {i : Input} (h : s.Stuck) (ht : s.step i = some t) : t.Stuck := by
  cases i with
  | performContinuousScan f =>
    cases ht
    rw [performContinuousScan, if_pos h.1]
    exact h
  | receivedFrame =>
    cases ht
    exact h
  | contScanCB resultStatus f =>
    simp only [Sys.step, h.2, Bool.false_eq_true, if_false, reduceCtorEq] at ht
  | immedScanCB resultStatus f =>
    obtain ⟨-, ⟨⟩⟩ := Option.ite_none_right_eq_some.mp ht
    exact Stuck.immedScanCB (s := { s with bImmedOutstanding := false }) h resultStatus f
  | setScanPolicy scanPolicy =>
    cases ht
    rw [setScanPolicy, if_pos h.1]
    exact ⟨by simp, h.2⟩
  | setNeighborAPs =>
    cases ht
    exact h.markContStopping
  | handoverDone =>
    cases ht
    rw [handoverDone, if_pos h.1]
    exact ⟨by simp, h.2⟩
  | startImmediateScan f =>
    cases ht
    exact h.startImmediateScan f
  | stopImmediateScan =>
    cases ht
    unfold Sys.stopImmediateScan
    split <;> exact h
  | startContScan =>
    cases ht
    unfold Sys.startContScan
    split <;> exact h
  | stopContScan =>
    cases ht
    unfold Sys.stopContScan
    split
    · dsimp only
      split <;> exact h
    · exact h
  | stopScanReturns => exact h.stopScanReturns ht

/-- **No cycle ever begins again**: whatever happens, the state stays different from idle, and
`scanMngrPerformContinuousScan` sends nothing. -/
theorem never_scans_again {is : List Input} (hs : s.Stuck) (hrun : exec step s is = some t) :
    t.Stuck ∧ ∀ f, t.performContinuousScan f = t := by
  have ht : t.Stuck := exec_invariant (fun _ _ _ h hstep => h.step hstep) hs hrun
  exact ⟨ht, fun f => by rw [performContinuousScan, if_pos ht.1]⟩

/-! ## Sample runs -/

/-- A policy that tracks and scans immediately on G only. -/
def samplePolicy : ScanPolicy := ⟨some ⟨true, true, 0⟩, none, 0⟩

/-- One valid channel on G, and a start that is answered with `resultStatus`. -/
def found (resultStatus : EScanCncnResultStatus) : Found :=
  ⟨100, 1, [true], [], [], [], .noDiscovery, 0, resultStatus⟩

/-- Both scans are started; a new policy stops them, and both final callbacks come from inside
`scanCncn_StopScan`. -/
def policyStopsBoth : List Input :=
  [.setScanPolicy samplePolicy, .startContScan, .performContinuousScan (found .scanRunning),
    .startImmediateScan (found .scanRunning), .setScanPolicy samplePolicy,
    .contScanCB .scanStopped (found .scanRunning), .stopScanReturns,
    .immedScanCB .scanStopped (found .scanRunning), .stopScanReturns]

theorem states_follow_scans_policyStopsBoth :
    ∃ s, exec step init policyStopsBoth = some s ∧ s.FollowsScans := by
  have hkeeps : Along step Keeps init policyStopsBoth := by
    refine ⟨trivial, fun _ h => ?_⟩
    cases h
    refine ⟨trivial, fun _ h => ?_⟩
    cases h
    refine ⟨trivial, fun _ h => ?_⟩
    cases h
    refine ⟨fun _ => rfl, fun _ h => ?_⟩
    cases h
    refine ⟨trivial, fun _ h => ?_⟩
    cases h
    refine ⟨fun (hm : _ ∈ [Frame.setScanPolicyCont samplePolicy]) => ?_, fun _ h => ?_⟩
    · cases List.mem_singleton.mp hm
    cases h
    refine ⟨trivial, fun _ h => ?_⟩
    cases h
    refine ⟨trivial, fun _ h => ?_⟩
    cases h
    exact ⟨trivial, fun _ _ => trivial⟩
  exact ⟨_, rfl, states_follow_scans hkeeps rfl⟩

/-- The continuous scan is stopped, and its final callback comes from inside the stop. -/
def stopInside : List Input :=
  [.setScanPolicy samplePolicy, .startContScan, .performContinuousScan (found .scanRunning),
    .stopContScan, .contScanCB .scanStopped (found .scanRunning), .stopScanReturns]

/-- An immediate scan that the concentrator refuses. -/
def refused : List Input :=
  [.setScanPolicy samplePolicy, .startImmediateScan (found .scanFailed)]

/-- After a stop that calls back before it returns the continuous scan is `SCAN_CSS_STOPPING` for
nothing, and after a refused start the immediate scan is `SCAN_ISS_G_BAND` for nothing. -/
theorem scan_lost :
    (∃ s, exec step init stopInside = some s ∧ s.stack = [] ∧ s.contScanState = .stopping ∧
      s.bContOutstanding = false ∧ ¬ s.FollowsScans) ∧
    ∃ s, exec step init refused = some s ∧ s.stack = [] ∧ s.immedScanState = .gBand ∧
      s.bImmedOutstanding = false ∧ ¬ s.FollowsScans := by
  refine ⟨⟨_, rfl, rfl, rfl, rfl, fun h => ?_⟩, _, rfl, rfl, rfl, rfl, fun h => ?_⟩
  · have hout : false = true := h.cont.mp fun (hi : ContScanState.stopping = .idle) => by cases hi
    cases hout
  · have hout : false = true := h.immed.mp fun (hi : ImmedScanState.gBand = .idle) => by cases hi
    cases hout

def cycleAndStart : List Input := [.performContinuousScan (found .scanRunning), .startContScan]

theorem never_scans_again_stopInside : ∃ s t, exec step init stopInside = some s ∧
    exec step s cycleAndStart = some t ∧ t.Stuck ∧ ∀ f, t.performContinuousScan f = t := by
  have hrun : exec step init stopInside = some _ := rfl
  refine ⟨_, _, hrun, rfl, @never_scans_again _ _ cycleAndStart ⟨?_, rfl⟩ rfl⟩
  exact show ContScanState.stopping ≠ .idle by decide

end Sys

end ArchosGpl.Wlan.ScanMngr
