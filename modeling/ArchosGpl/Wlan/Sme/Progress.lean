import ArchosGpl.Wlan.Sme.Model

/-!
# The SME waits for something

Where the SME scans, a driver scan is outstanding; where it connects, a connection attempt is; where
it disconnects, the stop that it asked for is (`NeverHangs`). An `sme_Stop` is answered by one
`drvMain_SmeStop`, at the latest when nothing is outstanding any more.

The callbacks take their event from the status and from a fresh search, not from the state. The end
of a scan or of a connection that brings a candidate, and a status without an event, is dropped
while the SME disconnects: nothing is outstanding then, and no event leaves the state. And the state
machine does not expect a stop while the radio is off, so that `sme_Stop` is never answered.

**`waits_for_something`**: in every run whose steps are not of these kinds (`Keeps`) the SME never
hangs. `hangs` has runs in which it does.
-/

namespace ArchosGpl.Wlan.Sme

open Lib

def Action.target (smState : SmState) : Action → SmState
  | .actionUnexpected | .nopAction => smState
  | .start | .disconnectDone => .waitConnect
  | .stop | .checkStartConditions => .idle
  | .preConnect => .scanning
  | .connect | .connWhenConnecting => .connecting
  | .connectSuccess => .connected
  | .stopScan | .stopConnect | .disconnect => .disconnecting

theorem tSmMatrix_target (smState : SmState) (e : SmEvent) :
    (tSmMatrix smState e).1 = (tSmMatrix smState e).2.target smState := by
  cases smState <;> cases e <;> rfl

/-- The connection failures after which the next candidate is searched. -/
def MgmtStatus.reject : MgmtStatus → Bool
  | .authReject | .assocReject | .securityFailure | .apDeauthenticate | .apDisassociate
  | .roamingTrigger => true
  | _ => false

/-- The statuses of which `sme_ReportConnStatus` makes an event. -/
def MgmtStatus.known (eStatusType : MgmtStatus) : Bool :=
  eStatusType = .successful || eStatusType = .unspecified || eStatusType.reject

/-- The statuses that end an AP connection. -/
def MgmtStatus.ends (eStatusType : MgmtStatus) : Bool :=
  eStatusType = .sgReselect || eStatusType = .unspecified || eStatusType.reject

namespace Sys

variable {s t : Sys} {a : Answers} {n : ℕ}

/-! ## What is to hold -/

/-- An `sme_Stop` has no `drvMain_SmeStop` after it. -/
def Owed (log : List Act) : Prop := ∃ b ∈ since Act.isDrvMainSmeStop log, b.isSmeStop = true

/-- Each `drvMain_SmeStop` comes after an `sme_Stop` with none in between. -/
def AskedFor : List Act → Prop :=
  Each fun past b => b.isDrvMainSmeStop = true → Owed past

/-- Nothing is outstanding. -/
def Quiet (s : Sys) : Prop :=
  s.scan = .none ∧ s.connStarts = 0 ∧ s.connStops = 0 ∧ s.apConnStops = 0

def Stopping (s : Sys) : Prop := s.scan = .stopping ∨ 0 < s.connStops ∨ 0 < s.apConnStops

/-- The state waits for what is outstanding, and every `sme_Stop` is followed by exactly one
`drvMain_SmeStop` before the next one, if nothing is outstanding. -/
structure NeverHangs (s : Sys) : Prop where
  scanning : s.smState = .scanning → s.scan ≠ .none
  connecting : s.smState = .connecting → 0 < s.connStarts
  disconnecting : s.smState = .disconnecting → s.Stopping
  stopped : s.Quiet → Answered (fun b => b.isSmeStop = true) (fun b => b.isDrvMainSmeStop = true) s.log
  once : AskedFor s.log

/-! ## The log -/

theorem owed_snoc {log : List Act} {b : Act} (hstop : b.isSmeStop = false)
    (hdrv : b.isDrvMainSmeStop = false) : Owed (log ++ [b]) ↔ Owed log := by
  simp [Owed, since_snoc_of_other hdrv, hstop]

theorem owed_smeStop (log : List Act) : Owed (log ++ [.smeStop]) := by
  rw [Owed, since_snoc_of_other rfl]
  exact ⟨.smeStop, by simp, rfl⟩

theorem not_owed_drvMainSmeStop (log : List Act) : ¬ Owed (log ++ [.drvMainSmeStop]) := by
  rw [Owed, since_snoc_of_mark rfl]
  simp

theorem not_owed_nil : ¬ Owed [] := by
  simp [Owed, since]

theorem answered_of_not_owed {log : List Act} (h : ¬ Owed log) :
    Answered (fun b => b.isSmeStop = true) (fun b => b.isDrvMainSmeStop = true) log := by
  refine .of_since (fun b hb => ?_) fun b hb hs => h ⟨b, hb, hs⟩
  cases b <;> simp_all [Act.isSmeStop, Act.isDrvMainSmeStop]

/-- What the log and the running flag have to do with each other, in any state. -/
structure Kept (log : List Act) (bRunning : Bool) : Prop where
  once : AskedFor log
  owed : Owed log → bRunning = false

variable {log : List Act} {bRunning : Bool}

theorem Kept.snoc (h : Kept log bRunning) {b : Act} (hstop : b.isSmeStop = false)
    (hdrv : b.isDrvMainSmeStop = false) : Kept (log ++ [b]) bRunning :=
  ⟨each_snoc.mpr ⟨h.once, fun hb => absurd hb (by simp [hdrv])⟩,
    fun ho => h.owed ((owed_snoc hstop hdrv).mp ho)⟩

theorem Kept.not_owed (h : Kept log true) : ¬ Owed log := fun ho => Bool.noConfusion (h.owed ho)

/-! ## The invariant -/

structure Inv (s : Sys) : Prop where
  kept : Kept s.log s.bRunning
  scanning : s.smState = .scanning → s.scan ≠ .none ∧ s.eConnectMode = .auto
  connecting : s.smState = .connecting → 0 < s.connStarts
  candidate : s.smState = .connecting ∨ s.smState = .connected → s.pCandidate.isSome
  disconnecting : s.smState = .disconnecting → s.Stopping
  owed : Owed s.log → s.smState = .disconnecting
  stopped : s.bRunning = false → s.smState = .idle ∨ Owed s.log

theorem Inv.neverHangs (h : s.Inv) : s.NeverHangs where
  scanning hs := (h.scanning hs).1
  connecting := h.connecting
  disconnecting := h.disconnecting
  once := h.kept.once
  stopped hq := answered_of_not_owed fun ho => by
    obtain ⟨hscan, -, hconn, hap⟩ := hq
    obtain hstop | hstop | hstop := h.disconnecting (h.owed ho)
    · rw [hscan] at hstop
      cases hstop
    · omega
    · omega

theorem setSsidType_eq (s : Sys) : ∃ eSsidType bConnectRequired,
    s.setSsidType = { s with eSsidType := eSsidType, bConnectRequired := bConnectRequired } := by
  unfold setSsidType
  split
  · exact ⟨_, _, rfl⟩
  · split <;> exact ⟨_, _, rfl⟩

/-! ### One state at a time -/

theorem inv_idle (hs : s.smState = .idle) (hk : Kept s.log s.bRunning) (ho : ¬ Owed s.log) :
    s.Inv := by
  refine ⟨hk, ?_, ?_, ?_, ?_, fun h => absurd h ho, fun _ => .inl hs⟩ <;> simp [hs]

theorem inv_init (p : InitParams) : (init p).Inv := by
  obtain ⟨eSsidType, bConnectRequired, heq⟩ := setSsidType_eq (unset p)
  rw [init, heq]
  exact inv_idle rfl ⟨each_nil, fun ho => absurd ho not_owed_nil⟩ not_owed_nil

theorem inv_waitConnect (hs : s.smState = .waitConnect) (hk : Kept s.log s.bRunning)
    (hr : s.bRunning = true) : s.Inv := by
  refine ⟨hk, ?_, ?_, ?_, ?_, fun h => ?_, fun h => ?_⟩ <;> simp_all [Kept.not_owed]

theorem inv_scanning (hs : s.smState = .scanning) (hk : Kept s.log s.bRunning)
    (hr : s.bRunning = true) (hscan : s.scan ≠ .none) (hauto : s.eConnectMode = .auto) : s.Inv := by
  refine ⟨hk, fun _ => ⟨hscan, hauto⟩, ?_, ?_, ?_, fun h => ?_, fun h => ?_⟩ <;>
    simp_all [Kept.not_owed]

theorem inv_connecting (hs : s.smState = .connecting) (hk : Kept s.log s.bRunning)
    (hr : s.bRunning = true) (hstarts : 0 < s.connStarts) (hc : s.pCandidate.isSome) : s.Inv := by
  refine ⟨hk, ?_, fun _ => hstarts, fun _ => hc, ?_, fun h => ?_, fun h => ?_⟩ <;>
    simp_all [Kept.not_owed]

theorem inv_connected (hs : s.smState = .connected) (hk : Kept s.log s.bRunning)
    (hr : s.bRunning = true) (hc : s.pCandidate.isSome) : s.Inv := by
  refine ⟨hk, ?_, ?_, fun _ => hc, ?_, fun h => ?_, fun h => ?_⟩ <;> simp_all [Kept.not_owed]

theorem inv_disconnecting (hs : s.smState = .disconnecting) (hk : Kept s.log s.bRunning)
    (hl : s.bRunning = false → Owed s.log) (hstop : s.Stopping) : s.Inv := by
  refine ⟨hk, ?_, ?_, ?_, fun _ => hstop, fun _ => hs, fun h => .inr (hl h)⟩ <;> simp [hs]

/-! ## Events to the end -/

/-- The events end, in a state that satisfies the invariant. -/
def Settles (a : Answers) (n : ℕ) (x : Sys × Option SmEvent) : Prop :=
  ∃ t, settle a n x = some t ∧ t.Inv

theorem settles_none (h : s.Inv) : Settles a n (s, none) := ⟨s, by cases n <;> rfl, h⟩

theorem Settles.some {e : SmEvent}
    (h : Settles a n (act a { s with smState := (tSmMatrix s.smState e).1 } (tSmMatrix s.smState e).2)) :
    Settles a (n + 1) (s, some e) := h

theorem inv_smeSmStop (hs : s.smState = .idle) (hk : Kept s.log s.bRunning)
    (hl : s.bRunning = false → Owed s.log) : s.smeSmStop.Inv := by
  simp only [smeSmStop]
  by_cases hr : s.bRunning = true
  · rw [if_neg (by simp [hr])]
    exact inv_idle hs hk (hr ▸ hk).not_owed
  · rw [Bool.not_eq_true] at hr
    rw [if_pos (by simp [hr])]
    exact inv_idle hs ⟨each_snoc.mpr ⟨hk.once, fun _ => hl hr⟩, fun _ => hr⟩
      (not_owed_drvMainSmeStop s.log)

theorem settles_stop (hs : s.smState = .waitConnect) (hk : Kept s.log s.bRunning)
    (hl : s.bRunning = false → Owed s.log) : Settles a (n + 1) (s, some .stop) := by
  refine .some ?_
  rw [hs]
  exact settles_none (inv_smeSmStop rfl hk hl)

theorem settles_smeSmStart_rest (hs : s.smState = .waitConnect) (hk : Kept s.log s.bRunning)
    (hl : s.bRunning = false → Owed s.log)
    (hrest : s.bRadioOn = true → s.bConnectRequired = false) :
    Settles a (n + 1) s.smeSmStart := by
  simp only [smeSmStart]
  split
  · exact settles_stop hs hk hl
  · rename_i hon
    simp only [Bool.or_eq_true, Bool.not_eq_true', not_or, Bool.not_eq_false] at hon
    rw [if_neg (by simp [hrest hon.1])]
    exact settles_none (inv_waitConnect hs hk hon.2)

theorem disconnectDone_log (hk : Kept s.log s.bRunning) :
    ∃ log, s.notifyDisconnect.emit .disSelectSite = { s with log := log } ∧ Kept log s.bRunning ∧
      (Owed log ↔ Owed s.log) := by
  have hnotify : ∃ log, s.notifyDisconnect = { s with log := log } ∧ Kept log s.bRunning ∧
      (Owed log ↔ Owed s.log) := by
    simp only [notifyDisconnect]
    split
    · exact ⟨s.log, rfl, hk, Iff.rfl⟩
    · split
      · exact ⟨_, rfl, hk.snoc rfl rfl, owed_snoc rfl rfl⟩
      · split
        · exact ⟨_, rfl, hk.snoc rfl rfl, owed_snoc rfl rfl⟩
        · exact ⟨s.log, rfl, hk, Iff.rfl⟩
  obtain ⟨log, heq, hlog, ho⟩ := hnotify
  exact ⟨_, by rw [heq]; rfl, hlog.snoc rfl rfl, (owed_snoc rfl rfl).trans ho⟩

theorem settles_connectFailure_rest (hs : s.smState = .scanning) (hk : Kept s.log s.bRunning)
    (hl : s.bRunning = false → Owed s.log)
    (hrest : s.bRadioOn = true → s.bConnectRequired = false) :
    Settles a (n + 2) (s, some .connectFailure) := by
  refine .some ?_
  rw [hs]
  obtain ⟨log, heq, hlog, ho⟩ := disconnectDone_log (s := { s with smState := .waitConnect }) hk
  show Settles a (n + 1) (smeSmDisconnectDone { s with smState := .waitConnect })
  rw [smeSmDisconnectDone, heq]
  exact settles_smeSmStart_rest rfl hlog (fun hr => ho.mpr (hl hr)) hrest

theorem settles_smeSmConnect (hs : s.smState = .connecting) (hk : Kept s.log s.bRunning)
    (hr : s.bRunning = true) (hc : s.pCandidate.isSome) : Settles a n s.smeSmConnect := by
  obtain ⟨c, hc⟩ := Option.isSome_iff_exists.mp hc
  simp only [smeSmConnect, hc]
  refine settles_none ?_
  split
  · exact inv_connecting hs ((hk.snoc rfl rfl).snoc rfl rfl) hr (Nat.succ_pos _) rfl
  · exact inv_connecting hs ((hk.snoc rfl rfl).snoc rfl rfl) hr (Nat.succ_pos _)
      (Option.isSome_iff_exists.mpr ⟨c, hc⟩)

theorem settles_connect_scanning (hs : s.smState = .scanning) (hk : Kept s.log s.bRunning)
    (hr : s.bRunning = true) (hc : s.pCandidate.isSome) :
    Settles a (n + 1) (s, some .connect) := by
  refine .some ?_
  rw [hs]
  exact settles_smeSmConnect rfl hk hr hc

theorem settles_preConnectAuto (hs : s.smState = .scanning) (hk : Kept s.log s.bRunning)
    (hr : s.bRunning = true) (hauto : s.eConnectMode = .auto) :
    Settles a (n + 2) (s.preConnectAuto a) := by
  simp only [preConnectAuto]
  split
  · exact settles_none (inv_scanning hs (hk.snoc rfl rfl) hr (by simp [countScan]) hauto)
  · exact settles_connectFailure_rest hs (hk.snoc rfl rfl) (fun h => absurd (h.symm.trans hr) (by simp))
      fun h => absurd h (by simp [countScan])

theorem settles_preConnectManual (hs : s.smState = .scanning) (hk : Kept s.log s.bRunning)
    (hr : s.bRunning = true) : Settles a (n + 2) (s.preConnectManual a) := by
  have hl : s.bRunning = false → Owed s.log := fun h => absurd (h.symm.trans hr) (by simp)
  simp only [preConnectManual]
  split
  · exact settles_connectFailure_rest hs hk hl fun _ => rfl
  · split
    · rename_i hc
      exact settles_connect_scanning hs hk hr hc
    · exact settles_connectFailure_rest hs hk hl fun _ => rfl

/-- **The search for a candidate** ends in a scan, in a connection attempt, or at rest. -/
theorem settles_smeSmPreConnect (hs : s.smState = .scanning) (hk : Kept s.log s.bRunning)
    (hr : s.bRunning = true) : Settles a (n + 2) (s.smeSmPreConnect a) := by
  simp only [smeSmPreConnect, smeSelect]
  split
  · rename_i hc
    exact settles_connect_scanning hs hk hr (Option.isSome_iff_exists.mpr ⟨_, hc⟩)
  · rename_i hauto
    exact settles_preConnectAuto hs hk hr hauto
  · exact settles_preConnectManual hs hk hr

theorem settles_smeSmStart (hs : s.smState = .waitConnect) (hk : Kept s.log s.bRunning)
    (hl : s.bRunning = false → Owed s.log) : Settles a (n + 3) s.smeSmStart := by
  simp only [smeSmStart]
  split
  · exact settles_stop hs hk hl
  · rename_i hon
    simp only [Bool.or_eq_true, Bool.not_eq_true', not_or, Bool.not_eq_false] at hon
    split
    · refine .some ?_
      rw [hs]
      exact settles_smeSmPreConnect rfl hk hon.2
    · exact settles_none (inv_waitConnect hs hk hon.2)

theorem settles_smeSmDisconnectDone (hs : s.smState = .waitConnect) (hk : Kept s.log s.bRunning)
    (hl : s.bRunning = false → Owed s.log) : Settles a (n + 3) s.smeSmDisconnectDone := by
  obtain ⟨log, heq, hlog, ho⟩ := disconnectDone_log hk
  rw [smeSmDisconnectDone, heq]
  exact settles_smeSmStart hs hlog fun hr => ho.mpr (hl hr)

/-! ## One event -/

/-- What an event needs, by the action that it leads to. -/
def Ready (s : Sys) (e : SmEvent) : Prop :=
  match (tSmMatrix s.smState e).2 with
  | .actionUnexpected | .nopAction => s.Inv
  | .checkStartConditions => ¬ Owed s.log
  | .start | .stop | .disconnectDone | .stopConnect | .disconnect =>
    s.bRunning = false → Owed s.log
  | .stopScan => (s.bRunning = false → Owed s.log) ∧ s.scan ≠ .none
  | .preConnect => s.bRunning = true
  | .connect | .connWhenConnecting | .connectSuccess => s.bRunning = true ∧ s.pCandidate.isSome

/-- **An event that finds what it needs** leads to a state that satisfies the invariant. -/
theorem settles_event {e : SmEvent} (hk : Kept s.log s.bRunning) (h : s.Ready e) :
    Settles a (n + 5) (s, some e) := by
  refine .some ?_
  rw [tSmMatrix_target]
  unfold Ready at h
  cases hact : (tSmMatrix s.smState e).2 with
  | actionUnexpected | nopAction =>
    rw [hact] at h
    exact settles_none h
  | checkStartConditions =>
    rw [hact] at h
    simp only [Action.target, act, smeSmCheckStartConditions]
    split
    · rename_i hon
      simp only [Bool.and_eq_true] at hon
      exact settles_smeSmStart rfl hk fun hr => absurd (hr.symm.trans hon.1) (by simp)
    · exact settles_none (inv_idle rfl hk h)
  | start =>
    rw [hact] at h
    exact settles_smeSmStart rfl hk h
  | disconnectDone =>
    rw [hact] at h
    exact settles_smeSmDisconnectDone rfl hk h
  | stop =>
    rw [hact] at h
    exact settles_none (inv_smeSmStop rfl hk h)
  | preConnect =>
    rw [hact] at h
    exact settles_smeSmPreConnect rfl hk h
  | connect =>
    rw [hact] at h
    exact settles_smeSmConnect rfl hk h.1 h.2
  | connWhenConnecting =>
    rw [hact] at h
    exact settles_none (inv_connecting rfl (hk.snoc rfl rfl) h.1 (Nat.succ_pos _) h.2)
  | connectSuccess =>
    rw [hact] at h
    simp only [act, smeSmConnectSuccess]
    refine settles_none ?_
    split
    · exact inv_connected rfl (hk.snoc rfl rfl) h.1 h.2
    · exact inv_connected rfl hk h.1 h.2
  | stopScan =>
    rw [hact] at h
    refine settles_none (inv_disconnecting rfl (hk.snoc rfl rfl) ?_ (.inl (if_neg h.2)))
    exact fun hr => (owed_snoc rfl rfl).mpr (h.1 hr)
  | stopConnect =>
    rw [hact] at h
    refine settles_none (inv_disconnecting rfl (hk.snoc rfl rfl) ?_ (.inr (.inl (Nat.succ_pos _))))
    exact fun hr => (owed_snoc rfl rfl).mpr (h hr)
  | disconnect =>
    rw [hact] at h
    simp only [act, smeSmDisconnect]
    refine settles_none ?_
    split
    · refine inv_disconnecting rfl (hk.snoc rfl rfl) ?_ (.inr (.inr (Nat.succ_pos _)))
      exact fun hr => (owed_snoc rfl rfl).mpr (h hr)
    · refine inv_disconnecting rfl (hk.snoc rfl rfl) ?_ (.inr (.inl (Nat.succ_pos _)))
      exact fun hr => (owed_snoc rfl rfl).mpr (h hr)

/-! ### The events of the calls -/

/-- What is left of the invariant when an answer came in. -/
structure Base (smState : SmState) (log : List Act) (bRunning : Bool) : Prop where
  kept : Kept log bRunning
  owed : Owed log → smState = .disconnecting
  stopped : bRunning = false → smState = .idle ∨ Owed log

theorem Inv.base (h : s.Inv) : Base s.smState s.log s.bRunning := ⟨h.kept, h.owed, h.stopped⟩

variable {smState : SmState}

theorem Base.idle (h : Base smState log bRunning) (hs : smState = .idle) :
    ¬ Owed log := fun ho => by
  cases hs.symm.trans (h.owed ho)

theorem Base.live (h : Base smState log bRunning) (hs : smState ≠ .idle) :
    bRunning = false → Owed log := fun hr => (h.stopped hr).resolve_left hs

theorem Base.running (h : Base smState log bRunning) (hs : smState ≠ .idle)
    (hd : smState ≠ .disconnecting) : bRunning = true := by
  by_contra hr
  exact hd (h.owed (h.live hs (by simpa using hr)))

theorem ready_start (h : s.Inv) (hr : s.bRunning = true) : s.Ready .start := by
  unfold Ready
  cases hs : s.smState with
  | idle => exact fun hf => absurd (hf.symm.trans hr) (by simp)
  | waitConnect => exact h
  | scanning => exact h
  | connecting => exact h
  | connected => exact h
  | disconnecting => exact h

theorem ready_stop (hk : Kept s.log s.bRunning) (hidle : s.smState = .idle → ¬ Owed s.log)
    (hlive : s.smState ≠ .idle → s.bRunning = false → Owed s.log)
    (hscan : s.smState = .scanning → s.scan ≠ .none)
    (hdis : s.smState = .disconnecting → s.Stopping) : s.Ready .stop := by
  unfold Ready
  cases hs : s.smState with
  | idle => exact inv_idle hs hk (hidle hs)
  | waitConnect | connecting | connected => exact hlive (by simp [hs])
  | scanning => exact ⟨hlive (by simp [hs]), hscan hs⟩
  | disconnecting => exact inv_disconnecting hs hk (hlive (by simp [hs])) (hdis hs)

theorem ready_disconnect (h : Base s.smState s.log s.bRunning)
    (hscan : s.smState = .scanning → s.scan ≠ .none)
    (hdis : s.smState = .disconnecting → s.Stopping) : s.Ready .disconnect := by
  unfold Ready
  cases hs : s.smState with
  | idle => exact h.idle hs
  | waitConnect | connecting | connected => exact h.live (by simp [hs])
  | scanning => exact ⟨h.live (by simp [hs]), hscan hs⟩
  | disconnecting => exact inv_disconnecting hs h.kept (h.live (by simp [hs])) (hdis hs)

theorem ready_connect (h : Base s.smState s.log s.bRunning) (hc : s.pCandidate.isSome)
    (hdis : s.smState = .disconnecting → s.Stopping) : s.Ready .connect := by
  unfold Ready
  cases hs : s.smState with
  | idle => exact inv_idle hs h.kept (h.idle hs)
  | waitConnect => exact h.running (by simp [hs]) (by simp [hs])
  | scanning | connecting => exact ⟨h.running (by simp [hs]) (by simp [hs]), hc⟩
  | connected => exact inv_connected hs h.kept (h.running (by simp [hs]) (by simp [hs])) hc
  | disconnecting => exact inv_disconnecting hs h.kept (h.live (by simp [hs])) (hdis hs)

theorem ready_connectFailure (h : Base s.smState s.log s.bRunning) : s.Ready .connectFailure := by
  unfold Ready
  cases hs : s.smState with
  | idle => exact inv_idle hs h.kept (h.idle hs)
  | waitConnect => exact inv_waitConnect hs h.kept (h.running (by simp [hs]) (by simp [hs]))
  | scanning | connecting | connected | disconnecting => exact h.live (by simp [hs])

theorem ready_connectSuccess (h : Base s.smState s.log s.bRunning)
    (hscan : s.smState = .scanning → s.scan ≠ .none ∧ s.eConnectMode = .auto)
    (hc : s.smState = .connecting ∨ s.smState = .connected → s.pCandidate.isSome)
    (hdis : s.smState = .disconnecting → s.Stopping) : s.Ready .connectSuccess := by
  unfold Ready
  cases hs : s.smState with
  | idle => exact inv_idle hs h.kept (h.idle hs)
  | waitConnect => exact inv_waitConnect hs h.kept (h.running (by simp [hs]) (by simp [hs]))
  | scanning =>
    exact inv_scanning hs h.kept (h.running (by simp [hs]) (by simp [hs])) (hscan hs).1 (hscan hs).2
  | connecting => exact ⟨h.running (by simp [hs]) (by simp [hs]), hc (.inl hs)⟩
  | connected =>
    exact inv_connected hs h.kept (h.running (by simp [hs]) (by simp [hs])) (hc (.inr hs))
  | disconnecting => exact inv_disconnecting hs h.kept (h.live (by simp [hs])) (hdis hs)

/-! ## One call -/

/-- The end of a scan brings no candidate: the scan was stopped, or none is found. -/
def NoCandidate (s : Sys) (eStatus : EScanCncnResultStatus) (a : Selection) : Prop :=
  eStatus = .scanStopped ∨
    s.eConnectMode = .auto ∧ a.select = none ∧ (s.eBssType = .infrastructure ∨ a.own = none)

/-- The last answer that a disconnecting SME waits for brings no candidate and has an event; so has
the only answer that a connecting SME waits for; the SME is not stopped while it is idle, nor
started while it stops. -/
def Keeps (s : Sys) : Input → Prop
  | .start => ¬ Owed s.log
  | .stop => s.smState ≠ .idle
  | .scanResultCb eStatus a =>
    s.smState = .disconnecting → eStatus.final → s.connStops = 0 → s.apConnStops = 0 →
      s.NoCandidate eStatus a
  | .reportConnStatus false eStatusType _ _ =>
    s.smState = .connecting → s.connStarts = 1 → eStatusType.known
  | .reportConnStatus true eStatusType _ found =>
    s.smState = .disconnecting → s.connStops = 1 → s.apConnStops = 0 → s.scan ≠ .stopping →
      eStatusType = .unspecified ∨ eStatusType.reject ∧ found = none
  | .reportApConnStatus true eStatusType _ =>
    s.smState = .disconnecting → s.apConnStops = 1 → s.connStops = 0 → s.scan ≠ .stopping →
      eStatusType.ends
  | _ => True

variable {b : Selection}

theorem scanEnded_auto (hauto : s.eConnectMode = .auto) :
    ∃ c, s.scanEnded b = ({ s with bReselect := false, pCandidate := c },
      some (if c.isSome then .connect else .connectFailure)) ∧
      (c = none ↔ b.select = none ∧ (s.eBssType = .infrastructure ∨ b.own = none)) := by
  simp only [scanEnded, smeSelect, if_pos hauto]
  cases hfound : b.select with
  | some c => exact ⟨some c, rfl, by simp⟩
  | none =>
    by_cases hinfra : s.eBssType = .infrastructure
    · exact ⟨none, by simp [hinfra], by simp [hinfra]⟩
    · exact ⟨b.own, by simp [hinfra], by simp [hinfra]⟩

theorem settles_scanEnded (h : s.Inv)
    (hother : s.smState = .disconnecting → s.NoCandidate .scanCompleteOk b ∨
      ({ s with scan := .none } : Sys).Stopping) :
    Settles a 6 (({ s with scan := .none } : Sys).scanEnded b) := by
  by_cases hauto : s.eConnectMode = .auto
  · obtain ⟨c, heq, hc⟩ := scanEnded_auto (s := { s with scan := .none }) (b := b) hauto
    rw [heq]
    cases c with
    | none => exact settles_event h.kept (ready_connectFailure h.base)
    | some c =>
      refine settles_event h.kept (ready_connect h.base rfl fun hs => ?_)
      refine (hother hs).resolve_left ?_
      rintro (hne | ⟨-, hnone⟩)
      · cases hne
      · cases hc.mpr hnone
  · rw [scanEnded, if_neg hauto]
    refine settles_none ⟨h.kept, fun hs => absurd (h.scanning hs).2 hauto, h.connecting, h.candidate,
      fun hs => (hother hs).resolve_left ?_, h.owed, h.stopped⟩
    rintro (hne | ⟨hmode, -⟩)
    · cases hne
    · exact hauto hmode

theorem settles_scanResultCb {eStatus : EScanCncnResultStatus} (h : s.Inv)
    (hkeep : s.Keeps (.scanResultCb eStatus b)) (hans : s.scanAnswered eStatus = some t) :
    Settles a 6 (t.smeScanResultCb eStatus b) := by
  simp only [scanAnswered] at hans
  split at hans
  · rename_i hfinal
    cases hans
    cases eStatus with
    | receivedFrame | scanRunning => exact settles_none h
    | _ => cases hfinal
  · rename_i hfinal
    split at hans
    · cases hans
    cases hans
    have hother : eStatus ≠ .scanStopped → s.smState = .disconnecting →
        s.NoCandidate .scanCompleteOk b ∨ ({ s with scan := .none } : Sys).Stopping := fun hne hs => by
      by_cases hstop : s.connStops = 0 ∧ s.apConnStops = 0
      · exact .inl (.inr ((hkeep hs (by simpa using hfinal) hstop.1 hstop.2).resolve_left hne))
      · right
        right
        show 0 < s.connStops ∨ 0 < s.apConnStops
        omega
    cases eStatus with
    | receivedFrame | scanRunning => exact absurd rfl hfinal
    | scanStopped => exact settles_event h.kept (ready_connectFailure h.base)
    | _ => exact settles_scanEnded h (hother (by simp))

variable {found : Option TSiteEntry}

theorem settles_reject {u : Sys} (hu : Base u.smState u.log u.bRunning)
    (hfound : u.pCandidate = found)
    (hdis : u.smState = .disconnecting → found = none ∨ u.Stopping) :
    Settles a 6 (u, some (if u.pCandidate.isSome then .connect else .connectFailure)) := by
  cases hc : u.pCandidate with
  | none => exact settles_event hu.kept (ready_connectFailure hu)
  | some c =>
    have hsome : u.pCandidate.isSome := Option.isSome_iff_exists.mpr ⟨c, hc⟩
    refine settles_event hu.kept (ready_connect hu hsome fun hs => ?_)
    refine (hdis hs).resolve_left fun hnone => ?_
    rw [hnone] at hfound
    cases hc.symm.trans hfound

variable {eStatusType : MgmtStatus} {uStatusCode : ℕ}

theorem settles_reportConnStatus (hb : Base s.smState s.log s.bRunning)
    (hscan : s.smState = .scanning → s.scan ≠ .none ∧ s.eConnectMode = .auto)
    (hconn : s.smState = .connecting → eStatusType.known ∨ 0 < s.connStarts)
    (hc : s.smState = .connecting ∨ s.smState = .connected → s.pCandidate.isSome)
    (hdis : s.smState = .disconnecting →
      (eStatusType = .unspecified ∨ eStatusType.reject ∧ found = none) ∨ s.Stopping) :
    Settles a 6 (s.smeReportConnStatus eStatusType uStatusCode found) := by
  have hrest : eStatusType.known = false → s.Inv := fun hk =>
    ⟨hb.kept, hscan, fun hs => (hconn hs).resolve_left (by simp [hk]), hc, fun hs =>
      (hdis hs).resolve_left (by
        rintro (rfl | ⟨hr, -⟩)
        · cases hk
        · simp [MgmtStatus.known, hr] at hk), hb.owed, hb.stopped⟩
  have hdis' : eStatusType ≠ .unspecified → s.smState = .disconnecting →
      found = none ∨ s.Stopping := fun hne hs =>
    (hdis hs).imp_left fun h => (h.resolve_left hne).2
  cases eStatusType with
  | successful =>
    refine settles_event hb.kept (ready_connectSuccess hb hscan hc fun hs => ?_)
    exact (hdis hs).resolve_left (by rintro (h | ⟨h, -⟩) <;> cases h)
  | unspecified => exact settles_event hb.kept (ready_connectFailure hb)
  | disconnectDuringConnect | sgReselect | micFailure => exact settles_none (hrest rfl)
  | _ => exact settles_reject hb rfl (hdis' (by simp))

theorem settles_reportApConnStatus (hb : Base s.smState s.log s.bRunning)
    (hscan : s.smState = .scanning → s.scan ≠ .none ∧ s.eConnectMode = .auto)
    (hconn : s.smState = .connecting → 0 < s.connStarts)
    (hc : s.smState = .connecting ∨ s.smState = .connected → s.pCandidate.isSome)
    (hdis : s.smState = .disconnecting → eStatusType.ends ∨ s.Stopping) :
    Settles a 6 (s.smeReportApConnStatus eStatusType uStatusCode) := by
  have hstop : eStatusType.ends = false → s.smState = .disconnecting → s.Stopping := fun he hs =>
    (hdis hs).resolve_left (by simp [he])
  have hrest : eStatusType.ends = false → s.Inv := fun he =>
    ⟨hb.kept, hscan, hconn, hc, hstop he, hb.owed, hb.stopped⟩
  cases eStatusType with
  | successful | micFailure => exact settles_none (hrest rfl)
  | disconnectDuringConnect =>
    exact settles_event hb.kept (ready_disconnect hb (fun hs => (hscan hs).1) (hstop rfl))
  | _ => exact settles_event hb.kept (ready_connectFailure hb)

theorem Inv.reportConnStatus {bStop : Bool} (h : s.Inv)
    (hkeep : s.Keeps (.reportConnStatus bStop eStatusType uStatusCode found))
    (hans : s.connAnswered bStop = some t) :
    Settles a 6 (t.smeReportConnStatus eStatusType uStatusCode found) := by
  cases bStop with
  | true =>
    simp only [connAnswered, if_true] at hans
    split at hans
    · cases hans
    cases hans
    refine settles_reportConnStatus h.base h.scanning (fun hs => .inr (h.connecting hs)) h.candidate
      fun hs => ?_
    by_cases hlast : s.connStops = 1 ∧ s.apConnStops = 0 ∧ s.scan ≠ .stopping
    · exact .inl (hkeep hs hlast.1 hlast.2.1 hlast.2.2)
    · right
      by_cases hscan : s.scan = .stopping
      · exact .inl hscan
      · right
        show 0 < s.connStops - 1 ∨ 0 < s.apConnStops
        simp only [ne_eq, hscan, not_false_eq_true, and_true] at hlast
        omega
  | false =>
    simp only [connAnswered, Bool.false_eq_true, if_false] at hans
    split at hans
    · cases hans
    cases hans
    refine settles_reportConnStatus h.base h.scanning (fun hs => ?_) h.candidate
      fun hs => .inr (h.disconnecting hs)
    by_cases hlast : s.connStarts = 1
    · exact .inl (hkeep hs hlast)
    · right
      show 0 < s.connStarts - 1
      omega

theorem Inv.reportApConnStatus {bStop : Bool}
    (h : s.Inv) (hkeep : s.Keeps (.reportApConnStatus bStop eStatusType uStatusCode))
    (hans : s.apConnAnswered bStop = some t) :
    Settles a 6 (t.smeReportApConnStatus eStatusType uStatusCode) := by
  cases bStop with
  | true =>
    simp only [apConnAnswered, Bool.not_true, Bool.false_eq_true, if_false] at hans
    split at hans
    · cases hans
    cases hans
    refine settles_reportApConnStatus h.base h.scanning h.connecting h.candidate fun hs => ?_
    by_cases hlast : s.apConnStops = 1 ∧ s.connStops = 0 ∧ s.scan ≠ .stopping
    · exact .inl (hkeep hs hlast.1 hlast.2.1 hlast.2.2)
    · right
      by_cases hscan : s.scan = .stopping
      · exact .inl hscan
      · right
        show 0 < s.connStops ∨ 0 < s.apConnStops - 1
        simp only [ne_eq, hscan, not_false_eq_true, and_true] at hlast
        omega
  | false =>
    cases hans
    exact settles_reportApConnStatus h.base h.scanning h.connecting h.candidate
      fun hs => .inr (h.disconnecting hs)

theorem Inv.setParam {p : SmeParam} (h : s.Inv) : Settles a 6 (s.smeSetParam p).2 := by
  have hscan : s.smState = .scanning → s.scan ≠ .none := fun hs => (h.scanning hs).1
  cases p with
  | radioOn b =>
    simp only [smeSetParam]
    split
    · cases b with
      | false =>
        exact settles_event h.kept
          (ready_stop h.kept h.base.idle (fun hs => h.base.live hs) hscan h.disconnecting)
      | true =>
        have hinv : ({ s with bRadioOn := true } : Sys).Inv := ⟨h.kept, h.scanning, h.connecting,
          h.candidate, h.disconnecting, h.owed, h.stopped⟩
        simp only [if_true]
        split
        · rename_i hr
          exact settles_event h.kept (ready_start hinv hr)
        · exact settles_none hinv
    · exact settles_none h
  | desiredSsid ssid =>
    simp only [smeSetParam]
    split
    · exact settles_none h
    · split
      · exact settles_event h.kept (ready_disconnect h.base hscan h.disconnecting)
      · exact settles_none h
  | desiredSsidAct ssid =>
    simp only [smeSetParam]
    split
    · exact settles_none h
    · obtain ⟨eSsidType, bConnectRequired, heq⟩ :=
        setSsidType_eq { s with bRadioOn := true, tSsid := ssid }
      rw [heq]
      split <;> exact settles_event h.kept (ready_disconnect h.base hscan h.disconnecting)
  | desiredBssid bssid | connectionMode mode | desiredBssType bssType =>
    simp only [smeSetParam]
    split
    · exact settles_event h.kept (ready_disconnect h.base hscan h.disconnecting)
    · exact settles_none h
  | wscPbMode on =>
    simp only [smeSetParam]
    split
    · exact settles_event h.kept (ready_disconnect h.base hscan h.disconnecting)
    · exact settles_none ⟨h.kept, h.scanning, h.connecting, h.candidate, h.disconnecting, h.owed,
        h.stopped⟩
  | unrecognized => exact settles_none h

/-! ## One step -/

/-- **Each step that keeps something to wait for keeps the invariant**, and its events end. -/
theorem Inv.call {i : Input} {x : Sys × Option SmEvent} (h : s.Inv) (hkeep : s.Keeps i)
    (hcall : s.call i = some x) : Settles a maxEvents x := by
  have hscan : s.smState = .scanning → s.scan ≠ .none := fun hs => (h.scanning hs).1
  cases i with
  | start =>
    cases hcall
    have hinv : ({ s with bRunning := true } : Sys).Inv := ⟨⟨h.kept.once, fun ho => absurd ho hkeep⟩,
      h.scanning, h.connecting, h.candidate, h.disconnecting, h.owed, fun hr => (nomatch hr)⟩
    simp only [smeStart]
    split
    · exact settles_event hinv.kept (ready_start hinv rfl)
    · exact settles_none hinv
  | stop =>
    cases hcall
    have hk : Kept (s.log ++ [.smeStop]) false :=
      ⟨each_snoc.mpr ⟨h.kept.once, fun hd => (nomatch hd)⟩, fun _ => rfl⟩
    exact settles_event hk (ready_stop hk (fun hs => absurd hs hkeep) (fun _ _ => owed_smeStop s.log)
      hscan h.disconnecting)
  | restart | connectRequired | disconnect =>
    cases hcall
    exact settles_event h.kept (ready_disconnect h.base hscan h.disconnecting)
  | setParam p =>
    cases hcall
    exact h.setParam
  | scanResultCb eStatus b =>
    obtain ⟨t, hans, rfl⟩ := Option.map_eq_some_iff.mp hcall
    exact settles_scanResultCb h hkeep hans
  | reportConnStatus bStop eStatusType uStatusCode found =>
    obtain ⟨t, hans, rfl⟩ := Option.map_eq_some_iff.mp hcall
    exact h.reportConnStatus hkeep hans
  | reportApConnStatus bStop eStatusType uStatusCode =>
    obtain ⟨t, hans, rfl⟩ := Option.map_eq_some_iff.mp hcall
    exact h.reportApConnStatus hkeep hans

theorem Inv.step {i : Input × Answers} (h : s.Inv) (hkeep : s.Keeps i.1)
    (hstep : s.step i = some t) : t.Inv := by
  obtain ⟨x, hcall, hsettle⟩ := Option.bind_eq_some_iff.mp hstep
  obtain ⟨u, hu, hinv⟩ := h.call (a := i.2) hkeep hcall
  cases hu.symm.trans hsettle
  exact hinv

/-- **In every run whose steps leave something to wait for, the SME never hangs**: the scanning, the
connecting and the disconnecting SME waits for something that is outstanding, and every
`sme_Stop` is followed by one `drvMain_SmeStop`. -/
theorem waits_for_something {p : InitParams} {is : List (Input × Answers)}
    (hkeeps : Along step (fun s i => s.Keeps i.1) (init p) is)
    (hrun : exec step (init p) is = some s) : s.NeverHangs :=
  (hkeeps.invariant (fun _ _ _ h hk hs => h.step hk hs) (inv_init p) hrun).neverHangs

/-! ## Sample runs -/

def anySsid (bRadioOn : Bool) : InitParams := ⟨bRadioOn, .auto, .infrastructure, [], []⟩

/-- No candidate is found, and a scan starts. -/
def scanStarts : Answers := ⟨⟨none, false, none⟩, true⟩

def stopWhileScanning : List (Input × Answers) :=
  [(.start, scanStarts), (.stop, scanStarts),
    (.scanResultCb .scanStopped scanStarts.selection, scanStarts)]

theorem waits_for_something_stopWhileScanning :
    ∃ s, exec step (init (anySsid true)) stopWhileScanning = some s ∧ s.NeverHangs := by
  have hkeeps : Along step (fun s i => s.Keeps i.1) (init (anySsid true)) stopWhileScanning := by
    refine ⟨not_owed_nil, fun _ h => ?_⟩
    cases h
    refine ⟨fun hidle => (nomatch hidle), fun _ h => ?_⟩
    cases h
    exact ⟨fun _ _ _ _ => .inl rfl, fun _ _ => trivial⟩
  exact ⟨_, rfl, waits_for_something hkeeps rfl⟩

/-- A scan ends with a candidate while it is being stopped. -/
def candidateWhileDisconnecting : List (Input × Answers) :=
  [(.start, scanStarts), (.disconnect, scanStarts),
    (.scanResultCb .scanCompleteOk ⟨some ⟨.infrastructure, false⟩, false, none⟩, scanStarts)]

/-- The SME disconnects for ever after the candidate; and with the radio off it is never stopped. -/
theorem hangs :
    (∃ s, exec step (init (anySsid true)) candidateWhileDisconnecting = some s ∧
      s.smState = .disconnecting ∧ s.Quiet) ∧
    ∃ s, exec step (init (anySsid false)) [(.start, scanStarts), (.stop, scanStarts)] = some s ∧
      s.Quiet ∧
      ¬ Answered (fun b => b.isSmeStop = true) (fun b => b.isDrvMainSmeStop = true) s.log := by
  refine ⟨⟨_, rfl, rfl, rfl, rfl, rfl, rfl⟩, _, rfl, ⟨rfl, rfl, rfl, rfl⟩, fun h => ?_⟩
  obtain ⟨b, hb, -⟩ := h [] .smeStop [] rfl rfl
  cases hb

end Sys

end ArchosGpl.Wlan.Sme
