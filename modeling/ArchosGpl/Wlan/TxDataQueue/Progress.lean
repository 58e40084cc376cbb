import Mathlib.Tactic.FinCases
import ArchosGpl.Lib.Ring
import ArchosGpl.Wlan.TxDataQueue.Packets

/-!
# No queue is forgotten

A round of the scheduler goes once around the queues (`Lib.Ring`). `Round` says that a queue the
round has dealt with may be left alone: it has an excuse, it is done, or something wakes the
scheduler.

With the excuse that the queue is busy: **every packet is in one place, the packets of a queue are
handed over in order, and a queue with packets that is not busy is never left without a run of the
scheduler on its way** (`conservation_and_progress`). `txDataQ_StopQueue` overwrites the busy state
of every queue, so a refusal for one access category can leave the packets of another one behind
(`refusal_forgets_queue`).
-/

open Function (update_apply update_of_ne update_self)

namespace ArchosGpl.Wlan.TxDataQueue

open Lib

namespace Sys

/-! ## What wakes the scheduler -/

/-- The insert in progress is going to request the scheduler. -/
def asks : Network → Bool
  | .left _ _ _ bRequestSchedule _ => bRequestSchedule
  | _ => false

/-- A run of the scheduler is requested, or the pacing timer is active. -/
def Wakes (s : Sys) : Prop :=
  s.scheduled = true ∨ asks s.network = true ∨ s.paceTimer = true ∨ s.expired = true

instance (s : Sys) : Decidable (Wakes s) := inferInstanceAs (Decidable (_ ∨ _))

/-- The packet that the scheduler has taken, with its queue, before `txCtrl` has seen it. -/
def taken : Driver → Option (Fin maxNumOfAc × TTxCtrlBlk)
  | .dequeued _ q p => some (q, p)
  | _ => none

/-- The input refuses the packet. -/
def refusal : Op → Option (Fin maxNumOfAc → Fin maxNumOfAc)
  | .xmitData highestAdmittedAc .stopCurrent => some highestAdmittedAc
  | _ => none

/-- The queues that the round of the scheduler has dealt with. -/
def Passed : Driver → Fin maxNumOfAc → Prop
  | .outside, _ => False
  | .loop idle q, r => Ring.behind q r < idle
  | .resuming idle q, r => Ring.behind q r < idle
  | .empty idle q, r => Ring.behind q r < idle ∧ r ≠ q
  | .dequeued idle q _, r => Ring.behind q r < idle ∧ r ≠ q
  | .refused idle q _, r => Ring.behind q r < idle ∧ r ≠ q

instance Passed.decidable : (driver : Driver) → (r : Fin maxNumOfAc) → Decidable (Passed driver r)
  | .outside, _ => isFalse id
  | .loop _ _, _ => inferInstanceAs (Decidable (_ < _))
  | .resuming _ _, _ => inferInstanceAs (Decidable (_ < _))
  | .empty _ _, _ => inferInstanceAs (Decidable (_ ∧ _))
  | .dequeued _ _ _, _ => inferInstanceAs (Decidable (_ ∧ _))
  | .refused _ _ _, _ => inferInstanceAs (Decidable (_ ∧ _))

variable {s s' : Sys} {q r : Fin maxNumOfAc} {p : TTxCtrlBlk} {idle : ℕ}

theorem updateQueuesBusyState_busy (s : Sys) (uTidBitMap : Fin maxNumOf8021dTags → Bool) :
    (s.updateQueuesBusyState uTidBitMap).obj.aQueueBusy =
      ![uTidBitMap 3, uTidBitMap 2, uTidBitMap 5, uTidBitMap 7] := by
  funext q
  fin_cases q <;> rfl

/-- After `txDataQ_StopQueue` for a packet exactly the queues that use its access category are busy. -/
def stopQueue (highestAdmittedAc : Fin maxNumOfAc → Fin maxNumOfAc) (tid : Fin maxNumOf8021dTags)
    (q : Fin maxNumOfAc) : Bool :=
  highestAdmittedAc q = highestAdmittedAc (aTidToQueueTable tid)

theorem updateQueuesBusyState_admitted (s : Sys) (highestAdmittedAc : Fin maxNumOfAc → Fin maxNumOfAc)
    (tid : Fin maxNumOf8021dTags) :
    (s.updateQueuesBusyState (admittedAcToTidMap highestAdmittedAc
      (highestAdmittedAc (aTidToQueueTable tid)))).obj.aQueueBusy =
      stopQueue highestAdmittedAc tid := by
  rw [updateQueuesBusyState_busy]
  funext q
  fin_cases q <;> rfl

/-! ## The round -/

section Round

/- `excuse busy q` says why a queue that holds packets may be left alone. `strict` says whether the
stop flag of a queue that is dealt with has to be down. -/
variable (excuse : (Fin maxNumOfAc → Bool) → Fin maxNumOfAc → Prop) (strict : Prop)

/-- Nothing is left to do for a queue. -/
def Done (s : Sys) (q : Fin maxNumOfAc) : Prop :=
  s.obj.aQueues q = [] ∧ (strict → s.obj.aNetStackQueueStopped q = false)

/-- A queue that may be left alone. -/
def Served (s : Sys) (q : Fin maxNumOfAc) : Prop :=
  excuse s.obj.aQueueBusy q ∨ Done strict s q ∨ Wakes s

/-- The queues that the round has dealt with may be left alone, and all of them outside the round. -/
structure Round (s : Sys) : Prop where
  thresh : ∀ q, 1 ≤ s.obj.aTxSendPaceThresh q
  flagged : ∀ q, s.obj.aNetStackQueueStopped q = true → s.obj.bStopNetStackTx = true
  passed : ∀ r, Passed s.driver r → Served excuse strict s r
  outside : s.driver = .outside → s.obj.bDataPortEnable = true → ∀ r, Served excuse strict s r
  empty : ∀ idle q, s.driver = .empty idle q →
    excuse s.obj.aQueueBusy q ∨ s.obj.aQueues q = [] ∨ Wakes s
  refused : ∀ idle q p, s.driver = .refused idle q p → excuse s.obj.aQueueBusy q

variable {excuse strict} (hexcuse : ∀ {busy : Fin maxNumOfAc → Bool} {q : Fin maxNumOfAc},
  busy q = true → excuse busy q)

theorem Served.mono (h : Served excuse strict s r) (hbusy : s'.obj.aQueueBusy = s.obj.aQueueBusy)
    (hqueue : s'.obj.aQueues r = s.obj.aQueues r)
    (hflag : s'.obj.aNetStackQueueStopped r = s.obj.aNetStackQueueStopped r)
    (hwakes : Wakes s → Wakes s') : Served excuse strict s' r := by
  rcases h with h | h | h
  · refine Or.inl ?_
    rw [hbusy]
    exact h
  · refine Or.inr (Or.inl ?_)
    rw [Done, hqueue, hflag]
    exact h
  · exact Or.inr (Or.inr (hwakes h))

theorem Wakes.insertPacket (h : Wakes s) (hnet : s.network = .outside)
    (tid : Fin maxNumOf8021dTags) : Wakes (s.insertPacket tid) := by
  rcases h with h | h | h | h
  · exact Or.inl h
  · rw [hnet] at h
    cases h
  · rw [Wakes, Sys.insertPacket, asks]
    dsimp only
    split
    next hpace => exact Or.inr (Or.inl (by rw [hpace, Bool.true_or]))
    next => exact Or.inr (Or.inr (Or.inl (by rw [h, Bool.or_true])))
  · exact Or.inr (Or.inr (Or.inr h))

include hexcuse in
theorem insertPacket_wakes (tid : Fin maxNumOf8021dTags)
    (hthresh : 1 ≤ s.obj.aTxSendPaceThresh (aTidToQueueTable tid))
    (hempty : s.obj.aQueues (aTidToQueueTable tid) = []) :
    excuse s.obj.aQueueBusy (aTidToQueueTable tid) ∨ Wakes (s.insertPacket tid) := by
  cases hbusy : s.obj.aQueueBusy (aTidToQueueTable tid) with
  | true => exact Or.inl (hexcuse hbusy)
  | false =>
    refine Or.inr ?_
    have hsize : (s.enqueue (aTidToQueueTable tid) ⟨s.inserted, tid⟩).length ≤ 1 := by
      rw [enqueue, hempty]
      split
      · rfl
      · exact Nat.zero_le _
    rw [Wakes, Sys.insertPacket, asks]
    dsimp only
    by_cases hpace : (s.enqueue (aTidToQueueTable tid) ⟨s.inserted, tid⟩).length =
        s.obj.aTxSendPaceThresh (aTidToQueueTable tid)
    · exact Or.inr (Or.inl (by simp [hbusy, hpace]))
    · have hbelow : (s.enqueue (aTidToQueueTable tid) ⟨s.inserted, tid⟩).length <
          s.obj.aTxSendPaceThresh (aTidToQueueTable tid) := by omega
      exact Or.inr (Or.inr (Or.inl (by simp [hbusy, hpace, hbelow])))

include hexcuse in
theorem Round.insertPacket (h : Round excuse strict s) (hnet : s.network = .outside)
    (tid : Fin maxNumOf8021dTags) : Round excuse strict (s.insertPacket tid) := by
  have hserved : ∀ r, Served excuse strict s r → Served excuse strict (s.insertPacket tid) r := by
    intro r hr
    by_cases hq : r = aTidToQueueTable tid
    · subst hq
      rcases hr with hr | hr | hr
      · exact Or.inl hr
      · rcases insertPacket_wakes hexcuse tid (h.thresh _) hr.1 with hw | hw
        · exact Or.inl hw
        · exact Or.inr (Or.inr hw)
      · exact Or.inr (Or.inr (hr.insertPacket hnet tid))
    · refine hr.mono rfl ?_ ?_ fun hw => hw.insertPacket hnet tid
      · exact update_of_ne hq ..
      · rw [Sys.insertPacket]
        dsimp only
        split
        · exact update_of_ne hq ..
        · rfl
  constructor
  case thresh => exact h.thresh
  case flagged =>
    intro r hr
    rw [Sys.insertPacket] at hr ⊢
    dsimp only at hr ⊢
    split at hr
    next hstop => exact (Bool.and_eq_true_iff.mp hstop).1
    next => exact h.flagged r hr
  case passed => exact fun r hr => hserved r (h.passed r hr)
  case outside => exact fun hout hport r => hserved r (h.outside hout hport r)
  case empty =>
    intro idle q hdriver
    rcases h.empty idle q hdriver with he | he | he
    · exact Or.inl he
    · by_cases hq : q = aTidToQueueTable tid
      · subst hq
        rcases insertPacket_wakes hexcuse tid (h.thresh _) he with hw | hw
        · exact Or.inl hw
        · exact Or.inr (Or.inr hw)
      · refine Or.inr (Or.inl ?_)
        rw [← he]
        exact update_of_ne hq ..
    · exact Or.inr (Or.inr (he.insertPacket hnet tid))
  case refused => exact h.refused

theorem Round.enter (h : Round excuse strict s) (hthresh : s'.obj.aTxSendPaceThresh =
    s.obj.aTxSendPaceThresh) (hstop : s'.obj.bStopNetStackTx = s.obj.bStopNetStackTx)
    (hflag : s'.obj.aNetStackQueueStopped = s.obj.aNetStackQueueStopped)
    (hdriver : s'.driver = .loop 0 q) : Round excuse strict s' := by
  constructor
  case thresh =>
    rw [hthresh]
    exact h.thresh
  case flagged =>
    rw [hflag, hstop]
    exact h.flagged
  case passed =>
    intro r hr
    rw [hdriver] at hr
    exact absurd hr (Nat.not_lt_zero _)
  case outside =>
    intro hout
    rw [hdriver] at hout
    cases hout
  case empty =>
    intro idle q hempty
    rw [hdriver] at hempty
    cases hempty
  case refused =>
    intro idle q p hrefused
    rw [hdriver] at hrefused
    cases hrefused

include hexcuse in
theorem Round.iterate (h : Round excuse strict s) (hdriver : s.driver = .loop idle q) :
    Round excuse strict (s.iterate idle q) := by
  have hpassed : ∀ r, r ≠ q + 1 → Ring.behind (q + 1) r < idle + 1 → Served excuse strict s r := by
    intro r hr hlt
    refine h.passed r ?_
    rw [hdriver]
    rw [Ring.behind_next_of_ne hr] at hlt
    exact Nat.lt_of_succ_lt_succ hlt
  rw [Sys.iterate]
  split
  next hexit =>
    refine ⟨h.thresh, h.flagged, fun r hr => hr.elim, fun _ hport r => ?_, by simp, by simp⟩
    have hopen : s.obj.bDataPortEnable = true := hport
    have hidle : maxNumOfAc ≤ idle := by simpa [hopen] using hexit
    refine (h.passed r ?_).mono rfl rfl rfl id
    rw [hdriver]
    exact Nat.lt_of_lt_of_le (Ring.behind_lt q r) hidle
  next =>
    dsimp only
    split
    next hbusy =>
      refine ⟨h.thresh, h.flagged, fun r hr => ?_, by simp, by simp, by simp⟩
      by_cases hq : r = q + 1
      · subst hq
        exact Or.inl (hexcuse hbusy)
      · exact (hpassed r hq hr).mono rfl rfl rfl id
    next =>
      split
      next hqueue =>
        refine ⟨h.thresh, h.flagged, fun r hr => ?_, by simp, fun idle' q' he => ?_, by simp⟩
        · exact (hpassed r hr.2 hr.1).mono rfl rfl rfl id
        · obtain ⟨-, rfl⟩ := Driver.empty.inj he
          exact Or.inr (Or.inl hqueue)
      next p rest hqueue =>
        refine ⟨h.thresh, h.flagged, fun r hr => ?_, by simp, by simp, by simp⟩
        refine (hpassed r hr.2 hr.1).mono rfl ?_ rfl id
        exact update_of_ne hr.2 ..

theorem Round.testStopped (h : Round excuse strict s) (hdriver : s.driver = .empty idle q) :
    Round excuse strict (s.testStopped idle q) := by
  have hother : ∀ r, Ring.behind q r < idle → r ≠ q → Served excuse strict s r := by
    intro r hr hne
    refine h.passed r ?_
    rw [hdriver]
    exact ⟨hr, hne⟩
  rw [Sys.testStopped]
  split
  next hstop =>
    refine ⟨h.thresh, fun r hr => ?_, fun r hr => ?_, by simp, by simp, by simp⟩
    · exact (Bool.and_eq_true_iff.mp hstop).1
    · by_cases hq : r = q
      · subst hq
        rcases h.empty _ _ hdriver with he | he | he
        · exact Or.inl he
        · exact Or.inr (Or.inl ⟨he, fun _ => update_self ..⟩)
        · exact Or.inr (Or.inr he)
      · exact (hother r hr hq).mono rfl rfl (update_of_ne hq ..) id
  next hstop =>
    refine ⟨h.thresh, h.flagged, fun r hr => ?_, by simp, by simp, by simp⟩
    by_cases hq : r = q
    · subst hq
      rcases h.empty _ _ hdriver with he | he | he
      · exact Or.inl he
      · refine Or.inr (Or.inl ⟨he, fun _ => ?_⟩)
        by_contra hflag
        have hup := Bool.of_not_eq_false hflag
        exact hstop (by rw [h.flagged r hup, hup]; rfl)
      · exact Or.inr (Or.inr he)
    · exact (hother r hr hq).mono rfl rfl rfl id

/-- What a refusal asks: the queue of the packet has an excuse after it, and so has every queue that
the round passed with one and that is not done. -/
def Keeps (excuse : (Fin maxNumOfAc → Bool) → Fin maxNumOfAc → Prop) (strict : Prop) (s : Sys)
    (op : Op) : Prop :=
  ∀ highestAdmittedAc ∈ refusal op, ∀ x ∈ taken s.driver,
    let busy := stopQueue highestAdmittedAc x.2.tid
    excuse busy x.1 ∧
      ∀ r, Passed s.driver r → excuse s.obj.aQueueBusy r → ¬ Done strict s r → excuse busy r

theorem Round.xmitData (h : Round excuse strict s) (hdriver : s.driver = .dequeued idle q p)
    (highestAdmittedAc : Fin maxNumOfAc → Fin maxNumOfAc) (eHwQueStatus : ETxHwQueStatus)
    (hkeeps : Keeps excuse strict s (.xmitData highestAdmittedAc eHwQueStatus)) :
    Round excuse strict (s.xmitData idle q p highestAdmittedAc eHwQueStatus) := by
  cases eHwQueStatus with
  | success | stopNext => exact h.enter rfl rfl rfl rfl
  | stopCurrent =>
    obtain ⟨hown, hother⟩ := hkeeps _ rfl (q, p) (by rw [hdriver]; rfl)
    have hbusy : (s.xmitData idle q p highestAdmittedAc .stopCurrent).obj.aQueueBusy =
        stopQueue highestAdmittedAc p.tid :=
      updateQueuesBusyState_admitted s highestAdmittedAc p.tid
    refine ⟨h.thresh, h.flagged, fun r hr => ?_, nofun, nofun, fun idle' q' p' hrefused => ?_⟩
    · have hr' : Passed s.driver r := by
        rw [hdriver]
        exact hr
      by_cases hdone : Done strict s r
      · exact Or.inr (Or.inl hdone)
      · rcases h.passed r hr' with he | he | he
        · refine Or.inl ?_
          rw [hbusy]
          exact hother r hr' he hdone
        · exact absurd he hdone
        · exact Or.inr (Or.inr he)
    · obtain ⟨-, rfl, -⟩ := Driver.refused.inj hrefused
      rw [hbusy]
      exact hown

theorem Round.requeue (h : Round excuse strict s) (hdriver : s.driver = .refused idle q p) :
    Round excuse strict (s.requeue idle q p) := by
  have hserved : ∀ r, Ring.behind q r < idle → r ≠ q → Served excuse strict s r := by
    intro r hr hne
    refine h.passed r ?_
    rw [hdriver]
    exact ⟨hr, hne⟩
  rw [Sys.requeue]
  split
  · refine ⟨h.thresh, h.flagged, fun r hr => ?_, by simp, by simp, by simp⟩
    by_cases hq : r = q
    · subst hq
      exact Or.inl (h.refused _ _ _ hdriver)
    · exact (hserved r hr hq).mono rfl (update_of_ne hq ..) rfl id
  · refine ⟨h.thresh, h.flagged, fun r hr => ?_, by simp, by simp, by simp⟩
    by_cases hq : r = q
    · subst hq
      exact Or.inl (h.refused _ _ _ hdriver)
    · exact (hserved r hr hq).mono rfl rfl rfl id

theorem Round.congr (h : Round excuse strict s) (hobj : s'.obj = s.obj)
    (hdriver : s'.driver = s.driver) (hwakes : Wakes s → Wakes s') : Round excuse strict s' := by
  have hserved : ∀ r, Served excuse strict s r → Served excuse strict s' r := fun r hr =>
    hr.mono (by rw [hobj]) (by rw [hobj]) (by rw [hobj]) hwakes
  constructor
  case thresh =>
    rw [hobj]
    exact h.thresh
  case flagged =>
    rw [hobj]
    exact h.flagged
  case passed =>
    rw [hdriver]
    exact fun r hr => hserved r (h.passed r hr)
  case outside =>
    rw [hdriver, hobj]
    exact fun hout hport r => hserved r (h.outside hout hport r)
  case empty =>
    rw [hdriver, hobj]
    exact fun idle q he => (h.empty idle q he).imp_right (Or.imp_right hwakes)
  case refused =>
    rw [hdriver, hobj]
    exact h.refused

include hexcuse in
theorem Round.step (h : Round excuse strict s) {op : Op} (hkeeps : Keeps excuse strict s op)
    (hs : Sys.step s op = some s') : Round excuse strict s' := by
  cases op with
  | insertPacket tid =>
    obtain ⟨hnet, ⟨⟩⟩ := Option.ite_none_right_eq_some.mp hs
    exact h.insertPacket hexcuse hnet tid
  | requestSchedule =>
    rw [Sys.step] at hs
    split at hs
    next bRequestSchedule _ hnet =>
      cases hs
      refine h.congr rfl rfl fun hw => ?_
      rcases hw with hw | hw | hw
      · exact Or.inl (by rw [hw, Bool.or_true])
      · rw [hnet] at hw
        have hrequest : bRequestSchedule = true := hw
        exact Or.inl (by rw [hrequest, Bool.true_or])
      · exact Or.inr (Or.inr hw)
    · cases hs
  | stopTx =>
    rw [Sys.step] at hs
    split at hs
    next hnet =>
      cases hs
      refine h.congr rfl rfl fun hw => ?_
      rcases hw with hw | hw | hw
      · exact Or.inl hw
      · rw [hnet] at hw
        cases hw
      · exact Or.inr (Or.inr hw)
    · cases hs
  | paceExpiry =>
    obtain ⟨-, ⟨⟩⟩ := Option.ite_none_right_eq_some.mp hs
    exact h.congr rfl rfl fun _ => Or.inr (Or.inr (Or.inr rfl))
  | runScheduler | txSendPaceTimeout | updateBusyMap uTidBitMap | wakeAll =>
    obtain ⟨-, ⟨⟩⟩ := Option.ite_none_right_eq_some.mp hs
    exact h.enter rfl rfl rfl rfl
  | stopAll =>
    obtain ⟨hout, ⟨⟩⟩ := Option.ite_none_right_eq_some.mp hs
    refine ⟨h.thresh, h.flagged, h.passed, fun _ hport => ?_, h.empty, h.refused⟩
    cases hport
  | iterate =>
    rw [Sys.step] at hs
    split at hs
    next hdriver =>
      cases hs
      exact h.iterate hexcuse hdriver
    · cases hs
  | testStopped =>
    rw [Sys.step] at hs
    split at hs
    next hdriver =>
      cases hs
      exact h.testStopped hdriver
    · cases hs
  | resumeTx =>
    rw [Sys.step] at hs
    split at hs
    next hdriver =>
      cases hs
      refine ⟨h.thresh, h.flagged, fun r hr => ?_, by simp, by simp, by simp⟩
      refine (h.passed r ?_).mono rfl rfl rfl id
      rw [hdriver]
      exact hr
    · cases hs
  | xmitData highestAdmittedAc eHwQueStatus =>
    rw [Sys.step] at hs
    split at hs
    next hdriver =>
      cases hs
      exact h.xmitData hdriver highestAdmittedAc eHwQueStatus hkeeps
    · cases hs
  | requeue =>
    rw [Sys.step] at hs
    split at hs
    next hdriver =>
      cases hs
      exact h.requeue hdriver
    · cases hs

theorem Round.init (p : TxDataInitParams) : Round excuse strict (init p) := by
  refine ⟨fun q => ?_, nofun, nofun, nofun, nofun, nofun⟩
  rw [Sys.init]
  dsimp only
  rw [update_apply]
  split
  · rfl
  · exact p.thresh_pos

end Round

/-! ## Progress -/

/-- A refusal keeps busy the queue of the packet, and every busy queue with packets that the round
has passed. -/
def StaysBusy (s : Sys) (op : Op) : Prop :=
  ∀ highestAdmittedAc ∈ refusal op, ∀ x ∈ taken s.driver,
    let busy := stopQueue highestAdmittedAc x.2.tid
    busy x.1 = true ∧
      ∀ r, Passed s.driver r → s.obj.aQueueBusy r = true → s.obj.aQueues r ≠ [] → busy r = true

instance (s : Sys) (op : Op) : Decidable (StaysBusy s op) :=
  inferInstanceAs (Decidable (∀ highestAdmittedAc ∈ refusal op, ∀ x ∈ taken s.driver, _ ∧ _))

/-- With the port open, a queue that is not busy and holds packets is being looked at, or a run of
the scheduler is on its way. -/
def Progress (s : Sys) : Prop :=
  s.obj.bDataPortEnable = true → ∀ q, s.obj.aQueueBusy q = false → s.obj.aQueues q ≠ [] →
    s.driver ≠ .outside ∨ Wakes s

theorem Round.progress (h : Round (fun busy q => busy q = true) False s) : Progress s := by
  intro hport q hbusy hqueue
  by_cases hout : s.driver = .outside
  · rcases h.outside hout hport q with he | he | he
    · rw [hbusy] at he
      cases he
    · exact absurd he.1 hqueue
    · exact Or.inr he
  · exact Or.inl hout

/-- **No packet is lost or overtaken, and no queue is forgotten**, in a run whose refusals leave no
queue behind. -/
theorem conservation_and_progress (p : TxDataInitParams) {ops : List Op}
    (ha : Along step StaysBusy (init p) ops) (he : exec step (init p) ops = some s) :
    s.station.Sound ∧ Progress s := by
  refine ⟨station_sound p he, Round.progress ?_⟩
  refine Along.invariant (I := Round (fun busy q => busy q = true) False) ?_ (Round.init p) ha he
  intro s op s' h hstays hs
  refine h.step id (fun ac hac x hx => ?_) hs
  obtain ⟨hown, hother⟩ := hstays ac hac x hx
  refine ⟨hown, fun r hr hbusy hdone => hother r hr hbusy fun hqueue => hdone ⟨hqueue, False.elim⟩⟩

/-- `txDataQ_InsertPacket` with nothing between its steps. -/
def insertOps (tid : Fin maxNumOf8021dTags) : List Op :=
  [.insertPacket tid, .requestSchedule, .stopTx]

/-- The scheduler finds a queue empty. -/
def emptyOps : List Op := [.iterate, .testStopped]

/-- A threshold of one packet. -/
def atOnce : TxDataInitParams := ⟨false, 1, Nat.le_refl 1⟩

/-- `txCtrl` refuses the packet of queue 1 and takes it after the queue is free again. -/
def refusedOps : List Op :=
  [.wakeAll] ++ insertOps 1 ++ [.iterate, .xmitData id .stopCurrent, .requeue] ++ emptyOps ++
    emptyOps ++ emptyOps ++
    [.iterate, .updateBusyMap fun _ => false, .iterate, .xmitData id .success]

theorem conservation_and_progress_refused : ∃ s,
    exec step (init atOnce) (refusedOps ++ insertOps 1) = some s ∧ s.handed = [(1, 0)] ∧
      s.obj.aQueues 1 ≠ [] ∧ s.station.Sound ∧ Progress s := by
  have hrun : (exec step (init atOnce) (refusedOps ++ insertOps 1)).map
      (fun s => (s.handed, s.obj.aQueues 1)) = some ([(1, 0)], [⟨1, 1⟩]) := by
    decide +kernel
  obtain ⟨s, hs, hfields⟩ := Option.map_eq_some_iff.mp hrun
  obtain ⟨hhanded, hqueue⟩ := Prod.mk.inj hfields
  refine ⟨s, hs, hhanded, by simp [hqueue], ?_⟩
  refine conservation_and_progress atOnce ?_ hs
  decide +kernel

/-- `txCtrl` takes the packet of queue 1 and stops the queue. -/
def stoppedOps : List Op :=
  [.wakeAll] ++ insertOps 1 ++ [.iterate, .xmitData id .stopNext] ++ emptyOps ++ emptyOps ++ emptyOps ++
    [.iterate, .iterate]

/-- The round passes the busy queue 1, and then `txCtrl` refuses a packet of queue 2: queue 1 is no
longer busy, and nothing will look at its packet. -/
theorem refusal_forgets_queue : ∃ s,
    exec step (init atOnce) (stoppedOps ++ insertOps 1 ++ insertOps 4 ++ insertOps 4 ++
      [.runScheduler, .iterate, .xmitData id .success] ++ emptyOps ++ emptyOps ++
      [.iterate, .iterate, .xmitData id .stopCurrent, .requeue, .iterate]) = some s ∧
      ¬ Progress s := by
  have hrun : (exec step (init atOnce) (stoppedOps ++ insertOps 1 ++ insertOps 4 ++ insertOps 4 ++
      [.runScheduler, .iterate, .xmitData id .success] ++ emptyOps ++ emptyOps ++
      [.iterate, .iterate, .xmitData id .stopCurrent, .requeue, .iterate])).map
      (fun s => (s.obj.bDataPortEnable, s.obj.aQueueBusy 1, s.obj.aQueues 1, s.driver,
        decide (Wakes s))) = some (true, false, [⟨1, 1⟩], .outside, false) := by
    decide +kernel
  obtain ⟨s, hs, hfields⟩ := Option.map_eq_some_iff.mp hrun
  simp only [Prod.mk.injEq, decide_eq_false_iff_not] at hfields
  obtain ⟨hport, hbusy, hqueue, hdriver, hwakes⟩ := hfields
  refine ⟨s, hs, fun h => ?_⟩
  rcases h hport 1 hbusy (by simp [hqueue]) with hin | hw
  · exact hin hdriver
  · exact hwakes hw

end Sys

end ArchosGpl.Wlan.TxDataQueue
