import ArchosGpl.Wlan.TxDataQueue.Progress

/-!
# The network stack is not left stopped

A full queue gets its stop flag inside the critical section of the insert; `wlanDrvIf_StopTx` is
called after it. `Flagged` ties the two: a stopped network stack, and one about to be stopped, has a
flag that is up or a scheduler about to resume it. With the round of the scheduler (`Round`, where a
queue that was dealt with has its flag down) it gives **`stopped_full`**: in a quiescent state the
network stack is stopped only when some queue is full.

It asks that the scheduler does not resume the network stack between the critical section of an
insert that stops it and its call of `wlanDrvIf_StopTx`, with the flag down again.
-/

namespace ArchosGpl.Wlan.TxDataQueue

open Lib

namespace Sys

variable {s s' : Sys}

/-- The queue for which the insert in progress is going to stop the network stack. -/
def stopping : Network → Option (Fin maxNumOfAc)
  | .left _ q _ _ bStopNetStack => if bStopNetStack then some q else none
  | .requested _ q _ bStopNetStack => if bStopNetStack then some q else none
  | .outside => none

/-- The scheduler is about to call `wlanDrvIf_ResumeTx`. -/
def isResuming : Driver → Bool
  | .resuming _ _ => true
  | _ => false

/-- The input is the call of `wlanDrvIf_ResumeTx`. -/
def isResume : Op → Bool
  | .resumeTx => true
  | _ => false

/-- A network stack that is stopped, or about to be, will be resumed. -/
structure Flagged (s : Sys) : Prop where
  stopped : s.netStopped = true →
    (∃ q, s.obj.aNetStackQueueStopped q = true) ∨ isResuming s.driver = true
  stopping : ∀ q ∈ stopping s.network,
    s.obj.aNetStackQueueStopped q = true ∨ isResuming s.driver = true

/-- `wlanDrvIf_ResumeTx` is called when no insert is about to stop the network stack, or the flag of
its queue is up. -/
def ResumesFlagged (s : Sys) (op : Op) : Prop :=
  isResume op = true → ∀ q ∈ stopping s.network, s.obj.aNetStackQueueStopped q = true

instance (s : Sys) (op : Op) : Decidable (ResumesFlagged s op) :=
  inferInstanceAs (Decidable (_ → ∀ q ∈ stopping s.network, _))

theorem Flagged.congr (h : Flagged s) (hflag : s'.obj.aNetStackQueueStopped =
    s.obj.aNetStackQueueStopped) (hnet : s'.network = s.network)
    (hstopped : s'.netStopped = s.netStopped)
    (hdriver : isResuming s.driver = false ∨ s'.driver = s.driver) : Flagged s' := by
  have hresuming : isResuming s.driver = true → isResuming s'.driver = true := by
    intro hr
    rcases hdriver with hd | hd
    · rw [hd] at hr
      cases hr
    · rw [hd]
      exact hr
  constructor
  case stopped =>
    rw [hstopped, hflag]
    exact fun hs => (h.stopped hs).imp_right hresuming
  case stopping =>
    rw [hnet, hflag]
    exact fun q hq => (h.stopping q hq).imp_right hresuming

theorem Flagged.insertPacket (h : Flagged s) (tid : Fin maxNumOf8021dTags) :
    Flagged (s.insertPacket tid) := by
  have hmono : ∀ q, s.obj.aNetStackQueueStopped q = true →
      (s.insertPacket tid).obj.aNetStackQueueStopped q = true := by
    intro q hq
    rw [Sys.insertPacket]
    dsimp only
    split
    · rw [Function.update_apply]
      split
      · rfl
      · exact hq
    · exact hq
  constructor
  case stopped =>
    intro hs
    rcases h.stopped hs with ⟨q, hq⟩ | hr
    · exact Or.inl ⟨q, hmono q hq⟩
    · exact Or.inr hr
  case stopping =>
    intro q hq
    refine Or.inl ?_
    rw [Sys.insertPacket] at hq ⊢
    dsimp only [Sys.stopping] at hq ⊢
    split at hq
    next hstop =>
      cases hq
      rw [if_pos hstop]
      exact Function.update_self ..
    next => cases hq

theorem Flagged.testStopped (h : Flagged s) {idle : ℕ} {q : Fin maxNumOfAc}
    (hdriver : s.driver = .empty idle q) : Flagged (s.testStopped idle q) := by
  rw [Sys.testStopped]
  split
  · exact ⟨fun _ => Or.inr rfl, fun _ _ => Or.inr rfl⟩
  · exact h.congr rfl rfl rfl (Or.inl (by rw [hdriver]; rfl))

theorem Flagged.iterate (h : Flagged s) {idle : ℕ} {q : Fin maxNumOfAc}
    (hdriver : s.driver = .loop idle q) : Flagged (s.iterate idle q) := by
  have hno : isResuming s.driver = false := by rw [hdriver]; rfl
  rw [Sys.iterate]
  split
  · exact h.congr rfl rfl rfl (Or.inl hno)
  · dsimp only
    split
    · exact h.congr rfl rfl rfl (Or.inl hno)
    · split <;> exact h.congr rfl rfl rfl (Or.inl hno)

theorem Flagged.step (h : Flagged s) {op : Op} (hresume : ResumesFlagged s op)
    (hs : Sys.step s op = some s') : Flagged s' := by
  cases op with
  | insertPacket tid =>
    obtain ⟨-, ⟨⟩⟩ := Option.ite_none_right_eq_some.mp hs
    exact h.insertPacket tid
  | requestSchedule =>
    rw [Sys.step] at hs
    split at hs
    next hnet =>
      cases hs
      refine ⟨h.stopped, fun q hq => h.stopping q ?_⟩
      rw [hnet]
      exact hq
    · cases hs
  | stopTx =>
    rw [Sys.step] at hs
    split at hs
    next p q queued bStopNetStack hnet =>
      cases hs
      refine ⟨fun hstopped => ?_, fun q hq => by cases hq⟩
      cases bStopNetStack with
      | true => exact (h.stopping q (by rw [hnet]; rfl)).imp_left fun hq => ⟨q, hq⟩
      | false => exact h.stopped hstopped
    · cases hs
  | paceExpiry | stopAll =>
    obtain ⟨-, ⟨⟩⟩ := Option.ite_none_right_eq_some.mp hs
    exact h.congr rfl rfl rfl (Or.inr rfl)
  | runScheduler | txSendPaceTimeout =>
    obtain ⟨⟨-, hout⟩, ⟨⟩⟩ := Option.ite_none_right_eq_some.mp hs
    exact h.congr rfl rfl rfl (Or.inl (by rw [hout]; rfl))
  | updateBusyMap uTidBitMap | wakeAll =>
    obtain ⟨hout, ⟨⟩⟩ := Option.ite_none_right_eq_some.mp hs
    exact h.congr rfl rfl rfl (Or.inl (by rw [hout]; rfl))
  | iterate =>
    rw [Sys.step] at hs
    split at hs
    next hdriver =>
      cases hs
      exact h.iterate hdriver
    · cases hs
  | testStopped =>
    rw [Sys.step] at hs
    split at hs
    next hdriver =>
      cases hs
      exact h.testStopped hdriver
    · cases hs
  | resumeTx =>
    rw [Sys.step] at hs
    split at hs
    next hdriver =>
      cases hs
      exact ⟨fun hc => absurd hc Bool.false_ne_true, fun q hq => Or.inl (hresume rfl q hq)⟩
    · cases hs
  | xmitData highestAdmittedAc eHwQueStatus =>
    rw [Sys.step] at hs
    split at hs
    next hdriver =>
      cases hs
      have hno : isResuming s.driver = false := by rw [hdriver]; rfl
      cases eHwQueStatus with
      | success | stopNext | stopCurrent => exact h.congr rfl rfl rfl (Or.inl hno)
    · cases hs
  | requeue =>
    rw [Sys.step] at hs
    split at hs
    next hdriver =>
      cases hs
      have hno : isResuming s.driver = false := by rw [hdriver]; rfl
      rw [Sys.requeue]
      split <;> exact h.congr rfl rfl rfl (Or.inl hno)
    · cases hs

theorem Flagged.init (p : TxDataInitParams) : Flagged (init p) where
  stopped := nofun
  stopping := nofun

/-! ## Quiescent states -/

/-- Neither context is inside the module, nothing is requested, no timer is active, and no queue
waits for a call of `txDataQ_WakeAll` or `txDataQ_UpdateBusyMap`. -/
structure Quiescent (s : Sys) : Prop where
  network : s.network = .outside
  driver : s.driver = .outside
  scheduled : s.scheduled = false
  paceTimer : s.paceTimer = false
  expired : s.expired = false
  port : s.obj.bDataPortEnable = true
  busy : ∀ q, s.obj.aQueueBusy q = false

instance (s : Sys) : Decidable (Quiescent s) :=
  decidable_of_iff (s.network = .outside ∧ s.driver = .outside ∧ s.scheduled = false ∧
      s.paceTimer = false ∧ s.expired = false ∧ s.obj.bDataPortEnable = true ∧
      ∀ q, s.obj.aQueueBusy q = false)
    ⟨fun ⟨hn, hd, hs, hp, he, ho, hb⟩ => ⟨hn, hd, hs, hp, he, ho, hb⟩,
      fun ⟨hn, hd, hs, hp, he, ho, hb⟩ => ⟨hn, hd, hs, hp, he, ho, hb⟩⟩

def StoppedFull (s : Sys) : Prop :=
  s.netStopped = true → ∃ q, s.obj.aQueueMaxSize q ≤ (s.obj.aQueues q).length

theorem Quiescent.not_wakes (h : Quiescent s) : ¬ Wakes s := by
  rw [Wakes, h.network, h.scheduled, h.paceTimer, h.expired]
  simp [asks]

theorem keeps_some_busy (s : Sys) (op : Op) :
    Keeps (fun busy _ => ∃ q, busy q = true) True s op := by
  intro ac _ x _
  have hself : stopQueue ac x.2.tid (aTidToQueueTable x.2.tid) = true := decide_eq_true rfl
  exact ⟨⟨_, hself⟩, fun _ _ _ _ => ⟨_, hself⟩⟩

/-- **In a quiescent state the network stack is not stopped without a full queue.** -/
theorem stopped_full (p : TxDataInitParams) {ops : List Op}
    (ha : Along step ResumesFlagged (init p) ops) (he : exec step (init p) ops = some s)
    (hq : Quiescent s) : StoppedFull s := by
  have hround : Round (fun busy _ => ∃ q, busy q = true) True s :=
    exec_invariant (I := Round (fun busy _ => ∃ q, busy q = true) True)
      (fun t op t' ht hs => ht.step (fun hb => ⟨_, hb⟩) (keeps_some_busy t op) hs) (Round.init p) he
  have hflagged : Flagged s :=
    Along.invariant (I := Flagged) (fun t op t' ht hop hs => ht.step hop hs) (Flagged.init p) ha he
  intro hstopped
  rcases hflagged.stopped hstopped with ⟨q, hflag⟩ | hresuming
  · rcases hround.outside hq.driver hq.port q with ⟨q', hbusy⟩ | hdone | hwakes
    · rw [hq.busy] at hbusy
      cases hbusy
    · rw [hdone.2 trivial] at hflag
      cases hflag
    · exact absurd hwakes hq.not_wakes
  · rw [hq.driver] at hresuming
    cases hresuming

/-- The network stack is stopped when a queue is full. -/
def withStop : TxDataInitParams := { atOnce with bStopNetStackTx := true }

/-- `txCtrl` takes a packet of queue 1, and the other queues are empty. -/
def drainOps : List Op := [.iterate, .xmitData id .success] ++ emptyOps ++ emptyOps ++ emptyOps

/-- The port is opened, and queue 1 is filled up to the last packet. -/
def fillOps : List Op :=
  [.wakeAll] ++ emptyOps ++ emptyOps ++ emptyOps ++ emptyOps ++ [.iterate] ++
    (List.replicate 9 (insertOps 1)).flatten

/-- The scheduler hands over the ten packets and resumes the network stack. -/
def emptyingOps : List Op :=
  [.runScheduler] ++ (List.replicate 10 drainOps).flatten ++ emptyOps ++ [.resumeTx, .iterate]

/-- The stop comes before the scheduler runs: the network stack is running again at the end. -/
theorem stopped_full_resumed : ∃ s,
    exec step (init withStop) (fillOps ++ insertOps 1 ++ emptyingOps) = some s ∧ Quiescent s ∧
      StoppedFull s := by
  have hrun : (exec step (init withStop) (fillOps ++ insertOps 1 ++ emptyingOps)).map
      (fun s => decide (Quiescent s)) = some true := by
    decide +kernel
  obtain ⟨s, hs, hquiescent⟩ := Option.map_eq_some_iff.mp hrun
  have hq : Quiescent s := of_decide_eq_true hquiescent
  refine ⟨s, hs, hq, stopped_full withStop ?_ hs hq⟩
  decide +kernel

/-- The tenth insert leaves its critical section, the scheduler hands over the ten packets and
resumes the network stack, and the insert stops it. -/
theorem late_stop_stays : ∃ s,
    exec step (init withStop)
      (fillOps ++ [.insertPacket 1, .requestSchedule] ++ emptyingOps ++ [.stopTx]) = some s ∧
      Quiescent s ∧ ¬ StoppedFull s := by
  have hrun : (exec step (init withStop)
      (fillOps ++ [.insertPacket 1, .requestSchedule] ++ emptyingOps ++ [.stopTx])).map
      (fun s => (decide (Quiescent s), s.netStopped,
        decide (∃ q, s.obj.aQueueMaxSize q ≤ (s.obj.aQueues q).length))) =
        some (true, true, false) := by
    decide +kernel
  obtain ⟨s, hs, hfields⟩ := Option.map_eq_some_iff.mp hrun
  simp only [Prod.mk.injEq, decide_eq_true_eq, decide_eq_false_iff_not] at hfields
  obtain ⟨hquiescent, hstopped, hfull⟩ := hfields
  exact ⟨s, hs, hquiescent, fun h => hfull (h hstopped)⟩

end Sys

end ArchosGpl.Wlan.TxDataQueue
