import Mathlib.Data.Fintype.Basic
import ArchosGpl.Lib.Station
import ArchosGpl.Wlan.TxDataQueue.Model

/-!
# Every packet in one place

The data queues with the scheduler are a station (`Lib.Station`): the packet that the scheduler
took and `txCtrl` has not accepted is in hand. Every step of the module is a move of the station or
none (`station_step`), so **every packet inserted is queued, in hand, handed to `txCtrl`, or freed,
and the packets of one queue are handed over in the order of their insertion** (`station_sound`).
-/

namespace ArchosGpl.Wlan.TxDataQueue

open Lib

namespace Sys

/-- The packet that the scheduler has in hand. -/
def inHand : Driver → Option (Fin maxNumOfAc × ℕ)
  | .dequeued _ q p => some (q, p.num)
  | .refused _ q p => some (q, p.num)
  | _ => none

/-- The packet that was not queued and is still to be freed. -/
def toFree : Network → Multiset ℕ
  | .left p _ queued _ _ => if queued then 0 else {p.num}
  | .requested p _ queued _ => if queued then 0 else {p.num}
  | .outside => 0

def station (s : Sys) : Station (Fin maxNumOfAc) where
  queue := List.map TTxCtrlBlk.num ∘ s.obj.aQueues
  hand := inHand s.driver
  served := s.handed
  gone := (s.freed : Multiset ℕ) + toFree s.network
  arrived := s.inserted

variable {s s' : Sys} {q : Fin maxNumOfAc} {p : TTxCtrlBlk} {idle : ℕ}

theorem station_insertPacket (h : s.network = .outside) (tid : Fin maxNumOf8021dTags) :
    Station.Move s.station (s.insertPacket tid).station := by
  have hfree : toFree s.network = 0 := by rw [h]; rfl
  by_cases hroom : (s.obj.aQueues (aTidToQueueTable tid)).length <
      s.obj.aQueueMaxSize (aTidToQueueTable tid)
  · have hs : (s.insertPacket tid).station = { s.station with
        queue := Function.update s.station.queue (aTidToQueueTable tid)
          (s.station.queue (aTidToQueueTable tid) ++ [s.station.arrived])
        arrived := s.station.arrived + 1 } := by
      refine Station.ext ?_ rfl rfl ?_ rfl
      · simp only [station, insertPacket, enqueue, if_pos hroom]
        rw [Function.comp_update, List.map_append]
        rfl
      · simp [station, insertPacket, toFree, hroom, h]
    rw [hs]
    exact .arrive _
  · have hs : (s.insertPacket tid).station = { s.station with
        gone := s.station.arrived ::ₘ s.station.gone
        arrived := s.station.arrived + 1 } := by
      refine Station.ext ?_ rfl rfl ?_ rfl
      · simp only [station, insertPacket, enqueue, if_neg hroom]
        rw [Function.update_eq_self]
      · simp only [station, insertPacket, toFree, hroom, h, decide_false, if_false, add_zero,
          Bool.false_eq_true]
        rw [← Multiset.singleton_add, add_comm]
    rw [hs]
    exact .reject

theorem station_stopTx {queued bStopNetStack : Bool}
    (h : s.network = .requested p q queued bStopNetStack) :
    (s.stopTx p queued bStopNetStack).station = s.station := by
  refine Station.ext rfl rfl rfl ?_ rfl
  cases queued with
  | true => simp [station, stopTx, toFree, h]
  | false => simp [station, stopTx, toFree, h, ← Multiset.coe_add]

theorem station_iterate (h : s.driver = .loop idle q) :
    (s.iterate idle q).station = s.station ∨ Station.Move s.station (s.iterate idle q).station := by
  have hhand : s.station.hand = none := by rw [station, h]; rfl
  rw [iterate]
  split
  · exact Or.inl (Station.ext rfl hhand.symm rfl rfl rfl)
  · dsimp only
    split
    · exact Or.inl (Station.ext rfl hhand.symm rfl rfl rfl)
    · split
      next hq => exact Or.inl (Station.ext rfl hhand.symm rfl rfl rfl)
      next p rest hq =>
        refine Or.inr ?_
        have hmove : Station.Move s.station { s.station with
            queue := Function.update s.station.queue (q + 1) (rest.map TTxCtrlBlk.num)
            hand := some (q + 1, p.num) } :=
          .take hhand (congrArg (List.map TTxCtrlBlk.num) hq)
        convert hmove using 1
        refine Station.ext ?_ rfl rfl rfl rfl
        exact Function.comp_update ..

theorem station_testStopped (h : s.driver = .empty idle q) :
    (s.testStopped idle q).station = s.station := by
  have hhand : s.station.hand = none := by rw [station, h]; rfl
  rw [testStopped]
  split <;> exact Station.ext rfl hhand.symm rfl rfl rfl

theorem station_xmitData (h : s.driver = .dequeued idle q p)
    (highestAdmittedAc : Fin maxNumOfAc → Fin maxNumOfAc) (eHwQueStatus : ETxHwQueStatus) :
    (s.xmitData idle q p highestAdmittedAc eHwQueStatus).station = s.station ∨
      Station.Move s.station (s.xmitData idle q p highestAdmittedAc eHwQueStatus).station := by
  have hhand : s.station.hand = some (q, p.num) := by rw [station, h]; rfl
  cases eHwQueStatus with
  | success | stopNext => exact Or.inr (.serve hhand)
  | stopCurrent => exact Or.inl (Station.ext rfl hhand.symm rfl rfl rfl)

theorem station_requeue (h : s.driver = .refused idle q p) :
    Station.Move s.station (s.requeue idle q p).station := by
  have hhand : s.station.hand = some (q, p.num) := by rw [station, h]; rfl
  rw [requeue]
  split
  · convert Station.Move.putBack hhand using 1
    refine Station.ext ?_ rfl rfl rfl rfl
    exact Function.comp_update ..
  · convert Station.Move.lose hhand using 1
    refine Station.ext rfl rfl rfl ?_ rfl
    simp only [station, ← Multiset.singleton_add, ← Multiset.coe_add, Multiset.coe_singleton]
    abel

theorem station_enterScheduler (h : s.driver = .outside) :
    s.enterScheduler.station = s.station := by
  have hhand : s.station.hand = none := by rw [station, h]; rfl
  exact Station.ext rfl hhand.symm rfl rfl rfl

theorem station_step {op : Op} (hs : step s op = some s') :
    s'.station = s.station ∨ Station.Move s.station s'.station := by
  cases op with
  | insertPacket tid =>
    obtain ⟨hnet, ⟨⟩⟩ := Option.ite_none_right_eq_some.mp hs
    exact Or.inr (station_insertPacket hnet tid)
  | requestSchedule =>
    rw [step] at hs
    split at hs
    next hnet =>
      cases hs
      refine Or.inl (Station.ext rfl rfl rfl ?_ rfl)
      rw [station, station, hnet]
      rfl
    · cases hs
  | stopTx =>
    rw [step] at hs
    split at hs
    next hnet =>
      cases hs
      exact Or.inl (station_stopTx hnet)
    · cases hs
  | paceExpiry | stopAll =>
    obtain ⟨-, ⟨⟩⟩ := Option.ite_none_right_eq_some.mp hs
    exact Or.inl rfl
  | runScheduler =>
    obtain ⟨⟨-, hout⟩, ⟨⟩⟩ := Option.ite_none_right_eq_some.mp hs
    exact Or.inl (station_enterScheduler (s := { s with scheduled := false }) hout)
  | txSendPaceTimeout =>
    obtain ⟨⟨-, hout⟩, ⟨⟩⟩ := Option.ite_none_right_eq_some.mp hs
    exact Or.inl (station_enterScheduler (s := { s with expired := false }) hout)
  | updateBusyMap uTidBitMap =>
    obtain ⟨hout, ⟨⟩⟩ := Option.ite_none_right_eq_some.mp hs
    exact Or.inl (station_enterScheduler (s := s.updateQueuesBusyState uTidBitMap) hout)
  | wakeAll =>
    obtain ⟨hout, ⟨⟩⟩ := Option.ite_none_right_eq_some.mp hs
    exact Or.inl (station_enterScheduler
      (s := { s with obj := { s.obj with bDataPortEnable := true } }) hout)
  | iterate =>
    rw [step] at hs
    split at hs
    next hdriver =>
      cases hs
      exact station_iterate hdriver
    · cases hs
  | testStopped =>
    rw [step] at hs
    split at hs
    next hdriver =>
      cases hs
      exact Or.inl (station_testStopped hdriver)
    · cases hs
  | resumeTx =>
    rw [step] at hs
    split at hs
    next hdriver =>
      cases hs
      have hhand : s.station.hand = none := by rw [station, hdriver]; rfl
      exact Or.inl (Station.ext rfl hhand.symm rfl rfl rfl)
    · cases hs
  | xmitData highestAdmittedAc eHwQueStatus =>
    rw [step] at hs
    split at hs
    next hdriver =>
      cases hs
      exact station_xmitData hdriver highestAdmittedAc eHwQueStatus
    · cases hs
  | requeue =>
    rw [step] at hs
    split at hs
    next hdriver =>
      cases hs
      exact Or.inr (station_requeue hdriver)
    · cases hs

theorem station_sound (p : TxDataInitParams) {ops : List Op}
    (he : exec step (init p) ops = some s) : s.station.Sound := by
  refine exec_invariant (I := fun s => s.station.Sound) (fun s op s' h hs => ?_) Station.Sound.empty he
  rcases station_step hs with heq | hm
  · rw [heq]
    exact h
  · exact h.move hm

end Sys

end ArchosGpl.Wlan.TxDataQueue
