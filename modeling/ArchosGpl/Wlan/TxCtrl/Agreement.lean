import ArchosGpl.Wlan.TxCtrl.Model
import ArchosGpl.Wlan.TxHwQueue.Backpressure
import ArchosGpl.Wlan.TxDataQueue.Progress

/-!
# Agreement of the backpressure maps

The same fact is kept three times: per category in the HW queues, per category in `txCtrl`, and per
data queue. `Agrees` says that the three are the same: a data queue is busy exactly when the
category that its TIDs use is, and `txCtrl` remembers exactly the busy categories.

Every call keeps this but two. `txDataQ_StopQueue` gets the TIDs of the category that stops and
writes the flags of all queues, so it starts those of the other busy categories; a category that is
refused is not remembered; and a category stopped by a management packet stops no data queue.

**`agrees_iff_stopsAlone`**: in a run the maps agree in every state reached exactly if every step
stops its category alone.
-/

namespace ArchosGpl.Wlan.TxHwQueue

namespace TTxHwQueue

variable {s : TTxHwQueue} {d : TxIfDescriptor}

/-! ## What the HW queues' flags do -/

/-- No other packet of this size fits: the queue is stopped. -/
def Stops (s : TTxHwQueue) (d : TxIfDescriptor) : Prop :=
  s.checkResources (wmeQosTagToACTable d.tid) < 2 * numBlksToAlloc d.length

/-- The packet does not fit. -/
def Refuses (s : TTxHwQueue) (d : TxIfDescriptor) : Prop :=
  s.checkResources (wmeQosTagToACTable d.tid) < numBlksToAlloc d.length

instance : Decidable (s.Stops d) := inferInstanceAs (Decidable (_ < _))

instance : Decidable (s.Refuses d) := inferInstanceAs (Decidable (_ < _))

theorem stopQueue_busy (s : TTxHwQueue) (q : QueueId) (n : ℕ) (r : QueueId) :
    ((s.stopQueue q n).aTxHwQueueInfo r).bQueueBusy = ((s.aTxHwQueueInfo r).bQueueBusy || r = q) := by
  by_cases hr : r = q
  · subst hr
    simp [stopQueue]
  · simp [stopQueue, hr]

theorem allocResources_stops (s : TTxHwQueue) (d : TxIfDescriptor) :
    (∀ r, ((s.allocResources d).2.1.aTxHwQueueInfo r).bQueueBusy =
      ((s.aTxHwQueueInfo r).bQueueBusy || (s.Stops d && r = wmeQosTagToACTable d.tid))) ∧
    (s.allocResources d).1 =
      if s.Refuses d then .stopCurrent else if s.Stops d then .stopNext else .success := by
  rcases s.allocResources_cases d rfl rfl with ⟨hlt, ha, hs⟩ | ⟨hle, hlt, ha, hs⟩ | ⟨hle, ha, hs⟩
  · have hrefuses : s.Refuses d := hlt
    have hstops : s.Stops d := by
      unfold Stops
      omega
    refine ⟨fun r => ?_, by rw [ha, if_pos hrefuses]⟩
    rw [hs, stopQueue_busy]
    simp only [hstops, decide_true, Bool.true_and]
  · have hfits : ¬ s.Refuses d := Nat.not_lt.mpr hle
    have hstops : s.Stops d := hlt
    refine ⟨fun r => ?_, by rw [ha, if_neg hfits, if_pos hstops]⟩
    rw [hs, stopQueue_busy, (s.allocate_flags _ _ r).1]
    simp only [hstops, decide_true, Bool.true_and]
  · have hfits : ¬ s.Refuses d := by
      unfold Refuses
      omega
    have hroom : ¬ s.Stops d := Nat.not_lt.mpr hle
    refine ⟨fun r => ?_, by rw [ha, if_neg hfits, if_neg hroom]⟩
    rw [hs, (s.allocate_flags _ _ r).1]
    simp only [hroom, decide_false, Bool.false_and, Bool.or_false]

theorem allocate_cb (s : TTxHwQueue) (q : QueueId) (n : ℕ) :
    (s.allocate q n).fUpdateBusyMapCb = s.fUpdateBusyMapCb := by
  rw [allocate]
  rfl

theorem stopQueue_cb (s : TTxHwQueue) (q : QueueId) (n : ℕ) :
    (s.stopQueue q n).fUpdateBusyMapCb = s.fUpdateBusyMapCb := by
  simp only [stopQueue, setInfo_fUpdateBusyMapCb]

theorem allocResources_cb (s : TTxHwQueue) (d : TxIfDescriptor) :
    (s.allocResources d).2.1.fUpdateBusyMapCb = s.fUpdateBusyMapCb := by
  rcases s.allocResources_cases d rfl rfl with ⟨-, -, hs⟩ | ⟨-, -, -, hs⟩ | ⟨-, -, hs⟩
  · rw [hs, stopQueue_cb]
  · rw [hs, stopQueue_cb, allocate_cb]
  · rw [hs, allocate_cb]

theorem foldl_restartQueue_cb (qs : List QueueId) (s : TTxHwQueue) :
    (qs.foldl restartQueue s).fUpdateBusyMapCb = s.fUpdateBusyMapCb := by
  induction qs generalizing s with
  | nil => rfl
  | cons q qs ih => exact ih (s.restartQueue q)

theorem restart_cb (s : TTxHwQueue) : s.restart.fUpdateBusyMapCb = s.fUpdateBusyMapCb :=
  foldl_restartQueue_cb _ _

theorem updateFreeResources_log (s : TTxHwQueue) (fw : FwStatus) {m : TTxHwQueue × ℕ}
    (hm : ((s.updateDescriptors fw.txResultsCntr.toNat).freeBlocks fw.txReleasedBlks).startQueues =
      m) :
    (s.updateFreeResources fw).fUpdateBusyMapCb = m.1.fUpdateBusyMapCb ∧
    (s.updateFreeResources fw).busyMaps =
      if m.2 > 0 ∧ m.1.fUpdateBusyMapCb then m.1.busyMaps ++ [m.2] else m.1.busyMaps := by
  subst hm
  simp only [updateFreeResources]
  split
  · exact ⟨rfl, rfl⟩
  · exact ⟨rfl, rfl⟩

theorem startQueues_busy (s : TTxHwQueue) (q : QueueId) :
    (s.startQueues.1.aTxHwQueueInfo q).bQueueBusy =
      ((s.aTxHwQueueInfo q).bQueueBusy && !s.startQueues.2.testBit q.val) := by
  obtain ⟨-, -, hbusy, hbit⟩ := foldl_startQueue_spec (List.finRange 4) (s, 0) q
  rw [startQueues, Bool.eq_iff_iff, hbusy, Bool.and_eq_true, Bool.not_eq_true', ← Bool.not_eq_true,
    hbit, Nat.zero_testBit]
  simp only [Bool.false_eq_true, false_or]

/-- **The callback is told of exactly the queues that are started.** -/
theorem updateFreeResources_starts (fw : FwStatus) (hcb : s.fUpdateBusyMapCb) :
    (s.updateFreeResources fw).fUpdateBusyMapCb ∧ ∃ m : ℕ,
      (∀ q, ((s.updateFreeResources fw).aTxHwQueueInfo q).bQueueBusy =
        ((s.aTxHwQueueInfo q).bQueueBusy && !m.testBit q.val)) ∧
      (s.updateFreeResources fw).busyMaps =
        if m = 0 then s.busyMaps else s.busyMaps ++ [m] := by
  obtain ⟨hinfo, hlog, hreg⟩ := s.updateDescriptors_keeps fw.txResultsCntr.toNat
  obtain ⟨hflags, hlog', hreg'⟩ := foldl_updateFreeBlocks_keeps fw.txReleasedBlks (List.finRange 4)
    (s.updateDescriptors fw.txResultsCntr.toNat)
  obtain ⟨hinfo', -⟩ := s.updateFreeResources_fields fw
  obtain ⟨hcb', hmaps⟩ := s.updateFreeResources_log fw rfl
  generalize hfreed : (s.updateDescriptors fw.txResultsCntr.toNat).freeBlocks fw.txReleasedBlks =
    freed at hinfo' hcb' hmaps
  rw [← freeBlocks, hfreed] at hflags hlog' hreg'
  obtain ⟨hlog'', hreg''⟩ := foldl_startQueue_keeps (List.finRange 4) (freed, 0)
  have hregistered : freed.startQueues.1.fUpdateBusyMapCb = true :=
    hreg''.trans (hreg'.trans (hreg.trans hcb))
  have hkept : freed.startQueues.1.busyMaps = s.busyMaps := hlog''.trans (hlog'.trans hlog)
  refine ⟨hcb'.trans hregistered, freed.startQueues.2, fun q => ?_, ?_⟩
  · rw [hinfo', startQueues_busy, (hflags q).1, hinfo]
  · rw [hmaps, hkept, hregistered]
    rcases Nat.eq_zero_or_pos freed.startQueues.2 with hm | hm
    · rw [hm, if_pos rfl, if_neg (fun h => Nat.lt_irrefl 0 h.1)]
    · rw [if_pos ⟨hm, rfl⟩, if_neg hm.ne']

end TTxHwQueue

end ArchosGpl.Wlan.TxHwQueue

namespace ArchosGpl.Wlan.TxCtrl

open Lib
open TxDataQueue (maxNumOfAc maxNumOf8021dTags aTidToQueueTable)
open TxHwQueue (TTxHwQueue TxIfDescriptor FwStatus HwParams wmeQosTagToACTable)

namespace Sys

variable {s s' : Sys} {idle : ℕ} {q r : Fin maxNumOfAc}

def hwBusy (s : Sys) (ac : Fin maxNumOfAc) : Bool := (s.hwQ.aTxHwQueueInfo ac).bQueueBusy

/-- A data queue is busy exactly when the category that its TIDs use is busy in the HW queues, and
`txCtrl` remembers exactly the busy categories. -/
structure Agrees (s : Sys) : Prop where
  queue : ∀ q, s.dataQ.obj.aQueueBusy q = s.hwBusy (s.ctrl.highestAdmittedAc q)
  category : ∀ ac, s.ctrl.busyAcBitmap ac = s.hwBusy ac

/-- The data packet in hand stops exactly the queues that use its category: no queue uses another
busy category. A refused category is busy already. -/
def DataStopsAlone (s : Sys) (length : UInt16) : TxDataQueue.Driver → Prop
  | .dequeued _ _ p =>
    (s.hwQ.Stops (s.select p.tid length).2 →
      ∀ q, s.ctrl.highestAdmittedAc q ≠ (s.select p.tid length).1 →
        s.hwBusy (s.ctrl.highestAdmittedAc q) = false) ∧
    (s.hwQ.Refuses (s.select p.tid length).2 → s.hwBusy (s.select p.tid length).1 = true)
  | _ => True

/-- A management packet that stops its category finds it busy, or no queue uses it. A refused
category is busy already. -/
def MgmtStopsAlone (s : Sys) (tid : Fin maxNumOf8021dTags) (length : UInt16) : Prop :=
  (s.hwQ.Stops (s.select tid length).2 → s.hwBusy (s.select tid length).1 = true ∨
    ∀ q, s.ctrl.highestAdmittedAc q ≠ (s.select tid length).1) ∧
  (s.hwQ.Refuses (s.select tid length).2 → s.hwBusy (s.select tid length).1 = true)

/-- A packet that stops its category stops exactly the queues that use it. -/
def StopsAlone (s : Sys) : Op → Prop
  | .xmitData length => s.DataStopsAlone length s.dataQ.driver
  | .xmitMgmt tid length => s.MgmtStopsAlone tid length
  | _ => True

instance (s : Sys) (length : UInt16) : (d : TxDataQueue.Driver) →
    Decidable (s.DataStopsAlone length d)
  | .dequeued _ _ _ => inferInstanceAs (Decidable (_ ∧ _))
  | .outside | .loop _ _ | .empty _ _ | .resuming _ _ | .refused _ _ _ => isTrue trivial

instance (s : Sys) : (op : Op) → Decidable (s.StopsAlone op)
  | .xmitData length => inferInstanceAs (Decidable (s.DataStopsAlone length _))
  | .xmitMgmt _ _ => inferInstanceAs (Decidable (_ ∧ _))
  | .dataQ _ | .updateFreeResources _ | .updateQueuesMapping _ _ | .notifyFwReset => isTrue trivial

/-! ## The calls that update all maps -/

theorem updateBackpressure_queue (s : Sys) (m : ℕ) (q : Fin maxNumOfAc) :
    (s.updateBackpressure m).dataQ.obj.aQueueBusy q =
      (s.ctrl.busyAcBitmap (s.ctrl.highestAdmittedAc q) &&
        !m.testBit (s.ctrl.highestAdmittedAc q).val) := by
  have hbit : ∀ (b : Fin maxNumOfAc → Bool) (tid : Fin maxNumOf8021dTags),
      ((List.finRange maxNumOfAc).any fun ac =>
        b ac && TxDataQueue.Sys.admittedAcToTidMap s.ctrl.highestAdmittedAc ac tid) =
      b (s.ctrl.highestAdmittedAc (aTidToQueueTable tid)) := by
    intro b tid
    rw [Bool.eq_iff_iff]
    simp [TxDataQueue.Sys.admittedAcToTidMap, List.mem_finRange]
  simp only [updateBackpressure, TxDataQueue.Sys.enterScheduler, hbit]
  rw [TxDataQueue.Sys.updateQueuesBusyState_busy]
  fin_cases q <;> rfl

/-- **`txCtrl_UpdateBackpressure` restores the agreement** from the remembered categories. -/
theorem agrees_updateBackpressure {m : ℕ}
    (h : ∀ ac, (s.ctrl.busyAcBitmap ac && !m.testBit ac.val) = s.hwBusy ac) :
    Agrees (s.updateBackpressure m) where
  queue q := (s.updateBackpressure_queue m q).trans (h _)
  category ac := h ac

theorem agrees_updateFreeResources (fw : FwStatus) (h : Agrees s)
    (hcb : s.hwQ.fUpdateBusyMapCb) : Agrees (s.updateFreeResources fw) := by
  obtain ⟨-, m, hbusy, hmaps⟩ := TTxHwQueue.updateFreeResources_starts fw hcb
  rw [updateFreeResources, hmaps]
  split
  case isTrue hm =>
    -- nothing is started and the callback is not called
    subst hm
    rw [List.drop_length, List.foldl_nil]
    have hsame : ∀ ac, ((s.hwQ.updateFreeResources fw).aTxHwQueueInfo ac).bQueueBusy =
        s.hwBusy ac := fun ac => by simp [hbusy, hwBusy]
    exact ⟨fun q => (h.queue q).trans (hsame _).symm, fun ac => (h.category ac).trans (hsame ac).symm⟩
  case isFalse hm =>
    rw [List.drop_left, List.foldl_cons, List.foldl_nil]
    refine agrees_updateBackpressure fun ac => ?_
    rw [h.category ac]
    exact (hbusy ac).symm

theorem agrees_notifyFwReset (s : Sys) : Agrees s.notifyFwReset := by
  refine agrees_updateBackpressure fun ac => ?_
  have hidle := s.hwQ.restart_info ac
  rw [hwBusy, hidle]
  rfl

theorem agrees_updateQueuesMapping (h : Agrees s)
    (admissionState admissionRequired : Fin maxNumOfAc → Bool) :
    Agrees (s.updateQueuesMapping admissionState admissionRequired) := by
  refine agrees_updateBackpressure fun ac => ?_
  rw [Nat.zero_testBit, Bool.not_false, Bool.and_true]
  exact h.category ac

/-! ## The packets -/

theorem select_category (s : Sys) (tid : Fin maxNumOf8021dTags) (length : UInt16) :
    wmeQosTagToACTable (s.select tid length).2.tid = (s.select tid length).1 := by
  have hac : ∀ ac : Fin maxNumOfAc, wmeQosTagToACTable (TxDataQueue.wmeQosAcToTid ac) = ac := by
    decide
  simp only [select, TxDataQueue.Sys.selectAcForTid]
  split
  case isTrue => exact hac _
  case isFalse hsame => exact (not_not.mp hsame).symm

theorem select_hwBusy (s : Sys) (tid : Fin maxNumOf8021dTags) (length : UInt16)
    (r : Fin maxNumOfAc) :
    ((s.hwQ.allocResources (s.select tid length).2).2.1.aTxHwQueueInfo r).bQueueBusy =
      (s.hwBusy r || (s.hwQ.Stops (s.select tid length).2 && r = (s.select tid length).1)) := by
  rw [(s.hwQ.allocResources_stops _).1 r, select_category]
  rfl

theorem setBusyBit_busy (s : Sys) (d : TxIfDescriptor) (ac r : Fin maxNumOfAc) :
    (setBusyBit s.ctrl ac (s.hwQ.allocResources d).1).busyAcBitmap r =
      (s.ctrl.busyAcBitmap r || (s.hwQ.Stops d && !s.hwQ.Refuses d && r = ac)) := by
  rw [(s.hwQ.allocResources_stops d).2]
  by_cases hrefuses : s.hwQ.Refuses d
  · simp [setBusyBit, hrefuses]
  · by_cases hstops : s.hwQ.Stops d
    · by_cases hr : r = ac
      · simp [setBusyBit, hrefuses, hstops, hr]
      · simp [setBusyBit, hrefuses, hstops, hr]
    · simp [setBusyBit, hrefuses, hstops]

theorem setBusyBit_highestAdmittedAc (ctrl : TTxCtrl) (ac : Fin maxNumOfAc)
    (eHwQueStatus : TxHwQueue.ETxHwQueStatus) :
    (setBusyBit ctrl ac eHwQueStatus).highestAdmittedAc = ctrl.highestAdmittedAc := by
  cases eHwQueStatus <;> rfl

theorem refuses_stops {hwQ : TTxHwQueue} {d : TxIfDescriptor} (h : hwQ.Refuses d) : hwQ.Stops d := by
  unfold TTxHwQueue.Refuses at h
  unfold TTxHwQueue.Stops
  omega

theorem xmitData_queue (s : Sys) (idle : ℕ) (q : Fin maxNumOfAc) (p : TxDataQueue.TTxCtrlBlk)
    (length : UInt16) (r : Fin maxNumOfAc) :
    (s.xmitData idle q p length).dataQ.obj.aQueueBusy r =
      if s.hwQ.Stops (s.select p.tid length).2 then
        decide (s.ctrl.highestAdmittedAc r = (s.select p.tid length).1)
      else s.dataQ.obj.aQueueBusy r := by
  have hstop := TxDataQueue.Sys.updateQueuesBusyState_admitted s.dataQ s.ctrl.highestAdmittedAc p.tid
  simp only [xmitData, (s.hwQ.allocResources_stops _).2]
  by_cases hrefuses : s.hwQ.Refuses (s.select p.tid length).2
  · rw [if_pos hrefuses, if_pos (refuses_stops hrefuses)]
    exact congrFun hstop r
  · by_cases hstops : s.hwQ.Stops (s.select p.tid length).2
    · rw [if_neg hrefuses, if_pos hstops, if_pos hstops]
      exact congrFun hstop r
    · rw [if_neg hrefuses, if_neg hstops, if_neg hstops]
      rfl

theorem category_iff (h : Agrees s) (tid : Fin maxNumOf8021dTags) (length : UInt16) :
    (∀ r, (setBusyBit s.ctrl (s.select tid length).1
        (s.hwQ.allocResources (s.select tid length).2).1).busyAcBitmap r =
      ((s.hwQ.allocResources (s.select tid length).2).2.1.aTxHwQueueInfo r).bQueueBusy) ↔
    (s.hwQ.Refuses (s.select tid length).2 → s.hwBusy (s.select tid length).1 = true) := by
  simp only [setBusyBit_busy, select_hwBusy, h.category]
  constructor
  · intro hall hrefuses
    have hown := hall (s.select tid length).1
    simpa [hrefuses, refuses_stops hrefuses] using hown
  · intro hbusy r
    by_cases hrefuses : s.hwQ.Refuses (s.select tid length).2
    · by_cases hr : r = (s.select tid length).1
      · simp [hr, hbusy hrefuses]
      · simp [hr]
    · simp [hrefuses]

/-- **A data packet keeps the agreement exactly if it stops its category alone.** -/
theorem agrees_xmitData (h : Agrees s) {p : TxDataQueue.TTxCtrlBlk} {length : UInt16}
    (hdriver : s.dataQ.driver = .dequeued idle q p) :
    Agrees (s.xmitData idle q p length) ↔ StopsAlone s (.xmitData length) := by
  have hcat := category_iff h p.tid length
  simp only [StopsAlone, DataStopsAlone, hdriver]
  rw [← hcat]
  have hqueue := s.xmitData_queue idle q p length
  have hbusy := s.select_hwBusy p.tid length
  have hadm : (s.xmitData idle q p length).ctrl.highestAdmittedAc = s.ctrl.highestAdmittedAc :=
    setBusyBit_highestAdmittedAc ..
  constructor
  · intro h'
    refine ⟨fun hstops r hr => ?_, h'.category⟩
    have hr' := h'.queue r
    rw [hqueue, if_pos hstops, hadm] at hr'
    have := hr'.trans (hbusy _)
    simpa [hstops, hr] using this
  · rintro ⟨hothers, hcategory⟩
    refine ⟨fun r => ?_, hcategory⟩
    rw [hqueue, hadm]
    refine Eq.trans ?_ (hbusy _).symm
    by_cases hstops : s.hwQ.Stops (s.select p.tid length).2
    · rw [if_pos hstops]
      by_cases hr : s.ctrl.highestAdmittedAc r = (s.select p.tid length).1
      · simp [hr, hstops]
      · simp [hr, hothers hstops r hr]
    · rw [if_neg hstops, h.queue r]
      simp [hstops]

/-- **A management packet keeps the agreement exactly if it stops its category alone.** -/
theorem agrees_xmitMgmt (h : Agrees s) (tid : Fin maxNumOf8021dTags) (length : UInt16) :
    Agrees (s.xmitMgmt tid length) ↔ StopsAlone s (.xmitMgmt tid length) := by
  have hcat := category_iff h tid length
  simp only [StopsAlone, MgmtStopsAlone]
  rw [← hcat]
  have hbusy := s.select_hwBusy tid length
  have hadm : (s.xmitMgmt tid length).ctrl.highestAdmittedAc = s.ctrl.highestAdmittedAc :=
    setBusyBit_highestAdmittedAc ..
  constructor
  · intro h'
    refine ⟨fun hstops => ?_, h'.category⟩
    by_contra! hno
    obtain ⟨hidle, r, hr⟩ := hno
    have hr' := h'.queue r
    rw [hadm, hr] at hr'
    have hown : s.hwBusy (s.select tid length).1 = true := by
      simpa [hr, hstops] using (h.queue r).symm.trans (hr'.trans (hbusy _))
    exact hidle hown
  · rintro ⟨hown, hcategory⟩
    refine ⟨fun r => ?_, hcategory⟩
    rw [hadm]
    refine (h.queue r).trans (Eq.trans ?_ (hbusy _).symm)
    by_cases hstops : s.hwQ.Stops (s.select tid length).2
    · rcases hown hstops with hown | hnone
      · by_cases hr : s.ctrl.highestAdmittedAc r = (s.select tid length).1
        · simp [hr, hown]
        · simp [hr]
      · simp [hnone r]
    · simp [hstops]

/-! ## Runs -/

section isInner

variable {t t' : TxDataQueue.Sys}

theorem iterate_busy (t : TxDataQueue.Sys) (idle : ℕ) (q : Fin maxNumOfAc) :
    (t.iterate idle q).obj.aQueueBusy = t.obj.aQueueBusy := by
  unfold TxDataQueue.Sys.iterate
  split
  · rfl
  · simp only []
    split
    · rfl
    · split <;> rfl

theorem testStopped_busy (t : TxDataQueue.Sys) (idle : ℕ) (q : Fin maxNumOfAc) :
    (t.testStopped idle q).obj.aQueueBusy = t.obj.aQueueBusy := by
  unfold TxDataQueue.Sys.testStopped
  split
  · rfl
  · rfl

theorem requeue_busy (t : TxDataQueue.Sys) (idle : ℕ) (q : Fin maxNumOfAc)
    (p : TxDataQueue.TTxCtrlBlk) : (t.requeue idle q p).obj.aQueueBusy = t.obj.aQueueBusy := by
  unfold TxDataQueue.Sys.requeue
  split
  · rfl
  · rfl

theorem isInner_busy {op : TxDataQueue.Sys.Op} (hop : isInner op = true)
    (ht : t.step op = some t') : t'.obj.aQueueBusy = t.obj.aQueueBusy := by
  cases op with
  | xmitData highestAdmittedAc eHwQueStatus => exact absurd hop Bool.false_ne_true
  | updateBusyMap uTidBitMap => exact absurd hop Bool.false_ne_true
  | insertPacket tid | paceExpiry | runScheduler | txSendPaceTimeout | stopAll | wakeAll =>
    obtain ⟨-, ⟨⟩⟩ := Option.ite_none_right_eq_some.mp ht
    rfl
  | requestSchedule | stopTx | resumeTx =>
    simp only [TxDataQueue.Sys.step] at ht
    split at ht
    · cases ht
      rfl
    · cases ht
  | iterate =>
    simp only [TxDataQueue.Sys.step] at ht
    split at ht
    · cases ht
      exact iterate_busy ..
    · cases ht
  | testStopped =>
    simp only [TxDataQueue.Sys.step] at ht
    split at ht
    · cases ht
      exact testStopped_busy ..
    · cases ht
  | requeue =>
    simp only [TxDataQueue.Sys.step] at ht
    split at ht
    · cases ht
      exact requeue_busy ..
    · cases ht

end isInner

/-- **One step keeps the agreement exactly if it stops its category alone.** -/
theorem agrees_step {op : Op} (hcb : s.hwQ.fUpdateBusyMapCb = true) (h : Agrees s)
    (hs : step s op = some s') : Agrees s' ↔ StopsAlone s op := by
  cases op with
  | dataQ op =>
    simp only [step, Option.ite_none_right_eq_some] at hs
    obtain ⟨hop, hs⟩ := hs
    obtain ⟨dataQ, hq, rfl⟩ := Option.map_eq_some_iff.mp hs
    have hbusy := isInner_busy hop hq
    refine ⟨fun _ => trivial, fun _ => ⟨fun q => ?_, h.category⟩⟩
    exact (congrFun hbusy q).trans (h.queue q)
  | xmitData length =>
    simp only [step] at hs
    split at hs
    case h_1 idle q p hdriver =>
      cases hs
      exact agrees_xmitData h hdriver
    case h_2 => cases hs
  | xmitMgmt tid length =>
    obtain ⟨-, ⟨⟩⟩ := Option.ite_none_right_eq_some.mp hs
    exact agrees_xmitMgmt h tid length
  | updateFreeResources fw =>
    obtain ⟨-, ⟨⟩⟩ := Option.ite_none_right_eq_some.mp hs
    exact ⟨fun _ => trivial, fun _ => agrees_updateFreeResources fw h hcb⟩
  | updateQueuesMapping admissionState admissionRequired =>
    obtain ⟨-, ⟨⟩⟩ := Option.ite_none_right_eq_some.mp hs
    exact ⟨fun _ => trivial,
      fun _ => agrees_updateQueuesMapping h admissionState admissionRequired⟩
  | notifyFwReset =>
    obtain ⟨-, ⟨⟩⟩ := Option.ite_none_right_eq_some.mp hs
    exact ⟨fun _ => trivial, fun _ => agrees_notifyFwReset s⟩

theorem foldl_updateBackpressure_hwQ (ms : List ℕ) (s : Sys) :
    (ms.foldl updateBackpressure s).hwQ = s.hwQ := by
  induction ms generalizing s with
  | nil => rfl
  | cons m ms ih => exact ih (s.updateBackpressure m)

theorem step_cb {op : Op} (hcb : s.hwQ.fUpdateBusyMapCb = true) (hs : step s op = some s') :
    s'.hwQ.fUpdateBusyMapCb = true := by
  cases op with
  | dataQ op =>
    simp only [step, Option.ite_none_right_eq_some] at hs
    obtain ⟨-, hs⟩ := hs
    obtain ⟨dataQ, -, rfl⟩ := Option.map_eq_some_iff.mp hs
    exact hcb
  | xmitData length =>
    simp only [step] at hs
    split at hs
    case h_1 idle q p hdriver =>
      cases hs
      exact (TTxHwQueue.allocResources_cb _ _).trans hcb
    case h_2 => cases hs
  | xmitMgmt tid length =>
    obtain ⟨-, ⟨⟩⟩ := Option.ite_none_right_eq_some.mp hs
    exact (TTxHwQueue.allocResources_cb _ _).trans hcb
  | updateFreeResources fw =>
    obtain ⟨-, ⟨⟩⟩ := Option.ite_none_right_eq_some.mp hs
    rw [updateFreeResources, foldl_updateBackpressure_hwQ]
    exact (TTxHwQueue.updateFreeResources_starts fw hcb).1
  | updateQueuesMapping admissionState admissionRequired =>
    obtain ⟨-, ⟨⟩⟩ := Option.ite_none_right_eq_some.mp hs
    exact hcb
  | notifyFwReset =>
    obtain ⟨-, ⟨⟩⟩ := Option.ite_none_right_eq_some.mp hs
    exact s.hwQ.restart_cb.trans hcb

theorem agrees_start (p : TxDataQueue.TxDataInitParams) (params : HwParams) :
    Agrees (start p params) := by
  have hidle : ∀ ac, false = (start p params).hwBusy ac := by
    intro ac
    exact (congrArg TxHwQueue.TTxHwQueueInfo.bQueueBusy (TTxHwQueue.restart_info _ ac)).symm
  exact ⟨fun q => hidle _, hidle⟩

/-- **The maps agree in every state of a run exactly if every step stops its category alone.** -/
theorem agrees_iff_stopsAlone (p : TxDataQueue.TxDataInitParams) (params : HwParams) {ops : List Op}
    (he : exec step (start p params) ops = some s) :
    (∀ pre t, pre <+: ops → exec step (start p params) pre = some t → Agrees t) ↔
      Along step StopsAlone (start p params) ops :=
  along_iff_prefixes (J := fun s => s.hwQ.fUpdateBusyMapCb = true)
    (fun _ _ _ hcb hs => step_cb hcb hs) (fun _ _ _ hcb h hs => agrees_step hcb h hs) rfl
    (agrees_start p params) he

def tenBlocks : HwParams := ⟨fun _ => 0, 11⟩

/-- A video packet and a best-effort packet are queued, and the scheduler takes the first. -/
def takeVideo : List TxDataQueue.Sys.Op :=
  TxDataQueue.Sys.insertOps 4 ++ TxDataQueue.Sys.insertOps 0 ++ [.wakeAll] ++
    TxDataQueue.Sys.emptyOps ++ [.iterate]

/-- The scheduler takes the second. -/
def takeBestEffort : List TxDataQueue.Sys.Op := TxDataQueue.Sys.emptyOps ++ [.iterate]

/-- The video packet stops its category. -/
def videoOps : List Op := takeVideo.map .dataQ ++ [.xmitData 768]

/-- The best-effort packet stops its category. -/
def bestEffortOps : List Op := takeBestEffort.map .dataQ ++ [.xmitData 100]

theorem agrees_iff_stopsAlone_video : ∃ s,
    exec step (start TxDataQueue.Sys.atOnce tenBlocks) videoOps = some s ∧ s.hwBusy 2 = true ∧
      Agrees s := by
  have hrun : (exec step (start TxDataQueue.Sys.atOnce tenBlocks) videoOps).map
      (fun s => s.hwBusy 2) = some true := by
    decide +kernel
  obtain ⟨s, hs, hbusy⟩ := Option.map_eq_some_iff.mp hrun
  have halone : Along step StopsAlone (start TxDataQueue.Sys.atOnce tenBlocks) videoOps := by
    decide +kernel
  exact ⟨s, hs, hbusy, (agrees_iff_stopsAlone _ _ hs).mpr halone videoOps s List.prefix_rfl hs⟩

/-- When the best-effort packet stops its category, the video queue is no longer busy. -/
theorem best_effort_starts_video : ∃ s,
    exec step (start TxDataQueue.Sys.atOnce tenBlocks) (videoOps ++ bestEffortOps) = some s ∧
      ¬ Agrees s := by
  have hrun : (exec step (start TxDataQueue.Sys.atOnce tenBlocks) (videoOps ++ bestEffortOps)).map
      (fun s => (s.dataQ.obj.aQueueBusy 2, s.hwBusy (s.ctrl.highestAdmittedAc 2))) =
        some (false, true) := by
    decide +kernel
  obtain ⟨s, hs, hfields⟩ := Option.map_eq_some_iff.mp hrun
  obtain ⟨hqueue, hhw⟩ := Prod.mk.inj hfields
  refine ⟨s, hs, fun h => ?_⟩
  rw [h.queue 2, hhw] at hqueue
  exact Bool.noConfusion hqueue

end Sys

end ArchosGpl.Wlan.TxCtrl
