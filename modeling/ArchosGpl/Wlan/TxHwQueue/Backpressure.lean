import ArchosGpl.Wlan.TxHwQueue.Accounting

/-!
# Backpressure: no lost wake-up

A queue is stopped when a packet, or the next packet of its size, does not fit. It is started by
the firmware event that makes its demand fit: `startQueues` clears `bQueueBusy` and sets the
queue's bit in the map for the update-busy-map callback.

**`no_lost_wakeup`**: along every run a stopped queue needs more blocks than are available to it,
and an event after which its demand fits starts it, whichever queue's blocks were freed. The first
half rests on the block accounting: one queue's allocation never raises what another has available.
-/

namespace ArchosGpl.Wlan.TxHwQueue

open Lib

namespace TTxHwQueue

variable {s s' : TTxHwQueue} {p : Pool QueueId} {q : QueueId} {n : ℕ}

/-- Every stopped queue needs more than it has available. -/
def BusyBlocked (s : TTxHwQueue) : Prop :=
  ∀ q, (s.aTxHwQueueInfo q).bQueueBusy →
    s.checkResources q < (s.aTxHwQueueInfo q).uNumBlksCausedBusy

/-! ## Stopping -/

theorem checkResources_setBusy (s : TTxHwQueue) (q : QueueId) (n : ℕ) (b : Bool) (r : QueueId) :
    (s.setInfo q { s.aTxHwQueueInfo q with uNumBlksCausedBusy := n, bQueueBusy := b }).checkResources
      r = s.checkResources r := by
  by_cases hr : r = q
  · subst hr
    simp [checkResources]
  · simp [checkResources, hr]

theorem BusyBlocked.stopQueue (h : BusyBlocked s) (hn : s.checkResources q < n) :
    BusyBlocked (s.stopQueue q n) := by
  intro r hbusy
  unfold TTxHwQueue.stopQueue at *
  rw [checkResources_setBusy]
  by_cases hr : r = q
  · subst hr
    simpa using hn
  · simp only [setInfo_aTxHwQueueInfo, Function.update_of_ne hr] at hbusy ⊢
    exact h r hbusy

/-! ## Allocation -/

theorem numBlksToAlloc_pos (length : UInt16) : 0 < numBlksToAlloc length := by
  unfold numBlksToAlloc
  exact Nat.succ_pos _

theorem descriptor_of_fits (hn : 0 < n) (hfit : n ≤ s.checkResources q) :
    s.uNumUsedDescriptors < numTxDescriptors := by
  by_contra hdesc
  have : s.checkResources q = 0 := by simp only [checkResources, hdesc, if_false]
  omega

theorem checkResources_allocate_le (h : Accounted s p) (hn : 0 < n)
    (hfit : n ≤ s.checkResources q) (r : QueueId) :
    (s.allocate q n).checkResources r ≤ s.checkResources r := by
  have hav := hfit.trans (h.checkResources_le q)
  have hdesc := descriptor_of_fits hn hfit
  have hle := p.take_available_le q n hav r
  rw [(h.allocate hav).checkResources_eq, h.checkResources_eq, if_pos hdesc]
  split
  · exact hle
  · exact Nat.zero_le _

theorem checkResources_allocate_self_le (h : Accounted s p) (hn : 0 < n)
    (hfit : n ≤ s.checkResources q) :
    (s.allocate q n).checkResources q ≤ s.checkResources q - n := by
  have hav := hfit.trans (h.checkResources_le q)
  have hdesc := descriptor_of_fits hn hfit
  rw [(h.allocate hav).checkResources_eq, h.checkResources_eq, if_pos hdesc]
  split
  · exact (p.take_available_self q n hav).le
  · exact Nat.zero_le _

theorem allocate_flags (s : TTxHwQueue) (q : QueueId) (n : ℕ) (r : QueueId) :
    ((s.allocate q n).aTxHwQueueInfo r).bQueueBusy = (s.aTxHwQueueInfo r).bQueueBusy ∧
    ((s.allocate q n).aTxHwQueueInfo r).uNumBlksCausedBusy =
      (s.aTxHwQueueInfo r).uNumBlksCausedBusy := by
  by_cases hr : r = q
  · subst hr
    simp [allocate]
  · simp [allocate, hr]

theorem BusyBlocked.allocate (hb : BusyBlocked s) (h : Accounted s p) (hn : 0 < n)
    (hfit : n ≤ s.checkResources q) : BusyBlocked (s.allocate q n) := by
  intro r hbusy
  obtain ⟨hflag, hcaused⟩ := s.allocate_flags q n r
  rw [hflag] at hbusy
  rw [hcaused]
  exact Nat.lt_of_le_of_lt (checkResources_allocate_le h hn hfit r) (hb r hbusy)

theorem BusyBlocked.allocResources (hb : BusyBlocked s) (h : Accounted s p) (d : TxIfDescriptor) :
    BusyBlocked (s.allocResources d).2.1 := by
  have hn := numBlksToAlloc_pos d.length
  rcases s.allocResources_cases d rfl rfl with ⟨hlt, -, heq⟩ | ⟨hle, hlt, -, heq⟩ | ⟨hle, -, heq⟩
  · exact heq ▸ hb.stopQueue hlt
  · have hself := checkResources_allocate_self_le h hn hle
    exact heq ▸ (hb.allocate h hn hle).stopQueue (by omega)
  · exact heq ▸ hb.allocate h hn (by omega)

/-! ## Starting -/

/-- A stopped queue whose demand fits. -/
def Startable (s : TTxHwQueue) (q : QueueId) : Prop :=
  (s.aTxHwQueueInfo q).bQueueBusy ∧ (s.aTxHwQueueInfo q).uNumBlksCausedBusy ≤ s.checkResources q

theorem startQueue_of_startable {m : TTxHwQueue × ℕ} (h : m.1.Startable q) : startQueue m q =
    (m.1.setInfo q { m.1.aTxHwQueueInfo q with bQueueBusy := false }, m.2 ||| (1 <<< q.val)) :=
  if_pos h

theorem startQueue_of_not {m : TTxHwQueue × ℕ} (h : ¬ m.1.Startable q) : startQueue m q = m :=
  if_neg h

theorem startQueue_spec (m : TTxHwQueue × ℕ) (q r : QueueId) :
    (startQueue m q).1.checkResources r = m.1.checkResources r ∧
    ((startQueue m q).1.aTxHwQueueInfo r).uNumBlksCausedBusy =
      (m.1.aTxHwQueueInfo r).uNumBlksCausedBusy ∧
    (((startQueue m q).1.aTxHwQueueInfo r).bQueueBusy ↔
      (m.1.aTxHwQueueInfo r).bQueueBusy ∧ ¬ (r = q ∧ m.1.Startable q)) ∧
    ((startQueue m q).2.testBit r.val ↔ m.2.testBit r.val ∨ (r = q ∧ m.1.Startable q)) := by
  by_cases hst : m.1.Startable q
  · rw [startQueue_of_startable hst]
    refine ⟨checkResources_setBusy m.1 q (m.1.aTxHwQueueInfo q).uNumBlksCausedBusy false r, ?_⟩
    by_cases hr : r = q
    · subst hr
      simp [hst, Nat.one_shiftLeft]
    · have hval : ¬ q.val = r.val := fun h => hr (Fin.ext h.symm)
      simp [hr, Nat.one_shiftLeft, hval]
  · simp [startQueue_of_not hst, hst]

theorem startable_startQueue (m : TTxHwQueue × ℕ) (q r : QueueId) :
    (startQueue m q).1.Startable r ↔ m.1.Startable r ∧ r ≠ q := by
  obtain ⟨hav, hcaused, hbusy, -⟩ := startQueue_spec m q r
  unfold Startable at hbusy ⊢
  rw [hav, hcaused, hbusy]
  constructor
  · rintro ⟨⟨hb, hno⟩, hle⟩
    refine ⟨⟨hb, hle⟩, fun hr => hno ⟨hr, ?_⟩⟩
    exact hr ▸ ⟨hb, hle⟩
  · rintro ⟨⟨hb, hle⟩, hr⟩
    exact ⟨⟨hb, fun h => hr h.1⟩, hle⟩

theorem foldl_startQueue_spec (qs : List QueueId) (m : TTxHwQueue × ℕ) (r : QueueId) :
    (qs.foldl startQueue m).1.checkResources r = m.1.checkResources r ∧
    ((qs.foldl startQueue m).1.aTxHwQueueInfo r).uNumBlksCausedBusy =
      (m.1.aTxHwQueueInfo r).uNumBlksCausedBusy ∧
    (((qs.foldl startQueue m).1.aTxHwQueueInfo r).bQueueBusy ↔
      (m.1.aTxHwQueueInfo r).bQueueBusy ∧ ¬ (r ∈ qs ∧ m.1.Startable r)) ∧
    ((qs.foldl startQueue m).2.testBit r.val ↔ m.2.testBit r.val ∨ (r ∈ qs ∧ m.1.Startable r)) := by
  induction qs generalizing m with
  | nil => simp
  | cons q qs ih =>
    obtain ⟨hav, hcaused, hbusy, hbit⟩ := startQueue_spec m q r
    obtain ⟨hav', hcaused', hbusy', hbit'⟩ := ih (startQueue m q)
    have hst := startable_startQueue m q r
    rw [List.foldl_cons]
    refine ⟨hav'.trans hav, hcaused'.trans hcaused, ?_, ?_⟩
    · rw [hbusy', hbusy, hst, List.mem_cons]
      by_cases hr : r = q
      · subst hr
        simp
      · simp [hr]
    · rw [hbit', hbit, hst, List.mem_cons]
      by_cases hr : r = q
      · subst hr
        simp
      · simp [hr]

theorem busyBlocked_startQueues (s : TTxHwQueue) : BusyBlocked s.startQueues.1 := by
  intro q hbusy
  obtain ⟨hav, hcaused, hiff, -⟩ := foldl_startQueue_spec (List.finRange 4) (s, 0) q
  unfold startQueues at *
  obtain ⟨hb, hno⟩ := hiff.mp hbusy
  rw [hav, hcaused]
  by_contra hle
  exact hno ⟨List.mem_finRange q, hb, Nat.le_of_not_lt hle⟩

/-! ## The firmware event -/

theorem updateFreeResources_fields (s : TTxHwQueue) (fw : FwStatus) :
    (s.updateFreeResources fw).aTxHwQueueInfo =
      ((s.updateDescriptors fw.txResultsCntr.toNat).freeBlocks
        fw.txReleasedBlks).startQueues.1.aTxHwQueueInfo ∧
    ∀ q, (s.updateFreeResources fw).checkResources q =
      ((s.updateDescriptors fw.txResultsCntr.toNat).freeBlocks
        fw.txReleasedBlks).startQueues.1.checkResources q := by
  simp only [updateFreeResources]
  split
  · exact ⟨rfl, fun q => rfl⟩
  · exact ⟨rfl, fun q => rfl⟩

theorem busyBlocked_updateFreeResources (s : TTxHwQueue) (fw : FwStatus) :
    BusyBlocked (s.updateFreeResources fw) := by
  intro q hbusy
  obtain ⟨hinfo, hav⟩ := s.updateFreeResources_fields fw
  rw [hinfo] at hbusy ⊢
  rw [hav]
  exact busyBlocked_startQueues _ q hbusy

theorem foldl_updateFreeBlocks_keeps (c : QueueId → UInt32) (qs : List QueueId) (s : TTxHwQueue) :
    let t := qs.foldl (fun s q => s.updateFreeBlocks q (c q).toNat) s
    (∀ r, (t.aTxHwQueueInfo r).bQueueBusy = (s.aTxHwQueueInfo r).bQueueBusy ∧
      (t.aTxHwQueueInfo r).uNumBlksCausedBusy = (s.aTxHwQueueInfo r).uNumBlksCausedBusy) ∧
    t.busyMaps = s.busyMaps ∧ t.fUpdateBusyMapCb = s.fUpdateBusyMapCb := by
  induction qs generalizing s with
  | nil => simp
  | cons q qs ih =>
    obtain ⟨i, free, reserved, hs, hbusy, hcaused⟩ := s.updateFreeBlocks_writes q (c q).toNat
    have hq := ih (s.updateFreeBlocks q (c q).toNat)
    rw [hs] at hq
    obtain ⟨hflags, hlog, hcb⟩ := hq
    rw [List.foldl_cons, hs]
    refine ⟨fun r => ?_, hlog, hcb⟩
    rw [(hflags r).1, (hflags r).2]
    by_cases hr : r = q
    · subst hr
      simp [hbusy, hcaused]
    · simp [hr]

theorem foldl_startQueue_keeps (qs : List QueueId) (m : TTxHwQueue × ℕ) :
    (qs.foldl startQueue m).1.busyMaps = m.1.busyMaps ∧
    (qs.foldl startQueue m).1.fUpdateBusyMapCb = m.1.fUpdateBusyMapCb := by
  induction qs generalizing m with
  | nil => simp
  | cons q qs ih =>
    obtain ⟨b, hb⟩ := startQueue_keeps m q
    obtain ⟨hlog, hcb⟩ := ih (startQueue m q)
    rw [hb] at hlog hcb
    exact ⟨hlog, hcb⟩

/-- **The event that makes a stopped queue's demand fit starts it** and passes its bit to the
callback. -/
theorem updateFreeResources_wakes (fw : FwStatus) (hbusy : (s.aTxHwQueueInfo q).bQueueBusy)
    (hfit : (s.aTxHwQueueInfo q).uNumBlksCausedBusy ≤ (s.updateFreeResources fw).checkResources q)
    (hcb : s.fUpdateBusyMapCb) :
    ∃ uBackpressure, (s.updateFreeResources fw).busyMaps = s.busyMaps ++ [uBackpressure] ∧
      uBackpressure.testBit q.val ∧
      ((s.updateFreeResources fw).aTxHwQueueInfo q).bQueueBusy = false := by
  have hdesc := s.updateDescriptors_keeps fw.txResultsCntr.toNat
  obtain ⟨hflags, hlog, hreg⟩ := foldl_updateFreeBlocks_keeps fw.txReleasedBlks (List.finRange 4)
    (s.updateDescriptors fw.txResultsCntr.toNat)
  obtain ⟨hinfo, hav⟩ := s.updateFreeResources_fields fw
  generalize hfreed : (s.updateDescriptors fw.txResultsCntr.toNat).freeBlocks fw.txReleasedBlks =
    freed at hinfo hav
  rw [← freeBlocks, hfreed] at hflags hlog hreg
  obtain ⟨hav', -, hb, hbit⟩ := foldl_startQueue_spec (List.finRange 4) (freed, 0) q
  obtain ⟨hlog', hreg'⟩ := foldl_startQueue_keeps (List.finRange 4) (freed, 0)
  rw [← startQueues] at hav' hb hbit hlog' hreg'
  have hst : freed.Startable q := by
    refine ⟨?_, ?_⟩
    · rw [(hflags q).1, hdesc.1]
      exact hbusy
    · rw [(hflags q).2, hdesc.1, ← hav', ← hav]
      exact hfit
  have hset : freed.startQueues.2.testBit q.val := hbit.mpr (.inr ⟨List.mem_finRange q, hst⟩)
  refine ⟨freed.startQueues.2, ?_, hset, ?_⟩
  · have hpos : freed.startQueues.2 > 0 := by
      refine Nat.pos_of_ne_zero fun hzero => ?_
      simp [hzero] at hset
    simp only [updateFreeResources, hfreed, hpos, hreg', hreg, hdesc.2.2, hcb, and_self, if_true,
      hlog', hlog, hdesc.2.1]
  · rw [hinfo]
    cases hc : (freed.startQueues.1.aTxHwQueueInfo q).bQueueBusy
    · rfl
    · exact absurd ⟨List.mem_finRange q, hst⟩ (hb.mp hc).2

/-! ## Runs -/

theorem BusyBlocked.step {op : Op} (hb : BusyBlocked s) (h : Accounted s p)
    (hs : s.step op = some s') : BusyBlocked s' := by
  cases op with
  | allocResources d =>
    cases hs
    exact hb.allocResources h d
  | updateFreeResources fw =>
    cases hs
    exact busyBlocked_updateFreeResources s fw
  | restart =>
    cases hs
    intro q hbusy
    simp [restart_info, TTxHwQueueInfo.restart] at hbusy
  | registerCb =>
    cases hs
    exact hb

/-- **No lost wake-up.** With low thresholds that fit and firmware counters that report only blocks
that were allocated, after every run each stopped queue needs more than it has available, and the
firmware event that makes its demand fit starts it and tells the callback. -/
theorem no_lost_wakeup {params : HwParams} {ops : List Op}
    (hlow : ∑ q, (params.TxBlocksThresholdPerAc q).toNat ≤ sub32 params.NumTxBlocks.toNat 1)
    (hfw : Along step FwReportsUsed (start params) ops)
    (hs : exec step (start params) ops = some s) :
    s.BusyBlocked ∧
    ∀ fw q, (s.aTxHwQueueInfo q).bQueueBusy →
      (s.aTxHwQueueInfo q).uNumBlksCausedBusy ≤ (s.updateFreeResources fw).checkResources q →
      s.fUpdateBusyMapCb →
      ∃ uBackpressure, (s.updateFreeResources fw).busyMaps = s.busyMaps ++ [uBackpressure] ∧
        uBackpressure.testBit q.val ∧
        ((s.updateFreeResources fw).aTxHwQueueInfo q).bQueueBusy = false := by
  refine ⟨?_, fun fw q hbusy hfit hcb => updateFreeResources_wakes fw hbusy hfit hcb⟩
  have hrun : (∃ p : Pool QueueId, Accounted s p) ∧ BusyBlocked s := by
    refine Along.invariant (I := fun s => (∃ p : Pool QueueId, Accounted s p) ∧ BusyBlocked s)
      ?_ ⟨⟨_, start_accounted hlow⟩, ?_⟩ hfw hs
    · rintro s op s' ⟨⟨p, h⟩, hb⟩ hop hstep
      obtain ⟨p', -, -, h'⟩ := h.step hop hstep
      exact ⟨⟨p', h'⟩, hb.step h hstep⟩
    · intro q hbusy
      simp [start, setHwInfo, restart_info, TTxHwQueueInfo.restart] at hbusy
  exact hrun.2

/-- A queue with 20 blocks: the third packet does not fit, until the first is released. -/
def drainedRun : List Op :=
  [.registerCb, .allocResources ⟨1500, 0, 0, 0⟩, .allocResources ⟨600, 0, 0, 0⟩,
    .allocResources ⟨1500, 0, 0, 0⟩]

theorem no_lost_wakeup_drainedRun :
    ∃ s, exec step (start ⟨![0, 0, 0, 0], 21⟩) drainedRun = some s ∧ s.BusyBlocked ∧
      (s.aTxHwQueueInfo 0).bQueueBusy ∧
      ∃ uBackpressure, (s.updateFreeResources ⟨1, ![8, 0, 0, 0]⟩).busyMaps =
        s.busyMaps ++ [uBackpressure] ∧ uBackpressure.testBit 0 := by
  have hfw : Along step FwReportsUsed (start ⟨![0, 0, 0, 0], 21⟩) drainedRun := by decide +kernel
  obtain ⟨hb, hwake⟩ := no_lost_wakeup (by decide +kernel) hfw rfl
  obtain ⟨m, hm, hbit, -⟩ :=
    hwake ⟨1, ![8, 0, 0, 0]⟩ 0 (by decide +kernel) (by decide +kernel) (by decide +kernel)
  exact ⟨_, rfl, hb, by decide +kernel, m, hm, hbit⟩

/-- Without the two assumptions a stopped queue's demand can come to fit with nobody told. -/
theorem overcommitted_queue_not_woken :
    (∃ s, exec step (start ⟨![5, 5, 5, 0], 11⟩)
        [.registerCb, .allocResources ⟨100, 0, 0, 0⟩, .allocResources ⟨100, 0, 0, 6⟩] = some s ∧
      (s.aTxHwQueueInfo 0).bQueueBusy ∧
      ¬ s.checkResources 0 < (s.aTxHwQueueInfo 0).uNumBlksCausedBusy) ∧
    (∃ s, exec step (start ⟨![0, 5, 0, 0], 11⟩)
        [.registerCb, .allocResources ⟨100, 0, 0, 0⟩,
          .updateFreeResources ⟨0, ![0xFFFFFFFB, 0, 0, 0]⟩,
          .allocResources ⟨100, 0, 0, 1⟩, .allocResources ⟨100, 0, 0, 0⟩] = some s ∧
      (s.aTxHwQueueInfo 1).bQueueBusy ∧
      ¬ s.checkResources 1 < (s.aTxHwQueueInfo 1).uNumBlksCausedBusy) :=
  ⟨⟨_, rfl, by decide +kernel, by decide +kernel⟩, ⟨_, rfl, by decide +kernel, by decide +kernel⟩⟩

end TTxHwQueue

end ArchosGpl.Wlan.TxHwQueue
