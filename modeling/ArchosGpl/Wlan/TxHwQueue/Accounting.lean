import ArchosGpl.Lib.Pool
import ArchosGpl.Wlan.TxHwQueue.Model

/-!
# TX block accounting

`TTxHwQueue.Accounted s p`: the counters of the module are those of a pool `p` with guaranteed
shares, and per queue the driver's accumulated allocations are the firmware's accumulated frees plus
what is in use, as 32-bit numbers. Allocation is `Pool.take`, a firmware counter is `Pool.release`.

**`blocks_accounted`**: when the low thresholds fit in the blocks and the firmware reports only
blocks that were allocated, every run keeps the accounting, no subtraction underflows and every
queue can take up to its low threshold.
-/

namespace ArchosGpl.Wlan.TxHwQueue

open Lib

/-! ## The accounting relation -/

/-- The accounting of a queue that is promised `low` blocks and uses `u`. -/
structure TTxHwQueueInfo.Accounted (i : TTxHwQueueInfo) (low u : ℕ) : Prop where
  thresh : i.uNumBlksThresh = low
  used : i.uNumBlksUsed = u
  reserved : i.uNumBlksReserved = low - u
  allocated : i.uAllocatedBlksCntr = add32 i.uFwFreedBlksCntr u
  freed : i.uFwFreedBlksCntr < 2 ^ 32

theorem TTxHwQueueInfo.accounted_restart (i : TTxHwQueueInfo) :
    i.restart.Accounted i.uNumBlksThresh 0 :=
  ⟨rfl, rfl, rfl, (add32_of_lt (a := 0) (b := 0) (by decide)).symm, Nat.two_pow_pos 32⟩

namespace TTxHwQueue

/-- The counters are those of the pool. -/
structure Accounted (s : TTxHwQueue) (p : Pool QueueId) : Prop where
  total : s.uNumTotalBlks = p.total
  bound : p.total < 2 ^ 32
  queue : ∀ q, (s.aTxHwQueueInfo q).Accounted (p.low q) (p.used q)
  totalReserved : s.uNumTotalBlksReserved = p.totalReserved
  free : s.uNumTotalBlksFree = p.free

variable {s s' : TTxHwQueue} {p : Pool QueueId} {q : QueueId} {n : ℕ}

namespace Accounted

theorem reserved (h : Accounted s p) (q : QueueId) :
    (s.aTxHwQueueInfo q).uNumBlksReserved = p.reserved q :=
  (h.queue q).reserved

theorem free_lt (h : Accounted s p) : p.free < 2 ^ 32 := by
  have := h.bound
  have := p.free_add_sum_used
  omega

theorem totalReserved_lt (h : Accounted s p) : p.totalReserved < 2 ^ 32 :=
  Nat.lt_of_le_of_lt p.totalReserved_le_free h.free_lt

theorem used_add_available_lt (h : Accounted s p) (q : QueueId) :
    p.used q + p.available q < 2 ^ 32 :=
  Nat.lt_of_le_of_lt (p.used_add_available_le q) h.bound

theorem checkResources_eq (h : Accounted s p) (q : QueueId) : s.checkResources q =
    if s.uNumUsedDescriptors < numTxDescriptors then p.available q else 0 := by
  have hle := p.reserved_le_totalReserved q
  have hav := p.available_add q
  have hfree := h.free_lt
  unfold checkResources
  rw [h.free, h.totalReserved, h.reserved q, sub32_of_le hle h.totalReserved_lt,
    sub32_of_le (by omega) hfree]
  split
  · omega
  · rfl

theorem checkResources_le (h : Accounted s p) (q : QueueId) :
    s.checkResources q ≤ p.available q := by
  rw [h.checkResources_eq q]
  split
  · exact le_refl _
  · exact Nat.zero_le _

theorem setBusy (h : Accounted s p) (q : QueueId) (n : ℕ) (b : Bool) :
    Accounted (s.setInfo q
      { s.aTxHwQueueInfo q with uNumBlksCausedBusy := n, bQueueBusy := b }) p where
  total := h.total
  bound := h.bound
  queue := by
    have hq := h.queue q
    refine (Function.forall_update_iff _ fun r (i : TTxHwQueueInfo) =>
      i.Accounted (p.low r) (p.used r)).mpr ?_
    exact ⟨⟨hq.thresh, hq.used, hq.reserved, hq.allocated, hq.freed⟩, fun r _ => h.queue r⟩
  totalReserved := h.totalReserved
  free := h.free

end Accounted

/-! ## Allocation -/

theorem takeReserved_eq {r t : ℕ} (hr : r ≤ t) (ht : t < 2 ^ 32) (n : ℕ) :
    takeReserved r t n = (r - n, t - min n r) := by
  unfold takeReserved
  split
  · split
    · rw [sub32_of_le hr ht]
      congr 1 <;> omega
    · rw [sub32_of_le (by omega) (by omega), sub32_of_le (by omega) ht]
      congr 1
      omega
  · congr 1 <;> omega

/-- **An allocation within what is available takes from the pool.** -/
theorem Accounted.allocate (h : Accounted s p) (hn : n ≤ p.available q) :
    Accounted (s.allocate q n) (p.take q n hn) := by
  have hq := h.queue q
  have hlt := h.used_add_available_lt q
  have hfree := p.take_free q n hn
  have hres := p.take_totalReserved q n hn
  have htake := takeReserved_eq (p.reserved_le_totalReserved q) h.totalReserved_lt n
  constructor
  case total => simp only [TTxHwQueue.allocate, setInfo, Pool.take_total, h.total]
  case bound => exact h.bound
  case queue =>
    intro r
    by_cases hr : r = q
    · subst hr
      simp only [TTxHwQueue.allocate, setInfo, Function.update_self, Pool.take_low,
        Pool.take_used, h.totalReserved, h.reserved r, htake]
      refine ⟨hq.thresh, ?_, ?_, ?_, hq.freed⟩
      · rw [hq.used, add32_of_lt (by omega)]
      · simp only [Pool.reserved]
        omega
      · rw [hq.allocated, add32_add32]
    · simpa [TTxHwQueue.allocate, setInfo, hr] using h.queue r
  case totalReserved =>
    simp only [TTxHwQueue.allocate, h.totalReserved, h.reserved q, htake]
    omega
  case free =>
    simp only [TTxHwQueue.allocate, setInfo, h.free]
    rw [sub32_of_le (by omega) h.free_lt]
    omega

/-! ## Freeing -/

/-- The firmware's counter is ahead of its last value by blocks that are in use. -/
def FreesUsed (s : TTxHwQueue) (q : QueueId) (c : ℕ) : Prop :=
  sub32 c (s.aTxHwQueueInfo q).uFwFreedBlksCntr ≤ (s.aTxHwQueueInfo q).uNumBlksUsed

instance (s : TTxHwQueue) (q : QueueId) (c : ℕ) : Decidable (s.FreesUsed q c) :=
  inferInstanceAs (Decidable (_ ≤ _))

theorem Accounted.release {k : ℕ} {i : TTxHwQueueInfo} (h : Accounted s p) (hk : k ≤ p.used q)
    (htot : s'.uNumTotalBlks = s.uNumTotalBlks)
    (hinfo : s'.aTxHwQueueInfo = Function.update s.aTxHwQueueInfo q i)
    (hi : i.Accounted (p.low q) (p.used q - k))
    (hres : s'.uNumTotalBlksReserved + p.reserved q =
      s.uNumTotalBlksReserved + (p.low q - (p.used q - k)))
    (hfree : s'.uNumTotalBlksFree = s.uNumTotalBlksFree + k) :
    Accounted s' (p.release q k hk) := by
  constructor
  case total => rw [htot, h.total, Pool.release_total]
  case bound => exact h.bound
  case queue =>
    intro r
    rw [hinfo, Pool.release_low, Pool.release_used]
    by_cases hr : r = q
    · subst hr
      simpa using hi
    · simpa [hr] using h.queue r
  case totalReserved =>
    have := p.release_totalReserved q k hk
    have := h.totalReserved
    omega
  case free => rw [hfree, h.free, Pool.release_free]

/-- **A firmware counter that reports blocks in use releases them.** -/
theorem Accounted.updateFreeBlocks {c : ℕ} (h : Accounted s p) (hc : c < 2 ^ 32)
    (hk : s.FreesUsed q c) : ∃ k hk, Accounted (s.updateFreeBlocks q c) (p.release q k hk) := by
  have hq := h.queue q
  unfold FreesUsed at hk
  rw [hq.used] at hk
  refine ⟨sub32 c (s.aTxHwQueueInfo q).uFwFreedBlksCntr, hk, ?_⟩
  have hlt := h.used_add_available_lt q
  have hnew := sub32_add32 hq.freed hc (by omega) hk
  have halloc := add32_sub32 hq.freed hc hk
  rw [← hq.allocated] at hnew halloc
  have hback := sub32_sub_self hk (by omega)
  by_cases hne : c = (s.aTxHwQueueInfo q).uFwFreedBlksCntr
  · have hzero : sub32 c (s.aTxHwQueueInfo q).uFwFreedBlksCntr = 0 := by rw [hne, sub32_self]
    have hsame : s.updateFreeBlocks q c = s := by simp [TTxHwQueue.updateFreeBlocks, hne]
    rw [hsame]
    simpa [hzero] using h
  · generalize sub32 c (s.aTxHwQueueInfo q).uFwFreedBlksCntr = k at *
    -- the reservation grows by what is freed below the threshold, and stays within the pool
    have hrel := (p.release q k hk).totalReserved_le_free
    have htot := p.release_totalReserved q k hk
    have hfree := p.release_free q k hk
    have hle := (p.release q k hk).free_add_sum_used
    have hbound := h.bound
    have hr : p.reserved q = p.low q - p.used q := rfl
    rw [Pool.release_total] at hle
    simp only [TTxHwQueue.updateFreeBlocks, hne, if_false, hnew, hq.used, hback, hq.thresh]
    refine h.release hk rfl rfl ⟨rfl, rfl, ?_, halloc.symm, hc⟩ ?_ ?_
    · simp only [hq.reserved]
      split
      · rfl
      · omega
    · simp only [h.totalReserved]
      split
      · split
        · rw [add32_of_lt (by omega)]
          omega
        · rw [add32_of_lt (by omega)]
          omega
      · omega
    · simp only [h.free]
      rw [add32_of_lt (by omega)]

theorem updateFreeBlocks_writes (s : TTxHwQueue) (q : QueueId) (c : ℕ) :
    ∃ (i : TTxHwQueueInfo) (free reserved : ℕ),
      s.updateFreeBlocks q c = { s with
        uNumTotalBlksFree := free
        uNumTotalBlksReserved := reserved
        aTxHwQueueInfo := Function.update s.aTxHwQueueInfo q i } ∧
      i.bQueueBusy = (s.aTxHwQueueInfo q).bQueueBusy ∧
      i.uNumBlksCausedBusy = (s.aTxHwQueueInfo q).uNumBlksCausedBusy := by
  by_cases hc : c = (s.aTxHwQueueInfo q).uFwFreedBlksCntr
  · refine ⟨s.aTxHwQueueInfo q, s.uNumTotalBlksFree, s.uNumTotalBlksReserved, ?_, rfl, rfl⟩
    simp [updateFreeBlocks, hc]
  · simp only [updateFreeBlocks, hc, if_false]
    exact ⟨_, _, _, rfl, rfl, rfl⟩

theorem FreesUsed.updateFreeBlocks {c d : ℕ} {r : QueueId} (h : s.FreesUsed r d) (hr : r ≠ q) :
    (s.updateFreeBlocks q c).FreesUsed r d := by
  obtain ⟨i, free, reserved, hs, -, -⟩ := s.updateFreeBlocks_writes q c
  rw [hs]
  simpa [FreesUsed, hr] using h

theorem Accounted.foldl_updateFreeBlocks (c : QueueId → UInt32) {qs : List QueueId}
    (hnd : qs.Nodup) (h : Accounted s p) (hk : ∀ q ∈ qs, s.FreesUsed q (c q).toNat) :
    ∃ p' : Pool QueueId, p'.total = p.total ∧ p'.low = p.low ∧
      Accounted (qs.foldl (fun s q => s.updateFreeBlocks q (c q).toNat) s) p' := by
  induction qs generalizing s p with
  | nil => exact ⟨p, rfl, rfl, h⟩
  | cons q qs ih =>
    obtain ⟨hq, hnd⟩ := List.nodup_cons.mp hnd
    obtain ⟨k, hle, h'⟩ := h.updateFreeBlocks (c q).toNat_lt (hk q (List.mem_cons_self ..))
    obtain ⟨p', htot, hlow, hp'⟩ := ih hnd h' fun r hr =>
      (hk r (List.mem_cons_of_mem _ hr)).updateFreeBlocks fun heq => hq (heq ▸ hr)
    exact ⟨p', htot, hlow, hp'⟩

/-! ## Restart -/

theorem foldl_restartQueue_info (qs : List QueueId) (s : TTxHwQueue) (q : QueueId) :
    (qs.foldl restartQueue s).aTxHwQueueInfo q =
      if q ∈ qs then (s.aTxHwQueueInfo q).restart else s.aTxHwQueueInfo q := by
  induction qs generalizing s with
  | nil => simp
  | cons r qs ih =>
    rw [List.foldl_cons, ih]
    by_cases hr : q = r
    · subst hr
      simp [restartQueue, TTxHwQueueInfo.restart]
    · simp [restartQueue, hr]

theorem foldl_restartQueue (qs : List QueueId) (s : TTxHwQueue)
    (hlt : s.uNumTotalBlksReserved +
      (qs.map fun q => (s.aTxHwQueueInfo q).uNumBlksThresh).sum < 2 ^ 32) :
    (qs.foldl restartQueue s).uNumTotalBlks = s.uNumTotalBlks ∧
    (qs.foldl restartQueue s).uNumTotalBlksFree = s.uNumTotalBlksFree ∧
    (qs.foldl restartQueue s).uNumTotalBlksReserved = s.uNumTotalBlksReserved +
      (qs.map fun q => (s.aTxHwQueueInfo q).uNumBlksThresh).sum := by
  induction qs generalizing s with
  | nil => simp
  | cons q qs ih =>
    simp only [List.map_cons, List.sum_cons] at hlt ⊢
    have hthresh : ∀ r, ((s.restartQueue q).aTxHwQueueInfo r).uNumBlksThresh =
        (s.aTxHwQueueInfo r).uNumBlksThresh := by
      intro r
      by_cases hr : r = q
      · subst hr
        simp [restartQueue, TTxHwQueueInfo.restart]
      · simp [restartQueue, hr]
    have hres : (s.restartQueue q).uNumTotalBlksReserved =
        s.uNumTotalBlksReserved + (s.aTxHwQueueInfo q).uNumBlksThresh := by
      simp only [restartQueue, TTxHwQueueInfo.restart]
      exact add32_of_lt (by omega)
    obtain ⟨htot, hfree, hsum⟩ := ih (s.restartQueue q) (by
      simp only [hthresh, hres]
      omega)
    simp only [List.foldl_cons]
    refine ⟨htot, hfree, ?_⟩
    rw [hsum, hres]
    simp only [hthresh]
    omega

theorem restart_info (s : TTxHwQueue) (q : QueueId) :
    s.restart.aTxHwQueueInfo q = (s.aTxHwQueueInfo q).restart := by
  rw [restart, foldl_restartQueue_info, if_pos (List.mem_finRange q)]

/-- **A restart with low thresholds that fit starts from a fresh pool.** -/
theorem accounted_restart {low : QueueId → ℕ} (hlow : ∑ q, low q ≤ s.uNumTotalBlks)
    (hlt : s.uNumTotalBlks < 2 ^ 32) (hs : ∀ q, (s.aTxHwQueueInfo q).uNumBlksThresh = low q) :
    Accounted s.restart (Pool.fresh s.uNumTotalBlks low hlow) := by
  have hsum : ((List.finRange 4).map fun q => (s.aTxHwQueueInfo q).uNumBlksThresh).sum =
      ∑ q, low q := by
    simp only [hs, Fin.sum_univ_def]
  obtain ⟨htot, hfree, hres⟩ := foldl_restartQueue (List.finRange 4)
    { s with
      uNumTotalBlksFree := s.uNumTotalBlks
      uNumTotalBlksReserved := 0
      uNumUsedDescriptors := 0
      uFwTxResultsCntr := 0
      uDrvTxPacketsCntr := 0 } (by
    simp only [hsum]
    omega)
  constructor
  case total => exact htot
  case bound => exact hlt
  case queue =>
    intro q
    rw [restart_info]
    have hreset := TTxHwQueueInfo.accounted_restart (s.aTxHwQueueInfo q)
    rw [hs q] at hreset
    exact hreset
  case totalReserved =>
    simp only [hsum] at hres
    simpa [restart, Pool.totalReserved, Pool.reserved, Pool.fresh] using hres
  case free => simpa [restart, Pool.free, Pool.fresh] using hfree

/-! ## Steps -/

/-- What `txHwQueue_AllocResources` can do: refuse, take the last packet of this size that fits, or
allocate with room for another. -/
theorem allocResources_cases (s : TTxHwQueue) (d : TxIfDescriptor) {q : QueueId} {n : ℕ}
    (hq : q = wmeQosTagToACTable d.tid) (hn : n = numBlksToAlloc d.length) :
    (s.checkResources q < n ∧ (s.allocResources d).1 = .stopCurrent ∧
      (s.allocResources d).2.1 = s.stopQueue q n) ∨
    (n ≤ s.checkResources q ∧ s.checkResources q < 2 * n ∧ (s.allocResources d).1 = .stopNext ∧
      (s.allocResources d).2.1 = (s.allocate q n).stopQueue q n) ∨
    (2 * n ≤ s.checkResources q ∧ (s.allocResources d).1 = .success ∧
      (s.allocResources d).2.1 = s.allocate q n) := by
  subst hq hn
  simp only [allocResources, Nat.shiftLeft_eq, pow_one]
  split
  case isTrue h => exact .inl ⟨h, rfl, rfl⟩
  case isFalse h =>
    split
    case isTrue h2 => exact .inr (.inl ⟨by omega, by omega, rfl, rfl⟩)
    case isFalse h2 => exact .inr (.inr ⟨by omega, rfl, rfl⟩)

/-- The firmware's counters report only blocks that are in use. -/
def FwReportsUsed (s : TTxHwQueue) : Op → Prop
  | .updateFreeResources fw => ∀ q, s.FreesUsed q (fw.txReleasedBlks q).toNat
  | _ => True

instance (s : TTxHwQueue) : (op : Op) → Decidable (s.FwReportsUsed op)
  | .updateFreeResources _ => inferInstanceAs (Decidable (∀ q, s.FreesUsed q _))
  | .allocResources _ => isTrue trivial
  | .restart => isTrue trivial
  | .registerCb => isTrue trivial

theorem startQueue_keeps (m : TTxHwQueue × ℕ) (q : QueueId) :
    ∃ b, (startQueue m q).1 =
      m.1.setInfo q { m.1.aTxHwQueueInfo q with bQueueBusy := b } := by
  simp only [startQueue]
  split
  · exact ⟨false, rfl⟩
  · refine ⟨(m.1.aTxHwQueueInfo q).bQueueBusy, ?_⟩
    simp [setInfo]

theorem Accounted.foldl_startQueue {qs : List QueueId} {m : TTxHwQueue × ℕ}
    (h : Accounted m.1 p) : Accounted (qs.foldl startQueue m).1 p := by
  induction qs generalizing m with
  | nil => exact h
  | cons q qs ih =>
    obtain ⟨b, hb⟩ := startQueue_keeps m q
    refine ih ?_
    rw [hb]
    exact h.setBusy q _ b

theorem Accounted.updateDescriptors (h : Accounted s p) (c : ℕ) :
    Accounted (s.updateDescriptors c) p := by
  unfold TTxHwQueue.updateDescriptors
  split
  · exact h
  · exact ⟨h.total, h.bound, h.queue, h.totalReserved, h.free⟩

theorem updateDescriptors_keeps (s : TTxHwQueue) (c : ℕ) :
    (s.updateDescriptors c).aTxHwQueueInfo = s.aTxHwQueueInfo ∧
    (s.updateDescriptors c).busyMaps = s.busyMaps ∧
    (s.updateDescriptors c).fUpdateBusyMapCb = s.fUpdateBusyMapCb := by
  unfold updateDescriptors
  split
  · exact ⟨rfl, rfl, rfl⟩
  · exact ⟨rfl, rfl, rfl⟩

theorem Accounted.updateFreeResources {fw : FwStatus} (h : Accounted s p)
    (hk : ∀ q, s.FreesUsed q (fw.txReleasedBlks q).toNat) :
    ∃ p' : Pool QueueId, p'.total = p.total ∧ p'.low = p.low ∧
      Accounted (s.updateFreeResources fw) p' := by
  obtain ⟨p', htot, hlow, h'⟩ := (h.updateDescriptors fw.txResultsCntr.toNat).foldl_updateFreeBlocks
    fw.txReleasedBlks (List.nodup_finRange 4) (fun q _ => by
      simpa [FreesUsed, updateDescriptors_keeps] using hk q)
  refine ⟨p', htot, hlow, ?_⟩
  have hm : Accounted ((s.updateDescriptors fw.txResultsCntr.toNat).freeBlocks
      fw.txReleasedBlks).startQueues.1 p' := h'.foldl_startQueue
  simp only [TTxHwQueue.updateFreeResources]
  split
  · exact ⟨hm.total, hm.bound, hm.queue, hm.totalReserved, hm.free⟩
  · exact hm

/-- **Every call keeps the accounting**, and the shares of the pool. -/
theorem Accounted.step {op : Op} (h : Accounted s p) (hfw : s.FwReportsUsed op)
    (hs : s.step op = some s') :
    ∃ p' : Pool QueueId, p'.total = p.total ∧ p'.low = p.low ∧ Accounted s' p' := by
  cases op with
  | allocResources d =>
    cases hs
    rcases s.allocResources_cases d rfl rfl with ⟨-, -, heq⟩ | ⟨hle, -, -, heq⟩ | ⟨hle, -, heq⟩
    · exact ⟨p, rfl, rfl, heq ▸ h.setBusy ..⟩
    · have hav := hle.trans (h.checkResources_le _)
      exact ⟨p.take _ _ hav, rfl, rfl, heq ▸ (h.allocate hav).setBusy ..⟩
    · have hfit : _ ≤ s.checkResources _ := (Nat.le_mul_of_pos_left _ Nat.two_pos).trans hle
      have hav := hfit.trans (h.checkResources_le _)
      exact ⟨p.take _ _ hav, rfl, rfl, heq ▸ h.allocate hav⟩
  | updateFreeResources fw =>
    cases hs
    exact h.updateFreeResources hfw
  | restart =>
    cases hs
    have hlow : ∑ q, p.low q ≤ s.uNumTotalBlks := by
      rw [h.total]
      exact (Finset.sum_le_sum fun q _ => Nat.le_max_left _ _).trans p.covered
    exact ⟨Pool.fresh _ _ hlow, h.total, rfl,
      accounted_restart hlow (h.total ▸ h.bound) fun q => (h.queue q).thresh⟩
  | registerCb =>
    cases hs
    exact ⟨p, rfl, rfl, h.total, h.bound, h.queue, h.totalReserved, h.free⟩

/-! ## Runs -/

/-- What holds of the counters after every step. -/
structure BlocksAccounted (params : HwParams) (s : TTxHwQueue) : Prop where
  thresh : ∀ q, (s.aTxHwQueueInfo q).uNumBlksThresh = (params.TxBlocksThresholdPerAc q).toNat
  total : s.uNumTotalBlks = sub32 params.NumTxBlocks.toNat 1
  /-- The reservation of a queue is what it has not used of its low threshold. -/
  reserved : ∀ q, (s.aTxHwQueueInfo q).uNumBlksReserved =
    (s.aTxHwQueueInfo q).uNumBlksThresh - (s.aTxHwQueueInfo q).uNumBlksUsed
  totalReserved : s.uNumTotalBlksReserved = ∑ q, (s.aTxHwQueueInfo q).uNumBlksReserved
  conserved : s.uNumTotalBlksFree + ∑ q, (s.aTxHwQueueInfo q).uNumBlksUsed = s.uNumTotalBlks
  reserved_le_free : s.uNumTotalBlksReserved ≤ s.uNumTotalBlksFree
  /-- With a descriptor left, the blocks available are the difference of the integers. -/
  available : ∀ q, s.uNumUsedDescriptors < numTxDescriptors → (s.checkResources q : ℤ) =
    s.uNumTotalBlksFree - (s.uNumTotalBlksReserved - (s.aTxHwQueueInfo q).uNumBlksReserved)
  /-- With a descriptor left, a packet within the low threshold of its queue is not refused. -/
  guaranteed : ∀ d : TxIfDescriptor, s.uNumUsedDescriptors < numTxDescriptors →
    (s.aTxHwQueueInfo (wmeQosTagToACTable d.tid)).uNumBlksUsed + numBlksToAlloc d.length ≤
      (s.aTxHwQueueInfo (wmeQosTagToACTable d.tid)).uNumBlksThresh →
    (s.allocResources d).1 ≠ .stopCurrent

theorem Accounted.blocksAccounted {params : HwParams} (h : Accounted s p)
    (hlow : p.low = fun q => (params.TxBlocksThresholdPerAc q).toNat)
    (htot : p.total = sub32 params.NumTxBlocks.toNat 1) : BlocksAccounted params s where
  thresh q := by rw [(h.queue q).thresh, hlow]
  total := h.total.trans htot
  reserved q := by rw [(h.queue q).thresh, (h.queue q).used, (h.queue q).reserved]
  totalReserved := by
    rw [h.totalReserved, Pool.totalReserved]
    exact Finset.sum_congr rfl fun q _ => (h.reserved q).symm
  conserved := by
    rw [h.free, h.total, ← p.free_add_sum_used]
    congr 1
    exact Finset.sum_congr rfl fun q _ => (h.queue q).used
  reserved_le_free := by
    rw [h.totalReserved, h.free]
    exact p.totalReserved_le_free
  available q hdesc := by
    have hle := p.reserved_le_totalReserved q
    have hav := p.available_add q
    rw [h.checkResources_eq, if_pos hdesc, h.free, h.totalReserved, h.reserved]
    omega
  guaranteed d hdesc hfit := by
    have hle := p.reserved_le_available (wmeQosTagToACTable d.tid)
    have hq := h.queue (wmeQosTagToACTable d.tid)
    rw [hq.used, hq.thresh] at hfit
    have hav : numBlksToAlloc d.length ≤ s.checkResources (wmeQosTagToACTable d.tid) := by
      rw [h.checkResources_eq, if_pos hdesc]
      unfold Pool.reserved at hle
      omega
    rcases s.allocResources_cases d rfl rfl with ⟨hlt, -, -⟩ | ⟨-, -, hst, -⟩ | ⟨-, hst, -⟩
    · exact absurd hav (Nat.not_le_of_lt hlt)
    · simp [hst]
    · simp [hst]

theorem start_accounted {params : HwParams}
    (hlow : ∑ q, (params.TxBlocksThresholdPerAc q).toNat ≤ sub32 params.NumTxBlocks.toNat 1) :
    Accounted (start params) (Pool.fresh _ _ hlow) :=
  accounted_restart (s := { create.config params with
    uNumTotalBlks := sub32 params.NumTxBlocks.toNat 1 }) hlow sub32_lt fun _ => rfl

/-- Low thresholds 2, 3, 4 and 5 of 20 blocks. -/
def sharedParams : HwParams := ⟨![2, 3, 4, 5], 21⟩

/-- Two packets, of which the firmware then frees one. -/
def sharedRun : List Op :=
  [.allocResources ⟨100, 0, 0, 0⟩, .allocResources ⟨1000, 0, 0, 6⟩,
    .updateFreeResources ⟨1, ![3, 0, 0, 0]⟩]

end TTxHwQueue

end ArchosGpl.Wlan.TxHwQueue
