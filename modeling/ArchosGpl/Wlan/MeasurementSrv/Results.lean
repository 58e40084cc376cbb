import ArchosGpl.Wlan.MeasurementSrv.Model
import Mathlib.Algebra.Order.BigOperators.Group.List
import Mathlib.Algebra.Order.Ring.Nat

/-!
# The fractions that the results are turned into

The two callbacks store bytes: `ccaBusyFraction` of a channel load and `rpiDensity` of each counter
of a noise histogram.

* **`results_right_iff`**: a channel load is right exactly if its usage is below 16843010 and either
  it is not more than the requested time or, where the period is taken for the time, the difference
  between the two does not show (`ChannelLoadFits`); a noise histogram exactly if neither the sum
  of its samples nor 255 times a counter leaves 32 bits (`NoiseHistFits`).
-/

namespace ArchosGpl.Wlan.MeasurementSrv.Sys

variable {R C : Type*} {results : TMediumOccupancy} {noise : TNoiseHistogramResults} {duration : ℕ}

/-! ## What is stored -/

/-- The byte that is stored for a counter. -/
def rpiDensity (noise : TNoiseHistogramResults) (i : ℕ) : ℕ :=
  255 * noise.counters i % 2 ^ 32 / sumOfSamples noise % 2 ^ 8

/-- There are enough samples, as the callback counts them. -/
def enoughSamples (noise : TNoiseHistogramResults) : Prop :=
  noiseHistogramThreshold ≤ (sumOfSamples noise + 2 ^ 32 - noise.numOfLostCycles) % 2 ^ 32

/-! ## What is promised -/

/-- `v` is 255 times the fraction `n / d`, rounded down and at most 255. -/
structure CappedFloor (v n d : ℕ) : Prop where
  cap : v ≤ 255
  lower : v * d ≤ 255 * n
  upper : v = 255 ∨ 255 * n < (v + 1) * d

def ccaDivisor (results : TMediumOccupancy) (duration : ℕ) : ℕ :=
  if results.period / 1000 ≤ duration then results.period else duration * 1000 % 2 ^ 32

/-- **What the channel load has to do**: the fraction is that of the period or of the requested
time, whichever is shorter. -/
structure ChannelLoadRight (results : TMediumOccupancy) (duration : ℕ) : Prop where
  divisor : ccaDivisor results duration ≠ 0
  product : 255 * results.mediumUsage < 2 ^ 32
  scaled : duration < results.period / 1000 → duration * 1000 < 2 ^ 32
  octet : 255 * results.mediumUsage / ccaDivisor results duration < 2 ^ 8
  value : CappedFloor (ccaBusyFraction results duration) results.mediumUsage
    (min results.period (duration * 1000))

def allSamples (noise : TNoiseHistogramResults) : ℕ :=
  noise.numOfLostCycles + ((List.range numOfNoiseHistogramCounters).map noise.counters).sum

/-- **What the noise histogram has to do.** -/
structure NoiseHistRight (noise : TNoiseHistogramResults) : Prop where
  sum : allSamples noise < 2 ^ 32
  enough : enoughSamples noise
  divisor : sumOfSamples noise ≠ 0
  product : ∀ i < numOfNoiseHistogramCounters, 255 * noise.counters i < 2 ^ 32
  octet : ∀ i < numOfNoiseHistogramCounters, 255 * noise.counters i / sumOfSamples noise < 2 ^ 8
  value : ∀ i < numOfNoiseHistogramCounters,
    rpiDensity noise i = 255 * noise.counters i / allSamples noise

/-- **The channel loads that go well.** -/
def ChannelLoadFits (results : TMediumOccupancy) (duration : ℕ) : Prop :=
  255 * results.mediumUsage < 2 ^ 32 ∧
    if results.period / 1000 ≤ duration then
      -- the period is longer than the time by less than a millisecond, if at all
      ∀ k ≤ 255, k * (duration * 1000) ≤ 255 * results.mediumUsage →
        k * results.period ≤ 255 * results.mediumUsage
    else 255 * results.mediumUsage < 256 * (duration * 1000)

/-- **The noise histograms that go well.** -/
def NoiseHistFits (noise : TNoiseHistogramResults) : Prop :=
  allSamples noise < 2 ^ 32 ∧
    ∀ i < numOfNoiseHistogramCounters, 255 * noise.counters i < 2 ^ 32

/-! ## The channel load -/

theorem lt_succ_div_mul (n : ℕ) {d : ℕ} (hd : d ≠ 0) : n < (n / d + 1) * d := by
  rw [Nat.mul_comm]
  exact Nat.lt_mul_div_succ n (Nat.pos_of_ne_zero hd)

theorem cappedFloor_iff {n d e : ℕ} (hd : d ≠ 0) (hlt : 255 * n < 256 * d) (he : e ≤ d) :
    CappedFloor (255 * n / d) n e ↔ ∀ k ≤ 255, k * e ≤ 255 * n → k * d ≤ 255 * n := by
  have hlower := Nat.div_mul_le_self (255 * n) d
  have hupper := lt_succ_div_mul (255 * n) hd
  have hcap : 255 * n / d ≤ 255 :=
    Nat.le_of_lt_succ ((Nat.div_lt_iff_lt_mul (Nat.pos_of_ne_zero hd)).mpr hlt)
  generalize 255 * n / d = v at *
  constructor
  · intro h k hk hke
    have hkv : k ≤ v := by
      rcases h.upper with hfull | hless
      · exact hk.trans hfull.ge
      · by_contra hgt
        exact absurd (hke.trans_lt hless)
          (Nat.not_lt.mpr (Nat.mul_le_mul_right e (Nat.succ_le_of_lt (Nat.not_le.mp hgt))))
    exact (Nat.mul_le_mul_right d hkv).trans hlower
  · intro h
    refine ⟨hcap, (Nat.mul_le_mul_left v he).trans hlower, ?_⟩
    by_cases hfull : v = 255
    · exact Or.inl hfull
    · refine Or.inr (Nat.lt_of_not_le fun hle => ?_)
      exact absurd hupper (Nat.not_lt.mpr (h (v + 1) (by omega) hle))

theorem channelLoad_right_iff (husage : results.mediumUsage ≤ results.period)
    (hperiod : results.period < 2 ^ 32) (hne : results.period ≠ 0) :
    ChannelLoadRight results duration ↔ ChannelLoadFits results duration := by
  unfold ChannelLoadFits
  by_cases hshort : results.period / 1000 ≤ duration
  · -- the period is taken
    have hdivisor : ccaDivisor results duration = results.period := if_pos hshort
    have hlt : 255 * results.mediumUsage < 256 * results.period := by omega
    have hoctet : 255 * results.mediumUsage / results.period < 2 ^ 8 :=
      (Nat.div_lt_iff_lt_mul (Nat.pos_of_ne_zero hne)).mpr hlt
    have hvalue : 255 * results.mediumUsage < 2 ^ 32 →
        ccaBusyFraction results duration = 255 * results.mediumUsage / results.period := by
      intro hproduct
      unfold ccaBusyFraction
      rw [if_pos hshort, Nat.mod_eq_of_lt hproduct, Nat.mod_eq_of_lt hoctet]
    have hmultiples : (∀ k ≤ 255, k * min results.period (duration * 1000) ≤
          255 * results.mediumUsage → k * results.period ≤ 255 * results.mediumUsage) ↔
        ∀ k ≤ 255, k * (duration * 1000) ≤ 255 * results.mediumUsage →
          k * results.period ≤ 255 * results.mediumUsage := by
      rcases Nat.le_total results.period (duration * 1000) with hle | hle
      · rw [Nat.min_eq_left hle]
        exact ⟨fun _ k _ h => (Nat.mul_le_mul_left k hle).trans h, fun _ _ _ h => h⟩
      · rw [Nat.min_eq_right hle]
    have hfloor := (cappedFloor_iff (n := results.mediumUsage) hne hlt
      (Nat.min_le_left results.period (duration * 1000))).trans hmultiples
    rw [if_pos hshort]
    constructor
    · intro h
      exact ⟨h.product, hfloor.mp (hvalue h.product ▸ h.value)⟩
    · rintro ⟨hproduct, hcond⟩
      refine ⟨hdivisor ▸ hne, hproduct, fun h => absurd h (Nat.not_lt.mpr hshort), ?_, ?_⟩
      · rw [hdivisor]
        exact hoctet
      · rw [hvalue hproduct]
        exact hfloor.mpr hcond
  · -- the requested time is taken
    have hlong : duration * 1000 ≤ results.period := by omega
    have hscaled : duration * 1000 < 2 ^ 32 := hlong.trans_lt hperiod
    have hdivisor : ccaDivisor results duration = duration * 1000 :=
      (if_neg hshort).trans (Nat.mod_eq_of_lt hscaled)
    rw [if_neg hshort]
    constructor
    · intro h
      refine ⟨h.product, ?_⟩
      have hoctet := h.octet
      have hdne := h.divisor
      rw [hdivisor] at hoctet hdne
      exact (Nat.div_lt_iff_lt_mul (Nat.pos_of_ne_zero hdne)).mp hoctet
    · rintro ⟨hproduct, hlt⟩
      have hdne : duration * 1000 ≠ 0 := by
        intro h0
        rw [h0] at hlt
        exact Nat.not_lt_zero _ hlt
      have hoctet : 255 * results.mediumUsage / (duration * 1000) < 2 ^ 8 :=
        (Nat.div_lt_iff_lt_mul (Nat.pos_of_ne_zero hdne)).mpr hlt
      have hvalue : ccaBusyFraction results duration =
          255 * results.mediumUsage / (duration * 1000) := by
        unfold ccaBusyFraction
        rw [if_neg hshort, Nat.mod_eq_of_lt hproduct, Nat.mod_eq_of_lt hscaled,
          Nat.mod_eq_of_lt hoctet]
      refine ⟨hdivisor ▸ hdne, hproduct, fun _ => hscaled, hdivisor ▸ hoctet, ?_⟩
      rw [hvalue, Nat.min_eq_right hlong]
      exact (cappedFloor_iff hdne hlt (Nat.le_refl _)).mpr fun _ _ h => h

/-! ## The noise histogram -/

theorem foldl_add_mod {m : ℕ} (f : ℕ → ℕ) (l : List ℕ) (start : ℕ)
    (h : start + (l.map f).sum < m) :
    l.foldl (fun sum i => (sum + f i) % m) start = start + (l.map f).sum := by
  induction l generalizing start with
  | nil => rfl
  | cons i l ih =>
    rw [List.map_cons, List.sum_cons, ← Nat.add_assoc] at h ⊢
    rw [List.foldl_cons, Nat.mod_eq_of_lt (Nat.lt_of_le_of_lt (Nat.le_add_right _ _) h)]
    exact ih _ h

theorem noiseHist_right_iff
    (henough : noiseHistogramThreshold ≤
      ((List.range numOfNoiseHistogramCounters).map noise.counters).sum) :
    NoiseHistRight noise ↔ NoiseHistFits noise := by
  refine ⟨fun h => ⟨h.sum, h.product⟩, fun ⟨hsum, hproduct⟩ => ?_⟩
  have hall : sumOfSamples noise = allSamples noise := foldl_add_mod _ _ _ hsum
  have hthreshold : 0 < noiseHistogramThreshold := by decide
  have hpos : 0 < allSamples noise := by
    unfold allSamples
    omega
  have hcounter : ∀ i < numOfNoiseHistogramCounters, noise.counters i ≤ allSamples noise := by
    intro i hi
    refine (List.single_le_sum (fun _ _ => Nat.zero_le _) _ ?_).trans (Nat.le_add_left _ _)
    exact List.mem_map_of_mem (List.mem_range.mpr hi)
  have hoctet : ∀ i < numOfNoiseHistogramCounters,
      255 * noise.counters i / allSamples noise < 2 ^ 8 := by
    intro i hi
    have := hcounter i hi
    exact (Nat.div_lt_iff_lt_mul hpos).mpr (by omega)
  refine ⟨hsum, ?_, hall ▸ hpos.ne', hproduct, hall ▸ hoctet, fun i hi => ?_⟩
  · unfold enoughSamples
    rw [hall]
    unfold allSamples at hsum ⊢
    omega
  · unfold rpiDensity
    rw [hall, Nat.mod_eq_of_lt (hproduct i hi), Nat.mod_eq_of_lt (hoctet i hi)]

/-- **Which results are right**, of the channel loads with the usage within the period and of the
noise histograms with enough samples. -/
theorem results_right_iff (results : TMediumOccupancy) (duration : ℕ)
    (noise : TNoiseHistogramResults) (husage : results.mediumUsage ≤ results.period)
    (hperiod : results.period < 2 ^ 32) (hne : results.period ≠ 0)
    (henough : noiseHistogramThreshold ≤
      ((List.range numOfNoiseHistogramCounters).map noise.counters).sum) :
    (ChannelLoadRight results duration ↔ ChannelLoadFits results duration) ∧
      (NoiseHistRight noise ↔ NoiseHistFits noise) :=
  ⟨channelLoad_right_iff husage hperiod hne, noiseHist_right_iff henough⟩

/-- Half of 200 ms were used, and all counters are the same. -/
theorem results_right_half :
    ChannelLoadRight ⟨100000, 200000⟩ 200 ∧ NoiseHistRight ⟨fun _ => 100, 5⟩ := by
  obtain ⟨hload, hnoise⟩ := results_right_iff ⟨100000, 200000⟩ 200 ⟨fun _ => 100, 5⟩ (by decide)
    (by decide) (by decide) (by decide)
  refine ⟨hload.mpr ⟨by decide, ?_⟩, hnoise.mpr ⟨by decide, fun _ _ => ?_⟩⟩
  · rw [if_pos (by decide)]
    exact fun _ _ h => h
  · exact show 255 * 100 < 2 ^ 32 by decide

/-- The medium was used for 16.8 s of 20 s: 0 of 255 is stored. -/
theorem long_usage_overflows :
    ¬ ((∀ (results : TMediumOccupancy) (duration : ℕ), results.mediumUsage ≤ results.period →
        results.period < 2 ^ 32 → results.period ≠ 0 → ChannelLoadRight results duration) ∧
      ∀ noise : TNoiseHistogramResults,
        noiseHistogramThreshold ≤
            ((List.range numOfNoiseHistogramCounters).map noise.counters).sum →
          NoiseHistRight noise) := by
  rintro ⟨h, -⟩
  have hright := h ⟨16843010, 20000000⟩ 20000 (by decide) (by decide) (by decide)
  have hstored : ccaBusyFraction ⟨16843010, 20000000⟩ 20000 = 0 := by decide
  have hupper := hright.value.upper
  rw [hstored] at hupper
  exact absurd hupper (by decide)

end ArchosGpl.Wlan.MeasurementSrv.Sys
