import Mathlib.Data.Nat.ModEq
import Mathlib.Tactic.Linarith
import Mathlib.Tactic.Ring
import ArchosGpl.Wlan.ScanMngr.SpsModel

/-!
# The calculated events of the tracked APs

* `reminder64_eq`: **up to an interval of 2^24 microseconds the remainder is that of the
  division**; beyond that its products may not fit in a word.
* `driftLeft_noteDelta`: a call notes that the delta did not change since the last one, so **the
  drift of an AP is forgotten by repeated calls**, unless its delta is zero, which stands for none.
* `Timed.advance`: without drift, **an event that is calculated from itself is the next beacon**.
-/

open Function (update update_eq_self update_of_ne update_self)

namespace ArchosGpl.Wlan.ScanMngr.Sps

open Lib

variable {b : BssEntry} {e : ScanBssEntry} {o : ℕ}

/-! ## Words -/

theorem u64_lt (x : ℤ) : u64 x < 2 ^ 64 := by
  unfold u64
  omega

theorem u64_eq {x : ℤ} (h0 : 0 ≤ x) (h : x < 2 ^ 64) : (u64 x : ℤ) = x := by
  unfold u64
  omega

theorem u64_natCast {n : ℕ} (h : n < 2 ^ 64) : u64 n = n := by
  unfold u64
  omega

theorem u64_u64_add (x y : ℤ) : u64 (u64 x + y) = u64 (x + y) := by
  unfold u64
  omega

theorem u64_u64_sub (x y : ℤ) : u64 (u64 x - y) = u64 (x - y) := by
  unfold u64
  omega

theorem mul32_of_lt {m n : ℕ} (h : m * n < 2 ^ 32) : mul32 m n = m * n := Nat.mod_eq_of_lt h

theorem mul32_comm (m n : ℕ) : mul32 m n = mul32 n m := by rw [mul32, mul32, Nat.mul_comm]

theorem reminder64_pos {x d r : ℕ} (h : reminder64 x d = some r) : 0 < d := by
  rcases Nat.eq_zero_or_pos d with rfl | hd
  · cases h
  · exact hd

/-! ## The next event -/

/-- How far the next beacon is behind the time asked for, when it is moved by the average drift. -/
def step (b : BssEntry) (e : ScanBssEntry) (o : ℕ) : ℤ :=
  b.beaconIntervalUsec - (remoteTSF b e o % b.beaconIntervalUsec : ℕ) +
    averageDeltaChange (noteDelta b e)

/-- How far the event that is given is behind the time asked for. -/
def advance (b : BssEntry) (e : ScanBssEntry) (o : ℕ) : ℤ :=
  if step b e o < 0 then step b e o + b.beaconIntervalUsec else step b e o

/-- The products of the remainder fit, and no TSF wraps on either timeline. -/
structure CallFits (b : BssEntry) (e : ScanBssEntry) (o : ℕ) : Prop where
  init_lt : o < 2 ^ 64
  reminder : reminder64 (remoteTSF b e o) b.beaconIntervalUsec =
    some (remoteTSF b e o % b.beaconIntervalUsec)
  local_nonneg : 0 ≤ o + step b e o
  local_lt : o + step b e o + b.beaconIntervalUsec < 2 ^ 64
  remote_nonneg : 0 ≤ remoteTSF b e o + step b e o
  remote_lt : remoteTSF b e o + step b e o + b.beaconIntervalUsec < 2 ^ 64

/-- An event may be calculated for a time: an AP of delta zero, whose drift is never forgotten, is
not moved back by it. -/
structure FitsLater (b : BssEntry) (e : ScanBssEntry) (o : ℕ) : Prop extends
    CallFits b e o where
  still : localRemoteTSFDelta b e = 0 →
    -b.beaconIntervalUsec < step b e o ∧ step b e o ≠ 0

/-- An event may be calculated from the last one: an AP of delta zero is not moved off the next
beacon. -/
structure FitsNext (b : BssEntry) (e : ScanBssEntry) (o : ℕ) : Prop extends
    CallFits b e o where
  still : localRemoteTSFDelta b e = 0 →
    step b e o = b.beaconIntervalUsec - 1 ∨ step b e o = -1

instance : Decidable (CallFits b e o) :=
  decidable_of_iff
    (o < 2 ^ 64 ∧ reminder64 (remoteTSF b e o) b.beaconIntervalUsec =
        some (remoteTSF b e o % b.beaconIntervalUsec) ∧
      0 ≤ o + step b e o ∧ o + step b e o + b.beaconIntervalUsec < 2 ^ 64 ∧
      0 ≤ remoteTSF b e o + step b e o ∧
      remoteTSF b e o + step b e o + b.beaconIntervalUsec < 2 ^ 64)
    ⟨fun ⟨h₁, h₂, h₃, h₄, h₅, h₆⟩ => ⟨h₁, h₂, h₃, h₄, h₅, h₆⟩,
      fun ⟨h₁, h₂, h₃, h₄, h₅, h₆⟩ => ⟨h₁, h₂, h₃, h₄, h₅, h₆⟩⟩

instance : Decidable (FitsLater b e o) :=
  decidable_of_iff (CallFits b e o ∧ (localRemoteTSFDelta b e = 0 →
      -b.beaconIntervalUsec < step b e o ∧ step b e o ≠ 0))
    ⟨fun ⟨h, h'⟩ => ⟨h, h'⟩, fun ⟨h, h'⟩ => ⟨h, h'⟩⟩

instance : Decidable (FitsNext b e o) :=
  decidable_of_iff (CallFits b e o ∧ (localRemoteTSFDelta b e = 0 →
      step b e o = b.beaconIntervalUsec - 1 ∨ step b e o = -1))
    ⟨fun ⟨h, h'⟩ => ⟨h, h'⟩, fun ⟨h, h'⟩ => ⟨h, h'⟩⟩

theorem calculate_eq (h : reminder64 (remoteTSF b e o) b.beaconIntervalUsec =
      some (remoteTSF b e o % b.beaconIntervalUsec)) :
    scanMngrCalculateNextEventTSF b e o =
      if u64 (o + step b e o) < o then
        some (u64 (u64 (o + step b e o) + b.beaconIntervalUsec), noteDelta b e)
      else some (u64 (o + step b e o), noteDelta b e) := by
  have hsum (r : ℕ) : (o - localRemoteTSFDelta b e - r + b.beaconIntervalUsec +
      averageDeltaChange (noteDelta b e) + localRemoteTSFDelta b e : ℤ) =
      o + (b.beaconIntervalUsec - r + averageDeltaChange (noteDelta b e)) := by ring
  rw [scanMngrCalculateNextEventTSF, h, Option.bind_eq_bind, Option.bind_some]
  generalize hr : remoteTSF b e o % b.beaconIntervalUsec = r
  simp only [step, hr]
  simp only [remoteTSF, u64_u64_sub, u64_u64_add, hsum]

theorem next_event (h : CallFits b e o) :
    ∃ t : ℕ, scanMngrCalculateNextEventTSF b e o = some (t, noteDelta b e) ∧
      (t : ℤ) = o + advance b e o ∧
      (remoteTSF b e t : ℤ) = remoteTSF b e o + advance b e o := by
  obtain ⟨-, hr, h0, hlt, h0', hlt'⟩ := h
  have hremote (k : ℤ) (hk : 0 ≤ remoteTSF b e o + k)
      (hk' : remoteTSF b e o + k < 2 ^ 64) :
      (remoteTSF b e (o + k) : ℤ) = remoteTSF b e o + k := by
    rw [remoteTSF, add_sub_right_comm, ← u64_u64_add]
    exact u64_eq hk hk'
  rw [calculate_eq hr]
  have ht := u64_eq h0 (by omega)
  unfold advance
  by_cases hneg : step b e o < 0
  · rw [if_pos (by omega), if_pos hneg]
    refine ⟨_, rfl, ?_, ?_⟩
    · rw [ht, u64_eq (by omega) hlt, add_assoc]
    · rw [ht, u64_eq (by omega) hlt, add_assoc]
      exact hremote _ (by omega) (by omega)
  · rw [if_neg (by omega), if_neg hneg]
    refine ⟨_, rfl, ht, ?_⟩
    rw [ht]
    exact hremote _ h0' (by omega)

theorem advance_le : advance b e o ≤ step b e o + b.beaconIntervalUsec := by
  unfold advance
  split <;> omega

theorem CallFits.interval_pos (h : CallFits b e o) : 0 < b.beaconIntervalUsec :=
  reminder64_pos h.reminder

/-! ## The drift -/

@[simp]
theorem localRemoteTSFDelta_noteDelta :
    localRemoteTSFDelta b (noteDelta b e) = localRemoteTSFDelta b e := by
  unfold noteDelta
  split <;> rfl

@[simp]
theorem remoteTSF_noteDelta (t : ℤ) : remoteTSF b (noteDelta b e) t = remoteTSF b e t := by
  rw [remoteTSF, localRemoteTSFDelta_noteDelta, remoteTSF]

theorem prevTSFDelta_noteDelta : (noteDelta b e).prevTSFDelta = localRemoteTSFDelta b e := by
  unfold noteDelta
  split <;> rfl

theorem noteDelta_of_zero (hprev : e.prevTSFDelta = localRemoteTSFDelta b e)
    (h0 : localRemoteTSFDelta b e = 0) : noteDelta b e = e := by
  rw [noteDelta, if_pos (hprev.trans h0), ← hprev]

theorem noteDelta_of_ne (hprev : e.prevTSFDelta = localRemoteTSFDelta b e)
    (h0 : localRemoteTSFDelta b e ≠ 0) :
    noteDelta b e = { e with
      deltaChangeArray := update e.deltaChangeArray e.deltaChangeArrayIndex 0
      deltaChangeArrayIndex := e.deltaChangeArrayIndex + 1 } := by
  rw [noteDelta, if_neg (hprev ▸ h0), ← hprev, Int.sub_self, Int.zero_bmod]

/-- Whether the change that is overwritten after so many others is other than zero. -/
def changeAfter (e : ScanBssEntry) (k : Fin 4) : ℕ :=
  if e.deltaChangeArray (e.deltaChangeArrayIndex + k) = 0 then 0 else 1

/-- The changes in the array, the more of them the later they are overwritten. -/
def driftLeft (e : ScanBssEntry) : ℕ :=
  changeAfter e 0 + 2 * changeAfter e 1 + 3 * changeAfter e 2 + 4 * changeAfter e 3

theorem changeAfter_eq_zero {k : Fin 4} :
    changeAfter e k = 0 ↔ e.deltaChangeArray (e.deltaChangeArrayIndex + k) = 0 := by
  unfold changeAfter
  split <;> simp_all

theorem driftLeft_eq_zero : driftLeft e = 0 ↔ e.deltaChangeArray = fun _ => 0 := by
  constructor
  · intro h
    have hall : ∀ k, changeAfter e k = 0 := by
      unfold driftLeft at h
      intro k
      obtain rfl | rfl | rfl | rfl : k = 0 ∨ k = 1 ∨ k = 2 ∨ k = 3 := by revert k; decide
      all_goals omega
    funext i
    have hback (j : Fin 4) : j + (i - j) = i := by revert i j; decide
    have hi := changeAfter_eq_zero.mp (hall (i - e.deltaChangeArrayIndex))
    rwa [hback] at hi
  · intro h
    simp [driftLeft, changeAfter, h]

theorem averageDeltaChange_of_driftLeft (h : driftLeft e = 0) : averageDeltaChange e = 0 := by
  rw [averageDeltaChange, driftLeft_eq_zero.mp h]
  rfl

theorem driftLeft_noteDelta (hprev : e.prevTSFDelta = localRemoteTSFDelta b e)
    (h0 : localRemoteTSFDelta b e ≠ 0) (h : driftLeft e ≠ 0) :
    driftLeft (noteDelta b e) < driftLeft e := by
  have hnext (k : Fin 4) (hk : k ≠ 3) : changeAfter (noteDelta b e) k = changeAfter e (k + 1) := by
    have hne (i : Fin 4) : i + (k + 1) ≠ i := by revert i k; decide
    have hshift (i : Fin 4) : i + 1 + k = i + (k + 1) := by revert i k; decide
    have hval : (noteDelta b e).deltaChangeArray ((noteDelta b e).deltaChangeArrayIndex + k) =
        e.deltaChangeArray (e.deltaChangeArrayIndex + (k + 1)) := by
      rw [noteDelta_of_ne hprev h0]
      change update _ _ 0 (e.deltaChangeArrayIndex + 1 + k) = _
      rw [hshift, update_of_ne (hne _)]
    rw [changeAfter]
    simp only [hval]
    rfl
  have hlast : changeAfter (noteDelta b e) 3 = 0 := by
    have hround (i : Fin 4) : i + 1 + 3 = i := by revert i; decide
    rw [changeAfter_eq_zero, noteDelta_of_ne hprev h0]
    change update _ _ 0 (e.deltaChangeArrayIndex + 1 + 3) = 0
    rw [hround, update_self]
  unfold driftLeft at h ⊢
  rw [hnext 0 (by decide), hnext 1 (by decide), hnext 2 (by decide), hlast,
    show (0 + 1 : Fin 4) = 1 from rfl, show (1 + 1 : Fin 4) = 2 from rfl,
    show (2 + 1 : Fin 4) = 3 from rfl]
  omega

/-- How many changes are left to be forgotten; none are where the delta is zero, as it is never
noted then. -/
def restless (b : BssEntry) (e : ScanBssEntry) : ℕ :=
  if localRemoteTSFDelta b e = 0 then 0 else driftLeft e

theorem restless_noteDelta (hprev : e.prevTSFDelta = localRemoteTSFDelta b e)
    (h : restless b e ≠ 0) : restless b (noteDelta b e) < restless b e := by
  unfold restless at h ⊢
  rw [localRemoteTSFDelta_noteDelta]
  split at h
  · exact absurd rfl h
  · next h0 =>
    rw [if_neg h0, if_neg h0]
    exact driftLeft_noteDelta hprev h0 h

theorem restless_noteDelta_eq_zero (hprev : e.prevTSFDelta = localRemoteTSFDelta b e)
    (h : restless b e = 0) : restless b (noteDelta b e) = 0 := by
  unfold restless at h ⊢
  rw [localRemoteTSFDelta_noteDelta]
  split at h
  · next h0 => rw [if_pos h0]
  · next h0 =>
    rw [if_neg h0, driftLeft_eq_zero, noteDelta_of_ne hprev h0, driftLeft_eq_zero.mp h]
    exact update_eq_self _ _

/-! ## Events calculated from events -/

/-- The TSF is that of an event which the last call for this AP gave: on the remote timeline a
beacon, moved by the average drift. -/
structure Timed (b : BssEntry) (e : ScanBssEntry) (inAdvance nextEventTSF : ℕ) : Prop where
  noted : e.prevTSFDelta = localRemoteTSFDelta b e
  onBeacon : (b.beaconIntervalUsec : ℤ) ∣
    remoteTSF b e (nextEventTSF + inAdvance) - averageDeltaChange e

variable {inAdvance nextEventTSF t : ℕ}

theorem remoteTSF_u64_sub (b : BssEntry) (e : ScanBssEntry) (t : ℤ) (k : ℕ) :
    remoteTSF b e (u64 (t - k) + k) = remoteTSF b e t := by
  rw [remoteTSF, add_sub_assoc, u64_u64_add, remoteTSF]
  congr 1
  ring

theorem timed_of_call
    (ht : (remoteTSF b e t : ℤ) = remoteTSF b e o + advance b e o) :
    Timed b (noteDelta b e) inAdvance (u64 (t - inAdvance)) where
  noted := by rw [prevTSFDelta_noteDelta, localRemoteTSFDelta_noteDelta]
  onBeacon := by
    have hdvd : (b.beaconIntervalUsec : ℤ) ∣
        remoteTSF b e o - (remoteTSF b e o % b.beaconIntervalUsec : ℕ) := by
      rw [Int.natCast_mod]
      exact Int.dvd_self_sub_emod
    rw [remoteTSF_u64_sub, remoteTSF_noteDelta, ht]
    have hadd (k : ℤ) (hk : (b.beaconIntervalUsec : ℤ) ∣ k) (ha : advance b e o =
        k - (remoteTSF b e o % b.beaconIntervalUsec : ℕ) +
          averageDeltaChange (noteDelta b e)) :
        (b.beaconIntervalUsec : ℤ) ∣
          remoteTSF b e o + advance b e o - averageDeltaChange (noteDelta b e) := by
      have hsum := Int.dvd_add hdvd hk
      rwa [ha, show (remoteTSF b e o + (k - (remoteTSF b e o % b.beaconIntervalUsec : ℕ) +
          averageDeltaChange (noteDelta b e)) - averageDeltaChange (noteDelta b e) : ℤ) =
        remoteTSF b e o - (remoteTSF b e o % b.beaconIntervalUsec : ℕ) + k by ring]
    unfold advance at hadd ⊢
    split at hadd
    · next hneg =>
      rw [if_pos hneg]
      refine hadd (b.beaconIntervalUsec + b.beaconIntervalUsec) (Int.dvd_add (Int.dvd_refl _) (Int.dvd_refl _))
        ?_
      rw [step]
      ring
    · next hneg =>
      rw [if_neg hneg]
      exact hadd b.beaconIntervalUsec (Int.dvd_refl _) rfl

theorem step_of_restless (hprev : e.prevTSFDelta = localRemoteTSFDelta b e)
    (hrest : restless b e = 0) (h0 : localRemoteTSFDelta b e ≠ 0) :
    step b e o = b.beaconIntervalUsec - (remoteTSF b e o % b.beaconIntervalUsec : ℕ) := by
  have hzero : driftLeft (noteDelta b e) = 0 := by
    have hnoted := restless_noteDelta_eq_zero hprev hrest
    rwa [restless, localRemoteTSFDelta_noteDelta, if_neg h0] at hnoted
  rw [step, averageDeltaChange_of_driftLeft hzero, add_zero]

/-- **An event that is calculated for a time is behind it**, once the drift is forgotten. -/
theorem advance_pos (h : FitsLater b e o) (hprev : e.prevTSFDelta = localRemoteTSFDelta b e)
    (hrest : restless b e = 0) : 0 < advance b e o := by
  unfold advance
  by_cases hδ : localRemoteTSFDelta b e = 0
  · obtain ⟨hlt, hne⟩ := h.still hδ
    split <;> omega
  · have hmod := Nat.mod_lt (remoteTSF b e o) h.interval_pos
    rw [step_of_restless hprev hrest hδ, if_neg (by omega)]
    omega

/-- **An event that is calculated from itself is the next beacon**, once the drift is forgotten. -/
theorem Timed.advance (ht : Timed b e inAdvance nextEventTSF)
    (h : FitsNext b e (nextEventTSF + inAdvance + 1)) (hrest : restless b e = 0) :
    advance b e (nextEventTSF + inAdvance + 1) = b.beaconIntervalUsec - 1 := by
  have hpos := h.interval_pos
  unfold Sps.advance
  by_cases hδ : localRemoteTSFDelta b e = 0
  · rcases h.still hδ with hs | hs
    · rw [if_neg (by omega), hs]
    · rw [if_pos (by omega), hs]
      ring
  · have hdrift : averageDeltaChange e = 0 := by
      rw [restless, if_neg hδ] at hrest
      exact averageDeltaChange_of_driftLeft hrest
    obtain ⟨k, hk⟩ := ht.onBeacon
    rw [hdrift, sub_zero] at hk
    -- a beacon is never at the last TSF before the wrap
    have hnext : remoteTSF b e (nextEventTSF + inAdvance + 1 : ℕ) =
        remoteTSF b e (nextEventTSF + inAdvance) + 1 := by
      have hdvd : (1024 : ℤ) ∣ remoteTSF b e (nextEventTSF + inAdvance) :=
        hk ▸ ⟨b.beaconInterval * k, by rw [BssEntry.beaconIntervalUsec]; push_cast; ring⟩
      have hlt := u64_lt (nextEventTSF + inAdvance - localRemoteTSFDelta b e)
      have hsucc : ((nextEventTSF + inAdvance + 1 : ℕ) : ℤ) - localRemoteTSFDelta b e =
          nextEventTSF + inAdvance - localRemoteTSFDelta b e + 1 := by
        push_cast
        ring
      have hcast := u64_eq (x := remoteTSF b e (nextEventTSF + inAdvance) + 1) (by omega) (by
        rw [remoteTSF] at hdvd ⊢
        omega)
      rw [remoteTSF, hsucc, ← u64_u64_add]
      exact Int.ofNat_inj.mp (by push_cast; exact hcast)
    have hmod : remoteTSF b e (nextEventTSF + inAdvance + 1 : ℕ) % b.beaconIntervalUsec = 1 := by
      have hdvd : b.beaconIntervalUsec ∣ remoteTSF b e (nextEventTSF + inAdvance) :=
        Int.natCast_dvd_natCast.mp ⟨k, hk⟩
      have hone : 1 < b.beaconIntervalUsec := by
        unfold BssEntry.beaconIntervalUsec at hpos ⊢
        omega
      rw [hnext, Nat.add_mod, Nat.mod_eq_zero_of_dvd hdvd, Nat.zero_add, Nat.mod_mod,
        Nat.mod_eq_of_lt hone]
    rw [step_of_restless ht.noted hrest hδ, hmod, if_neg (by omega)]
    rfl

end ArchosGpl.Wlan.ScanMngr.Sps
