import Mathlib.Data.Nat.Basic
import Mathlib.Order.Basic

/-!
# Periodic windows

Windows of one length begin at a time and then at every multiple of a period behind it. `waitFor` is
how long it is from a time to the next of them, or to one that is open then, and **a range meets a
window exactly if it is as long as that** (`exists_window_iff`).
-/

namespace ArchosGpl.Lib

variable {first period len s e : ℕ}

/-- How long it is to a window that is open. -/
def waitFor (first period len s : ℕ) : ℕ :=
  if s < first then first - s
  else if (s - first) % period ≤ len then 0
  else period - (s - first) % period

/-- **A range meets a window** exactly if it is as long as the wait for one. -/
theorem exists_window_iff (hp : 0 < period) (hse : s ≤ e) :
    (∃ k, first + k * period ≤ e ∧ s ≤ first + k * period + len) ↔
      waitFor first period len s ≤ e - s := by
  unfold waitFor
  by_cases hs : s < first
  · rw [if_pos hs]
    constructor
    · rintro ⟨k, hk, -⟩
      have hle : first ≤ first + k * period := Nat.le_add_right _ _
      omega
    · intro h
      exact ⟨0, by omega, by omega⟩
  · rw [if_neg hs]
    have hdiv := Nat.div_add_mod' (s - first) period
    have hmod := Nat.mod_lt (s - first) hp
    split
    · exact ⟨fun _ => Nat.zero_le _, fun _ => ⟨(s - first) / period, by omega, by omega⟩⟩
    · constructor
      · rintro ⟨k, hk, hk'⟩
        -- the window is behind the last one that has begun, which is over
        have hlt : (s - first) / period < k := by
          refine Nat.lt_of_not_le fun hle => ?_
          have hmul := Nat.mul_le_mul_right period hle
          omega
        have hmul := Nat.mul_le_mul_right period hlt
        rw [Nat.succ_mul] at hmul
        omega
      · intro h
        refine ⟨(s - first) / period + 1, ?_, ?_⟩
        · rw [Nat.add_mul, Nat.one_mul]
          omega
        · rw [Nat.add_mul, Nat.one_mul]
          omega

end ArchosGpl.Lib
