import Mathlib.Algebra.BigOperators.Group.Finset.Basic
import Mathlib.Algebra.Order.BigOperators.Group.Finset
import Mathlib.Order.Bounds.Basic
import Mathlib.Tactic.Ring

/-!
# Running sums against a bound

`total f n` is the sum of the first `n` values of `f`, and `IsLeast {n | t ≤ total f n} k` says
that `k` values are just enough for the bound `t`. The rules: a least number by what is before it
(`isLeast_iff`), the least number where the values have become constant (`isLeast_of_tail`), and
what is left of the sum in a word when **the value that reaches the bound makes it wrap**
(`wrapped_lt`).
-/

namespace ArchosGpl.Lib.RunningSum

variable {f : ℕ → ℕ} {t k m n w : ℕ}

/-- The sum of the first values. -/
def total (f : ℕ → ℕ) (n : ℕ) : ℕ := ∑ i ∈ Finset.range n, f i

theorem total_zero : total f 0 = 0 := Finset.sum_range_zero f

theorem total_succ : total f (n + 1) = total f n + f n := Finset.sum_range_succ f n

theorem total_mono (h : m ≤ n) : total f m ≤ total f n :=
  Finset.sum_le_sum_of_subset (Finset.range_mono h)

/-- **A number is least** if it reaches the bound and none before it does. -/
theorem isLeast_iff :
    IsLeast {n | t ≤ total f n} k ↔ t ≤ total f k ∧ ∀ j < k, total f j < t := by
  constructor
  · intro h
    exact ⟨h.1, fun j hj => Nat.lt_of_not_le fun hle => absurd (h.2 hle) (Nat.not_le.mpr hj)⟩
  · rintro ⟨hreach, hbefore⟩
    exact ⟨hreach, fun n hn =>
      Nat.le_of_not_lt fun hlt => absurd hn (Nat.not_le.mpr (hbefore n hlt))⟩

theorem exists_isLeast (h : t ≤ total f n) : ∃ k ≤ n, IsLeast {n | t ≤ total f n} k := by
  classical
  have hex : ∃ n, t ≤ total f n := ⟨n, h⟩
  exact ⟨Nat.find hex, Nat.find_min' hex h, Nat.find_spec hex, fun _ hn => Nat.find_min' hex hn⟩

theorem total_tail (htail : ∀ i, m ≤ i → f i = w) (j : ℕ) :
    total f (m + j) = total f m + j * w := by
  induction j with
  | zero => rw [Nat.add_zero, Nat.zero_mul, Nat.add_zero]
  | succ j ih =>
    rw [← Nat.add_assoc, total_succ, ih, htail _ (Nat.le_add_right m j)]
    ring

/-- **The least number where the values have become constant**: the quotient of what is missing, or
one more. -/
theorem isLeast_of_tail (htail : ∀ i, m ≤ i → f i = w) (hw : 0 < w) (hbelow : total f m < t) :
    IsLeast {n | t ≤ total f n}
      (m + (t - total f m) / w + if (t - total f m) % w = 0 then 0 else 1) := by
  have hdiv := Nat.div_add_mod' (t - total f m) w
  have hmod := Nat.mod_lt (t - total f m) hw
  rw [isLeast_iff]
  constructor
  · rw [Nat.add_assoc, total_tail htail, Nat.add_mul]
    split <;> omega
  · intro j hj
    rcases Nat.lt_or_ge j m with hlt | hge
    · exact Nat.lt_of_le_of_lt (total_mono hlt.le) hbelow
    · obtain ⟨i, rfl⟩ := Nat.exists_eq_add_of_le hge
      rw [total_tail htail]
      split at hj
      · -- the quotient is exact, and this is below it
        have hi : (i + 1) * w ≤ (t - total f m) / w * w := Nat.mul_le_mul_right w (by omega)
        rw [Nat.add_mul, Nat.one_mul] at hi
        omega
      · have hi : i * w ≤ (t - total f m) / w * w := Nat.mul_le_mul_right w (by omega)
        omega

/-- **A wrap takes the sum below the bound again.** -/
theorem wrapped_lt {size : ℕ} (hleast : IsLeast {n | t ≤ total f n} k) (hk : 0 < k)
    (hf : f (k - 1) < size) (ht : t < size) (hwrap : size ≤ total f k) :
    total f k % size < t := by
  obtain ⟨j, rfl⟩ := Nat.exists_eq_add_of_lt hk
  have hbefore : total f j < t := (isLeast_iff.mp hleast).2 j (by omega)
  rw [Nat.zero_add, Nat.add_sub_cancel] at hf
  rw [Nat.zero_add, total_succ] at hwrap ⊢
  rw [Nat.mod_eq_sub_mod hwrap, Nat.mod_eq_of_lt (by omega)]
  omega

end ArchosGpl.Lib.RunningSum
