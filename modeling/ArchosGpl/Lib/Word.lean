import Mathlib.Algebra.Order.Ring.Nat
import Mathlib.Data.Nat.Basic

/-!
# Unsigned 32-bit arithmetic on naturals

`add32` and `sub32` are addition and subtraction of 32-bit words, as naturals. The rules say when
they are those of the naturals, and that **the difference of two accumulated counters survives
their wrap** (`sub32_add32`, `sub32_mod`).
-/

namespace ArchosGpl.Lib

/-- Addition of 32-bit words. -/
@[irreducible] def add32 (a b : ℕ) : ℕ := (a + b) % 2 ^ 32

/-- Subtraction of 32-bit words. -/
@[irreducible] def sub32 (a b : ℕ) : ℕ := (a + 2 ^ 32 - b) % 2 ^ 32

theorem add32_of_lt {a b : ℕ} (h : a + b < 2 ^ 32) : add32 a b = a + b :=
  by rw [add32, Nat.mod_eq_of_lt h]

theorem sub32_of_le {a b : ℕ} (h : b ≤ a) (ha : a < 2 ^ 32) : sub32 a b = a - b := by
  unfold sub32
  omega

theorem sub32_lt {a b : ℕ} : sub32 a b < 2 ^ 32 := by
  unfold sub32
  exact Nat.mod_lt _ (by decide)

theorem sub32_self {a : ℕ} : sub32 a a = 0 := by
  unfold sub32
  omega

theorem add32_add32 (a b c : ℕ) : add32 (add32 a b) c = add32 a (b + c) := by
  unfold add32
  omega

theorem sub32_add32 {f u c : ℕ} (hf : f < 2 ^ 32) (hc : c < 2 ^ 32) (hu : u < 2 ^ 32)
    (hk : sub32 c f ≤ u) : sub32 (add32 f u) c = u - sub32 c f := by
  unfold sub32 add32 at *
  omega

theorem add32_sub32 {f u c : ℕ} (hf : f < 2 ^ 32) (hc : c < 2 ^ 32) (hk : sub32 c f ≤ u) :
    add32 c (u - sub32 c f) = add32 f u := by
  unfold sub32 add32 at *
  omega

theorem sub32_sub_self {u k : ℕ} (hk : k ≤ u) (hu : u < 2 ^ 32) : sub32 u (u - k) = k := by
  rw [sub32_of_le (Nat.sub_le u k) hu]
  omega

theorem add32_mod (n k : ℕ) : add32 (n % 2 ^ 32) k = (n + k) % 2 ^ 32 := by
  unfold add32
  omega

/-- The words of two counters less than a wrap apart differ by what the counters differ by. -/
theorem sub32_mod {m n : ℕ} (hle : m ≤ n) (hlt : n - m < 2 ^ 32) :
    sub32 (n % 2 ^ 32) (m % 2 ^ 32) = n - m := by
  unfold sub32
  omega

/-!
## Little-endian numbers

`leBytes k n` are the lowest `k` bytes of a number, the lowest one first, and `leValue` is the
number of a list of bytes: **`leValue_leBytes`** is the round trip.
-/

/-- The lowest `k` bytes. -/
def leBytes : ℕ → ℕ → List UInt8
  | 0, _ => []
  | k + 1, n => UInt8.ofNat n :: leBytes k (n / 2 ^ 8)

/-- The number of some bytes. -/
def leValue : List UInt8 → ℕ
  | [] => 0
  | b :: bs => b.toNat + 2 ^ 8 * leValue bs

@[simp] theorem leBytes_length (k n : ℕ) : (leBytes k n).length = k := by
  induction k generalizing n with
  | zero => rfl
  | succ k ih => rw [leBytes, List.length_cons, ih]

/-- **The round trip.** -/
theorem leValue_leBytes (k n : ℕ) : leValue (leBytes k n) = n % 2 ^ (8 * k) := by
  induction k generalizing n with
  | zero => rw [Nat.mul_zero, Nat.pow_zero, Nat.mod_one]; rfl
  | succ k ih =>
    rw [leBytes, leValue, ih, UInt8.toNat_ofNat', Nat.mul_succ, Nat.add_comm (8 * k), Nat.pow_add,
      Nat.mod_mul]

theorem leValue_lt (bs : List UInt8) : leValue bs < 2 ^ (8 * bs.length) := by
  induction bs with
  | nil => exact Nat.one_pos
  | cons b bs ih =>
    have hb := b.toNat_lt
    rw [leValue, List.length_cons, Nat.mul_succ, Nat.pow_add]
    omega

end ArchosGpl.Lib
