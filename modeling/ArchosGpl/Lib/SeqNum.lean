import Mathlib.Data.Int.Basic
import Mathlib.Data.List.Basic
import Mathlib.Order.Basic
import Mathlib.Tactic.Linarith

/-!
# Sequence numbers that wrap

`cdist N a b` is how far the number `b` lies ahead of `a` modulo `N`. A receiver that knows the
absolute position `A` of its window start `a` reads a number `b` as `unwrap N h A a b`: numbers
less than `h` ahead lie after the window start, all others behind it.

`Ascends A B l` says that the absolute numbers `l` ascend strictly within `[A, B)`. It composes
(`Ascends.append`), so a window that hands out each batch within the distance it moves hands out
everything in strictly ascending order.
-/

namespace ArchosGpl.Lib

/-- How far `b` lies ahead of `a` modulo `N`. -/
def cdist (N a b : ℕ) : ℕ := (b + N - a) % N

/-- The absolute number of `b` for a window whose start `a` has absolute number `A`: the numbers
less than `h` ahead of `a` lie after it, the others behind it. -/
def unwrap (N h : ℕ) (A : ℤ) (a b : ℕ) : ℤ :=
  if cdist N a b < h then A + cdist N a b else A + cdist N a b - N

section Dist

variable {N a b : ℕ}

theorem cdist_lt (hN : 0 < N) (a b : ℕ) : cdist N a b < N := Nat.mod_lt _ hN

@[simp] theorem cdist_self (N a : ℕ) : cdist N a a = 0 := by
  simp [cdist]

theorem cdist_eq_zero (ha : a < N) (hb : b < N) : cdist N a b = 0 ↔ b = a := by
  unfold cdist
  constructor
  · intro h
    by_cases hab : a ≤ b
    · have e : b + N - a = (b - a) + N := by omega
      rw [e, Nat.add_mod_right, Nat.mod_eq_of_lt (by omega)] at h
      omega
    · rw [Nat.mod_eq_of_lt (by omega)] at h
      omega
  · rintro rfl
    simp

theorem add_cdist (ha : a < N) (hb : b < N) : (a + cdist N a b) % N = b := by
  unfold cdist
  by_cases hab : a ≤ b
  · have e : b + N - a = (b - a) + N := by omega
    rw [e, Nat.add_mod_right, Nat.mod_eq_of_lt (show b - a < N by omega),
      Nat.mod_eq_of_lt (by omega)]
    omega
  · rw [Nat.mod_eq_of_lt (show b + N - a < N by omega)]
    have e : a + (b + N - a) = b + N := by omega
    rw [e, Nat.add_mod_right, Nat.mod_eq_of_lt hb]

theorem cdist_add (ha : a < N) {k : ℕ} (hk : k < N) : cdist N a ((a + k) % N) = k := by
  unfold cdist
  by_cases h : a + k < N
  · rw [Nat.mod_eq_of_lt h]
    have e : a + k + N - a = k + N := by omega
    rw [e, Nat.add_mod_right, Nat.mod_eq_of_lt hk]
  · have e : (a + k) % N = a + k - N := by
      rw [Nat.mod_eq_sub_mod (by omega), Nat.mod_eq_of_lt (by omega)]
    rw [e]
    have e' : a + k - N + N - a = k := by omega
    rw [e', Nat.mod_eq_of_lt hk]

theorem cdist_of_moved (ha : a < N) (hb : b < N) {m : ℕ} (hm : m ≤ cdist N a b) :
    cdist N ((a + m) % N) b = cdist N a b - m := by
  have hN : 0 < N := by omega
  have hd := cdist_lt hN a b
  have hb' : b = ((a + m) % N + (cdist N a b - m)) % N := by
    rw [Nat.mod_add_mod]
    have e : a + m + (cdist N a b - m) = a + cdist N a b := by omega
    rw [e, add_cdist ha hb]
  conv_lhs => rw [hb']
  exact cdist_add (Nat.mod_lt _ hN) (by omega)

end Dist

/-! ## Batches that ascend -/

/-- The numbers `l` ascend strictly within `[A, B)`. -/
def Ascends (A B : ℤ) (l : List ℤ) : Prop :=
  l.Pairwise (· < ·) ∧ ∀ x ∈ l, A ≤ x ∧ x < B

theorem Ascends.nil (A B : ℤ) : Ascends A B [] := ⟨List.Pairwise.nil, by simp⟩

theorem Ascends.append {A B C : ℤ} {l m : List ℤ} (hl : Ascends A B l) (hm : Ascends B C m)
    (hAB : A ≤ B) (hBC : B ≤ C) : Ascends A C (l ++ m) := by
  refine ⟨List.pairwise_append.mpr ⟨hl.1, hm.1, fun x hx y hy => ?_⟩, fun x hx => ?_⟩
  · have := (hl.2 x hx).2
    have := (hm.2 y hy).1
    omega
  · rcases List.mem_append.mp hx with hx | hx
    · have := hl.2 x hx
      omega
    · have := hm.2 x hx
      omega

end ArchosGpl.Lib
