import Mathlib.Algebra.Order.BigOperators.Group.Finset
import ArchosGpl.Lib.Window

/-!
# A pool with guaranteed shares

`total` blocks are shared by the users `ι`. User `i` is guaranteed `low i` blocks: what it has not
taken of them is reserved, and the others may take only what is free and not reserved.

`Pool.covered` carries the guarantee: the larger of what is promised and what is used, summed over
the users, fits in the pool. `Pool.take` and `Pool.release` keep it. **A user can always take what
is left of its share** (`reserved_le_available`), **taking never raises what another user can take**
(`available_take_le`).
-/

open Function (update update_self)

namespace ArchosGpl.Lib

open Finset

variable {ι : Type*} [Fintype ι]

/-- The blocks of a pool: promised and used, by user. -/
structure Pool (ι : Type*) [Fintype ι] where
  total : ℕ
  low : ι → ℕ
  used : ι → ℕ
  covered : ∑ i, max (low i) (used i) ≤ total

namespace Pool

/-- The blocks that nobody uses. -/
def free (p : Pool ι) : ℕ := p.total - ∑ i, p.used i

/-- What a user has not taken of its share. -/
def reserved (p : Pool ι) (i : ι) : ℕ := p.low i - p.used i

def totalReserved (p : Pool ι) : ℕ := ∑ i, p.reserved i

/-- What a user can take: the free blocks less those reserved for the others. -/
def available (p : Pool ι) (i : ι) : ℕ := p.free - (p.totalReserved - p.reserved i)

/-! ## The guarantee -/

theorem used_add_reserved (p : Pool ι) (i : ι) :
    p.used i + p.reserved i = max (p.low i) (p.used i) := by
  simp only [reserved]
  omega

theorem sum_used_add_totalReserved (p : Pool ι) :
    ∑ i, p.used i + p.totalReserved = ∑ i, max (p.low i) (p.used i) := by
  rw [totalReserved, ← sum_add_distrib]
  exact sum_congr rfl fun i _ => p.used_add_reserved i

theorem free_add_sum_used (p : Pool ι) : p.free + ∑ i, p.used i = p.total := by
  have h := p.sum_used_add_totalReserved
  have := p.covered
  rw [free]
  omega

/-- **What is reserved is free.** -/
theorem totalReserved_le_free (p : Pool ι) : p.totalReserved ≤ p.free := by
  have h := p.sum_used_add_totalReserved
  have := p.covered
  rw [free]
  omega

theorem reserved_le_totalReserved (p : Pool ι) (i : ι) : p.reserved i ≤ p.totalReserved :=
  single_le_sum (f := p.reserved) (fun _ _ => Nat.zero_le _) (mem_univ i)

theorem used_add_available_le (p : Pool ι) (i : ι) : p.used i + p.available i ≤ p.total := by
  have hi : p.used i ≤ ∑ j, p.used j :=
    single_le_sum (f := p.used) (fun _ _ => Nat.zero_le _) (mem_univ i)
  have := p.free_add_sum_used
  have : p.available i ≤ p.free := Nat.sub_le _ _
  omega

theorem available_add (p : Pool ι) (i : ι) :
    p.available i + (p.totalReserved - p.reserved i) = p.free := by
  have := p.totalReserved_le_free
  rw [available]
  omega

/-- **A user can always take what is left of its share.** -/
theorem reserved_le_available (p : Pool ι) (i : ι) : p.reserved i ≤ p.available i := by
  have := p.totalReserved_le_free
  have := p.reserved_le_totalReserved i
  have := p.available_add i
  omega

/-! ## Taking and releasing -/

variable [DecidableEq ι]

theorem sum_update (p : Pool ι) (f : ι → ℕ → ℕ) (i : ι) (u : ℕ) :
    ∑ j, f j (update p.used i u j) + f i (p.used i) = ∑ j, f j (p.used j) + f i u :=
  sum_update_add p.used f i u

/-- A user takes blocks that are available to it. -/
def take (p : Pool ι) (i : ι) (n : ℕ) (h : n ≤ p.available i) : Pool ι where
  total := p.total
  low := p.low
  used := update p.used i (p.used i + n)
  covered := by
    have hsum := p.sum_update (fun j u => max (p.low j) u) i (p.used i + n)
    have hle := p.covered
    have htot := p.sum_used_add_totalReserved
    have hfree := p.free_add_sum_used
    have hav := p.available_add i
    have hres := p.reserved_le_totalReserved i
    have hi := p.used_add_reserved i
    beta_reduce at hsum
    omega

/-- A user gives back blocks that it uses. -/
def release (p : Pool ι) (i : ι) (n : ℕ) (_ : n ≤ p.used i) : Pool ι where
  total := p.total
  low := p.low
  used := update p.used i (p.used i - n)
  covered := by
    have hsum := p.sum_update (fun j u => max (p.low j) u) i (p.used i - n)
    have := p.covered
    beta_reduce at hsum
    omega

section take

variable (p : Pool ι) (i : ι) (n : ℕ) (h : n ≤ p.available i)

@[simp] theorem take_total : (p.take i n h).total = p.total := rfl

@[simp] theorem take_low : (p.take i n h).low = p.low := rfl

@[simp] theorem take_used : (p.take i n h).used = update p.used i (p.used i + n) := rfl

theorem take_reserved :
    (p.take i n h).reserved = update p.reserved i (p.reserved i - n) := by
  funext j
  by_cases hj : j = i
  · subst hj
    simp only [reserved, take_low, take_used, update_self]
    omega
  · simp [reserved, hj]

theorem take_totalReserved :
    (p.take i n h).totalReserved + min n (p.reserved i) = p.totalReserved := by
  have hsum := sum_update_add p.reserved (fun _ r => r) i (p.reserved i - n)
  have := p.reserved_le_totalReserved i
  rw [totalReserved, take_reserved]
  simp only [totalReserved] at this ⊢
  omega

theorem take_free : (p.take i n h).free + n = p.free := by
  have hsum := p.sum_update (fun _ u => u) i (p.used i + n)
  have hp := p.free_add_sum_used
  have ht := (p.take i n h).free_add_sum_used
  simp only [take_total, take_used] at ht
  omega

theorem take_available_self : (p.take i n h).available i = p.available i - n := by
  have hfree := p.take_free i n h
  have hres := p.take_totalReserved i n h
  have hav := p.available_add i
  have hav' := (p.take i n h).available_add i
  have hr : (p.take i n h).reserved i = p.reserved i - n := by simp [take_reserved]
  have := p.reserved_le_totalReserved i
  omega

/-- **Taking never raises what a user can take.** -/
theorem take_available_le (j : ι) : (p.take i n h).available j ≤ p.available j := by
  by_cases hj : j = i
  · subst hj
    rw [take_available_self]
    exact Nat.sub_le _ _
  · have hfree := p.take_free i n h
    have hres := p.take_totalReserved i n h
    have hav := p.available_add j
    have hav' := (p.take i n h).available_add j
    have hr : (p.take i n h).reserved j = p.reserved j := by simp [take_reserved, hj]
    omega

end take

/-- A pool of which nothing is used. -/
def fresh (total : ℕ) (low : ι → ℕ) (h : ∑ i, low i ≤ total) : Pool ι where
  total := total
  low := low
  used := fun _ => 0
  covered := by simpa using h

section release

variable (p : Pool ι) (i : ι) (n : ℕ) (h : n ≤ p.used i)

@[simp] theorem release_total : (p.release i n h).total = p.total := rfl

@[simp] theorem release_low : (p.release i n h).low = p.low := rfl

@[simp] theorem release_used :
    (p.release i n h).used = update p.used i (p.used i - n) := rfl

@[simp] theorem release_zero : p.release i 0 (Nat.zero_le _) = p := by
  simp [release]

theorem release_reserved : (p.release i n h).reserved =
    update p.reserved i (p.low i - (p.used i - n)) := by
  funext j
  by_cases hj : j = i
  · subst hj
    simp [reserved]
  · simp [reserved, hj]

theorem release_totalReserved : (p.release i n h).totalReserved + p.reserved i =
    p.totalReserved + (p.low i - (p.used i - n)) := by
  rw [totalReserved, release_reserved]
  exact sum_update_add p.reserved (fun _ r => r) i _

theorem release_free : (p.release i n h).free = p.free + n := by
  have hsum := p.sum_update (fun _ u => u) i (p.used i - n)
  have hp := p.free_add_sum_used
  have ht := (p.release i n h).free_add_sum_used
  simp only [release_total, release_used] at ht
  omega

end release

end Pool

end ArchosGpl.Lib
