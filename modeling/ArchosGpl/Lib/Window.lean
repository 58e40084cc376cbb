import Mathlib.Algebra.BigOperators.Fin
import Mathlib.Algebra.Group.Fin.Basic
import Mathlib.Algebra.Group.Units.Equiv
import Mathlib.Algebra.BigOperators.Group.Multiset.Basic
import Mathlib.Data.Fintype.BigOperators
import Mathlib.Tactic.Abel

/-!
# A window over a cyclic array

A **window** is a partial map from positions to entries, position `0` being the window start. Two
operations: slide the window by `n` positions (`slide`), which hands out the entries it passes
(`held`), and put an entry at a position (`put`).

A cyclic array of `n` cells with a start index represents one: position `k < n` is the cell `k`
places after the start, positions from `n` on are empty (`view`). `view_advance` and `view_put` say
that clearing the start cell and moving the start by one is a slide by one, and that writing the
cell `k` places after the start is a put at `k`.
-/

open Function (update update_apply update_of_ne)

namespace ArchosGpl.Lib

variable {α β : Type*}

/-- A partial map from positions to entries. -/
abbrev Window (α : Type*) := ℕ → Option α

namespace Window

/-- The window moved up by `n` positions. -/
def slide (w : Window α) (n : ℕ) : Window α := fun k => w (k + n)

/-- The entries at the positions below `n`, in order. -/
def held (w : Window α) (n : ℕ) : List α := (List.range n).filterMap w

/-- The window with `a` at position `k`. -/
def put (w : Window α) (k : ℕ) (a : α) : Window α := update w k (some a)

@[simp] theorem slide_apply (w : Window α) (n k : ℕ) : w.slide n k = w (k + n) := rfl

@[simp] theorem slide_zero (w : Window α) : w.slide 0 = w := rfl

@[simp] theorem slide_slide (w : Window α) (m n : ℕ) : (w.slide m).slide n = w.slide (m + n) := by
  funext k
  simp only [slide_apply]
  congr 1
  omega

@[simp] theorem put_same (w : Window α) (k : ℕ) (a : α) : w.put k a k = some a := by
  simp [put]

theorem put_apply (w : Window α) (k : ℕ) (a : α) (j : ℕ) :
    w.put k a j = if j = k then some a else w j := by
  simp [put, update_apply]

variable {k : ℕ}

theorem put_ne (w : Window α) {j : ℕ} (a : α) (h : j ≠ k) : w.put k a j = w j := by
  simp [put_apply, h]

@[simp] theorem held_zero (w : Window α) : w.held 0 = [] := rfl

theorem held_succ (w : Window α) (n : ℕ) : w.held (n + 1) = w.held n ++ (w n).toList := by
  unfold held
  rw [List.range_succ, List.filterMap_append]
  cases h : w n <;> simp [h]

theorem held_add (w : Window α) (m n : ℕ) : w.held (m + n) = w.held m ++ (w.slide m).held n := by
  induction n with
  | zero => simp
  | succ n ih =>
    rw [← Nat.add_assoc, held_succ, ih, held_succ, List.append_assoc, slide_apply, Nat.add_comm m n]

theorem held_one (w : Window α) : w.held 1 = (w 0).toList := by
  simp [held_succ]

variable {w : Window α} {n : ℕ}

theorem mem_held {a : α} : a ∈ w.held n ↔ ∃ k < n, w k = some a := by
  simp [held, List.mem_filterMap]

theorem held_eq_nil (h : ∀ k < n, w k = none) : w.held n = [] := by
  unfold held
  rw [List.filterMap_eq_nil_iff]
  intro k hk
  exact h k (List.mem_range.mp hk)

theorem held_congr {v : Window α} (h : ∀ k < n, v k = w k) : v.held n = w.held n := by
  induction n with
  | zero => rfl
  | succ n ih =>
    rw [held_succ, held_succ, ih fun k hk => h k (by omega), h n (by omega)]

/-- The entries handed out stand in the order of their positions: a relation that follows the
positions holds between any two of them. -/
theorem held_pairwise {R : α → α → Prop}
    (h : ∀ j k a b, j < k → k < n → w j = some a → w k = some b → R a b) :
    (w.held n).Pairwise R := by
  unfold held
  rw [List.pairwise_filterMap]
  refine List.Pairwise.imp_of_mem ?_ List.pairwise_lt_range
  intro j k _ hk hjk a ha b hb
  exact h j k a b hjk (List.mem_range.mp hk) ha hb

variable {m : ℕ}

theorem held_of_le (hmn : m ≤ n) (h : ∀ k, m ≤ k → w k = none) : w.held n = w.held m := by
  obtain ⟨d, rfl⟩ := Nat.exists_eq_add_of_le hmn
  rw [held_add, held_eq_nil (w := w.slide m), List.append_nil]
  intro k _
  exact h (k + m) (by omega)

/-! ### Putting an entry -/

theorem slide_put_of_le (w : Window α) (a : α) (h : m ≤ k) :
    (w.put k a).slide m = (w.slide m).put (k - m) a := by
  funext j
  rw [slide_apply, put_apply, put_apply, slide_apply]
  by_cases hj : j + m = k
  · rw [if_pos hj, if_pos (by omega)]
  · rw [if_neg hj, if_neg (by omega)]

theorem slide_put_of_lt (w : Window α) (a : α) (h : k < m) : (w.put k a).slide m = w.slide m := by
  funext j
  rw [slide_apply, put_ne _ _ (by omega), slide_apply]

theorem held_put_of_le (w : Window α) (a : α) (h : m ≤ k) : (w.put k a).held m = w.held m :=
  held_congr fun j hj => put_ne w a (by omega)

theorem held_put_succ (w : Window α) (k : ℕ) (a : α) :
    (w.put k a).held (k + 1) = w.held k ++ [a] := by
  rw [held_succ, held_put_of_le w a le_rfl, put_same]
  rfl

/-! ### The leading entries -/

/-- The number of leading positions that hold an entry, `n` at most. -/
def leading (w : Window α) : ℕ → ℕ
  | 0 => 0
  | n + 1 => if (w 0).isSome then leading (w.slide 1) n + 1 else 0

theorem leading_le (w : Window α) (n : ℕ) : w.leading n ≤ n := by
  induction n generalizing w with
  | zero => exact le_rfl
  | succ n ih =>
    unfold leading
    split
    · exact Nat.succ_le_succ (ih _)
    · exact Nat.zero_le _

theorem leading_le_length (w : Window α) (n : ℕ) : w.leading n ≤ (w.held n).length := by
  induction n generalizing w with
  | zero => exact le_rfl
  | succ n ih =>
    unfold leading
    split
    case isTrue h0 =>
      obtain ⟨a, ha⟩ := Option.isSome_iff_exists.mp h0
      rw [Nat.add_comm n 1, held_add, held_one, ha, Nat.add_comm]
      simpa [Nat.add_comm] using ih (w.slide 1)
    case isFalse => exact Nat.zero_le _

theorem isSome_of_lt_leading {j : ℕ} (h : j < w.leading n) : (w j).isSome := by
  induction n generalizing w j with
  | zero => exact absurd h (Nat.not_lt_zero _)
  | succ n ih =>
    unfold leading at h
    split at h
    case isTrue h0 =>
      cases j with
      | zero => exact h0
      | succ j => exact ih (w := w.slide 1) (Nat.lt_of_succ_lt_succ h)
    case isFalse => exact absurd h (Nat.not_lt_zero _)

theorem leading_eq_none (h : w.leading n < n) : w (w.leading n) = none := by
  induction n generalizing w with
  | zero => exact absurd h (Nat.not_lt_zero _)
  | succ n ih =>
    unfold leading at h ⊢
    split at h
    case isTrue h0 =>
      rw [if_pos h0]
      exact ih (w := w.slide 1) (Nat.lt_of_succ_lt_succ h)
    case isFalse h0 =>
      rw [if_neg h0]
      simpa using h0

/-- Between the positions `m` and `n`, no entry stands behind an empty position. -/
def NoGap (w : Window α) (m n : ℕ) : Prop :=
  ∀ k < n, m ≤ k → (w k).isSome → ∀ j < k, m ≤ j → (w j).isSome

instance (w : Window α) (m n : ℕ) : Decidable (w.NoGap m n) :=
  inferInstanceAs (Decidable (∀ k < n, m ≤ k → (w k).isSome → ∀ j < k, m ≤ j → (w j).isSome))

theorem noGap_of_leading
    (h : ∀ k, m + (w.slide m).leading n ≤ k → w k = none) (N : ℕ) : w.NoGap m N := by
  intro k _ hmk hk j hjk hmj
  have hlt : k < m + (w.slide m).leading n := by
    by_contra hge
    rw [h k (by omega)] at hk
    exact absurd hk (by simp)
  have := isSome_of_lt_leading (w := w.slide m) (n := n) (j := j - m) (by omega)
  rwa [slide_apply, Nat.sub_add_cancel hmj] at this

end Window

/-! ## The cyclic array -/

variable {n : ℕ} [NeZero n]

/-- The window a cyclic array represents, read from `start`. -/
def view (start : Fin n) (cell : Fin n → Option α) : Window α :=
  fun k => if k < n then cell (start + Fin.ofNat n k) else none

variable {start : Fin n} {cell : Fin n → Option α} {k : ℕ}

theorem view_of_lt (h : k < n) : view start cell k = cell (start + Fin.ofNat n k) := if_pos h

theorem view_of_le (h : n ≤ k) : view start cell k = none := if_neg (by omega)

@[simp] theorem view_zero (start : Fin n) (cell : Fin n → Option α) :
    view start cell 0 = cell start := by
  rw [view_of_lt (Nat.pos_of_neZero n)]
  congr 1
  simp

theorem ofNat_add (j k : ℕ) : Fin.ofNat n (j + k) = Fin.ofNat n j + Fin.ofNat n k := by
  ext
  simp [Fin.ofNat, Fin.val_add]

theorem exists_position (start i : Fin n) : ∃ k < n, start + Fin.ofNat n k = i :=
  ⟨(i - start).val, (i - start).isLt, by simp⟩

theorem position_inj {j : ℕ} (hj : j < n) (hk : k < n)
    (h : start + Fin.ofNat n j = start + Fin.ofNat n k) : j = k := by
  have h' : Fin.ofNat n j = Fin.ofNat n k := add_left_cancel h
  simpa [Fin.ext_iff, Fin.ofNat, Nat.mod_eq_of_lt hj, Nat.mod_eq_of_lt hk] using h'

theorem view_put (hk : k < n) (a : α) : view start (update cell (start + Fin.ofNat n k) (some a)) =
      (view start cell).put k a := by
  funext j
  rw [Window.put_apply]
  by_cases hj : j < n
  · rw [view_of_lt hj, view_of_lt hj, update_apply]
    by_cases hjk : j = k
    · simp [hjk]
    · rw [if_neg hjk, if_neg fun h => hjk (position_inj hj hk h)]
  · rw [view_of_le (by omega), view_of_le (by omega), if_neg (by omega)]

theorem view_advance (start : Fin n) (cell : Fin n → Option α) :
    view (start + 1) (update cell start none) = (view start cell).slide 1 := by
  funext k
  have hpos : start + 1 + Fin.ofNat n k = start + Fin.ofNat n (k + 1) := by
    rw [add_assoc]
    congr 1
    ext
    simp [Fin.ofNat, Fin.val_add, Nat.add_comm]
  rw [Window.slide_apply]
  by_cases hk : k + 1 < n
  · rw [view_of_lt (by omega), view_of_lt hk, hpos, update_of_ne]
    intro h
    have : k + 1 = 0 := position_inj hk (Nat.pos_of_neZero n) (by rw [h]; simp)
    omega
  · rw [view_of_le (Nat.le_of_not_lt hk)]
    by_cases hk' : k < n
    · have hkn : k + 1 = n := by omega
      rw [view_of_lt hk', hpos, hkn]
      simp
    · exact view_of_le (Nat.le_of_not_lt hk')

theorem sum_view {M : Type*} [AddCommMonoid M] (start : Fin n) (cell : Fin n → Option α)
    (f : Option α → M) : ∑ k ∈ Finset.range n, f (view start cell k) = ∑ i, f (cell i) := by
  rw [← Fin.sum_univ_eq_sum_range (fun k => f (view start cell k)) n]
  rw [← Equiv.sum_comp (Equiv.addLeft start) fun i => f (cell i)]
  refine Finset.sum_congr rfl fun k _ => ?_
  rw [view_of_lt k.isLt]
  simp

theorem sum_update_add {ι M : Type*} [Fintype ι] [DecidableEq ι] [AddCommMonoid M] (cell : ι → β)
    (f : ι → β → M) (i : ι) (a : β) :
    ∑ j, f j (update cell i a j) + f i (cell i) = ∑ j, f j (cell j) + f i a := by
  simp only [Function.apply_update]
  rw [Finset.sum_update_of_mem (Finset.mem_univ i), ← Finset.erase_eq,
    ← Finset.add_sum_erase Finset.univ (fun j => f j (cell j)) (Finset.mem_univ i)]
  abel

end ArchosGpl.Lib
