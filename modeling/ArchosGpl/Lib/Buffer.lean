import Mathlib.Data.List.GetD
import Mathlib.Data.List.Range

/-!
# A flat buffer

A buffer is a function from offsets to values. `copyTo` writes a list at an offset, `slice` reads
one. `slice_copyTo_append` is the rule for writing one list after another.
-/

namespace ArchosGpl.Lib

/-- The buffer's contents by offset. -/
abbrev Buffer (α : Type*) := ℕ → α

namespace Buffer

variable {α : Type*}

/-- Write `l` at `off`. -/
def copyTo (b : Buffer α) (off : ℕ) (l : List α) : Buffer α := fun i =>
  if off ≤ i then l.getD (i - off) (b i) else b i

/-- The `len` values from `off` on. -/
def slice (b : Buffer α) (off len : ℕ) : List α := (List.range len).map fun i => b (off + i)

@[simp] theorem length_slice (b : Buffer α) (off len : ℕ) : (b.slice off len).length = len := by
  simp [slice]

theorem slice_zero (b : Buffer α) (off : ℕ) : b.slice off 0 = [] := rfl

theorem slice_add (b : Buffer α) (off m n : ℕ) :
    b.slice off (m + n) = b.slice off m ++ b.slice (off + m) n := by
  unfold slice
  rw [List.range_add, List.map_append, List.map_map]
  congr 1
  refine List.map_congr_left fun i _ => ?_
  rw [Function.comp_apply, Nat.add_assoc]

variable {k : ℕ}

theorem drop_slice (b : Buffer α) (off : ℕ) {n : ℕ} (h : k ≤ n) :
    (b.slice off n).drop k = b.slice (off + k) (n - k) := by
  obtain ⟨m, rfl⟩ := Nat.exists_eq_add_of_le h
  rw [slice_add, List.drop_left' (length_slice ..), Nat.add_sub_cancel_left]

theorem take_slice (b : Buffer α) (off : ℕ) {n : ℕ} (h : k ≤ n) :
    (b.slice off n).take k = b.slice off k := by
  obtain ⟨m, rfl⟩ := Nat.exists_eq_add_of_le h
  rw [slice_add, List.take_left' (length_slice ..)]

theorem slice_copyTo (b : Buffer α) (off : ℕ) (l : List α) :
    (b.copyTo off l).slice off l.length = l := by
  refine List.ext_getElem (length_slice ..) fun i hi hl => ?_
  simp only [slice, copyTo, List.getElem_map, List.getElem_range, Nat.le_add_right, if_true,
    Nat.add_sub_cancel_left]
  exact List.getD_eq_getElem l _ hl

variable {len off start : ℕ}

theorem slice_copyTo_before (b : Buffer α) (l : List α)
    (h : start + len ≤ off) : (b.copyTo off l).slice start len = b.slice start len := by
  unfold slice
  refine List.map_congr_left fun i hi => ?_
  have := List.mem_range.mp hi
  unfold copyTo
  rw [if_neg (by omega)]

theorem slice_copyTo_append (b : Buffer α) (start len : ℕ) (l : List α) :
    (b.copyTo (start + len) l).slice start (len + l.length) = b.slice start len ++ l := by
  rw [slice_add, slice_copyTo_before b l (Nat.le_refl _), slice_copyTo]

theorem slice_copyTo_behind (b : Buffer α) (l : List α)
    (h : off + l.length ≤ start) : (b.copyTo off l).slice start len = b.slice start len := by
  unfold slice
  refine List.map_congr_left fun i _ => ?_
  unfold copyTo
  rw [if_pos (by omega), List.getD_eq_default _ _ (by omega)]

/-! ### Several writes -/

/-- Write one list after another, each at its offset. -/
def writeAll (b : Buffer α) (ws : List (ℕ × List α)) : Buffer α :=
  ws.foldl (fun b w => b.copyTo w.1 w.2) b

variable {ws : List (ℕ × List α)}

theorem slice_writeAll_of_disjoint (b : Buffer α)
    (h : ∀ w ∈ ws, start + len ≤ w.1 ∨ w.1 + w.2.length ≤ start) :
    (b.writeAll ws).slice start len = b.slice start len := by
  induction ws generalizing b with
  | nil => rfl
  | cons w ws ih =>
    obtain ⟨hw, hws⟩ := List.forall_mem_cons.mp h
    refine (ih _ hws).trans ?_
    rcases hw with hbefore | hbehind
    · exact slice_copyTo_before b w.2 hbefore
    · exact slice_copyTo_behind b w.2 hbehind

/-- **A list that is not overwritten later is read back.** -/
theorem slice_writeAll (b : Buffer α) {l : List α} (hk : ws[k]? = some (off, l))
    (h : ∀ w ∈ ws.drop (k + 1), off + l.length ≤ w.1 ∨ w.1 + w.2.length ≤ off) :
    (b.writeAll ws).slice off l.length = l := by
  obtain ⟨hlt, heq⟩ := List.getElem?_eq_some_iff.mp hk
  rw [← List.take_append_drop k ws, List.drop_eq_getElem_cons hlt, heq, writeAll, List.foldl_append,
    List.foldl_cons]
  exact (slice_writeAll_of_disjoint _ h).trans (slice_copyTo _ off l)

variable {i : ℕ}

theorem writeAll_outside (b : Buffer α)
    (h : ∀ w ∈ ws, i < w.1 ∨ w.1 + w.2.length ≤ i) : b.writeAll ws i = b i := by
  have hslice : (b.writeAll ws).slice i 1 = b.slice i 1 :=
    slice_writeAll_of_disjoint b fun w hw => (h w hw).imp Nat.succ_le_of_lt id
  exact List.head_eq_of_cons_eq hslice

theorem writeAll_congr {b b' : Buffer α} (ws : List (ℕ × List α)) (h : b i = b' i) :
    b.writeAll ws i = b'.writeAll ws i := by
  induction ws generalizing b b' with
  | nil => exact h
  | cons w ws ih =>
    refine ih ?_
    change (if w.1 ≤ i then w.2.getD (i - w.1) (b i) else b i) = _
    rw [h]
    rfl

theorem writeAll_inside (b b' : Buffer α)
    (h : ∃ w ∈ ws, w.1 ≤ i ∧ i < w.1 + w.2.length) : b.writeAll ws i = b'.writeAll ws i := by
  obtain ⟨w, hw, hle, hlt⟩ := h
  obtain ⟨pre, post, rfl⟩ := List.append_of_mem hw
  rw [writeAll, writeAll, List.foldl_append, List.foldl_append]
  refine writeAll_congr post ?_
  dsimp only
  unfold copyTo
  rw [if_pos hle, if_pos hle, List.getD_eq_getElem _ _ (by omega),
    List.getD_eq_getElem _ _ (by omega)]

end Buffer

end ArchosGpl.Lib
