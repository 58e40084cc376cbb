import Mathlib.Data.List.Range

/-!
# Walking a table with a cursor kept in the state

A table has `n` slots, some in use, and one cursor. `first` puts the cursor on the first slot in
use, `next` on the one after it; a walk visits what they give until they give nothing. The visits
may change the table, and a visit that walks the table itself leaves the cursor at its end, so that
the outer walk ends early.

The rule is **`Cursor.Rule.walk`**: what skipping a free slot and visiting one in use keep holds at
the end for all slots, unless a visit ended the walk. `Cursor.along` says that every visit starts
from a state of a kind.
-/

namespace ArchosGpl.Lib

/-! ## The next slot in use -/

/-- The first slot from `i` on that is in use. -/
def nextSlot (inuse : ℕ → Bool) (n i : ℕ) : Option ℕ :=
  (List.range n).find? fun j => decide (i ≤ j) && inuse j

variable {inuse : ℕ → Bool} {n i k : ℕ}

theorem nextSlot_eq_some (h : nextSlot inuse n i = some k) :
    i ≤ k ∧ k < n ∧ inuse k = true ∧ ∀ j, i ≤ j → j < k → inuse j = false := by
  obtain ⟨hk, hmem, hlt⟩ := List.find?_range_eq_some.mp h
  rw [Bool.and_eq_true, decide_eq_true_eq] at hk
  refine ⟨hk.1, List.mem_range.mp hmem, hk.2, fun j hij hjk => ?_⟩
  have := hlt j hjk
  simpa [hij] using this

theorem nextSlot_eq_none (h : nextSlot inuse n i = none) {j : ℕ} (hij : i ≤ j) (hj : j < n) :
    inuse j = false := by
  have := List.find?_eq_none.mp h j (List.mem_range.mpr hj)
  simpa [hij] using this

/-! ## The walk -/

/-- How a state holds a table with a cursor. -/
structure Cursor (σ : Type*) where
  size : ℕ
  inuse : σ → ℕ → Bool
  cursor : σ → ℕ
  moved : ℕ → σ → σ

namespace Cursor

variable {σ : Type*} (c : Cursor σ)

def first (s : σ) : Option (ℕ × σ) :=
  (nextSlot (c.inuse s) c.size 0).map fun k => (k, c.moved k s)

def next (s : σ) : Option (ℕ × σ) :=
  (nextSlot (c.inuse s) c.size (c.cursor s + 1)).map fun k => (k, c.moved k s)

/-- Visit what `next` gives until it gives nothing, `fuel` slots at most. -/
def walkOn (visit : ℕ → σ → σ) : ℕ → σ → σ
  | 0, s => s
  | fuel + 1, s =>
    match c.next s with
    | none => s
    | some (k, s') => walkOn visit fuel (visit k s')

/-- Visit the slots in use, from the first one on. -/
def walk (visit : ℕ → σ → σ) (s : σ) : σ :=
  match c.first s with
  | none => s
  | some (k, s') => c.walkOn visit c.size (visit k s')

/-- Each of the visits of `walkOn` starts from a state in `P`. -/
def alongOn (visit : ℕ → σ → σ) (P : ℕ → σ → Prop) : ℕ → σ → Prop
  | 0, _ => True
  | fuel + 1, s =>
    match c.next s with
    | none => True
    | some (k, s') => P k s' ∧ alongOn visit P fuel (visit k s')

/-- Each visit of the walk starts from a state in `P`. -/
def along (visit : ℕ → σ → σ) (P : ℕ → σ → Prop) (s : σ) : Prop :=
  match c.first s with
  | none => True
  | some (k, s') => P k s' ∧ c.alongOn visit P c.size (visit k s')

instance alongOn.decidable (visit : ℕ → σ → σ) (P : ℕ → σ → Prop) [∀ k s, Decidable (P k s)] :
    (fuel : ℕ) → (s : σ) → Decidable (c.alongOn visit P fuel s)
  | 0, _ => isTrue trivial
  | fuel + 1, s =>
    match h : c.next s with
    | none => isTrue (by simp [alongOn, h])
    | some (k, s') =>
      have := alongOn.decidable visit P fuel (visit k s')
      decidable_of_iff (P k s' ∧ c.alongOn visit P fuel (visit k s')) (by simp [alongOn, h])

instance along.decidable (visit : ℕ → σ → σ) (P : ℕ → σ → Prop) [∀ k s, Decidable (P k s)] (s : σ) :
    Decidable (c.along visit P s) :=
  match h : c.first s with
  | none => isTrue (by simp [along, h])
  | some (k, s') =>
    decidable_of_iff (P k s' ∧ c.alongOn visit P c.size (visit k s')) (by simp [along, h])

variable {c} {v : ℕ → σ → σ} {I P : ℕ → σ → Prop} {D : σ → Prop}

theorem skip_to (skip : ∀ j s, I j s → j < c.size → c.inuse s j = false → I (j + 1) s) {s : σ}
    {i k : ℕ} (hik : i ≤ k) (hk : k ≤ c.size) (hfree : ∀ j, i ≤ j → j < k → c.inuse s j = false)
    (hi : I i s) : I k s := by
  induction k, hik using Nat.le_induction with
  | base => exact hi
  | succ k hik ih =>
    have hI := ih (by omega) fun j hij hjk => hfree j hij (by omega)
    exact skip k s hI (by omega) (hfree k hik (by omega))

theorem walkOn_of_next_eq_none {s : σ} (h : c.next s = none) (fuel : ℕ) :
    c.walkOn v fuel s = s := by
  cases fuel with
  | zero => rfl
  | succ fuel => rw [walkOn, h]

/-- What `skip` and `v` keep of `I`, unless the visit ends the walk with `D`. -/
structure Rule (c : Cursor σ) (v : ℕ → σ → σ) (P I : ℕ → σ → Prop) (D : σ → Prop) : Prop where
  skip : ∀ j s, I j s → j < c.size → c.inuse s j = false → I (j + 1) s
  step : ∀ k s, I k s → k < c.size → c.inuse s k = true → P k (c.moved k s) →
    (I (k + 1) (v k (c.moved k s)) ∧ c.cursor (v k (c.moved k s)) = k) ∨
      (D (v k (c.moved k s)) ∧ c.next (v k (c.moved k s)) = none)

theorem Rule.walkOn (r : Rule c v P I D) {fuel : ℕ} {s : σ} (hI : I (c.cursor s + 1) s)
    (hle : c.cursor s + 1 ≤ c.size) (hfuel : c.size ≤ fuel + (c.cursor s + 1))
    (ha : c.alongOn v P fuel s) :
    I c.size (c.walkOn v fuel s) ∨ D (c.walkOn v fuel s) := by
  induction fuel generalizing s with
  | zero =>
    have : c.cursor s + 1 = c.size := by omega
    rw [this] at hI
    exact Or.inl hI
  | succ fuel ih =>
    rw [Cursor.walkOn, next]
    rw [alongOn, next] at ha
    cases hn : nextSlot (c.inuse s) c.size (c.cursor s + 1) with
    | none =>
      exact Or.inl (skip_to r.skip hle le_rfl (fun j hj hjn => nextSlot_eq_none hn hj hjn) hI)
    | some k =>
      simp only [hn, Option.map_some] at ha ⊢
      obtain ⟨hle', hlt, huse, hfree⟩ := nextSlot_eq_some hn
      rcases r.step k s (skip_to r.skip hle' hlt.le hfree hI) hlt huse ha.1 with
        ⟨hI', hc⟩ | ⟨hD, hend⟩
      · exact ih (by rwa [hc]) (by omega) (by omega) ha.2
      · rw [walkOn_of_next_eq_none hend]
        exact Or.inr hD

/-- **The rule of a walk**: what skipping a free slot and visiting a slot in use keep holds at the
end for all slots, unless a visit ended the walk, with `D`. -/
theorem Rule.walk (r : Rule c v P I D) {s : σ} (hI : I 0 s) (ha : c.along v P s) :
    I c.size (c.walk v s) ∨ D (c.walk v s) := by
  rw [Cursor.walk, first]
  rw [along, first] at ha
  cases hn : nextSlot (c.inuse s) c.size 0 with
  | none =>
    exact Or.inl
      (skip_to r.skip (Nat.zero_le _) le_rfl (fun j hj hjn => nextSlot_eq_none hn hj hjn) hI)
  | some k =>
    simp only [hn, Option.map_some] at ha ⊢
    obtain ⟨hle, hlt, huse, hfree⟩ := nextSlot_eq_some hn
    rcases r.step k s (skip_to r.skip hle hlt.le hfree hI) hlt huse ha.1 with ⟨hI', hc⟩ | ⟨hD, hend⟩
    · exact r.walkOn (by rwa [hc]) (by omega) (by omega) ha.2
    · rw [walkOn_of_next_eq_none hend]
      exact Or.inr hD

theorem walk_invariant {P : σ → Prop}
    (step : ∀ k s, P s → k < c.size → c.inuse s k = true → P (v k (c.moved k s))) {s : σ}
    (hP : P s) : P (c.walk v s) := by
  have hon : ∀ fuel s, P s → P (c.walkOn v fuel s) := by
    intro fuel
    induction fuel with
    | zero => exact fun s hs => hs
    | succ fuel ih =>
      intro s hs
      rw [walkOn, next]
      cases hn : nextSlot (c.inuse s) c.size (c.cursor s + 1) with
      | none => exact hs
      | some k =>
        obtain ⟨-, hlt, huse, -⟩ := nextSlot_eq_some hn
        exact ih _ (step k s hs hlt huse)
  rw [walk, first]
  cases hn : nextSlot (c.inuse s) c.size 0 with
  | none => exact hP
  | some k =>
    obtain ⟨-, hlt, huse, -⟩ := nextSlot_eq_some hn
    exact hon _ _ (step k s hP hlt huse)

theorem along_true (v : ℕ → σ → σ) (s : σ) : c.along v (fun _ _ => True) s := by
  have hon : ∀ fuel s, c.alongOn v (fun _ _ => True) fuel s := by
    intro fuel
    induction fuel with
    | zero => exact fun _ => trivial
    | succ fuel ih =>
      intro s
      rw [alongOn]
      split
      · trivial
      · exact ⟨trivial, ih _⟩
  rw [along]
  split
  · trivial
  · exact ⟨trivial, hon _ _⟩

theorem walk_all (skip : ∀ j s, I j s → j < c.size → c.inuse s j = false → I (j + 1) s)
    (step : ∀ k s, I k s → k < c.size → c.inuse s k = true →
      I (k + 1) (v k (c.moved k s)) ∧ c.cursor (v k (c.moved k s)) = k)
    {s : σ} (hI : I 0 s) : I c.size (c.walk v s) := by
  have r : Rule c v (fun _ _ => True) I fun _ => False :=
    ⟨skip, fun k s hI hk hu _ => Or.inl (step k s hI hk hu)⟩
  exact (r.walk hI (along_true v s)).resolve_right id

theorem next_walk (hvisit : ∀ k s, c.cursor (v k (c.moved k s)) = k) (s : σ) :
    c.next (c.walk v s) = none := by
  have h : ∀ i < c.size, c.inuse (c.walk v s) i = true → i ≤ c.cursor (c.walk v s) :=
    walk_all (I := fun j s => ∀ i < j, c.inuse s i = true → i ≤ c.cursor s)
    (fun j s hI _ hfree i hi hu => by
      rcases Nat.lt_succ_iff_lt_or_eq.mp hi with hi | rfl
      · exact hI i hi hu
      · rw [hfree] at hu
        cases hu)
    (fun k s _ _ _ => ⟨fun i hi _ => by
      rw [hvisit k s]
      omega, hvisit k s⟩)
    (s := s) (fun i hi => absurd hi (Nat.not_lt_zero i))
  rw [next]
  cases hn : nextSlot (c.inuse (c.walk v s)) c.size (c.cursor (c.walk v s) + 1) with
  | none => rfl
  | some k =>
    obtain ⟨hle, hlt, huse, -⟩ := nextSlot_eq_some hn
    have := h k hlt huse
    omega

end Cursor

end ArchosGpl.Lib
