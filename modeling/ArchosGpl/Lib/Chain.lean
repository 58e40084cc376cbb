import Mathlib.Data.List.Basic

/-!
# Elements one behind the other

In a buffer that ends at `stop` the element at an offset `o` takes `size o` bytes. `chain` are the
offsets of the elements from an offset on, up to the first one that does not lie wholly inside, and
`firstStop` is the offset at which a search for a hit ends: that of the first hit, or where the
elements end. **`find?_chain`**: the hit is found there or nowhere.
-/

namespace ArchosGpl.Lib.Chain

variable (size : ℕ → ℕ) (hit : ℕ → Bool) (stop : ℕ)

/-- The offsets of the elements from an offset on. -/
def chain : ℕ → ℕ → List ℕ
  | 0, _ => []
  | fuel + 1, o => if o + size o ≤ stop then o :: chain fuel (o + size o) else []

/-- The offset at which a search from an offset on ends. -/
def firstStop : ℕ → ℕ → ℕ
  | 0, o => o
  | fuel + 1, o => if o + size o ≤ stop ∧ hit o = false then firstStop fuel (o + size o) else o

variable {size hit stop} {fuel o : ℕ}

theorem firstStop_next (h : o + size o ≤ stop) (hmiss : hit o = false) :
    firstStop size hit stop (fuel + 1) o = firstStop size hit stop fuel (o + size o) :=
  if_pos ⟨h, hmiss⟩

theorem firstStop_here (h : ¬(o + size o ≤ stop ∧ hit o = false)) :
    firstStop size hit stop fuel o = o := by
  cases fuel with
  | zero => rfl
  | succ fuel => exact if_neg h

/-- **The first hit** is where the search ends, or there is none. -/
theorem find?_chain (hsize : ∀ o, 0 < size o) (hfuel : stop - o ≤ fuel) :
    (chain size stop fuel o).find? hit =
      if firstStop size hit stop fuel o + size (firstStop size hit stop fuel o) ≤ stop ∧
          hit (firstStop size hit stop fuel o) = true then
        some (firstStop size hit stop fuel o)
      else none := by
  induction fuel generalizing o with
  | zero =>
    have ho := hsize o
    rw [firstStop, if_neg (by omega), chain, List.find?_nil]
  | succ fuel ih =>
    have ho := hsize o
    by_cases hin : o + size o ≤ stop
    · rw [chain, if_pos hin]
      cases hhit : hit o with
      | true =>
        rw [List.find?_cons_of_pos hhit, firstStop_here (by simp [hhit]), if_pos ⟨hin, hhit⟩]
      | false =>
        rw [List.find?_cons_of_neg (by simp [hhit]), firstStop_next hin hhit]
        exact ih (by omega)
    · rw [chain, if_neg hin, firstStop_here fun h => hin h.1, if_neg fun h => hin h.1,
        List.find?_nil]

end ArchosGpl.Lib.Chain
