import Mathlib.Algebra.Group.Fin.Basic
import Mathlib.Data.Finset.Card
import Mathlib.Data.List.Nodup
import Mathlib.Tactic.Abel

/-!
# A ring of slots used in cyclic order

A producer takes the slots of a ring one after the other. A slot taken is **in flight** until its
work is done, in the order in which the slots were taken, or is **lost**. `InOrder cur inFlight
lost` says that the slots in flight are listed in the order of their use and that every slot used
since one of them is in flight or lost.
-/

namespace ArchosGpl.Lib.Ring

variable {n : ℕ} [NeZero n]

/-- How many slots before `cur` the slot `i` was used. -/
def behind (cur i : Fin n) : ℕ := (cur - i).val

omit [NeZero n] in
theorem behind_lt (cur i : Fin n) : behind cur i < n := (cur - i).isLt

@[simp] theorem behind_self (cur : Fin n) : behind cur cur = 0 := by
  simp [behind]

theorem behind_eq_zero {cur i : Fin n} : behind cur i = 0 ↔ i = cur := by
  rw [behind, Fin.val_eq_zero_iff, sub_eq_zero, eq_comm]

theorem behind_next {cur i : Fin n} (h : behind cur i + 1 < n) :
    behind (cur + 1) i = behind cur i + 1 := by
  have h1 : (1 : Fin n).val = 1 := by
    rw [Fin.val_one', Nat.mod_eq_of_lt (by omega)]
  have hadd : cur + 1 - i = cur - i + 1 := by abel
  unfold behind at h ⊢
  rw [hadd, Fin.val_add_eq_of_add_lt (by omega), h1]

theorem behind_ahead {cur i : Fin n} (k : ℕ) (h : behind cur i + k < n) :
    behind (cur + Fin.ofNat n k) i = behind cur i + k := by
  have hk : (Fin.ofNat n k).val = k := Nat.mod_eq_of_lt (by omega)
  have hadd : cur + Fin.ofNat n k - i = cur - i + Fin.ofNat n k := by abel
  unfold behind at h ⊢
  rw [hadd, Fin.val_add_eq_of_add_lt (by omega), hk]

theorem ahead_next (cur : Fin n) (k : ℕ) :
    cur + 1 + Fin.ofNat n k = cur + Fin.ofNat n (k + 1) := by
  rw [add_assoc]
  congr 1
  apply Fin.ext
  simp [Fin.val_add, Nat.add_comm]

theorem ahead_ne {cur : Fin n} {k : ℕ} (h : k + 1 < n) : cur + Fin.ofNat n (k + 1) ≠ cur := by
  intro he
  have hb : behind (cur + Fin.ofNat n (k + 1)) cur = _ := behind_ahead (k + 1) (by simpa using h)
  rw [he, behind_self] at hb
  omega

/-- Slots in flight in the order of their use; what was used since is in flight or lost. -/
structure InOrder (cur : Fin n) (inFlight lost : List (Fin n)) : Prop where
  sorted : inFlight.Pairwise fun i j => behind cur j < behind cur i
  used : ∀ i ∈ inFlight, 0 < behind cur i
  since : ∀ i ∈ inFlight, ∀ j, 0 < behind cur j → behind cur j ≤ behind cur i →
    j ∈ inFlight ++ lost

variable {cur i : Fin n} {inFlight lost : List (Fin n)}

omit [NeZero n] in
theorem InOrder.nil (cur : Fin n) (lost : List (Fin n)) : InOrder cur [] lost :=
  ⟨List.Pairwise.nil, by simp, by simp⟩

theorem InOrder.behind_le (h : InOrder cur inFlight lost) (hi : i ∈ inFlight) :
    behind cur i ≤ (inFlight ++ lost).length := by
  classical
  have hlt := behind_lt cur i
  let back : ℕ → Fin n := fun k => cur - Fin.ofNat n (k + 1)
  have hback : ∀ k < behind cur i, behind cur (back k) = k + 1 := by
    intro k hk
    rw [behind, sub_sub_cancel]
    exact Nat.mod_eq_of_lt (by omega)
  have hinj : Set.InjOn back (Finset.range (behind cur i)) := by
    intro j hj k hk he
    have hj' := hback j (Finset.mem_range.mp hj)
    have hk' := hback k (Finset.mem_range.mp hk)
    rw [he] at hj'
    omega
  have hsub : (Finset.range (behind cur i)).image back ⊆ (inFlight ++ lost).toFinset := by
    intro j hj
    obtain ⟨k, hk, rfl⟩ := Finset.mem_image.mp hj
    have hk := Finset.mem_range.mp hk
    have hb := hback k hk
    exact List.mem_toFinset.mpr (h.since i hi _ (by omega) (by omega))
  calc behind cur i = (Finset.range (behind cur i)).card := (Finset.card_range _).symm
    _ = ((Finset.range (behind cur i)).image back).card := (Finset.card_image_of_injOn hinj).symm
    _ ≤ (inFlight ++ lost).toFinset.card := Finset.card_le_card hsub
    _ ≤ (inFlight ++ lost).length := List.toFinset_card_le _

theorem InOrder.not_mem (h : InOrder cur inFlight lost) : cur ∉ inFlight := by
  intro hmem
  have := h.used _ hmem
  simp at this

theorem InOrder.behind_next (h : InOrder cur inFlight lost)
    (hlen : (inFlight ++ lost).length + 1 < n) (hi : i ∈ inFlight) :
    behind (cur + 1) i = behind cur i + 1 :=
  Ring.behind_next (by have := h.behind_le hi; omega)

/-- Every slot but the one after `cur` is one further behind when that is the current one. -/
theorem behind_next_of_ne {j : Fin n} (h : j ≠ cur + 1) : behind (cur + 1) j = behind cur j + 1 := by
  refine Ring.behind_next ?_
  by_contra hlt
  refine h (behind_eq_zero.mp ?_)
  have hlast : behind cur j + 1 = n := by
    have := behind_lt cur j
    omega
  have hadd : cur + 1 - j = cur - j + 1 := by abel
  unfold behind at hlast ⊢
  rw [hadd, Fin.val_add, Fin.val_one']
  simp [hlast]

theorem pos_next {j : Fin n} (h : 0 < behind (cur + 1) j) :
    j = cur ∨ 0 < behind cur j ∧ behind (cur + 1) j = behind cur j + 1 := by
  by_cases hj : j = cur
  · exact Or.inl hj
  · refine Or.inr ⟨Nat.pos_of_ne_zero fun h0 => hj (behind_eq_zero.mp h0), behind_next_of_ne ?_⟩
    rintro rfl
    simp at h

theorem InOrder.push (h : InOrder cur inFlight lost) (hlen : (inFlight ++ lost).length + 1 < n) :
    InOrder (cur + 1) (inFlight ++ [cur]) lost := by
  have hcur : behind (cur + 1) cur = 1 := by
    have hnext : behind (cur + 1) cur = behind cur cur + 1 :=
      Ring.behind_next (by simp; omega)
    simpa using hnext
  refine ⟨List.pairwise_append.mpr ⟨?_, List.pairwise_singleton _ _, ?_⟩, ?_, ?_⟩
  · refine h.sorted.imp_of_mem fun {a b} ha hb hab => ?_
    rw [h.behind_next hlen ha, h.behind_next hlen hb]
    omega
  · intro a ha b hb
    rw [List.mem_singleton.mp hb, hcur, h.behind_next hlen ha]
    have := h.used a ha
    omega
  · intro a ha
    rcases List.mem_append.mp ha with ha | ha
    · rw [h.behind_next hlen ha]
      omega
    · rw [List.mem_singleton.mp ha, hcur]
      omega
  · intro a ha j hj hja
    rcases pos_next hj with rfl | ⟨hpos, hnext⟩
    · simp
    · rcases List.mem_append.mp ha with ha | ha
      · rw [h.behind_next hlen ha] at hja
        have := h.since a ha j hpos (by omega)
        simp only [List.mem_append] at this ⊢
        tauto
      · rw [List.mem_singleton.mp ha, hcur] at hja
        omega

theorem InOrder.pushLost (h : InOrder cur inFlight lost)
    (hlen : (inFlight ++ lost).length + 1 < n) :
    InOrder (cur + 1) inFlight (lost ++ [cur]) := by
  refine ⟨?_, ?_, ?_⟩
  · refine h.sorted.imp_of_mem fun {a b} ha hb hab => ?_
    rw [h.behind_next hlen ha, h.behind_next hlen hb]
    omega
  · intro a ha
    rw [h.behind_next hlen ha]
    omega
  · intro a ha j hj hja
    rcases pos_next hj with rfl | ⟨hpos, hnext⟩
    · simp
    · rw [h.behind_next hlen ha] at hja
      have := h.since a ha j hpos (by omega)
      simp only [List.mem_append] at this ⊢
      tauto

omit [NeZero n] in
theorem InOrder.pop (h : InOrder cur (i :: inFlight) lost) {lost' : List (Fin n)}
    (hlost : lost ⊆ lost') : InOrder cur inFlight lost' := by
  obtain ⟨hi, hsorted⟩ := List.pairwise_cons.mp h.sorted
  refine ⟨hsorted, fun a ha => h.used a (List.mem_cons_of_mem _ ha), ?_⟩
  intro a ha j hj hja
  have hmem := h.since a (List.mem_cons_of_mem _ ha) j hj hja
  rcases List.mem_append.mp hmem with hmem | hmem
  · rcases List.mem_cons.mp hmem with rfl | hmem
    · have := hi a ha
      omega
    · exact List.mem_append_left _ hmem
  · exact List.mem_append_right _ (hlost hmem)

end ArchosGpl.Lib.Ring
