import Mathlib.Data.List.Nodup
import Mathlib.Logic.Function.Basic

/-!
# Linked lists

`Linked next p l` says that the pointer `p` leads along `next` through the nodes `l`, in this order,
to the end of the list.

* `Linked.nodup`: **a list that has an end repeats no node**, so `Linked` says that it is acyclic.
* `Linked.insert_after`: **a node is put behind another one** by two links.
-/

open Function (update update_of_ne update_self)

namespace ArchosGpl.Lib

variable {κ : Type*} {next next' : κ → Option κ} {p : Option κ} {a b : κ} {l l' : List κ}

/-- The nodes that a pointer leads through, up to the end. -/
inductive Linked (next : κ → Option κ) : Option κ → List κ → Prop
  | nil : Linked next none []
  | cons {a : κ} {l : List κ} (h : Linked next (next a) l) : Linked next (some a) (a :: l)

namespace Linked

theorem tail (h : Linked next p (a :: l)) : p = some a ∧ Linked next (next a) l := by
  cases h with
  | cons h => exact ⟨rfl, h⟩

theorem eq_nil_iff (h : Linked next p l) : l = [] ↔ p = none := by
  cases h <;> simp

theorem unique (h : Linked next p l) (h' : Linked next p l') : l = l' := by
  induction h generalizing l' with
  | nil =>
    cases h'
    rfl
  | cons h ih =>
    cases h' with
    | cons h' => rw [ih h']

theorem of_mem (h : Linked next p l) (ha : a ∈ l) :
    ∃ l', Linked next (some a) l' ∧ l'.length ≤ l.length := by
  induction h with
  | nil => cases ha
  | @cons b l h ih =>
    rcases List.mem_cons.mp ha with rfl | ha
    · exact ⟨_, .cons h, Nat.le_refl _⟩
    · obtain ⟨l', hl', hle⟩ := ih ha
      exact ⟨l', hl', Nat.le_trans hle (Nat.le_succ _)⟩

/-- **A list that has an end repeats no node.** -/
theorem nodup (h : Linked next p l) : l.Nodup := by
  induction h with
  | nil => exact List.nodup_nil
  | @cons a l h ih =>
    refine List.nodup_cons.mpr ⟨fun ha => ?_, ih⟩
    obtain ⟨l', hl', hle⟩ := h.of_mem ha
    obtain rfl := hl'.unique (.cons h)
    exact absurd hle (Nat.not_succ_le_self _)

theorem congr (h : Linked next p l) (hn : ∀ a ∈ l, next' a = next a) : Linked next' p l := by
  induction h with
  | nil => exact .nil
  | @cons a l h ih =>
    obtain ⟨ha, hl⟩ := List.forall_mem_cons.mp hn
    exact .cons (ha ▸ ih hl)

/-- **A node is put behind another one** by two links. -/
theorem insert_after [DecidableEq κ] (h : Linked next p l) (ha : a ∈ l) (hb : b ∉ l) :
    ∃ l', l'.Perm (b :: l) ∧
      Linked (update (update next b (next a)) a (some b)) p l' := by
  induction h with
  | nil => cases ha
  | @cons c l h ih =>
    obtain ⟨hcl, -⟩ := List.nodup_cons.mp (Linked.cons h).nodup
    obtain ⟨hbc, hbl⟩ := not_or.mp (List.mem_cons.not.mp hb)
    by_cases hac : a = c
    · subst hac
      refine ⟨a :: b :: l, .swap b a l, .cons ?_⟩
      rw [update_self]
      refine .cons ?_
      rw [update_of_ne hbc, update_self]
      refine h.congr fun x hx => ?_
      rw [update_of_ne (by rintro rfl; exact hcl hx),
        update_of_ne (by rintro rfl; exact hbl hx)]
    · obtain ⟨l', hperm, hl'⟩ := ih ((List.mem_cons.mp ha).resolve_left hac) hbl
      refine ⟨c :: l', (hperm.cons c).trans (.swap b c l), .cons ?_⟩
      rwa [update_of_ne (Ne.symm hac), update_of_ne (Ne.symm hbc)]

theorem ne_self (h : Linked next p l) (ha : a ∈ l) : next a ≠ some a := by
  intro hself
  obtain ⟨l', hl', -⟩ := h.of_mem ha
  cases hl' with
  | cons hl' =>
    have hcons : Linked next (some a) (a :: _) := .cons hl'
    exact absurd (congrArg List.length (hcons.unique (hself ▸ hl'))) (Nat.succ_ne_self _)

theorem not_of_closed {S : κ → Prop} (hS : ∀ a, S a → ∃ b, S b ∧ next a = some b) (ha : S a) :
    ¬ Linked next (some a) l := by
  intro h
  induction l generalizing a with
  | nil => cases h
  | cons c l ih =>
    obtain ⟨hc, h⟩ := h.tail
    obtain rfl := Option.some.inj hc
    obtain ⟨b, hb, hnext⟩ := hS _ ha
    exact ih hb (hnext ▸ h)

theorem next_eq_none_iff (h : Linked next p (l ++ [b])) (ha : a ∈ l ++ [b]) :
    next a = none ↔ a = b := by
  induction l generalizing p with
  | nil =>
    obtain rfl := List.mem_singleton.mp ha
    obtain ⟨-, h⟩ := h.tail
    exact ⟨fun _ => rfl, fun _ => h.eq_nil_iff.mp rfl⟩
  | cons c l ih =>
    have hnodup := h.nodup
    obtain ⟨-, h⟩ := h.tail
    rcases List.mem_cons.mp ha with rfl | ha
    · have hne : a ≠ b := by
        rintro rfl
        exact (List.nodup_cons.mp hnodup).1 (List.mem_append_right l (List.mem_singleton_self a))
      refine ⟨fun hnone => ?_, fun hab => absurd hab hne⟩
      exact absurd (h.eq_nil_iff.mpr hnone) (List.append_ne_nil_of_right_ne_nil l (by simp))
    · exact ih h ha

end Linked

end ArchosGpl.Lib
