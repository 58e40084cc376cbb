import Mathlib.Algebra.BigOperators.Group.Finset.Basic
import Mathlib.Algebra.Order.Group.Multiset
import Mathlib.Data.Multiset.Range
import Mathlib.Tactic.Abel

/-!
# A station with several queues and one server

Items arrive, numbered in the order of arrival, at one of several queues or are turned away. The
server takes the first item of a queue in hand; it serves the item, puts it back in front of its
queue, or loses it. `Move` is one such step.

`Sound` says that **every item that arrived is in exactly one place** (`account`), and that **the
items of one queue are served in the order of their arrival** (`order`). Every move keeps it
(`Sound.move`).
-/

open Function (update update_of_ne update_self)

namespace ArchosGpl.Lib

/-- The items in the queues, in the server's hand, served, and gone, and how many arrived. -/
@[ext] structure Station (Q : Type*) where
  queue : Q → List ℕ
  hand : Option (Q × ℕ)
  served : List (Q × ℕ)
  gone : Multiset ℕ
  arrived : ℕ

namespace Station

variable {Q : Type*} [DecidableEq Q]

/-- What can happen at the station. -/
inductive Move (s : Station Q) : Station Q → Prop
  | arrive (q : Q) : Move s { s with
      queue := update s.queue q (s.queue q ++ [s.arrived])
      arrived := s.arrived + 1 }
  | reject : Move s { s with gone := s.arrived ::ₘ s.gone, arrived := s.arrived + 1 }
  | take {q : Q} {n : ℕ} {rest : List ℕ} (hand : s.hand = none) (queue : s.queue q = n :: rest) :
      Move s { s with queue := update s.queue q rest, hand := some (q, n) }
  | serve {q : Q} {n : ℕ} (hand : s.hand = some (q, n)) :
      Move s { s with hand := none, served := s.served ++ [(q, n)] }
  | putBack {q : Q} {n : ℕ} (hand : s.hand = some (q, n)) :
      Move s { s with queue := update s.queue q (n :: s.queue q), hand := none }
  | lose {q : Q} {n : ℕ} (hand : s.hand = some (q, n)) :
      Move s { s with hand := none, gone := n ::ₘ s.gone }

/-- The items of a queue that were served. -/
def servedOf (s : Station Q) (q : Q) : List ℕ := (s.served.filter fun x => x.1 = q).map Prod.snd

/-- The item of a queue in hand. -/
def handOf (s : Station Q) (q : Q) : List ℕ :=
  (s.hand.toList.filter fun x => x.1 = q).map Prod.snd

/-- Every item that arrived is in one place, and each queue is served in order. -/
structure Sound [Fintype Q] (s : Station Q) : Prop where
  account : (∑ q, (s.queue q : Multiset ℕ)) + (s.hand.toList.map Prod.snd : Multiset ℕ) +
    (s.served.map Prod.snd : Multiset ℕ) + s.gone = Multiset.range s.arrived
  order : ∀ q, (s.servedOf q ++ s.handOf q ++ s.queue q).Pairwise (· < ·)

section Queue

variable {s : Station Q} {q : Q} {n : ℕ}

theorem handOf_some (h : s.hand = some (q, n)) (r : Q) :
    s.handOf r = if q = r then [n] else [] := by
  rw [handOf, h]
  by_cases hqr : q = r <;> simp [hqr]

theorem handOf_none (h : s.hand = none) (r : Q) : s.handOf r = [] := by
  rw [handOf, h]
  rfl

theorem servedOf_snoc (r : Q) : ((s.served ++ [(q, n)]).filter fun x => x.1 = r).map Prod.snd =
    s.servedOf r ++ if q = r then [n] else [] := by
  rw [List.filter_append, List.map_append, servedOf]
  by_cases hqr : q = r <;> simp [hqr]

end Queue

section Sum

variable [Fintype Q]

theorem sum_update (f : Q → List ℕ) (q : Q) (l : List ℕ) :
    (∑ r, (update f q l r : Multiset ℕ)) + (f q : Multiset ℕ) =
      (∑ r, (f r : Multiset ℕ)) + (l : Multiset ℕ) := by
  have hother : ∀ r ∈ Finset.univ.erase q, (update f q l r : Multiset ℕ) = f r :=
    fun r hr => by rw [update_of_ne (Finset.ne_of_mem_erase hr)]
  rw [← Finset.add_sum_erase _ _ (Finset.mem_univ q), Finset.sum_congr rfl hother,
    update_self, ← Finset.add_sum_erase _ (fun r => (f r : Multiset ℕ)) (Finset.mem_univ q)]
  abel

theorem sum_update_perm (f : Q → List ℕ) {q : Q} {l : List ℕ} {n : ℕ} (h : l.Perm (n :: f q)) :
    ∑ r, (update f q l r : Multiset ℕ) = (∑ r, (f r : Multiset ℕ)) + {n} := by
  have hsum := sum_update f q l
  rw [Multiset.coe_eq_coe.mpr h, ← Multiset.cons_coe, ← Multiset.singleton_add] at hsum
  refine add_right_cancel (b := (f q : Multiset ℕ)) ?_
  rw [hsum]
  abel

theorem sum_update_tail (f : Q → List ℕ) {q : Q} {rest : List ℕ} {n : ℕ} (h : f q = n :: rest) :
    (∑ r, (update f q rest r : Multiset ℕ)) + {n} = ∑ r, (f r : Multiset ℕ) := by
  have hsum := sum_update f q rest
  rw [h, ← Multiset.cons_coe, ← Multiset.singleton_add] at hsum
  refine add_right_cancel (b := (rest : Multiset ℕ)) ?_
  rw [← hsum]
  abel

end Sum

variable [Fintype Q] {s s' : Station Q} {q : Q} {n : ℕ}

theorem Sound.empty : Sound (⟨fun _ => [], none, [], 0, 0⟩ : Station Q) where
  account := by simp
  order _ := List.Pairwise.nil

theorem Sound.lt_arrived (h : s.Sound) (q : Q) :
    ∀ n ∈ s.servedOf q ++ s.handOf q ++ s.queue q, n < s.arrived := by
  intro n hn
  rw [← Multiset.mem_range, ← h.account]
  simp only [List.mem_append] at hn
  simp only [Multiset.mem_add]
  rcases hn with (hn | hn) | hn
  · obtain ⟨x, hx, rfl⟩ := List.mem_map.mp hn
    exact Or.inl (Or.inr (Multiset.mem_coe.mpr (List.mem_map_of_mem (List.mem_of_mem_filter hx))))
  · obtain ⟨x, hx, rfl⟩ := List.mem_map.mp hn
    exact Or.inl (Or.inl (Or.inr
      (Multiset.mem_coe.mpr (List.mem_map_of_mem (List.mem_of_mem_filter hx)))))
  · refine Or.inl (Or.inl (Or.inl (Multiset.mem_sum.mpr ⟨q, Finset.mem_univ q, ?_⟩)))
    exact Multiset.mem_coe.mpr hn

/-- **A move keeps the items.** -/
theorem Sound.move (h : s.Sound) (hm : Move s s') : s'.Sound := by
  have haccount := h.account
  cases hm with
  | arrive q =>
    refine ⟨?_, fun r => ?_⟩
    · rw [sum_update_perm s.queue (List.perm_append_singleton s.arrived (s.queue q)),
        Multiset.range_succ, ← haccount, ← Multiset.singleton_add]
      abel
    · have horder := h.order r
      by_cases hr : r = q
      · subst hr
        simp only [update_self]
        rw [← List.append_assoc]
        refine List.pairwise_append.mpr ⟨horder, List.pairwise_singleton _ _, fun a ha b hb => ?_⟩
        rw [List.mem_singleton.mp hb]
        exact h.lt_arrived r a ha
      · simp only [update_of_ne hr]
        exact horder
  | reject =>
    refine ⟨?_, h.order⟩
    rw [Multiset.range_succ, ← haccount, ← Multiset.singleton_add, ← Multiset.singleton_add]
    dsimp only
    abel
  | @take q n rest hand queue =>
    rw [hand] at haccount
    refine ⟨?_, fun r => ?_⟩
    · rw [← haccount, ← sum_update_tail s.queue queue]
      simp only [Option.toList_some, List.map_cons, List.map_nil, Option.toList_none,
        Multiset.coe_singleton, Multiset.coe_nil, add_zero]
    · have horder := h.order r
      rw [handOf_none hand, List.append_nil] at horder
      rw [handOf_some (q := q) (n := n) rfl]
      by_cases hr : q = r
      · subst hr
        rw [queue] at horder
        simp only [update_self, if_true, List.append_assoc, List.singleton_append]
        exact horder
      · simp only [update_of_ne (Ne.symm hr), if_neg hr, List.append_nil]
        exact horder
  | @serve q n hand =>
    rw [hand] at haccount
    refine ⟨?_, fun r => ?_⟩
    · rw [← haccount, List.map_append, ← Multiset.coe_add]
      simp only [Option.toList_some, List.map_cons, List.map_nil, Option.toList_none,
        Multiset.coe_singleton, Multiset.coe_nil, add_zero]
      abel
    · have horder := h.order r
      rw [handOf_some hand] at horder
      rw [handOf_none rfl, servedOf, servedOf_snoc, List.append_nil]
      exact horder
  | @putBack q n hand =>
    rw [hand] at haccount
    refine ⟨?_, fun r => ?_⟩
    · rw [← haccount, sum_update_perm s.queue (List.Perm.refl _)]
      simp only [Option.toList_some, List.map_cons, List.map_nil, Option.toList_none,
        Multiset.coe_singleton, Multiset.coe_nil, add_zero]
    · have horder := h.order r
      rw [handOf_some hand] at horder
      rw [handOf_none rfl, List.append_nil]
      by_cases hr : q = r
      · subst hr
        simp only [if_true, List.append_assoc, List.singleton_append] at horder
        simp only [update_self]
        exact horder
      · simp only [if_neg hr, List.append_nil] at horder
        simp only [update_of_ne (Ne.symm hr)]
        exact horder
  | @lose q n hand =>
    rw [hand] at haccount
    refine ⟨?_, fun r => ?_⟩
    · rw [← haccount, ← Multiset.singleton_add]
      simp only [Option.toList_some, List.map_cons, List.map_nil, Option.toList_none,
        Multiset.coe_singleton, Multiset.coe_nil, add_zero]
      abel
    · have horder := h.order r
      rw [handOf_none rfl, List.append_nil]
      refine horder.sublist ?_
      exact List.Sublist.append_right (List.sublist_append_left _ _) _

end Station

end ArchosGpl.Lib
