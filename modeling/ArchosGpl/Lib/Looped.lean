import Mathlib.Data.List.Iterate
import Mathlib.Data.List.Nodup
import Mathlib.Logic.Function.Basic

/-!
# Rings of single links

`Looped next p l`: the links `next` lead from `p` through `l` and back to `p`, with no node twice.

* **The walk from the first node** gives the nodes (`Looped.iterate_eq`), and so does the walk that
  ends at the last one (`Looped.walkUntil_eq`), if it is given as many steps as there are nodes.
* **Two links put a node behind the last one** (`Looped.snoc`).
-/

open Function (update update_of_ne)

namespace ArchosGpl.Lib

variable {κ : Type*} {next next' : κ → κ} {p q x : κ} {l : List κ} {k : ℕ}

/-- A ring from `p` on. -/
structure Looped (next : κ → κ) (p : κ) (l : List κ) : Prop where
  nodup : (p :: l).Nodup
  links : (p :: l).map next = l ++ [p]

def lastOf (p : κ) (l : List κ) : κ := (p :: l).getLast (List.cons_ne_nil p l)

@[simp] theorem lastOf_nil (p : κ) : lastOf p [] = p := rfl

@[simp] theorem lastOf_cons (p x : κ) (l : List κ) : lastOf p (x :: l) = lastOf x l :=
  List.getLast_cons (List.cons_ne_nil x l)

@[simp] theorem lastOf_snoc (p x : κ) (l : List κ) : lastOf p (l ++ [x]) = x := by
  rw [lastOf, List.getLast_congr _ (List.append_ne_nil_of_right_ne_nil (p :: l)
    (List.cons_ne_nil x [])) (List.cons_append ..).symm, List.getLast_concat]

theorem lastOf_mem (p : κ) (l : List κ) : lastOf p l ∈ p :: l := List.getLast_mem _

theorem ne_last_of_notMem {y : κ} (hp : p ∉ y :: l) : p ≠ lastOf y l := by
  rintro rfl
  exact hp (lastOf_mem y l)

/-- The walk along the links that ends at `last`, of at most so many nodes. -/
def walkUntil [DecidableEq κ] (next : κ → κ) (last : κ) : ℕ → κ → List κ
  | 0, _ => []
  | k + 1, p => p :: if p = last then [] else walkUntil next last k (next p)

theorem iterate_of_links (h : (p :: l).map next = l ++ [q]) :
    List.iterate next p (l.length + 1) = p :: l := by
  induction l generalizing p with
  | nil => rfl
  | cons x l ih =>
    obtain ⟨rfl, hl⟩ := List.cons.inj h
    rw [List.length_cons, List.iterate, ih hl]

theorem last_of_links (h : (p :: l).map next = l ++ [q]) : next (lastOf p l) = q := by
  induction l generalizing p with
  | nil => exact (List.cons.inj h).1
  | cons x l ih =>
    obtain ⟨-, hl⟩ := List.cons.inj h
    rw [lastOf_cons]
    exact ih hl

theorem walkUntil_of_links [DecidableEq κ] (hn : (p :: l).Nodup) (h : (p :: l).map next = l ++ [q])
    (hk : l.length < k) : walkUntil next (lastOf p l) k p = p :: l := by
  induction l generalizing p k with
  | nil =>
    obtain ⟨k, rfl⟩ := Nat.exists_eq_add_one_of_ne_zero (n := k) (by omega)
    rw [walkUntil, lastOf_nil, if_pos rfl]
  | cons x l ih =>
    obtain ⟨k, rfl⟩ := Nat.exists_eq_add_one_of_ne_zero (n := k) (by omega)
    obtain ⟨rfl, hl⟩ := List.cons.inj h
    obtain ⟨hp, hn⟩ := List.nodup_cons.mp hn
    have hlast : p ≠ lastOf (next p) l := ne_last_of_notMem hp
    rw [walkUntil, lastOf_cons, if_neg hlast, ih hn hl (Nat.lt_of_succ_lt_succ hk)]

theorem links_snoc [DecidableEq κ] (hn : (p :: l).Nodup) (h : (p :: l).map next = l ++ [q])
    (hx : x ∉ p :: l) (r : κ) :
    (p :: (l ++ [x])).map (update (update next (lastOf p l) x) x r) =
      (l ++ [x]) ++ [r] := by
  induction l generalizing p with
  | nil =>
    have hne : p ≠ x := fun hc => hx (hc ▸ List.mem_singleton_self p)
    simp [update_of_ne hne]
  | cons y l ih =>
    obtain ⟨rfl, hl⟩ := List.cons.inj h
    obtain ⟨hp, hn⟩ := List.nodup_cons.mp hn
    obtain ⟨hpx, hx⟩ := not_or.mp (mt List.mem_cons.mpr hx)
    have hlast : p ≠ lastOf (next p) l := ne_last_of_notMem hp
    rw [List.cons_append, List.map_cons, lastOf_cons, ih hn hl hx,
      update_of_ne (Ne.symm hpx), update_of_ne hlast]
    rfl

namespace Looped

theorem single (h : next p = p) : Looped next p [] :=
  ⟨List.nodup_singleton p, by rw [List.map_singleton, h]; rfl⟩

theorem congr (h : Looped next p l) (hn : ∀ x ∈ p :: l, next' x = next x) : Looped next' p l :=
  ⟨h.nodup, by rw [List.map_congr_left hn, h.links]⟩

theorem iterate_eq (h : Looped next p l) : List.iterate next p (l.length + 1) = p :: l :=
  iterate_of_links h.links

theorem next_last (h : Looped next p l) : next (lastOf p l) = p := last_of_links h.links

theorem walkUntil_eq [DecidableEq κ] (h : Looped next p l) (hk : l.length < k) :
    walkUntil next (lastOf p l) k p = p :: l :=
  walkUntil_of_links h.nodup h.links hk

/-- **A node is linked in** behind the last one. -/
theorem snoc [DecidableEq κ] (h : Looped next p l) (hx : x ∉ p :: l) :
    Looped (update (update next (lastOf p l) x) x p) p (l ++ [x]) where
  nodup := by
    rw [← List.cons_append]
    exact List.nodup_append.mpr ⟨h.nodup, List.nodup_singleton x, by
      rintro a ha b hb rfl
      exact hx (List.mem_singleton.mp hb ▸ ha)⟩
  links := links_snoc h.nodup h.links hx p

end Looped

end ArchosGpl.Lib
