import Mathlib.Data.List.Nodup
import Mathlib.Logic.Function.Basic

/-!
# Circular doubly linked lists

`Segment fwd bwd a l b` says that the links `fwd` lead from the node `a` through the nodes `l` to
`b`, and the links `bwd` back. `Circular fwd bwd h l` is a ring: from its head `h` through `l` and
back to `h`, with no node twice.

* `Circular.pushBack`, `Circular.pushFront`, `Circular.popFront`: **the updates of four or two links
  that insert a node at either end and remove the first**.
-/

open Function (update update_comm update_of_ne update_self)

namespace ArchosGpl.Lib

variable {κ : Type*} {fwd bwd fwd' bwd' : κ → Option κ} {a b c h x : κ} {l : List κ}

/-- From `a` through `l` to `b`, and back. -/
inductive Segment (fwd bwd : κ → Option κ) : κ → List κ → κ → Prop
  | nil {a b : κ} (hf : fwd a = some b) (hb : bwd b = some a) : Segment fwd bwd a [] b
  | cons {a b c : κ} {l : List κ} (hf : fwd a = some c) (hb : bwd c = some a)
      (h : Segment fwd bwd c l b) : Segment fwd bwd a (c :: l) b

namespace Segment

theorem congr (h : Segment fwd bwd a l b) (hf : ∀ x ∈ a :: l, fwd' x = fwd x)
    (hb : ∀ x ∈ l ++ [b], bwd' x = bwd x) : Segment fwd' bwd' a l b := by
  induction h with
  | nil hf₀ hb₀ =>
    refine .nil ?_ ?_
    · rw [hf _ List.mem_cons_self, hf₀]
    · rw [hb _ (List.mem_singleton_self _), hb₀]
  | cons hf₀ hb₀ _ ih =>
    refine .cons ?_ ?_ (ih ?_ ?_)
    · rw [hf _ List.mem_cons_self, hf₀]
    · rw [hb _ List.mem_cons_self, hb₀]
    · intro x hx
      exact hf x (List.mem_cons_of_mem _ hx)
    · intro x hx
      exact hb x (List.mem_cons_of_mem _ hx)

theorem snoc (h : Segment fwd bwd a l c) (hf : fwd c = some b) (hb : bwd b = some c) :
    Segment fwd bwd a (l ++ [c]) b := by
  induction h with
  | nil hf₀ hb₀ => exact .cons hf₀ hb₀ (.nil hf hb)
  | cons hf₀ hb₀ _ ih => exact .cons hf₀ hb₀ (ih hf hb)

theorem symm (h : Segment fwd bwd a l b) : Segment bwd fwd b l.reverse a := by
  induction h with
  | nil hf hb => exact .nil hb hf
  | cons hf hb _ ih =>
    rw [List.reverse_cons]
    exact ih.snoc hb hf

theorem exists_fwd (h : Segment fwd bwd a l b) :
    ∃ c ∈ l ++ [b], fwd a = some c ∧ bwd c = some a := by
  cases h with
  | nil hf hb => exact ⟨b, List.mem_singleton_self b, hf, hb⟩
  | @cons _ _ c _ hf hb _ => exact ⟨c, List.mem_cons_self, hf, hb⟩

theorem bwd_ne_none (h : Segment fwd bwd a l b) (hx : x ∈ l) : bwd x ≠ none := by
  induction h with
  | nil => cases hx
  | cons _ hb _ ih =>
    rcases List.mem_cons.mp hx with rfl | hx
    · rw [hb]
      exact Option.some_ne_none _
    · exact ih hx

end Segment

/-- From the head `h` through `l` and back to the head, with no node twice. -/
structure Circular (fwd bwd : κ → Option κ) (h : κ) (l : List κ) : Prop where
  segment : Segment fwd bwd h l h
  nodup : (h :: l).Nodup

namespace Circular

theorem empty (hf : fwd h = some h) (hb : bwd h = some h) : Circular fwd bwd h [] :=
  ⟨.nil hf hb, List.nodup_singleton h⟩

/-- **Only the links of its own nodes matter.** -/
theorem congr (hl : Circular fwd bwd h l) (hf : ∀ x ∈ h :: l, fwd' x = fwd x)
    (hb : ∀ x ∈ h :: l, bwd' x = bwd x) : Circular fwd' bwd' h l := by
  refine ⟨hl.segment.congr hf fun x hx => ?_, hl.nodup⟩
  rcases List.mem_append.mp hx with hx | hx
  · exact hb x (List.mem_cons_of_mem _ hx)
  · rw [List.mem_singleton.mp hx]
    exact hb h List.mem_cons_self

theorem symm (hl : Circular fwd bwd h l) : Circular bwd fwd h l.reverse := by
  refine ⟨hl.segment.symm, ?_⟩
  rw [List.nodup_cons, List.mem_reverse, List.nodup_reverse]
  exact List.nodup_cons.mp hl.nodup

theorem exists_fwd (hl : Circular fwd bwd h l) :
    ∃ c ∈ h :: l, fwd h = some c ∧ bwd c = some h := by
  obtain ⟨c, hc, hlinks⟩ := hl.segment.exists_fwd
  refine ⟨c, ?_, hlinks⟩
  rcases List.mem_append.mp hc with hc | hc
  · exact List.mem_cons_of_mem _ hc
  · rw [List.mem_singleton.mp hc]
    exact List.mem_cons_self

theorem exists_bwd (hl : Circular fwd bwd h l) :
    ∃ c ∈ h :: l, bwd h = some c ∧ fwd c = some h := by
  obtain ⟨c, hc, hlinks⟩ := hl.symm.exists_fwd
  exact ⟨c, by simpa using hc, hlinks⟩

theorem bwd_ne_none (hl : Circular fwd bwd h l) (hx : x ∈ l) : bwd x ≠ none :=
  hl.segment.bwd_ne_none hx

variable [DecidableEq κ]

/-- **A node is inserted in front.** -/
theorem pushFront (hl : Circular fwd bwd h l) (hx : x ∉ h :: l) (hc : fwd h = some c) :
    Circular (update (update fwd h (some x)) x (some c))
      (update (update bwd x (some h)) c (some x)) h (x :: l) := by
  obtain ⟨hxh, hxl⟩ := List.ne_and_not_mem_of_not_mem_cons hx
  refine ⟨?_, List.nodup_cons.mpr ⟨?_, List.nodup_cons.mpr ⟨hxl, ?_⟩⟩⟩
  · have hh : update (update fwd h (some x)) x (some c) h = some x := by
      rw [update_of_ne (Ne.symm hxh), update_self]
    have hcx : c ≠ x := by
      obtain ⟨c', hc', hf, -⟩ := hl.exists_fwd
      cases hc.symm.trans hf
      rintro rfl
      exact hx hc'
    have hxb : update (update bwd x (some h)) c (some x) x = some h := by
      rw [update_of_ne (Ne.symm hcx), update_self]
    refine .cons hh hxb ?_
    obtain ⟨hseg, hnodup⟩ := hl
    cases hseg with
    | nil hf hb =>
      cases hc.symm.trans hf
      exact .nil (update_self ..) (update_self ..)
    | @cons _ _ d m hf hb hrest =>
      cases hc.symm.trans hf
      have hhc : h ∉ c :: m := (List.nodup_cons.mp hnodup).1
      have hcm : c ∉ m := (List.nodup_cons.mp (List.nodup_cons.mp hnodup).2).1
      refine .cons (update_self ..) (update_self ..) (hrest.congr ?_ ?_)
      · intro y hy
        have hyx : y ≠ x := by
          rintro rfl
          exact hxl hy
        have hyh : y ≠ h := by
          rintro rfl
          exact hhc hy
        rw [update_of_ne hyx, update_of_ne hyh]
      · intro y hy
        have hyc : y ≠ c := by
          rintro rfl
          rcases List.mem_append.mp hy with hy | hy
          · exact hcm hy
          · exact hhc (List.mem_singleton.mp hy ▸ List.mem_cons_self)
        have hyx : y ≠ x := by
          rintro rfl
          rcases List.mem_append.mp hy with hy | hy
          · exact hxl (List.mem_cons_of_mem _ hy)
          · exact hxh (List.mem_singleton.mp hy)
        rw [update_of_ne hyc, update_of_ne hyx]
  · intro hmem
    rcases List.mem_cons.mp hmem with hmem | hmem
    · exact hxh hmem.symm
    · exact (List.nodup_cons.mp hl.nodup).1 hmem
  · exact (List.nodup_cons.mp hl.nodup).2

/-- **A node is inserted at the back.** -/
theorem pushBack (hl : Circular fwd bwd h l) (hx : x ∉ h :: l) (hc : bwd h = some c) :
    Circular (update (update fwd c (some x)) x (some h))
      (update (update bwd x (some c)) h (some x)) h (l ++ [x]) := by
  have hcx : c ≠ x := by
    obtain ⟨c', hc', hb, -⟩ := hl.exists_bwd
    cases hc.symm.trans hb
    rintro rfl
    exact hx hc'
  have hxh : x ≠ h := (List.ne_and_not_mem_of_not_mem_cons hx).1
  have hpush := (hl.symm.pushFront (x := x) (by simpa using hx) hc).symm
  rw [List.reverse_cons, List.reverse_reverse] at hpush
  rwa [update_comm hcx, update_comm hxh]

/-- **The first node is removed.** -/
theorem popFront (hl : Circular fwd bwd h (c :: l)) (hd : fwd c = some b) :
    Circular (update fwd h (some b)) (update bwd b (some h)) h l := by
  obtain ⟨hseg, hnodup⟩ := hl
  obtain ⟨hh, hnodup⟩ := List.nodup_cons.mp hnodup
  obtain ⟨hcl, hnodup⟩ := List.nodup_cons.mp hnodup
  obtain ⟨hhc, hhl⟩ := List.ne_and_not_mem_of_not_mem_cons hh
  refine ⟨?_, List.nodup_cons.mpr ⟨hhl, hnodup⟩⟩
  cases hseg with
  | cons hf hb hseg =>
    cases hseg with
    | nil hf' hb' =>
      cases hd.symm.trans hf'
      exact .nil (update_self ..) (update_self ..)
    | @cons _ _ d m hf' hb' hrest =>
      cases hd.symm.trans hf'
      have hbm : b ∉ m := (List.nodup_cons.mp hnodup).1
      refine .cons (update_self ..) (update_self ..) (hrest.congr ?_ ?_)
      · intro y hy
        have hyh : y ≠ h := by
          rintro rfl
          exact hhl hy
        rw [update_of_ne hyh]
      · intro y hy
        have hyb : y ≠ b := by
          rintro rfl
          rcases List.mem_append.mp hy with hy | hy
          · exact hbm hy
          · exact hhl (List.mem_singleton.mp hy ▸ List.mem_cons_self)
        rw [update_of_ne hyb]

end Circular

end ArchosGpl.Lib
