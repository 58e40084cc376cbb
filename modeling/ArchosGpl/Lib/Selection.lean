import Mathlib.Data.List.Induction
import Mathlib.Data.List.Nodup
import Mathlib.Order.Basic
import Mathlib.Order.Lattice
import Mathlib.Order.Nat

/-!
# Selection by repeated passes with a running bound

A pass over a list of valued entries keeps the last one whose value exceeds the bound (`keep`); the
bound starts at `bot` and is then the value of the entry kept, **stored through a `cast`** that may
lose something of it. The entry found leaves the list, and the next pass follows (`left`,
`answer`).

**`inOrder_iff`**: the passes return every entry once, in non-increasing order of value, and find
nothing only after all of them, if and only if every value exceeds `bot` and no entry is followed
by a smaller one above its stored value (`Steady`).
-/

namespace ArchosGpl.Lib.Selection

variable {ι α : Type*} [LinearOrder α]

/-- The entry kept, with the bound that the next one has to exceed. -/
structure Best (ι α : Type*) where
  entry : Option ι
  bound : α

/-- An entry above the bound is kept. -/
def keep (cast : α → α) (b : Best ι α) (x : ι × α) : Best ι α :=
  if b.bound < x.2 then ⟨some x.1, cast x.2⟩ else b

/-- What a pass over the list ends with. -/
def best (cast : α → α) (bot : α) (l : List (ι × α)) : Best ι α := l.foldl (keep cast) ⟨none, bot⟩

/-- The entries that are left before each pass. -/
def left [DecidableEq ι] (cast : α → α) (bot : α) (l : List (ι × α)) : ℕ → List (ι × α)
  | 0 => l
  | n + 1 =>
    (left cast bot l n).filter fun x => (best cast bot (left cast bot l n)).entry ≠ some x.1

/-- What each pass returns. -/
def answer [DecidableEq ι] (cast : α → α) (bot : α) (l : List (ι × α)) (n : ℕ) : Option ι :=
  (best cast bot (left cast bot l n)).entry

/-- The answers are the entries of the list, each once, in non-increasing order of value, and an
answer is missing only after all of them. -/
structure InOrder (l : List (ι × α)) (answer : ℕ → Option ι) : Prop where
  listed : ∀ n i, answer n = some i → ∃ r, (i, r) ∈ l
  once : ∀ m n i, answer m = some i → answer n = some i → m = n
  ordered : ∀ m n x y, m ≤ n → x ∈ l → y ∈ l → answer m = some x.1 → answer n = some y.1 → y.2 ≤ x.2
  complete : ∀ n, answer n = none → ∀ x ∈ l, ∃ m < n, answer m = some x.1

/-- No entry is followed by a smaller one above its stored value. -/
def Steady (cast : α → α) (l : List (ι × α)) : Prop :=
  l.Pairwise fun x y => cast x.2 < y.2 → x.2 ≤ y.2

variable {cast : α → α} {bot : α} {l : List (ι × α)} {x y : ι × α} {n : ℕ} {i : ι}

/-! ## One pass -/

theorem best_append_singleton (z : ι × α) :
    best cast bot (l ++ [z]) = keep cast (best cast bot l) z := by
  rw [best, List.foldl_append]
  rfl

theorem keep_of_lt {b : Best ι α} (h : b.bound < x.2) : keep cast b x = ⟨some x.1, cast x.2⟩ :=
  if_pos h

theorem keep_of_le {b : Best ι α} (h : x.2 ≤ b.bound) : keep cast b x = b := if_neg h.not_gt

theorem best_of_le (h : ∀ x ∈ l, x.2 ≤ bot) : best cast bot l = ⟨none, bot⟩ := by
  induction l using List.reverseRecOn with
  | nil => rfl
  | append_singleton l z ih =>
    rw [best_append_singleton, ih fun x hx => h x (List.mem_append_left _ hx)]
    exact keep_of_le (h z (List.mem_append_right _ (List.mem_singleton_self z)))

/-- A pass that finds nothing has seen no value above `bot`; else it has found an entry of the list,
and the values that follow do not exceed what is stored for it. -/
theorem best_spec (hl : (l.map Prod.fst).Nodup) :
    (best cast bot l = ⟨none, bot⟩ ∧ ∀ x ∈ l, x.2 ≤ bot) ∨
      ∃ x ∈ l, best cast bot l = ⟨some x.1, cast x.2⟩ ∧
        l.Pairwise fun a b => a.1 = x.1 → b.2 ≤ cast a.2 := by
  induction l using List.reverseRecOn with
  | nil => exact .inl ⟨rfl, fun x hx => absurd hx List.not_mem_nil⟩
  | append_singleton l z ih =>
    rw [List.map_append, List.map_singleton, List.nodup_append] at hl
    obtain ⟨hnodup, -, hfresh⟩ := hl
    have hne (a : ι × α) (ha : a ∈ l) : a.1 ≠ z.1 :=
      hfresh a.1 (List.mem_map_of_mem ha) z.1 (List.mem_singleton_self _)
    have hinj (a b : ι × α) (ha : a ∈ l) (hb : b ∈ l) (h : a.1 = b.1) : a = b :=
      List.inj_on_of_nodup_map hnodup ha hb h
    rw [best_append_singleton]
    by_cases hz : (best cast bot l).bound < z.2
    · refine .inr ⟨z, List.mem_append_right _ (List.mem_singleton_self z), keep_of_lt hz, ?_⟩
      refine List.pairwise_append.mpr ⟨?_, List.pairwise_singleton _ _, fun a ha b _ h =>
        absurd h (hne a ha)⟩
      exact List.pairwise_iff_forall_sublist.mpr fun hab h =>
        absurd h (hne _ (hab.subset List.mem_cons_self))
    · have hle := not_lt.mp hz
      rw [keep_of_le hle]
      rcases ih hnodup with ⟨hnone, hall⟩ | ⟨x, hx, hbest, hafter⟩
      · refine .inl ⟨hnone, fun x hx => ?_⟩
        rcases List.mem_append.mp hx with hx | hx
        · exact hall x hx
        · rw [List.mem_singleton.mp hx]
          rwa [hnone] at hle
      · refine .inr ⟨x, List.mem_append_left _ hx, hbest, ?_⟩
        refine List.pairwise_append.mpr ⟨hafter, List.pairwise_singleton _ _, fun a ha b hb h => ?_⟩
        rw [List.mem_singleton.mp hb, hinj a x ha hx h]
        rwa [hbest] at hle

theorem best_max (hcast : ∀ r, bot < r → cast r ≤ r) (hl : Steady cast l) :
    (best cast bot l = ⟨none, bot⟩ ∧ ∀ x ∈ l, x.2 ≤ bot) ∨
      ∃ x ∈ l, best cast bot l = ⟨some x.1, cast x.2⟩ ∧ bot < x.2 ∧ ∀ y ∈ l, y.2 ≤ x.2 := by
  induction l using List.reverseRecOn with
  | nil => exact .inl ⟨rfl, fun x hx => absurd hx List.not_mem_nil⟩
  | append_singleton l z ih =>
    obtain ⟨hsteady, -, hlast⟩ := List.pairwise_append.mp hl
    have hmem := List.mem_append_right l (List.mem_singleton_self z)
    rw [best_append_singleton]
    rcases ih hsteady with ⟨hnone, hall⟩ | ⟨x, hx, hbest, hpos, hmax⟩
    · by_cases hz : bot < z.2
      · refine .inr ⟨z, hmem, keep_of_lt (hnone ▸ hz), hz, fun y hy => ?_⟩
        rcases List.mem_append.mp hy with hy | hy
        · exact (hall y hy).trans hz.le
        · rw [List.mem_singleton.mp hy]
      · refine .inl ⟨?_, fun y hy => ?_⟩
        · rw [hnone, keep_of_le (not_lt.mp hz)]
        · rcases List.mem_append.mp hy with hy | hy
          · exact hall y hy
          · exact List.mem_singleton.mp hy ▸ not_lt.mp hz
    · by_cases hz : cast x.2 < z.2
      · have hxz := hlast x hx z (List.mem_singleton_self z) hz
        refine .inr ⟨z, hmem, keep_of_lt (hbest ▸ hz), hpos.trans_le hxz, fun y hy => ?_⟩
        rcases List.mem_append.mp hy with hy | hy
        · exact (hmax y hy).trans hxz
        · rw [List.mem_singleton.mp hy]
      · refine .inr ⟨x, List.mem_append_left _ hx, ?_, hpos, fun y hy => ?_⟩
        · rw [hbest, keep_of_le (not_lt.mp hz)]
        · rcases List.mem_append.mp hy with hy | hy
          · exact hmax y hy
          · rw [List.mem_singleton.mp hy]
            exact (not_lt.mp hz).trans (hcast _ hpos)

/-! ## The passes -/

variable [DecidableEq ι]

theorem left_succ :
    left cast bot l (n + 1) = (left cast bot l n).filter fun x => answer cast bot l n ≠ some x.1 :=
  rfl

theorem left_eq_filter :
    left cast bot l n = l.filter fun x => ∀ m < n, answer cast bot l m ≠ some x.1 := by
  induction n with
  | zero => exact (List.filter_eq_self.mpr fun x _ => decide_eq_true fun _ hm => by omega).symm
  | succ n ih =>
    rw [left_succ, ih, List.filter_filter]
    congr 1
    funext x
    rw [← Bool.decide_and, decide_eq_decide]
    refine ⟨fun ⟨hn, h⟩ m hm => ?_, fun h => ⟨h n (Nat.lt_succ_self n), fun m hm => ?_⟩⟩
    · rcases Nat.lt_succ_iff_lt_or_eq.mp hm with hm | rfl
      · exact h m hm
      · exact hn
    · exact h m (Nat.lt_succ_of_lt hm)

theorem mem_left : x ∈ left cast bot l n ↔ x ∈ l ∧ ∀ m < n, answer cast bot l m ≠ some x.1 := by
  rw [left_eq_filter, List.mem_filter, decide_eq_true_iff]

theorem left_sublist : (left cast bot l n).Sublist l := by
  rw [left_eq_filter]
  exact List.filter_sublist

theorem left_nodup (hl : (l.map Prod.fst).Nodup) : ((left cast bot l n).map Prod.fst).Nodup :=
  hl.sublist (left_sublist.map _)

theorem exists_mem_left (hl : (l.map Prod.fst).Nodup) (h : answer cast bot l n = some i) :
    ∃ r, (i, r) ∈ left cast bot l n := by
  rcases best_spec (left_nodup hl) with ⟨hnone, -⟩ | ⟨x, hx, hbest, -⟩
  · rw [answer, hnone] at h
    exact absurd h nofun
  · rw [answer, hbest] at h
    exact ⟨x.2, Option.some.inj h ▸ hx⟩

theorem exists_answer_none (hl : (l.map Prod.fst).Nodup) : ∃ n, answer cast bot l n = none := by
  by_contra hall
  have hlen (n : ℕ) : (left cast bot l n).length + n ≤ l.length := by
    induction n with
    | zero => exact Nat.le_refl _
    | succ n ih =>
      obtain ⟨i, hi⟩ := Option.ne_none_iff_exists'.mp fun h => hall ⟨n, h⟩
      obtain ⟨r, hr⟩ := exists_mem_left hl hi
      have hlt : (left cast bot l (n + 1)).length < (left cast bot l n).length :=
        List.length_filter_lt_length_iff_exists.mpr ⟨(i, r), hr, by simpa using show (best cast bot (left cast bot l n)).entry = some i from hi⟩
      omega
  have := hlen (l.length + 1)
  omega

theorem inOrder_of_steady (hcast : ∀ r, bot < r → cast r ≤ r) (hl : (l.map Prod.fst).Nodup)
    (hbot : ∀ x ∈ l, bot < x.2) (hs : Steady cast l) : InOrder l (answer cast bot l) := by
  have hmax (n : ℕ) := best_max (l := left cast bot l n) hcast (hs.sublist left_sublist)
  refine ⟨fun n i h => ?_, fun m n i hm hn => ?_, fun m n x y hmn hx hy hm hn => ?_,
    fun n hn x hx => ?_⟩
  · obtain ⟨r, hr⟩ := exists_mem_left hl h
    exact ⟨r, (mem_left.mp hr).1⟩
  · obtain ⟨r, hr⟩ := exists_mem_left hl hm
    obtain ⟨q, hq⟩ := exists_mem_left hl hn
    rcases lt_trichotomy m n with hlt | heq | hlt
    · exact absurd hm ((mem_left.mp hq).2 m hlt)
    · exact heq
    · exact absurd hn ((mem_left.mp hr).2 n hlt)
  · rcases hmax m with ⟨hnone, -⟩ | ⟨z, hz, hbest, -, hle⟩
    · rw [answer, hnone] at hm
      exact absurd hm nofun
    · rw [answer, hbest] at hm
      have hzx := List.inj_on_of_nodup_map hl (mem_left.mp hz).1 hx (Option.some.inj hm)
      obtain ⟨q, hq⟩ := exists_mem_left hl hn
      have hqy := List.inj_on_of_nodup_map hl (mem_left.mp hq).1 hy rfl
      rw [← hzx, ← hqy]
      exact hle _ (mem_left.mpr ⟨(mem_left.mp hq).1, fun k hk =>
        (mem_left.mp hq).2 k (hk.trans_le hmn)⟩)
  · by_contra hall
    have hx' : x ∈ left cast bot l n := mem_left.mpr ⟨hx, fun m hm h => hall ⟨m, hm, h⟩⟩
    rcases hmax n with ⟨-, hle⟩ | ⟨z, -, hbest, -, -⟩
    · exact absurd (hbot x hx) (hle x hx').not_gt
    · rw [answer, hbest] at hn
      exact absurd hn nofun

theorem pair_sublist_left (h : [x, y].Sublist l) (hx : x ∈ left cast bot l n)
    (hy : y ∈ left cast bot l n) : [x, y].Sublist (left cast bot l n) := by
  have hself : [x, y].filter (fun z => ∀ m < n, answer cast bot l m ≠ some z.1) = [x, y] :=
    List.filter_eq_self.mpr fun z hz => by
      rcases List.mem_pair.mp hz with rfl | rfl
      · exact decide_eq_true (mem_left.mp hx).2
      · exact decide_eq_true (mem_left.mp hy).2
  rw [left_eq_filter, ← hself]
  exact h.filter _

/-- **What the passes need to be in order.** -/
theorem inOrder_iff (hcast : ∀ r, bot < r → cast r ≤ r) (hl : (l.map Prod.fst).Nodup) :
    InOrder l (answer cast bot l) ↔ (∀ x ∈ l, bot < x.2) ∧ Steady cast l := by
  refine ⟨fun h => ?_, fun h => inOrder_of_steady hcast hl h.1 h.2⟩
  obtain ⟨k, hk⟩ := exists_answer_none hl
  have hat (x : ι × α) (hx : x ∈ l) :
      ∃ n, answer cast bot l n = some x.1 ∧ x ∈ left cast bot l n := by
    obtain ⟨n, -, hn⟩ := h.complete k hk x hx
    exact ⟨n, hn, mem_left.mpr ⟨hx, fun m hm hmx => absurd (h.once m n _ hmx hn) hm.ne⟩⟩
  have hmax (n : ℕ) (x y : ι × α) (hx : x ∈ l) (hn : answer cast bot l n = some x.1)
      (hy : y ∈ left cast bot l n) : y.2 ≤ x.2 := by
    obtain ⟨hy, hnot⟩ := mem_left.mp hy
    obtain ⟨m, hm, -⟩ := hat y hy
    exact h.ordered n m x y (not_lt.mp fun hlt => hnot m hlt hm) hx hy hn hm
  refine ⟨fun x hx => ?_, List.pairwise_iff_forall_sublist.mpr fun {x y} hxy hlt => ?_⟩
  · obtain ⟨n, hn, -⟩ := hat x hx
    by_contra hle
    -- the pass that returns this entry has nothing above `bot`
    have hnone : best cast bot (left cast bot l n) = ⟨none, bot⟩ :=
      best_of_le fun y hy => (hmax n x y hx hn hy).trans (not_lt.mp hle)
    rw [answer, hnone] at hn
    exact absurd hn nofun
  · have hx : x ∈ l := hxy.subset List.mem_cons_self
    have hy : y ∈ l := hxy.subset (List.mem_cons_of_mem _ List.mem_cons_self)
    obtain ⟨n, hn, hxn⟩ := hat x hx
    by_contra hle
    -- the later entry is the smaller one, so that it is left when the earlier one is returned
    have hyn : y ∈ left cast bot l n := mem_left.mpr ⟨hy, fun m hm hmy =>
      hle (h.ordered m n y x hm.le hy hx hmy hn)⟩
    rcases best_spec (left_nodup hl) with
      ⟨hnone, -⟩ | ⟨z, -, hbest, hafter⟩
    · rw [answer, hnone] at hn
      exact absurd hn nofun
    · rw [answer, hbest] at hn
      have hstored := List.pairwise_iff_forall_sublist.mp hafter (pair_sublist_left hxy hxn hyn)
        (Option.some.inj hn).symm
      exact absurd hlt hstored.not_gt

end ArchosGpl.Lib.Selection
