import Mathlib.Data.List.Infix
import Mathlib.Data.List.Nodup
import Mathlib.Data.List.Range
import Mathlib.Logic.Function.Basic

/-!
# Compacting a sequence into a table that is not empty

`firsts key x n` is, of the first `n` elements of a sequence, the first one of each key. A loop
that compacts them in place compares each element with as many positions of the table as there are
elements before it, and so also with the ones behind those it has filled: `compact`.

**`compact_eq_firsts_iff`**: the loop leaves the first element of each key exactly if the old
contents are `Clean`: where an element is the first one with its key, no position that is compared
and not yet filled holds that key.
-/

open Function (update update_of_ne update_self)

namespace ArchosGpl.Lib

variable {α κ : Type*} [DecidableEq κ] (key : α → κ) (x : ℕ → α)

/-- **The first element of each key.** -/
def firsts : ℕ → List α
  | 0 => []
  | n + 1 => if key (x n) ∈ (firsts n).map key then firsts n else firsts n ++ [x n]

/-- The table and its count after `n` elements. -/
def compact (T : ℕ → α) : ℕ → (ℕ → α) × ℕ
  | 0 => (T, 0)
  | n + 1 =>
    let (U, c) := compact T n
    if ∃ j < n, key (U j) = key (x n) then (U, c) else (update U c (x n), c + 1)

/-- The first entries of a table. -/
def contents (U : ℕ → α) (c : ℕ) : List α := (List.range c).map U

/-- No old entry is taken for a new one. -/
def Clean (T : ℕ → α) (n : ℕ) : Prop :=
  ∀ i < n, key (x i) ∉ (firsts key x i).map key →
    ∀ j < i, (firsts key x i).length ≤ j → key (T j) ≠ key (x i)

variable {key x} {T U V : ℕ → α} {c d i n m : ℕ}

/-! ### The first of each key -/

theorem firsts_nodup (n : ℕ) : ((firsts key x n).map key).Nodup := by
  induction n with
  | zero => exact List.nodup_nil
  | succ n ih =>
    unfold firsts
    split
    · exact ih
    next hnew =>
      rw [List.map_append, List.map_singleton]
      exact ih.append (List.nodup_singleton _) (List.disjoint_singleton.mpr hnew)

theorem firsts_length_le (n : ℕ) : (firsts key x n).length ≤ n := by
  induction n with
  | zero => exact Nat.le_refl 0
  | succ n ih =>
    unfold firsts
    split
    · omega
    · rw [List.length_append, List.length_singleton]
      omega

theorem firsts_prefix (h : m ≤ n) : firsts key x m <+: firsts key x n := by
  induction n, h using Nat.le_induction with
  | base => exact List.prefix_rfl
  | succ n _ ih =>
    refine ih.trans ?_
    conv_rhs => rw [firsts]
    split
    · exact List.prefix_rfl
    · exact List.prefix_append _ _

theorem firsts_getElem? (hi : i < n) (hnew : key (x i) ∉ (firsts key x i).map key) :
    (firsts key x n)[(firsts key x i).length]? = some (x i) := by
  obtain ⟨rest, hrest⟩ : firsts key x (i + 1) <+: firsts key x n :=
    firsts_prefix (Nat.succ_le_of_lt hi)
  rw [← hrest, firsts, if_neg hnew]
  simp

/-! ### The contents -/

@[simp] theorem contents_length (U : ℕ → α) (c : ℕ) : (contents U c).length = c := by
  simp [contents]

theorem contents_getElem? (U : ℕ → α) (h : i < c) : (contents U c)[i]? = some (U i) := by
  simp [contents, h]

theorem contents_update (U : ℕ → α) (c : ℕ) (a : α) :
    contents (update U c a) (c + 1) = contents U c ++ [a] := by
  rw [contents, List.range_succ, List.map_append, List.map_singleton, update_self]
  congr 1
  refine List.map_congr_left fun k hk => ?_
  rw [update_of_ne (List.mem_range.mp hk).ne]

theorem mem_contents {a : α} : a ∈ contents U c ↔ ∃ j < c, U j = a := by
  simp [contents]

theorem contents_eraseIdx (hi : i < c + 1) (hV : ∀ j < c, V j = if j < i then U j else U (j + 1)) :
    contents V c = (contents U (c + 1)).eraseIdx i := by
  refine List.ext_getElem ?_ fun j hj _ => ?_
  · rw [List.length_eraseIdx_of_lt (by simpa using hi), contents_length, contents_length]
    omega
  · have hjc : j < c := by simpa using hj
    rw [List.getElem_eraseIdx]
    simp only [contents, List.getElem_map, List.getElem_range]
    rw [hV j hjc]
    split <;> rfl

theorem contents_idxOf [BEq α] [LawfulBEq α] {a : α} (hi : i < c) (ha : U i = a)
    (hlt : ∀ j < i, U j ≠ a) : (contents U c).idxOf a = i := by
  refine (List.findIdx_eq (by simpa using hi)).mpr ⟨?_, fun j hj => ?_⟩
  · simp [contents, ha]
  · simpa [contents] using hlt j hj

/-! ### The loop -/

/-- What the loop has done so far when nothing went wrong. -/
structure Compacted (key : α → κ) (x T : ℕ → α) (n : ℕ) (r : (ℕ → α) × ℕ) : Prop where
  filled : contents r.1 r.2 = firsts key x n
  rest : ∀ j, r.2 ≤ j → r.1 j = T j

theorem Compacted.count {r : (ℕ → α) × ℕ} (h : Compacted key x T n r) :
    r.2 = (firsts key x n).length := by
  rw [← h.filled, contents_length]

/-- **A clean table is compacted.** -/
theorem compacted (h : Clean key x T n) : Compacted key x T n (compact key x T n) := by
  induction n with
  | zero => exact ⟨rfl, fun _ _ => rfl⟩
  | succ n ih =>
    have hprev := ih fun i hi => h i (hi.trans (Nat.lt_succ_self n))
    have hcount := hprev.count
    have hle : (firsts key x n).length ≤ n := firsts_length_le n
    -- a conflict is a duplicate, since the old entries are clean
    have hconflict : (∃ j < n, key ((compact key x T n).1 j) = key (x n)) ↔
        key (x n) ∈ (firsts key x n).map key := by
      rw [← hprev.filled]
      constructor
      · rintro ⟨j, hj, hkey⟩
        rcases Nat.lt_or_ge j (compact key x T n).2 with hlt | hge
        · exact List.mem_map.mpr ⟨_, mem_contents.mpr ⟨j, hlt, rfl⟩, hkey⟩
        · by_contra hnew
          rw [hprev.filled] at hnew
          exact h n (Nat.lt_succ_self n) hnew j hj (hcount ▸ hge) (hprev.rest j hge ▸ hkey)
      · intro hmem
        obtain ⟨a, ha, hkey⟩ := List.mem_map.mp hmem
        obtain ⟨j, hj, rfl⟩ := mem_contents.mp ha
        exact ⟨j, by omega, hkey⟩
    unfold compact
    dsimp only
    by_cases hdup : key (x n) ∈ (firsts key x n).map key
    · rw [if_pos (hconflict.mpr hdup)]
      exact ⟨by rw [hprev.filled, firsts, if_pos hdup], hprev.rest⟩
    · rw [if_neg (mt hconflict.mp hdup)]
      refine ⟨by rw [contents_update, hprev.filled, firsts, if_neg hdup], fun j hj => ?_⟩
      exact (update_of_ne (Nat.ne_of_gt hj) _ _).trans
        (hprev.rest j (Nat.le_of_succ_le hj))

/-- Once an element was taken for an old entry, its place goes to another key or stays empty. -/
theorem compact_blocked {c : ℕ} {k : κ} (hc : (compact key x T i).2 = c)
    (hrest : ∀ j, c ≤ j → (compact key x T i).1 j = T j)
    (hstale : ∃ j < i, c ≤ j ∧ key (T j) = k) (h : i ≤ n) :
    ((compact key x T n).2 = c ∧ ∀ j, c ≤ j → (compact key x T n).1 j = T j) ∨
      c < (compact key x T n).2 ∧ key ((compact key x T n).1 c) ≠ k := by
  induction n, h using Nat.le_induction with
  | base => exact Or.inl ⟨hc, hrest⟩
  | succ n hin ih =>
    unfold compact
    dsimp only
    split
    · exact ih
    next hno =>
      rcases ih with ⟨hcount, hold⟩ | ⟨hcount, hkey⟩
      · obtain ⟨j, hj, hcj, hkey⟩ := hstale
        refine Or.inr ⟨hcount ▸ Nat.lt_succ_self _, ?_⟩
        dsimp only
        rw [hcount, update_self]
        rintro rfl
        exact hno ⟨j, hj.trans_le hin, by rw [hold j hcj, hkey]⟩
      · refine Or.inr ⟨hcount.trans (Nat.lt_succ_self _), ?_⟩
        dsimp only
        rwa [update_of_ne hcount.ne]

/-- **The loop leaves the first element of each key exactly if the old contents are clean.** -/
theorem compact_eq_firsts_iff (key : α → κ) (x T : ℕ → α) (n : ℕ) :
    contents (compact key x T n).1 (compact key x T n).2 = firsts key x n ↔ Clean key x T n := by
  refine ⟨fun h => ?_, fun h => (compacted h).filled⟩
  intro i
  induction i using Nat.strong_induction_on with
  | _ i ih =>
    intro hi hnew j hj hcj hkey
    have hprev : Compacted key x T i (compact key x T i) :=
      compacted fun i' hi' => ih i' hi' (hi'.trans hi)
    have hplace := firsts_getElem? hi hnew
    rcases compact_blocked (n := n) hprev.count (fun k hk => hprev.rest k (hprev.count ▸ hk))
      ⟨j, hj, hcj, hkey⟩ hi.le with ⟨hcount, -⟩ | ⟨hcount, hother⟩
    · rw [← h, ← hcount] at hplace
      simp [contents] at hplace
    · rw [← h, contents_getElem? _ hcount] at hplace
      exact hother (congrArg key (Option.some.inj hplace))

end ArchosGpl.Lib
