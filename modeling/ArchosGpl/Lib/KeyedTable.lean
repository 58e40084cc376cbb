import Mathlib.Data.List.Nodup

/-!
# A table of entries with keys

A table is a list of entries, `key` the key of an entry. `Put key l k l'` says how the entry with
key `k` may be put into `l`: left out, in place of the entry that has the key, at the end, or in
place of some other entry. **`Put.distinct`**: the keys stay distinct. **`Put.kept_or_evicted`**:
an entry with another key is kept, or it was replaced, and then there was no entry with the key.
`swapRemove` removes an entry and puts the last one in its place.
-/

namespace ArchosGpl.Lib.KeyedTable

variable {α κ : Type*} {key : α → κ} {l l' : List α} {k : κ}

/-- Entries have different keys. -/
def Distinct (key : α → κ) (l : List α) : Prop := (l.map key).Nodup

/-- How an entry with key `k` is put into a table. -/
inductive Put (key : α → κ) (l : List α) (k : κ) : List α → Prop
  | none : Put key l k l
  | update {i : ℕ} {a a' : α} (at_i : l[i]? = some a) (old : key a = k) (new : key a' = k) :
      Put key l k (l.set i a')
  | add {a' : α} (fresh : ∀ b ∈ l, key b ≠ k) (new : key a' = k) : Put key l k (l ++ [a'])
  | evict {i : ℕ} {a a' : α} (at_i : l[i]? = some a) (fresh : ∀ b ∈ l, key b ≠ k)
      (new : key a' = k) : Put key l k (l.set i a')

theorem not_mem_map (h : ∀ b ∈ l, key b ≠ k) : k ∉ l.map key := by
  intro hk
  obtain ⟨b, hb, hbk⟩ := List.mem_map.mp hk
  exact h b hb hbk

/-- **The keys stay distinct.** -/
theorem Put.distinct (hp : Put key l k l') (h : Distinct key l) : Distinct key l' := by
  cases hp with
  | none => exact h
  | @update i a a' at_i old new =>
    have hi : (l.map key)[i]? = some k := by rw [List.getElem?_map, at_i, ← old]; rfl
    obtain ⟨hlt, hget⟩ := List.getElem?_eq_some_iff.mp hi
    rw [Distinct, List.map_set, new, ← hget, List.set_getElem_self]
    exact h
  | @add a' fresh new =>
    rw [Distinct, List.map_append, List.map_singleton, new]
    refine List.nodup_append'.mpr ⟨h, List.nodup_singleton k, ?_⟩
    rw [List.disjoint_singleton]
    exact not_mem_map fresh
  | @evict i a a' at_i fresh new =>
    rw [Distinct, List.map_set, new]
    exact List.Nodup.set h (not_mem_map fresh)

theorem Put.kept_or_evicted (hp : Put key l k l') {i : ℕ} {a : α} (hi : l[i]? = some a)
    (ha : key a ≠ k) : l'[i]? = some a ∨ (∀ b ∈ l, key b ≠ k) ∧ ∃ a', l' = l.set i a' := by
  cases hp with
  | none => exact Or.inl hi
  | @update j b b' at_j old new =>
    refine Or.inl ?_
    have hne : j ≠ i := by
      rintro rfl
      rw [at_j] at hi
      exact ha (Option.some.inj hi ▸ old)
    rw [List.getElem?_set_ne hne]
    exact hi
  | add fresh new =>
    refine Or.inl ?_
    rw [List.getElem?_append_left (List.getElem?_eq_some_iff.mp hi).1]
    exact hi
  | @evict j b b' at_j fresh new =>
    by_cases hij : j = i
    · subst hij
      exact Or.inr ⟨fresh, b', rfl⟩
    · refine Or.inl ?_
      rw [List.getElem?_set_ne hij]
      exact hi

theorem Put.mem (hp : Put key l k l') {a : α} (ha : a ∈ l') : a ∈ l ∨ key a = k := by
  cases hp with
  | none => exact Or.inl ha
  | update at_i old new | evict at_i fresh new =>
    rcases List.mem_or_eq_of_mem_set ha with hm | rfl
    · exact Or.inl hm
    · exact Or.inr new
  | add fresh new =>
    rcases List.mem_append.mp ha with hm | hm
    · exact Or.inl hm
    · rw [List.mem_singleton.mp hm]
      exact Or.inr new

theorem Distinct.swapRemove (h : Distinct key l) {i : ℕ} (hi : i < l.length) {last : α}
    (hlast : l.getLast? = some last) : Distinct key (l.set i last).dropLast := by
  obtain ⟨m, rfl⟩ := List.getLast?_eq_some_iff.mp hlast
  have hm : Distinct key m ∧ key last ∉ m.map key := by
    rw [Distinct, List.map_append, List.map_singleton] at h
    obtain ⟨hm, -, hdisj⟩ := List.nodup_append'.mp h
    exact ⟨hm, List.disjoint_singleton.mp hdisj⟩
  by_cases him : i < m.length
  · rw [List.set_append_left _ _ him, List.dropLast_concat, Distinct, List.map_set]
    exact List.Nodup.set hm.1 hm.2
  · rw [List.set_append_right _ _ (Nat.not_lt.mp him)]
    have hzero : i - m.length = 0 := by
      rw [List.length_append, List.length_singleton] at hi
      omega
    rw [hzero, List.set_cons_zero, List.dropLast_concat]
    exact hm.1

end ArchosGpl.Lib.KeyedTable
