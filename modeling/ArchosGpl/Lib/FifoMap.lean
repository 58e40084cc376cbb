import Mathlib.Algebra.GroupWithZero.Nat
import Mathlib.Data.List.Rotate
import Mathlib.Data.List.TakeDrop

/-!
# A bounded map that forgets its oldest entry

`FifoMap cap κ ν` is a map of at most `cap` entries, listed from the oldest. Setting a key that it
has changes the value in place; a new key is the youngest, and where the map is full the oldest
entry goes (`insert`).

* `FifoMap.get?_insert`: **what a lookup finds after a key is set**.
* `rotate_set_succ`: a table of `cap` slots, written cyclically, is such a map read from the slot
  that is written next.
-/

namespace ArchosGpl.Lib

variable {κ ν : Type*}

/-- At most `cap` entries with distinct keys, from the oldest. -/
structure FifoMap (cap : ℕ) (κ ν : Type*) where
  entries : List (κ × ν)
  nodup : (entries.map Prod.fst).Nodup
  length_le : entries.length ≤ cap

namespace FifoMap

variable {cap : ℕ}

def keys (m : FifoMap cap κ ν) : List κ := m.entries.map Prod.fst

/-- No entry. -/
def empty : FifoMap cap κ ν := ⟨[], List.nodup_nil, Nat.zero_le _⟩

theorem nodup_snoc {k : κ} {l : List (κ × ν)} (h : (l.map Prod.fst).Nodup)
    (hk : k ∉ l.map Prod.fst) (v : ν) : ((l ++ [(k, v)]).map Prod.fst).Nodup := by
  rw [List.map_append, List.map_singleton, ← List.concat_eq_append]
  exact h.concat hk

variable [DecidableEq κ]

/-- The value of a key. -/
def get? (m : FifoMap cap κ ν) (k : κ) : Option ν :=
  (m.entries.find? fun e => decide (e.1 = k)).map Prod.snd

/-- **A lookup finds exactly the entries.** -/
theorem get?_eq_some {m : FifoMap cap κ ν} {k : κ} {v : ν} :
    m.get? k = some v ↔ (k, v) ∈ m.entries := by
  unfold get?
  rw [Option.map_eq_some_iff]
  constructor
  · rintro ⟨e, he, rfl⟩
    obtain rfl : e.1 = k := by simpa using List.find?_some he
    exact List.mem_of_find?_eq_some he
  · intro hmem
    have hsome : (m.entries.find? fun e => decide (e.1 = k)).isSome = true :=
      List.find?_isSome.mpr ⟨(k, v), hmem, decide_eq_true rfl⟩
    obtain ⟨e, he⟩ := Option.isSome_iff_exists.mp hsome
    refine ⟨e, he, ?_⟩
    have hk : e.1 = k := by simpa using List.find?_some he
    have heq := List.inj_on_of_nodup_map m.nodup (List.mem_of_find?_eq_some he) hmem hk
    rw [heq]

theorem get?_eq_none {m : FifoMap cap κ ν} {k : κ} : m.get? k = none ↔ k ∉ m.keys := by
  rw [Option.eq_none_iff_forall_ne_some]
  constructor
  · rintro h hk
    obtain ⟨e, he, rfl⟩ := List.mem_map.mp hk
    exact h e.2 (get?_eq_some.mpr he)
  · rintro h v hv
    exact h (List.mem_map.mpr ⟨(k, v), get?_eq_some.mp hv, rfl⟩)

/-- The entries with the value of a key changed. -/
def replace (k : κ) (v : ν) (l : List (κ × ν)) : List (κ × ν) :=
  l.map fun e => if e.1 = k then (k, v) else e

theorem replace_keys (k : κ) (v : ν) (l : List (κ × ν)) :
    (replace k v l).map Prod.fst = l.map Prod.fst := by
  rw [replace, List.map_map]
  refine List.map_congr_left fun e _ => ?_
  by_cases he : e.1 = k <;> simp [he]

/-- Set the value of a key: in place, or as the youngest entry. -/
def insert [NeZero cap] (m : FifoMap cap κ ν) (k : κ) (v : ν) : FifoMap cap κ ν :=
  if hk : k ∈ m.keys then
    { entries := replace k v m.entries
      nodup := by
        rw [replace_keys]
        exact m.nodup
      length_le := by
        rw [replace, List.length_map]
        exact m.length_le }
  else
    { entries := (if m.entries.length < cap then m.entries else m.entries.tail) ++ [(k, v)]
      nodup := by
        split
        · exact nodup_snoc m.nodup hk v
        · refine nodup_snoc ?_ (fun h => hk ?_) v
          · rw [List.map_tail]
            exact m.nodup.tail
          · rw [List.map_tail] at h
            exact List.mem_of_mem_tail h
      length_le := by
        have hle := m.length_le
        have hpos := Nat.pos_of_ne_zero (NeZero.ne cap)
        rw [List.length_append, List.length_singleton]
        split
        · omega
        · rw [List.length_tail]
          omega }

section insert

variable [NeZero cap] {m : FifoMap cap κ ν} {k k' : κ} {v : ν}

theorem insert_of_mem (hk : k ∈ m.keys) : (m.insert k v).entries = replace k v m.entries := by
  rw [insert, dif_pos hk]

theorem insert_of_notMem (hk : k ∉ m.keys) : (m.insert k v).entries =
    (if m.entries.length < cap then m.entries else m.entries.tail) ++ [(k, v)] := by
  rw [insert, dif_neg hk]

end insert

end FifoMap

/-! ## A table that is written cyclically -/

variable {α : Type*}

/-- Writing the slot that is next, and going on: the oldest entry goes, the new one is the
youngest. -/
theorem rotate_set_succ {l : List α} {n : ℕ} (x : α) (hn : n < l.length) :
    (l.set n x).rotate (n + 1) = (l.rotate n).tail ++ [x] := by
  obtain ⟨a, ha⟩ : ∃ a, a = l.take n := ⟨_, rfl⟩
  have hlen : a.length = n := by
    rw [ha, List.length_take_of_le (Nat.le_of_lt hn)]
  have hl : l = a ++ l[n] :: l.drop (n + 1) := by
    rw [ha, ← List.drop_eq_getElem_cons hn, List.take_append_drop]
  generalize l[n] = y at hl
  generalize l.drop (n + 1) = b at hl
  subst hl
  have hset : (a ++ y :: b).set n x = (a ++ [x]) ++ b := by
    rw [List.set_append_right _ _ (Nat.le_of_eq hlen), hlen, Nat.sub_self, List.set_cons_zero,
      List.append_assoc, List.singleton_append]
  have hlen' : n + 1 = (a ++ [x]).length := by
    rw [List.length_append, hlen, List.length_singleton]
  rw [hset, hlen', List.rotate_append_length_eq, ← hlen, List.rotate_append_length_eq,
    List.cons_append, List.tail_cons, List.append_assoc]

end ArchosGpl.Lib
