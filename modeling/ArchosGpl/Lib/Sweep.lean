import Mathlib.Data.List.Basic
import Mathlib.Data.List.Perm.Basic
import Mathlib.Data.Nat.Notation
import Mathlib.Tactic.TypeStar

/-!
# A search that removes what it passes

`sweep dead hit` walks an unordered list from an index. An entry that is dead is replaced by the
last one, and its place is looked at again; the walk ends at the first entry that is a hit.

**`sweep_spec`**: what was removed is dead and the rest is kept, as a multiset; the entry that is
found is a hit and not dead, and if none is found no entry that is left is dead or a hit.

`prune dead looks` removes in the same way and has no hits; every look has a verdict of its own.
**`prune_spec`**: with a look for each entry, what was removed was dead at some look and what is
kept was not dead at some look.
-/

namespace ArchosGpl.Lib

variable {α : Type*}

/-- An entry is replaced by the last one, and the list gets shorter. -/
def swapRemove (l : List α) (i : ℕ) : List α :=
  match l.getLast? with
  | some last => (l.set i last).dropLast
  | none => l

/-- The index of the first hit at index `i` or later, and the list without the dead entries that
were passed. `fuel` is at least the number of entries from `i` on. -/
def sweep (dead hit : α → Bool) : ℕ → ℕ → List α → Option ℕ × List α
  | 0, _, l => (none, l)
  | fuel + 1, i, l =>
    match l[i]? with
    | none => (none, l)
    | some a =>
      if dead a then sweep dead hit fuel i (swapRemove l i)
      else if hit a then (some i, l)
      else sweep dead hit fuel (i + 1) l

variable {dead hit : α → Bool} {l : List α}

/-- The last of the entries behind the one that is removed comes first. -/
def rotateLast (rest : List α) : List α := rest.getLast?.toList ++ rest.dropLast

theorem rotateLast_perm (rest : List α) : (rotateLast rest).Perm rest := by
  rcases List.eq_nil_or_concat rest with rfl | ⟨mid, last, rfl⟩
  · exact List.Perm.refl _
  · simpa [rotateLast] using (List.perm_append_singleton last mid).symm

theorem swapRemove_append (pre : List α) (a : α) (rest : List α) :
    swapRemove (pre ++ a :: rest) pre.length = pre ++ rotateLast rest := by
  rcases List.eq_nil_or_concat rest with rfl | ⟨mid, last, rfl⟩
  · simp [swapRemove, rotateLast]
  · have hlast : (pre ++ a :: (mid ++ [last])).getLast? = some last := by
      rw [← List.cons_append, ← List.append_assoc]
      exact List.getLast?_concat
    have hset : (pre ++ a :: (mid ++ [last])).set pre.length last =
        pre ++ last :: mid ++ [last] := by simp
    simp only [swapRemove, hlast, hset, List.concat_eq_append, List.dropLast_concat]
    simp [rotateLast]

/-- What the walk leaves. -/
structure Swept (dead hit : α → Bool) (l : List α) (r : Option ℕ × List α) : Prop where
  removed : ∃ gone, l.Perm (gone ++ r.2) ∧ ∀ a ∈ gone, dead a = true
  found : ∀ i, r.1 = some i → ∃ a, r.2[i]? = some a ∧ dead a = false ∧ hit a = true
  notFound : r.1 = none → ∀ a ∈ r.2, dead a = false ∧ hit a = false

theorem sweep_from (fuel : ℕ) (pre rest : List α) (hfuel : rest.length ≤ fuel)
    (hpre : ∀ a ∈ pre, dead a = false ∧ hit a = false) :
    Swept dead hit (pre ++ rest) (sweep dead hit fuel pre.length (pre ++ rest)) := by
  induction fuel generalizing pre rest with
  | zero =>
    obtain rfl := List.eq_nil_of_length_eq_zero (Nat.le_zero.mp hfuel)
    rw [List.append_nil]
    exact ⟨⟨[], List.Perm.refl _, fun _ h => nomatch h⟩, fun _ h => (nomatch h), fun _ => hpre⟩
  | succ fuel ih =>
    cases rest with
    | nil =>
      have hend : (pre ++ ([] : List α))[pre.length]? = none := by simp
      rw [sweep, hend]
      rw [List.append_nil]
      exact ⟨⟨[], List.Perm.refl _, fun _ h => nomatch h⟩, fun _ h => (nomatch h), fun _ => hpre⟩
    | cons a rest =>
      have hat : (pre ++ a :: rest)[pre.length]? = some a := by simp
      have hle : rest.length ≤ fuel := Nat.le_of_succ_le_succ hfuel
      rw [sweep, hat]
      dsimp only
      cases hdead : dead a with
      | true =>
        -- the entry is removed, and its place is looked at again
        rw [if_pos rfl, swapRemove_append]
        have hperm := rotateLast_perm rest
        have h := ih pre (rotateLast rest) (hperm.length_eq ▸ hle) hpre
        obtain ⟨gone, hgone, hall⟩ := h.removed
        refine ⟨⟨a :: gone, ?_, List.forall_mem_cons.mpr ⟨hdead, hall⟩⟩, h.found, h.notFound⟩
        exact List.perm_middle.trans (((hperm.append_left pre).symm.trans hgone).cons a)
      | false =>
        rw [if_neg (by decide)]
        cases hhit : hit a with
        | true =>
          rw [if_pos rfl]
          refine ⟨⟨[], List.Perm.refl _, fun _ h => nomatch h⟩, fun i hi => ?_, fun h => nomatch h⟩
          cases hi
          exact ⟨a, hat, hdead, hhit⟩
        | false =>
          rw [if_neg (by decide)]
          have h := ih (pre ++ [a]) rest hle fun b hb => by
            rcases List.mem_append.mp hb with hb | hb
            · exact hpre b hb
            · rw [List.mem_singleton.mp hb]
              exact ⟨hdead, hhit⟩
          rw [List.length_append, List.length_singleton, List.append_assoc] at h
          exact h

/-- **What a search leaves.** -/
theorem sweep_spec (dead hit : α → Bool) (l : List α) :
    Swept dead hit l (sweep dead hit l.length 0 l) :=
  sweep_from l.length [] l (Nat.le_refl _) fun _ h => nomatch h

namespace Swept

variable {r : Option ℕ × List α} (h : Swept dead hit l r)

include h

theorem subset : r.2 ⊆ l := by
  obtain ⟨gone, hperm, -⟩ := h.removed
  exact fun a ha => hperm.mem_iff.mpr (List.mem_append_right gone ha)

theorem keeps {a : α} (ha : a ∈ l) (hlive : dead a = false) : a ∈ r.2 := by
  obtain ⟨gone, hperm, hall⟩ := h.removed
  rcases List.mem_append.mp (hperm.mem_iff.mp ha) with hgone | hkept
  · exact absurd (hlive.symm.trans (hall a hgone)) (by decide)
  · exact hkept

theorem length_le : r.2.length ≤ l.length := by
  obtain ⟨gone, hperm, -⟩ := h.removed
  rw [hperm.length_eq, List.length_append]
  exact Nat.le_add_left _ _

theorem nodup_map {κ : Type*} {key : α → κ} (hnodup : (l.map key).Nodup) :
    (r.2.map key).Nodup := by
  obtain ⟨gone, hperm, -⟩ := h.removed
  have := (hperm.map key).nodup_iff.mp hnodup
  rw [List.map_append] at this
  exact (List.nodup_append.mp this).2.1

theorem length_of_notFound (hnone : r.1 = none) :
    r.2.length = (l.filter fun a => !dead a).length := by
  obtain ⟨gone, hperm, hall⟩ := h.removed
  have hgone : gone.filter (fun a => !dead a) = [] :=
    List.filter_eq_nil_iff.mpr fun a ha => by simp [hall a ha]
  have hkept : r.2.filter (fun a => !dead a) = r.2 :=
    List.filter_eq_self.mpr fun a ha => by simp [(h.notFound hnone a ha).1]
  rw [(hperm.filter _).length_eq, List.filter_append, hgone, hkept, List.nil_append]

end Swept

/-! ## A verdict for every look -/

/-- The list without the entries that were dead when they were looked at, from an index on. -/
def prune {β : Type*} (dead : β → α → Bool) : List β → ℕ → List α → List α
  | [], _, l => l
  | b :: looks, i, l =>
    match l[i]? with
    | none => l
    | some a =>
      if dead b a then prune dead looks i (swapRemove l i) else prune dead looks (i + 1) l

section Prune

variable {β γ : Type*} {verdict : β → α → Bool}

theorem map_swapRemove (f : γ → α) (l : List γ) (i : ℕ) :
    swapRemove (l.map f) i = (swapRemove l i).map f := by
  rw [swapRemove, swapRemove, List.getLast?_map]
  cases l.getLast? with
  | none => rfl
  | some last => rw [Option.map_some, List.map_dropLast, List.map_set]

theorem prune_map {δ : Type*} (g : δ → β) (f : γ → α) (looks : List δ) (i : ℕ) (l : List γ) :
    prune verdict (looks.map g) i (l.map f) =
      (prune (fun b c => verdict (g b) (f c)) looks i l).map f := by
  induction looks generalizing i l with
  | nil => rfl
  | cons b looks ih =>
    rw [List.map_cons, prune, prune, List.getElem?_map]
    cases l[i]? with
    | none => rfl
    | some c =>
      dsimp only [Option.map_some]
      split
      · rw [map_swapRemove, ih]
      · exact ih (i + 1) l

theorem prune_from (looks : List β) (pre rest : List α) (hlooks : rest.length ≤ looks.length) :
    ∃ gone kept, rest.Perm (gone ++ kept) ∧
      prune verdict looks pre.length (pre ++ rest) = pre ++ kept ∧
      (∀ a ∈ gone, ∃ b ∈ looks, verdict b a = true) ∧
      ∀ a ∈ kept, ∃ b ∈ looks, verdict b a = false := by
  induction looks generalizing pre rest with
  | nil =>
    obtain rfl := List.eq_nil_of_length_eq_zero (Nat.le_zero.mp hlooks)
    exact ⟨[], [], List.Perm.refl _, rfl, List.forall_mem_nil _, List.forall_mem_nil _⟩
  | cons b looks ih =>
    cases rest with
    | nil =>
      have hend : (pre ++ ([] : List α))[pre.length]? = none := by simp
      rw [prune, hend]
      exact ⟨[], [], List.Perm.refl _, rfl, List.forall_mem_nil _, List.forall_mem_nil _⟩
    | cons a rest =>
      have hat : (pre ++ a :: rest)[pre.length]? = some a := by simp
      have hle : rest.length ≤ looks.length := Nat.le_of_succ_le_succ hlooks
      rw [prune, hat]
      dsimp only
      cases hdead : verdict b a with
      | true =>
        rw [if_pos rfl, swapRemove_append]
        have hperm := rotateLast_perm rest
        obtain ⟨gone, kept, hsplit, heq, hgone, hkept⟩ :=
          ih pre (rotateLast rest) (hperm.length_eq ▸ hle)
        refine ⟨a :: gone, kept, (hperm.symm.trans hsplit).cons a, heq,
          List.forall_mem_cons.mpr ⟨⟨b, List.mem_cons_self, hdead⟩, fun c hc => ?_⟩, fun c hc => ?_⟩
        · obtain ⟨b', hb', h⟩ := hgone c hc
          exact ⟨b', List.mem_cons_of_mem b hb', h⟩
        · obtain ⟨b', hb', h⟩ := hkept c hc
          exact ⟨b', List.mem_cons_of_mem b hb', h⟩
      | false =>
        rw [if_neg (by decide)]
        obtain ⟨gone, kept, hsplit, heq, hgone, hkept⟩ := ih (pre ++ [a]) rest hle
        rw [List.length_append, List.length_singleton, List.append_assoc] at heq
        refine ⟨gone, a :: kept, (hsplit.cons a).trans List.perm_middle.symm, ?_, fun c hc => ?_,
          List.forall_mem_cons.mpr ⟨⟨b, List.mem_cons_self, hdead⟩, fun c hc => ?_⟩⟩
        · rw [List.singleton_append, List.append_assoc, List.singleton_append] at heq
          exact heq
        · obtain ⟨b', hb', h⟩ := hgone c hc
          exact ⟨b', List.mem_cons_of_mem b hb', h⟩
        · obtain ⟨b', hb', h⟩ := hkept c hc
          exact ⟨b', List.mem_cons_of_mem b hb', h⟩

/-- **What the looks leave.** -/
theorem prune_spec (verdict : β → α → Bool) {looks : List β} {l : List α}
    (hlooks : l.length ≤ looks.length) :
    ∃ gone, l.Perm (gone ++ prune verdict looks 0 l) ∧
      (∀ a ∈ gone, ∃ b ∈ looks, verdict b a = true) ∧
      ∀ a ∈ prune verdict looks 0 l, ∃ b ∈ looks, verdict b a = false := by
  obtain ⟨gone, kept, hsplit, heq, hgone, hkept⟩ := @prune_from _ _ verdict looks [] l hlooks
  rw [List.nil_append, List.nil_append, List.length_nil] at heq
  rw [heq]
  exact ⟨gone, hsplit, hgone, hkept⟩

end Prune

/-!
## Removing entries from an array while walking it

`sieve look` walks the first entries of an array and asks `look` about each: the entry is changed,
and kept or removed. To remove one the entries behind it move down by one, and the same index is
looked at again. `look` may fail, and has a state.

**`sieve_spec`**: the entries that are kept are those of `passed look`, which asks about each entry
once, in order, and does not know of arrays.
-/

section Sieve

variable {σ α : Type*}

/-- Copy `n` entries from index `i + 1` to index `i`. -/
def moveDown (l : List α) (i n : ℕ) : List α :=
  l.take i ++ (l.drop (i + 1)).take n ++ l.drop (i + n)

/-- The walk from index `i` on: `left` entries are still to be looked at, `count` are in use. -/
def sieve (look : σ → α → Option (σ × α × Bool)) :
    ℕ → ℕ → σ → ℕ → List α → Option (σ × ℕ × List α)
  | 0, _, s, count, l => some (s, count, l)
  | left + 1, i, s, count, l =>
    (l[i]?).bind fun a => (look s a).bind fun (s, a, ok) =>
      let l := l.set i a
      if ok then sieve look left (i + 1) s count l
      else sieve look left i s (count - 1) (moveDown l i (count - i - 1))

/-- **What the look keeps of a list**, as it leaves it. -/
def passed (look : σ → α → Option (σ × α × Bool)) : σ → List α → Option (σ × List α)
  | s, [] => some (s, [])
  | s, a :: as =>
    (look s a).bind fun (s, a, ok) =>
      (passed look s as).map fun (s, kept) => (s, if ok then a :: kept else kept)

variable {look : σ → α → Option (σ × α × Bool)} {s t : σ} {p l kept q : List α} {a : α}

theorem passed_length_le (h : passed look s l = some (t, kept)) :
    kept.length ≤ l.length := by
  induction l generalizing s kept with
  | nil =>
    obtain ⟨-, rfl⟩ := Prod.mk.inj (Option.some.inj h)
    exact Nat.le_refl 0
  | cons a l ih =>
    simp only [passed, Option.bind_eq_some_iff, Option.map_eq_some_iff] at h
    obtain ⟨⟨u, b, ok⟩, -, ⟨v, kept'⟩, hrest, hkept⟩ := h
    obtain ⟨rfl, rfl⟩ := Prod.mk.inj hkept
    have := ih hrest
    cases ok with
    | true => exact Nat.succ_le_succ this
    | false => exact Nat.le_succ_of_le this

theorem passed_total (hlook : ∀ s a, ∃ r, look s a = some r) (s : σ) (l : List α) :
    ∃ r, passed look s l = some r := by
  induction l generalizing s with
  | nil => exact ⟨_, rfl⟩
  | cons a l ih =>
    obtain ⟨⟨u, b, ok⟩, hu⟩ := hlook s a
    obtain ⟨r, hr⟩ := ih u
    simp only [passed, hu, hr, Option.bind_some, Option.map_some]
    exact ⟨_, rfl⟩

theorem moveDown_append :
    ∃ b, moveDown (p ++ a :: l ++ q) p.length l.length = p ++ l ++ b :: q := by
  rcases List.eq_nil_or_concat l with rfl | ⟨mid, b, rfl⟩
  · refine ⟨a, ?_⟩
    simp [moveDown]
  · refine ⟨b, ?_⟩
    have hdrop : (p ++ a :: (mid ++ [b]) ++ q).drop (p.length + (mid ++ [b]).length) =
        b :: q := by
      rw [show p ++ a :: (mid ++ [b]) ++ q = (p ++ a :: mid) ++ b :: q by simp]
      exact List.drop_left' (by simp)
    have htake : ((p ++ a :: (mid ++ [b]) ++ q).drop (p.length + 1)).take
        (mid ++ [b]).length = mid ++ [b] := by
      rw [show p ++ a :: (mid ++ [b]) ++ q = (p ++ [a]) ++ ((mid ++ [b]) ++ q) by simp,
        List.drop_left' (by simp), List.take_left' rfl]
    unfold moveDown
    rw [List.concat_eq_append, hdrop, htake]
    simp

theorem sieve_from (h : passed look s l = some (t, kept)) :
    ∃ q', sieve look l.length p.length s (p.length + l.length)
        (p ++ l ++ q) = some (t, p.length + kept.length, p ++ kept ++ q') ∧
      kept.length + q'.length = l.length + q.length := by
  induction l generalizing s p q kept with
  | nil =>
    cases h
    exact ⟨q, by simp [sieve], rfl⟩
  | cons a l ih =>
    simp only [passed, Option.bind_eq_some_iff, Option.map_eq_some_iff] at h
    obtain ⟨⟨u, b, ok⟩, hlook, ⟨v, kept'⟩, hrest, hkept⟩ := h
    obtain ⟨rfl, rfl⟩ := Prod.mk.inj hkept
    have hget : (p ++ a :: l ++ q)[p.length]? = some a := by simp
    have hset : (p ++ a :: l ++ q).set p.length b = p ++ b :: l ++ q := by simp
    simp only [List.length_cons, sieve, hget, hlook, hset, Option.bind_some]
    cases ok with
    | true =>
      obtain ⟨q', hs, hlen⟩ := ih (p := p ++ [b]) (q := q) hrest
      refine ⟨q', ?_, ?_⟩
      · simpa [Nat.add_assoc, Nat.add_comm 1] using hs
      · simp only [if_true, List.length_cons]
        omega
    | false =>
      have hn : p.length + (l.length + 1) - p.length - 1 = l.length := by omega
      obtain ⟨c, hmove⟩ := moveDown_append (p := p) (a := b) (l := l) (q := q)
      obtain ⟨q', hs, hlen⟩ := ih (p := p) (q := c :: q) hrest
      refine ⟨q', ?_, ?_⟩
      · rw [hn, hmove]
        simpa using hs
      · simp only [Bool.false_eq_true, if_false]
        rw [hlen, List.length_cons]
        omega

/-- **The walk keeps what the look passes**: the entries in use are those, and the array has the
length it had. -/
theorem sieve_spec {l : List α} {count : ℕ} (hc : count ≤ l.length)
    (h : passed look s (l.take count) = some (t, kept)) :
    ∃ l', sieve look count 0 s count l = some (t, kept.length, l') ∧
      l'.take kept.length = kept ∧ l'.length = l.length ∧ kept.length ≤ count := by
  obtain ⟨q', hs, hlen⟩ := sieve_from (p := []) (q := l.drop count) h
  have hlength : (l.take count).length = count := List.length_take_of_le hc
  have hjunk : (l.drop count).length = l.length - count := List.length_drop
  refine ⟨kept ++ q', ?_, List.take_left' rfl, ?_, ?_⟩
  · simpa [hlength] using hs
  · rw [List.length_append, hlen, hlength, hjunk]
    omega
  · exact hlength ▸ passed_length_le h

end Sieve

end ArchosGpl.Lib
