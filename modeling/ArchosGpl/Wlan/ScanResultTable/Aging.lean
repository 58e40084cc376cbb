import ArchosGpl.Lib.Sweep
import ArchosGpl.Wlan.ScanResultTable.Model
import Mathlib.Algebra.Group.Int.Defs
import Mathlib.Algebra.Group.Nat.Defs

/-!
# The ageing of the scan result table

`scanResultTable_PerformAging` compares words: the stamp of an entry against the clock less the
threshold, each of 32 bits. A `Dated` entry also has the moment of its last update, counted without
a wrap, and the clock shows the word of the moment of a check. **`ages_exactly_iff`**: whatever a
call that runs from `start` to `stop` sees of the clock, it removes the entries that are older than
the threshold and no other ones, exactly if the words of update and threshold compare as the
moments do (`Dated.Timely`). They do not while the clock is below the threshold, nor for an entry
that was last updated before a wrap (`ages_wrongly`).
-/

namespace ArchosGpl.Wlan.ScanResultTable

open Lib

/-! ## Entries and moments -/

/-- An entry, and the moment of its last update. -/
structure Dated where
  entry : TSiteEntry
  updated : ℕ
  stamp : entry.localTimeStamp = UInt32.ofNat updated

namespace Dated

/-- An entry is older than the threshold, in seconds. -/
def Older (uSraThreshold : UInt32) (now : ℕ) (d : Dated) : Prop :=
  d.updated + uSraThreshold.toNat * 1000 < now

instance (uSraThreshold : UInt32) (now : ℕ) (d : Dated) : Decidable (d.Older uSraThreshold now) :=
  inferInstanceAs (Decidable (_ < _))

/-- The moment that entries are compared with. It is negative while the clock is below the
threshold. -/
def limit (uSraThreshold : UInt32) (now : ℕ) : ℤ := now - uSraThreshold.toNat * 1000

/-- The update and the limit are in one period of the clock, or their words compare as the periods
do. -/
def Timely (uSraThreshold : UInt32) (now : ℕ) (d : Dated) : Prop :=
  ((d.updated : ℤ) / 2 ^ 32 < limit uSraThreshold now / 2 ^ 32 →
    (d.updated : ℤ) % 2 ^ 32 < limit uSraThreshold now % 2 ^ 32) ∧
  (limit uSraThreshold now / 2 ^ 32 < (d.updated : ℤ) / 2 ^ 32 →
    limit uSraThreshold now % 2 ^ 32 ≤ (d.updated : ℤ) % 2 ^ 32)

end Dated

def TScanResultTable.dated (t : TScanResultTable) (l : List Dated) : TScanResultTable :=
  { t with pTable := l.map Dated.entry }

/-- The search for the key of an entry ends at the entry. -/
def Reachable (t : TScanResultTable) (e : TSiteEntry) : Prop :=
  ∃ i, t.getBySsidBssidPair e.key = some i ∧ t.pTable[i]? = some e

/-- The moments of the checks of a call. -/
structure Readings (start stop n : ℕ) (moments : List ℕ) : Prop where
  length_eq : moments.length = n
  sorted : moments.Pairwise (· ≤ ·)
  within : ∀ now ∈ moments, start ≤ now ∧ now ≤ stop

/-- A call whose checks are at the moments removes the entries that are older than the threshold:
what is gone was older at some check, what is kept was not older at some check. -/
def AgedExactly (t : TScanResultTable) (l : List Dated) (moments : List ℕ) : Prop :=
  ∃ aged kept : List Dated, l.Perm (aged ++ kept) ∧
    (t.dated l).performAging (moments.map UInt32.ofNat) = t.dated kept ∧
    (∀ d ∈ aged, ∃ now ∈ moments, d.Older t.uSraThreshold now) ∧
    (∀ d ∈ kept, ∃ now ∈ moments, ¬d.Older t.uSraThreshold now) ∧
    ((l.map fun d => d.entry.key).Nodup → ∀ d ∈ kept, Reachable (t.dated kept) d.entry)

/-! ## Words and moments -/

variable {t : TScanResultTable} {l : List Dated} {d : Dated} {now : ℕ} {uSraThreshold : UInt32}

theorem isOld_iff : t.isOld d.entry (UInt32.ofNat now) = true ↔
    (d.updated : ℤ) % 2 ^ 32 < Dated.limit t.uSraThreshold now % 2 ^ 32 := by
  have hthreshold : t.uSraThreshold.toNat < 2 ^ 32 := t.uSraThreshold.toNat_lt
  rw [TScanResultTable.isOld, decide_eq_true_iff, UInt32.lt_iff_toNat_lt, d.stamp, UInt32.toNat_sub,
    UInt32.toNat_mul, UInt32.toNat_ofNat', UInt32.toNat_ofNat', Dated.limit]
  have hthousand : (1000 : UInt32).toNat = 1000 := rfl
  rw [hthousand]
  omega

theorem word_lt_iff (x p : ℤ) : (x % 2 ^ 32 < p % 2 ^ 32 ↔ x < p) ↔
    (x / 2 ^ 32 < p / 2 ^ 32 → x % 2 ^ 32 < p % 2 ^ 32) ∧
      (p / 2 ^ 32 < x / 2 ^ 32 → p % 2 ^ 32 ≤ x % 2 ^ 32) := by
  omega

theorem Dated.older_iff :
    d.Older uSraThreshold now ↔ (d.updated : ℤ) < limit uSraThreshold now := by
  rw [Older, limit]
  omega

/-- **The code tells the age of an entry** exactly if the entry is timely. -/
theorem Dated.isOld_iff_older :
    (t.isOld d.entry (UInt32.ofNat now) = true ↔ d.Older t.uSraThreshold now) ↔
      d.Timely t.uSraThreshold now := by
  rw [isOld_iff, older_iff, Timely]
  exact word_lt_iff _ _

/-! ## The loop -/

theorem removeEntry_eq {i : ℕ} {e : TSiteEntry} (h : t.pTable[i]? = some e) :
    t.removeEntry i = { t with pTable := swapRemove t.pTable i } := by
  have hi : i < t.pTable.length := (List.getElem?_eq_some_iff.mp h).1
  rw [TScanResultTable.removeEntry, swapRemove]
  cases t.pTable.getLast? with
  | none => rfl
  | some last => exact if_pos hi

theorem agingLoop_eq (clock : List UInt32) (i : ℕ) (t : TScanResultTable) :
    TScanResultTable.agingLoop clock.length i clock t =
      { t with pTable := prune (fun now e => t.isOld e now) clock i t.pTable } := by
  induction clock generalizing i t with
  | nil => rfl
  | cons now clock ih =>
    rw [List.length_cons, TScanResultTable.agingLoop, prune, List.headD_cons, List.tail_cons]
    cases hat : t.pTable[i]? with
    | none => rfl
    | some e =>
      dsimp only
      split
      · rw [removeEntry_eq hat, ih]
        rfl
      · exact ih (i + 1) t

theorem performAging_dated {moments : List ℕ} (hlen : moments.length = l.length) :
    (t.dated l).performAging (moments.map UInt32.ofNat) =
      t.dated (prune (fun now d => t.isOld d.entry (UInt32.ofNat now)) moments 0 l) := by
  have hlength : (t.dated l).pTable.length = (moments.map UInt32.ofNat).length := by
    rw [TScanResultTable.dated, List.length_map, List.length_map, hlen]
  rw [TScanResultTable.performAging, hlength, agingLoop_eq]
  exact congrArg (fun l => { t with pTable := l })
    (prune_map UInt32.ofNat Dated.entry moments 0 l)

theorem performAging_spec (t : TScanResultTable) {moments : List ℕ}
    (hlen : moments.length = l.length) :
    ∃ aged kept : List Dated, l.Perm (aged ++ kept) ∧
      (t.dated l).performAging (moments.map UInt32.ofNat) = t.dated kept ∧
      (∀ d ∈ aged, ∃ now ∈ moments, t.isOld d.entry (UInt32.ofNat now) = true) ∧
      ∀ d ∈ kept, ∃ now ∈ moments, t.isOld d.entry (UInt32.ofNat now) = false := by
  obtain ⟨aged, hperm, haged, hkept⟩ :=
    prune_spec (fun now (d : Dated) => t.isOld d.entry (UInt32.ofNat now)) (Nat.le_of_eq hlen.symm)
  exact ⟨aged, _, hperm, performAging_dated hlen, haged, hkept⟩

theorem reachable_of_mem {e : TSiteEntry} (hnodup : (t.pTable.map TSiteEntry.key).Nodup)
    (he : e ∈ t.pTable) : Reachable t e := by
  cases hfind : t.getBySsidBssidPair e.key with
  | none =>
    have hfalse := List.findIdx?_eq_none_iff.mp hfind e he
    exact absurd rfl (of_decide_eq_false hfalse)
  | some i =>
    obtain ⟨hlt, hkey, -⟩ := List.findIdx?_eq_some_iff_getElem.mp hfind
    have hsame : t.pTable[i] = e :=
      List.inj_on_of_nodup_map hnodup (List.getElem_mem hlt) he (of_decide_eq_true hkey)
    exact ⟨i, hfind, hsame ▸ List.getElem?_eq_getElem hlt⟩

theorem keys_nodup {aged kept : List Dated} (hperm : l.Perm (aged ++ kept))
    (hnodup : (l.map fun d => d.entry.key).Nodup) :
    ((t.dated kept).pTable.map TSiteEntry.key).Nodup := by
  have hall := (hperm.map fun d => d.entry.key).nodup_iff.mp hnodup
  rw [List.map_append] at hall
  rw [TScanResultTable.dated, List.map_map]
  exact (List.nodup_append.mp hall).2.1

/-! ## Exactness -/

theorem agedExactly_of_timely {moments : List ℕ} (hlen : moments.length = l.length)
    (htimely : ∀ d ∈ l, ∀ now ∈ moments, d.Timely t.uSraThreshold now) :
    AgedExactly t l moments := by
  obtain ⟨aged, kept, hperm, hcall, haged, hkept⟩ := performAging_spec t hlen
  refine ⟨aged, kept, hperm, hcall, fun d hd => ?_, fun d hd => ?_, fun hnodup d hd => ?_⟩
  · obtain ⟨now, hnow, hold⟩ := haged d hd
    have hmem : d ∈ l := hperm.mem_iff.mpr (List.mem_append_left kept hd)
    exact ⟨now, hnow, (Dated.isOld_iff_older.mpr (htimely d hmem now hnow)).mp hold⟩
  · obtain ⟨now, hnow, hyoung⟩ := hkept d hd
    have hmem : d ∈ l := hperm.mem_iff.mpr (List.mem_append_right aged hd)
    refine ⟨now, hnow, fun holder => ?_⟩
    have hold := (Dated.isOld_iff_older.mpr (htimely d hmem now hnow)).mpr holder
    exact absurd (hyoung.symm.trans hold) Bool.false_ne_true
  · exact reachable_of_mem (keys_nodup hperm hnodup) (List.mem_map_of_mem hd)

/-- A call during which the clock stands still does what it should only where every entry is
timely. -/
theorem timely_of_agedExactly {moments : List ℕ} (h : AgedExactly t l moments)
    (hlen : moments.length = l.length) (hstill : ∀ x ∈ moments, x = now) (hd : d ∈ l) :
    d.Timely t.uSraThreshold now := by
  obtain ⟨aged, kept, hperm, hcall, haged, hkept, -⟩ := h
  obtain ⟨gone, left, hperm', hcall', hgone, hleft⟩ :=
    performAging_spec t hlen
  have hsame : kept.map Dated.entry = left.map Dated.entry :=
    congrArg TScanResultTable.pTable (hcall.symm.trans hcall')
  -- so what is gone is the same too
  have hgone' : (aged.map Dated.entry).Perm (gone.map Dated.entry) := by
    have hall := (hperm.symm.trans hperm').map Dated.entry
    rw [List.map_append, List.map_append, hsame] at hall
    exact (List.perm_append_right_iff _).mp hall
  rw [← Dated.isOld_iff_older]
  rcases List.mem_append.mp (hperm.mem_iff.mp hd) with haged' | hkept'
  · obtain ⟨now', hnow', holder⟩ := haged d haged'
    obtain ⟨d', hd', hentry⟩ := List.mem_map.mp (hgone'.subset (List.mem_map_of_mem haged'))
    obtain ⟨now'', hnow'', hold⟩ := hgone d' hd'
    rw [hstill _ hnow'] at holder
    rw [hstill _ hnow'', hentry] at hold
    exact iff_of_true hold holder
  · obtain ⟨now', hnow', hyounger⟩ := hkept d hkept'
    obtain ⟨d', hd', hentry⟩ := List.mem_map.mp (hsame ▸ List.mem_map_of_mem hkept')
    obtain ⟨now'', hnow'', hyoung⟩ := hleft d' hd'
    rw [hstill _ hnow'] at hyounger
    rw [hstill _ hnow'', hentry] at hyoung
    exact iff_of_false (hyoung ▸ Bool.false_ne_true) hyounger

/-- **A call ages exactly** if and only if every entry is timely at every moment of it. -/
theorem ages_exactly_iff (t : TScanResultTable) (l : List Dated) (start stop : ℕ) :
    (∀ moments, Readings start stop l.length moments → AgedExactly t l moments) ↔
      ∀ d ∈ l, ∀ now, start ≤ now → now ≤ stop → d.Timely t.uSraThreshold now := by
  constructor
  · intro h d hd now hstart hstop
    have hread : Readings start stop l.length (List.replicate l.length now) :=
      ⟨List.length_replicate, List.pairwise_replicate.mpr (Or.inr (Nat.le_refl now)),
        fun x hx => List.eq_of_mem_replicate hx ▸ ⟨hstart, hstop⟩⟩
    exact timely_of_agedExactly (h _ hread) hread.length_eq
      (fun _ => List.eq_of_mem_replicate) hd
  · intro h moments hread
    exact agedExactly_of_timely hread.length_eq fun d hd now hnow =>
      h d hd now (hread.within now hnow).1 (hread.within now hnow).2

/-! ## Shortly after boot, and after a wrap -/

/-- An entry that was last updated at a moment. -/
def updatedAt (updated : ℕ) : Dated where
  entry := { TSiteEntry.zero with localTimeStamp := UInt32.ofNat updated }
  updated := updated
  stamp := rfl

/-- **Ageing is not exact.** Two seconds after the clock began a site that was seen a second ago is
removed, and after a wrap a site that is too old is kept. -/
theorem ages_wrongly :
    ¬AgedExactly (.init 32 .dontClear) [updatedAt 1000] [2000] ∧
      ¬AgedExactly (.init 32 .dontClear) [updatedAt (2 ^ 32 - 100000)] [2 ^ 32 + 100000] := by
  refine ⟨fun h => ?_, fun h => ?_⟩
  · have htimely :=
      timely_of_agedExactly h rfl (fun _ => List.mem_singleton.mp) (List.mem_singleton_self _)
    exact absurd (htimely.2 (by decide)) (by decide)
  · have htimely :=
      timely_of_agedExactly h rfl (fun _ => List.mem_singleton.mp) (List.mem_singleton_self _)
    exact absurd (htimely.1 (by decide)) (by decide)

end ArchosGpl.Wlan.ScanResultTable
