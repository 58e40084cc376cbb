import ArchosGpl.Lib.Machine
import ArchosGpl.Wlan.AdmCtrlWpa2.PmkidModel
import Mathlib.Tactic.ByContra

/-!
# The PMKID cache is a bounded map

* `Represents.addPmkid`: **setting a PMKID refines the map** that forgets its oldest entry, unless
  the BSSID is zero and the cache is not full.
* `Sys.pmkid_cache_right`: **in every run of careful calls** the stored BSSIDs are distinct, and
  every call answers as the map does.
-/

open Function (update update_of_ne update_self)

namespace ArchosGpl.Wlan.AdmCtrlWpa2

open Lib

/-- What the cache is for: a map of 32 entries that forgets the oldest. -/
abbrev PmkidMap : Type := FifoMap admctrlPmkidCacheSize TMacAddr PmkidValue

namespace PmkidCache

/-- The entries, in the order of their slots. -/
def stored (c : PmkidCache) : List (TMacAddr × PmkidValue) :=
  (List.range c.entriesNumber).map fun i => ((c.pmkidTbl i).bssId, (c.pmkidTbl i).pmkId)

theorem mem_stored {c : PmkidCache} {e : TMacAddr × PmkidValue} : e ∈ c.stored ↔
    ∃ i < c.entriesNumber, ((c.pmkidTbl i).bssId, (c.pmkidTbl i).pmkId) = e := by
  simp [stored]

theorem length_stored (c : PmkidCache) : c.stored.length = c.entriesNumber := by
  simp [stored]

theorem stored_update (c : PmkidCache) (k : ℕ) (e : PmkidEntry) :
    ({ c with pmkidTbl := update c.pmkidTbl k e } : PmkidCache).stored =
      c.stored.set k (e.bssId, e.pmkId) := by
  refine List.ext_getElem (by simp [stored]) fun i h₁ h₂ => ?_
  by_cases hi : k = i
  · subst hi
    simp [stored]
  · simp [stored, List.getElem_set_ne hi, update_of_ne (Ne.symm hi)]

end PmkidCache

/-! ## The representation -/

/-- The cache holds the entries of a map: read from the slot that is written next they are in the
order of their age; the slots that are not in use are zero. -/
structure Represents (c : PmkidCache) (m : PmkidMap) : Prop where
  entries : m.entries = c.stored.rotate c.nextFreeEntry
  next_lt : c.nextFreeEntry < admctrlPmkidCacheSize
  next : c.entriesNumber < admctrlPmkidCacheSize → c.nextFreeEntry = c.entriesNumber
  zero : ∀ i, c.entriesNumber ≤ i → (c.pmkidTbl i).bssId = 0

namespace Represents

variable {c : PmkidCache} {m : PmkidMap} {b : TMacAddr} {p : PmkidValue}

theorem perm (h : Represents c m) : m.entries.Perm c.stored := by
  rw [h.entries]
  exact List.rotate_perm _ _

theorem length (h : Represents c m) : m.entries.length = c.entriesNumber := by
  rw [h.perm.length_eq, c.length_stored]

theorem count_le (h : Represents c m) : c.entriesNumber ≤ admctrlPmkidCacheSize :=
  h.length ▸ m.length_le

theorem distinct (h : Represents c m) : (c.stored.map Prod.fst).Nodup :=
  ((h.perm.map Prod.fst).nodup_iff).mp m.nodup

/-- A BSSID for which a lookup does not reach the slot behind the entries. -/
def Seen (c : PmkidCache) (b : TMacAddr) : Prop :=
  b = 0 → c.entriesNumber = admctrlPmkidCacheSize

theorem findPmkid_some (h : Represents c m) (hb : Seen c b) {i : ℕ} {v : PmkidValue}
    (hf : c.findPmkid b = some (i, v)) :
    i < c.entriesNumber ∧ (c.pmkidTbl i).bssId = b ∧ (c.pmkidTbl i).pmkId = v := by
  obtain ⟨j, hj, heq⟩ := Option.map_eq_some_iff.mp hf
  obtain ⟨rfl, rfl⟩ := Prod.mk.inj heq
  obtain ⟨hbj, hmem, -⟩ := List.find?_range_eq_some.mp hj
  have hbj : (c.pmkidTbl j).bssId = b := of_decide_eq_true hbj
  have hlt := Nat.lt_min.mp (List.mem_range.mp hmem)
  refine ⟨?_, hbj, rfl⟩
  by_contra hge
  have hzero := h.zero j (Nat.le_of_not_lt hge)
  have hfull := hb (hbj.symm.trans hzero)
  omega

theorem findPmkid_none (hf : c.findPmkid b = none) {i : ℕ} (hi : i < c.entriesNumber)
    (hle : c.entriesNumber ≤ admctrlPmkidCacheSize) : (c.pmkidTbl i).bssId ≠ b := by
  have hnone := List.find?_eq_none.mp (Option.map_eq_none_iff.mp hf) i
    (List.mem_range.mpr (Nat.lt_min.mpr ⟨Nat.lt_of_lt_of_le hi hle, Nat.lt_succ_of_lt hi⟩))
  exact fun hb => hnone (decide_eq_true hb)

theorem findPmkid (h : Represents c m) (hb : Seen c b) :
    (c.findPmkid b).map Prod.snd = m.get? b := by
  cases hf : c.findPmkid b with
  | none =>
    symm
    rw [Option.map_none, FifoMap.get?_eq_none]
    intro hk
    obtain ⟨e, he, rfl⟩ := List.mem_map.mp hk
    obtain ⟨i, hi, rfl⟩ := PmkidCache.mem_stored.mp (h.perm.mem_iff.mp he)
    exact findPmkid_none hf hi h.count_le rfl
  | some iv =>
    obtain ⟨i, v⟩ := iv
    obtain ⟨hi, hbi, hv⟩ := h.findPmkid_some hb hf
    symm
    rw [Option.map_some, FifoMap.get?_eq_some]
    exact h.perm.mem_iff.mpr (PmkidCache.mem_stored.mpr ⟨i, hi, by rw [hbi, hv]⟩)

theorem notMem_keys (h : Represents c m) (hb : Seen c b) (hf : c.findPmkid b = none) :
    b ∉ m.keys := by
  rw [← FifoMap.get?_eq_none, ← h.findPmkid hb, hf]
  rfl

theorem set_eq_replace (h : Represents c m) {i : ℕ} (hi : i < c.entriesNumber)
    (hbi : (c.pmkidTbl i).bssId = b) :
    c.stored.set i (b, p) = FifoMap.replace b p c.stored := by
  refine List.ext_getElem (by simp [FifoMap.replace]) fun j h₁ h₂ => ?_
  have hj : j < c.entriesNumber := by
    rw [List.length_set, c.length_stored] at h₁
    exact h₁
  have hlt : j < c.stored.length := by
    rw [c.length_stored]
    exact hj
  have hkey : c.stored[j] = ((c.pmkidTbl j).bssId, (c.pmkidTbl j).pmkId) := by
    simp [PmkidCache.stored]
  simp only [FifoMap.replace, List.getElem_map, List.getElem_set, hkey]
  by_cases hij : i = j
  · subst hij
    simp [hbi]
  · rw [if_neg hij, if_neg]
    intro hbj
    have hnodup := h.distinct
    rw [List.nodup_iff_injective_getElem] at hnodup
    have hlen : (c.stored.map Prod.fst).length = c.entriesNumber := by
      rw [List.length_map, c.length_stored]
    have heq := @hnodup ⟨i, hlen ▸ hi⟩ ⟨j, hlen ▸ hj⟩ (by simp [PmkidCache.stored, hbi, hbj])
    exact hij (congrArg Fin.val heq)

theorem addPmkid (h : Represents c m) (hb : Seen c b) :
    Represents (c.addPmkid b p) (m.insert b p) := by
  unfold PmkidCache.addPmkid
  cases hf : c.findPmkid b with
  | some iv =>
    obtain ⟨i, v⟩ := iv
    obtain ⟨hi, hbi, -⟩ := h.findPmkid_some hb hf
    have hk : b ∈ m.keys := by
      refine List.mem_map.mpr ⟨(b, (c.pmkidTbl i).pmkId), ?_, rfl⟩
      exact h.perm.mem_iff.mpr (PmkidCache.mem_stored.mpr ⟨i, hi, by rw [hbi]⟩)
    refine ⟨?_, h.next_lt, h.next, fun j hj => ?_⟩
    · rw [c.stored_update i, FifoMap.insert_of_mem hk, h.entries, hbi,
        h.set_eq_replace hi hbi, FifoMap.replace, FifoMap.replace, List.map_rotate]
    · have hji : j ≠ i := Nat.ne_of_gt (Nat.lt_of_lt_of_le hi hj)
      simp only [update_of_ne hji]
      exact h.zero j hj
  | none =>
    have hk := h.notMem_keys hb hf
    have hlen := h.length
    by_cases hlt : c.entriesNumber < admctrlPmkidCacheSize
    · have hnext := h.next hlt
      refine ⟨?_, Nat.mod_lt _ (by decide), fun hlt' => ?_, fun j hj => ?_⟩
      · have hstored : (⟨c.entriesNumber + 1, (c.nextFreeEntry + 1) % admctrlPmkidCacheSize,
            update c.pmkidTbl c.nextFreeEntry ⟨b, p⟩⟩ : PmkidCache).stored =
            c.stored ++ [(b, p)] := by
          rw [hnext]
          simp only [PmkidCache.stored, List.range_succ, List.map_append, List.map_singleton,
            update_self]
          refine congrArg (· ++ _) (List.map_congr_left fun i hi => ?_)
          rw [update_of_ne (Nat.ne_of_lt (List.mem_range.mp hi))]
        have hlen' : (c.stored ++ [(b, p)]).length = c.entriesNumber + 1 := by
          rw [List.length_append, c.length_stored, List.length_singleton]
        have hold : c.stored.rotate c.nextFreeEntry = c.stored := by
          rw [hnext, ← c.length_stored, List.rotate_length]
        rw [FifoMap.insert_of_notMem hk, if_pos (hlen ▸ hlt), h.entries, hold]
        simp only [if_pos hlt]
        rw [hstored]
        rcases Nat.lt_or_ge (c.entriesNumber + 1) admctrlPmkidCacheSize with h1 | h1
        · rw [hnext, Nat.mod_eq_of_lt h1, ← hlen', List.rotate_length]
        · have hfull : c.entriesNumber + 1 = admctrlPmkidCacheSize := by omega
          rw [hnext, hfull, Nat.mod_self, List.rotate_zero]
      · simp only [if_pos hlt] at hlt' ⊢
        rw [hnext, Nat.mod_eq_of_lt hlt']
      · simp only [if_pos hlt] at hj
        have hjn : j ≠ c.nextFreeEntry := by omega
        simp only [update_of_ne hjn]
        exact h.zero j (by omega)
    · have hfull : c.entriesNumber = admctrlPmkidCacheSize :=
        Nat.le_antisymm h.count_le (Nat.le_of_not_lt hlt)
      have hnlt : c.nextFreeEntry < c.entriesNumber := hfull ▸ h.next_lt
      refine ⟨?_, Nat.mod_lt _ (by decide), fun hlt' => ?_, fun j hj => ?_⟩
      · have hstored := c.stored_update c.nextFreeEntry ⟨b, p⟩
        have hmod : (c.nextFreeEntry + 1) % admctrlPmkidCacheSize =
            (c.nextFreeEntry + 1) % (c.stored.set c.nextFreeEntry (b, p)).length := by
          rw [List.length_set, c.length_stored, hfull]
        rw [FifoMap.insert_of_notMem hk, if_neg (hlen ▸ hlt), h.entries]
        simp only [if_neg hlt]
        refine Eq.symm ((congrArg (fun l => List.rotate l _) hstored).trans ?_)
        rw [hmod, List.rotate_mod, rotate_set_succ _ (c.length_stored ▸ hnlt)]
      · simp only [if_neg hlt] at hlt'
        exact absurd hlt' hlt
      · simp only [if_neg hlt] at hj
        have hjn : j ≠ c.nextFreeEntry := Nat.ne_of_gt (Nat.lt_of_lt_of_le hnlt hj)
        simp only [update_of_ne hjn]
        exact h.zero j hj

theorem reset : Represents .reset .empty where
  entries := rfl
  next_lt := by decide
  next _ := rfl
  zero _ _ := rfl

end Represents

/-! ## What the calls are to do -/

/-- The length that a list of `n` entries needs; a list is never shorter than for one. -/
def neededLength (n : ℕ) : ℕ := 2 * 4 + max n 1 * (macAddrLen + pmkidValueSize)

/-- Setting the first `n` entries of a list. -/
def PmkidMap.setEntries (m : PmkidMap) (info : ℕ → OsBssidInfo) (n : ℕ) : PmkidMap :=
  (List.range n).foldl (fun m i => m.insert (info i).bssid (info i).pmkid) m

/-- What setting a list is to do: an empty list clears the map. -/
def PmkidMap.set (m : PmkidMap) (l : Os80211Pmkid) : PmkidMap × TiStatus :=
  if l.length < 2 * 4 then (m, .nok)
  else if l.bssidInfoCount = 0 then (.empty, .ok)
  else if l.length < neededLength l.bssidInfoCount then (m, .nok)
  else (m.setEntries l.osBssidInfo l.bssidInfoCount, .ok)

/-- The service, and the map that its cache is to be. -/
structure Sys where
  ctrl : AdmCtrl
  map : PmkidMap

namespace Sys

def init (preAuthSupport : Bool) : Sys := ⟨⟨preAuthSupport, 0, .reset, []⟩, .empty⟩

/-- A call; the map does what the call is to do. -/
def step (s : Sys) : Op → Option Sys
  | .setPmkidList l => some ⟨(s.ctrl.setPmkidList l).1, (s.map.set l).1⟩
  | .resetPmkidCache => some ⟨{ s.ctrl with pmkidCache := .reset }, .empty⟩
  | .findPmkid _ | .getPmkidList _ _ => some s

/-- What getting the list is to return: the entries of the map in some order, or the length that is
needed. Without pre-authentication the list is not supported. -/
def RightList (s : Sys) (l : Os80211Pmkid) : Os80211Pmkid × TiStatus → Prop
  | (l', status) =>
    if s.ctrl.preAuthSupport = false then status = .paramNotSupported ∧ l' = l
    else if l.length < neededLength s.map.entries.length then
      status = .nok ∧ l' = { l with length := neededLength s.map.entries.length }
    else
      status = .ok ∧ l'.length = neededLength s.map.entries.length ∧
        ((List.range l'.bssidInfoCount).map fun i =>
          ((l'.osBssidInfo i).bssid, (l'.osBssidInfo i).pmkid)).Perm s.map.entries

/-- What a call is to do: the stored entries have distinct BSSIDs and are those of the map, and the
answer is the map's. -/
def Right (s : Sys) (op : Op) : Prop :=
  (∃ t, s.step op = some t ∧ (t.ctrl.pmkidCache.stored.map Prod.fst).Nodup ∧
    t.ctrl.pmkidCache.stored.Perm t.map.entries) ∧
    match op with
    | .setPmkidList l => (s.ctrl.setPmkidList l).2.2 = (s.map.set l).2
    | .resetPmkidCache => True
    | .findPmkid b => (s.ctrl.pmkidCache.findPmkid b).map Prod.snd = s.map.get? b
    | .getPmkidList l atPmkid => s.RightList l (s.ctrl.getPmkidList l atPmkid)

/-- A call that the cache can bear. The zero BSSID comes only where the cache is full; no length
wraps in 8 bits; and the bytes at the address of the pointer are those that it points to. -/
def Careful (s : Sys) : Op → Prop
  | .setPmkidList l =>
    l.length < 2 * 4 ∨ l.bssidInfoCount = 0 ∨
      l.length < neededLength l.bssidInfoCount ∧ l.length < AdmCtrl.setNeededLength l ∨
      neededLength l.bssidInfoCount ≤ l.length ∧ l.bssidInfoCount < 2 ^ 8 ∧
        ∀ i < l.bssidInfoCount, (l.osBssidInfo i).bssid = 0 →
          (s.map.setEntries l.osBssidInfo i).entries.length = admctrlPmkidCacheSize
  | .resetPmkidCache => True
  | .findPmkid b => Represents.Seen s.ctrl.pmkidCache b
  | .getPmkidList l atPmkid =>
    s.ctrl.preAuthSupport = false ∨ s.ctrl.pmkidCache.entriesNumber ≤ 11 ∧
      (l.length < neededLength s.ctrl.pmkidCache.entriesNumber ∨
        ∀ i < s.ctrl.pmkidCache.entriesNumber,
          atPmkid i = (s.ctrl.pmkidCache.pmkidTbl i).pmkId)

/-! ## The calls -/

variable {s : Sys}

theorem setEntries_represents {info : ℕ → OsBssidInfo} {a : AdmCtrl} {m : PmkidMap} (n : ℕ)
    (h : Represents a.pmkidCache m)
    (hzero : ∀ i < n, (info i).bssid = 0 →
      (m.setEntries info i).entries.length = admctrlPmkidCacheSize) :
    Represents ((List.range n).foldl (fun a i => a.setEntry (info i)) a).pmkidCache
      (m.setEntries info n) := by
  induction n with
  | zero => exact h
  | succ n ih =>
    have hn := ih fun i hi => hzero i (Nat.lt_succ_of_lt hi)
    unfold PmkidMap.setEntries at hn hzero ⊢
    rw [List.range_succ, List.foldl_append, List.foldl_append]
    generalize (List.range n).foldl (fun a i => a.setEntry (info i)) a = a' at hn
    have hcount : a'.countCandidate.pmkidCache = a'.pmkidCache := by
      unfold AdmCtrl.countCandidate
      split
      · rfl
      · split <;> rfl
    show Represents (a'.countCandidate.pmkidCache.addPmkid (info n).bssid (info n).pmkid) _
    rw [hcount]
    exact hn.addPmkid fun hb => hn.length ▸ hzero n (Nat.lt_succ_self n) hb

theorem setNeededLength_le (l : Os80211Pmkid) :
    AdmCtrl.setNeededLength l ≤ neededLength l.bssidInfoCount := by
  refine Nat.le_trans (Nat.mod_le _ _) ?_
  have hle : AdmCtrl.numOfEntries l ≤ max l.bssidInfoCount 1 :=
    Nat.le_trans (Nat.mod_le _ _) (Nat.le_max_left _ _)
  exact Nat.add_le_add_left (Nat.mul_le_mul_right _ hle) _

theorem setPmkidList_represents {l : Os80211Pmkid} (h : Represents s.ctrl.pmkidCache s.map)
    (hc : s.Careful (.setPmkidList l)) :
    Represents (s.ctrl.setPmkidList l).1.pmkidCache (s.map.set l).1 ∧
      (s.ctrl.setPmkidList l).2.2 = (s.map.set l).2 := by
  unfold AdmCtrl.setPmkidList PmkidMap.set
  by_cases hmin : l.length < 2 * 4
  · rw [if_pos hmin, if_pos hmin]
    exact ⟨h, rfl⟩
  rw [if_neg hmin, if_neg hmin]
  by_cases hzero : l.bssidInfoCount = 0
  · rw [if_pos hzero, if_pos hzero]
    exact ⟨.reset, rfl⟩
  rw [if_neg hzero, if_neg hzero]
  rcases (hc.resolve_left hmin).resolve_left hzero with ⟨hlt, hlt'⟩ | ⟨hle, hcount, hbssid⟩
  · rw [if_pos hlt, if_pos hlt']
    exact ⟨h, rfl⟩
  · have hnum : AdmCtrl.numOfEntries l = l.bssidInfoCount := Nat.mod_eq_of_lt hcount
    have hle' := Nat.le_trans (setNeededLength_le l) hle
    rw [if_neg (Nat.not_lt.mpr hle), if_neg (Nat.not_lt.mpr hle'), hnum]
    exact ⟨setEntries_represents _ h hbssid, rfl⟩

theorem getNeededLength_eq {a : AdmCtrl} (h : a.pmkidCache.entriesNumber ≤ 11) :
    a.getNeededLength = neededLength a.pmkidCache.entriesNumber := by
  unfold AdmCtrl.getNeededLength neededLength macAddrLen pmkidValueSize
  split <;> omega

theorem getPmkidList_right {l : Os80211Pmkid} {atPmkid : ℕ → PmkidValue}
    (h : Represents s.ctrl.pmkidCache s.map) (hc : s.Careful (.getPmkidList l atPmkid)) :
    s.RightList l (s.ctrl.getPmkidList l atPmkid) := by
  unfold RightList AdmCtrl.getPmkidList
  by_cases hpre : s.ctrl.preAuthSupport = false
  · rw [if_pos hpre]
    simp only
    rw [if_pos hpre]
    exact ⟨trivial, trivial⟩
  obtain ⟨hfew, hrest⟩ := hc.resolve_left hpre
  rw [if_neg hpre, getNeededLength_eq hfew]
  by_cases hlt : l.length < neededLength s.ctrl.pmkidCache.entriesNumber
  · rw [if_pos hlt]
    simp only
    rw [if_neg hpre, h.length, if_pos hlt]
    exact ⟨trivial, rfl⟩
  · have hat := hrest.resolve_left hlt
    rw [if_neg hlt]
    simp only
    rw [if_neg hpre, h.length, if_neg hlt]
    refine ⟨trivial, rfl, List.Perm.trans (.of_eq ?_) h.perm.symm⟩
    refine List.map_congr_left fun i hi => ?_
    have hi := List.mem_range.mp hi
    simp only [if_pos hi, hat i hi]

theorem few_of_getNeededLength {a : AdmCtrl}
    (h : a.getNeededLength = neededLength a.pmkidCache.entriesNumber) :
    a.pmkidCache.entriesNumber ≤ 11 := by
  unfold AdmCtrl.getNeededLength neededLength macAddrLen pmkidValueSize at h
  split at h <;> omega

theorem careful_of_rightList {l : Os80211Pmkid} {atPmkid : ℕ → PmkidValue}
    (h : Represents s.ctrl.pmkidCache s.map)
    (hr : s.RightList l (s.ctrl.getPmkidList l atPmkid)) :
    s.Careful (.getPmkidList l atPmkid) := by
  by_cases hpre : s.ctrl.preAuthSupport = false
  · exact Or.inl hpre
  right
  unfold RightList AdmCtrl.getPmkidList at hr
  rw [if_neg hpre] at hr
  by_cases hcode : l.length < s.ctrl.getNeededLength
  · rw [if_pos hcode] at hr
    simp only [if_neg hpre, h.length] at hr
    by_cases hlt : l.length < neededLength s.ctrl.pmkidCache.entriesNumber
    · rw [if_pos hlt] at hr
      exact ⟨few_of_getNeededLength (congrArg Os80211Pmkid.length hr.2), Or.inl hlt⟩
    · rw [if_neg hlt] at hr
      cases hr.1
  · rw [if_neg hcode] at hr
    simp only [if_neg hpre, h.length] at hr
    by_cases hlt : l.length < neededLength s.ctrl.pmkidCache.entriesNumber
    · rw [if_pos hlt] at hr
      cases hr.1
    · rw [if_neg hlt] at hr
      obtain ⟨-, hlen, hperm⟩ := hr
      refine ⟨few_of_getNeededLength hlen, Or.inr fun i hi => ?_⟩
      have hgot : ((s.ctrl.pmkidCache.pmkidTbl i).bssId, atPmkid i) ∈ s.map.entries := by
        refine hperm.mem_iff.mp (List.mem_map.mpr ⟨i, List.mem_range.mpr hi, ?_⟩)
        simp only [if_pos hi]
      have hhas := h.perm.mem_iff.mpr (PmkidCache.mem_stored.mpr ⟨i, hi, rfl⟩)
      exact Option.some.inj
        ((FifoMap.get?_eq_some.mpr hgot).symm.trans (FifoMap.get?_eq_some.mpr hhas))

theorem careful_right {op : Op} (h : Represents s.ctrl.pmkidCache s.map) (hc : s.Careful op) :
    s.Right op ∧ ∀ t, s.step op = some t → Represents t.ctrl.pmkidCache t.map := by
  have hstep : ∀ t, s.step op = some t → Represents t.ctrl.pmkidCache t.map := by
    rintro t ht
    cases op with
    | setPmkidList l => exact Option.some.inj ht ▸ (setPmkidList_represents h hc).1
    | resetPmkidCache => exact Option.some.inj ht ▸ .reset
    | findPmkid b | getPmkidList l atPmkid => exact Option.some.inj ht ▸ h
  refine ⟨⟨?_, ?_⟩, hstep⟩
  · obtain ⟨t, ht⟩ : ∃ t, s.step op = some t := by cases op <;> exact ⟨_, rfl⟩
    exact ⟨t, ht, (hstep t ht).distinct, (hstep t ht).perm.symm⟩
  · cases op with
    | setPmkidList l => exact (setPmkidList_represents h hc).2
    | resetPmkidCache => trivial
    | findPmkid b => exact h.findPmkid hc
    | getPmkidList l atPmkid => exact getPmkidList_right h hc

/-- **The PMKID cache is a bounded map.** In every run of careful calls the stored BSSIDs are
distinct and the stored entries are those of the map that forgets its oldest entry, and every
call answers as the map does. -/
theorem pmkid_cache_right (preAuthSupport : Bool) (ops : List Op)
    (h : Along step Careful (init preAuthSupport) ops) :
    Along step Right (init preAuthSupport) ops :=
  Along.of_invariant (I := fun s => Represents s.ctrl.pmkidCache s.map)
    (fun _ _ hs hc => careful_right hs hc) .reset h

instance (s : Sys) (op : Op) : Decidable (s.Careful op) := by
  unfold Careful Represents.Seen
  split <;> infer_instance

/-- A list of `n` entries, long enough, with the BSSIDs 1, 2, … and the PMKIDs 101, 102, …. -/
def listOf (n : ℕ) : Os80211Pmkid where
  length := neededLength n
  bssidInfoCount := n
  osBssidInfo i := ⟨fun _ => UInt8.ofNat (i + 1), fun _ => UInt8.ofNat (i + 101)⟩

/-- Two entries are set, one is looked up, and the list is asked for with a short buffer. -/
theorem pmkid_cache_right_listOf : Along step Right (init true)
    [.setPmkidList (listOf 2), .findPmkid fun _ => 2, .getPmkidList (listOf 1) fun _ _ => 0] :=
  pmkid_cache_right true _ (by decide +kernel)

/-- **Three ways to fail.** A lookup of the zero BSSID finds the slot behind the entries; a list
with an entry is returned with the bytes of a pointer; and a buffer of 16 bytes is enough for
twelve. -/
theorem pmkid_cache_wrong :
    ¬ Along step Right (init true) [.findPmkid 0] ∧
    ¬ Along step Right (init true)
      [.setPmkidList (listOf 1), .getPmkidList (listOf 1) fun _ _ => 0] ∧
    ¬ Along step Right (init true)
      [.setPmkidList (listOf 12), .getPmkidList ⟨16, 0, (listOf 0).osBssidInfo⟩ fun _ _ => 0] := by
  refine ⟨?_, ?_, ?_⟩
  · rintro ⟨⟨-, h⟩, -⟩
    exact absurd h (by decide +kernel)
  all_goals
    rintro ⟨-, h⟩
    obtain ⟨⟨-, hr⟩, -⟩ := h _ rfl
    refine absurd (careful_of_rightList (setPmkidList_represents .reset ?_).1 hr) ?_
    all_goals decide +kernel

end Sys

end ArchosGpl.Wlan.AdmCtrlWpa2
