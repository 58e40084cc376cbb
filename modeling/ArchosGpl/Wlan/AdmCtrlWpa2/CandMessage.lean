import ArchosGpl.Wlan.AdmCtrlWpa2.CandList
import ArchosGpl.Wlan.AdmCtrlWpa2.PmkidMap
import Mathlib.Data.List.Perm.Subperm

/-!
# The message of candidates

**Exactly which lists are sent right**: the cached candidates get their BSSID at the next place of
the message, but their flag at their place in the cache. So the entries that were not in the list
must stand in the cache where they come in the message, behind as many entries as there are listed
candidates. Then no write leaves the buffer and the size does not wrap, as long as there are at
most sixteen.

`Sys.entries_distinct`: whatever calls come, the entries of the cache are distinct and fit.
-/

open Function (update update_of_ne update_self)

namespace ArchosGpl.Wlan.AdmCtrlWpa2

/-! ## The cache -/

namespace PmkidCache.Sound

variable {c : PmkidCache} {b : TMacAddr} {i : ℕ}

theorem reset : PmkidCache.reset.Sound where
  count_le := Nat.zero_le _
  next _ := rfl
  next_lt := by decide
  distinct i hi := absurd hi (Nat.not_lt_zero i)

theorem find_iff (h : c.Sound) (hi : i < c.entriesNumber) :
    (∃ v, c.findPmkid b = some (i, v)) ↔ (c.pmkidTbl i).bssId = b := by
  unfold PmkidCache.findPmkid
  constructor
  · rintro ⟨v, hv⟩
    obtain ⟨j, hj, heq⟩ := Option.map_eq_some_iff.mp hv
    obtain ⟨rfl, -⟩ := Prod.mk.inj heq
    exact of_decide_eq_true (List.find?_range_eq_some.mp hj).1
  · intro hb
    refine ⟨(c.pmkidTbl i).pmkId, Option.map_eq_some_iff.mpr ⟨i, ?_, rfl⟩⟩
    have hlt := Nat.lt_of_lt_of_le hi h.count_le
    refine List.find?_range_eq_some.mpr ⟨decide_eq_true hb, ?_, fun j hj => ?_⟩
    · exact List.mem_range.mpr (Nat.lt_min.mpr ⟨hlt, Nat.lt_succ_of_lt hi⟩)
    · -- an entry before has another BSSID
      simp only [Bool.not_eq_eq_eq_not, Bool.not_true, decide_eq_false_iff_not]
      intro hjb
      have heq := h.distinct j (Nat.lt_trans hj hi) i hi (hjb.trans hb.symm)
      omega

theorem addPmkid (h : c.Sound) (b : TMacAddr) (v : PmkidValue) : (c.addPmkid b v).Sound := by
  unfold PmkidCache.addPmkid
  split
  next k w hf =>
    -- the BSSIDs stay
    have hsame (i : ℕ) : (update c.pmkidTbl k { c.pmkidTbl k with pmkId := v } i).bssId =
        (c.pmkidTbl i).bssId := by
      by_cases hi : i = k
      · subst hi
        rw [update_self]
      · rw [update_of_ne hi]
    refine ⟨h.count_le, h.next, h.next_lt, fun i hi j hj hij => ?_⟩
    dsimp only at hij
    rw [hsame, hsame] at hij
    exact h.distinct i hi j hj hij
  next hf =>
    have hnot {i : ℕ} (hi : i < c.entriesNumber) : (c.pmkidTbl i).bssId ≠ b := by
      intro hb
      obtain ⟨w, hw⟩ := (h.find_iff hi).mpr hb
      rw [hf] at hw
      cases hw
    have hnext := h.next
    have hlt := h.next_lt
    have hle := h.count_le
    -- an old entry that counts and is not overwritten
    have hold {i : ℕ} (hi : i < if c.entriesNumber < admctrlPmkidCacheSize then
        c.entriesNumber + 1 else c.entriesNumber) (hne : i ≠ c.nextFreeEntry) :
        i < c.entriesNumber := by
      split at hi
      next hroom =>
        have := hnext hroom
        omega
      · exact hi
    constructor
    · dsimp only
      split <;> omega
    · dsimp only
      intro hroom
      split at hroom
      next hroom' =>
        rw [if_pos hroom', hnext hroom', Nat.mod_eq_of_lt hroom]
      next hroom' => exact absurd hroom hroom'
    · exact Nat.mod_lt _ (by decide)
    · intro i hi j hj hij
      dsimp only at hi hj hij
      by_cases hin : i = c.nextFreeEntry
      · by_cases hjn : j = c.nextFreeEntry
        · rw [hin, hjn]
        · rw [hin, update_self, update_of_ne hjn] at hij
          exact absurd hij.symm (hnot (hold hj hjn))
      · rw [update_of_ne hin] at hij
        by_cases hjn : j = c.nextFreeEntry
        · rw [hjn, update_self] at hij
          exact absurd hij (hnot (hold hi hin))
        · rw [update_of_ne hjn] at hij
          exact h.distinct i (hold hi hin) j (hold hj hjn) hij

end PmkidCache.Sound

theorem AdmCtrl.setPmkidList_sound {a : AdmCtrl} (h : a.pmkidCache.Sound) (l : Os80211Pmkid) :
    (a.setPmkidList l).1.pmkidCache.Sound := by
  unfold AdmCtrl.setPmkidList
  split
  · exact h
  split
  · exact .reset
  split
  · exact h
  · dsimp only
    generalize AdmCtrl.numOfEntries l = n
    induction n with
    | zero => exact h
    | succ n ih =>
      rw [List.range_succ, List.foldl_append, List.foldl_cons, List.foldl_nil]
      generalize (List.range n).foldl (fun a i => a.setEntry (l.osBssidInfo i)) a = t at ih
      have hcount : t.countCandidate.pmkidCache = t.pmkidCache := by
        unfold AdmCtrl.countCandidate
        split
        · rfl
        · split <;> rfl
      unfold AdmCtrl.setEntry
      dsimp only
      rw [hcount]
      exact ih.addPmkid _ _

theorem Sys.entries_distinct (preAuthSupport : Bool) (ops : List Op) :
    Lib.Along step (fun s op => ∃ t, s.step op = some t ∧ t.ctrl.pmkidCache.Sound)
      (init preAuthSupport) ops := by
  refine Lib.Along.of_invariant (I := fun s => s.ctrl.pmkidCache.Sound)
    (P := fun _ _ => True) (fun s op hs _ => ?_) .reset (.of_forall fun _ _ => trivial)
  obtain ⟨t, ht, hsound⟩ : ∃ t, s.step op = some t ∧ t.ctrl.pmkidCache.Sound := by
    cases op with
    | setPmkidList l => exact ⟨_, rfl, AdmCtrl.setPmkidList_sound hs l⟩
    | resetPmkidCache => exact ⟨_, rfl, .reset⟩
    | findPmkid b | getPmkidList l atPmkid => exact ⟨s, rfl, hs⟩
  exact ⟨⟨t, ht, hsound⟩, fun t' ht' => Option.some.inj (ht.symm.trans ht') ▸ hsound⟩

/-! ## The list that is built -/

/-- A list of places without repetition that has all places from one on, as many as it has elements,
has no others. -/
theorem mem_places {l : List ℕ} {m : ℕ} (h : ∀ j < l.length, m + j ∈ l) {x : ℕ}
    (hx : x ∈ l) : m ≤ x ∧ x < m + l.length := by
  have hsub : List.range' m l.length ⊆ l := by
    intro y hy
    obtain ⟨hle, hlt⟩ := List.mem_range'_1.mp hy
    have := h (y - m) (by omega)
    rwa [Nat.add_sub_cancel' hle] at this
  have hperm := (List.subperm_of_subset List.nodup_range' hsub).perm_of_length_le
    (by rw [List.length_range'])
  exact List.mem_range'_1.mp (hperm.mem_iff.mpr hx)

namespace CandCtrl

variable {a : CandCtrl} {apList : TBssidList4PreAuth} {mem : ℕ → PmkidCandidate} {u : CandState}

theorem length_listed_le (a : CandCtrl) (apList : TBssidList4PreAuth) :
    (a.listed apList).length ≤ pmkidMaxNumber :=
  Nat.le_trans (List.length_filterMap_le ..) apList.numOfItems_le

theorem exists_ap {c : PmkidCandidate} (hc : c ∈ a.listed apList) :
    ∃ ap ∈ apList.bssidList, ap.bssId = c.bssid := by
  obtain ⟨ap, hap, hcand⟩ := List.mem_filterMap.mp hc
  refine ⟨ap, hap, ?_⟩
  unfold TBssidRsnInfo.candidate at hcand
  split at hcand
  · cases hcand
    rfl
  · cases hcand

theorem mem_unlisted {i : ℕ} : i ∈ a.unlisted apList ↔ i < a.pmkidCache.entriesNumber ∧
    ∀ c ∈ a.listed apList, c.bssid ≠ (a.pmkidCache.pmkidTbl i).bssId := by
  simp [unlisted]

theorem nodup_unlisted : (a.unlisted apList).Nodup := List.nodup_range.filter _

/-- The buffer after both loops. -/
structure Built (a : CandCtrl) (apList : TBssidList4PreAuth) (mem : ℕ → PmkidCandidate)
    (u : CandState) : Prop where
  index : u.candIndex = (a.listed apList).length + (a.unlisted apList).length
  listed : ∀ j c, (a.listed apList)[j]? = some c →
    (u.buffer.candidateList j).bssid = c.bssid ∧
      (u.buffer.candidateList j).flags =
        if j ∈ a.unlisted apList then candidatePreauthEnable else c.flags
  bssids : ∀ j i, (a.unlisted apList)[j]? = some i →
    (u.buffer.candidateList ((a.listed apList).length + j)).bssid =
      (a.pmkidCache.pmkidTbl i).bssId
  flags : ∀ k, (a.listed apList).length ≤ k → (u.buffer.candidateList k).flags =
    if k ∈ a.unlisted apList then candidatePreauthEnable else (mem k).flags
  inside : (∀ w ∈ u.buffer.writes, Inside w) ↔
    (∀ j < (a.unlisted apList).length, (a.listed apList).length + j < pmkidMaxNumber) ∧
      ∀ i ∈ a.unlisted apList, i < pmkidMaxNumber

theorem buildList_cases (h : a.pmkidCache.Sound) (apList : TBssidList4PreAuth)
    (mem : ℕ → PmkidCandidate) (data : Wpa2IeData) :
    (¬ ∀ ap ∈ apList.bssidList, ap.Returns) ∧ a.buildList apList mem data = none ∨
      (∀ ap ∈ apList.bssidList, ap.Returns) ∧
        ∃ u, a.buildList apList mem data = some u ∧ Built a apList mem u := by
  unfold buildList
  dsimp only
  set s : CandState := ⟨a.clearMarks, (CandBuffer.mk mem []).setHead 4, 0, data⟩ with hs
  rcases listedLoop apList.bssidList s with ⟨⟨ap, hap, hno⟩, hnone⟩ | ⟨hall, t, ht, hadds⟩
  · rw [hnone]
    exact .inl ⟨fun hall => hno (hall ap hap), rfl⟩
  rw [ht]
  refine .inr ⟨hall, _, rfl, ?_⟩
  change Adds s t (a.listed apList) at hadds
  have hcache : t.ctrl.pmkidCache = a.pmkidCache := hadds.cache
  have hindex : t.candIndex = (a.listed apList).length := by
    rw [hadds.index]
    exact Nat.zero_add _
  have hun : unmarked t a.pmkidCache.entriesNumber = a.unlisted apList := by
    refine List.filter_congr fun i hi => ?_
    have hi := List.mem_range.mp hi
    have hmark := hadds.marks i
    have hclear : s.ctrl.preAuthenticate i = false := if_pos hi
    have hfind {b : TMacAddr} := h.find_iff (b := b) hi
    rw [hclear, show s.ctrl.pmkidCache = a.pmkidCache from rfl] at hmark
    simp only [hfind, Bool.false_eq_true, false_or] at hmark
    rw [decide_eq_decide, ← Bool.not_eq_true, hmark, List.mem_map]
    simp only [eq_comm]
  have hcaches := cachedLoop t a.pmkidCache.entriesNumber
  dsimp only
  rw [hcache]
  generalize (List.range a.pmkidCache.entriesNumber).foldl CandState.cachedPass t = u at hcaches
  have hstart : ∀ w ∈ t.buffer.writes, Inside w := by
    intro w hw
    rcases hadds.writes w hw with hw | hw
    · obtain rfl : w = (4, 4) := by simpa [hs, CandBuffer.setHead] using hw
      exact (by decide : 8 ≤ memBuffSize)
    · have hle := length_listed_le a apList
      refine Nat.le_trans hw ?_
      rw [show s.candIndex = 0 from rfl]
      unfold CandBuffer.candOffset memBuffSize candidateSize
      unfold pmkidMaxNumber at *
      omega
  have hcand {j : ℕ} {c : PmkidCandidate} (hj : (a.listed apList)[j]? = some c) :
      t.buffer.candidateList j = c := by
    have := hadds.candidates j c hj
    rwa [show s.candIndex + j = j from Nat.zero_add j] at this
  have hlt {j : ℕ} {c : PmkidCandidate} (hj : (a.listed apList)[j]? = some c) :
      j < t.candIndex := by
    rw [hindex]
    exact (List.getElem?_eq_some_iff.mp hj).1
  exact
    { index := by rw [hcaches.index, hindex, hun]
      listed := by
        intro j c hj
        constructor
        · rw [hcaches.bssid_frame j (hlt hj), hcand hj]
        · rw [hcaches.flags, hun, hcand hj]
      bssids := by
        intro j i hj
        rw [← hun] at hj
        rw [← hindex, hcaches.bssids j i hj, hcache]
      flags := by
        intro k hk
        rw [hcaches.flags, hun, hadds.frame k (.inr (by rw [show s.candIndex = 0 from rfl]; omega))]
        rfl
      inside := by rw [hcaches.inside, hun, hindex, and_iff_right hstart] }

theorem right_of_fits (h : a.pmkidCache.Sound) (hb : Built a apList mem u)
    (hf : a.ListFits apList) : a.RightMessage apList (send u).2 := by
  have hplace {i : ℕ} (hi : i ∈ a.unlisted apList) := mem_places hf.places hi
  have hroom := hf.room
  constructor
  · have hloops : ∀ w ∈ u.buffer.writes, Inside w := by
      refine hb.inside.mpr ⟨fun j hj => by omega, fun i hi => ?_⟩
      have := (hplace hi).2
      omega
    have hhead {o : ℕ} (ho : o ≤ 8) : Inside (o, 4) := by
      unfold Inside memBuffSize candidateSize pmkidMaxNumber
      omega
    intro w hw
    simp only [send, CandBuffer.setHead, List.mem_append, List.mem_singleton] at hw
    rcases hw with ((hw | rfl) | rfl) | rfl
    · exact hloops w hw
    · exact hhead (Nat.le_refl 8)
    · exact hhead (Nat.zero_le 8)
    · exact hhead (Nat.le_refl 8)
  · change (candidateSize * u.candIndex + 12) % 2 ^ 8 = 12 + candidateSize * u.candIndex
    rw [hb.index]
    unfold candidateSize
    unfold pmkidMaxNumber at hroom
    omega
  · refine ⟨(a.unlisted apList).map fun i => (a.pmkidCache.pmkidTbl i).bssId, ?_, ?_, ?_⟩
    · change (List.range u.candIndex).map u.buffer.candidateList = _
      rw [hb.index, List.range_add, List.map_append, List.map_map, List.map_map]
      congr 1
      · -- no flag of a listed candidate is overwritten
        refine List.ext_getElem (by simp) fun j hj hj' => ?_
        obtain ⟨hbssid, hflags⟩ := hb.listed j _ (List.getElem?_eq_getElem hj')
        rw [if_neg fun hmem => Nat.not_lt.mpr (hplace hmem).1 hj'] at hflags
        rw [List.getElem_map, List.getElem_range]
        exact PmkidCandidate.ext hbssid hflags
      · refine List.ext_getElem (by simp) fun j hj hj' => ?_
        rw [List.length_map] at hj'
        have hbssid := hb.bssids j _ (List.getElem?_eq_getElem hj')
        have hflags := hb.flags _ (Nat.le_add_right (a.listed apList).length j)
        rw [if_pos (hf.places j hj')] at hflags
        rw [List.getElem_map, List.getElem_range, List.getElem_map]
        exact PmkidCandidate.ext hbssid hflags
    · refine nodup_unlisted.map_on fun i hi j hj hij => ?_
      exact h.distinct i (mem_unlisted.mp hi).1 j (mem_unlisted.mp hj).1 hij
    · intro b
      rw [List.mem_map]
      constructor
      · rintro ⟨i, hi, rfl⟩
        obtain ⟨hlt, hno⟩ := mem_unlisted.mp hi
        refine ⟨⟨i, hlt, rfl⟩, fun ap hap heq => ?_⟩
        obtain ⟨c, hc, hcb⟩ := hf.valid i hlt ap hap heq
        exact hno c hc (hcb.trans heq)
      · rintro ⟨⟨i, hi, rfl⟩, hno⟩
        refine ⟨i, mem_unlisted.mpr ⟨hi, fun c hc heq => ?_⟩, rfl⟩
        obtain ⟨ap, hap, hb⟩ := exists_ap hc
        exact hno ap hap (hb.trans heq)

theorem fits_of_right (hall : ∀ ap ∈ apList.bssidList, ap.Returns)
    (hb : Built a apList (fun _ => ⟨fun _ => 0, 0⟩) u) (hr : a.RightMessage apList (send u).2) :
    a.ListFits apList := by
  obtain ⟨rest, hlist, -, hrest⟩ := hr.candidates
  change (List.range u.candIndex).map u.buffer.candidateList = _ at hlist
  have hlen := congrArg List.length hlist
  rw [List.length_map, List.length_range, hb.index, List.length_append, List.length_map,
    Nat.add_left_cancel_iff] at hlen
  -- the candidates behind the list
  have hcand {j : ℕ} (hj : j < (a.unlisted apList).length) :
      u.buffer.candidateList ((a.listed apList).length + j) =
        ⟨rest[j], candidatePreauthEnable⟩ := by
    have hget := congrArg (·[(a.listed apList).length + j]?) hlist
    rw [List.getElem?_append_right (Nat.le_add_right _ j), Nat.add_sub_cancel_left,
      List.getElem?_map, List.getElem?_map, List.getElem?_range (by rw [hb.index]; omega),
      List.getElem?_eq_getElem (hlen ▸ hj)] at hget
    exact Option.some.inj hget
  refine ⟨hall, fun i hi ap hap heq => ?_, ?_, fun j hj => ?_⟩
  · by_contra hno
    have hmem : i ∈ a.unlisted apList :=
      mem_unlisted.mpr ⟨hi, fun c hc hcb => hno ⟨c, hc, hcb.trans heq.symm⟩⟩
    obtain ⟨j, hj, rfl⟩ := List.getElem_of_mem hmem
    have hbssid := hb.bssids j _ (List.getElem?_eq_getElem hj)
    rw [hcand hj] at hbssid
    exact ((hrest _).mp (List.getElem_mem (hlen ▸ hj))).2 ap hap (heq.trans hbssid.symm)
  · have hin : ∀ w ∈ u.buffer.writes, Inside w := by
      intro w hw
      refine hr.inside w ?_
      simp [send, CandBuffer.setHead, hw]
    have hlast := (hb.inside.mp hin).1 ((a.unlisted apList).length - 1)
    have hle := length_listed_le a apList
    omega
  · by_contra hno
    have hflags := hb.flags _ (Nat.le_add_right (a.listed apList).length j)
    rw [if_neg hno, hcand hj] at hflags
    cases hflags

theorem checkSsid_sound (h : a.pmkidCache.Sound) (ssid : List UInt8) :
    (a.checkSsid ssid).pmkidCache.Sound := by
  unfold checkSsid
  split
  · exact h
  · exact .reset

theorem fits_of_sendsRight (h : a.pmkidCache.Sound) {ssid : List UInt8} {l : TBssidList4PreAuth}
    (hs : a.SendsRight true (some ssid) (some l)) (hl : l.bssidList ≠ []) :
    (a.checkSsid ssid).ListFits l := by
  obtain ⟨a', m, heq, hright⟩ := hs (fun _ => ⟨fun _ => 0, 0⟩) Parse.noData
  obtain ⟨msg, rfl, hmsg⟩ := hright ssid l rfl rfl rfl hl
  unfold buildAndSendPmkidCandList at heq
  dsimp only at heq
  rw [if_neg hl, Option.map_eq_some_iff] at heq
  obtain ⟨u, hu, heq⟩ := heq
  rcases buildList_cases (checkSsid_sound h ssid) l (fun _ => ⟨fun _ => 0, 0⟩) Parse.noData with
    ⟨-, hnone⟩ | ⟨hall, v, hv, hbuilt⟩
  · rw [hnone] at hu
    cases hu
  · rw [hv, Option.some.injEq] at hu
    subst hu
    rw [Prod.mk.injEq, Option.some.injEq] at heq
    exact fits_of_right hall hbuilt (heq.2 ▸ hmsg)

/-- An AP with a valid RSN IE of four bytes. -/
def firstAp : TBssidRsnInfo :=
  ⟨fun _ => 1, some fun _ => ⟨48, 4, fun o => if o = 0 then 1 else 0⟩⟩

def firstList : TBssidList4PreAuth := ⟨[firstAp], by decide⟩

/-- A cache with one PMKID for each AP, whose addresses count up from one. -/
def cached (first n : ℕ) : CandCtrl where
  preAuthSupport := true
  numberOfPreAuthCandidates := 0
  pmkidCache := ⟨n, n, fun i => ⟨fun _ => UInt8.ofNat (first + i), fun _ => 0⟩⟩
  log := []
  ssid := []
  preAuthenticate := fun _ => false
  wpaAkmExists := false
  preAuthTimeout := 0

theorem cached_sound {first n : ℕ} (hn : n < admctrlPmkidCacheSize) (hf : first + n ≤ 256) :
    (cached first n).pmkidCache.Sound where
  count_le := Nat.le_of_lt hn
  next _ := rfl
  next_lt := hn
  distinct i hi j hj heq := by
    have hval := congrArg UInt8.toNat (congrFun heq 0)
    change i < n at hi
    change j < n at hj
    change (UInt8.ofNat (first + i)).toNat = (UInt8.ofNat (first + j)).toNat at hval
    rw [UInt8.toNat_ofNat', UInt8.toNat_ofNat'] at hval
    omega

end CandCtrl

end ArchosGpl.Wlan.AdmCtrlWpa2
