import ArchosGpl.Wlan.RegulatoryDomain.Model
import ArchosGpl.Wlan.ScanResultTable.Model
import Mathlib.Data.Finset.Card
import Mathlib.Data.List.Range

/-!
# The site tables keep their books

`Sound` is what the tables promise between two calls: `numOfSites` counts the occupied entries, the
empty ones have no address, and no two have the same address. `StepRight` says what one call has to
do: `Served` for an insertion, and soundness for every call.

* `step_right_iff`: **a call does what it has to do exactly if it `Fits`**.
-/

open Function (update update_idem update_of_ne update_self)

namespace ArchosGpl.Wlan.SiteMgr

open Lib
open Wlan.RegulatoryDomain (ERadioBand)
open Wlan.ScanResultTable (TMacAddr)

/-!
## Model of the site tables (`stad/src/Sta_Management/siteHash.c`)

There are two tables, one for each band, and two pointers to entries that may point into either
table or nowhere. A table is a function of the index: the first `maxNumOfSites` entries count.

* `findAndInsertSiteEntry` returns the index of the entry that was found or filled, in the table of
  the band. Its one pass over the table is `searchLoop`.
* `removeSiteEntry` is given a table and an entry, as in the source: nothing says that the entry is
  one of the table.
* What a caller does with the entry it gets, before the next call, is `fill`: it sets the type and
  the time stamp. The callers also move the primary site.
-/

section Model

/-- `MAX_SITES_BG_BAND`, and `MAX_SITES_A_BAND`, the sizes of the two arrays. -/
abbrev maxSitesBgBand : ℕ := 2

/-- `siteType_e`. -/
inductive SiteType
  | primary
  | self
  | regular
  | null
  deriving DecidableEq, Repr

inductive ESlotTime
  | long
  | short
  deriving DecidableEq, Repr

structure SiteEntry where
  index : ℕ
  bssid : TMacAddr
  siteType : SiteType
  localTimeStamp : UInt32
  beaconRecv : Bool
  dtimPeriod : UInt8
  currentSlotTime : ESlotTime
  deriving DecidableEq

/-- An entry that was zeroed, with what is set after that. -/
def SiteEntry.zero (index : ℕ) : SiteEntry where
  index := index
  bssid := fun _ => 0
  siteType := .null
  localTimeStamp := 0
  beaconRecv := false
  dtimPeriod := 1
  currentSlotTime := .long

structure SiteTablesParams where
  numOfSites : UInt8
  maxNumOfSites : UInt8
  siteTable : ℕ → SiteEntry

def resetSiteTable (maxNumOfSites : UInt8) : SiteTablesParams where
  numOfSites := 0
  maxNumOfSites := maxNumOfSites
  siteTable := SiteEntry.zero

/-- The two tables of `sitesMgmtParams_t`. -/
inductive Tables
  | dot11A
  | dot11BG
  deriving DecidableEq, Repr

/-- A pointer to an entry: `&table.siteTable[index]`. -/
structure SitePtr where
  table : Tables
  index : ℕ
  deriving DecidableEq, Repr

/-- `siteMgr_t` with its `sitesMgmtParams_t`. -/
structure SiteMgrT where
  tables : Tables → SiteTablesParams
  pPrimarySite : Option SitePtr
  pPrevPrimarySite : Option SitePtr
  /-- `siteMgrOperationalMode == DOT11_G_MODE` -/
  dot11GMode : Bool
  siteMgrDesiredSlotTime : ESlotTime

/-- After `siteMgr_setDefaults`. -/
def init (dot11GMode : Bool) (siteMgrDesiredSlotTime : ESlotTime) : SiteMgrT where
  tables _ := resetSiteTable (.ofNat maxSitesBgBand)
  pPrimarySite := none
  pPrevPrimarySite := none
  dot11GMode := dot11GMode
  siteMgrDesiredSlotTime := siteMgrDesiredSlotTime

def tableOf : ERadioBand → Tables
  | .band24GHz => .dot11BG
  | .band50GHz => .dot11A
  -- "Bad band"
  | .dual => .dot11BG

variable (s : SiteMgrT) (mac : TMacAddr) (b : Tables) (p : SitePtr)

def SiteMgrT.entry : SiteEntry := (s.tables p.table).siteTable p.index

def SiteMgrT.setEntry (e : SiteEntry) : SiteMgrT :=
  { s with
    tables := update s.tables p.table
      { s.tables p.table with
        siteTable := update (s.tables p.table).siteTable p.index e } }

/-- Write `numOfSites`. -/
def SiteMgrT.setNumOfSites (n : UInt8) : SiteMgrT :=
  { s with tables := update s.tables b { s.tables b with numOfSites := n } }

def SiteMgrT.removeSiteEntry : Option SitePtr → SiteMgrT
  -- "REMOVAL failure, site is NULL"
  | none => s
  | some p =>
    -- "REMOVAL failure, site table is empty"
    if (s.tables b).numOfSites = 0 then s
    else
      let s := s.setNumOfSites b ((s.tables b).numOfSites - 1)
      let s := s.setEntry p (SiteEntry.zero (s.entry p).index)
      if s.pPrevPrimarySite = some p then { s with pPrevPrimarySite := none } else s

/-- What the pass over a table leaves: the first empty entry, `nextSite2Remove`. -/
structure Search where
  emptySite : Option ℕ
  nextSite2Remove : ℕ

/-- "Loop all the sites till the desired MAC is found". An entry that is found ends the pass. -/
def searchLoop (t : ℕ → SiteEntry) (oldestTS : UInt32) : List ℕ → Search → Except ℕ Search
  | [], c => .ok c
  | i :: is, c =>
    if (t i).bssid = mac then .error i
    else if (t i).siteType = .null then
      searchLoop t oldestTS is { c with emptySite := c.emptySite.or (some i) }
    else if oldestTS = (t i).localTimeStamp then
      searchLoop t oldestTS is { c with nextSite2Remove := i }
    else searchLoop t oldestTS is c

/-- "Set the first TS to a site which is not the Primary site". -/
def SiteMgrT.firstSite : ℕ := if s.pPrimarySite = some ⟨b, 0⟩ then 1 else 0

/-- `oldestTS`. It does not change in the pass. -/
def SiteMgrT.oldestTS : UInt32 := ((s.tables b).siteTable (s.firstSite b)).localTimeStamp

/-- The entry is filled "with the station mac", and counted. -/
def SiteMgrT.insertAt (emptySiteIndex : ℕ) : SiteMgrT :=
  let s := s.setNumOfSites b ((s.tables b).numOfSites + 1)
  let e := s.entry ⟨b, emptySiteIndex⟩
  s.setEntry ⟨b, emptySiteIndex⟩
    { e with
      bssid := mac
      currentSlotTime := if s.dot11GMode then s.siteMgrDesiredSlotTime else e.currentSlotTime }

/-- `findAndInsertSiteEntry`, for the table of the band. -/
def SiteMgrT.findAndInsertSiteEntry : SiteMgrT × Option ℕ :=
  let t := s.tables b
  if maxSitesBgBand < t.maxNumOfSites.toNat then (s, none)
  else
    match searchLoop mac t.siteTable (s.oldestTS b) (List.range t.maxNumOfSites.toNat)
      ⟨none, 0⟩ with
    | .error i => (s, some i)
    | .ok c =>
      match c.emptySite with
      | some i =>
        if t.maxNumOfSites ≤ t.numOfSites then
          ((s.removeSiteEntry b (some ⟨b, c.nextSite2Remove⟩)).insertAt mac b c.nextSite2Remove,
            some c.nextSite2Remove)
        else (s.insertAt mac b i, some i)
      | none =>
        ((s.removeSiteEntry b (some ⟨b, c.nextSite2Remove⟩)).insertAt mac b c.nextSite2Remove,
          some c.nextSite2Remove)

/-- What the caller does with an entry: it gives it a type and a time stamp. -/
def SiteMgrT.fill (siteType : SiteType) (localTimeStamp : UInt32) : SiteMgrT :=
  s.setEntry p { s.entry p with siteType := siteType, localTimeStamp := localTimeStamp }

/-- The calls, and where the callers set `pPrimarySite`. -/
inductive Op
  | insert (mac : TMacAddr) (band : ERadioBand) (siteType : SiteType) (given : siteType ≠ .null)
    (localTimeStamp : UInt32)
  | remove (b : Tables) (p : Option SitePtr)
  | primary (p : Option SitePtr)

/-- One call, and what its caller does before the next one. -/
def SiteMgrT.step (s : SiteMgrT) : Op → Option SiteMgrT
  | .insert mac band siteType _ localTimeStamp =>
    match s.findAndInsertSiteEntry mac (tableOf band) with
    | (s, some i) => some (s.fill ⟨tableOf band, i⟩ siteType localTimeStamp)
    | (s, none) => some s
  | .remove b p => some (s.removeSiteEntry b p)
  | .primary p => some { s with pPrimarySite := p }

end Model

/-! ## The promise -/

def Occupied (t : SiteTablesParams) (i : ℕ) : Prop := (t.siteTable i).siteType ≠ .null

instance (t : SiteTablesParams) (i : ℕ) : Decidable (Occupied t i) :=
  inferInstanceAs (Decidable (_ ≠ _))

def occupied (t : SiteTablesParams) : Finset ℕ :=
  (Finset.range maxSitesBgBand).filter fun i => Occupied t i

structure SoundTable (t : SiteTablesParams) : Prop where
  size : t.maxNumOfSites.toNat = maxSitesBgBand
  count : t.numOfSites.toNat = (occupied t).card
  empty : ∀ i < maxSitesBgBand, ¬ Occupied t i → (t.siteTable i).bssid = fun _ => 0
  distinct : ∀ i ∈ occupied t, ∀ j ∈ occupied t,
    (t.siteTable i).bssid = (t.siteTable j).bssid → i = j

/-- **The tables keep their books.** -/
def Sound (s : SiteMgrT) : Prop := ∀ b, SoundTable (s.tables b)

def Holds (s : SiteMgrT) (b : Tables) (mac : TMacAddr) (i : ℕ) : Prop :=
  i ∈ occupied (s.tables b) ∧ (s.entry ⟨b, i⟩).bssid = mac

/-- The address went into one entry, and every other entry and the primary site stayed. -/
structure Written (s s' : SiteMgrT) (mac : TMacAddr) (p : SitePtr) : Prop where
  bssid : (s'.entry p).bssid = mac
  others : ∀ q, q ≠ p → s'.entry q = s.entry q
  primary : s'.pPrimarySite = s.pPrimarySite

/-- **What an insertion has to do**: a site that is there is found, else it goes into an empty
entry, and in a full table in place of the oldest site that is not the primary one. -/
inductive Served (s : SiteMgrT) (mac : TMacAddr) (b : Tables) (s' : SiteMgrT) (i : ℕ) : Prop
  | found (holds : Holds s b mac i) (kept : s' = s)
  | inserted (inside : i < maxSitesBgBand) (absent : ∀ j, ¬ Holds s b mac j)
    (free : ¬ Occupied (s.tables b) i) (written : Written s s' mac ⟨b, i⟩)
  | evicted (inside : i < maxSitesBgBand) (absent : ∀ j, ¬ Holds s b mac j)
    (full : ∀ j < maxSitesBgBand, Occupied (s.tables b) j)
    (spared : s.pPrimarySite ≠ some ⟨b, i⟩)
    (oldest : ∀ j < maxSitesBgBand, s.pPrimarySite ≠ some ⟨b, j⟩ →
      (s.entry ⟨b, i⟩).localTimeStamp ≤ (s.entry ⟨b, j⟩).localTimeStamp)
    (written : Written s s' mac ⟨b, i⟩)

/-- **What a call has to do.** -/
def StepRight (s : SiteMgrT) (op : Op) : Prop :=
  (match op with
    | .insert mac band _ _ _ => ∃ s' i, s.findAndInsertSiteEntry mac (tableOf band) = (s', some i) ∧
        Served s mac (tableOf band) s' i
    | _ => True) ∧ ∀ t, s.step op = some t → Sound t

/-! ## The calls that do it -/

def firstWith (s : SiteMgrT) (b : Tables) (mac : TMacAddr) : Option ℕ :=
  (List.range maxSitesBgBand).find? fun i => (s.entry ⟨b, i⟩).bssid = mac

/-- The entry the search starts from is the oldest one but for the primary site, and if the primary
site is as old as that, a later entry is, too. -/
def OldestFirst (s : SiteMgrT) (b : Tables) : Prop :=
  (∀ j < maxSitesBgBand, s.pPrimarySite ≠ some ⟨b, j⟩ →
    s.oldestTS b ≤ (s.entry ⟨b, j⟩).localTimeStamp) ∧
  ∀ j < maxSitesBgBand, s.pPrimarySite = some ⟨b, j⟩ →
    (s.entry ⟨b, j⟩).localTimeStamp = s.oldestTS b →
    ∃ k < maxSitesBgBand, j < k ∧ (s.entry ⟨b, k⟩).localTimeStamp = s.oldestTS b

/-- **The calls that are done right**: in an insertion, the first entry with the address is
occupied, or there is none and in a full table the oldest comes first; a removal is of an occupied
entry of that table. -/
def Fits (s : SiteMgrT) : Op → Prop
  | .insert mac band _ _ _ =>
    match firstWith s (tableOf band) mac with
    | some i => Occupied (s.tables (tableOf band)) i
    | none =>
      (∀ j < maxSitesBgBand, Occupied (s.tables (tableOf band)) j) → OldestFirst s (tableOf band)
  | .remove _ none => True
  | .remove b (some p) =>
    (s.tables b).numOfSites = 0 ∨ p.table = b ∧ p.index ∈ occupied (s.tables b)
  | .primary _ => True

instance (s : SiteMgrT) (b : Tables) : Decidable (OldestFirst s b) :=
  inferInstanceAs (Decidable (_ ∧ _))

instance (s : SiteMgrT) : (op : Op) → Decidable (Fits s op)
  | .insert mac band _ _ _ =>
    match h : firstWith s (tableOf band) mac with
    | some i => decidable_of_iff (Occupied (s.tables (tableOf band)) i) (by rw [Fits, h])
    | none => decidable_of_iff ((∀ j < maxSitesBgBand, Occupied (s.tables (tableOf band)) j) →
        OldestFirst s (tableOf band)) (by rw [Fits, h])
  | .remove _ none => isTrue trivial
  | .remove _ (some _) => inferInstanceAs (Decidable (_ ∨ _))
  | .primary _ => isTrue trivial

/-! ## One entry of a table -/

section Table

variable {t : SiteTablesParams} {e : SiteEntry} {i j : ℕ} {m : UInt8}

/-- The table with another entry and another count. -/
def SiteTablesParams.put (t : SiteTablesParams) (m : UInt8) (i : ℕ) (e : SiteEntry) :
    SiteTablesParams :=
  { t with numOfSites := m, siteTable := update t.siteTable i e }

theorem mem_occupied : i ∈ occupied t ↔ i < maxSitesBgBand ∧ Occupied t i := by
  rw [occupied, Finset.mem_filter, Finset.mem_range]

theorem occupied_put (hi : i < maxSitesBgBand) (he : e.siteType ≠ .null) :
    occupied (t.put m i e) = insert i (occupied t) := by
  ext j
  rw [Finset.mem_insert, mem_occupied, mem_occupied]
  by_cases hj : j = i
  · subst hj
    simpa [Occupied, SiteTablesParams.put, hi] using he
  · simp [Occupied, SiteTablesParams.put, hj]

theorem occupied_put_empty (he : e.siteType = .null) :
    occupied (t.put m i e) = (occupied t).erase i := by
  ext j
  rw [Finset.mem_erase, mem_occupied, mem_occupied]
  by_cases hj : j = i
  · subst hj
    simp [Occupied, SiteTablesParams.put, he]
  · simp [Occupied, SiteTablesParams.put, hj]

theorem SoundTable.put (h : SoundTable t) (hi : i < maxSitesBgBand) (he : e.siteType ≠ .null)
    (hfresh : ∀ j ∈ occupied t, j ≠ i → (t.siteTable j).bssid ≠ e.bssid)
    (hm : m.toNat = (insert i (occupied t)).card) : SoundTable (t.put m i e) where
  size := h.size
  count := by rw [occupied_put hi he]; exact hm
  empty j hj hnull := by
    have hne : j ≠ i := by
      rintro rfl
      exact hnull (by simpa [Occupied, SiteTablesParams.put] using he)
    have hold := h.empty j hj (by simpa [Occupied, SiteTablesParams.put, hne] using hnull)
    simpa [SiteTablesParams.put, hne] using hold
  distinct j hj k hk hjk := by
    rw [occupied_put hi he, Finset.mem_insert] at hj hk
    by_cases hji : j = i <;> by_cases hki : k = i
    · rw [hji, hki]
    · have hkold := hk.resolve_left hki
      exact absurd (by simpa [SiteTablesParams.put, hji, hki] using hjk.symm) (hfresh k hkold hki)
    · have hjold := hj.resolve_left hji
      exact absurd (by simpa [SiteTablesParams.put, hji, hki] using hjk) (hfresh j hjold hji)
    · refine h.distinct j (hj.resolve_left hji) k (hk.resolve_left hki) ?_
      simpa [SiteTablesParams.put, hji, hki] using hjk

theorem SoundTable.clear (h : SoundTable t) (k : ℕ)
    (hm : m.toNat = ((occupied t).erase i).card) : SoundTable (t.put m i (.zero k)) where
  size := h.size
  count := by rw [occupied_put_empty rfl]; exact hm
  empty j hj hnull := by
    by_cases hji : j = i
    · simp [SiteTablesParams.put, hji, SiteEntry.zero]
    · have hold := h.empty j hj (by simpa [Occupied, SiteTablesParams.put, hji] using hnull)
      simpa [SiteTablesParams.put, hji] using hold
  distinct j hj k hk hjk := by
    rw [occupied_put_empty rfl, Finset.mem_erase] at hj hk
    refine h.distinct j hj.2 k hk.2 ?_
    simpa [SiteTablesParams.put, hj.1, hk.1] using hjk

theorem occupied_card_le (t : SiteTablesParams) : (occupied t).card ≤ maxSitesBgBand := by
  refine (Finset.card_filter_le _ _).trans ?_
  rw [Finset.card_range]

theorem SoundTable.full_iff (h : SoundTable t) :
    t.maxNumOfSites ≤ t.numOfSites ↔ ∀ i < maxSitesBgBand, Occupied t i := by
  rw [UInt8.le_iff_toNat_le, h.size, h.count]
  constructor
  · intro hle i hi
    have heq : occupied t = Finset.range maxSitesBgBand :=
      Finset.eq_of_subset_of_card_le (Finset.filter_subset _ _) (by rwa [Finset.card_range])
    have hmem : i ∈ occupied t := heq ▸ Finset.mem_range.mpr hi
    exact (mem_occupied.mp hmem).2
  · intro hall
    have heq : occupied t = Finset.range maxSitesBgBand :=
      Finset.filter_true_of_mem fun i hi => hall i (Finset.mem_range.mp hi)
    rw [heq, Finset.card_range]

end Table

/-! ## The pass over a table -/

theorem searchLoop_eq (mac : TMacAddr) (t : ℕ → SiteEntry) (o : UInt32) (l : List ℕ) (c : Search) :
    searchLoop mac t o l c = match l.find? fun i => (t i).bssid = mac with
      | some i => .error i
      | none => .ok
        ⟨c.emptySite.or (l.find? fun i => (t i).siteType = .null),
          (l.reverse.find? fun i => (t i).siteType ≠ .null ∧ o = (t i).localTimeStamp).getD
            c.nextSite2Remove⟩ := by
  induction l generalizing c with
  | nil => simp [searchLoop]
  | cons i is ih =>
    rw [searchLoop, List.find?_cons]
    by_cases hmac : (t i).bssid = mac
    · simp [hmac]
    · rw [if_neg hmac]
      simp only [hmac, decide_false, List.reverse_cons, List.find?_append]
      by_cases hnull : (t i).siteType = .null
      · rw [if_pos hnull, ih]
        simp [hnull]
      · rw [if_neg hnull]
        by_cases hts : o = (t i).localTimeStamp
        · rw [if_pos hts, ih]
          cases hr : is.reverse.find? fun i => (t i).siteType ≠ .null ∧ o = (t i).localTimeStamp <;>
            simp [hnull, hts]
        · rw [if_neg hts, ih]
          simp [hnull, hts]

theorem last_of_range {n : ℕ} {q : ℕ → Bool} {v : ℕ} (h : (List.range n).reverse.find? q = some v) :
    v < n ∧ q v ∧ ∀ k < n, v < k → q k = false := by
  obtain ⟨hv, as, bs, hl, has⟩ := List.find?_eq_some_iff_append.mp h
  have hmem : ∀ k, k ∈ as ++ v :: bs ↔ k < n := fun k => by
    rw [← hl, List.mem_reverse, List.mem_range]
  refine ⟨(hmem v).mp (by simp), hv, fun k hk hvk => ?_⟩
  have hdesc : (as ++ v :: bs).Pairwise (· > ·) := by
    rw [← hl]
    exact List.pairwise_reverse.mpr List.pairwise_lt_range
  rcases List.mem_append.mp ((hmem k).mpr hk) with hka | hkb
  · simpa using has k hka
  · rcases List.mem_cons.mp hkb with rfl | hkb
    · exact absurd hvk (Nat.lt_irrefl _)
    · have hbs := (List.pairwise_append.mp hdesc).2.1
      exact absurd hvk (Nat.lt_asymm (List.rel_of_pairwise_cons hbs hkb))

section Search

variable {s : SiteMgrT} {mac : TMacAddr} {b : Tables}

theorem firstSite_lt (s : SiteMgrT) (b : Tables) : s.firstSite b < maxSitesBgBand := by
  unfold SiteMgrT.firstSite
  split <;> decide

theorem firstWith_eq_some {i : ℕ} (h : firstWith s b mac = some i) :
    i < maxSitesBgBand ∧ (s.entry ⟨b, i⟩).bssid = mac :=
  ⟨List.mem_range.mp (List.mem_of_find?_eq_some h), by simpa using List.find?_some h⟩

theorem firstWith_eq_none (h : firstWith s b mac = none) {i : ℕ} (hi : i < maxSitesBgBand) :
    (s.entry ⟨b, i⟩).bssid ≠ mac := by
  simpa using List.find?_eq_none.mp h i (List.mem_range.mpr hi)

theorem absent_of_firstWith (h : firstWith s b mac = none) (j : ℕ) : ¬ Holds s b mac j :=
  fun hj => firstWith_eq_none h (mem_occupied.mp hj.1).1 hj.2

theorem findAndInsertSiteEntry_eq (h : Sound s) :
    s.findAndInsertSiteEntry mac b =
      match searchLoop mac (s.tables b).siteTable (s.oldestTS b) (List.range maxSitesBgBand)
        ⟨none, 0⟩ with
      | .error i => (s, some i)
      | .ok c =>
        match c.emptySite with
        | some i =>
          if (s.tables b).maxNumOfSites ≤ (s.tables b).numOfSites then
            ((s.removeSiteEntry b (some ⟨b, c.nextSite2Remove⟩)).insertAt mac b c.nextSite2Remove,
              some c.nextSite2Remove)
          else (s.insertAt mac b i, some i)
        | none =>
          ((s.removeSiteEntry b (some ⟨b, c.nextSite2Remove⟩)).insertAt mac b c.nextSite2Remove,
            some c.nextSite2Remove) := by
  have hsize := (h b).size
  unfold SiteMgrT.findAndInsertSiteEntry
  rw [if_neg (by omega)]
  exact hsize ▸ rfl

theorem findAndInsertSiteEntry_found (h : Sound s) {i : ℕ} (hf : firstWith s b mac = some i) :
    s.findAndInsertSiteEntry mac b = (s, some i) := by
  have hf' : ((List.range maxSitesBgBand).find? fun i => ((s.tables b).siteTable i).bssid = mac) =
      some i := hf
  rw [findAndInsertSiteEntry_eq h, searchLoop_eq, hf']

theorem findAndInsertSiteEntry_inserted (h : Sound s) (hf : firstWith s b mac = none) {j : ℕ}
    (hj : j < maxSitesBgBand) (hfree : ¬ Occupied (s.tables b) j) :
    ∃ i < maxSitesBgBand, ¬ Occupied (s.tables b) i ∧
      s.findAndInsertSiteEntry mac b = (s.insertAt mac b i, some i) := by
  have hf' : ((List.range maxSitesBgBand).find? fun i => ((s.tables b).siteTable i).bssid = mac) =
      none := hf
  have hnotFull : ¬ (s.tables b).maxNumOfSites ≤ (s.tables b).numOfSites := fun hfull =>
    hfree ((h b).full_iff.mp hfull j hj)
  cases he : (List.range maxSitesBgBand).find?
      fun i => ((s.tables b).siteTable i).siteType = .null with
  | none =>
    have hnull := List.find?_eq_none.mp he j (List.mem_range.mpr hj)
    exact absurd (not_not.mp hfree) (by simpa using hnull)
  | some i =>
    refine ⟨i, List.mem_range.mp (List.mem_of_find?_eq_some he), ?_, ?_⟩
    · exact not_not_intro (by simpa using List.find?_some he)
    · rw [findAndInsertSiteEntry_eq h, searchLoop_eq, hf', he]
      simp only [Option.none_or, if_neg hnotFull]

theorem findAndInsertSiteEntry_evicted (h : Sound s) (hf : firstWith s b mac = none)
    (hfull : ∀ j < maxSitesBgBand, Occupied (s.tables b) j) :
    ∃ v < maxSitesBgBand, (s.entry ⟨b, v⟩).localTimeStamp = s.oldestTS b ∧
      (∀ k < maxSitesBgBand, v < k → (s.entry ⟨b, k⟩).localTimeStamp ≠ s.oldestTS b) ∧
      s.findAndInsertSiteEntry mac b =
        ((s.removeSiteEntry b (some ⟨b, v⟩)).insertAt mac b v, some v) := by
  have hf' : ((List.range maxSitesBgBand).find? fun i => ((s.tables b).siteTable i).bssid = mac) =
      none := hf
  have he : ((List.range maxSitesBgBand).find?
      fun i => ((s.tables b).siteTable i).siteType = .null) = none :=
    List.find?_eq_none.mpr fun i hi => by
      simpa [Occupied] using hfull i (List.mem_range.mp hi)
  cases hv : (List.range maxSitesBgBand).reverse.find? fun i =>
      ((s.tables b).siteTable i).siteType ≠ .null ∧
        s.oldestTS b = ((s.tables b).siteTable i).localTimeStamp with
  | none =>
    have hfirst := firstSite_lt s b
    have hno := List.find?_eq_none.mp hv (s.firstSite b) (by simpa using hfirst)
    exact absurd (decide_eq_true ⟨hfull _ hfirst, rfl⟩) hno
  | some v =>
    obtain ⟨hlt, hq, hlast⟩ := last_of_range hv
    refine ⟨v, hlt, (of_decide_eq_true hq).2.symm, fun k hk hvk hts => ?_, ?_⟩
    · have hkq := hlast k hk hvk
      exact absurd ⟨hfull k hk, hts.symm⟩ (of_decide_eq_false hkq)
    · rw [findAndInsertSiteEntry_eq h, searchLoop_eq, hf', he, hv]
      rfl

end Search

/-! ## What a call writes -/

/-- Only one entry and the count of its table were written. -/
structure Put (s s' : SiteMgrT) (b : Tables) (m : UInt8) (i : ℕ) (e : SiteEntry) : Prop where
  tables : s'.tables = update s.tables b ((s.tables b).put m i e)
  primary : s'.pPrimarySite = s.pPrimarySite

section Put

variable {s s' s'' : SiteMgrT} {mac : TMacAddr} {b : Tables} {m m' : UInt8} {i : ℕ}
  {e e' : SiteEntry}

theorem Put.table (h : Put s s' b m i e) : s'.tables b = (s.tables b).put m i e := by
  rw [h.tables, update_self]

theorem Put.trans (h : Put s s' b m i e) (h' : Put s' s'' b m' i e') : Put s s'' b m' i e' where
  tables := by
    rw [h'.tables, h.table, h.tables, update_idem]
    simp [SiteTablesParams.put]
  primary := h'.primary.trans h.primary

theorem Put.entry (h : Put s s' b m i e) : s'.entry ⟨b, i⟩ = e := by
  unfold SiteMgrT.entry
  rw [h.table]
  simp [SiteTablesParams.put]

theorem Put.others (h : Put s s' b m i e) {q : SitePtr} (hq : q ≠ ⟨b, i⟩) :
    s'.entry q = s.entry q := by
  unfold SiteMgrT.entry
  rw [h.tables]
  by_cases hb : q.table = b
  · have hne : q.index ≠ i := fun hi => hq (by cases q; simp_all)
    simp [hb, SiteTablesParams.put, hne]
  · rw [update_of_ne hb]

theorem Put.written (h : Put s s' b m i e) : Written s s' e.bssid ⟨b, i⟩ :=
  ⟨by rw [h.entry], fun _ hq => h.others hq, h.primary⟩

theorem Put.sound (h : Put s s' b m i e) (hs : Sound s) (ht : SoundTable ((s.tables b).put m i e)) :
    Sound s' := by
  intro b'
  rw [h.tables]
  by_cases hb : b' = b
  · subst hb
    rwa [update_self]
  · rw [update_of_ne hb]
    exact hs b'

theorem put_set (m : UInt8) (i : ℕ) (e : SiteEntry) :
    Put s ((s.setNumOfSites b m).setEntry ⟨b, i⟩ e) b m i e where
  tables := by
    simp [SiteMgrT.setEntry, SiteMgrT.setNumOfSites, SiteTablesParams.put]
  primary := rfl

theorem put_insertAt (s : SiteMgrT) (mac : TMacAddr) (b : Tables) (i : ℕ) : ∃ e, e.bssid = mac ∧
    Put s (s.insertAt mac b i) b ((s.tables b).numOfSites + 1) i e :=
  ⟨_, rfl, put_set _ _ _⟩

theorem put_fill (ty : SiteType) (ts : UInt32) :
    Put s (s.fill ⟨b, i⟩ ty ts) b (s.tables b).numOfSites i
      { s.entry ⟨b, i⟩ with siteType := ty, localTimeStamp := ts } where
  tables := rfl
  primary := rfl

theorem put_removeSiteEntry (h : (s.tables b).numOfSites ≠ 0) : ∃ k,
    Put s (s.removeSiteEntry b (some ⟨b, i⟩)) b ((s.tables b).numOfSites - 1) i (.zero k) := by
  refine ⟨(s.entry ⟨b, i⟩).index, ?_⟩
  have hidx : ((s.setNumOfSites b ((s.tables b).numOfSites - 1)).entry ⟨b, i⟩).index =
      (s.entry ⟨b, i⟩).index := by
    simp [SiteMgrT.entry, SiteMgrT.setNumOfSites]
  have hput := put_set (s := s) (b := b) ((s.tables b).numOfSites - 1) i
    (.zero (s.entry ⟨b, i⟩).index)
  simp only [SiteMgrT.removeSiteEntry, if_neg h, hidx]
  split
  · exact ⟨hput.tables, hput.primary⟩
  · exact hput

end Put

/-! ## One call -/

section Step

variable {s : SiteMgrT} {mac : TMacAddr} {b : Tables} {i : ℕ} {ty : SiteType} {ts : UInt32}

theorem SoundTable.succ {t : SiteTablesParams} (h : SoundTable t) :
    (t.numOfSites + 1).toNat = (occupied t).card + 1 := by
  have hle := occupied_card_le t
  have hcount := h.count
  have hsmall : maxSitesBgBand + 1 < 256 := by decide
  rw [UInt8.toNat_add, hcount, UInt8.toNat_one]
  exact Nat.mod_eq_of_lt (by omega)

theorem SoundTable.pred {t : SiteTablesParams} (h : SoundTable t) (hne : t.numOfSites ≠ 0) :
    (t.numOfSites - 1).toNat + 1 = (occupied t).card := by
  have hpos : t.numOfSites.toNat ≠ 0 := fun hz => hne (UInt8.toNat_inj.mp hz)
  have hle : (1 : UInt8) ≤ t.numOfSites :=
    UInt8.le_iff_toNat_le.mpr (Nat.one_le_iff_ne_zero.mpr hpos)
  rw [UInt8.toNat_sub_of_le _ _ hle, ← h.count]
  exact Nat.sub_add_cancel (Nat.one_le_iff_ne_zero.mpr hpos)

theorem insertAt_sound (h : Sound s) (hi : i < maxSitesBgBand) (habsent : ∀ j, ¬ Holds s b mac j)
    (hfree : ¬ Occupied (s.tables b) i) (hty : ty ≠ .null) (ts : UInt32) :
    Written s (s.insertAt mac b i) mac ⟨b, i⟩ ∧ Sound ((s.insertAt mac b i).fill ⟨b, i⟩ ty ts) := by
  obtain ⟨e, rfl, hput⟩ := put_insertAt s mac b i
  refine ⟨hput.written, ?_⟩
  have hfill := hput.trans (put_fill ty ts)
  refine hfill.sound h ((h b).put hi hty (fun j hj _ hbssid => habsent j ⟨hj, ?_⟩) ?_)
  · rw [hput.entry] at hbssid
    exact hbssid
  · have hnotMem : i ∉ occupied (s.tables b) := fun hmem => hfree (mem_occupied.mp hmem).2
    rw [hput.table, Finset.card_insert_of_notMem hnotMem]
    exact (h b).succ

theorem evict_sound (h : Sound s) (hi : i < maxSitesBgBand) (habsent : ∀ j, ¬ Holds s b mac j)
    (hfull : ∀ j < maxSitesBgBand, Occupied (s.tables b) j) (hty : ty ≠ .null) (ts : UInt32) :
    Written s ((s.removeSiteEntry b (some ⟨b, i⟩)).insertAt mac b i) mac ⟨b, i⟩ ∧
      Sound (((s.removeSiteEntry b (some ⟨b, i⟩)).insertAt mac b i).fill ⟨b, i⟩ ty ts) := by
  have hmem : i ∈ occupied (s.tables b) := mem_occupied.mpr ⟨hi, hfull i hi⟩
  have hne : (s.tables b).numOfSites ≠ 0 := by
    intro hz
    have hcount := (h b).count
    rw [hz] at hcount
    exact Finset.card_ne_zero_of_mem hmem hcount.symm
  obtain ⟨k, hremove⟩ := put_removeSiteEntry (i := i) hne
  obtain ⟨e, rfl, hinsert⟩ := put_insertAt (s.removeSiteEntry b (some ⟨b, i⟩)) mac b i
  have hput := hremove.trans hinsert
  refine ⟨hput.written, ?_⟩
  have hfill := hput.trans (put_fill ty ts)
  refine hfill.sound h ((h b).put hi hty (fun j hj _ hbssid => habsent j ⟨hj, ?_⟩) ?_)
  · rw [hput.entry] at hbssid
    exact hbssid
  · rw [hput.table, Finset.insert_eq_self.mpr hmem, ← (h b).count]
    refine congrArg UInt8.toNat ?_
    rw [hremove.table]
    exact UInt8.sub_add_cancel _ _

theorem found_right_iff (h : Sound s) (hty : ty ≠ .null) (hf : firstWith s b mac = some i) :
    Served s mac b s i ∧ Sound (s.fill ⟨b, i⟩ ty ts) ↔ Occupied (s.tables b) i := by
  obtain ⟨hi, hbssid⟩ := firstWith_eq_some hf
  have hfill := put_fill (s := s) (b := b) (i := i) ty ts
  constructor
  · rintro ⟨-, hsound⟩
    by_contra hfree
    -- the entry is occupied afterwards, and was not counted
    have hcount := (hsound b).count
    have hnotMem : i ∉ occupied (s.tables b) := fun hmem => hfree (mem_occupied.mp hmem).2
    rw [hfill.table, occupied_put hi hty, Finset.card_insert_of_notMem hnotMem,
      ← (h b).count] at hcount
    exact absurd hcount (Nat.ne_of_lt (Nat.lt_succ_self _))
  · intro hocc
    have hmem : i ∈ occupied (s.tables b) := mem_occupied.mpr ⟨hi, hocc⟩
    refine ⟨.found ⟨hmem, hbssid⟩ rfl, hfill.sound h ((h b).put hi hty (fun j hj hne heq => ?_) ?_)⟩
    · exact hne ((h b).distinct j hj i hmem heq)
    · rw [Finset.insert_eq_self.mpr hmem]
      exact (h b).count

theorem evicted_right_iff (h : Sound s) (hty : ty ≠ .null) (hf : firstWith s b mac = none)
    (hfull : ∀ j < maxSitesBgBand, Occupied (s.tables b) j) (hi : i < maxSitesBgBand)
    (hts : (s.entry ⟨b, i⟩).localTimeStamp = s.oldestTS b)
    (hlast : ∀ k < maxSitesBgBand, i < k → (s.entry ⟨b, k⟩).localTimeStamp ≠ s.oldestTS b) :
    let s' := (s.removeSiteEntry b (some ⟨b, i⟩)).insertAt mac b i
    Served s mac b s' i ∧ Sound (s'.fill ⟨b, i⟩ ty ts) ↔ OldestFirst s b := by
  have habsent := absent_of_firstWith hf
  obtain ⟨hwritten, hsound⟩ := evict_sound h hi habsent hfull hty ts
  constructor
  · rintro ⟨hserved, -⟩
    cases hserved with
    | found holds _ => exact absurd holds (habsent i)
    | inserted _ _ free _ => exact absurd (hfull i hi) free
    | evicted _ _ _ spared oldest _ =>
      refine ⟨fun j hj hne => hts ▸ oldest j hj hne, fun j hj hprim hjts => ?_⟩
      have hne : j ≠ i := fun heq => spared (heq ▸ hprim)
      rcases Nat.lt_or_gt_of_ne hne with hlt | hgt
      · exact ⟨i, hi, hlt, hts⟩
      · exact absurd hjts (hlast j hj hgt)
  · rintro ⟨holdest, hprim⟩
    refine ⟨.evicted hi habsent hfull (fun heq => ?_) (fun j hj hne => hts ▸ holdest j hj hne)
      hwritten, hsound⟩
    obtain ⟨k, hk, hik, hkts⟩ := hprim i hi heq hts
    exact hlast k hk hik hkts

theorem stepRight_insert {s' : SiteMgrT} {band : ERadioBand} (hty : ty ≠ .null)
    (h : s.findAndInsertSiteEntry mac (tableOf band) = (s', some i)) :
    StepRight s (.insert mac band ty hty ts) ↔
      Served s mac (tableOf band) s' i ∧ Sound (s'.fill ⟨tableOf band, i⟩ ty ts) := by
  simp only [StepRight, SiteMgrT.step, h]
  constructor
  · rintro ⟨⟨_, _, heq, hserved⟩, hsound⟩
    cases heq
    exact ⟨hserved, hsound _ rfl⟩
  · rintro ⟨hserved, hsound⟩
    exact ⟨⟨s', i, rfl, hserved⟩, fun t ht => Option.some.inj ht ▸ hsound⟩

theorem insert_right_iff (h : Sound s) (band : ERadioBand) (hty : ty ≠ .null) :
    StepRight s (.insert mac band ty hty ts) ↔ Fits s (.insert mac band ty hty ts) := by
  cases hf : firstWith s (tableOf band) mac with
  | some i =>
    rw [stepRight_insert hty (findAndInsertSiteEntry_found h hf), Fits, hf]
    exact found_right_iff h hty hf
  | none =>
    by_cases hfull : ∀ j < maxSitesBgBand, Occupied (s.tables (tableOf band)) j
    · obtain ⟨v, hv, hts, hlast, heq⟩ := findAndInsertSiteEntry_evicted h hf hfull
      rw [stepRight_insert hty heq, Fits, hf]
      exact (evicted_right_iff h hty hf hfull hv hts hlast).trans
        ⟨fun hold _ => hold, fun hold => hold hfull⟩
    · obtain ⟨j, hj, hfree⟩ : ∃ j < maxSitesBgBand, ¬ Occupied (s.tables (tableOf band)) j := by
        simpa using hfull
      obtain ⟨i, hi, hfree, heq⟩ := findAndInsertSiteEntry_inserted h hf hj hfree
      rw [stepRight_insert hty heq, Fits, hf]
      have habsent := absent_of_firstWith hf
      obtain ⟨hwritten, hsound⟩ := insertAt_sound h hi habsent hfree hty ts
      exact ⟨fun _ hall => absurd hall hfull,
        fun _ => ⟨.inserted hi habsent hfree hwritten, hsound⟩⟩

theorem removeSiteEntry_numOfSites (p : SitePtr) (h : (s.tables b).numOfSites ≠ 0) :
    ((s.removeSiteEntry b (some p)).tables b).numOfSites = (s.tables b).numOfSites - 1 := by
  simp only [SiteMgrT.removeSiteEntry, if_neg h]
  split <;> by_cases hb : b = p.table <;>
    simp [SiteMgrT.setEntry, SiteMgrT.setNumOfSites, hb, update_of_ne]

theorem removeSiteEntry_siteTable {p : SitePtr} (hp : p.table ≠ b) :
    ((s.removeSiteEntry b (some p)).tables b).siteTable = (s.tables b).siteTable := by
  unfold SiteMgrT.removeSiteEntry
  by_cases hz : (s.tables b).numOfSites = 0
  · simp only [if_pos hz]
  · simp only [if_neg hz]
    split <;> simp [SiteMgrT.setEntry, SiteMgrT.setNumOfSites, update_of_ne hp.symm]

theorem remove_right_iff (h : Sound s) (q : Option SitePtr) :
    StepRight s (.remove b q) ↔ Fits s (.remove b q) := by
  have hstep : StepRight s (.remove b q) ↔ Sound (s.removeSiteEntry b q) :=
    ⟨fun hr => hr.2 _ rfl, fun hs => ⟨trivial, fun t ht => Option.some.inj ht ▸ hs⟩⟩
  rw [hstep]
  cases q with
  | none => exact ⟨fun _ => trivial, fun _ => h⟩
  | some p =>
    by_cases hzero : (s.tables b).numOfSites = 0
    · rw [SiteMgrT.removeSiteEntry, if_pos hzero]
      exact ⟨fun _ => Or.inl hzero, fun _ => h⟩
    · obtain ⟨b', i⟩ := p
      have hpred := (h b).pred hzero
      constructor
      · intro hs
        refine Or.inr ?_
        have hcount := (hs b).count
        rw [removeSiteEntry_numOfSites _ hzero] at hcount
        have hb : b' = b := by
          by_contra hb
          have hocc : occupied ((s.removeSiteEntry b (some ⟨b', i⟩)).tables b) =
              occupied (s.tables b) :=
            Finset.filter_congr fun j _ => by rw [Occupied, Occupied, removeSiteEntry_siteTable hb]
          rw [hocc] at hcount
          omega
        subst hb
        refine ⟨rfl, ?_⟩
        by_contra hi
        obtain ⟨k, hput⟩ := put_removeSiteEntry (i := i) hzero
        rw [hput.table, occupied_put_empty rfl, Finset.erase_eq_of_notMem hi] at hcount
        omega
      · intro hfits
        obtain ⟨rfl, hi⟩ := hfits.resolve_left hzero
        obtain ⟨k, hput⟩ := put_removeSiteEntry (i := i) hzero
        refine hput.sound h ((h b').clear k ?_)
        rw [Finset.card_erase_of_mem hi]
        exact Nat.eq_sub_of_add_eq hpred

theorem step_right_iff (h : Sound s) (op : Op) : StepRight s op ↔ Fits s op := by
  cases op with
  | insert mac band ty hty ts => exact insert_right_iff h band hty
  | remove b q => exact remove_right_iff h q
  | primary p => exact ⟨fun _ => trivial, fun _ => ⟨trivial, fun t ht => Option.some.inj ht ▸ h⟩⟩

end Step

/-! ## Runs -/

/-- **Every call of a run does what it has to do exactly if every call fits.** -/
theorem site_tables_right_iff {s : SiteMgrT} (h : Sound s) (ops : List Op) :
    Along SiteMgrT.step StepRight s ops ↔ Along SiteMgrT.step Fits s ops :=
  along_congr_of_invariant (fun _ op hs => step_right_iff hs op)
    (fun _ op t hs hfits ht => ((step_right_iff hs op).mpr hfits).2 t ht) h

theorem sound_init (dot11GMode : Bool) (slotTime : ESlotTime) : Sound (init dot11GMode slotTime) :=
  fun _ =>
    { size := rfl
      count := (Finset.card_eq_zero.mpr (Finset.filter_false_of_mem fun _ _ h => h rfl)).symm
      empty := fun _ _ _ => rfl
      distinct := fun _ hi => absurd rfl (mem_occupied.mp hi).2 }

section Samples

def sampleMac (k : UInt8) : TMacAddr := fun _ => k

def beacon (k : UInt8) (time : UInt32) : Op :=
  .insert (sampleMac k) .band24GHz .regular nofun time

/-- A third site comes while the oldest entry is the first one. -/
theorem site_tables_right_oldestFirst :
    Along SiteMgrT.step StepRight (init false .long) [beacon 1 10, beacon 2 20, beacon 3 30] :=
  (site_tables_right_iff (sound_init false .long) _).mpr (by decide)

/-- The first site was heard again, and goes in place of the second one. Two sites have the same
time stamp, the second one is the primary site, and goes. -/
theorem newer_and_primary_evicted :
    ¬ Along SiteMgrT.step StepRight (init false .long)
        [beacon 1 10, beacon 2 20, beacon 1 30, beacon 3 40] ∧
      ¬ Along SiteMgrT.step StepRight (init false .long)
        [beacon 1 10, beacon 2 10, .primary (some ⟨.dot11BG, 1⟩), beacon 3 40] := by
  constructor
  · rintro ⟨-, h⟩
    obtain ⟨-, h⟩ := h _ rfl
    obtain ⟨hthird, h⟩ := h _ rfl
    obtain ⟨hlast, -⟩ := h _ rfl
    exact absurd ((step_right_iff (hthird.2 _ rfl) _).mp hlast) (by decide)
  · rintro ⟨-, h⟩
    obtain ⟨-, h⟩ := h _ rfl
    obtain ⟨hthird, h⟩ := h _ rfl
    obtain ⟨hlast, -⟩ := h _ rfl
    exact absurd ((step_right_iff (hthird.2 _ rfl) _).mp hlast) (by decide)

end Samples

end ArchosGpl.Wlan.SiteMgr
