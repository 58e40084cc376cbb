import ArchosGpl.Lib.KeyedTable
import ArchosGpl.Wlan.ScanResultTable.Model

/-!
# The keys of the scan result table

An update puts an entry with the key of the frame into the table (`updateEntry_put`, an instance of
`Lib.KeyedTable.Put`), aging removes entries by swapping with the last. **`table_sound`**: in every
run the entries have distinct keys and fit into the table, and an update changes no other entry
than that of the frame, except that a new site in a full table takes the place of one hidden entry.

The first update of a stable table that clears starts from the empty table (`leaveStable`), so
there the entries of other sites are gone (`update_clears`).
-/

namespace ArchosGpl.Wlan.ScanResultTable

open Lib

namespace TScanResultTable

variable {t : TScanResultTable}

/-- Distinct keys, and no more entries than the table has room for. -/
structure Sound (t : TScanResultTable) : Prop where
  distinct : KeyedTable.Distinct TSiteEntry.key t.pTable
  fits : t.pTable.length ≤ t.uEntriesNumber

@[simp] theorem updateSiteData_key (e : TSiteEntry) (ssid : TSsid) (pFrame : TScanFrameInfo)
    (now : UInt32) : (updateSiteData e ssid pFrame now).key = (ssid, pFrame.bssId) := rfl

@[simp] theorem leaveStable_uEntriesNumber (t : TScanResultTable) :
    t.leaveStable.uEntriesNumber = t.uEntriesNumber := by
  unfold leaveStable
  split <;> rfl

/-! ## The search functions -/

theorem getBySsidBssidPair_some {k : Key} {i : ℕ} (h : t.getBySsidBssidPair k = some i) :
    ∃ e, t.pTable[i]? = some e ∧ e.key = k := by
  obtain ⟨hlt, hkey, -⟩ := List.findIdx?_eq_some_iff_getElem.mp h
  exact ⟨t.pTable[i], List.getElem?_eq_getElem hlt, of_decide_eq_true hkey⟩

theorem getBySsidBssidPair_none {k : Key} (h : t.getBySsidBssidPair k = none) :
    ∀ e ∈ t.pTable, e.key ≠ k := by
  intro e he hk
  have hfalse := List.findIdx?_eq_none_iff.mp h e he
  exact absurd hk (of_decide_eq_false hfalse)

theorem findHidden_some {i : ℕ} (h : t.findHidden = some i) :
    ∃ e, t.pTable[i]? = some e ∧ e.Hidden := by
  obtain ⟨hlt, hhidden, -⟩ := List.findIdx?_eq_some_iff_getElem.mp h
  exact ⟨t.pTable[i], List.getElem?_eq_getElem hlt, of_decide_eq_true hhidden⟩

/-! ## The update -/

/-- What `scanResultTable_UpdateEntry` does after it left the stable state. -/
inductive Updated (t : TScanResultTable) (pFrame : TScanFrameInfo) : TScanResultTable → Prop
  | none : Updated t pFrame t
  | update {ssid : TSsid} {i : ℕ} {e e' : TSiteEntry} (hssid : frameSsid pFrame = some ssid)
      (at_i : t.pTable[i]? = some e) (old : e.key = (ssid, pFrame.bssId))
      (new : e'.key = (ssid, pFrame.bssId)) :
      Updated t pFrame { t with pTable := t.pTable.set i e' }
  | add {ssid : TSsid} {e' : TSiteEntry} (hssid : frameSsid pFrame = some ssid)
      (room : t.pTable.length < t.uEntriesNumber)
      (fresh : ∀ e ∈ t.pTable, e.key ≠ (ssid, pFrame.bssId))
      (new : e'.key = (ssid, pFrame.bssId)) :
      Updated t pFrame { t with pTable := t.pTable ++ [e'] }
  | evict {ssid : TSsid} {i : ℕ} {e e' : TSiteEntry} (hssid : frameSsid pFrame = some ssid)
      (full : t.uEntriesNumber ≤ t.pTable.length) (at_i : t.pTable[i]? = some e)
      (hidden : e.Hidden) (fresh : ∀ e ∈ t.pTable, e.key ≠ (ssid, pFrame.bssId))
      (new : e'.key = (ssid, pFrame.bssId)) :
      Updated t pFrame { t with pTable := t.pTable.set i e' }

theorem updateEntry_updated (t : TScanResultTable) (pFrame : TScanFrameInfo) (now : UInt32) :
    Updated t.leaveStable pFrame (t.updateEntry pFrame.bssId pFrame now).1 := by
  unfold updateEntry
  generalize t.leaveStable = t₀
  dsimp only
  split
  · exact .none
  next ssid hssid =>
    split
    next i hfound =>
      obtain ⟨e, he, hk⟩ := getBySsidBssidPair_some hfound
      rw [he]
      dsimp only
      split
      · exact .update hssid he hk (updateSiteData_key ..)
      · exact .none
    next hnone =>
      have hfresh := getBySsidBssidPair_none hnone
      unfold allocateNewEntry
      split
      · exact .none
      next t' i halloc =>
        split at halloc
        next hfull =>
          obtain ⟨j, hhidden, hpair⟩ := Option.map_eq_some_iff.mp halloc
          obtain ⟨rfl, rfl⟩ := Prod.mk.inj hpair
          obtain ⟨e, he, hh⟩ := findHidden_some hhidden
          rw [updateAt]
          dsimp only
          rw [List.set_set]
          exact .evict hssid hfull he hh hfresh (updateSiteData_key ..)
        next hroom =>
          cases halloc
          rw [updateAt]
          dsimp only
          rw [List.set_append_right _ _ (Nat.le_refl _), Nat.sub_self, List.set_cons_zero]
          exact .add hssid (Nat.not_le.mp hroom) hfresh (updateSiteData_key ..)

variable {pFrame : TScanFrameInfo} {t' : TScanResultTable}

theorem Updated.put (h : Updated t pFrame t') :
    t'.pTable = t.pTable ∨ ∃ ssid, frameSsid pFrame = some ssid ∧
      KeyedTable.Put TSiteEntry.key t.pTable (ssid, pFrame.bssId) t'.pTable := by
  cases h with
  | none => exact Or.inl rfl
  | update hssid at_i old new => exact Or.inr ⟨_, hssid, .update at_i old new⟩
  | add hssid room fresh new => exact Or.inr ⟨_, hssid, .add fresh new⟩
  | evict hssid full at_i hidden fresh new => exact Or.inr ⟨_, hssid, .evict at_i fresh new⟩

theorem Sound.updated (h : Sound t)
    (hu : Updated t pFrame t') : Sound t' ∧ t'.uEntriesNumber = t.uEntriesNumber := by
  have hdistinct : KeyedTable.Distinct TSiteEntry.key t'.pTable := by
    rcases hu.put with hsame | ⟨ssid, -, hput⟩
    · rw [hsame]
      exact h.distinct
    · exact hput.distinct h.distinct
  cases hu with
  | none => exact ⟨h, rfl⟩
  | update | evict => exact ⟨⟨hdistinct, by rw [List.length_set]; exact h.fits⟩, rfl⟩
  | add _ room =>
    refine ⟨⟨hdistinct, ?_⟩, rfl⟩
    rw [List.length_append, List.length_singleton]
    exact room

theorem Sound.leaveStable (h : Sound t) : Sound t.leaveStable := by
  unfold TScanResultTable.leaveStable
  split
  · by_cases hclear : t.eClearTable = .clear
    · exact ⟨by simp [hclear, KeyedTable.Distinct], by simp [hclear]⟩
    · simp only [hclear, if_false]
      exact ⟨h.distinct, h.fits⟩
  · exact h

/-! ## Aging -/

theorem Sound.removeEntry (h : Sound t) (uIndex : ℕ) :
    Sound (t.removeEntry uIndex) ∧ (t.removeEntry uIndex).uEntriesNumber = t.uEntriesNumber := by
  unfold TScanResultTable.removeEntry
  split
  · exact ⟨h, rfl⟩
  next last hlast =>
    split
    next hlt =>
      refine ⟨⟨h.distinct.swapRemove hlt hlast, ?_⟩, rfl⟩
      rw [List.length_dropLast, List.length_set]
      exact Nat.le_trans (Nat.sub_le _ _) h.fits
    next => exact ⟨h, rfl⟩

theorem Sound.agingLoop (h : Sound t) (n uIndex : ℕ) (clock : List UInt32) :
    Sound (agingLoop n uIndex clock t) ∧
      (TScanResultTable.agingLoop n uIndex clock t).uEntriesNumber = t.uEntriesNumber := by
  induction n generalizing t uIndex clock with
  | zero => exact ⟨h, rfl⟩
  | succ n ih =>
    rw [TScanResultTable.agingLoop]
    split
    · exact ⟨h, rfl⟩
    · split
      · obtain ⟨hr, hn⟩ := h.removeEntry uIndex
        obtain ⟨hs, hn'⟩ := ih hr uIndex clock.tail
        exact ⟨hs, hn'.trans hn⟩
      · exact ih h (uIndex + 1) clock.tail

/-! ## Runs -/

theorem Sound.step (h : Sound t) (op : Op) :
    Sound (t.step op) ∧ (t.step op).uEntriesNumber = t.uEntriesNumber := by
  cases op with
  | updateEntry pFrame now =>
    obtain ⟨hs, hn⟩ := h.leaveStable.updated (updateEntry_updated t pFrame now)
    exact ⟨hs, hn.trans (leaveStable_uEntriesNumber t)⟩
  | performAging clock => exact h.agingLoop t.pTable.length 0 clock
  | setStableState =>
    refine ⟨?_, rfl⟩
    by_cases hclear : t.bStable = true ∧ t.eClearTable = .clear
    · exact ⟨by simp [TScanResultTable.step, setStableState, hclear, KeyedTable.Distinct],
        by simp [TScanResultTable.step, setStableState, hclear]⟩
    · refine ⟨?_, ?_⟩
      · rw [TScanResultTable.step, setStableState, if_neg hclear]
        exact h.distinct
      · rw [TScanResultTable.step, setStableState, if_neg hclear]
        exact h.fits
  | setSraThreshold => exact ⟨⟨h.distinct, h.fits⟩, rfl⟩

theorem run_sound (uEntriesNumber : ℕ) (eClearTable : EScanResultTableClear) (ops : List Op) :
    Sound (ops.foldl step (init uEntriesNumber eClearTable)) ∧
      (ops.foldl step (init uEntriesNumber eClearTable)).uEntriesNumber = uEntriesNumber := by
  refine List.foldlRecOn (motive := fun t => Sound t ∧ t.uEntriesNumber = uEntriesNumber) ops step
    ⟨⟨List.nodup_nil, Nat.zero_le _⟩, rfl⟩ fun t ht op _ => ?_
  obtain ⟨hs, hn⟩ := ht.1.step op
  exact ⟨hs, hn.trans ht.2⟩

def frameKey (pFrame : TScanFrameInfo) : Option Key :=
  (frameSsid pFrame).map fun ssid => (ssid, pFrame.bssId)

/-- An update between two tables touches the entry of a key only. An entry of another key that is
not kept was hidden, in a full table without the key. -/
structure Frame (k : Option Key) (t t' : TScanResultTable) : Prop where
  kept : ∀ (i : ℕ) (e : TSiteEntry), t.pTable[i]? = some e → some e.key ≠ k → t'.pTable[i]? = some e ∨
    e.Hidden ∧ t.uEntriesNumber ≤ t.pTable.length ∧ (∀ b ∈ t.pTable, some b.key ≠ k) ∧
      ∀ j : ℕ, j ≠ i → t'.pTable[j]? = t.pTable[j]?
  new : ∀ e ∈ t'.pTable, e ∈ t.pTable ∨ some e.key = k

theorem Updated.frame (h : Updated t pFrame t') : Frame (frameKey pFrame) t t' := by
  constructor
  case kept =>
    intro i e hi hk
    rcases h.put with hsame | ⟨ssid, hssid, hput⟩
    · rw [hsame]
      exact Or.inl hi
    · have hkey : frameKey pFrame = some (ssid, pFrame.bssId) := by rw [frameKey, hssid]; rfl
      rw [hkey] at hk ⊢
      have hne : e.key ≠ (ssid, pFrame.bssId) := fun heq => hk (congrArg some heq)
      cases h with
      | none => exact Or.inl hi
      | update hssid' at_i old new =>
        rcases hput.kept_or_evicted hi hne with hkept | ⟨hfresh, -⟩
        · exact Or.inl hkept
        · cases hssid.symm.trans hssid'
          exact absurd old (hfresh _ (List.mem_of_getElem? at_i))
      | add hssid' room fresh new =>
        refine Or.inl ?_
        rw [List.getElem?_append_left (List.getElem?_eq_some_iff.mp hi).1]
        exact hi
      | @evict ssid' j old e' hssid' full at_i hidden fresh new =>
        by_cases hij : j = i
        · subst hij
          cases at_i.symm.trans hi
          cases hssid.symm.trans hssid'
          refine Or.inr ⟨hidden, full, fun b hb hbk => fresh b hb (Option.some.inj hbk), ?_⟩
          intro l hl
          exact List.getElem?_set_ne (Ne.symm hl)
        · refine Or.inl ?_
          rw [List.getElem?_set_ne hij]
          exact hi
  case new =>
    intro e he
    rcases h.put with hsame | ⟨ssid, hssid, hput⟩
    · rw [hsame] at he
      exact Or.inl he
    · rw [frameKey, hssid]
      exact (hput.mem he).imp_right (congrArg some)

/-- **The table in every run**: distinct keys, no more entries than it has room for, and an update
of it that starts from the table as it leaves the stable state touches the site of the frame
only. -/
theorem table_sound (uEntriesNumber : ℕ) (eClearTable : EScanResultTableClear) (ops : List Op) :
    let t := ops.foldl step (init uEntriesNumber eClearTable)
    (t.pTable.map TSiteEntry.key).Nodup ∧ t.pTable.length ≤ uEntriesNumber ∧
      ∀ pFrame now, Frame (frameKey pFrame) t.leaveStable
        (t.updateEntry pFrame.bssId pFrame now).1 := by
  obtain ⟨hs, hn⟩ := run_sound uEntriesNumber eClearTable ops
  refine ⟨hs.distinct, hs.fits.trans_eq hn, fun pFrame now => ?_⟩
  exact (updateEntry_updated _ pFrame now).frame

/-- A beacon of a site whose SSID and BSSID are given by a number. -/
def beaconOf (n : UInt8) : TScanFrameInfo where
  bssId := fun _ => n
  pSsid := some [n]
  subType := .beacon
  rssi := -50
  channel := 1
  capabilities := 1
  beaconInerval := 100
  pDSParamsSet := some 1
  pTIM := some 1

/-- In a table that clears, an update after `scanResultTable_SetStableState` removes the entry of
the other site, although the table has room. -/
theorem update_clears :
    let t := [Op.updateEntry (beaconOf 1) 0, .setStableState].foldl step (init 2 .clear)
    (t.pTable.map TSiteEntry.key).length = 1 ∧ t.pTable.length < t.uEntriesNumber ∧
      ¬ ∀ (i : ℕ) (e : TSiteEntry), t.pTable[i]? = some e → some e.key ≠ frameKey (beaconOf 2) →
        (t.updateEntry (beaconOf 2).bssId (beaconOf 2) 0).1.pTable[i]? = some e := by
  refine ⟨by decide, by decide, fun h => ?_⟩
  have h0 := h 0 (updateSiteData .zero ⟨[1], by decide⟩ (beaconOf 1) 0) (by decide) (by decide)
  revert h0
  decide

end TScanResultTable

end ArchosGpl.Wlan.ScanResultTable
