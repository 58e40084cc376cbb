import ArchosGpl.Lib.Machine
import ArchosGpl.Wlan.ScanResultTable.BssidModel

/-!
# The BSSID list and its size

A run takes the entries through what the module does to them: an entry is updated from a frame, a
zeroed one is added or put in the place of another, one is removed by a swap with the last, and all
are cleared. `calls_refine` says that the calls of the module do this. `last` remembers the RSN
elements of the last frame of a site.

* `bssid_list_right_iff`: **in every state of a run the list is right, exactly if every frame fits
  the entry that it updates** (`Fits`): its RSN elements fit the slots, none is empty, and none of
  an earlier frame stays behind them.
-/

namespace ArchosGpl.Wlan.ScanResultTable

open Lib

/-! ## Runs -/

/-- An entry, with the RSN elements of its last frame. -/
structure Tracked where
  site : SiteEntry
  last : List Dot11Rsn

namespace Tracked

def zero : Tracked := ⟨.zero, []⟩

/-- An accepted frame. -/
def update (t : Tracked) (ssid : TSsid) (pFrame : SiteFrame) (now : UInt32) : Tracked :=
  ⟨t.site.update ssid pFrame now, pFrame.body.rsnIes⟩

end Tracked

inductive EntryOp
  | update (uIndex : ℕ) (ssid : TSsid) (pFrame : SiteFrame) (now : UInt32)
  | add (ssid : TSsid) (pFrame : SiteFrame) (now : UInt32)
  | replace (uIndex : ℕ) (ssid : TSsid) (pFrame : SiteFrame) (now : UInt32)
  | remove (uIndex : ℕ)
  | clear

def EntryOp.frame : EntryOp → Option SiteFrame
  | .update _ _ pFrame _ => some pFrame
  | .add _ pFrame _ => some pFrame
  | .replace _ _ pFrame _ => some pFrame
  | .remove _ => none
  | .clear => none

def entryStep (s : List Tracked) : EntryOp → Option (List Tracked)
  | .update uIndex ssid pFrame now =>
    s[uIndex]?.map fun t => s.set uIndex (t.update ssid pFrame now)
  | .add ssid pFrame now => some (s ++ [Tracked.zero.update ssid pFrame now])
  | .replace uIndex ssid pFrame now =>
    s[uIndex]?.map fun _ => s.set uIndex (Tracked.zero.update ssid pFrame now)
  | .remove uIndex =>
    s.getLast?.bind fun last => if uIndex < s.length then some (s.set uIndex last).dropLast else none
  | .clear => some []

/-! ### The calls of the module -/

/-- The entries as `ScanResultTable.Model` has them. -/
def view (s : List Tracked) : List TSiteEntry := s.map fun t => t.site.toTSiteEntry

/-- Steps lead from the entries `s` to the entries `l` of the model, with frames of a kind. -/
def Acts (F : SiteFrame → Prop) (s : List Tracked) (l : List TSiteEntry) : Prop :=
  ∃ ops s', (∀ op ∈ ops, ∀ pFrame, op.frame = some pFrame → F pFrame) ∧
    exec entryStep s ops = some s' ∧ view s' = l

variable {F : SiteFrame → Prop}

theorem Acts.refl (s : List Tracked) : Acts F s (view s) := ⟨[], s, List.forall_mem_nil _, rfl, rfl⟩

theorem Acts.head {s s' : List Tracked} {l : List TSiteEntry} (op : EntryOp)
    (hop : ∀ pFrame, op.frame = some pFrame → F pFrame) (hstep : entryStep s op = some s')
    (h : Acts F s' l) : Acts F s l := by
  obtain ⟨ops, u, hops, he, hu⟩ := h
  exact ⟨op :: ops, u, List.forall_mem_cons.mpr ⟨hop, hops⟩, exec_cons.mpr ⟨s', hstep, he⟩, hu⟩

theorem Acts.one {s s' : List Tracked} {l : List TSiteEntry} (op : EntryOp)
    (hop : ∀ pFrame, op.frame = some pFrame → F pFrame) (hstep : entryStep s op = some s')
    (h : view s' = l) : Acts F s l := .head op hop hstep (h ▸ .refl s')

theorem Acts.trans {G : SiteFrame → Prop} {s : List Tracked} {l l' : List TSiteEntry}
    (hFG : ∀ pFrame, F pFrame → G pFrame) (h : Acts F s l)
    (h' : ∀ s', view s' = l → Acts G s' l') : Acts G s l' := by
  obtain ⟨ops, u, hops, he, hu⟩ := h
  obtain ⟨ops', u', hops', he', hu'⟩ := h' u hu
  refine ⟨ops ++ ops', u', fun op hop pFrame hf => ?_, exec_append.mpr ⟨u, he, he'⟩, hu'⟩
  rcases List.mem_append.mp hop with hop | hop
  · exact hFG pFrame (hops op hop pFrame hf)
  · exact hops' op hop pFrame hf

namespace TScanResultTable

variable {t : TScanResultTable} {s : List Tracked}

theorem leaveStable_acts (hs : view s = t.pTable) :
    ∃ s', view s' = t.leaveStable.pTable ∧ ∀ l, Acts F s' l → Acts F s l := by
  unfold leaveStable
  split
  · dsimp only
    split
    · exact ⟨[], rfl, fun l h => .head .clear (fun _ hf => nomatch hf) rfl h⟩
    · exact ⟨s, hs, fun _ h => h⟩
  · exact ⟨s, hs, fun _ h => h⟩

/-- **An update takes the entries through steps with the frame.** -/
theorem updateEntry_acts (hs : view s = t.pTable) (pFrame : SiteFrame) (now : UInt32) :
    Acts (fun f => f = pFrame) s (t.updateEntry pFrame.bssId pFrame.toTScanFrameInfo now).1.pTable := by
  obtain ⟨s₀, hs₀, hacts⟩ := leaveStable_acts hs
  refine hacts _ ?_
  unfold updateEntry
  generalize t.leaveStable = t₀ at hs₀
  dsimp only
  split
  · exact hs₀ ▸ .refl s₀
  next ssid _ =>
    split
    next i _ =>
      cases hi : t₀.pTable[i]? with
      | none => exact hs₀ ▸ .refl s₀
      | some pSite =>
        dsimp only
        split
        · rw [← hs₀, view, List.getElem?_map] at hi
          obtain ⟨u, hu, rfl⟩ := Option.map_eq_some_iff.mp hi
          refine .one (.update i ssid pFrame now) (fun _ hf => (Option.some.inj hf).symm)
            (by rw [entryStep, hu, Option.map_some]) ?_
          rw [view, List.map_set, ← view, hs₀]
          rfl
        · exact hs₀ ▸ .refl s₀
    next =>
      unfold allocateNewEntry
      split
      · exact hs₀ ▸ .refl s₀
      next t' i halloc =>
        split at halloc
        · obtain ⟨j, hj, hpair⟩ := Option.map_eq_some_iff.mp halloc
          obtain ⟨rfl, rfl⟩ := Prod.mk.inj hpair
          have hlt := (List.findIdx?_eq_some_iff_getElem.mp hj).1
          rw [← hs₀, view, List.length_map] at hlt
          refine .one (.replace j ssid pFrame now) (fun _ hf => (Option.some.inj hf).symm)
            (by rw [entryStep, List.getElem?_eq_getElem hlt, Option.map_some]) ?_
          rw [updateAt]
          rw [List.set_set, view, List.map_set, ← view, hs₀]
          rfl
        · cases halloc
          refine .one (.add ssid pFrame now) (fun _ hf => (Option.some.inj hf).symm) rfl ?_
          rw [updateAt]
          rw [List.set_append_right _ _ (Nat.le_refl _), Nat.sub_self, List.set_cons_zero, view,
            List.map_append, ← view, hs₀]
          rfl

theorem removeEntry_acts (hs : view s = t.pTable) (uIndex : ℕ) :
    ∃ s', view s' = (t.removeEntry uIndex).pTable ∧ ∀ l, Acts F s' l → Acts F s l := by
  unfold removeEntry
  cases hlast : t.pTable.getLast? with
  | none => exact ⟨s, hs, fun _ h => h⟩
  | some last =>
    dsimp only
    split
    next hlt =>
      rw [← hs, view, List.getLast?_map] at hlast
      obtain ⟨u, hu, rfl⟩ := Option.map_eq_some_iff.mp hlast
      rw [← hs, view, List.length_map] at hlt
      refine ⟨(s.set uIndex u).dropLast, ?_, fun l h =>
        .head (.remove uIndex) (fun _ hf => nomatch hf) ?_ h⟩
      · rw [view, List.map_dropLast, List.map_set, ← view, hs]
      · rw [entryStep, hu, Option.bind_some, if_pos hlt]
    · exact ⟨s, hs, fun _ h => h⟩

theorem agingLoop_acts (n uIndex : ℕ) (clock : List UInt32) (hs : view s = t.pTable) :
    Acts F s (agingLoop n uIndex clock t).pTable := by
  induction n generalizing uIndex clock t s with
  | zero => exact hs ▸ .refl s
  | succ n ih =>
    rw [agingLoop]
    split
    · exact hs ▸ .refl s
    · split
      · obtain ⟨s', hs', hacts⟩ := removeEntry_acts hs uIndex
        exact hacts _ (ih uIndex clock.tail hs')
      · exact ih (uIndex + 1) clock.tail hs

/-- **Every other call takes them through steps without a frame.** -/
theorem call_acts (hs : view s = t.pTable) (op : Op) (hop : ∀ f now, op ≠ .updateEntry f now) :
    Acts (fun _ => False) s (t.step op).pTable := by
  cases op with
  | updateEntry pFrame now => exact absurd rfl (hop pFrame now)
  | performAging clock => exact agingLoop_acts _ _ clock hs
  | setStableState =>
    show Acts _ s (if t.bStable ∧ t.eClearTable = .clear then [] else t.pTable)
    split
    · exact .one .clear (fun _ hf => nomatch hf) rfl rfl
    · exact hs ▸ .refl s
  | setSraThreshold => exact hs ▸ .refl s

/-- A call: an update with the frame of a site, or another one. -/
inductive Call
  | frame (pFrame : SiteFrame) (now : UInt32)
  | other (op : Op) (hop : ∀ f now, op ≠ .updateEntry f now)

def call (t : TScanResultTable) : Call → TScanResultTable
  | .frame pFrame now => t.step (.updateEntry pFrame.toTScanFrameInfo now)
  | .other op _ => t.step op

theorem calls_acts (calls : List Call) (hs : view s = t.pTable)
    (hF : ∀ pFrame now, .frame pFrame now ∈ calls → F pFrame) :
    Acts F s (calls.foldl call t).pTable := by
  induction calls generalizing s t with
  | nil => exact hs ▸ .refl s
  | cons c calls ih =>
    have hrest (s' : List Tracked) (hs' : view s' = (t.call c).pTable) :
        Acts F s' (calls.foldl call (t.call c)).pTable :=
      ih hs' fun pFrame now hmem => hF pFrame now (List.mem_cons_of_mem _ hmem)
    cases c with
    | frame pFrame now =>
      refine (updateEntry_acts hs pFrame now).trans (fun f hf => ?_) hrest
      exact hf ▸ hF pFrame now List.mem_cons_self
    | other op hop => exact (call_acts hs op hop).trans (fun _ hf => hf.elim) hrest

/-- **The calls of the module are a run of the entries**: after any calls, from the empty table, the
entries are those of a run that takes frames of the calls only. -/
theorem calls_refine (uEntriesNumber : ℕ) (eClearTable : EScanResultTableClear)
    (calls : List Call) :
    Acts (fun pFrame => ∃ now, .frame pFrame now ∈ calls) []
      (calls.foldl call (init uEntriesNumber eClearTable)).pTable :=
  calls_acts calls rfl fun _ now hmem => ⟨now, hmem⟩

end TScanResultTable

/-! ## What a list is to be -/

/-- A record in a list of a given size: its elements are inside, counted by `IELength`, and its RSN
elements are those of the last frame. -/
structure RecordRight (size : ℕ) (t : Tracked) (off : ℕ) (r : BssidEx) : Prop where
  header : off + iesOffset ≤ size
  inside : ∀ w ∈ r.ies, off + iesOffset + w.1 + w.2.length ≤ size
  ieLength : r.ieLength = (r.ies.map fun w => w.2.length).sum
  rsnIes : r.rsnIes = t.last

/-- **The list and its size agree**, and it shows the RSN elements of the last frames. -/
def ListRight (bAllVarIes : Bool) (s : List Tracked) : Prop :=
  let sites := s.map Tracked.site
  let size := calculateBssidListSize bAllVarIes sites
  ∀ reserved pLength, size ≤ pLength →
    let l := getBssidList reserved pLength bAllVarIes sites
    l.1 = .ok ∧ l.2.1 ≤ size ∧ List.Forall₂ (fun t r => RecordRight size t r.1 r.2) s l.2.2

/-- **A frame fits the entry that it updates.** -/
def Fits (bAllVarIes : Bool) (e : SiteEntry) (pFrame : SiteFrame) : Prop :=
  let ies := pFrame.body.rsnIes
  if bAllVarIes then
    -- the body that is listed then: of the last probe response, if there was one
    let body :=
      if pFrame.subType = .probeResponse then
        (SiteEntry.updateFrameBuffer e.probeRespBuffer pFrame.body).val
      else if e.probeRecv then e.probeRespBuffer
      else if pFrame.subType = .beacon then
        (SiteEntry.updateFrameBuffer e.beaconBuffer pFrame.body).val
      else e.beaconBuffer
    body.rsnIes = ies
  else
    ies = [] ∨ rsnSize ies < 2 ^ 8 ∧ ies.length ≤ maxRsnIe ∧ (∀ ie ∈ ies, ie.data ≠ []) ∧
      ∀ ie, e.pRsnIe[ies.length]? = some ie → ie.data = []

def StepFits (bAllVarIes : Bool) (s : List Tracked) : EntryOp → Prop
  | .update uIndex _ pFrame _ => ∀ t, s[uIndex]? = some t → Fits bAllVarIes t.site pFrame
  | .add _ pFrame _ => Fits bAllVarIes .zero pFrame
  | .replace _ _ pFrame _ => Fits bAllVarIes .zero pFrame
  | .remove _ => True
  | .clear => True

/-- What a list shows of a site is right. -/
def Tracked.Right (bAllVarIes : Bool) (t : Tracked) : Prop :=
  if bAllVarIes then t.site.listedBody.rsnIes = t.last
  else t.site.listedRsnIes = t.last ∧ rsnSize t.site.listedRsnIes = t.site.rsnIeLen

/-! ## The slots of an entry -/

theorem Dot11Rsn.size_pos (ie : Dot11Rsn) : 0 < ie.size := Nat.succ_pos _

theorem rsnSize_cons (ie : Dot11Rsn) (ies : List Dot11Rsn) :
    rsnSize (ie :: ies) = ie.size + rsnSize ies := List.sum_cons

theorem rsnSize_pos {ies : List Dot11Rsn} (h : ies ≠ []) : 0 < rsnSize ies := by
  cases ies with
  | nil => exact absurd rfl h
  | cons ie ies =>
    exact Nat.add_pos_left ie.size_pos _

theorem updateRsnIe_eq {n length : ℕ} {ies slots : List Dot11Rsn} (hn : n = length + rsnSize ies)
    (hlt : n < 2 ^ 8) (hle : ies.length ≤ slots.length) :
    updateRsnIe n length ies slots = ies ++ slots.drop ies.length := by
  induction ies generalizing length slots with
  | nil => cases slots <;> rfl
  | cons ie ies ih =>
    cases slots with
    | nil => cases hle
    | cons slot slots =>
      have hpos := ie.size_pos
      rw [rsnSize_cons] at hn
      rw [updateRsnIe, if_pos (by omega), Nat.mod_eq_of_lt (by omega),
        ih (by omega) (Nat.le_of_succ_le_succ hle)]
      rfl

/-- The elements before the first empty slot are given ones exactly if these are not empty and the
slot behind them is. -/
theorem takeWhile_append_eq_iff (ies rest : List Dot11Rsn) :
    (ies ++ rest).takeWhile (fun ie => ie.data ≠ []) = ies ↔
      (∀ ie ∈ ies, ie.data ≠ []) ∧ ∀ ie, rest.head? = some ie → ie.data = [] := by
  constructor
  · intro h
    have hfull : ∀ ie ∈ ies, ie.data ≠ [] := by
      intro ie hie
      rw [← h] at hie
      have hall := List.all_eq_true.mp (List.all_takeWhile ..) ie hie
      exact of_decide_eq_true hall
    refine ⟨hfull, fun ie hie => ?_⟩
    rw [List.takeWhile_append_of_pos fun ie hie => decide_eq_true (hfull ie hie)] at h
    have hnil := List.append_right_eq_self.mp h
    cases rest with
    | nil => cases hie
    | cons slot rest =>
      cases hie
      by_contra hne
      rw [List.takeWhile_cons, if_pos (decide_eq_true hne)] at hnil
      cases hnil
  · rintro ⟨hfull, hrest⟩
    rw [List.takeWhile_append_of_pos fun ie hie => decide_eq_true (hfull ie hie)]
    refine List.append_right_eq_self.mpr ?_
    cases rest with
    | nil => rfl
    | cons slot rest =>
      exact List.takeWhile_cons_of_neg fun h => of_decide_eq_true h (hrest slot rfl)

namespace SiteEntry

variable (e : SiteEntry) (ssid : TSsid) (pFrame : SiteFrame) (now : UInt32)

theorem listedRsnIes_iff :
    ((e.update ssid pFrame now).listedRsnIes = pFrame.body.rsnIes ∧
      rsnSize (e.update ssid pFrame now).listedRsnIes = (e.update ssid pFrame now).rsnIeLen) ↔
      Fits false e pFrame := by
  unfold Fits
  generalize hies : pFrame.body.rsnIes = ies
  have hlen : (e.update ssid pFrame now).rsnIeLen = if ies = [] then 0 else rsnSize ies % 2 ^ 8 := by
    rw [← hies]
    rfl
  have hslots : (e.update ssid pFrame now).pRsnIe =
      updateRsnIe (e.update ssid pFrame now).rsnIeLen 0 ies e.pRsnIe := by
    rw [← hies]
    rfl
  have hthree := (e.update ssid pFrame now).pRsnIe_length
  generalize e.update ssid pFrame now = e' at hlen hslots hthree
  simp only [Bool.false_eq_true, if_false]
  by_cases hnil : ies = []
  · rw [if_pos hnil] at hlen
    refine iff_of_true ?_ (Or.inl hnil)
    unfold listedRsnIes
    rw [hlen, if_neg (Nat.lt_irrefl 0), hnil]
    exact ⟨rfl, rfl⟩
  · rw [if_neg hnil] at hlen
    rw [or_iff_right hnil]
    have hpos := rsnSize_pos hnil
    constructor
    · rintro ⟨hlisted, hsize⟩
      rw [hlisted] at hsize
      have hlt : rsnSize ies < 2 ^ 8 := by omega
      have hwalk : e'.pRsnIe.takeWhile (fun ie => ie.data ≠ []) = ies := by
        unfold listedRsnIes at hlisted
        rwa [if_pos (by omega)] at hlisted
      have hle : ies.length ≤ maxRsnIe := by
        rw [← hwalk, ← hthree]
        exact (List.takeWhile_prefix _).length_le
      rw [hslots, updateRsnIe_eq (by omega) (by omega) (e.pRsnIe_length ▸ hle),
        takeWhile_append_eq_iff, List.head?_drop] at hwalk
      exact ⟨hlt, hle, hwalk⟩
    · rintro ⟨hlt, hle, hwalk⟩
      have hn : e'.rsnIeLen = rsnSize ies := hlen.trans (Nat.mod_eq_of_lt hlt)
      rw [← List.head?_drop, ← takeWhile_append_eq_iff,
        ← updateRsnIe_eq (hn.trans (Nat.zero_add _).symm) (by omega) (e.pRsnIe_length ▸ hle),
        ← hslots] at hwalk
      have hlisted : e'.listedRsnIes = ies := by
        unfold listedRsnIes
        rwa [if_pos (by omega)]
      rw [hlisted]
      exact ⟨rfl, hn.symm⟩

theorem listedBody_iff :
    (e.update ssid pFrame now).listedBody.rsnIes = pFrame.body.rsnIes ↔ Fits true e pFrame := by
  unfold Fits
  refine Eq.congr_left (congrArg Body.rsnIes ?_)
  show (if (decide (pFrame.subType = .probeResponse) || e.probeRecv) = true then
    ((if pFrame.subType = .probeResponse then updateFrameBuffer e.probeRespBuffer pFrame.body
      else e.probeRespBuffer) : StoredBody).val
    else ((if pFrame.subType = .beacon then updateFrameBuffer e.beaconBuffer pFrame.body
      else e.beaconBuffer) : StoredBody).val) = _
  by_cases hprobe : pFrame.subType = .probeResponse
  · simp [hprobe]
  · simp only [hprobe, decide_false, Bool.false_or, if_false]
    split
    · rfl
    · split <;> rfl

end SiteEntry

theorem Tracked.update_right_iff (bAllVarIes : Bool) (t : Tracked) (ssid : TSsid)
    (pFrame : SiteFrame) (now : UInt32) :
    (t.update ssid pFrame now).Right bAllVarIes ↔ Fits bAllVarIes t.site pFrame := by
  cases bAllVarIes with
  | false => exact t.site.listedRsnIes_iff ssid pFrame now
  | true => exact t.site.listedBody_iff ssid pFrame now

/-! ## Records -/

namespace BssidEx

/-- The number of bytes of elements written. -/
def written (r : BssidEx) : ℕ := (r.ies.map fun w => w.2.length).sum

/-- All elements lie in the part that is counted. -/
def Inside (r : BssidEx) : Prop := ∀ w ∈ r.ies, w.1 + w.2.length ≤ r.ieLength

/-- A part of the writer: it counts `counted` bytes and writes `put` bytes. -/
structure Adds (counted put : ℕ) (r r' : BssidEx) : Prop where
  ieLength : r'.ieLength = r.ieLength + counted
  written : r'.written = r.written + put

theorem Adds.trans {m n k l : ℕ} {r r' r'' : BssidEx} (h : Adds m n r r') (h' : Adds k l r' r'') :
    Adds (m + k) (n + l) r r'' where
  ieLength := by rw [h'.ieLength, h.ieLength, Nat.add_assoc]
  written := by rw [h'.written, h.written, Nat.add_assoc]

theorem adds_zero (r : BssidEx) : Adds 0 0 r r := ⟨rfl, rfl⟩

variable {r : BssidEx} {e : SiteEntry}

theorem put_adds (r : BssidEx) (bytes : List UInt8) :
    Adds bytes.length bytes.length r (r.put bytes) where
  ieLength := rfl
  written := by simp [put, BssidEx.written]

theorem put_inside (h : r.Inside) (bytes : List UInt8) : (r.put bytes).Inside := by
  refine List.forall_mem_append.mpr ⟨fun w hw => ?_, ?_⟩
  · exact Nat.le_trans (h w hw) (Nat.le_add_right ..)
  · exact List.forall_mem_singleton.mpr (Nat.le_refl _)

theorem rsnWrites_spec (off : ℕ) (ies : List Dot11Rsn) :
    ((rsnWrites off ies).map fun w => w.2.length).sum = rsnSize ies ∧
      ∀ w ∈ rsnWrites off ies, w.1 + w.2.length ≤ off + rsnSize ies := by
  induction ies generalizing off with
  | nil => exact ⟨rfl, fun _ hw => nomatch hw⟩
  | cons ie ies ih =>
    obtain ⟨hsum, hin⟩ := ih (off + ie.size)
    rw [rsnSize_cons]
    constructor
    · rw [rsnWrites, List.map_cons, List.sum_cons, hsum]
      rfl
    · refine List.forall_mem_cons.mpr ⟨?_, fun w hw => ?_⟩
      · show off + ie.size ≤ _
        omega
      · have hle := hin w hw
        omega

theorem listedRsnIes_of_zero (h : ¬ 0 < e.rsnIeLen) : e.listedRsnIes = [] := if_neg h

theorem putRsn_adds (r : BssidEx) (e : SiteEntry) :
    Adds e.rsnIeLen (rsnSize e.listedRsnIes) r (r.putRsn e) := by
  unfold putRsn
  split
  · refine ⟨rfl, ?_⟩
    unfold putRsnIes BssidEx.written
    rw [List.map_append, List.sum_append, (rsnWrites_spec r.ieLength _).1]
  next h =>
    rw [listedRsnIes_of_zero h, Nat.eq_zero_of_not_pos h]
    exact adds_zero r

theorem putRsn_inside (h : r.Inside) (hsize : rsnSize e.listedRsnIes = e.rsnIeLen) :
    (r.putRsn e).Inside := by
  unfold putRsn
  split
  · rw [← hsize]
    refine List.forall_mem_append.mpr ⟨fun w hw => ?_, (rsnWrites_spec r.ieLength _).2⟩
    exact Nat.le_trans (h w hw) (Nat.le_add_right ..)
  · exact h

theorem putWme_adds (r : BssidEx) (e : SiteEntry) (reserved : UInt8) :
    Adds (if e.wmeSupported then 26 else 0) (if e.wmeSupported then 26 else 0) r
      (r.putWme e reserved) := by
  unfold putWme
  split
  · exact put_adds r (e.wmeIe reserved)
  · exact adds_zero r

theorem putUnknown_adds (r : BssidEx) (e : SiteEntry) :
    Adds e.pUnknownIe.length e.pUnknownIe.length r (r.putUnknown e) := by
  unfold putUnknown
  split
  · exact put_adds ..
  next h =>
    rw [Nat.eq_zero_of_not_pos h]
    exact adds_zero r

/-- The length of the SSID, rates and channel elements. -/
def headLength (e : SiteEntry) : ℕ := e.ssid.str.length + 2 + (e.rates.length + 2) + 3

theorem putSsidRatesDs_adds (r : BssidEx) (e : SiteEntry) :
    Adds (headLength e) (headLength e) r (r.putSsidRatesDs e) :=
  ((put_adds r (0 :: UInt8.ofNat e.ssid.str.length :: e.ssid.str)).trans
    (put_adds _ (1 :: UInt8.ofNat e.rates.length :: e.rates))).trans (put_adds _ [3, 1, e.channel])

/-- What a record counts for its variable elements, with `rsnLen` for the RSN elements. -/
def varLength (bAllVarIes : Bool) (e : SiteEntry) (rsnLen : ℕ) : ℕ :=
  if bAllVarIes then e.listedBody.bytes.length
  else headLength e + rsnLen + (if e.wmeSupported then 26 else 0) + e.pUnknownIe.length

theorem ofSite_adds (reserved : UInt8) (bAllVarIes : Bool) (e : SiteEntry) :
    (ofSite reserved bAllVarIes e).ieLength = fixedIesSize + varLength bAllVarIes e e.rsnIeLen ∧
      (ofSite reserved bAllVarIes e).written =
        fixedIesSize + varLength bAllVarIes e (rsnSize e.listedRsnIes) := by
  have hfixed := put_adds e.bssidEx e.fixedIes
  cases bAllVarIes with
  | true =>
    have hadds := hfixed.trans (put_adds _ e.listedBody.bytes)
    exact ⟨hadds.ieLength.trans (Nat.zero_add _), hadds.written.trans (Nat.zero_add _)⟩
  | false =>
    have hadds := hfixed.trans ((((putSsidRatesDs_adds _ e).trans (putRsn_adds _ e)).trans
      (putWme_adds _ e reserved)).trans (putUnknown_adds _ e))
    exact ⟨hadds.ieLength.trans (Nat.zero_add _), hadds.written.trans (Nat.zero_add _)⟩

theorem ofSite_inside (reserved : UInt8) {bAllVarIes : Bool}
    (h : bAllVarIes = false → rsnSize e.listedRsnIes = e.rsnIeLen) :
    (ofSite reserved bAllVarIes e).Inside := by
  have hempty : e.bssidEx.Inside := List.forall_mem_nil _
  have hfixed : (e.bssidEx.put e.fixedIes).Inside := put_inside hempty _
  cases bAllVarIes with
  | true => exact put_inside hfixed e.listedBody.bytes
  | false =>
    have hhead : ((e.bssidEx.put e.fixedIes).putSsidRatesDs e).Inside :=
      put_inside (put_inside (put_inside hfixed _) _) _
    have hwme : ((((e.bssidEx.put e.fixedIes).putSsidRatesDs e).putRsn e).putWme e reserved).Inside
        := by
      unfold putWme
      split
      · exact put_inside (putRsn_inside hhead (h rfl)) _
      · exact putRsn_inside hhead (h rfl)
    show (putUnknown _ e).Inside
    unfold putUnknown
    split
    · exact put_inside hwme _
    · exact hwme

theorem ofSite_rsnIes (reserved : UInt8) (bAllVarIes : Bool) (e : SiteEntry) :
    (ofSite reserved bAllVarIes e).rsnIes =
      if bAllVarIes then e.listedBody.rsnIes else e.listedRsnIes := by
  cases bAllVarIes with
  | true => rfl
  | false =>
    show (putUnknown (putWme (putRsn _ e) e reserved) e).rsnIes = e.listedRsnIes
    have hrsn : ∀ r : BssidEx, r.rsnIes = [] → (r.putRsn e).rsnIes = e.listedRsnIes := by
      intro r hr
      unfold putRsn
      split
      · rfl
      next h => rw [hr, listedRsnIes_of_zero h]
    rw [← hrsn ((e.bssidEx.put e.fixedIes).putSsidRatesDs e) rfl]
    unfold putUnknown putWme
    split <;> split <;> rfl

end BssidEx

/-! ## The sizes -/

theorem netRates_length_le (a b : UInt32) (rates : List (UInt32 × UInt8)) :
    (netRates a b rates).length ≤ rates.length := List.length_filterMap_le ..

theorem SiteEntry.rates_length_le (e : SiteEntry) : e.rates.length ≤ dot11MaxSupportedRates := by
  have h₁ := netRates_length_le e.supportedRateMask e.basicRateMask cckRates
  have h₂ := netRates_length_le e.supportedRateMask e.basicRateMask ofdmRates
  unfold SiteEntry.rates rateDrvBitmapToNetStr
  simp only [List.length_append]
  have h₃ : cckRates.length + ofdmRates.length ≤ dot11MaxSupportedRates := by decide
  omega

theorem align4_mono {m n : ℕ} (h : m ≤ n) : align4 m ≤ align4 n := by
  unfold align4
  split <;> split <;> omega

theorem le_align4 (n : ℕ) : n ≤ align4 n := by
  unfold align4
  split <;> omega

theorem ofSite_length_le (reserved : UInt8) (bAllVarIes : Bool) (e : SiteEntry) :
    (BssidEx.ofSite reserved bAllVarIes e).length ≤ e.siteLength bAllVarIes := by
  have hlen : (BssidEx.ofSite reserved bAllVarIes e).length =
      align4 (bssidExSize + (BssidEx.ofSite reserved bAllVarIes e).ieLength - 1) := rfl
  rw [hlen, (BssidEx.ofSite_adds reserved bAllVarIes e).1]
  refine align4_mono ?_
  have hrates := e.rates_length_le
  unfold BssidEx.varLength BssidEx.headLength
  unfold bssidExSize fixedIesSize dot11MaxSupportedRates dot11DsParamsEleLen dot11WmeParamEleLen at *
  split
  · omega
  · split <;> omega

theorem ieLength_le_length (reserved : UInt8) (bAllVarIes : Bool) (e : SiteEntry) :
    iesOffset + (BssidEx.ofSite reserved bAllVarIes e).ieLength ≤
      (BssidEx.ofSite reserved bAllVarIes e).length := by
  have hle := le_align4 (bssidExSize + (BssidEx.ofSite reserved bAllVarIes e).ieLength - 1)
  have hlen : (BssidEx.ofSite reserved bAllVarIes e).length =
      align4 (bssidExSize + (BssidEx.ofSite reserved bAllVarIes e).ieLength - 1) := rfl
  unfold bssidExSize at hle hlen
  unfold iesOffset
  omega

/-- **A record is right exactly if what it shows of its site is.** -/
theorem recordRight_iff {size off : ℕ} {bAllVarIes : Bool} (reserved : UInt8) (t : Tracked)
    (hoff : off + (BssidEx.ofSite reserved bAllVarIes t.site).length ≤ size) :
    RecordRight size t off (BssidEx.ofSite reserved bAllVarIes t.site) ↔ t.Right bAllVarIes := by
  have hle := ieLength_le_length reserved bAllVarIes t.site
  have hrsn := BssidEx.ofSite_rsnIes reserved bAllVarIes t.site
  have hinside (h : bAllVarIes = false → _) := BssidEx.ofSite_inside (e := t.site) reserved h
  obtain ⟨hcounted, hwritten⟩ := BssidEx.ofSite_adds reserved bAllVarIes t.site
  generalize BssidEx.ofSite reserved bAllVarIes t.site = r at *
  have hright : t.Right bAllVarIes ↔ r.rsnIes = t.last ∧ r.ieLength = r.written := by
    rw [hrsn, hcounted, hwritten]
    unfold Tracked.Right BssidEx.varLength
    cases bAllVarIes with
    | true => simp
    | false =>
      simp only [Bool.false_eq_true, if_false]
      exact and_congr_right fun _ => ⟨fun h => by rw [h], fun h => by omega⟩
  rw [hright]
  constructor
  · exact fun h => ⟨h.rsnIes, h.ieLength⟩
  · rintro ⟨hlast, hlen⟩
    refine ⟨by omega, fun w hw => ?_, hlen, hlast⟩
    have hsize : bAllVarIes = false → rsnSize t.site.listedRsnIes = t.site.rsnIeLen := by
      rintro rfl
      exact ((hright.mpr ⟨hlast, hlen⟩ : _ ∧ _)).2
    have hend := hinside hsize w hw
    omega

theorem bssidLoop_spec (reserved : ℕ → UInt8) (bAllVarIes : Bool) (s : List Tracked) (off : ℕ) :
    (bssidLoop reserved bAllVarIes off (s.map Tracked.site)).2 ≤
        off + ((s.map Tracked.site).map fun e => e.siteLength bAllVarIes).sum ∧
      List.Forall₂ (fun t r => r.2 = BssidEx.ofSite (reserved r.1) bAllVarIes t.site ∧
        r.1 + r.2.length ≤ off + ((s.map Tracked.site).map fun e => e.siteLength bAllVarIes).sum) s
        (bssidLoop reserved bAllVarIes off (s.map Tracked.site)).1 := by
  induction s generalizing off with
  | nil => exact ⟨Nat.le_refl _, .nil⟩
  | cons t s ih =>
    have hlen := ofSite_length_le (reserved off) bAllVarIes t.site
    obtain ⟨hend, hrecords⟩ :=
      ih (off + (BssidEx.ofSite (reserved off) bAllVarIes t.site).length)
    simp only [List.map_cons, List.sum_cons, bssidLoop] at hend hrecords ⊢
    refine ⟨by omega, .cons ⟨rfl, ?_⟩ (hrecords.imp fun a r h => ⟨h.1, ?_⟩)⟩
    · show off + (BssidEx.ofSite (reserved off) bAllVarIes t.site).length ≤ _
      omega
    · have hle := h.2
      omega

theorem forall₂_iff_forall {α β : Type*} {P Q : α → β → Prop} {R : α → Prop} {l : List α} {m : List β}
    (h : List.Forall₂ P l m) (hiff : ∀ a b, P a b → (Q a b ↔ R a)) :
    List.Forall₂ Q l m ↔ ∀ a ∈ l, R a := by
  induction h with
  | nil => exact iff_of_true .nil (List.forall_mem_nil _)
  | cons hab _ ih => rw [List.forall₂_cons, ih, hiff _ _ hab, List.forall_mem_cons]

/-- **The list is right exactly if what it shows of each site is.** -/
theorem listRight_iff (bAllVarIes : Bool) (s : List Tracked) :
    ListRight bAllVarIes s ↔ ∀ t ∈ s, t.Right bAllVarIes := by
  have hrecords (reserved : ℕ → UInt8) := forall₂_iff_forall
    (Q := fun t r => RecordRight (calculateBssidListSize bAllVarIes (s.map Tracked.site)) t r.1 r.2)
    (R := Tracked.Right bAllVarIes) (bssidLoop_spec reserved bAllVarIes s listHeaderSize).2
    (by
      rintro t ⟨off, r⟩ ⟨hr, hoff⟩
      rw [hr] at hoff ⊢
      exact recordRight_iff (reserved off) t hoff)
  unfold ListRight
  simp only
  constructor
  · intro h
    obtain ⟨-, -, hall⟩ := h (fun _ => 0) _ (Nat.le_refl _)
    rw [getBssidList, if_neg (Nat.lt_irrefl _)] at hall
    exact (hrecords _).mp hall
  · intro h reserved pLength hle
    rw [getBssidList, if_neg (Nat.not_lt.mpr hle)]
    exact ⟨rfl, (bssidLoop_spec reserved bAllVarIes s listHeaderSize).1, (hrecords _).mpr h⟩

/-! ## The entries -/

/-- **What a step keeps**: the list stays right exactly if the frame of the step fits. -/
theorem entryStep_right_iff {bAllVarIes : Bool} {s s' : List Tracked} {op : EntryOp}
    (hs : ∀ t ∈ s, t.Right bAllVarIes) (h : entryStep s op = some s') :
    (∀ t ∈ s', t.Right bAllVarIes) ↔ StepFits bAllVarIes s op := by
  have hset : ∀ (i : ℕ) (t₀ t : Tracked), s[i]? = some t₀ →
      ((∀ u ∈ s.set i t, u.Right bAllVarIes) ↔ t.Right bAllVarIes) := by
    intro i t₀ t hi
    have hlt := (List.getElem?_eq_some_iff.mp hi).1
    constructor
    · exact fun h => h t (List.mem_set hlt t)
    · intro ht u hu
      rcases List.mem_or_eq_of_mem_set hu with hu | rfl
      · exact hs u hu
      · exact ht
  cases op with
  | update i ssid pFrame now =>
    obtain ⟨t, ht, rfl⟩ := Option.map_eq_some_iff.mp h
    rw [hset i t _ ht, Tracked.update_right_iff]
    constructor
    · intro hfits u hu
      cases ht.symm.trans hu
      exact hfits
    · exact fun hfits => hfits t ht
  | add ssid pFrame now =>
    cases h
    rw [List.forall_mem_append, and_iff_right hs, List.forall_mem_singleton]
    exact Tracked.update_right_iff ..
  | replace i ssid pFrame now =>
    obtain ⟨t, ht, rfl⟩ := Option.map_eq_some_iff.mp h
    rw [hset i t _ ht]
    exact Tracked.update_right_iff ..
  | remove i =>
    obtain ⟨last, hlast, h⟩ := Option.bind_eq_some_iff.mp h
    obtain ⟨-, ⟨⟩⟩ := Option.ite_none_right_eq_some.mp h
    refine iff_of_true (fun u hu => ?_) trivial
    rcases List.mem_or_eq_of_mem_set (List.mem_of_mem_dropLast hu) with hu | rfl
    · exact hs u hu
    · exact hs _ (List.mem_of_getLast? hlast)
  | clear =>
    cases h
    exact iff_of_true (List.forall_mem_nil _) trivial

/-- **In every state of a run the list and its size agree and no stale RSN element is shown, exactly
if every frame fits.** -/
theorem bssid_list_right_iff (bAllVarIes : Bool) (ops : List EntryOp) (s : List Tracked)
    (he : exec entryStep [] ops = some s) :
    (∀ js t, js <+: ops → exec entryStep [] js = some t → ListRight bAllVarIes t) ↔
      Along entryStep (StepFits bAllVarIes) [] ops := by
  simp only [listRight_iff]
  exact along_iff_prefixes (J := fun _ => True) (fun _ _ _ _ _ => trivial)
    (fun s i s' _ hs h => entryStep_right_iff hs h) trivial (List.forall_mem_nil _) he

/-- A beacon with the RSN elements `ies`. -/
def rsnBeacon (ies : List Dot11Rsn) : SiteFrame where
  bssId := fun _ => 0
  pSsid := some [65]
  subType := .beacon
  rssi := 0
  channel := 1
  capabilities := 1
  beaconInerval := 100
  pDSParamsSet := none
  pTIM := none
  body := ⟨[0, 1, 65] ++ ies.flatMap Dot11Rsn.bytes, ies⟩
  eBand := .band24Ghz
  pUnknownIe := []
  wmeParams := none
  rateMask := none
  pIBSSParamsSet := none
  timestamp := fun _ => 0

/-- An RSN element of version 1, and a WPA element. -/
def rsnIe : Dot11Rsn := ⟨48, [1, 0], by decide⟩

def wpaIe : Dot11Rsn := ⟨221, [0x00, 0x50, 0xf2, 1, 1, 0], by decide⟩

def ssidA : TSsid := ⟨[65], by decide⟩

/-- One RSN element, then two. -/
theorem bssid_list_right_growing : ∃ s, exec entryStep []
    [.add ssidA (rsnBeacon [rsnIe]) 0, .update 0 ssidA (rsnBeacon [wpaIe, rsnIe]) 1] = some s ∧
    ∀ js t, js <+: [.add ssidA (rsnBeacon [rsnIe]) 0, .update 0 ssidA (rsnBeacon [wpaIe, rsnIe]) 1] →
      exec entryStep [] js = some t → ListRight false t := by
  refine ⟨_, rfl, (bssid_list_right_iff false _ _ rfl).mpr ⟨?_, fun t ht => ⟨?_, fun _ _ => trivial⟩⟩⟩
  · refine Or.inr ⟨by decide, by decide, by decide, fun ie hie => ?_⟩
    cases hie
    rfl
  · cases ht
    intro u hu
    cases hu
    refine Or.inr ⟨by decide, by decide, by decide, fun ie hie => ?_⟩
    cases hie
    rfl

/-- **Two RSN elements, then one: the list still shows the second one.** -/
theorem stale_rsn_listed : ∃ s, exec entryStep []
    [.add ssidA (rsnBeacon [wpaIe, rsnIe]) 0, .update 0 ssidA (rsnBeacon [rsnIe]) 1] = some s ∧
    ¬ ListRight false s := by
  refine ⟨_, rfl, fun h => ?_⟩
  have hright := (listRight_iff false _).mp h _ List.mem_cons_self
  exact absurd hright.1 (by decide)

end ArchosGpl.Wlan.ScanResultTable
