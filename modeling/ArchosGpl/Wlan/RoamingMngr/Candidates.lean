import Mathlib.Data.List.Nodup
import ArchosGpl.Wlan.RoamingMngr.Process

/-!
# The candidates of a roaming process

The candidates are indices into a list that goes on changing while handovers are tried. `InPlan`
says what the log should show: a selection selects what passes its filters, the candidates of a
trigger are requested in the order of its selection, each once, and the AP of the last request is
reported after a success.

* `selectedOf_picks`: **the selection is right**, whatever the list holds.
* `candidates_in_plan`: **the requests and the report follow the selection** in every run in which
  no other AP comes to the index of a candidate that is left, or of the AP that was asked for, while
  a request is under way (`StaysInPlace`).
-/

namespace ArchosGpl.Wlan.RoamingMngr

open Lib
open Wlan.ScanMngr (BssEntry BssList ScanMngrResultStatus)

variable {B : Type*}

/-! ## What a process may ask for -/

/-- What a selection selects passes its filters, no AP twice, each in its class. -/
structure Selected.Picks (sel : Selected B) : Prop where
  quality : ∀ e ∈ sel.all, sel.roamingTrigger.rank ≤ lowQualityGroup →
    sel.apQualityThreshold ≤ e.rssi
  allowed : ∀ e ∈ sel.all, sel.isSiteBanned e.BSSID = false
  distinct : (sel.all.map BssEntry.BSSID).Nodup
  neighbor : ∀ e ∈ sel.neighbor, e.bNeighborAP = true
  preAuth : ∀ e ∈ sel.preAuth, e.bNeighborAP = false ∧ sel.getPreAuthAPStatus e.BSSID = true
  regular : ∀ e ∈ sel.regular, e.bNeighborAP = false ∧ sel.getPreAuthAPStatus e.BSSID = false

def Entry.selection : Entry B → Option (Selected B)
  | .selected sel => some sel
  | _ => none

def Entry.requestedBSSID : Entry B → Option B
  | .connectToAP _ BSSID => some BSSID
  | _ => none

/-- A connect request to a candidate, not to the current AP. -/
def Entry.triedBSSID : Entry B → Option B
  | .connectToAP .fastToAp BSSID => some BSSID
  | .connectToAP .fullToAp BSSID => some BSSID
  | _ => none

/-- The selections since the last accepted trigger. -/
def selections (log : List (Entry B)) : List (Selected B) :=
  (since Entry.isAccepted log).filterMap Entry.selection

/-- The candidates that were tried since then. -/
def tried (log : List (Entry B)) : List B :=
  (since Entry.isAccepted log).filterMap Entry.triedBSSID

/-- `b` is the next candidate of the one selection since the last accepted trigger. -/
def IsNext (p : List (Entry B)) (b : B) : Prop :=
  ∃ sel rest, selections p = [sel] ∧ sel.all.map BssEntry.BSSID = tried p ++ b :: rest

/-- What an entry says is right: a selection selects what passes, the candidates are tried in its
order, and the AP of the last request is reported. -/
def InPlan (p : List (Entry B)) : Entry B → Prop
  | .selected sel => sel.Picks
  | .connectToAP .fastToAp BSSID => IsNext p BSSID
  | .connectToAP .fullToAp BSSID => IsNext p BSSID
  | .handoverDone BSSID => (p.filterMap Entry.requestedBSSID).getLast? = some BSSID
  | _ => True

section Log

variable {log : List (Entry B)} {e : Entry B}

@[simp] theorem selections_accepted : selections (log ++ [.accepted]) = [] := by
  rw [selections, since_snoc_of_mark rfl]
  rfl

@[simp] theorem tried_accepted : tried (log ++ [.accepted]) = [] := by
  rw [tried, since_snoc_of_mark rfl]
  rfl

theorem selections_snoc (he : e.isAccepted = false) :
    selections (log ++ [e]) = selections log ++ e.selection.toList := by
  rw [selections, since_snoc_of_other he, List.filterMap_append]
  cases e <;> rfl

theorem tried_snoc (he : e.isAccepted = false) :
    tried (log ++ [e]) = tried log ++ e.triedBSSID.toList := by
  rw [tried, since_snoc_of_other he, List.filterMap_append]
  cases e with
  | connectToAP requestType BSSID => cases requestType <;> rfl
  | _ => rfl

theorem getLast?_requested (requestType : ConnRequest) (b : B) :
    ((log ++ [Entry.connectToAP requestType b]).filterMap Entry.requestedBSSID).getLast? = some b := by
  rw [List.filterMap_append]
  exact List.getLast?_concat ..

end Log

namespace Sys

variable {s t : Sys B} {a : Answers B}

/-! ## The selection -/

/-- The lists of a selection after `n` entries. -/
structure Picked (s : Sys B) (a : Answers B) (n : ℕ) (l : ListOfCandidateAps) : Prop where
  passed : ∀ i ∈ l.all, i < n ∧ s.passes a.isSiteBanned (s.bssList.entry i) = true
  nodup : l.all.Nodup
  neighbor : ∀ i ∈ l.neighborBSSList, (s.bssList.entry i).bNeighborAP = true
  preAuth : ∀ i ∈ l.preAuthBSSList, (s.bssList.entry i).bNeighborAP = false ∧
    a.getPreAuthAPStatus (s.bssList.entry i).BSSID = true
  regular : ∀ i ∈ l.regularBSSList, (s.bssList.entry i).bNeighborAP = false ∧
    a.getPreAuthAPStatus (s.bssList.entry i).BSSID = false

theorem Picked.all_insert {n : ℕ} {l : ListOfCandidateAps} (h : s.Picked a n l)
    (l' : ListOfCandidateAps) (hperm : l'.all.Perm (n :: l.all))
    (hpass : s.passes a.isSiteBanned (s.bssList.entry n) = true) :
    (∀ i ∈ l'.all, i < n + 1 ∧ s.passes a.isSiteBanned (s.bssList.entry i) = true) ∧
      l'.all.Nodup := by
  constructor
  · intro i hi
    rcases List.mem_cons.mp (hperm.mem_iff.mp hi) with rfl | hi
    · exact ⟨Nat.lt_succ_self _, hpass⟩
    · obtain ⟨hlt, hp⟩ := h.passed i hi
      exact ⟨Nat.lt_succ_of_lt hlt, hp⟩
  · refine hperm.nodup_iff.mpr (List.nodup_cons.mpr ⟨fun hn => ?_, h.nodup⟩)
    exact Nat.lt_irrefl n (h.passed n hn).1

theorem Picked.addCandidate {n : ℕ} {l : ListOfCandidateAps} (h : s.Picked a n l) :
    s.Picked a (n + 1) (s.addCandidate a l n) := by
  unfold Sys.addCandidate
  dsimp only
  split
  case isTrue hpass =>
    split
    case isTrue hneighbor =>
      have hall := h.all_insert { l with neighborBSSList := n :: l.neighborBSSList }
        (List.Perm.refl _) hpass
      refine ⟨hall.1, hall.2, ?_, h.preAuth, h.regular⟩
      intro i hi
      rcases List.mem_cons.mp hi with rfl | hi
      · exact hneighbor
      · exact h.neighbor i hi
    case isFalse hneighbor =>
      have hfalse : (s.bssList.entry n).bNeighborAP = false := Bool.not_eq_true _ ▸ hneighbor
      split
      case isTrue hstatus =>
        have hall := h.all_insert { l with preAuthBSSList := n :: l.preAuthBSSList }
          (by
            simp only [ListOfCandidateAps.all, List.append_assoc, List.cons_append]
            exact List.perm_middle) hpass
        refine ⟨hall.1, hall.2, h.neighbor, ?_, h.regular⟩
        intro i hi
        rcases List.mem_cons.mp hi with rfl | hi
        · exact ⟨hfalse, hstatus⟩
        · exact h.preAuth i hi
      case isFalse hstatus =>
        have hall := h.all_insert { l with regularBSSList := n :: l.regularBSSList }
          (by
            exact List.perm_middle) hpass
        refine ⟨hall.1, hall.2, h.neighbor, h.preAuth, ?_⟩
        intro i hi
        rcases List.mem_cons.mp hi with rfl | hi
        · exact ⟨hfalse, Bool.not_eq_true _ ▸ hstatus⟩
        · exact h.regular i hi
  case isFalse =>
    refine ⟨fun i hi => ?_, h.nodup, h.neighbor, h.preAuth, h.regular⟩
    obtain ⟨hlt, hp⟩ := h.passed i hi
    exact ⟨Nat.lt_succ_of_lt hlt, hp⟩

theorem picked_candidates (s : Sys B) (a : Answers B) :
    s.Picked a s.bssList.numOfEntries (s.candidates a) := by
  have hnil : s.Picked a 0 ⟨[], [], []⟩ := ⟨nofun, List.nodup_nil, nofun, nofun, nofun⟩
  have hfold : ∀ n, s.Picked a n ((List.range n).foldl (s.addCandidate a) ⟨[], [], []⟩) := by
    intro n
    induction n with
    | zero => exact hnil
    | succ n ih =>
      rw [List.range_succ, List.foldl_append]
      exact ih.addCandidate
  unfold candidates
  split
  · exact hfold _
  · exact ⟨nofun, List.nodup_nil, nofun, nofun, nofun⟩

theorem selectedOf_all (s : Sys B) (a : Answers B) (l : ListOfCandidateAps) :
    (s.selectedOf a l).all = l.all.map s.bssList.entry := by
  simp [Selected.all, selectedOf, ListOfCandidateAps.all]

/-- **The selection selects what passes its filters, each AP once and in its class.** -/
theorem selectedOf_picks (s : Sys B) (a : Answers B) :
    (s.selectedOf a (s.candidates a)).Picks := by
  have hpicked := s.picked_candidates a
  have hpass : ∀ e ∈ (s.selectedOf a (s.candidates a)).all, s.passes a.isSiteBanned e = true := by
    intro e he
    rw [selectedOf_all] at he
    obtain ⟨i, hi, rfl⟩ := List.mem_map.mp he
    exact (hpicked.passed i hi).2
  refine ⟨fun e he hrank => ?_, fun e he => ?_, ?_, ?_, ?_, ?_⟩
  · have hp := hpass e he
    have hlow : s.roamingTrigger.rank ≤ lowQualityGroup := hrank
    simp only [passes, hlow, decide_true, Bool.true_and, Bool.and_eq_true, Bool.not_eq_true',
      decide_eq_false_iff_not, not_lt] at hp
    exact hp.1
  · have hp := hpass e he
    simp only [passes, Bool.and_eq_true, Bool.not_eq_true'] at hp
    exact hp.2
  · rw [selectedOf_all, List.map_map]
    refine List.Nodup.map_on (fun i hi j hj hij => ?_) hpicked.nodup
    exact s.bssList.eq_of_bssid i (hpicked.passed i hi).1 j (hpicked.passed j hj).1 hij
  · intro e he
    obtain ⟨i, hi, rfl⟩ := List.mem_map.mp he
    exact hpicked.neighbor i hi
  · intro e he
    obtain ⟨i, hi, rfl⟩ := List.mem_map.mp he
    exact hpicked.preAuth i hi
  · intro e he
    obtain ⟨i, hi, rfl⟩ := List.mem_map.mp he
    exact hpicked.regular i hi

/-! ## The invariant -/

/-- Nothing was selected or tried since the last accepted trigger. -/
def Fresh (log : List (Entry B)) : Prop := selections log = [] ∧ tried log = []

/-- The candidates that are left are, by their BSSIDs, the rest of the one selection. -/
def Planned (s : Sys B) : Prop :=
  ∃ sel, selections s.log = [sel] ∧ sel.all.map BssEntry.BSSID =
    tried s.log ++ s.listOfCandidateAps.all.map fun index => (s.bssList.entry index).BSSID

/-- The candidate index leads to the AP of the last request. -/
def Aimed (s : Sys B) : Prop :=
  match s.candidateApIndex with
  | .invalid => False
  | .current => (s.log.filterMap Entry.requestedBSSID).getLast? = some s.currentAp.BSSID
  | .listed index =>
    (s.log.filterMap Entry.requestedBSSID).getLast? = some (s.bssList.entry index).BSSID

/-- What is known in each state, by the event in the slot. -/
def Track (s : Sys B) : SmState → Option SmEvent → Prop
  | .idle, _ => s.maskRoamingEvents = true
  | .wait4Trigger, some .roamTrigger => Fresh s.log ∧ s.maskRoamingEvents = true
  | .wait4Trigger, _ => s.maskRoamingEvents = false
  | .wait4Cmd, _ => Fresh s.log ∧ s.maskRoamingEvents = true
  | .scanning, _ => Fresh s.log ∧ s.maskRoamingEvents = true
  | .selecting, some .reqHandover => s.Planned ∧ s.maskRoamingEvents = true
  | .selecting, _ => False
  | .connecting, some .failure => s.maskRoamingEvents = true
  | .connecting, _ => (s.Planned ∧ s.Aimed) ∧ s.maskRoamingEvents = true

/-- The log is as it should be, and the state fits it. -/
structure Tracks (s : Sys B) : Prop where
  track : s.Track s.smState s.pending
  inPlan : Each InPlan s.log

/-! ## Actions -/

theorem Fresh.snoc {log : List (Entry B)} {e : Entry B} (h : Fresh log) (he : e.isAccepted = false)
    (hsel : e.selection = none) (htried : e.triedBSSID = none) : Fresh (log ++ [e]) := by
  constructor
  · rw [selections_snoc he, hsel, h.1]
    rfl
  · rw [tried_snoc he, htried, h.2]
    rfl

theorem startIdle_tracks (hs : s.smState = .wait4Trigger) (hnone : s.pending = none)
    (hplan : Each InPlan s.log) : (s.smStartIdle a).Tracks := by
  refine ⟨?_, hplan⟩
  show Track _ s.smState s.pending
  rw [hs, hnone]
  exact rfl

theorem stop_tracks (hs : s.smState = .idle) (hplan : Each InPlan s.log) : s.smStop.Tracks := by
  refine ⟨?_, each_snoc.mpr ⟨hplan, trivial⟩⟩
  show Track _ s.smState s.pending
  rw [hs]
  exact rfl

theorem stopWhileScanning_tracks (hs : s.smState = .idle) (hplan : Each InPlan s.log) :
    (s.smStopWhileScanning a).Tracks := by
  unfold smStopWhileScanning stopImmediateScan
  split
  case h_1 scanCmpltStatus _ =>
    split
    · obtain ⟨scanType, event, heq, -⟩ :=
        immediateScanComplete_cases { s with scans := s.scans - 1 } scanCmpltStatus
          a.channelValidity
      rw [reportScan, heq]
      apply stop_tracks
      · exact hs
      · exact hplan
    · exact stop_tracks hs hplan
  case h_2 => exact stop_tracks hs hplan

theorem roamTrigger_tracks (hs : s.smState = .wait4Cmd) (hfresh : Fresh s.log)
    (hmask : s.maskRoamingEvents = true) (hplan : Each InPlan s.log) :
    (s.smRoamTrigger a).Tracks := by
  have hstate : (s.smRoamTrigger a).smState = s.smState ∧ (s.smRoamTrigger a).log = s.log ∧
      (s.smRoamTrigger a).maskRoamingEvents = s.maskRoamingEvents := by
    unfold smRoamTrigger
    dsimp only
    split
    · split <;> exact ⟨rfl, rfl, rfl⟩
    · exact ⟨rfl, rfl, rfl⟩
  obtain ⟨hst, hlog, hm⟩ := hstate
  refine ⟨?_, hlog ▸ hplan⟩
  rw [hst, hs]
  exact ⟨hlog ▸ hfresh, hm.trans hmask⟩

theorem invokeScan_tracks (hs : s.smState = .scanning) (hfresh : Fresh s.log)
    (hmask : s.maskRoamingEvents = true) (hplan : Each InPlan s.log) :
    (s.smInvokeScan a).Tracks := by
  unfold smInvokeScan
  split
  · refine ⟨?_, each_snoc.mpr ⟨hplan, trivial⟩⟩
    show Track _ s.smState s.pending
    rw [hs]
    exact ⟨hfresh.snoc rfl rfl rfl, hmask⟩
  · obtain ⟨scanType, event, heq, -⟩ := immediateScanComplete_cases
      (s.record (.startImmediateScan
        (s.scanType = .partialScan ∨ s.scanType = .partialScanRetry))) a.scanResult a.channelValidity
    rw [heq]
    refine ⟨?_, each_snoc.mpr ⟨hplan, trivial⟩⟩
    show Track _ s.smState (some event)
    rw [hs]
    exact ⟨hfresh.snoc rfl rfl rfl, hmask⟩

theorem selection_tracks (hs : s.smState = .selecting) (hfresh : Fresh s.log)
    (hmask : s.maskRoamingEvents = true) (hplan : Each InPlan s.log) :
    (s.smSelection a).Tracks := by
  refine ⟨?_, each_snoc.mpr ⟨hplan, s.selectedOf_picks a⟩⟩
  show Track _ s.smState (some .reqHandover)
  rw [hs]
  refine ⟨⟨s.selectedOf a (s.candidates a), ?_, ?_⟩, hmask⟩
  · show selections (s.log ++ [.selected _]) = _
    rw [selections_snoc rfl, hfresh.1]
    rfl
  · show _ = tried (s.log ++ [.selected _]) ++ _
    rw [tried_snoc rfl, hfresh.2, selectedOf_all, List.map_map]
    rfl

theorem track_event {smState : SmState} (h : s.Track smState none) (event : SmEvent)
    (htrigger : event ≠ .roamTrigger) (hfailure : event ≠ .failure) :
    s.Track smState (some event) := by
  cases smState with
  | idle => exact h
  | wait4Trigger => cases event <;> first | exact h | exact absurd rfl htrigger
  | wait4Cmd => exact h
  | scanning => exact h
  | selecting => exact h.elim
  | connecting => cases event <;> first | exact h | exact absurd rfl hfailure

theorem report_tracks (h : s.Tracks) (hnone : s.pending = none) (connStatus : ConnStatus) :
    (s.reportStatus connStatus).Tracks := by
  have htrack := h.track
  rw [hnone] at htrack
  cases hen : s.enableDisable with
  | true =>
    rw [reportStatus_enabled hen]
    refine ⟨track_event (s := { s with
      requests := if connStatus.isAnswer then s.requests - 1 else s.requests
      pending := some (ConnStatus.event connStatus) }) htrack _ ?_ ?_, h.inPlan⟩
    · cases connStatus <;> exact nofun
    · cases connStatus <;> exact nofun
  | false =>
    rw [reportStatus_disabled hen]
    exact ⟨h.track, h.inPlan⟩

theorem connectToAP_tracks (hs : s.smState = .connecting) (hnone : s.pending = none)
    (hmask : s.maskRoamingEvents = true) {requestType : ConnRequest} {ap : BssEntry B}
    (hplan : Each InPlan (s.log ++ [.connectToAP requestType ap.BSSID]))
    (hplanned : (s.record (.connectToAP requestType ap.BSSID)).Planned)
    (haimed : (s.record (.connectToAP requestType ap.BSSID)).Aimed) :
    (s.connectToAP a requestType ap).Tracks := by
  have hmade : ({ s with apToConnect := ap, requests := s.requests + 1 }.record
      (.connectToAP requestType ap.BSSID) : Sys B).Tracks := by
    refine ⟨?_, hplan⟩
    rw [hs, hnone]
    exact ⟨⟨hplanned, haimed⟩, hmask⟩
  unfold Sys.connectToAP
  split
  · exact report_tracks hmade hnone _
  · exact hmade

theorem handover_tracks (hs : s.smState = .connecting) (hnone : s.pending = none)
    (hmask : s.maskRoamingEvents = true) (hplan : Each InPlan s.log) (hplanned : s.Planned) :
    (s.smHandover a).Tracks := by
  obtain ⟨sel, hsel, hall⟩ := hplanned
  have hfailure : ∀ t : Sys B, t.smState = s.smState → t.pending = some .failure →
      t.maskRoamingEvents = s.maskRoamingEvents → t.log = s.log → t.Tracks := by
    intro t ht hp hm hlog
    refine ⟨?_, hlog ▸ hplan⟩
    rw [ht, hs, hp]
    exact hm.trans hmask
  unfold smHandover
  split
  · exact hfailure (s.smEvent .failure) rfl rfl rfl rfl
  split
  case h_1 index l hnext =>
    have hl : s.listOfCandidateAps.all = index :: l.all := nextCandidate_all hnext
    rw [hl, List.map_cons] at hall
    have htried : ∀ requestType, requestType = .fullToAp ∨ requestType = .fastToAp →
        Each InPlan (s.log ++ [.connectToAP requestType (s.bssList.entry index).BSSID]) ∧
          (Entry.connectToAP requestType (s.bssList.entry index).BSSID).triedBSSID =
            some (s.bssList.entry index).BSSID := by
      rintro requestType (rfl | rfl)
      · exact ⟨each_snoc.mpr ⟨hplan, sel, _, hsel, hall⟩, rfl⟩
      · exact ⟨each_snoc.mpr ⟨hplan, sel, _, hsel, hall⟩, rfl⟩
    have htype : ∀ p : Prop, ∀ _ : Decidable p,
        (if p then ConnRequest.fullToAp else .fastToAp) = .fullToAp ∨
          (if p then ConnRequest.fullToAp else .fastToAp) = .fastToAp := by
      intro p _
      split
      · exact Or.inl rfl
      · exact Or.inr rfl
    obtain ⟨hplan', hb⟩ := htried _ (htype (fastConnectGroup < s.roamingTrigger.rank) inferInstance)
    apply connectToAP_tracks
    · exact hs
    · exact hnone
    · exact hmask
    · exact hplan'
    · refine ⟨sel, ?_, ?_⟩
      · show selections (s.log ++ [_]) = _
        rw [selections_snoc rfl, hsel]
        rfl
      · show _ = tried (s.log ++ [_]) ++ _
        rw [tried_snoc rfl, hb, hall, List.append_assoc]
        rfl
    · exact getLast?_requested _ _
  case h_2 hnext =>
    split
    · have hcurrent : ∀ b : Bool, InPlan s.log
          (Entry.connectToAP (if b then .reconnectCurrAp else .retainCurrAp) s.currentAp.BSSID) ∧
          (Entry.connectToAP (if b then .reconnectCurrAp else .retainCurrAp)
            s.currentAp.BSSID).triedBSSID = none := by
        intro b
        cases b <;> exact ⟨trivial, rfl⟩
      obtain ⟨hin, hb⟩ := hcurrent s.handoverWasPerformed
      apply connectToAP_tracks
      · exact hs
      · exact hnone
      · exact hmask
      · exact each_snoc.mpr ⟨hplan, hin⟩
      · refine ⟨sel, ?_, ?_⟩
        · show selections (s.log ++ [_]) = _
          rw [selections_snoc rfl, hsel]
          rfl
        · show _ = tried (s.log ++ [_]) ++ _
          rw [tried_snoc rfl, hb, hall, List.append_assoc]
          rfl
      · exact getLast?_requested _ _
    · exact hfailure ({ s with candidateApIndex := .invalid }.smEvent .failure) rfl rfl rfl rfl

/-! ### The end of a process -/

theorem failHandover_tracks (hs : s.smState = .idle) (hnone : s.pending = none)
    (hplan : Each InPlan s.log) : (s.smFailHandover a).Tracks := by
  have hmade : ({ s with maskRoamingEvents := true, roamingTrigger := .none }.record
      .disconnect : Sys B).Tracks := by
    refine ⟨?_, each_snoc.mpr ⟨hplan, trivial⟩⟩
    rw [hs]
    exact rfl
  unfold smFailHandover disconnect
  split
  · exact report_tracks hmade hnone _
  · exact hmade

theorem disconnectWhileConnecting_tracks (hs : s.smState = .idle) (hnone : s.pending = none)
    (hmask : s.maskRoamingEvents = true) (hplan : Each InPlan s.log) :
    (s.smDisconnectWhileConnecting a).Tracks := by
  unfold smDisconnectWhileConnecting
  split
  · exact failHandover_tracks hs hnone hplan
  · refine ⟨?_, hplan⟩
    rw [hs]
    exact hmask

theorem Aimed.newConnectedAp (h : s.Aimed) :
    (s.log.filterMap Entry.requestedBSSID).getLast? = some s.newConnectedAp.BSSID := by
  unfold Aimed at h
  unfold Sys.newConnectedAp
  cases hi : s.candidateApIndex with
  | invalid =>
    rw [hi] at h
    exact h.elim
  | current | listed index =>
    rw [hi] at h
    exact h

/-! ## What comes from outside -/

theorem track_list {bssList : BssList B} (h : s.Track s.smState none)
    (hstay : s.smState = .connecting → ∀ index,
      index ∈ s.listOfCandidateAps.all ∨ s.candidateApIndex = .listed index →
        (bssList.entry index).BSSID = (s.bssList.entry index).BSSID) :
    Track { s with bssList := bssList } s.smState none := by
  cases hs : s.smState with
  | connecting =>
    rw [hs] at h
    obtain ⟨⟨⟨sel, hsel, hall⟩, haimed⟩, hmask⟩ := h
    have hstay := hstay hs
    refine ⟨⟨⟨sel, hsel, ?_⟩, ?_⟩, hmask⟩
    · rw [hall]
      refine congrArg _ (List.map_congr_left fun index hi => ?_)
      exact (hstay index (Or.inl hi)).symm
    · unfold Aimed at haimed ⊢
      cases hi : s.candidateApIndex with
      | invalid =>
        rw [hi] at haimed
        exact haimed.elim
      | current =>
        rw [hi] at haimed
        exact haimed
      | listed index =>
        rw [hi] at haimed
        exact haimed.trans (congrArg some (hstay index (Or.inr hi)).symm)
  | _ =>
    rw [hs] at h
    exact h

theorem trigger_tracks (h : s.Tracks) (hnone : s.pending = none) (roamingTrigger : RoamingTrigger)
    (curTimestamp : ℕ) : (s.triggerRoamingCb roamingTrigger curTimestamp).Tracks := by
  have htrack := h.track
  rw [hnone] at htrack
  have hsave : ∀ ts trigger, Tracks { s with
      lowQualityTriggerTimestamp := ts, roamingTrigger := trigger } :=
    fun _ _ => ⟨h.track, h.inPlan⟩
  have haccept : ∀ ts trigger, s.maskRoamingEvents = false → ({ s with
      lowQualityTriggerTimestamp := ts, roamingTrigger := trigger } : Sys B).acceptTrigger.Tracks := by
    intro ts trigger hmask
    refine ⟨?_, each_snoc.mpr ⟨h.inPlan, trivial⟩⟩
    have hwait : s.smState = .wait4Trigger := by
      cases hs : s.smState with
      | wait4Trigger => rfl
      | selecting =>
        rw [hs] at htrack
        exact htrack.elim
      | idle =>
        rw [hs] at htrack
        exact absurd (hmask.symm.trans htrack) nofun
      | _ =>
        rw [hs] at htrack
        exact absurd (hmask.symm.trans htrack.2) nofun
    rw [hwait]
    exact ⟨⟨selections_accepted, tried_accepted⟩, rfl⟩
  unfold triggerRoamingCb
  dsimp only
  split
  · exact h
  split
  · exact h
  split
  case isTrue hmask =>
    split
    · split
      · exact hsave _ _
      · exact haccept _ _ hmask
    · exact haccept _ _ hmask
  case isFalse hmask =>
    split
    · refine ⟨?_, h.inPlan⟩
      show Track _ s.smState (some .roamTrigger)
      cases hs : s.smState with
      | wait4Trigger =>
        rw [hs] at htrack
        exact absurd htrack hmask
      | selecting =>
        rw [hs] at htrack
        exact htrack.elim
      | _ =>
        rw [hs] at htrack
        exact htrack
    · exact hsave _ _

theorem setParam_tracks (h : s.Tracks) (hnone : s.pending = none) (enableDisable : Bool)
    (lowPassFilterRoamingAttempt : ℕ) (apQualityThreshold : ℤ) (bConnected : Bool) :
    (s.setParam enableDisable lowPassFilterRoamingAttempt apQualityThreshold bConnected).Tracks := by
  have htrack := h.track
  rw [hnone] at htrack
  unfold setParam
  dsimp only
  split
  · exact ⟨track_event htrack .stop nofun nofun, h.inPlan⟩
  · split
    · split
      · exact ⟨track_event htrack .start nofun nofun, h.inPlan⟩
      · exact ⟨h.track, h.inPlan⟩
    · exact ⟨h.track, h.inPlan⟩

theorem track_inactive {smState : SmState} {event : SmEvent} (h : Inactive smState event) :
    s.Track smState (some event) = s.Track smState none := by
  revert h
  cases smState <;> cases event <;> first | exact fun _ => rfl | exact fun h => absurd h (by decide)

/-! ## Steps -/

variable [DecidableEq B]

theorem succHandover_tracks (hs : s.smState = .wait4Trigger) (hnone : s.pending = none)
    (hplan : Each InPlan s.log) (haimed : s.Aimed) : s.smSuccHandover.Tracks := by
  have hdone : Each InPlan (s.log ++ [.handoverDone s.newConnectedAp.BSSID]) :=
    each_snoc.mpr ⟨hplan, haimed.newConnectedAp⟩
  unfold smSuccHandover
  split
  · refine ⟨?_, each_snoc.mpr ⟨hdone, trivial⟩⟩
    show Track _ s.smState s.pending
    rw [hs, hnone]
    exact rfl
  · refine ⟨?_, each_snoc.mpr ⟨hplan, trivial⟩⟩
    show Track _ s.smState s.pending
    rw [hs, hnone]
    exact rfl

theorem Tracks.dispatch (h : s.Tracks) {event : SmEvent} (hp : s.pending = some event) :
    (s.dispatch a event).Tracks := by
  have htrack := h.track
  have hplan := h.inPlan
  rw [hp] at htrack
  by_cases hin : Inactive s.smState event
  · rw [dispatch_inactive hin]
    rw [track_inactive hin] at htrack
    exact ⟨htrack, hplan⟩
  cases hs : s.smState with
  | idle =>
    rw [hs] at htrack hin
    cases event with
    | start =>
      rw [dispatch_of_cell (by rw [hs])]
      exact startIdle_tracks (s := s.enter .wait4Trigger) rfl rfl hplan
    | _ => exact absurd (by decide) hin
  | wait4Trigger =>
    rw [hs] at htrack hin
    cases event with
    | stop =>
      rw [dispatch_of_cell (by rw [hs])]
      exact stop_tracks (s := s.enter .idle) rfl hplan
    | roamTrigger =>
      rw [dispatch_of_cell (by rw [hs])]
      exact roamTrigger_tracks (s := s.enter .wait4Cmd) rfl htrack.1 htrack.2 hplan
    | _ => exact absurd (by decide) hin
  | wait4Cmd =>
    rw [hs] at htrack hin
    cases event with
    | scan =>
      rw [dispatch_of_cell (by rw [hs])]
      exact invokeScan_tracks (s := s.enter .scanning) rfl htrack.1 htrack.2 hplan
    | select =>
      rw [dispatch_of_cell (by rw [hs])]
      exact selection_tracks (s := s.enter .selecting) rfl htrack.1 htrack.2 hplan
    | _ => exact absurd (by decide) hin
  | scanning =>
    rw [hs] at htrack hin
    cases event with
    | stop =>
      rw [dispatch_of_cell (by rw [hs])]
      exact stopWhileScanning_tracks (s := s.enter .idle) rfl hplan
    | scan =>
      rw [dispatch_of_cell (by rw [hs])]
      exact invokeScan_tracks (s := s.enter .scanning) rfl htrack.1 htrack.2 hplan
    | select =>
      rw [dispatch_of_cell (by rw [hs])]
      exact selection_tracks (s := s.enter .selecting) rfl htrack.1 htrack.2 hplan
    | failure =>
      rw [dispatch_of_cell (by rw [hs])]
      exact failHandover_tracks (s := s.enter .idle) rfl rfl hplan
    | _ => exact absurd (by decide) hin
  | selecting =>
    rw [hs] at htrack hin
    cases event with
    | reqHandover =>
      rw [dispatch_of_cell (by rw [hs])]
      exact handover_tracks (s := s.enter .connecting) rfl rfl htrack.2 hplan htrack.1
    | _ => exact htrack.elim
  | connecting =>
    rw [hs] at htrack hin
    cases event with
    | stop =>
      rw [dispatch_of_cell (by rw [hs])]
      exact stop_tracks (s := s.enter .idle) rfl hplan
    | roamTrigger =>
      rw [dispatch_of_cell (by rw [hs])]
      exact disconnectWhileConnecting_tracks (s := s.enter .idle) rfl rfl htrack.2 hplan
    | reqHandover =>
      rw [dispatch_of_cell (by rw [hs])]
      exact handover_tracks (s := s.enter .connecting) rfl rfl htrack.2 hplan htrack.1.1
    | roamSuccess =>
      rw [dispatch_of_cell (by rw [hs])]
      exact succHandover_tracks (s := s.enter .wait4Trigger) rfl rfl hplan htrack.1.2
    | failure =>
      rw [dispatch_of_cell (by rw [hs])]
      exact failHandover_tracks (s := s.enter .idle) rfl rfl hplan
    | _ => exact absurd (by decide) hin

/-- What an input makes of the list. -/
def listAfter (s : Sys B) : Input B → BssList B
  | .immediateScanComplete _ channelValidity => s.bssList.getBSSList channelValidity
  | .removeEntry index => s.bssList.removeEntry index
  | .insertNewBSS e => s.bssList.insertNewBSS e
  | .updateBSSInfo index band rssi => s.bssList.updateBSSInfo index band rssi
  | _ => s.bssList

/-- While the AP connection is asked to connect, no other AP comes to the index of a candidate that
is left or of the AP that was asked for. -/
def StaysInPlace (s : Sys B) (i : Input B) : Prop :=
  s.smState = .connecting → ∀ index,
    index ∈ s.listOfCandidateAps.all ∨ s.candidateApIndex = .listed index →
      ((s.listAfter i).entry index).BSSID = (s.bssList.entry index).BSSID

theorem complete_tracks (h : s.Tracks) (hnone : s.pending = none)
    {scanCmpltStatus : ScanMngrResultStatus} {channelValidity : BssEntry B → Bool}
    (hstay : s.StaysInPlace (.immediateScanComplete scanCmpltStatus channelValidity)) :
    (s.reportScan scanCmpltStatus channelValidity).Tracks := by
  have htrack := h.track
  rw [hnone] at htrack
  obtain ⟨scanType, event, heq, hevent⟩ :=
    immediateScanComplete_cases { s with scans := s.scans - 1 } scanCmpltStatus channelValidity
  rw [reportScan, heq]
  have hlist := track_event (track_list htrack hstay) event
    (by rcases hevent with rfl | ⟨rfl, -⟩ <;> simp)
    (by rcases hevent with rfl | ⟨rfl, -⟩ <;> simp)
  exact ⟨hlist, h.inPlan⟩

theorem Tracks.step (h : s.Tracks) {i : Input B} (hstay : s.StaysInPlace i)
    (hstep : Sys.step s i = some t) : t.Tracks := by
  cases hp : s.pending with
  | some event =>
    obtain ⟨a, rfl, rfl⟩ := step_of_some hp hstep
    exact h.dispatch hp
  | none =>
    rw [step_of_none hp] at hstep
    have htrack := h.track
    rw [hp] at htrack
    have hlist := track_list htrack hstay
    rw [← hp] at hlist
    cases i with
    | triggerRoamingCb roamingTrigger curTimestamp =>
      cases hstep
      exact trigger_tracks h hp _ _
    | connStatusCb connStatus =>
      obtain ⟨-, ⟨⟩⟩ := Option.ite_none_right_eq_some.mp hstep
      exact report_tracks h hp _
    | immediateScanComplete scanCmpltStatus channelValidity =>
      obtain ⟨-, ⟨⟩⟩ := Option.ite_none_right_eq_some.mp hstep
      exact complete_tracks h hp hstay
    | updateNeighborApListCb numOfEntries =>
      cases hstep
      exact ⟨h.track, h.inPlan⟩
    | setParam enableDisable lowPassFilterRoamingAttempt apQualityThreshold bConnected =>
      cases hstep
      exact setParam_tracks h hp _ _ _ _
    | removeEntry index =>
      obtain ⟨-, ⟨⟩⟩ := Option.ite_none_right_eq_some.mp hstep
      exact ⟨hlist, h.inPlan⟩
    | insertNewBSS e | updateBSSInfo index band rssi =>
      cases hstep
      exact ⟨hlist, h.inPlan⟩
    | dispatch a => cases hstep

/-- **The candidates of a process.** While no other AP comes to the index of a candidate that is
left or of the AP that was asked for, whatever else happens: a selection selects each AP once,
in its class, if it passes the filters of its trigger; the candidates of a trigger are requested
in the order of its one selection, neighbours first; and the AP that is reported after a success
is that of the last request. -/
theorem candidates_in_plan {is : List (Input B)} {bssList : BssList B} {ap : BssEntry B}
    (hstay : Along Sys.step StaysInPlace (init bssList ap) is)
    (hrun : exec Sys.step (init bssList ap) is = some t) : Each InPlan t.log := by
  have hinit : (init bssList ap).Tracks := ⟨rfl, each_nil⟩
  exact (Along.invariant (fun _ _ _ h hs hstep => Tracks.step h hs hstep) hinit hstay hrun).inPlan

/-! ## Sample runs -/

def sampleAp (BSSID : ℕ) (rssi : ℤ) : BssEntry ℕ := ⟨BSSID, .band24GHz, rssi, false⟩

def noAps : BssList ℕ :=
  ⟨0, fun _ => sampleAp 0 0, Nat.zero_le _, fun _ h => absurd h (Nat.not_lt_zero _)⟩

def noAnswer : Answers ℕ :=
  ⟨fun _ => true, .scanRunning, none, fun _ => false, fun _ => false, none, sampleAp 0 0⟩

/-- The APs 1, 2 and 3 are in the list, the last one too weak; a trigger of low quality selects 2
and 1, and 2 is requested. -/
def requestSecond : List (Input ℕ) :=
  [.setParam true 0 (-70) true, .dispatch noAnswer, .insertNewBSS (sampleAp 1 (-50)),
    .insertNewBSS (sampleAp 2 (-50)), .insertNewBSS (sampleAp 3 (-90)),
    .triggerRoamingCb .lowQuality 1, .dispatch noAnswer, .dispatch noAnswer, .dispatch noAnswer]

/-- The second AP refuses, and the first one is requested. -/
def requestFirst : List (Input ℕ) :=
  requestSecond ++ [.connStatusCb .handoverFailure, .dispatch noAnswer,
    .connStatusCb .handoverSuccess, .dispatch noAnswer]

theorem candidates_in_plan_requestFirst :
    ∃ t, exec Sys.step (init noAps (sampleAp 0 0)) requestFirst = some t ∧ Each InPlan t.log := by
  have hstay : Along Sys.step StaysInPlace (init noAps (sampleAp 0 0)) requestFirst := by
    refine ⟨fun _ _ _ => rfl, fun _ h => ?_⟩
    cases h
    refine ⟨fun _ _ _ => rfl, fun _ h => ?_⟩
    cases h
    refine ⟨nofun, fun _ h => ?_⟩
    cases h
    refine ⟨nofun, fun _ h => ?_⟩
    cases h
    refine ⟨nofun, fun _ h => ?_⟩
    cases h
    refine ⟨fun _ _ _ => rfl, fun _ h => ?_⟩
    cases h
    refine ⟨fun _ _ _ => rfl, fun _ h => ?_⟩
    cases h
    refine ⟨fun _ _ _ => rfl, fun _ h => ?_⟩
    cases h
    refine ⟨fun _ _ _ => rfl, fun _ h => ?_⟩
    cases h
    refine ⟨fun _ _ _ => rfl, fun _ h => ?_⟩
    cases h
    refine ⟨fun _ _ _ => rfl, fun _ h => ?_⟩
    cases h
    refine ⟨fun _ _ _ => rfl, fun _ h => ?_⟩
    cases h
    exact ⟨fun _ _ _ => rfl, fun _ _ => trivial⟩
  exact ⟨_, rfl, candidates_in_plan hstay rfl⟩

/-- The first AP is removed before the second one refuses. -/
def removedBetween : List (Input ℕ) :=
  requestSecond ++ [.removeEntry 0, .connStatusCb .handoverFailure, .dispatch noAnswer]

/-- The AP of the request is removed before it accepts. -/
def removedMeanwhile : List (Input ℕ) :=
  requestSecond ++ [.removeEntry 1, .connStatusCb .handoverSuccess, .dispatch noAnswer]

/-- **An AP that did not pass is requested, and an AP that was not requested is reported.** An entry
that is removed leaves its index to the last one. -/
theorem index_of_another_ap :
    (∃ t, exec Sys.step (init noAps (sampleAp 0 0)) removedBetween = some t ∧
      ¬ Each InPlan t.log) ∧
    ∃ t, exec Sys.step (init noAps (sampleAp 0 0)) removedMeanwhile = some t ∧
      ¬ Each InPlan t.log := by
  refine ⟨⟨_, rfl, fun h => ?_⟩, _, rfl, fun h => ?_⟩
  · obtain ⟨sel, rest, hsel, hall⟩ : IsNext _ 3 := h.last (a := .connectToAP .fastToAp 3) rfl
    obtain rfl := (List.cons.inj hsel).1
    have hsecond : some 1 = some 3 := congrArg (fun l => l[1]?) hall
    cases hsecond
  · have hdone : Each InPlan _ := ((each_snoc (e := .succeeded)).mp h).1
    have hlast : some 2 = some 3 := hdone.last (a := .handoverDone 3) rfl
    cases hlast

end Sys

end ArchosGpl.Wlan.RoamingMngr
