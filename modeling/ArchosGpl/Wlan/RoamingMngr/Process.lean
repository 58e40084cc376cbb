import ArchosGpl.Lib.Fair
import ArchosGpl.Wlan.RoamingMngr.Model

/-!
# The roaming process

From an accepted trigger on, a process is open until a success, a disconnect or a stop. `Phase`
says, for each state and each event that may be in the slot, what is left of it: the scans by the
scan type, the connect requests by the candidates that were not taken. A scan type is followed by
one of lower `rank` only, and each request takes a candidate or is the last.

* `Inv.dispatch_active`: **an event that does something brings the process nearer to its end**.
  Those that do nothing (`Inactive`) leave the phase as it is.
-/

namespace ArchosGpl.Wlan.RoamingMngr

open Lib
open Wlan.ScanMngr (BssEntry BssList ScanMngrResultStatus)

variable {B : Type*}

/-! ## What is seen of a process -/

def Entry.openAfter (bOpen : Bool) : Entry B → Bool
  | .accepted => true
  | .succeeded | .disconnect | .stopped => false
  | _ => bOpen

/-- A trigger was accepted and its process has not ended. -/
def isOpen (log : List (Entry B)) : Bool := log.foldl Entry.openAfter false

/-- A process begins when none is open; a success and a disconnect end one that is. -/
def InTurn (p : List (Entry B)) : Entry B → Prop
  | .accepted => isOpen p = false
  | .succeeded | .disconnect => isOpen p = true
  | _ => True

def Entry.isAccepted : Entry B → Bool
  | .accepted => true
  | _ => false

def Entry.scan : Entry B → ℕ
  | .startImmediateScan _ => 1
  | _ => 0

def Entry.request : Entry B → ℕ
  | .connectToAP _ _ => 1
  | _ => 0

def Entry.candidates : Entry B → ℕ
  | .selected sel => sel.all.length
  | _ => 0

/-- What the entries since the last accepted trigger add up to. -/
def total (f : Entry B → ℕ) (log : List (Entry B)) : ℕ :=
  ((since Entry.isAccepted log).map f).sum

@[simp] theorem isOpen_snoc (log : List (Entry B)) (e : Entry B) :
    isOpen (log ++ [e]) = e.openAfter (isOpen log) := by
  simp [isOpen, List.foldl_append]

@[simp] theorem total_accepted (f : Entry B → ℕ) (log : List (Entry B)) :
    total f (log ++ [.accepted]) = 0 := by
  rw [total, since_snoc_of_mark rfl]
  rfl

theorem total_snoc (f : Entry B → ℕ) (log : List (Entry B)) {e : Entry B}
    (he : e.isAccepted = false) : total f (log ++ [e]) = total f log + f e := by
  rw [total, since_snoc_of_other he, List.map_append, List.sum_append]
  simp [total]

/-! ## Phases -/

/-- The longest chain of scans from a scan type on. -/
def Scan4RoamingType.rank : Scan4RoamingType → ℕ
  | .noScan => 0
  | .fullScanRetry => 1
  | .fullScan => 2
  | .partialScanRetry => 3
  | .partialScan => 4

/-- What holds of the log and the candidates in any phase. -/
structure Base (log : List (Entry B)) (l : ListOfCandidateAps) : Prop where
  inTurn : Each InTurn log
  scans : total Entry.scan log ≤ 4
  requests : total Entry.request log ≤ total Entry.candidates log + 1
  candidates : l.all.length ≤ ScanMngr.maxSizeOfBssTrackList

structure Closed (log : List (Entry B)) (l : ListOfCandidateAps) : Prop extends Base log l where
  closed : isOpen log = false

structure Roaming (log : List (Entry B)) (l : ListOfCandidateAps) : Prop extends Base log l where
  opened : isOpen log = true

/-- No connect request was made for the trigger, and at most `4 - n` scans. -/
structure Searching (n : ℕ) (log : List (Entry B)) (l : ListOfCandidateAps) : Prop
    extends Roaming log l where
  scansLeft : total Entry.scan log + n ≤ 4
  noRequest : total Entry.request log ≤ total Entry.candidates log

/-- The connect requests that may still be made. -/
def requestsAhead (l : ListOfCandidateAps) (candidateApIndex : CandidateApIndex) : ℕ :=
  l.all.length + if candidateApIndex = .current then 0 else 1

/-- The candidates that are left bound the requests. -/
structure Trying (log : List (Entry B)) (l : ListOfCandidateAps)
    (candidateApIndex : CandidateApIndex) : Prop extends Roaming log l where
  requestsLeft :
    total Entry.request log + requestsAhead l candidateApIndex ≤ total Entry.candidates log + 1

namespace Sys

variable {s t : Sys B}

/-- The last request was to retain the current AP. -/
def Retaining (s : Sys B) : Prop := s.candidateApIndex = .current ∧ s.handoverWasPerformed = false

/-- The phase of a process, by the state and the event in the slot. -/
def Phase (s : Sys B) : SmState → Option SmEvent → Prop
  | .idle, _ => Closed s.log s.listOfCandidateAps ∧ s.maskRoamingEvents = true
  | .wait4Trigger, some .roamTrigger =>
    Searching 4 s.log s.listOfCandidateAps ∧ s.maskRoamingEvents = true
  | .wait4Trigger, _ => Closed s.log s.listOfCandidateAps ∧ s.maskRoamingEvents = false
  | .wait4Cmd, some .scan =>
    (Searching s.scanType.rank s.log s.listOfCandidateAps ∧ 0 < s.scanType.rank) ∧
      s.maskRoamingEvents = true
  | .wait4Cmd, some .select =>
    Searching 0 s.log s.listOfCandidateAps ∧ s.maskRoamingEvents = true
  | .wait4Cmd, _ => False
  | .scanning, some .scan =>
    (Searching s.scanType.rank s.log s.listOfCandidateAps ∧ 0 < s.scanType.rank) ∧
      s.maskRoamingEvents = true
  | .scanning, some .select =>
    Searching 0 s.log s.listOfCandidateAps ∧ s.maskRoamingEvents = true
  | .scanning, some .stop => Roaming s.log s.listOfCandidateAps ∧ s.maskRoamingEvents = true
  | .scanning, some .failure => False
  | .scanning, _ =>
    (Searching (s.scanType.rank - 1) s.log s.listOfCandidateAps ∧ 0 < s.scanType.rank ∧
      0 < s.scans) ∧ s.maskRoamingEvents = true
  | .selecting, some .reqHandover =>
    (Trying s.log s.listOfCandidateAps s.candidateApIndex ∧ s.candidateApIndex = .invalid) ∧
      s.maskRoamingEvents = true
  | .selecting, _ => False
  | .connecting, some .reqHandover =>
    (Trying s.log s.listOfCandidateAps s.candidateApIndex ∧ ¬ s.Retaining) ∧
      s.maskRoamingEvents = true
  | .connecting, some .roamTrigger =>
    (Roaming s.log s.listOfCandidateAps ∧ fastConnectGroup < s.roamingTrigger.rank) ∧
      s.maskRoamingEvents = true
  | .connecting, some .stop => Roaming s.log s.listOfCandidateAps ∧ s.maskRoamingEvents = true
  | .connecting, some .failure => Roaming s.log s.listOfCandidateAps ∧ s.maskRoamingEvents = true
  | .connecting, some .roamSuccess =>
    Roaming s.log s.listOfCandidateAps ∧ s.maskRoamingEvents = true
  | .connecting, _ =>
    (Trying s.log s.listOfCandidateAps s.candidateApIndex ∧ 0 < s.requests) ∧
      s.maskRoamingEvents = true

structure Inv (s : Sys B) : Prop where
  phase : s.Phase s.smState s.pending
  enabled : s.smState ≠ .idle → s.pending ≠ some .stop → s.enableDisable = true
  starts : s.pending = some .start → s.enableDisable = true

/-- How far an open process is from its end, by the state and the event in the slot. -/
def distanceAt (s : Sys B) : SmState → Option SmEvent → ℕ
  | .idle, _ => 0
  | .wait4Trigger, _ => 60
  | .wait4Cmd, some .scan => 42 + 2 * s.scanType.rank
  | .wait4Cmd, _ => 41
  | .scanning, some .scan => 42 + 2 * s.scanType.rank
  | .scanning, some .select => 41
  | .scanning, some .stop => 0
  | .scanning, _ => 41 + 2 * s.scanType.rank
  | .selecting, _ => 2 * requestsAhead s.listOfCandidateAps s.candidateApIndex + 1
  | .connecting, some .reqHandover =>
    2 * requestsAhead s.listOfCandidateAps s.candidateApIndex + 1
  | .connecting, some .roamTrigger => 0
  | .connecting, some .stop => 0
  | .connecting, some .failure => 0
  | .connecting, some .roamSuccess => 0
  | .connecting, _ => 2 * requestsAhead s.listOfCandidateAps s.candidateApIndex + 2

/-- How far an open process is from its end. -/
def distance (s : Sys B) : ℕ := s.distanceAt s.smState s.pending

/-- The invariant holds, and a process that is still open is nearer to its end than `n`. -/
structure Nearer (n : ℕ) (s : Sys B) : Prop where
  inv : s.Inv
  less : isOpen s.log = true → s.distance < n

end Sys

/-! ## Entries -/

variable {log : List (Entry B)} {l l' : ListOfCandidateAps} {e : Entry B}

theorem Base.snoc (h : Base log l) (ha : e.isAccepted = false) (hturn : InTurn log e)
    (hscan : total Entry.scan log + e.scan ≤ 4)
    (hreq : total Entry.request log + e.request ≤
      total Entry.candidates log + e.candidates + 1)
    (hl : l'.all.length ≤ ScanMngr.maxSizeOfBssTrackList) : Base (log ++ [e]) l' where
  inTurn := each_snoc.mpr ⟨h.inTurn, hturn⟩
  scans := by rwa [total_snoc _ _ ha]
  requests := by rwa [total_snoc _ _ ha, total_snoc _ _ ha]
  candidates := hl

theorem Roaming.succeeded (h : Roaming log l) : Closed (log ++ [.succeeded]) l :=
  ⟨h.toBase.snoc rfl h.opened h.scans h.requests h.candidates, by simp [Entry.openAfter]⟩

theorem Roaming.disconnect (h : Roaming log l) : Closed (log ++ [.disconnect]) l :=
  ⟨h.toBase.snoc rfl h.opened h.scans h.requests h.candidates, by simp [Entry.openAfter]⟩

theorem Base.stopped (h : Base log l) : Closed (log ++ [.stopped]) l :=
  ⟨h.snoc rfl trivial h.scans h.requests h.candidates, by simp [Entry.openAfter]⟩

theorem Closed.accepted (h : Closed log l) : Searching 4 (log ++ [.accepted]) l where
  inTurn := each_snoc.mpr ⟨h.inTurn, h.closed⟩
  scans := by simp
  requests := by simp
  candidates := h.candidates
  opened := by simp [Entry.openAfter]
  scansLeft := by simp
  noRequest := by simp

theorem Searching.mono {m n : ℕ} (h : Searching n log l) (hm : m ≤ n) : Searching m log l :=
  ⟨h.toRoaming, Nat.le_trans (Nat.add_le_add_left hm _) h.scansLeft, h.noRequest⟩

theorem Searching.scan {n : ℕ} (h : Searching n log l) (hn : 0 < n) (bNeighborAPsOnly : Bool) :
    Searching (n - 1) (log ++ [.startImmediateScan bNeighborAPsOnly]) l := by
  have hleft := h.scansLeft
  have hreq := h.noRequest
  have hscan : total Entry.scan log + 1 ≤ 4 := by omega
  refine ⟨⟨h.toBase.snoc rfl trivial hscan h.requests h.candidates, ?_⟩, ?_, ?_⟩
  · simpa [Entry.openAfter] using h.opened
  · rw [total_snoc _ _ rfl]
    simp only [Entry.scan]
    omega
  · rw [total_snoc _ _ rfl, total_snoc _ _ rfl]
    simpa [Entry.request, Entry.candidates] using hreq

theorem Searching.selected (h : Searching 0 log l) {sel : Selected B}
    (hlen : sel.all.length = l'.all.length)
    (hmax : l'.all.length ≤ ScanMngr.maxSizeOfBssTrackList) :
    Trying (log ++ [.selected sel]) l' .invalid := by
  have hreq := h.noRequest
  refine ⟨⟨h.toBase.snoc rfl trivial h.scans ?_ hmax, ?_⟩, ?_⟩
  · simp only [Entry.request, Entry.candidates]
    omega
  · simpa [Entry.openAfter] using h.opened
  · rw [total_snoc _ _ rfl, total_snoc _ _ rfl]
    simp only [Entry.request, Entry.candidates, requestsAhead, hlen, reduceCtorEq, if_false]
    omega

theorem Trying.connectToAP {i i' : CandidateApIndex} (h : Trying log l i)
    (hless : requestsAhead l' i' < requestsAhead l i)
    (hl : l'.all.length ≤ ScanMngr.maxSizeOfBssTrackList) (requestType : ConnRequest) (b : B) :
    Trying (log ++ [.connectToAP requestType b]) l' i' := by
  have hleft := h.requestsLeft
  refine ⟨⟨h.toBase.snoc rfl trivial h.scans ?_ hl, ?_⟩, ?_⟩
  · simp only [Entry.request, Entry.candidates]
    omega
  · simpa [Entry.openAfter] using h.opened
  · rw [total_snoc _ _ rfl, total_snoc _ _ rfl]
    simp only [Entry.request, Entry.candidates]
    omega

theorem Roaming.handoverDone (h : Roaming log l) (b : B) : Roaming (log ++ [.handoverDone b]) l :=
  ⟨h.toBase.snoc rfl trivial h.scans h.requests h.candidates,
    by simpa [Entry.openAfter] using h.opened⟩

namespace Sys

variable {s t : Sys B} {a : Answers B}

/-! ## What the AP connection and the scan manager report -/

theorem reportStatus_enabled (hen : s.enableDisable = true) (connStatus : ConnStatus) :
    s.reportStatus connStatus =
      { s with
        requests := if connStatus.isAnswer then s.requests - 1 else s.requests
        pending := some (ConnStatus.event connStatus) } := by
  simp [reportStatus, connStatusCb, smEvent, hen]

theorem reportStatus_disabled (hen : s.enableDisable = false) (connStatus : ConnStatus) :
    s.reportStatus connStatus =
      { s with requests := if connStatus.isAnswer then s.requests - 1 else s.requests } := by
  simp [reportStatus, connStatusCb, hen]

theorem Nearer.of_closed (h : s.Inv) (hclosed : isOpen s.log = false) (n : ℕ) : s.Nearer n :=
  ⟨h, fun hopen => by rw [hclosed] at hopen; cases hopen⟩

theorem Nearer.mono {m n : ℕ} (h : s.Nearer m) (hm : m ≤ n) : s.Nearer n :=
  ⟨h.inv, fun hopen => Nat.lt_of_lt_of_le (h.less hopen) hm⟩

theorem report_connecting (hs : s.smState = .connecting) (hen : s.enableDisable = true)
    (hmask : s.maskRoamingEvents = true) (hreq : 0 < s.requests)
    (htry : Trying s.log s.listOfCandidateAps s.candidateApIndex) {connStatus : ConnStatus}
    (hretain : connStatus = .handoverFailure → ¬ s.Retaining) :
    (s.reportStatus connStatus).Nearer (2 * requestsAhead s.listOfCandidateAps s.candidateApIndex +
      if connStatus.isAnswer then 2 else 3) := by
  rw [reportStatus_enabled hen]
  refine ⟨⟨?_, fun _ _ => hen, fun _ => hen⟩, fun _ => ?_⟩
  · show Phase _ s.smState _
    rw [hs]
    cases connStatus with
    | connected => exact ⟨⟨htry, hreq⟩, hmask⟩
    | notConnected | handoverSuccess => exact ⟨htry.toRoaming, hmask⟩
    | handoverFailure => exact ⟨⟨htry, hretain rfl⟩, hmask⟩
  · show distanceAt _ s.smState _ < _
    rw [hs]
    cases connStatus <;> simp [distanceAt, ConnStatus.event, ConnStatus.isAnswer]

theorem Inv.report_idle (hs : s.smState = .idle) (hnone : s.pending = none)
    (hmask : s.maskRoamingEvents = true) (hclosed : Closed s.log s.listOfCandidateAps)
    (connStatus : ConnStatus) : (s.reportStatus connStatus).Inv := by
  cases hen : s.enableDisable with
  | true =>
    rw [reportStatus_enabled hen]
    refine ⟨?_, fun _ _ => hen, fun _ => hen⟩
    rw [hs]
    exact ⟨hclosed, hmask⟩
  | false =>
    rw [reportStatus_disabled hen]
    refine ⟨?_, fun h => absurd hs h, fun (h : s.pending = _) => ?_⟩
    · show Phase _ s.smState s.pending
      rw [hs]
      exact ⟨hclosed, hmask⟩
    · rw [hnone] at h
      cases h

theorem afterEmptyScan_cases (scanType : Scan4RoamingType) (bOk : Bool) :
    (afterEmptyScan scanType bOk).2 = .select ∨
      (afterEmptyScan scanType bOk).2 = .scan ∧
        0 < (afterEmptyScan scanType bOk).1.rank ∧
        (afterEmptyScan scanType bOk).1.rank < scanType.rank := by
  cases bOk <;> cases scanType <;> simp [afterEmptyScan, Scan4RoamingType.rank]

/-- A completion leaves all but the list, the scan type and the slot as they are, and the event in
the slot is `SELECT`, or `SCAN` with a scan type that allows fewer scans. -/
theorem immediateScanComplete_cases (s : Sys B) (scanCmpltStatus : ScanMngrResultStatus)
    (channelValidity : BssEntry B → Bool) :
    ∃ scanType event, s.immediateScanComplete scanCmpltStatus channelValidity =
      { s with
        bssList := s.bssList.getBSSList channelValidity
        pListOfAPs := true
        scanType := scanType
        pending := some event } ∧
      (event = .select ∨ event = .scan ∧ 0 < scanType.rank ∧ scanType.rank < s.scanType.rank) := by
  unfold immediateScanComplete
  dsimp only
  split
  · exact ⟨_, _, rfl, Or.inl rfl⟩
  · exact ⟨_, _, rfl, afterEmptyScan_cases _ _⟩

theorem complete_scanning (hs : s.smState = .scanning) (hen : s.enableDisable = true)
    (hmask : s.maskRoamingEvents = true)
    (hsearch : Searching (s.scanType.rank - 1) s.log s.listOfCandidateAps)
    (hpos : 0 < s.scanType.rank) (scanCmpltStatus : ScanMngrResultStatus)
    (channelValidity : BssEntry B → Bool) :
    (s.immediateScanComplete scanCmpltStatus channelValidity).Nearer
      (41 + 2 * s.scanType.rank) := by
  obtain ⟨scanType, event, heq, hevent⟩ :=
    immediateScanComplete_cases s scanCmpltStatus channelValidity
  rw [heq]
  refine ⟨⟨?_, fun _ _ => hen, fun _ => hen⟩, fun _ => ?_⟩
  · show Phase _ s.smState (some event)
    rw [hs]
    rcases hevent with rfl | ⟨rfl, hnext, hless⟩
    · exact ⟨hsearch.mono (Nat.zero_le _), hmask⟩
    · have hle : scanType.rank ≤ s.scanType.rank - 1 := Nat.le_sub_one_of_lt hless
      exact ⟨⟨hsearch.mono hle, hnext⟩, hmask⟩
  · show distanceAt _ s.smState (some event) < _
    rw [hs]
    rcases hevent with rfl | ⟨rfl, -, hless⟩
    · show 41 < _
      omega
    · show 42 + 2 * scanType.rank < _
      omega

/-! ## Events that do nothing -/

/-- The cells that do nothing. -/
def Inactive (smState : SmState) (event : SmEvent) : Prop :=
  (roamingMngrAutoMatrix smState event).1 = smState ∧
    ((roamingMngrAutoMatrix smState event).2 = .nop ∨
      (roamingMngrAutoMatrix smState event).2 = .unexpected)

instance (smState : SmState) (event : SmEvent) : Decidable (Inactive smState event) :=
  inferInstanceAs (Decidable (_ ∧ _))

variable {event : SmEvent}

theorem phase_inactive {smState : SmState} (h : Inactive smState event) :
    s.Phase smState (some event) = s.Phase smState none := by
  revert h
  cases smState <;> cases event <;> first | exact fun _ => rfl | exact fun h => absurd h (by decide)

theorem distanceAt_inactive {smState : SmState} (h : Inactive smState event) :
    s.distanceAt smState (some event) = s.distanceAt smState none := by
  revert h
  cases smState <;> cases event <;> first | exact fun _ => rfl | exact fun h => absurd h (by decide)

/-! ## Actions

Each is taken in the state that the cell of its event leads to, with an empty slot. -/

theorem startIdle_nearer (hs : s.smState = .wait4Trigger) (hnone : s.pending = none)
    (hen : s.enableDisable = true) (hclosed : Closed s.log s.listOfCandidateAps) (n : ℕ) :
    (s.smStartIdle a).Nearer n := by
  apply Nearer.of_closed
  · refine ⟨?_, fun _ _ => hen, fun _ => hen⟩
    show Phase _ s.smState s.pending
    rw [hs, hnone]
    exact ⟨hclosed, rfl⟩
  · exact hclosed.closed

theorem stop_nearer (hs : s.smState = .idle) (hstart : s.pending ≠ some .start)
    (hbase : Base s.log s.listOfCandidateAps) (n : ℕ) : s.smStop.Nearer n := by
  apply Nearer.of_closed
  · refine ⟨?_, fun h => absurd hs h, fun h => absurd h hstart⟩
    show Phase _ s.smState s.pending
    rw [hs]
    exact ⟨hbase.stopped, rfl⟩
  · exact hbase.stopped.closed

theorem stopWhileScanning_nearer (hs : s.smState = .idle) (hnone : s.pending = none)
    (hbase : Base s.log s.listOfCandidateAps) (n : ℕ) : (s.smStopWhileScanning a).Nearer n := by
  have hstart : s.pending ≠ some .start := by
    rw [hnone]
    exact nofun
  unfold smStopWhileScanning stopImmediateScan
  split
  case h_1 scanCmpltStatus _ =>
    split
    · obtain ⟨scanType, event, heq, hevent⟩ :=
        immediateScanComplete_cases { s with scans := s.scans - 1 } scanCmpltStatus
          a.channelValidity
      rw [reportScan, heq]
      apply stop_nearer
      · exact hs
      · rcases hevent with rfl | ⟨rfl, -⟩ <;> exact nofun
      · exact hbase
    · exact stop_nearer hs hstart hbase n
  case h_2 => exact stop_nearer hs hstart hbase n

theorem roamTrigger_nearer (hs : s.smState = .wait4Cmd) (hen : s.enableDisable = true)
    (hmask : s.maskRoamingEvents = true) (hsearch : Searching 4 s.log s.listOfCandidateAps) :
    (s.smRoamTrigger a).Nearer 60 := by
  unfold smRoamTrigger
  rw [if_pos hen]
  dsimp only
  split
  · refine ⟨⟨?_, fun _ _ => hen, fun _ => hen⟩, fun _ => ?_⟩
    · show Phase _ s.smState (some .select)
      rw [hs]
      exact ⟨hsearch.mono (Nat.zero_le _), hmask⟩
    · show distanceAt _ s.smState (some .select) < 60
      rw [hs]
      show 41 < 60
      omega
  · have hrank : ∀ b : Bool, 0 < (if b then Scan4RoamingType.partialScan else .fullScan).rank ∧
        (if b then Scan4RoamingType.partialScan else .fullScan).rank ≤ 4 := by decide
    obtain ⟨hpos, hle⟩ := hrank s.neighborApsExist
    refine ⟨⟨?_, fun _ _ => hen, fun _ => hen⟩, fun _ => ?_⟩
    · show Phase _ s.smState (some .scan)
      rw [hs]
      exact ⟨⟨hsearch.mono hle, hpos⟩, hmask⟩
    · show distanceAt _ s.smState (some .scan) < 60
      rw [hs]
      exact Nat.lt_of_le_of_lt (Nat.add_le_add_left (Nat.mul_le_mul_left 2 hle) 42) (by omega)

theorem invokeScan_nearer (hs : s.smState = .scanning) (hnone : s.pending = none)
    (hen : s.enableDisable = true) (hmask : s.maskRoamingEvents = true)
    (hsearch : Searching s.scanType.rank s.log s.listOfCandidateAps) (hpos : 0 < s.scanType.rank) :
    (s.smInvokeScan a).Nearer (42 + 2 * s.scanType.rank) := by
  unfold smInvokeScan
  have hnext := hsearch.scan hpos (s.scanType = .partialScan ∨ s.scanType = .partialScanRetry)
  split
  · refine ⟨⟨?_, fun _ _ => hen, fun (h : s.pending = _) => ?_⟩, fun _ => ?_⟩
    · show Phase _ s.smState s.pending
      rw [hs, hnone]
      exact ⟨⟨hnext, hpos, Nat.succ_pos _⟩, hmask⟩
    · rw [hnone] at h
      cases h
    · show distanceAt _ s.smState s.pending < _
      rw [hs, hnone]
      show 41 + 2 * s.scanType.rank < _
      omega
  · refine (complete_scanning (s := s.record _) hs hen hmask hnext hpos _ _).mono ?_
    show 41 + 2 * s.scanType.rank ≤ _
    omega

theorem addCandidate_length (s : Sys B) (a : Answers B) (l : ListOfCandidateAps) (index : ℕ) :
    (s.addCandidate a l index).all.length ≤ l.all.length + 1 := by
  unfold addCandidate
  dsimp only
  split
  · split
    · simp [ListOfCandidateAps.all]
    · split <;> simp only [ListOfCandidateAps.all, List.length_append, List.length_cons] <;> omega
  · exact Nat.le_succ _

theorem candidates_length (s : Sys B) (a : Answers B) :
    (s.candidates a).all.length ≤ ScanMngr.maxSizeOfBssTrackList := by
  have hfold : ∀ n, ((List.range n).foldl (s.addCandidate a) ⟨[], [], []⟩).all.length ≤ n := by
    intro n
    induction n with
    | zero => exact Nat.le_refl 0
    | succ n ih =>
      rw [List.range_succ, List.foldl_append]
      exact Nat.le_trans (s.addCandidate_length a _ n) (Nat.succ_le_succ ih)
  unfold candidates
  split
  · exact Nat.le_trans (hfold _) s.bssList.numOfEntries_le
  · exact Nat.zero_le _

theorem selection_nearer (hs : s.smState = .selecting) (hen : s.enableDisable = true)
    (hmask : s.maskRoamingEvents = true) (hsearch : Searching 0 s.log s.listOfCandidateAps) :
    (s.smSelection a).Nearer 41 := by
  have hlen : (s.selectedOf a (s.candidates a)).all.length = (s.candidates a).all.length := by
    simp [Selected.all, selectedOf, ListOfCandidateAps.all]
  have hmax := s.candidates_length a
  refine ⟨⟨?_, fun _ _ => hen, fun _ => hen⟩, fun _ => ?_⟩
  · show Phase _ s.smState (some .reqHandover)
    rw [hs]
    exact ⟨⟨hsearch.selected hlen hmax, rfl⟩, hmask⟩
  · show distanceAt _ s.smState (some .reqHandover) < 41
    rw [hs]
    show 2 * ((s.candidates a).all.length + 1) + 1 < 41
    have : ScanMngr.maxSizeOfBssTrackList = 16 := rfl
    omega

/-! ### Handover -/

theorem nextCandidate_all {l l' : ListOfCandidateAps} {index : ℕ}
    (h : nextCandidate l = some (index, l')) : l.all = index :: l'.all := by
  obtain ⟨neighbor, preAuth, regular⟩ := l
  cases neighbor with
  | cons i rest =>
    cases h
    rfl
  | nil =>
    cases preAuth with
    | cons i rest =>
      cases h
      rfl
    | nil =>
      cases regular with
      | cons i rest =>
        cases h
        rfl
      | nil => cases h

theorem connectToAP_nearer (hs : s.smState = .connecting) (hnone : s.pending = none)
    (hen : s.enableDisable = true) (hmask : s.maskRoamingEvents = true) (requestType : ConnRequest)
    (ap : BssEntry B)
    (htry : Trying (s.log ++ [.connectToAP requestType ap.BSSID]) s.listOfCandidateAps
      s.candidateApIndex)
    (hretain : a.connStatus = some .handoverFailure → ¬ s.Retaining) :
    (s.connectToAP a requestType ap).Nearer
      (2 * requestsAhead s.listOfCandidateAps s.candidateApIndex + 3) := by
  unfold connectToAP
  split
  case h_1 connStatus heq =>
    refine Nearer.mono (report_connecting
      (s := { s with apToConnect := ap, requests := s.requests + 1 }.record _)
      hs hen hmask (Nat.succ_pos _) htry ?_) ?_
    · rintro rfl
      exact hretain heq
    · cases connStatus.isAnswer
      · exact Nat.le_refl _
      · exact Nat.le_succ _
  case h_2 =>
    refine ⟨⟨?_, fun _ _ => hen, fun (h : s.pending = _) => ?_⟩, fun _ => ?_⟩
    · show Phase _ s.smState s.pending
      rw [hs, hnone]
      exact ⟨⟨htry, Nat.succ_pos _⟩, hmask⟩
    · rw [hnone] at h
      cases h
    · show distanceAt _ s.smState s.pending < _
      rw [hs, hnone]
      exact Nat.lt_succ_self _

/-- The request that is made next is to retain the current AP. -/
def Retains (s : Sys B) : Prop :=
  nextCandidate s.listOfCandidateAps = none ∧ s.roamingTrigger.rank ≤ lowQualityGroup ∧
    s.handoverWasPerformed = false

theorem handover_nearer (hs : s.smState = .connecting) (hnone : s.pending = none)
    (hen : s.enableDisable = true) (hmask : s.maskRoamingEvents = true)
    (htry : Trying s.log s.listOfCandidateAps s.candidateApIndex) (hnot : ¬ s.Retaining)
    (hretain : a.connStatus = some .handoverFailure → ¬ s.Retains) :
    (s.smHandover a).Nearer
      (2 * requestsAhead s.listOfCandidateAps s.candidateApIndex + 1) := by
  -- the candidates are exhausted, or a new request cannot fail
  have hfailure : ∀ t : Sys B, t.smState = .connecting → t.pending = some .failure →
      t.enableDisable = true → t.maskRoamingEvents = true → t.log = s.log →
      t.listOfCandidateAps = s.listOfCandidateAps → ∀ n, t.Nearer (n + 1) := by
    intro t ht hp hent hmaskt hlog hl n
    refine ⟨⟨?_, fun _ _ => hent, fun h => ?_⟩, fun _ => ?_⟩
    · rw [ht, hp]
      exact ⟨hlog ▸ hl ▸ htry.toRoaming, hmaskt⟩
    · rw [hp] at h
      cases h
    · rw [distance, ht, hp]
      exact Nat.succ_pos n
  unfold smHandover
  by_cases hend : s.handoverWasPerformed = true ∧ s.candidateApIndex = .current
  · rw [if_pos hend]
    exact hfailure (s.smEvent .failure) hs rfl hen hmask rfl rfl _
  rw [if_neg hend]
  have hcurrent : s.candidateApIndex ≠ .current := by
    intro hc
    cases hperf : s.handoverWasPerformed with
    | false => exact hnot ⟨hc, hperf⟩
    | true => exact hend ⟨hperf, hc⟩
  have hahead : requestsAhead s.listOfCandidateAps s.candidateApIndex =
      s.listOfCandidateAps.all.length + 1 := by
    rw [requestsAhead, if_neg hcurrent]
  split
  case h_1 index l hnext =>
    have hlen : s.listOfCandidateAps.all.length = l.all.length + 1 := by
      rw [nextCandidate_all hnext, List.length_cons]
    have hless : requestsAhead l (.listed index) <
        requestsAhead s.listOfCandidateAps s.candidateApIndex := by
      rw [hahead, hlen]
      exact Nat.lt_succ_self _
    have hmax := htry.candidates
    refine Nearer.mono (connectToAP_nearer
      (s := { s with
        listOfCandidateAps := l
        candidateApIndex := .listed index
        handoverWasPerformed := true })
      hs hnone hen hmask _ _ (htry.connectToAP hless (by omega) _ _) fun _ h => ?_) ?_
    · exact absurd h.1 nofun
    · show 2 * requestsAhead l (.listed index) + 3 ≤ _
      omega
  case h_2 hnext =>
    split
    case isTrue hlow =>
      have hless : requestsAhead s.listOfCandidateAps .current <
          requestsAhead s.listOfCandidateAps s.candidateApIndex := by
        rw [hahead]
        exact Nat.lt_succ_self _
      refine Nearer.mono (connectToAP_nearer (s := { s with candidateApIndex := .current })
        hs hnone hen hmask _ _ (htry.connectToAP hless htry.candidates _ _) fun ha h => ?_) ?_
      · exact hretain ha ⟨hnext, hlow, h.2⟩
      · show 2 * requestsAhead s.listOfCandidateAps .current + 3 ≤ _
        omega
    case isFalse =>
      exact hfailure ({ s with candidateApIndex := .invalid }.smEvent .failure) hs rfl hen hmask
        rfl rfl _

/-! ### The end of a process -/

theorem reportStatus_log (s : Sys B) (connStatus : ConnStatus) :
    (s.reportStatus connStatus).log = s.log := by
  cases hen : s.enableDisable with
  | true => rw [reportStatus_enabled hen]
  | false => rw [reportStatus_disabled hen]

theorem failHandover_nearer (hs : s.smState = .idle) (hnone : s.pending = none)
    (hopen : Roaming s.log s.listOfCandidateAps) (n : ℕ) : (s.smFailHandover a).Nearer n := by
  have hclosed := hopen.disconnect
  unfold smFailHandover disconnect
  split
  case h_1 connStatus _ =>
    apply Nearer.of_closed
    · exact Inv.report_idle
        (s := { s with maskRoamingEvents := true, roamingTrigger := .none }.record .disconnect)
        hs hnone rfl hclosed connStatus
    · rw [reportStatus_log]
      exact hclosed.closed
  case h_2 =>
    apply Nearer.of_closed
    · refine ⟨?_, fun h => absurd hs h, fun (h : s.pending = _) => ?_⟩
      · show Phase _ s.smState s.pending
        rw [hs]
        exact ⟨hclosed, rfl⟩
      · rw [hnone] at h
        cases h
    · exact hclosed.closed

theorem disconnectWhileConnecting_nearer (hs : s.smState = .idle) (hnone : s.pending = none)
    (hopen : Roaming s.log s.listOfCandidateAps) (hrank : fastConnectGroup < s.roamingTrigger.rank)
    (n : ℕ) : (s.smDisconnectWhileConnecting a).Nearer n := by
  rw [smDisconnectWhileConnecting, if_pos hrank]
  exact failHandover_nearer hs hnone hopen n

variable [DecidableEq B]

theorem succHandover_nearer (hs : s.smState = .wait4Trigger) (hnone : s.pending = none)
    (hen : s.enableDisable = true) (hopen : Roaming s.log s.listOfCandidateAps) (n : ℕ) :
    s.smSuccHandover.Nearer n := by
  have hend : ∀ t : Sys B, t.smState = s.smState → t.pending = s.pending →
      t.enableDisable = s.enableDisable → Roaming t.log t.listOfCandidateAps →
      (({ t with
        maskRoamingEvents := false
        candidateApIndex := .invalid
        handoverWasPerformed := false
        roamingTrigger := .none
        currentAp := t.apToConnect } : Sys B).record .succeeded).Nearer n := by
    intro t hts htp hten ht
    apply Nearer.of_closed
    · refine ⟨?_, fun _ _ => hten.trans hen, fun _ => hten.trans hen⟩
      rw [hts, hs, htp, hnone]
      exact ⟨ht.succeeded, rfl⟩
    · exact ht.succeeded.closed
  unfold smSuccHandover
  split
  · exact hend (s.handoverDone s.newConnectedAp.BSSID) rfl rfl rfl (hopen.handoverDone _)
  · exact hend s rfl rfl rfl hopen

/-! ## The event in the slot -/

theorem dispatch_inactive (h : Inactive s.smState event) :
    s.dispatch a event = { s with pending := none } := by
  obtain ⟨hsame, hact⟩ := h
  unfold dispatch
  dsimp only
  rcases hact with hact | hact <;> rw [hact, hsame] <;> rfl

/-- What the AP connection is not to answer while it is asked to retain the current AP. -/
def Keeps (s : Sys B) : Input B → Prop
  | .connStatusCb connStatus =>
    connStatus = .handoverFailure → ¬ (s.smState = .connecting ∧ s.Retaining)
  | .dispatch a =>
    a.connStatus = some .handoverFailure → s.pending = some .reqHandover → ¬ s.Retains
  | _ => True

/-- The state that an event leads to, before its action. -/
def enter (s : Sys B) (next : SmState) : Sys B := { s with pending := none, smState := next }

theorem dispatch_of_cell {next : SmState} {action : Action}
    (h : roamingMngrAutoMatrix s.smState event = (next, action)) :
    s.dispatch a event = (s.enter next).act a action := by
  rw [dispatch, h]
  rfl

theorem Inv.dispatch_active (h : s.Inv) (hp : s.pending = some event)
    (hact : ¬ Inactive s.smState event) (hkeep : s.Keeps (.dispatch a)) :
    (s.dispatch a event).Nearer s.distance := by
  have hphase := h.phase
  have hen := h.enabled
  have hstart := h.starts
  rw [distance]
  rw [hp] at hphase hen hstart ⊢
  cases hs : s.smState with
  | idle =>
    rw [hs] at hphase hact
    cases event with
    | start =>
      rw [dispatch_of_cell (by rw [hs])]
      exact startIdle_nearer (s := s.enter .wait4Trigger) rfl rfl (hstart rfl) hphase.1 _
    | _ => exact absurd (by decide) hact
  | wait4Trigger =>
    rw [hs] at hphase hact hen
    cases event with
    | stop =>
      rw [dispatch_of_cell (by rw [hs])]
      exact stop_nearer (s := s.enter .idle) rfl nofun hphase.1.toBase _
    | roamTrigger =>
      rw [dispatch_of_cell (by rw [hs])]
      exact roamTrigger_nearer (s := s.enter .wait4Cmd) rfl (hen nofun nofun) hphase.2 hphase.1
    | _ => exact absurd (by decide) hact
  | wait4Cmd =>
    rw [hs] at hphase hact hen
    cases event with
    | scan =>
      rw [dispatch_of_cell (by rw [hs])]
      exact invokeScan_nearer (s := s.enter .scanning) rfl rfl (hen nofun nofun) hphase.2
        hphase.1.1 hphase.1.2
    | select =>
      rw [dispatch_of_cell (by rw [hs])]
      exact selection_nearer (s := s.enter .selecting) rfl (hen nofun nofun) hphase.2 hphase.1
    | _ => exact hphase.elim
  | scanning =>
    rw [hs] at hphase hact hen
    cases event with
    | stop =>
      rw [dispatch_of_cell (by rw [hs])]
      exact stopWhileScanning_nearer (s := s.enter .idle) rfl rfl hphase.1.toBase _
    | scan =>
      rw [dispatch_of_cell (by rw [hs])]
      exact invokeScan_nearer (s := s.enter .scanning) rfl rfl (hen nofun nofun) hphase.2
        hphase.1.1 hphase.1.2
    | select =>
      rw [dispatch_of_cell (by rw [hs])]
      exact selection_nearer (s := s.enter .selecting) rfl (hen nofun nofun) hphase.2 hphase.1
    | failure => exact hphase.elim
    | _ => exact absurd (by decide) hact
  | selecting =>
    rw [hs] at hphase hact hen
    cases event with
    | reqHandover =>
      rw [dispatch_of_cell (by rw [hs])]
      refine handover_nearer (s := s.enter .connecting) rfl rfl (hen nofun nofun) hphase.2
        hphase.1.1 ?_ fun ha => hkeep ha hp
      rintro ⟨hc, -⟩
      exact absurd (hphase.1.2.symm.trans hc) nofun
    | _ => exact hphase.elim
  | connecting =>
    rw [hs] at hphase hact hen
    cases event with
    | stop =>
      rw [dispatch_of_cell (by rw [hs])]
      exact stop_nearer (s := s.enter .idle) rfl nofun hphase.1.toBase _
    | roamTrigger =>
      rw [dispatch_of_cell (by rw [hs])]
      exact disconnectWhileConnecting_nearer (s := s.enter .idle) rfl rfl hphase.1.1 hphase.1.2 _
    | reqHandover =>
      rw [dispatch_of_cell (by rw [hs])]
      exact handover_nearer (s := s.enter .connecting) rfl rfl (hen nofun nofun) hphase.2
        hphase.1.1 hphase.1.2 fun ha => hkeep ha hp
    | roamSuccess =>
      rw [dispatch_of_cell (by rw [hs])]
      exact succHandover_nearer (s := s.enter .wait4Trigger) rfl rfl (hen nofun nofun) hphase.1 _
    | failure =>
      rw [dispatch_of_cell (by rw [hs])]
      exact failHandover_nearer (s := s.enter .idle) rfl rfl hphase.1 _
    | _ => exact absurd (by decide) hact

/-! ## Steps -/

theorem step_of_none (hnone : s.pending = none) (i : Input B) : Sys.step s i = s.receive i := by
  unfold Sys.step
  rw [hnone]

theorem step_of_some (hp : s.pending = some event) {i : Input B}
    (hstep : Sys.step s i = some t) : ∃ a, i = .dispatch a ∧ t = s.dispatch a event := by
  unfold Sys.step at hstep
  rw [hp] at hstep
  cases i with
  | dispatch a =>
    cases hstep
    exact ⟨a, rfl, rfl⟩
  | _ => cases hstep

end Sys

end ArchosGpl.Wlan.RoamingMngr
