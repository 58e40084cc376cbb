import ArchosGpl.Lib.Linked
import ArchosGpl.Lib.Repeat
import ArchosGpl.Lib.Word
import ArchosGpl.Wlan.RegulatoryDomain.Model
import Mathlib.Data.Fintype.Pi
import Mathlib.Data.Int.DivMod

/-!
# Model of the scheduled scan command (`stad/src/Application/scanMngr.c`)

`scanMngrAddSPSChannels` links the tracked APs of a band by the times of their next frames, in
`nextEventArray`, and then takes them from the head of the list into the command, or puts them off
to a later frame. The links are indices, as in the source. The loop over the list is a `Pass`: it
does not survive a division by zero.

TSF values are 64-bit words as naturals, and what is added to one or taken from one wraps (`u64`).
`windows` are the channels of the command with their whole start times, of which an entry of the
command has the low words.
-/

namespace ArchosGpl.Wlan.ScanMngr.Sps

open Lib
open Wlan.RegulatoryDomain (ERadioBand)

scoped instance neZero_4 : NeZero 4 := ⟨by decide⟩

scoped instance neZero_16 : NeZero 16 := ⟨by decide⟩

/-! ## Words -/

/-- A number as a `TI_UINT64`. -/
def u64 (x : ℤ) : ℕ := (x % 2 ^ 64).toNat

def mul32 (a b : ℕ) : ℕ := a * b % 2 ^ 32

def reminder64 (dividee divider : ℕ) : Option ℕ :=
  if divider = 0 then none
  else
    let divideeHigh := dividee / 2 ^ 32
    let divideeLow := dividee % 2 ^ 32
    let mod8n := 256 % divider
    let mod4n := 16 % divider
    let partA := mul32 mod4n (divideeHigh % divider) % divider
    let partA8n := mul32 partA mod4n % divider
    let mod16n := mul32 partA8n mod8n % divider
    let mod24n := mul32 mod8n mod16n % divider
    let mod28n := mul32 mod4n mod24n % divider
    let partB := mul32 mod4n mod28n % divider
    some ((partB + divideeLow % divider) % 2 ^ 32 % divider)

/-! ## Data -/

/-- An index below `MAX_SIZE_OF_BSS_TRACK_LIST`. -/
abbrev Slot := Fin 16

structure BssEntry where
  BSSID : ℕ
  lastRxTSF : ℕ
  beaconInterval : ℕ
  band : ERadioBand
  channel : ℕ

structure ScanBssEntry where
  trackFailCount : ℕ
  localTSF : ℕ
  prevTSFDelta : ℤ
  deltaChangeArray : Fin 4 → ℤ
  deltaChangeArrayIndex : Fin 4
  deriving DecidableEq

structure SpsHelper where
  nextEventTSF : ℕ
  trackListIndex : Slot
  nextAPIndex : Option Slot
  deriving DecidableEq

structure SpsChannelEntry where
  scanStartTime : ℕ
  scanDuration : ℕ
  ETMaxNumOfAPframes : ℕ
  earlyTerminationEvent : ℕ
  channel : ℕ
  bssId : ℕ
  deriving DecidableEq

/-- A channel of the command: whose frame is waited for, and from when on. -/
structure Window where
  trackListIndex : Slot
  start : ℕ
  deriving DecidableEq

/-- What a call reads: its arguments and the fields of `scanMngr_t` that it leaves. -/
structure Ctx where
  scanDuration : ℕ
  ETMaxNumberOfApFrames : ℕ
  earlyTerminationEvent : ℕ
  band : ERadioBand
  channelValidity : ERadioBand → ℕ → Bool
  numOfEntries : ℕ
  BSSList : Slot → BssEntry
  maxTrackFailures : ℕ
  currentTSF : ℕ
  lastLocalBcnDTIMCount : ℕ
  lastLocalBcnTSF : ℕ
  currentBSSBeaconInterval : ℕ
  currentBSSDtimPeriod : ℕ

/-- What a call writes, and its variables. -/
structure Sys where
  scanBSSList : Slot → ScanBssEntry
  channelEntry : List SpsChannelEntry
  latestTSFValue : ℕ
  spsScanDuration : ℕ
  earliestTSFToInsert : ℕ
  nextEventArray : Slot → SpsHelper
  nextEventArrayHead : Option Slot
  nextEventArraySize : ℕ
  windows : List Window

instance : DecidableEq Sys := fun s t =>
  decidable_of_iff
    (s.scanBSSList = t.scanBSSList ∧ s.channelEntry = t.channelEntry ∧
      s.latestTSFValue = t.latestTSFValue ∧ s.spsScanDuration = t.spsScanDuration ∧
      s.earliestTSFToInsert = t.earliestTSFToInsert ∧ s.nextEventArray = t.nextEventArray ∧
      s.nextEventArrayHead = t.nextEventArrayHead ∧
      s.nextEventArraySize = t.nextEventArraySize ∧ s.windows = t.windows)
    (by cases s; cases t; simp)

abbrev guardFromCurrentTSF : ℕ := 50000

abbrev guardFromLastBss : ℕ := 2000

abbrev fwDtimLength : ℕ := 1000

abbrev maxNumOfSpsChannelsPerCommand : ℕ := 16

def BssEntry.beaconIntervalUsec (b : BssEntry) : ℕ := b.beaconInterval * 1024

/-- By how much a scan starts before the frame that it waits for. -/
def Ctx.timeToStartInAdvance (c : Ctx) : ℕ := c.scanDuration / 4

/-! ## The next event -/

/-- The local TSF less the remote one, as last measured. -/
def localRemoteTSFDelta (b : BssEntry) (e : ScanBssEntry) : ℤ :=
  Int.bmod (e.localTSF - b.lastRxTSF) (2 ^ 64)

def remoteTSF (b : BssEntry) (e : ScanBssEntry) (tsf : ℤ) : ℕ := u64 (tsf - localRemoteTSFDelta b e)

/-- The change of the delta since the last measurement is noted, if there was one. -/
def noteDelta (b : BssEntry) (e : ScanBssEntry) : ScanBssEntry :=
  if e.prevTSFDelta = 0 then { e with prevTSFDelta := localRemoteTSFDelta b e }
  else
    { e with
      deltaChangeArray := Function.update e.deltaChangeArray e.deltaChangeArrayIndex
        (Int.bmod (localRemoteTSFDelta b e - e.prevTSFDelta) (2 ^ 32))
      deltaChangeArrayIndex := e.deltaChangeArrayIndex + 1
      prevTSFDelta := localRemoteTSFDelta b e }

def averageDeltaChange (e : ScanBssEntry) : ℤ :=
  ((List.finRange 4).foldl (fun a i => Int.bmod (a + e.deltaChangeArray i) (2 ^ 32)) 0).tdiv 4

def scanMngrCalculateNextEventTSF (b : BssEntry) (e : ScanBssEntry) (initialTSFValue : ℕ) :
    Option (ℕ × ScanBssEntry) := do
  let remoteBeaconTSF := remoteTSF b e initialTSFValue
  let reminder ← reminder64 remoteBeaconTSF b.beaconIntervalUsec
  let remoteBeaconTSF := u64 (remoteBeaconTSF - reminder)
  let remoteBeaconTSF := u64 (remoteBeaconTSF + b.beaconIntervalUsec)
  let noted := noteDelta b e
  let remoteBeaconTSF := u64 (remoteBeaconTSF + averageDeltaChange noted)
  let localBeaconTSF := u64 (remoteBeaconTSF + localRemoteTSFDelta b e)
  if localBeaconTSF < initialTSFValue then
    some (u64 (localBeaconTSF + b.beaconIntervalUsec), noted)
  else some (localBeaconTSF, noted)

def scanMngrDTIMInRange (c : Ctx) (rangeStart rangeEnd : ℕ) : Option Bool :=
  let dtimPeriodInUsec := mul32 (mul32 c.currentBSSBeaconInterval 1024) c.currentBSSDtimPeriod
  let dtimEventStart :=
    if c.lastLocalBcnDTIMCount = 0 then c.lastLocalBcnTSF
    else
      u64 (c.lastLocalBcnTSF + mul32 (sub32 c.currentBSSDtimPeriod c.lastLocalBcnDTIMCount)
        c.currentBSSBeaconInterval)
  let dtimEventEnd := u64 (dtimEventStart + fwDtimLength)
  if rangeEnd < dtimEventStart then some false
  else if rangeStart ≤ dtimEventEnd then some true
  else do
    let reminder ← reminder64 (u64 (rangeStart - dtimEventStart)) dtimPeriodInUsec
    let dtimEventStart := u64 (rangeStart - reminder + dtimPeriodInUsec)
    let dtimEventEnd := u64 (dtimEventStart + fwDtimLength)
    some (!(decide (dtimEventEnd < rangeStart) || decide (rangeEnd < dtimEventStart)))

/-! ## The links -/

/-- The walk along the links, past the nodes of earlier events, to the one to insert behind. -/
def findPlace (nextEventArray : Slot → SpsHelper) (nextEventTSF : ℕ) : ℕ → Slot → Option Slot
  | 0, _ => none
  | fuel + 1, i =>
    match (nextEventArray i).nextAPIndex with
    | none => some i
    | some k =>
      if (nextEventArray k).nextEventTSF < nextEventTSF then
        findPlace nextEventArray nextEventTSF fuel k
      else some i

/-- The node `j` is linked behind the node `i`. -/
def linkAfter (nextEventArray : Slot → SpsHelper) (i j : Slot) : Slot → SpsHelper :=
  let nextEventArray := Function.update nextEventArray j
    { nextEventArray j with nextAPIndex := (nextEventArray i).nextAPIndex }
  Function.update nextEventArray i { nextEventArray i with nextAPIndex := some j }

/-- The new node `n` becomes the head. -/
def linkHead (s : Sys) (n : Slot) : Sys :=
  { s with
    nextEventArray := Function.update s.nextEventArray n
      { s.nextEventArray n with nextAPIndex := s.nextEventArrayHead }
    nextEventArrayHead := some n
    nextEventArraySize := s.nextEventArraySize + 1 }

/-- The new node `n` is linked to where it belongs. -/
def linkNew (s : Sys) (n : Slot) : Option Sys :=
  match s.nextEventArrayHead with
  | none => some (linkHead s n)
  | some h =>
    if (s.nextEventArray n).nextEventTSF < (s.nextEventArray h).nextEventTSF then
      some (linkHead s n)
    else do
      let i ← findPlace s.nextEventArray (s.nextEventArray n).nextEventTSF s.nextEventArraySize h
      some { s with
        nextEventArray := linkAfter s.nextEventArray i n
        nextEventArraySize := s.nextEventArraySize + 1 }

/-- The head `h` stays the head, or is linked to where it belongs. -/
def relinkHead (s : Sys) (h : Slot) : Option Sys :=
  if 1 < s.nextEventArraySize then
    match (s.nextEventArray h).nextAPIndex with
    | none => none
    | some k =>
      if (s.nextEventArray k).nextEventTSF < (s.nextEventArray h).nextEventTSF then do
        let i ← findPlace s.nextEventArray (s.nextEventArray h).nextEventTSF s.nextEventArraySize k
        some { s with nextEventArray := linkAfter s.nextEventArray i h, nextEventArrayHead := some k }
      else some s
  else some s

/-! ## The tracked APs -/

/-- The AP is to be removed when the scan is complete. -/
def markRemoved (c : Ctx) (s : Sys) (i : Slot) : Sys :=
  { s with
    scanBSSList := Function.update s.scanBSSList i
      { s.scanBSSList i with trackFailCount := (c.maxTrackFailures + 1) % 256 } }

/-- The next event of an AP, with the time to start in advance taken off, goes into the node `n`. -/
def putEvent (c : Ctx) (s : Sys) (n i : Slot) (initialTSFValue : ℕ) : Option Sys := do
  let r ← scanMngrCalculateNextEventTSF (c.BSSList i) (s.scanBSSList i) initialTSFValue
  some { s with
    scanBSSList := Function.update s.scanBSSList i r.2
    nextEventArray := Function.update s.nextEventArray n
      { s.nextEventArray n with
        nextEventTSF := u64 (r.1 - c.timeToStartInAdvance), trackListIndex := i } }

/-- `latestTSFValue` keeps up with the AP. -/
def noteLatest (s : Sys) (i : Slot) : Sys :=
  { s with latestTSFValue := max s.latestTSFValue (s.scanBSSList i).localTSF }

/-- A pass of the first loop of `scanMngrAddSPSChannels`. -/
def trackBss (c : Ctx) (s : Sys) (i : Slot) : Option Sys :=
  if (c.BSSList i).band = c.band then
    if c.channelValidity c.band (c.BSSList i).channel then do
      let n := Fin.ofNat 16 s.nextEventArraySize
      let s ← putEvent c (noteLatest s i) n i
        (u64 (c.currentTSF + guardFromCurrentTSF + c.timeToStartInAdvance))
      linkNew s n
    else some (markRemoved c s i)
  else some s

/-! ## The command -/

def entryOf (c : Ctx) (w : Window) : SpsChannelEntry where
  scanStartTime := w.start % 2 ^ 32
  scanDuration := c.scanDuration
  ETMaxNumOfAPframes := c.ETMaxNumberOfApFrames
  earlyTerminationEvent := c.earlyTerminationEvent
  channel := (c.BSSList w.trackListIndex).channel
  bssId := (c.BSSList w.trackListIndex).BSSID

/-- The head `h` leaves the list. -/
def dropHead (s : Sys) (h : Slot) : Sys :=
  { s with
    nextEventArrayHead := (s.nextEventArray h).nextAPIndex
    nextEventArraySize := s.nextEventArraySize - 1 }

/-- The AP of the head `h` is inserted to the command. -/
def insertHead (c : Ctx) (s : Sys) (h : Slot) : Sys :=
  let w : Window := ⟨(s.nextEventArray h).trackListIndex, (s.nextEventArray h).nextEventTSF⟩
  let e := s.scanBSSList w.trackListIndex
  dropHead { s with
    channelEntry := s.channelEntry ++ [entryOf c w]
    windows := s.windows ++ [w]
    scanBSSList := Function.update s.scanBSSList w.trackListIndex
      { e with trackFailCount := (e.trackFailCount + 1) % 256 }
    earliestTSFToInsert := u64 (w.start + c.scanDuration + guardFromLastBss) } h

/-- The event of the head `h` is calculated again. -/
def putOff (c : Ctx) (s : Sys) (h : Slot) (initialTSFValue : ℕ) : Pass Sys Sys :=
  match putEvent c s h (s.nextEventArray h).trackListIndex initialTSFValue with
  | none => .fault
  | some s =>
    match relinkHead s h with
    | none => .fault
    | some s => .next s

/-- Whether a scan from that TSF on collides with a DTIM. -/
def collides (c : Ctx) (nextEventTSF : ℕ) : Option Bool :=
  scanMngrDTIMInRange c nextEventTSF (u64 (nextEventTSF + c.scanDuration))

/-- Whether a scan of the beacon behind that TSF collides with a DTIM. -/
def nextCollides (c : Ctx) (b : BssEntry) (nextEventTSF : ℕ) : Option Bool :=
  scanMngrDTIMInRange c (u64 (nextEventTSF + b.beaconIntervalUsec))
    (u64 (nextEventTSF + c.scanDuration + b.beaconIntervalUsec))

/-- The body of the second loop, for the head `h`. -/
def visitHead (c : Ctx) (s : Sys) (h : Slot) : Pass Sys Sys :=
  let e := s.nextEventArray h
  if s.earliestTSFToInsert < e.nextEventTSF then
    match collides c e.nextEventTSF with
    | none => .fault
    | some false => .next (insertHead c s h)
    | some true =>
      match nextCollides c (c.BSSList e.trackListIndex) e.nextEventTSF with
      | none => .fault
      | some true => .next (dropHead (markRemoved c s e.trackListIndex) h)
      | some false => putOff c s h (u64 (e.nextEventTSF + c.timeToStartInAdvance + 1))
  else putOff c s h (u64 (s.earliestTSFToInsert + c.timeToStartInAdvance))

/-- What is left to do behind the second loop. -/
def finish (c : Ctx) (s : Sys) : Sys :=
  { s with
    spsScanDuration :=
      u64 (s.earliestTSFToInsert - guardFromLastBss - c.currentTSF) % 2 ^ 32 / 1000 + 1 }

/-- The second loop of `scanMngrAddSPSChannels`. -/
def spsPass (c : Ctx) (s : Sys) : Pass Sys Sys :=
  if 0 < s.nextEventArraySize ∧ s.channelEntry.length < maxNumOfSpsChannelsPerCommand then
    match s.nextEventArrayHead with
    | none => .fault
    | some h => visitHead c s h
  else .exit (finish c s)

/-- The start of a call: the command has no channels, and the array is not initialised. -/
def start (scanBSSList : Slot → ScanBssEntry) (nextEventArray : Slot → SpsHelper)
    (spsScanDuration : ℕ) : Sys where
  scanBSSList := scanBSSList
  channelEntry := []
  latestTSFValue := 0
  spsScanDuration := spsScanDuration
  earliestTSFToInsert := 0
  nextEventArray := nextEventArray
  nextEventArrayHead := none
  nextEventArraySize := 0
  windows := []

def Ctx.slots (c : Ctx) : List Slot := (List.finRange 16).filter fun i => i.val < c.numOfEntries

/-- `scanMngrAddSPSChannels` up to the second loop. -/
def track (c : Ctx) (s : Sys) : Option Sys := do
  let s ← c.slots.foldlM (trackBss c) s
  some { s with earliestTSFToInsert := u64 (c.currentTSF + guardFromCurrentTSF) }

/-- `scanMngrAddSPSChannels` returns, and leaves `r`. -/
def AddsSpsChannels (c : Ctx) (s r : Sys) : Prop :=
  if 16 < c.numOfEntries then r = s
  else ∃ t, track c s = some t ∧ Returns (spsPass c) t r

/-!
## The links of the scheduled scan

* `linkNew_links`, `relinkHead_links`: a new node is linked, and the head is linked again,
  **without a node of the list lost or met twice**, and the walk for its place comes to its end.

The list stays sorted by the events as well, but nothing of what the command promises rests on it.
-/

section Links

def links (nextEventArray : Slot → SpsHelper) (i : Slot) : Option Slot :=
  (nextEventArray i).nextAPIndex

/-- The list goes through these nodes. -/
structure Chain (s : Sys) (l : List Slot) : Prop where
  linked : Linked (links s.nextEventArray) s.nextEventArrayHead l
  size : s.nextEventArraySize = l.length

def SameEvents (a a' : Slot → SpsHelper) : Prop :=
  ∀ n, (a' n).nextEventTSF = (a n).nextEventTSF ∧ (a' n).trackListIndex = (a n).trackListIndex

variable {a : Slot → SpsHelper} {s : Sys} {l : List Slot} {i j h n : Slot} {p : Option Slot}
  {t fuel : ℕ}

theorem SameEvents.update (x : Option Slot) :
    SameEvents a (Function.update a i { a i with nextAPIndex := x }) := by
  intro n
  by_cases hn : n = i
  · subst hn
    rw [Function.update_self]
    exact ⟨rfl, rfl⟩
  · rw [Function.update_of_ne hn]
    exact ⟨rfl, rfl⟩

theorem SameEvents.trans {a' a'' : Slot → SpsHelper} (h : SameEvents a a') (h' : SameEvents a' a'') :
    SameEvents a a'' :=
  fun n => ⟨(h' n).1.trans (h n).1, (h' n).2.trans (h n).2⟩

theorem SameEvents.new {a' : Slot → SpsHelper} {x : SpsHelper}
    (h : SameEvents (Function.update a i x) a') :
    (a' i).nextEventTSF = x.nextEventTSF ∧ (a' i).trackListIndex = x.trackListIndex := by
  have hi := h i
  rwa [Function.update_self] at hi

theorem SameEvents.old {a' : Slot → SpsHelper} {x : SpsHelper}
    (h : SameEvents (Function.update a i x) a') (hn : n ≠ i) :
    (a' n).nextEventTSF = (a n).nextEventTSF ∧ (a' n).trackListIndex = (a n).trackListIndex := by
  have hi := h n
  rwa [Function.update_of_ne hn] at hi

theorem links_update (x : SpsHelper) :
    links (Function.update a i x) = Function.update (links a) i x.nextAPIndex := by
  funext n
  by_cases hn : n = i
  · rw [hn, links, Function.update_self, Function.update_self]
  · rw [links, Function.update_of_ne hn, Function.update_of_ne hn, links]

theorem links_putEvent (tsf : ℕ) (k : Slot) :
    links (Function.update a i { a i with nextEventTSF := tsf, trackListIndex := k }) = links a := by
  rw [links_update]
  exact Function.update_eq_self i (links a)

theorem links_linkAfter :
    links (linkAfter a i j) =
      Function.update (Function.update (links a) j (links a i)) i (some j) := by
  rw [linkAfter, links_update, links_update]
  rfl

theorem sameEvents_linkAfter (h : i ≠ j) : SameEvents a (linkAfter a i j) := by
  have hfirst : SameEvents a (Function.update a j { a j with nextAPIndex := (a i).nextAPIndex }) :=
    .update _
  refine hfirst.trans ?_
  have hi : Function.update a j { a j with nextAPIndex := (a i).nextAPIndex } i = a i :=
    Function.update_of_ne h _ _
  rw [linkAfter, ← hi]
  exact .update _

theorem findPlace_mem (hl : Linked (links a) (some i) l) (hfuel : l.length ≤ fuel) :
    ∃ k ∈ l, findPlace a t fuel i = some k := by
  induction fuel generalizing i l with
  | zero =>
    obtain rfl := List.eq_nil_of_length_eq_zero (Nat.le_zero.mp hfuel)
    cases hl
  | succ fuel ih =>
    cases hl with
    | @cons _ l hl =>
      rw [findPlace]
      rw [links] at hl
      cases hnext : (a i).nextAPIndex with
      | none => exact ⟨i, List.mem_cons_self, rfl⟩
      | some k =>
        rw [hnext] at hl
        dsimp only
        split
        · obtain ⟨m, hm, hfind⟩ := ih hl (Nat.le_of_succ_le_succ hfuel)
          exact ⟨m, List.mem_cons_of_mem _ hm, hfind⟩
        · exact ⟨i, List.mem_cons_self, rfl⟩

theorem linked_linkAfter (hl : Linked (links a) p l) (hi : i ∈ l) (hj : j ∉ l) :
    ∃ l', l'.Perm (j :: l) ∧ Linked (links (linkAfter a i j)) p l' := by
  rw [links_linkAfter]
  exact hl.insert_after hi hj

theorem linkNew_links (hc : Chain s l) (hn : n ∉ l) :
    ∃ a' p' l', linkNew s n = some { s with
        nextEventArray := a'
        nextEventArrayHead := p'
        nextEventArraySize := s.nextEventArraySize + 1 } ∧
      SameEvents s.nextEventArray a' ∧ Linked (links a') p' l' ∧ l'.Perm (n :: l) := by
  obtain ⟨hl, hsize⟩ := hc
  have hhead : Linked (links (Function.update s.nextEventArray n
      { s.nextEventArray n with nextAPIndex := s.nextEventArrayHead })) (some n) (n :: l) := by
    refine .cons ?_
    rw [links_update, Function.update_self]
    exact hl.congr fun m hm => Function.update_of_ne (by rintro rfl; exact hn hm) _ _
  rw [linkNew]
  cases hp : s.nextEventArrayHead with
  | none =>
    rw [linkHead]
    exact ⟨_, _, _, rfl, .update _, hhead, .refl _⟩
  | some h =>
    dsimp only
    split
    · rw [linkHead]
      exact ⟨_, _, _, rfl, .update _, hhead, .refl _⟩
    · rw [hp] at hl
      obtain ⟨i, hi, hfind⟩ := findPlace_mem (t := (s.nextEventArray n).nextEventTSF) hl hsize.ge
      obtain ⟨l', hperm, hl'⟩ := linked_linkAfter hl hi hn
      rw [hfind]
      refine ⟨_, some h, l', ?_, sameEvents_linkAfter (by rintro rfl; exact hn hi), hl', hperm⟩
      rw [← hp]
      rfl

theorem relinkHead_links (hc : Chain s (h :: l)) :
    ∃ a' p' l', relinkHead s h = some { s with
        nextEventArray := a'
        nextEventArrayHead := p' } ∧
      SameEvents s.nextEventArray a' ∧ Linked (links a') p' l' ∧ l'.Perm (h :: l) := by
  obtain ⟨hl, hsize⟩ := hc
  obtain ⟨hp, htail⟩ := hl.tail
  have hstay : ∃ a' p' l', some s = some { s with nextEventArray := a', nextEventArrayHead := p' } ∧
      SameEvents s.nextEventArray a' ∧ Linked (links a') p' l' ∧ l'.Perm (h :: l) :=
    ⟨_, _, _, rfl, fun _ => ⟨rfl, rfl⟩, hl, .refl _⟩
  have hh : h ∉ l := (List.nodup_cons.mp hl.nodup).1
  rw [relinkHead]
  split
  · next hsome =>
    rw [links] at htail
    cases hnext : (s.nextEventArray h).nextAPIndex with
    | none =>
      rw [hnext] at htail
      obtain rfl := htail.eq_nil_iff.mpr rfl
      rw [hsize] at hsome
      exact absurd hsome (Nat.lt_irrefl 1)
    | some k =>
      rw [hnext] at htail
      dsimp only
      split
      · have hfuel : l.length ≤ s.nextEventArraySize := by
          rw [hsize]
          exact Nat.le_succ _
        obtain ⟨i, hi, hfind⟩ :=
          findPlace_mem (t := (s.nextEventArray h).nextEventTSF) htail hfuel
        obtain ⟨l', hperm, hl'⟩ := linked_linkAfter htail hi hh
        rw [hfind]
        exact ⟨_, some k, l', rfl, sameEvents_linkAfter (by rintro rfl; exact hh hi), hl', hperm⟩
      · exact hstay
  · exact hstay

end Links

end ArchosGpl.Wlan.ScanMngr.Sps
