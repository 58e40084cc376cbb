import ArchosGpl.Lib.Periodic
import ArchosGpl.Wlan.ScanMngr.SpsEvents
import Mathlib.Data.Prod.Lex

/-!
# The scheduled scan command

* `sps_channels_right`: **`scanMngrAddSPSChannels` returns, with the command that it is to build**,
  in every run of its loops in which no step reaches a defect (`StartFits`, `PassFits`).
* `drift_ends_no_loop`: an AP whose TSF has become that of the current BSS keeps its drift, which
  may bring its event back to the time asked for **again and again**.

`Books` says where the tracked APs are: in a node of the list, in the command or marked. The second
loop ends because a pass takes the head off the list or puts its event off (`putOff_keeps`).
-/

open Function (update update_of_ne update_self)

namespace ArchosGpl.Wlan.ScanMngr.Sps

open Lib

variable {c : Ctx} {s s' : Sys} {w : Window} {scan : Slot → ScanBssEntry} {a' : Slot → SpsHelper} {p' : Option Slot}
  {todo l l' : List Slot} {h i j n : Slot} {o k t : ℕ}

/-! ## What becomes of the APs -/

/-- An AP of the track list on the band. -/
def Tracked (c : Ctx) (i : Slot) : Prop := i.val < c.numOfEntries ∧ (c.BSSList i).band = c.band

instance (c : Ctx) (i : Slot) : Decidable (Tracked c i) :=
  inferInstanceAs (Decidable (_ ∧ _))

def apOf (s : Sys) (n : Slot) : Slot := (s.nextEventArray n).trackListIndex

theorem markRemoved_self :
    ((markRemoved c s i).scanBSSList i).trackFailCount = (c.maxTrackFailures + 1) % 256 := by
  unfold markRemoved
  dsimp only
  rw [update_self]

theorem markRemoved_of_ne (h : j ≠ i) : (markRemoved c s i).scanBSSList j = s.scanBSSList j :=
  update_of_ne h _ _

/-- Where the APs are: in a node of the list, in the command, marked to be removed, or to be looked
at yet. -/
structure Books (c : Ctx) (todo l : List Slot) (s : Sys) : Prop where
  once : (l.map (apOf s) ++ s.windows.map Window.trackListIndex ++ todo).Nodup
  ofBand : ∀ w ∈ s.windows, Tracked c w.trackListIndex
  listed : ∀ n ∈ l, Tracked c (apOf s n)
  accounted : ∀ i, Tracked c i → i ∈ l.map (apOf s) ∨ i ∈ s.windows.map Window.trackListIndex ∨
    c.maxTrackFailures < (s.scanBSSList i).trackFailCount ∨ i ∈ todo
  timed : ∀ n ∈ l, Timed (c.BSSList (apOf s n)) (s.scanBSSList (apOf s n)) c.timeToStartInAdvance
    (s.nextEventArray n).nextEventTSF

namespace Books

theorem notMem_list (hb : Books c (i :: todo) l s) (hn : n ∈ l) : apOf s n ≠ i := by
  rintro rfl
  have hdisj := (List.nodup_append.mp hb.once).2.2
  exact hdisj _ (List.mem_append_left _ (List.mem_map_of_mem hn)) _ List.mem_cons_self rfl

theorem skip (hb : Books c (i :: todo) l s) (hi : ¬ Tracked c i) : Books c todo l s where
  once := hb.once.sublist (List.Sublist.append_left (List.sublist_cons_self i todo) _)
  ofBand := hb.ofBand
  listed := hb.listed
  accounted := by
    intro j hj
    obtain hl | hw | hm | ht := hb.accounted j hj
    · exact .inl hl
    · exact .inr (.inl hw)
    · exact .inr (.inr (.inl hm))
    · obtain rfl | ht := List.mem_cons.mp ht
      · exact absurd hj hi
      · exact .inr (.inr (.inr ht))
  timed := hb.timed

theorem take (hb : Books c todo (h :: l) s) : Books c (apOf s h :: todo) l s where
  once := List.perm_middle.nodup_iff.mpr hb.once
  ofBand := hb.ofBand
  listed := fun n hn => hb.listed n (List.mem_cons_of_mem h hn)
  accounted := by
    intro j hj
    obtain hl | hw | hm | ht := hb.accounted j hj
    · obtain rfl | hl := List.mem_cons.mp hl
      · exact .inr (.inr (.inr List.mem_cons_self))
      · exact .inl hl
    · exact .inr (.inl hw)
    · exact .inr (.inr (.inl hm))
    · exact .inr (.inr (.inr (List.mem_cons_of_mem _ ht)))
  timed := fun n hn => hb.timed n (List.mem_cons_of_mem h hn)

theorem mark (hb : Books c (i :: todo) l s) (hmax : c.maxTrackFailures < 255) :
    Books c todo l (markRemoved c s i) where
  once := hb.once.sublist (List.Sublist.append_left (List.sublist_cons_self i todo) _)
  ofBand := hb.ofBand
  listed := hb.listed
  accounted := by
    intro j hj
    by_cases hji : j = i
    · refine .inr (.inr (.inl ?_))
      rw [hji, markRemoved_self]
      omega
    · obtain hl | hw | hm | ht := hb.accounted j hj
      · exact .inl hl
      · exact .inr (.inl hw)
      · refine .inr (.inr (.inl ?_))
        rwa [markRemoved_of_ne hji]
      · exact .inr (.inr (.inr ((List.mem_cons.mp ht).resolve_left hji)))
  timed := by
    intro n hn
    have htimed := hb.timed n hn
    rwa [← markRemoved_of_ne (c := c) (hb.notMem_list hn)] at htimed

theorem window (hb : Books c (i :: todo) l s) (hi : Tracked c i) (hw : w.trackListIndex = i)
    (harr : s'.nextEventArray = s.nextEventArray) (hwin : s'.windows = s.windows ++ [w])
    (hscan : ∀ j ≠ i, s'.scanBSSList j = s.scanBSSList j) : Books c todo l s' := by
  have hap : apOf s' = apOf s := by
    funext n
    rw [apOf, harr, apOf]
  have hidx : s'.windows.map Window.trackListIndex =
      s.windows.map Window.trackListIndex ++ [i] := by
    rw [hwin, List.map_append, List.map_singleton, hw]
  refine ⟨?_, ?_, hap ▸ hb.listed, fun j hj => ?_, fun n hn => ?_⟩
  · rw [hap, hidx]
    have honce := hb.once
    rwa [← List.append_assoc, List.append_assoc, List.singleton_append]
  · rw [hwin]
    refine List.forall_mem_append.mpr ⟨hb.ofBand, List.forall_mem_singleton.mpr ?_⟩
    rwa [hw]
  · rw [hap, hidx]
    by_cases hji : j = i
    · exact .inr (.inl (List.mem_append_right _ (List.mem_singleton.mpr hji)))
    · rw [hscan j hji]
      obtain hl | hw | hm | ht := hb.accounted j hj
      · exact .inl hl
      · exact .inr (.inl (List.mem_append_left _ hw))
      · exact .inr (.inr (.inl hm))
      · exact .inr (.inr (.inr ((List.mem_cons.mp ht).resolve_left hji)))
  · rw [hap, harr, hscan _ (hb.notMem_list hn)]
    exact hb.timed n hn

theorem put (hb : Books c (i :: todo) l s) (hi : Tracked c i) (hn : n ∉ l)
    (ht : (remoteTSF (c.BSSList i) (s.scanBSSList i) t : ℤ) =
      remoteTSF (c.BSSList i) (s.scanBSSList i) o +
        advance (c.BSSList i) (s.scanBSSList i) o)
    (hscan : s'.scanBSSList =
      update s.scanBSSList i (noteDelta (c.BSSList i) (s.scanBSSList i)))
    (harr : SameEvents (update s.nextEventArray n { s.nextEventArray n with
      nextEventTSF := u64 (t - c.timeToStartInAdvance), trackListIndex := i }) s'.nextEventArray)
    (hwin : s'.windows = s.windows) (hperm : l'.Perm (n :: l)) : Books c todo l' s' := by
  have hnew : _ ∧ apOf s' n = i := harr.new
  have hold (m : Slot) (hm : m ∈ l) : _ ∧ apOf s' m = apOf s m :=
    harr.old (by rintro rfl; exact hn hm)
  have hidx : (l'.map (apOf s')).Perm (i :: l.map (apOf s)) := by
    refine (hperm.map _).trans (.of_eq ?_)
    rw [List.map_cons, hnew.2, List.map_congr_left fun m hm => (hold m hm).2]
  refine ⟨?_, hwin ▸ hb.ofBand, fun m hm => ?_, fun j hj => ?_, fun m hm => ?_⟩
  · rw [hwin]
    refine (((hidx.append_right _).append_right _).trans ?_).nodup_iff.mpr hb.once
    exact List.perm_middle.symm
  · obtain rfl | hm := List.mem_cons.mp (hperm.subset hm)
    · rwa [hnew.2]
    · rw [(hold m hm).2]
      exact hb.listed m hm
  · rw [hwin, hidx.mem_iff, hscan]
    by_cases hji : j = i
    · exact .inl (hji ▸ List.mem_cons_self)
    · rw [update_of_ne hji]
      obtain hl | hw | hm | ht := hb.accounted j hj
      · exact .inl (List.mem_cons_of_mem _ hl)
      · exact .inr (.inl hw)
      · exact .inr (.inr (.inl hm))
      · exact .inr (.inr (.inr ((List.mem_cons.mp ht).resolve_left hji)))
  · rw [hscan]
    obtain rfl | hm := List.mem_cons.mp (hperm.subset hm)
    · rw [hnew.1, hnew.2, update_self]
      exact timed_of_call ht
    · rw [(hold m hm).1, (hold m hm).2, update_of_ne (hb.notMem_list hm)]
      exact hb.timed m hm

end Books

/-! ## The first loop -/

/-- At the start of a call nothing is wrong with the guard time, with the first event of an AP, or
with the mark of an AP on an invalid channel. -/
structure StartFits (c : Ctx) (scan : Slot → ScanBssEntry) : Prop where
  guard : c.currentTSF + guardFromCurrentTSF < 2 ^ 64
  event : ∀ i, Tracked c i → c.channelValidity c.band (c.BSSList i).channel = true →
    CallFits (c.BSSList i) (scan i) (c.currentTSF + guardFromCurrentTSF + c.timeToStartInAdvance)
  mark : ∀ i, Tracked c i → c.channelValidity c.band (c.BSSList i).channel = false →
    c.maxTrackFailures < 255

/-- In the first loop the nodes are taken from the array in order. -/
structure Tracking (c : Ctx) (scan : Slot → ScanBssEntry) (todo l : List Slot) (s : Sys) : Prop where
  books : Books c todo l s
  chain : Chain s l
  noWindows : s.windows = []
  noChannels : s.channelEntry = []
  below : ∀ n ∈ l, n.val < s.nextEventArraySize
  room : s.nextEventArraySize + todo.length ≤ 16
  untouched : ∀ i ∈ todo, s.scanBSSList i = scan i

theorem putEvent_eq (n : Slot) (hcall : CallFits (c.BSSList i) (s.scanBSSList i) o) :
    ∃ (t : ℕ) (s₁ : Sys), putEvent c s n i o = some s₁ ∧
      s₁ = { s with
        scanBSSList := update s.scanBSSList i (noteDelta (c.BSSList i) (s.scanBSSList i))
        nextEventArray := update s.nextEventArray n { s.nextEventArray n with
          nextEventTSF := u64 (t - c.timeToStartInAdvance), trackListIndex := i } } ∧
      (t : ℤ) = o + advance (c.BSSList i) (s.scanBSSList i) o ∧
      (remoteTSF (c.BSSList i) (s.scanBSSList i) t : ℤ) =
        remoteTSF (c.BSSList i) (s.scanBSSList i) o +
          advance (c.BSSList i) (s.scanBSSList i) o := by
  obtain ⟨t, hcalc, ht, hremote⟩ := next_event hcall
  exact ⟨t, _, by rw [putEvent, hcalc]; rfl, rfl, ht, hremote⟩

theorem Tracking.step (ht : Tracking c scan (i :: todo) l s) (hi : i.val < c.numOfEntries)
    (hf : StartFits c scan) :
    ∃ s' l', trackBss c s i = some s' ∧ Tracking c scan todo l' s' := by
  obtain ⟨hb, hchain, hnw, hnc, hbelow, hroom, hun⟩ := ht
  obtain ⟨hself, hun⟩ := List.forall_mem_cons.mp hun
  rw [List.length_cons] at hroom
  have hdisj : i ∉ todo := (List.nodup_cons.mp (List.nodup_append.mp hb.once).2.1).1
  rw [trackBss]
  by_cases hband : (c.BSSList i).band = c.band
  · rw [if_pos hband]
    cases hvalid : c.channelValidity c.band (c.BSSList i).channel with
    | false =>
      refine ⟨_, l, rfl, hb.mark (hf.mark i ⟨hi, hband⟩ hvalid), ⟨hchain.linked, hchain.size⟩, hnw,
        hnc, hbelow, ?_, fun j hj => ?_⟩
      · exact Nat.le_trans (Nat.add_le_add_left (Nat.le_succ _) _) hroom
      · rw [markRemoved_of_ne (by rintro rfl; exact hdisj hj)]
        exact hun j hj
    | true =>
      have hcall := hself ▸ hf.event i ⟨hi, hband⟩ hvalid
      have hinit : u64 (c.currentTSF + guardFromCurrentTSF + c.timeToStartInAdvance) =
          c.currentTSF + guardFromCurrentTSF + c.timeToStartInAdvance := by
        exact_mod_cast u64_natCast hcall.init_lt
      have hval : (Fin.ofNat 16 s.nextEventArraySize).val = s.nextEventArraySize :=
        Nat.mod_eq_of_lt (by omega)
      have hn : Fin.ofNat 16 s.nextEventArraySize ∉ l := by
        intro hmem
        exact Nat.lt_irrefl _ (hval ▸ hbelow _ hmem)
      obtain ⟨t, s₁, hput, hs₁, -, hremote⟩ :=
        putEvent_eq (s := noteLatest s i) (Fin.ofNat 16 s.nextEventArraySize) hcall
      have hchain₁ : Chain s₁ l := by
        rw [hs₁]
        exact ⟨(links_putEvent _ _).symm ▸ hchain.linked, hchain.size⟩
      obtain ⟨a', p', l', hlink, hsame, hlinked, hperm⟩ := linkNew_links hchain₁ hn
      dsimp only
      rw [hinit, hput, Option.bind_eq_bind, Option.bind_some, hlink]
      subst hs₁
      refine ⟨_, l', rfl, hb.put ⟨hi, hband⟩ hn hremote rfl hsame rfl hperm, ⟨hlinked, ?_⟩, hnw, hnc,
        fun m hm => ?_, ?_, fun j hj => ?_⟩
      · exact (congrArg (· + 1) hchain.size).trans hperm.length_eq.symm
      · obtain rfl | hm := List.mem_cons.mp (hperm.subset hm)
        · exact Nat.lt_succ_of_le (Nat.le_of_eq hval)
        · exact Nat.lt_succ_of_lt (hbelow m hm)
      · dsimp only [noteLatest]
        omega
      · exact (update_of_ne (by rintro rfl; exact hdisj hj) _ _).trans (hun j hj)
  · rw [if_neg hband]
    refine ⟨s, l, rfl, hb.skip fun h => hband h.2, hchain, hnw, hnc, hbelow, ?_, hun⟩
    exact Nat.le_trans (Nat.add_le_add_left (Nat.le_succ _) _) hroom

theorem Tracking.loop (ht : Tracking c scan todo l s) (htodo : ∀ i ∈ todo, i.val < c.numOfEntries)
    (hf : StartFits c scan) :
    ∃ s' l', todo.foldlM (trackBss c) s = some s' ∧ Tracking c scan [] l' s' := by
  induction todo generalizing s l with
  | nil => exact ⟨s, l, rfl, ht⟩
  | cons i todo ih =>
    obtain ⟨hi, htodo⟩ := List.forall_mem_cons.mp htodo
    obtain ⟨s₁, l₁, hstep, ht₁⟩ := ht.step hi hf
    obtain ⟨s', l', hloop, ht'⟩ := ih ht₁ htodo
    exact ⟨s', l', by rw [List.foldlM_cons, hstep]; exact hloop, ht'⟩

theorem tracking_start (c : Ctx) (scan : Slot → ScanBssEntry) (a : Slot → SpsHelper) (k : ℕ) :
    Tracking c scan c.slots [] (start scan a k) where
  books :=
    { once := by
        have hslots : c.slots.Nodup := (List.nodup_finRange 16).filter _
        exact hslots
      ofBand := fun _ h => nomatch h
      listed := fun _ h => nomatch h
      accounted := fun i hi =>
        .inr (.inr (.inr (List.mem_filter.mpr ⟨List.mem_finRange i, decide_eq_true hi.1⟩)))
      timed := fun _ h => nomatch h }
  chain := ⟨.nil, rfl⟩
  noWindows := rfl
  noChannels := rfl
  below := fun _ h => nomatch h
  room := by
    rw [start, Nat.zero_add]
    exact (List.length_filter_le _ _).trans_eq List.length_finRange
  untouched := fun _ _ => rfl

/-! ## The second loop -/

/-- What the command promises so far. -/
structure Command (c : Ctx) (s : Sys) : Prop where
  entries : s.channelEntry = s.windows.map (entryOf c)
  few : s.channelEntry.length ≤ maxNumOfSpsChannelsPerCommand
  guard : c.currentTSF + guardFromCurrentTSF ≤ s.earliestTSFToInsert
  span : s.earliestTSFToInsert < c.currentTSF + guardFromLastBss + 2 ^ 32
  after : ∀ w ∈ s.windows, c.currentTSF + guardFromCurrentTSF < w.start
  before : ∀ w ∈ s.windows, w.start + c.scanDuration + guardFromLastBss ≤ s.earliestTSFToInsert
  apart : s.windows.Pairwise fun v w => v.start + c.scanDuration + guardFromLastBss < w.start
  clear : ∀ w ∈ s.windows, collides c w.start = some false

/-- What becomes of an event that is late enough does not reach a defect: no check divides by zero,
no window or mark wraps, and one that stays in the way may be put off to the next beacon. -/
def EventFits (c : Ctx) (b : BssEntry) (e : ScanBssEntry) (tsf : ℕ) :
    Option Bool → Option Bool → Prop
  | none, _ => False
  | some false, _ =>
    tsf + c.scanDuration + guardFromLastBss < 2 ^ 64 ∧ tsf + c.scanDuration < c.currentTSF + 2 ^ 32
  | some true, none => False
  | some true, some true => c.maxTrackFailures < 255
  | some true, some false => FitsNext b e (tsf + c.timeToStartInAdvance + 1)

instance (c : Ctx) (b : BssEntry) (e : ScanBssEntry) (tsf : ℕ) :
    ∀ col next, Decidable (EventFits c b e tsf col next)
  | none, _ => .isFalse id
  | some false, _ => inferInstanceAs (Decidable (_ ∧ _))
  | some true, none => .isFalse id
  | some true, some true => inferInstanceAs (Decidable (_ < _))
  | some true, some false => inferInstanceAs (Decidable (FitsNext _ _ _))

/-- A pass for the head `h` does not reach a defect. -/
def PassFits (c : Ctx) (s : Sys) (h : Slot) : Prop :=
  if s.earliestTSFToInsert < (s.nextEventArray h).nextEventTSF then
    EventFits c (c.BSSList (apOf s h)) (s.scanBSSList (apOf s h)) (s.nextEventArray h).nextEventTSF
      (collides c (s.nextEventArray h).nextEventTSF)
      (nextCollides c (c.BSSList (apOf s h)) (s.nextEventArray h).nextEventTSF)
  else
    FitsLater (c.BSSList (apOf s h)) (s.scanBSSList (apOf s h))
      (s.earliestTSFToInsert + c.timeToStartInAdvance)

instance (c : Ctx) (s : Sys) (h : Slot) : Decidable (PassFits c s h) := by
  unfold PassFits
  infer_instance

/-- Whether a scan may start then: not at all, not before it is put off to the next beacon, or so. -/
def phase (c : Ctx) (earliest tsf : ℕ) : ℕ :=
  if tsf ≤ earliest then 2 else if collides c tsf = some false then 0 else 1

/-- How often an event may be put off yet. -/
def waits (c : Ctx) (s : Sys) (n : Slot) : ℕ :=
  3 * restless (c.BSSList (apOf s n)) (s.scanBSSList (apOf s n)) +
    phase c s.earliestTSFToInsert (s.nextEventArray n).nextEventTSF

/-- What falls in the second loop: the length of the list, then the sum of its waits. -/
def rank (c : Ctx) (s : Sys) (l : List Slot) : ℕ ×ₗ ℕ := toLex (l.length, (l.map (waits c s)).sum)

theorem phase_lt (c : Ctx) (earliest tsf : ℕ) : phase c earliest tsf < 3 := by
  unfold phase
  split
  · decide
  · split <;> decide

theorem putOff_keeps (hb : Books c [] (h :: l) s) (hchain : Chain s (h :: l))
    (hcall : CallFits (c.BSSList (apOf s h)) (s.scanBSSList (apOf s h)) o)
    (hphase : restless (c.BSSList (apOf s h)) (s.scanBSSList (apOf s h)) = 0 →
      phase c s.earliestTSFToInsert (u64 (o + advance (c.BSSList (apOf s h))
        (s.scanBSSList (apOf s h)) o - c.timeToStartInAdvance)) <
      phase c s.earliestTSFToInsert (s.nextEventArray h).nextEventTSF) :
    ∃ s' l', putOff c s h o = .next s' ∧ Books c [] l' s' ∧ Chain s' l' ∧
      rank c s' l' < rank c s (h :: l) ∧ s'.windows = s.windows ∧
      s'.channelEntry = s.channelEntry ∧ s'.earliestTSFToInsert = s.earliestTSFToInsert := by
  have hh : h ∉ l := (List.nodup_cons.mp hchain.linked.nodup).1
  obtain ⟨t, s₁, hput, hs₁, ht, hremote⟩ := putEvent_eq h hcall
  have hchain₁ : Chain s₁ (h :: l) := by
    rw [hs₁]
    exact ⟨(links_putEvent _ _).symm ▸ hchain.linked, hchain.size⟩
  obtain ⟨a', p', l', hlink, hsame, hlinked, hperm⟩ := relinkHead_links hchain₁
  subst hs₁
  have hoff : putOff c s h o = .next { s with
      scanBSSList := update s.scanBSSList (apOf s h)
        (noteDelta (c.BSSList (apOf s h)) (s.scanBSSList (apOf s h)))
      nextEventArray := a'
      nextEventArrayHead := p' } := by
    rw [putOff, ← apOf, hput]
    dsimp only
    rw [hlink]
  refine ⟨_, l', hoff, hb.take.put (hb.listed h List.mem_cons_self) hh hremote rfl hsame rfl hperm,
    ⟨hlinked, hchain.size.trans hperm.length_eq.symm⟩, ?_, rfl, rfl, rfl⟩
  refine Prod.Lex.toLex_lt_toLex.mpr (.inr ⟨hperm.length_eq, ?_⟩)
  rw [(hperm.map _).sum_eq, List.map_cons, List.sum_cons, List.map_cons, List.sum_cons]
  refine Nat.add_lt_add_of_lt_of_le ?_ (Nat.le_of_eq (congrArg List.sum ?_))
  · obtain ⟨htsf, hap⟩ := hsame.new
    have hnoted := (hb.timed h List.mem_cons_self).noted
    have hphase' := phase_lt c s.earliestTSFToInsert (a' h).nextEventTSF
    change 3 * restless (c.BSSList (a' h).trackListIndex) (update s.scanBSSList (apOf s h)
      (noteDelta (c.BSSList (apOf s h)) (s.scanBSSList (apOf s h))) (a' h).trackListIndex) +
        phase c s.earliestTSFToInsert (a' h).nextEventTSF < _
    rw [hap, update_self, waits]
    dsimp only
    by_cases hrest : restless (c.BSSList (apOf s h)) (s.scanBSSList (apOf s h)) = 0
    · rw [restless_noteDelta_eq_zero hnoted hrest, hrest, htsf, ht]
      exact Nat.add_lt_add_left (hphase hrest) _
    · have hless := restless_noteDelta hnoted hrest
      omega
  · refine List.map_congr_left fun m hm => ?_
    obtain ⟨htsf, hap⟩ := hsame.old (show m ≠ h by rintro rfl; exact hh hm)
    change 3 * restless (c.BSSList (a' m).trackListIndex) (update s.scanBSSList (apOf s h)
      (noteDelta (c.BSSList (apOf s h)) (s.scanBSSList (apOf s h))) (a' m).trackListIndex) +
        phase c s.earliestTSFToInsert (a' m).nextEventTSF = _
    have hne : (s.nextEventArray m).trackListIndex ≠ apOf s h := hb.take.notMem_list hm
    rw [htsf, hap, update_of_ne hne]
    rfl

theorem rank_lt_of_tail (c : Ctx) (s s' : Sys) (h : Slot) (l : List Slot) :
    rank c s' l < rank c s (h :: l) :=
  Prod.Lex.toLex_lt_toLex.mpr (.inl (Nat.lt_succ_self _))

def headWindow (s : Sys) (h : Slot) : Window := ⟨apOf s h, (s.nextEventArray h).nextEventTSF⟩

theorem insertHead_keeps (hb : Books c [] (h :: l) s) (hchain : Chain s (h :: l)) (hc : Command c s)
    (hfew : s.channelEntry.length < maxNumOfSpsChannelsPerCommand)
    (hlate : s.earliestTSFToInsert < (s.nextEventArray h).nextEventTSF)
    (hclear : collides c (s.nextEventArray h).nextEventTSF = some false)
    (hend : (s.nextEventArray h).nextEventTSF + c.scanDuration + guardFromLastBss < 2 ^ 64)
    (hspan : (s.nextEventArray h).nextEventTSF + c.scanDuration < c.currentTSF + 2 ^ 32) :
    Books c [] l (insertHead c s h) ∧ Chain (insertHead c s h) l ∧ Command c (insertHead c s h) := by
  have hearliest : (insertHead c s h).earliestTSFToInsert =
      (s.nextEventArray h).nextEventTSF + c.scanDuration + guardFromLastBss := by
    exact_mod_cast u64_natCast hend
  have hwin : (insertHead c s h).windows = s.windows ++ [headWindow s h] := rfl
  refine ⟨hb.take.window (hb.listed h List.mem_cons_self) rfl rfl hwin fun j hj => ?_,
    ⟨hchain.linked.tail.2, congrArg (· - 1) hchain.size⟩, ?_⟩
  · exact update_of_ne hj _ _
  · have hguard := hc.guard
    refine ⟨?_, ?_, ?_, ?_, ?_, ?_, ?_, ?_⟩
    · rw [hwin, List.map_append, ← hc.entries]
      rfl
    · have hlen : (insertHead c s h).channelEntry.length = s.channelEntry.length + 1 :=
        List.length_append
      exact hlen ▸ hfew
    · rw [hearliest]
      omega
    · rw [hearliest]
      omega
    · rw [hwin]
      exact List.forall_mem_append.mpr ⟨hc.after, List.forall_mem_singleton.mpr
        (Nat.lt_of_le_of_lt hguard hlate)⟩
    · rw [hwin, hearliest]
      refine List.forall_mem_append.mpr ⟨fun w hw => ?_, List.forall_mem_singleton.mpr le_rfl⟩
      have hw' := hc.before w hw
      omega
    · rw [hwin]
      refine List.pairwise_append.mpr ⟨hc.apart, List.pairwise_singleton _ _, fun v hv w hw => ?_⟩
      obtain rfl := List.mem_singleton.mp hw
      exact Nat.lt_of_le_of_lt (hc.before v hv) hlate
    · rw [hwin]
      exact List.forall_mem_append.mpr ⟨hc.clear, List.forall_mem_singleton.mpr hclear⟩

theorem Command.congr (hc : Command c s) (hwin : s'.windows = s.windows)
    (hentry : s'.channelEntry = s.channelEntry)
    (hearliest : s'.earliestTSFToInsert = s.earliestTSFToInsert) : Command c s' := by
  obtain ⟨hentries, hfew, hguard, hspan, hafter, hbefore, hapart, hclear⟩ := hc
  constructor <;> simpa only [hwin, hentry, hearliest]

/-- What `scanMngrAddSPSChannels` is to do. -/
structure SpsRight (c : Ctx) (r : Sys) : Prop where
  entries : r.channelEntry = r.windows.map (entryOf c)
  once : (r.windows.map Window.trackListIndex).Nodup
  ofBand : ∀ w ∈ r.windows, Tracked c w.trackListIndex
  few : r.channelEntry.length ≤ maxNumOfSpsChannelsPerCommand
  after : ∀ w ∈ r.windows, c.currentTSF + guardFromCurrentTSF < w.start
  apart : r.windows.Pairwise fun v w => v.start + c.scanDuration + guardFromLastBss < w.start
  clear : ∀ w ∈ r.windows, collides c w.start = some false
  covers : ∀ w ∈ r.windows, w.start + c.scanDuration ≤ c.currentTSF + 1000 * r.spsScanDuration
  accounted : ∀ i, Tracked c i → i ∈ r.windows.map Window.trackListIndex ∨
    c.maxTrackFailures < (r.scanBSSList i).trackFailCount ∨
    r.channelEntry.length = maxNumOfSpsChannelsPerCommand ∧ ∃ l, Chain r l ∧ i ∈ l.map (apOf r)

theorem finish_right (hb : Books c [] l s) (hchain : Chain s l) (hc : Command c s)
    (hend : ¬ (0 < s.nextEventArraySize ∧ s.channelEntry.length < maxNumOfSpsChannelsPerCommand)) :
    SpsRight c (finish c s) where
  entries := hc.entries
  once := (List.nodup_append.mp (List.nodup_append.mp hb.once).1).2.1
  ofBand := hb.ofBand
  few := hc.few
  after := hc.after
  apart := hc.apart
  clear := hc.clear
  covers := by
    intro w hw
    have hbefore := hc.before w hw
    have hguard := hc.guard
    have hspan := hc.span
    have h2000 : guardFromLastBss = 2000 := rfl
    have h50000 : guardFromCurrentTSF = 50000 := rfl
    have hdur : (finish c s).spsScanDuration =
        (s.earliestTSFToInsert - guardFromLastBss - c.currentTSF) / 1000 + 1 := by
      have hword := u64_natCast
        (n := s.earliestTSFToInsert - guardFromLastBss - c.currentTSF) (by omega)
      have hcast : ((s.earliestTSFToInsert - guardFromLastBss - c.currentTSF : ℕ) : ℤ) =
          s.earliestTSFToInsert - guardFromLastBss - c.currentTSF := by omega
      rw [finish]
      rw [← hcast, hword, Nat.mod_eq_of_lt (by omega)]
    omega
  accounted := by
    intro i hi
    obtain hl | hw | hm | ht := hb.accounted i hi
    · refine .inr (.inr ⟨?_, l, ⟨hchain.linked, hchain.size⟩, hl⟩)
      have hpos : 0 < s.nextEventArraySize := by
        rw [hchain.size, ← List.length_map (apOf s)]
        exact List.length_pos_of_mem hl
      exact Nat.le_antisymm hc.few (Nat.le_of_not_lt fun hlt => hend ⟨hpos, hlt⟩)
    · exact .inl hw
    · exact .inr (.inl hm)
    · cases ht

theorem Books.dropHead (hb : Books c todo l s) (h : Slot) : Books c todo l (dropHead s h) :=
  ⟨hb.once, hb.ofBand, hb.listed, hb.accounted, hb.timed⟩

theorem phase_later (hb : Books c [] (h :: l) s)
    (hearly : (s.nextEventArray h).nextEventTSF ≤ s.earliestTSFToInsert)
    (hfits : FitsLater (c.BSSList (apOf s h)) (s.scanBSSList (apOf s h))
      (s.earliestTSFToInsert + c.timeToStartInAdvance))
    (hrest : restless (c.BSSList (apOf s h)) (s.scanBSSList (apOf s h)) = 0) :
    phase c s.earliestTSFToInsert (u64 ((s.earliestTSFToInsert + c.timeToStartInAdvance : ℕ) +
        advance (c.BSSList (apOf s h)) (s.scanBSSList (apOf s h))
          (s.earliestTSFToInsert + c.timeToStartInAdvance) - c.timeToStartInAdvance)) <
      phase c s.earliestTSFToInsert (s.nextEventArray h).nextEventTSF := by
  have hpos := advance_pos hfits (hb.timed h List.mem_cons_self).noted hrest
  have hlt := hfits.local_lt
  have hle := advance_le (b := c.BSSList (apOf s h)) (e := s.scanBSSList (apOf s h))
    (o := s.earliestTSFToInsert + c.timeToStartInAdvance)
  have hval := u64_eq (x := (s.earliestTSFToInsert + c.timeToStartInAdvance : ℕ) +
    advance (c.BSSList (apOf s h)) (s.scanBSSList (apOf s h))
      (s.earliestTSFToInsert + c.timeToStartInAdvance) - c.timeToStartInAdvance)
    (by omega) (by omega)
  rw [phase, phase, if_pos hearly, if_neg (by omega)]
  split <;> decide

theorem phase_next (hb : Books c [] (h :: l) s)
    (hlate : s.earliestTSFToInsert < (s.nextEventArray h).nextEventTSF)
    (hcol : collides c (s.nextEventArray h).nextEventTSF = some true)
    (hnext : nextCollides c (c.BSSList (apOf s h)) (s.nextEventArray h).nextEventTSF = some false)
    (hfits : FitsNext (c.BSSList (apOf s h)) (s.scanBSSList (apOf s h))
      ((s.nextEventArray h).nextEventTSF + c.timeToStartInAdvance + 1))
    (hrest : restless (c.BSSList (apOf s h)) (s.scanBSSList (apOf s h)) = 0) :
    phase c s.earliestTSFToInsert
        (u64 (((s.nextEventArray h).nextEventTSF + c.timeToStartInAdvance + 1 : ℕ) +
          advance (c.BSSList (apOf s h)) (s.scanBSSList (apOf s h))
            ((s.nextEventArray h).nextEventTSF + c.timeToStartInAdvance + 1) -
          c.timeToStartInAdvance)) <
      phase c s.earliestTSFToInsert (s.nextEventArray h).nextEventTSF := by
  have hadv := (hb.timed h List.mem_cons_self).advance hfits hrest
  have hlt := hfits.local_lt
  have hle := advance_le (b := c.BSSList (apOf s h)) (e := s.scanBSSList (apOf s h))
    (o := (s.nextEventArray h).nextEventTSF + c.timeToStartInAdvance + 1)
  have hsum : (((s.nextEventArray h).nextEventTSF + c.timeToStartInAdvance + 1 : ℕ) : ℤ) +
      ((c.BSSList (apOf s h)).beaconIntervalUsec - 1) - c.timeToStartInAdvance =
      (s.nextEventArray h).nextEventTSF + (c.BSSList (apOf s h)).beaconIntervalUsec := by
    push_cast
    ring
  have hval := u64_eq (x := (s.nextEventArray h).nextEventTSF +
    (c.BSSList (apOf s h)).beaconIntervalUsec) (by omega) (by omega)
  have hclear : collides c (u64 ((s.nextEventArray h).nextEventTSF +
      (c.BSSList (apOf s h)).beaconIntervalUsec)) = some false := by
    rw [collides, u64_u64_add, add_right_comm]
    exact hnext
  rw [hadv, hsum, phase, phase, if_neg (by omega), if_pos hclear, if_neg (by omega),
    if_neg (by rw [hcol]; decide)]
  decide

/-- **A pass of the second loop**, which ends it or lowers the rank. -/
theorem spsPass_keeps (hb : Books c [] l s) (hchain : Chain s l) (hc : Command c s)
    (hfits : 0 < s.nextEventArraySize → s.channelEntry.length < maxNumOfSpsChannelsPerCommand →
      ∀ h, s.nextEventArrayHead = some h → PassFits c s h) :
    (∃ r, spsPass c s = .exit r ∧ SpsRight c r) ∨
      ∃ s' l', spsPass c s = .next s' ∧ rank c s' l' < rank c s l ∧
        Books c [] l' s' ∧ Chain s' l' ∧ Command c s' := by
  rw [spsPass]
  split
  · next hgo =>
    right
    cases l with
    | nil => exact absurd hgo.1 (hchain.size ▸ Nat.lt_irrefl 0)
    | cons h l =>
      have hhead := hchain.linked.tail.1
      have hpass := hfits hgo.1 hgo.2 h hhead
      rw [hhead]
      dsimp only
      rw [visitHead]
      unfold PassFits at hpass
      by_cases hlate : s.earliestTSFToInsert < (s.nextEventArray h).nextEventTSF
      · rw [if_pos hlate] at hpass ⊢
        cases hcol : collides c (s.nextEventArray h).nextEventTSF with
        | none =>
          rw [hcol] at hpass
          exact hpass.elim
        | some col =>
          rw [hcol] at hpass
          cases col with
          | false =>
            obtain ⟨hb', hchain', hc'⟩ :=
              insertHead_keeps hb hchain hc hgo.2 hlate hcol hpass.1 hpass.2
            exact ⟨_, l, rfl, rank_lt_of_tail c s _ h l, hb', hchain', hc'⟩
          | true =>
            cases hnext : nextCollides c (c.BSSList (apOf s h))
                (s.nextEventArray h).nextEventTSF with
            | none =>
              rw [hnext] at hpass
              exact hpass.elim
            | some col =>
              rw [hnext] at hpass
              rw [← apOf, hnext]
              cases col with
              | true =>
                exact ⟨_, l, rfl, rank_lt_of_tail c s _ h l, (hb.take.mark hpass).dropHead h,
                  ⟨hchain.linked.tail.2, congrArg (· - 1) hchain.size⟩, hc.congr rfl rfl rfl⟩
              | false =>
                obtain ⟨s', l', hoff, hb', hchain', hlt, hwin, hentry, hearliest⟩ :=
                  putOff_keeps hb hchain hpass.toCallFits (phase_next hb hlate hcol hnext hpass)
                refine ⟨s', l', ?_, hlt, hb', hchain', hc.congr hwin hentry hearliest⟩
                have hword := u64_natCast hpass.init_lt
                push_cast at hword
                rw [hword]
                exact hoff
      · rw [if_neg hlate] at hpass ⊢
        obtain ⟨s', l', hoff, hb', hchain', hlt, hwin, hentry, hearliest⟩ :=
          putOff_keeps hb hchain hpass.toCallFits (phase_later hb (Nat.le_of_not_lt hlate) hpass)
        refine ⟨s', l', ?_, hlt, hb', hchain', hc.congr hwin hentry hearliest⟩
        have hword := u64_natCast hpass.init_lt
        push_cast at hword
        rw [hword]
        exact hoff
  · next hend => exact .inl ⟨_, rfl, finish_right hb hchain hc hend⟩

/-! ## The call -/

/-- Every pass of the second loop is free of the defects. -/
def LoopFits (c : Ctx) (s : Sys) : Prop :=
  0 < s.nextEventArraySize → s.channelEntry.length < maxNumOfSpsChannelsPerCommand →
    ∀ h, s.nextEventArrayHead = some h → PassFits c s h

instance (c : Ctx) (s : Sys) : Decidable (LoopFits c s) := by
  unfold LoopFits
  infer_instance

/-- No step of the call reaches a defect. -/
structure SpsFits (c : Ctx) (s : Sys) : Prop where
  start : StartFits c s.scanBSSList
  passes : ∀ t, track c s = some t → ∀ u, Passes (spsPass c) t u → LoopFits c u

/-- **`scanMngrAddSPSChannels` returns, with the command that it is to build**, when no step reaches
a defect. -/
theorem sps_channels_right (c : Ctx) (scan : Slot → ScanBssEntry) (a : Slot → SpsHelper) (k : ℕ)
    (hn : c.numOfEntries ≤ 16) (hfits : SpsFits c (start scan a k)) :
    ∃ r, AddsSpsChannels c (start scan a k) r ∧ SpsRight c r := by
  have hslots : ∀ i ∈ c.slots, i.val < c.numOfEntries :=
    fun i hi => of_decide_eq_true (List.mem_filter.mp hi).2
  obtain ⟨s, l, hloop, ht⟩ := (tracking_start c scan a k).loop hslots hfits.start
  have hguard := hfits.start.guard
  have hearliest : u64 (c.currentTSF + guardFromCurrentTSF) = c.currentTSF + guardFromCurrentTSF := by
    exact_mod_cast u64_natCast hguard
  have htrack : track c (start scan a k) =
      some { s with earliestTSFToInsert := c.currentTSF + guardFromCurrentTSF } := by
    rw [track, hloop, Option.bind_eq_bind, Option.bind_some, hearliest]
  have hb : Books c [] l { s with earliestTSFToInsert := c.currentTSF + guardFromCurrentTSF } :=
    ⟨ht.books.once, ht.books.ofBand, ht.books.listed, ht.books.accounted, ht.books.timed⟩
  have hcmd : Command c { s with earliestTSFToInsert := c.currentTSF + guardFromCurrentTSF } := by
    have hspan : guardFromCurrentTSF < guardFromLastBss + 2 ^ 32 := by decide
    constructor <;> simp only [ht.noWindows, ht.noChannels]
    · rfl
    · exact Nat.zero_le _
    · exact Nat.le_refl _
    · omega
    · exact fun _ h => nomatch h
    · exact fun _ h => nomatch h
    · exact .nil
    · exact fun _ h => nomatch h
  have hpasses := hfits.passes _ htrack
  have hrule := exists_returns (p := spsPass c) (Q := SpsRight c)
    (I := fun m u => Passes (spsPass c)
        { s with earliestTSFToInsert := c.currentTSF + guardFromCurrentTSF } u ∧
      ∃ l, Books c [] l u ∧ Chain u l ∧ Command c u ∧ rank c u l = m) ?_
    ⟨.refl, l, hb, ⟨ht.chain.linked, ht.chain.size⟩, hcmd, rfl⟩
  · obtain ⟨r, hr, hright⟩ := hrule
    refine ⟨r, ?_, hright⟩
    rw [AddsSpsChannels, if_neg (Nat.not_lt.mpr hn)]
    exact ⟨_, htrack, hr⟩
  · rintro m u ⟨hreach, l, hb, hchain, hc, rfl⟩
    obtain ⟨r, hr, hright⟩ | ⟨u', l', hu', hlt, hb', hchain', hc'⟩ :=
      spsPass_keeps hb hchain hc (hpasses u hreach)
    · exact .inl ⟨r, hr, hright⟩
    · exact .inr ⟨u', _, hu', hlt, hreach.tail hu', l', hb', hchain', hc', rfl⟩

/-- One AP is tracked. The TSF is that of the last beacon of the current BSS. -/
def oneAp (lastLocalBcnTSF : ℕ) : Ctx where
  scanDuration := 4000
  ETMaxNumberOfApFrames := 1
  earlyTerminationEvent := 0
  band := .band24GHz
  channelValidity _ _ := true
  numOfEntries := 1
  BSSList _ := ⟨1, 40000, 100, .band24GHz, 6⟩
  maxTrackFailures := 3
  currentTSF := 51300
  lastLocalBcnDTIMCount := 0
  lastLocalBcnTSF := lastLocalBcnTSF
  currentBSSBeaconInterval := 100
  currentBSSDtimPeriod := 3

def firstTracked : Sys := start (fun _ => ⟨0, 41000, 0, fun _ => 0, 0⟩) (fun _ => ⟨0, 0, none⟩) 0

/-- The TSF of the AP is that of the current BSS now, and was 100 microseconds behind it. -/
def caughtUp : Sys := start (fun _ => ⟨0, 40000, 100, fun _ => -100, 0⟩) (fun _ => ⟨0, 0, none⟩) 0

/-- The first beacon collides with a DTIM, the next one is inserted. -/
theorem sps_channels_right_putOff :
    SpsFits (oneAp 103000) firstTracked ∧
      ∃ r, AddsSpsChannels (oneAp 103000) firstTracked r ∧ SpsRight (oneAp 103000) r := by
  have hfits : SpsFits (oneAp 103000) firstTracked := by
    refine ⟨⟨by decide +kernel, by decide +kernel, by decide +kernel⟩, fun t ht u hu => ?_⟩
    have hall : (track (oneAp 103000) firstTracked).all (passesAll (spsPass (oneAp 103000))
        (fun u => decide (LoopFits (oneAp 103000) u)) 3) = true := by decide +kernel
    rw [ht] at hall
    exact of_decide_eq_true (of_passesAll (p := fun u => decide (LoopFits _ u)) hall hu)
  exact ⟨hfits, sps_channels_right _ _ _ _ (by decide) hfits⟩

/-- **The drift of an AP brings its event back to the time asked for**, and the loop does not end. -/
theorem drift_ends_no_loop : ¬ ∃ r, AddsSpsChannels (oneAp 0) caughtUp r := by
  rintro ⟨r, hr⟩
  obtain ⟨t, ht, hret⟩ := hr
  have hstuck : (track (oneAp 0) caughtUp).all
      (fun t => (spsPass (oneAp 0) t).goesOn fun u => decide (u = t)) = true := by decide +kernel
  rw [ht] at hstuck
  obtain ⟨u, hu, hsame⟩ := eq_next_of_goesOn hstuck
  obtain rfl := of_decide_eq_true hsame
  exact not_returns_of_stuck (P := (· = u)) (fun s hs => .inr ⟨u, hs ▸ hu, rfl⟩) rfl hret

/-!
## When the DTIM check is right

`scanMngrDTIMInRange` counts the first DTIM from the end of the DTIM period and in units of a
microsecond, and does not see a later DTIM that is in progress when the range begins.

* `dtim_in_range_right_iff`: **the check is right exactly if the length of the range is on one
  side** of how long it is to the next DTIM and how long the check takes it to be (`checkedWait`).
* `later_dtim_missed`: a DTIM one beacon behind the last one is not found.
-/

section Dtim

variable {c : Ctx} {s e : ℕ}

def firstDtim (c : Ctx) : ℕ :=
  c.lastLocalBcnTSF + c.lastLocalBcnDTIMCount * (c.currentBSSBeaconInterval * 1024)

def dtimPeriodUsec (c : Ctx) : ℕ := c.currentBSSBeaconInterval * 1024 * c.currentBSSDtimPeriod

/-- What `scanMngrDTIMInRange` is to do: to tell whether a DTIM meets the range. -/
def DtimRight (c : Ctx) (s e : ℕ) : Prop :=
  ∃ r, scanMngrDTIMInRange c s e = some r ∧
    (r = true ↔ ∃ k, firstDtim c + k * dtimPeriodUsec c ≤ e ∧
      s ≤ firstDtim c + k * dtimPeriodUsec c + fwDtimLength)

def checkedDtim (c : Ctx) : ℕ :=
  if c.lastLocalBcnDTIMCount = 0 then c.lastLocalBcnTSF
  else
    c.lastLocalBcnTSF + mul32 (sub32 c.currentBSSDtimPeriod c.lastLocalBcnDTIMCount)
      c.currentBSSBeaconInterval

def checkedPeriod (c : Ctx) : ℕ :=
  mul32 (mul32 c.currentBSSBeaconInterval 1024) c.currentBSSDtimPeriod

/-- How long the check takes it to be to a DTIM, unless it divides by zero. -/
def checkedWait (c : Ctx) (s : ℕ) : Option ℕ :=
  if s < checkedDtim c then some (checkedDtim c - s)
  else if s ≤ checkedDtim c + fwDtimLength then some 0
  else (reminder64 (s - checkedDtim c) (checkedPeriod c)).map (checkedPeriod c - ·)

/-- The range is shorter than both waits, or as long as both. -/
def DtimFits (c : Ctx) (s e : ℕ) : Prop :=
  ∃ w, checkedWait c s = some w ∧
    let wait := waitFor (firstDtim c) (dtimPeriodUsec c) fwDtimLength s
    e - s < w ∧ e - s < wait ∨ w ≤ e - s ∧ wait ≤ e - s

theorem checkedPeriod_lt (c : Ctx) : checkedPeriod c < 2 ^ 32 := Nat.mod_lt _ (by decide)

theorem reminder64_lt {x d r : ℕ} (h : reminder64 x d = some r) : r < d := by
  have hd := reminder64_pos h
  rw [reminder64, if_neg (Nat.ne_of_gt hd)] at h
  exact Option.some.inj h ▸ Nat.mod_lt _ hd

theorem dtimInRange_eq (hs : c.lastLocalBcnTSF ≤ s) (hse : s ≤ e) (hwrap : s + 2 ^ 33 < 2 ^ 64) :
    scanMngrDTIMInRange c s e = (checkedWait c s).map fun w => decide (w ≤ e - s) := by
  have hlt : checkedDtim c < c.lastLocalBcnTSF + 2 ^ 32 := by
    unfold checkedDtim
    split
    · omega
    · exact Nat.add_lt_add_left (Nat.mod_lt _ (by decide)) _
  have hstart : (if c.lastLocalBcnDTIMCount = 0 then c.lastLocalBcnTSF
      else u64 (c.lastLocalBcnTSF + mul32 (sub32 c.currentBSSDtimPeriod c.lastLocalBcnDTIMCount)
        c.currentBSSBeaconInterval)) = checkedDtim c := by
    unfold checkedDtim at hlt ⊢
    split
    · rfl
    · next hcount =>
      rw [if_neg hcount] at hlt
      exact_mod_cast u64_natCast (by omega)
  have hend (n : ℕ) (hn : n + fwDtimLength < 2 ^ 64) : u64 (n + fwDtimLength) = n + fwDtimLength := by
    exact_mod_cast u64_natCast hn
  have h1000 : fwDtimLength = 1000 := rfl
  have hperiod := checkedPeriod_lt c
  unfold scanMngrDTIMInRange
  simp only [hstart]
  rw [hend _ (by omega), checkedWait, ← checkedPeriod]
  by_cases hbefore : s < checkedDtim c
  · rw [if_pos hbefore, Option.map_some]
    by_cases hshort : e < checkedDtim c
    · rw [if_pos hshort]
      exact congrArg some (decide_eq_false (by omega)).symm
    · rw [if_neg hshort, if_pos (by omega)]
      exact congrArg some (decide_eq_true (by omega)).symm
  · rw [if_neg hbefore, if_neg (by omega)]
    by_cases hnow : s ≤ checkedDtim c + fwDtimLength
    · rw [if_pos hnow, if_pos hnow, Option.map_some]
      exact congrArg some (decide_eq_true (Nat.zero_le _)).symm
    · have hdiff : u64 (s - checkedDtim c) = s - checkedDtim c := by
        have hcast : (s - checkedDtim c : ℤ) = (s - checkedDtim c : ℕ) := by omega
        rw [hcast, u64_natCast (by omega)]
      rw [if_neg hnow, if_neg hnow, hdiff]
      cases hr : reminder64 (s - checkedDtim c) (checkedPeriod c) with
      | none => rfl
      | some r =>
        have hrlt := reminder64_lt hr
        have hnext : u64 (s - r + checkedPeriod c) = s + (checkedPeriod c - r) := by
          have hcast : (s - r + checkedPeriod c : ℤ) = (s + (checkedPeriod c - r) : ℕ) := by omega
          rw [hcast, u64_natCast (by omega)]
        rw [Option.bind_eq_bind, Option.bind_some, Option.map_some, Option.map_some, hnext,
          hend _ (by omega), decide_eq_false (by omega), Bool.false_or, ← decide_not]
        refine congrArg some (decide_eq_decide.mpr ?_)
        omega

/-- **The DTIM check is right** exactly where the length of the range is on one side of both waits. -/
theorem dtim_in_range_right_iff (c : Ctx) (s e : ℕ)
    (hinterval : 0 < c.currentBSSBeaconInterval)
    (hcount : c.lastLocalBcnDTIMCount < c.currentBSSDtimPeriod)
    (hs : c.lastLocalBcnTSF ≤ s) (hse : s ≤ e) (hwrap : s + 2 ^ 33 < 2 ^ 64) :
    DtimRight c s e ↔ DtimFits c s e := by
  have hperiod : 0 < dtimPeriodUsec c :=
    Nat.mul_pos (Nat.mul_pos hinterval (by decide)) (Nat.zero_lt_of_lt hcount)
  rw [DtimRight, DtimFits, dtimInRange_eq hs hse hwrap, exists_window_iff hperiod hse]
  cases checkedWait c s with
  | none => simp
  | some w =>
    simp only [Option.map_some, Option.some.injEq, exists_eq_left', decide_eq_true_eq]
    omega

/-- The second DTIM, at 407200, is met. -/
theorem dtim_in_range_right_second : DtimRight (oneAp 100000) 350000 408000 :=
  (dtim_in_range_right_iff _ _ _ (by decide) (by decide) (by decide) (by decide) (by decide)).mpr
    ⟨57200, by decide +kernel, by decide +kernel⟩

/-- **A DTIM that is one beacon behind the last one** is at 102400, and is not found. -/
theorem later_dtim_missed :
    ¬ DtimRight { oneAp 0 with lastLocalBcnDTIMCount := 1 } 102000 103000 := by
  rintro ⟨r, hr, hiff⟩
  have hfalse : scanMngrDTIMInRange { oneAp 0 with lastLocalBcnDTIMCount := 1 } 102000 103000 =
      some false := by decide +kernel
  cases hr.symm.trans hfalse
  exact absurd (hiff.mpr ⟨0, by decide, by decide⟩) (by decide)

end Dtim

end ArchosGpl.Wlan.ScanMngr.Sps
