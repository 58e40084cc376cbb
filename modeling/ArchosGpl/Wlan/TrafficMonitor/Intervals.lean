import ArchosGpl.Lib.Trace
import ArchosGpl.Wlan.TrafficMonitor.Recount
import Mathlib.Logic.Relation

/-!
# What an edge alert has counted when it is raised

`window` reads the current interval of an alert from the log: when it began and what has been
counted in it. `Ready` is what an alert should find when it is raised: an up alert more than its
threshold, a down alert no more than its threshold over a whole interval.

Results:
* **`Tracked.move`**: every change that a loop makes keeps it.
-/

namespace ArchosGpl.Wlan.TrafficMonitor

open Lib TrafficMonitorT

/-!
## What a traffic event and an expiry of the timer do to the alerts

`Move` lists the changes that the two loops make, with the conditions under which the code makes
them: time counted for an alert, a new interval, an alert raised, the calls of a callback.

Results: **`event_moves`**, **`timeOut_moves`**: the loops make such changes only.
-/

section Moves

/-- One change that a loop makes. -/
inductive Move (react : ℕ → List NotifCall) (m : TrafficMonitorT) : TrafficMonitorT → Prop
  /-- The cursor moves, the timer is started or stopped, the bandwidth is counted. -/
  | aside {m'} (hk : Keeps m m') (hc : m'.container = m.container) (hl : m'.log = m.log) :
      Move react m m'
  /-- An alert counts. -/
  | count (k : ℕ) (n : ℤ) : Move react m (m.actionFunc k n)
  /-- An alert begins an interval. -/
  | interval (k : ℕ) (c : ℤ) : Move react m (m.beginInterval k m.osTimeStampMs c)
  /-- An up alert is raised, with its time-out ahead or its interval just begun. -/
  | raiseUp (k : ℕ) (hr : m.registered k) (hs : (m.container k).currentState ≠ .waitForReset)
      (hup : (m.container k).direction = .up)
      (ht : m.osTimeStampMs ≤ (m.container k).timeOut ∨
        (m.container k).timeOut = add32 m.osTimeStampMs (m.container k).timeIntervalMs)
      (hc : (m.container k).threshold < (m.container k).eventCounter) :
      Move react m ((restarted m k m.osTimeStampMs).toggle k m.osTimeStampMs)
  /-- A down alert is raised, at its time-out. -/
  | raiseDown (k : ℕ) (hr : m.registered k) (hs : (m.container k).currentState ≠ .waitForReset)
      (hdown : (m.container k).direction = .down) (ht : (m.container k).timeOut ≤ m.osTimeStampMs)
      (hc : (m.container k).eventCounter ≤ (m.container k).threshold) :
      Move react m ((m.cross k).toggle k m.osTimeStampMs)
  /-- The callback of an alert makes its calls. -/
  | calls (k : ℕ) : Move react m (m.callBack react k)

/-- Any number of changes. -/
abbrev Moves (react : ℕ → List NotifCall) : TrafficMonitorT → TrafficMonitorT → Prop :=
  Relation.ReflTransGen (Move react)

variable {m m' : TrafficMonitorT} {react : ℕ → List NotifCall} {i k now : ℕ}

theorem Move.keeps (h : Move react m m') : Keeps m m' := by
  cases h with
  | aside hk => exact hk
  | count k n => exact keeps_actionFunc m k n
  | interval k c => exact keeps_beginInterval m k _ c
  | raiseUp k => exact (keeps_restarted m k _).trans (keeps_toggle _ k _)
  | raiseDown k => exact (keeps_cross m k).trans (keeps_toggle _ k _)
  | calls k => exact keeps_callBack m react k

theorem Moves.keeps (h : Moves react m m') : Keeps m m' := by
  induction h with
  | refl => exact .refl m
  | tail _ hmove ih => exact ih.trans hmove.keeps

theorem osTimeStampMs_of_keeps (hk : Keeps m m') : m'.osTimeStampMs = m.osTimeStampMs := by
  unfold osTimeStampMs
  rw [hk.time]

/-! ### The checks of an alert -/

theorem isThresholdUp_moves (hr : m.registered k)
    (hs : (m.container k).currentState ≠ .waitForReset) (hup : (m.container k).direction = .up)
    (react : ℕ → List NotifCall) : Moves react m (m.isThresholdUp react k m.osTimeStampMs) := by
  have hcheck : ∀ n : TrafficMonitorT, n.registered k →
      (n.container k).currentState ≠ .waitForReset → (n.container k).direction = .up →
      (n.osTimeStampMs ≤ (n.container k).timeOut ∨
        (n.container k).timeOut = add32 n.osTimeStampMs (n.container k).timeIntervalMs) →
      Moves react n (n.checkUp react k n.osTimeStampMs) := by
    intro n hr hs hup ht
    unfold checkUp
    split
    · rename_i hc
      exact (Relation.ReflTransGen.single (.raiseUp k hr hs hup ht hc)).tail (.calls k)
    · exact .refl
  unfold isThresholdUp
  split
  · refine Relation.ReflTransGen.head (.interval k (m.container k).lastCounte) ?_
    have hk := keeps_beginInterval m k m.osTimeStampMs (m.container k).lastCounte
    have hc : (m.beginInterval k m.osTimeStampMs (m.container k).lastCounte).container k =
        { m.container k with
          eventCounter := (m.container k).lastCounte
          timeOut := add32 m.osTimeStampMs (m.container k).timeIntervalMs } := by
      rw [beginInterval, note_container, modify_self]
    have := hcheck (m.beginInterval k m.osTimeStampMs (m.container k).lastCounte)
      ((hk.registered k).mpr hr) (by rw [hc]; exact hs) ((hk.direction k).trans hup)
      (Or.inr (by rw [hc, osTimeStampMs_of_keeps hk]))
    rwa [osTimeStampMs_of_keeps hk] at this
  · rename_i hlt
    exact hcheck m hr hs hup (Or.inl (not_lt.mp hlt))

theorem isThresholdDown_moves (hr : m.registered k)
    (hs : (m.container k).currentState ≠ .waitForReset) (hdown : (m.container k).direction = .down)
    (react : ℕ → List NotifCall) : Moves react m (m.isThresholdDown react k m.osTimeStampMs) := by
  simp only [isThresholdDown]
  split
  · rename_i ht
    split
    · rename_i hc
      have hraise : Moves react m (((m.cross k).toggle k m.osTimeStampMs).callBack react k) :=
        (Relation.ReflTransGen.single (.raiseDown k hr hs hdown ht hc)).tail (.calls k)
      have := hraise.tail (.interval k 0)
      rwa [osTimeStampMs_of_keeps (Moves.keeps hraise)] at this
    · exact .single (.interval k 0)
  · split
    · exact .single (.interval k 0)
    · exact .refl

theorem eventElement_moves (hr : m.registered k)
    (hs : (m.container k).currentState ≠ .waitForReset) (react : ℕ → List NotifCall) (count : ℤ)
    (mask module : ℕ) :
    Moves react m (m.eventElement react m.osTimeStampMs count mask module k) := by
  unfold eventElement
  split
  · have hk := keeps_actionFunc m k count
    split
    · rename_i hup
      refine Relation.ReflTransGen.head (.count k count) ?_
      have := isThresholdUp_moves ((hk.registered k).mpr hr) (m := m.actionFunc k count)
        (by simp only [actionFunc, note_container, modify_self]; exact hs)
        ((hk.direction k).trans hup) react
      rwa [osTimeStampMs_of_keeps hk] at this
    · exact .single (.count k count)
  · exact .refl

/-! ### The loops -/

theorem changeDownTimerStatus_log (m : TrafficMonitorT) (n t : ℕ) :
    (m.changeDownTimerStatus n t).log = m.log := by
  unfold changeDownTimerStatus
  split
  · rfl
  · split <;> rfl

theorem changeDownTimerStatus_move (react : ℕ → List NotifCall) (m : TrafficMonitorT) (n t : ℕ) :
    Move react m (m.changeDownTimerStatus n t) :=
  .aside (keeps_changeDownTimerStatus m n t) (changeDownTimerStatus_container m n t)
    (changeDownTimerStatus_log m n t)

theorem walk_moves {visit : ℕ → Pass → Pass}
    (h : ∀ k p, p.tm.registered k → p.tm.osTimeStampMs = m.osTimeStampMs →
      Moves react p.tm (visit k p).tm) :
    Moves react m (Pass.list.walk visit { tm := m }).changeDownTimerStatus := by
  have hend : Moves react m (Pass.list.walk visit { tm := m }).tm :=
    Cursor.walk_invariant (P := fun q : Pass => Moves react m q.tm)
      (fun k q hq hk hu => by
        have hmoved : Moves react m (Pass.list.moved k q).tm :=
          hq.tail (.aside (keeps_moved q.tm k) rfl rfl)
        exact hmoved.trans (h k _ ⟨hk, hu⟩ (osTimeStampMs_of_keeps hmoved.keeps))) .refl
  exact hend.tail (changeDownTimerStatus_move react _ _ _)

theorem eventLoop_moves (m : TrafficMonitorT) (react : ℕ → List NotifCall) (count : ℤ)
    (mask module : ℕ) : Moves react m (m.eventLoop react count mask module) := by
  refine walk_moves fun k p hr ht => ?_
  rw [← ht]
  unfold Pass.eventVisit
  split
  · rename_i hs
    rw [count_tm]
    exact eventElement_moves hr hs react count mask module
  · exact .refl

theorem eventBW_frame {mask module : ℕ} (h : m.eventBW mask module = some m') :
    m'.container = m.container ∧ m'.log = m.log := by
  unfold eventBW at h
  split at h
  · split at h
    · cases h
      exact ⟨rfl, rfl⟩
    · cases h
      exact ⟨rfl, rfl⟩
  · split at h
    · split at h
      · cases h
        exact ⟨rfl, rfl⟩
      · cases h
        exact ⟨rfl, rfl⟩
    · cases h

theorem event_moves (m : TrafficMonitorT) (react : ℕ → List NotifCall) (count : ℤ)
    (mask module : ℕ) : Moves react m (m.event react count mask module) := by
  unfold event
  split
  · split
    · rename_i n hn
      obtain ⟨hc, hl⟩ := eventBW_frame hn
      exact Relation.ReflTransGen.head (.aside (keeps_eventBW hn) hc hl)
        (eventLoop_moves n react count mask module)
    · exact .refl
  · exact .refl

theorem timeOut_moves (m : TrafficMonitorT) (react : ℕ → List NotifCall) :
    Moves react m (m.timeOut react) := by
  refine walk_moves fun k p hr ht => ?_
  rw [← ht]
  unfold Pass.timeOutVisit
  split
  · rename_i hs
    rw [count_tm]
    exact isThresholdDown_moves hr hs.1 hs.2 react
  · rw [count_tm]

end Moves

/-! ## The current interval -/

/-- What an event makes of the interval of the alert `i`: when it began, what was counted in it. -/
def Note.window (i : ℕ) (w : Option (ℕ × ℤ)) : Note → Option (ℕ × ℤ)
  | .counted j n => if j = i then w.map fun (t, s) => (t, s + n) else w
  | .begun j t c => if j = i then some (t, c) else w
  | .armed j t => if j = i then some (t, 0) else w
  | _ => w

/-- The current interval of the alert `i`: when it began, what was counted in it. -/
def window (i : ℕ) (l : List Note) : Option (ℕ × ℤ) := l.foldl (Note.window i) none

theorem window_snoc (i : ℕ) (l : List Note) (x : Note) :
    window i (l ++ [x]) = x.window i (window i l) := by
  unfold window
  rw [List.foldl_append]
  rfl

/-- When the alert `i` was last armed by another one. -/
def armedAt (i : ℕ) (l : List Note) : Option ℕ :=
  l.foldl (fun a x => match x with
    | .armed j t => if j = i then some t else a
    | _ => a) none

theorem armedAt_snoc (i : ℕ) (l : List Note) (x : Note) :
    armedAt i (l ++ [x]) = match x with
      | .armed j t => if j = i then some t else armedAt i l
      | _ => armedAt i l := by
  unfold armedAt
  rw [List.foldl_append]
  rfl

/-- An event of another alert. -/
def Note.other (i : ℕ) : Note → Prop
  | .started => True
  | .counted j _ => j ≠ i
  | .begun j _ _ => j ≠ i
  | .armed j _ => j ≠ i
  | .crossed j _ _ => j ≠ i

theorem Note.other.window {i : ℕ} {x : Note} (h : x.other i) (w : Option (ℕ × ℤ)) :
    x.window i w = w := by
  cases x with
  | started => rfl
  | crossed j t c => rfl
  | counted j n | begun j t c | armed j t => exact if_neg h

theorem Note.other.armedAt {i : ℕ} {x : Note} (h : x.other i) (l : List Note) :
    TrafficMonitor.armedAt i (l ++ [x]) = TrafficMonitor.armedAt i l := by
  rw [armedAt_snoc]
  cases x with
  | armed j t => exact if_neg h
  | _ => rfl

/-- What the alert `e` should find when it is raised at time `now`: of the interval that began at
`t`, an up alert counted more than its threshold, and a down alert at most its threshold over the
whole interval, unless the clock wrapped meanwhile. -/
def Ready (e : TrafficAlertElement) (i now : ℕ) (l : List Note) : Prop :=
  ∃ t s, window i l = some (t, s) ∧ t ≤ now ∧ (∀ a ∈ armedAt i l, a ≤ t) ∧
    match e.direction with
    | .up => e.threshold < s ∧ (now / 2 ^ 32 = t / 2 ^ 32 → now - t ≤ e.timeIntervalMs)
    | .down => s ≤ e.threshold ∧
      (t % 2 ^ 32 + e.timeIntervalMs < 2 ^ 32 → t + e.timeIntervalMs ≤ now)

/-! ## The interval of an alert and its counters -/

/-- Counter and time-out of the alert `i`, unless it waits, are those of its interval. -/
def Timed (m : TrafficMonitorT) (i : ℕ) : Prop :=
  (m.container i).currentState ≠ .waitForReset →
    ∃ t, window i m.log = some (t, (m.container i).eventCounter) ∧
      (m.container i).timeOut = (t + (m.container i).timeIntervalMs) % 2 ^ 32 ∧ t ≤ m.time ∧
        ∀ a ∈ armedAt i m.log, a ≤ t

/-- The alert `i`, registered as `e`, was ready whenever it was raised. -/
structure Logged (e : TrafficAlertElement) (i : ℕ) (m : TrafficMonitorT) : Prop where
  fixed : (m.container i).fixed = e.fixed
  armed : ∀ a ∈ armedAt i m.log, a ≤ m.time
  ready : ∀ now called, Before (fun x => x = .crossed i now called) (Ready e i now) m.log

/-- The alert `i` is timed and logged. -/
structure Tracked (e : TrafficAlertElement) (i : ℕ) (m : TrafficMonitorT) : Prop where
  logged : Logged e i m
  timed : Timed m i

variable {m m' : TrafficMonitorT} {e : TrafficAlertElement} {react : ℕ → List NotifCall}
  {i k now : ℕ}

theorem Logged.timeIntervalMs (h : Logged e i m) :
    (m.container i).timeIntervalMs = e.timeIntervalMs := by
  have := congrArg TrafficAlertElement.timeIntervalMs h.fixed
  exact this

theorem Logged.threshold (h : Logged e i m) : (m.container i).threshold = e.threshold := by
  have := congrArg TrafficAlertElement.threshold h.fixed
  exact this

theorem Logged.direction (h : Logged e i m) : (m.container i).direction = e.direction := by
  have := congrArg TrafficAlertElement.direction h.fixed
  exact this

theorem Logged.trigger (h : Logged e i m) : (m.container i).trigger = e.trigger := by
  have := congrArg TrafficAlertElement.trigger h.fixed
  exact this

theorem Logged.note (h : Logged e i m) {x : Note} (hx : ∀ now c, x ≠ .crossed i now c)
    (ha : ∀ a ∈ armedAt i (m.log ++ [x]), a ≤ m.time) : Logged e i (m.note x) where
  fixed := h.fixed
  armed := ha
  ready now c := (h.ready now c).snoc fun he => absurd he (hx now c)

theorem Tracked.note (h : Tracked e i m) {x : Note} (hx : x.other i) : Tracked e i (m.note x) where
  logged := by
    refine h.logged.note ?_ ?_
    · rintro now c rfl
      exact hx rfl
    · rw [hx.armedAt]
      exact h.logged.armed
  timed hs := by
    obtain ⟨t, hw, rest⟩ := h.timed hs
    refine ⟨t, ?_, ?_⟩
    · rw [TrafficMonitorT.note, window_snoc, hx.window]
      exact hw
    · rw [TrafficMonitorT.note, hx.armedAt]
      exact rest

theorem Tracked.congr (h : Tracked e i m) {b : Bool}
    (hc : m'.container i = { m.container i with enabled := b }) (hl : m'.log = m.log)
    (ht : m'.time = m.time) : Tracked e i m' where
  logged := by
    refine ⟨?_, ?_, ?_⟩
    · rw [hc]
      exact h.logged.fixed
    · rw [hl, ht]
      exact h.logged.armed
    · rw [hl]
      exact h.logged.ready
  timed := by
    unfold Timed
    rw [hc, hl, ht]
    exact h.timed

theorem Tracked.modify_other (h : Tracked e i m) (hik : i ≠ k)
    (f : TrafficAlertElement → TrafficAlertElement) : Tracked e i (m.modify k f) :=
  h.congr (b := (m.container i).enabled) (modify_of_ne m hik) rfl rfl

theorem Tracked.wait (h : Tracked e i m) (k : ℕ) :
    Tracked e i (m.modify k fun e => { e with currentState := .waitForReset }) := by
  rcases eq_or_ne i k with rfl | hik
  · refine ⟨⟨?_, h.logged.armed, h.logged.ready⟩, fun hs => ?_⟩
    · rw [modify_self]
      exact h.logged.fixed
    · rw [modify_self] at hs
      exact absurd rfl hs
  · exact h.modify_other hik _

theorem time_mod (t n : ℕ) : add32 (t % 2 ^ 32) n = (t + n) % 2 ^ 32 := add32_mod t n

theorem Tracked.beginInterval (h : Logged e i m) (c : ℤ) :
    Tracked e i (m.beginInterval i m.osTimeStampMs c) := by
  have hw : window i (m.log ++ [.begun i m.time c]) = some (m.time, c) := by
    rw [window_snoc]
    exact if_pos rfl
  have ha : armedAt i (m.log ++ [.begun i m.time c]) = armedAt i m.log := armedAt_snoc ..
  refine ⟨⟨?_, ?_, ?_⟩, fun _ => ⟨m.time, ?_, ?_, le_rfl, ?_⟩⟩
  · rw [TrafficMonitorT.beginInterval, note_container, modify_self]
    exact h.fixed
  · change ∀ a ∈ armedAt i (m.log ++ [.begun i m.time c]), a ≤ m.time
    rw [ha]
    exact h.armed
  · exact fun now c' => (h.ready now c').snoc fun he => by cases he
  · rw [TrafficMonitorT.beginInterval, note_container, modify_self]
    exact hw
  · rw [TrafficMonitorT.beginInterval, note_container, modify_self]
    exact time_mod ..
  · change ∀ a ∈ armedAt i (m.log ++ [.begun i m.time c]), a ≤ m.time
    rw [ha]
    exact h.armed

theorem Tracked.interval (h : Tracked e i m) (hn : now = m.osTimeStampMs) (k : ℕ) (c : ℤ) :
    Tracked e i (m.beginInterval k now c) := by
  subst hn
  rcases eq_or_ne i k with rfl | hik
  · exact .beginInterval h.logged c
  · exact (h.modify_other hik _).note (x := .begun k m.time c) hik.symm

theorem Tracked.armReset (h : Tracked e i m) (hn : now = m.osTimeStampMs) (r : Option ℕ) :
    Tracked e i (m.armReset now r) := by
  subst hn
  cases r with
  | none => exact h
  | some j =>
    rw [TrafficMonitorT.armReset]
    split
    · rcases eq_or_ne i j with rfl | hij
      · have hw : window i (m.log ++ [.armed i m.time]) = some (m.time, 0) := by
          rw [window_snoc]
          exact if_pos rfl
        have ha : armedAt i (m.log ++ [.armed i m.time]) = some m.time := by
          rw [armedAt_snoc]
          exact if_pos rfl
        refine ⟨⟨?_, ?_, ?_⟩, fun _ => ⟨m.time, ?_, ?_, le_rfl, ?_⟩⟩
        · rw [note_container, modify_self]
          exact h.logged.fixed
        · change ∀ a ∈ armedAt i (m.log ++ [.armed i m.time]), a ≤ m.time
          rw [ha]
          simp
        · exact fun now c' => (h.logged.ready now c').snoc fun he => by cases he
        · rw [note_container, modify_self]
          exact hw
        · rw [note_container, modify_self]
          exact time_mod ..
        · change ∀ a ∈ armedAt i (m.log ++ [.armed i m.time]), a ≤ m.time
          rw [ha]
          simp
      · exact (h.modify_other hij _).note (x := .armed j m.time) hij.symm
    · exact h

theorem Tracked.actionFunc (h : Tracked e i m) (k : ℕ) (count : ℤ) :
    Tracked e i (m.actionFunc k count) := by
  simp only [TrafficMonitorT.actionFunc]
  generalize (m.container k).actionFunc.amount count = n
  rcases eq_or_ne i k with rfl | hik
  · have ha : armedAt i (m.log ++ [.counted i n]) = armedAt i m.log := armedAt_snoc ..
    refine ⟨⟨?_, ?_, ?_⟩, fun hs => ?_⟩
    · rw [note_container, modify_self]
      exact h.logged.fixed
    · change ∀ a ∈ armedAt i (m.log ++ [.counted i n]), a ≤ m.time
      rw [ha]
      exact h.logged.armed
    · exact fun now c' => (h.logged.ready now c').snoc fun he => by cases he
    · rw [note_container, modify_self] at hs ⊢
      obtain ⟨t, hw, ht, hle, hat⟩ := h.timed hs
      refine ⟨t, ?_, ht, hle, ?_⟩
      · change window i (m.log ++ [.counted i n]) = _
        rw [window_snoc, hw]
        exact if_pos rfl
      · change ∀ a ∈ armedAt i (m.log ++ [.counted i n]), a ≤ t
        rw [ha]
        exact hat
  · exact (h.modify_other hik _).note (x := .counted k n) hik.symm

/-! ## Raising alerts -/

theorem Tracked.cross (h : Tracked e i m) (hr : i = k → Ready e i m.time m.log) :
    Tracked e i (m.cross k) := by
  unfold TrafficMonitorT.cross
  rcases eq_or_ne i k with rfl | hik
  · have ha : armedAt i (m.log ++ [.crossed i m.time (m.notified i)]) = armedAt i m.log :=
      armedAt_snoc ..
    have hw : window i (m.log ++ [.crossed i m.time (m.notified i)]) = window i m.log :=
      window_snoc ..
    refine ⟨⟨h.logged.fixed, ?_, fun now c => (h.logged.ready now c).snoc ?_⟩, fun hs => ?_⟩
    · change ∀ a ∈ armedAt i (m.log ++ [.crossed i m.time (m.notified i)]), a ≤ m.time
      rw [ha]
      exact h.logged.armed
    · intro he
      obtain ⟨-, rfl, -⟩ := Note.crossed.inj he
      exact hr rfl
    · obtain ⟨t, hwin, rest⟩ := h.timed hs
      refine ⟨t, hw.trans hwin, ?_⟩
      change _ ∧ t ≤ m.time ∧ ∀ a ∈ armedAt i (m.log ++ [.crossed i m.time (m.notified i)]), a ≤ t
      rw [ha]
      exact rest
  · exact h.note (x := .crossed k m.time (m.notified k)) hik.symm

theorem Tracked.armResets (h : Tracked e i m) (hn : now = m.osTimeStampMs) (k : ℕ) :
    Tracked e i (m.armResets k now) := by
  unfold TrafficMonitorT.armResets
  generalize (List.finRange 3).map (m.container k).resetElment = rs
  induction rs generalizing m with
  | nil => exact h
  | cons r rs ih =>
    exact ih (h.armReset hn r) (hn.trans (osTimeStampMs_of_keeps (keeps_armReset m now r)).symm)

theorem Tracked.toggle (h : Tracked e i m) (he : e.trigger = .edge) (hn : now = m.osTimeStampMs)
    (k : ℕ) : Tracked e i (m.toggle k now) := by
  unfold TrafficMonitorT.toggle
  split
  · exact (h.wait k).armResets hn k
  · rename_i hl
    refine h.modify_other ?_ _
    rintro rfl
    rw [h.logged.trigger, he] at hl
    cases hl

theorem update_log (m : TrafficMonitorT) : m.updateDownTrafficTimerState.log = m.log := by
  obtain ⟨k, hk⟩ := updateWalk_tm m
  unfold updateDownTrafficTimerState Pass.changeDownTimerStatus
  rw [changeDownTimerStatus_log, hk]

theorem notifs_log (m : TrafficMonitorT) (calls : List NotifCall) :
    (calls.foldl notif m).log = m.log := by
  induction calls generalizing m with
  | nil => rfl
  | cons c calls ih =>
    rw [List.foldl_cons, ih, notif_eq, update_log]
    cases c <;> rfl

theorem callBack_log (m : TrafficMonitorT) (react : ℕ → List NotifCall) (k : ℕ) :
    (m.callBack react k).log = m.log := by
  unfold callBack
  split
  · exact notifs_log m _
  · rfl

theorem callBack_container (m : TrafficMonitorT) (react : ℕ → List NotifCall) (k i : ℕ) :
    ∃ b, (m.callBack react k).container i = { m.container i with enabled := b } := by
  unfold callBack
  split
  · exact ⟨_, notifs_container m _ i⟩
  · exact ⟨(m.container i).enabled, rfl⟩

theorem Tracked.callBack (h : Tracked e i m) (react : ℕ → List NotifCall) (k : ℕ) :
    Tracked e i (m.callBack react k) := by
  obtain ⟨b, hb⟩ := callBack_container m react k i
  exact h.congr hb (callBack_log ..) (keeps_callBack m react k).time

/-- An up alert that has counted more than its threshold is ready, with its time-out ahead or its
interval just begun. -/
theorem Tracked.ready_up (h : Tracked e i m) (hup : e.direction = .up)
    (hs : (m.container i).currentState ≠ .waitForReset)
    (ht : m.osTimeStampMs ≤ (m.container i).timeOut ∨
      (m.container i).timeOut = add32 m.osTimeStampMs (m.container i).timeIntervalMs)
    (hc : (m.container i).threshold < (m.container i).eventCounter) :
    Ready e i m.time m.log := by
  obtain ⟨t, hw, hout, hle, ha⟩ := h.timed hs
  refine ⟨t, _, hw, hle, ha, ?_⟩
  rw [hup]
  rw [h.logged.threshold] at hc
  refine ⟨hc, fun hepoch => ?_⟩
  rw [h.logged.timeIntervalMs] at hout ht
  rw [hout] at ht
  unfold osTimeStampMs at ht
  rcases ht with ht | ht
  · omega
  · rw [time_mod] at ht
    omega

theorem Tracked.ready_down (h : Tracked e i m) (hdown : e.direction = .down)
    (hs : (m.container i).currentState ≠ .waitForReset)
    (ht : (m.container i).timeOut ≤ m.osTimeStampMs)
    (hc : (m.container i).eventCounter ≤ (m.container i).threshold) :
    Ready e i m.time m.log := by
  obtain ⟨t, hw, hout, hle, ha⟩ := h.timed hs
  refine ⟨t, _, hw, hle, ha, ?_⟩
  rw [hdown]
  rw [h.logged.threshold] at hc
  refine ⟨hc, fun hwrap => ?_⟩
  rw [h.logged.timeIntervalMs] at hout
  rw [hout] at ht
  unfold osTimeStampMs at ht
  omega

theorem Tracked.move (h : Tracked e i m) (he : e.trigger = .edge) (hm : Move react m m') :
    Tracked e i m' := by
  cases hm with
  | aside hk hc hl => exact h.congr (b := (m.container i).enabled) (by rw [hc]) hl hk.time
  | count k n => exact h.actionFunc k n
  | interval k c => exact h.interval rfl k c
  | raiseUp k hr hs hup ht hc =>
    have hcross : Tracked e i (m.cross k) := h.cross fun hik => by
      subst hik
      exact h.ready_up (h.logged.direction.symm.trans hup) hs ht hc
    have hk := keeps_beginInterval (m.cross k) k m.osTimeStampMs 0
    exact (hcross.interval rfl k 0).toggle he (osTimeStampMs_of_keeps hk).symm k
  | raiseDown k hr hs hdown ht hc =>
    have hcross : Tracked e i (m.cross k) := h.cross fun hik => by
      subst hik
      exact h.ready_down (h.logged.direction.symm.trans hdown) hs ht hc
    exact hcross.toggle he rfl k
  | calls k => exact h.callBack react k

theorem Tracked.moves (h : Tracked e i m) (he : e.trigger = .edge) (hm : Moves react m m') :
    Tracked e i m' := by
  induction hm with
  | refl => exact h
  | tail _ hmove ih => exact ih.move he hmove

theorem Tracked.moved (h : Tracked e i m) (k : ℕ) : Tracked e i { m with currentIndex := k } :=
  h.congr (b := (m.container i).enabled) rfl rfl rfl

/-! ## Start and stop -/

theorem Logged.start (h : Logged e i m) (hr : m.registered i) : Tracked e i m.start := by
  unfold TrafficMonitorT.start
  dsimp only
  have hkeep : Keeps m (if m.active then m else m.updateDownTrafficTimerState) := by
    split
    · exact .refl m
    · exact keeps_update m
  have hlog : Logged e i (if m.active then m else m.updateDownTrafficTimerState) := by
    split
    · exact h
    · refine ⟨?_, ?_, ?_⟩
      · rw [update_container]
        exact h.fixed
      · rw [update_log, (keeps_update m).time]
        exact h.armed
      · rw [update_log]
        exact h.ready
  have hr' := (hkeep.registered i).mpr hr
  generalize (if m.active then m else m.updateDownTrafficTimerState) = n at hlog hr' ⊢
  have hnote : Logged e i (n.note .started) := hlog.note (fun _ _ => by simp) (by
    rw [armedAt_snoc]
    exact hlog.armed)
  have hend := Cursor.walk_all (c := list) (v := startElement n.osTimeStampMs)
    (I := fun j q => Keeps n q ∧ Logged e i q ∧ (i < j → Timed q i))
    (fun j q ⟨hk, hl, ht⟩ _ hfree => ⟨hk, hl, fun hij => by
      rcases Nat.lt_succ_iff_lt_or_eq.mp hij with hij | rfl
      · exact ht hij
      · have := ((hk.registered i).mpr hr').2
        rw [show q.inuse i = false from hfree] at this
        cases this⟩)
    (fun k q ⟨hk, hl, ht⟩ _ _ => by
      have hkm := hk.trans (keeps_moved q k)
      have htime : n.osTimeStampMs = (list.moved k q).osTimeStampMs :=
        (osTimeStampMs_of_keeps hkm).symm
      have hcur : (startElement n.osTimeStampMs k (list.moved k q)).currentIndex = k := by
        unfold startElement
        split <;> rfl
      refine ⟨⟨hkm.trans (keeps_startElement _ k _), ?_⟩, hcur⟩
      have hlm : Logged e i (list.moved k q) := ⟨hl.fixed, hl.armed, hl.ready⟩
      unfold startElement
      split
      · rcases eq_or_ne i k with rfl | hik
        · have := Tracked.beginInterval hlm 0
          rw [← htime] at this
          exact ⟨this.logged, fun _ => this.timed⟩
        · have hb : Logged e i ((list.moved k q).beginInterval k n.osTimeStampMs 0) := by
            refine Logged.note (x := .begun k q.time 0) ?_ (fun _ _ => by simp) ?_
            · exact ⟨(congrArg TrafficAlertElement.fixed (modify_of_ne _ hik)).trans hl.fixed,
                hl.armed, hl.ready⟩
            · rw [armedAt_snoc]
              exact hl.armed
          refine ⟨hb, fun hij => ?_⟩
          have htr : Tracked e i (list.moved k q) :=
            (Tracked.mk hl (ht (by omega))).moved k
          exact (htr.interval htime k 0).timed
      · rename_i hw
        refine ⟨hlm, fun hij => ?_⟩
        rcases Nat.lt_succ_iff_lt_or_eq.mp hij with hij | rfl
        · exact ((Tracked.mk hl (ht hij)).moved k).timed
        · exact fun hs => absurd hs hw)
    (s := n.note .started) ⟨keeps_note n _, hnote, fun h => absurd h (Nat.not_lt_zero i)⟩
  have htr : Tracked e i (list.walk (startElement n.osTimeStampMs) (n.note .started)) :=
    ⟨hend.2.1, hend.2.2 hr'.1⟩
  exact htr.congr (b := _) rfl rfl rfl

theorem stop_log (m : TrafficMonitorT) : m.stop.log = m.log ∧ m.stop.time = m.time := by
  unfold stop
  dsimp only
  refine Cursor.walk_invariant (P := fun q : TrafficMonitorT => q.log = m.log ∧ q.time = m.time)
    (fun _ _ h _ _ => h) ?_
  split <;> exact ⟨rfl, rfl⟩

theorem Logged.stop (h : Logged e i m) : Logged e i m.stop := by
  obtain ⟨n, hc, -, -, -, -, hk⟩ := keeps_stop m
  obtain ⟨hl, ht⟩ := stop_log m
  refine ⟨?_, ?_, ?_⟩
  · rw [hk.fixed, hc, h.fixed]
  · rw [hl, ht]
    exact h.armed
  · rw [hl]
    exact h.ready

end ArchosGpl.Wlan.TrafficMonitor
