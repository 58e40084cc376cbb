import ArchosGpl.Wlan.TrafficMonitor.Registration

/-!
# Recounting the armed alerts

Results:
* **`right_update`**: an update of the timer outside a loop makes it right.
* **`event_right`**, **`timeOut_right`**: so does the recount of a loop, if each alert that the loop
  arms stands behind the one that arms it (`ArmsBehind`) and the calls of each callback are
  `Settled`.
-/

namespace ArchosGpl.Wlan.TrafficMonitor

open Lib TrafficMonitorT

/-! ## The timer and the armed alerts -/

/-- `k` is an enabled down edge alert in state `ALERT_OFF`. -/
def ArmedAt (m : TrafficMonitorT) (k : ℕ) : Prop :=
  m.registered k ∧ (m.container k).activeTrafDown = true

instance (m : TrafficMonitorT) (k : ℕ) : Decidable (ArmedAt m k) :=
  inferInstanceAs (Decidable (_ ∧ _))

/-- The period of the timer, while it runs, is no longer than the interval of an armed alert. -/
def Bounded (m : TrafficMonitorT) : Prop :=
  ∀ t ∈ m.hTrafficMonTimer, ∀ k < maxMonitoredReq, ArmedAt m k → t ≤ (m.container k).timeIntervalMs

instance (m : TrafficMonitorT) : Decidable (Bounded m) :=
  inferInstanceAs (Decidable (∀ t ∈ m.hTrafficMonTimer, ∀ k < maxMonitoredReq,
    ArmedAt m k → t ≤ (m.container k).timeIntervalMs))

/-- The timer runs exactly while an alert is armed, with a period within its interval. -/
structure TimerRight (m : TrafficMonitorT) : Prop where
  running : m.hTrafficMonTimer.isSome = true ↔ ∃ k, ArmedAt m k
  period : ∀ t ∈ m.hTrafficMonTimer, ∀ k, ArmedAt m k → t ≤ (m.container k).timeIntervalMs

variable {m m' m'' : TrafficMonitorT} {p : Pass} {react : ℕ → List NotifCall} {j k now : ℕ}

theorem TimerRight.bounded (h : TrafficMonitor.TimerRight m) : Bounded m :=
  fun t ht k _ => h.period t ht k

/-- The armed alerts and the timer are the same. -/
structure SameArmed (m m' : TrafficMonitorT) : Prop where
  inuse : m'.inuse = m.inuse
  active : ∀ k, (m'.container k).activeTrafDown = (m.container k).activeTrafDown
  interval : ∀ k, (m'.container k).timeIntervalMs = (m.container k).timeIntervalMs
  timer : m'.hTrafficMonTimer = m.hTrafficMonTimer

namespace SameArmed

theorem refl (m : TrafficMonitorT) : SameArmed m m := ⟨rfl, fun _ => rfl, fun _ => rfl, rfl⟩

theorem trans (h : SameArmed m m') (h' : SameArmed m' m'') : SameArmed m m'' where
  inuse := h'.inuse.trans h.inuse
  active k := (h'.active k).trans (h.active k)
  interval k := (h'.interval k).trans (h.interval k)
  timer := h'.timer.trans h.timer

theorem armedAt (h : SameArmed m m') (k : ℕ) : ArmedAt m' k ↔ ArmedAt m k := by
  unfold ArmedAt TrafficMonitorT.registered
  rw [h.inuse, h.active]

theorem bounded (h : SameArmed m m') (hb : Bounded m) : Bounded m' := by
  intro t ht k hk ha
  rw [h.timer] at ht
  rw [h.interval]
  exact hb t ht k hk ((h.armedAt k).mp ha)

theorem timerRight (h : SameArmed m m') (ht : TimerRight m) : TimerRight m' where
  running := by
    rw [h.timer, ht.running]
    exact exists_congr fun k => (h.armedAt k).symm
  period t hs k ha := by
    rw [h.timer] at hs
    rw [h.interval]
    exact ht.period t hs k ((h.armedAt k).mp ha)

theorem of_container (hc : m'.container = m.container) (hi : m'.inuse = m.inuse)
    (ht : m'.hTrafficMonTimer = m.hTrafficMonTimer) : SameArmed m m' :=
  ⟨hi, fun k => by rw [hc], fun k => by rw [hc], ht⟩

theorem modify {i : ℕ} {f : TrafficAlertElement → TrafficAlertElement}
    (ha : (f (m.container i)).activeTrafDown = (m.container i).activeTrafDown)
    (ht : (f (m.container i)).timeIntervalMs = (m.container i).timeIntervalMs) :
    SameArmed m (m.modify i f) where
  inuse := rfl
  active k := by
    rcases eq_or_ne k i with rfl | hk
    · rw [modify_self, ha]
    · rw [modify_of_ne m hk]
  interval k := by
    rcases eq_or_ne k i with rfl | hk
    · rw [modify_self, ht]
    · rw [modify_of_ne m hk]
  timer := rfl

end SameArmed

theorem same_note (m : TrafficMonitorT) (x : Note) : SameArmed m (m.note x) :=
  .of_container rfl rfl rfl

theorem same_beginInterval (m : TrafficMonitorT) (i now : ℕ) (c : ℤ) :
    SameArmed m (m.beginInterval i now c) :=
  (SameArmed.modify rfl rfl).trans (same_note _ _)

theorem same_actionFunc (m : TrafficMonitorT) (k : ℕ) (count : ℤ) :
    SameArmed m (m.actionFunc k count) :=
  (SameArmed.modify rfl rfl).trans (same_note _ _)

/-! ## Recounting the armed alerts -/

/-- The counters of a loop that has passed the slots below `j`. -/
structure Counted (j : ℕ) (p : Pass) : Prop where
  some : 0 < p.activeTrafDownEventsNum ↔ ∃ k < j, ArmedAt p.tm k
  least : ∀ k < j, ArmedAt p.tm k → p.trafficDownMinTimeout ≤ (p.tm.container k).timeIntervalMs

theorem counted_zero (m : TrafficMonitorT) : Counted 0 { tm := m } where
  some := by simp
  least k hk := absurd hk (Nat.not_lt_zero k)

theorem Counted.idle (h : Counted k p) (hk : ¬ ArmedAt p.tm k) : Counted (k + 1) p where
  some := by
    rw [h.some]
    constructor
    · rintro ⟨i, hi, ha⟩
      exact ⟨i, by omega, ha⟩
    · rintro ⟨i, hi, ha⟩
      rcases Nat.lt_succ_iff_lt_or_eq.mp hi with hi | rfl
      · exact ⟨i, hi, ha⟩
      · exact absurd ha hk
  least i hi ha := by
    rcases Nat.lt_succ_iff_lt_or_eq.mp hi with hi | rfl
    · exact h.least i hi ha
    · exact absurd ha hk

theorem Counted.skip (h : Counted k p) (hk : p.tm.inuse k = false) : Counted (k + 1) p :=
  h.idle fun ha => by
    have := ha.1.2
    rw [hk] at this
    cases this

theorem count_idle (hk : ¬ (p.tm.container k).activeTrafDown = true) : p.count k = p := by
  simp only [Pass.count]
  rw [if_neg hk]

theorem Counted.count (h : Counted k p) (hr : p.tm.registered k) : Counted (k + 1) (p.count k) := by
  by_cases hk : (p.tm.container k).activeTrafDown = true
  · have hn : (p.count k).activeTrafDownEventsNum = p.activeTrafDownEventsNum + 1 := by
      simp only [Pass.count]
      rw [if_pos hk]
    have hmin : (p.count k).trafficDownMinTimeout ≤ p.trafficDownMinTimeout ∧
        (p.count k).trafficDownMinTimeout ≤ (p.tm.container k).timeIntervalMs := by
      simp only [Pass.count]
      rw [if_pos hk]
      dsimp only
      split <;> omega
    refine ⟨⟨fun _ => ⟨k, by omega, ?_⟩, fun _ => by omega⟩, fun i hi ha => ?_⟩
    · rw [count_tm]
      exact ⟨hr, hk⟩
    · rw [count_tm] at ha ⊢
      rcases Nat.lt_succ_iff_lt_or_eq.mp hi with hi | rfl
      · exact hmin.1.trans (h.least i hi ha)
      · exact hmin.2
  · rw [count_idle hk]
    exact h.idle fun ha => hk ha.2

theorem Counted.congr (h : Counted j p)
    (ha : ∀ k < j, ArmedAt m k ↔ ArmedAt p.tm k)
    (ht : ∀ k, (m.container k).timeIntervalMs = (p.tm.container k).timeIntervalMs) :
    Counted j { p with tm := m } where
  some := by
    rw [h.some]
    exact exists_congr fun k => and_congr_right fun hk => (ha k hk).symm
  least k hk hm := by
    rw [ht]
    exact h.least k hk ((ha k hk).mp hm)

theorem Counted.same (h : Counted j p) (hs : SameArmed p.tm m) : Counted j { p with tm := m } :=
  h.congr (fun k _ => hs.armedAt k) hs.interval

@[simp] theorem changeDownTimerStatus_container (m : TrafficMonitorT) (n t : ℕ) :
    (m.changeDownTimerStatus n t).container = m.container := by
  unfold changeDownTimerStatus
  split
  · rfl
  · split <;> rfl

@[simp] theorem changeDownTimerStatus_inuse (m : TrafficMonitorT) (n t : ℕ) :
    (m.changeDownTimerStatus n t).inuse = m.inuse := by
  unfold changeDownTimerStatus
  split
  · rfl
  · split <;> rfl

theorem changeDownTimerStatus_armedAt (m : TrafficMonitorT) (n t k : ℕ) :
    ArmedAt (m.changeDownTimerStatus n t) k ↔ ArmedAt m k := by
  unfold ArmedAt TrafficMonitorT.registered
  rw [changeDownTimerStatus_container, changeDownTimerStatus_inuse]

theorem period_le (n : ℕ) : n * minIntervalPercent % 2 ^ 32 / 100 ≤ n := by
  have := Nat.mod_le (n * minIntervalPercent) (2 ^ 32)
  unfold minIntervalPercent at *
  omega

theorem right_of_counted (hs : Sound p.tm) (hb : Bounded p.tm) (hc : Counted maxMonitoredReq p) :
    TimerRight p.changeDownTimerStatus := by
  have harmed : (0 < p.activeTrafDownEventsNum) ↔ ∃ k, ArmedAt p.tm k := by
    rw [hc.some]
    exact ⟨fun ⟨k, _, ha⟩ => ⟨k, ha⟩, fun ⟨k, ha⟩ => ⟨k, ha.1.1, ha⟩⟩
  have hiff : (∃ k, ArmedAt p.changeDownTimerStatus k) ↔ 0 < p.activeTrafDownEventsNum := by
    rw [harmed]
    exact exists_congr fun k => changeDownTimerStatus_armedAt ..
  refine ⟨?_, fun t ht k ha => ?_⟩
  · rw [hiff]
    have hflag := hs.flag
    unfold Pass.changeDownTimerStatus TrafficMonitorT.changeDownTimerStatus
    split
    · rename_i h
      simp [h.1]
    · rename_i hstop
      split
      · rename_i h
        simp [h.1]
      · rename_i hstart
        rw [← hflag]
        constructor
        · intro hd
          by_contra hn
          exact hstop ⟨by omega, hd⟩
        · intro hn
          by_contra hd
          exact hstart ⟨hn, eq_false_of_ne_true hd⟩
  · replace ha := (changeDownTimerStatus_armedAt ..).mp ha
    unfold Pass.changeDownTimerStatus at ht ⊢
    rw [changeDownTimerStatus_container]
    unfold TrafficMonitorT.changeDownTimerStatus at ht
    split at ht
    · cases ht
    · split at ht
      · cases ht
        rw [hs.percent]
        exact (period_le _).trans (hc.least k ha.1.1 ha)
      · exact hb t ht k ha.1.1 ha

theorem right_of_settled (hs : Sound p.tm) (hr : TimerRight p.tm)
    (hc : 0 < p.activeTrafDownEventsNum ↔ ∃ k, ArmedAt p.tm k) :
    TimerRight p.changeDownTimerStatus := by
  have hsame : p.changeDownTimerStatus = p.tm := by
    have hrun := hr.running
    rw [← hc, ← hs.flag] at hrun
    unfold Pass.changeDownTimerStatus TrafficMonitorT.changeDownTimerStatus
    rw [if_neg, if_neg]
    · rintro ⟨hn, hd⟩
      rw [hrun.mpr hn] at hd
      cases hd
    · rintro ⟨hn, hd⟩
      have := hrun.mp hd
      omega
  rwa [hsame]

/-! ## An update outside a loop -/

@[simp] theorem count_cursor (k : ℕ) (p : Pass) :
    Pass.list.cursor (p.count k) = Pass.list.cursor p := by
  change (p.count k).tm.currentIndex = p.tm.currentIndex
  rw [count_tm]

theorem updateWalk_tm (m : TrafficMonitorT) :
    ∃ k, (Pass.list.walk Pass.count { tm := m }).tm = { m with currentIndex := k } := by
  refine Cursor.walk_invariant (P := fun q : Pass => ∃ k, q.tm = { m with currentIndex := k })
    (fun k q ⟨_, hq⟩ _ _ => ⟨k, ?_⟩) ⟨m.currentIndex, rfl⟩
  rw [count_tm]
  change ({ q.tm with currentIndex := k } : TrafficMonitorT) = _
  rw [hq]

theorem update_container (m : TrafficMonitorT) :
    m.updateDownTrafficTimerState.container = m.container := by
  obtain ⟨k, hk⟩ := updateWalk_tm m
  unfold updateDownTrafficTimerState Pass.changeDownTimerStatus
  rw [changeDownTimerStatus_container, hk]

theorem update_next (m : TrafficMonitorT) : list.next m.updateDownTrafficTimerState = none := by
  have hn : Pass.list.next (Pass.list.walk Pass.count { tm := m }) = none :=
    Cursor.next_walk (fun k p => count_cursor k (Pass.list.moved k p)) { tm := m }
  generalize hq : Pass.list.walk Pass.count { tm := m } = q at hn
  have hcur : m.updateDownTrafficTimerState.currentIndex = q.tm.currentIndex := by
    unfold updateDownTrafficTimerState Pass.changeDownTimerStatus changeDownTimerStatus
    rw [hq]
    split
    · rfl
    · split <;> rfl
  have huse : m.updateDownTrafficTimerState.inuse = q.tm.inuse := by
    unfold updateDownTrafficTimerState Pass.changeDownTimerStatus
    rw [hq, changeDownTimerStatus_inuse]
  rw [Cursor.next, Option.map_eq_none_iff] at hn ⊢
  change nextSlot m.updateDownTrafficTimerState.inuse maxMonitoredReq
    (m.updateDownTrafficTimerState.currentIndex + 1) = none
  rw [hcur, huse]
  exact hn

theorem same_moved (m : TrafficMonitorT) (k : ℕ) : SameArmed m { m with currentIndex := k } :=
  .of_container rfl rfl rfl

theorem Counted.moved (h : Counted j p) (k : ℕ) : Counted j (Pass.list.moved k p) :=
  h.same (same_moved p.tm k)

/-- **An update makes the timer right**, if its period is within the intervals. -/
theorem right_update (hs : Sound m) (hb : Bounded m) : TimerRight m.updateDownTrafficTimerState := by
  have hend : SameArmed m (Pass.list.walk Pass.count { tm := m }).tm ∧
      Counted maxMonitoredReq (Pass.list.walk Pass.count { tm := m }) :=
    Cursor.walk_all (c := Pass.list)
      (I := fun j q => SameArmed m q.tm ∧ Counted j q)
      (fun j q ⟨hsame, hc⟩ _ hfree => ⟨hsame, hc.skip hfree⟩)
      (fun k q ⟨hsame, hc⟩ hk hu => ⟨⟨by
        rw [count_tm]
        exact hsame.trans (same_moved q.tm k), (hc.moved k).count ⟨hk, hu⟩⟩, count_cursor ..⟩)
      ⟨.refl m, counted_zero m⟩
  have hk : Keeps m (Pass.list.walk Pass.count { tm := m }).tm :=
    keeps_passWalk (fun k p => by rw [count_tm]; exact .refl _) { tm := m }
  exact right_of_counted (hs.keeps hk) (hend.1.bounded hb) hend.2

/-! ## Calls from a callback -/

/-- An alert that is enabled while the timer runs, and is armed by that, has an interval no shorter
than the timer's period. -/
def CallOk (m : TrafficMonitorT) : NotifCall → Prop
  | .start i => ∀ t ∈ m.hTrafficMonTimer,
    ({ m.container i with enabled := true } : TrafficAlertElement).activeTrafDown = true →
      t ≤ (m.container i).timeIntervalMs
  | .stop _ => True

instance (m : TrafficMonitorT) : (c : NotifCall) → Decidable (CallOk m c)
  | .start _ => inferInstanceAs (Decidable (∀ t ∈ m.hTrafficMonTimer, _ → _))
  | .stop _ => inferInstanceAs (Decidable True)

/-- The alert is enabled or disabled. -/
def switch (m : TrafficMonitorT) : NotifCall → TrafficMonitorT
  | .start i => m.modify i fun e => { e with enabled := true }
  | .stop i => m.modify i fun e => { e with enabled := false }

theorem notif_eq (m : TrafficMonitorT) (c : NotifCall) :
    m.notif c = (switch m c).updateDownTrafficTimerState := by
  cases c <;> rfl

theorem keeps_switch (m : TrafficMonitorT) (c : NotifCall) : Keeps m (switch m c) := by
  cases c with
  | start i => exact keeps_enabled m i true
  | stop i => exact keeps_enabled m i false

theorem bounded_switch {c : NotifCall} (hb : Bounded m) (hc : CallOk m c) :
    Bounded (switch m c) := by
  intro t ht k hk ha
  rw [(keeps_switch m c).timeIntervalMs]
  cases c with
  | start i =>
    rcases eq_or_ne k i with rfl | hki
    · have := ha.2
      rw [switch, modify_self] at this
      exact hc t ht this
    · refine hb t ht k hk ⟨ha.1, ?_⟩
      have := ha.2
      rwa [switch, modify_of_ne m hki] at this
  | stop i =>
    rcases eq_or_ne k i with rfl | hki
    · have := ha.2
      rw [switch, modify_self] at this
      simp [TrafficAlertElement.activeTrafDown] at this
    · refine hb t ht k hk ⟨ha.1, ?_⟩
      have := ha.2
      rwa [switch, modify_of_ne m hki] at this

theorem right_notif {c : NotifCall} (hs : Sound m) (hb : Bounded m) (hc : CallOk m c) :
    TimerRight (m.notif c) := by
  rw [notif_eq]
  exact right_update (hs.keeps (keeps_switch m c)) (bounded_switch hb hc)

theorem notif_next (m : TrafficMonitorT) (c : NotifCall) : list.next (m.notif c) = none := by
  rw [notif_eq]
  exact update_next _

/-- Whether the alert `k` is enabled after the calls. -/
def enabledAfter (k : ℕ) (b : Bool) (calls : List NotifCall) : Bool :=
  calls.foldl (fun b c => match c with
    | .start i => if i = k then true else b
    | .stop i => if i = k then false else b) b

/-- The alert `k` is armed once the calls are made. -/
def ArmedAfter (m : TrafficMonitorT) (calls : List NotifCall) (k : ℕ) : Prop :=
  m.registered k ∧ ({ m.container k with
    enabled := enabledAfter k (m.container k).enabled calls } : TrafficAlertElement).activeTrafDown

instance (m : TrafficMonitorT) (calls : List NotifCall) (k : ℕ) :
    Decidable (ArmedAfter m calls k) :=
  inferInstanceAs (Decidable (_ ∧ _))

theorem notifs_container (m : TrafficMonitorT) (calls : List NotifCall) (k : ℕ) :
    (calls.foldl notif m).container k =
      { m.container k with enabled := enabledAfter k (m.container k).enabled calls } := by
  induction calls generalizing m with
  | nil => rfl
  | cons c calls ih =>
    rw [List.foldl_cons, ih, notif_eq, update_container]
    cases c with
    | start i | stop i =>
      rcases eq_or_ne k i with rfl | hk
      · simp [switch, enabledAfter]
      · simp [switch, modify_of_ne m hk, enabledAfter, hk.symm]

theorem armedAt_notifs (m : TrafficMonitorT) (calls : List NotifCall) (k : ℕ) :
    ArmedAt (calls.foldl notif m) k ↔ ArmedAfter m calls k := by
  unfold ArmedAt ArmedAfter
  rw [notifs_container, (keeps_notifs m calls).registered]

/-- The calls of the callback of the alert `k` leave an alert armed exactly if one stands before
`k`: the loop that called it ends at `k`. -/
structure Settled (m : TrafficMonitorT) (k : ℕ) (calls : List NotifCall) : Prop where
  within : Along (fun m c => some (m.notif c)) CallOk m calls
  recount : (∃ j < k, ArmedAt m j) ↔ ∃ j < maxMonitoredReq, ArmedAfter m calls j

instance (m : TrafficMonitorT) (k : ℕ) (calls : List NotifCall) : Decidable (Settled m k calls) :=
  decidable_of_iff (_ ∧ _) ⟨fun h => ⟨h.1, h.2⟩, fun h => ⟨h.1, h.2⟩⟩

theorem right_notifs {calls : List NotifCall} (hs : Sound m) (hb : Bounded m)
    (ha : Along (fun m c => some (m.notif c)) CallOk m calls) (hne : calls ≠ []) :
    TimerRight (calls.foldl notif m) ∧ list.next (calls.foldl notif m) = none := by
  induction calls generalizing m with
  | nil => exact absurd rfl hne
  | cons c calls ih =>
    have hr := right_notif hs hb ha.1
    rcases eq_or_ne calls [] with rfl | hne'
    · exact ⟨hr, notif_next m c⟩
    · exact ih (hs.keeps (keeps_notif m c)) hr.bounded (ha.2 _ rfl) hne'

/-- If the callback of `k` makes calls, they are settled. -/
def CallBackOk (react : ℕ → List NotifCall) (m : TrafficMonitorT) (k : ℕ) : Prop :=
  m.notified k = true → react k ≠ [] → Settled m k (react k)

instance (react : ℕ → List NotifCall) (m : TrafficMonitorT) (k : ℕ) :
    Decidable (CallBackOk react m k) :=
  inferInstanceAs (Decidable (_ → _))

theorem callBack_cases (hs : Sound m) (hb : Bounded m) (hc : CallBackOk react m k) :
    m.callBack react k = m ∨
      (TimerRight (m.callBack react k) ∧ list.next (m.callBack react k) = none ∧
        ((∃ j < k, ArmedAt m j) ↔ ∃ j, ArmedAt (m.callBack react k) j)) := by
  unfold TrafficMonitorT.callBack
  split
  · rename_i hn
    rcases eq_or_ne (react k) [] with hnil | hne
    · rw [hnil]
      exact Or.inl rfl
    · have hset := hc hn hne
      obtain ⟨hr, hnext⟩ := right_notifs hs hb hset.within hne
      refine Or.inr ⟨hr, hnext, ?_⟩
      rw [hset.recount]
      constructor
      · rintro ⟨j, -, ha⟩
        exact ⟨j, (armedAt_notifs m (react k) j).mpr ha⟩
      · rintro ⟨j, ha⟩
        have ha' := (armedAt_notifs m (react k) j).mp ha
        exact ⟨j, ha'.1.1, ha'⟩
  · exact Or.inl rfl

/-! ## Alerts that arm one another -/

def TrafficAlertElement.arm (e : TrafficAlertElement) (now : ℕ) : TrafficAlertElement :=
  { e with currentState := .off, eventCounter := 0, timeOut := add32 now e.timeIntervalMs }

theorem armReset_container (m : TrafficMonitorT) (now : ℕ) (r : Option ℕ) (i : ℕ) :
    (m.armReset now r).container i = m.container i ∨
      (r = some i ∧ (m.container i).currentState = .waitForReset ∧
        (m.armReset now r).container i = (m.container i).arm now) := by
  cases r with
  | none => exact Or.inl rfl
  | some j =>
    rw [armReset]
    split
    · rename_i hw
      rcases eq_or_ne i j with rfl | hij
      · refine Or.inr ⟨rfl, hw, ?_⟩
        rw [note_container, modify_self]
        rfl
      · refine Or.inl ?_
        rw [note_container, modify_of_ne m hij]
    · exact Or.inl rfl

theorem armResets_container (m : TrafficMonitorT) (k now i : ℕ) :
    (m.armResets k now).container i = m.container i ∨
      ((∃ x, (m.container k).resetElment x = some i) ∧
        (m.container i).currentState = .waitForReset ∧
        (m.armResets k now).container i = (m.container i).arm now) := by
  have hlist : ∀ (rs : List (Option ℕ)) (n : TrafficMonitorT),
      (rs.foldl (fun m r => m.armReset now r) n).container i = n.container i ∨
        (some i ∈ rs ∧ (n.container i).currentState = .waitForReset ∧
          (rs.foldl (fun m r => m.armReset now r) n).container i = (n.container i).arm now) := by
    intro rs
    induction rs with
    | nil => exact fun n => Or.inl rfl
    | cons r rs ih =>
      intro n
      rcases armReset_container n now r i with hr | ⟨rfl, hw, hr⟩
      · rcases ih (n.armReset now r) with hs | ⟨hmem, hw, hs⟩
        · exact Or.inl (hs.trans hr)
        · rw [hr] at hw hs
          exact Or.inr ⟨List.mem_cons_of_mem r hmem, hw, hs⟩
      · rcases ih (n.armReset now (some i)) with hs | ⟨-, hoff, -⟩
        · exact Or.inr ⟨List.mem_cons_self, hw, hs.trans hr⟩
        · rw [hr] at hoff
          cases hoff
  rcases hlist ((List.finRange 3).map (m.container k).resetElment) m with h | ⟨hmem, hw, h⟩
  · exact Or.inl h
  · obtain ⟨x, -, hx⟩ := List.mem_map.mp hmem
    exact Or.inr ⟨⟨x, hx⟩, hw, h⟩

theorem armReset_frame (m : TrafficMonitorT) (now : ℕ) (r : Option ℕ) :
    (m.armReset now r).hTrafficMonTimer = m.hTrafficMonTimer ∧
      (m.armReset now r).currentIndex = m.currentIndex := by
  cases r with
  | none => exact ⟨rfl, rfl⟩
  | some j =>
    rw [armReset]
    split <;> exact ⟨rfl, rfl⟩

theorem toggle_frame (m : TrafficMonitorT) (k now : ℕ) :
    (m.toggle k now).hTrafficMonTimer = m.hTrafficMonTimer ∧
      (m.toggle k now).currentIndex = m.currentIndex := by
  have hlist : ∀ (rs : List (Option ℕ)) (n : TrafficMonitorT),
      (rs.foldl (fun m r => m.armReset now r) n).hTrafficMonTimer = n.hTrafficMonTimer ∧
        (rs.foldl (fun m r => m.armReset now r) n).currentIndex = n.currentIndex := by
    intro rs
    induction rs with
    | nil => exact fun n => ⟨rfl, rfl⟩
    | cons r rs ih =>
      intro n
      obtain ⟨ht, hc⟩ := armReset_frame n now r
      exact ⟨(ih _).1.trans ht, (ih _).2.trans hc⟩
  unfold toggle
  split
  · exact hlist _ _
  · exact ⟨rfl, rfl⟩

theorem toggle_container (m : TrafficMonitorT) (now : ℕ) {i : ℕ} (hik : i ≠ k) :
    (m.toggle k now).container i = m.container i ∨
      ((m.container k).trigger = .edge ∧ (∃ x, (m.container k).resetElment x = some i) ∧
        (m.container i).currentState = .waitForReset ∧
        (m.toggle k now).container i = (m.container i).arm now) := by
  unfold toggle
  split
  · rename_i he
    have hw := armResets_container
      (m.modify k fun e => { e with currentState := .waitForReset }) k now i
    rw [modify_of_ne m hik, modify_self] at hw
    rcases hw with h | ⟨hx, hs, h⟩
    · exact Or.inl h
    · exact Or.inr ⟨he, hx, hs, h⟩
  · exact Or.inl (modify_of_ne m hik)

theorem idle_of_kind {e : TrafficAlertElement} (h : e.currentState ≠ .off ∨ e.trigger ≠ .edge) :
    ¬ e.activeTrafDown = true := by
  rcases h with hs | ht
  · simp [TrafficAlertElement.activeTrafDown, hs]
  · simp [TrafficAlertElement.activeTrafDown, ht]

theorem toggle_kind (hs : Sound m) (hk : m.registered k) (now : ℕ) :
    ((m.toggle k now).container k).currentState ≠ .off ∨
      ((m.toggle k now).container k).trigger ≠ .edge := by
  unfold toggle
  split
  · have hw := armResets_container
      (m.modify k fun e => { e with currentState := .waitForReset }) k now k
    rw [modify_self] at hw
    rcases hw with h | ⟨⟨x, hx⟩, -, -⟩
    · rw [h]
      exact Or.inl (by simp)
    · exact absurd rfl (hs.resets k x k hk hx).opposite
  · rw [modify_self]
    exact Or.inl (by simp)

/-- The waiting alerts that are enabled and that raising `k` arms stand behind `k`, with intervals
no shorter than the period of the timer. -/
def ArmsBehind (m : TrafficMonitorT) (k : ℕ) : Prop :=
  ∀ x : Fin 3, ∀ i ∈ (m.container k).resetElment x,
    (m.container i).currentState = .waitForReset → (m.container i).enabled = true →
      k < i ∧ ∀ t ∈ m.hTrafficMonTimer, t ≤ (m.container i).timeIntervalMs

instance (m : TrafficMonitorT) (k : ℕ) : Decidable (ArmsBehind m k) :=
  inferInstanceAs (Decidable (∀ x : Fin 3, ∀ i ∈ (m.container k).resetElment x, _ → _ → _))

theorem not_active_of_up {e : TrafficAlertElement} (h : e.direction = .up) :
    ¬ e.activeTrafDown = true := by
  simp [TrafficAlertElement.activeTrafDown, h]

theorem toggle_up (hs : Sound m) (hb : Bounded m) (hk : m.registered k)
    (hup : (m.container k).direction = .up)
    (harm : (m.container k).trigger = .edge → ArmsBehind m k) (now : ℕ) :
    (∀ i < k, ArmedAt (m.toggle k now) i ↔ ArmedAt m i) ∧ Bounded (m.toggle k now) := by
  have hkeep := keeps_toggle m k now
  have hidle : ¬ ArmedAt (m.toggle k now) k := fun ha =>
    idle_of_kind (toggle_kind hs hk now) ha.2
  have hnew : ∀ i, ArmedAt (m.toggle k now) i → ArmedAt m i ∨
      (k < i ∧ ∀ t ∈ m.hTrafficMonTimer, t ≤ (m.container i).timeIntervalMs) := by
    intro i ha
    have hik : i ≠ k := by
      rintro rfl
      exact hidle ha
    rcases toggle_container m now hik with h | ⟨he, ⟨x, hx⟩, hw, h⟩
    · refine Or.inl ⟨(hkeep.registered i).mp ha.1, ?_⟩
      rw [← h]
      exact ha.2
    · have hen := ha.2
      rw [h] at hen
      exact Or.inr (harm he x i hx hw (Bool.and_eq_true_iff.mp hen).2)
  have hold : ∀ i, ArmedAt m i → ArmedAt (m.toggle k now) i := by
    intro i ha
    have hik : i ≠ k := by
      rintro rfl
      exact not_active_of_up hup ha.2
    refine ⟨(hkeep.registered i).mpr ha.1, ?_⟩
    rcases toggle_container m now hik with h | ⟨-, -, hw, -⟩
    · rw [h]
      exact ha.2
    · have := ha.2
      simp [TrafficAlertElement.activeTrafDown, hw] at this
  refine ⟨fun i hi => ⟨fun ha => (hnew i ha).resolve_right fun h => by omega, hold i⟩,
    fun t ht i hi ha => ?_⟩
  rw [(toggle_frame m k now).1] at ht
  rw [hkeep.timeIntervalMs]
  rcases hnew i ha with ha | ⟨-, hle⟩
  · exact hb t ht i hi ha
  · exact hle t ht

theorem toggle_down (hs : Sound m) (hb : Bounded m) (hk : m.registered k)
    (hdown : (m.container k).direction = .down) (now : ℕ) :
    (∀ i < k, ArmedAt (m.toggle k now) i ↔ ArmedAt m i) ∧ Bounded (m.toggle k now) := by
  have hkeep := keeps_toggle m k now
  have hother : ∀ i, i ≠ k → (ArmedAt (m.toggle k now) i ↔ ArmedAt m i) := by
    intro i hik
    have hact : ((m.toggle k now).container i).activeTrafDown =
        (m.container i).activeTrafDown := by
      rcases toggle_container m now hik with h | ⟨-, ⟨x, hx⟩, -, h⟩
      · rw [h]
      · have hup : (m.container i).direction ≠ .down := by
          rw [← hdown]
          exact (hs.resets k x i hk hx).opposite
        rw [h]
        simp [TrafficAlertElement.activeTrafDown, TrafficAlertElement.arm, hup]
    unfold ArmedAt
    rw [hkeep.registered, hact]
  refine ⟨fun i hi => hother i hi.ne, fun t ht i hi ha => ?_⟩
  rw [(toggle_frame m k now).1] at ht
  rw [hkeep.timeIntervalMs]
  have hik : i ≠ k := by
    rintro rfl
    exact idle_of_kind (toggle_kind hs hk now) ha.2
  exact hb t ht i hi ((hother i hik).mp ha)

/-! ## The loop of a traffic event -/

/-- The alert `k` once `ActionFunc` has counted and `isThresholdUp` has looked at its `TimeOut`. -/
def counted (m : TrafficMonitorT) (k now : ℕ) (count : ℤ) : TrafficMonitorT :=
  if ((m.actionFunc k count).container k).timeOut < now then
    (m.actionFunc k count).beginInterval k now ((m.actionFunc k count).container k).lastCounte
  else m.actionFunc k count

/-- The alert `k` once `isThresholdUp` has set its next `TimeOut`. -/
def restarted (m : TrafficMonitorT) (k now : ℕ) : TrafficMonitorT :=
  (m.cross k).beginInterval k now 0

theorem isThresholdUp_eq (m : TrafficMonitorT) (react : ℕ → List NotifCall) (k now : ℕ)
    (count : ℤ) : (m.actionFunc k count).isThresholdUp react k now =
      if ((counted m k now count).container k).threshold <
          ((counted m k now count).container k).eventCounter then
        ((restarted (counted m k now count) k now).toggle k now).callBack react k
      else counted m k now count := by
  unfold isThresholdUp counted
  split <;> rfl

theorem same_restarted (m : TrafficMonitorT) (k now : ℕ) : SameArmed m (restarted m k now) :=
  (same_note m _).trans (same_beginInterval _ k now 0)

theorem keeps_restarted (m : TrafficMonitorT) (k now : ℕ) : Keeps m (restarted m k now) :=
  (keeps_cross m k).trans (keeps_beginInterval _ k now 0)

theorem same_counted (m : TrafficMonitorT) (k now : ℕ) (count : ℤ) :
    SameArmed m (counted m k now count) := by
  unfold counted
  split
  · exact (same_actionFunc m k count).trans (same_beginInterval _ k now _)
  · exact same_actionFunc m k count

theorem keeps_counted (m : TrafficMonitorT) (k now : ℕ) (count : ℤ) :
    Keeps m (counted m k now count) := by
  unfold counted
  split
  · exact (keeps_actionFunc m k count).trans (keeps_beginInterval _ k now _)
  · exact keeps_actionFunc m k count

/-- What the alert `k` does at a traffic event: if it is raised, it arms alerts behind it only and
the calls of its callback are settled. -/
def EventOk (react : ℕ → List NotifCall) (now : ℕ) (count : ℤ) (mask module k : ℕ) (p : Pass) :
    Prop :=
  (p.tm.container k).currentState ≠ .waitForReset →
    (p.tm.container k).monitorMask module &&& mask ≠ 0 → (p.tm.container k).direction = .up →
      ((counted p.tm k now count).container k).threshold <
          ((counted p.tm k now count).container k).eventCounter →
        ((p.tm.container k).trigger = .edge →
            ArmsBehind (restarted (counted p.tm k now count) k now) k) ∧
          CallBackOk react ((restarted (counted p.tm k now count) k now).toggle k now) k

instance (react : ℕ → List NotifCall) (now : ℕ) (count : ℤ) (mask module k : ℕ) (p : Pass) :
    Decidable (EventOk react now count mask module k p) :=
  inferInstanceAs (Decidable (_ → _ → _ → _ → _))

/-- What holds of a loop that has passed the slots below `j`. -/
structure Passed (j : ℕ) (p : Pass) : Prop where
  sound : Sound p.tm
  bounded : Bounded p.tm
  counted : Counted j p

/-- What holds of a loop that a callback has ended. -/
structure Ended (p : Pass) : Prop where
  sound : Sound p.tm
  right : TimerRight p.tm
  settled : 0 < p.activeTrafDownEventsNum ↔ ∃ k, ArmedAt p.tm k

theorem Passed.timerRight (h : Passed maxMonitoredReq p) : TimerRight p.changeDownTimerStatus :=
  right_of_counted h.sound h.bounded h.counted

theorem Ended.timerRight (h : Ended p) : TimerRight p.changeDownTimerStatus :=
  right_of_settled h.sound h.right h.settled

theorem Passed.skip (h : Passed j p) (hfree : p.tm.inuse j = false) : Passed (j + 1) p :=
  ⟨h.sound, h.bounded, h.counted.skip hfree⟩

theorem Passed.moved (h : Passed j p) (k : ℕ) : Passed j (Pass.list.moved k p) :=
  ⟨h.sound.keeps (keeps_moved p.tm k), (same_moved p.tm k).bounded h.bounded, h.counted.moved k⟩

theorem Passed.replace (h : Passed k p) (hk : Keeps p.tm m) (hb : Bounded m)
    (hbefore : ∀ i < k, ArmedAt m i ↔ ArmedAt p.tm i) : Passed k { p with tm := m } :=
  ⟨h.sound.keeps hk, hb, h.counted.congr hbefore hk.timeIntervalMs⟩

theorem Passed.same (h : Passed k p) (hk : Keeps p.tm m) (hsame : SameArmed p.tm m) :
    Passed k { p with tm := m } :=
  h.replace hk (hsame.bounded h.bounded) fun i _ => hsame.armedAt i

theorem Passed.count (h : Passed k p) (hr : p.tm.registered k) : Passed (k + 1) (p.count k) := by
  refine ⟨?_, ?_, h.counted.count hr⟩
  · rw [count_tm]
    exact h.sound
  · rw [count_tm]
    exact h.bounded

/-- How a visit of the loops ends: the loop has passed the alert, or is ended by its callback. -/
def Visited (k : ℕ) (p : Pass) : Prop :=
  (Passed (k + 1) p ∧ Pass.list.cursor p = k) ∨ (Ended p ∧ Pass.list.next p = none)

theorem pass_next (p : Pass) (h : list.next p.tm = none) : Pass.list.next p = none := by
  rw [Cursor.next, Option.map_eq_none_iff] at h ⊢
  exact h

theorem Passed.visited (h : Passed k p) (hr : p.tm.registered k) (hcur : p.tm.currentIndex = k) :
    Visited k (p.count k) := by
  refine Or.inl ⟨h.count hr, ?_⟩
  rw [count_cursor]
  exact hcur

/-- The alert `k` is raised, which changes nothing before it, and its callback is called. What
follows the callback does not arm it. -/
theorem Passed.callBack (h : Passed k p) (hr : p.tm.registered k) (hk : Keeps p.tm m)
    (hb : Bounded m) (hbefore : ∀ i < k, ArmedAt m i ↔ ArmedAt p.tm i)
    (hcb : CallBackOk react m k) (hcur : m.currentIndex = k) {f : TrafficMonitorT → TrafficMonitorT}
    (hfk : ∀ n, Keeps n (f n)) (hf : ∀ n, SameArmed n (f n))
    (hfc : ∀ n, (f n).currentIndex = n.currentIndex)
    (hidle : ¬ ((f (m.callBack react k)).container k).activeTrafDown = true) :
    Visited k (({ p with tm := f (m.callBack react k) } : Pass).count k) := by
  have hs := h.sound.keeps hk
  rcases callBack_cases hs hb hcb with heq | ⟨hright, hnext, hiff⟩
  · rw [heq]
    refine ((h.replace hk hb hbefore).same (hfk m) (hf m)).visited ?_ ((hfc m).trans hcur)
    exact ((hfk m).registered k).mpr ((hk.registered k).mpr hr)
  · rw [count_idle hidle]
    refine Or.inr ⟨⟨(hs.keeps (keeps_callBack m react k)).keeps (hfk _),
      (hf _).timerRight hright, ?_⟩, pass_next _ ?_⟩
    · rw [exists_congr fun j => (hf (m.callBack react k)).armedAt j, ← hiff, h.counted.some]
      exact exists_congr fun i => and_congr_right fun hi => (hbefore i hi).symm
    · rw [Cursor.next, Option.map_eq_none_iff] at hnext ⊢
      change nextSlot (f (m.callBack react k)).inuse maxMonitoredReq
        ((f (m.callBack react k)).currentIndex + 1) = none
      rw [(hf _).inuse, hfc]
      exact hnext

theorem eventElement_visited {count : ℤ} {mask module : ℕ} (h : Passed k p)
    (hr : p.tm.registered k) (hcur : p.tm.currentIndex = k)
    (hwait : (p.tm.container k).currentState ≠ .waitForReset)
    (hok : EventOk react now count mask module k p) :
    Visited k
      (({ p with tm := p.tm.eventElement react now count mask module k } : Pass).count k) := by
  unfold eventElement
  split
  · rename_i hmask
    split
    · rename_i hup
      have hkc := keeps_counted p.tm k now count
      have hsc := same_counted p.tm k now count
      have hcc : (counted p.tm k now count).currentIndex = k := by
        unfold counted
        split <;> exact hcur
      rw [isThresholdUp_eq]
      split
      · rename_i hcross
        obtain ⟨harm, hcb⟩ := hok hwait hmask hup hcross
        have hkr := hkc.trans (keeps_restarted _ k now)
        have hsr := hsc.trans (same_restarted _ k now)
        have hkt := hkr.trans (keeps_toggle _ k now)
        obtain ⟨hbefore, hb⟩ := toggle_up (h.sound.keeps hkr) (hsr.bounded h.bounded)
          ((hkr.registered k).mpr hr) ((hkr.direction k).trans hup)
          (fun he => harm ((hkr.trigger k).symm.trans he)) now
        refine h.callBack hr hkt hb (fun i hi => (hbefore i hi).trans (hsr.armedAt i)) hcb
          ((toggle_frame _ k now).2.trans hcc) Keeps.refl SameArmed.refl (fun _ => rfl) ?_
        exact not_active_of_up
          (((hkt.trans (keeps_callBack _ react k)).direction k).trans hup)
      · exact (h.same hkc hsc).visited ((hkc.registered k).mpr hr) hcc
    · exact (h.same (keeps_actionFunc _ k count) (same_actionFunc _ k count)).visited hr hcur
  · exact h.visited hr hcur

theorem event_rule (react : ℕ → List NotifCall) (now : ℕ) (count : ℤ) (mask module : ℕ) :
    Cursor.Rule Pass.list (Pass.eventVisit react now count mask module)
      (EventOk react now count mask module) Passed Ended where
  skip j p h _ hfree := h.skip hfree
  step k p h hk hu hok := by
    have hr : (Pass.list.moved k p).tm.registered k := ⟨hk, hu⟩
    unfold Pass.eventVisit
    split
    · rename_i hwait
      exact eventElement_visited (h.moved k) hr rfl hwait hok
    · rename_i hwait
      have hidle : ¬ ((Pass.list.moved k p).tm.container k).activeTrafDown = true := by
        simp [TrafficAlertElement.activeTrafDown, not_not.mp hwait]
      have := (h.moved k).visited hr rfl
      rwa [count_idle hidle] at this

theorem event_right (hs : Sound m) (hr : TimerRight m) (count : ℤ) (mask module : ℕ)
    (ha : Pass.list.along (Pass.eventVisit react m.osTimeStampMs count mask module)
      (EventOk react m.osTimeStampMs count mask module) { tm := m }) :
    TimerRight (m.eventLoop react count mask module) := by
  rcases (event_rule react m.osTimeStampMs count mask module).walk
    ⟨hs, hr.bounded, counted_zero m⟩ ha with h | h
  · exact h.timerRight
  · exact h.timerRight

/-! ## The loop of the down timer -/

/-- What the alert `k` does when the timer expires: if it is raised, the calls of its callback are
settled. -/
def TimeOutOk (react : ℕ → List NotifCall) (now k : ℕ) (p : Pass) : Prop :=
  (p.tm.container k).currentState ≠ .waitForReset → (p.tm.container k).direction = .down →
    (p.tm.container k).timeOut ≤ now →
      (p.tm.container k).eventCounter ≤ (p.tm.container k).threshold →
        CallBackOk react ((p.tm.cross k).toggle k now) k

instance (react : ℕ → List NotifCall) (now k : ℕ) (p : Pass) :
    Decidable (TimeOutOk react now k p) :=
  inferInstanceAs (Decidable (_ → _ → _ → _ → _))

theorem callBack_idle
    (h : (m.container k).currentState ≠ .off ∨ (m.container k).trigger ≠ .edge)
    (react : ℕ → List NotifCall) :
    ¬ ((m.callBack react k).container k).activeTrafDown = true := by
  apply idle_of_kind
  unfold TrafficMonitorT.callBack
  split
  · rw [notifs_container]
    exact h
  · exact h

theorem isThresholdDown_visited (h : Passed k p) (hr : p.tm.registered k)
    (hcur : p.tm.currentIndex = k) (hwait : (p.tm.container k).currentState ≠ .waitForReset)
    (hdown : (p.tm.container k).direction = .down) (hok : TimeOutOk react now k p) :
    Visited k (({ p with tm := p.tm.isThresholdDown react k now } : Pass).count k) := by
  simp only [isThresholdDown]
  split
  · rename_i htime
    split
    · rename_i hcross
      have hcb := hok hwait hdown htime hcross
      have hkt := (keeps_cross p.tm k).trans (keeps_toggle _ k now)
      have hsn : SameArmed p.tm (p.tm.cross k) := same_note _ _
      have hsc := h.sound.keeps (keeps_cross p.tm k)
      obtain ⟨hbefore, hb⟩ := toggle_down hsc (hsn.bounded h.bounded) hr hdown now
      refine h.callBack hr hkt hb (fun i hi => (hbefore i hi).trans (hsn.armedAt i)) hcb
        ((toggle_frame _ k now).2.trans hcur) (f := fun n => n.beginInterval k now 0)
        (fun n => keeps_beginInterval n k now 0) (fun n => same_beginInterval n k now 0)
        (fun _ => rfl) ?_
      rw [(same_beginInterval _ k now 0).active]
      exact callBack_idle (toggle_kind hsc hr now) react
    · exact (h.same (keeps_beginInterval _ k now 0) (same_beginInterval _ k now 0)).visited hr hcur
  · split
    · exact (h.same (keeps_beginInterval _ k now 0) (same_beginInterval _ k now 0)).visited hr hcur
    · exact h.visited hr hcur

theorem timeOut_rule (react : ℕ → List NotifCall) (now : ℕ) :
    Cursor.Rule Pass.list (Pass.timeOutVisit react now) (TimeOutOk react now) Passed Ended where
  skip j p h _ hfree := h.skip hfree
  step k p h hk hu hok := by
    have hr : (Pass.list.moved k p).tm.registered k := ⟨hk, hu⟩
    unfold Pass.timeOutVisit
    split
    · rename_i hc
      exact isThresholdDown_visited (h.moved k) hr rfl hc.1 hc.2 hok
    · exact (h.moved k).visited hr rfl

theorem timeOut_right (hs : Sound m) (hr : TimerRight m)
    (ha : Pass.list.along (Pass.timeOutVisit react m.osTimeStampMs)
      (TimeOutOk react m.osTimeStampMs) { tm := m }) : TimerRight (m.timeOut react) := by
  rcases (timeOut_rule react m.osTimeStampMs).walk ⟨hs, hr.bounded, counted_zero m⟩ ha with h | h
  · exact h.timerRight
  · exact h.timerRight

end ArchosGpl.Wlan.TrafficMonitor
