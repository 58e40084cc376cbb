import ArchosGpl.Wlan.TrafficMonitor.Recount

/-!
# When the down timer runs

Results:
* **`downTimer_right`**: in every run whose steps are `Clean`, the timer is right whenever the
  monitor is active.
* **`down_alert_without_timer`**: an up alert registered after its down alert arms it and leaves the
  timer stopped.
-/

namespace ArchosGpl.Wlan.TrafficMonitor

open Lib TrafficMonitorT

variable {m m' m'' : TrafficMonitorT} {p : Pass} {react : ℕ → List NotifCall} {j k now : ℕ}

/-! ## The other operations -/

theorem keeps_same_startElement (now k : ℕ) (m : TrafficMonitorT) :
    SameArmed m (startElement now k m) := by
  unfold startElement
  split
  · exact same_beginInterval m k now 0
  · exact .refl m

theorem same_active (m : TrafficMonitorT) : SameArmed m { m with active := true } :=
  .of_container rfl rfl rfl

theorem start_right (hs : Sound m) (hact : m.active = true → TimerRight m)
    (hina : m.active = false → Bounded m) : TimerRight m.start := by
  unfold start
  dsimp only
  have hr : TimerRight (if m.active then m else m.updateDownTrafficTimerState) := by
    split
    · rename_i h
      exact hact h
    · rename_i h
      exact right_update hs (hina (eq_false_of_ne_true h))
  generalize (if m.active then m else m.updateDownTrafficTimerState) = n at hr ⊢
  have hsame : SameArmed n (list.walk (startElement n.osTimeStampMs) (n.note .started)) :=
    Cursor.walk_invariant (P := fun q => SameArmed n q)
      (fun k q hq _ _ => (hq.trans (same_moved q k)).trans (keeps_same_startElement _ k _))
      (same_note n .started)
  exact (hsame.trans (same_active _)).timerRight hr

/-- Fewer alerts are armed. -/
structure Fewer (m m' : TrafficMonitorT) : Prop where
  timer : m'.hTrafficMonTimer = m.hTrafficMonTimer
  armed : ∀ k, ArmedAt m' k → ArmedAt m k ∧
    (m'.container k).timeIntervalMs = (m.container k).timeIntervalMs

namespace Fewer

theorem trans (h : Fewer m m') (h' : Fewer m' m'') : Fewer m m'' where
  timer := h'.timer.trans h.timer
  armed k ha := by
    obtain ⟨ha, hi⟩ := h'.armed k ha
    exact ⟨(h.armed k ha).1, hi.trans (h.armed k ha).2⟩

theorem bounded (h : Fewer m m') (hb : Bounded m) : Bounded m' := by
  intro t ht k hk ha
  obtain ⟨ha, hi⟩ := h.armed k ha
  rw [h.timer] at ht
  rw [hi]
  exact hb t ht k hk ha

theorem alloc {i : ℕ} (h : Allocated m i m') : Fewer m m' where
  timer := h.timer
  armed k ha := by
    rcases (h.registered k).mp ha.1 with rfl | hk
    · have := ha.2
      rw [h.new] at this
      cases this
    · have := ha.2
      rw [h.old (h.ne hk)] at this ⊢
      exact ⟨⟨hk, this⟩, rfl⟩

theorem disabled {i : ℕ} {f : TrafficAlertElement → TrafficAlertElement}
    (hf : (f (m.container i)).enabled = false) : Fewer m (m.modify i f) where
  timer := rfl
  armed k ha := by
    rcases eq_or_ne k i with rfl | hk
    · have := ha.2
      rw [modify_self] at this
      simp [TrafficAlertElement.activeTrafDown, hf] at this
    · have := ha.2
      rw [modify_of_ne m hk] at this ⊢
      exact ⟨⟨ha.1, this⟩, rfl⟩

theorem free (m : TrafficMonitorT) (i : ℕ) : Fewer m (m.listFreeElement (some i)) where
  timer := rfl
  armed k ha := by
    refine ⟨⟨⟨ha.1.1, ?_⟩, ha.2⟩, rfl⟩
    have := ha.1.2
    rcases eq_or_ne k i with rfl | hk
    · simp [listFreeElement] at this
    · simpa [listFreeElement, Function.update_of_ne hk] using this

end Fewer

theorem fewer_fillElement {i : ℕ} {q : TrafficAlertRegParm} {auto : Bool} (hr : m.registered i)
    (hf : m.fillElement q auto i = some m') : Fewer m m' := by
  have hi : Fewer m (m.modify i (m.initElement q)) := .disabled rfl
  simp only [fillElement] at hf
  split at hf
  · obtain ⟨⟨j, n⟩, hn, rfl⟩ := Option.map_eq_some_iff.mp hf
    have ha := allocated hn
    have hij : i ≠ j := ha.ne hr
    have hen : (n.container i).enabled = false := by
      rw [ha.old hij, modify_self]
      rfl
    refine ((hi.trans (.alloc ha)).trans (.disabled hen)).trans (.disabled ?_)
    rw [modify_of_ne n hij]
    exact hen
  · cases hf
    refine hi.trans (.disabled ?_)
    rw [modify_self]
    rfl
  · cases hf
    exact hi

theorem regEvent_right (hs : Sound m) (hr : TimerRight m) (q : TrafficAlertRegParm) (auto : Bool) :
    TimerRight (m.regEvent q auto).2 := by
  unfold regEvent
  split
  · exact hr
  · rename_i i n hn
    have ha := allocated hn
    have hi := hs.alloc_fresh ha
    have hfew : Fewer m n := .alloc ha
    split
    · have hout : ∀ k, m.registered k → k ≠ i := fun k hk => ha.ne hk
      have hall := (hfew.trans (.disabled (i := i) (f := n.initElement q) rfl)).trans (.free _ i)
      refine ⟨?_, fun t ht k hk => ?_⟩
      · rw [hall.timer, hr.running]
        constructor
        · rintro ⟨k, hk⟩
          have hki := hout k hk.1
          refine ⟨k, ⟨⟨hk.1.1, ?_⟩, ?_⟩⟩
          · change Function.update n.inuse i false k = true
            rw [Function.update_of_ne hki, ha.inuse, Function.update_of_ne hki]
            exact hk.1.2
          · change ((n.modify i (n.initElement q)).container k).activeTrafDown = true
            rw [modify_of_ne n hki, ha.old hki]
            exact hk.2
        · rintro ⟨k, hk⟩
          exact ⟨k, (hall.armed k hk).1⟩
      · obtain ⟨hk', hint⟩ := hall.armed k hk
        rw [hall.timer] at ht
        rw [hint]
        exact hr.period t ht k hk'
    · rename_i hf
      exact right_update (sound_fillElement (hs.alloc ha) hi hf)
        ((hfew.trans (fewer_fillElement hi.registered hf)).bounded hr.bounded)

/-- An alert that ends its wait for a reset condition, and is armed by that, does so while the timer
runs with a period within its interval. -/
theorem assignRst_right {i t : ℕ} (hr : TimerRight m)
    (hi : (m.container i).rstWasAssigned = false → (m.container i).enabled = true →
      (m.container i).direction = .down →
        ∃ t ∈ m.hTrafficMonTimer, t ≤ (m.container i).timeIntervalMs) :
    TimerRight (m.assignRst i t) := by
  unfold assignRst
  split
  · exact hr
  · rename_i hasg
    refine (same_note _ _).timerRight ?_
    let f (e : TrafficAlertElement) : TrafficAlertElement :=
      { e with
        rstWasAssigned := true
        currentState := .off
        timeOut := add32 m.osTimeStampMs t
        eventCounter := 0 }
    have hold : ∀ k, ArmedAt m k → ArmedAt (m.modify i f) k := by
      intro k ha
      refine ⟨ha.1, ?_⟩
      rcases eq_or_ne k i with rfl | hk
      · rw [modify_self]
        have := ha.2
        simp only [TrafficAlertElement.activeTrafDown, Bool.and_eq_true, decide_eq_true_eq] at this ⊢
        exact ⟨⟨this.1.1, rfl⟩, this.2⟩
      · rw [modify_of_ne m hk]
        exact ha.2
    have hnew : ∀ k, ArmedAt (m.modify i f) k → ArmedAt m k ∨
        (k = i ∧ ∃ t ∈ m.hTrafficMonTimer, t ≤ (m.container i).timeIntervalMs) := by
      intro k ha
      rcases eq_or_ne k i with rfl | hk
      · have := ha.2
        rw [modify_self] at this
        simp only [TrafficAlertElement.activeTrafDown, Bool.and_eq_true, decide_eq_true_eq] at this
        exact Or.inr ⟨rfl, hi (eq_false_of_ne_true hasg) this.2 this.1.1.1⟩
      · have := ha.2
        rw [modify_of_ne m hk] at this
        exact Or.inl ⟨ha.1, this⟩
    refine ⟨?_, fun s hs k ha => ?_⟩
    · change m.hTrafficMonTimer.isSome = true ↔ _
      constructor
      · intro hrun
        obtain ⟨k, hk⟩ := hr.running.mp hrun
        exact ⟨k, hold k hk⟩
      · rintro ⟨k, hk⟩
        rcases hnew k hk with hk | ⟨-, s, hs, -⟩
        · exact hr.running.mpr ⟨k, hk⟩
        · exact Option.isSome_of_mem hs
    · change s ∈ m.hTrafficMonTimer at hs
      rcases hnew k ha with hk | ⟨rfl, s', hs', hle⟩
      · have hint : ((m.modify i f).container k).timeIntervalMs =
            (m.container k).timeIntervalMs := by
          rcases eq_or_ne k i with rfl | hki
          · rw [modify_self]
          · rw [modify_of_ne m hki]
        rw [hint]
        exact hr.period s hs k hk
      · obtain rfl := Option.mem_unique hs hs'
        rw [modify_self]
        exact hle

theorem same_setReset (m : TrafficMonitorT) (k : ℕ) (x : Fin 3) (r : Option ℕ) :
    SameArmed m (m.modify k fun e => e.setReset x r) :=
  .modify rfl rfl

/-- `TrafficMonitor_SetRstCondition` ends the wait of the alert `k`. -/
def ArmedByRst (m : TrafficMonitorT) (i j : ℕ) (mutualRst : Bool) (k : ℕ) : Prop :=
  m.rstValid i j = true ∧ (m.container j).findRstElemEntryIndex ≠ none ∧
    (k = i ∨ (mutualRst = true ∧ (m.container i).findRstElemEntryIndex ≠ none ∧ k = j)) ∧
    (m.container k).rstWasAssigned = false

instance (m : TrafficMonitorT) (i j : ℕ) (b : Bool) (k : ℕ) : Decidable (ArmedByRst m i j b k) :=
  inferInstanceAs (Decidable (_ ∧ _))

/-- The enabled down alerts whose wait `TrafficMonitor_SetRstCondition` ends find the timer running,
with a period within their interval. -/
def RstOk (m : TrafficMonitorT) (i j : ℕ) (mutualRst : Bool) : Prop :=
  ∀ k < maxMonitoredReq, ArmedByRst m i j mutualRst k → (m.container k).enabled = true →
    (m.container k).direction = .down →
      ∃ t ∈ m.hTrafficMonTimer, t ≤ (m.container k).timeIntervalMs

instance (m : TrafficMonitorT) (i j : ℕ) (b : Bool) : Decidable (RstOk m i j b) :=
  inferInstanceAs (Decidable (∀ k < maxMonitoredReq, _ → _ → _ → _))

theorem assignRst_container (m : TrafficMonitorT) {i k : ℕ} (t : ℕ) (hk : k ≠ i) :
    (m.assignRst i t).container k = m.container k := by
  unfold assignRst
  split
  · rfl
  · rw [note_container, modify_of_ne m hk]

theorem assignRst_timer (m : TrafficMonitorT) (i t : ℕ) :
    (m.assignRst i t).hTrafficMonTimer = m.hTrafficMonTimer := by
  unfold assignRst
  split <;> rfl

theorem setRstCondition_right {i : ℕ} (hr : TimerRight m) (hi : m.registered i)
    (hj : m.registered j) {b : Bool} (hok : RstOk m i j b) :
    TimerRight (m.setRstCondition i j b) := by
  unfold setRstCondition
  split
  · rename_i hv
    have hij : i ≠ j := by
      rintro rfl
      exact absurd rfl (linked_of_rstValid hv hi).opposite
    split
    · exact hr
    · rename_i x hx
      have hfree : (m.container j).findRstElemEntryIndex ≠ none := by simp [hx]
      have hc : (m.modify j fun e => e.setReset x (some i)).container i = m.container i :=
        modify_of_ne m hij
      have hr' := ((same_setReset m j x (some i)).timerRight hr)
      have hr'' : TimerRight ((m.modify j fun e => e.setReset x (some i)).assignRst i
          (m.container i).timeIntervalMs) := by
        refine assignRst_right hr' ?_
        rw [hc]
        exact fun hasg => hok i hi.1 ⟨hv, hfree, Or.inl rfl, hasg⟩
      dsimp only
      split
      · rename_i hb
        have hcj : ((m.modify j fun e => e.setReset x (some i)).assignRst i
            (m.container i).timeIntervalMs).container j =
              (m.container j).setReset x (some i) := by
          rw [assignRst_container _ _ hij.symm, modify_self]
        have hci : (((m.modify j fun e => e.setReset x (some i)).assignRst i
            (m.container i).timeIntervalMs).container i).resetElment =
              (m.container i).resetElment := by
          rw [(keeps_assignRst _ i _).resetElment, hc]
        have htm : ((m.modify j fun e => e.setReset x (some i)).assignRst i
            (m.container i).timeIntervalMs).hTrafficMonTimer = m.hTrafficMonTimer :=
          assignRst_timer ..
        generalize (m.modify j fun e => e.setReset x (some i)).assignRst i
          (m.container i).timeIntervalMs = n at hr'' hcj hci htm ⊢
        unfold setMutualRst
        split
        · exact (same_setReset n j x none).timerRight hr''
        · rename_i y hy
          refine assignRst_right ((same_setReset n i y (some j)).timerRight hr'') ?_
          rw [modify_of_ne n hij.symm, hcj]
          intro hasg hen hdown
          have hfree' : (m.container i).findRstElemEntryIndex ≠ none := by
            unfold TrafficAlertElement.findRstElemEntryIndex at hy ⊢
            rw [← hci, hy]
            simp
          have := hok j hj.1 ⟨hv, hfree, Or.inr ⟨hb, hfree', rfl⟩, hasg⟩ hen hdown
          rw [← htm] at this
          exact this
      · exact hr''
  · exact hr

theorem unregEvent_right (hs : Sound m) (hr : TimerRight m) (i : ℕ) :
    TimerRight (m.unregEvent i) := by
  rw [unregEvent_eq]
  have hsame : SameArmed m (m.cleanRelatedRef i) :=
    Cursor.walk_invariant (P := fun q => SameArmed m q)
      (fun k q hq _ _ => (hq.trans (same_moved q k)).trans (.modify rfl rfl)) (.refl m)
  obtain ⟨hs', hu⟩ := sound_cleanRelatedRef hs i
  exact right_update (hs'.free hu) ((Fewer.free _ i).bounded (hsame.bounded hr.bounded))

/-- `TrafficMonitor_ResetEvent` arms an alert whose interval is no shorter than the period. -/
def ResetOk (m : TrafficMonitorT) (i : ℕ) : Prop :=
  ∀ t ∈ m.hTrafficMonTimer,
    ({ m.container i with currentState := .off } : TrafficAlertElement).activeTrafDown = true →
      t ≤ (m.container i).timeIntervalMs

instance (m : TrafficMonitorT) (i : ℕ) : Decidable (ResetOk m i) :=
  inferInstanceAs (Decidable (∀ t ∈ m.hTrafficMonTimer, _ → _))

theorem resetEvent_right {i : ℕ} (hs : Sound m) (hr : TimerRight m) (hok : ResetOk m i) :
    TimerRight (m.resetEvent i) := by
  refine right_update (hs.keeps (keeps_off m i)) fun t ht k hk ha => ?_
  have := ha.2
  rcases eq_or_ne k i with rfl | hki
  · rw [modify_self] at this ⊢
    exact hok t ht this
  · rw [modify_of_ne m hki] at this ⊢
    exact hr.period t ht k ⟨ha.1, this⟩

/-! ## Runs -/

/-- On an active monitor, an alert that is armed while the timer runs has an interval no shorter
than the period, and a loop that raises alerts arms only alerts behind them; the timer of a monitor
that is started has a period within the intervals. -/
def Clean (m : TrafficMonitorT) : Op → Prop
  | .start => m.active = false → Bounded m
  | .setRstCondition i j b => m.active = true → RstOk m i j b
  | .startEventNotif i => m.active = true → CallOk m (.start i)
  | .resetEvent i => m.active = true → ResetOk m i
  | .event react count mask module => m.active = true → ∀ n ∈ m.eventBW mask module,
    Pass.list.along (Pass.eventVisit react n.osTimeStampMs count mask module)
      (EventOk react n.osTimeStampMs count mask module) { tm := n }
  | .timeOut react => m.active = true →
    Pass.list.along (Pass.timeOutVisit react m.osTimeStampMs) (TimeOutOk react m.osTimeStampMs)
      { tm := m }
  | _ => True

instance (m : TrafficMonitorT) : (op : Op) → Decidable (Clean m op)
  | .elapse _ => isTrue trivial
  | .start => inferInstanceAs (Decidable (_ → _))
  | .stop => isTrue trivial
  | .regEvent _ _ => isTrue trivial
  | .setRstCondition _ _ _ => inferInstanceAs (Decidable (_ → _))
  | .startEventNotif _ => inferInstanceAs (Decidable (_ → _))
  | .stopEventNotif _ => isTrue trivial
  | .resetEvent _ => inferInstanceAs (Decidable (_ → _))
  | .unregEvent _ => isTrue trivial
  | .event _ _ mask module => inferInstanceAs (Decidable (_ → ∀ n ∈ m.eventBW mask module, _))
  | .timeOut _ => inferInstanceAs (Decidable (_ → _))

theorem regEvent_active (m : TrafficMonitorT) (q : TrafficAlertRegParm) (auto : Bool) :
    (m.regEvent q auto).2.active = m.active := by
  unfold regEvent
  split
  · rfl
  · rename_i i n hn
    have ha := (allocated hn).active
    split
    · exact ha
    · rename_i n' hf
      rw [(keeps_update n').active, ← ha]
      simp only [fillElement] at hf
      split at hf
      · obtain ⟨⟨j, n''⟩, hn'', rfl⟩ := Option.map_eq_some_iff.mp hf
        exact (allocated hn'').active
      · cases hf
        rfl
      · cases hf
        rfl

theorem assignRst_active (m : TrafficMonitorT) (i t : ℕ) : (m.assignRst i t).active = m.active :=
  (keeps_assignRst m i t).active

theorem setRstCondition_active (m : TrafficMonitorT) (i j : ℕ) (b : Bool) :
    (m.setRstCondition i j b).active = m.active := by
  unfold setRstCondition
  split
  · split
    · rfl
    · dsimp only
      split
      · unfold setMutualRst
        split
        · exact assignRst_active ..
        · exact (assignRst_active ..).trans (assignRst_active ..)
      · exact assignRst_active ..
  · rfl

theorem unregEvent_active (m : TrafficMonitorT) (i : ℕ) : (m.unregEvent i).active = m.active := by
  rw [unregEvent_eq, (keeps_update _).active]
  exact Cursor.walk_invariant (P := fun q : TrafficMonitorT => q.active = m.active)
    (fun _ _ h _ _ => h) rfl

theorem stop_active (m : TrafficMonitorT) : m.stop.active = false := by
  obtain ⟨n, -, -, ha, -, -, hk⟩ := keeps_stop m
  rw [hk.active, ha]

theorem same_elapse (m : TrafficMonitorT) (ms : ℕ) :
    SameArmed m { m with time := m.time + ms } :=
  .of_container rfl rfl rfl

theorem same_eventBW {mask module : ℕ} (h : m.eventBW mask module = some m') : SameArmed m m' := by
  unfold eventBW at h
  split at h
  · split at h
    · cases h
      exact .of_container rfl rfl rfl
    · cases h
      exact .refl m
  · split at h
    · split at h
      · cases h
        exact .of_container rfl rfl rfl
      · cases h
        exact .refl m
    · cases h

theorem right_step {op : Op} (hs : Sound m) (hr : m.active = true → TimerRight m)
    (hc : Clean m op) (ht : m.step op = some m') (hact : m'.active = true) : TimerRight m' := by
  cases op with
  | elapse ms =>
    cases ht
    exact (same_elapse m ms).timerRight (hr hact)
  | start =>
    cases ht
    exact start_right hs hr hc
  | stop =>
    cases ht
    rw [stop_active] at hact
    cases hact
  | regEvent q auto =>
    cases ht
    exact regEvent_right hs (hr ((regEvent_active m q auto).symm.trans hact)) q auto
  | setRstCondition i j b =>
    obtain ⟨⟨hi, hj⟩, rfl⟩ := of_guard ht
    have ha := (setRstCondition_active m i j b).symm.trans hact
    exact setRstCondition_right (hr ha) hi hj (hc ha)
  | startEventNotif i =>
    obtain ⟨-, rfl⟩ := of_guard ht
    have ha := (keeps_startEventNotif m i).active.symm.trans hact
    exact right_notif (c := .start i) hs (hr ha).bounded (hc ha)
  | stopEventNotif i =>
    obtain ⟨-, rfl⟩ := of_guard ht
    have ha := (keeps_stopEventNotif m i).active.symm.trans hact
    exact right_notif (c := .stop i) hs (hr ha).bounded trivial
  | resetEvent i =>
    obtain ⟨-, rfl⟩ := of_guard ht
    have ha := (keeps_resetEvent m i).active.symm.trans hact
    exact resetEvent_right hs (hr ha) (hc ha)
  | unregEvent i =>
    obtain ⟨-, rfl⟩ := of_guard ht
    exact unregEvent_right hs (hr ((unregEvent_active m i).symm.trans hact)) i
  | event react count mask module =>
    cases ht
    have ha := (keeps_event m react count mask module).active.symm.trans hact
    unfold event
    rw [if_pos ha]
    split
    · rename_i n hn
      have hk := keeps_eventBW hn
      exact event_right (hs.keeps hk) ((same_eventBW hn).timerRight (hr ha)) count mask module
        (hc ha n hn)
    · exact hr ha
  | timeOut react =>
    obtain ⟨-, rfl⟩ := of_guard ht
    have ha := (keeps_timeOut m react).active.symm.trans hact
    exact timeOut_right hs (hr ha) (hc ha)

/-- **The down timer**: in every run whose steps are clean, whenever the monitor is active the timer
runs exactly while an enabled down edge alert is armed, with a period within its interval. -/
theorem downTimer_right {ops : List Op} (he : exec step init ops = some m)
    (hc : Along step Clean init ops) (hact : m.active = true) : TimerRight m := by
  have h := Along.invariant (I := fun m : TrafficMonitorT =>
      Sound m ∧ (m.active = true → TimerRight m))
    (fun n op n' ⟨hs, hr⟩ hop ht => ⟨sound_step hs ht, fun ha => right_step hs hr hop ht ha⟩)
    ⟨sound_init, fun ha => by cases ha⟩ hc he
  exact h.2 hact

/-- A second without traffic raises the down alert, then a frame raises the up alert. -/
def quietThenFrame : List Op :=
  [.startEventNotif 0, .startEventNotif 1, .start, .elapse 1000, .timeOut fun _ => [],
    .event (fun _ => []) 100 directedFrames txTraffModule]

/-- The up alert is registered first. -/
theorem downTimer_right_upFirst : ∃ m,
    exec step init ([.regEvent (frames .up 0) false, .regEvent (frames .down 5) false,
      .setRstCondition 0 1 true] ++ quietThenFrame) = some m ∧ TimerRight m ∧ ArmedAt m 1 := by
  have h : (exec step init ([.regEvent (frames .up 0) false, .regEvent (frames .down 5) false,
      .setRstCondition 0 1 true] ++ quietThenFrame)).any
        (fun m => m.active && decide (ArmedAt m 1)) = true := by decide +kernel
  obtain ⟨m, he, hm⟩ := (Option.any_eq_true _ _).mp h
  obtain ⟨hact, harm⟩ := Bool.and_eq_true_iff.mp hm
  exact ⟨m, he, downTimer_right he (by decide +kernel) hact, of_decide_eq_true harm⟩

/-- **The down alert is registered first**, as the power manager does: the up alert arms it after
the loop has passed it, and the timer stays stopped. -/
theorem down_alert_without_timer : ∃ m,
    exec step init ([.regEvent (frames .down 5) false, .regEvent (frames .up 0) false,
      .setRstCondition 1 0 true] ++ quietThenFrame) = some m ∧ m.active = true ∧
        ¬ TimerRight m := by
  have h : (exec step init ([.regEvent (frames .down 5) false, .regEvent (frames .up 0) false,
      .setRstCondition 1 0 true] ++ quietThenFrame)).any
        (fun m => m.active && (m.hTrafficMonTimer.isNone && decide (ArmedAt m 0))) = true := by
    decide +kernel
  obtain ⟨m, he, hm⟩ := (Option.any_eq_true _ _).mp h
  obtain ⟨hact, hm⟩ := Bool.and_eq_true_iff.mp hm
  obtain ⟨hnone, harm⟩ := Bool.and_eq_true_iff.mp hm
  refine ⟨m, he, hact, fun hr => ?_⟩
  have hrun := hr.running.mpr ⟨0, of_decide_eq_true harm⟩
  rw [Option.isNone_iff_eq_none.mp hnone] at hrun
  cases hrun

end ArchosGpl.Wlan.TrafficMonitor
