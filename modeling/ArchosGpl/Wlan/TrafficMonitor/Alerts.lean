import ArchosGpl.Wlan.TrafficMonitor.Model

/-!
# What the operations keep of the alerts

`Keeps`: between registrations an operation changes of an alert only its state, counters, time-out,
whether it is enabled and whether it has a reset condition, and an edge alert is never on
(`keeps_event`, `keeps_timeOut`, `keeps_start`, `keeps_stop` and the client functions).
-/

namespace ArchosGpl.Wlan.TrafficMonitor

open Lib TrafficMonitorT

/-! ## What an operation between registrations keeps -/

/-- What registration decides about an alert. -/
def TrafficAlertElement.fixed (e : TrafficAlertElement) : TrafficAlertElement :=
  { e with
    currentState := .waitForReset
    eventCounter := 0
    timeOut := 0
    enabled := false
    lastCounte := 0
    rstWasAssigned := false }

/-- The operation that leads from `m` to `m'` registers and starts nothing. -/
structure Keeps (m m' : TrafficMonitorT) : Prop where
  active : m'.active = m.active
  inuse : m'.inuse = m.inuse
  time : m'.time = m.time
  percent : m'.trafficDownTestIntervalPercent = m.trafficDownTestIntervalPercent
  fixed : ∀ k, (m'.container k).fixed = (m.container k).fixed
  edge : ∀ k, (m.container k).trigger = .edge → (m.container k).currentState ≠ .on →
    (m'.container k).currentState ≠ .on
  flag : m.downTimerEnabled = m.hTrafficMonTimer.isSome →
    m'.downTimerEnabled = m'.hTrafficMonTimer.isSome

variable {m m' m'' : TrafficMonitorT} {p : Pass} {react : ℕ → List NotifCall} {i j k now : ℕ}

namespace Keeps

theorem refl (m : TrafficMonitorT) : Keeps m m where
  active := rfl
  inuse := rfl
  time := rfl
  percent := rfl
  fixed _ := rfl
  edge _ _ h := h
  flag h := h

theorem direction (h : Keeps m m') (k : ℕ) :
    (m'.container k).direction = (m.container k).direction := by
  have := congrArg TrafficAlertElement.direction (h.fixed k)
  exact this

theorem trigger (h : Keeps m m') (k : ℕ) : (m'.container k).trigger = (m.container k).trigger := by
  have := congrArg TrafficAlertElement.trigger (h.fixed k)
  exact this

theorem timeIntervalMs (h : Keeps m m') (k : ℕ) :
    (m'.container k).timeIntervalMs = (m.container k).timeIntervalMs := by
  have := congrArg TrafficAlertElement.timeIntervalMs (h.fixed k)
  exact this

theorem resetElment (h : Keeps m m') (k : ℕ) :
    (m'.container k).resetElment = (m.container k).resetElment := by
  have := congrArg TrafficAlertElement.resetElment (h.fixed k)
  exact this

theorem registered (h : Keeps m m') (k : ℕ) : m'.registered k ↔ m.registered k := by
  unfold TrafficMonitorT.registered
  rw [h.inuse]

theorem trans (h : Keeps m m') (h' : Keeps m' m'') : Keeps m m'' where
  active := h'.active.trans h.active
  inuse := h'.inuse.trans h.inuse
  time := h'.time.trans h.time
  percent := h'.percent.trans h.percent
  fixed k := (h'.fixed k).trans (h.fixed k)
  edge k ht hs := h'.edge k ((h.trigger k).trans ht) (h.edge k ht hs)
  flag hf := h'.flag (h.flag hf)

end Keeps

@[simp] theorem note_container (m : TrafficMonitorT) (x : Note) :
    (m.note x).container = m.container := rfl

@[simp] theorem modify_self (m : TrafficMonitorT) (i : ℕ)
    (f : TrafficAlertElement → TrafficAlertElement) :
    (m.modify i f).container i = f (m.container i) := Function.update_self ..

theorem modify_of_ne (m : TrafficMonitorT) {f : TrafficAlertElement → TrafficAlertElement}
    (h : k ≠ i) : (m.modify i f).container k = m.container k := Function.update_of_ne h ..

theorem keeps_modify {f : TrafficAlertElement → TrafficAlertElement}
    (hfix : (f (m.container i)).fixed = (m.container i).fixed)
    (hedge : (m.container i).trigger = .edge → (m.container i).currentState ≠ .on →
      (f (m.container i)).currentState ≠ .on) : Keeps m (m.modify i f) where
  active := rfl
  inuse := rfl
  time := rfl
  percent := rfl
  fixed k := by
    rcases eq_or_ne k i with rfl | hk
    · rw [modify_self, hfix]
    · rw [modify_of_ne m hk]
  edge k ht hs := by
    rcases eq_or_ne k i with rfl | hk
    · rw [modify_self]
      exact hedge ht hs
    · rwa [modify_of_ne m hk]
  flag h := h

theorem Keeps.of_container (hc : m'.container = m.container) (ha : m'.active = m.active)
    (hi : m'.inuse = m.inuse) (ht : m'.time = m.time)
    (hp : m'.trafficDownTestIntervalPercent = m.trafficDownTestIntervalPercent)
    (hf : m.downTimerEnabled = m.hTrafficMonTimer.isSome →
      m'.downTimerEnabled = m'.hTrafficMonTimer.isSome) : Keeps m m' where
  active := ha
  inuse := hi
  time := ht
  percent := hp
  fixed k := by rw [hc]
  edge k _ hs := by rwa [hc]
  flag := hf

theorem keeps_note (m : TrafficMonitorT) (x : Note) : Keeps m (m.note x) :=
  .of_container rfl rfl rfl rfl rfl id

theorem keeps_moved (m : TrafficMonitorT) (k : ℕ) : Keeps m (list.moved k m) :=
  .of_container rfl rfl rfl rfl rfl id

theorem keeps_walk {visit : ℕ → TrafficMonitorT → TrafficMonitorT}
    (h : ∀ k m, Keeps m (visit k m)) (m : TrafficMonitorT) : Keeps m (list.walk visit m) :=
  Cursor.walk_invariant (fun k _ hm _ _ => (hm.trans (keeps_moved _ k)).trans (h k _)) (.refl m)

theorem keeps_passWalk {visit : ℕ → Pass → Pass} (h : ∀ k p, Keeps p.tm (visit k p).tm) (p : Pass) :
    Keeps p.tm (Pass.list.walk visit p).tm :=
  Cursor.walk_invariant (P := fun q : Pass => Keeps p.tm q.tm)
    (fun k q hq _ _ => (hq.trans (keeps_moved q.tm k)).trans (h k (Pass.list.moved k q)))
    (.refl p.tm)

/-! ## The down timer -/

@[simp] theorem count_tm (k : ℕ) (p : Pass) : (p.count k).tm = p.tm := by
  simp only [Pass.count]
  split <;> rfl

theorem keeps_changeDownTimerStatus (m : TrafficMonitorT) (n t : ℕ) :
    Keeps m (m.changeDownTimerStatus n t) := by
  unfold changeDownTimerStatus
  split
  · exact .of_container rfl rfl rfl rfl rfl fun _ => rfl
  · split
    · exact .of_container rfl rfl rfl rfl rfl fun _ => rfl
    · exact .refl m

theorem keeps_update (m : TrafficMonitorT) : Keeps m m.updateDownTrafficTimerState :=
  (keeps_passWalk (fun k p => by rw [count_tm]; exact .refl _) { tm := m }).trans
    (keeps_changeDownTimerStatus _ _ _)

theorem keeps_enabled (m : TrafficMonitorT) (i : ℕ) (b : Bool) :
    Keeps m (m.modify i fun e => { e with enabled := b }) :=
  keeps_modify rfl fun _ hs => hs

theorem keeps_startEventNotif (m : TrafficMonitorT) (i : ℕ) : Keeps m (m.startEventNotif i) :=
  (keeps_enabled m i true).trans (keeps_update _)

theorem keeps_stopEventNotif (m : TrafficMonitorT) (i : ℕ) : Keeps m (m.stopEventNotif i) :=
  (keeps_enabled m i false).trans (keeps_update _)

theorem keeps_off (m : TrafficMonitorT) (i : ℕ) :
    Keeps m (m.modify i fun e => { e with currentState := .off }) :=
  keeps_modify rfl fun _ _ => by simp

theorem keeps_resetEvent (m : TrafficMonitorT) (i : ℕ) : Keeps m (m.resetEvent i) :=
  (keeps_off m i).trans (keeps_update _)

theorem keeps_notif (m : TrafficMonitorT) (c : NotifCall) : Keeps m (m.notif c) := by
  cases c with
  | start i => exact keeps_startEventNotif m i
  | stop i => exact keeps_stopEventNotif m i

theorem keeps_notifs (m : TrafficMonitorT) (cs : List NotifCall) : Keeps m (cs.foldl notif m) := by
  induction cs generalizing m with
  | nil => exact .refl m
  | cons c cs ih => exact (keeps_notif m c).trans (ih _)

/-! ## Thresholds -/

theorem keeps_beginInterval (m : TrafficMonitorT) (i now : ℕ) (c : ℤ) :
    Keeps m (m.beginInterval i now c) :=
  (keeps_modify rfl fun _ hs => hs).trans (keeps_note _ _)

theorem keeps_armReset (m : TrafficMonitorT) (now : ℕ) (r : Option ℕ) :
    Keeps m (m.armReset now r) := by
  cases r with
  | none => exact .refl m
  | some j =>
    rw [armReset]
    split
    · exact (keeps_modify rfl fun _ _ => by simp).trans (keeps_note _ _)
    · exact .refl m

theorem keeps_armResets (m : TrafficMonitorT) (k now : ℕ) : Keeps m (m.armResets k now) := by
  unfold armResets
  generalize (List.finRange 3).map (m.container k).resetElment = rs
  induction rs generalizing m with
  | nil => exact .refl m
  | cons r rs ih => exact (keeps_armReset m now r).trans (ih _)

theorem keeps_wait (m : TrafficMonitorT) (i : ℕ) :
    Keeps m (m.modify i fun e => { e with currentState := .waitForReset }) :=
  keeps_modify rfl fun _ _ => by simp

theorem keeps_toggle (m : TrafficMonitorT) (k now : ℕ) : Keeps m (m.toggle k now) := by
  unfold toggle
  split
  · exact (keeps_wait m k).trans (keeps_armResets _ k now)
  · rename_i hl
    exact keeps_modify rfl fun he => by simp [hl] at he

theorem keeps_callBack (m : TrafficMonitorT) (react : ℕ → List NotifCall) (k : ℕ) :
    Keeps m (m.callBack react k) := by
  unfold callBack
  split
  · exact keeps_notifs m (react k)
  · exact .refl m

theorem keeps_cross (m : TrafficMonitorT) (k : ℕ) : Keeps m (m.cross k) := keeps_note m _

theorem keeps_checkUp (m : TrafficMonitorT) (react : ℕ → List NotifCall) (k now : ℕ) :
    Keeps m (m.checkUp react k now) := by
  unfold checkUp
  split
  · exact (((keeps_cross m k).trans (keeps_beginInterval _ k now 0)).trans
      (keeps_toggle _ k now)).trans (keeps_callBack _ react k)
  · exact .refl m

theorem keeps_isThresholdUp (m : TrafficMonitorT) (react : ℕ → List NotifCall) (k now : ℕ) :
    Keeps m (m.isThresholdUp react k now) := by
  unfold isThresholdUp
  split
  · exact (keeps_beginInterval m k now _).trans (keeps_checkUp _ react k now)
  · exact keeps_checkUp m react k now

theorem keeps_isThresholdDown (m : TrafficMonitorT) (react : ℕ → List NotifCall) (k now : ℕ) :
    Keeps m (m.isThresholdDown react k now) := by
  simp only [isThresholdDown]
  split
  · split
    · exact (((keeps_cross m k).trans (keeps_toggle _ k now)).trans
        (keeps_callBack _ react k)).trans (keeps_beginInterval _ k now 0)
    · exact keeps_beginInterval m k now 0
  · split
    · exact keeps_beginInterval m k now 0
    · exact .refl m

theorem keeps_actionFunc (m : TrafficMonitorT) (k : ℕ) (count : ℤ) :
    Keeps m (m.actionFunc k count) :=
  (keeps_modify rfl fun _ hs => hs).trans (keeps_note _ _)

/-! ## Events, the timer, start and stop -/

theorem keeps_eventElement (m : TrafficMonitorT) (react : ℕ → List NotifCall) (now : ℕ) (count : ℤ)
    (mask module k : ℕ) : Keeps m (m.eventElement react now count mask module k) := by
  unfold eventElement
  split
  · split
    · exact (keeps_actionFunc m k count).trans (keeps_isThresholdUp _ react k now)
    · exact keeps_actionFunc m k count
  · exact .refl m

theorem keeps_eventVisit (p : Pass) (react : ℕ → List NotifCall) (now : ℕ) (count : ℤ)
    (mask module k : ℕ) : Keeps p.tm (p.eventVisit react now count mask module k).tm := by
  unfold Pass.eventVisit
  split
  · rw [count_tm]
    exact keeps_eventElement p.tm react now count mask module k
  · exact .refl p.tm

theorem keeps_timeOutVisit (p : Pass) (react : ℕ → List NotifCall) (now k : ℕ) :
    Keeps p.tm (p.timeOutVisit react now k).tm := by
  unfold Pass.timeOutVisit
  split
  · rw [count_tm]
    exact keeps_isThresholdDown p.tm react k now
  · rw [count_tm]
    exact .refl p.tm

theorem keeps_timeOut (m : TrafficMonitorT) (react : ℕ → List NotifCall) :
    Keeps m (m.timeOut react) :=
  (keeps_passWalk (fun k p => keeps_timeOutVisit p react _ k) { tm := m }).trans
    (keeps_changeDownTimerStatus _ _ _)

theorem keeps_eventLoop (m : TrafficMonitorT) (react : ℕ → List NotifCall) (count : ℤ)
    (mask module : ℕ) : Keeps m (m.eventLoop react count mask module) :=
  (keeps_passWalk (fun k p => keeps_eventVisit p react _ count mask module k) { tm := m }).trans
    (keeps_changeDownTimerStatus _ _ _)

theorem keeps_eventBW {mask module : ℕ} (h : m.eventBW mask module = some m') : Keeps m m' := by
  simp only [eventBW] at h
  split at h
  · split at h
    · cases h
      exact .of_container rfl rfl rfl rfl rfl id
    · cases h
      exact .refl m
  · split at h
    · split at h
      · cases h
        exact .of_container rfl rfl rfl rfl rfl id
      · cases h
        exact .refl m
    · cases h

theorem keeps_event (m : TrafficMonitorT) (react : ℕ → List NotifCall) (count : ℤ)
    (mask module : ℕ) : Keeps m (m.event react count mask module) := by
  unfold event
  split
  · split
    · rename_i h
      exact (keeps_eventBW h).trans (keeps_eventLoop _ react count mask module)
    · exact .refl m
  · exact .refl m

theorem keeps_startElement (now k : ℕ) (m : TrafficMonitorT) : Keeps m (startElement now k m) := by
  unfold startElement
  split
  · exact keeps_beginInterval m k now 0
  · exact .refl m

theorem keeps_start (m : TrafficMonitorT) :
    ∃ m', Keeps m m' ∧ m.start = { m' with active := true } := by
  refine ⟨_, ?_, rfl⟩
  refine Keeps.trans ?_ ((keeps_note _ .started).trans (keeps_walk (keeps_startElement _) _))
  split
  · exact .refl m
  · exact keeps_update m

theorem keeps_stop (m : TrafficMonitorT) :
    ∃ m', m'.container = m.container ∧ m'.inuse = m.inuse ∧ m'.active = false ∧
      m'.trafficDownTestIntervalPercent = m.trafficDownTestIntervalPercent ∧
      (m.downTimerEnabled = m.hTrafficMonTimer.isSome →
        m'.downTimerEnabled = m'.hTrafficMonTimer.isSome) ∧ Keeps m' m.stop := by
  refine ⟨_, ?_, ?_, ?_, ?_, ?_, keeps_walk (fun k m => keeps_off m k) _⟩
  · split <;> rfl
  · split <;> rfl
  · split
    · rfl
    · rename_i h
      exact eq_false_of_ne_true h
  · split <;> rfl
  · split
    · exact fun _ => rfl
    · exact id

end ArchosGpl.Wlan.TrafficMonitor
