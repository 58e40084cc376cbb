import Mathlib.Data.List.Chain
import ArchosGpl.Wlan.TrafficMonitor.Intervals

/-!
# Two edge alerts that reset one another

`Mutual m u d`: an up and a down edge alert are reset elements of one another, and of no other
alert.

Results:
* **`pair_alternates`**: in every run of traffic events, expiries of the timer, stops and starts,
  the two alternate since the last start, and each was ready whenever it was raised.
* **`raised_twice`**: a stop and a start arm both, and the same alert is raised twice in a row.
-/

namespace ArchosGpl.Wlan.TrafficMonitor

open Lib TrafficMonitorT

/-! ## The pair -/

/-- The up alert `u` and the down alert `d` are edge alerts, reset elements of one another and of no
other alert. -/
structure Mutual (m : TrafficMonitorT) (u d : ℕ) : Prop where
  upRegistered : m.registered u
  downRegistered : m.registered d
  up : (m.container u).direction = .up
  down : (m.container d).direction = .down
  upEdge : (m.container u).trigger = .edge
  downEdge : (m.container d).trigger = .edge
  upResets : ∃ x, (m.container u).resetElment x = some d
  downResets : ∃ x, (m.container d).resetElment x = some u
  upAlone : ∀ k, m.registered k → ∀ x, (m.container k).resetElment x = some u → k = d
  downAlone : ∀ k, m.registered k → ∀ x, (m.container k).resetElment x = some d → k = u

instance (m : TrafficMonitorT) (u d : ℕ) : Decidable (Mutual m u d) :=
  decidable_of_iff
    (m.registered u ∧ m.registered d ∧ (m.container u).direction = .up ∧
      (m.container d).direction = .down ∧ (m.container u).trigger = .edge ∧
      (m.container d).trigger = .edge ∧ (∃ x, (m.container u).resetElment x = some d) ∧
      (∃ x, (m.container d).resetElment x = some u) ∧
      (∀ k < maxMonitoredReq, m.registered k → ∀ x,
        (m.container k).resetElment x = some u → k = d) ∧
      ∀ k < maxMonitoredReq, m.registered k → ∀ x, (m.container k).resetElment x = some d → k = u)
    ⟨fun ⟨hu, hd, hup, hdn, hue, hde, hur, hdr, hua, hda⟩ =>
      ⟨hu, hd, hup, hdn, hue, hde, hur, hdr, fun k hk => hua k hk.1 hk, fun k hk => hda k hk.1 hk⟩,
    fun h => ⟨h.upRegistered, h.downRegistered, h.up, h.down, h.upEdge, h.downEdge, h.upResets,
      h.downResets, fun k _ => h.upAlone k, fun k _ => h.downAlone k⟩⟩

/-- The slots of the pair among the alerts raised. -/
def Note.raised (u d : ℕ) : Note → Option ℕ
  | .crossed k _ _ => if k = u ∨ k = d then some k else none
  | _ => none

def Note.isStarted : Note → Bool
  | .started => true
  | _ => false

/-- Which of the pair were raised since the monitor was last started, in order. -/
def crossings (u d : ℕ) (l : List Note) : List ℕ :=
  (since Note.isStarted l).filterMap (Note.raised u d)

/-- The slots of the pair among the callbacks called. -/
def Note.heard (u d : ℕ) : Note → Option ℕ
  | .crossed k _ true => if k = u ∨ k = d then some k else none
  | _ => none

/-- The callbacks of the pair called since the monitor was last started, in order. -/
def callbacks (u d : ℕ) (l : List Note) : List ℕ :=
  (since Note.isStarted l).filterMap (Note.heard u d)

variable {m m' : TrafficMonitorT} {react : ℕ → List NotifCall} {u d i k now : ℕ}

variable {x : Note}

theorem crossings_snoc (l : List Note) (hx : x.isStarted = false) :
    crossings u d (l ++ [x]) = crossings u d l ++ (x.raised u d).toList := by
  unfold crossings
  rw [since_snoc_of_other hx, List.filterMap_append]
  cases hr : x.raised u d <;> simp [hr]

theorem Mutual.congr (h : Mutual m u d) (hi : m'.inuse = m.inuse)
    (hf : ∀ k, (m'.container k).fixed = (m.container k).fixed) : Mutual m' u d := by
  have hreg : ∀ k, m'.registered k ↔ m.registered k := fun k => by
    unfold TrafficMonitorT.registered
    rw [hi]
  have hdir : ∀ k, (m'.container k).direction = (m.container k).direction := fun k => by
    have := congrArg TrafficAlertElement.direction (hf k)
    exact this
  have htrig : ∀ k, (m'.container k).trigger = (m.container k).trigger := fun k => by
    have := congrArg TrafficAlertElement.trigger (hf k)
    exact this
  have hres : ∀ k, (m'.container k).resetElment = (m.container k).resetElment := fun k => by
    have := congrArg TrafficAlertElement.resetElment (hf k)
    exact this
  refine ⟨(hreg u).mpr h.upRegistered, (hreg d).mpr h.downRegistered, (hdir u).trans h.up,
    (hdir d).trans h.down, (htrig u).trans h.upEdge, (htrig d).trans h.downEdge, ?_, ?_, ?_, ?_⟩
  · rw [hres]
    exact h.upResets
  · rw [hres]
    exact h.downResets
  · intro k hk x hx
    rw [hres] at hx
    exact h.upAlone k ((hreg k).mp hk) x hx
  · intro k hk x hx
    rw [hres] at hx
    exact h.downAlone k ((hreg k).mp hk) x hx

theorem Mutual.keeps (h : Mutual m u d) (hk : Keeps m m') : Mutual m' u d :=
  h.congr hk.inuse hk.fixed

/-- `p` is the other one of the pair. -/
def Partner (u d k p : ℕ) : Prop := (k = u ∧ p = d) ∨ (k = d ∧ p = u)

/-! ## Taking turns -/

/-- The alert `k` was raised last: it waits and its partner is armed. -/
def LastRaised (u d : ℕ) (m : TrafficMonitorT) (k : ℕ) : Prop :=
  ∃ p, Partner u d k p ∧ (m.container k).currentState = .waitForReset ∧
    (m.container p).currentState = .off

/-- The pair is raised in turn. -/
structure Turn (u d : ℕ) (m : TrafficMonitorT) : Prop where
  chain : (crossings u d m.log).IsChain (· ≠ ·)
  last : ∀ k ∈ (crossings u d m.log).getLast?, LastRaised u d m k

/-- Nothing happens to the pair. -/
structure Quiet (u d : ℕ) (m m' : TrafficMonitorT) : Prop where
  crossings : crossings u d m'.log = crossings u d m.log
  up : (m'.container u).currentState = (m.container u).currentState
  down : (m'.container d).currentState = (m.container d).currentState

theorem Quiet.refl (u d : ℕ) (m : TrafficMonitorT) : Quiet u d m m := ⟨rfl, rfl, rfl⟩

theorem Quiet.trans {m'' : TrafficMonitorT} (h : Quiet u d m m') (h' : Quiet u d m' m'') :
    Quiet u d m m'' :=
  ⟨h'.crossings.trans h.crossings, h'.up.trans h.up, h'.down.trans h.down⟩

theorem Turn.quiet (h : Turn u d m) (hq : Quiet u d m m') : Turn u d m' := by
  refine ⟨by rw [hq.crossings]; exact h.chain, fun k hk => ?_⟩
  rw [hq.crossings] at hk
  obtain ⟨p, hp, hw, ho⟩ := h.last k hk
  rcases hp with ⟨rfl, rfl⟩ | ⟨rfl, rfl⟩
  · exact ⟨_, Or.inl ⟨rfl, rfl⟩, hq.up.trans hw, hq.down.trans ho⟩
  · exact ⟨_, Or.inr ⟨rfl, rfl⟩, hq.down.trans hw, hq.up.trans ho⟩

theorem quiet_note (m : TrafficMonitorT) (hs : x.isStarted = false)
    (hr : x.raised u d = none) : Quiet u d m (m.note x) := by
  refine ⟨?_, rfl, rfl⟩
  rw [TrafficMonitorT.note, crossings_snoc _ hs, hr, Option.toList_none, List.append_nil]

theorem quiet_modify (m : TrafficMonitorT) {f : TrafficAlertElement → TrafficAlertElement}
    (hf : k = u ∨ k = d → (f (m.container k)).currentState = (m.container k).currentState) :
    Quiet u d m (m.modify k f) := by
  have hstate : ∀ i, i = u ∨ i = d →
      ((m.modify k f).container i).currentState = (m.container i).currentState := by
    intro i hi
    rcases eq_or_ne i k with rfl | hik
    · rw [modify_self, hf hi]
    · rw [modify_of_ne m hik]
  exact ⟨rfl, hstate u (Or.inl rfl), hstate d (Or.inr rfl)⟩

theorem quiet_beginInterval (m : TrafficMonitorT) (k now : ℕ) (c : ℤ) :
    Quiet u d m (m.beginInterval k now c) :=
  (quiet_modify m fun _ => rfl).trans (quiet_note _ rfl rfl)

theorem quiet_actionFunc (m : TrafficMonitorT) (k : ℕ) (n : ℤ) : Quiet u d m (m.actionFunc k n) :=
  (quiet_modify m fun _ => rfl).trans (quiet_note _ rfl rfl)

theorem quiet_callBack (m : TrafficMonitorT) (react : ℕ → List NotifCall) (k : ℕ) :
    Quiet u d m (m.callBack react k) := by
  refine ⟨by rw [callBack_log], ?_, ?_⟩
  · obtain ⟨b, hb⟩ := callBack_container m react k u
    rw [hb]
  · obtain ⟨b, hb⟩ := callBack_container m react k d
    rw [hb]

theorem toggle_crossings (m : TrafficMonitorT) (k now : ℕ) :
    crossings u d (m.toggle k now).log = crossings u d m.log := by
  have harm : ∀ (n : TrafficMonitorT) (r : Option ℕ),
      crossings u d (n.armReset now r).log = crossings u d n.log := by
    intro n r
    cases r with
    | none => rfl
    | some j =>
      rw [armReset]
      split
      · exact (quiet_note (u := u) (d := d) (n.modify j _) (x := .armed j n.time) rfl rfl).crossings
      · rfl
  have hlist : ∀ (rs : List (Option ℕ)) (n : TrafficMonitorT),
      crossings u d (rs.foldl (fun m r => m.armReset now r) n).log = crossings u d n.log := by
    intro rs
    induction rs with
    | nil => exact fun _ => rfl
    | cons r rs ih => exact fun n => (ih _).trans (harm n r)
  unfold toggle
  split
  · exact hlist _ _
  · rfl

theorem quiet_toggle (hm : Mutual m u d) (hr : m.registered k) (hku : k ≠ u) (hkd : k ≠ d)
    (now : ℕ) : Quiet u d m (m.toggle k now) := by
  refine ⟨toggle_crossings m k now, ?_, ?_⟩
  · rcases toggle_container m now hku.symm with h | ⟨-, ⟨x, hx⟩, -, -⟩
    · rw [h]
    · exact absurd (hm.upAlone k hr x hx) hkd
  · rcases toggle_container m now hkd.symm with h | ⟨-, ⟨x, hx⟩, -, -⟩
    · rw [h]
    · exact absurd (hm.downAlone k hr x hx) hku

theorem armResets_arms (m : TrafficMonitorT) (now : ℕ) {i : ℕ}
    (hi : ∃ x, (m.container k).resetElment x = some i) :
    ((m.armResets k now).container i).currentState ≠ .waitForReset := by
  have hkeep : ∀ (n : TrafficMonitorT) (r : Option ℕ),
      (n.container i).currentState ≠ .waitForReset →
        ((n.armReset now r).container i).currentState ≠ .waitForReset := by
    intro n r hn
    rcases armReset_container n now r i with h | ⟨-, hw, -⟩
    · rwa [h]
    · exact absurd hw hn
  have hlist : ∀ (rs : List (Option ℕ)) (n : TrafficMonitorT),
      ((n.container i).currentState ≠ .waitForReset ∨ some i ∈ rs) →
        ((rs.foldl (fun m r => m.armReset now r) n).container i).currentState ≠ .waitForReset := by
    intro rs
    induction rs with
    | nil => exact fun n hn => hn.resolve_right (by simp)
    | cons r rs ih =>
      intro n hn
      refine ih (n.armReset now r) ?_
      rcases hn with hn | hmem
      · exact Or.inl (hkeep n r hn)
      · rcases List.mem_cons.mp hmem with rfl | hmem
        · refine Or.inl ?_
          rcases armReset_container n now (some i) i with h | ⟨-, -, h⟩
          · intro hw
            rw [h] at hw
            rw [armReset, if_pos hw, note_container, modify_self] at h
            have := congrArg TrafficAlertElement.currentState h
            rw [hw] at this
            cases this
          · rw [h]
            exact fun h => by cases h
        · exact Or.inr hmem
  obtain ⟨x, hx⟩ := hi
  exact hlist _ m (Or.inr (List.mem_map.mpr ⟨x, List.mem_finRange x, hx⟩))

theorem toggle_pair (hs : Sound m) {p : ℕ} (hr : m.registered k)
    (hedge : (m.container k).trigger = .edge)
    (hp : ∃ x, (m.container k).resetElment x = some p) (now : ℕ) :
    ((m.toggle k now).container k).currentState = .waitForReset ∧
      ((m.toggle k now).container p).currentState = .off := by
  obtain ⟨x, hx⟩ := hp
  have hl := hs.resets k x p hr hx
  have hon := (hs.keeps (keeps_toggle m k now)).edge p
    (((keeps_toggle m k now).trigger p).trans hl.resetEdge)
  unfold toggle at hon ⊢
  rw [hedge] at hon ⊢
  constructor
  · have hw := armResets_container
      (m.modify k fun e => { e with currentState := .waitForReset }) k now k
    rw [modify_self] at hw
    rcases hw with h | ⟨⟨y, hy⟩, -, -⟩
    · rw [h]
    · exact absurd rfl (hs.resets k y k hr hy).opposite
  · have hne := armResets_arms (m.modify k fun e => { e with currentState := .waitForReset }) now
      (k := k) (i := p) ⟨x, by rw [modify_self]; exact hx⟩
    generalize ((m.modify k fun e => { e with currentState := .waitForReset }).armResets k
      now).container p = e at hon hne ⊢
    cases hst : e.currentState with
    | waitForReset => exact absurd hst hne
    | off => rfl
    | on => exact absurd hst hon

theorem Turn.toggle (h : Turn u d m) (hm : Mutual m u d) (hs : Sound m) (hr : m.registered k)
    (hw : (m.container k).currentState ≠ .waitForReset) (hk : Keeps m m')
    (hq : Quiet u d (m.cross k) m') (now : ℕ) : Turn u d (m'.toggle k now) := by
  by_cases hpair : k = u ∨ k = d
  · have hlog : crossings u d (m'.toggle k now).log = crossings u d m.log ++ [k] := by
      rw [toggle_crossings, hq.crossings]
      change crossings u d (m.log ++ [_]) = _
      rw [crossings_snoc _ rfl]
      simp [Note.raised, hpair]
    obtain ⟨p, hpart, hres, hedge⟩ : ∃ p, Partner u d k p ∧
        (∃ x, (m.container k).resetElment x = some p) ∧ (m.container k).trigger = .edge := by
      rcases hpair with rfl | rfl
      · exact ⟨d, Or.inl ⟨rfl, rfl⟩, hm.upResets, hm.upEdge⟩
      · exact ⟨u, Or.inr ⟨rfl, rfl⟩, hm.downResets, hm.downEdge⟩
    obtain ⟨hwait, hoff⟩ := toggle_pair (hs.keeps hk) ((hk.registered k).mpr hr)
      ((hk.trigger k).trans hedge) (by rw [hk.resetElment]; exact hres) now
    refine ⟨?_, fun l hl => ?_⟩
    · rw [hlog, List.isChain_append]
      refine ⟨h.chain, List.isChain_singleton k, fun l hl y hy => ?_⟩
      obtain rfl : k = y := by simpa using hy
      rintro rfl
      obtain ⟨-, -, hlw, -⟩ := h.last l hl
      exact hw hlw
    · rw [hlog, List.getLast?_concat] at hl
      cases hl
      exact ⟨p, hpart, hwait, hoff⟩
  · obtain ⟨hku, hkd⟩ := not_or.mp hpair
    have hcross : Quiet u d m (m.cross k) :=
      quiet_note m (x := .crossed k m.time (m.notified k)) rfl (if_neg hpair)
    exact h.quiet ((hcross.trans hq).trans
      (quiet_toggle (hm.keeps hk) ((hk.registered k).mpr hr) hku hkd now))

theorem Turn.move (h : Turn u d m) (hm : Mutual m u d) (hs : Sound m) (hmove : Move react m m') :
    Turn u d m' := by
  cases hmove with
  | aside hk hc hl => exact h.quiet ⟨by rw [hl], by rw [hc], by rw [hc]⟩
  | count k n => exact h.quiet (quiet_actionFunc m k n)
  | interval k c => exact h.quiet (quiet_beginInterval m k _ c)
  | raiseUp k hr hw =>
    exact h.toggle hm hs hr hw (keeps_restarted m k _) (quiet_beginInterval _ k _ 0) _
  | raiseDown k hr hw => exact h.toggle hm hs hr hw (keeps_cross m k) (.refl ..) _
  | calls k => exact h.quiet (quiet_callBack m react k)

theorem Turn.moves (h : Turn u d m) (hm : Mutual m u d) (hs : Sound m)
    (hmoves : Moves react m m') : Turn u d m' := by
  induction hmoves with
  | refl => exact h
  | tail hms hmove ih =>
    have hk := Moves.keeps hms
    exact ih.move (hm.keeps hk) (hs.keeps hk) hmove

/-! ## Callbacks -/

/-- The alert `i` is enabled and has a callback, which was called whenever it was raised. -/
structure Heard (i : ℕ) (m : TrafficMonitorT) : Prop where
  callBack : (m.container i).callBack = true
  enabled : (m.container i).enabled = true
  called : ∀ t c, Note.crossed i t c ∈ m.log → c = true

theorem Heard.note (h : Heard i m) (hx : ∀ t, x ≠ .crossed i t false) : Heard i (m.note x) where
  callBack := h.callBack
  enabled := h.enabled
  called t c hc := by
    rcases List.mem_append.mp hc with hc | hc
    · exact h.called t c hc
    · obtain rfl := List.mem_singleton.mp hc
      cases c with
      | true => rfl
      | false => exact absurd rfl (hx t)

theorem Heard.modify (h : Heard i m) (k : ℕ) {f : TrafficAlertElement → TrafficAlertElement}
    (hf : ∀ e, (f e).callBack = e.callBack ∧ (f e).enabled = e.enabled) : Heard i (m.modify k f) := by
  rcases eq_or_ne i k with rfl | hik
  · refine ⟨?_, ?_, h.called⟩
    · rw [modify_self, (hf _).1]
      exact h.callBack
    · rw [modify_self, (hf _).2]
      exact h.enabled
  · refine ⟨?_, ?_, h.called⟩
    · rw [modify_of_ne m hik]
      exact h.callBack
    · rw [modify_of_ne m hik]
      exact h.enabled

theorem Heard.congr (h : Heard i m) (hc : m'.container = m.container) (hl : m'.log = m.log) :
    Heard i m' := by
  refine ⟨?_, ?_, ?_⟩
  · rw [hc]
    exact h.callBack
  · rw [hc]
    exact h.enabled
  · rw [hl]
    exact h.called

theorem Heard.interval (h : Heard i m) (k now : ℕ) (c : ℤ) : Heard i (m.beginInterval k now c) := by
  refine (h.modify k ?_).note ?_
  · exact fun _ => ⟨rfl, rfl⟩
  · exact fun _ => by simp

theorem Heard.cross (h : Heard i m) (k : ℕ) : Heard i (m.cross k) := by
  refine h.note fun t ht => ?_
  obtain ⟨rfl, -, hn⟩ := Note.crossed.inj ht
  rw [notified, h.callBack, h.enabled] at hn
  cases hn

theorem Heard.armReset (h : Heard i m) (now : ℕ) (r : Option ℕ) : Heard i (m.armReset now r) := by
  cases r with
  | none => exact h
  | some j =>
    rw [TrafficMonitorT.armReset]
    split
    · refine (h.modify j ?_).note ?_
      · exact fun _ => ⟨rfl, rfl⟩
      · exact fun _ => by simp
    · exact h

theorem Heard.toggle (h : Heard i m) (k now : ℕ) : Heard i (m.toggle k now) := by
  have hlist : ∀ (rs : List (Option ℕ)) (n : TrafficMonitorT), Heard i n →
      Heard i (rs.foldl (fun m r => m.armReset now r) n) := by
    intro rs
    induction rs with
    | nil => exact fun _ hn => hn
    | cons r rs ih => exact fun n hn => ih _ (hn.armReset now r)
  unfold TrafficMonitorT.toggle
  split
  · exact hlist _ _ (h.modify k fun _ => ⟨rfl, rfl⟩)
  · exact h.modify k fun _ => ⟨rfl, rfl⟩

theorem enabledAfter_true {calls : List NotifCall} (h : .stop i ∉ calls) :
    enabledAfter i true calls = true := by
  induction calls with
  | nil => rfl
  | cons c calls ih =>
    have hc : c ≠ .stop i := fun hc => h (hc ▸ List.mem_cons_self)
    have := ih fun hm => h (List.mem_cons_of_mem c hm)
    cases c with
    | start j =>
      simp only [enabledAfter, List.foldl_cons, ite_self] at this ⊢
      exact this
    | stop j =>
      have hj : j ≠ i := fun hj => hc (hj ▸ rfl)
      simp only [enabledAfter, List.foldl_cons, if_neg hj] at this ⊢
      exact this

theorem Heard.calls (h : Heard i m) (hreact : ∀ k, .stop i ∉ react k) (k : ℕ) :
    Heard i (m.callBack react k) := by
  unfold TrafficMonitorT.callBack
  split
  · refine ⟨?_, ?_, ?_⟩
    · rw [notifs_container]
      exact h.callBack
    · rw [notifs_container, h.enabled]
      exact enabledAfter_true (hreact k)
    · rw [notifs_log]
      exact h.called
  · exact h

theorem Heard.move (h : Heard i m) (hreact : ∀ k, .stop i ∉ react k) (hmove : Move react m m') :
    Heard i m' := by
  cases hmove with
  | aside hk hc hl => exact h.congr hc hl
  | count k n =>
    refine (h.modify k ?_).note ?_
    · exact fun _ => ⟨rfl, rfl⟩
    · exact fun _ => by simp
  | interval k c => exact h.interval k _ c
  | raiseUp k => exact ((h.cross k).interval k _ 0).toggle k _
  | raiseDown k => exact (h.cross k).toggle k _
  | calls k => exact h.calls hreact k

theorem Heard.moves (h : Heard i m) (hreact : ∀ k, .stop i ∉ react k)
    (hmoves : Moves react m m') : Heard i m' := by
  induction hmoves with
  | refl => exact h
  | tail _ hmove ih => exact ih.move hreact hmove

theorem callbacks_eq (hu : Heard u m) (hd : Heard d m) :
    callbacks u d m.log = crossings u d m.log := by
  refine List.filterMap_congr fun x hx => ?_
  have hmem : x ∈ m.log := mem_of_mem_since hx
  cases x with
  | crossed k t c =>
    cases c with
    | true => rfl
    | false =>
      refine (if_neg ?_).symm
      rintro (rfl | rfl)
      · exact absurd (hu.called t false hmem) (by simp)
      · exact absurd (hd.called t false hmem) (by simp)
  | _ => rfl

/-! ## Sessions -/

/-- Traffic events, expiries of the timer, the passing of time, stops and starts. -/
def InSession : Op → Prop
  | .elapse _ | .start | .stop | .event .. | .timeOut _ => True
  | _ => False

/-- No callback disables the alert `i`. -/
def KeepsEnabled (i : ℕ) : Op → Prop
  | .event react .. | .timeOut react => ∀ k, .stop i ∉ react k
  | _ => True

theorem start_crossings (m : TrafficMonitorT) : crossings u d m.start.log = [] := by
  unfold start
  generalize (if m.active then m else m.updateDownTrafficTimerState) = n
  refine Cursor.walk_invariant (P := fun q : TrafficMonitorT => crossings u d q.log = [])
    (fun k q hq _ _ => ?_) ?_
  · unfold startElement
    split
    · exact (quiet_beginInterval (list.moved k q) k _ 0).crossings.trans hq
    · exact hq
  · change crossings u d (n.log ++ [.started]) = []
    unfold crossings
    rw [since_snoc_of_mark rfl, List.filterMap_nil]

theorem start_heard (h : Heard i m) : Heard i m.start := by
  unfold start
  have hn : Heard i (if m.active then m else m.updateDownTrafficTimerState) := by
    split
    · exact h
    · exact h.congr (update_container m) (update_log m)
  generalize (if m.active then m else m.updateDownTrafficTimerState) = n at hn ⊢
  have hw : Heard i (list.walk (startElement n.osTimeStampMs) (n.note .started)) := by
    refine Cursor.walk_invariant (P := Heard i) (fun k q hq _ _ => ?_) (hn.note fun _ => by simp)
    have hm : Heard i (list.moved k q) := hq.congr rfl rfl
    unfold startElement
    split
    · exact hm.interval k _ 0
    · exact hm
  exact hw.congr rfl rfl

theorem stop_heard (h : Heard i m) : Heard i m.stop := by
  refine Cursor.walk_invariant (P := Heard i) (fun k q hq _ _ => ?_) ?_
  · exact (hq.congr rfl rfl : Heard i (list.moved k q)).modify k fun _ => ⟨rfl, rfl⟩
  · split
    · exact h.congr rfl rfl
    · exact h

theorem stop_timer (h : m.active = true ∨ m.hTrafficMonTimer = none) :
    m.stop.hTrafficMonTimer = none := by
  unfold stop
  refine Cursor.walk_invariant (P := fun q : TrafficMonitorT => q.hTrafficMonTimer = none)
    (fun _ _ hq _ _ => hq) ?_
  split
  · rfl
  · rename_i hact
    exact h.resolve_left hact

/-- What holds of a session after it was first started: `eu` and `ed` are the two alerts as they
were registered. -/
structure Session (eu ed : TrafficAlertElement) (u d : ℕ) (m : TrafficMonitorT) : Prop where
  sound : Sound m
  pair : Mutual m u d
  timer : m.active = true ∨ m.hTrafficMonTimer = none
  up : Logged eu u m
  down : Logged ed d m
  chain : (crossings u d m.log).IsChain (· ≠ ·)
  running : m.active = true → Turn u d m ∧ Timed m u ∧ Timed m d

theorem Logged.elapse {e : TrafficAlertElement} (h : Logged e i m) (ms : ℕ) :
    Logged e i { m with time := m.time + ms } :=
  ⟨h.fixed, fun a ha => (h.armed a ha).trans (Nat.le_add_right _ _), h.ready⟩

theorem Timed.elapse (h : Timed m i) (ms : ℕ) : Timed { m with time := m.time + ms } i :=
  fun hs => by
    obtain ⟨t, hw, hout, hle, ha⟩ := h hs
    exact ⟨t, hw, hout, hle.trans (Nat.le_add_right _ _), ha⟩

variable {ed eu : TrafficAlertElement}

theorem session_start (hs : Sound m) (hm : Mutual m u d)
    (hu : Logged eu u m) (hd : Logged ed d m) : Session eu ed u d m.start := by
  obtain ⟨n, hk, he⟩ := keeps_start m
  have hact : m.start.active = true := by rw [he]
  have htu := hu.start hm.upRegistered
  have htd := hd.start hm.downRegistered
  have hturn : Turn u d m.start := by
    refine ⟨?_, fun k hk => ?_⟩
    · rw [start_crossings]
      exact List.isChain_nil
    · rw [start_crossings] at hk
      cases hk
  refine ⟨sound_start hs, ?_, Or.inl hact, htu.logged, htd.logged, hturn.chain,
    fun _ => ⟨hturn, htu.timed, htd.timed⟩⟩
  rw [he]
  exact (hm.keeps hk).congr rfl fun _ => rfl

theorem Session.moves (h : Session eu ed u d m)
    (hact : m.active = true) (hmoves : Moves react m m') : Session eu ed u d m' := by
  have hk := Moves.keeps hmoves
  obtain ⟨hturn, htu, htd⟩ := h.running hact
  have heu : eu.trigger = .edge := h.up.trigger.symm.trans h.pair.upEdge
  have hed : ed.trigger = .edge := h.down.trigger.symm.trans h.pair.downEdge
  have hturn' := hturn.moves h.pair h.sound hmoves
  have hu := (Tracked.mk h.up htu).moves heu hmoves
  have hd := (Tracked.mk h.down htd).moves hed hmoves
  exact ⟨h.sound.keeps hk, h.pair.keeps hk, Or.inl (hk.active.trans hact), hu.logged, hd.logged,
    hturn'.chain, fun _ => ⟨hturn', hu.timed, hd.timed⟩⟩

theorem Session.step {op : Op} (h : Session eu ed u d m)
    (hop : InSession op) (ht : m.step op = some m') : Session eu ed u d m' := by
  cases op with
  | elapse ms =>
    obtain rfl := Option.some.inj ht
    refine ⟨sound_step h.sound ht, h.pair.congr rfl fun _ => rfl, h.timer, h.up.elapse ms,
      h.down.elapse ms, h.chain, fun hact => ?_⟩
    obtain ⟨hturn, hu, hd⟩ := h.running hact
    exact ⟨⟨hturn.chain, hturn.last⟩, hu.elapse ms, hd.elapse ms⟩
  | start =>
    obtain rfl := Option.some.inj ht
    exact session_start h.sound h.pair h.up h.down
  | stop =>
    obtain rfl := Option.some.inj ht
    obtain ⟨n, hc, hi, ha, -, -, hk⟩ := keeps_stop m
    have hact : m.stop.active = false := hk.active.trans ha
    refine ⟨sound_stop h.sound, ?_, Or.inr (stop_timer h.timer), h.up.stop, h.down.stop, ?_, ?_⟩
    · exact (h.pair.congr hi fun k => by rw [hc]).keeps hk
    · rw [(stop_log m).1]
      exact h.chain
    · intro hon
      rw [hact] at hon
      cases hon
  | event react count mask module =>
    obtain rfl := Option.some.inj ht
    rcases h.timer with hact | -
    · exact h.moves hact (event_moves m react count mask module)
    · by_cases hact : m.active = true
      · exact h.moves hact (event_moves m react count mask module)
      · rw [event, if_neg hact]
        exact h
  | timeOut react =>
    obtain ⟨hrun, rfl⟩ := of_guard ht
    refine h.moves (h.timer.resolve_right ?_) (timeOut_moves m react)
    intro hnone
    rw [hnone] at hrun
    cases hrun
  | _ => exact hop.elim

/-- What a session shows of the pair: they were raised in turn, each when it was ready; once one was
raised, exactly one of them is armed and the other waits. -/
structure Alternates (m₀ : TrafficMonitorT) (u d : ℕ) (m : TrafficMonitorT) : Prop where
  inTurn : (crossings u d m.log).IsChain (· ≠ ·)
  oneArmed : m.active = true → crossings u d m.log ≠ [] →
    ((m.container u).currentState = .waitForReset ∧ (m.container d).currentState = .off) ∨
      ((m.container d).currentState = .waitForReset ∧ (m.container u).currentState = .off)
  upReady : ∀ now called, Before (fun x => x = .crossed u now called)
    (Ready (m₀.container u) u now) m.log
  downReady : ∀ now called, Before (fun x => x = .crossed d now called)
    (Ready (m₀.container d) d now) m.log

theorem Session.alternates {m₀ : TrafficMonitorT}
    (h : Session (m₀.container u) (m₀.container d) u d m) : Alternates m₀ u d m where
  inTurn := h.chain
  oneArmed hact hne := by
    obtain ⟨k, hk⟩ := Option.ne_none_iff_exists'.mp (List.getLast?_eq_none_iff.not.mpr hne)
    obtain ⟨p, hp, hw, ho⟩ := (h.running hact).1.last k hk
    rcases hp with ⟨rfl, rfl⟩ | ⟨rfl, rfl⟩
    · exact Or.inl ⟨hw, ho⟩
    · exact Or.inr ⟨hw, ho⟩
  upReady := h.up.ready
  downReady := h.down.ready

theorem Heard.step {op : Op} (h : Heard i m) (hop : InSession op) (hkeep : KeepsEnabled i op)
    (ht : m.step op = some m') : Heard i m' := by
  cases op with
  | elapse ms =>
    cases ht
    exact h.congr rfl rfl
  | start =>
    cases ht
    exact start_heard h
  | stop =>
    cases ht
    exact stop_heard h
  | event react count mask module =>
    cases ht
    exact h.moves hkeep (event_moves m react count mask module)
  | timeOut react =>
    obtain ⟨-, rfl⟩ := of_guard ht
    exact h.moves hkeep (timeOut_moves m react)
  | _ => exact hop.elim

/-- **Two edge alerts that reset one another**: in every session after any registrations the two are
raised in turn since the monitor was last started, and each was ready whenever it was raised; if
both have callbacks and stay enabled, the callbacks are called in turn. -/
theorem pair_alternates {m₀ : TrafficMonitorT} {setup ops : List Op}
    (h₀ : exec step init setup = some m₀) (hp : Mutual m₀ u d) (hops : ∀ op ∈ ops, InSession op)
    (he : exec step { m₀ with log := [] } (.start :: ops) = some m) :
    Alternates m₀ u d m ∧
      ((∀ k, k = u ∨ k = d → (m₀.container k).callBack = true ∧ (m₀.container k).enabled = true ∧
          ∀ op ∈ ops, KeepsEnabled k op) → callbacks u d m.log = crossings u d m.log) := by
  have hsound : Sound { m₀ with log := [] } :=
    (sound_exec h₀).congr rfl rfl rfl (sound_exec h₀).flag
  have hlog : ∀ i, Logged (m₀.container i) i { m₀ with log := [] } := fun i =>
    ⟨rfl, fun a ha => (by cases ha), fun _ _ => before_nil⟩
  obtain ⟨m₁, hstart, hrun⟩ := exec_cons.mp he
  cases hstart
  have hsession := session_start hsound (hp.congr rfl fun _ => rfl) (hlog u) (hlog d)
  have hend : Session (m₀.container u) (m₀.container d) u d m :=
    Along.invariant (fun n op n' hn hop ht => hn.step hop ht) hsession
      (Along.of_forall hops : Along step (fun _ op => InSession op) _ ops) hrun
  refine ⟨hend.alternates, fun hall => ?_⟩
  have hheard : ∀ k, k = u ∨ k = d → Heard k m := fun k hk => by
    obtain ⟨hcb, hen, hkeep⟩ := hall k hk
    have h0 : Heard k { m₀ with log := [] } := ⟨hcb, hen, fun t c hc => (by cases hc)⟩
    have halong : Along step (fun _ op => InSession op ∧ KeepsEnabled k op)
        (start { m₀ with log := [] }) ops := .of_forall fun op hop => ⟨hops op hop, hkeep op hop⟩
    exact Along.invariant (fun n op n' hn hop ht => hn.step hop.1 hop.2 ht) (start_heard h0) halong
      hrun
  exact callbacks_eq (hheard u (Or.inl rfl)) (hheard d (Or.inr rfl))

/-- An up alert that a frame raises and a down alert, mutual resets, both enabled. -/
def pairSetup : List Op :=
  [.regEvent (frames .up 0) false, .regEvent (frames .down 5) false, .setRstCondition 0 1 true,
    .startEventNotif 0, .startEventNotif 1]

def frame : Op := .event (fun _ => []) 100 directedFrames txTraffModule

/-- A frame raises the up alert, a quiet second the down alert. -/
theorem pair_alternates_frameThenQuiet : ∃ m₀ m, exec step init pairSetup = some m₀ ∧
    exec step { m₀ with log := [] } [.start, frame, .elapse 1000, .timeOut fun _ => []] = some m ∧
      crossings 0 1 m.log = [0, 1] ∧ Alternates m₀ 0 1 m := by
  have h : (exec step init pairSetup).any (fun m₀ => decide (Mutual m₀ 0 1) &&
      (exec step { m₀ with log := [] } [.start, frame, .elapse 1000, .timeOut fun _ => []]).any
        fun m => decide (crossings 0 1 m.log = [0, 1])) = true := by decide +kernel
  obtain ⟨m₀, h₀, hm⟩ := (Option.any_eq_true _ _).mp h
  obtain ⟨hpair, hm⟩ := Bool.and_eq_true_iff.mp hm
  obtain ⟨m, he, hc⟩ := (Option.any_eq_true _ _).mp hm
  refine ⟨m₀, m, h₀, he, of_decide_eq_true hc,
    (pair_alternates h₀ (of_decide_eq_true hpair) (fun op hop => ?_) he).1⟩
  simp only [List.mem_cons, List.not_mem_nil, or_false] at hop
  rcases hop with rfl | rfl | rfl <;> trivial

/-- **The up alert is raised twice in a row**: after a stop and a start, which arm both alerts, and
where a third alert has the down alert as a reset element. -/
theorem raised_twice :
    (∃ m, exec step init (pairSetup ++ [.start, frame, .stop, .start, frame]) = some m ∧
      m.active = true ∧ m.log.filterMap (Note.heard 0 1) = [0, 0] ∧ ∃ n,
        exec step init (pairSetup ++ [.start, frame, .stop, .start]) = some n ∧
          n.active = true ∧ (n.container 0).currentState = .off ∧
            (n.container 1).currentState = .off) ∧
    ∃ m, exec step init (
      [.regEvent (frames .up 9) false, .regEvent (frames .down 5) false,
        .regEvent (frames .up 0) false, .setRstCondition 0 1 true, .setRstCondition 2 1 true,
        .startEventNotif 0, .startEventNotif 1, .start, .elapse 1000, .timeOut fun _ => [], frame]) =
          some m ∧ crossings 0 1 m.log = [1] ∧ (m.container 0).currentState = .off ∧
            (m.container 1).currentState = .off := by
  have h₁ : (exec step init (pairSetup ++ [.start, frame, .stop, .start, frame])).any
      (fun m => m.active && decide (m.log.filterMap (Note.heard 0 1) = [0, 0])) = true := by
    decide +kernel
  have h₂ : (exec step init (pairSetup ++ [.start, frame, .stop, .start])).any
      (fun n => n.active && decide ((n.container 0).currentState = .off ∧
        (n.container 1).currentState = .off)) = true := by decide +kernel
  have h₃ : (exec step init (
      [.regEvent (frames .up 9) false, .regEvent (frames .down 5) false,
        .regEvent (frames .up 0) false, .setRstCondition 0 1 true, .setRstCondition 2 1 true,
        .startEventNotif 0, .startEventNotif 1, .start, .elapse 1000, .timeOut fun _ => [],
        frame])).any (fun m => decide (crossings 0 1 m.log = [1] ∧
          (m.container 0).currentState = .off ∧ (m.container 1).currentState = .off)) = true := by
    decide +kernel
  obtain ⟨m, hm, hc⟩ := (Option.any_eq_true _ _).mp h₁
  obtain ⟨n, hn, hs⟩ := (Option.any_eq_true _ _).mp h₂
  obtain ⟨o, ho, ht⟩ := (Option.any_eq_true _ _).mp h₃
  obtain ⟨hact, hc⟩ := Bool.and_eq_true_iff.mp hc
  obtain ⟨hact', hs⟩ := Bool.and_eq_true_iff.mp hs
  exact ⟨⟨m, hm, hact, of_decide_eq_true hc, n, hn, hact', of_decide_eq_true hs⟩, o, ho,
    of_decide_eq_true ht⟩

end ArchosGpl.Wlan.TrafficMonitor
