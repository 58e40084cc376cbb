import ArchosGpl.Wlan.TrafficMonitor.Alerts

/-!
# Registered alerts and their reset elements

Results:
* **`sound_exec`**: every run keeps the monitor sound.
-/

open Function (update update_of_ne update_self)

namespace ArchosGpl.Wlan.TrafficMonitor

open Lib TrafficMonitorT

variable {m m' m'' : TrafficMonitorT} {i j k : ℕ}

/-! ## Reset elements -/

/-- `j` may be a reset element of `k`. -/
structure Linked (m : TrafficMonitorT) (k j : ℕ) : Prop where
  registered : m.registered j
  edge : (m.container k).trigger = .edge
  resetEdge : (m.container j).trigger = .edge
  opposite : (m.container j).direction ≠ (m.container k).direction

/-- What every run keeps. -/
structure Sound (m : TrafficMonitorT) : Prop where
  flag : m.downTimerEnabled = m.hTrafficMonTimer.isSome
  percent : m.trafficDownTestIntervalPercent = minIntervalPercent
  edge : ∀ k, (m.container k).trigger = .edge → (m.container k).currentState ≠ .on
  resets : ∀ k x j, m.registered k → (m.container k).resetElment x = some j → Linked m k j

theorem sound_init : Sound init where
  flag := rfl
  percent := rfl
  edge _ _ := by simp [init]
  resets k x j hk := by simp [init, registered] at hk

theorem Sound.keeps (h : Sound m) (hk : Keeps m m') : Sound m' where
  flag := hk.flag h.flag
  percent := hk.percent.trans h.percent
  edge k ht := hk.edge k ((hk.trigger k).symm.trans ht) (h.edge k ((hk.trigger k).symm.trans ht))
  resets k x j hr hx := by
    rw [hk.resetElment] at hx
    have hl := h.resets k x j ((hk.registered k).mp hr) hx
    refine ⟨(hk.registered j).mpr hl.registered, ?_, ?_, ?_⟩
    · rw [hk.trigger, hl.edge]
    · rw [hk.trigger, hl.resetEdge]
    · rw [hk.direction, hk.direction]
      exact hl.opposite

theorem Sound.congr (h : Sound m) (hc : m'.container = m.container) (hi : m'.inuse = m.inuse)
    (hp : m'.trafficDownTestIntervalPercent = m.trafficDownTestIntervalPercent)
    (hf : m'.downTimerEnabled = m'.hTrafficMonTimer.isSome) : Sound m' where
  flag := hf
  percent := hp.trans h.percent
  edge k := by
    rw [hc]
    exact h.edge k
  resets k x j hr hx := by
    unfold TrafficMonitorT.registered at hr
    rw [hi] at hr
    rw [hc] at hx
    have hl := h.resets k x j hr hx
    refine ⟨?_, ?_, ?_, ?_⟩
    · unfold TrafficMonitorT.registered
      rw [hi]
      exact hl.registered
    · rw [hc, hl.edge]
    · rw [hc, hl.resetEdge]
    · rw [hc]
      exact hl.opposite

variable {f : TrafficAlertElement → TrafficAlertElement}

theorem Sound.setResets (h : Sound m) (ht : (f (m.container k)).trigger = (m.container k).trigger)
    (hd : (f (m.container k)).direction = (m.container k).direction)
    (hs : (f (m.container k)).currentState = (m.container k).currentState)
    (hl : ∀ x j, (f (m.container k)).resetElment x = some j →
      (m.container k).resetElment x = some j ∨ Linked m k j) : Sound (m.modify k f) := by
  have htrig : ∀ i, ((m.modify k f).container i).trigger = (m.container i).trigger := fun i => by
    rcases eq_or_ne i k with rfl | hi
    · rw [modify_self, ht]
    · rw [modify_of_ne m hi]
  have hdir : ∀ i, ((m.modify k f).container i).direction = (m.container i).direction := fun i => by
    rcases eq_or_ne i k with rfl | hi
    · rw [modify_self, hd]
    · rw [modify_of_ne m hi]
  have hlift : ∀ {i j}, Linked m i j → Linked (m.modify k f) i j := fun hij =>
    ⟨hij.registered, (htrig _).trans hij.edge, (htrig _).trans hij.resetEdge, by
      rw [hdir, hdir]
      exact hij.opposite⟩
  refine ⟨h.flag, h.percent, fun i hi => ?_, fun i x j hi hx => ?_⟩
  · rw [htrig] at hi
    rcases eq_or_ne i k with rfl | hik
    · rw [modify_self, hs]
      exact h.edge i hi
    · rw [modify_of_ne m hik]
      exact h.edge i hi
  · rcases eq_or_ne i k with rfl | hik
    · rw [modify_self] at hx
      rcases hl x j hx with hx | hl
      · exact hlift (h.resets i x j hi hx)
      · exact hlift hl
    · rw [modify_of_ne m hik] at hx
      exact hlift (h.resets i x j hi hx)

theorem Sound.setReset (h : Sound m) {x : Fin 3} {r : Option ℕ}
    (hl : ∀ j, r = some j → Linked m k j) : Sound (m.modify k fun e => e.setReset x r) := by
  refine h.setResets rfl rfl rfl fun y j hy => ?_
  rcases eq_or_ne y x with rfl | hyx
  · rw [show ((m.container k).setReset y r).resetElment y = r from update_self ..] at hy
    exact Or.inr (hl j hy)
  · rw [show ((m.container k).setReset x r).resetElment y = (m.container k).resetElment y from
      update_of_ne hyx ..] at hy
    exact Or.inl hy

/-! ## Registration -/

/-- `List_AllocElement` gives the free slot `i`, zeroed. -/
structure Allocated (m : TrafficMonitorT) (i : ℕ) (m' : TrafficMonitorT) : Prop where
  slot : i < maxMonitoredReq
  free : m.inuse i = false
  inuse : m'.inuse = update m.inuse i true
  container : m'.container = update m.container i {}
  percent : m'.trafficDownTestIntervalPercent = m.trafficDownTestIntervalPercent
  flag : m'.downTimerEnabled = m.downTimerEnabled
  timer : m'.hTrafficMonTimer = m.hTrafficMonTimer
  active : m'.active = m.active

theorem allocated (h : m.listAllocElement = some (i, m')) : Allocated m i m' := by
  obtain ⟨i', hfind, he⟩ := Option.map_eq_some_iff.mp h
  obtain ⟨rfl, rfl⟩ := Prod.mk.inj he
  obtain ⟨hfree, hmem, -⟩ := List.find?_range_eq_some.mp hfind
  exact ⟨List.mem_range.mp hmem, by simpa using hfree, rfl, rfl, rfl, rfl, rfl, rfl⟩

namespace Allocated

theorem registered (h : Allocated m i m') (k : ℕ) : m'.registered k ↔ k = i ∨ m.registered k := by
  unfold TrafficMonitorT.registered
  rw [h.inuse]
  rcases eq_or_ne k i with rfl | hk
  · simp [h.slot]
  · simp [hk]

theorem ne (h : Allocated m i m') (hk : m.registered k) : k ≠ i := by
  rintro rfl
  have := hk.2
  rw [h.free] at this
  cases this

theorem new (h : Allocated m i m') : m'.container i = {} := by
  rw [h.container, update_self]

theorem old (h : Allocated m i m') (hk : k ≠ i) : m'.container k = m.container k := by
  rw [h.container, update_of_ne hk]

end Allocated

/-- The slot `i` was just allocated: it has no reset elements and is none. -/
structure Fresh (m : TrafficMonitorT) (i : ℕ) : Prop where
  registered : m.registered i
  empty : ∀ x, (m.container i).resetElment x = none
  unused : ∀ k, m.registered k → ∀ x, (m.container k).resetElment x ≠ some i

theorem Sound.alloc (h : Sound m) (ha : Allocated m i m') : Sound m' where
  flag := by rw [ha.flag, ha.timer, h.flag]
  percent := ha.percent.trans h.percent
  edge k := by
    rcases eq_or_ne k i with rfl | hk
    · rw [ha.new]
      simp
    · rw [ha.old hk]
      exact h.edge k
  resets k x j hk hx := by
    rcases (ha.registered k).mp hk with rfl | hk
    · rw [ha.new] at hx
      cases hx
    · rw [ha.old (ha.ne hk)] at hx
      have hl := h.resets k x j hk hx
      have hj := ha.ne hl.registered
      exact ⟨(ha.registered j).mpr (Or.inr hl.registered), by rw [ha.old (ha.ne hk), hl.edge],
        by rw [ha.old hj, hl.resetEdge], by rw [ha.old (ha.ne hk), ha.old hj]; exact hl.opposite⟩

theorem Sound.alloc_fresh (h : Sound m) (ha : Allocated m i m') : Fresh m' i where
  registered := (ha.registered i).mpr (Or.inl rfl)
  empty x := by rw [ha.new]
  unused k hk x hx := by
    rcases (ha.registered k).mp hk with rfl | hk
    · rw [ha.new] at hx
      cases hx
    · rw [ha.old (ha.ne hk)] at hx
      exact ha.ne (h.resets k x i hk hx).registered rfl

theorem Fresh.alloc (h : Fresh m i) (ha : Allocated m j m') : Fresh m' i where
  registered := (ha.registered i).mpr (Or.inr h.registered)
  empty x := by rw [ha.old (ha.ne h.registered), h.empty]
  unused k hk x := by
    rcases (ha.registered k).mp hk with rfl | hk
    · rw [ha.new]
      simp
    · rw [ha.old (ha.ne hk)]
      exact h.unused k hk x

theorem Sound.modify_fresh (h : Sound m) (hi : Fresh m i)
    (hr : ∀ x, (f (m.container i)).resetElment x = none)
    (hs : (f (m.container i)).trigger = .edge → (f (m.container i)).currentState ≠ .on) :
    Sound (m.modify i f) where
  flag := h.flag
  percent := h.percent
  edge k := by
    rcases eq_or_ne k i with rfl | hk
    · rw [modify_self]
      exact hs
    · rw [modify_of_ne m hk]
      exact h.edge k
  resets k x j hk hx := by
    rcases eq_or_ne k i with rfl | hki
    · rw [modify_self, hr] at hx
      cases hx
    · rw [modify_of_ne m hki] at hx
      have hl := h.resets k x j hk hx
      have hji : j ≠ i := by
        rintro rfl
        exact hi.unused k hk x hx
      exact ⟨hl.registered, by rw [modify_of_ne m hki, hl.edge],
        by rw [modify_of_ne m hji, hl.resetEdge],
        by rw [modify_of_ne m hki, modify_of_ne m hji]; exact hl.opposite⟩

theorem Fresh.modify (h : Fresh m i)
    (hr : ∀ x, (f (m.container k)).resetElment x = none) : Fresh (m.modify k f) i where
  registered := h.registered
  empty x := by
    rcases eq_or_ne i k with rfl | hi
    · rw [modify_self, hr]
    · rw [modify_of_ne m hi, h.empty]
  unused l hl x := by
    rcases eq_or_ne l k with rfl | hlk
    · rw [modify_self, hr]
      simp
    · rw [modify_of_ne m hlk]
      exact h.unused l hl x

@[simp] theorem setMask_resetElment (e : TrafficAlertElement) (t : TraffEvntOptNum) :
    (e.setMask t).resetElment = e.resetElment := by
  cases t <;> rfl

@[simp] theorem setMask_trigger (e : TrafficAlertElement) (t : TraffEvntOptNum) :
    (e.setMask t).trigger = e.trigger := by
  cases t <;> rfl

@[simp] theorem setMask_direction (e : TrafficAlertElement) (t : TraffEvntOptNum) :
    (e.setMask t).direction = e.direction := by
  cases t <;> rfl

theorem opposite_ne (d : TraffDirection) : d.opposite ≠ d := by
  cases d <;> simp [TraffDirection.opposite]

theorem modify_modify (m : TrafficMonitorT) (i : ℕ)
    (f g : TrafficAlertElement → TrafficAlertElement) :
    (m.modify i f).modify i g = m.modify i fun e => g (f e) := by
  simp [TrafficMonitorT.modify]

theorem initElement_resetElment (m : TrafficMonitorT) (q : TrafficAlertRegParm)
    (e : TrafficAlertElement) : (m.initElement q e).resetElment = e.resetElment := by
  simp [initElement]

theorem initElement_trigger (m : TrafficMonitorT) (q : TrafficAlertRegParm)
    (e : TrafficAlertElement) : (m.initElement q e).trigger = q.trigger := by
  simp [initElement]

theorem initElement_direction (m : TrafficMonitorT) (q : TrafficAlertRegParm)
    (e : TrafficAlertElement) : (m.initElement q e).direction = q.direction := by
  simp [initElement]

theorem Sound.autoReset (h : Sound m) (hi : Fresh m i) (hj : Fresh m j) (hij : j ≠ i)
    (ht : (m.container i).trigger = .edge) {d : TraffDirection}
    (hd : (m.container i).direction = d) :
    Sound ((m.modify j fun _ => TrafficMonitorT.autoReset (m.container i) i j d).modify i fun e =>
      { e.setReset 0 (some j) with rstWasAssigned := true }) := by
  let base : TrafficAlertElement :=
    { m.container i with
      callBack := false
      direction := d.opposite
      currentState := .waitForReset
      autoCreated := true
      rstWasAssigned := true }
  have hbase : (m.modify j fun _ => TrafficMonitorT.autoReset (m.container i) i j d) =
      (m.modify j fun _ => base).modify j fun e => e.setReset 0 (some i) := by
    rw [modify_modify]
    simp [TrafficMonitorT.autoReset, TrafficAlertElement.setReset, base]
  have hnone : ∀ x, base.resetElment x = none := hi.empty
  have hs : Sound (m.modify j fun _ => base) := h.modify_fresh hj hnone fun _ => by simp [base]
  have hci : (m.modify j fun _ => base).container i = m.container i := modify_of_ne m hij.symm
  have hcj : (m.modify j fun _ => base).container j = base := modify_self m j _
  have hs' := hs.setReset (k := j) (x := 0) (r := some i) fun _ he => by
    cases he
    exact ⟨hi.registered, by rw [hcj]; exact ht, by rw [hci, ht], by
      rw [hci, hcj, hd]
      exact (opposite_ne d).symm⟩
  rw [hbase]
  generalize hm : (m.modify j fun _ => base).modify j (fun e => e.setReset 0 (some i)) = n at hs' ⊢
  have hni : n.container i = m.container i := by
    rw [← hm, modify_of_ne _ hij.symm, hci]
  have hnj : n.container j = base.setReset 0 (some i) := by
    rw [← hm, modify_self, hcj]
  refine hs'.setResets rfl rfl rfl fun y l hy => Or.inr ?_
  have hl : l = j := by
    rw [hni] at hy
    rcases eq_or_ne y 0 with rfl | hy0
    · simpa [TrafficAlertElement.setReset, eq_comm] using hy
    · simp [TrafficAlertElement.setReset, hy0, hi.empty] at hy
  subst hl
  refine ⟨?_, by rw [hni, ht], by rw [hnj]; exact ht, ?_⟩
  · rw [← hm]
    exact hj.registered
  · rw [hni, hnj, hd]
    exact opposite_ne d

theorem sound_fillElement (h : Sound m) (hi : Fresh m i) {q : TrafficAlertRegParm} {auto : Bool}
    (hf : m.fillElement q auto i = some m') : Sound m' := by
  have hempty : ∀ x, (m.initElement q (m.container i)).resetElment x = none := fun x => by
    rw [initElement_resetElment, hi.empty]
  have hs : Sound (m.modify i (m.initElement q)) :=
    h.modify_fresh hi hempty fun _ => by simp [initElement]
  have hfresh : Fresh (m.modify i (m.initElement q)) i := hi.modify hempty
  simp only [fillElement] at hf
  split at hf
  · rename_i ht
    obtain ⟨⟨j, n⟩, hn, rfl⟩ := Option.map_eq_some_iff.mp hf
    have ha := allocated hn
    have hji : j ≠ i := (ha.ne hfresh.registered).symm
    have hc : n.container i = m.initElement q (m.container i) := by
      rw [ha.old hji.symm, modify_self]
    refine (hs.alloc ha).autoReset (hfresh.alloc ha) (hs.alloc_fresh ha) hji ?_ ?_
    · rw [hc, initElement_trigger, ht]
    · rw [hc, initElement_direction]
  · cases hf
    exact hs.keeps (keeps_modify rfl fun _ _ => by simp)
  · cases hf
    exact hs

theorem Sound.free (h : Sound m)
    (hu : ∀ k, m.registered k → ∀ x, (m.container k).resetElment x ≠ some i) :
    Sound (m.listFreeElement (some i)) where
  flag := h.flag
  percent := h.percent
  edge := h.edge
  resets k x j hk hx := by
    have hreg : ∀ l, (m.listFreeElement (some i)).registered l ↔ l ≠ i ∧ m.registered l :=
      fun l => by
        rcases eq_or_ne l i with rfl | hl
        · simp [TrafficMonitorT.registered, listFreeElement]
        · simp [TrafficMonitorT.registered, listFreeElement, hl]
    have hk' := ((hreg k).mp hk).2
    have hl := h.resets k x j hk' hx
    refine ⟨(hreg j).mpr ⟨?_, hl.registered⟩, hl.edge, hl.resetEdge, hl.opposite⟩
    rintro rfl
    exact hu k hk' x hx

theorem sound_regEvent (h : Sound m) (q : TrafficAlertRegParm) (auto : Bool) :
    Sound (m.regEvent q auto).2 := by
  unfold regEvent
  split
  · exact h
  · rename_i i n hn
    have ha := allocated hn
    have hs := h.alloc ha
    have hi := h.alloc_fresh ha
    have hempty : ∀ x, (n.initElement q (n.container i)).resetElment x = none := fun x => by
      rw [initElement_resetElment, hi.empty]
    split
    · exact (hs.modify_fresh hi hempty fun _ => by simp [initElement]).free (hi.modify hempty).unused
    · rename_i hf
      exact (sound_fillElement hs hi hf).keeps (keeps_update _)

/-! ## Reset conditions -/

theorem keeps_assignRst (m : TrafficMonitorT) (i t : ℕ) : Keeps m (m.assignRst i t) := by
  unfold assignRst
  split
  · exact .refl m
  · exact (keeps_modify rfl fun _ _ => by simp).trans (keeps_note _ _)

theorem linked_of_rstValid (hv : m.rstValid i j = true) (hi : m.registered i) : Linked m j i := by
  unfold rstValid at hv
  simp only [Bool.and_eq_true, decide_eq_true_eq] at hv
  exact ⟨hi, hv.1.1, hv.1.2, hv.2.symm⟩

theorem Linked.symm (h : Linked m i j) (hi : m.registered i) : Linked m j i :=
  ⟨hi, h.resetEdge, h.edge, h.opposite.symm⟩

theorem Linked.keeps (h : Linked m i j) (hk : Keeps m m') : Linked m' i j where
  registered := (hk.registered j).mpr h.registered
  edge := (hk.trigger i).trans h.edge
  resetEdge := (hk.trigger j).trans h.resetEdge
  opposite := by
    rw [hk.direction, hk.direction]
    exact h.opposite

theorem Linked.setReset (h : Linked m i j) (x : Fin 3) (r : Option ℕ) :
    Linked (m.modify k fun e => e.setReset x r) i j := by
  have hc : ∀ l, ((m.modify k fun e => e.setReset x r).container l).trigger =
      (m.container l).trigger ∧ ((m.modify k fun e => e.setReset x r).container l).direction =
      (m.container l).direction := fun l => by
    rcases eq_or_ne l k with rfl | hl
    · rw [modify_self]
      exact ⟨rfl, rfl⟩
    · rw [modify_of_ne m hl]
      exact ⟨rfl, rfl⟩
  refine ⟨h.registered, (hc i).1.trans h.edge, (hc j).1.trans h.resetEdge, ?_⟩
  rw [(hc i).2, (hc j).2]
  exact h.opposite

theorem sound_setMutualRst (h : Sound m) (hl : Linked m i j) (x : Fin 3) :
    Sound (m.setMutualRst i j x) := by
  unfold setMutualRst
  split
  · exact h.setReset nofun
  · refine (h.setReset fun l he => ?_).keeps (keeps_assignRst _ j _)
    cases he
    exact hl

theorem sound_setRstCondition (h : Sound m) (hi : m.registered i) (hj : m.registered j) (b : Bool) :
    Sound (m.setRstCondition i j b) := by
  unfold setRstCondition
  split
  · rename_i hv
    have hl := linked_of_rstValid hv hi
    split
    · exact h
    · rename_i x hx
      have hs : Sound (m.modify j fun e => e.setReset x (some i)) := h.setReset fun l he => by
        cases he
        exact hl
      have hk := keeps_assignRst (m.modify j fun e => e.setReset x (some i)) i
        (m.container i).timeIntervalMs
      dsimp only
      split
      · exact sound_setMutualRst (hs.keeps hk) (((hl.symm hj).setReset x _).keeps hk) x
      · exact hs.keeps hk
  · exact h

theorem sound_cleanRelatedRef (h : Sound m) (i : ℕ) :
    Sound (m.cleanRelatedRef i) ∧
      ∀ k, (m.cleanRelatedRef i).registered k →
        ∀ x, ((m.cleanRelatedRef i).container k).resetElment x ≠ some i := by
  let clean (e : TrafficAlertElement) : TrafficAlertElement :=
    { e with resetElment := fun x => if e.resetElment x = some i then none else e.resetElment x }
  have hclean : ∀ e x j, (clean e).resetElment x = some j → e.resetElment x = some j ∧ j ≠ i := by
    intro e x j hx
    simp only [clean] at hx
    split at hx
    · cases hx
    · rename_i hne
      refine ⟨hx, ?_⟩
      rintro rfl
      exact hne hx
  have hend := Cursor.walk_all (c := list) (v := fun k m => m.modify k clean)
    (I := fun l (n : TrafficMonitorT) => Sound n ∧
      ∀ k < l, n.inuse k = true → ∀ x, (n.container k).resetElment x ≠ some i)
    (fun l n ⟨hs, hc⟩ _ hfree => ⟨hs, fun k hk hu => by
      rcases Nat.lt_succ_iff_lt_or_eq.mp hk with hk | rfl
      · exact hc k hk hu
      · rw [show n.inuse k = false from hfree] at hu
        cases hu⟩)
    (fun l n ⟨hs, hc⟩ hl _ => ⟨⟨(hs.keeps (keeps_moved n l)).setResets rfl rfl rfl
      fun x j hx => Or.inl (hclean _ x j hx).1, fun k hk hu x => by
        rcases eq_or_ne k l with rfl | hne
        · rw [modify_self]
          exact fun hx => (hclean _ x i hx).2 rfl
        · rw [modify_of_ne _ hne]
          exact hc k (by omega) hu x⟩, rfl⟩)
    (s := m) ⟨h, fun k hk => absurd hk (Nat.not_lt_zero k)⟩
  exact ⟨hend.1, fun k hk => hend.2 k hk.1 hk.2⟩

theorem unregEvent_eq (m : TrafficMonitorT) (i : ℕ) : m.unregEvent i =
    ((m.cleanRelatedRef i).listFreeElement (some i)).updateDownTrafficTimerState := by
  unfold unregEvent
  cases hr : (m.container i).resetElment 0 with
  | none => rfl
  | some j =>
    dsimp only
    rw [show m.listFreeElement none = m from rfl, ite_self]

theorem sound_unregEvent (h : Sound m) (i : ℕ) : Sound (m.unregEvent i) := by
  rw [unregEvent_eq]
  obtain ⟨hs, hu⟩ := sound_cleanRelatedRef h i
  exact (hs.free hu).keeps (keeps_update _)

/-! ## Runs -/

theorem sound_start (h : Sound m) : Sound m.start := by
  obtain ⟨n, hk, he⟩ := keeps_start m
  rw [he]
  have hs := h.keeps hk
  exact hs.congr rfl rfl rfl hs.flag

theorem sound_stop (h : Sound m) : Sound m.stop := by
  obtain ⟨n, hc, hi, -, hp, hf, hk⟩ := keeps_stop m
  exact (h.congr hc hi hp (hf h.flag)).keeps hk

theorem of_guard {c : Prop} [Decidable c] (h : (if c then some m else none) = some m') :
    c ∧ m = m' := by
  obtain ⟨hc, he⟩ := Option.ite_none_right_eq_some.mp h
  exact ⟨hc, Option.some.inj he⟩

theorem sound_step {op : Op} (h : Sound m) (ht : m.step op = some m') : Sound m' := by
  cases op with
  | elapse ms =>
    cases ht
    exact h.congr rfl rfl rfl h.flag
  | start =>
    cases ht
    exact sound_start h
  | stop =>
    cases ht
    exact sound_stop h
  | regEvent q auto =>
    cases ht
    exact sound_regEvent h q auto
  | setRstCondition i j b =>
    obtain ⟨⟨hi, hj⟩, rfl⟩ := of_guard ht
    exact sound_setRstCondition h hi hj b
  | startEventNotif i =>
    obtain ⟨-, rfl⟩ := of_guard ht
    exact h.keeps (keeps_startEventNotif m i)
  | stopEventNotif i =>
    obtain ⟨-, rfl⟩ := of_guard ht
    exact h.keeps (keeps_stopEventNotif m i)
  | resetEvent i =>
    obtain ⟨-, rfl⟩ := of_guard ht
    exact h.keeps (keeps_resetEvent m i)
  | unregEvent i =>
    obtain ⟨-, rfl⟩ := of_guard ht
    exact sound_unregEvent h i
  | event react count mask module =>
    cases ht
    exact h.keeps (keeps_event m react count mask module)
  | timeOut react =>
    obtain ⟨-, rfl⟩ := of_guard ht
    exact h.keeps (keeps_timeOut m react)

theorem sound_exec {ops : List Op} (he : exec step init ops = some m) : Sound m :=
  exec_invariant (fun _ _ _ h ht => sound_step h ht) sound_init he

end ArchosGpl.Wlan.TrafficMonitor
