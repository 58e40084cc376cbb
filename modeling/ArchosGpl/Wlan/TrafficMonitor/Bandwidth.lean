import ArchosGpl.Wlan.TrafficMonitor.Model
import Mathlib.Algebra.BigOperators.Intervals
import Mathlib.Data.List.Chain

/-!
# The bandwidth of the sliding windows

The frames are counted in windows; a window begins with the first frame that comes
`SIZE_OF_WINDOW_MS` after the last one began. The ring has the last eight windows, and
`TrafficMonitor_calcBW` sums up to seven of them, as long as they began less than `BW_WINDOW_MS`
ago.

* **`calcBW_counts`**: the bandwidth counts the last frames, those of the last `BW_WINDOW_MS - 2 *
  SIZE_OF_WINDOW_MS` ms at least, if no two frames, and no frame and the query, are apart for nearly
  as long as the clock takes to wrap.
* **`idle_frame_counted`**: a query after 2^32 ms without a frame counts the frame before that,
  however many queries came between.
-/

open Function (update update_of_ne update_self)

namespace ArchosGpl.Wlan.TrafficMonitor

open Lib

/-- `BW_WINDOW_MS`, `NUM_OF_SLIDING_WINDOWS` and `SIZE_OF_WINDOW_MS`. -/
abbrev bwWindowMs : ℕ := 1000
abbrev numOfSlidingWindows : ℕ := 8
abbrev sizeOfWindowMs : ℕ := bwWindowMs / numOfSlidingWindows

namespace BandWidth

/-- The windows after `TrafficMonitor_Init`. -/
def init (currTS : ℕ) : BandWidth where
  firstEventsTS := update (fun _ => 0) 0 currTS

/-- The loop of `TrafficMonitor_calcBW`, which goes round the ring at most once. -/
def calcLoop (b : BandWidth) (currentTS : ℕ) : ℕ → ℕ → ℕ → ℕ → ℕ
  | 0, _, _, totalBW => totalBW
  | fuel + 1, iter, totalTime, totalBW =>
    let nextIter := (iter + 7) % 8
    if totalTime < bwWindowMs ∧ nextIter ≠ b.currentWindow then
      calcLoop b currentTS fuel nextIter (sub32 currentTS (b.firstEventsTS nextIter))
        (add32 totalBW (b.windowCounter iter))
    else totalBW

/-- `TrafficMonitor_calcBW`. -/
def calcBW (b : BandWidth) (currentTS : ℕ) : ℕ :=
  b.calcLoop currentTS numOfSlidingWindows b.currentWindow
    (sub32 currentTS (b.firstEventsTS b.currentWindow)) 0

/-- The windows after some frames, given by their true times. -/
def after (start : ℕ) (frames : List ℕ) : BandWidth :=
  frames.foldl (fun b time => b.updateBW (time % 2 ^ 32)) (init (start % 2 ^ 32))

/-- The window that is `j` windows before the current one. -/
def slot (b : BandWidth) (j : ℕ) : ℕ := (b.currentWindow + 8 - j) % 8

variable {b : BandWidth} {start t now : ℕ} {frames : List ℕ}

/-! ## What the loop sums -/

/-- How long ago the window at `j` seems to have begun. -/
def age (b : BandWidth) (now j : ℕ) : ℕ := sub32 now (b.firstEventsTS (b.slot j))

theorem slot_zero (hcur : b.currentWindow < 8) : b.slot 0 = b.currentWindow := by
  unfold slot
  omega

theorem slot_succ {j : ℕ} (hj : j ≤ 7) : (b.slot j + 7) % 8 = b.slot (j + 1) := by
  unfold slot
  omega

theorem slot_succ_eq_iff (hcur : b.currentWindow < 8) {j : ℕ} (hj : j ≤ 7) :
    b.slot (j + 1) = b.currentWindow ↔ j = 7 := by
  unfold slot
  omega

theorem calcLoop_spec (hcur : b.currentWindow < 8) (now : ℕ) {j : ℕ} (hj : j ≤ 7)
    (hyoung : ∀ i < j, b.age now i < bwWindowMs) :
    ∃ m ≤ 7, (∀ i < m, b.age now i < bwWindowMs) ∧ (m = 7 ∨ bwWindowMs ≤ b.age now m) ∧
      b.calcLoop now (7 - j + 1) (b.slot j) (b.age now j)
          ((∑ i ∈ Finset.range j, b.windowCounter (b.slot i)) % 2 ^ 32) =
        (∑ i ∈ Finset.range m, b.windowCounter (b.slot i)) % 2 ^ 32 := by
  induction hk : 7 - j generalizing j with
  | zero =>
    have hlast : j = 7 := by omega
    refine ⟨j, hj, hyoung, Or.inl hlast, ?_⟩
    rw [calcLoop]
    rw [slot_succ hj, if_neg fun h => h.2 ((slot_succ_eq_iff hcur hj).mpr hlast)]
  | succ k ih =>
    have hnext : b.slot (j + 1) ≠ b.currentWindow := fun h => by
      have := (slot_succ_eq_iff hcur hj).mp h
      omega
    rw [calcLoop]
    rw [slot_succ hj]
    by_cases hage : b.age now j < bwWindowMs
    · rw [if_pos ⟨hage, hnext⟩]
      have hyoung' : ∀ i < j + 1, b.age now i < bwWindowMs := fun i hi => by
        rcases Nat.lt_succ_iff_lt_or_eq.mp hi with hlt | rfl
        · exact hyoung i hlt
        · exact hage
      obtain ⟨m, hm, hall, hstop, heq⟩ := ih (by omega) hyoung' (by omega)
      refine ⟨m, hm, hall, hstop, ?_⟩
      rw [← heq, Finset.sum_range_succ, add32_mod]
      rfl
    · rw [if_neg fun h => hage h.1]
      exact ⟨j, hj, hyoung, Or.inr (Nat.not_lt.mp hage), rfl⟩

theorem calcBW_spec (hcur : b.currentWindow < 8) (now : ℕ) :
    ∃ m ≤ 7, (∀ i < m, b.age now i < bwWindowMs) ∧ (m = 7 ∨ bwWindowMs ≤ b.age now m) ∧
      b.calcBW now = (∑ i ∈ Finset.range m, b.windowCounter (b.slot i)) % 2 ^ 32 := by
  obtain ⟨m, hm, hall, hstop, heq⟩ :=
    calcLoop_spec hcur now (Nat.zero_le 7) fun _ h => absurd h (Nat.not_lt_zero _)
  refine ⟨m, hm, hall, hstop, ?_⟩
  rw [← heq, age, slot_zero hcur]
  rfl

/-! ## The ring and the windows there were -/

/-- A window: when it began, and its frames. -/
structure FrameWindow where
  first : ℕ
  frames : List ℕ

/-- The frames of windows, the latest window first. -/
def framesOf (ws : List FrameWindow) : List ℕ := (ws.reverse.map FrameWindow.frames).flatten

/-- The number of frames of the window at `j`. -/
def lengthAt (ws : List FrameWindow) (j : ℕ) : ℕ := (ws[j]?.map fun w => w.frames.length).getD 0

/-- The farthest that two frames, or a frame and a query, may be apart. -/
abbrev maxGapMs : ℕ := 2 ^ 32 - (bwWindowMs + sizeOfWindowMs)

theorem maxGap_add : sizeOfWindowMs + maxGapMs + bwWindowMs = 2 ^ 32 := by decide

/-- **The ring has the latest of the windows `ws`**, which have all the frames. -/
structure Windows (start : ℕ) (frames : List ℕ) (ws : List FrameWindow) (b : BandWidth) : Prop where
  current : b.currentWindow < 8
  frames : frames = framesOf ws
  counter : ∀ j < 8, b.windowCounter (b.slot j) = lengthAt ws j % 2 ^ 32
  first : ∀ j < 8, ∀ w, ws[j]? = some w → b.firstEventsTS (b.slot j) = w.first % 2 ^ 32
  unused : ws = [] → b.firstEventsTS (b.slot 0) = start % 2 ^ 32
  nonempty : ∀ w ∈ ws, w.frames ≠ []
  within : ∀ w ∈ ws, ∀ x ∈ w.frames, w.first ≤ x ∧ x < w.first + sizeOfWindowMs
  order : ∀ j w v, ws[j]? = some w → ws[j + 1]? = some v →
    v.first + sizeOfWindowMs ≤ w.first ∧ w.first < v.first + sizeOfWindowMs + maxGapMs

theorem windows_init (start : ℕ) : Windows start [] [] (init (start % 2 ^ 32)) where
  current := show 0 < 8 by decide
  frames := rfl
  counter := fun _ _ => rfl
  first := fun _ _ _ h => nomatch h
  unused := by
    intro _
    have hslot : (init (start % 2 ^ 32)).slot 0 = 0 := slot_zero (show 0 < 8 by decide)
    rw [hslot, init]
    dsimp only
    rw [update_self]
  nonempty := fun _ h => nomatch h
  within := fun _ h => nomatch h
  order := fun _ _ _ h => nomatch h

variable {ws : List FrameWindow} {w : FrameWindow}

theorem framesOf_cons (w : FrameWindow) (ws : List FrameWindow) :
    framesOf (w :: ws) = framesOf ws ++ w.frames := by
  simp [framesOf]

theorem Windows.slot_zero (h : Windows start frames ws b) : b.slot 0 = b.currentWindow :=
  BandWidth.slot_zero h.current

theorem Windows.count (h : Windows start frames ws b) (hne : w.frames ≠ [])
    (hframes : frames ++ [t] = framesOf (w :: ws.tail))
    (hlength : w.frames.length = lengthAt ws 0 + 1)
    (hfirst : b.firstEventsTS b.currentWindow = w.first % 2 ^ 32)
    (hwithin : ∀ x ∈ w.frames, w.first ≤ x ∧ x < w.first + sizeOfWindowMs)
    (horder : ∀ v, ws[1]? = some v →
      v.first + sizeOfWindowMs ≤ w.first ∧ w.first < v.first + sizeOfWindowMs + maxGapMs) :
    Windows start (frames ++ [t]) (w :: ws.tail)
      { b with
        windowCounter :=
          update b.windowCounter b.currentWindow
            (add32 (b.windowCounter b.currentWindow) 1) } where
  current := h.current
  frames := hframes
  counter := by
    intro j hj
    change update b.windowCounter b.currentWindow _ (b.slot j) = _
    cases j with
    | zero =>
      rw [h.slot_zero, update_self, ← h.slot_zero, h.counter 0 (by decide), add32_mod,
        ← hlength]
      rfl
    | succ j =>
      rw [update_of_ne, h.counter _ hj]
      · simp [lengthAt]
      · rw [Ne, slot_succ_eq_iff h.current (by omega)]
        omega
  first := by
    intro j hj v hv
    change b.firstEventsTS (b.slot j) = _
    cases j with
    | zero =>
      cases hv
      rw [h.slot_zero]
      exact hfirst
    | succ j => exact h.first (j + 1) hj v (by simpa using hv)
  unused := fun hnil => nomatch hnil
  nonempty := List.forall_mem_cons.mpr
    ⟨hne, fun v hv => h.nonempty v (List.mem_of_mem_tail hv)⟩
  within := List.forall_mem_cons.mpr
    ⟨hwithin, fun v hv => h.within v (List.mem_of_mem_tail hv)⟩
  order := by
    intro j v u hv hu
    cases j with
    | zero =>
      cases hv
      exact horder u (by simpa using hu)
    | succ j => exact h.order (j + 1) v u (by simpa using hv) (by simpa using hu)

theorem Windows.next (h : Windows start frames ws b)
    (horder : ∀ v, ws[0]? = some v →
      v.first + sizeOfWindowMs ≤ t ∧ t < v.first + sizeOfWindowMs + maxGapMs) :
    Windows start (frames ++ [t]) (⟨t, [t]⟩ :: ws)
      { currentWindow := (b.currentWindow + 1) % 8
        firstEventsTS :=
          update b.firstEventsTS ((b.currentWindow + 1) % 8) (t % 2 ^ 32)
        windowCounter := update b.windowCounter ((b.currentWindow + 1) % 8) 1 } := by
  have hcur := h.current
  -- the windows that are kept are one place farther
  have hslot : ∀ {f g : ℕ → ℕ} (j : ℕ), j < 7 →
      slot ⟨(b.currentWindow + 1) % 8, f, g⟩ (j + 1) = b.slot j ∧
        b.slot j ≠ (b.currentWindow + 1) % 8 := by
    intro f g j hj
    dsimp only [slot]
    omega
  have hzero : ∀ {f g : ℕ → ℕ}, slot ⟨(b.currentWindow + 1) % 8, f, g⟩ 0 =
      (b.currentWindow + 1) % 8 := by
    intro f g
    dsimp only [slot]
    omega
  refine ⟨Nat.mod_lt _ (by decide), ?_, fun j hj => ?_, fun j hj v hv => ?_,
    fun hnil => (nomatch hnil), List.forall_mem_cons.mpr ⟨List.cons_ne_nil _ _, h.nonempty⟩,
    List.forall_mem_cons.mpr ⟨fun x hx => ?_, h.within⟩, fun j v u hv hu => ?_⟩
  · rw [framesOf_cons, h.frames]
  · cases j with
    | zero =>
      rw [hzero]
      dsimp only
      rw [update_self]
      rfl
    | succ j =>
      obtain ⟨heq, hne⟩ := hslot j (by omega)
      rw [heq]
      dsimp only
      rw [update_of_ne hne, h.counter j (by omega)]
      rfl
  · cases j with
    | zero =>
      cases hv
      rw [hzero]
      exact update_self _ _ _
    | succ j =>
      obtain ⟨heq, hne⟩ := hslot j (by omega)
      rw [heq]
      dsimp only
      rw [update_of_ne hne]
      exact h.first j (by omega) v hv
  · rw [List.mem_singleton.mp hx]
    exact ⟨Nat.le_refl _, Nat.lt_add_of_pos_right (by decide)⟩
  · cases j with
    | zero =>
      cases hv
      exact horder u hu
    | succ j => exact h.order j v u hv hu

theorem sub32_mod_of_le {m n : ℕ} (h : m ≤ n) :
    sub32 (n % 2 ^ 32) (m % 2 ^ 32) = (n - m) % 2 ^ 32 := by
  unfold sub32
  omega

theorem Windows.last_mem (h : Windows start frames (w :: ws) b) :
    ∃ x ∈ w.frames, frames.getLast? = some x := by
  have hne := h.nonempty w List.mem_cons_self
  refine ⟨w.frames.getLast hne, List.getLast_mem hne, ?_⟩
  rw [h.frames, framesOf_cons, List.getLast?_append_of_ne_nil _ hne,
    List.getLast?_eq_some_getLast hne]

/-- A time at or after the last frame, and not too far behind it. -/
def Soon (frames : List ℕ) (now : ℕ) : Prop :=
  ∀ x, frames.getLast? = some x → x ≤ now ∧ now ≤ x + maxGapMs

theorem Windows.since_first (h : Windows start frames (w :: ws) b) (hnow : Soon frames now) :
    w.first ≤ now ∧ now < w.first + sizeOfWindowMs + maxGapMs := by
  obtain ⟨x, hx, hlast⟩ := h.last_mem
  obtain ⟨hfirst, hlt⟩ := h.within w List.mem_cons_self x hx
  obtain ⟨hle, hgap⟩ := hnow x hlast
  omega

theorem Windows.updateBW (h : Windows start frames ws b) (hstart : start ≤ t)
    (hgap : Soon frames t) :
    ∃ ws', Windows start (frames ++ [t]) ws' (b.updateBW (t % 2 ^ 32)) := by
  have hsize : sizeOfWindowMs = 1000 / 8 := rfl
  have hsum := maxGap_add
  unfold BandWidth.updateBW
  cases ws with
  | nil =>
    have hnone : frames = [] := h.frames
    have hfirst : b.firstEventsTS b.currentWindow = start % 2 ^ 32 := h.slot_zero ▸ h.unused rfl
    rw [hfirst, sub32_mod_of_le hstart]
    have hle : (t - start) % 2 ^ 32 ≤ t - start := Nat.mod_le _ _
    split
    next hlt =>
      -- the window seems to have begun before its first frame
      refine ⟨_, h.count (w := ⟨t - (t - start) % 2 ^ 32, [t]⟩) (List.cons_ne_nil _ _) ?_ rfl ?_ ?_
        fun v hv => nomatch hv⟩
      · rw [hnone]
        rfl
      · rw [hfirst]
        dsimp only
        omega
      · intro x hx
        rw [List.mem_singleton.mp hx]
        dsimp only
        omega
    next => exact ⟨_, h.next fun v hv => nomatch hv⟩
  | cons w ws =>
    obtain ⟨hle, hlt⟩ := h.since_first hgap
    have hfirst : b.firstEventsTS b.currentWindow = w.first % 2 ^ 32 :=
      h.slot_zero ▸ h.first 0 (by decide) w rfl
    rw [hfirst, sub32_mod hle (by omega)]
    split
    next hsame =>
      refine ⟨_, h.count (w := ⟨w.first, w.frames ++ [t]⟩) ?_ ?_ ?_ hfirst ?_ fun v hv =>
        h.order 0 w v rfl hv⟩
      · exact List.append_ne_nil_of_right_ne_nil _ (List.cons_ne_nil _ _)
      · rw [h.frames, framesOf_cons, List.tail_cons, framesOf_cons, List.append_assoc]
      · rw [List.length_append]
        rfl
      · intro x hx
        rcases List.mem_append.mp hx with hx | hx
        · exact h.within w List.mem_cons_self x hx
        · rw [List.mem_singleton.mp hx]
          exact ⟨hle, show t < w.first + sizeOfWindowMs by omega⟩
    next hnext =>
      refine ⟨_, h.next fun v hv => ?_⟩
      cases hv
      exact ⟨show w.first + sizeOfWindowMs ≤ t by omega, hlt⟩

/-! ## Frames and queries -/

/-- The times do not go back, and are not too far apart. -/
def Near (gap a b : ℕ) : Prop := a ≤ b ∧ b ≤ a + gap

/-- The true times of the frames, and of a query after them. -/
structure Spaced (start : ℕ) (frames : List ℕ) (now : ℕ) : Prop where
  started : ∀ x ∈ frames, start ≤ x
  near : (frames ++ [now]).IsChain (Near maxGapMs)

theorem windows_after (hspaced : Spaced start frames now) :
    ∃ ws, Windows start frames ws (after start frames) := by
  induction frames using List.reverseRecOn generalizing now with
  | nil => exact ⟨[], windows_init start⟩
  | append_singleton frames t ih =>
    obtain ⟨hstart, hchain⟩ := hspaced
    have hshort := hchain.left_of_append
    obtain ⟨ws, h⟩ := ih ⟨fun x hx => hstart x (List.mem_append_left _ hx), hshort⟩
    have hafter : after start (frames ++ [t]) =
        (after start frames).updateBW (t % 2 ^ 32) := by
      rw [after, after, List.foldl_append, List.foldl_cons, List.foldl_nil]
    rw [hafter]
    refine h.updateBW (hstart t (List.mem_append_right _ (List.mem_singleton_self t))) ?_
    intro x hx
    exact (List.isChain_append.mp hshort).2.2 x hx t rfl

section Ages

variable {j m : ℕ} {v : FrameWindow}

theorem Windows.first_le (h : Windows start frames ws b) (hw : ws[j]? = some w) (i : ℕ)
    (hv : ws[j + i]? = some v) : v.first + sizeOfWindowMs * i ≤ w.first := by
  induction i generalizing v with
  | zero =>
    cases hw.symm.trans hv
    exact Nat.le_refl _
  | succ i ih =>
    have hlt : j + i < ws.length :=
      (Nat.lt_succ_self _).trans (List.getElem?_eq_some_iff.mp hv).1
    have hu : ws[j + i]? = some ws[j + i] := List.getElem?_eq_getElem hlt
    have hstep := (h.order (j + i) _ v hu hv).1
    have hbefore := ih hu
    rw [Nat.mul_succ]
    omega

theorem Windows.first_le_now (h : Windows start frames ws b) (hnow : Soon frames now)
    (hw : ws[j]? = some w) : w.first + sizeOfWindowMs * j ≤ now := by
  cases ws with
  | nil => exact nomatch hw
  | cons u ws =>
    have hj : (u :: ws)[0 + j]? = some w := by rwa [Nat.zero_add]
    exact (h.first_le rfl j hj).trans (h.since_first hnow).1

theorem Windows.young (h : Windows start frames ws b) (hnow : Soon frames now) (hm : m ≤ 7)
    (hage : ∀ i < m, b.age (now % 2 ^ 32) i < bwWindowMs) (hj : j < m) (hw : ws[j]? = some w) :
    now < w.first + bwWindowMs := by
  have hsum := maxGap_add
  induction j generalizing w with
  | zero =>
    cases ws with
    | nil => exact nomatch hw
    | cons u ws =>
      obtain rfl := Option.some.inj hw
      obtain ⟨hle, hlt⟩ := h.since_first hnow
      have hseen := hage 0 hj
      rw [age, h.first 0 (by decide) u rfl, sub32_mod hle (by omega)] at hseen
      omega
  | succ j ih =>
    have hlt : j < ws.length := (Nat.lt_succ_self _).trans (List.getElem?_eq_some_iff.mp hw).1
    have hv : ws[j]? = some ws[j] := List.getElem?_eq_getElem hlt
    have hlater := ih (Nat.lt_of_succ_lt hj) hv
    have hfar := (h.order j _ w hv hw).2
    have hle := h.first_le_now hnow hw
    have hseen := hage (j + 1) hj
    rw [age, h.first (j + 1) (by omega) w hw, sub32_mod (by omega) (by omega)] at hseen
    omega

theorem Windows.old (h : Windows start frames ws b) (hnow : Soon frames now) (hm : m ≤ 7)
    (hstop : m = 7 ∨ bwWindowMs ≤ b.age (now % 2 ^ 32) m) (hj : m ≤ j) (hw : ws[j]? = some w) :
    w.first + 7 * sizeOfWindowMs ≤ now := by
  have hsize : bwWindowMs = 8 * sizeOfWindowMs := rfl
  rcases hstop with rfl | hage
  · have hle := h.first_le_now hnow hw
    have hmul : sizeOfWindowMs * 7 ≤ sizeOfWindowMs * j := Nat.mul_le_mul_left _ hj
    omega
  · have hlt : m < ws.length := hj.trans_lt (List.getElem?_eq_some_iff.mp hw).1
    have hu : ws[m]? = some ws[m] := List.getElem?_eq_getElem hlt
    have hle := h.first_le_now hnow hu
    have horder := h.first_le hu (j - m) (by rwa [Nat.add_sub_cancel' hj])
    rw [age, h.first m (by omega) _ hu, sub32_mod_of_le (by omega)] at hage
    have := Nat.mod_le (now - ws[m].first) (2 ^ 32)
    omega

end Ages

theorem framesOf_split (ws : List FrameWindow) (m : ℕ) :
    framesOf ws = framesOf (ws.drop m) ++ framesOf (ws.take m) := by
  unfold framesOf
  rw [← List.flatten_append, ← List.map_append, ← List.reverse_append, List.take_append_drop]

theorem mem_framesOf {x : ℕ} : x ∈ framesOf ws ↔ ∃ w ∈ ws, x ∈ w.frames := by
  simp [framesOf]

theorem sum_lengthAt (ws : List FrameWindow) (m : ℕ) :
    ∑ i ∈ Finset.range m, lengthAt ws i = (framesOf (ws.take m)).length := by
  induction m generalizing ws with
  | zero => rfl
  | succ m ih =>
    cases ws with
    | nil => simp [lengthAt, framesOf]
    | cons w ws =>
      rw [Finset.sum_range_succ', List.take_succ_cons, framesOf_cons, List.length_append]
      congr 1
      exact ih ws

/-- The frames that the bandwidth may count: none twice, none that is older than the window, and all
those of the last `BW_WINDOW_MS - 2 * SIZE_OF_WINDOW_MS`. -/
structure Counted (frames : List ℕ) (now : ℕ) (counted : List ℕ) : Prop where
  once : counted.Sublist frames
  young : ∀ x ∈ counted, now ≤ x + bwWindowMs
  recent : (frames.filter fun x => now ≤ x + (bwWindowMs - 2 * sizeOfWindowMs)).Sublist counted

/-- **The bandwidth counts the right frames.** -/
theorem calcBW_counts (start now : ℕ) (frames : List ℕ) (hspaced : Spaced start frames now) :
    ∃ counted, Counted frames now counted ∧
      (after start frames).calcBW (now % 2 ^ 32) = counted.length % 2 ^ 32 := by
  have hsize : bwWindowMs = 8 * sizeOfWindowMs := rfl
  obtain ⟨ws, h⟩ := windows_after hspaced
  have hsoon : Soon frames now := fun x hx =>
    (List.isChain_append.mp hspaced.near).2.2 x hx now rfl
  obtain ⟨m, hm, hage, hstop, heq⟩ := calcBW_spec h.current (now % 2 ^ 32)
  have hsplit : frames = framesOf (ws.drop m) ++ framesOf (ws.take m) :=
    h.frames.trans (framesOf_split ws m)
  refine ⟨framesOf (ws.take m), ⟨?_, fun x hx => ?_, ?_⟩, ?_⟩
  · rw [hsplit]
    exact List.sublist_append_right _ _
  · obtain ⟨w, hw, hx⟩ := mem_framesOf.mp hx
    obtain ⟨j, hj, rfl⟩ := List.mem_take_iff_getElem.mp hw
    have hyoung := h.young hsoon hm hage (j := j) (by omega) (List.getElem?_eq_getElem (by omega))
    have hfirst := (h.within _ (List.mem_of_mem_take hw) x hx).1
    omega
  · -- no frame of the other windows is recent
    have hold : (framesOf (ws.drop m)).filter
        (fun x => now ≤ x + (bwWindowMs - 2 * sizeOfWindowMs)) = [] := by
      refine List.filter_eq_nil_iff.mpr fun x hx => ?_
      obtain ⟨w, hw, hx⟩ := mem_framesOf.mp hx
      obtain ⟨i, hi, rfl⟩ := List.mem_drop_iff_getElem.mp hw
      have hfar := h.old hsoon hm hstop (Nat.le_add_right m i)
        (List.getElem?_eq_getElem (by omega))
      have hlast := (h.within _ (List.mem_of_mem_drop hw) x hx).2
      simp only [decide_eq_true_eq]
      omega
    rw [hsplit, List.filter_append, hold, List.nil_append]
    exact List.filter_sublist
  · have hcounter : ∀ i ∈ Finset.range m, (after start frames).windowCounter
        ((after start frames).slot i) = lengthAt ws i % 2 ^ 32 := fun i hi =>
      h.counter i ((Finset.mem_range.mp hi).trans_le (hm.trans (by decide)))
    rw [heq, Finset.sum_congr rfl hcounter, ← Finset.sum_nat_mod, sum_lengthAt]

/-- Eight frames come, one every 125 ms, and a query 1 s after the first. -/
theorem calcBW_counts_second :
    ∃ counted, Counted ((List.range 8).map (125 * ·)) 1000 counted ∧
      (after 0 ((List.range 8).map (125 * ·))).calcBW (1000 % 2 ^ 32) =
        counted.length % 2 ^ 32 :=
  calcBW_counts 0 1000 _ ⟨fun _ _ => Nat.zero_le _, by unfold Near; decide⟩

/-- A call of the module, at a true time. -/
inductive BwCall
  | frame (time : ℕ)
  | query (time : ℕ)

def BwCall.time : BwCall → ℕ
  | .frame time => time
  | .query time => time

def framesAmong (calls : List BwCall) : List ℕ :=
  calls.filterMap fun
    | .frame time => some time
    | .query _ => none

/-- A frame comes at 0. Queries are less than 2^31 ms apart, and the last one comes 10 ms after
2^32: it counts the frame. -/
theorem idle_frame_counted :
    ¬ ∀ (start now : ℕ) (calls : List BwCall), (∀ c ∈ calls, start ≤ c.time) →
      (calls ++ [BwCall.query now]).IsChain (fun a b => Near (2 ^ 31 - 1) a.time b.time) →
      ∃ counted, Counted (framesAmong calls) now counted ∧
        (after start (framesAmong calls)).calcBW (now % 2 ^ 32) = counted.length := by
  intro h
  obtain ⟨counted, hcounted, hvalue⟩ := h 0 (2 ^ 32 + 10)
    [.frame 0, .query (2 ^ 31 - 1), .query (2 ^ 32 - 2)] (fun _ _ => Nat.zero_le _)
    (by unfold Near; simp [BwCall.time])
  have hone : (after 0 [0]).calcBW ((2 ^ 32 + 10) % 2 ^ 32) = 1 := by decide +kernel
  have hlength : counted.length = 1 := hvalue.symm.trans hone
  obtain ⟨x, rfl⟩ := List.length_eq_one_iff.mp hlength
  have hx : x ∈ [0] := hcounted.once.subset (List.mem_singleton_self x)
  have hyoung := hcounted.young x (List.mem_singleton_self x)
  rw [List.mem_singleton.mp hx] at hyoung
  exact absurd hyoung (by decide)

end BandWidth

end ArchosGpl.Wlan.TrafficMonitor
