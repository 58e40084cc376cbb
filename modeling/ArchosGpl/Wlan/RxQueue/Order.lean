import ArchosGpl.Wlan.RxQueue.Ownership

/-!
# The reorder window

An accepted frame is put into the window at its distance and the window then advances
(`Advance`); a BAR and the time-out advance it without a frame. While the packet at distance `k`
has the number `k` ahead of the expected one (`Numbered`), what a step hands up is numbered by its
position, and the numbers of a session ascend from step to step.

* **`window_representation`**: the invariant over all runs, with the array index and the expected
  sequence number moving together while a packet stays. `far_frame_moves_apart`: they do not where
  nothing stays.
* **`session_in_order`**: the deliveries of a session ascend, frames behind the window apart, which
  are handed up at once. `duplicate_delivered` is one.

The runs are those without the slips that put a packet at a wrong place (`KeepsNumbers`) or hand
one up too early (`BarInOrder`).
-/

namespace ArchosGpl.Wlan.RxQueue

open Lib

/-- A stored entry of TID `t` with sequence number `sn`. -/
def IsFrame (t : Tid) (sn : ℕ) (x : TiStatus × RxBuf) : Prop :=
  x.1 = .ok ∧ TRxQueue.DataOf t x.2 ∧ x.2.frameSn = sn

/-- A session's array: it has its shape, and the packet at distance `k` has the sequence number
`k` ahead of the expected one. -/
structure TidDataBase.Numbered (t : Tid) (db : TidDataBase) : Prop where
  shaped : db.Shaped
  frame : ∀ k x, db.window k = some x → IsFrame t ((db.aTidExpectedSn + k) % 0x1000) x

namespace TidCtx

/-- `c'` is `c` with the window `w`, moved by `m` positions. The packets that `w` held there are
handed up, and unless nothing stays, the array index moved along. -/
structure Advance (t : Tid) (c c' : TidCtx) (w : Window (TiStatus × RxBuf)) (m : ℕ) : Prop where
  window : c'.db.window = w.slide m
  passed : c'.passed = c.passed ++ (w.held m).map hand
  shaped : c'.db.Shaped
  index : c'.db.aWinStartArrayInex = c.db.aWinStartArrayInex + Fin.ofNat arraySize m ∨
    ∀ k, m ≤ k → c.db.window k = none
  grown : ∀ k x, c.db.window k = some x → w k = some x
  frame : ∀ k x, w k = some x → IsFrame t ((c.db.aTidExpectedSn + k) % 0x1000) x
  le : m ≤ 0x7FF

variable {t : Tid} {c c' : TidCtx} {b : RxBuf} {w : Window (TiStatus × RxBuf)} {d m : ℕ}

theorem Advance.of_took (h : Took c c' b d m) (hn : c.db.Numbered t) (hb : TRxQueue.DataOf t b)
    (hd : d = c.db.ahead b.frameSn) (hvac : c.db.window d = none) (hs : c'.db.Shaped)
    (hm : m ≤ 0x7FF) : Advance t c c' (c.db.window.put d (.ok, b)) m where
  window := h.window
  passed := h.passed
  shaped := hs
  index := h.index
  grown k x hx := by
    have hne : k ≠ d := by
      rintro rfl
      rw [hvac] at hx
      exact absurd hx (by simp)
    rw [Window.put_ne _ _ hne, hx]
  frame k x hx := by
    rw [Window.put_apply] at hx
    split at hx
    case isTrue hkd =>
      cases hx
      refine ⟨rfl, hb, ?_⟩
      rw [hkd, hd]
      exact (add_cdist hn.shaped.snLt b.frameSn_lt).symm
    case isFalse => exact hn.frame k x hx
  le := hm

theorem Advance.of_moved (h : Moved c c' m) (hn : c.db.Numbered t) (hs : c'.db.Shaped)
    (hm : m ≤ 0x7FF) : Advance t c c' c.db.window m :=
  ⟨h.window, h.passed, hs, h.index, fun _ _ hx => hx, hn.frame, hm⟩

/-- An advance with the expected sequence number moved as far, or with nothing left, keeps the
numbers right. -/
theorem Advance.numbered (h : Advance t c c' w m)
    (hsn : c'.db.aTidExpectedSn = (c.db.aTidExpectedSn + m) % 0x1000 ∨ ∀ k, m ≤ k → w k = none) :
    c'.db.Numbered t where
  shaped := h.shaped
  frame k x hx := by
    rw [h.window, Window.slide_apply] at hx
    rcases hsn with hsn | hempty
    · have := h.frame _ x hx
      rwa [hsn, Nat.mod_add_mod, Nat.add_assoc, Nat.add_comm m]
    · rw [hempty _ (by omega)] at hx
      exact absurd hx (by simp)

theorem Advance.index_of_stays (h : Advance t c c' w m) {i : Fin arraySize} {x : TiStatus × RxBuf}
    (hi : (c.db.aPaketsQueue i).content = some x) (hx : x ∉ w.held m) :
    c'.db.aWinStartArrayInex = c.db.aWinStartArrayInex + Fin.ofNat arraySize m ∧
      ∃ k, m ≤ k ∧ w k = some x := by
  obtain ⟨k, hk, rfl⟩ := exists_position c.db.aWinStartArrayInex i
  have hw : c.db.window k = some x := by
    rw [TidDataBase.window, view_of_lt hk]
    exact hi
  have hmk : m ≤ k := by
    by_contra hlt
    exact hx (Window.mem_held.mpr ⟨k, by omega, h.grown k x hw⟩)
  refine ⟨h.index.resolve_right fun h0 => ?_, k, hmk, h.grown k x hw⟩
  rw [h0 k hmk] at hw
  exact absurd hw (by simp)

/-! ## The branches as advances -/

theorem inOrder_advance (hn : c.db.Numbered t) (hb : TRxQueue.DataOf t b)
    (hsn : b.frameSn = c.db.aTidExpectedSn) :
    ∃ m, 0 < m ∧ Advance t c (c.inOrder b) (c.db.window.put 0 (.ok, b)) m ∧
      (c.inOrder b).db.aTidExpectedSn = (c.db.aTidExpectedSn + m) % 0x1000 ∧
      ∀ j < m, (c.db.window.put 0 (.ok, b) j).isSome := by
  have hd : c.db.ahead b.frameSn = 0 := by
    rw [hsn]
    exact cdist_self _ _
  obtain ⟨m, hm, htook, hlead, hsn'⟩ := inOrder_took hn.shaped b
  have hm8 : m ≤ 8 := hm
  have hshaped : (c.inOrder b).db.Shaped := inOrder_shaped hn.shaped b
  refine ⟨m + 1, by omega, Advance.of_took htook hn hb hd.symm hn.shaped.head hshaped
    (by omega), hsn', fun j hj => ?_⟩
  cases j with
  | zero => simp
  | succ j =>
    exact Window.isSome_of_lt_leading (w := c.db.window.slide 1) (hlead ▸ (by omega : j < m))

theorem save_advance (hn : c.db.Numbered t) (hb : TRxQueue.DataOf t b)
    (hwp : 0 < c.db.aTidWinSize) (hbig : isABiggerThanB b.frameSn c.db.aTidExpectedSn)
    (hend : ¬isABiggerThanB b.frameSn (winEnd c.db))
    (hvac : (c.db.aPaketsQueue (saveIndex c.db b.frameSn)).pPacket = none) {e : PacketEntry}
    (he : e.content = some (.ok, b)) :
    Advance t c (c.store (saveIndex c.db b.frameSn) e)
      (c.db.window.put (c.db.ahead b.frameSn) (.ok, b)) 0 := by
  have hs := hn.shaped
  obtain ⟨hpos, hlt⟩ := ahead_of_bigger hs.snLt b.frameSn_lt hbig
  rw [isABiggerThanB_winEnd hs hwp b.frameSn_lt hpos hlt, not_or] at hend
  have hd : c.db.ahead b.frameSn < c.db.aTidWinSize := Nat.lt_of_not_le hend.1
  have hd8 := Nat.lt_of_lt_of_le hd hs.winLe
  exact Advance.of_took (store_took hd8 he) hn hb rfl ((pPacket_saveIndex hd8).mp hvac)
    (store_shaped hs hpos hd he) (by decide)

theorem beyond_advance (hn : c.db.Numbered t) (hb : TRxQueue.DataOf t b)
    (hwp : 0 < c.db.aTidWinSize) (hbig : isABiggerThanB b.frameSn c.db.aTidExpectedSn)
    (hend : isABiggerThanB b.frameSn (winEnd c.db)) (hv : TRxQueue.PartThreeVacant c.db b) :
    ∃ m, Advance t c (c.beyond b) (c.db.window.put (c.db.ahead b.frameSn) (.ok, b)) m ∧
      (c.beyond b).db.aTidExpectedSn = (c.db.aTidExpectedSn + m) % 0x1000 := by
  have hs := hn.shaped
  obtain ⟨hpos, hlt⟩ := ahead_of_bigger hs.snLt b.frameSn_lt hbig
  have hwe := (isABiggerThanB_winEnd hs hwp b.frameSn_lt hpos hlt).mp hend
  have hvac := window_ahead_eq_none hs hv
  obtain ⟨m, hm, htook, hsn, -, -, -⟩ := beyond_took hs hwp hpos hlt (by omega) hvac
  exact ⟨m, Advance.of_took htook hn hb rfl hvac
    (beyond_shaped hs hwp hpos hlt (by omega) hvac) (by omega), hsn⟩

theorem bar_advance (hn : c.db.Numbered t) {start : ℕ} (hb : start < 0x1000)
    (hat : barDelta c.db start < arraySize → c.db.window (barDelta c.db start) = none) :
    ∃ m, Advance t c (c.bar start) c.db.window m ∧
      ((c.bar start).db.aTidExpectedSn = (c.db.aTidExpectedSn + m) % 0x1000 ∨
        ∀ k, m ≤ k → c.db.window k = none) := by
  obtain ⟨m, hm8, hm, hsn, hbelow, hend, -⟩ := bar_moved (c := c) start
  have hm8' : m ≤ 8 := hm8
  refine ⟨m, Advance.of_moved hm hn (bar_shaped hn.shaped hb) (by omega), ?_⟩
  by_cases h8 : m = arraySize
  · exact Or.inr fun k hk => c.db.window_of_le (by omega)
  · have hle := hend.resolve_left h8
    have hdelta : m = barDelta c.db start := by
      by_contra hne
      have hlt : barDelta c.db start < m := by omega
      rcases hbelow _ hlt with h | h
      · exact absurd h (Nat.lt_irrefl _)
      · rw [hat (by omega)] at h
        exact absurd h (by simp)
    refine Or.inl ?_
    rw [hsn, hdelta, barDelta_eq hn.shaped.snLt hb (by omega)]
    exact (add_cdist hn.shaped.snLt hb).symm

/-- A BAR that, besides, if it computes a wrapped distance, finds no packet at or beyond its own
position. -/
theorem bar_advance_exact (hn : c.db.Numbered t) {start : ℕ} (hb : start < 0x1000)
    (hbig : isABiggerThanB start c.db.aTidExpectedSn) (hat : barDelta c.db start < arraySize → c.db.window (barDelta c.db start) = none)
    (hfar : 0x1000 ≤ barDelta c.db start → ∀ k < arraySize, c.db.ahead start ≤ k →
      c.db.window k = none) :
    ∃ m, Advance t c (c.bar start) c.db.window m ∧
      (c.bar start).db.aTidExpectedSn = (c.db.aTidExpectedSn + m) % 0x1000 := by
  have hle := ((isABiggerThanB_iff hb hn.shaped.snLt).mp hbig).2
  have hmoved := bar_moved_of_aligned hn.shaped hb hat fun hw k hk => by
    by_cases hk8 : k < arraySize
    · exact hfar hw k hk8 hk
    · exact c.db.window_of_le (by omega)
  refine ⟨_, Advance.of_moved hmoved hn (bar_shaped hn.shaped hb) hle.le, ?_⟩
  exact (add_cdist hn.shaped.snLt hb).symm

theorem timeOut_advance (hn : c.db.Numbered t)
    (hst : (c.db.window.held arraySize).length ≤ c.aPacketsStored.toNat)
    (h : findStored arraySize c = some c') :
    ∃ m, Advance t c (c'.drainStored arraySize) c.db.window m ∧
      (c'.drainStored arraySize).db.aTidExpectedSn = (c.db.aTidExpectedSn + m) % 0x1000 := by
  obtain ⟨k, m, hk, hm, hsn, -, -, hmk, hhead⟩ := timeOut_moved hn.shaped.snLt hst h
  have hl := Window.leading_le (c.db.window.slide k) arraySize
  have hk8 : k < 8 := hk
  have hl8 : (c.db.window.slide k).leading arraySize ≤ 8 := hl
  exact ⟨m, Advance.of_moved hm hn
    (hm.shaped hn.shaped hhead (hsn ▸ Nat.mod_lt _ (by decide))) (by omega), hsn⟩

end TidCtx

/-! ## One step -/

namespace TRxQueue

open TidCtx

/-- Every session's array is numbered. -/
def Numbered (s : TRxQueue) : Prop :=
  ∀ t, (s.tSa1ArrayMng t).aTidBaEstablished = true → (s.tSa1ArrayMng t).Numbered t

/-- The step does not put a packet at a wrong place: no frame ahead in a session without a window,
none of Part 3 whose slot is taken, no BAR less than a window ahead that finds a packet at its own
position. -/
def KeepsNumbers (s : TRxQueue) : Op → Prop
  | .receivePacket b =>
    match s.branch b.forceTag with
    | .save t => 0 < (s.tSa1ArrayMng t).aTidWinSize
    | .beyond t =>
      0 < (s.tSa1ArrayMng t).aTidWinSize ∧ PartThreeVacant (s.tSa1ArrayMng t) b.forceTag
    | .bar t =>
      barDelta (s.tSa1ArrayMng t) b.forceTag.barStart < arraySize →
        (s.tSa1ArrayMng t).window (barDelta (s.tSa1ArrayMng t) b.forceTag.barStart) = none
    | _ => True
  | _ => True

instance (s : TRxQueue) : (op : Op) → Decidable (KeepsNumbers s op)
  | .receivePacket b => by
    dsimp only [KeepsNumbers]
    exact match s.branch b.forceTag with
      | .save _ | .beyond _ | .bar _ => inferInstance
      | .pass _ | .inOrder _ | .behind _ | .addba _ | .delba _ => isTrue trivial
  | .closeBaSession _ | .timerExpiry | .packetTimeOut => isTrue trivial

/-- A BAR whose distance wraps finds no packet at or beyond its own position. -/
def BarInOrder (s : TRxQueue) : Op → Prop
  | .receivePacket b =>
    ∀ t, s.branch b.forceTag = .bar t →
      0x1000 ≤ barDelta (s.tSa1ArrayMng t) b.forceTag.barStart →
      ∀ k < arraySize, (s.tSa1ArrayMng t).ahead b.forceTag.barStart ≤ k →
        (s.tSa1ArrayMng t).window k = none
  | _ => True

instance (s : TRxQueue) : (op : Op) → Decidable (BarInOrder s op)
  | .receivePacket _ => inferInstanceAs (Decidable (∀ _, _))
  | .closeBaSession _ | .timerExpiry | .packetTimeOut => isTrue trivial

/-- A frame of TID `t` with a sequence number behind the expected one. -/
def Behind (s : TRxQueue) (t : Tid) : Op → Prop
  | .receivePacket b => s.branch b.forceTag = .behind t
  | _ => False

instance (s : TRxQueue) (t : Tid) : (op : Op) → Decidable (Behind s t op)
  | .receivePacket _ => inferInstanceAs (Decidable (_ = _))
  | .closeBaSession _ | .timerExpiry | .packetTimeOut => isFalse id

theorem KeepsNumbers.noOverwrite {s : TRxQueue} {op : Op} (h : KeepsNumbers s op) :
    NoOverwrite s op := by
  cases op with
  | receivePacket b =>
    intro t ht
    simp only [KeepsNumbers, ht] at h
    exact h.2
  | _ => trivial

/-- What a step does to the session of TID `t`: it moves its window by `m`, and hands up no data
frame of the TID but those the window passes, a frame behind the window apart. -/
structure Progress (s : TRxQueue) (op : Op) (s' : TRxQueue) (t : Tid)
    (w : Window (TiStatus × RxBuf)) (m : ℕ) : Prop where
  advance : ∃ c, Advance t (s.tid t) c w m ∧ s'.tSa1ArrayMng t = c.db ∧
    ∃ rest, s'.passed = c.passed ++ rest ∧
      (¬Behind s t op → ∀ x ∈ rest, x.1 = .ok → ¬DataOf t x.2)
  sn : (s'.tSa1ArrayMng t).aTidExpectedSn = ((s.tSa1ArrayMng t).aTidExpectedSn + m) % 0x1000 ∨
    ¬BarInOrder s op ∧ ∀ k, m ≤ k → w k = none

variable {s s' : TRxQueue} {t u : Tid} {c : TidCtx} {b : RxBuf} {op : Op}

theorem Progress.of_same (hn : Numbered s) (he : (s.tSa1ArrayMng t).aTidBaEstablished = true)
    (hd : s'.tSa1ArrayMng t = s.tSa1ArrayMng t) (rest : List (TiStatus × RxBuf))
    (hp : s'.passed = s.passed ++ rest)
    (hr : ¬Behind s t op → ∀ x ∈ rest, x.1 = .ok → ¬DataOf t x.2) :
    Progress s op s' t (s.tSa1ArrayMng t).window 0 where
  advance := ⟨s.tid t, Advance.of_moved (Moved.refl _) (hn t he) (hn t he).shaped (by decide), hd,
    rest, hp, hr⟩
  sn := Or.inl (by rw [hd]; exact (Nat.mod_eq_of_lt (hn t he).shaped.snLt).symm)

variable {w : Window (TiStatus × RxBuf)} {e m : ℕ}

theorem not_dataOf_of_held
    (hf : ∀ k x, w k = some x → IsFrame u ((e + k) % 0x1000) x) (hu : t ≠ u) :
    ∀ x ∈ (w.held m).map hand, x.1 = .ok → ¬DataOf t x.2 := by
  intro x hx _ hd
  obtain ⟨y, hy, rfl⟩ := List.mem_map.mp hx
  obtain ⟨k, -, hk⟩ := Window.mem_held.mp hy
  obtain ⟨hok, hdu, -⟩ := hf k y hk
  have hy2 : (hand y).2 = y.2 := by simp [hand, hok, RxBuf.handed]
  rw [hy2] at hd
  exact hu (Fin.ext (hd.2.symm.trans hdu.2))

theorem progress_of_advance (hn : Numbered s) (he : (s.tSa1ArrayMng t).aTidBaEstablished = true)
    (hw : Writes s s' u c) {s'' : TRxQueue} (hdb : s''.tSa1ArrayMng = s'.tSa1ArrayMng)
    {rest : List (TiStatus × RxBuf)} (hp : s''.passed = s'.passed ++ rest) (ha : Advance u (s.tid u) c w m)
    (hsn : c.db.aTidExpectedSn = ((s.tSa1ArrayMng u).aTidExpectedSn + m) % 0x1000 ∨
      ¬BarInOrder s op ∧ ∀ k, m ≤ k → w k = none)
    (hr : ∀ x ∈ rest, x.1 = .ok → ¬DataOf t x.2) :
    ∃ w m, Progress s op s'' t w m := by
  by_cases htu : t = u
  · subst htu
    refine ⟨w, m, ⟨⟨c, ha, by rw [hdb, hw.db_same], rest, by rw [hp, hw.passed], fun _ => hr⟩, ?_⟩⟩
    rwa [hdb, hw.db_same]
  · refine ⟨_, 0, Progress.of_same hn he (by rw [hdb, hw.db_ne htu])
      ((w.held m).map hand ++ rest) ?_ fun _ x hx => ?_⟩
    · rw [hp, hw.passed, ha.passed, List.append_assoc]
      rfl
    · rcases List.mem_append.mp hx with hx | hx
      · exact not_dataOf_of_held ha.frame htu x hx
      · exact hr x hx

theorem progress_of_close (hn : Numbered s) (he : (s.tSa1ArrayMng t).aTidBaEstablished = true)
    (heu : (s.tSa1ArrayMng u).aTidBaEstablished = true) (htu : t ≠ u) {s'' : TRxQueue}
    (hdb : s''.tSa1ArrayMng = (s.closeTid u).tSa1ArrayMng) {rest : List (TiStatus × RxBuf)}
    (hp : s''.passed = (s.closeTid u).passed ++ rest)
    (hr : ∀ x ∈ rest, x.1 = .ok → ¬DataOf t x.2) :
    ∃ w m, Progress s op s'' t w m := by
  have hw := closeTid_writes s u
  have hm := passAll_moved arraySize
    { s.tid u with db := { s.tSa1ArrayMng u with aTidBaEstablished := false } }
  have hheld : ∀ x ∈ ((s.tSa1ArrayMng u).window.held arraySize).map hand,
      x.1 = .ok → ¬DataOf t x.2 := not_dataOf_of_held (hn u heu).frame htu
  refine ⟨_, 0, Progress.of_same hn he (by rw [hdb, hw.db_ne htu])
    (((s.tSa1ArrayMng u).window.held arraySize).map hand ++ rest) ?_ fun _ x hx => ?_⟩
  · rw [hp, hw.passed, hm.passed, List.append_assoc]
    rfl
  · rcases List.mem_append.mp hx with hx | hx
    · exact hheld x hx
    · exact hr x hx

theorem closeTid_established (s : TRxQueue) (u : Tid) :
    ((s.closeTid u).tSa1ArrayMng u).aTidBaEstablished = false := by
  rw [(closeTid_writes s u).db_same, (passAll_moved _ _).established]

/-- **What a step does to a session**: it ends it or advances its window. -/
theorem step_progress (hwf : WF s) (hn : Numbered s) (hk : KeepsNumbers s op)
    (h : step s op = some s') (he : (s.tSa1ArrayMng t).aTidBaEstablished = true) :
    (s'.tSa1ArrayMng t).aTidBaEstablished = false ∨ ∃ w m, Progress s op s' t w m := by
  have hnil : ∀ x ∈ ([] : List (TiStatus × RxBuf)), x.1 = .ok → ¬DataOf t x.2 := by simp
  rcases step_cases h with ⟨b, rfl, rfl⟩ | ⟨u, rfl, heu, rfl⟩ | ⟨n, rfl, rfl, -⟩ | ⟨rfl, -, rfl⟩ |
    ⟨rfl, -, hto⟩
  · have ht := s.branch_takes b.forceTag
    cases hr : s.branch b.forceTag with
    | pass tStatus =>
      rw [hr] at ht
      refine Or.inr ⟨_, 0, Progress.of_same hn he rfl [(tStatus, b.forceTag.handed tStatus)] rfl ?_⟩
      intro _ x hx hok hd
      obtain rfl := List.mem_singleton.mp hx
      obtain rfl : tStatus = .ok := hok
      exact absurd (he.symm.trans (ht rfl t hd)) (by decide)
    | inOrder u =>
      rw [hr] at ht
      obtain ⟨hb, heu, hsn⟩ := ht
      obtain ⟨m, -, ha, hsn', -⟩ := inOrder_advance (c := s.tid u) (hn u heu) hb hsn
      exact Or.inr (progress_of_advance hn he (restart_writes s u _) rfl (List.append_nil _).symm
        ha (Or.inl hsn') hnil)
    | behind u =>
      rw [hr] at ht
      refine Or.inr ⟨_, 0, Progress.of_same hn he rfl [(.ok, b.forceTag)] rfl ?_⟩
      intro hnb x hx _ hd
      obtain rfl := List.mem_singleton.mp hx
      have htu : t = u := Fin.ext (hd.2.symm.trans ht.1.2)
      exact hnb (htu ▸ hr)
    | save u =>
      rw [hr] at ht
      simp only [KeepsNumbers, hr] at hk
      obtain ⟨hb, heu, hbig, hend, hvac⟩ := ht
      have ha := save_advance (c := s.tid u) (hn u heu) hb hk hbig hend hvac
        (e := ⟨some b.forceTag, .ok, b.forceTag.frameSn⟩) rfl
      exact Or.inr (progress_of_advance hn he (save_writes s u _) rfl (List.append_nil _).symm
        ha (Or.inl (Nat.mod_eq_of_lt (hwf.snLt u)).symm) hnil)
    | beyond u =>
      rw [hr] at ht
      simp only [KeepsNumbers, hr] at hk
      obtain ⟨hb, heu, hbig, hend⟩ := ht
      obtain ⟨m, ha, hsn⟩ := beyond_advance (c := s.tid u) (hn u heu) hb hk.1 hbig hend hk.2
      exact Or.inr (progress_of_advance hn he (restart_writes s u _) rfl (List.append_nil _).symm
        ha (Or.inl hsn) hnil)
    | bar u =>
      rw [hr] at ht
      have hk' := hk
      simp only [KeepsNumbers, hr] at hk'
      obtain ⟨hb, heu, hbig⟩ := ht
      have hlast : ∀ x ∈ [(TiStatus.ok, b.forceTag)], x.1 = .ok → ¬DataOf t x.2 := by
        intro x hx _ hd
        obtain rfl := List.mem_singleton.mp hx
        exact hb hd.1
      have hw := restart_writes s u ((s.tid u).bar b.forceTag.barStart)
      by_cases hord : BarInOrder s (.receivePacket b)
      · obtain ⟨m, ha, hsn⟩ := bar_advance_exact (c := s.tid u) (hn u heu)
          b.forceTag.barStart_lt hbig hk' (hord u hr)
        exact Or.inr (progress_of_advance hn he hw rfl rfl ha (Or.inl hsn) hlast)
      · obtain ⟨m, ha, hsn⟩ := bar_advance (c := s.tid u) (hn u heu) b.forceTag.barStart_lt hk'
        exact Or.inr (progress_of_advance hn he hw rfl rfl ha
          (hsn.imp_right fun h0 => ⟨hord, h0⟩) hlast)
    | addba u =>
      rw [hr] at ht
      have htu : t ≠ u := by
        rintro rfl
        exact absurd (he.symm.trans ht.2) (by decide)
      refine Or.inr ⟨_, 0, Progress.of_same hn he (Function.update_of_ne htu _ _)
        [(.ok, b.forceTag)] rfl ?_⟩
      intro _ x hx _ hd
      obtain rfl := List.mem_singleton.mp hx
      exact ht.1 hd.1
    | delba u =>
      rw [hr] at ht
      by_cases htu : t = u
      · subst htu
        exact Or.inl (closeTid_established s t)
      · refine Or.inr (progress_of_close hn he ht.2 htu rfl rfl ?_)
        intro x hx _ hd
        obtain rfl := List.mem_singleton.mp hx
        exact ht.1 hd.1
  · by_cases htu : t = u
    · subst htu
      exact Or.inl (closeTid_established s t)
    · exact Or.inr (progress_of_close hn he heu htu rfl (List.append_nil _).symm hnil)
  · exact Or.inr ⟨_, 0, Progress.of_same hn he rfl [] (List.append_nil _).symm fun _ => hnil⟩
  · exact Or.inr ⟨_, 0, Progress.of_same hn he rfl [] (List.append_nil _).symm fun _ => hnil⟩
  · rcases packetTimeOut_cases hto with ⟨-, rfl⟩ | ⟨-, c, hc, hw, -⟩
    · exact Or.inr ⟨_, 0, Progress.of_same hn he rfl [] (List.append_nil _).symm fun _ => hnil⟩
    · have hwf₀ : WF { s with bExpired := false } := wf_of_eq hwf rfl rfl
      have hst := hwf₀.length_held_le s.aFrameTid
      obtain ⟨k, -, -, -, -, -, hsome, -⟩ := timeOut_moved (hwf.snLt s.aFrameTid) hst hc
      obtain ⟨m, ha, hsn⟩ := timeOut_advance (hn _ (hwf.established hsome)) hst hc
      have hw' : Writes s s' s.aFrameTid (c.drainStored arraySize) := ⟨hw.db, hw.stored, hw.passed⟩
      exact Or.inr (progress_of_advance hn he hw' rfl (List.append_nil _).symm ha (Or.inl hsn) hnil)

theorem opened_numbered (s : TRxQueue) (t : Tid) (b : RxBuf) :
    ((s.follow b (.addba t)).tSa1ArrayMng t).Numbered t := by
  have hdb : (s.follow b (.addba t)).tSa1ArrayMng t =
      ⟨fun _ => .zero, true, 0, b.addbaWinSize, b.addbaStart⟩ := Function.update_self _ _ _
  rw [hdb]
  have hwin : ∀ k, (⟨fun _ => .zero, true, 0, b.addbaWinSize, b.addbaStart⟩ : TidDataBase).window k =
      none := by
    intro k
    by_cases hk : k < arraySize
    · exact view_of_lt hk
    · exact TidDataBase.window_of_le _ (by omega)
  refine ⟨⟨b.addbaWinSize_le, b.addbaStart_lt, hwin 0, fun k _ => hwin k⟩, fun k x hx => ?_⟩
  rw [hwin k] at hx
  exact absurd hx (by simp)

theorem step_opened (hwf : WF s) (h : step s op = some s')
    (he : (s.tSa1ArrayMng t).aTidBaEstablished = false)
    (he' : (s'.tSa1ArrayMng t).aTidBaEstablished = true) : (s'.tSa1ArrayMng t).Numbered t := by
  have hsame : ∀ {u c s''}, Writes s s'' u c → s''.tSa1ArrayMng = s'.tSa1ArrayMng →
      c.db.aTidBaEstablished = (s.tSa1ArrayMng u).aTidBaEstablished →
      (s'.tSa1ArrayMng t).Numbered t := by
    intro u c s'' hw hdb hest
    rw [← hdb] at he'
    by_cases htu : t = u
    · subst htu
      rw [hw.db_same, hest, he] at he'
      exact absurd he' (by decide)
    · rw [hw.db_ne htu, he] at he'
      exact absurd he' (by decide)
  have hclose : ∀ u, (s.closeTid u).tSa1ArrayMng = s'.tSa1ArrayMng →
      (s'.tSa1ArrayMng t).Numbered t := by
    intro u hdb
    rw [← hdb] at he'
    by_cases htu : t = u
    · subst htu
      rw [closeTid_established] at he'
      exact absurd he' (by decide)
    · rw [(closeTid_writes s u).db_ne htu, he] at he'
      exact absurd he' (by decide)
  have hsame₀ : s.tSa1ArrayMng = s'.tSa1ArrayMng → (s'.tSa1ArrayMng t).Numbered t := by
    intro hdb
    rw [← hdb, he] at he'
    exact absurd he' (by decide)
  rcases step_cases h with ⟨b, rfl, hs'⟩ | ⟨u, rfl, -, rfl⟩ | ⟨n, rfl, rfl, -⟩ | ⟨rfl, -, rfl⟩ |
    ⟨rfl, -, hto⟩
  · cases hr : s.branch b.forceTag with
    | pass tStatus | behind u => exact hsame₀ (by rw [hs', hr]; rfl)
    | inOrder u =>
      exact hsame (restart_writes s u _) (by rw [hs', hr]; rfl)
        (inOrder_kept (s.tid u) b.forceTag).1
    | save u => exact hsame (save_writes s u b.forceTag) (by rw [hs', hr]) rfl
    | beyond u =>
      exact hsame (restart_writes s u _) (by rw [hs', hr]; rfl)
        (beyond_kept (s.tid u) b.forceTag).1
    | bar u =>
      obtain ⟨m, -, hm, -⟩ := bar_moved (c := s.tid u) b.forceTag.barStart
      exact hsame (restart_writes s u _) (by rw [hs', hr]; rfl) hm.established
    | addba u =>
      rw [hr] at hs'
      rw [hs'] at he' ⊢
      by_cases htu : t = u
      · subst htu
        exact opened_numbered s t b.forceTag
      · have hne : (s.follow b.forceTag (.addba u)).tSa1ArrayMng t = s.tSa1ArrayMng t :=
          Function.update_of_ne htu _ _
        rw [hne, he] at he'
        exact absurd he' (by decide)
    | delba u => exact hclose u (by rw [hs', hr]; rfl)
  · exact hclose u rfl
  · exact hsame₀ rfl
  · exact hsame₀ rfl
  · rcases packetTimeOut_cases hto with ⟨-, rfl⟩ | ⟨-, c, hc, hw, -⟩
    · exact hsame₀ rfl
    · have hwf₀ : WF { s with bExpired := false } := wf_of_eq hwf rfl rfl
      obtain ⟨k, m, -, hm, -⟩ :=
        timeOut_moved (hwf.snLt s.aFrameTid) (hwf₀.length_held_le s.aFrameTid) hc
      have hw' : Writes s s' s.aFrameTid (c.drainStored arraySize) := ⟨hw.db, hw.stored, hw.passed⟩
      exact hsame hw' rfl hm.established

theorem Progress.numbered (h : Progress s op s' t w m) : (s'.tSa1ArrayMng t).Numbered t := by
  obtain ⟨c, ha, hdb, -⟩ := h.advance
  rw [hdb]
  refine ha.numbered ?_
  rw [← hdb]
  exact h.sn.imp_right And.right

/-- **A step keeps the arrays numbered.** -/
theorem step_numbered (hwf : WF s) (hn : Numbered s) (hk : KeepsNumbers s op)
    (h : step s op = some s') : Numbered s' := by
  intro t he'
  by_cases he : (s.tSa1ArrayMng t).aTidBaEstablished = true
  · rcases step_progress hwf hn hk h he with hc | ⟨w, m, hp⟩
    · exact absurd (hc.symm.trans he') (by decide)
    · exact hp.numbered
  · exact step_opened hwf h (by simpa using he) he'

theorem run_numbered {ops : List Op} (ha : Along step KeepsNumbers .create ops)
    (h : exec step .create ops = some s) : WF s ∧ Numbered s := by
  refine Along.invariant (I := fun s => WF s ∧ Numbered s) ?_ ⟨WF.create, fun t he => ?_⟩ ha h
  · rintro s op s' ⟨hwf, hn⟩ hk hs
    exact ⟨(step_accounts hwf hk.noOverwrite hs).1, step_numbered hwf hn hk hs⟩
  · exact absurd (show false = true from he) (by decide)

/-- The slot at the array index is empty, and a packet `k` slots on lies within the window and has
the sequence number `k` ahead of the expected one. -/
def Represented (db : TidDataBase) : Prop :=
  db.slot.pPacket = none ∧
    ∀ k < arraySize, ∀ p,
      (db.aPaketsQueue (db.aWinStartArrayInex + Fin.ofNat arraySize k)).pPacket = some p →
        1 ≤ k ∧ k < db.aTidWinSize ∧ p.frameSn = (db.aTidExpectedSn + k) % 0x1000

/-- The array index and the expected sequence number move by the same distance. -/
def MoveTogether (db db' : TidDataBase) : Prop :=
  db'.aWinStartArrayInex =
    db.aWinStartArrayInex + Fin.ofNat arraySize (cdist 0x1000 db.aTidExpectedSn db'.aTidExpectedSn)

instance (db db' : TidDataBase) : Decidable (MoveTogether db db') :=
  inferInstanceAs (Decidable (_ = _))

/-- **The array represents the window**, in every run that `KeepsNumbers`: each session's array is
`Represented`, and over a step that leaves a packet stored in it, its index and its expected
sequence number move by the same distance. -/
theorem window_representation {ops : List Op} (ha : Along step KeepsNumbers .create ops)
    (h : exec step .create ops = some s) (he : (s.tSa1ArrayMng t).aTidBaEstablished = true) :
    Represented (s.tSa1ArrayMng t) ∧
    ∀ op s' up, KeepsNumbers s op → step s op = some s' →
      (s'.tSa1ArrayMng t).aTidBaEstablished = true → s'.passed = s.passed ++ up →
      (∃ i x, ((s.tSa1ArrayMng t).aPaketsQueue i).content = some x ∧ hand x ∉ up) →
      MoveTogether (s.tSa1ArrayMng t) (s'.tSa1ArrayMng t) := by
  obtain ⟨hwf, hn⟩ := run_numbered ha h
  have hnt := hn t he
  refine ⟨⟨?_, fun k hk p hp => ?_⟩, ?_⟩
  · rw [← PacketEntry.content_eq_none, ← TidDataBase.window_zero]
    exact hnt.shaped.head
  · have hw : (s.tSa1ArrayMng t).window k = some (((s.tSa1ArrayMng t).aPaketsQueue
        ((s.tSa1ArrayMng t).aWinStartArrayInex + Fin.ofNat arraySize k)).tStatus, p) := by
      rw [TidDataBase.window, view_of_lt hk, PacketEntry.content, hp, Option.map_some]
    refine ⟨?_, ?_, (hnt.frame k _ hw).2.2⟩
    · rcases Nat.eq_zero_or_pos k with rfl | hpos
      · rw [hnt.shaped.head] at hw
        exact absurd hw (by simp)
      · exact hpos
    · by_contra hge
      rw [hnt.shaped.beyond k (by omega)] at hw
      exact absurd hw (by simp)
  · rintro op s' up hkn hs he' hup ⟨i, x, hx, hstay⟩
    rcases step_progress hwf hn hkn hs he with hc | ⟨w, m, hp⟩
    · exact absurd (hc.symm.trans he') (by decide)
    · obtain ⟨c, hadv, hdb, rest, hpassed, -⟩ := hp.advance
      have hm := hadv.le
      have hup' : up = (w.held m).map hand ++ rest := by
        rw [hadv.passed, hup, List.append_assoc] at hpassed
        exact List.append_cancel_left hpassed
      have hnotheld : x ∉ w.held m := fun hmem =>
        hstay (hup' ▸ List.mem_append_left _ (List.mem_map_of_mem hmem))
      obtain ⟨hidx, k, hmk, hwk⟩ := hadv.index_of_stays hx hnotheld
      have hsn := hp.sn.resolve_right fun h0 => by
        rw [h0.2 k hmk] at hwk
        exact absurd hwk (by simp)
      unfold MoveTogether
      rw [hsn, cdist_add hnt.shaped.snLt (by omega), hdb]
      exact hidx

theorem window_representation_orderlyRun :
    ∃ s, exec step .create orderlyRun = some s ∧ Represented (s.tSa1ArrayMng 0) := by
  have ha : Along step KeepsNumbers .create orderlyRun := by decide +kernel
  exact ⟨_, rfl, (window_representation ha rfl rfl).1⟩

/-- A frame far beyond an empty window: the index moves once around the array and one on, the
expected sequence number to the new window start. -/
theorem far_frame_moves_apart :
    ∃ s s', exec step .create [.receivePacket (addbaFrame 1 0 8 0)] = some s ∧
      step s (.receivePacket (qosFrame 2 0 100)) = some s' ∧
      (s.tSa1ArrayMng 0).aTidBaEstablished = true ∧
      ¬MoveTogether (s.tSa1ArrayMng 0) (s'.tSa1ArrayMng 0) :=
  ⟨_, _, rfl, rfl, rfl, by decide +kernel⟩

/-! ## The order of deliveries -/

/-- The sequence number of a data frame of TID `t` handed up as good. -/
def dataSn (t : Tid) (x : TiStatus × RxBuf) : Option ℕ :=
  if x.1 = .ok ∧ DataOf t x.2 then some x.2.frameSn else none

/-- The sequence numbers of TID `t` that a step delivers. -/
def deliveredIn (t : Tid) (s s' : TRxQueue) : List ℕ :=
  (s'.passed.drop s.passed.length).filterMap (dataSn t)

/-- The deliveries of TID `t` in the steps that `keep` selects, as absolute numbers: `A` is that of
the window start, which moves ahead with the expected sequence number. -/
def deliveries (keep : TRxQueue → Op → Bool) (t : Tid) : ℤ → TRxQueue → List Op → List ℤ
  | _, _, [] => []
  | A, s, op :: ops =>
    match step s op with
    | none => []
    | some s' =>
      (if keep s op then
        (deliveredIn t s s').map fun sn : ℕ =>
          unwrap 0x1000 0x7FF A (s.tSa1ArrayMng t).aTidExpectedSn sn
      else []) ++
      deliveries keep t
        (A + cdist 0x1000 (s.tSa1ArrayMng t).aTidExpectedSn (s'.tSa1ArrayMng t).aTidExpectedSn)
        s' ops

/-- The step stays within the session of TID `t`. -/
def InSession (t : Tid) (s : TRxQueue) (op : Op) : Prop :=
  (s.tSa1ArrayMng t).aTidBaEstablished = true ∧
    (step s op).all (fun s' => (s'.tSa1ArrayMng t).aTidBaEstablished) = true

instance (t : Tid) (s : TRxQueue) (op : Op) : Decidable (InSession t s op) :=
  inferInstanceAs (Decidable (_ ∧ _))

/-- The step runs into none of the slips that break the order. -/
def InOrderStep (s : TRxQueue) (op : Op) : Prop := KeepsNumbers s op ∧ BarInOrder s op

instance (s : TRxQueue) (op : Op) : Decidable (InOrderStep s op) :=
  inferInstanceAs (Decidable (_ ∧ _))

theorem filterMap_dataSn_held (hf : ∀ k x, w k = some x → IsFrame t ((e + k) % 0x1000) x) :
    ((w.held m).map hand).filterMap (dataSn t) = (w.held m).map fun x => x.2.frameSn := by
  rw [List.filterMap_map, ← List.filterMap_eq_map]
  refine List.filterMap_congr fun x hx => ?_
  obtain ⟨k, -, hk⟩ := Window.mem_held.mp hx
  obtain ⟨hok, hd, -⟩ := hf k x hk
  have hx2 : hand x = x := by
    obtain ⟨st, p⟩ := x
    obtain rfl : st = .ok := hok
    rfl
  simp only [Function.comp_apply, hx2, dataSn]
  exact if_pos ⟨hok, hd⟩

theorem ascends_held (he : e < 0x1000) (hm : m ≤ 0x7FF)
    (hf : ∀ k x, w k = some x → IsFrame t ((e + k) % 0x1000) x) (A : ℤ) :
    Ascends A (A + m) (((w.held m).map fun x => x.2.frameSn).map fun sn : ℕ =>
      unwrap 0x1000 0x7FF A e sn) := by
  have hunwrap : ∀ k x, k < m → w k = some x → unwrap 0x1000 0x7FF A e x.2.frameSn = A + k := by
    intro k x hk hx
    obtain ⟨-, -, hsn⟩ := hf k x hx
    unfold unwrap
    rw [hsn, cdist_add he (by omega), if_pos (by omega)]
  rw [List.map_map]
  refine ⟨List.pairwise_map.mpr (Window.held_pairwise fun j k a b hjk hk ha hb => ?_), ?_⟩
  · simp only [Function.comp_apply]
    rw [hunwrap j a (by omega) ha, hunwrap k b hk hb]
    omega
  · intro z hz
    obtain ⟨x, hx, rfl⟩ := List.mem_map.mp hz
    obtain ⟨k, hk, hkx⟩ := Window.mem_held.mp hx
    simp only [Function.comp_apply]
    rw [hunwrap k x hk hkx]
    omega

/-- One step in a session delivers, a frame behind the window apart, ascending numbers between its
window start before and after. -/
theorem step_ascends (hwf : WF s) (hn : Numbered s) (ho : InOrderStep s op)
    (h : step s op = some s') (hin : InSession t s op) (hb : ¬Behind s t op) (A : ℤ) :
    Ascends A
      (A + cdist 0x1000 (s.tSa1ArrayMng t).aTidExpectedSn (s'.tSa1ArrayMng t).aTidExpectedSn)
      ((deliveredIn t s s').map fun sn : ℕ =>
        unwrap 0x1000 0x7FF A (s.tSa1ArrayMng t).aTidExpectedSn sn) := by
  have he' : (s'.tSa1ArrayMng t).aTidBaEstablished = true := by
    have := hin.2
    rwa [h, Option.all_some] at this
  rcases step_progress hwf hn ho.1 h hin.1 with hc | ⟨w, m, hp⟩
  · exact absurd (hc.symm.trans he') (by decide)
  · obtain ⟨c, hadv, -, rest, hpassed, hrest⟩ := hp.advance
    have hsn := hp.sn.resolve_right fun h0 => h0.1 ho.2
    have hm := hadv.le
    have hlt := (hn t hin.1).shaped.snLt
    have hnone : rest.filterMap (dataSn t) = [] := by
      rw [List.filterMap_eq_nil_iff]
      intro x hx
      exact if_neg fun hd => hrest hb x hx hd.1 hd.2
    have hdel : deliveredIn t s s' = (w.held m).map fun x => x.2.frameSn := by
      unfold deliveredIn
      rw [hpassed, hadv.passed, List.append_assoc]
      show ((s.passed ++ _).drop s.passed.length).filterMap (dataSn t) = _
      rw [List.drop_left, List.filterMap_append, hnone, List.append_nil,
        filterMap_dataSn_held hadv.frame]
    rw [hdel, hsn, cdist_add hlt (by omega)]
    exact ascends_held hlt hm hadv.frame A

theorem run_ascends {ops : List Op} (hwf : WF s) (hn : Numbered s)
    (ho : Along step InOrderStep s ops) (hin : Along step (InSession t) s ops) (A : ℤ) :
    ∃ B, A ≤ B ∧ Ascends A B (deliveries (fun s op => !Behind s t op) t A s ops) := by
  induction ops generalizing s A with
  | nil => exact ⟨A, le_rfl, Ascends.nil A A⟩
  | cons op ops ih =>
    unfold deliveries
    cases hs : step s op with
    | none => exact ⟨A, le_rfl, Ascends.nil A A⟩
    | some s' =>
      set A' := A +
        cdist 0x1000 (s.tSa1ArrayMng t).aTidExpectedSn (s'.tSa1ArrayMng t).aTidExpectedSn with hA'
      have hAA' : A ≤ A' := by omega
      obtain ⟨B, hAB, hB⟩ := ih (step_accounts hwf ho.1.1.noOverwrite hs).1
        (step_numbered hwf hn ho.1.1 hs) (ho.2 s' hs) (hin.2 s' hs) A'
      refine ⟨B, by omega, Ascends.append ?_ hB hAA' hAB⟩
      by_cases hb : Behind s t op
      · rw [if_neg (by simp [hb])]
        exact Ascends.nil A A'
      · rw [if_pos (by simp [hb])]
        exact step_ascends hwf hn ho.1 hs hin.1 hb A

/-- A frame inside the window, unless it is the last one of a window whose end wraps, moves the
window over numbers that have arrived only: its own and those of stored packets. -/
theorem no_skip (hwf : WF s) (hn : Numbered s) (hd : DataOf t b.forceTag)
    (h : step s (.receivePacket b) = some s')
    (hin : (s.tSa1ArrayMng t).ahead b.forceTag.frameSn < (s.tSa1ArrayMng t).aTidWinSize)
    (hwrap : ¬((s.tSa1ArrayMng t).ahead b.forceTag.frameSn + 1 = (s.tSa1ArrayMng t).aTidWinSize ∧
      0x1000 ≤ (s.tSa1ArrayMng t).aTidExpectedSn +
        (s.tSa1ArrayMng t).ahead b.forceTag.frameSn)) :
    ∀ j < cdist 0x1000 (s.tSa1ArrayMng t).aTidExpectedSn (s'.tSa1ArrayMng t).aTidExpectedSn,
      j = (s.tSa1ArrayMng t).ahead b.forceTag.frameSn ∨ ((s.tSa1ArrayMng t).window j).isSome := by
  intro j hj
  have hsame : s'.tSa1ArrayMng = s.tSa1ArrayMng → False := by
    intro hdb
    rw [hdb, cdist_self] at hj
    exact absurd hj (Nat.not_lt_zero _)
  have hs' : s' = s.follow b.forceTag (s.branch b.forceTag) := by
    rw [← receivePacket_eq]
    exact (Option.some.inj h).symm
  have ht := s.branch_takes b.forceTag
  cases hr : s.branch b.forceTag with
  | pass tStatus | behind u => exact absurd (by rw [hs', hr]; rfl) hsame
  | inOrder u =>
    rw [hr] at ht hs'
    obtain ⟨hb, heu, hsn⟩ := ht
    obtain rfl : t = u := Fin.ext (hd.2.symm.trans hb.2)
    obtain ⟨m, -, ha, hsn', hocc⟩ := inOrder_advance (c := s.tid t) (hn t heu) hb hsn
    have hm := ha.le
    have hw := restart_writes s t ((s.tid t).inOrder b.forceTag)
    have hdb : s'.tSa1ArrayMng t = ((s.tid t).inOrder b.forceTag).db := by
      rw [hs']
      exact hw.db_same
    rw [hdb, hsn', show (s.tid t).db = s.tSa1ArrayMng t from rfl,
      cdist_add (hwf.snLt t) (by omega)] at hj
    have hj' := hocc j hj
    rw [Window.put_apply] at hj'
    split at hj'
    case isTrue h0 =>
      refine Or.inl ?_
      rw [h0, hsn]
      exact (cdist_self _ _).symm
    case isFalse => exact Or.inr hj'
  | save u =>
    rw [hr] at ht hs'
    obtain rfl : t = u := Fin.ext (hd.2.symm.trans ht.1.2)
    have hdb : (s'.tSa1ArrayMng t).aTidExpectedSn = (s.tSa1ArrayMng t).aTidExpectedSn := by
      rw [hs', (save_writes s t b.forceTag).db_same]
      rfl
    rw [hdb, cdist_self] at hj
    exact absurd hj (Nat.not_lt_zero _)
  | beyond u =>
    rw [hr] at ht
    obtain ⟨hb, heu, hbig, hend⟩ := ht
    obtain rfl : t = u := Fin.ext (hd.2.symm.trans hb.2)
    obtain ⟨hpos, hlt⟩ := ahead_of_bigger (hwf.snLt t) b.forceTag.frameSn_lt hbig
    rcases (isABiggerThanB_winEnd (hn t heu).shaped (by omega) b.forceTag.frameSn_lt hpos hlt).mp
      hend with hge | hlast
    · omega
    · exact absurd hlast hwrap
  | bar u | addba u | delba u =>
    rw [hr] at ht
    exact absurd hd.1 ht.1

/-- **A session delivers in order**, in every run of `InOrderStep`s. From any state of the run on,
for as long as the session of TID `t` lasts, the sequence numbers it delivers ascend strictly,
frames behind the window apart. A frame behind the window is handed up at once and nothing else
changes. A frame inside the window, unless it is the last one of a window whose end wraps, moves
the window over numbers that have arrived only. -/
theorem session_in_order {pre ops : List Op} (t : Tid) (A : ℤ)
    (ha : Along step InOrderStep .create (pre ++ ops)) (hpre : exec step .create pre = some s)
    (hin : Along step (InSession t) s ops) :
    (deliveries (fun s op => !Behind s t op) t A s ops).Pairwise (· < ·) ∧
    (∀ b, Behind s t (.receivePacket b) →
      step s (.receivePacket b) = some (s.passPacket .ok b.forceTag)) ∧
    ∀ b s', DataOf t b.forceTag → step s (.receivePacket b) = some s' →
      (s.tSa1ArrayMng t).ahead b.forceTag.frameSn < (s.tSa1ArrayMng t).aTidWinSize →
      ¬((s.tSa1ArrayMng t).ahead b.forceTag.frameSn + 1 = (s.tSa1ArrayMng t).aTidWinSize ∧
        0x1000 ≤ (s.tSa1ArrayMng t).aTidExpectedSn +
          (s.tSa1ArrayMng t).ahead b.forceTag.frameSn) →
      ∀ j < cdist 0x1000 (s.tSa1ArrayMng t).aTidExpectedSn (s'.tSa1ArrayMng t).aTidExpectedSn,
        j = (s.tSa1ArrayMng t).ahead b.forceTag.frameSn ∨
          ((s.tSa1ArrayMng t).window j).isSome := by
  obtain ⟨hpreCond, hrest⟩ := Along.append.mp ha
  obtain ⟨hwf, hn⟩ := run_numbered (hpreCond.mono fun _ _ h => h.1) hpre
  refine ⟨?_, fun b hb => ?_, fun b s' hd hs hlt hwrap => no_skip hwf hn hd hs hlt hwrap⟩
  · obtain ⟨B, -, hB⟩ := run_ascends hwf hn (hrest s hpre) hin A
    exact hB.1
  · have hb' : s.branch b.forceTag = .behind t := hb
    show some (s.receivePacket b) = _
    rw [receivePacket_eq, hb']
    rfl

/-- Frames of a session around the wrap of the sequence numbers, two of them late. -/
def wrapRun : List Op :=
  [.receivePacket (qosFrame 2 0 4095), .receivePacket (qosFrame 3 0 0),
    .receivePacket (qosFrame 4 0 4094), .receivePacket (qosFrame 5 0 1)]

theorem session_in_order_wrapRun :
    ∃ s, exec step .create [.receivePacket (addbaFrame 1 0 8 4094)] = some s ∧
      (deliveries (fun s op => !Behind s 0 op) 0 4094 s wrapRun).Pairwise (· < ·) := by
  have ha : Along step InOrderStep .create
      ([.receivePacket (addbaFrame 1 0 8 4094)] ++ wrapRun) := by decide +kernel
  exact ⟨_, rfl, (session_in_order 0 4094 ha rfl (by decide +kernel)).1⟩

/-- A frame that was delivered already is delivered again. -/
theorem duplicate_delivered :
    ∃ s, exec step .create [.receivePacket (addbaFrame 1 0 8 5)] = some s ∧
      Along step (InSession 0) s [.receivePacket (qosFrame 2 0 5), .receivePacket (qosFrame 3 0 6),
        .receivePacket (qosFrame 4 0 5)] ∧
      ¬(deliveries (fun _ _ => true) 0 5 s [.receivePacket (qosFrame 2 0 5),
        .receivePacket (qosFrame 3 0 6), .receivePacket (qosFrame 4 0 5)]).Pairwise (· < ·) :=
  ⟨_, rfl, by decide +kernel, by decide +kernel⟩

end TRxQueue

end ArchosGpl.Wlan.RxQueue
