import ArchosGpl.Wlan.RxQueue.Slots

/-!
# What a frame does to the window

A frame that the window accepts is put at its distance `d` from the expected sequence number, and
the window is then moved by some `m`, which hands up what it passes, the frame itself included
(`Took`). This one description covers the three parts of the receive function, each on a TID
whose array has its shape (`Shaped`):

* Part 1 (`inOrder_took`): `d = 0`, and the window moves over the frame and the packets behind it.
* Part 2 (`store_took`): the window does not move.
* Part 3 (`beyond_took`): the window moves until the frame is its last one, and over the packets
  that are then at its start, the frame itself included.

A BAR (`bar_moved`), the time-out (`timeOut_moved`) and the end of a session move the window
without a frame.
-/

namespace ArchosGpl.Wlan.RxQueue

open Lib

/-- The shape of the array of a TID with a session: nothing at the window start, nothing beyond the
window end. -/
structure TidDataBase.Shaped (db : TidDataBase) : Prop where
  winLe : db.aTidWinSize ≤ arraySize
  snLt : db.aTidExpectedSn < 0x1000
  head : db.window 0 = none
  beyond : ∀ k, db.aTidWinSize ≤ k → db.window k = none

theorem TidDataBase.window_of_le (db : TidDataBase) {k : ℕ} (h : arraySize ≤ k) :
    db.window k = none := view_of_le h

/-- How far a sequence number lies ahead of the expected one. -/
def TidDataBase.ahead (db : TidDataBase) (sn : ℕ) : ℕ := cdist 0x1000 db.aTidExpectedSn sn

theorem RxBuf.frameSn_lt (b : RxBuf) : b.frameSn < 0x1000 := by
  have h : b.word 22 &&& 0xFFF0 ≤ 0xFFF0 := Nat.and_le_right
  unfold frameSn
  rw [Nat.shiftRight_eq_div_pow]
  omega

theorem RxBuf.barStart_lt (b : RxBuf) : b.barStart < 0x1000 := by
  have h : b.word 18 &&& 0xFFF0 ≤ 0xFFF0 := Nat.and_le_right
  unfold barStart
  rw [Nat.shiftRight_eq_div_pow]
  omega

theorem RxBuf.addbaStart_lt (b : RxBuf) : b.addbaStart < 0x1000 := by
  have h : b.word 31 &&& 0xFFF0 ≤ 0xFFF0 := Nat.and_le_right
  unfold addbaStart
  rw [Nat.shiftRight_eq_div_pow]
  omega

theorem RxBuf.addbaWinSize_le (b : RxBuf) : b.addbaWinSize ≤ arraySize := by
  unfold addbaWinSize
  split <;> omega

namespace TidCtx

/-- `c'` is `c` with the frame `b` put at position `d` and the window then moved by `m`. -/
structure Took (c c' : TidCtx) (b : RxBuf) (d m : ℕ) : Prop where
  window : c'.db.window = (c.db.window.put d (.ok, b)).slide m
  passed : c'.passed = c.passed ++ ((c.db.window.put d (.ok, b)).held m).map hand
  stored : c'.aPacketsStored =
    c.aPacketsStored + 1 - UInt16.ofNat ((c.db.window.put d (.ok, b)).held m).length
  winSize : c'.db.aTidWinSize = c.db.aTidWinSize
  established : c'.db.aTidBaEstablished = c.db.aTidBaEstablished
  index : c'.db.aWinStartArrayInex = c.db.aWinStartArrayInex + Fin.ofNat arraySize m ∨
    ∀ k, m ≤ k → c.db.window k = none

namespace Took

variable {c c' c'' : TidCtx} {b : RxBuf} {d m n : ℕ}

theorem trans_moved (h : Took c c' b d m) (hdm : d < m) (h' : Moved c' c'' n) :
    Took c c'' b d (m + n) where
  window := by rw [h'.window, h.window, Window.slide_slide]
  passed := by
    rw [h'.passed, h.passed, h.window, Window.held_add, List.map_append, List.append_assoc]
  stored := by
    rw [h'.stored, h.stored, h.window, Window.held_add, List.length_append, UInt16.ofNat_add]
    grind
  winSize := h'.winSize.trans h.winSize
  established := h'.established.trans h.established
  index := by
    rcases h'.index with hi' | he
    · rcases h.index with hi | he
      · refine Or.inl ?_
        rw [hi', hi, add_assoc, ← ofNat_add]
      · exact Or.inr fun k hk => he k (by omega)
    · refine Or.inr fun k hk => ?_
      have := he (k - m) (by omega)
      rwa [h.window, Window.slide_apply, Nat.sub_add_cancel (by omega),
        Window.put_ne _ _ (by omega)] at this

end Took

theorem Moved.trans_took {c c' c'' : TidCtx} {b : RxBuf} {d m : ℕ} (h : Moved c c' m) (hmd : m ≤ d)
    (h' : Took c' c'' b (d - m) 0) : Took c c'' b d m where
  window := by
    rw [h'.window, h.window, Window.slide_put_of_le _ _ hmd]
    rfl
  passed := by
    rw [h'.passed, h.passed, Window.held_put_of_le _ _ hmd]
    simp
  stored := by
    rw [h'.stored, h.stored, Window.held_put_of_le _ _ hmd, Window.held_zero, List.length_nil]
    grind
  winSize := h'.winSize.trans h.winSize
  established := h'.established.trans h.established
  index := by
    rcases h.index with hi | he
    · rcases h'.index with hi' | he'
      · refine Or.inl ?_
        rw [hi', hi]
        simp
      · refine Or.inr fun k hk => ?_
        have := he' (k - m) (Nat.zero_le _)
        rwa [h.window, Window.slide_apply, Nat.sub_add_cancel hk] at this
    · exact Or.inr he

/-! ## The accepted frames -/

variable {c : TidCtx} {b : RxBuf}

theorem inOrder_took (hs : c.db.Shaped) (b : RxBuf) :
    ∃ m ≤ arraySize, Took c (c.inOrder b) b 0 (m + 1) ∧
      m = (c.db.window.slide 1).leading arraySize ∧
      (c.inOrder b).db.aTidExpectedSn = (c.db.aTidExpectedSn + (m + 1)) % 0x1000 := by
  have hinc := incIndex_moved hs.head
  set c₁ := (c.passPacket .ok b).incSn.incIndex with hc₁
  have hwin : c₁.db.window = c.db.window.slide 1 := hinc.window
  have hsn₁ : c₁.db.aTidExpectedSn = (c.db.aTidExpectedSn + 1) % 0x1000 := rfl
  have htook : Took c c₁ b 0 1 := by
    constructor
    · rw [hwin, Window.slide_put_of_lt _ _ Nat.zero_lt_one]
    · simp [hc₁, incIndex, incSn, passPacket, Window.held_one, hand]
    · simp [hc₁, incIndex, incSn, passPacket, Window.held_one]
    · rfl
    · rfl
    · exact Or.inl rfl
  have hdrain := drain_moved arraySize c₁
  have hdsn := drain_sn arraySize (c := c₁) (hsn₁ ▸ Nat.mod_lt _ (by decide))
  rw [hwin] at hdrain hdsn
  refine ⟨_, Window.leading_le _ _, ?_, rfl, ?_⟩
  · rw [Nat.add_comm]
    exact htook.trans_moved Nat.zero_lt_one hdrain
  · show (drain arraySize c₁).db.aTidExpectedSn = _
    rw [hdsn, hsn₁, Nat.mod_add_mod, Nat.add_assoc, Nat.add_comm 1]

theorem saveIndex_eq (db : TidDataBase) (sn : ℕ) :
    saveIndex db sn = db.aWinStartArrayInex + Fin.ofNat arraySize (db.ahead sn) := rfl

variable {db : TidDataBase} {sn : ℕ}

theorem pPacket_saveIndex (h : db.ahead sn < arraySize) :
    (db.aPaketsQueue (saveIndex db sn)).pPacket = none ↔ db.window (db.ahead sn) = none := by
  rw [TidDataBase.window, view_of_lt h, PacketEntry.content_eq_none, saveIndex_eq]

theorem store_took {e : PacketEntry} (hd : c.db.ahead b.frameSn < arraySize)
    (he : e.content = some (.ok, b)) :
    Took c (c.store (saveIndex c.db b.frameSn) e) b (c.db.ahead b.frameSn) 0 where
  window := by
    rw [Window.slide_zero]
    have hcell : (fun i => (Function.update c.db.aPaketsQueue (saveIndex c.db b.frameSn) e i).content)
        = Function.update (fun i => (c.db.aPaketsQueue i).content) (saveIndex c.db b.frameSn)
          (some (.ok, b)) := by
      funext i
      by_cases hi : i = saveIndex c.db b.frameSn
      · subst hi
        simp [he]
      · simp [Function.update_of_ne hi]
    show view c.db.aWinStartArrayInex (fun i =>
      (Function.update c.db.aPaketsQueue (saveIndex c.db b.frameSn) e i).content) = _
    rw [hcell, saveIndex_eq]
    exact view_put hd _
  passed := by simp [store]
  stored := by simp [store]
  winSize := rfl
  established := rfl
  index := Or.inl (by simp [store])

/-- The loops of Part 3 move the window until the frame at distance `d` is its last one, and on
over the packets that are then at its start. They stop at an empty position, short of the frame. -/
theorem moveWindow_moved (hs : c.db.Shaped) (hwp : 0 < c.db.aTidWinSize)
    (hsn : sn < 0x1000) (hpos : 0 < c.db.ahead sn) (hlt : c.db.ahead sn < 0x7FF)
    (hw : c.db.aTidWinSize ≤ c.db.ahead sn + 1) (hvac : c.db.window (c.db.ahead sn) = none) :
    ∃ m ≤ c.db.ahead sn,
      Moved c (c.moveWindow ((sn + 0x1000 - c.db.aTidWinSize + 1) % 0x1000)) m ∧
      (c.moveWindow ((sn + 0x1000 - c.db.aTidWinSize + 1) % 0x1000)).db.aTidExpectedSn =
        (c.db.aTidExpectedSn + m) % 0x1000 ∧
      max 1 (c.db.ahead sn + 1 - c.db.aTidWinSize) ≤ m ∧
      (∀ j, max 1 (c.db.ahead sn + 1 - c.db.aTidWinSize) ≤ j → j < m →
        (c.db.window j).isSome) ∧ c.db.window m = none := by
  have hwl := hs.winLe
  have hel := hs.snLt
  have harrive := add_cdist hel hsn
  rw [← TidDataBase.ahead] at harrive
  set d := c.db.ahead sn with hd
  set W := c.db.aTidWinSize with hW
  set e := c.db.aTidExpectedSn with he
  set a := (sn + 0x1000 - W + 1) % 0x1000 with ha
  have halt : a < 0x1000 := Nat.mod_lt _ (by decide)
  -- The distance from the number after the expected one to the new window start.
  have hda : cdist 0x1000 ((e + 1) % 0x1000) a = if W ≤ d then d - W else 0xFFF := by
    unfold cdist
    split <;> omega
  have hfirst : Moved c c.incIndex.incSn 1 := (incIndex_moved hs.head).incSn
  obtain ⟨hm, hsn', hr⟩ := passBelow_moved halt (min arraySize W) (c := c.incIndex.incSn)
    (Nat.mod_lt _ (by decide))
  have hsn₁ : c.incIndex.incSn.db.aTidExpectedSn = (e + 1) % 0x1000 := rfl
  rw [hsn₁, hda] at hr
  rw [hsn₁, Nat.mod_add_mod, Nat.add_assoc] at hsn'
  rw [Nat.min_eq_right hwl] at hr hm hsn'
  have hmoved := hfirst.trans hm
  unfold moveWindow
  rw [← hW, Nat.min_eq_right hwl]
  set r := passBelow a W c.incIndex.incSn with hrdef
  show ∃ m ≤ d, Moved c (if r.1 = W then r.2.setSn a else r.2.drain arraySize) m ∧ _
  by_cases hrw : r.1 = W
  · -- The window moves on past all that was stored.
    rw [if_pos hrw]
    have hfar : W ≤ d ∧ W ≤ d - W := by
      rw [hrw] at hr
      split at hr <;> (split at hr <;> omega)
    refine ⟨d + 1 - W, by omega, ?_, ?_, by omega, ?_, hs.beyond _ (by omega)⟩
    · exact (hmoved.resize fun k hk => hs.beyond k (by omega)).setSn a
    · show a = _
      omega
    · intro j hj hjm
      omega
  · rw [if_neg hrw]
    have hr' : 1 + r.1 = max 1 (d + 1 - W) := by
      split at hr <;> (split at hr <;> omega)
    have hdrain := drain_moved arraySize r.2
    have hdsn := drain_sn arraySize (c := r.2) (hsn' ▸ Nat.mod_lt _ (by decide))
    rw [hmoved.window] at hdrain hdsn
    set l := (c.db.window.slide (1 + r.1)).leading arraySize with hl
    have hocc : ∀ j < l, (c.db.window (j + (1 + r.1))).isSome := fun j hj =>
      Window.isSome_of_lt_leading (w := c.db.window.slide (1 + r.1)) hj
    have hle : 1 + r.1 + l ≤ d := by
      by_contra hgt
      have := hocc (d - (1 + r.1)) (by omega)
      rw [Nat.sub_add_cancel (by omega), hvac] at this
      exact absurd this (by simp)
    have hend : c.db.window (l + (1 + r.1)) = none := by
      by_cases hl8 : l < arraySize
      · exact Window.leading_eq_none (w := c.db.window.slide (1 + r.1)) hl8
      · exact c.db.window_of_le (by omega)
    refine ⟨1 + r.1 + l, hle, hmoved.trans hdrain, ?_, by omega, ?_, ?_⟩
    · rw [hdsn, hsn', Nat.mod_add_mod, Nat.add_assoc]
    · intro j hj hjm
      have := hocc (j - (1 + r.1)) (by omega)
      rwa [Nat.sub_add_cancel (by omega)] at this
    · rwa [Nat.add_comm] at hend

theorem moveWindow_kept {a : ℕ} (ha : a < 0x1000) :
    (c.moveWindow a).db.aTidBaEstablished = c.db.aTidBaEstablished ∧
      (c.moveWindow a).db.aTidWinSize = c.db.aTidWinSize ∧
      (c.moveWindow a).db.aTidExpectedSn < 0x1000 := by
  obtain ⟨hm, hsn, -⟩ := passBelow_moved ha (min arraySize c.db.aTidWinSize)
    (c := c.incIndex.incSn) (Nat.mod_lt _ (by decide))
  unfold moveWindow
  dsimp only
  split
  · exact ⟨hm.established, hm.winSize, ha⟩
  · have hd := drain_moved arraySize (passBelow a (min arraySize c.db.aTidWinSize) c.incIndex.incSn).2
    refine ⟨hd.established.trans hm.established, hd.winSize.trans hm.winSize, ?_⟩
    rw [drain_sn arraySize (hsn ▸ Nat.mod_lt _ (by decide))]
    exact Nat.mod_lt _ (by decide)

theorem beyond_kept (c : TidCtx) (b : RxBuf) :
    (c.beyond b).db.aTidBaEstablished = c.db.aTidBaEstablished ∧
      (c.beyond b).db.aTidWinSize = c.db.aTidWinSize ∧
      (c.beyond b).db.aTidExpectedSn < 0x1000 := by
  obtain ⟨he, hw, hsn⟩ := moveWindow_kept (c := c)
    (Nat.mod_lt (b.frameSn + 0x1000 - c.db.aTidWinSize + 1) (by decide))
  unfold beyond
  dsimp only
  split
  · exact ⟨he, hw, Nat.mod_lt _ (by decide)⟩
  · exact ⟨he, hw, hsn⟩

theorem inOrder_kept (c : TidCtx) (b : RxBuf) :
    (c.inOrder b).db.aTidBaEstablished = c.db.aTidBaEstablished ∧
      (c.inOrder b).db.aTidWinSize = c.db.aTidWinSize ∧
      (c.inOrder b).db.aTidExpectedSn < 0x1000 := by
  have hd := drain_moved arraySize (c.passPacket .ok b).incSn.incIndex
  refine ⟨hd.established, hd.winSize, ?_⟩
  unfold inOrder
  rw [drain_sn arraySize (Nat.mod_lt _ (by decide))]
  exact Nat.mod_lt _ (by decide)

/-- Part 3: the window moves until the frame is its last one, and over the packets that are then
at its start. -/
theorem beyond_took (hs : c.db.Shaped) (hwp : 0 < c.db.aTidWinSize)
    (hpos : 0 < c.db.ahead b.frameSn) (hlt : c.db.ahead b.frameSn < 0x7FF) (hw : c.db.aTidWinSize ≤ c.db.ahead b.frameSn + 1)
    (hvac : c.db.window (c.db.ahead b.frameSn) = none) :
    ∃ m ≤ c.db.ahead b.frameSn + 1, Took c (c.beyond b) b (c.db.ahead b.frameSn) m ∧
      (c.beyond b).db.aTidExpectedSn = (c.db.aTidExpectedSn + m) % 0x1000 ∧
      max 1 (c.db.ahead b.frameSn + 1 - c.db.aTidWinSize) ≤ m ∧
      (∀ j, max 1 (c.db.ahead b.frameSn + 1 - c.db.aTidWinSize) ≤ j → j < m →
        (c.db.window.put (c.db.ahead b.frameSn) (.ok, b) j).isSome) ∧
      c.db.window.put (c.db.ahead b.frameSn) (.ok, b) m = none := by
  obtain ⟨m, hmd, hm, hsn, hge, hocc, hnone⟩ := moveWindow_moved hs hwp b.frameSn_lt hpos hlt
    hw hvac
  have hwl := hs.winLe
  have hahead := cdist_of_moved hs.snLt b.frameSn_lt hmd
  unfold beyond
  set c₁ := c.moveWindow ((b.frameSn + 0x1000 - c.db.aTidWinSize + 1) % 0x1000) with hc₁
  have hd₁ : c₁.db.ahead b.frameSn = c.db.ahead b.frameSn - m := by
    rw [TidDataBase.ahead, hsn]
    exact hahead
  have hsn₁ : c₁.db.aTidExpectedSn < 0x1000 := hsn ▸ Nat.mod_lt _ (by decide)
  have hat : c₁.db.aTidExpectedSn = b.frameSn ↔ m = c.db.ahead b.frameSn := by
    have := cdist_eq_zero hsn₁ b.frameSn_lt
    rw [← TidDataBase.ahead, hd₁] at this
    rw [eq_comm, ← this]
    omega
  show ∃ m ≤ c.db.ahead b.frameSn + 1, Took c (if c₁.db.aTidExpectedSn = b.frameSn then _ else _) b
    (c.db.ahead b.frameSn) m ∧ _
  by_cases hpass : m = c.db.ahead b.frameSn
  · -- The frame itself goes up: nothing is stored from its position on.
    rw [if_pos (hat.mpr hpass)]
    have hempty : ∀ k, m ≤ k → c.db.window k = none := by
      intro k hk
      by_cases hkd : k = c.db.ahead b.frameSn
      · rw [hkd, hvac]
      · exact hs.beyond k (by omega)
    refine ⟨m + 1, by omega, ?_, ?_, by omega, ?_, ?_⟩
    · rw [← hpass]
      constructor
      · show c₁.db.window = _
        rw [hm.window, Window.slide_put_of_lt _ _ (Nat.lt_succ_self m)]
        funext k
        rw [Window.slide_apply, Window.slide_apply, hempty _ (by omega), hempty _ (by omega)]
      · simp [incSn, passPacket, hm.passed, Window.held_put_succ, hand]
      · show c₁.aPacketsStored = _
        rw [hm.stored, Window.held_put_succ, List.length_append, List.length_singleton,
          UInt16.ofNat_add]
        grind
      · exact hm.winSize
      · exact hm.established
      · exact Or.inr fun k hk => hempty k (by omega)
    · show (c₁.db.aTidExpectedSn + 1) % 0x1000 = _
      rw [hsn, Nat.mod_add_mod, Nat.add_assoc]
    · intro j hj hjm
      rw [Window.put_apply]
      split
      · rfl
      · exact hocc j hj (by omega)
    · rw [Window.put_ne _ _ (by omega)]
      exact hempty _ (by omega)
  · rw [if_neg (fun h => hpass (hat.mp h))]
    refine ⟨m, by omega, ?_, hsn, hge, ?_, ?_⟩
    · refine hm.trans_took hmd ?_
      rw [← hd₁]
      exact store_took (by omega) rfl
    · intro j hj hjm
      rw [Window.put_ne _ _ (by omega)]
      exact hocc j hj hjm
    · rw [Window.put_ne _ _ hpass]
      exact hnone

/-- The comparison with the unmasked window end: a frame inside the window passes for one beyond
it exactly if it is the last one of the window and the window end wraps. -/
theorem isABiggerThanB_winEnd (hs : db.Shaped) (hwp : 0 < db.aTidWinSize) (hsn : sn < 0x1000) (hpos : 0 < db.ahead sn) (hlt : db.ahead sn < 0x7FF) :
    isABiggerThanB sn (winEnd db) ↔
      db.aTidWinSize ≤ db.ahead sn ∨
        db.ahead sn + 1 = db.aTidWinSize ∧ 0x1000 ≤ db.aTidExpectedSn + db.ahead sn := by
  have hwl : db.aTidWinSize ≤ 8 := hs.winLe
  have hel := hs.snLt
  have hend : winEnd db = db.aTidExpectedSn + db.aTidWinSize - 1 := by
    unfold winEnd
    omega
  have harrive := add_cdist hel hsn
  rw [← TidDataBase.ahead] at harrive
  rw [hend]
  simp only [isABiggerThanB, Bool.and_eq_true, decide_eq_true_eq, bne_iff_ne]
  omega

/-! ## Moving the window without a frame -/

/-- The distance a BAR computes is a `TI_UINT16`: it is the distance modulo 4096 only if the
numbers do not wrap in between. -/
def barDelta (db : TidDataBase) (start : ℕ) : ℕ := (start + 2 ^ 16 - db.aTidExpectedSn) % 2 ^ 16

variable {start : ℕ}

theorem barDelta_eq (he : db.aTidExpectedSn < 0x1000)
    (hb : start < 0x1000) (h : barDelta db start < 0x1000) : barDelta db start = db.ahead start := by
  unfold barDelta at h ⊢
  unfold TidDataBase.ahead cdist
  omega

theorem bar_moved (start : ℕ) :
    ∃ m ≤ arraySize, Moved c (c.bar start) m ∧ (c.bar start).db.aTidExpectedSn = start ∧
      (∀ j < m, j < barDelta c.db start ∨ (c.db.window j).isSome) ∧
      (m = arraySize ∨ barDelta c.db start ≤ m) ∧ c.db.window m = none := by
  obtain ⟨m, hm, hmoved, -, hbelow, hend⟩ := passToBar_moved (barDelta c.db start) arraySize 0 c
  refine ⟨m, hm, hmoved.setSn start, rfl, ?_, ?_, ?_⟩
  · intro j hj
    have := hbelow j hj
    rwa [Nat.zero_add] at this
  · rcases hend with h | h
    · exact Or.inl h
    · exact Or.inr (by omega)
  · rcases hend with h | h
    · exact c.db.window_of_le (by omega)
    · exact h.2

/-- A BAR that finds no packet at its own position and, if it computes a wrapped distance, none
beyond it, moves the window by the distance of its starting sequence number. -/
theorem bar_moved_of_aligned (hs : c.db.Shaped) (hb : start < 0x1000)
    (hat : barDelta c.db start < arraySize → c.db.window (barDelta c.db start) = none)
    (hfar : 0x1000 ≤ barDelta c.db start → ∀ k, c.db.ahead start ≤ k → c.db.window k = none) :
    Moved c (c.bar start) (c.db.ahead start) := by
  obtain ⟨m, hm, hmoved, -, hbelow, hend, hnone⟩ := bar_moved (c := c) start
  by_cases h8 : barDelta c.db start < arraySize
  · have hmd : m = barDelta c.db start := by
      by_contra hne
      have hlt : barDelta c.db start < m := by omega
      rcases hbelow _ hlt with h | h
      · exact absurd h (Nat.lt_irrefl _)
      · rw [hat h8] at h
        exact absurd h (by simp)
    rw [← barDelta_eq hs.snLt hb (h8.trans (by decide)), ← hmd]
    exact hmoved
  · have hm8 : m = arraySize := by omega
    subst hm8
    refine hmoved.resize fun k hk => ?_
    by_cases hwrap : 0x1000 ≤ barDelta c.db start
    · by_cases hk8 : arraySize ≤ k
      · exact c.db.window_of_le hk8
      · exact hfar hwrap k (by omega)
    · have := barDelta_eq hs.snLt hb (by omega)
      exact c.db.window_of_le (by omega)

theorem findStored_forever (h : findStored arraySize c = none) (n : ℕ) :
    findStored n c = none := by
  rw [findStored_eq_none] at h ⊢
  intro k _
  by_cases hk : k < arraySize
  · exact h k hk
  · exact c.db.window_of_le (by omega)

theorem timeOut_moved {c' : TidCtx} (hel : c.db.aTidExpectedSn < 0x1000)
    (hst : (c.db.window.held arraySize).length ≤ c.aPacketsStored.toNat)
    (h : findStored arraySize c = some c') :
    ∃ k m, k < arraySize ∧ Moved c (c'.drainStored arraySize) m ∧
      (c'.drainStored arraySize).db.aTidExpectedSn = (c.db.aTidExpectedSn + m) % 0x1000 ∧
      (∀ j < k, c.db.window j = none) ∧ (c.db.window k).isSome ∧
      m = k + (c.db.window.slide k).leading arraySize ∧ c.db.window m = none := by
  obtain ⟨k, hk, hm, hbelow, hsome, hsn⟩ := findStored_eq_some h hel
  have hstored : c'.aPacketsStored = c.aPacketsStored := by
    rw [hm.stored, Window.held_eq_nil hbelow]
    simp
  have hle : c'.db.window.leading arraySize ≤ c'.aPacketsStored.toNat := by
    have hsub : ((c.db.window.slide k).held arraySize).length ≤
        (c.db.window.held (k + arraySize)).length := by
      rw [Window.held_add, List.length_append]
      exact Nat.le_add_left _ _
    rw [Window.held_of_le (m := arraySize) (by omega) fun j hj => c.db.window_of_le hj] at hsub
    rw [hm.window, hstored]
    exact ((Window.leading_le_length _ _).trans hsub).trans hst
  rw [drainStored_eq _ hle]
  have hdrain := drain_moved arraySize c'
  have hdsn := drain_sn arraySize (c := c') (hsn ▸ Nat.mod_lt _ (by decide))
  rw [hm.window] at hdrain hdsn
  set l := (c.db.window.slide k).leading arraySize with hl
  refine ⟨k, k + l, hk, hm.trans hdrain, ?_, hbelow, hsome, rfl, ?_⟩
  · rw [hdsn, hsn, Nat.mod_add_mod, Nat.add_assoc]
  · by_cases hl8 : l < arraySize
    · have := Window.leading_eq_none (w := c.db.window.slide k) hl8
      rwa [Window.slide_apply, ← hl, Nat.add_comm] at this
    · exact c.db.window_of_le (by omega)

/-! ## The shape stays -/

variable {c' : TidCtx} {d m : ℕ}

theorem Took.shaped (h : Took c c' b d m) (hs : c.db.Shaped) (hd : d < m + c.db.aTidWinSize)
    (hhead : c.db.window.put d (.ok, b) m = none) (hsn : c'.db.aTidExpectedSn < 0x1000) :
    c'.db.Shaped where
  winLe := h.winSize ▸ hs.winLe
  snLt := hsn
  head := by rw [h.window, Window.slide_apply, Nat.zero_add, hhead]
  beyond k hk := by
    rw [h.winSize] at hk
    rw [h.window, Window.slide_apply, Window.put_ne _ _ (by omega)]
    exact hs.beyond _ (by omega)

theorem Moved.shaped (h : Moved c c' m) (hs : c.db.Shaped) (hhead : c.db.window m = none)
    (hsn : c'.db.aTidExpectedSn < 0x1000) : c'.db.Shaped where
  winLe := h.winSize ▸ hs.winLe
  snLt := hsn
  head := by rw [h.window, Window.slide_apply, Nat.zero_add, hhead]
  beyond k hk := by
    rw [h.winSize] at hk
    rw [h.window, Window.slide_apply]
    exact hs.beyond _ (by omega)

theorem inOrder_head (c : TidCtx) :
    c.db.window ((c.db.window.slide 1).leading arraySize + 1) = none := by
  by_cases h8 : (c.db.window.slide 1).leading arraySize < arraySize
  · exact Window.leading_eq_none (w := c.db.window.slide 1) h8
  · exact c.db.window_of_le (by omega)

theorem inOrder_shaped (hs : c.db.Shaped) (b : RxBuf) :
    (c.inOrder b).db.Shaped := by
  obtain ⟨m, -, htook, hm, hsn⟩ := inOrder_took hs b
  refine htook.shaped hs (by omega) ?_ (hsn ▸ Nat.mod_lt _ (by decide))
  rw [Window.put_ne _ _ (by omega), hm]
  exact inOrder_head c

theorem store_shaped (hs : c.db.Shaped) (hpos : 0 < c.db.ahead b.frameSn)
    (hd : c.db.ahead b.frameSn < c.db.aTidWinSize) {e : PacketEntry}
    (he : e.content = some (.ok, b)) : (c.store (saveIndex c.db b.frameSn) e).db.Shaped := by
  have htook := store_took (c := c) (Nat.lt_of_lt_of_le hd hs.winLe) he
  refine htook.shaped hs (by omega) ?_ hs.snLt
  rw [Window.put_ne _ _ (by omega)]
  exact hs.head

theorem beyond_shaped (hs : c.db.Shaped) (hwp : 0 < c.db.aTidWinSize)
    (hpos : 0 < c.db.ahead b.frameSn) (hlt : c.db.ahead b.frameSn < 0x7FF)
    (hw : c.db.aTidWinSize ≤ c.db.ahead b.frameSn + 1)
    (hvac : c.db.window (c.db.ahead b.frameSn) = none) : (c.beyond b).db.Shaped := by
  obtain ⟨m, -, htook, hsn, hge, -, hhead⟩ := beyond_took hs hwp hpos hlt hw hvac
  exact htook.shaped hs (by omega) hhead (hsn ▸ Nat.mod_lt _ (by decide))

theorem bar_shaped (hs : c.db.Shaped) (hb : start < 0x1000) : (c.bar start).db.Shaped := by
  obtain ⟨m, -, hmoved, hsn, -, -, hhead⟩ := bar_moved (c := c) start
  exact hmoved.shaped hs hhead (hsn ▸ hb)

end TidCtx

end ArchosGpl.Wlan.RxQueue
