import ArchosGpl.Lib.SeqNum
import ArchosGpl.Wlan.RxQueue.Model

/-!
# The loops over one TID's slots

A TID's array represents a window of stored packets (`TidDataBase.window`). Every loop of the
module slides it: `Moved c c' m` says that `c'` is `c` with the window moved by `m` positions and
the packets it passed handed to the upper layer, in the order of their positions, and taken off
the packet counter.

One lemma per loop says how far it moves: `drain_moved`, `passBelow_moved`, `passToBar_moved`,
`passAll_moved`, `findStored_eq_some` and `drainStored_eq`. `findStored_eq_none` says when the
search of the time-out does not end.
-/

open Function (update update_eq_self_iff update_of_ne)

namespace ArchosGpl.Wlan.RxQueue

open Lib

/-- A packet with its status, as the callback gets it. -/
def hand (x : TiStatus × RxBuf) : TiStatus × RxBuf := (x.1, x.2.handed x.1)

/-- The stored packets of a TID by their distance from the window start. -/
def TidDataBase.window (db : TidDataBase) : Window (TiStatus × RxBuf) :=
  view db.aWinStartArrayInex fun i => (db.aPaketsQueue i).content

theorem PacketEntry.isSome_content (e : PacketEntry) : e.content.isSome = e.pPacket.isSome := by
  simp [content]

theorem PacketEntry.content_eq_none {e : PacketEntry} : e.content = none ↔ e.pPacket = none := by
  simp [content]

theorem TidDataBase.window_zero (db : TidDataBase) : db.window 0 = db.slot.content :=
  view_zero _ _

theorem TidDataBase.isSome_slot (db : TidDataBase) :
    db.slot.pPacket.isSome = (db.window 0).isSome := by
  rw [window_zero, PacketEntry.isSome_content]

namespace TidCtx

/-- `c'` is `c` with the window moved by `m` positions, the packets it passed handed up. The array
index moved along, unless no packet stays. -/
structure Moved (c c' : TidCtx) (m : ℕ) : Prop where
  window : c'.db.window = c.db.window.slide m
  passed : c'.passed = c.passed ++ (c.db.window.held m).map hand
  stored : c'.aPacketsStored = c.aPacketsStored - UInt16.ofNat (c.db.window.held m).length
  winSize : c'.db.aTidWinSize = c.db.aTidWinSize
  established : c'.db.aTidBaEstablished = c.db.aTidBaEstablished
  index : c'.db.aWinStartArrayInex = c.db.aWinStartArrayInex + Fin.ofNat arraySize m ∨
    ∀ k, m ≤ k → c.db.window k = none

namespace Moved

variable {c c' c'' : TidCtx} {m n : ℕ}

theorem refl (c : TidCtx) : Moved c c 0 :=
  ⟨rfl, by simp, by simp, rfl, rfl, Or.inl (by simp)⟩

theorem trans (h : Moved c c' m) (h' : Moved c' c'' n) : Moved c c'' (m + n) where
  window := by rw [h'.window, h.window, Window.slide_slide]
  passed := by
    rw [h'.passed, h.passed, h.window, Window.held_add, List.map_append, List.append_assoc]
  stored := by
    rw [h'.stored, h.stored, h.window, Window.held_add, List.length_append, UInt16.ofNat_add]
    grind
  winSize := h'.winSize.trans h.winSize
  established := h'.established.trans h.established
  index := by
    rcases h'.index with hi' | he
    · rcases h.index with hi | he
      · refine Or.inl ?_
        rw [hi', hi, add_assoc, ← ofNat_add]
      · exact Or.inr fun k hk => he k (by omega)
    · refine Or.inr fun k hk => ?_
      have := he (k - m) (by omega)
      rwa [h.window, Window.slide_apply, Nat.sub_add_cancel (by omega)] at this

theorem cons (h : Moved c c' 1) (h' : Moved c' c'' n) : Moved c c'' (n + 1) :=
  Nat.add_comm 1 n ▸ h.trans h'

theorem congr_right (h : Moved c c' m) (hw : c''.db.window = c'.db.window)
    (hp : c''.passed = c'.passed) (hs : c''.aPacketsStored = c'.aPacketsStored)
    (hn : c''.db.aTidWinSize = c'.db.aTidWinSize)
    (he : c''.db.aTidBaEstablished = c'.db.aTidBaEstablished)
    (hi : c''.db.aWinStartArrayInex = c'.db.aWinStartArrayInex) : Moved c c'' m :=
  ⟨hw.trans h.window, hp.trans h.passed, hs.trans h.stored, hn.trans h.winSize,
    he.trans h.established, hi ▸ h.index⟩

theorem incSn (h : Moved c c' m) : Moved c c'.incSn m := h.congr_right rfl rfl rfl rfl rfl rfl

theorem setSn (h : Moved c c' m) (sn : ℕ) : Moved c (c'.setSn sn) m :=
  h.congr_right rfl rfl rfl rfl rfl rfl

theorem resize (h : Moved c c' m) (h0 : ∀ k, min m n ≤ k → c.db.window k = none) :
    Moved c c' n := by
  have hheld : c.db.window.held m = c.db.window.held n := by
    rw [Window.held_of_le (Nat.min_le_left m n) h0, Window.held_of_le (Nat.min_le_right m n) h0]
  have hw : c'.db.window = c.db.window.slide n := by
    rw [h.window]
    funext k
    rw [Window.slide_apply, Window.slide_apply, h0 _ (by omega), h0 _ (by omega)]
  exact ⟨hw, hheld ▸ h.passed, hheld ▸ h.stored, h.winSize, h.established,
    Or.inr fun k hk => h0 k (by omega)⟩

end Moved

theorem index_succ (c : TidCtx) : c.incIndex.db.aWinStartArrayInex =
    c.db.aWinStartArrayInex + Fin.ofNat arraySize 1 := rfl

theorem incIndex_moved {c : TidCtx} (h : c.db.window 0 = none) : Moved c c.incIndex 1 where
  window := by
    have hc : (c.db.aPaketsQueue c.db.aWinStartArrayInex).content = none := by
      rw [TidDataBase.window_zero] at h
      exact h
    have hcell : update (fun i => (c.db.aPaketsQueue i).content)
        c.db.aWinStartArrayInex none = fun i => (c.db.aPaketsQueue i).content :=
      update_eq_self_iff.mpr hc.symm
    have := view_advance c.db.aWinStartArrayInex fun i => (c.db.aPaketsQueue i).content
    rw [hcell] at this
    exact this
  passed := by simp [incIndex, Window.held_one, h]
  stored := by simp [incIndex, Window.held_one, h]
  winSize := rfl
  established := rfl
  index := Or.inl (index_succ c)

theorem passSlot_moved (c : TidCtx) : Moved c c.passSlot.incIndex 1 := by
  unfold passSlot
  split
  case h_1 hp =>
    refine incIndex_moved ?_
    rw [TidDataBase.window_zero, PacketEntry.content_eq_none, hp]
  case h_2 p hp =>
    have hc : c.db.window 0 = some (c.db.slot.tStatus, p) := by
      rw [TidDataBase.window_zero, PacketEntry.content, hp, Option.map_some]
    have hcell : (fun i => (update c.db.aPaketsQueue c.db.aWinStartArrayInex
        { c.db.slot with pPacket := none } i).content) =
        update (fun i => (c.db.aPaketsQueue i).content) c.db.aWinStartArrayInex none := by
      funext i
      by_cases hi : i = c.db.aWinStartArrayInex
      · subst hi
        simp [PacketEntry.content]
      · simp [update_of_ne hi]
    constructor
    · simp only [TidDataBase.window, incIndex]
      rw [hcell]
      exact view_advance _ _
    · simp [incIndex, passPacket, Window.held_one, hc, hand]
    · simp [incIndex, Window.held_one, hc]
    · rfl
    · rfl
    · exact Or.inl rfl

@[simp] theorem passSlot_sn (c : TidCtx) : c.passSlot.db.aTidExpectedSn = c.db.aTidExpectedSn := by
  unfold passSlot
  split <;> rfl

theorem round_moved (c : TidCtx) : Moved c c.passSlot.incIndex.incSn 1 := (passSlot_moved c).incSn

@[simp] theorem round_sn (c : TidCtx) :
    c.passSlot.incIndex.incSn.db.aTidExpectedSn = (c.db.aTidExpectedSn + 1) % 0x1000 := by
  show (c.passSlot.db.aTidExpectedSn + 1) % 0x1000 = _
  rw [passSlot_sn]

/-! ## The loops that stop at an empty slot -/

theorem drain_moved (n : ℕ) (c : TidCtx) : Moved c (drain n c) (c.db.window.leading n) := by
  induction n generalizing c with
  | zero => exact Moved.refl c
  | succ n ih =>
    unfold drain Window.leading
    rw [c.db.isSome_slot]
    split
    · have := (round_moved c).cons (ih _)
      rwa [(round_moved c).window] at this
    · exact Moved.refl c

theorem drain_sn (n : ℕ) {c : TidCtx} (h : c.db.aTidExpectedSn < 0x1000) :
    (drain n c).db.aTidExpectedSn = (c.db.aTidExpectedSn + c.db.window.leading n) % 0x1000 := by
  induction n generalizing c with
  | zero => exact (Nat.mod_eq_of_lt h).symm
  | succ n ih =>
    unfold drain Window.leading
    rw [c.db.isSome_slot]
    split
    · rw [ih (by rw [round_sn]; exact Nat.mod_lt _ (by decide)), (round_moved c).window, round_sn,
        Nat.mod_add_mod, Nat.add_assoc, Nat.add_comm 1]
    · exact (Nat.mod_eq_of_lt h).symm

/-- The loop of the time-out runs as far as the plain one: with the packets counted, the counter
does not end it. -/
theorem drainStored_eq (n : ℕ) {c : TidCtx}
    (h : c.db.window.leading n ≤ c.aPacketsStored.toNat) : drainStored n c = drain n c := by
  induction n generalizing c with
  | zero => rfl
  | succ n ih =>
    unfold drainStored drain
    unfold Window.leading at h
    rw [c.db.isSome_slot]
    by_cases h0 : (c.db.window 0).isSome
    · rw [if_pos h0] at h
      have hpos : 0 < c.aPacketsStored := by
        rw [UInt16.lt_iff_toNat_lt]
        exact Nat.lt_of_lt_of_le (Nat.succ_pos _) h
      have hone : (c.db.window.held 1).length = 1 := by
        obtain ⟨x, hx⟩ := Option.isSome_iff_exists.mp h0
        simp [Window.held_one, hx]
      have hst : c.passSlot.incIndex.incSn.aPacketsStored.toNat = c.aPacketsStored.toNat - 1 := by
        rw [(round_moved c).stored, hone, UInt16.toNat_sub_of_le]
        · rfl
        · rw [UInt16.le_iff_toNat_le]
          exact Nat.le_trans (Nat.succ_le_succ (Nat.zero_le _)) h
      rw [if_pos ⟨hpos, h0⟩, if_pos h0]
      refine ih ?_
      rw [(round_moved c).window, hst]
      exact Nat.le_sub_one_of_lt h
    · rw [if_neg fun hc => h0 hc.2, if_neg h0]

/-! ## The loops with a bound of their own -/

theorem isABiggerThanB_iff {a b : ℕ} (ha : a < 0x1000) (hb : b < 0x1000) :
    isABiggerThanB a b ↔ 0 < cdist 0x1000 b a ∧ cdist 0x1000 b a < 0x7FF := by
  have hmod : (a + 2 ^ 32 - b) % 0x1000 = cdist 0x1000 b a := by
    unfold cdist
    omega
  have hpos : 0 < cdist 0x1000 b a ↔ a ≠ b := by
    rw [Nat.pos_iff_ne_zero, Ne, cdist_eq_zero hb ha]
  simp only [isABiggerThanB, hmod, Bool.and_eq_true, decide_eq_true_eq, bne_iff_ne, hpos]
  exact and_comm

theorem passBelow_moved {a : ℕ} (ha : a < 0x1000) (n : ℕ) {c : TidCtx}
    (h : c.db.aTidExpectedSn < 0x1000) :
    Moved c (passBelow a n c).2 (passBelow a n c).1 ∧
      (passBelow a n c).2.db.aTidExpectedSn =
        (c.db.aTidExpectedSn + (passBelow a n c).1) % 0x1000 ∧
      (passBelow a n c).1 =
        if cdist 0x1000 c.db.aTidExpectedSn a < 0x7FF then min n (cdist 0x1000 c.db.aTidExpectedSn a)
        else 0 := by
  induction n generalizing c with
  | zero => exact ⟨Moved.refl c, (Nat.mod_eq_of_lt h).symm, by simp [passBelow]⟩
  | succ n ih =>
    unfold passBelow
    split
    case isTrue hb =>
      obtain ⟨hpos, hlt⟩ := (isABiggerThanB_iff ha h).mp hb
      have hd : cdist 0x1000 ((c.db.aTidExpectedSn + 1) % 0x1000) a =
          cdist 0x1000 c.db.aTidExpectedSn a - 1 := cdist_of_moved h ha hpos
      obtain ⟨hm, hsn, hr⟩ := ih (c := c.passSlot.incIndex.incSn)
        (by rw [round_sn]; exact Nat.mod_lt _ (by decide))
      rw [round_sn] at hsn hr
      refine ⟨(round_moved c).cons hm, ?_, ?_⟩
      · rw [hsn, Nat.mod_add_mod, Nat.add_assoc, Nat.add_comm 1]
      · show (passBelow a n c.passSlot.incIndex.incSn).1 + 1 = _
        rw [hr, hd, if_pos (by omega), if_pos hlt]
        omega
    case isFalse hb =>
      refine ⟨Moved.refl c, (Nat.mod_eq_of_lt h).symm, ?_⟩
      rw [isABiggerThanB_iff ha h] at hb
      split <;> omega

theorem passAll_moved (n : ℕ) (c : TidCtx) : Moved c (passAll n c) n := by
  induction n generalizing c with
  | zero => exact Moved.refl c
  | succ n ih => exact (passSlot_moved c).cons (ih _)

/-- A BAR moves the window over `uWinStartDelta` positions and on to the next empty slot, but at
most once around the array. -/
theorem passToBar_moved (d n i : ℕ) (c : TidCtx) :
    ∃ k ≤ n, Moved c (passToBar d n i c) k ∧
      (passToBar d n i c).db.aTidExpectedSn = c.db.aTidExpectedSn ∧
      (∀ j < k, i + j < d ∨ (c.db.window j).isSome) ∧
      (k = n ∨ d ≤ i + k ∧ c.db.window k = none) := by
  induction n generalizing i c with
  | zero => exact ⟨0, le_rfl, Moved.refl c, rfl, by simp, Or.inl rfl⟩
  | succ n ih =>
    unfold passToBar
    rw [c.db.isSome_slot]
    split
    case isTrue h0 =>
      obtain ⟨k, hk, hm, hsn, hbelow, hend⟩ := ih (i + 1) c.passSlot.incIndex
      rw [(passSlot_moved c).window] at hbelow hend
      refine ⟨k + 1, by omega, (passSlot_moved c).cons hm, ?_, ?_, ?_⟩
      · rw [hsn]
        exact passSlot_sn c
      · intro j hj
        cases j with
        | zero => exact h0
        | succ j =>
          rcases hbelow j (by omega) with h | h
          · exact Or.inl (by omega)
          · exact Or.inr h
      · rcases hend with h | ⟨h, h'⟩
        · exact Or.inl (by omega)
        · exact Or.inr ⟨by omega, h'⟩
    case isFalse h0 =>
      rw [not_or] at h0
      exact ⟨0, Nat.zero_le _, Moved.refl c, rfl, by simp, Or.inr ⟨by omega, by simpa using h0.2⟩⟩

/-! ## The search of the time-out -/

theorem findStored_eq_none {n : ℕ} {c : TidCtx} :
    findStored n c = none ↔ ∀ k < n, c.db.window k = none := by
  induction n generalizing c with
  | zero => simp [findStored]
  | succ n ih =>
    unfold findStored
    rw [c.db.isSome_slot]
    by_cases h0 : (c.db.window 0).isSome
    · rw [if_pos h0]
      refine ⟨fun h => absurd h (by simp), fun h => ?_⟩
      rw [h 0 (Nat.succ_pos n)] at h0
      exact absurd h0 (by simp)
    · have h0' : c.db.window 0 = none := by simpa using h0
      rw [if_neg h0, ih, (incIndex_moved h0').incSn.window]
      constructor
      · intro h k hk
        cases k with
        | zero => exact h0'
        | succ k => exact h k (by omega)
      · intro h k hk
        exact h (k + 1) (by omega)

theorem findStored_eq_some {n : ℕ} {c c' : TidCtx} (h : findStored n c = some c')
    (hsn : c.db.aTidExpectedSn < 0x1000) :
    ∃ k < n, Moved c c' k ∧ (∀ j < k, c.db.window j = none) ∧ (c.db.window k).isSome ∧
      c'.db.aTidExpectedSn = (c.db.aTidExpectedSn + k) % 0x1000 := by
  induction n generalizing c with
  | zero => exact absurd h (by simp [findStored])
  | succ n ih =>
    unfold findStored at h
    rw [c.db.isSome_slot] at h
    by_cases h0 : (c.db.window 0).isSome
    · rw [if_pos h0] at h
      obtain rfl := Option.some.inj h
      exact ⟨0, Nat.succ_pos n, Moved.refl c, by simp, h0, (Nat.mod_eq_of_lt hsn).symm⟩
    · have h0' : c.db.window 0 = none := by simpa using h0
      have hone := (incIndex_moved h0').incSn
      rw [if_neg h0] at h
      obtain ⟨k, hk, hm, hbelow, hat, hsn'⟩ := ih h (Nat.mod_lt _ (by decide))
      rw [hone.window] at hbelow hat
      refine ⟨k + 1, by omega, hone.cons hm, ?_, hat, ?_⟩
      · intro j hj
        cases j with
        | zero => exact h0'
        | succ j => exact hbelow j (by omega)
      · rw [hsn']
        show ((c.db.aTidExpectedSn + 1) % 0x1000 + k) % 0x1000 = _
        rw [Nat.mod_add_mod, Nat.add_assoc, Nat.add_comm 1]

end TidCtx

end ArchosGpl.Wlan.RxQueue
