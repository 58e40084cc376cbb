import Mathlib.Algebra.Order.BigOperators.Group.Finset
import ArchosGpl.Lib.Machine
import ArchosGpl.Wlan.RxQueue.Branch

/-!
# Every buffer is stored once or handed up once

`Accounts` says of a loop, a branch or a step that the buffers handed up and stored after it are
those stored before and the ones it was given, with the counter in step. It composes, so each loop
takes a two-line induction, and `step_accounts` follows branch by branch for well-formed states
(`WF`), as long as Part 3 finds the slot it writes vacant (`NoOverwrite`).

**`buffers_conserved`** is the result for runs; `duplicate_overwrites` is a run in which Part 3
does overwrite a packet.
-/

namespace ArchosGpl.Wlan.RxQueue

open Lib

/-! ## The stored packets -/

/-- The stored packets of a TID, over its slots. -/
def TidDataBase.contents (db : TidDataBase) : Multiset (TiStatus × RxBuf) :=
  ∑ i, ((db.aPaketsQueue i).content.toList : Multiset (TiStatus × RxBuf))

theorem TidDataBase.contents_update (db : TidDataBase) (i : Fin arraySize) (e : PacketEntry) :
    { db with aPaketsQueue := Function.update db.aPaketsQueue i e }.contents +
        (db.aPaketsQueue i).content.toList =
      db.contents + e.content.toList :=
  sum_update_add db.aPaketsQueue
    (fun _ e => (e.content.toList : Multiset (TiStatus × RxBuf))) i e

theorem coe_held {α : Type*} (w : Window α) (n : ℕ) :
    (w.held n : Multiset α) = ∑ k ∈ Finset.range n, ((w k).toList : Multiset α) := by
  induction n with
  | zero => rfl
  | succ n ih => rw [Window.held_succ, ← Multiset.coe_add, ih, Finset.sum_range_succ]

theorem TidDataBase.contents_eq_held (db : TidDataBase) :
    db.contents = (db.window.held arraySize : Multiset (TiStatus × RxBuf)) := by
  rw [coe_held]
  exact (sum_view db.aWinStartArrayInex (fun i => (db.aPaketsQueue i).content)
    fun o => (o.toList : Multiset (TiStatus × RxBuf))).symm

def addrs (m : Multiset (TiStatus × RxBuf)) : Multiset ℕ := m.map fun x => x.2.addr

@[simp] theorem addrs_zero : addrs 0 = 0 := rfl

@[simp] theorem addrs_add (m n : Multiset (TiStatus × RxBuf)) :
    addrs (m + n) = addrs m + addrs n := Multiset.map_add _ _ _

@[simp] theorem addr_handed (b : RxBuf) (tStatus : TiStatus) :
    (b.handed tStatus).addr = b.addr := by
  cases tStatus <;> rfl

namespace TidCtx

/-- From `c` to `c'`, every buffer is accounted for. The buffers handed up and those stored are the
ones stored before and the `new` ones, the counter follows, and a slot that held a packet holds it
still or the packet was handed up. -/
def Accounts (c c' : TidCtx) (new : Multiset ℕ) : Prop :=
  ∃ up : List (TiStatus × RxBuf), c'.passed = c.passed ++ up ∧
    addrs up + addrs c'.db.contents = addrs c.db.contents + new ∧
    c'.aPacketsStored + UInt16.ofNat c.db.contents.card =
      c.aPacketsStored + UInt16.ofNat c'.db.contents.card ∧
    ∀ i x, (c.db.aPaketsQueue i).content = some x →
      (c'.db.aPaketsQueue i).content = some x ∨ hand x ∈ up

variable {c c' c'' : TidCtx} {new new' : Multiset ℕ}

theorem Accounts.trans (h : Accounts c c' new) (h' : Accounts c' c'' new') :
    Accounts c c'' (new + new') := by
  obtain ⟨up, hp, ha, hs, hi⟩ := h
  obtain ⟨up', hp', ha', hs', hi'⟩ := h'
  refine ⟨up ++ up', ?_, ?_, ?_, fun i x hx => ?_⟩
  · rw [hp', hp, List.append_assoc]
  · rw [← Multiset.coe_add, addrs_add, add_assoc, ha', ← add_assoc, ha, add_assoc]
  · grind
  · rcases hi i x hx with h1 | h1
    · rcases hi' i x h1 with h2 | h2
      · exact Or.inl h2
      · exact Or.inr (List.mem_append_right _ h2)
    · exact Or.inr (List.mem_append_left _ h1)

theorem accounts_of_eq (hq : c'.db.aPaketsQueue = c.db.aPaketsQueue)
    (hs : c'.aPacketsStored = c.aPacketsStored) (hp : c'.passed = c.passed) : Accounts c c' 0 := by
  have hc : c'.db.contents = c.db.contents := by simp [TidDataBase.contents, hq]
  exact ⟨[], by simp [hp], by simp [hc], by simp [hc, hs], fun i x hx => Or.inl (hq ▸ hx)⟩

theorem Accounts.refl (c : TidCtx) : Accounts c c 0 := accounts_of_eq rfl rfl rfl

theorem passPacket_accounts (c : TidCtx) (tStatus : TiStatus) (b : RxBuf) :
    Accounts c (c.passPacket tStatus b) {b.addr} := by
  refine ⟨[(tStatus, b.handed tStatus)], rfl, ?_, rfl, fun i x hx => Or.inl hx⟩
  rw [add_comm]
  simp [addrs, passPacket]

theorem store_accounts {i : Fin arraySize} {e : PacketEntry} {tStatus : TiStatus} {b : RxBuf}
    (hi : (c.db.aPaketsQueue i).content = none) (he : e.content = some (tStatus, b)) :
    Accounts c (c.store i e) {b.addr} := by
  have hc : (c.store i e).db.contents = c.db.contents + {(tStatus, b)} := by
    have := c.db.contents_update i e
    rw [hi, he] at this
    simpa [store] using this
  refine ⟨[], by simp [store], ?_, ?_, fun j x hx => ?_⟩
  · rw [hc]
    simp [addrs]
  · rw [hc, Multiset.card_add, Multiset.card_singleton, UInt16.ofNat_add]
    show c.aPacketsStored + 1 + _ = _
    grind
  · refine Or.inl ?_
    have hne : j ≠ i := by
      rintro rfl
      rw [hi] at hx
      exact absurd hx (by simp)
    rw [← hx]
    simp [store, Function.update_of_ne hne]

theorem passSlot_accounts (c : TidCtx) : Accounts c c.passSlot 0 := by
  unfold passSlot
  split
  case h_1 => exact Accounts.refl c
  case h_2 p hp =>
    have hslot : (c.db.aPaketsQueue c.db.aWinStartArrayInex).content =
        some (c.db.slot.tStatus, p) := by
      show c.db.slot.content = _
      rw [PacketEntry.content, hp, Option.map_some]
    have hc := c.db.contents_update c.db.aWinStartArrayInex { c.db.slot with pPacket := none }
    rw [hslot] at hc
    simp only [PacketEntry.content, Option.map_none, Option.toList_none, Option.toList_some,
      Multiset.coe_nil, add_zero, Multiset.coe_singleton] at hc
    refine ⟨[hand (c.db.slot.tStatus, p)], rfl, ?_, ?_, fun i x hx => ?_⟩
    · rw [← hc]
      simp [addrs, hand, add_comm]
    · rw [← hc, Multiset.card_add, Multiset.card_singleton, UInt16.ofNat_add]
      grind
    · by_cases hi : i = c.db.aWinStartArrayInex
      · subst hi
        rw [hslot] at hx
        cases hx
        exact Or.inr (List.mem_singleton_self _)
      · exact Or.inl (by simpa [Function.update_of_ne hi] using hx)

/-! ## The loops -/

theorem round_accounts (c : TidCtx) : Accounts c c.passSlot.incIndex 0 :=
  (passSlot_accounts c).trans (accounts_of_eq rfl rfl rfl)

theorem round_incSn_accounts (c : TidCtx) : Accounts c c.passSlot.incIndex.incSn 0 :=
  (passSlot_accounts c).trans (accounts_of_eq rfl rfl rfl)

theorem drain_accounts (n : ℕ) (c : TidCtx) : Accounts c (drain n c) 0 := by
  induction n generalizing c with
  | zero => exact Accounts.refl c
  | succ n ih =>
    unfold drain
    split
    · exact (round_incSn_accounts c).trans (ih _)
    · exact Accounts.refl c

theorem passBelow_accounts (a n : ℕ) (c : TidCtx) : Accounts c (passBelow a n c).2 0 := by
  induction n generalizing c with
  | zero => exact Accounts.refl c
  | succ n ih =>
    unfold passBelow
    split
    · exact (round_incSn_accounts c).trans (ih _)
    · exact Accounts.refl c

theorem passToBar_accounts (d n i : ℕ) (c : TidCtx) : Accounts c (passToBar d n i c) 0 := by
  induction n generalizing i c with
  | zero => exact Accounts.refl c
  | succ n ih =>
    unfold passToBar
    split
    · exact (round_accounts c).trans (ih _ _)
    · exact Accounts.refl c

theorem passAll_accounts (n : ℕ) (c : TidCtx) : Accounts c (passAll n c) 0 := by
  induction n generalizing c with
  | zero => exact Accounts.refl c
  | succ n ih => exact (round_accounts c).trans (ih _)

theorem findStored_accounts {n : ℕ} (h : findStored n c = some c') : Accounts c c' 0 := by
  induction n generalizing c with
  | zero => exact absurd h (by simp [findStored])
  | succ n ih =>
    unfold findStored at h
    split at h
    · obtain rfl := Option.some.inj h
      exact Accounts.refl c
    · exact (accounts_of_eq rfl rfl rfl : Accounts c c.incIndex.incSn 0).trans (ih h)

theorem drainStored_accounts (n : ℕ) (c : TidCtx) : Accounts c (drainStored n c) 0 := by
  induction n generalizing c with
  | zero => exact Accounts.refl c
  | succ n ih =>
    unfold drainStored
    split
    · exact (round_incSn_accounts c).trans (ih _)
    · exact Accounts.refl c

theorem inOrder_accounts (c : TidCtx) (b : RxBuf) : Accounts c (c.inOrder b) {b.addr} := by
  have h : Accounts c (c.passPacket .ok b).incSn.incIndex ({b.addr} + 0) :=
    (passPacket_accounts c .ok b).trans (accounts_of_eq rfl rfl rfl)
  exact (h.trans (drain_accounts arraySize _))

theorem bar_accounts (c : TidCtx) (start : ℕ) : Accounts c (c.bar start) 0 :=
  (passToBar_accounts _ _ _ c).trans (accounts_of_eq rfl rfl rfl)

theorem moveWindow_accounts (c : TidCtx) (a : ℕ) : Accounts c (c.moveWindow a) 0 := by
  have hbelow : Accounts c (passBelow a (min arraySize c.db.aTidWinSize) c.incIndex.incSn).2
      (0 + 0) :=
    (accounts_of_eq rfl rfl rfl : Accounts c c.incIndex.incSn 0).trans
      (passBelow_accounts a (min arraySize c.db.aTidWinSize) c.incIndex.incSn)
  unfold moveWindow
  dsimp only
  split
  · exact hbelow.trans (accounts_of_eq rfl rfl rfl)
  · exact hbelow.trans (drain_accounts _ _)

theorem beyond_accounts (c : TidCtx) (b : RxBuf)
    (hvac : let c₁ := c.moveWindow ((b.frameSn + 0x1000 - c.db.aTidWinSize + 1) % 0x1000)
      c₁.db.aTidExpectedSn ≠ b.frameSn →
        (c₁.db.aPaketsQueue (saveIndex c₁.db b.frameSn)).content = none) :
    Accounts c (c.beyond b) {b.addr} := by
  have hmove := moveWindow_accounts c ((b.frameSn + 0x1000 - c.db.aTidWinSize + 1) % 0x1000)
  unfold beyond
  set c₁ := c.moveWindow ((b.frameSn + 0x1000 - c.db.aTidWinSize + 1) % 0x1000)
  dsimp only at hvac ⊢
  split
  · have := (hmove.trans (passPacket_accounts _ .ok b)).trans
      (accounts_of_eq rfl rfl rfl : Accounts _ (passPacket _ .ok b).incSn 0)
    simpa using this
  case isFalse hne =>
    have hstore : Accounts c₁ (c₁.store (saveIndex c₁.db b.frameSn)
        { c₁.db.aPaketsQueue (saveIndex c₁.db b.frameSn) with pPacket := some b, tStatus := .ok })
        {b.addr} := store_accounts (hvac hne) rfl
    simpa using hmove.trans hstore

end TidCtx

/-! ## The whole queue -/

namespace TRxQueue

open TidCtx

def contents (s : TRxQueue) : Multiset (TiStatus × RxBuf) := ∑ t, (s.tSa1ArrayMng t).contents

/-- The number of non-NULL slots over all TIDs. -/
def numStored (s : TRxQueue) : ℕ :=
  ∑ t, ∑ i, if ((s.tSa1ArrayMng t).aPaketsQueue i).pPacket.isSome then 1 else 0

theorem card_contents (s : TRxQueue) : s.contents.card = s.numStored := by
  unfold contents numStored TidDataBase.contents
  rw [Multiset.card_sum]
  refine Finset.sum_congr rfl fun t _ => ?_
  rw [Multiset.card_sum]
  refine Finset.sum_congr rfl fun i _ => ?_
  unfold PacketEntry.content
  cases ((s.tSa1ArrayMng t).aPaketsQueue i).pPacket <;> rfl

theorem numStored_le (s : TRxQueue) : s.numStored ≤ 64 := by
  have h : s.numStored ≤ ∑ _t : Tid, ∑ _i : Fin arraySize, 1 :=
    Finset.sum_le_sum fun t _ => Finset.sum_le_sum fun i _ => by split <;> omega
  exact h.trans (by decide)

/-- `Accounts` for the whole queue. -/
def Accounts (s s' : TRxQueue) (new : Multiset ℕ) : Prop :=
  ∃ up : List (TiStatus × RxBuf), s'.passed = s.passed ++ up ∧
    addrs up + addrs s'.contents = addrs s.contents + new ∧
    s'.aPacketsStored + UInt16.ofNat s.numStored = s.aPacketsStored + UInt16.ofNat s'.numStored ∧
    ∀ t i x, ((s.tSa1ArrayMng t).aPaketsQueue i).content = some x →
      ((s'.tSa1ArrayMng t).aPaketsQueue i).content = some x ∨ hand x ∈ up

variable {s s' : TRxQueue} {t : Tid} {c : TidCtx} {new : Multiset ℕ}

theorem Writes.contents (h : Writes s s' t c) :
    s'.contents + (s.tSa1ArrayMng t).contents = s.contents + c.db.contents := by
  unfold TRxQueue.contents
  rw [h.db]
  exact sum_update_add s.tSa1ArrayMng (fun _ => TidDataBase.contents) t c.db

theorem Writes.accounts (h : Writes s s' t c) (ha : TidCtx.Accounts (s.tid t) c new) :
    s.Accounts s' new := by
  obtain ⟨up, hp, haddr, hs, hi⟩ := ha
  have hc := h.contents
  refine ⟨up, h.passed.trans hp, ?_, ?_, fun u i x hx => ?_⟩
  · have hc' := congrArg addrs hc
    rw [addrs_add, addrs_add] at hc'
    refine add_right_cancel (b := addrs (s.tSa1ArrayMng t).contents) ?_
    rw [add_assoc, hc', add_left_comm, haddr]
    show _ + (addrs (s.tSa1ArrayMng t).contents + _) = _
    rw [add_assoc, add_comm new]
  · have hcard := congrArg Multiset.card hc
    rw [Multiset.card_add, Multiset.card_add, card_contents, card_contents] at hcard
    have hcard' := congrArg UInt16.ofNat hcard
    rw [UInt16.ofNat_add, UInt16.ofNat_add] at hcard'
    rw [h.stored]
    have hs' : c.aPacketsStored + UInt16.ofNat (s.tSa1ArrayMng t).contents.card =
      s.aPacketsStored + UInt16.ofNat c.db.contents.card := hs
    grind
  · by_cases hu : u = t
    · subst hu
      rw [h.db_same]
      exact hi i x hx
    · rw [h.db_ne hu]
      exact Or.inl hx

theorem passPacket_accounts (s : TRxQueue) (tStatus : TiStatus) (b : RxBuf) :
    s.Accounts (s.passPacket tStatus b) {b.addr} := by
  refine ⟨[(tStatus, b.handed tStatus)], rfl, ?_, rfl, fun _ _ _ hx => Or.inl hx⟩
  rw [add_comm]
  simp [addrs, passPacket, contents]

theorem Accounts.trans {s'' : TRxQueue} {new' : Multiset ℕ} (h : s.Accounts s' new)
    (h' : s'.Accounts s'' new') : s.Accounts s'' (new + new') := by
  obtain ⟨up, hp, ha, hs, hi⟩ := h
  obtain ⟨up', hp', ha', hs', hi'⟩ := h'
  refine ⟨up ++ up', ?_, ?_, ?_, fun t i x hx => ?_⟩
  · rw [hp', hp, List.append_assoc]
  · rw [← Multiset.coe_add, addrs_add, add_assoc, ha', ← add_assoc, ha, add_assoc]
  · grind
  · rcases hi t i x hx with h1 | h1
    · rcases hi' t i x h1 with h2 | h2
      · exact Or.inl h2
      · exact Or.inr (List.mem_append_right _ h2)
    · exact Or.inr (List.mem_append_left _ h1)

theorem accounts_of_eq (hd : s'.tSa1ArrayMng = s.tSa1ArrayMng)
    (hs : s'.aPacketsStored = s.aPacketsStored) (hp : s'.passed = s.passed) : s.Accounts s' 0 := by
  refine ⟨[], by simp [hp], by simp [contents, hd], by simp [numStored, hd, hs], ?_⟩
  intro t i x hx
  exact Or.inl (hd ▸ hx)

/-! ## Well-formed states -/

/-- A TID without a session stores nothing, a session with a window has its shape, and the counter
counts the stored packets. -/
structure WF (s : TRxQueue) : Prop where
  closed : ∀ t, (s.tSa1ArrayMng t).aTidBaEstablished = false →
    ∀ i, ((s.tSa1ArrayMng t).aPaketsQueue i).content = none
  shaped : ∀ t, (s.tSa1ArrayMng t).aTidBaEstablished = true →
    0 < (s.tSa1ArrayMng t).aTidWinSize → (s.tSa1ArrayMng t).Shaped
  snLt : ∀ t, (s.tSa1ArrayMng t).aTidExpectedSn < 0x1000
  stored : s.aPacketsStored = UInt16.ofNat s.numStored

theorem WF.create : WF TRxQueue.create where
  closed _ _ _ := rfl
  shaped _ h := absurd (show false = true from h) (by decide)
  snLt _ := Nat.zero_lt_succ _
  stored := by decide

theorem WF.toNat_stored (h : WF s) : s.aPacketsStored.toNat = s.numStored := by
  have := s.numStored_le
  rw [h.stored, UInt16.toNat_ofNat']
  exact Nat.mod_eq_of_lt (by omega)

theorem Accounts.wf_stored (h : s.Accounts s' new) (hs : s.aPacketsStored = UInt16.ofNat s.numStored) :
    s'.aPacketsStored = UInt16.ofNat s'.numStored := by
  obtain ⟨-, -, -, hstored, -⟩ := h
  grind

theorem Writes.wf (h : Writes s s' t c) (hwf : WF s) (ha : TidCtx.Accounts (s.tid t) c new)
    (hclosed : c.db.aTidBaEstablished = false → ∀ i, (c.db.aPaketsQueue i).content = none)
    (hshaped : c.db.aTidBaEstablished = true → 0 < c.db.aTidWinSize → c.db.Shaped)
    (hsn : c.db.aTidExpectedSn < 0x1000) : WF s' where
  closed u hu := by
    by_cases hut : u = t
    · subst hut
      rw [h.db_same] at hu ⊢
      exact hclosed hu
    · rw [h.db_ne hut] at hu ⊢
      exact hwf.closed u hu
  shaped u hu hw := by
    by_cases hut : u = t
    · subst hut
      rw [h.db_same] at hu hw ⊢
      exact hshaped hu hw
    · rw [h.db_ne hut] at hu hw ⊢
      exact hwf.shaped u hu hw
  snLt u := by
    by_cases hut : u = t
    · subst hut
      rw [h.db_same]
      exact hsn
    · rw [h.db_ne hut]
      exact hwf.snLt u
  stored := (h.accounts ha).wf_stored hwf.stored

theorem wf_of_eq (hwf : WF s) (hd : s'.tSa1ArrayMng = s.tSa1ArrayMng)
    (hs : s'.aPacketsStored = s.aPacketsStored) : WF s' where
  closed t := hd ▸ hwf.closed t
  shaped t := hd ▸ hwf.shaped t
  snLt t := hd ▸ hwf.snLt t
  stored := by
    rw [hs, hwf.stored]
    unfold numStored
    rw [hd]

/-! ## The slot that Part 3 writes -/

/-- The slot that Part 3 will write for the frame is vacant: without a window it is the one at the
window start, otherwise the frame's own, which only a frame inside the window can find taken. -/
def PartThreeVacant (db : TidDataBase) (b : RxBuf) : Prop :=
  (db.aTidWinSize = 0 → db.slot.pPacket = none) ∧
    (db.ahead b.frameSn < db.aTidWinSize →
      (db.aPaketsQueue (saveIndex db b.frameSn)).pPacket = none)

instance (db : TidDataBase) (b : RxBuf) : Decidable (PartThreeVacant db b) :=
  inferInstanceAs (Decidable ((_ → _) ∧ (_ → _)))

/-- Part 3 overwrites no packet. -/
def NoOverwrite (s : TRxQueue) : Op → Prop
  | .receivePacket b => ∀ t, s.branch b.forceTag = .beyond t →
      PartThreeVacant (s.tSa1ArrayMng t) b.forceTag
  | _ => True

instance (s : TRxQueue) : (op : Op) → Decidable (NoOverwrite s op)
  | .receivePacket _ => inferInstanceAs (Decidable (∀ _, _))
  | .closeBaSession _ | .timerExpiry | .packetTimeOut => isTrue trivial

end TRxQueue

namespace TidCtx

variable {c : TidCtx} {b : RxBuf}

theorem saveIndex_moveWindow_zero (hw : c.db.aTidWinSize = 0) {sn : ℕ} (hsn : sn < 0x1000) :
    let c₁ := c.moveWindow ((sn + 0x1000 - c.db.aTidWinSize + 1) % 0x1000)
    c₁.db.aPaketsQueue = c.db.aPaketsQueue ∧
      saveIndex c₁.db sn = c.db.aWinStartArrayInex := by
  have hmove : c.moveWindow ((sn + 0x1000 - c.db.aTidWinSize + 1) % 0x1000) =
      c.incIndex.incSn.setSn ((sn + 0x1000 + 1) % 0x1000) := by
    simp [moveWindow, hw, passBelow]
  rw [hmove]
  refine ⟨rfl, ?_⟩
  have hback : (sn + 0x1000 - (sn + 0x1000 + 1) % 0x1000) % 0x1000 = 0xFFF := by omega
  show c.db.aWinStartArrayInex + 1 +
    Fin.ofNat arraySize ((sn + 0x1000 - (sn + 0x1000 + 1) % 0x1000) % 0x1000) = _
  rw [hback]
  generalize c.db.aWinStartArrayInex = i
  revert i
  decide

theorem ahead_of_bigger {db : TidDataBase} {sn : ℕ} (he : db.aTidExpectedSn < 0x1000)
    (hsn : sn < 0x1000) (h : isABiggerThanB sn db.aTidExpectedSn) :
    0 < db.ahead sn ∧ db.ahead sn < 0x7FF := (isABiggerThanB_iff hsn he).mp h

theorem window_ahead_eq_none (hs : c.db.Shaped)
    (hv : TRxQueue.PartThreeVacant c.db b) : c.db.window (c.db.ahead b.frameSn) = none := by
  by_cases hd : c.db.ahead b.frameSn < c.db.aTidWinSize
  · exact (pPacket_saveIndex (Nat.lt_of_lt_of_le hd hs.winLe)).mp (hv.2 hd)
  · exact hs.beyond _ (by omega)

theorem beyond_accounts_of_vacant (hs : 0 < c.db.aTidWinSize → c.db.Shaped)
    (hsn : c.db.aTidExpectedSn < 0x1000)
    (hbig : isABiggerThanB b.frameSn c.db.aTidExpectedSn)
    (hend : isABiggerThanB b.frameSn (winEnd c.db)) (hv : TRxQueue.PartThreeVacant c.db b) :
    Accounts c (c.beyond b) {b.addr} := by
  refine beyond_accounts c b ?_
  dsimp only
  intro _
  rcases Nat.eq_zero_or_pos c.db.aTidWinSize with hw | hwp
  · obtain ⟨hq, hi⟩ := saveIndex_moveWindow_zero hw b.frameSn_lt
    rw [hi, hq, PacketEntry.content_eq_none]
    exact hv.1 hw
  · have hs := hs hwp
    obtain ⟨hpos, hlt⟩ := ahead_of_bigger hsn b.frameSn_lt hbig
    have hwe := (isABiggerThanB_winEnd hs hwp b.frameSn_lt hpos hlt).mp hend
    obtain ⟨m, hmd, hm, hsn', hge, -, -⟩ := moveWindow_moved hs hwp b.frameSn_lt hpos hlt
      (by omega) (window_ahead_eq_none hs hv)
    set c₁ := c.moveWindow ((b.frameSn + 0x1000 - c.db.aTidWinSize + 1) % 0x1000)
    have hwl := hs.winLe
    have hd₁ : c₁.db.ahead b.frameSn = c.db.ahead b.frameSn - m := by
      rw [TidDataBase.ahead, hsn']
      exact cdist_of_moved hs.snLt b.frameSn_lt hmd
    rw [PacketEntry.content_eq_none, pPacket_saveIndex (by omega), hd₁, hm.window,
      Window.slide_apply, Nat.sub_add_cancel hmd]
    exact window_ahead_eq_none hs hv

end TidCtx

/-! ## One step -/

namespace TRxQueue

open TidCtx

variable {s s' : TRxQueue} {t : Tid} {b : RxBuf}

theorem passAll_empty (c : TidCtx) (i : Fin arraySize) :
    ((passAll arraySize c).db.aPaketsQueue i).content = none := by
  obtain ⟨k, hk, rfl⟩ := exists_position (passAll arraySize c).db.aWinStartArrayInex i
  have hw := congrFun (passAll_moved arraySize c).window k
  rwa [TidDataBase.window, view_of_lt hk] at hw

theorem WF.length_held_le (hwf : WF s) (t : Tid) :
    ((s.tid t).db.window.held arraySize).length ≤ (s.tid t).aPacketsStored.toNat := by
  show ((s.tSa1ArrayMng t).window.held arraySize).length ≤ s.aPacketsStored.toNat
  rw [hwf.toNat_stored, ← card_contents, ← Multiset.coe_card,
    ← (s.tSa1ArrayMng t).contents_eq_held]
  exact Multiset.card_le_card
    (Finset.single_le_sum (f := fun t => (s.tSa1ArrayMng t).contents) (fun _ _ => zero_le)
      (Finset.mem_univ t))

theorem passPacket_step (hwf : WF s) (tStatus : TiStatus) (b : RxBuf) :
    WF (s.passPacket tStatus b) ∧ s.Accounts (s.passPacket tStatus b) {b.addr} :=
  ⟨wf_of_eq hwf rfl rfl, passPacket_accounts s tStatus b⟩

theorem closeTid_step (hwf : WF s) (t : Tid) :
    WF (s.closeTid t) ∧ s.Accounts (s.closeTid t) 0 := by
  have hw := closeTid_writes s t
  have hmove := passAll_moved arraySize
    { s.tid t with db := { s.tSa1ArrayMng t with aTidBaEstablished := false } }
  have hacc : TidCtx.Accounts (s.tid t) (passAll arraySize
      { s.tid t with db := { s.tSa1ArrayMng t with aTidBaEstablished := false } }) (0 + 0) :=
    TidCtx.Accounts.trans (TidCtx.accounts_of_eq rfl rfl rfl) (passAll_accounts _ _)
  refine ⟨hw.wf hwf hacc (fun _ => passAll_empty _) (fun he => ?_) ?_, hw.accounts hacc⟩
  · rw [hmove.established] at he
    exact absurd he (by simp)
  · have hsn : ∀ n c, (passAll n c).db.aTidExpectedSn = c.db.aTidExpectedSn := by
      intro n
      induction n with
      | zero => exact fun _ => rfl
      | succ n ih => exact fun c => (ih _).trans (passSlot_sn c)
    rw [hsn]
    exact hwf.snLt t

theorem WF.established (hwf : WF s) {k : ℕ} (h : ((s.tSa1ArrayMng t).window k).isSome) :
    (s.tSa1ArrayMng t).aTidBaEstablished = true := by
  by_contra hne
  have hk : k < arraySize := by
    by_contra hge
    rw [(s.tSa1ArrayMng t).window_of_le (by omega)] at h
    exact absurd h (by simp)
  rw [TidDataBase.window, view_of_lt hk, hwf.closed t (by simpa using hne)] at h
  exact absurd h (by simp)

theorem timeOut_step (hwf : WF s) (h : s.packetTimeOut = some s') :
    WF s' ∧ s.Accounts s' 0 := by
  rcases packetTimeOut_cases h with ⟨-, rfl⟩ | ⟨-, c, hc, hw, -⟩
  · exact ⟨wf_of_eq hwf rfl rfl, accounts_of_eq rfl rfl rfl⟩
  · have hacc : TidCtx.Accounts (s.tid s.aFrameTid) (c.drainStored arraySize) (0 + 0) :=
      (findStored_accounts hc).trans (drainStored_accounts _ _)
    obtain ⟨k, m, hk, hm, hsn, -, hsome, -, hhead⟩ :=
      timeOut_moved (hwf.snLt s.aFrameTid) (hwf.length_held_le _) hc
    have hlt : (c.drainStored arraySize).db.aTidExpectedSn < 0x1000 :=
      hsn ▸ Nat.mod_lt _ (by decide)
    have hest := hwf.established hsome
    refine ⟨hw.wf hwf hacc (fun he => ?_) (fun _ hwp => ?_) hlt, hw.accounts hacc⟩
    · rw [hm.established] at he
      exact absurd (hest.symm.trans he) (by decide)
    · rw [hm.winSize] at hwp
      exact hm.shaped (hwf.shaped _ hest hwp) hhead hlt

theorem inOrder_step (hwf : WF s) (he : (s.tSa1ArrayMng t).aTidBaEstablished = true) :
    WF (s.follow b (.inOrder t)) ∧ s.Accounts (s.follow b (.inOrder t)) {b.addr} := by
  have hw := restart_writes s t ((s.tid t).inOrder b)
  have hacc := inOrder_accounts (s.tid t) b
  obtain ⟨hest, hwin, hsn⟩ := inOrder_kept (s.tid t) b
  refine ⟨hw.wf hwf hacc (fun hc => ?_) (fun _ hwp => ?_) hsn, hw.accounts hacc⟩
  · exact absurd ((hest.trans he).symm.trans hc) (by decide)
  · rw [hwin] at hwp
    exact inOrder_shaped (hwf.shaped t he hwp) b

theorem save_step (hwf : WF s) (ht : Takes s b (.save t)) :
    WF (s.follow b (.save t)) ∧ s.Accounts (s.follow b (.save t)) {b.addr} := by
  obtain ⟨-, he, hbig, hend, hvac⟩ := ht
  have hw := save_writes s t b
  have hacc : TidCtx.Accounts (s.tid t) ((s.tid t).store
      (saveIndex (s.tSa1ArrayMng t) b.frameSn) ⟨some b, .ok, b.frameSn⟩) {b.addr} :=
    store_accounts (PacketEntry.content_eq_none.mpr hvac) rfl
  refine ⟨hw.wf hwf hacc (fun hc => ?_) (fun _ hwp => ?_) (hwf.snLt t), hw.accounts hacc⟩
  · exact absurd (he.symm.trans hc) (by decide)
  · have hs := hwf.shaped t he hwp
    obtain ⟨hpos, hlt⟩ := ahead_of_bigger (hwf.snLt t) b.frameSn_lt hbig
    rw [isABiggerThanB_winEnd hs hwp b.frameSn_lt hpos hlt, not_or] at hend
    exact store_shaped (c := s.tid t) hs hpos (Nat.lt_of_not_le hend.1) rfl

theorem beyond_step (hwf : WF s) (ht : Takes s b (.beyond t))
    (hv : PartThreeVacant (s.tSa1ArrayMng t) b) :
    WF (s.follow b (.beyond t)) ∧ s.Accounts (s.follow b (.beyond t)) {b.addr} := by
  obtain ⟨-, he, hbig, hend⟩ := ht
  have hw := restart_writes s t ((s.tid t).beyond b)
  have hacc := beyond_accounts_of_vacant (c := s.tid t) (hwf.shaped t he) (hwf.snLt t) hbig hend hv
  obtain ⟨hest, hwin, hsn⟩ := beyond_kept (s.tid t) b
  refine ⟨hw.wf hwf hacc (fun hc => ?_) (fun _ hwp => ?_) hsn, hw.accounts hacc⟩
  · exact absurd ((hest.trans he).symm.trans hc) (by decide)
  · have hwp : 0 < (s.tSa1ArrayMng t).aTidWinSize := by rwa [hwin] at hwp
    have hs := hwf.shaped t he hwp
    obtain ⟨hpos, hlt⟩ := ahead_of_bigger (hwf.snLt t) b.frameSn_lt hbig
    have hwe : (s.tSa1ArrayMng t).aTidWinSize ≤ (s.tSa1ArrayMng t).ahead b.frameSn + 1 := by
      have := (isABiggerThanB_winEnd hs hwp b.frameSn_lt hpos hlt).mp hend
      omega
    exact beyond_shaped (c := s.tid t) hs hwp hpos hlt hwe
      (window_ahead_eq_none (c := s.tid t) hs hv)

theorem bar_step (hwf : WF s) (he : (s.tSa1ArrayMng t).aTidBaEstablished = true) :
    WF (s.follow b (.bar t)) ∧ s.Accounts (s.follow b (.bar t)) {b.addr} := by
  have hw := restart_writes s t ((s.tid t).bar b.barStart)
  have hacc := bar_accounts (s.tid t) b.barStart
  obtain ⟨m, -, hm, hsn, -⟩ := bar_moved (c := s.tid t) b.barStart
  have hwf' := hw.wf hwf hacc (fun hc => absurd ((hm.established.trans he).symm.trans hc) (by decide))
    (fun _ hwp => bar_shaped (hwf.shaped t he (hm.winSize ▸ hwp)) b.barStart_lt)
    (hsn ▸ b.barStart_lt)
  obtain ⟨hwf'', hacc'⟩ := passPacket_step hwf' .ok b
  have := (hw.accounts hacc).trans hacc'
  exact ⟨hwf'', this⟩

theorem addba_step (hwf : WF s) (he : (s.tSa1ArrayMng t).aTidBaEstablished = false) :
    WF (s.follow b (.addba t)) ∧ s.Accounts (s.follow b (.addba t)) {b.addr} := by
  set db : TidDataBase := ⟨fun _ => .zero, true, 0, b.addbaWinSize, b.addbaStart⟩ with hdb
  have hw : Writes s (s.withTid t { s.tid t with db }) t { s.tid t with db } := ⟨rfl, rfl, rfl⟩
  have hwin : ∀ k, db.window k = none := by
    intro k
    by_cases hk : k < arraySize
    · exact view_of_lt hk
    · exact db.window_of_le (by omega)
  have hnone : ∀ i, ((s.tSa1ArrayMng t).aPaketsQueue i).content = none := hwf.closed t he
  have hacc : TidCtx.Accounts (s.tid t) { s.tid t with db } 0 := by
    have h0 : (s.tSa1ArrayMng t).contents = 0 := by simp [TidDataBase.contents, hnone]
    have h1 : db.contents = 0 := by simp [TidDataBase.contents, hdb, PacketEntry.zero,
      PacketEntry.content]
    refine ⟨[], by simp, ?_, ?_, fun i x hx => ?_⟩
    · show addrs ([] : List (TiStatus × RxBuf)) + addrs db.contents =
        addrs (s.tSa1ArrayMng t).contents + 0
      rw [h0, h1]
      rfl
    · show s.aPacketsStored + UInt16.ofNat (s.tSa1ArrayMng t).contents.card =
        s.aPacketsStored + UInt16.ofNat db.contents.card
      rw [h0, h1]
    · have hx' : ((s.tSa1ArrayMng t).aPaketsQueue i).content = some x := hx
      rw [hnone i] at hx'
      exact absurd hx' (by simp)
  have hwf' := hw.wf hwf hacc (fun hc => absurd hc (by simp [hdb]))
    (fun _ _ => ⟨b.addbaWinSize_le, b.addbaStart_lt, hwin 0, fun k _ => hwin k⟩) b.addbaStart_lt
  obtain ⟨hwf'', hacc'⟩ := passPacket_step hwf' .ok b
  have := (hw.accounts hacc).trans hacc'
  exact ⟨hwf'', this⟩

/-- The addresses of the buffers an operation hands to the queue. -/
def handedIn : Op → Multiset ℕ
  | .receivePacket b => {b.addr}
  | _ => 0

@[simp] theorem addr_forceTag (b : RxBuf) : b.forceTag.addr = b.addr := by
  unfold RxBuf.forceTag
  split
  · split <;> rfl
  · rfl

/-- **One step accounts for every buffer**, as long as Part 3 overwrites none. -/
theorem step_accounts {op : Op} (hwf : WF s) (hno : NoOverwrite s op) (h : step s op = some s') :
    WF s' ∧ s.Accounts s' (handedIn op) := by
  rcases step_cases h with ⟨b, rfl, rfl⟩ | ⟨t, rfl, -, rfl⟩ | ⟨n, rfl, rfl, -⟩ | ⟨rfl, -, rfl⟩ |
    ⟨rfl, -, hto⟩
  · have ht := s.branch_takes b.forceTag
    have hno' : ∀ t, s.branch b.forceTag = .beyond t →
      PartThreeVacant (s.tSa1ArrayMng t) b.forceTag := hno
    show _ ∧ s.Accounts _ {b.addr}
    rw [← addr_forceTag]
    generalize s.branch b.forceTag = r at ht hno' ⊢
    generalize b.forceTag = b' at ht hno' ⊢
    cases r with
    | pass tStatus => exact passPacket_step hwf tStatus b'
    | inOrder t => exact inOrder_step hwf ht.2.1
    | behind t => exact passPacket_step hwf .ok b'
    | save t => exact save_step hwf ht
    | beyond t => exact beyond_step hwf ht (hno' t rfl)
    | bar t => exact bar_step hwf ht.2.1
    | addba t => exact addba_step hwf ht.2
    | delba t =>
      obtain ⟨hwf', hacc⟩ := closeTid_step hwf t
      obtain ⟨hwf'', hacc'⟩ := passPacket_step hwf' .ok b'
      have := hacc.trans hacc'
      exact ⟨hwf'', this⟩
  · exact closeTid_step hwf t
  · exact ⟨hwf, accounts_of_eq rfl rfl rfl⟩
  · exact ⟨wf_of_eq hwf rfl rfl, accounts_of_eq rfl rfl rfl⟩
  · have hwf₀ : WF { s with bExpired := false } := wf_of_eq hwf rfl rfl
    obtain ⟨hwf', hacc⟩ := timeOut_step hwf₀ hto
    exact ⟨hwf', hacc⟩

/-! ## Runs -/

/-- The addresses of the buffers handed to the queue in a run. -/
def handedOver (ops : List Op) : Multiset ℕ := (ops.map handedIn).sum

/-- The buffers handed over are the ones handed up and the ones stored, each as often, and the
counter counts the stored ones. -/
def Conserved (ops : List Op) (s : TRxQueue) : Prop :=
  addrs s.passed + addrs s.contents = handedOver ops ∧ s.aPacketsStored.toNat = s.numStored

theorem run_accounts {ops : List Op} (ha : Along step NoOverwrite .create ops)
    (h : exec step .create ops = some s) :
    WF s ∧ addrs s.passed + addrs s.contents = handedOver ops := by
  refine Along.history (I := fun ops s => WF s ∧
    addrs s.passed + addrs s.contents = handedOver ops) ?_ ⟨WF.create, by decide⟩ ha h
  rintro ops s op s' ⟨hwf, hinv⟩ hno hs
  obtain ⟨hwf', up, hp, haddr, -⟩ := step_accounts hwf hno hs
  refine ⟨hwf', ?_⟩
  rw [hp, ← Multiset.coe_add, addrs_add, add_assoc, haddr, ← add_assoc, hinv]
  simp [handedOver]

/-- **No buffer is lost and none is handed up twice**, in every run in which Part 3 always writes
a vacant slot. Every buffer handed over has been handed up or sits in a slot, the counter is the
number of packets in slots, and a step leaves a packet in its slot or hands it up. -/
theorem buffers_conserved {ops : List Op} (ha : Along step NoOverwrite .create ops)
    (h : exec step .create ops = some s) :
    Conserved ops s ∧ ∀ op s', NoOverwrite s op → step s op = some s' →
      ∃ up, s'.passed = s.passed ++ up ∧
        ∀ t i x, ((s.tSa1ArrayMng t).aPaketsQueue i).content = some x →
          ((s'.tSa1ArrayMng t).aPaketsQueue i).content = some x ∨ hand x ∈ up := by
  obtain ⟨hwf, hinv⟩ := run_accounts ha h
  refine ⟨⟨hinv, hwf.toNat_stored⟩, fun op s' hno hs => ?_⟩
  obtain ⟨-, up, hp, -, -, hslot⟩ := step_accounts hwf hno hs
  exact ⟨up, hp, hslot⟩

/-- A session, a frame stored by Part 2, one stored by Part 3, a frame in order. -/
def orderlyRun : List Op :=
  [.receivePacket (addbaFrame 1 0 8 4090), .receivePacket (qosFrame 2 0 4092),
    .receivePacket (qosFrame 3 0 6), .receivePacket (qosFrame 4 0 4095)]

theorem buffers_conserved_orderlyRun :
    ∃ s, exec step .create orderlyRun = some s ∧ Conserved orderlyRun s := by
  have ha : Along step NoOverwrite .create orderlyRun := by decide +kernel
  exact ⟨_, rfl, (buffers_conserved ha rfl).1⟩

/-- A frame that Part 3 stores at a window end that wraps, received twice. -/
def duplicateRun : List Op :=
  [.receivePacket (addbaFrame 1 0 8 4090), .receivePacket (qosFrame 2 0 6),
    .receivePacket (qosFrame 3 0 6)]

theorem duplicate_overwrites :
    ∃ s, exec step .create duplicateRun = some s ∧ ¬Conserved duplicateRun s :=
  ⟨_, rfl, fun h => absurd h.2 (by decide +kernel)⟩

end TRxQueue

end ArchosGpl.Wlan.RxQueue
