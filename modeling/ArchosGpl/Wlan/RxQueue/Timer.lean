import ArchosGpl.Wlan.RxQueue.Ownership

/-!
# The packet-miss timer

One timer serves all TIDs. It is started for the TID whose branch starts it (`aFrameTid`), and the
time-out searches that TID's array, whatever TIDs store packets.

* **`timer_sound`**: in every run that closes a session only while no other TID stores a packet,
  the packet-miss flag is set exactly while packets are stored. `close_stops_the_others_timer` is a
  close that leaves another TID's packet without a timer.
* **`timeOut_returns`**: in every run without a stranding step (`NotStranding`), the time-out finds
  a packet and returns. A step strands the timer if it leaves it armed for a TID that stores nothing
  while another TID stores. `timeOut_searches_forever` is the shortest such run.

Both are about runs in which Part 3 overwrites no packet, since a packet lost that way stays
counted. The invariant behind the second is `Watched`.
-/

namespace ArchosGpl.Wlan.RxQueue

open Lib TidCtx

namespace TRxQueue

/-- TID `t` stores a packet. -/
def Storing (s : TRxQueue) (t : Tid) : Prop :=
  ∃ i, ((s.tSa1ArrayMng t).aPaketsQueue i).pPacket.isSome

instance (s : TRxQueue) (t : Tid) : Decidable (Storing s t) :=
  inferInstanceAs (Decidable (∃ _, _))

/-- A TID other than `t` stores a packet. -/
def OthersStore (s : TRxQueue) (t : Tid) : Prop := ∃ u, u ≠ t ∧ Storing s u

instance (s : TRxQueue) (t : Tid) : Decidable (OthersStore s t) :=
  inferInstanceAs (Decidable (∃ _, _))

variable {s s' : TRxQueue} {t u : Tid} {c : TidCtx} {b : RxBuf} {op : Op}

theorem storing_congr (h : s'.tSa1ArrayMng t = s.tSa1ArrayMng t) :
    Storing s' t ↔ Storing s t := by
  unfold Storing
  rw [h]

theorem storing_iff_window :
    Storing s t ↔ ∃ k, ((s.tSa1ArrayMng t).window k).isSome := by
  constructor
  · rintro ⟨i, hi⟩
    obtain ⟨k, hk, rfl⟩ := exists_position (s.tSa1ArrayMng t).aWinStartArrayInex i
    refine ⟨k, ?_⟩
    rwa [TidDataBase.window, view_of_lt hk, PacketEntry.isSome_content]
  · rintro ⟨k, hk⟩
    have hlt : k < arraySize := by
      by_contra hge
      rw [(s.tSa1ArrayMng t).window_of_le (by omega)] at hk
      exact absurd hk (by simp)
    rw [TidDataBase.window, view_of_lt hlt, PacketEntry.isSome_content] at hk
    exact ⟨_, hk⟩

theorem numStored_eq_zero : s.numStored = 0 ↔ ∀ t, ¬Storing s t := by
  unfold numStored Storing
  simp only [Finset.sum_eq_zero_iff, Finset.mem_univ, true_implies, not_exists]
  refine forall_congr' fun t => forall_congr' fun i => ?_
  split <;> simp_all

theorem WF.stored_ne_zero (hwf : WF s) : s.aPacketsStored ≠ 0 ↔ ∃ t, Storing s t := by
  have h0 : s.aPacketsStored = 0 ↔ s.numStored = 0 := by
    rw [← hwf.toNat_stored, ← UInt16.toNat_inj]
    rfl
  rw [Ne, h0, numStored_eq_zero]
  simp only [not_forall, not_not]

theorem WF.storing_or (hwf : WF s) (h : s.aPacketsStored ≠ 0) (t : Tid) :
    Storing s t ∨ OthersStore s t := by
  obtain ⟨u, hu⟩ := hwf.stored_ne_zero.mp h
  by_cases hut : u = t
  · exact Or.inl (hut ▸ hu)
  · exact Or.inr ⟨u, hut, hu⟩

theorem Writes.othersStore (h : Writes s s' t c) : OthersStore s' t ↔ OthersStore s t := by
  unfold OthersStore
  refine exists_congr fun u => and_congr_right fun hu => ?_
  exact storing_congr (h.db_ne hu)

theorem Writes.storing_ne (h : Writes s s' t c) (hu : u ≠ t) : Storing s' u ↔ Storing s u :=
  storing_congr (h.db_ne hu)

/-! ## The timer after a restart -/

theorem restart_miss (s : TRxQueue) (t : Tid) (c : TidCtx) :
    ((s.stopTimer.withTid t c).startIfStored t).bPacketMiss = decide (c.aPacketsStored ≠ 0) := by
  unfold startIfStored
  have hst : (s.stopTimer.withTid t c).aPacketsStored = c.aPacketsStored := rfl
  rw [hst]
  split
  case isTrue h => exact (decide_eq_true h).symm
  case isFalse h =>
    rw [decide_eq_false h]
    show s.stopTimer.bPacketMiss = false
    unfold stopTimer
    cases hm : s.bPacketMiss <;> simp [hm]

theorem restart_running (s : TRxQueue) (t : Tid) {c : TidCtx} (h : c.aPacketsStored ≠ 0) :
    ((s.stopTimer.withTid t c).startIfStored t).bRunning = true := by
  have hst : (s.stopTimer.withTid t c).aPacketsStored = c.aPacketsStored := rfl
  unfold startIfStored
  rw [hst, if_pos h]
  rfl

theorem restart_frameTid (s : TRxQueue) (t : Tid) {c : TidCtx} (h : c.aPacketsStored ≠ 0) :
    ((s.stopTimer.withTid t c).startIfStored t).aFrameTid = t := by
  have hst : (s.stopTimer.withTid t c).aPacketsStored = c.aPacketsStored := rfl
  unfold startIfStored
  rw [hst, if_pos h]
  rfl

theorem closeTid_miss (s : TRxQueue) (t : Tid) : (s.closeTid t).bPacketMiss = false := by
  unfold closeTid stopTimer
  split
  · rfl
  case isFalse h => simpa using h

theorem closeTid_frameTid (s : TRxQueue) (t : Tid) : (s.closeTid t).aFrameTid = s.aFrameTid := by
  unfold closeTid stopTimer
  split <;> rfl

theorem closeTid_expired (s : TRxQueue) (t : Tid) : (s.closeTid t).bExpired = s.bExpired := by
  unfold closeTid stopTimer
  split <;> rfl

theorem closeTid_running (s : TRxQueue) (t : Tid) :
    (s.closeTid t).bRunning = (s.bRunning && !s.bPacketMiss) := by
  unfold closeTid stopTimer
  have hm : (s.withTid t (passAll arraySize
      { s.tid t with db := { s.tSa1ArrayMng t with aTidBaEstablished := false } })).bPacketMiss =
      s.bPacketMiss := rfl
  rw [hm]
  cases hmiss : s.bPacketMiss
  · exact (Bool.and_true _).symm
  · exact (Bool.and_false _).symm

theorem not_storing_closeTid (s : TRxQueue) (t : Tid) : ¬Storing (s.closeTid t) t := by
  rintro ⟨i, hi⟩
  rw [(closeTid_writes s t).db_same, ← PacketEntry.isSome_content, passAll_empty] at hi
  exact absurd hi (by simp)

theorem save_storing (s : TRxQueue) (t : Tid) (b : RxBuf) : Storing (s.follow b (.save t)) t := by
  refine ⟨saveIndex (s.tSa1ArrayMng t) b.frameSn, ?_⟩
  rw [(save_writes s t b).db_same]
  simp [store]

theorem addba_storing (hwf : WF s) (he : (s.tSa1ArrayMng t).aTidBaEstablished = false) (u : Tid) :
    Storing (s.follow b (.addba t)) u ↔ Storing s u := by
  by_cases hut : u = t
  · subst hut
    have hold : ¬Storing s u := by
      rintro ⟨i, hi⟩
      rw [← PacketEntry.isSome_content, hwf.closed u he i] at hi
      exact absurd hi (by simp)
    have hnew : ¬Storing (s.follow b (.addba u)) u := by
      rintro ⟨i, hi⟩
      have hdb : (s.follow b (.addba u)).tSa1ArrayMng u =
          ⟨fun _ => .zero, true, 0, b.addbaWinSize, b.addbaStart⟩ := Function.update_self _ _ _
      rw [hdb] at hi
      exact absurd hi (by simp [PacketEntry.zero])
    exact iff_of_false hnew hold
  · exact storing_congr (Function.update_of_ne hut _ _)

theorem save_timer (s : TRxQueue) (t : Tid) (b : RxBuf) :
    (s.follow b (.save t)).bPacketMiss = true ∧
      (s.follow b (.save t)).bExpired = s.bExpired ∧
      (s.bPacketMiss = false → (s.follow b (.save t)).bRunning = true ∧
        (s.follow b (.save t)).aFrameTid = t) ∧
      (s.bPacketMiss = true → (s.follow b (.save t)).bRunning = s.bRunning ∧
        (s.follow b (.save t)).aFrameTid = s.aFrameTid) := by
  simp only [follow]
  cases hm : s.bPacketMiss
  · exact ⟨rfl, rfl, fun _ => ⟨rfl, rfl⟩, fun h => absurd h (by decide)⟩
  · exact ⟨hm, rfl, fun h => absurd h (by decide), fun _ => ⟨rfl, rfl⟩⟩

/-! ## No stored packet waits without a timer -/

/-- The packet-miss flag says whether a packet is stored, and while it is set the timer runs or its
expiry waits to be handled. -/
def TimerSound (s : TRxQueue) : Prop :=
  (s.bPacketMiss = true ↔ ∃ t, Storing s t) ∧
    (s.bPacketMiss = true → s.bRunning = true ∨ s.bExpired = true)

instance (s : TRxQueue) : Decidable (TimerSound s) := inferInstanceAs (Decidable (_ ∧ _))

/-- A session is closed only while no other TID stores a packet. -/
def ClosesAlone (s : TRxQueue) : Op → Prop
  | .receivePacket b => ∀ t, s.branch b.forceTag = .delba t → ¬OthersStore s t
  | .closeBaSession n => ∀ t : Tid, n = t → (s.tSa1ArrayMng t).aTidBaEstablished = true →
      ¬OthersStore s t
  | _ => True

instance (s : TRxQueue) : (op : Op) → Decidable (ClosesAlone s op)
  | .receivePacket _ | .closeBaSession _ => inferInstanceAs (Decidable (∀ _, _))
  | .timerExpiry | .packetTimeOut => isTrue trivial

theorem TimerSound.of_same (h : TimerSound s) (hd : ∀ t, Storing s' t ↔ Storing s t)
    (hm : s'.bPacketMiss = s.bPacketMiss) (hr : s'.bRunning = s.bRunning)
    (he : s'.bExpired = s.bExpired) : TimerSound s' := by
  unfold TimerSound
  simp only [hm, hr, he, hd]
  exact h

theorem restart_timerSound (hwf : WF ((s.stopTimer.withTid t c).startIfStored t)) :
    TimerSound ((s.stopTimer.withTid t c).startIfStored t) := by
  have hst : ((s.stopTimer.withTid t c).startIfStored t).aPacketsStored = c.aPacketsStored :=
    (restart_writes s t c).stored
  rw [TimerSound, restart_miss, ← hwf.stored_ne_zero, hst, decide_eq_true_eq]
  exact ⟨Iff.rfl, fun h => Or.inl (restart_running s t h)⟩

theorem closeTid_timerSound (ho : ¬OthersStore s t) : TimerSound (s.closeTid t) := by
  have hnone : ∀ u, ¬Storing (s.closeTid t) u := by
    intro u hu
    by_cases hut : u = t
    · exact not_storing_closeTid s t (hut ▸ hu)
    · exact ho ⟨u, hut, ((closeTid_writes s t).storing_ne hut).mp hu⟩
  rw [TimerSound, closeTid_miss]
  exact ⟨⟨fun h => absurd h (by decide), fun ⟨u, hu⟩ => absurd hu (hnone u)⟩,
    fun h => absurd h (by decide)⟩

/-- **A step keeps the timer sound**, unless it closes a session while another TID stores. -/
theorem step_timerSound (hwf : WF s) (hwf' : WF s') (hts : TimerSound s) (hc : ClosesAlone s op)
    (h : step s op = some s') : TimerSound s' := by
  rcases step_cases h with ⟨b, rfl, rfl⟩ | ⟨t, rfl, he, rfl⟩ | ⟨n, rfl, rfl, -⟩ | ⟨rfl, -, rfl⟩ |
    ⟨rfl, -, hto⟩
  · have hc' : ∀ t, s.branch b.forceTag = .delba t → ¬OthersStore s t := hc
    have ht := s.branch_takes b.forceTag
    generalize s.branch b.forceTag = r at hwf' hc' ht ⊢
    generalize b.forceTag = b' at hwf' hc' ht ⊢
    cases r with
    | pass tStatus | behind t => exact hts.of_same (fun _ => Iff.rfl) rfl rfl rfl
    | inOrder t | beyond t => exact restart_timerSound hwf'
    | save t =>
      obtain ⟨hmiss, hexp, hstart, hkeep⟩ := save_timer s t b'
      refine ⟨⟨fun _ => ⟨t, save_storing s t b'⟩, fun _ => hmiss⟩, fun _ => ?_⟩
      cases hm : s.bPacketMiss
      · exact Or.inl (hstart hm).1
      · rw [(hkeep hm).1, hexp]
        exact hts.2 hm
    | bar t =>
      have hwf₁ : WF ((s.stopTimer.withTid t ((s.tid t).bar b'.barStart)).startIfStored t) :=
        wf_of_eq hwf' rfl rfl
      exact (restart_timerSound hwf₁).of_same (fun _ => Iff.rfl) rfl rfl rfl
    | addba t => exact hts.of_same (addba_storing hwf ht.2) rfl rfl rfl
    | delba t => exact (closeTid_timerSound (hc' t rfl)).of_same (fun _ => Iff.rfl) rfl rfl rfl
  · exact closeTid_timerSound (hc t rfl he)
  · exact hts
  · exact ⟨hts.1, fun _ => Or.inr rfl⟩
  · rcases packetTimeOut_cases hto with ⟨h0, rfl⟩ | ⟨-, c, -, hw, -, -, hmiss, hrun⟩
    · have hnone : ¬∃ t, Storing s t := fun h => hwf.stored_ne_zero.mpr h h0
      exact ⟨iff_of_false Bool.false_ne_true hnone, fun h => absurd h Bool.false_ne_true⟩
    · rw [TimerSound, ← hwf'.stored_ne_zero, hmiss, hrun, decide_eq_true_eq]
      exact ⟨Iff.rfl, fun hne => Or.inl (by simp [hne])⟩

/-- A packet stored, its timer expired and handled. -/
def timedRun : List Op :=
  [.receivePacket (addbaFrame 1 0 8 0), .receivePacket (qosFrame 2 0 1),
    .receivePacket (qosFrame 3 0 3), .timerExpiry, .packetTimeOut]

end TRxQueue

/-! ## When a TID is left without packets -/

namespace TidCtx

variable {c c' : TidCtx} {b : RxBuf}

/-- The packets of the TID follow the window start without a gap. -/
def FollowsStart (db : TidDataBase) : Prop :=
  (view (db.aWinStartArrayInex + 1) fun i => (db.aPaketsQueue i).content).NoGap 0 arraySize

instance (db : TidDataBase) : Decidable (FollowsStart db) :=
  inferInstanceAs (Decidable (Window.NoGap _ _ _))

/-- Part 3 hands the frame itself up: every position that it does not pass over has arrived. -/
def PassesFrame (db : TidDataBase) (sn : ℕ) : Prop :=
  0 < db.aTidWinSize ∧
    ∀ j < db.ahead sn, max 1 (db.ahead sn + 1 - db.aTidWinSize) ≤ j → (db.window j).isSome

instance (db : TidDataBase) (sn : ℕ) : Decidable (PassesFrame db sn) :=
  inferInstanceAs (Decidable (_ ∧ _))

/-- The packets of the TID stand together. -/
def Together (db : TidDataBase) : Prop :=
  ∃ k < arraySize, (∀ j < k, db.window j = none) ∧ db.window.NoGap k arraySize

instance (db : TidDataBase) : Decidable (Together db) :=
  inferInstanceAs (Decidable (∃ _, _ ∧ _))

theorem exists_isSome_of_not_forall {w : Window (TiStatus × RxBuf)} (h : ¬∀ k, w k = none) :
    ∃ k, (w k).isSome := by
  obtain ⟨k, hk⟩ := not_forall.mp h
  exact ⟨k, Option.isSome_iff_ne_none.mpr hk⟩

theorem inOrder_stores (h : ¬FollowsStart c.db) (b : RxBuf) :
    ∃ k, ((c.inOrder b).db.window k).isSome := by
  refine exists_isSome_of_not_forall fun hnone => h ?_
  have hm := drain_moved arraySize (c.passPacket .ok b).incSn.incIndex
  refine Window.noGap_of_leading (n := arraySize) (fun k hk => ?_) arraySize
  have := hnone (k - (c.passPacket .ok b).incSn.incIndex.db.window.leading arraySize)
  rw [show (c.inOrder b).db.window = _ from hm.window, Window.slide_apply,
    Nat.sub_add_cancel (by rwa [Nat.zero_add] at hk)] at this
  exact this

theorem bar_stores {start : ℕ} (h : ¬c.db.window.NoGap (barDelta c.db start) arraySize) :
    ∃ k, ((c.bar start).db.window k).isSome := by
  refine exists_isSome_of_not_forall fun hnone => h ?_
  obtain ⟨m, -, hm, -, hbelow, -⟩ := bar_moved (c := c) start
  intro k _ hdk hk j hjk hdj
  have hkm : k < m := by
    by_contra hge
    have := hnone (k - m)
    rw [hm.window, Window.slide_apply, Nat.sub_add_cancel (by omega)] at this
    rw [this] at hk
    exact absurd hk (by simp)
  exact (hbelow j (by omega)).resolve_left (by omega)

theorem timeOut_stores (hel : c.db.aTidExpectedSn < 0x1000)
    (hst : (c.db.window.held arraySize).length ≤ c.aPacketsStored.toNat)
    (hf : findStored arraySize c = some c') (h : ¬Together c.db) :
    ∃ k, ((c'.drainStored arraySize).db.window k).isSome := by
  refine exists_isSome_of_not_forall fun hnone => h ?_
  obtain ⟨k, m, hk, hm, -, hbelow, -, hmk, -⟩ := timeOut_moved hel hst hf
  refine ⟨k, hk, hbelow, Window.noGap_of_leading (n := arraySize) (fun j hj => ?_) arraySize⟩
  have := hnone (j - m)
  rwa [hm.window, Window.slide_apply, Nat.sub_add_cancel (by omega)] at this

theorem beyond_stores (hs : 0 < c.db.aTidWinSize → c.db.Shaped)
    (hsn : c.db.aTidExpectedSn < 0x1000)
    (hbig : isABiggerThanB b.frameSn c.db.aTidExpectedSn)
    (hend : isABiggerThanB b.frameSn (winEnd c.db)) (hv : TRxQueue.PartThreeVacant c.db b)
    (h : ¬PassesFrame c.db b.frameSn) :
    ∃ i, ((c.beyond b).db.aPaketsQueue i).pPacket.isSome := by
  set c₁ := c.moveWindow ((b.frameSn + 0x1000 - c.db.aTidWinSize + 1) % 0x1000) with hc₁
  have hne : c₁.db.aTidExpectedSn ≠ b.frameSn := by
    rcases Nat.eq_zero_or_pos c.db.aTidWinSize with hw | hwp
    · have hmove : c₁ = c.incIndex.incSn.setSn ((b.frameSn + 0x1000 + 1) % 0x1000) := by
        simp [hc₁, moveWindow, hw, passBelow]
      rw [hmove]
      show (b.frameSn + 0x1000 + 1) % 0x1000 ≠ b.frameSn
      have := b.frameSn_lt
      omega
    · have hs := hs hwp
      obtain ⟨hpos, hlt⟩ := ahead_of_bigger hsn b.frameSn_lt hbig
      have hwe := (isABiggerThanB_winEnd hs hwp b.frameSn_lt hpos hlt).mp hend
      obtain ⟨m, hmd, -, hsn', -, hocc, -⟩ := moveWindow_moved hs hwp b.frameSn_lt hpos hlt
        (by omega) (window_ahead_eq_none hs hv)
      intro heq
      refine h ⟨hwp, fun j hj hge => hocc j hge ?_⟩
      have hzero : c.db.ahead b.frameSn - m = 0 := by
        have := cdist_of_moved hs.snLt b.frameSn_lt hmd
        rw [← hsn', ← hc₁, heq, cdist_self] at this
        exact this.symm
      omega
  refine ⟨saveIndex c₁.db b.frameSn, ?_⟩
  have hstore : c.beyond b = c₁.store (saveIndex c₁.db b.frameSn)
      { c₁.db.aPaketsQueue (saveIndex c₁.db b.frameSn) with pPacket := some b, tStatus := .ok } :=
    if_neg hne
  rw [hstore]
  simp only [store, Function.update_self, Option.isSome_some]

end TidCtx

namespace TRxQueue

variable {s s' : TRxQueue} {t u : Tid} {c : TidCtx} {b : RxBuf} {op : Op}

/-! ## The search of the time-out ends -/

/-- The timer runs, or its expiry waits to be handled. -/
def Armed (s : TRxQueue) : Prop := s.bRunning = true ∨ s.bExpired = true

instance (s : TRxQueue) : Decidable (Armed s) := inferInstanceAs (Decidable (_ ∨ _))

/-- Closing the session of TID `t` takes from the armed timer the TID it waits for. -/
def CloseStrands (s : TRxQueue) (t : Tid) : Prop :=
  OthersStore s t ∧ s.aFrameTid = t ∧ (s.bExpired = true ∨ s.bRunning = true ∧ s.bPacketMiss = false)

instance (s : TRxQueue) (t : Tid) : Decidable (CloseStrands s t) :=
  inferInstanceAs (Decidable (_ ∧ _ ∧ _))

/-- The step does not leave the timer waiting for a TID without packets while another TID stores
some. -/
def NotStranding (s : TRxQueue) : Op → Prop
  | .receivePacket b =>
    match s.branch b.forceTag with
    | .inOrder t => OthersStore s t → ¬FollowsStart (s.tSa1ArrayMng t)
    | .beyond t => OthersStore s t → ¬PassesFrame (s.tSa1ArrayMng t) b.forceTag.frameSn
    | .bar t => OthersStore s t →
      ¬(s.tSa1ArrayMng t).window.NoGap (barDelta (s.tSa1ArrayMng t) b.forceTag.barStart) arraySize
    | .delba t => ¬CloseStrands s t
    | _ => True
  | .closeBaSession n => ∀ t : Tid, n = t → (s.tSa1ArrayMng t).aTidBaEstablished = true →
      ¬CloseStrands s t
  | .timerExpiry => True
  | .packetTimeOut => OthersStore s s.aFrameTid → ¬Together (s.tSa1ArrayMng s.aFrameTid)

instance (s : TRxQueue) : (op : Op) → Decidable (NotStranding s op)
  | .receivePacket b => by
    dsimp only [NotStranding]
    exact match s.branch b.forceTag with
      | .inOrder _ | .beyond _ | .bar _ | .delba _ => inferInstance
      | .pass _ | .behind _ | .save _ | .addba _ => isTrue trivial
  | .closeBaSession _ => inferInstanceAs (Decidable (∀ _, _))
  | .timerExpiry => isTrue trivial
  | .packetTimeOut => inferInstanceAs (Decidable (_ → _))

/-- The armed timer waits for a TID that stores a packet, and the packet-miss flag is set only
while a packet is stored and the timer is armed. -/
structure Watched (s : TRxQueue) : Prop where
  frameTid : Armed s → s.aPacketsStored ≠ 0 → Storing s s.aFrameTid
  armed : s.bPacketMiss = true → Armed s
  stored : s.bPacketMiss = true → s.aPacketsStored ≠ 0

theorem Watched.create : Watched .create :=
  ⟨fun h => absurd h (by decide), fun h => absurd h (by decide), fun h => absurd h (by decide)⟩

theorem Watched.of_same (h : Watched s) (hwf : WF s) (hwf' : WF s')
    (hd : ∀ t, Storing s' t ↔ Storing s t) (hm : s'.bPacketMiss = s.bPacketMiss)
    (ht : s'.aFrameTid = s.aFrameTid) (hr : Armed s' ↔ Armed s) : Watched s' := by
  have hst : s'.aPacketsStored ≠ 0 ↔ s.aPacketsStored ≠ 0 := by
    rw [hwf'.stored_ne_zero, hwf.stored_ne_zero]
    exact exists_congr hd
  refine ⟨?_, ?_, ?_⟩
  · rw [hr, hst, ht, hd]
    exact h.frameTid
  · rw [hm, hr]
    exact h.armed
  · rw [hm, hst]
    exact h.stored

theorem restart_watched (hwf : WF ((s.stopTimer.withTid t c).startIfStored t))
    (h : OthersStore s t → Storing ((s.stopTimer.withTid t c).startIfStored t) t) :
    Watched ((s.stopTimer.withTid t c).startIfStored t) := by
  have hw := restart_writes s t c
  refine ⟨fun _ hne => ?_, fun hmiss => ?_, fun hmiss => ?_⟩
  · rw [restart_frameTid s t (hw.stored ▸ hne)]
    rcases hwf.storing_or hne t with hst | ho
    · exact hst
    · exact h (hw.othersStore.mp ho)
  · rw [restart_miss] at hmiss
    exact Or.inl (restart_running s t (of_decide_eq_true hmiss))
  · rw [restart_miss] at hmiss
    rw [hw.stored]
    exact of_decide_eq_true hmiss

theorem closeTid_watched (hwf : WF s) (hwf' : WF (s.closeTid t)) (hwt : Watched s)
    (h : ¬CloseStrands s t) : Watched (s.closeTid t) := by
  have hw := closeTid_writes s t
  refine ⟨fun ha hne => ?_, fun hmiss => ?_, fun hmiss => ?_⟩
  · have ho : OthersStore s t :=
      hw.othersStore.mp ((hwf'.storing_or hne t).resolve_left (not_storing_closeTid s t))
    unfold Armed at ha
    rw [closeTid_running, closeTid_expired, Bool.and_eq_true, Bool.not_eq_true'] at ha
    have hft : s.aFrameTid ≠ t := fun hft => h ⟨ho, hft, ha.symm⟩
    have harmed : Armed s := ha.imp_left And.left
    obtain ⟨u, -, hu⟩ := ho
    rw [closeTid_frameTid, hw.storing_ne hft]
    exact hwt.frameTid harmed (hwf.stored_ne_zero.mpr ⟨u, hu⟩)
  · rw [closeTid_miss] at hmiss
    exact absurd hmiss (by decide)
  · rw [closeTid_miss] at hmiss
    exact absurd hmiss (by decide)

theorem save_watched (hwf' : WF (s.follow b (.save t))) (hwt : Watched s) :
    Watched (s.follow b (.save t)) := by
  have hw := save_writes s t b
  obtain ⟨hmiss, hexp, hstart, hkeep⟩ := save_timer s t b
  have hne : (s.follow b (.save t)).aPacketsStored ≠ 0 :=
    hwf'.stored_ne_zero.mpr ⟨t, save_storing s t b⟩
  have hgrow : ∀ u, Storing s u → Storing (s.follow b (.save t)) u := by
    intro u hu
    by_cases hut : u = t
    · exact hut ▸ save_storing s t b
    · exact (hw.storing_ne hut).mpr hu
  cases hm : s.bPacketMiss
  · obtain ⟨hr, hft⟩ := hstart hm
    exact ⟨fun _ _ => by rw [hft]; exact save_storing s t b, fun _ => Or.inl hr, fun _ => hne⟩
  · obtain ⟨hr, hft⟩ := hkeep hm
    have harmed : Armed s := hwt.armed hm
    refine ⟨fun _ _ => ?_, fun _ => ?_, fun _ => hne⟩
    · rw [hft]
      exact hgrow _ (hwt.frameTid harmed (hwt.stored hm))
    · unfold Armed
      rw [hr, hexp]
      exact harmed

/-- **A step keeps the timer watching a TID that stores**, unless it strands it. -/
theorem step_watched (hwf : WF s) (hwt : Watched s) (hno : NoOverwrite s op)
    (hns : NotStranding s op) (h : step s op = some s') : Watched s' := by
  have hwf' := (step_accounts hwf hno h).1
  rcases step_cases h with ⟨b, rfl, hs'⟩ | ⟨t, rfl, he, rfl⟩ | ⟨n, rfl, rfl, -⟩ |
    ⟨rfl, hrun, rfl⟩ | ⟨rfl, hexp, hto⟩
  · have ht := s.branch_takes b.forceTag
    cases hr : s.branch b.forceTag with
    | pass tStatus | behind t =>
      rw [hr] at hs'
      subst hs'
      exact hwt.of_same hwf hwf' (fun _ => Iff.rfl) rfl rfl Iff.rfl
    | inOrder t =>
      rw [hr] at hs'
      subst hs'
      simp only [NotStranding, hr] at hns
      refine restart_watched hwf' fun ho => storing_iff_window.mpr ?_
      rw [(restart_writes s t _).db_same]
      exact inOrder_stores (c := s.tid t) (hns ho) b.forceTag
    | beyond t =>
      rw [hr] at hs' ht
      subst hs'
      simp only [NotStranding, hr] at hns
      obtain ⟨-, he, hbig, hend⟩ := ht
      refine restart_watched hwf' fun ho => ?_
      unfold Storing
      rw [(restart_writes s t _).db_same]
      exact beyond_stores (c := s.tid t) (hwf.shaped t he) (hwf.snLt t) hbig hend (hno t hr) (hns ho)
    | bar t =>
      rw [hr] at hs'
      subst hs'
      simp only [NotStranding, hr] at hns
      have hwf₁ :
          WF ((s.stopTimer.withTid t ((s.tid t).bar b.forceTag.barStart)).startIfStored t) :=
        wf_of_eq hwf' rfl rfl
      refine (restart_watched hwf₁ fun ho => storing_iff_window.mpr ?_).of_same hwf₁ hwf'
        (fun _ => Iff.rfl) rfl rfl Iff.rfl
      rw [(restart_writes s t _).db_same]
      exact bar_stores (c := s.tid t) (hns ho)
    | save t =>
      rw [hr] at hs'
      subst hs'
      exact save_watched hwf' hwt
    | addba t =>
      rw [hr] at hs' ht
      subst hs'
      exact hwt.of_same hwf hwf' (addba_storing hwf ht.2) rfl rfl Iff.rfl
    | delba t =>
      rw [hr] at hs'
      subst hs'
      simp only [NotStranding, hr] at hns
      have hwf₁ : WF (s.closeTid t) := wf_of_eq hwf' rfl rfl
      exact (closeTid_watched hwf hwf₁ hwt hns).of_same hwf₁ hwf' (fun _ => Iff.rfl) rfl rfl Iff.rfl
  · exact closeTid_watched hwf hwf' hwt (hns t rfl he)
  · exact hwt
  · exact hwt.of_same hwf hwf' (fun _ => Iff.rfl) rfl rfl
      (iff_of_true (Or.inr rfl) (Or.inl hrun))
  · rcases packetTimeOut_cases hto with ⟨h0, rfl⟩ | ⟨-, c, hc, hw, hft, hex, hmiss, hrun⟩
    · exact ⟨fun _ hne => absurd h0 hne, fun hm => absurd hm Bool.false_ne_true,
        fun hm => absurd hm Bool.false_ne_true⟩
    · have hwf₀ : WF { s with bExpired := false } := wf_of_eq hwf rfl rfl
      refine ⟨fun _ hne => ?_, fun hm => ?_, fun hm => ?_⟩
      · rw [hft]
        rcases hwf'.storing_or hne s.aFrameTid with hst | ho
        · exact hst
        · refine storing_iff_window.mpr ?_
          rw [hw.db_same]
          have hother : OthersStore s s.aFrameTid := hw.othersStore.mp ho
          exact timeOut_stores (c := s.tid s.aFrameTid) (hwf.snLt _)
            (hwf₀.length_held_le s.aFrameTid) hc (hns hother)
      · rw [hmiss] at hm
        rw [Armed, hrun, hm, Bool.or_true]
        exact Or.inl rfl
      · rw [hmiss] at hm
        exact of_decide_eq_true hm

/-- **The time-out returns**, in every run whose steps overwrite no packet and strand no timer:
when the timer has expired and packets are stored, the TID it waits for stores one, so the search
finds it. -/
theorem timeOut_returns {ops : List Op}
    (ha : Along step (fun s op => NoOverwrite s op ∧ NotStranding s op) .create ops)
    (h : exec step .create ops = some s) (he : s.bExpired = true) :
    (s.aPacketsStored ≠ 0 → Storing s s.aFrameTid) ∧ ∃ s', step s .packetTimeOut = some s' := by
  have hinv : WF s ∧ Watched s := by
    refine Along.invariant (I := fun s => WF s ∧ Watched s) ?_ ⟨WF.create, Watched.create⟩ ha h
    rintro s op s' ⟨hwf, hwt⟩ ⟨hno, hns⟩ hs
    exact ⟨(step_accounts hwf hno hs).1, step_watched hwf hwt hno hns hs⟩
  have hfound := hinv.2.frameTid (Or.inr he)
  refine ⟨hfound, ?_⟩
  rw [← Option.isSome_iff_exists, Option.isSome_iff_ne_none]
  simp only [step, he, if_true]
  intro hnone
  obtain ⟨hne, hf⟩ := packetTimeOut_eq_none.mp hnone
  obtain ⟨k, hk⟩ := storing_iff_window.mp (hfound hne)
  have hk8 : k < arraySize := by
    by_contra hge
    rw [(s.tSa1ArrayMng s.aFrameTid).window_of_le (by omega)] at hk
    exact absurd hk (by simp)
  rw [show (s.tSa1ArrayMng s.aFrameTid).window k = none from findStored_eq_none.mp hf k hk8] at hk
  exact absurd hk (by simp)

theorem timeOut_returns_expired :
    ∃ s, exec step .create (timedRun.take 4) = some s ∧ s.aPacketsStored ≠ 0 ∧
      ∃ s', step s .packetTimeOut = some s' := by
  have ha : Along step (fun s op => NoOverwrite s op ∧ NotStranding s op) .create
      (timedRun.take 4) := by decide +kernel
  exact ⟨_, rfl, by decide +kernel, (timeOut_returns ha rfl rfl).2⟩

/-- TID 0 stores a packet, then TID 1, which stores none, receives its next frame: the timer is
started for TID 1, and the search of the time-out does not end. -/
theorem timeOut_searches_forever :
    ∃ s, exec step .create
        [.receivePacket (addbaFrame 1 0 8 0), .receivePacket (addbaFrame 2 1 8 0),
          .receivePacket (qosFrame 3 0 1), .receivePacket (qosFrame 4 1 0),
          .timerExpiry] = some s ∧
      s.bExpired = true ∧ s.aPacketsStored ≠ 0 ∧ ¬Storing s s.aFrameTid ∧
      ∀ n, findStored n (s.tid s.aFrameTid) = none :=
  ⟨_, rfl, rfl, by decide +kernel, by decide +kernel, findStored_forever rfl⟩

end TRxQueue

end ArchosGpl.Wlan.RxQueue
