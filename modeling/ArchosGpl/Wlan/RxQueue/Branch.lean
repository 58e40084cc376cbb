import ArchosGpl.Wlan.RxQueue.Accept

/-!
# Which branch a frame takes

`TRxQueue.branch` decides from the state and the frame alone which branch of
`RxQueue_ReceivePacket` the frame takes, and `TRxQueue.follow` is what that branch does
(`receivePacket_eq`). `Takes s b r` collects what a branch `r` says about the frame and the state;
`branch_takes` says it of the branch taken. `step_cases` lists what a step can be.
-/

namespace ArchosGpl.Wlan.RxQueue

open Lib TidCtx

/-- The branches of `RxQueue_ReceivePacket`. -/
inductive Branch
  /-- Hand the frame up and do nothing else. -/
  | pass (tStatus : TiStatus)
  /-- Part 1. -/
  | inOrder (t : Tid)
  /-- A sequence number behind the expected one. -/
  | behind (t : Tid)
  /-- Part 2, the slot vacant. -/
  | save (t : Tid)
  /-- Part 3. -/
  | beyond (t : Tid)
  /-- A BAR ahead of the expected sequence number. -/
  | bar (t : Tid)
  | addba (t : Tid)
  | delba (t : Tid)
  deriving DecidableEq, Repr

namespace TRxQueue

def dataBranch (db : TidDataBase) (t : Tid) (b : RxBuf) : Branch :=
  if b.frameSn = db.aTidExpectedSn then .inOrder t
  else if !isABiggerThanB b.frameSn db.aTidExpectedSn then .behind t
  else if isABiggerThanB b.frameSn (winEnd db) then .beyond t
  else if (db.aPaketsQueue (saveIndex db b.frameSn)).pPacket = none then .save t
  else .pass .nok

def barBranch (s : TRxQueue) (b : RxBuf) : Branch :=
  if h : b.barTid < 8 then
    if (s.tSa1ArrayMng ⟨b.barTid, h⟩).aTidBaEstablished then
      if isABiggerThanB b.barStart (s.tSa1ArrayMng ⟨b.barTid, h⟩).aTidExpectedSn then
        .bar ⟨b.barTid, h⟩
      else .pass .ok
    else .pass .nok
  else .pass .nok

def addbaBranch (s : TRxQueue) (b : RxBuf) : Branch :=
  if h : b.addbaTid < 8 then
    if (s.tSa1ArrayMng ⟨b.addbaTid, h⟩).aTidBaEstablished then .pass .nok
    else .addba ⟨b.addbaTid, h⟩
  else .pass .nok

def delbaBranch (s : TRxQueue) (b : RxBuf) : Branch :=
  if h : b.delbaTid < 8 then
    if (s.tSa1ArrayMng ⟨b.delbaTid, h⟩).aTidBaEstablished then .delba ⟨b.delbaTid, h⟩
    else .pass .nok
  else .pass .nok

def eventBranch (s : TRxQueue) (b : RxBuf) : Branch :=
  if b.subtype = 0x80 then s.barBranch b
  else if b.subtype = 0xD0 then
    if b.action = 0 then s.addbaBranch b
    else if b.action = 2 then s.delbaBranch b
    else .pass .nok
  else .pass .nok

def isData (b : RxBuf) : Prop := b.packetClassTag = tagQosData ∨ b.packetClassTag = tagAmsdu

instance (b : RxBuf) : Decidable (isData b) := inferInstanceAs (Decidable (_ ∨ _))

/-- The branch of a frame whose class tag is right. -/
def branch (s : TRxQueue) (b : RxBuf) : Branch :=
  if isData b then
    if h : b.frameTid < 8 then
      if (s.tSa1ArrayMng ⟨b.frameTid, h⟩).aTidBaEstablished then
        dataBranch (s.tSa1ArrayMng ⟨b.frameTid, h⟩) ⟨b.frameTid, h⟩ b
      else .pass .ok
    else .pass .nok
  else if b.packetClassTag = tagBaEvent then s.eventBranch b
  else .pass .ok

/-- End the session of a TID: `RxQueue_CloseBaSession` where there is one. -/
def closeTid (s : TRxQueue) (t : Tid) : TRxQueue :=
  (s.withTid t
    (passAll arraySize
      { s.tid t with db := { s.tSa1ArrayMng t with aTidBaEstablished := false } })).stopTimer

def follow (s : TRxQueue) (b : RxBuf) : Branch → TRxQueue
  | .pass tStatus => s.passPacket tStatus b
  | .inOrder t => (s.stopTimer.withTid t ((s.tid t).inOrder b)).startIfStored t
  | .behind _ => s.passPacket .ok b
  | .save t =>
    let i := saveIndex (s.tSa1ArrayMng t) b.frameSn
    let s' := s.withTid t ((s.tid t).store i ⟨some b, .ok, b.frameSn⟩)
    if s.bPacketMiss = false then s'.startTimer t else s'
  | .beyond t => (s.stopTimer.withTid t ((s.tid t).beyond b)).startIfStored t
  | .bar t =>
    ((s.stopTimer.withTid t ((s.tid t).bar b.barStart)).startIfStored t).passPacket .ok b
  | .addba t =>
    (s.withTid t
      { s.tid t with db := ⟨fun _ => .zero, true, 0, b.addbaWinSize, b.addbaStart⟩ }).passPacket
        .ok b
  | .delba t => (s.closeTid t).passPacket .ok b

theorem receiveData_eq (s : TRxQueue) (t : Tid) (b : RxBuf) :
    s.receiveData t b = s.follow b (dataBranch (s.tSa1ArrayMng t) t b) := by
  unfold receiveData dataBranch
  by_cases h1 : b.frameSn = (s.tSa1ArrayMng t).aTidExpectedSn
  · simp only [h1, if_true]
    rfl
  · by_cases h2 : isABiggerThanB b.frameSn (s.tSa1ArrayMng t).aTidExpectedSn
    · by_cases h3 : isABiggerThanB b.frameSn (winEnd (s.tSa1ArrayMng t))
      · simp [h1, h2, h3, follow]
      · by_cases h4 : ((s.tSa1ArrayMng t).aPaketsQueue
            (saveIndex (s.tSa1ArrayMng t) b.frameSn)).pPacket = none
        · simp only [h1, h2, h3, h4, if_false, Bool.not_true, Bool.not_false, and_self, if_true]
          rfl
        · simp [h1, h2, h3, h4, follow]
    · simp [h1, h2, follow]

theorem closeBaSession_eq (s : TRxQueue) (t : Tid) :
    s.closeBaSession t =
      if (s.tSa1ArrayMng t).aTidBaEstablished then s.closeTid t else s := by
  unfold closeBaSession
  rw [dif_pos t.isLt]
  rfl

theorem receiveBar_eq (s : TRxQueue) (b : RxBuf) :
    s.receiveBar b = s.follow b (s.barBranch b) := by
  unfold receiveBar barBranch
  by_cases h : b.barTid < 8
  · rw [dif_pos h, dif_pos h]
    dsimp only
    by_cases he : (s.tSa1ArrayMng ⟨b.barTid, h⟩).aTidBaEstablished
    · rw [if_pos he, if_pos he]
      split <;> rfl
    · rw [if_neg he, if_neg he]
      rfl
  · rw [dif_neg h, dif_neg h]
    rfl

theorem receiveAddba_eq (s : TRxQueue) (b : RxBuf) :
    s.receiveAddba b = s.follow b (s.addbaBranch b) := by
  unfold receiveAddba addbaBranch
  by_cases h : b.addbaTid < 8
  · rw [dif_pos h, dif_pos h]
    dsimp only
    split <;> rfl
  · rw [dif_neg h, dif_neg h]
    rfl

theorem receiveDelba_eq (s : TRxQueue) (b : RxBuf) :
    s.receiveDelba b = s.follow b (s.delbaBranch b) := by
  unfold receiveDelba delbaBranch
  by_cases h : b.delbaTid < 8
  · rw [dif_pos h, dif_pos h]
    by_cases he : (s.tSa1ArrayMng ⟨b.delbaTid, h⟩).aTidBaEstablished
    · have hc := s.closeBaSession_eq ⟨b.delbaTid, h⟩
      rw [if_pos he] at hc
      rw [if_pos he, if_pos he, hc]
      rfl
    · rw [if_neg he, if_neg he]
      rfl
  · rw [dif_neg h, dif_neg h]
    rfl

theorem receiveBaEvent_eq (s : TRxQueue) (b : RxBuf) :
    s.receiveBaEvent b = s.follow b (s.eventBranch b) := by
  unfold receiveBaEvent eventBranch
  rw [receiveBar_eq, receiveAddba_eq, receiveDelba_eq]
  by_cases hbar : b.subtype = 0x80
  · rw [if_pos hbar, if_pos hbar]
  · rw [if_neg hbar, if_neg hbar]
    by_cases hact : b.subtype = 0xD0
    · rw [if_pos hact, if_pos hact]
      split
      · rfl
      · split <;> rfl
    · rw [if_neg hact, if_neg hact]
      rfl

theorem receivePacket_eq (s : TRxQueue) (b : RxBuf) :
    s.receivePacket b = s.follow b.forceTag (s.branch b.forceTag) := by
  unfold receivePacket branch
  by_cases hd : isData b.forceTag
  · have hd' := hd
    unfold isData at hd'
    rw [if_pos hd, if_neg (by tauto), if_pos hd']
    split
    · split
      · rw [receiveData_eq]
      · rfl
    · rfl
  · have hd' := hd
    unfold isData at hd'
    rw [if_neg hd]
    by_cases he : b.forceTag.packetClassTag = tagBaEvent
    · rw [if_pos he, if_neg (by tauto), if_neg hd', receiveBaEvent_eq]
    · rw [if_neg he, if_pos (by tauto)]
      rfl

/-! ## What a branch says -/

/-- A data frame of TID `t`. -/
def DataOf (t : Tid) (b : RxBuf) : Prop := isData b ∧ b.frameTid = t

instance (t : Tid) (b : RxBuf) : Decidable (DataOf t b) := inferInstanceAs (Decidable (_ ∧ _))

/-- What is known of the state and the frame in a branch. -/
def Takes (s : TRxQueue) (b : RxBuf) : Branch → Prop
  | .pass tStatus =>
    tStatus = .ok → ∀ t, DataOf t b → (s.tSa1ArrayMng t).aTidBaEstablished = false
  | .inOrder t =>
    DataOf t b ∧ (s.tSa1ArrayMng t).aTidBaEstablished = true ∧
      b.frameSn = (s.tSa1ArrayMng t).aTidExpectedSn
  | .behind t =>
    DataOf t b ∧ (s.tSa1ArrayMng t).aTidBaEstablished = true ∧
      ¬isABiggerThanB b.frameSn (s.tSa1ArrayMng t).aTidExpectedSn ∧
      b.frameSn ≠ (s.tSa1ArrayMng t).aTidExpectedSn
  | .save t =>
    DataOf t b ∧ (s.tSa1ArrayMng t).aTidBaEstablished = true ∧
      isABiggerThanB b.frameSn (s.tSa1ArrayMng t).aTidExpectedSn ∧
      ¬isABiggerThanB b.frameSn (winEnd (s.tSa1ArrayMng t)) ∧
      ((s.tSa1ArrayMng t).aPaketsQueue (saveIndex (s.tSa1ArrayMng t) b.frameSn)).pPacket = none
  | .beyond t =>
    DataOf t b ∧ (s.tSa1ArrayMng t).aTidBaEstablished = true ∧
      isABiggerThanB b.frameSn (s.tSa1ArrayMng t).aTidExpectedSn ∧
      isABiggerThanB b.frameSn (winEnd (s.tSa1ArrayMng t))
  | .bar t =>
    ¬isData b ∧ (s.tSa1ArrayMng t).aTidBaEstablished = true ∧
      isABiggerThanB b.barStart (s.tSa1ArrayMng t).aTidExpectedSn
  | .addba t => ¬isData b ∧ (s.tSa1ArrayMng t).aTidBaEstablished = false
  | .delba t => ¬isData b ∧ (s.tSa1ArrayMng t).aTidBaEstablished = true

variable {b : RxBuf} {s : TRxQueue}

theorem dataBranch_takes {t : Tid} (hb : DataOf t b)
    (he : (s.tSa1ArrayMng t).aTidBaEstablished = true) :
    Takes s b (dataBranch (s.tSa1ArrayMng t) t b) := by
  unfold dataBranch
  by_cases h1 : b.frameSn = (s.tSa1ArrayMng t).aTidExpectedSn
  · rw [if_pos h1]
    exact ⟨hb, he, h1⟩
  · by_cases h2 : isABiggerThanB b.frameSn (s.tSa1ArrayMng t).aTidExpectedSn
    · by_cases h3 : isABiggerThanB b.frameSn (winEnd (s.tSa1ArrayMng t))
      · simp only [h1, h2, h3, Bool.not_true, Bool.false_eq_true, if_false, if_true]
        exact ⟨hb, he, h2, h3⟩
      · simp only [h1, h2, h3, Bool.not_true, Bool.false_eq_true, if_false]
        split
        case isTrue h4 => exact ⟨hb, he, h2, h3, h4⟩
        case isFalse => exact fun h => absurd h (by decide)
    · simp only [h1, h2, Bool.not_false, if_false, if_true]
      exact ⟨hb, he, h2, h1⟩

theorem pass_takes (hb : ¬isData b) (tStatus : TiStatus) :
    Takes s b (.pass tStatus) := fun _ _ ht => absurd ht.1 hb

theorem barBranch_takes (hb : ¬isData b) : Takes s b (s.barBranch b) := by
  unfold barBranch
  split
  · split
    case isTrue he =>
      split
      case isTrue hlt => exact ⟨hb, he, hlt⟩
      case isFalse => exact pass_takes hb _
    case isFalse => exact pass_takes hb _
  · exact pass_takes hb _

theorem addbaBranch_takes (hb : ¬isData b) : Takes s b (s.addbaBranch b) := by
  unfold addbaBranch
  split
  · split
    case isTrue => exact pass_takes hb _
    case isFalse he => exact ⟨hb, by simpa using he⟩
  · exact pass_takes hb _

theorem delbaBranch_takes (hb : ¬isData b) : Takes s b (s.delbaBranch b) := by
  unfold delbaBranch
  split
  · split
    case isTrue he => exact ⟨hb, he⟩
    case isFalse => exact pass_takes hb _
  · exact pass_takes hb _

theorem eventBranch_takes (hb : ¬isData b) : Takes s b (s.eventBranch b) := by
  unfold eventBranch
  by_cases hbar : b.subtype = 0x80
  · rw [if_pos hbar]
    exact barBranch_takes hb
  · rw [if_neg hbar]
    by_cases hact : b.subtype = 0xD0
    · rw [if_pos hact]
      split
      · exact addbaBranch_takes hb
      · split
        · exact delbaBranch_takes hb
        · exact pass_takes hb _
    · rw [if_neg hact]
      exact pass_takes hb _

theorem branch_takes (s : TRxQueue) (b : RxBuf) : Takes s b (s.branch b) := by
  unfold branch
  by_cases hd : isData b
  · rw [if_pos hd]
    split
    case isTrue h =>
      split
      case isTrue he => exact dataBranch_takes ⟨hd, rfl⟩ he
      case isFalse he =>
        rintro - t ⟨-, ht⟩
        have : t = ⟨b.frameTid, h⟩ := Fin.ext ht.symm
        rw [this]
        simpa using he
    case isFalse => exact fun h => absurd h (by decide)
  · rw [if_neg hd]
    split
    · exact eventBranch_takes hd
    · exact fun _ _ ht => absurd ht.1 hd

theorem step_cases {s' : TRxQueue} {op : Op} (h : step s op = some s') :
    (∃ b, op = .receivePacket b ∧ s' = s.follow b.forceTag (s.branch b.forceTag)) ∨
    (∃ t : Tid, op = .closeBaSession t ∧ (s.tSa1ArrayMng t).aTidBaEstablished = true ∧
      s' = s.closeTid t) ∨
    (∃ n, op = .closeBaSession n ∧ s' = s ∧
      ∀ t : Tid, n = t → (s.tSa1ArrayMng t).aTidBaEstablished = false) ∨
    (op = .timerExpiry ∧ s.bRunning = true ∧ s' = { s with bRunning := false, bExpired := true }) ∨
    (op = .packetTimeOut ∧ s.bExpired = true ∧
      TRxQueue.packetTimeOut { s with bExpired := false } = some s') := by
  cases op with
  | receivePacket b =>
    refine Or.inl ⟨b, rfl, ?_⟩
    rw [← receivePacket_eq]
    exact (Option.some.inj h).symm
  | closeBaSession n =>
    cases h
    refine Or.inr ?_
    by_cases hn : n < 8
    · have heq := s.closeBaSession_eq ⟨n, hn⟩
      by_cases he : (s.tSa1ArrayMng ⟨n, hn⟩).aTidBaEstablished
      · rw [if_pos he] at heq
        exact Or.inl ⟨⟨n, hn⟩, rfl, he, heq⟩
      · rw [if_neg he] at heq
        refine Or.inr (Or.inl ⟨n, rfl, heq, fun t ht => ?_⟩)
        have : t = ⟨n, hn⟩ := Fin.ext ht.symm
        rw [this]
        simpa using he
    · refine Or.inr (Or.inl ⟨n, rfl, ?_, fun t ht => absurd (ht ▸ t.isLt) hn⟩)
      unfold closeBaSession
      rw [dif_neg hn]
  | timerExpiry =>
    simp only [step] at h
    split at h
    case isTrue hr => exact Or.inr (Or.inr (Or.inr (Or.inl ⟨rfl, hr, (Option.some.inj h).symm⟩)))
    case isFalse => exact absurd h (by simp)
  | packetTimeOut =>
    simp only [step] at h
    split at h
    case isTrue he => exact Or.inr (Or.inr (Or.inr (Or.inr ⟨rfl, he, h⟩)))
    case isFalse => exact absurd h (by simp)

/-! ## The timer leaves the data alone -/

section Timer

variable (s : TRxQueue) (t : Tid)

@[simp] theorem stopTimer_db : s.stopTimer.tSa1ArrayMng = s.tSa1ArrayMng := by
  unfold stopTimer
  split <;> rfl

@[simp] theorem stopTimer_stored : s.stopTimer.aPacketsStored = s.aPacketsStored := by
  unfold stopTimer
  split <;> rfl

@[simp] theorem stopTimer_passed : s.stopTimer.passed = s.passed := by
  unfold stopTimer
  split <;> rfl

@[simp] theorem startIfStored_db : (s.startIfStored t).tSa1ArrayMng = s.tSa1ArrayMng := by
  unfold startIfStored
  split <;> rfl

@[simp] theorem startIfStored_stored : (s.startIfStored t).aPacketsStored = s.aPacketsStored := by
  unfold startIfStored
  split <;> rfl

@[simp] theorem startIfStored_passed : (s.startIfStored t).passed = s.passed := by
  unfold startIfStored
  split <;> rfl

end Timer

/-! ## What a branch writes -/

/-- A state that differs from `s` in the context `c` of one TID, and perhaps in the timer. -/
structure Writes (s s' : TRxQueue) (t : Tid) (c : TidCtx) : Prop where
  db : s'.tSa1ArrayMng = Function.update s.tSa1ArrayMng t c.db
  stored : s'.aPacketsStored = c.aPacketsStored
  passed : s'.passed = c.passed

variable {s s' : TRxQueue} {t : Tid} {c : TidCtx}

theorem Writes.db_same (h : Writes s s' t c) : s'.tSa1ArrayMng t = c.db := by
  rw [h.db, Function.update_self]

theorem Writes.db_ne (h : Writes s s' t c) {u : Tid} (hu : u ≠ t) :
    s'.tSa1ArrayMng u = s.tSa1ArrayMng u := by
  rw [h.db, Function.update_of_ne hu]

theorem restart_writes (s : TRxQueue) (t : Tid) (c : TidCtx) :
    Writes s ((s.stopTimer.withTid t c).startIfStored t) t c :=
  ⟨by simp [withTid], by simp [withTid], by simp [withTid]⟩

theorem save_writes (s : TRxQueue) (t : Tid) (b : RxBuf) :
    Writes s (s.follow b (.save t)) t
      ((s.tid t).store (saveIndex (s.tSa1ArrayMng t) b.frameSn) ⟨some b, .ok, b.frameSn⟩) := by
  simp only [follow]
  split <;> exact ⟨rfl, rfl, rfl⟩

theorem closeTid_writes (s : TRxQueue) (t : Tid) :
    Writes s (s.closeTid t) t
      (TidCtx.passAll arraySize
        { s.tid t with db := { s.tSa1ArrayMng t with aTidBaEstablished := false } }) :=
  ⟨by simp [closeTid, withTid], by simp [closeTid, withTid], by simp [closeTid, withTid]⟩

theorem packetTimeOut_cases (h : s.packetTimeOut = some s') :
    (s.aPacketsStored = 0 ∧ s' = { s with bPacketMiss := false }) ∨
    (s.aPacketsStored ≠ 0 ∧ ∃ c, findStored arraySize (s.tid s.aFrameTid) = some c ∧
      Writes s s' s.aFrameTid (c.drainStored arraySize) ∧ s'.aFrameTid = s.aFrameTid ∧
      s'.bExpired = s.bExpired ∧ s'.bPacketMiss = decide (s'.aPacketsStored ≠ 0) ∧
      s'.bRunning = (s.bRunning || decide (s'.aPacketsStored ≠ 0))) := by
  unfold packetTimeOut at h
  dsimp only at h
  by_cases h0 : s.aPacketsStored = 0
  · rw [if_neg (not_not.mpr h0), Option.map_some] at h
    cases h
    exact Or.inl ⟨h0, if_neg (not_not.mpr h0)⟩
  · rw [if_pos h0] at h
    obtain ⟨s₁, hs₁, rfl⟩ := Option.map_eq_some_iff.mp h
    obtain ⟨c, hc, rfl⟩ := Option.map_eq_some_iff.mp hs₁
    refine Or.inr ⟨h0, c, hc, ?_⟩
    split
    case isTrue hne =>
      have hd : decide ((c.drainStored arraySize).aPacketsStored ≠ 0) = true := decide_eq_true hne
      refine ⟨⟨rfl, rfl, rfl⟩, rfl, rfl, hd.symm, ?_⟩
      show true = (s.bRunning || decide ((c.drainStored arraySize).aPacketsStored ≠ 0))
      rw [hd, Bool.or_true]
    case isFalse hne =>
      have hd : decide ((c.drainStored arraySize).aPacketsStored ≠ 0) = false :=
        decide_eq_false hne
      refine ⟨⟨rfl, rfl, rfl⟩, rfl, rfl, hd.symm, ?_⟩
      show s.bRunning = (s.bRunning || decide ((c.drainStored arraySize).aPacketsStored ≠ 0))
      rw [hd, Bool.or_false]

theorem packetTimeOut_eq_none :
    s.packetTimeOut = none ↔
      s.aPacketsStored ≠ 0 ∧ findStored arraySize (s.tid s.aFrameTid) = none := by
  unfold packetTimeOut
  dsimp only
  rw [Option.map_eq_none_iff]
  by_cases h0 : s.aPacketsStored = 0
  · simp [h0]
  · rw [if_pos h0, Option.map_eq_none_iff]
    exact ⟨fun h => ⟨h0, h⟩, fun h => h.2⟩

end TRxQueue

end ArchosGpl.Wlan.RxQueue
