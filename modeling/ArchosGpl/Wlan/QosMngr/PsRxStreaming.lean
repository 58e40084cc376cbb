import ArchosGpl.Wlan.QosMngr.PsRxStreamingModel
import Mathlib.Algebra.BigOperators.Group.Finset.Basic

/-!
# The streams that are enabled, and the automatic one

`Right` is what has to hold in every state: the number of streams is the number of enabled TIDs and
at most `MAX_ENABLED_PS_RX_STREAMS`, and the firmware has the automatic stream exactly when there
is traffic, it has a period and no TID is enabled.

* **`ps_streaming_right_iff`**: all states of a run are right exactly if every call `Fits`. What
  fails is the automatic stream, when the first stream is enabled or the last one is disabled while
  it is wanted, or when its period is set.
-/

open Function (update update_of_ne update_self)

namespace ArchosGpl.Wlan.QosMngr.PsRxStreaming

open Lib

/-! ## The promise -/

def enabledTids (t : ℕ → TPsRxStreaming) : ℕ :=
  ∑ i ∈ Finset.range maxNumOf8021dTags, (t i).bEnabled.toNat

/-- A configuration of TID 0 is the automatic stream's and enabled. -/
def activeFor : Option (Bool × TPsRxStreaming) → Bool
  | some (auto, params) => auto && params.bEnabled
  | none => false

/-- The firmware has the automatic stream. -/
def autoActive (s : State) : Bool := activeFor (s.fw 0)

/-- There is traffic, and the automatic stream has a period. -/
def Wanted (s : State) : Prop := s.trafficOn = true ∧ s.autoRxStreaming.uStreamPeriod ≠ 0

instance (s : State) : Decidable (Wanted s) := inferInstanceAs (Decidable (_ ∧ _))

/-- **What has to hold in every state.** -/
structure Right (s : State) : Prop where
  number : s.uNumEnabledPsRxStreams = enabledTids s.aTidPsRxStreaming
  max : s.uNumEnabledPsRxStreams ≤ maxEnabledPsRxStreams
  auto : autoActive s = true ↔ Wanted s ∧ enabledTids s.aTidPsRxStreaming = 0

/-- **The calls that go well.** -/
def Fits (s : State) : Op → Prop
  | .setPsRxStreaming new =>
    refusal s new = none →
      -- the first stream takes TID 0 from the automatic one, or that is not wanted
      (new.bEnabled = true → s.uNumEnabledPsRxStreams = 0 → new.uTid = 0 ∨ ¬ Wanted s) ∧
      -- before the last stream is disabled, the automatic one is remembered if it is wanted
      (new.bEnabled = false → s.uNumEnabledPsRxStreams = 1 → Wanted s →
        s.autoRxStreaming.bEnabled = true)
  | .setAutoRxStreaming uStreamPeriod =>
    ¬ badPeriod uStreamPeriod → s.autoRxStreaming.uStreamPeriod ≠ uStreamPeriod →
      uStreamPeriod ≠ 0 →
        if s.autoRxStreaming.bEnabled then s.uNumEnabledPsRxStreams = 0
        else s.trafficOn = true → s.uNumEnabledPsRxStreams ≠ 0
  | .deleteTspec ac =>
    -- another AC has a stream, or none has, or the automatic one is not wanted
    s.admissionRequired ac = true → s.uNumEnabledPsRxStreams ≠ 0 → Wanted s →
      ∃ i < maxNumOf8021dTags, (s.aTidPsRxStreaming i).bEnabled = true ∧
        i ≠ wmeQosAcToTid ac ∧ i ≠ wmeQosMateTid ac
  | .disconnect bDisconnect configured =>
    bDisconnect = true → configured = true → s.uNumEnabledPsRxStreams ≠ 0 → ¬ Wanted s
  | _ => True

/-- An invalid TID is rejected, and nothing is changed. -/
def RejectsInvalid (s : State) : Op → Prop
  | .setPsRxStreaming new => maxUserPriority < new.uTid →
    (setPsRxStreaming s new).1 ≠ .ok ∧ (setPsRxStreaming s new).2 = s
  | _ => True

theorem setPsRxStreaming_invalid (s : State) {new : TPsRxStreaming}
    (h : maxUserPriority < new.uTid) :
    (setPsRxStreaming s new).1 ≠ .ok ∧ (setPsRxStreaming s new).2 = s := by
  obtain ⟨answer, hanswer, hne⟩ : ∃ answer, refusal s new = some answer ∧ answer ≠ .ok := by
    unfold refusal
    by_cases hc : s.isConnected
    · exact ⟨.paramValueNotValid, by simp [hc, h], by decide⟩
    · exact ⟨.notConnected, by simp [hc], by decide⟩
  unfold setPsRxStreaming
  rw [hanswer]
  exact ⟨hne, rfl⟩

/-! ## Counting -/

variable {s t : State}

theorem enabledTids_update (t : ℕ → TPsRxStreaming) {i : ℕ} (hi : i < maxNumOf8021dTags)
    (e : TPsRxStreaming) :
    enabledTids (update t i e) + (t i).bEnabled.toNat =
      enabledTids t + e.bEnabled.toNat := by
  unfold enabledTids
  have hmem : i ∈ Finset.range maxNumOf8021dTags := Finset.mem_range.mpr hi
  rw [← Finset.add_sum_erase _ _ hmem,
    ← Finset.add_sum_erase _ (fun i => (t i).bEnabled.toNat) hmem, update_self]
  have hrest : ∑ j ∈ (Finset.range maxNumOf8021dTags).erase i,
      (update t i e j).bEnabled.toNat =
      ∑ j ∈ (Finset.range maxNumOf8021dTags).erase i, (t j).bEnabled.toNat :=
    Finset.sum_congr rfl fun j hj => by rw [update_of_ne (Finset.ne_of_mem_erase hj)]
  omega

theorem enabledTids_ne_zero_iff (t : ℕ → TPsRxStreaming) :
    enabledTids t ≠ 0 ↔ ∃ i < maxNumOf8021dTags, (t i).bEnabled = true := by
  simp [enabledTids]

@[simp] theorem autoActive_cfg (s : State) (auto : Bool) (params : TPsRxStreaming) :
    autoActive (s.cfgPsRxStreaming auto params) =
      if params.uTid = 0 then auto && params.bEnabled else autoActive s := by
  unfold autoActive State.cfgPsRxStreaming
  dsimp only
  split
  next h => rw [h, update_self]; rfl
  next h => rw [update_of_ne (Ne.symm h)]

/-! ## The invariant -/

/-- The TIDs are those of the places, and the automatic stream is remembered as far as it is
needed. -/
structure Inv (s : State) : Prop where
  right : Right s
  tids : ∀ i < maxNumOf8021dTags, (s.aTidPsRxStreaming i).uTid = i
  autoTid : s.autoRxStreaming.uTid = 0
  armed : s.autoRxStreaming.bEnabled = true → s.trafficOn = true
  resume : enabledTids s.aTidPsRxStreaming = 0 → Wanted s → s.autoRxStreaming.bEnabled = true

theorem inv_init (uPsTrafficPeriod : ℕ) : Inv (init uPsTrafficPeriod) where
  right := ⟨rfl, Nat.zero_le _, fun h => (nomatch h), fun h => nomatch h.1.1⟩
  tids := fun _ _ => rfl
  autoTid := rfl
  armed := fun h => nomatch h
  resume := fun _ h => nomatch h.1

theorem Right.not_active (h : Right s) (hne : enabledTids s.aTidPsRxStreaming ≠ 0) :
    autoActive s = false :=
  Bool.eq_false_iff.mpr fun ha => hne (h.auto.mp ha).2

theorem Right.same_streams_iff (h : Right s)
    (htable : t.aTidPsRxStreaming = s.aTidPsRxStreaming)
    (hnum : t.uNumEnabledPsRxStreams = s.uNumEnabledPsRxStreams) :
    Right t ↔ (autoActive t = true ↔ Wanted t ∧ enabledTids s.aTidPsRxStreaming = 0) := by
  constructor
  · intro ht
    rw [← htable]
    exact ht.auto
  · intro ha
    refine ⟨?_, hnum.trans_le h.max, ?_⟩
    · rw [hnum, htable, h.number]
    · rw [htable]
      exact ha

/-! ## Calls that only disable streams -/

/-- `k` streams were disabled, and nothing was sent for the automatic one. -/
structure Off (s t : State) (k : ℕ) : Prop where
  trafficOn : t.trafficOn = s.trafficOn
  auto : t.autoRxStreaming = s.autoRxStreaming
  count : enabledTids t.aTidPsRxStreaming + k = enabledTids s.aTidPsRxStreaming
  tids : (∀ i < maxNumOf8021dTags, (s.aTidPsRxStreaming i).uTid = i) →
    ∀ i < maxNumOf8021dTags, (t.aTidPsRxStreaming i).uTid = i
  active : autoActive t = true → autoActive s = true
  unchanged : enabledTids s.aTidPsRxStreaming = 0 → autoActive t = autoActive s

theorem Off.refl (s : State) : Off s s 0 := ⟨rfl, rfl, rfl, id, id, fun _ => rfl⟩

theorem Off.of_eq {u : State} {k : ℕ} (h : Off s t k) (htraffic : u.trafficOn = t.trafficOn)
    (hauto : u.autoRxStreaming = t.autoRxStreaming)
    (htids : u.aTidPsRxStreaming = t.aTidPsRxStreaming) (hfw : u.fw = t.fw) : Off s u k := by
  have hactive : autoActive u = autoActive t := by rw [autoActive, autoActive, hfw]
  refine ⟨htraffic.trans h.trafficOn, hauto.trans h.auto, ?_, ?_, ?_, ?_⟩
  · rw [htids]
    exact h.count
  · rw [htids]
    exact h.tids
  · rw [hactive]
    exact h.active
  · rw [hactive]
    exact h.unchanged

theorem Off.trans {u : State} {k m : ℕ} (h : Off s t k) (h' : Off t u m) : Off s u (k + m) where
  trafficOn := h'.trafficOn.trans h.trafficOn
  auto := h'.auto.trans h.auto
  count := by
    have hk := h.count
    have hm := h'.count
    omega
  tids := h'.tids ∘ h.tids
  active := h.active ∘ h'.active
  unchanged := by
    intro h0
    have hk := h.count
    exact (h'.unchanged (by omega)).trans (h.unchanged h0)

theorem Off.wanted {k : ℕ} (h : Off s t k) : Wanted t ↔ Wanted s := by
  rw [Wanted, Wanted, h.trafficOn, h.auto]

theorem Off.right_iff {k : ℕ} (h : Off s t k) (hs : Inv s)
    (hnum : t.uNumEnabledPsRxStreams = enabledTids t.aTidPsRxStreaming) :
    Right t ↔ (s.uNumEnabledPsRxStreams ≠ 0 → Wanted s →
      enabledTids t.aTidPsRxStreaming ≠ 0) := by
  have hcount := h.count
  have hmax := hs.right.max
  rw [hs.right.number] at hmax ⊢
  constructor
  · intro ht hne hw h0
    have ha := ht.auto.mpr ⟨h.wanted.mpr hw, h0⟩
    exact hne (hs.right.auto.mp (h.active ha)).2
  · intro hcond
    refine ⟨hnum, by rw [hnum]; omega, ?_⟩
    rw [h.wanted]
    by_cases h0 : enabledTids s.aTidPsRxStreaming = 0
    · rw [h.unchanged h0, hs.right.auto]
      exact and_congr_right' ⟨fun _ => by omega, fun _ => h0⟩
    · constructor
      · intro ha
        exact absurd (hs.right.auto.mp (h.active ha)).2 h0
      · rintro ⟨hw, ht0⟩
        exact absurd ht0 (hcond h0 hw)

theorem Off.inv {k : ℕ} (h : Off s t k) (hs : Inv s) (ht : Right t) : Inv t where
  right := ht
  tids := h.tids hs.tids
  autoTid := by rw [h.auto, hs.autoTid]
  armed := by
    rw [h.auto, h.trafficOn]
    exact hs.armed
  resume := by
    intro h0 hw
    rw [h.auto]
    refine hs.resume ?_ (h.wanted.mp hw)
    exact (hs.right.auto.mp (h.active (ht.auto.mpr ⟨hw, h0⟩))).2

theorem off_disableStream {i : ℕ} (hi : i < maxNumOf8021dTags)
    (htid : (s.aTidPsRxStreaming i).uTid = i) :
    Off s (disableStream s i) (s.aTidPsRxStreaming i).bEnabled.toNat := by
  unfold disableStream
  split
  next h =>
    have hcount := enabledTids_update s.aTidPsRxStreaming hi
      { s.aTidPsRxStreaming i with bEnabled := false }
    refine ⟨rfl, rfl, hcount, fun htids j hj => ?_, fun ha => ?_, fun h0 => ?_⟩
    · change (update s.aTidPsRxStreaming i _ j).uTid = j
      by_cases hji : j = i
      · subst hji
        rw [update_self]
        exact htid
      · rw [update_of_ne hji]
        exact htids j hj
    · rw [autoActive_cfg] at ha
      split at ha
      · exact nomatch ha
      · exact ha
    · exact absurd h0 ((enabledTids_ne_zero_iff _).mpr ⟨i, hi, h⟩)
  next h =>
    rw [Bool.not_eq_true] at h
    rw [h]
    exact Off.refl s

theorem disableStream_enabled (s : State) (i j : ℕ) :
    ((disableStream s i).aTidPsRxStreaming j).bEnabled =
      ((s.aTidPsRxStreaming j).bEnabled && j ≠ i) := by
  unfold disableStream
  by_cases hji : j = i
  · subst hji
    split
    next h => simp [State.cfgPsRxStreaming]
    next h => simpa using h
  · split
    next h => simp [State.cfgPsRxStreaming, hji]
    next h => simp [hji]

theorem off_disableAll (l : List ℕ) (hl : ∀ i ∈ l, i < maxNumOf8021dTags) (s : State)
    (htids : ∀ i < maxNumOf8021dTags, (s.aTidPsRxStreaming i).uTid = i) :
    ∃ k, Off s (l.foldl disableStream s) k := by
  induction l generalizing s with
  | nil => exact ⟨0, Off.refl s⟩
  | cons i l ih =>
    obtain ⟨hi, hrest⟩ := List.forall_mem_cons.mp hl
    have hfirst := off_disableStream hi (htids i hi)
    obtain ⟨k, hk⟩ := ih hrest (disableStream s i) (hfirst.tids htids)
    exact ⟨_, hfirst.trans hk⟩

theorem disableAll_enabled (l : List ℕ) (s : State) (j : ℕ) :
    ((l.foldl disableStream s).aTidPsRxStreaming j).bEnabled =
      ((s.aTidPsRxStreaming j).bEnabled && j ∉ l) := by
  induction l generalizing s with
  | nil => simp
  | cons i l ih =>
    rw [List.foldl_cons, ih, disableStream_enabled]
    simp [Bool.and_assoc, not_or]

theorem Off.right_of_zero (h : Off s t 0) (hs : Inv s)
    (hnum : t.uNumEnabledPsRxStreams = s.uNumEnabledPsRxStreams) : Right t := by
  have hcount := h.count
  rw [Nat.add_zero] at hcount
  refine (h.right_iff hs ?_).mpr fun hne _ => ?_
  · rw [hnum, hs.right.number, hcount]
  · rw [hcount, ← hs.right.number]
    exact hne

theorem off_resendStream {i : ℕ} (hi : i < maxNumOf8021dTags) : Off s (resendStream s i) 0 := by
  unfold resendStream
  split
  next h =>
    refine ⟨rfl, rfl, rfl, id, fun ha => ?_, fun h0 => ?_⟩
    · rw [autoActive_cfg] at ha
      split at ha
      · exact nomatch ha
      · exact ha
    · exact absurd h0 ((enabledTids_ne_zero_iff _).mpr ⟨i, hi, h⟩)
  next h => exact Off.refl s

theorem resendStream_number (s : State) (i : ℕ) :
    (resendStream s i).uNumEnabledPsRxStreams = s.uNumEnabledPsRxStreams := by
  unfold resendStream
  split <;> rfl

theorem wmeQosAcToTid_lt (ac : EAcTrfcType) : wmeQosAcToTid ac < maxNumOf8021dTags := by
  cases ac <;> decide

theorem wmeQosMateTid_lt (ac : EAcTrfcType) : wmeQosMateTid ac < maxNumOf8021dTags := by
  cases ac <;> decide

theorem updateAcParams_right (hs : Inv s) (ac : EAcTrfcType) (acm : Bool) :
    Off s (updateAcParams s ac acm) 0 ∧ Right (updateAcParams s ac acm) := by
  have hoff : Off s (updateAcParams s ac acm) 0 := by
    unfold updateAcParams
    split
    · exact (Off.refl s).of_eq rfl rfl rfl rfl
    · let s₀ := { s with
        admissionRequired := update s.admissionRequired ac acm
        admitted := update s.admitted ac !acm }
      have h₀ : Off s s₀ 0 := (Off.refl s).of_eq rfl rfl rfl rfl
      exact h₀.trans
        ((off_resendStream (wmeQosAcToTid_lt ac)).trans (off_resendStream (wmeQosMateTid_lt ac)))
  refine ⟨hoff, hoff.right_of_zero hs ?_⟩
  unfold updateAcParams
  split
  · rfl
  · rw [resendStream_number, resendStream_number]

/-! ## Deletions -/

theorem deleteStream_table (s : State) (i : ℕ) :
    (deleteStream s i).aTidPsRxStreaming = (disableStream s i).aTidPsRxStreaming := by
  unfold deleteStream
  split
  · rfl
  next h => rw [disableStream, if_neg h]

theorem off_deleteStream {i : ℕ} (hi : i < maxNumOf8021dTags)
    (htid : (s.aTidPsRxStreaming i).uTid = i)
    (hnum : s.uNumEnabledPsRxStreams = enabledTids s.aTidPsRxStreaming)
    (hmax : s.uNumEnabledPsRxStreams ≤ maxEnabledPsRxStreams) :
    (∃ k, Off s (deleteStream s i) k) ∧
      (deleteStream s i).uNumEnabledPsRxStreams =
        enabledTids (deleteStream s i).aTidPsRxStreaming := by
  have hoff := off_disableStream hi htid
  have hcount := hoff.count
  rw [deleteStream_table]
  unfold deleteStream
  split
  next h =>
    rw [h, Bool.toNat_true, ← hnum] at hcount
    refine ⟨⟨_, hoff.of_eq rfl rfl rfl rfl⟩, ?_⟩
    rw [sub32_of_le (hcount ▸ Nat.le_add_left 1 _) (hmax.trans_lt (by decide)), ← hcount]
    exact Nat.add_sub_cancel _ _
  next h =>
    refine ⟨⟨0, Off.refl s⟩, ?_⟩
    rw [disableStream, if_neg h, hnum]

/-- **A deletion is right exactly if another stream stays, there was none, or the automatic one is
not wanted.** -/
theorem deleteTspec_right_iff (hs : Inv s) (ac : EAcTrfcType) :
    (∃ k, Off s (deleteTspecConfiguration s ac) k) ∧
      (Right (deleteTspecConfiguration s ac) ↔ Fits s (.deleteTspec ac)) := by
  unfold deleteTspecConfiguration Fits
  split
  next hreq =>
    let s₀ := { s with admitted := update s.admitted ac false }
    have h₀ : Off s s₀ 0 := (Off.refl s).of_eq rfl rfl rfl rfl
    obtain ⟨⟨k, h₁⟩, hnum₁⟩ := off_deleteStream (s := s₀) (wmeQosAcToTid_lt ac)
      (hs.tids _ (wmeQosAcToTid_lt ac)) hs.right.number hs.right.max
    have hmax₁ : (deleteStream s₀ (wmeQosAcToTid ac)).uNumEnabledPsRxStreams ≤
        maxEnabledPsRxStreams := by
      have hcount := h₁.count
      have hmax := hs.right.max
      have hnum : s.uNumEnabledPsRxStreams = enabledTids s₀.aTidPsRxStreaming := hs.right.number
      omega
    obtain ⟨⟨m, h₂⟩, hnum₂⟩ := off_deleteStream (wmeQosMateTid_lt ac)
      (h₁.tids hs.tids _ (wmeQosMateTid_lt ac)) hnum₁ hmax₁
    have hoff := h₀.trans (h₁.trans h₂)
    refine ⟨⟨_, hoff⟩, (hoff.right_iff hs hnum₂).trans ?_⟩
    rw [enabledTids_ne_zero_iff]
    simp only [deleteStream_table, disableStream_enabled, Bool.and_eq_true, decide_eq_true_eq,
      and_assoc, hreq, true_imp_iff]
    exact Iff.rfl
  next hreq =>
    have hoff : Off s { s with admitted := update s.admitted ac true } 0 :=
      (Off.refl s).of_eq rfl rfl rfl rfl
    exact ⟨⟨0, hoff⟩, ⟨fun _ h => absurd h hreq, fun _ => hoff.right_of_zero hs rfl⟩⟩

/-- **A disconnection is right exactly if there was no stream or the automatic one is not
wanted.** -/
theorem disconnect_right_iff (hs : Inv s) (bDisconnect configured : Bool) :
    (∃ k, Off s (disconnect s bDisconnect configured) k) ∧
      (Right (disconnect s bDisconnect configured) ↔
        Fits s (.disconnect bDisconnect configured)) := by
  have h₀ : Off s (setNonQosAdmissionState s) 0 := (Off.refl s).of_eq rfl rfl rfl rfl
  cases configured with
  | false =>
    exact ⟨⟨0, h₀⟩, ⟨fun _ _ h => (nomatch h), fun _ => h₀.right_of_zero hs rfl⟩⟩
  | true =>
    rw [disconnect, if_neg (by decide)]
    cases bDisconnect with
    | false =>
      have hoff : Off s { setNonQosAdmissionState s with isConnected := false } 0 :=
        h₀.of_eq rfl rfl rfl rfl
      exact ⟨⟨0, hoff⟩, ⟨fun _ h => (nomatch h), fun _ => hoff.right_of_zero hs rfl⟩⟩
    | true =>
      obtain ⟨k, hk⟩ := off_disableAll (List.range maxNumOf8021dTags)
        (fun i hi => List.mem_range.mp hi) (setNonQosAdmissionState s) hs.tids
      have hnone : enabledTids ((List.range maxNumOf8021dTags).foldl disableStream
          (setNonQosAdmissionState s)).aTidPsRxStreaming = 0 := by
        by_contra hne
        obtain ⟨i, hi, henabled⟩ := (enabledTids_ne_zero_iff _).mp hne
        rw [disableAll_enabled] at henabled
        simp [hi] at henabled
      generalize (List.range maxNumOf8021dTags).foldl disableStream
        (setNonQosAdmissionState s) = u at hk hnone
      have hoff : Off s { u with uNumEnabledPsRxStreams := 0, isConnected := false } (0 + k) :=
        (h₀.trans hk).of_eq rfl rfl rfl rfl
      refine ⟨⟨_, hoff⟩, (hoff.right_iff hs hnone.symm).trans ?_⟩
      exact ⟨fun h _ _ hne hw => h hne hw hnone, fun h hne hw => absurd hw (h rfl rfl hne)⟩

/-! ## The traffic -/

section UpdatePsTraffic

variable (s : State) (on : Bool)

@[simp] theorem updatePsTraffic_table :
    (updatePsTraffic s on).aTidPsRxStreaming = s.aTidPsRxStreaming := by
  unfold updatePsTraffic
  dsimp only
  split <;> rfl

@[simp] theorem updatePsTraffic_number :
    (updatePsTraffic s on).uNumEnabledPsRxStreams = s.uNumEnabledPsRxStreams := by
  unfold updatePsTraffic
  dsimp only
  split <;> rfl

@[simp] theorem updatePsTraffic_auto :
    (updatePsTraffic s on).autoRxStreaming = { s.autoRxStreaming with bEnabled := on } := by
  unfold updatePsTraffic
  dsimp only
  split <;> rfl

@[simp] theorem updatePsTraffic_trafficOn : (updatePsTraffic s on).trafficOn = s.trafficOn := by
  unfold updatePsTraffic
  dsimp only
  split <;> rfl

theorem autoActive_updatePsTraffic (htid : s.autoRxStreaming.uTid = 0) :
    autoActive (updatePsTraffic s on) =
      if s.uNumEnabledPsRxStreams = 0 ∧ s.autoRxStreaming.uStreamPeriod ≠ 0 then on
      else autoActive s := by
  unfold updatePsTraffic
  dsimp only
  split
  · rw [autoActive_cfg, if_pos htid, Bool.true_and]
  · rfl

end UpdatePsTraffic

theorem updatePsTraffic_inv (hs : Inv s) (on : Bool) : Inv (next s (.updatePsTraffic on)) := by
  have hnum := hs.right.number
  have hactive := autoActive_updatePsTraffic s on hs.autoTid
  have hwanted : Wanted (next s (.updatePsTraffic on)) ↔
      on = true ∧ s.autoRxStreaming.uStreamPeriod ≠ 0 := by
    simp [Wanted, next]
  refine ⟨⟨?_, ?_, ?_⟩, ?_, ?_, ?_, ?_⟩
  · simpa [next] using hnum
  · simpa [next] using hs.right.max
  · rw [hwanted]
    change autoActive (updatePsTraffic s on) = true ↔
      _ ∧ enabledTids (updatePsTraffic s on).aTidPsRxStreaming = 0
    rw [hactive, updatePsTraffic_table, ← hnum]
    by_cases h : s.uNumEnabledPsRxStreams = 0 ∧ s.autoRxStreaming.uStreamPeriod ≠ 0
    · rw [if_pos h]
      exact ⟨fun hon => ⟨⟨hon, h.2⟩, h.1⟩, fun hw => hw.1.1⟩
    · rw [if_neg h, hs.right.auto, ← hnum]
      exact ⟨fun ha => absurd ⟨ha.2, ha.1.2⟩ h, fun hw => absurd ⟨hw.2, hw.1.2⟩ h⟩
  · simpa [next] using hs.tids
  · simpa [next] using hs.autoTid
  · simp [next]
  · intro _ hw
    simpa [next] using (hwanted.mp hw).1

/-! ## The period -/

/-- **A new period is right exactly if the automatic stream is not enabled beside a user's, and not
forgotten.** -/
theorem setAutoRxStreaming_right (hs : Inv s) (p : ℕ) :
    (Right (setAutoRxStreaming s p).2 ↔ Fits s (.setAutoRxStreaming p)) ∧
      (Fits s (.setAutoRxStreaming p) → Inv (setAutoRxStreaming s p).2) := by
  unfold setAutoRxStreaming Fits
  by_cases hbad : badPeriod p
  · rw [if_pos hbad]
    exact ⟨⟨fun _ h => absurd hbad h, fun _ => hs.right⟩, fun _ => hs⟩
  by_cases hsame : s.autoRxStreaming.uStreamPeriod = p
  · rw [if_neg hbad, if_pos hsame]
    exact ⟨⟨fun _ _ h => absurd hsame h, fun _ => hs.right⟩, fun _ => hs⟩
  rw [if_neg hbad, if_neg hsame]
  have hnum := hs.right.number
  by_cases hb : s.autoRxStreaming.bEnabled = true
  · have hon := hs.armed hb
    simp only [if_pos hb]
    by_cases hp : p ≠ 0
    · rw [if_pos hp]
      have hright := hs.right.same_streams_iff (t := State.cfgPsRxStreaming
        { s with autoRxStreaming := { s.autoRxStreaming with uStreamPeriod := p } } true
        { s.autoRxStreaming with uStreamPeriod := p }) rfl rfl
      rw [autoActive_cfg, if_pos hs.autoTid, hb, Bool.true_and] at hright
      have hiff := hright.trans (c := s.uNumEnabledPsRxStreams = 0)
        ⟨fun h => hnum.trans (h.mp rfl).2, fun h => ⟨fun _ => ⟨⟨hon, hp⟩, hnum ▸ h⟩, fun _ => rfl⟩⟩
      refine ⟨hiff.trans ⟨fun h _ _ _ => h, fun h => h hbad hsame hp⟩, fun h => ?_⟩
      exact ⟨hiff.mpr (h hbad hsame hp), hs.tids, hs.autoTid, hs.armed, fun _ _ => hb⟩
    · rw [if_neg hp]
      have hright := hs.right.same_streams_iff (t := State.cfgPsRxStreaming
        { s with autoRxStreaming := { s.autoRxStreaming with uStreamPeriod := p } } true
        { s.autoRxStreaming with uStreamPeriod := p, bEnabled := false }) rfl rfl
      rw [autoActive_cfg, if_pos hs.autoTid, Bool.and_false] at hright
      have ht := hright.mpr ⟨fun h => (nomatch h), fun h => absurd h.1.2 hp⟩
      refine ⟨⟨fun _ _ _ h => absurd h hp, fun _ => ht⟩, fun _ => ?_⟩
      exact ⟨ht, hs.tids, hs.autoTid, hs.armed, fun _ hw => absurd hw.2 hp⟩
  · simp only [if_neg hb]
    have hnot : autoActive s = false := Bool.eq_false_iff.mpr fun ha =>
      hb (hs.resume (hs.right.auto.mp ha).2 (hs.right.auto.mp ha).1)
    have hright := hs.right.same_streams_iff
      (t := { s with autoRxStreaming := { s.autoRxStreaming with uStreamPeriod := p } }) rfl rfl
    have hiff := hright.trans (c := p ≠ 0 → s.trafficOn = true → s.uNumEnabledPsRxStreams ≠ 0)
      ⟨fun h hp hon h0 => absurd (hnot.symm.trans (h.mpr ⟨⟨hon, hp⟩, hnum ▸ h0⟩)) (by decide),
        fun h => ⟨fun ha => absurd (hnot.symm.trans ha) (by decide),
          fun hw => absurd (hnum.trans hw.2) (h hw.1.2 hw.1.1)⟩⟩
    refine ⟨hiff.trans ⟨fun h _ _ hp => h hp, fun h hp => h hbad hsame hp⟩, fun h => ?_⟩
    have ht := hiff.mpr fun hp => h hbad hsame hp
    refine ⟨ht, hs.tids, hs.autoTid, hs.armed, fun h0 hw => ?_⟩
    exact absurd (hnot.symm.trans (ht.auto.mpr ⟨hw, h0⟩)) (by decide)

/-! ## Requests of the user -/

variable {new : TPsRxStreaming}

theorem of_refusal_none (h : refusal s new = none) :
    new.uTid < maxNumOf8021dTags ∧
      (new.bEnabled = true ∨ (s.aTidPsRxStreaming new.uTid).bEnabled = true) ∧
      ¬ (new.bEnabled = true ∧ (s.aTidPsRxStreaming new.uTid).bEnabled = false ∧
        s.uNumEnabledPsRxStreams = maxEnabledPsRxStreams) := by
  unfold refusal at h
  dsimp only at h
  split_ifs at h with _ htid _ hoff hmax
  refine ⟨Nat.lt_succ_of_le (Nat.not_lt.mp htid), ?_, by simpa using hmax⟩
  by_contra hno
  exact hoff (by simpa [not_or] using hno)

theorem newNumber_eq (hs : Inv s) (h : refusal s new = none) :
    newNumber s new = enabledTids (update s.aTidPsRxStreaming new.uTid new) ∧
      newNumber s new ≤ maxEnabledPsRxStreams := by
  obtain ⟨htid, hone, hroom⟩ := of_refusal_none h
  have hcount := enabledTids_update s.aTidPsRxStreaming htid new
  have hnum := hs.right.number
  have hmax := hs.right.max
  have hpow : maxEnabledPsRxStreams + 1 < 2 ^ 32 := by decide
  unfold newNumber
  cases hen : new.bEnabled with
  | true =>
    rw [hen, Bool.toNat_true] at hcount
    cases hprev : (s.aTidPsRxStreaming new.uTid).bEnabled with
    | true =>
      rw [hprev, Bool.toNat_true] at hcount
      simp only [if_true]
      omega
    | false =>
      rw [hprev, Bool.toNat_false] at hcount
      have hlt : s.uNumEnabledPsRxStreams ≠ maxEnabledPsRxStreams := fun heq =>
        hroom ⟨hen, hprev, heq⟩
      simp only [if_true, Bool.false_eq_true, if_false]
      rw [add32_of_lt (by omega)]
      omega
  | false =>
    have hprev := hone.resolve_left (by simp [hen])
    rw [hen, hprev, Bool.toNat_false, Bool.toNat_true] at hcount
    simp only [Bool.false_eq_true, if_false]
    rw [sub32_of_le (by omega) (by omega)]
    omega

/-- The streams after a request, whatever becomes of the automatic one. -/
structure Stored (s : State) (new : TPsRxStreaming) (t : State) : Prop where
  table : t.aTidPsRxStreaming = update s.aTidPsRxStreaming new.uTid new
  number : t.uNumEnabledPsRxStreams = newNumber s new
  trafficOn : t.trafficOn = s.trafficOn
  period : t.autoRxStreaming.uStreamPeriod = s.autoRxStreaming.uStreamPeriod
  autoTid : t.autoRxStreaming.uTid = s.autoRxStreaming.uTid

theorem Stored.wanted (h : Stored s new t) : Wanted t ↔ Wanted s := by
  rw [Wanted, Wanted, h.trafficOn, h.period]

theorem Stored.right_iff (h : Stored s new t) (hs : Inv s) (hok : refusal s new = none) :
    Right t ↔ (autoActive t = true ↔ Wanted s ∧ newNumber s new = 0) := by
  obtain ⟨hnum, hmax⟩ := newNumber_eq hs hok
  rw [hnum, ← h.wanted, ← h.table]
  constructor
  · exact fun ht => ht.auto
  · intro ha
    refine ⟨?_, h.number.trans_le hmax, ha⟩
    rw [h.number, h.table, hnum]

theorem Stored.inv (h : Stored s new t) (hs : Inv s) (hok : refusal s new = none) (ht : Right t)
    (harmed : t.autoRxStreaming.bEnabled = true → s.trafficOn = true)
    (hresume : newNumber s new = 0 → Wanted s → t.autoRxStreaming.bEnabled = true) : Inv t where
  right := ht
  tids := by
    intro i hi
    rw [h.table]
    by_cases hne : i = new.uTid
    · rw [hne, update_self]
    · rw [update_of_ne hne]
      exact hs.tids i hi
  autoTid := h.autoTid.trans hs.autoTid
  armed := by
    rw [h.trafficOn]
    exact harmed
  resume := by
    rw [h.table, ← (newNumber_eq hs hok).1, h.wanted]
    exact hresume

/-- The state after the table and the number are written. -/
def stored (s : State) (new : TPsRxStreaming) : State :=
  { s with
    aTidPsRxStreaming := update s.aTidPsRxStreaming new.uTid new
    uNumEnabledPsRxStreams := newNumber s new }

/-- The first stream cancels the automatic one. -/
def First (s : State) (new : TPsRxStreaming) : Prop :=
  new.bEnabled = true ∧ ¬ (s.aTidPsRxStreaming new.uTid).bEnabled = true ∧ newNumber s new = 1

instance (s : State) (new : TPsRxStreaming) : Decidable (First s new) :=
  inferInstanceAs (Decidable (_ ∧ _))

/-- The state when the automatic stream is cancelled, if it has to be. -/
def cancelled (s : State) (new : TPsRxStreaming) : State :=
  if First s new then updatePsTraffic (stored s new) false else stored s new

theorem setPsRxStreaming_eq (hok : refusal s new = none) :
    (setPsRxStreaming s new).2 =
      if (cancelled s new).uNumEnabledPsRxStreams = 0 ∧
          (cancelled s new).autoRxStreaming.bEnabled = true then
        if new.uTid = 0 then updatePsTraffic (cancelled s new) true
        else (updatePsTraffic (cancelled s new) true).cfgPsRxStreaming false new
      else (cancelled s new).cfgPsRxStreaming false new := by
  have h : setPsRxStreaming s new =
      let u := cancelled s new
      if u.uNumEnabledPsRxStreams = 0 ∧ u.autoRxStreaming.bEnabled then
        if new.uTid = 0 then (.ok, updatePsTraffic u true)
        else (.ok, (updatePsTraffic u true).cfgPsRxStreaming false new)
      else (.ok, u.cfgPsRxStreaming false new) := by
    unfold setPsRxStreaming
    rw [hok]
    rfl
  rw [h]
  dsimp only
  split_ifs <;> rfl

theorem newNumber_add (hs : Inv s) (hok : refusal s new = none) :
    newNumber s new + (s.aTidPsRxStreaming new.uTid).bEnabled.toNat =
      s.uNumEnabledPsRxStreams + new.bEnabled.toNat := by
  rw [(newNumber_eq hs hok).1, hs.right.number]
  exact enabledTids_update _ (of_refusal_none hok).1 new

theorem Stored.refl (s : State) (new : TPsRxStreaming) : Stored s new (stored s new) :=
  ⟨rfl, rfl, rfl, rfl, rfl⟩

theorem Stored.updatePsTraffic (h : Stored s new t) (on : Bool) :
    Stored s new (PsRxStreaming.updatePsTraffic t on) where
  table := by rw [updatePsTraffic_table, h.table]
  number := by rw [updatePsTraffic_number, h.number]
  trafficOn := by rw [updatePsTraffic_trafficOn, h.trafficOn]
  period := by rw [updatePsTraffic_auto, h.period]
  autoTid := by rw [updatePsTraffic_auto, h.autoTid]

theorem Stored.cfg (h : Stored s new t) : Stored s new (t.cfgPsRxStreaming false new) :=
  ⟨h.table, h.number, h.trafficOn, h.period, h.autoTid⟩

theorem stored_autoTid (hs : Inv s) (new : TPsRxStreaming) :
    (stored s new).autoRxStreaming.uTid = 0 := hs.autoTid

theorem setPsRxStreaming_first (hs : Inv s) (hok : refusal s new = none) (h : First s new) :
    (Right (setPsRxStreaming s new).2 ↔ new.uTid = 0 ∨ ¬ Wanted s) ∧
      (Right (setPsRxStreaming s new).2 → Inv (setPsRxStreaming s new).2) := by
  have hadd := newNumber_add hs hok
  rw [h.1, Bool.eq_false_iff.mpr h.2.1, h.2.2, Bool.toNat_false, Bool.toNat_true] at hadd
  have hzero : enabledTids s.aTidPsRxStreaming = 0 := by
    have := hs.right.number
    omega
  have hu := (Stored.refl s new).updatePsTraffic false
  have hactive : autoActive (updatePsTraffic (stored s new) false) = autoActive s := by
    rw [autoActive_updatePsTraffic _ _ (stored_autoTid hs new), (Stored.refl s new).number, h.2.2,
      if_neg fun hno => absurd hno.1 (by decide)]
    rfl
  have hcancelled : cancelled s new = updatePsTraffic (stored s new) false := if_pos h
  rw [setPsRxStreaming_eq hok, hcancelled, hu.number, h.2.2,
    if_neg fun hno => absurd hno.1 (by decide)]
  constructor
  · rw [hu.cfg.right_iff hs hok, h.2.2, autoActive_cfg, hactive]
    by_cases htid : new.uTid = 0
    · simp [htid]
    · rw [if_neg htid, hs.right.auto]
      simp [htid, hzero]
  · intro ht
    refine hu.cfg.inv hs hok ht (fun hb => ?_) fun h0 => ?_
    · change (updatePsTraffic (stored s new) false).autoRxStreaming.bEnabled = true at hb
      rw [updatePsTraffic_auto] at hb
      exact nomatch hb
    · exact absurd (h.2.2.symm.trans h0) (by decide)

theorem not_active_of_not_first (hs : Inv s) (hok : refusal s new = none) (h : ¬ First s new) :
    s.uNumEnabledPsRxStreams ≠ 0 ∧ autoActive s = false := by
  obtain ⟨htid, hone, _⟩ := of_refusal_none hok
  have hne : s.uNumEnabledPsRxStreams ≠ 0 := by
    by_cases hprev : (s.aTidPsRxStreaming new.uTid).bEnabled = true
    · rw [hs.right.number]
      exact (enabledTids_ne_zero_iff _).mpr ⟨new.uTid, htid, hprev⟩
    · have hen := hone.resolve_right hprev
      have hadd := newNumber_add hs hok
      rw [hen, Bool.eq_false_iff.mpr hprev, Bool.toNat_false, Bool.toNat_true] at hadd
      intro h0
      exact h ⟨hen, hprev, by omega⟩
  exact ⟨hne, hs.right.not_active (hs.right.number ▸ hne)⟩

theorem setPsRxStreaming_last (hs : Inv s) (hok : refusal s new = none) (h : newNumber s new = 0)
    (hb : s.autoRxStreaming.bEnabled = true) : Inv (setPsRxStreaming s new).2 := by
  have hfirst : ¬ First s new := fun hf => absurd (h.symm.trans hf.2.2) (by decide)
  have hnot := (not_active_of_not_first hs hok hfirst).2
  have hwanted : Wanted s ↔ s.autoRxStreaming.uStreamPeriod ≠ 0 :=
    ⟨fun hw => hw.2, fun hp => ⟨hs.armed hb, hp⟩⟩
  have hu := (Stored.refl s new).updatePsTraffic true
  have hactive : autoActive (updatePsTraffic (stored s new) true) = true ↔ Wanted s := by
    rw [hwanted, autoActive_updatePsTraffic _ _ (stored_autoTid hs new), (Stored.refl s new).number]
    by_cases hp : s.autoRxStreaming.uStreamPeriod ≠ 0
    · rw [if_pos ⟨h, hp⟩]
      exact ⟨fun _ => hp, fun _ => rfl⟩
    · rw [if_neg fun hno => hp hno.2]
      exact ⟨fun ha => absurd (hnot.symm.trans ha) (by decide), fun hno => absurd hno hp⟩
  have hinv : ∀ t, Stored s new t → (autoActive t = true ↔ Wanted s) →
      t.autoRxStreaming.bEnabled = true → Inv t := by
    intro t ht ha hen
    refine ht.inv hs hok ((ht.right_iff hs hok).mpr ?_) (fun _ => hs.armed hb) fun _ _ => hen
    exact ha.trans ⟨fun hw => ⟨hw, h⟩, fun hw => hw.1⟩
  have hen : (updatePsTraffic (stored s new) true).autoRxStreaming.bEnabled = true := by
    rw [updatePsTraffic_auto]
  have hcancelled : cancelled s new = stored s new := if_neg hfirst
  rw [setPsRxStreaming_eq hok, hcancelled, if_pos ⟨h, hb⟩]
  by_cases htid : new.uTid = 0
  · rw [if_pos htid]
    exact hinv _ hu hactive hen
  · rw [if_neg htid]
    refine hinv _ hu.cfg ?_ hen
    rw [autoActive_cfg, if_neg htid]
    exact hactive

theorem setPsRxStreaming_other (hs : Inv s) (hok : refusal s new = none) (hfirst : ¬ First s new)
    (hlast : ¬ (newNumber s new = 0 ∧ s.autoRxStreaming.bEnabled = true)) :
    (Right (setPsRxStreaming s new).2 ↔ (newNumber s new = 0 → ¬ Wanted s)) ∧
      (Right (setPsRxStreaming s new).2 → Inv (setPsRxStreaming s new).2) := by
  have hu := (Stored.refl s new).cfg
  have hactive : autoActive ((stored s new).cfgPsRxStreaming false new) = false := by
    rw [autoActive_cfg]
    split
    · rfl
    · exact (not_active_of_not_first hs hok hfirst).2
  have hcancelled : cancelled s new = stored s new := if_neg hfirst
  have hstored : ¬ ((stored s new).uNumEnabledPsRxStreams = 0 ∧
      (stored s new).autoRxStreaming.bEnabled = true) := hlast
  rw [setPsRxStreaming_eq hok, hcancelled, if_neg hstored]
  have hiff : Right ((stored s new).cfgPsRxStreaming false new) ↔
      (newNumber s new = 0 → ¬ Wanted s) := by
    rw [hu.right_iff hs hok, hactive]
    exact ⟨fun h h0 hw => absurd (h.mpr ⟨hw, h0⟩) (by decide),
      fun h => ⟨fun ha => (nomatch ha), fun hw => absurd hw.1 (h hw.2)⟩⟩
  exact ⟨hiff, fun ht => hu.inv hs hok ht hs.armed fun h0 hw => absurd hw (hiff.mp ht h0)⟩

/-- **A request is right exactly if the first stream takes TID 0 from the automatic one, and the
last one leaves when that is remembered.** -/
theorem setPsRxStreaming_right (hs : Inv s) (new : TPsRxStreaming) :
    (Right (setPsRxStreaming s new).2 ↔ Fits s (.setPsRxStreaming new)) ∧
      (Right (setPsRxStreaming s new).2 → Inv (setPsRxStreaming s new).2) := by
  cases hok : refusal s new with
  | some answer =>
    have hsame : (setPsRxStreaming s new).2 = s := by
      unfold setPsRxStreaming
      rw [hok]
    rw [hsame]
    refine ⟨⟨fun _ h => ?_, fun _ => hs.right⟩, fun _ => hs⟩
    exact nomatch hok.symm.trans h
  | none =>
    have hfits : Fits s (.setPsRxStreaming new) ↔
        (new.bEnabled = true → s.uNumEnabledPsRxStreams = 0 → new.uTid = 0 ∨ ¬ Wanted s) ∧
          (new.bEnabled = false → s.uNumEnabledPsRxStreams = 1 → Wanted s →
            s.autoRxStreaming.bEnabled = true) := ⟨fun h => h hok, fun h _ => h⟩
    have hadd := newNumber_add hs hok
    rw [hfits]
    by_cases hfirst : First s new
    · obtain ⟨hiff, hinv⟩ := setPsRxStreaming_first hs hok hfirst
      rw [hfirst.1, Bool.eq_false_iff.mpr hfirst.2.1, hfirst.2.2, Bool.toNat_false,
        Bool.toNat_true] at hadd
      refine ⟨hiff.trans ⟨fun h => ⟨fun _ _ => h, fun hen => ?_⟩, fun h => h.1 hfirst.1 (by omega)⟩,
        hinv⟩
      exact absurd (hfirst.1.symm.trans hen) (by decide)
    have hne := (not_active_of_not_first hs hok hfirst).1
    by_cases hlast : newNumber s new = 0 ∧ s.autoRxStreaming.bEnabled = true
    · have hinv := setPsRxStreaming_last hs hok hlast.1 hlast.2
      exact ⟨⟨fun _ => ⟨fun _ h0 => absurd h0 hne, fun _ _ _ => hlast.2⟩, fun _ => hinv.right⟩,
        fun _ => hinv⟩
    obtain ⟨hiff, hinv⟩ := setPsRxStreaming_other hs hok hfirst hlast
    refine ⟨hiff.trans ⟨fun h => ⟨fun _ h0 => absurd h0 hne, fun hen hone hw => ?_⟩, ?_⟩, hinv⟩
    · have hprev := (of_refusal_none hok).2.1.resolve_left (by simp [hen])
      rw [hen, hprev, hone, Bool.toNat_false, Bool.toNat_true] at hadd
      exact absurd hw (h (by omega))
    · intro h h0 hw
      cases hen : new.bEnabled with
      | true =>
        rw [hen, h0, Bool.toNat_true] at hadd
        have := Bool.toNat_le (s.aTidPsRxStreaming new.uTid).bEnabled
        omega
      | false =>
        have hprev := (of_refusal_none hok).2.1.resolve_left (by simp [hen])
        rw [hen, hprev, h0, Bool.toNat_false, Bool.toNat_true] at hadd
        exact hlast ⟨h0, h.2 hen (by omega) hw⟩

/-! ## Runs -/

theorem next_right (hs : Inv s) (op : Op) :
    (Right (next s op) ↔ Fits s op) ∧ (Right (next s op) → Inv (next s op)) := by
  cases op with
  | setPsRxStreaming new => exact setPsRxStreaming_right hs new
  | setAutoRxStreaming uStreamPeriod =>
    obtain ⟨hiff, hinv⟩ := setAutoRxStreaming_right hs uStreamPeriod
    exact ⟨hiff, fun h => hinv (hiff.mp h)⟩
  | updatePsTraffic bPsTrafficOn =>
    have hinv := updatePsTraffic_inv hs bPsTrafficOn
    exact ⟨⟨fun _ => trivial, fun _ => hinv.right⟩, fun _ => hinv⟩
  | deleteTspec ac =>
    obtain ⟨⟨_, hoff⟩, hiff⟩ := deleteTspec_right_iff hs ac
    exact ⟨hiff, hoff.inv hs⟩
  | disconnect bDisconnect configured =>
    obtain ⟨⟨_, hoff⟩, hiff⟩ := disconnect_right_iff hs bDisconnect configured
    exact ⟨hiff, hoff.inv hs⟩
  | connect =>
    have hoff : Off s { s with isConnected := true } 0 := (Off.refl s).of_eq rfl rfl rfl rfl
    exact ⟨⟨fun _ => trivial, fun _ => hoff.right_of_zero hs rfl⟩, hoff.inv hs⟩
  | updateAcParams ac acm =>
    obtain ⟨hoff, hright⟩ := updateAcParams_right hs ac acm
    exact ⟨⟨fun _ => trivial, fun _ => hright⟩, hoff.inv hs⟩
  | acceptTspec ac =>
    have hoff : Off s { s with admitted := update s.admitted ac true } 0 :=
      (Off.refl s).of_eq rfl rfl rfl rfl
    exact ⟨⟨fun _ => trivial, fun _ => hoff.right_of_zero hs rfl⟩, hoff.inv hs⟩

theorem rejectsInvalid (s : State) (op : Op) : RejectsInvalid s op := by
  cases op with
  | setPsRxStreaming new => exact setPsRxStreaming_invalid s
  | _ => trivial

/-- **All states of a run are right, and invalid TIDs rejected, exactly if every call `Fits`.** -/
theorem ps_streaming_right_iff (uPsTrafficPeriod : ℕ) (ops : List Op) :
    (∀ js t, js <+: ops → exec step (init uPsTrafficPeriod) js = some t → Right t) ∧
        Along step RejectsInvalid (init uPsTrafficPeriod) ops ↔
      Along step Fits (init uPsTrafficPeriod) ops := by
  have hrejects : ∀ s, Along step RejectsInvalid s ops :=
    fun s => (Along.of_forall (Q := fun _ => True) fun _ _ => trivial).mono
      fun s op _ => rejectsInvalid s op
  obtain ⟨t, ht⟩ : ∃ t, exec step (init uPsTrafficPeriod) ops = some t :=
    (exec_defined_iff (P := fun _ _ => True) fun s op => ⟨fun _ => trivial, fun _ => ⟨_, rfl⟩⟩).mpr
      (Along.of_forall fun _ _ => trivial)
  refine (and_iff_left (hrejects _)).trans ?_
  refine along_iff_of_invariant (I := Inv) (S := Right) (D := fun _ => True) (fun _ h => h.right)
    ?_ ?_ (inv_init uPsTrafficPeriod) (fun _ _ => trivial) ht
  · intro s op u hs _ hfits hu
    cases hu
    exact (next_right hs op).2 ((next_right hs op).1.mpr hfits)
  · intro s op u hs _ hnot hu hright
    cases hu
    exact hnot ((next_right hs op).1.mp hright)

/-- Voice is admitted and there is traffic. The user enables TID 6: the automatic stream stays. -/
theorem auto_stays_beside_user :
    ¬ ∀ (uPsTrafficPeriod : ℕ) (ops : List Op) (js : List Op) (t : State), js <+: ops →
      exec step (init uPsTrafficPeriod) js = some t → Right t := by
  intro h
  let ops : List Op :=
    [.connect, .acceptTspec .vo, .updatePsTraffic true, .setPsRxStreaming ⟨6, 20, 0, true⟩]
  obtain ⟨t, ht, hactive, hnum⟩ : ∃ t, exec step (init 20) ops = some t ∧
      autoActive t = true ∧ t.uNumEnabledPsRxStreams = 1 :=
    ⟨_, rfl, by decide +kernel, by decide +kernel⟩
  have hright := h 20 ops ops t List.prefix_rfl ht
  have hzero := (hright.auto.mp hactive).2
  exact absurd (hnum.symm.trans (hright.number.trans hzero)) (by decide)

end ArchosGpl.Wlan.QosMngr.PsRxStreaming
