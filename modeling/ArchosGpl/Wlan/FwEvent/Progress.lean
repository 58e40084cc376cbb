import ArchosGpl.Wlan.FwEvent.Servicing

/-!
# An interrupt is served after nine completions

Of the interrupts that come while the machine is busy only a flag remains. A status has at most
seven handlers, so **nine completions after an interrupt a read has followed it**
(`interrupts_serviced`), whatever else comes in between.
-/

namespace ArchosGpl.Wlan.FwEvent

open Lib Sys

/-- The trace of `t` goes on where that of `s` ends. -/
def Grows (s t : Sys) : Prop := ∃ ext, t.log = s.log ++ ext

/-- The same, and a read is started in between. -/
def Reads (s t : Sys) : Prop := ∃ ext, t.log = s.log ++ ext ∧ .readStart ∈ ext

variable {s t : Sys}

theorem Reads.grows (h : Reads s t) : Grows s t :=
  h.imp fun _ h => h.1

variable {u : Sys}

theorem Grows.trans (h : Grows s t) (h' : Grows t u) : Grows s u := by
  obtain ⟨e, he⟩ := h
  obtain ⟨e', he'⟩ := h'
  exact ⟨e ++ e', by rw [he', he, List.append_assoc]⟩

theorem Reads.trans_grows (h : Reads s t) (h' : Grows t u) : Reads s u := by
  obtain ⟨e, he, hm⟩ := h
  obtain ⟨e', he'⟩ := h'
  exact ⟨e ++ e', by rw [he', he, List.append_assoc], List.mem_append_left e' hm⟩

theorem Grows.trans_reads (h : Grows s t) (h' : Reads t u) : Reads s u := by
  obtain ⟨e, he⟩ := h
  obtain ⟨e', he', hm⟩ := h'
  exact ⟨e ++ e', by rw [he', he, List.append_assoc], List.mem_append_right e hm⟩

theorem grows_seen (s : Sys) (e : Event) : Grows s (s.seen e) := ⟨[e], rfl⟩

/-! ## The loop -/

theorem read_turn_reads (env : Env) (n : ℕ) (s : Sys) :
    Reads s (checkStatus ((s.fwEvent_SmReadIntrInfo env n).1.setState .waitIntrInfo)
      (s.fwEvent_SmReadIntrInfo env n).2).1 := by
  have h : Reads s ((s.seen .twIf_HwAvailable).seen .readStart) :=
    ⟨[.twIf_HwAvailable, .readStart], List.append_assoc .., by simp⟩
  unfold fwEvent_SmReadIntrInfo
  cases env.read n with
  | complete st => exact h
  | pending => exact h
  | error => exact h.trans_grows (grows_seen _ .readFailed)

theorem handle_turn_grows (env : Env) (n : ℕ) (hs : s.fw.eSmState = .waitIntrInfo) :
    Grows s (smTurn env n s).1 ∧ (smTurn env n s).1.fw.eSmState = .waitHandleComplt ∧
      (smTurn env n s).1.fw.bIntrPending = s.fw.bIntrPending := by
  have hstate : ¬ (afterStatus env n s).fw.eSmState = .idle := by
    change ¬ s.fw.eSmState = .idle
    rw [hs]
    rintro ⟨⟩
  unfold smTurn
  rw [hs]
  simp only [fwEvent_SmHandleEvents_eq, if_neg hstate]
  split_ifs <;> exact ⟨⟨_, afterStatus_log env n s⟩, rfl, rfl⟩

theorem turn_grows (env : Env) (n : ℕ) (s : Sys) : Grows s (smTurn env n s).1 := by
  cases hs : s.fw.eSmState with
  | idle =>
    unfold smTurn
    rw [hs]
    exact (grows_seen s .twIf_Awake).trans (read_turn_reads env n _).grows
  | waitIntrInfo => exact (handle_turn_grows env n hs).1
  | waitHandleComplt =>
    unfold smTurn
    rw [hs]
    cases hp : s.fw.bIntrPending with
    | true =>
      exact (read_turn_reads env n { s with fw := { s.fw with bIntrPending := false } }).grows
    | false => exact grows_seen s .twIf_Sleep

variable {env : Env} {n turns : ℕ}

theorem loop_grows (h : smLoop env turns n s = some t) : Grows s t := by
  induction turns generalizing n s with
  | zero => cases h
  | succ turns ih =>
    unfold smLoop at h
    cases hc : (smTurn env n s).2 with
    | true =>
      simp only [hc, if_true] at h
      exact (turn_grows env n s).trans (ih h)
    | false =>
      simp only [hc, Bool.false_eq_true, if_false] at h
      cases h
      exact turn_grows env n s

theorem loop_reads (hs : s.fw.eSmState = .waitHandleComplt)
    (hp : s.fw.bIntrPending = true) (h : smLoop env turns n s = some t) : Reads s t := by
  cases turns with
  | zero => cases h
  | succ turns =>
    have hreads : Reads s (smTurn env n s).1 := by
      unfold smTurn
      rw [hs, hp]
      exact read_turn_reads env n { s with fw := { s.fw with bIntrPending := false } }
    unfold smLoop at h
    cases hc : (smTurn env n s).2 with
    | true =>
      simp only [hc, if_true] at h
      exact hreads.trans_grows (loop_grows h)
    | false =>
      simp only [hc, Bool.false_eq_true, if_false] at h
      cases h
      exact hreads

theorem loop_reads_or_waits (hs : s.fw.eSmState = .waitIntrInfo) (hp : s.fw.bIntrPending = true)
    (h : smLoop env turns n s = some t) :
    Reads s t ∨ (Grows s t ∧ t.fw.eSmState = .waitHandleComplt ∧ t.fw.bIntrPending = true) := by
  cases turns with
  | zero => cases h
  | succ turns =>
    obtain ⟨hg, hs', hp'⟩ := handle_turn_grows env n hs
    unfold smLoop at h
    cases hc : (smTurn env n s).2 with
    | true =>
      simp only [hc, if_true] at h
      exact Or.inl (hg.trans_reads (loop_reads hs' (hp'.trans hp) h))
    | false =>
      simp only [hc, Bool.false_eq_true, if_false] at h
      cases h
      exact Or.inr ⟨hg, hs', hp'.trans hp⟩

/-! ## The calls -/

theorem pends_le_calls (l : List Event) : pends l ≤ (calls l).length := by
  induction l with
  | nil => exact Nat.le_refl 0
  | cons e l ih =>
    cases e with
    | handler h st r => cases r <;> simp_all [pends, calls] <;> omega
    | _ => simpa [pends, calls] using ih

theorem Good.handlers_le (h : Good s) : s.handlers ≤ 7 := by
  have hone := h.one
  have hcalls : (calls s.pass).length ≤ 7 := by
    rw [h.called]
    match hr : results s.pass with
    | [] => exact Nat.zero_le 7
    | [r] =>
      rw [List.flatMap_singleton, dispatch, List.length_map]
      exact List.length_filter_le _ allHandlers
    | r :: r' :: rs =>
      rw [hr] at hone
      exact absurd hone (by simp)
  have := pends_le_calls s.pass
  have := h.pending
  omega

/-- How many completions can come before the next read. -/
def work (s : Sys) : ℕ :=
  match s.fw.eSmState with
  | .idle => 0
  | .waitIntrInfo => 8
  | .waitHandleComplt => s.handlers

/-- The machine is busy and an interrupt waits. -/
structure Waiting (s : Sys) : Prop where
  busy : s.fw.eSmState ≠ .idle
  flag : s.fw.bIntrPending = true

def Input.completes : Input → Bool
  | .readDone _ _ => true
  | .handlerCompleted _ => true
  | _ => false

variable {D : Bool}

/-- **A completion starts the read, or there is one less to come.** -/
theorem Waiting.step {i : Input} (h : Waiting s) (hg : Good s) (hr : Rest s)
    (he : step D s i = some t) :
    Reads s t ∨ (Grows s t ∧ Waiting t ∧ work t + (if i.completes then 1 else 0) ≤ work s) := by
  have hgt := (hg.step hr he).1
  unfold FwEvent.step at he
  cases i with
  | newEvent env =>
    rcases fwEvent_NewEvent_cases he with ⟨hs, -⟩ | ⟨-, rfl⟩
    · exact absurd hs h.busy
    · exact Or.inr ⟨⟨[.newEvent], rfl⟩, ⟨h.busy, rfl⟩, Nat.le_refl _⟩
  | readDone st env =>
    obtain ⟨hp, he⟩ := Option.ite_none_right_eq_some.mp he
    have hs : s.fw.eSmState = .waitIntrInfo := by
      unfold Rest at hr
      cases hs : s.fw.eSmState with
      | idle => exact absurd hs h.busy
      | waitIntrInfo => rfl
      | waitHandleComplt =>
        rw [hs, hp] at hr
        exact absurd hr.1 (by rintro ⟨⟩)
    rcases loop_reads_or_waits
        (s := { s with fw := { s.fw with tFwStatus := st }, readPending := false }) hs h.flag he with
      hreads | ⟨hgrows, hs', hp'⟩
    · exact Or.inl hreads
    · refine Or.inr ⟨hgrows, ⟨?_, hp'⟩, ?_⟩
      · rw [hs']
        rintro ⟨⟩
      · unfold work
        rw [hs', hs]
        exact Nat.succ_le_succ hgt.handlers_le
  | readLost =>
    obtain ⟨-, ⟨⟩⟩ := Option.ite_none_right_eq_some.mp he
    exact Or.inr ⟨⟨[.readLost], rfl⟩, ⟨h.busy, h.flag⟩, Nat.le_refl _⟩
  | handlerCompleted env =>
    obtain ⟨hh, he⟩ := Option.ite_none_right_eq_some.mp he
    obtain ⟨hs, -, heq, -⟩ := hr.of_handlers hh
    rw [fwEvent_HandlerCompleted_eq hh hs heq] at he
    by_cases hz : s.fw.uNumPendHndlrs - 1 = 0
    · rw [if_pos hz] at he
      exact Or.inl (Grows.trans_reads ⟨[.completed], rfl⟩
        (loop_reads (s := oneCompleted s) hs h.flag he))
    · rw [if_neg hz] at he
      cases he
      refine Or.inr ⟨⟨[.completed], rfl⟩, ⟨h.busy, h.flag⟩, ?_⟩
      have hwork : work s = s.handlers := by
        unfold work
        rw [hs]
      have hwork' : work (oneCompleted s) = s.handlers - 1 := by
        unfold work
        change (match s.fw.eSmState with | .idle => _ | .waitIntrInfo => _ | .waitHandleComplt => _)
          = _
        rw [hs]
        rfl
      rw [hwork, hwork']
      exact Nat.le_of_eq (Nat.sub_add_cancel hh)
  | setInitMask | maskAllFwInterrupts | enableExternalEvents =>
    cases he
    exact Or.inr ⟨⟨[], (List.append_nil _).symm⟩, ⟨h.busy, h.flag⟩, Nat.le_refl _⟩

theorem step_grows {i : Input} (he : step D s i = some t) : Grows s t := by
  unfold FwEvent.step at he
  cases i with
  | newEvent env =>
    rcases fwEvent_NewEvent_cases he with ⟨-, he⟩ | ⟨-, rfl⟩
    · exact (grows_seen s .newEvent).trans (loop_grows he)
    · exact grows_seen s .newEvent
  | readDone st env =>
    obtain ⟨-, he⟩ := Option.ite_none_right_eq_some.mp he
    exact loop_grows (s := { s with fw := { s.fw with tFwStatus := st }, readPending := false }) he
  | readLost =>
    obtain ⟨-, ⟨⟩⟩ := Option.ite_none_right_eq_some.mp he
    exact grows_seen s .readLost
  | handlerCompleted env =>
    obtain ⟨-, he⟩ := Option.ite_none_right_eq_some.mp he
    unfold fwEvent_HandlerCompleted at he
    change (if D = true ∧ s.fw.uNumPendHndlrs = 0 then some _
      else if D = true ∧ s.fw.eSmState ≠ .waitHandleComplt then some _
      else if s.fw.uNumPendHndlrs - 1 = 0 then _ else some _) = some t at he
    split_ifs at he
    · cases he
      exact ⟨[.completed], rfl⟩
    · cases he
      exact ⟨[.completed], rfl⟩
    · exact Grows.trans (t := oneCompleted s) ⟨[.completed], rfl⟩ (loop_grows he)
    · cases he
      exact ⟨[.completed], rfl⟩
  | setInitMask | maskAllFwInterrupts | enableExternalEvents =>
    cases he
    exact ⟨[], (List.append_nil _).symm⟩

/-- How many reads and handlers complete. -/
def completes (is : List Input) : ℕ := is.countP Input.completes

theorem Waiting.run {is : List Input} (h : Waiting s) (hg : Good s)
    (hr : Rest s) (he : exec (FwEvent.step D) s is = some t) :
    Reads s t ∨ (Grows s t ∧ work t + FwEvent.completes is ≤ work s) := by
  induction is generalizing s with
  | nil =>
    cases he
    exact Or.inr ⟨⟨[], (List.append_nil _).symm⟩, Nat.le_refl _⟩
  | cons i is ih =>
    obtain ⟨u, hu, he⟩ := exec_cons.mp he
    obtain ⟨hgu, hru⟩ := hg.step hr hu
    have hgrows : Grows u t :=
      exec_invariant (I := Grows u) (fun _ _ _ hs h => hs.trans (step_grows h))
        ⟨[], (List.append_nil _).symm⟩ he
    rcases h.step hg hr hu with hreads | ⟨hsu, hw, hwork⟩
    · exact Or.inl (hreads.trans_grows hgrows)
    · rcases ih hw hgu hru he with hreads | ⟨hut, hwork'⟩
      · exact Or.inl (hsu.trans_reads hreads)
      · refine Or.inr ⟨hsu.trans hut, ?_⟩
        have hcount : FwEvent.completes (i :: is) =
            FwEvent.completes is + (if i.completes then 1 else 0) := List.countP_cons
        omega

theorem Good.work_le (h : Good s) : work s ≤ 8 := by
  unfold work
  have := h.handlers_le
  cases s.fw.eSmState with
  | idle => exact Nat.zero_le 8
  | waitIntrInfo => exact Nat.le_refl 8
  | waitHandleComplt => exact Nat.le_succ_of_le this

/-- **Firmware interrupts are serviced**: what holds of the trace of every run, and nine completions
after an interrupt a status read has been started after it, or one has failed. -/
theorem interrupts_serviced {D : Bool} {tFwStatus : FwStatus_t} {uFwTimeOffset : BitVec 32}
    {s t : Sys} {is js : List Input}
    (h : exec (step D) (init tFwStatus uFwTimeOffset) is = some s)
    (h' : exec (step D) s js = some t) :
    Serviced s ∧ ∀ p q, s.log = p ++ .newEvent :: q → 9 ≤ completes js →
      ∃ q', t.log = p ++ .newEvent :: q' ∧ (.readStart ∈ q' ∨ .readFailed ∈ q') := by
  obtain ⟨hg, hr⟩ := good_run h
  refine ⟨hg.serviced hr, fun p q hl hc => ?_⟩
  have hgrows : Grows s t :=
    exec_invariant (I := Grows s) (fun _ _ _ hs h => hs.trans (step_grows h))
      ⟨[], (List.append_nil _).symm⟩ h'
  have hext : ∀ ext, t.log = s.log ++ ext → t.log = p ++ .newEvent :: (q ++ ext) := by
    intro ext hext
    rw [hext, hl, List.append_assoc]
    rfl
  by_cases hserved : .readStart ∈ q ∨ .readFailed ∈ q
  · obtain ⟨ext, he⟩ := hgrows
    exact ⟨q ++ ext, hext ext he, hserved.imp (List.mem_append_left _) (List.mem_append_left _)⟩
  · have hw : Waiting s := by
      rcases hr.served with hv | ⟨hb, hf, -⟩
      · obtain ⟨b, hb, rfl | rfl⟩ := hv p _ q hl rfl
        · exact absurd (Or.inl hb) hserved
        · exact absurd (Or.inr hb) hserved
      · exact ⟨hb, hf⟩
    rcases hw.run hg hr h' with ⟨ext, he, hm⟩ | ⟨-, hwork⟩
    · exact ⟨q ++ ext, hext ext he, Or.inl (List.mem_append_right q hm)⟩
    · have := hg.work_le
      omega

/-- A pending read, an interrupt in the meantime, a status whose receive handler is pending, and
its completion. -/
theorem interrupts_serviced_busy : ∃ s t,
    exec (step true) (init .none 0) [.enableExternalEvents,
      .newEvent ⟨fun _ => .pending, fun _ _ => .complete, fun _ => 0⟩,
      .newEvent ⟨fun _ => .pending, fun _ _ => .complete, fun _ => 0⟩,
      .readDone ⟨ACX_INTR_DATA, 0, [], [], 0⟩ ⟨fun _ => .pending, fun _ h =>
        if h = .rxXfer_RxEvent then .pending else .complete, fun _ => 0⟩] = some s ∧
    exec (step true) s
      [.handlerCompleted ⟨fun _ => .pending, fun _ _ => .complete, fun _ => 0⟩] = some t ∧
    Serviced s := by
  obtain ⟨s, hs, ht⟩ := exec_append.mp (rfl : exec (step true) (init .none 0)
    ([.enableExternalEvents,
      .newEvent ⟨fun _ => .pending, fun _ _ => .complete, fun _ => 0⟩,
      .newEvent ⟨fun _ => .pending, fun _ _ => .complete, fun _ => 0⟩,
      .readDone ⟨ACX_INTR_DATA, 0, [], [], 0⟩ ⟨fun _ => .pending, fun _ h =>
        if h = .rxXfer_RxEvent then .pending else .complete, fun _ => 0⟩] ++
      [.handlerCompleted ⟨fun _ => .pending, fun _ _ => .complete, fun _ => 0⟩]) = some _)
  exact ⟨s, _, hs, ht, (interrupts_serviced hs ht).1⟩

end ArchosGpl.Wlan.FwEvent
