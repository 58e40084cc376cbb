import ArchosGpl.Wlan.AssocSm.Model

/-!
# Association attempts

`Attempts` says what holds of the attempts that a state's log shows: no report without an open
attempt, state WAIT and its timer exactly while one is open, at most as many requests as the retry
limit, and an end after enough time-outs.

The count is checked after the request is sent, so one request more than the limit is sent and given
up without a wait. **`attempts_iff`**: the property holds all along a run if and only if each step
fits: an attempt starts with a limit below 255, the last value of the count, and not of zero where
its request is sent; and the time-out that exceeds the limit sends nothing, and is not one left from
before the start. **`one_request_too_many`**: with a limit of 2, three requests, the last not waited
for.
-/

namespace ArchosGpl.Wlan.AssocSm

open Lib

/-! ## What the log shows -/

namespace Act

def isStart : Act → Bool
  | .start => true
  | _ => false

def isRequest : Act → Bool
  | .request _ => true
  | _ => false

def isExpired : Act → Bool
  | .expired => true
  | _ => false

def isReport : Act → Bool
  | .report _ _ => true
  | _ => false

/-- The failure that `assoc_smMaxRetryWait` reports. -/
def isTimeoutReport : Act → Bool
  | .report .maxRetry _ => true
  | _ => false

/-- A stop or a report. -/
def isEnd : Act → Bool
  | .stop => true
  | .report _ _ => true
  | _ => false

end Act

variable {l q : List Act}

/-- An attempt began and neither a stop nor a report came since. -/
def Open (l : List Act) : Prop := ∃ a ∈ since Act.isEnd l, a.isStart = true

theorem open_append (hend : ∀ a ∈ q, a.isEnd = false) (hstart : ∀ a ∈ q, a.isStart = false) :
    Open (l ++ q) ↔ Open l := by
  unfold Open
  rw [since_append hend]
  constructor
  · rintro ⟨a, ha, hs⟩
    rcases List.mem_append.mp ha with h | h
    · exact ⟨a, h, hs⟩
    · exact absurd (hstart a h) (by rw [hs]; decide)
  · rintro ⟨a, ha, hs⟩
    exact ⟨a, List.mem_append_left q ha, hs⟩

theorem open_start (hend : ∀ a ∈ q, a.isEnd = false) : Open (l ++ .start :: q) := by
  unfold Open
  rw [since_append (List.forall_mem_cons.mpr ⟨rfl, hend⟩)]
  exact ⟨.start, by simp, rfl⟩

theorem not_open_of_end {a : Act} (ha : a.isEnd = true) (hend : ∀ b ∈ q, b.isEnd = false)
    (hstart : ∀ b ∈ q, b.isStart = false) : ¬ Open (l ++ a :: q) := by
  rintro ⟨b, hb, hs⟩
  rw [since_eq ha hend] at hb
  exact absurd (hstart b hb) (by rw [hs]; decide)

variable {b sent : Bool}

theorem eq_request_of_mem {a : Act} (ha : a ∈ requests sent b) : a = .request b := by
  cases sent
  · cases ha
  · exact List.mem_singleton.mp ha

theorem requests_all {M : Act → Bool} (hM : M (.request b) = false) :
    ∀ a ∈ requests sent b, M a = false := by
  intro a ha
  rwa [eq_request_of_mem ha]

theorem requests_none {M : Act → Bool} (hM : M (.request b) = false) :
    ∀ a ∈ requests sent b, ¬ M a = true := by
  intro a ha
  rw [requests_all hM a ha]
  exact Bool.false_ne_true

def requestsOf (l : List Act) : ℕ := (since Act.isStart l).countP Act.isRequest

theorem requestsOf_append (hs : ∀ a ∈ q, a.isStart = false) :
    requestsOf (l ++ q) = requestsOf l + q.countP Act.isRequest := by
  rw [requestsOf, since_append hs, List.countP_append]
  rfl

theorem requestsOf_append_of_none (hs : ∀ a ∈ q, a.isStart = false)
    (hr : ∀ a ∈ q, a.isRequest = false) : requestsOf (l ++ q) = requestsOf l := by
  have hnone : q.countP Act.isRequest = 0 :=
    List.countP_eq_zero.mpr fun a ha => Bool.not_eq_true _ ▸ hr a ha
  rw [requestsOf_append hs, hnone, Nat.add_zero]

theorem requestsOf_start (hs : ∀ a ∈ q, a.isStart = false) :
    requestsOf (l ++ .start :: q) = q.countP Act.isRequest := by
  rw [requestsOf, since_eq rfl hs]

theorem countP_requests (sent b : Bool) : (requests sent b).countP Act.isRequest = sent.toNat := by
  cases sent <;> rfl

/-- Every request of the attempt waited until the timer expired. -/
def Waited (l : List Act) : Prop :=
  Answered (fun a => a.isRequest = true) (fun a => a.isExpired = true) (since Act.isStart l)

/-! ## The property -/

/-- A stop or a report came between two states. -/
def Ended (s t : Assoc) : Prop :=
  ∃ added, t.log = s.log ++ added ∧ ∃ a ∈ added, a.isEnd = true

/-- Enough time-outs end the attempt, whatever comes in between. -/
def Ends (s : Assoc) : Prop :=
  ∃ n, ∀ is t, exec step s is = some t → n ≤ is.countP Input.isTimeout → Ended s t

/-- **The attempts of a state.** An expiry of the timer that is still to be handled keeps the place
of the timer. -/
structure Attempts (s : Assoc) : Prop where
  reported : Before (fun a => a.isReport = true) Open s.log
  open_iff : Open s.log ↔ s.currentState = .wait
  armed : s.armed = true → s.currentState = .wait
  timed : s.currentState = .wait → s.armed = true ∨ s.linked = true
  bounded : requestsOf s.log ≤ max 1 s.maxCount.toNat
  waited : Before (fun a => a.isTimeoutReport = true) Waited s.log
  ends : s.currentState = .wait → Ends s

/-! ## The condition -/

/-- **What a step may do**: the 8-bit count can exceed the limit, which is not zero where the first
request is sent; and the time-out that exceeds it sends nothing, and comes after an expiry of this
attempt. -/
def Core.Fits (c : Core) : Input → Prop
  | .start _ sent =>
    c.currentState = .idle → c.maxCount.toNat < 255 ∧ (sent = true → 1 ≤ c.maxCount.toNat)
  | .timeout sent =>
    c.currentState = .wait → c.linked = true → c.maxCount.toNat ≤ c.retryCount.toNat →
      sent = false ∧ (c.armed = true → requestsOf c.log = 0)
  | _ => True

/-- What the steps that fit keep. -/
structure Core.Kept (c : Core) : Prop where
  reported : Before (fun a => a.isReport = true) Open c.log
  open_iff : Open c.log ↔ c.currentState = .wait
  armed : c.armed = true → c.currentState = .wait
  timed : c.currentState = .wait → c.armed = true ∨ c.linked = true
  bounded : requestsOf c.log ≤ max 1 c.maxCount.toNat
  waited : Before (fun a => a.isTimeoutReport = true) Waited c.log
  limit : c.currentState = .wait → c.maxCount.toNat < 255
  count : c.currentState = .wait → c.retryCount.toNat ≤ c.maxCount.toNat
  counted : c.currentState = .wait → requestsOf c.log ≤ c.retryCount.toNat
  answered : c.currentState = .wait → c.armed = false → Waited c.log
  stale : c.currentState = .wait → c.armed = true → c.linked = true →
    ∀ a ∈ since Act.isStart c.log, a.isExpired = false

namespace Core.Kept

variable {c c' : Core} {i : Input}

theorem init (maxCount : UInt32) : (Assoc.init maxCount).core.Kept where
  reported := before_nil
  open_iff := by simp [Assoc.core, Assoc.init, Open, since]
  armed h := Bool.noConfusion h
  timed h := SmState.noConfusion h
  bounded := Nat.zero_le _
  waited := before_nil
  limit h := SmState.noConfusion h
  count h := SmState.noConfusion h
  counted h := SmState.noConfusion h
  answered h := SmState.noConfusion h
  stale h := SmState.noConfusion h

theorem of_not_wait (hs : c.currentState ≠ .wait) (ho : ¬ Open c.log) (ha : c.armed = false)
    (reported : Before (fun a => a.isReport = true) Open c.log)
    (bounded : requestsOf c.log ≤ max 1 c.maxCount.toNat)
    (waited : Before (fun a => a.isTimeoutReport = true) Waited c.log) : c.Kept where
  reported := reported
  open_iff := ⟨fun h => absurd h ho, fun h => absurd h hs⟩
  armed h := absurd h (by rw [ha]; decide)
  timed h := absurd h hs
  bounded := bounded
  waited := waited
  limit h := absurd h hs
  count h := absurd h hs
  counted h := absurd h hs
  answered h := absurd h hs
  stale h := absurd h hs

theorem not_armed (h : c.Kept) (hs : c.currentState ≠ .wait) : c.armed = false :=
  Bool.eq_false_iff.mpr fun ha => hs (h.armed ha)

theorem not_open (h : c.Kept) (hs : c.currentState ≠ .wait) : ¬ Open c.log :=
  fun ho => hs (h.open_iff.mp ho)

theorem expiry (h : c.Kept) :
    Kept { c with
      armed := false
      linked := true
      log := c.log ++ [.expired] } where
  reported := h.reported.snoc nofun
  open_iff := (open_append (by simp [Act.isEnd]) (by simp [Act.isStart])).trans h.open_iff
  armed h := Bool.noConfusion h
  timed _ := Or.inr rfl
  bounded := by
    rw [requestsOf_append_of_none (by simp [Act.isStart]) (by simp [Act.isRequest])]
    exact h.bounded
  waited := h.waited.snoc nofun
  limit := h.limit
  count := h.count
  counted hw := by
    rw [requestsOf_append_of_none (by simp [Act.isStart]) (by simp [Act.isRequest])]
    exact h.counted hw
  answered _ _ := by
    unfold Waited
    rw [since_snoc_of_other rfl]
    exact .of_answer rfl nofun
  stale _ h := Bool.noConfusion h

theorem begun (h : c.Kept) (sent b : Bool) (hm : 1 ≤ c.maxCount.toNat)
    (hlimit : c.maxCount.toNat < 255) :
    Kept { c with
      currentState := .wait
      retryCount := 1
      armed := true
      log := c.log ++ .start :: requests sent b } where
  reported := h.reported.append
    (List.forall_mem_cons.mpr ⟨nofun, requests_none rfl⟩)
  open_iff := ⟨fun _ => rfl, fun _ => open_start (requests_all rfl)⟩
  armed _ := rfl
  timed _ := Or.inl rfl
  bounded := by
    rw [requestsOf_start (requests_all rfl), countP_requests]
    exact Nat.le_trans (Bool.toNat_le sent) (Nat.le_max_left 1 _)
  waited := h.waited.append
    (List.forall_mem_cons.mpr ⟨nofun, requests_none rfl⟩)
  limit _ := hlimit
  count _ := hm
  counted _ := by
    rw [requestsOf_start (requests_all rfl), countP_requests]
    exact Bool.toNat_le sent
  answered _ h := Bool.noConfusion h
  stale _ _ _ := by
    rw [since_eq rfl (requests_all rfl)]
    exact requests_all rfl

theorem refused (h : c.Kept) (b : Bool) (hi : c.currentState = .idle) :
    Kept { c with
      retryCount := 1
      armed := false
      log := c.log ++
        .start :: (requests false b ++ [.report .maxRetry statusPacketRejTimeout]) } := by
  have hlog : c.log ++ .start :: (requests false b ++ [.report .maxRetry statusPacketRejTimeout]) =
      (c.log ++ [.start]) ++ [.report .maxRetry statusPacketRejTimeout] := by
    rw [List.append_assoc]
    rfl
  rw [hlog]
  refine of_not_wait (by rw [hi]; decide) ?_ rfl ?_ ?_ ?_
  · exact not_open_of_end rfl (by simp) (by simp)
  · exact (h.reported.snoc (e := .start) nofun).snoc fun _ => open_start (q := []) nofun
  · rw [requestsOf_append_of_none (by simp [Act.isStart]) (by simp [Act.isRequest]),
      requestsOf_start (by simp)]
    exact Nat.zero_le _
  · refine (h.waited.snoc (e := .start) nofun).snoc fun _ => ?_
    unfold Waited
    rw [since_snoc_of_mark rfl]
    exact answered_nil

theorem retryCount_succ (h : c.Kept) (hw : c.currentState = .wait) :
    (c.retryCount + 1).toNat = c.retryCount.toNat + 1 := by
  have hlimit := h.limit hw
  have hcount := h.count hw
  rw [UInt8.toNat_add, UInt8.toNat_one, Nat.mod_eq_of_lt (by omega)]

theorem retried (h : c.Kept) (sent b : Bool) (hw : c.currentState = .wait)
    (hm : (c.retryCount + 1).toNat ≤ c.maxCount.toNat) :
    Kept { c with
      retryCount := c.retryCount + 1
      armed := true
      linked := false
      log := c.log ++ requests sent b } := by
  have hcount : requestsOf (c.log ++ requests sent b) ≤ (c.retryCount + 1).toNat := by
    rw [requestsOf_append (requests_all rfl), countP_requests, h.retryCount_succ hw]
    exact Nat.add_le_add (h.counted hw) (Bool.toNat_le sent)
  exact
    { reported := h.reported.append (requests_none rfl)
      open_iff := (open_append (requests_all rfl) (requests_all rfl)).trans h.open_iff
      armed := fun _ => hw
      timed := fun _ => Or.inl rfl
      bounded := Nat.le_trans (Nat.le_trans hcount hm) (Nat.le_max_right 1 _)
      waited := h.waited.append (requests_none rfl)
      limit := h.limit
      count := fun _ => hm
      counted := fun _ => hcount
      answered := fun _ h => Bool.noConfusion h
      stale := fun _ _ h => Bool.noConfusion h }

theorem gaveUp (h : c.Kept) (b : Bool) (hw : c.currentState = .wait)
    (hone : c.armed = true → requestsOf c.log = 0) :
    Kept { c with
      currentState := .idle
      retryCount := c.retryCount + 1
      armed := false
      linked := false
      log := c.log ++ (requests false b ++ [.report .maxRetry statusPacketRejTimeout]) } := by
  refine of_not_wait nofun (not_open_of_end rfl nofun nofun) rfl ?_ ?_ ?_
  · exact h.reported.snoc fun _ => h.open_iff.mpr hw
  · rw [show requests false b ++ [.report .maxRetry statusPacketRejTimeout] =
      [Act.report .maxRetry statusPacketRejTimeout] from rfl,
      requestsOf_append_of_none (by simp [Act.isStart]) (by simp [Act.isRequest])]
    exact h.bounded
  · refine h.waited.snoc fun _ => ?_
    cases ha : c.armed with
    | false => exact h.answered hw ha
    | true =>
      have hnone := List.countP_eq_zero.mp (hone ha)
      rintro p a q hl hr
      exact absurd hr (hnone a (hl ▸ List.mem_append_right p (List.mem_cons_self)))

theorem ended (h : c.Kept) {state : SmState} {event : SmEvent} (status : UInt16)
    (hw : c.currentState = .wait) (hs : state ≠ .wait) (he : event ≠ .maxRetry) :
    Kept { c with
      currentState := state
      armed := false
      log := c.log ++ [.report event status] } := by
  refine of_not_wait hs (not_open_of_end rfl nofun nofun) rfl ?_ ?_ ?_
  · exact h.reported.snoc fun _ => h.open_iff.mpr hw
  · rw [requestsOf_append_of_none (by simp [Act.isStart]) (by simp [Act.isRequest])]
    exact h.bounded
  · refine h.waited.snoc fun ht => ?_
    cases event <;> first | exact absurd rfl he | cases ht

theorem stopped (h : c.Kept) (sends : Bool) :
    Kept { c with
      currentState := .idle
      armed := c.armed && decide (c.currentState ≠ .wait)
      log := c.log ++ .stop :: if sends then [.disAssoc] else [] } := by
  have harm : (c.armed && decide (c.currentState ≠ .wait)) = false := by
    cases ha : c.armed with
    | false => rfl
    | true => simp [h.armed ha]
  have hall : ∀ {M : Act → Bool}, M .disAssoc = false →
      ∀ a ∈ (if sends then [Act.disAssoc] else []), M a = false := by
    rintro M hM a ha
    cases sends
    · cases ha
    · rwa [List.mem_singleton.mp ha]
  have hmem : ∀ a ∈ .stop :: (if sends then [Act.disAssoc] else []),
      a = .stop ∨ a = .disAssoc := by
    cases sends <;> simp
  refine of_not_wait nofun (not_open_of_end rfl (hall rfl) (hall rfl)) harm ?_ ?_ ?_
  · exact h.reported.append fun a ha => by rcases hmem a ha with rfl | rfl <;> decide
  · rw [requestsOf_append_of_none]
    · exact h.bounded
    · exact List.forall_mem_cons.mpr ⟨rfl, hall rfl⟩
    · exact List.forall_mem_cons.mpr ⟨rfl, hall rfl⟩
  · exact h.waited.append fun a ha => by rcases hmem a ha with rfl | rfl <;> decide

theorem move (h : c.Kept) (hf : c.Fits i) (hm : Move c i c') : c'.Kept := by
  cases hm with
  | stays => exact h
  | dropped hw =>
    exact of_not_wait hw (h.not_open hw) (h.not_armed hw) h.reported h.bounded h.waited
  | expiry ha => exact h.expiry
  | @begun _ sent b hi hm => exact h.begun sent b hm (hf hi).1
  | @refused _ sent b hi hm =>
    cases sent with
    | false => exact h.refused b hi
    | true => exact absurd ((hf hi).2 rfl) (by omega)
  | @retried sent b hw hl hm => exact h.retried sent b hw hm
  | @gaveUp sent b hw hl hm =>
    rw [h.retryCount_succ hw] at hm
    obtain ⟨rfl, hone⟩ := hf hw hl (Nat.le_of_lt_succ hm)
    exact h.gaveUp b hw hone
  | answered state event status hw hs he => exact h.ended status hw hs he
  | stopped sends => exact h.stopped sends

end Core.Kept

/-! ## An attempt ends -/

variable {i : Input}

theorem Move.log_extends {c c' : Core} (h : Move c i c') : ∃ added, c'.log = c.log ++ added := by
  cases h with
  | stays | dropped => exact ⟨[], (List.append_nil _).symm⟩
  | expiry | begun | refused | retried | gaveUp | answered | stopped => exact ⟨_, rfl⟩

variable {s : Assoc}

theorem Ended.of_step {t u : Assoc} (h : step s i = some t) (he : Ended t u) : Ended s u := by
  obtain ⟨first, hfirst⟩ := (step_move h).log_extends
  obtain ⟨added, hadded, a, ha, hend⟩ := he
  refine ⟨first ++ added, ?_, a, List.mem_append_right first ha, hend⟩
  rw [hadded, ← List.append_assoc]
  exact congrArg (· ++ added) hfirst

theorem Ended.step {t u : Assoc} (he : Ended s t) (h : step t i = some u) : Ended s u := by
  obtain ⟨last, hlast⟩ := (step_move h).log_extends
  obtain ⟨added, hadded, a, ha, hend⟩ := he
  refine ⟨added ++ last, ?_, a, List.mem_append_left last ha, hend⟩
  rw [← List.append_assoc, ← hadded]
  exact hlast

/-- An attempt in progress, whose count does not wrap below the limit. -/
structure Core.Waits (c : Core) : Prop where
  wait : c.currentState = .wait
  limit : c.maxCount.toNat < 255
  count : c.retryCount.toNat ≤ c.maxCount.toNat

theorem Core.Waits.move {c c' : Core} (h : c.Waits) (hm : Move c i c') :
    (∃ added, c'.log = c.log ++ added ∧ ∃ a ∈ added, a.isEnd = true) ∨
      (c'.Waits ∧ c'.maxCount.toNat - c'.retryCount.toNat + i.isTimeout.toNat ≤
        c.maxCount.toNat - c.retryCount.toNat) := by
  have hsucc : (c.retryCount + 1).toNat = c.retryCount.toNat + 1 := by
    have := h.limit
    have := h.count
    rw [UInt8.toNat_add, UInt8.toNat_one, Nat.mod_eq_of_lt (by omega)]
  cases hm with
  | stays hs ht he => exact Or.inr ⟨h, by rw [ht]; exact Nat.le_refl _⟩
  | dropped hw => exact absurd h.wait hw
  | expiry ha => exact Or.inr ⟨⟨h.wait, h.limit, h.count⟩, Nat.le_refl _⟩
  | begun b hi | refused b hi => exact absurd (hi.symm.trans h.wait) nofun
  | retried b hw hl hm =>
    refine Or.inr ⟨⟨hw, h.limit, hm⟩, ?_⟩
    dsimp only [Input.isTimeout, Bool.toNat_true]
    rw [hsucc] at hm ⊢
    omega
  | gaveUp b =>
    exact Or.inl ⟨_, rfl, .report .maxRetry statusPacketRejTimeout, by simp, rfl⟩
  | answered state event status =>
    exact Or.inl ⟨_, rfl, .report event status, List.mem_singleton_self _, rfl⟩
  | stopped => exact Or.inl ⟨_, rfl, .stop, List.mem_cons_self, rfl⟩

theorem ends_of_waits (h : s.core.Waits) : Ends s := by
  refine ⟨s.maxCount.toNat - s.retryCount.toNat + 1, fun is t he hn => ?_⟩
  refine exec_done_of_measure (W := fun s => s.core.Waits) (R := Ended)
    (m := fun s => s.maxCount.toNat - s.retryCount.toNat) ?_ ?_ ?_ h he hn
  · intro s i t hw ht
    exact hw.move (step_move ht)
  · intro s i t u ht hu
    exact .of_step ht hu
  · intro s t i u ht hu
    exact ht.step hu

/-! ## An attempt that does not end -/

theorem waits_again (hw : s.currentState = .wait) (ha : s.armed = true)
    (hm : 255 ≤ s.maxCount.toNat) :
    ∃ t, exec step s [.expiry, .timeout false] = some t ∧ t.log = s.log ++ [.expired] ∧
      t.currentState = .wait ∧ t.armed = true ∧ t.maxCount = s.maxCount := by
  let u : Assoc := { s.emit .expired with
    armed := false
    linked := true }
  have hu : step s .expiry = some u := if_pos ha
  obtain ⟨t, ht⟩ : ∃ t, step u (.timeout false) = some t := ⟨_, rfl⟩
  have hrun : exec step s [.expiry, .timeout false] = some t :=
    exec_cons.mpr ⟨u, hu, exec_cons.mpr ⟨t, ht, rfl⟩⟩
  generalize hc : t.core = c
  have hmove : Move u.core (.timeout false) c := hc ▸ step_move ht
  cases hmove with
  | stays hs htime => exact Bool.noConfusion htime
  | dropped hn => exact absurd hw hn
  | retried b =>
    refine ⟨t, hrun, ?_, ?_, congrArg Core.armed hc, congrArg Core.maxCount hc⟩
    · exact (congrArg Core.log hc).trans (List.append_nil _)
    · exact (congrArg Core.currentState hc).trans hw
  | gaveUp b _ _ hlt =>
    have hcount : (s.retryCount + 1).toNat < 256 := UInt8.toNat_lt _
    exact absurd (Nat.lt_of_le_of_lt hm hlt) (Nat.not_lt.mpr (Nat.le_of_lt_succ hcount))

/-- **With a limit of 255 or more the count never exceeds it**: no number of time-outs ends the
attempt. -/
theorem goes_on (hw : s.currentState = .wait) (ha : s.armed = true)
    (hm : 255 ≤ s.maxCount.toNat) (n : ℕ) :
    ∃ is t, exec step s is = some t ∧ is.countP Input.isTimeout = n ∧
      ∃ added, t.log = s.log ++ added ∧ ∀ a ∈ added, a.isEnd = false := by
  induction n generalizing s with
  | zero => exact ⟨[], s, rfl, rfl, [], (List.append_nil _).symm, nofun⟩
  | succ n ih =>
    obtain ⟨t, ht, hlog, htw, hta, htm⟩ := waits_again hw ha hm
    obtain ⟨is, u, hu, hn, added, hadded, hend⟩ := ih htw hta (by rw [htm]; exact hm)
    refine ⟨[.expiry, .timeout false] ++ is, u, exec_append.mpr ⟨t, ht, hu⟩, ?_,
      .expired :: added, ?_, List.forall_mem_cons.mpr ⟨rfl, hend⟩⟩
    · rw [List.countP_append, hn, Nat.add_comm]
      rfl
    · rw [hadded, hlog, List.append_assoc]
      rfl

theorem not_ends (hw : s.currentState = .wait) (ha : s.armed = true)
    (hm : 255 ≤ s.maxCount.toNat) : ¬ Ends s := by
  rintro ⟨n, h⟩
  obtain ⟨is, t, ht, hn, added, hadded, hnone⟩ := goes_on hw ha hm n
  obtain ⟨added', hadded', a, ha', hend⟩ := h is t ht (Nat.le_of_eq hn.symm)
  obtain rfl := List.append_cancel_left (hadded.symm.trans hadded')
  exact absurd (hnone a ha') (by rw [hend]; decide)

/-! ## A step that does not fit -/

variable {l : List Act}

theorem not_waited_request (b : Bool) : ¬ Waited (l ++ [.request b]) := by
  intro h
  unfold Waited at h
  rw [since_snoc_of_other rfl] at h
  obtain ⟨a, ha, -⟩ := h (since Act.isStart l) (.request b) [] rfl rfl
  cases ha

theorem waited_of_timeout (h : Attempts s)
    (hl : s.log = l ++ [.report .maxRetry statusPacketRejTimeout]) : Waited l :=
  h.waited l _ [] hl rfl

theorem not_waited_stale (hr : requestsOf l ≠ 0)
    (he : ∀ a ∈ since Act.isStart l, a.isExpired = false) : ¬ Waited l := by
  intro h
  obtain ⟨a, ha, hreq⟩ := List.countP_pos_iff.mp (Nat.pos_of_ne_zero hr)
  obtain ⟨p, q, hpq⟩ := List.append_of_mem ha
  obtain ⟨b, hb, hexp⟩ := h p a q hpq hreq
  have hmem : b ∈ since Act.isStart l := hpq ▸ List.mem_append_right p (List.mem_cons_of_mem a hb)
  exact absurd (he b hmem) (by rw [hexp]; decide)

theorem start_breaks (reAssoc sent : Bool) (hn : ¬ s.core.Fits (.start reAssoc sent)) :
    ∃ t, step s (.start reAssoc sent) = some t ∧ ¬ Attempts t := by
  obtain ⟨t, ht⟩ : ∃ t, step s (.start reAssoc sent) = some t := by
    cases reAssoc <;> exact ⟨_, rfl⟩
  refine ⟨t, ht, fun ha => hn fun hi => ?_⟩
  generalize hc : t.core = c
  have hmove : Move s.core (.start reAssoc sent) c := hc ▸ step_move ht
  cases hmove with
  | stays hs => exact absurd hi (hs rfl)
  | begun b _ hm =>
    refine ⟨?_, fun _ => hm⟩
    by_contra hlimit
    have hmax : t.maxCount = s.maxCount := congrArg Core.maxCount hc
    have hw : t.currentState = .wait := congrArg Core.currentState hc
    refine not_ends hw (congrArg Core.armed hc) ?_ (ha.ends hw)
    rw [hmax]
    exact Nat.le_of_not_lt hlimit
  | refused b _ hm =>
    refine ⟨Nat.lt_of_le_of_lt (Nat.le_of_eq hm) (by decide), fun hsent => ?_⟩
    subst hsent
    have hlog : t.log = (s.log ++ [.start] ++ [.request b]) ++
        [.report .maxRetry statusPacketRejTimeout] := by
      rw [List.append_assoc, List.append_assoc]
      exact congrArg Core.log hc
    exact absurd (waited_of_timeout ha hlog) (not_waited_request b)

theorem timeout_breaks (sent : Bool) (h : s.core.Kept) (hn : ¬ s.core.Fits (.timeout sent)) :
    ∃ t, step s (.timeout sent) = some t ∧ ¬ Attempts t := by
  have hl : s.linked = true := by
    by_contra hl
    exact hn fun _ hl' => absurd hl' hl
  obtain ⟨t, ht⟩ : ∃ t, step s (.timeout sent) = some t := ⟨_, if_pos hl⟩
  refine ⟨t, ht, fun ha => hn fun hw _ hm => ?_⟩
  generalize hc : t.core = c
  have hmove : Move s.core (.timeout sent) c := hc ▸ step_move ht
  cases hmove with
  | stays _ htime => exact Bool.noConfusion htime
  | dropped hnw => exact absurd hw hnw
  | retried b _ _ hle =>
    rw [h.retryCount_succ hw] at hle
    exact absurd (Nat.lt_of_lt_of_le hle hm) (Nat.lt_irrefl _)
  | gaveUp b =>
    cases sent with
    | true =>
      have hlog : t.log = (s.log ++ [.request b]) ++
          [.report .maxRetry statusPacketRejTimeout] := by
        rw [List.append_assoc]
        exact congrArg Core.log hc
      exact absurd (waited_of_timeout ha hlog) (not_waited_request b)
    | false =>
      refine ⟨rfl, fun harm => ?_⟩
      by_contra hsome
      have hwaited : Waited s.log := waited_of_timeout ha (congrArg Core.log hc)
      exact not_waited_stale hsome (h.stale hw harm hl) hwaited

theorem breaks (h : s.core.Kept) (hn : ¬ s.core.Fits i) :
    ∃ t, step s i = some t ∧ ¬ Attempts t := by
  cases i with
  | start reAssoc sent => exact start_breaks reAssoc sent hn
  | timeout sent => exact timeout_breaks sent h hn
  | stop | setDisAssocFlag | saveResp | recv | expiry => exact absurd trivial hn

theorem attempts_of_kept (h : s.core.Kept) : Attempts s where
  reported := h.reported
  open_iff := h.open_iff
  armed := h.armed
  timed := h.timed
  bounded := h.bounded
  waited := h.waited
  ends hw := ends_of_waits ⟨hw, h.limit hw, h.count hw⟩

/-- **Exactly when the attempts of a run are as they should be**, for every retry limit and every
order of calls, responses and time-outs. -/
theorem attempts_iff (maxCount : UInt32) (is : List Input) :
    (∀ js t, js <+: is → exec step (.init maxCount) js = some t → Attempts t) ↔
      Along step (fun s i => s.core.Fits i) (.init maxCount) is :=
  along_iff_of_breaks (I := fun s => s.core.Kept) (fun _ h => attempts_of_kept h)
    (fun _ _ _ h hf ht => h.move hf (step_move ht)) (fun _ _ h hn => breaks h hn)
    (Core.Kept.init maxCount)

/-- The retry limit is 2, every request is sent and no response comes: the third request is sent,
and given up at once. -/
theorem one_request_too_many :
    ∃ js t, exec step (.init 2) js = some t ∧
      t.log = [.start, .request false, .expired, .request false, .expired, .request false,
        .report .maxRetry statusPacketRejTimeout] ∧
      ¬ Attempts t := by
  refine ⟨[.start false true, .expiry, .timeout true, .expiry, .timeout true], _, rfl, rfl, ?_⟩
  intro h
  have hthree : 3 ≤ 2 := h.bounded
  exact absurd hthree (by decide)

end ArchosGpl.Wlan.AssocSm
