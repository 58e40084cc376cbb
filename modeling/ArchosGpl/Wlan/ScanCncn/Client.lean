import ArchosGpl.Wlan.ScanCncn.Model

/-!
# One final callback for every scan that is running

A start that is answered with `SCAN_RUNNING` is followed by one final callback of the client, every
other start by none; the client has a request or a grant at the serving channel resource while its
state machine is not idle; and a start that is refused while a scan is running leaves the
parameters and the result of that scan alone (`Protocol`).

The code breaks this in three ways. A start stores its parameters and resets the result before it
asks the state machine, which then marks the result as failed: a refused start spoils the scan that
is running. The action of a firmware reset does not release the resource, as the other two ends of
a scan do. And the state machine has room for one event: a start from inside a final callback is
lost if the client calls again from there.

**`one_final_callback`**: in every run whose steps avoid these three (`Keeps`), the protocol holds
in every state. `refused_start_spoils` has a run for each.
-/

namespace ArchosGpl.Wlan.ScanCncn

open Lib

variable {P : Type*}

/-! ## What is to hold -/

/-- A start that is answered with `SCAN_RUNNING`. -/
def Act.isRunning : Act P → Bool
  | .started _ _ .scanRunning => true
  | _ => false

def Act.isFinal : Act P → Bool
  | .finalCb .. => true
  | _ => false

/-- A scan is running: no final callback came after its start. -/
def Outstanding (log : List (Act P)) : Prop :=
  ∃ b ∈ since Act.isFinal log, b.isRunning = true

/-- A final callback finds a running scan, a start that is answered with `SCAN_RUNNING` none, and a
start that is refused while a scan is running leaves everything as it was. -/
structure InOrder (past : List (Act P)) (b : Act P) : Prop where
  final : b.isFinal = true → Outstanding past
  running : b.isRunning = true → ¬ Outstanding past
  refused : Outstanding past → ∀ before after answer, b = .started before after answer →
    answer ≠ .scanRunning → after = before

/-! ## The log -/

section Log

variable {log : List (Act P)} {b : Act P}

theorem outstanding_snoc (hr : b.isRunning = false) (hf : b.isFinal = false) :
    Outstanding (log ++ [b]) ↔ Outstanding log := by
  simp [Outstanding, since_snoc_of_other hf, hr]

theorem outstanding_running (hr : b.isRunning = true) (hf : b.isFinal = false) :
    Outstanding (log ++ [b]) := by
  rw [Outstanding, since_snoc_of_other hf]
  exact ⟨b, by simp, hr⟩

theorem not_outstanding_final (hf : b.isFinal = true) : ¬ Outstanding (log ++ [b]) := by
  rw [Outstanding, since_snoc_of_mark hf]
  simp

theorem not_outstanding_nil : ¬ Outstanding ([] : List (Act P)) := by
  simp [Outstanding, since]

theorem answered_of_not_outstanding (h : ¬ Outstanding log) :
    Answered (fun b => b.isRunning = true) (fun b => b.isFinal = true) log := by
  refine .of_since ?_ fun b hb hr => h ⟨b, hb, hr⟩
  intro b hf hr
  cases b with
  | finalCb => cases hr
  | _ => cases hf

theorem InOrder.not_running {before after : Shown P} {answer : EScanCncnResultStatus}
    (ha : answer ≠ .scanRunning) (h : Outstanding log → after = before) :
    InOrder log (.started before after answer) where
  final hf := nomatch hf
  running hr := by
    cases answer <;> first | exact absurd rfl ha | cases hr
  refused ho := by
    rintro _ _ _ heq -
    cases heq
    exact h ho

theorem InOrder.started {before after : Shown P} (h : ¬ Outstanding log) :
    InOrder log (.started before after .scanRunning) where
  final hf := nomatch hf
  running _ := h
  refused ho := absurd ho h

theorem InOrder.final_of {eStatus : EScanCncnResultStatus} {uSpsStatus : ℕ} (h : Outstanding log) :
    InOrder log (.finalCb eStatus uSpsStatus) where
  final _ := h
  running hr := nomatch hr
  refused _ := by
    rintro _ _ _ heq
    cases heq

theorem InOrder.silent (hr : b.isRunning = false) (hf : b.isFinal = false)
    (hs : ∀ before after answer, b ≠ .started before after answer) : InOrder log b where
  final h := absurd (hf.symm.trans h) (by simp)
  running h := absurd (hr.symm.trans h) (by simp)
  refused _ := by
    rintro before after answer heq
    exact absurd heq (hs before after answer)

end Log

namespace Sys

variable {c : EScanCncnClient} {s t : Sys P} {a : Answers P} {as : List (Answers P)}

/-- **The protocol of a client**, read from the log: while it is not idle it has a running scan,
which is still to be answered. -/
structure Protocol (s : Sys P) : Prop where
  running : Outstanding s.log ↔ s.smState ≠ .idle
  answered : s.smState = .idle →
    Answered (fun b => b.isRunning = true) (fun b => b.isFinal = true) s.log
  inOrder : Each InOrder s.log
  atScr : s.atScr = true ↔ s.smState ≠ .idle

/-! ## The invariant -/

structure Inv (s : Sys P) : Prop where
  inOrder : Each InOrder s.log
  atScr : s.atScr = true ↔ s.smState ≠ .idle
  due : Outstanding s.log ↔ s.smState ≠ .idle
  bInRequest : s.bInRequest = false
  pending : s.pending = none

theorem Inv.protocol (h : s.Inv) : s.Protocol where
  running := h.due
  answered hs := answered_of_not_outstanding fun ho => h.due.mp ho hs
  inOrder := h.inOrder
  atScr := h.atScr

theorem inv_init (uScanParams : UScanParams P) : (init uScanParams).Inv where
  inOrder := each_nil
  atScr := by simp [init]
  due := by simp [init, not_outstanding_nil]
  bInRequest := rfl
  pending := rfl

/-- What holds before each event that is executed, outside a request. A start waits only where its
client called from inside the final callback. -/
structure Mid (s : Sys P) : Prop where
  inOrder : Each InOrder s.log
  atScr : s.atScr = true ↔ s.smState ≠ .idle
  bInRequest : s.bInRequest = false
  due : s.pending ≠ some .start → (Outstanding s.log ↔ s.smState ≠ .idle)
  start : s.pending = some .start → s.smState = .idle ∧ Outstanding s.log
  recovery : s.pending = some .recovery → s.smState = .idle ∨ s.smState = .scrWait

theorem Mid.inv (h : s.Mid) (hp : s.pending = none) : s.Inv :=
  ⟨h.inOrder, h.atScr, h.due (by simp [hp]), h.bInRequest, hp⟩

theorem Inv.send (h : s.Inv) {e : SmEvent} (hstart : e ≠ .start)
    (hrec : e = .recovery → s.smState = .idle ∨ s.smState = .scrWait) : (s.send e).Mid :=
  ⟨h.inOrder, h.atScr, h.bInRequest, fun _ => h.due, fun he => absurd (Option.some.inj he) hstart,
    fun he => hrec (Option.some.inj he)⟩

theorem Inv.mid (h : s.Inv) : s.Mid :=
  ⟨h.inOrder, h.atScr, h.bInRequest, fun _ => h.due, fun he => by simp [h.pending] at he,
    fun he => by simp [h.pending] at he⟩

/-! ## The calls from inside the final callback -/

/-- A start with channels is the last call that the client makes from inside a final callback. -/
def StartLast : List (ClientCall P) → Prop
  | [] => True
  | .start req :: calls => if req.numOfChannels = 0 then StartLast calls else calls = []
  | .stop :: calls => StartLast calls

/-- **The calls of the client leave at most one start in the slot.** -/
theorem mid_calls {calls : List (ClientCall P)} (hcalls : StartLast calls)
    (hlog : Each InOrder s.log) (hscr : s.atScr = false) (hreq : s.bInRequest = false)
    (hidle : s.smState = .idle) (hout : ¬ Outstanding s.log)
    (hp : s.pending = none ∨ s.pending = some .stop) : (calls.foldl (clientCall c) s).Mid := by
  induction calls generalizing s with
  | nil =>
    refine ⟨hlog, by simp [hscr, hidle], hreq, fun _ => by simp [hout, hidle], ?_, ?_⟩
    · intro he
      rcases hp with hp | hp <;> simp [hp] at he
    · intro he
      rcases hp with hp | hp <;> simp [hp] at he
  | cons call calls ih =>
    rw [List.foldl_cons]
    cases call with
    | stop => exact ih hcalls hlog hscr hreq hidle hout (.inr rfl)
    | start req =>
      simp only [StartLast] at hcalls
      simp only [clientCall, startCall]
      split
      · rename_i hnone
        rw [if_pos hnone] at hcalls
        refine ih hcalls (each_snoc.mpr ⟨hlog, .not_running (by simp) fun ho => absurd ho hout⟩) hscr
          hreq hidle ?_ hp
        rwa [emit, outstanding_snoc rfl rfl]
      · rename_i hsome
        rw [if_neg hsome] at hcalls
        subst hcalls
        refine ⟨each_snoc.mpr ⟨hlog, .started hout⟩, by simp [hscr, hidle, emit, send], hreq,
          fun he => absurd rfl he, fun _ => ⟨hidle, outstanding_running rfl rfl⟩, fun he => ?_⟩
        cases he

theorem mid_finalCb (hcalls : StartLast a.calls) (hlog : Each InOrder s.log)
    (hscr : s.atScr = false) (hreq : s.bInRequest = false) (hidle : s.smState = .idle)
    (hout : Outstanding s.log) (hp : s.pending = none) : (s.finalCb c a).Mid := by
  rw [finalCb, if_neg (by simp [hreq])]
  exact mid_calls hcalls (each_snoc.mpr ⟨hlog, .final_of hout⟩) hscr hreq hidle
    (not_outstanding_final rfl) (.inl hp)

/-! ## One event outside a request -/

section Actions

variable (hlog : Each InOrder s.log) (hreq : s.bInRequest = false) (hp : s.pending = none)
include hlog hreq hp

theorem mid_rest (hscr : s.atScr = true ↔ s.smState ≠ .idle)
    (hdue : Outstanding s.log ↔ s.smState ≠ .idle) : s.Mid :=
  ⟨hlog, hscr, hreq, fun _ => hdue, fun he => by simp [hp] at he, fun he => by simp [hp] at he⟩

theorem mid_scrRequest (hs : s.smState = .scrWait) (hout : Outstanding s.log) :
    (s.scrRequest c a).Mid := by
  have hwait : ∀ e, e ≠ .start → e ≠ .recovery → ∀ eScanResult,
      ({ s with atScr := true, eScanResult := eScanResult, pending := some e } : Sys P).Mid := by
    intro e hstart hrec eScanResult
    exact ⟨hlog, by simp [hs], hreq, fun _ => by simp [hout, hs],
      fun he => absurd (Option.some.inj he) hstart, fun he => absurd (Option.some.inj he) hrec⟩
  simp only [scrRequest]
  cases a.scrReply with
  | run => exact hwait .run (by simp) (by simp) s.eScanResult
  | unrecognized => exact hwait .reject (by simp) (by simp) .scanFailed
  | pend reason =>
    simp only
    split
    · exact hwait .reject (by simp) (by simp) .scanFailed
    · exact ⟨hlog, by simp [hs], hreq, fun _ => by simp [hout, hs], fun he => by simp [hp] at he,
        fun he => by simp [hp] at he⟩

theorem mid_startScan (hs : s.smState = .scanning) (hscr : s.atScr = true)
    (hout : Outstanding s.log) : (s.startScan a).Mid := by
  have hlog' : Each InOrder (s.log ++ [.twdStartScan]) :=
    each_snoc.mpr ⟨hlog, .silent rfl rfl (by simp)⟩
  have hout' : Outstanding (s.log ++ [.twdStartScan]) := (outstanding_snoc rfl rfl).mpr hout
  simp only [startScan]
  split
  · exact ⟨hlog', by simp [emit, hs, hscr], hreq, fun _ => by simp [emit, hout', hs],
      fun he => by simp [emit, hp] at he, fun he => by simp [emit, hp] at he⟩
  · exact ⟨hlog', by simp [emit, send, hs, hscr], hreq, fun _ => by simp [emit, send, hout', hs],
      fun he => (nomatch he), fun he => (nomatch he)⟩

theorem mid_stopScan (hs : s.smState = .stopping) (hscr : s.atScr = true)
    (hout : Outstanding s.log) : (s.stopScan c a).Mid := by
  have hlog' : ∀ b, Each InOrder (s.log ++ [.twdStopScan b]) := fun b =>
    each_snoc.mpr ⟨hlog, .silent rfl rfl (by simp)⟩
  have hout' : ∀ b, Outstanding (s.log ++ [.twdStopScan b]) := fun b =>
    (outstanding_snoc rfl rfl).mpr hout
  simp only [stopScan]
  split
  · exact ⟨hlog' _, by simp [emit, hs, hscr], hreq, fun _ => by simp [emit, hout', hs],
      fun he => by simp [emit, hp] at he, fun he => by simp [emit, hp] at he⟩
  · exact ⟨hlog' _, by simp [emit, send, hs, hscr], hreq, fun _ => by simp [emit, send, hout', hs],
      fun he => (nomatch he), fun he => (nomatch he)⟩

end Actions

/-- **One event keeps what holds before each event**, by the states and the events of the matrix. -/
theorem Mid.execute {e : SmEvent} (h : s.Mid) (hp : s.pending = some e)
    (hcalls : StartLast a.calls) : (s.execute c a e).Mid := by
  have hrest : ∀ {smState}, s.smState = smState → ∀ eScanResult, e ≠ .start →
      ({ s with pending := none, smState := smState, eScanResult := eScanResult } : Sys P).Mid := by
    rintro _ rfl eScanResult he
    exact mid_rest h.inOrder h.bInRequest rfl h.atScr (h.due (by simp [hp, he]))
  have hout : e ≠ .start → s.smState ≠ .idle → Outstanding s.log := fun he hs =>
    (h.due (by simp [hp, he])).mpr hs
  have hfinish : ∀ bScanRejectedOn2_4, e ≠ .start → s.smState ≠ .idle →
      (({ s with
        pending := none
        smState := .idle
        bScanRejectedOn2_4 := bScanRejectedOn2_4 } : Sys P).scrRelease.finalCb c a).Mid :=
    fun _ he hs => mid_finalCb hcalls h.inOrder rfl h.bInRequest rfl (hout he hs) rfl
  unfold Sys.execute
  cases e with
  | start =>
    obtain ⟨hs, ho⟩ := h.start hp
    rw [hs]
    exact mid_scrRequest h.inOrder h.bInRequest rfl rfl ho
  | run =>
    cases hs : s.smState with
    | scrWait =>
      exact mid_startScan h.inOrder h.bInRequest rfl rfl (h.atScr.mpr (by simp [hs]))
        (hout (by simp) (by simp [hs]))
    | _ => exact hrest hs .scanFailed (by simp)
  | scanComplete =>
    cases hs : s.smState with
    | scanning | stopping => exact hfinish _ (by simp) (by simp [hs])
    | _ => exact hrest hs .scanFailed (by simp)
  | stop =>
    cases hs : s.smState with
    | idle => exact hrest hs .scanFailed (by simp)
    | scrWait => exact hfinish _ (by simp) (by simp [hs])
    | scanning =>
      exact mid_stopScan h.inOrder h.bInRequest rfl rfl (h.atScr.mpr (by simp [hs]))
        (hout (by simp) (by simp [hs]))
    | stopping => exact hrest hs s.eScanResult (by simp)
  | abort =>
    cases hs : s.smState with
    | scanning =>
      exact mid_stopScan h.inOrder h.bInRequest rfl rfl (h.atScr.mpr (by simp [hs]))
        (hout (by simp) (by simp [hs]))
    | stopping => exact hrest hs s.eScanResult (by simp)
    | _ => exact hrest hs .scanFailed (by simp)
  | recovery =>
    have hwhere := h.recovery hp
    cases hs : s.smState with
    | idle | scrWait => exact hrest hs .scanFailed (by simp)
    | _ => simp [hs] at hwhere
  | reject =>
    cases hs : s.smState with
    | scrWait => exact hfinish _ (by simp) (by simp [hs])
    | _ => exact hrest hs .scanFailed (by simp)

theorem Mid.run (h : s.Mid) (hcalls : ∀ a ∈ as, StartLast a.calls)
    (hrun : run c as s = some t) : t.Inv := by
  induction as generalizing s with
  | nil =>
    simp only [Sys.run] at hrun
    split at hrun
    · rename_i hp
      cases hrun
      exact h.inv (Option.isNone_iff_eq_none.mp hp)
    · cases hrun
  | cons a as ih =>
    obtain ⟨ha, hcalls⟩ := List.forall_mem_cons.mp hcalls
    rw [Sys.run] at hrun
    split at hrun
    · rename_i hp
      cases hrun
      exact h.inv hp
    · rename_i e hp
      exact ih (h.execute hp ha) hcalls hrun

/-! ## The events of a start request -/

/-- What the slot and the result have to do with the state while an idle client is started: the scan
fails before the event that ends it is sent. -/
def Fits (smState : SmState) (eScanResult : EScanCncnResultStatus) : Option SmEvent → Prop
  | none => smState ≠ .idle ∧ eScanResult = .scanCompleteOk ∨
      smState = .idle ∧ eScanResult = .scanFailed
  | some .start => smState = .idle ∧ eScanResult = .scanCompleteOk
  | some .run => smState = .scrWait ∧ eScanResult = .scanCompleteOk
  | some .reject => smState = .scrWait ∧ eScanResult = .scanFailed
  | some .scanComplete => smState = .scanning ∧ eScanResult = .scanFailed
  | some _ => False

/-- What holds before each event of a start request to an idle client. -/
structure Requested (s : Sys P) : Prop where
  inOrder : Each InOrder s.log
  atScr : s.atScr = true ↔ s.smState ≠ .idle
  fresh : ¬ Outstanding s.log
  bInRequest : s.bInRequest = true
  fits : Fits s.smState s.eScanResult s.pending

theorem requested_finalCb (hlog : Each InOrder s.log) (hfresh : ¬ Outstanding s.log)
    (hreq : s.bInRequest = true) (hs : s.smState = .idle) (hscr : s.atScr = false)
    (hp : s.pending = none) (hfailed : s.eScanResult = .scanFailed) : (s.finalCb c a).Requested := by
  rw [finalCb, if_pos hreq]
  refine ⟨hlog, by simp [hs, hscr], hfresh, hreq, ?_⟩
  rw [hp]
  exact .inr ⟨hs, hfailed⟩

theorem Requested.execute {e : SmEvent} (h : s.Requested) (hp : s.pending = some e) :
    (s.execute c a e).Requested := by
  have hfits := h.fits
  rw [hp] at hfits
  unfold Sys.execute
  cases e with
  | start =>
    obtain ⟨hs, hok⟩ := hfits
    rw [hs]
    show (scrRequest c a { s with pending := none, smState := .scrWait }).Requested
    simp only [scrRequest]
    cases a.scrReply with
    | run => exact ⟨h.inOrder, by simp [send], h.fresh, h.bInRequest, rfl, hok⟩
    | unrecognized => exact ⟨h.inOrder, by simp [reject, send], h.fresh, h.bInRequest, rfl, rfl⟩
    | pend reason =>
      simp only
      split
      · exact ⟨h.inOrder, by simp [reject, send], h.fresh, h.bInRequest, rfl, rfl⟩
      · exact ⟨h.inOrder, by simp, h.fresh, h.bInRequest, .inl ⟨nofun, hok⟩⟩
  | run =>
    obtain ⟨hs, hok⟩ := hfits
    have hscr : s.atScr = true := h.atScr.mpr (by simp [hs])
    have hlog : Each InOrder (s.log ++ [.twdStartScan]) :=
      each_snoc.mpr ⟨h.inOrder, .silent rfl rfl (by simp)⟩
    have hfresh : ¬ Outstanding (s.log ++ [.twdStartScan]) := by
      rw [outstanding_snoc rfl rfl]
      exact h.fresh
    rw [hs]
    show (startScan a { s with pending := none, smState := .scanning }).Requested
    simp only [startScan]
    split
    · exact ⟨hlog, by simp [emit, hscr], hfresh, h.bInRequest, .inl ⟨nofun, hok⟩⟩
    · exact ⟨hlog, by simp [emit, send, hscr], hfresh, h.bInRequest, rfl, rfl⟩
  | scanComplete | reject =>
    obtain ⟨hs, hfailed⟩ := hfits
    rw [hs]
    exact requested_finalCb h.inOrder h.fresh h.bInRequest rfl rfl rfl hfailed
  | stop | abort | recovery => exact absurd hfits id

theorem Requested.run (h : s.Requested) (hrun : run c as s = some t) :
    t.Requested ∧ t.pending = none := by
  induction as generalizing s with
  | nil =>
    simp only [Sys.run] at hrun
    split at hrun
    · rename_i hp
      cases hrun
      exact ⟨h, Option.isNone_iff_eq_none.mp hp⟩
    · cases hrun
  | cons a as ih =>
    rw [Sys.run] at hrun
    split at hrun
    · rename_i hp
      cases hrun
      exact ⟨h, hp⟩
    · rename_i e hp
      exact ih (h.execute hp) hrun

/-- **A start request to an idle client** is answered with `SCAN_RUNNING` if the client is not idle
any more. -/
theorem Requested.returns (h : s.Requested) (hp : s.pending = none) (before : Shown P) :
    (({ s with bInRequest := false } : Sys P).emit
      (.started before s.shown s.startAnswer)).Inv := by
  have hfits := h.fits
  rw [hp] at hfits
  obtain ⟨hs, hok⟩ | ⟨hs, hfailed⟩ := hfits
  · have hanswer : s.startAnswer = .scanRunning := if_neg (by simp [hok])
    rw [hanswer]
    refine ⟨each_snoc.mpr ⟨h.inOrder, .started h.fresh⟩, h.atScr, ?_, rfl, hp⟩
    exact ⟨fun _ => hs, fun _ => outstanding_running rfl rfl⟩
  · have hanswer : s.startAnswer = .scanFailed := by simp [startAnswer, hfailed]
    rw [hanswer]
    refine ⟨each_snoc.mpr ⟨h.inOrder, .not_running (by simp) fun ho => absurd ho h.fresh⟩, h.atScr,
      ?_, rfl, hp⟩
    rw [emit, outstanding_snoc rfl rfl]
    exact ⟨fun ho => absurd ho h.fresh, fun hne => absurd hs hne⟩

/-! ## One step -/

/-- The steps that keep the protocol: a start while a scan is running changes nothing; no firmware
reset comes while a scan is running; and a start is the last call from inside a final callback. -/
def Keeps (s : Sys P) (i : Input P × List (Answers P)) : Prop :=
  (∀ a ∈ i.2, StartLast a.calls) ∧
    match i.1 with
    | .start req => s.smState ≠ .idle →
      req.uScanParams = s.uScanParams ∧ (req.numOfChannels = 0 ∨ s.eScanResult = .scanFailed)
    | .scrCb .fwReset => s.smState = .idle ∨ s.smState = .scrWait
    | _ => True

theorem run_of_none (hp : s.pending = none) : run c as s = some s := by
  cases as with
  | nil => exact if_pos (by simp [hp])
  | cons a as => simp [run, hp]

theorem Inv.refused (h : s.Inv) : (s.emit (.started s.shown s.shown .scanFailed)).Inv := by
  refine ⟨each_snoc.mpr ⟨h.inOrder, .not_running (by simp) fun _ => rfl⟩, h.atScr, ?_, h.bInRequest,
    h.pending⟩
  rw [emit, outstanding_snoc rfl rfl]
  exact h.due

theorem Inv.start_idle {req : Request P} (h : s.Inv) (hs : s.smState = .idle)
    (hstart : s.start c as req = some t) : t.Inv := by
  have hfresh : ¬ Outstanding s.log := fun ho => h.due.mp ho hs
  simp only [Sys.start] at hstart
  split at hstart
  · cases hstart
    refine ⟨each_snoc.mpr ⟨h.inOrder, .not_running (by simp) fun ho => absurd ho hfresh⟩, h.atScr, ?_,
      h.bInRequest, h.pending⟩
    rw [emit, outstanding_snoc rfl rfl]
    exact h.due
  · obtain ⟨u, hrun, rfl⟩ := Option.map_eq_some_iff.mp hstart
    have hbegin : (({ s with
        uScanParams := req.uScanParams
        bInRequest := true
        eScanResult := .scanCompleteOk } : Sys P).send .start).Requested :=
      ⟨h.inOrder, h.atScr, hfresh, rfl, hs, rfl⟩
    obtain ⟨hend, hp⟩ := hbegin.run hrun
    exact hend.returns hp s.shown

theorem run_start_busy (hs : s.smState ≠ .idle) (hp : s.pending = some .start)
    (hrun : run c as s = some t) : t = { s with pending := none, eScanResult := .scanFailed } := by
  have hexec : ∀ a, s.execute c a .start = { s with pending := none, eScanResult := .scanFailed } := by
    intro a
    unfold Sys.execute
    cases h : s.smState with
    | idle => exact absurd h hs
    | _ => simp [tSmMatrix, act, ← h]
  cases as with
  | nil => simp [run, hp] at hrun
  | cons a as =>
    simp only [run, hp] at hrun
    rw [hexec, run_of_none rfl] at hrun
    exact (Option.some.inj hrun).symm

theorem Inv.start_busy {req : Request P} (h : s.Inv) (hs : s.smState ≠ .idle)
    (hparams : req.uScanParams = s.uScanParams)
    (hresult : req.numOfChannels = 0 ∨ s.eScanResult = .scanFailed)
    (hstart : s.start c as req = some t) : t.Inv := by
  simp only [Sys.start, hparams] at hstart
  split at hstart
  · cases hstart
    exact h.refused
  · rename_i hsome
    obtain ⟨u, hrun, rfl⟩ := Option.map_eq_some_iff.mp hstart
    obtain rfl := run_start_busy (s := _) (by exact hs) rfl hrun
    have hfailed := hresult.resolve_left hsome
    have heq : ({ s with
        pending := none
        bInRequest := false
        eScanResult := .scanFailed } : Sys P) = s := by
      rw [← hfailed, ← h.pending, ← h.bInRequest]
    have hshown : s.shown = ⟨s.uScanParams, .scanFailed⟩ := by rw [shown, hfailed]
    show (emit { s with pending := none, bInRequest := false, eScanResult := .scanFailed }
      (.started s.shown ⟨s.uScanParams, .scanFailed⟩ .scanFailed)).Inv
    rw [heq, ← hshown]
    exact h.refused

theorem Inv.start {req : Request P} (h : s.Inv) (hkeep : s.Keeps (.start req, as))
    (hstart : s.start c as req = some t) : t.Inv := by
  by_cases hs : s.smState = .idle
  · exact h.start_idle hs hstart
  · obtain ⟨hparams, hresult⟩ := hkeep.2 hs
    exact h.start_busy hs hparams hresult hstart

theorem Inv.stopCall (h : s.Inv) : (s.stopCall c).Mid :=
  Inv.send (s := setResult { s with bSendNullDataOnStop := _ } .scanStopped)
    ⟨h.inOrder, h.atScr, h.due, h.bInRequest, h.pending⟩ (by simp) (by simp)

theorem Inv.setResult (h : s.Inv) (eStatus : EScanCncnResultStatus) : (s.setResult eStatus).Inv :=
  ⟨h.inOrder, h.atScr, h.due, h.bInRequest, h.pending⟩

theorem Inv.reject (h : s.Inv) : s.reject.Mid :=
  Inv.send (s := { s with eScanResult := .scanFailed })
    ⟨h.inOrder, h.atScr, h.due, h.bInRequest, h.pending⟩ (by simp) (by simp)

theorem Inv.scrCb {status : ScrStatus} (h : s.Inv)
    (hreset : status = .fwReset → s.smState = .idle ∨ s.smState = .scrWait) :
    (s.scrCb c status).Mid := by
  cases status with
  | run => exact h.send (by simp) (by simp)
  | fwReset => exact (h.setResult _).send (by simp) fun _ => hreset rfl
  | pend reason =>
    cases c with
    | appPeriodic => exact h.mid
    | appOneShot => exact h.mid
    | _ =>
      simp only [Sys.scrCb]
      split
      · exact h.reject
      · exact h.mid
  | abort =>
    have habort : ((({ s with bSendNullDataOnStop := false } : Sys P).setResult
        .scanAbortedHigherPriority).send .abort).Mid :=
      Inv.send (s := Sys.setResult { s with bSendNullDataOnStop := false } .scanAbortedHigherPriority)
        ⟨h.inOrder, h.atScr, h.due, h.bInRequest, h.pending⟩ (by simp) (by simp)
    cases c with
    | roamingImmed => exact h.mid
    | driver => exact h.mid
    | roamingCont => exact habort
    | appPeriodic => exact habort
    | appOneShot => exact habort

theorem Inv.awaitResults (h : s.Inv) (uResultCount : ℕ) : (s.awaitResults uResultCount).Mid := by
  have hexpected : ∀ n, ({ s with uResultExpectedNumber := n } : Sys P).Inv := fun _ =>
    ⟨h.inOrder, h.atScr, h.due, h.bInRequest, h.pending⟩
  simp only [Sys.awaitResults]
  split
  · exact (hexpected _).send (by simp) (by simp)
  · exact Inv.mid ⟨h.inOrder, h.atScr, h.due, h.bInRequest, h.pending⟩

theorem Inv.scanCompleteNotificationCb (h : s.Inv) (uResultCount spsStatus : ℕ)
    (bTsfError bOk : Bool) :
    (s.scanCompleteNotificationCb uResultCount spsStatus bTsfError bOk).Mid := by
  have hsps : ∀ u : Sys P, u.Inv → (if u.uScanParams.bSps then
      { u with
        uSpsScanResult := spsStatus
        eScanResult := if bTsfError then .tsfError else u.eScanResult }
      else u).Inv := by
    intro u hu
    split
    · exact ⟨hu.inOrder, hu.atScr, hu.due, hu.bInRequest, hu.pending⟩
    · exact hu
  refine (hsps _ ?_).awaitResults uResultCount
  split
  · exact h
  · exact h.setResult _

theorem Inv.step {i : Input P × List (Answers P)} (h : s.Inv) (hkeep : s.Keeps i)
    (hstep : s.step c i = some t) : t.Inv := by
  obtain ⟨i, as⟩ := i
  have hcalls := hkeep.1
  cases i with
  | start req => exact h.start hkeep hstep
  | stop => exact h.stopCall.run hcalls hstep
  | scrCb status =>
    refine (h.scrCb fun hreset => ?_).run hcalls hstep
    subst hreset
    exact hkeep.2
  | scanCompleteNotificationCb uResultCount spsStatus bTsfError bOk =>
    exact (h.scanCompleteNotificationCb uResultCount spsStatus bTsfError bOk).run hcalls hstep
  | periodicScanReportCb uResultCount | mlmeResultCb =>
    cases hstep
    exact ⟨h.inOrder, h.atScr, h.due, h.bInRequest, h.pending⟩
  | periodicScanCompleteCb uResultCount => exact (h.awaitResults uResultCount).run hcalls hstep
  | checkResults =>
    refine Mid.run ?_ hcalls hstep
    simp only [Sys.checkResults]
    split
    · exact h.send (by simp) (by simp)
    · exact h.mid

/-- **One final callback for every start that is answered with `SCAN_RUNNING`**, in every run of a
client whose steps keep the protocol. -/
theorem one_final_callback {uScanParams : UScanParams P} {is : List (Input P × List (Answers P))}
    (hkeeps : Along (step c) Keeps (init uScanParams) is)
    (hrun : exec (step c) (init uScanParams) is = some s) : s.Protocol :=
  (hkeeps.invariant (fun _ _ _ h hk hs => h.step hk hs) (inv_init uScanParams) hrun).protocol

/-! ## Sample runs -/

/-- Parameters that are told apart by a number, and one channel. -/
def request (n : ℕ) : Request ℕ := ⟨⟨false, n⟩, 1⟩

/-- Every action goes well, and the client calls nothing. -/
def good : Answers ℕ := ⟨.run, true, true, true, []⟩

/-- A scan that is stopped; the client starts the next one from inside the final callback. -/
def stopAndRestart : List (Input ℕ × List (Answers ℕ)) :=
  [(.start (request 1), [good, good]), (.stop, [good]),
    (.scanCompleteNotificationCb 0 0 false true, [{ good with calls := [.start (request 2)] }, good, good])]

theorem one_final_callback_stopAndRestart :
    ∃ s, exec (step .roamingCont) (init (request 0).uScanParams) stopAndRestart = some s ∧
      s.Protocol := by
  have hkeeps : Along (step .roamingCont) Keeps (init (request 0).uScanParams) stopAndRestart := by
    refine ⟨⟨by simp [good, StartLast], fun hs => absurd rfl hs⟩, fun _ h => ?_⟩
    cases h
    refine ⟨⟨by simp [good, StartLast], trivial⟩, fun _ h => ?_⟩
    cases h
    exact ⟨⟨by simp [good, StartLast, request], trivial⟩, fun _ _ => trivial⟩
  exact ⟨_, rfl, one_final_callback hkeeps rfl⟩

def startTwice : List (Input ℕ × List (Answers ℕ)) :=
  [(.start (request 1), [good, good]), (.start (request 2), [good])]

def resetWhileScanning : List (Input ℕ × List (Answers ℕ)) :=
  [(.start (request 1), [good, good]), (.scrCb .fwReset, [good])]

def startAndStop : List (Input ℕ × List (Answers ℕ)) :=
  [(.start (request 1), [good, good]),
    (.scanCompleteNotificationCb 0 0 false true,
      [{ good with calls := [.start (request 2), .stop] }, good])]

/-- A start that is refused changes the running scan; a firmware reset leaves the idle client its
grant; and a start from inside a final callback never gets its own. -/
theorem refused_start_spoils :
    (∃ s, exec (step .roamingCont) (init (request 0).uScanParams) startTwice = some s ∧
      ¬ Each InOrder s.log) ∧
    (∃ s, exec (step .roamingCont) (init (request 0).uScanParams) resetWhileScanning = some s ∧
      s.smState = .idle ∧ s.atScr = true) ∧
    ∃ s, exec (step .roamingCont) (init (request 0).uScanParams) startAndStop = some s ∧
      s.smState = .idle ∧
      ¬ Answered (fun b => b.isRunning = true) (fun b => b.isFinal = true) s.log := by
  refine ⟨⟨_, rfl, fun h => ?_⟩, ⟨_, rfl, rfl, rfl⟩, _, rfl, rfl, fun h => ?_⟩
  · have hlast := h [.twdStartScan, .started _ _ .scanRunning] (.started _ _ .scanFailed) [] rfl
    have hout : Outstanding ([.twdStartScan] ++ [.started ⟨(request 0).uScanParams, .scanCompleteOk⟩
        ⟨(request 1).uScanParams, .scanCompleteOk⟩ .scanRunning]) :=
      outstanding_running rfl rfl
    have hsame := hlast.refused hout _ _ _ rfl (by simp)
    have hparams : 2 = 1 := congrArg (fun x => x.uScanParams.rest) hsame
    omega
  · obtain ⟨b, hb, -⟩ := h [.twdStartScan, .started _ _ .scanRunning, .finalCb _ _]
      (.started _ _ .scanRunning) [] rfl rfl
    cases hb

end Sys

end ArchosGpl.Wlan.ScanCncn
