import ArchosGpl.Lib.Window
import ArchosGpl.Wlan.QosMngr.Model
import Mathlib.Algebra.Order.BigOperators.Group.Finset
import Mathlib.Data.Fintype.Basic

/-!
# The total of the admitted medium time

The TSPEC admitted on a category is the last one reported accepted, unless it was deleted or the
connection ended since (`book`). `Accounted` says that `totalAllocatedMediumTime` is the sum of
their medium times.

The code zeroes the medium time of a TSPEC before it subtracts it, adds that of an accepted one
without subtracting that of the one it replaces, and keeps the total in 16 bits. What a step books
is its `Booking`; **`accounted_iff`**: the total is right in every state of a run exactly if every
step is `BooksExactly`.
-/

open Function (update update_of_ne update_self)

namespace ArchosGpl.Wlan.QosMngr

open Lib

instance : Fintype EAcTrfcType := ⟨acs.toFinset, fun ac => by cases ac <;> decide⟩

/-! ## The medium times that were granted -/

/-- What an event makes of the medium times. -/
def book (admitted : EAcTrfcType → ℕ) : Event → EAcTrfcType → ℕ
  | .tspecStatus ac .accepted params _ => update admitted ac params.uMediumTime
  | .tspecStatus ac .deletedByAp _ _ => update admitted ac 0
  | .deleteAnswer userPriority .ok => update admitted (wmeQosTagToAcTable userPriority) 0
  | .disconnected => fun _ => 0
  | _ => admitted

/-- The medium times of the current TSPECs and of the admitted ones, and the total. -/
@[ext] structure Books where
  current : EAcTrfcType → ℕ
  admitted : EAcTrfcType → ℕ
  total : ℕ

namespace Books

def grant (b : Books) (info : TspecInfo) : Books where
  current := update b.current info.ac info.mediumTime
  admitted := update b.admitted info.ac info.mediumTime
  total := (b.total + info.mediumTime) % 2 ^ 16

def delete (b : Books) (ac : EAcTrfcType) : Books :=
  { b with
    current := update b.current ac 0
    admitted := update b.admitted ac 0 }

/-- No TSPEC is left. -/
def reset : Books := ⟨fun _ => 0, fun _ => 0, 0⟩

/-- **The total is right.** -/
def Accounted (b : Books) : Prop := b.total = ∑ ac, b.admitted ac

variable {b : Books} {infos : List TspecInfo}

theorem sum_map_le (f : EAcTrfcType → ℕ) (hnodup : (infos.map TspecInfo.ac).Nodup) :
    (infos.map fun info => f info.ac).sum ≤ ∑ ac, f ac := by
  have hsum := List.sum_toFinset f hnodup
  rw [List.map_map] at hsum
  refine le_trans (le_of_eq hsum.symm) ?_
  exact Finset.sum_le_sum_of_subset (Finset.subset_univ _)

theorem total_foldl_grant (infos : List TspecInfo) (hb : b.total < 2 ^ 16) :
    (infos.foldl grant b).total = (b.total + (infos.map TspecInfo.mediumTime).sum) % 2 ^ 16 := by
  induction infos generalizing b with
  | nil => exact (Nat.mod_eq_of_lt hb).symm
  | cons info infos ih =>
    rw [List.foldl_cons, ih (Nat.mod_lt _ (by decide)), List.map_cons, List.sum_cons]
    simp only [grant]
    omega

theorem sum_foldl_grant (hnodup : (infos.map TspecInfo.ac).Nodup) :
    ∑ ac, (infos.foldl grant b).admitted ac + (infos.map fun info => b.admitted info.ac).sum =
      ∑ ac, b.admitted ac + (infos.map TspecInfo.mediumTime).sum := by
  induction infos generalizing b with
  | nil => rfl
  | cons info infos ih =>
    rw [List.map_cons, List.nodup_cons] at hnodup
    have hsum := ih (b := b.grant info) hnodup.2
    have hothers : (infos.map fun other => (b.grant info).admitted other.ac) =
        infos.map fun other => b.admitted other.ac := by
      refine List.map_congr_left fun other ho => update_of_ne ?_ _ _
      rintro hac
      exact hnodup.1 (hac ▸ List.mem_map_of_mem ho)
    have hupdate : ∑ ac, (b.grant info).admitted ac + b.admitted info.ac =
        ∑ ac, b.admitted ac + info.mediumTime :=
      sum_update_add b.admitted (fun _ time => time) info.ac info.mediumTime
    rw [hothers] at hsum
    rw [List.foldl_cons, List.map_cons, List.sum_cons, List.map_cons, List.sum_cons]
    omega

/-- **Admissions keep the total right exactly if nothing is replaced and the total fits.** -/
theorem accounted_grant_iff (hnodup : (infos.map TspecInfo.ac).Nodup) (hb : b.total < 2 ^ 16)
    (h : b.Accounted) :
    (infos.foldl grant b).Accounted ↔ (∀ info ∈ infos, b.admitted info.ac = 0) ∧
      b.total + (infos.map TspecInfo.mediumTime).sum < 2 ^ 16 := by
  have htotal := total_foldl_grant infos hb
  have hsum := sum_foldl_grant (b := b) hnodup
  have hle := sum_map_le b.admitted hnodup
  have hzero : (∀ info ∈ infos, b.admitted info.ac = 0) ↔
      (infos.map fun info => b.admitted info.ac).sum = 0 := by
    rw [List.sum_eq_zero_iff, List.forall_mem_map]
  rw [hzero, Accounted, htotal]
  rw [Accounted] at h
  omega

theorem accounted_delete_iff {ac : EAcTrfcType} (h : b.Accounted) :
    (b.delete ac).Accounted ↔ b.admitted ac = 0 := by
  have hsum : ∑ x, (b.delete ac).admitted x + b.admitted ac = ∑ x, b.admitted x + 0 :=
    sum_update_add b.admitted (fun _ time => time) ac 0
  have htotal : (b.delete ac).total = b.total := rfl
  rw [Accounted, htotal]
  rw [Accounted] at h
  omega

end Books

namespace Sys

variable {s t : Sys} {info : TspecInfo} {ac : EAcTrfcType}

/-- The medium times that were granted, by the log. -/
def admitted (s : Sys) : EAcTrfcType → ℕ := s.log.foldl book fun _ => 0

def books (s : Sys) : Books where
  current := fun ac => (s.currentTspecInfo ac).mediumTime
  admitted := s.admitted
  total := s.totalAllocatedMediumTime

/-- An accepted TSPEC is taken: its category waits for one with its TID. -/
def Takes (s : Sys) (info : TspecInfo) : Prop :=
  (s.candidateTspecInfo info.ac).trafficAdmState = .waitAdmission ∧
    info.tid = (s.candidateTspecInfo info.ac).tid

instance : Decidable (s.Takes info) := by unfold Takes; infer_instance

/-- The TSPECs that an association response admits. -/
def renegotiated (s : Sys) (voice signal : Option TspecIe) : List TspecInfo :=
  if s.performTspecRenegotiation then
    (voice.toList.map (parseTspecIe · 0)).filter (s.Takes ·) ++
      (signal.toList.map (parseTspecIe · 0)).filter fun info =>
        s.Takes info ∧ ∀ ie ∈ voice, (parseTspecIe ie 0).ac ≠ info.ac
  else []

/-- What a step does to the medium times. -/
inductive Booking
  | grant (infos : List TspecInfo)
  | delete (ac : EAcTrfcType)
  | reset

/-- What an input does to the medium times. -/
def booking (s : Sys) : Input → Booking
  | .disconnect => .reset
  | .deleteAdmission userPriority =>
    if s.checkDelete userPriority = .ok then .delete (wmeQosTagToAcTable userPriority)
    else .grant []
  | .delts userPriority =>
    let ac := wmeQosTagToAcTable (userPriority % 8)
    if s.takesActionFrames = true ∧ (s.currentTspecInfo ac).trafficAdmState = .admitted ∧
        (s.currentTspecInfo ac).userPriority = userPriority % 8 then .delete ac
    else .grant []
  | .addtsResponse dialogToken statusCode ie =>
    let info := parseTspecIe ie statusCode
    if s.takesActionFrames = true ∧ s.dialogToken info.ac = dialogToken ∧ info.statusCode = 0 ∧
        s.currentState info.ac = .wait ∧ s.Takes info then .grant [info]
    else .grant []
  | .setSite _ voice signal | .checkTspecRenegResults voice signal =>
    .grant (s.renegotiated voice signal)
  | _ => .grant []

/-- **The condition under which a step keeps the total right.** -/
def BooksExactly (s : Sys) (i : Input) : Prop :=
  match s.booking i with
  | .grant infos =>
    -- no TSPEC with a medium time is replaced, and the total fits 16 bits
    (∀ info ∈ infos, (s.currentTspecInfo info.ac).mediumTime = 0) ∧
      s.totalAllocatedMediumTime + (infos.map TspecInfo.mediumTime).sum < 2 ^ 16
  | .delete ac => (s.currentTspecInfo ac).mediumTime = 0
  | .reset => True

instance (i : Input) : Decidable (s.BooksExactly i) := by
  unfold BooksExactly
  split <;> infer_instance

def Booking.apply (b : Books) : Booking → Books
  | .grant infos => infos.foldl Books.grant b
  | .delete ac => b.delete ac
  | .reset => .reset

/-! ## What the functions book -/

@[simp] theorem books_tell (e : Event) :
    (s.tell e).books = { s.books with admitted := book s.admitted e } := by
  simp only [books, admitted, tell, List.foldl_append, List.foldl_cons, List.foldl_nil]

theorem books_tell_of_same {e : Event} (h : book s.admitted e = s.admitted) :
    (s.tell e).books = s.books := by
  rw [books_tell, h]
  rfl

@[simp] theorem books_setTimer (running : Bool) : (s.setTimer ac running).books = s.books := rfl

@[simp] theorem books_sendUnexpected :
    (s.sendUnexpectedTspecResponseEvent info).books = s.books :=
  books_tell_of_same rfl

theorem books_accept :
    (s.setAdmissionInfo info.ac info .accept).books =
      if s.Takes info then s.books.grant info else s.books := by
  unfold setAdmissionInfo Takes
  by_cases hwait : (s.candidateTspecInfo info.ac).trafficAdmState = .waitAdmission
  · simp only [hwait, ne_eq, not_true_eq_false, if_false, true_and]
    unfold setAccepted
    have htid : ((s.setCandidateState info.ac .notAdmitted).candidateTspecInfo info.ac).tid =
        (s.candidateTspecInfo info.ac).tid := by
      simp [setCandidateState, setCandidate]
    simp only [htid]
    split
    · ext x
      · by_cases hx : x = info.ac
        · subst hx
          simp [books, Books.grant, setCurrent, tell, setCandidateState, setCandidate]
        · simp [books, Books.grant, setCurrent, tell, setCandidateState, setCandidate, hx]
      · simp only [books, admitted, setCurrent, tell, setCandidateState, setCandidate,
          List.foldl_append]
        rfl
      · rfl
    · exact books_tell_of_same rfl
  · simp [hwait]

theorem books_setAdmissionInfo {status : RequestStatus} (h : status ≠ .accept) :
    (s.setAdmissionInfo ac info status).books = s.books := by
  unfold setAdmissionInfo
  by_cases hwait : (s.candidateTspecInfo ac).trafficAdmState = .waitAdmission
  · simp only [hwait, ne_eq, not_true_eq_false, if_false]
    cases status with
    | accept => exact absurd rfl h
    | reject | timeout => exact books_tell_of_same rfl
  · simp [hwait]

theorem books_stop : (s.smEvent ac .stop).1.books = s.books := by
  unfold smEvent
  cases s.currentState ac <;> rfl

theorem books_start (frame : Bool) : (s.smEvent ac (.start frame)).1.books = s.books := by
  unfold smEvent
  cases s.currentState ac with
  | idle =>
    cases frame with
    | true =>
      refine (books_setTimer true).trans ?_
      exact books_tell _
    | false => rfl
  | wait => rfl

theorem books_timeout : (s.smEvent ac (.timeout info)).1.books = s.books := by
  unfold smEvent
  cases s.currentState ac with
  | idle => rfl
  | wait => exact books_setAdmissionInfo (fun h => nomatch h)

theorem books_reject : (s.smEvent ac (.reject info)).1.books = s.books := by
  unfold smEvent
  cases s.currentState ac with
  | idle => exact books_sendUnexpected
  | wait => exact books_setAdmissionInfo (fun h => nomatch h)

theorem books_smAccept :
    (s.smEvent info.ac (.accept info)).1.books =
      if s.currentState info.ac = .wait ∧ s.Takes info then s.books.grant info else s.books := by
  unfold smEvent
  cases hstate : s.currentState info.ac with
  | idle =>
    rw [if_neg (fun h => nomatch h.1)]
    exact books_sendUnexpected
  | wait =>
    refine books_accept.trans ?_
    simp only [true_and]
    rfl

theorem books_trafficAdmCtrlStop : s.trafficAdmCtrlStop.books = s.books := by
  have hfold : ∀ (acs : List EAcTrfcType) (s : Sys),
      (acs.foldl (fun s ac => (s.smEvent ac .stop).1) s).books = s.books := by
    intro acs
    induction acs with
    | nil => exact fun _ => rfl
    | cons ac acs ih => exact fun s => (ih _).trans books_stop
  exact hfold acs s

theorem books_deleteTspecConfiguration (hb : s.totalAllocatedMediumTime < 2 ^ 16) :
    (s.deleteTspecConfiguration ac).books =
      { s.books with current := update s.books.current ac 0 } := by
  ext x
  · by_cases hx : x = ac
    · subst hx
      simp [books, deleteTspecConfiguration, setCurrent, resetTspec]
    · simp [books, deleteTspecConfiguration, setCurrent, hx]
  · rfl
  · simp only [books, deleteTspecConfiguration, setCurrent, resetTspec, update_self]
    omega

/-! ## The steps -/

theorem books_requestAdmission (params : TspecParams) (frame : Bool) :
    (s.requestAdmission params frame).books = s.books := by
  unfold requestAdmission
  simp only
  split
  · exact books_tell_of_same rfl
  · split <;> exact (books_tell_of_same rfl).trans (books_start frame)

theorem books_deleteAdmission {userPriority : ℕ} (hb : s.totalAllocatedMediumTime < 2 ^ 16) :
    (s.deleteAdmission userPriority).books =
      if s.checkDelete userPriority = .ok then s.books.delete (wmeQosTagToAcTable userPriority)
      else s.books := by
  unfold deleteAdmission
  by_cases hok : s.checkDelete userPriority = .ok
  · simp only [hok, if_true]
    rw [books_tell, books_deleteTspecConfiguration hb]
    rfl
  · simp only [hok, if_false]
    refine books_tell_of_same ?_
    cases hstatus : s.checkDelete userPriority with
    | ok => exact absurd hstatus hok
    | _ => rfl

theorem books_receiveDelts {userPriority : ℕ} (hb : s.totalAllocatedMediumTime < 2 ^ 16) :
    (s.receiveDelts userPriority).books =
      (s.booking (.delts userPriority)).apply s.books := by
  simp only [receiveDelts, booking]
  split
  · rw [books_tell, books_deleteTspecConfiguration hb]
    rfl
  · rfl

theorem books_receiveAddtsResponse (dialogToken statusCode : ℕ) (ie : TspecIe) :
    (s.receiveAddtsResponse dialogToken statusCode ie).books =
      (s.booking (.addtsResponse dialogToken statusCode ie)).apply s.books := by
  simp only [receiveAddtsResponse, trafficAdmCtrlRecv, booking]
  generalize hinfo : parseTspecIe ie statusCode = info
  by_cases htakes : s.takesActionFrames = true
  · by_cases htoken : s.dialogToken info.ac = dialogToken
    · have hmem : ¬ ∀ ac ∈ acs, s.dialogToken ac ≠ dialogToken :=
        fun h => h info.ac (by cases info.ac <;> decide) htoken
      by_cases hcode : info.statusCode = 0
      · simp only [htakes, hmem, htoken, hcode, ne_eq, not_true_eq_false, if_true, if_false,
          true_and]
        rw [books_smAccept]
        split <;> rename_i hif <;> rw [books_setTimer]
        · rw [if_pos (show s.currentState info.ac = .wait ∧ s.Takes info from hif)]
          rfl
        · rw [if_neg (show ¬ (s.currentState info.ac = .wait ∧ s.Takes info) from hif)]
          rfl
      · simp only [htakes, hmem, htoken, hcode, ne_eq, not_true_eq_false, not_false_eq_true,
          if_true, if_false, false_and, and_false]
        exact books_reject
    · simp only [htakes, htoken, if_true, if_false, false_and, and_false, ne_eq, not_false_eq_true]
      split <;> exact books_sendUnexpected
  · simp only [htakes]
    rfl

theorem books_rejectRenegotiated : (s.rejectRenegotiated ac).books = s.books :=
  books_setAdmissionInfo fun h => nomatch h

theorem takes_accept {other : TspecInfo} :
    (s.setAdmissionInfo info.ac info .accept).Takes other ↔
      s.Takes other ∧ info.ac ≠ other.ac := by
  have hcandidate : ∀ t : Sys, t.candidateTspecInfo =
      update s.candidateTspecInfo info.ac
        { s.candidateTspecInfo info.ac with trafficAdmState := .notAdmitted } →
      (t.Takes other ↔ s.Takes other ∧ info.ac ≠ other.ac) := by
    intro t ht
    rw [Takes, ht]
    by_cases hac : info.ac = other.ac
    · simp [← hac]
    · simp [update_of_ne (Ne.symm hac), hac, Takes]
  unfold setAdmissionInfo
  by_cases hwait : (s.candidateTspecInfo info.ac).trafficAdmState = .waitAdmission
  · simp only [hwait, ne_eq, not_true_eq_false, if_false]
    unfold setAccepted
    simp only
    split <;> exact hcandidate _ rfl
  · simp only [hwait, ne_eq, not_false_eq_true, if_true]
    refine ⟨fun h => ⟨h, fun hac => hwait ?_⟩, fun h => h.1⟩
    rw [hac]
    exact h.1

theorem books_acceptRenegotiated (ie : TspecIe) :
    (s.acceptRenegotiated ie).books =
      ([parseTspecIe ie 0].filter (s.Takes ·)).foldl Books.grant s.books := by
  refine books_accept.trans ?_
  by_cases htakes : s.Takes (parseTspecIe ie 0) <;> simp [htakes]

theorem books_checkTspecRenegResults (voice signal : Option TspecIe) :
    (s.checkTspecRenegResults voice signal).books =
      (s.renegotiated voice signal).foldl Books.grant s.books := by
  unfold checkTspecRenegResults renegotiated
  by_cases hperform : s.performTspecRenegotiation = true
  · rw [if_neg (by simp [hperform]), if_pos hperform]
    have hreject : ∀ t : Sys,
        (if t.renegotiatesVideo then t.rejectRenegotiated .vi else t).books = t.books := by
      intro t
      split
      · exact books_rejectRenegotiated
      · rfl
    cases voice with
    | none =>
      cases signal with
      | none => exact (hreject _).trans books_rejectRenegotiated
      | some signal =>
        refine (books_acceptRenegotiated signal).trans ?_
        simp only [Option.toList_none, List.map_nil, List.filter_nil, List.nil_append,
          Option.mem_def, reduceCtorEq, false_implies, implies_true, and_true]
        rfl
    | some voice =>
      -- the second element finds what the first one leaves
      have hvoice : ∀ t : Sys,
          t = ({ s with voiceTspecConfigured := true } : Sys).acceptRenegotiated voice →
          t.books = ([parseTspecIe voice 0].filter (s.Takes ·)).foldl Books.grant s.books := by
        rintro t rfl
        exact books_acceptRenegotiated voice
      cases signal with
      | none =>
        refine (hreject _).trans ((hvoice _ rfl).trans ?_)
        simp only [Option.toList_some, Option.toList_none, List.map_cons, List.map_nil,
          List.filter_nil, List.append_nil]
      | some signal =>
        refine (books_acceptRenegotiated signal).trans ?_
        simp only [Option.toList_some, List.map_cons, List.map_nil, List.foldl_append]
        rw [← hvoice _ rfl]
        congr 1
        refine List.filter_congr fun info _ => ?_
        simp only [Option.mem_def, Option.some.injEq, forall_eq', decide_eq_decide]
        exact takes_accept
  · rw [if_pos (by simp [hperform]), if_neg hperform]
    rfl

theorem books_setSite (required : Option (EAcTrfcType → Bool)) (voice signal : Option TspecIe) :
    (s.setSite required voice signal).books =
      (s.renegotiated voice signal).foldl Books.grant s.books := by
  unfold setSite
  simp only
  split
  · cases required with
    | none | some required => exact books_checkTspecRenegResults voice signal
  · exact books_checkTspecRenegResults voice signal

theorem books_disconnect : s.disconnect.books = .reset := by
  refine (books_tell _).trans ?_
  have hstop := books_trafficAdmCtrlStop
    (s := ({ s with activeProtocol := .none } : Sys).resetAdmCtrlParameters)
  rw [Books.ext_iff] at hstop ⊢
  exact ⟨hstop.1, rfl, hstop.2.2⟩

theorem books_step {i : Input} (hb : s.totalAllocatedMediumTime < 2 ^ 16)
    (h : step s i = some t) : t.books = (s.booking i).apply s.books := by
  cases i with
  | timeout ac =>
    simp only [step] at h
    split at h
    · cases h
      exact books_timeout
    · cases h
  | selectActiveProtocol | connect | keepTspecs | setRenegotiation =>
    cases h
    rfl
  | updateIeInfo required =>
    cases h
    unfold updateIeInfo
    split <;> rfl
  | buildTspec ac =>
    cases h
    unfold buildTspec
    simp only
    split <;> rfl
  | setSite required voice signal =>
    cases h
    exact books_setSite required voice signal
  | checkTspecRenegResults voice signal =>
    cases h
    exact books_checkTspecRenegResults voice signal
  | disconnect =>
    cases h
    exact books_disconnect
  | requestAdmission params frame =>
    cases h
    exact books_requestAdmission params frame
  | deleteAdmission userPriority =>
    cases h
    rw [books_deleteAdmission hb, booking]
    split <;> rfl
  | addtsResponse dialogToken statusCode ie =>
    cases h
    exact books_receiveAddtsResponse dialogToken statusCode ie
  | delts userPriority =>
    cases h
    exact books_receiveDelts hb

theorem nodup_of_booking {i : Input} {infos : List TspecInfo} (h : s.booking i = .grant infos) :
    (infos.map TspecInfo.ac).Nodup := by
  have hsmall : ∀ infos : List TspecInfo, infos.length ≤ 1 → (infos.map TspecInfo.ac).Nodup := by
    intro infos hlen
    match infos, hlen with
    | [], _ => exact List.nodup_nil
    | [info], _ => exact List.nodup_singleton _
  have hreneg : ∀ voice signal, ((s.renegotiated voice signal).map TspecInfo.ac).Nodup := by
    intro voice signal
    unfold renegotiated
    split
    · rw [List.map_append, List.nodup_append]
      refine ⟨hsmall _ ?_, hsmall _ ?_, ?_⟩
      · refine (List.length_filter_le _ _).trans ?_
        cases voice <;> simp
      · refine (List.length_filter_le _ _).trans ?_
        cases signal <;> simp
      · intro a ha b hb
        obtain ⟨v, hv, rfl⟩ := List.mem_map.mp ha
        obtain ⟨g, hg, rfl⟩ := List.mem_map.mp hb
        obtain ⟨ie, hie, rfl⟩ := List.mem_map.mp (List.mem_filter.mp hv).1
        have hne := of_decide_eq_true (List.mem_filter.mp hg).2
        exact hne.2 ie (Option.mem_toList.mp hie)
    · exact List.nodup_nil
  cases i with
  | disconnect => cases h
  | setSite required voice signal | checkTspecRenegResults voice signal =>
    cases h
    exact hreneg voice signal
  | deleteAdmission userPriority | delts userPriority =>
    simp only [booking] at h
    split at h <;> cases h
    exact List.nodup_nil
  | addtsResponse dialogToken statusCode ie =>
    simp only [booking] at h
    split at h <;> cases h
    · exact hsmall _ (le_refl 1)
    · exact List.nodup_nil
  | _ =>
    cases h
    exact List.nodup_nil

/-! ## Runs -/

/-- The table agrees with the log, and the total has 16 bits. -/
structure Booked (s : Sys) : Prop where
  current : s.books.current = s.books.admitted
  total : s.totalAllocatedMediumTime < 2 ^ 16

/-- **The total is the sum of the medium times of the admitted TSPECs.** -/
def Accounted (s : Sys) : Prop := s.totalAllocatedMediumTime = ∑ ac, s.admitted ac

instance : Decidable s.Accounted := by unfold Accounted; infer_instance

theorem Booking.apply_booked {b : Books} (hcurrent : b.current = b.admitted)
    (htotal : b.total < 2 ^ 16) (booking : Booking) :
    (booking.apply b).current = (booking.apply b).admitted ∧
      (booking.apply b).total < 2 ^ 16 := by
  cases booking with
  | grant infos =>
    simp only [apply]
    induction infos generalizing b with
    | nil => exact ⟨hcurrent, htotal⟩
    | cons info infos ih =>
      refine ih ?_ (Nat.mod_lt _ (by decide))
      simp only [Books.grant, hcurrent]
  | delete ac =>
    refine ⟨?_, htotal⟩
    simp only [apply, Books.delete, hcurrent]
  | reset => exact ⟨rfl, Nat.two_pow_pos 16⟩

theorem Booked.step {i : Input} (hs : s.Booked) (h : s.step i = some t) : t.Booked := by
  have hbooks := books_step hs.total h
  obtain ⟨hcurrent, htotal⟩ := Booking.apply_booked hs.current hs.total (s.booking i)
  rw [← hbooks] at hcurrent htotal
  exact ⟨hcurrent, htotal⟩

theorem booked_init (trafficAdmCtrlEnable : Bool) (currentPsMode : PsScheme) :
    (init trafficAdmCtrlEnable currentPsMode).Booked := by
  refine ⟨?_, Nat.two_pow_pos 16⟩
  rfl

/-- **A step keeps the total right exactly if it books exactly.** -/
theorem accounted_step_iff {i : Input} (hs : s.Booked) (ha : s.Accounted)
    (h : s.step i = some t) : t.Accounted ↔ s.BooksExactly i := by
  have hbooks := books_step hs.total h
  have ht : t.Accounted ↔ t.books.Accounted := Iff.rfl
  have hbooked : s.books.Accounted := ha
  have hadmitted : ∀ ac, s.books.admitted ac = (s.currentTspecInfo ac).mediumTime :=
    fun ac => (congrFun hs.current ac).symm
  rw [ht, hbooks, BooksExactly]
  cases hbooking : s.booking i with
  | grant infos =>
    refine (Books.accounted_grant_iff (nodup_of_booking hbooking) hs.total hbooked).trans ?_
    simp only [hadmitted]
    rfl
  | delete ac =>
    refine (Books.accounted_delete_iff hbooked).trans ?_
    rw [hadmitted]
  | reset => exact iff_of_true rfl trivial

/-- **Exactly if every step of a run books exactly, the total is right in every state of the run,
and it is the same whenever the same medium times are admitted**: a deletion restores the total
from before the admission. -/
theorem accounted_iff {trafficAdmCtrlEnable : Bool} {currentPsMode : PsScheme} {is : List Input}
    (he : exec step (init trafficAdmCtrlEnable currentPsMode) is = some s) :
    ((∀ js t, js <+: is → exec step (init trafficAdmCtrlEnable currentPsMode) js = some t →
        t.Accounted) ∧
      ∀ js ks t u, js <+: is → ks <+: is →
        exec step (init trafficAdmCtrlEnable currentPsMode) js = some t →
        exec step (init trafficAdmCtrlEnable currentPsMode) ks = some u →
        t.admitted = u.admitted → t.totalAllocatedMediumTime = u.totalAllocatedMediumTime) ↔
      Along step BooksExactly (init trafficAdmCtrlEnable currentPsMode) is := by
  have hiff := along_iff_prefixes (I := Accounted) (J := Booked) (P := BooksExactly)
    (fun _ _ _ hs h => hs.step h) (fun _ _ _ hs ha h => accounted_step_iff hs ha h)
    (booked_init trafficAdmCtrlEnable currentPsMode) rfl he
  refine Iff.trans ⟨fun h => h.1, fun h => ⟨h, ?_⟩⟩ hiff
  intro js ks t u hjs hks ht hu hsame
  have htotal : t.totalAllocatedMediumTime = ∑ ac, t.admitted ac := h js t hjs ht
  rw [htotal, hsame]
  exact (h ks u hks hu).symm

end Sys

/-! ## Sample runs -/

/-- A TSPEC element of the AP. -/
def sampleIe (userPriority mediumTime : ℕ) : TspecIe :=
  ⟨userPriority, 3, 0, userPriority, 200, 0, 0, 64000, 6000000, 0x2000, mediumTime⟩

/-- A connection to an AP whose categories need admission, and a TSPEC of each of the two user
priorities admitted. -/
def bothAdmitted : List Sys.Input :=
  [.selectActiveProtocol true, .setSite (some fun _ => true) none none, .connect,
    .requestAdmission (.only 6) true, .addtsResponse 1 0 (sampleIe 6 100),
    .requestAdmission (.only 4) true, .addtsResponse 2 0 (sampleIe 4 50)]

theorem accounted_bothAdmitted :
    ∃ s, exec Sys.step (Sys.init true .legacy) bothAdmitted = some s ∧ s.Accounted ∧
      s.totalAllocatedMediumTime = 150 := by
  obtain ⟨s, hs⟩ := Option.isSome_iff_exists.mp
    (by decide +kernel : (exec Sys.step (Sys.init true .legacy) bothAdmitted).isSome = true)
  have htotal : (exec Sys.step (Sys.init true .legacy) bothAdmitted).map
      Sys.totalAllocatedMediumTime = some 150 := by
    decide +kernel
  rw [hs, Option.map_some, Option.some.injEq] at htotal
  refine ⟨s, hs, ?_, htotal⟩
  exact ((Sys.accounted_iff hs).mpr (by decide +kernel)).1 bothAdmitted s (List.prefix_refl _) hs

/-- The total keeps what a deletion and a renewed admission give back. -/
theorem not_accounted_deleted :
    (∃ s, exec Sys.step (Sys.init true .legacy) (bothAdmitted ++ [.deleteAdmission 6]) = some s ∧
        ¬ s.Accounted) ∧
      ∃ s, exec Sys.step (Sys.init true .legacy) (bothAdmitted ++
          [.requestAdmission (.only 6) true, .addtsResponse 3 0 (sampleIe 6 100)]) = some s ∧
        ¬ s.Accounted := by
  have hwrong : ∀ is, ((exec Sys.step (Sys.init true .legacy) is).any fun s =>
      ¬ s.Accounted) = true →
      ∃ s, exec Sys.step (Sys.init true .legacy) is = some s ∧ ¬ s.Accounted := by
    intro is h
    cases he : exec Sys.step (Sys.init true .legacy) is with
    | none => simp [he] at h
    | some s =>
      simp only [he, Option.any_some, decide_eq_true_eq] at h
      exact ⟨s, rfl, h⟩
  exact ⟨hwrong _ (by decide +kernel), hwrong _ (by decide +kernel)⟩

end ArchosGpl.Wlan.QosMngr
