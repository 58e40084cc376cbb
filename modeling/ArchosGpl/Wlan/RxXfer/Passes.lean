import ArchosGpl.Lib.Repeat
import ArchosGpl.Wlan.RxXfer.Burst

/-!
# The passes of the RX handler (`rxXfer_Handle`)

`while (1)` of the handler as the source has it, a pass at a time with its flags and the pointer
`pTxn`. A packet that does not fit into the maximal length sets `bIssueTxn`, whether there are
packets to issue or not.

* **`handleLoop` is this loop** (`returns_iff`): the loop returns a state exactly when `handleLoop`
  has it.
* **A packet that fits into no transaction** (`Stuck.pass`): each further pass issues a
  transaction that was given no buffer, through `pTxn` of the last one, and the packet is as far
  from being read as before; before the first transaction of the call `pTxn` is `NULL`.
-/

namespace ArchosGpl.Wlan.RxXfer

open Lib

/-- The variables of the loop, with `pTxn` (`none` for `NULL`). -/
structure Vars where
  s : Sys
  l : Locals
  pTxn : Option (Fin maxConsecutiveReadTxn)

structure Flags where
  bIssueTxn : Bool
  bDropLastPkt : Bool
  bExit : Bool

/-- The variables once the packets in hand are issued. -/
def Locals.issued (l : Locals) : Locals :=
  { l with group := [], uTotalAggregLen := 0, reads := Sys.readsAfter l }

namespace Vars

/-- There is a packet to process. -/
def Behind (v : Vars) : Prop :=
  v.s.obj.uDrvRxCntr % numRxPktDesc ≠ v.s.obj.uFwRxCntr % numRxPktDesc

instance (v : Vars) : Decidable v.Behind := inferInstanceAs (Decidable (_ ≠ _))

/-- The packet does not fit beside those in hand. -/
def Overflows (v : Vars) : Prop :=
  v.l.uTotalAggregLen + buffSize v.s.nextDesc > v.s.obj.uMaxAggregLen

instance (v : Vars) : Decidable v.Overflows := inferInstanceAs (Decidable (_ > _))

def request (v : Vars) (a : Answers) : Vars × Flags :=
  let l := { v.l with requests := v.l.requests + 1 }
  match a.alloc v.l.requests with
  | .complete =>
    let pTxn := if v.l.group = [] then some v.s.obj.uCurrTxnIndex else v.pTxn
    let (s, l) := v.s.addPacket v.l v.s.nextDesc
    (⟨s, l, pTxn⟩, ⟨l.group.length ≥ s.obj.uMaxAggregPkts, false, false⟩)
  | .pending =>
    let s := { v.s with obj := { v.s.obj with bPendingBuffer := true } }
    (⟨s, l, v.pTxn⟩, ⟨l.group ≠ [], false, true⟩)
  | .outOfMem => (⟨v.s, l, v.pTxn⟩, ⟨l.group ≠ [], true, false⟩)

/-- The first half of a pass: the next packet is looked at. -/
def prepare (v : Vars) (a : Answers) : Vars × Flags :=
  if v.Behind then
    if v.Overflows then (v, ⟨true, false, false⟩) else v.request a
  else (v, ⟨v.l.group ≠ [], false, true⟩)

/-- The part under `bIssueTxn` through `pTxn`: it names the structure to prepare, `uCurrTxnIndex`
the one to issue. Without packets the length of the first buffer is cleared. -/
def issueAt (s : Sys) (l : Locals) (pTxn : Fin maxConsecutiveReadTxn) (bExit : Bool)
    (eTxnStatus : ETxnStatus) : Sys :=
  let old := s.obj.aTxnStruct pTxn
  let prepared := { old with
    aBuf := if l.group = [] then old.aBuf.modifyHead fun b => (b.1, 0) else l.group
    endOfBurst := bExit || old.endOfBurst }
  let s := { s with
    obj := { s.obj with aTxnStruct := Function.update s.obj.aTxnStruct pTxn prepared } }
  let issued := s.issueTxn l.uFirstMemBlkAddr (s.obj.aTxnStruct s.obj.uCurrTxnIndex) eTxnStatus
  Sys.nextTxn (if eTxnStatus = .complete then issued.forwardPacket pTxn false else issued)

/-- The part under `bIssueTxn`. `none` says that it writes through `NULL`. -/
def issue (v : Vars) (bExit : Bool) (a : Answers) : Option Vars :=
  v.pTxn.map fun pTxn =>
    { v with
      s := issueAt v.s v.l pTxn bExit (a.bus v.l.reads)
      l := { v.l with group := [], uTotalAggregLen := 0, reads := v.l.reads + 1 } }

/-- The part under `bDropLastPkt`. -/
def drop (v : Vars) (desc : ℕ) (a : Answers) : Vars :=
  { s := v.s.dropPacket desc (a.bus v.l.reads)
    l := { v.l with reads := v.l.reads + 1 }
    pTxn := some v.s.obj.uCurrTxnIndex }

/-- The second half of a pass: the flags are served. -/
def finish (v : Vars) (f : Flags) (desc : ℕ) (a : Answers) : Pass Sys Vars :=
  match if f.bIssueTxn then v.issue f.bExit a else some v with
  | none => .fault
  | some w =>
    let w := if f.bDropLastPkt then w.drop desc a else w
    if f.bExit then .exit w.s else .next w

def pass (a : Answers) (v : Vars) : Pass Sys Vars :=
  let (w, f) := v.prepare a
  w.finish f v.s.nextDesc a

/-- What every pass keeps: the packets in hand are in the current structure. -/
structure Tidy (v : Vars) : Prop where
  current : v.l.group ≠ [] → v.pTxn = some v.s.obj.uCurrTxnIndex
  empty : v.l.group = [] → v.l.uTotalAggregLen = 0

variable {v : Vars} {a : Answers}

theorem issueAt_current {s : Sys} {l : Locals} (hne : l.group ≠ []) (bExit : Bool)
    (st : ETxnStatus) : issueAt s l s.obj.uCurrTxnIndex bExit st = s.issueGroup l bExit st := by
  simp only [issueAt, if_neg hne, Function.update_self, Sys.issueGroup, Sys.issueTxn,
    Function.update_idem]

theorem Tidy.issue_rest (h : v.Tidy) (bExit : Bool) (a : Answers) :
    ∃ p, (if decide (v.l.group ≠ []) then v.issue bExit a else some v) =
      some ⟨v.s.issueRest v.l bExit a, v.l.issued, p⟩ := by
  by_cases hnil : v.l.group = []
  · refine ⟨v.pTxn, ?_⟩
    have hl : v.l.issued = v.l := by
      rw [Locals.issued, Sys.readsAfter, if_pos hnil, ← hnil, ← h.empty hnil]
    rw [hl, Sys.issueRest, if_pos hnil, if_neg (by simpa using hnil)]
  · refine ⟨some v.s.obj.uCurrTxnIndex, ?_⟩
    rw [if_pos (by simpa using hnil), issue, h.current hnil, Option.map_some, issueAt_current hnil,
      Sys.issueRest, if_neg hnil, Locals.issued, Sys.readsAfter, if_neg hnil]

theorem Tidy.finish (h : v.Tidy) (bDropLastPkt bExit : Bool) (desc : ℕ) (a : Answers) :
    ∃ p, v.finish ⟨v.l.group ≠ [], bDropLastPkt, bExit⟩ desc a =
      let w : Vars := ⟨v.s.issueRest v.l bExit a, v.l.issued, p⟩
      let w := if bDropLastPkt then w.drop desc a else w
      if bExit then .exit w.s else .next w := by
  obtain ⟨p, hp⟩ := h.issue_rest bExit a
  exact ⟨p, by rw [Vars.finish, hp]⟩

theorem pass_done (h : v.Tidy) (hdone : ¬ v.Behind) :
    v.pass a = .exit (v.s.issueRest v.l true a) := by
  obtain ⟨p, hp⟩ := h.finish false true v.s.nextDesc a
  rw [pass, prepare, if_neg hdone]
  exact hp

theorem pass_full (h : v.Tidy) (hb : v.Behind) (hfull : v.Overflows) (hne : v.l.group ≠ []) :
    ∃ p, v.pass a = .next ⟨v.s.issueRest v.l false a, v.l.issued, p⟩ := by
  obtain ⟨p, hp⟩ := h.finish false false v.s.nextDesc a
  rw [decide_eq_true hne] at hp
  rw [pass, prepare, if_pos hb, if_pos hfull]
  exact ⟨p, hp⟩

/-- Nothing is in hand, and the packet does not even fit alone. -/
structure Stuck (v : Vars) : Prop where
  behind : v.Behind
  full : v.Overflows
  empty : v.l.group = []
  length : v.l.uTotalAggregLen = 0

theorem issueAt_table (s : Sys) (l : Locals) (p : Fin maxConsecutiveReadTxn) (bExit : Bool)
    (st : ETxnStatus) : (issueAt s l p bExit st).obj.aRxPktsDesc = s.obj.aRxPktsDesc ∧
      (issueAt s l p bExit st).obj.uFwRxCntr = s.obj.uFwRxCntr ∧
      (issueAt s l p bExit st).obj.uDrvRxCntr = s.obj.uDrvRxCntr ∧
      (issueAt s l p bExit st).obj.uMaxAggregLen = s.obj.uMaxAggregLen := by
  by_cases hst : st = .complete
  · simp only [issueAt, if_pos hst]
    exact ⟨rfl, rfl, rfl, rfl⟩
  · simp only [issueAt, if_neg hst]
    exact ⟨rfl, rfl, rfl, rfl⟩

theorem Stuck.pass (h : v.Stuck) (a : Answers) :
    v.pass a = .fault ∨ ∃ w, v.pass a = .next w ∧ w.Stuck := by
  rw [Vars.pass, prepare, if_pos h.behind, if_pos h.full]
  cases hp : v.pTxn with
  | none => exact Or.inl (by simp [Vars.finish, issue, hp])
  | some p =>
    obtain ⟨hdesc, hfw, hdrv, hlen⟩ := issueAt_table v.s v.l p false (a.bus v.l.reads)
    have hfull := h.full
    have hbehind := h.behind
    rw [Overflows, Sys.nextDesc, h.length, ← hdesc, ← hdrv, ← hlen] at hfull
    rw [Behind, ← hfw, ← hdrv] at hbehind
    refine Or.inr ⟨⟨issueAt v.s v.l p false (a.bus v.l.reads),
      { v.l with group := [], uTotalAggregLen := 0, reads := v.l.reads + 1 }, some p⟩, ?_,
      hbehind, hfull, rfl, rfl⟩
    dsimp only [Vars.finish]
    rw [if_pos rfl, issue, hp]
    rfl

theorem finish_added {s : Sys} {l : Locals} (hne : l.group ≠ []) (desc : ℕ) (a : Answers) :
    let q := if l.group.length ≥ s.obj.uMaxAggregPkts then
        (s.issueGroup l false (a.bus l.reads),
          { l with group := [], uTotalAggregLen := 0, reads := l.reads + 1 })
      else (s, l)
    ∃ p, finish ⟨s, l, some s.obj.uCurrTxnIndex⟩
      ⟨l.group.length ≥ s.obj.uMaxAggregPkts, false, false⟩ desc a = .next ⟨q.1, q.2, p⟩ ∧
      Tidy ⟨q.1, q.2, p⟩ := by
  dsimp only
  by_cases hfull : l.group.length ≥ s.obj.uMaxAggregPkts
  · rw [if_pos hfull, ← issueAt_current hne, decide_eq_true hfull]
    exact ⟨_, rfl, fun hne => absurd rfl hne, fun _ => rfl⟩
  · rw [if_neg hfull, decide_eq_false hfull]
    exact ⟨_, rfl, fun _ => rfl, fun hnil => absurd hnil hne⟩

theorem pass_fits (h : v.Tidy) (hb : v.Behind) (hfits : ¬ v.Overflows) :
    match v.s.servePacket v.l a v.s.nextDesc with
    | .error t => v.pass a = .exit t
    | .ok (t, l) => ∃ p, v.pass a = .next ⟨t, l, p⟩ ∧ Tidy ⟨t, l, p⟩ := by
  rw [Sys.servePacket, pass, prepare, if_pos hb, if_neg hfits, request]
  cases halloc : a.alloc v.l.requests with
  | complete =>
    have hcur : (if v.l.group = [] then some v.s.obj.uCurrTxnIndex else v.pTxn) =
        some v.s.obj.uCurrTxnIndex := by
      split
      · rfl
      next hne => exact h.current hne
    have hne : (v.s.addPacket v.l v.s.nextDesc).2.group ≠ [] :=
      List.append_ne_nil_of_right_ne_nil _ (List.cons_ne_nil _ _)
    rw [hcur]
    exact finish_added hne v.s.nextDesc a
  | pending =>
    have ht : Tidy ⟨{ v.s with obj := { v.s.obj with bPendingBuffer := true } },
      { v.l with requests := v.l.requests + 1 }, v.pTxn⟩ := ⟨h.current, h.empty⟩
    obtain ⟨p, hp⟩ := ht.finish false true v.s.nextDesc a
    exact hp
  | outOfMem =>
    have ht : Tidy ⟨v.s, { v.l with requests := v.l.requests + 1 }, v.pTxn⟩ := ⟨h.current, h.empty⟩
    obtain ⟨p, hp⟩ := ht.finish true false v.s.nextDesc a
    exact ⟨_, hp, fun hne => absurd rfl hne, fun _ => rfl⟩

end Vars

/-! ## The loop -/

namespace Sys

variable {s s' : Sys} {a : Answers} {n : ℕ}

theorem unprocessed_eq_zero (s : Sys) :
    s.unprocessed = 0 ↔ s.obj.uDrvRxCntr % numRxPktDesc = s.obj.uFwRxCntr % numRxPktDesc := by
  rw [unprocessed, numRxPktDesc]
  omega

theorem unprocessed_next (hfw : s'.obj.uFwRxCntr = s.obj.uFwRxCntr)
    (hdrv : s'.obj.uDrvRxCntr = add32 s.obj.uDrvRxCntr 1) (hn : s.unprocessed = n + 1) :
    s'.unprocessed = n := by
  rw [unprocessed, numRxPktDesc] at hn ⊢
  rw [hfw, hdrv, add32]
  omega

/-- What the handler only reads. -/
structure SameReport (s s' : Sys) : Prop extends SameTable s s' where
  fw : s'.obj.uFwRxCntr = s.obj.uFwRxCntr
  pool : s'.obj.uPacketMemoryPoolStart = s.obj.uPacketMemoryPoolStart

theorem SameReport.refl (s : Sys) : SameReport s s := ⟨.refl s, rfl, rfl⟩

theorem SameReport.trans {t : Sys} (h : SameReport s t) (h' : SameReport t s') : SameReport s s' :=
  ⟨h.toSameTable.trans h'.toSameTable, h'.fw.trans h.fw, h'.pool.trans h.pool⟩

theorem issueGroup_report (s : Sys) (l : Locals) (bExit : Bool) (st : ETxnStatus) :
    SameReport s (s.issueGroup l bExit st) := by
  refine ⟨(issueGroup_table s l bExit st).1, ?_, ?_⟩ <;>
  · by_cases hst : st = .complete
    · rw [hst, issueGroup_of_complete]
      rfl
    · rw [issueGroup_of_ne hst]
      rfl

theorem issueRest_report (s : Sys) (l : Locals) (bExit : Bool) (a : Answers) :
    SameReport s (s.issueRest l bExit a) := by
  rw [issueRest]
  split
  · exact .refl s
  · exact issueGroup_report s l bExit _

/-- **A pass that serves a packet** makes one request and counts the packet, unless the request is
pending. -/
theorem servePacket_report (s : Sys) (l : Locals) (a : Answers) (desc : ℕ) :
    match s.servePacket l a desc with
    | .error t => a.alloc l.requests = .pending ∧ SameReport s t ∧
        t.obj.uDrvRxCntr = s.obj.uDrvRxCntr
    | .ok (t, l') => a.alloc l.requests ≠ .pending ∧ SameReport s t ∧
        t.obj.uDrvRxCntr = add32 s.obj.uDrvRxCntr 1 ∧ l'.requests = l.requests + 1 := by
  rw [servePacket]
  cases a.alloc l.requests with
  | complete =>
    dsimp only
    have hadd : SameReport s (s.addPacket l desc).1 := ⟨⟨rfl, rfl, rfl⟩, rfl, rfl⟩
    split
    · exact ⟨by decide, hadd.trans (issueGroup_report _ _ false _),
        (issueGroup_table _ _ false _).2, rfl⟩
    · exact ⟨by decide, hadd, rfl, rfl⟩
  | pending =>
    have hpend : SameReport s { s with obj := { s.obj with bPendingBuffer := true } } :=
      ⟨⟨rfl, rfl, rfl⟩, rfl, rfl⟩
    exact ⟨rfl, hpend.trans (issueRest_report _ l true a), (issueRest_table _ l true a).2⟩
  | outOfMem =>
    have hrest := issueRest_report s l false a
    refine ⟨by decide, ⟨⟨hrest.desc, hrest.len, hrest.pkts⟩, hrest.fw, hrest.pool⟩, ?_, rfl⟩
    rw [dropPacket, issued_uDrvRxCntr, (issueRest_table s l false a).2]

section Loop

variable (a : Answers) (n : ℕ) (s : Sys) (l : Locals)

theorem handleLoop_fits (hfits : ¬ l.uTotalAggregLen + buffSize s.nextDesc > s.obj.uMaxAggregLen) :
    handleLoop a (n + 1) s l = match s.servePacket l a s.nextDesc with
      | .error t => some t
      | .ok (t, l') => handleLoop a n t l' := by
  rw [handleLoop, makeRoom, if_neg hfits]
  refine (if_neg hfits).trans ?_
  cases s.servePacket l a s.nextDesc with
  | error t => rfl
  | ok q => rfl

theorem handleLoop_stuck (hempty : l.group = [])
    (hfull : buffSize s.nextDesc > s.obj.uMaxAggregLen) : handleLoop a (n + 1) s l = none := by
  have hroom : l.uTotalAggregLen + buffSize s.nextDesc > s.obj.uMaxAggregLen :=
    hfull.trans_le (Nat.le_add_left _ _)
  rw [handleLoop, makeRoom, if_pos hroom, issueRest, if_pos hempty]
  dsimp only
  rw [Nat.zero_add, if_pos hfull]

theorem handleLoop_full (hfull : l.uTotalAggregLen + buffSize s.nextDesc > s.obj.uMaxAggregLen) :
    handleLoop a (n + 1) s l = handleLoop a (n + 1) (s.issueRest l false a) l.issued := by
  have hnext := issueRest_nextDesc s l false a
  have hlen := (issueRest_report s l false a).len
  by_cases hstuck : buffSize s.nextDesc > s.obj.uMaxAggregLen
  · rw [handleLoop_stuck a n _ l.issued rfl (by rw [hnext, hlen]; exact hstuck), handleLoop,
      makeRoom, if_pos hfull]
    dsimp only
    rw [Nat.zero_add, hlen, if_pos hstuck]
  · have hfits : ¬ l.issued.uTotalAggregLen + buffSize (s.issueRest l false a).nextDesc >
        (s.issueRest l false a).obj.uMaxAggregLen := by
      rw [hnext, hlen, Locals.issued, Nat.zero_add]
      exact hstuck
    rw [handleLoop_fits a n _ l.issued hfits, handleLoop, makeRoom, if_pos hfull]
    dsimp only
    rw [Nat.zero_add, hlen, if_neg hstuck, hnext]
    rfl

end Loop

theorem returns_iff {v : Vars} (h : v.Tidy) (hn : v.s.unprocessed = n) :
    Returns (Vars.pass a) v s' ↔ handleLoop a n v.s v.l = some s' := by
  induction n generalizing v with
  | zero =>
    have hdone : ¬ v.Behind := not_not_intro ((unprocessed_eq_zero v.s).mp hn)
    rw [returns_exit (Vars.pass_done h hdone), handleLoop, Option.some_inj]
  | succ n ih =>
    have hbehind : ∀ {w : Vars}, w.s.unprocessed = n + 1 → w.Behind := fun hw hc =>
      absurd (((unprocessed_eq_zero _).mpr hc).symm.trans hw) (Nat.succ_ne_zero n).symm
    have hserve : ∀ {w : Vars}, w.Tidy → w.s.unprocessed = n + 1 → ¬ w.Overflows →
        (Returns (Vars.pass a) w s' ↔ handleLoop a (n + 1) w.s w.l = some s') := by
      intro w hw hwn hfits
      have hpass := Vars.pass_fits (a := a) hw (hbehind hwn) hfits
      have hreport := servePacket_report w.s w.l a w.s.nextDesc
      rw [handleLoop_fits a n w.s w.l hfits]
      revert hpass hreport
      cases w.s.servePacket w.l a w.s.nextDesc with
      | error t =>
        intro hpass _
        rw [returns_exit hpass, Option.some_inj]
      | ok q =>
        rintro ⟨p, hpass, htidy⟩ ⟨-, hreport, hdrv, -⟩
        rw [returns_next hpass]
        exact ih htidy (unprocessed_next hreport.fw hdrv hwn)
    have hstuck : ∀ {w : Vars}, w.s.unprocessed = n + 1 → w.l.group = [] →
        w.l.uTotalAggregLen = 0 → w.Overflows →
        (Returns (Vars.pass a) w s' ↔ handleLoop a (n + 1) w.s w.l = some s') := by
      intro w hwn hempty hlen hfull
      have hsize : buffSize w.s.nextDesc > w.s.obj.uMaxAggregLen := by
        rw [Vars.Overflows, hlen, Nat.zero_add] at hfull
        exact hfull
      rw [handleLoop_stuck a n w.s w.l hempty hsize]
      have hw : w.Stuck := ⟨hbehind hwn, hfull, hempty, hlen⟩
      exact iff_of_false (not_returns_of_stuck (P := Vars.Stuck) (fun u hu => hu.pass a) hw) (by simp)
    by_cases hfull : v.Overflows
    · by_cases hempty : v.l.group = []
      · exact hstuck hn hempty (h.empty hempty) hfull
      · -- the packets in hand are issued, and then nothing is in hand
        obtain ⟨p, hpass⟩ := Vars.pass_full (a := a) h (hbehind hn) hfull hempty
        have hwn : (v.s.issueRest v.l false a).unprocessed = n + 1 := by
          rw [unprocessed, (issueRest_report v.s v.l false a).fw,
            (issueRest_table v.s v.l false a).2]
          exact hn
        rw [returns_next hpass, handleLoop_full a n v.s v.l hfull]
        by_cases hagain : Vars.Overflows ⟨v.s.issueRest v.l false a, v.l.issued, p⟩
        · exact hstuck hwn rfl rfl hagain
        · exact hserve ⟨fun hne => absurd rfl hne, fun _ => rfl⟩ hwn hagain
    · exact hserve h hn hfull

theorem handle_iff (hs : s.obj.uAvailableTxn ≠ 0) :
    s.handle a = some s' ↔ Returns (Vars.pass a) ⟨s, .start, none⟩ s' := by
  rw [handle, if_neg hs]
  have htidy : Vars.Tidy ⟨s, .start, none⟩ := ⟨fun hne => absurd rfl hne, fun _ => rfl⟩
  exact (returns_iff htidy rfl).symm

end Sys

end ArchosGpl.Wlan.RxXfer
