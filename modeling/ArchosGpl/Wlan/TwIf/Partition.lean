import ArchosGpl.Lib.Machine

/-!
# The buffer of the partition transactions (`TWD/TwIf/TwIf.c`)

`twIf_SetPartition` sends seven transactions that lie in one buffer. It frees the buffer itself, or
leaves it to `twIf_PartitionTxnDoneCb`, the callback of the last transaction.

* The transaction queue answers each transaction, at any time between two calls takes the oldest
  pending one from the bus (`twIf_TxnDoneCb`), and never does both for one transaction.
* `twIf_HandleTxnDone` runs in the driver task, and so not before `twIf_SetPartition` returns.

**`partition_freed_right_iff`**: in a run to the end, the buffer is freed exactly once and never
while it is in use exactly if every step `Fits`: at the return, the sixth transaction is not pending
and none is in use, or the sixth is pending and the last one has still to be completed; and the last
one does not complete with an error.
-/

namespace ArchosGpl.Wlan.TwIf

open Lib

inductive ETxnStatus
  | complete
  | pending
  | error
  deriving DecidableEq, Repr

/-- One register: its address behind `PARTITION_REGISTERS_ADDR`, whether `eStatus` keeps the answer
of the queue, and whether the transaction has a callback. -/
structure PartitionRegTxn where
  offset : ℕ
  keepsStatus : Bool
  hasCb : Bool
  deriving DecidableEq, Repr

/-- The transactions in the order they are sent. -/
def pPartitionRegTxn : List PartitionRegTxn :=
  [⟨4, false, false⟩, ⟨0, false, false⟩, ⟨12, false, false⟩, ⟨8, true, false⟩, ⟨20, false, false⟩,
    ⟨16, true, false⟩, ⟨24, false, true⟩]

abbrev lastTxn : ℕ := 6

/-- An entry of `hTxnDoneQueue`: whether it is the last partition transaction, or one of another
user, and whether its status is an error. -/
structure DoneTxn where
  isPartition : Bool
  isError : Bool
  deriving DecidableEq, Repr

/-- The state from the allocation of the buffer on. -/
structure State where
  /-- The transactions sent so far. -/
  sent : ℕ
  /-- `eStatus`, which is not initialised. -/
  eStatus : Option ETxnStatus
  /-- The transactions of the buffer in the transaction queue or on the bus. -/
  queued : List ℕ
  /-- `hTxnDoneQueue` -/
  hTxnDoneQueue : List DoneTxn
  /-- Has `twIf_SetPartition` returned? -/
  returned : Bool
  /-- The calls of `os_memoryFree` for the buffer. -/
  freed : ℕ
  deriving DecidableEq, Repr

inductive Event
  /-- `twIf_SendTransaction` for the next transaction, and its answer. -/
  | send (eStatus : ETxnStatus)
  /-- The end of `twIf_SetPartition`. -/
  | ret
  /-- `twIf_TxnDoneCb` for the oldest transaction of the buffer. -/
  | txnDone (isError : Bool)
  /-- `twIf_TxnDoneCb` for a transaction of another user. -/
  | otherDone (isError : Bool)
  /-- `twIf_HandleTxnDone` -/
  | handleTxnDone
  deriving DecidableEq, Repr

/-- The loop of `twIf_HandleTxnDone`: the calls of `twIf_PartitionTxnDoneCb`, and what stays in the
queue. -/
def handleTxnDone : List DoneTxn → ℕ × List DoneTxn
  | [] => (0, [])
  | d :: ds =>
    -- "in error do not continue"
    if d.isError then (0, ds)
    else ((handleTxnDone ds).1 + if d.isPartition then 1 else 0, (handleTxnDone ds).2)

def step (s : State) : Event → Option State
  | .send eStatus =>
    if s.returned then none
    else
      pPartitionRegTxn[s.sent]?.map fun txn =>
        { s with
          sent := s.sent + 1
          eStatus := if txn.keepsStatus then some eStatus else s.eStatus
          queued := if eStatus = .pending then s.queued ++ [s.sent] else s.queued }
  | .ret =>
    if s.returned ∨ s.sent < pPartitionRegTxn.length then none
    else
      some
        { s with
          returned := true
          -- "If the transaction is done, free the allocated memory"
          freed := if s.eStatus ≠ some .pending then s.freed + 1 else s.freed }
  | .txnDone isError =>
    match s.queued with
    | [] => none
    | i :: queued =>
      some
        { s with
          queued := queued
          hTxnDoneQueue :=
            if pPartitionRegTxn[i]?.any (·.hasCb) then s.hTxnDoneQueue ++ [⟨true, isError⟩]
            else s.hTxnDoneQueue }
  | .otherDone isError => some { s with hTxnDoneQueue := s.hTxnDoneQueue ++ [⟨false, isError⟩] }
  | .handleTxnDone =>
    if s.returned then
      some
        { s with
          hTxnDoneQueue := (handleTxnDone s.hTxnDoneQueue).2
          freed := s.freed + (handleTxnDone s.hTxnDoneQueue).1 }
    else none

/-- The buffer was allocated. -/
def init : State where
  sent := 0
  eStatus := none
  queued := []
  hTxnDoneQueue := []
  returned := false
  freed := 0

/-! ## The promise -/

/-- The errors of the last partition transaction in the done queue. -/
def own (ds : List DoneTxn) : List Bool := (ds.filter (·.isPartition)).map (·.isError)

/-- A transaction of the buffer is queued, on the bus or in the done queue. -/
def InUse (s : State) : Prop := s.queued ≠ [] ∨ own s.hTxnDoneQueue ≠ []

instance (s : State) : Decidable (InUse s) := inferInstanceAs (Decidable (_ ∨ _))

/-- Nothing of the buffer is left to do. -/
def AtRest (s : State) : Prop := s.returned ∧ ¬ InUse s

instance (s : State) : Decidable (AtRest s) := inferInstanceAs (Decidable (_ ∧ _))

/-- **The buffer is freed exactly once, and not while it is in use.** -/
structure Safe (s : State) : Prop where
  once : s.freed ≤ 1
  unused : 0 < s.freed → ¬ InUse s
  atRest : AtRest s → s.freed = 1

/-- **The steps that go well.** -/
def Fits (s : State) : Event → Prop
  | .ret =>
    if s.eStatus = some .pending then lastTxn ∈ s.queued ∨ own s.hTxnDoneQueue ≠ [] else ¬ InUse s
  | .txnDone isError => s.queued.head? = some lastTxn → isError = false
  | _ => True

instance (s : State) : (e : Event) → Decidable (Fits s e)
  | .send _ | .otherDone _ | .handleTxnDone => isTrue trivial
  | .ret => inferInstanceAs (Decidable (ite ..))
  | .txnDone _ => inferInstanceAs (Decidable (_ → _))

/-! ## What an event does -/

variable {s t : State} {e : Event}

/-- The events, with their conditions. -/
inductive Moves (s : State) : Event → State → Prop
  | send (a : ETxnStatus) (txn : PartitionRegTxn) (hr : s.returned = false)
      (hlt : s.sent ≤ lastTxn) :
    Moves s (.send a)
      { s with
        sent := s.sent + 1
        eStatus := if txn.keepsStatus then some a else s.eStatus
        queued := if a = .pending then s.queued ++ [s.sent] else s.queued }
  | ret (hr : s.returned = false) (hall : lastTxn < s.sent) :
    Moves s .ret
      { s with
        returned := true
        freed := if s.eStatus ≠ some .pending then s.freed + 1 else s.freed }
  | last (b : Bool) (queued : List ℕ) (hq : s.queued = lastTxn :: queued) :
    Moves s (.txnDone b)
      { s with
        queued := queued
        hTxnDoneQueue := s.hTxnDoneQueue ++ [⟨true, b⟩] }
  | txnDone (b : Bool) (i : ℕ) (queued : List ℕ) (hq : s.queued = i :: queued) (hi : i ≠ lastTxn) :
    Moves s (.txnDone b) { s with queued := queued }
  | otherDone (b : Bool) :
    Moves s (.otherDone b) { s with hTxnDoneQueue := s.hTxnDoneQueue ++ [⟨false, b⟩] }
  | handle (hr : s.returned = true) :
    Moves s .handleTxnDone
      { s with
        hTxnDoneQueue := (handleTxnDone s.hTxnDoneQueue).2
        freed := s.freed + (handleTxnDone s.hTxnDoneQueue).1 }

theorem hasCb_iff (i : ℕ) : pPartitionRegTxn[i]?.any (·.hasCb) = true ↔ i = lastTxn := by
  by_cases h : i < pPartitionRegTxn.length
  · have hall : ∀ i < pPartitionRegTxn.length,
        pPartitionRegTxn[i]?.any (·.hasCb) = true ↔ i = lastTxn := by decide
    exact hall i h
  · have hlen : pPartitionRegTxn.length = lastTxn + 1 := rfl
    rw [List.getElem?_eq_none (by omega)]
    exact ⟨fun h => (nomatch h), fun hi => by omega⟩

theorem moves_of_step (h : step s e = some t) : Moves s e t := by
  have hlen : pPartitionRegTxn.length = lastTxn + 1 := rfl
  cases e with
  | send a =>
    obtain ⟨hr, h⟩ := Option.ite_none_left_eq_some.mp h
    obtain ⟨txn, htxn, rfl⟩ := Option.map_eq_some_iff.mp h
    obtain ⟨hlt, -⟩ := List.getElem?_eq_some_iff.mp htxn
    exact .send a txn (Bool.eq_false_iff.mpr hr) (by omega)
  | ret =>
    obtain ⟨hr, ⟨⟩⟩ := Option.ite_none_left_eq_some.mp h
    rw [not_or] at hr
    exact .ret (Bool.eq_false_iff.mpr hr.1) (by omega)
  | txnDone b =>
    simp only [step] at h
    split at h
    · exact nomatch h
    next i queued hq =>
      cases h
      by_cases hi : i = lastTxn
      · subst hi
        exact .last b queued hq
      · rw [if_neg (mt (hasCb_iff i).mp hi)]
        exact .txnDone b i queued hq hi
  | otherDone b =>
    cases h
    exact .otherDone b
  | handleTxnDone =>
    obtain ⟨hr, ⟨⟩⟩ := Option.ite_none_right_eq_some.mp h
    exact .handle hr

@[simp] theorem own_append_true (ds : List DoneTxn) (b : Bool) :
    own (ds ++ [⟨true, b⟩]) = own ds ++ [b] := by
  simp [own]

@[simp] theorem own_append_false (ds : List DoneTxn) (b : Bool) :
    own (ds ++ [⟨false, b⟩]) = own ds := by
  simp [own]

theorem handleTxnDone_own (ds : List DoneTxn) :
    own ds = List.replicate (handleTxnDone ds).1 false ++ own (handleTxnDone ds).2 ∨
      own ds = List.replicate (handleTxnDone ds).1 false ++ true :: own (handleTxnDone ds).2 := by
  induction ds with
  | nil => exact Or.inl rfl
  | cons d ds ih =>
    obtain ⟨isPartition, isError⟩ := d
    cases isError with
    | true =>
      cases isPartition with
      | true => exact Or.inr rfl
      | false => exact Or.inl rfl
    | false =>
      cases isPartition with
      | true => exact ih.imp (congrArg (false :: ·)) (congrArg (false :: ·))
      | false => exact ih

/-! ## The order of the queue -/

/-- The pending transactions are in order, and the last one is in the done queue only when they are
all done. -/
structure Ordered (s : State) : Prop where
  sorted : s.queued.Pairwise (· < ·)
  below : ∀ i ∈ s.queued, i < s.sent
  sent : s.sent ≤ lastTxn + 1
  single : own s.hTxnDoneQueue = [] ∨
    ∃ b, own s.hTxnDoneQueue = [b] ∧ s.queued = [] ∧ lastTxn < s.sent
  returned : s.returned = true → lastTxn < s.sent

theorem Ordered.own_eq_nil (h : Ordered s) (hq : s.queued ≠ []) : own s.hTxnDoneQueue = [] := by
  rcases h.single with hnil | ⟨b, -, hempty, -⟩
  · exact hnil
  · exact absurd hempty hq

theorem Ordered.last_only (h : Ordered s) {queued : List ℕ} (hq : s.queued = lastTxn :: queued) :
    queued = [] ∧ lastTxn < s.sent := by
  have hsorted := h.sorted
  rw [hq] at hsorted
  constructor
  · refine List.eq_nil_iff_forall_not_mem.mpr fun i hi => ?_
    have hgt := List.rel_of_pairwise_cons hsorted hi
    have hlt := h.below i (hq ▸ List.mem_cons_of_mem _ hi)
    have hle := h.sent
    omega
  · exact h.below lastTxn (hq ▸ List.mem_cons_self)

theorem Ordered.handle (h : Ordered s) :
    (handleTxnDone s.hTxnDoneQueue).1 = 0 ∧
        own (handleTxnDone s.hTxnDoneQueue).2 = own s.hTxnDoneQueue ∨
      (handleTxnDone s.hTxnDoneQueue).1 = (if own s.hTxnDoneQueue = [false] then 1 else 0) ∧
        own (handleTxnDone s.hTxnDoneQueue).2 = [] := by
  have hspec := handleTxnDone_own s.hTxnDoneQueue
  generalize (handleTxnDone s.hTxnDoneQueue).1 = n at hspec ⊢
  generalize own (handleTxnDone s.hTxnDoneQueue).2 = rest at hspec ⊢
  rcases h.single with hown | ⟨b, hown, -⟩ <;> rw [hown] at hspec ⊢ <;> cases n with
  | zero => simpa [eq_comm] using hspec
  | succ n => cases n <;> simp_all [List.replicate_succ]

theorem ordered_step (h : Ordered s) (hm : Moves s e t) : Ordered t := by
  cases hm with
  | send a txn hr hlt =>
    have hnil : own s.hTxnDoneQueue = [] := by
      rcases h.single with hnil | ⟨b, -, -, hall⟩
      · exact hnil
      · omega
    refine ⟨?_, ?_, Nat.succ_le_succ hlt, Or.inl hnil, fun hret => ?_⟩
    · dsimp only
      split
      · refine List.pairwise_append.mpr ⟨h.sorted, List.pairwise_singleton _ _, fun i hi j hj => ?_⟩
        rw [List.mem_singleton.mp hj]
        exact h.below i hi
      · exact h.sorted
    · intro i hi
      dsimp only at hi ⊢
      split at hi
      · rcases List.mem_append.mp hi with hi | hi
        · exact Nat.lt_succ_of_lt (h.below i hi)
        · rw [List.mem_singleton.mp hi]
          exact Nat.lt_succ_self _
      · exact Nat.lt_succ_of_lt (h.below i hi)
    · exact absurd (hr.symm.trans hret) (by decide)
  | ret hr hall => exact ⟨h.sorted, h.below, h.sent, h.single, fun _ => hall⟩
  | last b queued hq =>
    obtain ⟨hempty, hall⟩ := h.last_only hq
    have hnil := h.own_eq_nil (hq ▸ List.cons_ne_nil _ _)
    subst hempty
    refine ⟨List.Pairwise.nil, fun i hi => (nomatch hi), h.sent, Or.inr ⟨b, ?_, rfl, hall⟩,
      h.returned⟩
    rw [own_append_true, hnil, List.nil_append]
  | txnDone b i queued hq hi =>
    have hsorted := h.sorted
    have hnil := h.own_eq_nil (hq ▸ List.cons_ne_nil _ _)
    rw [hq] at hsorted
    exact ⟨hsorted.of_cons, fun j hj => h.below j (hq ▸ List.mem_cons_of_mem _ hj), h.sent,
      Or.inl hnil, h.returned⟩
  | otherDone b =>
    refine ⟨h.sorted, h.below, h.sent, ?_, h.returned⟩
    rw [own_append_false]
    exact h.single
  | handle hr =>
    refine ⟨h.sorted, h.below, h.sent, ?_, h.returned⟩
    rcases h.handle with ⟨-, hsame⟩ | ⟨-, hnil⟩
    · rw [hsame]
      exact h.single
    · exact Or.inl hnil

/-! ## The runs that go well -/

/-- Before the return nothing is freed; afterwards the buffer is freed and unused, or the callback
is still to come. -/
structure Good (s : State) : Prop where
  ordered : Ordered s
  before : s.returned = false → s.freed = 0 ∧ own s.hTxnDoneQueue ≠ [true]
  after : s.returned = true → s.freed = 1 ∧ ¬ InUse s ∨
    s.freed = 0 ∧ (lastTxn ∈ s.queued ∨ own s.hTxnDoneQueue = [false])

theorem Good.safe (h : Good s) : Safe s := by
  cases hr : s.returned with
  | false =>
    have h0 := (h.before hr).1
    refine ⟨by omega, fun hpos => by omega, fun hrest => ?_⟩
    exact absurd (hr.symm.trans hrest.1) (by decide)
  | true =>
    rcases h.after hr with ⟨h1, hunused⟩ | ⟨h0, hcb⟩
    · exact ⟨Nat.le_of_eq h1, fun _ => hunused, fun _ => h1⟩
    · refine ⟨by omega, fun hpos => by omega, fun hrest => absurd ?_ hrest.2⟩
      rcases hcb with hq | hown
      · exact Or.inl (List.ne_nil_of_mem hq)
      · exact Or.inr (hown ▸ List.cons_ne_nil _ _)

theorem good_step (h : Good s) (hfits : Fits s e) (hm : Moves s e t) : Good t := by
  refine ⟨ordered_step h.ordered hm, ?_, ?_⟩
  · intro hret
    cases hm with
    | send a txn hr hlt => exact h.before hr
    | ret hr hall => exact nomatch hret
    | last b queued hq =>
      have hb : b = false := hfits (by rw [hq, List.head?_cons])
      have hnil := h.ordered.own_eq_nil (hq ▸ List.cons_ne_nil _ _)
      refine ⟨(h.before hret).1, ?_⟩
      rw [own_append_true, hnil, hb]
      decide
    | txnDone b i queued hq hi => exact h.before hret
    | otherDone b =>
      rw [own_append_false]
      exact h.before hret
    | handle hr => exact absurd (hr.symm.trans hret) (by decide)
  · intro hret
    cases hm with
    | send a txn hr hlt => exact absurd (hr.symm.trans hret) (by decide)
    | ret hr hall =>
      obtain ⟨h0, hown⟩ := h.before hr
      dsimp only
      by_cases hp : s.eStatus = some .pending
      · rw [Fits, if_pos hp] at hfits
        rw [if_neg (not_not_intro hp)]
        refine Or.inr ⟨h0, hfits.imp_right fun hne => ?_⟩
        rcases h.ordered.single with hnil | ⟨b, hb, -, -⟩
        · exact absurd hnil hne
        · cases b with
          | true => exact absurd hb hown
          | false => exact hb
      · rw [Fits, if_neg hp] at hfits
        rw [if_pos hp, h0]
        exact Or.inl ⟨rfl, hfits⟩
    | last b queued hq =>
      have hb : b = false := hfits (by rw [hq, List.head?_cons])
      have hne : s.queued ≠ [] := hq ▸ List.cons_ne_nil _ _
      rcases h.after hret with ⟨-, hunused⟩ | ⟨h0, -⟩
      · exact absurd (Or.inl hne) hunused
      · refine Or.inr ⟨h0, Or.inr ?_⟩
        rw [own_append_true, h.ordered.own_eq_nil hne, hb, List.nil_append]
    | txnDone b i queued hq hi =>
      have hne : s.queued ≠ [] := hq ▸ List.cons_ne_nil _ _
      rcases h.after hret with ⟨-, hunused⟩ | ⟨h0, hcb⟩
      · exact absurd (Or.inl hne) hunused
      · refine Or.inr ⟨h0, hcb.imp_left fun hmem => ?_⟩
        rw [hq] at hmem
        exact (List.mem_cons.mp hmem).resolve_left hi.symm
    | otherDone b =>
      unfold InUse
      rw [own_append_false]
      exact h.after hret
    | handle hr =>
      dsimp only
      rcases h.after hret with ⟨h1, hunused⟩ | ⟨h0, hcb⟩
      · obtain ⟨hq, hown⟩ := not_or.mp hunused
        rw [not_not] at hq hown
        rcases h.ordered.handle with ⟨hn, hsame⟩ | ⟨hn, hnil⟩
        · refine Or.inl ⟨by rw [hn, h1], not_or.mpr ⟨not_not_intro hq, not_not_intro ?_⟩⟩
          rw [hsame, hown]
        · rw [hown, if_neg (by decide)] at hn
          exact Or.inl ⟨by rw [hn, h1], not_or.mpr ⟨not_not_intro hq, not_not_intro hnil⟩⟩
      · rcases h.ordered.handle with ⟨hn, hsame⟩ | ⟨hn, hnil⟩
        · rw [hn, hsame]
          exact Or.inr ⟨h0, hcb⟩
        · rcases hcb with hmem | hfalse
          · rw [h.ordered.own_eq_nil (List.ne_nil_of_mem hmem), if_neg (by decide)] at hn
            rw [hn]
            exact Or.inr ⟨h0, Or.inl hmem⟩
          · rw [hfalse, if_pos rfl] at hn
            refine Or.inl ⟨by rw [hn, h0], not_or.mpr ⟨?_, not_not_intro hnil⟩⟩
            rcases h.ordered.single with hempty | ⟨-, -, hq, -⟩
            · exact absurd (hempty.symm.trans hfalse) (by decide)
            · exact not_not_intro hq

/-! ## The runs that do not -/

/-- Nobody will free the buffer. -/
structure Doomed (s : State) : Prop where
  ordered : Ordered s
  sent : lastTxn < s.sent
  freed : s.freed = 0
  queued : lastTxn ∉ s.queued
  own : own s.hTxnDoneQueue ≠ [false]
  before : s.returned = false → TwIf.own s.hTxnDoneQueue = [true]

theorem Doomed.not_safe (h : Doomed s) (hrest : AtRest s) : ¬ Safe s := by
  intro hs
  have h0 := h.freed
  have h1 := hs.atRest hrest
  omega

theorem doomed_of_not_fits (h : Good s) (hfits : ¬ Fits s e) (hm : Moves s e t) (ht : Safe t) :
    Doomed t := by
  have hordered := ordered_step h.ordered hm
  cases hm with
  | send a txn hr hlt | otherDone b | handle hr => exact absurd trivial hfits
  | ret hr hall =>
    obtain ⟨h0, -⟩ := h.before hr
    by_cases hp : s.eStatus = some .pending
    · rw [Fits, if_pos hp, not_or, not_not] at hfits
      refine ⟨hordered, hall, ?_, hfits.1, ?_, fun hret => nomatch hret⟩
      · exact (if_neg (not_not_intro hp)).trans h0
      · dsimp only
        rw [hfits.2]
        decide
    · rw [Fits, if_neg hp, not_not] at hfits
      refine absurd hfits (ht.unused ?_)
      dsimp only
      rw [if_pos hp]
      exact Nat.succ_pos _
  | last b queued hq =>
    obtain ⟨hempty, hall⟩ := h.ordered.last_only hq
    have hne : s.queued ≠ [] := hq ▸ List.cons_ne_nil _ _
    have hb : b = true := by
      cases b with
      | true => rfl
      | false => exact absurd (fun _ => rfl) hfits
    have hown : own (s.hTxnDoneQueue ++ [⟨true, b⟩]) = [true] := by
      rw [own_append_true, h.ordered.own_eq_nil hne, hb, List.nil_append]
    refine ⟨hordered, hall, ?_, ?_, ?_, fun _ => hown⟩
    · cases hr : s.returned with
      | false => exact (h.before hr).1
      | true =>
        rcases h.after hr with ⟨-, hunused⟩ | ⟨h0, -⟩
        · exact absurd (Or.inl hne) hunused
        · exact h0
    · rw [hempty]
      exact List.not_mem_nil
    · dsimp only
      rw [hown]
      decide
  | txnDone b i queued hq hi =>
    refine absurd (fun hhead => absurd ?_ hi) hfits
    rw [hq, List.head?_cons] at hhead
    exact Option.some.inj hhead

theorem doomed_step (h : Doomed s) (hm : Moves s e t) (ht : Safe t) : Doomed t := by
  have hordered := ordered_step h.ordered hm
  have hsent := h.sent
  cases hm with
  | send a txn hr hlt => omega
  | ret hr hall =>
    have hown := h.before hr
    by_cases hp : s.eStatus = some .pending
    · exact ⟨hordered, hall, (if_neg (not_not_intro hp)).trans h.freed, h.queued, h.own,
        fun hret => nomatch hret⟩
    · refine absurd (Or.inr ?_) (ht.unused ?_)
      · dsimp only
        rw [hown]
        decide
      · dsimp only
        rw [if_pos hp]
        exact Nat.succ_pos _
  | last b queued hq => exact absurd (hq ▸ List.mem_cons_self) h.queued
  | txnDone b i queued hq hi =>
    exact ⟨hordered, hsent, h.freed, fun hmem => h.queued (hq ▸ List.mem_cons_of_mem _ hmem), h.own,
      h.before⟩
  | otherDone b =>
    refine ⟨hordered, hsent, h.freed, h.queued, ?_, ?_⟩
    · rw [own_append_false]
      exact h.own
    · rw [own_append_false]
      exact h.before
  | handle hr =>
    have hret : s.returned ≠ false := fun hf => absurd (hr.symm.trans hf) (by decide)
    rcases h.ordered.handle with ⟨hn, hsame⟩ | ⟨hn, hnil⟩
    · refine ⟨hordered, hsent, by dsimp only; rw [hn, h.freed], h.queued, ?_, (absurd · hret)⟩
      dsimp only
      rw [hsame]
      exact h.own
    · rw [if_neg h.own] at hn
      refine ⟨hordered, hsent, by dsimp only; rw [hn, h.freed], h.queued, ?_, (absurd · hret)⟩
      dsimp only
      rw [hnil]
      decide

/-! ## Runs -/

theorem good_init : Good init where
  ordered :=
    { sorted := List.Pairwise.nil
      below := fun _ h => nomatch h
      sent := Nat.zero_le _
      single := Or.inl rfl
      returned := fun h => nomatch h }
  before := fun _ => ⟨rfl, by decide⟩
  after := fun h => nomatch h

/-- **A run to the end frees the buffer exactly once and never in use exactly if every step
`Fits`.** -/
theorem partition_freed_right_iff {es : List Event} {s : State} (he : exec step init es = some s)
    (hrest : AtRest s) :
    (∀ js t, js <+: es → exec step init js = some t → Safe t) ↔ Along step Fits init es :=
  along_iff_of_doomed (fun _ h => h.safe)
    (fun _ _ _ h hfits ht => good_step h hfits (moves_of_step ht))
    (fun _ _ _ h hfits ht hs => doomed_of_not_fits h hfits (moves_of_step ht) hs)
    (fun _ _ _ h ht hs => doomed_step h (moves_of_step ht) hs) good_init he
    (fun h => h.not_safe hrest)

section Samples

/-- Seven pending transactions, of which the last one may end with an error. -/
def allPending (isError : Bool) : List Event :=
  List.replicate 7 (.send .pending) ++ .ret :: List.replicate 6 (.txnDone false) ++
    [.txnDone isError, .handleTxnDone]

def lastPending : List Event :=
  List.replicate 6 (.send .complete) ++ [.send .pending, .ret, .txnDone false, .handleTxnDone]

/-- The callback frees the buffer. -/
theorem partition_freed_right_allPending :
    Along step Fits init (allPending false) ∧
      ∀ js t, js <+: allPending false → exec step init js = some t → Safe t :=
  ⟨by decide, (partition_freed_right_iff (s := ⟨7, some .pending, [], [], true, 1⟩) rfl
    (by decide)).mpr (by decide)⟩

/-- The sixth transaction completes at once, the last one later: the buffer is freed at the return,
and again by the callback. The last of seven pending transactions fails: it is never freed. -/
theorem freed_twice_and_never :
    (∃ s, exec step init lastPending = some s ∧ s.freed = 2 ∧ ¬ Safe s) ∧
      ∃ s, exec step init (allPending true) = some s ∧ AtRest s ∧ s.freed = 0 ∧ ¬ Safe s := by
  constructor
  · refine ⟨⟨7, some .complete, [], [], true, 2⟩, rfl, rfl, fun h => ?_⟩
    exact absurd h.once (by decide)
  · refine ⟨⟨7, some .pending, [], [], true, 0⟩, rfl, by decide, rfl, fun h => ?_⟩
    exact absurd (h.atRest (by decide)) (by decide)

end Samples

end ArchosGpl.Wlan.TwIf
