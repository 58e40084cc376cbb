import ArchosGpl.Wlan.SdioBusDrv.Model

/-!
# Sending the parts

`busDrv_SendTxnParts` is called with no part on the bus (`Mid`) and stops with one on the bus
(`Running`) or with the transaction ended (`Ended`): **the parts go out in order, none after a
failed one, and the end is reported by the callback exactly if some part was pending**
(`sendParts_spec`).
-/

namespace ArchosGpl.Wlan.SdioBusDrv

open Lib Sys

/-- All parts that have ended succeeded. -/
def Group.okAll (g : Group) : Bool := g.sent.all (·.ok)

/-- The bus is called once for a part, or once again if a single step has failed. -/
def Tried (pTxn : TTxnStruct) (tries : List ETxnStatus) : Prop :=
  tries.length = 1 ∨ (pTxn.singleStep = true ∧ ∃ r, tries = [.error, r])

theorem tryPart_tried (pTxn : TTxnStruct) (op : ℕ → OpResult) (n : ℕ) :
    Tried pTxn (tryPart pTxn op n).1 := by
  unfold tryPart
  split
  case isTrue h => exact Or.inr ⟨h.1, _, rfl⟩
  case isFalse => exact Or.inl rfl

/-- The host buffers after bytes were copied to them, in order. -/
def fill : List (List Byte) → List Byte → List (List Byte)
  | [], _ => []
  | buf :: bufs, l =>
    if buf.length = 0 then buf :: bufs else l.take buf.length :: fill bufs (l.drop buf.length)

/-- The host buffers of a read that has received `l`. -/
def TTxnStruct.filled (pTxn : TTxnStruct) (l : List Byte) : List (List Byte) :=
  fill (pTxn.aBuf.take MAX_XFER_BUFS) l ++ pTxn.aBuf.drop MAX_XFER_BUFS

theorem scatter_eq_fill (rx : Buffer Byte) (off : ℕ) (bufs : List (List Byte)) :
    scatter rx off bufs = fill bufs (rx.slice off
      ((bufs.takeWhile fun buf => buf.length ≠ 0).map List.length).sum) := by
  induction bufs generalizing off with
  | nil => rfl
  | cons buf bufs ih =>
    unfold scatter fill
    by_cases h : buf.length = 0
    · rw [if_pos h, if_pos h]
    · rw [if_neg h, if_neg h, List.takeWhile_cons_of_pos (by simpa using h), List.map_cons,
        List.sum_cons, Buffer.slice_add, List.take_left' (Buffer.length_slice ..),
        List.drop_left' (Buffer.length_slice ..), ih]

/-! ## What sending leaves alone -/

/-- The two states agree on all that sending does not change. -/
structure Same (s s' : Sys) : Prop where
  cur : s'.bus.pCurrTxn = s.bus.pCurrTxn
  parts : s'.bus.aTxnParts = s.bus.aTxnParts
  tx : s'.bus.pTxDmaBuf = s.bus.pTxDmaBuf
  length : s'.bus.uTxnLength = s.bus.uTxnLength
  shift : s'.bus.uBlkSizeShift = s.bus.uBlkSizeShift
  inCall : s'.inCall = s.inCall
  past : s'.past = s.past
  txns : s'.group.txns = s.group.txns
  returned : s'.group.returned = s.group.returned

variable {s : Sys}

theorem Same.trans {t u : Sys} (h : Same s t) (h' : Same t u) : Same s u :=
  ⟨h'.cur.trans h.cur, h'.parts.trans h.parts, h'.tx.trans h.tx, h'.length.trans h.length,
    h'.shift.trans h.shift, h'.inCall.trans h.inCall, h'.past.trans h.past, h'.txns.trans h.txns,
    h'.returned.trans h.returned⟩

theorem same_reportAsync (s : Sys) : Same s s.reportAsync := by
  unfold reportAsync
  split_ifs <;> exact ⟨rfl, rfl, rfl, rfl, rfl, rfl, rfl, rfl, rfl⟩

theorem same_deliver (pTxn : TTxnStruct) (a n : ℕ) (data : ℕ → Byte) (s : Sys) :
    Same s (s.deliver pTxn a n data) := by
  unfold deliver
  split_ifs <;> exact ⟨rfl, rfl, rfl, rfl, rfl, rfl, rfl, rfl, rfl⟩

theorem same_finish (pTxn : TTxnStruct) (s : Sys) : Same s (s.finish pTxn) := by
  unfold finish
  refine Same.trans ?_ (same_reportAsync _)
  split_ifs <;> exact ⟨rfl, rfl, rfl, rfl, rfl, rfl, rfl, rfl, rfl⟩

/-- The calls of the bus for the parts in the table. -/
def Sys.calls (s : Sys) (pTxn : TTxnStruct) : List BusCall :=
  s.bus.aTxnParts.map (busCall s.bus pTxn)

theorem Same.calls {s' : Sys} (h : Same s s') (pTxn : TTxnStruct) :
    s'.calls pTxn = s.calls pTxn := by
  unfold Sys.calls
  rw [h.parts]
  refine List.map_congr_left fun p _ => ?_
  unfold busCall
  rw [h.tx]

/-! ## The states of a transaction -/

/-- The parts that have ended, and the one on the bus, are the first parts of the table. -/
structure Started (s : Sys) (pTxn : TTxnStruct) : Prop where
  le : s.bus.uCurrTxnPartsCount ≤ s.bus.aTxnParts.length
  calls : s.group.sent.map (·.call) ++ (s.group.onBus.map Prod.fst).toList =
    (s.calls pTxn).take s.bus.uCurrTxnPartsCount
  tried : ∀ p ∈ s.group.sent, Tried pTxn p.tries

/-- What a read has received is at the start of the Rx buffer. -/
def Received (s : Sys) (pTxn : TTxnStruct) : Prop :=
  pTxn.direction = .read →
    s.group.received.length = ((s.bus.aTxnParts.map (·.uLength)).take s.group.sent.length).sum ∧
      s.bus.pRxDmaBuf.slice 0 s.group.received.length = s.group.received

/-- Before a turn of the loop: `sync` says that no part was pending so far. -/
structure Mid (sync : Bool) (s : Sys) (pTxn : TTxnStruct) : Prop extends Started s pTxn where
  onBus : s.group.onBus = none
  ok : ∀ p ∈ s.group.sent, p.ok = true
  cbs : s.group.doneCbs = []
  statusOk : s.bus.statusOk = true
  sync : if sync then
      s.bus.uCurrTxnPartsCountSync = s.bus.uCurrTxnPartsCount ∧
        (0 < s.bus.uCurrTxnPartsCount → s.bus.eCurrTxnStatus = .complete)
    else s.bus.uCurrTxnPartsCountSync < s.bus.uCurrTxnPartsCount
  received : Received s pTxn

/-- A part is on the bus. -/
structure Running (s : Sys) (pTxn : TTxnStruct) : Prop extends Started s pTxn where
  onBus : ∃ part, s.group.onBus = some part ∧ Tried pTxn part.2
  ok : ∀ p ∈ s.group.sent, p.ok = true
  cbs : s.group.doneCbs = []
  statusOk : s.bus.statusOk = true
  async : s.bus.uCurrTxnPartsCountSync < s.bus.uCurrTxnPartsCount
  status : s.bus.eCurrTxnStatus = .pending
  received : Received s pTxn

/-- The transaction has ended: `sync` says that no part was pending. -/
structure Ended (sync : Bool) (s : Sys) (pTxn : TTxnStruct) : Prop extends Started s pTxn where
  onBus : s.group.onBus = none
  ok : ∀ p ∈ s.group.sent.dropLast, p.ok = true
  done : s.group.okAll = true → s.bus.uCurrTxnPartsCount = s.bus.aTxnParts.length ∧
    (pTxn.direction = .read →
      s.group.received.length = (s.bus.aTxnParts.map (·.uLength)).sum ∧
        s.group.hostBufs = some (scatter s.bus.pRxDmaBuf 0 (pTxn.aBuf.take MAX_XFER_BUFS) ++
          pTxn.aBuf.drop MAX_XFER_BUFS) ∧
        s.bus.pRxDmaBuf.slice 0 s.group.received.length = s.group.received)
  report : if sync then
      s.group.doneCbs = [] ∧
        s.bus.eCurrTxnStatus = if s.group.okAll then .complete else .error
    else s.group.doneCbs = [s.group.okAll]

theorem okAll_of_forall {g : Group} (h : ∀ p ∈ g.sent, p.ok = true) : g.okAll = true :=
  List.all_eq_true.mpr h

variable {sync : Bool} {pTxn : TTxnStruct}

theorem Mid.sent_length (h : Mid sync s pTxn) : s.group.sent.length = s.bus.uCurrTxnPartsCount := by
  have := congrArg List.length h.calls
  rw [h.onBus] at this
  simp only [Option.map_none, Option.toList_none, List.append_nil, List.length_map,
    List.length_take, Sys.calls] at this
  rw [this, Nat.min_eq_left h.le]

/-! ## The end of the loop -/

theorem Ended.of_report (hst : Started s pTxn)
    (honBus : s.group.onBus = none) (hok : ∀ p ∈ s.group.sent.dropLast, p.ok = true)
    (hdone : s.group.okAll = true → s.bus.uCurrTxnPartsCount = s.bus.aTxnParts.length ∧
      (pTxn.direction = .read →
        s.group.received.length = (s.bus.aTxnParts.map (·.uLength)).sum ∧
          s.group.hostBufs = some (scatter s.bus.pRxDmaBuf 0 (pTxn.aBuf.take MAX_XFER_BUFS) ++
            pTxn.aBuf.drop MAX_XFER_BUFS) ∧
          s.bus.pRxDmaBuf.slice 0 s.group.received.length = s.group.received))
    (hcbs : s.group.doneCbs = []) (hstatus : s.bus.statusOk = s.group.okAll)
    (hsync : if sync then
        s.bus.uCurrTxnPartsCountSync = s.bus.uCurrTxnPartsCount ∧
          s.bus.eCurrTxnStatus = if s.group.okAll then .complete else .error
      else s.bus.uCurrTxnPartsCountSync < s.bus.uCurrTxnPartsCount) :
    Ended sync s.reportAsync pTxn := by
  cases sync with
  | true =>
    have hr : s.reportAsync = s := if_neg (not_not.mpr hsync.1)
    rw [hr]
    exact ⟨hst, honBus, hok, hdone, hcbs, hsync.2⟩
  | false =>
    have hr : s.reportAsync = s.fTxnDoneCb := if_pos (Nat.ne_of_lt hsync)
    rw [hr]
    refine ⟨⟨hst.le, hst.calls, hst.tried⟩, honBus, hok, hdone, ?_⟩
    change s.group.doneCbs ++ [s.bus.statusOk] = [s.group.okAll]
    rw [hcbs, hstatus]
    rfl

theorem Mid.finish (h : Mid sync s pTxn)
    (hall : s.bus.uCurrTxnPartsCount = s.bus.aTxnParts.length) (hne : 0 < s.bus.aTxnParts.length) :
    Ended sync (s.finish pTxn) pTxn := by
  have hok : s.group.okAll = true := okAll_of_forall h.ok
  have hsync : if sync then
        s.bus.uCurrTxnPartsCountSync = s.bus.uCurrTxnPartsCount ∧
          s.bus.eCurrTxnStatus = if s.group.okAll then .complete else .error
      else s.bus.uCurrTxnPartsCountSync < s.bus.uCurrTxnPartsCount := by
    have := h.sync
    cases sync with
    | true => exact ⟨this.1, by rw [hok]; exact this.2 (hall ▸ hne)⟩
    | false => exact this
  have hdrop : ∀ p ∈ s.group.sent.dropLast, p.ok = true :=
    fun p hp => h.ok p (List.dropLast_subset _ hp)
  unfold Sys.finish
  by_cases hr : pTxn.direction = .read
  · obtain ⟨hlen, hslice⟩ := h.received hr
    rw [if_pos hr]
    refine Ended.of_report ⟨h.le, h.calls, h.tried⟩ h.onBus hdrop ?_ h.cbs
      (h.statusOk.trans hok.symm) hsync
    refine fun _ => ⟨hall, fun _ => ⟨?_, rfl, hslice⟩⟩
    rw [hlen, h.sent_length, hall, List.take_of_length_le (by simp)]
  · rw [if_neg hr]
    exact Ended.of_report h.toStarted h.onBus hdrop (fun _ => ⟨hall, fun hd => absurd hd hr⟩) h.cbs
      (h.statusOk.trans hok.symm) hsync

/-! ## One turn of the loop -/

section Turn

variable {sync : Bool} {s : Sys} {pTxn : TTxnStruct} {p : TTxnPart} {ps : List TTxnPart}

/-- The state when the part is taken from the table. -/
def Sys.taken (s : Sys) : Sys :=
  { s with bus := { s.bus with
    uCurrTxnPartsCount := s.bus.uCurrTxnPartsCount + 1
    eCurrTxnStatus := .pending } }

/-- The part stays on the bus. -/
def Sys.pended (pTxn : TTxnStruct) (p : TTxnPart) (tries : List ETxnStatus) (s : Sys) : Sys :=
  { s.taken with group := { s.group with onBus := some (busCall s.bus pTxn p, tries) } }

/-- The part fails in the call. -/
def Sys.failed (pTxn : TTxnStruct) (p : TTxnPart) (tries : List ETxnStatus) (s : Sys) : Sys :=
  { s.taken with
    bus := { s.taken.bus with
      eCurrTxnStatus := .error
      uCurrTxnPartsCountSync := s.bus.uCurrTxnPartsCountSync + 1
      statusOk := false }
    group := { s.group with
      sent := s.group.sent ++ [Sent.mk (busCall s.bus pTxn p) tries false] } }

/-- The part is done in the call. -/
def Sys.completed (pTxn : TTxnStruct) (p : TTxnPart) (tries : List ETxnStatus) (s : Sys) : Sys :=
  { s.taken with
    bus := { s.taken.bus with
      eCurrTxnStatus := .complete
      uCurrTxnPartsCountSync := s.bus.uCurrTxnPartsCountSync + 1 }
    group := { s.group with
      sent := s.group.sent ++ [Sent.mk (busCall s.bus pTxn p) tries true] } }

theorem sendParts_cons (pTxn : TTxnStruct) (op : ℕ → OpResult) (n : ℕ) (p : TTxnPart)
    (ps : List TTxnPart) (s : Sys) :
    sendParts pTxn op n (p :: ps) s =
      match (tryPart pTxn op n).2.1 with
      | .pending => s.pended pTxn p (tryPart pTxn op n).1
      | .error => (s.failed pTxn p (tryPart pTxn op n).1).reportAsync
      | .complete data => sendParts pTxn op (tryPart pTxn op n).2.2 ps
          ((s.completed pTxn p (tryPart pTxn op n).1).deliver pTxn p.pHostAddr p.uLength data) :=
  rfl

theorem take_of_drop (pTxn : TTxnStruct) (h : s.bus.aTxnParts.drop s.bus.uCurrTxnPartsCount = p :: ps) :
    s.bus.uCurrTxnPartsCount < s.bus.aTxnParts.length ∧
      s.bus.aTxnParts[s.bus.uCurrTxnPartsCount]? = some p ∧
      (s.calls pTxn).take (s.bus.uCurrTxnPartsCount + 1) =
        (s.calls pTxn).take s.bus.uCurrTxnPartsCount ++ [busCall s.bus pTxn p] := by
  have hlt : s.bus.uCurrTxnPartsCount < s.bus.aTxnParts.length := by
    by_contra hge
    rw [List.drop_eq_nil_of_le (Nat.not_lt.mp hge)] at h
    cases h
  have hp : s.bus.aTxnParts[s.bus.uCurrTxnPartsCount]? = some p := by
    have := congrArg (·[0]?) h
    simpa using this
  refine ⟨hlt, hp, ?_⟩
  rw [List.take_add_one, Sys.calls, List.getElem?_map, hp]
  rfl

theorem Mid.calls_take (h : Mid sync s pTxn) :
    s.group.sent.map (·.call) = (s.calls pTxn).take s.bus.uCurrTxnPartsCount := by
  have := h.calls
  rwa [h.onBus, Option.map_none, Option.toList_none, List.append_nil] at this

variable {tries : List ETxnStatus}

theorem Mid.pend (h : Mid sync s pTxn)
    (hd : s.bus.aTxnParts.drop s.bus.uCurrTxnPartsCount = p :: ps)
    (ht : Tried pTxn tries) :
    Running (s.pended pTxn p tries) pTxn := by
  obtain ⟨hlt, -, htake⟩ := take_of_drop pTxn hd
  refine ⟨⟨hlt, ?_, h.tried⟩, ⟨_, rfl, ht⟩, h.ok, h.cbs, h.statusOk, ?_, rfl, h.received⟩
  · exact (congrArg (· ++ [busCall s.bus pTxn p]) h.calls_take).trans htake.symm
  · have := h.sync
    change s.bus.uCurrTxnPartsCountSync < s.bus.uCurrTxnPartsCount + 1
    cases sync with
    | true => exact Nat.lt_succ_of_le (Nat.le_of_eq this.1)
    | false => exact Nat.lt_succ_of_lt this

theorem Mid.fail (h : Mid sync s pTxn)
    (hd : s.bus.aTxnParts.drop s.bus.uCurrTxnPartsCount = p :: ps)
    (ht : Tried pTxn tries) : Ended sync (s.failed pTxn p tries).reportAsync pTxn := by
  obtain ⟨hlt, -, htake⟩ := take_of_drop pTxn hd
  have hok : (s.group.sent ++ [Sent.mk (busCall s.bus pTxn p) tries false]).all (·.ok) = false := by
    rw [List.all_append]
    exact Bool.and_false _
  refine Ended.of_report ⟨hlt, ?_, ?_⟩ h.onBus ?_ ?_ h.cbs hok.symm ?_
  · change (s.group.sent ++ [_]).map _ ++ (Option.map Prod.fst s.group.onBus).toList = _
    rw [h.onBus, List.map_append, h.calls_take, Option.map_none, Option.toList_none,
      List.append_nil]
    exact htake.symm
  · exact List.forall_mem_append.mpr ⟨h.tried, List.forall_mem_singleton.mpr ht⟩
  · change ∀ q ∈ List.dropLast (s.group.sent ++ [Sent.mk (busCall s.bus pTxn p) tries false]),
      q.ok = true
    rw [List.dropLast_concat]
    exact h.ok
  · intro hall
    exact absurd (hall.symm.trans hok) Bool.noConfusion
  · have := h.sync
    cases sync with
    | true =>
      refine ⟨congrArg (· + 1) this.1, ?_⟩
      change ETxnStatus.error = if (s.group.sent ++ [_]).all (·.ok) = true then _ else _
      rw [hok]
      rfl
    | false => exact Nat.succ_lt_succ this

theorem received_deliver {m : ℕ} (data : ℕ → Byte)
    (hrec : pTxn.direction = .read →
      s.group.received.length = ((s.bus.aTxnParts.map (·.uLength)).take m).sum ∧
        s.bus.pRxDmaBuf.slice 0 s.group.received.length = s.group.received)
    (hp : s.bus.aTxnParts[m]? = some p)
    (hhost : p.pHostAddr = ((s.bus.aTxnParts.map (·.uLength)).take m).sum)
    (hm : s.group.sent.length = m + 1) :
    Received (s.deliver pTxn p.pHostAddr p.uLength data) pTxn := by
  intro hr
  obtain ⟨hlen, hslice⟩ := hrec hr
  unfold deliver
  rw [if_pos hr]
  change (s.group.received ++ _).length = ((s.bus.aTxnParts.map _).take s.group.sent.length).sum ∧
    (s.bus.pRxDmaBuf.copyTo _ _).slice 0 (s.group.received ++ _).length = s.group.received ++ _
  have hsum : ((s.bus.aTxnParts.map (·.uLength)).take (m + 1)).sum =
      ((s.bus.aTxnParts.map (·.uLength)).take m).sum + p.uLength := by
    rw [List.take_add_one, List.getElem?_map, hp, List.sum_append]
    exact congrArg _ (Nat.add_zero _)
  have hcopy := s.bus.pRxDmaBuf.slice_copyTo_append 0 s.group.received.length
    ((List.range p.uLength).map data)
  rw [Nat.zero_add, hslice] at hcopy
  rw [List.length_append, List.length_map, List.length_range, hm, hsum, hhost, ← hlen]
  refine ⟨rfl, ?_⟩
  rwa [List.length_map, List.length_range] at hcopy

theorem deliver_facts (s : Sys) (pTxn : TTxnStruct) (data : ℕ → Byte) (a n : ℕ) :
    (s.deliver pTxn a n data).group.sent = s.group.sent ∧
      (s.deliver pTxn a n data).group.onBus = s.group.onBus ∧
      (s.deliver pTxn a n data).group.doneCbs = s.group.doneCbs ∧
      (s.deliver pTxn a n data).bus.uCurrTxnPartsCount = s.bus.uCurrTxnPartsCount ∧
      (s.deliver pTxn a n data).bus.uCurrTxnPartsCountSync = s.bus.uCurrTxnPartsCountSync ∧
      (s.deliver pTxn a n data).bus.eCurrTxnStatus = s.bus.eCurrTxnStatus ∧
      (s.deliver pTxn a n data).bus.statusOk = s.bus.statusOk := by
  unfold deliver
  split_ifs <;> exact ⟨rfl, rfl, rfl, rfl, rfl, rfl, rfl⟩

theorem Mid.of_deliver {data : ℕ → Byte} {a n : ℕ} (hst : Started s pTxn)
    (honBus : s.group.onBus = none) (hok : ∀ q ∈ s.group.sent, q.ok = true)
    (hcbs : s.group.doneCbs = []) (hstatus : s.bus.statusOk = true)
    (hsync : if sync then
        s.bus.uCurrTxnPartsCountSync = s.bus.uCurrTxnPartsCount ∧
          (0 < s.bus.uCurrTxnPartsCount → s.bus.eCurrTxnStatus = .complete)
      else s.bus.uCurrTxnPartsCountSync < s.bus.uCurrTxnPartsCount)
    (hrec : Received (s.deliver pTxn a n data) pTxn) :
    Mid sync (s.deliver pTxn a n data) pTxn := by
  obtain ⟨h₁, h₂, h₃, h₄, h₅, h₆, h₇⟩ := deliver_facts s pTxn data a n
  have hsame := same_deliver pTxn a n data s
  refine ⟨⟨?_, ?_, ?_⟩, h₂.trans honBus, ?_, h₃.trans hcbs, h₇.trans hstatus, ?_, hrec⟩
  · rw [h₄, hsame.parts]
    exact hst.le
  · rw [h₁, h₂, h₄, hsame.calls]
    exact hst.calls
  · rw [h₁]
    exact hst.tried
  · rw [h₁]
    exact hok
  · rw [h₄, h₅, h₆]
    exact hsync

theorem Mid.complete (h : Mid sync s pTxn)
    (hd : s.bus.aTxnParts.drop s.bus.uCurrTxnPartsCount = p :: ps)
    (ht : Tried pTxn tries) (data : ℕ → Byte)
    (hhost : p.pHostAddr =
      ((s.bus.aTxnParts.map (·.uLength)).take s.bus.uCurrTxnPartsCount).sum) :
    Mid sync ((s.completed pTxn p tries).deliver pTxn p.pHostAddr p.uLength data) pTxn := by
  obtain ⟨hlt, hp, htake⟩ := take_of_drop pTxn hd
  refine Mid.of_deliver ⟨hlt, ?_, ?_⟩ h.onBus ?_ h.cbs h.statusOk ?_
    (received_deliver data (fun hr => ?_) hp hhost ?_)
  · change (s.group.sent ++ [_]).map _ ++ (Option.map Prod.fst s.group.onBus).toList = _
    rw [h.onBus, List.map_append, h.calls_take, Option.map_none, Option.toList_none,
      List.append_nil]
    exact htake.symm
  · exact List.forall_mem_append.mpr ⟨h.tried, List.forall_mem_singleton.mpr ht⟩
  · exact List.forall_mem_append.mpr ⟨h.ok, List.forall_mem_singleton.mpr rfl⟩
  · have := h.sync
    cases sync with
    | true => exact ⟨congrArg (· + 1) this.1, fun _ => rfl⟩
    | false => exact Nat.succ_lt_succ this
  · have := h.received hr
    rw [h.sent_length] at this
    exact this
  · change (s.group.sent ++ [_]).length = _
    rw [List.length_append, h.sent_length]
    rfl

end Turn

/-! ## The loop -/

/-- The host addresses of the parts, as `busDrv_PrepareTxnParts` sets them. -/
def HostAddrs (parts : List TTxnPart) : Prop :=
  ∀ i p, parts[i]? = some p → p.pHostAddr = ((parts.map (·.uLength)).take i).sum

/-- **Sending stops with a part on the bus or with the transaction ended.** -/
theorem sendParts_spec {op : ℕ → OpResult} {ps : List TTxnPart}
    {n : ℕ} (h : Mid sync s pTxn) (hhost : HostAddrs s.bus.aTxnParts)
    (hne : 0 < s.bus.aTxnParts.length)
    (hd : s.bus.aTxnParts.drop s.bus.uCurrTxnPartsCount = ps) :
    Same s (sendParts pTxn op n ps s) ∧
      (Running (sendParts pTxn op n ps s) pTxn ∨ Ended sync (sendParts pTxn op n ps s) pTxn) := by
  induction ps generalizing n s with
  | nil =>
    have hall := Nat.le_antisymm h.le (List.drop_eq_nil_iff.mp hd)
    exact ⟨same_finish pTxn s, Or.inr (h.finish hall hne)⟩
  | cons p ps ih =>
    have ht := tryPart_tried pTxn op n
    obtain ⟨-, hp, -⟩ := take_of_drop pTxn hd
    have hdrop : s.bus.aTxnParts.drop (s.bus.uCurrTxnPartsCount + 1) = ps := by
      rw [← List.drop_drop, hd]
      rfl
    rw [sendParts_cons]
    cases hr : (tryPart pTxn op n).2.1 with
    | pending => exact ⟨⟨rfl, rfl, rfl, rfl, rfl, rfl, rfl, rfl, rfl⟩, Or.inl (h.pend hd ht)⟩
    | error =>
      refine ⟨Same.trans ?_ (same_reportAsync _), Or.inr (h.fail hd ht)⟩
      exact ⟨rfl, rfl, rfl, rfl, rfl, rfl, rfl, rfl, rfl⟩
    | complete data =>
      have hmid := h.complete hd ht data (hhost _ _ hp)
      have hsame : Same s ((s.completed pTxn p (tryPart pTxn op n).1).deliver pTxn p.pHostAddr
          p.uLength data) :=
        Same.trans (t := s.completed pTxn p (tryPart pTxn op n).1)
          ⟨rfl, rfl, rfl, rfl, rfl, rfl, rfl, rfl, rfl⟩ (same_deliver ..)
      have hcount := (deliver_facts (s.completed pTxn p (tryPart pTxn op n).1) pTxn data p.pHostAddr
        p.uLength).2.2.2.1
      obtain ⟨hs, hend⟩ := ih (n := (tryPart pTxn op n).2.2) hmid (hsame.parts ▸ hhost)
        (hsame.parts ▸ hne) (by rw [hcount, hsame.parts]; exact hdrop)
      exact ⟨hsame.trans hs, hend⟩

end ArchosGpl.Wlan.SdioBusDrv
