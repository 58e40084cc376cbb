import ArchosGpl.Wlan.SdioBusDrv.Sending

/-!
# Transfers are exact and reported once

**Every transaction, with the aggregated ones before it, is transferred exactly and reported once**
(`transfers_exact`), in every run in which no callback of a pending part ends its transaction by a
part done in the call before `busDrv_Transact` has returned. Where one does, the transaction is
reported twice: by the callback, and by the status that `busDrv_Transact` reads again
(`early_end_reports_twice`).
-/

namespace ArchosGpl.Wlan.SdioBusDrv

open Lib Sys

/-! ## What a group's transfer is -/

/-- The calls of the bus so far are the first ones of `calls`, in order. Only the last part that has
ended can have failed, and then none is on the bus. -/
structure Transferring (uBlkSize : ℕ) (g : Group) (pTxn : TTxnStruct) (calls : List BusCall) :
    Prop where
  covers : Covers uBlkSize g pTxn calls
  started : g.sent.map (·.call) ++ (g.onBus.map Prod.fst).toList <+: calls
  before_ok : ∀ p ∈ g.sent.dropLast, p.ok = true
  bus_ok : g.onBus ≠ none → g.okAll = true
  tried : ∀ p ∈ g.sent, Tried pTxn p.tries

/-- The transfer has ended: all calls were made if none failed, a read has filled the host buffers
with what it received, and the end was reported once. -/
structure Finished (uBlkSize : ℕ) (g : Group) (pTxn : TTxnStruct) (calls : List BusCall) : Prop
    extends Transferring uBlkSize g pTxn calls where
  onBus : g.onBus = none
  all_sent : g.okAll = true → g.sent.map (·.call) = calls
  scattered : g.okAll = true → pTxn.direction = .read →
    g.received.length = pTxn.length ∧ g.hostBufs = some (pTxn.filled g.received)
  reported : ∃ r, g.returned = List.replicate (g.txns.length - 1) .complete ++ [r] ∧
    ((r = (if g.okAll then .complete else .error) ∧ g.doneCbs = []) ∨
      (r = .pending ∧ g.doneCbs = [g.okAll]))

def Group.Finished (uBlkSize : ℕ) (g : Group) : Prop :=
  ∃ pTxn calls, g.txns.getLast? = some pTxn ∧ SdioBusDrv.Finished uBlkSize g pTxn calls

/-! ## The invariant -/

/-- Before the last transaction of a group is given. -/
structure Open (s : Sys) : Prop where
  inCall : s.inCall = false
  closed : s.group.closed = false
  fresh : s.group.sent = [] ∧ s.group.onBus = none ∧ s.group.received = [] ∧ s.group.doneCbs = []
  returned : s.group.returned = List.replicate s.group.txns.length .complete
  write : ∀ pTxn ∈ s.group.txns, pTxn.direction = .write
  length : s.bus.uTxnLength = s.group.total
  data : s.bus.pTxDmaBuf.slice 0 s.group.total = s.group.data

/-- The parts of the group that `pTxn` ends are in the table. -/
structure Prepared (s : Sys) (pTxn : TTxnStruct) : Prop where
  cur : s.bus.pCurrTxn = some pTxn
  last : s.group.txns.getLast? = some pTxn
  single : pTxn.aggregate = false
  parts : s.bus.aTxnParts = partsOf s.bus.uBlkSize pTxn s.group.total
  data : pTxn.direction = .write → s.bus.pTxDmaBuf.slice 0 s.group.total = s.group.data
  length : s.bus.uTxnLength = 0
  pos : 0 < s.group.total
  read : pTxn.direction = .read → s.group.total = pTxn.length

/-- What `busDrv_Transact` has returned for the group, `r` for its last transaction. -/
def Returned (s : Sys) (r : ETxnStatus) : Prop :=
  s.group.returned = List.replicate (s.group.txns.length - 1) .complete ++
    if s.inCall then [] else [r]

/-- The transaction has ended, and the status that `busDrv_Transact` returns fits the report. -/
structure Settled (s : Sys) (pTxn : TTxnStruct) (sync : Bool) : Prop where
  ended : Ended sync s pTxn
  returned : Returned s (if sync then (if s.group.okAll then .complete else .error) else .pending)
  status : s.inCall = true → sync = false → s.bus.eCurrTxnStatus = .pending

/-- The state of the driver between two steps. -/
def Phase (s : Sys) : Prop :=
  Open s ∨ ∃ pTxn, Prepared s pTxn ∧
    ((Running s pTxn ∧ Returned s .pending) ∨ ∃ sync, Settled s pTxn sync)

structure Inv (uBlkSize : ℕ) (s : Sys) : Prop where
  size : s.bus.uBlkSize = uBlkSize
  past : ∀ g ∈ s.past, g.Finished uBlkSize
  phase : Phase s

variable {s : Sys} {pTxn : TTxnStruct}

theorem Prepared.of_same {t : Sys} (h : Prepared s pTxn) (hs : Same s t) : Prepared t pTxn := by
  have hsize : t.bus.uBlkSize = s.bus.uBlkSize := congrArg (1 <<< ·) hs.shift
  have htotal : t.group.total = s.group.total := by
    unfold Group.total
    rw [hs.txns]
  have hdata : t.group.data = s.group.data := by
    unfold Group.data
    rw [hs.txns]
  exact ⟨hs.cur.trans h.cur, hs.txns ▸ h.last, h.single, by rw [hs.parts, hsize, htotal, h.parts],
    fun hw => by rw [hs.tx, htotal, hdata]; exact h.data hw, hs.length.trans h.length,
    htotal ▸ h.pos, fun hr => htotal.trans (h.read hr)⟩

theorem Prepared.closed (h : Prepared s pTxn) : s.group.closed = true := by
  unfold Group.closed
  rw [h.last]
  exact congrArg not h.single

theorem Prepared.hostAddrs (h : Prepared s pTxn) : HostAddrs s.bus.aTxnParts := by
  intro i p hp
  rw [h.parts] at hp ⊢
  exact partsOf_host _ _ _ _ _ hp

theorem Prepared.parts_pos (h : Prepared s pTxn) : 0 < s.bus.aTxnParts.length := by
  rw [h.parts]
  exact partsOf_pos h.pos

theorem uBlkSize_pos (b : TBusDrvObj) : 0 < b.uBlkSize := by
  rw [uBlkSize_eq]
  exact Nat.two_pow_pos _

theorem Prepared.covers (h : Prepared s pTxn) :
    Covers s.bus.uBlkSize s.group pTxn (s.calls pTxn) := by
  unfold Sys.calls
  rw [h.parts]
  exact prepared_covers (uBlkSize_pos _) h.data

/-! ### From the invariant to the transfer -/

theorem Running.transferring (hp : Prepared s pTxn)
    (h : Running s pTxn) : Transferring s.bus.uBlkSize s.group pTxn (s.calls pTxn) :=
  ⟨hp.covers, h.calls ▸ List.take_prefix _ _, fun p hm => h.ok p (List.dropLast_subset _ hm),
    fun _ => okAll_of_forall h.ok, h.tried⟩

variable {sync : Bool}

theorem Ended.transferring (hp : Prepared s pTxn)
    (h : Ended sync s pTxn) : Transferring s.bus.uBlkSize s.group pTxn (s.calls pTxn) :=
  ⟨hp.covers, h.calls ▸ List.take_prefix _ _, h.ok, fun hb => absurd h.onBus hb, h.tried⟩

theorem Settled.finished (hp : Prepared s pTxn) (h : Settled s pTxn sync) (hc : s.inCall = false) :
    Finished s.bus.uBlkSize s.group pTxn (s.calls pTxn) := by
  refine ⟨h.ended.transferring hp, h.ended.onBus, fun hok => ?_, fun hok hr => ?_, ?_⟩
  · have hcalls := h.ended.calls
    rw [h.ended.onBus, (h.ended.done hok).1, Option.map_none, Option.toList_none,
      List.append_nil] at hcalls
    rw [hcalls, Sys.calls]
    exact List.take_of_length_le (by simp)
  · obtain ⟨hlen, hbufs, hslice⟩ := (h.ended.done hok).2 hr
    have htotal : s.group.received.length = pTxn.length := by
      rw [hlen, hp.parts, partsOf_sum]
      exact hp.read hr
    refine ⟨htotal, hbufs.trans ?_⟩
    rw [scatter_eq_fill]
    change some (fill _ (s.bus.pRxDmaBuf.slice 0 pTxn.length) ++ _) = _
    rw [← htotal, hslice]
    rfl
  · have hr := h.returned
    have hrep := h.ended.report
    unfold Returned at hr
    rw [hc] at hr
    refine ⟨_, hr, ?_⟩
    cases sync with
    | true => exact Or.inl ⟨rfl, hrep.1⟩
    | false => exact Or.inr ⟨rfl, hrep⟩

/-! ## A transaction is given -/

/-- The state in which a new transaction is added to its group. -/
def Sys.ready (s : Sys) : Sys :=
  if s.group.closed then { s with group := .empty, past := s.past ++ [s.group] } else s

variable {uBlkSize : ℕ}

theorem Inv.ready (h : Inv uBlkSize s) (hc : s.inCall = false) (hb : s.group.onBus = none) :
    Open s.ready ∧ (∀ g ∈ s.ready.past, g.Finished uBlkSize) ∧ s.ready.bus = s.bus := by
  unfold Sys.ready
  rcases h.phase with ho | ⟨pTxn, hp, ⟨hrun, -⟩ | ⟨sync, hset⟩⟩
  · rw [ho.closed]
    exact ⟨ho, h.past, rfl⟩
  · obtain ⟨part, hpart, -⟩ := hrun.onBus
    rw [hb] at hpart
    cases hpart
  · rw [hp.closed]
    refine ⟨⟨hc, rfl, ⟨rfl, rfl, rfl, rfl⟩, rfl, ?_, hp.length, rfl⟩, ?_, rfl⟩
    · rintro pTxn ⟨⟩
    · exact List.forall_mem_append.mpr ⟨h.past, List.forall_mem_singleton.mpr
        ⟨pTxn, s.calls pTxn, hp.last, h.size ▸ hset.finished hp hc⟩⟩

/-- The driver's object when the transaction is set up. -/
def setUp (b : TBusDrvObj) (pTxn : TTxnStruct) : TBusDrvObj :=
  { b with
    pCurrTxn := some pTxn
    uCurrTxnPartsCount := 0
    uCurrTxnPartsCountSync := 0
    statusOk := true }

/-- The driver's object when the buffers are copied. -/
def copied (b : TBusDrvObj) (pTxn : TTxnStruct) : TBusDrvObj :=
  copyBufs (pTxn.direction = .write) (pTxn.aBuf.take MAX_XFER_BUFS) (setUp b pTxn)

/-- The group with one more transaction. -/
def Sys.given (s : Sys) (b : TBusDrvObj) (pTxn : TTxnStruct) : Sys :=
  { s with bus := b, group := { s.group with txns := s.group.txns ++ [pTxn] } }

theorem total_given (s : Sys) (b : TBusDrvObj) (pTxn : TTxnStruct) :
    (s.given b pTxn).group.total = s.group.total + pTxn.length := by
  change ((s.group.txns ++ [pTxn]).map TTxnStruct.length).sum = _
  rw [List.map_append, List.sum_append]
  exact congrArg _ (Nat.add_zero _)

theorem data_given (s : Sys) (b : TBusDrvObj) (pTxn : TTxnStruct) :
    (s.given b pTxn).group.data = s.group.data ++ pTxn.bufs.flatten := by
  change (s.group.txns ++ [pTxn]).flatMap _ = _
  rw [List.flatMap_append]
  exact congrArg _ (List.append_nil _)

theorem Open.copied_length (h : Open s) (pTxn : TTxnStruct) :
    (copied s.bus pTxn).uTxnLength = s.group.total + pTxn.length :=
  (copyBufs_length ..).trans (congrArg (· + pTxn.length) h.length)

theorem Open.copied_data (h : Open s) (hw : pTxn.direction = .write) :
    (copied s.bus pTxn).pTxDmaBuf.slice 0 (s.group.total + pTxn.length) =
      s.group.data ++ pTxn.bufs.flatten := by
  rw [← h.copied_length pTxn]
  unfold copied
  rw [decide_eq_true hw, copyBufs_slice]
  change s.bus.pTxDmaBuf.slice 0 s.bus.uTxnLength ++ _ = _
  rw [h.length, h.data]
  rfl

theorem Open.within (h : Open s) (ha : pTxn.aggregate = true) (hw : pTxn.direction = .write) :
    Open { s.given (copied s.bus pTxn) pTxn with group := { (s.given (copied s.bus pTxn) pTxn).group
      with returned := s.group.returned ++ [.complete] } } := by
  refine ⟨h.inCall, ?_, h.fresh, ?_, ?_, ?_, ?_⟩
  · unfold Group.closed
    dsimp only [Sys.given]
    rw [List.getLast?_concat]
    exact congrArg not ha
  · change s.group.returned ++ [.complete] = List.replicate (s.group.txns ++ [pTxn]).length _
    rw [h.returned, List.length_append]
    exact List.replicate_succ'.symm
  · exact List.forall_mem_append.mpr ⟨h.write, List.forall_mem_singleton.mpr hw⟩
  · exact (h.copied_length pTxn).trans (total_given s (copied s.bus pTxn) pTxn).symm
  · exact (congrArg _ (total_given s (copied s.bus pTxn) pTxn)).trans
      ((h.copied_data hw).trans (data_given s (copied s.bus pTxn) pTxn).symm)

/-- The driver's object when the parts are prepared. -/
def prepared (b : TBusDrvObj) (pTxn : TTxnStruct) : TBusDrvObj :=
  { copied b pTxn with
    aTxnParts := partsOf b.uBlkSize pTxn (b.uTxnLength + pTxn.length)
    uTxnLength := 0 }

theorem copied_frame (b : TBusDrvObj) (pTxn : TTxnStruct) :
    copied b pTxn = { setUp b pTxn with
      pTxDmaBuf := (copied b pTxn).pTxDmaBuf
      uTxnLength := (copied b pTxn).uTxnLength } :=
  copyBufs_frame ..

theorem Open.prepared (h : Open s) (ha : pTxn.aggregate = false)
    (hw : s.group.txns ≠ [] → pTxn.direction = .write) (hpos : 0 < s.group.total + pTxn.length) :
    Prepared (s.given (SdioBusDrv.prepared s.bus pTxn) pTxn) pTxn ∧
      Mid true (s.given (SdioBusDrv.prepared s.bus pTxn) pTxn) pTxn ∧
      Returned { s.given (SdioBusDrv.prepared s.bus pTxn) pTxn with inCall := true } .pending := by
  obtain ⟨hsent, hbus, hrec, hcbs⟩ := h.fresh
  have hframe := copied_frame s.bus pTxn
  have hsize : (s.given (SdioBusDrv.prepared s.bus pTxn) pTxn).bus.uBlkSize = s.bus.uBlkSize := by
    change TBusDrvObj.uBlkSize { copied s.bus pTxn with aTxnParts := _, uTxnLength := 0 } = _
    rw [hframe]
    rfl
  have hcount : (s.given (SdioBusDrv.prepared s.bus pTxn) pTxn).bus.uCurrTxnPartsCount = 0 ∧
      (s.given (SdioBusDrv.prepared s.bus pTxn) pTxn).bus.uCurrTxnPartsCountSync = 0 ∧
      (s.given (SdioBusDrv.prepared s.bus pTxn) pTxn).bus.statusOk = true ∧
      (s.given (SdioBusDrv.prepared s.bus pTxn) pTxn).bus.pCurrTxn = some pTxn := by
    change (copied s.bus pTxn).uCurrTxnPartsCount = 0 ∧
      (copied s.bus pTxn).uCurrTxnPartsCountSync = 0 ∧ (copied s.bus pTxn).statusOk = true ∧
      (copied s.bus pTxn).pCurrTxn = some pTxn
    rw [hframe]
    exact ⟨rfl, rfl, rfl, rfl⟩
  have htotal := total_given s (SdioBusDrv.prepared s.bus pTxn) pTxn
  refine ⟨⟨hcount.2.2.2, List.getLast?_concat, ha, ?_, fun hd => ?_, rfl, htotal ▸ hpos, fun hr => ?_⟩,
    ⟨⟨?_, ?_, ?_⟩, hbus, ?_, hcbs, hcount.2.2.1, ?_, fun hr => ?_⟩, ?_⟩
  · change partsOf s.bus.uBlkSize pTxn (s.bus.uTxnLength + pTxn.length) = partsOf _ pTxn _
    rw [hsize, htotal, h.length]
  · rw [htotal, data_given]
    exact h.copied_data hd
  · have hnil : s.group.txns = [] := by
      by_contra hne
      rw [hw hne] at hr
      cases hr
    rw [htotal, Group.total, hnil]
    exact Nat.zero_add _
  · rw [hcount.1]
    exact Nat.zero_le _
  · rw [hcount.1]
    change s.group.sent.map _ ++ (s.group.onBus.map Prod.fst).toList = _
    rw [hsent, hbus]
    rfl
  · change ∀ p ∈ s.group.sent, _
    rw [hsent]
    rintro p ⟨⟩
  · change ∀ p ∈ s.group.sent, _
    rw [hsent]
    rintro p ⟨⟩
  · rw [hcount.1, hcount.2.1]
    exact ⟨rfl, fun h => absurd h (Nat.lt_irrefl 0)⟩
  · change s.group.received.length = ((List.map _ _).take s.group.sent.length).sum ∧
      Buffer.slice _ 0 s.group.received.length = s.group.received
    rw [hsent, hrec]
    exact ⟨rfl, rfl⟩
  · change s.group.returned = List.replicate ((s.group.txns ++ [pTxn]).length - 1) _ ++ []
    rw [h.returned, List.append_nil, List.length_append]
    rfl

variable {op : ℕ → OpResult}

theorem transact_within (ha : pTxn.aggregate = true) :
    s.busDrv_Transact pTxn op = { s.ready.given (copied s.ready.bus pTxn) pTxn with
      group := { (s.ready.given (copied s.ready.bus pTxn) pTxn).group with
        returned := s.ready.group.returned ++ [.complete] } } := by
  have h := prepared_within (b := setUp s.ready.bus pTxn) ha
  unfold busDrv_Transact
  change (if (busDrv_PrepareTxnParts (setUp s.ready.bus pTxn) pTxn).1 then _ else _) = _
  rw [if_pos (congrArg Prod.fst h)]
  change Sys.mk (busDrv_PrepareTxnParts (setUp s.ready.bus pTxn) pTxn).2 _ _ _ = _
  rw [h]
  rfl

theorem transact_last (ha : pTxn.aggregate = false) : s.busDrv_Transact pTxn op =
      { (s.ready.given (prepared s.ready.bus pTxn) pTxn).busDrv_SendTxnParts op with
        inCall := true } := by
  have h := prepared_parts (b := setUp s.ready.bus pTxn) ha
  unfold busDrv_Transact
  change (if (busDrv_PrepareTxnParts (setUp s.ready.bus pTxn) pTxn).1 then _ else _) = _
  rw [if_neg (by rw [h]; exact Bool.false_ne_true)]
  change { Sys.busDrv_SendTxnParts op (s.ready.given
    (busDrv_PrepareTxnParts (setUp s.ready.bus pTxn) pTxn).2 pTxn) with inCall := true } = _
  rw [h]
  rfl

variable {dmaBufLen : ℕ}

theorem Admissible.ready (h : Admissible dmaBufLen s.group pTxn) :
    (pTxn.aggregate = true ∨ s.ready.group.txns ≠ [] → pTxn.direction = .write) ∧
      (pTxn.aggregate = false → 0 < s.ready.group.total + pTxn.length) := by
  have hw := h.write
  have hd := h.data
  unfold Sys.ready
  cases hc : s.group.closed with
  | true =>
    rw [hc] at hd
    exact ⟨fun h => hw (h.imp id fun h => absurd rfl h), hd⟩
  | false =>
    rw [hc] at hd
    exact ⟨fun h => hw (h.imp id fun h => ⟨hc, h⟩), hd⟩

theorem send_spec (hp : Prepared s pTxn) (hm : Mid sync s pTxn) (op : ℕ → OpResult) :
    Same s (s.busDrv_SendTxnParts op) ∧
      (Running (s.busDrv_SendTxnParts op) pTxn ∨ Ended sync (s.busDrv_SendTxnParts op) pTxn) := by
  unfold busDrv_SendTxnParts
  rw [hp.cur]
  exact sendParts_spec hm hp.hostAddrs hp.parts_pos rfl

/-! ### The steps do not read `inCall` but to return -/

theorem Prepared.inCall (h : Prepared s pTxn) (c : Bool) : Prepared { s with inCall := c } pTxn :=
  ⟨h.cur, h.last, h.single, h.parts, h.data, h.length, h.pos, h.read⟩

theorem Running.inCall (h : Running s pTxn) (c : Bool) : Running { s with inCall := c } pTxn :=
  ⟨⟨h.le, h.calls, h.tried⟩, h.onBus, h.ok, h.cbs, h.statusOk, h.async, h.status, h.received⟩

theorem Ended.inCall (h : Ended sync s pTxn) (c : Bool) : Ended sync { s with inCall := c } pTxn :=
  ⟨⟨h.le, h.calls, h.tried⟩, h.onBus, h.ok, h.done, h.report⟩

theorem Inv.transact (h : Inv uBlkSize s) (hc : s.inCall = false) (hb : s.group.onBus = none)
    (ha : Admissible dmaBufLen s.group pTxn) : Inv uBlkSize (s.busDrv_Transact pTxn op) := by
  obtain ⟨hopen, hpast, hbus⟩ := h.ready hc hb
  obtain ⟨hw, hd⟩ := ha.ready
  have hframe := copied_frame s.ready.bus pTxn
  have hsize : (copied s.ready.bus pTxn).uBlkSize = uBlkSize := by
    rw [hframe, hbus]
    exact h.size
  cases hagg : pTxn.aggregate with
  | true =>
    rw [transact_within hagg]
    exact ⟨hsize, hpast, Or.inl (hopen.within hagg (hw (Or.inl hagg)))⟩
  | false =>
    rw [transact_last hagg]
    obtain ⟨hprep, hmid, hret⟩ := hopen.prepared hagg (fun hne => hw (Or.inr hne)) (hd hagg)
    obtain ⟨hsame, hend⟩ := send_spec hprep hmid op
    refine ⟨(congrArg (1 <<< ·) hsame.shift).trans hsize, hsame.past ▸ hpast,
      Or.inr ⟨pTxn, (hprep.of_same hsame).inCall true, ?_⟩⟩
    have hreturned : ∀ r, Returned { Sys.busDrv_SendTxnParts op
        (s.ready.given (prepared s.ready.bus pTxn) pTxn) with inCall := true } r := by
      intro r
      change Group.returned _ = List.replicate ((Group.txns _).length - 1) _ ++ []
      rw [hsame.returned, hsame.txns]
      exact hret
    rcases hend with hrun | hend
    · exact Or.inl ⟨hrun.inCall true, hreturned _⟩
    · exact Or.inr ⟨true, hend.inCall true, hreturned _, fun _ h => absurd h.symm Bool.false_ne_true⟩

/-! ## A call returns -/

theorem Returned.ret {r : ETxnStatus} (h : Returned s r) (hc : s.inCall = true)
    (hr : s.bus.eCurrTxnStatus = r) : Returned s.ret r := by
  unfold Returned at h
  rw [hc] at h
  change s.group.returned ++ [s.bus.eCurrTxnStatus] = _ ++ [r]
  rw [h, hr, if_pos rfl, List.append_nil]
  rfl

theorem Inv.ret (h : Inv uBlkSize s) (hc : s.inCall = true) : Inv uBlkSize s.ret := by
  refine ⟨h.size, h.past, ?_⟩
  rcases h.phase with ho | ⟨pTxn, hp, hph⟩
  · rw [ho.inCall] at hc
    exact absurd hc Bool.false_ne_true
  · refine Or.inr ⟨pTxn, ⟨hp.cur, hp.last, hp.single, hp.parts, hp.data, hp.length, hp.pos, hp.read⟩,
      ?_⟩
    rcases hph with ⟨hrun, hret⟩ | ⟨sync, hset⟩
    · exact Or.inl ⟨⟨⟨hrun.le, hrun.calls, hrun.tried⟩, hrun.onBus, hrun.ok, hrun.cbs,
        hrun.statusOk, hrun.async, hrun.status, hrun.received⟩, hret.ret hc hrun.status⟩
    · have hend := hset.ended
      refine Or.inr ⟨sync, ⟨⟨hend.le, hend.calls, hend.tried⟩, hend.onBus, hend.ok, hend.done,
        hend.report⟩, hset.returned.ret hc ?_, fun h => absurd h Bool.false_ne_true⟩
      cases sync with
      | true => exact hend.report.2
      | false => exact hset.status hc rfl

/-! ## A pending part is done -/

theorem Running.sent_length (h : Running s pTxn) :
    s.group.sent.length + 1 = s.bus.uCurrTxnPartsCount := by
  obtain ⟨part, hpart, -⟩ := h.onBus
  have := congrArg List.length h.calls
  rw [hpart] at this
  simp only [Option.map_some, Option.toList_some, List.length_append, List.length_map,
    List.length_singleton, List.length_take, Sys.calls] at this
  rw [this, Nat.min_eq_left h.le]

def Sys.partDone (part : BusCall × List ETxnStatus) (ok : Bool) (s : Sys) : Sys :=
  { s with group := { s.group with
    onBus := none
    sent := s.group.sent ++ [Sent.mk part.1 part.2 ok] } }

variable {part : BusCall × List ETxnStatus}

theorem Running.started_done (h : Running s pTxn) (hpart : s.group.onBus = some part) (ok : Bool) :
    Started (s.partDone part ok) pTxn := by
  have hcalls := h.calls
  rw [hpart] at hcalls
  obtain ⟨part', hpart', ht⟩ := h.onBus
  cases hpart.symm.trans hpart'
  refine ⟨h.le, ?_, ?_⟩
  · refine Eq.trans ?_ hcalls
    change (s.group.sent ++ [_]).map _ ++ [] = _
    rw [List.map_append, List.append_nil]
    rfl
  · exact List.forall_mem_append.mpr ⟨h.tried, List.forall_mem_singleton.mpr ht⟩

theorem Running.fail (h : Running s pTxn) (hpart : s.group.onBus = some part) :
    Ended false (fTxnDoneCb { s.partDone part false with bus := { s.bus with statusOk := false } })
      pTxn := by
  have hst := h.started_done hpart false
  have hok : (s.group.sent ++ [Sent.mk part.1 part.2 false]).all (·.ok) = false := by
    rw [List.all_append]
    exact Bool.and_false _
  refine ⟨⟨hst.le, hst.calls, hst.tried⟩, rfl, ?_, fun hall => ?_, ?_⟩
  · change ∀ q ∈ List.dropLast (s.group.sent ++ [Sent.mk part.1 part.2 false]), q.ok = true
    rw [List.dropLast_concat]
    exact h.ok
  · exact absurd (hall.symm.trans hok) Bool.noConfusion
  · change s.group.doneCbs ++ [false] = [(s.group.sent ++ [_]).all (·.ok)]
    rw [h.cbs, hok]
    rfl

theorem Running.complete (h : Running s pTxn) (hpart : s.group.onBus = some part)
    (hhost : HostAddrs s.bus.aTxnParts) {p : TTxnPart}
    (hp : s.bus.aTxnParts[s.bus.uCurrTxnPartsCount - 1]? = some p) (data : ℕ → Byte) :
    Mid false ((s.partDone part true).deliver pTxn p.pHostAddr p.uLength data) pTxn := by
  have hlen := h.sent_length
  have hm : s.bus.uCurrTxnPartsCount - 1 = s.group.sent.length := by omega
  rw [hm] at hp
  refine Mid.of_deliver (h.started_done hpart true) rfl ?_ h.cbs h.statusOk h.async
    (received_deliver data h.received hp (hhost _ _ hp) ?_)
  · exact List.forall_mem_append.mpr ⟨h.ok, List.forall_mem_singleton.mpr rfl⟩
  · exact List.length_append

/-- **The condition**: a callback that comes before `busDrv_Transact` has returned finds no part
left, or the next part is pending too. -/
def NoEarlyEnd (s : Sys) : Input → Prop
  | .txnDone ok _ op => s.inCall = true → ok = true →
    ∀ pTxn p, s.bus.pCurrTxn = some pTxn → s.bus.aTxnParts[s.bus.uCurrTxnPartsCount]? = some p →
      (tryPart pTxn op 0).2.1.status = .pending
  | _ => True

theorem reportAsync_status (s : Sys) :
    s.reportAsync.bus.eCurrTxnStatus = s.bus.eCurrTxnStatus := by
  unfold reportAsync
  split_ifs <;> rfl

theorem finish_status (pTxn : TTxnStruct) (s : Sys) :
    (s.finish pTxn).bus.eCurrTxnStatus = s.bus.eCurrTxnStatus := by
  unfold Sys.finish
  rw [reportAsync_status]
  split_ifs <;> rfl

theorem send_status (hcur : s.bus.pCurrTxn = some pTxn) (hs : s.bus.eCurrTxnStatus = .pending)
    (hop : ∀ p, s.bus.aTxnParts[s.bus.uCurrTxnPartsCount]? = some p →
      (tryPart pTxn op 0).2.1.status = .pending) :
    (s.busDrv_SendTxnParts op).bus.eCurrTxnStatus = .pending := by
  unfold busDrv_SendTxnParts
  rw [hcur]
  cases hd : s.bus.aTxnParts.drop s.bus.uCurrTxnPartsCount with
  | nil => exact (finish_status pTxn s).trans hs
  | cons p ps =>
    have hstatus := hop p (take_of_drop pTxn hd).2.1
    change (sendParts pTxn op 0 (p :: ps) s).bus.eCurrTxnStatus = _
    rw [sendParts_cons]
    cases hr : (tryPart pTxn op 0).2.1 with
    | pending => rfl
    | error | complete data =>
      rw [hr] at hstatus
      cases hstatus

theorem Inv.txnDone (h : Inv uBlkSize s) {ok : Bool} {data : ℕ → Byte} {p : TTxnPart}
    (hpart : s.group.onBus = some part) (hcur : s.bus.pCurrTxn = some pTxn)
    (hp : s.bus.aTxnParts[s.bus.uCurrTxnPartsCount - 1]? = some p)
    (hcond : NoEarlyEnd s (.txnDone ok data op)) :
    Inv uBlkSize (s.busDrv_TxnDoneCb ok data op pTxn part p) := by
  have hphase : Prepared s pTxn ∧ Running s pTxn ∧ Returned s .pending := by
    rcases h.phase with ho | ⟨pTxn', hprep, ⟨hrun, hret⟩ | ⟨sync, hset⟩⟩
    · rw [ho.fresh.2.1] at hpart
      cases hpart
    · cases hcur.symm.trans hprep.cur
      exact ⟨hprep, hrun, hret⟩
    · rw [hset.ended.onBus] at hpart
      cases hpart
  obtain ⟨hprep, hrun, hret⟩ := hphase
  have hreturned : ∀ {t : Sys}, Same s t → Returned t .pending := by
    intro t ht
    unfold Returned
    rw [ht.returned, ht.txns, ht.inCall]
    exact hret
  cases ok with
  | false =>
    refine ⟨h.size, h.past, Or.inr ⟨pTxn, ?_, Or.inr ⟨false, hrun.fail hpart, ?_, ?_⟩⟩⟩
    · exact hprep.of_same ⟨rfl, rfl, rfl, rfl, rfl, rfl, rfl, rfl, rfl⟩
    · exact hreturned (t := fTxnDoneCb { s.partDone part false with
        bus := { s.bus with statusOk := false } }) ⟨rfl, rfl, rfl, rfl, rfl, rfl, rfl, rfl, rfl⟩
    · exact fun _ _ => hrun.status
  | true =>
    have hmid := hrun.complete hpart hprep.hostAddrs hp data
    have hsame : Same s ((s.partDone part true).deliver pTxn p.pHostAddr p.uLength data) :=
      Same.trans (t := s.partDone part true) ⟨rfl, rfl, rfl, rfl, rfl, rfl, rfl, rfl, rfl⟩
        (same_deliver ..)
    obtain ⟨-, -, -, hcount, -, hstatus, -⟩ :=
      deliver_facts (s.partDone part true) pTxn data p.pHostAddr p.uLength
    obtain ⟨hsend, hend⟩ := send_spec (hprep.of_same hsame) hmid op
    have hall := hsame.trans hsend
    refine ⟨(congrArg (1 <<< ·) hall.shift).trans h.size, hall.past ▸ h.past,
      Or.inr ⟨pTxn, hprep.of_same hall, ?_⟩⟩
    rcases hend with hrun' | hend
    · exact Or.inl ⟨hrun', hreturned hall⟩
    · refine Or.inr ⟨false, hend, hreturned hall, fun hc _ => ?_⟩
      refine send_status (hsame.cur.trans hcur) (hstatus.trans hrun.status) fun q hq => ?_
      have hparts := congrArg₂ (fun (l : List TTxnPart) k => l[k]?) hsame.parts hcount
      exact hcond (hall.inCall.symm.trans hc) rfl pTxn q hcur (hparts.symm.trans hq)

/-! ## Every run -/

theorem Inv.step {t : Sys} {i : Input} (h : Inv uBlkSize s)
    (hcond : NoEarlyEnd s i) (he : step dmaBufLen s i = some t) : Inv uBlkSize t := by
  unfold SdioBusDrv.step at he
  cases i with
  | transact pTxn op =>
    obtain ⟨⟨hc, hb, ha⟩, ⟨⟩⟩ := Option.ite_none_right_eq_some.mp he
    exact h.transact hc hb ha
  | ret =>
    obtain ⟨hc, ⟨⟩⟩ := Option.ite_none_right_eq_some.mp he
    exact h.ret hc
  | txnDone ok data op =>
    simp only at he
    split at he
    case h_1 part pTxn p hpart hcur hp =>
      cases he
      exact h.txnDone hpart hcur hp hcond
    case h_2 => cases he

theorem inv_init (uBlkSizeShift : ℕ) (rx tx : Buffer Byte) :
    Inv (2 ^ uBlkSizeShift) (.init uBlkSizeShift rx tx) :=
  ⟨Nat.one_shiftLeft _, by rintro g ⟨⟩,
    Or.inl ⟨rfl, rfl, ⟨rfl, rfl, rfl, rfl⟩, rfl, by rintro pTxn ⟨⟩, rfl, rfl⟩⟩

/-- **Transfers are exact and reported once**: every group before the present one is finished; the
present one is transferred in order once its last transaction is given, and is finished when no part
is on the bus and the call has returned. -/
theorem transfers_exact {uBlkSizeShift dmaBufLen : ℕ} {rx tx : Buffer Byte} {is : List Input}
    {s : Sys} (h : exec (step dmaBufLen) (.init uBlkSizeShift rx tx) is = some s)
    (hcond : Along (step dmaBufLen) NoEarlyEnd (.init uBlkSizeShift rx tx) is) :
    (∀ g ∈ s.past, g.Finished (2 ^ uBlkSizeShift)) ∧
      (s.group.closed = true → ∃ pTxn calls, s.group.txns.getLast? = some pTxn ∧
        Transferring (2 ^ uBlkSizeShift) s.group pTxn calls) ∧
      (s.group.closed = true → s.inCall = false → s.group.onBus = none →
        s.group.Finished (2 ^ uBlkSizeShift)) := by
  have hinv : Inv (2 ^ uBlkSizeShift) s :=
    hcond.invariant (fun _ _ _ hs hc he => hs.step hc he) (inv_init uBlkSizeShift rx tx) h
  refine ⟨hinv.past, fun hcl => ?_, fun hcl hc hb => ?_⟩
  · rcases hinv.phase with ho | ⟨pTxn, hp, ⟨hrun, -⟩ | ⟨sync, hset⟩⟩
    · exact absurd (ho.closed.symm.trans hcl) Bool.false_ne_true
    · exact ⟨pTxn, s.calls pTxn, hp.last, hinv.size ▸ hrun.transferring hp⟩
    · exact ⟨pTxn, s.calls pTxn, hp.last, hinv.size ▸ hset.ended.transferring hp⟩
  · rcases hinv.phase with ho | ⟨pTxn, hp, ⟨hrun, -⟩ | ⟨sync, hset⟩⟩
    · exact absurd (ho.closed.symm.trans hcl) Bool.false_ne_true
    · obtain ⟨part, hpart, -⟩ := hrun.onBus
      rw [hb] at hpart
      cases hpart
    · exact ⟨pTxn, s.calls pTxn, hp.last, hinv.size ▸ hset.finished hp hc⟩

/-- A write, in one buffer. -/
def TTxnStruct.ofBytes (aggregate : Bool) (buf : List Byte) : TTxnStruct :=
  ⟨2, .write, false, false, false, aggregate, 0x1000#32, [buf]⟩

/-- One byte aggregated with two, in blocks of two: the first part is pending until the call has
returned. -/
def aggregatedRun : List Input := [
  .transact (.ofBytes true [1]) fun _ => .error,
  .transact (.ofBytes false [2, 3]) fun _ => .pending,
  .ret,
  .txnDone true (fun _ => 0) fun _ => .complete fun _ => 0]

theorem transfers_exact_aggregated : ∃ s,
    exec (step 64) (.init 1 (fun _ => 0) fun _ => 0) aggregatedRun = some s ∧
      s.group.Finished (2 ^ 1) := by
  obtain ⟨s, hs, hcl, hc, hb⟩ : ∃ s,
      exec (step 64) (.init 1 (fun _ => 0) fun _ => 0) aggregatedRun = some s ∧
        s.group.closed = true ∧ s.inCall = false ∧ s.group.onBus = none :=
    ⟨_, rfl, rfl, rfl, rfl⟩
  refine ⟨s, hs, (transfers_exact hs ?_).2.2 hcl hc hb⟩
  refine ⟨trivial, fun t _ => ⟨trivial, fun u _ => ⟨trivial, fun v hv => ⟨?_, fun _ _ => trivial⟩⟩⟩⟩
  obtain ⟨-, ⟨⟩⟩ := Option.ite_none_right_eq_some.mp hv
  intro hc
  exact absurd hc Bool.false_ne_true

/-- Three bytes in blocks of two: the callback of the pending remainder comes before the call has
returned, and the block is done in the callback. -/
theorem early_end_reports_twice : ∃ s,
    exec (step 64) (.init 1 (fun _ => 0) fun _ => 0) [
      .transact (.ofBytes false [1, 2, 3]) fun _ => .pending,
      .txnDone true (fun _ => 0) (fun _ => .complete fun _ => 0),
      .ret] = some s ∧
    s.group.txns = [.ofBytes false [1, 2, 3]] ∧ s.group.returned = [.complete] ∧
      s.group.doneCbs = [true] :=
  ⟨_, rfl, rfl, rfl, rfl⟩

end ArchosGpl.Wlan.SdioBusDrv
