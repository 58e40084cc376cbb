import Mathlib.Algebra.BigOperators.Group.List.Basic
import Mathlib.Data.List.FinRange
import Mathlib.Data.List.Perm.Basic
import ArchosGpl.Lib.Ring
import ArchosGpl.Wlan.RxXfer.Buffers

/-!
# Conservation of RX buffers

A buffer that the allocation callback gave out is in hand, in a read, or handed over. The
transaction structures are a ring: the reads in flight are on the structures used last
(`Ring.InOrder`).

* **Conservation** (`obtained_accounted`): in every run whose calls of the handler are orderly
  (`Steady`), in every state each buffer obtained was handed over once or is in one read in flight
  or failed, packets were handed over in the order of their descriptors, and no read was issued on
  a structure in flight.
* **The condition** (`Ready`): an allocated packet has a length; a read completes at once only when
  none is in flight; a structure read on otherwise has the callback `rxXfer_TxnDoneCb`; and the
  handler does not come back to a structure whose read failed.
* **Without it** (`staleCallback_loses_buffer`): a read into the dummy buffer that completes at
  once leaves `rxXfer_PktDropTxnDoneCb` on its structure, and the packets read on that structure
  later are never handed over.

`Tracks` is the invariant, with the buffers in hand and the number of reads there is room for.
`InLoop` ties it to the variables of the handler; `InLoop.servePacket` is the lemma about a pass.
-/

open Function (update update_idem update_of_ne update_self)

namespace ArchosGpl.Wlan.RxXfer

open Lib

/-- How many reads the packets in hand need. -/
def Locals.pendingReads (l : Locals) : ℕ := if l.group = [] then 0 else 1

/-! ## The fields after a read is issued -/

namespace Sys

open TTxnStruct

section Fields

variable (s : Sys) (addr : ℕ) (t : TTxnStruct) (st : ETxnStatus)

@[simp] theorem issued_uCurrTxnIndex :
    (nextTxn (s.issueTxn addr t st)).obj.uCurrTxnIndex = s.obj.uCurrTxnIndex + 1 := rfl

@[simp] theorem issued_aTxnStruct : (nextTxn (s.issueTxn addr t st)).obj.aTxnStruct =
    update s.obj.aTxnStruct s.obj.uCurrTxnIndex t := rfl

@[simp] theorem issued_uDrvRxCntr :
    (nextTxn (s.issueTxn addr t st)).obj.uDrvRxCntr = s.obj.uDrvRxCntr := rfl

@[simp] theorem issued_inFlight : (nextTxn (s.issueTxn addr t st)).inFlight =
    if st = .pending then s.inFlight ++ [s.obj.uCurrTxnIndex] else s.inFlight := rfl

@[simp] theorem issued_failed : (nextTxn (s.issueTxn addr t st)).failed =
    if st = .error then s.failed ++ [s.obj.uCurrTxnIndex] else s.failed := rfl

@[simp] theorem issued_obtained : (nextTxn (s.issueTxn addr t st)).obtained = s.obtained := rfl

@[simp] theorem issued_handed : (nextTxn (s.issueTxn addr t st)).handed = s.handed := rfl

@[simp] theorem issued_reads : (nextTxn (s.issueTxn addr t st)).reads = s.reads ++
    [⟨s.obj.uCurrTxnIndex, s.inFlight, addr, t, s.obj.uDrvRxCntr, st⟩] := rfl

variable (i : Fin maxConsecutiveReadTxn) (unknown : Bool)

theorem nextTxn_forwardPacket :
    nextTxn (s.forwardPacket i unknown) = (nextTxn s).forwardPacket i unknown := rfl

@[simp] theorem forward_uCurrTxnIndex :
    (s.forwardPacket i unknown).obj.uCurrTxnIndex = s.obj.uCurrTxnIndex := rfl

@[simp] theorem forward_aTxnStruct : (s.forwardPacket i unknown).obj.aTxnStruct =
    update s.obj.aTxnStruct i { s.obj.aTxnStruct i with
      aBuf := []
      endOfBurst := (s.obj.aTxnStruct i).endOfBurst && (s.obj.aTxnStruct i).live.isEmpty } := rfl

@[simp] theorem forward_inFlight : (s.forwardPacket i unknown).inFlight = s.inFlight := rfl

@[simp] theorem forward_failed : (s.forwardPacket i unknown).failed = s.failed := rfl

@[simp] theorem forward_obtained : (s.forwardPacket i unknown).obtained = s.obtained := rfl

@[simp] theorem forward_handed : (s.forwardPacket i unknown).handed =
    s.handed ++ mark (s.obj.aTxnStruct i).endOfBurst unknown (s.obj.aTxnStruct i).live := rfl

@[simp] theorem forward_reads : (s.forwardPacket i unknown).reads = s.reads := rfl

end Fields

/-! ## What the module tracks -/

/-- The buffers in a list of structures. -/
def heldIn (aTxnStruct : Fin maxConsecutiveReadTxn → TTxnStruct)
    (l : List (Fin maxConsecutiveReadTxn)) : List ℕ :=
  l.flatMap fun i => (aTxnStruct i).ids

/-- Every buffer obtained is handed over once, or is in one read in flight or failed, or in hand
(`g`); packets are handed over in order; and `room` more structures can be used. -/
structure Tracks (s : Sys) (g : List ℕ) (room : ℕ) : Prop where
  ring : Ring.InOrder s.obj.uCurrTxnIndex s.inFlight s.failed
  bound : (s.inFlight ++ s.failed).length + room ≤ numRxPktDesc
  ahead : ∀ k < room, s.obj.uCurrTxnIndex + Fin.ofNat _ k ∉ s.failed
  nodup : (s.inFlight ++ s.failed).Nodup
  free : ∀ i, i ∉ s.inFlight ++ s.failed → Free (s.obj.aTxnStruct i)
  busy : ∀ i ∈ s.inFlight ++ s.failed, Busy (s.obj.aTxnStruct i)
  order : (s.handed.filterMap packetOf ++ heldIn s.obj.aTxnStruct s.inFlight ++ g).Pairwise (· < ·)
  account : (s.handed.filterMap Handed.buf ++ heldIn s.obj.aTxnStruct (s.inFlight ++ s.failed) ++
    g).Perm (List.range s.obtained)
  log : Logged s.obj.aTxnStruct s.inFlight s.handed s.reads

variable {s : Sys} {g : List ℕ} {room : ℕ} {t : TTxnStruct}

theorem heldIn_append (tx : Fin maxConsecutiveReadTxn → TTxnStruct)
    (l m : List (Fin maxConsecutiveReadTxn)) : heldIn tx (l ++ m) = heldIn tx l ++ heldIn tx m :=
  List.flatMap_append

theorem heldIn_cons (tx : Fin maxConsecutiveReadTxn → TTxnStruct)
    (i : Fin maxConsecutiveReadTxn) (l : List (Fin maxConsecutiveReadTxn)) :
    heldIn tx (i :: l) = (tx i).ids ++ heldIn tx l :=
  List.flatMap_cons

@[simp] theorem heldIn_singleton (tx : Fin maxConsecutiveReadTxn → TTxnStruct)
    (i : Fin maxConsecutiveReadTxn) : heldIn tx [i] = (tx i).ids := by
  simp [heldIn]

theorem heldIn_update {tx : Fin maxConsecutiveReadTxn → TTxnStruct} {i : Fin maxConsecutiveReadTxn}
    {l : List (Fin maxConsecutiveReadTxn)} (hi : i ∉ l) (t : TTxnStruct) :
    heldIn (update tx i t) l = heldIn tx l := by
  refine List.flatMap_congr fun j hj => ?_
  have hne : j ≠ i := fun he => hi (he ▸ hj)
  rw [update_of_ne hne]

theorem Tracks.mono (h : Tracks s g room) {r : ℕ} (hr : r ≤ room) : Tracks s g r where
  ring := h.ring
  bound := by have := h.bound; omega
  ahead k hk := h.ahead k (by omega)
  nodup := h.nodup
  free := h.free
  busy := h.busy
  order := h.order
  account := h.account
  log := h.log

theorem Tracks.congr (h : Tracks s g room) {s' : Sys}
    (hcur : s'.obj.uCurrTxnIndex = s.obj.uCurrTxnIndex)
    (htx : s'.obj.aTxnStruct = s.obj.aTxnStruct) (hin : s'.inFlight = s.inFlight)
    (hfailed : s'.failed = s.failed) (hobtained : s'.obtained = s.obtained)
    (hhanded : s'.handed = s.handed) (hreads : s'.reads = s.reads) : Tracks s' g room := by
  refine ⟨?_, ?_, ?_, ?_, ?_, ?_, ?_, ?_, ?_⟩
  · rw [hcur, hin, hfailed]
    exact h.ring
  · rw [hin, hfailed]
    exact h.bound
  · rw [hcur, hfailed]
    exact h.ahead
  · rw [hin, hfailed]
    exact h.nodup
  · rw [hin, hfailed, htx]
    exact h.free
  · rw [hin, hfailed, htx]
    exact h.busy
  · rw [hhanded, htx, hin]
    exact h.order
  · rw [hhanded, htx, hin, hfailed, hobtained]
    exact h.account
  · rw [htx, hin, hhanded, hreads]
    exact h.log

theorem heldIn_perm {tx : Fin maxConsecutiveReadTxn → TTxnStruct}
    {l m : List (Fin maxConsecutiveReadTxn)} (h : l.Perm m) : (heldIn tx l).Perm (heldIn tx m) :=
  h.flatMap_right _

theorem Tracks.lt_obtained (h : Tracks s g room) : ∀ b ∈ s.handed.filterMap packetOf ++
    heldIn s.obj.aTxnStruct s.inFlight ++ g, b < s.obtained := by
  intro b hb
  refine List.mem_range.mp (h.account.subset ?_)
  rw [heldIn_append]
  simp only [List.mem_append] at hb ⊢
  rcases hb with (hb | hb) | hb
  · obtain ⟨x, hx, hxb⟩ := List.mem_filterMap.mp hb
    exact Or.inl (Or.inl (List.mem_filterMap.mpr ⟨x, hx, packetOf_buf hxb⟩))
  · exact Or.inl (Or.inr (Or.inl hb))
  · exact Or.inr hb

theorem Tracks.obtain (h : Tracks s g room) {s' : Sys} (hobj : s'.obj.aTxnStruct = s.obj.aTxnStruct)
    (hcur : s'.obj.uCurrTxnIndex = s.obj.uCurrTxnIndex) (hin : s'.inFlight = s.inFlight)
    (hfailed : s'.failed = s.failed) (hhanded : s'.handed = s.handed) (hreads : s'.reads = s.reads)
    (hobtained : s'.obtained = s.obtained + 1) : Tracks s' (g ++ [s.obtained]) room := by
  refine ⟨?_, ?_, ?_, ?_, ?_, ?_, ?_, ?_, ?_⟩
  · rw [hcur, hin, hfailed]
    exact h.ring
  · rw [hin, hfailed]
    exact h.bound
  · rw [hcur, hfailed]
    exact h.ahead
  · rw [hin, hfailed]
    exact h.nodup
  · rw [hin, hfailed, hobj]
    exact h.free
  · rw [hin, hfailed, hobj]
    exact h.busy
  · rw [hhanded, hobj, hin, ← List.append_assoc]
    refine List.pairwise_append.mpr ⟨h.order, List.pairwise_singleton _ _, fun b hb c hc => ?_⟩
    rw [List.mem_singleton.mp hc]
    exact h.lt_obtained b hb
  · rw [hhanded, hobj, hin, hfailed, hobtained, List.range_succ, ← List.append_assoc]
    exact h.account.append_right _
  · rw [hobj, hin, hhanded, hreads]
    exact h.log

theorem Tracks.next_free (h : Tracks s g (room + 1)) :
    s.obj.uCurrTxnIndex ∉ s.inFlight ++ s.failed := by
  have hfailed : s.obj.uCurrTxnIndex ∉ s.failed := by simpa using h.ahead 0 (by omega)
  rw [List.mem_append, not_or]
  exact ⟨h.ring.not_mem, hfailed⟩

theorem Tracks.length_lt (h : Tracks s g (room + 1)) :
    (s.inFlight ++ s.failed).length + 1 < maxConsecutiveReadTxn := by
  have := h.bound
  have h8 : numRxPktDesc = 8 := rfl
  have h16 : maxConsecutiveReadTxn = 16 := rfl
  omega

theorem Tracks.ahead_next (h : Tracks s g (room + 1)) {k : ℕ} (hk : k < room) :
    s.obj.uCurrTxnIndex + 1 + Fin.ofNat _ k ∉ s.failed ++ [s.obj.uCurrTxnIndex] := by
  have hroom := h.bound
  have h8 : numRxPktDesc = 8 := rfl
  have h16 : maxConsecutiveReadTxn = 16 := rfl
  rw [Ring.ahead_next, List.mem_append, List.mem_singleton, not_or]
  exact ⟨h.ahead (k + 1) (by omega), Ring.ahead_ne (by omega)⟩

theorem free_update {tx : Fin maxConsecutiveReadTxn → TTxnStruct} {cur : Fin maxConsecutiveReadTxn}
    {l m : List (Fin maxConsecutiveReadTxn)} (hfree : ∀ i, i ∉ l → Free (tx i))
    (hmem : ∀ i, i ∉ m → i ∉ l) (hcur : cur ∉ m → Free t) :
    ∀ i, i ∉ m → Free (update tx cur t i) := by
  intro i hi
  by_cases he : i = cur
  · subst he
    rw [update_self]
    exact hcur hi
  · rw [update_of_ne he]
    exact hfree i (hmem i hi)

theorem busy_update {tx : Fin maxConsecutiveReadTxn → TTxnStruct} {cur : Fin maxConsecutiveReadTxn}
    {l m : List (Fin maxConsecutiveReadTxn)} (hbusy : ∀ i ∈ l, Busy (tx i))
    (hmem : ∀ i ∈ m, i ≠ cur → i ∈ l) (hcur : cur ∈ m → Busy t) :
    ∀ i ∈ m, Busy (update tx cur t i) := by
  intro i hi
  by_cases he : i = cur
  · subst he
    rw [update_self]
    exact hcur hi
  · rw [update_of_ne he]
    exact hbusy i (hmem i hi he)

theorem Tracks.issued (h : Tracks s t.ids (room + 1)) (ht : Busy t) (addr : ℕ) {st : ETxnStatus}
    (hst : st ≠ .complete) : Tracks (nextTxn (s.issueTxn addr t st)) [] room := by
  have hnew := h.next_free
  have hlen := h.length_lt
  obtain ⟨hfl, hfa⟩ := not_or.mp (fun hm => hnew (List.mem_append.mpr hm))
  have hall : ((nextTxn (s.issueTxn addr t st)).inFlight ++
      (nextTxn (s.issueTxn addr t st)).failed).Perm
        (s.obj.uCurrTxnIndex :: (s.inFlight ++ s.failed)) := by
    rw [issued_inFlight, issued_failed]
    cases st with
    | complete => exact absurd rfl hst
    | pending =>
      rw [if_pos rfl, if_neg (by decide), List.append_assoc, List.singleton_append]
      exact List.perm_middle
    | error =>
      rw [if_neg (by decide), if_pos rfl, ← List.append_assoc]
      exact List.perm_append_singleton _ _
  constructor
  case ring =>
    rw [issued_inFlight, issued_failed, issued_uCurrTxnIndex]
    cases st with
    | complete => exact absurd rfl hst
    | pending =>
      exact h.ring.push hlen
    | error =>
      exact h.ring.pushLost hlen
  case bound =>
    have := h.bound
    rw [hall.length_eq, List.length_cons]
    omega
  case ahead =>
    intro k hk hmem
    rw [issued_failed, issued_uCurrTxnIndex] at hmem
    refine h.ahead_next hk ?_
    split at hmem
    · exact hmem
    · exact List.mem_append_left _ hmem
  case nodup =>
    rw [hall.nodup_iff]
    exact List.nodup_cons.mpr ⟨hnew, h.nodup⟩
  case free =>
    refine free_update h.free (fun i hi hm => ?_) (fun hc => absurd ?_ hc)
    · exact hi (hall.mem_iff.mpr (List.mem_cons_of_mem _ hm))
    · exact hall.mem_iff.mpr (List.mem_cons_self ..)
  case busy =>
    refine busy_update h.busy (fun i hi hne => ?_) (fun _ => ht)
    exact (List.mem_cons.mp (hall.mem_iff.mp hi)).resolve_left hne
  case order =>
    rw [issued_inFlight, issued_aTxnStruct, issued_handed, List.append_nil]
    split
    · rw [heldIn_append, heldIn_update hfl, heldIn_singleton, update_self,
        ← List.append_assoc]
      exact h.order
    · rw [heldIn_update hfl]
      exact h.order.sublist (List.sublist_append_left _ _)
  case account =>
    have hheld : (heldIn (update s.obj.aTxnStruct s.obj.uCurrTxnIndex t) _).Perm
        (heldIn _ _) := heldIn_perm hall
    rw [heldIn_cons, update_self, heldIn_update hnew] at hheld
    rw [issued_aTxnStruct, issued_handed, issued_obtained, List.append_nil]
    refine ((hheld.trans List.perm_append_comm).append_left _).trans ?_
    rw [← List.append_assoc]
    exact h.account
  case log =>
    refine h.log.issue (r := ⟨_, _, _, _, _, _⟩) ?_ hfl rfl (update_self ..)
      fun j hj => update_of_ne hj ..
    simpa [Read.isComplete] using hst

theorem Tracks.delivered (h : Tracks s t.ids (room + 1)) (ht : t.Packets) (hin : s.inFlight = [])
    (addr : ℕ) : Tracks (nextTxn ((s.issueTxn addr t .complete).forwardPacket
      s.obj.uCurrTxnIndex false)) [] room := by
  have hnew := h.next_free
  have hin' : (nextTxn (s.issueTxn addr t .complete)).inFlight = [] := by
    rw [issued_inFlight, if_neg (by decide), hin]
  have hfa : (nextTxn (s.issueTxn addr t .complete)).failed = s.failed := by
    rw [issued_failed, if_neg (by decide)]
  rw [hin, List.nil_append] at hnew
  rw [nextTxn_forwardPacket]
  constructor
  case ring =>
    rw [forward_inFlight, hin']
    exact Ring.InOrder.nil _ _
  case bound =>
    have := h.bound
    rw [hin] at this
    rw [forward_inFlight, forward_failed, hin', hfa]
    omega
  case ahead =>
    intro k hk hmem
    exact h.ahead_next hk (List.mem_append_left _ hmem)
  case nodup =>
    have := h.nodup
    rw [hin] at this
    rw [forward_inFlight, forward_failed, hin', hfa]
    exact this
  case free =>
    have hfree := h.free
    rw [hin] at hfree
    rw [forward_inFlight, forward_failed, hin', hfa, forward_aTxnStruct, issued_aTxnStruct,
      update_self, update_idem]
    exact free_update hfree (fun i hi => hi) fun _ => ⟨rfl, by simp [ht.live.2]⟩
  case busy =>
    have hbusy := h.busy
    rw [hin] at hbusy
    rw [forward_inFlight, forward_failed, hin', hfa, forward_aTxnStruct, issued_aTxnStruct,
      update_self, update_idem]
    exact busy_update hbusy (fun i hi _ => hi) fun hc => absurd hc hnew
  case order =>
    have horder := h.order
    rw [hin] at horder
    rw [forward_inFlight, hin', forward_handed, issued_handed, issued_aTxnStruct,
      update_self, List.filterMap_append, mark_packet, ht.live_ids]
    simpa [heldIn] using horder
  case account =>
    have haccount := h.account
    rw [hin] at haccount
    rw [forward_inFlight, forward_failed, hin', hfa, forward_handed, forward_aTxnStruct,
      issued_handed, issued_aTxnStruct, forward_obtained, issued_obtained, update_self,
      update_idem, List.filterMap_append, mark_buf, ht.live_ids, List.append_nil,
      List.nil_append, heldIn_update hnew]
    refine List.Perm.trans ?_ haccount
    simp only [List.append_assoc, List.nil_append]
    exact List.perm_append_comm.append_left _
  case log =>
    have hlog := h.log
    rw [hin] at hlog
    rw [forward_reads, issued_reads, forward_inFlight, hin', forward_handed, issued_handed,
      issued_aTxnStruct, update_self]
    refine hlog.complete (r := ⟨_, _, _, _, _, _⟩) rfl hin ?_
    rw [mark_known, Read.packets_of_packets ht]

theorem Tracks.dropped (h : Tracks s [] (room + 1)) (ht : Free t) (hin : s.inFlight = [])
    (addr : ℕ) : Tracks (nextTxn (s.issueTxn addr t .complete)) [] room := by
  have hnew := h.next_free
  have hin' : (nextTxn (s.issueTxn addr t .complete)).inFlight = s.inFlight := by
    rw [issued_inFlight, if_neg (by decide)]
  have hfa : (nextTxn (s.issueTxn addr t .complete)).failed = s.failed := by
    rw [issued_failed, if_neg (by decide)]
  obtain ⟨hfl, -⟩ := not_or.mp (fun hm => hnew (List.mem_append.mpr hm))
  constructor
  case ring =>
    rw [hin', hin]
    exact Ring.InOrder.nil _ _
  case bound =>
    have := h.bound
    rw [hin', hfa]
    omega
  case ahead =>
    intro k hk hmem
    exact h.ahead_next hk (List.mem_append_left _ hmem)
  case nodup =>
    exact h.nodup
  case free =>
    exact free_update h.free (fun i hi => hi) fun _ => ht
  case busy =>
    exact busy_update h.busy (fun i hi _ => hi) fun hc => absurd hc hnew
  case order =>
    rw [hin', issued_handed, issued_aTxnStruct, heldIn_update hfl]
    exact h.order
  case account =>
    rw [hin', hfa, issued_handed, issued_aTxnStruct, issued_obtained, heldIn_update hnew]
    exact h.account
  case log =>
    have hlog := h.log
    rw [hin] at hlog
    rw [issued_reads, hin', hin, issued_handed, ← List.append_nil s.handed]
    refine hlog.complete (r := ⟨_, _, _, _, _, _⟩) rfl rfl ?_
    rw [Read.packets, if_pos ht.ids]
    rfl

/-! ## A call of the handler -/

/-- What a call of the handler asks of the answers, with `n` packets unprocessed and at most `room`
reads to issue: packets have a length, reads complete in order and with the callback, and none
reaches a structure whose read failed. -/
structure Ready (s : Sys) (a : Answers) (requests reads n room : ℕ) : Prop where
  lengths : ∀ k < n, a.alloc (requests + k) = .complete →
    buffSize (s.obj.aRxPktsDesc (Fin.ofNat _ (s.obj.uDrvRxCntr + k))) ≠ 0
  sync : ∀ k < room, a.bus (reads + k) = .complete →
    s.inFlight = [] ∧ ∀ j < k, a.bus (reads + j) ≠ .pending
  callback : ∀ k < room, a.bus (reads + k) ≠ .complete →
    (s.obj.aTxnStruct (s.obj.uCurrTxnIndex + Fin.ofNat _ k)).fTxnDoneCb = .txnDone
  ahead : ∀ k < room, s.obj.uCurrTxnIndex + Fin.ofNat _ k ∉ s.failed

variable {a : Answers} {requests reads n : ℕ}

theorem Ready.mono (h : Ready s a requests reads n room) {r : ℕ} (hr : r ≤ room) :
    Ready s a requests reads n r where
  lengths := h.lengths
  sync k hk := h.sync k (by omega)
  callback k hk := h.callback k (by omega)
  ahead k hk := h.ahead k (by omega)

theorem Ready.next {s' : Sys} (h : Ready s a requests reads n (room + 1))
    (hroom : room < maxConsecutiveReadTxn - 1)
    (hcur : s'.obj.uCurrTxnIndex = s.obj.uCurrTxnIndex + 1)
    (hdesc : s'.obj.aRxPktsDesc = s.obj.aRxPktsDesc) (hdrv : s'.obj.uDrvRxCntr = s.obj.uDrvRxCntr)
    (htx : ∀ i ≠ s.obj.uCurrTxnIndex, s'.obj.aTxnStruct i = s.obj.aTxnStruct i)
    (hin : s'.inFlight = if a.bus reads = .pending then s.inFlight ++ [s.obj.uCurrTxnIndex]
      else s.inFlight)
    (hfailed : s'.failed = if a.bus reads = .error then s.failed ++ [s.obj.uCurrTxnIndex]
      else s.failed) : Ready s' a requests (reads + 1) n room := by
  have hne : ∀ k < room, s.obj.uCurrTxnIndex + Fin.ofNat _ (k + 1) ≠ s.obj.uCurrTxnIndex :=
    fun k hk => Ring.ahead_ne (by omega)
  have hread : ∀ k, reads + 1 + k = reads + (k + 1) := fun k => by omega
  constructor
  case lengths =>
    rw [hdesc, hdrv]
    exact h.lengths
  case sync =>
    intro k hk hb
    rw [hread] at hb
    obtain ⟨hnil, hbefore⟩ := h.sync (k + 1) (by omega) hb
    refine ⟨?_, fun j hj => ?_⟩
    · rw [hin, if_neg (by simpa using hbefore 0 (by omega)), hnil]
    · rw [hread]
      exact hbefore (j + 1) (by omega)
  case callback =>
    intro k hk hb
    rw [hread] at hb
    rw [hcur, Ring.ahead_next, htx _ (hne k hk)]
    exact h.callback (k + 1) (by omega) hb
  case ahead =>
    intro k hk
    have hold := h.ahead (k + 1) (by omega)
    rw [hcur, Ring.ahead_next, hfailed]
    split
    · rw [List.mem_append, List.mem_singleton, not_or]
      exact ⟨hold, hne k hk⟩
    · exact hold

theorem drv_next (d k : ℕ) :
    (Fin.ofNat numRxPktDesc (add32 d 1 + k)) = Fin.ofNat numRxPktDesc (d + (k + 1)) := by
  have h8 : numRxPktDesc = 8 := rfl
  apply Fin.ext
  simp only [Fin.val_ofNat, add32, h8]
  omega

theorem Ready.served {s' : Sys} (h : Ready s a requests reads (n + 1) room)
    (hcur : s'.obj.uCurrTxnIndex = s.obj.uCurrTxnIndex)
    (hdesc : s'.obj.aRxPktsDesc = s.obj.aRxPktsDesc)
    (hdrv : s'.obj.uDrvRxCntr = add32 s.obj.uDrvRxCntr 1)
    (htx : s'.obj.aTxnStruct = s.obj.aTxnStruct) (hin : s'.inFlight = s.inFlight)
    (hfailed : s'.failed = s.failed) : Ready s' a (requests + 1) reads n room where
  lengths k hk := by
    have hadd : requests + 1 + k = requests + (k + 1) := by omega
    rw [hdesc, hdrv, drv_next, hadd]
    exact h.lengths (k + 1) (by omega)
  sync := by
    rw [hin]
    exact h.sync
  callback := by
    rw [htx, hcur]
    exact h.callback
  ahead := by
    rw [hcur, hfailed]
    exact h.ahead

/-- The structure prepared for the packets of a transaction. -/
def groupTxn (s : Sys) (l : Locals) (bExit : Bool) : TTxnStruct :=
  { s.obj.aTxnStruct s.obj.uCurrTxnIndex with
    aBuf := l.group
    endOfBurst := bExit || (s.obj.aTxnStruct s.obj.uCurrTxnIndex).endOfBurst }

theorem issueGroup_of_complete (s : Sys) (l : Locals) (bExit : Bool) :
    s.issueGroup l bExit .complete =
      (nextTxn (s.issueTxn l.uFirstMemBlkAddr (s.groupTxn l bExit) .complete)).forwardPacket
        s.obj.uCurrTxnIndex false := by
  rw [issueGroup, if_pos rfl, nextTxn_forwardPacket, groupTxn]

theorem issueGroup_of_ne {st : ETxnStatus} (hst : st ≠ .complete) (s : Sys) (l : Locals)
    (bExit : Bool) : s.issueGroup l bExit st =
      nextTxn (s.issueTxn l.uFirstMemBlkAddr (s.groupTxn l bExit) st) := by
  rw [issueGroup, if_neg hst, groupTxn]

/-- The loop of the handler with `n` packets unprocessed. -/
structure InLoop (a : Answers) (n : ℕ) (s : Sys) (l : Locals) : Prop where
  tracks : Tracks s (l.group.filterMap Prod.fst) (n + l.pendingReads)
  ready : Ready s a l.requests l.reads n (n + l.pendingReads)
  packets : ∀ b ∈ l.group, b.1.isSome = true ∧ b.2 ≠ 0

variable {l l' : Locals}

theorem InLoop.next_ready (h : InLoop a n s l) (hne : l.group ≠ []) (bExit : Bool) :
    Ready (s.issueGroup l bExit (a.bus l.reads)) a l.requests (l.reads + 1) n n := by
  have hroom := h.tracks.bound
  have h8 : numRxPktDesc = 8 := rfl
  have h16 : maxConsecutiveReadTxn = 16 := rfl
  have hready := h.ready
  rw [Locals.pendingReads, if_neg hne] at hready hroom
  by_cases hst : a.bus l.reads = .complete
  · rw [hst, issueGroup_of_complete]
    refine hready.next (by omega) rfl rfl rfl (fun i hi => ?_) ?_ ?_
    · rw [forward_aTxnStruct, issued_aTxnStruct, update_idem, update_of_ne hi]
    · rw [forward_inFlight, issued_inFlight, hst]
    · rw [forward_failed, issued_failed, hst]
  · rw [issueGroup_of_ne hst]
    refine hready.next (by omega) rfl rfl rfl (fun i hi => ?_) ?_ ?_
    · rw [issued_aTxnStruct, update_of_ne hi]
    · rw [issued_inFlight]
    · rw [issued_failed]

theorem InLoop.next_tracks (h : InLoop a n s l) (hne : l.group ≠ []) (bExit : Bool) :
    Tracks (s.issueGroup l bExit (a.bus l.reads)) [] n := by
  have htracks := h.tracks
  have hready := h.ready
  have hpackets : (s.groupTxn l bExit).Packets := ⟨hne, h.packets⟩
  rw [Locals.pendingReads, if_neg hne] at htracks hready
  by_cases hst : a.bus l.reads = .complete
  · rw [hst, issueGroup_of_complete, ← nextTxn_forwardPacket]
    exact htracks.delivered hpackets (hready.sync 0 (by omega) hst).1 _
  · rw [issueGroup_of_ne hst]
    refine htracks.issued (.packets ?_ hpackets) _ hst
    have := hready.callback 0 (by omega) hst
    simpa [groupTxn] using this

theorem InLoop.issueRest (h : InLoop a n s l) (bExit : Bool) (hgroup : l'.group = [])
    (hrequests : l'.requests = l.requests) (hreads : l'.reads = readsAfter l) :
    InLoop a n (s.issueRest l bExit a) l' := by
  have hpending : l'.pendingReads = 0 := if_pos hgroup
  by_cases hne : l.group = []
  · have htracks := h.tracks
    have hready := h.ready
    rw [Locals.pendingReads, if_pos hne] at htracks hready
    rw [Sys.issueRest, if_pos hne]
    refine ⟨?_, ?_, by simp [hgroup]⟩
    · rw [hpending, hgroup]
      rw [hne] at htracks
      exact htracks
    · rw [hpending, hrequests, hreads, readsAfter, if_pos hne]
      exact hready
  · rw [Sys.issueRest, if_neg hne]
    refine ⟨?_, ?_, by simp [hgroup]⟩
    · rw [hpending, hgroup]
      exact h.next_tracks hne bExit
    · rw [hpending, hrequests, hreads, readsAfter, if_neg hne]
      exact h.next_ready hne bExit

theorem InLoop.addPacket (h : InLoop a (n + 1) s l) (halloc : a.alloc l.requests = .complete) :
    InLoop a n (s.addPacket l s.nextDesc).1 (s.addPacket l s.nextDesc).2 := by
  have hpending : (s.addPacket l s.nextDesc).2.pendingReads = 1 :=
    if_neg (List.append_ne_nil_of_right_ne_nil _ (List.cons_ne_nil _ _))
  constructor
  case tracks =>
    have hids : (s.addPacket l s.nextDesc).2.group.filterMap Prod.fst =
        l.group.filterMap Prod.fst ++ [s.obtained] := by
      simp [Sys.addPacket]
    rw [hpending, hids]
    exact (h.tracks.mono (r := n + 1) (by omega)).obtain rfl rfl rfl rfl rfl rfl rfl
  case ready =>
    exact (h.ready.mono (by omega)).served rfl rfl rfl rfl rfl rfl
  case packets =>
    intro b hb
    rcases List.mem_append.mp hb with hb | hb
    · exact h.packets b hb
    · rw [List.mem_singleton.mp hb]
      exact ⟨rfl, h.ready.lengths 0 (by omega) halloc⟩

/-- The structure prepared for a read into the dummy buffer. -/
def dropTxn (s : Sys) (desc : ℕ) : TTxnStruct :=
  { s.obj.aTxnStruct s.obj.uCurrTxnIndex with
    aBuf := [(none, buffSize desc)], fTxnDoneCb := .pktDrop }

theorem InLoop.drop (h : InLoop a (n + 1) s l) (hnil : l.group = []) (desc : ℕ)
    (hgroup : l'.group = []) (hrequests : l'.requests = l.requests + 1)
    (hreads : l'.reads = l.reads + 1) :
    InLoop a n (s.dropPacket desc (a.bus l.reads)) l' := by
  have htracks := h.tracks
  have hready := h.ready
  have hbound := htracks.bound
  have h8 : numRxPktDesc = 8 := rfl
  have h16 : maxConsecutiveReadTxn = 16 := rfl
  rw [Locals.pendingReads, if_pos hnil, Nat.add_zero] at htracks hready
  rw [hnil] at htracks
  have hunmarked := (htracks.free _ htracks.next_free).unmarked
  replace htracks : Tracks { s with
      obj := { s.obj with uDrvRxCntr := add32 s.obj.uDrvRxCntr 1 } } [] (n + 1) :=
    htracks.congr rfl rfl rfl rfl rfl rfl rfl
  replace hready : Ready { s with obj := { s.obj with uDrvRxCntr := add32 s.obj.uDrvRxCntr 1 } } a
      (l.requests + 1) l.reads n (n + 1) := hready.served rfl rfl rfl rfl rfl rfl
  have hpending : l'.pendingReads = 0 := if_pos hgroup
  have hfree : Free (s.dropTxn desc) := ⟨rfl, hunmarked⟩
  have hbusy : Busy (s.dropTxn desc) := .drop rfl (List.cons_ne_nil _ _) rfl hunmarked
  rw [dropPacket]
  constructor
  case tracks =>
    rw [hpending, hgroup]
    by_cases hst : a.bus l.reads = .complete
    · rw [hst]
      exact htracks.dropped hfree (hready.sync 0 (by omega) hst).1 _
    · exact Tracks.issued (t := s.dropTxn desc) htracks hbusy _ hst
  case ready =>
    rw [hpending, hrequests, hreads]
    refine hready.next (by omega) rfl rfl rfl (fun i hi => ?_) ?_ ?_
    · rw [issued_aTxnStruct, update_of_ne hi]
    · rw [issued_inFlight]
    · rw [issued_failed]
  case packets => simp [hgroup]

theorem InLoop.makeRoom (h : InLoop a n s l) (size : ℕ) :
    InLoop a n (s.makeRoom l a size).1 (s.makeRoom l a size).2 := by
  rw [Sys.makeRoom]
  split
  · exact h.issueRest false rfl rfl rfl
  · exact h

theorem issueRest_nextDesc (s : Sys) (l : Locals) (bExit : Bool) (a : Answers) :
    (s.issueRest l bExit a).nextDesc = s.nextDesc := by
  rw [Sys.issueRest]
  split
  · rfl
  · by_cases hst : a.bus l.reads = .complete
    · rw [hst, issueGroup_of_complete]
      rfl
    · rw [issueGroup_of_ne hst]
      rfl

theorem makeRoom_nextDesc (s : Sys) (l : Locals) (a : Answers) (size : ℕ) :
    (s.makeRoom l a size).1.nextDesc = s.nextDesc := by
  rw [Sys.makeRoom]
  split
  · exact issueRest_nextDesc s l false a
  · rfl

theorem InLoop.issueRest_cleared (h : InLoop a n s l) (bExit : Bool) :
    InLoop a n (s.issueRest l bExit a) { l with group := [], reads := readsAfter l } :=
  h.issueRest bExit rfl rfl rfl

theorem InLoop.exit (h : InLoop a n s l) : Tracks (s.issueRest l true a) [] 0 :=
  (h.issueRest_cleared true).tracks.mono (by omega)

theorem InLoop.servePacket (h : InLoop a (n + 1) s l) :
    match s.servePacket l a s.nextDesc with
    | .error s' => Tracks s' [] 0
    | .ok (s', l') => InLoop a n s' l' := by
  rw [Sys.servePacket]
  cases halloc : a.alloc l.requests with
  | complete =>
    have hadd := h.addPacket halloc
    have hne : (s.addPacket l s.nextDesc).2.group ≠ [] :=
      List.append_ne_nil_of_right_ne_nil _ (List.cons_ne_nil _ _)
    revert hadd hne
    generalize s.addPacket l s.nextDesc = p
    obtain ⟨s', l'⟩ := p
    intro hadd hne
    dsimp only
    split
    next hfull =>
      have hrest : InLoop a n (s'.issueRest l' false a)
          { l' with group := [], uTotalAggregLen := 0, reads := l'.reads + 1 } :=
        hadd.issueRest false rfl rfl (by rw [readsAfter, if_neg hne])
      rw [Sys.issueRest, if_neg hne] at hrest
      exact hrest
    next => exact hadd
  | pending =>
    have hpend : InLoop a (n + 1) { s with obj := { s.obj with bPendingBuffer := true } } l :=
      ⟨h.tracks.congr rfl rfl rfl rfl rfl rfl rfl,
        ⟨h.ready.lengths, h.ready.sync, h.ready.callback, h.ready.ahead⟩, h.packets⟩
    exact hpend.exit
  | outOfMem =>
    exact (h.issueRest_cleared false).drop rfl s.nextDesc rfl rfl rfl

theorem handleLoop_tracks {s' : Sys} (h : InLoop a n s l) (he : handleLoop a n s l = some s') :
    Tracks s' [] 0 := by
  induction n generalizing s l with
  | zero =>
    cases he
    exact h.exit
  | succ n ih =>
    have hserve := (h.makeRoom (buffSize s.nextDesc)).servePacket
    rw [makeRoom_nextDesc] at hserve
    rw [handleLoop] at he
    revert hserve he
    generalize s.makeRoom l a (buffSize s.nextDesc) = p
    obtain ⟨s₁, l₁⟩ := p
    dsimp only
    intro he hserve
    split at he
    · cases he
    · revert he hserve
      cases s₁.servePacket l₁ a s.nextDesc with
      | error t =>
        intro hserve he
        cases he
        exact hserve
      | ok p =>
        intro hserve he
        exact ih hserve he

/-- The packets of the reads in flight or failed. -/
def outstanding (s : Sys) : ℕ :=
  ((s.inFlight ++ s.failed).map fun i => (s.obj.aTxnStruct i).aBuf.length).sum

/-- What a call of the handler asks: the packets outstanding fit into the table of the firmware, and
the answers are as in `Ready`. -/
def Orderly (s : Sys) (a : Answers) : Prop :=
  s.outstanding + s.unprocessed ≤ numRxPktDesc ∧ Ready s a 0 0 s.unprocessed s.unprocessed

theorem Tracks.length_le (h : Tracks s g room) :
    (s.inFlight ++ s.failed).length ≤ s.outstanding := by
  rw [outstanding, ← List.length_map (f := fun i => (s.obj.aTxnStruct i).aBuf.length)]
  refine List.length_le_sum_of_one_le _ fun c hc => ?_
  obtain ⟨i, hi, rfl⟩ := List.mem_map.mp hc
  refine List.length_pos_iff.mpr ?_
  cases h.busy i hi with
  | packets _ hp => exact hp.1
  | drop _ ha _ _ => exact ha

theorem Tracks.inLoop (h : Tracks s [] 0) (ho : Orderly s a) :
    InLoop a s.unprocessed s .start := by
  refine ⟨⟨h.ring, ?_, ho.2.ahead, h.nodup, h.free, h.busy, h.order, h.account, h.log⟩, ho.2,
    by simp [Locals.start]⟩
  have hlen := h.length_le
  have hfit := ho.1
  simp only [Locals.pendingReads, Locals.start, if_true]
  omega

theorem Tracks.handle (h : Tracks s [] 0) (ho : Orderly s a) {s' : Sys}
    (he : s.handle a = some s') : Tracks s' [] 0 := by
  rw [Sys.handle] at he
  split at he
  · cases he
    exact h
  · exact handleLoop_tracks (h.inLoop ho) he

/-! ## The steps -/

variable {i : Fin maxConsecutiveReadTxn} {rest : List (Fin maxConsecutiveReadTxn)}

theorem Tracks.completed (h : Tracks s [] 0) (hin : s.inFlight = i :: rest)
    (hp : (s.obj.aTxnStruct i).Packets) (c : ℕ) :
    Tracks (forwardPacket { s with
      obj := { s.obj with uAvailableTxn := c }
      inFlight := rest
      reads := settle .complete s.reads } i false) [] 0 := by
  have hnodup := h.nodup
  rw [hin, List.cons_append, List.nodup_cons] at hnodup
  obtain ⟨hi, hnodup⟩ := hnodup
  have hirest : i ∉ rest := fun hm => hi (List.mem_append_left _ hm)
  constructor
  case ring =>
    have hring := h.ring
    rw [hin] at hring
    exact hring.pop (List.Subset.refl _)
  case bound =>
    have hbound := h.bound
    rw [hin, List.cons_append, List.length_cons] at hbound
    exact Nat.le_of_succ_le hbound
  case ahead => exact h.ahead
  case nodup => exact hnodup
  case free =>
    have hfree := h.free
    rw [hin] at hfree
    rw [forward_inFlight, forward_failed, forward_aTxnStruct]
    intro j hj
    by_cases he : j = i
    · subst he
      rw [update_self]
      exact ⟨rfl, by simp [hp.live.2]⟩
    · rw [update_of_ne he]
      exact hfree j (List.not_mem_cons_of_ne_of_not_mem he hj)
  case busy =>
    have hbusy := h.busy
    rw [hin] at hbusy
    exact busy_update hbusy (fun j hj _ => List.mem_cons_of_mem _ hj) fun hc => absurd hc hi
  case order =>
    have horder := h.order
    rw [hin, heldIn_cons] at horder
    rw [forward_inFlight, forward_handed, forward_aTxnStruct, List.filterMap_append, mark_packet,
      hp.live_ids, heldIn_update hirest]
    simpa using horder
  case account =>
    have haccount := h.account
    rw [hin, List.cons_append, heldIn_cons] at haccount
    rw [forward_inFlight, forward_failed, forward_handed, forward_aTxnStruct, forward_obtained,
      List.filterMap_append, mark_buf, hp.live_ids, heldIn_update hi]
    simpa using haccount
  case log =>
    have hlog := h.log
    rw [hin] at hlog
    refine hlog.settle (by decide) hirest (fun j hj => update_of_ne hj ..) fun r hr => ?_
    rw [mark_known, if_pos rfl, Read.packets_of_packets (by rw [hr]; exact hp), hr]

theorem Tracks.completed_drop (h : Tracks s [] 0) (hin : s.inFlight = i :: rest)
    (hids : (s.obj.aTxnStruct i).ids = []) (hunmarked : (s.obj.aTxnStruct i).endOfBurst = false)
    (c : ℕ) : Tracks { s with
      obj := { s.obj with
        uAvailableTxn := c
        aTxnStruct := update s.obj.aTxnStruct i
          { s.obj.aTxnStruct i with fTxnDoneCb := .txnDone } }
      inFlight := rest
      reads := settle .complete s.reads } [] 0 := by
  have hnodup := h.nodup
  have hring := h.ring
  have hbound := h.bound
  have hfree := h.free
  have hbusy := h.busy
  have horder := h.order
  have haccount := h.account
  rw [hin, List.cons_append] at hnodup hbound hfree hbusy haccount
  rw [hin] at hring horder
  rw [heldIn_cons, hids, List.nil_append] at horder haccount
  obtain ⟨hi, hnodup⟩ := List.nodup_cons.mp hnodup
  have hirest : i ∉ rest := fun hm => hi (List.mem_append_left _ hm)
  have hlog := h.log
  rw [hin] at hlog
  refine ⟨hring.pop (List.Subset.refl _), ?_, h.ahead, hnodup, ?_, ?_, ?_, ?_, ?_⟩
  · rw [List.length_cons] at hbound
    exact Nat.le_of_succ_le hbound
  · intro j hj
    by_cases he : j = i
    · subst he
      simp only [update_self]
      exact ⟨hids, hunmarked⟩
    · simp only [update_of_ne he]
      exact hfree j (List.not_mem_cons_of_ne_of_not_mem he hj)
  · exact busy_update hbusy (fun j hj _ => List.mem_cons_of_mem _ hj) fun hc => absurd hc hi
  · simp only [heldIn_update hirest]
    exact horder
  · simp only [heldIn_update hi]
    exact haccount
  · have hnew : Logged (update s.obj.aTxnStruct i
        { s.obj.aTxnStruct i with fTxnDoneCb := .txnDone }) rest (s.handed ++ [])
        (settle .complete s.reads) := by
      refine hlog.settle (by decide) hirest (fun j hj => update_of_ne hj ..) fun r hr => ?_
      rw [if_pos rfl, Read.packets, hr, if_pos hids]
      rfl
    rwa [List.append_nil] at hnew

theorem Tracks.fail (h : Tracks s [] 0) (hin : s.inFlight = i :: rest) :
    Tracks { s with
      inFlight := rest
      failed := s.failed ++ [i]
      reads := settle .error s.reads } [] 0 := by
  have hperm : (rest ++ (s.failed ++ [i])).Perm (s.inFlight ++ s.failed) := by
    rw [hin, ← List.append_assoc, List.cons_append]
    exact List.perm_append_singleton _ _
  have hring := h.ring
  have horder := h.order
  rw [hin] at hring horder
  refine ⟨hring.pop (List.subset_append_left _ _), ?_, fun k hk => absurd hk (Nat.not_lt_zero k),
    hperm.nodup_iff.mpr h.nodup, fun j hj => h.free j fun hm => hj (hperm.mem_iff.mpr hm),
    fun j hj => h.busy j (hperm.mem_iff.mp hj), ?_, ?_, ?_⟩
  · rw [hperm.length_eq]
    exact h.bound
  · rw [List.append_nil, heldIn_cons] at horder
    rw [List.append_nil]
    refine horder.sublist (List.Sublist.append_left ?_ _)
    exact List.sublist_append_right _ _
  · refine List.Perm.trans ?_ h.account
    exact ((heldIn_perm hperm).append_left _).append_right _
  · have hlog := h.log
    have hnodup := h.nodup
    rw [hin] at hlog hnodup
    have hirest : i ∉ rest :=
      fun hm => (List.nodup_cons.mp hnodup).1 (List.mem_append_left _ hm)
    have hnew : Logged s.obj.aTxnStruct rest (s.handed ++ []) (settle .error s.reads) := by
      refine hlog.settle (by decide) hirest (fun j _ => rfl) fun r _ => ?_
      rfl
    rwa [List.append_nil] at hnew

/-- A structure as the restart finds it. -/
def Whole (t : TTxnStruct) : Prop := Free t ∨ t.fTxnDoneCb = .txnDone ∧ t.Packets

theorem Whole.of_busy (h : Busy t) : Whole t := by
  cases h with
  | packets hcb hp => exact Or.inr ⟨hcb, hp⟩
  | drop _ _ hids hmark => exact Or.inl ⟨hids, hmark⟩

theorem Whole.live (h : Whole t) : t.live.filterMap id = t.ids := by
  rcases h with h | h
  · rw [live_ids_nil h.ids, h.ids]
  · exact h.2.live_ids

theorem Whole.cleared (h : Whole t) :
    Free { t with aBuf := [], endOfBurst := t.endOfBurst && t.live.isEmpty } := by
  refine ⟨rfl, ?_⟩
  rcases h with h | h
  · simp [h.unmarked]
  · simp [h.2.live.2]

theorem release_other {j : Fin maxConsecutiveReadTxn} (hj : j ≠ i) :
    (s.release i).obj.aTxnStruct j = s.obj.aTxnStruct j := by
  rw [release]
  split
  · rw [forward_aTxnStruct, update_of_ne hj]
  · rfl

theorem release_free (h : Whole (s.obj.aTxnStruct i)) : Free ((s.release i).obj.aTxnStruct i) := by
  rw [release]
  split
  · rw [forward_aTxnStruct, update_self]
    exact h.cleared
  next hkeep =>
    rcases h with h | h
    · exact h
    · exact absurd ⟨h.2.1, h.1⟩ hkeep

theorem release_handed (h : Whole (s.obj.aTxnStruct i)) :
    (s.release i).handed.filterMap Handed.buf =
        s.handed.filterMap Handed.buf ++ (s.obj.aTxnStruct i).ids ∧
      (s.release i).handed.filterMap packetOf = s.handed.filterMap packetOf ∧
      (s.release i).handed.filter (fun h => !h.unknown) =
        s.handed.filter (fun h => !h.unknown) := by
  rw [release]
  split
  · rw [forward_handed, List.filterMap_append, List.filterMap_append, List.filter_append, mark_buf,
      mark_unknown, mark_unknown_filter, h.live, List.append_nil, List.append_nil]
    exact ⟨rfl, rfl, rfl⟩
  next hkeep =>
    rcases h with h | h
    · rw [h.ids, List.append_nil]
      exact ⟨rfl, rfl, rfl⟩
    · exact absurd ⟨h.2.1, h.1⟩ hkeep

theorem release_rest (s : Sys) (i : Fin maxConsecutiveReadTxn) :
    (s.release i).obtained = s.obtained ∧ (s.release i).reads = s.reads ∧
      (s.release i).obj.uCurrTxnIndex = s.obj.uCurrTxnIndex := by
  rw [release]
  split <;> exact ⟨rfl, rfl, rfl⟩

/-- The scan: every structure scanned is free, and its buffers are handed over. -/
structure Released (s s' : Sys) (l : List (Fin maxConsecutiveReadTxn)) : Prop where
  free : ∀ i ∈ l, Free (s'.obj.aTxnStruct i)
  other : ∀ i ∉ l, s'.obj.aTxnStruct i = s.obj.aTxnStruct i
  buf : s'.handed.filterMap Handed.buf =
    s.handed.filterMap Handed.buf ++ heldIn s.obj.aTxnStruct l
  packet : s'.handed.filterMap packetOf = s.handed.filterMap packetOf
  known : s'.handed.filter (fun h => !h.unknown) = s.handed.filter (fun h => !h.unknown)
  obtained : s'.obtained = s.obtained
  reads : s'.reads = s.reads
  cur : s'.obj.uCurrTxnIndex = s.obj.uCurrTxnIndex

theorem heldIn_congr {tx tx' : Fin maxConsecutiveReadTxn → TTxnStruct}
    {l : List (Fin maxConsecutiveReadTxn)} (h : ∀ i ∈ l, tx i = tx' i) :
    heldIn tx l = heldIn tx' l :=
  List.flatMap_congr fun i hi => by rw [h i hi]

theorem released_scan {l : List (Fin maxConsecutiveReadTxn)} (hl : l.Nodup)
    (h : ∀ i ∈ l, Whole (s.obj.aTxnStruct i)) : Released s (l.foldl release s) l := by
  induction l generalizing s with
  | nil => exact ⟨by simp, by simp, by simp [heldIn], rfl, rfl, rfl, rfl, rfl⟩
  | cons i l ih =>
    obtain ⟨hi, hl⟩ := List.nodup_cons.mp hl
    have hwhole := h i (List.mem_cons_self ..)
    have hsame : ∀ j ∈ l, (s.release i).obj.aTxnStruct j = s.obj.aTxnStruct j :=
      fun j hj => release_other fun he => hi (he ▸ hj)
    have hrest := ih hl (s := s.release i) fun j hj => by
      rw [hsame j hj]
      exact h j (List.mem_cons_of_mem _ hj)
    obtain ⟨hobtained, hreads, hcur⟩ := release_rest s i
    obtain ⟨hbuf, hpacket, hknown⟩ := release_handed hwhole
    rw [List.foldl_cons]
    refine ⟨?_, ?_, ?_, hrest.packet.trans hpacket, hrest.known.trans hknown,
      hrest.obtained.trans hobtained, hrest.reads.trans hreads, hrest.cur.trans hcur⟩
    · intro j hj
      rcases List.mem_cons.mp hj with rfl | hj
      · rw [hrest.other j hi]
        exact release_free hwhole
      · exact hrest.free j hj
    · intro j hj
      obtain ⟨hne, hj⟩ := List.ne_and_not_mem_of_not_mem_cons hj
      rw [hrest.other j hj, release_other hne]
    · rw [hrest.buf, hbuf, heldIn_cons, heldIn_congr hsame, List.append_assoc]

theorem Tracks.heldIn_all (h : Tracks s g room) :
    (heldIn s.obj.aTxnStruct (List.finRange maxConsecutiveReadTxn)).Perm
      (heldIn s.obj.aTxnStruct (s.inFlight ++ s.failed)) := by
  have hall : (s.inFlight ++ s.failed ++ (List.finRange maxConsecutiveReadTxn).filter
      fun i => i ∉ s.inFlight ++ s.failed).Perm (List.finRange maxConsecutiveReadTxn) := by
    refine (List.perm_ext_iff_of_nodup ?_ (List.nodup_finRange _)).mpr fun i => ?_
    · refine List.nodup_append'.mpr ⟨h.nodup, (List.nodup_finRange _).filter _, ?_⟩
      intro i hi hi'
      simpa [hi] using (List.mem_filter.mp hi').2
    · simp only [List.mem_append, List.mem_filter, List.mem_finRange, decide_eq_true_eq, true_and,
        iff_true]
      tauto
  have hnone : heldIn s.obj.aTxnStruct ((List.finRange maxConsecutiveReadTxn).filter
      fun i => i ∉ s.inFlight ++ s.failed) = [] := by
    refine List.flatMap_eq_nil_iff.mpr fun i hi => (h.free i ?_).ids
    simpa using (List.mem_filter.mp hi).2
  refine (heldIn_perm hall.symm).trans ?_
  rw [heldIn_append, hnone, List.append_nil]

theorem Tracks.restart (h : Tracks s [] room) : Tracks s.restart [] 0 := by
  have hwhole : ∀ i, Whole (s.obj.aTxnStruct i) := by
    intro i
    by_cases hi : i ∈ s.inFlight ++ s.failed
    · exact .of_busy (h.busy i hi)
    · exact Or.inl (h.free i hi)
  have hscan := released_scan (s := { s with
    obj := { s.obj with
      uFwRxCntr := 0
      uDrvRxCntr := 0
      uCurrTxnIndex := 0
      uAvailableTxn := maxConsecutiveReadTxn - 1 } })
    (List.nodup_finRange maxConsecutiveReadTxn) fun i _ => hwhole i
  rw [Sys.restart]
  revert hscan
  intro hscan
  refine ⟨Ring.InOrder.nil _ _, Nat.zero_le _, fun k hk => absurd hk (Nat.not_lt_zero k),
    List.nodup_nil, fun i _ => ?_, by simp, ?_, ?_, ?_⟩
  · have hfree := hscan.free i (List.mem_finRange i)
    exact ⟨hfree.ids, hfree.unmarked⟩
  · have horder := h.order
    rw [List.append_nil] at horder
    simp only [heldIn, List.flatMap_nil, List.append_nil]
    rw [hscan.packet]
    exact horder.sublist (List.sublist_append_left _ _)
  · have haccount := h.account
    rw [List.append_nil] at haccount
    simp only [heldIn, List.append_nil, List.flatMap_nil]
    rw [hscan.buf, hscan.obtained]
    exact (h.heldIn_all.append_left _).trans haccount
  · rw [hscan.reads]
    exact h.log.abandon hscan.known

theorem Tracks.init (x y : ℕ) (z : Fin (maxXferBufs + 1)) : Tracks (Sys.init x y z) [] 0 := by
  refine Tracks.restart (?_ : Tracks _ [] 0)
  refine ⟨Ring.InOrder.nil _ _, Nat.zero_le _, by simp, List.nodup_nil,
    fun _ _ => ⟨rfl, rfl⟩, by simp, ?_, ?_, ?_⟩
  · exact List.Pairwise.nil
  · exact List.Perm.refl _
  · exact ⟨rfl, by simp, rfl, List.Pairwise.nil, by simp⟩

/-- What a step asks: the calls of the handler that it makes are orderly. -/
def Steady (s : Sys) : Op → Prop
  | .rxEvent fwRxCntr rxPktsDesc a =>
    fwRxCntr.toNat % numRxPktDesc ≠ s.obj.uFwRxCntr % numRxPktDesc → Orderly { s with
      obj := { s.obj with uFwRxCntr := fwRxCntr.toNat, aRxPktsDesc := rxPktsDesc } } a
  | .txnDone a =>
    s.obj.bPendingBuffer = true →
      (∀ i ∈ s.inFlight.head?, (s.obj.aTxnStruct i).fTxnDoneCb = .txnDone) →
      Orderly { s with inFlight := s.inFlight.tail } a
  | .txnFail => True
  | .restart => True

theorem Orderly.congr {s' : Sys} (h : Orderly s a)
    (hfw : s'.obj.uFwRxCntr = s.obj.uFwRxCntr) (hdrv : s'.obj.uDrvRxCntr = s.obj.uDrvRxCntr)
    (hdesc : s'.obj.aRxPktsDesc = s.obj.aRxPktsDesc)
    (hcur : s'.obj.uCurrTxnIndex = s.obj.uCurrTxnIndex)
    (hin : s'.inFlight = s.inFlight) (hfailed : s'.failed = s.failed)
    (hcb : ∀ i, (s'.obj.aTxnStruct i).fTxnDoneCb = (s.obj.aTxnStruct i).fTxnDoneCb)
    (haBuf : ∀ i ∈ s.inFlight ++ s.failed,
      (s'.obj.aTxnStruct i).aBuf = (s.obj.aTxnStruct i).aBuf) : Orderly s' a := by
  have hn : s'.unprocessed = s.unprocessed := by
    rw [unprocessed, unprocessed, hfw, hdrv]
  have hout : s'.outstanding = s.outstanding := by
    rw [outstanding, outstanding, hin, hfailed]
    congr 1
    exact List.map_congr_left fun i hi => by rw [haBuf i hi]
  refine ⟨by rw [hn, hout]; exact h.1, ?_⟩
  obtain ⟨hlengths, hsync, hcallback, hahead⟩ := h.2
  rw [hn]
  refine ⟨?_, ?_, ?_, ?_⟩
  · rw [hdesc, hdrv]
    exact hlengths
  · rw [hin]
    exact hsync
  · intro k hk hb
    rw [hcur, hcb]
    exact hcallback k hk hb
  · rw [hcur, hfailed]
    exact hahead

theorem Tracks.txnDone (h : Tracks s [] 0) (hin : s.inFlight = i :: rest)
    (ho : s.obj.bPendingBuffer = true → (s.obj.aTxnStruct i).fTxnDoneCb = .txnDone →
      Orderly { s with inFlight := rest } a) {s' : Sys}
    (he : Sys.txnDone { s with inFlight := rest, reads := settle .complete s.reads } i a = some s') :
    Tracks s' [] 0 := by
  have hbusy := h.busy i (by rw [hin]; simp)
  rw [Sys.txnDone] at he
  cases hbusy with
  | packets hcb hp =>
    simp only [hcb] at he
    have hdone := h.completed hin hp (add32 s.obj.uAvailableTxn 1)
    split at he
    next hpending =>
      have hi : i ∉ rest ++ s.failed := by
        have := h.nodup
        rw [hin, List.cons_append] at this
        exact (List.nodup_cons.mp this).1
      refine Tracks.handle (s := { forwardPacket _ i false with obj := _ }) ?_ ?_ he
      · exact hdone.congr rfl rfl rfl rfl rfl rfl rfl
      · refine (ho hpending hcb).congr rfl rfl rfl rfl rfl rfl (fun j => ?_) fun j hj => ?_
        · simp only [forward_aTxnStruct]
          by_cases hj : j = i
          · subst hj
            rw [update_self]
          · rw [update_of_ne hj]
        · have hne : j ≠ i := fun hj' => hi (hj' ▸ hj)
          simp only [forward_aTxnStruct]
          rw [update_of_ne hne]
    next =>
      cases he
      exact hdone
  | drop hcb _ hids hmark =>
    simp only [hcb] at he
    cases he
    exact h.completed_drop hin hids hmark _

theorem Tracks.step (h : Tracks s [] 0) {op : Op} (ho : Steady s op) {s' : Sys}
    (he : Sys.step s op = some s') : Tracks s' [] 0 := by
  cases op with
  | rxEvent fwRxCntr rxPktsDesc a =>
    rw [Sys.step, rxEvent] at he
    split at he
    · cases he
      exact h
    next hnew =>
      refine Tracks.handle ?_ (ho hnew) he
      exact h.congr rfl rfl rfl rfl rfl rfl rfl
  | txnDone a =>
    rw [Sys.step] at he
    cases hin : s.inFlight with
    | nil =>
      rw [hin] at he
      cases he
    | cons i rest =>
      rw [hin] at he
      rw [Steady, hin] at ho
      exact h.txnDone hin (fun hpending hcb => ho hpending (by simpa using hcb)) he
  | txnFail =>
    rw [Sys.step] at he
    cases hin : s.inFlight with
    | nil =>
      rw [hin] at he
      cases he
    | cons i rest =>
      rw [hin] at he
      cases he
      exact h.fail hin
  | restart =>
    cases he
    exact h.restart

/-! ## Runs -/

instance (s : Sys) (a : Answers) (requests reads n room : ℕ) :
    Decidable (Ready s a requests reads n room) :=
  decidable_of_iff (_ ∧ _ ∧ _ ∧ _)
    ⟨fun ⟨hlengths, hsync, hcallback, hahead⟩ => ⟨hlengths, hsync, hcallback, hahead⟩,
      fun h => ⟨h.lengths, h.sync, h.callback, h.ahead⟩⟩

instance (s : Sys) (a : Answers) : Decidable (Orderly s a) :=
  inferInstanceAs (Decidable (_ ∧ _))

instance (s : Sys) : (op : Op) → Decidable (Steady s op)
  | .rxEvent _ _ _ => inferInstanceAs (Decidable (_ → _))
  | .txnDone _ => inferInstanceAs (Decidable (_ → _ → _))
  | .txnFail => isTrue trivial
  | .restart => isTrue trivial

/-- What is asked of the module in every state. -/
structure Conserved (s : Sys) : Prop where
  /-- A buffer obtained is handed over once, unless its read is in flight or failed. -/
  once : (s.handed.filterMap Handed.buf ++ heldIn s.obj.aTxnStruct (s.inFlight ++ s.failed)).Perm
    (List.range s.obtained)
  /-- Packets are handed over in the order in which their buffers were obtained. -/
  order : (s.handed.filterMap packetOf).Pairwise (· < ·)
  /-- No read was issued on a structure whose read was in flight. -/
  fresh : ∀ r ∈ s.reads, r.uIndex ∉ r.inFlight

theorem Tracks.conserved (h : Tracks s [] 0) : Conserved s where
  once := by
    have haccount := h.account
    rwa [List.append_nil] at haccount
  order := by
    have horder := h.order
    rw [List.append_nil] at horder
    exact horder.sublist (List.sublist_append_left _ _)
  fresh := h.log.fresh

/-- **The buffers are conserved** in every run whose calls of the handler are orderly. -/
theorem obtained_accounted (uPacketMemoryPoolStart uMaxAggregLen : ℕ)
    (uMaxAggregPkts : Fin (maxXferBufs + 1)) {ops : List Op} {s : Sys}
    (ha : Along step Steady (init uPacketMemoryPoolStart uMaxAggregLen uMaxAggregPkts) ops)
    (he : exec step (init uPacketMemoryPoolStart uMaxAggregLen uMaxAggregPkts) ops = some s) :
    Conserved s :=
  Tracks.conserved <| Along.invariant (I := fun s => Tracks s [] 0)
    (fun _ _ _ h ho hs => h.step ho hs) (Tracks.init _ _ _) ha he

/-- Packets of 40 bytes, the answers all the same. -/
def event (fwRxCntr : UInt8) (alloc : ERxBufferStatus) (bus : ETxnStatus) : Op :=
  .rxEvent fwRxCntr (fun _ => 10 * 2 ^ 8) ⟨fun _ => alloc, fun _ => bus⟩

def threePackets : List Op :=
  [event 3 .complete .pending, .txnDone ⟨fun _ => .complete, fun _ => .pending⟩, .txnFail, .restart]

theorem obtained_accounted_threePackets :
    ∃ s, exec step (init 0 4096 2) threePackets = some s ∧ s.handed.length = 3 ∧ Conserved s := by
  have hrun : (exec step (init 0 4096 2) threePackets).map (fun s => s.handed.length) = some 3 := by
    decide +kernel
  obtain ⟨s, hs, hlen⟩ := Option.map_eq_some_iff.mp hrun
  exact ⟨s, hs, hlen, obtained_accounted 0 4096 2 (by decide +kernel) hs⟩

/-- Reads of one packet each: the first, into the dummy buffer, completes at once, and the next on
the same structure is pending. -/
def staleCallback : List Op :=
  event 1 .outOfMem .complete ::
    (List.range 15).map (fun k => event (UInt8.ofNat (k + 2)) .complete .complete) ++
    event 17 .complete .pending :: .txnDone ⟨fun _ => .complete, fun _ => .complete⟩ ::
    (List.range 16).map fun k => event (UInt8.ofNat (k + 18)) .complete .complete

/-- The read that was pending had `rxXfer_PktDropTxnDoneCb`: its buffer is never handed over. -/
theorem staleCallback_loses_buffer : ∃ s, exec step (init 0 4096 2) staleCallback = some s ∧
    s.inFlight = [] ∧ s.failed = [] ∧ 15 < s.obtained ∧ 15 ∉ s.handed.filterMap Handed.buf ∧
    (∀ i, 15 ∉ (s.obj.aTxnStruct i).ids) ∧ ¬ Conserved s := by
  have hrun : (exec step (init 0 4096 2) staleCallback).map (fun s => (s.inFlight, s.failed,
      s.obtained, s.handed.filterMap Handed.buf,
      heldIn s.obj.aTxnStruct (List.finRange maxConsecutiveReadTxn))) =
        some ([], [], 32, (List.range 32).erase 15, []) := by
    decide +kernel
  obtain ⟨s, hs, hfields⟩ := Option.map_eq_some_iff.mp hrun
  simp only [Prod.mk.injEq] at hfields
  obtain ⟨hin, hfailed, hobtained, hhanded, hheld⟩ := hfields
  have hgone : 15 ∉ (List.range 32).erase 15 := by decide
  refine ⟨s, hs, hin, hfailed, by omega, by rwa [hhanded], fun i hi => ?_, fun hc => ?_⟩
  · have hmem : 15 ∈ heldIn s.obj.aTxnStruct (List.finRange maxConsecutiveReadTxn) :=
      List.mem_flatMap.mpr ⟨i, List.mem_finRange i, hi⟩
    rw [hheld] at hmem
    cases hmem
  · have honce := hc.once
    rw [hin, hfailed, hobtained, hhanded, List.append_nil] at honce
    have hmem := honce.symm.subset (List.mem_range.mpr (show 15 < 32 by omega))
    exact hgone hmem

end Sys

end ArchosGpl.Wlan.RxXfer
