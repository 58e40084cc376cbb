import Mathlib.Data.List.Infix
import ArchosGpl.Wlan.RxXfer.Conservation

/-!
# The end of a burst

`rxXfer_Handle` marks the transaction that it issues at its exit, if it has packets in hand then.

* **The mark** (`burst_marked`): for every event of a run whose handler calls are orderly, exactly
  the last packet forwarded for the event carries the mark if and only if the event's packets, put
  into transactions one after the other, leave a transaction open, and the event's last read
  completes.
* **Without it** (`fullTransaction_unmarked`): when the last packet fills its transaction, or is
  dropped, no packet of the event carries the mark.

`EndsMarked` is what the reads of a handler call look like (`handleLoop_adds`), `putPacket` is the
rule that fills transactions.
-/

namespace ArchosGpl.Wlan.RxXfer

open Lib

/-! ## Marks -/

/-- Exactly the last packet carries the mark. -/
def LastMarked (forwarded : List Handed) : Prop :=
  ∃ l h, forwarded = l ++ [h] ∧ h.endOfBurst = true ∧ ∀ x ∈ l, x.endOfBurst = false

theorem not_lastMarked {l : List Handed} (h : ∀ x ∈ l, x.endOfBurst = false) : ¬ LastMarked l := by
  rintro ⟨m, x, rfl, hx, -⟩
  rw [h x (by simp)] at hx
  cases hx

theorem mark_unmarked (u : Bool) (l : List Buf) : ∀ h ∈ mark false u l, h.endOfBurst = false := by
  induction l with
  | nil => simp [mark]
  | cons b l ih =>
    cases l with
    | nil => simp [mark]
    | cons c l =>
      intro h hh
      rw [mark] at hh
      rcases List.mem_cons.mp hh with rfl | hh
      · rfl
      · exact ih h hh

theorem lastMarked_mark (u : Bool) {l : List Buf} (hl : l ≠ []) : LastMarked (mark true u l) := by
  induction l with
  | nil => exact absurd rfl hl
  | cons b l ih =>
    cases l with
    | nil => exact ⟨[], ⟨b, true, u⟩, rfl, rfl, by simp⟩
    | cons c l =>
      obtain ⟨m, x, hm, hx, hunmarked⟩ := ih (List.cons_ne_nil _ _)
      refine ⟨⟨b, false, u⟩ :: m, x, ?_, hx, ?_⟩
      · rw [mark, hm, List.cons_append]
      · intro y hy
        rcases List.mem_cons.mp hy with rfl | hy
        · rfl
        · exact hunmarked y hy

theorem LastMarked.append {l m : List Handed} (hl : ∀ x ∈ l, x.endOfBurst = false)
    (h : LastMarked m) : LastMarked (l ++ m) := by
  obtain ⟨m, x, rfl, hx, hm⟩ := h
  refine ⟨l ++ m, x, (List.append_assoc ..).symm, hx, ?_⟩
  intro y hy
  rcases List.mem_append.mp hy with hy | hy
  · exact hl y hy
  · exact hm y hy

/-- What reads forward: the packets of those that completed. -/
def forwarded (reads : List Read) : List Handed :=
  (reads.filter Read.isComplete).flatMap Read.packets

/-- Reads whose structures carry no mark. -/
def Unmarked (txns : List TTxnStruct) : Prop := ∀ t ∈ txns, t.endOfBurst = false

theorem Unmarked.append {l m : List TTxnStruct} (hl : Unmarked l) (hm : Unmarked m) :
    Unmarked (l ++ m) := by
  intro t ht
  rcases List.mem_append.mp ht with ht | ht
  · exact hl t ht
  · exact hm t ht

theorem forwarded_unmarked {reads : List Read} (h : Unmarked (reads.map Read.txn)) :
    ∀ x ∈ forwarded reads, x.endOfBurst = false := by
  intro x hx
  obtain ⟨r, hr, hx⟩ := List.mem_flatMap.mp hx
  have hmark := h r.txn (List.mem_map_of_mem (List.mem_of_mem_filter hr))
  rw [Read.packets] at hx
  split at hx
  · cases hx
  · rw [hmark] at hx
    exact mark_unmarked _ _ x hx

/-- Reads of which exactly the last is marked, and is a read of packets, if `last`; else none is. -/
def EndsMarked (last : Prop) (txns : List TTxnStruct) : Prop :=
  (last ∧ ∃ l t, txns = l ++ [t] ∧ Unmarked l ∧ t.endOfBurst = true ∧ t.Packets) ∨
    (¬ last ∧ Unmarked txns)

theorem EndsMarked.prepend {last : Prop} {l m : List TTxnStruct} (hl : Unmarked l)
    (h : EndsMarked last m) : EndsMarked last (l ++ m) := by
  rcases h with ⟨hlast, k, t, rfl, hk, ht, hp⟩ | ⟨hlast, hm⟩
  · exact Or.inl ⟨hlast, l ++ k, t, (List.append_assoc ..).symm, hl.append hk, ht, hp⟩
  · exact Or.inr ⟨hlast, hl.append hm⟩

/-- **The mark reaches the last packet** when the marked read completed. -/
theorem EndsMarked.lastMarked_iff {last : Prop} {reads : List Read}
    (h : EndsMarked last (reads.map Read.txn)) :
    LastMarked (forwarded reads) ↔
      last ∧ ∃ r ∈ reads.getLast?, r.isComplete = true := by
  rcases h with ⟨hlast, l, t, htxns, hl, ht, hp⟩ | ⟨hlast, hall⟩
  · obtain ⟨front, tail, rfl, hfront, htail⟩ := List.map_eq_append_iff.mp htxns
    obtain ⟨r, rfl, rfl⟩ := List.map_eq_singleton_iff.mp htail
    have hunmarked : ∀ x ∈ forwarded front, x.endOfBurst = false :=
      forwarded_unmarked (by rw [hfront]; exact hl)
    have happend : forwarded (front ++ [r]) = forwarded front ++ forwarded [r] := by
      rw [forwarded, List.filter_append, List.flatMap_append, forwarded, forwarded]
    rw [happend, List.getLast?_concat]
    by_cases hc : r.isComplete = true
    · have hr : forwarded [r] = mark true false r.txn.live := by
        rw [forwarded, List.filter_cons_of_pos hc, List.filter_nil, List.flatMap_singleton,
          Read.packets_of_packets hp, ht]
      rw [hr]
      exact iff_of_true ((lastMarked_mark false hp.live.2).append hunmarked) ⟨hlast, r, rfl, hc⟩
    · have hr : forwarded [r] = [] := by
        rw [forwarded, List.filter_cons_of_neg hc]
        rfl
      rw [hr, List.append_nil]
      refine iff_of_false (not_lastMarked hunmarked) ?_
      rintro ⟨-, r', hr', hc'⟩
      cases hr'
      exact hc hc'
  · exact iff_of_false (not_lastMarked (forwarded_unmarked hall)) fun h => hlast h.1

/-! ## The transactions of an event -/

/-- The packets and the length of the open transaction after a packet of that size with that answer
of the allocation callback. -/
def putPacket (uMaxAggregLen uMaxAggregPkts : ℕ) (opened : ℕ × ℕ) (p : ℕ × ERxBufferStatus) : ℕ × ℕ :=
  let opened := if opened.2 + p.1 > uMaxAggregLen then (0, 0) else opened
  if p.2 = .complete ∧ opened.1 + 1 < uMaxAggregPkts then (opened.1 + 1, opened.2 + p.1) else (0, 0)

theorem putPacket_room {x y : ℕ} (opened : ℕ × ℕ) (p : ℕ × ERxBufferStatus)
    (hfit : ¬ (if opened.2 + p.1 > x then (0, 0) else opened).2 + p.1 > x) :
    putPacket x y (if opened.2 + p.1 > x then (0, 0) else opened) p = putPacket x y opened p := by
  rw [putPacket, if_neg hfit, putPacket]

namespace Sys

variable {s s' : Sys} {l l' : Locals} {a : Answers} {n : ℕ}

/-- The sizes of the next `n` packets and the answers for them. -/
def upcoming (s : Sys) (a : Answers) (requests n : ℕ) : List (ℕ × ERxBufferStatus) :=
  (List.range n).map fun k =>
    (buffSize (s.obj.aRxPktsDesc (Fin.ofNat _ (s.obj.uDrvRxCntr + k))), a.alloc (requests + k))

def openAfter (s : Sys) (opened : ℕ × ℕ) (ps : List (ℕ × ERxBufferStatus)) : ℕ × ℕ :=
  ps.foldl (putPacket s.obj.uMaxAggregLen s.obj.uMaxAggregPkts) opened

/-- What the handler reads of the module besides its transactions. -/
structure SameTable (s s' : Sys) : Prop where
  desc : s'.obj.aRxPktsDesc = s.obj.aRxPktsDesc
  len : s'.obj.uMaxAggregLen = s.obj.uMaxAggregLen
  pkts : s'.obj.uMaxAggregPkts = s.obj.uMaxAggregPkts

theorem SameTable.refl (s : Sys) : SameTable s s := ⟨rfl, rfl, rfl⟩

theorem SameTable.trans {t : Sys} (h : SameTable s t) (h' : SameTable t s') : SameTable s s' :=
  ⟨h'.desc.trans h.desc, h'.len.trans h.len, h'.pkts.trans h.pkts⟩

theorem SameTable.openAfter (h : SameTable s s') (opened : ℕ × ℕ) (ps : List (ℕ × ERxBufferStatus)) :
    s'.openAfter opened ps = s.openAfter opened ps := by
  rw [Sys.openAfter, Sys.openAfter, h.len, h.pkts]

theorem issueGroup_table (s : Sys) (l : Locals) (bExit : Bool) (st : ETxnStatus) :
    SameTable s (s.issueGroup l bExit st) ∧
      (s.issueGroup l bExit st).obj.uDrvRxCntr = s.obj.uDrvRxCntr := by
  by_cases hst : st = .complete
  · rw [hst, issueGroup_of_complete]
    exact ⟨⟨rfl, rfl, rfl⟩, rfl⟩
  · rw [issueGroup_of_ne hst]
    exact ⟨⟨rfl, rfl, rfl⟩, rfl⟩

theorem issueRest_table (s : Sys) (l : Locals) (bExit : Bool) (a : Answers) :
    SameTable s (s.issueRest l bExit a) ∧
      (s.issueRest l bExit a).obj.uDrvRxCntr = s.obj.uDrvRxCntr := by
  rw [issueRest]
  split
  · exact ⟨SameTable.refl s, rfl⟩
  · exact issueGroup_table s l bExit _

theorem upcoming_succ (h : SameTable s s') (hdrv : s'.obj.uDrvRxCntr = add32 s.obj.uDrvRxCntr 1)
    (requests n : ℕ) : s.upcoming a requests (n + 1) =
      (buffSize s.nextDesc, a.alloc requests) :: s'.upcoming a (requests + 1) n := by
  rw [upcoming, List.range_succ_eq_map, List.map_cons, List.map_map, upcoming]
  congr 1
  refine List.map_congr_left fun k _ => ?_
  have hadd : requests + 1 + k = requests + (k + 1) := by omega
  rw [Function.comp, h.desc, hdrv, drv_next, hadd]

theorem issueGroup_reads (s : Sys) (l : Locals) (bExit : Bool) (st : ETxnStatus) :
    (s.issueGroup l bExit st).reads = s.reads ++ [⟨s.obj.uCurrTxnIndex, s.inFlight,
      l.uFirstMemBlkAddr, s.groupTxn l bExit, s.obj.uDrvRxCntr, st⟩] := by
  by_cases hst : st = .complete
  · rw [hst, issueGroup_of_complete, forward_reads, issued_reads]
  · rw [issueGroup_of_ne hst, issued_reads]

/-- The reads added between two states. -/
def Adds (s s' : Sys) (P : List TTxnStruct → Prop) : Prop :=
  ∃ reads, s'.reads = s.reads ++ reads ∧ P (reads.map Read.txn)

theorem InLoop.groupTxn_mark (h : InLoop a n s l) (hne : l.group ≠ []) (bExit : Bool) :
    (s.groupTxn l bExit).endOfBurst = bExit := by
  have htracks := h.tracks
  rw [Locals.pendingReads, if_neg hne] at htracks
  rw [groupTxn, (htracks.free _ htracks.next_free).unmarked, Bool.or_false]

theorem InLoop.adds_group (h : InLoop a n s l) (hne : l.group ≠ []) (st : ETxnStatus) :
    Adds s (s.issueGroup l false st) Unmarked := by
  refine ⟨_, issueGroup_reads s l false st, fun t ht => ?_⟩
  rw [List.map_singleton] at ht
  rw [List.mem_singleton.mp ht]
  exact h.groupTxn_mark hne false

theorem InLoop.adds_rest (h : InLoop a n s l) : Adds s (s.issueRest l false a) Unmarked := by
  rw [Sys.issueRest]
  split
  · exact ⟨[], (List.append_nil _).symm, by simp [Unmarked]⟩
  next hne => exact h.adds_group hne _

theorem InLoop.adds_drop (h : InLoop a (n + 1) s l) (desc : ℕ)
    (st : ETxnStatus) : Adds s (s.dropPacket desc st) Unmarked := by
  have htracks := h.tracks.mono (r := n + 1) (by omega)
  refine ⟨[⟨_, _, _, s.dropTxn desc, _, _⟩], rfl, fun t ht => ?_⟩
  rw [List.map_singleton] at ht
  rw [List.mem_singleton.mp ht]
  exact (htracks.free _ htracks.next_free).unmarked

theorem InLoop.adds_exit (h : InLoop a n s l) :
    Adds s (s.issueRest l true a) (EndsMarked (l.group.length ≠ 0)) := by
  rw [Sys.issueRest]
  split
  next hnil => exact ⟨[], (List.append_nil _).symm, Or.inr ⟨by simp [hnil], by simp [Unmarked]⟩⟩
  next hne =>
    refine ⟨_, issueGroup_reads s l true _, Or.inl ⟨by simpa using hne, [], s.groupTxn l true, rfl,
      by simp [Unmarked], h.groupTxn_mark hne true, hne, h.packets⟩⟩

theorem Adds.trans {t : Sys} {P : List TTxnStruct → Prop} (h : Adds s t Unmarked) (h' : Adds t s' P)
    (hP : ∀ {l m}, Unmarked l → P m → P (l ++ m)) : Adds s s' P := by
  obtain ⟨r, hr, hu⟩ := h
  obtain ⟨r', hr', hp⟩ := h'
  refine ⟨r ++ r', by rw [hr', hr, List.append_assoc], ?_⟩
  rw [List.map_append]
  exact hP hu hp

/-- The open transaction of the handler. -/
def Locals.opened (l : Locals) : ℕ × ℕ := (l.group.length, l.uTotalAggregLen)

theorem makeRoom_opened (s : Sys) (l : Locals) (a : Answers) (size : ℕ) :
    Locals.opened (s.makeRoom l a size).2 =
      if l.uTotalAggregLen + size > s.obj.uMaxAggregLen then (0, 0) else Locals.opened l := by
  rw [makeRoom]
  split <;> rfl

theorem InLoop.makeRoom_adds (h : InLoop a n s l) (size : ℕ) :
    Adds s (s.makeRoom l a size).1 Unmarked ∧ SameTable s (s.makeRoom l a size).1 ∧
      (s.makeRoom l a size).1.obj.uDrvRxCntr = s.obj.uDrvRxCntr ∧
      (s.makeRoom l a size).2.requests = l.requests := by
  rw [Sys.makeRoom]
  split
  · obtain ⟨htable, hdrv⟩ := issueRest_table s l false a
    exact ⟨h.adds_rest, htable, hdrv, rfl⟩
  · exact ⟨⟨[], (List.append_nil _).symm, by simp [Unmarked]⟩, SameTable.refl s, rfl, rfl⟩

/-- **A pass serves a packet**: it issues reads without a mark and keeps the open transaction. -/
theorem InLoop.serve_adds (h : InLoop a (n + 1) s l) (hp : a.alloc l.requests ≠ .pending)
    (hroom : ¬ l.uTotalAggregLen + buffSize s.nextDesc > s.obj.uMaxAggregLen) :
    ∃ t l', s.servePacket l a s.nextDesc = .ok (t, l') ∧ Adds s t Unmarked ∧ SameTable s t ∧
      t.obj.uDrvRxCntr = add32 s.obj.uDrvRxCntr 1 ∧ l'.requests = l.requests + 1 ∧
      Locals.opened l' = putPacket s.obj.uMaxAggregLen s.obj.uMaxAggregPkts (Locals.opened l)
        (buffSize s.nextDesc, a.alloc l.requests) := by
  rw [Sys.servePacket, putPacket, Locals.opened]
  simp only [if_neg hroom]
  cases halloc : a.alloc l.requests with
  | pending => exact absurd halloc hp
  | complete =>
    have hadd := h.addPacket halloc
    have hlen : (s.addPacket l s.nextDesc).2.group.length = l.group.length + 1 := by
      simp [Sys.addPacket]
    dsimp only
    by_cases hfull : l.group.length + 1 < s.obj.uMaxAggregPkts
    · refine ⟨_, _, congrArg _ (if_neg ?_), ⟨[], (List.append_nil _).symm, by simp [Unmarked]⟩,
        ⟨rfl, rfl, rfl⟩, rfl, rfl, ?_⟩
      · rw [hlen]
        exact Nat.not_le.mpr hfull
      · rw [if_pos ⟨rfl, hfull⟩, Locals.opened, hlen]
        rfl
    · refine ⟨_, _, congrArg _ (if_pos ?_), ?_, ?_, ?_, rfl, ?_⟩
      · rw [hlen]
        exact Nat.not_lt.mp hfull
      · have hne : (s.addPacket l s.nextDesc).2.group ≠ [] :=
          List.ne_nil_of_length_pos (by omega)
        obtain ⟨reads, hreads, hu⟩ := hadd.adds_group hne (a.bus l.reads)
        exact ⟨reads, hreads, hu⟩
      · obtain ⟨htable, -⟩ := issueGroup_table (s.addPacket l s.nextDesc).1
          (s.addPacket l s.nextDesc).2 false (a.bus (s.addPacket l s.nextDesc).2.reads)
        exact ⟨htable.desc, htable.len, htable.pkts⟩
      · exact (issueGroup_table _ _ false _).2
      · rw [if_neg fun hc => hfull hc.2]
        rfl
  | outOfMem =>
    obtain ⟨htable, hdrv⟩ := issueRest_table s l false a
    have hrest := h.issueRest_cleared false
    refine ⟨_, _, rfl, ?_, ⟨htable.desc, htable.len, htable.pkts⟩, ?_, rfl, ?_⟩
    · exact h.adds_rest.trans (hrest.adds_drop _ _) Unmarked.append
    · rw [dropPacket, issued_uDrvRxCntr, hdrv]
    · rw [if_neg fun hc => ERxBufferStatus.noConfusion hc.1]
      rfl

/-- **A call of the handler** marks its last read if the packets leave a transaction open, and no
other read. -/
theorem handleLoop_adds (h : InLoop a n s l) (hp : ∀ k < n, a.alloc (l.requests + k) ≠ .pending)
    (he : handleLoop a n s l = some s') : Adds s s' (EndsMarked
      ((s.openAfter (Locals.opened l) (s.upcoming a l.requests n)).1 ≠ 0)) := by
  induction n generalizing s l with
  | zero =>
    rw [handleLoop] at he
    cases he
    exact h.adds_exit
  | succ n ih =>
    have hmade := h.makeRoom (buffSize s.nextDesc)
    have hopened := makeRoom_opened s l a (buffSize s.nextDesc)
    have hnext := makeRoom_nextDesc s l a (buffSize s.nextDesc)
    obtain ⟨hadds, htable, hdrv, hreq⟩ := h.makeRoom_adds (buffSize s.nextDesc)
    rw [handleLoop] at he
    revert he hmade hopened hnext hadds htable hdrv hreq
    generalize s.makeRoom l a (buffSize s.nextDesc) = p
    obtain ⟨s₁, l₁⟩ := p
    dsimp only
    intro he hmade hopened hnext hadds htable hdrv hreq
    split at he
    · cases he
    next hroom =>
      rw [← hnext] at he hroom
      obtain ⟨t, l', hserve, hadds', htable', hdrv', hreq', hopened'⟩ :=
        hmade.serve_adds (by rw [hreq]; exact hp 0 (by omega)) hroom
      have hin := hmade.servePacket
      rw [hserve] at he hin
      have hrest := ih hin (fun k hk => by
        have := hp (k + 1) (by omega)
        rwa [hreq', hreq, Nat.add_assoc, Nat.add_comm 1 k]) he
      have hst := htable.trans htable'
      have hput : Locals.opened l' = putPacket s.obj.uMaxAggregLen s.obj.uMaxAggregPkts
          (Locals.opened l) (buffSize s.nextDesc, a.alloc l.requests) := by
        have hfit : ¬ (Locals.opened l₁).2 + buffSize s.nextDesc > s.obj.uMaxAggregLen := by
          rw [← hnext, ← htable.len]
          exact hroom
        rw [hopened] at hfit
        rw [hopened', htable.len, htable.pkts, hnext, hreq, hopened]
        exact putPacket_room (Locals.opened l) (buffSize s.nextDesc, _) hfit
      have hopen : s.openAfter (Locals.opened l) (s.upcoming a l.requests (n + 1)) =
          t.openAfter (Locals.opened l') (t.upcoming a l'.requests n) := by
        rw [upcoming_succ hst (by rw [hdrv', hdrv]), hst.openAfter, hreq', hreq, hput]
        rfl
      rw [hopen]
      exact hadds.trans (hadds'.trans hrest EndsMarked.prepend) EndsMarked.prepend

/-! ## The reads of an event -/

/-- The reads so far keep their structures, and others may follow. -/
def Extends (reads reads' : List Read) : Prop :=
  ∃ l m, reads' = l ++ m ∧ l.map Read.txn = reads.map Read.txn

theorem Extends.of_append {reads reads' more : List Read} (h : reads' = reads ++ more) :
    Extends reads reads' :=
  ⟨reads, more, h, rfl⟩

theorem Extends.of_txn {reads reads' : List Read} (h : reads'.map Read.txn = reads.map Read.txn) :
    Extends reads reads' :=
  ⟨reads', [], (List.append_nil _).symm, h⟩

theorem Extends.trans {r r' r'' : List Read} (h : Extends r r') (h' : Extends r' r'') :
    Extends r r'' := by
  obtain ⟨l, m, rfl, hl⟩ := h
  obtain ⟨l', m', rfl, hl'⟩ := h'
  rw [List.map_append] at hl'
  obtain ⟨front, tail, rfl, hfront, -⟩ := List.map_eq_append_iff.mp hl'
  exact ⟨front, tail ++ m', List.append_assoc .., hfront.trans hl⟩

theorem settle_txn (st : ETxnStatus) (reads : List Read) :
    (settle st reads).map Read.txn = reads.map Read.txn := by
  induction reads with
  | nil => rfl
  | cons r reads ih =>
    rw [settle]
    split
    · rfl
    · rw [List.map_cons, List.map_cons, ih]

theorem abandon_txn (reads : List Read) :
    (reads.map Read.abandon).map Read.txn = reads.map Read.txn := by
  rw [List.map_map]
  refine List.map_congr_left fun r _ => ?_
  rw [Function.comp, Read.abandon]
  split <;> rfl

theorem issueGroup_extends (s : Sys) (l : Locals) (bExit : Bool) (st : ETxnStatus) :
    Extends s.reads (s.issueGroup l bExit st).reads :=
  .of_append (issueGroup_reads s l bExit st)

theorem issueRest_extends (s : Sys) (l : Locals) (bExit : Bool) (a : Answers) :
    Extends s.reads (s.issueRest l bExit a).reads := by
  rw [issueRest]
  split
  · exact .of_txn rfl
  · exact issueGroup_extends s l bExit _

theorem servePacket_extends (s : Sys) (l : Locals) (a : Answers) (desc : ℕ) :
    match s.servePacket l a desc with
    | .error t => Extends s.reads t.reads
    | .ok (t, _) => Extends s.reads t.reads := by
  rw [servePacket]
  cases a.alloc l.requests with
  | complete =>
    dsimp only
    split
    · exact issueGroup_extends (s.addPacket l desc).1 _ false _
    · exact .of_txn rfl
  | pending =>
    exact issueRest_extends { s with obj := { s.obj with bPendingBuffer := true } } l true a
  | outOfMem =>
    exact (issueRest_extends s l false a).trans (.of_append rfl)

theorem handleLoop_extends (he : handleLoop a n s l = some s') : Extends s.reads s'.reads := by
  induction n generalizing s l with
  | zero =>
    rw [handleLoop] at he
    cases he
    exact issueRest_extends s l true a
  | succ n ih =>
    have hmade : Extends s.reads (s.makeRoom l a (buffSize s.nextDesc)).1.reads := by
      rw [makeRoom]
      split
      · exact issueRest_extends s l false a
      · exact .of_txn rfl
    rw [handleLoop] at he
    revert he hmade
    generalize s.makeRoom l a (buffSize s.nextDesc) = p
    obtain ⟨s₁, l₁⟩ := p
    dsimp only
    intro he hmade
    split at he
    · cases he
    · have hserve := servePacket_extends s₁ l₁ a s.nextDesc
      revert he hserve
      cases s₁.servePacket l₁ a s.nextDesc with
      | error t =>
        intro he hserve
        cases he
        exact hmade.trans hserve
      | ok q =>
        intro he hserve
        exact (hmade.trans hserve).trans (ih he)

theorem handle_extends (he : s.handle a = some s') : Extends s.reads s'.reads := by
  rw [handle] at he
  split at he
  · cases he
    exact .of_txn rfl
  · exact handleLoop_extends he

theorem txnDone_extends {i : Fin maxConsecutiveReadTxn} (he : s.txnDone i a = some s') :
    Extends s.reads s'.reads := by
  rw [txnDone] at he
  dsimp only at he
  split at he
  · split at he
    · exact (handle_extends he :)
    · cases he
      exact .of_txn rfl
  · cases he
    exact .of_txn rfl

theorem restart_extends (s : Sys) : Extends s.reads s.restart.reads := by
  have hfold : ∀ (l : List (Fin maxConsecutiveReadTxn)) (s : Sys),
      (l.foldl release s).reads = s.reads := by
    intro l
    induction l with
    | nil => exact fun _ => rfl
    | cons i l ih => exact fun s => (ih _).trans (release_rest s i).2.1
  refine .of_txn ?_
  rw [restart]
  dsimp only
  rw [abandon_txn, hfold]

theorem step_extends {op : Op} (he : step s op = some s') : Extends s.reads s'.reads := by
  cases op with
  | rxEvent fwRxCntr rxPktsDesc a =>
    rw [step, rxEvent] at he
    split at he
    · cases he
      exact .of_txn rfl
    · exact (handle_extends he :)
  | txnDone a =>
    rw [step] at he
    split at he
    · cases he
    · exact Extends.trans (.of_txn (settle_txn .complete s.reads)) (txnDone_extends he)
  | txnFail =>
    rw [step] at he
    split at he
    · cases he
    · cases he
      exact .of_txn (settle_txn .error s.reads)
  | restart =>
    cases he
    exact restart_extends s

theorem exec_extends {ops : List Op} (he : exec step s ops = some s') :
    Extends s.reads s'.reads :=
  exec_invariant (I := fun t => Extends s.reads t.reads)
    (fun _ _ _ h ht => h.trans (step_extends ht)) (.of_txn rfl) he

/-- The reads issued by the step from `s` to `s₁`, as they stand in the later state `s₂`. -/
def eventReads (s s₁ s₂ : Sys) : List Read :=
  (s₂.reads.drop s.reads.length).take (s₁.reads.length - s.reads.length)

/-- Whether the packets of an event, put into transactions one after the other, leave one open. -/
def LeavesOpen (s : Sys) (a : Answers) : Prop :=
  (s.openAfter (0, 0) (s.upcoming a 0 s.unprocessed)).1 ≠ 0

theorem eventReads_txn {s₁ s₂ : Sys} {more : List Read} (h₁ : s₁.reads = s.reads ++ more)
    (h₂ : Extends s₁.reads s₂.reads) : (eventReads s s₁ s₂).map Read.txn = more.map Read.txn ∧
      ∃ l m, s₂.reads = l ++ eventReads s s₁ s₂ ++ m := by
  obtain ⟨l, m, hl, htxn⟩ := h₂
  rw [h₁, List.map_append] at htxn
  obtain ⟨front, tail, rfl, hfront, htail⟩ := List.map_eq_append_iff.mp htxn
  have hfl : front.length = s.reads.length := by
    simpa using congrArg List.length hfront
  have htl : tail.length = more.length := by
    simpa using congrArg List.length htail
  have hreads : eventReads s s₁ s₂ = tail := by
    rw [eventReads, hl, h₁, List.length_append, Nat.add_sub_cancel_left, List.append_assoc, ← hfl,
      List.drop_left, ← htl, List.take_left]
  rw [hreads]
  exact ⟨htail, front, m, hl⟩

theorem Tracks.handle_adds (h : Tracks s [] 0) (ho : Orderly s a) (hp : ∀ k, a.alloc k ≠ .pending)
    (he : s.handle a = some s') : ∃ more, s'.reads = s.reads ++ more ∧
      (more = [] ∨ EndsMarked (LeavesOpen s a) (more.map Read.txn)) := by
  rw [Sys.handle] at he
  split at he
  · cases he
    exact ⟨[], (List.append_nil _).symm, Or.inl rfl⟩
  · obtain ⟨more, hmore, hends⟩ := handleLoop_adds (h.inLoop ho) (fun k _ => hp _) he
    exact ⟨more, hmore, Or.inr hends⟩

/-- The firmware's report of an event. -/
def reported (s : Sys) (fwRxCntr : UInt8) (rxPktsDesc : Fin numRxPktDesc → ℕ) : Sys :=
  { s with obj := { s.obj with uFwRxCntr := fwRxCntr.toNat, aRxPktsDesc := rxPktsDesc } }

/-- **The mark of a burst.** For an event anywhere in a run whose handler calls are orderly, what
its reads forward is handed over in one piece, and exactly the last packet of it carries the mark if
and only if the event's packets leave a transaction open and the event's last read completes. -/
theorem burst_marked (uPacketMemoryPoolStart uMaxAggregLen : ℕ)
    (uMaxAggregPkts : Fin (maxXferBufs + 1)) {ops₁ ops₂ : List Op} {fwRxCntr : UInt8}
    {rxPktsDesc : Fin numRxPktDesc → ℕ} {s₁ s₂ : Sys}
    (ha : Along step Steady (init uPacketMemoryPoolStart uMaxAggregLen uMaxAggregPkts)
      (ops₁ ++ .rxEvent fwRxCntr rxPktsDesc a :: ops₂))
    (hp : ∀ k, a.alloc k ≠ .pending)
    (h₁ : exec step (init uPacketMemoryPoolStart uMaxAggregLen uMaxAggregPkts) ops₁ = some s)
    (he : step s (.rxEvent fwRxCntr rxPktsDesc a) = some s₁) (h₂ : exec step s₁ ops₂ = some s₂) :
    forwarded (eventReads s s₁ s₂) <:+: s₂.handed.filter (fun h => !h.unknown) ∧
      (LastMarked (forwarded (eventReads s s₁ s₂)) ↔
        LeavesOpen (s.reported fwRxCntr rxPktsDesc) a ∧
          ∃ r ∈ (eventReads s s₁ s₂).getLast?, r.isComplete = true) := by
  obtain ⟨ha₁, ha₂⟩ := Along.append.mp ha
  obtain ⟨hsteady, ha₃⟩ := ha₂ s h₁
  have hs : Tracks s [] 0 := Along.invariant (I := fun s => Tracks s [] 0)
    (fun _ _ _ h ho hs => h.step ho hs) (Tracks.init _ _ _) ha₁ h₁
  have hs₂ : Tracks s₂ [] 0 := Along.invariant (I := fun s => Tracks s [] 0)
    (fun _ _ _ h ho hs => h.step ho hs) (hs.step hsteady he) (ha₃ s₁ he) h₂
  have hnew : ∃ more, s₁.reads = s.reads ++ more ∧
      (more = [] ∨ EndsMarked (LeavesOpen (s.reported fwRxCntr rxPktsDesc) a)
        (more.map Read.txn)) := by
    rw [step, rxEvent] at he
    split at he
    · cases he
      exact ⟨[], (List.append_nil _).symm, Or.inl rfl⟩
    next hcntr =>
      have hreported : Tracks (s.reported fwRxCntr rxPktsDesc) [] 0 :=
        hs.congr rfl rfl rfl rfl rfl rfl rfl
      exact hreported.handle_adds (hsteady hcntr) hp he
  obtain ⟨more, hmore, hends⟩ := hnew
  obtain ⟨htxn, l, m, hreads⟩ := eventReads_txn hmore (exec_extends h₂)
  constructor
  · refine ⟨forwarded l, forwarded m, ?_⟩
    rw [hs₂.log.handed, hreads, List.filter_append, List.filter_append, List.flatMap_append,
      List.flatMap_append]
    rfl
  · rcases hends with rfl | hends
    · have hnil : eventReads s s₁ s₂ = [] := List.map_eq_nil_iff.mp htxn
      rw [hnil]
      exact iff_of_false (not_lastMarked (by simp [forwarded])) (by simp)
    · rw [← htxn] at hends
      exact hends.lastMarked_iff

/-- Both reads of three packets complete later. -/
def bothDone : List Op :=
  [.txnDone ⟨fun _ => .complete, fun _ => .pending⟩, .txnDone ⟨fun _ => .complete, fun _ => .pending⟩]

/-- Two packets fill a transaction, the third is left in hand: it carries the mark. -/
theorem burst_marked_threePackets : ∃ s₁ s₂,
    step (init 0 4096 2) (event 3 .complete .pending) = some s₁ ∧ exec step s₁ bothDone = some s₂ ∧
      (forwarded (eventReads (init 0 4096 2) s₁ s₂)).length = 3 ∧
      LastMarked (forwarded (eventReads (init 0 4096 2) s₁ s₂)) := by
  have hrun : ((step (init 0 4096 2) (event 3 .complete .pending)).bind fun s₁ =>
      (exec step s₁ bothDone).map fun s₂ =>
        ((forwarded (eventReads (init 0 4096 2) s₁ s₂)).length,
          (eventReads (init 0 4096 2) s₁ s₂).getLast?.map Read.isComplete)) =
        some (3, some true) := by
    decide +kernel
  obtain ⟨s₁, h₁, hrest⟩ := Option.bind_eq_some_iff.mp hrun
  obtain ⟨s₂, h₂, hfields⟩ := Option.map_eq_some_iff.mp hrest
  obtain ⟨hlen, hlast⟩ := Prod.mk.inj hfields
  obtain ⟨r, hr, hc⟩ := Option.map_eq_some_iff.mp hlast
  refine ⟨s₁, s₂, h₁, h₂, hlen, ?_⟩
  have ha : Along step Steady (init 0 4096 2) ([] ++ event 3 .complete .pending :: bothDone) := by
    decide +kernel
  refine (burst_marked 0 4096 2 ha ?_ rfl h₁ h₂).2.mpr ⟨?_, r, hr, hc⟩
  · intro k hk
    cases hk
  · rw [LeavesOpen]
    decide +kernel

/-- The packets of the event fill the last transaction: none of them carries the mark. -/
theorem fullTransaction_unmarked : ∃ s,
    exec step (init 0 4096 4) [event 4 .complete .complete] = some s ∧ s.handed.length = 4 ∧
      ¬ LastMarked s.handed := by
  have hrun : (exec step (init 0 4096 4) [event 4 .complete .complete]).map
      (fun s => s.handed.map Handed.endOfBurst) = some [false, false, false, false] := by
    decide +kernel
  obtain ⟨s, hs, hmarks⟩ := Option.map_eq_some_iff.mp hrun
  refine ⟨s, hs, by simpa using congrArg List.length hmarks, not_lastMarked fun x hx => ?_⟩
  have hmem := List.mem_map_of_mem (f := Handed.endOfBurst) hx
  rw [hmarks] at hmem
  simpa using hmem

end Sys

end ArchosGpl.Wlan.RxXfer
