import Mathlib.Data.List.Forall2
import ArchosGpl.Wlan.RxXfer.Passes

/-!
# The packets that a call of the handler reads

The firmware counts the packets it reports in 8 bits, and the handler tells eight of them apart.

* **The condition** (`handlesRight_iff`): a call of the handler returns, reads each newly reported
  packet once and in order, with no read without buffers, exactly when each packet it comes to fits
  into the maximal length, each it takes has a length, and fewer than eight packets are reported.
  The packets from the one on whose buffer is put off stay reported, as do all when no structure is
  free.
* **Otherwise** (`long_packet_never_read`): on a packet beyond the maximal length the handler never
  returns, and for a packet of length 0 it issues a read without buffers.

`Serves` is what a part of a call adds to the reads; `handleLoop_serves` is the induction, with
`servePacket_serves` for a pass.
-/

namespace ArchosGpl.Wlan.RxXfer

open Lib

def slvMemCpValue (desc offset : ℕ) : ℕ := rxDescGetMemBlk desc * 2 ^ 8 + offset

namespace Read

/-- The lengths of the buffers of a read: a length 0 ends them. -/
def lengths (r : Read) : List ℕ := (r.txn.aBuf.takeWhile fun b => b.2 ≠ 0).map Prod.snd

/-- The read fetches these packets, from the memory block of the first one on. -/
structure Fetches (offset : ℕ) (r : Read) (descs : List ℕ) : Prop where
  nonempty : descs ≠ []
  lengths : r.lengths = descs.map buffSize
  start : ∀ d ∈ descs.head?, r.uRegData = slvMemCpValue d offset

/-- The read is issued for these packets, whatever their lengths. -/
structure IssuedFor (offset : ℕ) (r : Read) (descs : List ℕ) : Prop where
  nonempty : descs ≠ []
  sizes : r.txn.aBuf.map Prod.snd = descs.map buffSize
  start : ∀ d ∈ descs.head?, r.uRegData = slvMemCpValue d offset

variable {offset : ℕ} {r : Read} {descs : List ℕ}

theorem Fetches.length_ne_zero (h : r.Fetches offset descs) : ∀ d ∈ descs, buffSize d ≠ 0 := by
  intro d hd
  have hmem : buffSize d ∈ r.lengths := by
    rw [h.lengths]
    exact List.mem_map_of_mem hd
  obtain ⟨b, hb, heq⟩ := List.mem_map.mp hmem
  rw [← heq]
  simpa using List.mem_takeWhile_imp hb

theorem IssuedFor.fetches (h : r.IssuedFor offset descs) (hd : ∀ d ∈ descs, buffSize d ≠ 0) :
    r.Fetches offset descs where
  nonempty := h.nonempty
  lengths := by
    have hall : r.txn.aBuf.takeWhile (fun b => b.2 ≠ 0) = r.txn.aBuf := by
      refine List.takeWhile_eq_self_iff.mpr fun b hb => ?_
      have hmem : b.2 ∈ descs.map buffSize := by
        rw [← h.sizes]
        exact List.mem_map_of_mem hb
      obtain ⟨d, hdm, heq⟩ := List.mem_map.mp hmem
      simpa [← heq] using hd d hdm
    rw [Read.lengths, hall, h.sizes]
  start := h.start

end Read

namespace Sys

/-! ## What the handler has to do -/

/-- How many packets the firmware reported that the driver has not processed. -/
def newPkts (s : Sys) : ℕ := (s.obj.uFwRxCntr + 2 ^ 8 - s.obj.uDrvRxCntr % 2 ^ 8) % 2 ^ 8

/-- The short descriptor of a packet ahead. -/
def descAt (s : Sys) (k : ℕ) : ℕ := s.obj.aRxPktsDesc (Fin.ofNat _ (s.obj.uDrvRxCntr + k))

/-- The short descriptors of the packets reported and not processed. -/
def newDescs (s : Sys) : List ℕ := (List.range s.newPkts).map s.descAt

/-- `rxXfer_Handle` returns, with the module in that state. -/
def HandleReturns (s : Sys) (a : Answers) (s' : Sys) : Prop :=
  if s.obj.uAvailableTxn = 0 then s' = s else Returns (Vars.pass a) ⟨s, .start, none⟩ s'

/-- The handler returns; the packets that it handled are fetched, each once and in order, into
buffers; and the others stay reported, of which there are some only if no structure is free or the
buffer of the next one is put off. -/
def HandlesRight (s : Sys) (a : Answers) : Prop :=
  ∃ s' reads groups, s.HandleReturns a s' ∧ s'.reads = s.reads ++ reads ∧
    List.Forall₂ (Read.Fetches s.obj.uPacketMemoryPoolStart) reads groups ∧
    s.newDescs = groups.flatten ++ s'.newDescs ∧
    (s'.newDescs ≠ [] → s.obj.uAvailableTxn = 0 ∨
      (s'.unprocessed ≠ 0 ∧ a.alloc groups.flatten.length = .pending))

/-- No buffer before the one of this packet is put off. -/
def Asked (a : Answers) (k : ℕ) : Prop := ∀ i < k, a.alloc i ≠ .pending

/-- The packets that the handler comes to can be read, and told apart. -/
structure Manageable (s : Sys) (a : Answers) : Prop where
  fits : ∀ k < s.newPkts, Asked a k → buffSize (s.descAt k) ≤ s.obj.uMaxAggregLen
  sized : ∀ k < s.newPkts, Asked a (k + 1) → buffSize (s.descAt k) ≠ 0
  counted : s.newPkts < numRxPktDesc ∨ ∃ k < s.newPkts % numRxPktDesc, a.alloc k = .pending

variable {s s' t : Sys} {l l' : Locals} {a : Answers} {n : ℕ} {g g' : List ℕ}

theorem handleReturns_iff (s : Sys) (a : Answers) (s' : Sys) :
    s.HandleReturns a s' ↔ s.handle a = some s' := by
  rw [HandleReturns]
  split
  next hs => rw [handle, if_pos hs, Option.some_inj, eq_comm]
  next hs => exact (handle_iff hs).symm

/-! ## What a part of a call reads -/

/-- The reads issued from one state to the next are for these packets, in order. -/
def Serves (offset : ℕ) (s t : Sys) (descs : List ℕ) : Prop :=
  ∃ reads groups, t.reads = s.reads ++ reads ∧
    List.Forall₂ (Read.IssuedFor offset) reads groups ∧ groups.flatten = descs

variable {offset : ℕ}

theorem Serves.of_reads (h : t.reads = s.reads) : Serves offset s t [] :=
  ⟨[], [], by rw [h, List.append_nil], .nil, rfl⟩

theorem Serves.trans (h : Serves offset s t g) (h' : Serves offset t s' g') :
    Serves offset s s' (g ++ g') := by
  obtain ⟨r, gs, hr, hg, rfl⟩ := h
  obtain ⟨r', gs', hr', hg', rfl⟩ := h'
  exact ⟨r ++ r', gs ++ gs', by rw [hr', hr, List.append_assoc], List.rel_append hg hg',
    List.flatten_append⟩

/-- The packets in hand. -/
structure Held (s : Sys) (l : Locals) (descs : List ℕ) : Prop where
  sizes : l.group.map Prod.snd = descs.map buffSize
  start : ∀ d ∈ descs.head?, l.uFirstMemBlkAddr = slvMemCpValue d s.obj.uPacketMemoryPoolStart
  empty : l.group = [] → l.uTotalAggregLen = 0

theorem Held.nil_iff (h : Held s l g) : l.group = [] ↔ g = [] := by
  rw [← List.map_eq_nil_iff (f := Prod.snd), h.sizes, List.map_eq_nil_iff]

theorem Held.none (hgroup : l.group = []) (hlen : l.uTotalAggregLen = 0) : Held s l [] :=
  ⟨by rw [hgroup]; rfl, nofun, fun _ => hlen⟩

theorem Held.issueGroup (h : Held s l g) (hne : l.group ≠ []) (bExit : Bool) (st : ETxnStatus) :
    Serves s.obj.uPacketMemoryPoolStart s (s.issueGroup l bExit st) g :=
  ⟨_, [g], issueGroup_reads s l bExit st,
    .cons ⟨fun hnil => hne (h.nil_iff.mpr hnil), h.sizes, h.start⟩ .nil, List.flatten_singleton⟩

theorem Held.issueRest (h : Held s l g) (bExit : Bool) (a : Answers) :
    Serves s.obj.uPacketMemoryPoolStart s (s.issueRest l bExit a) g := by
  rw [Sys.issueRest]
  split
  next hnil =>
    rw [h.nil_iff.mp hnil]
    exact .of_reads rfl
  next hne => exact h.issueGroup hne bExit _

theorem Held.addPacket (h : Held s l g) (desc : ℕ) :
    Held (s.addPacket l desc).1 (s.addPacket l desc).2 (g ++ [desc]) where
  sizes := by
    rw [List.map_append, ← h.sizes]
    exact List.map_append
  start := by
    intro d hd
    by_cases hnil : g = []
    · rw [hnil] at hd
      cases hd
      exact if_pos (h.nil_iff.mpr hnil)
    · rw [List.head?_append_of_ne_nil _ hnil] at hd
      exact (if_neg fun hgroup => hnil (h.nil_iff.mp hgroup)).trans (h.start d hd)
  empty hnil := absurd hnil (List.append_ne_nil_of_right_ne_nil _ (List.cons_ne_nil _ _))

theorem dropPacket_serves (s : Sys) (desc : ℕ) (st : ETxnStatus) :
    Serves s.obj.uPacketMemoryPoolStart s (s.dropPacket desc st) [desc] := by
  refine ⟨_, [[desc]], rfl, .cons ⟨List.cons_ne_nil _ _, rfl, fun d hd => ?_⟩ .nil, rfl⟩
  cases hd
  rfl

/-- **A pass that serves a packet** issues what was in hand before it, or keeps it. -/
theorem servePacket_serves (h : Held s l g) (desc : ℕ) :
    match s.servePacket l a desc with
    | .error t => Serves s.obj.uPacketMemoryPoolStart s t g
    | .ok (t, l') => ∃ issued kept, issued ++ kept = g ++ [desc] ∧
        Serves s.obj.uPacketMemoryPoolStart s t issued ∧ Held t l' kept := by
  rw [servePacket]
  cases a.alloc l.requests with
  | complete =>
    have hadd := h.addPacket desc
    dsimp only
    split
    · have hne : (s.addPacket l desc).2.group ≠ [] :=
        List.append_ne_nil_of_right_ne_nil _ (List.cons_ne_nil _ _)
      have hserves := hadd.issueGroup hne false (a.bus (s.addPacket l desc).2.reads)
      exact ⟨_, [], List.append_nil _, hserves, Held.none rfl rfl⟩
    · exact ⟨[], _, List.nil_append _, .of_reads rfl, hadd⟩
  | pending =>
    have hpend : Held { s with obj := { s.obj with bPendingBuffer := true } } l g :=
      ⟨h.sizes, h.start, h.empty⟩
    exact hpend.issueRest true a
  | outOfMem =>
    have hdrop := dropPacket_serves (s.issueRest l false a) desc (a.bus (readsAfter l))
    rw [(issueRest_report s l false a).pool] at hdrop
    exact ⟨_, [], List.append_nil _, (h.issueRest false a).trans hdrop, Held.none rfl rfl⟩

/-! ## A call -/

theorem descAt_next (h : SameReport s t) (hdrv : t.obj.uDrvRxCntr = add32 s.obj.uDrvRxCntr 1)
    (k : ℕ) : t.descAt k = s.descAt (k + 1) := by
  rw [descAt, h.desc, hdrv, drv_next, descAt]

theorem descs_succ (h : SameReport s t) (hdrv : t.obj.uDrvRxCntr = add32 s.obj.uDrvRxCntr 1)
    (m : ℕ) : (List.range (m + 1)).map s.descAt = s.nextDesc :: (List.range m).map t.descAt := by
  rw [List.range_succ_eq_map, List.map_cons, List.map_map]
  congr 1
  exact List.map_congr_left fun k _ => (descAt_next h hdrv k).symm

theorem asked_succ (a : Answers) (q m : ℕ) : (∀ i < m + 1, a.alloc (q + i) ≠ .pending) ↔
    a.alloc q ≠ .pending ∧ ∀ i < m, a.alloc (q + 1 + i) ≠ .pending := by
  constructor
  · intro h
    refine ⟨h 0 (Nat.succ_pos m), fun i hi => ?_⟩
    rw [Nat.add_right_comm]
    exact h (i + 1) (Nat.succ_lt_succ hi)
  · rintro ⟨h0, h⟩ (_ | i) hi
    · exact h0
    · have := h i (Nat.lt_of_succ_lt_succ hi)
      rwa [Nat.add_right_comm] at this

/-- What a call served of the packets ahead: all, or those before one whose buffer is put off. -/
structure Served (s : Sys) (a : Answers) (requests n m : ℕ) (s' : Sys) : Prop where
  report : SameReport s s'
  counter : s'.obj.uDrvRxCntr % 2 ^ 8 = (s.obj.uDrvRxCntr + m) % 2 ^ 8
  asked : ∀ i < m, a.alloc (requests + i) ≠ .pending
  stop : m = n ∨ m < n ∧ a.alloc (requests + m) = .pending

variable {m q : ℕ}

theorem Served.next (hreport : SameReport s t)
    (hdrv : t.obj.uDrvRxCntr = add32 s.obj.uDrvRxCntr 1) (hq : a.alloc q ≠ .pending)
    (h : Served t a (q + 1) n m s') : Served s a q (n + 1) (m + 1) s' where
  report := hreport.trans h.report
  counter := by
    rw [h.counter, hdrv, add32]
    omega
  asked := (asked_succ a q m).mpr ⟨hq, h.asked⟩
  stop := by
    rcases h.stop with hm | ⟨hm, hp⟩
    · exact Or.inl (congrArg _ hm)
    · rw [Nat.add_right_comm] at hp
      exact Or.inr ⟨Nat.succ_lt_succ hm, hp⟩

theorem Served.congr (hreport : SameReport s t)
    (hdrv : t.obj.uDrvRxCntr = s.obj.uDrvRxCntr) (h : Served t a q n m s') :
    Served s a q n m s' where
  report := hreport.trans h.report
  counter := by rw [h.counter, hdrv]
  asked := h.asked
  stop := h.stop

/-- A call of which the part before a packet is done. -/
def ServesFrom (s : Sys) (l : Locals) (descs : List ℕ) (a : Answers) (n : ℕ) (s' : Sys) : Prop :=
  ∃ m, Served s a l.requests n m s' ∧
    Serves s.obj.uPacketMemoryPoolStart s s' (descs ++ (List.range m).map s.descAt)

theorem ServesFrom.stop (h : SameReport s t) (hdrv : t.obj.uDrvRxCntr = s.obj.uDrvRxCntr)
    (hserves : Serves s.obj.uPacketMemoryPoolStart s t g)
    (hstop : n = 0 ∨ a.alloc l.requests = .pending) : ServesFrom s l g a n t := by
  refine ⟨0, ⟨h, by rw [hdrv, Nat.add_zero], nofun, ?_⟩, ?_⟩
  · rcases Nat.eq_zero_or_pos n with rfl | hn
    · exact Or.inl rfl
    · exact Or.inr ⟨hn, hstop.resolve_left hn.ne'⟩
  · rw [List.range_zero, List.map_nil, List.append_nil]
    exact hserves

theorem servesFrom_fits (ih : ∀ {s : Sys} {l : Locals} {g : List ℕ}, Held s l g →
      handleLoop a n s l = some s' → ServesFrom s l g a n s') (h : Held s l g)
    (hfits : ¬ l.uTotalAggregLen + buffSize s.nextDesc > s.obj.uMaxAggregLen)
    (he : handleLoop a (n + 1) s l = some s') : ServesFrom s l g a (n + 1) s' := by
  have hserves := servePacket_serves (a := a) h s.nextDesc
  have hreport := servePacket_report s l a s.nextDesc
  rw [handleLoop_fits a n s l hfits] at he
  revert he hserves hreport
  cases s.servePacket l a s.nextDesc with
  | error t =>
    rintro he hserves ⟨hpend, hreport, hdrv⟩
    cases he
    exact .stop hreport hdrv hserves (Or.inr hpend)
  | ok q =>
    obtain ⟨t, l'⟩ := q
    rintro he ⟨issued, kept, hsplit, hissued, hkept⟩ ⟨hasked, hreport, hdrv, hreq⟩
    obtain ⟨m, hserved, hrest⟩ := ih hkept he
    rw [hreq] at hserved
    rw [hreport.pool] at hrest
    refine ⟨m + 1, hserved.next hreport hdrv hasked, ?_⟩
    have hdescs : g ++ (List.range (m + 1)).map s.descAt =
        issued ++ (kept ++ (List.range m).map t.descAt) := by
      rw [descs_succ hreport hdrv, ← List.append_assoc issued, hsplit, List.append_assoc]
      rfl
    rw [hdescs]
    exact hissued.trans hrest

theorem handleLoop_serves (h : Held s l g) (he : handleLoop a n s l = some s') :
    ServesFrom s l g a n s' := by
  induction n generalizing s l g with
  | zero =>
    rw [handleLoop] at he
    cases he
    exact .stop (issueRest_report s l true a) (issueRest_table s l true a).2 (h.issueRest true a)
      (Or.inl rfl)
  | succ n ih =>
    by_cases hfull : l.uTotalAggregLen + buffSize s.nextDesc > s.obj.uMaxAggregLen
    · -- the packets in hand are issued first
      rw [handleLoop_full a n s l hfull] at he
      have hfits : ¬ l.issued.uTotalAggregLen + buffSize (s.issueRest l false a).nextDesc >
          (s.issueRest l false a).obj.uMaxAggregLen := by
        intro hstuck
        rw [Locals.issued, Nat.zero_add] at hstuck
        rw [handleLoop_stuck a n _ l.issued rfl hstuck] at he
        cases he
      have hreport := issueRest_report s l false a
      have hdrv := (issueRest_table s l false a).2
      obtain ⟨m, hserved, hrest⟩ := servesFrom_fits ih (Held.none rfl rfl) hfits he
      have hdesc : (s.issueRest l false a).descAt = s.descAt := by
        funext k
        rw [descAt, hreport.desc, hdrv, descAt]
      rw [hdesc, List.nil_append, hreport.pool] at hrest
      exact ⟨m, hserved.congr hreport hdrv, (h.issueRest false a).trans hrest⟩
    · exact servesFrom_fits ih h hfull he

/-- The packets that the handler comes to fit into the maximal length. -/
def Fit (s : Sys) (a : Answers) (requests n : ℕ) : Prop :=
  ∀ k < n, (∀ i < k, a.alloc (requests + i) ≠ .pending) →
    buffSize (s.descAt k) ≤ s.obj.uMaxAggregLen

theorem fit_succ (h : SameReport s t) (hdrv : t.obj.uDrvRxCntr = add32 s.obj.uDrvRxCntr 1)
    (hq : a.alloc q ≠ .pending) :
    Fit s a q (n + 1) ↔ buffSize s.nextDesc ≤ s.obj.uMaxAggregLen ∧ Fit t a (q + 1) n := by
  constructor
  · intro hfit
    refine ⟨hfit 0 (Nat.succ_pos n) nofun, fun k hk hasked => ?_⟩
    rw [descAt_next h hdrv, h.len]
    exact hfit (k + 1) (Nat.succ_lt_succ hk) ((asked_succ a q k).mpr ⟨hq, hasked⟩)
  · rintro ⟨hfirst, hrest⟩ (_ | k) hk hasked
    · exact hfirst
    · have := hrest k (Nat.lt_of_succ_lt_succ hk) ((asked_succ a q k).mp hasked).2
      rwa [descAt_next h hdrv, h.len] at this

theorem fit_congr (h : SameReport s t) (hdrv : t.obj.uDrvRxCntr = s.obj.uDrvRxCntr) (q : ℕ) :
    Fit t a q n ↔ Fit s a q n := by
  have hdesc : t.descAt = s.descAt := by
    funext k
    rw [descAt, h.desc, hdrv, descAt]
  rw [Fit, Fit, hdesc, h.len]

theorem returns_fits (ih : ∀ {s : Sys} {l : Locals} {g : List ℕ}, Held s l g →
      ((∃ s', handleLoop a n s l = some s') ↔ Fit s a l.requests n)) (h : Held s l g)
    (hfits : ¬ l.uTotalAggregLen + buffSize s.nextDesc > s.obj.uMaxAggregLen) :
    (∃ s', handleLoop a (n + 1) s l = some s') ↔ Fit s a l.requests (n + 1) := by
  have hserves := servePacket_serves (a := a) h s.nextDesc
  have hreport := servePacket_report s l a s.nextDesc
  have hfirst : buffSize s.nextDesc ≤ s.obj.uMaxAggregLen := by omega
  rw [handleLoop_fits a n s l hfits]
  revert hserves hreport
  cases s.servePacket l a s.nextDesc with
  | error t =>
    rintro - ⟨hpend, -, -⟩
    refine iff_of_true ⟨t, rfl⟩ ?_
    rintro (_ | k) hk hasked
    · exact hfirst
    · exact absurd hpend (hasked 0 (Nat.succ_pos k))
  | ok q =>
    obtain ⟨t, l'⟩ := q
    rintro ⟨-, kept, -, -, hkept⟩ ⟨hasked, hreport, hdrv, hreq⟩
    rw [fit_succ hreport hdrv hasked, ← hreq]
    exact (ih hkept).trans (and_iff_right hfirst).symm

theorem handleLoop_returns (h : Held s l g) :
    (∃ s', handleLoop a n s l = some s') ↔ Fit s a l.requests n := by
  induction n generalizing s l g with
  | zero => exact iff_of_true ⟨_, rfl⟩ nofun
  | succ n ih =>
    by_cases hfull : l.uTotalAggregLen + buffSize s.nextDesc > s.obj.uMaxAggregLen
    · rw [handleLoop_full a n s l hfull,
        ← fit_congr (issueRest_report s l false a) (issueRest_table s l false a).2]
      by_cases hagain : buffSize (s.issueRest l false a).nextDesc >
          (s.issueRest l false a).obj.uMaxAggregLen
      · rw [handleLoop_stuck a n _ l.issued rfl hagain]
        exact iff_of_false (fun ⟨_, he⟩ => nomatch he)
          fun hfit => absurd (hfit 0 (Nat.succ_pos n) nofun) (Nat.not_le.mpr hagain)
      · refine returns_fits ih (Held.none rfl rfl) ?_
        rw [Locals.issued, Nat.zero_add]
        exact hagain
    · exact returns_fits ih h hfull

/-! ## The packets reported -/

theorem unprocessed_eq (s : Sys) : s.unprocessed = s.newPkts % numRxPktDesc := by
  rw [unprocessed, newPkts, numRxPktDesc]
  omega

theorem Served.rest (h : Served s a q s.unprocessed m s') :
    s'.newPkts = s.newPkts - m ∧ s'.unprocessed = s.unprocessed - m ∧
      s.newDescs = (List.range m).map s.descAt ++ s'.newDescs := by
  have hle : m ≤ s.unprocessed := by
    rcases h.stop with hm | ⟨hm, -⟩ <;> exact hm.le
  have hcounter := h.counter
  have hpkts : s'.newPkts = s.newPkts - m := by
    rw [unprocessed_eq, newPkts, numRxPktDesc] at hle
    rw [newPkts, newPkts, h.report.fw]
    omega
  refine ⟨hpkts, ?_, ?_⟩
  · rw [unprocessed_eq, unprocessed_eq, hpkts, numRxPktDesc]
    rw [unprocessed_eq, numRxPktDesc] at hle
    omega
  · have hsum : s.newPkts = m + (s.newPkts - m) := by
      rw [unprocessed_eq, numRxPktDesc] at hle
      omega
    have hdesc : ∀ k, s'.descAt k = s.descAt (m + k) := by
      intro k
      rw [descAt, descAt, h.report.desc]
      congr 1
      apply Fin.ext
      simp only [Fin.val_ofNat, numRxPktDesc]
      omega
    rw [newDescs, newDescs, hpkts, hsum, List.range_add, List.map_append, List.map_map,
      ← hsum]
    congr 1
    exact List.map_congr_left fun k _ => (hdesc k).symm

theorem held_start (s : Sys) : Held s .start [] := Held.none rfl rfl

/-- **A call serves** the packets before the first whose buffer is put off, if those it comes to
fit. -/
theorem handle_serves (hs : s.obj.uAvailableTxn ≠ 0) (he : s.handle a = some s') :
    ∃ m, Served s a 0 s.unprocessed m s' ∧
      Serves s.obj.uPacketMemoryPoolStart s s' ((List.range m).map s.descAt) := by
  rw [handle, if_neg hs] at he
  exact handleLoop_serves (held_start s) he

theorem fetches_of_issued {reads : List Read} {groups : List (List ℕ)}
    (h : List.Forall₂ (Read.IssuedFor offset) reads groups)
    (hd : ∀ d ∈ groups.flatten, buffSize d ≠ 0) :
    List.Forall₂ (Read.Fetches offset) reads groups := by
  induction h with
  | nil => exact .nil
  | cons hr _ ih =>
    rw [List.flatten_cons] at hd
    exact .cons (hr.fetches fun d hm => hd d (List.mem_append_left _ hm))
      (ih fun d hm => hd d (List.mem_append_right _ hm))

theorem length_ne_zero_of_fetches {reads : List Read} {groups : List (List ℕ)}
    (h : List.Forall₂ (Read.Fetches offset) reads groups) :
    ∀ d ∈ groups.flatten, buffSize d ≠ 0 := by
  induction h with
  | nil => exact nofun
  | cons hr _ ih =>
    intro d hd
    rw [List.flatten_cons] at hd
    rcases List.mem_append.mp hd with hd | hd
    · exact hr.length_ne_zero d hd
    · exact ih d hd

theorem fit_iff (s : Sys) (a : Answers) (n : ℕ) : Fit s a 0 n ↔
    ∀ k < n, Asked a k → buffSize (s.descAt k) ≤ s.obj.uMaxAggregLen := by
  simp only [Fit, Asked, Nat.zero_add]

theorem Served.lt_iff {k : ℕ} (h : Served s a 0 n m s') (hk : k < n) : k < m ↔ Asked a (k + 1) := by
  have hasked : Asked a m := fun i hi => by simpa using h.asked i hi
  constructor
  · exact fun hm i hi => hasked i (by omega)
  · intro hk'
    rcases h.stop with rfl | ⟨-, hp⟩
    · exact hk
    · rw [Nat.zero_add] at hp
      exact Nat.not_le.mp fun hle => hk' m (Nat.lt_succ_of_le hle) hp

theorem lt_unprocessed {k : ℕ} (hcounted : s.newPkts < numRxPktDesc ∨
      ∃ k < s.newPkts % numRxPktDesc, a.alloc k = .pending) (hk : k < s.newPkts)
    (hasked : Asked a k) : k < s.unprocessed := by
  rw [unprocessed_eq]
  rcases hcounted with hlt | ⟨j, hj, hp⟩
  · rw [Nat.mod_eq_of_lt hlt]
    exact hk
  · exact (Nat.not_lt.mp fun hlt => hasked j hlt hp).trans_lt hj

theorem unprocessed_le (s : Sys) : s.unprocessed ≤ s.newPkts := by
  rw [unprocessed_eq]
  exact Nat.mod_le _ _

theorem newDescs_eq_nil (s : Sys) : s.newDescs = [] ↔ s.newPkts = 0 := by
  rw [newDescs, List.map_eq_nil_iff, List.range_eq_nil]

theorem Served.counted_iff (h : Served s a 0 s.unprocessed m s') :
    (s'.newDescs ≠ [] → s'.unprocessed ≠ 0 ∧ a.alloc m = .pending) ↔
      (s.newPkts < numRxPktDesc ∨ ∃ k < s.newPkts % numRxPktDesc, a.alloc k = .pending) := by
  obtain ⟨hpkts, hleft, -⟩ := h.rest
  rw [Ne, newDescs_eq_nil, hpkts, hleft, ← unprocessed_eq]
  rcases h.stop with rfl | ⟨hm, hp⟩
  · constructor
    · intro hstop
      refine Or.inl (Nat.not_le.mp fun hle => (hstop ?_).1 (Nat.sub_self _))
      rw [unprocessed_eq, numRxPktDesc] at *
      omega
    · rintro (hlt | ⟨k, hk, hp⟩) hne
      · refine absurd ?_ hne
        rw [unprocessed_eq, Nat.mod_eq_of_lt hlt, Nat.sub_self]
      · exact absurd hp (by simpa using h.asked k hk)
  · rw [Nat.zero_add] at hp
    exact iff_of_true (fun _ => ⟨by omega, hp⟩) (Or.inr ⟨m, hm, hp⟩)

theorem HandleReturns.fits (h : s.HandleReturns a s') (hs : s.obj.uAvailableTxn ≠ 0) :
    ∀ k < s.unprocessed, Asked a k → buffSize (s.descAt k) ≤ s.obj.uMaxAggregLen := by
  rw [handleReturns_iff, handle, if_neg hs] at h
  exact (fit_iff s a _).mp ((handleLoop_returns (held_start s)).mp ⟨s', h⟩)

theorem HandlesRight.manageable (hs : s.obj.uAvailableTxn ≠ 0) (h : s.HandlesRight a) :
    s.Manageable a := by
  obtain ⟨s', reads, groups, hret, -, hfetch, hsplit, hstop⟩ := h
  have he := (handleReturns_iff s a s').mp hret
  obtain ⟨m, hserved, -⟩ := handle_serves hs he
  have hflat : groups.flatten = (List.range m).map s.descAt :=
    List.append_cancel_right (hsplit.symm.trans hserved.rest.2.2)
  rw [hflat, List.length_map, List.length_range] at hstop
  have hcounted := hserved.counted_iff.mp fun hne => (hstop hne).resolve_left hs
  constructor
  case fits => exact fun k hk hasked => hret.fits hs k (lt_unprocessed hcounted hk hasked) hasked
  case sized =>
    intro k hk hasked
    have hlt := lt_unprocessed hcounted hk fun i hi => hasked i (by omega)
    refine length_ne_zero_of_fetches hfetch _ ?_
    rw [hflat]
    exact List.mem_map_of_mem (List.mem_range.mpr ((hserved.lt_iff hlt).mpr hasked))
  case counted => exact hcounted

theorem Manageable.handlesRight (hs : s.obj.uAvailableTxn ≠ 0) (h : s.Manageable a) :
    s.HandlesRight a := by
  have hfit : Fit s a 0 s.unprocessed :=
    (fit_iff s a _).mpr fun k hk => h.fits k (hk.trans_le (unprocessed_le s))
  obtain ⟨s', he⟩ := (handleLoop_returns (held_start s)).mpr hfit
  have he' : s.handle a = some s' := by rw [handle, if_neg hs, he]
  obtain ⟨m, hserved, reads, groups, hreads, hissued, hflat⟩ := handle_serves hs he'
  have hm : m ≤ s.unprocessed := hserved.stop.elim Eq.le fun hm => hm.1.le
  refine ⟨s', reads, groups, (handleReturns_iff s a s').mpr he', hreads, ?_, ?_, ?_⟩
  · refine fetches_of_issued hissued fun d hd => ?_
    rw [hflat] at hd
    obtain ⟨k, hk, rfl⟩ := List.mem_map.mp hd
    have hlt := (List.mem_range.mp hk).trans_le hm
    have hasked := (hserved.lt_iff hlt).mp (List.mem_range.mp hk)
    exact h.sized k (hlt.trans_le (unprocessed_le s)) hasked
  · rw [hflat]
    exact hserved.rest.2.2
  · rw [hflat, List.length_map, List.length_range]
    exact fun hne => Or.inr (hserved.counted_iff.mpr h.counted hne)

/-- **The condition** for a call of the handler to read each reported packet once. -/
theorem handlesRight_iff (s : Sys) (a : Answers) :
    s.HandlesRight a ↔ s.obj.uAvailableTxn = 0 ∨ s.Manageable a := by
  by_cases hs : s.obj.uAvailableTxn = 0
  · refine iff_of_true ⟨s, [], [], ?_, (List.append_nil _).symm, .nil, rfl, fun _ => Or.inl hs⟩
      (Or.inl hs)
    rw [HandleReturns, if_pos hs]
  · rw [or_iff_right hs]
    exact ⟨fun h => h.manageable hs, fun h => h.handlesRight hs⟩

/-- The module as the firmware reports packets of these lengths in words, with reads of at most 4096
bytes and four packets. -/
def firstReport (lengths : List ℕ) : Sys :=
  (init 0 4096 4).reported (UInt8.ofNat lengths.length) fun i => lengths.getD i 0 * 2 ^ 8

/-- Each buffer is given, and each read is pending. -/
def granted : Answers := ⟨fun _ => .complete, fun _ => .pending⟩

/-- **A packet of 1025 words is never read**: alone it takes the handler to a write through `NULL`,
and behind another packet the handler does not return. For a packet of length 0 a read is issued
without a buffer. -/
theorem long_packet_never_read :
    (Vars.pass granted ⟨firstReport [1025], .start, none⟩ = .fault) ∧
      (¬ ∃ s', (firstReport [16, 1025]).HandleReturns granted s') ∧
      ¬ (firstReport [1025]).HandlesRight granted ∧ ¬ (firstReport [0]).HandlesRight granted := by
  refine ⟨by rfl, ?_, ?_, ?_⟩
  · rintro ⟨s', hret⟩
    exact absurd (hret.fits (by decide) 1 (by decide) fun _ _ => nofun) (by decide)
  · intro h
    exact absurd ((h.manageable (by decide)).fits 0 (by decide) nofun) (by decide)
  · intro h
    exact absurd rfl ((h.manageable (by decide)).sized 0 (by decide) fun _ _ => nofun)

end Sys

end ArchosGpl.Wlan.RxXfer
