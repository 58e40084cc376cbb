import Mathlib.Data.List.TakeWhile
import ArchosGpl.Wlan.RxXfer.Model

/-!
# The buffers of the reads

What a transaction structure holds (`TTxnStruct.ids`), what is handed over when its read completes
(`Read.packets`), and the reads issued so far (`Logged`): **what was handed over as packets is what
the completed reads carry, in the order of their issue**, and the reads in flight are the pending
ones, on structures that no one touched since.
-/

namespace ArchosGpl.Wlan.RxXfer

open Lib

/-! ## The buffers of a structure -/

namespace TTxnStruct

variable {t : TTxnStruct}

/-- The buffers that a structure names, `aTempBuffer` apart. -/
def ids (t : TTxnStruct) : List ℕ := t.aBuf.filterMap Prod.fst

/-- Its buffers are buffers of packets, and no length is 0. -/
def Packets (t : TTxnStruct) : Prop := t.aBuf ≠ [] ∧ ∀ b ∈ t.aBuf, b.1.isSome = true ∧ b.2 ≠ 0

/-- A structure that is in no read: it names no buffer and has no mark. -/
structure Free (t : TTxnStruct) : Prop where
  ids : t.ids = []
  unmarked : t.endOfBurst = false

/-- A structure of a read: of packets, or of one packet into the dummy buffer. -/
inductive Busy (t : TTxnStruct) : Prop
  | packets (callback : t.fTxnDoneCb = .txnDone) (packets : t.Packets)
  | drop (callback : t.fTxnDoneCb = .pktDrop) (aBuf : t.aBuf ≠ []) (ids : t.ids = [])
      (unmarked : t.endOfBurst = false)

theorem Packets.live (h : t.Packets) : t.live = t.aBuf.map Prod.fst ∧ t.live ≠ [] := by
  have htake : t.aBuf.takeWhile (fun b => b.2 ≠ 0) = t.aBuf :=
    List.takeWhile_eq_self_iff.mpr fun b hb => by simp [(h.2 b hb).2]
  constructor
  · rw [TTxnStruct.live, htake]
  · rw [TTxnStruct.live, htake]
    exact fun hnil => h.1 (List.map_eq_nil_iff.mp hnil)

theorem Packets.live_ids (h : t.Packets) : t.live.filterMap id = t.ids := by
  rw [h.live.1, List.filterMap_map]
  rfl

theorem Packets.ids_ne_nil (h : t.Packets) : t.ids ≠ [] := by
  obtain ⟨b, l, hb⟩ := List.exists_cons_of_ne_nil h.1
  obtain ⟨hsome, -⟩ := h.2 b (by simp [hb])
  obtain ⟨n, hn⟩ := Option.isSome_iff_exists.mp hsome
  rw [ids, hb, List.filterMap_cons, hn]
  exact List.cons_ne_nil _ _

theorem live_ids_nil (h : t.ids = []) : t.live.filterMap id = [] := by
  have hall := List.filterMap_eq_nil_iff.mp h
  rw [TTxnStruct.live, List.filterMap_map]
  refine List.filterMap_eq_nil_iff.mpr fun b hb => ?_
  exact hall b (List.takeWhile_subset _ hb)

end TTxnStruct

theorem mark_buf (e u : Bool) (l : List Buf) : (mark e u l).filterMap Handed.buf = l.filterMap id := by
  induction l with
  | nil => rfl
  | cons b l ih =>
    cases l with
    | nil => cases b <;> rfl
    | cons c l =>
      rw [mark, List.filterMap_cons, List.filterMap_cons, ih]
      cases b <;> rfl

/-- The packets handed over, without those that are only to be freed. -/
def packetOf (h : Handed) : Option ℕ := if h.unknown then none else h.buf

theorem packetOf_buf {h : Handed} {b : ℕ} (hb : packetOf h = some b) : h.buf = some b := by
  rw [packetOf] at hb
  split at hb
  · cases hb
  · exact hb

theorem mark_packet (e : Bool) (l : List Buf) :
    (mark e false l).filterMap packetOf = l.filterMap id := by
  induction l with
  | nil => rfl
  | cons b l ih =>
    cases l with
    | nil => cases b <;> rfl
    | cons c l =>
      rw [mark, List.filterMap_cons, List.filterMap_cons, ih]
      cases b <;> rfl

theorem mark_unknown (e : Bool) (l : List Buf) : (mark e true l).filterMap packetOf = [] := by
  induction l with
  | nil => rfl
  | cons b l ih =>
    cases l with
    | nil => rfl
    | cons c l =>
      rw [mark, List.filterMap_cons, ih]
      rfl

/-! ## The reads issued -/

open TTxnStruct

/-- What is handed over when the read completes: nothing for a read into the dummy buffer. -/
def Read.packets (r : Read) : List Handed :=
  if r.txn.ids = [] then [] else mark r.txn.endOfBurst false r.txn.live

def Read.isPending (r : Read) : Bool := r.eStatus = .pending

def Read.isComplete (r : Read) : Bool := r.eStatus = .complete

theorem mark_known (e : Bool) (l : List Buf) :
    (mark e false l).filter (fun h => !h.unknown) = mark e false l := by
  induction l with
  | nil => rfl
  | cons b l ih =>
    cases l with
    | nil => rfl
    | cons c l =>
      rw [mark, List.filter_cons_of_pos rfl, ih]

theorem mark_unknown_filter (e : Bool) (l : List Buf) :
    (mark e true l).filter (fun h => !h.unknown) = [] := by
  induction l with
  | nil => rfl
  | cons b l ih =>
    cases l with
    | nil => rfl
    | cons c l =>
      rw [mark, List.filter_cons_of_neg (by simp), ih]

theorem Read.packets_of_packets {r : Read} (h : r.txn.Packets) :
    r.packets = mark r.txn.endOfBurst false r.txn.live :=
  if_neg h.ids_ne_nil

/-- The reads issued account for what is in flight and what was handed over. -/
structure Logged (aTxnStruct : Fin maxConsecutiveReadTxn → TTxnStruct)
    (inFlight : List (Fin maxConsecutiveReadTxn)) (handed : List Handed) (reads : List Read) :
    Prop where
  inFlight : inFlight = (reads.filter Read.isPending).map Read.uIndex
  kept : ∀ r ∈ reads, r.isPending = true → aTxnStruct r.uIndex = r.txn
  handed : handed.filter (fun h => !h.unknown) = (reads.filter Read.isComplete).flatMap Read.packets
  fifo : reads.Pairwise fun r r' => r.isPending = true → r'.isComplete = false
  fresh : ∀ r ∈ reads, r.uIndex ∉ r.inFlight

variable {tx tx' : Fin maxConsecutiveReadTxn → TTxnStruct} {cur i : Fin maxConsecutiveReadTxn}
  {inFlight rest : List (Fin maxConsecutiveReadTxn)} {handed more : List Handed}
  {reads : List Read} {r : Read}

theorem Logged.mem_inFlight (h : Logged tx inFlight handed reads) (hr : r ∈ reads)
    (hp : r.isPending = true) : r.uIndex ∈ inFlight := by
  rw [h.inFlight]
  exact List.mem_map_of_mem (List.mem_filter.mpr ⟨hr, hp⟩)

theorem Logged.issue (h : Logged tx inFlight handed reads) (hr : r.isComplete = false)
    (hfresh : r.uIndex ∉ inFlight) (hin : r.inFlight = inFlight)
    (htx : tx' r.uIndex = r.txn) (hother : ∀ i ≠ r.uIndex, tx' i = tx i) :
    Logged tx' (if r.eStatus = .pending then inFlight ++ [r.uIndex] else inFlight) handed
      (reads ++ [r]) := by
  constructor
  case inFlight =>
    rw [List.filter_append, List.map_append, ← h.inFlight]
    by_cases hp : r.eStatus = .pending
    · rw [if_pos hp, List.filter_cons_of_pos (by simp [Read.isPending, hp])]
      rfl
    · rw [if_neg hp, List.filter_cons_of_neg (by simp [Read.isPending, hp])]
      simp
  case kept =>
    intro r' hr' hp
    rcases List.mem_append.mp hr' with hr' | hr'
    · have hne : r'.uIndex ≠ r.uIndex := fun he => hfresh (he ▸ h.mem_inFlight hr' hp)
      rw [hother _ hne]
      exact h.kept r' hr' hp
    · rw [List.mem_singleton.mp hr']
      exact htx
  case handed =>
    rw [List.filter_append, List.filter_cons_of_neg (by simp [hr]), List.filter_nil, List.append_nil]
    exact h.handed
  case fifo =>
    refine List.pairwise_append.mpr ⟨h.fifo, List.pairwise_singleton _ _, fun a _ b hb _ => ?_⟩
    rw [List.mem_singleton.mp hb]
    exact hr
  case fresh =>
    intro r' hr'
    rcases List.mem_append.mp hr' with hr' | hr'
    · exact h.fresh r' hr'
    · rw [List.mem_singleton.mp hr', hin]
      exact hfresh

theorem Logged.complete (h : Logged tx [] handed reads) (hr : r.isComplete = true)
    (hin : r.inFlight = []) (hmore : more.filter (fun h => !h.unknown) = r.packets) :
    Logged tx' [] (handed ++ more) (reads ++ [r]) := by
  have hnone : ∀ r' ∈ reads, r'.isPending = false := by
    have hnil := List.map_eq_nil_iff.mp h.inFlight.symm
    intro r' hr'
    simpa using List.filter_eq_nil_iff.mp hnil r' hr'
  have hrp : r.isPending = false := by
    simp only [Read.isComplete, Read.isPending, decide_eq_true_eq, decide_eq_false_iff_not] at hr ⊢
    rw [hr]
    decide
  have hall : ∀ r' ∈ reads ++ [r], r'.isPending = false := by
    intro r' hr'
    rcases List.mem_append.mp hr' with hr' | hr'
    · exact hnone r' hr'
    · rw [List.mem_singleton.mp hr']
      exact hrp
  constructor
  case inFlight =>
    rw [List.filter_eq_nil_iff.mpr fun r' hr' => by simp [hall r' hr'], List.map_nil]
  case kept =>
    intro r' hr' hp
    rw [hall r' hr'] at hp
    cases hp
  case handed =>
    rw [List.filter_append, List.filter_append, h.handed, hmore, List.filter_cons_of_pos hr,
      List.flatMap_append]
    simp
  case fifo =>
    refine List.pairwise_append.mpr ⟨h.fifo, List.pairwise_singleton _ _, fun a ha b _ hp => ?_⟩
    rw [hnone a ha] at hp
    cases hp
  case fresh =>
    intro r' hr'
    rcases List.mem_append.mp hr' with hr' | hr'
    · exact h.fresh r' hr'
    · rw [List.mem_singleton.mp hr', hin]
      exact List.not_mem_nil

theorem settle_append {l₁ l₂ : List Read} (st : ETxnStatus) (h : ∀ r ∈ l₁, ¬ r.isPending = true)
    (hr : r.isPending = true) :
    settle st (l₁ ++ r :: l₂) = l₁ ++ { r with eStatus := st } :: l₂ := by
  induction l₁ with
  | nil =>
    rw [List.nil_append, settle, if_pos (by simpa [Read.isPending] using hr)]
    rfl
  | cons a l₁ ih =>
    have ha := h a (List.mem_cons_self ..)
    rw [List.cons_append, settle, if_neg (by simpa [Read.isPending] using ha),
      ih fun b hb => h b (List.mem_cons_of_mem _ hb)]
    rfl

theorem Logged.oldest (h : Logged tx (i :: rest) handed reads) :
    ∃ l₁ r l₂, reads = l₁ ++ r :: l₂ ∧ (∀ r' ∈ l₁, ¬ r'.isPending = true) ∧ r.isPending = true ∧
      r.uIndex = i ∧ r.txn = tx i ∧ rest = (l₂.filter Read.isPending).map Read.uIndex := by
  obtain ⟨r, l, hfilter, hri, hl⟩ := List.map_eq_cons_iff.mp h.inFlight.symm
  obtain ⟨l₁, l₂, hreads, hl₁, hr, hl₂⟩ := List.filter_eq_cons_iff.mp hfilter
  refine ⟨l₁, r, l₂, hreads, hl₁, hr, hri, ?_, ?_⟩
  · rw [← hri]
    exact (h.kept r (by rw [hreads]; simp) hr).symm
  · rw [hl₂, hl]

theorem Logged.settle (h : Logged tx (i :: rest) handed reads) {st : ETxnStatus}
    (hst : st ≠ .pending) (hi : i ∉ rest) (hother : ∀ j ≠ i, tx' j = tx j)
    (hmore : ∀ r : Read, r.txn = tx i →
      more.filter (fun h => !h.unknown) = if st = .complete then r.packets else []) :
    Logged tx' rest (handed ++ more) (RxXfer.settle st reads) := by
  obtain ⟨l₁, r, l₂, hreads, hl₁, hr, hri, htxn, hrest⟩ := h.oldest
  have hfifo := h.fifo
  have hhanded := h.handed
  rw [hreads, settle_append st hl₁ hr]
  rw [hreads] at hfifo hhanded
  obtain ⟨hfifo₁, hfifo₂, hcross⟩ := List.pairwise_append.mp hfifo
  obtain ⟨hfirst, hfifo₂⟩ := List.pairwise_cons.mp hfifo₂
  have hl₂ : l₂.filter Read.isComplete = [] :=
    List.filter_eq_nil_iff.mpr fun r' hr' => by simp [hfirst r' hr' hr]
  have hrc : r.isComplete = false := by
    simp only [Read.isPending, Read.isComplete, decide_eq_true_eq, decide_eq_false_iff_not] at hr ⊢
    rw [hr]
    decide
  have hnew : ({ r with eStatus := st } : Read).isPending = false := by
    simpa [Read.isPending] using hst
  have hmem : ∀ r' ∈ l₁ ++ { r with eStatus := st } :: l₂, r'.isPending = true → r' ∈ l₂ := by
    intro r' hr' hp
    rcases List.mem_append.mp hr' with hr' | hr'
    · exact absurd hp (hl₁ r' hr')
    · rcases List.mem_cons.mp hr' with rfl | hr'
      · rw [hnew] at hp
        cases hp
      · exact hr'
  constructor
  case inFlight =>
    rw [List.filter_append, List.filter_eq_nil_iff.mpr hl₁, List.filter_cons_of_neg (by simp [hnew]),
      List.nil_append]
    exact hrest
  case kept =>
    intro r' hr' hp
    have hr₂ := hmem r' hr' hp
    have hne : r'.uIndex ≠ i := by
      intro he
      refine hi ?_
      rw [hrest, ← he]
      exact List.mem_map_of_mem (List.mem_filter.mpr ⟨hr₂, hp⟩)
    rw [hother _ hne]
    exact h.kept r' (by rw [hreads]; simp [hr₂]) hp
  case handed =>
    rw [List.filter_append, List.filter_cons_of_neg (by simp [hrc]), hl₂, List.append_nil] at hhanded
    rw [List.filter_append, hhanded, hmore r htxn, List.filter_append, List.flatMap_append]
    congr 1
    split
    next hc =>
      rw [List.filter_cons_of_pos (by simp [Read.isComplete, hc]), hl₂]
      simp [Read.packets]
    next hc =>
      rw [List.filter_cons_of_neg (by simp [Read.isComplete, hc]), hl₂]
      rfl
  case fifo =>
    refine List.pairwise_append.mpr ⟨hfifo₁, List.pairwise_cons.mpr ⟨fun r' _ hp => ?_, hfifo₂⟩,
      fun r' hr' _ _ hp => absurd hp (hl₁ r' hr')⟩
    rw [hnew] at hp
    cases hp
  case fresh =>
    have hfresh := h.fresh
    rw [hreads] at hfresh
    intro r' hr'
    rcases List.mem_append.mp hr' with hr' | hr'
    · exact hfresh r' (List.mem_append_left _ hr')
    · rcases List.mem_cons.mp hr' with rfl | hr'
      · exact hfresh r (by simp)
      · exact hfresh r' (by simp [hr'])

theorem abandon_complete (reads : List Read) :
    (reads.map Read.abandon).filter Read.isComplete = reads.filter Read.isComplete := by
  induction reads with
  | nil => rfl
  | cons r reads ih =>
    rw [List.map_cons]
    by_cases hp : r.eStatus = .pending
    · rw [Read.abandon, if_pos hp, List.filter_cons_of_neg (by simp [Read.isComplete]),
        List.filter_cons_of_neg (by simp [Read.isComplete, hp]), ih]
    · rw [Read.abandon, if_neg hp, List.filter_cons, List.filter_cons, ih]

theorem Logged.abandon (h : Logged tx inFlight handed reads) {handed' : List Handed}
    (hhanded : handed'.filter (fun h => !h.unknown) = handed.filter (fun h => !h.unknown)) :
    Logged tx' [] handed' (reads.map Read.abandon) := by
  have hpending : ∀ r : Read, r.abandon.isPending = false := by
    intro r
    rw [Read.abandon]
    split
    · rfl
    next hne => simpa [Read.isPending] using hne
  have hnone : ∀ r ∈ reads.map Read.abandon, r.isPending = false := by
    intro r hr
    obtain ⟨r', -, rfl⟩ := List.mem_map.mp hr
    exact hpending r'
  constructor
  case inFlight =>
    rw [List.filter_eq_nil_iff.mpr fun r hr => by simp [hnone r hr], List.map_nil]
  case kept =>
    intro r hr hp
    rw [hnone r hr] at hp
    cases hp
  case handed =>
    rw [hhanded, h.handed, abandon_complete]
  case fifo =>
    refine List.pairwise_of_forall_mem_list fun r hr r' _ hp => ?_
    rw [hnone r hr] at hp
    cases hp
  case fresh =>
    intro r hr
    obtain ⟨r', hr', rfl⟩ := List.mem_map.mp hr
    rw [Read.abandon]
    split <;> exact h.fresh r' hr'

end ArchosGpl.Wlan.RxXfer
