import Mathlib.Data.List.Perm.Basic
import ArchosGpl.Wlan.TxXfer.Model

/-!
# The control blocks of the packets

`Core` is what holds of the control blocks between the calls: the packets of the aggregation are a
ring of links from the first one on, those of each transaction in flight as well, and no packet is
in two of them. It is kept when a packet starts an aggregation or joins it (`Core.start`,
`Core.add`), when the aggregation is sent (`Core.flush`), and when a transaction in flight ends
(`Core.landed`).
-/

open Function (update update_of_ne update_self)

namespace ArchosGpl.Wlan.TxXfer

open Lib

namespace Sys

/-- A transaction in flight: its packets are linked, the last one has the callback, and the callback
makes enough steps. -/
def Flying (s : Sys) (g : List Item) : Prop :=
  ∃ x l, g = x :: l ∧ Looped s.next x.1 (pkts l) ∧
    (s.blk (lastOf x.1 (pkts l))).fTxnDoneCb = s.obj.fSendPacketTransferCb ∧
    (l = [] ∨ l.length < s.obj.uAggregMaxPkts)

/-- The packets the module and the bus still work on. -/
def held (s : Sys) (cur : List Item) : List Pkt := pkts (s.inFlight.flatten ++ cur)

/-- The control blocks between two calls. -/
structure Core (s : Sys) (cur : List Item) : Prop where
  collected : s.collected = []
  empty : cur = [] → s.obj.uAggregPktsNum = 0
  current : ∀ x l, cur = x :: l → Current s x l
  room : cur.length ≤ 1 ∨ cur.length ≤ s.obj.uAggregMaxPkts
  flying : ∀ g ∈ s.inFlight, Flying s g
  apart : (s.held cur).Nodup

variable {s t : Sys} {cur g l : List Item} {x : Item} {p : Pkt}

theorem mem_held : p ∈ s.held cur ↔ (∃ g ∈ s.inFlight, p ∈ pkts g) ∨ p ∈ pkts cur := by
  simp only [held, pkts, List.map_append, List.mem_append, List.map_flatten, List.mem_flatten,
    List.mem_map, exists_exists_and_eq_and]

theorem Flying.congr (h : Flying s g) (hblk : ∀ p ∈ pkts g, t.blk p = s.blk p)
    (hreg : t.obj.fSendPacketTransferCb = s.obj.fSendPacketTransferCb)
    (hmax : t.obj.uAggregMaxPkts = s.obj.uAggregMaxPkts) : Flying t g := by
  obtain ⟨x, l, rfl, hring, hcb, hroom⟩ := h
  refine ⟨x, l, rfl, hring.congr fun p hp => ?_, ?_, by rw [hmax]; exact hroom⟩
  · rw [next, hblk p hp, next]
  · rw [hblk _ (lastOf_mem _ _), hcb, hreg]

theorem Current.congr (h : Current s x l) (hobj : t.obj = s.obj)
    (hblk : ∀ p ∈ pkts (x :: l), t.blk p = s.blk p) : Current t x l where
  num := by rw [hobj, h.num]
  len := by rw [hobj, h.len]
  first := by rw [hobj, h.first]
  last := by rw [hobj, h.last]
  ring := h.ring.congr fun p hp => by rw [next, hblk p hp, next]
  lengths y hy := by rw [hblk _ (List.mem_map_of_mem hy), h.lengths y hy]

theorem Core.congr (h : Core s cur) (hobj : t.obj = s.obj) (hc : t.collected = s.collected)
    (hin : t.inFlight = s.inFlight) (hblk : ∀ p ∈ s.held cur, t.blk p = s.blk p) : Core t cur where
  collected := by rw [hc, h.collected]
  empty hnil := by rw [hobj, h.empty hnil]
  current x l hcur := (h.current x l hcur).congr hobj fun p hp =>
    hblk p (mem_held.mpr (Or.inr (hcur ▸ hp)))
  room := by rw [hobj]; exact h.room
  flying g hg := by
    rw [hin] at hg
    exact (h.flying g hg).congr (fun p hp => hblk p (mem_held.mpr (Or.inl ⟨g, hg, hp⟩)))
      (by rw [hobj]) (by rw [hobj])
  apart := by rw [held, hin]; exact h.apart

theorem Core.fillIn (h : Core s cur) (hp : p ∉ s.held cur) (length : UInt16) :
    Core (s.fillIn p length) cur :=
  h.congr rfl rfl rfl fun q hq => update_of_ne (fun hc => hp (by rwa [← hc])) _ _

theorem fillIn_pktLen (s : Sys) (p : Pkt) (length : UInt16) :
    ((s.fillIn p length).blk p).pktLen = length.toNat * 2 ^ 2 := by
  rw [Sys.fillIn]
  dsimp only
  rw [update_self, TTxCtrlBlk.pktLen]

theorem Core.start (h : Core s []) (hp : p ∉ s.held []) :
    Core (s.start p) [(p, (s.blk p).pktLen)] where
  collected := h.collected
  empty hnil := absurd hnil (List.cons_ne_nil _ _)
  current x l hcur := by
    obtain ⟨rfl, rfl⟩ := List.cons.inj hcur
    have hself : (s.start p).blk p = { s.blk p with pNextAggregEntry := p } :=
      update_self _ _ _
    constructor
    case num => rfl
    case len => rfl
    case first => rfl
    case last => rfl
    case ring => exact .single (by rw [next, hself])
    case lengths =>
      intro y hy
      rw [List.mem_singleton.mp hy, hself]
      rfl
  room := Or.inl le_rfl
  flying g hg := (h.flying g hg).congr (fun q hq => update_of_ne
    (fun hc => hp (mem_held.mpr (Or.inl ⟨g, hg, by rwa [← hc]⟩))) _ _) rfl rfl
  apart := by
    have hheld : (s.start p).held [(p, (s.blk p).pktLen)] = (s.held []).concat p := by
      rw [List.concat_eq_append, held, held, List.append_nil, pkts, List.map_append]
      rfl
    rw [hheld]
    exact h.apart.concat hp

theorem setNext_two (blk : Pkt → TTxCtrlBlk) (a b c : Pkt) :
    (fun q => (setNext (setNext blk a b) b c q).pNextAggregEntry) =
      update (update (fun q => (blk q).pNextAggregEntry) a b) b c := by
  funext q
  by_cases hb : q = b
  · rw [hb, setNext, update_self, update_self]
  · rw [setNext, update_of_ne hb, update_of_ne hb, setNext]
    by_cases ha : q = a
    · rw [ha, update_self, update_self]
    · rw [update_of_ne ha, update_of_ne ha]

theorem setNext_length (blk : Pkt → TTxCtrlBlk) (a b q : Pkt) :
    (setNext blk a b q).length = (blk q).length := by
  by_cases ha : q = a
  · rw [ha, setNext, update_self]
  · rw [setNext, update_of_ne ha]

theorem add_next (s : Sys) (p : Pkt) : (s.add p).next =
    update (update s.next s.obj.pAggregLastPkt p) p s.obj.pAggregFirstPkt :=
  setNext_two s.blk _ _ _

theorem add_pktLen (s : Sys) (p q : Pkt) : ((s.add p).blk q).pktLen = (s.blk q).pktLen := by
  rw [TTxCtrlBlk.pktLen, Sys.add]
  dsimp only
  rw [setNext_length, setNext_length, TTxCtrlBlk.pktLen]

theorem Current.add (h : Current s x l) (hp : p ∉ x.1 :: pkts l) :
    Current (s.add p) x (l ++ [(p, (s.blk p).pktLen)]) := by
  have hpkts : pkts (l ++ [(p, (s.blk p).pktLen)]) = pkts l ++ [p] := List.map_append
  constructor
  case num =>
    rw [List.length_append, List.length_singleton, ← h.num]
    rfl
  case len =>
    rw [lengthOf, ← List.cons_append, List.map_append, List.sum_append, ← lengthOf, ← h.len]
    rfl
  case first => exact h.first
  case last =>
    rw [hpkts, lastOf_snoc]
    rfl
  case ring =>
    rw [hpkts, add_next, h.last, h.first]
    exact h.ring.snoc hp
  case lengths =>
    intro y hy
    rw [add_pktLen]
    rw [← List.cons_append] at hy
    rcases List.mem_append.mp hy with hy | hy
    · exact h.lengths y hy
    · rw [List.mem_singleton.mp hy]

theorem Core.disjoint (h : Core s cur) (hg : g ∈ s.inFlight) {q : Pkt} (hq : q ∈ pkts g) :
    q ∉ pkts cur := by
  have hapart := h.apart
  rw [held, pkts, List.map_append] at hapart
  intro hc
  have hmem : q ∈ pkts s.inFlight.flatten := by
    obtain ⟨y, hy, rfl⟩ := List.mem_map.mp hq
    exact List.mem_map_of_mem (List.mem_flatten_of_mem hg hy)
  exact (List.nodup_append.mp hapart).2.2 q hmem q hc rfl

theorem Core.add (h : Core s (x :: l)) (hp : p ∉ s.held (x :: l))
    (hroom : s.obj.uAggregPktsNum + 1 ≤ s.obj.uAggregMaxPkts) :
    Core (s.add p) (x :: l ++ [(p, (s.blk p).pktLen)]) := by
  have hcur := h.current x l rfl
  have hpcur : p ∉ x.1 :: pkts l := fun hc => hp (mem_held.mpr (Or.inr hc))
  constructor
  case collected => exact h.collected
  case empty => exact fun hnil => absurd hnil (List.cons_ne_nil _ _)
  case current =>
    intro y m hym
    rw [List.cons_append] at hym
    obtain ⟨rfl, rfl⟩ := List.cons.inj hym
    exact hcur.add hpcur
  case room =>
    refine Or.inr ?_
    rw [List.length_append, List.length_cons, List.length_singleton, ← hcur.num]
    exact hroom
  case flying =>
    intro g hg
    refine (h.flying g hg).congr (fun q hq => ?_) rfl rfl
    have hqp : q ≠ p := fun hc => hp (mem_held.mpr (Or.inl ⟨g, hg, by rwa [← hc]⟩))
    have hql : q ≠ s.obj.pAggregLastPkt := by
      intro hc
      rw [hcur.last] at hc
      exact h.disjoint hg (by rwa [← hc]) (lastOf_mem x.1 (pkts l))
    rw [Sys.add]
    dsimp only
    rw [setNext, update_of_ne hqp, setNext, update_of_ne hql]
  case apart =>
    have hheld : (s.add p).held (x :: l ++ [(p, (s.blk p).pktLen)]) =
        (s.held (x :: l)).concat p := by
      rw [List.concat_eq_append, held, held, ← List.append_assoc, pkts, List.map_append]
      rfl
    rw [hheld]
    exact h.apart.concat hp

/-- **The aggregation is sent.** Its packets are in flight if the bus has not done with them. -/
theorem Core.flush {st : ETxnStatus} {now : Bool} (h : Core s (x :: l))
    (hf : Flushed s t (x :: l) (lastOf x.1 (pkts l)) st now) : Core t.clear [] := by
  have hcur := h.current x l rfl
  have hold : ∀ g ∈ s.inFlight, Flying t.clear g := fun g hg =>
    (h.flying g hg).congr (fun q hq => hf.others q (h.disjoint hg hq)) hf.registered hf.maxPkts
  have hnew : Flying t.clear (x :: l) := by
    refine ⟨x, l, rfl, ?_, hf.callback.trans hf.registered.symm, ?_⟩
    · exact hcur.ring.congr fun q _ => congrFun hf.next q
    · have hroom := h.room
      rw [← hf.maxPkts, List.length_cons] at hroom
      rcases hroom with hone | hle
      · exact Or.inl (List.length_eq_zero_iff.mp (by omega))
      · exact Or.inr hle
  constructor
  case collected => exact hf.collected
  case empty => exact fun _ => rfl
  case current => exact fun _ _ hnil => nomatch hnil
  case room => exact Or.inl (Nat.zero_le 1)
  case flying =>
    intro g hg
    change g ∈ t.inFlight at hg
    rw [hf.inFlight] at hg
    split at hg
    · rcases List.mem_append.mp hg with hg | hg
      · exact hold g hg
      · rw [List.mem_singleton.mp hg]
        exact hnew
    · exact hold g hg
  case apart =>
    have hheld : t.clear.held [] = pkts t.inFlight.flatten := by
      rw [held, List.append_nil]
      rfl
    rw [hheld, hf.inFlight]
    have hapart := h.apart
    rw [held] at hapart
    split
    · rw [List.flatten_append, List.flatten_singleton]
      exact hapart
    · rw [pkts, List.map_append] at hapart
      exact (List.nodup_append.mp hapart).1

theorem Core.landed {rest : List (List Item)} (h : Core s cur) (hin : s.inFlight = g :: rest) :
    Core { s with inFlight := rest } cur where
  collected := h.collected
  empty := h.empty
  current x l hcur := (h.current x l hcur).congr rfl fun _ _ => rfl
  room := h.room
  flying g' hg' := (h.flying g' (by rw [hin]; exact List.mem_cons_of_mem g hg')).congr
    (fun _ _ => rfl) rfl rfl
  apart := by
    have hapart := h.apart
    rw [held, hin, List.flatten_cons, List.append_assoc, pkts, List.map_append] at hapart
    exact (List.nodup_append.mp hapart).2.1

theorem Flushed.held_subset {last q : Pkt} {st : ETxnStatus} {now : Bool}
    (hf : Flushed s t g last st now) (hq : q ∈ t.clear.held []) : q ∈ s.held g := by
  rcases mem_held.mp hq with ⟨g', hg', hq⟩ | hq
  · change g' ∈ t.inFlight at hg'
    rw [hf.inFlight] at hg'
    refine mem_held.mpr ?_
    split at hg'
    · rcases List.mem_append.mp hg' with hg' | hg'
      · exact Or.inl ⟨g', hg', hq⟩
      · rw [List.mem_singleton.mp hg'] at hq
        exact Or.inr hq
    · exact Or.inl ⟨g', hg', hq⟩
  · cases hq

/-- **The callback of a transaction in flight** is in its last packet, and goes over its packets if
it may make a step. -/
theorem Flying.called (h : Flying s g) :
    ∃ p n, g.getLast? = some (p, n) ∧ (s.blk p).fTxnDoneCb = s.obj.fSendPacketTransferCb ∧
      (0 < s.obj.uAggregMaxPkts.val →
        walkUntil s.next p s.obj.uAggregMaxPkts (s.next p) = pkts g) := by
  obtain ⟨x, l, rfl, hring, hcb, hroom⟩ := h
  have hlast : ((x :: l).getLast (List.cons_ne_nil x l)).1 = lastOf x.1 (pkts l) :=
    (List.getLast_map (f := Prod.fst) (l := x :: l) (List.cons_ne_nil _ _)).symm
  refine ⟨_, _, List.getLast?_eq_some_getLast (List.cons_ne_nil x l), ?_, fun hmax => ?_⟩
  · rw [hlast, hcb]
  · rw [hlast, hring.next_last]
    refine hring.walkUntil_eq ?_
    rw [List.length_map]
    rcases hroom with rfl | hlt
    · exact hmax
    · exact hlt

end Sys

end ArchosGpl.Wlan.TxXfer
