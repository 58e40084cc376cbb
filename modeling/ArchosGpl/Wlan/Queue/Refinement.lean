import ArchosGpl.Lib.Circular
import Mathlib.Data.Nat.Notation
import Mathlib.Data.Set.Insert

/-!
# The queues are bounded deques

`Deques` is what the queues are for: a bounded list for each queue, an item in at most one of them.

* `Sys.Inv.step`: **a call does to the rings what the deques do to the lists**, and returns the
  same, unless it inserts an item again that has been taken out in a build without `TI_DBG`.
* `queue_refines`: **the queues agree with the deques over a run exactly if** the build defines
  `TI_DBG` or no such insertion occurs.
-/

open Function (update update_eq_self update_of_ne update_self)

namespace ArchosGpl.Wlan.Queue

open Lib

/-!
## Model of the queues (`utils/queue.c`)

A queue is a ring of node headers, one in each queued item, closed by a header of its own
(`tHead`). Items are inserted at its head and taken from its tail, so the tail is the front of the
queue.

The items are of one type, so that the offset of the node header in them is the same for all
queues: a header is named by its item. Queues and items are of any types, and handles are not
`NULL`. A pointer that is followed must not be `NULL`, so the operations may fail. `tiDbg` says
whether `TI_DBG` is defined. The debug counters `uMaxCount` and `uOverflow`, which nothing reads,
are left out.
-/

section Model

/-- The node headers: that of a queue, and that of an item. -/
inductive Node (Q I : Type*)
  | head (q : Q)
  | item (i : I)
  deriving DecidableEq

/-- `TI_OK` and `TI_NOK`. -/
inductive TiStatus
  | ok
  | nok
  deriving DecidableEq

/-- The links of all node headers (`TQueNodeHdr`), and the counts and limits of the queues
(`TQueue`). -/
structure Sys (Q I : Type*) where
  pNext : Node Q I → Option (Node Q I)
  pPrev : Node Q I → Option (Node Q I)
  uCount : Q → ℕ
  uLimit : Q → ℕ

namespace Sys

variable {Q I : Type*}

/-- Every queue after `que_Create`, and items that have not been queued yet. -/
def init (uLimit : Q → ℕ) : Sys Q I where
  pNext
    | .head q => some (.head q)
    | .item _ => none
  pPrev
    | .head q => some (.head q)
    | .item _ => none
  uCount _ := 0
  uLimit := uLimit

variable [DecidableEq Q] [DecidableEq I] (s : Sys Q I)

/-- `pNode->pNext = p`. -/
def setNext (pNode : Node Q I) (p : Option (Node Q I)) : Sys Q I :=
  { s with pNext := update s.pNext pNode p }

/-- `pNode->pPrev = p`. -/
def setPrev (pNode : Node Q I) (p : Option (Node Q I)) : Sys Q I :=
  { s with pPrev := update s.pPrev pNode p }

/-- `uCount` of a queue is set. -/
def setCount (q : Q) (n : ℕ) : Sys Q I := { s with uCount := update s.uCount q n }

def insertNode (pNode pPrev pNext : Node Q I) : Sys Q I :=
  (((s.setPrev pNext (some pNode)).setNext pNode (some pNext)).setPrev pNode (some pPrev)).setNext
    pPrev (some pNode)

def removeNode (pPrev pNext : Node Q I) : Sys Q I :=
  (s.setPrev pNext (some pPrev)).setNext pPrev (some pNext)

def addToHead (pNode pListHead : Node Q I) : Option (Sys Q I) := do
  let pNext ← s.pNext pListHead
  return s.insertNode pNode pListHead pNext

def addToTail (pNode pListHead : Node Q I) : Option (Sys Q I) := do
  let pPrev ← s.pPrev pListHead
  return s.insertNode pNode pPrev pListHead

def delFromTail (pNode : Node Q I) : Option (Sys Q I) := do
  let pPrev ← s.pPrev pNode
  let pNext ← s.pNext pNode
  return s.removeNode pPrev pNext

/-- `que_Enqueue`. -/
def enqueue (q : Q) (i : I) : Option (Sys Q I × TiStatus) :=
  if s.uCount q < s.uLimit q then
    if (s.pNext (.item i)).isSome then some (s, .nok)
    else do
      let s ← s.addToHead (.item i) (.head q)
      return (s.setCount q (s.uCount q + 1), .ok)
  else some (s, .nok)

/-- `que_Dequeue`. -/
def dequeue (tiDbg : Bool) (q : Q) : Option (Sys Q I × Option I) :=
  if s.uCount q ≠ 0 then do
    match ← s.pPrev (.head q) with
    | .head _ => none
    | .item i =>
      let s ← s.delFromTail (.item i)
      let s := s.setCount q (s.uCount q - 1)
      return (if tiDbg then s.setNext (.item i) none else s, some i)
  else some (s, none)

/-- `que_Requeue`. -/
def requeue (q : Q) (i : I) : Option (Sys Q I × TiStatus) :=
  if s.uCount q < s.uLimit q then
    if (s.pNext (.item i)).isSome then some (s, .nok)
    else do
      let s ← s.addToTail (.item i) (.head q)
      return (s.setCount q (s.uCount q + 1), .ok)
  else some (s, .nok)

end Sys

/-! ### Calls -/

inductive Op (Q I : Type*)
  | enqueue (q : Q) (i : I)
  | requeue (q : Q) (i : I)
  | dequeue (q : Q)

/-- What a call returns. -/
inductive Result (I : Type*)
  | status (status : TiStatus)
  | item (hItem : Option I)
  deriving DecidableEq

variable {Q I : Type*} [DecidableEq Q] [DecidableEq I]

/-- A call, with what it returns. -/
def Sys.step (tiDbg : Bool) (s : Sys Q I) : Op Q I → Option (Sys Q I × Result I)
  | .enqueue q i => (s.enqueue q i).map (Prod.map id .status)
  | .requeue q i => (s.requeue q i).map (Prod.map id .status)
  | .dequeue q => (s.dequeue tiDbg q).map (Prod.map id .item)

end Model

variable {Q I : Type*}

/-! ## Bounded deques -/

/-- Bounded lists, an item in at most one of them. -/
structure Deques (Q I : Type*) where
  limit : Q → ℕ
  contents : Q → List I
  bounded : ∀ q, (contents q).length ≤ limit q
  nodup : ∀ q, (contents q).Nodup
  apart : ∀ q q' i, i ∈ contents q → i ∈ contents q' → q = q'

namespace Deques

def empty (limit : Q → ℕ) : Deques Q I :=
  ⟨limit, fun _ => [], fun _ => Nat.zero_le _, fun _ => List.nodup_nil, fun _ _ _ h => nomatch h⟩

variable (d : Deques Q I) (q : Q) (i : I)

/-- No queue holds the item. -/
def IsFree : Prop := ∀ q, i ∉ d.contents q

/-- A queue with room takes an item that no queue holds. -/
def Accepts : Prop := (d.contents q).length < d.limit q ∧ d.IsFree i

variable {d q i} [DecidableEq Q]

/-- The list of a queue is replaced by one with the same items and a free one. -/
def insert (h : d.Accepts q i) (l : List I) (hl : l.Perm (i :: d.contents q)) : Deques Q I where
  limit := d.limit
  contents := update d.contents q l
  bounded q' := by
    rcases eq_or_ne q' q with rfl | hq
    · rw [update_self, hl.length_eq]
      exact h.1
    · rw [update_of_ne hq]
      exact d.bounded q'
  nodup q' := by
    rcases eq_or_ne q' q with rfl | hq
    · rw [update_self, hl.nodup_iff]
      exact List.nodup_cons.mpr ⟨h.2 q', d.nodup q'⟩
    · rw [update_of_ne hq]
      exact d.nodup q'
  apart := by
    have hmem : ∀ q' j, j ∈ update d.contents q l q' →
        q' = q ∧ j = i ∨ j ∈ d.contents q' := by
      intro q' j hj
      rcases eq_or_ne q' q with rfl | hq
      · rw [update_self, hl.mem_iff, List.mem_cons] at hj
        exact hj.imp (fun hj => ⟨rfl, hj⟩) id
      · rw [update_of_ne hq] at hj
        exact Or.inr hj
    intro q₁ q₂ j h₁ h₂
    rcases hmem q₁ j h₁ with ⟨rfl, rfl⟩ | hj₁ <;> rcases hmem q₂ j h₂ with ⟨rfl, hji⟩ | hj₂
    · rfl
    · exact absurd hj₂ (h.2 q₂)
    · rw [hji] at hj₁
      exact absurd hj₁ (h.2 q₁)
    · exact d.apart q₁ q₂ j hj₁ hj₂

/-- The first item of a queue is taken out. -/
def remove (d : Deques Q I) (q : Q) : Deques Q I where
  limit := d.limit
  contents := update d.contents q (d.contents q).tail
  bounded q' := by
    rcases eq_or_ne q' q with rfl | hq
    · rw [update_self, List.length_tail]
      exact (Nat.sub_le _ _).trans (d.bounded q')
    · rw [update_of_ne hq]
      exact d.bounded q'
  nodup q' := by
    rcases eq_or_ne q' q with rfl | hq
    · rw [update_self]
      exact (d.nodup q').tail
    · rw [update_of_ne hq]
      exact d.nodup q'
  apart := by
    have hmem : ∀ q' j, j ∈ update d.contents q (d.contents q).tail q' →
        j ∈ d.contents q' := by
      intro q' j hj
      rcases eq_or_ne q' q with rfl | hq
      · rw [update_self] at hj
        exact List.mem_of_mem_tail hj
      · rwa [update_of_ne hq] at hj
    intro q₁ q₂ j h₁ h₂
    exact d.apart q₁ q₂ j (hmem q₁ j h₁) (hmem q₂ j h₂)

open Classical in
/-- A call, with what it returns: a refused insertion changes nothing. -/
noncomputable def step (d : Deques Q I) : Op Q I → Deques Q I × Result I
  | .enqueue q i =>
    if h : d.Accepts q i then
      (insert h (d.contents q ++ [i]) List.perm_append_comm, .status .ok)
    else (d, .status .nok)
  | .requeue q i =>
    if h : d.Accepts q i then (insert h (i :: d.contents q) (List.Perm.refl _), .status .ok)
    else (d, .status .nok)
  | .dequeue q => (d.remove q, .item (d.contents q).head?)

end Deques

/-! ## The rings hold the lists -/

namespace Sys

/-- **The rings of the queues hold the lists**, and the counters their lengths. -/
structure Represents (s : Sys Q I) (d : Deques Q I) : Prop where
  ring : ∀ q, Circular s.pPrev s.pNext (.head q) ((d.contents q).map .item)
  count : ∀ q, s.uCount q = (d.contents q).length
  limit : s.uLimit = d.limit

/-- The invariant. An item that no queue holds has no link, unless it is one of `u`, the items that
have been taken out in a build without `TI_DBG`. -/
structure Inv (tiDbg : Bool) (s : Sys Q I) (d : Deques Q I) (u : Set I) : Prop where
  represents : s.Represents d
  unlinked : ∀ i, d.IsFree i → (s.pNext (.item i) = none ↔ tiDbg = true ∨ i ∉ u)

variable {s : Sys Q I} {d : Deques Q I} {u : Set I} {tiDbg : Bool} {q : Q} {i : I}

theorem node_apart {q' : Q} {x : Node Q I} (hx : x ∈ .head q :: (d.contents q).map .item)
    (hx' : x ∈ .head q' :: (d.contents q').map .item) : q = q' := by
  cases x with
  | head p => simp_all
  | item j =>
    refine d.apart q q' j ?_ ?_
    · simpa using hx
    · simpa using hx'

theorem item_not_mem (hi : d.IsFree i) :
    (.item i : Node Q I) ∉ .head q :: (d.contents q).map .item := by
  simpa using hi q

theorem linked_of_mem (hr : s.Represents d) (hi : ¬ d.IsFree i) : s.pNext (.item i) ≠ none := by
  obtain ⟨q, hq⟩ := not_forall_not.mp hi
  exact (hr.ring q).bwd_ne_none (List.mem_map_of_mem hq)

theorem init_inv (uLimit : Q → ℕ) : Inv tiDbg (init uLimit) (Deques.empty uLimit : Deques Q I) ∅ where
  represents := ⟨fun _ => .empty rfl rfl, fun _ => rfl, rfl⟩
  unlinked _ _ := iff_of_true rfl (Or.inr (Set.notMem_empty _))

/-! ## Insertion -/

section Insertion

variable [DecidableEq Q]

theorem Inv.insert {t : Sys Q I} (hI : Inv tiDbg s d u) (h : d.Accepts q i) {l : List I}
    (hl : l.Perm (i :: d.contents q)) (hring : Circular t.pPrev t.pNext (.head q) (l.map .item))
    (hframe : ∀ x, x ≠ .item i → x ∉ .head q :: (d.contents q).map .item →
      t.pPrev x = s.pPrev x ∧ t.pNext x = s.pNext x)
    (hcount : t.uCount = update s.uCount q (s.uCount q + 1))
    (hlimit : t.uLimit = s.uLimit) : Inv tiDbg t (Deques.insert h l hl) u := by
  obtain ⟨⟨hr, hc, hlim⟩, hun⟩ := hI
  refine ⟨⟨fun q' => ?_, fun q' => ?_, hlimit.trans hlim⟩, fun j hj => ?_⟩
  · rcases eq_or_ne q' q with rfl | hq
    · simpa [Deques.insert] using hring
    · have hsame : ∀ x ∈ .head q' :: (d.contents q').map .item,
          t.pPrev x = s.pPrev x ∧ t.pNext x = s.pNext x := by
        intro x hx
        refine hframe x ?_ fun hx' => hq (node_apart hx hx')
        rintro rfl
        exact item_not_mem h.2 hx
      have hcongr := (hr q').congr (fun x hx => (hsame x hx).1) fun x hx => (hsame x hx).2
      simpa [Deques.insert, update_of_ne hq] using hcongr
  · rw [hcount]
    rcases eq_or_ne q' q with rfl | hq
    · simp [Deques.insert, hl.length_eq, hc]
    · simp [Deques.insert, update_of_ne hq, hc]
  · have hfree : ∀ q', j ∉ d.contents q' ∧ (q' = q → j ≠ i) := by
      intro q'
      have hj' := hj q'
      rcases eq_or_ne q' q with rfl | hq
      · simp only [Deques.insert, update_self, hl.mem_iff, List.mem_cons, not_or] at hj'
        exact ⟨hj'.2, fun _ => hj'.1⟩
      · simp only [Deques.insert, update_of_ne hq] at hj'
        exact ⟨hj', fun h => absurd h hq⟩
    have hd : d.IsFree j := fun q' => (hfree q').1
    rw [(hframe (.item j) (by simpa using (hfree q).2 rfl) (item_not_mem hd)).2]
    exact hun j hd

variable [DecidableEq I]

theorem Represents.refused (hr : s.Represents d) (h : ¬ d.Accepts q i) :
    s.enqueue q i = some (s, .nok) ∧ s.requeue q i = some (s, .nok) := by
  unfold enqueue requeue
  by_cases hroom : s.uCount q < s.uLimit q
  · have hlinked : (s.pNext (.item i)).isSome = true := by
      refine Option.isSome_iff_ne_none.mpr (linked_of_mem hr fun hfree => h ⟨?_, hfree⟩)
      rwa [← hr.count, ← hr.limit]
    simp only [if_pos hroom, if_pos hlinked, and_self]
  · simp only [if_neg hroom, and_self]

/-- **An insertion that the deques take**, of an item that has not been taken out before, or in a
build with `TI_DBG`. -/
theorem Inv.accepted (hI : Inv tiDbg s d u) (h : d.Accepts q i) (hu : tiDbg = true ∨ i ∉ u) :
    (∃ s', s.enqueue q i = some (s', .ok) ∧
      Inv tiDbg s' (Deques.insert h (d.contents q ++ [i]) List.perm_append_comm) u) ∧
    ∃ s', s.requeue q i = some (s', .ok) ∧
      Inv tiDbg s' (Deques.insert h (i :: d.contents q) (List.Perm.refl _)) u := by
  have hr := hI.represents
  have hnone : (s.pNext (.item i)).isSome = false := by
    rw [(hI.unlinked i h.2).mpr hu]
    rfl
  have hroom : s.uCount q < s.uLimit q := by
    rw [hr.count, hr.limit]
    exact h.1
  have hnot : (.item i : Node Q I) ∉ .head q :: (d.contents q).map .item := item_not_mem h.2
  constructor
  · obtain ⟨c, hc, hb, -⟩ := (hr.ring q).exists_bwd
    refine ⟨_, ?_, hI.insert (t := (s.insertNode (.item i) (.head q) c).setCount q
      (s.uCount q + 1)) h _ ?_ ?_ rfl rfl⟩
    · rw [enqueue, if_pos hroom, hnone, addToHead, hb]
      rfl
    · rw [List.map_append]
      exact (hr.ring q).pushBack hnot hb
    · intro x hx hx'
      have hxc : x ≠ c := fun h => hx' (h ▸ hc)
      have hxh : x ≠ .head q := fun h => hx' (h ▸ List.mem_cons_self)
      exact ⟨(update_of_ne hx ..).trans (update_of_ne hxc ..),
        (update_of_ne hxh ..).trans (update_of_ne hx ..)⟩
  · obtain ⟨c, hc, hf, -⟩ := (hr.ring q).exists_fwd
    refine ⟨_, ?_, hI.insert (t := (s.insertNode (.item i) c (.head q)).setCount q
      (s.uCount q + 1)) h _ ?_ ?_ rfl rfl⟩
    · rw [requeue, if_pos hroom, hnone, addToTail, hf]
      rfl
    · exact (hr.ring q).pushFront hnot hf
    · intro x hx hx'
      have hxc : x ≠ c := fun h => hx' (h ▸ hc)
      have hxh : x ≠ .head q := fun h => hx' (h ▸ List.mem_cons_self)
      exact ⟨(update_of_ne hx ..).trans (update_of_ne hxh ..),
        (update_of_ne hxc ..).trans (update_of_ne hx ..)⟩

theorem Inv.reinserted (hI : Inv false s d u) (h : d.Accepts q i) (hu : i ∈ u) :
    s.enqueue q i = some (s, .nok) ∧ s.requeue q i = some (s, .nok) := by
  have hlinked : (s.pNext (.item i)).isSome = true := by
    refine Option.isSome_iff_ne_none.mpr fun hnone => ?_
    rcases (hI.unlinked i h.2).mp hnone with hdbg | hnot
    · exact absurd hdbg Bool.false_ne_true
    · exact hnot hu
  unfold enqueue requeue
  simp only [if_pos hlinked, ite_self, and_self]

end Insertion

/-! ## Taking out -/

section Removal

variable [DecidableEq Q] [DecidableEq I]

/-- The items that have been taken out, with that of a result. -/
def taken (u : Set I) : Result I → Set I
  | .item (some i) => Set.insert i u
  | _ => u

omit [DecidableEq I] in
theorem remove_of_nil (h : d.contents q = []) : d.remove q = d := by
  have hsame : update d.contents q (d.contents q).tail = d.contents := by
    rw [h, List.tail_nil, ← h, update_eq_self]
  cases d
  simpa only [Deques.remove, Deques.mk.injEq, true_and] using hsame

theorem Inv.dequeue (hI : Inv tiDbg s d u) (q : Q) :
    ∃ s', s.dequeue tiDbg q = some (s', (d.contents q).head?) ∧
      Inv tiDbg s' (d.remove q) (taken u (.item (d.contents q).head?)) := by
  obtain ⟨⟨hr, hc, hlim⟩, hun⟩ := id hI
  cases hm : d.contents q with
  | nil =>
    refine ⟨s, ?_, ?_⟩
    · rw [Sys.dequeue, hc q, hm]
      rfl
    · rw [remove_of_nil hm]
      exact hI
  | cons i m =>
    have hring := hr q
    rw [hm, List.map_cons] at hring
    have hnodup := hring.nodup
    -- the links that are followed: from the head to the item, and on to its neighbours
    obtain ⟨b, hf, hfb, hb, hbh⟩ : ∃ b, s.pPrev (.head q) = some (.item i) ∧
        s.pPrev (.item i) = some b ∧ s.pNext (.item i) = some (.head q) ∧
        b ∈ .head q :: m.map Node.item := by
      cases hring.segment with
      | cons hf hb hrest =>
        obtain ⟨b, hmem, hfb, -⟩ := hrest.exists_fwd
        refine ⟨b, hf, hfb, hb, ?_⟩
        simpa [or_comm] using hmem
    have hpop := hring.popFront hfb
    have hib : (.item i : Node Q I) ∉ .head q :: m.map Node.item := by
      simp only [List.nodup_cons, List.mem_cons, not_or] at hnodup ⊢
      exact ⟨fun h => hnodup.1.1 h.symm, hnodup.2.1⟩
    have hne : b ≠ .item i := by
      rintro rfl
      exact hib hbh
    obtain ⟨s₁, hs₁⟩ : ∃ s₁, s₁ = (s.removeNode b (.head q)).setCount q (s.uCount q - 1) := ⟨_, rfl⟩
    have hfwd : s₁.pPrev = update s.pPrev (.head q) (some b) := by rw [hs₁]; rfl
    have hbwd : s₁.pNext = update s.pNext b (some (.head q)) := by rw [hs₁]; rfl
    refine ⟨if tiDbg then s₁.setNext (.item i) none else s₁, ?_, ?_⟩
    · have hcount : s.uCount q ≠ 0 := by
        rw [hc q, hm]
        exact Nat.succ_ne_zero _
      rw [Sys.dequeue, if_pos hcount, hs₁]
      simp only [hf, Option.bind_eq_bind, Option.bind_some, delFromTail, hfb, hb]
      rfl
    obtain ⟨s', hs'⟩ : ∃ s', s' = if tiDbg then s₁.setNext (.item i) none else s₁ := ⟨_, rfl⟩
    have hprev : s'.pPrev = s₁.pPrev := by
      rw [hs']
      split <;> rfl
    have hnext : ∀ x, x ≠ .item i → s'.pNext x = s₁.pNext x := by
      intro x hx
      rw [hs']
      split
      · exact update_of_ne hx ..
      · rfl
    have hitem : s'.pNext (.item i) = none ↔ tiDbg = true := by
      rw [hs']
      split
      next hdbg => exact iff_of_true (update_self ..) hdbg
      next hdbg =>
        rw [hbwd, update_of_ne (Ne.symm hne), hb]
        exact iff_of_false nofun hdbg
    have hcount : s'.uCount = update s.uCount q (s.uCount q - 1) := by
      rw [hs', hs₁]
      split <;> rfl
    rw [← hs']
    refine ⟨⟨fun q' => ?_, fun q' => ?_, ?_⟩, fun j hj => ?_⟩
    · rcases eq_or_ne q' q with rfl | hq
      · have hcongr : Circular s'.pPrev s'.pNext (.head q') (m.map .item) := by
          refine hpop.congr (fun x _ => ?_) fun x hx => ?_
          · rw [hprev, hfwd]
          · rw [hnext x fun h => hib (h ▸ hx), hbwd]
        simpa [Deques.remove, hm] using hcongr
      · have hsame : ∀ x ∈ .head q' :: (d.contents q').map .item,
            s'.pPrev x = s.pPrev x ∧ s'.pNext x = s.pNext x := by
          intro x hx
          have hout : x ∉ .head q :: (d.contents q).map .item := fun hx' => hq (node_apart hx hx')
          rw [hm, List.map_cons] at hout
          have hxh : x ≠ .head q := fun h => hout (h ▸ List.mem_cons_self)
          have hxi : x ≠ .item i := fun h => hout (h ▸ List.mem_cons_of_mem _ List.mem_cons_self)
          have hxb : x ≠ b := by
            rintro rfl
            refine hout ?_
            rcases List.mem_cons.mp hbh with h | h
            · exact absurd h hxh
            · exact List.mem_cons_of_mem _ (List.mem_cons_of_mem _ h)
          rw [hnext x hxi, hprev, hfwd, hbwd, update_of_ne hxh, update_of_ne hxb]
          exact ⟨rfl, rfl⟩
        have hcongr := (hr q').congr (fun x hx => (hsame x hx).1) fun x hx => (hsame x hx).2
        simpa [Deques.remove, update_of_ne hq] using hcongr
    · rw [hcount]
      rcases eq_or_ne q' q with rfl | hq
      · simp [Deques.remove, hc, hm]
      · simp [Deques.remove, update_of_ne hq, hc]
    · rw [hs', hs₁]
      split <;> exact hlim
    · have hj' : ∀ q', q' ≠ q → j ∉ d.contents q' := by
        intro q' hq
        have hjq := hj q'
        simpa only [Deques.remove, update_of_ne hq] using hjq
      have hjm : j ∉ m := by
        have hjq := hj q
        simpa only [Deques.remove, update_self, hm, List.tail_cons] using hjq
      rw [List.head?_cons]
      show _ ↔ tiDbg = true ∨ j ∉ Set.insert i u
      rcases eq_or_ne j i with rfl | hji
      · rw [hitem]
        exact ⟨Or.inl, fun h => h.resolve_right fun hnot => hnot (Set.mem_insert j u)⟩
      · have hfree : d.IsFree j := by
          intro q'
          rcases eq_or_ne q' q with rfl | hq
          · rw [hm]
            exact List.not_mem_cons_of_ne_of_not_mem hji hjm
          · exact hj' q' hq
        have hjb : (.item j : Node Q I) ≠ b := by
          rintro rfl
          simp [hjm] at hbh
        rw [hnext (.item j) (by simpa using hji), hbwd, update_of_ne hjb, hun j hfree]
        have hmem : j ∈ Set.insert i u ↔ j ∈ u := Set.mem_insert_iff.trans (or_iff_right hji)
        rw [hmem]

end Removal

end Sys

/-! ## Runs -/

section Runs

variable [DecidableEq Q] [DecidableEq I] {s : Sys Q I} {d : Deques Q I} {u : Set I} {tiDbg : Bool}

/-- **A run agrees with the deques**: each call returns the same, and the rings hold the lists after
it. -/
def Agrees (tiDbg : Bool) : Sys Q I → Deques Q I → List (Op Q I) → Prop
  | _, _, [] => True
  | s, d, op :: ops => ∃ s', s.step tiDbg op = some (s', (d.step op).2) ∧
      s'.Represents (d.step op).1 ∧ Agrees tiDbg s' (d.step op).1 ops

/-- The call inserts an item of `u` that the deques take. -/
def Reinserts (d : Deques Q I) (u : Set I) : Op Q I → Prop
  | .enqueue q i | .requeue q i => d.Accepts q i ∧ i ∈ u
  | .dequeue _ => False

/-- No item that has been taken out is inserted again where the deques take it. -/
def Fresh : Deques Q I → Set I → List (Op Q I) → Prop
  | _, _, [] => True
  | d, u, op :: ops => ¬ Reinserts d u op ∧ Fresh (d.step op).1 (Sys.taken u (d.step op).2) ops

/-- **One call**: it does to the rings what the deques do to the lists. -/
theorem Sys.Inv.step (hI : s.Inv tiDbg d u) {op : Op Q I}
    (h : tiDbg = true ∨ ¬ Reinserts d u op) :
    ∃ s', s.step tiDbg op = some (s', (d.step op).2) ∧
      s'.Inv tiDbg (d.step op).1 (Sys.taken u (d.step op).2) := by
  cases op with
  | enqueue q i =>
    by_cases hacc : d.Accepts q i
    · obtain ⟨⟨s', hs', hI'⟩, -⟩ := hI.accepted hacc (h.imp id fun hnot hu => hnot ⟨hacc, hu⟩)
      rw [Deques.step, dif_pos hacc]
      exact ⟨s', by rw [Sys.step, hs']; rfl, hI'⟩
    · rw [Deques.step, dif_neg hacc]
      exact ⟨s, by rw [Sys.step, (hI.represents.refused hacc).1]; rfl, hI⟩
  | requeue q i =>
    by_cases hacc : d.Accepts q i
    · obtain ⟨-, s', hs', hI'⟩ := hI.accepted hacc (h.imp id fun hnot hu => hnot ⟨hacc, hu⟩)
      rw [Deques.step, dif_pos hacc]
      exact ⟨s', by rw [Sys.step, hs']; rfl, hI'⟩
    · rw [Deques.step, dif_neg hacc]
      exact ⟨s, by rw [Sys.step, (hI.represents.refused hacc).2]; rfl, hI⟩
  | dequeue q =>
    obtain ⟨s', hs', hI'⟩ := hI.dequeue q
    exact ⟨s', by rw [Sys.step, hs']; rfl, hI'⟩

theorem Sys.Inv.step_refused (hI : s.Inv false d u) {op : Op Q I} (h : Reinserts d u op) :
    s.step false op = some (s, .status .nok) ∧ (d.step op).2 = .status .ok := by
  cases op with
  | enqueue q i =>
    refine ⟨by rw [Sys.step, (hI.reinserted h.1 h.2).1]; rfl, ?_⟩
    rw [Deques.step, dif_pos h.1]
  | requeue q i =>
    refine ⟨by rw [Sys.step, (hI.reinserted h.1 h.2).2]; rfl, ?_⟩
    rw [Deques.step, dif_pos h.1]
  | dequeue q => exact absurd h not_false

theorem Sys.Inv.agrees_iff (hI : s.Inv tiDbg d u) (ops : List (Op Q I)) :
    Agrees tiDbg s d ops ↔ tiDbg = true ∨ Fresh d u ops := by
  induction ops generalizing s d u with
  | nil => exact iff_of_true trivial (Or.inr trivial)
  | cons op ops ih =>
    by_cases h : tiDbg = true ∨ ¬ Reinserts d u op
    · obtain ⟨s', hs', hI'⟩ := hI.step h
      have hagrees : Agrees tiDbg s d (op :: ops) ↔ Agrees tiDbg s' (d.step op).1 ops := by
        constructor
        · rintro ⟨t, ht, -, hrest⟩
          obtain ⟨rfl, -⟩ := Prod.mk.inj (Option.some.inj (hs'.symm.trans ht))
          exact hrest
        · exact fun hrest => ⟨s', hs', hI'.represents, hrest⟩
      rw [hagrees, ih hI']
      constructor
      · rintro (hdbg | hfresh)
        · exact Or.inl hdbg
        · exact h.imp id fun hnot => ⟨hnot, hfresh⟩
      · rintro (hdbg | hfresh)
        · exact Or.inl hdbg
        · exact Or.inr hfresh.2
    · obtain ⟨hdbg, hre⟩ := not_or.mp h
      rw [not_not] at hre
      obtain rfl := eq_false_of_ne_true hdbg
      obtain ⟨hnok, hok⟩ := hI.step_refused hre
      refine iff_of_false ?_ ?_
      · rintro ⟨t, ht, -, -⟩
        rw [hnok, hok] at ht
        cases ht
      · rintro (hdbg | hfresh)
        · exact absurd hdbg Bool.false_ne_true
        · exact hfresh.1 hre

/-- **The queues are bounded deques** exactly if the build defines `TI_DBG`, or no item that has
been taken out is inserted again where there is room for it. -/
theorem queue_refines (tiDbg : Bool) (limit : Q → ℕ) (ops : List (Op Q I)) :
    Agrees tiDbg (Sys.init limit) (Deques.empty limit) ops ↔
      tiDbg = true ∨ Fresh (Deques.empty limit) ∅ ops :=
  (Sys.init_inv limit).agrees_iff ops

end Runs

/-- Without `TI_DBG` an item that has been queued and taken out is refused by an empty queue. -/
theorem reinsertion_refused :
    ¬ ∀ (tiDbg : Bool) (limit : ℕ → ℕ) (ops : List (Op ℕ ℕ)),
      Agrees tiDbg (Sys.init limit) (Deques.empty limit) ops := by
  intro h
  obtain ⟨s₁, h₁, -, s₂, h₂, -, s₃, h₃, -⟩ :=
    h false (fun _ => 1) [.enqueue 0 0, .dequeue 0, .enqueue 0 0]
  have hacc : (Deques.empty fun _ : ℕ => 1 : Deques ℕ ℕ).Accepts 0 0 :=
    ⟨Nat.one_pos, fun _ => List.not_mem_nil⟩
  have hd₁ : ((Deques.empty fun _ : ℕ => 1 : Deques ℕ ℕ).step (.enqueue 0 0)).1 =
      Deques.insert hacc [0] (List.Perm.refl _) := by
    rw [Deques.step, dif_pos hacc]
    rfl
  rw [hd₁] at h₃
  have hacc' : ((Deques.insert hacc [0] (List.Perm.refl _)).remove 0).Accepts 0 0 := by
    refine ⟨Nat.one_pos, fun q hq => ?_⟩
    rcases eq_or_ne q 0 with rfl | hne
    · cases hq
    · simp [Deques.remove, Deques.insert, Deques.empty] at hq
  obtain ⟨rfl, -⟩ := Prod.mk.inj (Option.some.inj h₁)
  obtain ⟨rfl, -⟩ := Prod.mk.inj (Option.some.inj h₂)
  obtain ⟨-, hok⟩ := Prod.mk.inj (Option.some.inj h₃)
  rw [show ((Deques.insert hacc [0] (List.Perm.refl _)).step (.dequeue 0)).1 =
    (Deques.insert hacc [0] (List.Perm.refl _)).remove 0 from rfl, Deques.step,
    dif_pos hacc'] at hok
  cases hok

end ArchosGpl.Wlan.Queue
