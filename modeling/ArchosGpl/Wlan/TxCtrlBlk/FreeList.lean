import ArchosGpl.Lib.Linked
import ArchosGpl.Lib.Machine
import Mathlib.Algebra.Group.Nat.Defs
import Mathlib.Tactic.ByContra

/-!
# The free list of control blocks

* `Sys.Listed`: **the invariant**, which ties the links to the entries handed out.
* `Sys.free_list_right_iff`: **a run keeps the list and answers rightly exactly if its calls are
  careful**: in the debug build none frees the last entry of the table; in the other, none allocates
  from an empty list or frees an entry that is not in use.
-/

open Function (update update_of_ne update_self)

namespace ArchosGpl.Wlan.TxCtrlBlk

open Lib

/-!
## Model of the control-block table (`TWD/Data_Service/txCtrlBlk.c`)

The free entries are linked through the table; entry 0 is never allocated and points to the first
one. A pointer to an entry is its index. `tiDbg` says whether the module is compiled with `TI_DBG`
(`stad/build/linux/common.inc` defines it in both of its branches). The debug build leaves the last
free entry in the list: its next pointer is null, which is also the mark of an entry in use.

The handle is valid. The fields that the module neither reads nor writes are left out.
-/

def ctrlBlkEntriesNum : ℕ := 160

def txnLowPriority : ℕ := 1

def txnFuncIdWlan : ℕ := 2

def txnDirectionWrite : ℕ := 0

def txnFixedAddr : ℕ := 1

/-- The fields of `TTxCtrlBlk` that the module writes. -/
structure TTxCtrlBlk where
  uTxnParams : BitVec 32
  descID : ℕ
  aid : ℕ
  reserved : ℕ
  uFlags : ℕ
  uHeadroomSize : ℕ
  pNextFreeEntry : Option ℕ

/-- `TTxCtrlBlkObj`; the debug build counts the entries in use. -/
structure TTxCtrlBlkObj where
  aTxCtrlBlkTbl : ℕ → TTxCtrlBlk
  uNumUsedEntries : ℕ

def txnParamSet (uTxnParams : BitVec 32) (uPriority uId uDirection uAddrMode : ℕ) : BitVec 32 :=
  let p := uTxnParams &&& ~~~0x00000003#32 ||| BitVec.ofNat 32 uPriority
  let p := p &&& ~~~0x0000000C#32 ||| BitVec.ofNat 32 uId <<< 2
  let p := p &&& ~~~0x00000010#32 ||| BitVec.ofNat 32 uDirection <<< 4
  p &&& ~~~0x00000020#32 ||| BitVec.ofNat 32 uAddrMode <<< 5

namespace TTxCtrlBlkObj

/-- After `txCtrlBlk_Create`: all fields zero. -/
def create : TTxCtrlBlkObj := ⟨fun _ => ⟨0, 0, 0, 0, 0, 0, none⟩, 0⟩

/-- The body of the loop of `txCtrlBlk_Init`. -/
def initEntry (o : TTxCtrlBlkObj) (entry : ℕ) : TTxCtrlBlkObj :=
  { o with
    aTxCtrlBlkTbl := update o.aTxCtrlBlkTbl entry
      { o.aTxCtrlBlkTbl entry with
        descID := entry
        pNextFreeEntry := some (entry + 1)
        aid := 1
        reserved := 0
        uTxnParams := txnParamSet (o.aTxCtrlBlkTbl entry).uTxnParams txnLowPriority txnFuncIdWlan
          txnDirectionWrite txnFixedAddr } }

/-- `pCurrentEntry->pNextFreeEntry = p`. -/
def setNext (o : TTxCtrlBlkObj) (entry : ℕ) (p : Option ℕ) : TTxCtrlBlkObj :=
  { o with
    aTxCtrlBlkTbl := update o.aTxCtrlBlkTbl entry
      { o.aTxCtrlBlkTbl entry with pNextFreeEntry := p } }

/-- The next free entry that an entry points to. -/
def next (o : TTxCtrlBlkObj) (entry : ℕ) : Option ℕ := (o.aTxCtrlBlkTbl entry).pNextFreeEntry

/-- `txCtrlBlk_Init`. -/
def init (o : TTxCtrlBlkObj) : TTxCtrlBlkObj :=
  { ((List.range ctrlBlkEntriesNum).foldl initEntry o).setNext (ctrlBlkEntriesNum - 1) none with
    uNumUsedEntries := 0 }

/-- The new entry is not free, and its packet parameters are cleared. -/
def clearEntry (o : TTxCtrlBlkObj) (entry : ℕ) : TTxCtrlBlkObj :=
  { o with
    aTxCtrlBlkTbl := update o.aTxCtrlBlkTbl entry
      { o.aTxCtrlBlkTbl entry with pNextFreeEntry := none, uFlags := 0, uHeadroomSize := 0 } }

/-- `txCtrlBlk_Alloc`: the entry, or `NULL`. Without a first free entry it dereferences `NULL`. -/
def alloc (tiDbg : Bool) (o : TTxCtrlBlkObj) : Option (TTxCtrlBlkObj × Option ℕ) :=
  match o.next 0 with
  | none => none
  | some pCurrentEntry =>
    if tiDbg = true ∧ o.next pCurrentEntry = none then some (o, none)
    else
      let o := if tiDbg then { o with uNumUsedEntries := (o.uNumUsedEntries + 1) % 2 ^ 32 } else o
      let o := o.setNext 0 (o.next pCurrentEntry)
      some (o.clearEntry pCurrentEntry, some pCurrentEntry)

/-- `txCtrlBlk_Free`. -/
def free (tiDbg : Bool) (o : TTxCtrlBlkObj) (pCurrentEntry : ℕ) : TTxCtrlBlkObj :=
  if tiDbg = true ∧ o.next pCurrentEntry ≠ none then o
  else
    let o :=
      if tiDbg then { o with uNumUsedEntries := (o.uNumUsedEntries + 2 ^ 32 - 1) % 2 ^ 32 } else o
    let o := o.setNext pCurrentEntry (o.next 0)
    o.setNext 0 (some pCurrentEntry)

end TTxCtrlBlkObj

/-! ### Runs -/

/-- A call to the module; an entry is one of the table. -/
inductive Call
  | alloc
  | free (pCurrentEntry : Fin ctrlBlkEntriesNum)

/-- The module, with the entries handed out and not freed since. -/
structure Sys where
  obj : TTxCtrlBlkObj
  held : List ℕ

namespace Sys

def init : Sys := ⟨.init .create, []⟩

/-- A call; none where it dereferences `NULL`. -/
def step (tiDbg : Bool) (s : Sys) : Call → Option Sys
  | .alloc => (s.obj.alloc tiDbg).map fun (o, p) => ⟨o, p.toList ++ s.held⟩
  | .free e => some ⟨s.obj.free tiDbg e, s.held.filter (· ≠ e)⟩

end Sys

def lastEntry : ℕ := ctrlBlkEntriesNum - 1

/-- The entries that may be handed out. -/
def Usable (tiDbg : Bool) (e : ℕ) : Prop := 0 < e ∧ e < if tiDbg then lastEntry else ctrlBlkEntriesNum

variable {e : ℕ}

theorem Usable.ne_last (h : Usable true e) : e ≠ lastEntry := Nat.ne_of_lt h.2

theorem Usable.lt {tiDbg : Bool} (h : Usable tiDbg e) : e < ctrlBlkEntriesNum := by
  obtain ⟨-, h⟩ := h
  cases tiDbg with
  | true => exact Nat.lt_trans h (by decide)
  | false => exact h

theorem usable_of_ne_last {tiDbg : Bool} (h0 : e ≠ 0) (hlt : e < ctrlBlkEntriesNum)
    (hlast : tiDbg = true → e ≠ lastEntry) : Usable tiDbg e := by
  refine ⟨Nat.pos_of_ne_zero h0, ?_⟩
  cases tiDbg with
  | true =>
    have hne := hlast rfl
    simp only [lastEntry, ctrlBlkEntriesNum, if_true] at *
    omega
  | false => exact hlt

/-! ## The links -/

namespace TTxCtrlBlkObj

variable (o : TTxCtrlBlkObj)

theorem next_setNext (e : ℕ) (p : Option ℕ) : (o.setNext e p).next = update o.next e p := by
  funext x
  by_cases hx : x = e
  · subst hx
    simp [next, setNext]
  · simp [next, setNext, hx]

theorem next_clearEntry (e : ℕ) : (o.clearEntry e).next = update o.next e none := by
  funext x
  by_cases hx : x = e
  · subst hx
    simp [next, clearEntry]
  · simp [next, clearEntry, hx]

theorem next_initEntry (e : ℕ) : (o.initEntry e).next = update o.next e (some (e + 1)) := by
  funext x
  by_cases hx : x = e
  · subst hx
    simp [next, initEntry]
  · simp [next, initEntry, hx]

theorem next_initLoop (n e : ℕ) :
    ((List.range n).foldl initEntry o).next e = if e < n then some (e + 1) else o.next e := by
  induction n with
  | zero => rfl
  | succ n ih =>
    rw [List.range_succ, List.foldl_append, List.foldl_cons, List.foldl_nil, next_initEntry]
    by_cases he : e = n
    · subst he
      simp
    · have hlt : e < n + 1 ↔ e < n := by omega
      simp only [update_of_ne he, ih, hlt]

theorem next_init {e : ℕ} (he : e < ctrlBlkEntriesNum) :
    o.init.next e = if e = lastEntry then none else some (e + 1) := by
  have hnext : o.init.next = update
      ((List.range ctrlBlkEntriesNum).foldl initEntry o).next lastEntry none := next_setNext _ _ _
  rw [hnext]
  by_cases hl : e = lastEntry
  · rw [hl, update_self, if_pos rfl]
  · rw [update_of_ne hl, next_initLoop, if_pos he, if_neg hl]

theorem next_count (tiDbg : Bool) (n : ℕ) :
    (if tiDbg then { o with uNumUsedEntries := n } else o).next = o.next := by
  cases tiDbg <;> rfl

variable {o}

theorem alloc_eq {tiDbg : Bool} {a : ℕ} (h0 : o.next 0 = some a)
    (hmore : ¬ (tiDbg = true ∧ o.next a = none)) : ∃ t, o.alloc tiDbg = some (t, some a) ∧
      t.next = update (update o.next 0 (o.next a)) a none := by
  unfold alloc
  rw [h0]
  simp only
  rw [if_neg hmore]
  refine ⟨_, rfl, ?_⟩
  rw [next_clearEntry, next_setNext, next_count]

theorem next_free {tiDbg : Bool} {e : ℕ} (hfree : ¬ (tiDbg = true ∧ o.next e ≠ none)) :
    (o.free tiDbg e).next = update (update o.next e (o.next 0)) 0 (some e) := by
  unfold free
  rw [if_neg hfree]
  simp only
  rw [next_setNext, next_setNext, next_count]

end TTxCtrlBlkObj

namespace Sys

/-! ## The invariant -/

variable {tiDbg : Bool} {s t : Sys} {l : List ℕ}

/-- **The invariant**: the list is that of the entries not handed out, and in the debug build the
last entry stays at its end. -/
structure Listed (tiDbg : Bool) (s : Sys) (l : List ℕ) : Prop where
  linked : Linked s.obj.next (s.obj.next 0) l
  mem : ∀ e, e ∈ l ↔ Usable tiDbg e ∧ e ∉ s.held ∨ tiDbg = true ∧ e = lastEntry
  held : ∀ e ∈ s.held, Usable tiDbg e ∧ s.obj.next e = none
  last : tiDbg = true → ∃ l', l = l' ++ [lastEntry]

/-- What the free list is to be: it has an end, and has no entry that is handed out. -/
def Sound (s : Sys) : Prop :=
  ∃ l, Linked s.obj.next (s.obj.next 0) l ∧
    ∀ e ∈ l, 0 < e ∧ e < ctrlBlkEntriesNum ∧ e ∉ s.held

/-- No entry is left to be handed out. -/
def NoneLeft (tiDbg : Bool) (s : Sys) : Prop := ∀ e, Usable tiDbg e → e ∈ s.held

/-- What a call is to do. -/
def Right (tiDbg : Bool) (s : Sys) (c : Call) : Prop :=
  (∃ t, s.step tiDbg c = some t ∧ t.Sound) ∧
    match c with
    | .alloc =>
      (s.NoneLeft tiDbg → s.obj.alloc tiDbg = some (s.obj, none)) ∧
        (¬ s.NoneLeft tiDbg → ∃ o e, s.obj.alloc tiDbg = some (o, some e) ∧ e ∉ s.held)
    | .free e => ↑e ∉ s.held → s.obj.free tiDbg e = s.obj

/-- A call that the list can bear. -/
def Careful (tiDbg : Bool) (s : Sys) : Call → Prop
  | .alloc => tiDbg = true ∨ s.obj.next 0 ≠ none
  | .free e => ↑e ∈ s.held ∨ tiDbg = true ∧ ↑e ≠ lastEntry

namespace Listed

variable {e : ℕ}

theorem pos (h : s.Listed tiDbg l) (he : e ∈ l) : 0 < e := by
  rcases (h.mem e).mp he with ⟨hu, -⟩ | ⟨-, rfl⟩
  · exact hu.1
  · decide

theorem lt (h : s.Listed tiDbg l) (he : e ∈ l) : e < ctrlBlkEntriesNum := by
  rcases (h.mem e).mp he with ⟨hu, -⟩ | ⟨-, rfl⟩
  · exact hu.lt
  · decide

theorem notMem_held (h : s.Listed tiDbg l) (he : e ∈ l) : e ∉ s.held := by
  rcases (h.mem e).mp he with ⟨-, hn⟩ | ⟨rfl, rfl⟩
  · exact hn
  · exact fun hh => (h.held _ hh).1.ne_last rfl

theorem sound (h : s.Listed tiDbg l) : s.Sound :=
  ⟨l, h.linked, fun _ he => ⟨h.pos he, h.lt he, h.notMem_held he⟩⟩

theorem next_ne_none (h : s.Listed true l) (he : e ∈ l) (hlast : e ≠ lastEntry) :
    s.obj.next e ≠ none := by
  obtain ⟨l', rfl⟩ := h.last rfl
  exact fun hnone => hlast ((h.linked.next_eq_none_iff he).mp hnone)

/-! ## The calls -/

theorem noneLeft_of_single {a : ℕ} (h : s.Listed true [a]) : s.NoneLeft true := by
  intro e hu
  by_contra hn
  obtain ⟨l', hl⟩ := h.last rfl
  obtain rfl : e = a := List.mem_singleton.mp ((h.mem e).mpr (Or.inl ⟨hu, hn⟩))
  have hlast : lastEntry ∈ [e] := hl ▸ List.mem_append_right l' List.mem_cons_self
  exact hu.ne_last (List.mem_singleton.mp hlast).symm

/-- **An allocation from a list with a first entry** hands it out, unless it is the end of the list
in the debug build. -/
theorem alloc {a : ℕ} (h : s.Listed tiDbg (a :: l)) :
    (s.NoneLeft tiDbg ∧ s.obj.alloc tiDbg = some (s.obj, none)) ∨
      Usable tiDbg a ∧ a ∉ s.held ∧ ∃ o, s.obj.alloc tiDbg = some (o, some a) ∧
        Listed tiDbg ⟨o, a :: s.held⟩ l := by
  have ha : a ∈ a :: l := List.mem_cons_self
  obtain ⟨h0, hl⟩ := h.linked.tail
  by_cases hend : tiDbg = true ∧ s.obj.next a = none
  · obtain ⟨rfl, hnone⟩ := hend
    obtain rfl := hl.eq_nil_iff.mpr hnone
    refine Or.inl ⟨h.noneLeft_of_single, ?_⟩
    unfold TTxCtrlBlkObj.alloc
    rw [h0]
    exact if_pos ⟨rfl, hnone⟩
  right
  have hne : a ≠ 0 := Nat.ne_of_gt (h.pos ha)
  have hlast : tiDbg = true → a ≠ lastEntry := by
    rintro rfl rfl
    obtain ⟨l', hl'⟩ := h.last rfl
    have hiff := (hl' ▸ h.linked).next_eq_none_iff (hl' ▸ ha)
    exact hend ⟨rfl, hiff.mpr rfl⟩
  have hu : Usable tiDbg a := usable_of_ne_last hne (h.lt ha) hlast
  obtain ⟨o, he, hnext⟩ := TTxCtrlBlkObj.alloc_eq h0 hend
  refine ⟨hu, h.notMem_held ha, o, he, ?_⟩
  obtain ⟨hal, -⟩ := List.nodup_cons.mp h.linked.nodup
  have hkeep : ∀ e ∈ l, o.next e = s.obj.next e := by
    intro e hel
    have he0 : e ≠ 0 := Nat.ne_of_gt (h.pos (List.mem_cons_of_mem a hel))
    have hea : e ≠ a := fun hea => hal (hea ▸ hel)
    rw [hnext, update_of_ne hea, update_of_ne he0]
  have hfirst : o.next 0 = s.obj.next a := by
    rw [hnext, update_of_ne hne.symm, update_self]
  refine ⟨?_, fun e => ?_, fun e hh => ?_, fun hdbg => ?_⟩
  · show Linked o.next (o.next 0) l
    rw [hfirst]
    exact hl.congr hkeep
  · have hmem := h.mem e
    rw [List.mem_cons] at hmem
    rw [List.mem_cons, not_or]
    constructor
    · intro hel
      have hea : e ≠ a := fun hea => hal (hea ▸ hel)
      exact (hmem.mp (Or.inr hel)).imp_left fun hx => ⟨hx.1, hea, hx.2⟩
    · rintro (⟨hue, hea, hx⟩ | ⟨hdbg, rfl⟩)
      · exact (hmem.mpr (Or.inl ⟨hue, hx⟩)).resolve_left hea
      · exact (hmem.mpr (Or.inr ⟨hdbg, rfl⟩)).resolve_left fun hea => hlast hdbg hea.symm
  · show Usable tiDbg e ∧ o.next e = none
    rcases List.mem_cons.mp hh with rfl | hh
    · exact ⟨hu, by rw [hnext, update_self]⟩
    · obtain ⟨hue, hn⟩ := h.held e hh
      refine ⟨hue, ?_⟩
      by_cases hea : e = a
      · rw [hnext, hea, update_self]
      · rw [hnext, update_of_ne hea, update_of_ne (Nat.ne_of_gt hue.1), hn]
  · obtain ⟨l', hl'⟩ := h.last hdbg
    cases l' with
    | nil => exact absurd (List.cons.inj hl').1 (hlast hdbg)
    | cons b l' => exact ⟨l', (List.cons.inj hl').2⟩

theorem free (h : s.Listed tiDbg l) (he : e ∈ s.held) :
    Listed tiDbg ⟨s.obj.free tiDbg e, s.held.filter (· ≠ e)⟩ (e :: l) := by
  obtain ⟨hu, hnone⟩ := h.held e he
  have hfree : ¬ (tiDbg = true ∧ s.obj.next e ≠ none) := fun hx => hx.2 hnone
  have hnext := TTxCtrlBlkObj.next_free hfree
  have he0 : e ≠ 0 := Nat.ne_of_gt hu.1
  have hel : e ∉ l := fun hel => h.notMem_held hel he
  refine ⟨?_, fun x => ?_, fun x hx => ?_, fun hdbg => ?_⟩
  · show Linked (s.obj.free tiDbg e).next ((s.obj.free tiDbg e).next 0) (e :: l)
    rw [hnext, update_self]
    refine .cons ?_
    rw [update_of_ne he0, update_self]
    refine h.linked.congr fun x hx => ?_
    have hx0 : x ≠ 0 := Nat.ne_of_gt (h.pos hx)
    have hxe : x ≠ e := fun hxe => hel (hxe ▸ hx)
    rw [update_of_ne hx0, update_of_ne hxe]
  · rw [List.mem_cons, h.mem x]
    simp only [List.mem_filter, decide_eq_true_eq, not_and, not_not]
    constructor
    · rintro (rfl | ⟨hux, hx⟩ | hx)
      · exact Or.inl ⟨hu, fun _ => rfl⟩
      · exact Or.inl ⟨hux, fun hh => absurd hh hx⟩
      · exact Or.inr hx
    · rintro (⟨hux, hx⟩ | hx)
      · by_cases hh : x ∈ s.held
        · exact Or.inl (hx hh)
        · exact Or.inr (Or.inl ⟨hux, hh⟩)
      · exact Or.inr (Or.inr hx)
  · obtain ⟨hx, hxe⟩ := List.mem_filter.mp hx
    obtain ⟨hux, hn⟩ := h.held x hx
    have hx0 : x ≠ 0 := Nat.ne_of_gt hux.1
    refine ⟨hux, ?_⟩
    show (s.obj.free tiDbg e).next x = none
    rw [hnext, update_of_ne hx0, update_of_ne (of_decide_eq_true hxe), hn]
  · obtain ⟨l', rfl⟩ := h.last hdbg
    exact ⟨e :: l', rfl⟩

/-- **The debug build ignores an entry that is not in use**, but for the last. -/
theorem free_ignored (h : s.Listed true l) (he : e ∉ s.held) (hlt : e < ctrlBlkEntriesNum)
    (hlast : e ≠ lastEntry) : s.obj.free true e = s.obj := by
  have hne : s.obj.next e ≠ none := by
    by_cases h0 : e = 0
    · obtain ⟨l', rfl⟩ := h.last rfl
      subst h0
      intro hnone
      exact List.append_ne_nil_of_right_ne_nil l' (by simp) (h.linked.eq_nil_iff.mpr hnone)
    · exact h.next_ne_none
        ((h.mem e).mpr (Or.inl ⟨usable_of_ne_last h0 hlt fun _ => hlast, he⟩)) hlast
  exact if_pos ⟨rfl, hne⟩

theorem free_ne (h : s.Listed tiDbg l)
    (hfree : ¬ (tiDbg = true ∧ s.obj.next e ≠ none)) : s.obj.free tiDbg e ≠ s.obj := by
  intro hsame
  have hnext := TTxCtrlBlkObj.next_free hfree
  rw [hsame] at hnext
  have h0 : s.obj.next 0 = some e := by
    rw [hnext, update_self]
  have he : e ∈ l := by
    cases l with
    | nil => exact absurd ((h.linked.eq_nil_iff.mp rfl).symm.trans h0) (by simp)
    | cons a l =>
      obtain ⟨ha, -⟩ := h.linked.tail
      cases ha.symm.trans h0
      exact List.mem_cons_self
  refine h.linked.ne_self he ?_
  rw [hnext, update_of_ne (Nat.ne_of_gt (h.pos he)), update_self, h0]

end Listed

/-! ## Runs -/

theorem Listed.careful {c : Call} (h : s.Listed tiDbg l) (hc : s.Careful tiDbg c) :
    s.Right tiDbg c ∧ ∀ t, s.step tiDbg c = some t → ∃ l', t.Listed tiDbg l' := by
  cases c with
  | alloc =>
    cases l with
    | nil =>
      have hnone : s.obj.next 0 = none := h.linked.eq_nil_iff.mp rfl
      refine absurd hnone (hc.resolve_left ?_)
      rintro rfl
      obtain ⟨l', hl⟩ := h.last rfl
      exact List.append_ne_nil_of_right_ne_nil l' (by simp) hl.symm
    | cons a l =>
      rcases h.alloc with ⟨hnone, he⟩ | ⟨hu, hn, o, he, hl⟩
      · have hs : s.step tiDbg .alloc = some s := by
          rw [step, he]
          rfl
        refine ⟨⟨⟨s, hs, h.sound⟩, fun _ => he, fun hleft => absurd hnone hleft⟩, ?_⟩
        rintro t ht
        cases hs.symm.trans ht
        exact ⟨_, h⟩
      · have hs : s.step tiDbg .alloc = some ⟨o, a :: s.held⟩ := by
          rw [step, he]
          rfl
        refine ⟨⟨⟨_, hs, hl.sound⟩, fun hnone => absurd (hnone a hu) hn, fun _ => ⟨o, a, he, hn⟩⟩, ?_⟩
        rintro t ht
        cases hs.symm.trans ht
        exact ⟨_, hl⟩
  | free e =>
    by_cases hh : ↑e ∈ s.held
    · have hl := h.free hh
      refine ⟨⟨⟨_, rfl, hl.sound⟩, fun hn => absurd hh hn⟩, ?_⟩
      rintro t ht
      cases ht
      exact ⟨_, hl⟩
    · obtain ⟨rfl, hlast⟩ := hc.resolve_left hh
      have hsame := h.free_ignored hh e.isLt hlast
      have hheld : s.held.filter (· ≠ (e : ℕ)) = s.held :=
        List.filter_eq_self.mpr fun x hx => decide_eq_true fun hxe => hh (hxe ▸ hx)
      have hs : s.step true (.free e) = some s := by
        rw [step, hsame, hheld]
      refine ⟨⟨⟨s, hs, h.sound⟩, fun _ => hsame⟩, ?_⟩
      rintro t ht
      cases hs.symm.trans ht
      exact ⟨l, h⟩

theorem Listed.of_right {c : Call} (h : s.Listed tiDbg l) (hr : s.Right tiDbg c) :
    s.Careful tiDbg c := by
  cases c with
  | alloc =>
    obtain ⟨⟨t, ht, -⟩, -⟩ := hr
    refine Or.inr fun hnone => ?_
    rw [step, TTxCtrlBlkObj.alloc, hnone] at ht
    cases ht
  | free e =>
    by_contra hc
    obtain ⟨hh, hdbg⟩ := not_or.mp hc
    refine h.free_ne ?_ (hr.2 hh)
    rintro ⟨rfl, hne⟩
    obtain hlast : ↑e = lastEntry := by
      by_contra hlast
      exact hdbg ⟨rfl, hlast⟩
    obtain ⟨l', rfl⟩ := h.last rfl
    have hmem : ↑e ∈ l' ++ [lastEntry] := hlast ▸ List.mem_append_right l' List.mem_cons_self
    exact hne ((h.linked.next_eq_none_iff hmem).mpr hlast)

theorem linked_init (n : ℕ) (hn : n ≤ lastEntry) :
    Linked init.obj.next (some (lastEntry - n)) (List.range' (lastEntry - n) (n + 1)) := by
  induction n with
  | zero =>
    refine .cons ?_
    have hnext := TTxCtrlBlkObj.create.next_init (e := lastEntry) (by decide)
    rw [if_pos rfl] at hnext
    exact hnext ▸ .nil
  | succ n ih =>
    have hsucc : lastEntry - (n + 1) + 1 = lastEntry - n := by omega
    have hlt : lastEntry - (n + 1) < ctrlBlkEntriesNum :=
      Nat.lt_of_le_of_lt (Nat.sub_le _ _) (by decide)
    have hnext := TTxCtrlBlkObj.create.next_init hlt
    rw [if_neg (by omega), hsucc] at hnext
    rw [List.range'_succ, hsucc]
    exact .cons (hnext ▸ ih (Nat.le_of_succ_le hn))

theorem listed_init (tiDbg : Bool) : Listed tiDbg init (List.range' 1 lastEntry) := by
  have hlinked := linked_init (lastEntry - 1) (Nat.sub_le _ _)
  have hnext : init.obj.next 0 = some 1 :=
    (TTxCtrlBlkObj.create.next_init (e := 0) (by decide)).trans (if_neg (by decide))
  refine ⟨?_, fun e => ?_, fun e he => absurd he List.not_mem_nil, fun _ => ?_⟩
  · rw [hnext]
    exact hlinked
  · rw [List.mem_range'_1]
    simp only [Usable, init, List.not_mem_nil, not_false_eq_true, and_true, lastEntry,
      ctrlBlkEntriesNum]
    cases tiDbg <;> simp <;> omega
  · exact ⟨List.range' 1 (lastEntry - 1), List.range'_concat (s := 1) (n := 158)⟩

/-- **A run keeps the free list and answers rightly exactly if its calls are careful.** Rightly: an
allocation returns an entry that is not handed out, or `NULL` where none is left, and freeing an
entry that is not handed out changes nothing. -/
theorem free_list_right_iff (tiDbg : Bool) (calls : List Call) :
    Along (step tiDbg) (Right tiDbg) init calls ↔
      Along (step tiDbg) (Careful tiDbg) init calls := by
  refine along_congr_of_invariant (I := fun s => ∃ l, s.Listed tiDbg l) ?_ ?_
    ⟨_, listed_init tiDbg⟩
  · rintro s c ⟨l, h⟩
    exact ⟨h.of_right, fun hc => (h.careful hc).1⟩
  · rintro s c t ⟨l, h⟩ hc ht
    exact (h.careful hc).2 t ht

/-- **The last entry is free and looks as if it were in use**: freeing it closes the list to a ring,
and an allocation does not see the end of it. -/
theorem last_entry_freed : ∃ t, exec (step true) init [.free ⟨lastEntry, by decide⟩] = some t ∧
    (∃ l, Linked init.obj.next (init.obj.next 0) l ∧ lastEntry ∈ l) ∧ ¬ t.Sound ∧
    ¬ Along (step true) (Right true) init [.free ⟨lastEntry, by decide⟩] := by
  have hlast : init.obj.next lastEntry = none :=
    (TTxCtrlBlkObj.create.next_init (e := lastEntry) (by decide)).trans (if_pos rfl)
  have hfirst : init.obj.next 0 = some 1 :=
    (TTxCtrlBlkObj.create.next_init (e := 0) (by decide)).trans (if_neg (by decide))
  have hfree : ¬ (true = true ∧ init.obj.next lastEntry ≠ none) := fun h => h.2 hlast
  have hnext := TTxCtrlBlkObj.next_free hfree
  have hring : ¬ (Sys.Sound ⟨init.obj.free true lastEntry, []⟩) := by
    rintro ⟨l, hl, -⟩
    simp only at hl
    have h0 : (init.obj.free true lastEntry).next 0 = some lastEntry := by
      rw [hnext, update_self]
    rw [h0] at hl
    refine Linked.not_of_closed (S := fun e => 0 < e ∧ e ≤ lastEntry) ?_ (by decide) hl
    rintro e ⟨hpos, hle⟩
    rw [hnext, update_of_ne (Nat.ne_of_gt hpos)]
    by_cases he : e = lastEntry
    · exact ⟨1, by decide, by rw [he, update_self, hfirst]⟩
    · refine ⟨e + 1, ⟨Nat.succ_pos e, Nat.lt_of_le_of_ne hle he⟩, ?_⟩
      rw [update_of_ne he]
      exact (TTxCtrlBlkObj.create.next_init (Nat.lt_of_le_of_lt hle (by decide))).trans (if_neg he)
  refine ⟨_, rfl, ⟨_, (listed_init true).linked, List.mem_range'_1.mpr (by decide)⟩, hring, ?_⟩
  · rintro ⟨⟨⟨t, ht, hs⟩, -⟩, -⟩
    cases ht
    exact hring hs

end Sys

end ArchosGpl.Wlan.TxCtrlBlk
