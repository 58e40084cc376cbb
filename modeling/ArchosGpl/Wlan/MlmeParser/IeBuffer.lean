import ArchosGpl.Lib.Tlv
import Mathlib.Algebra.Group.Nat.Defs

/-!
# The search for an element (`mlmeParser_ParseIeBuffer`)

The function walks a buffer of elements and reports the first one with an id whose bytes begin with
a match string. The model keeps the bytes of the buffer that it reads; memory behind the buffer is
whatever it is. The buffer pointer is not `NULL`; an absent match string is the empty one.

* `parseIeBuffer_correct_iff`: **the search reports the first matching element of the decomposition
  and reads only the buffer exactly if** the walk is `Clear`: no single byte is left at the end, no
  whole element is dropped by the 8 bits of the length, and the comparison neither leaves the
  buffer nor succeeds beyond its element.
-/

namespace ArchosGpl.Wlan.MlmeParser

open Lib.Tlv

variable (mem : ℕ → UInt8) (desiredIeId : UInt8) (matchBuffer : List UInt8)

/-- What the search reports, and the bytes that it reads. -/
abbrev Search := Option ℕ × List ℕ

/-- Bytes that are read first. -/
def reading (os : List ℕ) (s : Search) : Search := (s.1, os ++ s.2)

/-- `os_memoryCompare` of the body of the element at `o` finds the match string. -/
def compare (o : ℕ) : Bool :=
  (List.range matchBuffer.length).all fun i => mem (o + 2 + i) == matchBuffer.getD i 0

/-- The pass of the loop at `pCurIe` with `length` bytes left: the search ends, or goes on behind
the element. -/
def searchPass (length pCurIe : ℕ) : Search ⊕ List ℕ :=
  if length % 2 ^ 8 < bodyLen mem pCurIe + 2 then .inl (none, [pCurIe + 1])
  else
    let os := [pCurIe + 1, pCurIe]
    if mem pCurIe = desiredIeId then
      if matchBuffer = [] then .inl (some pCurIe, os)
      else
        let os := os ++ (List.range matchBuffer.length).map (pCurIe + 2 + ·)
        if compare mem matchBuffer pCurIe then .inl (some pCurIe, os) else .inr os
    else .inr os

/-- The loop. -/
def searchFrom : ℕ → ℕ → ℕ → Option Search
  | 0, length, _ => if length = 0 then some (none, []) else none
  | fuel + 1, length, pCurIe =>
    if length = 0 then some (none, [])
    else match searchPass mem desiredIeId matchBuffer length pCurIe with
      | .inl s => some s
      | .inr os =>
        (searchFrom fuel (length - (bodyLen mem pCurIe + 2))
          (pCurIe + (bodyLen mem pCurIe + 2))).map (reading os)

/-- `mlmeParser_ParseIeBuffer`: the offset of the element that it reports, and its reads. -/
def parseIeBuffer (length : ℕ) : Option Search :=
  searchFrom mem desiredIeId matchBuffer length length 0

/-! ## What it is for -/

/-- The element has the id, and its body begins with the match string. -/
def IsMatch (o : ℕ) : Bool :=
  mem o == desiredIeId && decide (matchBuffer.length ≤ bodyLen mem o) && compare mem matchBuffer o

/-- **The search is right**: it reports the first match of the decomposition, and reads only bytes
of the buffer. -/
def Right (length : ℕ) : Prop :=
  ∃ os, parseIeBuffer mem desiredIeId matchBuffer length =
      some ((elements mem length).find? (IsMatch mem desiredIeId matchBuffer), os) ∧
    ∀ o ∈ os, o < length

/-- The comparison at an element with the id does not leave the buffer, and does not succeed there. -/
def Harmless (length o : ℕ) : Prop :=
  mem o = desiredIeId →
    o + 2 + matchBuffer.length ≤ length ∧ compare mem matchBuffer o = false

/-- **The walk over the elements is clear**, up to the first match: no single byte is left, no
element that the 8 bits of the length drop is a match, and the comparisons before the match are
harmless. -/
def Clear (length : ℕ) : List ℕ → ℕ → Prop
  | [], o => length ≠ o + 1
  | o :: ies, _ =>
    if (length - o) % 2 ^ 8 < bodyLen mem o + 2 then
      ∀ x ∈ o :: ies, IsMatch mem desiredIeId matchBuffer x = false
    else
      IsMatch mem desiredIeId matchBuffer o = true ∨
        Harmless mem desiredIeId matchBuffer length o ∧ Clear length ies (next mem o)

variable {mem desiredIeId matchBuffer} {length fuel o : ℕ}

/-- The search from an offset is right. -/
def RightFrom (mem : ℕ → UInt8) (desiredIeId : UInt8) (matchBuffer : List UInt8)
    (length fuel o : ℕ) : Prop :=
  ∃ os, searchFrom mem desiredIeId matchBuffer fuel (length - o) o =
      some ((elementsFrom mem length fuel o).find? (IsMatch mem desiredIeId matchBuffer), os) ∧
    ∀ x ∈ os, x < length

theorem rightFrom_of_inl {s : Search} (ho : o < length)
    (h : searchPass mem desiredIeId matchBuffer (length - o) o = .inl s) :
    RightFrom mem desiredIeId matchBuffer length (fuel + 1) o ↔
      s.1 = (elementsFrom mem length (fuel + 1) o).find? (IsMatch mem desiredIeId matchBuffer) ∧
        ∀ x ∈ s.2, x < length := by
  have hs : searchFrom mem desiredIeId matchBuffer (fuel + 1) (length - o) o = some s := by
    rw [searchFrom, if_neg (by omega), h]
  rw [RightFrom, hs]
  constructor
  · rintro ⟨os, heq, hos⟩
    cases heq
    exact ⟨rfl, hos⟩
  · rintro ⟨heq, hos⟩
    exact ⟨s.2, by rw [← heq], hos⟩

theorem rightFrom_of_inr {l : List ℕ} (ho : o < length) (hnext : next mem o ≤ length)
    (hno : IsMatch mem desiredIeId matchBuffer o = false)
    (h : searchPass mem desiredIeId matchBuffer (length - o) o = .inr l) :
    RightFrom mem desiredIeId matchBuffer length (fuel + 1) o ↔
      (∀ x ∈ l, x < length) ∧
        RightFrom mem desiredIeId matchBuffer length fuel (next mem o) := by
  have hs : searchFrom mem desiredIeId matchBuffer (fuel + 1) (length - o) o =
      (searchFrom mem desiredIeId matchBuffer fuel (length - next mem o) (next mem o)).map
        (reading l) := by
    have hlen : length - o - (bodyLen mem o + 2) = length - next mem o := by
      unfold next
      omega
    have hoff : o + (bodyLen mem o + 2) = next mem o := by
      unfold next
      omega
    rw [searchFrom, if_neg (by omega), h, hlen, hoff]
  have helem : (elementsFrom mem length (fuel + 1) o).find? (IsMatch mem desiredIeId matchBuffer) =
      (elementsFrom mem length fuel (next mem o)).find? (IsMatch mem desiredIeId matchBuffer) := by
    rw [elementsFrom, if_pos hnext, List.find?_cons, hno]
  rw [RightFrom, RightFrom, hs, helem]
  constructor
  · rintro ⟨rs, heq, hrs⟩
    obtain ⟨⟨f, rs'⟩, hrun, heq⟩ := Option.map_eq_some_iff.mp heq
    obtain ⟨rfl, rfl⟩ := Prod.mk.inj heq
    exact ⟨fun x hx => hrs x (List.mem_append_left _ hx),
      rs', hrun, fun x hx => hrs x (List.mem_append_right _ hx)⟩
  · rintro ⟨hos, rs, hrun, hrs⟩
    refine ⟨l ++ rs, by rw [hrun]; rfl, fun x hx => ?_⟩
    exact (List.mem_append.mp hx).elim (hos x) (hrs x)

theorem compareReads_lt (ho : o + 1 < length) :
    (∀ x ∈ [o + 1, o] ++ (List.range matchBuffer.length).map (o + 2 + ·), x < length) ↔
      o + 2 + matchBuffer.length ≤ length := by
  simp only [List.cons_append, List.nil_append, List.forall_mem_cons, List.forall_mem_map,
    List.mem_range]
  constructor
  · rintro ⟨-, -, h⟩
    rcases Nat.eq_zero_or_pos matchBuffer.length with hz | hpos
    · omega
    · have := h (matchBuffer.length - 1) (by omega)
      omega
  · intro h
    refine ⟨ho, by omega, fun i hi => by omega⟩

theorem rightFrom_iff_of_dropped (ho : o < length)
    (hdrop : (length - o) % 2 ^ 8 < bodyLen mem o + 2) :
    RightFrom mem desiredIeId matchBuffer length (fuel + 1) o ↔
      (∀ x ∈ elementsFrom mem length (fuel + 1) o, IsMatch mem desiredIeId matchBuffer x = false) ∧
        o + 1 < length := by
  rw [rightFrom_of_inl (s := (none, [o + 1])) ho (by rw [searchPass, if_pos hdrop]), eq_comm,
    List.find?_eq_none, List.forall_mem_singleton]
  simp only [Bool.not_eq_true]

theorem rightFrom_of_match (hnext : next mem o ≤ length)
    (hkeep : ¬ (length - o) % 2 ^ 8 < bodyLen mem o + 2)
    (hm : IsMatch mem desiredIeId matchBuffer o = true) :
    RightFrom mem desiredIeId matchBuffer length (fuel + 1) o := by
  have ho := add_two_le_next mem o
  have hfind : (elementsFrom mem length (fuel + 1) o).find?
      (IsMatch mem desiredIeId matchBuffer) = some o := by
    rw [elementsFrom, if_pos hnext, List.find?_cons, hm]
  simp only [IsMatch, Bool.and_eq_true, beq_iff_eq, decide_eq_true_eq] at hm
  obtain ⟨⟨hid, hlen⟩, hcmp⟩ := hm
  by_cases hnil : matchBuffer = []
  · rw [rightFrom_of_inl (s := (some o, [o + 1, o])) (by omega)
      (by rw [searchPass, if_neg hkeep]; simp only [if_pos hid, if_pos hnil])]
    refine ⟨hfind.symm, ?_⟩
    simp only [List.forall_mem_cons, List.not_mem_nil, false_imp_iff, implies_true, and_true]
    omega
  · rw [rightFrom_of_inl (s := (some o, [o + 1, o] ++ (List.range matchBuffer.length).map
      (o + 2 + ·))) (by omega)
      (by rw [searchPass, if_neg hkeep]; simp only [if_pos hid, if_neg hnil, if_pos hcmp])]
    refine ⟨hfind.symm, (compareReads_lt (by omega)).mpr ?_⟩
    unfold next at hnext
    omega

theorem rightFrom_iff_of_id (hnext : next mem o ≤ length)
    (hkeep : ¬ (length - o) % 2 ^ 8 < bodyLen mem o + 2)
    (hm : IsMatch mem desiredIeId matchBuffer o = false) (hid : mem o = desiredIeId) :
    RightFrom mem desiredIeId matchBuffer length (fuel + 1) o ↔
      (o + 2 + matchBuffer.length ≤ length ∧ compare mem matchBuffer o = false) ∧
        RightFrom mem desiredIeId matchBuffer length fuel (next mem o) := by
  have ho := add_two_le_next mem o
  have hnil : matchBuffer ≠ [] := by
    rintro rfl
    simp [IsMatch, hid, compare] at hm
  cases hcmp : compare mem matchBuffer o with
  | true =>
    refine iff_of_false ?_ (fun h => absurd h.1.2 nofun)
    rw [rightFrom_of_inl (s := (some o, [o + 1, o] ++ (List.range matchBuffer.length).map
      (o + 2 + ·))) (by omega)
      (by rw [searchPass, if_neg hkeep]; simp only [if_pos hid, if_neg hnil, if_pos hcmp])]
    rintro ⟨hfind, -⟩
    rw [elementsFrom, if_pos hnext, List.find?_cons, hm] at hfind
    have hmem := mem_elementsFrom (List.mem_of_find?_eq_some hfind.symm)
    omega
  | false =>
    rw [rightFrom_of_inr (l := [o + 1, o] ++ (List.range matchBuffer.length).map (o + 2 + ·))
      (by omega) hnext hm
      (by rw [searchPass, if_neg hkeep]; simp [hid, hnil, hcmp]), compareReads_lt (by omega)]
    simp only [and_true]

/-- **The search from an offset is right exactly if the walk from there is clear.** -/
theorem rightFrom_iff (hfuel : length - o ≤ fuel) (ho : o ≤ length) :
    RightFrom mem desiredIeId matchBuffer length fuel o ↔
      Clear mem desiredIeId matchBuffer length (elementsFrom mem length fuel o) o := by
  induction fuel generalizing o with
  | zero =>
    have hlen : length - o = 0 := Nat.le_zero.mp hfuel
    refine iff_of_true ⟨[], ?_, fun x hx => absurd hx List.not_mem_nil⟩ ?_
    · rw [searchFrom, if_pos hlen]
      rfl
    · show length ≠ o + 1
      omega
  | succ fuel ih =>
    have hnext := add_two_le_next mem o
    rcases Nat.eq_or_lt_of_le ho with rfl | ho
    · have hnil : elementsFrom mem o (fuel + 1) o = [] := by rw [elementsFrom, if_neg (by omega)]
      rw [hnil]
      refine iff_of_true ⟨[], ?_, fun x hx => absurd hx List.not_mem_nil⟩ (Nat.succ_ne_self o).symm
      rw [searchFrom, if_pos (Nat.sub_self o), hnil]
      rfl
    by_cases hfit : next mem o ≤ length
    · have hcons : elementsFrom mem length (fuel + 1) o =
          o :: elementsFrom mem length fuel (next mem o) := by rw [elementsFrom, if_pos hfit]
      have ih := ih (o := next mem o) (by omega) hfit
      by_cases hdrop : (length - o) % 2 ^ 8 < bodyLen mem o + 2
      · rw [rightFrom_iff_of_dropped ho hdrop, hcons, Clear, if_pos hdrop]
        exact and_iff_left (by omega)
      rw [hcons, Clear, if_neg hdrop]
      cases hm : IsMatch mem desiredIeId matchBuffer o with
      | true => exact iff_of_true (rightFrom_of_match hfit hdrop hm) (Or.inl rfl)
      | false =>
        rw [← ih, or_iff_right Bool.false_ne_true, Harmless]
        by_cases hid : mem o = desiredIeId
        · rw [rightFrom_iff_of_id hfit hdrop hm hid, imp_iff_right hid]
        · rw [rightFrom_of_inr (l := [o + 1, o]) ho hfit hm
            (by rw [searchPass, if_neg hdrop]; simp only [if_neg hid])]
          refine and_congr (iff_of_true ?_ fun h => absurd h hid) Iff.rfl
          simp only [List.forall_mem_cons, List.not_mem_nil, false_imp_iff, implies_true, and_true]
          omega
    · have hnil : elementsFrom mem length (fuel + 1) o = [] := by rw [elementsFrom, if_neg hfit]
      have hdrop : (length - o) % 2 ^ 8 < bodyLen mem o + 2 := by
        refine Nat.lt_of_le_of_lt (Nat.mod_le _ _) ?_
        unfold next at hfit
        omega
      rw [rightFrom_iff_of_dropped ho hdrop, hnil, Clear]
      constructor
      · rintro ⟨-, hlt⟩
        omega
      · intro hne
        exact ⟨fun x hx => absurd hx List.not_mem_nil, by omega⟩

/-- **The search is right exactly if the walk over the elements is clear.** -/
theorem parseIeBuffer_correct_iff (mem : ℕ → UInt8) (desiredIeId : UInt8) (matchBuffer : List UInt8)
    (length : ℕ) : Right mem desiredIeId matchBuffer length ↔
      Clear mem desiredIeId matchBuffer length (elements mem length) 0 :=
  rightFrom_iff (Nat.le_of_eq (Nat.sub_zero length)) (Nat.zero_le length)

/-- A buffer of 256 bytes that starts with the element that is looked for: none is found. -/
theorem long_buffer_not_found : ¬ Right (fun o => if o = 0 then 48 else 0) 48 [] 256 := by
  rintro ⟨os, h, -⟩
  cases h

end ArchosGpl.Wlan.MlmeParser
