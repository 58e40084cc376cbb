import ArchosGpl.Wlan.AdmCtrlWpa2.IeModel
import Mathlib.Tactic.ByContra

/-!
# What the RSN IE parser reads and writes

`Safe` says that the parser ends, reads only bytes that the length of the element covers, writes
only inside the arrays, and returns suites that index the validity table.

* `parseKeyMngSuites_none`: **with 256 key management suites or more the loop does not end.**
* `parse_safe_iff`: **the parser is safe exactly for the elements that fit** (`Fits`): the counts
  fit the length and the arrays, and the group suite and the pairwise suites are known.
-/

open Function (update update_of_ne update_self)

namespace ArchosGpl.Wlan.AdmCtrlWpa2

namespace Parse

/-! ## The accesses -/

/-- All bytes read are among the first `len`, and all entries written are in their arrays. -/
def Within (len : ℕ) (p : Parse) : Prop :=
  (∀ o ∈ p.reads, o < len) ∧ ∀ w ∈ p.writes, w.2 < w.1.size

section Access

variable {len : ℕ} {p : Parse} {i v : ℕ}

theorem within_read {os : List ℕ} : Within len (p.read os) ↔ Within len p ∧ ∀ o ∈ os, o < len := by
  simp only [Within, read, List.forall_mem_append]
  tauto

theorem within_setUnicastSuite : Within len (p.setUnicastSuite i v) ↔ Within len p ∧ i < 6 := by
  simp only [Within, setUnicastSuite, List.forall_mem_append, List.forall_mem_singleton,
    SuiteArray.size]
  tauto

theorem within_setKeyMngSuite : Within len (p.setKeyMngSuite i v) ↔ Within len p ∧ i < 4 := by
  simp only [Within, setKeyMngSuite, List.forall_mem_append, List.forall_mem_singleton,
    SuiteArray.size]
  tauto

end Access

variable (ie : Dot11Rsn) {p q : Parse}

/-! ## The pairwise suites -/

/-- The suite that is stored for the bytes at an offset. -/
def suiteAt (broadcastSuite o : ℕ) : ℕ :=
  let suite := ie.parseSuiteVal o twdCipherWep104 twdCipherUnknown
  if suite = twdCipherNone then broadcastSuite else suite

/-- What a part of the parser leaves alone. -/
structure Keeps (p q : Parse) : Prop where
  cnt : q.data.unicastSuiteCnt = p.data.unicastSuiteCnt
  broadcast : q.data.broadcastSuite = p.data.broadcastSuite

variable {n o : ℕ}

theorem unicastLoop (ho : p.dataOffset = o) (hn : o + 4 * n < 256) (h6 : n ≤ 6) :
    let q := (List.range n).foldl (parseUnicastSuite ie) p
    Keeps p q ∧ q.dataOffset = o + 4 * n ∧
      (∀ k < n, q.data.unicastSuite k = suiteAt ie p.data.broadcastSuite (o + 4 * k)) ∧
      ∀ len, Within len q ↔
        Within len p ∧ ∀ k < n, ∀ x ∈ ie.suiteReads (o + 4 * k), x < len := by
  induction n with
  | zero => exact ⟨⟨rfl, rfl⟩, ho, by simp, by simp⟩
  | succ n ih =>
    obtain ⟨hkeep, hoff, hsuite, hwithin⟩ := ih (by omega) (by omega)
    rw [List.range_succ, List.foldl_append, List.foldl_cons, List.foldl_nil]
    generalize (List.range n).foldl (parseUnicastSuite ie) p = q at hkeep hoff hsuite hwithin
    refine ⟨⟨hkeep.cnt, hkeep.broadcast⟩, ?_, fun k hk => ?_, fun len => ?_⟩
    · show (q.dataOffset + 4) % 2 ^ 8 = _
      rw [hoff, Nat.mod_eq_of_lt (by omega)]
      omega
    · show update q.data.unicastSuite n _ k = _
      by_cases hkn : k = n
      · subst hkn
        rw [update_self, ← hkeep.broadcast, ← hoff]
        rfl
      · rw [update_of_ne hkn]
        exact hsuite k (by omega)
    · show Within len ((q.read (ie.suiteReads q.dataOffset)).setUnicastSuite n
        (suiteAt ie q.data.broadcastSuite q.dataOffset)) ↔ _
      rw [within_setUnicastSuite, within_read, hwithin len, hoff, and_assoc, and_assoc]
      refine and_congr_right fun _ => ⟨fun h k hk => ?_, fun h => ?_⟩
      · rcases Nat.lt_succ_iff_lt_or_eq.mp hk with hk | rfl
        · exact h.1 k hk
        · exact h.2.1
      · exact ⟨fun k hk => h k (Nat.lt_succ_of_lt hk), h n (Nat.lt_succ_self n), by omega⟩

/-- A part of the sort: the suites are exchanged among themselves. -/
structure Sorts (p q : Parse) : Prop extends Keeps p q where
  dataOffset : q.dataOffset = p.dataOffset
  within : ∀ len, Within len q ↔ Within len p
  suites : ∀ P : ℕ → Prop, (∀ k < p.data.unicastSuiteCnt, P (q.data.unicastSuite k)) ↔
    ∀ k < p.data.unicastSuiteCnt, P (p.data.unicastSuite k)

theorem Sorts.refl (p : Parse) : Sorts p p := ⟨⟨rfl, rfl⟩, rfl, fun _ => Iff.rfl, fun _ => Iff.rfl⟩

theorem Sorts.trans {r : Parse} (h : Sorts p q) (h' : Sorts q r) : Sorts p r where
  cnt := h'.cnt.trans h.cnt
  broadcast := h'.broadcast.trans h.broadcast
  dataOffset := h'.dataOffset.trans h.dataOffset
  within len := (h'.within len).trans (h.within len)
  suites P := by
    have hP := h'.suites P
    rw [h.cnt] at hP
    exact hP.trans (h.suites P)

theorem sortPass_sorts {j : ℕ} (hj : j + 1 < p.data.unicastSuiteCnt)
    (h6 : p.data.unicastSuiteCnt ≤ 6) : Sorts p (p.sortPass j) := by
  unfold sortPass
  split
  · refine ⟨⟨rfl, rfl⟩, rfl, fun len => ?_, fun P => ?_⟩
    · rw [within_setUnicastSuite, within_setUnicastSuite]
      have h₁ : j < 6 := by omega
      have h₂ : j + 1 < 6 := by omega
      simp [h₁, h₂]
    · simp only [setUnicastSuite]
      constructor
      · intro h k hk
        by_cases h₁ : k = j
        · subst h₁
          have hk' := h (k + 1) hj
          rwa [update_self] at hk'
        · by_cases h₂ : k = j + 1
          · subst h₂
            have hk' := h j (by omega)
            rwa [update_of_ne (Nat.ne_of_lt (Nat.lt_succ_self j)),
              update_self] at hk'
          · have hk' := h k hk
            rwa [update_of_ne h₂, update_of_ne h₁] at hk'
      · intro h k hk
        by_cases h₂ : k = j + 1
        · rw [h₂, update_self]
          exact h j (by omega)
        · rw [update_of_ne h₂]
          by_cases h₁ : k = j
          · rw [h₁, update_self]
            exact h (j + 1) hj
          · rw [update_of_ne h₁]
            exact h k hk
  · exact Sorts.refl p

theorem foldl_sorts {f : Parse → ℕ → Parse} {l : List ℕ} {cnt : ℕ}
    (hf : ∀ p : Parse, p.data.unicastSuiteCnt = cnt → ∀ i ∈ l, Sorts p (f p i))
    (hcnt : p.data.unicastSuiteCnt = cnt) : Sorts p (l.foldl f p) := by
  induction l generalizing p with
  | nil => exact Sorts.refl p
  | cons i l ih =>
    have hi := hf p hcnt i List.mem_cons_self
    exact hi.trans (ih (fun q hq k hk => hf q hq k (List.mem_cons_of_mem i hk))
      (hi.cnt.trans hcnt))

theorem sortUnicastSuites_sorts (h6 : p.data.unicastSuiteCnt ≤ 6) : Sorts p p.sortUnicastSuites := by
  unfold sortUnicastSuites
  split
  · refine foldl_sorts (fun q hq i hi => foldl_sorts (fun r hr j hj => ?_) hq) rfl
    have hi := List.mem_range.mp hi
    have hj := List.mem_range.mp hj
    exact sortPass_sorts (by omega) (by omega)
  · exact Sorts.refl p

/-! ## The key management suites -/

theorem parseKeyMngSuite_keeps (i : ℕ) :
    (p.parseKeyMngSuite ie i).data.keyMngSuiteCnt = p.data.keyMngSuiteCnt ∧
      (p.parseKeyMngSuite ie i).data.unicastSuite = p.data.unicastSuite ∧
      Keeps p (p.parseKeyMngSuite ie i) ∧
      (p.parseKeyMngSuite ie i).dataOffset = (p.dataOffset + 4) % 2 ^ 8 := by
  unfold parseKeyMngSuite
  simp only
  split <;> split <;> exact ⟨rfl, rfl, ⟨rfl, rfl⟩, rfl⟩

variable {i len : ℕ}

theorem within_parseKeyMngSuite : Within len (p.parseKeyMngSuite ie i) ↔
    Within len p ∧ (∀ x ∈ ie.suiteReads p.dataOffset, x < len) ∧ i + 1 < 4 := by
  unfold parseKeyMngSuite
  simp only
  rw [within_setKeyMngSuite]
  have hskip : ∀ q : Parse, Within len (q.skip 4) ↔ Within len q := fun _ => Iff.rfl
  have hakm : ∀ (q : Parse) (c : Prop) [Decidable c],
      Within len (if c then { q with wpaAkmExists := true } else q) ↔ Within len q := by
    intro q c _
    split <;> exact Iff.rfl
  rw [hskip, hakm]
  split
  · rw [within_setKeyMngSuite, within_read]
    constructor
    · rintro ⟨⟨⟨h, hr⟩, -⟩, hi⟩
      exact ⟨h, hr, hi⟩
    · rintro ⟨h, hr, hi⟩
      exact ⟨⟨⟨h, hr⟩, by omega⟩, hi⟩
  · rw [within_read, and_assoc]

theorem parseKeyMngSuites_eq (fuel : ℕ) (hcnt : p.data.keyMngSuiteCnt = i + n)
    (hlt : i + n < 256) : parseKeyMngSuites ie fuel i p =
      if n < fuel then some ((List.range' i n).foldl (parseKeyMngSuite ie) p) else none := by
  induction n generalizing i p fuel with
  | zero =>
    cases fuel with
    | zero => rfl
    | succ fuel =>
      rw [parseKeyMngSuites, if_neg (by omega), if_pos (Nat.succ_pos fuel)]
      rfl
  | succ n ih =>
    cases fuel with
    | zero => rfl
    | succ fuel =>
      have hnext := (parseKeyMngSuite_keeps ie (p := p) i).1
      rw [parseKeyMngSuites, if_pos (by omega), Nat.mod_eq_of_lt (by omega),
        ih fuel (by rw [hnext]; omega) (by omega), List.range'_succ, List.foldl_cons]
      simp only [Nat.add_lt_add_iff_right]

/-- **With 256 suites or more the 8-bit index never reaches the count.** -/
theorem parseKeyMngSuites_none (fuel : ℕ) (hcnt : 256 ≤ p.data.keyMngSuiteCnt)
    (hi : i < 256) : parseKeyMngSuites ie fuel i p = none := by
  induction fuel generalizing i p with
  | zero => rfl
  | succ fuel ih =>
    have hnext := (parseKeyMngSuite_keeps ie (p := p) i).1
    rw [parseKeyMngSuites, if_pos (by omega)]
    exact ih (by rw [hnext]; exact hcnt) (Nat.mod_lt _ (by decide))

theorem keyMngLoop (ho : p.dataOffset = o) (hn : o + 4 * n < 256) :
    let q := (List.range' 0 n).foldl (parseKeyMngSuite ie) p
    Keeps p q ∧ q.data.unicastSuite = p.data.unicastSuite ∧ q.dataOffset = o + 4 * n ∧
      ∀ len, Within len q ↔ Within len p ∧
        ∀ k < n, (∀ x ∈ ie.suiteReads (o + 4 * k), x < len) ∧ k + 1 < 4 := by
  induction n with
  | zero => exact ⟨⟨rfl, rfl⟩, rfl, ho, by simp⟩
  | succ n ih =>
    obtain ⟨hkeep, hsuite, hoff, hwithin⟩ := ih (by omega)
    rw [List.range'_concat, List.foldl_append, List.foldl_cons, List.foldl_nil]
    generalize (List.range' 0 n).foldl (parseKeyMngSuite ie) p = q at hkeep hsuite hoff hwithin
    obtain ⟨-, hsuite', hkeep', hoff'⟩ := parseKeyMngSuite_keeps ie (p := q) (0 + 1 * n)
    refine ⟨⟨hkeep'.cnt.trans hkeep.cnt, hkeep'.broadcast.trans hkeep.broadcast⟩,
      hsuite'.trans hsuite, ?_, fun len => ?_⟩
    · rw [hoff', hoff, Nat.mod_eq_of_lt (by omega)]
      omega
    · rw [within_parseKeyMngSuite, hwithin len, hoff, and_assoc]
      refine and_congr_right fun _ => ⟨fun h k hk => ?_, fun h => ⟨fun k hk => ?_, ?_⟩⟩
      · rcases Nat.lt_succ_iff_lt_or_eq.mp hk with hk | rfl
        · exact h.1 k hk
        · exact ⟨h.2.1, by omega⟩
      · exact h k (Nat.lt_succ_of_lt hk)
      · have hlast := h n (Nat.lt_succ_self n)
        exact ⟨hlast.1, by omega⟩

theorem few_keyMngSuites
    (h : Within len ((List.range' 0 n).foldl (parseKeyMngSuite ie) p)) : n ≤ 3 := by
  cases n with
  | zero => exact Nat.zero_le 3
  | succ n =>
    rw [List.range'_concat, List.foldl_append, List.foldl_cons, List.foldl_nil,
      within_parseKeyMngSuite] at h
    omega

/-! ## The elements that fit -/

theorem lt_of_mem_suiteReads {x : ℕ} (hx : x ∈ ie.suiteReads o) : x < o + 4 := by
  unfold Dot11Rsn.suiteReads at hx
  split at hx <;> simp only [List.mem_cons, List.not_mem_nil, or_false] at hx <;> omega

/-- The suites that `admCtrlWpa2_getCipherSuiteMetric` indexes the validity table with: each
pairwise suite, with the group suite. -/
def tableIndices (d : Wpa2IeData) : List (ℕ × ℕ) :=
  (List.range d.unicastSuiteCnt).map fun i => (d.unicastSuite i, d.broadcastSuite)

def InTable (d : Wpa2IeData) : Prop :=
  ∀ e ∈ tableIndices d, e.1 < maxWpa2CipherSuite ∧ e.2 < maxWpa2CipherSuite

theorem inTable_iff {d : Wpa2IeData} : InTable d ↔ ∀ k < d.unicastSuiteCnt,
    d.unicastSuite k < maxWpa2CipherSuite ∧ d.broadcastSuite < maxWpa2CipherSuite := by
  simp [InTable, tableIndices]

/-- What a parser is to have done when it returns. -/
def Right (len : ℕ) (r : Parse × TiStatus) : Prop :=
  Within len r.1 ∧ (r.2 = .ok → InTable r.1.data)

/-- **Safe**: the parser ends, within the element and the arrays, with suites inside the table. -/
def Safe (wpaAkmExists : Bool) (data : Wpa2IeData) : Prop :=
  ∃ fuel r, parseIe ie fuel wpaAkmExists data = some r ∧ Right ie.len.toNat r

/-- The suite at an offset is one of the table. -/
def Known (o : ℕ) : Prop := ie.isOui o = true ∧ (ie.rsnIeData (o + 3)).toNat < maxWpa2CipherSuite

/-- The key management suites at an offset, and the capabilities behind them, fit. -/
def KeyMngFits (o : ℕ) : Prop :=
  o + 2 ≤ ie.len.toNat ∧ ie.word o ≤ 3 ∧
    (ie.len.toNat = o + 2 + 4 * ie.word o ∨ o + 2 + 4 * ie.word o + 2 ≤ ie.len.toNat)

/-- The pairwise suites are known and fit, and so does what follows. -/
def PairwiseFits : Prop :=
  (∀ k < ie.word 6, Known ie 2 ∧ Known ie (8 + 4 * k)) ∧
    (ie.len.toNat = 8 + 4 * ie.word 6 ∨ KeyMngFits ie (8 + 4 * ie.word 6))

/-- The elements that the parser refuses by their header. -/
def Refused : Prop :=
  ie.eleId ≠ rsnIeId ∨ ie.len.toNat < wpa2IeMinLength ∨ ie.word 0 ≠ wpa2OuiMaxVersion

/-- **The elements that the parser can bear.** -/
def Fits : Prop :=
  2 ≤ ie.len.toNat ∧
    (Refused ie ∨ ie.len.toNat < wpa2IeGroupSuiteLength ∨
      ie.len.toNat < wpa2IeMinPairwiseSuiteLength ∧ Known ie 2 ∨
      wpa2IeMinPairwiseSuiteLength ≤ ie.len.toNat ∧
        (unicastCipherMaxnoInRsnie < ie.word 6 ∨ PairwiseFits ie))

theorem parseSuiteVal_lt_iff (o : ℕ) :
    ie.parseSuiteVal o twdCipherWep104 twdCipherUnknown < maxWpa2CipherSuite ↔ Known ie o := by
  unfold Dot11Rsn.parseSuiteVal Known twdCipherWep104 twdCipherUnknown maxWpa2CipherSuite
  split
  next h =>
    simp only [h, true_and]
    split <;> omega
  next h => simp [h]

theorem suiteAt_lt_iff {b : ℕ} (hb : b < maxWpa2CipherSuite) (o : ℕ) :
    suiteAt ie b o < maxWpa2CipherSuite ↔ Known ie o := by
  rw [← parseSuiteVal_lt_iff]
  unfold suiteAt
  simp only
  split
  next h =>
    rw [h]
    exact ⟨fun _ => by decide, fun _ => hb⟩
  next => exact Iff.rfl

theorem parseKeyMng_right_iff (ho : p.dataOffset = o) (hlt : o + 2 + 4 * 3 < 256) :
    (∃ fuel r, p.parseKeyMng ie fuel = some r ∧ Right ie.len.toNat r) ↔
      Within ie.len.toNat p ∧ KeyMngFits ie o ∧ InTable p.data := by
  obtain ⟨k, hk⟩ : ∃ k, k = ie.word o := ⟨_, rfl⟩
  obtain ⟨s, hs⟩ : ∃ s, s = p.parseKeyMngSuiteCnt ie := ⟨_, rfl⟩
  have hcnt : s.data.keyMngSuiteCnt = 0 + k := by
    rw [hs, Nat.zero_add, hk, ← ho]
    rfl
  have hoff : s.dataOffset = o + 2 := by
    have hskip : s.dataOffset = (p.dataOffset + 2) % 2 ^ 8 := hs ▸ rfl
    rw [hskip, ho, Nat.mod_eq_of_lt (by omega)]
  have hwithin : Within ie.len.toNat s ↔ Within ie.len.toNat p ∧ o + 2 ≤ ie.len.toNat := by
    have hread : Within ie.len.toNat s ↔
        Within ie.len.toNat (p.read [p.dataOffset, p.dataOffset + 1]) := hs ▸ Iff.rfl
    rw [hread, within_read, ho]
    simp only [List.forall_mem_cons, List.not_mem_nil, false_imp_iff, forall_const, and_true]
    refine and_congr_right fun _ => ?_
    omega
  have hdata : InTable s.data ↔ InTable p.data := hs ▸ Iff.rfl
  unfold KeyMngFits
  rw [← hk]
  constructor
  · rintro ⟨fuel, r, hr, hright, htable⟩
    obtain ⟨q, hq, hqr⟩ := Option.map_eq_some_iff.mp hr
    rw [← hs] at hq
    have hk256 : k < 256 := by
      by_contra hge
      rw [parseKeyMngSuites_none ie fuel (by omega) (by decide)] at hq
      cases hq
    rw [parseKeyMngSuites_eq ie fuel hcnt (by omega)] at hq
    obtain ⟨-, ⟨⟩⟩ := Option.ite_none_right_eq_some.mp hq
    have hq' : Within ie.len.toNat ((List.range' 0 k).foldl (parseKeyMngSuite ie) s) := by
      rw [← hqr] at hright
      split at hright
      · exact hright
      · exact (within_read.mp hright).1
    have hk3 := few_keyMngSuites ie hq'
    obtain ⟨hkeep, hsuite, hoff', hwithin'⟩ := keyMngLoop ie (n := k) hoff (by omega)
    generalize (List.range' 0 k).foldl (parseKeyMngSuite ie) s = q at *
    obtain ⟨hs', -⟩ := (hwithin' _).mp hq'
    obtain ⟨hp, hle⟩ := hwithin.mp hs'
    have hlen : ie.len.toNat = o + 2 + 4 * k ∨ o + 2 + 4 * k + 2 ≤ ie.len.toNat := by
      rw [← hqr] at hright
      split at hright
      next heq => exact Or.inl (heq.trans hoff')
      next =>
        have hcap := (within_read.mp hright).2 (q.dataOffset + 1) (by simp)
        omega
    have hok : r.2 = .ok := by
      rw [← hqr]
      split <;> rfl
    refine ⟨hp, ⟨hle, hk3, hlen⟩, ?_⟩
    have hqt : InTable q.data := by
      have hrt := htable hok
      rw [← hqr] at hrt
      split at hrt <;> exact hrt
    rw [inTable_iff, hkeep.cnt, hkeep.broadcast, hsuite, ← inTable_iff, hdata] at hqt
    exact hqt
  · rintro ⟨hp, ⟨hle, hk3, hlen⟩, htable⟩
    obtain ⟨hkeep, hsuite, hoff', hwithin'⟩ := keyMngLoop ie (n := k) hoff (by omega)
    obtain ⟨r, hr⟩ : ∃ r, p.parseKeyMng ie (k + 1) = some r := by
      rw [parseKeyMng, ← hs, parseKeyMngSuites_eq ie _ hcnt (by omega),
        if_pos (Nat.lt_succ_self k)]
      exact ⟨_, rfl⟩
    refine ⟨k + 1, r, hr, ?_⟩
    rw [parseKeyMng, ← hs, parseKeyMngSuites_eq ie _ hcnt (by omega),
      if_pos (Nat.lt_succ_self k), Option.map_some] at hr
    cases hr
    generalize (List.range' 0 k).foldl (parseKeyMngSuite ie) s = q at *
    have hq : Within ie.len.toNat q := by
      refine (hwithin' _).mpr ⟨hwithin.mpr ⟨hp, hle⟩, fun j hj => ⟨fun x hx => ?_, by omega⟩⟩
      have hxlt := lt_of_mem_suiteReads ie hx
      omega
    have hqt : InTable q.data := by
      rw [inTable_iff, hkeep.cnt, hkeep.broadcast, hsuite, ← inTable_iff, hdata]
      exact htable
    split
    · exact ⟨hq, fun _ => hqt⟩
    next hne =>
      refine ⟨within_read.mpr ⟨hq, ?_⟩, fun _ => hqt⟩
      simp only [List.forall_mem_cons, List.not_mem_nil, false_imp_iff, forall_const, and_true]
      omega

theorem parsePairwise_right_iff (ho : p.dataOffset = 6) (hb : p.data.broadcastSuite =
    ie.parseSuiteVal 2 twdCipherWep104 twdCipherUnknown)
    (hmin : wpa2IeMinPairwiseSuiteLength ≤ ie.len.toNat) (hp : Within ie.len.toNat p) :
    (∃ fuel r, p.parsePairwise ie fuel = some r ∧ Right ie.len.toNat r) ↔
      unicastCipherMaxnoInRsnie < ie.word 6 ∨ PairwiseFits ie := by
  obtain ⟨s, hs⟩ : ∃ s, s = p.parseUnicastSuiteCnt ie := ⟨_, rfl⟩
  have hcnt : s.data.unicastSuiteCnt = ie.word 6 := by
    rw [hs, ← ho]
    rfl
  have hoff : s.dataOffset = 8 := by
    have hskip : s.dataOffset = (p.dataOffset + 2) % 2 ^ 8 := hs ▸ rfl
    omega
  have hbs : s.data.broadcastSuite = ie.parseSuiteVal 2 twdCipherWep104 twdCipherUnknown := by
    rw [hs, ← hb]
    rfl
  have hwithin : Within ie.len.toNat s := by
    have hread : Within ie.len.toNat s ↔
        Within ie.len.toNat (p.read [p.dataOffset, p.dataOffset + 1]) := hs ▸ Iff.rfl
    rw [hread, within_read, ho]
    refine ⟨hp, ?_⟩
    unfold wpa2IeMinPairwiseSuiteLength at hmin
    simp only [List.forall_mem_cons, List.not_mem_nil, false_imp_iff, forall_const, and_true]
    omega
  unfold unicastCipherMaxnoInRsnie
  by_cases hmax : 3 < ie.word 6
  · refine iff_of_true ⟨0, (s, .nok), ?_, hwithin, fun h => nomatch h⟩ (Or.inl hmax)
    simp only [parsePairwise, ← hs, hcnt]
    exact if_pos hmax
  · obtain ⟨n, hn⟩ : ∃ n, n = ie.word 6 := ⟨_, rfl⟩
    rw [← hn] at hcnt hmax
    obtain ⟨hkeep, hoff', hsuite, hwithin'⟩ := unicastLoop ie (n := n) hoff (by omega) (by omega)
    obtain ⟨l, hl⟩ : ∃ l, l = (List.range n).foldl (parseUnicastSuite ie) s := ⟨_, rfl⟩
    rw [← hl] at hkeep hoff' hsuite hwithin'
    have hsorts : Sorts l l.sortUnicastSuites :=
      sortUnicastSuites_sorts (by rw [hkeep.cnt, hcnt]; omega)
    have hstep : ∀ fuel, p.parsePairwise ie fuel =
        if ie.len.toNat = l.sortUnicastSuites.dataOffset then some (l.sortUnicastSuites, .ok)
        else l.sortUnicastSuites.parseKeyMng ie fuel := by
      intro fuel
      simp only [parsePairwise, ← hs, hcnt, ← hl]
      exact if_neg hmax
    simp only [hstep]
    generalize l.sortUnicastSuites = t at hsorts
    have hofft : t.dataOffset = 8 + 4 * n := hsorts.dataOffset.trans hoff'
    have hreads : Within ie.len.toNat t ↔
        ∀ k < n, ∀ x ∈ ie.suiteReads (8 + 4 * k), x < ie.len.toNat := by
      rw [hsorts.within, hwithin', and_iff_right hwithin]
    have htable : InTable t.data ↔ ∀ k < n, Known ie 2 ∧ Known ie (8 + 4 * k) := by
      have hP := hsorts.suites fun v => v < maxWpa2CipherSuite ∧
        t.data.broadcastSuite < maxWpa2CipherSuite
      have hbt : t.data.broadcastSuite =
          ie.parseSuiteVal 2 twdCipherWep104 twdCipherUnknown :=
        hsorts.broadcast.trans (hkeep.broadcast.trans hbs)
      rw [inTable_iff, hsorts.cnt, hP, hkeep.cnt, hcnt, hbt, parseSuiteVal_lt_iff]
      refine forall₂_congr fun k hk => ?_
      rw [hsuite k hk, hbs, and_comm]
      exact and_congr_right fun h2 =>
        suiteAt_lt_iff ie ((parseSuiteVal_lt_iff ie 2).mpr h2) _
    unfold PairwiseFits
    rw [← hn, or_iff_right hmax, hofft]
    by_cases hend : ie.len.toNat = 8 + 4 * n
    · simp only [if_pos hend, Option.some.injEq, exists_eq_left', exists_const]
      constructor
      · exact fun h => ⟨htable.mp (h.2 rfl), Or.inl hend⟩
      · refine fun h => ⟨hreads.mpr fun k hk x hx => ?_, fun _ => htable.mpr h.1⟩
        have hxlt := lt_of_mem_suiteReads ie hx
        omega
    · simp only [if_neg hend]
      rw [parseKeyMng_right_iff ie hofft (by omega), htable, hreads]
      constructor
      · rintro ⟨-, hkm, hknown⟩
        exact ⟨hknown, Or.inr hkm⟩
      · rintro ⟨hknown, hkm⟩
        have hkm := hkm.resolve_left hend
        refine ⟨fun k hk x hx => ?_, hkm, hknown⟩
        have hxlt := lt_of_mem_suiteReads ie hx
        have hle := hkm.1
        omega

/-! ## The whole parser -/

variable (wpaAkmExists : Bool) (data : Wpa2IeData)

theorem start_within : Within len (start wpaAkmExists data) ↔ 2 ≤ len := by
  constructor
  · exact fun h => h.1 1 (by simp [start])
  · refine fun h => ⟨?_, fun _ hw => nomatch hw⟩
    simp only [start, List.forall_mem_cons, List.not_mem_nil, false_imp_iff, forall_const, and_true]
    omega

theorem setDefaults_within (h : 2 ≤ len) : Within len (start wpaAkmExists data).setDefaults :=
  within_setKeyMngSuite.mpr ⟨within_setUnicastSuite.mpr
    ⟨(start_within wpaAkmExists data).mpr h, by decide⟩, by decide⟩

theorem parseGroupSuite_within (hlen : wpa2IeGroupSuiteLength ≤ ie.len.toNat) :
    Within ie.len.toNat ((start wpaAkmExists data).setDefaults.parseGroupSuite ie) := by
  unfold wpa2IeGroupSuiteLength at hlen
  show Within _ ((start wpaAkmExists data).setDefaults.read (ie.suiteReads 2))
  refine within_read.mpr ⟨setDefaults_within wpaAkmExists data (by omega), fun x hx => ?_⟩
  have hxlt := lt_of_mem_suiteReads ie hx
  omega

/-- **The parser is safe exactly for the elements that fit.** -/
theorem parse_safe_iff : Safe ie wpaAkmExists data ↔ Fits ie := by
  unfold Safe Fits
  simp only [parseIe]
  by_cases hrefused : Refused ie
  · rw [and_iff_left (Or.inl hrefused), ← start_within wpaAkmExists data]
    simp only [Refused] at hrefused
    simp only [if_pos hrefused, Option.some.injEq, exists_eq_left', exists_const]
    exact ⟨And.left, fun h => ⟨h, fun hok => nomatch hok⟩⟩
  · have hlen : 4 ≤ ie.len.toNat := by
      by_contra h
      exact hrefused (Or.inr (Or.inl (by unfold wpa2IeMinLength; omega)))
    rw [and_iff_right (by omega : 2 ≤ ie.len.toNat), or_iff_right hrefused]
    simp only [Refused] at hrefused
    simp only [if_neg hrefused]
    by_cases hgroup : ie.len.toNat < wpa2IeGroupSuiteLength
    · simp only [if_pos hgroup, Option.some.injEq, exists_eq_left', exists_const]
      refine iff_of_true ⟨setDefaults_within wpaAkmExists data (by omega), fun _ => ?_⟩
        (Or.inl hgroup)
      refine inTable_iff.mpr fun k hk => ?_
      obtain rfl : k = 0 := Nat.lt_one_iff.mp hk
      exact ⟨show 4 < 6 by decide, show 4 < 6 by decide⟩
    · have hgw := parseGroupSuite_within ie wpaAkmExists data (Nat.le_of_not_lt hgroup)
      rw [or_iff_right hgroup]
      simp only [if_neg hgroup]
      by_cases hmin : ie.len.toNat < wpa2IeMinPairwiseSuiteLength
      · simp only [if_pos hmin, Option.some.injEq, exists_eq_left', exists_const]
        rw [and_iff_right hmin, or_iff_left fun h => absurd hmin (Nat.not_lt.mpr h.1),
          ← parseSuiteVal_lt_iff]
        constructor
        · exact fun h => (inTable_iff.mp (h.2 rfl) 0 Nat.one_pos).2
        · refine fun h => ⟨hgw, fun _ => inTable_iff.mpr fun k hk => ?_⟩
          obtain rfl : k = 0 := Nat.lt_one_iff.mp hk
          exact ⟨show 4 < 6 by decide, h⟩
      · rw [or_iff_right fun h => hmin h.1, and_iff_right (Nat.le_of_not_lt hmin)]
        simp only [if_neg hmin]
        exact parsePairwise_right_iff ie rfl rfl (Nat.le_of_not_lt hmin) hgw

/-- An element of 14 bytes that announces two pairwise suites: the second one ends with the
sixteenth byte. -/
def twoSuites : Dot11Rsn where
  eleId := rsnIeId
  len := 14
  rsnIeData o :=
    ([1, 0, 0x00, 0x0f, 0xac, 4, 2, 0, 0x00, 0x0f, 0xac, 4, 0x00, 0x0f, 0xac, 4] : List UInt8).getD o 0

def noData : Wpa2IeData := ⟨0, 0, fun _ => 0, 0, fun _ => 0, 0, 0, 0, 0⟩

/-- **The second pairwise suite is read past the end of the element.** -/
theorem two_suites_overread : ¬ Safe twoSuites false noData := by
  intro h
  have hgw := parseGroupSuite_within twoSuites false noData (by decide)
  have hpairs := (parsePairwise_right_iff twoSuites rfl rfl (by decide) hgw).mp h
  have hend : ¬ 8 + 4 * twoSuites.word 6 + 2 ≤ twoSuites.len.toNat := by decide
  rcases hpairs with hmax | ⟨-, hlen | hkm⟩
  · exact absurd hmax (by decide)
  · exact absurd hlen (by decide)
  · exact hend hkm.1

end Parse

end ArchosGpl.Wlan.AdmCtrlWpa2
