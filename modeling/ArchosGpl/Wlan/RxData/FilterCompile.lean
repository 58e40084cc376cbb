import ArchosGpl.Wlan.RxData.FilterPatterns

/-!
# The compilation of a data filter

* `filter_compiles_iff`: **a filter request is compiled to what its mask and pattern say, inside
  all its buffers, exactly if** no masked byte comes right behind the last byte of the pattern,
  unless an earlier check rejects the request.
-/

open Function (update update_of_ne update_self)

namespace ArchosGpl.Wlan.RxData

variable {r : TRxDataFilterRequest} {n : ℕ}

/-! ## A run of the parser -/

/-- The variables, whether the parse goes on or not. -/
def lastState : Except Parse Parse → Parse
  | .ok p => p
  | .error p => p

/-- What the loop has done after the first bits. -/
inductive Reached (r : TRxDataFilterRequest) (n : ℕ) : Except Parse Parse → Prop
  | ok (p : Parse) (F : List FieldPattern) : Inv r n p F → Reached r n (.ok p)
  | error (p : Parse) (j : ℕ) : j < n → Bad r j → Bounds p → Reached r n (.error p)

variable {e : Except Parse Parse}

theorem Outcome.reached (h : Outcome r n e) : Reached r (n + 1) e := by
  cases h with
  | ok p F _ hinv => exact .ok p F hinv
  | error p hbad _ hb => exact .error p n (Nat.lt_succ_self n) hbad hb

theorem Outcome.reads (h : Outcome r n e) : (lastState e).reads = List.range (readsAt r n) := by
  cases h with
  | ok p F hgood hinv => rw [readsAt_of_good hgood]; exact hinv.reads
  | error p _ hr _ => exact hr

theorem parseBits_zero (r : TRxDataFilterRequest) (f : FieldPattern) :
    ∃ p, parseBits r f 0 = .ok p ∧ Inv r 0 p [] := by
  refine ⟨_, rfl, ?_⟩
  exact
    { iter := rfl
      reads := rfl
      stores := by simp
      out := rfl
      num := rfl
      le := Nat.zero_le _
      fields := ⟨rfl, by simp [Parse.fields], .nil, rfl, by simp [Parse.fields]⟩
      building := rfl
      current := by simp
      gap := by simp
      near := by simp }

/-- **Every number of passes keeps the invariant, or ends with a bad bit.** -/
theorem parseBits_reached (f : FieldPattern) (hn : n ≤ maxPatternSize) :
    Reached r n (parseBits r f n) := by
  induction n with
  | zero =>
    obtain ⟨p, hp, hinv⟩ := parseBits_zero r f
    rw [hp]
    exact .ok p [] hinv
  | succ n ih =>
    unfold parseBits
    cases hp : parseBits r f n with
    | error p =>
      have h := ih (Nat.le_of_succ_le hn)
      rw [hp] at h
      cases h with
      | error p j hj hbad hb => exact .error p j (Nat.lt_succ_of_lt hj) hbad hb
    | ok p =>
      have h := ih (Nat.le_of_succ_le hn)
      rw [hp] at h
      cases h with
      | ok p F hinv =>
        exact (hinv.parseBit_cases hn).reached

/-- **The pattern is not left in the first bits exactly if** each bit behind its last byte is
rejected before. -/
theorem reads_lt_iff (f : FieldPattern) (hn : n ≤ maxPatternSize) :
    (∀ k ∈ (lastState (parseBits r f n)).reads, k < r.patternLength.toNat) ↔
      ∀ i < n, r.isSet i = true → setCount r i = r.patternLength.toNat →
        maxFieldPatterns < fieldCount r (i + 1) ∨ ∃ j < i, Beyond r j := by
  induction n with
  | zero => exact ⟨fun _ i hi => absurd hi (Nat.not_lt_zero i), fun _ k hk => nomatch hk⟩
  | succ n ih =>
    have ih := ih (Nat.le_of_succ_le hn)
    have hreached := parseBits_reached (r := r) f (Nat.le_of_succ_le hn)
    rw [Nat.forall_lt_succ_right, ← ih, parseBits]
    cases hreached' : parseBits r f n with
    | error p =>
      rw [hreached'] at hreached
      change (∀ k ∈ p.reads, k < r.patternLength.toNat) ↔
        (∀ k ∈ p.reads, k < r.patternLength.toNat) ∧ _
      refine (and_iff_left fun _ hcount => ?_).symm
      -- the bad bit before is one of the two other rejections
      cases hreached with
      | error p j hj hbad _ =>
        obtain ⟨-, hbad | hbad | hbad⟩ := hbad
        · exact .inl (Nat.lt_of_lt_of_le hbad (fieldCount_mono (Nat.succ_le_succ (Nat.le_of_lt hj))))
        · have := setCount_mono (r := r) (Nat.le_of_lt hj)
          omega
        · exact .inr ⟨j, hj, hbad⟩
    | ok p =>
      rw [hreached'] at hreached
      cases hreached with
      | ok p F hinv =>
        have hreads := (hinv.parseBit_cases hn).reads
        change (∀ k ∈ (lastState (parseBit r n p)).reads, k < r.patternLength.toNat) ↔
          (∀ k ∈ p.reads, k < r.patternLength.toNat) ∧ _
        have hnear : ¬ ∃ j < n, Beyond r j := fun ⟨j, hj, hb⟩ => hinv.near j hj hb
        rw [hreads, hinv.reads, or_iff_left hnear]
        simp only [List.mem_range, forall_lt_iff_le, readsAt]
        split
        next h =>
          obtain ⟨hset, hfit, hle⟩ := h
          constructor
          · intro hlt
            exact ⟨hle, fun _ heq => by omega⟩
          · rintro ⟨-, hends⟩
            by_contra hlt
            exact absurd (hends hset (by omega)) (Nat.not_lt.mpr hfit)
        next h =>
          rw [Nat.add_zero, iff_self_and]
          intro hle hset _
          by_contra hfit
          exact h ⟨hset, Nat.le_of_not_lt hfit, hle⟩

theorem Reached.bounds (h : Reached r n e) (hn : n ≤ maxPatternSize) : Bounds (lastState e) := by
  cases h with
  | error p j hj _ hb => exact hb
  | ok p F hinv =>
    refine hinv.fields.bounds hinv.le hn ?_ hinv.stores hinv.out
    unfold Parse.fields
    split
    · exact List.prefix_append F _
    · exact List.prefix_refl F

theorem maskBits_le (r : TRxDataFilterRequest) : r.maskLength.toNat * 8 ≤ maxPatternSize := by
  have := r.maskLength_le
  unfold maxMaskSize at this
  unfold maxPatternSize
  omega

theorem parse_accesses (f : FieldPattern) :
    (parseRxDataFilterRequest r f).2.reads =
        (lastState (parseBits r f (r.maskLength.toNat * 8))).reads ∧
      (parseRxDataFilterRequest r f).2.stores =
        (lastState (parseBits r f (r.maskLength.toNat * 8))).stores := by
  unfold parseRxDataFilterRequest
  cases parseBits r f (r.maskLength.toNat * 8) with
  | error p => exact ⟨rfl, rfl⟩
  | ok p =>
    dsimp only
    split
    · exact ⟨rfl, rfl⟩
    · dsimp only
      split <;> exact ⟨rfl, rfl⟩

theorem parse_accepted (f : FieldPattern) (h : (parseRxDataFilterRequest r f).1 = .ok) :
    ∃ p F, Inv r (r.maskLength.toNat * 8) p F ∧ (parseRxDataFilterRequest r f).2 = p.settle := by
  have hreached := parseBits_reached (r := r) f (maskBits_le r)
  unfold parseRxDataFilterRequest at h ⊢
  cases hp : parseBits r f (r.maskLength.toNat * 8) with
  | error p => rw [hp] at h; cases h
  | ok p =>
    rw [hp] at h hreached
    dsimp only at h ⊢
    cases hreached with
    | ok p F hinv =>
      split at h
      · cases h
      next hiter => rw [if_neg hiter]; exact ⟨p, F, hinv, rfl⟩

theorem parse_out_le (f : FieldPattern) :
    (parseRxDataFilterRequest r f).2.fieldPatterns.length ≤ maxDataFilterSize := by
  cases hs : (parseRxDataFilterRequest r f).1 with
  | ok =>
    obtain ⟨p, F, hinv, hp⟩ := parse_accepted f hs
    rw [hp, hinv.out_settle]
    exact hinv.fields.out_le hinv.le (maskBits_le r)
  | nok =>
    have hb := ((parseBits_reached (r := r) f (maskBits_le r)).bounds (maskBits_le r)).out
    unfold parseRxDataFilterRequest at hs ⊢
    cases hp : parseBits r f (r.maskLength.toNat * 8) with
    | error p => rw [hp] at hb; exact hb
    | ok p =>
      rw [hp] at hs hb
      dsimp only at hs ⊢
      split at hs
      next hiter => rw [if_pos hiter]; exact hb
      · cases hs

/-- **The run of the parser is right exactly if** the pattern is not left. -/
theorem compiles_iff (f : FieldPattern) :
    Compiles r (parseRxDataFilterRequest r f) ↔ EndsWithPattern r := by
  unfold EndsWithPattern
  rw [← reads_lt_iff f (maskBits_le r), ← (parse_accesses f).1]
  refine ⟨Compiles.reads, fun hreads => ?_⟩
  exact
    { reads := hreads
      stores := by
        rw [(parse_accesses f).2]
        exact ((parseBits_reached f (maskBits_le r)).bounds (maskBits_le r)).stores
      out := parse_out_le f
      accepted := by
        intro hs
        obtain ⟨p, F, hinv, hp⟩ := parse_accepted f hs
        refine ⟨p.fields F, ⟨hinv.fields.selects, hinv.fields.valid, hinv.fields.apart⟩, ?_, ?_⟩
        · rw [hp, hinv.num_settle, hinv.fields.length]
        · rw [hp, hinv.out_settle] }

/-! ## The slots -/

theorem add_cases (f : FieldPattern) (cfg : FilterStatus) (s : Filters) :
    (addRxDataFilter r f cfg s).1 = s ∨
      ∃ index, findFilterRequest r s = none ∧ s.isFilterSet index = false ∧
        (parseRxDataFilterRequest r f).1 = .ok ∧
        (addRxDataFilter r f cfg s).1 =
          { isFilterSet := update s.isFilterSet index true
            filterRequests := update s.filterRequests index r } := by
  unfold addRxDataFilter
  split
  · exact .inl rfl
  next hfind =>
    split
    · exact .inl rfl
    next index hindex =>
      split
      · exact .inl rfl
      next p hp =>
        split
        · exact .inl rfl
        · refine .inr ⟨index, by simpa using hfind, ?_, by rw [hp], rfl⟩
          simpa using List.find?_some hindex

theorem marksAccepted (f : FieldPattern) : MarksAccepted r f := by
  intro cfg s i hi
  rcases add_cases (r := r) f cfg s with hs | ⟨index, -, -, hok, hs⟩
  · rw [hs] at hi
    exact .inl hi
  · rw [hs] at hi ⊢
    by_cases he : i = index
    · exact .inr ⟨hok, by rw [he]; exact update_self ..⟩
    · refine .inl ?_
      simpa [update_of_ne he] using hi

/-- Calls of the two functions, from the state without filters. -/
inductive FilterCalls : Filters → Prop
  | init (s : Filters) : (∀ i, s.isFilterSet i = false) → FilterCalls s
  | add (r : TRxDataFilterRequest) (f : FieldPattern) (cfg : FilterStatus) {s : Filters} :
    FilterCalls s → FilterCalls (addRxDataFilter r f cfg s).1
  | remove (r : TRxDataFilterRequest) (cfg : FilterStatus) {s : Filters} :
    FilterCalls s → FilterCalls (removeRxDataFilter r cfg s).1

/-- A set slot holds an accepted request, and no two set slots the same one. -/
structure Filters.Good (s : Filters) : Prop where
  accepted : ∀ i, s.isFilterSet i →
    ∃ f, (parseRxDataFilterRequest (s.filterRequests i) f).1 = .ok
  distinct : ∀ i j, i ≠ j → s.isFilterSet i → s.isFilterSet j →
    (s.filterRequests i).same (s.filterRequests j) = false

theorem TRxDataFilterRequest.same_symm {a b : TRxDataFilterRequest} (h : a.same b = true) :
    b.same a = true := by
  simp only [same, Bool.and_eq_true, beq_iff_eq, List.all_eq_true] at h ⊢
  obtain ⟨⟨⟨⟨ho, hm⟩, hp⟩, hmask⟩, hpat⟩ := h
  rw [hm, hp]
  exact ⟨⟨⟨⟨ho.symm, rfl⟩, rfl⟩, fun i hi => (hmask i hi).symm⟩, fun i hi => (hpat i hi).symm⟩

variable {s : Filters}

theorem not_same_of_find (h : findFilterRequest r s = none) {i : Fin maxDataFilters}
    (hi : s.isFilterSet i) : (s.filterRequests i).same r = false := by
  have := List.find?_eq_none.mp h i (List.mem_finRange i)
  simpa [hi] using this

theorem Filters.Good.add (h : s.Good) (r : TRxDataFilterRequest) (f : FieldPattern)
    (cfg : FilterStatus) : (addRxDataFilter r f cfg s).1.Good := by
  rcases add_cases (r := r) f cfg s with hs | ⟨index, hfind, -, hok, hs⟩
  · rw [hs]
    exact h
  rw [hs]
  have hold {i : Fin maxDataFilters} (hi : i ≠ index) :
      update s.isFilterSet index true i = s.isFilterSet i ∧
        update s.filterRequests index r i = s.filterRequests i :=
    ⟨update_of_ne hi .., update_of_ne hi ..⟩
  constructor
  · intro i hset
    dsimp only at hset ⊢
    by_cases hi : i = index
    · subst hi
      exact ⟨f, by rw [update_self]; exact hok⟩
    · rw [(hold hi).1] at hset
      rw [(hold hi).2]
      exact h.accepted i hset
  · intro i j hne hi hj
    dsimp only at hi hj ⊢
    by_cases hii : i = index
    · subst hii
      have hji : j ≠ i := hne.symm
      rw [(hold hji).1] at hj
      rw [update_self, (hold hji).2]
      exact Bool.eq_false_iff.mpr fun hsame =>
        Bool.eq_false_iff.mp (not_same_of_find hfind hj)
          (TRxDataFilterRequest.same_symm hsame)
    · rw [(hold hii).1] at hi
      rw [(hold hii).2]
      by_cases hjj : j = index
      · subst hjj
        rw [update_self]
        exact not_same_of_find hfind hi
      · rw [(hold hjj).1] at hj
        rw [(hold hjj).2]
        exact h.distinct i j hne hi hj

theorem Filters.Good.remove (h : s.Good) (r : TRxDataFilterRequest)
    (cfg : FilterStatus) : (removeRxDataFilter r cfg s).1.Good := by
  unfold removeRxDataFilter
  split
  · exact h
  next index _ =>
    have hold {i : Fin maxDataFilters}
        (hi : update s.isFilterSet index false i = true) : s.isFilterSet i = true := by
      by_cases he : i = index
      · rw [he, update_self] at hi
        cases hi
      · rwa [update_of_ne he] at hi
    constructor
    · intro i hi
      exact h.accepted i (hold hi)
    · intro i j hne hi hj
      exact h.distinct i j hne (hold hi) (hold hj)

/-- **After any calls, a slot that is set holds a request that was accepted**, and no two slots hold
the same request. -/
theorem filters_hold_accepted (h : FilterCalls s) : s.Good := by
  induction h with
  | init s hs => exact ⟨fun i hi => by simp [hs i] at hi, fun i _ _ hi => by simp [hs i] at hi⟩
  | add r f cfg _ ih => exact ih.add r f cfg
  | remove r cfg _ ih => exact ih.remove r cfg

def oneByte : TRxDataFilterRequest := ⟨0, 1, 1, fun _ => 1, fun _ => 8, by decide, by decide⟩

theorem filters_hold_accepted_oneByte :
    (addRxDataFilter oneByte ⟨0, 0, [], fun _ => 0⟩ .tiOk
      ⟨fun _ => false, fun _ => oneByte⟩).1.Good :=
  filters_hold_accepted (.add _ _ _ (.init _ fun _ => rfl))

/-! ## The compiled filter -/

/-- **A filter request is compiled to what it says, inside all buffers, and marks a slot only when
it is accepted, exactly if** no masked byte comes right behind the last byte of the pattern,
unless an earlier check rejects the request. -/
theorem filter_compiles_iff (r : TRxDataFilterRequest) (f : FieldPattern) :
    (Compiles r (parseRxDataFilterRequest r f) ∧ MarksAccepted r f) ↔ EndsWithPattern r :=
  (and_iff_left (marksAccepted f)).trans (compiles_iff f)

/-- A mask of two bytes, and one byte of pattern. -/
def shortPattern : TRxDataFilterRequest where
  offset := 0
  maskLength := 1
  patternLength := 1
  mask := fun _ => 3
  pattern := fun _ => 0
  maskLength_le := by decide
  patternLength_le := by decide

/-- **The byte behind the pattern is read**: the length check admits one byte too many. -/
theorem short_pattern_read_beyond : ¬ ∀ (r : TRxDataFilterRequest) (f : FieldPattern),
    Compiles r (parseRxDataFilterRequest r f) ∧ MarksAccepted r f := by
  intro h
  have hread := (h shortPattern ⟨0, 0, [], fun _ => 0⟩).1.reads 1 (by decide)
  exact absurd hread (by decide)

end ArchosGpl.Wlan.RxData
