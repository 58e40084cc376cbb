import ArchosGpl.Wlan.AdmCtrlWpa2.IeParsing
import ArchosGpl.Wlan.AdmCtrlWpa2.SuiteModel
import Mathlib.Data.List.Perm.Basic

/-!
# The choice of the best cipher suite

`parseIe_suites` says what the parser leaves of the suites of an element: only the first two of
three are compared by its sort, and they are put in increasing order.

* `choosesBest_iff`: **for an accepted element, the suites are in decreasing order and the best
  combination is chosen, whatever the order, exactly if** the element lists its suites best first,
  the first two of three the same, and the table is neither left nor asked for TKIP with AES-CCMP
  (`ChoiceFits`).
-/

namespace ArchosGpl.Wlan.AdmCtrlWpa2

/-! ## What an element advertises -/

namespace Dot11Rsn

variable (ie : Dot11Rsn)

def groupSuite : ℕ :=
  if ie.len.toNat < wpa2IeGroupSuiteLength then twdCipherAesCcmp
  else ie.parseSuiteVal 2 twdCipherWep104 twdCipherUnknown

/-- The pairwise suites of an element, in the order of the AP; "use group" is the group suite. -/
def pairwiseSuites : List ℕ :=
  if ie.len.toNat < wpa2IeMinPairwiseSuiteLength then [twdCipherAesCcmp]
  else (List.range (ie.word 6)).map fun k => Parse.suiteAt ie ie.groupSuite (8 + 4 * k)

end Dot11Rsn

/-- What the sort of at most three suites does: only the first two are compared. -/
def sortSuites : List ℕ → List ℕ
  | [a, b, c] => if b < a then [b, a, c] else [a, b, c]
  | l => l

namespace Parse

variable {ie : Dot11Rsn} {p q : Parse}

theorem suites_of_three (h : p.data.unicastSuiteCnt = 3) : p.data.suites =
    [p.data.unicastSuite 0, p.data.unicastSuite 1, p.data.unicastSuite 2] := by
  rw [Wpa2IeData.suites, h]
  rfl

theorem suites_sortUnicastSuites (h : p.data.unicastSuiteCnt ≤ unicastCipherMaxnoInRsnie) :
    p.sortUnicastSuites.data.suites = sortSuites p.data.suites := by
  unfold unicastCipherMaxnoInRsnie at h
  obtain h3 | hlt := Nat.eq_or_lt_of_le h
  · -- the only comparison is that of the first two
    have hsort : p.sortUnicastSuites = p.sortPass 0 := by
      unfold sortUnicastSuites
      rw [h3]
      rfl
    rw [hsort, suites_of_three h3, sortSuites]
    unfold sortPass
    split <;> exact suites_of_three h3
  · have hsort : p.sortUnicastSuites = p := by
      unfold sortUnicastSuites
      split
      next hgt =>
        have h2 : p.data.unicastSuiteCnt = 2 := by omega
        rw [h2]
        rfl
      · rfl
    rw [hsort, sortSuites]
    rintro a b c habc
    have hlen := congrArg List.length habc
    rw [Wpa2IeData.suites, List.length_map, List.length_range] at hlen
    simp at hlen
    omega

theorem suites_unicastLoop (ie : Dot11Rsn) {n : ℕ} (ho : p.dataOffset = 8) (hn : n ≤ unicastCipherMaxnoInRsnie)
    (hcnt : p.data.unicastSuiteCnt = n) :
    ((List.range n).foldl (parseUnicastSuite ie) p).data.suites =
      (List.range n).map fun k => suiteAt ie p.data.broadcastSuite (8 + 4 * k) := by
  unfold unicastCipherMaxnoInRsnie at hn
  obtain ⟨hkeep, -, hsuite, -⟩ := unicastLoop ie (n := n) ho (by omega) (by omega)
  rw [Wpa2IeData.suites, hkeep.cnt, hcnt]
  exact List.map_congr_left fun k hk => hsuite k (List.mem_range.mp hk)

/-- The part of the parser behind the pairwise suites leaves them alone. -/
structure KeepsSuites (p q : Parse) : Prop where
  suites : q.data.suites = p.data.suites
  broadcast : q.data.broadcastSuite = p.data.broadcastSuite

variable {fuel : ℕ}

theorem parseKeyMngSuites_keeps {i : ℕ} (h : parseKeyMngSuites ie fuel i p = some q) :
    KeepsSuites p q := by
  induction fuel generalizing i p with
  | zero => cases h
  | succ fuel ih =>
    rw [parseKeyMngSuites] at h
    split at h
    · obtain ⟨-, hsuite, hkeep, -⟩ := parseKeyMngSuite_keeps ie (p := p) i
      have hrest := ih h
      refine ⟨hrest.suites.trans ?_, hrest.broadcast.trans hkeep.broadcast⟩
      rw [Wpa2IeData.suites, Wpa2IeData.suites, hkeep.cnt, hsuite]
    · cases h
      exact ⟨rfl, rfl⟩

theorem parseKeyMng_keeps {status : TiStatus}
    (h : p.parseKeyMng ie fuel = some (q, status)) : KeepsSuites p q := by
  unfold parseKeyMng at h
  obtain ⟨r, hr, hq⟩ := Option.map_eq_some_iff.mp h
  have hkeep := parseKeyMngSuites_keeps hr
  split at hq
  · cases hq
    exact ⟨hkeep.suites, hkeep.broadcast⟩
  · cases hq
    exact ⟨hkeep.suites, hkeep.broadcast⟩

/-- **What an accepted element leaves**: its group suite, and its pairwise suites after the sort. -/
theorem parseIe_suites {akm : Bool} {data : Wpa2IeData}
    (h : parseIe ie fuel akm data = some (p, .ok)) : p.data.broadcastSuite = ie.groupSuite ∧
      p.data.suites = sortSuites ie.pairwiseSuites ∧
      ie.pairwiseSuites.length ≤ unicastCipherMaxnoInRsnie := by
  unfold parseIe at h
  simp only at h
  unfold Dot11Rsn.pairwiseSuites
  split at h
  · cases h
  split at h
  next hgroup =>
    cases h
    have hpair : ie.len.toNat < wpa2IeMinPairwiseSuiteLength := by
      unfold wpa2IeGroupSuiteLength at hgroup
      unfold wpa2IeMinPairwiseSuiteLength
      omega
    rw [if_pos hpair, Dot11Rsn.groupSuite, if_pos hgroup]
    exact ⟨rfl, rfl, by decide⟩
  next hgroup =>
    have hg : ie.groupSuite = ie.parseSuiteVal 2 twdCipherWep104 twdCipherUnknown := by
      rw [Dot11Rsn.groupSuite, if_neg hgroup]
    split at h
    next hpair =>
      cases h
      rw [if_pos hpair, hg]
      exact ⟨rfl, rfl, by decide⟩
    next hpair =>
      rw [if_neg hpair]
      generalize hs : ((start akm data).setDefaults.parseGroupSuite ie) = s at h
      have hoff : s.dataOffset = 6 := by rw [← hs]; rfl
      have hbs : s.data.broadcastSuite = ie.groupSuite := by rw [← hs, hg]; rfl
      unfold parsePairwise at h
      simp only at h
      split at h
      · cases h
      next hcnt =>
        have hcnt' : (s.parseUnicastSuiteCnt ie).data.unicastSuiteCnt = ie.word 6 := by
          rw [← hoff]
          rfl
        have hoff' : (s.parseUnicastSuiteCnt ie).dataOffset = 8 := by
          change (s.dataOffset + 2) % 2 ^ 8 = 8
          omega
        rw [hcnt'] at h hcnt
        have hle := Nat.le_of_not_lt hcnt
        have hloop := suites_unicastLoop ie hoff' hle hcnt'
        obtain ⟨hkeep, -⟩ := unicastLoop ie (n := ie.word 6) hoff'
          (by unfold unicastCipherMaxnoInRsnie at hle; omega)
          (by unfold unicastCipherMaxnoInRsnie at hle; omega)
        generalize (List.range (ie.word 6)).foldl (parseUnicastSuite ie)
          (s.parseUnicastSuiteCnt ie) = t at h hloop hkeep
        have hsuites := suites_sortUnicastSuites (p := t) (by rw [hkeep.cnt, hcnt']; exact hle)
        have hsorts := sortUnicastSuites_sorts (p := t) (by
          rw [hkeep.cnt, hcnt']
          exact Nat.le_trans hle (by decide))
        have hkeeps : KeepsSuites t.sortUnicastSuites p := by
          split at h
          · cases h
            exact ⟨rfl, rfl⟩
          · exact parseKeyMng_keeps h
        rw [List.length_map, List.length_range]
        refine ⟨?_, ?_, hle⟩
        · rw [hkeeps.broadcast, hsorts.broadcast, hkeep.broadcast]
          exact hbs
        · rw [hkeeps.suites, hsuites, hloop]
          rw [show (s.parseUnicastSuiteCnt ie).data.broadcastSuite = ie.groupSuite from hbs]

end Parse

/-! ## The best combination -/

/-- The encryptions that are allowed: the configured one, and AES-CCMP if it may be promoted. -/
def allowedEncryptions (encryption : ℕ) (promote : Bool) : List ℕ :=
  if encryption = twdCipherNone then []
  else if promote ∧ encryption ≠ twdCipherAesCcmp then [encryption, twdCipherAesCcmp]
  else [encryption]

/-- A valid entry of the table for one of the suites, the group suite and one of the encryptions. -/
def Candidate (suites : List ℕ) (broadcast : ℕ) (encryptions : List ℕ) (v : Validity) : Prop :=
  v.status = .ok ∧ ∃ u ∈ suites, ∃ e ∈ encryptions, validityTable u broadcast e = some v

/-- **The result is a best candidate**, and a failure if there is none. -/
structure Best (suites : List ℕ) (broadcast : ℕ) (encryptions : List ℕ) (m : SuiteMetric) :
    Prop where
  succeeds : m.status = .ok ↔ ∃ v, Candidate suites broadcast encryptions v
  chosen : m.status = .ok → ∃ v, Candidate suites broadcast encryptions v ∧
    m = ⟨.ok, v.evaluation, v.unicast, v.broadcast⟩
  maximal : ∀ v, Candidate suites broadcast encryptions v → v.evaluation ≤ m.metric

/-- **What the choice of a cipher suite must be**: the pairwise suites are in decreasing order, the
result is a best candidate, and the order of the suites in the element does not matter. -/
structure ChoosesBest (ie : Dot11Rsn) (d : Wpa2IeData) (encryption : ℕ) (promote : Bool) : Prop where
  sorted : d.suites.Pairwise (· ≥ ·)
  best : ∃ m, getCipherSuiteMetric d encryption promote = some m ∧
    Best ie.pairwiseSuites ie.groupSuite (allowedEncryptions encryption promote) m ∧
    ∀ (ie' : Dot11Rsn) (fuel : ℕ) (akm : Bool) (data : Wpa2IeData) (p : Parse),
      Parse.parseIe ie' fuel akm data = some (p, .ok) → ie'.groupSuite = ie.groupSuite →
      ie'.pairwiseSuites.Perm ie.pairwiseSuites →
      getCipherSuiteMetric p.data encryption promote = some m

/-- The suites, the group suite and the encryption are those of the table, and it is not that TKIP
is configured and is the group suite while both TKIP and AES-CCMP are offered. -/
structure Clear (suites : List ℕ) (broadcast encryption : ℕ) : Prop where
  known : ∀ u ∈ suites, u < maxWpa2CipherSuite
  group : broadcast < maxWpa2CipherSuite
  configured : encryption < maxWpa2CipherSuite
  tkip : ¬ (broadcast = twdCipherTkip ∧ encryption = twdCipherTkip ∧ twdCipherTkip ∈ suites ∧
    twdCipherAesCcmp ∈ suites)

/-- **The elements for which the choice is right**: the suites are in decreasing order, the first
two of three are the same, and the choice is clear. -/
def ChoiceFits (ie : Dot11Rsn) (encryption : ℕ) : Prop :=
  ie.pairwiseSuites.Pairwise (· ≥ ·) ∧ (∀ a b c, ie.pairwiseSuites = [a, b, c] → a = b) ∧
    (ie.pairwiseSuites = [] ∨ encryption = twdCipherNone ∨
      Clear ie.pairwiseSuites ie.groupSuite encryption)

/-! ### The sort -/

variable {l l' : List ℕ}

theorem perm_sortSuites (l : List ℕ) : (sortSuites l).Perm l := by
  unfold sortSuites
  split
  · split
    · exact .swap ..
    · exact .refl _
  · exact .refl _

/-- **The sort leaves a decreasing list** only where it does nothing. -/
theorem sortSuites_decreasing_iff (hl : l.length ≤ 3) : (sortSuites l).Pairwise (· ≥ ·) ↔
    l.Pairwise (· ≥ ·) ∧ ∀ a b c, l = [a, b, c] → a = b := by
  match l, hl with
  | [], _ => simp [sortSuites]
  | [a], _ => simp [sortSuites]
  | [a, b], _ => simp [sortSuites]
  | [a, b, c], _ =>
    simp only [sortSuites, List.cons.injEq, and_true]
    split
    next hlt =>
      constructor
      · intro h
        have hba := List.rel_of_pairwise_cons h (List.mem_cons_self (a := a))
        omega
      · rintro ⟨-, heq⟩
        have := heq a b c ⟨rfl, rfl, rfl⟩
        omega
    next hge =>
      constructor
      · intro h
        refine ⟨h, ?_⟩
        rintro _ _ _ ⟨rfl, rfl, rfl⟩
        have hab := List.rel_of_pairwise_cons h (List.mem_cons_self (a := b))
        omega
      · exact And.left

/-! ### The table -/

variable {b e u : ℕ}

theorem suite_of_valid (h : (validityEntry u b e).status = .ok) (hu : u ≠ 0) :
    b = twdCipherTkip ∧ e = twdCipherTkip ∧ (u = twdCipherTkip ∨ u = twdCipherAesCcmp) ∨
      u = if b = twdCipherAesCcmp ∧ e = twdCipherTkip then twdCipherAesCcmp else e := by
  unfold validityEntry at h
  unfold twdCipherTkip twdCipherAesCcmp
  split at h <;> simp_all

theorem tkip_or_aes_of_valid
    (h : (validityEntry u twdCipherTkip twdCipherTkip).status = .ok) (hu : u ≠ 0) :
    u = twdCipherTkip ∨ u = twdCipherAesCcmp :=
  (suite_of_valid h hu).elim (fun hc => hc.2.2) Or.inl

theorem group_of_valid (h : (validityEntry u b e).status = .ok) : b ≠ 0 := by
  unfold validityEntry at h
  split at h <;> simp_all

theorem evaluation_of_valid (h : (validityEntry u b e).status = .ok) :
    0 < (validityEntry u b e).evaluation := by
  unfold validityEntry at h ⊢
  split at h <;> simp_all

theorem zero_mem_pairwiseSuites {ie : Dot11Rsn} (h : 0 ∈ ie.pairwiseSuites) : ie.groupSuite = 0 := by
  unfold Dot11Rsn.pairwiseSuites at h
  split at h
  · exact absurd (List.mem_singleton.mp h) (by decide)
  · obtain ⟨k, -, hk⟩ := List.mem_map.mp h
    unfold Parse.suiteAt at hk
    dsimp only at hk
    split at hk
    · exact hk
    next hne => exact absurd hk hne

/-- The suites with a valid entry have the same one. -/
def Unique (l : List ℕ) (b e : ℕ) : Prop :=
  ∀ u ∈ l, ∀ v ∈ l, (validityEntry u b e).status = .ok → (validityEntry v b e).status = .ok → u = v

theorem Clear.unique {e' : ℕ} (h : Clear l b e) (h0 : 0 ∈ l → b = 0)
    (he : e' = e ∨ e' ≠ twdCipherTkip) : Unique l b e' := by
  intro u hu v hv hu' hv'
  have hb := group_of_valid hu'
  have hu0 : u ≠ 0 := fun hz => hb (h0 (hz ▸ hu))
  have hv0 : v ≠ 0 := fun hz => hb (h0 (hz ▸ hv))
  by_cases hbe : b = twdCipherTkip ∧ e' = twdCipherTkip
  · obtain ⟨rfl, rfl⟩ := hbe
    have hclash := h.tkip
    rw [← he.resolve_right (not_not_intro rfl)] at hclash
    rcases tkip_or_aes_of_valid hu' hu0 with rfl | rfl <;>
      rcases tkip_or_aes_of_valid hv' hv0 with rfl | rfl
    · rfl
    · exact absurd ⟨rfl, rfl, hu, hv⟩ hclash
    · exact absurd ⟨rfl, rfl, hv, hu⟩ hclash
    · rfl
  · have husuite := (suite_of_valid hu' hu0).resolve_left fun hc => hbe ⟨hc.1, hc.2.1⟩
    have hvsuite := (suite_of_valid hv' hv0).resolve_left fun hc => hbe ⟨hc.1, hc.2.1⟩
    rw [husuite, hvsuite]

/-! ### The loops -/

/-- The valid entry that a pass over the suites finds. -/
def validOf (l : List ℕ) (b e : ℕ) : Option Validity :=
  (l.map fun u => validityEntry u b e).find? fun v => v.status = .ok

variable {v : Validity}

theorem validOf_eq_some (h : validOf l b e = some v) :
    v.status = .ok ∧ ∃ u ∈ l, validityEntry u b e = v := by
  unfold validOf at h
  exact ⟨by simpa using List.find?_some h, List.mem_map.mp (List.mem_of_find?_eq_some h)⟩

theorem validOf_eq_none (h : validOf l b e = none) :
    ∀ u ∈ l, (validityEntry u b e).status ≠ .ok := by
  intro u hu
  have := List.find?_eq_none.mp h (validityEntry u b e) (List.mem_map_of_mem hu)
  simpa using this

theorem validOf_of_mem (h : Unique l b e) (hu : u ∈ l)
    (hv : (validityEntry u b e).status = .ok) : validOf l b e = some (validityEntry u b e) := by
  cases hf : validOf l b e with
  | none => exact absurd hv (validOf_eq_none hf u hu)
  | some v =>
    obtain ⟨hok, w, hw, rfl⟩ := validOf_eq_some hf
    rw [h u hu w hw hv hok]

theorem validOf_perm (h : Unique l b e) (hp : l'.Perm l) : validOf l' b e = validOf l b e := by
  cases hf : validOf l' b e with
  | some v =>
    obtain ⟨hok, w, hw, rfl⟩ := validOf_eq_some hf
    exact (validOf_of_mem h (hp.subset hw) hok).symm
  | none =>
    cases hg : validOf l b e with
    | none => rfl
    | some v =>
      obtain ⟨hok, w, hw, rfl⟩ := validOf_eq_some hg
      exact absurd hok (validOf_eq_none hf w (hp.symm.subset hw))

theorem validityTable_eq (hu : u < maxWpa2CipherSuite) (hb : b < maxWpa2CipherSuite)
    (he : e < maxWpa2CipherSuite) : validityTable u b e = some (validityEntry u b e) :=
  if_pos ⟨hu, hb, he⟩

theorem findValid_eq {w : Validity} (hl : ∀ u ∈ l, u < maxWpa2CipherSuite)
    (hb : b < maxWpa2CipherSuite) (he : e < maxWpa2CipherSuite) (h0 : l = [] → w.status ≠ .ok) :
    ∃ v, findValid b e l w = some v ∧ validOf l b e = if v.status = .ok then some v else none := by
  induction l generalizing w with
  | nil => exact ⟨w, rfl, (if_neg (h0 rfl)).symm⟩
  | cons u l ih =>
    rw [findValid, validityTable_eq (hl u List.mem_cons_self) hb he]
    dsimp only
    by_cases hok : (validityEntry u b e).status = .ok
    · refine ⟨_, if_pos hok, ?_⟩
      rw [if_pos hok, validOf, List.map_cons, List.find?_cons_of_pos (by simpa using hok)]
    · rw [if_neg hok]
      obtain ⟨v, hv, hval⟩ := ih (w := validityEntry u b e)
        (fun w hw => hl w (List.mem_cons_of_mem u hw)) (fun _ => hok)
      refine ⟨v, hv, ?_⟩
      rw [← hval, validOf, List.map_cons, List.find?_cons_of_neg (by simpa using hok)]
      rfl

/-- A pass replaces the result by the entry that it finds. -/
def SuiteMetric.take (m : SuiteMetric) (v : Option Validity) : SuiteMetric := v.elim m m.update

theorem update_eq_take (m : SuiteMetric) (v : Validity) :
    m.update v = m.take (if v.status = .ok then some v else none) := by
  split
  · rfl
  next h => exact if_neg fun hv => h hv.1

variable {d : Wpa2IeData}

/-- **The loop over the encryptions**, where the table is not left. -/
theorem getCipherSuiteMetric_eq (promote : Bool)
    (hl : ∀ u ∈ d.suites, u < maxWpa2CipherSuite) (hb : d.broadcastSuite < maxWpa2CipherSuite)
    (he : e < maxWpa2CipherSuite) : getCipherSuiteMetric d e promote =
      some ((allowedEncryptions e promote).foldl
        (fun m e => m.take (validOf d.suites d.broadcastSuite e)) ⟨.nok, 0, 0, 0⟩) := by
  unfold getCipherSuiteMetric allowedEncryptions
  by_cases hnone : e = twdCipherNone
  · rw [if_pos hnone, metricLoop, if_pos hnone]
    rfl
  obtain ⟨v, hv, hval⟩ := findValid_eq (w := validityEntry 0 0 0) hl hb he fun _ => by decide
  have hnil : d.suites = [] → v.status ≠ .ok := by
    intro hnil hok
    rw [hnil, validOf, if_pos hok] at hval
    cases hval
  rw [if_neg hnone, metricLoop, if_neg hnone, hv]
  dsimp only
  rw [update_eq_take, ← hval, nextEncryption]
  split
  next hp =>
    obtain ⟨w, hw, hwal⟩ := findValid_eq (w := v) hl hb (by decide : twdCipherAesCcmp < _) hnil
    rw [metricLoop, if_neg (by decide), hw]
    dsimp only
    rw [update_eq_take, ← hwal, nextEncryption, if_neg (by simp), metricLoop, if_pos rfl]
    rfl
  next =>
    rw [metricLoop, if_pos rfl]
    rfl

/-- The result after some encryptions; a failure has no metric. -/
structure BestSoFar (l : List ℕ) (b : ℕ) (es : List ℕ) (m : SuiteMetric) : Prop
    extends Best l b es m where
  failed : m.status ≠ .ok → m.metric = 0

theorem candidate_append {es : List ℕ} :
    Candidate l b (es ++ [e]) v ↔ Candidate l b es v ∨ Candidate l b [e] v := by
  unfold Candidate
  simp only [List.mem_append, List.mem_singleton, exists_eq_left]
  constructor
  · rintro ⟨hok, u, hu, e', he | rfl, hv⟩
    · exact .inl ⟨hok, u, hu, e', he, hv⟩
    · exact .inr ⟨hok, u, hu, hv⟩
  · rintro (⟨hok, u, hu, e', he, hv⟩ | ⟨hok, u, hu, hv⟩)
    · exact ⟨hok, u, hu, e', .inl he, hv⟩
    · exact ⟨hok, u, hu, e, .inr rfl, hv⟩

theorem candidate_iff (hl : ∀ u ∈ l, u < maxWpa2CipherSuite)
    (hb : b < maxWpa2CipherSuite) (he : e < maxWpa2CipherSuite) (hu : Unique l b e) :
    Candidate l b [e] v ↔ validOf l b e = some v := by
  unfold Candidate
  simp only [List.mem_singleton, exists_eq_left]
  constructor
  · rintro ⟨hok, u, hul, hv⟩
    rw [validityTable_eq (hl u hul) hb he, Option.some.injEq] at hv
    subst hv
    exact validOf_of_mem hu hul hok
  · intro hv
    obtain ⟨hok, u, hul, rfl⟩ := validOf_eq_some hv
    exact ⟨hok, u, hul, validityTable_eq (hl u hul) hb he⟩

theorem BestSoFar.take {es : List ℕ} {m : SuiteMetric} (h : BestSoFar l b es m)
    (hl : ∀ u ∈ l, u < maxWpa2CipherSuite) (hb : b < maxWpa2CipherSuite)
    (he : e < maxWpa2CipherSuite) (hu : Unique l b e) :
    BestSoFar l b (es ++ [e]) (m.take (validOf l b e)) := by
  have hcand {v : Validity} := candidate_iff (v := v) hl hb he hu
  cases hv : validOf l b e with
  | none =>
    have hsame {v : Validity} : Candidate l b (es ++ [e]) v ↔ Candidate l b es v := by
      rw [candidate_append, hcand, hv]
      simp
    exact
      { succeeds := h.succeeds.trans (exists_congr fun v => hsame.symm)
        chosen := fun hok =>
          let ⟨v, hc, hm⟩ := h.chosen hok
          ⟨v, hsame.mpr hc, hm⟩
        maximal := fun v hc => h.maximal v (hsame.mp hc)
        failed := h.failed }
  | some w =>
    obtain ⟨hok, u, hul, hw⟩ := validOf_eq_some hv
    have hpos : 0 < w.evaluation := by
      rw [← hw] at hok ⊢
      exact evaluation_of_valid hok
    have hwc : Candidate l b (es ++ [e]) w := candidate_append.mpr (.inr (hcand.mpr hv))
    have hsplit {v : Validity} (hc : Candidate l b (es ++ [e]) v) : Candidate l b es v ∨ v = w := by
      rcases candidate_append.mp hc with hc | hc
      · exact .inl hc
      · rw [hcand, hv, Option.some.injEq] at hc
        exact .inr hc.symm
    change BestSoFar l b (es ++ [e]) (m.update w)
    unfold SuiteMetric.update
    by_cases hlt : m.metric < w.evaluation
    · rw [if_pos ⟨hok, hlt⟩, hok]
      exact
        { succeeds := iff_of_true rfl ⟨w, hwc⟩
          chosen := fun _ => ⟨w, hwc, rfl⟩
          maximal := by
            intro v hc
            rcases hsplit hc with hc | rfl
            · exact Nat.le_trans (h.maximal v hc) (Nat.le_of_lt hlt)
            · exact Nat.le_refl _
          failed := fun hne => absurd rfl hne }
    · rw [if_neg fun hboth => hlt hboth.2]
      have hmok : m.status = .ok := by
        by_contra hne
        have := h.failed hne
        omega
      exact
        { succeeds := iff_of_true hmok ⟨w, hwc⟩
          chosen := fun _ =>
            let ⟨v, hc, hm⟩ := h.chosen hmok
            ⟨v, candidate_append.mpr (.inl hc), hm⟩
          maximal := by
            intro v hc
            rcases hsplit hc with hc | rfl
            · exact h.maximal v hc
            · exact Nat.le_of_not_lt hlt
          failed := h.failed }

theorem bestSoFar_nil (l : List ℕ) (b : ℕ) : BestSoFar l b [] ⟨.nok, 0, 0, 0⟩ := by
  have hnone (v : Validity) : ¬ Candidate l b [] v := by simp [Candidate]
  exact
    { succeeds := iff_of_false (by decide) fun ⟨v, hv⟩ => hnone v hv
      chosen := fun h => nomatch h
      maximal := fun v hv => absurd hv (hnone v)
      failed := fun _ => rfl }

theorem best_foldl (promote : Bool) (h : Clear l b e) (h0 : 0 ∈ l → b = 0) :
    Best l b (allowedEncryptions e promote)
      ((allowedEncryptions e promote).foldl (fun m e => m.take (validOf l b e)) ⟨.nok, 0, 0, 0⟩) := by
  have hnil := bestSoFar_nil l b
  unfold allowedEncryptions
  split
  · exact hnil.toBest
  · have hone := hnil.take h.known h.group h.configured (h.unique h0 (.inl rfl))
    split
    · exact (hone.take h.known h.group (by decide : twdCipherAesCcmp < _)
        (h.unique h0 (.inr (by decide)))).toBest
    · exact hone.toBest

/-! ### The choice -/

theorem getCipherSuiteMetric_clear (promote : Bool) (h : Clear l b e)
    (h0 : 0 ∈ l → b = 0) (hp : d.suites.Perm l) (hb : d.broadcastSuite = b) :
    getCipherSuiteMetric d e promote = some ((allowedEncryptions e promote).foldl
      (fun m e => m.take (validOf l b e)) ⟨.nok, 0, 0, 0⟩) := by
  rw [getCipherSuiteMetric_eq promote (fun u hu => h.known u (hp.subset hu)) (hb ▸ h.group)
    h.configured, hb]
  congr 1
  unfold allowedEncryptions
  have hsame := validOf_perm (h.unique h0 (.inl rfl)) hp
  split
  · rfl
  · split
    · have hsame' := validOf_perm (e := twdCipherAesCcmp) (h.unique h0 (.inr (by decide))) hp
      simp only [List.foldl_cons, List.foldl_nil, hsame, hsame']
    · simp only [List.foldl_cons, List.foldl_nil, hsame]

theorem findValid_nil (b e : ℕ) (v : Validity) : findValid b e [] v = some v := rfl

theorem getCipherSuiteMetric_idle (promote : Bool) (h : d.suites = [] ∨ e = twdCipherNone) :
    getCipherSuiteMetric d e promote = some ⟨.nok, 0, 0, 0⟩ := by
  unfold getCipherSuiteMetric
  rcases h with h | h
  · have hupd (m : SuiteMetric) : m.update (validityEntry 0 0 0) = m :=
      if_neg fun hv => absurd hv.1 (by decide)
    rw [h, metricLoop]
    split
    · rfl
    · rw [findValid_nil]
      dsimp only
      rw [hupd, metricLoop]
      split
      · rfl
      next h1 =>
        have hnext : nextEncryption promote e = twdCipherAesCcmp := by
          unfold nextEncryption at h1 ⊢
          split
          · rfl
          next h2 => rw [if_neg h2] at h1; exact absurd rfl h1
        rw [findValid_nil]
        dsimp only
        rw [hupd, hnext, nextEncryption, if_neg (by simp), metricLoop, if_pos rfl]
        rfl
  · rw [metricLoop, if_pos h]
    rfl

theorem best_idle (promote : Bool) (h : l = [] ∨ e = twdCipherNone) :
    Best l b (allowedEncryptions e promote) ⟨.nok, 0, 0, 0⟩ := by
  have hnone (v : Validity) : ¬ Candidate l b (allowedEncryptions e promote) v := by
    rintro ⟨-, u, hu, e', he, -⟩
    rcases h with h | h
    · rw [h] at hu
      exact nomatch hu
    · rw [allowedEncryptions, if_pos h] at he
      exact nomatch he
  exact
    { succeeds := iff_of_false (by decide) fun ⟨v, hv⟩ => hnone v hv
      chosen := fun hok => nomatch hok
      maximal := fun v hv => absurd hv (hnone v) }

theorem metric_of_tkip (promote : Bool) (hb : d.broadcastSuite = twdCipherTkip)
    (hl : d.suites = [4, 2] ∨ d.suites = [4, 4, 2]) :
    getCipherSuiteMetric d twdCipherTkip promote = some ⟨.ok, 6, 4, 2⟩ := by
  unfold getCipherSuiteMetric
  rcases hl with hl | hl <;> rw [hl, hb] <;> cases promote <;> rfl

theorem suites_of_tkip (hlen : l.length ≤ 3) (hs : l.Pairwise (· ≥ ·))
    (h3 : ∀ a b c, l = [a, b, c] → a = b) (ht : 2 ∈ l) (hc : 4 ∈ l) :
    l = [4, 2] ∨ l = [4, 4, 2] := by
  match l, hlen with
  | [], _ => exact nomatch ht
  | [a], _ =>
    have h2 := List.mem_singleton.mp ht
    have h4 := List.mem_singleton.mp hc
    omega
  | [a, b], _ =>
    simp only [List.pairwise_cons, List.mem_cons, List.not_mem_nil, or_false] at hs ht hc
    have hab := hs.1 b rfl
    left
    rw [show a = 4 by omega, show b = 2 by omega]
  | [a, b, c], _ =>
    have heq := h3 a b c rfl
    simp only [List.pairwise_cons, List.mem_cons, List.not_mem_nil, or_false] at hs ht hc
    have hbc := hs.2.1 c rfl
    right
    rw [show a = 4 by omega, show b = 4 by omega, show c = 2 by omega]

variable {ie : Dot11Rsn} {p : Parse} {e : ℕ} {promote : Bool}

theorem lookup_of_metric {us : List ℕ} {m : SuiteMetric}
    (hm : getCipherSuiteMetric d e promote = some m) (hd : d.suites = u :: us)
    (he : e ≠ twdCipherNone) : u < maxWpa2CipherSuite ∧ d.broadcastSuite < maxWpa2CipherSuite ∧
      e < maxWpa2CipherSuite := by
  by_contra hout
  unfold getCipherSuiteMetric at hm
  rw [hd, metricLoop, if_neg he, findValid, validityTable, if_neg hout] at hm
  cases hm

theorem choiceFits_of_choosesBest {fuel : ℕ} {akm : Bool} {data : Wpa2IeData}
    (hp : Parse.parseIe ie fuel akm data = some (p, .ok)) (h : ChoosesBest ie p.data e promote) :
    ChoiceFits ie e := by
  obtain ⟨hb, hs, hlen⟩ := Parse.parseIe_suites hp
  have hsorted := h.sorted
  rw [hs] at hsorted
  obtain ⟨hdec, h3⟩ := (sortSuites_decreasing_iff hlen).mp hsorted
  refine ⟨hdec, h3, ?_⟩
  by_cases hnil : ie.pairwiseSuites = []
  · exact .inl hnil
  by_cases he : e = twdCipherNone
  · exact .inr (.inl he)
  refine .inr (.inr ?_)
  obtain ⟨m, hm, hbest, -⟩ := h.best
  have hperm := perm_sortSuites ie.pairwiseSuites
  rw [← hs] at hperm
  obtain ⟨u, us, hus⟩ : ∃ u us, p.data.suites = u :: us := by
    cases hd : p.data.suites with
    | nil => exact absurd (List.nil_perm.mp (hd ▸ hperm)) hnil
    | cons u us => exact ⟨u, us, rfl⟩
  obtain ⟨hu, hbl, hel⟩ := lookup_of_metric hm hus he
  rw [hb] at hbl
  refine ⟨fun v hv => ?_, hbl, hel, ?_⟩
  · have hmem := hperm.symm.subset hv
    have hsort := h.sorted
    rw [hus] at hmem hsort
    rcases List.mem_cons.mp hmem with rfl | hmem
    · exact hu
    · exact Nat.lt_of_le_of_lt (List.rel_of_pairwise_cons hsort hmem) hu
  · rintro ⟨hbt, rfl, ht, hc⟩
    have hlist : p.data.suites = [4, 2] ∨ p.data.suites = [4, 4, 2] := by
      rw [hs]
      rcases suites_of_tkip hlen hdec h3 ht hc with hl | hl
      · exact .inl (by rw [hl]; rfl)
      · exact .inr (by rw [hl]; rfl)
    rw [metric_of_tkip promote (hb.trans hbt) hlist, Option.some.injEq] at hm
    have hcand : Candidate ie.pairwiseSuites ie.groupSuite
        (allowedEncryptions twdCipherTkip promote) (validityEntry 2 2 2) := by
      refine ⟨rfl, twdCipherTkip, ht, twdCipherTkip, ?_, by rw [hbt]; rfl⟩
      cases promote <;> exact List.mem_cons_self
    have hle := hbest.maximal _ hcand
    rw [← hm] at hle
    exact absurd hle (by decide)

theorem choosesBest_of_choiceFits {fuel : ℕ} {akm : Bool} {data : Wpa2IeData}
    (hp : Parse.parseIe ie fuel akm data = some (p, .ok)) (h : ChoiceFits ie e) :
    ChoosesBest ie p.data e promote := by
  obtain ⟨hb, hs, hlen⟩ := Parse.parseIe_suites hp
  obtain ⟨hdec, h3, hcases⟩ := h
  have hperm := perm_sortSuites ie.pairwiseSuites
  rw [← hs] at hperm
  refine ⟨by rw [hs]; exact (sortSuites_decreasing_iff hlen).mpr ⟨hdec, h3⟩, ?_⟩
  rcases or_assoc.mpr hcases with hidle | hclear
  · have hidle' {q : Parse} (hq : q.data.suites.Perm ie.pairwiseSuites) :
        getCipherSuiteMetric q.data e promote = some ⟨.nok, 0, 0, 0⟩ :=
      getCipherSuiteMetric_idle promote
        (hidle.imp_left fun hnil => List.perm_nil.mp (by rw [← hnil]; exact hq))
    refine ⟨_, hidle' hperm, best_idle promote hidle, ?_⟩
    intro ie' fuel' akm' data' p' hp' _ hsame
    obtain ⟨-, hs', -⟩ := Parse.parseIe_suites hp'
    exact hidle' (hs' ▸ (perm_sortSuites _).trans hsame)
  · have hmetric {q : Parse} (hq : q.data.suites.Perm ie.pairwiseSuites)
        (hqb : q.data.broadcastSuite = ie.groupSuite) :=
      getCipherSuiteMetric_clear promote hclear zero_mem_pairwiseSuites hq hqb
    refine ⟨_, hmetric hperm hb, best_foldl promote hclear zero_mem_pairwiseSuites, ?_⟩
    intro ie' fuel' akm' data' p' hp' hg hsame
    obtain ⟨hb', hs', -⟩ := Parse.parseIe_suites hp'
    exact hmetric (hs' ▸ (perm_sortSuites _).trans hsame) (hb'.trans hg)

/-- **The choice of a cipher suite is the best one exactly for the elements that fit.** -/
theorem choosesBest_iff {fuel : ℕ} {akm : Bool} {data : Wpa2IeData}
    (hp : Parse.parseIe ie fuel akm data = some (p, .ok)) :
    ChoosesBest ie p.data e promote ↔ ChoiceFits ie e :=
  ⟨choiceFits_of_choosesBest hp, choosesBest_of_choiceFits hp⟩

/-- An element with a group suite and two pairwise suites, the key management suite PSK and
capabilities. -/
def twoPairwise (group first second : UInt8) : Dot11Rsn where
  eleId := rsnIeId
  len := 24
  rsnIeData o :=
    ([1, 0, 0x00, 0x0f, 0xac, group, 2, 0, 0x00, 0x0f, 0xac, first, 0x00, 0x0f, 0xac, second,
      1, 0, 0x00, 0x0f, 0xac, 2, 0, 0] : List UInt8).getD o 0

theorem choosesBest_iff_twoPairwise : ∃ p,
    Parse.parseIe (twoPairwise 4 4 2) 2 false Parse.noData = some (p, .ok) ∧
      (ChoosesBest (twoPairwise 4 4 2) p.data 4 true ↔ ChoiceFits (twoPairwise 4 4 2) 4) :=
  ⟨_, rfl, choosesBest_iff
    (rfl : Parse.parseIe (twoPairwise 4 4 2) 2 false Parse.noData = some (_, .ok))⟩

/-- **TKIP before AES-CCMP is not sorted**: the list is left as the AP gives it. -/
theorem weak_suite_first : ¬ ∀ (ie : Dot11Rsn) (fuel : ℕ) (akm : Bool) (data : Wpa2IeData)
    (p : Parse) (e : ℕ) (promote : Bool), Parse.parseIe ie fuel akm data = some (p, .ok) →
      ChoosesBest ie p.data e promote := by
  intro h
  have hsorted := (h (twoPairwise 4 2 4) 2 false Parse.noData _ 4 false rfl).sorted
  exact absurd hsorted (by decide)

end ArchosGpl.Wlan.AdmCtrlWpa2
