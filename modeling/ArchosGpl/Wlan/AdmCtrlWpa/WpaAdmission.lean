import ArchosGpl.Wlan.AdmCtrlWpa.SiteModel
import ArchosGpl.Wlan.AdmCtrlWpa.WpaIeParsing

/-!
# The admission of a WPA site

What a well-formed element must give (`Right`), and which elements do: the last pairwise suite is
dropped where no key management list follows, and an unknown key management suite counts as the
strongest.

* `admitsRight_iff`: **the reads, the data and the entries are right exactly if** the header is not
  accepted or the element fits.
-/

namespace ArchosGpl.Wlan.AdmCtrlWpa

open AdmCtrlWpa2 (TiStatus twdCipherTkip twdCipherWep104 twdCipherUnknown)

/-!
## The bytes that the WPA element parser reads

**The parser leaves the element exactly if** more pairwise suites are announced than fit, so many
that the length of their list wraps in 8 bits, and a key management suite is read from behind those
that were there (`before_allReads_iff`).
-/

namespace WpaIePacket

variable {ie : WpaIePacket} {o n k e : ℕ}

/-- The end of the element. -/
def stop (ie : WpaIePacket) : ℕ := 2 + ie.length

/-- All bytes are before an end. -/
def Before (e : ℕ) (os : List ℕ) : Prop := ∀ o ∈ os, o < e

theorem before_append {l l' : List ℕ} : Before e (l ++ l') ↔ Before e l ∧ Before e l' :=
  List.forall_mem_append

theorem before_suiteReads (h : o + 4 ≤ e) : Before e (ie.suiteReads o) := by
  intro x hx
  unfold suiteReads at hx
  split at hx <;> simp only [List.mem_cons, List.not_mem_nil, or_false] at hx <;> omega

theorem mem_suiteReads : o + 2 ∈ ie.suiteReads o := by
  unfold suiteReads
  split <;> simp

theorem before_suitesReads (h : o + 4 * n ≤ e) : Before e (ie.suitesReads o n) := by
  intro x hx
  obtain ⟨i, hi, hx⟩ := List.mem_flatMap.mp hx
  have hi := List.mem_range.mp hi
  exact before_suiteReads (by omega) x hx

theorem le_of_before_suitesReads (h : Before e (ie.suitesReads o n)) (hk : k < n) :
    o + 4 * k + 2 < e :=
  h _ (List.mem_flatMap.mpr ⟨k, List.mem_range.mpr hk, mem_suiteReads⟩)

theorem before_headerReads : Before ie.stop ie.headerReads := by
  intro x hx
  unfold headerReads wpaIeMinLength at hx
  unfold stop
  split at hx <;> simp only [List.mem_cons, List.not_mem_nil, or_false] at hx <;> omega

/-- **The list of key management suites is taken from the wrong place**: the announced length of the
pairwise suites wraps in 8 bits. -/
def Misplaced (ie : WpaIePacket) : Prop :=
  wpaIeMinPairwiseSuiteLength ≤ ie.length ∧ ie.pairwiseRead < ie.word 12 ∧
    ie.keyMngLength + 2 ≤ ie.length ∧ ie ie.keyMngStart ≠ 0

/-- **The parser stays in the element** exactly if the list is not misplaced. -/
theorem before_allReads_iff (ie : WpaIePacket) : Before ie.stop ie.allReads ↔ ¬ ie.Misplaced := by
  have hL : ie.length < 256 := (ie 1).toNat_lt
  have hK : (ie ie.keyMngStart).toNat = 0 ↔ ie ie.keyMngStart = 0 := by
    rw [← UInt8.toNat_inj]
    rfl
  unfold allReads Misplaced
  rw [before_append, and_iff_right before_headerReads, ne_eq, ← hK]
  split
  next hlt =>
    refine iff_of_true (fun _ hx => (nomatch hx)) fun hm => ?_
    unfold wpaIeGroupSuiteLength at hlt
    unfold wpaIeMinPairwiseSuiteLength at hm
    omega
  next hge =>
    unfold wpaIeGroupSuiteLength at hge
    have hgroup : Before ie.stop (ie.suiteReads 8) := before_suiteReads (by unfold stop; omega)
    rw [before_append, and_iff_right hgroup]
    split
    next hlt => exact iff_of_true (fun _ hx => (nomatch hx)) fun hm => Nat.not_le.mpr hlt hm.1
    next hge' =>
      have hge' := Nat.not_lt.mp hge'
      have hread : ie.pairwiseRead = min (ie.word 12) ((ie.length - 16) / 4) := rfl
      have hstart : ie.keyMngStart = 14 + 4 * ie.pairwiseRead := rfl
      have hC : ie.keyMngLength = (18 + 4 * ie.word 12) % 256 := rfl
      have hn : ie.keyMngRead =
        min (ie ie.keyMngStart).toNat ((ie.length - ie.keyMngLength) / 4 + 1) := rfl
      have hcap : ie.capabilitiesLength = (ie.keyMngLength + 4 * ie.keyMngRead + 252) % 256 := rfl
      have hstop : ie.stop = 2 + ie.length := rfl
      unfold wpaIeMinPairwiseSuiteLength at *
      have hcnt : Before ie.stop [12, 13] := by
        intro x hx
        simp only [List.mem_cons, List.not_mem_nil, or_false] at hx
        omega
      have hpair : Before ie.stop (ie.suitesReads 14 ie.pairwiseRead) :=
        before_suitesReads (by omega)
      rw [before_append, before_append, and_iff_right hcnt, and_iff_right hpair]
      split
      next hlt => exact iff_of_true (fun _ hx => (nomatch hx)) fun hm => by omega
      next hle =>
        have hle := Nat.not_lt.mp hle
        have hbyte : Before ie.stop [ie.keyMngStart] := by
          intro x hx
          obtain rfl := List.mem_singleton.mp hx
          omega
        rw [before_append, before_append, and_iff_right hbyte]
        constructor
        · rintro ⟨hsuites, hcaps⟩ ⟨-, hcut, hroom, hne⟩
          -- one suite more, or the capabilities, are behind the end
          rcases Nat.lt_or_ge 1 ie.keyMngRead with htwo | hone
          · have := le_of_before_suitesReads hsuites htwo
            omega
          · rw [if_neg (by omega)] at hcaps
            have := hcaps (ie.keyMngStart + 2 + 4 * ie.keyMngRead + 1) (by simp)
            omega
        · intro hno
          constructor
          · refine before_suitesReads ?_
            omega
          · split
            · exact fun _ hx => (nomatch hx)
            · intro x hx
              simp only [List.mem_cons, List.not_mem_nil, or_false] at hx
              omega

end WpaIePacket

/-! ## Well-formed elements -/

namespace WpaIePacket

variable (ie : WpaIePacket)

/-- Where the list of pairwise suites ends. -/
def pairwiseEnd : ℕ := 14 + 4 * ie.word 12

/-- The element ends behind the pairwise suites. -/
def EndsPairwise : Prop := 1 ≤ ie.word 12 ∧ ie.stop = ie.pairwiseEnd

/-- Where the list of key management suites ends. -/
def keyMngEnd : ℕ := ie.pairwiseEnd + 2 + 4 * ie.word ie.pairwiseEnd

/-- The element ends behind the key management suites, or behind the capabilities. -/
def EndsKeyMng (rest : ℕ) : Prop :=
  1 ≤ ie.word 12 ∧ 1 ≤ ie.word ie.pairwiseEnd ∧ ie.stop = ie.keyMngEnd + rest

/-- **A well-formed element** ends behind one of its parts, and its lists are not empty. -/
def WellFormed : Prop :=
  ie.headerOk ∧ (ie.length = wpaIeMinLength ∨ ie.length = wpaIeGroupSuiteLength ∨
    ie.EndsPairwise ∨ ie.EndsKeyMng 0 ∨ ie.EndsKeyMng 2)

def advertisedKeyMng : List ℕ := ie.keyMngSuites (ie.pairwiseEnd + 2) (ie.word ie.pairwiseEnd)

/-- **What the parser must return** of a well-formed element: the known pairwise suites from the
strongest on, the strongest known key management suite, the capabilities. -/
structure Right (r : Parse × TiStatus) : Prop where
  status : r.2 = .ok
  suites : ie.EndsPairwise ∨ ie.EndsKeyMng 0 ∨ ie.EndsKeyMng 2 →
    r.1.data.suites = knownSuites (ie.pairwiseSuites (ie.word 12))
  keyMng : ie.EndsKeyMng 0 ∨ ie.EndsKeyMng 2 →
    r.1.data.keyMngSuite 0 = maxSuite (ie.advertisedKeyMng.filter (· ≠ twdCipherUnknown))
  capabilities : ie.EndsKeyMng 2 →
    r.1.data.bcastForUnicatst = ie.word ie.keyMngEnd / 2 % 2 ∧
      r.1.data.replayCounters = Parse.replayCounters (ie.word ie.keyMngEnd / 4 % 4)

/-- The last pairwise suite of an element without key management suites. -/
def lastPairwise : ℕ := ie.parseSuiteVal (14 + 4 * (ie.word 12 - 1)) twdCipherWep104

variable {ie}

theorem pairwiseRead_of_endsPairwise (h : ie.EndsPairwise) :
    ie.pairwiseRead = ie.word 12 - 1 ∧ wpaIeMinPairwiseSuiteLength ≤ ie.length := by
  obtain ⟨hone, hend⟩ := h
  unfold stop pairwiseEnd at hend
  unfold pairwiseRead wpaIeMinPairwiseSuiteLength
  omega

theorem keyMng_of_endsKeyMng {rest : ℕ} (h : ie.EndsKeyMng rest) (hrest : rest = 0 ∨ rest = 2) :
    ie.pairwiseRead = ie.word 12 ∧ ie.HasKeyMng ∧ ie.keyMngStart = ie.pairwiseEnd ∧
      ie.keyMngRead = ie.word ie.pairwiseEnd ∧
      (ie.capabilitiesLength + 2 ≤ ie.length ↔ rest = 2) := by
  obtain ⟨hone, hone', hend⟩ := h
  have hL : ie.length < 256 := (ie 1).toNat_lt
  have hword : ie.word ie.pairwiseEnd =
    (ie ie.pairwiseEnd).toNat + 256 * (ie (ie.pairwiseEnd + 1)).toNat := rfl
  have hpe : ie.pairwiseEnd = 14 + 4 * ie.word 12 := rfl
  unfold stop keyMngEnd at hend
  have hread : ie.pairwiseRead = ie.word 12 := by
    unfold pairwiseRead wpaIeMinPairwiseSuiteLength
    omega
  have hstart : ie.keyMngStart = ie.pairwiseEnd := by
    unfold keyMngStart
    rw [hread, hpe]
  have hC : ie.keyMngLength = 18 + 4 * ie.word 12 := by
    unfold keyMngLength wpaIeMinKeyMngSuiteLength
    omega
  have hn : ie.keyMngRead = ie.word ie.pairwiseEnd := by
    unfold keyMngRead
    rw [hstart, hC]
    omega
  refine ⟨hread, ⟨?_, ?_⟩, hstart, hn, ?_⟩
  · unfold wpaIeMinPairwiseSuiteLength
    omega
  · omega
  · unfold capabilitiesLength
    rw [hn, hC]
    omega

theorem knownSuites_append_eq_iff {l : List ℕ} {x : ℕ}
    (hx : x ≤ twdCipherWep104 ∨ x = twdCipherUnknown) :
    knownSuites l = knownSuites (l ++ [x]) ↔ x = twdCipherUnknown ∨ x ∈ l := by
  constructor
  · intro heq
    refine hx.symm.imp_right fun hle => ?_
    have hmem : x ∈ knownSuites (l ++ [x]) := by
      refine List.mem_filter.mpr ⟨?_, by simp⟩
      rw [List.mem_reverse, List.mem_range]
      exact Nat.lt_of_le_of_lt hle (by decide)
    rw [← heq] at hmem
    simpa using (List.mem_filter.mp hmem).2
  · intro hx
    refine List.filter_congr fun v hv => ?_
    rw [List.mem_reverse, List.mem_range] at hv
    rw [decide_eq_decide, List.mem_append, List.mem_singleton]
    refine (or_iff_left_of_imp ?_).symm
    rintro rfl
    refine hx.resolve_left ?_
    rintro rfl
    exact absurd hv (by decide)

theorem maxSuite_le_iff {l : List ℕ} {b : ℕ} : maxSuite l ≤ b ↔ ∀ v ∈ l, v ≤ b := by
  induction l using List.reverseRecOn with
  | nil => simp [maxSuite, wpaIeKeyMngNone]
  | append_singleton l x ih =>
    have hstep : maxSuite (l ++ [x]) = max (maxSuite l) x := by
      unfold maxSuite
      rw [List.foldl_append, List.foldl_cons, List.foldl_nil]
    rw [hstep, Nat.max_le, ih, List.forall_mem_append, List.forall_mem_singleton]

theorem maxSuite_filter_eq_iff {l : List ℕ}
    (hl : ∀ v ∈ l, v ≤ wpaIeKeyMngPsk8011x ∨ v = twdCipherUnknown) :
    maxSuite l = maxSuite (l.filter (· ≠ twdCipherUnknown)) ↔ twdCipherUnknown ∉ l := by
  constructor
  · intro heq hmem
    have hge : twdCipherUnknown ≤ maxSuite l := maxSuite_le_iff.mp (Nat.le_refl _) _ hmem
    have hle : maxSuite (l.filter (· ≠ twdCipherUnknown)) ≤ wpaIeKeyMngPsk8011x := by
      refine maxSuite_le_iff.mpr fun v hv => ?_
      obtain ⟨hv, hne⟩ := List.mem_filter.mp hv
      exact (hl v hv).resolve_right (of_decide_eq_true hne)
    rw [heq] at hge
    exact absurd (Nat.le_trans hge hle) (by decide)
  · intro hno
    rw [List.filter_eq_self.mpr fun v hv => by
      rw [decide_eq_true_iff]
      rintro rfl
      exact hno hv]

/-- The element is read right: the last pairwise suite is not lost, and no key management suite is
unknown. -/
structure ReadsRight (ie : WpaIePacket) : Prop where
  lastPairwise : ie.EndsPairwise → ie.lastPairwise = twdCipherUnknown ∨
    ie.lastPairwise ∈ ie.pairwiseSuites (ie.word 12 - 1)
  keyMng : ie.EndsKeyMng 0 ∨ ie.EndsKeyMng 2 → twdCipherUnknown ∉ ie.advertisedKeyMng

theorem unicastSuites_eq_iff (h : ie.EndsPairwise) :
    ie.unicastSuites = knownSuites (ie.pairwiseSuites (ie.word 12)) ↔
      ie.lastPairwise = twdCipherUnknown ∨
        ie.lastPairwise ∈ ie.pairwiseSuites (ie.word 12 - 1) := by
  obtain ⟨hread, hle⟩ := pairwiseRead_of_endsPairwise h
  have hsplit : ie.pairwiseSuites (ie.word 12) =
      ie.pairwiseSuites (ie.word 12 - 1) ++ [ie.lastPairwise] := by
    obtain ⟨m, hm⟩ := Nat.exists_eq_add_of_le h.1
    unfold lastPairwise pairwiseSuites
    rw [hm, Nat.add_sub_cancel_left, Nat.add_comm 1 m, List.range_succ, List.map_append]
    rfl
  unfold unicastSuites
  rw [if_neg (Nat.not_lt.mpr hle), hread, hsplit]
  exact knownSuites_append_eq_iff (ie.parseSuiteVal_cases ..)

/-- **The parser returns the right data** of a well-formed element exactly if it reads it right. -/
theorem right_iff (h : ie.headerOk = true) (wpaAkmExists : Bool) (d : WpaIeData) :
    ie.Right (Parse.parseIe ie wpaAkmExists d) ↔ ie.ReadsRight := by
  have hr := Parse.parseIe_returns h wpaAkmExists d
  have hsuites : (Parse.parseIe ie wpaAkmExists d).1.data.suites = ie.unicastSuites := hr.suites
  have hcases {rest : ℕ} (he : ie.EndsKeyMng rest) (hrest : rest = 0 ∨ rest = 2) :
      ie.unicastSuites = knownSuites (ie.pairwiseSuites (ie.word 12)) ∧
        ie.firstKeyMng = maxSuite ie.advertisedKeyMng := by
    obtain ⟨hread, hhas, hstart, hn, -⟩ := keyMng_of_endsKeyMng he hrest
    unfold unicastSuites firstKeyMng advertisedKeyMng
    rw [if_neg (Nat.not_lt.mpr hhas.1), if_pos hhas, hread, hstart, hn]
    exact ⟨rfl, rfl⟩
  have hends (he : ie.EndsKeyMng 0 ∨ ie.EndsKeyMng 2) :
      ie.unicastSuites = knownSuites (ie.pairwiseSuites (ie.word 12)) ∧
        ie.firstKeyMng = maxSuite ie.advertisedKeyMng :=
    he.elim (fun he => hcases he (.inl rfl)) fun he => hcases he (.inr rfl)
  have hmax := maxSuite_filter_eq_iff (l := ie.advertisedKeyMng)
    fun v hv => ie.mem_keyMngSuites hv
  constructor
  · intro hright
    refine ⟨fun he => ?_, fun he => ?_⟩
    · exact (unicastSuites_eq_iff he).mp (hsuites.symm.trans (hright.suites (.inl he)))
    · rw [← hmax, ← (hends he).2, ← hr.keyMng]
      exact hright.keyMng he
  · intro hreads
    refine ⟨hr.status, fun he => ?_, fun he => ?_, fun he => ?_⟩
    · rw [hsuites]
      rcases he with he | he
      · exact (unicastSuites_eq_iff he).mpr (hreads.lastPairwise he)
      · exact (hends he).1
    · rw [hr.keyMng, (hends he).2, hmax]
      exact hreads.keyMng he
    · obtain ⟨-, hhas, hstart, hn, hcap⟩ := keyMng_of_endsKeyMng he (.inr rfl)
      refine hr.capabilities _ ?_
      unfold capabilitiesStart keyMngEnd
      rw [if_pos ⟨hhas, hcap.mpr rfl⟩, hstart, hn]

end WpaIePacket

/-! ## The validity entry -/

variable {b e : ℕ} {l : List ℕ} {start : Option Validity}

theorem findValid_set (start : Option Validity) (hb : b < maxWpaCipherSuite)
    (he : e < maxWpaCipherSuite) (hl : ∀ u ∈ l, u < maxWpaCipherSuite) (hstart : l ≠ [] ∨ start.isSome) :
    ∃ v, findValid b e l start = some (some v) := by
  induction l generalizing start with
  | nil =>
    obtain ⟨v, rfl⟩ := Option.isSome_iff_exists.mp (hstart.resolve_left fun h => h rfl)
    exact ⟨v, rfl⟩
  | cons u l ih =>
    obtain ⟨hu, hl⟩ := List.forall_mem_cons.mp hl
    unfold findValid validityTable
    rw [if_pos ⟨hu, hb, he⟩]
    dsimp only
    split
    · exact ⟨_, rfl⟩
    · exact ih _ hl (.inr rfl)

theorem findValid_outside (hb : maxWpaCipherSuite ≤ b) (hl : l ≠ []) :
    findValid b e l start = none := by
  cases l with
  | nil => exact absurd rfl hl
  | cons u l =>
    unfold findValid validityTable
    rw [if_neg fun h => Nat.not_lt.mpr hb h.2.1]

/-- What is known of the suites of parsed data. -/
structure Parsed (d : WpaIeData) : Prop where
  first_le : d.unicastSuite 0 ≤ twdCipherWep104
  broadcast : d.broadcastSuite ≤ twdCipherWep104 ∨ d.broadcastSuite = twdCipherUnknown
  suites_lt : ∀ u ∈ d.suites, u < maxWpaCipherSuite

namespace AdmCtrl

variable (a : AdmCtrl) {d : WpaIeData} {site : Site} {ie : WpaIePacket}

theorem getCipherSuite_lt : a.getCipherSuite < maxWpaCipherSuite := by
  unfold getCipherSuite
  split
  · exact a.broadcastSuite_lt
  · exact a.unicastSuite_lt

theorem isCkip_eq_false (h : Parsed d) : isCkip d = false := by
  have hfirst := h.first_le
  have hb := h.broadcast
  unfold isCkip
  rw [decide_eq_false_iff_not]
  unfold twdCipherCkip
  unfold twdCipherWep104 twdCipherUnknown at *
  omega

theorem setParsed_isSome_iff (h : Parsed d) : (a.setParsed d).isSome ↔
    (d.suites = [] → broadcastCipherSuiteValidity a.networkMode d.broadcastSuite = false) := by
  unfold setParsed
  split
  next hout =>
    refine iff_of_true rfl fun _ => ?_
    have hfirst := Nat.lt_of_le_of_lt h.first_le (by decide : _ < maxWpaCipherSuite)
    have hb : maxWpaCipherSuite ≤ d.broadcastSuite := by
      have := a.unicastSuite_lt
      omega
    unfold broadcastCipherSuiteValidity
    unfold maxWpaCipherSuite at hb
    split
    · rw [decide_eq_false_iff_not]
      unfold twdCipherTkip AdmCtrlWpa2.twdCipherAesWrap AdmCtrlWpa2.twdCipherAesCcmp
      omega
    · rw [decide_eq_false_iff_not]
      unfold maxWpaCipherSuite
      omega
  next hin =>
    dsimp only
    rw [isCkip_eq_false h, if_neg Bool.false_ne_true]
    have hb : d.broadcastSuite < maxWpaCipherSuite := by omega
    cases hvalid : broadcastCipherSuiteValidity a.networkMode d.broadcastSuite with
    | false =>
      rw [Bool.not_false, if_pos rfl]
      exact iff_of_true rfl fun _ => rfl
    | true =>
      rw [Bool.not_true, if_neg Bool.false_ne_true]
      by_cases hnil : d.suites = []
      · rw [hnil]
        exact iff_of_false Bool.false_ne_true fun h => Bool.false_ne_true (h rfl).symm
      · obtain ⟨v, hv⟩ := findValid_set none hb a.getCipherSuite_lt h.suites_lt (.inl hnil)
        refine iff_of_true ?_ fun h => absurd h hnil
        split
        next h => exact absurd (h.symm.trans hv) (by simp)
        next h => exact absurd (h.symm.trans hv) (by simp)
        next => split <;> rfl

theorem evalParsed_isSome_iff (h : Parsed d) : (a.evalParsed site d).isSome ↔
    (a.keyMngOk site.wscOn (d.keyMngSuite 0) = true → d.broadcastSuite = twdCipherUnknown →
      d.suites = []) := by
  unfold evalParsed
  cases hkey : a.keyMngOk site.wscOn (d.keyMngSuite 0) with
  | false =>
    rw [Bool.not_false, if_pos rfl]
    exact iff_of_true rfl fun h => absurd h Bool.false_ne_true
  | true =>
    rw [Bool.not_true, if_neg Bool.false_ne_true, isCkip_eq_false h, if_neg Bool.false_ne_true,
      imp_iff_right rfl]
    by_cases hb : d.broadcastSuite = twdCipherUnknown
    · rw [imp_iff_right hb]
      by_cases hnil : d.suites = []
      · rw [hnil]
        refine iff_of_true ?_ rfl
        dsimp only [findValid]
        split <;> rfl
      · rw [findValid_outside (by rw [hb]; decide) hnil]
        exact iff_of_false Bool.false_ne_true hnil
    · have hlt := Nat.lt_of_le_of_lt (h.broadcast.resolve_right hb)
        (by decide : twdCipherWep104 < maxWpaCipherSuite)
      obtain ⟨v, hv⟩ := findValid_set (some (validityEntry 0 0 0)) hlt a.getCipherSuite_lt
        h.suites_lt (.inr rfl)
      rw [hv]
      refine iff_of_true ?_ fun h => absurd h hb
      dsimp only
      split <;> rfl

theorem parsed_of_headerOk (h : ie.headerOk = true) (wpaAkmExists : Bool) (d : WpaIeData) :
    Parsed (Parse.parseIe ie wpaAkmExists d).1.data := by
  have hr := Parse.parseIe_returns h wpaAkmExists d
  refine ⟨hr.first_le, ?_, fun u hu => ?_⟩
  · rw [hr.broadcast]
    unfold WpaIePacket.groupSuite
    split
    · exact .inl (by decide)
    · exact ie.parseSuiteVal_cases ..
  · change u ∈ (List.range _).map _ at hu
    rw [hr.suites] at hu
    unfold WpaIePacket.unicastSuites at hu
    split at hu
    · rw [List.mem_singleton.mp hu]
      decide
    · have hu := List.mem_of_mem_filter hu
      rwa [List.mem_reverse, List.mem_range] at hu

theorem parseIe_of_header (h : ie.headerOk = false) (wpaAkmExists : Bool) (d : WpaIeData) :
    (Parse.parseIe ie wpaAkmExists d).2 = .nok ∧
      (Parse.parseIe ie wpaAkmExists d).1.reads = ie.headerReads := by
  unfold Parse.parseIe
  dsimp only
  rw [h, Bool.not_false, if_pos rfl]
  exact ⟨rfl, rfl⟩

theorem setSite_isSome_iff (site : Site) (ie : WpaIePacket) (d : WpaIeData) :
    (a.setSite { site with pWpaIe := some ie } d).isSome ↔
      (site.wpa2Ok = false → ie.headerOk = true → ie.unicastSuites = [] →
        broadcastCipherSuiteValidity a.networkMode ie.groupSuite = false) := by
  unfold setSite
  dsimp only
  cases site.wpa2Ok with
  | true => exact iff_of_true rfl fun h => nomatch h
  | false =>
    rw [if_neg Bool.false_ne_true, imp_iff_right rfl]
    cases hok : ie.headerOk with
    | false =>
      rw [(parseIe_of_header hok _ d).1, if_pos (by decide)]
      exact iff_of_true rfl fun h => nomatch h
    | true =>
      have hr := Parse.parseIe_returns hok a.wpaAkmExists d
      rw [hr.status, if_neg fun h => h rfl, imp_iff_right rfl,
        setParsed_isSome_iff _ (parsed_of_headerOk hok _ d), hr.broadcast]
      exact imp_congr_left (by rw [← hr.suites]; rfl)

theorem evalSite_isSome_iff (site : Site) (ie : WpaIePacket) (e : ℕ) (d : WpaIeData) :
    (a.evalSite { site with pWpaIe := some ie } e d).isSome ↔
      (site.infrastructure = true → site.wpa2Ok = false → ie.headerOk = true →
        a.keyMngOk site.wscOn ie.firstKeyMng = true → ie.groupSuite = twdCipherUnknown →
          ie.unicastSuites = []) := by
  unfold evalSite
  dsimp only
  cases site.infrastructure with
  | false => exact iff_of_true rfl fun h => nomatch h
  | true =>
    rw [Bool.not_true, if_neg Bool.false_ne_true, imp_iff_right rfl]
    cases site.wpa2Ok with
    | true => exact iff_of_true rfl fun h => nomatch h
    | false =>
      rw [if_neg Bool.false_ne_true, imp_iff_right rfl]
      cases hok : ie.headerOk with
      | false =>
        rw [(parseIe_of_header hok _ d).1, if_pos (by decide)]
        exact iff_of_true rfl fun h => nomatch h
      | true =>
        have hr := Parse.parseIe_returns hok a.wpaAkmExists d
        rw [hr.status, if_neg fun h => h rfl, imp_iff_right rfl, Option.isSome_map,
          evalParsed_isSome_iff _ (parsed_of_headerOk hok _ d), hr.broadcast, hr.keyMng,
          ← hr.suites]
        exact Iff.rfl

end AdmCtrl

/-! ## The whole admission -/

/-- **What must hold for an element**, whatever the memory for the data held before. -/
structure AdmitsRight (a : AdmCtrl) (site : Site) (ie : WpaIePacket) : Prop where
  inside : ∀ d, ∀ o ∈ (Parse.parseIe ie a.wpaAkmExists d).1.reads, o < ie.stop
  right : ie.WellFormed → ∀ d, ie.Right (Parse.parseIe ie a.wpaAkmExists d)
  setSite : ∀ d, (a.setSite { site with pWpaIe := some ie } d).isSome
  evalSite : ∀ e d, (a.evalSite { site with pWpaIe := some ie } e d).isSome

/-- **The elements for which it does**: the list of key management suites is where the parser looks,
and what the element lists is read right. -/
structure ElementFits (a : AdmCtrl) (site : Site) (ie : WpaIePacket) : Prop where
  placed : ¬ ie.Misplaced
  read : ie.WellFormed → ie.ReadsRight
  suites : site.wpa2Ok = false → ie.unicastSuites = [] →
    broadcastCipherSuiteValidity a.networkMode ie.groupSuite = false
  group : site.infrastructure = true → site.wpa2Ok = false →
    a.keyMngOk site.wscOn ie.firstKeyMng = true → ie.groupSuite = twdCipherUnknown →
      ie.unicastSuites = []

def noData : WpaIeData := ⟨0, 0, fun _ => 0, 0, fun _ => 0, 0, 0, false, false⟩

/-- **The admission is right exactly for the elements that fit, and those with another header.** -/
theorem admitsRight_iff (a : AdmCtrl) (site : Site) (ie : WpaIePacket) :
    AdmitsRight a site ie ↔ (ie.headerOk = true → ElementFits a site ie) := by
  constructor
  · rintro ⟨hinside, hright, hset, heval⟩ hok
    have hreads := (Parse.parseIe_returns hok a.wpaAkmExists noData).reads
    refine ⟨?_, fun hwf => ?_, ?_, ?_⟩
    · rw [← WpaIePacket.before_allReads_iff, ← hreads]
      exact hinside noData
    · exact (WpaIePacket.right_iff hok a.wpaAkmExists noData).mp (hright hwf noData)
    · exact fun hw => (a.setSite_isSome_iff site ie noData).mp (hset noData) hw hok
    · exact fun hi hw => (a.evalSite_isSome_iff site ie 0 noData).mp (heval 0 noData) hi hw hok
  · intro hfits
    refine ⟨fun d => ?_, fun hwf d => ?_, fun d => ?_, fun e d => ?_⟩
    · cases hok : ie.headerOk with
      | false =>
        rw [(AdmCtrl.parseIe_of_header hok _ d).2]
        exact WpaIePacket.before_headerReads
      | true =>
        rw [(Parse.parseIe_returns hok _ d).reads]
        exact (WpaIePacket.before_allReads_iff ie).mpr (hfits hok).placed
    · exact (WpaIePacket.right_iff hwf.1 _ d).mpr ((hfits hwf.1).read hwf)
    · exact (a.setSite_isSome_iff site ie d).mpr fun hw hok => (hfits hok).suites hw
    · exact (a.evalSite_isSome_iff site ie e d).mpr fun hi hw hok => (hfits hok).group hi hw

def tkipStation : AdmCtrl where
  unicastSuite := twdCipherTkip
  broadcastSuite := twdCipherTkip
  unicastSuite_lt := by decide
  broadcastSuite_lt := by decide
  networkMode := .infrastructure
  externalAuthMode := rsnExtAuthModeWpa
  mixedMode := false
  wpaAkmExists := false
  encrInSw := false
  micInSw := false
  xccSupport := false
  replayCnt := 1

def privateSite : Site := ⟨true, true, false, false, none⟩

def element (l : List UInt8) : WpaIePacket := fun o => l.getD o 0

/-- An element that ends behind its only pairwise suite, TKIP with the group suite TKIP. -/
def onePairwise : WpaIePacket := element
  [0xdd, 16, 0x00, 0x50, 0xf2, 1, 1, 0, 0x00, 0x50, 0xf2, 2, 1, 0, 0x00, 0x50, 0xf2, 2]

/-- **The suite is lost, and no entry is set** where it is dereferenced. -/
theorem one_pairwise_undefined : ¬ AdmitsRight tkipStation privateSite onePairwise := by
  intro h
  have hset := (tkipStation.setSite_isSome_iff privateSite onePairwise noData).mp
    (h.setSite noData) rfl (by decide) (by decide)
  exact absurd hset (by decide)

end ArchosGpl.Wlan.AdmCtrlWpa
