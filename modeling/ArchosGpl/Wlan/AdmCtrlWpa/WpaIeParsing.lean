import ArchosGpl.Wlan.AdmCtrlWpa.WpaIeModel
import Mathlib.Data.List.TakeWhile

/-!
# What the WPA element parser returns

Each loop runs over the first indices of a range (`takeWhile_range`), so that the parser has a
closed form: where it looks for each list, how many suites it reads, and **what it returns for
every accepted header** (`parseIe_returns`), with every byte that it reads (`allReads`).
-/

namespace ArchosGpl.Wlan.AdmCtrlWpa

open AdmCtrlWpa2 (TiStatus twdCipherTkip twdCipherWep104 twdCipherUnknown)

theorem takeWhile_range {p : ℕ → Bool} {m : ℕ} (hp : ∀ i, p i = true ↔ i < m) (n : ℕ) :
    (List.range n).takeWhile p = List.range (min n m) := by
  rcases Nat.le_total n m with hle | hle
  · rw [Nat.min_eq_left hle]
    exact List.takeWhile_eq_self_iff.mpr fun i hi =>
      (hp i).mpr (Nat.lt_of_lt_of_le (List.mem_range.mp hi) hle)
  · obtain ⟨d, rfl⟩ := Nat.exists_eq_add_of_le hle
    rw [Nat.min_eq_right hle, List.range_add,
      List.takeWhile_append_of_pos fun i hi => (hp i).mpr (List.mem_range.mp hi)]
    cases d with
    | zero => exact List.append_nil _
    | succ d =>
      have hm : ¬ p (m + 0) = true := fun h => Nat.lt_irrefl m ((hp _).mp h)
      rw [List.range_succ_eq_map, List.map_cons, List.takeWhile_cons_of_neg hm]
      exact List.append_nil _

namespace WpaIePacket

variable (ie : WpaIePacket)

/-! ## Where the parser looks -/

def pairwiseRead : ℕ := min (ie.word 12) ((ie.length - wpaIeMinPairwiseSuiteLength) / 4)

/-- The place of the number of key management suites, as the parser has it. -/
def keyMngStart : ℕ := 14 + 4 * ie.pairwiseRead

/-- The length from which on it is read, in 8 bits. -/
def keyMngLength : ℕ := wpaIeMinKeyMngSuiteLength (ie.word 12) % 2 ^ 8

/-- There is a list of key management suites for the parser. -/
def HasKeyMng : Prop := wpaIeMinPairwiseSuiteLength ≤ ie.length ∧ ie.keyMngLength ≤ ie.length

instance : Decidable ie.HasKeyMng := inferInstanceAs (Decidable (_ ∧ _))

def keyMngRead : ℕ := min (ie ie.keyMngStart).toNat ((ie.length - ie.keyMngLength) / 4 + 1)

/-- The length from which on the capabilities are read, less the two. -/
def capabilitiesLength : ℕ := (ie.keyMngLength + 4 * ie.keyMngRead + (2 ^ 8 - 4)) % 2 ^ 8

def pairwiseSuites (n : ℕ) : List ℕ :=
  (List.range n).map fun i => ie.parseSuiteVal (14 + 4 * i) twdCipherWep104

def keyMngSuites (o n : ℕ) : List ℕ :=
  (List.range n).map fun i => ie.parseSuiteVal (o + 4 * i) wpaIeKeyMngPsk8011x

def suitesReads (o n : ℕ) : List ℕ := (List.range n).flatMap fun i => ie.suiteReads (o + 4 * i)

/-- The known ones of some cipher suites, from the strongest on. -/
def knownSuites (l : List ℕ) : List ℕ :=
  (List.range maxWpaUnicastSuites).reverse.filter (· ∈ l)

def maxSuite (l : List ℕ) : ℕ := l.foldl max wpaIeKeyMngNone

def groupSuite : ℕ :=
  if ie.length < wpaIeGroupSuiteLength then twdCipherTkip else ie.parseSuiteVal 8 twdCipherWep104

def unicastSuites : List ℕ :=
  if ie.length < wpaIeMinPairwiseSuiteLength then [twdCipherTkip]
  else knownSuites (ie.pairwiseSuites ie.pairwiseRead)

def firstKeyMng : ℕ :=
  if ie.HasKeyMng then maxSuite (ie.keyMngSuites (ie.keyMngStart + 2) ie.keyMngRead)
  else wpaIeKeyMng8011x

/-- The place of the capabilities for the parser, if it reads them. -/
def capabilitiesStart : Option ℕ :=
  if ie.HasKeyMng ∧ ie.capabilitiesLength + 2 ≤ ie.length then
    some (ie.keyMngStart + 2 + 4 * ie.keyMngRead)
  else none

def allReads : List ℕ :=
  ie.headerReads ++ (if ie.length < wpaIeGroupSuiteLength then [] else
    ie.suiteReads 8 ++ (if ie.length < wpaIeMinPairwiseSuiteLength then [] else
      [12, 13] ++ ie.suitesReads 14 ie.pairwiseRead ++ (if ie.length < ie.keyMngLength then [] else
        [ie.keyMngStart] ++ ie.suitesReads (ie.keyMngStart + 2) ie.keyMngRead ++
          (if ie.length < ie.capabilitiesLength + 2 then [] else
            [ie.keyMngStart + 2 + 4 * ie.keyMngRead,
              ie.keyMngStart + 2 + 4 * ie.keyMngRead + 1]))))

theorem pairwiseIndices_eq : Parse.pairwiseIndices ie = List.range ie.pairwiseRead := by
  refine takeWhile_range (fun i => ?_) _
  rw [decide_eq_true_iff]
  unfold wpaIeMinPairwiseSuiteLength
  omega

theorem parseSuiteVal_cases (o maxVal : ℕ) : ie.parseSuiteVal o maxVal ≤ maxVal ∨
    ie.parseSuiteVal o maxVal = twdCipherUnknown := by
  unfold parseSuiteVal
  split
  · split
    · left
      assumption
    · exact .inr rfl
  · exact .inr rfl

theorem mem_pairwiseSuites {n v : ℕ} (h : v ∈ ie.pairwiseSuites n) :
    v ≤ twdCipherWep104 ∨ v = twdCipherUnknown := by
  obtain ⟨i, -, rfl⟩ := List.mem_map.mp h
  exact ie.parseSuiteVal_cases ..

theorem mem_keyMngSuites {o n v : ℕ} (h : v ∈ ie.keyMngSuites o n) :
    v ≤ wpaIeKeyMngPsk8011x ∨ v = twdCipherUnknown := by
  obtain ⟨i, -, rfl⟩ := List.mem_map.mp h
  exact ie.parseSuiteVal_cases ..

end WpaIePacket

namespace Parse

variable {ie : WpaIePacket} {p : Parse}

/-! ## The loops -/

theorem suites_storeSuites (f : ℕ → Bool) (d : WpaIeData) :
    (List.range (storeSuites f d).unicastSuiteCnt).map (storeSuites f d).unicastSuite =
      (List.range maxWpaUnicastSuites).reverse.filter f := by
  unfold storeSuites
  dsimp only
  refine List.ext_getElem (by simp) fun i hi hi' => ?_
  rw [List.getElem_map, List.getElem_range, List.getD_eq_getElem?_getD,
    List.getElem?_eq_getElem hi', Option.getD_some]

theorem foldl_pairwisePass (ie : WpaIePacket) (p : Parse) (n : ℕ) :
    let s := (List.range n).foldl (fun s _ => pairwisePass ie s) (p, fun _ => false)
    s.1 = { p with
      curWpaIe := p.curWpaIe + 4 * n
      reads := p.reads ++ ie.suitesReads p.curWpaIe n } ∧
      ∀ v, s.2 v = true ↔ v < maxWpaUnicastSuites ∧
        ∃ i < n, ie.parseSuiteVal (p.curWpaIe + 4 * i) twdCipherWep104 = v := by
  induction n with
  | zero =>
    refine ⟨?_, by simp⟩
    simp [WpaIePacket.suitesReads]
  | succ n ih =>
    dsimp only at ih ⊢
    rw [List.range_succ, List.foldl_append, List.foldl_cons, List.foldl_nil]
    generalize (List.range n).foldl (fun s _ => pairwisePass ie s) (p, fun _ => false) = s at ih
    obtain ⟨hp, hmarks⟩ := ih
    unfold pairwisePass
    dsimp only
    rw [hp]
    refine ⟨?_, fun v => ?_⟩
    · simp only [Parse.read, WpaIePacket.suitesReads, List.range_succ, List.flatMap_append,
        List.flatMap_cons, List.flatMap_nil, List.append_nil, List.append_assoc, Nat.mul_add,
        Nat.add_assoc]
    · dsimp only
      generalize hv : ie.parseSuiteVal (p.curWpaIe + 4 * n) twdCipherWep104 = cur
      have hlast : (∃ i < n + 1, ie.parseSuiteVal (p.curWpaIe + 4 * i) twdCipherWep104 = v) ↔
          (∃ i < n, ie.parseSuiteVal (p.curWpaIe + 4 * i) twdCipherWep104 = v) ∨ cur = v := by
        rw [Nat.exists_lt_succ_right, hv]
      rw [hlast, and_or_left, ← hmarks]
      split
      next h =>
        by_cases hvc : v = cur
        · subst hvc
          simp [h.2]
        · rw [Function.update_of_ne hvc]
          simp [Ne.symm hvc]
      next h =>
        refine (or_iff_left ?_).symm
        rintro ⟨hlt, rfl⟩
        refine h ⟨?_, hlt⟩
        rintro rfl
        exact absurd hlt (by decide)

theorem foldl_keyMngPass (ie : WpaIePacket) (p : Parse) (n : ℕ) :
    let s := (List.range n).foldl (keyMngPass ie) (p, wpaIeKeyMngNone)
    s.1.curWpaIe = p.curWpaIe + 4 * n ∧
      s.1.reads = p.reads ++ ie.suitesReads p.curWpaIe n ∧
      s.1.data = { p.data with keyMngSuite := s.1.data.keyMngSuite } ∧
      s.2 = WpaIePacket.maxSuite (ie.keyMngSuites p.curWpaIe n) := by
  induction n with
  | zero => exact ⟨rfl, (List.append_nil _).symm, rfl, rfl⟩
  | succ n ih =>
    dsimp only at ih ⊢
    rw [List.range_succ, List.foldl_append, List.foldl_cons, List.foldl_nil]
    generalize (List.range n).foldl (keyMngPass ie) (p, wpaIeKeyMngNone) = s at ih
    obtain ⟨hcur, hreads, hdata, hmax⟩ := ih
    unfold keyMngPass
    dsimp only
    rw [hcur]
    refine ⟨by omega, ?_, by rw [hdata], ?_⟩
    · simp only [Parse.read, hreads, WpaIePacket.suitesReads, List.range_succ,
        List.flatMap_append, List.flatMap_cons, List.flatMap_nil, List.append_nil,
        List.append_assoc]
    · rw [hmax]
      unfold WpaIePacket.maxSuite WpaIePacket.keyMngSuites
      rw [List.range_succ, List.map_append, List.map_cons, List.map_nil, List.foldl_append,
        List.foldl_cons, List.foldl_nil]
      have hcases := ie.parseSuiteVal_cases (p.curWpaIe + 4 * n) wpaIeKeyMngPsk8011x
      generalize ie.parseSuiteVal (p.curWpaIe + 4 * n) wpaIeKeyMngPsk8011x = cur at hcases
      unfold wpaIeKeyMngPsk8011x twdCipherUnknown at hcases
      unfold wpaIeKeyMngNa wpaIeKeyMngCckm
      split <;> omega

theorem parsePairwise_eq (p : Parse) : p.parsePairwise ie =
    { p with
      data := storeSuites (fun v => v ∈ ie.pairwiseSuites ie.pairwiseRead) p.data
      curWpaIe := ie.keyMngStart
      curLength := ie.keyMngLength
      reads := p.reads ++ ([12, 13] ++ ie.suitesReads 14 ie.pairwiseRead) } := by
  have hloop := foldl_pairwisePass ie { p.read [12, 13] with curWpaIe := 14 } ie.pairwiseRead
  unfold parsePairwise
  rw [ie.pairwiseIndices_eq]
  dsimp only at hloop ⊢
  generalize (List.range ie.pairwiseRead).foldl (fun s _ => pairwisePass ie s)
    ({ p.read [12, 13] with curWpaIe := 14 }, fun _ => false) = s at hloop
  obtain ⟨hp, hmarks⟩ := hloop
  have hfilter : (List.range maxWpaUnicastSuites).reverse.filter s.2 =
      (List.range maxWpaUnicastSuites).reverse.filter
        fun v => decide (v ∈ ie.pairwiseSuites ie.pairwiseRead) := by
    refine List.filter_congr fun v hv => ?_
    rw [List.mem_reverse, List.mem_range] at hv
    rw [Bool.eq_iff_iff, hmarks, decide_eq_true_iff, and_iff_right hv]
    simp [WpaIePacket.pairwiseSuites]
  have hdata : storeSuites s.2 s.1.data =
      storeSuites (fun v => v ∈ ie.pairwiseSuites ie.pairwiseRead) p.data := by
    rw [hp]
    unfold storeSuites
    rw [hfilter]
    rfl
  rw [hdata, hp]
  simp only [Parse.read, List.append_assoc]
  rfl

structure SameCiphers (d e : WpaIeData) : Prop where
  broadcast : e.broadcastSuite = d.broadcastSuite
  cnt : e.unicastSuiteCnt = d.unicastSuiteCnt
  suites : e.unicastSuite = d.unicastSuite

theorem parseKeyMng_spec (ie : WpaIePacket) (p : Parse) (hcur : p.curWpaIe = ie.keyMngStart)
    (hlen : p.curLength = ie.keyMngLength) (hle : ie.keyMngLength ≤ ie.length) :
    (p.parseKeyMng ie).curWpaIe = ie.keyMngStart + 2 + 4 * ie.keyMngRead ∧
      (p.parseKeyMng ie).curLength = ie.capabilitiesLength ∧
      (p.parseKeyMng ie).reads = p.reads ++
        ([ie.keyMngStart] ++ ie.suitesReads (ie.keyMngStart + 2) ie.keyMngRead) ∧
      (p.parseKeyMng ie).data.keyMngSuite 0 =
        WpaIePacket.maxSuite (ie.keyMngSuites (ie.keyMngStart + 2) ie.keyMngRead) ∧
      SameCiphers p.data (p.parseKeyMng ie).data := by
  have hindices : keyMngIndices ie p = List.range ie.keyMngRead := by
    unfold keyMngIndices WpaIePacket.keyMngRead
    rw [hcur, hlen]
    refine takeWhile_range (fun i => ?_) _
    rw [decide_eq_true_iff]
    omega
  unfold parseKeyMng
  rw [hindices, hcur, hlen]
  dsimp only
  rw [List.length_range]
  generalize hq : ({ p.read [ie.keyMngStart] with
      data := { p.data with keyMngSuiteCnt := (ie ie.keyMngStart).toNat }
      curWpaIe := ie.keyMngStart + 2
      wpaAkmExists := false } : Parse) = q
  obtain ⟨hqcur, hqreads, hqdata, hqmax⟩ := foldl_keyMngPass ie q ie.keyMngRead
  have hqs : q.curWpaIe = ie.keyMngStart + 2 := by rw [← hq]
  rw [hqs] at hqcur hqreads hqmax
  refine ⟨hqcur, rfl, ?_, ?_, ?_⟩
  · rw [hqreads, ← hq]
    exact List.append_assoc _ _ _
  · rw [Function.update_self, hqmax]
  · have hqsame : SameCiphers p.data q.data := by
      rw [← hq]
      exact ⟨rfl, rfl, rfl⟩
    rw [hqdata]
    exact ⟨hqsame.broadcast, hqsame.cnt, hqsame.suites⟩

/-- What the parser must have returned, up to the first key management suite. -/
structure Returns (ie : WpaIePacket) (r : Parse × TiStatus) (reads : List ℕ) : Prop where
  status : r.2 = .ok
  reads : r.1.reads = reads
  broadcast : r.1.data.broadcastSuite = ie.groupSuite
  suites : (List.range r.1.data.unicastSuiteCnt).map r.1.data.unicastSuite = ie.unicastSuites
  first_le : r.1.data.unicastSuite 0 ≤ twdCipherWep104
  keyMng : r.1.data.keyMngSuite 0 = ie.firstKeyMng
  capabilities : ∀ o, ie.capabilitiesStart = some o →
    r.1.data.bcastForUnicatst = ie.word o / 2 % 2 ∧
      r.1.data.replayCounters = replayCounters (ie.word o / 4 % 4)

theorem storeSuites_le {f : ℕ → Bool} {d : WpaIeData} (hf : ∀ v, f v = true → v ≤ twdCipherWep104 ∨
    v = twdCipherUnknown) (h : d.unicastSuite 0 ≤ twdCipherWep104) :
    (storeSuites f d).unicastSuite 0 ≤ twdCipherWep104 := by
  unfold storeSuites
  dsimp only
  rw [List.getD_eq_getElem?_getD]
  cases hget : ((List.range maxWpaUnicastSuites).reverse.filter f)[0]? with
  | none => exact h
  | some v =>
    obtain ⟨hv, hfv⟩ := List.mem_filter.mp (List.mem_of_getElem? hget)
    rw [List.mem_reverse, List.mem_range] at hv
    refine (hf v hfv).resolve_right ?_
    rintro rfl
    exact absurd hv (by decide)

theorem parseIe_returns (h : ie.headerOk = true) (wpaAkmExists : Bool) (d : WpaIeData) :
    Returns ie (parseIe ie wpaAkmExists d) ie.allReads := by
  unfold parseIe WpaIePacket.allReads
  dsimp only
  rw [h, Bool.not_true, if_neg Bool.false_ne_true]
  generalize hp : (Parse.mk d 0 wpaIeMinLength wpaAkmExists ie.headerReads).setDefaults = p
  have hreads : p.reads = ie.headerReads := by rw [← hp]; rfl
  have hfirst : p.data.unicastSuite 0 = twdCipherTkip := by
    rw [← hp]
    simp [setDefaults]
  have hkeyMng : p.data.keyMngSuite 0 = wpaIeKeyMng8011x := by
    rw [← hp]
    simp [setDefaults]
  have hnoKeyMng (hlt : ie.length < wpaIeMinPairwiseSuiteLength ∨ ie.length < ie.keyMngLength) :
      ie.firstKeyMng = wpaIeKeyMng8011x ∧ ie.capabilitiesStart = none := by
    have hno : ¬ ie.HasKeyMng := by
      unfold WpaIePacket.HasKeyMng
      omega
    exact ⟨if_neg hno, if_neg fun hcap => hno hcap.1⟩
  have hone (q : Parse) (hq : q.data = { p.data with broadcastSuite := q.data.broadcastSuite })
      (hlt : ie.length < wpaIeMinPairwiseSuiteLength) (hb : q.data.broadcastSuite = ie.groupSuite) :
      Returns ie (q, .ok) q.reads := by
    have hunicast : q.data.unicastSuite = p.data.unicastSuite := by rw [hq]
    refine ⟨rfl, rfl, hb, ?_, ?_, ?_, fun o ho => ?_⟩
    · have hcnt : q.data.unicastSuiteCnt = 1 := by
        rw [hq, ← hp]
        rfl
      have hlist : ie.unicastSuites = [twdCipherTkip] := if_pos hlt
      rw [hlist, hcnt, hunicast, ← hfirst]
      rfl
    · rw [hunicast, hfirst]
      decide
    · rw [(hnoKeyMng (.inl hlt)).1, hq]
      exact hkeyMng
    · rw [(hnoKeyMng (.inl hlt)).2] at ho
      cases ho
  split
  next hlt =>
    have hb : p.data.broadcastSuite = ie.groupSuite := by
      unfold WpaIePacket.groupSuite
      rw [if_pos hlt, ← hp]
      rfl
    rw [List.append_nil, ← hreads]
    exact hone p rfl (Nat.lt_of_lt_of_le hlt (by decide)) hb
  next hge =>
    have hb : (p.parseGroupSuite ie).data.broadcastSuite = ie.groupSuite := (if_neg hge).symm
    split
    next hlt =>
      rw [List.append_nil, ← hreads]
      exact hone (p.parseGroupSuite ie) rfl hlt hb
    next hge' =>
      have hsuites : (List.range (storeSuites (fun v => v ∈ ie.pairwiseSuites ie.pairwiseRead)
            (p.parseGroupSuite ie).data).unicastSuiteCnt).map
          (storeSuites (fun v => v ∈ ie.pairwiseSuites ie.pairwiseRead)
            (p.parseGroupSuite ie).data).unicastSuite = ie.unicastSuites := by
        rw [suites_storeSuites]
        exact (if_neg hge').symm
      have hfirst' := storeSuites_le (f := fun v => v ∈ ie.pairwiseSuites ie.pairwiseRead)
        (d := (p.parseGroupSuite ie).data)
        (fun v hv => ie.mem_pairwiseSuites (of_decide_eq_true hv)) (by
          change p.data.unicastSuite 0 ≤ _
          rw [hfirst]
          decide)
      rw [parsePairwise_eq]
      dsimp only
      split
      next hlt =>
        refine ⟨rfl, ?_, hb, hsuites, hfirst', ?_, fun o ho => ?_⟩
        · change (p.reads ++ ie.suiteReads 8) ++ _ = _
          rw [hreads]
          simp
        · rw [(hnoKeyMng (.inr hlt)).1]
          exact hkeyMng
        · rw [(hnoKeyMng (.inr hlt)).2] at ho
          cases ho
      next hkm =>
        generalize hr : ({ p.parseGroupSuite ie with
          data := storeSuites (fun v => v ∈ ie.pairwiseSuites ie.pairwiseRead)
            (p.parseGroupSuite ie).data
          curWpaIe := ie.keyMngStart
          curLength := ie.keyMngLength
          reads := (p.parseGroupSuite ie).reads ++
            ([12, 13] ++ ie.suitesReads 14 ie.pairwiseRead) } : Parse) = r
        have hhas : ie.HasKeyMng := ⟨Nat.not_lt.mp hge', Nat.not_lt.mp hkm⟩
        obtain ⟨hcur, hlen, hkreads, hkey, hsame⟩ := parseKeyMng_spec ie r
          (by rw [← hr]) (by rw [← hr]) (Nat.not_lt.mp hkm)
        have hrdata : r.data = storeSuites (fun v => v ∈ ie.pairwiseSuites ie.pairwiseRead)
            (p.parseGroupSuite ie).data := by rw [← hr]
        have hrreads : r.reads = ie.headerReads ++ ie.suiteReads 8 ++
            ([12, 13] ++ ie.suitesReads 14 ie.pairwiseRead) := by
          rw [← hr, ← hreads]
          rfl
        rw [hrreads] at hkreads
        have hbr : (r.parseKeyMng ie).data.broadcastSuite = ie.groupSuite := by
          rw [hsame.broadcast, hrdata]
          exact hb
        have hsuitesr : (List.range (r.parseKeyMng ie).data.unicastSuiteCnt).map
            (r.parseKeyMng ie).data.unicastSuite = ie.unicastSuites := by
          rw [hsame.cnt, hsame.suites, hrdata, hsuites]
        have hfirstr : (r.parseKeyMng ie).data.unicastSuite 0 ≤ twdCipherWep104 := by
          rw [hsame.suites, hrdata]
          exact hfirst'
        have hkeyr : (r.parseKeyMng ie).data.keyMngSuite 0 = ie.firstKeyMng := by
          rw [hkey]
          exact (if_pos hhas).symm
        rw [hlen]
        split
        next hlt =>
          refine ⟨rfl, ?_, hbr, hsuitesr, hfirstr, hkeyr, fun o ho => ?_⟩
          · rw [hkreads]
            simp
          · have hno : ie.capabilitiesStart = none := if_neg fun h => by omega
            rw [hno] at ho
            cases ho
        next hcap =>
          refine ⟨rfl, ?_, hbr, hsuitesr, hfirstr, hkeyr, fun o ho => ?_⟩
          · change (r.parseKeyMng ie).reads ++ [_, _] = _
            rw [hkreads, hcur]
            simp
          · have hstart : ie.capabilitiesStart = some (ie.keyMngStart + 2 + 4 * ie.keyMngRead) :=
              if_pos ⟨hhas, Nat.not_lt.mp hcap⟩
            rw [hstart, Option.some.injEq] at ho
            subst ho
            unfold parseCapabilities
            dsimp only
            rw [hcur]
            exact ⟨rfl, rfl⟩

end Parse

end ArchosGpl.Wlan.AdmCtrlWpa
