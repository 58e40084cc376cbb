import ArchosGpl.Wlan.MlmeParser.ParseIes

/-!
# The copies of the parser

A copy is `Inside` if it reads bytes of the body and writes bytes of its structure. Most readers
check the lengths for that. `Tame` is what is left for a pass: the fields that are read whatever the
length of the element is, the TIM, and the two structures that all elements of a frame share.

**`parseIes_inside_iff`**: the parser returns, and its copies are inside exactly if every pass is
tame.
-/

namespace ArchosGpl.Wlan.MlmeParser

open Lib.Tlv

/-! ## Structures -/

def maxRsnIe : ℕ := 3

def dot11RsnMax : ℕ := 255

def dot11PartialVirtualBitmapMax : ℕ := 251

def maxBeaconBodyLength : ℕ := 700

/-- The first `n` bytes belong to the structure. A local of the parser has no bound here. -/
def Dest.Holds (n : ℕ) : Dest → Prop
  | .stack => True
  | .ssid => n ≤ 2 + maxSsidLen
  | .rates | .extRates => n ≤ 2 + dot11MaxSupportedRates
  | .fhParams => n ≤ 2 + dot11FhParamsEleLen
  | .cfParams => n ≤ 2 + dot11CfParamsEleLen
  | .dsParams => n ≤ 2 + dot11DsParamsEleLen
  | .ibssParams => n ≤ 2 + dot11IbssParamsEleLen
  | .country => n ≤ 2 + dot11CountryEleLenMax
  | .wmeParams => n ≤ 2 + dot11WmeParamEleLen
  | .wscParams => n ≤ 2 + wscMaxLen
  | .powerConstraint => n ≤ 2 + dot11PowerConstraintEleLen
  | .channelSwitch => n ≤ 2 + dot11ChannelSwitchEleLen
  | .quiet => n ≤ 2 + dot11QuietEleLen
  | .tpcReport => n ≤ 2 + dot11TpcReportEleLen
  | .cellTp => n ≤ 2 + dot11CellTpEleLen
  | .rsnIe i => i < maxRsnIe ∧ n ≤ 2 + dot11RsnMax
  | .tim => n ≤ 5 + dot11PartialVirtualBitmapMax
  | .qosCapParams => n ≤ 2 + dot11QosCapabilityEleLen
  | .htCapabilities => n ≤ 2 + dot11HtCapabilitiesEleLen
  | .htInformation => n ≤ 2 + dot11HtInformationEleLen
  | .unknownIe => n ≤ maxBeaconBodyLength

/-- The copy reads bytes of the body and writes bytes of its structure. -/
def Copy.Inside (stop : ℕ) (cp : Copy) : Prop :=
  cp.src + cp.len ≤ stop ∧ cp.dest.Holds (cp.pos + cp.len)

variable (c : Config) (mem : ℕ → UInt8) (stop : ℕ)

/-- **The pass is tame**: where `n` bytes are left, the fields that are read are among them, and the
structures that all elements share have room. -/
def ParseState.Tame (s : ParseState) : Prop :=
  let o := s.pData
  let n := stop - o
  match c.ieId (mem o) with
  | .erp => (readErp mem n o).ok → 4 ≤ n
  | .tpcReport => (readTpcReport mem n o).ok → 3 ≤ n
  | .channelSwitchAnnouncement => c.myBssid → (readChannelSwitch mem n o).ok → 5 ≤ n
  | .country => (readCountry mem n o).ok → 5 + 3 * ((bodyLen mem o - 1) / 3) ≤ n
  | .tim => (readTim mem n o).ok → bodyLen mem o < 255
  | .xccExt1 | .rsn => s.rsnIeIdx < maxRsnIe
  | .wpa => 5 ≤ n ∧ (isWpaOui mem o → 6 ≤ n ∧
      (mem (o + 5) = dot11WpaOuiType → s.rsnIeIdx < maxRsnIe) ∧
      (mem (o + 5) = dot11WmeOuiType → 7 ≤ n))
  | .unknown => bodyLen mem o + 2 ≤ n ∧ s.unknownIeLen + (bodyLen mem o + 2) ≤ maxBeaconBodyLength
  | _ => True

/-- The states in which the loop makes a pass. -/
def passes : ℕ → ParseState → List ParseState
  | 0, _ => []
  | fuel + 1, s =>
    if 1 < stop - s.pData then
      s :: match parseIe c mem stop s with
        | .error _ => []
        | .ok t => passes fuel t.advance
    else []

/-! ## Readers -/

variable {c mem stop} {s t : ParseState} {o : ℕ} {l : List Copy}

def AllInside (stop : ℕ) (l : List Copy) : Prop := ∀ cp ∈ l, cp.Inside stop

theorem allInside_append {l' : List Copy} :
    AllInside stop (l ++ l') ↔ AllInside stop l ∧ AllInside stop l' := List.forall_mem_append

theorem inside_iff {dest : Dest} {pos src len : ℕ} : Copy.Inside stop ⟨dest, pos, src, len⟩ ↔
    src + len ≤ stop ∧ dest.Holds (pos + len) := Iff.rfl

theorem readElement_ok {dest : Dest} {early : Bool} {check : Prop} [Decidable check] :
    (readElement mem o dest early check l).ok = true ↔ check := by
  unfold readElement
  dsimp only
  split
  next h => exact iff_of_true rfl h
  next h => exact iff_of_false Bool.false_ne_true h

theorem readElement_inside (ho : 1 < stop - o) (dest : Dest) (early : Bool) (check : Prop)
    [Decidable check] (l : List Copy) :
    AllInside stop (readElement mem o dest early check l).copies ↔
      dest.Holds 2 ∧ (check → AllInside stop l) := by
  have hhdr : Copy.Inside stop ⟨dest, 0, o, 2⟩ ↔ dest.Holds 2 :=
    and_iff_right (show o + 2 ≤ stop by omega)
  unfold readElement
  dsimp only
  split
  next h => rw [AllInside, List.forall_mem_cons, hhdr, imp_iff_right h, AllInside]
  next h => rw [AllInside, List.forall_mem_singleton, hhdr]; simp [h]

theorem bodyLen_le (mem : ℕ → UInt8) (o : ℕ) : bodyLen mem o ≤ 255 :=
  Nat.lt_succ_iff.mp (mem (o + 1)).toNat_lt

theorem readRsnIe_inside (mem : ℕ → UInt8) (ho : 1 < stop - o) (i : ℕ) :
    AllInside stop (readRsnIe mem (stop - o) o i).copies ↔ i < maxRsnIe := by
  have hlen := bodyLen_le mem o
  refine (readElement_inside ho _ _ _ _).trans ⟨fun h => h.1.1, fun hi => ⟨⟨hi, by decide⟩, ?_⟩⟩
  intro h
  rw [AllInside, List.forall_mem_singleton, inside_iff]
  exact ⟨by omega, hi, Nat.add_le_add_left hlen 2⟩

theorem readBounded_inside (mem : ℕ → UInt8) {dest : Dest} {minDataLen minLen maxLen copyLen : ℕ}
    (ho : 1 < stop - o) (hhdr : dest.Holds 2) (hfields : dest.Holds (2 + copyLen)) :
    AllInside stop (readBounded mem (stop - o) o dest minDataLen minLen maxLen copyLen).copies ↔
      ((readBounded mem (stop - o) o dest minDataLen minLen maxLen copyLen).ok = true →
        copyLen + 2 ≤ stop - o) := by
  refine (readElement_inside ho _ _ _ _).trans ?_
  rw [readBounded, readElement_ok, AllInside, List.forall_mem_singleton, inside_iff,
    and_iff_right hhdr, and_iff_left hfields]
  exact imp_congr_right fun _ => by omega

theorem readWmeParams_inside (ho : 1 < stop - o) :
    AllInside stop (readWmeParams mem (stop - o) o).copies := by
  have hhdr : Copy.Inside stop ⟨.wmeParams, 0, o, 2⟩ :=
    inside_iff.mpr ⟨by omega, (by decide : 2 ≤ 2 + dot11WmeParamEleLen)⟩
  unfold readWmeParams
  dsimp only
  split
  · exact List.forall_mem_singleton.mpr hhdr
  split
  · exact List.forall_mem_singleton.mpr hhdr
  next hlong hlen =>
    unfold dot11WmeEleLen at hlen
    have hsubtype : Copy.Inside stop ⟨.stack, 0, o + 6, 1⟩ := inside_iff.mpr ⟨by omega, trivial⟩
    have hversion : Copy.Inside stop ⟨.stack, 0, o + 7, 1⟩ := inside_iff.mpr ⟨by omega, trivial⟩
    split
    · exact List.forall_mem_cons.mpr ⟨hhdr, List.forall_mem_singleton.mpr hsubtype⟩
    next eleLen heq =>
      have hmax : eleLen ≤ dot11WmeParamEleLen := by
        split at heq
        · cases heq
          decide
        split at heq
        · cases heq
          exact Nat.le_refl _
        · cases heq
      split
      next hok =>
        have hfields : Copy.Inside stop ⟨.wmeParams, 2, o + 2, eleLen⟩ :=
          inside_iff.mpr ⟨by omega, Nat.add_le_add_left hmax 2⟩
        exact List.forall_mem_cons.mpr ⟨hhdr, List.forall_mem_cons.mpr ⟨hsubtype,
          List.forall_mem_cons.mpr ⟨hversion, List.forall_mem_singleton.mpr hfields⟩⟩⟩
      · exact List.forall_mem_cons.mpr ⟨hhdr, List.forall_mem_cons.mpr ⟨hsubtype,
          List.forall_mem_singleton.mpr hversion⟩⟩

theorem readCellTp_inside (ho : 1 < stop - o) (oui : ℕ → UInt8) :
    AllInside stop (readCellTp mem (stop - o) o oui).copies := by
  have hhdr : Copy.Inside stop ⟨.cellTp, 0, o, 2⟩ :=
    inside_iff.mpr ⟨by omega, (by decide : 2 ≤ 2 + dot11CellTpEleLen)⟩
  unfold readCellTp
  dsimp only
  split
  next hfits =>
    obtain ⟨-, hdata, hlen⟩ := hfits
    have hfields : Copy.Inside stop ⟨.cellTp, 2, o + 2, bodyLen mem o⟩ :=
      inside_iff.mpr ⟨by omega, Nat.add_le_add_left hlen 2⟩
    exact List.forall_mem_cons.mpr ⟨hhdr, List.forall_mem_singleton.mpr hfields⟩
  · exact List.forall_mem_singleton.mpr hhdr

theorem readErp_inside (ho : 1 < stop - o) : AllInside stop (readErp mem (stop - o) o).copies ↔
    ((readErp mem (stop - o) o).ok = true → 4 ≤ stop - o) := by
  have hlen : Copy.Inside stop ⟨.stack, 0, o + 1, 1⟩ := inside_iff.mpr ⟨by omega, trivial⟩
  have hfield : Copy.Inside stop ⟨.stack, 1, o + 2, 2⟩ ↔ 4 ≤ stop - o :=
    inside_iff.trans ((and_iff_left trivial).trans (by omega))
  unfold readErp
  dsimp only
  split
  · exact iff_of_true (List.forall_mem_singleton.mpr hlen) fun h => absurd h Bool.false_ne_true
  · rw [imp_iff_right rfl, ← hfield, AllInside, List.forall_mem_cons, List.forall_mem_singleton,
      and_iff_right hlen]

/-! ## A pass -/

/-- The state that a part of a pass leaves, whether it fails or not. -/
def Pass.left : Pass → ParseState
  | .error t => t
  | .ok t => t

/-- The copies that a part of a pass adds are inside exactly if it is `tame`. -/
def Adds (stop : ℕ) (s : ParseState) (tame : Prop) (p : Pass) : Prop :=
  ∃ l, p.left.copies = s.copies ++ l ∧ (AllInside stop l ↔ tame)

variable {p : Pass} {a b : Prop} {r : Reading}

theorem Adds.of_eq (hcopies : p.left.copies = s.copies) (ha : a) : Adds stop s a p :=
  ⟨[], by rw [List.append_nil, hcopies], iff_of_true (List.forall_mem_nil _) ha⟩

theorem Adds.congr (h : Adds stop s a p) (hab : a ↔ b) : Adds stop s b p :=
  h.imp fun _ hl => ⟨hl.1, hl.2.trans hab⟩

theorem Adds.bind {f : ParseState → Pass} (h : Adds stop s a p)
    (hf : ∀ t, p = .ok t → Adds stop t b (f t)) (herr : ∀ t, p = .error t → b) :
    Adds stop s (a ∧ b) (p.bind f) := by
  obtain ⟨l, hl, ha⟩ := h
  cases p with
  | error t => exact ⟨l, hl, ha.trans (and_iff_left (herr t rfl)).symm⟩
  | ok t =>
    obtain ⟨l', hl', hb⟩ := hf t rfl
    refine ⟨l ++ l', ?_, allInside_append.trans (and_congr ha hb)⟩
    rw [← List.append_assoc, ← hl]
    exact hl'

theorem Adds.map {f : ParseState → ParseState} (h : Adds stop s a p)
    (hf : ∀ t, (f t).copies = t.copies) : Adds stop s a (p.map f) := by
  cases p with
  | error t => exact h
  | ok t => exact h.imp fun _ hl => ⟨(hf t).trans hl.1, hl.2⟩

theorem read_adds (hcopies : t.copies = s.copies) (hr : AllInside stop r.copies ↔ a) :
    Adds stop s a (t.read r) := by
  refine ⟨r.copies, ?_, hr⟩
  unfold ParseState.read
  rw [← hcopies]
  split <;> rfl

theorem readElement_adds {dest : Dest} {early : Bool} {check : Prop} [Decidable check]
    (hcopies : t.copies = s.copies) (ho : 1 < stop - o)
    (hl : dest.Holds 2 ∧ (check → AllInside stop l) ↔ a) :
    Adds stop s a (t.read (readElement mem o dest early check l)) :=
  read_adds hcopies ((readElement_inside ho _ _ _ _).trans hl)

theorem Adds.of_look {src len : ℕ} (h : Adds stop (s.look src len) a p) :
    Adds stop s (src + len ≤ stop ∧ a) p := by
  obtain ⟨l, hl, ha⟩ := h
  refine ⟨⟨.stack, 0, src, len⟩ :: l, by rw [hl, ParseState.look, List.append_assoc]; rfl, ?_⟩
  refine List.forall_mem_cons.trans (and_congr ?_ ha)
  exact inside_iff.trans (and_iff_left trivial)

theorem parseWpaRsn_adds (hs : 1 < stop - t.pData) :
    Adds stop t (mem (t.pData + 5) = dot11WpaOuiType → t.rsnIeIdx < maxRsnIe)
      (parseWpaRsn mem stop t) := by
  unfold parseWpaRsn
  dsimp only
  split
  next h =>
    refine ⟨_, ?_, (readRsnIe_inside mem hs t.rsnIeIdx).trans (imp_iff_right h).symm⟩
    split <;> rfl
  next h => exact .of_eq rfl fun h' => absurd h' h

theorem parseWme_adds (hs : 1 < stop - t.pData) :
    Adds stop t (mem (t.pData + 5) = dot11WmeOuiType → 7 ≤ stop - t.pData)
      (parseWme mem stop t) := by
  have hread (u : ParseState) (hu : u.pData = t.pData) :
      Adds stop u True (if isWme mem u.pData then
        (u.point .wmeParams).read (readWmeParams mem (stop - u.pData) u.pData) else .ok u) := by
    rw [hu]
    split
    · exact read_adds rfl (iff_true_intro (readWmeParams_inside hs))
    · exact .of_eq rfl trivial
  unfold parseWme
  dsimp only
  split
  next h =>
    refine (hread (t.look (t.pData + 6) 1) rfl).of_look.congr ?_
    rw [and_true, imp_iff_right h]
    omega
  next h => exact (hread t rfl).congr (iff_of_true trivial fun h' => absurd h' h)

theorem parseWsc_adds (hs : 1 < stop - t.pData) : Adds stop t True (parseWsc c mem stop t) := by
  unfold parseWsc
  dsimp only
  split
  · split
    · have hfit : 2 ≤ 2 + wscMaxLen := by decide
      refine readElement_adds rfl hs (iff_true_intro ⟨hfit, fun h => ?_⟩)
      rw [AllInside, List.forall_mem_singleton, inside_iff]
      exact ⟨by omega, Nat.add_le_add_left h.2.2.2 2⟩
    · exact .of_eq rfl trivial
  · exact .of_eq rfl trivial

theorem parseWpaTypes_adds (hs : 1 < stop - t.pData) :
    Adds stop t ((mem (t.pData + 5) = dot11WpaOuiType → t.rsnIeIdx < maxRsnIe) ∧
        (mem (t.pData + 5) = dot11WmeOuiType → 7 ≤ stop - t.pData))
      ((parseWpaRsn mem stop t).bind fun u =>
        (parseWme mem stop u).bind (parseWsc c mem stop)) := by
  have hleaves := parseWpaRsn_leaves mem stop (s := t) (t := t) rfl rfl
  refine (parseWpaRsn_adds hs).bind (fun u hu => ?_) fun u hu => ?_
  · rw [hu] at hleaves
    have hp : u.pData = t.pData := hleaves.2.1
    have hleaves' : Leaves t _ _ (parseWme mem stop u) := parseWme_leaves hp hleaves.2.2.1
    have hwme : Adds stop u _ (parseWme mem stop u) := parseWme_adds (by rw [hp]; exact hs)
    rw [hp] at hwme
    refine (hwme.bind (f := parseWsc c mem stop) (b := True) (fun v hv => ?_)
      fun _ _ => trivial).congr (and_iff_left trivial)
    rw [hv] at hleaves'
    exact parseWsc_adds (by rw [hleaves'.2.1]; exact hs)
  · rw [hu] at hleaves
    exact fun hwme => absurd (fun hwpa => absurd (hwpa.symm.trans hwme) (by decide)) hleaves.1

theorem parseWpa_adds (hs : 1 < stop - s.pData) :
    Adds stop s (5 ≤ stop - s.pData ∧ (isWpaOui mem s.pData → 6 ≤ stop - s.pData ∧
      (mem (s.pData + 5) = dot11WpaOuiType → s.rsnIeIdx < maxRsnIe) ∧
        (mem (s.pData + 5) = dot11WmeOuiType → 7 ≤ stop - s.pData))) (parseWpa c mem stop s) := by
  have htypes := @parseWpaTypes_adds c mem stop ((s.look (s.pData + 2) 3).look (s.pData + 5) 1) hs
  unfold parseWpa
  dsimp only
  split
  next h =>
    refine htypes.of_look.of_look.congr ?_
    exact and_congr (by omega) ((and_congr (by omega) Iff.rfl).trans (imp_iff_right h).symm)
  next h =>
    have hrest : Adds stop (s.look (s.pData + 2) 3) True
        (.ok { s.look (s.pData + 2) 3 with readLen := bodyLen mem s.pData + 2 }) :=
      .of_eq rfl trivial
    refine hrest.of_look.congr ?_
    exact and_congr (by omega) (iff_of_true trivial fun h' => absurd h' h)

theorem parseChannelSwitch_adds (hs : 1 < stop - s.pData) :
    Adds stop s (c.myBssid → (readChannelSwitch mem (stop - s.pData) s.pData).ok →
      5 ≤ stop - s.pData) (.ok (parseChannelSwitch c mem stop s)) := by
  unfold parseChannelSwitch
  dsimp only
  split
  next h =>
    have hhdr : 2 ≤ 2 + dot11ChannelSwitchEleLen := by decide
    have hfields : 2 + 3 ≤ 2 + dot11ChannelSwitchEleLen := by decide
    rw [imp_iff_right h]
    refine ⟨_, ?_, readBounded_inside mem hs hhdr hfields⟩
    split <;> rfl
  next h => exact .of_eq rfl fun h' => absurd h' h

theorem parseIe_adds (c : Config) (mem : ℕ → UInt8) (hs : 1 < stop - s.pData) :
    Adds stop s (s.Tame c mem stop) (parseIe c mem stop s) := by
  have hlen := bodyLen_le mem s.pData
  unfold parseIe ParseState.Tame
  dsimp only
  cases hid : c.ieId (mem s.pData)
  case ssid | supportedRates | extSupportedRates | fhParameterSet | cfParameterSet |
      ibssParameterSet | powerConstraint | quiet | qosCapability | htCapabilities | htInformation =>
    refine readElement_adds rfl hs (iff_true_intro ⟨?_, fun h => ?_⟩)
    · simp [Dest.Holds]
    · rw [AllInside, List.forall_mem_singleton, inside_iff]
      simp only [Dest.Holds, maxSsidLen, dot11MaxSupportedRates, dot11FhParamsEleLen,
        dot11CfParamsEleLen, dot11IbssParamsEleLen, dot11PowerConstraintEleLen, dot11QuietEleLen,
        dot11QosCapabilityEleLen, dot11HtCapabilitiesEleLen, dot11HtInformationEleLen] at *
      omega
  case dsParameterSet =>
    unfold parseDs
    have hread : Adds stop s True
        ((s.point .dsParams).read (readDsParams mem (stop - s.pData) s.pData)) := by
      have hhdr : 2 ≤ 2 + dot11DsParamsEleLen := by decide
      refine readElement_adds rfl hs (iff_true_intro ⟨hhdr, fun h => ?_⟩)
      rw [AllInside, List.forall_mem_singleton, inside_iff]
      exact ⟨by omega, Nat.le_refl _⟩
    refine (hread.bind (b := True) (fun t _ => ?_) fun _ _ => trivial).congr (and_self_iff)
    split <;> exact .of_eq rfl trivial
  case tpcReport =>
    have hhdr : 2 ≤ 2 + dot11TpcReportEleLen := by decide
    have hfields : 2 + 1 ≤ 2 + dot11TpcReportEleLen := by decide
    exact read_adds rfl (readBounded_inside mem hs hhdr hfields)
  case erp => exact (read_adds rfl (readErp_inside hs)).map fun _ => rfl
  case country =>
    have hhdr : 2 ≤ 2 + dot11CountryEleLenMax := by decide
    refine readElement_adds rfl hs ((and_iff_right hhdr).trans ?_)
    rw [readCountry, readElement_ok]
    refine imp_congr_right fun h => ?_
    rw [AllInside, List.forall_mem_cons, List.forall_mem_singleton, inside_iff, inside_iff]
    simp only [Dest.Holds, dot11CountryEleLenMax, dot11CountryStringLen] at *
    omega
  case tim =>
    have hhdr : 2 ≤ 5 + dot11PartialVirtualBitmapMax := by decide
    refine readElement_adds rfl hs ((and_iff_right hhdr).trans ?_)
    rw [readTim, readElement_ok]
    refine imp_congr_right fun h => ?_
    rw [AllInside, List.forall_mem_cons, List.forall_mem_singleton, inside_iff, inside_iff]
    simp only [Dest.Holds, dot11PartialVirtualBitmapMax] at *
    omega
  case channelSwitchAnnouncement => exact parseChannelSwitch_adds hs
  case xccExt1 | rsn =>
    exact (read_adds (t := s.point (.rsnIe 0)) rfl (readRsnIe_inside mem hs s.rsnIeIdx)).map
      fun _ => rfl
  case wpa => exact parseWpa_adds hs
  case cellPower =>
    refine Adds.congr (a := True) ?_ Iff.rfl
    dsimp only [parseCellPower]
    split
    · exact (read_adds (t := s.point .cellTp) rfl (iff_true_intro (readCellTp_inside hs s.oui))).map
        fun _ => rfl
    · exact .of_eq rfl trivial
  case unknown =>
    refine ⟨_, rfl, List.forall_mem_singleton.trans (inside_iff.trans (and_congr ?_ Iff.rfl))⟩
    omega

/-! ## The walk -/

theorem parseFrom_copies {fuel : ℕ} {ok : Bool} (h : parseFrom c mem stop fuel s = some (t, ok)) :
    ∃ l, t.copies = s.copies ++ l ∧
      (AllInside stop l ↔ ∀ u ∈ passes c mem stop fuel s, u.Tame c mem stop) := by
  induction fuel generalizing s with
  | zero =>
    unfold parseFrom at h
    split at h
    · cases h
    · cases h
      exact ⟨[], (List.append_nil _).symm,
        iff_of_true (List.forall_mem_nil _) (List.forall_mem_nil _)⟩
  | succ fuel ih =>
    unfold parseFrom at h
    unfold passes
    split at h
    next hs =>
      obtain ⟨l, hl, htame⟩ := parseIe_adds c mem hs
      rw [if_pos hs]
      generalize parseIe c mem stop s = p at h hl ⊢
      cases p with
      | error u =>
        cases h
        exact ⟨l, hl, htame.trans List.forall_mem_singleton.symm⟩
      | ok u =>
        obtain ⟨l', hl', hrest⟩ := ih h
        have hcopies : u.advance.copies = s.copies ++ l := hl
        refine ⟨l ++ l', by rw [hl', hcopies, List.append_assoc], ?_⟩
        rw [allInside_append, htame, hrest]
        exact List.forall_mem_cons.symm
    next hs =>
      cases h
      rw [if_neg hs]
      exact ⟨[], (List.append_nil _).symm,
        iff_of_true (List.forall_mem_nil _) (List.forall_mem_nil _)⟩

theorem parseFrom_returns (c : Config) (mem : ℕ → UInt8) {fuel : ℕ} (hfuel : stop - s.pData ≤ fuel)
    (hlen : s.allowCellTp = false → 2 ≤ s.readLen) : ∃ r, parseFrom c mem stop fuel s = some r := by
  induction fuel generalizing s with
  | zero =>
    unfold parseFrom
    rw [if_neg (by omega)]
    exact ⟨_, rfl⟩
  | succ fuel ih =>
    have hpass := parseIe_pass c mem stop s
    unfold parseFrom
    split
    · generalize parseIe c mem stop s = p at hpass
      cases p with
      | error u => exact ⟨_, rfl⟩
      | ok u =>
        obtain ⟨-, hp, -, hskip, hseen⟩ := hpass
        have hread : 2 ≤ u.readLen := by
          by_cases hs : s.seen.Skips c mem s.pData
          · have hsame : u.readLen = s.readLen := congrArg Seen.lastLen (hskip hs)
            rw [hsame]
            exact hlen hs.2
          · have hnew : u.readLen = bodyLen mem s.pData + 2 := congrArg Seen.lastLen (hseen hs)
            omega
        refine ih (s := u.advance) ?_ fun _ => hread
        show stop - (u.pData + u.readLen) ≤ fuel
        omega
    · exact ⟨_, rfl⟩

/-- **The parser returns, and its copies are inside exactly if every pass is tame.** -/
theorem parseIes_inside_iff (c : Config) (mem : ℕ → UInt8) (stop : ℕ) (s : ParseState) :
    ∃ t ok l, parseIes c mem stop s = some (t, ok) ∧ t.copies = s.copies ++ l ∧
      ((∀ cp ∈ l, cp.Inside stop) ↔ ∀ u ∈ passes c mem stop stop s.start, u.Tame c mem stop) := by
  obtain ⟨⟨t, ok⟩, hr⟩ := parseFrom_returns c mem (s := s.start) (Nat.le_refl stop)
    fun h => absurd h.symm Bool.false_ne_true
  obtain ⟨l, hl, hiff⟩ := parseFrom_copies hr
  exact ⟨t, ok, l, hr, hl, hiff⟩

end ArchosGpl.Wlan.MlmeParser
