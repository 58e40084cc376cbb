import ArchosGpl.Wlan.MlmeParser.ParseModel
import Mathlib.Tactic.ByContra

/-!
# The walk over the elements

The elements of a body that consists of whole elements are its decomposition (`Lib.Tlv`).

* `parseIes_aligned_iff`: **the parser visits exactly them**, up to the first one that its reader
  does not accept, **if and only if** each cell-power element that is skipped is as long as the
  element before it.
-/

namespace ArchosGpl.Wlan.MlmeParser

open Lib.Tlv

variable (c : Config) (mem : ℕ → UInt8) (stop : ℕ)

/-! ## What an element leaves behind -/

/-- What the elements before leave behind for the walk: the length of the last one, whether a
cell-power element is read, the OUI that was copied from one. -/
structure Seen where
  lastLen : ℕ
  allowCellTp : Bool
  oui : ℕ → UInt8

def ParseState.seen (s : ParseState) : Seen := ⟨s.readLen, s.allowCellTp, s.oui⟩

namespace Seen

variable (z : Seen) (o : ℕ)

/-- The element is a cell-power element that is not read. -/
def Skips : Prop := c.ieId (mem o) = .cellPower ∧ z.allowCellTp = false

/-- Its reader accepts the element. -/
def Accepts : Prop :=
  match c.ieId (mem o) with
  | .ssid => (readSsid mem (stop - o) o).ok
  | .supportedRates => (readRates mem (stop - o) o .rates).ok
  | .extSupportedRates => (readRates mem (stop - o) o .extRates).ok
  | .erp => (readErp mem (stop - o) o).ok
  | .fhParameterSet => (readFhParams mem (stop - o) o).ok
  | .dsParameterSet => (readDsParams mem (stop - o) o).ok ∧
      (c.band = radioBand24Ghz → mem (o + 2) = c.rxChannel)
  | .cfParameterSet => (readCfParams mem (stop - o) o).ok
  | .ibssParameterSet => (readIbssParams mem (stop - o) o).ok
  | .tim => (readTim mem (stop - o) o).ok
  | .country => (readCountry mem (stop - o) o).ok
  | .powerConstraint => (readPowerConstraint mem (stop - o) o).ok
  | .channelSwitchAnnouncement => True
  | .quiet => (readQuiet mem (stop - o) o).ok
  | .tpcReport => (readTpcReport mem (stop - o) o).ok
  | .xccExt1 | .rsn => (readRsnIe mem (stop - o) o 0).ok
  | .qosCapability => (readQosCapabilityIe mem (stop - o) o).ok
  | .htCapabilities => (readHtCapabilitiesIe mem (stop - o) o).ok
  | .htInformation => (readHtInformationIe mem (stop - o) o).ok
  | .wpa => isWpaOui mem o →
      (mem (o + 5) = dot11WpaOuiType → (readRsnIe mem (stop - o) o 0).ok) ∧
      (isWme mem o → (readWmeParams mem (stop - o) o).ok) ∧
      (mem (o + 5) = dot11WscOuiType → c.readsWsc → (readWscParams mem (stop - o) o).ok)
  | .cellPower => z.allowCellTp → (readCellTp mem (stop - o) o z.oui).ok
  | .unknown => True

/-- What is left behind after an element. -/
def after : Seen where
  lastLen := bodyLen mem o + 2
  allowCellTp := z.allowCellTp && c.ieId (mem o) != .powerConstraint
  oui :=
    if c.ieId (mem o) = .cellPower ∧ z.allowCellTp ∧ CellTpFits mem (stop - o) o then
      cellTpOui mem o z.oui
    else z.oui

end Seen

/-- **Each skipped cell-power element is as long as the element before it**, up to the first element
that is not accepted. -/
def Steady : Seen → List ℕ → Prop
  | _, [] => True
  | z, o :: os => (z.Skips c mem o → z.lastLen = bodyLen mem o + 2) ∧
      (z.Accepts c mem stop o → Steady (z.after c mem stop o) os)

/-! ## A pass -/

variable {c mem stop} {s t : ParseState} {d : Dest} {r : Reading} {n : ℕ}

/-- What a part of a pass leaves: it fails where the element is not accepted, and stays at it. -/
def Leaves (s : ParseState) (accepts : Prop) (q : ParseState → Prop) : Pass → Prop
  | .error t => ¬ accepts ∧ t.pData = s.pData ∧ t.visits = s.visits
  | .ok t => accepts ∧ t.pData = s.pData ∧ t.visits = s.visits ∧ q t

namespace Leaves

variable {p : Pass} {a b : Prop} {q q' : ParseState → Prop} {f : ParseState → Pass}

theorem mono (h : Leaves s a q p) (hab : a ↔ b)
    (hq : ∀ t, t.pData = s.pData → t.visits = s.visits → q t → q' t) : Leaves s b q' p := by
  cases p with
  | error t => exact ⟨fun hb => h.1 (hab.mpr hb), h.2⟩
  | ok t =>
    obtain ⟨ha, hp, hv, ht⟩ := h
    exact ⟨hab.mp ha, hp, hv, hq t hp hv ht⟩

theorem bind (h : Leaves s a q p)
    (hf : ∀ t, t.pData = s.pData → t.visits = s.visits → q t → Leaves s b q' (f t)) :
    Leaves s (a ∧ b) q' (p.bind f) := by
  cases p with
  | error t => exact ⟨fun hab => h.1 hab.1, h.2⟩
  | ok t =>
    obtain ⟨ha, hp, hv, ht⟩ := h
    exact (hf t hp hv ht).mono (by simp [ha]) fun _ _ _ hq => hq

theorem map {g : ParseState → ParseState} (h : Leaves s a q p)
    (hg : ∀ t, (g t).pData = t.pData ∧ (g t).visits = t.visits ∧ (q t → q' (g t))) :
    Leaves s a q' (p.map g) := by
  cases p with
  | error t => exact h
  | ok t =>
    obtain ⟨ha, hp, hv, ht⟩ := h
    obtain ⟨hgp, hgv, hgq⟩ := hg t
    exact ⟨ha, hgp.trans hp, hgv.trans hv, hgq ht⟩

end Leaves

theorem read_leaves (hp : t.pData = s.pData) (hv : t.visits = s.visits) (hr : r.SetsLength n) :
    Leaves s (r.ok = true) (·.seen = ⟨n, t.allowCellTp, t.oui⟩) (t.read r) := by
  unfold ParseState.read
  split
  next hok =>
    refine ⟨hok, hp, hv, ?_⟩
    unfold ParseState.seen ParseState.take
    rw [hr hok]
    rfl
  next hok => exact ⟨hok, hp, hv⟩

theorem readRsnIe_ok (dataLen o i : ℕ) :
    (readRsnIe mem dataLen o i).ok = (readRsnIe mem dataLen o 0).ok := by
  unfold readRsnIe readElement
  dsimp only
  split <;> rfl

theorem parseWpaRsn_leaves (mem : ℕ → UInt8) (stop : ℕ) (hp : t.pData = s.pData)
    (hv : t.visits = s.visits) :
    Leaves s (mem (s.pData + 5) = dot11WpaOuiType → (readRsnIe mem (stop - s.pData) s.pData 0).ok)
      (fun u => u.allowCellTp = t.allowCellTp ∧ u.oui = t.oui) (parseWpaRsn mem stop t) := by
  unfold parseWpaRsn
  dsimp only
  rw [hp, ← readRsnIe_ok _ _ t.rsnIeIdx]
  split
  next htype =>
    split
    next hok => exact ⟨fun _ => hok, hp, hv, rfl, rfl⟩
    next hok => exact ⟨fun h => hok (h htype), hp, hv⟩
  next htype => exact ⟨fun h => absurd h htype, hp, hv, rfl, rfl⟩

theorem parseWme_leaves (hp : t.pData = s.pData) (hv : t.visits = s.visits) :
    Leaves s (isWme mem s.pData → (readWmeParams mem (stop - s.pData) s.pData).ok)
      (fun u => u.allowCellTp = t.allowCellTp ∧ u.oui = t.oui) (parseWme mem stop t) := by
  unfold parseWme
  dsimp only
  rw [hp]
  generalize hu : (if mem (s.pData + 5) = dot11WmeOuiType then t.look (s.pData + 6) 1 else t) = u
  obtain ⟨hup, huv, hus⟩ :
      u.pData = t.pData ∧ u.visits = t.visits ∧ u.seen = t.seen := by
    rw [← hu]
    split <;> exact ⟨rfl, rfl, rfl⟩
  have hallow : u.allowCellTp = t.allowCellTp := congrArg Seen.allowCellTp hus
  have houi : u.oui = t.oui := congrArg Seen.oui hus
  rw [hup, hp]
  split
  next hwme =>
    refine (read_leaves (t := u.point .wmeParams) (hup.trans hp) (huv.trans hv)
      readWmeParams_setsLength).mono (by simp [hwme]) fun v _ _ hseen => ?_
    exact ⟨(congrArg Seen.allowCellTp hseen).trans hallow, (congrArg Seen.oui hseen).trans houi⟩
  next hwme => exact ⟨fun h => absurd h hwme, hup.trans hp, huv.trans hv, hallow, houi⟩

theorem parseWsc_leaves (hp : t.pData = s.pData) (hv : t.visits = s.visits) :
    Leaves s (mem (s.pData + 5) = dot11WscOuiType → c.readsWsc →
        (readWscParams mem (stop - s.pData) s.pData).ok)
      (·.seen = ⟨bodyLen mem s.pData + 2, t.allowCellTp, t.oui⟩) (parseWsc c mem stop t) := by
  unfold parseWsc getWscReadLen
  dsimp only
  rw [hp]
  split
  next htype =>
    split
    next hreads =>
      have hread : (readWscParams mem (stop - s.pData) s.pData).SetsLength
          (bodyLen mem s.pData + 2) := readElement_setsLength _ _ _ _
      refine Leaves.mono (read_leaves ?_ ?_ hread) ?_ ?_
      · rfl
      · exact hv
      · simp [htype, hreads]
      · exact fun _ _ _ hseen => hseen
    next hreads => exact ⟨fun _ h => absurd h hreads, rfl, hv, rfl⟩
  next htype => exact ⟨fun h => absurd h htype, rfl, hv, rfl⟩

theorem parseWpa_leaves (s : ParseState) :
    Leaves s (isWpaOui mem s.pData →
        (mem (s.pData + 5) = dot11WpaOuiType → (readRsnIe mem (stop - s.pData) s.pData 0).ok) ∧
        (isWme mem s.pData → (readWmeParams mem (stop - s.pData) s.pData).ok) ∧
        (mem (s.pData + 5) = dot11WscOuiType → c.readsWsc →
          (readWscParams mem (stop - s.pData) s.pData).ok))
      (·.seen = ⟨bodyLen mem s.pData + 2, s.allowCellTp, s.oui⟩) (parseWpa c mem stop s) := by
  unfold parseWpa
  dsimp only
  split
  next houi =>
    have hrsn := parseWpaRsn_leaves mem stop (s := s)
      (t := (s.look (s.pData + 2) 3).look (s.pData + 5) 1) rfl rfl
    refine (hrsn.bind fun t hp hv hsame => (parseWme_leaves hp hv).bind fun u hup huv hsame' =>
      (parseWsc_leaves hup huv).mono Iff.rfl ?_).mono ?_ fun _ _ _ hseen => hseen
    · intro v _ _ hseen
      rw [hseen, hsame'.1, hsame'.2, hsame.1, hsame.2]
      rfl
    · exact (imp_iff_right houi).symm
  next houi => exact ⟨fun h => absurd h houi, rfl, rfl, rfl⟩

theorem Seen.after_plain {z : Seen} {o : ℕ} (hpower : c.ieId (mem o) ≠ .powerConstraint)
    (hcell : c.ieId (mem o) ≠ .cellPower) :
    z.after c mem stop o = ⟨bodyLen mem o + 2, z.allowCellTp, z.oui⟩ := by
  unfold Seen.after
  rw [bne_iff_ne.mpr hpower, Bool.and_true, if_neg fun h => hcell h.1]

theorem parseIe_leaves (hs : ¬ s.seen.Skips c mem s.pData) :
    Leaves s (s.seen.Accepts c mem stop s.pData)
      (·.seen = s.seen.after c mem stop s.pData) (parseIe c mem stop s) := by
  unfold parseIe Seen.Accepts
  dsimp only
  cases hid : c.ieId (mem s.pData)
  case ssid | supportedRates | extSupportedRates | fhParameterSet | cfParameterSet |
      ibssParameterSet | tim | country | quiet | tpcReport | qosCapability | htCapabilities |
      htInformation =>
    rw [Seen.after_plain (by simp [hid]) (by simp [hid])]
    exact read_leaves rfl rfl (readElement_setsLength _ _ _ _)
  case powerConstraint =>
    refine (read_leaves rfl rfl (readElement_setsLength _ _ _ _)).mono Iff.rfl fun t _ _ hseen => ?_
    rw [hseen]
    simp [Seen.after, hid, ParseState.seen, ParseState.point]
  case erp =>
    rw [Seen.after_plain (by simp [hid]) (by simp [hid])]
    exact (read_leaves rfl rfl readErp_setsLength).map fun _ => ⟨rfl, rfl, fun h => h⟩
  case dsParameterSet =>
    rw [Seen.after_plain (by simp [hid]) (by simp [hid])]
    refine Leaves.bind (read_leaves rfl rfl (readElement_setsLength _ _ _ _)) fun t hp hv hseen => ?_
    rw [hp]
    split
    next hne => exact ⟨fun h => hne.2 (h hne.1), hp, hv⟩
    next heq => exact ⟨fun hband => by_contra fun h => heq ⟨hband, h⟩, hp, hv, hseen⟩
  case channelSwitchAnnouncement =>
    rw [Seen.after_plain (by simp [hid]) (by simp [hid])]
    unfold parseChannelSwitch
    dsimp only
    have hread : (readChannelSwitch mem (stop - s.pData) s.pData).readLen =
        some (bodyLen mem s.pData + 2) := by
      unfold readChannelSwitch readBounded readElement
      dsimp only
      split <;> rfl
    split
    · have hseen {t : ParseState} (h : t.seen = ⟨(readChannelSwitch mem (stop - s.pData)
          s.pData).readLen.getD s.readLen, s.allowCellTp, s.oui⟩) :
          t.seen = ⟨bodyLen mem s.pData + 2, s.allowCellTp, s.oui⟩ := by
        rwa [hread] at h
      split <;> exact ⟨trivial, rfl, rfl, hseen rfl⟩
    · exact ⟨trivial, rfl, rfl, rfl⟩
  case xccExt1 | rsn =>
    rw [Seen.after_plain (by simp [hid]) (by simp [hid]), ← readRsnIe_ok _ _ s.rsnIeIdx]
    exact (read_leaves rfl rfl (readElement_setsLength _ _ _ _)).map fun _ => ⟨rfl, rfl, fun h => h⟩
  case wpa =>
    rw [Seen.after_plain (by simp [hid]) (by simp [hid])]
    exact parseWpa_leaves s
  case cellPower =>
    have hallow : s.allowCellTp = true := by
      by_contra h
      exact hs ⟨hid, Bool.eq_false_iff.mpr h⟩
    have hafter : s.seen.after c mem stop s.pData = ⟨bodyLen mem s.pData + 2, s.allowCellTp,
        if CellTpFits mem (stop - s.pData) s.pData then cellTpOui mem s.pData s.oui
        else s.oui⟩ := by
      simp [Seen.after, hid, ParseState.seen, hallow]
    unfold parseCellPower
    rw [if_pos hallow, hafter]
    dsimp only
    have hread := read_leaves (s := s) (t := s.point .cellTp) rfl rfl
      (readCellTp_setsLength mem (stop - s.pData) s.pData s.oui)
    refine (hread.mono (imp_iff_right hallow).symm fun _ _ _ h => h).map fun t => ⟨rfl, rfl, ?_⟩
    intro hseen
    have hlen := congrArg Seen.lastLen hseen
    have ht := congrArg Seen.allowCellTp hseen
    unfold ParseState.seen
    rw [Seen.mk.injEq]
    exact ⟨hlen, ht, rfl⟩
  case unknown =>
    rw [Seen.after_plain (by simp [hid]) (by simp [hid])]
    exact ⟨trivial, rfl, rfl, rfl⟩

namespace Seen.Skips

variable {z : Seen} {o : ℕ}

theorem accepts (hs : z.Skips c mem o) : z.Accepts c mem stop o := by
  unfold Seen.Accepts
  rw [hs.1]
  exact fun h => absurd h (Bool.eq_false_iff.mp hs.2)

theorem after_eq (hs : z.Skips c mem o) (hlen : z.lastLen = bodyLen mem o + 2) :
    z.after c mem stop o = z := by
  unfold Seen.after
  rw [if_neg fun h => Bool.eq_false_iff.mp hs.2 h.2.1, hs.2, Bool.false_and, ← hlen, ← hs.2]

end Seen.Skips

/-- **A pass**: a skipped element changes nothing, so the length that is left is that of the element
before. -/
theorem parseIe_pass (c : Config) (mem : ℕ → UInt8) (stop : ℕ) (s : ParseState) :
    Leaves s (s.seen.Accepts c mem stop s.pData)
      (fun t => (s.seen.Skips c mem s.pData → t.seen = s.seen) ∧
        (¬ s.seen.Skips c mem s.pData → t.seen = s.seen.after c mem stop s.pData))
      (parseIe c mem stop s) := by
  by_cases hs : s.seen.Skips c mem s.pData
  · have hno : ¬ s.allowCellTp = true := Bool.eq_false_iff.mp hs.2
    have hsame : parseIe c mem stop s = .ok s := by
      unfold parseIe
      dsimp only
      rw [hs.1]
      exact if_neg hno
    rw [hsame]
    exact ⟨hs.accepts, rfl, rfl, fun _ => rfl, fun h => absurd hs h⟩
  · exact (parseIe_leaves hs).mono Iff.rfl fun t _ _ hseen =>
      ⟨fun h => absurd h hs, fun _ => hseen⟩

/-! ## The walk -/

/-- The elements of a decomposition, each with its length. -/
def layout (mem : ℕ → UInt8) (os : List ℕ) : List (ℕ × ℕ) := os.map fun o => (o, bodyLen mem o + 2)

/-- **The walk is aligned**: it ends, behind the last element or at one that is not accepted, and
has gone on by the length of each element before. -/
def Aligned (os : List (ℕ × ℕ)) (r : Option (ParseState × Bool)) : Prop :=
  ∃ t ok, r = some (t, ok) ∧ ∃ rest, os = t.visits ++ rest ∧
    if ok then rest = [] else rest.head?.map Prod.fst = some t.pData

theorem parseFrom_visits {fuel : ℕ} {ok : Bool}
    (h : parseFrom c mem stop fuel s = some (t, ok)) : s.visits <+: t.visits := by
  induction fuel generalizing s with
  | zero =>
    unfold parseFrom at h
    split at h
    · cases h
    · cases h
      exact List.prefix_rfl
  | succ fuel ih =>
    have hpass := parseIe_pass c mem stop s
    unfold parseFrom at h
    split at h
    · split at h
      next u hu =>
        rw [hu] at hpass
        cases h
        exact hpass.2.2 ▸ List.prefix_rfl
      next u hu =>
        rw [hu] at hpass
        refine List.IsPrefix.trans ?_ (ih h)
        rw [← hpass.2.2.1]
        exact List.prefix_append _ _
    · cases h
      exact List.prefix_rfl

theorem parseFrom_aligned_iff {fuel : ℕ} (hfuel : stop - s.pData ≤ fuel)
    (htail : tailFrom mem stop fuel s.pData = stop) :
    Aligned (s.visits ++ layout mem (elementsFrom mem stop fuel s.pData))
      (parseFrom c mem stop fuel s) ↔
        Steady c mem stop s.seen (elementsFrom mem stop fuel s.pData) := by
  induction fuel generalizing s with
  | zero =>
    unfold parseFrom elementsFrom
    rw [if_neg (by omega)]
    exact iff_of_true ⟨s, true, rfl, [], rfl, rfl⟩ trivial
  | succ fuel ih =>
    have hnext := add_two_le_next mem s.pData
    have hpass := parseIe_pass c mem stop s
    rw [tailFrom] at htail
    unfold parseFrom elementsFrom
    split at htail
    next hle =>
      rw [if_pos hle, if_pos (by omega), Steady]
      generalize parseIe c mem stop s = p at hpass
      cases p with
      | error t =>
        obtain ⟨hno, hp, hv⟩ := hpass
        refine iff_of_true ⟨t, false, rfl, _, by rw [hv], ?_⟩
          ⟨fun hs => absurd hs.accepts hno, fun h => absurd h hno⟩
        rw [hp]
        rfl
      | ok t =>
        obtain ⟨hok, hp, hv, hskip, hseen⟩ := hpass
        have hvisits : t.advance.visits = s.visits ++ [(s.pData, t.readLen)] := by
          rw [ParseState.advance, hv, hp]
        by_cases hlen : t.readLen = bodyLen mem s.pData + 2
        · -- the walk goes on at the next element
          have hsteady : s.seen.Skips c mem s.pData → s.seen.lastLen = bodyLen mem s.pData + 2 := by
            intro hs
            rw [← hskip hs]
            exact hlen
          have hafter : t.advance.seen = s.seen.after c mem stop s.pData := by
            change t.seen = _
            by_cases hs : s.seen.Skips c mem s.pData
            · rw [hskip hs, hs.after_eq (hsteady hs)]
            · exact hseen hs
          have hat : t.advance.pData = next mem s.pData := by
            rw [ParseState.advance, hp, hlen, next, Nat.add_assoc, Nat.add_comm 2]
          have hrest := ih (s := t.advance) (by rw [hat]; omega) (by rw [hat]; exact htail)
          rw [hat, hafter, hvisits, hlen, List.append_assoc] at hrest
          rw [and_iff_right hsteady, imp_iff_right hok]
          exact hrest
        · -- it goes on by the length of the element before
          have hs : s.seen.Skips c mem s.pData := by
            by_contra hs
            exact hlen (congrArg Seen.lastLen (hseen hs))
          refine iff_of_false ?_ fun h => hlen ?_
          · rintro ⟨u, ok, hu, rest, heq, -⟩
            obtain ⟨l, hl⟩ := parseFrom_visits hu
            rw [← hl, hvisits, List.append_assoc, List.append_assoc,
              List.append_cancel_left_eq] at heq
            exact hlen (Prod.mk.inj (List.cons.inj heq).1).2.symm
          · have := h.1 hs
            rwa [← hskip hs] at this
    next hlt =>
      rw [if_neg hlt, if_neg (by omega)]
      exact iff_of_true ⟨s, true, rfl, [], rfl, rfl⟩ trivial

/-- **The walk over a body of whole elements is aligned exactly if each skipped cell-power element
is as long as the element before it.** -/
theorem parseIes_aligned_iff (c : Config) (mem : ℕ → UInt8) (stop : ℕ) (s : ParseState)
    (htail : tail mem stop = stop) :
    Aligned (layout mem (elements mem stop)) (parseIes c mem stop s) ↔
      Steady c mem stop ⟨s.readLen, true, s.oui⟩ (elements mem stop) :=
  parseFrom_aligned_iff (s := s.start) (Nat.le_refl _) htail

/-- The parameters before a frame. -/
def noState : ParseState := ⟨0, 0, true, fun _ => 0, 0, 0, 0, false, (false, false), [], [], [], []⟩

/-- A build with the XCC module, for the AP that the station is connected to. -/
def xccConfig : Config := ⟨true, false, radioBand24Ghz, 1, true, beacon⟩

def body (l : List UInt8) : ℕ → UInt8 := fun o => l.getD o 0

/-- A power constraint and a cell-power element of its length. -/
theorem parseIes_aligned_iff_sameLength :
    Aligned
      (layout (body [32, 1, 5, 150, 1, 0]) (elements (body [32, 1, 5, 150, 1, 0]) 6))
      (parseIes xccConfig (body [32, 1, 5, 150, 1, 0]) 6 noState) := by
  refine (parseIes_aligned_iff xccConfig _ 6 noState (by decide)).mpr ?_
  have helements : elements (body [32, 1, 5, 150, 1, 0]) 6 = [0, 3] := by decide
  rw [helements]
  exact ⟨fun h => (nomatch h.2), fun _ => ⟨fun _ => rfl, fun _ => trivial⟩⟩

/-- **A cell-power element behind a power constraint**: the parser goes on inside of it. -/
theorem cell_power_misaligned :
    ¬ Aligned
      (layout (body [32, 1, 5, 150, 6, 0x00, 0x40, 0x96, 0, 10, 0])
        (elements (body [32, 1, 5, 150, 6, 0x00, 0x40, 0x96, 0, 10, 0]) 11))
      (parseIes xccConfig (body [32, 1, 5, 150, 6, 0x00, 0x40, 0x96, 0, 10, 0]) 11 noState) := by
  intro h
  have hsteady := (parseFrom_aligned_iff (s := noState.start) (by decide : 11 - 0 ≤ 11)
    (by decide)).mp h
  have hskip := (hsteady.2 (by decide : _ = true)).1 ⟨by decide, by decide⟩
  exact absurd hskip (by decide)

/-! ## Builds without the XCC module -/

end ArchosGpl.Wlan.MlmeParser
