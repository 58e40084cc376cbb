import ArchosGpl.Lib.Buffer
import ArchosGpl.Wlan.AdmCtrlWpa2.IeParsing
import Mathlib.Tactic.IntervalCases

/-!
# The RSN IE from the builder to the parser

The builder fills a packed structure, the parser follows a running offset. An element with one
suite of each kind is parsed to these suites (`Single.parse`), and what the builder makes is such
an element (`single_of_bytes`), with or without the list of PMKIDs behind its capabilities.

* `info_element_roundtrip`: **whenever the builder succeeds** with suites that have a code in the
  element, a pairwise suite other than "use group" and a replay counter of the capabilities, the
  reported length is that of the bytes filled in and the length octet and two, and the parser
  returns the suites and the replay counters of the station.
-/

namespace ArchosGpl.Wlan.AdmCtrlWpa2

open Lib

/-!
## Model of the RSN IE builder (`admCtrlWpa2_getInfoElement`)

The element of an association request is built in place, as a `wpa2IePacket_t` over the buffer of
the caller. `Packet` is the buffer and **the bytes of the element that have been filled in**, after
the 40 bytes of the packet were zeroed. The fields are at the offsets of the structure, whose
members are all at even offsets and so without padding; words are little-endian.

`XCC_MODULE_INCLUDED` is not defined. A table index behind the last row of
`broadcastCipherSuiteValidity` reads what is behind the table (`behind`).
-/

inductive NetworkMode
  | ibss
  | infrastructure
  deriving DecidableEq

inductive ExternalAuthMode
  | open
  | sharedKey
  | autoSwitch
  | wpa
  | wpaPsk
  | wpaNone
  | wpa2
  | wpa2Psk
  deriving DecidableEq

/-- The fields of `paeConfig` that are read. The suites are those of `ECipherSuite`. -/
structure PaeConfig where
  authProtocol : ExternalAuthMode
  unicastSuite : ℕ
  broadcastSuite : ℕ

/-- The fields of `admCtrl_t` that the builder reads, and what `ctrlData_getParamBssid` returns. -/
structure IeCtrl extends AdmCtrl where
  networkMode : NetworkMode
  broadcastSuite : ℕ
  externalAuthMode : ExternalAuthMode
  replayCnt : ℕ
  paeConfig : PaeConfig
  currentBssid : TMacAddr

/-- `broadcastCipherSuiteValidity`, row by row. -/
def broadcastCipherSuiteTable : List Bool :=
  [ -- RSN_IBSS
   false, false, true, false, true, false,
   -- RSN_INFRASTRUCTURE
   false, true, true, false, true, true]

/-- `broadcastCipherSuiteValidity[networkMode][suite]`. -/
def broadcastCipherSuiteValidity (behind : ℕ → Bool) (networkMode : NetworkMode) (suite : ℕ) :
    Bool :=
  let i := (match networkMode with | .ibss => 0 | .infrastructure => 6) + suite
  broadcastCipherSuiteTable.getD i (behind i)

def wpa2IeKeyMngNone : ℕ := 0

def wpa2IeOuiIe : List UInt8 := [0x00, 0x0f, 0xac]

/-- `sizeof(wpa2IePacket_t)`. -/
def wpa2IePacketSize : ℕ := 40

/-- The buffer, and the bytes filled in. -/
structure Packet where
  bytes : Buffer UInt8
  filled : List ℕ

def Packet.fill (p : Packet) (offset : ℕ) (l : List UInt8) : Packet where
  bytes := p.bytes.copyTo offset l
  filled := p.filled ++ List.range' offset l.length

def wlanWord (v : ℕ) : List UInt8 := [UInt8.ofNat v, UInt8.ofNat (v / 2 ^ 8)]

/-- `os_memoryZero` of the packet. -/
def Packet.zeroed (pIe : Buffer UInt8) : Packet :=
  ⟨pIe.copyTo 0 (List.replicate wpa2IePacketSize 0), []⟩

def ExternalAuthMode.keyMngSuite : ExternalAuthMode → ℕ
  | .open | .sharedKey | .autoSwitch => wpa2IeKeyMngNone
  | .wpa2 | .wpa => wpa2IeKeyMng8011x
  | .wpa2Psk | .wpaPsk => wpa2IeKeyMngPsk8011x
  | .wpaNone => wpa2IeKeyMngNone

namespace IeCtrl

variable (a : IeCtrl)

def buildCapabilities : ℕ :=
  let replayCnt :=
    match a.replayCnt with
    | 1 => 0
    | 2 => 1
    | 4 => 2
    | 16 => 3
    | _ => 0
  replayCnt <<< 2 ||| replayCnt <<< 4

/-- The fields up to the capabilities. Both counts are one. -/
def buildSuites (pIe : Buffer UInt8) : Packet :=
  Packet.zeroed pIe
    |>.fill 0 [rsnIeId]
    |>.fill 2 (wlanWord wpa2OuiMaxVersion)
    |>.fill 4 wpa2IeOuiIe
    |>.fill 7 [UInt8.ofNat a.paeConfig.broadcastSuite]
    |>.fill 8 (wlanWord 1)
    |>.fill 10 wpa2IeOuiIe
    |>.fill 13 [UInt8.ofNat a.paeConfig.unicastSuite]
    |>.fill 14 (wlanWord 1)
    |>.fill 16 wpa2IeOuiIe
    |>.fill 19 [UInt8.ofNat a.externalAuthMode.keyMngSuite]
    |>.fill 20 (wlanWord a.buildCapabilities)

/-- The list of at most one PMKID, with the length of the element before and behind. -/
def buildPmkidList (p : Packet) (length : ℕ) : Packet × ℕ :=
  if a.preAuthSupport && a.paeConfig.authProtocol == .wpa2 then
    let p := p.fill 22 (wlanWord 0)
    match a.pmkidCache.findPmkid a.currentBssid with
    | some (_, pmkId) =>
      ((p.fill 22 (wlanWord 1)).fill 24 (List.ofFn pmkId), length + 2 + pmkidValueSize)
    | none => (p, length + 2)
  else (p, length)

/-- `admCtrlWpa2_getInfoElement`: what it returns, `*pLength`, and the buffer. -/
def getInfoElement (behind : ℕ → Bool) (pIe : Option (Buffer UInt8)) :
    TiStatus × ℕ × Option Packet :=
  match pIe with
  | none => (.nok, 0, none)
  | some pIe =>
    if !broadcastCipherSuiteValidity behind a.networkMode a.broadcastSuite then (.nok, 0, none)
    else
      -- version, group suite, pairwise count and suite, key management count and suite, capabilities
      let length := 2 + 4 + 2 + 4 + 2 + 4 + 2
      let (p, length) := a.buildPmkidList (a.buildSuites pIe) length
      (.ok, length + 2, some (p.fill 1 [UInt8.ofNat length]))

end IeCtrl

variable {a : IeCtrl} {pIe : Buffer UInt8} {i : ℕ}

def Packet.element (p : Packet) : Dot11Rsn where
  eleId := p.bytes 0
  len := p.bytes 1
  rsnIeData := fun i => p.bytes (2 + i)

/-- An element with one suite of each kind, and capabilities. -/
structure Single (ie : Dot11Rsn) (group pairwise keyMng capabilities : ℕ) : Prop where
  eleId : ie.eleId = rsnIeId
  len : 20 ≤ ie.len.toNat
  version : ie.word 0 = wpa2OuiMaxVersion
  group : ie.parseSuiteVal 2 twdCipherWep104 twdCipherUnknown = group
  pairwiseCnt : ie.word 6 = 1
  pairwise : ie.parseSuiteVal 8 twdCipherWep104 twdCipherUnknown = pairwise
  keyMngCnt : ie.word 12 = 1
  keyMng : ie.parseSuiteVal 14 wpa2IeKeyMngPsk8011x wpa2IeKeyMngNa = keyMng
  capabilities : ie.word 18 = capabilities

structure Parsed (d : Wpa2IeData) (group pairwise keyMng ptk gtk : ℕ) : Prop where
  group : d.broadcastSuite = group
  pairwiseCnt : d.unicastSuiteCnt = 1
  pairwise : d.unicastSuite 0 = pairwise
  keyMngCnt : d.keyMngSuiteCnt = 1
  keyMng : d.keyMngSuite 0 = keyMng
  ptk : d.ptkReplayCounters = ptk
  gtk : d.gtkReplayCounters = gtk

namespace Single

open Parse

variable {ie : Dot11Rsn} {g u k c : ℕ} {p : Parse}

theorem parseKeyMng (h : Single ie g u k c) (hk : k ≤ wpa2IeKeyMngPsk8011x) (fuel : ℕ)
    (ho : p.dataOffset = 12) (hg : p.data.broadcastSuite = g) (hc : p.data.unicastSuiteCnt = 1)
    (hu : p.data.unicastSuite 0 = u) : ∃ q, p.parseKeyMng ie (fuel + 2) = some (q, .ok) ∧
      Parsed q.data g u k (replayCounters (c / 4 % 4)) (replayCounters (c / 16 % 4)) := by
  have hlen := h.len
  have hword : ie.word p.dataOffset = 1 := by rw [ho]; exact h.keyMngCnt
  -- a suite of the element is neither unknown nor CCKM
  have hknown : k ≠ wpa2IeKeyMngNa ∧ k ≠ wpa2IeKeyMngCckm := by
    unfold wpa2IeKeyMngPsk8011x at hk
    unfold wpa2IeKeyMngNa wpa2IeKeyMngCckm
    omega
  set r := p.parseKeyMngSuiteCnt ie with hr
  have hoff : r.dataOffset = 14 := by
    change (p.dataOffset + 2) % 2 ^ 8 = 14
    omega
  have hcnt : r.data.keyMngSuiteCnt = 0 + 1 := hword
  have hsuite : ie.parseSuiteVal r.dataOffset wpa2IeKeyMngPsk8011x wpa2IeKeyMngNa = k := by
    rw [hoff]
    exact h.keyMng
  obtain ⟨hcnt', hunicast, hkeep, hoff'⟩ := parseKeyMngSuite_keeps ie (p := r) 0
  have hakm : (r.parseKeyMngSuite ie 0).data.keyMngSuite 0 = k := by
    unfold parseKeyMngSuite
    simp only [hsuite]
    rw [if_pos hknown]
    split <;> simp [setKeyMngSuite, skip]
  set t := r.parseKeyMngSuite ie 0 with ht
  have hoff18 : t.dataOffset = 18 := by omega
  have hcap : ie.word t.dataOffset = c := by rw [hoff18]; exact h.capabilities
  refine ⟨t.parseCapabilities ie, ?_, ?_⟩
  · unfold Parse.parseKeyMng
    rw [← hr, parseKeyMngSuites_eq ie (fuel + 2) hcnt (by omega), if_pos (by omega)]
    change some (if ie.len.toNat = t.dataOffset then _ else _) = _
    rw [if_neg (by omega)]
    rfl
  · unfold parseCapabilities
    rw [hcap]
    exact
      { group := hkeep.broadcast.trans hg
        pairwiseCnt := hkeep.cnt.trans hc
        pairwise := (congrFun hunicast 0).trans hu
        keyMngCnt := hcnt'.trans hcnt
        keyMng := hakm
        ptk := rfl
        gtk := rfl }

theorem parsePairwise (h : Single ie g u k c) (hu : u ≠ twdCipherNone)
    (hk : k ≤ wpa2IeKeyMngPsk8011x) (fuel : ℕ) (ho : p.dataOffset = 6)
    (hg : p.data.broadcastSuite = g) : ∃ q, p.parsePairwise ie (fuel + 2) = some (q, .ok) ∧
      Parsed q.data g u k (replayCounters (c / 4 % 4)) (replayCounters (c / 16 % 4)) := by
  have hlen := h.len
  have hcnt : (p.parseUnicastSuiteCnt ie).data.unicastSuiteCnt = 1 := by
    change ie.word p.dataOffset = 1
    rw [ho]
    exact h.pairwiseCnt
  have hoff : (p.parseUnicastSuiteCnt ie).dataOffset = 8 := by
    change (p.dataOffset + 2) % 2 ^ 8 = 8
    omega
  set r := p.parseUnicastSuiteCnt ie with hr
  have hsuite : ie.parseSuiteVal r.dataOffset twdCipherWep104 twdCipherUnknown = u := by
    rw [hoff]
    exact h.pairwise
  set t := r.parseUnicastSuite ie 0 with ht
  have hoff12 : t.dataOffset = 12 := by
    change (r.dataOffset + 4) % 2 ^ 8 = 12
    omega
  have hpair : t.data.unicastSuite 0 = u := by
    rw [ht, parseUnicastSuite, hsuite, if_neg hu]
    simp [setUnicastSuite, skip]
  obtain ⟨q, hq, hparsed⟩ := h.parseKeyMng hk fuel hoff12 (hg : t.data.broadcastSuite = g)
    (hcnt : t.data.unicastSuiteCnt = 1) hpair
  refine ⟨q, ?_, hparsed⟩
  rw [← hq]
  unfold Parse.parsePairwise
  simp only [← hr, hcnt]
  rw [if_neg (by decide)]
  have hsort : t.sortUnicastSuites = t := by
    unfold sortUnicastSuites
    rw [if_neg]
    rw [show t.data.unicastSuiteCnt = 1 from hcnt]
    decide
  change (if ie.len.toNat = t.sortUnicastSuites.dataOffset then _ else _) = _
  rw [hsort, if_neg (by omega)]
  exact congrArg (Parse.parseKeyMng ie (fuel + 2)) hsort

/-- **An element with one suite of each kind is parsed** to these suites. -/
theorem parse (h : Single ie g u k c) (hu : u ≠ twdCipherNone) (hk : k ≤ wpa2IeKeyMngPsk8011x)
    (fuel : ℕ) (akm : Bool) (data : Wpa2IeData) :
    ∃ p, parseIe ie (fuel + 2) akm data = some (p, .ok) ∧
      Parsed p.data g u k (replayCounters (c / 4 % 4)) (replayCounters (c / 16 % 4)) := by
  have hlen := h.len
  unfold parseIe
  have hmin : ¬ (ie.eleId ≠ rsnIeId ∨ ie.len.toNat < wpa2IeMinLength ∨
      ie.word 0 ≠ wpa2OuiMaxVersion) := by
    unfold wpa2IeMinLength
    rintro (hne | hlt | hne)
    · exact hne h.eleId
    · omega
    · exact hne h.version
  simp only
  rw [if_neg hmin, if_neg (by unfold wpa2IeGroupSuiteLength; omega),
    if_neg (by unfold wpa2IeMinPairwiseSuiteLength; omega)]
  exact h.parsePairwise hu hk fuel rfl h.group

end Single

/-! ## The builder -/

namespace Packet

variable {p : Packet} {offset : ℕ} {l : List UInt8}

theorem mem_filled_fill : i ∈ (p.fill offset l).filled ↔
    i ∈ p.filled ∨ offset ≤ i ∧ i < offset + l.length := by
  unfold fill
  rw [List.mem_append, List.mem_range'_1]

theorem bytes_fill_of_out (h : i < offset ∨ offset + l.length ≤ i) :
    (p.fill offset l).bytes i = p.bytes i := by
  unfold fill Buffer.copyTo
  dsimp only
  split
  · exact List.getD_eq_default _ _ (by omega)
  · rfl

end Packet

@[simp] theorem length_wlanWord (v : ℕ) : (wlanWord v).length = 2 := rfl

/-- The bytes before the list of PMKIDs, but for the length octet. -/
def fixedBytes (a : IeCtrl) : List UInt8 :=
  [rsnIeId, 0] ++ wlanWord wpa2OuiMaxVersion ++
    wpa2IeOuiIe ++ [UInt8.ofNat a.paeConfig.broadcastSuite] ++
    wlanWord 1 ++ wpa2IeOuiIe ++ [UInt8.ofNat a.paeConfig.unicastSuite] ++
    wlanWord 1 ++ wpa2IeOuiIe ++ [UInt8.ofNat a.externalAuthMode.keyMngSuite] ++
    wlanWord a.buildCapabilities

theorem buildSuites_bytes (hi : i < 22) : (a.buildSuites pIe).bytes i = (fixedBytes a).getD i 0 := by
  interval_cases i <;> rfl

theorem buildSuites_behind (hi : 22 ≤ i) :
    (a.buildSuites pIe).bytes i = if i < wpa2IePacketSize then 0 else pIe i := by
  unfold IeCtrl.buildSuites
  iterate 11 rw [Packet.bytes_fill_of_out (by simp [wlanWord, wpa2IeOuiIe]; omega)]
  unfold Packet.zeroed Buffer.copyTo
  dsimp only
  rw [if_pos (Nat.zero_le i), Nat.sub_zero]
  split
  next hlt => rw [List.getD_eq_getElem _ _ (by simpa using hlt), List.getElem_replicate]
  next hge => exact List.getD_eq_default _ _ (by simpa using hge)

theorem mem_filled_buildSuites : i ∈ (a.buildSuites pIe).filled ↔ i < 22 ∧ i ≠ 1 := by
  unfold IeCtrl.buildSuites
  simp only [Packet.mem_filled_fill, wlanWord, wpa2IeOuiIe, List.length_cons, List.length_nil,
    Packet.zeroed, List.not_mem_nil, false_or]
  omega

/-- What the list of PMKIDs adds: nothing, a count of zero, or one PMKID. -/
structure Lists (p : Packet) (r : Packet × ℕ) : Prop where
  length : r.2 = 20 ∨ r.2 = 22 ∨ r.2 = 38
  filled : ∀ i, i ∈ r.1.filled ↔ i ∈ p.filled ∨ 22 ≤ i ∧ i < r.2 + 2
  bytes : ∀ i, i < 22 ∨ r.2 + 2 ≤ i → r.1.bytes i = p.bytes i

theorem buildPmkidList_lists (p : Packet) : Lists p (a.buildPmkidList p 20) := by
  unfold IeCtrl.buildPmkidList
  split
  · dsimp only
    split
    · exact
        { length := .inr (.inr rfl)
          filled := by
            intro i
            simp only [Packet.mem_filled_fill, length_wlanWord, List.length_ofFn, pmkidValueSize,
              or_assoc]
            refine or_congr_right ?_
            omega
          bytes := by
            intro i hi
            have hi : i < 22 ∨ 40 ≤ i := hi
            rw [Packet.bytes_fill_of_out (by rw [List.length_ofFn]; omega),
              Packet.bytes_fill_of_out (by rw [length_wlanWord]; omega),
              Packet.bytes_fill_of_out (by rw [length_wlanWord]; omega)] }
    · exact
        { length := .inr (.inl rfl)
          filled := by
            intro i
            rw [Packet.mem_filled_fill, length_wlanWord]
          bytes := by
            intro i hi
            exact Packet.bytes_fill_of_out hi }
  · exact
      { length := .inl rfl
        filled := fun i => (or_iff_left (by omega)).symm
        bytes := fun _ _ => rfl }

/-- **A built element**: the bytes filled in are those up to the reported length, nothing behind
them is touched, and the parser finds the suites and the replay counters of the station. -/
structure RoundTrips (a : IeCtrl) (pIe : Buffer UInt8) (length : ℕ) (p : Packet) : Prop where
  written : ∀ i, i ∈ p.filled ↔ i < length
  behind : ∀ i, length ≤ i → p.bytes i = if i < wpa2IePacketSize then 0 else pIe i
  octet : length = (p.bytes 1).toNat + 2
  parsed : ∀ (fuel : ℕ) (akm : Bool) (data : Wpa2IeData),
    ∃ q, Parse.parseIe p.element (fuel + 2) akm data = some (q, .ok) ∧
      Parsed q.data a.paeConfig.broadcastSuite a.paeConfig.unicastSuite
        a.externalAuthMode.keyMngSuite a.replayCnt a.replayCnt

theorem word_eq {ie : Dot11Rsn} {o v : ℕ} (hv : v < 2 ^ 16) (h0 : ie.rsnIeData o = UInt8.ofNat v)
    (h1 : ie.rsnIeData (o + 1) = UInt8.ofNat (v / 2 ^ 8)) : ie.word o = v := by
  unfold Dot11Rsn.word
  rw [h0, h1, UInt8.toNat_ofNat', UInt8.toNat_ofNat']
  omega

theorem parseSuiteVal_eq {ie : Dot11Rsn} {o v maxVal unknownVal : ℕ} (hv : v ≤ maxVal)
    (hmax : maxVal < 2 ^ 8) (hoi : ie.isOui o = true)
    (h : ie.rsnIeData (o + 3) = UInt8.ofNat v) : ie.parseSuiteVal o maxVal unknownVal = v := by
  have hnat : (ie.rsnIeData (o + 3)).toNat = v := by
    rw [h, UInt8.toNat_ofNat', Nat.mod_eq_of_lt (by omega)]
  unfold Dot11Rsn.parseSuiteVal
  rw [if_pos hoi, hnat, if_pos hv]

theorem keyMngSuite_le (m : ExternalAuthMode) : m.keyMngSuite ≤ wpa2IeKeyMngPsk8011x := by
  cases m <;> decide

theorem buildCapabilities_lt : a.buildCapabilities < 2 ^ 16 := by
  unfold IeCtrl.buildCapabilities
  dsimp only
  split <;> decide

theorem replayCounters_buildCapabilities (h : a.replayCnt ∈ [1, 2, 4, 16]) :
    Parse.replayCounters (a.buildCapabilities / 4 % 4) = a.replayCnt ∧
      Parse.replayCounters (a.buildCapabilities / 16 % 4) = a.replayCnt := by
  unfold IeCtrl.buildCapabilities
  simp only [List.mem_cons, List.not_mem_nil, or_false] at h
  rcases h with h | h | h | h <;> rw [h] <;> exact ⟨rfl, rfl⟩

theorem single_of_bytes {ie : Dot11Rsn} (hlen : 20 ≤ ie.len.toNat) (hid : ie.eleId = rsnIeId)
    (hbytes : ∀ i < 20, ie.rsnIeData i = (fixedBytes a).getD (2 + i) 0)
    (hg : a.paeConfig.broadcastSuite ≤ twdCipherWep104)
    (hu : a.paeConfig.unicastSuite ≤ twdCipherWep104) :
    Single ie a.paeConfig.broadcastSuite a.paeConfig.unicastSuite a.externalAuthMode.keyMngSuite
      a.buildCapabilities where
  eleId := hid
  len := hlen
  version := word_eq (by decide) (hbytes 0 (by decide)) (hbytes 1 (by decide))
  group := parseSuiteVal_eq hg (by decide) (by
    unfold Dot11Rsn.isOui
    rw [hbytes 2 (by decide), hbytes 3 (by decide), hbytes 4 (by decide)]
    rfl) (hbytes 5 (by decide))
  pairwiseCnt := word_eq (by decide) (hbytes 6 (by decide)) (hbytes 7 (by decide))
  pairwise := parseSuiteVal_eq hu (by decide) (by
    unfold Dot11Rsn.isOui
    rw [hbytes 8 (by decide), hbytes 9 (by decide), hbytes 10 (by decide)]
    rfl) (hbytes 11 (by decide))
  keyMngCnt := word_eq (by decide) (hbytes 12 (by decide)) (hbytes 13 (by decide))
  keyMng := parseSuiteVal_eq (keyMngSuite_le _) (by decide) (by
    unfold Dot11Rsn.isOui
    rw [hbytes 14 (by decide), hbytes 15 (by decide), hbytes 16 (by decide)]
    rfl) (hbytes 17 (by decide))
  capabilities := word_eq buildCapabilities_lt (hbytes 18 (by decide)) (hbytes 19 (by decide))

/-- **Every element that the builder makes with suites of the IE and a replay counter of the IE is
parsed back.** -/
theorem info_element_roundtrip (behind : ℕ → Bool) (pIe : Option (Buffer UInt8))
    (hok : (a.getInfoElement behind pIe).1 = .ok)
    (hg : a.paeConfig.broadcastSuite ≤ twdCipherWep104)
    (hu : a.paeConfig.unicastSuite ≤ twdCipherWep104)
    (hne : a.paeConfig.unicastSuite ≠ twdCipherNone) (hr : a.replayCnt ∈ [1, 2, 4, 16]) :
    ∃ buf length p, pIe = some buf ∧ a.getInfoElement behind pIe = (.ok, length, some p) ∧
      RoundTrips a buf length p := by
  unfold IeCtrl.getInfoElement at hok ⊢
  cases pIe with
  | none => cases hok
  | some buf =>
    dsimp only at hok ⊢
    split at hok
    · cases hok
    next hvalid =>
      rw [if_neg hvalid]
      have hl := buildPmkidList_lists (a := a) (a.buildSuites buf)
      generalize a.buildPmkidList (a.buildSuites buf) 20 = r at hl
      refine ⟨buf, _, _, rfl, rfl, ?_⟩
      have hlen := hl.length
      have hoctet : (UInt8.ofNat r.2).toNat = r.2 := by
        rw [UInt8.toNat_ofNat', Nat.mod_eq_of_lt (by omega)]
      have hbytes {i : ℕ} (hi : i ≠ 1) :
          (r.1.fill 1 [UInt8.ofNat r.2]).bytes i = r.1.bytes i :=
        Packet.bytes_fill_of_out (by rw [List.length_singleton]; omega)
      exact
        { written := by
            intro i
            rw [Packet.mem_filled_fill, hl.filled, mem_filled_buildSuites, List.length_singleton]
            omega
          behind := by
            intro i hi
            rw [hbytes (by omega), hl.bytes i (.inr hi), buildSuites_behind (by omega)]
          octet := by
            rw [show (r.1.fill 1 [UInt8.ofNat r.2]).bytes 1 = UInt8.ofNat r.2 from rfl, hoctet]
          parsed := by
            intro fuel akm data
            obtain ⟨hptk, hgtk⟩ := replayCounters_buildCapabilities hr
            have hsingle : Single (r.1.fill 1 [UInt8.ofNat r.2]).element _ _ _ _ :=
              single_of_bytes
                (by
                  rw [show (r.1.fill 1 [UInt8.ofNat r.2]).element.len = UInt8.ofNat r.2 from rfl,
                    hoctet]
                  omega)
                ((hbytes (by decide)).trans
                  ((hl.bytes 0 (.inl (by decide))).trans (buildSuites_bytes (by decide))))
                (fun i hi => (hbytes (by omega)).trans
                  ((hl.bytes _ (.inl (by omega))).trans (buildSuites_bytes (by omega))))
                hg hu
            obtain ⟨q, hq, hparsed⟩ := hsingle.parse hne (keyMngSuite_le _) fuel akm data
            rw [hptk, hgtk] at hparsed
            exact ⟨q, hq, hparsed⟩ }

/-- A station with TKIP for the group and CCMP for the pair, which caches the PMKID of its AP. -/
def ccmpStation : IeCtrl where
  preAuthSupport := true
  numberOfPreAuthCandidates := 0
  pmkidCache := PmkidCache.reset.addPmkid (fun _ => 1) (fun _ => 7)
  log := []
  networkMode := .infrastructure
  broadcastSuite := 2
  externalAuthMode := .wpa2
  replayCnt := 4
  paeConfig := ⟨.wpa2, 4, 2⟩
  currentBssid := fun _ => 1

theorem info_element_roundtrip_ccmpStation : ∃ buf length p,
    some (fun _ => 0) = some buf ∧
      ccmpStation.getInfoElement (fun _ => false) (some fun _ => 0) = (.ok, length, some p) ∧
      RoundTrips ccmpStation buf length p :=
  info_element_roundtrip (fun _ => false) (some fun _ => 0) (by decide) (by decide) (by decide)
    (by decide) (by decide)

end ArchosGpl.Wlan.AdmCtrlWpa2
