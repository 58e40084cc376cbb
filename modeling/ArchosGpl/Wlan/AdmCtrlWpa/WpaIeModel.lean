import ArchosGpl.Wlan.AdmCtrlWpa2.SuiteModel

/-!
# Model of the WPA information element parser (`admCtrlWpa_parseIe`)

The element is its bytes from the first one on, **whatever is behind it**: the id, the length, the
OUI and its type, the version, the group suite, the list of pairwise suites with its number, the
list of key management suites with its number, and the capabilities. Every byte that the parser
reads is logged.

The lengths up to which the lists are checked are computed in 8 bits, from the number of suites in
the element; the place in the element goes on with the suites that were read. The XCC module is not
in the build.
-/

open Function (update)

namespace ArchosGpl.Wlan.AdmCtrlWpa

open AdmCtrlWpa2 (TiStatus twdCipherTkip twdCipherWep104 twdCipherUnknown)

def wpaIeId : UInt8 := 0xdd

def wpaIeMinLength : ℕ := 6

def wpaIeGroupSuiteLength : ℕ := 10

def wpaIeMinPairwiseSuiteLength : ℕ := 16

def wpaIeMinKeyMngSuiteLength (pairwiseCnt : ℕ) : ℕ := 18 + 4 * pairwiseCnt

def wpaOuiMaxType : ℕ := 2

def wpaOuiMaxVersion : ℕ := 1

def maxWpaUnicastSuites : ℕ := 7

def maxWpaKeyMngSuites : ℕ := 4

def wpaIeKeyMngNone : ℕ := 0

def wpaIeKeyMng8011x : ℕ := 1

def wpaIeKeyMngPsk8011x : ℕ := 2

def wpaIeKeyMngCckm : ℕ := 3

def wpaIeKeyMngNa : ℕ := 4

structure WpaIeData where
  broadcastSuite : ℕ
  unicastSuiteCnt : ℕ
  unicastSuite : ℕ → ℕ
  keyMngSuiteCnt : ℕ
  keyMngSuite : ℕ → ℕ
  bcastForUnicatst : ℕ
  replayCounters : ℕ
  xccKp : Bool
  xccMic : Bool

/-- `wpaIePacket_t`, with the memory behind it. -/
abbrev WpaIePacket := ℕ → UInt8

namespace WpaIePacket

variable (ie : WpaIePacket) (o : ℕ)

def length : ℕ := (ie 1).toNat

def word : ℕ := (ie o).toNat + 256 * (ie (o + 1)).toNat

/-- The three bytes are `wpaIeOuiIe`. -/
def isOui : Bool := decide (ie o = 0x00 ∧ ie (o + 1) = 0x50 ∧ ie (o + 2) = 0xf2)

def parseSuiteVal (maxVal : ℕ) : ℕ :=
  if ie.isOui o then
    if (ie (o + 3)).toNat ≤ maxVal then (ie (o + 3)).toNat else twdCipherUnknown
  else twdCipherUnknown

/-- The bytes that it reads: the last one only where the first three are the OUI. -/
def suiteReads : List ℕ := if ie.isOui o then [o, o + 1, o + 2, o + 3] else [o, o + 1, o + 2]

def headerOk : Bool :=
  decide (wpaIeMinLength ≤ ie.length ∧ ie 0 = wpaIeId ∧ (ie 5).toNat ≤ wpaOuiMaxType ∧
    ie.word 6 ≤ wpaOuiMaxVersion) && ie.isOui 2

/-- The bytes that are read for it; nothing behind the length of a short element. -/
def headerReads : List ℕ := if ie.length < wpaIeMinLength then [1] else [1, 0, 5, 6, 7, 2, 3, 4]

end WpaIePacket

structure Parse where
  data : WpaIeData
  curWpaIe : ℕ
  curLength : ℕ
  wpaAkmExists : Bool
  reads : List ℕ

namespace Parse

def read (p : Parse) (os : List ℕ) : Parse := { p with reads := p.reads ++ os }

def setDefaults (p : Parse) : Parse :=
  { p with data :=
      { broadcastSuite := twdCipherTkip
        unicastSuiteCnt := 1
        unicastSuite := update p.data.unicastSuite 0 twdCipherTkip
        keyMngSuiteCnt := 1
        keyMngSuite := update p.data.keyMngSuite 0 wpaIeKeyMng8011x
        bcastForUnicatst := 1
        replayCounters := 1
        xccKp := false
        xccMic := false } }

variable (ie : WpaIePacket)

def parseGroupSuite (p : Parse) : Parse :=
  { p.read (ie.suiteReads 8) with
    data := { p.data with broadcastSuite := ie.parseSuiteVal 8 twdCipherWep104 }
    curLength := wpaIeGroupSuiteLength }

/-- The loop over the pairwise suites: the indices for which it runs. -/
def pairwiseIndices : List ℕ :=
  (List.range (ie.word 12)).takeWhile fun index =>
    wpaIeMinPairwiseSuiteLength + (index + 1) * 4 ≤ ie.length

/-- A pass of the loop: the suite is marked in `cipherSuite`. -/
def pairwisePass (s : Parse × (ℕ → Bool)) : Parse × (ℕ → Bool) :=
  let p := s.1
  let curCipherSuite := ie.parseSuiteVal p.curWpaIe twdCipherWep104
  ({ p.read (ie.suiteReads p.curWpaIe) with curWpaIe := p.curWpaIe + 4 },
    if curCipherSuite ≠ twdCipherUnknown ∧ curCipherSuite < maxWpaUnicastSuites then
      update s.2 curCipherSuite true
    else s.2)

/-- The marked suites are stored, from the strongest on. -/
def storeSuites (cipherSuite : ℕ → Bool) (data : WpaIeData) : WpaIeData :=
  let suites := (List.range maxWpaUnicastSuites).reverse.filter cipherSuite
  { data with
    unicastSuite := fun i => suites.getD i (data.unicastSuite i)
    unicastSuiteCnt := suites.length }

def parsePairwise (p : Parse) : Parse :=
  let p := { p.read [12, 13] with curWpaIe := 14 }
  let s := (pairwiseIndices ie).foldl (fun s _ => pairwisePass ie s) (p, fun _ => false)
  { s.1 with
    data := storeSuites s.2 s.1.data
    curLength := wpaIeMinKeyMngSuiteLength (ie.word 12) % 2 ^ 8 }

/-- The loop over the key management suites: the indices for which it runs. -/
def keyMngIndices (p : Parse) : List ℕ :=
  (List.range (ie p.curWpaIe).toNat).takeWhile fun index => p.curLength + index * 4 ≤ ie.length

/-- A pass of the loop, with `maxKeyMngSuite`. -/
def keyMngPass (s : Parse × ℕ) (index : ℕ) : Parse × ℕ :=
  let p := s.1
  let curKeyMngSuite := ie.parseSuiteVal p.curWpaIe wpaIeKeyMngPsk8011x
  let maxKeyMngSuite :=
    if s.2 < curKeyMngSuite ∧ curKeyMngSuite ≠ wpaIeKeyMngNa ∧ curKeyMngSuite ≠ wpaIeKeyMngCckm then
      curKeyMngSuite
    else s.2
  let keyMngSuite :=
    if index + 1 < maxWpaKeyMngSuites then
      update p.data.keyMngSuite (index + 1) curKeyMngSuite
    else p.data.keyMngSuite
  ({ p.read (ie.suiteReads p.curWpaIe) with
      curWpaIe := p.curWpaIe + 4
      wpaAkmExists := curKeyMngSuite = wpaIeKeyMng8011x || p.wpaAkmExists
      data := { p.data with keyMngSuite } },
    maxKeyMngSuite)

/-- The key management suites. The length goes on by the suites that were read, less one. -/
def parseKeyMng (p : Parse) : Parse :=
  let indices := keyMngIndices ie p
  let p₁ : Parse :=
    { p.read [p.curWpaIe] with
      data := { p.data with keyMngSuiteCnt := (ie p.curWpaIe).toNat }
      curWpaIe := p.curWpaIe + 2
      wpaAkmExists := false }
  let s := indices.foldl (keyMngPass ie) (p₁, wpaIeKeyMngNone)
  { s.1 with
    data := { s.1.data with keyMngSuite := update s.1.data.keyMngSuite 0 s.2 }
    curLength := (p.curLength + 4 * indices.length + (2 ^ 8 - 4)) % 2 ^ 8 }

/-- The `switch` over the replay counters. -/
def replayCounters (bits : ℕ) : ℕ :=
  match bits with
  | 0 => 1
  | 1 => 2
  | 2 => 4
  | 3 => 16
  | _ => 0

def parseCapabilities (p : Parse) : Parse :=
  let capabilities := ie.word p.curWpaIe
  { p.read [p.curWpaIe, p.curWpaIe + 1] with data := { p.data with
      bcastForUnicatst := capabilities / 2 % 2
      replayCounters := replayCounters (capabilities / 4 % 4) } }

/-- `admCtrlWpa_parseIe`. -/
def parseIe (wpaAkmExists : Bool) (data : WpaIeData) : Parse × TiStatus :=
  let p : Parse := ⟨data, 0, wpaIeMinLength, wpaAkmExists, ie.headerReads⟩
  if !ie.headerOk then (p, .nok)
  else
    let p := p.setDefaults
    if ie.length < wpaIeGroupSuiteLength then (p, .ok)
    else
      let p := p.parseGroupSuite ie
      if ie.length < wpaIeMinPairwiseSuiteLength then (p, .ok)
      else
        let p := p.parsePairwise ie
        if ie.length < p.curLength then (p, .ok)
        else
          let p := p.parseKeyMng ie
          if ie.length < p.curLength + 2 then (p, .ok)
          else (p.parseCapabilities ie, .ok)

end Parse

end ArchosGpl.Wlan.AdmCtrlWpa
