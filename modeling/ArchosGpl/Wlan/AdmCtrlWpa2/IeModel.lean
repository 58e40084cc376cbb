import ArchosGpl.Wlan.AdmCtrlWpa2.PmkidModel

/-!
# Model of the RSN IE parser (`admCtrlWpa2_parseIe`)

The parser reads the element from memory and fills `wpa2IeData_t`. `Parse` is what it has done so
far: the data, the 8-bit offset, **the bytes of `rsnIeData` that it has read and the array entries
that it has written**. Memory behind the element is whatever it is, so the bytes are a function of
their index.

The loop over the key management suites counts in 8 bits up to a count of 16 bits, so the model
gives it fuel. `XCC_MODULE_INCLUDED` is not defined (its `admCtrlXCC.c` is not in the repository).
The pointers are not null. `pmkIdCnt` and `pmkId`, which are only cleared, are left out.
-/

namespace ArchosGpl.Wlan.AdmCtrlWpa2

def rsnIeId : UInt8 := 48

def wpa2IeMinLength : ℕ := 4

def wpa2IeGroupSuiteLength : ℕ := 8

def wpa2IeMinPairwiseSuiteLength : ℕ := 14

def wpa2OuiMaxVersion : ℕ := 1

def unicastCipherMaxnoInRsnie : ℕ := 3

def twdCipherNone : ℕ := 0

def twdCipherAesCcmp : ℕ := 4

def twdCipherWep104 : ℕ := 5

def twdCipherUnknown : ℕ := 255

/-- `MAX_WPA2_CIPHER_SUITE`, the size of the validity table in each of its dimensions. -/
def maxWpa2CipherSuite : ℕ := 6

def wpa2IeKeyMng8011x : ℕ := 1

def wpa2IeKeyMngPsk8011x : ℕ := 2

def wpa2IeKeyMngCckm : ℕ := 3

def wpa2IeKeyMngNa : ℕ := 4

/-- `dot11_RSN_t`, with the memory behind it. -/
structure Dot11Rsn where
  eleId : UInt8
  len : UInt8
  rsnIeData : ℕ → UInt8

/-- The arrays of `wpa2IeData_t`. -/
inductive SuiteArray
  | unicastSuite
  | keyMngSuite
  deriving DecidableEq

/-- `MAX_WPA2_UNICAST_SUITES` and `MAX_WPA2_KEY_MNG_SUITES`. -/
def SuiteArray.size : SuiteArray → ℕ
  | .unicastSuite => 6
  | .keyMngSuite => 4

structure Wpa2IeData where
  broadcastSuite : ℕ
  unicastSuiteCnt : ℕ
  unicastSuite : ℕ → ℕ
  keyMngSuiteCnt : ℕ
  keyMngSuite : ℕ → ℕ
  preAuthentication : ℕ
  bcastForUnicatst : ℕ
  ptkReplayCounters : ℕ
  gtkReplayCounters : ℕ

namespace Dot11Rsn

variable (ie : Dot11Rsn) (o : ℕ)

/-- `COPY_WLAN_WORD` from a byte of the element. -/
def word : ℕ := (ie.rsnIeData o).toNat + 256 * (ie.rsnIeData (o + 1)).toNat

/-- The three bytes are `wpa2IeOuiIe`. -/
def isOui : Bool :=
  decide (ie.rsnIeData o = 0x00 ∧ ie.rsnIeData (o + 1) = 0x0f ∧ ie.rsnIeData (o + 2) = 0xac)

def parseSuiteVal (maxVal unknownVal : ℕ) : ℕ :=
  if ie.isOui o then
    if (ie.rsnIeData (o + 3)).toNat ≤ maxVal then (ie.rsnIeData (o + 3)).toNat else unknownVal
  else unknownVal

/-- The bytes that it reads: the last one only where the first three are the OUI. -/
def suiteReads : List ℕ := if ie.isOui o then [o, o + 1, o + 2, o + 3] else [o, o + 1, o + 2]

end Dot11Rsn

structure Parse where
  data : Wpa2IeData
  dataOffset : ℕ
  wpaAkmExists : Bool
  reads : List ℕ
  writes : List (SuiteArray × ℕ)

namespace Parse

def read (p : Parse) (os : List ℕ) : Parse := { p with reads := p.reads ++ os }

/-- `dataOffset += n`, in 8 bits. -/
def skip (p : Parse) (n : ℕ) : Parse := { p with dataOffset := (p.dataOffset + n) % 2 ^ 8 }

/-- `unicastSuite[i] = v`. -/
def setUnicastSuite (p : Parse) (i v : ℕ) : Parse :=
  { p with
    data := { p.data with unicastSuite := Function.update p.data.unicastSuite i v }
    writes := p.writes ++ [(.unicastSuite, i)] }

/-- `KeyMngSuite[i] = v`. -/
def setKeyMngSuite (p : Parse) (i v : ℕ) : Parse :=
  { p with
    data := { p.data with keyMngSuite := Function.update p.data.keyMngSuite i v }
    writes := p.writes ++ [(.keyMngSuite, i)] }

variable (ie : Dot11Rsn)

/-- The start: the version is read. -/
def start (wpaAkmExists : Bool) (data : Wpa2IeData) : Parse := ⟨data, 2, wpaAkmExists, [0, 1], []⟩

def setDefaults (p : Parse) : Parse :=
  let p := { p with
    data :=
      { broadcastSuite := twdCipherAesCcmp
        unicastSuiteCnt := 1
        unicastSuite := fun _ => 0
        keyMngSuiteCnt := 1
        keyMngSuite := fun _ => 0
        preAuthentication := 0
        bcastForUnicatst := 0
        ptkReplayCounters := 0
        gtkReplayCounters := 0 } }
  (p.setUnicastSuite 0 twdCipherAesCcmp).setKeyMngSuite 0 wpa2IeKeyMng8011x

def parseGroupSuite (p : Parse) : Parse :=
  let suite := ie.parseSuiteVal p.dataOffset twdCipherWep104 twdCipherUnknown
  let p := p.read (ie.suiteReads p.dataOffset)
  { p with data := { p.data with broadcastSuite := suite } }.skip 4

def parseUnicastSuiteCnt (p : Parse) : Parse :=
  let cnt := ie.word p.dataOffset
  let p := p.read [p.dataOffset, p.dataOffset + 1]
  { p with data := { p.data with unicastSuiteCnt := cnt } }.skip 2

/-- A pass of the loop over the pairwise suites. -/
def parseUnicastSuite (p : Parse) (i : ℕ) : Parse :=
  let curCipherSuite := ie.parseSuiteVal p.dataOffset twdCipherWep104 twdCipherUnknown
  let curCipherSuite :=
    if curCipherSuite = twdCipherNone then p.data.broadcastSuite else curCipherSuite
  ((p.read (ie.suiteReads p.dataOffset)).setUnicastSuite i curCipherSuite).skip 4

def sortPass (p : Parse) (j : ℕ) : Parse :=
  if p.data.unicastSuite (j + 1) < p.data.unicastSuite j then
    (p.setUnicastSuite j (p.data.unicastSuite (j + 1))).setUnicastSuite (j + 1)
      (p.data.unicastSuite j)
  else p

def sortUnicastSuites (p : Parse) : Parse :=
  if 1 < p.data.unicastSuiteCnt then
    (List.range (p.data.unicastSuiteCnt - 1)).foldl (fun p i => (List.range i).foldl sortPass p) p
  else p

def parseKeyMngSuiteCnt (p : Parse) : Parse :=
  let cnt := ie.word p.dataOffset
  let p := p.read [p.dataOffset, p.dataOffset + 1]
  { p with data := { p.data with keyMngSuiteCnt := cnt }, wpaAkmExists := false }.skip 2

def parseKeyMngSuite (p : Parse) (i : ℕ) : Parse :=
  let curKeyMngSuite := ie.parseSuiteVal p.dataOffset wpa2IeKeyMngPsk8011x wpa2IeKeyMngNa
  let p := p.read (ie.suiteReads p.dataOffset)
  let p :=
    if curKeyMngSuite ≠ wpa2IeKeyMngNa ∧ curKeyMngSuite ≠ wpa2IeKeyMngCckm then
      p.setKeyMngSuite i curKeyMngSuite
    else p
  let p := if curKeyMngSuite = wpa2IeKeyMng8011x then { p with wpaAkmExists := true } else p
  (p.skip 4).setKeyMngSuite (i + 1) curKeyMngSuite

/-- The loop, from an index of 8 bits; none where it has not ended. -/
def parseKeyMngSuites : ℕ → ℕ → Parse → Option Parse
  | 0, _, _ => none
  | fuel + 1, i, p =>
    if i < p.data.keyMngSuiteCnt then
      parseKeyMngSuites fuel ((i + 1) % 2 ^ 8) (p.parseKeyMngSuite ie i)
    else some p

/-- The `switch` over the two bits of a replay counter. -/
def replayCounters (bits : ℕ) : ℕ :=
  match bits with
  | 0 => 1
  | 1 => 2
  | 2 => 4
  | 3 => 16
  | _ => 1

def parseCapabilities (p : Parse) : Parse :=
  let capabilities := ie.word p.dataOffset
  let p := p.read [p.dataOffset, p.dataOffset + 1]
  { p with data := { p.data with
      bcastForUnicatst := capabilities / 2 % 2
      ptkReplayCounters := replayCounters (capabilities / 4 % 4)
      gtkReplayCounters := replayCounters (capabilities / 16 % 4)
      preAuthentication := capabilities % 2 } }

/-- From the number of key management suites on. -/
def parseKeyMng (fuel : ℕ) (p : Parse) : Option (Parse × TiStatus) :=
  (parseKeyMngSuites ie fuel 0 (p.parseKeyMngSuiteCnt ie)).map fun p =>
    if ie.len.toNat = p.dataOffset then (p, .ok) else (p.parseCapabilities ie, .ok)

/-- From the number of pairwise suites on. -/
def parsePairwise (fuel : ℕ) (p : Parse) : Option (Parse × TiStatus) :=
  let p := p.parseUnicastSuiteCnt ie
  if unicastCipherMaxnoInRsnie < p.data.unicastSuiteCnt then some (p, .nok)
  else
    let p := ((List.range p.data.unicastSuiteCnt).foldl (parseUnicastSuite ie) p).sortUnicastSuites
    if ie.len.toNat = p.dataOffset then some (p, .ok) else p.parseKeyMng ie fuel

/-- `admCtrlWpa2_parseIe`. -/
def parseIe (fuel : ℕ) (wpaAkmExists : Bool) (data : Wpa2IeData) : Option (Parse × TiStatus) :=
  let p := start wpaAkmExists data
  if ie.eleId ≠ rsnIeId ∨ ie.len.toNat < wpa2IeMinLength ∨ ie.word 0 ≠ wpa2OuiMaxVersion then
    some (p, .nok)
  else
    let p := p.setDefaults
    if ie.len.toNat < wpa2IeGroupSuiteLength then some (p, .ok)
    else
      let p := p.parseGroupSuite ie
      if ie.len.toNat < wpa2IeMinPairwiseSuiteLength then some (p, .ok)
      else p.parsePairwise ie fuel

end Parse

end ArchosGpl.Wlan.AdmCtrlWpa2
