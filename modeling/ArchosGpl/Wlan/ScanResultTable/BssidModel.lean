import ArchosGpl.Wlan.ScanResultTable.Model
import Mathlib.Algebra.BigOperators.Group.List.Basic
import Mathlib.Algebra.GroupWithZero.Nat

/-!
# Model of the BSSID list (`stad/src/Sta_Management/scanResultTable.c`)

`SiteEntry` adds to `TSiteEntry` the fields that `scanResultTable_GetBssidList` copies,
`SiteEntry.update` is what `scanResultTable_UpdateSiteData` does to them. A list is written as
records, each with its distance from the start of the list and **the information elements in the
order of writing, with the place of each in `IEs`**.

`scanResultTable_updateRates` ends in two masks, which are part of the frame here. The reserved byte
of the WME element is not written, so it is an input, by the place of the record.
-/

namespace ArchosGpl.Wlan.ScanResultTable

def maxRsnIe : ℕ := 3

def maxBeaconBodyLength : ℕ := 700

def dot11MaxSupportedRates : ℕ := 32

def dot11DsParamsEleLen : ℕ := 1

def dot11WmeParamEleLen : ℕ := 24

/-- `sizeof(OS_802_11_BSSID_EX)`. -/
def bssidExSize : ℕ := 120

/-- The place of `IEs` in `OS_802_11_BSSID_EX`. -/
def iesOffset : ℕ := 116

/-- `sizeof(OS_802_11_FIXED_IEs)`. -/
def fixedIesSize : ℕ := 12

/-- `sizeof(OS_802_11_BSSID_LIST_EX) - sizeof(OS_802_11_BSSID_EX)`. -/
def listHeaderSize : ℕ := 4

def dot11WmeAcinfoMask : UInt8 := 0x0f

inductive ERadioBand
  | band24Ghz
  | band50Ghz
  deriving DecidableEq

/-- `dot11_RSN_t`: the identifier and the `hdr[1]` bytes of data. -/
structure Dot11Rsn where
  eleId : UInt8
  data : List UInt8
  length_lt : data.length < 256
  deriving DecidableEq

namespace Dot11Rsn

def zero : Dot11Rsn := ⟨0, [], by decide⟩

/-- The element as it stands in a frame. -/
def bytes (ie : Dot11Rsn) : List UInt8 := ie.eleId :: UInt8.ofNat ie.data.length :: ie.data

/-- `hdr[1] + 2`. -/
def size (ie : Dot11Rsn) : ℕ := ie.data.length + 2

end Dot11Rsn

/-- The length of RSN elements one after another. -/
def rsnSize (ies : List Dot11Rsn) : ℕ := (ies.map Dot11Rsn.size).sum

/-- The part of a frame from its elements on, with the RSN elements among them. -/
structure Body where
  bytes : List UInt8
  rsnIes : List Dot11Rsn

/-- A body in `probeRespBuffer` or `beaconBuffer`. -/
abbrev StoredBody : Type := { b : Body // b.bytes.length < maxBeaconBodyLength }

def StoredBody.zero : StoredBody := ⟨⟨[], []⟩, by decide⟩

/-- `TScanFrameInfo` with the elements that the list is made of: `pUnknownIe`, the `ACInfoField` of
`WMEParams`, the rate masks, the ATIM window of `pIBSSParamsSet`. -/
structure SiteFrame extends TScanFrameInfo where
  body : Body
  eBand : ERadioBand
  pUnknownIe : List UInt8
  wmeParams : Option UInt8
  rateMask : Option (UInt32 × UInt32)
  pIBSSParamsSet : Option UInt16
  timestamp : Fin 8 → UInt8

/-- `TSiteEntry` with the fields that the list is made of. -/
structure SiteEntry extends TSiteEntry where
  eBand : ERadioBand
  tsfTimeStamp : Fin 8 → UInt8
  atimWindow : UInt16
  supportedRateMask : UInt32
  basicRateMask : UInt32
  wmeSupported : Bool
  wmeParameters : Fin 16 → UInt8
  lastWmeParameterCnt : UInt8
  pRsnIe : List Dot11Rsn
  pRsnIe_length : pRsnIe.length = maxRsnIe
  rsnIeLen : ℕ
  pUnknownIe : List UInt8
  probeRespBuffer : StoredBody
  beaconBuffer : StoredBody

/-! ## Updates of an entry -/

/-- The loop of `UPDATE_RSN_IE`, with the elements of the frame and the slots that are left. -/
def updateRsnIe (rsnIeLen : ℕ) : ℕ → List Dot11Rsn → List Dot11Rsn → List Dot11Rsn
  | length, ie :: ies, slot :: slots =>
    if length < rsnIeLen then ie :: updateRsnIe rsnIeLen ((length + ie.size) % 2 ^ 8) ies slots
    else slot :: slots
  | _, _, slots => slots

theorem updateRsnIe_length (rsnIeLen length : ℕ) (ies slots : List Dot11Rsn) :
    (updateRsnIe rsnIeLen length ies slots).length = slots.length := by
  induction slots generalizing length ies with
  | nil => cases ies <;> rfl
  | cons slot slots ih =>
    cases ies with
    | nil => rfl
    | cons ie ies =>
      rw [updateRsnIe]
      split
      · rw [List.length_cons, ih, List.length_cons]
      · rfl

namespace SiteEntry

/-- An entry after `os_memoryZero`. -/
def zero : SiteEntry where
  toTSiteEntry := .zero
  eBand := .band24Ghz
  tsfTimeStamp := fun _ => 0
  atimWindow := 0
  supportedRateMask := 0
  basicRateMask := 0
  wmeSupported := false
  wmeParameters := fun _ => 0
  lastWmeParameterCnt := 0
  pRsnIe := List.replicate maxRsnIe .zero
  pRsnIe_length := List.length_replicate
  rsnIeLen := 0
  pUnknownIe := []
  probeRespBuffer := .zero
  beaconBuffer := .zero

def updateQos (e : SiteEntry) (wmeParams : Option UInt8) : Bool :=
  match wmeParams with
  | none => false
  | some acInfoField => acInfoField &&& dot11WmeAcinfoMask ≠ e.lastWmeParameterCnt || !e.wmeSupported

def updateFrameBuffer (old : StoredBody) (body : Body) : StoredBody :=
  if h : body.bytes.length < maxBeaconBodyLength then ⟨body, h⟩ else old

/-- `scanResultTable_UpdateSiteData` for a frame whose SSID is `ssid`. -/
def update (e : SiteEntry) (ssid : TSsid) (pFrame : SiteFrame) (now : UInt32) : SiteEntry :=
  let ies := pFrame.body.rsnIes
  -- no pointer where the frame has no RSN element; the length of all of them is kept in 8 bits
  let rsnIeLen := if ies = [] then 0 else rsnSize ies % 2 ^ 8
  { toTSiteEntry :=
      TScanResultTable.updateSiteData e.toTSiteEntry ssid pFrame.toTScanFrameInfo now
    eBand := pFrame.eBand
    tsfTimeStamp := pFrame.timestamp
    atimWindow := pFrame.pIBSSParamsSet.getD e.atimWindow
    supportedRateMask := (pFrame.rateMask.map Prod.fst).getD e.supportedRateMask
    basicRateMask := (pFrame.rateMask.map Prod.snd).getD e.basicRateMask
    wmeSupported := e.updateQos pFrame.wmeParams
    wmeParameters := e.wmeParameters
    lastWmeParameterCnt := e.lastWmeParameterCnt
    pRsnIe := updateRsnIe rsnIeLen 0 ies e.pRsnIe
    pRsnIe_length := (updateRsnIe_length ..).trans e.pRsnIe_length
    rsnIeLen := rsnIeLen
    pUnknownIe := pFrame.pUnknownIe
    probeRespBuffer :=
      if pFrame.subType = .probeResponse then updateFrameBuffer e.probeRespBuffer pFrame.body
      else e.probeRespBuffer
    beaconBuffer :=
      if pFrame.subType = .beacon then updateFrameBuffer e.beaconBuffer pFrame.body
      else e.beaconBuffer }

end SiteEntry

/-! ## The list -/

/-- `OS_802_11_NETWORK_TYPE`, as far as the list uses it. -/
inductive Os80211NetworkType
  | ds
  | ofdm5
  | ofdm24
  deriving DecidableEq

/-- `OS_802_11_BSSID_EX`. `ies` are the elements written to `IEs`, `rsnIes` the RSN elements among
them. -/
structure BssidEx where
  length : ℕ
  macAddress : TMacAddr
  capabilities : UInt16
  ssid : TSsid
  privacy : Bool
  rssi : ℤ
  networkTypeInUse : Os80211NetworkType
  beaconPeriod : UInt16
  atimWindow : UInt16
  channel : ℕ
  infrastructureMode : ScanBssType
  supportedRates : List UInt8
  ieLength : ℕ
  ies : List (ℕ × List UInt8)
  rsnIes : List Dot11Rsn

def chanFreq : List (UInt8 × ℕ) :=
  [(1, 2412000), (2, 2417000), (3, 2422000), (4, 2427000), (5, 2432000), (6, 2437000), (7, 2442000),
   (8, 2447000), (9, 2452000), (10, 2457000), (11, 2462000), (12, 2467000), (13, 2472000),
   (14, 2484000), (34, 5170000), (36, 5180000), (38, 5190000), (40, 5200000), (42, 5210000),
   (44, 5220000), (46, 5230000), (48, 5240000), (52, 5260000), (56, 5280000), (60, 5300000),
   (64, 5320000), (100, 5500000), (104, 5520000), (108, 5540000), (112, 5560000), (116, 5580000),
   (120, 5600000), (124, 5620000), (128, 5640000), (132, 5660000), (136, 5680000), (140, 5700000),
   (149, 5745000), (153, 5765000), (157, 5785000), (161, 5805000)]

def chan2Freq (chan : UInt8) : ℕ := ((chanFreq.find? fun p => p.1 = chan).map Prod.snd).getD 0

/-- The rates below OFDM, `DRV_RATE_MASK_*` and `NET_RATE_*`. -/
def cckRates : List (UInt32 × UInt8) :=
  [(0x1, 0x02), (0x2, 0x04), (0x4, 0x0B), (0x8, 0x16), (0x10, 0x2C)]

def ofdmRates : List (UInt32 × UInt8) :=
  [(0x20, 0x0C), (0x40, 0x12), (0x80, 0x18), (0x100, 0x24), (0x200, 0x30), (0x400, 0x48),
   (0x800, 0x60), (0x1000, 0x6C)]

/-- The rates of a table that are in the bitmap, with `NET_BASIC_MASK` for the basic ones. -/
def netRates (uSuppRatesBitMap uBasicRatesBitMap : UInt32) (rates : List (UInt32 × UInt8)) :
    List UInt8 :=
  rates.filterMap fun r =>
    if uSuppRatesBitMap &&& r.1 = 0 then none
    else if uBasicRatesBitMap &&& r.1 = 0 then some r.2 else some (r.2 ||| 0x80)

/-- `rate_DrvBitmapToNetStr`: the rates below OFDM, then the others. -/
def rateDrvBitmapToNetStr (uSuppRatesBitMap uBasicRatesBitMap : UInt32) : List UInt8 × List UInt8 :=
  (netRates uSuppRatesBitMap uBasicRatesBitMap cckRates,
    netRates uSuppRatesBitMap uBasicRatesBitMap ofdmRates)

/-- The length is made a multiple of 4. -/
def align4 (n : ℕ) : ℕ := if n % 4 ≠ 0 then n + (4 - n % 4) else n

namespace SiteEntry

variable (e : SiteEntry)

def listedBody : Body := if e.probeRecv then e.probeRespBuffer else e.beaconBuffer

def siteLength (bAllVarIes : Bool) : ℕ :=
  align4 <|
    if bAllVarIes then bssidExSize + fixedIesSize + e.listedBody.bytes.length
    else
      bssidExSize + fixedIesSize + (e.ssid.str.length + 2) + (dot11MaxSupportedRates + 2) +
        (dot11DsParamsEleLen + 2) + e.rsnIeLen + e.pUnknownIe.length +
        if e.wmeSupported then dot11WmeParamEleLen + 2 else 0

/-- The RSN elements that the list takes: those in the slots before the first empty one. -/
def listedRsnIes : List Dot11Rsn :=
  if 0 < e.rsnIeLen then e.pRsnIe.takeWhile fun ie => ie.data ≠ [] else []

def rates : List UInt8 :=
  let p := rateDrvBitmapToNetStr e.supportedRateMask e.basicRateMask
  p.1 ++ p.2

def wordBytes (w : UInt16) : List UInt8 := [w.toUInt8, (w >>> 8).toUInt8]

def fixedIes : List UInt8 :=
  List.ofFn e.tsfTimeStamp ++ wordBytes e.beaconInterval ++ wordBytes e.capabilities

/-- `dot11_WME_PARAM_t`. -/
def wmeIe (reserved : UInt8) : List UInt8 :=
  [221, 24, 0x50, 0xf2, 0x01, 2, 1, 1, dot11WmeAcinfoMask &&& e.lastWmeParameterCnt, reserved] ++
    List.ofFn e.wmeParameters

/-- The record before its elements. -/
def bssidEx : BssidEx where
  length := 0
  macAddress := e.bssid
  capabilities := e.capabilities
  ssid := e.ssid
  privacy := e.privacy
  rssi := e.rssi
  networkTypeInUse :=
    match e.eBand with
    | .band24Ghz =>
      if (rateDrvBitmapToNetStr e.supportedRateMask e.basicRateMask).2 = [] then .ds else .ofdm24
    | .band50Ghz => .ofdm5
  beaconPeriod := e.beaconInterval
  atimWindow := e.atimWindow
  channel := chan2Freq e.channel
  infrastructureMode := e.bssType
  supportedRates := e.rates
  ieLength := 0
  ies := []
  rsnIes := []

end SiteEntry

namespace BssidEx

/-- An element is written behind the others. -/
def put (r : BssidEx) (bytes : List UInt8) : BssidEx :=
  { r with ieLength := r.ieLength + bytes.length, ies := r.ies ++ [(r.ieLength, bytes)] }

/-- The loop over the RSN elements: where it writes them. -/
def rsnWrites : ℕ → List Dot11Rsn → List (ℕ × List UInt8)
  | _, [] => []
  | off, ie :: ies => (off, ie.bytes) :: rsnWrites (off + ie.size) ies

/-- The RSN elements are written, and `rsnIeLen` is counted. -/
def putRsnIes (r : BssidEx) (ies : List Dot11Rsn) (rsnIeLen : ℕ) : BssidEx :=
  { r with
    ieLength := r.ieLength + rsnIeLen
    ies := r.ies ++ rsnWrites r.ieLength ies
    rsnIes := ies }

def putSsidRatesDs (r : BssidEx) (e : SiteEntry) : BssidEx :=
  let r := r.put (0 :: UInt8.ofNat e.ssid.str.length :: e.ssid.str)
  let r := r.put (1 :: UInt8.ofNat e.rates.length :: e.rates)
  r.put [3, 1, e.channel]

def putRsn (r : BssidEx) (e : SiteEntry) : BssidEx :=
  if 0 < e.rsnIeLen then r.putRsnIes e.listedRsnIes e.rsnIeLen else r

def putWme (r : BssidEx) (e : SiteEntry) (reserved : UInt8) : BssidEx :=
  if e.wmeSupported then r.put (e.wmeIe reserved) else r

def putUnknown (r : BssidEx) (e : SiteEntry) : BssidEx :=
  if 0 < e.pUnknownIe.length then r.put e.pUnknownIe else r

def ofSite (reserved : UInt8) (bAllVarIes : Bool) (e : SiteEntry) : BssidEx :=
  let r := e.bssidEx.put e.fixedIes
  let r :=
    if bAllVarIes then { r.put e.listedBody.bytes with rsnIes := e.listedBody.rsnIes }
    else (((r.putSsidRatesDs e).putRsn e).putWme e reserved).putUnknown e
  { r with length := align4 (bssidExSize + r.ieLength - 1) }

end BssidEx

def calculateBssidListSize (bAllVarIes : Bool) (sites : List SiteEntry) : ℕ :=
  listHeaderSize + (sites.map fun e => e.siteLength bAllVarIes).sum

/-- The loop of `scanResultTable_GetBssidList`, from `uLength` on. -/
def bssidLoop (reserved : ℕ → UInt8) (bAllVarIes : Bool) :
    ℕ → List SiteEntry → List (ℕ × BssidEx) × ℕ
  | uLength, [] => ([], uLength)
  | uLength, e :: sites =>
    let r := BssidEx.ofSite (reserved uLength) bAllVarIes e
    let rest := bssidLoop reserved bAllVarIes (uLength + r.length) sites
    ((uLength, r) :: rest.1, rest.2)

/-- The status, the length and the records with their places. The checks of the stored bodies
against `MAX_BEACON_BODY_LENGTH` never fail (`StoredBody`). -/
def getBssidList (reserved : ℕ → UInt8) (pLength : ℕ) (bAllVarIes : Bool) (sites : List SiteEntry) :
    TIStatus × ℕ × List (ℕ × BssidEx) :=
  let uLength := calculateBssidListSize bAllVarIes sites
  if pLength < uLength then (.nok, uLength, [])
  else
    let l := bssidLoop reserved bAllVarIes listHeaderSize sites
    (.ok, l.2, l.1)

end ArchosGpl.Wlan.ScanResultTable
