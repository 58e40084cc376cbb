import Mathlib.Data.Fintype.Basic
import Mathlib.Data.List.Basic

/-!
# Model of the scan result table (`stad/src/Sta_Management/scanResultTable.c`)

The first `uCurrentSiteNumber` entries of the array are a list. What a handler reads from the clock
is an argument: the time of the update, and the time of each check of
`scanResultTable_PerformAging`. Of an entry the model has its key, what the table's own functions
read, and what `scanResultTable_UpdateSiteData` takes from the fixed fields of the frame; the
rates, RSN, QoS, HT and WSC fields and the copies of the frame body are left out.
-/

namespace ArchosGpl.Wlan.ScanResultTable

abbrev maxSsidLen : ℕ := 32

/-- `TSsid`: the first `len` bytes of `str`. -/
structure TSsid where
  str : List UInt8
  len_le : str.length ≤ maxSsidLen
  deriving DecidableEq, Repr

abbrev TMacAddr : Type := Fin 6 → UInt8

/-- `ScanBssType_e`, as far as a frame can set it. -/
inductive ScanBssType
  | bssInfrastructure
  | bssIndependent
  deriving DecidableEq, Repr

/-- The subtypes of a received frame. -/
inductive DOT11MgmtSubType
  | beacon
  | probeResponse
  | other
  deriving DecidableEq, Repr

/-- `TScanFrameInfo` with its `iePacket`. `pSsid` holds the `hdr[1]` bytes of the SSID IE, if there
is one; `pDSParamsSet` the channel of the DS IE, `pTIM` the DTIM period. -/
structure TScanFrameInfo where
  bssId : TMacAddr
  pSsid : Option (List UInt8)
  subType : DOT11MgmtSubType
  rssi : ℤ
  channel : UInt8
  capabilities : UInt16
  beaconInerval : UInt16
  pDSParamsSet : Option UInt8
  pTIM : Option UInt8

structure TSiteEntry where
  localTimeStamp : UInt32
  bConsideredForSelect : Bool
  probeRecv : Bool
  beaconRecv : Bool
  bssid : TMacAddr
  ssid : TSsid
  bssType : ScanBssType
  channel : UInt8
  privacy : Bool
  capabilities : UInt16
  beaconInterval : UInt16
  dtimPeriod : UInt8
  rssi : ℤ
  deriving DecidableEq

/-- An entry after `os_memoryZero`. -/
def TSiteEntry.zero : TSiteEntry where
  localTimeStamp := 0
  bConsideredForSelect := false
  probeRecv := false
  beaconRecv := false
  bssid := fun _ => 0
  ssid := ⟨[], Nat.zero_le _⟩
  bssType := .bssIndependent
  channel := 0
  privacy := false
  capabilities := 0
  beaconInterval := 0
  dtimPeriod := 0
  rssi := 0

inductive EScanResultTableClear
  | dontClear
  | clear
  deriving DecidableEq, Repr

structure TScanResultTable where
  pTable : List TSiteEntry
  uEntriesNumber : ℕ
  uSraThreshold : UInt32
  bStable : Bool
  eClearTable : EScanResultTableClear

inductive TIStatus
  | ok
  | nok
  deriving DecidableEq, Repr

abbrev Key : Type := TSsid × TMacAddr

/-- The pair that `scanResultTable_GetBySsidBssidPair` compares. -/
def TSiteEntry.key (e : TSiteEntry) : Key := (e.ssid, e.bssid)

/-- The test of `scanResultTable_FindHidden`. -/
def TSiteEntry.Hidden (e : TSiteEntry) : Prop := e.ssid.str = [] ∨ e.ssid.str = [0]

instance (e : TSiteEntry) : Decidable e.Hidden := inferInstanceAs (Decidable (_ ∨ _))

namespace TScanResultTable

/-- `scanResultTable_Create` and `scanResultTable_Init`. -/
def init (uEntriesNumber : ℕ) (eClearTable : EScanResultTableClear) : TScanResultTable where
  pTable := []
  uEntriesNumber := uEntriesNumber
  uSraThreshold := 60
  bStable := true
  eClearTable := eClearTable

/-- A bit of the capabilities (`CAP_ESS`, `CAP_PRIVACY`). -/
def capabilityBit (capabilities : UInt16) (shift : UInt16) : Bool := (capabilities >>> shift) &&& 1 = 1

/-- `UPDATE_CHANNEL` with the check before it. -/
def updateChannel (e : TSiteEntry) (pFrame : TScanFrameInfo) : UInt8 :=
  match pFrame.pDSParamsSet with
  | none => pFrame.channel
  | some currChannel => if currChannel ≠ pFrame.channel then e.channel else currChannel

/-- `scanResultTable_UpdateSiteData` for a frame whose SSID is `ssid`. -/
def updateSiteData (e : TSiteEntry) (ssid : TSsid) (pFrame : TScanFrameInfo) (now : UInt32) :
    TSiteEntry :=
  let bssType := if capabilityBit pFrame.capabilities 0 then .bssInfrastructure else .bssIndependent
  { localTimeStamp := now
    bConsideredForSelect := false
    probeRecv := pFrame.subType = .probeResponse || e.probeRecv
    beaconRecv := pFrame.subType = .beacon || e.beaconRecv
    bssid := pFrame.bssId
    ssid := ssid
    bssType := bssType
    channel := updateChannel e pFrame
    privacy := capabilityBit pFrame.capabilities 4
    capabilities := pFrame.capabilities
    beaconInterval := pFrame.beaconInerval
    dtimPeriod :=
      if pFrame.subType = .beacon ∧ bssType = .bssInfrastructure then pFrame.pTIM.getD e.dtimPeriod
      else e.dtimPeriod
    rssi := pFrame.rssi }

def checkRxSignalValidity (e : TSiteEntry) (rxLevel : ℤ) (channel : UInt8) : TIStatus :=
  if channel ≠ e.channel ∧ rxLevel < e.rssi then .nok else .ok

/-- `scanResultTable_GetBySsidBssidPair`: the index of the entry. -/
def getBySsidBssidPair (t : TScanResultTable) (k : Key) : Option ℕ :=
  t.pTable.findIdx? fun e => e.key = k

def findHidden (t : TScanResultTable) : Option ℕ := t.pTable.findIdx? fun e => e.Hidden

def removeEntry (t : TScanResultTable) (uIndex : ℕ) : TScanResultTable :=
  match t.pTable.getLast? with
  | none => t
  | some last =>
    if uIndex < t.pTable.length then { t with pTable := (t.pTable.set uIndex last).dropLast } else t

/-- `scanResultTbale_AllocateNewEntry`: the table with an empty entry, and its index. -/
def allocateNewEntry (t : TScanResultTable) : Option (TScanResultTable × ℕ) :=
  if t.uEntriesNumber ≤ t.pTable.length then
    (t.findHidden).map fun uHiddenSsidIndex =>
      ({ t with pTable := t.pTable.set uHiddenSsidIndex .zero }, uHiddenSsidIndex)
  else some ({ t with pTable := t.pTable ++ [.zero] }, t.pTable.length)

/-- The entry `pSite` at an index is updated. -/
def updateAt (t : TScanResultTable) (uIndex : ℕ) (pSite : TSiteEntry) (ssid : TSsid)
    (pFrame : TScanFrameInfo) (now : UInt32) : TScanResultTable :=
  { t with pTable := t.pTable.set uIndex (updateSiteData pSite ssid pFrame now) }

/-- What `scanResultTable_UpdateEntry` does with a stable table. -/
def leaveStable (t : TScanResultTable) : TScanResultTable :=
  if t.bStable then
    { t with
      bStable := false
      pTable := if t.eClearTable = .clear then [] else t.pTable }
  else t

/-- The SSID of the frame, if it has one of an admissible length. -/
def frameSsid (pFrame : TScanFrameInfo) : Option TSsid :=
  pFrame.pSsid.bind fun str => if h : str.length ≤ maxSsidLen then some ⟨str, h⟩ else none

def updateEntry (t : TScanResultTable) (pBssid : TMacAddr) (pFrame : TScanFrameInfo) (now : UInt32) :
    TScanResultTable × TIStatus :=
  let t := t.leaveStable
  match frameSsid pFrame with
  | none => (t, .nok)
  | some ssid =>
    match t.getBySsidBssidPair (ssid, pBssid) with
    | some uIndex =>
      match t.pTable[uIndex]? with
      | none => (t, .ok)
      | some pSite =>
        if checkRxSignalValidity pSite pFrame.rssi pFrame.channel ≠ .nok then
          (t.updateAt uIndex pSite ssid pFrame now, .ok)
        else (t, .ok)
    | none =>
      match t.allocateNewEntry with
      | none => (t, .nok)
      | some (t', uIndex) => (t'.updateAt uIndex .zero ssid pFrame now, .ok)

def setStableState (t : TScanResultTable) : TScanResultTable :=
  { t with
    pTable := if t.bStable ∧ t.eClearTable = .clear then [] else t.pTable
    bStable := true }

/-- The entry is older than the threshold when the clock shows `now`. -/
def isOld (t : TScanResultTable) (e : TSiteEntry) (now : UInt32) : Bool :=
  e.localTimeStamp < now - t.uSraThreshold * 1000

/-- The loop of `scanResultTable_PerformAging`, from an index with `n` entries to check. -/
def agingLoop : ℕ → ℕ → List UInt32 → TScanResultTable → TScanResultTable
  | 0, _, _, t => t
  | n + 1, uIndex, clock, t =>
    match t.pTable[uIndex]? with
    | none => t
    | some e =>
      if t.isOld e (clock.headD 0) then agingLoop n uIndex clock.tail (t.removeEntry uIndex)
      else agingLoop n (uIndex + 1) clock.tail t

/-- `scanResultTable_PerformAging`. `clock` lists what `os_timeStampMs` answers. -/
def performAging (t : TScanResultTable) (clock : List UInt32) : TScanResultTable :=
  agingLoop t.pTable.length 0 clock t

/-- The calls of the module. All callers of `scanResultTable_UpdateEntry` pass the BSSID of the
frame. -/
inductive Op
  | updateEntry (pFrame : TScanFrameInfo) (now : UInt32)
  | performAging (clock : List UInt32)
  | setStableState
  | setSraThreshold (uSraThreshold : UInt32)

def step (t : TScanResultTable) : Op → TScanResultTable
  | .updateEntry pFrame now => (t.updateEntry pFrame.bssId pFrame now).1
  | .performAging clock => t.performAging clock
  | .setStableState => t.setStableState
  | .setSraThreshold uSraThreshold => { t with uSraThreshold := uSraThreshold }

end TScanResultTable

end ArchosGpl.Wlan.ScanResultTable
