import ArchosGpl.Wlan.MlmeParser.ReaderModel
import Mathlib.Algebra.Group.Nat.Defs

/-!
# Model of the parser of beacons and probe responses (`mlmeParser_parseIEs`)

The parser walks over the elements of the body. A pass of the loop reads the element at `pData` by
its id and goes on by `readLen`, **which keeps its value between the passes**. `visits` are the
elements that were passed, each with the number of bytes by which the parser went on.

Whether the XCC module is in the build is a field of `Config`, beside the settings that the parser
reads. The pointers that it sets in the frame, the commands that it gives to the switch channel
module and its copies are logs. Its copies are taken not to reach beyond their structures.
-/

namespace ArchosGpl.Wlan.MlmeParser

open Lib.Tlv

/-- `dot11MgmtIeId_e`. -/
inductive IeId
  | ssid
  | supportedRates
  | fhParameterSet
  | dsParameterSet
  | cfParameterSet
  | tim
  | ibssParameterSet
  | country
  | powerConstraint
  | tpcReport
  | channelSwitchAnnouncement
  | quiet
  | erp
  | htCapabilities
  | qosCapability
  | rsn
  | extSupportedRates
  | htInformation
  | xccExt1
  | cellPower
  | wpa
  | unknown
  deriving DecidableEq

def dot11WpaOuiType : UInt8 := 1

def dot11WmeOuiType : UInt8 := 2

def dot11WscOuiType : UInt8 := 4

def beacon : ℕ := 8

def radioBand24Ghz : ℕ := 0

/-- What the parser reads beside the body: the build, the settings, the frame. -/
structure Config where
  xccModuleIncluded : Bool
  bParseBeaconWsc : Bool
  band : ℕ
  rxChannel : UInt8
  myBssid : Bool
  subType : ℕ

/-- The cases of the `switch`. -/
def Config.ieId (c : Config) (id : UInt8) : IeId :=
  match id.toNat with
  | 0 => .ssid
  | 1 => .supportedRates
  | 2 => .fhParameterSet
  | 3 => .dsParameterSet
  | 4 => .cfParameterSet
  | 5 => .tim
  | 6 => .ibssParameterSet
  | 7 => .country
  | 32 => .powerConstraint
  | 35 => .tpcReport
  | 37 => .channelSwitchAnnouncement
  | 40 => .quiet
  | 42 => .erp
  | 45 => .htCapabilities
  | 46 => .qosCapability
  | 48 => .rsn
  | 50 => .extSupportedRates
  | 61 => .htInformation
  | 133 => .xccExt1
  | 150 => if c.xccModuleIncluded then .cellPower else .unknown
  | 221 => .wpa
  | _ => .unknown

/-- The variables of the parser and the fields of the parameters that it writes. -/
structure ParseState where
  pData : ℕ
  readLen : ℕ
  allowCellTp : Bool
  oui : ℕ → UInt8
  rsnIeIdx : ℕ
  rsnIeLen : ℕ
  unknownIeLen : ℕ
  recvChannelSwitchAnnoncIe : Bool
  erp : Bool × Bool
  pointers : List Dest
  copies : List Copy
  recvCmds : List (ℕ × UInt8)
  visits : List (ℕ × ℕ)

/-- A pass goes on, or the parser returns `TI_NOK`. -/
abbrev Pass := Except ParseState ParseState

namespace ParseState

def point (s : ParseState) (dest : Dest) : ParseState :=
  { s with pointers := s.pointers ++ [dest] }

/-- What a reader has written. -/
def take (s : ParseState) (r : Reading) : ParseState :=
  { s with
    readLen := r.readLen.getD s.readLen
    copies := s.copies ++ r.copies }

/-- A reader is called; where it fails, so does the parser. -/
def read (s : ParseState) (r : Reading) : Pass := if r.ok then .ok (s.take r) else .error (s.take r)

def look (s : ParseState) (src len : ℕ) : ParseState :=
  { s with copies := s.copies ++ [⟨.stack, 0, src, len⟩] }

/-- The length of an RSN IE is counted, in 8 bits. -/
def countRsn (s : ParseState) : ParseState :=
  { s with
    rsnIeLen := (s.rsnIeLen + s.readLen) % 2 ^ 8
    rsnIeIdx := (s.rsnIeIdx + 1) % 2 ^ 8 }

/-- The parser goes on behind the element. -/
def advance (s : ParseState) : ParseState :=
  { s with
    pData := s.pData + s.readLen
    visits := s.visits ++ [(s.pData, s.readLen)] }

end ParseState

variable (c : Config) (mem : ℕ → UInt8) (stop : ℕ)

/-- The three bytes at the element are `wpaIeOuiIe`. -/
def isWpaOui (o : ℕ) : Bool := mem (o + 2) = 0x00 ∧ mem (o + 3) = 0x50 ∧ mem (o + 4) = 0xf2

/-- The element holds the parameters or the information of WME. -/
def isWme (o : ℕ) : Bool :=
  mem (o + 5) = dot11WmeOuiType ∧
    (mem (o + 6) = dot11WmeOuiSubTypeParamsIe ∨ mem (o + 6) = dot11WmeOuiSubTypeIe)

/-- A WSC element is read from a beacon only where this is set. -/
def Config.readsWsc : Bool := c.subType ≠ beacon ∨ c.bParseBeaconWsc

/-- The first of the three branches of `WPA_IE_ID`: the length is counted before the check. -/
def parseWpaRsn (s : ParseState) : Pass :=
  if mem (s.pData + 5) = dot11WpaOuiType then
    let r := readRsnIe mem (stop - s.pData) s.pData s.rsnIeIdx
    let s := ((s.point (.rsnIe 0)).take r).countRsn
    if r.ok then .ok s else .error s
  else .ok s

/-- The second branch. -/
def parseWme (s : ParseState) : Pass :=
  let s := if mem (s.pData + 5) = dot11WmeOuiType then s.look (s.pData + 6) 1 else s
  if isWme mem s.pData then
    (s.point .wmeParams).read (readWmeParams mem (stop - s.pData) s.pData)
  else .ok s

/-- The third branch, and where no OUI type is recognized. -/
def parseWsc (s : ParseState) : Pass :=
  if mem (s.pData + 5) = dot11WscOuiType then
    let s := { s with readLen := getWscReadLen mem s.pData }
    if c.readsWsc then
      (s.point .wscParams).read (readWscParams mem (stop - s.pData) s.pData)
    else .ok s
  else .ok { s with readLen := bodyLen mem s.pData + 2 }

/-- The case `WPA_IE_ID`. -/
def parseWpa (s : ParseState) : Pass :=
  let s := s.look (s.pData + 2) 3
  if isWpaOui mem s.pData then do
    let s ← parseWpaRsn mem stop (s.look (s.pData + 5) 1)
    let s ← parseWme mem stop s
    parseWsc c mem stop s
  else .ok { s with readLen := bodyLen mem s.pData + 2 }

/-- The case `CHANNEL_SWITCH_ANNOUNCEMENT_IE_ID`: an element that cannot be read is ignored. -/
def parseChannelSwitch (s : ParseState) : ParseState :=
  let s := s.point .channelSwitch
  if c.myBssid then
    let r := readChannelSwitch mem (stop - s.pData) s.pData
    let s := { s with recvChannelSwitchAnnoncIe := true }.take r
    if r.ok then { s with recvCmds := s.recvCmds ++ [(s.pData, c.rxChannel)] } else s
  else { s with readLen := bodyLen mem s.pData + 2 }

/-- The cases `RSN_IE_ID` and `XCC_EXT_1_IE_ID`. -/
def parseRsn (s : ParseState) : Pass :=
  ((s.point (.rsnIe 0)).read (readRsnIe mem (stop - s.pData) s.pData s.rsnIeIdx)).map
    ParseState.countRsn

/-- The case `DS_PARAMETER_SET_IE_ID`: at 2.4 GHz the channel must be the one of the radio. -/
def parseDs (s : ParseState) : Pass :=
  ((s.point .dsParams).read (readDsParams mem (stop - s.pData) s.pData)).bind fun s =>
    if c.band = radioBand24Ghz ∧ mem (s.pData + 2) ≠ c.rxChannel then .error s else .ok s

/-- The case `CELL_POWER_IE`: nothing is done with the element behind a power constraint. -/
def parseCellPower (s : ParseState) : Pass :=
  if s.allowCellTp then
    let dataLen := stop - s.pData
    let oui :=
      if CellTpFits mem dataLen s.pData then cellTpOui mem s.pData s.oui else s.oui
    ((s.point .cellTp).read (readCellTp mem dataLen s.pData s.oui)).map fun s => { s with oui }
  else .ok s

/-- The default case. -/
def parseUnknown (s : ParseState) : ParseState :=
  let readLen := bodyLen mem s.pData + 2
  { s.point .unknownIe with
    readLen
    copies := s.copies ++ [⟨.unknownIe, s.unknownIeLen, s.pData, readLen⟩]
    unknownIeLen := (s.unknownIeLen + readLen) % 2 ^ 16 }

/-- A pass of the loop: the `switch`. -/
def parseIe (s : ParseState) : Pass :=
  let dataLen := stop - s.pData
  let o := s.pData
  match c.ieId (mem o) with
  | .ssid => (s.point .ssid).read (readSsid mem dataLen o)
  | .supportedRates => (s.point .rates).read (readRates mem dataLen o .rates)
  | .extSupportedRates => (s.point .extRates).read (readRates mem dataLen o .extRates)
  | .erp => (s.read (readErp mem dataLen o)).map fun s => { s with erp := erpBits mem o }
  | .fhParameterSet => (s.point .fhParams).read (readFhParams mem dataLen o)
  | .dsParameterSet => parseDs c mem stop s
  | .cfParameterSet => (s.point .cfParams).read (readCfParams mem dataLen o)
  | .ibssParameterSet => (s.point .ibssParams).read (readIbssParams mem dataLen o)
  | .tim => (s.point .tim).read (readTim mem dataLen o)
  | .country => (s.point .country).read (readCountry mem dataLen o)
  | .powerConstraint =>
    let s := { s with allowCellTp := false }
    (s.point .powerConstraint).read (readPowerConstraint mem dataLen o)
  | .channelSwitchAnnouncement => .ok (parseChannelSwitch c mem stop s)
  | .quiet => (s.point .quiet).read (readQuiet mem dataLen o)
  | .tpcReport => (s.point .tpcReport).read (readTpcReport mem dataLen o)
  | .xccExt1 | .rsn => parseRsn mem stop s
  | .qosCapability => (s.point .qosCapParams).read (readQosCapabilityIe mem dataLen o)
  | .htCapabilities => (s.point .htCapabilities).read (readHtCapabilitiesIe mem dataLen o)
  | .htInformation => (s.point .htInformation).read (readHtInformationIe mem dataLen o)
  | .wpa => parseWpa c mem stop s
  | .cellPower => parseCellPower mem stop s
  | .unknown => .ok (parseUnknown mem s)

/-- The loop, while more than one byte is left. -/
def parseFrom : ℕ → ParseState → Option (ParseState × Bool)
  | 0, s => if 1 < stop - s.pData then none else some (s, true)
  | fuel + 1, s =>
    if 1 < stop - s.pData then
      match parseIe c mem stop s with
      | .error s => some (s, false)
      | .ok s => parseFrom fuel s.advance
    else some (s, true)

/-- The start of the parser, from what the parameters and the stack hold. -/
def ParseState.start (s : ParseState) : ParseState :=
  { s with
    pData := 0
    allowCellTp := true
    rsnIeIdx := 0
    recvChannelSwitchAnnoncIe := false
    visits := [] }

/-- `mlmeParser_parseIEs`: the state at the end, and whether it returns `TI_OK`. -/
def parseIes (s : ParseState) : Option (ParseState × Bool) := parseFrom c mem stop stop s.start

end ArchosGpl.Wlan.MlmeParser
