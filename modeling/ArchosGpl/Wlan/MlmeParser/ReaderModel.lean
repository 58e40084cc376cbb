import ArchosGpl.Lib.Tlv

/-!
# Model of the readers of the elements (`mlmeParser_read…`)

A reader gets an element of a beacon or a probe response, stores its header and checks it; an
element that passes is copied to the structure for its type. `Reading` is what it returns: whether
the element is accepted, the length that it writes to `*pReadLen`, **none where it leaves it as it
was**, and what it copies, with the place in the structure and the place in the body. The
structures have the fields of the elements in their order; what a reader only looks at goes to the
stack.

`dataLen` are the bytes from the element to the end of the body. The bytes are a function of their
place, whatever is behind the body.
-/

namespace ArchosGpl.Wlan.MlmeParser

open Lib.Tlv

def maxSsidLen : ℕ := 32

def dot11MaxSupportedRates : ℕ := 32

def dot11FhParamsEleLen : ℕ := 5

def dot11DsParamsEleLen : ℕ := 1

def dot11CfParamsEleLen : ℕ := 6

def dot11IbssParamsEleLen : ℕ := 2

def dot11CountryStringLen : ℕ := 3

/-- `DOT11_COUNTRY_ELE_LEN_MAX`, for 37 triplets. -/
def dot11CountryEleLenMax : ℕ := (37 + 1) * 3

def dot11WmeEleLen : ℕ := 7

def dot11WmeParamEleLen : ℕ := 24

def wmeTspecIeLen : ℕ := 61

/-- `sizeof(dot11_WSC_t) - sizeof(dot11_eleHdr_t)`. -/
def wscMaxLen : ℕ := 4 + 160

def dot11QosCapabilityEleLen : ℕ := 1

def dot11HtCapabilitiesEleLen : ℕ := 26

def dot11HtInformationEleLen : ℕ := 22

def dot11PowerConstraintEleLen : ℕ := 1

def dot11ChannelSwitchEleLen : ℕ := 3

def dot11QuietEleLen : ℕ := 6

def dot11TpcReportEleLen : ℕ := 2

def dot11CellTpEleLen : ℕ := 6

def dot11WmeOuiSubTypeIe : UInt8 := 0

def dot11WmeOuiSubTypeParamsIe : UInt8 := 1

def dot11WmeVersion : UInt8 := 1

/-- The structures of `mlmeIEParsingParams_t` to which elements are copied. -/
inductive Dest
  | stack
  | ssid
  | rates
  | extRates
  | fhParams
  | cfParams
  | dsParams
  | ibssParams
  | country
  | wmeParams
  | wscParams
  | powerConstraint
  | channelSwitch
  | quiet
  | tpcReport
  | cellTp
  | rsnIe (i : ℕ)
  | tim
  | qosCapParams
  | htCapabilities
  | htInformation
  | unknownIe
  deriving DecidableEq

structure Copy where
  dest : Dest
  pos : ℕ
  src : ℕ
  len : ℕ
  deriving DecidableEq

structure Reading where
  ok : Bool
  readLen : Option ℕ
  copies : List Copy

variable (mem : ℕ → UInt8) (dataLen pData : ℕ)

/-- A reader that stores the header and then checks the element. One that sets the length `early`
does so before the check. -/
def readElement (dest : Dest) (early : Bool) (check : Prop) [Decidable check] (copies : List Copy) :
    Reading :=
  let len := bodyLen mem pData
  if check then ⟨true, some (len + 2), ⟨dest, 0, pData, 2⟩ :: copies⟩
  else ⟨false, if early then some (len + 2) else none, [⟨dest, 0, pData, 2⟩]⟩

def readFixed (dest : Dest) (eleLen : ℕ) : Reading :=
  readElement mem pData dest false (eleLen + 2 ≤ dataLen ∧ bodyLen mem pData = eleLen)
    [⟨dest, 2, pData + 2, eleLen⟩]

def readFhParams : Reading := readFixed mem dataLen pData .fhParams dot11FhParamsEleLen

def readDsParams : Reading := readFixed mem dataLen pData .dsParams dot11DsParamsEleLen

def readCfParams : Reading := readFixed mem dataLen pData .cfParams dot11CfParamsEleLen

def readIbssParams : Reading := readFixed mem dataLen pData .ibssParams dot11IbssParamsEleLen

/-- A reader of an element of bounded length, which copies some of its bytes. -/
def readBounded (dest : Dest) (minDataLen minLen maxLen copyLen : ℕ) : Reading :=
  let len := bodyLen mem pData
  readElement mem pData dest true
    (minDataLen ≤ dataLen ∧ len + 2 ≤ dataLen ∧ minLen ≤ len ∧ len ≤ maxLen)
    [⟨dest, 2, pData + 2, copyLen⟩]

def readRates (dest : Dest) : Reading :=
  readBounded mem dataLen pData dest 0 0 dot11MaxSupportedRates (bodyLen mem pData)

def readSsid : Reading :=
  readBounded mem dataLen pData .ssid 2 0 maxSsidLen (bodyLen mem pData)

def readPowerConstraint : Reading :=
  readBounded mem dataLen pData .powerConstraint 2 0 dot11PowerConstraintEleLen
    (bodyLen mem pData)

/-- `mlmeParser_readChannelSwitch`, without the command that follows. -/
def readChannelSwitch : Reading :=
  readBounded mem dataLen pData .channelSwitch 2 0 dot11ChannelSwitchEleLen 3

/-- `mlmeParser_readTPCReport`: the transmit power. -/
def readTpcReport : Reading :=
  readBounded mem dataLen pData .tpcReport 2 0 dot11TpcReportEleLen 1

def readWscParams : Reading :=
  readBounded mem dataLen pData .wscParams 8 0 wscMaxLen (bodyLen mem pData)

def readHtCapabilitiesIe : Reading :=
  readBounded mem dataLen pData .htCapabilities 0 dot11HtCapabilitiesEleLen
    dot11HtCapabilitiesEleLen (bodyLen mem pData)

/-- `mlmeParser_readHtInformationIE`: an element that is longer is accepted. -/
def readHtInformationIe : Reading :=
  readBounded mem dataLen pData .htInformation 0 dot11HtInformationEleLen 255
    dot11HtInformationEleLen

/-- `mlmeParser_readQosCapabilityIE`: what is stored behind the header is the length again. -/
def readQosCapabilityIe : Reading :=
  let len := bodyLen mem pData
  readElement mem pData .qosCapParams true (len + 2 ≤ dataLen ∧ len ≤ dot11QosCapabilityEleLen)
    [⟨.qosCapParams, 2, pData + 1, 1⟩]

/-- `mlmeParser_readCountry`: the string, and then triplets up to the end of the element. -/
def readCountry : Reading :=
  let len := bodyLen mem pData
  readElement mem pData .country true
    (8 ≤ dataLen ∧ len + 2 ≤ dataLen ∧ len ≤ dot11CountryEleLenMax ∧ dot11CountryStringLen ≤ len)
    [⟨.country, 2, pData + 2, dot11CountryStringLen⟩,
      ⟨.country, 5, pData + 5, 3 * ((len - dot11CountryStringLen + 2) / 3)⟩]

/-- `mlmeParser_readTim`: the length is set at the end. -/
def readTim : Reading :=
  let len := bodyLen mem pData
  readElement mem pData .tim false (2 ≤ dataLen ∧ len + 2 ≤ dataLen ∧ 3 ≤ len)
    [⟨.tim, 2, pData + 2, 3⟩, ⟨.tim, 5, pData + 5, len - 3⟩]

/-- `mlmeParser_readRsnIe`: the length is set at the end. -/
def readRsnIe (i : ℕ) : Reading :=
  let len := bodyLen mem pData
  readElement mem pData (.rsnIe i) false (2 ≤ dataLen ∧ len + 2 ≤ dataLen)
    [⟨.rsnIe i, 2, pData + 2, len⟩]

/-- `mlmeParser_readQuiet`: the fields must be in the body, the element may be shorter. -/
def readQuiet : Reading :=
  readElement mem pData .quiet true
    (2 ≤ dataLen ∧ dot11QuietEleLen + 2 ≤ dataLen ∧ bodyLen mem pData ≤ dot11QuietEleLen)
    [⟨.quiet, 2, pData + 2, 6⟩]

/-- `mlmeParser_readERP`, which stores no header. -/
def readErp : Reading :=
  let len := bodyLen mem pData
  if dataLen < len + 2 then ⟨false, some (len + 2), [⟨.stack, 0, pData + 1, 1⟩]⟩
  else ⟨true, some (len + 2), [⟨.stack, 0, pData + 1, 1⟩, ⟨.stack, 1, pData + 2, 2⟩]⟩

/-- The bits of the element that it reports: use of protection, and the long preamble. -/
def erpBits : Bool × Bool :=
  ((mem (pData + 2)).toNat / 2 % 2 = 1, (mem (pData + 2)).toNat / 4 % 2 = 1)

/-- `mlmeParser_readWMEParams`, without an association response. -/
def readWmeParams : Reading :=
  let len := bodyLen mem pData
  let hdr : Copy := ⟨.wmeParams, 0, pData, 2⟩
  let subtype : Copy := ⟨.stack, 0, pData + 6, 1⟩
  let version : Copy := ⟨.stack, 0, pData + 7, 1⟩
  if dataLen < len + 2 then ⟨false, some dataLen, [hdr]⟩
  else if wmeTspecIeLen < len ∨ len < dot11WmeEleLen then ⟨false, some (len + 2), [hdr]⟩
  else
    let eleLen :=
      if mem (pData + 6) = dot11WmeOuiSubTypeIe then some dot11WmeEleLen
      else if mem (pData + 6) = dot11WmeOuiSubTypeParamsIe then some dot11WmeParamEleLen
      else none
    match eleLen with
    | none => ⟨false, some (len + 2), [hdr, subtype]⟩
    | some eleLen =>
      if mem (pData + 7) = dot11WmeVersion ∧ len = eleLen then
        ⟨true, some (len + 2), [hdr, subtype, version, ⟨.wmeParams, 2, pData + 2, eleLen⟩]⟩
      else ⟨false, some (len + 2), [hdr, subtype, version]⟩

/-- The OUI in `cellTP` after a copy of `len` bytes, where it had the bytes of `oui`. -/
def cellTpOui (oui : ℕ → UInt8) : ℕ → UInt8 := fun i =>
  if i < bodyLen mem pData then mem (pData + 2 + i) else oui i

/-- The element is short enough for `mlmeParser_readCellTP`. -/
def CellTpFits : Prop :=
  2 ≤ dataLen ∧ bodyLen mem pData + 2 ≤ dataLen ∧ bodyLen mem pData ≤ dot11CellTpEleLen

instance : Decidable (CellTpFits mem dataLen pData) := inferInstanceAs (Decidable (_ ∧ _ ∧ _))

/-- `mlmeParser_readCellTP`: the OUI that is compared is that of the structure, whatever was there
behind a short element. -/
def readCellTp (oui : ℕ → UInt8) : Reading :=
  let len := bodyLen mem pData
  let hdr : Copy := ⟨.cellTp, 0, pData, 2⟩
  if CellTpFits mem dataLen pData then
    let oui := cellTpOui mem pData oui
    ⟨oui 0 = 0x00 ∧ oui 1 = 0x40 ∧ oui 2 = 0x96, some (len + 2),
      [hdr, ⟨.cellTp, 2, pData + 2, len⟩]⟩
  else ⟨false, some (len + 2), [hdr]⟩

def getWscReadLen : ℕ := bodyLen mem pData + 2

/-! ## The length -/

variable {mem dataLen pData}

/-- The reader sets the length of the element, if it accepts it. -/
def Reading.SetsLength (r : Reading) (n : ℕ) : Prop := r.ok = true → r.readLen = some n

theorem readElement_setsLength (dest : Dest) (early : Bool) (check : Prop) [Decidable check]
    (copies : List Copy) :
    (readElement mem pData dest early check copies).SetsLength (bodyLen mem pData + 2) := by
  unfold readElement
  dsimp only
  split
  · exact fun _ => rfl
  · exact fun h => nomatch h

theorem readErp_setsLength : (readErp mem dataLen pData).SetsLength (bodyLen mem pData + 2) := by
  unfold readErp
  dsimp only
  split <;> exact fun _ => rfl

theorem readWmeParams_setsLength :
    (readWmeParams mem dataLen pData).SetsLength (bodyLen mem pData + 2) := by
  unfold readWmeParams
  dsimp only
  split
  · exact fun h => nomatch h
  split
  · exact fun _ => rfl
  split
  · exact fun _ => rfl
  split <;> exact fun _ => rfl

theorem readCellTp_setsLength (mem : ℕ → UInt8) (dataLen pData : ℕ) (oui : ℕ → UInt8) :
    (readCellTp mem dataLen pData oui).SetsLength (bodyLen mem pData + 2) := by
  unfold readCellTp
  dsimp only
  split <;> exact fun _ => rfl

end ArchosGpl.Wlan.MlmeParser
