import ArchosGpl.Lib.Machine
import ArchosGpl.Lib.Table
import Mathlib.Data.Int.Notation

/-!
# Model of the regulatory domain (`stad/src/AirLink_Managment/regulatoryDomain.c`)

The module keeps a table of channel capabilities for each band and the limits of the transmit power.

The tables are indexed by channel numbers less the first channel of the band, in 8 bits. They are
`Table`s with a checked index: a function of the module is `none` where it would touch an entry
outside its table.

A call takes with it what the rest of the driver answers during it (`Env`). `TWD_SetParam` keeps the
power it is given: `txPowerDbm`.
-/

namespace ArchosGpl.Wlan.RegulatoryDomain

open Lib

inductive ERadioBand
  | band24GHz
  | band50GHz
  | dual
  deriving DecidableEq

inductive Band
  | b24
  | b5
  deriving DecidableEq

namespace Band

def channelStep : Band → ℕ
  | .b24 => 1
  | .b5 => 4

def minChannelNumber : Band → ℕ
  | .b24 => 1
  | .b5 => 36

def maxChannelNumber : Band → ℕ
  | .b24 => 14
  | .b5 => 180

def numberOfChannels : Band → ℕ
  | .b24 => 14
  | .b5 => 145

end Band

inductive TiStatus
  | ok
  | nok
  | paramNotSupported
  deriving DecidableEq

def maxTxPower : ℕ := 250

def minTxPower : ℕ := 0

def channelValidityTsThreshold : UInt32 := 10000

/-- The index of a channel, in a `TI_UINT8`. -/
def index8 (channel first : ℕ) : ℕ := (channel + 256 - first) % 256

/-- An integer in a `TI_UINT8`. -/
def toU8 (x : ℤ) : ℕ := (x % 256).toNat

def dbm2DbmDiv10 (uTxPower : ℤ) : ℤ := if uTxPower > 25 then 250 else uTxPower * 10

structure ChannelCapability where
  channelValidityPassive : Bool
  channelValidityActive : Bool
  bChanneInCountryIe : Bool
  uMaxTxPowerDomain : UInt8
  timestamp : UInt32
  deriving DecidableEq

structure TripletChannel where
  firstChannelNumber : UInt8
  numberOfChannels : UInt8
  maxTxPowerLevel : UInt8
  deriving DecidableEq

structure CountryIE where
  countryString : Vector UInt8 3
  tripletChannels : Vector TripletChannel 37
  deriving DecidableEq

/-- `TCountry`, with the length that `mlmeParser_readCountry` accepts. -/
structure TCountry where
  len : ℕ
  countryIE : CountryIE
  len_ge : 3 ≤ len
  len_le : len ≤ 114

def TCountry.triplets (c : TCountry) : List TripletChannel :=
  c.countryIE.tripletChannels.toList.take ((c.len - 3) / 3)

/-- What the operating system and the site manager answer during a call. The allocations of one call
succeed or fail together. -/
structure Env where
  osTimeStampMs : UInt32
  osMemoryAlloc : Bool
  /-- The channel of the primary site. -/
  primarySite : Option UInt8
  radioBand : ERadioBand
  isCurrentBand24 : Bool

/-- `regulatoryDomain_t`, and the power that the TWD was given last. -/
structure RegDomain where
  spectrumManagementEnabled : Bool
  regulatoryDomainEnabled : Bool
  scanControlTable : Band → ℕ → UInt8
  uDesiredTemporaryTxPower : ℕ
  uTemporaryTxPower : ℕ
  uUserMaxTxPower : ℕ
  bTemporaryTxPowerEnable : Bool
  uPowerConstraint : ℕ
  uExternTxPowerPreferred : ℕ
  minDfsChannelNum : ℕ
  maxDfsChannelNum : ℕ
  country : Band → Option TCountry
  countryWasFound : Band → Bool
  uLastCountryReceivedTs : UInt32
  uTimeOutToResetCountryMs : UInt32
  supportedChannels : Band → ℕ → ChannelCapability
  txPowerDbm : ℕ

namespace RegDomain

/-! ## The tables -/

def setTable (s : RegDomain) (b : Band) (T : ℕ → ChannelCapability) : RegDomain :=
  { s with supportedChannels := Function.update s.supportedChannels b T }

def entry (s : RegDomain) (b : Band) (i : ℕ) : Option ChannelCapability :=
  entryAt b.numberOfChannels (s.supportedChannels b) i

def modify (s : RegDomain) (b : Band) (i : ℕ) (v : ChannelCapability → ChannelCapability) :
    Option RegDomain :=
  (modifyAt b.numberOfChannels (s.supportedChannels b) i v).map (s.setTable b)

/-! ## The tables as a whole -/

/-- What the scan control table makes of an entry. -/
def fromMask (regulatoryDomainEnabled : Bool) (channelMask : UInt8) (c : ChannelCapability) :
    ChannelCapability :=
  let c :=
    { c with
      bChanneInCountryIe := false
      uMaxTxPowerDomain := .ofInt (dbm2DbmDiv10 (channelMask &&& 0x1f).toNat) }
  let c :=
    if channelMask &&& (0x40 ||| 0x80) ≠ 0 then
      { c with channelValidityActive := !regulatoryDomainEnabled }
    else c
  if channelMask &&& 0x80 ≠ 0 then { c with channelValidityPassive := true }
  else { c with channelValidityPassive := false, channelValidityActive := false }

/-- The indices that the loops over the scan control table go through: in the 5 GHz band these are
the channels from the first to before the last. -/
def scanned : Band → List ℕ
  | .b24 => List.range 14
  | .b5 => (List.range' 36 (180 - 36)).map (index8 · 36)

/-- One loop of `setSupportedChannelsAccording2ScanControlTable`. -/
def scanControlLoop (s : RegDomain) (b : Band) : Option RegDomain :=
  ((scanned b).foldlM
    (fun T i => modifyAt b.numberOfChannels T i
      (fromMask s.regulatoryDomainEnabled (s.scanControlTable b i)))
    (s.supportedChannels b)).map (s.setTable b)

def setSupportedChannelsAccording2ScanControlTable (s : RegDomain) : Option RegDomain :=
  (s.scanControlLoop .b24).bind (·.scanControlLoop .b5)

/-- The condition under which `regulatoryDomain_checkCountryCodeExpiry` resets the country codes. -/
def expired (env : Env) (s : RegDomain) : Bool :=
  (s.countryWasFound .b24 || s.countryWasFound .b5) && env.osMemoryAlloc &&
    decide (s.uTimeOutToResetCountryMs < env.osTimeStampMs - s.uLastCountryReceivedTs) &&
    env.primarySite.isNone

def checkCountryCodeExpiry (env : Env) (s : RegDomain) : Option RegDomain :=
  if s.expired env then
    { s with countryWasFound := fun _ => false }.setSupportedChannelsAccording2ScanControlTable
  else some s

/-- An entry whose validity is cleared before the triplets are read. -/
def cleared (c : ChannelCapability) : ChannelCapability :=
  { c with
    channelValidityActive := false
    channelValidityPassive := false
    bChanneInCountryIe := false
    uMaxTxPowerDomain := .ofNat minTxPower }

/-- An entry that a triplet covers. -/
def mark (t : TripletChannel) (c : ChannelCapability) : ChannelCapability :=
  { c with
    bChanneInCountryIe := true
    channelValidityPassive := true
    channelValidityActive := true
    uMaxTxPowerDomain := .ofInt (dbm2DbmDiv10 t.maxTxPowerLevel.toNat) }

/-- The loop over the channels of a triplet. -/
def markTriplet (b : Band) (T : ℕ → ChannelCapability) (t : TripletChannel) :
    Option (ℕ → ChannelCapability) :=
  (List.range t.numberOfChannels.toNat).foldlM
    (fun T channelIndex =>
      let channelNumber := t.firstChannelNumber.toNat + channelIndex * b.channelStep
      if channelNumber ≤ b.maxChannelNumber then
        modifyAt b.numberOfChannels T (index8 channelNumber b.minChannelNumber) (mark t)
      else some T) T

/-- A new country IE: it is saved, and the table of its band is written from it. -/
def setCountry (env : Env) (pCountry : TCountry) (b : Band) (s : RegDomain) : Option RegDomain := do
  let s :=
    { s with
      countryWasFound := Function.update s.countryWasFound b true
      country := Function.update s.country b (some pCountry)
      uLastCountryReceivedTs := env.osTimeStampMs }
  let T ← (List.range b.numberOfChannels).foldlM
    (fun T channelIndex => modifyAt b.numberOfChannels T channelIndex cleared)
    (s.supportedChannels b)
  let T ← pCountry.triplets.foldlM (markTriplet b) T
  some (s.setTable b T)

def setSupportedChannelsAccording2CountryIe (env : Env) (pCountry : TCountry) (b : Band)
    (s : RegDomain) : Option (RegDomain × TiStatus) :=
  if !s.regulatoryDomainEnabled then some (s, .nok)
  else do
    let s ← s.checkCountryCodeExpiry env
    if s.countryWasFound b then
      if some pCountry.countryIE ≠ (s.country b).map (·.countryIE) then some (s, .nok)
      else some ({ s with uLastCountryReceivedTs := env.osTimeStampMs }, .ok)
    else
      let s ← s.setCountry env pCountry b
      some (s, .ok)

/-! ## Single channels -/

/-- The mapping that `regulatoryDomain_isChannelSupprted` and `regulatoryDomain_updateChannelsTs`
share: `none` for a channel that they refuse. -/
def locate (channel : ℕ) : Option (Band × ℕ) :=
  if channel < 1 ∨ 180 < channel then none
  else if 36 ≤ channel then some (.b5, index8 channel 36)
  else
    let channelIndex := index8 channel 1
    if 14 ≤ channelIndex then none else some (.b24, channelIndex)

/-- A DFS channel that was not heard of for too long. -/
def dfsStale (env : Env) (s : RegDomain) (channel : ℕ) (c : ChannelCapability) : Bool :=
  s.spectrumManagementEnabled && decide (s.minDfsChannelNum ≤ channel) &&
    decide (channel ≤ s.maxDfsChannelNum) &&
    decide (channelValidityTsThreshold ≤ env.osTimeStampMs - c.timestamp)

def isChannelSupprted (env : Env) (channel : UInt8) (s : RegDomain) : Option (RegDomain × Bool) :=
  match locate channel.toNat with
  | none => some (s, false)
  | some (b, channelIndex) => do
    let c ← s.entry b channelIndex
    let s ←
      if s.dfsStale env channel.toNat c then
        s.modify b channelIndex fun c => { c with channelValidityActive := false }
      else some s
    let c ← s.entry b channelIndex
    some (s, c.channelValidityActive)

/-- The mapping of `regulatoryDomain_setChannelValidity`. -/
def locateForValidity (channelNum : ℕ) : Band × ℕ :=
  if channelNum ≤ 14 then (.b24, index8 channelNum 1) else (.b5, index8 channelNum 36)

def setChannelValidity (channelNum : UInt16) (channelValidity : Bool) (s : RegDomain) :
    Option RegDomain :=
  if channelNum.toNat = 0 ∨ 180 < channelNum.toNat then some s
  else do
    let (b, channelIndex) := locateForValidity channelNum.toNat
    let c ← s.entry b channelIndex
    if channelValidity && !c.bChanneInCountryIe && s.regulatoryDomainEnabled then some s
    else s.modify b channelIndex fun c => { c with channelValidityActive := channelValidity }

def updateChannelsTs (env : Env) (channel : UInt8) (s : RegDomain) : Option RegDomain :=
  match locate channel.toNat with
  | none => some s
  | some (b, channelIndex) => do
    let c ← s.entry b channelIndex
    if !c.bChanneInCountryIe && s.regulatoryDomainEnabled then some s
    else
      s.modify b channelIndex fun c =>
        { c with timestamp := env.osTimeStampMs, channelValidityActive := true }

/-! ## The transmit power -/

def getMaxPowerAllowed (uChannel : ℕ) (b : Band) (bServingChannel : Bool) (s : RegDomain) :
    Option ℕ := do
  let c ← s.entry b (index8 uChannel b.minChannelNumber)
  let uTxPower := c.uMaxTxPowerDomain.toNat
  let uTxPower :=
    if bServingChannel then
      let uTxPower :=
        if s.uPowerConstraint < uTxPower then uTxPower - s.uPowerConstraint else uTxPower
      min uTxPower s.uExternTxPowerPreferred
    else uTxPower
  some (min uTxPower s.uUserMaxTxPower)

/-- The table that `regulatoryDomain_getMaxPowerAllowed` takes for a radio band. -/
def powerBand : ERadioBand → Band
  | .band24GHz => .b24
  | .band50GHz | .dual => .b5

def updateCurrTxPower (env : Env) (s : RegDomain) : Option RegDomain :=
  if !env.osMemoryAlloc then some s
  else
    match env.primarySite with
    | none => some s
    | some uCurrChannel => do
      let uNewTxPower ← s.getMaxPowerAllowed uCurrChannel.toNat (powerBand env.radioBand) true
      let uTemporaryTxPower := min s.uDesiredTemporaryTxPower uNewTxPower
      some { s with
        uTemporaryTxPower := uTemporaryTxPower
        txPowerDbm := if s.bTemporaryTxPowerEnable then uTemporaryTxPower else uNewTxPower }

/-! ## Queries -/

structure ChannelCapabilityReq where
  activeScanning : Bool
  channelNum : UInt8
  band : ERadioBand

structure ChannelCapabilityRet where
  channelValidity : Bool
  maxTxPowerDbm : ℕ

/-- The table of a queried band, and the index of the channel in it. -/
def locateForQuery (channelNum : ℕ) : ERadioBand → Option (Band × ℕ)
  | .band24GHz => if 14 ≤ index8 channelNum 1 then none else some (.b24, index8 channelNum 1)
  | .band50GHz => if 145 ≤ index8 channelNum 36 then none else some (.b5, index8 channelNum 36)
  | .dual => none

/-- 802.11d is enabled, and there is no country IE for the band. -/
def noCountry (b : Band) (s : RegDomain) : Bool := s.regulatoryDomainEnabled && !s.countryWasFound b

/-- The part of `regulatoryDomain_getChannelCapability` that sets the answer from the entry `c`. -/
def capability (env : Env) (req : ChannelCapabilityReq) (b : Band) (c : ChannelCapability)
    (s : RegDomain) : Option ChannelCapabilityRet :=
  if req.activeScanning then
    if s.noCountry b then some ⟨false, 0⟩
    else
      let bServingChannel := (env.primarySite.getD 0).toNat == req.channelNum.toNat
      (s.getMaxPowerAllowed req.channelNum.toNat b bServingChannel).map
        (⟨c.channelValidityActive, ·⟩)
  else some ⟨s.noCountry b || c.channelValidityPassive, 0⟩

def getChannelCapability (env : Env) (req : ChannelCapabilityReq) (s : RegDomain) :
    Option (RegDomain × ChannelCapabilityRet × TiStatus) :=
  let channelNum := req.channelNum.toNat
  if channelNum = 0 ∨ 180 < channelNum then some (s, ⟨false, 0⟩, .nok)
  else
    match locateForQuery channelNum req.band with
    | none => some (s, ⟨false, 0⟩, .nok)
    | some (b, channelIndex) =>
      if req.activeScanning && !s.noCountry b && !env.osMemoryAlloc then
        some (s, ⟨false, 0⟩, .nok)
      else do
        let c ← s.entry b channelIndex
        let ret ← s.capability env req b c
        if req.activeScanning && s.dfsStale env channelNum c then do
          let s ← s.modify b channelIndex fun c => { c with channelValidityActive := false }
          some (s, { ret with channelValidity := false }, .ok)
        else some (s, ret, .ok)

/-- `regulatoryDomain_buildDefaultListOfChannelsPerBand`: the loop over a band's table. -/
def buildDefaultListOfChannelsPerBand (b : Band) (s : RegDomain) : Option (List ℕ) :=
  (List.range b.numberOfChannels).foldlM
    (fun pDefaultChannels channelIndex => do
      let c ← s.entry b channelIndex
      some (if c.channelValidityPassive then
        pDefaultChannels ++ [channelIndex + b.minChannelNumber] else pDefaultChannels)) []

/-! ## The parameters -/

inductive SetParam
  | country (pCountry : Option TCountry)
  | setPowerConstraint (powerConstraint : Int8)
  | externTxPowerPreferred (externTxPowerPreferred : Int8)
  | setChannelValidity (channelNum : UInt16) (channelValidity : Bool)
  | currentTxPowerInDbm (desiredTxPower : Int8)
  | txPowerAfterSelection
  | disconnect
  | updateChannelValidity (channel : UInt8)
  | temporaryTxAttenuation (bActivateTempPowerFix : Bool)
  | enableDisable80211d (enable : Bool)
  | enableDisable80211h (enable : Bool)
  | country24 (pCountry : TCountry)
  | country5 (pCountry : TCountry)
  | dfsChannelsRange (minDfsChannelNum maxDfsChannelNum : UInt16)

inductive GetParam
  | getScanCapabilities (req : ChannelCapabilityReq)
  | isChannelSupported (channel : UInt8)
  | allSupportedChannels (band : ERadioBand)
  /-- A parameter that is read from a field. -/
  | field

/-- The band whose table a country IE without a band of its own is for. -/
def currentBand (env : Env) : Band := if env.isCurrentBand24 then .b24 else .b5

/-- `REGULATORY_DOMAIN_SET_POWER_CONSTRAINT_PARAM`. -/
def setPowerConstraint (env : Env) (powerConstraint : Int8) (s : RegDomain) : Option RegDomain :=
  let uNewPowerConstraint := toU8 (dbm2DbmDiv10 powerConstraint.toInt)
  if s.spectrumManagementEnabled && s.uPowerConstraint != uNewPowerConstraint then
    { s with uPowerConstraint := uNewPowerConstraint }.updateCurrTxPower env
  else some s

/-- `REGULATORY_DOMAIN_EXTERN_TX_POWER_PREFERRED`. -/
def setExternTxPowerPreferred (env : Env) (externTxPowerPreferred : Int8) (s : RegDomain) :
    Option RegDomain :=
  let uNewTpc := toU8 (dbm2DbmDiv10 externTxPowerPreferred.toInt)
  if uNewTpc != s.uExternTxPowerPreferred then
    { s with uExternTxPowerPreferred := uNewTpc }.updateCurrTxPower env
  else some s

/-- `REGULATORY_DOMAIN_CURRENT_TX_POWER_IN_DBM_PARAM`: a signed value against an unsigned one. -/
def setUserMaxTxPower (env : Env) (desiredTxPower : Int8) (s : RegDomain) : Option RegDomain :=
  if (s.uUserMaxTxPower : ℤ) != desiredTxPower.toInt then
    { s with uUserMaxTxPower := toU8 desiredTxPower.toInt }.updateCurrTxPower env
  else some s

/-- `REGULATORY_DOMAIN_DISCONNECT_PARAM`. -/
def disconnect (env : Env) (s : RegDomain) : RegDomain :=
  { s with
    uExternTxPowerPreferred := maxTxPower
    uPowerConstraint := minTxPower
    uLastCountryReceivedTs :=
      if s.countryWasFound .b24 || s.countryWasFound .b5 then env.osTimeStampMs
      else s.uLastCountryReceivedTs }

def enableDisable80211d (enable : Bool) (s : RegDomain) : Option (RegDomain × TiStatus) :=
  if s.regulatoryDomainEnabled != enable && !enable && s.spectrumManagementEnabled then
    some (s, .nok)
  else
    let s := { s with regulatoryDomainEnabled := enable, countryWasFound := fun _ => false }
    if enable then some (s, .ok)
    else s.setSupportedChannelsAccording2ScanControlTable.map (·, .ok)

/-- `REGULATORY_DOMAIN_DFS_CHANNELS_RANGE`. -/
def setDfsChannelsRange (minDfsChannelNum maxDfsChannelNum : ℕ) (s : RegDomain) :
    RegDomain × TiStatus :=
  if minDfsChannelNum < 36 ∨ 180 < maxDfsChannelNum ∨ maxDfsChannelNum < minDfsChannelNum then
    (s, .nok)
  else ({ s with minDfsChannelNum := minDfsChannelNum, maxDfsChannelNum := maxDfsChannelNum }, .ok)

def setParam (env : Env) (s : RegDomain) : SetParam → Option (RegDomain × TiStatus)
  | .country none => some (s, .nok)
  | .country (some pCountry) =>
    (s.setSupportedChannelsAccording2CountryIe env pCountry (currentBand env)).map
      fun (s, _) => (s, .ok)
  | .setPowerConstraint powerConstraint =>
    (s.setPowerConstraint env powerConstraint).map (·, .ok)
  | .externTxPowerPreferred externTxPowerPreferred =>
    (s.setExternTxPowerPreferred env externTxPowerPreferred).map (·, .ok)
  | .setChannelValidity channelNum channelValidity =>
    (s.setChannelValidity channelNum channelValidity).map (·, .ok)
  | .currentTxPowerInDbm desiredTxPower => (s.setUserMaxTxPower env desiredTxPower).map (·, .ok)
  | .txPowerAfterSelection => (s.updateCurrTxPower env).map (·, .ok)
  | .disconnect => some (s.disconnect env, .ok)
  | .updateChannelValidity channel => (s.updateChannelsTs env channel).map (·, .ok)
  | .temporaryTxAttenuation bActivateTempPowerFix =>
    ({ s with bTemporaryTxPowerEnable := bActivateTempPowerFix }.updateCurrTxPower env).map
      (·, .ok)
  | .enableDisable80211d enable => s.enableDisable80211d enable
  | .enableDisable80211h enable =>
    some ({ s with
      spectrumManagementEnabled := enable
      regulatoryDomainEnabled := enable || s.regulatoryDomainEnabled }, .ok)
  | .country24 pCountry => s.setSupportedChannelsAccording2CountryIe env pCountry .b24
  | .country5 pCountry => s.setSupportedChannelsAccording2CountryIe env pCountry .b5
  | .dfsChannelsRange minDfsChannelNum maxDfsChannelNum =>
    some (s.setDfsChannelsRange minDfsChannelNum.toNat maxDfsChannelNum.toNat)

inductive Answer
  | channelCapability (ret : ChannelCapabilityRet)
  | bIsChannelSupprted (supported : Bool)
  | supportedChannels (listOfChannels : List ℕ)
  | field

def getParam (env : Env) (s : RegDomain) (p : GetParam) : Option (RegDomain × Answer) := do
  let s ← s.checkCountryCodeExpiry env
  match p with
  | .getScanCapabilities req =>
    (s.getChannelCapability env req).map fun (s, ret, _) => (s, .channelCapability ret)
  | .isChannelSupported channel =>
    (s.isChannelSupprted env channel).map fun (s, ok) => (s, .bIsChannelSupprted ok)
  | .allSupportedChannels band =>
    (s.buildDefaultListOfChannelsPerBand (powerBand band)).map fun l => (s, .supportedChannels l)
  | .field => some (s, .field)

/-! ## Runs -/

inductive Input
  | setParam (env : Env) (p : SetParam)
  | getParam (env : Env) (p : GetParam)

/-- One call; `none` where it touches an entry outside its table. -/
def step (s : RegDomain) : Input → Option RegDomain
  | .setParam env p => (s.setParam env p).map (·.1)
  | .getParam env p => (s.getParam env p).map (·.1)

structure InitParams where
  desiredTxPower : UInt8
  uTemporaryTxPower : UInt8
  uTimeOutToResetCountryMs : UInt32
  multiRegulatoryDomainEnabled : Bool
  spectrumManagementEnabled : Bool
  desiredScanControlTable : Band → ℕ → UInt8

/-- After `regulatoryDomain_init`, on memory that holds `supportedChannels`. -/
def init (p : InitParams) (supportedChannels : Band → ℕ → ChannelCapability) (txPowerDbm : ℕ) :
    RegDomain where
  spectrumManagementEnabled := p.spectrumManagementEnabled
  regulatoryDomainEnabled := p.spectrumManagementEnabled || p.multiRegulatoryDomainEnabled
  scanControlTable := p.desiredScanControlTable
  uDesiredTemporaryTxPower := p.uTemporaryTxPower.toNat
  uTemporaryTxPower := p.uTemporaryTxPower.toNat
  uUserMaxTxPower := p.desiredTxPower.toNat
  bTemporaryTxPowerEnable := false
  uPowerConstraint := minTxPower
  uExternTxPowerPreferred := maxTxPower
  minDfsChannelNum := 52
  maxDfsChannelNum := 140
  country := fun _ => none
  countryWasFound := fun _ => false
  uLastCountryReceivedTs := 0
  uTimeOutToResetCountryMs := p.uTimeOutToResetCountryMs
  supportedChannels := supportedChannels
  txPowerDbm := txPowerDbm

/-- `regulatoryDomain_SetDefaults`. -/
def start (p : InitParams) (supportedChannels : Band → ℕ → ChannelCapability) (txPowerDbm : ℕ) :
    Option RegDomain :=
  (init p supportedChannels txPowerDbm).setSupportedChannelsAccording2ScanControlTable

end RegDomain

end ArchosGpl.Wlan.RegulatoryDomain
