import ArchosGpl.Lib.Sweep
import ArchosGpl.Wlan.RegulatoryDomain.Model

/-!
# Model of the channels of a scan request (`Sta_Management/ScanCncn.c`)

Before the start event a request's channels are verified with the regulatory domain, mixed, and
adapted to Bluetooth activity. There are three layouts of channel entries, and `Kind` says which one
a request has; what the three do alike is written once.

`channelEntry` is the whole array, of which the first `numOfChannels` entries are in use. The
regulatory domain is the model of `regulatoryDomain.c`; each of its calls has an environment of its
own, so that time may pass and memory run out between two calls. Of the parameters the model has the
channels: the SSID and the number of probe requests, which the functions also set, are left out.
-/

namespace ArchosGpl.Wlan.ScanCncn

open Lib RegulatoryDomain RegulatoryDomain.RegDomain

inductive EScanType
  | normalPassive
  | normalActive
  | sps
  | triggeredPassive
  | triggeredActive
  | noScan
  | pactsive
  deriving DecidableEq

structure TScanNormalChannelEntry where
  bssId : List UInt8
  maxChannelDwellTime : UInt32
  minChannelDwellTime : UInt32
  earlyTerminationEvent : ℕ
  eTMaxNumOfAPframes : UInt8
  txPowerDbm : ℕ
  channel : UInt8
  deriving DecidableEq

structure TScanSpsChannelEntry where
  bssId : List UInt8
  scanDuration : UInt32
  scanStartTime : UInt32
  earlyTerminationEvent : ℕ
  eTMaxNumOfAPframes : UInt8
  channel : UInt8
  deriving DecidableEq

structure TPeriodicChannelEntry where
  eBand : ERadioBand
  uChannel : UInt32
  eScanType : EScanType
  uMinDwellTimeMs : UInt32
  uMaxDwellTimeMs : UInt32
  uTxPowerLevelDbm : ℕ
  deriving DecidableEq

/-- The layout of a request's entries: a one-shot scan of a type other than `SCAN_TYPE_SPS`, one of
that type, or a periodic scan. -/
inductive Kind
  | normal (scanType : EScanType) (band : ERadioBand)
  | sps (band : ERadioBand)
  | periodic

/-- The member of `TScanChannelEntry` that is used, or `TPeriodicChannelEntry`. -/
def Kind.Entry : Kind → Type
  | .normal _ _ => TScanNormalChannelEntry
  | .sps _ => TScanSpsChannelEntry
  | .periodic => TPeriodicChannelEntry

/-- The size of the array: `MAX_NUMBER_OF_CHANNELS_PER_SCAN`, or `PERIODIC_SCAN_MAX_CHANNEL_NUM`. -/
def Kind.size : Kind → ℕ
  | .normal _ _ | .sps _ => 16
  | .periodic => 37

/-- `TScanParams` or `TPeriodicScanParams`. A request counts no more entries than it has. -/
structure UScanChannels (k : Kind) where
  numOfChannels : ℕ
  channelEntry : List k.Entry
  length_eq : channelEntry.length = k.size
  numOfChannels_le : numOfChannels ≤ k.size

/-- The entries in use. -/
def UScanChannels.requested {k : Kind} (p : UScanChannels k) : List k.Entry :=
  p.channelEntry.take p.numOfChannels

/-- The regulatory domain, and the environments of the calls that it is still to get. -/
structure Reg where
  domain : RegDomain
  env : ℕ → Env

/-! ## Verification -/

def getScanCapabilities (r : Reg) (req : ChannelCapabilityReq) :
    Option (Reg × ChannelCapabilityRet) :=
  match r.domain.getParam (r.env 0) (.getScanCapabilities req) with
  | some (s, .channelCapability ret) => some (⟨s, fun n => r.env (n + 1)⟩, ret)
  | _ => none

/-- The answer to `REGULATORY_DOMAIN_IS_DFS_CHANNEL`. -/
def isDfsChannel (s : RegDomain) (eBand : ERadioBand) (uChannel : UInt32) : Bool :=
  s.spectrumManagementEnabled && decide (eBand = .band50GHz) &&
    decide (s.minDfsChannelNum ≤ uChannel.toNat) && decide (uChannel.toNat ≤ s.maxDfsChannelNum)

/-- `REGULATORY_DOMAIN_IS_DFS_CHANNEL`. -/
def getDfsChannel (r : Reg) (eBand : ERadioBand) (uChannel : UInt32) : Option (Reg × Bool) :=
  match r.domain.getParam (r.env 0) .field with
  | some (s, .field) => some (⟨s, fun n => r.env (n + 1)⟩, isDfsChannel s eBand uChannel)
  | _ => none

/-- The scan types of a one-shot scan that are passive. -/
def isPassive (scanType : EScanType) : Bool :=
  scanType = .normalPassive || scanType = .triggeredPassive || scanType = .sps

/-- The check of one entry: the entry as it is left, and whether its channel is allowed. -/
def Kind.check : (k : Kind) → Reg → k.Entry → Option (Reg × k.Entry × Bool)
  | .normal scanType band, r, (e : TScanNormalChannelEntry) => do
    let (r, ret) ← getScanCapabilities r ⟨!isPassive scanType, e.channel, band⟩
    if ret.channelValidity then
      some (r, { e with txPowerDbm := min ret.maxTxPowerDbm e.txPowerDbm }, true)
    else some (r, e, false)
  | .sps band, r, (e : TScanSpsChannelEntry) => do
    let (r, ret) ← getScanCapabilities r ⟨!isPassive .sps, e.channel, band⟩
    some (r, e, ret.channelValidity)
  | .periodic, r, (e : TPeriodicChannelEntry) => do
    let (r, activeScanning, e) ←
      if e.eScanType = .normalPassive then some (r, false, e)
      else do
        let (r, bDfsChannel) ← getDfsChannel r e.eBand e.uChannel
        if bDfsChannel then some (r, false, { e with eScanType := .pactsive })
        else some (r, true, e)
    let (r, ret) ← getScanCapabilities r ⟨activeScanning, e.uChannel.toUInt8, e.eBand⟩
    if ret.channelValidity then
      some (r, { e with uTxPowerLevelDbm := min ret.maxTxPowerDbm e.uTxPowerLevelDbm }, true)
    else some (r, e, false)

/-- The count in use and the array. The loop runs while the index is below `uChannelNum`, an 8-bit
copy of the count. Without memory for the query nothing is checked. -/
def verifyChannelsWithRegDomain (k : Kind) (osMemoryAlloc : Bool) (r : Reg) (numOfChannels : ℕ)
    (channelEntry : List k.Entry) : Option (Reg × ℕ × List k.Entry) :=
  if osMemoryAlloc then
    let uChannelNum := numOfChannels % 256
    sieve k.check uChannelNum 0 r numOfChannels channelEntry
  else some (r, numOfChannels, channelEntry)

/-! ## Mixing -/

/-- `tTempArray` after its loop and the case of an odd number of channels: `a` is the array of
channels, `t` what `tTempArray` holds before. The loop is over the even numbers below `n - 1`. -/
def mixTempArray {α : Type} (a t : ℕ → α) (n : ℕ) : ℕ → α :=
  let t := ((List.range (n - 1)).filter (· % 2 = 0)).foldl
    (fun t i => Function.update (Function.update t i (a (i / 2))) (i + 1) (a ((n + i) / 2))) t
  if n % 2 = 1 then
    let t := Function.update t (n - 1) (t (n - 2))
    Function.update t (n - 2) (a (n - 1))
  else t

/-- `scanCncn_Mix1ShotScanChannels` and `scanCncn_MixPeriodicScanChannels`; `none` where an entry
would be read that is not there. -/
def mixScanChannels {α : Type} (pChannelArray : List α) (uValidChannelsCount : ℕ) :
    Option (List α) :=
  if uValidChannelsCount ≤ 1 then some pChannelArray
  else
    let n := min uValidChannelsCount 14
    ((List.range n).mapM (mixTempArray (fun j => pChannelArray[j]?) (fun _ => none) n)).map
      (· ++ pChannelArray.drop n)

/-! ## Bluetooth activity -/

/-- `bUseSGParams`, `uSGcompensationMaxTime` and `uSGcompensationPercent` of `TScanCncn`. -/
structure SgParams where
  bUseSGParams : Bool
  uSGcompensationMaxTime : UInt32
  uSGcompensationPercent : UInt32

/-- A dwell time, made longer. -/
def SgParams.longer (g : SgParams) (time : UInt32) : UInt32 :=
  if time < g.uSGcompensationMaxTime then
    let uTempTime := time * (100 + g.uSGcompensationPercent) / 100
    if g.uSGcompensationMaxTime < uTempTime then g.uSGcompensationMaxTime else uTempTime
  else time

/-- What `scanCncn_SGupdateScanParams` does to an entry. -/
def Kind.compensate (g : SgParams) : (k : Kind) → k.Entry → k.Entry
  | .normal _ _, (e : TScanNormalChannelEntry) =>
    { e with
      minChannelDwellTime := g.longer e.minChannelDwellTime
      maxChannelDwellTime := g.longer e.maxChannelDwellTime }
  | .sps _, (e : TScanSpsChannelEntry) => { e with scanDuration := g.longer e.scanDuration }
  | .periodic, (e : TPeriodicChannelEntry) =>
    { e with
      uMinDwellTimeMs := g.longer e.uMinDwellTimeMs
      uMaxDwellTimeMs := g.longer e.uMaxDwellTimeMs }

/-- The loop of `scanCncn_SGupdateScanParams` over the channels. -/
def sgUpdateScanParams (k : Kind) (g : SgParams) (numOfChannels : ℕ)
    (channelEntry : List k.Entry) : List k.Entry :=
  (channelEntry.take numOfChannels).map (k.compensate g) ++ channelEntry.drop numOfChannels

/-! ## The requests -/

/-- What a start call finds: whether there is memory for each of its queries (the first one is only
made by `scanCncn_Start1ShotScan`), the regulatory domain, and the parameters for Bluetooth. -/
structure Call where
  ownAlloc : Bool
  checkAlloc : Bool
  reg : Reg
  sg : SgParams

/-- `scanCncn_StartPeriodicScan`, and `scanCncn_Start1ShotScan` from the verification on: `none`
where the request is refused with `SCAN_CRS_SCAN_FAILED`. -/
def startVerified (k : Kind) (c : Call) (p : UScanChannels k) :
    Option (Reg × Option (ℕ × List k.Entry)) := do
  let (r, numOfChannels, channelEntry) ←
    verifyChannelsWithRegDomain k c.checkAlloc c.reg p.numOfChannels p.channelEntry
  if numOfChannels = 0 then some (r, none)
  else
    let channelEntry ← mixScanChannels channelEntry numOfChannels
    let channelEntry :=
      if c.sg.bUseSGParams then sgUpdateScanParams k c.sg numOfChannels channelEntry
      else channelEntry
    some (r, some (numOfChannels, channelEntry))

def Kind.isOneShot : Kind → Bool
  | .normal _ _ | .sps _ => true
  | .periodic => false

/-- `scanCncn_Start1ShotScan`, or `scanCncn_StartPeriodicScan`. -/
def startRequest (k : Kind) (c : Call) (p : UScanChannels k) :
    Option (Reg × Option (ℕ × List k.Entry)) :=
  if k.isOneShot && !c.ownAlloc then some (c.reg, none) else startVerified k c p

end ArchosGpl.Wlan.ScanCncn
