import ArchosGpl.Lib.Selection
import ArchosGpl.Wlan.ScanResultTable.BssidModel

/-!
# Model of the selection of a connection candidate (`Connection_Managment/smeSelect.c`)

One call goes over the scan result table with the cursor of `scanResultTable_GetFirst` and
`scanResultTable_GetNext`, which is a recursion over the list here, and marks entries in it. A site
is returned by its place in the table.

`rsn_evalSite` is a function of the settings: it gets **the `ieLen` bytes at `pIe`**, and those are
bytes of a local array of `sme_SelectRsnMatch`. What that array holds when it comes into being is an
input, by the call and the site.
-/

namespace ArchosGpl.Wlan.Sme.Select

open Lib
open Wlan.ScanResultTable (SiteEntry Dot11Rsn TMacAddr rsnSize)

inductive TiwlnSimpleConfigMode
  | off
  | pinMethod
  | pbcMethod
  deriving DecidableEq

inductive ESsidType
  | any
  | specific
  | invalid
  deriving DecidableEq

/-- `TSiteEntry` with the fields that the selection reads. -/
structure Site extends SiteEntry where
  rsnIeLen_lt : rsnIeLen < 2 ^ 8
  maxBasicRate : UInt8
  maxActiveRate : UInt8
  tHtCapabilities : List UInt8
  tHtInformation : List UInt8
  wscSiteMode : TiwlnSimpleConfigMode
  bChannelSwitchAnnoncIeFound : Bool

/-- The entry with `bConsideredForSelect` set. -/
def Site.consider (site : Site) : Site := { site with bConsideredForSelect := true }

/-- `TRsnData`: the bytes from `pIe` on and the privacy bit. -/
structure TRsnData where
  ie : List UInt8
  privacy : Bool

structure TRsnSiteParams where
  bssType : ScanResultTable.ScanBssType
  bssid : TMacAddr
  pHTCapabilities : List UInt8
  pHTInfo : List UInt8

/-- The settings: of `TSme`, of the site manager and of the RSN module. `BSS_ANY` is no type. -/
structure Settings where
  tSsid : List UInt8
  eSsidType : ESsidType
  tBssid : TMacAddr
  eBssType : Option ScanResultTable.ScanBssType
  siteMgrWscCurrMode : TiwlnSimpleConfigMode
  siteMgrRegstrySuppRateMask : UInt32
  siteMgrRegstryBasicRateMask : UInt32
  rsnEvalSite : TRsnData → TRsnSiteParams → Bool

/-! ## The match functions -/

def smeSelectSsidMatch (c : Settings) (site : Site) : Bool :=
  if site.ssid.str.length = 0 then false
  else if c.eSsidType = .any then true
  else if ScanResultTable.maxSsidLen < site.ssid.str.length ∨
      ScanResultTable.maxSsidLen < c.tSsid.length then false
  else site.ssid.str == c.tSsid

def smeSelectBssidMatch (c : Settings) (site : Site) : Bool :=
  c.tBssid = (fun _ => 0xff) || c.tBssid = site.bssid

def smeSelectBssTypeMatch (c : Settings) (site : Site) : Bool :=
  c.eBssType = none || c.eBssType = some site.bssType

/-- `sme_SelectWscMatch`: whether the site matches, and `bWscPbAbort`. -/
def smeSelectWscMatch (c : Settings) (site : Site) (pbWscPbApFound : Bool) : Bool × Bool :=
  if c.siteMgrWscCurrMode = .off then (true, false)
  else if pbWscPbApFound ∧ site.wscSiteMode = .pbcMethod then (false, true)
  else (site.wscSiteMode = c.siteMgrWscCurrMode, false)

/-- `uCurRsnData`. -/
abbrev LocalArray : Type := { b : List UInt8 // b.length = 255 }

/-- The loop of `sme_SelectRsnMatch` with the elements that are left and the bytes written; none
where an element does not fit into the array. -/
def copyRsnIes (rsnIeLen : ℕ) : List Dot11Rsn → List UInt8 → Option (List UInt8)
  | [], written => some written
  | pRsnIe :: ies, written =>
    if written.length < rsnIeLen then
      if 255 < written.length + 2 + pRsnIe.data.length then none
      else copyRsnIes rsnIeLen ies (written ++ pRsnIe.bytes)
    else some written

/-- The bytes that `sme_SelectRsnMatch` has evaluated. -/
def rsnGiven (site : Site) (uCurRsnData : LocalArray) : Option (List UInt8) :=
  (copyRsnIes site.rsnIeLen site.pRsnIe []).map fun written =>
    (written ++ uCurRsnData.1.drop written.length).take site.rsnIeLen

def smeSelectRsnMatch (c : Settings) (site : Site) (uCurRsnData : LocalArray) : Bool :=
  match rsnGiven site uCurRsnData with
  | none => false
  | some ie =>
    c.rsnEvalSite ⟨ie, site.privacy⟩
      ⟨site.bssType, site.bssid, site.tHtCapabilities, site.tHtInformation⟩

/-- `rate_ValidateVsBand`: the supported and the basic rates. -/
def rateValidateVsBand (pSupportedMask pBasicMask : UInt32) (bDot11a : Bool) : UInt32 × UInt32 :=
  let supported := if bDot11a then pSupportedMask &&& ~~~0x1f else pSupportedMask
  let basic := pBasicMask &&& supported
  (supported, if basic ≠ 0 then basic else if bDot11a then 0x2a0 else 0x3)

/-- `siteMgr_updateRates`: `siteMgrCurrentDesiredRateMask`. -/
def siteMgrUpdateRates (c : Settings) (dot11a : Bool) : UInt32 × UInt32 :=
  let p := rateValidateVsBand c.siteMgrRegstrySuppRateMask c.siteMgrRegstryBasicRateMask dot11a
  (p.1, p.2 &&& p.1)

def drvRateInvalid : UInt8 := 0xff

def drvRateMax : UInt8 := 21

def siteMgrChannelBGMax : UInt8 := 14

def siteMgrSelectRateMatch (c : Settings) (site : Site) : Bool :=
  if site.maxBasicRate = drvRateInvalid ∨ site.maxActiveRate = drvRateInvalid then false
  else if drvRateMax < site.maxBasicRate then false
  else
    let rateMask := siteMgrUpdateRates c (siteMgrChannelBGMax < site.channel)
    let staTotalRates := rateMask.2 ||| rateMask.1
    staTotalRates &&& site.basicRateMask = site.basicRateMask

/-! ## The selection -/

/-- The variables of `sme_Select`, with the log of the evaluations. -/
structure Vars where
  pSelectedSite : Option ℕ
  iSelectedSiteRssi : ℤ
  pWscPbApFound : Bool
  apFoundCtr : ℕ
  evals : List (ℕ × List UInt8)

def minRssi : ℤ := -127

def Vars.zero : Vars := ⟨none, minRssi, false, 0, []⟩

/-- What is stored in a `TI_INT8`. -/
def int8 (x : ℤ) : ℤ := x.bmod (2 ^ 8)

/-- What the loop does with a site: it goes on, with the entry as it is now, or gives up. -/
inductive Considered
  | next (site : Site) (v : Vars)
  | abort (v : Vars)

/-- A site with push button is counted. -/
def Vars.count (v : Vars) (site : Site) : Vars :=
  let apFoundCtr := if site.wscSiteMode = .pbcMethod then v.apFoundCtr + 1 else v.apFoundCtr
  { v with apFoundCtr := apFoundCtr, pWscPbApFound := v.pWscPbApFound || 1 < apFoundCtr }

def rsnChecked (c : Settings) (site : Site) : Bool :=
  site.wscSiteMode = .off || site.wscSiteMode ≠ c.siteMgrWscCurrMode

/-- The body of the loop from the security match on, at the place `i` of the table. -/
def considerMatching (c : Settings) (uCurRsnData : LocalArray) (i : ℕ) (site : Site) (v : Vars) :
    Considered :=
  let given := if rsnChecked c site then rsnGiven site uCurRsnData else none
  let v := { v with evals := v.evals ++ (given.map fun ie => (i, ie)).toList }
  if rsnChecked c site ∧ !smeSelectRsnMatch c site uCurRsnData then .next site.consider v
  else if !siteMgrSelectRateMatch c site then .next site.consider v
  else if site.bChannelSwitchAnnoncIeFound then .next site.consider v
  else if v.iSelectedSiteRssi < site.rssi then
    .next site { v with pSelectedSite := some i, iSelectedSiteRssi := int8 site.rssi }
  else .next site v

def consider (c : Settings) (uCurRsnData : LocalArray) (i : ℕ) (site : Site) (v : Vars) : Considered :=
  if site.bConsideredForSelect then .next site v
  else if !smeSelectSsidMatch c site then .next site.consider v
  else if !smeSelectBssidMatch c site then .next site.consider v
  else if !smeSelectBssTypeMatch c site then .next site.consider v
  else
    let v := v.count site
    match smeSelectWscMatch c site v.pWscPbApFound with
    | (false, true) => .abort v
    | (false, false) => .next site.consider v
    | (true, _) => considerMatching c uCurRsnData i site v

/-- The loop over the table from the place `i` on: the entries as they are now, the variables, and
whether it has given up. -/
def selectLoop (c : Settings) (uCurRsnData : ℕ → LocalArray) :
    ℕ → List Site → Vars → List Site × Vars × Bool
  | _, [], v => ([], v, false)
  | i, site :: sites, v =>
    match consider c (uCurRsnData i) i site v with
    | .abort v => (site :: sites, v, true)
    | .next site v =>
      let r := selectLoop c uCurRsnData (i + 1) sites v
      (site :: r.1, r.2)

/-- `TSme`, as far as the selection uses it, with the table. -/
structure TSme where
  bReselect : Bool
  pTable : List Site

/-- What `sme_Select` returns. -/
inductive Selected
  | null
  | primarySite
  | tCandidate (i : ℕ)
  deriving DecidableEq

/-- What a call does: the state after it, what it returns, whether it reports
`IPC_EVENT_WPS_SESSION_OVERLAP`, and the evaluations. -/
structure Call where
  sme : TSme
  selected : Selected
  overlap : Bool
  evals : List (ℕ × List UInt8)

/-- `sme_Select`. `memory` tells whether `os_memoryAlloc` has some. -/
def smeSelect (c : Settings) (uCurRsnData : ℕ → LocalArray) (memory : Bool) (s : TSme) : Call :=
  if s.bReselect then
    if !memory then ⟨s, .null, false, []⟩
    else ⟨{ s with bReselect := false }, .primarySite, false, []⟩
  else
    let (pTable, v, bWscPbAbort) := selectLoop c uCurRsnData 0 s.pTable .zero
    if bWscPbAbort then ⟨{ s with pTable := pTable }, .null, true, v.evals⟩
    else
      match v.pSelectedSite with
      | none => ⟨{ s with pTable := pTable }, .null, false, v.evals⟩
      | some i =>
        ⟨{ s with pTable := pTable.modify i Site.consider }, .tCandidate i, false, v.evals⟩

/-! ## An attempt -/

/-- What an attempt finds outside, by the call: the local array, by the site, and the memory. -/
structure Outside where
  uCurRsnData : ℕ → ℕ → LocalArray
  memory : ℕ → Bool

/-- The state before each call of an attempt. -/
def attempt (c : Settings) (o : Outside) (s : TSme) : ℕ → TSme
  | 0 => s
  | n + 1 => (smeSelect c (o.uCurRsnData n) (o.memory n) (attempt c o s n)).sme

def call (c : Settings) (o : Outside) (s : TSme) (n : ℕ) : Call :=
  smeSelect c (o.uCurRsnData n) (o.memory n) (attempt c o s n)

end ArchosGpl.Wlan.Sme.Select
