import ArchosGpl.Lib.FifoMap
import Mathlib.Algebra.Group.Nat.Defs
import Mathlib.Data.Fintype.Basic
import Mathlib.Data.UInt

/-!
# Model of the PMKID cache (`Connection_Managment/admCtrlWpa2.c`)

A table of 32 entries holds the PMKIDs of access points by BSSID. `entriesNumber` counts the
entries and `nextFreeEntry` is written next, in cyclic order. Lengths and the number of entries of
a list are computed in 8 bits, as in the source.

`admCtrlWpa2_getPMKIDList` copies 16 bytes from the address of the local variable `pmkid`, which
holds a pointer. What lies there, for each entry, is an argument of the model (`atPmkid`). The
fields `ssid` and `preAuthenticate` are left out: nothing of this part reads them.
-/

namespace ArchosGpl.Wlan.AdmCtrlWpa2

open Lib

abbrev admctrlPmkidCacheSize : ℕ := 32

def macAddrLen : ℕ := 6

def pmkidValueSize : ℕ := 16

abbrev TMacAddr : Type := Fin 6 → UInt8

abbrev PmkidValue : Type := Fin 16 → UInt8

/-- `TI_OK`, `TI_NOK` and `PARAM_NOT_SUPPORTED`. -/
inductive TiStatus
  | ok
  | nok
  | paramNotSupported
  deriving DecidableEq

structure PmkidEntry where
  bssId : TMacAddr
  pmkId : PmkidValue
  deriving DecidableEq

structure PmkidCache where
  entriesNumber : ℕ
  nextFreeEntry : ℕ
  pmkidTbl : ℕ → PmkidEntry

structure OsBssidInfo where
  bssid : TMacAddr
  pmkid : PmkidValue

/-- `OS_802_11_PMKID`, with the memory behind it. -/
structure Os80211Pmkid where
  length : ℕ
  bssidInfoCount : ℕ
  osBssidInfo : ℕ → OsBssidInfo

/-- What the service does beside the cache. -/
inductive Act
  | stopPreAuthTimer
  | notifyPreAuthEnd
  deriving DecidableEq

/-- The fields of `admCtrl_t` that this part reads. -/
structure AdmCtrl where
  preAuthSupport : Bool
  numberOfPreAuthCandidates : ℕ
  pmkidCache : PmkidCache
  log : List Act

namespace PmkidCache

/-- `admCtrlWpa2_resetPMKIDCache`: all bytes zero. -/
def reset : PmkidCache := ⟨0, 0, fun _ => ⟨fun _ => 0, fun _ => 0⟩⟩

/-- `admCtrlWpa2_findPMKID`: the index and the PMKID. The loop goes on to the index
`entriesNumber`. -/
def findPmkid (c : PmkidCache) (bssid : TMacAddr) : Option (ℕ × PmkidValue) :=
  ((List.range (min admctrlPmkidCacheSize (c.entriesNumber + 1))).find? fun i =>
    decide ((c.pmkidTbl i).bssId = bssid)).map fun i => (i, (c.pmkidTbl i).pmkId)

def addPmkid (c : PmkidCache) (bssid : TMacAddr) (pmkid : PmkidValue) : PmkidCache :=
  match c.findPmkid bssid with
  | some (cacheIndex, _) =>
    { c with
      pmkidTbl := Function.update c.pmkidTbl cacheIndex
        { c.pmkidTbl cacheIndex with pmkId := pmkid } }
  | none =>
    { pmkidTbl := Function.update c.pmkidTbl c.nextFreeEntry ⟨bssid, pmkid⟩
      nextFreeEntry := (c.nextFreeEntry + 1) % admctrlPmkidCacheSize
      entriesNumber :=
        if c.entriesNumber < admctrlPmkidCacheSize then c.entriesNumber + 1 else c.entriesNumber }

end PmkidCache

namespace AdmCtrl

/-- The pre-authentication candidates that are left, in a pass of `admCtrlWpa2_setPMKIDList`. -/
def countCandidate (a : AdmCtrl) : AdmCtrl :=
  if a.numberOfPreAuthCandidates = 0 then a
  else if a.numberOfPreAuthCandidates = 1 then
    { a with
      numberOfPreAuthCandidates := 0
      log := a.log ++ [.stopPreAuthTimer, .notifyPreAuthEnd] }
  else { a with numberOfPreAuthCandidates := a.numberOfPreAuthCandidates - 1 }

/-- A pass of the loop of `admCtrlWpa2_setPMKIDList`. -/
def setEntry (a : AdmCtrl) (info : OsBssidInfo) : AdmCtrl :=
  let a := a.countCandidate
  { a with pmkidCache := a.pmkidCache.addPmkid info.bssid info.pmkid }

/-- `NumOfEntries` of `admCtrlWpa2_setPMKIDList`. -/
def numOfEntries (pmkidList : Os80211Pmkid) : ℕ := pmkidList.bssidInfoCount % 2 ^ 8

/-- `neededLength` of `admCtrlWpa2_setPMKIDList`. -/
def setNeededLength (pmkidList : Os80211Pmkid) : ℕ :=
  (2 * 4 + numOfEntries pmkidList * (macAddrLen + pmkidValueSize)) % 2 ^ 8

/-- `admCtrlWpa2_setPMKIDList`, which also writes the number of entries to the list. -/
def setPmkidList (a : AdmCtrl) (pmkidList : Os80211Pmkid) : AdmCtrl × Os80211Pmkid × TiStatus :=
  if pmkidList.length < 2 * 4 then (a, pmkidList, .nok)
  else if pmkidList.bssidInfoCount = 0 then ({ a with pmkidCache := .reset }, pmkidList, .ok)
  else if pmkidList.length < setNeededLength pmkidList then (a, pmkidList, .nok)
  else
    ((List.range (numOfEntries pmkidList)).foldl (fun a i => a.setEntry (pmkidList.osBssidInfo i)) a,
      { pmkidList with bssidInfoCount := numOfEntries pmkidList }, .ok)

/-- `neededLength` of `admCtrlWpa2_getPMKIDList`. -/
def getNeededLength (a : AdmCtrl) : ℕ :=
  if 1 < a.pmkidCache.entriesNumber then
    (30 + (a.pmkidCache.entriesNumber - 1) * (macAddrLen + pmkidValueSize)) % 2 ^ 8
  else 30

def getPmkidList (a : AdmCtrl) (pmkidList : Os80211Pmkid) (atPmkid : ℕ → PmkidValue) :
    Os80211Pmkid × TiStatus :=
  if a.preAuthSupport = false then (pmkidList, .paramNotSupported)
  else if pmkidList.length < a.getNeededLength then
    ({ pmkidList with length := a.getNeededLength }, .nok)
  else
    ({ length := a.getNeededLength
       bssidInfoCount := a.pmkidCache.entriesNumber
       osBssidInfo := fun i =>
         if i < a.pmkidCache.entriesNumber then ⟨(a.pmkidCache.pmkidTbl i).bssId, atPmkid i⟩
         else pmkidList.osBssidInfo i }, .ok)

end AdmCtrl

inductive Op
  | setPmkidList (pmkidList : Os80211Pmkid)
  | resetPmkidCache
  | findPmkid (bssid : TMacAddr)
  | getPmkidList (pmkidList : Os80211Pmkid) (atPmkid : ℕ → PmkidValue)

end ArchosGpl.Wlan.AdmCtrlWpa2
