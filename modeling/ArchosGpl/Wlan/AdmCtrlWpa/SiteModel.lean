import ArchosGpl.Wlan.AdmCtrlWpa.WpaIeModel

/-!
# Model of the WPA admission (`admCtrlWpa_setSite`, `admCtrlWpa_evalSite`)

Both parse the WPA element of the site and look for the first of its pairwise suites for which the
validity table admits the group suite and the encryption of the station. **An entry that is
dereferenced where none was set, or outside the table, is undefined** (`none`).

The suites of the station are entries of the table: `admCtrl_checkSetSuite` admits no others. The
table has seven rows in each dimension and its initializer six, so that the entries of the last ones
are zero, which is `TI_OK`. Whether the site was promoted to WPA2 before is an input.
-/

namespace ArchosGpl.Wlan.AdmCtrlWpa

open AdmCtrlWpa2 (TiStatus twdCipherNone twdCipherWep twdCipherTkip twdCipherAesWrap
  twdCipherAesCcmp twdCipherWep104)

def twdCipherCkip : ℕ := 6

def maxWpaCipherSuite : ℕ := 7

def rsnExtAuthModeOpen : ℕ := 0

def rsnExtAuthModeAutoSwitch : ℕ := 2

def rsnExtAuthModeWpa : ℕ := 3

def rsnExtAuthModeWpapsk : ℕ := 4

inductive NetworkMode
  | ibss
  | infrastructure
  deriving DecidableEq

structure Validity where
  status : TiStatus
  unicast : ℕ
  broadcast : ℕ
  evaluation : ℕ
  deriving DecidableEq

/-- The fields of `admCtrl_t` that this part reads. -/
structure AdmCtrl where
  unicastSuite : ℕ
  broadcastSuite : ℕ
  unicastSuite_lt : unicastSuite < maxWpaCipherSuite
  broadcastSuite_lt : broadcastSuite < maxWpaCipherSuite
  networkMode : NetworkMode
  externalAuthMode : ℕ
  mixedMode : Bool
  wpaAkmExists : Bool
  encrInSw : Bool
  micInSw : Bool
  xccSupport : Bool
  replayCnt : ℕ

structure Site where
  privacy : Bool
  infrastructure : Bool
  /-- `siteMgr_getParamWSC` does not report `TIWLN_SIMPLE_CONFIG_OFF`. -/
  wscOn : Bool
  /-- The site was promoted to WPA2, and accepted. -/
  wpa2Ok : Bool
  pWpaIe : Option WpaIePacket

def broadcastCipherSuiteValidity : NetworkMode → ℕ → Bool
  | .ibss, suite => suite = twdCipherTkip ∨ suite = twdCipherAesWrap ∨ suite = twdCipherAesCcmp
  | .infrastructure, suite => suite ≠ twdCipherNone ∧ suite < maxWpaCipherSuite

/-- An entry of `admCtrlWpa_validityTable`: unicast suite, broadcast suite, encryption. -/
def validityEntry : ℕ → ℕ → ℕ → Validity
  -- AP unicast NONE
  | 0, 1, 1 => ⟨.ok, twdCipherNone, twdCipherWep, 1⟩
  | 0, 1, 5 => ⟨.ok, twdCipherNone, twdCipherWep104, 1⟩
  | 0, 2, 2 => ⟨.ok, twdCipherNone, twdCipherTkip, 2⟩
  | 0, 3, 3 => ⟨.ok, twdCipherNone, twdCipherAesWrap, 3⟩
  | 0, 4, 4 => ⟨.ok, twdCipherNone, twdCipherAesCcmp, 3⟩
  | 0, 5, 1 => ⟨.ok, twdCipherNone, twdCipherWep, 1⟩
  | 0, 5, 5 => ⟨.ok, twdCipherNone, twdCipherWep104, 1⟩
  -- AP unicast WEP
  | 1, 1, 1 => ⟨.ok, twdCipherWep, twdCipherWep, 1⟩
  | 1, 1, 4 => ⟨.ok, twdCipherWep, twdCipherWep, 1⟩
  -- AP unicast TKIP
  | 2, 1, 2 => ⟨.ok, twdCipherTkip, twdCipherWep, 4⟩
  | 2, 2, 2 => ⟨.ok, twdCipherTkip, twdCipherTkip, 7⟩
  | 2, 5, 2 => ⟨.ok, twdCipherTkip, twdCipherWep104, 4⟩
  -- AP unicast AES_WRAP
  | 3, 1, 3 => ⟨.ok, twdCipherAesWrap, twdCipherWep, 5⟩
  | 3, 2, 3 => ⟨.ok, twdCipherAesWrap, twdCipherTkip, 6⟩
  | 3, 3, 3 => ⟨.ok, twdCipherAesWrap, twdCipherAesWrap, 8⟩
  | 3, 5, 3 => ⟨.ok, twdCipherAesWrap, twdCipherWep104, 5⟩
  -- AP unicast AES_CCMP
  | 4, 1, 4 => ⟨.ok, twdCipherAesCcmp, twdCipherWep, 5⟩
  | 4, 2, 4 => ⟨.ok, twdCipherAesCcmp, twdCipherTkip, 6⟩
  | 4, 4, 4 => ⟨.ok, twdCipherAesCcmp, twdCipherAesCcmp, 7⟩
  | 4, 5, 4 => ⟨.ok, twdCipherAesCcmp, twdCipherWep104, 5⟩
  -- AP unicast WEP104
  | 5, 5, 4 => ⟨.ok, twdCipherWep104, twdCipherWep104, 1⟩
  | 5, 5, 5 => ⟨.ok, twdCipherWep104, twdCipherWep104, 1⟩
  -- the rows without initializer
  | 6, _, _ => ⟨.ok, twdCipherNone, twdCipherNone, 0⟩
  | _, 6, _ => ⟨.ok, twdCipherNone, twdCipherNone, 0⟩
  | _, _, 6 => ⟨.ok, twdCipherNone, twdCipherNone, 0⟩
  | _, _, _ => ⟨.nok, twdCipherNone, twdCipherNone, 0⟩

/-- `admCtrlWpa_validityTable[unicast][broadcast][encryption]`. -/
def validityTable (unicast broadcast encryption : ℕ) : Option Validity :=
  if unicast < maxWpaCipherSuite ∧ broadcast < maxWpaCipherSuite ∧
      encryption < maxWpaCipherSuite then
    some (validityEntry unicast broadcast encryption)
  else none

/-- The pairwise suites of the parsed element. -/
def WpaIeData.suites (d : WpaIeData) : List ℕ := (List.range d.unicastSuiteCnt).map d.unicastSuite

/-- The loop over the suites: the entry that is set at its end, if one is. -/
def findValid (broadcast encryption : ℕ) : List ℕ → Option Validity → Option (Option Validity)
  | [], validity => some validity
  | unicast :: suites, _ =>
    match validityTable unicast broadcast encryption with
    | none => none
    | some validity =>
      if validity.status = .ok then some (some validity)
      else findValid broadcast encryption suites (some validity)

namespace AdmCtrl

variable (a : AdmCtrl)

def getCipherSuite : ℕ :=
  if a.unicastSuite < a.broadcastSuite then a.broadcastSuite else a.unicastSuite

/-- The suites are CKIP, for which there is another check. -/
def isCkip (d : WpaIeData) : Bool :=
  d.broadcastSuite = twdCipherCkip ∨ d.unicastSuite 0 = twdCipherCkip

/-- The external authentication mode for a key management suite. -/
def authModeFor (keyMng : ℕ) : ℕ :=
  if keyMng = wpaIeKeyMngNone then rsnExtAuthModeOpen
  else if keyMng = wpaIeKeyMng8011x then rsnExtAuthModeWpa
  else if keyMng = wpaIeKeyMngPsk8011x then a.externalAuthMode
  else rsnExtAuthModeOpen

def acceptSite (d : WpaIeData) : AdmCtrl × TiStatus × Option WpaIeData :=
  ({ a with
      externalAuthMode := a.authModeFor (d.keyMngSuite 0)
      replayCnt := d.replayCounters },
    .ok, some d)

/-- `admCtrlWpa_setSite` behind the parser. -/
def setParsed (d : WpaIeData) : Option (AdmCtrl × TiStatus × Option WpaIeData) :=
  if maxWpaCipherSuite ≤ d.unicastSuite 0 ∨ maxWpaCipherSuite ≤ d.broadcastSuite ∨
      maxWpaCipherSuite ≤ a.unicastSuite then
    some (a, .nok, none)
  else
    let a := { a with encrInSw := d.xccKp, micInSw := d.xccMic }
    if isCkip d then
      if a.getCipherSuite ≠ twdCipherTkip then some (a, .nok, none)
      else some (acceptSite { a with xccSupport := a.encrInSw || a.xccSupport } d)
    else if !broadcastCipherSuiteValidity a.networkMode d.broadcastSuite then
      some (a, .nok, none)
    else
      match findValid d.broadcastSuite a.getCipherSuite d.suites none with
      | none | some none => none
      | some (some validity) =>
        if validity.status ≠ .ok then some (a, validity.status, none)
        else some (a.acceptSite { d with
          unicastSuite := Function.update d.unicastSuite 0 validity.unicast
          broadcastSuite := validity.broadcast })

/-- `admCtrlWpa_setSite`. -/
def setSite (site : Site) (wpaData : WpaIeData) : Option (AdmCtrl × TiStatus × Option WpaIeData) :=
  if site.wpa2Ok then some (a, .ok, none)
  else
    match site.pWpaIe with
    | none => some (a, .nok, none)
    | some ie =>
      let r := Parse.parseIe ie a.wpaAkmExists wpaData
      let a := { a with wpaAkmExists := r.1.wpaAkmExists }
      if r.2 ≠ .ok then some (a, r.2, none) else a.setParsed r.1.data

/-- The check of the key management suite in `admCtrlWpa_evalSite`. -/
def keyMngOk (wscOn : Bool) (keyMng : ℕ) : Bool :=
  if keyMng = wpaIeKeyMngNone then a.externalAuthMode ≤ rsnExtAuthModeAutoSwitch
  else if keyMng = wpaIeKeyMng8011x then a.externalAuthMode = rsnExtAuthModeWpa
  else if keyMng = wpaIeKeyMngPsk8011x then
    a.externalAuthMode = rsnExtAuthModeWpapsk ∨ wscOn ∧ a.externalAuthMode = rsnExtAuthModeWpa
  else false

/-- The privacy bit of the site must fit, unless in mixed mode. -/
def checkPrivacy (privacy : Bool) (unicast evaluation : ℕ) : ℕ :=
  if ¬ a.mixedMode ∧
      (privacy ∧ unicast = twdCipherNone ∨ ¬ privacy ∧ twdCipherNone < unicast) then 0
  else evaluation

/-- `admCtrlWpa_evalSite` behind the parser: the status and the evaluation. -/
def evalParsed (site : Site) (d : WpaIeData) : Option (TiStatus × ℕ) :=
  if !a.keyMngOk site.wscOn (d.keyMngSuite 0) then some (.nok, 0)
  else if isCkip d then
    if a.getCipherSuite ≠ twdCipherTkip then some (.nok, 0)
    else some (.ok, a.checkPrivacy site.privacy (d.unicastSuite 0) 0)
  else
    match findValid d.broadcastSuite a.getCipherSuite d.suites (some (validityEntry 0 0 0)) with
    | none | some none => none
    | some (some validity) =>
      if validity.status ≠ .ok then some (validity.status, 0)
      else some (.ok, a.checkPrivacy site.privacy validity.unicast validity.evaluation)

/-- `admCtrlWpa_evalSite`, with what the WPA2 evaluation returned. -/
def evalSite (site : Site) (wpa2Evaluation : ℕ) (wpaData : WpaIeData) :
    Option (AdmCtrl × TiStatus × ℕ) :=
  if !site.infrastructure then some (a, .nok, 0)
  else if site.wpa2Ok then some (a, .ok, wpa2Evaluation)
  else
    match site.pWpaIe with
    | some ie =>
      let r := Parse.parseIe ie a.wpaAkmExists wpaData
      let a := { a with wpaAkmExists := r.1.wpaAkmExists }
      if r.2 ≠ .ok then some (a, r.2, 0)
      else (a.evalParsed site r.1.data).map fun e => (a, e.1, e.2)
    | none =>
      if !site.wscOn then some (a, .nok, 0)
      else
        some ({ a with
          broadcastSuite := twdCipherNone
          unicastSuite := twdCipherNone
          broadcastSuite_lt := by decide
          unicastSuite_lt := by decide }, .ok, 1)

end AdmCtrl

end ArchosGpl.Wlan.AdmCtrlWpa
