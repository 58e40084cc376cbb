import ArchosGpl.Wlan.AdmCtrlWpa2.IeModel

/-!
# Model of the cipher suite metric (`admCtrlWpa2_getCipherSuiteMetric`)

For the configured encryption, and for AES-CCMP if it may be promoted, the first pairwise suite
that the validity table admits with the group suite is taken; the best of the two counts. The table
is given by its valid entries. **A table index outside its three dimensions is undefined**
(`none`).
-/

namespace ArchosGpl.Wlan.AdmCtrlWpa2

def twdCipherWep : ℕ := 1

def twdCipherTkip : ℕ := 2

def twdCipherAesWrap : ℕ := 3

structure Validity where
  status : TiStatus
  unicast : ℕ
  broadcast : ℕ
  evaluation : ℕ
  deriving DecidableEq

/-- An entry of `admCtrlWpa2_validityTable`: unicast suite, broadcast suite, encryption. -/
def validityEntry : ℕ → ℕ → ℕ → Validity
  -- AP unicast NONE
  | 0, 1, 1 => ⟨.ok, twdCipherNone, twdCipherWep, 1⟩
  | 0, 1, 5 => ⟨.ok, twdCipherNone, twdCipherWep104, 1⟩
  | 0, 2, 2 => ⟨.ok, twdCipherNone, twdCipherTkip, 2⟩
  | 0, 3, 3 => ⟨.ok, twdCipherNone, twdCipherAesWrap, 3⟩
  | 0, 4, 4 => ⟨.ok, twdCipherNone, twdCipherAesCcmp, 3⟩
  | 0, 5, 1 => ⟨.ok, twdCipherNone, twdCipherWep, 1⟩
  | 0, 5, 5 => ⟨.ok, twdCipherNone, twdCipherWep104, 1⟩
  -- AP unicast TKIP
  | 2, 1, 2 => ⟨.ok, twdCipherTkip, twdCipherWep, 4⟩
  | 2, 2, 2 => ⟨.ok, twdCipherTkip, twdCipherTkip, 7⟩
  | 2, 5, 2 => ⟨.ok, twdCipherTkip, twdCipherWep104, 4⟩
  -- AP unicast AES_WRAP
  | 3, 1, 3 => ⟨.ok, twdCipherAesWrap, twdCipherWep, 5⟩
  | 3, 2, 3 => ⟨.ok, twdCipherAesWrap, twdCipherTkip, 6⟩
  | 3, 3, 3 => ⟨.ok, twdCipherAesWrap, twdCipherAesWrap, 8⟩
  | 3, 5, 3 => ⟨.ok, twdCipherAesWrap, twdCipherWep104, 5⟩
  -- AP unicast AES_CCMP
  | 4, 1, 4 => ⟨.ok, twdCipherAesCcmp, twdCipherWep, 5⟩
  | 4, 2, 2 => ⟨.ok, twdCipherAesCcmp, twdCipherTkip, 6⟩
  | 4, 2, 4 => ⟨.ok, twdCipherAesCcmp, twdCipherTkip, 6⟩
  | 4, 4, 2 => ⟨.ok, twdCipherAesCcmp, twdCipherAesCcmp, 6⟩
  | 4, 4, 4 => ⟨.ok, twdCipherAesCcmp, twdCipherAesCcmp, 8⟩
  | 4, 5, 4 => ⟨.ok, twdCipherAesCcmp, twdCipherWep104, 5⟩
  | _, _, _ => ⟨.nok, twdCipherNone, twdCipherNone, 0⟩

/-- `admCtrlWpa2_validityTable[unicast][broadcast][encryption]`. -/
def validityTable (unicast broadcast encryption : ℕ) : Option Validity :=
  if unicast < maxWpa2CipherSuite ∧ broadcast < maxWpa2CipherSuite ∧
      encryption < maxWpa2CipherSuite then
    some (validityEntry unicast broadcast encryption)
  else none

/-- The pairwise suites of the parsed element. -/
def Wpa2IeData.suites (d : Wpa2IeData) : List ℕ := (List.range d.unicastSuiteCnt).map d.unicastSuite

/-- What the function returns. -/
structure SuiteMetric where
  status : TiStatus
  metric : ℕ
  uSuite : ℕ
  bSuite : ℕ
  deriving DecidableEq

/-- The loop over the suites: the entry with which it ends. -/
def findValid (broadcast encryption : ℕ) : List ℕ → Validity → Option Validity
  | [], validity => some validity
  | unicast :: suites, _ =>
    match validityTable unicast broadcast encryption with
    | none => none
    | some validity =>
      if validity.status = .ok then some validity else findValid broadcast encryption suites validity

/-- The result is replaced by a better one. -/
def SuiteMetric.update (m : SuiteMetric) (validity : Validity) : SuiteMetric :=
  if validity.status = .ok ∧ m.metric < validity.evaluation then
    ⟨validity.status, validity.evaluation, validity.unicast, validity.broadcast⟩
  else m

def nextEncryption (promote : Bool) (encryption : ℕ) : ℕ :=
  if promote ∧ encryption ≠ twdCipherAesCcmp then twdCipherAesCcmp else twdCipherNone

/-- The loop over the encryptions, with the number of passes that are left. -/
def metricLoop (promote : Bool) (suites : List ℕ) (broadcast : ℕ) :
    ℕ → ℕ → Validity → SuiteMetric → Option SuiteMetric
  | 0, _, _, _ => none
  | fuel + 1, encryption, validity, m =>
    if encryption = twdCipherNone then some m
    else
      match findValid broadcast encryption suites validity with
      | none => none
      | some validity =>
        metricLoop promote suites broadcast fuel (nextEncryption promote encryption) validity
          (m.update validity)

/-- `admCtrlWpa2_getCipherSuiteMetric`, with the configured encryption and whether it may be
promoted. There are at most two passes. -/
def getCipherSuiteMetric (d : Wpa2IeData) (encryption : ℕ) (promote : Bool) : Option SuiteMetric :=
  metricLoop promote d.suites d.broadcastSuite 3 encryption (validityEntry 0 0 0)
    ⟨.nok, 0, twdCipherNone, twdCipherNone⟩

end ArchosGpl.Wlan.AdmCtrlWpa2
