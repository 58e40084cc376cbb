import ArchosGpl.Lib.Word
import ArchosGpl.Wlan.QosMngr.Model

/-!
# Model of PS-Rx-Streaming (`stad/src/Sta_Management/qosMngr.c`)

The user configures streams for TIDs. The automatic stream is configured for TID 0, when there is
traffic and the user has no stream.

* `TWD_CfgPsRxStreaming` sends a configuration for one TID: `fw` has the last one for each TID, and
  whether it was the automatic stream's. `trafficOn` is what `qosMngr_UpdatePsTraffic` was told last
  from outside; the module calls it itself, too.
* `qosMngr_SetPsRxStreaming` reads `WMEQosTagToACTable` and `aTidPsRxStreaming` at the TID before it
  checks the TID. What it reads there for a TID above 7 is not used.
* `qosMngr_disconnect` can give up before it comes to the streams, if a configuration of the queues
  fails.
-/

open Function (update)

namespace ArchosGpl.Wlan.QosMngr.PsRxStreaming

open Lib

abbrev maxEnabledPsRxStreams : ℕ := 4

abbrev maxNumOf8021dTags : ℕ := 8

/-- `PS_TRAFFIC_RATE_DISABLE`, `PS_TRAFFIC_RATE_MIN` and `PS_TRAFFIC_RATE_MAX`. -/
abbrev psTrafficRateDisable : ℕ := 0
abbrev psTrafficRateMin : ℕ := 10
abbrev psTrafficRateMax : ℕ := 50

def wmeQosAcToTid : EAcTrfcType → ℕ
  | .be => 0
  | .bk => 2
  | .vi => 4
  | .vo => 6

/-- `WMEQosMateTid`, for the TIDs of `WMEQosAcToTid`. -/
def wmeQosMateTid : EAcTrfcType → ℕ
  | .be => 3
  | .bk => 1
  | .vi => 5
  | .vo => 7

structure TPsRxStreaming where
  uTid : ℕ
  uStreamPeriod : ℕ
  uTxTimeout : ℕ
  bEnabled : Bool
  deriving DecidableEq, Repr

inductive Answer
  | ok
  | notConnected
  | paramValueNotValid
  | userPriorityNotAdmitted
  deriving DecidableEq, Repr

/-- The part of `qosMngr_t` that the streams depend on. -/
structure State where
  isConnected : Bool
  /-- `trafficAdmState` of `currentTspecInfo` is `AC_ADMITTED`. -/
  admitted : EAcTrfcType → Bool
  /-- `apInitAdmissionState` is `ADMISSION_REQUIRED`. -/
  admissionRequired : EAcTrfcType → Bool
  aTidPsRxStreaming : ℕ → TPsRxStreaming
  uNumEnabledPsRxStreams : ℕ
  autoRxStreaming : TPsRxStreaming
  /-- The last configuration sent for a TID, and whether it was the automatic one. -/
  fw : ℕ → Option (Bool × TPsRxStreaming)
  /-- What the power manager notified last. -/
  trafficOn : Bool

def State.cfgPsRxStreaming (s : State) (auto : Bool) (params : TPsRxStreaming) : State :=
  { s with fw := update s.fw params.uTid (some (auto, params)) }

def updatePsTraffic (s : State) (bPsTrafficOn : Bool) : State :=
  let s := { s with autoRxStreaming := { s.autoRxStreaming with bEnabled := bPsTrafficOn } }
  if s.uNumEnabledPsRxStreams = 0 ∧ s.autoRxStreaming.uStreamPeriod ≠ 0 then
    s.cfgPsRxStreaming true s.autoRxStreaming
  else s

/-- The checks of `qosMngr_SetPsRxStreaming`: the answer to a request that is refused. -/
def refusal (s : State) (new : TPsRxStreaming) : Option Answer :=
  let cur := s.aTidPsRxStreaming new.uTid
  if ¬ s.isConnected then some .notConnected
  else if new.uTid > maxUserPriority then some .paramValueNotValid
  else if ¬ s.admitted (wmeQosTagToAcTable new.uTid) then some .userPriorityNotAdmitted
  -- "Verify that a disabled TID is not beeing disabled again"
  else if ¬ new.bEnabled ∧ ¬ cur.bEnabled then some .paramValueNotValid
  -- "Verify that the max number of enabled TIDs is not exeeded"
  else if new.bEnabled ∧ ¬ cur.bEnabled ∧ s.uNumEnabledPsRxStreams = maxEnabledPsRxStreams then
    some .paramValueNotValid
  else none

/-- The number of streams after a request that is not refused. -/
def newNumber (s : State) (new : TPsRxStreaming) : ℕ :=
  if new.bEnabled then
    if (s.aTidPsRxStreaming new.uTid).bEnabled then s.uNumEnabledPsRxStreams
    else add32 s.uNumEnabledPsRxStreams 1
  else sub32 s.uNumEnabledPsRxStreams 1

def setPsRxStreaming (s : State) (new : TPsRxStreaming) : Answer × State :=
  match refusal s new with
  | some answer => (answer, s)
  | none =>
    let bTidPrevEnabled := (s.aTidPsRxStreaming new.uTid).bEnabled
    let s :=
      { s with
        aTidPsRxStreaming := update s.aTidPsRxStreaming new.uTid new
        uNumEnabledPsRxStreams := newNumber s new }
    -- "cancel auto rx streaming"
    let s :=
      if new.bEnabled ∧ ¬ bTidPrevEnabled ∧ s.uNumEnabledPsRxStreams = 1 then
        updatePsTraffic s false
      else s
    -- "activate auto rx streaming"
    if s.uNumEnabledPsRxStreams = 0 ∧ s.autoRxStreaming.bEnabled then
      let s := updatePsTraffic s true
      -- "corner case": TID 0 now has the automatic stream
      if new.uTid = 0 then (.ok, s) else (.ok, s.cfgPsRxStreaming false new)
    else (.ok, s.cfgPsRxStreaming false new)

/-- The periods that `qosMngr_SetAutoRxStreaming` refuses. -/
def badPeriod (uStreamPeriod : ℕ) : Prop :=
  uStreamPeriod > psTrafficRateDisable ∧ uStreamPeriod < psTrafficRateMin ∨
    uStreamPeriod > psTrafficRateMax

instance (n : ℕ) : Decidable (badPeriod n) := inferInstanceAs (Decidable (_ ∨ _))

/-- `qosMngr_SetAutoRxStreaming`, which takes only the period of the parameters. -/
def setAutoRxStreaming (s : State) (uStreamPeriod : ℕ) : Answer × State :=
  if badPeriod uStreamPeriod then (.paramValueNotValid, s)
  else if s.autoRxStreaming.uStreamPeriod = uStreamPeriod then (.ok, s)
  else
    let s := { s with autoRxStreaming := { s.autoRxStreaming with uStreamPeriod } }
    if s.autoRxStreaming.bEnabled then
      if uStreamPeriod ≠ 0 then (.ok, s.cfgPsRxStreaming true s.autoRxStreaming)
      else (.ok, s.cfgPsRxStreaming true { s.autoRxStreaming with bEnabled := false })
    else (.ok, s)

/-- A stream that is enabled is disabled, and the firmware told so. -/
def disableStream (s : State) (uTid : ℕ) : State :=
  if (s.aTidPsRxStreaming uTid).bEnabled then
    let params := { s.aTidPsRxStreaming uTid with bEnabled := false }
    { s with aTidPsRxStreaming := update s.aTidPsRxStreaming uTid params }.cfgPsRxStreaming
      false params
  else s

/-- The same in `deleteTspecConfiguration`, which also counts. -/
def deleteStream (s : State) (uTid : ℕ) : State :=
  if (s.aTidPsRxStreaming uTid).bEnabled then
    { disableStream s uTid with
      uNumEnabledPsRxStreams := sub32 s.uNumEnabledPsRxStreams 1 }
  else s

def deleteTspecConfiguration (s : State) (ac : EAcTrfcType) : State :=
  if s.admissionRequired ac then
    deleteStream
      (deleteStream { s with admitted := update s.admitted ac false } (wmeQosAcToTid ac))
      (wmeQosMateTid ac)
  else { s with admitted := update s.admitted ac true }

/-- `setNonQosAdmissionState` for all ACs. -/
def setNonQosAdmissionState (s : State) : State :=
  { s with
    admitted := fun ac => ac = .be
    admissionRequired := fun ac => ac ≠ .be }

/-- `qosMngr_disconnect`, with the statuses of the configurations of the queues. -/
def disconnect (s : State) (bDisconnect configured : Bool) : State :=
  if ¬ configured then setNonQosAdmissionState s
  else if bDisconnect then
    { (List.range maxNumOf8021dTags).foldl disableStream (setNonQosAdmissionState s) with
      uNumEnabledPsRxStreams := 0
      isConnected := false }
  else { setNonQosAdmissionState s with isConnected := false }

/-- An enabled stream is sent again. -/
def resendStream (s : State) (uTid : ℕ) : State :=
  if (s.aTidPsRxStreaming uTid).bEnabled then
    s.cfgPsRxStreaming false (s.aTidPsRxStreaming uTid)
  else s

/-- `updateACParams` for one AC, with its `ACM` bit. -/
def updateAcParams (s : State) (ac : EAcTrfcType) (acm : Bool) : State :=
  let s :=
    { s with
      admissionRequired := update s.admissionRequired ac acm
      admitted := update s.admitted ac !acm }
  if acm then s else resendStream (resendStream s (wmeQosAcToTid ac)) (wmeQosMateTid ac)

inductive Op
  | setPsRxStreaming (new : TPsRxStreaming)
  | setAutoRxStreaming (uStreamPeriod : ℕ)
  /-- The power manager notifies the traffic. -/
  | updatePsTraffic (bPsTrafficOn : Bool)
  | deleteTspec (ac : EAcTrfcType)
  | disconnect (bDisconnect configured : Bool)
  /-- `qosMngr_connect` -/
  | connect
  | updateAcParams (ac : EAcTrfcType) (acm : Bool)
  /-- A TSPEC is accepted. -/
  | acceptTspec (ac : EAcTrfcType)

def next (s : State) : Op → State
  | .setPsRxStreaming new => (setPsRxStreaming s new).2
  | .setAutoRxStreaming uStreamPeriod => (setAutoRxStreaming s uStreamPeriod).2
  | .updatePsTraffic bPsTrafficOn =>
    { QosMngr.PsRxStreaming.updatePsTraffic s bPsTrafficOn with trafficOn := bPsTrafficOn }
  | .deleteTspec ac => deleteTspecConfiguration s ac
  | .disconnect bDisconnect configured =>
    QosMngr.PsRxStreaming.disconnect s bDisconnect configured
  | .connect => { s with isConnected := true }
  | .updateAcParams ac acm => QosMngr.PsRxStreaming.updateAcParams s ac acm
  | .acceptTspec ac => { s with admitted := update s.admitted ac true }

def step (s : State) (op : Op) : Option State := some (next s op)

/-- The state after the configuration. -/
def init (uPsTrafficPeriod : ℕ) : State where
  isConnected := false
  admitted := fun ac => ac = .be
  admissionRequired := fun ac => ac ≠ .be
  aTidPsRxStreaming := fun uTid => ⟨uTid, 0, 0, false⟩
  uNumEnabledPsRxStreams := 0
  autoRxStreaming := ⟨0, uPsTrafficPeriod, 0, false⟩
  fw := fun _ => none
  trafficOn := false

end ArchosGpl.Wlan.QosMngr.PsRxStreaming
