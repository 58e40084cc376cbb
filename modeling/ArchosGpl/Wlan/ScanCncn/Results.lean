import ArchosGpl.Wlan.ScanCncn.Model
import Mathlib.Algebra.BigOperators.Group.List.Basic
import Mathlib.Algebra.GroupWithZero.Nat
import Mathlib.Data.Fintype.Basic

/-!
# The accounting of scan results (`ScanCncn.c`)

A scan is over when the firmware has indicated its end and all frames that it has counted are
there. The counts come as bytes, from the two events of a periodic scan and from the scan service;
the frames come one by one, and a frame that is discarded counts as well. `Client` has the three
fields of `TScanCncnClient` that keep this account; `charSigned` says whether a plain `char` is
signed, which is left to the compiler. The log lists what has arrived since the scan started, and
whether `SCAN_CNCN_SM_EVENT_SCAN_COMPLETE` was sent at that.

`scanCncn_PeriodicScanReportCB` reads its count as a plain `char`, so that a count of 128 or more
is a negative number there; and a report that comes after the end was found complete is too late,
which is the order in which the event mailbox hands the two over.

**`accounted`**: in every run whose steps are not of these kinds (`Keeps`) the event is sent once
in a scan, at the arrival that makes the account complete. **`follows_account`**: in every run of
the client's state machine (`Sys.step`) the three fields are the account of what arrived since the
last scan was started.
-/

namespace ArchosGpl.Wlan.ScanCncn.Results

open Lib

/-- `dot11_SSID_t`: `hdr[1]` and the array. -/
structure Dot11Ssid where
  len : UInt8
  serviceSetId : List UInt8

/-- What `scanCncn_MlmeResultCB` gets; an empty notification has no BSSID. -/
structure MlmeResult where
  bssid : Option (Fin 6 → UInt8)
  pSsid : Option Dot11Ssid
  rssi : ℤ

/-- What the callback reads besides: the client with its parameters, the current AP, and the
configuration. -/
structure Settings where
  eClient : EScanCncnClient
  desiredSsid : List UInt8
  bSps : Bool
  currentBssid : Fin 6 → UInt8
  nRssiThreshold : ℤ
  bPushMode : Bool
  charSigned : Bool

/-- `bValidResult` after the checks. -/
def validResult (c : Settings) (f : MlmeResult) : Bool :=
  match f.bssid with
  | none => false
  | some bssid =>
    let bValidResult :=
      match f.pSsid with
      | none => false
      | some pSsid =>
        if pSsid.len = 0 then
          (c.eClient = .appOneShot || c.eClient = .appPeriodic) && c.desiredSsid.length = 0
        else if c.eClient = .roamingCont ∨ c.eClient = .roamingImmed then
          !(decide (bssid = c.currentBssid) ||
            (pSsid.serviceSetId.take c.desiredSsid.length ≠ c.desiredSsid && !c.bSps))
        else true
    bValidResult && !(f.rssi < c.nRssiThreshold)

/-- What becomes of a frame. -/
inductive Passed
  | discarded
  | scanReport
  | clientCb
  deriving DecidableEq

def passed (c : Settings) (f : MlmeResult) : Passed :=
  if !validResult c f then .discarded else if c.bPushMode then .scanReport else .clientCb

structure Client where
  uResultCounter : ℕ
  uResultExpectedNumber : ℕ
  bScanCompletePending : Bool
  deriving DecidableEq

namespace Client

/-- `scanCncnSm_StartScan`. -/
def zero : Client := ⟨0, 0, false⟩

/-- The start of each callback with a count. -/
def expect (s : Client) (uResultCount : ℕ) : Client :=
  { s with uResultExpectedNumber := (s.uResultExpectedNumber + uResultCount) % 2 ^ 32 }

/-- `scanCncn_PeriodicScanCompleteCB` and the end of `scanCncn_ScanCompleteNotificationCB`, with the
answer whether the event is sent. -/
def awaitResults (s : Client) (uResultCount : ℕ) : Client × Bool :=
  let s := s.expect uResultCount
  if s.uResultExpectedNumber ≤ s.uResultCounter then (s, true)
  else ({ s with bScanCompletePending := true }, false)

/-- The start of `scanCncn_MlmeResultCB`. -/
def count (s : Client) : Client := { s with uResultCounter := (s.uResultCounter + 1) % 2 ^ 32 }

/-- The check at the end of `scanCncn_MlmeResultCB`. -/
def allReceived (s : Client) : Bool :=
  s.bScanCompletePending && s.uResultCounter = s.uResultExpectedNumber

end Client

/-- `TI_UINT32 uResultCount = str[ 0 ]`, of a plain `char`. -/
def plainChar (charSigned : Bool) (b : UInt8) : ℕ :=
  if charSigned ∧ 128 ≤ b.toNat then 2 ^ 32 - 2 ^ 8 + b.toNat else b.toNat

inductive Arrival
  | frame (f : MlmeResult)
  | periodicScanReport (str0 : UInt8)
  | periodicScanComplete (str0 : UInt8)
  | scanComplete (numberOfScanResults : UInt8)

/-- `scanCncn_MlmeResultCB`: the account, whether the event is sent, and what becomes of the frame. -/
def mlmeResultCb (c : Settings) (s : Client) (f : MlmeResult) : Client × Bool × Passed :=
  let s := s.count
  (s, s.allReceived, passed c f)

/-- `scanCncn_MlmeResultCB`, `scanCncn_PeriodicScanReportCB`, `scanCncn_PeriodicScanCompleteCB` and
`scanCncn_ScanCompleteNotificationCB`, with the answer whether the event is sent. -/
def receive (c : Settings) (s : Client) : Arrival → Client × Bool
  | .frame f => ((mlmeResultCb c s f).1, (mlmeResultCb c s f).2.1)
  | .periodicScanReport str0 => (s.expect (plainChar c.charSigned str0), false)
  | .periodicScanComplete str0 => s.awaitResults str0.toNat
  | .scanComplete numberOfScanResults => s.awaitResults numberOfScanResults.toNat

/-- An arrival, and whether the event was sent at it. -/
structure Entry where
  arrival : Arrival
  sent : Bool

/-- The account with the arrivals since the scan started. -/
structure Scan where
  client : Client
  log : List Entry

def Scan.start : Scan := ⟨.zero, []⟩

/-- What happens to a client: it starts a scan, or something arrives. -/
inductive Input
  | startScan
  | arrives (a : Arrival)

def step (c : Settings) (s : Scan) : Input → Option Scan
  | .startScan => some .start
  | .arrives a =>
    let r := receive c s.client a
    some ⟨r.1, s.log ++ [⟨a, r.2⟩]⟩

/-! ## What is to hold -/

namespace Arrival

def isFrame : Arrival → Bool
  | .frame _ => true
  | _ => false

/-- The indication of the end. -/
def isComplete : Arrival → Bool
  | .periodicScanComplete _ | .scanComplete _ => true
  | _ => false

/-- The count that the firmware gives. -/
def counts : Arrival → ℕ
  | .frame _ => 0
  | .periodicScanReport b | .periodicScanComplete b | .scanComplete b => b.toNat

end Arrival

def frames (log : List Entry) : ℕ := log.countP (·.arrival.isFrame)

def reported (log : List Entry) : ℕ := (log.map (·.arrival.counts)).sum

def Ended (log : List Entry) : Prop := ∃ e ∈ log, e.arrival.isComplete

/-- The end is indicated, and that many frames are there. -/
def Due (log : List Entry) (total : ℕ) : Prop := Ended log ∧ total ≤ frames log

/-- The event was sent at the arrival that makes the account complete, and at no other. -/
def Timed (log : List Entry) (total : ℕ) : Prop :=
  ∀ p e q, log = p ++ e :: q → (e.sent = true ↔ Due (p ++ [e]) total ∧ ¬Due p total)

/-- **The account of a scan**: one event where the account is complete and none before, sent at the
second of the indication and the last frame counted. -/
structure Accounted (log : List Entry) : Prop where
  timed : Timed log (reported log)
  once : Due log (reported log) → log.countP (·.sent) = 1
  none : ¬Due log (reported log) → log.countP (·.sent) = 0

/-- The steps that keep the account: a count of a report that is the same in a plain `char`, and
none where the account is complete; one indication of the end in a scan; counters that do not
overflow. -/
def Keeps (c : Settings) (s : Scan) : Input → Prop
  | .startScan => True
  | .arrives a =>
    (match a with
      | .frame _ => s.client.uResultCounter + 1 < 2 ^ 32
      | .periodicScanReport str0 =>
        (c.charSigned = false ∨ str0.toNat < 128) ∧ (Due s.log (reported s.log) → str0 = 0)
      | .periodicScanComplete _ | .scanComplete _ => ¬Ended s.log) ∧
    s.client.uResultExpectedNumber + a.counts < 2 ^ 32

variable {c : Settings} {s s' : Scan} {log : List Entry} {e : Entry} {a : Arrival} {total total' : ℕ}

/-! ## The account and the log -/

theorem frames_snoc : frames (log ++ [e]) = frames log + if e.arrival.isFrame then 1 else 0 := by
  rw [frames, List.countP_append, List.countP_singleton]
  rfl

theorem reported_snoc : reported (log ++ [e]) = reported log + e.arrival.counts := by
  rw [reported, List.map_append, List.sum_append, List.map_singleton, List.sum_singleton]
  rfl

theorem ended_snoc : Ended (log ++ [e]) ↔ Ended log ∨ e.arrival.isComplete := by
  constructor
  · rintro ⟨e', he', h⟩
    rcases List.mem_append.mp he' with he' | he'
    · exact .inl ⟨e', he', h⟩
    · exact .inr (List.mem_singleton.mp he' ▸ h)
  · rintro (⟨e', he', h⟩ | h)
    · exact ⟨e', List.mem_append_left _ he', h⟩
    · exact ⟨e, List.mem_append_right _ (List.mem_singleton_self e), h⟩

theorem Due.append {q : List Entry} (h : Due log total) (hle : total' ≤ total) :
    Due (log ++ q) total' := by
  obtain ⟨⟨e, he, hc⟩, hf⟩ := h
  refine ⟨⟨e, List.mem_append_left q he, hc⟩, Nat.le_trans hle (Nat.le_trans hf ?_)⟩
  rw [frames, frames, List.countP_append]
  exact Nat.le_add_right _ _

theorem Timed.snoc (h : Timed log total)
    (he : e.sent = true ↔ Due (log ++ [e]) total ∧ ¬Due log total) : Timed (log ++ [e]) total := by
  intro p e' q hlog
  rcases snoc_split hlog with ⟨rfl, rfl, rfl⟩ | ⟨q', rfl, hlog'⟩
  · exact he
  · exact h p e' q' hlog'

theorem Timed.of_snoc (h : Timed (log ++ [e]) total) : Timed log total := by
  intro p e' q hlog
  refine h p e' (q ++ [e]) ?_
  rw [hlog, List.append_assoc]
  rfl

theorem Timed.of_le (h : Timed log total) (hle : total ≤ total') (hnot : ¬Due log total) :
    Timed log total' := by
  intro p e q hlog
  have hno : ¬Due (p ++ [e]) total := fun hd => hnot (by
    rw [hlog, show p ++ e :: q = p ++ [e] ++ q by rw [List.append_assoc]; rfl]
    exact hd.append (Nat.le_refl _))
  rw [h p e q hlog]
  refine iff_of_false (fun hd => hno hd.1) fun hd => hno ?_
  have := hd.1.append (q := []) hle
  rwa [List.append_nil] at this

theorem Timed.count (h : Timed log total) :
    (Due log total → log.countP (·.sent) = 1) ∧ (¬Due log total → log.countP (·.sent) = 0) := by
  induction log using List.reverseRecOn with
  | nil => exact ⟨fun hd => absurd hd.1 (by rintro ⟨e, he, -⟩; cases he), fun _ => rfl⟩
  | append_singleton log e ih =>
    obtain ⟨hone, hnone⟩ := ih h.of_snoc
    have he := h log e [] rfl
    rw [List.countP_append, List.countP_singleton]
    by_cases hd : Due log total
    · rw [if_neg fun hs => (he.mp hs).2 hd, hone hd]
      exact ⟨fun _ => rfl, fun hnot => absurd (hd.append (Nat.le_refl _)) hnot⟩
    · rw [hnone hd]
      exact ⟨fun hd' => by rw [if_pos (he.mpr ⟨hd', hd⟩)],
        fun hnot => by rw [if_neg fun hs => hnot (he.mp hs).1]⟩

/-! ## Every step -/

structure Inv (s : Scan) : Prop where
  counter : s.client.uResultCounter = frames s.log
  expected : s.client.uResultExpectedNumber = reported s.log
  pending : s.client.bScanCompletePending = true → Ended s.log
  waits : Ended s.log → ¬Due s.log (reported s.log) → s.client.bScanCompletePending = true
  timed : Timed s.log (reported s.log)

theorem Inv.accounts (h : Inv s) : Accounted s.log where
  timed := h.timed
  once := h.timed.count.1
  none := h.timed.count.2

theorem not_ended_nil : ¬Ended [] := by
  rintro ⟨e, he, -⟩
  cases he

theorem inv_start : Inv .start where
  counter := rfl
  expected := rfl
  pending h := nomatch h
  waits h := absurd h not_ended_nil
  timed p e q h := absurd h.symm (List.append_ne_nil_of_right_ne_nil p (List.cons_ne_nil e q))

theorem Inv.frame (h : Inv s) {f : MlmeResult} (hlt : s.client.uResultCounter + 1 < 2 ^ 32) :
    Inv ⟨s.client.count, s.log ++ [⟨.frame f, s.client.count.allReceived⟩]⟩ := by
  generalize hr : s.client.count.allReceived = r
  have hcount : s.client.count.uResultCounter = frames s.log + 1 := by
    rw [Client.count, Nat.mod_eq_of_lt hlt, h.counter]
  have hframes : frames (s.log ++ [⟨.frame f, r⟩]) = frames s.log + 1 := frames_snoc
  have hreported : reported (s.log ++ [⟨.frame f, r⟩]) = reported s.log := reported_snoc
  have hended : Ended (s.log ++ [⟨.frame f, r⟩]) ↔ Ended s.log :=
    ended_snoc.trans (or_iff_left nofun)
  have hnow : r = true ↔ s.client.bScanCompletePending = true ∧ frames s.log + 1 = reported s.log := by
    rw [← hr, Client.allReceived, hcount, Bool.and_eq_true, decide_eq_true_iff, ← h.expected]
    rfl
  refine ⟨hcount.trans hframes.symm, h.expected.trans hreported.symm, fun hp => hended.mpr (h.pending hp),
    fun hend hnot => h.waits (hended.mp hend) fun hd => hnot ?_, ?_⟩
  · rw [hreported]
    exact hd.append (Nat.le_refl _)
  · rw [hreported]
    refine h.timed.snoc (hnow.trans ?_)
    rw [Due, hended, hframes]
    constructor
    · rintro ⟨hp, heq⟩
      exact ⟨⟨h.pending hp, heq.ge⟩, fun hd => by have := hd.2; omega⟩
    · rintro ⟨⟨hend, hle⟩, hnot⟩
      have hlt : ¬reported s.log ≤ frames s.log := fun hle => hnot ⟨hend, hle⟩
      exact ⟨h.waits hend hnot, by omega⟩

theorem Inv.report (h : Inv s) {b : UInt8} (hb : plainChar c.charSigned b = b.toNat)
    (hlt : s.client.uResultExpectedNumber + b.toNat < 2 ^ 32)
    (hlate : Due s.log (reported s.log) → b = 0) :
    Inv ⟨s.client.expect (plainChar c.charSigned b), s.log ++ [⟨.periodicScanReport b, false⟩]⟩ := by
  have hframes : frames (s.log ++ [⟨.periodicScanReport b, false⟩]) = frames s.log := frames_snoc
  have hreported : reported (s.log ++ [⟨.periodicScanReport b, false⟩]) = reported s.log + b.toNat :=
    reported_snoc
  have hended : Ended (s.log ++ [⟨.periodicScanReport b, false⟩]) ↔ Ended s.log :=
    ended_snoc.trans (or_iff_left nofun)
  have htimed : Timed s.log (reported s.log + b.toNat) := by
    by_cases hd : Due s.log (reported s.log)
    · rw [hlate hd]
      exact h.timed
    · exact h.timed.of_le (Nat.le_add_right _ _) hd
  refine ⟨h.counter.trans hframes.symm, ?_, fun hp => hended.mpr (h.pending hp),
    fun hend hnot => h.waits (hended.mp hend) fun hd => hnot ?_, ?_⟩
  · rw [hreported, ← h.expected, Client.expect, hb]
    exact Nat.mod_eq_of_lt hlt
  · rw [hreported, hlate hd]
    exact hd.append (Nat.le_refl _)
  · rw [hreported]
    refine htimed.snoc (iff_of_false nofun fun hd => hd.2 ?_)
    rw [Due, hended, hframes] at hd
    exact hd.1

theorem Inv.ends (h : Inv s) (ha : a.isComplete) (hf : a.isFrame = false) (hnot : ¬Ended s.log)
    (hlt : s.client.uResultExpectedNumber + a.counts < 2 ^ 32) :
    Inv ⟨(s.client.awaitResults a.counts).1,
      s.log ++ [⟨a, (s.client.awaitResults a.counts).2⟩]⟩ := by
  generalize hr : s.client.awaitResults a.counts = r
  have hframes : frames (s.log ++ [⟨a, r.2⟩]) = frames s.log := by
    rw [frames_snoc, hf]
    rfl
  have hreported : reported (s.log ++ [⟨a, r.2⟩]) = reported s.log + a.counts := reported_snoc
  have hended : Ended (s.log ++ [⟨a, r.2⟩]) := ended_snoc.mpr (.inr ha)
  have hexpect : (s.client.expect a.counts).uResultExpectedNumber = reported s.log + a.counts := by
    rw [← h.expected, Client.expect]
    exact Nat.mod_eq_of_lt hlt
  have hdue : Due (s.log ++ [⟨a, r.2⟩]) (reported s.log + a.counts) ↔
      (s.client.expect a.counts).uResultExpectedNumber ≤ s.client.uResultCounter := by
    rw [Due, hframes, h.counter, hexpect]
    exact and_iff_right hended
  have htimed : Timed s.log (reported s.log + a.counts) :=
    h.timed.of_le (Nat.le_add_right _ _) fun hd => hnot hd.1
  have hnow : r.2 = true ↔ Due (s.log ++ [⟨a, r.2⟩]) (reported s.log + a.counts) := by
    rw [hdue, ← hr, Client.awaitResults]
    split
    · next hle => exact iff_of_true rfl hle
    · next hgt => exact iff_of_false nofun hgt
  refine ⟨?_, ?_, fun _ => hended, fun _ hwait => ?_, ?_⟩
  · rw [hframes, ← h.counter, ← hr, Client.awaitResults]
    dsimp only
    split <;> rfl
  · rw [hreported, ← hexpect, ← hr, Client.awaitResults]
    dsimp only
    split <;> rfl
  · rw [hreported, hdue] at hwait
    rw [← hr]
    exact congrArg (fun r : Client × Bool => r.1.bScanCompletePending) (if_neg hwait)
  · rw [hreported]
    exact htimed.snoc (hnow.trans (and_iff_left fun hd => hnot hd.1).symm)

theorem plainChar_eq {b : UInt8} (h : c.charSigned = false ∨ b.toNat < 128) :
    plainChar c.charSigned b = b.toNat :=
  if_neg fun hs => h.elim (fun hf => by rw [hf] at hs; exact nomatch hs.1) fun hlt => by omega

theorem Inv.step {i : Input} (h : Inv s) (hkeeps : Keeps c s i) (hstep : step c s i = some s') :
    Inv s' := by
  cases i with
  | startScan =>
    cases hstep
    exact inv_start
  | arrives a =>
    cases hstep
    obtain ⟨hkind, hlt⟩ := hkeeps
    cases a with
    | frame f => exact h.frame hkind
    | periodicScanReport b => exact h.report (plainChar_eq hkind.1) hlt hkind.2
    | periodicScanComplete b | scanComplete b => exact h.ends rfl rfl hkind hlt

/-- **The account of every scan**, in a run whose steps keep it. -/
theorem accounted {is : List Input} (hkeeps : Along (step c) (Keeps c) .start is)
    (hrun : exec (step c) .start is = some s) : Accounted s.log :=
  (hkeeps.invariant (fun _ _ _ h hk hs => h.step hk hs) inv_start hrun).accounts

/-! ## The client with its state machine -/

section Machine

variable {P : Type*} {c : EScanCncnClient} {t u : Sys P} {x : Client}

def client (t : Sys P) : Client := ⟨t.uResultCounter, t.uResultExpectedNumber, t.bScanCompletePending⟩

theorem client_awaitResults (ht : t.pending = none) (n : ℕ) :
    (client (t.awaitResults n), decide ((t.awaitResults n).pending = some .scanComplete)) =
      (client t).awaitResults n := by
  by_cases h : (t.uResultExpectedNumber + n) % 2 ^ 32 ≤ t.uResultCounter
  · have hc : (client t).awaitResults n = ((client t).expect n, true) := if_pos h
    rw [hc, Sys.awaitResults, if_pos h]
    rfl
  · have hc : (client t).awaitResults n =
        ({ (client t).expect n with bScanCompletePending := true }, false) := if_neg h
    rw [hc, Sys.awaitResults, if_neg h]
    refine Prod.ext rfl (decide_eq_false ?_)
    rw [ht]
    exact nofun

theorem client_scanCompleteNotificationCb (n spsStatus : ℕ) (bTsfError bOk : Bool) :
    ∃ u, t.scanCompleteNotificationCb n spsStatus bTsfError bOk = u.awaitResults n ∧
      client u = client t ∧ u.pending = t.pending ∧ u.log = t.log := by
  refine ⟨_, rfl, ?_, ?_, ?_⟩ <;>
    · cases bOk
      all_goals
        simp only [Bool.false_eq_true, if_false, if_true]
        split <;> rfl

theorem client_checkResults (ht : t.pending = none) :
    client t.checkResults = client t ∧
      decide (t.checkResults.pending = some .scanComplete) = (client t).allReceived := by
  unfold Sys.checkResults
  split
  · next h => exact ⟨rfl, h.symm⟩
  · next h =>
    refine ⟨rfl, ?_⟩
    rw [ht]
    exact (Bool.eq_false_of_not_eq_true h).symm

def isStart : Act P → Bool
  | .twdStartScan => true
  | _ => false

/-- From one state to another: the account is emptied if a scan was started, and is the given one
if not. -/
def Counts (t u : Sys P) (x : Client) : Prop :=
  ∃ l, u.log = t.log ++ l ∧ client u = if l.any isStart then .zero else x

theorem Counts.of_eq (hlog : u.log = t.log) : Counts t u (client u) :=
  ⟨[], by rw [hlog, List.append_nil], rfl⟩

theorem Counts.trans {v : Sys P} (h : Counts t u x) (h' : Counts u v (client u)) :
    Counts t v x := by
  obtain ⟨l, hl, hx⟩ := h
  obtain ⟨l', hl', hx'⟩ := h'
  refine ⟨l ++ l', by rw [hl', hl, List.append_assoc], ?_⟩
  rw [hx', hx, List.any_append]
  cases l.any isStart <;> cases l'.any isStart <;> rfl

theorem counts_calls (c : EScanCncnClient) (calls : List (ClientCall P)) :
    Counts t (calls.foldl (Sys.clientCall c) t) (client t) := by
  induction calls generalizing t with
  | nil => exact .of_eq rfl
  | cons call calls ih =>
    have hcall : Counts t (t.clientCall c call) (client t) := by
      cases call with
      | stop => exact .of_eq rfl
      | start req =>
        change Counts t (t.startCall req) (client t)
        unfold Sys.startCall
        dsimp only
        split <;> exact ⟨[_], rfl, rfl⟩
    exact hcall.trans ih

theorem counts_finalCb (c : EScanCncnClient) (a : Answers P) :
    Counts t (t.finalCb c a) (client t) := by
  unfold Sys.finalCb
  split
  · exact .of_eq rfl
  · exact .trans (u := t.emit (.finalCb t.eScanResult t.uSpsScanResult)) ⟨[_], rfl, rfl⟩
      (counts_calls c a.calls)

/-- No action but the start of a scan touches the account. -/
theorem counts_execute (c : EScanCncnClient) (a : Answers P) (e : SmEvent) :
    Counts t (t.execute c a e) (client t) := by
  unfold Sys.execute Sys.act
  generalize (tSmMatrix t.smState e).1 = smState
  cases (tSmMatrix t.smState e).2 with
  | requestScr =>
    dsimp only
    unfold Sys.scrRequest
    cases a.scrReply with
    | pend reason =>
      dsimp only
      split <;> exact .of_eq rfl
    | _ => exact .of_eq rfl
  | startScan =>
    dsimp only
    unfold Sys.startScan
    dsimp only
    split <;> exact ⟨[_], rfl, rfl⟩
  | stopScan =>
    dsimp only
    unfold Sys.stopScan
    dsimp only
    split <;> exact ⟨[_], rfl, rfl⟩
  | scanComplete | rejectScan => exact counts_finalCb c a
  | nop | actionUnexpected => exact .of_eq rfl
  | recovery =>
    refine Counts.trans ?_ (counts_finalCb c a)
    cases c
    case appOneShot | roamingCont | roamingImmed => exact ⟨[_], rfl, rfl⟩
    case appPeriodic | driver => exact .of_eq rfl

theorem counts_run {as : List (Answers P)} (h : Sys.run c as t = some u) :
    u.pending = none ∧ Counts t u (client t) := by
  induction as generalizing t with
  | nil =>
    unfold Sys.run at h
    split at h
    next hp =>
      cases h
      exact ⟨Option.isNone_iff_eq_none.mp hp, .of_eq rfl⟩
    next => cases h
  | cons a as ih =>
    cases hp : t.pending with
    | none =>
      unfold Sys.run at h
      rw [hp] at h
      cases h
      exact ⟨hp, .of_eq rfl⟩
    | some e =>
      unfold Sys.run at h
      rw [hp] at h
      obtain ⟨hu, hcounts⟩ := ih h
      exact ⟨hu, (counts_execute c a e).trans hcounts⟩

/-- What an input does to the account unless it starts a scan. -/
def receives (s : Client) : Sys.Input P → Client
  | .scanCompleteNotificationCb n _ _ _ | .periodicScanCompleteCb n => (s.awaitResults n).1
  | .periodicScanReportCb n => s.expect n
  | .mlmeResultCb => s.count
  | .start _ | .stop | .scrCb _ | .checkResults => s

theorem counts_step {i : Sys.Input P × List (Answers P)} (hp : t.pending = none)
    (h : Sys.step c t i = some u) : u.pending = none ∧ Counts t u (receives (client t) i.1) := by
  obtain ⟨i, as⟩ := i
  have hrun {v : Sys P} {x : Client} (hr : Sys.run c as v = some u) (hlog : v.log = t.log)
      (hx : client v = x) : u.pending = none ∧ Counts t u x :=
    ⟨(counts_run hr).1, hx ▸ (Counts.of_eq hlog).trans (counts_run hr).2⟩
  have hawait {v : Sys P} (n : ℕ) : (v.awaitResults n).log = v.log := by
    unfold Sys.awaitResults
    dsimp only
    split <;> rfl
  cases i with
  | start req =>
    change t.start c as req = some u at h
    unfold Sys.start at h
    dsimp only at h
    split at h
    · cases h
      exact ⟨hp, [_], rfl, rfl⟩
    · obtain ⟨v, hv, rfl⟩ := Option.map_eq_some_iff.mp h
      obtain ⟨hpv, hcounts⟩ := counts_run hv
      exact ⟨hpv, (Counts.of_eq rfl).trans (hcounts.trans ⟨[_], rfl, rfl⟩)⟩
  | stop => exact hrun h rfl rfl
  | scrCb status =>
    refine hrun h ?_ ?_ <;>
      · cases status
        case run | fwReset => rfl
        all_goals
          cases c <;> first | rfl | (unfold Sys.scrCb; dsimp only; split <;> rfl)
  | scanCompleteNotificationCb n spsStatus bTsfError bOk =>
    obtain ⟨v, hv, hclient, hpv, hlog⟩ :=
      client_scanCompleteNotificationCb (t := t) n spsStatus bTsfError bOk
    change Sys.run c as (t.scanCompleteNotificationCb n spsStatus bTsfError bOk) = some u at h
    rw [hv] at h
    refine hrun h ((hawait n).trans hlog) ?_
    have hx := congrArg Prod.fst (client_awaitResults (hpv.trans hp) n)
    rwa [hclient] at hx
  | periodicScanReportCb n =>
    cases h
    exact ⟨hp, .of_eq rfl⟩
  | periodicScanCompleteCb n =>
    exact hrun h (hawait n) (congrArg Prod.fst (client_awaitResults hp n))
  | mlmeResultCb =>
    cases h
    exact ⟨hp, .of_eq rfl⟩
  | checkResults =>
    refine hrun h ?_ (client_checkResults hp).1
    unfold Sys.checkResults
    split <;> rfl

/-- **In every run of the client** a step that starts a scan empties the account, and any other does
to it what `Client` says. -/
theorem follows_account (c : EScanCncnClient) (p : UScanParams P)
    (is : List (Sys.Input P × List (Answers P))) :
    Along (Sys.step c) (fun t i => ∀ u, Sys.step c t i = some u →
      Counts t u (receives (client t) i.1)) (Sys.init p) is :=
  Along.of_invariant (I := fun t => t.pending = none) (P := fun _ _ => True)
    (fun _ _ hp _ => ⟨fun _ h => (counts_step hp h).2, fun _ h => (counts_step hp h).1⟩) rfl
    (.of_forall fun _ _ => trivial)

end Machine

/-! ## Sample scans -/

/-- A client, where a plain `char` is signed or not. -/
def settings (charSigned : Bool) : Settings := ⟨.appPeriodic, [], false, fun _ => 0, -100, false, charSigned⟩

def badFrame : MlmeResult := ⟨none, none, 0⟩

/-- Two scans; in the first one a frame comes after the end is indicated. -/
def twoScans : List Input :=
  [.startScan, .arrives (.frame badFrame), .arrives (.periodicScanReport 1),
    .arrives (.periodicScanComplete 1), .arrives (.frame badFrame), .startScan,
    .arrives (.scanComplete 0)]

theorem accounted_twoScans :
    (∃ s, exec (step (settings true)) .start twoScans = some s ∧ Accounted s.log) := by
  have hfirst : ¬Ended [⟨.frame badFrame, false⟩, ⟨.periodicScanReport 1, false⟩] := by
    rintro ⟨e, he, hc⟩
    rcases List.mem_pair.mp he with rfl | rfl <;> exact nomatch hc
  have hkeeps : Along (step (settings true)) (Keeps (settings true)) .start twoScans := by
    refine ⟨trivial, fun _ h => ?_⟩
    cases h
    refine ⟨⟨by decide, by decide⟩, fun _ h => ?_⟩
    cases h
    refine ⟨⟨⟨.inr (by decide), fun hd => ?_⟩, by decide⟩, fun _ h => ?_⟩
    · obtain ⟨e, he, hc⟩ := hd.1
      rw [List.mem_singleton.mp he] at hc
      exact nomatch hc
    cases h
    refine ⟨⟨hfirst, by decide⟩, fun _ h => ?_⟩
    cases h
    refine ⟨⟨by decide, by decide⟩, fun _ h => ?_⟩
    cases h
    refine ⟨trivial, fun _ h => ?_⟩
    cases h
    exact ⟨⟨not_ended_nil, by decide⟩, fun _ _ => trivial⟩
  exact ⟨_, rfl, accounted hkeeps rfl⟩

/-- The end is indicated before a report with one frame: the two events come in one reading of the
mailbox. -/
def lateReport : List Input :=
  [.startScan, .arrives (.periodicScanComplete 1), .arrives (.frame badFrame),
    .arrives (.periodicScanReport 1), .arrives (.frame badFrame)]

/-- A report of 128 frames, then 128 more with the end. -/
def largeCount : List Input :=
  [.startScan, .arrives (.periodicScanReport 128), .arrives (.periodicScanComplete 128)]

/-- With the late report the event is sent twice; with the large count, as a signed number, before
any frame is there. -/
theorem scans_miscounted :
    (∃ s, exec (step (settings false)) .start lateReport = some s ∧
      s.log.countP (·.sent) = 2 ∧ ¬Accounted s.log) ∧
    ∃ s, exec (step (settings true)) .start largeCount = some s ∧
      s.log.countP (·.sent) = 1 ∧ frames s.log = 0 ∧ reported s.log = 256 ∧ ¬Accounted s.log := by
  refine ⟨⟨_, rfl, rfl, fun h => ?_⟩, _, rfl, rfl, rfl, rfl, fun h => ?_⟩
  · have htwo := h.once ⟨⟨_, List.mem_cons_self, rfl⟩, Nat.le_refl 2⟩
    exact absurd htwo (by decide)
  · have hzero := h.none fun hd => absurd hd.2 (by decide)
    exact absurd hzero (by decide)

end ArchosGpl.Wlan.ScanCncn.Results
