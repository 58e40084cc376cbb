import ArchosGpl.Lib.RunningSum
import ArchosGpl.Wlan.Sme.Model
import Mathlib.Data.UInt

/-!
# The length of the connection scan (`Connection_Managment/smeSm.c`)

`sme_updateScanCycles` sets the intervals and the number of cycles of the scan command. A division
by zero and a read behind an array are faults of the model, the sums are those of 32-bit words.
`Counted` says which number of cycles the command should have while a country is valid: the least
one whose intervals reach the expiry, or one more; for other than infrastructure BSSes it is one.
**`scanLength_iff`** says for every state and every input when a call has no fault and gives such a
number: no division by zero, no allocation that fails and leaves a wrong number, and sums whose wrap
does no harm (`CountFits`). **`scanLength_fails`**: all four go wrong for some inputs.
-/

namespace ArchosGpl.Wlan.Sme.ScanCycles

open Lib.RunningSum

/-! ## The data -/

abbrev periodicScanMaxIntervalNum : ℕ := 16

abbrev Intervals : Type := Fin periodicScanMaxIntervalNum → UInt32

/-- What a call can do that C does not define. -/
inductive Fault
  | divideByZero
  | outOfBounds
  deriving DecidableEq

structure TPeriodicScanParams where
  uCycleNum : UInt32
  uCycleIntervalMsec : Intervals
  uMaxDwellTimeMs : List UInt32

structure TSmeInitParams where
  uScanIntervals : Intervals
  uCycleNum : UInt32

/-- `TSme`. The count is reset to zero, or goes up by one while it is below the number of
intervals. -/
structure TSme where
  uScanCount : ℕ
  uScanCount_le : uScanCount ≤ periodicScanMaxIntervalNum
  eBssType : ScanBssType
  bConstantScan : Bool
  tInitParams : TSmeInitParams
  tScanParams : TPeriodicScanParams

/-- The inputs of a call: the state of 802.11d, whether a country is valid, push-button mode,
whether the memory for the query is there, and the time to the expiry of the country. -/
structure Inputs where
  bDEnabled : Bool
  bCountryValid : Bool
  bConstantScan : Bool
  allocated : Bool
  uTimeToCountryExpiryMs : UInt32

/-! ## The code -/

/-- `smeSm_PreConnect` counts the scan that it started. -/
def TSme.countScan (s : TSme) : TSme :=
  if h : s.uScanCount < periodicScanMaxIntervalNum then
    { s with
      uScanCount := s.uScanCount + 1
      uScanCount_le := h }
  else s

/-- The entry of `uScanIntervals` that becomes an entry of the command: copied from the count on,
the last one behind. -/
def sourceIndex (uScanCount uIndex : ℕ) : ℕ :=
  if uIndex < periodicScanMaxIntervalNum - uScanCount then uScanCount + uIndex
  else periodicScanMaxIntervalNum - 1

def copyIntervals (uScanIntervals : Intervals) (uScanCount : ℕ) : Except Fault Intervals :=
  if h : ∀ i : Fin periodicScanMaxIntervalNum,
      sourceIndex uScanCount i < periodicScanMaxIntervalNum then
    .ok fun i => uScanIntervals ⟨sourceIndex uScanCount i, h i⟩
  else .error .outOfBounds

def divide (a b : UInt32) : Except Fault UInt32 :=
  if b = 0 then .error .divideByZero else .ok (a / b)

/-- An interval of the command, and the last one for every cycle behind. -/
def Intervals.interval (a : Intervals) (uIndex : ℕ) : UInt32 :=
  a ⟨min uIndex (periodicScanMaxIntervalNum - 1),
    Nat.lt_of_le_of_lt (Nat.min_le_right _ _) (by decide)⟩

/-- The loop of `sme_CalculateCyclesNumber`, with `n` intervals to go: `uCycleNum` and
`uCurrentTimeMs` behind it. -/
def fitLoop (a : Intervals) (uTotalTimeMs : UInt32) : ℕ → ℕ → UInt32 → UInt32 → UInt32 × UInt32
  | 0, _, uCycleNum, uCurrentTimeMs => (uCycleNum, uCurrentTimeMs)
  | n + 1, uIndex, uCycleNum, uCurrentTimeMs =>
    if uCurrentTimeMs < uTotalTimeMs then
      fitLoop a uTotalTimeMs n (uIndex + 1) (uCycleNum + 1) (uCurrentTimeMs + a.interval uIndex)
    else (uCycleNum, uCurrentTimeMs)

def calculateCyclesNumber (a : Intervals) (uTotalTimeMs : UInt32) : Except Fault UInt32 :=
  let (uCycleNum, uCurrentTimeMs) := fitLoop a uTotalTimeMs periodicScanMaxIntervalNum 0 0 0
  if uCurrentTimeMs < uTotalTimeMs then do
    let more ← divide (uTotalTimeMs - uCurrentTimeMs) (a.interval (periodicScanMaxIntervalNum - 1))
    .ok (uCycleNum + more + 1)
  else .ok uCycleNum

def scanDurationMs (uMaxDwellTimeMs : List UInt32) : UInt32 :=
  uMaxDwellTimeMs.foldl (fun sum dwell => sum + dwell) 0

/-- The command with new intervals and a new number of cycles. -/
def TSme.setCycles (s : TSme) (a : Intervals) (uCycleNum : UInt32) : TSme :=
  { s with tScanParams := { s.tScanParams with uCycleIntervalMsec := a, uCycleNum := uCycleNum } }

/-- 802.11d is disabled, or no country is valid. -/
def TSme.updateForever (s : TSme) (bConstantScan : Bool) : Except Fault TSme :=
  if bConstantScan then do
    let cycles ← divide 120000 (scanDurationMs s.tScanParams.uMaxDwellTimeMs)
    .ok (s.setCycles (fun _ => 0) (cycles + 1))
  else do
    let a ← copyIntervals s.tInitParams.uScanIntervals s.uScanCount
    .ok (s.setCycles a s.tInitParams.uCycleNum)

/-- A country is valid. -/
def TSme.updateToExpiry (s : TSme) (bConstantScan : Bool) (uTimeToCountryExpiryMs : UInt32) :
    Except Fault TSme :=
  if bConstantScan then
    let s := { s with bConstantScan := false }
    let uScanDurationMs := scanDurationMs s.tScanParams.uMaxDwellTimeMs
    if uScanDurationMs ≠ 0 then do
      let cycles ← divide (min 120000 uTimeToCountryExpiryMs) uScanDurationMs
      .ok (s.setCycles (fun _ => 0) (cycles + 1))
    else .ok (s.setCycles (fun _ => 0) s.tInitParams.uCycleNum)
  else do
    let a ← copyIntervals s.tInitParams.uScanIntervals s.uScanCount
    let uCycleNum ← calculateCyclesNumber a uTimeToCountryExpiryMs
    .ok (s.setCycles a uCycleNum)

/-- The last lines: other than infrastructure BSSes are scanned for one cycle. -/
def TSme.limitCycles (s : TSme) : TSme :=
  if s.eBssType = .infrastructure then s else s.setCycles s.tScanParams.uCycleIntervalMsec 1

def TSme.updateScanCycles (s : TSme) (i : Inputs) : Except Fault TSme :=
  if !i.bDEnabled || !i.bCountryValid then
    (s.updateForever i.bConstantScan).map TSme.limitCycles
  else if i.allocated then
    (s.updateToExpiry i.bConstantScan i.uTimeToCountryExpiryMs).map TSme.limitCycles
  else .ok s

/-! ## The property -/

def Intervals.ms (a : Intervals) (uIndex : ℕ) : ℕ := (a.interval uIndex).toNat

/-- The number of cycles is the least one that reaches the expiry, or one more; it is one for other
than infrastructure BSSes. -/
def TSme.Counted (s : TSme) (uTimeToCountryExpiryMs : UInt32) : Prop :=
  if s.eBssType = .infrastructure then
    ∃ k,
      IsLeast {n | uTimeToCountryExpiryMs.toNat ≤ total s.tScanParams.uCycleIntervalMsec.ms n} k ∧
      (s.tScanParams.uCycleNum.toNat = k ∨ s.tScanParams.uCycleNum.toNat = k + 1)
  else s.tScanParams.uCycleNum = 1

/-- The call has no fault, and while a country is valid the number of cycles is right. -/
def ScanLength (s : TSme) (i : Inputs) : Prop :=
  ∃ s', s.updateScanCycles i = .ok s' ∧
    (i.bDEnabled = true → i.bCountryValid = true → i.bConstantScan = false →
      s'.Counted i.uTimeToCountryExpiryMs)

/-! ## The condition -/

/-- The configured intervals from the count on, then the last one. -/
def TSme.shifted (s : TSme) : Intervals := fun i =>
  s.tInitParams.uScanIntervals ⟨min (s.uScanCount + i) (periodicScanMaxIntervalNum - 1),
    Nat.lt_of_le_of_lt (Nat.min_le_right _ _) (by decide)⟩

/-- The sum wraps in the cycle that reaches the expiry, no other one reaches it, and the number of
cycles wraps to a right one. -/
def Coincides (f : ℕ → ℕ) (t k : ℕ) : Prop :=
  (∀ j ≤ 16, total f j % 2 ^ 32 < t) ∧ f 15 = 1 ∧
    (t + 17 = 2 ^ 32 + total f 16 % 2 ^ 32 + k ∨ t + 16 = 2 ^ 32 + total f 16 % 2 ^ 32 + k)

/-- The cycle that reaches the expiry does not make the sum wrap, or the next one makes up for it;
if the 16 cycles do not reach it the last interval is not zero and the number does not wrap. -/
structure CountFits (f : ℕ → ℕ) (t : ℕ) : Prop where
  within : ∀ k ≤ 16, IsLeast {n | t ≤ total f n} k →
    total f k < 2 ^ 32 ∨ (k < 16 ∧ t ≤ total f (k + 1) % 2 ^ 32) ∨
      (k = 16 ∧ t + 2 ^ 32 < total f 17) ∨ Coincides f t k
  behind : total f 16 < t → f 15 ≠ 0 ∧ 17 + (t - total f 16) / f 15 < 2 ^ 32

/-- The inputs for which a call does what it should. -/
structure Fits (s : TSme) (i : Inputs) : Prop where
  dwell : (i.bDEnabled && i.bCountryValid) = false → i.bConstantScan = true →
    (s.tScanParams.uMaxDwellTimeMs.map UInt32.toNat).sum % 2 ^ 32 ≠ 0
  stale : (i.bDEnabled && i.bCountryValid) = true → i.bConstantScan = false →
    i.allocated = false → s.Counted i.uTimeToCountryExpiryMs
  last : (i.bDEnabled && i.bCountryValid) = true → i.bConstantScan = false → i.allocated = true →
    (∀ j ≤ 16, total s.shifted.ms j % 2 ^ 32 < i.uTimeToCountryExpiryMs.toNat) → s.shifted.ms 15 ≠ 0
  count : (i.bDEnabled && i.bCountryValid) = true → i.bConstantScan = false → i.allocated = true →
    s.eBssType = .infrastructure → CountFits s.shifted.ms i.uTimeToCountryExpiryMs.toNat

/-! ## Sums that wrap -/

section Sums

variable {f : ℕ → ℕ} {t m : ℕ}

theorem wrapped_at {k : ℕ} (hf : ∀ i, f i < 2 ^ 32) (hk : IsLeast {n | t ≤ total f n} k)
    (ht : t < 2 ^ 32) (hwrap : 2 ^ 32 ≤ total f k) : total f k % 2 ^ 32 < t := by
  refine wrapped_lt hk (Nat.pos_of_ne_zero ?_) (hf _) ht hwrap
  rintro rfl
  rw [total_zero] at hwrap
  exact absurd hwrap (by decide)

theorem countFits_of_stop (hf : ∀ i, f i < 2 ^ 32) (ht : t < 2 ^ 32) (hm : m ≤ 16)
    (hreach : t ≤ total f m % 2 ^ 32) (hbefore : ∀ j < m, total f j % 2 ^ 32 < t) :
    (∃ k, IsLeast {n | t ≤ total f n} k ∧ (m = k ∨ m = k + 1)) ↔ CountFits f t := by
  obtain ⟨k, hkm, hk⟩ := exists_isLeast (hreach.trans (Nat.mod_le _ _))
  have hunique : ∀ k', IsLeast {n | t ≤ total f n} k' → k' = k := fun k' h => h.unique hk
  have hreached : t ≤ total f k := hk.1
  constructor
  · rintro ⟨k', hk', hcount⟩
    obtain rfl := hunique k' hk'
    refine ⟨fun k'' _ hk'' => ?_, fun hbelow => ?_⟩
    · obtain rfl := hunique k'' hk''
      by_cases hwrap : total f k'' < 2 ^ 32
      · exact Or.inl hwrap
      · have hlt := wrapped_at hf hk'' ht (Nat.le_of_not_lt hwrap)
        rcases hcount with rfl | rfl
        · exact absurd hreach (Nat.not_le.mpr hlt)
        · exact Or.inr (Or.inl ⟨hm, hreach⟩)
    · exact absurd (hreached.trans (total_mono (hkm.trans hm))) (Nat.not_le.mpr hbelow)
  · intro h
    refine ⟨k, hk, ?_⟩
    rcases h.within k (hkm.trans hm) hk with hfit | ⟨-, hnext⟩ | ⟨rfl, -⟩ | hco
    · refine Or.inl (Nat.le_antisymm (Nat.le_of_not_lt fun hlt => ?_) hkm)
      have := hbefore k hlt
      rw [Nat.mod_eq_of_lt hfit] at this
      exact absurd hreached (Nat.not_le.mpr this)
    · have hle : m ≤ k + 1 := Nat.le_of_not_lt fun hlt =>
        absurd hnext (Nat.not_le.mpr (hbefore (k + 1) hlt))
      omega
    · exact Or.inl (Nat.le_antisymm hm hkm)
    · exact absurd hreach (Nat.not_le.mpr (hco.1 m hm))

theorem wrapped_count_iff {k : ℕ} (hk16 : k ≤ 16) (hk : IsLeast {n | t ≤ total f n} k)
    (ht : t < 2 ^ 32) (hf : ∀ i, f i < 2 ^ 32) (hall : ∀ j ≤ 16, total f j % 2 ^ 32 < t)
    (htail : f 16 = f 15) (hlast : 0 < f 15) :
    ((17 + (t - total f 16 % 2 ^ 32) / f 15) % 2 ^ 32 = k ∨
      (17 + (t - total f 16 % 2 ^ 32) / f 15) % 2 ^ 32 = k + 1) ↔
      k = 16 ∧ t + 2 ^ 32 < total f 17 ∨ Coincides f t k := by
  have hreached : t ≤ total f k := hk.1
  have hwrap : 2 ^ 32 ≤ total f k := by
    by_contra hlt
    have := hall k hk16
    rw [Nat.mod_eq_of_lt (Nat.lt_of_not_le hlt)] at this
    omega
  have hr := hall 16 (Nat.le_refl 16)
  have h17 : total f 17 = total f 16 + f 15 := by rw [← htail]; exact total_succ
  have hone : k = 16 → total f 16 % 2 ^ 32 = total f 16 - 2 ^ 32 := by
    rintro rfl
    have h15 : total f 15 < t := (isLeast_iff.mp hk).2 15 (by decide)
    have h16 : total f 16 = total f 15 + f 15 := total_succ
    have := hf 15
    omega
  have hdiv := Nat.div_add_mod' (t - total f 16 % 2 ^ 32) (f 15)
  have hmod := Nat.mod_lt (t - total f 16 % 2 ^ 32) hlast
  constructor
  · intro hcount
    generalize (t - total f 16 % 2 ^ 32) / f 15 = q at hdiv hcount
    by_cases hsmall : 17 + q < 2 ^ 32
    · rw [Nat.mod_eq_of_lt hsmall] at hcount
      obtain ⟨rfl, rfl⟩ : k = 16 ∧ q = 0 := by omega
      have hrest := hone rfl
      rw [Nat.zero_mul, Nat.zero_add] at hdiv
      rw [hdiv] at hmod
      exact Or.inl ⟨rfl, by omega⟩
    · -- a quotient as large as this is by one
      have hL : f 15 = 1 := by
        by_contra hne
        have hle := Nat.mul_le_mul_left q (show 2 ≤ f 15 by omega)
        omega
      rw [hL, Nat.mul_one, Nat.mod_one, Nat.add_zero] at hdiv
      exact Or.inr ⟨hall, hL, by omega⟩
  · rintro (⟨rfl, hmissing⟩ | ⟨-, hL, hsum⟩)
    · have hrest := hone rfl
      rw [Nat.div_eq_of_lt (by omega)]
      exact Or.inr rfl
    · rw [hL, Nat.div_one]
      omega

theorem countFits_of_behind (hf : ∀ i, f i < 2 ^ 32) (ht : t < 2 ^ 32)
    (hall : ∀ j ≤ 16, total f j % 2 ^ 32 < t) (htail : ∀ i, 15 ≤ i → f i = f 15)
    (hlast : 0 < f 15) :
    (∃ k, IsLeast {n | t ≤ total f n} k ∧
      ((17 + (t - total f 16 % 2 ^ 32) / f 15) % 2 ^ 32 = k ∨
        (17 + (t - total f 16 % 2 ^ 32) / f 15) % 2 ^ 32 = k + 1)) ↔ CountFits f t := by
  by_cases hbelow : total f 16 < t
  · rw [Nat.mod_eq_of_lt (hbelow.trans ht)]
    have hk := isLeast_of_tail (fun i hi => htail i (Nat.le_trans (by decide) hi)) hlast hbelow
    have hq : (t - total f 16) / f 15 < 2 ^ 32 :=
      Nat.lt_of_le_of_lt (Nat.div_le_self _ _) (Nat.lt_of_le_of_lt (Nat.sub_le _ _) ht)
    constructor
    · rintro ⟨k, hk', hcount⟩
      have hsame := hk'.unique hk
      refine ⟨fun k'' hk16 hk'' => ?_, fun _ => ⟨Nat.ne_of_gt hlast, ?_⟩⟩
      · exact absurd (hk''.1.trans (total_mono hk16)) (Nat.not_le.mpr hbelow)
      · split at hsame <;> omega
    · intro h
      refine ⟨_, hk, ?_⟩
      rw [Nat.mod_eq_of_lt (h.behind hbelow).2]
      split <;> omega
  · obtain ⟨k, hk16, hk⟩ := exists_isLeast (Nat.le_of_not_lt hbelow)
    have hiff := wrapped_count_iff hk16 hk ht hf hall (htail 16 (by decide)) hlast
    constructor
    · rintro ⟨k', hk', hcount⟩
      obtain rfl := hk'.unique hk
      refine ⟨fun k'' _ hk'' => ?_, fun h => absurd h hbelow⟩
      obtain rfl := hk''.unique hk
      exact Or.inr (Or.inr (hiff.mp hcount))
    · intro h
      refine ⟨k, hk, hiff.mpr ?_⟩
      rcases h.within k hk16 hk with hfit | ⟨hlt, hnext⟩ | hrest
      · have := hall k hk16
        rw [Nat.mod_eq_of_lt hfit] at this
        exact absurd hk.1 (Nat.not_le.mpr this)
      · exact absurd hnext (Nat.not_le.mpr (hall (k + 1) hlt))
      · exact hrest

end Sums

/-! ## The functions -/

variable {a : Intervals} {s : TSme} {i : Inputs} {uTotalTimeMs : UInt32}

theorem ms_lt (a : Intervals) (j : ℕ) : a.ms j < 2 ^ 32 := UInt32.toNat_lt _

theorem ms_tail (a : Intervals) {j : ℕ} (hj : 15 ≤ j) : a.ms j = a.ms 15 := by
  have hmin : min j 15 = min 15 15 := by rw [Nat.min_eq_right hj, Nat.min_self]
  rw [Intervals.ms, Intervals.ms, Intervals.interval, Intervals.interval]
  simp only [periodicScanMaxIntervalNum, hmin]

theorem copyIntervals_eq (s : TSme) :
    copyIntervals s.tInitParams.uScanIntervals s.uScanCount = .ok s.shifted := by
  have hle : s.uScanCount ≤ 16 := s.uScanCount_le
  have hsource : ∀ j, sourceIndex s.uScanCount j = min (s.uScanCount + j) 15 := by
    intro j
    unfold sourceIndex periodicScanMaxIntervalNum
    split <;> omega
  have hall : ∀ j : Fin periodicScanMaxIntervalNum,
      sourceIndex s.uScanCount j < periodicScanMaxIntervalNum := by
    intro j
    rw [hsource]
    exact Nat.lt_of_le_of_lt (Nat.min_le_right _ _) (by decide)
  rw [copyIntervals, dif_pos hall]
  congr 1
  funext j
  rw [TSme.shifted]
  congr 1
  exact Fin.ext (hsource j)

/-- The loop stops at the first index at which the sum in a word reaches the time, or behind the
command. -/
theorem fitLoop_spec (a : Intervals) (uTotalTimeMs : UInt32) (n j : ℕ) :
    ∃ m, j ≤ m ∧ m ≤ j + n ∧
      fitLoop a uTotalTimeMs n j (UInt32.ofNat j) (UInt32.ofNat (total a.ms j)) =
        (UInt32.ofNat m, UInt32.ofNat (total a.ms m)) ∧
      (∀ x, j ≤ x → x < m → total a.ms x % 2 ^ 32 < uTotalTimeMs.toNat) ∧
      (m = j + n ∨ uTotalTimeMs.toNat ≤ total a.ms m % 2 ^ 32) := by
  induction n generalizing j with
  | zero =>
    exact ⟨j, Nat.le_refl j, Nat.le_refl j, rfl, fun x h h' => absurd h (Nat.not_le.mpr h'),
      Or.inl rfl⟩
  | succ n ih =>
    rw [fitLoop]
    by_cases hlt : total a.ms j % 2 ^ 32 < uTotalTimeMs.toNat
    · have hword : UInt32.ofNat (total a.ms j) < uTotalTimeMs := by
        rwa [UInt32.lt_iff_toNat_lt, UInt32.toNat_ofNat']
      have hnext : UInt32.ofNat (total a.ms j) + a.interval j =
          UInt32.ofNat (total a.ms (j + 1)) := by
        rw [total_succ, UInt32.ofNat_add, Intervals.ms, UInt32.ofNat_toNat]
      rw [if_pos hword, hnext]
      obtain ⟨m, hjm, hm, heq, hbefore, hstop⟩ := ih (j + 1)
      refine ⟨m, by omega, by omega, by rw [← heq, UInt32.ofNat_add]; rfl, fun x hx hxm => ?_,
        by omega⟩
      rcases Nat.eq_or_lt_of_le hx with rfl | hx
      · exact hlt
      · exact hbefore x hx hxm
    · have hword : ¬UInt32.ofNat (total a.ms j) < uTotalTimeMs := by
        rwa [UInt32.lt_iff_toNat_lt, UInt32.toNat_ofNat']
      rw [if_neg hword]
      exact ⟨j, Nat.le_refl j, Nat.le_add_right _ _, rfl,
        fun x h h' => absurd h (Nat.not_le.mpr h'), Or.inr (Nat.le_of_not_lt hlt)⟩

theorem calculateCyclesNumber_spec (a : Intervals) (uTotalTimeMs : UInt32) :
    (∃ m ≤ 16, uTotalTimeMs.toNat ≤ total a.ms m % 2 ^ 32 ∧
      (∀ j < m, total a.ms j % 2 ^ 32 < uTotalTimeMs.toNat) ∧
      calculateCyclesNumber a uTotalTimeMs = .ok (UInt32.ofNat m)) ∨
    ((∀ j ≤ 16, total a.ms j % 2 ^ 32 < uTotalTimeMs.toNat) ∧
      calculateCyclesNumber a uTotalTimeMs =
        if a.ms 15 = 0 then .error .divideByZero
        else
          .ok (UInt32.ofNat (17 + (uTotalTimeMs.toNat - total a.ms 16 % 2 ^ 32) / a.ms 15))) := by
  obtain ⟨m, -, hm, heq, hbefore, hstop⟩ := fitLoop_spec a uTotalTimeMs 16 0
  have hloop : fitLoop a uTotalTimeMs periodicScanMaxIntervalNum 0 0 0 =
      (UInt32.ofNat m, UInt32.ofNat (total a.ms m)) := by
    rw [← heq, total_zero]
    rfl
  have hless : UInt32.ofNat (total a.ms m) < uTotalTimeMs ↔
      total a.ms m % 2 ^ 32 < uTotalTimeMs.toNat := by
    rw [UInt32.lt_iff_toNat_lt, UInt32.toNat_ofNat']
  rw [calculateCyclesNumber, hloop]
  dsimp only
  by_cases hlt : total a.ms m % 2 ^ 32 < uTotalTimeMs.toNat
  · -- the loop went through the command
    obtain rfl : m = 16 := by omega
    refine Or.inr ⟨fun j hj => ?_, ?_⟩
    · rcases Nat.eq_or_lt_of_le hj with rfl | hj
      · exact hlt
      · exact hbefore j (Nat.zero_le j) hj
    · rw [if_pos (hless.mpr hlt), divide]
      have hlast : a.interval (periodicScanMaxIntervalNum - 1) = 0 ↔ a.ms 15 = 0 :=
        UInt32.toNat_inj.symm
      by_cases hzero : a.ms 15 = 0
      · rw [if_pos (hlast.mpr hzero), if_pos hzero]
        rfl
      · rw [if_neg (mt hlast.mp hzero), if_neg hzero]
        refine congrArg Except.ok (UInt32.toNat_inj.mp ?_)
        have hrest : (uTotalTimeMs - UInt32.ofNat (total a.ms 16)).toNat =
            uTotalTimeMs.toNat - total a.ms 16 % 2 ^ 32 := by
          rw [UInt32.toNat_sub_of_le _ _ (UInt32.le_of_lt (hless.mpr hlt)), UInt32.toNat_ofNat']
        have hq : ((uTotalTimeMs - UInt32.ofNat (total a.ms 16)) /
            a.interval (periodicScanMaxIntervalNum - 1)).toNat =
              (uTotalTimeMs.toNat - total a.ms 16 % 2 ^ 32) / a.ms 15 := by
          rw [UInt32.toNat_div, hrest]
          rfl
        rw [UInt32.toNat_add, UInt32.toNat_add, hq, UInt32.toNat_ofNat', UInt32.toNat_ofNat']
        have hone : (1 : UInt32).toNat = 1 := rfl
        rw [hone]
        omega
  · rw [if_neg (mt hless.mp hlt)]
    exact Or.inl ⟨m, by omega, Nat.le_of_not_lt hlt, fun j hj => hbefore j (Nat.zero_le j) hj, rfl⟩

theorem calculateCyclesNumber_ok_iff (a : Intervals) (uTotalTimeMs : UInt32) :
    (∃ n, calculateCyclesNumber a uTotalTimeMs = .ok n) ↔
      ((∀ j ≤ 16, total a.ms j % 2 ^ 32 < uTotalTimeMs.toNat) → a.ms 15 ≠ 0) := by
  rcases calculateCyclesNumber_spec a uTotalTimeMs with
    ⟨m, hm, hreach, -, heq⟩ | ⟨hall, heq⟩
  · exact iff_of_true ⟨_, heq⟩ fun hall => absurd hreach (Nat.not_le.mpr (hall m hm))
  · rw [heq]
    by_cases hzero : a.ms 15 = 0
    · rw [if_pos hzero]
      exact iff_of_false (fun ⟨_, h⟩ => nomatch h) fun h => h hall hzero
    · rw [if_neg hzero]
      exact iff_of_true ⟨_, rfl⟩ fun _ => hzero

theorem calculateCyclesNumber_right_iff {n : UInt32}
    (h : calculateCyclesNumber a uTotalTimeMs = .ok n) :
    (∃ k, IsLeast {n | uTotalTimeMs.toNat ≤ total a.ms n} k ∧ (n.toNat = k ∨ n.toNat = k + 1)) ↔
      CountFits a.ms uTotalTimeMs.toNat := by
  have ht : uTotalTimeMs.toNat < 2 ^ 32 := uTotalTimeMs.toNat_lt
  rcases calculateCyclesNumber_spec a uTotalTimeMs with
    ⟨m, hm, hreach, hbefore, heq⟩ | ⟨hall, heq⟩
  · obtain rfl := Except.ok.inj (heq.symm.trans h)
    rw [UInt32.toNat_ofNat', Nat.mod_eq_of_lt (by omega)]
    exact countFits_of_stop (ms_lt a) ht hm hreach hbefore
  · rw [heq] at h
    by_cases hzero : a.ms 15 = 0
    · rw [if_pos hzero] at h
      cases h
    · rw [if_neg hzero] at h
      obtain rfl := Except.ok.inj h
      rw [UInt32.toNat_ofNat']
      exact countFits_of_behind (ms_lt a) ht hall (fun j => ms_tail a) (Nat.pos_of_ne_zero hzero)

theorem scanDurationMs_eq (l : List UInt32) :
    scanDurationMs l = UInt32.ofNat (l.map UInt32.toNat).sum := by
  have hfold : ∀ (l : List UInt32) (n : ℕ),
      l.foldl (fun sum dwell => sum + dwell) (UInt32.ofNat n) =
        UInt32.ofNat (n + (l.map UInt32.toNat).sum) := by
    intro l
    induction l with
    | nil => intro n; rfl
    | cons dwell l ih =>
      intro n
      rw [List.foldl_cons, List.map_cons, List.sum_cons, ← Nat.add_assoc, ← ih, UInt32.ofNat_add,
        UInt32.ofNat_toNat]
  have := hfold l 0
  rwa [Nat.zero_add] at this

theorem scanDurationMs_eq_zero {l : List UInt32} :
    scanDurationMs l = 0 ↔ (l.map UInt32.toNat).sum % 2 ^ 32 = 0 := by
  rw [scanDurationMs_eq, UInt32.ofNat_eq_iff_mod_eq_toNat]
  rfl

/-! ## The call -/

theorem updateForever_ok_iff (s : TSme) (bConstantScan : Bool) :
    (∃ s', s.updateForever bConstantScan = .ok s') ↔
      (bConstantScan = true →
        (s.tScanParams.uMaxDwellTimeMs.map UInt32.toNat).sum % 2 ^ 32 ≠ 0) := by
  rw [TSme.updateForever]
  cases bConstantScan with
  | false =>
    rw [if_neg Bool.false_ne_true, copyIntervals_eq]
    exact iff_of_true ⟨_, rfl⟩ nofun
  | true =>
    rw [if_pos rfl, divide, Ne, ← scanDurationMs_eq_zero]
    split
    next hzero => exact iff_of_false (fun ⟨_, h⟩ => nomatch h) fun h => h rfl hzero
    next hne => exact iff_of_true ⟨_, rfl⟩ fun _ => hne

theorem updateToExpiry_constant (s : TSme) (uTimeToCountryExpiryMs : UInt32) :
    ∃ s', s.updateToExpiry true uTimeToCountryExpiryMs = .ok s' := by
  rw [TSme.updateToExpiry, if_pos rfl]
  dsimp only
  split
  next hne =>
    rw [divide, if_neg hne]
    exact ⟨_, rfl⟩
  · exact ⟨_, rfl⟩

theorem updateToExpiry_intervals (s : TSme) (uTimeToCountryExpiryMs : UInt32) :
    s.updateToExpiry false uTimeToCountryExpiryMs =
      (calculateCyclesNumber s.shifted uTimeToCountryExpiryMs).map (s.setCycles s.shifted) := by
  rw [TSme.updateToExpiry, if_neg Bool.false_ne_true, copyIntervals_eq]
  change (calculateCyclesNumber s.shifted uTimeToCountryExpiryMs).bind _ = _
  cases calculateCyclesNumber s.shifted uTimeToCountryExpiryMs with
  | error _ => rfl
  | ok _ => rfl

@[simp] theorem setCycles_eBssType (s : TSme) (a : Intervals) (n : UInt32) :
    (s.setCycles a n).eBssType = s.eBssType := rfl

theorem counted_setCycles {n : UInt32} {uTimeToCountryExpiryMs : UInt32}
    (h : calculateCyclesNumber s.shifted uTimeToCountryExpiryMs = .ok n) :
    (s.setCycles s.shifted n).limitCycles.Counted uTimeToCountryExpiryMs ↔
      (s.eBssType = .infrastructure → CountFits s.shifted.ms uTimeToCountryExpiryMs.toNat) := by
  by_cases hbss : s.eBssType = .infrastructure
  · have hlimit : (s.setCycles s.shifted n).limitCycles = s.setCycles s.shifted n := if_pos hbss
    rw [hlimit, TSme.Counted, setCycles_eBssType, if_pos hbss, forall_prop_of_true hbss]
    exact calculateCyclesNumber_right_iff h
  · have hlimit : (s.setCycles s.shifted n).limitCycles = s.setCycles s.shifted 1 := if_neg hbss
    rw [hlimit, TSme.Counted, setCycles_eBssType, if_neg hbss]
    exact iff_of_true rfl fun h => absurd h hbss

theorem exists_map_ok {α β ε : Type} {x : Except ε α} {f : α → β} {P : β → Prop} :
    (∃ b, x.map f = .ok b ∧ P b) ↔ ∃ a, x = .ok a ∧ P (f a) := by
  cases x with
  | error e => exact iff_of_false (fun ⟨_, h, _⟩ => nomatch h) fun ⟨_, h, _⟩ => nomatch h
  | ok a =>
    constructor
    · rintro ⟨b, hb, hP⟩
      exact ⟨a, rfl, Except.ok.inj hb ▸ hP⟩
    · rintro ⟨a', ha, hP⟩
      obtain rfl := Except.ok.inj ha
      exact ⟨_, rfl, hP⟩

theorem scanLength_forever (hknown : (i.bDEnabled && i.bCountryValid) = false) :
    ScanLength s i ↔ (i.bConstantScan = true →
      (s.tScanParams.uMaxDwellTimeMs.map UInt32.toNat).sum % 2 ^ 32 ≠ 0) := by
  have hbranch : (!i.bDEnabled || !i.bCountryValid) = true := by
    rw [← Bool.not_and, hknown]
    rfl
  rw [ScanLength, TSme.updateScanCycles, if_pos hbranch, exists_map_ok, ← updateForever_ok_iff]
  refine exists_congr fun s' => and_iff_left fun hD hvalid => ?_
  rw [hD, hvalid] at hknown
  cases hknown

theorem scanLength_toExpiry (hknown : (i.bDEnabled && i.bCountryValid) = true)
    (halloc : i.allocated = true) (hoff : i.bConstantScan = false) :
    ScanLength s i ↔
      ((∀ j ≤ 16, total s.shifted.ms j % 2 ^ 32 < i.uTimeToCountryExpiryMs.toNat) →
        s.shifted.ms 15 ≠ 0) ∧
      (s.eBssType = .infrastructure → CountFits s.shifted.ms i.uTimeToCountryExpiryMs.toNat) := by
  obtain ⟨hD, hvalid⟩ := (Bool.and_eq_true _ _).mp hknown
  rw [ScanLength, TSme.updateScanCycles, hD, hvalid, hoff, halloc, if_neg (by decide), if_pos rfl,
    exists_map_ok, updateToExpiry_intervals, exists_map_ok, ← calculateCyclesNumber_ok_iff]
  constructor
  · rintro ⟨n, hn, hcounted⟩
    exact ⟨⟨n, hn⟩, (counted_setCycles hn).mp (hcounted rfl rfl rfl)⟩
  · rintro ⟨⟨n, hn⟩, hfits⟩
    exact ⟨n, hn, fun _ _ _ => (counted_setCycles hn).mpr hfits⟩

/-- **The length of the connection scan is right** exactly for the inputs that fit. -/
theorem scanLength_iff (s : TSme) (i : Inputs) : ScanLength s i ↔ Fits s i := by
  cases hknown : i.bDEnabled && i.bCountryValid with
  | false =>
    rw [scanLength_forever hknown]
    exact ⟨fun h => ⟨fun _ => h, by simp [hknown], by simp [hknown], by simp [hknown]⟩,
      fun h => h.dwell hknown⟩
  | true =>
    obtain ⟨hD, hvalid⟩ := (Bool.and_eq_true _ _).mp hknown
    cases halloc : i.allocated with
    | false =>
      have hcall : s.updateScanCycles i = .ok s := by
        rw [TSme.updateScanCycles, hD, hvalid, halloc]
        rfl
      rw [ScanLength, hcall]
      constructor
      · rintro ⟨s', hs', hcounted⟩
        obtain rfl := Except.ok.inj hs'
        exact ⟨by simp [hknown], fun _ hoff _ => hcounted hD hvalid hoff, by simp [halloc],
          by simp [halloc]⟩
      · intro h
        exact ⟨s, rfl, fun _ _ hoff => h.stale hknown hoff halloc⟩
    | true =>
      cases hoff : i.bConstantScan with
      | false =>
        rw [scanLength_toExpiry hknown halloc hoff]
        exact ⟨fun h => ⟨by simp [hknown], by simp [halloc], fun _ _ _ => h.1, fun _ _ _ => h.2⟩,
          fun h => ⟨h.last hknown hoff halloc, h.count hknown hoff halloc⟩⟩
      | true =>
        refine iff_of_true ?_
          ⟨by simp [hknown], by simp [hoff], by simp [hoff], by simp [hoff]⟩
        rw [ScanLength, TSme.updateScanCycles, hD, hvalid, hoff, halloc, if_neg (by decide),
          if_pos rfl, exists_map_ok]
        obtain ⟨s', hs'⟩ := updateToExpiry_constant s i.uTimeToCountryExpiryMs
        exact ⟨s', hs', fun _ _ h => nomatch h⟩

/-! ## Inputs that do not fit -/

/-- A station that searches for an infrastructure BSS with one interval throughout. -/
def station (interval : UInt32) (uMaxDwellTimeMs : List UInt32) : TSme where
  uScanCount := 0
  uScanCount_le := Nat.zero_le _
  eBssType := .infrastructure
  bConstantScan := false
  tInitParams := ⟨fun _ => interval, 0⟩
  tScanParams := ⟨0, fun _ => interval, uMaxDwellTimeMs⟩

/-- A call with push-button mode, 802.11d disabled. -/
def pushButton : Inputs := ⟨false, false, true, true, 0⟩

def untilExpiry (allocated : Bool) (uTimeToCountryExpiryMs : UInt32) : Inputs :=
  ⟨true, true, false, allocated, uTimeToCountryExpiryMs⟩

/-- **The length of the connection scan goes wrong**: two divisions by zero, a sum that wraps, and
no memory. -/
theorem scanLength_fails :
    ¬ScanLength (station 60000 []) pushButton ∧
      ¬ScanLength (station 0 [100]) (untilExpiry true 1) ∧
      ¬ScanLength (station (2 ^ 31) [100]) (untilExpiry true (2 ^ 32 - 1)) ∧
      ¬ScanLength (station 60000 [100]) (untilExpiry false 1) := by
  refine ⟨fun h => (scanLength_forever rfl).mp h rfl rfl, fun h => ?_, fun h => ?_, fun h => ?_⟩
  · exact ((scanLength_toExpiry rfl rfl rfl).mp h).1 (by decide) rfl
  · have hleast : IsLeast {n | 2 ^ 32 - 1 ≤ total (station (2 ^ 31) [100]).shifted.ms n} 2 :=
      isLeast_iff.mpr (by decide)
    rcases (((scanLength_toExpiry rfl rfl rfl).mp h).2 rfl).within 2 (by decide) hleast with
      hfit | ⟨-, hnext⟩ | ⟨hlast, -⟩ | hco
    · exact absurd hfit (by decide)
    · exact absurd hnext (by decide)
    · exact absurd hlast (by decide)
    · exact absurd hco.2.1 (by decide)
  · obtain ⟨s', hs', hcounted⟩ := h
    obtain rfl := Except.ok.inj hs'
    obtain ⟨k, hk, hzero | hzero⟩ := hcounted rfl rfl rfl
    · obtain rfl : k = 0 := hzero.symm
      exact absurd hk.1 (by decide)
    · exact absurd hzero.symm (Nat.succ_ne_zero k)

end ArchosGpl.Wlan.Sme.ScanCycles
