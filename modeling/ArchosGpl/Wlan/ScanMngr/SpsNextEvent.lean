import ArchosGpl.Wlan.ScanMngr.SpsEvents

/-!
# When the next event is right

* `reminder64_eq_iff`: **the remainder is that of the division exactly if the divider divides what
  its products lose** beyond their 32 bits.
* `next_event_right_iff`: **`scanMngrCalculateNextEventTSF` is right exactly if** the interval is
  not zero, the remainder is exact, the drift moves the beacon by no more than its place in the
  interval allows, nothing wraps, and there is no drift that a call would forget.
-/

namespace ArchosGpl.Wlan.ScanMngr.Sps

open Lib

variable {b : BssEntry} {e : ScanBssEntry} {o : ℕ}

/-! ## The remainder -/

/-- What the products of `reminder64` lose: the high words of the third one and of the fourth one,
which are multiplied by 256 and 1 more words of 8 bits behind it. -/
def lostWords (x d : ℕ) : ℕ :=
  let third := 256 * (256 * (x / 2 ^ 32) % d)
  256 * (third / 2 ^ 32) + 256 * (third % 2 ^ 32 % d) / 2 ^ 32

theorem reminder64_val {x d : ℕ} (h0 : 256 < d) (hd : d < 2 ^ 26) :
    reminder64 x d = some ((16 * (16 * (256 * (256 * (256 * (x / 2 ^ 32) % d) % 2 ^ 32 % d) %
      2 ^ 32 % d) % d) % d + x % 2 ^ 32) % d) := by
  have hlt (n : ℕ) : n % d < d := Nat.mod_lt n (by omega)
  have h16 (n : ℕ) : mul32 16 (n % d) % d = 16 * (n % d) % d := by
    have hn := hlt n
    rw [mul32_of_lt (by omega)]
  have hfirst : mul32 16 (x / 2 ^ 32 % d) % d = 16 * (x / 2 ^ 32) % d := by
    rw [h16, Nat.mul_mod_mod]
  have hsecond : mul32 (16 * (x / 2 ^ 32) % d) 16 % d = 256 * (x / 2 ^ 32) % d := by
    rw [mul32_comm, h16, Nat.mul_mod_mod, ← Nat.mul_assoc]
  have h256 (n : ℕ) : mul32 256 n = 256 * n % 2 ^ 32 := rfl
  have hfour : 16 % d = 16 := Nat.mod_eq_of_lt (by omega)
  have height : 256 % d = 256 := Nat.mod_eq_of_lt h0
  have hsum (m n : ℕ) : (m % d + n % d) % 2 ^ 32 % d = (m % d + n) % d := by
    have hm := hlt m
    have hn := hlt n
    rw [Nat.mod_eq_of_lt (a := m % d + n % d) (by omega), Nat.add_mod_mod]
  rw [reminder64, if_neg (by omega)]
  simp only [hfour, height]
  rw [hfirst, hsecond, mul32_comm _ 256, h256, h256, h16, h16, hsum]

/-- **The remainder is exact** exactly if the divider divides what the products lose. -/
theorem reminder64_eq_iff {x d : ℕ} (h0 : 256 < d) (hd : d < 2 ^ 26) :
    reminder64 x d = some (x % d) ↔ d ∣ 2 ^ 40 * lostWords x d := by
  rw [reminder64_val h0 hd, lostWords, Option.some_inj]
  generalize hp : 256 * (x / 2 ^ 32) % d = p
  generalize hm : 256 * p % 2 ^ 32 % d = m
  generalize hq : 256 * m % 2 ^ 32 % d = q
  generalize hr : 16 * (16 * q % d) % d = r
  have hthird := Nat.mod_add_div (256 * p) (2 ^ 32)
  have hfourth := Nat.mod_add_div (256 * m) (2 ^ 32)
  -- what is lost makes up for the difference between the last product and the high word
  have hlost : r + 2 ^ 40 * (256 * (256 * p / 2 ^ 32) + 256 * m / 2 ^ 32) ≡ 2 ^ 32 * (x / 2 ^ 32)
      [MOD d] :=
    calc r + 2 ^ 40 * (256 * (256 * p / 2 ^ 32) + 256 * m / 2 ^ 32)
        ≡ 256 * (256 * m % 2 ^ 32) +
          2 ^ 40 * (256 * (256 * p / 2 ^ 32) + 256 * m / 2 ^ 32) [MOD d] := by
          refine Nat.ModEq.add_right _ ?_
          rw [← hr, ← hq, Nat.ModEq, Nat.mul_mod_mod, Nat.mod_mod, ← Nat.mul_assoc, Nat.mul_mod_mod]
      _ = 2 ^ 16 * m + 2 ^ 48 * (256 * p / 2 ^ 32) := by omega
      _ ≡ 2 ^ 16 * (256 * p % 2 ^ 32) + 2 ^ 48 * (256 * p / 2 ^ 32) [MOD d] := by
          refine Nat.ModEq.add_right _ ?_
          rw [← hm, Nat.ModEq, Nat.mul_mod_mod]
      _ = 2 ^ 24 * p := by omega
      _ ≡ 2 ^ 24 * (256 * (x / 2 ^ 32)) [MOD d] := by rw [← hp, Nat.ModEq, Nat.mul_mod_mod]
      _ = 2 ^ 32 * (x / 2 ^ 32) := by omega
  have hx := Nat.mod_add_div x (2 ^ 32)
  constructor
  · intro heq
    have hsum : r + x % 2 ^ 32 ≡ 2 ^ 32 * (x / 2 ^ 32) + x % 2 ^ 32 [MOD d] := by
      rw [Nat.ModEq, heq, Nat.add_comm (2 ^ 32 * _), hx]
    have hkeep := (hlost.trans (Nat.ModEq.add_right_cancel' _ hsum).symm)
    exact (Nat.modEq_zero_iff_dvd.mp (Nat.ModEq.add_left_cancel' r (by simpa using hkeep)))
  · intro hdvd
    have hzero := Nat.modEq_zero_iff_dvd.mpr hdvd
    have hsum : r ≡ 2 ^ 32 * (x / 2 ^ 32) [MOD d] :=
      calc r = r + 0 := rfl
        _ ≡ _ [MOD d] := (hzero.symm.add_left r).trans hlost
    have hall := hsum.add_right (x % 2 ^ 32)
    rwa [Nat.ModEq, Nat.add_comm (2 ^ 32 * _), hx] at hall

/-! ## The event -/

/-- Calls for an AP of which no frame is received in between. -/
def laterCalls (b : BssEntry) (e : ScanBssEntry) (inits : List ℕ) : Option ScanBssEntry :=
  inits.foldlM (fun e o => (scanMngrCalculateNextEventTSF b e o).map Prod.snd) e

/-- What a call is to do: the event is not before the time asked for and less than two intervals
behind it, it is the local image of a beacon, moved by the average drift, and the calls behind it
leave the drift. -/
structure NextEventRight (b : BssEntry) (e : ScanBssEntry) (o : ℕ) : Prop where
  exact : reminder64 (remoteTSF b e o) b.beaconIntervalUsec =
    some (remoteTSF b e o % b.beaconIntervalUsec)
  event : ∃ t e', scanMngrCalculateNextEventTSF b e o = some (t, e') ∧
    o ≤ t ∧ t < o + 2 * b.beaconIntervalUsec ∧
    (∃ m : ℕ, m * b.beaconIntervalUsec < 2 ^ 64 ∧
      t = u64 (m * b.beaconIntervalUsec + averageDeltaChange e' + localRemoteTSFDelta b e)) ∧
    ∀ inits e'', laterCalls b e' inits = some e'' → e''.deltaChangeArray = e'.deltaChangeArray

/-- When it does that. -/
structure NextEventFits (b : BssEntry) (e : ScanBssEntry) (o : ℕ) : Prop where
  interval : 0 < b.beaconInterval
  products : b.beaconIntervalUsec ∣ 2 ^ 40 * lostWords (remoteTSF b e o) b.beaconIntervalUsec
  from_zero : 0 ≤ o + step b e o
  near : 0 ≤ advance b e o ∧ advance b e o < 2 * b.beaconIntervalUsec
  before_wrap : o + advance b e o < 2 ^ 64
  remote : remoteTSF b e o + advance b e o - averageDeltaChange (noteDelta b e) < 2 ^ 64 ∨
    b.beaconIntervalUsec ∣ 2 ^ 64
  steady : localRemoteTSFDelta b e = 0 ∨ (noteDelta b e).deltaChangeArray = fun _ => 0

theorem averageDeltaChange_bounds (e : ScanBssEntry) :
    -2 ^ 29 ≤ averageDeltaChange e ∧ averageDeltaChange e ≤ 2 ^ 29 := by
  obtain ⟨z, hz⟩ : ∃ z : ℤ, averageDeltaChange e = (Int.bmod z (2 ^ 32)).tdiv 4 := ⟨_, rfl⟩
  have hle := Int.le_bmod (x := z) (m := 2 ^ 32) (by decide)
  have hlt := Int.bmod_lt (x := z) (m := 2 ^ 32) (by decide)
  have habs : (averageDeltaChange e).natAbs = (Int.bmod z (2 ^ 32)).natAbs / 4 := by
    rw [hz, Int.natAbs_tdiv]
    rfl
  omega

theorem calculate_some (h : 0 < b.beaconIntervalUsec) :
    ∃ t, scanMngrCalculateNextEventTSF b e o = some (t, noteDelta b e) := by
  obtain ⟨r, hr⟩ : ∃ r, reminder64 (remoteTSF b e o) b.beaconIntervalUsec = some r := by
    rw [reminder64, if_neg (Nat.ne_of_gt h)]
    exact ⟨_, rfl⟩
  rw [scanMngrCalculateNextEventTSF, hr, Option.bind_eq_bind, Option.bind_some]
  dsimp only
  split <;> exact ⟨_, rfl⟩

/-! ## The calls behind it -/

/-- The drift is not noted, or there is none. -/
def Still (b : BssEntry) (e : ScanBssEntry) : Prop :=
  localRemoteTSFDelta b e = 0 ∨ e.deltaChangeArray = fun _ => 0

theorem Still.noteDelta (h : Still b e) (hprev : e.prevTSFDelta = localRemoteTSFDelta b e) :
    (Sps.noteDelta b e).deltaChangeArray = e.deltaChangeArray := by
  by_cases h0 : localRemoteTSFDelta b e = 0
  · rw [noteDelta_of_zero hprev h0]
  · rw [noteDelta_of_ne hprev h0, h.resolve_left h0]
    exact Function.update_eq_self _ _

theorem laterCalls_cons (h : 0 < b.beaconIntervalUsec) (inits : List ℕ) :
    laterCalls b e (o :: inits) = laterCalls b (noteDelta b e) inits := by
  obtain ⟨t, ht⟩ := calculate_some (e := e) (o := o) h
  rw [laterCalls, List.foldlM_cons, ht]
  rfl

theorem Still.laterCalls (hP : 0 < b.beaconIntervalUsec) {inits : List ℕ} {e'' : ScanBssEntry}
    (h : Still b e) (hprev : e.prevTSFDelta = localRemoteTSFDelta b e)
    (hcalls : Sps.laterCalls b e inits = some e'') : e''.deltaChangeArray = e.deltaChangeArray := by
  induction inits generalizing e with
  | nil => rw [Option.some.inj hcalls]
  | cons o inits ih =>
    rw [laterCalls_cons hP] at hcalls
    have hkeep := h.noteDelta hprev
    have hnoted : (Sps.noteDelta b e).prevTSFDelta = localRemoteTSFDelta b (Sps.noteDelta b e) := by
      rw [prevTSFDelta_noteDelta, localRemoteTSFDelta_noteDelta]
    have hstill : Still b (Sps.noteDelta b e) := by
      rwa [Still, localRemoteTSFDelta_noteDelta, hkeep]
    exact (ih hstill hnoted hcalls).trans hkeep

theorem laterCalls_forget (hP : 0 < b.beaconIntervalUsec)
    (hprev : e.prevTSFDelta = localRemoteTSFDelta b e) (h0 : localRemoteTSFDelta b e ≠ 0) :
    ∃ inits e'', laterCalls b e inits = some e'' ∧ e''.deltaChangeArray = fun _ => 0 := by
  induction hd : driftLeft e using Nat.strong_induction_on generalizing e with
  | _ d ih =>
    by_cases hzero : driftLeft e = 0
    · exact ⟨[], e, rfl, driftLeft_eq_zero.mp hzero⟩
    · obtain ⟨inits, e'', hcalls, hnone⟩ :=
        ih _ (hd ▸ driftLeft_noteDelta hprev h0 hzero) (e := noteDelta b e)
          (by rw [prevTSFDelta_noteDelta, localRemoteTSFDelta_noteDelta])
          (by rwa [localRemoteTSFDelta_noteDelta]) rfl
      exact ⟨0 :: inits, e'', (laterCalls_cons hP inits).trans hcalls, hnone⟩

/-- **The calls behind a call leave the drift** exactly if it is not noted, or none. -/
theorem laterCalls_keep_iff (hP : 0 < b.beaconIntervalUsec)
    (hprev : e.prevTSFDelta = localRemoteTSFDelta b e) :
    (∀ inits e'', laterCalls b e inits = some e'' → e''.deltaChangeArray = e.deltaChangeArray) ↔
      Still b e := by
  refine ⟨fun h => ?_, fun h _ _ hcalls => h.laterCalls hP hprev hcalls⟩
  by_cases h0 : localRemoteTSFDelta b e = 0
  · exact .inl h0
  · obtain ⟨inits, e'', hcalls, hnone⟩ := laterCalls_forget hP hprev h0
    exact .inr ((h inits e'' hcalls).symm.trans hnone)

/-! ## The theorem -/

/-- Of two multiples of a number that are the same 64-bit word, one is too large for it only if the
number divides 2^64. -/
theorem dvd_of_multiples {d m : ℕ} {n : ℤ} (hd : 0 < d) (hd' : d < 2 ^ 26) (hn : (d : ℤ) ∣ n)
    (hle : 2 ^ 64 ≤ n) (hlt : n < 2 ^ 64 + 2 * d) (hm : m * d < 2 ^ 64)
    (hsame : (n - m * d) % 2 ^ 64 = 0) : d ∣ 2 ^ 64 := by
  obtain ⟨k, hk⟩ := Int.dvd_of_emod_eq_zero hsame
  have hm' : (m * d : ℤ) < 2 ^ 64 := by exact_mod_cast hm
  have hm0 : (0 : ℤ) ≤ m * d := by exact_mod_cast Nat.zero_le _
  have hk1 : k = 1 := by omega
  have hdvd : (d : ℤ) ∣ 2 ^ 64 := by
    have hsub := Int.dvd_sub hn (Int.dvd_mul_left m d)
    rwa [hk, hk1, mul_one] at hsub
  exact_mod_cast hdvd

theorem u64_emod (x : ℤ) : (u64 x : ℤ) = x % 2 ^ 64 := by
  unfold u64
  omega

theorem calculate_near_iff {t : ℕ} {e' : ScanBssEntry} (hb : b.beaconInterval < 2 ^ 16)
    (hinit : o < 2 ^ 64) (hP : 0 < b.beaconIntervalUsec)
    (hexact : reminder64 (remoteTSF b e o) b.beaconIntervalUsec =
      some (remoteTSF b e o % b.beaconIntervalUsec))
    (ht : scanMngrCalculateNextEventTSF b e o = some (t, e')) :
    (o ≤ t ∧ t < o + 2 * b.beaconIntervalUsec) ↔
      0 ≤ o + step b e o ∧
        (0 ≤ advance b e o ∧ advance b e o < 2 * b.beaconIntervalUsec) ∧
          o + advance b e o < 2 ^ 64 := by
  have hmod := Nat.mod_lt (remoteTSF b e o) hP
  have hdrift := averageDeltaChange_bounds (noteDelta b e)
  have hs : step b e o = b.beaconIntervalUsec -
      (remoteTSF b e o % b.beaconIntervalUsec : ℕ) + averageDeltaChange (noteDelta b e) := rfl
  have hP' : b.beaconIntervalUsec < 2 ^ 26 := by
    unfold BssEntry.beaconIntervalUsec
    omega
  have hword := u64_emod (o + step b e o)
  have hword' := u64_emod (u64 (o + step b e o) + b.beaconIntervalUsec)
  rw [calculate_eq hexact] at ht
  unfold advance
  split at ht
  · obtain ⟨rfl, -⟩ := Prod.mk.inj (Option.some.inj ht)
    split <;> omega
  · obtain ⟨rfl, -⟩ := Prod.mk.inj (Option.some.inj ht)
    split <;> omega

theorem calculate_val {t : ℕ} {e' : ScanBssEntry}
    (hexact : reminder64 (remoteTSF b e o) b.beaconIntervalUsec =
      some (remoteTSF b e o % b.beaconIntervalUsec))
    (ht : scanMngrCalculateNextEventTSF b e o = some (t, e'))
    (h0 : 0 ≤ o + step b e o) (hlt : o + advance b e o < 2 ^ 64) :
    (t : ℤ) = o + advance b e o := by
  have hword := u64_emod (o + step b e o)
  have hword' := u64_emod (u64 (o + step b e o) + b.beaconIntervalUsec)
  rw [calculate_eq hexact] at ht
  unfold advance at hlt ⊢
  split at ht
  · obtain ⟨rfl, -⟩ := Prod.mk.inj (Option.some.inj ht)
    split at hlt <;> omega
  · obtain ⟨rfl, -⟩ := Prod.mk.inj (Option.some.inj ht)
    split at hlt <;> omega

/-- The beacon, before the drift moves it. -/
def remoteBeacon (b : BssEntry) (e : ScanBssEntry) (o : ℕ) : ℤ :=
  remoteTSF b e o + advance b e o - averageDeltaChange (noteDelta b e)

theorem remoteBeacon_dvd (b : BssEntry) (e : ScanBssEntry) (o : ℕ) :
    (b.beaconIntervalUsec : ℤ) ∣ remoteBeacon b e o := by
  have hdvd : (b.beaconIntervalUsec : ℤ) ∣
      remoteTSF b e o - (remoteTSF b e o % b.beaconIntervalUsec : ℕ) := by
    rw [Int.natCast_mod]
    exact Int.dvd_self_sub_emod
  have hone := Int.dvd_add hdvd (Int.dvd_refl (b.beaconIntervalUsec : ℤ))
  unfold remoteBeacon advance
  split
  · convert Int.dvd_add hone (Int.dvd_refl (b.beaconIntervalUsec : ℤ)) using 1
    rw [step]
    ring
  · convert hone using 1
    rw [step]
    ring

theorem remoteBeacon_bounds (hP : 0 < b.beaconIntervalUsec) :
    0 ≤ remoteBeacon b e o ∧ remoteBeacon b e o < 2 ^ 64 + 2 * b.beaconIntervalUsec := by
  have hmod := Nat.mod_lt (remoteTSF b e o) hP
  have hle := Nat.mod_le (remoteTSF b e o) b.beaconIntervalUsec
  have hlt : remoteTSF b e o < 2 ^ 64 := u64_lt _
  have hs : step b e o = b.beaconIntervalUsec -
      (remoteTSF b e o % b.beaconIntervalUsec : ℕ) + averageDeltaChange (noteDelta b e) := rfl
  unfold remoteBeacon advance
  split <;> omega

/-- **An event near the time asked for is a beacon** exactly if the beacon does not wrap, or wraps
to a beacon. -/
theorem calculate_beacon_iff {t : ℕ} (hb : b.beaconInterval < 2 ^ 16)
    (hP : 0 < b.beaconIntervalUsec) (ht : (t : ℤ) = o + advance b e o)
    (hlt : o + advance b e o < 2 ^ 64) :
    (∃ m : ℕ, m * b.beaconIntervalUsec < 2 ^ 64 ∧
      t = u64 (m * b.beaconIntervalUsec + averageDeltaChange (noteDelta b e) +
        localRemoteTSFDelta b e)) ↔
      remoteBeacon b e o < 2 ^ 64 ∨ b.beaconIntervalUsec ∣ 2 ^ 64 := by
  have hP' : b.beaconIntervalUsec < 2 ^ 26 := by
    unfold BssEntry.beaconIntervalUsec
    omega
  have hdvd := remoteBeacon_dvd b e o
  obtain ⟨hpos, hbound⟩ := remoteBeacon_bounds (b := b) (e := e) (o := o) hP
  have hremote := u64_emod (o - localRemoteTSFDelta b e)
  have hbeacon : remoteBeacon b e o =
      u64 (o - localRemoteTSFDelta b e) + advance b e o - averageDeltaChange (noteDelta b e) :=
    rfl
  -- a multiple gives the event exactly if it is the beacon up to a wrap
  have hsame (n : ℤ) : t = u64 (n + averageDeltaChange (noteDelta b e) + localRemoteTSFDelta b e) ↔
      (remoteBeacon b e o - n) % 2 ^ 64 = 0 := by
    have hword := u64_emod (n + averageDeltaChange (noteDelta b e) + localRemoteTSFDelta b e)
    omega
  constructor
  · rintro ⟨m, hm, hmt⟩
    rw [hsame] at hmt
    by_cases hwrap : remoteBeacon b e o < 2 ^ 64
    · exact .inl hwrap
    · exact .inr (dvd_of_multiples hP hP' hdvd (not_lt.mp hwrap) hbound hm hmt)
  · intro h
    have hfind (n : ℤ) (hn : (b.beaconIntervalUsec : ℤ) ∣ n) (h0 : 0 ≤ n) (hn' : n < 2 ^ 64)
        (hmod : (remoteBeacon b e o - n) % 2 ^ 64 = 0) :
        ∃ m : ℕ, m * b.beaconIntervalUsec < 2 ^ 64 ∧ t = u64 (m * b.beaconIntervalUsec +
          averageDeltaChange (noteDelta b e) + localRemoteTSFDelta b e) := by
      obtain ⟨m, hm⟩ := Int.eq_ofNat_of_zero_le (Int.ediv_nonneg h0 (Int.natCast_nonneg _))
      have hmul : (m * b.beaconIntervalUsec : ℤ) = n := by rw [← hm, Int.ediv_mul_cancel hn]
      refine ⟨m, by omega, ?_⟩
      rwa [hmul, hsame]
    by_cases hwrap : remoteBeacon b e o < 2 ^ 64
    · exact hfind _ hdvd hpos hwrap (by omega)
    · have hpow : (b.beaconIntervalUsec : ℤ) ∣ 2 ^ 64 := by
        exact_mod_cast h.resolve_left hwrap
      exact hfind (remoteBeacon b e o - 2 ^ 64) (Int.dvd_sub hdvd hpow) (by omega) (by omega)
        (by omega)

/-- **`scanMngrCalculateNextEventTSF` is right** exactly under these conditions. -/
theorem next_event_right_iff (b : BssEntry) (e : ScanBssEntry) (o : ℕ)
    (hb : b.beaconInterval < 2 ^ 16) (hinit : o < 2 ^ 64) :
    NextEventRight b e o ↔ NextEventFits b e o := by
  have hnoted : (noteDelta b e).prevTSFDelta = localRemoteTSFDelta b (noteDelta b e) := by
    rw [prevTSFDelta_noteDelta, localRemoteTSFDelta_noteDelta]
  have hstill : Still b (noteDelta b e) ↔
      localRemoteTSFDelta b e = 0 ∨ (noteDelta b e).deltaChangeArray = fun _ => 0 := by
    rw [Still, localRemoteTSFDelta_noteDelta]
  have hbits (h : 0 < b.beaconInterval) :
      256 < b.beaconIntervalUsec ∧ b.beaconIntervalUsec < 2 ^ 26 := by
    unfold BssEntry.beaconIntervalUsec
    omega
  constructor
  · rintro ⟨hexact, t, e', ht, hge, hlt, hm, hlater⟩
    have hP := reminder64_pos hexact
    have hpos : 0 < b.beaconInterval := Nat.pos_of_mul_pos_right hP
    obtain ⟨t', ht'⟩ := calculate_some (e := e) (o := o) hP
    obtain ⟨rfl, rfl⟩ := Prod.mk.inj (Option.some.inj (ht.symm.trans ht'))
    obtain ⟨h0, hnear, hwrap⟩ := (calculate_near_iff hb hinit hP hexact ht).mp ⟨hge, hlt⟩
    have hval := calculate_val hexact ht h0 hwrap
    exact ⟨hpos, (reminder64_eq_iff (hbits hpos).1 (hbits hpos).2).mp hexact, h0, hnear, hwrap,
      (calculate_beacon_iff hb hP hval hwrap).mp hm,
      hstill.mp ((laterCalls_keep_iff hP hnoted).mp hlater)⟩
  · rintro ⟨hpos, hproducts, h0, hnear, hwrap, hremote, hsteady⟩
    have hP : 0 < b.beaconIntervalUsec := Nat.lt_trans (by decide) (hbits hpos).1
    have hexact := (reminder64_eq_iff (hbits hpos).1 (hbits hpos).2).mpr hproducts
    obtain ⟨t, ht⟩ := calculate_some (e := e) (o := o) hP
    obtain ⟨hge, hlt⟩ := (calculate_near_iff hb hinit hP hexact ht).mpr ⟨h0, hnear, hwrap⟩
    have hval := calculate_val hexact ht h0 hwrap
    exact ⟨hexact, t, noteDelta b e, ht, hge, hlt, (calculate_beacon_iff hb hP hval hwrap).mpr hremote,
      (laterCalls_keep_iff hP hnoted).mpr (hstill.mpr hsteady)⟩

/-- An AP that was found for the first time. -/
theorem next_event_right_firstTracked :
    NextEventRight ⟨1, 40000, 100, .band24GHz, 6⟩ ⟨0, 41000, 0, fun _ => 0, 0⟩ 102300 :=
  (next_event_right_iff _ _ _ (by decide) (by decide)).mpr
    ⟨by decide +kernel, by decide +kernel, by decide +kernel, by decide +kernel, by decide +kernel,
      by decide +kernel, by decide +kernel⟩

/-- An AP whose TSF moves on by 400 microseconds from scan to scan: the second call for one scan
notes that it did not move. -/
theorem drift_forgotten :
    ¬ NextEventRight ⟨1, 40000, 100, .band24GHz, 6⟩ ⟨0, 41000, 600, fun _ => 400, 0⟩ 102300 := by
  rintro ⟨-, t, e', ht, -, -, -, hlater⟩
  obtain ⟨t', ht'⟩ := calculate_some (b := ⟨1, 40000, 100, .band24GHz, 6⟩)
    (e := ⟨0, 41000, 600, fun _ => 400, 0⟩) (o := 102300) (by decide)
  obtain ⟨rfl, rfl⟩ := Prod.mk.inj (Option.some.inj (ht.symm.trans ht'))
  have hkeep := congrFun (hlater [0] _ (laterCalls_cons (by decide) [])) 1
  exact absurd hkeep (by decide +kernel)

end ArchosGpl.Wlan.ScanMngr.Sps
