import ArchosGpl.Wlan.RegulatoryDomain.Channels
import ArchosGpl.Wlan.ScanCncn.Channels

/-!
# Which channels a scan request scans

`allowed` asks the regulatory domain about each requested entry once, in order, and gives the
entries that it allows, as they are to be stored. **`start_allowed`**: where there is memory for the
check, a start event is sent exactly if an entry is allowed, and the entries then in use are a
permutation of the allowed ones. The deletions on the way, the counts and the mixing lose and repeat
nothing.

Entries change where that is meant: a DFS channel of a periodic scan becomes one of type
`SCAN_TYPE_PACTSIVE`, the transmit power goes down to the allowed one, and dwell times are made
longer for Bluetooth. **`channels_change`** has an example of each, and of a channel that is scanned
without a check.
-/

namespace ArchosGpl.Wlan.ScanCncn

open Lib RegulatoryDomain RegulatoryDomain.RegDomain

/-! ## What the regulatory domain allows -/

namespace Kind

/-- The entry's channel, in the 8 bits of the query. -/
def channel : (k : Kind) → k.Entry → UInt8
  | .normal _ _, (e : TScanNormalChannelEntry) => e.channel
  | .sps _, (e : TScanSpsChannelEntry) => e.channel
  | .periodic, (e : TPeriodicChannelEntry) => e.uChannel.toUInt8

def band : (k : Kind) → k.Entry → ERadioBand
  | .normal _ band, _ | .sps band, _ => band
  | .periodic, (e : TPeriodicChannelEntry) => e.eBand

/-- The entry is scanned passively whatever its channel is. -/
def passive : (k : Kind) → k.Entry → Bool
  | .normal scanType _, _ => isPassive scanType
  | .sps _, _ => true
  | .periodic, (e : TPeriodicChannelEntry) => e.eScanType = .normalPassive

/-- Whether the entry is an active one of a DFS channel, which only a periodic scan knows. -/
def dfs : (k : Kind) → Reg → k.Entry → Option (Reg × Bool)
  | .normal _ _, r, _ | .sps _, r, _ => some (r, false)
  | .periodic, r, (e : TPeriodicChannelEntry) =>
    if e.eScanType = .normalPassive then some (r, false) else getDfsChannel r e.eBand e.uChannel

/-- The entry of an allowed channel: the transmit power is at most the allowed one, and a DFS
channel is scanned passively before it is scanned actively. The other fields are the requested
ones. -/
def granted (bDfsChannel : Bool) (maxTxPowerDbm : ℕ) : (k : Kind) → k.Entry → k.Entry
  | .normal _ _, (e : TScanNormalChannelEntry) =>
    { e with txPowerDbm := min maxTxPowerDbm e.txPowerDbm }
  | .sps _, e => e
  | .periodic, (e : TPeriodicChannelEntry) =>
    { e with
      eScanType := if bDfsChannel then .pactsive else e.eScanType
      uTxPowerLevelDbm := min maxTxPowerDbm e.uTxPowerLevelDbm }

/-- **The verdict on an entry**: its channel must be allowed for passive scanning if the entry is a
passive one or of a DFS channel, and for active scanning otherwise. -/
def verdict (k : Kind) (r : Reg) (e : k.Entry) : Option (Reg × Option k.Entry) := do
  let (r, bDfsChannel) ← k.dfs r e
  let (r, ret) ← getScanCapabilities r
    ⟨!(k.passive e || bDfsChannel), k.channel e, k.band e⟩
  some (r, if ret.channelValidity then some (k.granted bDfsChannel ret.maxTxPowerDbm e) else none)

/-- The requested entries that the regulatory domain allows. -/
def allowed (k : Kind) : Reg → List k.Entry → Option (Reg × List k.Entry)
  | r, [] => some (r, [])
  | r, e :: es => do
    let (r, v) ← k.verdict r e
    let (r, kept) ← k.allowed r es
    some (r, v.toList ++ kept)

/-- An entry as the start event finds it. -/
def stored (g : SgParams) (k : Kind) (e : k.Entry) : k.Entry :=
  if g.bUseSGParams then k.compensate g e else e

end Kind

/-- **The outcome of a start request**: the regulatory domain after it, and the count and the array
that are in use when the start event is sent, if it is. -/
inductive Right (k : Kind) (c : Call) (p : UScanChannels k) :
    Reg → Option (ℕ × List k.Entry) → Prop
  /-- `scanCncn_Start1ShotScan` has no memory for a query of its own. -/
  | noMemory (hk : k.isOneShot = true) (hm : c.ownAlloc = false) : Right k c p c.reg none
  | refused (r : Reg) (h : k.allowed c.reg p.requested = some (r, [])) : Right k c p r none
  | sent (r : Reg) (kept l : List k.Entry) (h : k.allowed c.reg p.requested = some (r, kept))
      (hne : kept ≠ []) (hperm : (l.take kept.length).Perm (kept.map (k.stored c.sg))) :
      Right k c p r (some (kept.length, l))

/-! ## The check of an entry -/

theorem getScanCapabilities_total (r : Reg) (req : ChannelCapabilityReq) :
    ∃ a, getScanCapabilities r req = some a := by
  have hexpiry : ∃ s, r.domain.checkCountryCodeExpiry (r.env 0) = some s := by
    obtain ⟨-, h⟩ | ⟨-, T, h⟩ := r.domain.checkCountryCodeExpiry_cases (r.env 0) <;> exact ⟨_, h⟩
  obtain ⟨s, hs⟩ := hexpiry
  obtain ⟨T, ret, hret, -⟩ := s.getChannelCapability_total (r.env 0) req
  unfold getScanCapabilities RegDomain.getParam
  simp only [hs, hret, Option.bind_eq_bind, Option.bind_some, Option.map_some]
  exact ⟨_, rfl⟩

theorem getDfsChannel_total (r : Reg) (eBand : ERadioBand) (uChannel : UInt32) :
    ∃ a, getDfsChannel r eBand uChannel = some a := by
  unfold getDfsChannel RegDomain.getParam
  obtain ⟨-, h⟩ | ⟨-, T, h⟩ := r.domain.checkCountryCodeExpiry_cases (r.env 0)
  · simp only [h, Option.bind_eq_bind, Option.bind_some]
    exact ⟨_, rfl⟩
  · simp only [h, Option.bind_eq_bind, Option.bind_some]
    exact ⟨_, rfl⟩

theorem normal_verdict (scanType : EScanType) (band : ERadioBand) (r : Reg)
    (e : TScanNormalChannelEntry) :
    ∃ r' e' ok, (Kind.normal scanType band).check r e = some (r', e', ok) ∧
      (Kind.normal scanType band).verdict r e = some (r', if ok then some e' else none) := by
  obtain ⟨⟨r', ret⟩, hret⟩ := getScanCapabilities_total r ⟨!isPassive scanType, e.channel, band⟩
  have hv : (Kind.normal scanType band).verdict r e =
      some (r', if ret.channelValidity then
        some { e with txPowerDbm := min ret.maxTxPowerDbm e.txPowerDbm } else none) := by
    simp only [Kind.verdict, Kind.dfs, Kind.passive, Kind.channel, Kind.band, Kind.granted,
      Bool.or_false, Option.bind_eq_bind, Option.bind_some, hret]
  rw [hv]
  simp only [Kind.check, hret, Option.bind_eq_bind, Option.bind_some]
  cases ret.channelValidity with
  | true => exact ⟨_, _, true, rfl, rfl⟩
  | false => exact ⟨_, _, false, rfl, rfl⟩

theorem sps_verdict (band : ERadioBand) (r : Reg) (e : TScanSpsChannelEntry) :
    ∃ r' e' ok, (Kind.sps band).check r e = some (r', e', ok) ∧
      (Kind.sps band).verdict r e = some (r', if ok then some e' else none) := by
  obtain ⟨⟨r', ret⟩, hret⟩ := getScanCapabilities_total r ⟨!isPassive .sps, e.channel, band⟩
  refine ⟨r', e, ret.channelValidity, ?_, ?_⟩
  · simp only [Kind.check, hret, Option.bind_eq_bind, Option.bind_some]
  · change (getScanCapabilities r ⟨!isPassive .sps, e.channel, band⟩).bind _ = _
    rw [hret]
    rfl

theorem dfs_total (r : Reg) (e : TPeriodicChannelEntry) :
    ∃ u bDfsChannel, Kind.periodic.dfs r e = some (u, bDfsChannel) ∧
      (e.eScanType = .normalPassive → u = r ∧ bDfsChannel = false) ∧
      (e.eScanType ≠ .normalPassive →
        getDfsChannel r e.eBand e.uChannel = some (u, bDfsChannel)) := by
  by_cases hp : e.eScanType = .normalPassive
  · exact ⟨r, false, if_pos hp, fun _ => ⟨rfl, rfl⟩, fun h => absurd hp h⟩
  · obtain ⟨⟨u, bDfsChannel⟩, hdfs⟩ := getDfsChannel_total r e.eBand e.uChannel
    exact ⟨u, bDfsChannel, (if_neg hp).trans hdfs, fun h => absurd h hp, fun _ => hdfs⟩

theorem periodic_verdict (r : Reg) (e : TPeriodicChannelEntry) :
    ∃ r' e' ok, Kind.periodic.check r e = some (r', e', ok) ∧
      Kind.periodic.verdict r e = some (r', if ok then some e' else none) := by
  obtain ⟨u, bDfsChannel, hdfs, hpassive, hactive⟩ := dfs_total r e
  obtain ⟨⟨r', ret⟩, hret⟩ := getScanCapabilities_total u
    ⟨!(decide (e.eScanType = .normalPassive) || bDfsChannel), e.uChannel.toUInt8, e.eBand⟩
  have hv : Kind.periodic.verdict r e = some (r', if ret.channelValidity then
      some (Kind.periodic.granted bDfsChannel ret.maxTxPowerDbm e) else none) := by
    simp only [Kind.verdict, hdfs, Kind.passive, Kind.channel, Kind.band, Option.bind_eq_bind,
      Option.bind_some, hret]
  rw [hv]
  by_cases hp : e.eScanType = .normalPassive
  · obtain ⟨rfl, rfl⟩ := hpassive hp
    simp only [hp, decide_true, Bool.true_or, Bool.not_true] at hret
    simp only [Kind.check, hp, if_true, hret, Option.bind_eq_bind, Option.bind_some]
    cases ret.channelValidity with
    | true => exact ⟨_, _, true, rfl, by simp [Kind.granted, hp]⟩
    | false => exact ⟨_, _, false, rfl, rfl⟩
  · simp only [hp, decide_false, Bool.false_or] at hret
    cases bDfsChannel with
    | true =>
      simp only [Bool.not_true] at hret
      simp only [Kind.check, hp, if_false, hactive hp, if_true, hret, Option.bind_eq_bind,
        Option.bind_some]
      cases ret.channelValidity with
      | true => exact ⟨_, _, true, rfl, rfl⟩
      | false => exact ⟨_, _, false, rfl, rfl⟩
    | false =>
      simp only [Bool.not_false] at hret
      simp only [Kind.check, hp, if_false, hactive hp, Bool.false_eq_true, hret,
        Option.bind_eq_bind, Option.bind_some]
      cases ret.channelValidity with
      | true => exact ⟨_, _, true, rfl, rfl⟩
      | false => exact ⟨_, _, false, rfl, rfl⟩

/-- **The check of an entry in the loop gives the verdict on it.** -/
theorem check_verdict (k : Kind) (r : Reg) (e : k.Entry) :
    ∃ r' e' ok, k.check r e = some (r', e', ok) ∧
      k.verdict r e = some (r', if ok then some e' else none) := by
  cases k with
  | normal scanType band => exact normal_verdict scanType band r e
  | sps band => exact sps_verdict band r e
  | periodic => exact periodic_verdict r e

theorem passed_eq (k : Kind) (r : Reg) (l : List k.Entry) : passed k.check r l = k.allowed r l := by
  induction l generalizing r with
  | nil => rfl
  | cons e l ih =>
    obtain ⟨r', e', ok, hcheck, hverdict⟩ := check_verdict k r e
    simp only [passed, Kind.allowed, hcheck, hverdict, ih, Option.bind_eq_bind, Option.bind_some]
    cases k.allowed r' l with
    | none => rfl
    | some a => cases ok <;> rfl

theorem allowed_total (k : Kind) (r : Reg) (l : List k.Entry) : ∃ a, k.allowed r l = some a := by
  rw [← passed_eq]
  refine passed_total (fun r e => ?_) r l
  obtain ⟨r', e', ok, hcheck, -⟩ := check_verdict k r e
  exact ⟨_, hcheck⟩

theorem verify_spec (k : Kind) {r r' : Reg} (p : UScanChannels k) {kept : List k.Entry}
    (h : k.allowed r p.requested = some (r', kept)) :
    ∃ l, verifyChannelsWithRegDomain k true r p.numOfChannels p.channelEntry =
        some (r', kept.length, l) ∧ l.take kept.length = kept ∧ kept.length ≤ l.length := by
  have hsize : k.size ≤ 37 := by
    unfold Kind.size
    split <;> decide
  have hcount : p.numOfChannels % 256 = p.numOfChannels :=
    Nat.mod_eq_of_lt (by have := p.numOfChannels_le; omega)
  have hle : p.numOfChannels ≤ p.channelEntry.length := p.length_eq ▸ p.numOfChannels_le
  obtain ⟨l, hl, htake, hlen, hkept⟩ := sieve_spec hle ((passed_eq k r _).trans h)
  refine ⟨l, ?_, htake, ?_⟩
  · unfold verifyChannelsWithRegDomain
    rw [if_pos rfl]
    simp only [hcount]
    exact hl
  · rw [hlen]
    exact Nat.le_trans hkept hle

/-! ## Mixing -/

variable {α β : Type}

theorem mixTempArray_comp (f : α → β) (a t : ℕ → α) (n : ℕ) :
    mixTempArray (f ∘ a) (f ∘ t) n = f ∘ mixTempArray a t n := by
  have hloop : ∀ (is : List ℕ) (t : ℕ → α),
      is.foldl (fun t i => Function.update (Function.update t i ((f ∘ a) (i / 2))) (i + 1)
        ((f ∘ a) ((n + i) / 2))) (f ∘ t) =
      f ∘ is.foldl (fun t i => Function.update (Function.update t i (a (i / 2))) (i + 1)
        (a ((n + i) / 2))) t := by
    intro is
    induction is with
    | nil => exact fun t => rfl
    | cons i is ih =>
      intro t
      rw [List.foldl_cons, List.foldl_cons, ← ih, Function.comp_update, Function.comp_update]
      rfl
  unfold mixTempArray
  dsimp only
  rw [hloop]
  split
  · rw [Function.comp_update, Function.comp_update]
    rfl
  · rfl

/-- The places that the mixing takes the entries from. -/
def mixOrder (n : ℕ) : List ℕ :=
  (List.range n).filterMap (mixTempArray some (fun _ => none) n)

/-- **For each number of channels that is mixed, every entry is taken, and once.** -/
theorem mixOrder_perm : ∀ n < 15, 2 ≤ n →
    (List.range n).map (mixTempArray some (fun _ => none) n) = (mixOrder n).map some ∧
      (mixOrder n).Perm (List.range n) := by
  decide +kernel

theorem gather_perm {l : List α} {is : List ℕ} {n : ℕ} (hn : n ≤ l.length)
    (hperm : is.Perm (List.range n)) :
    ∃ l', is.mapM (fun j => l[j]?) = some l' ∧ l'.Perm (l.take n) := by
  cases l with
  | nil =>
    obtain rfl := Nat.le_zero.mp hn
    obtain rfl := List.perm_nil.mp hperm
    exact ⟨[], rfl, List.Perm.refl _⟩
  | cons d l =>
    have hget : ∀ is : List ℕ, (∀ j ∈ is, j < (d :: l).length) →
        is.mapM (fun j => (d :: l)[j]?) = some (is.map fun j => (d :: l).getD j d) := by
      intro is his
      induction is with
      | nil => rfl
      | cons j is ih =>
        obtain ⟨hj, his⟩ := List.forall_mem_cons.mp his
        rw [List.mapM_cons, ih his, List.getElem?_eq_getElem hj]
        simp [List.getD_eq_getElem?_getD, List.getElem?_eq_getElem hj]
    refine ⟨_, hget is fun j hj => ?_, ?_⟩
    · exact Nat.lt_of_lt_of_le (List.mem_range.mp (hperm.mem_iff.mp hj)) hn
    · have htake : (List.range n).map (fun j => (d :: l).getD j d) = (d :: l).take n := by
        refine List.ext_getElem ?_ fun j h₁ h₂ => ?_
        · rw [List.length_map, List.length_range, List.length_take_of_le hn]
        · have hj : j < n := by simpa using h₁
          rw [List.getElem_map, List.getElem_range, List.getElem_take,
            List.getD_eq_getElem?_getD, List.getElem?_eq_getElem (Nat.lt_of_lt_of_le hj hn),
            Option.getD_some]
      exact htake ▸ hperm.map _

/-- **The mixing is a permutation of the entries in use**, whatever their number. -/
theorem mix_spec {l : List α} {n : ℕ} (hn : n ≤ l.length) :
    ∃ l', mixScanChannels l n = some l' ∧ l'.length = l.length ∧ (l'.take n).Perm (l.take n) := by
  unfold mixScanChannels
  split
  · exact ⟨l, rfl, rfl, List.Perm.refl _⟩
  · rename_i htwo
    obtain ⟨hsome, hperm⟩ := mixOrder_perm (min n 14) (by omega) (by omega)
    have hmin : min n 14 ≤ l.length := Nat.le_trans (Nat.min_le_left n 14) hn
    obtain ⟨p, hp, hpperm⟩ := gather_perm hmin hperm
    have htable : mixTempArray (fun j => l[j]?) (fun _ => none) (min n 14) =
        (fun o : Option ℕ => o.bind fun j => l[j]?) ∘
          mixTempArray some (fun _ => none) (min n 14) := by
      rw [← mixTempArray_comp]
      rfl
    have hgather : (List.range (min n 14)).mapM
        (mixTempArray (fun j => l[j]?) (fun _ => none) (min n 14)) = some p := by
      rw [htable, ← hp, ← List.mapM_map, hsome, List.mapM_map]
      rfl
    dsimp only
    rw [hgather]
    have hplen : p.length = min n 14 := hpperm.length_eq.trans (List.length_take_of_le hmin)
    refine ⟨p ++ l.drop (min n 14), rfl, ?_, ?_⟩
    · rw [List.length_append, hplen, List.length_drop]
      omega
    · have hsplit : l.take n = l.take (min n 14) ++ (l.drop (min n 14)).take (n - min n 14) := by
        rw [← List.take_add]
        congr 1
        omega
      rw [List.take_append, hplen, hsplit, List.take_of_length_le (by omega)]
      exact hpperm.append_right _

/-! ## The request -/

theorem stored_perm (k : Kind) (g : SgParams) {kept l : List k.Entry}
    (hlen : kept.length ≤ l.length) (hperm : (l.take kept.length).Perm kept) :
    ((if g.bUseSGParams then sgUpdateScanParams k g kept.length l else l).take kept.length).Perm
      (kept.map (k.stored g)) := by
  unfold Kind.stored
  cases g.bUseSGParams with
  | false => simpa using hperm
  | true =>
    have hn : ((l.take kept.length).map (k.compensate g)).length = kept.length := by
      rw [List.length_map, List.length_take_of_le hlen]
    simp only [if_true, sgUpdateScanParams]
    rw [List.take_left' hn]
    exact hperm.map _

theorem startVerified_right (k : Kind) (c : Call) (p : UScanChannels k)
    (hcheck : c.checkAlloc = true) :
    ∃ r out, startVerified k c p = some (r, out) ∧ Right k c p r out := by
  obtain ⟨⟨r, kept⟩, hallowed⟩ := allowed_total k c.reg p.requested
  obtain ⟨l, hverify, htake, hlen⟩ := verify_spec k p hallowed
  unfold startVerified
  rw [hcheck, hverify]
  simp only [Option.bind_eq_bind, Option.bind_some]
  by_cases hkept : kept.length = 0
  · rw [if_pos hkept]
    obtain rfl := List.length_eq_zero_iff.mp hkept
    exact ⟨r, none, rfl, .refused r hallowed⟩
  · obtain ⟨l', hmix, hmixlen, hperm⟩ := mix_spec hlen
    rw [if_neg hkept, hmix]
    refine ⟨r, _, rfl, .sent r kept _ hallowed (fun h => hkept (congrArg List.length h)) ?_⟩
    rw [htake] at hperm
    exact (stored_perm k c.sg (hmixlen ▸ hlen) hperm)

/-- **The channels that a scan request scans**: for every request of every kind, every regulatory
domain and every course of its answers, where there is memory for the check. -/
theorem start_allowed (k : Kind) (c : Call) (p : UScanChannels k) (hcheck : c.checkAlloc = true) :
    ∃ r out, startRequest k c p = some (r, out) ∧ Right k c p r out := by
  unfold startRequest
  split
  · rename_i h
    obtain ⟨hk, hm⟩ := Bool.and_eq_true_iff.mp h
    exact ⟨c.reg, none, rfl, .noMemory hk (Bool.not_eq_true' _ ▸ hm)⟩
  · exact startVerified_right k c p hcheck

/-! ## What does change -/

namespace Sample

/-- 802.11d and 802.11h are enabled, and no country is known: every channel is allowed for passive
scanning and none for active scanning. -/
def domain : RegDomain where
  spectrumManagementEnabled := true
  regulatoryDomainEnabled := true
  scanControlTable := fun _ _ => 0
  uDesiredTemporaryTxPower := 0
  uTemporaryTxPower := 0
  uUserMaxTxPower := 200
  bTemporaryTxPowerEnable := false
  uPowerConstraint := 0
  uExternTxPowerPreferred := 250
  minDfsChannelNum := 52
  maxDfsChannelNum := 140
  country := fun _ => none
  countryWasFound := fun _ => false
  uLastCountryReceivedTs := 0
  uTimeOutToResetCountryMs := 0
  supportedChannels := fun _ _ => ⟨false, false, false, 0, 0⟩
  txPowerDbm := 0

/-- A start call; `checkAlloc` says whether there is memory for the check. -/
def call (checkAlloc bUseSGParams : Bool) : Call where
  ownAlloc := true
  checkAlloc := checkAlloc
  reg := ⟨domain, fun _ => ⟨0, true, none, .band24GHz, true⟩⟩
  sg := ⟨bUseSGParams, 100, 50⟩

def periodicRequest (e : TPeriodicChannelEntry) : UScanChannels .periodic where
  numOfChannels := 1
  channelEntry := List.replicate 37 e
  length_eq := List.length_replicate
  numOfChannels_le := by decide

def oneShotRequest (scanType : EScanType) (band : ERadioBand) (e : TScanNormalChannelEntry) :
    UScanChannels (.normal scanType band) where
  numOfChannels := 1
  channelEntry := List.replicate 16 e
  length_eq := List.length_replicate
  numOfChannels_le := Nat.le_of_ble_eq_true rfl

def dfsEntry : TPeriodicChannelEntry := ⟨.band50GHz, 52, .normalActive, 30, 60, 100⟩

/-- An entry for a channel, with dwell times of 60 and 30. -/
def entry (channel : UInt8) : TScanNormalChannelEntry := ⟨[], 60, 30, 0, 0, 100, channel⟩

end Sample

theorem start_allowed_sample :
    ∃ r out, startRequest .periodic (Sample.call true false)
        (Sample.periodicRequest Sample.dfsEntry) = some (r, out) ∧
      Right .periodic (Sample.call true false) (Sample.periodicRequest Sample.dfsEntry) r out :=
  start_allowed .periodic (Sample.call true false) (Sample.periodicRequest Sample.dfsEntry) rfl

/-- **Not only the transmit power changes, and not all channels are checked.** A DFS channel of a
periodic request gets another scan type, with the parameters for Bluetooth the dwell times are
longer, and without memory for the check a channel is scanned that is not allowed. -/
theorem channels_change :
    (∃ r l, startRequest .periodic (Sample.call true false)
        (Sample.periodicRequest Sample.dfsEntry) = some (r, some (1, l)) ∧
      l.take 1 = [{ Sample.dfsEntry with
        eScanType := .pactsive
        uTxPowerLevelDbm := 0 }]) ∧
    (∃ r l, startRequest (.normal .normalPassive .band24GHz) (Sample.call true true)
        (Sample.oneShotRequest .normalPassive .band24GHz (Sample.entry 1)) = some (r, some (1, l)) ∧
      l.take 1 = [{ Sample.entry 1 with
        minChannelDwellTime := 45
        maxChannelDwellTime := 90
        txPowerDbm := 0 }]) ∧
    (∃ r, startRequest (.normal .normalActive .band50GHz) (Sample.call true false)
        (Sample.oneShotRequest .normalActive .band50GHz (Sample.entry 52)) = some (r, none) ∧
      isDfsChannel Sample.domain .band50GHz 52 = true ∧
      ∃ r' ret, getScanCapabilities (Sample.call true false).reg ⟨false, 52, .band50GHz⟩ =
        some (r', ret) ∧ ret.channelValidity = true) ∧
    (∃ r l, startRequest (.normal .normalActive .band24GHz) (Sample.call false false)
        (Sample.oneShotRequest .normalActive .band24GHz (Sample.entry 1)) = some (r, some (1, l)) ∧
      l.take 1 = [Sample.entry 1] ∧
      ∃ r', Kind.allowed (.normal .normalActive .band24GHz) (Sample.call false false).reg
        (Sample.oneShotRequest .normalActive .band24GHz (Sample.entry 1)).requested =
          some (r', [])) := by
  refine ⟨⟨_, _, rfl, ?_⟩, ⟨_, _, rfl, ?_⟩, ⟨_, rfl, rfl, _, _, rfl, rfl⟩, ⟨_, _, rfl, rfl, _, rfl⟩⟩
  · rfl
  · rfl

end ArchosGpl.Wlan.ScanCncn
