import ArchosGpl.Wlan.RegulatoryDomain.Model

/-!
# The channel tables of the regulatory domain

`Within` is the exact condition under which a call stays inside the tables, and
**`tables_within_iff`** says so of runs. The code leaves its tables in two ways: with a country IE
that has a triplet starting below the first channel of the band, and with a validity update of a
channel between the bands.

**`country_described`**: after an accepted country IE, and until the tables are written again, a
channel of the band is valid and carries the power of the last triplet that covers it, or is invalid
where none does, and the other band is as the expiry check left it.
-/

open Function (update update_of_ne update_self)

namespace ArchosGpl.Wlan.RegulatoryDomain

open Lib

variable {s t u : RegDomain} {env : Env} {b b' : Band} {i channel : ℕ} {c : TCountry}
  {tr : TripletChannel} {i' : RegDomain.Input}

/-! ## Indices -/

theorem index8_eq {channel first : ℕ} (h : first ≤ channel) (hc : channel < first + 256) :
    index8 channel first = channel - first := by
  unfold index8
  omega

theorem locate_lt (h : RegDomain.locate channel = some (b, i)) : i < b.numberOfChannels := by
  unfold RegDomain.locate at h
  split at h
  · cases h
  · rename_i hrange
    split at h
    · cases h
      rw [index8_eq (by omega) (by omega)]
      simp only [Band.numberOfChannels]
      omega
    · change (if 14 ≤ index8 channel 1 then none else some (Band.b24, index8 channel 1)) = _ at h
      split at h
      · cases h
      · cases h
        simp only [Band.numberOfChannels]
        omega

theorem locateForQuery_lt {band : ERadioBand}
    (h : RegDomain.locateForQuery channel band = some (b, i)) :
    i < b.numberOfChannels ∧ index8 channel b.minChannelNumber = i := by
  cases band with
  | band24GHz | band50GHz =>
    simp only [RegDomain.locateForQuery] at h
    split at h
    · cases h
    · cases h
      refine ⟨?_, rfl⟩
      simp only [Band.numberOfChannels]
      omega
  | dual => cases h

theorem index8_lt_iff (hc : channel < 256) :
    index8 channel b.minChannelNumber < b.numberOfChannels ↔
      b.minChannelNumber ≤ channel ∧ channel ≤ b.maxChannelNumber := by
  cases b <;> simp only [index8, Band.minChannelNumber, Band.numberOfChannels,
    Band.maxChannelNumber] <;> omega

namespace RegDomain

theorem entry_eq (s : RegDomain) (hi : i < b.numberOfChannels) :
    s.entry b i = some (s.supportedChannels b i) :=
  if_pos hi

theorem modify_eq (s : RegDomain) (hi : i < b.numberOfChannels)
    (v : ChannelCapability → ChannelCapability) :
    s.modify b i v = some (s.setTable b
      (update (s.supportedChannels b) i (v (s.supportedChannels b i)))) := by
  simp [modify, modifyAt, hi]

theorem entry_none (s : RegDomain) (hi : b.numberOfChannels ≤ i) : s.entry b i = none :=
  if_neg (by omega)

/-! ## The scan control table -/

theorem scanned_lt (hi : i ∈ scanned b) : i < b.numberOfChannels := by
  cases b with
  | b24 => exact List.mem_range.mp hi
  | b5 =>
    obtain ⟨channel, hc, rfl⟩ := List.mem_map.mp hi
    obtain ⟨k, hk, rfl⟩ := List.mem_range'.mp hc
    rw [index8_eq (by omega) (by omega)]
    simp only [Band.numberOfChannels]
    omega

theorem scanControlLoop_total (s : RegDomain) (b : Band) :
    ∃ T, s.scanControlLoop b = some (s.setTable b T) := by
  have h := (writes_modifyAt b.numberOfChannels id fun i =>
    fromMask s.regulatoryDomainEnabled (s.scanControlTable b i)).foldlM
      (T := s.supportedChannels b).mpr ⟨fun i hi => scanned_lt hi, rfl⟩
  exact ⟨_, congrArg (Option.map (s.setTable b)) h⟩

theorem scanControlTable_total (s : RegDomain) :
    ∃ T, s.setSupportedChannelsAccording2ScanControlTable =
      some { s with supportedChannels := T } := by
  obtain ⟨T24, h24⟩ := s.scanControlLoop_total .b24
  obtain ⟨T5, h5⟩ := (s.setTable .b24 T24).scanControlLoop_total .b5
  refine ⟨((s.setTable .b24 T24).setTable .b5 T5).supportedChannels, ?_⟩
  unfold setSupportedChannelsAccording2ScanControlTable
  rw [h24, Option.bind_some, h5]
  rfl

theorem checkCountryCodeExpiry_cases (env : Env) (s : RegDomain) :
    s.expired env = false ∧ s.checkCountryCodeExpiry env = some s ∨
      s.expired env = true ∧ ∃ T, s.checkCountryCodeExpiry env =
        some { s with countryWasFound := fun _ => false, supportedChannels := T } := by
  unfold checkCountryCodeExpiry
  cases hx : s.expired env with
  | false => exact .inl ⟨rfl, rfl⟩
  | true => exact .inr ⟨rfl, scanControlTable_total _⟩

end RegDomain

/-! ## Country IEs -/

/-- The triplet covers the channel: it is one of its channels, in steps of the band. -/
def TripletChannel.covers (t : TripletChannel) (b : Band) (channel : ℕ) : Bool :=
  (List.range t.numberOfChannels.toNat).any fun k =>
    t.firstChannelNumber.toNat + k * b.channelStep = channel

def TCountry.lastCovering (c : TCountry) (b : Band) (channel : ℕ) : Option TripletChannel :=
  c.triplets.reverse.find? (·.covers b channel)

/-- The power of a channel under the IE, in tenths of dBm. -/
def TCountry.power (c : TCountry) (b : Band) (channel : ℕ) : ℕ :=
  match c.lastCovering b channel with
  | some t => min maxTxPower (10 * t.maxTxPowerLevel.toNat)
  | none => minTxPower

/-- What the table says of a channel under the IE. -/
def TCountry.describes (c : TCountry) (b : Band) (channel : ℕ) (old : ChannelCapability) :
    ChannelCapability where
  channelValidityPassive := (c.lastCovering b channel).isSome
  channelValidityActive := (c.lastCovering b channel).isSome
  bChanneInCountryIe := (c.lastCovering b channel).isSome
  uMaxTxPowerDomain := .ofNat (c.power b channel)
  timestamp := old.timestamp

/-- No triplet with a channel starts below the band. -/
def TCountry.StartsIn (c : TCountry) (b : Band) : Prop :=
  ∀ t ∈ c.triplets, t.numberOfChannels ≠ 0 → b.minChannelNumber ≤ t.firstChannelNumber.toNat

instance (c : TCountry) (b : Band) : Decidable (c.StartsIn b) := by
  unfold TCountry.StartsIn
  infer_instance

theorem power_eq (p : UInt8) :
    UInt8.ofInt (dbm2DbmDiv10 p.toNat) = .ofNat (min maxTxPower (10 * p.toNat)) := by
  have hdbm : dbm2DbmDiv10 p.toNat = (min maxTxPower (10 * p.toNat) : ℕ) := by
    unfold dbm2DbmDiv10 maxTxPower
    split <;> omega
  have hlt : min maxTxPower (10 * p.toNat) ≤ 250 := Nat.min_le_left _ _
  unfold UInt8.ofInt
  congr 1
  omega

/-- The entries that the loop over a triplet's channels writes. -/
def tripletHits (b : Band) (t : TripletChannel) (i : ℕ) : Bool :=
  (List.range t.numberOfChannels.toNat).any fun k =>
    t.firstChannelNumber.toNat + k * b.channelStep ≤ b.maxChannelNumber &&
      index8 (t.firstChannelNumber.toNat + k * b.channelStep) b.minChannelNumber = i

/-- The loop over a triplet's channels stays in the table exactly if the triplet starts in the
band. -/
theorem markTriplet_writes (b : Band) :
    Writes (RegDomain.markTriplet b)
      (fun t => t.numberOfChannels ≠ 0 → b.minChannelNumber ≤ t.firstChannelNumber.toNat)
      (tripletHits b) RegDomain.mark := by
  intro T t U
  have hloop := ((writes_modifyAt b.numberOfChannels
    (fun k => index8 (t.firstChannelNumber.toNat + k * b.channelStep) b.minChannelNumber)
    fun _ => RegDomain.mark t).guarded
      fun k => t.firstChannelNumber.toNat + k * b.channelStep ≤ b.maxChannelNumber).loop
        (l := List.range t.numberOfChannels.toNat) (T := T) (U := U) fun _ => rfl
  refine hloop.trans (and_congr_left' ?_)
  have hn : t.numberOfChannels ≠ 0 ↔ 0 < t.numberOfChannels.toNat := by
    rw [Nat.pos_iff_ne_zero, ne_eq, ne_eq, ← UInt8.toNat_inj]
    rfl
  have hfirst := t.firstChannelNumber.toNat_lt
  constructor
  · intro h hne
    -- the first channel of the triplet would be written before the table
    have h0 := h 0 (List.mem_range.mpr (hn.mp hne))
    rw [Nat.zero_mul, Nat.add_zero, index8_lt_iff hfirst] at h0
    by_cases hmax : t.firstChannelNumber.toNat ≤ b.maxChannelNumber
    · exact (h0 hmax).1
    · cases b <;> simp only [Band.maxChannelNumber, Band.minChannelNumber] at hmax ⊢ <;> omega
  · intro h k hk hmax
    have hmin := h (hn.mpr (Nat.zero_lt_of_lt (List.mem_range.mp hk)))
    refine (index8_lt_iff ?_).mpr ⟨by omega, hmax⟩
    cases b <;> simp only [Band.maxChannelNumber] at hmax <;> omega

theorem tripletHits_eq (ht : tr.numberOfChannels ≠ 0 →
    b.minChannelNumber ≤ tr.firstChannelNumber.toNat) (hi : i < b.numberOfChannels) :
    tripletHits b tr i = tr.covers b (b.minChannelNumber + i) := by
  by_cases hn : tr.numberOfChannels = 0
  · simp [tripletHits, TripletChannel.covers, hn]
  · have hmin := ht hn
    unfold tripletHits TripletChannel.covers
    congr 1
    funext k
    rw [← Bool.decide_and, decide_eq_decide]
    cases b <;>
      simp only [Band.minChannelNumber, Band.maxChannelNumber, Band.numberOfChannels,
        Band.channelStep, index8] at * <;> omega

namespace RegDomain

theorem setCountry_eq_some (env : Env) (c : TCountry) (b : Band) (s t : RegDomain) :
    s.setCountry env c b = some t ↔ c.StartsIn b ∧ t =
      { s with
        countryWasFound := update s.countryWasFound b true
        country := update s.country b (some c)
        uLastCountryReceivedTs := env.osTimeStampMs
        supportedChannels := update s.supportedChannels b
          (applied (tripletHits b) mark c.triplets
            (paint (fun i => (List.range b.numberOfChannels).any (· = i)) cleared
              (s.supportedChannels b))) } := by
  have hclear := ((writes_modifyAt b.numberOfChannels id fun _ => cleared).loop
    (T := s.supportedChannels b) (l := List.range b.numberOfChannels) fun _ => rfl).mpr
      ⟨fun i hi => List.mem_range.mp hi, rfl⟩
  unfold setCountry
  simp only [id] at hclear
  simp only [Option.bind_eq_bind, hclear, Option.bind_some, Option.bind_eq_some_iff,
    (markTriplet_writes b).foldlM]
  constructor
  · rintro ⟨T, ⟨hin, rfl⟩, ht⟩
    exact ⟨hin, (Option.some.inj ht).symm⟩
  · rintro ⟨hin, rfl⟩
    exact ⟨_, ⟨hin, rfl⟩, rfl⟩

theorem table_described (h : c.StartsIn b) (hi : i < b.numberOfChannels)
    (T : ℕ → ChannelCapability) :
    applied (tripletHits b) mark c.triplets
      (paint (fun i => (List.range b.numberOfChannels).any (· = i)) cleared T) i =
        c.describes b (b.minChannelNumber + i) (T i) := by
  have hcleared : paint (fun i => (List.range b.numberOfChannels).any (· = i)) cleared T i =
      cleared (T i) := by
    refine if_pos ?_
    simpa using hi
  have hfilter : c.triplets.filter (tripletHits b · i) =
      c.triplets.filter (·.covers b (b.minChannelNumber + i)) :=
    List.filter_congr fun t ht => tripletHits_eq (h t ht) hi
  simp only [applied, hcleared, hfilter, foldl_overwrite (v := mark) fun _ _ _ => rfl,
    List.getLast?_filter]
  unfold TCountry.describes TCountry.power TCountry.lastCovering
  cases c.triplets.reverse.find? (·.covers b (b.minChannelNumber + i)) with
  | none => rfl
  | some t => simp [mark, cleared, power_eq]

/-! ## Which calls stay in the tables -/

/-- A country IE for the band is taken as a new one. -/
def Accepts (s : RegDomain) (env : Env) (b : Band) : Prop :=
  s.regulatoryDomainEnabled = true ∧ (s.expired env = true ∨ s.countryWasFound b = false)

instance (s : RegDomain) (env : Env) (b : Band) : Decidable (s.Accepts env b) := by
  unfold Accepts
  infer_instance

/-- The country IE that a parameter brings, and the band it is for. -/
def delivers (env : Env) : SetParam → Option (TCountry × Band)
  | .country (some pCountry) => some (pCountry, currentBand env)
  | .country24 pCountry => some (pCountry, .b24)
  | .country5 pCountry => some (pCountry, .b5)
  | _ => none

/-- The parameter makes the module compute the transmit power. -/
def recomputes (s : RegDomain) : SetParam → Bool
  | .setPowerConstraint powerConstraint =>
    s.spectrumManagementEnabled &&
      s.uPowerConstraint != toU8 (dbm2DbmDiv10 powerConstraint.toInt)
  | .externTxPowerPreferred externTxPowerPreferred =>
    toU8 (dbm2DbmDiv10 externTxPowerPreferred.toInt) != s.uExternTxPowerPreferred
  | .currentTxPowerInDbm desiredTxPower => (s.uUserMaxTxPower : ℤ) != desiredTxPower.toInt
  | .txPowerAfterSelection | .temporaryTxAttenuation _ => true
  | _ => false

/-- The serving channel, where there is one, is in the table that its power is read from. -/
def ServingWithin (env : Env) : Prop :=
  env.osMemoryAlloc = true → ∀ channel ∈ env.primarySite,
    (powerBand env.radioBand).minChannelNumber ≤ channel.toNat ∧
      channel.toNat ≤ (powerBand env.radioBand).maxChannelNumber

/-- **The condition under which a call stays inside the tables.** -/
def Within (s : RegDomain) : Input → Prop
  | .setParam env p =>
    (∀ c b, delivers env p = some (c, b) → s.Accepts env b → c.StartsIn b) ∧
      (∀ channelNum v, p = .setChannelValidity channelNum v →
        channelNum.toNat ≤ 14 ∨ 36 ≤ channelNum.toNat) ∧
      (s.recomputes p = true → ServingWithin env)
  | .getParam _ _ => True

theorem setSupportedChannels_of_accepts (h : s.Accepts env b) (c : TCountry) :
    ∃ u, s.checkCountryCodeExpiry env = some u ∧
      s.setSupportedChannelsAccording2CountryIe env c b =
        (u.setCountry env c b).map (·, .ok) := by
  obtain ⟨hen, hnew⟩ := h
  obtain ⟨hx, hc⟩ | ⟨-, T, hc⟩ := s.checkCountryCodeExpiry_cases env
  · have hfound : s.countryWasFound b = false := by simpa [hx] using hnew
    refine ⟨s, hc, ?_⟩
    simp only [setSupportedChannelsAccording2CountryIe, hen, hc, hfound, Option.bind_eq_bind,
      Option.bind_some, Bool.not_true, Bool.false_eq_true, if_false]
    cases s.setCountry env c b <;> rfl
  · refine ⟨_, hc, ?_⟩
    simp only [setSupportedChannelsAccording2CountryIe, hen, hc, Option.bind_eq_bind,
      Option.bind_some, Bool.not_true, Bool.false_eq_true, if_false]
    cases setCountry env c b _ <;> rfl

theorem setSupportedChannels_of_not_accepts (h : ¬s.Accepts env b) (c : TCountry) :
    ∃ u, s.setSupportedChannelsAccording2CountryIe env c b = some u ∧
      u.1.supportedChannels = s.supportedChannels := by
  unfold setSupportedChannelsAccording2CountryIe
  cases hen : s.regulatoryDomainEnabled with
  | false => exact ⟨(s, .nok), rfl, rfl⟩
  | true =>
    obtain ⟨hx, hc⟩ | ⟨hx, -⟩ := s.checkCountryCodeExpiry_cases env
    · have hfound : s.countryWasFound b = true := by
        by_contra hf
        exact h ⟨hen, .inr (by simpa using hf)⟩
      simp only [hc, hfound, Option.bind_eq_bind, Option.bind_some, Bool.not_true,
        Bool.false_eq_true, if_false, if_true]
      split <;> exact ⟨_, rfl, rfl⟩
    · exact absurd ⟨hen, .inl hx⟩ h

theorem setSupportedChannels_defined (s : RegDomain) (env : Env) (c : TCountry) (b : Band) :
    (∃ t, s.setSupportedChannelsAccording2CountryIe env c b = some t) ↔
      (s.Accepts env b → c.StartsIn b) := by
  by_cases ha : s.Accepts env b
  · obtain ⟨u, -, he⟩ := setSupportedChannels_of_accepts ha c
    rw [he]
    constructor
    · rintro ⟨t, ht⟩ -
      obtain ⟨v, hv, -⟩ := Option.map_eq_some_iff.mp ht
      exact ((setCountry_eq_some env c b u v).mp hv).1
    · intro h
      exact ⟨_, by rw [(setCountry_eq_some env c b u _).mpr ⟨h ha, rfl⟩]; rfl⟩
  · obtain ⟨u, hu, -⟩ := setSupportedChannels_of_not_accepts ha c
    exact ⟨fun _ h => absurd h ha, fun _ => ⟨u, hu⟩⟩

theorem updateCurrTxPower_defined (s : RegDomain) (env : Env) :
    (∃ t, s.updateCurrTxPower env = some t) ↔ ServingWithin env := by
  unfold updateCurrTxPower ServingWithin
  cases hm : env.osMemoryAlloc with
  | false => simp
  | true =>
    cases hp : env.primarySite with
    | none => simp
    | some channel =>
      have hlt := index8_lt_iff (b := powerBand env.radioBand) channel.toNat_lt
      simp only [getMaxPowerAllowed, entry, entryAt, hlt]
      by_cases hin : (powerBand env.radioBand).minChannelNumber ≤ channel.toNat ∧
          channel.toNat ≤ (powerBand env.radioBand).maxChannelNumber
      · simp [hin]
      · simp [hin]

theorem setChannelValidity_defined (s : RegDomain) (channelNum : UInt16) (v : Bool) :
    (∃ t, s.setChannelValidity channelNum v = some t) ↔
      (channelNum.toNat ≤ 14 ∨ 36 ≤ channelNum.toNat) := by
  unfold setChannelValidity locateForValidity
  by_cases hr : channelNum.toNat = 0 ∨ 180 < channelNum.toNat
  · rw [if_pos hr]
    exact ⟨fun _ => by omega, fun _ => ⟨s, rfl⟩⟩
  · rw [if_neg hr]
    by_cases h14 : channelNum.toNat ≤ 14
    · have hi : index8 channelNum.toNat 1 < Band.b24.numberOfChannels := by
        rw [index8_eq (by omega) (by omega)]
        simp only [Band.numberOfChannels]
        omega
      simp only [if_pos h14, s.entry_eq hi, s.modify_eq hi, Option.bind_eq_bind, Option.bind_some]
      refine ⟨fun _ => .inl h14, fun _ => ?_⟩
      split <;> exact ⟨_, rfl⟩
    · by_cases h36 : 36 ≤ channelNum.toNat
      · have hi : index8 channelNum.toNat 36 < Band.b5.numberOfChannels := by
          rw [index8_eq (by omega) (by omega)]
          simp only [Band.numberOfChannels]
          omega
        simp only [if_neg h14, s.entry_eq hi, s.modify_eq hi, Option.bind_eq_bind,
          Option.bind_some]
        refine ⟨fun _ => .inr h36, fun _ => ?_⟩
        split <;> exact ⟨_, rfl⟩
      · have hi : Band.b5.numberOfChannels ≤ index8 channelNum.toNat 36 := by
          simp only [Band.numberOfChannels, index8]
          omega
        simp only [if_neg h14, s.entry_none hi, Option.bind_eq_bind, Option.bind_none]
        exact ⟨fun ⟨_, h⟩ => absurd h (by simp), fun h => by omega⟩

theorem updateChannelsTs_total (s : RegDomain) (env : Env) (channel : UInt8) :
    ∃ T, s.updateChannelsTs env channel = some { s with supportedChannels := T } := by
  unfold updateChannelsTs
  cases hl : locate channel.toNat with
  | none => exact ⟨s.supportedChannels, rfl⟩
  | some p =>
    have hi := locate_lt hl
    simp only [s.entry_eq hi, s.modify_eq hi, Option.bind_eq_bind, Option.bind_some]
    split
    · exact ⟨s.supportedChannels, rfl⟩
    · exact ⟨_, rfl⟩

theorem isChannelSupprted_total (s : RegDomain) (env : Env) (channel : UInt8) :
    ∃ T ok, s.isChannelSupprted env channel = some ({ s with supportedChannels := T }, ok) ∧
      ((∀ b i, locate channel.toNat = some (b, i) →
        s.dfsStale env channel.toNat (s.supportedChannels b i) = false) →
          T = s.supportedChannels) := by
  unfold isChannelSupprted
  cases hl : locate channel.toNat with
  | none => exact ⟨s.supportedChannels, false, rfl, fun _ => rfl⟩
  | some p =>
    obtain ⟨b, i⟩ := p
    have hi := locate_lt hl
    simp only [s.entry_eq hi, s.modify_eq hi, Option.bind_eq_bind, Option.bind_some]
    cases hd : s.dfsStale env channel.toNat (s.supportedChannels b i) with
    | false => exact ⟨s.supportedChannels, _, rfl, fun _ => rfl⟩
    | true =>
      simp only [if_true, Option.bind_some, entry_eq _ hi]
      exact ⟨_, _, rfl, fun h => absurd (h b i rfl) (by simp [hd])⟩

theorem getMaxPowerAllowed_total (s : RegDomain) (bServingChannel : Bool)
    (hi : index8 channel b.minChannelNumber < b.numberOfChannels) :
    ∃ p, s.getMaxPowerAllowed channel b bServingChannel = some p := by
  unfold getMaxPowerAllowed
  rw [s.entry_eq hi]
  exact ⟨_, rfl⟩

theorem capability_total (s : RegDomain) (env : Env) (req : ChannelCapabilityReq)
    (c : ChannelCapability)
    (hi : index8 req.channelNum.toNat b.minChannelNumber < b.numberOfChannels) :
    ∃ ret, s.capability env req b c = some ret := by
  unfold capability
  split
  · split
    · exact ⟨_, rfl⟩
    · obtain ⟨power, hp⟩ := s.getMaxPowerAllowed_total
        ((env.primarySite.getD 0).toNat == req.channelNum.toNat) hi
      exact ⟨_, congrArg (Option.map _) hp⟩
  · exact ⟨_, rfl⟩

/-- An active query clears a DFS channel that was not heard of for too long, and nothing else is
changed by a query. -/
theorem getChannelCapability_total (s : RegDomain) (env : Env) (req : ChannelCapabilityReq) :
    ∃ T ret, s.getChannelCapability env req = some ({ s with supportedChannels := T }, ret) ∧
      ((∀ b i, req.activeScanning = true →
        locateForQuery req.channelNum.toNat req.band = some (b, i) →
        s.dfsStale env req.channelNum.toNat (s.supportedChannels b i) = false) →
          T = s.supportedChannels) := by
  unfold getChannelCapability
  dsimp only
  split
  · exact ⟨s.supportedChannels, _, rfl, fun _ => rfl⟩
  · cases hl : locateForQuery req.channelNum.toNat req.band with
    | none => exact ⟨s.supportedChannels, _, rfl, fun _ => rfl⟩
    | some p =>
      obtain ⟨b, i⟩ := p
      obtain ⟨hi, hidx⟩ := locateForQuery_lt hl
      obtain ⟨ret, hret⟩ := s.capability_total env req (s.supportedChannels b i)
        (b := b) (by rw [hidx]; exact hi)
      dsimp only
      split
      · exact ⟨s.supportedChannels, _, rfl, fun _ => rfl⟩
      · simp only [s.entry_eq hi, s.modify_eq hi, hret, Option.bind_eq_bind, Option.bind_some]
        split
        · rename_i hstale
          obtain ⟨hact, hd⟩ := Bool.and_eq_true_iff.mp hstale
          exact ⟨_, _, rfl, fun h => absurd (h b i hact rfl) (by simp [hd])⟩
        · exact ⟨s.supportedChannels, _, rfl, fun _ => rfl⟩

theorem buildDefaultListOfChannelsPerBand_total (s : RegDomain) (b : Band) :
    ∃ l, s.buildDefaultListOfChannelsPerBand b = some l := by
  suffices h : ∀ (is : List ℕ) (l : List ℕ), (∀ i ∈ is, i < b.numberOfChannels) →
      ∃ l', is.foldlM (fun pDefaultChannels channelIndex => do
        let c ← s.entry b channelIndex
        some (if c.channelValidityPassive then
          pDefaultChannels ++ [channelIndex + b.minChannelNumber] else pDefaultChannels)) l =
            some l' from h _ _ fun i hi => List.mem_range.mp hi
  intro is
  induction is with
  | nil => exact fun l _ => ⟨l, rfl⟩
  | cons i is ih =>
    intro l h
    obtain ⟨hi, his⟩ := List.forall_mem_cons.mp h
    rw [List.foldlM_cons, s.entry_eq hi]
    exact ih _ his

/-- The channel whose age a query looks at, and its entry. -/
def queried : GetParam → Option (UInt8 × Band × ℕ)
  | .isChannelSupported channel => (locate channel.toNat).map (channel, ·)
  | .getScanCapabilities req =>
    if req.activeScanning then
      (locateForQuery req.channelNum.toNat req.band).map (req.channelNum, ·)
    else none
  | _ => none

/-- The query is about a DFS channel that was not heard of for too long. -/
def TimedOut (s : RegDomain) (env : Env) (p : GetParam) : Prop :=
  ∃ channel b i, queried p = some (channel, b, i) ∧
    s.dfsStale env channel.toNat (s.supportedChannels b i) = true

/-- **A query never leaves the tables**, and changes them only for the two time-outs. -/
theorem getParam_total (s : RegDomain) (env : Env) (p : GetParam) :
    ∃ found T a, s.getParam env p =
        some ({ s with countryWasFound := found, supportedChannels := T }, a) ∧
      (s.expired env = false → ¬s.TimedOut env p → T = s.supportedChannels) := by
  obtain ⟨found, U, hv, hsame⟩ : ∃ found U, s.checkCountryCodeExpiry env =
      some { s with countryWasFound := found, supportedChannels := U } ∧
        (s.expired env = false → found = s.countryWasFound ∧ U = s.supportedChannels) := by
    obtain ⟨-, hc⟩ | ⟨hx, T, hc⟩ := s.checkCountryCodeExpiry_cases env
    · exact ⟨_, _, hc, fun _ => ⟨rfl, rfl⟩⟩
    · exact ⟨_, _, hc, fun h => absurd h (by simp [hx])⟩
  obtain ⟨v, hveq⟩ : ∃ v, v = { s with countryWasFound := found, supportedChannels := U } :=
    ⟨_, rfl⟩
  have hvs : s.expired env = false → v = s := by
    intro hx
    obtain ⟨rfl, rfl⟩ := hsame hx
    exact hveq
  unfold getParam
  simp only [hv, ← hveq, Option.bind_eq_bind, Option.bind_some]
  cases p with
  | getScanCapabilities req =>
    obtain ⟨T, ret, hr, hframe⟩ := v.getChannelCapability_total env req
    simp only [hr, Option.map_some]
    refine ⟨found, T, _, by rw [hveq], fun hx hto => ?_⟩
    have hsv := hvs hx
    subst hsv
    refine hframe fun b i hact hl => ?_
    by_contra hd
    exact hto ⟨req.channelNum, b, i, by simp [queried, hact, hl], by simpa using hd⟩
  | isChannelSupported channel =>
    obtain ⟨T, ok, hr, hframe⟩ := v.isChannelSupprted_total env channel
    simp only [hr, Option.map_some]
    refine ⟨found, T, _, by rw [hveq], fun hx hto => ?_⟩
    have hsv := hvs hx
    subst hsv
    refine hframe fun b i hl => ?_
    by_contra hd
    exact hto ⟨channel, b, i, by simp [queried, hl], by simpa using hd⟩
  | allSupportedChannels band =>
    obtain ⟨l, hl⟩ := v.buildDefaultListOfChannelsPerBand_total (powerBand band)
    simp only [hl, Option.map_some]
    exact ⟨found, U, _, by rw [hveq], fun hx _ => (hsame hx).2⟩
  | field => exact ⟨found, U, _, by rw [hveq], fun hx _ => (hsame hx).2⟩

/-! ## Runs -/

theorem map_defined {α β : Type*} {o : Option α} {f : α → β} :
    (∃ t, o.map f = some t) ↔ ∃ a, o = some a := by
  cases o <;> simp

theorem setParam_plain (s : RegDomain) (env : Env) (p : SetParam) (hd : delivers env p = none)
    (hv : ∀ channelNum v, p ≠ .setChannelValidity channelNum v) (hr : s.recomputes p = false) :
    ∃ r, s.setParam env p = some r ∧ ((∀ channel, p ≠ .updateChannelValidity channel) →
      p ≠ .enableDisable80211d false → r.1.supportedChannels = s.supportedChannels) := by
  cases p with
  | country pCountry =>
    cases pCountry with
    | none => exact ⟨_, rfl, fun _ _ => rfl⟩
    | some pCountry => cases hd
  | setPowerConstraint x | externTxPowerPreferred x | currentTxPowerInDbm x =>
    exact ⟨_, congrArg (Option.map _) (if_neg (by simpa [recomputes] using hr)), fun _ _ => rfl⟩
  | setChannelValidity channelNum v => exact absurd rfl (hv channelNum v)
  | txPowerAfterSelection => cases hr
  | disconnect | enableDisable80211h enable => exact ⟨_, rfl, fun _ _ => rfl⟩
  | updateChannelValidity channel =>
    obtain ⟨T, hT⟩ := s.updateChannelsTs_total env channel
    exact ⟨_, congrArg (Option.map _) hT, fun h => absurd rfl (h channel)⟩
  | temporaryTxAttenuation on => cases hr
  | enableDisable80211d enable =>
    simp only [setParam, enableDisable80211d]
    split
    · exact ⟨_, rfl, fun _ _ => rfl⟩
    · cases enable with
      | true => exact ⟨_, rfl, fun _ _ => rfl⟩
      | false =>
        obtain ⟨T, hT⟩ := scanControlTable_total
          { s with regulatoryDomainEnabled := false, countryWasFound := fun _ => false }
        exact ⟨_, congrArg (Option.map (·, TiStatus.ok)) hT, fun _ h => absurd rfl h⟩
  | country24 pCountry => cases hd
  | country5 pCountry => cases hd
  | dfsChannelsRange lo hi =>
    refine ⟨_, rfl, fun _ _ => ?_⟩
    unfold setDfsChannelsRange
    split <;> rfl

theorem setParam_recomputes (s : RegDomain) (env : Env) (p : SetParam)
    (hr : s.recomputes p = true) : ∃ s' : RegDomain,
      s'.supportedChannels = s.supportedChannels ∧
        s.setParam env p = (s'.updateCurrTxPower env).map (·, .ok) := by
  cases p with
  | setPowerConstraint x =>
    exact ⟨{ s with uPowerConstraint := toU8 (dbm2DbmDiv10 x.toInt) }, rfl,
      congrArg (Option.map _) (if_pos hr)⟩
  | externTxPowerPreferred x =>
    exact ⟨{ s with uExternTxPowerPreferred := toU8 (dbm2DbmDiv10 x.toInt) }, rfl,
      congrArg (Option.map _) (if_pos hr)⟩
  | currentTxPowerInDbm x =>
    exact ⟨{ s with uUserMaxTxPower := toU8 x.toInt }, rfl, congrArg (Option.map _) (if_pos hr)⟩
  | txPowerAfterSelection => exact ⟨s, rfl, rfl⟩
  | temporaryTxAttenuation on => exact ⟨{ s with bTemporaryTxPowerEnable := on }, rfl, rfl⟩
  | _ => cases hr

theorem setParam_delivers (s : RegDomain) (p : SetParam) (hd : delivers env p = some (c, b)) :
    ∃ f, s.setParam env p = (s.setSupportedChannelsAccording2CountryIe env c b).map f ∧
      ∀ r, (f r).1 = r.1 := by
  cases p with
  | country pCountry =>
    cases pCountry with
    | none => cases hd
    | some pCountry =>
      cases hd
      exact ⟨_, rfl, fun _ => rfl⟩
  | country24 pCountry | country5 pCountry =>
    cases hd
    exact ⟨id, (Option.map_id_apply).symm, fun _ => rfl⟩
  | _ => cases hd

theorem recomputes_of_delivers (s : RegDomain) {p : SetParam} (hd : delivers env p = some (c, b)) :
    s.recomputes p = false ∧ ∀ channelNum v, p ≠ .setChannelValidity channelNum v := by
  cases p with
  | country pCountry | country24 pCountry | country5 pCountry =>
    exact ⟨rfl, fun _ _ => SetParam.noConfusion⟩
  | _ => cases hd

/-- **A call stays inside the tables exactly if it is `Within`.** -/
theorem step_defined_iff (s : RegDomain) (i : Input) : (∃ t, step s i = some t) ↔ s.Within i := by
  cases i with
  | getParam env p =>
    obtain ⟨found, T, a, hr, -⟩ := s.getParam_total env p
    exact ⟨fun _ => trivial, fun _ => ⟨_, congrArg (Option.map _) hr⟩⟩
  | setParam env p =>
    simp only [step, map_defined, Within]
    cases hd : delivers env p with
    | some cb =>
      obtain ⟨c, b⟩ := cb
      obtain ⟨f, hf, -⟩ := s.setParam_delivers p hd
      obtain ⟨hr, hv⟩ := s.recomputes_of_delivers hd
      rw [hf, map_defined, setSupportedChannels_defined]
      constructor
      · intro h
        refine ⟨fun c' b' heq => ?_, fun n v hp => absurd hp (hv n v), fun h => ?_⟩
        · cases heq
          exact h
        · exact absurd h (by simp [hr])
      · exact fun h => h.1 c b rfl
    | none =>
      cases hr : s.recomputes p with
      | true =>
        obtain ⟨s', -, hs'⟩ := s.setParam_recomputes env p hr
        rw [hs', map_defined, updateCurrTxPower_defined]
        refine ⟨fun h => ⟨fun _ _ h' => (by cases h'), fun n v hp => ?_, fun _ => h⟩,
          fun h => h.2.2 rfl⟩
        subst hp
        cases hr
      | false =>
        by_cases hv : ∃ channelNum v, p = .setChannelValidity channelNum v
        · obtain ⟨channelNum, v, rfl⟩ := hv
          simp only [setParam, map_defined, setChannelValidity_defined]
          refine ⟨fun h => ⟨fun _ _ h' => (by cases h'), fun n w hp => ?_, fun h' => (by cases h')⟩,
            fun h => h.2.1 channelNum v rfl⟩
          obtain ⟨rfl, -⟩ := SetParam.setChannelValidity.inj hp
          exact h
        · have hv' : ∀ channelNum v, p ≠ .setChannelValidity channelNum v :=
            fun n v hp => hv ⟨n, v, hp⟩
          exact ⟨fun _ => ⟨fun _ _ h' => (by cases h'), fun n v hp => absurd hp (hv' n v),
            fun h' => (by cases h')⟩, fun _ => (s.setParam_plain env p hd hv' hr).imp fun _ h => h.1⟩

/-- The kinds of calls that write the tables: a country IE that is accepted or finds the country
code expired, an update of a channel's validity or age, 802.11d disabled, and a query at a
time-out. -/
def Changes (s : RegDomain) : Input → Prop
  | .setParam env p =>
    (∃ c b, delivers env p = some (c, b) ∧ s.Accepts env b) ∨
      (∃ channelNum v, p = .setChannelValidity channelNum v) ∨
      (∃ channel, p = .updateChannelValidity channel) ∨ p = .enableDisable80211d false
  | .getParam env p => s.expired env = true ∨ s.TimedOut env p

theorem updateCurrTxPower_cases (h : s.updateCurrTxPower env = some t) :
    ∃ temporary power,
      t = { s with uTemporaryTxPower := temporary, txPowerDbm := power } ∧
      (env.osMemoryAlloc = true → ∀ channel, env.primarySite = some channel →
        ∃ allowed, power ≤ allowed ∧
          s.getMaxPowerAllowed channel.toNat (powerBand env.radioBand) true = some allowed) := by
  unfold updateCurrTxPower at h
  split at h
  · rename_i hm
    exact ⟨_, _, (Option.some.inj h).symm, fun h => absurd h (by simpa using hm)⟩
  · cases hp : env.primarySite with
    | none =>
      simp only [hp] at h
      exact ⟨_, _, (Option.some.inj h).symm, fun _ channel h => absurd h (by simp)⟩
    | some channel =>
      simp only [hp, Option.bind_eq_bind, Option.bind_eq_some_iff] at h
      obtain ⟨allowed, hallowed, ht⟩ := h
      refine ⟨_, _, (Option.some.inj ht).symm, fun _ channel' h' => ⟨allowed, ?_, ?_⟩⟩
      · split
        · exact Nat.min_le_right _ _
        · exact Nat.le_refl _
      · cases h'
        exact hallowed

theorem step_keeps_tables (h : step s i' = some t) (hc : ¬s.Changes i') :
    t.supportedChannels = s.supportedChannels := by
  cases i' with
  | getParam env p =>
    obtain ⟨found, T, a, hr, hsame⟩ := s.getParam_total env p
    simp only [step, hr, Option.map_some, Option.some.injEq] at h
    subst h
    exact hsame (by simpa using fun hx => hc (.inl hx)) fun hto => hc (.inr hto)
  | setParam env p =>
    obtain ⟨r, hr, rfl⟩ := Option.map_eq_some_iff.mp h
    cases hd : delivers env p with
    | some cb =>
      obtain ⟨c, b⟩ := cb
      obtain ⟨f, hf, hfst⟩ := s.setParam_delivers p hd
      obtain ⟨u, hu, htables⟩ := setSupportedChannels_of_not_accepts
        (fun ha => hc (.inl ⟨c, b, hd, ha⟩)) c
      rw [hf, hu, Option.map_some, Option.some.injEq] at hr
      rw [← hr, hfst, htables]
    | none =>
      cases hrec : s.recomputes p with
      | true =>
        obtain ⟨s', htables, hs'⟩ := s.setParam_recomputes env p hrec
        obtain ⟨u, hu, rfl⟩ := Option.map_eq_some_iff.mp (hs'.symm.trans hr)
        obtain ⟨_, _, rfl, -⟩ := updateCurrTxPower_cases hu
        exact htables
      | false =>
        obtain ⟨r', hr', htables⟩ := s.setParam_plain env p hd
          (fun n v hp => hc (.inr (.inl ⟨n, v, hp⟩))) hrec
        cases hr.symm.trans hr'
        exact htables (fun channel hp => hc (.inr (.inr (.inl ⟨channel, hp⟩))))
          fun hp => hc (.inr (.inr (.inr hp)))

theorem step_accepted {p : SetParam} (hd : delivers env p = some (c, b)) (ha : s.Accepts env b)
    (h : step s (.setParam env p) = some t) :
    ∃ u, s.checkCountryCodeExpiry env = some u ∧
      ∀ b' i, i < b'.numberOfChannels → t.supportedChannels b' i =
        if b' = b then c.describes b (b.minChannelNumber + i) (u.supportedChannels b i)
        else u.supportedChannels b' i := by
  obtain ⟨f, hf, hfst⟩ := s.setParam_delivers p hd
  obtain ⟨u, hu, hset⟩ := setSupportedChannels_of_accepts ha c
  obtain ⟨r, hr, rfl⟩ := Option.map_eq_some_iff.mp h
  rw [hf, hset, Option.map_map] at hr
  obtain ⟨v, hv, rfl⟩ := Option.map_eq_some_iff.mp hr
  obtain ⟨hin, rfl⟩ := (setCountry_eq_some env c b u v).mp hv
  refine ⟨u, hu, fun b' i hi => ?_⟩
  rw [Function.comp_apply, hfst]
  by_cases hb : b' = b
  · subst hb
    simp only [update_self]
    exact table_described hin hi _
  · rw [if_neg hb]
    simp only [update_of_ne hb]

/-- **The channel tables over runs.** A run stays inside the tables exactly if each of its calls is
`Within`. After an accepted country IE, for as long as no call that writes the tables follows, the
table of its band is what the IE describes, and the other one is as the expiry check left it. -/
theorem tables_within_iff_and_described (s₀ : RegDomain) :
    (∀ is, (∃ s, exec step s₀ is = some s) ↔ Along step Within s₀ is) ∧
      ∀ is s env p c b t js u, exec step s₀ is = some s → delivers env p = some (c, b) →
        s.Accepts env b → step s (.setParam env p) = some t → exec step t js = some u →
        Along step (fun s i => ¬s.Changes i) t js →
        ∃ v, s.checkCountryCodeExpiry env = some v ∧ (s.expired env = false → v = s) ∧
          ∀ b' i, i < b'.numberOfChannels → u.supportedChannels b' i =
            if b' = b then c.describes b (b.minChannelNumber + i) (v.supportedChannels b i)
            else v.supportedChannels b' i := by
  refine ⟨fun is => exec_defined_iff step_defined_iff, ?_⟩
  intro is s env p c b t js u _ hd ha ht hu hquiet
  obtain ⟨v, hv, hdesc⟩ := step_accepted hd ha ht
  have hkept : u.supportedChannels = t.supportedChannels :=
    Along.invariant (I := fun w => w.supportedChannels = t.supportedChannels)
      (fun w i w' hw hi hstep => (step_keeps_tables hstep hi).trans hw) rfl hquiet hu
  refine ⟨v, hv, fun hx => ?_, fun b' i hi => ?_⟩
  · unfold checkCountryCodeExpiry at hv
    rw [hx] at hv
    exact (Option.some.inj hv).symm
  · rw [hkept]
    exact hdesc b' i hi

namespace Sample

def params : InitParams := ⟨205, 205, 0, true, false, fun _ _ => 0xd4⟩

def blank : Band → ℕ → ChannelCapability := fun _ _ => ⟨false, false, false, 0, 0⟩

def idle : Env := ⟨5, true, none, .band24GHz, true⟩

/-- Channels 1 to 11 at 20 dBm. -/
def us : TCountry := ⟨6, ⟨#v[0x55, 0x53, 0x20], .replicate 37 ⟨1, 11, 20⟩⟩, by omega, by omega⟩

/-- Channels 34 to 46 at 23 dBm: the first one is below the table. -/
def jp : TCountry := ⟨6, ⟨#v[0x4a, 0x50, 0x20], .replicate 37 ⟨34, 4, 23⟩⟩, by omega, by omega⟩

end Sample

/-- A country IE that begins at channel 34 and a validity update of channel 20 leave the tables. -/
theorem tables_left : ∃ s, start Sample.params Sample.blank 0 = some s ∧
    exec step s [.setParam Sample.idle (.country5 Sample.jp)] = none ∧
    exec step s [.setParam Sample.idle (.setChannelValidity 20 false)] = none := by
  obtain ⟨T, hT⟩ := scanControlTable_total (init Sample.params Sample.blank 0)
  exact ⟨_, hT, rfl, rfl⟩

/-- Under the sample IE channel 11 is valid, and channel 12 is not. -/
theorem tables_described_us : ∃ s t, start Sample.params Sample.blank 0 = some s ∧
    exec step s [.setParam Sample.idle (.country24 Sample.us)] = some t ∧
    (t.supportedChannels .b24 10).channelValidityActive = true ∧
    (t.supportedChannels .b24 10).uMaxTxPowerDomain = 200 ∧
    (t.supportedChannels .b24 11).channelValidityActive = false := by
  obtain ⟨T, hT⟩ := scanControlTable_total (init Sample.params Sample.blank 0)
  obtain ⟨s, hs⟩ : ∃ s, s = { init Sample.params Sample.blank 0 with supportedChannels := T } :=
    ⟨_, rfl⟩
  have ha : s.Accepts Sample.idle .b24 := by
    subst hs
    exact ⟨rfl, .inr rfl⟩
  obtain ⟨hruns, htable⟩ := tables_within_iff_and_described s
  obtain ⟨t, ht⟩ := (hruns [.setParam Sample.idle (.country24 Sample.us)]).mpr
    ⟨⟨fun c b h _ => by
        obtain ⟨rfl, rfl⟩ := Prod.mk.inj (Option.some.inj h)
        decide,
      fun _ _ h => (by cases h), fun h => (by cases h)⟩, fun _ _ => trivial⟩
  obtain ⟨u, hu, hnone⟩ := exec_cons.mp ht
  obtain rfl := Option.some.inj hnone
  obtain ⟨v, -, -, hv⟩ := htable [] s Sample.idle (.country24 Sample.us) Sample.us .b24 u [] u rfl
    rfl ha hu rfl trivial
  refine ⟨s, u, hs ▸ hT, ht, ?_, ?_, ?_⟩
  · rw [hv .b24 10 (by decide)]
    rfl
  · rw [hv .b24 10 (by decide)]
    rfl
  · rw [hv .b24 11 (by decide)]
    rfl

end RegDomain

end ArchosGpl.Wlan.RegulatoryDomain
