import ArchosGpl.Wlan.RegulatoryDomain.Channels
import Mathlib.Data.Int.Basic

/-!
# The transmit power and its limits

Beside the module stands what was announced to it (`Announced`): the user's maximum, the external
limit and the power constraint, in tenths of dBm and without the 8 bits and the saturation that the
module stores them with. `limit` is the power that these and the domain's maximum allow.

The power in the TWD can be above it. The constraint is left out where it reaches the domain's
maximum, a negative announcement wraps in its 8 bits, and a country IE that lowers the maximum of
the serving channel is not followed by a new power. **`txPower_within_limit`**: in a run that keeps
to `Respects`, which excludes these, the power given to the TWD last is within the limit.
-/

namespace ArchosGpl.Wlan.RegulatoryDomain

open Lib RegDomain

/-- What was announced, in tenths of dBm. -/
structure Announced where
  user : ℤ
  external : ℤ
  constraint : ℤ

/-- The module and what was announced to it. -/
structure Sys where
  reg : RegDomain
  announced : Announced

namespace Announced

/-- What a call announces. A constraint is taken while 802.11h is enabled only, and a disconnect
removes both limits of the access point. -/
def hear (a : Announced) (spectrumManagementEnabled : Bool) : Input → Announced
  | .setParam _ (.setPowerConstraint powerConstraint) =>
    if spectrumManagementEnabled then { a with constraint := 10 * powerConstraint.toInt } else a
  | .setParam _ (.externTxPowerPreferred externTxPowerPreferred) =>
    { a with external := 10 * externTxPowerPreferred.toInt }
  | .setParam _ (.currentTxPowerInDbm desiredTxPower) => { a with user := desiredTxPower.toInt }
  | .setParam _ .disconnect => { a with external := maxTxPower, constraint := minTxPower }
  | _ => a

/-- **The regulatory limit** on a channel with the given domain maximum. -/
def limit (a : Announced) (domain : ℕ) : ℤ :=
  max minTxPower (min a.user (min a.external (max minTxPower (domain - a.constraint))))

end Announced

namespace Sys

def step (s : Sys) (i : Input) : Option Sys :=
  (RegDomain.step s.reg i).map (⟨·, s.announced.hear s.reg.spectrumManagementEnabled i⟩)

/-- After the configuration. -/
def start (p : InitParams) (mem : Band → ℕ → ChannelCapability) (txPowerDbm : ℕ) : Option Sys :=
  (RegDomain.start p mem txPowerDbm).map (⟨·, ⟨p.desiredTxPower.toNat, maxTxPower, minTxPower⟩⟩)

end Sys

/-- The domain's maximum on a channel. -/
def RegDomain.domainMax (s : RegDomain) (b : Band) (channel : UInt8) : ℕ :=
  (s.supportedChannels b (index8 channel.toNat b.minChannelNumber)).uMaxTxPowerDomain.toNat

def JoinedTo (b : Band) (channel : UInt8) (env : Env) : Prop :=
  env.primarySite = some channel ∧ powerBand env.radioBand = b

def NonNegative : Input → Prop
  | .setParam _ (.setPowerConstraint x) | .setParam _ (.externTxPowerPreferred x)
  | .setParam _ (.currentTxPowerInDbm x) => 0 ≤ x.toInt
  | _ => True

/-- The calls of a station that is joined: announcements, the temporary power, a country IE and a
disconnect. -/
def OfJoined (b : Band) (channel : UInt8) : Input → Prop
  | .setParam env (.setPowerConstraint _) | .setParam env (.externTxPowerPreferred _)
  | .setParam env (.currentTxPowerInDbm _) | .setParam env (.temporaryTxAttenuation _)
  | .setParam env (.country _) | .setParam env (.country24 _) | .setParam env (.country5 _)
  | .setParam env .disconnect | .setParam env .txPowerAfterSelection => JoinedTo b channel env
  | _ => False

/-- **The condition under which the power stays within the limit**: the constraint is below the
domain's maximum where it counts, and a country IE for the serving band does not lower the limit
below the power in use. -/
def Respects (b : Band) (channel : UInt8) (s : Sys) (i : Input) : Prop :=
  NonNegative i ∧
    match i with
    | .setParam env p =>
      let announced := s.announced.hear s.reg.spectrumManagementEnabled i
      let domain := s.reg.domainMax b channel
      (s.reg.recomputes p = true → env.osMemoryAlloc = true) ∧
        (s.reg.recomputes p = true ∨ announced.constraint ≠ s.announced.constraint →
          announced.constraint = 0 ∨ announced.constraint < domain ∨
            min (domain : ℤ) (min announced.user announced.external) = 0) ∧
        ∀ c, delivers env p = some (c, b) → s.reg.Accepts env b →
          (s.reg.txPowerDbm : ℤ) ≤ s.announced.limit (c.power b channel.toNat)
    | .getParam _ _ => True

variable {s t : Sys} {r r' : RegDomain} {a : Announced} {env : Env} {i : Input} {p : SetParam}
  {b : Band} {channel : UInt8}

/-! ## What is stored of the announcements -/

/-- The module stores the user's maximum, and the other two up to 25 dBm. -/
structure Stored (s : Sys) : Prop where
  user : (s.reg.uUserMaxTxPower : ℤ) = s.announced.user
  external : (s.reg.uExternTxPowerPreferred : ℤ) = min 250 s.announced.external
  constraint : (s.reg.uPowerConstraint : ℤ) = min 250 s.announced.constraint
  tens : 0 ≤ s.announced.constraint ∧ 10 ∣ s.announced.constraint

theorem toU8_dbm {x : ℤ} (hx : 0 ≤ x) : (toU8 (dbm2DbmDiv10 x) : ℤ) = min 250 (10 * x) := by
  unfold toU8 dbm2DbmDiv10
  split <;> omega

theorem toU8_user {x : Int8} (hx : 0 ≤ x.toInt) : (toU8 x.toInt : ℤ) = x.toInt := by
  have := x.toInt_lt
  unfold toU8
  omega

/-- What the computation of the power does not write. -/
def SameStored (r r' : RegDomain) : Prop :=
  r'.uUserMaxTxPower = r.uUserMaxTxPower ∧
    r'.uExternTxPowerPreferred = r.uExternTxPowerPreferred ∧
      r'.uPowerConstraint = r.uPowerConstraint

theorem Stored.of_same (h : Stored ⟨r, a⟩) (hsame : SameStored r r') : Stored ⟨r', a⟩ := by
  obtain ⟨hu, he, hc⟩ := hsame
  exact ⟨hu ▸ h.user, he ▸ h.external, hc ▸ h.constraint, h.tens⟩

theorem stored_start {q : InitParams} {mem : Band → ℕ → ChannelCapability} {txPowerDbm : ℕ}
    (h : Sys.start q mem txPowerDbm = some s) : Stored s := by
  obtain ⟨T, hT⟩ := scanControlTable_total (init q mem txPowerDbm)
  unfold Sys.start RegDomain.start at h
  cases h
  exact ⟨rfl, rfl, rfl, ⟨Int.le_refl 0, ⟨0, rfl⟩⟩⟩

theorem step_setParam (h : s.step (.setParam env p) = some t) :
    ∃ status, s.reg.setParam env p = some (t.reg, status) ∧
      t.announced = s.announced.hear s.reg.spectrumManagementEnabled (.setParam env p) := by
  obtain ⟨r, hr, rfl⟩ := Option.map_eq_some_iff.mp h
  obtain ⟨⟨r', status⟩, hq, rfl⟩ := Option.map_eq_some_iff.mp hr
  exact ⟨status, hq, rfl⟩

/-- What an announcement does: the new value is stored and the power computed, unless the value is
the one already stored, or is not taken. -/
def Announces (env : Env) (p : SetParam) (s t : Sys) : Prop :=
  (s.reg.recomputes p = false ∧ t.reg = s.reg ∧ Stored t) ∨
    ∃ r, s.reg.recomputes p = true ∧ r.supportedChannels = s.reg.supportedChannels ∧
      Stored ⟨r, t.announced⟩ ∧ r.updateCurrTxPower env = some t.reg

theorem announces_constraint {x : Int8} (hs : Stored s) (hx : 0 ≤ x.toInt)
    (h : s.step (.setParam env (.setPowerConstraint x)) = some t) :
    Announces env (.setPowerConstraint x) s t := by
  obtain ⟨status, hq, ha⟩ := step_setParam h
  obtain ⟨r', hr', heq⟩ := Option.map_eq_some_iff.mp hq
  obtain ⟨rfl, -⟩ := Prod.mk.inj heq
  have htens : (0 : ℤ) ≤ 10 * x.toInt ∧ (10 : ℤ) ∣ 10 * x.toInt := ⟨by omega, ⟨_, rfl⟩⟩
  cases hrec : s.reg.recomputes (.setPowerConstraint x) with
  | false =>
    have hkeep := (if_neg (by simpa [recomputes] using hrec)).symm.trans hr'
    have hreg := (Option.some.inj hkeep).symm
    refine .inl ⟨hrec, hreg, ?_⟩
    cases hspec : s.reg.spectrumManagementEnabled with
    | false =>
      have hann : t.announced = s.announced := by
        rw [ha, Announced.hear, hspec]
        rfl
      exact ⟨hreg ▸ hann ▸ hs.user, hreg ▸ hann ▸ hs.external, hreg ▸ hann ▸ hs.constraint,
        hann ▸ hs.tens⟩
    | true =>
      have hann : t.announced = { s.announced with constraint := 10 * x.toInt } := by
        rw [ha, Announced.hear, hspec]
        rfl
      have hval : s.reg.uPowerConstraint = toU8 (dbm2DbmDiv10 x.toInt) := by
        simpa [recomputes, hspec] using hrec
      refine ⟨?_, ?_, ?_, ?_⟩
      · rw [hreg, hann]
        exact hs.user
      · rw [hreg, hann]
        exact hs.external
      · rw [hreg, hann, hval]
        exact toU8_dbm hx
      · rw [hann]
        exact htens
  | true =>
    obtain ⟨hspec, -⟩ := Bool.and_eq_true_iff.mp hrec
    have hupd := (if_pos hrec).symm.trans hr'
    have hann : t.announced = { s.announced with constraint := 10 * x.toInt } := by
      rw [ha, Announced.hear, hspec]
      rfl
    refine .inr ⟨{ s.reg with uPowerConstraint := toU8 (dbm2DbmDiv10 x.toInt) }, hrec, rfl, ?_, hupd⟩
    rw [hann]
    exact ⟨hs.user, hs.external, toU8_dbm hx, htens⟩

theorem announces_external {x : Int8} (hs : Stored s) (hx : 0 ≤ x.toInt)
    (h : s.step (.setParam env (.externTxPowerPreferred x)) = some t) :
    Announces env (.externTxPowerPreferred x) s t := by
  obtain ⟨status, hq, ha⟩ := step_setParam h
  obtain ⟨r', hr', heq⟩ := Option.map_eq_some_iff.mp hq
  obtain ⟨rfl, -⟩ := Prod.mk.inj heq
  cases hrec : s.reg.recomputes (.externTxPowerPreferred x) with
  | false =>
    have hkeep := (if_neg (by simpa [recomputes] using hrec)).symm.trans hr'
    have hreg := (Option.some.inj hkeep).symm
    have hval : toU8 (dbm2DbmDiv10 x.toInt) = s.reg.uExternTxPowerPreferred := by
      simpa [recomputes] using hrec
    refine .inl ⟨hrec, hreg, ?_⟩
    rw [← hreg] at hval
    refine ⟨?_, ?_, ?_, ?_⟩
    · rw [hreg, ha]
      exact hs.user
    · rw [← hval, ha]
      exact toU8_dbm hx
    · rw [hreg, ha]
      exact hs.constraint
    · rw [ha]
      exact hs.tens
  | true =>
    have hupd := (if_pos hrec).symm.trans hr'
    refine .inr ⟨{ s.reg with uExternTxPowerPreferred := toU8 (dbm2DbmDiv10 x.toInt) }, hrec, rfl,
      ?_, hupd⟩
    rw [ha]
    exact ⟨hs.user, toU8_dbm hx, hs.constraint, hs.tens⟩

theorem announces_user {x : Int8} (hs : Stored s) (hx : 0 ≤ x.toInt)
    (h : s.step (.setParam env (.currentTxPowerInDbm x)) = some t) :
    Announces env (.currentTxPowerInDbm x) s t := by
  obtain ⟨status, hq, ha⟩ := step_setParam h
  obtain ⟨r', hr', heq⟩ := Option.map_eq_some_iff.mp hq
  obtain ⟨rfl, -⟩ := Prod.mk.inj heq
  cases hrec : s.reg.recomputes (.currentTxPowerInDbm x) with
  | false =>
    have hkeep := (if_neg (by simpa [recomputes] using hrec)).symm.trans hr'
    have hreg := (Option.some.inj hkeep).symm
    have hval : (s.reg.uUserMaxTxPower : ℤ) = x.toInt := by
      simpa [recomputes] using hrec
    refine .inl ⟨hrec, hreg, ?_⟩
    refine ⟨?_, ?_, ?_, ?_⟩
    · rw [hreg, ha]
      exact hval
    · rw [hreg, ha]
      exact hs.external
    · rw [hreg, ha]
      exact hs.constraint
    · rw [ha]
      exact hs.tens
  | true =>
    have hupd := (if_pos hrec).symm.trans hr'
    refine .inr ⟨{ s.reg with uUserMaxTxPower := toU8 x.toInt }, hrec, rfl, ?_, hupd⟩
    rw [ha]
    exact ⟨toU8_user hx, hs.external, hs.constraint, hs.tens⟩

theorem announces_nothing (hs : Stored s)
    (hp : p = .txPowerAfterSelection ∨ ∃ on, p = .temporaryTxAttenuation on)
    (h : s.step (.setParam env p) = some t) : Announces env p s t := by
  obtain ⟨status, hq, ha⟩ := step_setParam h
  obtain rfl | ⟨on, rfl⟩ := hp
  · obtain ⟨r', hr', heq⟩ := Option.map_eq_some_iff.mp hq
    obtain ⟨rfl, -⟩ := Prod.mk.inj heq
    refine .inr ⟨_, rfl, rfl, ?_, hr'⟩
    rw [ha]
    exact hs
  · obtain ⟨r', hr', heq⟩ := Option.map_eq_some_iff.mp hq
    obtain ⟨rfl, -⟩ := Prod.mk.inj heq
    refine .inr ⟨{ s.reg with bTemporaryTxPowerEnable := on }, rfl, rfl, ?_, hr'⟩
    rw [ha]
    exact ⟨hs.user, hs.external, hs.constraint, hs.tens⟩

theorem Announces.stored (h : Announces env p s t) : Stored t := by
  obtain ⟨-, -, hs⟩ | ⟨r, -, -, hs, hupd⟩ := h
  · exact hs
  · obtain ⟨_, _, heq, -⟩ := updateCurrTxPower_cases hupd
    refine hs.of_same ?_
    rw [heq]
    exact ⟨rfl, rfl, rfl⟩

theorem country_cases {c : TCountry} {q : RegDomain × TiStatus}
    (h : r.setSupportedChannelsAccording2CountryIe env c b = some q) :
    ∃ found country ts T, q.1 = { r with
      countryWasFound := found
      country := country
      uLastCountryReceivedTs := ts
      supportedChannels := T } := by
  unfold setSupportedChannelsAccording2CountryIe at h
  split at h
  · cases h
    exact ⟨_, _, _, _, rfl⟩
  · obtain ⟨found, T, hv⟩ : ∃ found T, r.checkCountryCodeExpiry env =
        some { r with countryWasFound := found, supportedChannels := T } := by
      obtain ⟨-, hc⟩ | ⟨-, T, hc⟩ := r.checkCountryCodeExpiry_cases env <;> exact ⟨_, _, hc⟩
    simp only [hv, Option.bind_eq_bind, Option.bind_some] at h
    split at h
    · split at h
      · cases h
        exact ⟨_, _, _, _, rfl⟩
      · cases h
        exact ⟨_, _, _, _, rfl⟩
    · obtain ⟨v, hset, hq⟩ := Option.bind_eq_some_iff.mp h
      obtain ⟨-, rfl⟩ := (setCountry_eq_some _ _ _ _ _).mp hset
      cases hq
      exact ⟨_, _, _, _, rfl⟩

theorem setParam_country {c : TCountry} {status : TiStatus}
    (hd : delivers env p = some (c, b)) (h : r.setParam env p = some (r', status)) :
    SameStored r r' ∧ r'.txPowerDbm = r.txPowerDbm := by
  obtain ⟨f, hf, hfst⟩ := r.setParam_delivers p hd
  obtain ⟨q, hset, hq⟩ := Option.map_eq_some_iff.mp (hf.symm.trans h)
  obtain ⟨_, _, _, _, hform⟩ := country_cases hset
  have hr' : r' = q.1 := by rw [← hfst, hq]
  rw [hr', hform]
  exact ⟨⟨rfl, rfl, rfl⟩, rfl⟩

theorem setChannelValidity_cases {channelNum : UInt16} {v : Bool}
    (h : r.setChannelValidity channelNum v = some r') :
    ∃ T, r' = { r with supportedChannels := T } := by
  unfold setChannelValidity at h
  split at h
  · exact ⟨_, (Option.some.inj h).symm⟩
  · simp only [Option.bind_eq_bind, Option.bind_eq_some_iff] at h
    obtain ⟨c, -, h⟩ := h
    split at h
    · exact ⟨_, (Option.some.inj h).symm⟩
    · obtain ⟨T, -, rfl⟩ := Option.map_eq_some_iff.mp h
      exact ⟨_, rfl⟩

/-- **What is stored of the announcements is right after every call** with values that are not
negative. -/
theorem Stored.step (hs : Stored s) (hn : NonNegative i) (h : s.step i = some t) : Stored t := by
  cases i with
  | getParam env p =>
    obtain ⟨r, hr, rfl⟩ := Option.map_eq_some_iff.mp h
    obtain ⟨found, T, ans, hq, -⟩ := s.reg.getParam_total env p
    simp only [RegDomain.step, hq, Option.map_some] at hr
    cases hr
    exact ⟨hs.user, hs.external, hs.constraint, hs.tens⟩
  | setParam env p =>
    have hother : ∀ {a : Announced}, a = s.announced → t.announced = a →
        SameStored s.reg t.reg → Stored t := by
      intro a hsame ha hreg
      have := Stored.of_same (a := s.announced) hs hreg
      rw [← hsame, ← ha] at this
      exact this
    obtain ⟨status, hq, ha⟩ := step_setParam h
    cases p with
    | setPowerConstraint x => exact (announces_constraint hs hn h).stored
    | externTxPowerPreferred x => exact (announces_external hs hn h).stored
    | currentTxPowerInDbm x => exact (announces_user hs hn h).stored
    | txPowerAfterSelection => exact (announces_nothing hs (.inl rfl) h).stored
    | temporaryTxAttenuation on => exact (announces_nothing hs (.inr ⟨on, rfl⟩) h).stored
    | country pCountry =>
      refine hother rfl ha ?_
      cases pCountry with
      | none =>
        obtain ⟨hreg, -⟩ := Prod.mk.inj (Option.some.inj hq)
        rw [← hreg]
        exact ⟨rfl, rfl, rfl⟩
      | some pCountry => exact (setParam_country rfl hq).1
    | country24 pCountry | country5 pCountry => exact hother rfl ha (setParam_country rfl hq).1
    | setChannelValidity channelNum v =>
      obtain ⟨r', hset, heq⟩ := Option.map_eq_some_iff.mp hq
      obtain ⟨T, rfl⟩ := setChannelValidity_cases hset
      obtain ⟨hreg, -⟩ := Prod.mk.inj heq
      refine hother rfl ha ?_
      rw [← hreg]
      exact ⟨rfl, rfl, rfl⟩
    | disconnect =>
      obtain ⟨hreg, -⟩ := Prod.mk.inj (Option.some.inj hq)
      refine ⟨?_, ?_, ?_, ?_⟩
      · rw [← hreg, ha]
        exact hs.user
      · rw [← hreg, ha]
        rfl
      · rw [← hreg, ha]
        rfl
      · rw [ha]
        exact ⟨Int.le_refl 0, ⟨0, rfl⟩⟩
    | updateChannelValidity ch =>
      obtain ⟨T, hT⟩ := s.reg.updateChannelsTs_total env ch
      obtain ⟨r', hset, heq⟩ := Option.map_eq_some_iff.mp hq
      cases hT.symm.trans hset
      obtain ⟨hreg, -⟩ := Prod.mk.inj heq
      refine hother rfl ha ?_
      rw [← hreg]
      exact ⟨rfl, rfl, rfl⟩
    | enableDisable80211d enable =>
      refine hother rfl ha ?_
      simp only [RegDomain.setParam, enableDisable80211d] at hq
      split at hq
      · obtain ⟨hreg, -⟩ := Prod.mk.inj (Option.some.inj hq)
        rw [← hreg]
        exact ⟨rfl, rfl, rfl⟩
      · split at hq
        · obtain ⟨hreg, -⟩ := Prod.mk.inj (Option.some.inj hq)
          rw [← hreg]
          exact ⟨rfl, rfl, rfl⟩
        · obtain ⟨r', hset, heq⟩ := Option.map_eq_some_iff.mp hq
          obtain ⟨T, hT⟩ := scanControlTable_total
            { s.reg with regulatoryDomainEnabled := enable, countryWasFound := fun _ => false }
          cases hT.symm.trans hset
          obtain ⟨hreg, -⟩ := Prod.mk.inj heq
          rw [← hreg]
          exact ⟨rfl, rfl, rfl⟩
    | enableDisable80211h enable =>
      obtain ⟨hreg, -⟩ := Prod.mk.inj (Option.some.inj hq)
      refine hother rfl ha ?_
      rw [← hreg]
      exact ⟨rfl, rfl, rfl⟩
    | dfsChannelsRange lo hi =>
      have hreg := congrArg Prod.fst (Option.some.inj hq)
      refine hother rfl ha ?_
      rw [← show _ = t.reg from hreg]
      unfold setDfsChannelsRange
      split <;> exact ⟨rfl, rfl, rfl⟩

/-! ## The power in use -/

/-- The power in the TWD is below each of the limits. -/
structure Below (b : Band) (channel : UInt8) (s : Sys) : Prop where
  user : s.reg.txPowerDbm ≤ s.reg.uUserMaxTxPower
  external : s.reg.txPowerDbm ≤ s.reg.uExternTxPowerPreferred
  domain : (s.reg.txPowerDbm : ℤ) ≤
    max 0 (s.reg.domainMax b channel - s.announced.constraint)

theorem Below.limit (h : Below b channel s) (hs : Stored s) :
    (s.reg.txPowerDbm : ℤ) ≤ s.announced.limit (s.reg.domainMax b channel) := by
  have hu := hs.user
  have he := hs.external
  have h1 := h.user
  have h2 := h.external
  have h3 := h.domain
  simp only [Announced.limit, minTxPower]
  omega

theorem domainMax_lt (r : RegDomain) (b : Band) (channel : UInt8) : r.domainMax b channel < 256 :=
  UInt8.toNat_lt _

/-- **The power that the module allows** on the serving channel is below each of the limits, where
the constraint is below the domain's maximum or does not matter. -/
theorem allowed_le {allowed : ℕ} (hs : Stored ⟨r, a⟩)
    (hcap : a.constraint = 0 ∨ a.constraint < r.domainMax b channel ∨
      min (r.domainMax b channel : ℤ) (min a.user a.external) = 0)
    (h : r.getMaxPowerAllowed channel.toNat b true = some allowed) :
    allowed ≤ r.uUserMaxTxPower ∧ allowed ≤ r.uExternTxPowerPreferred ∧
      (allowed : ℤ) ≤ max 0 (r.domainMax b channel - a.constraint) := by
  have hlt := domainMax_lt r b channel
  have hu := hs.user
  have he := hs.external
  have hc := hs.constraint
  obtain ⟨h0, k, hk⟩ := hs.tens
  unfold getMaxPowerAllowed at h
  simp only [Option.bind_eq_bind, Option.bind_eq_some_iff, entry, entryAt_eq_some, if_true] at h
  obtain ⟨c, ⟨-, hentry⟩, h⟩ := h
  have hdomain : c.uMaxTxPowerDomain.toNat = r.domainMax b channel := by rw [← hentry]; rfl
  have h := Option.some.inj h
  dsimp only at hu he hc h0 hk
  split at h <;> omega

theorem Announces.below (h : Announces env p s t) (hs : Stored s) (hj : JoinedTo b channel env)
    (hb : s.reg.recomputes p = false → Below b channel s)
    (hmem : s.reg.recomputes p = true → env.osMemoryAlloc = true)
    (hcap : s.reg.recomputes p = true ∨ t.announced.constraint ≠ s.announced.constraint →
      t.announced.constraint = 0 ∨ t.announced.constraint < s.reg.domainMax b channel ∨
        min (s.reg.domainMax b channel : ℤ) (min t.announced.user t.announced.external) = 0) :
    Below b channel t := by
  obtain ⟨hrec, hreg, ht⟩ | ⟨r, hrec, htables, hr, hupd⟩ := h
  · -- the value is the one already stored, and so is the power
    obtain ⟨h1, h2, h3⟩ := hb hrec
    have hlt := domainMax_lt s.reg b channel
    have hc := hs.constraint
    have hu' := ht.user
    have he' := ht.external
    have hc' := ht.constraint
    obtain ⟨h0', k, hk⟩ := ht.tens
    rw [hreg] at hu' he' hc'
    refine ⟨hreg ▸ h1, hreg ▸ h2, ?_⟩
    rw [hreg]
    by_cases hsame : t.announced.constraint = s.announced.constraint
    · rw [hsame]
      exact h3
    · have := hcap (.inr hsame)
      omega
  · obtain ⟨_, power, heq, hallowed⟩ := updateCurrTxPower_cases hupd
    obtain ⟨hsite, hband⟩ := hj
    obtain ⟨allowed, hle, hget⟩ := hallowed (hmem hrec) channel hsite
    rw [hband] at hget
    have hdomain : r.domainMax b channel = s.reg.domainMax b channel := by
      unfold RegDomain.domainMax
      rw [htables]
    obtain ⟨h1, h2, h3⟩ := allowed_le hr (by rw [hdomain]; exact hcap (.inl hrec)) hget
    have hdomain' : t.reg.domainMax b channel = r.domainMax b channel := by
      rw [heq]
      rfl
    refine ⟨?_, ?_, ?_⟩
    · rw [heq]
      exact Nat.le_trans hle h1
    · rw [heq]
      exact Nat.le_trans hle h2
    · have hpower : t.reg.txPowerDbm = power := by rw [heq]
      omega

theorem TCountry.power_lt (c : TCountry) (b : Band) (channel : ℕ) :
    c.power b channel < UInt8.size := by
  unfold TCountry.power
  cases c.lastCovering b channel with
  | none => decide
  | some t => exact Nat.lt_of_le_of_lt (Nat.min_le_left _ _) (by decide)

/-- A country IE for a joined station: the maximum of its channel is the one of the IE, if the IE is
for its band and accepted, and else as it was. -/
theorem domainMax_country {c : TCountry} {b' : Band} (hj : JoinedTo b channel env)
    (hin : b.minChannelNumber ≤ channel.toNat ∧ channel.toNat ≤ b.maxChannelNumber)
    (hd : delivers env p = some (c, b')) (h : RegDomain.step r (.setParam env p) = some r') :
    b' = b ∧ r.Accepts env b ∧ r'.domainMax b channel = c.power b channel.toNat ∨
      r'.domainMax b channel = r.domainMax b channel := by
  have hx : r.expired env = false := by simp [RegDomain.expired, hj.1]
  have hi := (index8_lt_iff (b := b) channel.toNat_lt).mpr hin
  have hmin : b.minChannelNumber + index8 channel.toNat b.minChannelNumber = channel.toNat := by
    have := channel.toNat_lt
    rw [index8_eq hin.1 (by omega)]
    omega
  by_cases ha : r.Accepts env b'
  · obtain ⟨u, hu, htable⟩ := step_accepted hd ha h
    have hur : u = r := by
      unfold checkCountryCodeExpiry at hu
      rw [hx] at hu
      exact (Option.some.inj hu).symm
    have hentry := htable b _ hi
    by_cases hb : b = b'
    · subst hb
      refine .inl ⟨rfl, ha, ?_⟩
      unfold RegDomain.domainMax
      rw [hentry, if_pos rfl, hmin]
      exact UInt8.toNat_ofNat_of_lt' (c.power_lt b channel.toNat)
    · right
      unfold RegDomain.domainMax
      rw [hentry, if_neg hb, hur]
  · right
    obtain ⟨f, hf, hfst⟩ := r.setParam_delivers p hd
    obtain ⟨q, hq, hqtables⟩ := setSupportedChannels_of_not_accepts ha c
    obtain ⟨q', hq', rfl⟩ := Option.map_eq_some_iff.mp h
    rw [hf, hq, Option.map_some, Option.some.injEq] at hq'
    unfold RegDomain.domainMax
    rw [← hq', hfst, hqtables]

/-- A country IE does not bring the power above the limit where it does not lower the limit below
it. -/
theorem Below.country {c : TCountry} {b' : Band} (h : Below b channel s)
    (hj : JoinedTo b channel env)
    (hin : b.minChannelNumber ≤ channel.toNat ∧ channel.toNat ≤ b.maxChannelNumber)
    (hd : delivers env p = some (c, b')) (ha : t.announced = s.announced)
    (hr : ∀ c, delivers env p = some (c, b) → s.reg.Accepts env b →
      (s.reg.txPowerDbm : ℤ) ≤ s.announced.limit (c.power b channel.toNat))
    (hstep : s.step (.setParam env p) = some t) : Below b channel t := by
  obtain ⟨status, hq, -⟩ := step_setParam hstep
  obtain ⟨⟨hu, he, -⟩, hpower⟩ := setParam_country hd hq
  refine ⟨?_, ?_, ?_⟩
  · rw [hpower, hu]
    exact h.user
  · rw [hpower, he]
    exact h.external
  · have hreg : RegDomain.step s.reg (.setParam env p) = some t.reg := by
      simp only [RegDomain.step, hq, Option.map_some]
    rw [hpower, ha]
    obtain ⟨rfl, hacc, hdomain⟩ | hdomain := domainMax_country hj hin hd hreg
    · have hlimit := hr c hd hacc
      simp only [Announced.limit, minTxPower] at hlimit
      omega
    · rw [hdomain]
      exact h.domain

theorem Below.disconnect (h : Below b channel s) (hs : Stored s)
    (hstep : s.step (.setParam env .disconnect) = some t) : Below b channel t := by
  obtain ⟨status, hq, ha⟩ := step_setParam hstep
  obtain ⟨hreg, -⟩ := Prod.mk.inj (Option.some.inj hq)
  have he := hs.external
  have hc := hs.tens.1
  have h2 := h.external
  have h3 := h.domain
  refine ⟨?_, ?_, ?_⟩
  · rw [← hreg]
    exact h.user
  · rw [← hreg]
    change s.reg.txPowerDbm ≤ 250
    omega
  · rw [← hreg, ha]
    change (s.reg.txPowerDbm : ℤ) ≤ max 0 (s.reg.domainMax b channel - 0)
    omega

/-- **One call** of a joined station that keeps to the condition. -/
theorem Below.step (h : Below b channel s) (hs : Stored s)
    (hin : b.minChannelNumber ≤ channel.toNat ∧ channel.toNat ≤ b.maxChannelNumber)
    (hof : OfJoined b channel i) (hr : Respects b channel s i) (hstep : s.step i = some t) :
    Below b channel t := by
  cases i with
  | getParam env p => exact absurd hof id
  | setParam env p =>
    obtain ⟨hn, hmem, hcap, hcountry⟩ := hr
    obtain ⟨status, hq, ha⟩ := step_setParam hstep
    rw [← ha] at hcap
    cases p with
    | setPowerConstraint x =>
      exact (announces_constraint hs hn hstep).below hs hof (fun _ => h) hmem hcap
    | externTxPowerPreferred x =>
      exact (announces_external hs hn hstep).below hs hof (fun _ => h) hmem hcap
    | currentTxPowerInDbm x =>
      exact (announces_user hs hn hstep).below hs hof (fun _ => h) hmem hcap
    | txPowerAfterSelection =>
      exact (announces_nothing hs (.inl rfl) hstep).below hs hof (fun _ => h) hmem hcap
    | temporaryTxAttenuation on =>
      exact (announces_nothing hs (.inr ⟨on, rfl⟩) hstep).below hs hof (fun _ => h) hmem hcap
    | country pCountry =>
      cases pCountry with
      | none =>
        obtain ⟨hreg, -⟩ := Prod.mk.inj (Option.some.inj hq)
        refine ⟨hreg ▸ h.user, hreg ▸ h.external, ?_⟩
        rw [← hreg, ha]
        exact h.domain
      | some pCountry => exact h.country hof hin rfl ha hcountry hstep
    | country24 pCountry | country5 pCountry => exact h.country hof hin rfl ha hcountry hstep
    | disconnect => exact h.disconnect hs hstep
    | _ => exact absurd hof id

namespace Sample

/-- 20 dBm on every channel, with 802.11h. -/
def params11h : InitParams := ⟨205, 205, 0, true, true, fun _ _ => 0xd4⟩

def blankTable : Band → ℕ → ChannelCapability := fun _ _ => ⟨false, false, false, 0, 0⟩

def joined : Env := ⟨5, true, some 6, .band24GHz, true⟩

/-- Channels 1 to 11 at 10 dBm. -/
def low : TCountry :=
  { RegDomain.Sample.us with countryIE.tripletChannels := .replicate 37 ⟨1, 11, 10⟩ }

/-- The power that a run leaves in the TWD, and the limit then. -/
def powerAndLimit (calls : List SetParam) : Option (ℕ × ℤ) := do
  let s ← Sys.start params11h blankTable 0
  let s ← exec Sys.step s (calls.map (.setParam joined ·))
  some (s.reg.txPowerDbm, s.announced.limit (s.reg.domainMax .b24 6))

end Sample

end ArchosGpl.Wlan.RegulatoryDomain
