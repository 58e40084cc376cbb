import ArchosGpl.Lib.Sweep
import ArchosGpl.Lib.Word
import ArchosGpl.Wlan.Rsn.Model
import Mathlib.Order.Basic

/-!
# The list of banned sites has the bans that are in effect

* **`banned_sites_right_iff`**: all states of a run are right exactly if every ban of a site that
  has no ban in effect finds fewer than `RSN_MAX_NUMBER_OF_BANNED_SITES` in effect. The next one
  overwrites an entry of the full list and counts it once more.
-/

open Function (update update_of_ne update_self)

namespace ArchosGpl.Wlan.Rsn

open Lib

/-!
## Model of the banned sites (`stad/src/Connection_Managment/rsn.c`)

`bannedSites` are the entries that count, so its length is `numOfBannedSites` as long as the array
was not overrun. The search of `findBannedSiteAndCleanup` is `sweep`. The clock does not advance
during a call.

The system has, beside the module, the last ban of every site. A site that is overwritten in a full
list has none.
-/

abbrev rsnMaxNumberOfBannedSites : ℕ := 16

inductive ERsnSiteBanLevel
  | half
  | full
  deriving DecidableEq

structure SiteBanEntry where
  banLevel : ERsnSiteBanLevel
  banStartedMs : ℕ
  banDurationMs : ℕ
  siteBssid : MacAddr
  deriving DecidableEq

/-- The part of `rsn_t` that is about the banned sites. -/
structure BanList where
  bannedSites : List SiteBanEntry
  numOfBannedSites : ℕ

/-- An entry that is cleaned up. -/
def expired (now : ℕ) (entry : SiteBanEntry) : Bool :=
  entry.banDurationMs ≤ sub32 now entry.banStartedMs

/-- `findBannedSiteAndCleanup`: the index of the entry. -/
def findBannedSiteAndCleanup (s : BanList) (now : ℕ) (siteBssid : MacAddr) : Option ℕ × BanList :=
  let (iter, bannedSites) :=
    sweep (expired now) (fun entry => entry.siteBssid = siteBssid) s.bannedSites.length 0
      s.bannedSites
  (iter, ⟨bannedSites, s.numOfBannedSites - (s.bannedSites.length - bannedSites.length)⟩)

/-- `findEntryForInsert`: the index of the entry. -/
def findEntryForInsert (s : BanList) : ℕ :=
  -- "In the extreme case that the list is full we overwrite an old entry"
  if s.numOfBannedSites = rsnMaxNumberOfBannedSites then 0 else s.numOfBannedSites

def writeEntry (l : List SiteBanEntry) (i : ℕ) (entry : SiteBanEntry) : List SiteBanEntry :=
  if i < l.length then l.set i entry else l ++ [entry]

/-- `rsn_banSite`. -/
def banSite (s : BanList) (now : ℕ) (siteBssid : MacAddr) (banLevel : ERsnSiteBanLevel)
    (durationMs : ℕ) : ERsnSiteBanLevel × BanList :=
  match findBannedSiteAndCleanup s now siteBssid with
  | (some i, s) =>
    -- "a previous ban is still in effect"
    (.full, { s with bannedSites := s.bannedSites.set i ⟨.full, now, durationMs, siteBssid⟩ })
  | (none, s) =>
    let entry := ⟨banLevel, now, durationMs, siteBssid⟩
    (banLevel, ⟨writeEntry s.bannedSites (findEntryForInsert s) entry, s.numOfBannedSites + 1⟩)

def isSiteBanned (s : BanList) (now : ℕ) (siteBssid : MacAddr) : Bool × BanList :=
  match findBannedSiteAndCleanup s now siteBssid with
  | (some i, s) => (s.bannedSites[i]?.any fun entry => entry.banLevel = .full, s)
  | (none, s) => (false, s)

/-! ### What the bans mean -/

structure Ban where
  full : Bool
  started : ℕ
  duration : ℕ
  deriving DecidableEq

def Ban.inEffect (b : Ban) (now : ℕ) : Prop := now - b.started < b.duration

instance (b : Ban) (now : ℕ) : Decidable (b.inEffect now) := inferInstanceAs (Decidable (_ < _))

def SiteBanEntry.ban (entry : SiteBanEntry) : Ban :=
  ⟨entry.banLevel = .full, entry.banStartedMs, entry.banDurationMs⟩

/-- An earlier ban of the site is still in effect. -/
def stillBanned (last : MacAddr → Option Ban) (now : ℕ) (siteBssid : MacAddr) : Bool :=
  (last siteBssid).any fun b => b.inEffect now

/-- The site that a ban overwrites in a full list. -/
def overwritten (s : BanList) (now : ℕ) (siteBssid : MacAddr) : Option MacAddr :=
  match findBannedSiteAndCleanup s now siteBssid with
  | (some _, _) => none
  | (none, s) =>
    if s.numOfBannedSites = rsnMaxNumberOfBannedSites then
      s.bannedSites.head?.map SiteBanEntry.siteBssid
    else none

/-- **The last bans after a ban**: only that of its site is new, and one site can be forgotten. -/
def banned (last : MacAddr → Option Ban) (lost : Option MacAddr) (now : ℕ) (siteBssid : MacAddr)
    (banLevel : ERsnSiteBanLevel) (durationMs : ℕ) : MacAddr → Option Ban :=
  update (fun site => if lost = some site then none else last site) siteBssid
    (some ⟨banLevel = .full || stillBanned last now siteBssid, now, durationMs⟩)

/-- The module, the last bans, and the clock at the last call. -/
structure BanSystem where
  rsn : BanList
  last : MacAddr → Option Ban
  now : ℕ

inductive BanOp
  | banSite (now : ℕ) (siteBssid : MacAddr) (banLevel : ERsnSiteBanLevel) (durationMs : ℕ)
  | isSiteBanned (now : ℕ) (siteBssid : MacAddr)

def BanOp.now : BanOp → ℕ
  | .banSite now _ _ _ => now
  | .isSiteBanned now _ => now

def BanSystem.next (s : BanSystem) : BanOp → BanSystem
  | .banSite now siteBssid banLevel durationMs =>
    { rsn := (Rsn.banSite s.rsn now siteBssid banLevel durationMs).2
      last := banned s.last (overwritten s.rsn now siteBssid) now siteBssid banLevel durationMs
      now := now }
  | .isSiteBanned now siteBssid =>
    { s with
      rsn := (Rsn.isSiteBanned s.rsn now siteBssid).2
      now := now }

/-- The clock does not go back, and does not wrap. -/
def BanSystem.clocked (s : BanSystem) (now : ℕ) : Prop := s.now ≤ now ∧ now < 2 ^ 32

instance (s : BanSystem) (now : ℕ) : Decidable (s.clocked now) :=
  inferInstanceAs (Decidable (_ ∧ _))

/-- A call is modelled while the entries that count are in the array. -/
def banStep (s : BanSystem) (op : BanOp) : Option BanSystem :=
  if s.clocked op.now ∧ s.rsn.numOfBannedSites ≤ rsnMaxNumberOfBannedSites then some (s.next op)
  else none

/-- After the configuration. -/
def BanSystem.init (now : ℕ) : BanSystem where
  rsn := ⟨[], 0⟩
  last := fun _ => none
  now := now

/-- **What has to hold in every state.** -/
structure BansRight (s : BanSystem) : Prop where
  number : s.rsn.numOfBannedSites ≤ rsnMaxNumberOfBannedSites
  distinct : (s.rsn.bannedSites.map SiteBanEntry.siteBssid).Nodup
  entries : ∀ now, s.clocked now → ∀ site b, (s.last site = some b ∧ b.inEffect now) ↔
    ∃ e ∈ s.rsn.bannedSites, e.siteBssid = site ∧ expired now e = false ∧ e.ban = b
  reported : ∀ now, s.clocked now → ∀ site, (isSiteBanned s.rsn now site).1 = true ↔
    ∃ b, s.last site = some b ∧ b.inEffect now ∧ b.full = true

/-- **The calls that go well.** -/
def BanFits (s : BanSystem) : BanOp → Prop
  | .banSite now siteBssid _ _ => s.clocked now →
    (∃ e ∈ s.rsn.bannedSites, e.siteBssid = siteBssid ∧ expired now e = false) ∨
      (s.rsn.bannedSites.filter fun e => !expired now e).length < rsnMaxNumberOfBannedSites
  | .isSiteBanned _ _ => True

/-! ## The invariant -/

/-- Every entry is the last ban of its site, and no ban in effect is missing. -/
structure BanInv (s : BanSystem) : Prop where
  length : s.rsn.numOfBannedSites = s.rsn.bannedSites.length
  number : s.rsn.numOfBannedSites ≤ rsnMaxNumberOfBannedSites
  distinct : (s.rsn.bannedSites.map SiteBanEntry.siteBssid).Nodup
  last : ∀ e ∈ s.rsn.bannedSites, s.last e.siteBssid = some e.ban
  started : ∀ e ∈ s.rsn.bannedSites, e.banStartedMs ≤ s.now
  listed : ∀ site b, s.last site = some b → b.inEffect s.now →
    ∃ e ∈ s.rsn.bannedSites, e.siteBssid = site

theorem banInv_init (now : ℕ) : BanInv (BanSystem.init now) where
  length := rfl
  number := Nat.zero_le _
  distinct := List.nodup_nil
  last := fun _ h => nomatch h
  started := fun _ h => nomatch h
  listed := fun _ _ h => nomatch h

variable {s : BanSystem} {now : ℕ}

theorem expired_eq_false_iff {e : SiteBanEntry} (hstarted : e.banStartedMs ≤ now)
    (hnow : now < 2 ^ 32) : expired now e = false ↔ e.ban.inEffect now := by
  rw [expired, sub32_of_le hstarted hnow, decide_eq_false_iff_not, Nat.not_le]
  exact Iff.rfl

theorem Ban.inEffect.earlier {b : Ban} {t : ℕ} (h : b.inEffect now) (ht : t ≤ now) :
    b.inEffect t := by
  unfold Ban.inEffect at *
  omega

/-- **The entries that have not expired are the bans in effect.** -/
theorem BanInv.entries (h : BanInv s) (hclock : s.clocked now) (site : MacAddr) (b : Ban) :
    (s.last site = some b ∧ b.inEffect now) ↔
      ∃ e ∈ s.rsn.bannedSites, e.siteBssid = site ∧ expired now e = false ∧ e.ban = b := by
  have hexpired : ∀ e ∈ s.rsn.bannedSites, expired now e = false ↔ e.ban.inEffect now := fun e he =>
    expired_eq_false_iff ((h.started e he).trans hclock.1) hclock.2
  constructor
  · rintro ⟨hlast, heffect⟩
    obtain ⟨e, he, rfl⟩ := h.listed site b hlast (heffect.earlier hclock.1)
    cases hlast.symm.trans (h.last e he)
    exact ⟨e, he, rfl, (hexpired e he).mpr heffect, rfl⟩
  · rintro ⟨e, he, rfl, hlive, rfl⟩
    exact ⟨h.last e he, (hexpired e he).mp hlive⟩

/-! ## The search -/

/-- The state after the search. -/
def swept (s : BanSystem) (now : ℕ) (siteBssid : MacAddr) : BanSystem :=
  { s with
    rsn := (findBannedSiteAndCleanup s.rsn now siteBssid).2
    now := now }

theorem find_swept (s : BanList) (now : ℕ) (siteBssid : MacAddr) :
    Swept (expired now) (fun e => e.siteBssid = siteBssid) s.bannedSites
      ((findBannedSiteAndCleanup s now siteBssid).1,
        (findBannedSiteAndCleanup s now siteBssid).2.bannedSites) :=
  sweep_spec _ _ _

variable {siteBssid : MacAddr}

/-! ### The calls after the search -/

section Calls

variable {l : BanList} {i : ℕ}

theorem isSiteBanned_some (hfind : (findBannedSiteAndCleanup l now siteBssid).1 = some i) :
    (isSiteBanned l now siteBssid).1 =
      (findBannedSiteAndCleanup l now siteBssid).2.bannedSites[i]?.any fun e =>
        e.banLevel = .full := by
  unfold isSiteBanned
  generalize findBannedSiteAndCleanup l now siteBssid = r at hfind
  obtain ⟨_, l'⟩ := r
  subst hfind
  rfl

theorem isSiteBanned_none (hfind : (findBannedSiteAndCleanup l now siteBssid).1 = none) :
    (isSiteBanned l now siteBssid).1 = false := by
  unfold isSiteBanned
  generalize findBannedSiteAndCleanup l now siteBssid = r at hfind
  obtain ⟨_, l'⟩ := r
  subst hfind
  rfl

theorem isSiteBanned_list :
    (isSiteBanned l now siteBssid).2 = (findBannedSiteAndCleanup l now siteBssid).2 := by
  unfold isSiteBanned
  split
  next h => rw [h]
  next h => rw [h]

variable (banLevel : ERsnSiteBanLevel) (durationMs : ℕ)

theorem banSite_some (hfind : (findBannedSiteAndCleanup l now siteBssid).1 = some i) :
    (banSite l now siteBssid banLevel durationMs).2 =
        { (findBannedSiteAndCleanup l now siteBssid).2 with
          bannedSites := (findBannedSiteAndCleanup l now siteBssid).2.bannedSites.set i
            ⟨.full, now, durationMs, siteBssid⟩ } ∧
      overwritten l now siteBssid = none := by
  unfold banSite overwritten
  generalize findBannedSiteAndCleanup l now siteBssid = r at hfind
  obtain ⟨_, l'⟩ := r
  subst hfind
  exact ⟨rfl, rfl⟩

theorem banSite_none (hfind : (findBannedSiteAndCleanup l now siteBssid).1 = none) :
    (banSite l now siteBssid banLevel durationMs).2 =
      ⟨writeEntry (findBannedSiteAndCleanup l now siteBssid).2.bannedSites
          (findEntryForInsert (findBannedSiteAndCleanup l now siteBssid).2)
          ⟨banLevel, now, durationMs, siteBssid⟩,
        (findBannedSiteAndCleanup l now siteBssid).2.numOfBannedSites + 1⟩ := by
  unfold banSite
  generalize findBannedSiteAndCleanup l now siteBssid = r at hfind
  obtain ⟨_, l'⟩ := r
  subst hfind
  rfl

theorem overwritten_eq_none (hfind : (findBannedSiteAndCleanup l now siteBssid).1 = none)
    (hroom : (findBannedSiteAndCleanup l now siteBssid).2.numOfBannedSites <
      rsnMaxNumberOfBannedSites) : overwritten l now siteBssid = none := by
  unfold overwritten
  generalize findBannedSiteAndCleanup l now siteBssid = r at hfind hroom
  obtain ⟨_, l'⟩ := r
  subst hfind
  exact if_neg (Nat.ne_of_lt hroom)

end Calls

theorem swept_inv (h : BanInv s) (hclock : s.clocked now) (siteBssid : MacAddr) :
    BanInv (swept s now siteBssid) := by
  have hswept := find_swept s.rsn now siteBssid
  have hlength : (swept s now siteBssid).rsn.numOfBannedSites =
      (swept s now siteBssid).rsn.bannedSites.length := by
    change s.rsn.numOfBannedSites - (s.rsn.bannedSites.length - _) = _
    rw [h.length]
    exact Nat.sub_sub_self hswept.length_le
  refine ⟨hlength, ?_, hswept.nodup_map h.distinct, fun e he => h.last e (hswept.subset he),
    fun e he => (h.started e (hswept.subset he)).trans hclock.1, fun site b hlast heffect => ?_⟩
  · rw [hlength]
    exact hswept.length_le.trans (h.length ▸ h.number)
  · obtain ⟨e, he, rfl⟩ := h.listed site b hlast (heffect.earlier hclock.1)
    cases hlast.symm.trans (h.last e he)
    refine ⟨e, hswept.keeps he ?_, rfl⟩
    exact (expired_eq_false_iff ((h.started e he).trans hclock.1) hclock.2).mpr heffect

theorem find_some (h : BanInv s) (hclock : s.clocked now) {i : ℕ}
    (hfind : (findBannedSiteAndCleanup s.rsn now siteBssid).1 = some i) :
    ∃ e, (swept s now siteBssid).rsn.bannedSites[i]? = some e ∧ e.siteBssid = siteBssid ∧
      s.last siteBssid = some e.ban ∧ e.ban.inEffect now := by
  have hswept := find_swept s.rsn now siteBssid
  obtain ⟨e, he, hlive, hhit⟩ := hswept.found i hfind
  have hsite : e.siteBssid = siteBssid := of_decide_eq_true hhit
  have hmem := hswept.subset (List.mem_of_getElem? he)
  refine ⟨e, he, hsite, ?_, ?_⟩
  · rw [← hsite]
    exact h.last e hmem
  · exact (expired_eq_false_iff ((h.started e hmem).trans hclock.1) hclock.2).mp hlive

theorem find_none (h : BanInv s) (hclock : s.clocked now)
    (hfind : (findBannedSiteAndCleanup s.rsn now siteBssid).1 = none) :
    (∀ e ∈ (swept s now siteBssid).rsn.bannedSites, e.siteBssid ≠ siteBssid) ∧
      ∀ b, s.last siteBssid = some b → ¬ b.inEffect now := by
  have hswept := find_swept s.rsn now siteBssid
  have hother : ∀ e ∈ (swept s now siteBssid).rsn.bannedSites, e.siteBssid ≠ siteBssid :=
    fun e he => of_decide_eq_false (hswept.notFound hfind e he).2
  refine ⟨hother, fun b hlast heffect => ?_⟩
  obtain ⟨e, he, hsite⟩ := (swept_inv h hclock siteBssid).listed siteBssid b hlast heffect
  exact hother e he hsite

/-- **A site is reported banned exactly if its last ban is in effect and full.** -/
theorem BanInv.reported (h : BanInv s) (hclock : s.clocked now) (site : MacAddr) :
    (isSiteBanned s.rsn now site).1 = true ↔
      ∃ b, s.last site = some b ∧ b.inEffect now ∧ b.full = true := by
  cases hfind : (findBannedSiteAndCleanup s.rsn now site).1 with
  | some i =>
    obtain ⟨e, he, -, hlast, heffect⟩ := find_some h hclock hfind
    have hanswer : (isSiteBanned s.rsn now site).1 = e.ban.full := by
      rw [isSiteBanned_some hfind]
      exact congrArg (Option.any _) he
    rw [hanswer, hlast]
    simp [heffect]
  | none =>
    rw [isSiteBanned_none hfind]
    refine ⟨fun h => (nomatch h), fun ⟨b, hlast, heffect, _⟩ => ?_⟩
    exact absurd heffect ((find_none h hclock hfind).2 b hlast)

theorem BanInv.right (h : BanInv s) : BansRight s :=
  ⟨h.number, h.distinct, fun _ => h.entries, fun _ => h.reported⟩

/-! ## The steps -/

theorem banned_none (last : MacAddr → Option Ban) (now : ℕ) (siteBssid : MacAddr)
    (banLevel : ERsnSiteBanLevel) (durationMs : ℕ) :
    banned last none now siteBssid banLevel durationMs =
      update last siteBssid
        (some ⟨banLevel = .full || stillBanned last now siteBssid, now, durationMs⟩) := by
  have hkept : (fun site => if none = some site then none else last site) = last :=
    funext fun _ => if_neg nofun
  rw [banned, hkept]

variable (banLevel : ERsnSiteBanLevel) (durationMs : ℕ)

theorem BanInv.write (h : BanInv s) {t : BanSystem} (new : SiteBanEntry)
    (old : List SiteBanEntry) (hentry : new.siteBssid = siteBssid)
    (hstarted : new.banStartedMs = s.now)
    (hperm : t.rsn.bannedSites.Perm (new :: old))
    (hold : old.Sublist s.rsn.bannedSites) (hother : ∀ e ∈ old, e.siteBssid ≠ siteBssid)
    (hkept : ∀ e ∈ s.rsn.bannedSites, e.siteBssid ≠ siteBssid → e ∈ old)
    (hlength : t.rsn.numOfBannedSites = t.rsn.bannedSites.length)
    (hnumber : t.rsn.numOfBannedSites ≤ rsnMaxNumberOfBannedSites)
    (hlast : t.last = update s.last siteBssid (some new.ban)) (hnow : t.now = s.now) :
    BanInv t := by
  have hmem : ∀ e, e ∈ t.rsn.bannedSites ↔ e = new ∨ e ∈ old := fun e => by
    rw [hperm.mem_iff, List.mem_cons]
  refine ⟨hlength, hnumber, ?_, fun e he => ?_, fun e he => ?_, fun site b hb heffect => ?_⟩
  · rw [(hperm.map _).nodup_iff, List.map_cons, List.nodup_cons]
    refine ⟨fun hdup => ?_, h.distinct.sublist (hold.map _)⟩
    obtain ⟨e, he, heq⟩ := List.mem_map.mp hdup
    exact hother e he (heq.trans hentry)
  · rw [hlast]
    rcases (hmem e).mp he with rfl | he
    · rw [hentry, update_self]
    · rw [update_of_ne (hother e he)]
      exact h.last e (hold.subset he)
  · rw [hnow]
    rcases (hmem e).mp he with rfl | he
    · exact hstarted.le
    · exact h.started e (hold.subset he)
  · rw [hlast] at hb
    rw [hnow] at heffect
    by_cases hsite : site = siteBssid
    · exact ⟨new, (hmem new).mpr (Or.inl rfl), hentry.trans hsite.symm⟩
    · rw [update_of_ne hsite] at hb
      obtain ⟨e, he, rfl⟩ := h.listed site b hb heffect
      exact ⟨e, (hmem e).mpr (Or.inr (hkept e he hsite)), rfl⟩

theorem stillBanned_eq_true (h : BanInv s) (hclock : s.clocked now) {i : ℕ}
    (hfind : (findBannedSiteAndCleanup s.rsn now siteBssid).1 = some i) :
    stillBanned s.last now siteBssid = true := by
  obtain ⟨e, -, -, hlast, heffect⟩ := find_some h hclock hfind
  rw [stillBanned, hlast]
  exact decide_eq_true heffect

theorem stillBanned_eq_false (h : BanInv s) (hclock : s.clocked now)
    (hfind : (findBannedSiteAndCleanup s.rsn now siteBssid).1 = none) :
    stillBanned s.last now siteBssid = false := by
  unfold stillBanned
  cases hlast : s.last siteBssid with
  | none => rfl
  | some b => exact decide_eq_false ((find_none h hclock hfind).2 b hlast)

theorem next_refresh (h : BanInv s) (hclock : s.clocked now) {i : ℕ}
    (hfind : (findBannedSiteAndCleanup s.rsn now siteBssid).1 = some i) :
    BanInv (s.next (.banSite now siteBssid banLevel durationMs)) := by
  obtain ⟨hlist, hlost⟩ := banSite_some banLevel durationMs hfind
  obtain ⟨e, he, hsite, -, -⟩ := find_some h hclock hfind
  have hinv := swept_inv h hclock siteBssid
  obtain ⟨hi, hei⟩ := List.getElem?_eq_some_iff.mp he
  -- the entry is the only one of the site
  have hsplit := List.getElem_cons_eraseIdx_perm hi
  rw [hei] at hsplit
  have hnodup := (hsplit.map SiteBanEntry.siteBssid).nodup_iff.mpr hinv.distinct
  rw [List.map_cons, List.nodup_cons, hsite] at hnodup
  refine hinv.write ⟨.full, now, durationMs, siteBssid⟩
    ((swept s now siteBssid).rsn.bannedSites.eraseIdx i) rfl rfl ?_ (List.eraseIdx_sublist _ _) ?_
    ?_ ?_ ?_ ?_ rfl
  · rw [BanSystem.next, hlist]
    exact List.set_perm_cons_eraseIdx hi _
  · intro a ha heq
    exact hnodup.1 (List.mem_map.mpr ⟨a, ha, heq⟩)
  · intro a ha hne
    rcases List.mem_cons.mp (hsplit.mem_iff.mpr ha) with rfl | hold
    · exact absurd hsite hne
    · exact hold
  · rw [BanSystem.next, hlist]
    exact hinv.length.trans List.length_set.symm
  · rw [BanSystem.next, hlist]
    exact hinv.number
  · change banned s.last _ _ _ _ _ = _
    rw [hlost, banned_none, stillBanned_eq_true h hclock hfind, Bool.or_true]
    rfl

theorem next_add (h : BanInv s) (hclock : s.clocked now)
    (hfind : (findBannedSiteAndCleanup s.rsn now siteBssid).1 = none)
    (hroom : (swept s now siteBssid).rsn.numOfBannedSites < rsnMaxNumberOfBannedSites) :
    BanInv (s.next (.banSite now siteBssid banLevel durationMs)) := by
  have hinv := swept_inv h hclock siteBssid
  obtain ⟨hother, -⟩ := find_none h hclock hfind
  have hinsert : findEntryForInsert (swept s now siteBssid).rsn =
      (swept s now siteBssid).rsn.bannedSites.length :=
    (if_neg (Nat.ne_of_lt hroom)).trans hinv.length
  have hlist : (s.next (.banSite now siteBssid banLevel durationMs)).rsn =
      ⟨(swept s now siteBssid).rsn.bannedSites ++ [⟨banLevel, now, durationMs, siteBssid⟩],
        (swept s now siteBssid).rsn.numOfBannedSites + 1⟩ := by
    refine (banSite_none banLevel durationMs hfind).trans ?_
    congr 1
    change writeEntry _ (findEntryForInsert (swept s now siteBssid).rsn) _ = _
    rw [hinsert]
    exact if_neg (Nat.lt_irrefl _)
  refine hinv.write ⟨banLevel, now, durationMs, siteBssid⟩
    (swept s now siteBssid).rsn.bannedSites rfl rfl ?_ (List.Sublist.refl _) hother
    (fun _ ha _ => ha) ?_ ?_ ?_ rfl
  · rw [hlist]
    exact List.perm_append_singleton _ _
  · rw [hlist, List.length_append, List.length_singleton]
    exact congrArg (· + 1) hinv.length
  · rw [hlist]
    exact hroom
  · change banned s.last _ _ _ _ _ = _
    rw [overwritten_eq_none hfind hroom, banned_none, stillBanned_eq_false h hclock hfind,
      Bool.or_false]
    rfl

theorem swept_number (h : BanInv s) (hclock : s.clocked now)
    (hfind : (findBannedSiteAndCleanup s.rsn now siteBssid).1 = none) :
    (swept s now siteBssid).rsn.numOfBannedSites =
      (s.rsn.bannedSites.filter fun e => !expired now e).length := by
  rw [(swept_inv h hclock siteBssid).length]
  exact (find_swept s.rsn now siteBssid).length_of_notFound hfind

/-- **A ban keeps the invariant if it fits, and overruns the array if not.** -/
theorem next_banSite (h : BanInv s) (hclock : s.clocked now) (siteBssid : MacAddr) :
    (BanFits s (.banSite now siteBssid banLevel durationMs) →
        BanInv (s.next (.banSite now siteBssid banLevel durationMs))) ∧
      (¬ BanFits s (.banSite now siteBssid banLevel durationMs) →
        rsnMaxNumberOfBannedSites <
          (s.next (.banSite now siteBssid banLevel durationMs)).rsn.numOfBannedSites) := by
  cases hfind : (findBannedSiteAndCleanup s.rsn now siteBssid).1 with
  | some i =>
    refine ⟨fun _ => next_refresh banLevel durationMs h hclock hfind, fun hnot => ?_⟩
    obtain ⟨e, -, -, hlast, heffect⟩ := find_some h hclock hfind
    obtain ⟨a, ha, hsite, hlive, -⟩ := (h.entries hclock siteBssid e.ban).mp ⟨hlast, heffect⟩
    exact absurd (fun _ => Or.inl ⟨a, ha, hsite, hlive⟩) hnot
  | none =>
    have hnumber := swept_number h hclock hfind
    constructor
    · intro hfits
      refine next_add banLevel durationMs h hclock hfind ?_
      rcases hfits hclock with ⟨e, he, hsite, hlive⟩ | hroom
      · obtain ⟨hlast, heffect⟩ := (h.entries hclock siteBssid e.ban).mpr ⟨e, he, hsite, hlive, rfl⟩
        exact absurd heffect ((find_none h hclock hfind).2 _ hlast)
      · rwa [hnumber]
    · intro hnot
      have hfull : ¬ (s.rsn.bannedSites.filter fun e => !expired now e).length <
          rsnMaxNumberOfBannedSites := fun hroom => hnot fun _ => Or.inr hroom
      change _ < (banSite s.rsn now siteBssid banLevel durationMs).2.numOfBannedSites
      rw [banSite_none banLevel durationMs hfind]
      change _ < (swept s now siteBssid).rsn.numOfBannedSites + 1
      omega

theorem next_isSiteBanned (h : BanInv s) (hclock : s.clocked now) (siteBssid : MacAddr) :
    BanInv (s.next (.isSiteBanned now siteBssid)) := by
  have hlist : s.next (.isSiteBanned now siteBssid) = swept s now siteBssid := by
    rw [BanSystem.next, isSiteBanned_list]
    rfl
  rw [hlist]
  exact swept_inv h hclock siteBssid

/-! ## Runs -/

theorem banStep_some {op : BanOp} {t : BanSystem} (hstep : banStep s op = some t) :
    s.clocked op.now ∧ t = s.next op := by
  unfold banStep at hstep
  split at hstep
  next h => exact ⟨h.1, (Option.some.inj hstep).symm⟩
  next => exact nomatch hstep

/-- **All states of a run are right exactly if every ban fits.** -/
theorem banned_sites_right_iff (start : ℕ) (ops : List BanOp) :
    (∀ js t, js <+: ops → exec banStep (BanSystem.init start) js = some t → BansRight t) ↔
      Along banStep BanFits (BanSystem.init start) ops := by
  refine along_iff_of_breaks (I := BanInv) (S := BansRight) (fun _ h => h.right) ?_ ?_
    (banInv_init start)
  · intro s op t hs hfits hstep
    obtain ⟨hclock, rfl⟩ := banStep_some hstep
    cases op with
    | banSite now siteBssid banLevel durationMs =>
      exact (next_banSite banLevel durationMs hs hclock siteBssid).1 hfits
    | isSiteBanned now siteBssid => exact next_isSiteBanned hs hclock siteBssid
  · intro s op hs hnot
    cases op with
    | banSite now siteBssid banLevel durationMs =>
      by_cases hclock : s.clocked now
      · refine ⟨_, if_pos ⟨hclock, hs.number⟩, fun hright => ?_⟩
        have hover := (next_banSite banLevel durationMs hs hclock siteBssid).2 hnot
        exact absurd hright.number (Nat.not_le.mpr hover)
      · exact absurd (fun h => absurd h hclock) hnot
    | isSiteBanned now siteBssid => exact absurd trivial hnot

/-- Seventeen sites are banned for a minute: the array has sixteen entries. -/
theorem seventeenth_ban_overruns :
    ¬ ∀ (start : ℕ) (ops js : List BanOp) (t : BanSystem), js <+: ops →
      exec banStep (BanSystem.init start) js = some t → BansRight t := by
  intro h
  let ops : List BanOp := (List.range 17).map fun i => .banSite i (BitVec.ofNat 48 i) .full 60000
  have hrun : (exec banStep (BanSystem.init 0) ops).map (·.rsn.numOfBannedSites) = some 17 := by
    decide +kernel
  obtain ⟨t, ht, hnum⟩ := Option.map_eq_some_iff.mp hrun
  have hright := h 0 ops ops t List.prefix_rfl ht
  exact absurd (hnum ▸ hright.number) (by decide)

end ArchosGpl.Wlan.Rsn
