import Mathlib.Data.List.Forall2
import ArchosGpl.Wlan.Sme.SelectModel

/-!
# One selection, and the attempt

What a call does in terms of the sites that are left to be selected (`candidates`): without an
overlap it is one pass of the selection by a running bound over their RSSI (`call_free`), with an
overlap it selects none and leaves them (`call_stops`). So **the answers of an attempt are the
answers of the repeated passes** (`answer_eq`), or there are none (`null_of_stops`).

An RSN evaluation gets whole elements of the site where their length is the one that the entry
states (`RsnWhole`); else it gets a part of an element, or what the local array held before.
-/

namespace ArchosGpl.Wlan.Sme.Select

open Lib
open Wlan.ScanResultTable (SiteEntry Dot11Rsn TMacAddr maxRsnIe rsnSize)

variable {c : Settings} {site : Site} {b : LocalArray} {v : Vars} {i j k : ℕ}

/-! ## The elements that are evaluated -/

/-- The length that the entry states is the length of its first elements, or the copy is refused at
an element that does not fit into the array. -/
def RsnWhole (site : Site) : Prop :=
  (∃ k ≤ maxRsnIe, rsnSize (site.pRsnIe.take k) = site.rsnIeLen) ∨
    ∃ k < maxRsnIe,
      rsnSize (site.pRsnIe.take k) < site.rsnIeLen ∧ 255 < rsnSize (site.pRsnIe.take (k + 1))

theorem length_bytes (ie : Dot11Rsn) : ie.bytes.length = ie.size := rfl

theorem length_flatMap_bytes (ies : List Dot11Rsn) :
    (ies.flatMap Dot11Rsn.bytes).length = rsnSize ies := by
  rw [List.length_flatMap]
  rfl

theorem rsnSize_cons (ie : Dot11Rsn) (ies : List Dot11Rsn) :
    rsnSize (ie :: ies) = ie.size + rsnSize ies := List.sum_cons

theorem copyRsnIes_whole {n : ℕ} (hlen : n ≤ 255) {ies : List Dot11Rsn} {w : List UInt8}
    (h : w.length + rsnSize (ies.take k) = n) :
    copyRsnIes n ies w = some (w ++ (ies.take k).flatMap Dot11Rsn.bytes) := by
  induction ies generalizing w k with
  | nil => rw [copyRsnIes, List.take_nil, List.flatMap_nil, List.append_nil]
  | cons ie ies ih =>
    cases k with
    | zero =>
      have hnot : ¬w.length < n :=
        Nat.not_lt.mpr (Nat.le_trans (Nat.le_of_eq h.symm) (Nat.le_refl _))
      rw [copyRsnIes, if_neg hnot, List.take_zero, List.flatMap_nil, List.append_nil]
    | succ k =>
      rw [List.take_succ_cons, rsnSize_cons] at h
      have hsize : ie.size = ie.data.length + 2 := rfl
      rw [copyRsnIes, if_pos (by omega), if_neg (by omega), List.take_succ_cons, List.flatMap_cons,
        ← List.append_assoc]
      exact ih (by rw [List.length_append, length_bytes]; omega)

theorem copyRsnIes_eq_none {n : ℕ} {ies : List Dot11Rsn} {w : List UInt8} :
    copyRsnIes n ies w = none ↔ ∃ k < ies.length,
      w.length + rsnSize (ies.take k) < n ∧
        255 < w.length + rsnSize (ies.take (k + 1)) := by
  induction ies generalizing w with
  | nil =>
    rw [copyRsnIes]
    exact iff_of_false nofun fun ⟨_, hk, _⟩ => absurd hk (Nat.not_lt_zero _)
  | cons ie ies ih =>
    have hsize : ie.size = ie.data.length + 2 := rfl
    have hzero : rsnSize [] = 0 := rfl
    rw [copyRsnIes]
    split
    · next hlt =>
      split
      · next hbig =>
        refine iff_of_true rfl ⟨0, Nat.succ_pos _, ?_, ?_⟩
        · rwa [List.take_zero, hzero, Nat.add_zero]
        · rw [List.take_succ_cons, List.take_zero, rsnSize_cons, hzero]
          omega
      · next hfits =>
        rw [ih, List.length_append, length_bytes]
        constructor
        · rintro ⟨k, hk, hlow, hhigh⟩
          refine ⟨k + 1, Nat.succ_lt_succ hk, ?_, ?_⟩ <;>
            · rw [List.take_succ_cons, rsnSize_cons]
              omega
        · rintro ⟨k, hk, hlow, hhigh⟩
          cases k with
          | zero =>
            rw [List.take_succ_cons, List.take_zero, rsnSize_cons, hzero] at hhigh
            omega
          | succ k =>
            rw [List.take_succ_cons, rsnSize_cons] at hlow hhigh
            exact ⟨k, Nat.lt_of_succ_lt_succ hk, by omega, by omega⟩
    · next hge =>
      exact iff_of_false nofun fun ⟨k, _, hlow, _⟩ => by omega

theorem RsnWhole.given (h : RsnWhole site) :
    (∃ k, ∀ b, rsnGiven site b = some ((site.pRsnIe.take k).flatMap Dot11Rsn.bytes)) ∨
      ∀ b, rsnGiven site b = none := by
  have hlen : site.rsnIeLen ≤ 255 := Nat.le_of_lt_succ site.rsnIeLen_lt
  rcases h with ⟨k, -, hk⟩ | ⟨k, hk, hlow, hhigh⟩
  · refine .inl ⟨k, fun b => ?_⟩
    have hcopy := copyRsnIes_whole (w := []) hlen ((Nat.zero_add _).trans hk)
    rw [rsnGiven, hcopy, Option.map_some, List.nil_append]
    congr 1
    exact List.take_left' ((length_flatMap_bytes _).trans hk)
  · refine .inr fun b => ?_
    have hnone := (copyRsnIes_eq_none (n := site.rsnIeLen) (w := [])).mpr
      ⟨k, site.pRsnIe_length ▸ hk, by rwa [List.length_nil, Nat.zero_add],
        by rwa [List.length_nil, Nat.zero_add]⟩
    rw [rsnGiven, hnone, Option.map_none]

theorem length_rsnGiven {ie : List UInt8} (h : rsnGiven site b = some ie) :
    ie.length = site.rsnIeLen := by
  obtain ⟨written, -, rfl⟩ := Option.map_eq_some_iff.mp h
  have hlen := site.rsnIeLen_lt
  have hbuf := b.2
  rw [List.length_take, List.length_append, List.length_drop]
  omega

theorem rsnWhole_of_given
    (h : ∀ ie, rsnGiven site b = some ie → ∃ k, ie = (site.pRsnIe.take k).flatMap Dot11Rsn.bytes) :
    RsnWhole site := by
  cases hgiven : rsnGiven site b with
  | none =>
    have hnone := Option.map_eq_none_iff.mp hgiven
    obtain ⟨k, hk, hlow, hhigh⟩ := copyRsnIes_eq_none.mp hnone
    rw [List.length_nil, Nat.zero_add] at hlow hhigh
    exact .inr ⟨k, site.pRsnIe_length ▸ hk, hlow, hhigh⟩
  | some ie =>
    obtain ⟨k, rfl⟩ := h ie hgiven
    have hlen := length_rsnGiven hgiven
    rw [length_flatMap_bytes] at hlen
    refine .inl ⟨min k maxRsnIe, Nat.min_le_right _ _, ?_⟩
    rw [← hlen, ← site.pRsnIe_length, ← List.take_eq_take_min]

/-! ## The sites of a pass -/

/-- The first three match functions. -/
def seen (c : Settings) (site : Site) : Bool :=
  smeSelectSsidMatch c site && smeSelectBssidMatch c site && smeSelectBssTypeMatch c site

def LocalArray.clean : LocalArray := ⟨List.replicate 255 0, List.length_replicate⟩

/-- All match functions, and no channel switch announced. -/
def passes (c : Settings) (b : LocalArray) (site : Site) : Bool :=
  seen c site && (smeSelectWscMatch c site false).1 &&
    (!rsnChecked c site || smeSelectRsnMatch c site b) && siteMgrSelectRateMatch c site &&
    !site.bChannelSwitchAnnoncIeFound

def candidate (c : Settings) (site : Site) : Bool :=
  !site.bConsideredForSelect && passes c .clean site

/-- The site counts as one with push button. -/
def pbSeen (c : Settings) (site : Site) : Bool :=
  !site.bConsideredForSelect && seen c site && site.wscSiteMode = .pbcMethod

/-- The candidates from a place of the table on, with their RSSI. -/
def candidatesFrom (c : Settings) : ℕ → List Site → List (ℕ × ℤ)
  | _, [] => []
  | i, site :: sites =>
    if candidate c site then (i, site.rssi) :: candidatesFrom c (i + 1) sites
    else candidatesFrom c (i + 1) sites

abbrev candidates (c : Settings) (t : List Site) : List (ℕ × ℤ) := candidatesFrom c 0 t

/-- The entry after the pass. -/
def mark (c : Settings) (site : Site) : Site :=
  if site.bConsideredForSelect || passes c .clean site then site else site.consider

def evalOf (c : Settings) (b : LocalArray) (i : ℕ) (site : Site) : List (ℕ × List UInt8) :=
  if !site.bConsideredForSelect && seen c site && c.siteMgrWscCurrMode = .off then
    ((rsnGiven site b).map fun ie => (i, ie)).toList
  else []

def evalsFrom (c : Settings) (b : ℕ → LocalArray) : ℕ → List Site → List (ℕ × List UInt8)
  | _, [] => []
  | i, site :: sites => evalOf c (b i) i site ++ evalsFrom c b (i + 1) sites

/-- The elements of every site that is evaluated are whole. -/
def Whole (c : Settings) (t : List Site) : Prop :=
  c.siteMgrWscCurrMode = .off →
    ∀ site ∈ t, site.bConsideredForSelect = false → seen c site → RsnWhole site

/-- The entry of the running bound. -/
def Vars.best (v : Vars) : Selection.Best ℕ ℤ := ⟨v.pSelectedSite, v.iSelectedSiteRssi⟩

/-- The variables after a site. -/
structure Goes (c : Settings) (b : LocalArray) (i : ℕ) (site : Site) (v v' : Vars) : Prop where
  counted : v'.apFoundCtr = v.apFoundCtr + (pbSeen c site).toNat
  found : v'.pWscPbApFound = decide (1 < v'.apFoundCtr)
  best : v'.best =
    if candidate c site then Selection.keep int8 v.best (i, site.rssi) else v.best
  evals : v'.evals = v.evals ++ evalOf c b i site

/-! ## A site -/

theorem Vars.count_counted (v : Vars) (site : Site) :
    (v.count site).apFoundCtr =
      if site.wscSiteMode = .pbcMethod then v.apFoundCtr + 1 else v.apFoundCtr := rfl

theorem Vars.count_found (hfound : v.pWscPbApFound = decide (1 < v.apFoundCtr)) :
    (v.count site).pWscPbApFound = decide (1 < (v.count site).apFoundCtr) := by
  rw [Vars.count_counted, Vars.count, hfound, ← Bool.decide_or, decide_eq_decide]
  split <;> omega

theorem smeSelectWscMatch_of_first {found : Bool}
    (h : ¬(c.siteMgrWscCurrMode ≠ .off ∧ site.wscSiteMode = .pbcMethod ∧ found)) :
    smeSelectWscMatch c site found = ((smeSelectWscMatch c site false).1, false) := by
  unfold smeSelectWscMatch
  by_cases hoff : c.siteMgrWscCurrMode = .off
  · rw [if_pos hoff, if_pos hoff]
  · rw [if_neg hoff, if_neg hoff, if_neg (fun hf => h ⟨hoff, hf.2, hf.1⟩), if_neg nofun]

theorem smeSelectWscMatch_of_second (hoff : c.siteMgrWscCurrMode ≠ .off)
    (hpb : site.wscSiteMode = .pbcMethod) : smeSelectWscMatch c site true = (false, true) := by
  rw [smeSelectWscMatch, if_neg hoff, if_pos ⟨rfl, hpb⟩]

theorem rsnChecked_iff (h : (smeSelectWscMatch c site false).1) :
    rsnChecked c site ↔ c.siteMgrWscCurrMode = .off := by
  unfold smeSelectWscMatch at h
  unfold rsnChecked
  by_cases hoff : c.siteMgrWscCurrMode = .off
  · simp [hoff]
  · rw [if_neg hoff, if_neg nofun] at h
    have heq : site.wscSiteMode = c.siteMgrWscCurrMode := of_decide_eq_true h
    simp [heq, hoff]

theorem smeSelectRsnMatch_of_whole (h : RsnWhole site) :
    smeSelectRsnMatch c site b = smeSelectRsnMatch c site .clean := by
  unfold smeSelectRsnMatch
  rcases h.given with ⟨k, hk⟩ | hnone
  · rw [hk, hk]
  · rw [hnone, hnone]

/-- The match functions that follow the WSC match. -/
def settles (c : Settings) (b : LocalArray) (site : Site) : Bool :=
  (!rsnChecked c site || smeSelectRsnMatch c site b) && siteMgrSelectRateMatch c site &&
    !site.bChannelSwitchAnnoncIeFound

theorem passes_eq (b : LocalArray) (hseen : seen c site) (hwsc : (smeSelectWscMatch c site false).1) :
    passes c b site = settles c b site := by
  rw [passes, settles, hseen, hwsc]
  rfl

theorem settles_clean (hwsc : (smeSelectWscMatch c site false).1)
    (hwhole : c.siteMgrWscCurrMode = .off → RsnWhole site) :
    settles c b site = settles c .clean site := by
  unfold settles
  by_cases hch : rsnChecked c site
  · rw [smeSelectRsnMatch_of_whole (hwhole ((rsnChecked_iff hwsc).mp hch))]
  · rw [Bool.eq_false_of_not_eq_true hch]
    rfl

/-- A site that matches is kept where it is the best one so far. -/
def Vars.select (v : Vars) (i : ℕ) (site : Site) : Vars :=
  if v.iSelectedSiteRssi < site.rssi then
    { v with pSelectedSite := some i, iSelectedSiteRssi := int8 site.rssi }
  else v

theorem Vars.best_select : (v.select i site).best = Selection.keep int8 v.best (i, site.rssi) := by
  unfold Vars.select Selection.keep Vars.best
  split <;> rfl

theorem Vars.select_counted : (v.select i site).apFoundCtr = v.apFoundCtr := by
  unfold Vars.select
  split <;> rfl

theorem Vars.select_found : (v.select i site).pWscPbApFound = v.pWscPbApFound := by
  unfold Vars.select
  split <;> rfl

theorem Vars.select_evals : (v.select i site).evals = v.evals := by
  unfold Vars.select
  split <;> rfl

theorem considerMatching_eq (hwsc : (smeSelectWscMatch c site false).1) :
    considerMatching c b i site v =
      let ie := if c.siteMgrWscCurrMode = .off then rsnGiven site b else none
      let v := { v with evals := v.evals ++ (ie.map fun ie => (i, ie)).toList }
      if settles c b site then .next site (v.select i site) else .next site.consider v := by
  have hoff : (if rsnChecked c site then rsnGiven site b else none) =
      if c.siteMgrWscCurrMode = .off then rsnGiven site b else none := by
    rw [if_congr (rsnChecked_iff hwsc) rfl rfl]
  unfold considerMatching settles Vars.select
  rw [hoff]
  generalize rsnChecked c site = checked
  generalize smeSelectRsnMatch c site b = rsn
  cases siteMgrSelectRateMatch c site with
  | false => cases checked <;> cases rsn <;> rfl
  | true =>
    cases site.bChannelSwitchAnnoncIeFound with
    | true => cases checked <;> cases rsn <;> rfl
    | false =>
      dsimp only
      by_cases hbest : v.iSelectedSiteRssi < site.rssi
      · rw [if_pos hbest, if_pos hbest]
        cases checked <;> cases rsn <;> rfl
      · rw [if_neg hbest, if_neg hbest]
        cases checked <;> cases rsn <;> rfl

theorem evalOf_seen (hc : site.bConsideredForSelect = false) (hseen : seen c site) :
    evalOf c b i site =
      ((if c.siteMgrWscCurrMode = .off then rsnGiven site b else none).map
        fun ie => (i, ie)).toList := by
  rw [evalOf, hc, hseen]
  by_cases hoff : c.siteMgrWscCurrMode = .off <;> simp [hoff]

theorem considerMatching_spec (hc : site.bConsideredForSelect = false) (hseen : seen c site)
    (hwsc : (smeSelectWscMatch c site false).1)
    (hwhole : c.siteMgrWscCurrMode = .off → RsnWhole site) :
    ∃ v', considerMatching c b i site v = .next (mark c site) v' ∧
      v'.apFoundCtr = v.apFoundCtr ∧ v'.pWscPbApFound = v.pWscPbApFound ∧
      v'.best = (if candidate c site then Selection.keep int8 v.best (i, site.rssi) else v.best) ∧
      v'.evals = v.evals ++ evalOf c b i site := by
  have hpass := (passes_eq .clean hseen hwsc).trans (settles_clean (b := b) hwsc hwhole).symm
  rw [considerMatching_eq hwsc, mark, candidate, hc, Bool.false_or, Bool.not_false, Bool.true_and, hpass,
    evalOf_seen hc hseen]
  dsimp only
  split
  · exact ⟨_, rfl, Vars.select_counted, Vars.select_found, Vars.best_select, Vars.select_evals⟩
  · exact ⟨_, rfl, rfl, rfl, rfl, rfl⟩

theorem consider_considered (hc : site.bConsideredForSelect) :
    consider c b i site v = .next site v := if_pos hc

theorem consider_unseen (hc : site.bConsideredForSelect = false) (hseen : seen c site = false) :
    consider c b i site v = .next site.consider v := by
  unfold consider
  unfold seen at hseen
  rw [if_neg (Bool.eq_false_iff.mp hc)]
  cases h1 : smeSelectSsidMatch c site
  · rfl
  · cases h2 : smeSelectBssidMatch c site
    · rfl
    · cases h3 : smeSelectBssTypeMatch c site
      · rfl
      · rw [h1, h2, h3] at hseen
        exact absurd hseen nofun

theorem consider_seen (hc : site.bConsideredForSelect = false) (hseen : seen c site) :
    consider c b i site v =
      match smeSelectWscMatch c site (v.count site).pWscPbApFound with
      | (false, true) => .abort (v.count site)
      | (false, false) => .next site.consider (v.count site)
      | (true, _) => considerMatching c b i site (v.count site) := by
  unfold seen at hseen
  rw [Bool.and_eq_true, Bool.and_eq_true] at hseen
  rw [consider, if_neg (Bool.eq_false_iff.mp hc), hseen.1.1, hseen.1.2, hseen.2]
  rfl

theorem consider_evals (hoff : c.siteMgrWscCurrMode = .off) :
    ∃ site' v', consider c b i site v = .next site' v' ∧ v'.evals = v.evals ++ evalOf c b i site := by
  cases hc : site.bConsideredForSelect with
  | true =>
    refine ⟨site, v, consider_considered hc, ?_⟩
    rw [evalOf, hc]
    exact (List.append_nil _).symm
  | false =>
    cases hseen : seen c site with
    | false =>
      refine ⟨site.consider, v, consider_unseen hc hseen, ?_⟩
      rw [evalOf, hseen, Bool.and_false]
      exact (List.append_nil _).symm
    | true =>
      have hwsc (found : Bool) : smeSelectWscMatch c site found = (true, false) := if_pos hoff
      rw [consider_seen hc hseen, hwsc, evalOf_seen hc hseen]
      dsimp only
      rw [considerMatching_eq (by rw [hwsc])]
      dsimp only
      split
      · exact ⟨_, _, rfl, Vars.select_evals⟩
      · exact ⟨_, _, rfl, rfl⟩

theorem consider_abort (hfound : v.pWscPbApFound = decide (1 < v.apFoundCtr))
    (hoff : c.siteMgrWscCurrMode ≠ .off) (hpb : pbSeen c site) (hctr : 1 ≤ v.apFoundCtr) :
    ∃ v', consider c b i site v = .abort v' ∧ v'.evals = v.evals := by
  simp only [pbSeen, Bool.and_eq_true, Bool.not_eq_true', decide_eq_true_eq] at hpb
  obtain ⟨⟨hc, hseen⟩, hpb⟩ := hpb
  have hnow : (v.count site).pWscPbApFound = true := by
    rw [Vars.count_found hfound, Vars.count_counted, if_pos hpb]
    exact decide_eq_true (by omega)
  rw [consider_seen hc hseen, hnow, smeSelectWscMatch_of_second hoff hpb]
  exact ⟨_, rfl, rfl⟩

theorem consider_next (hfound : v.pWscPbApFound = decide (1 < v.apFoundCtr))
    (hgo : ¬(c.siteMgrWscCurrMode ≠ .off ∧ pbSeen c site ∧ 1 ≤ v.apFoundCtr))
    (hwhole : c.siteMgrWscCurrMode = .off → site.bConsideredForSelect = false → seen c site →
      RsnWhole site) :
    ∃ v', consider c b i site v = .next (mark c site) v' ∧ Goes c b i site v v' := by
  cases hc : site.bConsideredForSelect with
  | true =>
    refine ⟨v, by rw [consider_considered hc, mark, hc]; rfl, ?_, hfound, ?_, ?_⟩
    · rw [pbSeen, hc]
      rfl
    · rw [candidate, hc]
      rfl
    · rw [evalOf, hc]
      exact (List.append_nil _).symm
  | false =>
    cases hseen : seen c site with
    | false =>
      have hpass : passes c .clean site = false := by
        rw [passes, hseen]
        rfl
      refine ⟨v, by rw [consider_unseen hc hseen, mark, hc, hpass]; rfl, ?_, hfound, ?_, ?_⟩
      · rw [pbSeen, hseen, Bool.and_false]
        rfl
      · rw [candidate, hpass, Bool.and_false]
        rfl
      · rw [evalOf, hseen, Bool.and_false]
        exact (List.append_nil _).symm
    | true =>
      have hpb : pbSeen c site = decide (site.wscSiteMode = .pbcMethod) := by
        rw [pbSeen, hc, hseen]
        rfl
      have hctr : (v.count site).apFoundCtr = v.apFoundCtr + (pbSeen c site).toNat := by
        rw [Vars.count_counted, hpb]
        by_cases h : site.wscSiteMode = .pbcMethod <;> simp [h]
      have hfound' : (v.count site).pWscPbApFound = decide (1 < (v.count site).apFoundCtr) :=
        Vars.count_found hfound
      have hfirst : ¬(c.siteMgrWscCurrMode ≠ .off ∧ site.wscSiteMode = .pbcMethod ∧
          (v.count site).pWscPbApFound) := by
        rintro ⟨hoff, hmode, hnow⟩
        rw [hfound', decide_eq_true_iff, Vars.count_counted, if_pos hmode] at hnow
        exact hgo ⟨hoff, hpb.trans (decide_eq_true hmode), by omega⟩
      rw [consider_seen hc hseen, smeSelectWscMatch_of_first hfirst]
      cases hwsc : (smeSelectWscMatch c site false).1 with
      | true =>
        obtain ⟨v', hv', hctr', hf', hbest, hevals⟩ := considerMatching_spec (b := b) (i := i)
          (v := v.count site) hc hseen hwsc fun hoff => hwhole hoff hc hseen
        exact ⟨v', hv', hctr'.trans hctr, by rw [hf', hctr', hfound'], hbest, hevals⟩
      | false =>
        have hpass : passes c .clean site = false := by
          rw [passes, hwsc, Bool.and_false]
          rfl
        refine ⟨v.count site, by rw [mark, hc, hpass]; rfl, hctr, hfound', ?_, ?_⟩
        · rw [candidate, hpass, Bool.and_false]
          rfl
        · have hoff : c.siteMgrWscCurrMode ≠ .off := fun h => by
            rw [smeSelectWscMatch, if_pos h] at hwsc
            exact absurd hwsc nofun
          rw [evalOf, decide_eq_false hoff, Bool.and_false]
          exact (List.append_nil _).symm

/-! ## The candidates of a table -/

variable {t t' l l₁ l₂ : List Site} {f : ℕ → LocalArray}

theorem candidate_consider : candidate c site.consider = false := rfl

theorem candidate_mark : candidate c (mark c site) = candidate c site := by
  unfold mark
  split
  · rfl
  · next h =>
    rw [Bool.not_eq_true, Bool.or_eq_false_iff] at h
    rw [candidate_consider, candidate, h.2, Bool.and_false]

theorem rssi_mark : (mark c site).rssi = site.rssi := by
  unfold mark
  split <;> rfl

theorem candidatesFrom_map_mark : candidatesFrom c i (l.map (mark c)) = candidatesFrom c i l := by
  induction l generalizing i with
  | nil => rfl
  | cons site l ih => rw [List.map_cons, candidatesFrom, candidatesFrom, candidate_mark, rssi_mark, ih]

theorem candidatesFrom_append :
    candidatesFrom c i (l₁ ++ l₂) =
      candidatesFrom c i l₁ ++ candidatesFrom c (i + l₁.length) l₂ := by
  induction l₁ generalizing i with
  | nil => rfl
  | cons site l₁ ih =>
    rw [List.cons_append, candidatesFrom, candidatesFrom, ih, List.length_cons, Nat.add_right_comm,
      Nat.add_assoc]
    split <;> rfl

theorem le_of_mem_candidatesFrom {x : ℕ × ℤ} (h : x ∈ candidatesFrom c i l) : i ≤ x.1 := by
  induction l generalizing i with
  | nil => exact absurd h List.not_mem_nil
  | cons site l ih =>
    rw [candidatesFrom] at h
    split at h
    · rcases List.mem_cons.mp h with rfl | h
      · exact Nat.le_refl _
      · exact Nat.le_of_succ_le (ih h)
    · exact Nat.le_of_succ_le (ih h)

theorem candidatesFrom_nodup : ((candidatesFrom c i l).map Prod.fst).Nodup := by
  induction l generalizing i with
  | nil => exact List.nodup_nil
  | cons site l ih =>
    rw [candidatesFrom]
    split
    · refine List.nodup_cons.mpr ⟨fun h => ?_, ih⟩
      obtain ⟨x, hx, hxi⟩ := List.mem_map.mp h
      have := le_of_mem_candidatesFrom hx
      omega
    · exact ih

theorem candidatesFrom_modify :
    candidatesFrom c i (l.modify k Site.consider) =
      (candidatesFrom c i l).filter fun x => some (i + k) ≠ some x.1 := by
  induction l generalizing i k with
  | nil => rw [List.modify_nil]; rfl
  | cons site l ih =>
    cases k with
    | zero =>
      have hrest : (candidatesFrom c (i + 1) l).filter (fun x => some i ≠ some x.1) =
          candidatesFrom c (i + 1) l := List.filter_eq_self.mpr fun x hx => by
        have := le_of_mem_candidatesFrom hx
        simp only [ne_eq, Option.some.injEq, decide_eq_true_eq]
        omega
      rw [List.modify_zero_cons, candidatesFrom, candidate_consider, if_neg nofun, candidatesFrom]
      split
      · rw [List.filter_cons_of_neg (by simp)]
        exact hrest.symm
      · exact hrest.symm
    | succ k =>
      rw [List.modify_succ_cons, candidatesFrom, candidatesFrom, ih,
        show i + 1 + k = i + (k + 1) by omega]
      split
      · rw [List.filter_cons_of_pos (by simp)]
      · rfl

theorem length_candidatesFrom_le (h : c.siteMgrWscCurrMode = .pbcMethod) :
    (candidatesFrom c i l).length ≤ l.countP (pbSeen c) := by
  induction l generalizing i with
  | nil => exact Nat.le_refl _
  | cons site l ih =>
    rw [candidatesFrom, List.countP_cons]
    split
    · next hcand =>
      rw [candidate, passes, Bool.and_eq_true, Bool.and_eq_true, Bool.and_eq_true, Bool.and_eq_true,
        Bool.and_eq_true] at hcand
      obtain ⟨hc, ⟨⟨⟨hseen, hwsc⟩, -⟩, -⟩, -⟩ := hcand
      rw [smeSelectWscMatch, h, if_neg nofun, if_neg nofun] at hwsc
      rw [if_pos (by rw [pbSeen, hc, hseen]; exact hwsc), List.length_cons]
      exact Nat.succ_le_succ ih
    · exact Nat.le_add_right_of_le ih

/-! ## The loop -/

theorem selectLoop_free (hfound : v.pWscPbApFound = decide (1 < v.apFoundCtr))
    (hfree : c.siteMgrWscCurrMode = .off ∨ v.apFoundCtr + l.countP (pbSeen c) ≤ 1)
    (hwhole : Whole c l) :
    ∃ v', selectLoop c f i l v = (l.map (mark c), v', false) ∧
      v'.best = (candidatesFrom c i l).foldl (Selection.keep int8) v.best ∧
      v'.evals = v.evals ++ evalsFrom c f i l := by
  induction l generalizing i v with
  | nil => exact ⟨v, rfl, rfl, (List.append_nil _).symm⟩
  | cons site l ih =>
    rw [List.countP_cons] at hfree
    have hgo : ¬(c.siteMgrWscCurrMode ≠ .off ∧ pbSeen c site ∧ 1 ≤ v.apFoundCtr) := by
      rintro ⟨hoff, hpb, hctr⟩
      rw [if_pos hpb] at hfree
      exact hfree.elim hoff (by omega)
    obtain ⟨v₁, hv₁, hgoes⟩ := consider_next (b := f i) (i := i) hfound hgo
      fun hoff hc hseen => hwhole hoff site List.mem_cons_self hc hseen
    have hfree' : c.siteMgrWscCurrMode = .off ∨ v₁.apFoundCtr + l.countP (pbSeen c) ≤ 1 := by
      refine hfree.imp_right fun h => ?_
      rw [hgoes.counted]
      cases hpb : pbSeen c site <;> rw [hpb] at h <;> simp at h ⊢ <;> omega
    obtain ⟨v', hv', hbest, hevals⟩ := ih (i := i + 1) hgoes.found hfree'
      fun hoff s hs => hwhole hoff s (List.mem_cons_of_mem _ hs)
    refine ⟨v', ?_, ?_, ?_⟩
    · rw [selectLoop, hv₁]
      dsimp only
      rw [hv', List.map_cons]
    · rw [hbest, hgoes.best, candidatesFrom]
      split <;> rfl
    · rw [hevals, hgoes.evals, evalsFrom, List.append_assoc]

theorem selectLoop_evals (hoff : c.siteMgrWscCurrMode = .off) :
    ∃ t' v', selectLoop c f i l v = (t', v', false) ∧
      v'.evals = v.evals ++ evalsFrom c f i l := by
  induction l generalizing i v with
  | nil => exact ⟨[], v, rfl, (List.append_nil _).symm⟩
  | cons site l ih =>
    obtain ⟨site', v₁, hv₁, hevals₁⟩ := consider_evals (b := f i) (i := i) hoff
    obtain ⟨t', v', hv', hevals⟩ := ih (i := i + 1) (v := v₁)
    refine ⟨site' :: t', v', ?_, ?_⟩
    · rw [selectLoop, hv₁]
      dsimp only
      rw [hv']
    · rw [hevals, hevals₁, evalsFrom, List.append_assoc]

theorem selectLoop_stops (hoff : c.siteMgrWscCurrMode ≠ .off)
    (hfound : v.pWscPbApFound = decide (1 < v.apFoundCtr)) (hctr : v.apFoundCtr ≤ 1)
    (hstops : 2 ≤ v.apFoundCtr + l.countP (pbSeen c)) :
    ∃ l₁ l₂ v', l = l₁ ++ l₂ ∧ selectLoop c f i l v = (l₁.map (mark c) ++ l₂, v', true) ∧
      v'.evals = v.evals := by
  induction l generalizing i v with
  | nil =>
    rw [List.countP_nil] at hstops
    omega
  | cons site l ih =>
    by_cases hsecond : pbSeen c site ∧ 1 ≤ v.apFoundCtr
    · obtain ⟨v', hv', hevals⟩ := consider_abort (b := f i) (i := i) hfound hoff hsecond.1 hsecond.2
      refine ⟨[], site :: l, v', rfl, ?_, hevals⟩
      rw [selectLoop, hv']
      rfl
    · obtain ⟨v₁, hv₁, hgoes⟩ := consider_next (b := f i) (i := i) hfound
        (fun h => hsecond h.2) (fun h => absurd h hoff)
      have hcount : v₁.apFoundCtr ≤ 1 ∧ 2 ≤ v₁.apFoundCtr + l.countP (pbSeen c) := by
        rw [List.countP_cons] at hstops
        rw [hgoes.counted]
        cases hpb : pbSeen c site <;> rw [hpb] at hstops hsecond <;> simp at hstops hsecond ⊢ <;> omega
      obtain ⟨l₁, l₂, v', rfl, hv', hevals⟩ := ih (i := i + 1) hgoes.found hcount.1 hcount.2
      refine ⟨site :: l₁, l₂, v', rfl, ?_, ?_⟩
      · rw [selectLoop, hv₁]
        dsimp only
        rw [hv', List.map_cons, List.cons_append]
      · rw [hevals, hgoes.evals, evalOf, decide_eq_false hoff, Bool.and_false]
        exact List.append_nil _

/-! ## A call -/

/-- The entries differ in the mark only. -/
def Marked (site site' : Site) : Prop := site' = site ∨ site' = site.consider

theorem Marked.refl (site : Site) : Marked site site := .inl rfl

theorem Marked.trans {a b d : Site} (h : Marked a b) (h' : Marked b d) : Marked a d := by
  rcases h with rfl | rfl
  · exact h'
  · rcases h' with rfl | rfl <;> exact .inr rfl

theorem marked_mark : Marked site (mark c site) := by
  unfold mark
  split
  · exact .inl rfl
  · exact .inr rfl

theorem Marked.pRsnIe {a b : Site} (h : Marked a b) : b.pRsnIe = a.pRsnIe := by
  rcases h with rfl | rfl <;> rfl

theorem marked_refl (l : List Site) : List.Forall₂ Marked l l :=
  List.forall₂_same.mpr fun _ _ => .refl _

theorem marked_map_mark : List.Forall₂ Marked l (l.map (mark c)) :=
  List.forall₂_map_right_iff.mpr (List.forall₂_same.mpr fun _ _ => marked_mark)

theorem marked_modify : List.Forall₂ Marked l (l.modify k Site.consider) := by
  induction l generalizing k with
  | nil => rw [List.modify_nil]; exact .nil
  | cons site l ih =>
    cases k with
    | zero => exact .cons (.inr rfl) (marked_refl _)
    | succ k => exact .cons (.refl _) ih

theorem marked_trans (h : List.Forall₂ Marked t t') (h' : List.Forall₂ Marked t' l) :
    List.Forall₂ Marked t l := by
  induction h generalizing l with
  | nil => exact h'
  | cons ha _ ih =>
    cases h' with
    | cons hb hl => exact .cons (ha.trans hb) (ih hl)

theorem Whole.marked (h : Whole c t) (hm : List.Forall₂ Marked t t') : Whole c t' := by
  intro hoff site' hsite' hc hseen
  obtain ⟨site, hsite, hmark⟩ : ∃ site ∈ t, Marked site site' := by
    induction hm with
    | nil => exact absurd hsite' List.not_mem_nil
    | cons ha _ ih =>
      rcases List.mem_cons.mp hsite' with rfl | hsite'
      · exact ⟨_, List.mem_cons_self, ha⟩
      · obtain ⟨site, hsite, hmark⟩ := ih (fun hoff s hs => h hoff s (List.mem_cons_of_mem _ hs)) hsite'
        exact ⟨site, List.mem_cons_of_mem _ hsite, hmark⟩
  rcases hmark with rfl | rfl
  · exact h hoff site' hsite hc hseen
  · exact absurd hc nofun

theorem countP_marked (hm : List.Forall₂ Marked t t') :
    t'.countP (pbSeen c) ≤ t.countP (pbSeen c) := by
  induction hm with
  | nil => exact Nat.le_refl _
  | cons ha _ ih =>
    rw [List.countP_cons, List.countP_cons]
    rcases ha with rfl | rfl
    · omega
    · rw [if_neg (by exact nofun)]
      omega

/-- Sites with push button overlap: WSC is on, and two of them count. -/
def Overlaps (c : Settings) (t : List Site) : Prop :=
  c.siteMgrWscCurrMode ≠ .off ∧ 2 ≤ t.countP (pbSeen c)

/-- What a call without an overlap returns. -/
def found (c : Settings) (t : List Site) : Option ℕ :=
  (Selection.best int8 minRssi (candidates c t)).entry

theorem call_free (hfree : ¬Overlaps c t) (hwhole : Whole c t) (memory : Bool) :
    ∃ t', smeSelect c f memory ⟨false, t⟩ =
        ⟨⟨false, t'⟩, (found c t).elim .null .tCandidate, false, evalsFrom c f 0 t⟩ ∧
      List.Forall₂ Marked t t' ∧
      candidates c t' = (candidates c t).filter fun x => found c t ≠ some x.1 := by
  have hfree' : c.siteMgrWscCurrMode = .off ∨ Vars.zero.apFoundCtr + t.countP (pbSeen c) ≤ 1 := by
    by_contra h
    rw [not_or] at h
    exact hfree ⟨h.1, by have := h.2; simp only [Vars.zero] at this; omega⟩
  obtain ⟨v', hv', hbest, hevals⟩ := selectLoop_free (f := f) (i := 0) rfl hfree' hwhole
  have hfound : v'.pSelectedSite = found c t := congrArg Selection.Best.entry hbest
  rw [smeSelect, if_neg nofun]
  dsimp only
  rw [hv', hevals]
  dsimp only
  rw [if_neg nofun, hfound]
  cases found c t with
  | none =>
    refine ⟨_, rfl, marked_map_mark, ?_⟩
    rw [candidates, candidatesFrom_map_mark]
    exact (List.filter_eq_self.mpr fun _ _ => rfl).symm
  | some i =>
    refine ⟨_, rfl, marked_trans marked_map_mark marked_modify, ?_⟩
    rw [candidates, candidatesFrom_modify, candidatesFrom_map_mark]
    simp only [Nat.zero_add]

/-- **With an overlap** it returns no site and leaves the candidates. -/
theorem call_stops (hstops : Overlaps c t) (memory : Bool) :
    ∃ t', smeSelect c f memory ⟨false, t⟩ = ⟨⟨false, t'⟩, .null, true, []⟩ ∧
      List.Forall₂ Marked t t' ∧ candidates c t' = candidates c t := by
  obtain ⟨l₁, l₂, v', rfl, hv', hevals⟩ :=
    selectLoop_stops (v := .zero) (f := f) (i := 0) hstops.1 rfl (Nat.zero_le _)
      (hstops.2.trans (Nat.le_add_left _ _))
  refine ⟨l₁.map (mark c) ++ l₂, ?_, ?_, ?_⟩
  · rw [smeSelect, if_neg nofun]
    dsimp only
    rw [hv', hevals]
    rfl
  · exact List.rel_append marked_map_mark (marked_refl _)
  · rw [candidates, candidatesFrom_append, candidatesFrom_map_mark, List.length_map,
      ← candidatesFrom_append]

end ArchosGpl.Wlan.Sme.Select
