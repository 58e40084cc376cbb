import ArchosGpl.Wlan.Sme.SelectPass

/-!
# The order of selection

`SelectsRight` says what an attempt over a table should do: the calls return the sites that match,
each once, in non-increasing order of RSSI, and none only after all of them; with an overlap of
sites with push button they return none at all; and the RSN evaluation of a site gets whole elements
of that site.

The running bound starts at `minRssi`, and a site must exceed it: one that the radio reports at −127
or below is never selected. A site with push button counts for the overlap before its RSN elements,
its rates and its channel switch are looked at, and in the PIN mode too. The RSN elements that are
stored may be fewer than those of a frame.

**`selects_right_iff`**: the attempt is right if and only if it is none of these (`Selectable`).
-/

namespace ArchosGpl.Wlan.Sme.Select

open Lib
open Wlan.ScanResultTable (SiteEntry TSiteEntry Dot11Rsn TMacAddr)

/-- More than one site with push button matches where push button is configured. -/
def PbOverlap (c : Settings) (t : List Site) : Prop :=
  c.siteMgrWscCurrMode = .pbcMethod ∧ 2 ≤ (candidates c t).length

def Selected.site : Selected → Option ℕ
  | .tCandidate i => some i
  | _ => none

/-- What an attempt over a table should do, whatever it finds outside. -/
structure SelectsRight (c : Settings) (t : List Site) : Prop where
  fromTable : ∀ o n, (call c o ⟨false, t⟩ n).selected ≠ .primarySite
  inOrder : ¬PbOverlap c t → ∀ o,
    Selection.InOrder (candidates c t) fun n => (call c o ⟨false, t⟩ n).selected.site
  overlap : PbOverlap c t → ∀ o n, (call c o ⟨false, t⟩ n).selected = .null
  evals : ∀ o n, ∀ e ∈ (call c o ⟨false, t⟩ n).evals,
    ∃ site, t[e.1]? = some site ∧ ∃ k, e.2 = (site.pRsnIe.take k).flatMap Dot11Rsn.bytes

/-- The tables over which an attempt is right. -/
structure Selectable (c : Settings) (t : List Site) : Prop where
  whole : Whole c t
  -- a candidate is not kept from selection, neither by another site nor by the bound
  order : PbOverlap c t ∨ candidates c t = [] ∨
    (¬Overlaps c t ∧ (∀ x ∈ candidates c t, minRssi < x.2) ∧ Selection.Steady int8 (candidates c t))

variable {c : Settings} {o : Outside} {t t' : List Site} {f : ℕ → LocalArray} {i n : ℕ}

/-! ## The calls of an attempt -/

theorem call_eq {s : TSme} (h : attempt c o s n = ⟨false, t'⟩) :
    call c o s n = smeSelect c (o.uCurRsnData n) (o.memory n) ⟨false, t'⟩ := by
  rw [call, h]

theorem attempt_succ {s : TSme} (h : attempt c o s n = ⟨false, t'⟩) :
    attempt c o s (n + 1) = (smeSelect c (o.uCurRsnData n) (o.memory n) ⟨false, t'⟩).sme := by
  rw [attempt, h]

theorem attempt_marked (hwhole : Whole c t) (n : ℕ) :
    ∃ t', attempt c o ⟨false, t⟩ n = ⟨false, t'⟩ ∧ List.Forall₂ Marked t t' := by
  induction n with
  | zero => exact ⟨t, rfl, marked_refl t⟩
  | succ n ih =>
    obtain ⟨t', ht', hm⟩ := ih
    rw [attempt_succ ht']
    by_cases hstops : Overlaps c t'
    · obtain ⟨t'', hcall, hm', -⟩ :=
        call_stops (f := o.uCurRsnData n) hstops (o.memory n)
      exact ⟨t'', by rw [hcall], marked_trans hm hm'⟩
    · obtain ⟨t'', hcall, hm', -⟩ :=
        call_free (f := o.uCurRsnData n) hstops (hwhole.marked hm) (o.memory n)
      exact ⟨t'', by rw [hcall], marked_trans hm hm'⟩

theorem Overlaps.of_marked (hm : List.Forall₂ Marked t t') (h : Overlaps c t') : Overlaps c t :=
  ⟨h.1, h.2.trans (countP_marked hm)⟩

theorem attempt_free (hfree : ¬Overlaps c t) (hwhole : Whole c t) (n : ℕ) :
    ∃ t', attempt c o ⟨false, t⟩ n = ⟨false, t'⟩ ∧ List.Forall₂ Marked t t' ∧
      candidates c t' = Selection.left int8 minRssi (candidates c t) n := by
  induction n with
  | zero => exact ⟨t, rfl, marked_refl t, rfl⟩
  | succ n ih =>
    obtain ⟨t', ht', hm, hleft⟩ := ih
    obtain ⟨t'', hcall, hm', hcand⟩ := call_free (f := o.uCurRsnData n)
      (fun h => hfree (h.of_marked hm)) (hwhole.marked hm) (o.memory n)
    refine ⟨t'', by rw [attempt_succ ht', hcall], marked_trans hm hm', ?_⟩
    rw [hcand, found, hleft]
    rfl

theorem selected_eq (hfree : ¬Overlaps c t) (hwhole : Whole c t) (n : ℕ) :
    (call c o ⟨false, t⟩ n).selected =
      (Selection.answer int8 minRssi (candidates c t) n).elim .null .tCandidate := by
  obtain ⟨t', ht', hm, hleft⟩ := attempt_free (o := o) hfree hwhole n
  obtain ⟨t'', hcall, -⟩ := call_free (f := o.uCurRsnData n)
    (fun h => hfree (h.of_marked hm)) (hwhole.marked hm) (o.memory n)
  rw [call_eq ht', hcall, found, hleft]
  rfl

theorem site_elim (a : Option ℕ) : (a.elim Selected.null .tCandidate).site = a := by
  cases a <;> rfl

theorem answer_eq (hfree : ¬Overlaps c t) (hwhole : Whole c t) :
    (fun n => (call c o ⟨false, t⟩ n).selected.site) =
      Selection.answer int8 minRssi (candidates c t) := by
  funext n
  rw [selected_eq hfree hwhole, site_elim]

theorem Overlaps.of_pbOverlap (h : PbOverlap c t) : Overlaps c t :=
  ⟨by rw [h.1]; exact nofun, h.2.trans (length_candidatesFrom_le h.1)⟩

theorem null_of_none (hwhole : Whole c t) (h : PbOverlap c t ∨ candidates c t = []) (n : ℕ) :
    (call c o ⟨false, t⟩ n).selected = .null := by
  have hone (t' : List Site) (hw : Whole c t') (ht' : PbOverlap c t' ∨ candidates c t' = []) (n : ℕ) :
      ∃ t'' ev b, smeSelect c (o.uCurRsnData n) (o.memory n) ⟨false, t'⟩ =
        ⟨⟨false, t''⟩, .null, b, ev⟩ ∧ List.Forall₂ Marked t' t'' ∧
          candidates c t'' = candidates c t' := by
    by_cases hstops : Overlaps c t'
    · obtain ⟨t'', hcall, hm, hcand⟩ := call_stops (f := o.uCurRsnData n) hstops (o.memory n)
      exact ⟨t'', _, _, hcall, hm, hcand⟩
    · have hnil := ht'.resolve_left fun h => hstops (.of_pbOverlap h)
      obtain ⟨t'', hcall, hm, hcand⟩ := call_free (f := o.uCurRsnData n) hstops hw (o.memory n)
      rw [hnil, List.filter_nil] at hcand
      rw [found, hnil] at hcall
      exact ⟨t'', _, _, hcall, hm, hcand.trans hnil.symm⟩
  have hrun (n : ℕ) : ∃ t', attempt c o ⟨false, t⟩ n = ⟨false, t'⟩ ∧ List.Forall₂ Marked t t' ∧
      candidates c t' = candidates c t := by
    induction n with
    | zero => exact ⟨t, rfl, marked_refl t, rfl⟩
    | succ n ih =>
      obtain ⟨t', ht', hm, hcand⟩ := ih
      obtain ⟨t'', ev, b, hcall, hm', hcand'⟩ :=
        hone t' (hwhole.marked hm) (by rwa [PbOverlap, hcand]) n
      exact ⟨t'', by rw [attempt_succ ht', hcall], marked_trans hm hm', hcand'.trans hcand⟩
  obtain ⟨t', ht', hm, hcand⟩ := hrun n
  obtain ⟨t'', ev, b, hcall, -⟩ := hone t' (hwhole.marked hm) (by rwa [PbOverlap, hcand]) n
  rw [call_eq ht', hcall]

/-! ## The evaluations -/

theorem mem_evalsFrom {l : List Site} {e : ℕ × List UInt8} :
    e ∈ evalsFrom c f i l ↔ ∃ k site, l[k]? = some site ∧ e.1 = i + k ∧
      site.bConsideredForSelect = false ∧ seen c site ∧ c.siteMgrWscCurrMode = .off ∧
      rsnGiven site (f (i + k)) = some e.2 := by
  induction l generalizing i with
  | nil => exact iff_of_false List.not_mem_nil fun ⟨_, _, h, _⟩ => nomatch h
  | cons site l ih =>
    have hhead : e ∈ evalOf c (f i) i site ↔ e.1 = i ∧ site.bConsideredForSelect = false ∧
        seen c site ∧ c.siteMgrWscCurrMode = .off ∧ rsnGiven site (f i) = some e.2 := by
      unfold evalOf
      split
      · next h =>
        simp only [Bool.and_eq_true, Bool.not_eq_true', decide_eq_true_eq] at h
        rw [Option.mem_toList, Option.map_eq_some_iff]
        exact ⟨fun ⟨ie, hie, he⟩ => he ▸ ⟨rfl, h.1.1, h.1.2, h.2, hie⟩,
          fun ⟨he, _, _, _, hie⟩ => ⟨e.2, hie, Prod.ext he.symm rfl⟩⟩
      · next h =>
        refine iff_of_false List.not_mem_nil fun ⟨_, hc, hseen, hoff, _⟩ => h ?_
        rw [hc, hseen, decide_eq_true hoff]
        rfl
    rw [evalsFrom, List.mem_append, hhead, ih]
    constructor
    · rintro (h | ⟨k, s, hs, he, h⟩)
      · exact ⟨0, site, rfl, h⟩
      · refine ⟨k + 1, s, hs, by omega, ?_⟩
        rwa [show i + (k + 1) = i + 1 + k by omega]
    · rintro ⟨k, s, hs, he, h⟩
      cases k with
      | zero =>
        rw [List.getElem?_cons_zero, Option.some.injEq] at hs
        subst hs
        exact .inl ⟨he, h⟩
      | succ k =>
        refine .inr ⟨k, s, hs, by omega, ?_⟩
        rwa [show i + 1 + k = i + (k + 1) by omega]

theorem getElem?_marked (hm : List.Forall₂ Marked t t') {k : ℕ} {site' : Site}
    (h : t'[k]? = some site') : ∃ site, t[k]? = some site ∧ Marked site site' := by
  induction hm generalizing k with
  | nil => exact nomatch h
  | cons ha _ ih =>
    cases k with
    | zero => exact ⟨_, rfl, Option.some.inj h ▸ ha⟩
    | succ k => exact ih h

theorem evals_whole (hwhole : Whole c t) (n : ℕ) {e : ℕ × List UInt8}
    (he : e ∈ (call c o ⟨false, t⟩ n).evals) :
    ∃ site, t[e.1]? = some site ∧ ∃ k, e.2 = (site.pRsnIe.take k).flatMap Dot11Rsn.bytes := by
  obtain ⟨t', ht', hm⟩ := attempt_marked (o := o) hwhole n
  rw [call_eq ht'] at he
  by_cases hstops : Overlaps c t'
  · obtain ⟨t'', hcall, -⟩ := call_stops (f := o.uCurRsnData n) hstops (o.memory n)
    rw [hcall] at he
    exact absurd he List.not_mem_nil
  · have hwhole' := hwhole.marked hm
    obtain ⟨t'', hcall, -⟩ := call_free (f := o.uCurRsnData n) hstops hwhole' (o.memory n)
    rw [hcall] at he
    obtain ⟨k, site', hsite', hk, hc, hseen, hoff, hgiven⟩ := mem_evalsFrom.mp he
    obtain ⟨site, hsite, hmark⟩ := getElem?_marked hm hsite'
    rw [Nat.zero_add] at hk
    refine ⟨site, hk ▸ hsite, ?_⟩
    rcases (hwhole' hoff site' (List.mem_of_getElem? hsite') hc hseen).given with ⟨j, hj⟩ | hnone
    · rw [hj, Option.some.injEq] at hgiven
      exact ⟨j, by rw [← hmark.pRsnIe, hgiven]⟩
    · rw [hnone] at hgiven
      exact nomatch hgiven

theorem whole_of_evals
    (h : ∀ o, ∀ e ∈ (call c o ⟨false, t⟩ 0).evals,
      ∃ site, t[e.1]? = some site ∧ ∃ k, e.2 = (site.pRsnIe.take k).flatMap Dot11Rsn.bytes) :
    Whole c t := by
  intro hoff site hsite hc hseen
  obtain ⟨k, hk⟩ := List.mem_iff_getElem?.mp hsite
  refine rsnWhole_of_given (b := .clean) fun ie hie => ?_
  obtain ⟨t', v', hloop, hevals⟩ :=
    selectLoop_evals (f := fun _ => .clean) (i := 0) (l := t) (v := .zero) hoff
  have hmem : (k, ie) ∈ (call c ⟨fun _ _ => .clean, fun _ => true⟩ ⟨false, t⟩ 0).evals := by
    have hcall : (call c ⟨fun _ _ => .clean, fun _ => true⟩ ⟨false, t⟩ 0).evals =
        evalsFrom c (fun _ => .clean) 0 t := by
      rw [call, attempt, smeSelect, if_neg Bool.false_ne_true]
      dsimp only
      rw [hloop]
      dsimp only
      rw [if_neg Bool.false_ne_true]
      split <;> exact hevals.trans (List.nil_append _)
    rw [hcall]
    exact mem_evalsFrom.mpr ⟨k, site, hk, (Nat.zero_add k).symm, hc, hseen, hoff, hie⟩
  obtain ⟨site', hsite', j, hj⟩ := h _ _ hmem
  rw [hk, Option.some.injEq] at hsite'
  exact ⟨j, hsite' ▸ hj⟩

/-! ## The condition -/

theorem int8_le {r : ℤ} (h : minRssi < r) : int8 r ≤ r := by
  have hint : int8 r = if r % 256 < 128 then r % 256 else r % 256 - 256 := rfl
  unfold minRssi at h
  rw [hint]
  split <;> omega

/-- **When the calls of an attempt select what they should.** -/
theorem selects_right_iff (c : Settings) (t : List Site) : SelectsRight c t ↔ Selectable c t := by
  constructor
  · intro h
    have hwhole : Whole c t := whole_of_evals fun o => h.evals o 0
    refine ⟨hwhole, ?_⟩
    by_cases hpb : PbOverlap c t
    · exact .inl hpb
    refine .inr ?_
    let o : Outside := ⟨fun _ _ => .clean, fun _ => true⟩
    have horder := h.inOrder hpb o
    by_cases hstops : Overlaps c t
    · -- the first call gives up, so that no site is left to be returned
      obtain ⟨t', hcall, -⟩ := call_stops (f := o.uCurRsnData 0) hstops (o.memory 0)
      have hnull : (call c o ⟨false, t⟩ 0).selected.site = none := by
        rw [call_eq rfl, hcall]
        rfl
      refine .inl (List.eq_nil_iff_forall_not_mem.mpr fun x hx => ?_)
      obtain ⟨m, hm, -⟩ := horder.complete 0 hnull x hx
      exact absurd hm (Nat.not_lt_zero m)
    · rw [answer_eq hstops hwhole] at horder
      exact .inr ⟨hstops, (Selection.inOrder_iff (fun r => int8_le) candidatesFrom_nodup).mp horder⟩
  · intro h
    refine ⟨fun o n => ?_, fun hpb o => ?_, fun hpb o n => ?_, fun o n e he => ?_⟩
    · by_cases hnone : PbOverlap c t ∨ candidates c t = []
      · rw [null_of_none h.whole hnone]
        exact nofun
      · rw [not_or] at hnone
        obtain ⟨hfree, -⟩ := (h.order.resolve_left hnone.1).resolve_left hnone.2
        rw [selected_eq hfree h.whole]
        cases Selection.answer int8 minRssi (candidates c t) n <;> exact nofun
    · rcases h.order.resolve_left hpb with hnil | ⟨hfree, hrssi⟩
      · have hnull (n : ℕ) : (call c o ⟨false, t⟩ n).selected.site = none := by
          rw [null_of_none h.whole (.inr hnil)]
          rfl
        rw [hnil]
        exact ⟨fun n i hn => (nomatch (hnull n).symm.trans hn),
          fun m n i hm => (nomatch (hnull m).symm.trans hm),
          fun m n x y _ hx => absurd hx List.not_mem_nil, fun n _ x hx => absurd hx List.not_mem_nil⟩
      · rw [answer_eq hfree h.whole]
        exact (Selection.inOrder_iff (fun r => int8_le) candidatesFrom_nodup).mpr hrssi
    · exact null_of_none h.whole (.inl hpb) n
    · exact evals_whole h.whole n he

/-! ## Attempts that go wrong -/

def openSite (rssi : ℤ) (wscSiteMode : TiwlnSimpleConfigMode) : Site where
  toSiteEntry :=
    { SiteEntry.zero with
      toTSiteEntry := { TSiteEntry.zero with ssid := ⟨[97], by decide⟩, rssi := rssi } }
  rsnIeLen_lt := Nat.two_pow_pos 8
  maxBasicRate := 2
  maxActiveRate := 13
  tHtCapabilities := []
  tHtInformation := []
  wscSiteMode := wscSiteMode
  bChannelSwitchAnnoncIeFound := false

/-- Any site will do, in a WSC mode. -/
def anySite (mode : TiwlnSimpleConfigMode) : Settings where
  tSsid := []
  eSsidType := .any
  tBssid := fun _ => 0xff
  eBssType := none
  siteMgrWscCurrMode := mode
  siteMgrRegstrySuppRateMask := 0xf
  siteMgrRegstryBasicRateMask := 0x3
  rsnEvalSite := fun _ _ => true

/-- A site with push button that is about to leave its channel. -/
def leavingSite : Site := { openSite (-40) .pbcMethod with bChannelSwitchAnnoncIeFound := true }

/-- Three RSN elements of 102 bytes each: 306 bytes, of which 8 bits are 50. -/
def longSite : Site where
  toSiteEntry :=
    { (openSite (-50) .off).toSiteEntry with
      pRsnIe := List.replicate 3 ⟨48, List.replicate 100 0, by decide⟩
      pRsnIe_length := rfl
      rsnIeLen := 50 }
  rsnIeLen_lt := by decide
  maxBasicRate := 2
  maxActiveRate := 13
  tHtCapabilities := []
  tHtInformation := []
  wscSiteMode := .off
  bChannelSwitchAnnoncIeFound := false

/-- Zeros in the local array, and memory. -/
def quiet : Outside := ⟨fun _ _ => .clean, fun _ => true⟩

theorem not_right_of_null {x : ℕ × ℤ} (hpb : ¬PbOverlap c t) (hx : x ∈ candidates c t)
    (hnull : (call c quiet ⟨false, t⟩ 0).selected = .null) : ¬SelectsRight c t := by
  intro h
  obtain ⟨m, hm, -⟩ := (h.inOrder hpb quiet).complete 0 (by rw [hnull]; rfl) x hx
  exact Nat.not_lt_zero m hm

theorem length_take_longSite (k : ℕ) :
    ((longSite.pRsnIe.take k).flatMap Dot11Rsn.bytes).length = min k 3 * 102 := by
  have hrep : longSite.pRsnIe = List.replicate 3 ⟨48, List.replicate 100 0, by decide⟩ := rfl
  rw [hrep, List.take_replicate, length_flatMap_bytes, ScanResultTable.rsnSize, List.map_replicate,
    List.sum_replicate]
  rfl

/-- The only site is at −127; a site with push button is kept from selection by one that announces a
channel switch; an evaluation gets the first 50 bytes of an element of 102. -/
theorem attempts_go_wrong :
    ¬SelectsRight (anySite .off) [openSite (-127) .off] ∧
      ¬SelectsRight (anySite .pbcMethod) [leavingSite, openSite (-50) .pbcMethod] ∧
        ¬SelectsRight (anySite .off) [longSite] := by
  refine ⟨?_, ?_, fun h => ?_⟩
  · exact not_right_of_null (x := (0, -127)) (fun h => nomatch h.1) (by decide) (by decide)
  · exact not_right_of_null (x := (1, -50)) (fun h => absurd h.2 (by decide)) (by decide) (by decide)
  · obtain ⟨site, hsite, k, hk⟩ := h.evals quiet 0 (0, longSite.pRsnIe.flatMap Dot11Rsn.bytes |>.take 50)
      (by decide)
    have hlen := congrArg List.length hk
    rw [← Option.some.inj hsite, length_take_longSite] at hlen
    have h50 : ((longSite.pRsnIe.flatMap Dot11Rsn.bytes).take 50).length = 50 := by decide
    dsimp only at hlen
    omega

end ArchosGpl.Wlan.Sme.Select
