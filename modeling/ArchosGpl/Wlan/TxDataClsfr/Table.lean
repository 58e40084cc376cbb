import ArchosGpl.Lib.Compact
import ArchosGpl.Lib.Machine
import ArchosGpl.Wlan.TxDataClsfr.Model

/-!
# The classifier table holds the accepted entries

`active` are the active entries, as keys and tags. `StepRight` says what a call has to do with them:

* a configuration leaves the first entry of each key (`Lib.firsts`) of those it is given;
* an insertion adds the entry if it is accepted, a removal takes it out, a new type empties the
  table;
* a packet gets the tag of the entry that matches its header, `0` if none does, and never a TID
  above 7.

Afterwards the keys are distinct and the table is not over its capacity (`Sound`).

* `classifier_right_iff`: every call of a run is right exactly if every call `Fits`.
-/

open Function (update update_of_ne update_self)

namespace ArchosGpl.Wlan.TxDataClsfr

open Lib

variable {p : TClsfrParams} {ty : EClsfrType} {e : TClsfrTableEntry}

/-! ## The union -/

@[simp] theorem key_copyKey (d d' : Dscp) (ty : EClsfrType) :
    (d.copyKey d' ty).key ty = d'.key ty := by
  cases ty with
  | dTag => rfl
  | dscp =>
    have hlt : d.ip.toNat / 2 ^ 8 * 2 ^ 8 + d'.codePoint < 2 ^ 32 := by
      have := d.ip.toNat_lt
      unfold Dscp.codePoint
      omega
    refine congrArg (·, 0) ?_
    change (UInt32.ofNat _).toNat % 2 ^ 8 = d'.codePoint
    rw [UInt32.toNat_ofNat_of_lt' hlt]
    unfold Dscp.codePoint
    omega
  | port =>
    have hlt : d.ip.toNat / 2 ^ 16 * 2 ^ 16 + d'.dstPortNum < 2 ^ 32 := by
      have := d.ip.toNat_lt
      unfold Dscp.dstPortNum
      omega
    refine congrArg (·, 0) ?_
    change (UInt32.ofNat _).toNat % 2 ^ 16 = d'.dstPortNum
    rw [UInt32.toNat_ofNat_of_lt' hlt]
    unfold Dscp.dstPortNum
    omega
  | ipPort => rfl

/-! ## The active entries -/

def view (ty : EClsfrType) (e : TClsfrTableEntry) : Key × UInt8 := (e.Dscp.key ty, e.DTag)

@[simp] theorem view_copy (e e' : TClsfrTableEntry) (ty : EClsfrType) :
    view ty (e.copy e' ty) = view ty e' :=
  Prod.ext (key_copyKey _ _ ty) rfl

/-- **The active entries.** -/
def active (p : TClsfrParams) : List (Key × UInt8) :=
  contents (fun i => view p.eClsfrType (p.ClsfrTable i)) p.uNumActiveEntries

/-- The keys are distinct, the table is not over its capacity, and the D-tag classifier has none. -/
structure Sound (p : TClsfrParams) : Prop where
  distinct : ((active p).map Prod.fst).Nodup
  capacity : p.uNumActiveEntries ≤ numOfClsfrTableEntries
  dTag : p.eClsfrType = .dTag → p.uNumActiveEntries = 0

/-- What a configuration has to leave: the first entry of each key. -/
def configured (c : TClsfrInitParams) : List (Key × UInt8) :=
  match EClsfrType.ofCode c.eClsfrType with
  | none | some .dTag => []
  | some ty => firsts Prod.fst (fun i => view ty (c.ClsfrTable i)) c.count

def Accepts (p : TClsfrParams) (e : TClsfrTableEntry) : Prop :=
  (active p).length < numOfClsfrTableEntries ∧ ¬ bad e p.eClsfrType ∧
    e.Dscp.key p.eClsfrType ∉ (active p).map Prod.fst

/-- What the TID of a packet has to be. -/
structure Classified (p : TClsfrParams) (pkt : Packet) (tid : UInt8) : Prop where
  bound : tid ≤ classifierDtagMax
  /-- The tag of the entry that matches. -/
  matched : p.eClsfrType ≠ .dTag → ∀ k tag, (k, tag) ∈ active p →
    headerKey pkt p.eClsfrType = some k → tid = tag
  /-- `0` if none does. -/
  unmatched : p.eClsfrType ≠ .dTag →
    (∀ k tag, (k, tag) ∈ active p → headerKey pkt p.eClsfrType ≠ some k) → tid = 0

/-- What a call has to do with the active entries. -/
def ContentsRight (p : TClsfrParams) : Op → Prop
  | .config c => active (config p c) = configured c
  | .insert none => active (insertClsfrEntry p none).2 = active p
  | .insert (some e) => Accepts p e ∧
        active (insertClsfrEntry p (some e)).2 = active p ++ [view p.eClsfrType e] ∨
      ¬ Accepts p e ∧ active (insertClsfrEntry p (some e)).2 = active p
  | .remove none => active (removeClsfrEntry p none).2 = active p
  | .remove (some e) =>
    active (removeClsfrEntry p (some e)).2 = (active p).erase (view p.eClsfrType e)
  | .setType ty =>
    active (setClsfrType p ty).2 = if (EClsfrType.ofCode ty).isSome then [] else active p
  | .classify pkt uPacketDtag => Classified p pkt (classifyTxPacket p pkt uPacketDtag).2

/-- **What a call has to do.** -/
def StepRight (p : TClsfrParams) (op : Op) : Prop :=
  ContentsRight p op ∧ ∀ q, step p op = some q → Sound q

/-- **The calls that are done right.** A configuration: the old table holds no new key at a position
that is not yet filled. A packet: the D-tag is not 8, and no entry that matches has a tag above 7.
-/
def Fits (p : TClsfrParams) : Op → Prop
  | .config c =>
    match EClsfrType.ofCode c.eClsfrType with
    | none | some .dTag => True
    | some ty =>
      Clean Prod.fst (fun i => view ty (c.ClsfrTable i)) (fun i => view ty (p.ClsfrTable i)) c.count
  | .classify pkt uPacketDtag =>
    (p.eClsfrType = .dTag → uPacketDtag ≠ maxNumOf8021dTags) ∧
      ∀ a ∈ active p, headerKey pkt p.eClsfrType = some a.1 → a.2 ≤ classifierDtagMax
  | _ => True

/-! ## Configurations -/

theorem configLoop_succ (ty : EClsfrType) (x T : ℕ → TClsfrTableEntry) (n : ℕ) :
    configLoop ty x T (n + 1) =
      if ∃ j < n, ((configLoop ty x T n).1 j).Dscp.key ty = (x n).Dscp.key ty then
        configLoop ty x T n
      else (update (configLoop ty x T n).1 (configLoop ty x T n).2
          (((configLoop ty x T n).1 (configLoop ty x T n).2).copy (x n) ty),
        (configLoop ty x T n).2 + 1) := rfl

theorem view_configLoop (ty : EClsfrType) (x T : ℕ → TClsfrTableEntry) (n : ℕ) :
    compact Prod.fst (fun i => view ty (x i)) (fun i => view ty (T i)) n =
      ((fun i => view ty ((configLoop ty x T n).1 i)), (configLoop ty x T n).2) := by
  induction n with
  | zero => rfl
  | succ n ih =>
    rw [compact, ih, configLoop_succ]
    by_cases h : ∃ j < n, ((configLoop ty x T n).1 j).Dscp.key ty = (x n).Dscp.key ty
    · rw [if_pos h]
      exact if_pos h
    · rw [if_neg h]
      refine (if_neg h).trans (Prod.ext (funext fun i => ?_) rfl)
      dsimp only
      by_cases hi : i = (configLoop ty x T n).2
      · subst hi
        rw [update_self, update_self, view_copy]
      · rw [update_of_ne hi, update_of_ne hi]

theorem configLoop_count_le (ty : EClsfrType) (x T : ℕ → TClsfrTableEntry) (n : ℕ) :
    (configLoop ty x T n).2 ≤ n := by
  induction n with
  | zero => exact Nat.le_refl 0
  | succ n ih =>
    rw [configLoop_succ]
    split <;> omega

theorem config_eq (p : TClsfrParams) {c : TClsfrInitParams}
    (hty : EClsfrType.ofCode c.eClsfrType = some ty) (hne : ty ≠ .dTag) :
    config p c =
      { eClsfrType := ty
        uNumActiveEntries := (configLoop ty c.ClsfrTable p.ClsfrTable c.count).2
        ClsfrTable := (configLoop ty c.ClsfrTable p.ClsfrTable c.count).1 } := by
  unfold config
  rw [hty]
  cases ty with
  | dTag => exact absurd rfl hne
  | dscp => rfl
  | port => rfl
  | ipPort => rfl

/-- **A configuration is right exactly over a table that is clean for it.** -/
theorem config_right_iff (p : TClsfrParams) (c : TClsfrInitParams) :
    active (config p c) = configured c ↔ Fits p (.config c) := by
  match hty : EClsfrType.ofCode c.eClsfrType with
  | none | some .dTag => simp [config, configured, Fits, hty, active, contents]
  | some .dscp | some .port | some .ipPort =>
    rw [active, config_eq p hty (by decide)]
    simp only [configured, Fits, hty]
    rw [← compact_eq_firsts_iff, view_configLoop]

theorem config_capacity (p : TClsfrParams) (c : TClsfrInitParams) :
    (config p c).uNumActiveEntries ≤ numOfClsfrTableEntries := by
  match hty : EClsfrType.ofCode c.eClsfrType with
  | none | some .dTag => simp [config, hty]
  | some .dscp | some .port | some .ipPort =>
    rw [config_eq p hty (by decide)]
    exact (configLoop_count_le _ _ _ _).trans (Nat.min_le_right _ _)

theorem configured_nodup (c : TClsfrInitParams) : ((configured c).map Prod.fst).Nodup := by
  unfold configured
  split
  · exact List.nodup_nil
  · exact List.nodup_nil
  · exact firsts_nodup _

theorem config_sound {p : TClsfrParams} {c : TClsfrInitParams}
    (h : active (config p c) = configured c) : Sound (config p c) where
  distinct := h ▸ configured_nodup c
  capacity := config_capacity p c
  dTag := by
    intro hdtag
    match hty : EClsfrType.ofCode c.eClsfrType with
    | none | some .dTag => simp [config, hty]
    | some .dscp | some .port | some .ipPort =>
      rw [config_eq p hty (by decide)] at hdtag
      exact nomatch hdtag

/-! ## Insertions -/

@[simp] theorem active_length (p : TClsfrParams) : (active p).length = p.uNumActiveEntries :=
  contents_length _ _

theorem mem_keys {k : Key} : k ∈ (active p).map Prod.fst ↔
    ∃ i < p.uNumActiveEntries, (p.ClsfrTable i).Dscp.key p.eClsfrType = k := by
  rw [List.mem_map]
  constructor
  · rintro ⟨a, ha, rfl⟩
    obtain ⟨i, hi, rfl⟩ := mem_contents.mp ha
    exact ⟨i, hi, rfl⟩
  · rintro ⟨i, hi, rfl⟩
    exact ⟨_, mem_contents.mpr ⟨i, hi, rfl⟩, rfl⟩

theorem insertClsfrEntry_of_accepts (h : Accepts p e) :
    insertClsfrEntry p (some e) =
      (.ok,
        { p with
          ClsfrTable := update p.ClsfrTable p.uNumActiveEntries
            ((p.ClsfrTable p.uNumActiveEntries).copy e p.eClsfrType)
          uNumActiveEntries := p.uNumActiveEntries + 1 }) := by
  obtain ⟨hroom, hgood, hnew⟩ := h
  have hty : p.eClsfrType ≠ .dTag := fun hty => hgood (hty ▸ trivial)
  rw [active_length] at hroom
  rw [insertClsfrEntry, if_neg hroom.ne, if_neg hty, if_neg hgood, if_neg (mt mem_keys.mpr hnew)]

theorem insertClsfrEntry_of_not_accepts (hs : Sound p) (h : ¬ Accepts p e) :
    insertClsfrEntry p (some e) = (.paramValueNotValid, p) := by
  rw [insertClsfrEntry]
  split_ifs with hfull hty hbad hdup
  · rfl
  · rfl
  · rfl
  · rfl
  · refine absurd ⟨?_, hbad, mt mem_keys.mp hdup⟩ h
    rw [active_length]
    exact Nat.lt_of_le_of_ne hs.capacity hfull

theorem active_insert (h : Accepts p e) :
    active (insertClsfrEntry p (some e)).2 = active p ++ [view p.eClsfrType e] := by
  rw [insertClsfrEntry_of_accepts h]
  refine Eq.trans ?_ (contents_update _ _ _)
  refine congrArg (contents · _) (funext fun i => ?_)
  dsimp only
  by_cases hi : i = p.uNumActiveEntries
  · subst hi
    rw [update_self, update_self, view_copy]
  · rw [update_of_ne hi, update_of_ne hi]

theorem insert_right (hs : Sound p) (o : Option TClsfrTableEntry) : StepRight p (.insert o) := by
  cases o with
  | none =>
    refine ⟨rfl, fun q hq => ?_⟩
    cases hq
    exact hs
  | some e =>
    by_cases h : Accepts p e
    · refine ⟨Or.inl ⟨h, active_insert h⟩, fun q hq => ?_⟩
      cases hq
      constructor
      · rw [active_insert h, List.map_append, List.map_singleton]
        exact hs.distinct.append (List.nodup_singleton _) (List.disjoint_singleton.mpr h.2.2)
      · rw [← active_length, active_insert h, List.length_append]
        exact h.1
      · rw [insertClsfrEntry_of_accepts h]
        exact fun hty => absurd (show bad e p.eClsfrType from hty ▸ trivial) h.2.1
    · have heq := insertClsfrEntry_of_not_accepts hs h
      refine ⟨Or.inr ⟨h, by rw [heq]⟩, fun q hq => ?_⟩
      cases hq
      rw [heq]
      exact hs

/-! ## Removals -/

theorem view_shift (ty : EClsfrType) (n j : ℕ) (T : ℕ → TClsfrTableEntry) (i : ℕ) :
    view ty (shift ty n j T i) = view ty (if i < j ∨ j + n ≤ i then T i else T (i + 1)) := by
  induction n generalizing j T with
  | zero => rw [shift, if_pos (by omega)]
  | succ n ih =>
    rw [shift, ih]
    rcases Nat.lt_trichotomy i j with hlt | rfl | hgt
    · rw [if_pos (by omega), if_pos (by omega), update_of_ne hlt.ne]
    · rw [if_pos (by omega), if_neg (by omega), update_self, view_copy]
    · rw [update_of_ne hgt.ne', update_of_ne (by omega)]
      by_cases h : j + (n + 1) ≤ i
      · rw [if_pos (by omega), if_pos (by omega)]
      · rw [if_neg (by omega), if_neg (by omega)]

theorem active_remove (hs : Sound p) (e : TClsfrTableEntry) :
    active (removeClsfrEntry p (some e)).2 = (active p).erase (view p.eClsfrType e) := by
  have hempty (h : p.uNumActiveEntries = 0) : active p = [] := by
    rw [active, h]
    rfl
  rw [removeClsfrEntry]
  split_ifs with h0 hty
  · rw [hempty h0, List.erase_nil]
  · rw [hempty (hs.dTag hty), List.erase_nil]
  · have hmatch (i : ℕ) : ((p.ClsfrTable i).Dscp.key p.eClsfrType = e.Dscp.key p.eClsfrType ∧
        (p.ClsfrTable i).DTag = e.DTag) ↔
        view p.eClsfrType (p.ClsfrTable i) = view p.eClsfrType e := Prod.mk.injEq .. ▸ Iff.rfl
    split
    next hfind =>
      rw [List.erase_of_not_mem]
      intro hmem
      obtain ⟨i, hi, hview⟩ := mem_contents.mp hmem
      have := List.find?_eq_none.mp hfind i (List.mem_range.mpr hi)
      exact this (decide_eq_true ((hmatch i).mpr hview))
    next i hfind =>
      obtain ⟨hi, hmem, hfirst⟩ := List.find?_range_eq_some.mp hfind
      have hin := List.mem_range.mp hmem
      have hidx : (active p).idxOf (view p.eClsfrType e) = i := by
        refine contents_idxOf (U := fun i => view p.eClsfrType (p.ClsfrTable i)) hin
          ((hmatch i).mp (of_decide_eq_true hi)) fun j hj hview => ?_
        simpa [(hmatch j).mpr hview] using hfirst j hj
      obtain ⟨n, hn⟩ : ∃ n, p.uNumActiveEntries = n + 1 := Nat.exists_eq_succ_of_ne_zero h0
      rw [List.erase_eq_eraseIdx_of_idxOf hidx, active, active, hn]
      refine contents_eraseIdx (hn ▸ hin) fun j hj => ?_
      have hjn : j < n := hj
      dsimp only
      rw [view_shift]
      by_cases hji : j < i
      · rw [if_pos (Or.inl hji), if_pos hji]
      · rw [if_neg (by omega), if_neg hji]

theorem remove_right (hs : Sound p) (o : Option TClsfrTableEntry) : StepRight p (.remove o) := by
  cases o with
  | none =>
    refine ⟨rfl, fun q hq => ?_⟩
    cases hq
    exact hs
  | some e =>
    have herase := active_remove hs e
    refine ⟨herase, fun q hq => ?_⟩
    cases hq
    constructor
    · rw [herase]
      exact hs.distinct.sublist (List.Sublist.map _ List.erase_sublist)
    · rw [← active_length, herase]
      exact List.erase_sublist.length_le.trans ((active_length p).trans_le hs.capacity)
    · rw [removeClsfrEntry]
      split_ifs with h0 hty
      · exact fun _ => h0
      · exact fun _ => hs.dTag hty
      · split
        · exact hs.dTag
        · exact fun h => absurd h hty

theorem setType_right (hs : Sound p) (ty : ℕ) : StepRight p (.setType ty) := by
  have hempty (t : EClsfrType) :
      active { p with eClsfrType := t, uNumActiveEntries := 0 } = [] := rfl
  constructor
  · change active (setClsfrType p ty).2 = _
    unfold setClsfrType
    cases EClsfrType.ofCode ty with
    | none => rfl
    | some t => exact hempty t
  · intro q hq
    cases hq
    unfold setClsfrType
    cases EClsfrType.ofCode ty with
    | none => exact hs
    | some t => exact ⟨List.nodup_nil, Nat.zero_le _, fun _ => rfl⟩

/-! ## Packets -/

theorem classify_of_key (hty : p.eClsfrType ≠ .dTag) (pkt : Packet) (d : UInt8) {k : Key}
    (hk : headerKey pkt p.eClsfrType = some k) :
    (∃ tag, (k, tag) ∈ active p ∧ (classifyTxPacket p pkt d).2 = tag) ∨
      k ∉ (active p).map Prod.fst ∧ (classifyTxPacket p pkt d).2 = 0 := by
  unfold classifyTxPacket
  rw [if_neg hty, hk]
  dsimp only
  split
  next hfind =>
    refine Or.inr ⟨fun hmem => ?_, rfl⟩
    obtain ⟨i, hi, hkey⟩ := mem_keys.mp hmem
    exact List.find?_eq_none.mp hfind i (List.mem_range.mpr hi) (decide_eq_true hkey)
  next i hfind =>
    obtain ⟨hi, hmem, -⟩ := List.find?_range_eq_some.mp hfind
    refine Or.inl ⟨_, mem_contents.mpr ⟨i, List.mem_range.mp hmem, ?_⟩, rfl⟩
    exact Prod.ext (of_decide_eq_true hi) rfl

theorem Sound.tag_unique (hs : Sound p) {k : Key} {tag tag' : UInt8} (h : (k, tag) ∈ active p)
    (h' : (k, tag') ∈ active p) : tag = tag' :=
  congrArg Prod.snd (List.inj_on_of_nodup_map hs.distinct h h' rfl)

/-- **A packet is classified rightly exactly if its tag is not above 7.** -/
theorem classify_right_iff (hs : Sound p) (pkt : Packet) (d : UInt8) :
    Classified p pkt (classifyTxPacket p pkt d).2 ↔ Fits p (.classify pkt d) := by
  by_cases hty : p.eClsfrType = .dTag
  · have htid : (classifyTxPacket p pkt d).2 ≤ classifierDtagMax ↔ d ≠ maxNumOf8021dTags := by
      unfold classifyTxPacket
      rw [if_pos hty]
      split <;> grind
    constructor
    · intro h
      refine ⟨fun _ => htid.mp h.bound, fun a _ hk => ?_⟩
      rw [hty] at hk
      exact nomatch hk
    · intro h
      exact ⟨htid.mpr (h.1 hty), (absurd hty ·), (absurd hty ·)⟩
  · cases hk : headerKey pkt p.eClsfrType with
    | none =>
      have h0 : (classifyTxPacket p pkt d).2 = 0 := by
        unfold classifyTxPacket
        rw [if_neg hty, hk]
      constructor
      · exact fun _ => ⟨(absurd · hty), fun a _ h => nomatch hk.symm.trans h⟩
      · intro _
        exact ⟨h0 ▸ by decide, fun _ k tag _ h => (nomatch hk.symm.trans h), fun _ _ => h0⟩
    | some k =>
      rcases classify_of_key hty pkt d hk with ⟨tag, hmem, htid⟩ | ⟨hnone, htid⟩
      · constructor
        · intro h
          refine ⟨(absurd · hty), fun a ha heq => ?_⟩
          cases hk.symm.trans heq
          rw [hs.tag_unique ha hmem, ← htid]
          exact h.bound
        · intro h
          refine ⟨htid ▸ h.2 _ hmem hk, fun _ k' tag' hmem' heq => ?_, fun _ hno => ?_⟩
          · cases hk.symm.trans heq
            rw [htid, hs.tag_unique hmem hmem']
          · exact absurd hk (hno k tag hmem)
      · constructor
        · intro _
          refine ⟨(absurd · hty), fun a ha heq => ?_⟩
          cases hk.symm.trans heq
          exact absurd (List.mem_map.mpr ⟨a, ha, rfl⟩) hnone
        · intro _
          refine ⟨htid ▸ by decide, fun _ k' tag' hmem' heq => ?_, fun _ _ => htid⟩
          cases hk.symm.trans heq
          exact absurd (List.mem_map.mpr ⟨_, hmem', rfl⟩) hnone

/-! ## Runs -/

theorem step_right_iff (hs : Sound p) (op : Op) : StepRight p op ↔ Fits p op := by
  cases op with
  | config c =>
    refine Iff.trans ⟨fun h => h.1, fun h => ⟨h, fun q hq => ?_⟩⟩ (config_right_iff p c)
    cases hq
    exact config_sound h
  | insert o => exact ⟨fun _ => trivial, fun _ => insert_right hs o⟩
  | remove o => exact ⟨fun _ => trivial, fun _ => remove_right hs o⟩
  | setType ty => exact ⟨fun _ => trivial, fun _ => setType_right hs ty⟩
  | classify pkt d =>
    refine Iff.trans ⟨fun h => h.1, fun h => ⟨h, fun q hq => ?_⟩⟩ (classify_right_iff hs pkt d)
    cases hq
    exact hs

/-- **Every call of a run is right exactly if every call `Fits`.** -/
theorem classifier_right_iff {p : TClsfrParams} (hs : Sound p) (ops : List Op) :
    Along step StepRight p ops ↔ Along step Fits p ops :=
  along_congr_of_invariant (fun _ op hs => step_right_iff hs op)
    (fun _ op q hs hfits hq => ((step_right_iff hs op).mpr hfits).2 q hq) hs

theorem sound_zero : Sound zero := ⟨List.nodup_nil, Nat.zero_le _, fun _ => rfl⟩

section Samples

def codePointEntry (c : UInt32) (tag : UInt8) : TClsfrTableEntry := ⟨⟨c, 0⟩, tag⟩

def dscpConfig (n : UInt32) (es : List TClsfrTableEntry) : Op :=
  .config
    { eClsfrType := 1
      uNumActiveEntries := n
      ClsfrTable := fun i => es.getD i (codePointEntry 0 0) }

def codePointPacket (c : UInt8) : Packet where
  ethHead := fun i => if i = 12 then 0x08 else 0
  ipHeader := fun i => if i = 0 then 0x45 else if i = 1 then c <<< 2 else 0
  ipLen := 20
  aBuf2 := none

/-- A configuration with a duplicate, a packet, an insertion and a removal. -/
theorem classifier_right_duplicate :
    Along step StepRight zero
      [dscpConfig 3 [codePointEntry 10 1, codePointEntry 10 2, codePointEntry 46 6],
        .classify (codePointPacket 46) 0, .insert (some (codePointEntry 20 3)),
        .remove (some (codePointEntry 10 1))] := by
  refine (classifier_right_iff sound_zero _).mpr ⟨?_, fun q hq => ⟨?_, fun _ _ => ?_⟩⟩
  · change Clean Prod.fst _ _ 3
    unfold Clean
    decide
  · cases hq
    exact ⟨fun h => (nomatch h), by decide⟩
  · exact ⟨trivial, fun _ _ => ⟨trivial, fun _ _ => trivial⟩⟩

/-- Behind a duplicate, the code point 0 is taken for the empty position 1. The D-tag 8 is not
refused. -/
theorem zero_key_lost_and_dtag_passed :
    ¬ Along step StepRight zero
        [dscpConfig 3 [codePointEntry 10 1, codePointEntry 10 2, codePointEntry 0 3]] ∧
      ¬ Along step StepRight zero [.classify (codePointPacket 46) 8] := by
  constructor
  · rintro ⟨⟨h, -⟩, -⟩
    exact absurd (show active (config zero _) = configured _ from h) (by decide)
  · rintro ⟨⟨h, -⟩, -⟩
    exact absurd (show Classified zero _ 8 from h).bound (by decide)

end Samples

end ArchosGpl.Wlan.TxDataClsfr
