import ArchosGpl.F2m.Recovery

/-!
# The presentation times

`copy_vop` gives a VOP the number of the frame modulo 30. Where that is 0, the header says how many
seconds have passed: those since the last key frame, rounded up. A decoder adds them up
(`presented`). `Plays` are the runs in which no picture is broken off.

**`vop_times_iff`**: the decoder shows every VOP at its number exactly if no second starts with a
key frame, and each but the first has one among the 30 frames before it.
-/

namespace ArchosGpl.F2m

open Lib

/-! ## The clock of a decoder -/

/-- When a decoder shows VOP `n`: the seconds of all VOPs up to it, and its own increment. -/
def presented (vops : List M4V_VOP) (n : ℕ) : ℕ :=
  30 * ((vops.map timeBase).take (n + 1)).sum + (vops.map M4V_VOP.time).getD n 0

/-- VOP `n` is an I picture. -/
def Key (vops : List M4V_VOP) (n : ℕ) : Prop := ∃ v, vops[n]? = some v ∧ v.picture_type = M4V_I_TYPE

/-- **Second `j` starts on time**: its first VOP is not a key frame, and there is one among the 30
before it, or it is the first second that ends. -/
def OnTime (vops : List M4V_VOP) (j : ℕ) : Prop :=
  ¬ Key vops (30 * j) ∧ (j = 1 ∨ ∃ k, 30 * (j - 1) ≤ k ∧ k < 30 * j ∧ Key vops k)

/-- The VOPs carry the number of the frame modulo 30, and the seconds are as the start of each
second requires. -/
structure Marked (vops : List M4V_VOP) : Prop where
  time : ∀ n v, vops[n]? = some v → v.time = n % 30
  within : ∀ n v, vops[n]? = some v → n % 30 ≠ 0 ∨ n = 0 → timeBase v = 0
  first : ∀ j v, 0 < j → vops[30 * j]? = some v → (timeBase v = 1 ↔ OnTime vops j)

variable {vops : List M4V_VOP} {n : ℕ} {v : M4V_VOP}

theorem sum_take_succ (h : vops[n]? = some v) : ((vops.map timeBase).take (n + 1)).sum =
    ((vops.map timeBase).take n).sum + timeBase v := by
  rw [List.take_add_one, List.getElem?_map, h, List.sum_append]
  rfl

theorem presented_eq (hm : Marked vops) (h : vops[n]? = some v) :
    presented vops n = 30 * (((vops.map timeBase).take n).sum + timeBase v) + n % 30 := by
  rw [presented, sum_take_succ h, List.getD_eq_getElem?_getD, List.getElem?_map, h, Option.map_some,
    Option.getD_some, hm.time n v h]

/-- **A decoder shows every VOP at its number exactly if every second starts on time.** -/
theorem Marked.presented_iff (hm : Marked vops) : (∀ n < vops.length, presented vops n = n) ↔
    ∀ j, 0 < j → 30 * j < vops.length → OnTime vops j := by
  constructor
  · intro h j hj hlt
    have hv := List.getElem?_eq_getElem hlt
    have hprev : vops[30 * j - 1]? = some vops[30 * j - 1] := List.getElem?_eq_getElem (by omega)
    have hat := h (30 * j) hlt
    have hbefore := h (30 * j - 1) (by omega)
    rw [presented_eq hm hv] at hat
    rw [presented_eq hm hprev, ← sum_take_succ hprev, Nat.sub_add_cancel (by omega)] at hbefore
    exact (hm.first j _ hj hv).mp (by omega)
  · intro h n
    induction n with
    | zero =>
      intro hlt
      have hv := List.getElem?_eq_getElem hlt
      rw [presented_eq hm hv, hm.within 0 _ hv (.inr rfl)]
      rfl
    | succ n ih =>
      intro hlt
      have hv := List.getElem?_eq_getElem hlt
      have hprev : vops[n]? = some vops[n] := List.getElem?_eq_getElem (by omega)
      have hbefore := ih (by omega)
      rw [presented_eq hm hprev, ← sum_take_succ hprev] at hbefore
      rw [presented_eq hm hv]
      by_cases hn : (n + 1) % 30 = 0
      · obtain ⟨j, hj⟩ := Nat.dvd_of_mod_eq_zero hn
        rw [(hm.first j _ (by omega) (by rw [← hj]; exact hv)).mpr (h j (by omega) (by omega))]
        omega
      · rw [hm.within _ _ hv (.inl hn)]
        omega

/-! ## Runs -/

/-- The bytes hold the header of the VOP, behind the headers of the first I picture where they are
due. -/
def Shows (out : List (BitVec 8)) (vop : M4V_VOP) : Prop :=
  ∃ pre rest, bytesBits out = pre ++ vopStartBits vop VOL_TIME_BITS ++ rest ∧
    (pre = [] ∨ ∃ vol, pre = (m4v_encode_m4v_header (init_bw PACKETBUFFER_SIZE) vol).bits)

/-- **A run in which no picture is broken off**: each call has no output, or it converts a picture.
The outputs, each with the VOP that it shows. -/
inductive Plays (T : EncTables) : CONVCTX → List (List (BitVec 8) × M4V_VOP) → Prop
  | create : Plays T f2m_create []
  | refused {c c' : CONVCTX} {l : List (List (BitVec 8) × M4V_VOP)} {f : Frame} {ret : ℤ}
      (h : Plays T c l) (hcall : f2m_process T c f = some (ret, [], c')) : Plays T c' l
  | converted {c c' : CONVCTX} {l : List (List (BitVec 8) × M4V_VOP)} {f : Frame} {ret : ℤ}
      {out : List (BitVec 8)} {pic : PICTURE} {p : BR} (h : Plays T c l)
      (hcall : f2m_process T c f = some (ret, out, c')) (hmoves : c'.frame = c.frame + 1)
      (hpic : decode_picture_header (init_br f.src f.src_size) = some (some pic, p)) :
      Plays T c' (l ++ [(out, copy_vop pic (enterPicture c pic))])

variable {T : EncTables} {c c' : CONVCTX} {f : Frame} {ret : ℤ} {out : List (BitVec 8)}
  {pic : PICTURE} {p : BR}

theorem start_icounter (c : CONVCTX) (f : Frame) (o : Option PICTURE) :
    (start c f o).icounter = c.icounter := by
  unfold start
  split
  · cases o <;> rfl
  · rfl

theorem enterPicture_icounter (c : CONVCTX) (pic : PICTURE) : (enterPicture c pic).icounter =
    if pic.picture_type = FLV_I_TYPE then 0 else c.icounter := by
  unfold enterPicture
  split <;> rfl

theorem copy_vop_congr (hframe : c'.frame = c.frame) (hcounter : c'.icounter = c.icounter) :
    copy_vop pic (enterPicture c' pic) = copy_vop pic (enterPicture c pic) := by
  unfold copy_vop
  rw [enterPicture_frame, enterPicture_frame, enterPicture_icounter, enterPicture_icounter, hframe,
    hcounter]

theorem refused_counters (hT : T.Fits) (hcall : f2m_process T c f = some (ret, [], c')) :
    c'.frame = c.frame ∧ c'.icounter = c.icounter := by
  generalize hout : ([] : List (BitVec 8)) = out at hcall
  cases f2m_process_cases hcall with
  | idle => exact ⟨rfl, rfl⟩
  | rejected => exact ⟨start_frame c f _, start_icounter c f _⟩
  | failed hs ho hr hm => exact absurd hout.symm (failed_pos hT ho hm).1
  | converted hs ho hr hm => exact absurd hout.symm (failed_pos hT ho hm).2

theorem converted_counters (hT : T.Fits) (hcall : f2m_process T c f = some (ret, out, c'))
    (hmoves : c'.frame = c.frame + 1)
    (hpic : decode_picture_header (init_br f.src f.src_size) = some (some pic, p)) :
    Shows out (copy_vop pic (enterPicture c pic)) ∧
      c'.icounter = (if pic.picture_type = FLV_I_TYPE then 0 else c.icounter) + 1 := by
  have hstart (o : Option PICTURE) : (initPlanes (start c f o)).frame = c.frame := start_frame c f o
  cases f2m_process_cases hcall with
  | idle => omega
  | rejected =>
    rw [hstart] at hmoves
    omega
  | @failed pic' _ _ _ d _ _ ho _ hm =>
    have hstays : (setPlanes (enterPicture (initPlanes (start c f (some pic'))) pic') d).frame =
        c.frame := (enterPicture_frame _ _).trans (hstart _)
    omega
  | @converted pic' _ _ _ d w _ ho _ hm =>
    obtain ⟨heq, -⟩ := Prod.mk.inj (Option.some.inj (hpic.symm.trans ho))
    cases heq
    have hcounter : (initPlanes (start c f (some pic))).icounter = c.icounter :=
      start_icounter c f _
    constructor
    · obtain ⟨hn, hb⟩ := pictureStart_bits (decode_picture_header_qscale _ _ _ ho pic rfl)
        (initPlanes (start c f (some pic)))
      have hext : Extends (pictureStart _ pic) w := write_mbs_extends hT _ _ _ _ hn _ _ _ hm
      obtain ⟨hw, L, hL⟩ := hext
      obtain ⟨hs, halign, L', hL'⟩ := m4v_stuffing_normal hw
      rw [copy_vop_congr (hstart _) hcounter] at hb
      refine ⟨headerBits (initPlanes (start c f (some pic))) pic,
        vopEndBits (copy_vop pic (enterPicture c pic)) ++ (L ++ L'), ?_, ?_⟩
      · rw [flash_bw_buf hs halign, hL', hL, hb]
        simp only [List.append_assoc]
      · unfold headerBits
        split
        · exact .inr ⟨_, rfl⟩
        · exact .inl rfl
    · show (enterPicture (initPlanes (start c f (some pic))) pic).icounter + 1 = _
      rw [enterPicture_icounter, hcounter]

/-! ## The counters -/

/-- The counters of the context: `icounter` is the number of VOPs since the last key frame. -/
structure Counted (c : CONVCTX) (vops : List M4V_VOP) : Prop where
  frame : c.frame = vops.length
  counted : vops = [] ∨ 0 < c.icounter
  since : c.icounter = vops.length ∨ c.icounter < vops.length ∧ Key vops (vops.length - c.icounter)
  before : ∀ k, Key vops k → k + c.icounter ≤ vops.length

theorem key_append {l : List M4V_VOP} {k : ℕ} (hk : k < vops.length) :
    Key (vops ++ l) k ↔ Key vops k := by
  rw [Key, List.getElem?_append_left hk, Key]

theorem onTime_append {l : List M4V_VOP} {j : ℕ} (hj : 30 * j < vops.length) :
    OnTime (vops ++ l) j ↔ OnTime vops j := by
  have hkey : ∀ k, k ≤ 30 * j → (Key (vops ++ l) k ↔ Key vops k) := fun k hk =>
    key_append (by omega)
  rw [OnTime, OnTime, hkey _ (Nat.le_refl _)]
  refine and_congr_right fun _ => or_congr_right (exists_congr fun k => ?_)
  exact and_congr_right fun _ => and_congr_right fun hk => hkey k (Nat.le_of_lt hk)

theorem key_concat (vops : List M4V_VOP) (pic : PICTURE) (c : CONVCTX) :
    Key (vops ++ [copy_vop pic c]) vops.length ↔ pic.picture_type = FLV_I_TYPE := by
  rw [Key, List.getElem?_concat_length]
  constructor
  · rintro ⟨v, hv, htype⟩
    cases hv
    by_contra hne
    rw [copy_vop, if_neg hne] at htype
    cases htype
  · exact fun h => ⟨_, rfl, if_pos h⟩

theorem Marked.snoc (hm : Marked vops) (hc : Counted c vops) (pic : PICTURE) :
    Marked (vops ++ [copy_vop pic (enterPicture c pic)]) := by
  have htime : (copy_vop pic (enterPicture c pic)).time = vops.length % 30 := by
    rw [← hc.frame, ← enterPicture_frame c pic]
    rfl
  have hcount : (copy_vop pic (enterPicture c pic)).icount =
      ((if pic.picture_type = FLV_I_TYPE then 0 else c.icounter) + 29) / 30 := by
    rw [← enterPicture_icounter]
    rfl
  have hlast (n : ℕ) (v : M4V_VOP)
      (h : (vops ++ [copy_vop pic (enterPicture c pic)])[n]? = some v) :
      n < vops.length ∧ vops[n]? = some v ∨
        n = vops.length ∧ v = copy_vop pic (enterPicture c pic) := by
    by_cases hn : n < vops.length
    · exact .inl ⟨hn, by rwa [List.getElem?_append_left hn] at h⟩
    · rw [List.getElem?_append_right (Nat.le_of_not_lt hn), List.getElem?_singleton] at h
      split at h
      · exact .inr ⟨by omega, (Option.some.inj h).symm⟩
      · cases h
  constructor
  case time =>
    intro n v h
    rcases hlast n v h with ⟨-, h⟩ | ⟨rfl, rfl⟩
    · exact hm.time n v h
    · exact htime
  case within =>
    intro n v h hn
    rcases hlast n v h with ⟨-, h⟩ | ⟨rfl, rfl⟩
    · exact hm.within n v h hn
    · rw [timeBase, htime]
      split
      · rfl
      · have hsince := hc.since
        rw [hcount]
        split <;> omega
  case first =>
    intro j v hj h
    rcases hlast _ v h with ⟨hn, h⟩ | ⟨hn, rfl⟩
    · rw [onTime_append hn]
      exact hm.first j v hj h
    · rw [timeBase, htime, if_neg (by omega), hcount, OnTime, hn, key_concat]
      have hcounted : 0 < c.icounter := hc.counted.resolve_left fun h => by
        rw [h, List.length_nil] at hn
        omega
      by_cases hpic : pic.picture_type = FLV_I_TYPE
      · rw [if_pos hpic]
        exact iff_of_false (by decide) fun h => h.1 hpic
      · rw [if_neg hpic, and_iff_right hpic]
        constructor
        · intro hone
          rcases hc.since with hall | ⟨hlt, hkey⟩
          · exact .inl (by omega)
          · exact .inr ⟨vops.length - c.icounter, by omega, by omega,
              (key_append (by omega)).mpr hkey⟩
        · intro hrecent
          have hle : c.icounter ≤ 30 := by
            rcases hrecent with rfl | ⟨k, hk, hlt, hkey⟩
            · have := hc.since
              omega
            · have := hc.before k ((key_append hlt).mp hkey)
              omega
          omega

theorem Counted.snoc (hc : Counted c vops) (hframe : c'.frame = c.frame + 1)
    (hcounter : c'.icounter = (if pic.picture_type = FLV_I_TYPE then 0 else c.icounter) + 1) :
    Counted c' (vops ++ [copy_vop pic (enterPicture c pic)]) := by
  have hlen : (vops ++ [copy_vop pic (enterPicture c pic)]).length = vops.length + 1 := by
    rw [List.length_append, List.length_singleton]
  have hkey := key_concat vops pic (enterPicture c pic)
  constructor
  case frame => rw [hframe, hc.frame, hlen]
  case counted => exact .inr (by omega)
  case since =>
    rw [hcounter, hlen]
    by_cases hpic : pic.picture_type = FLV_I_TYPE
    · rw [if_pos hpic]
      by_cases hnil : vops.length = 0
      · exact .inl (by omega)
      · exact .inr ⟨by omega, hkey.mpr hpic⟩
    · rw [if_neg hpic]
      refine hc.since.imp (congrArg (· + 1)) fun ⟨hlt, hlast⟩ => ⟨Nat.succ_lt_succ hlt, ?_⟩
      have hpos : 0 < c.icounter := hc.counted.resolve_left fun h => by
        rw [h] at hlt
        exact Nat.not_lt_zero _ hlt
      rw [Nat.add_sub_add_right]
      exact (key_append (by omega)).mpr hlast
  case before =>
    intro k hk
    rw [hcounter, hlen]
    obtain ⟨v, hv, -⟩ := id hk
    have hlt := (List.getElem?_eq_some_iff.mp hv).1
    rw [hlen] at hlt
    rcases Nat.lt_or_eq_of_le (Nat.le_of_lt_succ hlt) with hk' | rfl
    · have := hc.before k ((key_append hk').mp hk)
      split <;> omega
    · rw [if_pos (hkey.mp hk)]

/-- **The presentation times.** In a run in which no picture is broken off, every output shows its
VOP, and a decoder shows each at its number exactly if every second starts on time. -/
theorem vop_times_iff (hT : T.Fits) {l : List (List (BitVec 8) × M4V_VOP)} (h : Plays T c l) :
    (∀ x ∈ l, Shows x.1 x.2) ∧
      ((∀ n < l.length, presented (l.map Prod.snd) n = n) ↔
        ∀ j, 0 < j → 30 * j < l.length → OnTime (l.map Prod.snd) j) := by
  have hrun : Counted c (l.map Prod.snd) ∧ Marked (l.map Prod.snd) ∧ ∀ x ∈ l, Shows x.1 x.2 := by
    induction h with
    | create =>
      refine ⟨⟨rfl, .inl rfl, .inl rfl, ?_⟩, ⟨?_, ?_, ?_⟩, List.forall_mem_nil _⟩
      · rintro k ⟨v, hv, -⟩
        cases hv
      · intro n v hv
        cases hv
      · intro n v hv
        cases hv
      · intro j v _ hv
        cases hv
    | refused _ hcall ih =>
      obtain ⟨hframe, hcounter⟩ := refused_counters hT hcall
      obtain ⟨hc, hm⟩ := ih
      refine ⟨⟨hframe.trans hc.frame, ?_, ?_, ?_⟩, hm⟩
      all_goals rw [hcounter]
      exacts [hc.counted, hc.since, hc.before]
    | converted _ hcall hmoves hpic ih =>
      obtain ⟨hshows, hcounter⟩ := converted_counters hT hcall hmoves hpic
      obtain ⟨hc, hm, hall⟩ := ih
      rw [List.map_append]
      exact ⟨hc.snoc hmoves hcounter, hm.snoc hc _,
        List.forall_mem_append.mpr ⟨hall, List.forall_mem_singleton.mpr hshows⟩⟩
  obtain ⟨-, hm, hshows⟩ := hrun
  have hiff := hm.presented_iff
  rw [List.length_map] at hiff
  exact ⟨hshows, hiff⟩

/-- One key frame. -/
theorem vop_times_valid : ∃ c out vop, Plays EncTables.sample c [(out, vop)] ∧ Shows out vop ∧
    presented [vop] 0 = 0 := by
  obtain ⟨out, ret, c, hcall, hmoves⟩ := validFrame_converted (T := EncTables.sample)
  have hplays : Plays EncTables.sample c [(out, _)] :=
    Plays.create.converted hcall hmoves validFrame_header
  obtain ⟨hshows, htimes⟩ := vop_times_iff EncTables.sample_fits hplays
  refine ⟨c, out, _, hplays, hshows _ List.mem_cons_self, ?_⟩
  refine htimes.mpr (fun j hj hlt => ?_) 0 Nat.one_pos
  rw [List.length_singleton] at hlt
  omega

end ArchosGpl.F2m
