import ArchosGpl.F2m.DcPlanes
import Mathlib.Tactic.Linarith

/-!
# The DC scales and the DC differences

The decoder gives DC levels from 1 to 254. Rescaled to a scale of at least 8 they are no larger, the
planes hold values up to `8 * 254`, and a difference fits the 512 entries of the code tables.

* **`dc_in_range_iff`**: for a macroblock that is converted, the scales are not 0 and the
  differences are in the table exactly if the picture's quantiser is not 0 or the macroblock is not
  intra.
-/

namespace ArchosGpl.F2m

open Lib

/-! ## What the decoder gives -/

def BLOCK.DcRange (b : BLOCK) : Prop := 0 ≤ b.block 0 ∧ b.block 0 ≤ 254

/-- The DC levels of a macroblock, where it is intra. -/
def MICROBLOCK.DcRange (mb : MICROBLOCK) : Prop := mb.intra = true → ∀ n, (mb.block n).DcRange

theorem zigZag_pos {i : ℕ} (hi : 0 < i) (h : i < 64) : zigZag i ≠ 0 := by
  have hall : ∀ i < 64, 0 < i → zigZag i ≠ 0 := by decide
  exact hall i h hi

theorem decode_AC_dc {b : BLOCK} (hb : b.DcRange) (escape_type : ℕ) {i : ℕ} (hi : 0 < i) :
    Ensures (decode_AC b escape_type i) fun r => r.2.DcRange := by
  unfold decode_AC
  generalize 65 - i = fuel
  induction fuel generalizing b i with
  | zero => exact Ensures.pure hb
  | succ fuel ih =>
    refine Ensures.bind' fun r => ?_
    match r with
    | none => exact Ensures.pure hb
    | some (last, run, level) =>
      refine Ensures.ite (fun _ => Ensures.pure hb) fun hlt => ?_
      have hset : (b.set (zigZag (i + run)) level).DcRange := by
        rw [BLOCK.DcRange, BLOCK.set_block,
          Function.update_of_ne (zigZag_pos (by omega) (by omega)).symm]
        exact hb
      exact Ensures.ite (fun _ => Ensures.pure hset) fun _ => ih hset (by omega)

theorem decode_DC_range : Ensures decode_DC fun level => level ≤ 254 := by
  refine Ensures.bind (get_bits_ensures (n := 8) (by decide)) fun level hl => ?_
  refine Ensures.ite (fun _ => Ensures.pure (by decide)) fun _ =>
    Ensures.ite (fun _ => Ensures.pure (by decide)) fun hne => Ensures.pure ?_
  omega

theorem decode_intra_block_dc {b : BLOCK} (hb : b.DcRange) (escape_type : ℕ) (coded : Bool) :
    Ensures (decode_intra_block b escape_type coded) fun r => r.2.DcRange := by
  refine Ensures.bind decode_DC_range fun level hl =>
    Ensures.ite (fun _ => Ensures.pure hb) fun h0 => ?_
  have hset : BLOCK.DcRange { b.set 0 level with last_index := 0 } := by
    show 0 ≤ Function.update b.block 0 level 0 ∧ Function.update b.block 0 level 0 ≤ 254
    exact ⟨not_lt.mp h0, hl⟩
  exact Ensures.ite (fun _ => Ensures.pure hset) fun _ => decode_AC_dc hset _ Nat.one_pos

variable {mb : MICROBLOCK}

theorem decode_blocks_keeps {I : MICROBLOCK → Prop} {decode : BLOCK → Bool → Reader (ℤ × BLOCK)}
    (hd : ∀ mb i coded, I mb → Ensures (decode (mb.block i) coded) fun r => I (mb.setBlock i r.2))
    (h : I mb) (is : List ℕ) (cbp : ℕ) :
    Ensures (decode_blocks decode is cbp mb) fun r => I r.2 := by
  induction is generalizing mb cbp with
  | nil => exact Ensures.pure h
  | cons i is ih =>
    exact Ensures.bind (hd _ _ _ h) fun r hr =>
      Ensures.ite (fun _ => Ensures.pure hr) fun _ => ih hr _

theorem decode_intra_mb_range (mb : MICROBLOCK) (h : ∀ n, (mb.block n).DcRange)
    (escape_type cbpc dquant : ℕ) :
    Ensures (decode_intra_mb_internal mb escape_type cbpc dquant) fun r =>
      ∀ n, (r.2.block n).DcRange := by
  refine Ensures.bind' fun _ => Ensures.ite (fun _ => Ensures.pure h) fun _ => ?_
  have hdq : Ensures (decode_mb_dquant dquant mb) fun m => ∀ n, (m.block n).DcRange :=
    Ensures.ite (fun _ => Ensures.bind' fun _ => Ensures.pure h) fun _ => Ensures.pure h
  refine Ensures.bind hdq fun m hm => decode_blocks_keeps (I := fun m => ∀ n, (m.block n).DcRange)
    (fun m i coded hm p r q hr n => ?_) hm _ _
  rw [MICROBLOCK.setBlock_block]
  rcases eq_or_ne n i with rfl | hne
  · rw [Function.update_self]
    exact decode_intra_block_dc (hm n) _ _ _ _ _ hr
  · rw [Function.update_of_ne hne]
    exact hm n

theorem decode_inter_mb_intra (mb : MICROBLOCK) (escape_type cbpc dquant : ℕ) :
    Ensures (decode_inter_mb_internal mb escape_type cbpc dquant) fun r =>
      r.2.intra = mb.intra := by
  have hmv (i : ℕ) {m : MICROBLOCK} (hm : m.intra = mb.intra) :
      Ensures (decode_mv i m) fun m => m.intra = mb.intra :=
    Ensures.bind' fun _ => Ensures.bind' fun _ => Ensures.pure hm
  refine Ensures.bind' fun _ => Ensures.ite (fun _ => Ensures.pure rfl) fun _ => ?_
  have hdq : Ensures (decode_mb_dquant dquant mb) fun m => m.intra = mb.intra :=
    Ensures.ite (fun _ => Ensures.bind' fun _ => Ensures.pure rfl) fun _ => Ensures.pure rfl
  refine Ensures.bind hdq fun m hm => Ensures.bind (P := fun m => m.intra = mb.intra) ?_ fun m hm =>
    decode_blocks_keeps (I := fun m => m.intra = mb.intra) (fun _ _ _ hm _ _ _ _ => hm) hm _ _
  refine Ensures.ite (fun _ => Ensures.bind (hmv 0 hm) fun _ h => Ensures.pure h) fun _ => ?_
  exact Ensures.bind (hmv 0 hm) fun _ h => Ensures.bind (hmv 1 h) fun _ h =>
    Ensures.bind (hmv 2 h) fun _ h => Ensures.bind (hmv 3 h) fun _ h => Ensures.pure h

/-- **The DC levels that the decoder gives**, also where an error in the macroblock is dropped. -/
theorem read_mb_range (flvpic : PICTURE) (vop : M4V_VOP) :
    Ensures (read_mb flvpic vop) fun r => r.2.DcRange := by
  have hzero (n : ℕ) : (MICROBLOCK.zero.block n).DcRange := ⟨le_rfl, by show (0 : ℤ) ≤ 254; decide⟩
  refine Ensures.ite (fun _ => ?_) fun _ => ?_
  · exact Ensures.bind' fun _ => Ensures.ite (fun _ => Ensures.pure fun _ => hzero) fun _ =>
      Ensures.bind (decode_intra_mb_range { MICROBLOCK.zero with intra := true } hzero _ _ _)
        fun _ hm => Ensures.pure fun _ => hm
  · refine Ensures.bind' fun _ => Ensures.ite (fun _ => Ensures.pure fun _ => hzero) fun _ =>
      Ensures.ite (fun _ => Ensures.pure fun _ => hzero) fun _ =>
        Ensures.ite (fun _ => ?_) fun _ => ?_
    · exact Ensures.bind
        (decode_intra_mb_range { MICROBLOCK.zero with skip := false, intra := true } hzero _ _ _)
        fun _ hm => Ensures.pure fun _ => hm
    · exact Ensures.bind (decode_inter_mb_intra _ _ _ _) fun _ hm =>
        Ensures.pure fun h => absurd (hm.symm.trans h) Bool.false_ne_true

/-! ## Scales, predictions and planes -/

/-- The values of the planes: a level of at most 254 at a scale of 8, rescaled. -/
def Ranged (d : M4V_DCPRED) : Prop := ∀ m k, 0 ≤ d.plane m k ∧ d.plane m k ≤ 2032

variable {d : M4V_DCPRED} {scale level : ℤ}

theorem get_pred_range (hd : Ranged d) (n : ℕ) (hs : 8 ≤ scale) :
    0 ≤ get_pred d n scale ∧ get_pred d n scale ≤ 254 := by
  have key {v : ℤ} (hv : 0 ≤ v ∧ v ≤ 2032) :
      0 ≤ (v + scale / 2).tdiv scale ∧ (v + scale / 2).tdiv scale ≤ 254 := by
    have h0 : 0 ≤ v + scale / 2 := by omega
    rw [Int.tdiv_eq_ediv_of_nonneg h0]
    refine ⟨Int.ediv_nonneg h0 (by omega), ?_⟩
    have hlt : (v + scale / 2) / scale < 255 := Int.ediv_lt_of_lt_mul (by omega) (by omega)
    omega
  unfold get_pred
  dsimp only
  split
  · exact key (hd _ _)
  · exact key (hd _ _)

theorem Ranged.write (hd : Ranged d) (n : ℕ) (h0 : 0 ≤ level * scale) (h1 : level * scale ≤ 2032) :
    Ranged (set_dc_to_dc_cur d n level scale) := by
  intro m k
  unfold set_dc_to_dc_cur
  dsimp only
  rw [if_neg (not_lt.mpr h0), if_neg (by omega)]
  rcases eq_or_ne m (planeOf n) with rfl | hm
  · rw [Function.update_self]
    rcases eq_or_ne k (d.dc_cur n) with rfl | hk
    · rw [Function.update_self]
      exact ⟨h0, h1⟩
    · rw [Function.update_of_ne hk]
      exact hd _ _
  · rw [Function.update_of_ne hm]
    exact hd _ _

/-- The DC levels of a few blocks: none is negative, and rescaled none is above a plane's range. -/
def LevelsFit (d : M4V_DCPRED) (vs : DcValues) : Prop :=
  ∀ v ∈ vs, 0 ≤ v.2 ∧ v.2 ≤ 254 ∧ v.2 * get_scale d v.1 ≤ 2032

theorem encRun_range {vs : DcValues} (hs : ∀ n, 8 ≤ get_scale d n) (hd : Ranged d)
    (hvs : LevelsFit d vs) :
    (∀ v ∈ (encRun d vs).1, -254 ≤ v.2 ∧ v.2 ≤ 254) ∧ Ranged (encRun d vs).2 := by
  induction vs generalizing d with
  | nil => exact ⟨nofun, hd⟩
  | cons v vs ih =>
    obtain ⟨n, level⟩ := v
    obtain ⟨⟨h0, h254, h2032⟩, hvs⟩ := List.forall_mem_cons.mp hvs
    have hpred := get_pred_range hd n (hs n)
    have hpos : 0 ≤ level * get_scale d n := Int.mul_nonneg h0 (by have := hs n; omega)
    obtain ⟨hdiffs, hplanes⟩ :=
      ih (d := (dcpred_for_enc d n level).2) hs (hd.write n hpos h2032) hvs
    refine ⟨fun v hv => ?_, hplanes⟩
    rcases List.mem_cons.mp hv with rfl | hv
    · show -254 ≤ level - get_pred d n (get_scale d n) ∧ level - get_pred d n (get_scale d n) ≤ 254
      omega
    · exact hdiffs v hv

/-! ## A macroblock -/

/-- The scales of `copy_microblock` and of `get_pred`. -/
def scaleOf (q : ℕ) (n : ℕ) : ℤ := get_scale (dcpred_set_qscale M4V_DCPRED.zero q) n

theorem get_scale_set_qscale (d : M4V_DCPRED) (q n : ℕ) :
    get_scale (dcpred_set_qscale d q) n = scaleOf q n := rfl

theorem dcScale_eq {q : ℕ} (hq : q < 32) (n : ℕ) : dcScale q n = scaleOf q n := by
  have h0 : ¬ (q : ℤ) < 0 := by omega
  have h31 : ¬ (31 : ℤ) < q := by omega
  simp only [dcScale, scaleOf, get_scale, dcpred_set_qscale, h0, h31, if_false]
  rfl

theorem scaleOf_ge {q : ℕ} (hq : q < 32) (h0 : q ≠ 0) (n : ℕ) : 8 ≤ scaleOf q n := by
  have hall : ∀ q : ℕ, q < 32 → q ≠ 0 →
      8 ≤ (dcpred_set_qscale M4V_DCPRED.zero q).y_dc_scale ∧
      8 ≤ (dcpred_set_qscale M4V_DCPRED.zero q).c_dc_scale := by decide
  unfold scaleOf get_scale
  split
  · exact (hall q hq h0).1
  · exact (hall q hq h0).2

theorem scaleOf_zero (n : ℕ) : scaleOf 0 n = 0 := by
  unfold scaleOf get_scale
  split <;> rfl

theorem rescaled_fit {q : ℕ} (hq : q < 32) (h0 : q ≠ 0) (hi : mb.intra = true) (hmb : mb.DcRange)
    (d : M4V_DCPRED) (is : List ℕ) : LevelsFit (dcpred_set_qscale d q)
      (is.map fun n => (n, ((mb.block n).block 0 * 8).tdiv (dcScale q n))) := by
  intro v hv
  obtain ⟨n, -, rfl⟩ := List.mem_map.mp hv
  obtain ⟨hl, hu⟩ := hmb hi n
  have hs := scaleOf_ge hq h0 n
  have hnn : 0 ≤ (mb.block n).block 0 * 8 := by omega
  simp only [get_scale_set_qscale, dcScale_eq hq, Int.tdiv_eq_ediv_of_nonneg hnn]
  have hmul := Int.ediv_mul_le ((mb.block n).block 0 * 8) (show scaleOf q n ≠ 0 by omega)
  have hlt : (mb.block n).block 0 * 8 / scaleOf q n < 255 :=
    Int.ediv_lt_of_lt_mul (by omega) (by omega)
  exact ⟨Int.ediv_nonneg hnn (by omega), by omega, by omega⟩

theorem codeMb_range {q : ℕ} (hq : q < 32) (h0 : q ≠ 0) (hmb : mb.DcRange) (hd : Ranged d)
    (p : ℕ × ℕ) :
    (mb.intra = true → ∀ n < 6, -254 ≤ ((codeMb q d mb p).1.block n).block 0 ∧
      ((codeMb q d mb p).1.block n).block 0 ≤ 254) ∧ Ranged (codeMb q d mb p).2 := by
  cases hi : mb.intra with
  | false =>
    rw [codeMb_of_inter (q : ℤ) d hi p]
    exact ⟨nofun, hd⟩
  | true =>
    obtain ⟨hdcs, hplanes, -⟩ := encode_dc_blocks (show sixBlocks.Nodup by decide)
      (copy_microblock { mb with qscale := q }) (dcpred_set_pos (dcpred_set_qscale d q) p.1 p.2)
    rw [← codeMb_of_intra (q : ℤ) d hi p,
      copy_microblock_dcs { mb with qscale := (q : ℤ) } hi] at hdcs hplanes
    obtain ⟨hdiffs, hranged⟩ := encRun_range
      (d := dcpred_set_pos (dcpred_set_qscale d q) p.1 p.2) (fun n => scaleOf_ge hq h0 n) hd
      (rescaled_fit hq h0 hi hmb d sixBlocks)
    rw [hplanes]
    refine ⟨fun _ n hn => hdiffs (n, _) ?_, hranged⟩
    have hmem : ∀ n < 6, n ∈ sixBlocks := by decide
    exact hdcs ▸ List.mem_map.mpr ⟨n, hmem n hn, rfl⟩

/-! ## A picture -/

variable {T : EncTables} {c : CONVCTX} {f : Frame} {pic : PICTURE} {xy : ℕ × ℕ}

/-- In the call for the frame `f` from the context `c`, the macroblock `mb` of the picture is
converted at `xy` with the planes `d`. -/
def ConvertsMb (T : EncTables) (c : CONVCTX) (f : Frame) (pic : PICTURE) (d : M4V_DCPRED)
    (mb : MICROBLOCK) (xy : ℕ × ℕ) : Prop :=
  let c₁ := initPlanes (start c f (some pic))
  let vop := copy_vop pic (enterPicture c₁ pic)
  ¬ Rejected c₁ (some pic) ∧
  ∃ ps p₀ p q r w, decode_picture_header (init_br f.src f.src_size) = some (some pic, p₀) ∧
    ps ++ [xy] <+: mbPositions ((pic.width + 15) / 16) ((pic.height + 15) / 16) ∧
    write_mbs T pic vop ps (enterPicture c₁ pic).vol.dcpred (pictureStart c₁ pic) p₀ =
      some ((0, d, w), p) ∧
    read_mb pic vop p = some ((r, mb), q) ∧ 0 ≤ r

/-- No division by zero, and differences that index the 512 entries of the tables. -/
def DcInRange (q : ℕ) (d : M4V_DCPRED) (mb : MICROBLOCK) (xy : ℕ × ℕ) : Prop :=
  mb.intra = true → ∀ n < 6, dcScale q n ≠ 0 ∧ get_scale (dcpred_set_qscale d q) n ≠ 0 ∧
    0 ≤ ((codeMb q d mb xy).1.block n).block 0 + 256 ∧
    ((codeMb q d mb xy).1.block n).block 0 + 256 < 512

/-- **The scales are not 0 and the differences are in the tables** exactly if the quantiser of the
picture is not 0, or the macroblock is not intra. -/
theorem dc_in_range_iff (h : ConvertsMb T c f pic d mb xy) :
    DcInRange pic.qscale d mb xy ↔ pic.qscale ≠ 0 ∨ mb.intra = false := by
  obtain ⟨-, ps, p₀, p, q, r, w, ho, -, hm, hread, -⟩ := h
  have hq : pic.qscale < 32 := decode_picture_header_qscale _ _ _ ho pic rfl
  have hmb : mb.DcRange := read_mb_range _ _ _ _ _ hread
  constructor
  · intro hin
    cases hi : mb.intra with
    | false => exact .inr rfl
    | true =>
      refine .inl fun h0 => (hin hi 0 (by decide)).1 ?_
      rw [dcScale_eq hq, h0, scaleOf_zero]
  · intro hcond hi n hn
    have h0 : pic.qscale ≠ 0 := hcond.resolve_right (by rw [hi]; decide)
    have hd : Ranged d := by
      refine write_mbs_keeps (I := Ranged) (read_mb_range _ _) (fun d mb p _ hmb hd => ?_) ?_
        _ _ _ hm
      · exact (codeMb_range hq h0 hmb hd p).2
      · rw [enterPicture_planes]
        exact fun _ _ => by show (0 : ℤ) ≤ 1024 ∧ (1024 : ℤ) ≤ 2032; decide
    have hs := scaleOf_ge hq h0 n
    have hdiff := (codeMb_range hq h0 hmb hd xy).1 hi n hn
    rw [dcScale_eq hq, get_scale_set_qscale]
    omega

theorem dc_in_range_iff_valid :
    ∃ d mb, ConvertsMb EncTables.sample f2m_create validFrame validPicture d mb (0, 0) ∧
      (DcInRange validPicture.qscale d mb (0, 0) ↔ validPicture.qscale ≠ 0 ∨ mb.intra = false) := by
  obtain ⟨mb, q, hmb⟩ := validFrame_mb
  have h : ConvertsMb EncTables.sample f2m_create validFrame validPicture
      (enterPicture (initPlanes (start f2m_create validFrame (some validPicture)))
        validPicture).vol.dcpred mb (0, 0) :=
    ⟨fun h => (h _ rfl).elim (· rfl) (· rfl), [], validBody, validBody, q, 0, _, validFrame_header,
      List.prefix_rfl, rfl, hmb, le_rfl⟩
  exact ⟨_, mb, h, dc_in_range_iff h⟩

/-- `validFrame` with the quantiser 0. -/
def zeroFrame : Frame :=
  { validFrame with src := [0, 0, 0x80, 0, 0x08, 0x08, 0, 0x26, 0x02, 0x02, 0x02, 0x02, 0x02, 0x02,
      0, 0, 0, 0] }

/-- **The scale of the quantiser 0 is 0**, and the picture is converted. -/
theorem dc_scale_zero :
    ∃ d mb, ConvertsMb EncTables.sample f2m_create zeroFrame ⟨16, 16, FLV_I_TYPE, 0, 0, 0⟩ d mb
      (0, 0) ∧ ¬ DcInRange 0 d mb (0, 0) := by
  have hmb : ∃ mb q, decode_I_mb { MICROBLOCK.zero with intra := true } 0
      ⟨zeroFrame.src, 14, 7, 2, by decide⟩ = some ((0, mb), q) ∧ mb.intra = true :=
    ⟨_, _, rfl, rfl⟩
  obtain ⟨mb, q, hmb, hi⟩ := hmb
  exact ⟨_, mb, ⟨fun h => (h _ rfl).elim (· rfl) (· rfl), [], _, _, q, 0, _, rfl, List.prefix_rfl,
    rfl, hmb, le_rfl⟩, fun hin => (hin hi 0 (by decide)).1 rfl⟩

end ArchosGpl.F2m
