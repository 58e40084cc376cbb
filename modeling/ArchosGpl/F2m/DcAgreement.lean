import ArchosGpl.F2m.EncodedBits

/-!
# The DC values an MPEG-4 decoder reconstructs

The encoder writes differences, and the decoder adds them to predictions of its own. Both predict
from planes they have filled themselves, so they agree as long as they use the same scales.

* `encRun`, `decRun`: the DC values of a few blocks. **`decRun_encRun`**: the decoder gets the
  values back, and its planes are those of the encoder.
* **`levels_reconstructed`**: it reconstructs the rescaled levels wherever the signalled quantiser
  has the scales of the picture's quantiser.
-/

namespace ArchosGpl.F2m

open Lib

/-! ## The blocks of a macroblock -/

abbrev DcValues := List (ℕ × ℤ)

/-- `dcpred_for_enc`, block after block. -/
def encRun (d : M4V_DCPRED) : DcValues → DcValues × M4V_DCPRED
  | [] => ([], d)
  | (n, level) :: vs =>
    let r := dcpred_for_enc d n level
    let rs := encRun r.2 vs
    ((n, r.1) :: rs.1, rs.2)

/-- `dcpred_for_dec`, block after block. -/
def decRun (d : M4V_DCPRED) : DcValues → DcValues × M4V_DCPRED
  | [] => ([], d)
  | (n, diff) :: vs =>
    let r := dcpred_for_dec d n diff
    let rs := decRun r.2 vs
    ((n, r.1) :: rs.1, rs.2)

theorem decRun_encRun (d : M4V_DCPRED) (vs : DcValues) :
    decRun d (encRun d vs).1 = (vs, (encRun d vs).2) := by
  induction vs generalizing d with
  | nil => rfl
  | cons v vs ih =>
    obtain ⟨n, level⟩ := v
    simp only [encRun, decRun, dcpred_dec_enc, ih]

/-- The DC values of the blocks `is`. -/
def MICROBLOCK.dcs (mb : MICROBLOCK) (is : List ℕ) : DcValues :=
  is.map fun n => (n, (mb.block n).block 0)

def sixBlocks : List ℕ := [0, 1, 2, 3, 4, 5]

theorem MICROBLOCK.dcs_congr {mb mb' : MICROBLOCK} {is : List ℕ}
    (h : ∀ n ∈ is, mb'.block n = mb.block n) : mb'.dcs is = mb.dcs is :=
  List.map_congr_left fun n hn => by rw [h n hn]

theorem encode_dc_blocks {is : List ℕ} (his : is.Nodup) (mb : MICROBLOCK) (d : M4V_DCPRED) :
    (is.foldl encode_dc_block (mb, d)).1.dcs is = (encRun d (mb.dcs is)).1 ∧
      (is.foldl encode_dc_block (mb, d)).2 = (encRun d (mb.dcs is)).2 ∧
      ∀ n ∉ is, (is.foldl encode_dc_block (mb, d)).1.block n = mb.block n := by
  induction is generalizing mb d with
  | nil => exact ⟨rfl, rfl, fun _ _ => rfl⟩
  | cons i is ih =>
    obtain ⟨hi, his⟩ := List.nodup_cons.mp his
    obtain ⟨hdcs, hd, hother⟩ := ih his (encode_dc_block (mb, d) i).1 (encode_dc_block (mb, d) i).2
    have hblock {n : ℕ} (hn : n ≠ i) : (encode_dc_block (mb, d) i).1.block n = mb.block n :=
      Function.update_of_ne hn _ _
    have hvs : (encode_dc_block (mb, d) i).1.dcs is = mb.dcs is :=
      MICROBLOCK.dcs_congr fun n hn => hblock fun h => hi (h ▸ hn)
    have hlevel : ((encode_dc_block (mb, d) i).1.block i).block 0 =
        (dcpred_for_enc d i ((mb.block i).block 0)).1 := by
      show (Function.update mb.block i ((mb.block i).set 0 _) i).block 0 = _
      rw [Function.update_self, BLOCK.set_block, Function.update_self]
    rw [hvs] at hdcs hd
    refine ⟨?_, hd, fun n hn => ?_⟩
    · have hhead : ((is.foldl encode_dc_block (encode_dc_block (mb, d) i)).1.block i).block 0 =
          ((encode_dc_block (mb, d) i).1.block i).block 0 :=
        congrArg (fun b => b.block 0) (hother i hi)
      show (i, _) :: MICROBLOCK.dcs _ is = (i, _) :: _
      rw [List.foldl_cons, hhead, hlevel, hdcs]
      rfl
    · obtain ⟨hni, hnis⟩ := not_or.mp (fun h => hn (List.mem_cons.mpr h))
      exact (hother n hnis).trans (hblock hni)

/-! ## The scales -/

def SameScales (q q' : ℤ) : Prop :=
  (dcpred_set_qscale M4V_DCPRED.zero q).y_dc_scale = (dcpred_set_qscale M4V_DCPRED.zero q').y_dc_scale ∧
  (dcpred_set_qscale M4V_DCPRED.zero q).c_dc_scale = (dcpred_set_qscale M4V_DCPRED.zero q').c_dc_scale

instance (q q' : ℤ) : Decidable (SameScales q q') := by unfold SameScales; infer_instance

theorem SameScales.set_qscale {q q' : ℤ} (h : SameScales q q') (d : M4V_DCPRED) :
    dcpred_set_qscale d q = dcpred_set_qscale d q' := by
  obtain ⟨hy, hc⟩ := h
  simp only [dcpred_set_qscale] at hy hc ⊢
  rw [hy, hc]

theorem copy_microblock_dcs (mb : MICROBLOCK) (hi : mb.intra = true) :
    (copy_microblock mb).dcs sixBlocks =
      sixBlocks.map fun n => (n, ((mb.block n).block 0 * 8).tdiv (dcScale mb.qscale n)) := by
  unfold copy_microblock sixBlocks
  rw [if_pos hi]
  simp [MICROBLOCK.dcs, MICROBLOCK.setBlock, BLOCK.set]

theorem copy_microblock_intra (mb : MICROBLOCK) : (copy_microblock mb).intra = mb.intra := by
  unfold copy_microblock
  split <;> rfl

theorem copy_microblock_qscale (mb : MICROBLOCK) : (copy_microblock mb).qscale = mb.qscale := by
  unfold copy_microblock
  split <;> rfl

/-! ## A picture -/

/-- A macroblock as it is written, and the planes behind it. -/
def codeMb (q : ℤ) (d : M4V_DCPRED) (mb : MICROBLOCK) (p : ℕ × ℕ) : MICROBLOCK × M4V_DCPRED :=
  m4v_encode_I_dcpred (copy_microblock { mb with qscale := q }) d p.1 p.2

/-- The macroblocks of a picture as they are written. -/
def codeMbs (q : ℤ) : M4V_DCPRED → List (MICROBLOCK × ℕ × ℕ) → List (MICROBLOCK × ℕ × ℕ)
  | _, [] => []
  | d, (mb, p) :: mbs => ((codeMb q d mb p).1, p) :: codeMbs q (codeMb q d mb p).2 mbs

/-- The quantiser behind a macroblock: DQUANT is added to the one before. -/
def nextQuant (q : ℤ) (mb : MICROBLOCK) : ℤ := max 1 (min 31 (q + mb.dquant))

/-- What an MPEG-4 decoder reconstructs from macroblocks as written: the DC levels of the intra
macroblocks, each with the quantiser that the stream signals there. -/
def mpeg4Levels : ℤ → M4V_DCPRED → List (MICROBLOCK × ℕ × ℕ) → List (ℤ × DcValues)
  | _, _, [] => []
  | q, d, (mb, p) :: mbs =>
    let q := nextQuant q mb
    if mb.intra then
      let r := decRun (dcpred_set_pos (dcpred_set_qscale d q) p.1 p.2) (mb.dcs sixBlocks)
      (q, r.1) :: mpeg4Levels q r.2 mbs
    else (q, []) :: mpeg4Levels q d mbs

/-- The levels that the transcoder means: `8 * level / scale` for an intra macroblock. -/
def rescaledLevels (q : ℤ) (mb : MICROBLOCK) : DcValues :=
  if mb.intra then sixBlocks.map fun n => (n, ((mb.block n).block 0 * 8).tdiv (dcScale q n)) else []

theorem codeMb_intra (q : ℤ) (d : M4V_DCPRED) (mb : MICROBLOCK) (p : ℕ × ℕ) :
    (codeMb q d mb p).1.intra = mb.intra ∧ (codeMb q d mb p).1.dquant = mb.dquant := by
  have fold (is : List ℕ) (s : MICROBLOCK × M4V_DCPRED) :
      (is.foldl encode_dc_block s).1.intra = s.1.intra ∧
        (is.foldl encode_dc_block s).1.dquant = s.1.dquant := by
    induction is generalizing s with
    | nil => exact ⟨rfl, rfl⟩
    | cons i is ih => exact ih (encode_dc_block s i)
  have hcopy : (copy_microblock { mb with qscale := q }).intra = mb.intra ∧
      (copy_microblock { mb with qscale := q }).dquant = mb.dquant := by
    unfold copy_microblock
    split <;> exact ⟨rfl, rfl⟩
  unfold codeMb m4v_encode_I_dcpred
  split
  · exact ⟨(fold _ _).1.trans hcopy.1, (fold _ _).2.trans hcopy.2⟩
  · exact hcopy

theorem codeMb_of_inter (q : ℤ) (d : M4V_DCPRED) {mb : MICROBLOCK} (hi : mb.intra = false)
    (p : ℕ × ℕ) : (codeMb q d mb p).2 = d := by
  unfold codeMb m4v_encode_I_dcpred
  rw [copy_microblock_intra]
  simp [hi]

theorem codeMb_of_intra (q : ℤ) (d : M4V_DCPRED) {mb : MICROBLOCK} (hi : mb.intra = true)
    (p : ℕ × ℕ) : codeMb q d mb p = sixBlocks.foldl encode_dc_block
      (copy_microblock { mb with qscale := q },
        dcpred_set_pos (dcpred_set_qscale d q) p.1 p.2) := by
  have hcopy : (copy_microblock { mb with qscale := q }).intra = true :=
    (copy_microblock_intra _).trans hi
  unfold codeMb m4v_encode_I_dcpred
  rw [if_pos hcopy, copy_microblock_qscale]
  rfl

/-- **One macroblock**: with the same scales, the decoder gets the rescaled levels and the planes of
the encoder. -/
theorem decode_codeMb {q q' : ℤ} (hq : SameScales q' q) (d : M4V_DCPRED) {mb : MICROBLOCK}
    (hi : mb.intra = true) (p : ℕ × ℕ) :
    decRun (dcpred_set_pos (dcpred_set_qscale d q') p.1 p.2) ((codeMb q d mb p).1.dcs sixBlocks) =
      (rescaledLevels q mb, (codeMb q d mb p).2) := by
  obtain ⟨hdcs, hd, -⟩ := encode_dc_blocks (show sixBlocks.Nodup by decide)
    (copy_microblock { mb with qscale := q }) (dcpred_set_pos (dcpred_set_qscale d q) p.1 p.2)
  have hlevels : (copy_microblock { mb with qscale := q }).dcs sixBlocks = rescaledLevels q mb := by
    rw [copy_microblock_dcs { mb with qscale := q } hi, rescaledLevels, if_pos hi]
  rw [hq.set_qscale d, codeMb_of_intra q d hi p, hdcs, hd, decRun_encRun, hlevels]

/-- The quantisers that the stream signals, one for each macroblock. -/
def signalled : ℤ → List (MICROBLOCK × ℕ × ℕ) → List ℤ
  | _, [] => []
  | q, (mb, _) :: mbs => nextQuant q mb :: signalled (nextQuant q mb) mbs

/-- **The rescaled levels are reconstructed** wherever the signalled quantisers have the scales of
the picture's quantiser. -/
theorem mpeg4Levels_codeMbs {q r : ℤ} (d : M4V_DCPRED) (mbs : List (MICROBLOCK × ℕ × ℕ))
    (h : ∀ q' ∈ signalled r mbs, SameScales q' q) :
    (mpeg4Levels r d (codeMbs q d mbs)).map Prod.snd = mbs.map fun m => rescaledLevels q m.1 := by
  induction mbs generalizing r d with
  | nil => rfl
  | cons m mbs ih =>
    obtain ⟨mb, p⟩ := m
    obtain ⟨hq, hrest⟩ := List.forall_mem_cons.mp h
    obtain ⟨hintra, hdq⟩ := codeMb_intra q d mb p
    have hnext : nextQuant r (codeMb q d mb p).1 = nextQuant r mb := by
      unfold nextQuant
      rw [hdq]
    simp only [codeMbs, mpeg4Levels, List.map_cons, hnext, hintra]
    cases hi : mb.intra with
    | true =>
      simp only [if_true, List.map_cons, decode_codeMb hq d hi p, ih _ hrest]
    | false =>
      simp only [Bool.false_eq_true, if_false, List.map_cons, codeMb_of_inter q d hi p, ih _ hrest]
      simp [rescaledLevels, hi]

/-! ## The picture that `write_mbs` writes -/

/-- The decoding half of `write_mb`. -/
def read_mb (flvpic : PICTURE) (vop : M4V_VOP) : Reader (ℤ × MICROBLOCK) :=
  if vop.picture_type = M4V_I_TYPE then
    decode_I_mb { MICROBLOCK.zero with intra := true } flvpic.escape_type
  else decode_P_mb MICROBLOCK.zero flvpic.escape_type

/-- The writing half of `write_mb`. -/
def put_mb (T : EncTables) (vop : M4V_VOP) (bw : BW) (mb : MICROBLOCK) : BW :=
  if vop.picture_type = M4V_I_TYPE then m4v_encode_I_mb T bw mb else m4v_encode_P_mb T bw mb

/-- The macroblocks of a picture as they are decoded; `none` after an error. -/
def read_mbs (flvpic : PICTURE) (vop : M4V_VOP) : ℕ → Reader (Option (List MICROBLOCK))
  | 0 => return some []
  | n + 1 => do
    let (r, mb) ← read_mb flvpic vop
    if r < 0 then return none
    else
      match ← read_mbs flvpic vop n with
      | none => return none
      | some mbs => return some (mb :: mbs)

variable {T : EncTables} {flvpic : PICTURE} {vop : M4V_VOP}

theorem write_mb_codes {d d' : M4V_DCPRED} {w w' : BW} {x y : ℕ} {p q : BR}
    (h : write_mb T flvpic vop d w x y p = some ((0, d', w'), q)) :
    ∃ r mb, read_mb flvpic vop p = some ((r, mb), q) ∧ 0 ≤ r ∧
      d' = (codeMb vop.qscale d mb (x, y)).2 ∧ w' = put_mb T vop w (codeMb vop.qscale d mb (x, y)).1 := by
  unfold write_mb at h
  unfold read_mb put_mb
  split at h
  all_goals
    rename_i htype
    obtain ⟨⟨r, mb⟩, p₁, hmb, h⟩ := bind_eq_some.mp h
    simp only at h
    split at h
    · cases pure_eq_some.mp h with | intro h => cases h
    · obtain ⟨hr, rfl⟩ := pure_eq_some.mp h
      obtain ⟨-, rfl, rfl⟩ := Prod.mk.inj hr |>.imp id Prod.mk.inj
      simp only [htype, if_true, if_false]
      exact ⟨r, mb, hmb, by omega, rfl, rfl⟩

theorem write_mb_return {d d' : M4V_DCPRED} {w w' : BW} {x y : ℕ} {r : ℤ} {p q : BR}
    (h : write_mb T flvpic vop d w x y p = some ((r, d', w'), q)) (hr : 0 ≤ r) : r = 0 := by
  unfold write_mb at h
  split at h
  all_goals
    obtain ⟨⟨r', mb⟩, p₁, -, h⟩ := bind_eq_some.mp h
    simp only at h
    split at h
    · obtain ⟨hr', -⟩ := pure_eq_some.mp h
      obtain ⟨rfl, -⟩ := Prod.mk.inj hr'
      exact absurd hr (by decide)
    · obtain ⟨hr', -⟩ := pure_eq_some.mp h
      exact (Prod.mk.inj hr').1.symm

/-- **What `write_mbs` writes** for a picture without error: the macroblocks that it has read,
coded. -/
theorem write_mbs_codes {ps : List (ℕ × ℕ)} {d d' : M4V_DCPRED} {w w' : BW} {p q : BR}
    (h : write_mbs T flvpic vop ps d w p = some ((0, d', w'), q)) :
    ∃ mbs, read_mbs flvpic vop ps.length p = some (some mbs, q) ∧ mbs.length = ps.length ∧
      w' = (codeMbs vop.qscale d (mbs.zip ps)).foldl (fun w m => put_mb T vop w m.1) w := by
  induction ps generalizing d w p with
  | nil =>
    obtain ⟨hr, rfl⟩ := pure_eq_some.mp h
    obtain ⟨-, rfl, rfl⟩ := Prod.mk.inj hr |>.imp id Prod.mk.inj
    exact ⟨[], rfl, rfl, rfl⟩
  | cons xy ps ih =>
    obtain ⟨x, y⟩ := xy
    obtain ⟨⟨r, d₁, w₁⟩, p₁, hmb, h⟩ := bind_eq_some.mp h
    simp only at h
    split at h
    · cases pure_eq_some.mp h with | intro h => cases h
    · have hr : r = 0 := write_mb_return hmb (by omega)
      subst hr
      obtain ⟨r', mb, hread, hr', rfl, rfl⟩ := write_mb_codes hmb
      obtain ⟨mbs, hmbs, hlen, hw⟩ := ih h
      refine ⟨mb :: mbs, ?_, by rw [List.length_cons, List.length_cons, hlen], hw⟩
      show (read_mb flvpic vop >>= _) p = _
      rw [bind_of_some hread]
      simp only [show ¬ r' < 0 by omega, if_false]
      rw [bind_of_some hmbs]
      rfl

/-! ## The result -/

/-- **The decoder reconstructs the rescaled DC levels** of every picture that is written without
error, with the quantiser that the stream signals at each macroblock, starting from the encoder's
planes. -/
theorem levels_reconstructed {ps : List (ℕ × ℕ)} {d d' : M4V_DCPRED} {w w' : BW} {p q : BR}
    (h : write_mbs T flvpic vop ps d w p = some ((0, d', w'), q)) :
    ∃ mbs, read_mbs flvpic vop ps.length p = some (some mbs, q) ∧ mbs.length = ps.length ∧
      w' = (codeMbs vop.qscale d (mbs.zip ps)).foldl (fun w m => put_mb T vop w m.1) w ∧
      ((∀ q' ∈ signalled vop.qscale (mbs.zip ps), SameScales q' vop.qscale) →
        (mpeg4Levels vop.qscale d (codeMbs vop.qscale d (mbs.zip ps))).map Prod.snd =
          mbs.map (rescaledLevels vop.qscale)) := by
  obtain ⟨mbs, hread, hlen, hw⟩ := write_mbs_codes h
  refine ⟨mbs, hread, hlen, hw, fun hq => ?_⟩
  rw [mpeg4Levels_codeMbs d _ hq]
  have hfst : (mbs.zip ps).map Prod.fst = mbs := List.map_fst_zip hlen.le
  conv_rhs => rw [← hfst, List.map_map]
  rfl

/-- A macroblock of an I picture: no AC coefficient is coded, and every DC level is 1. -/
def flatMb : BR := init_br [0x98, 0x08, 0x08, 0x08, 0x08, 0x08, 0x08, 0x00, 0x00, 0x00, 0x00, 0x00, 0x00, 0x00, 0x00, 0x00] 7

/-- A picture of one macroblock with quantiser 5. -/
def smallPicture : PICTURE := ⟨16, 16, FLV_I_TYPE, 0, 5, 0⟩

def smallVop : M4V_VOP := copy_vop smallPicture f2m_create

def smallPlanes : M4V_DCPRED := init_dcpred (alloc_dcpred M4V_DCPRED.zero 1 1)

theorem levels_reconstructed_small :
    ∃ d' w' q mbs, write_mbs EncTables.sample smallPicture smallVop [(0, 0)] smallPlanes (init_bw 0)
        flatMb = some ((0, d', w'), q) ∧ read_mbs smallPicture smallVop 1 flatMb = some (some mbs, q) ∧
      (mpeg4Levels 5 smallPlanes (codeMbs 5 smallPlanes (mbs.zip [(0, 0)]))).map Prod.snd =
        mbs.map (rescaledLevels 5) := by
  have run : ∃ d' w' q, write_mbs EncTables.sample smallPicture smallVop [(0, 0)] smallPlanes
      (init_bw 0) flatMb = some ((0, d', w'), q) := ⟨_, _, _, rfl⟩
  obtain ⟨d', w', q, hrun⟩ := run
  obtain ⟨mbs, hread, hlen, -, hlevels⟩ := levels_reconstructed hrun
  refine ⟨d', w', q, mbs, hrun, hread, hlevels ?_⟩
  have hmbs : ∃ mb q, mb.dquant = 0 ∧ read_mbs smallPicture smallVop 1 flatMb = some (some [mb], q) :=
    ⟨_, _, rfl, rfl⟩
  obtain ⟨mb, q', hdq, hmb⟩ := hmbs
  obtain ⟨hmbs, -⟩ := Prod.mk.inj (Option.some.inj (hread.symm.trans hmb))
  cases hmbs
  intro q'' hq
  simp only [List.zip_cons_cons, List.zip_nil_right, signalled, nextQuant, hdq, List.mem_singleton] at hq
  subst hq
  decide

/-- **The DC values themselves are not reconstructed**: level 1 with the scale 10 is rescaled to 0. -/
theorem dc_level_lost :
    ∃ mb q, read_mbs smallPicture smallVop 1 flatMb = some (some [mb], q) ∧
      ∃ m ∈ mpeg4Levels 5 smallPlanes (codeMbs 5 smallPlanes [(mb, (0, 0))]),
        ∃ v ∈ m.2, v.2 * dcScale m.1 v.1 ≠ 8 * (mb.block v.1).block 0 :=
  ⟨_, _, rfl, _, List.mem_cons_self .., (0, 0), List.mem_cons_self .., by decide⟩

end ArchosGpl.F2m
