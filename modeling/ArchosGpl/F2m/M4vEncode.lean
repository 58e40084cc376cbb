import ArchosGpl.F2m.BitWriter
import ArchosGpl.F2m.FlvDecoder

/-!
# The MPEG-4 encoder (`m4vencode.c`)

The writers of macroblocks, blocks and headers. The generated tables of `m4vencode_tables.h` (512
DC differences and 16384 coefficients, each for two kinds of block) are a parameter, `EncTables`.

`ac_triples` is what the loop of `encode_AC` finds: the coefficients as last, run and level.
`encode_AC` writes them in that order.

`encode_gop_header` has no caller and is left out.
-/

namespace ArchosGpl.F2m

open Lib

/-!
## DC prediction (`dcprediction.c`)

The dequantised DC values of the blocks of a picture, with a border of one block at the left and at
the top. The four luma blocks of a macroblock share plane 0, the chroma blocks have planes 4 and 5.
Pointers into a plane are indices; `dc` is the index of block (0, 0). `malloc` leaves the entries
undefined, and `init_dcpred` writes all of them before each frame.

`dcpred_for_enc` and `dcpred_for_dec` start from the same neighbours and leave the same plane if
they use the same scale and the level of one is the level of the other (**`dcpred_dec_enc`**).
-/

/-- `mpeg4_y_dc_scale_table` and `mpeg4_c_dc_scale_table`, with the numbers of `flv2mpeg4.c`. -/
def mpeg4_y_dc_scale_table : List ℤ := ff_mpeg4_y_dc_scale_table

def mpeg4_c_dc_scale_table : List ℤ := ff_mpeg4_c_dc_scale_table

structure M4V_DCPRED where
  plane : ℕ → ℕ → ℤ
  dc : ℕ → ℕ
  dc_cur : ℕ → ℕ
  stride : ℕ → ℕ
  height : ℕ → ℕ
  block_offset : ℕ → ℕ
  y_dc_scale : ℤ
  c_dc_scale : ℤ

/-- A structure after `memset(.., 0, ..)`. -/
def M4V_DCPRED.zero : M4V_DCPRED :=
  ⟨fun _ _ => 0, fun _ => 0, fun _ => 0, fun _ => 0, fun _ => 0, fun _ => 0, 0, 0⟩

/-- The plane of block `n`: `_dc[0]` to `_dc[3]` are one array. -/
def planeOf (n : ℕ) : ℕ := if n < 4 then 0 else n

/-- `get_pred`: the gradient decides between the left and the upper neighbour. -/
def get_pred (p : M4V_DCPRED) (n : ℕ) (scale : ℤ) : ℤ :=
  let cur := p.dc_cur n
  let A := p.plane (planeOf n) (cur - 1)
  let B := p.plane (planeOf n) (cur - 1 - p.stride n)
  let C := p.plane (planeOf n) (cur - p.stride n)
  let pred := if |A - B| < |B - C| then C else A
  (pred + scale / 2).tdiv scale

/-- `set_dc_to_dc_cur`: `level & ~2047` is nonzero outside `0 .. 2047`. -/
def set_dc_to_dc_cur (p : M4V_DCPRED) (n : ℕ) (level scale : ℤ) : M4V_DCPRED :=
  let level := level * scale
  let level := if level < 0 then 0 else if 2047 < level then 2047 else level
  let plane := Function.update (p.plane (planeOf n)) (p.dc_cur n) level
  { p with plane := Function.update p.plane (planeOf n) plane }

def get_dc_cur (p : M4V_DCPRED) (mb_x mb_y n : ℕ) : ℕ :=
  if n < 4 then p.dc n + mb_x * 2 + mb_y * 2 * p.stride n + p.block_offset n
  else p.dc n + mb_x + mb_y * p.stride n

def get_scale (p : M4V_DCPRED) (n : ℕ) : ℤ := if n < 4 then p.y_dc_scale else p.c_dc_scale

def dcpred_set_qscale (p : M4V_DCPRED) (qscale : ℤ) : M4V_DCPRED :=
  let qscale := if qscale < 0 then 0 else qscale
  let qscale := if 31 < qscale then 31 else qscale
  { p with
    y_dc_scale := mpeg4_y_dc_scale_table.getD qscale.toNat 0
    c_dc_scale := mpeg4_c_dc_scale_table.getD qscale.toNat 0 }

def dcpred_set_pos (p : M4V_DCPRED) (mb_x mb_y : ℕ) : M4V_DCPRED :=
  { p with dc_cur := get_dc_cur p mb_x mb_y }

def dcpred_for_enc (p : M4V_DCPRED) (n : ℕ) (level : ℤ) : ℤ × M4V_DCPRED :=
  let scale := get_scale p n
  let pred := get_pred p n scale
  (level - pred, set_dc_to_dc_cur p n level scale)

def dcpred_for_dec (p : M4V_DCPRED) (n : ℕ) (level : ℤ) : ℤ × M4V_DCPRED :=
  let scale := get_scale p n
  let pred := get_pred p n scale
  let level := level + pred
  (level, set_dc_to_dc_cur p n level scale)

/-- `init_dcpred`: every entry of the three planes. -/
def init_dcpred (p : M4V_DCPRED) : M4V_DCPRED := { p with plane := fun _ _ => 1024 }

def alloc_dcpred (p : M4V_DCPRED) (mb_width mb_height : ℕ) : M4V_DCPRED :=
  let w2 := mb_width * 2 + 1
  let h2 := mb_height * 2 + 1
  let w := mb_width + 1
  let h := mb_height + 1
  { p with
    dc := fun n => if n < 4 then w2 + 1 else w + 1
    stride := fun n => if n < 4 then w2 else w
    height := fun n => if n < 4 then h2 else h
    block_offset := fun n => [0, 1, w2, w2 + 1].getD n 0 }

/-- **The decoder's prediction undoes the encoder's** from the same neighbours and scales, and both
leave the same planes. -/
theorem dcpred_dec_enc (p : M4V_DCPRED) (n : ℕ) (level : ℤ) :
    dcpred_for_dec p n (dcpred_for_enc p n level).1 = (level, (dcpred_for_enc p n level).2) := by
  simp only [dcpred_for_dec, dcpred_for_enc, Int.sub_add_cancel]

/-- The generated tables: lengths and words. -/
structure EncTables where
  uni_DCtab_lum_len : ℕ → ℕ
  uni_DCtab_lum_bits : ℕ → ℕ
  uni_DCtab_chrom_len : ℕ → ℕ
  uni_DCtab_chrom_bits : ℕ → ℕ
  uni_mpeg4_intra_rl_len : ℕ → ℕ
  uni_mpeg4_intra_rl_bits : ℕ → ℕ
  uni_mpeg4_inter_rl_len : ℕ → ℕ
  uni_mpeg4_inter_rl_bits : ℕ → ℕ

structure M4V_VOL where
  width : ℕ
  height : ℕ
  time_bits : ℕ
  dcpred : M4V_DCPRED

def M4V_I_TYPE : ℕ := 0

def M4V_P_TYPE : ℕ := 1

def M4V_B_TYPE : ℕ := 2

/-- `M4V_VOP`, without `intra_dc_threshold`, which nothing reads. -/
structure M4V_VOP where
  picture_type : ℕ
  time : ℕ
  icount : ℕ
  rounding_type : ℕ
  qscale : ℕ
  f_code : ℕ
  b_code : ℕ
  deriving DecidableEq, Repr

def VOS_STARTCODE : ℕ := 0x1B0

def USERDATA_STARTCODE : ℕ := 0x1B2

def VISUAL_OBJECT_STARTCODE : ℕ := 0x1B5

def VOP_STARTCODE : ℕ := 0x1B6

variable (T : EncTables)

/-! ## Blocks -/

/-- `encode_DC`; `n` is the number of the block. -/
def encode_DC (p : BW) (level : ℤ) (n : ℕ) : BW :=
  let level := (level + 256).toNat
  if n < 4 then put_bits p (T.uni_DCtab_lum_len level) (T.uni_DCtab_lum_bits level)
  else put_bits p (T.uni_DCtab_chrom_len level) (T.uni_DCtab_chrom_bits level)

/-- `encode_escape_3`. The level is masked to 12 bits; the caller has added 64 to it. -/
def encode_escape_3 (p : BW) (last : Bool) (run : ℕ) (level : ℤ) : BW :=
  let p := put_bits p 7 3
  let p := put_bits p 2 3
  let p := put_bits p 1 last.toNat
  let p := put_bits p 6 run
  let p := put_bits p 1 1
  let p := put_bits p 12 ((level - 64) % 0x1000).toNat
  put_bits p 1 1

/-- `UNI_MPEG4_ENC_INDEX`. -/
def uniIndex (last : Bool) (run level : ℕ) : ℕ := last.toNat * 128 * 64 + run * 128 + level

/-- One coefficient: a table code where `level & ~127` is zero, else the escape. -/
def encode_coef (intra : Bool) (p : BW) (c : Bool × ℕ × ℤ) : BW :=
  let level := c.2.2 + 64
  if 0 ≤ level ∧ level ≤ 127 then
    let index := uniIndex c.1 c.2.1 level.toNat
    if intra then put_bits p (T.uni_mpeg4_intra_rl_len index) (T.uni_mpeg4_intra_rl_bits index)
    else put_bits p (T.uni_mpeg4_inter_rl_len index) (T.uni_mpeg4_inter_rl_bits index)
  else encode_escape_3 p c.1 c.2.1 level

/-- The loop of `encode_AC` from scan index `i` on, with `n` rounds to go; `start` is `last_non_zero
+ 1`. -/
def ac_loop (blk : ℕ → ℤ) : ℕ → ℕ → ℕ → List (Bool × ℕ × ℤ)
  | 0, i, start => [(true, i - start, blk (zigZag i))]
  | n + 1, i, start =>
    let level := blk (zigZag i)
    if level ≠ 0 then (false, i - start, level) :: ac_loop blk n (i + 1) (i + 1)
    else ac_loop blk n (i + 1) start

/-- The coefficients `encode_AC` writes; an intra block starts behind its DC coefficient. -/
def ac_triples (block : BLOCK) (intra : Bool) : List (Bool × ℕ × ℤ) :=
  let i := intra.toNat
  ac_loop block.block (block.last_index - i).toNat i i

def encode_AC (p : BW) (block : BLOCK) (intra : Bool) : BW :=
  (ac_triples block intra).foldl (encode_coef T intra) p

def encode_intra_block (p : BW) (block : BLOCK) (n : ℕ) : BW :=
  encode_AC T (encode_DC T p (block.block 0) n) block true

def encode_inter_block (p : BW) (block : BLOCK) : BW := encode_AC T p block false

/-! ## Macroblocks -/

def encode_intra_I_MCBPC (p : BW) (cbpc : ℕ) : BW :=
  put_bits p (vlce_intra_MCBPC_bits.getD cbpc 0) (vlce_intra_MCBPC_code.getD cbpc 0)

def encode_intra_P_MCBPC (p : BW) (cbpc : ℕ) : BW :=
  put_bits p (vlce_inter_MCBPC_bits.getD (cbpc + 4) 0) (vlce_inter_MCBPC_code.getD (cbpc + 4) 0)

def encode_inter_16x16_MCBPC (p : BW) (cbpc : ℕ) : BW :=
  put_bits p (vlce_inter_MCBPC_bits.getD cbpc 0) (vlce_inter_MCBPC_code.getD cbpc 0)

def encode_inter_8x8_MCBPC (p : BW) (cbpc : ℕ) : BW :=
  put_bits p (vlce_inter_MCBPC_bits.getD (cbpc + 16) 0) (vlce_inter_MCBPC_code.getD (cbpc + 16) 0)

def encode_cbpy (p : BW) (cbpy : ℕ) : BW :=
  put_bits p (vlce_cbpy_bits.getD cbpy 0) (vlce_cbpy_code.getD cbpy 0)

/-- `encode_dquant`. The entry for 0 is never read. -/
def encode_dquant (p : BW) (dquant : ℤ) : BW :=
  if dquant ≠ 0 then put_bits p 2 ([1, 0, 0xffffffff, 2, 3].getD (dquant + 2).toNat 0) else p

def put_vlcdec (p : BW) (v : VLCDEC) : BW := put_bits p v.bits v.value

/-- The part of `encode_motion` for one component. -/
def encode_motion_component (p : BW) (v : VLCDEC) : BW :=
  let p := put_vlcdec p v
  if v.bits_ex ≠ 0 then
    let p := put_bits p 1 (v.value_ex % 2)
    if 1 < v.bits_ex then put_bits p (v.bits_ex - 1) (v.value_ex / 2) else p
  else p

def encode_motion (p : BW) (mv_x mv_y : VLCDEC) : BW :=
  encode_motion_component (encode_motion_component p mv_x) mv_y

/-- `cbp`: bit `5 - i` says that block `i` has a coefficient from scan index `from` on. -/
def mbCbp (mb : MICROBLOCK) (first : ℤ) : ℕ :=
  [0, 1, 2, 3, 4, 5].foldl
    (fun cbp i => if first ≤ (mb.block i).last_index then cbp ||| 1 <<< (5 - i) else cbp) 0

def encode_mb_inter_internal (p : BW) (mb : MICROBLOCK) : BW :=
  let cbp := mbCbp mb 0
  let cbpc := cbp &&& 3
  let cbpy := (cbp >>> 2) ^^^ 0xF
  let cbpc := if mb.dquant ≠ 0 then cbpc + 8 else cbpc
  let p := match mb.mv_type with
    | .MV_TYPE_16X16 =>
      let p := encode_inter_16x16_MCBPC p cbpc
      let p := encode_cbpy p cbpy
      let p := encode_dquant p mb.dquant
      encode_motion p (mb.mv_x 0) (mb.mv_y 0)
    | .MV_TYPE_8X8 =>
      let p := encode_inter_8x8_MCBPC p cbpc
      let p := encode_cbpy p cbpy
      let p := encode_dquant p mb.dquant
      [0, 1, 2, 3].foldl (fun p i => encode_motion p (mb.mv_x i) (mb.mv_y i)) p
  [0, 1, 2, 3, 4, 5].foldl (fun p i => encode_inter_block T p (mb.block i)) p

def encode_mb_intra_internal (p : BW) (mb : MICROBLOCK) (iframe : Bool) : BW :=
  let cbp := mbCbp mb 1
  let cbpc := cbp &&& 3
  let p :=
    if iframe then encode_intra_I_MCBPC p (if mb.dquant ≠ 0 then cbpc + 4 else cbpc)
    else encode_intra_P_MCBPC p (if mb.dquant ≠ 0 then cbpc + 8 else cbpc)
  -- no AC prediction
  let p := put_zero_bits p 1
  let cbpy := cbp >>> 2
  let p := encode_cbpy p cbpy
  let p := encode_dquant p mb.dquant
  [0, 1, 2, 3, 4, 5].foldl (fun p i => encode_intra_block T p (mb.block i) i) p

def m4v_encode_I_mb (p : BW) (mb : MICROBLOCK) : BW := encode_mb_intra_internal T p mb true

def m4v_encode_P_mb (p : BW) (mb : MICROBLOCK) : BW :=
  if mb.skip then put_bits p 1 1
  else
    let p := put_zero_bits p 1
    if mb.intra then encode_mb_intra_internal T p mb false
    else encode_mb_inter_internal T p mb

/-- One call of `dcpred_for_enc` in `m4v_encode_I_dcpred`. -/
def encode_dc_block (s : MICROBLOCK × M4V_DCPRED) (n : ℕ) : MICROBLOCK × M4V_DCPRED :=
  let r := dcpred_for_enc s.2 n ((s.1.block n).block 0)
  (s.1.setBlock n ((s.1.block n).set 0 r.1), r.2)

def m4v_encode_I_dcpred (mb : MICROBLOCK) (dcpred : M4V_DCPRED) (mb_x mb_y : ℕ) :
    MICROBLOCK × M4V_DCPRED :=
  if mb.intra then
    let dcpred := dcpred_set_qscale dcpred mb.qscale
    let dcpred := dcpred_set_pos dcpred mb_x mb_y
    [0, 1, 2, 3, 4, 5].foldl encode_dc_block (mb, dcpred)
  else (mb, dcpred)

/-! ## Headers -/

def encode_vo_header (p : BW) : BW :=
  let p := put_zero_bits p 16
  let p := put_bits p 16 VOS_STARTCODE
  let p := put_bits p 8 1
  let p := put_zero_bits p 16
  let p := put_bits p 16 VISUAL_OBJECT_STARTCODE
  let p := put_bits p 1 1
  let p := put_bits p 4 1
  let p := put_bits p 3 1
  let p := put_bits p 4 1
  let p := put_zero_bits p 1
  m4v_stuffing p

/-- `encode_vol_header`. With `time_bits` not 5 it stops in the middle. -/
def encode_vol_header (p : BW) (vol : M4V_VOL) : BW :=
  let vo_number := 0
  let vol_number := 0
  let p := put_zero_bits p 16
  let p := put_bits p 16 (0x100 + vo_number)
  let p := put_zero_bits p 16
  let p := put_bits p 16 (0x120 + vol_number)
  let p := put_zero_bits p 1
  let p := put_bits p 8 1
  let p := put_zero_bits p 1
  let p := put_bits p 4 1
  let p := put_zero_bits p 1
  let p := put_zero_bits p 2
  let p := put_bits p 1 1
  if vol.time_bits ≠ 5 then p
  else
    -- `vop_time_increment_resolution`
    let p := put_bits p 16 30
    let p := put_bits p 1 1
    let p := put_zero_bits p 1
    let p := put_bits p 1 1
    let p := put_bits p 13 vol.width
    let p := put_bits p 1 1
    let p := put_bits p 13 vol.height
    let p := put_bits p 1 1
    let p := put_zero_bits p 1
    let p := put_bits p 1 1
    let p := put_zero_bits p 3
    let p := put_bits p 1 1
    let p := put_bits p 1 1
    let p := put_zero_bits p 2
    m4v_stuffing p

/-- `encode_user_header`: the bytes are `"archos07"`. -/
def encode_user_header (p : BW) : BW :=
  let p := put_zero_bits p 16
  let p := put_bits p 16 USERDATA_STARTCODE
  let p := [97, 114, 99, 104, 111, 115, 48, 55].foldl (fun p c => put_bits p 8 c) p
  m4v_stuffing p

def m4v_encode_m4v_header (p : BW) (vol : M4V_VOL) : BW :=
  encode_user_header (encode_vol_header (encode_vo_header p) vol)

/-- `while (time_incr--) put_bits(p, 1, 1)`. -/
def put_time_base (p : BW) : ℕ → BW
  | 0 => p
  | time_incr + 1 => put_time_base (put_bits p 1 1) time_incr

/-- `encode_vop_header` with `vop_not_coded` 0, the only value passed. -/
def encode_vop_header (p : BW) (vop : M4V_VOP) (time_bits : ℕ) : BW :=
  let time_incr := if vop.time ≠ 0 then 0 else vop.icount
  let p := put_zero_bits p 16
  let p := put_bits p 16 VOP_STARTCODE
  let p := put_bits p 2 vop.picture_type
  let p := put_time_base p time_incr
  let p := put_zero_bits p 1
  let p := put_bits p 1 1
  let p := put_bits p time_bits vop.time
  let p := put_bits p 1 1
  let p := put_bits p 1 1
  let p := if vop.picture_type = M4V_P_TYPE then put_bits p 1 vop.rounding_type else p
  let p := put_zero_bits p 3
  let p := put_bits p 5 vop.qscale
  let p := if vop.picture_type ≠ M4V_I_TYPE then put_bits p 3 vop.f_code else p
  if vop.picture_type = M4V_B_TYPE then put_bits p 3 vop.b_code else p

end ArchosGpl.F2m
