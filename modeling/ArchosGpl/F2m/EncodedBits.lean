import ArchosGpl.F2m.M4vEncode

/-!
# The bits that the encoder writes

`EncTables.Fits`: no word of the generated tables is longer than its length says. `MICROBLOCK.Fits`:
what the writers need of a macroblock, and the decoder gives.

* **`m4v_encode_I_mb_writes`, `m4v_encode_P_mb_writes`**: a macroblock appends a header that depends
  on the macroblock alone (`iHeaderBits`, `pHeaderBits`), and then the bits of its blocks.
-/

namespace ArchosGpl.F2m

open Lib

/-!
## The transcoder (`flv2mpeg4.c`)

`f2m_process` takes one FLV video packet and gives one MPEG-4 frame; `CONVCTX` is what it keeps
between calls. A `Frame` is what a call gets: the memory from the packet on, the packet's size, and
the `key` flag of the container. The result is `none` where the call reads outside the memory.

The output is the bytes stored: `dst[0]` to `dst[*dst_size - 1]`. The `time` argument is handed down
to `m4v_encode_m4v_header`, which does not use it, and is left out.
-/

section Converter

structure CONVCTX where
  width : ℕ
  height : ℕ
  frame : ℕ
  icounter : ℕ
  header_written : Bool
  first_m4v_header : Bool
  vol : M4V_VOL

def VOL_TIME_BITS : ℕ := 5

def PACKETBUFFER_SIZE : ℕ := 256 * 1024

def f2m_create : CONVCTX where
  width := 0
  height := 0
  frame := 0
  icounter := 0
  header_written := false
  first_m4v_header := true
  vol := ⟨0, 0, 0, M4V_DCPRED.zero⟩

/-- The arguments of a call of `f2m_process`. -/
structure Frame where
  src : List (BitVec 8)
  src_size : ℕ
  key : Bool

def copy_vol (flv_pic : PICTURE) (vol : M4V_VOL) : M4V_VOL :=
  { vol with width := flv_pic.width, height := flv_pic.height, time_bits := VOL_TIME_BITS }

/-- `copy_vop`, into a zeroed `M4V_VOP`. -/
def copy_vop (flv_pic : PICTURE) (c : CONVCTX) : M4V_VOP where
  qscale := flv_pic.qscale
  time := c.frame % 30
  icount := (c.icounter + 29) / 30
  picture_type := if flv_pic.picture_type = FLV_I_TYPE then M4V_I_TYPE else M4V_P_TYPE
  f_code := if flv_pic.picture_type = FLV_I_TYPE then 0 else 1
  b_code := 0
  rounding_type := 0

/-- The DC scale of block `n`. -/
def dcScale (qscale : ℤ) (n : ℕ) : ℤ :=
  if n < 4 then ff_mpeg4_y_dc_scale_table.getD qscale.toNat 0
  else ff_mpeg4_c_dc_scale_table.getD qscale.toNat 0

/-- `copy_microblock`: what is left of it is the rescaling of the DC values. -/
def copy_microblock (mb : MICROBLOCK) : MICROBLOCK :=
  if mb.intra then
    [0, 1, 2, 3, 4, 5].foldl (fun m n =>
      m.setBlock n ((m.block n).set 0
        (((m.block n).block 0 * 8).tdiv (dcScale m.qscale n)))) mb
  else mb

def init_m4v_header (c : CONVCTX) (bw : BW) : Reader (ℤ × CONVCTX × BW) := do
  match ← decode_picture_header with
  | none => return (-1, c, bw)
  | some picture =>
    let vol := copy_vol picture c.vol
    let bw := m4v_encode_m4v_header bw vol
    let bw := flash_bw (m4v_stuffing bw)
    let dcpred := alloc_dcpred vol.dcpred ((picture.width + 15) / 16) ((picture.height + 15) / 16)
    return (0, { c with
      vol := { vol with dcpred := dcpred }
      width := picture.width
      height := picture.height }, bw)

variable (T : EncTables)

/-- The body of the loops of `write_m4v_picture_frame`. -/
def write_mb (flvpic : PICTURE) (vop : M4V_VOP) (dcpred : M4V_DCPRED) (bw : BW) (x y : ℕ) :
    Reader (ℤ × M4V_DCPRED × BW) := do
  if vop.picture_type = M4V_I_TYPE then
    let (r, mb) ← decode_I_mb { MICROBLOCK.zero with intra := true } flvpic.escape_type
    if r < 0 then return (-1, dcpred, bw)
    else
      let mb := copy_microblock { mb with qscale := vop.qscale }
      let coded := m4v_encode_I_dcpred mb dcpred x y
      return (0, coded.2, m4v_encode_I_mb T bw coded.1)
  else
    let (r, mb) ← decode_P_mb MICROBLOCK.zero flvpic.escape_type
    if r < 0 then return (-1, dcpred, bw)
    else
      let mb := copy_microblock { mb with qscale := vop.qscale }
      let coded := m4v_encode_I_dcpred mb dcpred x y
      return (0, coded.2, m4v_encode_P_mb T bw coded.1)

/-- The loops over `y` and `x`, as one loop over the positions. -/
def write_mbs (flvpic : PICTURE) (vop : M4V_VOP) :
    List (ℕ × ℕ) → M4V_DCPRED → BW → Reader (ℤ × M4V_DCPRED × BW)
  | [], dcpred, bw => return (0, dcpred, bw)
  | (x, y) :: ps, dcpred, bw => do
    let (r, dcpred, bw) ← write_mb T flvpic vop dcpred bw x y
    if r < 0 then return (-1, dcpred, bw)
    else write_mbs flvpic vop ps dcpred bw

/-- The positions in the order of the loops, row by row. -/
def mbPositions (mb_width mb_height : ℕ) : List (ℕ × ℕ) :=
  (List.range mb_height).flatMap fun y => (List.range mb_width).map fun x => (x, y)

def write_m4v_picture_frame (c : CONVCTX) (bw : BW) (flvpic : PICTURE) :
    Reader (ℤ × CONVCTX × BW) := do
  let mb_width := (flvpic.width + 15) / 16
  let mb_height := (flvpic.height + 15) / 16
  let vop := copy_vop flvpic c
  let bw := encode_vop_header bw vop VOL_TIME_BITS
  let (r, dcpred, bw) ← write_mbs T flvpic vop (mbPositions mb_width mb_height) c.vol.dcpred bw
  let c := { c with vol := { c.vol with dcpred := dcpred } }
  if r < 0 then return (-1, c, bw)
  else
    let bw := flash_bw (m4v_stuffing bw)
    return (0, { c with frame := c.frame + 1, icounter := c.icounter + 1 }, bw)

/-- What `write_m4v_frame` does to the context before it converts the picture. -/
def enterPicture (c : CONVCTX) (picture : PICTURE) : CONVCTX :=
  let c := { c with vol := copy_vol picture c.vol }
  if picture.picture_type = FLV_I_TYPE then { c with icounter := 0, first_m4v_header := false }
  else c

/-- The VOL header goes out with the first I picture. -/
def writesVol (c : CONVCTX) (picture : PICTURE) : Bool :=
  picture.picture_type = FLV_I_TYPE && c.first_m4v_header

def write_m4v_frame (c : CONVCTX) (bw : BW) : Reader (ℤ × CONVCTX × BW) := do
  let c := { c with vol := { c.vol with dcpred := init_dcpred c.vol.dcpred } }
  match ← decode_picture_header with
  | none => return (-1, c, bw)
  | some picture =>
    if c.width ≠ picture.width ∨ c.height ≠ picture.height then return (-1, c, bw)
    else
      let bw := if writesVol c picture then m4v_encode_m4v_header bw (copy_vol picture c.vol) else bw
      write_m4v_picture_frame T (enterPicture c picture) bw picture

/-- `f2m_process`: the return code, the output and the context. The return codes of
`init_m4v_header` and `write_m4v_frame` are dropped. -/
def f2m_process (ctx : CONVCTX) (f : Frame) : Option (ℤ × List (BitVec 8) × CONVCTX) := do
  let ctx ←
    if f.key && !ctx.header_written then do
      let r ← init_m4v_header ctx (init_bw PACKETBUFFER_SIZE) (init_br f.src f.src_size)
      some { r.1.2.1 with header_written := true }
    else some ctx
  if !ctx.header_written then some (1, [], ctx)
  else
    let r ← write_m4v_frame T ctx (init_bw PACKETBUFFER_SIZE) (init_br f.src f.src_size)
    some (0, r.1.2.2.buf, r.1.2.1)

end Converter

/-- Every word of the tables fits its length, which is at most 32. -/
structure EncTables.Fits (T : EncTables) : Prop where
  lum : ∀ i, T.uni_DCtab_lum_len i ≤ 32 ∧ T.uni_DCtab_lum_bits i < 2 ^ T.uni_DCtab_lum_len i
  chrom : ∀ i, T.uni_DCtab_chrom_len i ≤ 32 ∧ T.uni_DCtab_chrom_bits i < 2 ^ T.uni_DCtab_chrom_len i
  intra : ∀ i, T.uni_mpeg4_intra_rl_len i ≤ 32 ∧
    T.uni_mpeg4_intra_rl_bits i < 2 ^ T.uni_mpeg4_intra_rl_len i
  inter : ∀ i, T.uni_mpeg4_inter_rl_len i ≤ 32 ∧
    T.uni_mpeg4_inter_rl_bits i < 2 ^ T.uni_mpeg4_inter_rl_len i

/-- The words of the generated tables for a DC difference of 0 and for a last coefficient 1 without
a run; the other words are left empty. -/
def EncTables.sample : EncTables where
  uni_DCtab_lum_len i := if i = 256 then 3 else 0
  uni_DCtab_lum_bits i := if i = 256 then 3 else 0
  uni_DCtab_chrom_len i := if i = 256 then 2 else 0
  uni_DCtab_chrom_bits i := if i = 256 then 3 else 0
  uni_mpeg4_intra_rl_len i := if i = 8257 then 5 else 0
  uni_mpeg4_intra_rl_bits i := if i = 8257 then 14 else 0
  uni_mpeg4_inter_rl_len i := if i = 8257 then 5 else 0
  uni_mpeg4_inter_rl_bits i := if i = 8257 then 14 else 0

theorem EncTables.sample_fits : EncTables.sample.Fits := by
  have word {c : Prop} [Decidable c] {n v : ℕ} (hn : n ≤ 32) (hv : v < 2 ^ n) :
      (if c then n else 0) ≤ 32 ∧ (if c then v else 0) < 2 ^ (if c then n else 0) := by
    split
    · exact ⟨hn, hv⟩
    · exact ⟨Nat.zero_le 32, Nat.one_pos⟩
  exact ⟨fun _ => word (by decide) (by decide), fun _ => word (by decide) (by decide),
    fun _ => word (by decide) (by decide), fun _ => word (by decide) (by decide)⟩

/-- A recorded motion vector component: at most 24 bits, and at most one more. -/
structure VLCDEC.Fits (v : VLCDEC) : Prop where
  bits : v.bits ≤ 24
  value : v.value < 2 ^ v.bits
  bits_ex : v.bits_ex ≤ 1
  value_ex : v.value_ex < 2

/-- What the writers need of a macroblock. -/
structure MICROBLOCK.Fits (mb : MICROBLOCK) : Prop where
  last_index : ∀ i, (mb.block i).last_index < 64
  dquant : -2 ≤ mb.dquant ∧ mb.dquant ≤ 2
  mv_x : ∀ i, (mb.mv_x i).Fits
  mv_y : ∀ i, (mb.mv_y i).Fits

variable {T : EncTables}

/-! ## Blocks -/

def escapeBits (last : Bool) (run : ℕ) (level : ℤ) : List Bool :=
  natBits 7 3 ++ natBits 2 3 ++ natBits 1 last.toNat ++ natBits 6 run ++ natBits 1 1 ++
    natBits 12 (level % 0x1000).toNat ++ natBits 1 1

def coefBits (T : EncTables) (intra : Bool) (c : Bool × ℕ × ℤ) : List Bool :=
  if 0 ≤ c.2.2 + 64 ∧ c.2.2 + 64 ≤ 127 then
    let index := uniIndex c.1 c.2.1 (c.2.2 + 64).toNat
    if intra then natBits (T.uni_mpeg4_intra_rl_len index) (T.uni_mpeg4_intra_rl_bits index)
    else natBits (T.uni_mpeg4_inter_rl_len index) (T.uni_mpeg4_inter_rl_bits index)
  else escapeBits c.1 c.2.1 c.2.2

theorem encode_escape_3_writes (last : Bool) {run : ℕ} (hrun : run < 64) (level : ℤ) :
    Writes (encode_escape_3 · last run (level + 64)) (escapeBits last run level) := by
  have hlevel : ((level + 64 - 64) % 0x1000).toNat < 2 ^ 12 := by omega
  have h := (((((((put_bits_emits (n := 7) (v := 3) (by decide) (by decide)).comp
    (put_bits_emits (n := 2) (v := 3) (by decide) (by decide))).comp
    (put_bits_emits (n := 1) (v := last.toNat) (by decide) (by cases last <;> decide))).comp
    (put_bits_emits (n := 6) (v := run) (by decide) hrun)).comp
    (put_bits_emits (n := 1) (v := 1) (by decide) (by decide))).comp
    (put_bits_emits (n := 12) (by decide) hlevel)).comp
    (put_bits_emits (n := 1) (v := 1) (by decide) (by decide)))
  rw [Int.add_sub_cancel] at h
  refine Emits.congr ?_ rfl
  unfold encode_escape_3
  rw [Int.add_sub_cancel]
  exact h

theorem encode_coef_writes (hT : T.Fits) (intra : Bool) {c : Bool × ℕ × ℤ} (hrun : c.2.1 < 64) :
    Writes (encode_coef T intra · c) (coefBits T intra c) := by
  unfold encode_coef coefBits
  simp only
  by_cases h : 0 ≤ c.2.2 + 64 ∧ c.2.2 + 64 ≤ 127
  · simp only [h, and_self, if_true]
    cases intra with
    | true => exact put_bits_emits (hT.intra _).1 (hT.intra _).2
    | false => exact put_bits_emits (hT.inter _).1 (hT.inter _).2
  · simp only [h, if_false]
    exact encode_escape_3_writes c.1 hrun c.2.2

theorem ac_loop_run_lt (blk : ℕ → ℤ) {n i start : ℕ} (h : i + n < 64) :
    ∀ c ∈ ac_loop blk n i start, c.2.1 < 64 := by
  induction n generalizing i start with
  | zero =>
    intro c hc
    rw [ac_loop, List.mem_singleton] at hc
    subst hc
    show i - start < 64
    omega
  | succ n ih =>
    intro c hc
    rw [ac_loop] at hc
    split at hc
    · rcases List.mem_cons.mp hc with rfl | hc
      · show i - start < 64
        omega
      · exact ih (by omega) c hc
    · exact ih (by omega) c hc

def acBits (T : EncTables) (block : BLOCK) (intra : Bool) : List Bool :=
  (ac_triples block intra).flatMap (coefBits T intra)

theorem encode_AC_writes (hT : T.Fits) {block : BLOCK} (intra : Bool) (h : block.last_index < 64) :
    Writes (encode_AC T · block intra) (acBits T block intra) := by
  refine Emits.foldl fun c hc => encode_coef_writes hT intra ?_
  refine ac_loop_run_lt block.block ?_ c hc
  have : intra.toNat ≤ 1 := Bool.toNat_le intra
  omega

def dcBits (T : EncTables) (level : ℤ) (n : ℕ) : List Bool :=
  if n < 4 then natBits (T.uni_DCtab_lum_len (level + 256).toNat) (T.uni_DCtab_lum_bits (level + 256).toNat)
  else natBits (T.uni_DCtab_chrom_len (level + 256).toNat) (T.uni_DCtab_chrom_bits (level + 256).toNat)

theorem encode_DC_writes (hT : T.Fits) (level : ℤ) (n : ℕ) :
    Writes (encode_DC T · level n) (dcBits T level n) := by
  unfold encode_DC dcBits
  by_cases h : n < 4
  · simp only [h, if_true]
    exact put_bits_emits (hT.lum _).1 (hT.lum _).2
  · simp only [h, if_false]
    exact put_bits_emits (hT.chrom _).1 (hT.chrom _).2

/-! ## Macroblock headers -/

theorem vlcWord_zip {code bits : List ℕ} (h : code.length = bits.length) (c : ℕ) :
    vlcWord (code.zip bits) c = natBits (bits.getD c 0) (code.getD c 0) := by
  induction code generalizing bits c with
  | nil =>
    obtain rfl := List.length_eq_zero_iff.mp h.symm
    rfl
  | cons a code ih =>
    obtain _ | ⟨b, bits⟩ := bits
    · simp at h
    cases c with
    | zero => rfl
    | succ c => exact ih (by simpa using h) c

def wordsFit (code bits : List ℕ) : Bool :=
  code.length == bits.length && (code.zip bits).all fun w => decide (w.2 ≤ 32 ∧ w.1 < 2 ^ w.2)

theorem put_word_writes {code bits : List ℕ} (h : wordsFit code bits = true) (c : ℕ) :
    Writes (put_bits · (bits.getD c 0) (code.getD c 0)) (vlcWord (code.zip bits) c) := by
  rw [wordsFit, Bool.and_eq_true, beq_iff_eq, List.all_eq_true] at h
  obtain ⟨hlen, hall⟩ := h
  rw [vlcWord_zip hlen]
  have hfit : bits.getD c 0 ≤ 32 ∧ code.getD c 0 < 2 ^ bits.getD c 0 := by
    by_cases hc : c < code.length
    · have hmem : (code.getD c 0, bits.getD c 0) ∈ code.zip bits := by
        have hz : c < (code.zip bits).length := by rw [List.length_zip]; omega
        rw [List.getD_eq_getElem _ _ hc, List.getD_eq_getElem _ _ (hlen ▸ hc),
          ← List.getElem_zip (h := hz)]
        exact List.getElem_mem _
      exact of_decide_eq_true (hall _ hmem)
    · rw [List.getD_eq_default _ _ (by omega), List.getD_eq_default _ _ (by omega)]
      decide
  exact put_bits_emits hfit.1 hfit.2

theorem intra_MCBPC_fits : wordsFit vlce_intra_MCBPC_code vlce_intra_MCBPC_bits = true := by
  decide

theorem inter_MCBPC_fits : wordsFit vlce_inter_MCBPC_code vlce_inter_MCBPC_bits = true := by
  decide

theorem cbpy_fits : wordsFit vlce_cbpy_code vlce_cbpy_bits = true := by decide

/-- The two bits of `DQUANT`, where there are any. -/
def dquantBits (dquant : ℤ) : List Bool :=
  if dquant ≠ 0 then natBits 2 ([1, 0, 0xffffffff, 2, 3].getD (dquant + 2).toNat 0) else []

theorem encode_dquant_writes {dquant : ℤ} (h : -2 ≤ dquant ∧ dquant ≤ 2) :
    Writes (encode_dquant · dquant) (dquantBits dquant) := by
  unfold encode_dquant dquantBits
  by_cases h0 : dquant = 0
  · simp only [h0, ne_eq, not_true_eq_false, if_false]
    exact Emits.id
  · simp only [ne_eq, h0, not_false_eq_true, if_true]
    have hcases : dquant = -2 ∨ dquant = -1 ∨ dquant = 1 ∨ dquant = 2 := by omega
    refine put_bits_emits (by decide) ?_
    rcases hcases with rfl | rfl | rfl | rfl <;> decide

/-- The bits of a motion vector component. -/
def mvBits (v : VLCDEC) : List Bool :=
  natBits v.bits v.value ++ if v.bits_ex ≠ 0 then natBits 1 v.value_ex else []

theorem encode_motion_component_writes {v : VLCDEC} (hv : v.Fits) :
    Writes (encode_motion_component · v) (mvBits v) := by
  have hb := hv.bits
  have hex := hv.bits_ex
  have hput : Writes (put_vlcdec · v) (natBits v.bits v.value) := put_bits_emits (by omega) hv.value
  unfold encode_motion_component mvBits
  by_cases h0 : v.bits_ex = 0
  · simp only [h0, ne_eq, not_true_eq_false, if_false]
    exact hput.comp Emits.id
  · have h1 : v.bits_ex = 1 := by omega
    have hmod : v.value_ex % 2 = v.value_ex := Nat.mod_eq_of_lt hv.value_ex
    simp only [h1, ne_eq, one_ne_zero, not_false_eq_true, if_true, lt_irrefl, if_false, hmod]
    exact hput.comp (put_bits_emits (by decide) hv.value_ex)

/-- The bits of vector `i`. -/
def motionBits (mb : MICROBLOCK) (i : ℕ) : List Bool := mvBits (mb.mv_x i) ++ mvBits (mb.mv_y i)

variable {mb : MICROBLOCK}

theorem encode_motion_writes (h : mb.Fits) (i : ℕ) :
    Writes (encode_motion · (mb.mv_x i) (mb.mv_y i)) (motionBits mb i) :=
  (encode_motion_component_writes (h.mv_x i)).comp (encode_motion_component_writes (h.mv_y i))

/-- The vectors that `mv_type` says are there. -/
def mvIndices : MvType → List ℕ
  | .MV_TYPE_16X16 => [0]
  | .MV_TYPE_8X8 => [0, 1, 2, 3]

def interMcbpc (mb : MICROBLOCK) : ℕ :=
  (mbCbp mb 0 &&& 3) + (if mb.dquant ≠ 0 then 8 else 0) +
    match mb.mv_type with
    | .MV_TYPE_16X16 => 0
    | .MV_TYPE_8X8 => 16

/-- The header of an inter macroblock, without `COD`. -/
def interHeaderBits (mb : MICROBLOCK) : List Bool :=
  vlcWord interMcbpcWords (interMcbpc mb) ++ vlcWord cbpyWords ((mbCbp mb 0 >>> 2) ^^^ 0xF) ++
    dquantBits mb.dquant ++ (mvIndices mb.mv_type).flatMap (motionBits mb)

/-- What follows the MCBPC word of an intra macroblock: no AC prediction, CBPY and DQUANT. -/
def intraTailBits (mb : MICROBLOCK) : List Bool :=
  [false] ++ vlcWord cbpyWords (mbCbp mb 1 >>> 2) ++ dquantBits mb.dquant

/-- The number of the intra MCBPC word in an I picture, -/
def intraMcbpcI (mb : MICROBLOCK) : ℕ := (mbCbp mb 1 &&& 3) + if mb.dquant ≠ 0 then 4 else 0

/-- and in a P picture. -/
def intraMcbpcP (mb : MICROBLOCK) : ℕ := (mbCbp mb 1 &&& 3) + (if mb.dquant ≠ 0 then 8 else 0) + 4

/-- The header of a macroblock of an I picture. -/
def iHeaderBits (mb : MICROBLOCK) : List Bool :=
  vlcWord intraMcbpcWords (intraMcbpcI mb) ++ intraTailBits mb

/-- The header of a macroblock of a P picture. -/
def pHeaderBits (mb : MICROBLOCK) : List Bool :=
  if mb.skip then [true]
  else if mb.intra then [false] ++ vlcWord interMcbpcWords (intraMcbpcP mb) ++ intraTailBits mb
  else [false] ++ interHeaderBits mb

/-! ## Macroblocks -/

/-- The bits of the six blocks of an intra macroblock, -/
def intraBlocksBits (T : EncTables) (mb : MICROBLOCK) : List Bool :=
  [0, 1, 2, 3, 4, 5].flatMap fun i =>
    dcBits T ((mb.block i).block 0) i ++ acBits T (mb.block i) true

/-- and of an inter macroblock. -/
def interBlocksBits (T : EncTables) (mb : MICROBLOCK) : List Bool :=
  [0, 1, 2, 3, 4, 5].flatMap fun i => acBits T (mb.block i) false

theorem intraBlocks_writes (hT : T.Fits) (h : mb.Fits) :
    Writes (fun p => [0, 1, 2, 3, 4, 5].foldl (fun p i => encode_intra_block T p (mb.block i) i) p)
      (intraBlocksBits T mb) :=
  Emits.foldl fun i _ =>
    (encode_DC_writes hT _ _).comp (encode_AC_writes hT true (h.last_index i))

theorem interBlocks_writes (hT : T.Fits) (h : mb.Fits) :
    Writes (fun p => [0, 1, 2, 3, 4, 5].foldl (fun p i => encode_inter_block T p (mb.block i)) p)
      (interBlocksBits T mb) :=
  Emits.foldl fun i _ => encode_AC_writes hT false (h.last_index i)

theorem intra_tail_writes (hT : T.Fits) (h : mb.Fits) :
    Writes (fun p => [0, 1, 2, 3, 4, 5].foldl (fun p i => encode_intra_block T p (mb.block i) i)
        (encode_dquant (encode_cbpy (put_zero_bits p 1) (mbCbp mb 1 >>> 2)) mb.dquant))
      (intraTailBits mb ++ intraBlocksBits T mb) :=
  (((put_zero_bits_emits (n := 1) (by decide)).comp (put_word_writes cbpy_fits _)).comp
    (encode_dquant_writes h.dquant)).comp (intraBlocks_writes hT h)

theorem m4v_encode_I_mb_writes (hT : T.Fits) (h : mb.Fits) :
    Writes (m4v_encode_I_mb T · mb) (iHeaderBits mb ++ intraBlocksBits T mb) := by
  have hw := (put_word_writes intra_MCBPC_fits (intraMcbpcI mb)).comp (intra_tail_writes hT h)
  rw [← List.append_assoc] at hw
  have hidx : (if mb.dquant ≠ 0 then (mbCbp mb 1 &&& 3) + 4 else mbCbp mb 1 &&& 3) = intraMcbpcI mb := by
    unfold intraMcbpcI
    split <;> rfl
  unfold m4v_encode_I_mb encode_mb_intra_internal
  simp only [if_true, hidx]
  exact hw

theorem m4v_encode_P_mb_writes (hT : T.Fits) (h : mb.Fits) :
    Writes (m4v_encode_P_mb T · mb) (pHeaderBits mb ++
      if mb.skip then [] else if mb.intra then intraBlocksBits T mb else interBlocksBits T mb) := by
  unfold m4v_encode_P_mb pHeaderBits
  cases hskip : mb.skip with
  | true =>
    simp only [if_true, List.append_nil]
    exact put_bits_emits (by decide) (by decide)
  | false =>
    simp only [Bool.false_eq_true, if_false]
    have hcod := put_zero_bits_emits (n := 1) (by decide)
    cases hintra : mb.intra with
    | true =>
      have hw := (hcod.comp (put_word_writes inter_MCBPC_fits (intraMcbpcP mb))).comp
        (intra_tail_writes hT h)
      rw [← List.append_assoc] at hw
      have hidx : (if mb.dquant ≠ 0 then (mbCbp mb 1 &&& 3) + 8 else mbCbp mb 1 &&& 3) + 4 =
          intraMcbpcP mb := by
        unfold intraMcbpcP
        split <;> rfl
      unfold encode_mb_intra_internal encode_intra_P_MCBPC
      simp only [if_true, Bool.false_eq_true, if_false, hidx]
      exact hw
    | false =>
      have hw := (((hcod.comp (put_word_writes inter_MCBPC_fits (interMcbpc mb))).comp
        (put_word_writes cbpy_fits ((mbCbp mb 0 >>> 2) ^^^ 0xF))).comp
        (encode_dquant_writes h.dquant)).comp
        (Emits.foldl fun i (_ : i ∈ mvIndices mb.mv_type) => encode_motion_writes h i)
      have hw := hw.comp (interBlocks_writes hT h)
      refine Emits.congr ?_ (L := [false] ++ vlcWord interMcbpcWords (interMcbpc mb) ++
        vlcWord cbpyWords ((mbCbp mb 0 >>> 2) ^^^ 0xF) ++ dquantBits mb.dquant ++
        (mvIndices mb.mv_type).flatMap (motionBits mb) ++ interBlocksBits T mb) ?_
      · have hidx : (if mb.dquant ≠ 0 then (mbCbp mb 0 &&& 3) + 8 else mbCbp mb 0 &&& 3) =
            (mbCbp mb 0 &&& 3) + if mb.dquant ≠ 0 then 8 else 0 := by
          split <;> rfl
        unfold encode_mb_inter_internal
        unfold interMcbpc at hw ⊢
        simp only [Bool.false_eq_true, if_false, hidx]
        cases hmv : mb.mv_type with
        | MV_TYPE_16X16 | MV_TYPE_8X8 =>
          rw [hmv] at hw
          exact hw
      · simp only [interHeaderBits, if_false, Bool.false_eq_true, List.append_assoc]

/-! ## Headers -/

theorem put_zero_bits_normal {p : BW} (hp : p.Normal) {n : ℕ} (hn : n ≤ 32) :
    (put_zero_bits p n).Normal :=
  (put_zero_bits_emits hn p hp).1

/-- **The headers of the first I picture leave the writer normal**, also where the size of the
picture does not fit its 13 bits. -/
theorem m4v_encode_m4v_header_normal {p : BW} (hp : p.Normal) (vol : M4V_VOL) :
    (m4v_encode_m4v_header p vol).Normal := by
  have vo : (encode_vo_header p).Normal := by
    simp only [encode_vo_header]
    with_reducible refine (m4v_stuffing_normal ?_).1
    repeat' with_reducible first
      | refine put_bits_normal ?_ (by decide)
      | refine put_zero_bits_normal ?_ (by decide)
      | exact hp
  have volh {q : BW} (hq : q.Normal) : (encode_vol_header q vol).Normal := by
    simp only [encode_vol_header]
    split
    on_goal 2 => with_reducible refine (m4v_stuffing_normal ?_).1
    all_goals repeat' with_reducible first
      | refine put_bits_normal ?_ (by decide)
      | refine put_zero_bits_normal ?_ (by decide)
      | exact hq
  simp only [m4v_encode_m4v_header, encode_user_header, List.foldl_cons, List.foldl_nil]
  with_reducible refine (m4v_stuffing_normal ?_).1
  repeat' with_reducible first
    | refine put_bits_normal ?_ (by decide)
    | refine put_zero_bits_normal ?_ (by decide)
    | exact volh vo

theorem put_time_base_writes (n : ℕ) : Writes (put_time_base · n) (List.replicate n true) := by
  induction n with
  | zero => exact Emits.id
  | succ n ih => exact (put_bits_emits (n := 1) (v := 1) (by decide) (by decide)).comp ih

/-- The ones of `modulo_time_base`: seconds since the last VOP. -/
def timeBase (vop : M4V_VOP) : ℕ := if vop.time ≠ 0 then 0 else vop.icount

/-- The bits of a VOP header up to `vop_coded`, -/
def vopStartBits (vop : M4V_VOP) (time_bits : ℕ) : List Bool :=
  List.replicate 16 false ++ natBits 16 VOP_STARTCODE ++ natBits 2 vop.picture_type ++
    List.replicate (timeBase vop) true ++ [false] ++ [true] ++ natBits time_bits vop.time ++ [true] ++
    [true]

/-- and the rest of them. -/
def vopEndBits (vop : M4V_VOP) : List Bool :=
  (if vop.picture_type = M4V_P_TYPE then natBits 1 vop.rounding_type else []) ++
    List.replicate 3 false ++ natBits 5 vop.qscale ++
    (if vop.picture_type ≠ M4V_I_TYPE then natBits 3 vop.f_code else []) ++
    (if vop.picture_type = M4V_B_TYPE then natBits 3 vop.b_code else [])

/-- The fields of a VOP fit the header. -/
structure M4V_VOP.Fits (vop : M4V_VOP) (time_bits : ℕ) : Prop where
  picture_type : vop.picture_type < 4
  time : vop.time < 2 ^ time_bits
  rounding_type : vop.rounding_type < 2
  qscale : vop.qscale < 32
  f_code : vop.f_code < 8
  b_code : vop.b_code < 8

theorem writes_ite {c : Prop} [Decidable c] {f : BW → BW} {L : List Bool} (h : Writes f L) :
    Writes (fun p => if c then f p else p) (if c then L else []) := by
  split
  · exact h
  · exact Emits.id

theorem encode_vop_header_writes {vop : M4V_VOP} {time_bits : ℕ} (ht : time_bits ≤ 32)
    (h : vop.Fits time_bits) :
    Writes (encode_vop_header · vop time_bits) (vopStartBits vop time_bits ++ vopEndBits vop) := by
  have one := put_bits_emits (n := 1) (v := 1) (by decide) (by decide)
  have start := ((((((((put_zero_bits_emits (n := 16) (by decide)).comp
    (put_bits_emits (n := 16) (v := VOP_STARTCODE) (by decide) (by decide))).comp
    (put_bits_emits (n := 2) (by decide) h.picture_type)).comp
    (put_time_base_writes (timeBase vop))).comp (put_zero_bits_emits (n := 1) (by decide))).comp
    one).comp (put_bits_emits ht h.time)).comp one).comp one
  have tail := ((((writes_ite (c := vop.picture_type = M4V_P_TYPE)
    (put_bits_emits (n := 1) (by decide) h.rounding_type)).comp
    (put_zero_bits_emits (n := 3) (by decide))).comp
    (put_bits_emits (n := 5) (by decide) h.qscale)).comp
    (writes_ite (c := vop.picture_type ≠ M4V_I_TYPE)
      (put_bits_emits (n := 3) (by decide) h.f_code))).comp
    (writes_ite (c := vop.picture_type = M4V_B_TYPE)
      (put_bits_emits (n := 3) (by decide) h.b_code))
  exact start.comp tail

end ArchosGpl.F2m
