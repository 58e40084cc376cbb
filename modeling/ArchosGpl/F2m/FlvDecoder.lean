import ArchosGpl.F2m.Tables

/-!
# The FLV (Sorenson H.263) decoder (`flvdecoder.c`, `flv.h`)

Pictures and macroblocks are read into `PICTURE` and `MICROBLOCK`. A decoding function returns the
source's return code with the structure it has filled in, since callers go on with both: the return
codes of `decode_motion`, `decode_intra_mb_internal` and `decode_inter_mb_internal` are dropped, as
in the source.

Left out: the `printf` calls, `BLOCK.index` and `MICROBLOCK.ac_pred` (nothing reads them), and the
sum of the quantiser and `DQUANT` that `decode_intra_mb_internal` and `decode_inter_mb_internal`
form in a local variable and never read.
-/

open Function (update)

namespace ArchosGpl.F2m

open Lib

/-- `BLOCK`: 64 coefficients in raster order, and the scan index of the last one. -/
structure BLOCK where
  block : ℕ → ℤ
  last_index : ℤ

inductive MvType
  | MV_TYPE_16X16
  | MV_TYPE_8X8
  deriving DecidableEq, Repr

structure MICROBLOCK where
  block : ℕ → BLOCK
  qscale : ℤ
  dquant : ℤ
  intra : Bool
  skip : Bool
  mv_type : MvType
  mv_x : ℕ → VLCDEC
  mv_y : ℕ → VLCDEC

structure PICTURE where
  width : ℕ
  height : ℕ
  picture_type : ℕ
  escape_type : ℕ
  qscale : ℕ
  frame_number : ℕ
  deriving DecidableEq, Repr

def FLV_I_TYPE : ℕ := 0

/-- A structure after `memset(.., 0, ..)`. -/
def VLCDEC.zero : VLCDEC := ⟨0, 0, 0, 0⟩

def BLOCK.zero : BLOCK := ⟨fun _ => 0, 0⟩

def MICROBLOCK.zero : MICROBLOCK :=
  ⟨fun _ => BLOCK.zero, 0, 0, false, false, .MV_TYPE_16X16, fun _ => VLCDEC.zero, fun _ => VLCDEC.zero⟩

def PICTURE.zero : PICTURE := ⟨0, 0, 0, 0, 0, 0⟩

/-- `block->block[i] = level`. -/
def BLOCK.set (b : BLOCK) (i : ℕ) (level : ℤ) : BLOCK :=
  { b with block := update b.block i level }

/-- `mb->block[i] = b`. -/
def MICROBLOCK.setBlock (mb : MICROBLOCK) (i : ℕ) (b : BLOCK) : MICROBLOCK :=
  { mb with block := update mb.block i b }

theorem BLOCK.set_block (b : BLOCK) (i : ℕ) (level : ℤ) :
    (b.set i level).block = update b.block i level := rfl

theorem MICROBLOCK.setBlock_block (mb : MICROBLOCK) (i : ℕ) (b : BLOCK) :
    (mb.setBlock i b).block = update mb.block i b := rfl

/-- `zig_zag_scan[i]`. -/
def zigZag (i : ℕ) : ℕ := zig_zag_scan.getD i 0

/-! ## Blocks -/

def decode_DC : Reader ℤ := do
  let level ← get_bits 8
  if level &&& 0x7f = 0 then return -1
  else if level = 255 then return 128
  else return level

/-- One round of the loop of `decode_AC`: `last`, `run` and `level`, or `none` for an invalid code. -/
def decode_coef (escape_type : ℕ) : Reader (Option (Bool × ℕ × ℤ)) := do
  let code ← get_vlc vlc_table_rl_inter 9 2
  if code < 0 then return none
  else if code = rl_inter_n then
    if escape_type = 1 then
      let is11bit ← get_bits 1
      let last ← get_bits 1
      let run ← get_bits 6
      let level ← if is11bit ≠ 0 then get_sbits 11 else get_sbits 7
      return some (last ≠ 0, run, level)
    else
      let last ← get_bits 1
      let run ← get_bits 6
      let level ← get_bits 8
      -- `sign` is computed here and not used: the level is never negated
      return some (last ≠ 0, run, if 128 ≤ level then 256 - (level : ℤ) else level)
  else
    let run := rl_inter_run.getD code.toNat 0
    let level := rl_inter_level.getD code.toNat 0
    let sign ← get_bits 1
    return some (rl_inter_last ≤ code, run, if sign ≠ 0 then -level else level)

/-- The loop of `decode_AC`; `i` is the scan index the next run starts from. -/
def decode_AC_loop (escape_type : ℕ) : ℕ → BLOCK → ℕ → Reader (ℤ × BLOCK)
  | 0, block, _ => return (-1, block)
  | fuel + 1, block, i => do
    match ← decode_coef escape_type with
    | none => return (-1, block)
    | some (last, run, level) =>
      if 64 ≤ i + run then return (-1, block)
      else
        let block := block.set (zigZag (i + run)) level
        if last then return (0, { block with last_index := (i + run : ℕ) })
        else decode_AC_loop escape_type fuel block (i + run + 1)

/-- `decode_AC`. Each round moves `i` on, and `i` stays below 64: 65 rounds are never used up. -/
def decode_AC (block : BLOCK) (escape_type i : ℕ) : Reader (ℤ × BLOCK) :=
  decode_AC_loop escape_type (65 - i) block i

def decode_intra_block (block : BLOCK) (escape_type : ℕ) (coded : Bool) : Reader (ℤ × BLOCK) := do
  let level ← decode_DC
  if level < 0 then return (-1, block)
  else
    let block := { block.set 0 level with last_index := 0 }
    if !coded then return (0, block)
    else decode_AC block escape_type 1

def decode_inter_block (block : BLOCK) (escape_type : ℕ) (coded : Bool) : Reader (ℤ × BLOCK) := do
  let block := { block with last_index := -1 }
  if !coded then return (0, block)
  else decode_AC block escape_type 0

/-! ## Macroblock headers -/

def get_intra_MCBPC : Reader ℤ := loop do
  let cbpc ← get_vlc vlc_table_intra_MCBPC 6 2
  if cbpc < 0 then return some (-1)
  else if cbpc = 8 then return none
  else return some cbpc

def get_inter_MCBPC : Reader ℤ := loop do
  let cod ← get_bits 1
  if cod ≠ 0 then return some (-2)
  else
    let cbpc ← get_vlc vlc_table_inter_MCBPC 7 2
    if cbpc < 0 then return some (-1)
    else if cbpc = 20 then return none
    else return some cbpc

def get_cbpy : Reader ℤ := get_vlc vlc_table_cbpy 6 1

def decode_dquant : Reader ℤ := do
  let i ← get_bits 2
  return [-1, -2, 1, 2].getD i 0

def decode_motion (vlcdec : VLCDEC) : Reader (ℤ × VLCDEC) := do
  let (code, vlcdec) ← get_vlcdec vlc_table_mv 9 2 vlcdec
  let vlcdec := { vlcdec with bits_ex := 0 }
  if code = 0 then return (0, vlcdec)
  else if code < 0 then return (-1, vlcdec)
  else
    let tmp ← get_bits 1
    return (0, { vlcdec with bits_ex := 1, value_ex := tmp })

/-- The two calls of `decode_motion` for vector `i`; both return codes are dropped. -/
def decode_mv (i : ℕ) (mb : MICROBLOCK) : Reader MICROBLOCK := do
  let (_, x) ← decode_motion (mb.mv_x i)
  let (_, y) ← decode_motion (mb.mv_y i)
  return { mb with mv_x := update mb.mv_x i x, mv_y := update mb.mv_y i y }

/-- The vectors of the macroblock, and `mv_type`. -/
def decode_mvs (cbpc : ℕ) (mb : MICROBLOCK) : Reader MICROBLOCK := do
  if cbpc &&& 16 = 0 then
    let mb ← decode_mv 0 mb
    return { mb with mv_type := .MV_TYPE_16X16 }
  else
    let mb ← decode_mv 0 mb
    let mb ← decode_mv 1 mb
    let mb ← decode_mv 2 mb
    let mb ← decode_mv 3 mb
    return { mb with mv_type := .MV_TYPE_8X8 }

/-! ## Macroblocks -/

/-- `if (dquant) mb->dquant = decode_dquant(p)`. -/
def decode_mb_dquant (dquant : ℕ) (mb : MICROBLOCK) : Reader MICROBLOCK := do
  if dquant ≠ 0 then
    let d ← decode_dquant
    return { mb with dquant := d }
  else return mb

/-- The loop over the blocks: block `i` is coded where bit 5 of `cbp` is set, `cbp += cbp`. -/
def decode_blocks (decode : BLOCK → Bool → Reader (ℤ × BLOCK)) :
    List ℕ → ℕ → MICROBLOCK → Reader (ℤ × MICROBLOCK)
  | [], _, mb => return (0, mb)
  | i :: is, cbp, mb => do
    let (r, b) ← decode (mb.block i) (cbp &&& 32 ≠ 0)
    if r ≠ 0 then return (-1, mb.setBlock i b)
    else decode_blocks decode is (cbp + cbp) (mb.setBlock i b)

def decode_intra_mb_internal (mb : MICROBLOCK) (escape_type cbpc dquant : ℕ) :
    Reader (ℤ × MICROBLOCK) := do
  let cbpy ← get_cbpy
  if cbpy < 0 then return (-1, mb)
  else
    let cbp := (cbpc &&& 3) ||| (cbpy.toNat <<< 2)
    let mb ← decode_mb_dquant dquant mb
    decode_blocks (decode_intra_block · escape_type ·) [0, 1, 2, 3, 4, 5] cbp mb

def decode_inter_mb_internal (mb : MICROBLOCK) (escape_type cbpc dquant : ℕ) :
    Reader (ℤ × MICROBLOCK) := do
  let cbpy ← get_cbpy
  if cbpy < 0 then return (-1, mb)
  else
    let cbp := (cbpc &&& 3) ||| ((cbpy.toNat ^^^ 0xF) <<< 2)
    let mb ← decode_mb_dquant dquant mb
    let mb ← decode_mvs cbpc mb
    decode_blocks (decode_inter_block · escape_type ·) [0, 1, 2, 3, 4, 5] cbp mb

def decode_I_mb (mb : MICROBLOCK) (escape_type : ℕ) : Reader (ℤ × MICROBLOCK) := do
  let cbpc ← get_intra_MCBPC
  if cbpc < 0 then return (-1, mb)
  else
    let (_, mb) ← decode_intra_mb_internal mb escape_type cbpc.toNat (cbpc.toNat &&& 4)
    return (0, mb)

def decode_P_mb (mb : MICROBLOCK) (escape_type : ℕ) : Reader (ℤ × MICROBLOCK) := do
  let cbpc ← get_inter_MCBPC
  if cbpc = -1 then return (-1, mb)
  else if cbpc = -2 then return (0, { mb with skip := true })
  else
    let dquant := cbpc.toNat &&& 8
    let mb := { mb with skip := false }
    if cbpc.toNat &&& 4 ≠ 0 then
      let (_, mb) ← decode_intra_mb_internal { mb with intra := true } escape_type cbpc.toNat dquant
      return (0, mb)
    else
      let (_, mb) ← decode_inter_mb_internal { mb with intra := false } escape_type cbpc.toNat dquant
      return (0, mb)

/-! ## The picture header -/

/-- The sizes of the formats; `none` is the size error. -/
def decode_picture_size (format : ℕ) : Reader (Option (ℕ × ℕ)) :=
  match format with
  | 0 => do
    let width ← get_bits 8
    let height ← get_bits 8
    return some (width, height)
  | 1 => do
    let width ← get_bits 16
    let height ← get_bits 16
    return some (width, height)
  | 2 => return some (352, 288)
  | 3 => return some (176, 144)
  | 4 => return some (128, 96)
  | 5 => return some (320, 240)
  | 6 => return some (160, 120)
  | _ => return none

/-- The extra insertion bytes: a one and eight bits, until a zero. -/
def skip_extra_insertion : Reader Unit := loop do
  let pei ← get_bits 1
  if pei ≠ 0 then
    flash_bits 8
    return none
  else return some ()

/-- `decode_picture_header`, from a zeroed `PICTURE`; `none` is the return code `-1`. -/
def decode_picture_header : Reader (Option PICTURE) := do
  let start ← get_bits 17
  if start ≠ 1 then return none
  else
    let escape_type ← get_bits 5
    if escape_type ≠ 0 ∧ escape_type ≠ 1 then return none
    else
      let frame_number ← get_bits 8
      let format ← get_bits 3
      match ← decode_picture_size format with
      | none => return none
      | some (width, height) =>
        let picture_type ← get_bits 2
        let _deblocking ← get_bits 1
        let qscale ← get_bits 5
        skip_extra_insertion
        return some ⟨width, height, picture_type, escape_type, qscale, frame_number⟩

/-! ## The loops -/

theorem decode_AC_loop_fuel (escape_type : ℕ) {fuel fuel' : ℕ} {block : BLOCK} {i : ℕ} (hi : i ≤ 64)
    (h : 65 ≤ fuel + i) (h' : 65 ≤ fuel' + i) :
    decode_AC_loop escape_type fuel block i = decode_AC_loop escape_type fuel' block i := by
  induction fuel generalizing fuel' block i with
  | zero => omega
  | succ fuel ih =>
    obtain _ | fuel' := fuel'
    · omega
    unfold decode_AC_loop
    congr 1
    funext r
    match r with
    | none => rfl
    | some (last, run, level) =>
      simp only
      by_cases hr : 64 ≤ i + run
      · rw [if_pos hr, if_pos hr]
      · rw [if_neg hr, if_neg hr]
        cases last with
        | false => exact ih (by omega) (by omega) (by omega)
        | true => rfl

/-- **The equation of the loop of `decode_AC`.** -/
theorem decode_AC_unfold (block : BLOCK) (escape_type : ℕ) {i : ℕ} (hi : i ≤ 64) :
    decode_AC block escape_type i = (decode_coef escape_type >>= fun r => match r with
      | none => pure (-1, block)
      | some (last, run, level) =>
        if 64 ≤ i + run then pure (-1, block)
        else if last then
          pure (0, { block.set (zigZag (i + run)) level with last_index := (i + run : ℕ) })
        else decode_AC (block.set (zigZag (i + run)) level) escape_type (i + run + 1)) := by
  rw [decode_AC, show 65 - i = (64 - i) + 1 by omega, decode_AC_loop]
  congr 1
  funext r
  match r with
  | none => rfl
  | some (last, run, level) =>
    simp only
    by_cases hr : 64 ≤ i + run
    · rw [if_pos hr, if_pos hr]
    · rw [if_neg hr, if_neg hr]
      cases last with
      | false => exact decode_AC_loop_fuel escape_type (by omega) (by omega) (by omega)
      | true => rfl

theorem get_vlc_reads_word {table : List VLCtab} {bits max_depth : ℕ} {words : List (ℕ × ℕ)}
    (h : vlcDecodes table bits max_depth words = true) (hb : bits ≤ 25) {p q : BR} {c : ℤ}
    (hg : get_vlc table bits max_depth p = some (c, q)) (hc : 0 ≤ c) :
    ∃ L ≠ [], p.Reads L q := by
  obtain ⟨hused, hr⟩ := get_vlc_word h hb hg hc
  refine ⟨_, fun hnil => ?_, hr⟩
  have := congrArg List.length hnil
  rw [vlcWord, natBits_length, List.length_nil] at this
  omega

theorem get_intra_MCBPC_unfold : get_intra_MCBPC = (do
    let cbpc ← get_vlc vlc_table_intra_MCBPC 6 2
    if cbpc < 0 then return -1
    else if cbpc = 8 then get_intra_MCBPC
    else return cbpc) := by
  conv_lhs => rw [get_intra_MCBPC]
  rw [loop_eq, bind_assoc]
  · congr 1
    funext cbpc
    split
    · rfl
    · split <;> rfl
  · intro p q h
    obtain ⟨cbpc, p₁, hg, h⟩ := bind_eq_some.mp h
    split at h
    · cases pure_eq_some.mp h with | intro h => cases h
    · obtain ⟨L, hL, hr⟩ := get_vlc_reads_word intra_MCBPC_decodes (by decide) hg (by omega)
      split at h
      · obtain ⟨-, rfl⟩ := pure_eq_some.mp h
        exact hr.advances hL
      · cases pure_eq_some.mp h with | intro h => cases h

theorem get_inter_MCBPC_unfold : get_inter_MCBPC = (do
    let cod ← get_bits 1
    if cod ≠ 0 then return -2
    else
      let cbpc ← get_vlc vlc_table_inter_MCBPC 7 2
      if cbpc < 0 then return -1
      else if cbpc = 20 then get_inter_MCBPC
      else return cbpc) := by
  conv_lhs => rw [get_inter_MCBPC]
  rw [loop_eq, bind_assoc]
  · congr 1
    funext cod
    split
    · rfl
    · rw [bind_assoc]
      congr 1
      funext cbpc
      split
      · rfl
      · split <;> rfl
  · intro p q h
    obtain ⟨cod, p₁, hb, h⟩ := bind_eq_some.mp h
    obtain ⟨L, hL, -, hr⟩ := get_bits_reads (by decide) hb
    split at h
    · cases pure_eq_some.mp h with | intro h => cases h
    · obtain ⟨cbpc, p₂, hg, h⟩ := bind_eq_some.mp h
      split at h
      · cases pure_eq_some.mp h with | intro h => cases h
      · obtain ⟨L', hL', hr'⟩ := get_vlc_reads_word inter_MCBPC_decodes (by decide) hg (by omega)
        split at h
        · obtain ⟨-, rfl⟩ := pure_eq_some.mp h
          exact (hr.trans hr').advances (by simp [hL'])
        · cases pure_eq_some.mp h with | intro h => cases h

theorem skip_extra_insertion_unfold : skip_extra_insertion = (do
    let pei ← get_bits 1
    if pei ≠ 0 then
      flash_bits 8
      skip_extra_insertion
    else return ()) := by
  conv_lhs => rw [skip_extra_insertion]
  rw [loop_eq, bind_assoc]
  · congr 1
    funext pei
    split <;> rfl
  · intro p q h
    obtain ⟨pei, p₁, hb, h⟩ := bind_eq_some.mp h
    obtain ⟨L, hL, -, hr⟩ := get_bits_reads (by decide) hb
    have hne : L ≠ [] := fun hnil => by rw [hnil] at hL; cases hL
    obtain ⟨hbuf, hlt, hend⟩ := hr.advances hne
    split at h
    · obtain ⟨_, p₂, hf, h⟩ := bind_eq_some.mp h
      obtain ⟨-, rfl⟩ := pure_eq_some.mp h
      rw [flash_bits_eq] at hf
      obtain ⟨-, rfl⟩ := Prod.mk.inj (Option.some.inj hf)
      refine ⟨hbuf, ?_, hend⟩
      simp only [BR.pos, BR.flash] at hlt ⊢
      omega
    · cases pure_eq_some.mp h with | intro h => cases h

end ArchosGpl.F2m
