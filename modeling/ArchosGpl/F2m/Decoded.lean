import ArchosGpl.F2m.EncodedBits

/-!
# What the decoder gives to the encoder

**`decode_I_mb_fits`, `decode_P_mb_fits`**: whatever the input is, and also where an error inside
the macroblock has been dropped, the macroblock has what the writers need (`MICROBLOCK.Fits`): scan
indices below 64, a `DQUANT` between -2 and 2, and motion vector words that fit their length.
-/

open Function (update update_of_ne update_self)

namespace ArchosGpl.F2m

open Lib

/-! ## Blocks -/

theorem decode_AC_last_index {block : BLOCK} (h : block.last_index < 64) (escape_type i : ℕ) :
    Ensures (decode_AC block escape_type i) fun r => r.2.last_index < 64 := by
  unfold decode_AC
  generalize 65 - i = fuel
  induction fuel generalizing block i with
  | zero => exact Ensures.pure h
  | succ fuel ih =>
    refine Ensures.bind' fun r => ?_
    match r with
    | none => exact Ensures.pure h
    | some (last, run, level) =>
      refine Ensures.ite (fun _ => Ensures.pure h) fun hlt => ?_
      refine Ensures.ite (fun _ => Ensures.pure ?_) fun _ => ih (by exact h) _
      show ((i + run : ℕ) : ℤ) < 64
      omega

theorem decode_intra_block_last_index {block : BLOCK} (h : block.last_index < 64) (escape_type : ℕ)
    (coded : Bool) :
    Ensures (decode_intra_block block escape_type coded) fun r => r.2.last_index < 64 :=
  Ensures.bind' fun _ => Ensures.ite (fun _ => Ensures.pure h) fun _ =>
    Ensures.ite (fun _ => Ensures.pure (show (0 : ℤ) < 64 by decide)) fun _ =>
      decode_AC_last_index (show (0 : ℤ) < 64 by decide) _ _

theorem decode_inter_block_last_index (block : BLOCK) (escape_type : ℕ) (coded : Bool) :
    Ensures (decode_inter_block block escape_type coded) fun r => r.2.last_index < 64 :=
  Ensures.ite (fun _ => Ensures.pure (show (-1 : ℤ) < 64 by decide)) fun _ =>
    decode_AC_last_index (show (-1 : ℤ) < 64 by decide) _ _

variable {mb : MICROBLOCK}

theorem MICROBLOCK.Fits.setBlock (h : mb.Fits) {b : BLOCK} (hb : b.last_index < 64)
    (i : ℕ) : (mb.setBlock i b).Fits where
  last_index j := by
    by_cases hj : j = i
    · subst hj
      rw [MICROBLOCK.setBlock_block, update_self]
      exact hb
    · rw [MICROBLOCK.setBlock_block, update_of_ne hj]
      exact h.last_index j
  dquant := h.dquant
  mv_x := h.mv_x
  mv_y := h.mv_y

theorem decode_blocks_fits {decode : BLOCK → Bool → Reader (ℤ × BLOCK)}
    (hd : ∀ b coded, b.last_index < 64 → Ensures (decode b coded) fun r => r.2.last_index < 64) (h : mb.Fits) (is : List ℕ) (cbp : ℕ) :
    Ensures (decode_blocks decode is cbp mb) fun r => r.2.Fits := by
  induction is generalizing mb cbp with
  | nil => exact Ensures.pure h
  | cons i is ih =>
    refine Ensures.bind (hd _ _ (h.last_index i)) fun r hr => ?_
    exact Ensures.ite (fun _ => Ensures.pure (h.setBlock hr i)) fun _ => ih (h.setBlock hr i) _

/-! ## Headers -/

theorem decode_mb_dquant_fits (h : mb.Fits) (dquant : ℕ) :
    Ensures (decode_mb_dquant dquant mb) MICROBLOCK.Fits := by
  refine Ensures.ite (fun _ => ?_) fun _ => Ensures.pure h
  refine Ensures.bind (P := fun d => -2 ≤ d ∧ d ≤ 2) ?_ fun d hd => Ensures.pure
    ⟨h.last_index, hd, h.mv_x, h.mv_y⟩
  refine Ensures.bind' fun i => Ensures.pure ?_
  match i with
  | 0 | 1 | 2 | 3 => decide
  | i + 4 => exact (show (-2 : ℤ) ≤ 0 ∧ (0 : ℤ) ≤ 2 by decide)

theorem mv_word_length {p q : BR} {c : ℤ} (h : get_vlc vlc_table_mv 9 2 p = some (c, q)) :
    ∃ L, p.Reads L q ∧ L.length ≤ 12 := by
  have hlen : vlcAll vlc_table_mv 9 2 (fun _ k _ => decide (k ≤ 12)) = true := by decide +kernel
  obtain ⟨W, k, hk, -, -, hr⟩ := get_vlc_window hlen (by decide) h
  refine ⟨W.take k, hr, ?_⟩
  have := of_decide_eq_true hk
  rw [List.length_take]
  omega

theorem decode_motion_fits {v : VLCDEC} (h : v.Fits) :
    Ensures (decode_motion v) fun r => r.2.Fits := by
  refine Ensures.bind (P := fun r => VLCDEC.Fits r.2) ?_ fun r hr => ?_
  · rintro p ⟨c, v'⟩ q hv
    obtain ⟨L, hr, hL⟩ := mv_word_length (get_vlcdec_eq_some.mp hv).2.1
    obtain rfl := get_vlcdec_reads hv hr (by omega)
    exact ⟨by show L.length ≤ 24; omega, bitsNat_lt L, h.bits_ex, h.value_ex⟩
  · have h0 : VLCDEC.Fits { r.2 with bits_ex := 0 } := ⟨hr.bits, hr.value, Nat.zero_le 1, hr.value_ex⟩
    refine Ensures.ite (fun _ => Ensures.pure h0) fun _ =>
      Ensures.ite (fun _ => Ensures.pure h0) fun _ => ?_
    refine Ensures.bind (P := fun tmp => tmp < 2) ?_ fun tmp ht =>
      Ensures.pure ⟨hr.bits, hr.value, Nat.le_refl 1, ht⟩
    intro p tmp q ht
    obtain ⟨L, hL, rfl, -⟩ := get_bits_reads (by decide) ht
    have := bitsNat_lt L
    rwa [hL] at this

theorem update_fits {f : ℕ → VLCDEC} (h : ∀ i, (f i).Fits) {v : VLCDEC} (hv : v.Fits) (i j : ℕ) :
    (update f i v j).Fits := by
  by_cases hj : j = i
  · subst hj
    rwa [update_self]
  · rw [update_of_ne hj]
    exact h j

theorem decode_mv_fits (h : mb.Fits) (i : ℕ) : Ensures (decode_mv i mb) MICROBLOCK.Fits :=
  Ensures.bind (decode_motion_fits (h.mv_x i)) fun _ hx =>
    Ensures.bind (decode_motion_fits (h.mv_y i)) fun _ hy =>
      Ensures.pure ⟨h.last_index, h.dquant, update_fits h.mv_x hx i, update_fits h.mv_y hy i⟩

theorem decode_mvs_fits (h : mb.Fits) (cbpc : ℕ) :
    Ensures (decode_mvs cbpc mb) MICROBLOCK.Fits := by
  have done {m : MICROBLOCK} (hm : m.Fits) (t : MvType) : MICROBLOCK.Fits { m with mv_type := t } :=
    ⟨hm.last_index, hm.dquant, hm.mv_x, hm.mv_y⟩
  refine Ensures.ite (fun _ => ?_) fun _ => ?_
  · exact Ensures.bind (decode_mv_fits h 0) fun _ h0 => Ensures.pure (done h0 _)
  · exact Ensures.bind (decode_mv_fits h 0) fun _ h0 => Ensures.bind (decode_mv_fits h0 1) fun _ h1 =>
      Ensures.bind (decode_mv_fits h1 2) fun _ h2 => Ensures.bind (decode_mv_fits h2 3) fun _ h3 =>
        Ensures.pure (done h3 _)

/-! ## Macroblocks -/

theorem VLCDEC.zero_fits : VLCDEC.zero.Fits := ⟨by decide, by decide, by decide, by decide⟩

theorem MICROBLOCK.zero_fits : MICROBLOCK.zero.Fits where
  last_index _ := show (0 : ℤ) < 64 by decide
  dquant := by decide
  mv_x _ := VLCDEC.zero_fits
  mv_y _ := VLCDEC.zero_fits

theorem decode_intra_mb_internal_fits (h : mb.Fits) (escape_type cbpc dquant : ℕ) :
    Ensures (decode_intra_mb_internal mb escape_type cbpc dquant) fun r => r.2.Fits :=
  Ensures.bind' fun _ => Ensures.ite (fun _ => Ensures.pure h) fun _ =>
    Ensures.bind (decode_mb_dquant_fits h dquant) fun _ hm =>
      decode_blocks_fits (fun _ coded hb => decode_intra_block_last_index hb escape_type coded) hm _ _

theorem decode_inter_mb_internal_fits (h : mb.Fits) (escape_type cbpc dquant : ℕ) :
    Ensures (decode_inter_mb_internal mb escape_type cbpc dquant) fun r => r.2.Fits :=
  Ensures.bind' fun _ => Ensures.ite (fun _ => Ensures.pure h) fun _ =>
    Ensures.bind (decode_mb_dquant_fits h dquant) fun _ hm =>
      Ensures.bind (decode_mvs_fits hm cbpc) fun _ hv =>
        decode_blocks_fits (fun b coded _ => decode_inter_block_last_index b escape_type coded) hv _ _

/-- **Whatever the decoder gives for a macroblock of an I picture, the writers can write it.** -/
theorem decode_I_mb_fits (h : mb.Fits) (escape_type : ℕ) :
    Ensures (decode_I_mb mb escape_type) fun r => r.2.Fits :=
  Ensures.bind' fun _ => Ensures.ite (fun _ => Ensures.pure h) fun _ =>
    Ensures.bind (decode_intra_mb_internal_fits h _ _ _) fun _ hm => Ensures.pure hm

/-- **The same for a P picture.** -/
theorem decode_P_mb_fits (h : mb.Fits) (escape_type : ℕ) :
    Ensures (decode_P_mb mb escape_type) fun r => r.2.Fits := by
  have flags (skip intra : Bool) : MICROBLOCK.Fits { mb with skip := skip, intra := intra } :=
    ⟨h.last_index, h.dquant, h.mv_x, h.mv_y⟩
  refine Ensures.bind' fun _ => Ensures.ite (fun _ => Ensures.pure h) fun _ =>
    Ensures.ite (fun _ => Ensures.pure (flags _ _)) fun _ => Ensures.ite (fun _ => ?_) fun _ => ?_
  · exact Ensures.bind (decode_intra_mb_internal_fits (flags _ _) _ _ _) fun _ hm => Ensures.pure hm
  · exact Ensures.bind (decode_inter_mb_internal_fits (flags _ _) _ _ _) fun _ hm => Ensures.pure hm

/-! ## Between decoder and encoder -/

theorem MICROBLOCK.Fits.set (h : mb.Fits) (n i : ℕ) (level : ℤ) :
    (mb.setBlock n ((mb.block n).set i level)).Fits :=
  h.setBlock (b := (mb.block n).set i level) (h.last_index n) n

theorem copy_microblock_fits (h : mb.Fits) : (copy_microblock mb).Fits := by
  unfold copy_microblock
  split
  · generalize [0, 1, 2, 3, 4, 5] = is
    induction is generalizing mb with
    | nil => exact h
    | cons i is ih => exact ih (h.set i 0 _) ‹_›
  · exact h

theorem m4v_encode_I_dcpred_fits (h : mb.Fits) (dcpred : M4V_DCPRED) (x y : ℕ) :
    (m4v_encode_I_dcpred mb dcpred x y).1.Fits := by
  unfold m4v_encode_I_dcpred
  split
  · simp only
    generalize dcpred_set_pos (dcpred_set_qscale dcpred mb.qscale) x y = d
    suffices gen : ∀ (is : List ℕ) (s : MICROBLOCK × M4V_DCPRED), s.1.Fits →
        (is.foldl encode_dc_block s).1.Fits from gen _ (mb, d) h
    intro is
    induction is with
    | nil => exact fun s hs => hs
    | cons i is ih => exact fun s hs => ih _ (hs.set i 0 _)
  · exact h

end ArchosGpl.F2m
