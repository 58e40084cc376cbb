import ArchosGpl.F2m.MotionCodes

/-!
# Macroblock headers are read back

`read_I_header` and `read_P_header` read the headers that the encoder writes, with the decoder's own
readers; an intra macroblock has the AC prediction flag in front of CBPY. `HeaderReadBack` says that
they find the type, the pattern, DQUANT and the motion vector codes of the macroblock, and stop
exactly where its blocks start, whatever the bits behind the header are.

* **`p_header_parses_iff`**: a header that was decoded is read back if and only if the macroblock is
  skipped or intra or its last motion vector component is a code word.
-/

namespace ArchosGpl.F2m

open Lib

/-! ## Headers -/

structure Header where
  skip : Bool
  intra : Bool
  mv_type : MvType
  cbp : ℕ
  dquant : ℤ
  mv : List (VLCDEC × VLCDEC)
  deriving DecidableEq, Repr

namespace MICROBLOCK

/-- The vectors of a macroblock. -/
def mvs (mb : MICROBLOCK) : List (VLCDEC × VLCDEC) :=
  (mvIndices mb.mv_type).map fun i => (mb.mv_x i, mb.mv_y i)

/-- The header of a macroblock; the blocks themselves say which of them are coded. -/
def header (mb : MICROBLOCK) : Header :=
  if mb.skip then ⟨true, false, .MV_TYPE_16X16, 0, 0, []⟩
  else if mb.intra then ⟨false, true, .MV_TYPE_16X16, mbCbp mb 1, mb.dquant, []⟩
  else ⟨false, false, mb.mv_type, mbCbp mb 0, mb.dquant, mb.mvs⟩

end MICROBLOCK

/-- The rest of an intra header behind the MCBPC word. -/
def read_intra_tail (cbpc dquant : ℕ) : Reader (Option Header) := do
  let _ac_pred ← get_bits 1
  let cbpy ← get_cbpy
  if cbpy < 0 then return none
  else
    let mb ← decode_mb_dquant dquant MICROBLOCK.zero
    return some ⟨false, true, .MV_TYPE_16X16, (cbpc &&& 3) ||| (cbpy.toNat <<< 2), mb.dquant, []⟩

/-- The rest of an inter header behind the MCBPC word. -/
def read_inter_tail (cbpc dquant : ℕ) : Reader (Option Header) := do
  let cbpy ← get_cbpy
  if cbpy < 0 then return none
  else
    let mb ← decode_mb_dquant dquant MICROBLOCK.zero
    let mb ← decode_mvs cbpc mb
    return some ⟨false, false, mb.mv_type, (cbpc &&& 3) ||| ((cbpy.toNat ^^^ 0xF) <<< 2), mb.dquant,
      mb.mvs⟩

/-- The header of a macroblock of an I picture, with the decoder's readers. -/
def read_I_header : Reader (Option Header) := do
  let cbpc ← get_intra_MCBPC
  if cbpc < 0 then return none
  else read_intra_tail cbpc.toNat (cbpc.toNat &&& 4)

/-- The header of a macroblock of a P picture, with the decoder's readers. -/
def read_P_header : Reader (Option Header) := do
  let cbpc ← get_inter_MCBPC
  if cbpc = -1 then return none
  else if cbpc = -2 then return some ⟨true, false, .MV_TYPE_16X16, 0, 0, []⟩
  else if cbpc.toNat &&& 4 ≠ 0 then read_intra_tail cbpc.toNat (cbpc.toNat &&& 8)
  else read_inter_tail cbpc.toNat (cbpc.toNat &&& 8)

/-! ## The words -/

theorem mbCbp_lt (mb : MICROBLOCK) (first : ℤ) : mbCbp mb first < 64 := by
  unfold mbCbp
  simp only [List.foldl_cons, List.foldl_nil]
  have step {cbp k : ℕ} {c : Prop} [Decidable c] (h : cbp < 2 ^ 6) (hk : k < 6) :
      (if c then cbp ||| 1 <<< k else cbp) < 2 ^ 6 := by
    split
    · exact Nat.or_lt_two_pow h (by
        rw [Nat.one_shiftLeft]; exact Nat.pow_lt_pow_right (by decide) hk)
    · exact h
  exact step (step (step (step (step (step (by decide) (by decide)) (by decide)) (by decide))
    (by decide)) (by decide)) (by decide)

theorem cbp_parts : ∀ cbp < 64, (cbp &&& 3) < 4 ∧ cbp >>> 2 < 16 ∧
    ((cbp &&& 3) ||| ((cbp >>> 2) <<< 2)) = cbp := by
  decide

variable {c : ℕ}

theorem get_cbpy_parses (hc : c < 16) : Parses get_cbpy (vlcWord cbpyWords c) (c : ℤ) := by
  have used : ∀ c < 16, 0 < (cbpyWords.getD c (0, 0)).2 := by decide
  exact get_vlc_parses cbpy_decodes (by decide) (used c hc)

theorem decode_mb_dquant_parses {d : ℤ} (hd : -2 ≤ d ∧ d ≤ 2) {flag : ℕ} (hf : flag ≠ 0 ↔ d ≠ 0) :
    Parses (decode_mb_dquant flag MICROBLOCK.zero) (dquantBits d)
      { MICROBLOCK.zero with dquant := d } := by
  unfold decode_mb_dquant dquantBits
  by_cases h0 : d = 0
  · subst h0
    rw [if_neg (by rw [hf]; exact fun h => h rfl), if_neg (fun h => h rfl)]
    exact Consumes.pure _
  · rw [if_pos (hf.mpr h0), if_pos h0]
    have hcases : d = -2 ∨ d = -1 ∨ d = 1 ∨ d = 2 := by omega
    have read {i : ℕ} (hi : i < 4) (h : [-1, -2, 1, 2].getD i 0 = d) :
        Parses (decode_dquant >>= fun d => pure { MICROBLOCK.zero with dquant := d }) (natBits 2 i)
          { MICROBLOCK.zero with dquant := d } := by
      rw [← List.append_nil (natBits 2 i), ← h]
      refine Consumes.bind ?_ (Consumes.pure _)
      rw [← List.append_nil (natBits 2 i)]
      exact (get_bits_parses_natBits (n := 2) hi (by decide)).bind (Consumes.pure _)
    rcases hcases with rfl | rfl | rfl | rfl
    · exact read (i := 1) (by decide) rfl
    · exact read (i := 0) (by decide) rfl
    · exact read (i := 2) (by decide) rfl
    · exact read (i := 3) (by decide) rfl

theorem get_intra_MCBPC_parses (hc : c < 8) :
    Parses get_intra_MCBPC (vlcWord intraMcbpcWords c) (c : ℤ) := by
  have used : ∀ c < 8, 0 < (intraMcbpcWords.getD c (0, 0)).2 := by decide
  rw [get_intra_MCBPC_unfold, ← List.append_nil (vlcWord intraMcbpcWords c)]
  refine (get_vlc_parses intra_MCBPC_decodes (by decide) (used c hc)).bind ?_
  rw [if_neg (by omega), if_neg (by omega)]
  exact Consumes.pure _

theorem get_inter_MCBPC_parses (hused : 0 < (interMcbpcWords.getD c (0, 0)).2) (hc : c ≠ 20) :
    Parses get_inter_MCBPC ([false] ++ vlcWord interMcbpcWords c) (c : ℤ) := by
  rw [get_inter_MCBPC_unfold, ← List.append_nil (vlcWord interMcbpcWords c)]
  refine (get_bits_parses (n := 1) rfl (by decide)).bind ?_
  rw [if_neg (fun h => h rfl)]
  refine (get_vlc_parses inter_MCBPC_decodes (by decide) hused).bind ?_
  rw [if_neg (by omega), if_neg (by omega)]
  exact Consumes.pure _

/-! ## Headers without motion vectors -/

variable {mb : MICROBLOCK} {cbpc dquant : ℕ}

theorem read_intra_tail_parses (h : mb.Fits)
    (hc : cbpc &&& 3 = mbCbp mb 1 &&& 3) (hd : dquant ≠ 0 ↔ mb.dquant ≠ 0) :
    Parses (read_intra_tail cbpc dquant) (intraTailBits mb)
      (some ⟨false, true, .MV_TYPE_16X16, mbCbp mb 1, mb.dquant, []⟩) := by
  obtain ⟨-, h16, hcbp⟩ := cbp_parts _ (mbCbp_lt mb 1)
  unfold read_intra_tail intraTailBits
  rw [List.append_assoc]
  refine (get_bits_parses (n := 1) rfl (by decide)).bind ((get_cbpy_parses h16).bind ?_)
  rw [if_neg (by omega), ← List.append_nil (dquantBits mb.dquant)]
  refine (decode_mb_dquant_parses h.dquant hd).bind ((Consumes.pure _).congr rfl ?_)
  rw [Int.toNat_natCast, hc, hcbp]

theorem mcbpc_parts : ∀ a < 4, ∀ dq : Bool,
    (a + (if dq then 4 else 0) < 8 ∧ (a + if dq then 4 else 0) &&& 3 = a ∧
      ((a + if dq then 4 else 0) &&& 4 ≠ 0 ↔ dq)) ∧
    (0 < (interMcbpcWords.getD (a + (if dq then 8 else 0) + 4) (0, 0)).2 ∧
      a + (if dq then 8 else 0) + 4 ≠ 20 ∧ (a + (if dq then 8 else 0) + 4) &&& 3 = a ∧
      (a + (if dq then 8 else 0) + 4) &&& 4 ≠ 0 ∧
      ((a + (if dq then 8 else 0) + 4) &&& 8 ≠ 0 ↔ dq)) ∧
    ∀ four : Bool,
      0 < (interMcbpcWords.getD (a + (if dq then 8 else 0) + if four then 16 else 0) (0, 0)).2 ∧
      a + (if dq then 8 else 0) + (if four then 16 else 0) ≠ 20 ∧
      (a + (if dq then 8 else 0) + if four then 16 else 0) &&& 3 = a ∧
      (a + (if dq then 8 else 0) + if four then 16 else 0) &&& 4 = 0 ∧
      ((a + (if dq then 8 else 0) + if four then 16 else 0) &&& 8 ≠ 0 ↔ dq) ∧
      ((a + (if dq then 8 else 0) + if four then 16 else 0) &&& 16 = 0 ↔ !four) := by
  decide

theorem i_header_parses (h : mb.Fits) : Parses read_I_header (iHeaderBits mb)
      (some ⟨false, true, .MV_TYPE_16X16, mbCbp mb 1, mb.dquant, []⟩) := by
  obtain ⟨h4, -, -⟩ := cbp_parts _ (mbCbp_lt mb 1)
  obtain ⟨⟨h8, h3, hd⟩, -⟩ := mcbpc_parts _ h4 (decide (mb.dquant ≠ 0))
  simp only [decide_eq_true_eq] at h8 h3 hd
  unfold read_I_header iHeaderBits
  refine (get_intra_MCBPC_parses h8).bind ?_
  rw [if_neg (by omega), Int.toNat_natCast]
  exact read_intra_tail_parses h h3 hd

theorem intra_header_parses (h : mb.Fits) (hskip : mb.skip = false)
    (hintra : mb.intra = true) : Parses read_P_header (pHeaderBits mb) (some mb.header) := by
  obtain ⟨h4, -, -⟩ := cbp_parts _ (mbCbp_lt mb 1)
  obtain ⟨-, ⟨hused, h20, h3, hi, hd⟩, -⟩ := mcbpc_parts _ h4 (decide (mb.dquant ≠ 0))
  simp only [decide_eq_true_eq] at hused h20 h3 hi hd
  unfold read_P_header pHeaderBits MICROBLOCK.header
  simp only [hskip, hintra, Bool.false_eq_true, if_false, if_true]
  refine (get_inter_MCBPC_parses hused h20).bind ?_
  rw [if_neg (by omega), if_neg (by omega), Int.toNat_natCast, if_pos hi]
  exact read_intra_tail_parses h h3 hd

theorem skip_header_parses (hskip : mb.skip = true) :
    Parses read_P_header (pHeaderBits mb) (some mb.header) := by
  have hcod : Parses get_inter_MCBPC [true] (-2) := by
    rw [get_inter_MCBPC_unfold, ← List.append_nil [true]]
    refine (get_bits_parses (n := 1) rfl (by decide)).bind ?_
    rw [if_pos (fun h => absurd h (by decide))]
    exact Consumes.pure _
  unfold read_P_header pHeaderBits MICROBLOCK.header
  rw [if_pos hskip, if_pos hskip, ← List.append_nil [true]]
  exact hcod.bind (Consumes.pure _)

/-! ## Motion vectors -/

variable {m : MICROBLOCK}

theorem decode_mvs_eq {z : MICROBLOCK} (hx : m.mv_x = z.mv_x) (hy : m.mv_y = z.mv_y)
    (hc : cbpc &&& 16 = 0 ↔ c &&& 16 = 0) :
    decode_mvs cbpc m = (decode_mvs c z >>= fun r =>
      pure { m with mv_x := r.mv_x, mv_y := r.mv_y, mv_type := r.mv_type }) := by
  unfold decode_mvs decode_mv
  by_cases h : c &&& 16 = 0
  · rw [if_pos h, if_pos (hc.mpr h)]
    simp only [bind_assoc, pure_bind, hx, hy]
  · rw [if_neg h, if_neg (fun h' => h (hc.mp h'))]
    simp only [bind_assoc, pure_bind, hx, hy]

variable {p q : BR}

theorem decode_mvs_type {m' : MICROBLOCK} (h : decode_mvs cbpc m p = some (m', q)) :
    m'.mv_type = if cbpc &&& 16 = 0 then .MV_TYPE_16X16 else .MV_TYPE_8X8 := by
  unfold decode_mvs at h
  split at h
  · obtain ⟨_, _, -, h⟩ := bind_eq_some.mp h
    obtain ⟨rfl, -⟩ := pure_eq_some.mp h
    rw [if_pos ‹_›]
  · obtain ⟨_, _, -, h⟩ := bind_eq_some.mp h
    obtain ⟨_, _, -, h⟩ := bind_eq_some.mp h
    obtain ⟨_, _, -, h⟩ := bind_eq_some.mp h
    obtain ⟨_, _, -, h⟩ := bind_eq_some.mp h
    obtain ⟨rfl, -⟩ := pure_eq_some.mp h
    rw [if_neg ‹_›]

theorem decode_mb_dquant_mv (dquant : ℕ) (mb : MICROBLOCK) :
    Ensures (decode_mb_dquant dquant mb) fun m =>
      m.mv_x = mb.mv_x ∧ m.mv_y = mb.mv_y ∧ m.skip = mb.skip ∧ m.intra = mb.intra :=
  Ensures.ite (fun _ => Ensures.bind' fun _ => Ensures.pure ⟨rfl, rfl, rfl, rfl⟩) fun _ =>
    Ensures.pure ⟨rfl, rfl, rfl, rfl⟩

theorem decode_blocks_mv {decode : BLOCK → Bool → Reader (ℤ × BLOCK)} (is : List ℕ) (cbp : ℕ)
    (mb : MICROBLOCK) :
    Ensures (decode_blocks decode is cbp mb) fun r => r.2.mv_type = mb.mv_type ∧
      r.2.mv_x = mb.mv_x ∧ r.2.mv_y = mb.mv_y ∧ r.2.skip = mb.skip ∧ r.2.intra = mb.intra := by
  induction is generalizing cbp mb with
  | nil => exact Ensures.pure ⟨rfl, rfl, rfl, rfl, rfl⟩
  | cons i is ih =>
    refine Ensures.bind' fun r => Ensures.ite (fun _ => Ensures.pure ⟨rfl, rfl, rfl, rfl, rfl⟩)
      fun _ => ih _ _

variable {escape_type : ℕ}

/-- An inter macroblock whose last component is a code word has had its vectors read, and nothing
changes them afterwards. -/
theorem decode_inter_mvs {mb₀ : MICROBLOCK} (hx : mb₀.mv_x = fun _ => VLCDEC.zero)
    (hy : mb₀.mv_y = fun _ => VLCDEC.zero) {r : ℤ}
    (h : decode_inter_mb_internal mb₀ escape_type cbpc dquant p = some ((r, mb), q))
    (hlast : MvCode mb.lastMv) :
    ∃ c m m' p₁ p₂, decode_mvs c m p₁ = some (m', p₂) ∧ m.mv_x = (fun _ => VLCDEC.zero) ∧
      m.mv_y = (fun _ => VLCDEC.zero) ∧ mb.mv_type = m'.mv_type ∧ mb.mv_x = m'.mv_x ∧
      mb.mv_y = m'.mv_y := by
  unfold decode_inter_mb_internal at h
  obtain ⟨cbpy, p₁, -, h⟩ := bind_eq_some.mp h
  split at h
  · -- the dropped CBPY error: no vector has been read
    obtain ⟨hr, -⟩ := pure_eq_some.mp h
    obtain ⟨-, rfl⟩ := Prod.mk.inj hr
    have hzero : ¬ MvCode VLCDEC.zero := by decide
    refine absurd hlast ?_
    unfold MICROBLOCK.lastMv
    rw [hy]
    split <;> exact hzero
  · obtain ⟨m, p₂, hm, h⟩ := bind_eq_some.mp h
    obtain ⟨m', p₃, hm', h⟩ := bind_eq_some.mp h
    obtain ⟨hmx, hmy, -⟩ := decode_mb_dquant_mv _ _ _ _ _ hm
    obtain ⟨ht, hx', hy', -⟩ := decode_blocks_mv _ _ _ _ _ _ h
    exact ⟨cbpc, m, m', p₂, p₃, hm', hmx.trans hx, hmy.trans hy, ht, hx', hy'⟩

theorem decode_mvs_parses {m' z : MICROBLOCK}
    (h : decode_mvs c m p = some (m', q)) (hx : m.mv_x = fun _ => VLCDEC.zero)
    (hy : m.mv_y = fun _ => VLCDEC.zero) (hzx : z.mv_x = fun _ => VLCDEC.zero)
    (hzy : z.mv_y = fun _ => VLCDEC.zero) (ht : mb.mv_type = m'.mv_type) (hmx : mb.mv_x = m'.mv_x)
    (hmy : mb.mv_y = m'.mv_y) (hlast : MvCode mb.lastMv)
    (hc : cbpc &&& 16 = 0 ↔ mb.mv_type = .MV_TYPE_16X16) :
    Parses (decode_mvs cbpc z) ((mvIndices mb.mv_type).flatMap (motionBits mb))
      { z with mv_x := mb.mv_x, mv_y := mb.mv_y, mv_type := mb.mv_type } := by
  have hcc : cbpc &&& 16 = 0 ↔ c &&& 16 = 0 := by
    rw [hc, ht, decode_mvs_type h]
    split <;> simp_all
  have hreplays := decode_mvs_replays (fun i => congrFun hx i) (fun i => congrFun hy i) h
  have hbits : (mvIndices m'.mv_type).flatMap (motionBits m') =
      (mvIndices mb.mv_type).flatMap (motionBits mb) := by
    unfold motionBits
    rw [ht, hmx, hmy]
  have hok : MvCode m'.lastMv := by
    unfold MICROBLOCK.lastMv at hlast ⊢
    rwa [ht, hmy] at hlast
  rw [decode_mvs_eq (hzx.trans hx.symm) (hzy.trans hy.symm) hcc, ht, hmx, hmy, ← ht, ← hbits]
  intro p' t hp' hlen
  obtain ⟨q', hq', hrest⟩ := hreplays.again p' t hp' hlen (.inl hok)
  exact ⟨q', by rw [bind_of_some hq', ht]; rfl, hrest⟩

theorem lastMv_of_mvs {mb' : MICROBLOCK} (ht : mb'.mv_type = mb.mv_type) (h : mb'.mvs = mb.mvs) :
    mb'.lastMv = mb.lastMv := by
  unfold MICROBLOCK.mvs at h
  unfold MICROBLOCK.lastMv
  rw [ht] at h ⊢
  cases hmv : mb.mv_type with
  | MV_TYPE_16X16 =>
    rw [hmv] at h
    simp only [mvIndices, List.map_cons, List.map_nil, List.cons.injEq, Prod.mk.injEq] at h
    exact h.1.2
  | MV_TYPE_8X8 =>
    rw [hmv] at h
    simp only [mvIndices, List.map_cons, List.map_nil, List.cons.injEq, Prod.mk.injEq] at h
    exact h.2.2.2.1.2

theorem read_intra_tail_intra (cbpc dquant : ℕ) :
    Ensures (read_intra_tail cbpc dquant) fun o => ∀ h ∈ o, h.intra = true :=
  Ensures.bind' fun _ => Ensures.bind' fun _ =>
    Ensures.ite (fun _ => Ensures.pure fun _ h => absurd h (Option.not_mem_none _)) fun _ =>
      Ensures.bind' fun _ => Ensures.pure fun _ h => by
        cases h
        rfl

theorem lastMv_of_read (hskip : mb.skip = false)
    (hintra : mb.intra = false) (h : read_P_header p = some (some mb.header, q))
    (hq : ¬ twoZeros <+: q.rest) : MvCode mb.lastMv := by
  have hmb : mb.header = ⟨false, false, mb.mv_type, mbCbp mb 0, mb.dquant, mb.mvs⟩ := by
    simp [MICROBLOCK.header, hskip, hintra]
  rw [hmb] at h
  unfold read_P_header at h
  obtain ⟨cbpc, p₁, -, h⟩ := bind_eq_some.mp h
  split at h
  · cases pure_eq_some.mp h with | intro h => cases h
  split at h
  · cases pure_eq_some.mp h with | intro h => cases h
  split at h
  · exact absurd (read_intra_tail_intra _ _ _ _ _ h _ rfl) Bool.false_ne_true
  · unfold read_inter_tail at h
    obtain ⟨cbpy, p₂, -, h⟩ := bind_eq_some.mp h
    split at h
    · cases pure_eq_some.mp h with | intro h => cases h
    · obtain ⟨m, p₃, hm, h⟩ := bind_eq_some.mp h
      obtain ⟨m', p₄, hm', h⟩ := bind_eq_some.mp h
      obtain ⟨hh, rfl⟩ := pure_eq_some.mp h
      obtain ⟨hmx, hmy, -⟩ := decode_mb_dquant_mv _ _ _ _ _ hm
      obtain ⟨-, -, ht, -, -, hmvs⟩ := Header.mk.inj (Option.some.inj hh)
      rw [← lastMv_of_mvs ht hmvs]
      by_contra hno
      exact hq ((decode_mvs_replays (fun i => congrFun hmx i) (fun i => congrFun hmy i) hm').last hno)

theorem inter_header_parses_iff (hf : mb.Fits) (hskip : mb.skip = false)
    (hintra : mb.intra = false) {r : ℤ}
    (h : decode_inter_mb_internal MICROBLOCK.zero escape_type cbpc dquant p = some ((r, mb), q)) :
    Parses read_P_header (pHeaderBits mb) (some mb.header) ↔ MvCode mb.lastMv := by
  constructor
  · intro hparses
    obtain ⟨p', hp'⟩ := exists_reader (pHeaderBits mb ++ List.replicate 64 true)
    obtain ⟨q', hq', hrest⟩ := hparses p' _ hp' (by rw [List.length_replicate])
    refine lastMv_of_read hskip hintra hq' ?_
    rw [hrest]
    decide
  · intro hlast
    obtain ⟨c, m, m', p₁, p₂, hm, hx, hy, ht, hmx, hmy⟩ := decode_inter_mvs rfl rfl h hlast
    obtain ⟨h4, h16, hcbp⟩ := cbp_parts _ (mbCbp_lt mb 0)
    obtain ⟨-, -, hmcbpc⟩ := mcbpc_parts _ h4 (decide (mb.dquant ≠ 0))
    obtain ⟨hused, h20, h3, hi, hd, hmv⟩ := hmcbpc (decide (mb.mv_type = .MV_TYPE_8X8))
    have hidx : (mbCbp mb 0 &&& 3) + (if decide (mb.dquant ≠ 0) = true then 8 else 0) +
        (if decide (mb.mv_type = .MV_TYPE_8X8) = true then 16 else 0) = interMcbpc mb := by
      unfold interMcbpc
      cases mb.mv_type <;> simp
    rw [hidx] at hused h20 h3 hi hd hmv
    rw [decide_eq_true_eq] at hd
    have hmv' : interMcbpc mb &&& 16 = 0 ↔ mb.mv_type = .MV_TYPE_16X16 := by
      rw [hmv]
      cases mb.mv_type <;> simp
    have hy4 : (mbCbp mb 0 >>> 2) ^^^ 0xF < 16 := Nat.xor_lt_two_pow (n := 4) h16 (by decide)
    unfold read_P_header pHeaderBits interHeaderBits MICROBLOCK.header
    simp only [hskip, hintra, Bool.false_eq_true, if_false]
    rw [List.append_assoc, List.append_assoc, ← List.append_assoc [false]]
    refine (get_inter_MCBPC_parses hused h20).bind ?_
    rw [if_neg (by omega), if_neg (by omega), Int.toNat_natCast, if_neg (by rw [hi]; exact fun h => h rfl)]
    refine (get_cbpy_parses hy4).bind ?_
    rw [if_neg (by omega)]
    refine (decode_mb_dquant_parses hf.dquant hd).bind ?_
    rw [← List.append_nil ((mvIndices mb.mv_type).flatMap (motionBits mb))]
    refine (decode_mvs_parses hm hx hy rfl rfl ht hmx hmy hlast hmv').bind
      ((Consumes.pure _).congr rfl ?_)
    rw [Int.toNat_natCast, Nat.xor_assoc, Nat.xor_self, Nat.xor_zero, h3, hcbp]
    rfl

/-! ## What the decoder gives -/

theorem decode_intra_mb_flags (mb : MICROBLOCK) (escape_type cbpc dquant : ℕ) :
    Ensures (decode_intra_mb_internal mb escape_type cbpc dquant) fun r =>
      r.2.skip = mb.skip ∧ r.2.intra = mb.intra :=
  Ensures.bind' fun _ => Ensures.ite (fun _ => Ensures.pure ⟨rfl, rfl⟩) fun _ =>
    Ensures.bind (decode_mb_dquant_mv dquant mb) fun m hm p r q h => by
      obtain ⟨-, -, -, hskip, hintra⟩ := decode_blocks_mv _ _ m p r q h
      exact ⟨hskip.trans hm.2.2.1, hintra.trans hm.2.2.2⟩

/-- A macroblock of a P picture that is neither skipped nor intra comes from
`decode_inter_mb_internal`. -/
theorem decode_P_mb_inter
    (h : decode_P_mb MICROBLOCK.zero escape_type p = some ((0, mb), q)) (hskip : mb.skip = false)
    (hintra : mb.intra = false) :
    ∃ cbpc dquant p₁ r,
      decode_inter_mb_internal MICROBLOCK.zero escape_type cbpc dquant p₁ = some ((r, mb), q) := by
  unfold decode_P_mb at h
  obtain ⟨cbpc, p₁, -, h⟩ := bind_eq_some.mp h
  split at h
  · cases pure_eq_some.mp h with | intro h => cases h
  split at h
  · obtain ⟨hr, -⟩ := pure_eq_some.mp h
    obtain ⟨-, rfl⟩ := Prod.mk.inj hr
    exact absurd hskip (by decide)
  simp only at h
  split at h
  · obtain ⟨⟨r, m⟩, p₂, hm, h⟩ := bind_eq_some.mp h
    obtain ⟨hr, rfl⟩ := pure_eq_some.mp h
    obtain ⟨-, rfl⟩ := Prod.mk.inj hr
    exact absurd (hintra.symm.trans (decode_intra_mb_flags _ _ _ _ _ _ _ hm).2) Bool.false_ne_true
  · obtain ⟨⟨r, m⟩, p₂, hm, h⟩ := bind_eq_some.mp h
    obtain ⟨hr, rfl⟩ := pure_eq_some.mp h
    obtain ⟨-, rfl⟩ := Prod.mk.inj hr
    exact ⟨_, _, p₁, r, hm⟩

/-- **A header that was decoded is read back** if and only if the macroblock is skipped or intra or
its last component is a code word. -/
theorem p_header_parses_iff (h : decode_P_mb MICROBLOCK.zero escape_type p = some ((0, mb), q)) :
    Parses read_P_header (pHeaderBits mb) (some mb.header) ↔
      mb.skip = true ∨ mb.intra = true ∨ MvCode mb.lastMv := by
  have hf : mb.Fits := decode_P_mb_fits MICROBLOCK.zero_fits escape_type _ _ _ h
  cases hskip : mb.skip with
  | true => exact ⟨fun _ => .inl rfl, fun _ => skip_header_parses hskip⟩
  | false =>
    cases hintra : mb.intra with
    | true => exact ⟨fun _ => .inr (.inl rfl), fun _ => intra_header_parses hf hskip hintra⟩
    | false =>
      obtain ⟨cbpc, dquant, p₁, r, hm⟩ := decode_P_mb_inter h hskip hintra
      rw [inter_header_parses_iff hf hskip hintra hm]
      simp

theorem decode_I_mb_flags
    (h : decode_I_mb { MICROBLOCK.zero with intra := true } escape_type p = some ((0, mb), q)) :
    mb.skip = false ∧ mb.intra = true := by
  unfold decode_I_mb at h
  obtain ⟨cbpc, p₁, -, h⟩ := bind_eq_some.mp h
  split at h
  · cases pure_eq_some.mp h with | intro h => cases h
  · obtain ⟨⟨r, m⟩, p₂, hm, h⟩ := bind_eq_some.mp h
    obtain ⟨hr, -⟩ := pure_eq_some.mp h
    obtain ⟨-, rfl⟩ := Prod.mk.inj hr
    exact decode_intra_mb_flags _ _ _ _ _ _ _ hm

/-! ## What the encoder writes -/

/-- What `write` puts in front of the bits of the blocks is read by `read` as the header `h`, and
exactly that. -/
def HeaderReadBack (write : BW → BW) (blocks : List Bool) (read : Reader (Option Header))
    (h : Header) : Prop :=
  ∀ w : BW, w.Normal → ∃ H, (write w).bits = w.bits ++ H ++ blocks ∧ Parses read H (some h)

def pBlocksBits (T : EncTables) (mb : MICROBLOCK) : List Bool :=
  if mb.skip then [] else if mb.intra then intraBlocksBits T mb else interBlocksBits T mb

theorem headerReadBack_iff {write : BW → BW} {blocks : List Bool} {read : Reader (Option Header)}
    {h : Header} {H : List Bool} (hw : Writes write (H ++ blocks)) :
    HeaderReadBack write blocks read h ↔ Parses read H (some h) := by
  constructor
  · intro hr
    obtain ⟨H', hbits, hp⟩ := hr (init_bw 0) ⟨by decide, fun _ _ => BitVec.getLsbD_zero⟩
    rw [(hw _ ⟨by decide, fun _ _ => BitVec.getLsbD_zero⟩).2, List.append_assoc] at hbits
    rwa [List.append_cancel_right (List.append_cancel_left hbits)]
  · exact fun hp w hn => ⟨H, by rw [(hw w hn).2, List.append_assoc], hp⟩

variable {T : EncTables}

theorem encode_P_header_iff (hT : T.Fits)
    (h : decode_P_mb MICROBLOCK.zero escape_type p = some ((0, mb), q)) :
    HeaderReadBack (m4v_encode_P_mb T · mb) (pBlocksBits T mb) read_P_header mb.header ↔
      mb.skip = true ∨ mb.intra = true ∨ MvCode mb.lastMv := by
  have hf : mb.Fits := decode_P_mb_fits MICROBLOCK.zero_fits escape_type _ _ _ h
  exact (headerReadBack_iff (m4v_encode_P_mb_writes hT hf)).trans (p_header_parses_iff h)

theorem encode_I_header (hT : T.Fits)
    (h : decode_I_mb { MICROBLOCK.zero with intra := true } escape_type p = some ((0, mb), q)) :
    HeaderReadBack (m4v_encode_I_mb T · mb) (intraBlocksBits T mb) read_I_header mb.header := by
  have hz : MICROBLOCK.Fits { MICROBLOCK.zero with intra := true } :=
    ⟨MICROBLOCK.zero_fits.last_index, MICROBLOCK.zero_fits.dquant, MICROBLOCK.zero_fits.mv_x,
      MICROBLOCK.zero_fits.mv_y⟩
  have hf : mb.Fits := decode_I_mb_fits hz escape_type _ _ _ h
  obtain ⟨hskip, hintra⟩ := decode_I_mb_flags h
  have hmb : mb.header = ⟨false, true, .MV_TYPE_16X16, mbCbp mb 1, mb.dquant, []⟩ := by
    simp [MICROBLOCK.header, hskip, hintra]
  rw [headerReadBack_iff (m4v_encode_I_mb_writes hT hf), hmb]
  exact i_header_parses hf

/-- **Macroblock headers, for every macroblock that the decoder gives.** Those of I pictures are
read back; those of P pictures, if and only if the macroblock is skipped or intra or the last
component of its motion vectors is a code word. -/
theorem headers_read_back (hT : T.Fits) (escape_type : ℕ) :
    (∀ p q mb, decode_I_mb { MICROBLOCK.zero with intra := true } escape_type p = some ((0, mb), q) →
      HeaderReadBack (m4v_encode_I_mb T · mb) (intraBlocksBits T mb) read_I_header mb.header) ∧
    ∀ p q mb, decode_P_mb MICROBLOCK.zero escape_type p = some ((0, mb), q) →
      (HeaderReadBack (m4v_encode_P_mb T · mb) (pBlocksBits T mb) read_P_header mb.header ↔
        mb.skip = true ∨ mb.intra = true ∨ MvCode mb.lastMv) :=
  ⟨fun _ _ _ h => encode_I_header hT h, fun _ _ _ h => encode_P_header_iff hT h⟩

/-- The case of a few words of the generated tables. -/
theorem headers_read_back_sample :
    (∀ p q mb, decode_I_mb { MICROBLOCK.zero with intra := true } 1 p = some ((0, mb), q) →
      HeaderReadBack (m4v_encode_I_mb EncTables.sample · mb) (intraBlocksBits EncTables.sample mb)
        read_I_header mb.header) ∧
    ∀ p q mb, decode_P_mb MICROBLOCK.zero 1 p = some ((0, mb), q) →
      (HeaderReadBack (m4v_encode_P_mb EncTables.sample · mb) (pBlocksBits EncTables.sample mb)
        read_P_header mb.header ↔ mb.skip = true ∨ mb.intra = true ∨ MvCode mb.lastMv) :=
  headers_read_back EncTables.sample_fits 1

/-- A macroblock of a P picture with an invalid CBPY. The error is dropped, and the encoder writes a
header without motion vectors. -/
theorem invalid_cbpy_not_read_back :
    ∃ p q mb, decode_P_mb MICROBLOCK.zero 0 p = some ((0, mb), q) ∧ ∀ T : EncTables, T.Fits →
      ¬ HeaderReadBack (m4v_encode_P_mb T · mb) (pBlocksBits T mb) read_P_header mb.header := by
  have hrun : ∃ q, decode_P_mb MICROBLOCK.zero 0 (init_br [0x40, 0, 0, 0, 0, 0, 0, 0] 8) =
      some ((0, MICROBLOCK.zero), q) := ⟨_, rfl⟩
  obtain ⟨q, hrun⟩ := hrun
  refine ⟨_, q, MICROBLOCK.zero, hrun, fun T hT hback => ?_⟩
  have hno : ¬ (MICROBLOCK.zero.skip = true ∨ MICROBLOCK.zero.intra = true ∨
      MvCode MICROBLOCK.zero.lastMv) := by decide
  exact hno ((encode_P_header_iff hT hrun).mp hback)

end ArchosGpl.F2m
