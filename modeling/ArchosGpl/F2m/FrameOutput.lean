import ArchosGpl.F2m.Decoded

/-!
# What one call of the transcoder does

`start` is the context after the attempt to read the size from the first key frame, `enter` the
context in which the macroblocks of a picture are converted. `f2m_process_cases` says everything a
call can do, in three cases:

* the transcoder has not started, and nothing happens;
* the picture is `Rejected`: the header is bad, or the size is not the context's. The output is
  empty;
* the macroblocks are converted, up to the end or up to an error. **The output is then never empty**
  (`failed_pos`).
-/

namespace ArchosGpl.F2m

open Lib

variable {T : EncTables}

/-! ## The macroblocks -/

/-- Good writers that only append. -/
def Extends (w w' : BW) : Prop := w'.Normal ∧ ∃ L, w'.bits = w.bits ++ L

variable {w : BW}

theorem Extends.refl (hw : w.Normal) : Extends w w := ⟨hw, [], by rw [List.append_nil]⟩

theorem Extends.trans {w' w'' : BW} (h : Extends w w') (h' : Extends w' w'') : Extends w w'' := by
  obtain ⟨-, L, hL⟩ := h
  obtain ⟨hn, L', hL'⟩ := h'
  exact ⟨hn, L ++ L', by rw [hL', hL, List.append_assoc]⟩

theorem write_mb_extends (hT : T.Fits) (flvpic : PICTURE) (vop : M4V_VOP) (d : M4V_DCPRED)
    (hw : w.Normal) (x y : ℕ) :
    Ensures (write_mb T flvpic vop d w x y) fun r => Extends w r.2.2 := by
  have fits {mb : MICROBLOCK} (hmb : mb.Fits) :
      (m4v_encode_I_dcpred (copy_microblock { mb with qscale := vop.qscale }) d x y).1.Fits := by
    have hq : MICROBLOCK.Fits { mb with qscale := vop.qscale } :=
      ⟨hmb.last_index, hmb.dquant, hmb.mv_x, hmb.mv_y⟩
    exact m4v_encode_I_dcpred_fits (copy_microblock_fits hq) d x y
  refine Ensures.ite (fun _ => ?_) fun _ => ?_
  · have hz : MICROBLOCK.Fits { MICROBLOCK.zero with intra := true } :=
      ⟨MICROBLOCK.zero_fits.last_index, MICROBLOCK.zero_fits.dquant, MICROBLOCK.zero_fits.mv_x,
        MICROBLOCK.zero_fits.mv_y⟩
    refine Ensures.bind (decode_I_mb_fits hz _) fun r hr => ?_
    refine Ensures.ite (fun _ => Ensures.pure (Extends.refl hw)) fun _ => Ensures.pure ?_
    have hwr := m4v_encode_I_mb_writes hT (fits hr) w hw
    exact ⟨hwr.1, _, hwr.2⟩
  · refine Ensures.bind (decode_P_mb_fits MICROBLOCK.zero_fits _) fun r hr => ?_
    refine Ensures.ite (fun _ => Ensures.pure (Extends.refl hw)) fun _ => Ensures.pure ?_
    have hwr := m4v_encode_P_mb_writes hT (fits hr) w hw
    exact ⟨hwr.1, _, hwr.2⟩

theorem write_mbs_extends (hT : T.Fits) (flvpic : PICTURE) (vop : M4V_VOP) (ps : List (ℕ × ℕ))
    (d : M4V_DCPRED) (hw : w.Normal) :
    Ensures (write_mbs T flvpic vop ps d w) fun r => Extends w r.2.2 := by
  induction ps generalizing d w with
  | nil => exact Ensures.pure (Extends.refl hw)
  | cons p ps ih =>
    obtain ⟨x, y⟩ := p
    refine Ensures.bind (write_mb_extends hT flvpic vop d hw x y) fun r hr => ?_
    refine Ensures.ite (fun _ => Ensures.pure hr) fun _ => ?_
    exact fun p a q h => hr.trans (ih r.2.1 hr.1 p a q h)

/-! ## The call, case by case -/

/-- The context after `init_m4v_header` has been called where it is due. -/
def start (c : CONVCTX) (f : Frame) (o : Option PICTURE) : CONVCTX :=
  if f.key && !c.header_written then
    match o with
    | none => { c with header_written := true }
    | some pic => { c with
        vol := { copy_vol pic c.vol with
          dcpred := alloc_dcpred c.vol.dcpred ((pic.width + 15) / 16) ((pic.height + 15) / 16) }
        width := pic.width
        height := pic.height
        header_written := true }
  else c

def initPlanes (c : CONVCTX) : CONVCTX :=
  { c with vol := { c.vol with dcpred := init_dcpred c.vol.dcpred } }

def setPlanes (c : CONVCTX) (d : M4V_DCPRED) : CONVCTX := { c with vol := { c.vol with dcpred := d } }

/-- A picture has been converted. -/
def nextFrame (c : CONVCTX) : CONVCTX := { c with frame := c.frame + 1, icounter := c.icounter + 1 }

/-- The picture header is bad, or the size is not the size of the context. -/
def Rejected (c : CONVCTX) (o : Option PICTURE) : Prop :=
  ∀ pic ∈ o, c.width ≠ pic.width ∨ c.height ≠ pic.height

/-- The writer when the macroblocks start: the headers of the first I picture, and the VOP header. -/
def pictureStart (c : CONVCTX) (pic : PICTURE) : BW :=
  let bw := init_bw PACKETBUFFER_SIZE
  let bw := if writesVol c pic then m4v_encode_m4v_header bw (copy_vol pic c.vol) else bw
  encode_vop_header bw (copy_vop pic (enterPicture c pic)) VOL_TIME_BITS

def convertMbs (T : EncTables) (c : CONVCTX) (pic : PICTURE) : Reader (ℤ × M4V_DCPRED × BW) :=
  write_mbs T pic (copy_vop pic (enterPicture c pic))
    (mbPositions ((pic.width + 15) / 16) ((pic.height + 15) / 16)) (enterPicture c pic).vol.dcpred
    (pictureStart c pic)

variable {p q : BR} {c c' : CONVCTX} {r : ℤ}

theorem write_m4v_frame_cases
    (h : write_m4v_frame T c (init_bw PACKETBUFFER_SIZE) p = some ((r, c', w), q)) :
    ∃ o p₁, decode_picture_header p = some (o, p₁) ∧
      (Rejected c o ∧ c' = initPlanes c ∧ w = init_bw PACKETBUFFER_SIZE ∨
      ∃ pic r' d w', o = some pic ∧ c.width = pic.width ∧ c.height = pic.height ∧
        convertMbs T (initPlanes c) pic p₁ = some ((r', d, w'), q) ∧
        (r' < 0 ∧ c' = setPlanes (enterPicture (initPlanes c) pic) d ∧ w = w' ∨
        0 ≤ r' ∧ w = flash_bw (m4v_stuffing w') ∧
          c' = nextFrame (setPlanes (enterPicture (initPlanes c) pic) d))) := by
  simp only [write_m4v_frame] at h
  obtain ⟨o, p₁, ho, h⟩ := bind_eq_some.mp h
  refine ⟨o, p₁, ho, ?_⟩
  match o with
  | none =>
    obtain ⟨hr, -⟩ := pure_eq_some.mp h
    obtain ⟨-, rfl, rfl⟩ := Prod.mk.inj hr |>.imp id Prod.mk.inj
    exact .inl ⟨fun pic hpic => absurd hpic (Option.not_mem_none pic), rfl, rfl⟩
  | some pic =>
    simp only at h
    split at h
    case isTrue hsize =>
      obtain ⟨hr, -⟩ := pure_eq_some.mp h
      obtain ⟨-, rfl, rfl⟩ := Prod.mk.inj hr |>.imp id Prod.mk.inj
      refine .inl ⟨fun pic' hpic => ?_, rfl, rfl⟩
      cases hpic
      exact hsize
    case isFalse hsize =>
      rw [not_or, not_ne_iff, not_ne_iff] at hsize
      simp only [write_m4v_picture_frame] at h
      obtain ⟨⟨r', d, w'⟩, q', hm, h⟩ := bind_eq_some.mp h
      simp only at h
      split at h
      case isTrue hr' =>
        obtain ⟨hr, rfl⟩ := pure_eq_some.mp h
        obtain ⟨-, rfl, rfl⟩ := Prod.mk.inj hr |>.imp id Prod.mk.inj
        exact .inr ⟨pic, r', d, _, rfl, hsize.1, hsize.2, hm, .inl ⟨hr', rfl, rfl⟩⟩
      case isFalse hr' =>
        obtain ⟨hr, rfl⟩ := pure_eq_some.mp h
        obtain ⟨-, rfl, rfl⟩ := Prod.mk.inj hr |>.imp id Prod.mk.inj
        exact .inr ⟨pic, r', d, w', rfl, hsize.1, hsize.2, hm, .inr ⟨by omega, rfl, rfl⟩⟩

theorem init_m4v_header_eq_some {bw bw' : BW}
    (h : init_m4v_header c bw p = some ((r, c', bw'), q)) :
    ∃ o, decode_picture_header p = some (o, q) ∧
      ∀ f : Frame, f.key = true → c.header_written = false →
        { c' with header_written := true } = start c f o := by
  simp only [init_m4v_header] at h
  obtain ⟨o, p₁, ho, h⟩ := bind_eq_some.mp h
  match o with
  | none =>
    obtain ⟨hr, rfl⟩ := pure_eq_some.mp h
    obtain ⟨-, rfl, rfl⟩ := Prod.mk.inj hr |>.imp id Prod.mk.inj
    exact ⟨none, ho, fun f hk hw => by simp [start, hk, hw]⟩
  | some pic =>
    obtain ⟨hr, rfl⟩ := pure_eq_some.mp h
    obtain ⟨-, rfl, rfl⟩ := Prod.mk.inj hr |>.imp id Prod.mk.inj
    refine ⟨some pic, ho, fun f hk hw => ?_⟩
    simp [start, hk, hw, copy_vol]

/-- What a call with header result `o` and reader `p` behind the header can do: the return code, the
output and the context after it. -/
inductive Call (T : EncTables) (c : CONVCTX) (f : Frame) : ℤ → List (BitVec 8) → CONVCTX → Prop
  | idle (hw : c.header_written = false) (hk : f.key = false) : Call T c f 1 [] c
  | rejected {o : Option PICTURE} {p : BR} (hs : c.header_written = true ∨ f.key = true)
      (ho : decode_picture_header (init_br f.src f.src_size) = some (o, p))
      (hr : Rejected (start c f o) o) : Call T c f 0 [] (initPlanes (start c f o))
  | failed {pic : PICTURE} {p q : BR} {r : ℤ} {d : M4V_DCPRED} {w : BW}
      (hs : c.header_written = true ∨ f.key = true)
      (ho : decode_picture_header (init_br f.src f.src_size) = some (some pic, p))
      (hr : ¬ Rejected (start c f (some pic)) (some pic))
      (hm : convertMbs T (initPlanes (start c f (some pic))) pic p = some ((r, d, w), q)) (hneg : r < 0) :
      Call T c f 0 w.buf (setPlanes (enterPicture (initPlanes (start c f (some pic))) pic) d)
  | converted {pic : PICTURE} {p q : BR} {r : ℤ} {d : M4V_DCPRED} {w : BW}
      (hs : c.header_written = true ∨ f.key = true)
      (ho : decode_picture_header (init_br f.src f.src_size) = some (some pic, p))
      (hr : ¬ Rejected (start c f (some pic)) (some pic))
      (hm : convertMbs T (initPlanes (start c f (some pic))) pic p = some ((r, d, w), q)) (hpos : 0 ≤ r) :
      Call T c f 0 (flash_bw (m4v_stuffing w)).buf
        (nextFrame (setPlanes (enterPicture (initPlanes (start c f (some pic))) pic) d))

variable {f : Frame}

theorem call_of_frame {c₁ : CONVCTX} (hs : c.header_written = true ∨ f.key = true)
    (hc₁ : ∀ o p, decode_picture_header (init_br f.src f.src_size) = some (o, p) → c₁ = start c f o)
    (hr : write_m4v_frame T c₁ (init_bw PACKETBUFFER_SIZE) (init_br f.src f.src_size)
      = some ((r, c', w), q)) : Call T c f 0 w.buf c' := by
  obtain ⟨o, p, ho, hcases⟩ := write_m4v_frame_cases hr
  obtain rfl := hc₁ o p ho
  rcases hcases with ⟨hrej, rfl, rfl⟩ | ⟨pic, r', d, w', rfl, hw, hh, hm, hend⟩
  · exact Call.rejected hs ho hrej
  · have hrej : ¬ Rejected (start c f (some pic)) (some pic) := fun hrej => by
      rcases hrej pic rfl with h | h
      · exact h hw
      · exact h hh
    rcases hend with ⟨hneg, rfl, rfl⟩ | ⟨hpos, rfl, rfl⟩
    · exact Call.failed hs ho hrej hm hneg
    · exact Call.converted hs ho hrej hm hpos

theorem f2m_process_cases {ret : ℤ} {out : List (BitVec 8)}
    (h : f2m_process T c f = some (ret, out, c')) : Call T c f ret out c' := by
  unfold f2m_process at h
  by_cases hs : (f.key && !c.header_written) = true
  · obtain ⟨hk, hw⟩ := Bool.and_eq_true_iff.mp hs
    rw [Bool.not_eq_true'] at hw
    simp only [hs, if_true, Option.bind_eq_bind, Option.bind_eq_some_iff, Option.some.injEq] at h
    obtain ⟨⟨⟨r₁, c₀, w₁⟩, q₁⟩, hi, c₁, hc₁, h⟩ := h
    obtain ⟨o, ho, hstart⟩ := init_m4v_header_eq_some hi
    have hc₁ : c₁ = start c f o := hc₁.symm.trans (hstart f hk hw)
    have hw₁ : c₁.header_written = true := by
      rw [hc₁, ← hstart f hk hw]
    simp only [hw₁, Bool.not_true, Bool.false_eq_true, if_false, Option.bind_eq_some_iff,
      Option.some.injEq, Prod.mk.injEq] at h
    obtain ⟨⟨⟨r, c₂, w⟩, q⟩, hr, rfl, rfl, rfl⟩ := h
    refine call_of_frame (.inr hk) (fun o' p' ho' => ?_) hr
    obtain ⟨rfl, -⟩ := Prod.mk.inj (Option.some.inj (ho.symm.trans ho'))
    exact hc₁
  · simp only [hs, Option.bind_eq_bind, Option.bind_some] at h
    cases hw : c.header_written with
    | false =>
      have hk : f.key = false := by simpa [hw] using hs
      rw [hw] at h
      obtain ⟨rfl, rfl, rfl⟩ := Prod.mk.inj (Option.some.inj h) |>.imp id Prod.mk.inj
      exact Call.idle hw hk
    | true =>
      simp only [hw, Bool.not_true, Bool.false_eq_true, if_false, Option.bind_eq_some_iff,
        Option.some.injEq, Prod.mk.injEq] at h
      obtain ⟨⟨⟨r, c₂, w⟩, q⟩, hr, rfl, rfl, rfl⟩ := h
      refine call_of_frame (.inl hw) (fun o _ _ => ?_) hr
      unfold start
      rw [if_neg hs]

/-! ## The output -/

theorem get_bits_ensures {n : ℕ} (hn : n ≤ 25) : Ensures (get_bits n) fun v => v < 2 ^ n := by
  intro p v q h
  obtain ⟨L, hL, rfl, -⟩ := get_bits_reads hn h
  exact hL ▸ bitsNat_lt L

theorem decode_picture_header_qscale :
    Ensures decode_picture_header fun o => ∀ pic ∈ o, pic.qscale < 32 := by
  have none_ok : Ensures (Pure.pure none : Reader (Option PICTURE)) fun o =>
      ∀ pic ∈ o, pic.qscale < 32 := Ensures.pure fun pic h => absurd h (Option.not_mem_none pic)
  refine Ensures.bind' fun _ => Ensures.ite (fun _ => none_ok) fun _ => Ensures.bind' fun _ =>
    Ensures.ite (fun _ => none_ok) fun _ => Ensures.bind' fun _ => Ensures.bind' fun _ =>
      Ensures.bind' fun size => ?_
  match size with
  | none => exact none_ok
  | some (width, height) =>
    refine Ensures.bind' fun _ => Ensures.bind' fun _ =>
      Ensures.bind (get_bits_ensures (n := 5) (by decide)) fun q hq => Ensures.bind' fun _ =>
        Ensures.pure fun pic hpic => ?_
    cases hpic
    exact hq

variable {pic : PICTURE}

theorem copy_vop_fits (hq : pic.qscale < 32) (c : CONVCTX) :
    (copy_vop pic c).Fits VOL_TIME_BITS where
  picture_type := by
    show (if pic.picture_type = FLV_I_TYPE then M4V_I_TYPE else M4V_P_TYPE) < 4
    split <;> decide
  time := by
    show c.frame % 30 < 2 ^ 5
    omega
  rounding_type := by show 0 < 2; decide
  qscale := hq
  f_code := by
    show (if pic.picture_type = FLV_I_TYPE then 0 else 1) < 8
    split <;> decide
  b_code := by show 0 < 8; decide

/-- The bits before the VOP header: the headers of the first I picture, where they are due. -/
def headerBits (c : CONVCTX) (pic : PICTURE) : List Bool :=
  if writesVol c pic then
    (m4v_encode_m4v_header (init_bw PACKETBUFFER_SIZE) (copy_vol pic c.vol)).bits
  else []

theorem init_bw_normal (size : ℕ) : (init_bw size).Normal :=
  ⟨by show 0 < 32; decide, fun _ _ => BitVec.getLsbD_zero⟩

theorem pictureStart_bits (hq : pic.qscale < 32) (c : CONVCTX) :
    (pictureStart c pic).Normal ∧ (pictureStart c pic).bits = headerBits c pic ++
      (vopStartBits (copy_vop pic (enterPicture c pic)) VOL_TIME_BITS ++
        vopEndBits (copy_vop pic (enterPicture c pic))) := by
  have hvop := encode_vop_header_writes (by decide) (copy_vop_fits hq (enterPicture c pic))
  unfold pictureStart headerBits
  by_cases hv : writesVol c pic = true
  · simp only [hv, if_true]
    exact hvop _ (m4v_encode_m4v_header_normal (init_bw_normal _) _)
  · simp only [hv]
    exact hvop _ (init_bw_normal _)

/-- **No conversion that gets to the macroblocks has an empty output.** -/
theorem failed_pos (hT : T.Fits) {p' : BR} {d : M4V_DCPRED}
    (ho : decode_picture_header (init_br f.src f.src_size) = some (some pic, p))
    (hm : convertMbs T c pic p' = some ((r, d, w), q)) :
    w.buf ≠ [] ∧ (flash_bw (m4v_stuffing w)).buf ≠ [] := by
  obtain ⟨hn, hb⟩ := pictureStart_bits (decode_picture_header_qscale _ _ _ ho pic rfl) c
  have hext : Extends (pictureStart c pic) w := write_mbs_extends hT _ _ _ _ hn _ _ _ hm
  obtain ⟨hn', L, hL⟩ := hext
  have hlen := bits_length hn'
  have hoff := hn'.1
  have h32 : 32 ≤ w.bits.length := by
    rw [hL, hb]
    simp only [vopStartBits, List.length_append, List.length_replicate, natBits_length]
    omega
  refine ⟨fun hnil => ?_, fun hnil => ?_⟩
  · rw [BW.pos, hnil, List.length_nil] at hlen
    omega
  · obtain ⟨hs, halign, L', hL'⟩ := m4v_stuffing_normal hn'
    have hbuf := congrArg List.length (flash_bw_buf hs halign)
    rw [hnil, hL', List.length_append, bytesBits_length, List.length_nil] at hbuf
    omega

end ArchosGpl.F2m
