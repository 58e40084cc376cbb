import ArchosGpl.F2m.FrameOutput

/-!
# Frames that cannot be converted

A call fails when the frame counter does not move. `Atomic` is what one would want of a failed call:
no output, and every key frame that would have been converted later is converted to the same bytes.

* **`failed_call_iff`**: a failed call is atomic if and only if the transcoder neither has started
  nor starts with the frame, or it has started and the picture header is rejected.
-/

namespace ArchosGpl.F2m

open Lib

variable (T : EncTables)

/-- The context after a sequence of calls. -/
def runs : CONVCTX → List Frame → Option CONVCTX
  | c, [] => some c
  | c, f :: fs => (f2m_process T c f).bind fun r => runs r.2.2 fs

/-- The frame is converted, to the bytes `out`. -/
def Converted (c : CONVCTX) (f : Frame) (out : List (BitVec 8)) : Prop :=
  ∃ ret c', f2m_process T c f = some (ret, out, c') ∧ c'.frame = c.frame + 1

/-- Every later key frame that is converted from `c` is converted from `c'`, to the same bytes. -/
def Recovers (c c' : CONVCTX) : Prop :=
  ∀ fs k out c₁, k.key = true → runs T c fs = some c₁ → Converted T c₁ k out →
    ∃ c₂, runs T c' fs = some c₂ ∧ Converted T c₂ k out

/-- The picture header of the frame is bad, or the size is not the context's. -/
def HeaderRejected (c : CONVCTX) (f : Frame) : Prop :=
  ∃ o p, decode_picture_header (init_br f.src f.src_size) = some (o, p) ∧ Rejected c o

variable {T}

/-! ## Planes and counters -/

variable {c : CONVCTX}

theorem f2m_process_started (hw : c.header_written = true) (f : Frame) :
    f2m_process T c f = (write_m4v_frame T c (init_bw PACKETBUFFER_SIZE)
      (init_br f.src f.src_size)).map fun r => (0, r.1.2.2.buf, r.1.2.1) := by
  unfold f2m_process
  simp only [hw, Bool.not_true, Bool.and_false, Bool.false_eq_true, if_false, Option.bind_eq_bind,
    Option.bind_some]
  cases write_m4v_frame T c (init_bw PACKETBUFFER_SIZE) (init_br f.src f.src_size) <;> rfl

variable {f : Frame}

theorem f2m_process_first {c₀ : CONVCTX} {r : ℤ} {bw : BW} {q : BR}
    (hw : c.header_written = false) (hk : f.key = true)
    (hi : init_m4v_header c (init_bw PACKETBUFFER_SIZE) (init_br f.src f.src_size) =
      some ((r, c₀, bw), q)) :
    f2m_process T c f = f2m_process T { c₀ with header_written := true } f := by
  have hstarted := f2m_process_started (T := T) (c := { c₀ with header_written := true }) rfl f
  rw [hstarted]
  unfold f2m_process
  simp only [hw, hk, hi, Bool.not_false, Bool.and_self, if_true, Option.bind_eq_bind,
    Option.bind_some, Bool.not_true, Bool.false_eq_true, if_false]
  cases write_m4v_frame T _ (init_bw PACKETBUFFER_SIZE) (init_br f.src f.src_size) <;> rfl

theorem initPlanes_call (hw : c.header_written = true) (f : Frame) :
    f2m_process T (initPlanes c) f = f2m_process T c f := by
  have hframe : write_m4v_frame T (initPlanes c) = write_m4v_frame T c := rfl
  rw [f2m_process_started hw, f2m_process_started (show (initPlanes c).header_written = true from hw),
    hframe]

theorem start_written (h : c.header_written = true ∨ f.key = true)
    (o : Option PICTURE) : (start c f o).header_written = true := by
  unfold start
  by_cases hs : (f.key && !c.header_written) = true
  · rw [if_pos hs]
    cases o <;> rfl
  · rw [if_neg hs]
    rcases h with h | h
    · exact h
    · cases hw : c.header_written with
      | true => rfl
      | false => exact absurd (by rw [h, hw]; rfl) hs

theorem start_frame (c : CONVCTX) (f : Frame) (o : Option PICTURE) : (start c f o).frame = c.frame := by
  unfold start
  split
  · cases o <;> rfl
  · rfl

theorem enterPicture_header_written (c : CONVCTX) (pic : PICTURE) :
    (enterPicture c pic).header_written = c.header_written := by
  unfold enterPicture
  split <;> rfl

theorem enterPicture_frame (c : CONVCTX) (pic : PICTURE) :
    (enterPicture c pic).frame = c.frame := by
  unfold enterPicture
  split <;> rfl

theorem converted_frame (c : CONVCTX) (f : Frame) (pic : PICTURE) (d : M4V_DCPRED) :
    (nextFrame (setPlanes (enterPicture (initPlanes (start c f (some pic))) pic) d)).frame =
      c.frame + 1 :=
  congrArg (· + 1) ((enterPicture_frame _ _).trans (start_frame c f _))

theorem Call.written {c' : CONVCTX} {ret : ℤ} {out : List (BitVec 8)}
    (h : Call T c f ret out c') : c' = c ∧ c.header_written = false ∨ c'.header_written = true := by
  cases h with
  | idle hw _ => exact .inl ⟨rfl, hw⟩
  | rejected hs _ _ => exact .inr (start_written hs _)
  | failed hs _ _ _ _ | converted hs _ _ _ _ =>
    exact .inr ((enterPicture_header_written _ _).trans (start_written hs _))

theorem runs_not_started {fs : List Frame} {c' : CONVCTX} (h : runs T c fs = some c')
    (hw : c'.header_written = false) : c' = c := by
  induction fs generalizing c with
  | nil => exact (Option.some.inj h).symm
  | cons f fs ih =>
    obtain ⟨⟨ret, out, c₁⟩, hcall, hrest⟩ := Option.bind_eq_some_iff.mp h
    have hc' : c' = c₁ := ih hrest
    rcases (f2m_process_cases hcall).written with ⟨hc₁, -⟩ | hw₁
    · exact hc'.trans hc₁
    · rw [hc', hw₁] at hw
      cases hw

theorem recovers_initPlanes (hw : c.header_written = true) : Recovers T c (initPlanes c) := by
  intro fs k out c₁ hk hrun hconv
  cases fs with
  | nil =>
    cases hrun
    obtain ⟨ret, c', hcall, hframe⟩ := hconv
    exact ⟨initPlanes c, rfl, ret, c', (initPlanes_call hw k).trans hcall, hframe⟩
  | cons f fs =>
    refine ⟨c₁, ?_, hconv⟩
    unfold runs at hrun ⊢
    rwa [initPlanes_call hw f]

/-! ## A bad first key frame -/

/-- A valid key frame: a 16 by 16 I picture, its one macroblock without AC coefficients. -/
def validFrame : Frame where
  src := [0, 0, 0x80, 0, 0x08, 0x08, 0x02, 0xa6, 0x02, 0x02, 0x02, 0x02, 0x02, 0x02, 0, 0, 0, 0]
  src_size := 14
  key := true

def validPicture : PICTURE := ⟨16, 16, FLV_I_TYPE, 0, 5, 0⟩

/-- The reader behind the picture header. -/
def validBody : BR := ⟨validFrame.src, 14, 7, 2, by decide⟩

theorem validFrame_header : decode_picture_header (init_br validFrame.src validFrame.src_size) =
    some (some validPicture, validBody) := rfl

theorem validFrame_mb : ∃ mb q, decode_I_mb { MICROBLOCK.zero with intra := true } 0 validBody =
    some ((0, mb), q) := ⟨_, _, rfl⟩

theorem validFrame_mbs (c : CONVCTX) :
    ∃ d w q, convertMbs T c validPicture validBody = some ((0, d, w), q) := by
  obtain ⟨mb, q, hmb⟩ := validFrame_mb
  have hwrite : ∃ d w, write_mb T validPicture (copy_vop validPicture (enterPicture c validPicture))
      (enterPicture c validPicture).vol.dcpred (pictureStart c validPicture) 0 0 validBody =
      some ((0, d, w), q) := by
    unfold write_mb
    rw [if_pos (show (copy_vop validPicture (enterPicture c validPicture)).picture_type = M4V_I_TYPE
      from rfl), show validPicture.escape_type = 0 from rfl, bind_of_some hmb]
    exact ⟨_, _, rfl⟩
  obtain ⟨d, w, hwrite⟩ := hwrite
  refine ⟨d, w, q, ?_⟩
  unfold convertMbs
  rw [show mbPositions ((validPicture.width + 15) / 16) ((validPicture.height + 15) / 16) = [(0, 0)]
    from rfl, write_mbs, bind_of_some hwrite]
  rfl

theorem validFrame_converted : ∃ out, Converted T f2m_create validFrame out := by
  have hinit : ∃ bw, init_m4v_header f2m_create (init_bw PACKETBUFFER_SIZE)
      (init_br validFrame.src validFrame.src_size) =
        some ((0, { start f2m_create validFrame (some validPicture) with header_written := false }, bw),
          validBody) :=
    ⟨_, (bind_of_some validFrame_header).trans rfl⟩
  obtain ⟨bw, hinit⟩ := hinit
  obtain ⟨d, w, q, hmbs⟩ := validFrame_mbs (T := T)
    (initPlanes (start f2m_create validFrame (some validPicture)))
  have hframe : write_m4v_frame T (start f2m_create validFrame (some validPicture))
      (init_bw PACKETBUFFER_SIZE) (init_br validFrame.src validFrame.src_size) =
        some ((0, nextFrame (setPlanes (enterPicture (initPlanes
          (start f2m_create validFrame (some validPicture))) validPicture) d),
          flash_bw (m4v_stuffing w)), q) := by
    refine (bind_of_some validFrame_header).trans ?_
    exact (bind_of_some hmbs).trans rfl
  refine ⟨(flash_bw (m4v_stuffing w)).buf, 0, nextFrame (setPlanes (enterPicture (initPlanes
    (start f2m_create validFrame (some validPicture))) validPicture) d), ?_,
    converted_frame f2m_create validFrame validPicture d⟩
  rw [f2m_process_first rfl rfl hinit, f2m_process_started rfl]
  exact congrArg (Option.map _) hframe

theorem not_recovers_bad_start :
    ¬ Recovers T f2m_create (initPlanes { f2m_create with header_written := true }) := by
  intro h
  obtain ⟨out, hconv⟩ := validFrame_converted (T := T)
  obtain ⟨c₂, hrun, ret, c', hcall, hframe⟩ := h [] validFrame out f2m_create rfl rfl hconv
  cases hrun
  have hrejected (o : Option PICTURE) {p : BR}
      (ho : decode_picture_header (init_br validFrame.src validFrame.src_size) = some (o, p)) :
      Rejected (initPlanes { f2m_create with header_written := true }) o := by
    obtain ⟨rfl, -⟩ := Prod.mk.inj (Option.some.inj (validFrame_header.symm.trans ho))
    intro pic hpic
    cases hpic
    exact .inl (show (0 : ℕ) ≠ 16 by decide)
  cases f2m_process_cases hcall with
  | idle hw _ => cases hw
  | rejected _ _ _ =>
    rw [show (initPlanes (start _ _ _)).frame = _ from start_frame _ _ _] at hframe
    exact absurd hframe (by show (0 : ℕ) ≠ 1; decide)
  | failed _ ho hr _ _ | converted _ ho hr _ _ => exact hr (hrejected _ ho)

theorem rejected_start (hw : c.header_written = false) (hk : f.key = true)
    {o : Option PICTURE} (h : Rejected (start c f o) o) :
    start c f o = { c with header_written := true } := by
  have hs : (f.key && !c.header_written) = true := by rw [hk, hw]; rfl
  unfold start at h ⊢
  rw [if_pos hs] at h ⊢
  cases o with
  | none => rfl
  | some pic =>
    rcases h pic rfl with h | h <;> exact absurd rfl h

/-! ## The result -/

/-- **A failed call is atomic** if and only if it is a frame before the first key frame, or a frame
with a rejected header after it. -/
theorem failed_call_iff (hT : T.Fits) {fs : List Frame} {c c' : CONVCTX}
    (hrun : runs T f2m_create fs = some c) {f : Frame} {ret : ℤ} {out : List (BitVec 8)}
    (hcall : f2m_process T c f = some (ret, out, c')) (hframe : c'.frame = c.frame) :
    (out = [] ∧ Recovers T c c') ↔
      c.header_written = false ∧ f.key = false ∨ c.header_written = true ∧ HeaderRejected c f := by
  cases f2m_process_cases hcall with
  | idle hw hk =>
    refine ⟨fun _ => .inl ⟨hw, hk⟩, fun _ => ⟨rfl, fun _ _ _ c₁ _ hr hc => ⟨c₁, hr, hc⟩⟩⟩
  | @rejected o p hs ho hr =>
    cases hw : c.header_written with
    | true =>
      have hstart : start c f o = c := by
        unfold start
        rw [if_neg (by rw [hw]; simp)]
      rw [hstart] at hr ⊢
      refine ⟨fun _ => .inr ⟨rfl, o, p, ho, hr⟩, fun _ => ⟨rfl, recovers_initPlanes hw⟩⟩
    | false =>
      have hk : f.key = true := hs.resolve_left (by rw [hw]; exact Bool.false_ne_true)
      rw [rejected_start hw hk hr, runs_not_started hrun hw]
      refine ⟨fun h => absurd h.2 not_recovers_bad_start, fun h => ?_⟩
      rcases h with ⟨-, hk'⟩ | ⟨h, -⟩
      · rw [hk] at hk'
        cases hk'
      · cases h
  | failed hs ho hr hm hneg =>
    have hpos := (failed_pos hT ho hm).1
    refine ⟨fun h => absurd h.1 hpos, fun h => ?_⟩
    rcases h with ⟨hw, hk⟩ | ⟨hw, o, p, ho', hr'⟩
    · rcases hs with hs | hs
      · rw [hw] at hs
        cases hs
      · rw [hk] at hs
        cases hs
    · obtain ⟨rfl, -⟩ := Prod.mk.inj (Option.some.inj (ho.symm.trans ho'))
      refine absurd ?_ hr
      unfold start
      rwa [if_neg (by rw [hw]; simp)]
  | converted hs ho hr hm hpos =>
    rw [converted_frame] at hframe
    omega

/-- A key frame without a start code. -/
def badFrame : Frame := ⟨[0, 0, 0, 0, 0, 0, 0, 0], 4, true⟩

theorem badFrame_call : f2m_process EncTables.sample f2m_create badFrame =
    some (0, [], initPlanes { f2m_create with header_written := true }) := rfl

theorem failed_call_iff_create :
    ∃ ret out c', f2m_process EncTables.sample f2m_create badFrame = some (ret, out, c') ∧
      ((out = [] ∧ Recovers EncTables.sample f2m_create c') ↔
        f2m_create.header_written = false ∧ badFrame.key = false ∨
        f2m_create.header_written = true ∧ HeaderRejected f2m_create badFrame) :=
  ⟨_, _, _, badFrame_call, failed_call_iff EncTables.sample_fits
    (show runs EncTables.sample f2m_create [] = some f2m_create from rfl) badFrame_call rfl⟩

/-- **A first key frame without a start code is not recovered from.** -/
theorem bad_start_not_atomic :
    ∃ ret out c', f2m_process EncTables.sample f2m_create badFrame = some (ret, out, c') ∧
      c'.frame = f2m_create.frame ∧ ¬ (out = [] ∧ Recovers EncTables.sample f2m_create c') :=
  ⟨_, _, _, badFrame_call, rfl, fun h => not_recovers_bad_start h.2⟩

end ArchosGpl.F2m
