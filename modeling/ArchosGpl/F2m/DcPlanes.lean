import ArchosGpl.F2m.DcAgreement
import ArchosGpl.F2m.Recovery
import Mathlib.Tactic.IntervalCases

/-!
# The planes of the DC prediction

`alloc_dcpred` gives every plane one row above the picture and one column on its left. Block `n` of
the macroblock `(x, y)` owns the cell in `cellRow y n` and `cellCol x n` of its plane.

* **`dc_planes_framed`**: the border has its default at every macroblock of every run.
-/

namespace ArchosGpl.F2m

open Lib

/-! ## Cells -/

def cellRow (y n : ℕ) : ℕ := if n < 4 then 2 * y + 1 + n / 2 else y + 1

def cellCol (x n : ℕ) : ℕ := if n < 4 then 2 * x + 1 + n % 2 else x + 1

/-- A cell of the row above the picture or of the column on its left. -/
def OnBorder (d : M4V_DCPRED) (n k : ℕ) : Prop := k < d.stride n ∨ k % d.stride n = 0

variable {d : M4V_DCPRED} {w h x y n : ℕ}

theorem get_dc_cur_alloc (hn : n < 6) : get_dc_cur (alloc_dcpred d w h) x y n =
    cellCol x n + cellRow y n * (alloc_dcpred d w h).stride n := by
  simp only [get_dc_cur, alloc_dcpred, cellCol, cellRow]
  interval_cases n <;> simp <;> ring

theorem cellCol_pos (x n : ℕ) : 0 < cellCol x n ∧ 0 < cellRow y n := by
  unfold cellCol cellRow
  split <;> omega

theorem cell_lt (hx : x < w) (hy : y < h) (n : ℕ) :
    cellCol x n < (alloc_dcpred d w h).stride n ∧ cellRow y n < (alloc_dcpred d w h).height n := by
  simp only [cellCol, cellRow, alloc_dcpred]
  split <;> omega

theorem cell_inside (hx : x < w) (hy : y < h) (hn : n < 6) :
    (alloc_dcpred d w h).stride n + 1 ≤ get_dc_cur (alloc_dcpred d w h) x y n ∧
      get_dc_cur (alloc_dcpred d w h) x y n <
        (alloc_dcpred d w h).stride n * (alloc_dcpred d w h).height n := by
  obtain ⟨hc, hr⟩ := cell_lt (d := d) hx hy n
  obtain ⟨hc₀, hr₀⟩ := cellCol_pos (y := y) x n
  rw [get_dc_cur_alloc hn]
  generalize (alloc_dcpred d w h).stride n = s at *
  constructor
  · have := Nat.le_mul_of_pos_left s hr₀
    omega
  · calc cellCol x n + cellRow y n * s < s + cellRow y n * s := Nat.add_lt_add_right hc _
      _ = s * (cellRow y n + 1) := by ring
      _ ≤ s * (alloc_dcpred d w h).height n := Nat.mul_le_mul_left s hr

theorem cell_div_mod (hx : x < w) (hy : y < h) (hn : n < 6) :
    get_dc_cur (alloc_dcpred d w h) x y n / (alloc_dcpred d w h).stride n = cellRow y n ∧
      get_dc_cur (alloc_dcpred d w h) x y n % (alloc_dcpred d w h).stride n = cellCol x n := by
  have hc := (cell_lt (d := d) hx hy n).1
  rw [get_dc_cur_alloc hn, Nat.add_mul_div_right _ _ (by omega), Nat.add_mul_mod_self_right,
    Nat.mod_eq_of_lt hc, Nat.div_eq_of_lt hc, Nat.zero_add]
  exact ⟨rfl, rfl⟩

theorem cell_not_onBorder (hx : x < w) (hy : y < h) (hn : n < 6) :
    ¬ OnBorder (alloc_dcpred d w h) n (get_dc_cur (alloc_dcpred d w h) x y n) := by
  have hin := (cell_inside (d := d) hx hy hn).1
  have hc := (cellCol_pos (y := y) x n).1
  rintro (hlt | hmod)
  · omega
  · rw [(cell_div_mod hx hy hn).2] at hmod
    omega

theorem planeOf_eq {n' : ℕ} (hp : planeOf n = planeOf n') : n < 4 ↔ n' < 4 := by
  unfold planeOf at hp
  split at hp <;> split at hp <;> omega

theorem cell_inj {x' y' n' : ℕ} (hx : x < w) (hy : y < h) (hn : n < 6) (hx' : x' < w)
    (hy' : y' < h) (hn' : n' < 6) (hp : planeOf n = planeOf n')
    (hcur : get_dc_cur (alloc_dcpred d w h) x y n = get_dc_cur (alloc_dcpred d w h) x' y' n') :
    x = x' ∧ y = y' ∧ n = n' := by
  have hluma := planeOf_eq hp
  have hs : (alloc_dcpred d w h).stride n = (alloc_dcpred d w h).stride n' := by
    simp only [alloc_dcpred, hluma]
  obtain ⟨hr, hc⟩ := cell_div_mod (d := d) hx hy hn
  obtain ⟨hr', hc'⟩ := cell_div_mod (d := d) hx' hy' hn'
  rw [hcur, hs] at hr hc
  have hrow : cellRow y n = cellRow y' n' := hr.symm.trans hr'
  have hcol : cellCol x n = cellCol x' n' := hc.symm.trans hc'
  by_cases hn₄ : n' < 4
  · simp only [cellRow, cellCol, hluma, hn₄, if_true] at hrow hcol
    omega
  · simp only [planeOf, cellRow, cellCol, hluma, hn₄, if_false] at hp hrow hcol
    omega

/-! ## The border -/

/-- The planes of a picture of `w` by `h` macroblocks: where there is a macroblock, as they have
been allocated, and with the default value all along the border. -/
structure Framed (w h : ℕ) (d : M4V_DCPRED) : Prop where
  layout : 0 < w → alloc_dcpred d w h = d
  border : ∀ n < 6, ∀ k, OnBorder d n k → d.plane (planeOf n) k = 1024

theorem Framed.init (hl : 0 < w → alloc_dcpred d w h = d) : Framed w h (init_dcpred d) where
  layout hw := congrArg init_dcpred (hl hw)
  border _ _ _ _ := rfl

theorem Framed.set_qscale (hd : Framed w h d) (q : ℤ) : Framed w h (dcpred_set_qscale d q) where
  layout hw := congrArg (dcpred_set_qscale · q) (hd.layout hw)
  border := hd.border

theorem Framed.set_pos (hd : Framed w h d) (x y : ℕ) : Framed w h (dcpred_set_pos d x y) where
  layout hw := congrArg (fun p => { p with dc_cur := get_dc_cur d x y }) (hd.layout hw)
  border := hd.border

theorem set_dc_onBorder {n' k : ℕ} (hl : alloc_dcpred d w h = d) (hx : x < w) (hy : y < h)
    (hn : n < 6) (hcur : d.dc_cur n = get_dc_cur d x y n) (level scale : ℤ) (hk : OnBorder d n' k) :
    (set_dc_to_dc_cur d n level scale).plane (planeOf n') k = d.plane (planeOf n') k := by
  unfold set_dc_to_dc_cur
  dsimp only
  by_cases hp : planeOf n' = planeOf n
  · rw [hp, Function.update_self]
    refine Function.update_of_ne (fun hkc => ?_) _ _
    have hs : d.stride n' = d.stride n := by
      rw [← hl]
      simp only [alloc_dcpred, planeOf_eq hp]
    refine cell_not_onBorder (d := d) hx hy hn ?_
    rw [hl, ← hcur, ← hkc, OnBorder, ← hs]
    exact hk
  · rw [Function.update_of_ne hp]

theorem Framed.write (hd : Framed w h d) (hx : x < w) (hy : y < h) (hn : n < 6)
    (hcur : d.dc_cur n = get_dc_cur d x y n) (level scale : ℤ) :
    Framed w h (set_dc_to_dc_cur d n level scale) where
  layout hw := by
    conv_rhs => rw [← hd.layout hw]
    rfl
  border n' hn' k hk :=
    (set_dc_onBorder (hd.layout (by omega)) hx hy hn hcur level scale hk).trans
      (hd.border n' hn' k hk)

theorem Framed.encode_dc_blocks (is : List ℕ) (his : ∀ n ∈ is, n < 6) (hx : x < w) (hy : y < h)
    (s : MICROBLOCK × M4V_DCPRED) (hs : Framed w h s.2) (hcur : s.2.dc_cur = get_dc_cur s.2 x y) :
    Framed w h (is.foldl encode_dc_block s).2 := by
  induction is generalizing s with
  | nil => exact hs
  | cons n is ih =>
    obtain ⟨hn, his⟩ := List.forall_mem_cons.mp his
    exact ih his _ (hs.write hx hy hn (congrFun hcur n) _ _) hcur

theorem Framed.codeMb (hd : Framed w h d) (q : ℤ) (mb : MICROBLOCK) (hx : x < w) (hy : y < h) :
    Framed w h (codeMb q d mb (x, y)).2 := by
  unfold F2m.codeMb m4v_encode_I_dcpred
  split
  · exact Framed.encode_dc_blocks _ (by decide) hx hy _ ((hd.set_qscale _).set_pos x y) rfl
  · exact hd

/-! ## A picture -/

variable {T : EncTables} {flvpic : PICTURE} {vop : M4V_VOP} {bw : BW} {ps : List (ℕ × ℕ)}

theorem write_mbs_keeps {I : M4V_DCPRED → Prop} {Q : MICROBLOCK → Prop}
    (hread : Ensures (read_mb flvpic vop) fun r => Q r.2)
    (hstep : ∀ d mb p, p ∈ ps → Q mb → I d → I (codeMb vop.qscale d mb p).2) (hd : I d) :
    Ensures (write_mbs T flvpic vop ps d bw) fun r => I r.2.1 := by
  induction ps generalizing d bw with
  | nil => exact Ensures.pure hd
  | cons p ps ih =>
    obtain ⟨x, y⟩ := p
    have hmb : Ensures (write_mb T flvpic vop d bw x y) fun r => I r.2.1 := by
      unfold read_mb at hread
      unfold write_mb
      split at hread
      all_goals
        simp only [*, if_true, if_false]
        refine Ensures.bind hread fun r hr => ?_
        refine Ensures.ite (fun _ => Ensures.pure hd) fun _ => Ensures.pure ?_
        exact hstep d r.2 (x, y) (List.mem_cons_self ..) hr hd
    refine Ensures.bind hmb fun r hr => Ensures.ite (fun _ => Ensures.pure hr) fun _ => ?_
    exact ih (fun d mb p hp => hstep d mb p (List.mem_cons_of_mem _ hp)) hr

theorem mem_mbPositions : (x, y) ∈ mbPositions w h ↔ x < w ∧ y < h := by
  simp [mbPositions, and_comm]

theorem write_mbs_framed (hps : ps <+: mbPositions w h) (hd : Framed w h d) :
    Ensures (write_mbs T flvpic vop ps d bw) fun r => Framed w h r.2.1 := by
  refine write_mbs_keeps (Q := fun _ => True) (fun _ _ _ _ => trivial)
    (fun d mb p hp _ hd => ?_) hd
  obtain ⟨hx, hy⟩ := mem_mbPositions.mp (hps.subset hp)
  exact hd.codeMb vop.qscale mb hx hy

/-! ## A run -/

/-- A context whose planes are framed for its size; before the start there is no size. -/
def Bordered (c : CONVCTX) : Prop :=
  (c.header_written = false → c.width = 0) ∧
  (c.header_written = true → Framed ((c.width + 15) / 16) ((c.height + 15) / 16) c.vol.dcpred)

variable {c c' : CONVCTX} {f : Frame} {pic : PICTURE}

theorem start_layout (hc : Bordered c) (f : Frame) (o : Option PICTURE) :
    0 < ((start c f o).width + 15) / 16 → alloc_dcpred (start c f o).vol.dcpred
      (((start c f o).width + 15) / 16) (((start c f o).height + 15) / 16) =
        (start c f o).vol.dcpred := by
  intro hw
  cases hwritten : c.header_written with
  | true =>
    have hstart : start c f o = c := by simp [start, hwritten]
    rw [hstart] at hw ⊢
    exact (hc.2 hwritten).layout hw
  | false =>
    cases hk : f.key with
    | false =>
      have hstart : start c f o = c := by simp [start, hk]
      rw [hstart, hc.1 hwritten] at hw
      cases hw
    | true =>
      cases o with
      | none =>
        have hwidth : (start c f none).width = 0 := by simp [start, hk, hwritten, hc.1 hwritten]
        rw [hwidth] at hw
        cases hw
      | some pic =>
        simp only [start, hk, hwritten, Bool.not_false, Bool.and_self, if_true]
        rfl

theorem size_of_not_rejected (hr : ¬ Rejected c (some pic)) :
    c.width = pic.width ∧ c.height = pic.height := by
  by_contra hne
  refine hr fun pic' hpic => ?_
  cases hpic
  rwa [not_and_or] at hne

theorem enterPicture_planes (c : CONVCTX) (pic : PICTURE) :
    (enterPicture (initPlanes c) pic).vol.dcpred = init_dcpred c.vol.dcpred := by
  unfold enterPicture
  split <;> rfl

theorem framed_start (hc : Bordered c) (hr : ¬ Rejected (start c f (some pic)) (some pic)) :
    Framed ((pic.width + 15) / 16) ((pic.height + 15) / 16)
      (enterPicture (initPlanes (start c f (some pic))) pic).vol.dcpred := by
  have hsize := size_of_not_rejected hr
  have hlayout := start_layout hc f (some pic)
  rw [hsize.1, hsize.2] at hlayout
  rw [enterPicture_planes]
  exact Framed.init hlayout

theorem Bordered.call (hc : Bordered c) {ret : ℤ} {out : List (BitVec 8)}
    (h : Call T c f ret out c') : Bordered c' := by
  have converted {pic : PICTURE} {d : M4V_DCPRED}
      (hs : c.header_written = true ∨ f.key = true)
      (hr : ¬ Rejected (start c f (some pic)) (some pic))
      (hd : Framed ((pic.width + 15) / 16) ((pic.height + 15) / 16) d) :
      Bordered (setPlanes (enterPicture (initPlanes (start c f (some pic))) pic) d) := by
    obtain ⟨hwidth, hheight⟩ := size_of_not_rejected hr
    have hfields : (enterPicture (initPlanes (start c f (some pic))) pic).header_written = true ∧
        (enterPicture (initPlanes (start c f (some pic))) pic).width = pic.width ∧
        (enterPicture (initPlanes (start c f (some pic))) pic).height = pic.height := by
      refine ⟨(enterPicture_header_written _ _).trans (start_written hs _), ?_⟩
      rw [← hwidth, ← hheight]
      unfold enterPicture
      split <;> exact ⟨rfl, rfl⟩
    obtain ⟨hwritten, hw, hh⟩ := hfields
    refine ⟨fun h => absurd (hwritten.symm.trans h) nofun, fun _ => ?_⟩
    change Framed ((CONVCTX.width (enterPicture _ pic) + 15) / 16)
      ((CONVCTX.height (enterPicture _ pic) + 15) / 16) d
    rw [hw, hh]
    exact hd
  cases h with
  | idle _ _ => exact hc
  | @rejected o p hs _ _ =>
    have hw := start_written hs o
    exact ⟨fun h => absurd (hw.symm.trans h) nofun,
      fun _ => Framed.init (start_layout hc f o)⟩
  | failed hs _ hr hm _ | converted hs _ hr hm _ =>
    exact converted hs hr (write_mbs_framed List.prefix_rfl (framed_start hc hr) _ _ _ hm)

theorem runs_bordered {fs : List Frame} (hc : Bordered c) (h : runs T c fs = some c') :
    Bordered c' := by
  induction fs generalizing c with
  | nil =>
    cases h
    exact hc
  | cons f fs ih =>
    obtain ⟨⟨ret, out, c₁⟩, hcall, hrest⟩ := Option.bind_eq_some_iff.mp h
    exact ih (hc.call (f2m_process_cases hcall)) hrest

/-- The planes between two macroblocks of the picture in frame `f`, a call from the context `c`. -/
def Converting (T : EncTables) (c : CONVCTX) (f : Frame) (d : M4V_DCPRED) : Prop :=
  ∃ pic ps p q r w, ¬ Rejected (start c f (some pic)) (some pic) ∧
    ps <+: mbPositions ((pic.width + 15) / 16) ((pic.height + 15) / 16) ∧
    write_mbs T pic (copy_vop pic (enterPicture (initPlanes (start c f (some pic))) pic)) ps
      (enterPicture (initPlanes (start c f (some pic))) pic).vol.dcpred
      (pictureStart (initPlanes (start c f (some pic))) pic) p = some ((r, d, w), q)

/-- **The planes of the DC prediction.** The cell of a block and its left, upper left and upper
neighbours are inside, no two blocks share a cell, and a write to the cell of a block changes no
cell of the border. In every run, the border has its default between the calls and between the
macroblocks. -/
theorem dc_planes_framed (d : M4V_DCPRED) {x y n : ℕ} (hx : x < w) (hy : y < h) (hn : n < 6)
    {fs : List Frame} (hrun : runs T f2m_create fs = some c) (f : Frame) :
    ((alloc_dcpred d w h).stride n + 1 ≤ get_dc_cur (alloc_dcpred d w h) x y n ∧
      get_dc_cur (alloc_dcpred d w h) x y n <
        (alloc_dcpred d w h).stride n * (alloc_dcpred d w h).height n) ∧
    (∀ x' < w, ∀ y' < h, ∀ n' < 6, planeOf n = planeOf n' →
      get_dc_cur (alloc_dcpred d w h) x y n = get_dc_cur (alloc_dcpred d w h) x' y' n' →
      x = x' ∧ y = y' ∧ n = n') ∧
    (∀ level scale n' k, OnBorder (alloc_dcpred d w h) n' k →
      (set_dc_to_dc_cur (dcpred_set_pos (alloc_dcpred d w h) x y) n level scale).plane
        (planeOf n') k = d.plane (planeOf n') k) ∧
    ∀ d', c.header_written = true ∧ d' = c.vol.dcpred ∨ Converting T c f d' →
      ∀ n' < 6, ∀ k, OnBorder d' n' k → d'.plane (planeOf n') k = 1024 := by
  have hc : Bordered c := runs_bordered ⟨fun _ => rfl, fun hw => (Bool.false_ne_true hw).elim⟩ hrun
  refine ⟨cell_inside hx hy hn, fun x' hx' y' hy' n' hn' => cell_inj hx hy hn hx' hy' hn',
    fun level scale n' k => set_dc_onBorder (d := dcpred_set_pos (alloc_dcpred d w h) x y) rfl
      hx hy hn rfl level scale, fun d' hd' => ?_⟩
  rcases hd' with ⟨hw, rfl⟩ | ⟨pic, ps, p, q, r, bw, hr, hps, hm⟩
  · exact (hc.2 hw).border
  · exact (write_mbs_framed hps (framed_start hc hr) _ _ _ hm).border

theorem dc_planes_framed_valid :
    ∃ c, runs EncTables.sample f2m_create [validFrame] = some c ∧
      get_dc_cur (alloc_dcpred M4V_DCPRED.zero 1 1) 0 0 3 < 3 * 3 ∧
      ∀ d, c.header_written = true ∧ d = c.vol.dcpred ∨ Converting EncTables.sample c validFrame d →
        ∀ n < 6, ∀ k, OnBorder d n k → d.plane (planeOf n) k = 1024 := by
  obtain ⟨out, ret, c, hcall, -⟩ := validFrame_converted (T := EncTables.sample)
  have hrun : runs EncTables.sample f2m_create [validFrame] = some c := by
    simp [runs, hcall]
  obtain ⟨⟨-, hin⟩, -, -, hborder⟩ := dc_planes_framed M4V_DCPRED.zero (w := 1) (h := 1) (x := 0)
    (y := 0) (n := 3) (by decide) (by decide) (by decide) hrun validFrame
  exact ⟨c, hrun, hin, hborder⟩

end ArchosGpl.F2m
