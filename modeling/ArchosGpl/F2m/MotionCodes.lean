import ArchosGpl.F2m.Decoded

/-!
# Motion vector codes, read a second time

The encoder writes the words that the decoder has recorded. An invalid word is recorded too, as nine
zeros, so whether the vectors can be read back is a question about what follows.

* **`decode_motion_replays`, `decode_mvs_replays`**: motion vectors replay, and `ok` is that the
  last component is a code word.
-/

namespace ArchosGpl.F2m

open Lib

/-! ## Replays -/

/-- Two zeros, the bits behind the nine of an invalid word. -/
def twoZeros : List Bool := [false, false]

/-- `m` has read `L` between `p` and `q`, and does it again. -/
structure Replays {α : Type} (m : Reader α) (p : BR) (L : List Bool) (q : BR) (a : α) (ok : Prop) :
    Prop where
  reads : p.Reads L q
  first : twoZeros <+: p.rest → twoZeros <+: L
  last : ¬ok → twoZeros <+: q.rest
  again : ∀ p' t, p'.rest = L ++ t → 64 ≤ t.length → (ok ∨ twoZeros <+: t) →
    ∃ q', m p' = some (a, q') ∧ q'.rest = t

/-- Two readers in sequence: where the first is not `ok`, its two zeros start the bits of the
second. -/
theorem Replays.bind {α β : Type} {m : Reader α} {f : α → Reader β} {p q r : BR} {L L' : List Bool}
    {a : α} {b : β} {ok ok' : Prop} (h : Replays m p L q a ok) (h' : Replays (f a) q L' r b ok') :
    Replays (m >>= f) p (L ++ L') r b ok' where
  reads := h.reads.trans h'.reads
  first hp := (h.first hp).trans (List.prefix_append L L')
  last := h'.last
  again p' t hp' ht hok := by
    rw [List.append_assoc] at hp'
    have hlen : 64 ≤ (L' ++ t).length := by rw [List.length_append]; omega
    have hmid : ok ∨ twoZeros <+: L' ++ t := by
      by_cases hok₁ : ok
      · exact .inl hok₁
      · exact .inr ((h'.first (h.last hok₁)).trans (List.prefix_append L' t))
    obtain ⟨q', hm, hq'⟩ := h.again p' _ hp' hlen hmid
    obtain ⟨r', hf, hr'⟩ := h'.again q' t hq' ht hok
    exact ⟨r', (bind_of_some hm).trans hf, hr'⟩

theorem Replays.map {α β : Type} {m : Reader α} {p q : BR} {L : List Bool} {a : α} {ok : Prop}
    (h : Replays m p L q a ok) (g : α → β) :
    Replays (m >>= fun a => pure (g a)) p L q (g a) ok where
  reads := h.reads
  first := h.first
  last := h.last
  again p' t hp' ht hok := by
    obtain ⟨q', hm, hq'⟩ := h.again p' t hp' ht hok
    exact ⟨q', bind_of_some hm, hq'⟩

theorem Replays.congr {α : Type} {m : Reader α} {p q : BR} {L L' : List Bool} {a : α} {ok ok' : Prop}
    (h : Replays m p L q a ok) (hL : L = L') (hok : ok ↔ ok') : Replays m p L' q a ok' := by
  obtain rfl := propext hok
  exact hL ▸ h

/-! ## One component -/

/-- The recorded word is the word of a motion vector code, with its extra bit. -/
def MvCode (v : VLCDEC) : Prop :=
  ∃ c < mv_vlc.length, natBits v.bits v.value = vlcWord mv_vlc c ∧
    v.bits_ex = if c = 0 then 0 else 1

instance (v : VLCDEC) : Decidable (MvCode v) := by unfold MvCode; infer_instance

/-- A code of the table has a word, with at least one bit, that has neither eleven zeros nor is
itself a beginning of two zeros. -/
theorem mv_words : (mv_vlc.all fun w => decide (0 < w.2 ∧ w.2 ≤ 24) &&
    !((natBits 11 0).isPrefixOf (natBits w.2 w.1) || (natBits w.2 w.1).isPrefixOf (natBits 11 0)) &&
    !(natBits w.2 w.1).isPrefixOf twoZeros) = true := by
  decide

theorem mv_word_props {c : ℕ} (hc : c < mv_vlc.length) :
    0 < (mv_vlc.getD c (0, 0)).2 ∧ (vlcWord mv_vlc c).length ≤ 24 ∧
      ¬ natBits 11 0 <+: vlcWord mv_vlc c ∧ ¬ vlcWord mv_vlc c <+: natBits 11 0 ∧
      ¬ vlcWord mv_vlc c <+: twoZeros := by
  have hmem : mv_vlc.getD c (0, 0) ∈ mv_vlc := by
    rw [List.getD_eq_getElem _ _ hc]
    exact List.getElem_mem hc
  have h := List.all_eq_true.mp mv_words _ hmem
  simp only [Bool.and_eq_true, Bool.not_eq_true', ← Bool.not_eq_true, Bool.or_eq_true,
    decide_eq_true_eq, List.isPrefixOf_iff_prefix, not_or] at h
  obtain ⟨⟨⟨h0, h24⟩, hz, hz'⟩, h2⟩ := h
  exact ⟨h0, by rw [vlcWord, natBits_length]; exact h24, hz, hz', h2⟩

theorem mv_code_lt {c : ℕ} (h : 0 < (mv_vlc.getD c (0, 0)).2) : c < mv_vlc.length := by
  by_contra hc
  rw [List.getD_eq_default _ _ (by omega)] at h
  exact absurd h (Nat.lt_irrefl 0)

theorem decode_motion_parses {c : ℕ} (hc : c < mv_vlc.length) {tmp : ℕ} (ht : tmp < 2) :
    Parses (decode_motion VLCDEC.zero)
      (vlcWord mv_vlc c ++ if c = 0 then [] else natBits 1 tmp)
      (0, ⟨(vlcWord mv_vlc c).length, bitsNat (vlcWord mv_vlc c), if c = 0 then 0 else 1,
        if c = 0 then 0 else tmp⟩) := by
  obtain ⟨h0, h24, -⟩ := mv_word_props hc
  have hcode := get_vlcdec_parses mv_decodes (by decide) h0 h24 VLCDEC.zero
  unfold decode_motion
  refine hcode.bind ?_
  by_cases hc0 : c = 0
  · subst hc0
    exact Consumes.pure _
  · have hne : (c : ℤ) ≠ 0 := by omega
    have hnn : ¬ (c : ℤ) < 0 := by omega
    simp only [hne, hnn, hc0, if_false]
    rw [← List.append_nil (natBits 1 tmp)]
    exact (get_bits_parses_natBits (n := 1) ht (by decide)).bind (Consumes.pure _)

theorem decode_motion_zeros {p : BR} {t : List Bool} (hp : p.rest = natBits 9 0 ++ t)
    (ht : 64 ≤ t.length) (h0 : twoZeros <+: t) :
    ∃ q, decode_motion VLCDEC.zero p = some ((-1, ⟨9, 0, 0, 0⟩), q) ∧ q.rest = t := by
  have hzeros : natBits 11 0 <+: p.rest := by
    rw [hp, natBits_append 9 2]
    exact (List.prefix_append_right_inj _).mpr h0
  have hlen : 64 ≤ p.rest.length := by rw [hp, List.length_append]; omega
  obtain ⟨c, q, hg⟩ := get_vlc_isSome mv_invalid (by decide) hlen
  have hneg : c < 0 := by
    by_contra hc
    obtain ⟨hused, hr⟩ := get_vlc_word mv_decodes (by decide) hg (by omega)
    have hword : vlcWord mv_vlc c.toNat <+: p.rest := ⟨_, hr.rest.symm⟩
    obtain ⟨-, -, hz, hz', -⟩ := mv_word_props (mv_code_lt hused)
    rcases List.prefix_or_prefix_of_prefix hzeros hword with h | h
    · exact hz h
    · exact hz' h
  obtain ⟨W, k, hk, hW, hkW, hr⟩ := get_vlc_window mv_invalid (by decide) hg
  rw [decide_eq_false (by omega), Bool.false_or, Bool.and_eq_true, beq_iff_eq] at hk
  obtain ⟨rfl, -⟩ := hk
  have hW9 : W.take 9 = natBits 9 0 := by
    have hpre := (List.take_prefix 9 W).trans hW
    rw [hp] at hpre
    have hpre' : W.take 9 <+: natBits 9 0 :=
      List.prefix_of_prefix_length_le hpre (List.prefix_append _ _)
        (by rw [List.length_take, natBits_length]; omega)
    exact hpre'.eq_of_length (by rw [List.length_take, natBits_length]; omega)
  rw [hW9] at hr
  have hrest : q.rest = t := by
    have := hr.rest
    rw [hp] at this
    exact (List.append_cancel_left this).symm
  have hl : p.read + 4 ≤ p.buf.length := load_of_rest_length (by omega)
  have hv := (get_vlcdec_eq_some (v := VLCDEC.zero)).mpr ⟨hl, hg, rfl⟩
  rw [get_vlcdec_reads hv hr (by rw [natBits_length]; decide)] at hv
  refine ⟨q, ?_, hrest⟩
  unfold decode_motion
  rw [bind_of_some hv]
  simp only [hneg.ne, hneg, if_false, if_true]
  rfl

/-- **One component replays**, and it needs nothing of what follows if it is a code word. -/
theorem decode_motion_replays {p q : BR} {r : ℤ} {v : VLCDEC}
    (h : decode_motion VLCDEC.zero p = some ((r, v), q)) :
    Replays (decode_motion VLCDEC.zero) p (mvBits v) q (r, v) (MvCode v) := by
  obtain ⟨⟨c, v₁⟩, p₁, hv, h⟩ := bind_eq_some.mp h
  obtain ⟨hl, hg, -⟩ := get_vlcdec_eq_some.mp hv
  by_cases hneg : c < 0
  · -- an invalid word: eleven zeros, of which nine are taken off
    simp only [hneg.ne, hneg, if_false, if_true] at h
    obtain ⟨hrv, rfl⟩ := pure_eq_some.mp h
    obtain ⟨rfl, rfl⟩ := Prod.mk.inj hrv
    obtain ⟨W, k, hk, hW, hkW, hr⟩ := get_vlc_window mv_invalid (by decide) hg
    rw [decide_eq_false (by omega), Bool.false_or, Bool.and_eq_true, beq_iff_eq, beq_iff_eq] at hk
    obtain ⟨rfl, hz⟩ := hk
    have hz9 : W.take 9 = natBits 9 0 := by
      have := congrArg (List.take 9) hz
      rwa [List.take_take] at this
    rw [hz9] at hr
    obtain rfl := get_vlcdec_reads hv hr (by rw [natBits_length]; decide)
    have hzeros : twoZeros <+: p₁.rest := by
      have hpre : natBits 9 0 ++ twoZeros <+: p.rest := by
        refine List.IsPrefix.trans ?_ hW
        rw [show natBits 9 0 ++ twoZeros = natBits 11 0 from rfl, ← hz]
        exact List.take_prefix _ _
      rw [hr.rest] at hpre
      exact (List.prefix_append_right_inj _).mp hpre
    refine ⟨hr, fun _ => ?_, fun _ => hzeros, fun p' t hp' ht hok => ?_⟩
    · exact ⟨natBits 7 0, rfl⟩
    · refine decode_motion_zeros hp' ht (hok.resolve_left ?_)
      show ¬ MvCode ⟨9, 0, 0, 0⟩
      decide
  · obtain ⟨c, rfl⟩ := Int.eq_ofNat_of_zero_le (not_lt.mp hneg)
    obtain ⟨hused, hr⟩ := get_vlc_word mv_decodes (by decide) hg (by omega)
    rw [Int.toNat_natCast] at hused hr
    have hc := mv_code_lt hused
    obtain ⟨-, h24, -, -, h2⟩ := mv_word_props hc
    obtain rfl := get_vlcdec_reads hv hr h24
    have hword : natBits (vlcWord mv_vlc c).length (bitsNat (vlcWord mv_vlc c)) = vlcWord mv_vlc c :=
      natBits_bitsNat rfl
    have first {L : List Bool} (hp : twoZeros <+: p.rest) : twoZeros <+: vlcWord mv_vlc c ++ L := by
      rcases List.prefix_or_prefix_of_prefix hp ⟨_, hr.rest.symm⟩ with h' | h'
      · exact h'.trans (List.prefix_append _ _)
      · exact absurd h' h2
    by_cases hc0 : c = 0
    · subst hc0
      obtain ⟨hrv, rfl⟩ := pure_eq_some.mp h
      obtain ⟨rfl, rfl⟩ := Prod.mk.inj hrv
      have hcode : MvCode ⟨(vlcWord mv_vlc 0).length, bitsNat (vlcWord mv_vlc 0), 0, 0⟩ :=
        ⟨0, hc, hword, rfl⟩
      refine ⟨?_, fun hp => first hp, fun hn => absurd hcode hn, fun p' t hp' ht _ => ?_⟩
      · exact hr
      · exact decode_motion_parses hc (show 0 < 2 by decide) p' t hp' ht
    · have hne : ¬ (c : ℤ) = 0 := by omega
      simp only [hne, hneg, if_false] at h
      obtain ⟨tmp, p₂, hb, h⟩ := bind_eq_some.mp h
      obtain ⟨hrv, rfl⟩ := pure_eq_some.mp h
      obtain ⟨rfl, rfl⟩ := Prod.mk.inj hrv
      obtain ⟨L, hL, rfl, hr'⟩ := get_bits_reads (by decide) hb
      have ht := bitsNat_lt L
      rw [hL, pow_one] at ht
      have hcode : MvCode ⟨(vlcWord mv_vlc c).length, bitsNat (vlcWord mv_vlc c), 1, bitsNat L⟩ :=
        ⟨c, hc, hword, by rw [if_neg hc0]⟩
      have hbits : mvBits ⟨(vlcWord mv_vlc c).length, bitsNat (vlcWord mv_vlc c), 1, bitsNat L⟩ =
          vlcWord mv_vlc c ++ L := by
        show natBits _ _ ++ (if (1 : ℕ) ≠ 0 then natBits 1 (bitsNat L) else []) = _
        rw [if_pos one_ne_zero, hword, natBits_bitsNat hL]
      rw [hbits]
      refine ⟨hr.trans hr', fun hp => first hp, fun hn => absurd hcode hn, fun p' t hp' ht' _ => ?_⟩
      have := decode_motion_parses hc ht p' t (by rw [hp', if_neg hc0, natBits_bitsNat hL]) ht'
      simpa only [hc0, if_false] using this

/-! ## All vectors of a macroblock -/

/-- The last component read. -/
def MICROBLOCK.lastMv (mb : MICROBLOCK) : VLCDEC :=
  match mb.mv_type with
  | .MV_TYPE_16X16 => mb.mv_y 0
  | .MV_TYPE_8X8 => mb.mv_y 3

theorem decode_mv_replays {i : ℕ} {mb mb' : MICROBLOCK} {p q : BR} (hx : mb.mv_x i = VLCDEC.zero)
    (hy : mb.mv_y i = VLCDEC.zero) (h : decode_mv i mb p = some (mb', q)) :
    ∃ x y, mb' = { mb with
        mv_x := Function.update mb.mv_x i x
        mv_y := Function.update mb.mv_y i y } ∧
      Replays (decode_mv i mb) p (mvBits x ++ mvBits y) q mb' (MvCode y) := by
  unfold decode_mv at h ⊢
  rw [hx, hy] at h ⊢
  obtain ⟨⟨r, x⟩, p₁, hmx, h⟩ := bind_eq_some.mp h
  obtain ⟨⟨r', y⟩, p₂, hmy, h⟩ := bind_eq_some.mp h
  obtain ⟨rfl, rfl⟩ := pure_eq_some.mp h
  exact ⟨x, y, rfl, (decode_motion_replays hmx).bind ((decode_motion_replays hmy).map _)⟩

/-- **The vectors of a macroblock replay**, and they need nothing of what follows if the last
component is a code word. -/
theorem decode_mvs_replays {cbpc : ℕ} {mb mb' : MICROBLOCK} {p q : BR}
    (hx : ∀ i, mb.mv_x i = VLCDEC.zero) (hy : ∀ i, mb.mv_y i = VLCDEC.zero)
    (h : decode_mvs cbpc mb p = some (mb', q)) :
    Replays (decode_mvs cbpc mb) p ((mvIndices mb'.mv_type).flatMap (motionBits mb')) q mb'
      (MvCode mb'.lastMv) := by
  unfold decode_mvs at h ⊢
  split at h
  · rename_i hcbpc
    rw [if_pos hcbpc]
    obtain ⟨mb₀, p₀, h₀, h⟩ := bind_eq_some.mp h
    obtain ⟨rfl, rfl⟩ := pure_eq_some.mp h
    obtain ⟨x, y, rfl, hr⟩ := decode_mv_replays (hx 0) (hy 0) h₀
    refine (hr.map _).congr ?_ ?_
    · simp [mvIndices, motionBits]
    · simp [MICROBLOCK.lastMv]
  · rename_i hcbpc
    rw [if_neg hcbpc]
    obtain ⟨mb₀, p₀, h₀, h⟩ := bind_eq_some.mp h
    obtain ⟨mb₁, p₁, h₁, h⟩ := bind_eq_some.mp h
    obtain ⟨mb₂, p₂, h₂, h⟩ := bind_eq_some.mp h
    obtain ⟨mb₃, p₃, h₃, h⟩ := bind_eq_some.mp h
    obtain ⟨rfl, rfl⟩ := pure_eq_some.mp h
    obtain ⟨x₀, y₀, rfl, hr₀⟩ := decode_mv_replays (hx 0) (hy 0) h₀
    obtain ⟨x₁, y₁, rfl, hr₁⟩ := decode_mv_replays (by simp [hx]) (by simp [hy]) h₁
    obtain ⟨x₂, y₂, rfl, hr₂⟩ := decode_mv_replays (by simp [hx]) (by simp [hy]) h₂
    obtain ⟨x₃, y₃, rfl, hr₃⟩ := decode_mv_replays (by simp [hx]) (by simp [hy]) h₃
    refine (hr₀.bind (hr₁.bind (hr₂.bind (hr₃.map _)))).congr ?_ ?_
    · simp [mvIndices, motionBits]
    · simp [MICROBLOCK.lastMv]

end ArchosGpl.F2m
