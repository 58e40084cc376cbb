import ArchosGpl.F2m.Coefficients

/-!
# The events of an inter block, written and read back

`encode_AC` finds one event for each coefficient in front of `last_index`, and one more at
`last_index`, whatever its level is. The table has no word for level 0, so that event may be
written as nothing.

* **`inter_events_iff`**: the events written are the coefficients of the block, with one last event
  at the end, and are read back, exactly if the block is not coded or its last level is not 0.
-/

namespace ArchosGpl.F2m

open Lib

/-! ## What is written -/

/-- The words for inter blocks: a code of the decoder's table with its sign has the decoder's word,
and no word but those of level 0 is empty. -/
structure EncTables.InterWords (T : EncTables) : Prop where
  fits : T.Fits
  code : ∀ code < 102, ∀ sign, coefBits T false (FlvCoef.table code sign).denotes =
    (FlvCoef.table code sign).bits
  empty : ∀ last, ∀ run < 64, ∀ level : ℤ, -64 ≤ level → level < 64 →
    (T.uni_mpeg4_inter_rl_len (uniIndex last run (level + 64).toNat) = 0 ↔ level = 0)

/-- A block as `decode_AC` and `encode_AC` use it: `last_index` is -1 or a scan index, no
coefficient is behind it, and the levels fit the third escape. -/
structure BLOCK.Scanned (b : BLOCK) : Prop where
  last_index : -1 ≤ b.last_index ∧ b.last_index < 64
  beyond : ∀ k : ℕ, b.last_index < k → k < 64 → b.block (zigZag k) = 0
  level : ∀ i, -2048 ≤ b.block i ∧ b.block i < 2048

def interEvents (T : EncTables) (b : BLOCK) : List Triple :=
  (ac_triples b false).filter fun c => coefBits T false c ≠ []

/-- An event with a code in the table of the decoder. -/
def HasCode (c : Triple) : Prop := ∃ code < 102, ∃ sign, (FlvCoef.table code sign).denotes = c

variable {T : EncTables} {b : BLOCK} {c : Triple} {start i n : ℕ} {blk : ℕ → ℤ}

theorem coefBits_eq_nil (hT : T.InterWords) (hrun : c.2.1 < 64) :
    coefBits T false c = [] ↔ c.2.2 = 0 := by
  unfold coefBits
  split
  case isTrue h =>
    rw [if_neg Bool.false_ne_true, ← hT.empty c.1 c.2.1 hrun c.2.2 (by omega) (by omega),
      ← List.length_eq_zero_iff, natBits_length]
  case isFalse h =>
    refine ⟨fun hnil => ?_, fun h0 => absurd h (by rw [h0]; decide)⟩
    have hlen := congrArg List.length hnil
    simp [escapeBits] at hlen

theorem flatMap_filter_ne_nil {α β : Type} [DecidableEq β] (f : α → List β) (l : List α) :
    (l.filter fun a => f a ≠ []).flatMap f = l.flatMap f := by
  induction l with
  | nil => rfl
  | cons a l ih =>
    by_cases h : f a = []
    · simpa [h] using ih
    · simpa [h] using ih

/-! ## Without the events of level 0 -/

theorem coefs_ac_loop_filter (h : start ≤ i) (k : ℕ) :
    coefs start ((ac_loop blk n i start).filter fun c => c.2.2 ≠ 0) k =
      if i ≤ k ∧ k ≤ i + n then blk (zigZag k) else 0 := by
  rw [← coefs_ac_loop blk h]
  induction n generalizing i start with
  | zero =>
    by_cases h0 : blk (zigZag i) = 0
    · simp [ac_loop, coefs, h0]
    · simp [ac_loop, h0]
  | succ n ih =>
    by_cases h0 : blk (zigZag i) = 0
    · simpa [ac_loop, h0] using ih (show start ≤ i + 1 by omega)
    · rw [ac_loop, if_pos h0, List.filter_cons_of_pos (by simpa using h0), coefs, coefs]
      rw [Nat.add_sub_cancel' h, ih le_rfl]

theorem ac_loop_marked (hc : c ∈ ac_loop blk n i start) (hl : c.1 = true) :
    c.2.2 = blk (zigZag (i + n)) := by
  induction n generalizing i start with
  | zero =>
    rw [ac_loop, List.mem_singleton] at hc
    rw [hc]
    rfl
  | succ n ih =>
    rw [ac_loop] at hc
    have hend : i + (n + 1) = i + 1 + n := by omega
    rw [hend]
    split at hc
    · rcases List.mem_cons.mp hc with rfl | hc
      · cases hl
      · exact ih hc
    · exact ih hc

theorem exists_marked {cs : List Triple} (h : Chain start cs) : ∃ c ∈ cs, c.1 = true := by
  induction cs generalizing start with
  | nil => exact h.elim
  | cons c cs ih =>
    obtain ⟨-, h⟩ := h
    split at h
    · exact ⟨c, List.mem_cons_self .., ‹_›⟩
    · obtain ⟨c', hc', hl⟩ := ih h
      exact ⟨c', List.mem_cons_of_mem _ hc', hl⟩

/-! ## Reading back -/

theorem decode_coef_parses {code : ℕ} (hc : code < 102) (sign : Bool) (escape_type : ℕ) :
    Parses (decode_coef escape_type) (FlvCoef.table code sign).bits
      (some (FlvCoef.table code sign).denotes) := by
  have hused : ∀ code < 102, 0 < (rl_inter_vlc.getD code (0, 0)).2 := by decide
  refine (get_vlc_parses rl_inter_decodes (by decide) (hused code hc)).bind ?_
  rw [if_neg (by omega), if_neg (by unfold rl_inter_n; omega), ← List.append_nil [sign]]
  refine (get_bits_parses (n := 1) rfl (by decide)).bind ((Consumes.pure _).congr rfl ?_)
  cases sign <;> rfl

theorem set_zigZag {k : ℕ} (b : BLOCK) (v : ℤ) (hi : i < 64) (hk : k < 64) :
    (b.set (zigZag i) v).block (zigZag k) = if k = i then v else b.block (zigZag k) := by
  rw [BLOCK.set_block]
  split
  case isTrue h => rw [h, Function.update_self]
  case isFalse h => exact Function.update_of_ne (fun heq => h (zigZag_inj hk hi heq)) _ _

/-- **Events with words that are read one by one are read as a block.** -/
theorem decode_AC_loop_parses {escape_type fuel : ℕ} {w : Triple → List Bool}
    (hw : ∀ c ∈ ac_loop blk n i start, Parses (decode_coef escape_type) (w c) (some c))
    (h : start ≤ i) (hn : i + n < 64) (hf : n < fuel)
    (hlow : ∀ k < i, b.block (zigZag k) = blk (zigZag k))
    (hhigh : ∀ k, i ≤ k → k < 64 → b.block (zigZag k) = 0) :
    ∃ b' : BLOCK, Parses (decode_AC_loop escape_type fuel b start)
        ((ac_loop blk n i start).flatMap w) (0, b') ∧ b'.last_index = (i + n : ℕ) ∧
      ∀ k < 64, b'.block (zigZag k) = if k ≤ i + n then blk (zigZag k) else 0 := by
  induction n generalizing i start fuel b with
  | zero =>
    obtain ⟨fuel, rfl⟩ := Nat.exists_eq_succ_of_ne_zero (by omega : fuel ≠ 0)
    refine ⟨{ b.set (zigZag i) (blk (zigZag i)) with last_index := (i : ℕ) }, ?_, rfl,
      fun k hk => ?_⟩
    · rw [ac_loop, List.flatMap_cons, List.flatMap_nil]
      refine (hw _ (List.mem_singleton_self _)).bind ?_
      simp only [Nat.add_sub_cancel' h]
      rw [if_neg (by omega)]
      exact Consumes.pure _
    · refine (set_zigZag b _ (by omega) hk).trans ?_
      rcases lt_trichotomy k i with hki | rfl | hki
      · rw [if_neg (by omega), if_pos (by omega), hlow k hki]
      · rw [if_pos rfl, if_pos (by omega)]
      · rw [if_neg (by omega), if_neg (by omega), hhigh k (by omega) hk]
  | succ n ih =>
    have hend : i + (n + 1) = i + 1 + n := by omega
    rw [ac_loop] at hw ⊢
    rw [hend]
    by_cases h0 : blk (zigZag i) = 0
    · rw [if_neg (not_not.mpr h0)] at hw ⊢
      refine ih hw (by omega) (by omega) (by omega) (fun k hk => ?_)
        fun k hik hk => hhigh k (by omega) hk
      rcases Nat.lt_succ_iff_lt_or_eq.mp hk with hk | rfl
      · exact hlow k hk
      · rw [h0, hhigh k le_rfl (by omega)]
    · rw [if_pos h0] at hw ⊢
      obtain ⟨hc, hw⟩ := List.forall_mem_cons.mp hw
      obtain ⟨fuel, rfl⟩ := Nat.exists_eq_succ_of_ne_zero (by omega : fuel ≠ 0)
      have hset (k : ℕ) (hk : k < 64) := set_zigZag (k := k) b (blk (zigZag i))
        (show i < 64 by omega) hk
      obtain ⟨b', hp, hlast, hb'⟩ := ih (b := b.set (zigZag i) (blk (zigZag i))) hw
        le_rfl (by omega) (show n < fuel by omega) (fun k hk => by
          rw [hset k (by omega)]
          split
          case isTrue h => rw [h]
          case isFalse h => exact hlow k (by omega))
        (fun k hik hk => by
          rw [hset k hk, if_neg (by omega)]
          exact hhigh k (by omega) hk)
      refine ⟨b', ?_, hlast, hb'⟩
      refine hc.bind ?_
      simp only [Nat.add_sub_cancel' h]
      rw [if_neg (by omega), if_neg Bool.false_ne_true]
      exact hp

/-! ## The result -/

/-- What one would want of the events of an inter block: they are its coefficients in scan order,
the last one is marked, and if every event has a code, the block is read back. -/
structure InterRoundTrip (T : EncTables) (b : BLOCK) : Prop where
  written : Writes (encode_AC T · b false) ((interEvents T b).flatMap (coefBits T false))
  same : ∀ k < 64, coefs 0 (interEvents T b) k = b.block (zigZag k)
  nonzero : ∀ c ∈ interEvents T b, c.2.2 ≠ 0
  uncoded : b.last_index < 0 → interEvents T b = []
  ends : 0 ≤ b.last_index → Chain 0 (interEvents T b)
  escapes : ∀ c ∈ interEvents T b, ¬ (0 ≤ c.2.2 + 64 ∧ c.2.2 + 64 ≤ 127) →
    coefBits T false c = escapeBits c.1 c.2.1 c.2.2 ∧
      Parses read_escape_3 (escapeBits c.1 c.2.1 c.2.2) c
  decoded : 0 ≤ b.last_index → (∀ c ∈ interEvents T b, HasCode c) → ∀ escape_type,
    ∃ b' : BLOCK, Parses (decode_AC ⟨fun _ => 0, -1⟩ escape_type 0)
        ((interEvents T b).flatMap (coefBits T false)) (0, b') ∧
      b'.last_index = b.last_index ∧ ∀ k < 64, b'.block (zigZag k) = b.block (zigZag k)

/-- **The events of an inter block** are as one would want them exactly if the block is not coded or
its last level is not 0. -/
theorem inter_events_iff (hT : T.InterWords) (hb : b.Scanned) :
    InterRoundTrip T b ↔ (0 ≤ b.last_index → b.block (zigZag b.last_index.toNat) ≠ 0) := by
  have htriples : ac_triples b false = ac_loop b.block b.last_index.toNat 0 0 := by
    unfold ac_triples
    simp
  obtain ⟨hlow, hhigh⟩ := hb.last_index
  have hrun : ∀ c ∈ ac_loop b.block b.last_index.toNat 0 0, c.2.1 < 64 :=
    ac_loop_run_lt b.block (by omega)
  have hevents : interEvents T b =
      (ac_loop b.block b.last_index.toNat 0 0).filter fun c => c.2.2 ≠ 0 := by
    rw [interEvents, htriples]
    exact List.filter_congr fun c hc => decide_eq_decide.mpr
      (not_congr (coefBits_eq_nil hT (hrun c hc)))
  have hmem {c : Triple} (hc : c ∈ interEvents T b) :
      c ∈ ac_loop b.block b.last_index.toNat 0 0 ∧ c.2.2 ≠ 0 := by
    rw [hevents, List.mem_filter] at hc
    exact ⟨hc.1, of_decide_eq_true hc.2⟩
  constructor
  · intro h hcoded h0
    obtain ⟨c, hc, hl⟩ := exists_marked (h.ends hcoded)
    refine (hmem hc).2 ((ac_loop_marked (hmem hc).1 hl).trans ?_)
    rw [Nat.zero_add, h0]
  · intro hlast
    have hend (k : ℕ) (hk : k < 64) :
        (if k ≤ 0 + b.last_index.toNat then b.block (zigZag k) else 0) = b.block (zigZag k) := by
      split
      · rfl
      · exact (hb.beyond k (by omega) hk).symm
    have hall (hcoded : 0 ≤ b.last_index) :
        interEvents T b = ac_loop b.block b.last_index.toNat 0 0 := by
      rw [hevents]
      refine List.filter_eq_self.mpr fun c hc => decide_eq_true ?_
      refine (ac_loop_nonzero b.block b.last_index.toNat 0 0).mpr ?_ c hc
      rw [Nat.zero_add]
      exact hlast hcoded
    constructor
    case written =>
      rw [interEvents, flatMap_filter_ne_nil]
      exact encode_AC_writes hT.fits false hhigh
    case same =>
      intro k hk
      rw [hevents, coefs_ac_loop_filter le_rfl]
      simpa using hend k hk
    case nonzero => exact fun c hc => (hmem hc).2
    case uncoded =>
      intro hneg
      have h0 : b.block (zigZag 0) = 0 := hb.beyond 0 (by exact_mod_cast hneg) (by decide)
      rw [hevents, show b.last_index.toNat = 0 by omega]
      simp [ac_loop, h0]
    case ends =>
      intro hcoded
      rw [hall hcoded]
      exact chain_ac_loop b.block le_rfl (by omega)
    case escapes =>
      intro c hc hout
      obtain ⟨k, -, -, hk⟩ := ac_loop_level _ _ _ _ c (hmem hc).1
      exact ⟨if_neg hout, read_escape_3_parses (hrun c (hmem hc).1) (hk ▸ hb.level _)⟩
    case decoded =>
      intro hcoded hcode escape_type
      rw [hall hcoded] at hcode ⊢
      have hwords : ∀ c ∈ ac_loop b.block b.last_index.toNat 0 0,
          Parses (decode_coef escape_type) (coefBits T false c) (some c) := by
        intro c hc
        obtain ⟨code, hlt, sign, rfl⟩ := hcode c hc
        rw [hT.code code hlt sign]
        exact decode_coef_parses hlt sign escape_type
      obtain ⟨b', hp, hindex, hblock⟩ := decode_AC_loop_parses (b := ⟨fun _ => 0, -1⟩)
        hwords le_rfl (by omega) (show _ < 65 by omega) (fun k hk => absurd hk (Nat.not_lt_zero k))
        (fun _ _ _ => rfl)
      exact ⟨b', hp, by omega, fun k hk => (hblock k hk).trans (hend k hk)⟩

/-! ## Tables for inter blocks -/

def tableCodes : List FlvCoef :=
  (List.range 102).flatMap fun code => [.table code false, .table code true]

def interIndex (c : Triple) : ℕ := uniIndex c.1 c.2.1 (c.2.2 + 64).toNat

def codeAt (i : ℕ) : Option FlvCoef := tableCodes.find? fun e => interIndex e.denotes = i

set_option maxRecDepth 4000 in
theorem codeAt_index : ∀ e ∈ tableCodes, codeAt (interIndex e.denotes) = some e := by
  decide +kernel

theorem tableCodes_bits : ∀ e ∈ tableCodes, 0 < e.bits.length ∧ e.bits.length ≤ 13 ∧
    0 ≤ e.denotes.2.2 + 64 ∧ e.denotes.2.2 + 64 ≤ 127 ∧ e.denotes.2.2 ≠ 0 := by
  decide +kernel

/-- The words of the generated tables for the codes, and 30 zeros for the escapes. -/
def EncTables.interSample : EncTables :=
  { EncTables.sample with
    uni_mpeg4_inter_rl_len := fun i =>
      if i % 128 = 64 then 0 else ((codeAt i).map fun e => e.bits.length).getD 30
    uni_mpeg4_inter_rl_bits := fun i =>
      if i % 128 = 64 then 0 else ((codeAt i).map fun e => bitsNat e.bits).getD 0 }

theorem codeAt_bits {i : ℕ} {e : FlvCoef} (h : codeAt i = some e) :
    0 < e.bits.length ∧ e.bits.length ≤ 13 :=
  have hb := tableCodes_bits e (List.mem_of_find?_eq_some h)
  ⟨hb.1, hb.2.1⟩

theorem EncTables.interSample_words : EncTables.interSample.InterWords where
  fits := by
    refine ⟨sample_fits.lum, sample_fits.chrom, sample_fits.intra, fun i => ?_⟩
    dsimp only [interSample]
    split
    · decide
    · cases h : codeAt i with
      | none => decide
      | some e => exact ⟨(codeAt_bits h).2.trans (by decide), bitsNat_lt e.bits⟩
  code code hlt sign := by
    have hmem : FlvCoef.table code sign ∈ tableCodes :=
      List.mem_flatMap.mpr ⟨code, List.mem_range.mpr hlt, by cases sign <;> simp⟩
    obtain ⟨-, -, h0, h127, hne⟩ := tableCodes_bits _ hmem
    have hindex : interIndex (FlvCoef.table code sign).denotes % 128 ≠ 64 := by
      rw [interIndex, uniIndex]
      omega
    rw [coefBits, if_pos ⟨h0, h127⟩, if_neg Bool.false_ne_true]
    dsimp only [interSample]
    rw [← interIndex, if_neg hindex, if_neg hindex, codeAt_index _ hmem]
    exact natBits_bitsNat rfl
  empty last run hrun level hlow hhigh := by
    have hindex : uniIndex last run (level + 64).toNat % 128 = 64 ↔ level = 0 := by
      rw [uniIndex]
      omega
    dsimp only [interSample]
    rw [← hindex]
    split
    case isTrue h => exact ⟨fun _ => h, fun _ => rfl⟩
    case isFalse h =>
      refine ⟨fun h0 => ?_, fun h64 => absurd h64 h⟩
      cases hcode : codeAt (uniIndex last run (level + 64).toNat) with
      | none => rw [hcode] at h0; exact absurd h0 (by decide)
      | some e =>
        rw [hcode] at h0
        exact absurd h0 (codeAt_bits hcode).1.ne'

/-- An inter block with one coefficient of level 1. -/
def oneCoef : BLOCK := BLOCK.zero.set 0 1

theorem oneCoef_scanned : oneCoef.Scanned where
  last_index := by decide
  beyond := by
    intro k hk hk64
    rw [oneCoef, show (0 : ℕ) = zigZag 0 from rfl, set_zigZag _ _ (by decide) hk64,
      if_neg (by rintro rfl; exact absurd hk (by decide))]
    rfl
  level i := by
    rw [oneCoef, BLOCK.set_block]
    rcases eq_or_ne i 0 with rfl | hi
    · rw [Function.update_self]
      decide
    · rw [Function.update_of_ne hi]
      show -2048 ≤ (0 : ℤ) ∧ (0 : ℤ) < 2048
      decide

theorem inter_events_one : InterRoundTrip EncTables.interSample oneCoef :=
  (inter_events_iff EncTables.interSample_words oneCoef_scanned).mpr (by decide)

/-- **A coded block without a last event**: its only coefficient is the escape with level 0. -/
theorem no_last_event :
    ∃ b q, decode_inter_block BLOCK.zero 0 true (init_br [0x07, 0, 0, 0, 0, 0, 0, 0] 3) =
        some ((0, b), q) ∧ 0 ≤ b.last_index ∧ ¬ InterRoundTrip EncTables.sample b :=
  ⟨_, _, rfl, by decide, fun h => h.ends (by decide)⟩

end ArchosGpl.F2m
