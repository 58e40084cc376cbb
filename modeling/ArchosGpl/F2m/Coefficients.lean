import ArchosGpl.F2m.Decoded
import ArchosGpl.F2m.DcAgreement
import Mathlib.Data.List.Nodup

/-!
# AC coefficients, from the FLV syntax to the MPEG-4 triples

`FlvCoef` is a coefficient in the syntax of FLV: a table code with a sign, or one of the escapes.
`denotes` is what the syntax says of it, as last, run and level; `decoded` is what `decode_coef`
makes of it.

A block is a list of triples. `coefs start cs` gives the level at each scan position, and `Chain`
says that the last triple, and only it, is marked and that no position is beyond the block.

* **`preserved_iff`**: they denote what the FLV syntax denotes if and only if there is no negative
  8-bit escape and the last level is not 0 (the MPEG-4 syntax has no triple with level 0).
-/

open Function (update_eq_self update_of_ne update_self)

namespace ArchosGpl.F2m

open Lib

/-! ## Triples -/

/-- Last, run and level. -/
abbrev Triple := Bool × ℕ × ℤ

/-- The levels by scan position, for triples whose first run starts at `start`. -/
def coefs : ℕ → List Triple → ℕ → ℤ
  | _, [], _ => 0
  | start, c :: cs, k => if k = start + c.2.1 then c.2.2 else coefs (start + c.2.1 + 1) cs k

/-- The triples of one block: the last one, and only it, is marked, and all positions are below 64. -/
def Chain : ℕ → List Triple → Prop
  | _, [] => False
  | start, c :: cs => start + c.2.1 < 64 ∧
      if c.1 then cs = [] else Chain (start + c.2.1 + 1) cs

variable {start : ℕ}

theorem coefs_of_lt {k : ℕ} (h : k < start) (cs : List Triple) : coefs start cs k = 0 := by
  induction cs generalizing start with
  | nil => rfl
  | cons c cs ih =>
    rw [coefs, if_neg (by omega)]
    exact ih (by omega)

theorem coefs_inj {α : Type} {f g : α → Triple} {as : List α}
    (h : ∀ a ∈ as, (f a).2.1 = (g a).2.1) :
    coefs start (as.map f) = coefs start (as.map g) ↔ ∀ a ∈ as, (f a).2.2 = (g a).2.2 := by
  induction as generalizing start with
  | nil => exact ⟨fun _ a ha => absurd ha (List.not_mem_nil), fun _ => rfl⟩
  | cons a as ih =>
    obtain ⟨ha, has⟩ := List.forall_mem_cons.mp h
    rw [List.forall_mem_cons, ← @ih (start + (f a).2.1 + 1) has, funext_iff, funext_iff]
    constructor
    · intro heq
      refine ⟨?_, fun k => ?_⟩
      · have hk := heq (start + (f a).2.1)
        rwa [List.map_cons, List.map_cons, coefs, coefs, if_pos rfl, ← ha, if_pos rfl] at hk
      · by_cases hk : k < start + (f a).2.1 + 1
        · rw [coefs_of_lt hk, coefs_of_lt hk]
        · have hk' := heq k
          rwa [List.map_cons, List.map_cons, coefs, coefs, if_neg (by omega), ← ha,
            if_neg (by omega)] at hk'
    · rintro ⟨hlevel, hrest⟩ k
      rw [List.map_cons, List.map_cons, coefs, coefs, ← ha, hlevel, hrest k]

/-! ## The syntax of FLV -/

inductive FlvCoef
  /-- A code of the table and its sign. -/
  | table (code : ℕ) (sign : Bool)
  /-- The escape of version 0, with 8 bits of level. -/
  | escape8 (last : Bool) (run level : ℕ)
  /-- The escape of version 1, with 7 or 11 bits of level. -/
  | escape (is11bit last : Bool) (run : ℕ) (level : List Bool)
  deriving DecidableEq, Repr

namespace FlvCoef

def bits : FlvCoef → List Bool
  | table code sign => vlcWord rl_inter_vlc code ++ [sign]
  | escape8 last run level => vlcWord rl_inter_vlc 102 ++ [last] ++ natBits 6 run ++ natBits 8 level
  | escape is11bit last run level => vlcWord rl_inter_vlc 102 ++ [is11bit] ++ [last] ++
      natBits 6 run ++ level

/-- A coefficient of a picture with this escape type. -/
def Valid (escape_type : ℕ) : FlvCoef → Prop
  | table code _ => code < 102
  | escape8 _ run level => escape_type ≠ 1 ∧ run < 64 ∧ level < 256
  | escape is11bit _ run level => escape_type = 1 ∧ run < 64 ∧
      level.length = if is11bit then 11 else 7

/-- What the syntax says: the levels of the escapes are in two's complement. -/
def denotes : FlvCoef → Triple
  | table code sign => (decide (rl_inter_last ≤ (code : ℤ)), rl_inter_run.getD code 0,
      if sign then -rl_inter_level.getD code 0 else rl_inter_level.getD code 0)
  | escape8 last run level => (last, run, if 128 ≤ level then (level : ℤ) - 256 else level)
  | escape _ last run level => (last, run, bitsInt level)

/-- A negative level in the escape of version 0. -/
def negative8 : FlvCoef → Bool
  | escape8 _ _ level => decide (128 ≤ level)
  | _ => false

/-- What `decode_coef` makes of it. -/
def decoded (e : FlvCoef) : Triple :=
  if e.negative8 then (e.denotes.1, e.denotes.2.1, -e.denotes.2.2) else e.denotes

end FlvCoef

variable {p q : BR} {escape_type : ℕ}

theorem decode_coef_reads {c : Triple} (h : decode_coef escape_type p = some (some c, q)) :
    ∃ e : FlvCoef, e.Valid escape_type ∧ p.Reads e.bits q ∧ e.decoded = c := by
  obtain ⟨code, p₁, hg, h⟩ := bind_eq_some.mp h
  by_cases hneg : code < 0
  · rw [if_pos hneg] at h
    cases pure_eq_some.mp h with | intro h => cases h
  obtain ⟨code, rfl⟩ := Int.eq_ofNat_of_zero_le (not_lt.mp hneg)
  obtain ⟨hused, hr⟩ := get_vlc_word rl_inter_decodes (by decide) hg (by omega)
  have bit {L : List Bool} (hL : L.length = 1) : ∃ b, L = [b] ∧ (bitsNat L ≠ 0 ↔ b = true) := by
    match L, hL with
    | [b], _ => exact ⟨b, rfl, by cases b <;> decide⟩
  by_cases hesc : (code : ℤ) = rl_inter_n
  · have hcode : code = 102 := by
      unfold rl_inter_n at hesc
      omega
    subst hcode
    by_cases htype : escape_type = 1
    · rw [if_pos htype] at h
      obtain ⟨is11bit, p₂, h11, h⟩ := bind_eq_some.mp h
      obtain ⟨last, p₃, hlast, h⟩ := bind_eq_some.mp h
      obtain ⟨run, p₄, hrun, h⟩ := bind_eq_some.mp h
      obtain ⟨L₁, hL₁, rfl, hr₁⟩ := get_bits_reads (by decide) h11
      obtain ⟨L₂, hL₂, rfl, hr₂⟩ := get_bits_reads (by decide) hlast
      obtain ⟨L₃, hL₃, rfl, hr₃⟩ := get_bits_reads (by decide) hrun
      obtain ⟨b₁, rfl, hb₁⟩ := bit hL₁
      obtain ⟨b₂, rfl, hb₂⟩ := bit hL₂
      have hlast : decide (bitsNat [b₂] ≠ 0) = b₂ := by cases b₂ <;> decide
      have hlevel : ∃ L, L.length = (if b₁ then 11 else 7) ∧ p₄.Reads L q ∧
          c = (b₂, bitsNat L₃, bitsInt L) := by
        cases b₁ with
        | true =>
          obtain ⟨level, p₅, hlevel, h⟩ := bind_eq_some.mp h
          obtain ⟨hc, rfl⟩ := pure_eq_some.mp h
          obtain ⟨L, hL, rfl, hr'⟩ := get_sbits_reads (by decide) (by decide) hlevel
          exact ⟨L, hL, hr', by rw [← Option.some.inj hc, hlast]⟩
        | false =>
          obtain ⟨level, p₅, hlevel, h⟩ := bind_eq_some.mp h
          obtain ⟨hc, rfl⟩ := pure_eq_some.mp h
          obtain ⟨L, hL, rfl, hr'⟩ := get_sbits_reads (by decide) (by decide) hlevel
          exact ⟨L, hL, hr', by rw [← Option.some.inj hc, hlast]⟩
      obtain ⟨L₄, hL₄, hr₄, rfl⟩ := hlevel
      have hrun := bitsNat_lt L₃
      rw [hL₃] at hrun
      refine ⟨.escape b₁ b₂ (bitsNat L₃) L₄, ⟨htype, hrun, hL₄⟩, ?_, rfl⟩
      rw [FlvCoef.bits, natBits_bitsNat hL₃]
      exact (((hr.trans hr₁).trans hr₂).trans hr₃).trans hr₄
    · rw [if_neg htype] at h
      obtain ⟨last, p₃, hlast, h⟩ := bind_eq_some.mp h
      obtain ⟨run, p₄, hrun, h⟩ := bind_eq_some.mp h
      obtain ⟨level, p₅, hlevel, h⟩ := bind_eq_some.mp h
      obtain ⟨hc, rfl⟩ := pure_eq_some.mp h
      cases hc
      obtain ⟨L₂, hL₂, rfl, hr₂⟩ := get_bits_reads (by decide) hlast
      obtain ⟨L₃, hL₃, rfl, hr₃⟩ := get_bits_reads (by decide) hrun
      obtain ⟨L₄, hL₄, rfl, hr₄⟩ := get_bits_reads (by decide) hlevel
      obtain ⟨b₂, rfl, hb₂⟩ := bit hL₂
      have hrun := bitsNat_lt L₃
      have hlevel := bitsNat_lt L₄
      rw [hL₃] at hrun
      rw [hL₄] at hlevel
      refine ⟨.escape8 b₂ (bitsNat L₃) (bitsNat L₄), ⟨htype, hrun, hlevel⟩, ?_, ?_⟩
      · rw [FlvCoef.bits, natBits_bitsNat hL₃, natBits_bitsNat hL₄]
        exact ((hr.trans hr₂).trans hr₃).trans hr₄
      · have hlast : decide (bitsNat [b₂] ≠ 0) = b₂ := by cases b₂ <;> decide
        rw [hlast]
        by_cases h128 : 128 ≤ bitsNat L₄
        · simp [FlvCoef.decoded, FlvCoef.negative8, FlvCoef.denotes, h128]
        · simp [FlvCoef.decoded, FlvCoef.negative8, FlvCoef.denotes, h128]
  · rw [if_neg hesc] at h
    obtain ⟨sign, p₂, hs, h⟩ := bind_eq_some.mp h
    obtain ⟨hc, rfl⟩ := pure_eq_some.mp h
    cases hc
    obtain ⟨L, hL, rfl, hr'⟩ := get_bits_reads (by decide) hs
    obtain ⟨b, rfl, hb⟩ := bit hL
    have hlt : code < 102 := by
      have hlen : code < rl_inter_vlc.length := by
        by_contra hge
        rw [List.getD_eq_default _ _ (by omega)] at hused
        exact absurd hused (Nat.lt_irrefl 0)
      have h103 : rl_inter_vlc.length = 103 := by decide
      have hne : code ≠ 102 := fun hcode => hesc (by rw [hcode]; rfl)
      omega
    refine ⟨.table code b, hlt, hr.trans hr', ?_⟩
    cases b <;> rfl

/-! ## The block that `decode_AC` fills in -/

theorem zig_zag_scan_nodup : zig_zag_scan.Nodup ∧ zig_zag_scan.length = 64 := by decide

theorem zigZag_inj {j k : ℕ} (hj : j < 64) (hk : k < 64) (h : zigZag j = zigZag k) : j = k := by
  obtain ⟨hnodup, hlen⟩ := zig_zag_scan_nodup
  unfold zigZag at h
  rw [List.getD_eq_getElem _ _ (by omega), List.getD_eq_getElem _ _ (by omega)] at h
  exact (List.Nodup.getElem_inj_iff hnodup).mp h

/-- The block `b` holds the triples `cs`, the first run of which starts at `i`. -/
structure Holds (b : BLOCK) (i : ℕ) (cs : List Triple) (last : ℕ) : Prop where
  chain : Chain i cs
  last_index : b.last_index = last
  bounds : i ≤ last ∧ last < 64
  levels : ∀ k, i ≤ k → k < 64 → b.block (zigZag k) = coefs i cs k
  beyond : ∀ k, last < k → coefs i cs k = 0
  final : ∀ c ∈ cs.getLast?, coefs i cs last = c.2.2

variable {b : BLOCK} {i : ℕ}

theorem decode_AC_loop_reads {fuel : ℕ} {b' : BLOCK}
    (h : decode_AC_loop escape_type fuel b i p = some ((0, b'), q))
    (h0 : ∀ k, i ≤ k → k < 64 → b.block (zigZag k) = 0) :
    ∃ es : List FlvCoef, ∃ last, (∀ e ∈ es, e.Valid escape_type) ∧
      p.Reads (es.flatMap FlvCoef.bits) q ∧ Holds b' i (es.map FlvCoef.decoded) last ∧
      ∀ k < i, k < 64 → b'.block (zigZag k) = b.block (zigZag k) := by
  induction fuel generalizing b i p with
  | zero =>
    obtain ⟨hr, -⟩ := pure_eq_some.mp h
    cases hr
  | succ fuel ih =>
    obtain ⟨r, p₁, hc, h⟩ := bind_eq_some.mp h
    match r with
    | none =>
      obtain ⟨hr, -⟩ := pure_eq_some.mp h
      cases hr
    | some (last, run, level) =>
      obtain ⟨e, hvalid, hr, hdec⟩ := decode_coef_reads hc
      have hlast : e.decoded.1 = last := by rw [hdec]
      have hrun : e.decoded.2.1 = run := by rw [hdec]
      have hlevel : e.decoded.2.2 = level := by rw [hdec]
      simp only at h
      split at h
      · obtain ⟨hr, -⟩ := pure_eq_some.mp h
        cases hr
      have hpos : i + run < 64 := by omega
      have hset {k : ℕ} (hk : k < 64) (hne : k ≠ i + run) :
          (b.set (zigZag (i + run)) level).block (zigZag k) = b.block (zigZag k) := by
        exact update_of_ne (fun heq => hne (zigZag_inj hk hpos heq)) _ _
      have hself : (b.set (zigZag (i + run)) level).block (zigZag (i + run)) = level := by
        rw [BLOCK.set_block, update_self]
      split at h
      case isTrue hl =>
        -- the last coefficient
        obtain ⟨hr', rfl⟩ := pure_eq_some.mp h
        obtain ⟨-, rfl⟩ := Prod.mk.inj hr'
        refine ⟨[e], i + run, List.forall_mem_singleton.mpr hvalid, ?_, ?_, fun k hk hk64 =>
          hset hk64 (by omega)⟩
        · rw [List.flatMap_cons, List.flatMap_nil, List.append_nil]
          exact hr
        refine ⟨?_, rfl, ⟨by omega, hpos⟩, fun k hik hk => ?_, fun k hk => ?_, ?_⟩
        · refine ⟨hrun.symm ▸ hpos, ?_⟩
          rw [hlast, if_pos hl]
          rfl
        · rw [List.map_cons, List.map_nil, coefs, hrun, hlevel]
          by_cases hki : k = i + run
          · rw [if_pos hki, hki]
            exact hself
          · rw [if_neg hki]
            exact (hset hk hki).trans (h0 k hik hk)
        · rw [List.map_cons, List.map_nil, coefs, hrun, if_neg (by omega)]
          rfl
        · intro c hc
          cases hc
          rw [List.map_cons, List.map_nil, coefs, hrun, if_pos rfl]
          rfl
      case isFalse hl =>
        obtain ⟨es, lst, hes, hr', hh, hlow⟩ := ih h fun k hik hk =>
          (hset hk (by omega)).trans (h0 k (by omega) hk)
        refine ⟨e :: es, lst, List.forall_mem_cons.mpr ⟨hvalid, hes⟩, ?_, ?_, fun k hk hk64 =>
          (hlow k (by omega) hk64).trans (hset hk64 (by omega))⟩
        · rw [List.flatMap_cons]
          exact hr.trans hr'
        have hbounds := hh.bounds
        refine ⟨?_, hh.last_index, ⟨by omega, hbounds.2⟩, fun k hik hk => ?_, fun k hk => ?_, ?_⟩
        · refine ⟨hrun.symm ▸ hpos, ?_⟩
          rw [hlast, hrun, if_neg hl]
          exact hh.chain
        · rw [List.map_cons, coefs, hrun, hlevel]
          by_cases hki : k = i + run
          · rw [if_pos hki, hki, hlow _ (by omega) hpos, hself]
          · rw [if_neg hki]
            by_cases hlt : k < i + run + 1
            · rw [coefs_of_lt hlt, hlow k hlt hk, hset hk hki]
              exact h0 k hik hk
            · exact hh.levels k (by omega) hk
        · rw [List.map_cons, coefs, hrun, if_neg (by omega)]
          exact hh.beyond k hk
        · intro c hc
          obtain _ | ⟨e', es⟩ := es
          · exact hh.chain.elim
          · rw [List.map_cons, List.map_cons, List.getLast?_cons_cons, ← List.map_cons] at hc
            rw [List.map_cons, coefs, hrun, if_neg (by omega)]
            exact hh.final c hc

/-! ## The triples of the encoder -/

theorem coefs_ac_loop (blk : ℕ → ℤ) {n : ℕ} (h : start ≤ i) (k : ℕ) :
    coefs start (ac_loop blk n i start) k =
      if i ≤ k ∧ k ≤ i + n then blk (zigZag k) else 0 := by
  induction n generalizing i start with
  | zero =>
    show (if k = start + (i - start) then _ else coefs _ [] k) = _
    rw [Nat.add_sub_cancel' h]
    by_cases hk : k = i
    · rw [if_pos hk, if_pos (by omega), hk]
    · rw [if_neg hk, if_neg (by omega)]
      rfl
  | succ n ih =>
    rw [ac_loop]
    by_cases hlevel : blk (zigZag i) = 0
    · rw [if_neg (fun hne => hne hlevel), ih (by omega)]
      by_cases hk : k = i
      · rw [if_neg (by omega), if_pos (by omega), hk, hlevel]
      · congr 1
        exact propext ⟨fun h' => by omega, fun h' => by omega⟩
    · rw [if_pos hlevel, coefs]
      rw [Nat.add_sub_cancel' h, ih (Nat.le_refl _)]
      by_cases hk : k = i
      · rw [if_pos hk, if_pos (by omega), hk]
      · rw [if_neg hk]
        congr 1
        exact propext ⟨fun h' => by omega, fun h' => by omega⟩

theorem chain_ac_loop (blk : ℕ → ℤ) {n : ℕ} (h : start ≤ i) (hn : i + n < 64) :
    Chain start (ac_loop blk n i start) := by
  induction n generalizing i start with
  | zero =>
    refine ⟨?_, rfl⟩
    show start + (i - start) < 64
    omega
  | succ n ih =>
    rw [ac_loop]
    split
    · refine ⟨?_, ?_⟩
      · show start + (i - start) < 64
        omega
      · show Chain (start + (i - start) + 1) _
        rw [Nat.add_sub_cancel' h]
        exact ih (Nat.le_refl _) (by omega)
    · exact ih (by omega) (by omega)

theorem ac_loop_nonzero (blk : ℕ → ℤ) (n i start : ℕ) :
    (∀ c ∈ ac_loop blk n i start, c.2.2 ≠ 0) ↔ blk (zigZag (i + n)) ≠ 0 := by
  induction n generalizing i start with
  | zero => rw [ac_loop, List.forall_mem_singleton]; rfl
  | succ n ih =>
    rw [ac_loop]
    split
    case isTrue hlevel =>
      rw [List.forall_mem_cons, ih, Nat.add_assoc, Nat.add_comm 1]
      exact ⟨fun h => h.2, fun h => ⟨hlevel, h⟩⟩
    case isFalse => rw [ih, Nat.add_assoc, Nat.add_comm 1]

theorem ac_loop_level (blk : ℕ → ℤ) (n i start : ℕ) :
    ∀ c ∈ ac_loop blk n i start, ∃ k, i ≤ k ∧ k ≤ i + n ∧ c.2.2 = blk (zigZag k) := by
  induction n generalizing i start with
  | zero =>
    exact List.forall_mem_singleton.mpr ⟨i, Nat.le_refl i, Nat.le_refl i, rfl⟩
  | succ n ih =>
    intro c hc
    rw [ac_loop] at hc
    have later {s : ℕ} (hc : c ∈ ac_loop blk n (i + 1) s) :
        ∃ k, i ≤ k ∧ k ≤ i + (n + 1) ∧ c.2.2 = blk (zigZag k) := by
      obtain ⟨k, hk, hkn, hlevel⟩ := ih (i + 1) s c hc
      exact ⟨k, by omega, by omega, hlevel⟩
    split at hc
    · rcases List.mem_cons.mp hc with rfl | hc
      · exact ⟨i, Nat.le_refl i, by omega, rfl⟩
      · exact later hc
    · exact later hc

/-! ## The third escape -/

/-- The third escape, as an MPEG-4 decoder reads it. -/
def read_escape_3 : Reader Triple := do
  let _escape ← get_bits 7
  let _mode ← get_bits 2
  let last ← get_bits 1
  let run ← get_bits 6
  let _marker ← get_bits 1
  let level ← get_sbits 12
  let _marker ← get_bits 1
  return (last ≠ 0, run, level)

theorem bitsInt_natBits12 {level : ℤ} (h : -2048 ≤ level ∧ level < 2048) :
    bitsInt (natBits 12 (level % 0x1000).toNat) = level := by
  have hlt : (level % 0x1000).toNat < 2 ^ 12 := by omega
  have hhead : (natBits 12 (level % 0x1000).toNat).head? =
      some (decide (2048 ≤ (level % 0x1000).toNat)) := by
    rw [natBits, List.head?_cons, Nat.testBit_eq_decide_div_mod_eq]
    congr 1
    refine decide_eq_decide.mpr ⟨fun h => by omega, fun h => by omega⟩
  rw [bitsInt, hhead, natBits_length, bitsNat_natBits hlt]
  by_cases h2048 : 2048 ≤ (level % 0x1000).toNat
  · rw [decide_eq_true h2048, if_pos rfl]
    omega
  · rw [decide_eq_false h2048, if_neg (fun h => Bool.false_ne_true (Option.some.inj h))]
    omega

/-- **The third escape carries its triple**, negative levels included. -/
theorem read_escape_3_parses {c : Triple} (hrun : c.2.1 < 64) (hlevel : -2048 ≤ c.2.2 ∧ c.2.2 < 2048) :
    Parses read_escape_3 (escapeBits c.1 c.2.1 c.2.2) c := by
  obtain ⟨last, run, level⟩ := c
  have hlast : last.toNat < 2 ^ 1 := by cases last <;> decide
  have hint := get_sbits_parses (L := natBits 12 (level % 0x1000).toNat) (n := 12) (natBits_length _ _)
    (by decide) (by decide)
  rw [bitsInt_natBits12 hlevel] at hint
  refine (get_bits_parses_natBits (n := 7) (by decide) (by decide)).bind ?_
  refine (get_bits_parses_natBits (n := 2) (by decide) (by decide)).bind ?_
  refine (get_bits_parses_natBits (n := 1) hlast (by decide)).bind ?_
  refine (get_bits_parses_natBits (n := 6) hrun (by decide)).bind ?_
  refine (get_bits_parses_natBits (n := 1) (by decide) (by decide)).bind ?_
  refine hint.bind ?_
  refine (get_bits_parses_natBits (n := 1) (by decide) (by decide)).bind
    ((Consumes.pure _).congr rfl ?_)
  cases last <;> rfl

/-! ## A block -/

/-- The triples `ts` are a block of the MPEG-4 syntax, and denote what the FLV syntax says of `es`.
-/
structure Preserved (i : ℕ) (es : List FlvCoef) (ts : List Triple) : Prop where
  same : coefs i ts = coefs i (es.map FlvCoef.denotes)
  chain : Chain i ts
  nonzero : ∀ c ∈ ts, c.2.2 ≠ 0
  escapes : ∀ c ∈ ts, ¬ (0 ≤ c.2.2 + 64 ∧ c.2.2 + 64 ≤ 127) →
    Parses read_escape_3 (escapeBits c.1 c.2.1 c.2.2) c

/-- No negative level in an 8-bit escape, and a last level that is not 0. -/
def CleanCoefs (es : List FlvCoef) : Prop :=
  (∀ e ∈ es, e.negative8 = false) ∧ ∀ e ∈ es.getLast?, e.denotes.2.2 ≠ 0

instance (es : List FlvCoef) : Decidable (CleanCoefs es) := by
  unfold CleanCoefs
  infer_instance

namespace FlvCoef

variable {e : FlvCoef} {escape_type : ℕ}

theorem negative8_level (hv : e.Valid escape_type)
    (h : e.negative8 = true) : e.denotes.2.2 < 0 := by
  match e with
  | table _ _ => cases h
  | escape _ _ _ _ => cases h
  | escape8 last run level =>
    have h128 : 128 ≤ level := of_decide_eq_true h
    have h256 : level < 256 := hv.2.2
    show (if 128 ≤ level then (level : ℤ) - 256 else level) < 0
    omega

theorem decoded_run (e : FlvCoef) : e.decoded.1 = e.denotes.1 ∧ e.decoded.2.1 = e.denotes.2.1 := by
  unfold decoded
  split <;> exact ⟨rfl, rfl⟩

theorem decoded_level (hv : e.Valid escape_type) :
    (e.decoded.2.2 = e.denotes.2.2 ↔ e.negative8 = false) ∧
      (e.decoded.2.2 = 0 ↔ e.denotes.2.2 = 0) := by
  unfold decoded
  cases h : e.negative8 with
  | true =>
    have hneg := negative8_level hv h
    simp only [if_true]
    exact ⟨⟨fun heq => by omega, fun hf => by cases hf⟩, by omega⟩
  | false => simp

theorem bitsInt_bounds (L : List Bool) (h : L.length ≤ 11) : -1024 ≤ bitsInt L ∧ bitsInt L < 2048 := by
  have hlt := bitsNat_lt L
  have hpow : 2 ^ L.length ≤ 2 ^ 11 := Nat.pow_le_pow_right (by decide) h
  unfold bitsInt
  match L with
  | [] => decide
  | true :: bs =>
    have hlow : 2 ^ bs.length ≤ bitsNat (true :: bs) := by
      simp only [bitsNat, Bool.toNat_true, one_mul]
      omega
    have hlen : (true :: bs).length = bs.length + 1 := rfl
    rw [hlen] at hpow hlt ⊢
    have hpow' : ((2 ^ (bs.length + 1) : ℕ) : ℤ) = 2 ^ (bs.length + 1) := by push_cast; rfl
    rw [← hpow']
    omega
  | false :: bs =>
    rw [List.head?_cons, if_neg (fun h => Bool.false_ne_true (Option.some.inj h))]
    omega

theorem decoded_bounds (hv : e.Valid escape_type) :
    -2048 ≤ e.decoded.2.2 ∧ e.decoded.2.2 < 2048 := by
  match e with
  | table code sign =>
    have hlevels : ∀ l ∈ rl_inter_level, 0 ≤ l ∧ l ≤ 12 := by decide
    have hl : 0 ≤ rl_inter_level.getD code 0 ∧ rl_inter_level.getD code 0 ≤ 12 := by
      have hlen : rl_inter_level.length = 102 := by decide
      have hc : code < rl_inter_level.length := by rw [hlen]; exact hv
      rw [List.getD_eq_getElem _ _ hc]
      exact hlevels _ (List.getElem_mem hc)
    change -2048 ≤ (if sign then -rl_inter_level.getD code 0 else rl_inter_level.getD code 0) ∧
      (if sign then -rl_inter_level.getD code 0 else rl_inter_level.getD code 0) < 2048
    split <;> omega
  | escape8 last run level =>
    have h256 : level < 256 := hv.2.2
    unfold decoded denotes
    split
    · show -2048 ≤ -(if 128 ≤ level then (level : ℤ) - 256 else level) ∧
        -(if 128 ≤ level then (level : ℤ) - 256 else level) < 2048
      split <;> omega
    · show -2048 ≤ (if 128 ≤ level then (level : ℤ) - 256 else level) ∧
        (if 128 ≤ level then (level : ℤ) - 256 else level) < 2048
      split <;> omega
  | escape is11bit last run level =>
    have hlen : level.length ≤ 11 := by
      rw [hv.2.2]
      split <;> omega
    have := bitsInt_bounds level hlen
    show -2048 ≤ bitsInt level ∧ bitsInt level < 2048
    omega

end FlvCoef

theorem coefs_mem_or_zero (cs : List Triple) (start k : ℕ) :
    coefs start cs k = 0 ∨ ∃ c ∈ cs, coefs start cs k = c.2.2 := by
  induction cs generalizing start with
  | nil => exact .inl rfl
  | cons c cs ih =>
    rw [coefs]
    split
    · exact .inr ⟨c, List.mem_cons_self .., rfl⟩
    · rcases ih (start + c.2.1 + 1) with h | ⟨c', hc', h⟩
      · exact .inl h
      · exact .inr ⟨c', List.mem_cons_of_mem _ hc', h⟩

/-- **A block that holds decoded coefficients**: its triples denote what the FLV syntax says of them
if and only if they are clean. -/
theorem preserved_iff (intra : Bool) {es : List FlvCoef} {last : ℕ}
    (hv : ∀ e ∈ es, e.Valid escape_type) (h : Holds b intra.toNat (es.map FlvCoef.decoded) last) :
    Preserved intra.toNat es (ac_triples b intra) ↔ CleanCoefs es := by
  obtain ⟨hlast, h64⟩ := h.bounds
  have htriples : ac_triples b intra =
      ac_loop b.block (last - intra.toNat) intra.toNat intra.toNat := by
    unfold ac_triples
    rw [h.last_index]
    simp only
    congr 1
    omega
  have hend : intra.toNat + (last - intra.toNat) = last := by omega
  have hcoefs : coefs intra.toNat (ac_triples b intra) = coefs intra.toNat (es.map FlvCoef.decoded) := by
    funext k
    rw [htriples, coefs_ac_loop _ (Nat.le_refl _), hend]
    by_cases hk : intra.toNat ≤ k ∧ k ≤ last
    · rw [if_pos hk]
      exact h.levels k hk.1 (by omega)
    · rw [if_neg hk]
      by_cases hlt : k < intra.toNat
      · exact (coefs_of_lt hlt _).symm
      · exact (h.beyond k (by omega)).symm
  have hsame : coefs intra.toNat (es.map FlvCoef.decoded) =
      coefs intra.toNat (es.map FlvCoef.denotes) ↔ ∀ e ∈ es, e.negative8 = false := by
    rw [coefs_inj fun e _ => e.decoded_run.2]
    exact ⟨fun heq e he => (FlvCoef.decoded_level (hv e he)).1.mp (heq e he),
      fun hn e he => (FlvCoef.decoded_level (hv e he)).1.mpr (hn e he)⟩
  have hnonzero : (∀ c ∈ ac_triples b intra, c.2.2 ≠ 0) ↔ ∀ e ∈ es.getLast?, e.denotes.2.2 ≠ 0 := by
    rw [htriples, ac_loop_nonzero, hend, h.levels last hlast h64]
    have hfinal := h.final
    rw [List.getLast?_map] at hfinal
    cases hl : es.getLast? with
    | none =>
      have hnil := List.getLast?_eq_none_iff.mp hl
      have hchain := h.chain
      rw [hnil] at hchain
      exact hchain.elim
    | some e =>
      rw [hl] at hfinal
      rw [hfinal e.decoded rfl]
      have hdec := (FlvCoef.decoded_level (hv e (List.mem_of_getLast? hl))).2
      exact ⟨fun hne e' he' => by obtain rfl := Option.some.inj he'; exact fun h0 => hne (hdec.mpr h0),
        fun hne h0 => hne e rfl (hdec.mp h0)⟩
  have hchain : Chain intra.toNat (ac_triples b intra) := by
    rw [htriples]
    exact chain_ac_loop _ (Nat.le_refl _) (by omega)
  have hescapes : ∀ c ∈ ac_triples b intra, Parses read_escape_3 (escapeBits c.1 c.2.1 c.2.2) c := by
    intro c hc
    rw [htriples] at hc
    refine read_escape_3_parses (ac_loop_run_lt b.block (by omega) c hc) ?_
    obtain ⟨k, hk, hkn, hlevel⟩ := ac_loop_level _ _ _ _ c hc
    rw [hlevel, h.levels k hk (by omega)]
    rcases coefs_mem_or_zero (es.map FlvCoef.decoded) intra.toNat k with h0 | ⟨c', hc', hc⟩
    · rw [h0]
      decide
    · obtain ⟨e, he, rfl⟩ := List.mem_map.mp hc'
      rw [hc]
      exact FlvCoef.decoded_bounds (hv e he)
  constructor
  · intro hp
    exact ⟨hsame.mp (hcoefs.symm.trans hp.same), hnonzero.mp hp.nonzero⟩
  · rintro ⟨hneg, hlastLevel⟩
    exact ⟨hcoefs.trans (hsame.mpr hneg), hchain, hnonzero.mpr hlastLevel, fun c hc _ => hescapes c hc⟩

/-! ## The blocks that the decoder gives -/

theorem Holds.set_dc {cs : List Triple} {last : ℕ} (h : Holds b 1 cs last) (v : ℤ) :
    Holds (b.set 0 v) 1 cs last where
  chain := h.chain
  last_index := h.last_index
  bounds := h.bounds
  levels k hk hk64 := by
    have hne : zigZag k ≠ 0 := fun h0 => by
      have := zigZag_inj hk64 (by decide) (h0.trans (show (0 : ℕ) = zigZag 0 from rfl))
      omega
    rw [BLOCK.set_block, update_of_ne hne]
    exact h.levels k hk hk64
  beyond := h.beyond
  final := h.final

theorem decode_AC_reads {b' : BLOCK} (h : decode_AC b escape_type i p = some ((0, b'), q))
    (h0 : ∀ k, i ≤ k → k < 64 → b.block (zigZag k) = 0) :
    ∃ es : List FlvCoef, ∃ last, (∀ e ∈ es, e.Valid escape_type) ∧
      p.Reads (es.flatMap FlvCoef.bits) q ∧ Holds b' i (es.map FlvCoef.decoded) last := by
  obtain ⟨es, last, hv, hr, hh, -⟩ := decode_AC_loop_reads h h0
  exact ⟨es, last, hv, hr, hh⟩

theorem intra_block_preserved
    (h : decode_intra_block BLOCK.zero escape_type true p = some ((0, b), q)) (v : ℤ) :
    ∃ (L : List Bool) (es : List FlvCoef), L.length = 8 ∧ (∀ e ∈ es, e.Valid escape_type) ∧
      p.Reads (L ++ es.flatMap FlvCoef.bits) q ∧
      (Preserved 1 es (ac_triples (b.set 0 v) true) ↔ CleanCoefs es) := by
  obtain ⟨level, p₁, hdc, h⟩ := bind_eq_some.mp h
  split at h
  · obtain ⟨hr, -⟩ := pure_eq_some.mp h
    cases hr
  · obtain ⟨i, p₂, hb, hdc⟩ := bind_eq_some.mp hdc
    have hp : p₂ = p₁ := by
      split at hdc
      · exact (pure_eq_some.mp hdc).2
      · split at hdc <;> exact (pure_eq_some.mp hdc).2
    subst hp
    obtain ⟨L, hL, -, hr⟩ := get_bits_reads (by decide) hb
    have hzero (k : ℕ) (hk : 1 ≤ k) (hk64 : k < 64) :
        ({ BLOCK.zero.set 0 level with last_index := 0 } : BLOCK).block (zigZag k) = 0 := by
      have hne : zigZag k ≠ 0 := fun h0 => by
        have := zigZag_inj hk64 (by decide) (h0.trans (show (0 : ℕ) = zigZag 0 from rfl))
        omega
      rw [BLOCK.set_block, update_of_ne hne]
      rfl
    obtain ⟨es, last, hv, hr', hh⟩ := decode_AC_reads h hzero
    exact ⟨L, es, hL, hv, hr.trans hr', preserved_iff true hv (hh.set_dc v)⟩

theorem inter_block_preserved
    (h : decode_inter_block BLOCK.zero escape_type true p = some ((0, b), q)) :
    ∃ es : List FlvCoef, (∀ e ∈ es, e.Valid escape_type) ∧ p.Reads (es.flatMap FlvCoef.bits) q ∧
      (Preserved 0 es (ac_triples b false) ↔ CleanCoefs es) := by
  obtain ⟨es, last, hv, hr, hh⟩ := decode_AC_reads h fun _ _ _ => rfl
  exact ⟨es, hv, hr, preserved_iff false hv hh⟩

theorem codeMb_block (q : ℤ) (d : M4V_DCPRED) (mb : MICROBLOCK) (p : ℕ × ℕ) (n : ℕ) :
    if mb.intra then ∃ v, (codeMb q d mb p).1.block n = (mb.block n).set 0 v
    else (codeMb q d mb p).1.block n = mb.block n := by
  have step {m m' : MICROBLOCK} (h : ∃ v, m.block n = (m'.block n).set 0 v) (i : ℕ) (v : ℤ) :
      ∃ v', (m.setBlock i ((m.block i).set 0 v)).block n = (m'.block n).set 0 v' := by
    obtain ⟨w, hw⟩ := h
    by_cases hn : n = i
    · subst hn
      rw [MICROBLOCK.setBlock_block, update_self, hw]
      simp [BLOCK.set]
    · exact ⟨w, by rw [MICROBLOCK.setBlock_block, update_of_ne hn, hw]⟩
  have copy (is : List ℕ) (m : MICROBLOCK) (f : MICROBLOCK → ℕ → ℤ)
      (h : ∃ v, m.block n = (mb.block n).set 0 v) :
      ∃ v, (is.foldl (fun m i => m.setBlock i ((m.block i).set 0 (f m i))) m).block n =
        (mb.block n).set 0 v := by
    induction is generalizing m with
    | nil => exact h
    | cons i is ih => exact ih _ (step h i _)
  have enc (is : List ℕ) (s : MICROBLOCK × M4V_DCPRED)
      (h : ∃ v, s.1.block n = (mb.block n).set 0 v) :
      ∃ v, (is.foldl encode_dc_block s).1.block n = (mb.block n).set 0 v := by
    induction is generalizing s with
    | nil => exact h
    | cons i is ih => exact ih _ (step h i _)
  unfold codeMb m4v_encode_I_dcpred
  rw [copy_microblock_intra]
  cases hi : mb.intra with
  | true =>
    refine enc _ _ ?_
    unfold copy_microblock
    refine copy _ _ (fun m i => ((m.block i).block 0 * 8).tdiv (dcScale m.qscale i))
      ⟨(mb.block n).block 0, ?_⟩
    rw [BLOCK.set, update_eq_self]
  | false =>
    simp only [Bool.false_eq_true, if_false]
    unfold copy_microblock
    rw [if_neg Bool.false_ne_true]

/-! ## The result -/

/-- The only coefficient of an inter block: the escape of version 0 with level -1. -/
def negativeEscape : List FlvCoef := [.escape8 true 0 255]

end ArchosGpl.F2m
