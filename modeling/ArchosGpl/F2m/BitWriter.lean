import ArchosGpl.F2m.BitReader

/-!
# The bit writer (`bitwriter.h`)

`BW` collects bits in a 32-bit accumulator and stores it in four bytes when it is full (the build
defines `C_OPT_MG`; the machine is little-endian, so the byte at `&tmp + 3` is the highest). `buf`
is what has been stored: every store is at `buf[pos]` and moves `pos` on, so `pos` is the length of
`buf`.

* **`put_bits_emits`**: for `v < 2 ^ n` and `n ≤ 32`, `put_bits` appends the `n` bits of `v`, also
  when they straddle the accumulator.
* **`fields_read_back`**: after any sequence of fields and a flush, the bytes are the fields one
  behind the other, padded with zeros, and a reader at any position of them reads these bits.
-/

namespace ArchosGpl.F2m

open Lib

/-- `BW`; `buf` is the bytes stored, the first one first. -/
structure BW where
  buf : List (BitVec 8)
  size : ℕ
  bitoffset : ℕ
  tmp : BitVec 32
  deriving DecidableEq, Repr

namespace BW

/-- The field `pos`. -/
def pos (p : BW) : ℕ := p.buf.length

end BW

def init_bw (size : ℕ) : BW := ⟨[], size, 0, 0⟩

/-- Byte `k` of the accumulator, byte 3 the highest. -/
def tmpByte (tmp : BitVec 32) (k : ℕ) : BitVec 8 := (tmp >>> (8 * k)).setWidth 8

def forword_bits (p : BW) (bits : ℕ) : BW :=
  let bitoffset := p.bitoffset + bits
  if 32 ≤ bitoffset then
    { p with
      buf := p.buf ++ [tmpByte p.tmp 3, tmpByte p.tmp 2, tmpByte p.tmp 1, tmpByte p.tmp 0]
      tmp := 0
      bitoffset := bitoffset - 32 }
  else { p with bitoffset := bitoffset }

def put_bits (p : BW) (bits value : ℕ) : BW :=
  let shift := p.bitoffset + bits
  if shift ≤ 32 then
    forword_bits { p with tmp := p.tmp ||| BitVec.ofNat 32 value <<< (32 - shift) } bits
  else
    let shift := shift - 32
    let p := forword_bits { p with tmp := p.tmp ||| BitVec.ofNat 32 value >>> shift } (bits - shift)
    forword_bits { p with tmp := p.tmp ||| BitVec.ofNat 32 value <<< (32 - shift) } shift

def put_zero_bits (p : BW) (bits : ℕ) : BW :=
  let shift := p.bitoffset + bits
  if shift ≤ 32 then forword_bits p bits
  else
    let shift := shift - 32
    let p := forword_bits p (bits - shift)
    { p with bitoffset := p.bitoffset + shift }

def pad_to_boundary (p : BW) : BW :=
  let bits := 8 - p.bitoffset % 8
  if bits < 8 then put_zero_bits p bits else p

def flash_bw (p : BW) : BW :=
  let p := pad_to_boundary p
  let p :=
    if p.bitoffset = 8 then { p with buf := p.buf ++ [tmpByte p.tmp 3] }
    else if p.bitoffset = 16 then { p with buf := p.buf ++ [tmpByte p.tmp 3, tmpByte p.tmp 2] }
    else if p.bitoffset = 24 then
      { p with buf := p.buf ++ [tmpByte p.tmp 3, tmpByte p.tmp 2, tmpByte p.tmp 1] }
    else p
  { p with tmp := 0, bitoffset := 0 }

/-- `m4v_stuffing`: a zero, then ones up to the byte boundary. -/
def m4v_stuffing (p : BW) : BW :=
  let p := put_zero_bits p 1
  let length := (8 - p.bitoffset % 8) % 8
  if length ≠ 0 then put_bits p length (2 ^ length - 1) else p

variable {p : BW}

theorem forword_full {bits : ℕ} {x : BitVec 32} (h : p.bitoffset + bits = 32) :
    forword_bits { p with tmp := x } bits =
      { p with
        buf := p.buf ++ [tmpByte x 3, tmpByte x 2, tmpByte x 1, tmpByte x 0]
        tmp := 0
        bitoffset := 0 } := by
  rw [forword_bits, if_pos h.ge]
  simp only [h, Nat.sub_self]

/-! ## What has been written -/

namespace BW

/-- Everything written: the bytes stored and the bits that wait. -/
def bits (p : BW) : List Bool := bytesBits p.buf ++ (natBits 32 p.tmp.toNat).take p.bitoffset

/-- Fewer than 32 bits wait, and the bits below them are zero. -/
def Normal (p : BW) : Prop :=
  p.bitoffset < 32 ∧ ∀ i, p.bitoffset + i < 32 → p.tmp.getLsbD i = false

end BW

theorem bytesBits_tmpByte (t : BitVec 32) :
    bytesBits [tmpByte t 3, tmpByte t 2, tmpByte t 1, tmpByte t 0] = natBits 32 t.toNat := by
  have byte (k : ℕ) : byteBits (tmpByte t k) = natBits 8 (t.toNat >>> (8 * k)) := by
    refine natBits_testBit fun i hi => ?_
    rw [tmpByte, BitVec.testBit_toNat, BitVec.getLsbD_setWidth, BitVec.getLsbD_ushiftRight,
      Nat.testBit_shiftRight, BitVec.testBit_toNat]
    simp [hi]
  rw [natBits_word]
  simp [bytesBits, byte]

variable {n v : ℕ}

theorem forword_chunk (hp : p.Normal) {x : BitVec 32} (h : p.bitoffset + n ≤ 32)
    (hx : ∀ i < 32, x.getLsbD i =
      (decide (32 ≤ i + p.bitoffset + n ∧ i + p.bitoffset < 32) &&
        v.testBit (i + p.bitoffset + n - 32))) :
    (forword_bits { p with tmp := p.tmp ||| x } n).Normal ∧
      (forword_bits { p with tmp := p.tmp ||| x } n).bits = p.bits ++ natBits n v := by
  obtain ⟨hoff, hlow⟩ := hp
  have htake : (natBits 32 (p.tmp ||| x).toNat).take (p.bitoffset + n) =
      (natBits 32 p.tmp.toNat).take p.bitoffset ++ natBits n v := by
    refine List.ext_getElem (by simp; omega) fun i hi _ => ?_
    have hi : i < p.bitoffset + n := by
      rw [List.length_take, natBits_length] at hi
      omega
    rw [List.getElem_take, natBits_getElem, BitVec.testBit_toNat, BitVec.getLsbD_or,
      hx _ (by omega)]
    by_cases hlt : i < p.bitoffset
    · rw [List.getElem_append_left (by simp; omega), List.getElem_take, natBits_getElem,
        BitVec.testBit_toNat, decide_eq_false (by omega), Bool.false_and, Bool.or_false]
    · rw [List.getElem_append_right (by simp; omega), natBits_getElem, hlow _ (by omega),
        decide_eq_true (by omega), Bool.true_and, Bool.false_or, List.length_take, natBits_length]
      congr 1
      omega
  unfold forword_bits
  by_cases hfull : p.bitoffset + n = 32
  · have h32 : (natBits 32 (p.tmp ||| x).toNat).take 32 = natBits 32 (p.tmp ||| x).toNat :=
      List.take_of_length_le (by rw [natBits_length])
    rw [hfull, h32] at htake
    rw [if_pos (show 32 ≤ p.bitoffset + n by omega)]
    refine ⟨⟨by show p.bitoffset + n - 32 < 32; omega, fun i _ => BitVec.getLsbD_zero⟩, ?_⟩
    simp only [BW.bits, hfull, Nat.sub_self, List.take_zero, List.append_nil, bytesBits_append,
      bytesBits_tmpByte, htake, List.append_assoc]
  · rw [if_neg (show ¬ 32 ≤ p.bitoffset + n by omega)]
    refine ⟨⟨by show p.bitoffset + n < 32; omega, fun i hi => ?_⟩, ?_⟩
    · change p.bitoffset + n + i < 32 at hi
      rw [BitVec.getLsbD_or, hlow i (by omega), hx i (by omega), decide_eq_false (by omega)]
      rfl
    · simp only [BW.bits, htake, List.append_assoc]

/-- Shorthand for writers of bits. -/
abbrev Writes (f : BW → BW) (L : List Bool) : Prop := Emits BW.bits BW.Normal f L

/-- **A field of at most 32 bits is appended**, also when it straddles the accumulator. -/
theorem put_bits_emits (hn : n ≤ 32) (hv : v < 2 ^ n) : Writes (put_bits · n v) (natBits n v) := by
  intro p hp
  have hoff := hp.1
  have hhigh (i : ℕ) (hi : n ≤ i) : v.testBit i = false :=
    Nat.testBit_lt_two_pow (hv.trans_le (Nat.pow_le_pow_right (by omega) hi))
  unfold put_bits
  by_cases h : p.bitoffset + n ≤ 32
  · simp only [h, if_true]
    refine forword_chunk hp h fun i hi => ?_
    rw [BitVec.getLsbD_shiftLeft, BitVec.getLsbD_ofNat]
    by_cases hlo : i < 32 - (p.bitoffset + n)
    · simp [hlo, show ¬ 32 ≤ i + p.bitoffset + n by omega]
    · rw [show i - (32 - (p.bitoffset + n)) = i + p.bitoffset + n - 32 by omega]
      by_cases hhi : i + p.bitoffset < 32
      · simp [hlo, hi, hhi, show i + p.bitoffset + n - 32 < 32 by omega,
          show 32 ≤ i + p.bitoffset + n by omega]
      · simp [hhi, hhigh _ (show n ≤ i + p.bitoffset + n - 32 by omega)]
  · -- the upper bits fill the accumulator, the lower ones start the next
    simp only [h, if_false]
    have hsplit : natBits n v = natBits (n - (p.bitoffset + n - 32)) (v >>> (p.bitoffset + n - 32)) ++
        natBits (p.bitoffset + n - 32) v := by
      rw [← natBits_append]
      congr 1
      omega
    have upper := forword_chunk (n := n - (p.bitoffset + n - 32))
      (v := v >>> (p.bitoffset + n - 32)) (x := BitVec.ofNat 32 v >>> (p.bitoffset + n - 32)) hp
      (by omega) fun i hi => by
        rw [BitVec.getLsbD_ushiftRight, BitVec.getLsbD_ofNat, Nat.testBit_shiftRight]
        by_cases hhi : i + p.bitoffset < 32
        · rw [decide_eq_true (by omega), decide_eq_true (by omega)]
          congr 2
          omega
        · rw [decide_eq_false (p := _ ∧ _) (by omega), hhigh _ (by omega)]
          simp
    have hfull : p.bitoffset + (n - (p.bitoffset + n - 32)) = 32 := by omega
    rw [forword_full hfull] at upper ⊢
    obtain ⟨hn', hb'⟩ := upper
    have lower := forword_chunk (n := p.bitoffset + n - 32) (v := v)
      (x := BitVec.ofNat 32 v <<< (32 - (p.bitoffset + n - 32))) hn'
      (by show 0 + (p.bitoffset + n - 32) ≤ 32; omega) fun i hi => by
        rw [BitVec.getLsbD_shiftLeft, BitVec.getLsbD_ofNat]
        by_cases hlo : i < 32 - (p.bitoffset + n - 32)
        · simp [hlo, show ¬ 32 ≤ i + (p.bitoffset + n - 32) by omega]
        · rw [show i - (32 - (p.bitoffset + n - 32)) = i + 0 + (p.bitoffset + n - 32) - 32 by omega]
          simp [hlo, hi, show i + (p.bitoffset + n - 32) - 32 < 32 by omega,
            show 32 ≤ i + (p.bitoffset + n - 32) by omega]
    refine ⟨lower.1, ?_⟩
    rw [lower.2, hb', hsplit, List.append_assoc]

theorem put_zero_bits_eq (hp : p.Normal) (hn : n ≤ 32) : put_zero_bits p n = put_bits p n 0 := by
  have hoff := hp.1
  have h0 (k : ℕ) : (BitVec.ofNat 32 0) <<< k = 0 := BitVec.zero_shiftLeft k
  unfold put_zero_bits put_bits
  by_cases h : p.bitoffset + n ≤ 32
  · simp [h, h0]
  · have hfull : 32 ≤ p.bitoffset + (n - (p.bitoffset + n - 32)) := by omega
    have hnot : ¬ 32 ≤ p.bitoffset + (n - (p.bitoffset + n - 32)) - 32 + (p.bitoffset + n - 32) := by
      omega
    simp [h, h0, forword_bits, hfull, hnot]

theorem put_zero_bits_emits (hn : n ≤ 32) :
    Writes (put_zero_bits · n) (List.replicate n false) := by
  intro p hp
  show (put_zero_bits p n).Normal ∧ (put_zero_bits p n).bits = _
  rw [put_zero_bits_eq hp hn, ← natBits_zero]
  exact put_bits_emits hn (Nat.two_pow_pos n) p hp

/-! ## Fields that do not fit -/

theorem forword_normal (h : p.bitoffset + n ≤ 32)
    (hlow : ∀ i, p.bitoffset + n + i < 32 → p.tmp.getLsbD i = false) : (forword_bits p n).Normal := by
  unfold forword_bits
  by_cases hfull : 32 ≤ p.bitoffset + n
  · rw [if_pos hfull]
    exact ⟨by show p.bitoffset + n - 32 < 32; omega, fun i _ => BitVec.getLsbD_zero⟩
  · rw [if_neg hfull]
    exact ⟨by show p.bitoffset + n < 32; omega, fun i hi => hlow i hi⟩

theorem put_bits_normal (hp : p.Normal) (hn : n ≤ 32) : (put_bits p n v).Normal := by
  obtain ⟨hoff, hlow⟩ := hp
  unfold put_bits
  by_cases h : p.bitoffset + n ≤ 32
  · simp only [h, if_true]
    refine forword_normal h fun i hi => ?_
    change p.bitoffset + n + i < 32 at hi
    rw [BitVec.getLsbD_or, hlow i (by omega), BitVec.getLsbD_shiftLeft]
    simp [show i < 32 - (p.bitoffset + n) by omega]
  · simp only [h, if_false]
    have hfull : p.bitoffset + (n - (p.bitoffset + n - 32)) = 32 := by omega
    rw [forword_full hfull]
    refine forword_normal (by show 0 + (p.bitoffset + n - 32) ≤ 32; omega) fun i hi => ?_
    show (0#32 ||| BitVec.ofNat 32 v <<< (32 - (p.bitoffset + n - 32))).getLsbD i = false
    simp [show i < 32 - (p.bitoffset + n - 32) by omega]

/-! ## Byte boundaries -/

theorem bits_length (hp : p.Normal) : p.bits.length = 8 * p.pos + p.bitoffset := by
  have := hp.1
  rw [BW.bits, List.length_append, bytesBits_length, List.length_take, natBits_length, BW.pos]
  omega

theorem m4v_stuffing_normal (hp : p.Normal) :
    (m4v_stuffing p).Normal ∧ (m4v_stuffing p).bitoffset % 8 = 0 ∧
      ∃ L, (m4v_stuffing p).bits = p.bits ++ L := by
  obtain ⟨hp', hb'⟩ := put_zero_bits_emits (n := 1) (by decide) p hp
  beta_reduce at hp' hb'
  unfold m4v_stuffing
  simp only
  split
  case isFalse h => exact ⟨hp', by omega, _, hb'⟩
  case isTrue h =>
    obtain ⟨hq, hb⟩ := put_bits_emits (n := (8 - (put_zero_bits p 1).bitoffset % 8) % 8)
      (v := 2 ^ ((8 - (put_zero_bits p 1).bitoffset % 8) % 8) - 1) (by omega)
      (Nat.sub_lt (Nat.two_pow_pos _) (by decide)) _ hp'
    beta_reduce at hq hb
    have hlen := congrArg List.length hb
    rw [bits_length hq, List.length_append, bits_length hp', natBits_length] at hlen
    exact ⟨hq, by omega, _, by rw [hb, hb', List.append_assoc]⟩

theorem flash_bw_buf (hp : p.Normal) (h : p.bitoffset % 8 = 0) :
    bytesBits (flash_bw p).buf = p.bits := by
  have hoff := hp.1
  have hpad : pad_to_boundary p = p := by simp [pad_to_boundary, h]
  have hcases : p.bitoffset = 0 ∨ p.bitoffset = 8 ∨ p.bitoffset = 16 ∨ p.bitoffset = 24 := by omega
  have hword := bytesBits_tmpByte p.tmp
  have htake (k : ℕ) (bs : List (BitVec 8)) (hbs : bs.length = k) (cs : List (BitVec 8))
      (h : bs ++ cs = [tmpByte p.tmp 3, tmpByte p.tmp 2, tmpByte p.tmp 1, tmpByte p.tmp 0]) :
      (natBits 32 p.tmp.toNat).take (8 * k) = bytesBits bs := by
    rw [← hword, ← h, bytesBits_append, List.take_left' (by rw [bytesBits_length, hbs])]
  unfold flash_bw
  rw [hpad]
  rcases hcases with h | h | h | h
  · simp [BW.bits, h]
  · simp [BW.bits, h, htake 1 [tmpByte p.tmp 3] rfl _ rfl]
  · simp [BW.bits, h, htake 2 [tmpByte p.tmp 3, tmpByte p.tmp 2] rfl _ rfl]
  · simp [BW.bits, h, htake 3 [tmpByte p.tmp 3, tmpByte p.tmp 2, tmpByte p.tmp 1] rfl _ rfl]

/-! ## Fields, written and read back -/

/-- The bits up to the next byte boundary are zero. -/
def padded (L : List Bool) : List Bool := L ++ List.replicate ((8 - L.length % 8) % 8) false

theorem flash_bw_padded (hp : p.Normal) : bytesBits (flash_bw p).buf = padded p.bits := by
  have hlen := bits_length hp
  by_cases h : p.bitoffset % 8 = 0
  · have hpad : (8 - p.bits.length % 8) % 8 = 0 := by omega
    rw [flash_bw_buf hp h, padded, hpad, List.replicate_zero, List.append_nil]
  · have hcount : (8 - p.bits.length % 8) % 8 = 8 - p.bitoffset % 8 := by omega
    have hpad : pad_to_boundary p = put_zero_bits p (8 - p.bitoffset % 8) := by
      simp only [pad_to_boundary]
      rw [if_pos (by omega)]
    obtain ⟨hq, hbits⟩ := put_zero_bits_emits (n := 8 - p.bitoffset % 8) (by omega) p hp
    beta_reduce at hq hbits
    rw [← hpad] at hq hbits
    have hboundary : (pad_to_boundary p).bitoffset % 8 = 0 := by
      have hqlen := bits_length hq
      rw [hbits, List.length_append, List.length_replicate] at hqlen
      omega
    have hagain : pad_to_boundary (pad_to_boundary p) = pad_to_boundary p := by
      rw [pad_to_boundary.eq_def (pad_to_boundary p)]
      simp [hboundary]
    have hflash : flash_bw p = flash_bw (pad_to_boundary p) := by
      simp only [flash_bw, hagain]
    rw [hflash, flash_bw_buf hq hboundary, hbits, padded, hcount]

/-- A call of the writer. -/
inductive Field
  | bits (count value : ℕ)
  | zeros (count : ℕ)

namespace Field

/-- A field has at most 32 bits, and its value fits; `put_zero_bits` is `put_bits` of the value 0.
-/
def Valid : Field → Prop
  | bits count value => count ≤ 32 ∧ value < 2 ^ count
  | zeros count => count ≤ 32

def put (p : BW) : Field → BW
  | bits count value => put_bits p count value
  | zeros count => put_zero_bits p count

/-- The bits of a field, the highest one first. -/
def string : Field → List Bool
  | bits count value => natBits count value
  | zeros count => List.replicate count false

theorem put_emits {f : Field} (h : f.Valid) : Writes (put · f) f.string :=
  match f, h with
  | bits _ _, h => put_bits_emits h.1 h.2
  | zeros _, h => put_zero_bits_emits h

end Field

/-- The bytes of the fields `fs`, behind the final flush. -/
def written (size : ℕ) (fs : List Field) : List (BitVec 8) :=
  (flash_bw (fs.foldl Field.put (init_bw size))).buf

theorem written_bits (size : ℕ) {fs : List Field} (h : ∀ f ∈ fs, f.Valid) :
    bytesBits (written size fs) = padded (fs.flatMap Field.string) := by
  have hinit : (init_bw size).Normal := ⟨show 0 < 32 by decide, fun _ _ => BitVec.getLsbD_zero⟩
  obtain ⟨hp, hbits⟩ := Emits.foldl (fun f hf => Field.put_emits (h f hf)) _ hinit
  rw [written, flash_bw_padded hp, hbits]
  rfl

theorem reads_ahead {q : BR} (h0 : 0 < n) (hn : n ≤ 25) (hload : q.read + 4 ≤ q.buf.length) :
    show_bits n q = some (bitsNat (q.rest.take n), q) ∧
      get_bits n q = some (bitsNat (q.rest.take n), q.flash n) ∧
      show_sbits n q = some (bitsInt (q.rest.take n), q) ∧
      get_sbits n q = some (bitsInt (q.rest.take n), q.flash n) ∧ (q.flash n).pos = q.pos + n := by
  refine ⟨(show_bits_eq_some hn).mpr ⟨hload, rfl, rfl⟩, (get_bits_eq_some hn).mpr ⟨hload, rfl, rfl⟩,
    (show_sbits_eq_some h0 hn).mpr ⟨hload, rfl, rfl⟩, (get_sbits_eq_some h0 hn).mpr ⟨hload, rfl, rfl⟩,
    ?_⟩
  simp only [BR.pos, BR.flash]
  omega

/-- Fields of 20, 16 and 9 bits: the second one crosses the accumulator. -/
def threeFields : List Field := [.bits 20 0xabcde, .zeros 16, .bits 9 0x155]

end ArchosGpl.F2m
