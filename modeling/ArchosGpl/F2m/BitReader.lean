import ArchosGpl.Lib.BitString

/-!
# The bit reader (`bitreader.h`)

`BR` is a position in the memory that starts with the source packet. No function compares the
position with `size`, so `buf` is all the memory that can be read from the packet's first byte on,
the packet and what lies behind it. A load behind `buf` has no defined result: the reader is a
state machine whose step is then `none`.

* **`get_bits_parses`, `get_sbits_parses`**: reading `n ≤ 25` bits consumes an `n`-bit string and
  returns its number, with sign extension for `get_sbits`.
-/

namespace ArchosGpl.F2m

open Lib

/-- `BR`. The offset stays below 8 because `flash_bits` masks it. -/
structure BR where
  buf : List (BitVec 8)
  size : ℕ
  read : ℕ
  bitoffset : ℕ
  bitoffset_lt : bitoffset < 8

/-- A function that takes a `BR *`; `none` is a load from outside the memory. -/
abbrev Reader := StateT BR Option

def init_br (buf : List (BitVec 8)) (size : ℕ) : BR := ⟨buf, size, 0, 0, by decide⟩

/-- The word both `show` functions load: `pp[0] << 24 | pp[1] << 16 | pp[2] << 8 | pp[3]`. -/
def bigEndian (b₀ b₁ b₂ b₃ : BitVec 8) : BitVec 32 :=
  b₀.setWidth 32 <<< 24 ||| b₁.setWidth 32 <<< 16 ||| b₂.setWidth 32 <<< 8 ||| b₃.setWidth 32

def load (p : BR) : Option (BitVec 32) :=
  match p.buf.drop p.read with
  | b₀ :: b₁ :: b₂ :: b₃ :: _ => some (bigEndian b₀ b₁ b₂ b₃)
  | _ => none

def show_bits (bits : ℕ) : Reader ℕ := fun p =>
  (load p).map fun (tmp : BitVec 32) => (((tmp <<< p.bitoffset) >>> (32 - bits)).toNat, p)

/-- `show_sbits`: the same shifts on an `int32`, so the right shift keeps the sign. -/
def show_sbits (bits : ℕ) : Reader ℤ := fun p =>
  (load p).map fun (tmp : BitVec 32) =>
    (((tmp <<< p.bitoffset).sshiftRight (32 - bits)).toInt, p)

/-- The reader `bits` bits further on, as `flash_bits` moves it. -/
def BR.flash (p : BR) (bits : ℕ) : BR :=
  { p with
    read := p.read + (bits + p.bitoffset) / 8
    bitoffset := (bits + p.bitoffset) % 8
    bitoffset_lt := Nat.mod_lt _ (by decide) }

def flash_bits (bits : ℕ) : Reader Unit := fun p => some ((), if 0 < bits then p.flash bits else p)

def get_bits (bits : ℕ) : Reader ℕ := do
  let tmp ← show_bits bits
  flash_bits bits
  return tmp

def get_sbits (bits : ℕ) : Reader ℤ := do
  let tmp ← show_sbits bits
  flash_bits bits
  return tmp

def get_br_pos : Reader ℕ := fun p => some (p.read * 8 + p.bitoffset, p)

/-- A loop of the reader: `body` again until it returns a result. Each round reads at least one bit,
so there are no more rounds than bits in the memory. -/
def loop {α : Type} (body : Reader (Option α)) : Reader α := fun p =>
  loopN body (8 * p.buf.length + 1) p

/-! ## The bits not read yet -/

def byteBits (b : BitVec 8) : List Bool := natBits 8 b.toNat

/-- The memory as one bit string. -/
def bytesBits (bs : List (BitVec 8)) : List Bool := bs.flatMap byteBits

namespace BR

/-- The number of bits read. -/
def pos (p : BR) : ℕ := 8 * p.read + p.bitoffset

/-- The bits not read yet. -/
def rest (p : BR) : List Bool := (bytesBits p.buf).drop p.pos

end BR

@[simp] theorem byteBits_length (b : BitVec 8) : (byteBits b).length = 8 := by
  rw [byteBits, natBits_length]

@[simp] theorem bytesBits_length (bs : List (BitVec 8)) : (bytesBits bs).length = 8 * bs.length := by
  induction bs with
  | nil => rfl
  | cons b bs ih =>
    rw [bytesBits, List.flatMap_cons, List.length_append, byteBits_length, List.length_cons, ← bytesBits,
      ih]
    omega

@[simp] theorem bytesBits_append (as bs : List (BitVec 8)) :
    bytesBits (as ++ bs) = bytesBits as ++ bytesBits bs := by
  rw [bytesBits, List.flatMap_append]
  rfl

theorem bytesBits_drop (bs : List (BitVec 8)) (n : ℕ) :
    bytesBits (bs.drop n) = (bytesBits bs).drop (8 * n) := by
  induction n generalizing bs with
  | zero => rfl
  | succ n ih =>
    cases bs with
    | nil => rfl
    | cons b bs =>
      have h8 : (byteBits b).drop (8 * (n + 1)) = [] :=
        List.drop_eq_nil_of_le (by rw [byteBits_length]; omega)
      rw [List.drop_succ_cons, ih, bytesBits, bytesBits, List.flatMap_cons, List.drop_append,
        byteBits_length, h8, List.nil_append]
      congr 1

variable {L : List Bool} {n : ℕ}

theorem exists_bytes (h : L.length = 8 * n) : ∃ bs, bytesBits bs = L := by
  induction n generalizing L with
  | zero => exact ⟨[], (List.length_eq_zero_iff.mp h).symm⟩
  | succ n ih =>
    obtain ⟨bs, hbs⟩ := ih (L := L.drop 8) (by rw [List.length_drop]; omega)
    have h8 : (L.take 8).length = 8 := by rw [List.length_take]; omega
    have hlt := bitsNat_lt (L.take 8)
    rw [h8] at hlt
    refine ⟨BitVec.ofNat 8 (bitsNat (L.take 8)) :: bs, ?_⟩
    rw [bytesBits, List.flatMap_cons, ← bytesBits, hbs, byteBits, BitVec.toNat_ofNat,
      Nat.mod_eq_of_lt hlt, natBits_bitsNat h8, List.take_append_drop]

theorem exists_reader (L : List Bool) : ∃ p : BR, p.rest = L := by
  have hpad : (List.replicate ((8 - L.length % 8) % 8) false ++ L).length =
      8 * ((L.length + 7) / 8) := by
    rw [List.length_append, List.length_replicate]
    omega
  obtain ⟨bs, hbs⟩ := exists_bytes hpad
  refine ⟨⟨bs, 0, 0, (8 - L.length % 8) % 8, Nat.mod_lt _ (by decide)⟩, ?_⟩
  rw [BR.rest, hbs, BR.pos, Nat.mul_zero, Nat.zero_add]
  exact List.drop_left' (List.length_replicate ..)

theorem natBits_word (v : ℕ) : natBits 32 v =
    natBits 8 (v >>> 24) ++ (natBits 8 (v >>> 16) ++ (natBits 8 (v >>> 8) ++ natBits 8 v)) := by
  rw [show 32 = 8 + (8 + (8 + 8)) from rfl, natBits_append, natBits_append 8 (8 + 8),
    natBits_append 8 8]

theorem natBits_bigEndian (b₀ b₁ b₂ b₃ : BitVec 8) :
    natBits 32 (bigEndian b₀ b₁ b₂ b₃).toNat = bytesBits [b₀, b₁, b₂, b₃] := by
  have byte (k : ℕ) (b : BitVec 8)
      (h : ∀ i < 8, (bigEndian b₀ b₁ b₂ b₃).getLsbD (k + i) = b.getLsbD i) :
      natBits 8 ((bigEndian b₀ b₁ b₂ b₃).toNat >>> k) = byteBits b := by
    refine natBits_testBit fun i hi => ?_
    rw [Nat.testBit_shiftRight, BitVec.testBit_toNat, BitVec.testBit_toNat, h i hi]
  have low (b : BitVec 8) (i : ℕ) (h : 8 ≤ i) : b.getLsbD i = false := BitVec.getLsbD_of_ge b i h
  have h₀ := byte 24 b₀ fun i hi => by
    simp [bigEndian, show 24 + i < 32 by omega, low b₁ (24 + i - 16) (by omega),
      low b₂ (24 + i - 8) (by omega), low b₃ (24 + i) (by omega)]
  have h₁ := byte 16 b₁ fun i hi => by
    simp [bigEndian, show 16 + i < 32 by omega, show 16 + i < 24 by omega,
      low b₂ (16 + i - 8) (by omega), low b₃ (16 + i) (by omega)]
  have h₂ := byte 8 b₂ fun i hi => by
    simp [bigEndian, show 8 + i < 32 by omega, show 8 + i < 24 by omega,
      show 8 + i < 16 by omega]
  have h₃ := byte 0 b₃ fun i hi => by
    simp [bigEndian, hi, show i < 32 by omega, show i < 24 by omega, show i < 16 by omega]
  rw [Nat.shiftRight_zero] at h₃
  rw [natBits_word, h₀, h₁, h₂, h₃]
  simp [bytesBits]

/-! ## The shifts of the loaded word -/

theorem toNat_shift (w : BitVec 32) {off : ℕ} (h : off + n ≤ 32) :
    ((w <<< off) >>> (32 - n)).toNat = bitsNat (((natBits 32 w.toNat).drop off).take n) := by
  have hlt : ((w <<< off) >>> (32 - n)).toNat < 2 ^ n := by
    rw [BitVec.toNat_ushiftRight, Nat.shiftRight_eq_div_pow]
    refine Nat.div_lt_of_lt_mul ?_
    rw [← Nat.pow_add, show 32 - n + n = 32 by omega]
    exact (w <<< off).isLt
  have hbits : natBits n ((w <<< off) >>> (32 - n)).toNat
      = ((natBits 32 w.toNat).drop off).take n := by
    refine List.ext_getElem (by simp; omega) fun i hi _ => ?_
    rw [natBits_length] at hi
    rw [natBits_getElem, List.getElem_take, List.getElem_drop, natBits_getElem,
      BitVec.testBit_toNat, BitVec.testBit_toNat, BitVec.getLsbD_ushiftRight,
      BitVec.getLsbD_shiftLeft]
    simp only [show 32 - n + (n - 1 - i) < 32 by omega, decide_true, Bool.true_and,
      show ¬ 32 - n + (n - 1 - i) < off by omega, decide_false, Bool.not_false]
    congr 1
    omega
  rw [← hbits, bitsNat_natBits hlt]

theorem toInt_shift (w : BitVec 32) {off : ℕ} (h : off + n ≤ 32) (hn : 0 < n) :
    ((w <<< off).sshiftRight (32 - n)).toInt
      = bitsInt (((natBits 32 w.toNat).drop off).take n) := by
  have hu := toNat_shift w h
  have hlen : (((natBits 32 w.toNat).drop off).take n).length = n := by simp; omega
  have hmsb : (((natBits 32 w.toNat).drop off).take n).head? = some (w <<< off).msb := by
    have h0 : 0 < (((natBits 32 w.toNat).drop off).take n).length := by omega
    rw [List.head?_eq_getElem?, List.getElem?_eq_getElem h0, List.getElem_take, List.getElem_drop,
      natBits_getElem, BitVec.testBit_toNat, BitVec.msb_eq_getLsbD_last, BitVec.getLsbD_shiftLeft]
    simp only [show ¬ 32 - 1 < off by omega, decide_false, Bool.not_false, Bool.and_true,
      show 32 - 1 < 32 by omega, decide_true, Bool.true_and, Nat.add_zero]
  have hpow : ((2 ^ 32 : ℕ) : ℤ) = 2 ^ n * ((2 ^ (32 - n) : ℕ) : ℤ) := by
    rw [Nat.cast_pow, Nat.cast_pow, Nat.cast_ofNat, ← pow_add]
    congr 1
    omega
  have hpos : ((2 ^ (32 - n) : ℕ) : ℤ) ≠ 0 := by exact_mod_cast (Nat.two_pow_pos _).ne'
  rw [BitVec.toNat_ushiftRight, Nat.shiftRight_eq_div_pow] at hu
  rw [bitsInt, hlen, hmsb, ← hu, BitVec.toInt_sshiftRight, Int.shiftRight_eq_div_pow,
    BitVec.toInt_eq_msb_cond]
  by_cases hm : (w <<< off).msb = true
  · rw [if_pos hm, if_pos (by rw [hm]), hpow, Int.sub_mul_ediv_right _ _ hpos, Int.natCast_ediv]
  · rw [if_neg hm, if_neg (by simpa using hm), Int.natCast_ediv]

variable {p : BR}

theorem load_eq (h : p.read + 4 ≤ p.buf.length) : ∃ w, load p = some w ∧ ∀ n, p.bitoffset + n ≤ 32 →
      p.rest.take n = ((natBits 32 w.toNat).drop p.bitoffset).take n := by
  have hlen : 4 ≤ (p.buf.drop p.read).length := by rw [List.length_drop]; omega
  obtain ⟨b₀, b₁, b₂, b₃, t, ht⟩ : ∃ b₀ b₁ b₂ b₃ t, p.buf.drop p.read = b₀ :: b₁ :: b₂ :: b₃ :: t := by
    match hd : p.buf.drop p.read with
    | b₀ :: b₁ :: b₂ :: b₃ :: t => exact ⟨b₀, b₁, b₂, b₃, t, rfl⟩
    | [] | [_] | [_, _] | [_, _, _] => rw [hd] at hlen; simp at hlen
  refine ⟨bigEndian b₀ b₁ b₂ b₃, by rw [load, ht], fun n hn => ?_⟩
  have hrest : p.rest = (bytesBits [b₀, b₁, b₂, b₃] ++ bytesBits t).drop p.bitoffset := by
    rw [BR.rest, BR.pos, ← List.drop_drop, ← bytesBits_drop, ht, ← bytesBits_append]
    rfl
  have hle : p.bitoffset ≤ (bytesBits [b₀, b₁, b₂, b₃]).length := by
    rw [bytesBits_length]
    simp only [List.length_cons, List.length_nil]
    omega
  rw [hrest, natBits_bigEndian, List.drop_append_of_le_length hle, List.take_append_of_le_length]
  rw [List.length_drop, bytesBits_length]
  simp only [List.length_cons, List.length_nil]
  omega

theorem load_none (h : ¬ p.read + 4 ≤ p.buf.length) : load p = none := by
  have hlen : (p.buf.drop p.read).length < 4 := by rw [List.length_drop]; omega
  unfold load
  split
  case h_1 heq => rw [heq] at hlen; simp at hlen; omega
  case h_2 => rfl

/-! ## The readers -/

theorem flash_rest (p : BR) (n : ℕ) : (p.flash n).rest = p.rest.drop n := by
  rw [BR.rest, BR.rest, List.drop_drop]
  congr 1
  simp only [BR.pos, BR.flash]
  omega

theorem flash_bits_eq (p : BR) (n : ℕ) : flash_bits n p = some ((), p.flash n) := by
  unfold flash_bits
  split
  · rfl
  · have hoff := p.bitoffset_lt
    obtain rfl : n = 0 := by omega
    have hread : p.read + (0 + p.bitoffset) / 8 = p.read := by omega
    have hbit : (0 + p.bitoffset) % 8 = p.bitoffset := by omega
    simp only [BR.flash, hread, hbit]

variable {q : BR} {v : ℕ}

theorem show_bits_eq_some (hn : n ≤ 25) : show_bits n p = some (v, q) ↔
      p.read + 4 ≤ p.buf.length ∧ v = bitsNat (p.rest.take n) ∧ q = p := by
  have hoff := p.bitoffset_lt
  by_cases h : p.read + 4 ≤ p.buf.length
  · obtain ⟨w, hw, hrest⟩ := load_eq h
    rw [show_bits, hw, Option.map_some, toNat_shift w (by omega), ← hrest n (by omega)]
    simp [h, eq_comm]
  · simp [show_bits, load_none h, h]

theorem show_sbits_eq_some {v : ℤ} (h0 : 0 < n) (hn : n ≤ 25) : show_sbits n p = some (v, q) ↔
      p.read + 4 ≤ p.buf.length ∧ v = bitsInt (p.rest.take n) ∧ q = p := by
  have hoff := p.bitoffset_lt
  by_cases h : p.read + 4 ≤ p.buf.length
  · obtain ⟨w, hw, hrest⟩ := load_eq h
    rw [show_sbits, hw, Option.map_some, toInt_shift w (by omega) h0, ← hrest n (by omega)]
    simp [h, eq_comm]
  · simp [show_sbits, load_none h, h]

theorem get_bits_eq_some (hn : n ≤ 25) : get_bits n p = some (v, q) ↔
      p.read + 4 ≤ p.buf.length ∧ v = bitsNat (p.rest.take n) ∧ q = p.flash n := by
  simp only [get_bits, bind_eq_some, pure_eq_some, show_bits_eq_some hn, flash_bits_eq,
    Option.some.injEq, Prod.mk.injEq]
  constructor
  · rintro ⟨_, _, ⟨h, rfl, rfl⟩, _, _, ⟨-, rfl⟩, rfl, rfl⟩
    exact ⟨h, rfl, rfl⟩
  · rintro ⟨h, rfl, rfl⟩
    exact ⟨_, _, ⟨h, rfl, rfl⟩, (), _, ⟨trivial, rfl⟩, rfl, rfl⟩

theorem get_sbits_eq_some {v : ℤ} (h0 : 0 < n) (hn : n ≤ 25) : get_sbits n p = some (v, q) ↔
      p.read + 4 ≤ p.buf.length ∧ v = bitsInt (p.rest.take n) ∧ q = p.flash n := by
  simp only [get_sbits, bind_eq_some, pure_eq_some, show_sbits_eq_some h0 hn, flash_bits_eq,
    Option.some.injEq, Prod.mk.injEq]
  constructor
  · rintro ⟨_, _, ⟨h, rfl, rfl⟩, _, _, ⟨-, rfl⟩, rfl, rfl⟩
    exact ⟨h, rfl, rfl⟩
  · rintro ⟨h, rfl, rfl⟩
    exact ⟨_, _, ⟨h, rfl, rfl⟩, (), _, ⟨trivial, rfl⟩, rfl, rfl⟩

theorem rest_length_of_load (h : p.read + 4 ≤ p.buf.length) : 25 ≤ p.rest.length := by
  have hoff := p.bitoffset_lt
  rw [BR.rest, List.length_drop, bytesBits_length, BR.pos]
  omega

theorem load_of_rest_length (h : 32 ≤ p.rest.length) : p.read + 4 ≤ p.buf.length := by
  rw [BR.rest, List.length_drop, bytesBits_length, BR.pos] at h
  omega

/-- `q` is `p` after the bits `L` have been read. -/
structure BR.Reads (p : BR) (L : List Bool) (q : BR) : Prop where
  buf : q.buf = p.buf
  pos : q.pos = p.pos + L.length
  rest : p.rest = L ++ q.rest

theorem BR.Reads.trans {r : BR} {L' : List Bool} (h : p.Reads L q) (h' : q.Reads L' r) :
    p.Reads (L ++ L') r where
  buf := h'.buf.trans h.buf
  pos := by rw [h'.pos, h.pos, List.length_append, Nat.add_assoc]
  rest := by rw [h.rest, h'.rest, List.append_assoc]

theorem BR.Reads.advances (h : p.Reads L q) (hL : L ≠ []) :
    q.buf = p.buf ∧ p.pos < q.pos ∧ p.pos < 8 * p.buf.length := by
  have hpos := h.pos
  have hlen : 0 < L.length := List.length_pos_of_ne_nil hL
  have hrest := congrArg List.length h.rest
  rw [BR.rest, List.length_drop, bytesBits_length, List.length_append] at hrest
  exact ⟨h.buf, by omega, by omega⟩

theorem flash_reads (h : n ≤ p.rest.length) : p.Reads (p.rest.take n) (p.flash n) where
  buf := rfl
  pos := by
    rw [List.length_take, Nat.min_eq_left h]
    simp only [BR.pos, BR.flash]
    omega
  rest := by rw [flash_rest, List.take_append_drop]

theorem get_bits_reads (hn : n ≤ 25) (h : get_bits n p = some (v, q)) :
    ∃ L, L.length = n ∧ bitsNat L = v ∧ p.Reads L q := by
  obtain ⟨hl, rfl, rfl⟩ := (get_bits_eq_some hn).mp h
  have hlen := rest_length_of_load hl
  exact ⟨p.rest.take n, by rw [List.length_take]; omega, rfl, flash_reads (by omega)⟩

theorem get_sbits_reads {v : ℤ} (h0 : 0 < n) (hn : n ≤ 25)
    (h : get_sbits n p = some (v, q)) : ∃ L, L.length = n ∧ bitsInt L = v ∧ p.Reads L q := by
  obtain ⟨hl, rfl, rfl⟩ := (get_sbits_eq_some h0 hn).mp h
  have hlen := rest_length_of_load hl
  exact ⟨p.rest.take n, by rw [List.length_take]; omega, rfl, flash_reads (by omega)⟩

/-- `m` reads exactly `L` and returns `a`, whatever the 64 or more bits are that follow. -/
abbrev Parses {α : Type} (m : Reader α) (L : List Bool) (a : α) : Prop := Consumes BR.rest 64 m L a

theorem get_bits_parses (hL : L.length = n) (hn : n ≤ 25) : Parses (get_bits n) L (bitsNat L) := by
  intro p tail hp hlen
  have hl : p.read + 4 ≤ p.buf.length :=
    load_of_rest_length (by rw [hp, List.length_append]; omega)
  have htake : p.rest.take n = L := by rw [hp, ← hL, List.take_left]
  refine ⟨p.flash n, (get_bits_eq_some hn).mpr ⟨hl, by rw [htake], rfl⟩, ?_⟩
  rw [flash_rest, hp, ← hL, List.drop_left]

theorem get_sbits_parses (hL : L.length = n) (h0 : 0 < n) (hn : n ≤ 25) :
    Parses (get_sbits n) L (bitsInt L) := by
  intro p tail hp hlen
  have hl : p.read + 4 ≤ p.buf.length :=
    load_of_rest_length (by rw [hp, List.length_append]; omega)
  have htake : p.rest.take n = L := by rw [hp, ← hL, List.take_left]
  refine ⟨p.flash n, (get_sbits_eq_some h0 hn).mpr ⟨hl, by rw [htake], rfl⟩, ?_⟩
  rw [flash_rest, hp, ← hL, List.drop_left]

theorem get_bits_parses_natBits (hv : v < 2 ^ n) (hn : n ≤ 25) :
    Parses (get_bits n) (natBits n v) v :=
  (get_bits_parses (natBits_length n v) hn).congr rfl (bitsNat_natBits hv)

/-! ## Loops -/

/-- A round of `body` that goes on has read at least one bit of the memory. -/
def Advances {α : Type} (body : Reader (Option α)) : Prop :=
  ∀ p q, body p = some (none, q) → q.buf = p.buf ∧ p.pos < q.pos ∧ p.pos < 8 * p.buf.length

/-- **A loop that advances is not stopped by its fuel**: it satisfies the equation of the source's
`while`. -/
theorem loop_eq {α : Type} {body : Reader (Option α)} (h : Advances body) :
    loop body = (body >>= fun r => match r with
      | some a => pure a
      | none => loop body) := by
  funext p
  show (body p).bind _ = (body p).bind _
  cases hb : body p with
  | none => rfl
  | some r =>
    obtain ⟨_ | a, q⟩ := r
    · obtain ⟨hbuf, hlt, hend⟩ := h p q hb
      refine loopN_eq (m := fun p => 8 * p.buf.length - p.pos) (fun s t hst => ?_) ?_ ?_
      · obtain ⟨hbuf, hlt, hend⟩ := h s t hst
        rw [hbuf]
        omega
      · rw [hbuf]
        omega
      · omega
    · rfl

end ArchosGpl.F2m
