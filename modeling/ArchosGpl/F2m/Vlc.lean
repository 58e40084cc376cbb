import ArchosGpl.F2m.BitReader

/-!
# Variable-length codes (`get_vlc`, `get_vlcdec`)

A table is indexed by the next `bits` bits. An entry with `n ≥ 0` is the code and the length of its
word; with `n < 0` it points to a second table for the `-n` bits behind. The index of an invalid
word has code `-1`.

* `vlcDecodes`: the table decodes the words of a list, none a prefix of another, and no other word.
  Then **`get_vlc_parses`** (a word of the code is read, and exactly its bits) and
  **`get_vlc_word`** (whatever is read without error is a word of the code).
-/

namespace ArchosGpl.F2m

open Lib

structure VLCtab where
  code : ℤ
  n : ℤ
  deriving DecidableEq, Repr

/-- `VLCDEC`: the bits of a code word as read, and one more bit where `bits_ex` says so. -/
structure VLCDEC where
  bits : ℕ
  value : ℕ
  bits_ex : ℕ
  value_ex : ℕ
  deriving DecidableEq, Repr

/-- `table[index]`. -/
def vlcEntry (table : List VLCtab) (index : ℕ) : VLCtab := table.getD index ⟨-1, 0⟩

def get_vlc (table : List VLCtab) (bits max_depth : ℕ) : Reader ℤ := do
  let index ← show_bits bits
  let e := vlcEntry table index
  if 1 < max_depth ∧ e.n < 0 then
    flash_bits bits
    let index ← show_bits (-e.n).toNat
    let e' := vlcEntry table (index + e.code.toNat)
    flash_bits e'.n.toNat
    return e'.code
  else
    flash_bits e.n.toNat
    return e.code

/-- `get_vlcdec`: the code, and its word in `bits` and `value` of the `VLCDEC`. -/
def get_vlcdec (table : List VLCtab) (bits max_depth : ℕ) (vlcdec : VLCDEC) :
    Reader (ℤ × VLCDEC) := do
  let pos ← get_br_pos
  let «show» ← show_bits 24
  let tmp ← get_vlc table bits max_depth
  let pos' ← get_br_pos
  let len := pos' - pos
  return (tmp, { vlcdec with bits := len, value := «show» >>> (24 - len) })

/-! ## Checking a table -/

/-- `P code len window` holds at every entry a lookup can end at, `window` being the bits looked
at and `len ≤ window.length` the number of bits taken off. -/
def vlcAll (table : List VLCtab) (bits max_depth : ℕ) (P : ℤ → ℕ → List Bool → Bool) : Bool :=
  decide (2 ^ bits ≤ table.length) && (table.take (2 ^ bits)).zipIdx.all fun (e, i) =>
    if 1 < max_depth ∧ e.n < 0 then
      decide ((-e.n).toNat ≤ 16 ∧ e.code.toNat + 2 ^ (-e.n).toNat ≤ table.length) &&
      ((table.drop e.code.toNat).take (2 ^ (-e.n).toNat)).zipIdx.all fun (e', j) =>
        decide (e'.n.toNat ≤ (-e.n).toNat) &&
          P e'.code (bits + e'.n.toNat) (natBits bits i ++ natBits (-e.n).toNat j)
    else decide (e.n.toNat ≤ bits) && P e.code e.n.toNat (natBits bits i)

theorem vlcEntry_mem {table : List VLCtab} {n k i : ℕ} (hn : k + n ≤ table.length) (hi : i < n) :
    (vlcEntry table (i + k), i) ∈ ((table.drop k).take n).zipIdx := by
  rw [List.mem_zipIdx_iff_getElem?, List.getElem?_take_of_lt hi, List.getElem?_drop, Nat.add_comm k i,
    vlcEntry, List.getD_eq_getElem?_getD, List.getElem?_eq_getElem (by omega), Option.getD_some]

section

variable {table : List VLCtab} {bits max_depth : ℕ} {P : ℤ → ℕ → List Bool → Bool}

theorem get_vlc_window (hP : vlcAll table bits max_depth P = true) (hb : bits ≤ 25) {p q : BR} {c : ℤ}
    (h : get_vlc table bits max_depth p = some (c, q)) :
    ∃ W k, P c k W = true ∧ W <+: p.rest ∧ k ≤ W.length ∧ p.Reads (W.take k) q := by
  rw [vlcAll, Bool.and_eq_true, List.all_eq_true] at hP
  obtain ⟨hsize, hP⟩ := hP
  have hsize := of_decide_eq_true hsize
  simp only [get_vlc, bind_eq_some] at h
  obtain ⟨index, p₁, hs, h⟩ := h
  obtain ⟨hl, rfl, rfl⟩ := (show_bits_eq_some hb).mp hs
  have hlen := rest_length_of_load hl
  have hW : (p₁.rest.take bits).length = bits := by rw [List.length_take]; omega
  have hlt := bitsNat_lt (p₁.rest.take bits)
  rw [hW] at hlt
  have hi := hP _ (vlcEntry_mem (k := 0) (by omega) hlt)
  simp only [natBits_bitsNat hW, Nat.add_zero] at hi
  split at h
  case isTrue h2 =>
    rw [if_pos h2, Bool.and_eq_true, List.all_eq_true] at hi
    obtain ⟨hnb, hi⟩ := hi
    obtain ⟨hnb, hsize'⟩ := of_decide_eq_true hnb
    simp only [bind_eq_some, flash_bits_eq, pure_eq_some, Option.some.injEq, Prod.mk.injEq] at h
    obtain ⟨-, _, ⟨-, rfl⟩, j, p₂, hs', -, _, ⟨-, rfl⟩, rfl, rfl⟩ := h
    obtain ⟨hl', rfl, rfl⟩ := (show_bits_eq_some (by omega)).mp hs'
    have hlen' := rest_length_of_load hl'
    have hr := flash_reads (p := p₁) (n := bits) (by omega)
    have hW' : ((p₁.flash bits).rest.take (-(vlcEntry table (bitsNat (p₁.rest.take bits))).n).toNat).length
        = (-(vlcEntry table (bitsNat (p₁.rest.take bits))).n).toNat := by
      rw [List.length_take]
      omega
    have hlt' := bitsNat_lt
      ((p₁.flash bits).rest.take (-(vlcEntry table (bitsNat (p₁.rest.take bits))).n).toNat)
    rw [hW'] at hlt'
    have hj := hi _ (vlcEntry_mem hsize' hlt')
    simp only [natBits_bitsNat hW', Bool.and_eq_true, decide_eq_true_eq] at hj
    obtain ⟨hk, hP⟩ := hj
    refine ⟨_, _, hP, ?_, ?_, ?_⟩
    · have hpre := (List.prefix_append_right_inj (p₁.rest.take bits)).mpr
        (List.take_prefix (-(vlcEntry table (bitsNat (p₁.rest.take bits))).n).toNat
          (p₁.flash bits).rest)
      rwa [← hr.rest] at hpre
    · rw [List.length_append, hW, hW']
      omega
    · rw [List.take_append, hW, List.take_of_length_le (by omega), Nat.add_sub_cancel_left,
        List.take_take, Nat.min_eq_left hk]
      exact hr.trans (flash_reads (by omega))
  case isFalse h2 =>
    rw [if_neg h2, Bool.and_eq_true] at hi
    obtain ⟨hk, hi⟩ := hi
    have hk := of_decide_eq_true hk
    simp only [bind_eq_some, flash_bits_eq, pure_eq_some, Option.some.injEq, Prod.mk.injEq] at h
    obtain ⟨-, _, ⟨-, rfl⟩, rfl, rfl⟩ := h
    refine ⟨p₁.rest.take bits, _, hi, List.take_prefix _ _, by rw [hW]; exact hk, ?_⟩
    rw [List.take_take, Nat.min_eq_left hk]
    exact flash_reads (by omega)

theorem get_vlc_isSome (hP : vlcAll table bits max_depth P = true) (hb : bits ≤ 25) {p : BR}
    (hp : 64 ≤ p.rest.length) : ∃ c q, get_vlc table bits max_depth p = some (c, q) := by
  have hs := (show_bits_eq_some hb (p := p)).mpr ⟨load_of_rest_length (by omega), rfl, rfl⟩
  have hs' (n : ℕ) (hn : n ≤ 25) := (show_bits_eq_some hn (p := p.flash bits)).mpr
    ⟨load_of_rest_length (by rw [flash_rest, List.length_drop]; omega), rfl, rfl⟩
  rw [vlcAll, Bool.and_eq_true, List.all_eq_true] at hP
  obtain ⟨hsize, hP⟩ := hP
  have hsize := of_decide_eq_true hsize
  have hW : (p.rest.take bits).length = bits := by rw [List.length_take]; omega
  have hlt := bitsNat_lt (p.rest.take bits)
  rw [hW] at hlt
  have hi := hP _ (vlcEntry_mem (k := 0) (by omega) hlt)
  rw [get_vlc, bind_of_some hs]
  simp only [Nat.add_zero] at hi ⊢
  split at hi
  case isTrue h2 =>
    rw [Bool.and_eq_true] at hi
    obtain ⟨h16, -⟩ := of_decide_eq_true hi.1
    rw [if_pos h2, bind_of_some (flash_bits_eq _ _), bind_of_some (hs' _ (by omega)),
      bind_of_some (flash_bits_eq _ _)]
    exact ⟨_, _, rfl⟩
  case isFalse h2 =>
    rw [if_neg h2, bind_of_some (flash_bits_eq _ _)]
    exact ⟨_, _, rfl⟩

end

theorem get_vlcdec_eq_some {p q : BR} {c : ℤ} {v v' : VLCDEC} :
    get_vlcdec table bits max_depth v p = some ((c, v'), q) ↔
      p.read + 4 ≤ p.buf.length ∧ get_vlc table bits max_depth p = some (c, q) ∧
      v' = { v with
        bits := q.pos - p.pos
        value := bitsNat (p.rest.take 24) >>> (24 - (q.pos - p.pos)) } := by
  have hpos (r : BR) : r.read * 8 + r.bitoffset = r.pos := by rw [BR.pos, Nat.mul_comm]
  simp only [get_vlcdec, bind_eq_some, pure_eq_some, get_br_pos, hpos, Option.some.injEq,
    Prod.mk.injEq, show_bits_eq_some (show 24 ≤ 25 by decide)]
  constructor
  · rintro ⟨_, _, ⟨rfl, rfl⟩, _, _, ⟨hl, rfl, rfl⟩, _, _, hg, _, _, ⟨rfl, rfl⟩, ⟨rfl, rfl⟩, rfl⟩
    exact ⟨hl, hg, rfl⟩
  · rintro ⟨hl, hg, rfl⟩
    exact ⟨_, _, ⟨rfl, rfl⟩, _, _, ⟨hl, rfl, rfl⟩, _, _, hg, _, _, ⟨rfl, rfl⟩, ⟨rfl, rfl⟩, rfl⟩

theorem get_vlcdec_reads {p q : BR} {c : ℤ} {v v' : VLCDEC} {L : List Bool}
    (h : get_vlcdec table bits max_depth v p = some ((c, v'), q)) (hr : p.Reads L q)
    (hL : L.length ≤ 24) : v' = { v with bits := L.length, value := bitsNat L } := by
  obtain ⟨hl, -, rfl⟩ := get_vlcdec_eq_some.mp h
  have h25 := rest_length_of_load hl
  rw [hr.pos, Nat.add_sub_cancel_left, bitsNat_take_shift hL (by omega)]
  rw [hr.rest, List.take_left]

/-! ## Tables of a prefix code -/

/-- Word `c` of a list of numbers and lengths; length 0 means that the code is not used. -/
def vlcWord (words : List (ℕ × ℕ)) (c : ℕ) : List Bool :=
  natBits (words.getD c (0, 0)).2 (words.getD c (0, 0)).1

/-- No word of the list is a prefix of another. -/
def prefixFree : List (ℕ × ℕ) → Bool
  | [] => true
  | w :: ws =>
    decide (w.1 < 2 ^ w.2) && (w.2 == 0 || ws.all fun w' =>
      w'.2 == 0 || w.1 >>> (w.2 - w'.2) != w'.1 >>> (w'.2 - w.2)) && prefixFree ws

/-- The table decodes the words of the list, none of which is a prefix of another; the windows of
its invalid entries agree with no word. -/
def vlcDecodes (table : List VLCtab) (bits max_depth : ℕ) (words : List (ℕ × ℕ)) : Bool :=
  vlcAll table bits max_depth (fun c k W =>
    if 0 ≤ c then k != 0 && W.take k == vlcWord words c.toNat
    else words.all fun w =>
      w.2 == 0 || !(natBits w.2 w.1).isPrefixOf W && !W.isPrefixOf (natBits w.2 w.1)) &&
  prefixFree words

section

variable {table : List VLCtab} {bits max_depth : ℕ} {words : List (ℕ × ℕ)}

theorem shift_eq_of_comparable {m n v w : ℕ} (hv : v < 2 ^ m) (hw : w < 2 ^ n)
    (h : natBits m v <+: natBits n w) : v >>> (m - n) = w >>> (n - m) := by
  have hle : m ≤ n := by simpa using h.length_le
  have htake := List.prefix_iff_eq_take.mp h
  rw [natBits_length] at htake
  have hshift := bitsNat_take_shift (L := natBits n w) hle (by rw [natBits_length])
  rw [← htake, List.take_of_length_le (by rw [natBits_length]), bitsNat_natBits hw,
    bitsNat_natBits hv] at hshift
  rw [Nat.sub_eq_zero_of_le hle, Nat.shiftRight_zero, hshift]

theorem getD_mem_of_used {c : ℕ} (hc : 0 < (words.getD c (0, 0)).2) :
    words.getD c (0, 0) ∈ words := by
  rw [List.getD_eq_getElem?_getD] at hc ⊢
  cases h : words[c]? with
  | none => simp [h] at hc
  | some w =>
    rw [Option.getD_some]
    exact List.mem_of_getElem? h

theorem lt_of_prefixFree (h : prefixFree words = true) {w : ℕ × ℕ} (hw : w ∈ words) :
    w.1 < 2 ^ w.2 := by
  induction words with
  | nil => simp at hw
  | cons a ws ih =>
    simp only [prefixFree, Bool.and_eq_true, decide_eq_true_eq] at h
    rcases List.mem_cons.mp hw with rfl | hw
    · exact h.1.1
    · exact ih h.2 hw

theorem eq_of_comparable (h : prefixFree words = true) {i j : ℕ} (hi : 0 < (words.getD i (0, 0)).2)
    (hj : 0 < (words.getD j (0, 0)).2) (hp : vlcWord words i <+: vlcWord words j) : i = j := by
  induction words generalizing i j with
  | nil => simp at hi
  | cons w ws ih =>
    have hlt := fun {x} (hx : x ∈ w :: ws) => lt_of_prefixFree h hx
    simp only [prefixFree, Bool.and_eq_true, Bool.or_eq_true, beq_iff_eq, List.all_eq_true,
      bne_iff_ne] at h
    obtain ⟨⟨-, hall⟩, hws⟩ := h
    match i, j with
    | 0, 0 => rfl
    | 0, j + 1 =>
      rw [List.getD_cons_zero] at hi
      rw [List.getD_cons_succ] at hj
      have hmem := getD_mem_of_used hj
      have hne := ((hall.resolve_left hi.ne') _ hmem).resolve_left hj.ne'
      exact absurd (shift_eq_of_comparable (hlt (List.mem_cons_self ..))
        (hlt (List.mem_cons_of_mem _ hmem)) hp) hne
    | i + 1, 0 =>
      rw [List.getD_cons_succ] at hi
      rw [List.getD_cons_zero] at hj
      have hmem := getD_mem_of_used hi
      have hne := ((hall.resolve_left hj.ne') _ hmem).resolve_left hi.ne'
      exact absurd (shift_eq_of_comparable (hlt (List.mem_cons_of_mem _ hmem))
        (hlt (List.mem_cons_self ..)) hp).symm hne
    | i + 1, j + 1 =>
      rw [List.getD_cons_succ] at hi hj
      exact congrArg (· + 1) (ih hws hi hj hp)

theorem get_vlc_word (h : vlcDecodes table bits max_depth words = true) (hb : bits ≤ 25)
    {p q : BR} {c : ℤ} (hg : get_vlc table bits max_depth p = some (c, q)) (hc : 0 ≤ c) :
    0 < (words.getD c.toNat (0, 0)).2 ∧ p.Reads (vlcWord words c.toNat) q := by
  rw [vlcDecodes, Bool.and_eq_true] at h
  obtain ⟨W, k, hP, -, hk, hr⟩ := get_vlc_window h.1 hb hg
  rw [if_pos hc, Bool.and_eq_true, bne_iff_ne, beq_iff_eq] at hP
  have hlen := congrArg List.length hP.2
  rw [List.length_take, vlcWord, natBits_length] at hlen
  exact ⟨by omega, hP.2 ▸ hr⟩

theorem get_vlc_parses (h : vlcDecodes table bits max_depth words = true) (hb : bits ≤ 25) {c : ℕ}
    (hc : 0 < (words.getD c (0, 0)).2) :
    Parses (get_vlc table bits max_depth) (vlcWord words c) (c : ℤ) := by
  intro p tail hp hlen
  have h' := h
  rw [vlcDecodes, Bool.and_eq_true] at h'
  obtain ⟨hall, hfree⟩ := h'
  obtain ⟨c', q, hg⟩ := get_vlc_isSome hall hb (p := p) (by rw [hp, List.length_append]; omega)
  have hpre : vlcWord words c <+: p.rest := ⟨tail, hp.symm⟩
  obtain ⟨W, k, hP, hW, -, -⟩ := get_vlc_window hall hb hg
  by_cases hc' : 0 ≤ c'
  · obtain ⟨hused, hr⟩ := get_vlc_word h hb hg hc'
    have hpre' : vlcWord words c'.toNat <+: p.rest := ⟨q.rest, hr.rest.symm⟩
    have hcc : c = c'.toNat := by
      rcases List.prefix_or_prefix_of_prefix hpre hpre' with hp' | hp'
      · exact eq_of_comparable hfree hc hused hp'
      · exact (eq_of_comparable hfree hused hc hp').symm
    refine ⟨q, by rw [hg, hcc, Int.toNat_of_nonneg hc'], ?_⟩
    have := hr.rest
    rw [hp, hcc] at this
    exact (List.append_cancel_left this).symm
  · rw [if_neg hc', List.all_eq_true] at hP
    have hno := hP _ (getD_mem_of_used hc)
    simp only [Bool.or_eq_true, beq_iff_eq, hc.ne', false_or, Bool.and_eq_true, Bool.not_eq_true',
      ← Bool.not_eq_true, List.isPrefixOf_iff_prefix] at hno
    rcases List.prefix_or_prefix_of_prefix hpre hW with hp' | hp'
    · exact absurd hp' hno.1
    · exact absurd hp' hno.2

theorem get_vlcdec_parses (h : vlcDecodes table bits max_depth words = true) (hb : bits ≤ 25) {c : ℕ}
    (hc : 0 < (words.getD c (0, 0)).2) (hw : (vlcWord words c).length ≤ 24) (v : VLCDEC) :
    Parses (get_vlcdec table bits max_depth v) (vlcWord words c)
      ((c : ℤ), { v with bits := (vlcWord words c).length, value := bitsNat (vlcWord words c) }) := by
  intro p tail hp hlen
  obtain ⟨q, hg, hq⟩ := get_vlc_parses h hb hc p tail hp hlen
  obtain ⟨-, hr⟩ := get_vlc_word h hb hg (Int.natCast_nonneg c)
  have hl : p.read + 4 ≤ p.buf.length :=
    load_of_rest_length (by rw [hp, List.length_append]; omega)
  have hv := (get_vlcdec_eq_some (v := v)).mpr ⟨hl, hg, rfl⟩
  rw [Int.toNat_natCast] at hr
  exact ⟨q, by rw [hv, get_vlcdec_reads hv hr hw], hq⟩

end

end ArchosGpl.F2m
