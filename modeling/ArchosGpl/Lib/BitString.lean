import Mathlib.Data.Nat.Bitwise
import Mathlib.Data.List.Basic
import Mathlib.Tactic.Ring

/-!
# Bit strings, and machines that read and write them

A bit string is a `List Bool`, the most significant bit first. `natBits n v` is the `n`-bit string
of `v`, `bitsNat` the number of a string. They are inverse to each other (`bitsNat_natBits`,
`natBits_bitsNat`).

* `Consumes rest slack m L a`: whatever follows (at least `slack` bits), the reader `m` on a state
  whose unread bits start with `L` returns `a` and has read exactly `L`. Readers in sequence consume
  the concatenation (`Consumes.bind`).
* `Ensures m P`: whatever the reader `m` returns satisfies `P`.
* `Emits bits ok f L`: from a good state the writer `f` appends exactly `L` to the bits written.
  Writers in sequence append the concatenation (`Emits.comp`, `Emits.foldl`).
-/

namespace ArchosGpl.Lib

/-! ## Numbers as bit strings -/

/-- The `n`-bit string of `v`. -/
def natBits : ℕ → ℕ → List Bool
  | 0, _ => []
  | n + 1, v => v.testBit n :: natBits n v

/-- The number of a bit string. -/
def bitsNat : List Bool → ℕ
  | [] => 0
  | b :: bs => b.toNat * 2 ^ bs.length + bitsNat bs

/-- The number of a bit string in two's complement. -/
def bitsInt (bs : List Bool) : ℤ :=
  if bs.head? = some true then (bitsNat bs : ℤ) - 2 ^ bs.length else bitsNat bs

@[simp] theorem natBits_length (n v : ℕ) : (natBits n v).length = n := by
  induction n with
  | zero => rfl
  | succ n ih => simp [natBits, ih]

theorem natBits_getElem (n v i : ℕ) (h : i < (natBits n v).length) :
    (natBits n v)[i] = v.testBit (n - 1 - i) := by
  induction n generalizing i with
  | zero => simp at h
  | succ n ih =>
    cases i with
    | zero => simp [natBits]
    | succ i =>
      simp only [natBits, List.getElem_cons_succ]
      rw [ih]
      congr 1
      omega

theorem bitsNat_lt (bs : List Bool) : bitsNat bs < 2 ^ bs.length := by
  induction bs with
  | nil => simp [bitsNat]
  | cons b bs ih =>
    have hb : b.toNat ≤ 1 := Bool.toNat_le b
    have hm : b.toNat * 2 ^ bs.length ≤ 1 * 2 ^ bs.length := Nat.mul_le_mul_right _ hb
    rw [bitsNat, List.length_cons, Nat.pow_succ]
    omega

theorem bitsNat_append (as bs : List Bool) :
    bitsNat (as ++ bs) = bitsNat as * 2 ^ bs.length + bitsNat bs := by
  induction as with
  | nil => simp [bitsNat]
  | cons a as ih =>
    rw [List.cons_append, bitsNat, bitsNat, ih, List.length_append, Nat.pow_add]
    ring

theorem bitsNat_inj {as bs : List Bool} (hl : as.length = bs.length)
    (h : bitsNat as = bitsNat bs) : as = bs := by
  induction as generalizing bs with
  | nil => exact (List.length_eq_zero_iff.mp hl.symm).symm
  | cons a as ih =>
    obtain _ | ⟨b, bs⟩ := bs
    · simp at hl
    have hl' : as.length = bs.length := by simpa using hl
    have ha := bitsNat_lt as
    have hb := bitsNat_lt bs
    rw [bitsNat, bitsNat, hl'] at h
    rw [hl'] at ha
    have hab : a = b := by
      cases a <;> cases b <;>
        first | rfl | (simp only [Bool.toNat_true, Bool.toNat_false] at h; omega)
    rw [hab] at h ⊢
    rw [ih hl' (Nat.add_left_cancel h)]

variable {n : ℕ}

theorem natBits_testBit {m v : ℕ} (h : ∀ i < n, m.testBit i = v.testBit i) :
    natBits n m = natBits n v := by
  refine List.ext_getElem (by simp) fun i hi _ => ?_
  rw [natBits_length] at hi
  rw [natBits_getElem, natBits_getElem, h _ (by omega)]

theorem bitsNat_natBits_mod (n v : ℕ) : bitsNat (natBits n v) = v % 2 ^ n := by
  induction n generalizing v with
  | zero => simp [natBits, bitsNat, Nat.mod_one]
  | succ n ih =>
    rw [natBits, bitsNat, ih, natBits_length, Nat.toNat_testBit, Nat.mod_pow_succ]
    ring

@[simp] theorem bitsNat_natBits {v : ℕ} (h : v < 2 ^ n) : bitsNat (natBits n v) = v := by
  rw [bitsNat_natBits_mod, Nat.mod_eq_of_lt h]

theorem natBits_bitsNat {bs : List Bool} (h : bs.length = n) : natBits n (bitsNat bs) = bs := by
  subst h
  exact bitsNat_inj (by simp) (bitsNat_natBits (bitsNat_lt bs))

theorem natBits_append (m n v : ℕ) : natBits (m + n) v = natBits m (v >>> n) ++ natBits n v := by
  induction m with
  | zero => simp [natBits]
  | succ m ih =>
    rw [Nat.add_right_comm, natBits, natBits, ih, Nat.testBit_shiftRight, List.cons_append,
      Nat.add_comm n m]

theorem natBits_zero (n : ℕ) : natBits n 0 = List.replicate n false := by
  induction n with
  | zero => rfl
  | succ n ih => rw [natBits, ih, Nat.zero_testBit, List.replicate_succ]

theorem bitsNat_take_shift {L : List Bool} {m : ℕ} (hm : m ≤ n) (hn : n ≤ L.length) :
    bitsNat (L.take n) >>> (n - m) = bitsNat (L.take m) := by
  have hsplit : L.take n = L.take m ++ (L.take n).drop m := by
    conv_lhs => rw [← List.take_append_drop m (L.take n), List.take_take, Nat.min_eq_left hm]
  have hlen : ((L.take n).drop m).length = n - m := by
    rw [List.length_drop, List.length_take]
    omega
  have hlt := bitsNat_lt ((L.take n).drop m)
  rw [hlen] at hlt
  rw [hsplit, bitsNat_append, hlen, Nat.shiftRight_eq_div_pow, Nat.mul_comm,
    Nat.mul_add_div (Nat.two_pow_pos _), Nat.div_eq_of_lt hlt, Nat.add_zero]

/-! ## Readers -/

section Reader

universe u

variable {σ α β : Type u} {rest : σ → List Bool} {slack : ℕ}

variable {m : StateT σ Option α} {f : α → StateT σ Option β} {s t : σ}

theorem bind_eq_some {b : β} :
    (m >>= f) s = some (b, t) ↔ ∃ a u, m s = some (a, u) ∧ f a u = some (b, t) := by
  show (m s).bind (fun r => f r.1 r.2) = some (b, t) ↔ _
  rw [Option.bind_eq_some_iff, Prod.exists]

variable {a : α}

theorem bind_of_some (h : m s = some (a, t)) : (m >>= f) s = f a t := by
  show (m s).bind (fun r => f r.1 r.2) = _
  rw [h, Option.bind_some]

theorem pure_eq_some {b : α} :
    (Pure.pure a : StateT σ Option α) s = some (b, t) ↔ a = b ∧ s = t := by
  show some (a, s) = some (b, t) ↔ _
  rw [Option.some.injEq, Prod.mk.injEq]

/-- Whatever `m` returns satisfies `P`. -/
def Ensures (m : StateT σ Option α) (P : α → Prop) : Prop := ∀ s a t, m s = some (a, t) → P a

variable {P : α → Prop}

theorem Ensures.pure (h : P a) : Ensures (Pure.pure a : StateT σ Option α) P := by
  intro s b t hb
  obtain ⟨rfl, -⟩ := pure_eq_some.mp hb
  exact h

theorem Ensures.bind
    {Q : β → Prop} (hm : Ensures m P) (hf : ∀ a, P a → Ensures (f a) Q) : Ensures (m >>= f) Q := by
  intro s b t h
  obtain ⟨a, u, ha, hb⟩ := bind_eq_some.mp h
  exact hf a (hm s a u ha) u b t hb

theorem Ensures.bind' {Q : β → Prop} (hf : ∀ a, Ensures (f a) Q) : Ensures (m >>= f) Q :=
  Ensures.bind (P := fun _ => True) (fun _ _ _ _ => trivial) fun a _ => hf a

theorem Ensures.ite {c : Prop} [Decidable c] {n : StateT σ Option α}
    (hm : c → Ensures m P) (hn : ¬c → Ensures n P) : Ensures (if c then m else n) P := by
  split
  · exact hm ‹_›
  · exact hn ‹_›

/-- Run `body` until it returns a result, at most `fuel` times. -/
def loopN (body : StateT σ Option (Option α)) : ℕ → StateT σ Option α
  | 0 => fun _ => none
  | fuel + 1 => do
    match ← body with
    | some a => Pure.pure a
    | none => loopN body fuel

/-- **Where a measure falls with each round, the fuel does not matter** once it exceeds it. -/
theorem loopN_eq {body : StateT σ Option (Option α)} {m : σ → ℕ}
    (hm : ∀ s t, body s = some (none, t) → m t < m s) {f f' : ℕ} (h : m s < f)
    (h' : m s < f') : loopN body f s = loopN body f' s := by
  induction f generalizing f' s with
  | zero => omega
  | succ f ih =>
    obtain _ | f' := f'
    · omega
    show (body s).bind _ = (body s).bind _
    cases hb : body s with
    | none => rfl
    | some r =>
      obtain ⟨_ | a, t⟩ := r
      · have := hm s t hb
        exact ih (by omega) (by omega)
      · rfl

/-- On unread bits that start with `L` and go on for at least `slack` bits, `m` returns `a` and has
read exactly `L`. -/
def Consumes (rest : σ → List Bool) (slack : ℕ) (m : StateT σ Option α) (L : List Bool) (a : α) :
    Prop :=
  ∀ s tail, rest s = L ++ tail → slack ≤ tail.length → ∃ s', m s = some (a, s') ∧ rest s' = tail

theorem Consumes.pure (a : α) : Consumes rest slack (Pure.pure a) [] a :=
  fun s _ hs _ => ⟨s, rfl, hs⟩

/-- **Readers in sequence** consume the concatenation. -/
theorem Consumes.bind {L L' : List Bool} {b : β} (hm : Consumes rest slack m L a) (hf : Consumes rest slack (f a) L' b) :
    Consumes rest slack (m >>= f) (L ++ L') b := by
  intro s tail hs hlen
  rw [List.append_assoc] at hs
  obtain ⟨t, ht, hrt⟩ := hm s _ hs (by rw [List.length_append]; omega)
  obtain ⟨u, hu, hru⟩ := hf t tail hrt hlen
  exact ⟨u, (bind_of_some ht).trans hu, hru⟩

theorem Consumes.congr {L L' : List Bool} {b : α}
    (h : Consumes rest slack m L a) (hL : L = L') (hab : a = b) :
    Consumes rest slack m L' b := by
  rwa [← hL, ← hab]

end Reader

/-! ## Writers -/

section Writer

variable {σ α : Type*} {bits : σ → List Bool} {ok : σ → Prop} {f g : σ → σ} {L L' : List Bool}

/-- From a good state, `f` appends exactly `L` to the bits written, and leaves a good state. -/
def Emits (bits : σ → List Bool) (ok : σ → Prop) (f : σ → σ) (L : List Bool) : Prop :=
  ∀ s, ok s → ok (f s) ∧ bits (f s) = bits s ++ L

theorem Emits.id : Emits bits ok (fun s => s) [] := fun s hs => ⟨hs, by rw [List.append_nil]⟩

/-- **Writers in sequence** append the concatenation. -/
theorem Emits.comp (hf : Emits bits ok f L) (hg : Emits bits ok g L') :
    Emits bits ok (fun s => g (f s)) (L ++ L') := by
  intro s hs
  obtain ⟨hok, hb⟩ := hf s hs
  obtain ⟨hok', hb'⟩ := hg (f s) hok
  exact ⟨hok', by rw [hb', hb, List.append_assoc]⟩

theorem Emits.congr (h : Emits bits ok f L) (hL : L = L') : Emits bits ok f L' := hL ▸ h

theorem Emits.foldl {f : σ → α → σ} {L : α → List Bool} {as : List α}
    (h : ∀ a ∈ as, Emits bits ok (fun s => f s a) (L a)) :
    Emits bits ok (fun s => as.foldl f s) (as.flatMap L) := by
  induction as with
  | nil => exact Emits.id
  | cons a as ih =>
    exact (h a (List.mem_cons_self ..)).comp (ih fun b hb => h b (List.mem_cons_of_mem a hb))

end Writer

end ArchosGpl.Lib
