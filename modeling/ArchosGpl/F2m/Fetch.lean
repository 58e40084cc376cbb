import ArchosGpl.F2m.EncodedBits
import Mathlib.Control.Monad.Basic
import Mathlib.Logic.Relation

/-!
# The FLV fetcher (`fetch.c`)

`read_body` reads one tag after another into `packet`, a block of `PACKETBUFFER_SIZE` bytes:
`read_packet` stores the header, the payload and the trailing size behind it, and the callback is
given the whole. The memory goes on behind the block, and `written` records the offsets of all
writes.

* **`read_body_inside_iff`**: every write is inside the block, and no tag that is too large is
  accepted, exactly if every tag that the loop reaches fits.
-/

namespace ArchosGpl.F2m

/-- `FETCH`, with the offsets of `packet` that have been written, newest first. -/
structure FETCH (σ : Type) where
  stream : List (BitVec 8)
  cb_ptr : σ
  packet : ℕ → BitVec 8
  written : List ℕ

/-- `recv_flv_packet`: it is given its own data, the picture type, the packet and the time. -/
abbrev RecvFlvPacket (σ : Type) := σ → BitVec 8 → List (BitVec 8) → BitVec 32 → ℤ × σ

/-- A function that takes a `FETCH *`; without a result it returned -1. -/
abbrev Fetching (σ : Type) := OptionT (StateM (FETCH σ))

variable {σ : Type} {cb : Option (RecvFlvPacket σ)} {p q : FETCH σ}

def get_u8 : Fetching σ (BitVec 8) := fun p =>
  match p.stream with
  | [] => (none, p)
  | r :: stream => (some r, { p with stream })

def get_u24 : Fetching σ (BitVec 32) := do
  let a ← get_u8
  let b ← get_u8
  let c ← get_u8
  return bigEndian 0 a b c

def get_u32 : Fetching σ (BitVec 32) := do
  let a ← get_u8
  let b ← get_u8
  let c ← get_u8
  let d ← get_u8
  return bigEndian a b c d

/-- `fread` at an offset of the packet: it stores what the stream has, `size` bytes at most. -/
def read_buffer (buf size : ℕ) : Fetching σ Unit := fun p =>
  let got := p.stream.take size
  (if got.length = size then some () else none,
    { p with
      stream := p.stream.drop size
      packet := fun i => if buf ≤ i then got.getD (i - buf) (p.packet i) else p.packet i
      written := (List.range got.length).map (buf + ·) ++ p.written })

def put_u8 (buf : ℕ) (val : BitVec 8) : Fetching σ Unit := fun p =>
  (some (), { p with packet := Function.update p.packet buf val, written := buf :: p.written })

def put_u24 (buf : ℕ) (val : BitVec 32) : Fetching σ Unit := do
  put_u8 buf ((val >>> 16).setWidth 8)
  put_u8 (buf + 1) ((val >>> 8).setWidth 8)
  put_u8 (buf + 2) (val.setWidth 8)

def put_u32 (buf : ℕ) (val : BitVec 32) : Fetching σ Unit := do
  put_u8 buf ((val >>> 24).setWidth 8)
  put_u8 (buf + 1) ((val >>> 16).setWidth 8)
  put_u8 (buf + 2) ((val >>> 8).setWidth 8)
  put_u8 (buf + 3) (val.setWidth 8)

def send_packet (cb : Option (RecvFlvPacket σ)) (picture_type : BitVec 8) (buf_size : ℕ)
    (time : BitVec 32) : Fetching σ ℤ := fun p =>
  match cb with
  | none => (some (-1), p)
  | some cb =>
    let r := cb p.cb_ptr picture_type ((List.range buf_size).map p.packet) time
    (some r.1, { p with cb_ptr := r.2 })

/-- `read_packet`: the size, the picture type and the time of the packet that it stores at `buf`. -/
def read_packet (buf max_buf_size : ℕ) : Fetching σ (ℕ × BitVec 8 × BitVec 32) := do
  let size ← get_u24
  if size.toNat < 11 then failure
  let time ← get_u24
  let reserved ← get_u32
  let flag ← get_u8
  if max_buf_size ≤ size.toNat then failure
  put_u24 (buf + 0) size
  put_u24 (buf + 3) time
  put_u32 (buf + 6) reserved
  put_u8 (buf + 10) flag
  read_buffer (buf + 11) (size.toNat - 1)
  let size2 ← get_u32
  put_u32 (buf + size.toNat + 10) size2
  return (size.toNat + 15, flag, time)

/-- The body of the loop of `read_body`. -/
def readTag (cb : Option (RecvFlvPacket σ)) : Fetching σ Unit := do
  let tag ← get_u8
  put_u8 0 tag
  let (size, picture_type, time) ← read_packet 1 (PACKETBUFFER_SIZE - 1)
  if (← send_packet cb picture_type size time) < 0 then failure

/-- At most `n` rounds of the loop. -/
def readTags (cb : Option (RecvFlvPacket σ)) : ℕ → Fetching σ Unit
  | 0 => failure
  | n + 1 => do
    readTag cb
    readTags cb n

/-- `read_body`: every round takes a byte from the stream. -/
def read_body (cb : Option (RecvFlvPacket σ)) : Fetching σ Unit := fun p =>
  readTags cb (p.stream.length + 1) p

/-! ## What one tag writes -/

/-- The size field of the tag at the head of the stream. -/
def tagSize (stream : List (BitVec 8)) : ℕ :=
  (bigEndian 0 (stream.getD 1 0) (stream.getD 2 0) (stream.getD 3 0)).toNat

/-- Whether `read_packet` stores the tag: its header is complete and it passes both tests. -/
def Stored (stream : List (BitVec 8)) : Prop :=
  12 ≤ stream.length ∧ 11 ≤ tagSize stream ∧ tagSize stream < PACKETBUFFER_SIZE - 1

instance (stream : List (BitVec 8)) : Decidable (Stored stream) :=
  inferInstanceAs (Decidable (_ ∧ _))

/-- How far the tag is stored: with the trailing size where the stream goes that far, else with as
much of the payload as there is. -/
def tagExtent (stream : List (BitVec 8)) : ℕ :=
  if Stored stream then
    if tagSize stream + 15 ≤ stream.length then tagSize stream + 15
    else min (tagSize stream + 11) stream.length
  else min 1 stream.length

theorem fetch_bind {α β : Type} (x : Fetching σ α) (f : α → Fetching σ β) (p : FETCH σ) :
    (x >>= f) p = match x p with
      | (some a, q) => f a q
      | (none, q) => (none, q) := by
  simp only [bind, OptionT.bind, OptionT.mk, StateT.bind]
  rcases x p with ⟨_ | a, q⟩ <;> rfl

theorem fetch_pure {α : Type} (a : α) (p : FETCH σ) :
    (pure a : Fetching σ α) p = (some a, p) := rfl

theorem fetch_failure {α : Type} (p : FETCH σ) : (failure : Fetching σ α) p = (none, p) := rfl

theorem fetch_ite {α : Type} (c : Prop) [Decidable c] (x y : Fetching σ α) (p : FETCH σ) :
    (if c then x else y) p = if c then x p else y p := by
  split <;> rfl

theorem mem_offsets {buf n i : ℕ} : i ∈ (List.range n).map (buf + ·) ↔ buf ≤ i ∧ i < buf + n := by
  simp only [List.mem_map, List.mem_range]
  exact ⟨by rintro ⟨j, hj, rfl⟩; omega, fun h => ⟨i - buf, by omega, by omega⟩⟩

theorem get_u32_cons {a b c d : BitVec 8} {s : List (BitVec 8)}
    (h : p.stream = a :: b :: c :: d :: s) : get_u32 p = (some (bigEndian a b c d), { p with stream := s }) := by
  obtain ⟨_, k, m, w⟩ := p
  cases h
  rfl

theorem get_u32_eq (s : List (BitVec 8)) :
    (∃ v, ∀ p : FETCH σ, p.stream = s → get_u32 p = (some v, { p with stream := s.drop 4 })) ∧
      4 ≤ s.length ∨
    (∀ p : FETCH σ, p.stream = s → get_u32 p = (none, { p with stream := [] })) ∧ s.length < 4 := by
  match s with
  | a :: b :: c :: d :: s => exact .inl ⟨⟨_, fun p h => get_u32_cons h⟩, by simp⟩
  | [a, b, c] | [a, b] | [a] | [] =>
    refine .inr ⟨fun p h => ?_, by simp⟩
    obtain ⟨_, k, m, w⟩ := p
    cases h
    rfl

theorem read_packet_short {buf size : ℕ} (h : p.stream.length < 11) :
    ∃ stream, read_packet buf size p = (none, { p with stream }) := by
  obtain ⟨s, k, m, w⟩ := p
  iterate 11
    rcases s with _ | ⟨b, s⟩
    · simp only [read_packet, fetch_bind, get_u24, get_u32, get_u8, fetch_failure, fetch_ite,
        fetch_pure]
      try split
      all_goals exact ⟨_, rfl⟩
  simp only [List.length_cons] at h
  omega

section Whole

variable {a b c t₁ t₂ t₃ r₁ r₂ r₃ r₄ f : BitVec 8} {s : List (BitVec 8)} {buf size : ℕ}
  (hs : p.stream = a :: b :: c :: t₁ :: t₂ :: t₃ :: r₁ :: r₂ :: r₃ :: r₄ :: f :: s)
include hs

theorem read_packet_refused
    (h : (bigEndian 0 a b c).toNat < 11 ∨ size ≤ (bigEndian 0 a b c).toNat) :
    ∃ stream, read_packet buf size p = (none, { p with stream }) := by
  obtain ⟨_, k, m, w⟩ := p
  cases hs
  simp only [read_packet, fetch_bind, get_u24, get_u32, get_u8, fetch_failure, fetch_ite,
    fetch_pure]
  split
  · exact ⟨_, rfl⟩
  · rw [if_pos (h.resolve_left ‹_›)]
    exact ⟨_, rfl⟩

theorem read_packet_stored (h : ¬ (bigEndian 0 a b c).toNat < 11)
    (hm : ¬ size ≤ (bigEndian 0 a b c).toNat) :
    ∃ q, read_packet buf size p = (if (bigEndian 0 a b c).toNat + 3 ≤ s.length then
        some ((bigEndian 0 a b c).toNat + 15, f, bigEndian 0 t₁ t₂ t₃) else none, q) ∧
      q.stream = s.drop ((bigEndian 0 a b c).toNat + 3) ∧
      ∀ i, i ∈ q.written ↔ i ∈ p.written ∨ buf ≤ i ∧ i < buf +
        if (bigEndian 0 a b c).toNat + 3 ≤ s.length then (bigEndian 0 a b c).toNat + 14
        else min ((bigEndian 0 a b c).toNat + 10) (s.length + 11) := by
  obtain ⟨_, k, m, w⟩ := p
  cases hs
  simp only [read_packet, fetch_bind, get_u24, get_u8, put_u24, put_u32, put_u8, fetch_failure,
    fetch_ite, fetch_pure, if_neg h, if_neg hm]
  rw [show get_u32 _ = _ from get_u32_cons rfl]
  generalize (bigEndian 0 a b c).toNat = n at *
  simp only [read_buffer, List.length_take]
  by_cases hn : n - 1 ≤ s.length
  · simp only [min_eq_left hn, if_pos]
    rcases @get_u32_eq σ (s.drop (n - 1)) with ⟨⟨v, hv⟩, hl⟩ | ⟨hv, hl⟩ <;>
      rw [List.length_drop] at hl <;> rw [hv _ rfl]
    · rw [if_pos (by omega), if_pos (by omega)]
      refine ⟨_, rfl, by rw [List.drop_drop, show n - 1 + 4 = n + 3 by omega], fun i => ?_⟩
      by_cases hw : i ∈ w <;>
        simp only [List.mem_append, List.mem_cons, mem_offsets, hw, or_true, true_or, or_false,
          false_or]
      omega
    · rw [if_neg (by omega), if_neg (by omega)]
      refine ⟨_, rfl, (List.drop_eq_nil_of_le (by omega)).symm, fun i => ?_⟩
      by_cases hw : i ∈ w <;>
        simp only [List.mem_append, List.mem_cons, mem_offsets, hw, or_true, true_or, or_false,
          false_or]
      omega
  · simp only [min_eq_right (le_of_not_ge hn)]
    rw [if_neg (by omega), if_neg (by omega), if_neg (by omega)]
    refine ⟨_, rfl, ?_, fun i => ?_⟩
    · rw [List.drop_eq_nil_of_le (by omega), List.drop_eq_nil_of_le (by omega)]
    · by_cases hw : i ∈ w <;>
        simp only [List.mem_append, List.mem_cons, mem_offsets, hw, or_true, true_or, or_false,
          false_or]
      omega

end Whole

theorem exists_header {s : List (BitVec 8)} (h : 11 ≤ s.length) :
    ∃ a b c t₁ t₂ t₃ r₁ r₂ r₃ r₄ f rest,
      s = a :: b :: c :: t₁ :: t₂ :: t₃ :: r₁ :: r₂ :: r₃ :: r₄ :: f :: rest := by
  have hcons (n : ℕ) (s : List (BitVec 8)) (h : n + 1 ≤ s.length) :
      ∃ a rest, s = a :: rest ∧ n ≤ rest.length := by
    cases s with
    | nil => simp at h
    | cons a rest => exact ⟨a, rest, rfl, Nat.le_of_succ_le_succ h⟩
  obtain ⟨a, s, rfl, ha⟩ := hcons 10 s h
  obtain ⟨b, s, rfl, hb⟩ := hcons 9 s ha
  obtain ⟨c, s, rfl, hc⟩ := hcons 8 s hb
  obtain ⟨t₁, s, rfl, ht₁⟩ := hcons 7 s hc
  obtain ⟨t₂, s, rfl, ht₂⟩ := hcons 6 s ht₁
  obtain ⟨t₃, s, rfl, ht₃⟩ := hcons 5 s ht₂
  obtain ⟨r₁, s, rfl, hr₁⟩ := hcons 4 s ht₃
  obtain ⟨r₂, s, rfl, hr₂⟩ := hcons 3 s hr₁
  obtain ⟨r₃, s, rfl, hr₃⟩ := hcons 2 s hr₂
  obtain ⟨r₄, s, rfl, hr₄⟩ := hcons 1 s hr₃
  obtain ⟨f, s, rfl, -⟩ := hcons 0 s hr₄
  exact ⟨a, b, c, t₁, t₂, t₃, r₁, r₂, r₃, r₄, f, s, rfl⟩

theorem send_packet_apply (picture_type : BitVec 8) (size : ℕ) (time : BitVec 32) (p : FETCH σ) :
    ∃ r k, (do if (← send_packet cb picture_type size time) < 0 then failure : Fetching σ Unit) p =
      (r, { p with cb_ptr := k }) := by
  cases cb with
  | none => exact ⟨_, _, rfl⟩
  | some cb =>
    simp only [fetch_bind, send_packet, fetch_ite, fetch_failure, fetch_pure]
    split <;> exact ⟨_, _, rfl⟩

/-- **What one tag does**: the offsets that it writes, and what is left behind a tag that is
accepted. -/
theorem readTag_run (cb : Option (RecvFlvPacket σ)) (p : FETCH σ) :
    ∃ r q, readTag cb p = (r, q) ∧
      (∀ i, i ∈ q.written ↔ i ∈ p.written ∨ i < tagExtent p.stream) ∧
      (r = some () → Stored p.stream ∧ tagSize p.stream + 15 ≤ p.stream.length ∧
        q.stream = p.stream.drop (tagSize p.stream + 15)) := by
  obtain ⟨_ | ⟨t, s⟩, k, m, w⟩ := p
  · exact ⟨_, _, rfl, fun i => by simp [tagExtent, Stored], nofun⟩
  have hrun : readTag cb ⟨t :: s, k, m, w⟩ = match read_packet 1 (PACKETBUFFER_SIZE - 1)
        ⟨s, k, Function.update m 0 t, 0 :: w⟩ with
      | (some (size, picture_type, time), q) =>
        (do if (← send_packet cb picture_type size time) < 0 then failure : Fetching σ Unit) q
      | (none, q) => (none, q) := by
    change (get_u8 >>= fun tag => put_u8 0 tag >>= fun _ => _ : Fetching σ Unit) _ = _
    simp only [fetch_bind, get_u8, put_u8]
    rcases read_packet 1 (PACKETBUFFER_SIZE - 1) _ with ⟨_ | ⟨size, picture_type, time⟩, q⟩ <;>
      rfl
  rw [hrun]
  have hone (i : ℕ) : i ∈ 0 :: w ↔ i ∈ w ∨ i < 1 := by
    rw [List.mem_cons, or_comm, Nat.lt_one_iff]
  have hrefused (h : ¬ Stored (t :: s)) : tagExtent (t :: s) = 1 := by
    rw [tagExtent, if_neg h, List.length_cons]
    omega
  by_cases hl : s.length < 11
  · obtain ⟨_, h⟩ := read_packet_short (p := ⟨s, k, Function.update m 0 t, 0 :: w⟩) hl
    rw [h, hrefused fun h => by simp only [Stored, List.length_cons] at h; omega]
    exact ⟨_, _, rfl, hone, nofun⟩
  obtain ⟨a, b, c, t₁, t₂, t₃, r₁, r₂, r₃, r₄, f, s, rfl⟩ := exists_header (not_lt.mp hl)
  set rest := a :: b :: c :: t₁ :: t₂ :: t₃ :: r₁ :: r₂ :: r₃ :: r₄ :: f :: s with hrest
  have hsize : tagSize (t :: rest) = (bigEndian 0 a b c).toNat := rfl
  have hlen : (t :: rest).length = s.length + 12 := rfl
  by_cases hr : tagSize (t :: rest) < 11 ∨ PACKETBUFFER_SIZE - 1 ≤ tagSize (t :: rest)
  · obtain ⟨_, h⟩ := read_packet_refused
      (p := ⟨rest, k, Function.update m 0 t, 0 :: w⟩) rfl hr
    rw [h, hrefused fun h => by simp only [Stored] at h; omega]
    exact ⟨_, _, rfl, hone, nofun⟩
  have hstored : Stored (t :: rest) := by
    simp only [Stored]
    omega
  obtain ⟨q, h, hstream, hw⟩ := @read_packet_stored σ ⟨rest, k, Function.update m 0 t, 0 :: w⟩
    _ _ _ _ _ _ _ _ _ _ _ _ 1 _ rfl (not_or.mp hr).1 (not_or.mp hr).2
  rw [h, tagExtent, if_pos hstored, hlen]
  simp only [← hsize] at hw hstream ⊢
  have hwritten (i : ℕ) : i ∈ q.written ↔ i ∈ w ∨ i <
      if tagSize (t :: rest) + 15 ≤ s.length + 12 then tagSize (t :: rest) + 15
      else min (tagSize (t :: rest) + 11) (s.length + 12) := by
    rw [hw, hone]
    by_cases hi : i ∈ w <;> simp only [hi, true_or, false_or]
    split <;> split <;> omega
  by_cases hfits : tagSize (t :: rest) + 3 ≤ s.length
  · obtain ⟨r, k, hs⟩ := @send_packet_apply σ cb f (tagSize (t :: rest) + 15)
      (bigEndian 0 t₁ t₂ t₃) q
    rw [if_pos hfits]
    refine ⟨r, _, hs, hwritten, fun _ => ⟨hstored, by omega, hstream.trans ?_⟩⟩
    rfl
  · rw [if_neg hfits]
    exact ⟨_, _, rfl, hwritten, nofun⟩

/-! ## The whole body -/

def Round (cb : Option (RecvFlvPacket σ)) (p q : FETCH σ) : Prop :=
  (readTag cb p).1 = some () ∧ (readTag cb p).2 = q

/-- The states in which the loop reads a tag. -/
abbrev Reached (cb : Option (RecvFlvPacket σ)) : FETCH σ → FETCH σ → Prop :=
  Relation.ReflTransGen (Round cb)

/-- With a size that passes both tests of `read_packet`, the tag at the head of the stream fits into
the block, or the stream ends before the first byte that does not. -/
def TagFits (stream : List (BitVec 8)) : Prop :=
  11 ≤ tagSize stream → tagSize stream < PACKETBUFFER_SIZE - 1 →
    (PACKETBUFFER_SIZE < tagSize stream + 11 → stream.length ≤ PACKETBUFFER_SIZE) ∧
    (PACKETBUFFER_SIZE < tagSize stream + 15 → stream.length < tagSize stream + 15)

theorem tagExtent_le_iff (stream : List (BitVec 8)) :
    tagExtent stream ≤ PACKETBUFFER_SIZE ↔ TagFits stream := by
  rw [tagExtent, TagFits]
  by_cases h : Stored stream
  · rw [if_pos h]
    simp only [Stored, PACKETBUFFER_SIZE] at h ⊢
    split <;> omega
  · rw [if_neg h]
    simp only [Stored, PACKETBUFFER_SIZE] at h ⊢
    omega

/-- **The offsets that the loop writes** are those of the tags it reads. -/
theorem readTags_written (cb : Option (RecvFlvPacket σ)) (n : ℕ) (p : FETCH σ)
    (hn : p.stream.length < n) (i : ℕ) :
    i ∈ (readTags cb n p).2.written ↔
      i ∈ p.written ∨ ∃ q, Reached cb p q ∧ i < tagExtent q.stream := by
  induction n generalizing p with
  | zero => omega
  | succ n ih =>
    obtain ⟨r, q, hrun, hw, hsome⟩ := readTag_run cb p
    have hnext : readTags cb (n + 1) p = match readTag cb p with
        | (some _, q) => readTags cb n q
        | (none, q) => (none, q) := by
      rw [readTags, fetch_bind]
      rcases readTag cb p with ⟨_ | _, _⟩ <;> rfl
    have hreach (x : FETCH σ) : Reached cb p x ↔ p = x ∨ r = some () ∧ Reached cb q x := by
      rw [Reached, Relation.ReflTransGen.cases_head_iff]
      simp only [Round, hrun]
      exact or_congr_right ⟨by rintro ⟨_, ⟨hr, rfl⟩, hx⟩; exact ⟨hr, hx⟩,
        fun h => ⟨q, ⟨h.1, rfl⟩, h.2⟩⟩
    rw [hnext, hrun]
    simp only [hreach, or_and_right, exists_or, exists_eq_left', ← or_assoc, ← hw]
    cases r with
    | none => simp
    | some _ =>
      obtain ⟨hs, hl, hq⟩ := hsome rfl
      have hshort : q.stream.length < n := by
        rw [hq, List.length_drop]
        omega
      simpa using ih q hshort

theorem read_body_written (cb : Option (RecvFlvPacket σ)) (p : FETCH σ) (i : ℕ) :
    i ∈ (read_body cb p).2.written ↔
      i ∈ p.written ∨ ∃ q, Reached cb p q ∧ i < tagExtent q.stream :=
  readTags_written cb (p.stream.length + 1) p (Nat.lt_succ_self _) i

/-- **Writes stay inside the block, and tags that are too large are rejected**, exactly if every tag
that the loop reads fits. -/
theorem read_body_inside_iff (cb : Option (RecvFlvPacket σ)) (stream : List (BitVec 8)) (cb_ptr : σ)
    (packet : ℕ → BitVec 8) :
    ((∀ i ∈ (read_body cb ⟨stream, cb_ptr, packet, []⟩).2.written, i < PACKETBUFFER_SIZE) ∧
      ∀ q, Reached cb ⟨stream, cb_ptr, packet, []⟩ q →
        PACKETBUFFER_SIZE < tagSize q.stream + 15 → (readTag cb q).1 = none) ↔
    ∀ q, Reached cb ⟨stream, cb_ptr, packet, []⟩ q → TagFits q.stream := by
  have hw := read_body_written cb ⟨stream, cb_ptr, packet, []⟩
  constructor
  · rintro ⟨hin, -⟩ q hq
    rw [← tagExtent_le_iff]
    by_contra hout
    exact absurd (hin _ ((hw PACKETBUFFER_SIZE).mpr (.inr ⟨q, hq, not_le.mp hout⟩)))
      (lt_irrefl _)
  · refine fun hfits => ⟨fun i hi => ?_, fun q hq hlarge => ?_⟩
    · obtain hi | ⟨q, hq, hi⟩ := (hw i).mp hi
      · cases hi
      · exact lt_of_lt_of_le hi ((tagExtent_le_iff _).mpr (hfits q hq))
    · obtain ⟨r, q', hrun, -, hsome⟩ := readTag_run cb q
      rw [hrun]
      cases r with
      | none => rfl
      | some _ =>
        obtain ⟨⟨-, hlow, hhigh⟩, hl, -⟩ := hsome rfl
        exact absurd hl (not_le.mpr ((hfits q hq hlow hhigh).2 hlarge))

/-- A tag of size `PACKETBUFFER_SIZE - 14`, with all its bytes. -/
def oversized : List (BitVec 8) := [9, 0x03, 0xFF, 0xF2] ++ List.replicate 262141 0

theorem tagExtent_oversized : PACKETBUFFER_SIZE < tagExtent oversized := by
  have hsize : tagSize oversized = 262130 := by
    decide
  have hlen : oversized.length = 262145 := by
    rw [oversized, List.length_append, List.length_replicate]
    rfl
  rw [tagExtent, if_pos (by rw [Stored, hsize, hlen]; decide), hsize, hlen]
  decide

/-- The last byte of the trailing size is written behind the block. -/
theorem not_inside_oversized :
    ¬ ∀ i ∈ (read_body (some fun k _ _ _ => (0, k)) ⟨oversized, (), fun _ => 0, []⟩).2.written,
      i < PACKETBUFFER_SIZE :=
  fun hin => absurd (hin PACKETBUFFER_SIZE
    ((read_body_written _ _ _).mpr (.inr ⟨_, .refl, tagExtent_oversized⟩))) (lt_irrefl _)

end ArchosGpl.F2m
