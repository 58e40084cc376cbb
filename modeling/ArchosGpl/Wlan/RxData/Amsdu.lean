import ArchosGpl.Lib.WalkWhile
import ArchosGpl.Wlan.RxData.Model

/-!
# Which A-MSDUs are converted as they should be

`Right` says that the conversion ends, reads only the received buffer, delivers the subframes that
lie wholly inside the payload, frees the received buffer once, and leaves the end of the burst on
the last packet.

* `convert_right_iff`: **the conversion is right exactly for the buffers that fit** (`Fits`): the
  header behind the delivered subframes is inside the buffer, no subframe that is cut off by the end
  of the payload passes the test of the loop, and at the end of a burst nothing follows them in the
  payload.
-/

namespace ArchosGpl.Wlan.RxData

open Lib

/-- A place in the payload, with the number of buffers requested before. -/
structure Place where
  requests : ℕ
  off : ℕ

namespace Conv

variable (b : RxBuf) (alloc : ℕ → Option (Buffer UInt8))

/-! ## Subframes -/

/-- The length of the subframe at an offset of the payload. -/
def lenAt (off : ℕ) : ℕ := wlanToHs b.data (b.headerLength + off + 12)

/-- The place behind a subframe and its padding. -/
def next (x : Place) : Place := ⟨x.requests + 1, x.off + lengthDelta (lenAt b x.off)⟩

/-- A subframe for which there is memory and whose length is in bounds. -/
def Sound (x : Place) : Prop :=
  (alloc x.requests).isSome ∧ wlanSnapHdrLen ≤ lenAt b x.off ∧ lenAt b x.off ≤ msduDataLenLimit

def payloadLen : ℕ :=
  4 * b.length.toNat - rxIfDescriptorSize - b.extraBytes.toNat - b.headerLength

/-- **A subframe that lies wholly inside the payload.** -/
def Whole (x : Place) : Prop :=
  Sound b alloc x ∧ x.off + ethernetHdrLen + lenAt b x.off ≤ payloadLen b

/-- A subframe that passes the tests of the loop. -/
def Taken (x : Place) : Prop :=
  Sound b alloc x ∧ lenAt b x.off < b.amsduDataLen - x.off ∧
    ethernetHdrLen + fcsSize < b.amsduDataLen - x.off

/-- The Ethernet packet of a subframe: its addresses, the SNAP type, and the bytes after the SNAP
header. -/
def packetOf (x : Place) : List UInt8 :=
  let o := b.headerLength + x.off
  b.data.slice o 12 ++ b.data.slice (o + 20) 2 ++ b.data.slice (o + 22) (lenAt b x.off - 8)

/-- The walk over the subframes that `p` accepts. -/
abbrev Subframes (p : Place → Prop) : List Place → Place → Prop := WalkWhile p (next b) ⟨0, 0⟩

/-- If packets are delivered, exactly the last one carries the end of the burst. -/
def BurstEnds (delivered : List EthPkt) : Prop :=
  ∀ l p, delivered = l ++ [p] → p.endOfBurst = true ∧ ∀ e ∈ l, e.endOfBurst = false

/-- The buffer carries `DRV_RX_FLAG_END_OF_BURST`. -/
def EndOfBurst : Prop := b.driverFlags &&& drvRxFlagEndOfBurst ≠ 0

/-- **What the conversion is to have done at its end.** -/
structure Right (c : Conv) : Prop where
  reads : ∀ o ∈ c.reads, o < b.size
  packets : ∃ l y, Subframes b (Whole b alloc) l y ∧
    c.delivered.map (fun e => e.1.bytes) = l.map (packetOf b)
  freed : c.freed = 1
  burst : EndOfBurst b → BurstEnds (c.delivered.map Prod.fst)

/-- **The buffers that the conversion can bear**, with the subframes inside the payload and the
place behind them. -/
structure FitsAt (l : List Place) (y : Place) : Prop where
  whole : Subframes b (Whole b alloc) l y
  header : b.headerLength + y.off + ethernetHdrLen ≤ b.size
  taken : ∀ x ∈ l, Taken b alloc x
  cut : ¬ Taken b alloc y
  burst : EndOfBurst b → l = [] ∨ b.amsduDataLen ≤ y.off

def Fits : Prop := ∃ l y, FitsAt b alloc l y

/-! ## Lengths -/

theorem amsduDataLen_eq
    (hle : rxIfDescriptorSize + b.extraBytes.toNat + b.headerLength ≤ 4 * b.length.toNat)
    (hlt : payloadLen b < 2 ^ 16) : b.amsduDataLen = payloadLen b := by
  have hlength := b.length.toNat_lt
  unfold payloadLen RxBuf.amsduDataLen RxBuf.rxBufLen rxIfDescriptorSize at *
  generalize b.headerLength = h at *
  generalize b.extraBytes.toNat = e at *
  generalize b.length.toNat = n at *
  have h₁ : sub32 (4 * n) e = 4 * n - e := sub32_of_le (by omega) (by omega)
  have h₂ : sub32 (4 * n - e) 16 = 4 * n - e - 16 := sub32_of_le (by omega) (by omega)
  have h₃ : sub32 (4 * n - e - 16) h = 4 * n - e - 16 - h := sub32_of_le (by omega) (by omega)
  rw [h₁, h₂, h₃]
  omega

theorem le_lengthDelta (n : ℕ) : ethernetHdrLen + n ≤ lengthDelta n := by
  unfold lengthDelta ethernetHdrLen
  omega

theorem taken_exists (x : Place) : ∃ l y, WalkWhile (Taken b alloc) (next b) x l y := by
  refine WalkWhile.exists_of_measure (fun x => b.amsduDataLen - x.off) (fun x hx => ?_) x
  have hlt := hx.2.1
  have hle := le_lengthDelta (lenAt b x.off)
  show b.amsduDataLen - (x.off + lengthDelta (lenAt b x.off)) < b.amsduDataLen - x.off
  unfold ethernetHdrLen at hle
  omega

/-! ## The packet of a subframe -/

theorem ethPkt_bytes {msdu dataLen : ℕ} (flags : UInt8) (mem : Buffer UInt8) (h : 8 ≤ dataLen) :
    (ethPkt b msdu dataLen flags mem).bytes =
      b.data.slice msdu 12 ++ b.data.slice (msdu + 20) 2 ++
        b.data.slice (msdu + 22) (dataLen - 8) := by
  obtain ⟨n, rfl⟩ : ∃ n, dataLen = 8 + n := ⟨dataLen - 8, by omega⟩
  obtain ⟨mem₁, h₁⟩ : ∃ m, m = mem.copyTo 10 (b.data.slice msdu 14) := ⟨_, rfl⟩
  obtain ⟨mem₂, h₂⟩ : ∃ m, m = mem₁.copyTo 22 (b.data.slice (msdu + 20) 2) := ⟨_, rfl⟩
  have haddr : mem₁.slice 10 12 = b.data.slice msdu 12 := by
    have hcopy := mem.slice_copyTo 10 (b.data.slice msdu (12 + 2))
    rw [Buffer.length_slice, ← h₁, Buffer.slice_add, Buffer.slice_add] at hcopy
    exact List.append_inj_left hcopy (by simp)
  have htype : mem₂.slice 10 14 = b.data.slice msdu 12 ++ b.data.slice (msdu + 20) 2 := by
    have hcopy := mem₁.slice_copyTo_append 10 12 (b.data.slice (msdu + 20) 2)
    rw [Buffer.length_slice, haddr] at hcopy
    rw [h₂]
    exact hcopy
  have hpay : (if 8 < 8 + n then mem₂.copyTo 24 (b.data.slice (msdu + 22) (8 + n - 8)) else
      mem₂).slice 10 (14 + n) = mem₂.slice 10 14 ++ b.data.slice (msdu + 22) n := by
    rw [Nat.add_sub_cancel_left]
    split
    · have hcopy := mem₂.slice_copyTo_append 10 14 (b.data.slice (msdu + 22) n)
      rwa [Buffer.length_slice] at hcopy
    next hn =>
      obtain rfl : n = 0 := by omega
      rw [Buffer.slice_zero, List.append_nil]
  have hlen : 8 + n + 14 - 8 = 14 + n := by omega
  unfold EthPkt.bytes
  show Buffer.slice (if 8 < 8 + n then (Buffer.copyTo (mem.copyTo 10 (b.data.slice msdu 14)) 22
    (b.data.slice (msdu + 20) 2)).copyTo 24 (b.data.slice (msdu + 22) (8 + n - 8)) else
    Buffer.copyTo (mem.copyTo 10 (b.data.slice msdu 14)) 22 (b.data.slice (msdu + 20) 2)) 10
    (8 + n + 14 - 8) = _
  rw [← h₁, ← h₂, hlen, hpay, htype, Nat.add_sub_cancel_left]

def deliver (x : Place) : EthPkt × RxDataPacketType :=
  let off := b.headerLength + x.off
  let dataLen := lenAt b x.off
  let flags :=
    if lengthDelta dataLen < b.amsduDataLen - x.off then b.driverFlags &&& ~~~drvRxFlagEndOfBurst
    else b.driverFlags
  let pkt := ethPkt b off dataLen flags ((alloc x.requests).getD fun _ => 0)
  (pkt, packetType b off pkt)

variable {x : Place}

theorem deliver_bytes (hx : Taken b alloc x) : (deliver b alloc x).1.bytes = packetOf b x :=
  ethPkt_bytes b _ _ hx.1.2.1

theorem deliver_endOfBurst (hb : EndOfBurst b) (x : Place) :
    (deliver b alloc x).1.endOfBurst = decide (b.amsduDataLen ≤ (next b x).off) := by
  have hcleared : ∀ f : UInt8, (f &&& ~~~drvRxFlagEndOfBurst) &&& drvRxFlagEndOfBurst = 0 := by
    intro f
    rw [UInt8.and_assoc]
    exact UInt8.and_zero
  have hflags : (deliver b alloc x).1.endOfBurst = decide
      ((if lengthDelta (lenAt b x.off) < b.amsduDataLen - x.off then
        b.driverFlags &&& ~~~drvRxFlagEndOfBurst else b.driverFlags) &&& drvRxFlagEndOfBurst ≠ 0) :=
    rfl
  rw [hflags, decide_eq_decide]
  show _ ↔ b.amsduDataLen ≤ x.off + lengthDelta (lenAt b x.off)
  split
  next hlt => exact iff_of_false (fun h => h (hcleared _)) (by omega)
  next hge => exact iff_of_true hb (by omega)

/-! ## The loop -/

/-- The variables at a place. -/
structure At (c : Conv) (x : Place) : Prop where
  msduEthHeader : c.msduEthHeader = b.headerLength + x.off
  amsduDataLen : c.amsduDataLen = b.amsduDataLen - x.off
  dataLen : c.dataLen = lenAt b x.off
  requests : c.requests = x.requests

variable {c : Conv}

theorem pass_at {mem : Buffer UInt8} (hc : At b c x) (hmem : alloc x.requests = some mem) :
    At b (c.pass b mem) (next b x) ∧ (c.pass b mem).freed = c.freed ∧
      (c.pass b mem).delivered = c.delivered ++ [deliver b alloc x] ∧
      (c.pass b mem).reads = c.reads ++ passReads (b.headerLength + x.off) (lenAt b x.off) := by
  refine ⟨⟨?_, ?_, ?_, ?_⟩, rfl, ?_, ?_⟩
  · show c.msduEthHeader + lengthDelta c.dataLen = b.headerLength + (x.off + lengthDelta _)
    rw [hc.msduEthHeader, hc.dataLen, Nat.add_assoc]
  · show (if decide (lengthDelta c.dataLen < c.amsduDataLen) = true then
      c.amsduDataLen - lengthDelta c.dataLen else 0) = b.amsduDataLen - (x.off + lengthDelta _)
    rw [hc.amsduDataLen, hc.dataLen]
    split
    next => omega
    next h =>
      rw [decide_eq_true_eq] at h
      omega
  · show wlanToHs b.data (c.msduEthHeader + lengthDelta c.dataLen + 12) =
      wlanToHs b.data (b.headerLength + (x.off + lengthDelta _) + 12)
    rw [hc.msduEthHeader, hc.dataLen, Nat.add_assoc b.headerLength]
  · show c.requests + 1 = x.requests + 1
    rw [hc.requests]
  · unfold pass deliver
    simp only [hc.msduEthHeader, hc.amsduDataLen, hc.dataLen, hmem, Option.getD_some,
      decide_eq_true_eq]
  · show c.reads ++ passReads c.msduEthHeader c.dataLen = _
    rw [hc.msduEthHeader, hc.dataLen]

variable {l : List Place} {y : Place}

/-- **The loop** takes the subframes that pass its tests, and frees the received buffer. -/
theorem loop_taken {fuel : ℕ} (hc : At b c x)
    (h : WalkWhile (Taken b alloc) (next b) x l y) (hfuel : l.length < fuel) :
    ∃ d st, loop b alloc fuel c = some (d, st) ∧ d.freed = c.freed + 1 ∧
      d.delivered = c.delivered ++ l.map (deliver b alloc) ∧
      d.reads = c.reads ++
        l.flatMap fun x => passReads (b.headerLength + x.off) (lenAt b x.off) := by
  induction h generalizing c fuel with
  | @stop x hx =>
    obtain ⟨fuel, rfl⟩ : ∃ n, fuel = n + 1 := ⟨fuel - 1, by omega⟩
    rw [loop]
    split
    next htest =>
      rw [hc.dataLen, hc.amsduDataLen] at htest
      split
      · exact ⟨_, _, rfl, rfl, by simp [discardPacket, rxBufFree],
          by simp [discardPacket, rxBufFree]⟩
      next hbounds =>
        rw [hc.dataLen] at hbounds
        have hnone : alloc x.requests = none := by
          by_contra hsome
          exact hx ⟨⟨Option.isSome_iff_ne_none.mpr hsome, by omega, by omega⟩, htest⟩
        rw [hc.requests, hnone]
        exact ⟨_, _, rfl, rfl, by simp [discardPacket, rxBufFree],
          by simp [discardPacket, rxBufFree]⟩
    · exact ⟨_, _, rfl, rfl, by simp [rxBufFree], by simp [rxBufFree]⟩
  | @go x y l hx _ ih =>
    obtain ⟨fuel, rfl⟩ : ∃ n, fuel = n + 1 := ⟨fuel - 1, by omega⟩
    obtain ⟨mem, hmem⟩ := Option.isSome_iff_exists.mp hx.1.1
    obtain ⟨hat, hfreed, hdel, hreads⟩ := pass_at b alloc hc hmem
    obtain ⟨d, st, hrun, hfreed', hdel', hreads'⟩ := ih hat (Nat.lt_of_succ_lt_succ hfuel)
    refine ⟨d, st, ?_, by rw [hfreed', hfreed], ?_, ?_⟩
    · rw [loop, if_pos ⟨hc.dataLen ▸ hc.amsduDataLen ▸ hx.2.1, hc.amsduDataLen ▸ hx.2.2⟩,
        if_neg (by rw [hc.dataLen]; have := hx.1; unfold Sound at this; omega), hc.requests]
      simp only [hmem]
      exact hrun
    · rw [hdel', hdel, List.append_assoc, List.map_cons, List.singleton_append]
    · rw [hreads', hreads, List.append_assoc, List.flatMap_cons]

/-! ## The bytes read -/

variable {n : ℕ}

theorem passReads_lt_iff {msdu dataLen : ℕ} (h : wlanSnapHdrLen ≤ dataLen) :
    (∀ o ∈ passReads msdu dataLen, o < n) ↔ msdu + lengthDelta dataLen + ethernetHdrLen ≤ n := by
  have hle := le_lengthDelta dataLen
  unfold wlanSnapHdrLen at h
  unfold ethernetHdrLen at hle
  simp only [passReads, List.forall_mem_append, List.forall_mem_cons, List.not_mem_nil,
    false_imp_iff, forall_const, and_true, List.mem_range'_1, ethernetHdrLen, wlanSnapHdrLen]
  constructor
  · rintro ⟨-, -, hlast⟩
    omega
  · intro hn
    exact ⟨⟨⟨⟨by omega, by omega⟩, fun o ho => by omega⟩, fun o ho => by omega⟩, by omega, by omega⟩

/-- **The bytes of all passes** are inside exactly if the header behind the last subframe is. -/
theorem reads_lt_iff (h : WalkWhile (Taken b alloc) (next b) x l y) :
    ((∀ x ∈ l, ∀ o ∈ passReads (b.headerLength + x.off) (lenAt b x.off), o < n) ∧
      b.headerLength + x.off + ethernetHdrLen ≤ n) ↔
      b.headerLength + y.off + ethernetHdrLen ≤ n := by
  induction h with
  | stop => exact and_iff_right fun _ hx => nomatch hx
  | @go x y l hx _ ih =>
    have hle := le_lengthDelta (lenAt b x.off)
    have hnext : (next b x).off = x.off + lengthDelta (lenAt b x.off) := rfl
    rw [List.forall_mem_cons, passReads_lt_iff hx.1.2.1, ← ih, hnext]
    unfold ethernetHdrLen at *
    constructor
    · rintro ⟨⟨hfirst, hrest⟩, -⟩
      exact ⟨hrest, by omega⟩
    · rintro ⟨hrest, hfirst⟩
      exact ⟨⟨by omega, hrest⟩, by omega⟩

/-! ## The end of the burst -/

theorem burstEnds_iff (hb : EndOfBurst b) (h : Subframes b (Taken b alloc) l y) :
    BurstEnds (l.map fun x => (deliver b alloc x).1) ↔ l = [] ∨ b.amsduDataLen ≤ y.off := by
  rcases List.eq_nil_or_concat l with rfl | ⟨m, e, rfl⟩
  · refine iff_of_true (fun l p hl => ?_) (Or.inl rfl)
    cases l <;> cases hl
  · rw [List.concat_eq_append] at h ⊢
    obtain ⟨rfl, hm⟩ := h.of_concat
    rw [or_iff_right (by simp), List.map_append, List.map_singleton]
    constructor
    · intro hends
      have hlast := (hends _ _ rfl).1
      rwa [deliver_endOfBurst b alloc hb, decide_eq_true_eq] at hlast
    · intro hend l p hl
      obtain ⟨rfl, hp⟩ := List.append_inj' hl rfl
      obtain rfl : (deliver b alloc e).1 = p := (List.cons.inj hp).1
      refine ⟨by rwa [deliver_endOfBurst b alloc hb, decide_eq_true_eq], ?_⟩
      rw [List.forall_mem_map]
      intro d hd
      rw [deliver_endOfBurst b alloc hb, decide_eq_false_iff_not]
      have hlt := (hm d hd).2.1
      omega

/-! ## The whole conversion -/

theorem start_at : At b (start b) ⟨0, 0⟩ := ⟨rfl, (Nat.sub_zero _).symm, rfl, rfl⟩

/-- **What the conversion does**, with the subframes that pass its tests. -/
theorem convert_eq (h : Subframes b (Taken b alloc) l y) :
    ∃ fuel d st, convertAmsduToEthPackets b alloc fuel = some (d, st) ∧ d.freed = 1 ∧
      d.delivered = l.map (deliver b alloc) ∧
      ∀ n, (∀ o ∈ d.reads, o < n) ↔ b.headerLength + y.off + ethernetHdrLen ≤ n := by
  obtain ⟨d, st, hrun, hfreed, hdel, hreads⟩ :=
    loop_taken b alloc (start_at b) h (Nat.lt_succ_self l.length)
  refine ⟨_, d, st, hrun, hfreed, hdel, fun n => ?_⟩
  have hhdr : 24 ≤ b.headerLength := by
    unfold RxBuf.headerLength
    split <;> split <;> decide
  rw [hreads, List.forall_mem_append, ← reads_lt_iff b alloc h, and_comm]
  refine and_congr ?_ ?_
  · simp only [List.mem_flatMap, forall_exists_index, and_imp]
    exact ⟨fun h x hx o ho => h o x hx ho, fun h o x hx ho => h x hx o ho⟩
  · simp only [start, List.forall_mem_cons, List.not_mem_nil, false_imp_iff, forall_const,
      and_true, ethernetHdrLen]
    omega

theorem loop_mono {r : Conv × TiStatus} {m : ℕ} (hmn : m ≤ n)
    (h : loop b alloc m c = some r) : loop b alloc n c = some r := by
  induction m generalizing n c with
  | zero => cases h
  | succ m ih =>
    obtain ⟨n, rfl⟩ : ∃ k, n = k + 1 := ⟨n - 1, by omega⟩
    rw [loop] at h ⊢
    split
    next htest =>
      rw [if_pos htest] at h
      split
      next hbounds => rwa [if_pos hbounds] at h
      next hbounds =>
        rw [if_neg hbounds] at h
        cases hmem : alloc c.requests with
        | none => rwa [hmem] at h
        | some mem =>
          rw [hmem] at h
          exact ih (Nat.le_of_succ_le_succ hmn) h
    next htest => rwa [if_neg htest] at h

theorem packets_iff {m : List Place} {z : Place} (h : Subframes b (Taken b alloc) l y)
    (hm : Subframes b (Whole b alloc) m z) :
    (l.map (deliver b alloc)).map (fun e => e.1.bytes) = m.map (packetOf b) ↔ l = m ∧ y = z := by
  constructor
  · intro heq
    refine h.eq_of_length hm ?_
    have hlen := congrArg List.length heq
    simpa using hlen
  · rintro ⟨rfl, rfl⟩
    rw [List.map_map]
    exact List.map_congr_left fun x hx => deliver_bytes b alloc (h.forall_mem x hx)

/-- The conversion ends, and what it has done is right. -/
def Converts : Prop :=
  ∃ fuel c st, convertAmsduToEthPackets b alloc fuel = some (c, st) ∧ Right b alloc c

theorem right_iff (h : Subframes b (Taken b alloc) l y)
    (hfreed : c.freed = 1) (hdel : c.delivered = l.map (deliver b alloc))
    (hreads : ∀ n, (∀ o ∈ c.reads, o < n) ↔ b.headerLength + y.off + ethernetHdrLen ≤ n) :
    Right b alloc c ↔ FitsAt b alloc l y := by
  have hburst (hb : EndOfBurst b) :
      BurstEnds (c.delivered.map Prod.fst) ↔ l = [] ∨ b.amsduDataLen ≤ y.off := by
    rw [hdel, List.map_map]
    exact burstEnds_iff b alloc hb h
  constructor
  · intro hright
    obtain ⟨m, z, hm, hpackets⟩ := hright.packets
    rw [hdel] at hpackets
    obtain ⟨rfl, rfl⟩ := (packets_iff b alloc h hm).mp hpackets
    exact ⟨hm, (hreads _).mp hright.reads, h.forall_mem, h.not_end,
      fun hb => (hburst hb).mp (hright.burst hb)⟩
  · intro hfits
    refine ⟨(hreads _).mpr hfits.header, ⟨l, y, hfits.whole, ?_⟩, hfreed,
      fun hb => (hburst hb).mpr (hfits.burst hb)⟩
    rw [hdel]
    exact (packets_iff b alloc h hfits.whole).mpr ⟨rfl, rfl⟩

theorem converts_iff (h : Subframes b (Taken b alloc) l y) :
    Converts b alloc ↔ FitsAt b alloc l y := by
  obtain ⟨fuel, d, st, hrun, hfreed, hdel, hreads⟩ := convert_eq b alloc h
  rw [← right_iff b alloc h hfreed hdel hreads]
  constructor
  · rintro ⟨fuel', c, st', hrun', hright⟩
    have h₁ := loop_mono b alloc (Nat.le_max_left fuel fuel') hrun
    have h₂ := loop_mono b alloc (Nat.le_max_right fuel fuel') hrun'
    obtain rfl : d = c := congrArg Prod.fst (Option.some.inj (h₁.symm.trans h₂))
    exact hright
  · exact fun hright => ⟨fuel, d, st, hrun, hright⟩

/-- **The conversion is right exactly for the buffers that fit.** -/
theorem convert_right_iff : Converts b alloc ↔ Fits b alloc := by
  obtain ⟨l, y, h⟩ := taken_exists b alloc ⟨0, 0⟩
  rw [converts_iff b alloc h]
  constructor
  · exact fun hfits => ⟨l, y, hfits⟩
  · rintro ⟨m, z, hfits⟩
    obtain ⟨rfl, rfl⟩ := h.unique (hfits.whole.of_forall hfits.taken hfits.cut)
    exact hfits

/-- A QoS frame with a subframe of eight bytes, its SNAP header, and four bytes behind it, at the
end of a burst. -/
def trailed : RxBuf where
  length := 17
  extraBytes := 0
  driverFlags := drvRxFlagEndOfBurst
  data o := if o = 0 then 0x88 else if o = 39 then 8 else 0

/-- **Four bytes behind a subframe, and no packet ends the burst.** -/
theorem trailing_bytes_lose_burst : ¬ Converts trailed fun _ => some fun _ => 0 := by
  have hlen : trailed.amsduDataLen = 26 := amsduDataLen_eq trailed (by decide) (by decide)
  have hwalk : Subframes trailed (Taken trailed fun _ => some fun _ => 0) [⟨0, 0⟩] ⟨1, 24⟩ := by
    refine .go ⟨⟨rfl, by decide, by decide⟩, ?_, ?_⟩ (.stop fun h => ?_)
    · rw [hlen]
      decide
    · rw [hlen]
      decide
    · have hrest := h.2.2
      rw [hlen] at hrest
      exact absurd hrest (by decide)
  rw [converts_iff _ _ hwalk]
  intro hfits
  rcases hfits.burst (by unfold EndOfBurst; decide) with hnil | hend
  · cases hnil
  · rw [hlen] at hend
    exact absurd hend (by decide)

end Conv

end ArchosGpl.Wlan.RxData
