import ArchosGpl.Lib.Buffer
import ArchosGpl.Lib.Word
import ArchosGpl.Wlan.QosMngr.Model
import Mathlib.Data.Nat.Bitwise

/-!
# The TSPEC element (`stad/src/Sta_Management/trafficAdmControl.c`)

`trafficAdmCtrl_buildTSPec` writes the element of a request as a list of writes into a buffer
(`writes`), `trafficAdmCtrl_parseTspecIE` reads one at fixed offsets. The build is a little-endian
one, in which `COPY_WLAN_WORD` and `COPY_WLAN_LONG` copy the bytes in their order.

* **`tspec_roundTrip_iff`**: the parser gives back what the builder was given exactly if the fields
  fit the element and the surplus bandwidth allowance is `0`: the parser takes it from the three
  highest bits, the builder writes it as it is.
-/

namespace ArchosGpl.Wlan.TrafficAdmCtrl

open Lib Wlan.QosMngr

abbrev wmeTspecIeLen : ℕ := 61

/-- `WME_TSPEC_IE_ID`, the OUI, and the types and the version of the element. -/
def header : List UInt8 := [221, .ofNat wmeTspecIeLen, 0x00, 0x50, 0xf2, 0x02, 0x02, 0x01]

/-- `TSID_SHIFT`, `DIRECTION_SHIFT`, `ACCESS_POLICY_SHIFT`, `APSD_SHIFT` and
`USER_PRIORITY_SHIFT`. -/
abbrev tsidShift : ℕ := 1
abbrev directionShift : ℕ := 5
abbrev accessPolicyShift : ℕ := 7
abbrev apsdShift : ℕ := 2
abbrev userPriorityShift : ℕ := 3

abbrev surplusBandwidthAllow : ℕ := 13

/-- `tsInfoArr[0]`. -/
def tsInfo0 (userPriority streamDirection : ℕ) : UInt8 :=
  .ofNat (userPriority <<< tsidShift) ||| .ofNat (streamDirection <<< directionShift) |||
    .ofNat (0x1 <<< accessPolicyShift)

/-- `tsInfoArr[1]`: no aggregation, the normal acknowledgement. -/
def tsInfo1 (upsdFlag userPriority : ℕ) : UInt8 :=
  .ofNat (upsdFlag <<< apsdShift) ||| .ofNat (userPriority <<< userPriorityShift)

def nominalMsduSize (useFixedMsduSize : Bool) (info : TspecInfo) : ℕ :=
  if useFixedMsduSize then info.nominalMsduSize ||| fixedNominalMsduSizeMask
  else info.nominalMsduSize

/-- The writes of `trafficAdmCtrl_buildTSPec`, in their order. -/
def writes (useFixedMsduSize : Bool) (info : TspecInfo) : List (ℕ × List UInt8) :=
  [(0, List.replicate (wmeTspecIeLen + 2) 0),
    (0, header),
    -- no schedule
    (8, [tsInfo0 info.userPriority info.streamDirection,
      tsInfo1 info.upsdFlag info.userPriority, 0]),
    (11, leBytes 2 (nominalMsduSize useFixedMsduSize info)),
    (13, leBytes 2 (withoutFixedMask (nominalMsduSize useFixedMsduSize info))),
    (15, leBytes 4 info.uMinimumServiceInterval),
    (19, leBytes 4 info.uMaximumServiceInterval),
    (27, leBytes 4 0),
    (35, leBytes 4 info.meanDataRate),
    (39, leBytes 4 info.meanDataRate),
    (43, leBytes 4 info.meanDataRate),
    (55, leBytes 4 info.minimumPhyRate),
    (59, leBytes 2 info.surplusBwAllowance)]

/-- `trafficAdmCtrl_buildTSPec`: the buffer and the length. -/
def buildTspec (useFixedMsduSize : Bool) (info : TspecInfo) (pDataBuf : Buffer UInt8) :
    Buffer UInt8 × ℕ :=
  (pDataBuf.writeAll (writes useFixedMsduSize info), wmeTspecIeLen + 2)

def field (pData : Buffer UInt8) (off len : ℕ) : ℕ := leValue (pData.slice off len)

def parseTspecIe (info : TspecInfo) (pData : Buffer UInt8) : TspecInfo :=
  let userPriority := ((pData 9 &&& 0x38) >>> 3).toNat
  { info with
    ac := wmeQosTagToAcTable userPriority
    userPriority := userPriority
    upsdFlag := ((pData 9 &&& 0x04) >>> 2).toNat
    streamDirection := ((pData 8 &&& 0x60) >>> 5).toNat
    tid := ((pData 8 &&& 0x1E) >>> 1).toNat
    nominalMsduSize := field pData 11 2
    uMinimumServiceInterval := field pData 15 4
    uMaximumServiceInterval := field pData 19 4
    meanDataRate := field pData 39 4
    minimumPhyRate := field pData 55 4
    surplusBwAllowance := field pData 59 2 / 2 ^ surplusBandwidthAllow
    mediumTime := field pData 61 2 }

/-! ## The promise -/

/-- What the parser has to give back. -/
structure Same (info parsed : TspecInfo) : Prop where
  ac : parsed.ac = info.ac
  userPriority : parsed.userPriority = info.userPriority
  tid : parsed.tid = info.tid
  streamDirection : parsed.streamDirection = info.streamDirection
  upsdFlag : parsed.upsdFlag = info.upsdFlag
  nominalMsduSize : withoutFixedMask parsed.nominalMsduSize = withoutFixedMask info.nominalMsduSize
  uMinimumServiceInterval : parsed.uMinimumServiceInterval = info.uMinimumServiceInterval
  uMaximumServiceInterval : parsed.uMaximumServiceInterval = info.uMaximumServiceInterval
  meanDataRate : parsed.meanDataRate = info.meanDataRate
  minimumPhyRate : parsed.minimumPhyRate = info.minimumPhyRate
  surplusBwAllowance : parsed.surplusBwAllowance = info.surplusBwAllowance

/-- The buffer is changed exactly in its first bytes. -/
structure Written (build : Buffer UInt8 → Buffer UInt8) (len : ℕ) : Prop where
  outside : ∀ b i, len ≤ i → build b i = b i
  inside : ∀ b b' i, i < len → build b i = build b' i

/-- The values that fit the element: a user priority below 8, which is also the TSID and gives the
access category, a flag, a direction, and numbers of the widths of the fields. -/
structure FitsElement (info : TspecInfo) : Prop where
  userPriority : info.userPriority < 8
  tid : info.tid = info.userPriority
  ac : info.ac = wmeQosTagToAcTable info.userPriority
  streamDirection : info.streamDirection < 4
  upsdFlag : info.upsdFlag < 2
  nominalMsduSize : info.nominalMsduSize < 2 ^ 16
  uMinimumServiceInterval : info.uMinimumServiceInterval < 2 ^ 32
  uMaximumServiceInterval : info.uMaximumServiceInterval < 2 ^ 32
  meanDataRate : info.meanDataRate < 2 ^ 32
  minimumPhyRate : info.minimumPhyRate < 2 ^ 32

/-! ## What is written -/

theorem writes_inside (useFixedMsduSize : Bool) (info : TspecInfo) :
    ∀ w ∈ writes useFixedMsduSize info, w.1 + w.2.length ≤ wmeTspecIeLen + 2 := by
  simp [writes, header]

theorem build_written (useFixedMsduSize : Bool) (info : TspecInfo) :
    Written (fun b => (buildTspec useFixedMsduSize info b).1) (wmeTspecIeLen + 2) where
  outside := fun b _ hi => Buffer.writeAll_outside b fun w hw =>
    Or.inr ((writes_inside useFixedMsduSize info w hw).trans hi)
  inside := by
    intro b b' i hi
    refine Buffer.writeAll_inside b b' ⟨_, List.mem_cons_self, Nat.zero_le i, ?_⟩
    rwa [List.length_replicate, Nat.zero_add]

theorem field_build {useFixedMsduSize : Bool} {info : TspecInfo} {b : Buffer UInt8}
    {k off len n : ℕ}
    (hk : (writes useFixedMsduSize info)[k]? = some (off, leBytes len n))
    (h : ∀ w ∈ (writes useFixedMsduSize info).drop (k + 1), off + len ≤ w.1) :
    field (buildTspec useFixedMsduSize info b).1 off len = n % 2 ^ (8 * len) := by
  have hslice := Buffer.slice_writeAll b hk fun w hw => Or.inl (by
    rw [leBytes_length]
    exact h w hw)
  rw [leBytes_length] at hslice
  rw [field, buildTspec, hslice, leValue_leBytes]

theorem tsInfo_build (useFixedMsduSize : Bool) (info : TspecInfo) (b : Buffer UInt8) :
    (buildTspec useFixedMsduSize info b).1 8 = tsInfo0 info.userPriority info.streamDirection ∧
      (buildTspec useFixedMsduSize info b).1 9 = tsInfo1 info.upsdFlag info.userPriority := by
  have hts : (writes useFixedMsduSize info)[2]? =
      some (8, [tsInfo0 info.userPriority info.streamDirection,
        tsInfo1 info.upsdFlag info.userPriority, 0]) := rfl
  have hslice := Buffer.slice_writeAll b hts (by simp [writes])
  obtain ⟨h8, hslice⟩ := List.cons.inj hslice
  exact ⟨h8, (List.cons.inj hslice).1⟩

/-! ## What is read -/

theorem masked_shift (x : UInt8) {m s k : ℕ} (hs : s < 8) (hm : m < 2 ^ 8)
    (h : m >>> s = 2 ^ k - 1) :
    ((x &&& .ofNat m) >>> .ofNat s).toNat = x.toNat / 2 ^ s % 2 ^ k := by
  rw [UInt8.toNat_shiftRight, UInt8.toNat_and, UInt8.toNat_ofNat_of_lt' hm,
    UInt8.toNat_ofNat_of_lt' (hs.trans (by decide)), Nat.mod_eq_of_lt hs,
    Nat.shiftRight_and_distrib, h, Nat.and_two_pow_sub_one_eq_mod, Nat.shiftRight_eq_div_pow]

def tspecIe (pData : Buffer UInt8) : TspecIe where
  tsid := (pData 8).toNat / 2 ^ tsidShift
  direction := (pData 8).toNat / 2 ^ directionShift
  apsd := (pData 9).toNat / 2 ^ apsdShift
  userPriority := (pData 9).toNat / 2 ^ userPriorityShift
  nominalMsduSize := field pData 11 2
  minimumServiceInterval := field pData 15 4
  maximumServiceInterval := field pData 19 4
  meanDataRate := field pData 39 4
  minimumPhyRate := field pData 55 4
  surplusBwAllowance := field pData 59 2
  mediumTime := field pData 61 2

theorem field_lt (pData : Buffer UInt8) (off len : ℕ) : field pData off len < 2 ^ (8 * len) := by
  have h := leValue_lt (pData.slice off len)
  rwa [Buffer.length_slice] at h

section Bits

variable (x : UInt8)

theorem userPriority_bits : ((x &&& 0x38) >>> 3).toNat = x.toNat / 2 ^ userPriorityShift % 8 :=
  masked_shift x (m := 0x38) (s := 3) (k := 3) (by decide) (by decide) (by decide)

theorem apsd_bits : ((x &&& 0x04) >>> 2).toNat = x.toNat / 2 ^ apsdShift % 2 :=
  masked_shift x (m := 0x04) (s := 2) (k := 1) (by decide) (by decide) (by decide)

theorem direction_bits : ((x &&& 0x60) >>> 5).toNat = x.toNat / 2 ^ directionShift % 4 :=
  masked_shift x (m := 0x60) (s := 5) (k := 2) (by decide) (by decide) (by decide)

theorem tsid_bits : ((x &&& 0x1E) >>> 1).toNat = x.toNat / 2 ^ tsidShift % 16 :=
  masked_shift x (m := 0x1E) (s := 1) (k := 4) (by decide) (by decide) (by decide)

end Bits

theorem parseTspecIe_eq (info : TspecInfo) (pData : Buffer UInt8) (statusCode : ℕ) :
    parseTspecIe info pData =
      { QosMngr.parseTspecIe (tspecIe pData) statusCode with
        trafficAdmState := info.trafficAdmState
        statusCode := info.statusCode } := by
  have hmod (off len : ℕ) : field pData off len % 2 ^ (8 * len) = field pData off len :=
    Nat.mod_eq_of_lt (field_lt pData off len)
  simp only [parseTspecIe, QosMngr.parseTspecIe, tspecIe, userPriority_bits, apsd_bits,
    direction_bits, tsid_bits, hmod _ 2, hmod _ 4]

/-! ## The round trip -/

theorem tsInfo1_bits {upsdFlag userPriority : ℕ} (h : upsdFlag < 2) (hup : userPriority < 8) :
    (tsInfo1 upsdFlag userPriority).toNat / 2 ^ userPriorityShift % 8 = userPriority ∧
      (tsInfo1 upsdFlag userPriority).toNat / 2 ^ apsdShift % 2 = upsdFlag := by
  have hall : ∀ upsdFlag < 2, ∀ userPriority < 8,
      (tsInfo1 upsdFlag userPriority).toNat / 2 ^ userPriorityShift % 8 = userPriority ∧
        (tsInfo1 upsdFlag userPriority).toNat / 2 ^ apsdShift % 2 = upsdFlag := by decide
  exact hall upsdFlag h userPriority hup

theorem tsInfo0_bits {userPriority direction : ℕ} (hup : userPriority < 8) (h : direction < 4) :
    (tsInfo0 userPriority direction).toNat / 2 ^ tsidShift % 16 = userPriority ∧
      (tsInfo0 userPriority direction).toNat / 2 ^ directionShift % 4 = direction := by
  have hall : ∀ userPriority < 8, ∀ direction < 4,
      (tsInfo0 userPriority direction).toNat / 2 ^ tsidShift % 16 = userPriority ∧
        (tsInfo0 userPriority direction).toNat / 2 ^ directionShift % 4 = direction := by decide
  exact hall userPriority hup direction h

theorem withoutFixedMask_eq {n : ℕ} (h : n < 2 ^ 16) : withoutFixedMask n = n % 2 ^ 15 := by
  have hand : n &&& fixedNominalMsduSizeMask = (n.testBit 15).toNat * 2 ^ 15 := Nat.and_two_pow n 15
  rw [withoutFixedMask, hand, Nat.testBit_eq_decide_div_mod_eq]
  by_cases hbit : n / 2 ^ 15 % 2 = 1
  · rw [decide_eq_true hbit, Bool.toNat_true]
    omega
  · rw [decide_eq_false hbit, Bool.toNat_false]
    omega

theorem nominalMsduSize_build {info : TspecInfo} (useFixedMsduSize : Bool)
    (h : info.nominalMsduSize < 2 ^ 16) :
    withoutFixedMask (nominalMsduSize useFixedMsduSize info % 2 ^ (8 * 2)) =
      withoutFixedMask info.nominalMsduSize := by
  rw [withoutFixedMask_eq (Nat.mod_lt _ (by decide)), withoutFixedMask_eq h]
  unfold nominalMsduSize
  split
  · have hor : (info.nominalMsduSize ||| fixedNominalMsduSizeMask) % 2 ^ 15 =
        info.nominalMsduSize % 2 ^ 15 := by
      rw [Nat.or_mod_two_pow]
      exact Nat.or_zero _
    omega
  · omega

/-- What the parser makes of the built element. -/
structure Parsed (useFixedMsduSize : Bool) (info parsed : TspecInfo) : Prop where
  ac : parsed.ac = wmeQosTagToAcTable
    ((tsInfo1 info.upsdFlag info.userPriority).toNat / 2 ^ userPriorityShift % 8)
  userPriority : parsed.userPriority =
    (tsInfo1 info.upsdFlag info.userPriority).toNat / 2 ^ userPriorityShift % 8
  upsdFlag : parsed.upsdFlag =
    (tsInfo1 info.upsdFlag info.userPriority).toNat / 2 ^ apsdShift % 2
  tid : parsed.tid =
    (tsInfo0 info.userPriority info.streamDirection).toNat / 2 ^ tsidShift % 16
  streamDirection : parsed.streamDirection =
    (tsInfo0 info.userPriority info.streamDirection).toNat / 2 ^ directionShift % 4
  nominalMsduSize : parsed.nominalMsduSize =
    nominalMsduSize useFixedMsduSize info % 2 ^ (8 * 2)
  uMinimumServiceInterval : parsed.uMinimumServiceInterval =
    info.uMinimumServiceInterval % 2 ^ (8 * 4)
  uMaximumServiceInterval : parsed.uMaximumServiceInterval =
    info.uMaximumServiceInterval % 2 ^ (8 * 4)
  meanDataRate : parsed.meanDataRate = info.meanDataRate % 2 ^ (8 * 4)
  minimumPhyRate : parsed.minimumPhyRate = info.minimumPhyRate % 2 ^ (8 * 4)
  surplusBwAllowance : parsed.surplusBwAllowance =
    info.surplusBwAllowance % 2 ^ (8 * 2) / 2 ^ surplusBandwidthAllow

theorem parsed_build (useFixedMsduSize : Bool) (info old : TspecInfo) (b : Buffer UInt8) :
    Parsed useFixedMsduSize info
      (parseTspecIe old (buildTspec useFixedMsduSize info b).1) := by
  obtain ⟨h8, h9⟩ := tsInfo_build useFixedMsduSize info b
  constructor <;> simp only [parseTspecIe, h8, h9, userPriority_bits, apsd_bits, direction_bits,
    tsid_bits]
  · exact field_build (k := 3) rfl (by simp [writes])
  · exact field_build (k := 5) rfl (by simp [writes])
  · exact field_build (k := 6) rfl (by simp [writes])
  · exact field_build (k := 9) rfl (by simp [writes])
  · exact field_build (k := 11) rfl (by simp [writes])
  · exact congrArg (· / _) (field_build (k := 12) rfl (by simp [writes]))

theorem surplus_iff (n : ℕ) : n % 2 ^ (8 * 2) / 2 ^ surplusBandwidthAllow = n ↔ n = 0 := by
  have hlt : n % 2 ^ (8 * 2) / 2 ^ surplusBandwidthAllow < 8 :=
    Nat.div_lt_of_lt_mul (Nat.mod_lt n (by decide))
  constructor
  · intro h
    rw [h] at hlt
    have hsmall : n % 2 ^ (8 * 2) < 2 ^ surplusBandwidthAllow :=
      (Nat.mod_le n _).trans_lt (hlt.trans (by decide))
    exact h.symm.trans (Nat.div_eq_of_lt hsmall)
  · rintro rfl
    rfl

/-- **The parser gives back what the builder was given exactly if it fits the element and the
surplus bandwidth allowance is `0`.** -/
theorem tspec_roundTrip_iff (useFixedMsduSize : Bool) (info old : TspecInfo) (b : Buffer UInt8) :
    Same info (parseTspecIe old (buildTspec useFixedMsduSize info b).1) ∧
        Written (fun b => (buildTspec useFixedMsduSize info b).1)
          (buildTspec useFixedMsduSize info b).2 ↔
      FitsElement info ∧ info.surplusBwAllowance = 0 := by
  have hparsed := parsed_build useFixedMsduSize info old b
  generalize parseTspecIe old (buildTspec useFixedMsduSize info b).1 = parsed at hparsed ⊢
  constructor
  · rintro ⟨h, -⟩
    have hup : info.userPriority < 8 := by
      rw [← h.userPriority, hparsed.userPriority]
      exact Nat.mod_lt _ (by decide)
    have hups : info.upsdFlag < 2 := by
      rw [← h.upsdFlag, hparsed.upsdFlag]
      exact Nat.mod_lt _ (by decide)
    have hdir : info.streamDirection < 4 := by
      rw [← h.streamDirection, hparsed.streamDirection]
      exact Nat.mod_lt _ (by decide)
    have hcut {n m k : ℕ} (hm : m = n % 2 ^ k) (hn : m = n) : n < 2 ^ k :=
      hn ▸ hm ▸ Nat.mod_lt _ (Nat.two_pow_pos k)
    refine ⟨⟨hup, ?_, ?_, hdir, hups, ?_, hcut hparsed.uMinimumServiceInterval
      h.uMinimumServiceInterval, hcut hparsed.uMaximumServiceInterval h.uMaximumServiceInterval,
      hcut hparsed.meanDataRate h.meanDataRate, hcut hparsed.minimumPhyRate h.minimumPhyRate⟩,
      (surplus_iff _).mp (hparsed.surplusBwAllowance.symm.trans h.surplusBwAllowance)⟩
    · rw [← h.tid, hparsed.tid, (tsInfo0_bits hup hdir).1]
    · rw [← h.ac, hparsed.ac, (tsInfo1_bits hups hup).1]
    · have hlt : parsed.nominalMsduSize < 2 ^ 16 := by
        rw [hparsed.nominalMsduSize]
        exact Nat.mod_lt _ (by decide)
      have hsame := h.nominalMsduSize
      rw [withoutFixedMask_eq hlt] at hsame
      have hle : info.nominalMsduSize &&& fixedNominalMsduSizeMask ≤ fixedNominalMsduSizeMask :=
        Nat.and_le_right
      unfold withoutFixedMask fixedNominalMsduSizeMask at *
      omega
  · rintro ⟨h, hsurplus⟩
    refine ⟨⟨?_, ?_, ?_, ?_, ?_, ?_, ?_, ?_, ?_, ?_, ?_⟩, build_written useFixedMsduSize info⟩
    · rw [hparsed.ac, (tsInfo1_bits h.upsdFlag h.userPriority).1, h.ac]
    · rw [hparsed.userPriority, (tsInfo1_bits h.upsdFlag h.userPriority).1]
    · rw [hparsed.tid, (tsInfo0_bits h.userPriority h.streamDirection).1, h.tid]
    · rw [hparsed.streamDirection, (tsInfo0_bits h.userPriority h.streamDirection).2]
    · rw [hparsed.upsdFlag, (tsInfo1_bits h.upsdFlag h.userPriority).2]
    · rw [hparsed.nominalMsduSize, nominalMsduSize_build useFixedMsduSize h.nominalMsduSize]
    · exact hparsed.uMinimumServiceInterval.trans (Nat.mod_eq_of_lt h.uMinimumServiceInterval)
    · exact hparsed.uMaximumServiceInterval.trans (Nat.mod_eq_of_lt h.uMaximumServiceInterval)
    · exact hparsed.meanDataRate.trans (Nat.mod_eq_of_lt h.meanDataRate)
    · exact hparsed.minimumPhyRate.trans (Nat.mod_eq_of_lt h.minimumPhyRate)
    · rw [hparsed.surplusBwAllowance, (surplus_iff _).mpr hsurplus]

section Samples

/-- A voice stream in both directions. -/
def voiceTspec (surplusBwAllowance : ℕ) : TspecInfo where
  ac := .vo
  tid := 6
  userPriority := 6
  nominalMsduSize := 208
  meanDataRate := 83200
  surplusBwAllowance := surplusBwAllowance
  minimumPhyRate := 6000000
  mediumTime := 0
  upsdFlag := 1
  uMinimumServiceInterval := 20000
  uMaximumServiceInterval := 20000
  streamDirection := biDirectional
  trafficAdmState := .notAdmitted
  statusCode := 0

/-- A surplus of one in the format of the element comes back as `1`, and a `1` as `0`. -/
theorem surplus_not_shifted :
    FitsElement (voiceTspec 1) ∧ FitsElement (voiceTspec 0x2000) ∧
      ∀ old b, ¬ Same (voiceTspec 1) (parseTspecIe old (buildTspec true (voiceTspec 1) b).1) ∧
        ¬ Same (voiceTspec 0x2000)
          (parseTspecIe old (buildTspec true (voiceTspec 0x2000) b).1) := by
  refine ⟨by constructor <;> decide, by constructor <;> decide, fun old b =>
    ⟨fun h => ?_, fun h => ?_⟩⟩
  · exact absurd ((parsed_build true _ old b).surplusBwAllowance.symm.trans h.surplusBwAllowance)
      (by decide)
  · exact absurd ((parsed_build true _ old b).surplusBwAllowance.symm.trans h.surplusBwAllowance)
      (by decide)

end Samples

end ArchosGpl.Wlan.TrafficAdmCtrl
