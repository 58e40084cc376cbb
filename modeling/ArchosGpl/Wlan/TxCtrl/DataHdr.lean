import ArchosGpl.Lib.Buffer

/-!
# The header of a data packet (`txCtrl_BuildDataPktHdr`, `stad/src/Data_link/txCtrl.c`)

The function replaces the Ethernet header of a packet by an 802.11 header and, for an Ethernet
type, an LLC/SNAP header, in `aPktHdr` behind an alignment pad. The bytes that it does not write
keep what the array held. On the air the pad is left out (`onAir`). **`onAir_eq`**: what is sent is
the header, the LLC/SNAP header of the packet and the payload.

Of the frame control field and the two counters the values are naturals that stay below their
sizes; the host is little-endian.
-/

namespace ArchosGpl.Wlan.TxCtrl.DataHdr

open Lib

/-! ## The data -/

abbrev TMacAddr : Type := Fin 6 → UInt8

def macBytes (a : TMacAddr) : List UInt8 := List.ofFn a

@[simp] theorem length_macBytes (a : TMacAddr) : (macBytes a).length = 6 := List.length_ofFn

/-- `TEthernetHeader`. The type is in network order. -/
structure TEthernetHeader where
  dst : TMacAddr
  src : TMacAddr
  typeHigh : UInt8
  typeLow : UInt8

/-- `HTOWLANS` of the type field. -/
def TEthernetHeader.typeLength (e : TEthernetHeader) : ℕ := 256 * e.typeHigh.toNat + e.typeLow.toNat

def TEthernetHeader.typeBytes (e : TEthernetHeader) : List UInt8 := [e.typeHigh, e.typeLow]

def TEthernetHeader.bytes (e : TEthernetHeader) : List UInt8 :=
  macBytes e.dst ++ macBytes e.src ++ e.typeBytes

inductive EHeaderConvertMode
  | none
  | qos
  | legacy
  deriving DecidableEq

/-- `ScanBssType_e`. -/
inductive ScanBssType
  | independent
  | infrastructure
  | any
  deriving DecidableEq

/-- `AckPolicy_e`. -/
inductive AckPolicy
  | legacy
  | noAck
  | block
  deriving DecidableEq

/-- The fields of `txCtrl_t`, and whether `txMgmtQ_GetConnState` is `TX_CONN_STATE_OPEN`. -/
structure TxCtrlT where
  headerConverMode : EHeaderConvertMode
  currentPrivacyInvokedMode : Bool
  eapolEncryptionStatus : Bool
  connStateOpen : Bool
  encryptionFieldSize : UInt8
  bHtEnable : Bool
  currBssType : ScanBssType
  currBssId : TMacAddr

/-- The fields of `TTxCtrlBlk`. -/
structure TTxCtrlBlk where
  aPktHdr : Buffer UInt8
  eapol : Bool
  uFlags : UInt32
  tid : UInt8
  length : UInt16
  aLen0 : UInt16

/-! ## The constants -/

abbrev ethernetHdrLen : ℕ := 14

abbrev wlanHdrLen : ℕ := 24

abbrev wlanQosHdrLen : ℕ := 26

abbrev wlanQosHtControlFieldLen : ℕ := 4

abbrev headerPadSize : ℕ := 2

/-- `sizeof(Wlan_LlcHeader_T)`. -/
abbrev wlanLlcHeaderSize : ℕ := 8

/-- `sizeof(TxIfDescriptor_t)`. -/
abbrev txIfDescriptorSize : ℕ := 16

abbrev ethernetMaxPayloadSize : ℕ := 1500

abbrev ethertypeAppleAarp : ℕ := 0x80f3

abbrev ethertypeDixIiIpx : ℕ := 0x8137

abbrev snapChannelId : UInt8 := 0xAA

abbrev llcControlUnnumberedInformation : UInt8 := 0x03

/-- `SNAP_OUI_802_1H_BYTES`. -/
abbrev snapOui8021H : List UInt8 := [0x00, 0x00, 0xf8]

/-- `SNAP_OUI_RFC1042_BYTES`. -/
abbrev snapOuiRfc1042 : List UInt8 := [0x00, 0x00, 0x00]

/-! ## The function -/

def TxCtrlT.encrypts (c : TxCtrlT) (eapol : Bool) : Bool :=
  (!eapol && c.currentPrivacyInvokedMode) || (eapol && c.eapolEncryptionStatus && c.connStateOpen)

def TxCtrlT.hdrAlignPad (c : TxCtrlT) (eapol : Bool) : ℕ :=
  let pad := if c.encrypts eapol then c.encryptionFieldSize.toNat % 4 else 0
  if c.headerConverMode = .qos then (pad + headerPadSize) % 4 else pad

/-- `uHdrLen` where the LLC/SNAP header begins, with the pad. -/
def TxCtrlT.hdrLen (c : TxCtrlT) (eapol : Bool) : ℕ :=
  (if c.encrypts eapol then c.encryptionFieldSize.toNat else 0) +
    (if c.headerConverMode = .qos then
      wlanQosHdrLen + if c.bHtEnable then wlanQosHtControlFieldLen else 0
    else wlanHdrLen) +
    c.hdrAlignPad eapol

def TxCtrlT.fc (c : TxCtrlT) (eapol : Bool) : ℕ :=
  (if c.encrypts eapol then 0x4000 else 0) |||
    (if c.headerConverMode = .qos ∧ c.bHtEnable then 0x8000 else 0) |||
    (if c.headerConverMode = .qos then 0x88 else 0x08) |||
    (if c.currBssType = .independent then 0 else 0x100)

def wlanWord (n : ℕ) : List UInt8 := [UInt8.ofNat n, UInt8.ofNat (n / 256)]

def qosControl (tid : UInt8) (eAckPolicy : AckPolicy) : ℕ :=
  tid.toNat ||| if eAckPolicy = .noAck then 0x20 else 0

def TxCtrlT.addresses (c : TxCtrlT) (e : TEthernetHeader) : TMacAddr × TMacAddr × TMacAddr :=
  if c.currBssType = .independent then (e.dst, e.src, c.currBssId) else (c.currBssId, e.src, e.dst)

/-- The LLC/SNAP header, for an Ethernet type. A length is left to the LLC header in the payload. -/
def snapHeader (e : TEthernetHeader) : List UInt8 :=
  if ethernetMaxPayloadSize < e.typeLength then
    [snapChannelId, snapChannelId, llcControlUnnumberedInformation] ++
      (if e.typeLength = ethertypeAppleAarp ∨ e.typeLength = ethertypeDixIiIpx then snapOui8021H
        else snapOuiRfc1042) ++ e.typeBytes
  else []

/-- What is written into `aPktHdr`, in the order of the code. -/
def TxCtrlT.writes (c : TxCtrlT) (p : TTxCtrlBlk) (e : TEthernetHeader) (eAckPolicy : AckPolicy) :
    List (ℕ × List UInt8) :=
  let pad := c.hdrAlignPad p.eapol
  let (address1, address2, address3) := c.addresses e
  (if c.headerConverMode = .qos then [(pad + 24, wlanWord (qosControl p.tid eAckPolicy))]
    else []) ++
    [(pad + 4, macBytes address1), (pad + 10, macBytes address2), (pad + 16, macBytes address3),
      (pad, wlanWord (c.fc p.eapol)), (c.hdrLen p.eapol, snapHeader e)]

def groupFlags (dst : TMacAddr) (uFlags : UInt32) : UInt32 :=
  if dst 0 &&& 1 ≠ 0 then
    if ∀ i, dst i = 0xff then uFlags ||| 0x0020 ||| 0x0040 else uFlags ||| 0x0020
  else uFlags

/-- `txCtrl_BuildDataPktHdr`: the block, and the pad. -/
def TxCtrlT.buildDataPktHdr (c : TxCtrlT) (p : TTxCtrlBlk) (e : TEthernetHeader)
    (eAckPolicy : AckPolicy) : TTxCtrlBlk × ℕ :=
  let uHdrLen := c.hdrLen p.eapol + (snapHeader e).length
  let aLen0 := txIfDescriptorSize + uHdrLen
  ({ p with
      aPktHdr := p.aPktHdr.writeAll (c.writes p e eAckPolicy)
      uFlags := groupFlags e.dst p.uFlags
      aLen0 := UInt16.ofNat aLen0
      length := p.length + UInt16.ofNat (aLen0 - ethernetHdrLen) },
    c.hdrAlignPad p.eapol)

/-- The frame that is sent: the header behind its pad, and the payload in the other buffers. -/
def TxCtrlT.onAir (c : TxCtrlT) (p : TTxCtrlBlk) (e : TEthernetHeader) (eAckPolicy : AckPolicy)
    (payload : List UInt8) : List UInt8 :=
  let (p', pad) := c.buildDataPktHdr p e eAckPolicy
  p'.aPktHdr.slice pad (p'.aLen0.toNat - txIfDescriptorSize - pad) ++ payload

/-! ## What is sent -/

variable {c : TxCtrlT} {p : TTxCtrlBlk} {e : TEthernetHeader} {eAckPolicy : AckPolicy}
  {payload : List UInt8}

def TxCtrlT.macHdrLen (c : TxCtrlT) : ℕ :=
  if c.headerConverMode = .qos then
    wlanQosHdrLen + if c.bHtEnable then wlanQosHtControlFieldLen else 0
  else wlanHdrLen

def TxCtrlT.hdrBuffer (c : TxCtrlT) (p : TTxCtrlBlk) (e : TEthernetHeader)
    (eAckPolicy : AckPolicy) : Buffer UInt8 :=
  p.aPktHdr.writeAll (c.writes p e eAckPolicy)

@[simp] theorem length_wlanWord (n : ℕ) : (wlanWord n).length = 2 := rfl

theorem length_snapHeader_le (e : TEthernetHeader) : (snapHeader e).length ≤ 8 := by
  unfold snapHeader
  split
  · split <;> exact Nat.le_refl 8
  · exact Nat.zero_le 8

theorem length_snapHeader (h : ethernetMaxPayloadSize < e.typeLength) :
    (snapHeader e).length = 8 := by
  rw [snapHeader, if_pos h]
  split <;> rfl

theorem macHdrLen_ge (c : TxCtrlT) : 24 ≤ c.macHdrLen := by
  unfold TxCtrlT.macHdrLen
  split
  · exact Nat.le_trans (by decide) (Nat.le_add_right _ _)
  · exact Nat.le_refl _

theorem macHdrLen_le (c : TxCtrlT) : c.macHdrLen ≤ 30 := by
  unfold TxCtrlT.macHdrLen
  split
  · split <;> decide
  · decide

/-! ### The array -/

theorem writes_eq (c : TxCtrlT) (p : TTxCtrlBlk) (e : TEthernetHeader) (eAckPolicy : AckPolicy) :
    ∃ pre, c.writes p e eAckPolicy = pre ++
      [(c.hdrAlignPad p.eapol + 4, macBytes (c.addresses e).1),
        (c.hdrAlignPad p.eapol + 10, macBytes (c.addresses e).2.1),
        (c.hdrAlignPad p.eapol + 16, macBytes (c.addresses e).2.2),
        (c.hdrAlignPad p.eapol, wlanWord (c.fc p.eapol)), (c.hdrLen p.eapol, snapHeader e)] :=
  ⟨_, rfl⟩

theorem hdrLen_ge (c : TxCtrlT) (eapol : Bool) : c.hdrAlignPad eapol + 24 ≤ c.hdrLen eapol := by
  have hmac := macHdrLen_ge c
  have hlen : c.hdrLen eapol = (if c.encrypts eapol then c.encryptionFieldSize.toNat else 0) +
      c.macHdrLen + c.hdrAlignPad eapol := rfl
  omega

theorem hdrBuffer_read {pre ws : List (ℕ × List UInt8)} {off k : ℕ} {l : List UInt8}
    (hws : c.writes p e eAckPolicy = pre ++ ws) (hk : ws[k]? = some (off, l))
    (h : ∀ w ∈ ws.drop (k + 1), off + l.length ≤ w.1 ∨ w.1 + w.2.length ≤ off) :
    (c.hdrBuffer p e eAckPolicy).slice off l.length = l := by
  rw [TxCtrlT.hdrBuffer, hws, Buffer.writeAll, List.foldl_append]
  exact Buffer.slice_writeAll _ hk h

theorem hdrBuffer_address2 : (c.hdrBuffer p e eAckPolicy).slice (c.hdrAlignPad p.eapol + 10) 6 =
    macBytes (c.addresses e).2.1 := by
  obtain ⟨pre, hws⟩ := writes_eq c p e eAckPolicy
  have hge := hdrLen_ge c p.eapol
  refine hdrBuffer_read (k := 1) hws rfl fun w hw => ?_
  simp only [List.drop_succ_cons, List.drop_zero, List.mem_cons, List.not_mem_nil, or_false] at hw
  rcases hw with rfl | rfl | rfl <;> simp only [length_macBytes, length_wlanWord] <;> omega

theorem hdrBuffer_address3 : (c.hdrBuffer p e eAckPolicy).slice (c.hdrAlignPad p.eapol + 16) 6 =
    macBytes (c.addresses e).2.2 := by
  obtain ⟨pre, hws⟩ := writes_eq c p e eAckPolicy
  have hge := hdrLen_ge c p.eapol
  refine hdrBuffer_read (k := 2) hws rfl fun w hw => ?_
  simp only [List.drop_succ_cons, List.drop_zero, List.mem_cons, List.not_mem_nil, or_false] at hw
  rcases hw with rfl | rfl <;> simp only [length_macBytes, length_wlanWord] <;> omega

theorem hdrBuffer_fc : (c.hdrBuffer p e eAckPolicy).slice (c.hdrAlignPad p.eapol) 2 =
    wlanWord (c.fc p.eapol) := by
  obtain ⟨pre, hws⟩ := writes_eq c p e eAckPolicy
  have hge := hdrLen_ge c p.eapol
  refine hdrBuffer_read (k := 3) hws rfl fun w hw => ?_
  simp only [List.drop_succ_cons, List.drop_zero, List.mem_cons, List.not_mem_nil, or_false] at hw
  obtain rfl := hw
  exact Or.inl (by dsimp only [length_wlanWord]; omega)

theorem hdrBuffer_snap : (c.hdrBuffer p e eAckPolicy).slice (c.hdrLen p.eapol)
    (snapHeader e).length = snapHeader e := by
  obtain ⟨pre, hws⟩ := writes_eq c p e eAckPolicy
  exact hdrBuffer_read (k := 4) hws rfl nofun

/-! ### The frame -/

section Plain

variable (hplain : c.encrypts p.eapol = false)

include hplain

theorem hdrAlignPad_plain :
    c.hdrAlignPad p.eapol = if c.headerConverMode = .qos then headerPadSize else 0 := by
  rw [TxCtrlT.hdrAlignPad, hplain]
  rfl

theorem hdrLen_plain : c.hdrLen p.eapol = c.hdrAlignPad p.eapol + c.macHdrLen := by
  rw [TxCtrlT.hdrLen, hplain, if_neg Bool.false_ne_true, Nat.zero_add, Nat.add_comm]
  rfl

/-- **What is sent** without encryption: the 802.11 header, the LLC/SNAP header and the payload. -/
theorem onAir_eq : c.onAir p e eAckPolicy payload =
    (c.hdrBuffer p e eAckPolicy).slice (c.hdrAlignPad p.eapol)
      (c.macHdrLen + (snapHeader e).length) ++ payload := by
  have hpad : c.hdrAlignPad p.eapol ≤ 2 := by
    rw [hdrAlignPad_plain hplain]
    split <;> decide
  have hsnap := length_snapHeader_le e
  have hmac := macHdrLen_le c
  have hlen := hdrLen_plain hplain
  rw [TxCtrlT.onAir, TxCtrlT.buildDataPktHdr]
  dsimp only
  rw [UInt16.toNat_ofNat', Nat.mod_eq_of_lt (by unfold txIfDescriptorSize; omega), hlen]
  congr 2
  unfold txIfDescriptorSize
  omega

theorem length_onAir : (c.onAir p e eAckPolicy payload).length =
    c.macHdrLen + (snapHeader e).length + payload.length := by
  rw [onAir_eq hplain, List.length_append, Buffer.length_slice]

theorem onAir_part {k n : ℕ} (h : k + n ≤ c.macHdrLen) :
    ((c.onAir p e eAckPolicy payload).drop k).take n =
      (c.hdrBuffer p e eAckPolicy).slice (c.hdrAlignPad p.eapol + k) n := by
  rw [onAir_eq hplain, List.drop_append_of_le_length (by rw [Buffer.length_slice]; omega),
    Buffer.drop_slice _ _ (by omega), List.take_append_of_le_length
      (by rw [Buffer.length_slice]; omega), Buffer.take_slice _ _ (by omega)]

theorem onAir_body :
    (c.onAir p e eAckPolicy payload).drop c.macHdrLen = snapHeader e ++ payload := by
  rw [onAir_eq hplain, List.drop_append_of_le_length (by rw [Buffer.length_slice]; omega),
    Buffer.drop_slice _ _ (Nat.le_add_right _ _), Nat.add_sub_cancel_left, ← hdrLen_plain hplain]
  exact congrArg (· ++ payload) hdrBuffer_snap

theorem onAir_source : ((c.onAir p e eAckPolicy payload).drop 10).take 6 =
    macBytes (c.addresses e).2.1 := by
  have hmac := macHdrLen_ge c
  rw [onAir_part hplain (by omega), hdrBuffer_address2]

theorem onAir_destination : ((c.onAir p e eAckPolicy payload).drop 16).take 6 =
    macBytes (c.addresses e).2.2 := by
  have hmac := macHdrLen_ge c
  rw [onAir_part hplain (by omega), hdrBuffer_address3]

theorem onAir_fc : (c.onAir p e eAckPolicy payload).take 2 = wlanWord (c.fc p.eapol) := by
  have hmac := macHdrLen_ge c
  have h : ((c.onAir p e eAckPolicy payload).drop 0).take 2 = _ := onAir_part hplain (by omega)
  rw [List.drop_zero, Nat.add_zero] at h
  rw [h, hdrBuffer_fc]

theorem fc_plain (hbss : c.currBssType ≠ .independent) : c.fc p.eapol =
    if c.headerConverMode = .qos then if c.bHtEnable then 0x8188 else 0x188 else 0x108 := by
  rw [TxCtrlT.fc, hplain, if_neg hbss]
  by_cases hqos : c.headerConverMode = .qos
  · cases hht : c.bHtEnable <;> simp [hqos]
  · simp [hqos]

end Plain

end ArchosGpl.Wlan.TxCtrl.DataHdr
