import ArchosGpl.Wlan.RxData.Model
import ArchosGpl.Wlan.TxCtrl.DataHdr

/-!
# The header of a data packet, there and back (`stad/src/Data_link/txCtrl.c`, `rx.c`)

`rxData_convertWlanToEthHeader` puts an Ethernet header in place of the 802.11 header of a received
frame. The two words in which it leaves the place and the length of the packet lie in front of the
packet and are fields here.

`Relays` says how an access point passes on a frame that a station sent: with From-DS set, the
destination in address 1 and the source in address 3, the kind of header kept, and everything
behind the header unchanged; the other fields of the header are its own. **`header_round_trip`**: a
frame of an Ethernet type that is sent without encryption and relayed comes back as it was.
-/

namespace ArchosGpl.Wlan.RxData

open Lib
open TxCtrl.DataHdr (TEthernetHeader TxCtrlT TTxCtrlBlk AckPolicy snapHeader wlanWord macBytes
  snapChannelId llcControlUnnumberedInformation snapOui8021H snapOuiRfc1042 ethertypeAppleAarp
  ethertypeDixIiIpx ethernetMaxPayloadSize)

/-! ## The function -/

/-- The LLC/SNAP header at an offset is one that is stripped: the 802.1H encapsulation, or that of
RFC 1042 with a type that is not in the translation table. -/
def createEtherIIHeader (data : Buffer UInt8) (o : ℕ) : Bool :=
  data.slice o 3 = [snapChannelId, snapChannelId, llcControlUnnumberedInformation] ∧
    (data.slice (o + 3) 3 = snapOui8021H ∨
      data.slice (o + 3) 3 = snapOuiRfc1042 ∧ wlanToHs data (o + 6) ≠ ethertypeAppleAarp ∧
        wlanToHs data (o + 6) ≠ ethertypeDixIiIpx)

/-- `rxData_convertWlanToEthHeader`: the packet, and `etherType`. -/
def convertWlanToEthHeader (b : RxBuf) : EthPkt × ℕ :=
  let h := b.headerLength
  let dst := b.data.slice 4 6
  let src := if b.fc &&& 0x200 ≠ 0 then b.data.slice 16 6 else b.data.slice 10 6
  let etherII := createEtherIIHeader b.data h
  let lengthDelta := if etherII then h + wlanSnapHdrLen - ethernetHdrLen else h - ethernetHdrLen
  let len := sub32 b.rxBufLen h % 2 ^ 16
  let type :=
    if etherII then b.data.slice (h + 6) 2 else [UInt8.ofNat (len / 256), UInt8.ofNat len]
  ({ length := b.length.toNat
     extraBytes := b.extraBytes.toNat
     driverFlags := b.driverFlags
     data := b.data.copyTo lengthDelta (dst ++ src ++ type)
     ethPktData := lengthDelta
     ethPktLen := sub32 b.rxBufLen lengthDelta },
    wlanToHs b.data (h + 6))

/-! ## The access point -/

/-- The length of an 802.11 header with a frame control field, as `GET_MAX_HEADER_SIZE` has it. -/
def headerLengthOf (fc : ℕ) : ℕ :=
  if fc &&& 0xfc = 0x88 ∨ fc &&& 0xfc = 0xc8 then if fc &&& 0x8000 ≠ 0 then 30 else 26
  else if fc &&& 0x8000 ≠ 0 then 28 else 24

def frameControl (f : List UInt8) : ℕ := (f.getD 0 0).toNat + 256 * (f.getD 1 0).toNat

/-- A received buffer holds a frame as an access point relays it. -/
structure Relays (f : List UInt8) (b : RxBuf) : Prop where
  length : b.rxBufLen = f.length
  kind : b.fc &&& 0x80fc = frameControl f &&& 0x80fc
  fromDs : b.fc &&& 0x200 ≠ 0
  address1 : b.data.slice 4 6 = (f.drop 16).take 6
  address3 : b.data.slice 16 6 = (f.drop 10).take 6
  body : b.data.slice (headerLengthOf (frameControl f))
    (f.length - headerLengthOf (frameControl f)) = f.drop (headerLengthOf (frameControl f))

/-! ## Header lengths -/

variable {f : List UInt8} {b : RxBuf} {c : TxCtrlT} {p : TTxCtrlBlk} {e : TEthernetHeader}
  {eAckPolicy : AckPolicy} {payload : List UInt8}

theorem headerLength_eq (b : RxBuf) : b.headerLength = headerLengthOf b.fc := by
  unfold RxBuf.headerLength RxBuf.isQosFrame RxBuf.isHtFrame headerLengthOf
  simp only [Bool.or_eq_true, decide_eq_true_eq]

theorem headerLengthOf_congr {x y : ℕ} (h : x &&& 0x80fc = y &&& 0x80fc) :
    headerLengthOf x = headerLengthOf y := by
  have hmask : ∀ z, z &&& 0xfc = z &&& 0x80fc &&& 0xfc ∧ z &&& 0x8000 = z &&& 0x80fc &&& 0x8000 :=
    fun z => ⟨by rw [Nat.and_assoc]; rfl, by rw [Nat.and_assoc]; rfl⟩
  unfold headerLengthOf
  rw [(hmask x).1, (hmask x).2, h, ← (hmask y).1, ← (hmask y).2]

theorem frameControl_of_take {n : ℕ} (h : f.take 2 = wlanWord n) (hn : n < 2 ^ 16) :
    frameControl f = n := by
  obtain ⟨x, y, rest, rfl⟩ : ∃ x y rest, f = x :: y :: rest := by
    match f, h with
    | x :: y :: rest, _ => exact ⟨x, y, rest, rfl⟩
  obtain ⟨rfl, h'⟩ := List.cons.inj h
  obtain ⟨rfl, -⟩ := List.cons.inj h'
  change (UInt8.ofNat n).toNat + 256 * (UInt8.ofNat (n / 256)).toNat = n
  rw [UInt8.toNat_ofNat', UInt8.toNat_ofNat']
  omega

theorem headerLengthOf_onAir (hplain : c.encrypts p.eapol = false)
    (hbss : c.currBssType ≠ .independent) :
    headerLengthOf (frameControl (c.onAir p e eAckPolicy payload)) = c.macHdrLen := by
  have hfc := TxCtrl.DataHdr.fc_plain hplain hbss
  rw [frameControl_of_take (TxCtrl.DataHdr.onAir_fc hplain) ?_, hfc, TxCtrlT.macHdrLen]
  · by_cases hqos : c.headerConverMode = .qos
    · rw [if_pos hqos, if_pos hqos]
      split <;> rfl
    · rw [if_neg hqos, if_neg hqos]
      rfl
  · rw [hfc]
    split
    · split <;> decide
    · decide

/-! ## The LLC/SNAP header -/

theorem slice_two (data : Buffer UInt8) (o : ℕ) : data.slice o 2 = [data o, data (o + 1)] := rfl

theorem createEtherIIHeader_of_snap {data : Buffer UInt8} {o : ℕ}
    (htype : ethernetMaxPayloadSize < e.typeLength) (h : data.slice o 8 = snapHeader e) :
    createEtherIIHeader data o = true ∧ data.slice (o + 6) 2 = e.typeBytes ∧
      wlanToHs data (o + 6) = e.typeLength := by
  have hparts : data.slice o 8 =
      data.slice o 3 ++ data.slice (o + 3) 3 ++ data.slice (o + 6) 2 := by
    rw [show 8 = 3 + 3 + 2 from rfl, Buffer.slice_add, Buffer.slice_add]
  rw [snapHeader, if_pos htype, hparts] at h
  obtain ⟨hfront, htypeBytes⟩ := List.append_inj' h rfl
  obtain ⟨hllc, houi⟩ := List.append_inj hfront (Buffer.length_slice ..)
  have hhs : wlanToHs data (o + 6) = e.typeLength := by
    obtain ⟨hhigh, hlow⟩ := List.cons.inj ((slice_two data (o + 6)).symm.trans htypeBytes)
    rw [wlanToHs, hhigh, (List.cons.inj hlow).1]
    rfl
  refine ⟨?_, htypeBytes, hhs⟩
  rw [createEtherIIHeader, hllc, houi, hhs, decide_eq_true_iff]
  refine ⟨rfl, ?_⟩
  by_cases htable : e.typeLength = ethertypeAppleAarp ∨ e.typeLength = ethertypeDixIiIpx
  · exact Or.inl (if_pos htable)
  · exact Or.inr ⟨if_neg htable, fun h => htable (Or.inl h), fun h => htable (Or.inr h)⟩

/-! ## The round trip -/

/-- **There and back**: a frame of an Ethernet type is sent without encryption to an access point,
which relays it; the receiver makes the frame of it, and the type. -/
theorem header_round_trip (c : TxCtrlT) (p : TTxCtrlBlk) (e : TEthernetHeader)
    (eAckPolicy : AckPolicy) (payload : List UInt8) (b : RxBuf)
    (htype : ethernetMaxPayloadSize < e.typeLength) (hplain : c.encrypts p.eapol = false)
    (hbss : c.currBssType ≠ .independent) (hrelay : Relays (c.onAir p e eAckPolicy payload) b) :
    (convertWlanToEthHeader b).1.bytes = e.bytes ++ payload ∧
      (convertWlanToEthHeader b).2 = e.typeLength := by
  have hmac : 24 ≤ c.macHdrLen := TxCtrl.DataHdr.macHdrLen_ge c
  have hlen : b.rxBufLen = c.macHdrLen + 8 + payload.length := by
    rw [hrelay.length, TxCtrl.DataHdr.length_onAir hplain, TxCtrl.DataHdr.length_snapHeader htype]
  have hheader : b.headerLength = c.macHdrLen := by
    rw [headerLength_eq, headerLengthOf_congr hrelay.kind, headerLengthOf_onAir hplain hbss]
  have hbody : b.data.slice c.macHdrLen 8 ++ b.data.slice (c.macHdrLen + 8) payload.length =
      snapHeader e ++ payload := by
    have h := hrelay.body
    rw [headerLengthOf_onAir hplain hbss, TxCtrl.DataHdr.onAir_body hplain, ← hrelay.length, hlen,
      Nat.add_assoc, Nat.add_sub_cancel_left, Buffer.slice_add] at h
    exact h
  obtain ⟨hsnap, hpayload⟩ := List.append_inj' hbody (Buffer.length_slice ..)
  obtain ⟨hetherII, htypeBytes, hhs⟩ := createEtherIIHeader_of_snap htype hsnap
  have haddresses : c.addresses e = (c.currBssId, e.src, e.dst) := if_neg hbss
  have hdst : b.data.slice 4 6 = macBytes e.dst := by
    rw [hrelay.address1, TxCtrl.DataHdr.onAir_destination hplain, haddresses]
  have hsrc : b.data.slice 16 6 = macBytes e.src := by
    rw [hrelay.address3, TxCtrl.DataHdr.onAir_source hplain, haddresses]
  have hdelta : c.macHdrLen + wlanSnapHdrLen - ethernetHdrLen = c.macHdrLen - 6 := by
    unfold wlanSnapHdrLen ethernetHdrLen
    omega
  have hrest : sub32 b.rxBufLen (c.macHdrLen - 6) = 14 + payload.length := by
    have hword : b.rxBufLen < 2 ^ 32 := sub32_lt
    rw [sub32_of_le (by omega) hword]
    omega
  have hlength : e.bytes.length = 14 := rfl
  have hbehind : c.macHdrLen - 6 + e.bytes.length = c.macHdrLen + 8 := by omega
  refine ⟨?_, by rw [convertWlanToEthHeader, hheader]; exact hhs⟩
  rw [convertWlanToEthHeader, EthPkt.bytes]
  dsimp only
  rw [hheader, if_pos hetherII, if_pos hetherII, if_pos hrelay.fromDs, hdst, hsrc, htypeBytes,
    hdelta, hrest, Buffer.slice_add]
  change (b.data.copyTo (c.macHdrLen - 6) e.bytes).slice _ e.bytes.length ++
    (b.data.copyTo (c.macHdrLen - 6) e.bytes).slice (c.macHdrLen - 6 + e.bytes.length) _ = _
  rw [Buffer.slice_copyTo, Buffer.slice_copyTo_behind _ _ (Nat.le_refl _), hbehind, hpayload]

/-! ### An AARP frame with QoS and HT control -/

def qosStation : TxCtrlT := ⟨.qos, false, false, true, 0, true, .infrastructure, fun _ => 2⟩

/-- A packet that is not EAPOL. -/
def dataBlock : TTxCtrlBlk := ⟨fun _ => 0, false, 0, 5, 17, 14⟩

def aarpHeader : TEthernetHeader := ⟨fun _ => 4, fun _ => 6, 0x80, 0xf3⟩

def aarpBytes : List UInt8 :=
  [0x88, 0x82, 0, 0] ++ List.replicate 6 4 ++ List.replicate 6 2 ++ List.replicate 6 6 ++
    [0, 0, 5, 0, 0, 0, 0, 0] ++ [0xaa, 0xaa, 0x03, 0x00, 0x00, 0xf8, 0x80, 0xf3] ++ [1, 2, 3]

/-- A buffer with the frame as it is relayed. -/
def aarpRelayed : RxBuf where
  length := 15
  extraBytes := 3
  driverFlags := 0
  data o := aarpBytes.getD o 0

theorem header_round_trip_aarp :
    (convertWlanToEthHeader aarpRelayed).1.bytes = aarpHeader.bytes ++ [1, 2, 3] ∧
      (convertWlanToEthHeader aarpRelayed).2 = 0x80f3 :=
  header_round_trip qosStation dataBlock aarpHeader .legacy [1, 2, 3] aarpRelayed (by decide) rfl
    nofun
    { length := by decide +kernel
      kind := by decide +kernel
      fromDs := by decide +kernel
      address1 := by decide +kernel
      address3 := by decide +kernel
      body := by decide +kernel }

end ArchosGpl.Wlan.RxData
