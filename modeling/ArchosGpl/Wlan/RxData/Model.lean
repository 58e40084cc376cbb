import ArchosGpl.Lib.Buffer
import ArchosGpl.Lib.Word

/-!
# Model of the A-MSDU conversion (`rxData_ConvertAmsduToEthPackets`, `stad/src/Data_link/rx.c`)

An A-MSDU is cut into Ethernet packets, each in a buffer of its own, which goes to the handler of
its kind in `rxData_dispatchBuffer`. `Conv` holds the variables of the function and what it has
done: **the bytes of the received buffer that it has read**, by their distance from `RX_BUF_DATA`,
the packets delivered, and how often the received buffer was freed.

Of the descriptor, which is copied whole, the fields are modelled that the function sets or reads.
The two words `RX_ETH_PKT_DATA` and `RX_ETH_PKT_LEN`, which it keeps in front of the packet in the
new buffer, are fields here. What the allocation returns is an input, and so is what its memory
holds. The host is little-endian.
-/

namespace ArchosGpl.Wlan.RxData

open Lib

/-- `TI_OK` and `TI_NOK`. -/
inductive TiStatus
  | ok
  | nok
  deriving DecidableEq

/-- `rxDataPacketType_e`, without `DATA_IAPP_PACKET`. -/
inductive RxDataPacketType
  | eapol
  | data
  | vlan
  deriving DecidableEq

/-- `sizeof(RxIfDescriptor_t)`. -/
def rxIfDescriptorSize : ℕ := 16

def ethernetHdrLen : ℕ := 14

def wlanSnapHdrLen : ℕ := 8

def fcsSize : ℕ := 4

def paddingEthPacketSize : ℕ := 2

def msduDataLenLimit : ℕ := 5000

def ethertype8021d : ℕ := 0x8100

def eapolPacket : ℕ := 0x888E

def drvRxFlagEndOfBurst : UInt8 := 0x01

/-- A 16-bit field in network order, as `WLANTOHS` gives it. -/
def wlanToHs (b : Buffer UInt8) (o : ℕ) : ℕ := 256 * (b o).toNat + (b (o + 1)).toNat

/-- A received buffer: the fields of its descriptor, and the memory from `RX_BUF_DATA` on. -/
structure RxBuf where
  length : UInt16
  extraBytes : UInt8
  driverFlags : UInt8
  data : Buffer UInt8

namespace RxBuf

variable (b : RxBuf)

/-- The size of the buffer from `RX_BUF_DATA` on. -/
def size : ℕ := 4 * b.length.toNat - rxIfDescriptorSize

def rxBufLen : ℕ :=
  sub32 (sub32 (4 * b.length.toNat) b.extraBytes.toNat) rxIfDescriptorSize

def fc : ℕ := (b.data 0).toNat + 256 * (b.data 1).toNat

def isQosFrame : Bool := b.fc &&& 0xfc = 0x88 || b.fc &&& 0xfc = 0xc8

def isHtFrame : Bool := b.fc &&& 0x8000 ≠ 0

/-- `GET_MAX_HEADER_SIZE`. -/
def headerLength : ℕ :=
  if b.isQosFrame then if b.isHtFrame then 30 else 26
  else if b.isHtFrame then 28 else 24

/-- `uAmsduDataLen` at the start. -/
def amsduDataLen : ℕ := sub32 b.rxBufLen b.headerLength % 2 ^ 16

end RxBuf

/-- A buffer with an Ethernet packet: the fields of its descriptor, the memory from `RX_BUF_DATA`
on, and where the packet is in it. -/
structure EthPkt where
  length : ℕ
  extraBytes : ℕ
  driverFlags : UInt8
  data : Buffer UInt8
  ethPktData : ℕ
  ethPktLen : ℕ

namespace EthPkt

/-- The packet. -/
def bytes (p : EthPkt) : List UInt8 := p.data.slice p.ethPktData p.ethPktLen

/-- It carries `DRV_RX_FLAG_END_OF_BURST`. -/
def endOfBurst (p : EthPkt) : Bool := p.driverFlags &&& drvRxFlagEndOfBurst ≠ 0

end EthPkt

/-- The conversion: its variables, the number of requests for a buffer, and what it has done. -/
structure Conv where
  msduEthHeader : ℕ
  amsduDataLen : ℕ
  dataLen : ℕ
  requests : ℕ
  reads : List ℕ
  delivered : List (EthPkt × RxDataPacketType)
  freed : ℕ
  excludedFrameCounter : ℕ

namespace Conv

variable (b : RxBuf)

/-- The settings before the loop. -/
def start : Conv where
  msduEthHeader := b.headerLength
  amsduDataLen := b.amsduDataLen
  dataLen := wlanToHs b.data (b.headerLength + 12)
  requests := 0
  reads := [0, 1, b.headerLength + 12, b.headerLength + 13]
  delivered := []
  freed := 0
  excludedFrameCounter := 0

/-- `RxBufFree` of the received buffer. -/
def rxBufFree (c : Conv) : Conv := { c with freed := c.freed + 1 }

/-- `rxData_discardPacket` of the received buffer. -/
def discardPacket (c : Conv) : Conv :=
  { c with excludedFrameCounter := c.excludedFrameCounter + 1 }.rxBufFree

/-- The length of the subframe, rounded up to words. -/
def lengthDelta (dataLen : ℕ) : ℕ := (ethernetHdrLen + dataLen + 3) / 4 * 4

/-- The Ethernet packet of a subframe, put into new memory. -/
def ethPkt (msdu dataLen : ℕ) (driverFlags : UInt8) (mem : Buffer UInt8) : EthPkt :=
  let len := rxIfDescriptorSize + wlanSnapHdrLen + ethernetHdrLen + dataLen
  let ethHeader := wlanSnapHdrLen + paddingEthPacketSize
  let mem := mem.copyTo ethHeader (b.data.slice msdu ethernetHdrLen)
  -- the type of the SNAP header
  let mem := mem.copyTo (ethHeader + 12) (b.data.slice (msdu + ethernetHdrLen + 6) 2)
  let mem :=
    if wlanSnapHdrLen < dataLen then
      mem.copyTo (ethHeader + ethernetHdrLen)
        (b.data.slice (msdu + ethernetHdrLen + wlanSnapHdrLen) (dataLen - wlanSnapHdrLen))
    else mem
  { length := len / 4
    extraBytes := 4 - len % 4
    driverFlags := driverFlags
    data := mem
    ethPktData := ethHeader
    ethPktLen := dataLen + ethernetHdrLen - wlanSnapHdrLen }

def packetType (msdu : ℕ) (p : EthPkt) : RxDataPacketType :=
  if wlanToHs b.data (msdu + ethernetHdrLen + 6) = ethertype8021d then .vlan
  else if wlanToHs p.data (p.ethPktData + 12) = eapolPacket then .eapol
  else .data

/-- The bytes that a pass reads: the type in the SNAP header, the Ethernet header, the payload, and
the length of the next subframe. -/
def passReads (msdu dataLen : ℕ) : List ℕ :=
  [msdu + ethernetHdrLen + 6, msdu + ethernetHdrLen + 7] ++ List.range' msdu ethernetHdrLen ++
    List.range' (msdu + ethernetHdrLen + wlanSnapHdrLen) (dataLen - wlanSnapHdrLen) ++
    [msdu + lengthDelta dataLen + 12, msdu + lengthDelta dataLen + 13]

/-- A pass of the loop, with a new buffer. -/
def pass (c : Conv) (mem : Buffer UInt8) : Conv :=
  let delta := lengthDelta c.dataLen
  let more := decide (delta < c.amsduDataLen)
  let flags := if more then b.driverFlags &&& ~~~drvRxFlagEndOfBurst else b.driverFlags
  let pkt := ethPkt b c.msduEthHeader c.dataLen flags mem
  { c with
    msduEthHeader := c.msduEthHeader + delta
    amsduDataLen := if more then c.amsduDataLen - delta else 0
    dataLen := wlanToHs b.data (c.msduEthHeader + delta + 12)
    requests := c.requests + 1
    reads := c.reads ++ passReads c.msduEthHeader c.dataLen
    delivered := c.delivered ++ [(pkt, packetType b c.msduEthHeader pkt)] }

def loop (alloc : ℕ → Option (Buffer UInt8)) : ℕ → Conv → Option (Conv × TiStatus)
  | 0, _ => none
  | fuel + 1, c =>
    if c.dataLen < c.amsduDataLen ∧ ethernetHdrLen + fcsSize < c.amsduDataLen then
      if c.dataLen < wlanSnapHdrLen ∨ msduDataLenLimit < c.dataLen then some (c.discardPacket, .nok)
      else
        match alloc c.requests with
        | none => some ({ c with requests := c.requests + 1 }.discardPacket, .nok)
        | some mem => loop alloc fuel (c.pass b mem)
    else some (c.rxBufFree, .ok)

/-- `rxData_ConvertAmsduToEthPackets`; none where the loop has not ended. -/
def convertAmsduToEthPackets (alloc : ℕ → Option (Buffer UInt8)) (fuel : ℕ) :
    Option (Conv × TiStatus) :=
  loop b alloc fuel (start b)

end Conv

end ArchosGpl.Wlan.RxData
