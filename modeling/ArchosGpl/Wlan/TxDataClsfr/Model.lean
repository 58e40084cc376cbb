import Mathlib.Algebra.Group.Nat.Defs
import Mathlib.Data.List.Basic
import Mathlib.Data.Nat.Notation
import Mathlib.Logic.Function.Basic

/-!
# Model of the TX classifier (`stad/src/Data_link/TxDataClsfr.c`)

The build is a little-endian one, in which `HTOWLANS` swaps the bytes of a word.

* An entry of the table has a union of three kinds of key. `Dscp` holds its bytes: the code point is
  the first byte of the IP address, the port number its first two bytes. `Dscp.key` is what the
  functions compare for a type of classifier, `Dscp.copyKey` what they copy; the other bytes stay.
* The three branches of each `switch` differ only in the key, and are one definition here.
* A packet has its Ethernet header in buffer 0 and its IP header in buffer 1, which the code reads
  without a check; buffer 2 may be missing.
-/

namespace ArchosGpl.Wlan.TxDataClsfr

abbrev numOfClsfrTableEntries : ℕ := 16

abbrev maxNumOf8021dTags : UInt8 := 8

abbrev classifierDtagMax : UInt8 := 7

abbrev classifierCodePointMax : ℕ := 63

/-- `CLASSIFIER_PORT_MIN` and `CLASSIFIER_PORT_MAX`. -/
abbrev classifierPortMin : ℕ := 1
abbrev classifierPortMax : ℕ := 65535

/-- `CLASSIFIER_IPADDRESS_MIN` and `CLASSIFIER_IPADDRESS_MAX`. -/
abbrev classifierIpAddressMin : ℕ := 0x0
abbrev classifierIpAddressMax : ℕ := 0xFFFFFFFF

abbrev etherTypeIp : ℕ := 0x0800

inductive EClsfrType
  | dTag
  | dscp
  | port
  | ipPort
  deriving DecidableEq, Repr

/-- The type of a number, up to `CLSFR_TYPE_MAX`. -/
def EClsfrType.ofCode : ℕ → Option EClsfrType
  | 0 => some .dTag
  | 1 => some .dscp
  | 2 => some .port
  | 3 => some .ipPort
  | _ => none

/-- `TI_OK` and `PARAM_VALUE_NOT_VALID`. -/
inductive Status
  | ok
  | paramValueNotValid
  deriving DecidableEq, Repr

/-- The union of `TClsfrTableEntry`. -/
structure Dscp where
  /-- `DstIPPort.DstIPAddress` -/
  ip : UInt32
  /-- `DstIPPort.DstPortNum` -/
  port : UInt16
  deriving DecidableEq, Repr

/-- A key: the code point, the port, or the IP address and the port. -/
abbrev Key : Type := ℕ × ℕ

def Dscp.codePoint (d : Dscp) : ℕ := d.ip.toNat % 2 ^ 8

def Dscp.dstPortNum (d : Dscp) : ℕ := d.ip.toNat % 2 ^ 16

/-- What is compared. -/
def Dscp.key (d : Dscp) : EClsfrType → Key
  | .dTag => (0, 0)
  | .dscp => (d.codePoint, 0)
  | .port => (d.dstPortNum, 0)
  | .ipPort => (d.ip.toNat, d.port.toNat)

/-- What is copied from `d'`. -/
def Dscp.copyKey (d d' : Dscp) : EClsfrType → Dscp
  | .dTag => d
  | .dscp => { d with ip := .ofNat (d.ip.toNat / 2 ^ 8 * 2 ^ 8 + d'.codePoint) }
  | .port => { d with ip := .ofNat (d.ip.toNat / 2 ^ 16 * 2 ^ 16 + d'.dstPortNum) }
  | .ipPort => d'

structure TClsfrTableEntry where
  Dscp : Dscp
  DTag : UInt8
  deriving DecidableEq, Repr

/-- An entry with the key and the tag of another one. -/
def TClsfrTableEntry.copy (e e' : TClsfrTableEntry) (ty : EClsfrType) : TClsfrTableEntry where
  Dscp := e.Dscp.copyKey e'.Dscp ty
  DTag := e'.DTag

/-- `TClsfrParams`, as the classifier keeps it. -/
structure TClsfrParams where
  eClsfrType : EClsfrType
  uNumActiveEntries : ℕ
  ClsfrTable : ℕ → TClsfrTableEntry

/-- `TClsfrParams`, as it is given. -/
structure TClsfrInitParams where
  eClsfrType : ℕ
  uNumActiveEntries : UInt32
  ClsfrTable : ℕ → TClsfrTableEntry

/-- The object after it was allocated and zeroed. -/
def zero : TClsfrParams where
  eClsfrType := .dTag
  uNumActiveEntries := 0
  ClsfrTable := fun _ => ⟨⟨0, 0⟩, 0⟩

/-! ## The configuration -/

/-- The loop over the entries: the table and `uActualEntryCount` after the first ones. -/
def configLoop (ty : EClsfrType) (x T : ℕ → TClsfrTableEntry) : ℕ → (ℕ → TClsfrTableEntry) × ℕ
  | 0 => (T, 0)
  | i + 1 =>
    let (U, uActualEntryCount) := configLoop ty x T i
    -- "Detect both duplicate and conflicting entries"
    if ∃ j < i, (U j).Dscp.key ty = (x i).Dscp.key ty then (U, uActualEntryCount)
    else (Function.update U uActualEntryCount ((U uActualEntryCount).copy (x i) ty),
      uActualEntryCount + 1)

/-- `uNumActiveEntries` before the loop. -/
def TClsfrInitParams.count (c : TClsfrInitParams) : ℕ :=
  min c.uNumActiveEntries.toNat numOfClsfrTableEntries

/-- `txDataClsfr_Config`. -/
def config (p : TClsfrParams) (c : TClsfrInitParams) : TClsfrParams :=
  match EClsfrType.ofCode c.eClsfrType with
  | some .dTag => { p with eClsfrType := .dTag, uNumActiveEntries := 0 }
  -- "Classifier type -- unknown --> set to D-Tag"
  | none => { p with eClsfrType := .dTag, uNumActiveEntries := 0 }
  | some ty =>
    let (U, uActualEntryCount) := configLoop ty c.ClsfrTable p.ClsfrTable c.count
    { eClsfrType := ty, uNumActiveEntries := uActualEntryCount, ClsfrTable := U }

/-! ## One entry -/

/-- "Check entry". -/
def bad (e : TClsfrTableEntry) : EClsfrType → Prop
  | .dTag => True
  | .dscp => e.Dscp.codePoint > classifierCodePointMax ∨ e.DTag > classifierDtagMax
  | .port => e.DTag > classifierDtagMax ∨ e.Dscp.dstPortNum > classifierPortMax - 1 ∨
      e.Dscp.dstPortNum < classifierPortMin
  | .ipPort => e.DTag > classifierDtagMax ∨ e.Dscp.port.toNat > classifierPortMax - 1 ∨
      e.Dscp.port.toNat < classifierPortMin ∨ e.Dscp.ip.toNat > classifierIpAddressMax - 1 ∨
      e.Dscp.ip.toNat < classifierIpAddressMin + 1

instance (e : TClsfrTableEntry) : (ty : EClsfrType) → Decidable (bad e ty)
  | .dTag => isTrue trivial
  | .dscp => inferInstanceAs (Decidable (_ ∨ _))
  | .port => inferInstanceAs (Decidable (_ ∨ _))
  | .ipPort => inferInstanceAs (Decidable (_ ∨ _))

def insertClsfrEntry (p : TClsfrParams) : Option TClsfrTableEntry → Status × TClsfrParams
  | none => (.paramValueNotValid, p)
  | some e =>
    if p.uNumActiveEntries = numOfClsfrTableEntries then (.paramValueNotValid, p)
    else if p.eClsfrType = .dTag then (.paramValueNotValid, p)
    else if bad e p.eClsfrType then (.paramValueNotValid, p)
    else if ∃ i < p.uNumActiveEntries,
        (p.ClsfrTable i).Dscp.key p.eClsfrType = e.Dscp.key p.eClsfrType then
      (.paramValueNotValid, p)
    else
      (.ok,
        { p with
          ClsfrTable := Function.update p.ClsfrTable p.uNumActiveEntries
            ((p.ClsfrTable p.uNumActiveEntries).copy e p.eClsfrType)
          uNumActiveEntries := p.uNumActiveEntries + 1 })

/-- "Shift all entries above the removed one downward": so many moves from an entry on. -/
def shift (ty : EClsfrType) : ℕ → ℕ → (ℕ → TClsfrTableEntry) → ℕ → TClsfrTableEntry
  | 0, _, T => T
  | n + 1, j, T => shift ty n (j + 1) (Function.update T j ((T j).copy (T (j + 1)) ty))

def removeClsfrEntry (p : TClsfrParams) : Option TClsfrTableEntry → Status × TClsfrParams
  | none => (.paramValueNotValid, p)
  | some e =>
    if p.uNumActiveEntries = 0 then (.paramValueNotValid, p)
    else if p.eClsfrType = .dTag then (.paramValueNotValid, p)
    else
      match (List.range p.uNumActiveEntries).find? fun i =>
        (p.ClsfrTable i).Dscp.key p.eClsfrType = e.Dscp.key p.eClsfrType ∧
          (p.ClsfrTable i).DTag = e.DTag with
      | none => (.paramValueNotValid, p)
      | some i =>
        (.ok,
          { p with
            ClsfrTable := shift p.eClsfrType (p.uNumActiveEntries - 1 - i) i p.ClsfrTable
            uNumActiveEntries := p.uNumActiveEntries - 1 })

def setClsfrType (p : TClsfrParams) (eNewClsfrType : ℕ) : Status × TClsfrParams :=
  match EClsfrType.ofCode eNewClsfrType with
  | none => (.paramValueNotValid, p)
  | some ty => (.ok, { p with eClsfrType := ty, uNumActiveEntries := 0 })

/-! ## The classification -/

/-- The buffers of a packet, and the length of the one with the IP header. -/
structure Packet where
  ethHead : ℕ → UInt8
  ipHeader : ℕ → UInt8
  ipLen : UInt16
  aBuf2 : Option (ℕ → UInt8)

def netWord (buf : ℕ → UInt8) (o : ℕ) : ℕ := (buf o).toNat * 2 ^ 8 + (buf (o + 1)).toNat

/-- Four bytes as the code reads them. -/
def long (buf : ℕ → UInt8) (o : ℕ) : ℕ :=
  (buf o).toNat + (buf (o + 1)).toNat * 2 ^ 8 + (buf (o + 2)).toNat * 2 ^ 16 +
    (buf (o + 3)).toNat * 2 ^ 24

/-- `getIpAndUdpHeader`: the UDP header, which may be missing. -/
def getIpAndUdpHeader (pkt : Packet) : Option (Option (ℕ → UInt8)) :=
  if netWord pkt.ethHead 12 ≠ etherTypeIp then none
  else
    let ipHeaderLen : UInt8 := (pkt.ipHeader 0 &&& 0x0f) * 4
    if ipHeaderLen.toNat = pkt.ipLen.toNat then some pkt.aBuf2
    else some (some fun o => pkt.ipHeader (ipHeaderLen.toNat + o))

def headerKey (pkt : Packet) : EClsfrType → Option Key
  | .dTag => none
  | .dscp => (getIpAndUdpHeader pkt).map fun _ => ((pkt.ipHeader 1 >>> 2).toNat, 0)
  | .port => (getIpAndUdpHeader pkt).join.map fun udp => (netWord udp 2, 0)
  | .ipPort => (getIpAndUdpHeader pkt).join.map fun udp => (long pkt.ipHeader 16, netWord udp 2)

/-- `txDataClsfr_ClassifyTxPacket`: the status and the TID. -/
def classifyTxPacket (p : TClsfrParams) (pkt : Packet) (uPacketDtag : UInt8) : Status × UInt8 :=
  if p.eClsfrType = .dTag then
    if uPacketDtag > maxNumOf8021dTags then (.paramValueNotValid, 0) else (.ok, uPacketDtag)
  else
    match headerKey pkt p.eClsfrType with
    | none => (.paramValueNotValid, 0)
    | some k =>
      match (List.range p.uNumActiveEntries).find? fun i =>
        (p.ClsfrTable i).Dscp.key p.eClsfrType = k with
      | none => (.ok, 0)
      | some i => (.ok, (p.ClsfrTable i).DTag)

inductive Op
  | config (c : TClsfrInitParams)
  | insert (e : Option TClsfrTableEntry)
  | remove (e : Option TClsfrTableEntry)
  | setType (eNewClsfrType : ℕ)
  | classify (pkt : Packet) (uPacketDtag : UInt8)

def step (p : TClsfrParams) : Op → Option TClsfrParams
  | .config c => some (config p c)
  | .insert e => some (insertClsfrEntry p e).2
  | .remove e => some (removeClsfrEntry p e).2
  | .setType ty => some (setClsfrType p ty).2
  | .classify _ _ => some p

end ArchosGpl.Wlan.TxDataClsfr
