import ArchosGpl.Lib.Chain
import ArchosGpl.Wlan.Sme.SelectModel

/-!
# The setup method of a site (`Sta_Management/scanResultTable.c`)

`scanResultTable_UpdateWSCParams` walks the attributes of a WSC IE for the first Device Password ID.
Offsets count from the OUI of the IE, the attributes begin behind its four bytes, and the IE ends at
`hdr[1]`; what is in memory behind it is arbitrary. The model of the function also lists the offsets
that are read.

`methodOf` says which method the IE offers: that of the first Device Password ID attribute that lies
wholly inside. **`updateWscParams_right_iff`**: for every IE the walk ends, and it reads the IE only
and gives that method exactly if the search for the attribute ends before the end of the IE, at a
header that is inside, and a Device Password ID there has its value inside and is whole or names no
method (`StopsRight`).
-/

namespace ArchosGpl.Wlan.ScanResultTable.Wsc

open Lib.Chain
open Sme.Select (TiwlnSimpleConfigMode)

/-! ## The function -/

abbrev dot11WscBeaconMaxLength : ℕ := 160

abbrev dot11OuiLen : ℕ := 4

abbrev dot11WscDevicePasswordId : ℕ := 0x1012

abbrev dot11WscDevicePasswordIdPin : ℕ := 0x0000

abbrev dot11WscDevicePasswordIdPbc : ℕ := 0x0004

/-- `dot11_WSC_t` with what is behind it in memory. `hdr1` is the length byte of the header, which
`mlmeParser_readWSCParams` bounds by the room for the OUI and the attributes. -/
structure Dot11Wsc where
  hdr1 : ℕ
  hdr1_le : hdr1 ≤ dot11OuiLen + dot11WscBeaconMaxLength
  mem : ℕ → UInt8

def bigEndWord (mem : ℕ → UInt8) (o : ℕ) : ℕ := (mem o).toNat * 256 + (mem (o + 1)).toNat

/-- Where the loop leaves `tlvPtr` and `selectedMethod`, and the offsets it read. -/
structure Walk where
  tlvPtr : ℕ
  selectedMethod : ℕ
  reads : List ℕ

/-- The loop, from an offset. Every round goes on by four bytes at least, so a round for each byte
of the IE and one more are enough. -/
def tlvLoop (mem : ℕ → UInt8) (endPtr : ℕ) : ℕ → ℕ → Option Walk
  | 0, _ => none
  | fuel + 1, tlvPtr =>
    if bigEndWord mem tlvPtr = dot11WscDevicePasswordId then
      some ⟨tlvPtr + 4, bigEndWord mem (tlvPtr + 4), [tlvPtr, tlvPtr + 1, tlvPtr + 4, tlvPtr + 5]⟩
    else
      let next := tlvPtr + 4 + bigEndWord mem (tlvPtr + 2)
      let reads := [tlvPtr, tlvPtr + 1, tlvPtr + 2, tlvPtr + 3]
      if next < endPtr then
        (tlvLoop mem endPtr fuel next).map fun w => { w with reads := reads ++ w.reads }
      else some ⟨next, 0, reads⟩

def methodOfId (selectedMethod : ℕ) : TiwlnSimpleConfigMode :=
  if selectedMethod = dot11WscDevicePasswordIdPin then .pinMethod
  else if selectedMethod = dot11WscDevicePasswordIdPbc then .pbcMethod
  else .off

/-- What is done behind the loop. -/
def Walk.wscSiteMode (w : Walk) (endPtr : ℕ) : TiwlnSimpleConfigMode :=
  if endPtr < w.tlvPtr then .off else methodOfId w.selectedMethod

/-- `scanResultTable_UpdateWSCParams`: `WSCSiteMode`, and the offsets read. -/
def updateWscParams : Option Dot11Wsc → Option (TiwlnSimpleConfigMode × List ℕ)
  | none => some (.off, [])
  | some ie =>
    (tlvLoop ie.mem ie.hdr1 (ie.hdr1 + 1) dot11OuiLen).map fun w =>
      (w.wscSiteMode ie.hdr1, w.reads)

/-! ## The attributes -/

variable {mem : ℕ → UInt8} {endPtr fuel o : ℕ}

/-- The declared length of the attribute at an offset. -/
def attrLen (mem : ℕ → UInt8) (o : ℕ) : ℕ := bigEndWord mem (o + 2)

def attrSize (mem : ℕ → UInt8) (o : ℕ) : ℕ := 4 + attrLen mem o

def isDevicePasswordId (mem : ℕ → UInt8) (o : ℕ) : Bool :=
  bigEndWord mem o = dot11WscDevicePasswordId

/-- The method of a Device Password ID attribute. One without room for an ID names none. -/
def attrMethod (mem : ℕ → UInt8) (o : ℕ) : TiwlnSimpleConfigMode :=
  if 2 ≤ attrLen mem o then methodOfId (bigEndWord mem (o + 4)) else .off

/-- The method of the first Device Password ID among the whole attributes from an offset on. -/
def methodFrom (mem : ℕ → UInt8) (endPtr fuel o : ℕ) : TiwlnSimpleConfigMode :=
  match (chain (attrSize mem) endPtr fuel o).find? (isDevicePasswordId mem) with
  | some x => attrMethod mem x
  | none => .off

def methodOf (ie : Dot11Wsc) : TiwlnSimpleConfigMode :=
  methodFrom ie.mem ie.hdr1 ie.hdr1 dot11OuiLen

/-- What the search should end at. -/
structure StopsRight (mem : ℕ → UInt8) (endPtr s : ℕ) : Prop where
  header : s + 4 ≤ endPtr
  value : isDevicePasswordId mem s = true → s + 6 ≤ endPtr
  named : isDevicePasswordId mem s = true →
    s + attrSize mem s ≤ endPtr ∧ 2 ≤ attrLen mem s ∨ methodOfId (bigEndWord mem (s + 4)) = .off

/-- The walk reads the IE only and gives the method. -/
def RightFrom (mem : ℕ → UInt8) (endPtr fuel o : ℕ) (w : Walk) : Prop :=
  w.wscSiteMode endPtr = methodFrom mem endPtr fuel o ∧ ∀ x ∈ w.reads, x < endPtr

/-! ## The walk -/

theorem attrSize_pos (mem : ℕ → UInt8) (o : ℕ) : 0 < attrSize mem o :=
  Nat.lt_of_lt_of_le (by decide) (Nat.le_add_right 4 _)

theorem methodFrom_eq {s : ℕ} (hfuel : endPtr - o ≤ fuel)
    (hs : firstStop (attrSize mem) (isDevicePasswordId mem) endPtr fuel o = s) :
    methodFrom mem endPtr fuel o =
      if s + attrSize mem s ≤ endPtr ∧ isDevicePasswordId mem s = true then attrMethod mem s
      else .off := by
  rw [methodFrom, find?_chain (attrSize_pos mem) hfuel, hs]
  by_cases h : s + attrSize mem s ≤ endPtr ∧ isDevicePasswordId mem s = true
  · rw [if_pos h, if_pos h]
  · rw [if_neg h, if_neg h]

theorem right_at_id (hfuel : endPtr - o ≤ fuel) (hid : isDevicePasswordId mem o = true) :
    ∃ w, tlvLoop mem endPtr (fuel + 1) o = some w ∧
      (RightFrom mem endPtr fuel o w ↔ StopsRight mem endPtr
        (firstStop (attrSize mem) (isDevicePasswordId mem) endPtr fuel o)) := by
  have hstop : firstStop (attrSize mem) (isDevicePasswordId mem) endPtr fuel o = o :=
    firstStop_here fun h => absurd (hid.symm.trans h.2) (by decide)
  have hword : bigEndWord mem o = dot11WscDevicePasswordId := of_decide_eq_true hid
  refine ⟨_, by rw [tlvLoop, if_pos hword], ?_⟩
  rw [hstop, RightFrom, methodFrom_eq hfuel hstop, Walk.wscSiteMode]
  dsimp only
  constructor
  · rintro ⟨hmode, hreads⟩
    have hvalue : o + 5 < endPtr := hreads (o + 5) (by simp)
    rw [if_neg (by omega)] at hmode
    refine ⟨by omega, fun _ => hvalue, fun _ => ?_⟩
    split at hmode
    next h =>
      rw [attrMethod] at hmode
      split at hmode
      next hlen => exact Or.inl ⟨h.1, hlen⟩
      · exact Or.inr hmode
    · exact Or.inr hmode
  · intro h
    have hvalue := h.value hid
    refine ⟨?_, fun x hx => ?_⟩
    · rw [if_neg (by omega)]
      rcases h.named hid with ⟨hwhole, hlen⟩ | hoff
      · rw [if_pos ⟨hwhole, hid⟩, attrMethod, if_pos hlen]
      · rw [hoff, attrMethod, hoff, ite_self, ite_self]
    · simp only [List.mem_cons, List.not_mem_nil, or_false] at hx
      omega

theorem right_at_end (hfuel : endPtr - o ≤ fuel) (hid : isDevicePasswordId mem o = false)
    (hout : ¬o + attrSize mem o ≤ endPtr) :
    ∃ w, tlvLoop mem endPtr (fuel + 1) o = some w ∧
      (RightFrom mem endPtr fuel o w ↔ StopsRight mem endPtr
        (firstStop (attrSize mem) (isDevicePasswordId mem) endPtr fuel o)) := by
  have hstop : firstStop (attrSize mem) (isDevicePasswordId mem) endPtr fuel o = o :=
    firstStop_here fun h => hout h.1
  have hword : ¬bigEndWord mem o = dot11WscDevicePasswordId := of_decide_eq_false hid
  have hnext : o + 4 + bigEndWord mem (o + 2) = o + attrSize mem o := Nat.add_assoc _ _ _
  refine ⟨_, by rw [tlvLoop, if_neg hword, hnext, if_neg (by omega)], ?_⟩
  rw [hstop, RightFrom, methodFrom_eq hfuel hstop, Walk.wscSiteMode,
    if_pos (Nat.lt_of_not_le hout),
    if_neg fun h => hout h.1]
  constructor
  · rintro ⟨-, hreads⟩
    have hheader : o + 3 < endPtr := hreads (o + 3) (by simp)
    exact ⟨hheader, by simp [hid], by simp [hid]⟩
  · intro h
    have hheader := h.header
    refine ⟨rfl, fun x hx => ?_⟩
    simp only [List.mem_cons, List.not_mem_nil, or_false] at hx
    omega

theorem tlvLoop_right_iff (hfuel : endPtr - o ≤ fuel) :
    ∃ w, tlvLoop mem endPtr (fuel + 1) o = some w ∧
      (RightFrom mem endPtr fuel o w ↔ StopsRight mem endPtr
        (firstStop (attrSize mem) (isDevicePasswordId mem) endPtr fuel o)) := by
  induction fuel generalizing o with
  | zero =>
    have hpos := attrSize_pos mem o
    cases hid : isDevicePasswordId mem o with
    | true => exact right_at_id hfuel hid
    | false => exact right_at_end hfuel hid (by omega)
  | succ fuel ih =>
    have hpos := attrSize_pos mem o
    cases hid : isDevicePasswordId mem o with
    | true => exact right_at_id hfuel hid
    | false =>
      by_cases hin : o + attrSize mem o ≤ endPtr
      · have hword : ¬bigEndWord mem o = dot11WscDevicePasswordId := of_decide_eq_false hid
        have hnext : o + 4 + bigEndWord mem (o + 2) = o + attrSize mem o := Nat.add_assoc _ _ _
        have hstop : firstStop (attrSize mem) (isDevicePasswordId mem) endPtr (fuel + 1) o = _ :=
          firstStop_next hin hid
        have hmethod : methodFrom mem endPtr (fuel + 1) o =
            methodFrom mem endPtr fuel (o + attrSize mem o) := by
          rw [methodFrom_eq hfuel hstop, methodFrom_eq (by omega) rfl]
        rw [hstop, tlvLoop, if_neg hword, hnext]
        by_cases hlt : o + attrSize mem o < endPtr
        · -- the attribute is whole and the walk goes on
          obtain ⟨w, hw, hiff⟩ := ih (o := o + attrSize mem o) (by omega)
          refine ⟨_, by rw [if_pos hlt, hw, Option.map_some], ?_⟩
          rw [← hiff, RightFrom, RightFrom, hmethod]
          refine and_congr_right fun _ => ⟨fun h x hx => h x (List.mem_append_right _ hx),
            fun h x hx => ?_⟩
          rcases List.mem_append.mp hx with hx | hx
          · simp only [List.mem_cons, List.not_mem_nil, or_false] at hx
            have : 4 ≤ attrSize mem o := Nat.le_add_right 4 _
            omega
          · exact h x hx
        · -- the IE ends with the attribute, and the code takes the zero for a method
          have hend : o + attrSize mem o = endPtr := by omega
          have hsize := attrSize_pos mem endPtr
          refine ⟨_, by rw [if_neg hlt], ?_⟩
          have hstop' :
              firstStop (attrSize mem) (isDevicePasswordId mem) endPtr fuel endPtr = endPtr :=
            firstStop_here (by omega)
          rw [hend, hstop', RightFrom, hmethod, hend, methodFrom_eq (by omega) hstop',
            if_neg (by omega), Walk.wscSiteMode, if_neg (Nat.lt_irrefl endPtr)]
          exact iff_of_false (fun h => nomatch h.1) fun h => absurd h.header (by omega)
      · exact right_at_end hfuel hid hin

/-! ## The method of a site -/

/-- Where the search for a Device Password ID ends. -/
def searchEnd (ie : Dot11Wsc) : ℕ :=
  firstStop (attrSize ie.mem) (isDevicePasswordId ie.mem) ie.hdr1 ie.hdr1 dot11OuiLen

/-- The function ends, reads the IE only, and sets the method that the IE offers. -/
def SetsMethod (ie : Dot11Wsc) : Prop :=
  ∃ reads, updateWscParams (some ie) = some (methodOf ie, reads) ∧ ∀ x ∈ reads, x < ie.hdr1

/-- **The method is right** exactly for an IE at which the search stops right. The function always
ends. -/
theorem updateWscParams_right_iff (ie : Dot11Wsc) :
    (∃ r, updateWscParams (some ie) = some r) ∧
      (SetsMethod ie ↔ StopsRight ie.mem ie.hdr1 (searchEnd ie)) := by
  obtain ⟨w, hw, hiff⟩ := @tlvLoop_right_iff ie.mem ie.hdr1 ie.hdr1 dot11OuiLen
    (Nat.sub_le ie.hdr1 dot11OuiLen)
  have hcall : updateWscParams (some ie) = some (w.wscSiteMode ie.hdr1, w.reads) := by
    rw [updateWscParams, hw, Option.map_some]
  refine ⟨⟨_, hcall⟩, ?_⟩
  rw [searchEnd, ← hiff, RightFrom, SetsMethod, hcall]
  constructor
  · rintro ⟨reads, heq, hreads⟩
    obtain ⟨hmode, rfl⟩ := Prod.mk.inj (Option.some.inj heq)
    exact ⟨hmode, hreads⟩
  · rintro ⟨hmode, hreads⟩
    exact ⟨w.reads, congrArg (fun m => some (m, w.reads)) hmode, hreads⟩

/-! ## IEs that are read wrong -/

/-- An IE with bytes behind the OUI, and zeros behind those. -/
def ieOf (bytes : List UInt8) (h : bytes.length ≤ dot11WscBeaconMaxLength) (behind : List UInt8) :
    Dot11Wsc where
  hdr1 := dot11OuiLen + bytes.length
  hdr1_le := Nat.add_le_add_left h _
  mem o := ([0x00, 0x50, 0xf2, 0x04] ++ bytes ++ behind).getD o 0

theorem SetsMethod.mode {ie : Dot11Wsc} (h : SetsMethod ie) :
    (updateWscParams (some ie)).map Prod.fst = some (methodOf ie) := by
  obtain ⟨reads, heq, -⟩ := h
  rw [heq, Option.map_some]

/-- **The method is wrong**: an IE with nothing but a version gets the method PIN, and one that ends
with the header of a Device Password ID gets the method that is behind it. -/
theorem method_wrong :
    ¬SetsMethod (ieOf [0x10, 0x4a, 0x00, 0x01, 0x10] (by decide) []) ∧
      ¬SetsMethod (ieOf [0x10, 0x12, 0x00, 0x02] (by decide) [0x00, 0x04]) := by
  refine ⟨fun h => ?_, fun h => ?_⟩ <;> exact absurd h.mode (by decide)

end ArchosGpl.Wlan.ScanResultTable.Wsc
