import ArchosGpl.Wlan.RxData.Model
import Mathlib.Data.List.Chain
import Mathlib.Data.Nat.Count

/-!
# The field patterns of a data filter

The pass over a bit of the mask is described by `parseBit_cases`: it goes on, or it ends the parse
because the bit is one of the three kinds in `Bad`. `Inv` is what holds between two passes.

A field pattern begins at a masked byte that follows one that is not masked, or is the first byte
behind the Ethernet header (`fieldStart`).
-/

namespace ArchosGpl.Wlan.RxData

open Lib

/-!
## Model of the data filters (`rxData_addRxDataFilter`, `stad/src/Data_link/rx.c`)

A filter request masks bytes of a packet from an offset on, one bit of the mask for each byte, and
has a pattern byte for each set bit. `parseRxDataFilterRequest` cuts the masked bytes into field
patterns for the firmware. `Parse` holds its variables, what it has written to the output, and
**which bytes of the request's pattern it has read and which cells of a field pattern it has
written**.

The host is little-endian.
-/

section Model

def maxMaskSize : ℕ := 8

def maxPatternSize : ℕ := 64

def maxFieldPatterns : ℕ := 8

def filterBoundary : ℕ := 256

def ethernetHeaderBoundary : ℕ := 14

def maxDataFilters : ℕ := 4

def maxDataFilterSize : ℕ := 98

def flagNoBitMask : UInt8 := 0

def flagUseBitMask : UInt8 := 1

def flagIpHeader : UInt8 := 0

def flagEthernetHeader : UInt8 := 2

/-- `TRxDataFilterRequest`, with lengths that fit its arrays. -/
structure TRxDataFilterRequest where
  offset : UInt8
  maskLength : UInt8
  patternLength : UInt8
  mask : Buffer UInt8
  pattern : Buffer UInt8
  maskLength_le : maskLength.toNat ≤ maxMaskSize
  patternLength_le : patternLength.toNat ≤ maxPatternSize

/-- The bit of the mask for the byte `maskIter` from the offset on. -/
def TRxDataFilterRequest.isSet (r : TRxDataFilterRequest) (maskIter : ℕ) : Bool :=
  r.mask (maskIter / 8) &&& (1 <<< UInt8.ofNat (maskIter % 8)) == 1 <<< UInt8.ofNat (maskIter % 8)

structure FieldPattern where
  offset : ℕ
  flag : UInt8
  pattern : List UInt8
  mask : Buffer UInt8

/-- The field `length`. -/
def FieldPattern.length (f : FieldPattern) : ℕ := f.pattern.length

/-- The variables of `parseRxDataFilterRequest`, its output, and its accesses. -/
structure Parse where
  patternIter : ℕ
  isBuildingFieldPattern : Bool
  fieldPattern : FieldPattern
  numFieldPatterns : ℕ
  fieldPatterns : List UInt8
  reads : List ℕ
  stores : List ℕ

/-- What `closeFieldPattern` appends to the output. -/
def FieldPattern.encode (f : FieldPattern) : List UInt8 :=
  [UInt8.ofNat f.offset, UInt8.ofNat (f.offset / 2 ^ 8), UInt8.ofNat f.length, f.flag] ++ f.pattern ++
    if f.flag &&& flagUseBitMask == flagUseBitMask then (List.range f.length).map f.mask else []

/-- `closeFieldPattern`, and the field pattern is no longer being built. -/
def closeFieldPattern (p : Parse) : Parse :=
  { p with
    fieldPatterns := p.fieldPatterns ++ p.fieldPattern.encode
    isBuildingFieldPattern := false }

variable (r : TRxDataFilterRequest)

/-- The field pattern that begins at a byte. Its bit mask is not set. -/
def newFieldPattern (maskIter : ℕ) (f : FieldPattern) : FieldPattern :=
  let offset := r.offset.toNat + maskIter
  if offset < ethernetHeaderBoundary then
    { f with offset, flag := flagNoBitMask ||| flagEthernetHeader, pattern := [] }
  else
    { f with
      offset := offset - ethernetHeaderBoundary
      flag := flagNoBitMask ||| flagIpHeader
      pattern := [] }

/-- A new field pattern is begun, if there may be one more. -/
def createFieldPattern (maskIter : ℕ) (p : Parse) : Except Parse Parse :=
  let p := { p with
    isBuildingFieldPattern := true
    numFieldPatterns := p.numFieldPatterns + 1 }
  if p.numFieldPatterns > maxFieldPatterns then .error p
  else .ok { p with fieldPattern := newFieldPattern r maskIter p.fieldPattern }

def addPatternByte (p : Parse) : Except Parse Parse :=
  if p.patternIter > r.patternLength.toNat then .error p
  else
    let f := p.fieldPattern
    let p := { p with
      fieldPattern := { f with pattern := f.pattern ++ [r.pattern p.patternIter] }
      stores := p.stores ++ [f.length]
      reads := p.reads ++ [p.patternIter]
      patternIter := p.patternIter + 1 }
    if p.fieldPattern.offset + p.fieldPattern.length ≥ filterBoundary then .error p else .ok p

/-- One pass of the loop over the mask; an error ends the loop. -/
def parseBit (maskIter : ℕ) (p : Parse) : Except Parse Parse :=
  let p :=
    if p.isBuildingFieldPattern &&
        (!r.isSet maskIter || r.offset.toNat + maskIter == ethernetHeaderBoundary) then
      closeFieldPattern p
    else p
  if r.isSet maskIter then
    if p.isBuildingFieldPattern then addPatternByte r p
    else createFieldPattern r maskIter p >>= addPatternByte r
  else .ok p

/-- The first passes of the loop. The field pattern holds anything before. -/
def parseBits (f : FieldPattern) : ℕ → Except Parse Parse
  | 0 => .ok
    { patternIter := 0
      isBuildingFieldPattern := false
      fieldPattern := f
      numFieldPatterns := 0
      fieldPatterns := []
      reads := []
      stores := [] }
  | maskIter + 1 => parseBits f maskIter >>= parseBit r maskIter

/-- `parseRxDataFilterRequest`: what it returns, and its variables at the end. -/
def parseRxDataFilterRequest (f : FieldPattern) : TiStatus × Parse :=
  match parseBits r f (r.maskLength.toNat * 8) with
  | .error p => (.nok, p)
  | .ok p =>
    if p.patternIter ≠ r.patternLength.toNat then (.nok, p)
    else (.ok, if p.isBuildingFieldPattern then closeFieldPattern p else p)

/-- The fields of `rxData_t` about the filters. -/
structure Filters where
  isFilterSet : Fin maxDataFilters → Bool
  filterRequests : Fin maxDataFilters → TRxDataFilterRequest

/-- The requests are the same to `findFilterRequest`: the arrays are compared up to their lengths. -/
def TRxDataFilterRequest.same (a b : TRxDataFilterRequest) : Bool :=
  a.offset == b.offset && a.maskLength == b.maskLength && a.patternLength == b.patternLength &&
    (List.range b.maskLength.toNat).all (fun i => a.mask i == b.mask i) &&
    (List.range b.patternLength.toNat).all (fun i => a.pattern i == b.pattern i)

def findFilterRequest (s : Filters) : Option (Fin maxDataFilters) :=
  (List.finRange maxDataFilters).find? fun i => s.isFilterSet i && (s.filterRequests i).same r

/-- What the calls return. -/
inductive FilterStatus
  | tiOk
  | tiNok
  | rxNoAvailableFilters
  | rxFilterAlreadyExists
  | rxFilterDoesNotExist
  deriving DecidableEq

/-- The arguments of `TWD_CfgRxDataFilter`. -/
structure CfgRxDataFilter where
  index : Fin maxDataFilters
  addFilter : Bool
  numFieldPatterns : ℕ
  fieldPatterns : List UInt8

/-- `rxData_addRxDataFilter`: the filters, what it returns, and its call of `TWD_CfgRxDataFilter`,
which returns `cfg`. -/
def addRxDataFilter (f : FieldPattern) (cfg : FilterStatus) (s : Filters) :
    Filters × FilterStatus × Option CfgRxDataFilter :=
  if (findFilterRequest r s).isSome then (s, .rxFilterAlreadyExists, none)
  else
    match (List.finRange maxDataFilters).find? fun i => !s.isFilterSet i with
    | none => (s, .rxNoAvailableFilters, none)
    | some index =>
      match parseRxDataFilterRequest r f with
      | (.nok, _) => (s, .tiNok, none)
      | (.ok, p) =>
        if p.numFieldPatterns = 0 then (s, .tiNok, none)
        else
          ({ isFilterSet := Function.update s.isFilterSet index true
             filterRequests := Function.update s.filterRequests index r }, cfg,
            some
              { index
                addFilter := true
                numFieldPatterns := p.numFieldPatterns
                fieldPatterns := p.fieldPatterns })

def removeRxDataFilter (cfg : FilterStatus) (s : Filters) :
    Filters × FilterStatus × Option CfgRxDataFilter :=
  match findFilterRequest r s with
  | none => (s, .rxFilterDoesNotExist, none)
  | some index =>
    ({ s with isFilterSet := Function.update s.isFilterSet index false }, cfg,
      some { index, addFilter := false, numFieldPatterns := 0, fieldPatterns := [] })

end Model

/-! ## What a request says -/

namespace FieldPattern

variable (f : FieldPattern)

/-- The field is compared in the Ethernet header. -/
def Ethernet : Prop := f.flag = flagEthernetHeader

instance : Decidable f.Ethernet := inferInstanceAs (Decidable (f.flag = flagEthernetHeader))

/-- The first byte of the packet that is compared. The offsets of the other header are behind the
Ethernet header. -/
def start : ℕ := if f.Ethernet then f.offset else f.offset + ethernetHeaderBoundary

/-- The byte behind the last one that is compared. -/
def stop : ℕ := f.start + f.length

/-- **The bytes of the packet that are compared, and the values.** -/
def selects : List (ℕ × UInt8) := f.pattern.mapIdx fun k b => (f.start + k, b)

/-- Two fields in a row: there is a gap or the header boundary between them. -/
def Apart (f g : FieldPattern) : Prop :=
  f.stop < g.start ∨ f.stop = ethernetHeaderBoundary ∧ g.start = ethernetHeaderBoundary

/-- A field is in one header, not empty, and without a bit mask. -/
structure Valid : Prop where
  flag : f.flag = flagEthernetHeader ∨ f.flag = flagIpHeader
  nonempty : f.pattern ≠ []
  header : f.Ethernet → f.stop ≤ ethernetHeaderBoundary

end FieldPattern

variable (r : TRxDataFilterRequest)

/-- The number of masked bytes before one. -/
def setCount (n : ℕ) : ℕ := Nat.count (fun i => r.isSet i = true) n

/-- **The masked bytes of the packet and their values**, for the first bits of the mask. -/
def masked (n : ℕ) : List (ℕ × UInt8) :=
  ((List.range n).filter r.isSet).map fun i => (r.offset.toNat + i, r.pattern (setCount r i))

/-- A field begins at this bit: the byte before is not masked, or is in the other header. -/
def fieldStart (i : ℕ) : Bool :=
  r.isSet i && (i == 0 || !r.isSet (i - 1) || r.offset.toNat + i == ethernetHeaderBoundary)

/-- The number of fields that begin before a bit. -/
def fieldCount (n : ℕ) : ℕ := Nat.count (fun i => fieldStart r i = true) n

/-- The byte is too far behind the start of its header. -/
def Beyond (i : ℕ) : Prop :=
  r.isSet i = true ∧ filterBoundary + ethernetHeaderBoundary ≤ r.offset.toNat + i + 1

/-- The fields compare the masked bytes. -/
structure Describes (F : List FieldPattern) : Prop where
  selects : F.flatMap FieldPattern.selects = masked r (r.maskLength.toNat * 8)
  valid : ∀ f ∈ F, f.Valid
  apart : F.IsChain FieldPattern.Apart

/-- **What a run of the parser must be**: it reads the pattern only, stays in the field pattern and
the output buffer, and if the request is accepted, the output is the code of fields that compare
the masked bytes. -/
structure Compiles (run : TiStatus × Parse) : Prop where
  reads : ∀ k ∈ run.2.reads, k < r.patternLength.toNat
  stores : ∀ k ∈ run.2.stores, k < maxPatternSize
  out : run.2.fieldPatterns.length ≤ maxDataFilterSize
  accepted : run.1 = .ok → ∃ F, Describes r F ∧ run.2.numFieldPatterns = F.length ∧
    run.2.fieldPatterns = F.flatMap FieldPattern.encode

/-- The call marks a slot only for an accepted request. -/
def MarksAccepted (f : FieldPattern) : Prop :=
  ∀ (cfg : FilterStatus) (s : Filters) (index : Fin maxDataFilters),
    (addRxDataFilter r f cfg s).1.isFilterSet index → s.isFilterSet index ∨
      (parseRxDataFilterRequest r f).1 = .ok ∧
        (addRxDataFilter r f cfg s).1.filterRequests index = r

/-- A masked byte comes right behind the last byte of the pattern only if a check before rejects the
request: it begins one field too many, or an earlier byte is beyond the boundary. -/
def EndsWithPattern : Prop :=
  ∀ i < r.maskLength.toNat * 8, r.isSet i → setCount r i = r.patternLength.toNat →
    maxFieldPatterns < fieldCount r (i + 1) ∨ ∃ j < i, Beyond r j

/-! ## The fields so far -/

variable {r} {n : ℕ} {p : Parse} {F : List FieldPattern} {f : FieldPattern}

/-- The fields for the first bits of the mask. -/
structure Fields (r : TRxDataFilterRequest) (n : ℕ) (F : List FieldPattern) : Prop where
  selects : F.flatMap FieldPattern.selects = masked r n
  valid : ∀ f ∈ F, f.Valid
  apart : F.IsChain FieldPattern.Apart
  length : F.length = fieldCount r n
  stop_le : ∀ f ∈ F, f.stop ≤ r.offset.toNat + n

theorem setCount_succ (n : ℕ) : setCount r (n + 1) = setCount r n + if r.isSet n then 1 else 0 :=
  Nat.count_succ _ n

theorem setCount_le (n : ℕ) : setCount r n ≤ n := Nat.count_le _

theorem fieldCount_succ (n : ℕ) :
    fieldCount r (n + 1) = fieldCount r n + if fieldStart r n then 1 else 0 := Nat.count_succ _ n

theorem masked_succ (n : ℕ) : masked r (n + 1) = masked r n ++
    if r.isSet n then [(r.offset.toNat + n, r.pattern (setCount r n))] else [] := by
  unfold masked
  rw [List.range_succ, List.filter_append, List.map_append]
  cases h : r.isSet n <;> simp [h]

theorem length_masked (n : ℕ) : (masked r n).length = setCount r n := by
  induction n with
  | zero => rfl
  | succ n ih =>
    rw [masked_succ, List.length_append, ih, setCount_succ]
    split <;> rfl

namespace FieldPattern

theorem length_selects (f : FieldPattern) : f.selects.length = f.length := List.length_mapIdx

/-- One more byte is compared. -/
def push (f : FieldPattern) (b : UInt8) : FieldPattern := { f with pattern := f.pattern ++ [b] }

@[simp] theorem start_push (f : FieldPattern) (b : UInt8) : (f.push b).start = f.start := rfl

@[simp] theorem stop_push (f : FieldPattern) (b : UInt8) : (f.push b).stop = f.stop + 1 := by
  rw [stop, stop, start_push, Nat.add_assoc]
  simp [length, push]

theorem selects_push (f : FieldPattern) (b : UInt8) :
    (f.push b).selects = f.selects ++ [(f.stop, b)] := by
  rw [selects, start_push]
  exact List.mapIdx_concat

theorem Valid.push (h : f.Valid) {b : UInt8} (hs : f.stop ≠ ethernetHeaderBoundary) :
    (f.push b).Valid where
  flag := h.flag
  nonempty := by simp [FieldPattern.push]
  header he := by
    have := h.header he
    rw [stop_push]
    omega

theorem Valid.length_encode (h : f.Valid) : f.encode.length = 4 + f.length := by
  have hm : (f.flag &&& flagUseBitMask == flagUseBitMask) = false := by
    rcases h.flag with h | h <;> rw [h] <;> rfl
  simp only [encode, hm, length, List.length_append, List.length_cons]
  simp [Nat.add_comm]

end FieldPattern

theorem start_newFieldPattern (n : ℕ) (f : FieldPattern) :
    (newFieldPattern r n f).start = r.offset.toNat + n := by
  unfold newFieldPattern FieldPattern.start FieldPattern.Ethernet
  dsimp only
  split
  · rfl
  next h =>
    have hne : (flagNoBitMask ||| flagIpHeader : UInt8) ≠ flagEthernetHeader := by decide
    rw [if_neg hne]
    dsimp only
    omega

theorem pattern_newFieldPattern (n : ℕ) (f : FieldPattern) :
    (newFieldPattern r n f).pattern = [] := by
  unfold newFieldPattern
  dsimp only
  split <;> rfl

theorem stop_newFieldPattern (n : ℕ) (f : FieldPattern) :
    (newFieldPattern r n f).stop = r.offset.toNat + n := by
  rw [FieldPattern.stop, FieldPattern.length, pattern_newFieldPattern, start_newFieldPattern]
  rfl

theorem valid_newFieldPattern (n : ℕ) (f : FieldPattern) (b : UInt8) :
    ((newFieldPattern r n f).push b).Valid where
  flag := by
    unfold newFieldPattern
    dsimp only
    split
    · exact .inl rfl
    · exact .inr rfl
  nonempty := by simp [FieldPattern.push]
  header he := by
    rw [FieldPattern.stop_push, stop_newFieldPattern]
    by_contra hlt
    unfold newFieldPattern FieldPattern.Ethernet at he
    rw [if_neg (by omega)] at he
    have hne : (flagNoBitMask ||| flagIpHeader : UInt8) ≠ flagEthernetHeader := by decide
    exact hne he

theorem length_flatMap_encode (hv : ∀ f ∈ F, f.Valid) :
    (F.flatMap FieldPattern.encode).length =
      4 * F.length + (F.flatMap FieldPattern.selects).length := by
  induction F with
  | nil => rfl
  | cons f F ih =>
    have ih := ih fun g hg => hv g (List.mem_cons_of_mem _ hg)
    have hf := (hv f List.mem_cons_self).length_encode
    simp only [List.flatMap_cons, List.length_append, List.length_cons, f.length_selects]
    omega

namespace Fields

theorem out_le (h : Fields r n F) (hle : fieldCount r n ≤ maxFieldPatterns)
    (hn : n ≤ maxPatternSize) : (F.flatMap FieldPattern.encode).length ≤ maxDataFilterSize := by
  have hlen := length_flatMap_encode h.valid
  rw [h.selects, length_masked, h.length] at hlen
  have hc := setCount_le (r := r) n
  unfold maxFieldPatterns at hle
  unfold maxPatternSize at hn
  unfold maxDataFilterSize
  omega

theorem skip (h : Fields r n F) (hs : r.isSet n = false) : Fields r (n + 1) F where
  selects := by rw [h.selects, masked_succ, hs]; simp
  valid := h.valid
  apart := h.apart
  length := by rw [h.length, fieldCount_succ]; simp [fieldStart, hs]
  stop_le f hf := Nat.le_succ_of_le (h.stop_le f hf)

theorem begins (h : Fields r n F) (hs : fieldStart r n = true) (f : FieldPattern)
    (hgap : ∀ g ∈ F, g.Apart (newFieldPattern r n f)) :
    Fields r (n + 1) (F ++ [(newFieldPattern r n f).push (r.pattern (setCount r n))]) where
  selects := by
    have hset : r.isSet n = true := by
      unfold fieldStart at hs
      simp_all
    have hnil : (newFieldPattern r n f).selects = [] := by
      rw [FieldPattern.selects, pattern_newFieldPattern]
      rfl
    rw [List.flatMap_append, h.selects, masked_succ, hset, List.flatMap_singleton,
      FieldPattern.selects_push, hnil, stop_newFieldPattern]
    rfl
  valid g hg := by
    rcases List.mem_append.mp hg with hg | hg
    · exact h.valid g hg
    · rw [List.mem_singleton.mp hg]
      exact valid_newFieldPattern n f _
  apart := by
    refine List.isChain_append.mpr ⟨h.apart, List.isChain_singleton _, ?_⟩
    intro g hg g' hg'
    rw [List.head?_singleton, Option.mem_some_iff] at hg'
    subst hg'
    exact hgap g (List.mem_of_getLast? hg)
  length := by
    rw [List.length_append, h.length, fieldCount_succ, if_pos hs]
    rfl
  stop_le g hg := by
    rcases List.mem_append.mp hg with hg | hg
    · exact Nat.le_succ_of_le (h.stop_le g hg)
    · rw [List.mem_singleton.mp hg, FieldPattern.stop_push, stop_newFieldPattern, Nat.add_assoc]

theorem extend (h : Fields r n (F ++ [f])) (hset : r.isSet n = true) (hs : fieldStart r n = false)
    (hstop : f.stop = r.offset.toNat + n) (hne : r.offset.toNat + n ≠ ethernetHeaderBoundary) :
    Fields r (n + 1) (F ++ [f.push (r.pattern (setCount r n))]) where
  selects := by
    have hsel := h.selects
    rw [List.flatMap_append, List.flatMap_singleton] at hsel
    rw [List.flatMap_append, List.flatMap_singleton, FieldPattern.selects_push, masked_succ, hset,
      ← hsel, hstop, List.append_assoc]
    rfl
  valid g hg := by
    rcases List.mem_append.mp hg with hg | hg
    · exact h.valid g (List.mem_append_left _ hg)
    · rw [List.mem_singleton.mp hg]
      exact (h.valid f (by simp)).push (hstop ▸ hne)
  apart := by
    obtain ⟨hF, -, hlast⟩ := List.isChain_append.mp h.apart
    refine List.isChain_append.mpr ⟨hF, List.isChain_singleton _, ?_⟩
    intro g hg g' hg'
    rw [List.head?_singleton, Option.mem_some_iff] at hg'
    subst hg'
    exact hlast g hg f rfl
  length := by
    have := h.length
    rw [List.length_append] at this ⊢
    rw [fieldCount_succ, if_neg (by simp [hs])]
    exact this
  stop_le g hg := by
    rcases List.mem_append.mp hg with hg | hg
    · exact Nat.le_succ_of_le (h.stop_le g (List.mem_append_left _ hg))
    · rw [List.mem_singleton.mp hg, FieldPattern.stop_push, hstop, Nat.add_assoc]

end Fields

/-! ## A pass of the loop -/

/-- The pattern byte is stored. -/
def Parse.push (r : TRxDataFilterRequest) (p : Parse) : Parse :=
  { p with
    fieldPattern := p.fieldPattern.push (r.pattern p.patternIter)
    stores := p.stores ++ [p.fieldPattern.length]
    reads := p.reads ++ [p.patternIter]
    patternIter := p.patternIter + 1 }

/-- The field that is being built is closed. -/
def Parse.settle (p : Parse) : Parse :=
  if p.isBuildingFieldPattern then closeFieldPattern p else p

/-- The closed fields, and the one that is being built. -/
def Parse.fields (p : Parse) (F : List FieldPattern) : List FieldPattern :=
  if p.isBuildingFieldPattern then F ++ [p.fieldPattern] else F

/-- The parse stays inside its buffers. -/
structure Bounds (p : Parse) : Prop where
  stores : ∀ k ∈ p.stores, k < maxPatternSize
  out : p.fieldPatterns.length ≤ maxDataFilterSize

/-- What holds when the first bits are done; `F` are the closed fields. -/
structure Inv (r : TRxDataFilterRequest) (n : ℕ) (p : Parse) (F : List FieldPattern) : Prop where
  iter : p.patternIter = setCount r n
  reads : p.reads = List.range (setCount r n)
  stores : ∀ k ∈ p.stores, k < maxPatternSize
  out : p.fieldPatterns = F.flatMap FieldPattern.encode
  num : p.numFieldPatterns = fieldCount r n
  le : fieldCount r n ≤ maxFieldPatterns
  fields : Fields r n (p.fields F)
  building : p.isBuildingFieldPattern = (n != 0 && r.isSet (n - 1))
  current : p.isBuildingFieldPattern = true →
    p.fieldPattern.stop = r.offset.toNat + n ∧ p.fieldPattern.length ≤ n
  gap : p.isBuildingFieldPattern = false → ∀ f ∈ F, f.stop < r.offset.toNat + n
  near : ∀ j < n, ¬ Beyond r j

/-- **The bits that end the parse**, by its three checks. -/
def Bad (r : TRxDataFilterRequest) (n : ℕ) : Prop :=
  r.isSet n = true ∧ (maxFieldPatterns < fieldCount r (n + 1) ∨
    r.patternLength.toNat < setCount r n ∨ Beyond r n)

/-- How many bytes of the pattern are read when a bit is done. -/
def readsAt (r : TRxDataFilterRequest) (n : ℕ) : ℕ :=
  setCount r n + if r.isSet n = true ∧ fieldCount r (n + 1) ≤ maxFieldPatterns ∧
    setCount r n ≤ r.patternLength.toNat then 1 else 0

/-- What a pass over a bit can end with. -/
inductive Outcome (r : TRxDataFilterRequest) (n : ℕ) : Except Parse Parse → Prop
  | ok (p : Parse) (F : List FieldPattern) : ¬ Bad r n → Inv r (n + 1) p F → Outcome r n (.ok p)
  | error (p : Parse) :
    Bad r n → p.reads = List.range (readsAt r n) → Bounds p → Outcome r n (.error p)

theorem Fields.bounds (h : Fields r n F) (hle : fieldCount r n ≤ maxFieldPatterns)
    (hn : n ≤ maxPatternSize) {G : List FieldPattern} (hG : G <+: F)
    (hs : ∀ k ∈ p.stores, k < maxPatternSize)
    (hp : p.fieldPatterns = G.flatMap FieldPattern.encode) : Bounds p where
  stores := hs
  out := by
    obtain ⟨H, rfl⟩ := hG
    have hF := h.out_le hle hn
    rw [List.flatMap_append, List.length_append] at hF
    rw [hp]
    omega

/-- The pattern is about to be read for a masked byte of the field that is being built. -/
structure Adds (r : TRxDataFilterRequest) (n : ℕ) (q : Parse) (F : List FieldPattern) : Prop where
  set : r.isSet n = true
  iter : q.patternIter = setCount r n
  reads : q.reads = List.range (setCount r n)
  stores : ∀ k ∈ q.stores, k < maxPatternSize
  out : q.fieldPatterns = F.flatMap FieldPattern.encode
  num : q.numFieldPatterns = fieldCount r (n + 1)
  le : fieldCount r (n + 1) ≤ maxFieldPatterns
  fields : Fields r (n + 1) (F ++ [q.fieldPattern.push (r.pattern (setCount r n))])
  building : q.isBuildingFieldPattern = true
  stop : q.fieldPattern.stop = r.offset.toNat + n
  length : q.fieldPattern.length ≤ n
  near : ∀ j < n, ¬ Beyond r j

theorem addPatternByte_eq (r : TRxDataFilterRequest) (p : Parse) : addPatternByte r p =
    if r.patternLength.toNat < p.patternIter then .error p
    else if filterBoundary ≤ (p.push r).fieldPattern.offset + (p.push r).fieldPattern.length then
      .error (p.push r)
    else .ok (p.push r) := rfl

theorem FieldPattern.Valid.boundary (h : f.Valid) (hs : f.stop = r.offset.toNat + n + 1)
    (hset : r.isSet n = true) : filterBoundary ≤ f.offset + f.length ↔ Beyond r n := by
  have hlen : f.stop = f.start + f.length := rfl
  unfold Beyond filterBoundary ethernetHeaderBoundary
  by_cases he : f.Ethernet
  · have hh := h.header he
    rw [FieldPattern.start, if_pos he] at hlen
    unfold ethernetHeaderBoundary at hh
    constructor
    · intro
      omega
    · rintro ⟨-, hb⟩
      omega
  · rw [FieldPattern.start, if_neg he] at hlen
    unfold ethernetHeaderBoundary at hlen
    constructor
    · intro hb
      exact ⟨hset, by omega⟩
    · rintro ⟨-, hb⟩
      omega

namespace Adds

variable {q : Parse}

theorem reads_push (h : Adds r n q F) (hle : setCount r n ≤ r.patternLength.toNat) :
    (q.push r).reads = List.range (readsAt r n) := by
  rw [readsAt, if_pos ⟨h.set, h.le, hle⟩, List.range_succ, ← h.reads, ← h.iter]
  rfl

theorem stores_push (h : Adds r n q F) (hn : n < maxPatternSize) :
    ∀ k ∈ (q.push r).stores, k < maxPatternSize := by
  intro k hk
  rcases List.mem_append.mp hk with hk | hk
  · exact h.stores k hk
  · rw [List.mem_singleton.mp hk]
    exact Nat.lt_of_le_of_lt h.length hn

theorem bounds (h : Adds r n q F) (hn : n < maxPatternSize) : Bounds q :=
  h.fields.bounds h.le hn (List.prefix_append F _) h.stores h.out

theorem bounds_push (h : Adds r n q F) (hn : n < maxPatternSize) : Bounds (q.push r) :=
  h.fields.bounds h.le hn (List.prefix_append F _) (h.stores_push hn) h.out

theorem inv (h : Adds r n q F) (hn : n < maxPatternSize)
    (hle : setCount r n ≤ r.patternLength.toNat) (hb : ¬ Beyond r n) :
    Inv r (n + 1) (q.push r) F where
  iter := by
    rw [setCount_succ, if_pos h.set, ← h.iter]
    rfl
  reads := by
    rw [h.reads_push hle, readsAt, if_pos ⟨h.set, h.le, hle⟩, setCount_succ, if_pos h.set]
  stores := h.stores_push hn
  out := h.out
  num := h.num
  le := h.le
  fields := by
    have hf : (q.push r).fields F = F ++ [q.fieldPattern.push (r.pattern (setCount r n))] := by
      rw [Parse.fields, if_pos (show (q.push r).isBuildingFieldPattern = true from h.building),
        ← h.iter]
      rfl
    rw [hf]
    exact h.fields
  building := by
    rw [show (q.push r).isBuildingFieldPattern = true from h.building]
    simp [h.set]
  current _ := by
    have hlen := h.length
    constructor
    · rw [show (q.push r).fieldPattern = q.fieldPattern.push _ from rfl,
        FieldPattern.stop_push, h.stop, Nat.add_assoc]
    · simp only [FieldPattern.length, Parse.push, FieldPattern.push, List.length_append] at hlen ⊢
      simpa using hlen
  gap hf := by
    rw [show (q.push r).isBuildingFieldPattern = true from h.building] at hf
    cases hf
  near j hj := by
    rcases Nat.lt_succ_iff_lt_or_eq.mp hj with hj | rfl
    · exact h.near j hj
    · exact hb

theorem outcome (h : Adds r n q F) (hn : n < maxPatternSize) :
    Outcome r n (addPatternByte r q) := by
  rw [addPatternByte_eq, h.iter]
  by_cases hle : r.patternLength.toNat < setCount r n
  · rw [if_pos hle]
    refine .error q ⟨h.set, .inr (.inl hle)⟩ ?_ (h.bounds hn)
    rw [h.reads, readsAt, if_neg (by omega)]
    rfl
  rw [if_neg hle]
  have hle := Nat.le_of_not_lt hle
  have hv : (q.push r).fieldPattern.Valid :=
    h.fields.valid _ (by rw [← h.iter]; exact List.mem_append_right _ (List.mem_singleton_self _))
  have hstop : (q.push r).fieldPattern.stop = r.offset.toNat + n + 1 := by
    rw [show (q.push r).fieldPattern = q.fieldPattern.push _ from rfl,
      FieldPattern.stop_push, h.stop]
  have hbound := hv.boundary hstop h.set
  by_cases hb : Beyond r n
  · rw [if_pos (hbound.mpr hb)]
    exact .error _ ⟨h.set, .inr (.inr hb)⟩ (h.reads_push hle) (h.bounds_push hn)
  · rw [if_neg (hb ∘ hbound.mp)]
    refine .ok _ F ?_ (h.inv hn hle hb)
    rintro ⟨-, hbad | hbad | hbad⟩
    · exact absurd h.le (Nat.not_le.mpr hbad)
    · exact absurd hle (Nat.not_le.mpr hbad)
    · exact hb hbad

end Adds

namespace Inv

theorem isBuilding_settle (p : Parse) : p.settle.isBuildingFieldPattern = false := by
  unfold Parse.settle
  split
  · rfl
  next h => exact Bool.eq_false_iff.mpr h

theorem out_settle (h : Inv r n p F) :
    p.settle.fieldPatterns = (p.fields F).flatMap FieldPattern.encode := by
  unfold Parse.settle Parse.fields
  split
  · rw [List.flatMap_append, List.flatMap_singleton, ← h.out]
    rfl
  · exact h.out

theorem iter_settle (h : Inv r n p F) : p.settle.patternIter = setCount r n := by
  unfold Parse.settle
  split <;> exact h.iter

theorem reads_settle (h : Inv r n p F) : p.settle.reads = List.range (setCount r n) := by
  unfold Parse.settle
  split <;> exact h.reads

theorem stores_settle (h : Inv r n p F) : ∀ k ∈ p.settle.stores, k < maxPatternSize := by
  unfold Parse.settle
  split <;> exact h.stores

theorem num_settle (h : Inv r n p F) : p.settle.numFieldPatterns = fieldCount r n := by
  unfold Parse.settle
  split <;> exact h.num

theorem fieldStart_eq (h : Inv r n p F) : fieldStart r n =
    (r.isSet n && (!p.isBuildingFieldPattern || r.offset.toNat + n == ethernetHeaderBoundary)) := by
  rw [h.building, fieldStart]
  cases n with
  | zero => rfl
  | succ n => simp

theorem begin_cases (h : Inv r n p F) (hs : fieldStart r n = true) : r.isSet n = true ∧
    (p.isBuildingFieldPattern = false ∨ r.offset.toNat + n = ethernetHeaderBoundary) := by
  rw [h.fieldStart_eq, Bool.and_eq_true, Bool.or_eq_true] at hs
  obtain ⟨hset, hb | hb⟩ := hs
  · exact ⟨hset, .inl (by simpa using hb)⟩
  · exact ⟨hset, .inr (by simpa using hb)⟩

theorem parseBit_skip (h : Inv r n p F) (hs : r.isSet n = false) :
    Outcome r n (parseBit r n p) := by
  have hpass : parseBit r n p = .ok p.settle := by
    unfold parseBit Parse.settle
    simp [hs]
  rw [hpass]
  refine .ok _ (p.fields F) (fun hbad => absurd hbad.1 (by simp [hs])) ?_
  have hfields : p.settle.fields (p.fields F) = p.fields F := by
    rw [Parse.fields, if_neg (by simp [isBuilding_settle])]
  have hset : setCount r (n + 1) = setCount r n := by rw [setCount_succ, hs]; rfl
  have hcount : fieldCount r (n + 1) = fieldCount r n := by
    rw [fieldCount_succ, fieldStart, hs]
    rfl
  exact
    { iter := by rw [h.iter_settle, hset]
      reads := by rw [h.reads_settle, hset]
      stores := h.stores_settle
      out := h.out_settle
      num := by rw [h.num_settle, hcount]
      le := by rw [hcount]; exact h.le
      fields := by rw [hfields]; exact h.fields.skip hs
      building := by simp [isBuilding_settle, hs]
      current := fun hb => by simp [isBuilding_settle] at hb
      gap := fun _ f hf => Nat.lt_succ_of_le (h.fields.stop_le f hf)
      near := by
        intro j hj hb
        rcases Nat.lt_succ_iff_lt_or_eq.mp hj with hj | rfl
        · exact h.near j hj hb
        · simp [Beyond, hs] at hb }

theorem parseBit_extend (h : Inv r n p F) (hn : n < maxPatternSize) (hset : r.isSet n = true)
    (hs : fieldStart r n = false) : Outcome r n (parseBit r n p) := by
  have heq := h.fieldStart_eq
  rw [hs, hset, Bool.true_and] at heq
  obtain ⟨hb, hne⟩ := Bool.or_eq_false_iff.mp heq.symm
  have hb : p.isBuildingFieldPattern = true := by simpa using hb
  have hpass : parseBit r n p = addPatternByte r p := by
    unfold parseBit
    simp [hset, hb, hne]
  have hcount : fieldCount r (n + 1) = fieldCount r n := by rw [fieldCount_succ, hs]; rfl
  have hfields := h.fields
  rw [Parse.fields, if_pos hb] at hfields
  rw [hpass]
  exact Adds.outcome
    { set := hset
      iter := h.iter
      reads := h.reads
      stores := h.stores
      out := h.out
      num := h.num.trans hcount.symm
      le := hcount ▸ h.le
      fields := hfields.extend hset hs (h.current hb).1 (by simpa using hne)
      building := hb
      stop := (h.current hb).1
      length := (h.current hb).2
      near := h.near } hn

theorem apart_new (h : Inv r n p F) (hs : fieldStart r n = true) (f g : FieldPattern)
    (hg : g ∈ p.fields F) : g.Apart (newFieldPattern r n f) := by
  have hle := h.fields.stop_le g hg
  unfold FieldPattern.Apart
  rw [start_newFieldPattern]
  rcases Nat.lt_or_eq_of_le hle with hlt | hstop
  · exact .inl hlt
  · refine .inr ?_
    obtain ⟨-, hb | hbound⟩ := h.begin_cases hs
    · rw [Parse.fields, hb] at hg
      exact absurd hstop (Nat.ne_of_lt (h.gap hb g hg))
    · exact ⟨hstop.trans hbound, hbound⟩

theorem parseBit_begin (h : Inv r n p F) (hn : n < maxPatternSize)
    (hs : fieldStart r n = true) : Outcome r n (parseBit r n p) := by
  obtain ⟨hset, hcases⟩ := h.begin_cases hs
  have hpass : parseBit r n p = createFieldPattern r n p.settle >>= addPatternByte r := by
    unfold parseBit Parse.settle
    cases hb : p.isBuildingFieldPattern with
    | true =>
      have hbound := hcases.resolve_left (by simp [hb])
      simp [hset, hbound, closeFieldPattern]
    | false => simp [hset, hb]
  have hcount : fieldCount r (n + 1) = fieldCount r n + 1 := by rw [fieldCount_succ, if_pos hs]
  rw [hpass, createFieldPattern]
  dsimp only
  rw [h.num_settle, ← hcount]
  by_cases hle : fieldCount r (n + 1) > maxFieldPatterns
  · rw [if_pos hle]
    refine .error _ ⟨hset, .inl hle⟩ ?_ ?_
    · rw [readsAt, if_neg (by omega)]
      exact h.reads_settle
    · exact h.fields.bounds h.le (Nat.le_of_lt hn) (List.prefix_refl _) h.stores_settle h.out_settle
  · rw [if_neg hle]
    refine Adds.outcome (F := p.fields F) ?_ hn
    exact
      { set := hset
        iter := h.iter_settle
        reads := h.reads_settle
        stores := h.stores_settle
        out := h.out_settle
        num := rfl
        le := Nat.le_of_not_lt hle
        fields := h.fields.begins hs _ fun g hg => h.apart_new hs _ g hg
        building := rfl
        stop := stop_newFieldPattern n _
        length := by rw [FieldPattern.length, pattern_newFieldPattern]; exact Nat.zero_le n
        near := h.near }

theorem parseBit_cases (h : Inv r n p F) (hn : n < maxPatternSize) :
    Outcome r n (parseBit r n p) := by
  cases hset : r.isSet n with
  | false => exact h.parseBit_skip hset
  | true =>
    cases hs : fieldStart r n with
    | true => exact h.parseBit_begin hn hs
    | false => exact h.parseBit_extend hn hset hs

end Inv

theorem setCount_mono {m n : ℕ} (h : m ≤ n) : setCount r m ≤ setCount r n := Nat.count_monotone _ h

theorem fieldCount_mono {m n : ℕ} (h : m ≤ n) : fieldCount r m ≤ fieldCount r n :=
  Nat.count_monotone _ h

theorem readsAt_of_good (h : ¬ Bad r n) : readsAt r n = setCount r (n + 1) := by
  rw [readsAt, setCount_succ]
  cases hs : r.isSet n with
  | false => simp
  | true =>
    have hle := Nat.le_of_not_lt fun hlt => h ⟨hs, .inl hlt⟩
    have hle' := Nat.le_of_not_lt fun hlt => h ⟨hs, .inr (.inl hlt)⟩
    rw [if_pos ⟨rfl, hle, hle'⟩, if_pos rfl]

end ArchosGpl.Wlan.RxData
