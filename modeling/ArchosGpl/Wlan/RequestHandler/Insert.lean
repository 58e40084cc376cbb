import ArchosGpl.Lib.Repeat
import Mathlib.Algebra.Group.Nat.Defs
import Mathlib.Logic.Function.Basic

/-!
# The queue of measurement requests (`stad/src/AirLink_Managment/requestHandler.c`)

`requestHandler_insertRequests` takes the elements of a request body one by one and puts them into
`reqArr`, which has `MAX_NUM_REQ` entries.

* The body starts at offset `0` of the memory; what lies behind its `requestsLen` bytes is
  arbitrary. A write behind the last entry of `reqArr` is kept as an entry with that index.
* The parser of the header is a parameter: how many bytes it reads, the length of the header and the
  token. `dot11hParseRequestIEHdr` is the one for 802.11h.

**`insertRequests_right_iff`**: the call returns, reads only inside the body, writes only inside the
array, advances by the size of each element and leaves no request behind on a failure exactly if the
body `Fits`: an element that is ignored is as long as the last one that was inserted, every other
one is inside the body and shorter than 256, and there is room.
-/

namespace ArchosGpl.Wlan.RequestHandler

open Lib

abbrev maxNumReq : ℕ := 16

abbrev dot11MeasurementRequestEleId : UInt8 := 38

abbrev dot11hRequestIeLen : UInt8 := 7

abbrev dot11hRequestIeHdrLen : UInt16 := 3

/-- `TI_OK` and `TI_NOK`. -/
inductive Status
  | ok
  | nok
  deriving DecidableEq, Repr

structure MeasurementRequest where
  type : UInt8
  isParallel : Bool
  frameToken : UInt16
  measurementToken : UInt16
  channelNumber : UInt8
  DurationTime : UInt16
  ActualDurationTime : UInt8
  ScanMode : UInt8
  deriving DecidableEq, Repr

/-- An entry after `os_memoryZero`. -/
def MeasurementRequest.zero : MeasurementRequest := ⟨0, false, 0, 0, 0, 0, 0, 0⟩

structure RequestHandlerT where
  reqArr : ℕ → MeasurementRequest
  numOfWaitingRequests : UInt8
  activeRequestID : ℤ

/-- `parserRequestIEHdr_t`: the bytes it reads, and `reqestLen` and `measurementToken` if it
succeeds. -/
abbrev Parser : Type := (ℕ → UInt8) → ℕ × Option (UInt16 × UInt16)

def dot11hParseRequestIEHdr : Parser := fun pData =>
  if pData 0 ≠ dot11MeasurementRequestEleId then (1, none)
  else if pData 1 ≠ dot11hRequestIeLen then (2, none)
  else (3, some (dot11hRequestIeHdrLen, (pData 2).toUInt16))

/-- What happened for one element. -/
structure Access where
  /-- The offsets in the body that were read. -/
  reads : List ℕ
  /-- The entry of `reqArr` that was written. -/
  write : Option ℕ
  /-- `HeaderLen` -/
  headerLen : Option ℕ
  /-- By how much the loop went on. -/
  advance : ℕ
  deriving DecidableEq, Repr

def clearRequests : RequestHandlerT where
  reqArr := fun _ => .zero
  numOfWaitingRequests := 0
  activeRequestID := -1

def word (lo hi : UInt8) : UInt16 := lo.toUInt16 + hi.toUInt16 <<< 8

/-- `insertMeasurementIEToQueue` behind the call of the parser: the object and
`singelRequestLen`. -/
def insertMeasurementIEToQueue (q : RequestHandlerT) (frameToken measurementToken : UInt16)
    (pData : ℕ → UInt8) (singelRequestLen : UInt8) (HeaderLen : ℕ) : RequestHandlerT × UInt8 :=
  let num := q.numOfWaitingRequests.toNat
  let pCurrRequest := { q.reqArr num with frameToken, measurementToken }
  let measurementMode := pData HeaderLen
  -- "the current implementation does not support enable bit which set to one"
  if (measurementMode &&& 0x2) >>> 1 = 1 then
    ({ q with reqArr := Function.update q.reqArr num pCurrRequest }, singelRequestLen)
  else
    ({ q with
        reqArr := Function.update q.reqArr num
          { pCurrRequest with
            isParallel := measurementMode &&& 0x1 = 1
            type := pData (HeaderLen + 1)
            channelNumber := pData (HeaderLen + 2)
            ScanMode := pData (HeaderLen + 3)
            DurationTime := word (pData (HeaderLen + 4)) (pData (HeaderLen + 5)) }
        numOfWaitingRequests := q.numOfWaitingRequests + 1 },
      .ofNat (HeaderLen + 6))

/-- The enable bit of an element. -/
def Ignored (pData : ℕ → UInt8) (HeaderLen : ℕ) : Prop := (pData HeaderLen &&& 0x2) >>> 1 = 1

instance (pData : ℕ → UInt8) (HeaderLen : ℕ) : Decidable (Ignored pData HeaderLen) :=
  inferInstanceAs (Decidable (_ = _))

/-- The bytes of an element that are read behind its header. -/
def readsOf (pData : ℕ → UInt8) (HeaderLen : ℕ) : List ℕ :=
  (List.range (if Ignored pData HeaderLen then 1 else 6)).map (HeaderLen + ·)

/-- The variables of the loop, and what happened so far. -/
structure Vars where
  requestsLen : ℤ
  requests : ℕ
  singelRequestLen : UInt8
  q : RequestHandlerT
  log : List Access

/-- A pass of the loop of `requestHandler_insertRequests`. -/
def pass (parserRequestIEHdr : Parser) (dialogToken : UInt16) (mem : ℕ → UInt8) (s : Vars) :
    Pass (Status × Vars) Vars :=
  if 0 < s.requestsLen then
    let pData := fun i => mem (s.requests + i)
    let (n, parsed) := parserRequestIEHdr pData
    match parsed with
    | none =>
      .exit (.nok,
        { s with
          q := clearRequests
          log := s.log ++ [⟨(List.range n).map (s.requests + ·), none, none, 0⟩] })
    | some (HeaderLen, measurementToken) =>
      let (q, singelRequestLen) :=
        insertMeasurementIEToQueue s.q dialogToken measurementToken pData s.singelRequestLen
          HeaderLen.toNat
      .next
        { requestsLen := s.requestsLen - singelRequestLen.toNat
          requests := s.requests + singelRequestLen.toNat
          singelRequestLen := singelRequestLen
          q := q
          log := s.log ++
            [{  reads := (List.range n ++ readsOf pData HeaderLen.toNat).map (s.requests + ·)
                write := some s.q.numOfWaitingRequests.toNat
                headerLen := some HeaderLen.toNat
                advance := singelRequestLen.toNat }] }
  else .exit (.ok, { s with q := { s.q with activeRequestID := 0 } })

/-- The call `requestHandler_insertRequests` returns with that result. -/
def InsertRequests (parserRequestIEHdr : Parser) (dialogToken : UInt16) (mem : ℕ → UInt8)
    (requestsLen : ℤ) (q : RequestHandlerT) (r : Status × Vars) : Prop :=
  if requestsLen < 2 then r = (.nok, ⟨requestsLen, 0, 0, q, []⟩)
  else Returns (pass parserRequestIEHdr dialogToken mem) ⟨requestsLen, 0, 0, q, []⟩ r

/-! ## The promise -/

/-- What has to hold for each element. -/
structure Access.Right (requestsLen : ℤ) (a : Access) : Prop where
  reads : ∀ o ∈ a.reads, (o : ℤ) < requestsLen
  write : ∀ w ∈ a.write, w < maxNumReq
  advance : ∀ h ∈ a.headerLen, a.advance = h + 6

/-- What has to hold at the end. -/
structure ResultRight (requestsLen : ℤ) (r : Status × Vars) : Prop where
  log : ∀ a ∈ r.2.log, a.Right requestsLen
  failed : r.1 = .nok → r.2.q.numOfWaitingRequests = 0

/-- **The bodies that are inserted rightly**, from an offset on, after an element of that length,
with so many requests in the queue. -/
inductive Fits (parse : Parser) (mem : ℕ → UInt8) (requestsLen : ℤ) : ℕ → UInt8 → UInt8 → Prop
  /-- The body ends. -/
  | done {o : ℕ} {prev n : UInt8} (hend : requestsLen ≤ o) : Fits parse mem requestsLen o prev n
  /-- The parser refuses the header, and reads nothing behind the body. -/
  | failed {o : ℕ} {prev n : UInt8} (hmore : (o : ℤ) < requestsLen)
    (hparse : (parse fun i => mem (o + i)).2 = none)
    (hreads : o + (parse fun i => mem (o + i)).1 ≤ requestsLen) :
    Fits parse mem requestsLen o prev n
  /-- An element with the enable bit is as long as the one before it. -/
  | ignored {o : ℕ} {prev n : UInt8} {HeaderLen measurementToken : UInt16}
    (hmore : (o : ℤ) < requestsLen)
    (hparse : (parse fun i => mem (o + i)).2 = some (HeaderLen, measurementToken))
    (hreads : o + (parse fun i => mem (o + i)).1 ≤ requestsLen)
    (henable : Ignored (fun i => mem (o + i)) HeaderLen.toNat)
    (hmode : o + HeaderLen.toNat < requestsLen) (hroom : n.toNat < maxNumReq)
    (hprev : prev.toNat = HeaderLen.toNat + 6)
    (hrest : Fits parse mem requestsLen (o + (HeaderLen.toNat + 6)) prev n) :
    Fits parse mem requestsLen o prev n
  /-- Another element is inside the body and shorter than 256. -/
  | request {o : ℕ} {prev n : UInt8} {HeaderLen measurementToken : UInt16}
    (hmore : (o : ℤ) < requestsLen)
    (hparse : (parse fun i => mem (o + i)).2 = some (HeaderLen, measurementToken))
    (hreads : o + (parse fun i => mem (o + i)).1 ≤ requestsLen)
    (henable : ¬ Ignored (fun i => mem (o + i)) HeaderLen.toNat)
    (hinside : o + (HeaderLen.toNat + 6) ≤ requestsLen) (hroom : n.toNat < maxNumReq)
    (hshort : HeaderLen.toNat + 6 < 2 ^ 8)
    (hrest : Fits parse mem requestsLen (o + (HeaderLen.toNat + 6)) (.ofNat (HeaderLen.toNat + 6))
      (n + 1)) :
    Fits parse mem requestsLen o prev n

/-! ## The passes -/

variable {parse : Parser} {token : UInt16} {mem : ℕ → UInt8} {requestsLen : ℤ} {s t : Vars}
  {r : Status × Vars} {HeaderLen measurementToken : UInt16}

/-- The access to an element whose header is refused. -/
def refused (parse : Parser) (mem : ℕ → UInt8) (o : ℕ) : Access where
  reads := (List.range (parse fun i => mem (o + i)).1).map (o + ·)
  write := none
  headerLen := none
  advance := 0

/-- The access to an element with that header, in a pass that goes on by `n`. -/
def parsed (parse : Parser) (mem : ℕ → UInt8) (s : Vars) (HeaderLen : ℕ) (n : UInt8) : Access where
  reads := (List.range (parse fun i => mem (s.requests + i)).1 ++
    readsOf (fun i => mem (s.requests + i)) HeaderLen).map (s.requests + ·)
  write := some s.q.numOfWaitingRequests.toNat
  headerLen := some HeaderLen
  advance := n.toNat

theorem pass_done (h : s.requestsLen ≤ 0) :
    pass parse token mem s = .exit (.ok, { s with q := { s.q with activeRequestID := 0 } }) :=
  if_neg (by omega)

theorem pass_failed (h : 0 < s.requestsLen)
    (hparse : (parse fun i => mem (s.requests + i)).2 = none) :
    pass parse token mem s =
      .exit (.nok,
        { s with
          q := clearRequests
          log := s.log ++ [refused parse mem s.requests] }) := by
  unfold pass
  rw [if_pos h]
  dsimp only
  rw [hparse]
  rfl

theorem insert_ignored (q : RequestHandlerT) {pData : ℕ → UInt8} {h : ℕ}
    (henable : Ignored pData h) (token token' : UInt16) (prev : UInt8) :
    ∃ q', q'.numOfWaitingRequests = q.numOfWaitingRequests ∧
      insertMeasurementIEToQueue q token token' pData prev h = (q', prev) := by
  refine ⟨_, ?_, if_pos henable⟩
  rfl

theorem insert_request (q : RequestHandlerT) {pData : ℕ → UInt8} {h : ℕ}
    (henable : ¬ Ignored pData h) (token token' : UInt16) (prev : UInt8) :
    ∃ q', q'.numOfWaitingRequests = q.numOfWaitingRequests + 1 ∧
      insertMeasurementIEToQueue q token token' pData prev h = (q', .ofNat (h + 6)) := by
  refine ⟨_, ?_, if_neg henable⟩
  rfl

/-- The variables after an element that was parsed. -/
def after (parse : Parser) (mem : ℕ → UInt8) (s : Vars) (HeaderLen : ℕ) (q : RequestHandlerT)
    (n : UInt8) : Vars where
  requestsLen := s.requestsLen - n.toNat
  requests := s.requests + n.toNat
  singelRequestLen := n
  q := q
  log := s.log ++ [parsed parse mem s HeaderLen n]

theorem pass_ignored (token : UInt16) (h : 0 < s.requestsLen)
    (hparse : (parse fun i => mem (s.requests + i)).2 = some (HeaderLen, measurementToken))
    (henable : Ignored (fun i => mem (s.requests + i)) HeaderLen.toNat) :
    ∃ q, q.numOfWaitingRequests = s.q.numOfWaitingRequests ∧
      pass parse token mem s =
        .next (after parse mem s HeaderLen.toNat q s.singelRequestLen) := by
  obtain ⟨q, hq, heq⟩ := insert_ignored s.q henable token measurementToken
    s.singelRequestLen
  refine ⟨q, hq, ?_⟩
  unfold pass
  rw [if_pos h]
  dsimp only
  rw [hparse]
  dsimp only
  rw [heq]
  rfl

theorem pass_request (token : UInt16) (h : 0 < s.requestsLen)
    (hparse : (parse fun i => mem (s.requests + i)).2 = some (HeaderLen, measurementToken))
    (henable : ¬ Ignored (fun i => mem (s.requests + i)) HeaderLen.toNat) :
    ∃ q, q.numOfWaitingRequests = s.q.numOfWaitingRequests + 1 ∧
      pass parse token mem s =
        .next (after parse mem s HeaderLen.toNat q (.ofNat (HeaderLen.toNat + 6))) := by
  obtain ⟨q, hq, heq⟩ := insert_request s.q henable token measurementToken
    s.singelRequestLen
  refine ⟨q, hq, ?_⟩
  unfold pass
  rw [if_pos h]
  dsimp only
  rw [hparse]
  dsimp only
  rw [heq]
  rfl

theorem after_requestsLen (parse : Parser) (h : ℕ) (q : RequestHandlerT) (n : UInt8)
    (hlen : s.requestsLen = requestsLen - s.requests) :
    (after parse mem s h q n).requestsLen =
      requestsLen - (after parse mem s h q n).requests := by
  change s.requestsLen - n.toNat = requestsLen - ((s.requests + n.toNat : ℕ) : ℤ)
  omega

inductive PassCases (parse : Parser) (token : UInt16) (mem : ℕ → UInt8) (s : Vars) : Prop
  | done (h : s.requestsLen ≤ 0)
    (heq : pass parse token mem s =
      .exit (.ok, { s with q := { s.q with activeRequestID := 0 } }))
  | failed (h : 0 < s.requestsLen) (hparse : (parse fun i => mem (s.requests + i)).2 = none)
    (heq : pass parse token mem s =
      .exit (.nok, { s with q := clearRequests, log := s.log ++ [refused parse mem s.requests] }))
  | ignored (h : 0 < s.requestsLen) (HeaderLen measurementToken : UInt16) (q : RequestHandlerT)
    (hparse : (parse fun i => mem (s.requests + i)).2 = some (HeaderLen, measurementToken))
    (henable : Ignored (fun i => mem (s.requests + i)) HeaderLen.toNat)
    (hq : q.numOfWaitingRequests = s.q.numOfWaitingRequests)
    (heq : pass parse token mem s =
      .next (after parse mem s HeaderLen.toNat q s.singelRequestLen))
  | request (h : 0 < s.requestsLen) (HeaderLen measurementToken : UInt16) (q : RequestHandlerT)
    (hparse : (parse fun i => mem (s.requests + i)).2 = some (HeaderLen, measurementToken))
    (henable : ¬ Ignored (fun i => mem (s.requests + i)) HeaderLen.toNat)
    (hq : q.numOfWaitingRequests = s.q.numOfWaitingRequests + 1)
    (heq : pass parse token mem s =
      .next (after parse mem s HeaderLen.toNat q (.ofNat (HeaderLen.toNat + 6))))

theorem pass_cases (parse : Parser) (token : UInt16) (mem : ℕ → UInt8) (s : Vars) :
    PassCases parse token mem s := by
  by_cases h : 0 < s.requestsLen
  · cases hparse : (parse fun i => mem (s.requests + i)).2 with
    | none => exact .failed h hparse (pass_failed h hparse)
    | some header =>
      obtain ⟨HeaderLen, measurementToken⟩ := header
      by_cases henable : Ignored (fun i => mem (s.requests + i)) HeaderLen.toNat
      · obtain ⟨q, hq, heq⟩ := pass_ignored token h hparse henable
        exact .ignored h HeaderLen measurementToken q hparse henable hq heq
      · obtain ⟨q, hq, heq⟩ := pass_request token h hparse henable
        exact .request h HeaderLen measurementToken q hparse henable hq heq
  · exact .done (by omega) (pass_done (by omega))

theorem log_extends (h : Returns (pass parse token mem) s r) : s.log <+: r.2.log := by
  refine h.rel (R := fun s r => s.log <+: r.2.log) (fun s r hr => ?_) fun s t r ht _ ih => ?_
  · cases pass_cases parse token mem s with
    | done _ heq =>
      injection heq.symm.trans hr with hr
      exact hr ▸ List.prefix_rfl
    | failed _ _ heq =>
      injection heq.symm.trans hr with hr
      exact hr ▸ List.prefix_append _ _
    | ignored _ _ _ _ _ _ _ heq | request _ _ _ _ _ _ _ heq => exact nomatch heq.symm.trans hr
  · cases pass_cases parse token mem s with
    | done _ heq | failed _ _ heq => exact nomatch heq.symm.trans ht
    | ignored _ _ _ _ _ _ _ heq | request _ _ _ _ _ _ _ heq =>
      injection heq.symm.trans ht with ht
      exact (ht ▸ List.prefix_append _ _ : s.log <+: t.log).trans ih

/-! ## The condition -/

theorem range_inside_iff {o n : ℕ} (h : (o : ℤ) < requestsLen ∨ n ≠ 0) :
    (∀ i < n, ((o + i : ℕ) : ℤ) < requestsLen) ↔ o + n ≤ requestsLen := by
  constructor
  · intro hall
    cases n with
    | zero => omega
    | succ n =>
      have := hall n (Nat.lt_succ_self n)
      omega
  · intro hle i hi
    omega

theorem refused_right_iff {o : ℕ} (hmore : (o : ℤ) < requestsLen) :
    (refused parse mem o).Right requestsLen ↔
      o + (parse fun i => mem (o + i)).1 ≤ requestsLen := by
  rw [← range_inside_iff (Or.inl hmore)]
  constructor
  · intro h i hi
    exact h.reads _ (List.mem_map_of_mem (List.mem_range.mpr hi))
  · intro h
    refine ⟨fun a ha => ?_, fun _ hw => (nomatch hw), fun _ hh => (nomatch hh)⟩
    obtain ⟨i, hi, rfl⟩ := List.mem_map.mp ha
    exact h i (List.mem_range.mp hi)

theorem parsed_right_iff {h : ℕ} {n : UInt8} (hmore : (s.requests : ℤ) < requestsLen) :
    (parsed parse mem s h n).Right requestsLen ↔
      (s.requests + (parse fun i => mem (s.requests + i)).1 ≤ requestsLen ∧
        ((s.requests + h : ℕ) : ℤ) +
          (if Ignored (fun i => mem (s.requests + i)) h then 1 else 6 : ℕ) ≤ requestsLen) ∧
        s.q.numOfWaitingRequests.toNat < maxNumReq ∧ n.toNat = h + 6 := by
  rw [← range_inside_iff (Or.inl hmore), ← range_inside_iff (Or.inr (by split <;> decide))]
  constructor
  · intro hr
    refine ⟨⟨fun i hi => ?_, fun i hi => ?_⟩, hr.write _ rfl, hr.advance _ rfl⟩
    · exact hr.reads _ (List.mem_map_of_mem (List.mem_append_left _ (List.mem_range.mpr hi)))
    · rw [Nat.add_assoc]
      exact hr.reads _ (List.mem_map_of_mem
        (List.mem_append_right _ (List.mem_map_of_mem (List.mem_range.mpr hi))))
  · rintro ⟨⟨hparser, hbody⟩, hroom, hlen⟩
    refine ⟨fun a ha => ?_, fun w hw => Option.some.inj hw ▸ hroom,
      fun h' hh => Option.some.inj hh ▸ hlen⟩
    obtain ⟨b, hb, rfl⟩ := List.mem_map.mp ha
    rcases List.mem_append.mp hb with hb | hb
    · exact hparser b (List.mem_range.mp hb)
    · obtain ⟨i, hi, rfl⟩ := List.mem_map.mp hb
      rw [← Nat.add_assoc]
      exact hbody i (List.mem_range.mp hi)

/-- The loop returns with a right result. -/
def LoopRight (parse : Parser) (token : UInt16) (mem : ℕ → UInt8) (requestsLen : ℤ) (s : Vars) :
    Prop :=
  ∃ r, Returns (pass parse token mem) s r ∧ ResultRight requestsLen r

theorem LoopRight.log_right (h : LoopRight parse token mem requestsLen s) :
    ∀ a ∈ s.log, a.Right requestsLen := by
  obtain ⟨r, hr, hright⟩ := h
  have hlog := log_extends hr
  exact fun a ha => hright.log a (hlog.subset ha)

theorem fits_of_loopRight (h : LoopRight parse token mem requestsLen s)
    (hlen : s.requestsLen = requestsLen - s.requests) :
    Fits parse mem requestsLen s.requests s.singelRequestLen s.q.numOfWaitingRequests := by
  obtain ⟨r, hr, hright⟩ := h
  revert hlen hright
  refine hr.rel (R := fun s r =>
    s.requestsLen = requestsLen - s.requests → ResultRight requestsLen r →
    Fits parse mem requestsLen s.requests s.singelRequestLen s.q.numOfWaitingRequests) ?_ ?_
  · intro s r hr hlen hright
    cases pass_cases parse token mem s with
    | done h heq => exact .done (by omega)
    | failed h hparse heq =>
      injection heq.symm.trans hr with hr
      have hmore : (s.requests : ℤ) < requestsLen := by omega
      refine .failed hmore hparse ((refused_right_iff hmore).mp (hright.log _ ?_))
      rw [← hr]
      exact List.mem_append_right _ (List.mem_singleton_self _)
    | ignored _ _ _ _ _ _ _ heq | request _ _ _ _ _ _ _ heq => exact nomatch heq.symm.trans hr
  · intro s t r ht hret ih hlen hright
    cases pass_cases parse token mem s with
    | done _ heq | failed _ _ heq => exact nomatch heq.symm.trans ht
    | ignored h HeaderLen measurementToken q hparse henable hq heq =>
      injection heq.symm.trans ht with ht
      subst ht
      have hmore : (s.requests : ℤ) < requestsLen := by omega
      have hlog : (parsed parse mem s HeaderLen.toNat s.singelRequestLen).Right requestsLen :=
        LoopRight.log_right ⟨r, hret, hright⟩ _
          (List.mem_append_right _ (List.mem_singleton_self _))
      rw [parsed_right_iff hmore, if_pos henable] at hlog
      obtain ⟨⟨hreads, hmode⟩, hroom, hprev⟩ := hlog
      have hrest := ih (after_requestsLen _ _ _ _ hlen) hright
      refine .ignored hmore hparse hreads henable (by omega) hroom hprev ?_
      rw [← hprev, ← hq]
      exact hrest
    | request h HeaderLen measurementToken q hparse henable hq heq =>
      injection heq.symm.trans ht with ht
      subst ht
      have hmore : (s.requests : ℤ) < requestsLen := by omega
      have hlog : (parsed parse mem s HeaderLen.toNat (.ofNat (HeaderLen.toNat + 6))).Right
          requestsLen :=
        LoopRight.log_right ⟨r, hret, hright⟩ _
          (List.mem_append_right _ (List.mem_singleton_self _))
      rw [parsed_right_iff hmore, if_neg henable] at hlog
      obtain ⟨⟨hreads, hinside⟩, hroom, hadvance⟩ := hlog
      have hrest := ih (after_requestsLen _ _ _ _ hlen) hright
      refine .request hmore hparse hreads henable (by omega) hroom ?_ ?_
      · rw [← hadvance]
        exact UInt8.toNat_lt _
      · rw [← hq]
        have heq : (after parse mem s HeaderLen.toNat q (.ofNat (HeaderLen.toNat + 6))).requests =
            s.requests + (HeaderLen.toNat + 6) := congrArg (s.requests + ·) hadvance
        exact heq ▸ hrest

theorem loopRight_of_fits {o : ℕ} {prev n : UInt8} (h : Fits parse mem requestsLen o prev n) :
    ∀ s : Vars, s.requests = o → s.singelRequestLen = prev → s.q.numOfWaitingRequests = n →
      s.requestsLen = requestsLen - s.requests → (∀ a ∈ s.log, a.Right requestsLen) →
      LoopRight parse token mem requestsLen s := by
  induction h with
  | done hend =>
    rintro s rfl rfl rfl hlen hlog
    exact ⟨_, (returns_exit (pass_done (by omega))).mpr rfl, hlog, fun h => nomatch h⟩
  | failed hmore hparse hreads =>
    rintro s rfl rfl rfl hlen hlog
    refine ⟨_, (returns_exit (pass_failed (by omega) hparse)).mpr rfl, fun a ha => ?_, fun _ => rfl⟩
    rcases List.mem_append.mp ha with ha | ha
    · exact hlog a ha
    · rw [List.mem_singleton.mp ha]
      exact (refused_right_iff hmore).mpr hreads
  | ignored hmore hparse hreads henable hmode hroom hprev _ ih =>
    rintro s rfl rfl rfl hlen hlog
    obtain ⟨q, hq, heq⟩ := pass_ignored token (by omega) hparse henable
    refine (exists_congr fun r => and_congr_left' (returns_next heq)).mpr (ih _ ?_ rfl hq ?_ ?_)
    · exact congrArg (s.requests + ·) hprev
    · exact after_requestsLen _ _ _ _ hlen
    · intro a ha
      rcases List.mem_append.mp ha with ha | ha
      · exact hlog a ha
      · rw [List.mem_singleton.mp ha, parsed_right_iff hmore, if_pos henable]
        exact ⟨⟨hreads, by omega⟩, hroom, hprev⟩
  | request hmore hparse hreads henable hinside hroom hshort _ ih =>
    rintro s rfl rfl rfl hlen hlog
    have hadvance := UInt8.toNat_ofNat_of_lt' hshort
    obtain ⟨q, hq, heq⟩ := pass_request token (by omega) hparse henable
    refine (exists_congr fun r => and_congr_left' (returns_next heq)).mpr (ih _ ?_ rfl hq ?_ ?_)
    · exact congrArg (s.requests + ·) hadvance
    · exact after_requestsLen _ _ _ _ hlen
    · intro a ha
      rcases List.mem_append.mp ha with ha | ha
      · exact hlog a ha
      · rw [List.mem_singleton.mp ha, parsed_right_iff hmore, if_neg henable]
        exact ⟨⟨hreads, by omega⟩, hroom, hadvance⟩

/-- **The call does what it has to do exactly if the body fits.** A body below two bytes must meet
an empty queue. -/
theorem insertRequests_right_iff (parse : Parser) (token : UInt16) (mem : ℕ → UInt8)
    (requestsLen : ℤ) (q : RequestHandlerT) :
    (∃ r, InsertRequests parse token mem requestsLen q r ∧ ResultRight requestsLen r) ↔
      if requestsLen < 2 then q.numOfWaitingRequests = 0
      else Fits parse mem requestsLen 0 0 q.numOfWaitingRequests := by
  unfold InsertRequests
  by_cases h : requestsLen < 2
  · simp only [if_pos h]
    constructor
    · rintro ⟨r, rfl, hright⟩
      exact hright.failed rfl
    · intro hq
      exact ⟨_, rfl, fun a ha => (nomatch ha), fun _ => hq⟩
  · simp only [if_neg h]
    constructor
    · intro hr
      exact fits_of_loopRight
        (show LoopRight parse token mem requestsLen ⟨requestsLen, 0, 0, q, []⟩ from hr) (by simp)
    · intro hfits
      exact loopRight_of_fits hfits ⟨requestsLen, 0, 0, q, []⟩ rfl rfl rfl (by simp)
        fun a ha => nomatch ha

section Samples

/-- A request for 802.11h with a measurement mode, and zeros behind it. -/
def dot11hRequest (measurementMode : UInt8) : ℕ → UInt8
  | 0 => dot11MeasurementRequestEleId
  | 1 => dot11hRequestIeLen
  | 3 => measurementMode
  | _ => 0

/-- A body with one request. -/
example : Fits dot11hParseRequestIEHdr (dot11hRequest 0) 9 0 0 0 := by
  have hparse : (dot11hParseRequestIEHdr fun i => dot11hRequest 0 (0 + i)).2 = some (3, 0) := rfl
  exact .request (by decide) hparse (by decide) (by decide) (by decide) (by decide) (by decide)
    (.done (by decide))

/-- A first request with the enable bit keeps the loop where it is. -/
theorem enabled_request_never_returns :
    ¬ ∃ r, InsertRequests dot11hParseRequestIEHdr 0 (dot11hRequest 2) 9 clearRequests r := by
  rintro ⟨r, hr⟩
  rw [InsertRequests, if_neg (by decide)] at hr
  let Stuck (s : Vars) : Prop := s.requestsLen = 9 ∧ s.requests = 0 ∧ s.singelRequestLen = 0
  refine not_returns_of_stuck (P := Stuck) (fun s hs => Or.inr ?_) ⟨rfl, rfl, rfl⟩ hr
  obtain ⟨hlen, ho, hprev⟩ := hs
  have hparse : (dot11hParseRequestIEHdr fun i => dot11hRequest 2 (s.requests + i)).2 =
      some (3, 0) := ho ▸ rfl
  obtain ⟨q, -, heq⟩ := pass_ignored 0 (hlen ▸ by decide) hparse (ho ▸ by decide)
  refine ⟨_, heq, ?_⟩
  simp [Stuck, after, hlen, ho, hprev]

end Samples

end ArchosGpl.Wlan.RequestHandler
