import ArchosGpl.Wlan.AdmCtrlWpa2.IeParsing

/-!
# The candidates for pre-authentication

What a message must be, for which lists it is, and what each loop does to the buffer. The loop over
the list **ends exactly if the parser returns** for every AP of it, and has then added their
candidates. The loop over the cache adds the unmarked entries; **its BSSIDs and its flags are at
different places**.
-/

open Function (update update_of_ne update_self)

namespace ArchosGpl.Wlan.AdmCtrlWpa2

/-!
## Model of the PMKID candidate list (`admCtrlWpa2_buildAndSendPMKIDCandList`)

The list of candidates for pre-authentication is built in a buffer on the stack and sent: first the
listed APs with a valid RSN IE, then the cached ones that were not marked by the first part.
`CandBuffer` is the buffer by its candidates, **with every write by its offset and length in
`memBuff`**; a write behind the end goes to what is there.

The parser has fuel for as many passes as its 8-bit index has values; without a result it never
returns. The allocation may fail, and so may the request for the SSID.
-/

def maxRsnIe : ℕ := 3

def maxNumOfPreAuthBssids : ℕ := 16

def pmkidMaxNumber : ℕ := 16

/-- `sizeof(OS_802_11_PMKID_CANDIDATE)`. -/
def candidateSize : ℕ := 12

/-- The size of `memBuff`: `PMKID_CAND_LIST_MEMBUFF_SIZE` and a word. -/
def memBuffSize : ℕ := 2 * 4 + candidateSize * pmkidMaxNumber + 4

def candidatePreauthEnable : ℕ := 1

structure TBssidRsnInfo where
  bssId : TMacAddr
  pRsnIEs : Option (ℕ → Dot11Rsn)

structure TBssidList4PreAuth where
  bssidList : List TBssidRsnInfo
  numOfItems_le : bssidList.length ≤ maxNumOfPreAuthBssids

@[ext] structure PmkidCandidate where
  bssid : TMacAddr
  flags : ℕ
  deriving DecidableEq

/-- The candidates of `memBuff`, and the writes to it. -/
structure CandBuffer where
  candidateList : ℕ → PmkidCandidate
  writes : List (ℕ × ℕ)

/-- The fields of `admCtrl_t` that this part reads. -/
structure CandCtrl extends AdmCtrl where
  ssid : List UInt8
  preAuthenticate : ℕ → Bool
  wpaAkmExists : Bool
  preAuthTimeout : ℕ

/-- The message that is sent, and the time for which the timer is started. -/
structure CandMessage where
  numCandidates : ℕ
  candidateList : ℕ → PmkidCandidate
  size : ℕ
  writes : List (ℕ × ℕ)
  timer : ℕ

/-- The variables of the loops. -/
structure CandState where
  ctrl : CandCtrl
  buffer : CandBuffer
  candIndex : ℕ
  wpa2Data : Wpa2IeData

namespace CandBuffer

/-- The offset of `CandidateList[k]` in `memBuff`. -/
def candOffset (k : ℕ) : ℕ := 4 + 2 * 4 + candidateSize * k

/-- A word is written to the head of the list. -/
def setHead (b : CandBuffer) (offset : ℕ) : CandBuffer :=
  { b with writes := b.writes ++ [(offset, 4)] }

/-- `MAC_COPY` to `CandidateList[k].BSSID`. -/
def setBssid (b : CandBuffer) (k : ℕ) (bssid : TMacAddr) : CandBuffer where
  candidateList := update b.candidateList k { b.candidateList k with bssid }
  writes := b.writes ++ [(candOffset k, macAddrLen)]

/-- `CandidateList[k].Flags = flags`. -/
def setFlags (b : CandBuffer) (k flags : ℕ) : CandBuffer where
  candidateList := update b.candidateList k { b.candidateList k with flags }
  writes := b.writes ++ [(candOffset k + 8, 4)]

end CandBuffer

def TBssidRsnInfo.rsnIe (ap : TBssidRsnInfo) : Option Dot11Rsn :=
  match ap.pRsnIEs with
  | none => none
  | some pRsnIEs =>
    ((List.range maxRsnIe).find? fun i => (pRsnIEs i).eleId == rsnIeId).map pRsnIEs

namespace CandState

/-- The BSSID is one of the cache: its entry is marked (`admCtrlWpa2_getPreAuthStatus`). -/
def mark (s : CandState) (bssid : TMacAddr) : CandState :=
  match s.ctrl.pmkidCache.findPmkid bssid with
  | some (cacheIndex, _) =>
    { s with ctrl := { s.ctrl with
        preAuthenticate := update s.ctrl.preAuthenticate cacheIndex true } }
  | none => s

/-- A listed AP with a valid RSN IE becomes a candidate. -/
def addListed (s : CandState) (bssid : TMacAddr) (preAuthentication : ℕ) : CandState :=
  let s := s.mark bssid
  let flags :=
    if s.ctrl.preAuthSupport ∧ preAuthentication ≠ 0 then candidatePreauthEnable else 0
  { s with
    buffer := (s.buffer.setBssid s.candIndex bssid).setFlags s.candIndex flags
    candIndex := s.candIndex + 1 }

def listedPass (s : CandState) (ap : TBssidRsnInfo) : Option CandState :=
  match ap.rsnIe with
  | none => some s
  | some rsnIE =>
    match Parse.parseIe rsnIE 256 s.ctrl.wpaAkmExists s.wpa2Data with
    | none => none
    | some (p, status) =>
      let s := { s with
        ctrl := { s.ctrl with wpaAkmExists := p.wpaAkmExists }
        wpa2Data := p.data }
      if status = .ok then some (s.addListed ap.bssId p.data.preAuthentication) else some s

/-- A pass of the loop over the cache. The flags are those of the candidate at the cache index. -/
def cachedPass (s : CandState) (apIndex : ℕ) : CandState :=
  if s.ctrl.preAuthenticate apIndex then s
  else
    { s with
      buffer := (s.buffer.setBssid s.candIndex (s.ctrl.pmkidCache.pmkidTbl apIndex).bssId).setFlags
        apIndex candidatePreauthEnable
      candIndex := s.candIndex + 1 }

end CandState

namespace CandCtrl

/-- The cache is cleaned if it is for another SSID. -/
def checkSsid (a : CandCtrl) (desiredSsid : List UInt8) : CandCtrl :=
  if a.ssid = desiredSsid then a
  else
    { a with
      pmkidCache := .reset
      preAuthenticate := fun _ => false
      ssid := desiredSsid }

def clearMarks (a : CandCtrl) : CandCtrl :=
  { a with preAuthenticate := fun i =>
      if i < a.pmkidCache.entriesNumber then false else a.preAuthenticate i }

/-- The list is built: the version, the listed APs, the cached APs. -/
def buildList (a : CandCtrl) (apList : TBssidList4PreAuth) (mem : ℕ → PmkidCandidate)
    (wpa2Data : Wpa2IeData) : Option CandState :=
  let s : CandState := ⟨a.clearMarks, (CandBuffer.mk mem []).setHead 4, 0, wpa2Data⟩
  (apList.bssidList.foldlM CandState.listedPass s).map fun s =>
    (List.range s.ctrl.pmkidCache.entriesNumber).foldl CandState.cachedPass s

/-- The head is filled in and the message is sent; the size is computed in 8 bits. -/
def send (s : CandState) : CandCtrl × CandMessage :=
  let buffer := ((s.buffer.setHead 8).setHead 0).setHead 8
  ({ s.ctrl with numberOfPreAuthCandidates := s.candIndex },
    { numCandidates := s.candIndex
      candidateList := buffer.candidateList
      size := (candidateSize * s.candIndex + 12) % 2 ^ 8
      writes := buffer.writes
      timer := s.ctrl.preAuthTimeout * s.candIndex })

/-- `admCtrlWpa2_buildAndSendPMKIDCandList`: whether the memory for the parameter is there, what
`sme_GetParam` returns, and what the stack holds are inputs. -/
def buildAndSendPmkidCandList (a : CandCtrl) (allocated : Bool) (desiredSsid : Option (List UInt8))
    (apList : Option TBssidList4PreAuth) (mem : ℕ → PmkidCandidate) (wpa2Data : Wpa2IeData) :
    Option (CandCtrl × Option CandMessage) :=
  match allocated, desiredSsid with
  | true, some desiredSsid =>
    let a := a.checkSsid desiredSsid
    match apList with
    | none => some (a, none)
    | some apList =>
      if apList.bssidList = [] then some (a, none)
      else (a.buildList apList mem wpa2Data).map fun s => ((send s).1, some (send s).2)
  | _, _ => some (a, none)

end CandCtrl

/-! ## What the parser says of an AP -/

namespace Parse

variable {ie : Dot11Rsn} {p : Parse} {b : Bool}

/-- The flag for the 802.1X suite, which the parser only writes. -/
def setAkm (p : Parse) (b : Bool) : Parse := { p with wpaAkmExists := b }

theorem foldl_setAkm {f : Parse → ℕ → Parse} (hf : ∀ p i, f (setAkm p b) i = (f p i).setAkm b)
    (l : List ℕ) (p : Parse) : l.foldl f (p.setAkm b) = (l.foldl f p).setAkm b := by
  induction l generalizing p with
  | nil => rfl
  | cons i l ih => rw [List.foldl_cons, List.foldl_cons, hf, ih]

theorem sortPass_setAkm (p : Parse) (j : ℕ) :
    (p.setAkm b).sortPass j = (p.sortPass j).setAkm b := by
  unfold sortPass
  change (if p.data.unicastSuite (j + 1) < p.data.unicastSuite j then _ else _) = _
  split <;> rfl

theorem sortUnicastSuites_setAkm (p : Parse) :
    (p.setAkm b).sortUnicastSuites = p.sortUnicastSuites.setAkm b := by
  unfold sortUnicastSuites
  change (if 1 < p.data.unicastSuiteCnt then _ else _) = _
  split
  · exact foldl_setAkm (fun p i => foldl_setAkm sortPass_setAkm _ p) _ p
  · rfl

theorem parsePairwise_setAkm (ie : Dot11Rsn) (b : Bool) (fuel : ℕ) (p : Parse) :
    ((p.setAkm b).parsePairwise ie fuel).map (fun r => (r.1.data, r.2)) =
      (p.parsePairwise ie fuel).map fun r => (r.1.data, r.2) := by
  have hloop : ∀ n, (List.range n).foldl (parseUnicastSuite ie)
      ((p.setAkm b).parseUnicastSuiteCnt ie) =
        ((List.range n).foldl (parseUnicastSuite ie) (p.parseUnicastSuiteCnt ie)).setAkm b :=
    fun n => foldl_setAkm (fun _ _ => rfl) _ (p.parseUnicastSuiteCnt ie)
  have hcnt : ((p.setAkm b).parseUnicastSuiteCnt ie).data.unicastSuiteCnt =
      (p.parseUnicastSuiteCnt ie).data.unicastSuiteCnt := rfl
  unfold parsePairwise
  simp only [hcnt, hloop, sortUnicastSuites_setAkm]
  split
  · rfl
  · generalize ((List.range _).foldl (parseUnicastSuite ie) _).sortUnicastSuites = q
    have hoff : (q.setAkm b).dataOffset = q.dataOffset := rfl
    rw [hoff]
    split <;> rfl

end Parse

/-- What the parser returns that is used: the pre-authentication bit of an accepted element. -/
def preAuthOf (r : Parse × TiStatus) : Option ℕ :=
  if r.2 = .ok then some r.1.data.preAuthentication else none

/-- **The result of the parser does not depend on what was there before.** -/
theorem parseIe_preAuthOf (ie : Dot11Rsn) (fuel : ℕ) (akm akm' : Bool) (data data' : Wpa2IeData) :
    (Parse.parseIe ie fuel akm data).map preAuthOf =
      (Parse.parseIe ie fuel akm' data').map preAuthOf := by
  unfold Parse.parseIe
  simp only
  split
  · rfl
  split
  · rfl
  split
  · rfl
  have h := Parse.parsePairwise_setAkm ie akm fuel
    ((Parse.start akm' data').setDefaults.parseGroupSuite ie)
  have hmap : preAuthOf = (fun r : Wpa2IeData × TiStatus =>
      if r.2 = .ok then some r.1.preAuthentication else none) ∘ fun r => (r.1.data, r.2) := rfl
  rw [hmap, ← Option.map_map, ← Option.map_map, ← h]
  rfl

/-- The pre-authentication bit of an element, if it is accepted; none where the parser never
returns. -/
def Dot11Rsn.preAuth (ie : Dot11Rsn) : Option (Option ℕ) :=
  (Parse.parseIe ie 256 false Parse.noData).map preAuthOf

/-! ## What the list must be -/

namespace TBssidRsnInfo

/-- The parser returns for the RSN IE of the AP, if there is one. -/
def Returns (ap : TBssidRsnInfo) : Prop := ∀ ie, ap.rsnIe = some ie → ie.preAuth.isSome

/-- The candidate that a listed AP is, if it has a valid RSN IE. -/
def candidate (preAuthSupport : Bool) (ap : TBssidRsnInfo) : Option PmkidCandidate :=
  match ap.rsnIe.bind Dot11Rsn.preAuth with
  | some (some preAuthentication) =>
    some ⟨ap.bssId,
      if preAuthSupport ∧ preAuthentication ≠ 0 then candidatePreauthEnable else 0⟩
  | _ => none

end TBssidRsnInfo

namespace CandCtrl

variable (a : CandCtrl) (apList : TBssidList4PreAuth)

/-- The candidates of the listed APs with a valid RSN IE. -/
def listed : List PmkidCandidate := apList.bssidList.filterMap (·.candidate a.preAuthSupport)

/-- The entries of the cache that are none of these candidates. -/
def unlisted : List ℕ :=
  (List.range a.pmkidCache.entriesNumber).filter fun i =>
    (a.pmkidCache.pmkidTbl i).bssId ∉ (a.listed apList).map PmkidCandidate.bssid

/-- **What a message must be**: written inside the buffer, of the size of its candidates, and these
are the listed ones and then each cached AP that was not in the list, once, with its flag. -/
structure RightMessage (m : CandMessage) : Prop where
  inside : ∀ w ∈ m.writes, w.1 + w.2 ≤ memBuffSize
  size : m.size = 12 + candidateSize * m.numCandidates
  candidates : ∃ rest : List TMacAddr,
    (List.range m.numCandidates).map m.candidateList =
      a.listed apList ++ rest.map (⟨·, candidatePreauthEnable⟩) ∧
    rest.Nodup ∧ ∀ b, b ∈ rest ↔
      (∃ i < a.pmkidCache.entriesNumber, (a.pmkidCache.pmkidTbl i).bssId = b) ∧
        ∀ ap ∈ apList.bssidList, ap.bssId ≠ b

/-- **What the call must do**, whatever the stack holds: it returns, and sends the right message if
there is a list and the parameter could be read. -/
def SendsRight (allocated : Bool) (desiredSsid : Option (List UInt8))
    (apList : Option TBssidList4PreAuth) : Prop :=
  ∀ (mem : ℕ → PmkidCandidate) (data : Wpa2IeData),
    ∃ a' m, a.buildAndSendPmkidCandList allocated desiredSsid apList mem data = some (a', m) ∧
      ∀ ssid l, allocated = true → desiredSsid = some ssid → apList = some l → l.bssidList ≠ [] →
        ∃ msg, m = some msg ∧ (a.checkSsid ssid).RightMessage l msg

/-- **The lists and caches for which it does**: the parser returns, and the unlisted entries fit
behind the candidates of the list, where their places in the message are their places in the cache.
-/
structure ListFits : Prop where
  returns : ∀ ap ∈ apList.bssidList, ap.Returns
  valid : ∀ i < a.pmkidCache.entriesNumber, ∀ ap ∈ apList.bssidList,
    ap.bssId = (a.pmkidCache.pmkidTbl i).bssId → ∃ c ∈ a.listed apList, c.bssid = ap.bssId
  room : (a.listed apList).length + (a.unlisted apList).length ≤ pmkidMaxNumber
  places : ∀ j < (a.unlisted apList).length,
    (a.listed apList).length + j ∈ a.unlisted apList

end CandCtrl

/-- The entries are distinct and fit into the table. -/
structure PmkidCache.Sound (c : PmkidCache) : Prop where
  count_le : c.entriesNumber ≤ admctrlPmkidCacheSize
  next : c.entriesNumber < admctrlPmkidCacheSize → c.nextFreeEntry = c.entriesNumber
  next_lt : c.nextFreeEntry < admctrlPmkidCacheSize
  distinct : ∀ i < c.entriesNumber, ∀ j < c.entriesNumber,
    (c.pmkidTbl i).bssId = (c.pmkidTbl j).bssId → i = j

/-! ## The buffer -/

namespace CandBuffer

variable {b : CandBuffer} {k j f : ℕ} {x : TMacAddr}

@[simp] theorem bssid_setBssid : ((b.setBssid k x).candidateList j).bssid =
    if j = k then x else (b.candidateList j).bssid := by
  unfold setBssid
  by_cases h : j = k
  · subst h
    simp
  · simp [h]

@[simp] theorem flags_setBssid :
    ((b.setBssid k x).candidateList j).flags = (b.candidateList j).flags := by
  unfold setBssid
  by_cases h : j = k
  · subst h
    simp
  · simp [h]

@[simp] theorem bssid_setFlags :
    ((b.setFlags k f).candidateList j).bssid = (b.candidateList j).bssid := by
  unfold setFlags
  by_cases h : j = k
  · subst h
    simp
  · simp [h]

@[simp] theorem flags_setFlags : ((b.setFlags k f).candidateList j).flags =
    if j = k then f else (b.candidateList j).flags := by
  unfold setFlags
  by_cases h : j = k
  · subst h
    simp
  · simp [h]

end CandBuffer

/-! ## The loop over the list -/

/-- From one state to another, some candidates are added. -/
structure Adds (s t : CandState) (L : List PmkidCandidate) : Prop where
  index : t.candIndex = s.candIndex + L.length
  cache : t.ctrl.pmkidCache = s.ctrl.pmkidCache
  support : t.ctrl.preAuthSupport = s.ctrl.preAuthSupport
  marks : ∀ i, t.ctrl.preAuthenticate i = true ↔ s.ctrl.preAuthenticate i = true ∨
    ∃ c ∈ L, ∃ v, s.ctrl.pmkidCache.findPmkid c.bssid = some (i, v)
  candidates : ∀ j c, L[j]? = some c → t.buffer.candidateList (s.candIndex + j) = c
  frame : ∀ k, k < s.candIndex ∨ s.candIndex + L.length ≤ k →
    t.buffer.candidateList k = s.buffer.candidateList k
  writes : ∀ w ∈ t.buffer.writes, w ∈ s.buffer.writes ∨
    w.1 + w.2 ≤ CandBuffer.candOffset (s.candIndex + L.length)

variable {s t u : CandState} {L L' : List PmkidCandidate}

theorem Adds.of_eq (hc : t.ctrl.pmkidCache = s.ctrl.pmkidCache)
    (hs : t.ctrl.preAuthSupport = s.ctrl.preAuthSupport)
    (hm : t.ctrl.preAuthenticate = s.ctrl.preAuthenticate) (hb : t.buffer = s.buffer)
    (hi : t.candIndex = s.candIndex) : Adds s t [] where
  index := hi
  cache := hc
  support := hs
  marks i := by rw [hm]; simp
  candidates j c h := by simp at h
  frame k _ := by rw [hb]
  writes w hw := .inl (hb ▸ hw)

theorem Adds.trans (h : Adds s t L) (h' : Adds t u L') : Adds s u (L ++ L') where
  index := by rw [h'.index, h.index, List.length_append, Nat.add_assoc]
  cache := h'.cache.trans h.cache
  support := h'.support.trans h.support
  marks i := by
    rw [h'.marks, h.marks, h.cache, or_assoc]
    refine or_congr_right ?_
    simp only [List.mem_append, or_and_right, exists_or]
  candidates j c hj := by
    rcases Nat.lt_or_ge j L.length with hlt | hge
    · rw [List.getElem?_append_left hlt] at hj
      rw [h'.frame _ (.inl (by rw [h.index]; omega))]
      exact h.candidates j c hj
    · rw [List.getElem?_append_right hge] at hj
      have hc := h'.candidates _ c hj
      rw [h.index] at hc
      rwa [show s.candIndex + j = s.candIndex + L.length + (j - L.length) by omega]
  frame k hk := by
    rw [List.length_append] at hk
    rw [h'.frame k (by rw [h.index]; omega), h.frame k (by omega)]
  writes w hw := by
    rw [List.length_append]
    rcases h'.writes w hw with hw | hw
    · refine (h.writes w hw).imp_right fun hle => Nat.le_trans hle ?_
      unfold CandBuffer.candOffset candidateSize
      omega
    · right
      rw [h.index, Nat.add_assoc] at hw
      exact hw

theorem mark_preAuthenticate (s : CandState) (b : TMacAddr) (i : ℕ) :
    (s.mark b).ctrl.preAuthenticate i = true ↔ s.ctrl.preAuthenticate i = true ∨
      ∃ v, s.ctrl.pmkidCache.findPmkid b = some (i, v) := by
  unfold CandState.mark
  split
  next k v hf =>
    dsimp only
    by_cases hk : i = k
    · subst hk
      rw [update_self]
      exact iff_of_true rfl (.inr ⟨v, hf⟩)
    · rw [update_of_ne hk, hf]
      simp only [Option.some.injEq, Prod.mk.injEq]
      exact ⟨.inl, fun h => h.resolve_right fun ⟨_, h, _⟩ => hk h.symm⟩
  next hf => simp [hf]

theorem mark_frame (s : CandState) (b : TMacAddr) : (s.mark b).ctrl.pmkidCache = s.ctrl.pmkidCache ∧
    (s.mark b).ctrl.preAuthSupport = s.ctrl.preAuthSupport ∧ (s.mark b).buffer = s.buffer ∧
    (s.mark b).candIndex = s.candIndex := by
  unfold CandState.mark
  split <;> exact ⟨rfl, rfl, rfl, rfl⟩

theorem addListed_adds (s : CandState) (b : TMacAddr) (n : ℕ) : Adds s (s.addListed b n)
    [⟨b, if s.ctrl.preAuthSupport ∧ n ≠ 0 then candidatePreauthEnable else 0⟩] := by
  obtain ⟨hcache, hsupport, hbuffer, hindex⟩ := mark_frame s b
  unfold CandState.addListed
  dsimp only
  rw [hsupport, hbuffer, hindex]
  exact
    { index := rfl
      cache := hcache
      support := hsupport
      marks := by
        intro i
        rw [mark_preAuthenticate]
        simp
      candidates := by
        intro j c hj
        cases j with
        | zero =>
          rw [List.getElem?_cons_zero, Option.some.injEq] at hj
          rw [← hj]
          ext <;> simp
        | succ j => simp at hj
      frame := by
        intro k hk
        rw [List.length_singleton] at hk
        have hne : k ≠ s.candIndex := by omega
        ext <;> simp [hne]
      writes := by
        intro w hw
        simp only [CandBuffer.setFlags, CandBuffer.setBssid, List.mem_append, List.mem_singleton,
          or_assoc] at hw
        refine hw.imp_right fun hw => ?_
        unfold CandBuffer.candOffset candidateSize macAddrLen at *
        rw [List.length_singleton]
        rcases hw with rfl | rfl <;> dsimp only <;> omega }

theorem Adds.addListed (h : Adds s t []) (b : TMacAddr) (n : ℕ) : Adds s (t.addListed b n)
    [⟨b, if s.ctrl.preAuthSupport ∧ n ≠ 0 then candidatePreauthEnable else 0⟩] := by
  have hadds := h.trans (addListed_adds t b n)
  rwa [h.support] at hadds

/-- **A pass of the loop**: it ends unless the parser does not return. -/
theorem listedPass_cases (s : CandState) (ap : TBssidRsnInfo) :
    ¬ ap.Returns ∧ s.listedPass ap = none ∨
      ap.Returns ∧ ∃ t, s.listedPass ap = some t ∧
        Adds s t (ap.candidate s.ctrl.preAuthSupport).toList := by
  unfold CandState.listedPass TBssidRsnInfo.Returns TBssidRsnInfo.candidate
  cases hie : ap.rsnIe with
  | none => exact .inr ⟨fun _ h => (nomatch h), s, rfl, .of_eq rfl rfl rfl rfl rfl⟩
  | some ie =>
    have hpre : (Parse.parseIe ie 256 s.ctrl.wpaAkmExists s.wpa2Data).map preAuthOf = ie.preAuth :=
      parseIe_preAuthOf ie 256 _ _ _ _
    dsimp only
    cases hp : Parse.parseIe ie 256 s.ctrl.wpaAkmExists s.wpa2Data with
    | none =>
      rw [hp, Option.map_none] at hpre
      refine .inl ⟨fun h => ?_, rfl⟩
      have := h ie rfl
      rw [← hpre] at this
      cases this
    | some r =>
      obtain ⟨p, status⟩ := r
      rw [hp, Option.map_some] at hpre
      refine .inr ⟨fun ie' h => ?_, ?_⟩
      · cases h
        rw [← hpre]
        rfl
      · rw [Option.bind_some, ← hpre, preAuthOf]
        dsimp only
        have hmid : Adds s { s with
            ctrl := { s.ctrl with wpaAkmExists := p.wpaAkmExists }
            wpa2Data := p.data } [] := .of_eq rfl rfl rfl rfl rfl
        by_cases hok : status = .ok
        · simp only [if_pos hok]
          exact ⟨_, rfl, hmid.addListed ap.bssId p.data.preAuthentication⟩
        · simp only [if_neg hok]
          exact ⟨_, rfl, hmid⟩

/-- **The loop over the list** ends exactly if the parser always returns, and then has added the
candidates. -/
theorem listedLoop (l : List TBssidRsnInfo) (s : CandState) :
    (∃ ap ∈ l, ¬ ap.Returns) ∧ l.foldlM CandState.listedPass s = none ∨
      (∀ ap ∈ l, ap.Returns) ∧ ∃ t, l.foldlM CandState.listedPass s = some t ∧
        Adds s t (l.filterMap (·.candidate s.ctrl.preAuthSupport)) := by
  induction l generalizing s with
  | nil => exact .inr ⟨fun _ h => (nomatch h), s, rfl, .of_eq rfl rfl rfl rfl rfl⟩
  | cons ap l ih =>
    rw [List.foldlM_cons]
    rcases listedPass_cases s ap with ⟨hno, hpass⟩ | ⟨hret, t, hpass, hadds⟩
    · rw [hpass]
      exact .inl ⟨⟨ap, List.mem_cons_self, hno⟩, rfl⟩
    · rw [hpass]
      rcases ih t with ⟨⟨ap', hap', hno⟩, hnone⟩ | ⟨hall, u, hu, hadds'⟩
      · exact .inl ⟨⟨ap', List.mem_cons_of_mem ap hap', hno⟩, hnone⟩
      · refine .inr ⟨List.forall_mem_cons.mpr ⟨hret, hall⟩, u, hu, ?_⟩
        rw [hadds.support] at hadds'
        have hsum := hadds.trans hadds'
        rw [List.filterMap_cons]
        cases hc : ap.candidate s.ctrl.preAuthSupport with
        | none | some c => rw [hc] at hsum; exact hsum

/-! ## The loop over the cache -/

/-- The entries before one that are not marked. -/
def unmarked (s : CandState) (n : ℕ) : List ℕ :=
  (List.range n).filter fun i => s.ctrl.preAuthenticate i = false

theorem unmarked_succ (s : CandState) (n : ℕ) : unmarked s (n + 1) =
    unmarked s n ++ if s.ctrl.preAuthenticate n = false then [n] else [] := by
  unfold unmarked
  rw [List.range_succ, List.filter_append]
  cases h : s.ctrl.preAuthenticate n <;> simp [h]

/-- The write lies in the buffer. -/
def Inside (w : ℕ × ℕ) : Prop := w.1 + w.2 ≤ memBuffSize

/-- The loop has gone over some entries of the cache: the BSSIDs of the unmarked ones are behind the
list, their flags are at their places in the cache. -/
structure Caches (s t : CandState) (n : ℕ) : Prop where
  ctrl : t.ctrl = s.ctrl
  index : t.candIndex = s.candIndex + (unmarked s n).length
  bssids : ∀ j i, (unmarked s n)[j]? = some i →
    (t.buffer.candidateList (s.candIndex + j)).bssid = (s.ctrl.pmkidCache.pmkidTbl i).bssId
  bssid_frame : ∀ k < s.candIndex,
    (t.buffer.candidateList k).bssid = (s.buffer.candidateList k).bssid
  flags : ∀ k, (t.buffer.candidateList k).flags =
    if k ∈ unmarked s n then candidatePreauthEnable else (s.buffer.candidateList k).flags
  inside : (∀ w ∈ t.buffer.writes, Inside w) ↔ (∀ w ∈ s.buffer.writes, Inside w) ∧
    (∀ j < (unmarked s n).length, s.candIndex + j < pmkidMaxNumber) ∧
      ∀ i ∈ unmarked s n, i < pmkidMaxNumber

theorem inside_bssid {k : ℕ} :
    Inside (CandBuffer.candOffset k, macAddrLen) ↔ k < pmkidMaxNumber := by
  unfold Inside CandBuffer.candOffset candidateSize macAddrLen memBuffSize candidateSize
    pmkidMaxNumber
  dsimp only
  omega

theorem inside_flags {k : ℕ} :
    Inside (CandBuffer.candOffset k + 8, 4) ↔ k < pmkidMaxNumber := by
  unfold Inside CandBuffer.candOffset candidateSize memBuffSize candidateSize pmkidMaxNumber
  dsimp only
  omega

theorem cachedLoop (s : CandState) (n : ℕ) :
    Caches s ((List.range n).foldl CandState.cachedPass s) n := by
  induction n with
  | zero =>
    exact
      { ctrl := rfl
        index := rfl
        bssids := by simp [unmarked]
        bssid_frame := fun _ _ => rfl
        flags := by simp [unmarked]
        inside := by simp [unmarked] }
  | succ n ih =>
    rw [List.range_succ, List.foldl_append, List.foldl_cons, List.foldl_nil]
    generalize (List.range n).foldl CandState.cachedPass s = t at ih
    unfold CandState.cachedPass
    rw [ih.ctrl]
    cases hmark : s.ctrl.preAuthenticate n with
    | true =>
      have hsame : unmarked s (n + 1) = unmarked s n := by rw [unmarked_succ, hmark]; simp
      rw [if_pos rfl]
      exact
        { ctrl := ih.ctrl
          index := by rw [hsame]; exact ih.index
          bssids := by rw [hsame]; exact ih.bssids
          bssid_frame := ih.bssid_frame
          flags := by rw [hsame]; exact ih.flags
          inside := by rw [hsame]; exact ih.inside }
    | false =>
      have hnew : unmarked s (n + 1) = unmarked s n ++ [n] := by rw [unmarked_succ, if_pos hmark]
      rw [if_neg Bool.false_ne_true]
      exact
        { ctrl := rfl
          index := by rw [hnew, List.length_append, ih.index]; rfl
          bssids := by
            intro j i hj
            rw [hnew] at hj
            rw [CandBuffer.bssid_setFlags, CandBuffer.bssid_setBssid, ih.index]
            rcases Nat.lt_or_ge j (unmarked s n).length with hlt | hge
            · rw [List.getElem?_append_left hlt] at hj
              rw [if_neg (by omega)]
              exact ih.bssids j i hj
            · rw [List.getElem?_append_right hge] at hj
              obtain ⟨hj0, rfl⟩ : j - (unmarked s n).length = 0 ∧ n = i := by
                cases hd : j - (unmarked s n).length with
                | zero => rw [hd] at hj; simpa using hj
                | succ d => rw [hd] at hj; simp at hj
              rw [if_pos (by omega)]
          bssid_frame := by
            intro k hk
            rw [CandBuffer.bssid_setFlags, CandBuffer.bssid_setBssid, ih.index, if_neg (by omega)]
            exact ih.bssid_frame k hk
          flags := by
            intro k
            rw [CandBuffer.flags_setFlags, CandBuffer.flags_setBssid, ih.flags, hnew]
            by_cases hk : k = n <;> simp [hk]
          inside := by
            rw [hnew, List.length_append, List.length_singleton]
            simp only [CandBuffer.setFlags, CandBuffer.setBssid, List.forall_mem_append,
              List.forall_mem_singleton, inside_bssid, inside_flags, ih.inside, ih.index,
              Nat.forall_lt_succ_right]
            tauto }

end ArchosGpl.Wlan.AdmCtrlWpa2
