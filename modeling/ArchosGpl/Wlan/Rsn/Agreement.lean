import ArchosGpl.Wlan.Rsn.Model
import Mathlib.Data.List.FinRange

/-!
# The key table agrees with the firmware

`Agree` is what the table says of the keys in the firmware. An operation is `Clean` if `rsn_setKey`
sets a key where none is installed, or the same kind of key of the same type is and no removal of
it is nested; and if a key is removed by its own type and kind of address, which at another index
than 0 is the broadcast address for a TKIP or AES key.

Results:
* **`keys_agree`**: in every run of clean operations the table agrees with the firmware.
* **`group_over_unicast`**: a group key set over a unicast key is in the firmware, and the table
  has lost its type.
-/

open Function (update update_of_ne update_self)

namespace ArchosGpl.Wlan.Rsn

open Lib

/-- What the flag, the type in the table and the firmware are at one index. -/
inductive Entry : Bool → KeyType → List FwKey → Prop
  | free : Entry false .null []
  | installed (k : SecurityKey) (hk : k.keyType ≠ .null) : Entry true k.keyType [k.fwKey]

theorem Entry.cases {en : Bool} {type : KeyType} {fw : List FwKey} (h : Entry en type fw) :
    (en = false ∧ type = .null ∧ fw = []) ∨
      ∃ k : SecurityKey, k.keyType ≠ .null ∧ en = true ∧ type = k.keyType ∧ fw = [k.fwKey] := by
  cases h with
  | free => exact Or.inl ⟨rfl, rfl, rfl⟩
  | installed k hk => exact Or.inr ⟨k, hk, rfl, rfl, rfl⟩

/-- The key `k` removes `f` at index `i`. -/
def Matches (i : Index) (k : SecurityKey) (f : FwKey) : Prop :=
  (k.keyType = .null ∨ k.keyType = f.keyType) ∧
    (f.keyType ≠ .wep →
      if (f.keyType = .tkip ∨ f.keyType = .aes) ∧ i ≠ 0 then f.kind = .broadcast
      else f.kind = addressKind k.macAddress)

instance (i : Index) (k : SecurityKey) (f : FwKey) : Decidable (Matches i k f) :=
  inferInstanceAs (Decidable (_ ∧ (_ → _)))

theorem tableIndex_ofNat : ∀ i : Index, tableIndex (BitVec.ofNat 32 i) = some i := by decide

theorem tableIndex_and (x : BitVec 32) : tableIndex (x &&& 0xFF) = tableIndex x := by
  have h : (x &&& 0xFF).setWidth 8 = x.setWidth 8 := by
    rw [BitVec.setWidth_and]
    exact BitVec.and_allOnes
  unfold tableIndex
  rw [h]

namespace RsnT

variable {r r' : RsnT} {i j : Index} {k : SecurityKey}

/-- **The table agrees with the firmware**: it has the type of each key that is there, and every key
was removed by the type and the kind of address it was added with. -/
structure Agree (r : RsnT) : Prop where
  enabled : ∀ i, r.keysEn i = true ↔ r.firmware i ≠ []
  keyType : ∀ i, ∀ f ∈ r.firmware i, f.keyType = (r.keys i).keyType
  none : ∀ i, r.firmware i = [] → (r.keys i).keyType = .null
  removals : ∀ x ∈ r.removals, x.key ∈ x.installed

/-- Each index holds one key that is in the firmware, or none. -/
structure Sound (r : RsnT) : Prop where
  entry : ∀ i, Entry (r.keysEn i) (r.keys i).keyType (r.firmware i)
  removals : ∀ x ∈ r.removals, x.key ∈ x.installed

theorem Sound.agree (h : r.Sound) : r.Agree where
  enabled i := by
    rcases (h.entry i).cases with ⟨he, -, hf⟩ | ⟨k, -, he, -, hf⟩ <;> simp [he, hf]
  keyType i := by
    rcases (h.entry i).cases with ⟨-, -, hf⟩ | ⟨k, -, -, ht, hf⟩
    · simp [hf]
    · simp [hf, ht, SecurityKey.fwKey]
  none i hnil := by
    rcases (h.entry i).cases with ⟨-, ht, -⟩ | ⟨k, -, -, -, hf⟩
    · exact ht
    · rw [hf] at hnil
      cases hnil
  removals := h.removals

/-! ## Removing a key -/

/-- The key is removed by what it was added with. -/
def RemoveOk (r : RsnT) (k : SecurityKey) : Prop :=
  ∀ i ∈ tableIndex k.keyIndex, ∀ f ∈ r.firmware i, Matches i k f

instance (r : RsnT) (k : SecurityKey) : Decidable (r.RemoveOk k) :=
  inferInstanceAs (Decidable (∀ i ∈ tableIndex k.keyIndex, ∀ f ∈ r.firmware i, _))

theorem removed_fwKey {c : SecurityKey} (hc : c.keyType ≠ .null)
    (ht : (r.keys i).keyType = c.keyType) (hm : Matches i k c.fwKey) :
    (r.removed i k).fwKey = c.fwKey := by
  obtain ⟨htype, hkind⟩ := hm
  -- The type that is looked up if the caller gives none.
  have hl : (if k.keyType = .null then { k with keyType := (r.keys i).keyType } else k) =
      { k with keyType := c.keyType } := by
    split
    · rw [ht]
    · rename_i hn
      rcases htype with h | h
      · exact absurd h hn
      · change k.keyType = c.keyType at h
        rw [← h]
  simp only [removed, hl]
  simp only [SecurityKey.fwKey] at hkind ⊢
  cases hct : c.keyType with
  | null => exact absurd hct hc
  | wep => simp
  | tkip | aes =>
    have hkind := hkind (by simp [hct])
    by_cases hi : i = 0
    · simpa [hct, hi, eq_comm] using hkind
    · simpa [hct, hi, addressKind, eq_comm] using hkind
  | xcc => simpa [hct, eq_comm] using hkind (by simp [hct])

theorem removeKey_of_free (hi : tableIndex k.keyIndex = some i) (he : r.keysEn i = false) :
    r.removeKey k = r := by
  simp [removeKey, hi, he]

theorem removeKey_of_enabled (hi : tableIndex k.keyIndex = some i) (he : r.keysEn i = true) :
    (r.removeKey k).keysEn = update r.keysEn i false ∧
      ((r.removeKey k).keys i).keyType = .null ∧
      (∀ j, j ≠ i → (r.removeKey k).keys j = r.keys j) ∧
      (r.removeKey k).firmware =
        update r.firmware i ((r.firmware i).erase (r.removed i k).fwKey) ∧
      (r.removeKey k).wepDefaultKeys = update r.wepDefaultKeys i false ∧
      (r.removeKey k).removals =
        r.removals ++ [⟨i, (r.removed i k).fwKey, r.firmware i⟩] := by
  simp only [removeKey, hi, he, keyRemove]
  refine ⟨rfl, ?_, fun j hj => ?_, rfl, rfl, rfl⟩
  · simp
  · exact update_of_ne hj _ _

structure SameEntry (r r' : RsnT) (j : Index) : Prop where
  keys : r'.keys j = r.keys j
  keysEn : r'.keysEn j = r.keysEn j
  wepDefaultKeys : r'.wepDefaultKeys j = r.wepDefaultKeys j
  firmware : r'.firmware j = r.firmware j

theorem removeKey_other (hj : tableIndex k.keyIndex ≠ some j) :
    SameEntry r (r.removeKey k) j := by
  cases hi : tableIndex k.keyIndex with
  | none =>
    have he : r.removeKey k = r := by simp [removeKey, hi]
    rw [he]
    exact ⟨rfl, rfl, rfl, rfl⟩
  | some i =>
    have hne : j ≠ i := by
      rintro rfl
      exact hj hi
    cases he : r.keysEn i with
    | false =>
      rw [removeKey_of_free hi he]
      exact ⟨rfl, rfl, rfl, rfl⟩
    | true =>
      obtain ⟨hen, -, hk, hf, hw, -⟩ := removeKey_of_enabled hi he
      refine ⟨hk j hne, ?_, ?_, ?_⟩
      · rw [hen, update_of_ne hne]
      · rw [hw, update_of_ne hne]
      · rw [hf, update_of_ne hne]

theorem sound_removeKey (h : r.Sound) (hok : r.RemoveOk k) : (r.removeKey k).Sound := by
  cases hi : tableIndex k.keyIndex with
  | none => simpa [removeKey, hi] using h
  | some i =>
    cases he : r.keysEn i with
    | false =>
      rw [removeKey_of_free hi he]
      exact h
    | true =>
      obtain ⟨hen, ht, hk, hf, -, hr⟩ := removeKey_of_enabled hi he
      rcases (h.entry i).cases with ⟨hen', -, -⟩ | ⟨c, hc, -, htc, hfc⟩
      · cases he.symm.trans hen'
      have hm := hok i hi c.fwKey (by simp [hfc])
      rw [removed_fwKey hc htc hm] at hf hr
      refine ⟨fun j => ?_, ?_⟩
      · rcases eq_or_ne j i with rfl | hne
        · rw [hen, ht, hf, hfc]
          simpa using Entry.free
        · rw [hen, hk j hne, hf, update_of_ne hne, update_of_ne hne]
          exact h.entry j
      · rw [hr, List.forall_mem_append]
        exact ⟨h.removals, by simp [hfc]⟩

theorem removeKey_free (hi : tableIndex k.keyIndex = some i) : (r.removeKey k).keysEn i = false := by
  cases he : r.keysEn i with
  | false => rw [removeKey_of_free hi he, he]
  | true => rw [(removeKey_of_enabled hi he).1, update_self]

/-! ## Setting a key -/

/-- The key is set where none is installed, or the same one is that no nested removal takes away. -/
def SetOk (r : RsnT) (k : SecurityKey) : Prop :=
  k.keyType ≠ .null → ∀ i ∈ tableIndex k.keyIndex, ∀ f ∈ r.firmware i,
    f = k.fwKey ∧ (k.macAddress = broadcast → (r.keys i).macAddress = broadcast)

instance (r : RsnT) (k : SecurityKey) : Decidable (r.SetOk k) :=
  inferInstanceAs (Decidable (_ → ∀ i ∈ tableIndex k.keyIndex, ∀ f ∈ r.firmware i, _))

theorem setKey_of_skip (hi : tableIndex k.keyIndex = some i) (hk : k.keyType ≠ .null)
    (hskip : r.keysEn i = false ∨ (k.macAddress = broadcast → (r.keys i).macAddress = broadcast)) :
    r.setKey k = (true, ({ r with
      keys := update r.keys i { r.keys i with
        keyType := k.keyType, keyIndex := k.keyIndex &&& 0xFF }
      keysEn := update r.keysEn i true } : RsnT).keyAdd i k.fwKey) := by
  simp only [setKey, hi]
  rw [if_neg hk]
  split
  · rename_i hb
    rcases hskip with he | hm
    · simp [removeTableKey, he]
    · exact absurd (hm hb.1) (by simpa using hb.2)
  · rfl

theorem sound_setKey (h : r.Sound) (hok : r.SetOk k) : (r.setKey k).2.Sound := by
  cases hi : tableIndex k.keyIndex with
  | none => simpa [setKey, hi] using h
  | some i =>
    by_cases hk : k.keyType = .null
    · simpa [setKey, hi, hk] using h
    · have hok := hok hk i hi
      have hfree : r.firmware i = [] ∧ r.keysEn i = false ∨ r.firmware i = [k.fwKey] := by
        rcases (h.entry i).cases with ⟨he, -, hf⟩ | ⟨c, -, -, -, hf⟩
        · exact Or.inl ⟨hf, he⟩
        · rw [hf, (hok c.fwKey (by simp [hf])).1]
          exact Or.inr rfl
      have hskip : r.keysEn i = false ∨
          (k.macAddress = broadcast → (r.keys i).macAddress = broadcast) := by
        rcases hfree with ⟨-, he⟩ | hf
        · exact Or.inl he
        · exact Or.inr (hok k.fwKey (by simp [hf])).2
      have hfw : (if k.fwKey ∈ r.firmware i then r.firmware i else r.firmware i ++ [k.fwKey]) =
          [k.fwKey] := by
        rcases hfree with ⟨hf, -⟩ | hf <;> simp [hf]
      rw [setKey_of_skip hi hk hskip]
      refine ⟨fun j => ?_, h.removals⟩
      simp only [keyAdd, hfw]
      rcases eq_or_ne j i with rfl | hne
      · simpa using Entry.installed k hk
      · simpa [update_of_ne hne] using h.entry j

/-! ## The parameters -/

structure SameTypes (r r' : RsnT) : Prop where
  keysEn : r'.keysEn = r.keysEn
  keyType : ∀ i, (r'.keys i).keyType = (r.keys i).keyType
  firmware : r'.firmware = r.firmware
  removals : r'.removals = r.removals

theorem Sound.same (h : r.Sound) (hs : SameTypes r r') : r'.Sound where
  entry i := by
    rw [hs.keysEn, hs.keyType, hs.firmware]
    exact h.entry i
  removals := hs.removals ▸ h.removals

theorem SameTypes.refl (r : RsnT) : SameTypes r r := ⟨rfl, fun _ => rfl, rfl, rfl⟩

theorem SameTypes.trans {r'' : RsnT} (h : SameTypes r r') (h' : SameTypes r' r'') :
    SameTypes r r'' where
  keysEn := h'.keysEn.trans h.keysEn
  keyType i := (h'.keyType i).trans (h.keyType i)
  firmware := h'.firmware.trans h.firmware
  removals := h'.removals.trans h.removals

theorem same_storeKey (r : RsnT) (i : Index) (x : BitVec 32) (n : ℕ) (mac : MacAddr) :
    SameTypes r (r.storeKey i x n mac) := by
  refine ⟨rfl, fun j => ?_, rfl, rfl⟩
  simp only [storeKey]
  rcases eq_or_ne j i with rfl | hne
  · rw [update_self]
  · rw [update_of_ne hne]

theorem same_markDefault (r : RsnT) (i : Index) : SameTypes r (r.markDefault i) := by
  unfold markDefault
  split
  · exact ⟨rfl, fun _ => rfl, rfl, rfl⟩
  · exact .refl r

theorem same_store (r : RsnT) (i : Index) (x : BitVec 32) (n : ℕ) (mac : MacAddr) :
    SameTypes r (r.store i x n mac) := by
  have hs := same_storeKey r i x n mac
  unfold store
  dsimp only
  split
  · have ht : SameTypes (r.storeKey i x n mac) ((r.storeKey i x n mac).setTransmitKey i) :=
      ⟨rfl, fun _ => rfl, rfl, rfl⟩
    exact (hs.trans ht).trans (same_markDefault _ i)
  · exact hs.trans (same_markDefault _ i)

/-- A key for the broadcast state machine is set cleanly. -/
def BroadcastOk (r : RsnT) (env : Env) (e : EncodedKeyMaterial) : Prop :=
  env.bcastStarted = true → ∀ k ∈ env.broadcastSuite.derive env e, r.SetOk k

/-- A key for the unicast state machine is set cleanly. -/
def UnicastOk (r : RsnT) (env : Env) (e : EncodedKeyMaterial) : Prop :=
  env.ucastStarted = true → ∀ k ∈ env.unicastSuite.derive env e, r.SetOk k

instance (r : RsnT) (env : Env) (e : EncodedKeyMaterial) : Decidable (r.BroadcastOk env e) :=
  inferInstanceAs (Decidable (_ → ∀ k ∈ env.broadcastSuite.derive env e, _))

instance (r : RsnT) (env : Env) (e : EncodedKeyMaterial) : Decidable (r.UnicastOk env e) :=
  inferInstanceAs (Decidable (_ → ∀ k ∈ env.unicastSuite.derive env e, _))

/-- The keys that `RSN_ADD_KEY_PARAM` sets, it sets cleanly. -/
def AddOk (r : RsnT) (env : Env) (key : OsKey) : Prop :=
  match parseAdd env key with
  | .refused => True
  | .ignored => True
  | .unicast e => r.UnicastOk env e
  | .broadcast e transmit =>
    r.BroadcastOk env e ∧ (transmit = true → (r.recvBroadcast env e).2.UnicastOk env e)

instance (r : RsnT) (env : Env) (key : OsKey) : Decidable (r.AddOk env key) := by
  unfold AddOk
  split <;> infer_instance

theorem sound_recvBroadcast (h : r.Sound) {env : Env} {e : EncodedKeyMaterial}
    (hok : r.BroadcastOk env e) : (r.recvBroadcast env e).2.Sound := by
  unfold recvBroadcast
  split
  · rename_i hst
    split
    · exact h
    · rename_i k hk
      exact sound_setKey h (hok hst k hk)
  · exact h

theorem sound_recvUnicast (h : r.Sound) {env : Env} {e : EncodedKeyMaterial}
    (hok : r.UnicastOk env e) : (r.recvUnicast env e).2.Sound := by
  unfold recvUnicast
  split
  · rename_i hst
    split
    · exact h
    · rename_i k hk
      have hs := sound_setKey h (hok hst k hk)
      split
      · rename_i heq
        rwa [heq] at hs
      · rename_i heq
        rw [heq] at hs
        exact hs.same ⟨rfl, fun _ => rfl, rfl, rfl⟩
  · exact h

theorem sound_addKeyParam (h : r.Sound) {env : Env} {key : OsKey} (hok : r.AddOk env key) :
    (r.addKeyParam env key).Sound := by
  have hrecv : (r.recv env key).2.Sound := by
    unfold AddOk at hok
    unfold recv
    cases hp : parseAdd env key with
    | refused => exact h
    | ignored => exact h
    | unicast e =>
      rw [hp] at hok
      exact sound_recvUnicast h hok
    | broadcast e transmit =>
      rw [hp] at hok
      obtain ⟨hb, hu⟩ := hok
      have hs := sound_recvBroadcast h hb
      dsimp only
      split
      · rename_i ht
        exact sound_recvUnicast hs (hu ht)
      · exact hs
  unfold addKeyParam
  split
  · exact h
  · rename_i i _
    split
    · rename_i heq
      rwa [heq] at hrecv
    · rename_i t heq
      rw [heq] at hrecv
      have hw : ({ t with
          wepDefaultKeys := update t.wepDefaultKeys i false } : RsnT).Sound :=
        hrecv.same ⟨rfl, fun _ => rfl, rfl, rfl⟩
      exact hw.same (same_store ..)

/-- The key that `RSN_REMOVE_KEY_PARAM` removes is removed by what it was added with, and the suite
that removes none does so where none is installed. -/
def RemoveParamOk (r : RsnT) (env : Env) (key : OsKey) : Prop :=
  (parseRemove env key).1 = true → ∀ i ∈ tableIndex key.KeyIndex,
    match (parseRemove env key).2 with
    | some k => r.RemoveOk k
    | none => r.keysEn i = false

instance (r : RsnT) (env : Env) (key : OsKey) : Decidable (r.RemoveParamOk env key) := by
  unfold RemoveParamOk
  cases (parseRemove env key).2 <;> infer_instance

theorem tableIndex_of_parseRemove (env : Env) (key : OsKey)
    (hk : k ∈ (parseRemove env key).2) : tableIndex k.keyIndex = tableIndex key.KeyIndex := by
  have hsuite : ∀ (suite : CipherSuite) (n : ℕ) (mac : MacAddr),
      k ∈ suite.remove ⟨key.KeyIndex, n, mac⟩ → tableIndex k.keyIndex = tableIndex key.KeyIndex := by
    intro suite n mac h
    cases suite <;> simp only [CipherSuite.remove, Option.mem_def, Option.some.injEq] at h
    · cases h
    all_goals
      subst h
      exact tableIndex_and _
  unfold parseRemove at hk
  split at hk
  · cases hk
  · split at hk
    · cases hk
    · split at hk <;> exact hsuite _ _ _ hk

theorem sound_removeKeyParam (h : r.Sound) {env : Env} {key : OsKey}
    (hok : r.RemoveParamOk env key) : (r.removeKeyParam env key).Sound := by
  -- The parameter clears the type where nothing is installed any more.
  have hclear : ∀ {r : RsnT} {i : Index}, r.Sound → r.keysEn i = false →
      SameTypes r { r with keys := update r.keys i { r.keys i with
        keyType := .null, keyIndex := (r.keys i).keyIndex &&& 0xFF } } := by
    intro r i h he
    refine ⟨rfl, fun j => ?_, rfl, rfl⟩
    rcases eq_or_ne j i with rfl | hne
    · rcases (h.entry j).cases with ⟨-, ht, -⟩ | ⟨k, -, he', -, -⟩
      · simp [ht]
      · cases he.symm.trans he'
    · simp [update_of_ne hne]
  unfold removeKeyParam
  split
  · exact h
  · rename_i i hi
    split
    · exact h
    · rename_i o heq
      have hok := hok (by rw [heq]) i hi
      rw [heq] at hok
      cases o with
      | none => exact h.same (hclear h hok)
      | some k =>
        have hs := sound_removeKey h hok
        have hk : tableIndex k.keyIndex = some i :=
          (tableIndex_of_parseRemove env key (by rw [heq]; rfl)).trans hi
        exact hs.same (hclear hs (removeKey_free hk))

theorem removeKeyParam_other {env : Env} {key : OsKey} (hj : tableIndex key.KeyIndex ≠ some j) :
    SameEntry r (r.removeKeyParam env key) j := by
  unfold removeKeyParam
  split
  · exact ⟨rfl, rfl, rfl, rfl⟩
  · rename_i i hi
    have hne : j ≠ i := by
      rintro rfl
      exact hj hi
    split
    · exact ⟨rfl, rfl, rfl, rfl⟩
    · rename_i o heq
      have hs : SameEntry r (o.elim r r.removeKey) j := by
        cases o with
        | none => exact ⟨rfl, rfl, rfl, rfl⟩
        | some k =>
          refine removeKey_other ?_
          rwa [tableIndex_of_parseRemove env key (by rw [heq]; rfl)]
      exact ⟨(update_of_ne hne _ _).trans hs.keys, hs.keysEn, hs.wepDefaultKeys,
        hs.firmware⟩

/-- `RSN_SET_KEY_PARAM` removes a key without type or material, and sets any other. -/
def SetParamOk (r : RsnT) (k : SecurityKey) : Prop :=
  k.keyIndex.toNat < 4 →
    if k.keyType = .null ∨ k.encLen = 0 then r.RemoveOk k else r.SetOk k

instance (r : RsnT) (k : SecurityKey) : Decidable (r.SetParamOk k) :=
  inferInstanceAs (Decidable (_ → _))

theorem sound_setKeyParam (h : r.Sound) (hok : r.SetParamOk k) : (r.setKeyParam k).Sound := by
  unfold setKeyParam
  split
  · rename_i hlt
    have hok := hok hlt
    split
    · rename_i hrem
      rw [if_pos hrem] at hok
      exact sound_removeKey h hok
    · rename_i hset
      rw [if_neg hset] at hok
      split
      · exact h
      · exact (sound_setKey h hok).same (same_store ..)
  · exact h

/-! ## Stopping -/

/-- The table's key, if it is no default key, is removed by what it was added with. -/
def StopOk (r : RsnT) (i : Index) : Prop :=
  r.wepDefaultKeys i = false → r.RemoveOk (r.copyKey i)

instance (r : RsnT) (i : Index) : Decidable (r.StopOk i) := inferInstanceAs (Decidable (_ → _))

theorem sound_stopKey (h : r.Sound) (hok : r.StopOk i) : (r.stopKey i).Sound := by
  unfold stopKey
  split
  · exact h
  · rename_i hw
    exact sound_removeKey h (hok (eq_false_of_ne_true hw))

theorem stopOk_stopKey (hne : j ≠ i) (hok : r.StopOk j) : (r.stopKey i).StopOk j := by
  unfold stopKey
  split
  · exact hok
  · have hidx : tableIndex (r.copyKey i).keyIndex ≠ some j := by
      rw [copyKey, tableIndex_ofNat]
      exact fun h => hne (Option.some.inj h).symm
    obtain ⟨hk, -, hw, hf⟩ := removeKey_other (r := r) hidx
    intro hwj l hl f hfl
    obtain rfl : j = l := by
      have := (tableIndex_ofNat j).symm.trans hl
      exact Option.some.inj this
    rw [hw] at hwj
    rw [hf] at hfl
    have := hok hwj j (tableIndex_ofNat j) f hfl
    rwa [copyKey, hk]

theorem sound_stop (h : r.Sound) (hok : ∀ i, r.StopOk i) : r.stop.Sound := by
  suffices hfold : ∀ (l : List Index) (r : RsnT), l.Nodup → r.Sound → (∀ i ∈ l, r.StopOk i) →
      (l.foldl stopKey r).Sound by
    exact (hfold _ r (List.nodup_finRange 4) h fun i _ => hok i).same
      ⟨rfl, fun _ => rfl, rfl, rfl⟩
  intro l
  induction l with
  | nil => exact fun r _ h _ => h
  | cons i l ih =>
    intro r hl h hok
    obtain ⟨hi, hl⟩ := List.nodup_cons.mp hl
    refine ih (r.stopKey i) hl (sound_stopKey h (hok i List.mem_cons_self)) fun j hj => ?_
    have hne : j ≠ i := by
      rintro rfl
      exact hi hj
    exact stopOk_stopKey hne (hok j (List.mem_cons_of_mem i hj))

end RsnT

/-- The condition on an operation. -/
def Clean (r : RsnT) : Op → Prop
  | .setKey k => r.SetOk k
  | .removeKey k => r.RemoveOk k
  | .addKeyParam env key => r.AddOk env key
  | .removeKeyParam env key => r.RemoveParamOk env key
  | .setKeyParam k => r.SetParamOk k
  | .stop => ∀ i, r.StopOk i
  | _ => True

instance (r : RsnT) : (op : Op) → Decidable (Clean r op)
  | .setKey k => inferInstanceAs (Decidable (r.SetOk k))
  | .removeKey k => inferInstanceAs (Decidable (r.RemoveOk k))
  | .setDefaultKeyId _ => isTrue trivial
  | .addKeyParam env key => inferInstanceAs (Decidable (r.AddOk env key))
  | .removeKeyParam env key => inferInstanceAs (Decidable (r.RemoveParamOk env key))
  | .setKeyParam k => inferInstanceAs (Decidable (r.SetParamOk k))
  | .defaultKeysOn _ => isTrue trivial
  | .stop => inferInstanceAs (Decidable (∀ i, r.StopOk i))

open RsnT in
theorem sound_step {r r' : RsnT} {op : Op} (h : r.Sound) (hc : Clean r op)
    (hs : step r op = some r') : r'.Sound := by
  cases op with
  | setKey k =>
    cases hs
    exact sound_setKey h hc
  | removeKey k =>
    cases hs
    exact sound_removeKey h hc
  | setDefaultKeyId keyId | defaultKeysOn on =>
    cases hs
    exact h.same ⟨rfl, fun _ => rfl, rfl, rfl⟩
  | addKeyParam env key =>
    cases hs
    exact sound_addKeyParam h hc
  | removeKeyParam env key =>
    cases hs
    exact sound_removeKeyParam h hc
  | setKeyParam k =>
    cases hs
    exact sound_setKeyParam h hc
  | stop =>
    cases hs
    exact sound_stop h hc

/-- Nothing is installed, and no key was configured. -/
structure Fresh (r : RsnT) : Prop where
  keysEn : ∀ i, r.keysEn i = false
  keyType : ∀ i, (r.keys i).keyType = .null
  firmware : ∀ i, r.firmware i = []
  removals : r.removals = []

theorem Fresh.sound {r : RsnT} (h : Fresh r) : r.Sound where
  entry i := by
    rw [h.keysEn, h.keyType, h.firmware]
    exact .free
  removals := by simp [h.removals]

/-- **The key table agrees with the firmware** after every run of clean operations; and no removal
changes the entry of another index. -/
theorem keys_agree {r₀ r : RsnT} {ops : List Op} (h₀ : Fresh r₀) (he : exec step r₀ ops = some r)
    (hc : Along step Clean r₀ ops) :
    r.Agree ∧
      (∀ k j, tableIndex k.keyIndex ≠ some j → RsnT.SameEntry r (r.removeKey k) j) ∧
      ∀ env key j, tableIndex key.KeyIndex ≠ some j →
        RsnT.SameEntry r (r.removeKeyParam env key) j := by
  have h := Along.invariant (fun _ _ _ hs hop ht => sound_step hs hop ht) h₀.sound hc he
  exact ⟨h.agree, fun _ _ hj => RsnT.removeKey_other hj,
    fun _ _ _ hj => RsnT.removeKeyParam_other hj⟩

def empty : RsnT where
  keys _ := ⟨.null, 0, 0, 0⟩
  keysEn _ := false
  wepDefaultKeys _ := false
  wepStaticKey := false
  defaultKeysOn := false
  defaultKeyId := 0
  firmware _ := []
  removals := []

theorem fresh_empty : Fresh empty := ⟨fun _ => rfl, fun _ => rfl, fun _ => rfl, rfl⟩

/-- A station with an access point at address 1, and AES for both kinds of key. -/
def wpa2 : Env := ⟨1, false, .aesCcmp, .aesCcmp, true, true, 0⟩

/-- The pairwise key, and a group key at an index. -/
def pairwise : OsKey := ⟨0xC0000000, 16, 1⟩

def group (i : BitVec 32) : OsKey := ⟨i, 16, broadcast⟩

/-- A pairwise key, a group key at another index, and their removal. -/
theorem keys_agree_wpa2 : ∃ r, exec step empty [.addKeyParam wpa2 pairwise,
    .addKeyParam wpa2 (group 1), .addKeyParam wpa2 (group 1), .removeKeyParam wpa2 (group 1),
    .stop] = some r ∧ r.Agree ∧ r.removals.length = 2 := by
  have h : (exec step empty [.addKeyParam wpa2 pairwise, .addKeyParam wpa2 (group 1),
      .addKeyParam wpa2 (group 1), .removeKeyParam wpa2 (group 1), .stop]).any
        (fun r => decide (r.removals.length = 2)) = true := by decide +kernel
  obtain ⟨r, he, hr⟩ := (Option.any_eq_true _ _).mp h
  exact ⟨r, he, (keys_agree fresh_empty he (by decide +kernel)).1, of_decide_eq_true hr⟩

/-- **A group key over a unicast key**: the nested removal clears the type that was just entered,
and the key is added after it. -/
theorem group_over_unicast : ∃ r, exec step empty [.addKeyParam wpa2 pairwise,
    .addKeyParam wpa2 (group 0)] = some r ∧ ¬ r.Agree := by
  have h : (exec step empty [.addKeyParam wpa2 pairwise, .addKeyParam wpa2 (group 0)]).any
      (fun r => decide (⟨.aes, .broadcast⟩ ∈ r.firmware 0 ∧ (r.keys 0).keyType = .null)) = true := by
    decide +kernel
  obtain ⟨r, he, hr⟩ := (Option.any_eq_true _ _).mp h
  obtain ⟨hin, hnull⟩ := of_decide_eq_true hr
  refine ⟨r, he, fun ha => ?_⟩
  have := ha.keyType 0 _ hin
  rw [hnull] at this
  cases this

end ArchosGpl.Wlan.Rsn
