import Mathlib.Algebra.GroupWithZero.Nat
import ArchosGpl.Lib.Machine
import Mathlib.Logic.Function.Basic

/-!
# Model of the key table (`stad/src/Connection_Managment/rsn.c`, `keyParserExternal.c`)

The module keeps a table of the keys it gave to the firmware. Keys come from the utility, through
the key parser and the key derivation of the cipher suites (`keyDerive*.c`), or already derived
(`RSN_SET_KEY_PARAM`). The firmware holds keys by index, type and kind of address; a key that is
added again replaces itself. Every command of the firmware succeeds, and the external mode is off.

Of a key the table's fields are modelled that the functions read: not the key material. The timers
of the MIC failures and what goes to the transmit path are left out, they do not touch the table.
-/

open Function (update)

namespace ArchosGpl.Wlan.Rsn

scoped instance neZero_4 : NeZero 4 := ⟨by decide⟩

/-- `EKeyType`. -/
inductive KeyType
  | null
  | wep
  | tkip
  | aes
  | xcc
  deriving DecidableEq

/-- `ECipherSuite`, as `keyDerive_config` tells the suites apart. -/
inductive CipherSuite
  | none
  | wep
  | tkip
  | ckip
  | aesCcmp
  deriving DecidableEq

/-- `TMacAddr`. -/
abbrev MacAddr := BitVec 48

def broadcast : MacAddr := BitVec.allOnes 48

/-- `MAX_KEYS_NUM`: the indices of the table. -/
abbrev Index := Fin 4

/-- `(TI_UINT8)keyIndex`, if it is an index of the table. -/
def tableIndex (keyIndex : BitVec 32) : Option Index :=
  if h : (keyIndex.setWidth 8).toNat < 4 then some ⟨_, h⟩ else none

/-- `TSecurityKeys`. -/
structure SecurityKey where
  keyType : KeyType
  encLen : ℕ
  keyIndex : BitVec 32
  macAddress : MacAddr
  deriving DecidableEq

inductive AddressKind
  | broadcast
  | station
  | zero
  deriving DecidableEq

structure FwKey where
  keyType : KeyType
  kind : AddressKind
  deriving DecidableEq

def addressKind (mac : MacAddr) : AddressKind := if mac = broadcast then .broadcast else .station

/-- What the firmware is told of a key: `cmdBld_CmdAddWepDefaultKey` and
`cmdBld_CmdRemoveWepDefaultKey` take the address zero. -/
def SecurityKey.fwKey (k : SecurityKey) : FwKey :=
  ⟨k.keyType, if k.keyType = .wep then .zero else addressKind k.macAddress⟩

/-- A removal the firmware is told: the key, and what it holds at the index. -/
structure Removal where
  keyIndex : Index
  key : FwKey
  installed : List FwKey
  deriving DecidableEq

/-- `rsn_t`, the keys the firmware holds, and the removals so far. -/
structure RsnT where
  keys : Index → SecurityKey
  keysEn : Index → Bool
  wepDefaultKeys : Index → Bool
  wepStaticKey : Bool
  defaultKeysOn : Bool
  defaultKeyId : BitVec 8
  firmware : Index → List FwKey
  removals : List Removal

namespace RsnT

/-- `TWD_RSN_KEY_ADD_PARAM_ID`. -/
def keyAdd (r : RsnT) (i : Index) (f : FwKey) : RsnT :=
  let held := if f ∈ r.firmware i then r.firmware i else r.firmware i ++ [f]
  { r with firmware := update r.firmware i held }

/-- `TWD_RSN_KEY_REMOVE_PARAM_ID`. -/
def keyRemove (r : RsnT) (i : Index) (f : FwKey) : RsnT :=
  { r with
    firmware := update r.firmware i ((r.firmware i).erase f)
    removals := r.removals ++ [⟨i, f, r.firmware i⟩] }

/-! ## Adding and removing -/

/-- The key as `rsn_removeKey` hands it to the firmware. -/
def removed (r : RsnT) (i : Index) (k : SecurityKey) : SecurityKey :=
  let k := if k.keyType = .null then { k with keyType := (r.keys i).keyType } else k
  if k.keyType = .tkip ∨ k.keyType = .aes then
    let k := { k with encLen := 16 }
    if i ≠ 0 then { k with macAddress := broadcast } else k
  else if k.keyType = .wep then { k with macAddress := 0 }
  else k

/-- `rsn_removeKey`, for a key outside the table. -/
def removeKey (r : RsnT) (k : SecurityKey) : RsnT :=
  match tableIndex k.keyIndex with
  | none => r
  | some i =>
    if r.keysEn i then
      let f := (r.removed i k).fwKey
      let r := { r with keysEn := update r.keysEn i false }
      let r := r.keyRemove i f
      { r with
        keys := update r.keys i { r.keys i with
          keyIndex := (r.keys i).keyIndex &&& 0xFF, keyType := .null, encLen := 0 }
        wepDefaultKeys := update r.wepDefaultKeys i false }
    else r

/-- `rsn_removeKey` for the key of the table at an index: what it makes of the key, it writes into
the table. -/
def removeTableKey (r : RsnT) (i : Index) : RsnT :=
  if r.keysEn i then
    let k := r.removed i (r.keys i)
    ({ r with keys := update r.keys i k } : RsnT).removeKey k
  else r

/-- `rsn_setKey`: its status, and the table. -/
def setKey (r : RsnT) (k : SecurityKey) : Bool × RsnT :=
  match tableIndex k.keyIndex with
  | none => (false, r)
  | some i =>
    if k.keyType = .null then (true, r)
    else
      let r := { r with keys := update r.keys i { r.keys i with
        keyType := k.keyType, keyIndex := k.keyIndex &&& 0xFF } }
      -- In case a new group key is set instead of a unicast key, the unicast key is removed first.
      let r := if k.macAddress = broadcast ∧ (r.keys i).macAddress ≠ broadcast then
          r.removeTableKey i
        else r
      let r := { r with keysEn := update r.keysEn i true }
      (true, r.keyAdd i k.fwKey)

def setDefaultKeyId (r : RsnT) (keyId : BitVec 8) : RsnT := { r with defaultKeyId := keyId }

end RsnT

/-! ## The key parser -/

/-- `OS_802_11_KEY`. -/
structure OsKey where
  KeyIndex : BitVec 32
  KeyLength : ℕ
  BSSID : MacAddr
  deriving DecidableEq

/-- `encodedKeyMaterial_t`, with the address at the start of its data. -/
structure EncodedKeyMaterial where
  keyId : BitVec 32
  keyLen : ℕ
  macAddress : MacAddr

/-- What the key parser looks at: the station's network, the suites, which key state machines have
started, and the address that a derived key has in its uninitialised field. -/
structure Env where
  currentBSSID : MacAddr
  ibss : Bool
  unicastSuite : CipherSuite
  broadcastSuite : CipherSuite
  ucastStarted : Bool
  bcastStarted : Bool
  uninitialised : MacAddr

/-- `WEP_KEY_LEN_40`, `WEP_KEY_LEN_104`, `WEP_KEY_LEN_232`. -/
def wepKeyLens : List ℕ := [5, 13, 29]

abbrev tkipKeyLen : ℕ := 32

abbrev aesKeyLen : ℕ := 16

/-- `MAC_ADDR_LEN + KEY_RSC_LEN`. -/
abbrev macRscLen : ℕ := 14

def transmitMask : BitVec 32 := 0x80000000#32

def pairwiseGroupMask : BitVec 32 := 0x40000000#32

def suppAuthenticatorMask : BitVec 32 := 0x10000000#32

def remainBitsMask : BitVec 32 := 0x0FFFFF00#32

/-- The `derive` function of a suite: the key it sets, if the length of the material is right. The
functions for WEP and CKIP leave the address of the key as it is. -/
def CipherSuite.derive (suite : CipherSuite) (env : Env) (e : EncodedKeyMaterial) :
    Option SecurityKey :=
  let keyIndex := e.keyId &&& 0xFF
  match suite with
  | .none | .wep =>
    if e.keyLen ∈ wepKeyLens then some ⟨.wep, e.keyLen, keyIndex, env.uninitialised⟩ else .none
  | .tkip => if e.keyLen < 44 then .none else some ⟨.tkip, 16, keyIndex, e.macAddress⟩
  | .ckip =>
    if e.keyLen ∈ [16, 5, 13] then some ⟨.xcc, e.keyLen, keyIndex, env.uninitialised⟩ else .none
  | .aesCcmp => if e.keyLen < 28 then .none else some ⟨.aes, 16, keyIndex, e.macAddress⟩

/-- The `remove` function of a suite: the key it removes. -/
def CipherSuite.remove (suite : CipherSuite) (e : EncodedKeyMaterial) : Option SecurityKey :=
  let keyIndex := e.keyId &&& 0xFF
  match suite with
  | .none => .none
  | .wep => some ⟨.wep, 0, keyIndex, e.macAddress⟩
  | .tkip => some ⟨.tkip, 16, keyIndex, e.macAddress⟩
  | .ckip => some ⟨.xcc, 16, keyIndex, e.macAddress⟩
  | .aesCcmp => some ⟨.aes, 16, keyIndex, e.macAddress⟩

/-- What `keyParserExternal_recv` does with a key. -/
inductive Parsed
  | refused
  /-- The key of another station is left alone, with the status `TI_OK`. -/
  | ignored
  | unicast (e : EncodedKeyMaterial)
  /-- A group key; one used to transmit is set as unicast key as well. -/
  | broadcast (e : EncodedKeyMaterial) (transmit : Bool)

/-- `keyParserExternal_recv`, up to the calls of `recvSuccess`. -/
def parseAdd (env : Env) (key : OsKey) : Parsed :=
  let wepKey := decide (key.KeyLength ∈ wepKeyLens)
  let macEqual2Associated := decide (key.BSSID = env.currentBSSID) || wepKey
  let macIsBroadcast := decide (key.BSSID = Rsn.broadcast) || (wepKey && decide (key.BSSID = 0))
  let transmit := decide (key.KeyIndex &&& transmitMask ≠ 0)
  let e : EncodedKeyMaterial := {
    keyId := key.KeyIndex
    keyLen :=
      if wepKey ∨ (key.KeyLength = aesKeyLen ∧ env.unicastSuite = .ckip) then key.KeyLength
      else macRscLen + key.KeyLength
    macAddress := key.BSSID }
  -- WEP material lies over the address, which no derivation for its lengths reads.
  let group := { e with macAddress := if wepKey then key.BSSID else Rsn.broadcast }
  if ¬ (wepKey ∨ key.KeyLength = tkipKeyLen ∨ key.KeyLength = aesKeyLen) then .refused
  else if key.KeyIndex &&& suppAuthenticatorMask ≠ 0 ∧ env.ibss then .refused
  else if key.KeyIndex &&& remainBitsMask ≠ 0 then .refused
  else if key.KeyIndex &&& pairwiseGroupMask ≠ 0 then
    if ¬ wepKey ∧ key.KeyIndex &&& 0xFF ≠ 0 then .refused
    else if macIsBroadcast then .refused
    else if transmit then .unicast e
    else .refused
  else if ¬ macIsBroadcast then
    if env.ibss then .refused
    else if ¬ macEqual2Associated then .ignored
    else .broadcast group false
  else .broadcast group transmit

/-- `keyParserExternal_remove`: its status, and the key that its derivation removes. -/
def parseRemove (env : Env) (key : OsKey) : Bool × Option SecurityKey :=
  if key.KeyIndex &&& transmitMask ≠ 0 then (false, none)
  else if key.KeyIndex &&& remainBitsMask ≠ 0 then (false, none)
  else if key.KeyIndex &&& pairwiseGroupMask ≠ 0 then
    let mac := if key.BSSID ≠ broadcast then key.BSSID else env.currentBSSID
    (true, env.unicastSuite.remove ⟨key.KeyIndex, 0, mac⟩)
  else (true, env.broadcastSuite.remove ⟨key.KeyIndex, 0, broadcast⟩)

namespace RsnT

/-- `broadcastKey802_1x_recvSuccess` and `broadcastKeyNone_distribute`. -/
def recvBroadcast (r : RsnT) (env : Env) (e : EncodedKeyMaterial) : Bool × RsnT :=
  if env.bcastStarted then
    match env.broadcastSuite.derive env e with
    | none => (false, r)
    | some k => r.setKey k
  else (true, r)

/-- `unicastKey802_1x_recvSuccess` and `unicastKeyNone_distribute`. -/
def recvUnicast (r : RsnT) (env : Env) (e : EncodedKeyMaterial) : Bool × RsnT :=
  if env.ucastStarted then
    match env.unicastSuite.derive env e with
    | none => (false, r)
    | some k =>
      match r.setKey k with
      | (false, r) => (false, r)
      | (true, r) => (true, r.setDefaultKeyId (e.keyId.setWidth 8))
  else (true, r)

/-- `keyParserExternal_recv`. -/
def recv (r : RsnT) (env : Env) (key : OsKey) : Bool × RsnT :=
  match parseAdd env key with
  | .refused => (false, r)
  | .ignored => (true, r)
  | .unicast e => r.recvUnicast env e
  | .broadcast e transmit =>
    let (status, r) := r.recvBroadcast env e
    if transmit then r.recvUnicast env e else (status, r)

/-! ## `rsn_setParam` -/

/-- What `rsn_setParam` keeps of a key that was added. -/
def storeKey (r : RsnT) (i : Index) (keyIndex : BitVec 32) (encLen : ℕ) (mac : MacAddr) : RsnT :=
  { r with keys := update r.keys i { r.keys i with
    keyIndex := keyIndex, encLen := encLen, macAddress := mac } }

/-- The key is the new transmit key: the flag of all other keys is cleared. -/
def setTransmitKey (r : RsnT) (i : Index) : RsnT :=
  { r with
    defaultKeyId := BitVec.ofNat 8 i
    keys := fun j => { r.keys j with keyIndex :=
      if j ≠ i then (r.keys j).keyIndex &&& ~~~transmitMask else (r.keys j).keyIndex } }

def markDefault (r : RsnT) (i : Index) : RsnT :=
  if r.defaultKeysOn then
    { r with wepDefaultKeys := update r.wepDefaultKeys i true, wepStaticKey := true }
  else r

/-- What `rsn_setParam` does after it added a key. -/
def store (r : RsnT) (i : Index) (keyIndex : BitVec 32) (encLen : ℕ) (mac : MacAddr) : RsnT :=
  let r := r.storeKey i keyIndex encLen mac
  let r := if keyIndex &&& transmitMask ≠ 0 then r.setTransmitKey i else r
  r.markDefault i

def addKeyParam (r : RsnT) (env : Env) (key : OsKey) : RsnT :=
  match tableIndex key.KeyIndex with
  | none => r
  | some i =>
    match r.recv env key with
    | (false, r) => r
    | (true, r) =>
      ({ r with wepDefaultKeys := update r.wepDefaultKeys i false } : RsnT).store i
        key.KeyIndex key.KeyLength key.BSSID

def removeKeyParam (r : RsnT) (env : Env) (key : OsKey) : RsnT :=
  match tableIndex key.KeyIndex with
  | none => r
  | some i =>
    match parseRemove env key with
    | (false, _) => r
    | (true, o) =>
      let r := o.elim r r.removeKey
      { r with keys := update r.keys i { r.keys i with
        keyType := .null, keyIndex := (r.keys i).keyIndex &&& 0xFF } }

def setKeyParam (r : RsnT) (k : SecurityKey) : RsnT :=
  if k.keyIndex.toNat < 4 then
    if k.keyType = .null ∨ k.encLen = 0 then r.removeKey k
    else
      match tableIndex k.keyIndex with
      | none => r
      | some i => (r.setKey k).2.store i k.keyIndex k.encLen k.macAddress
  else r

/-! ## Stopping -/

/-- The copy of the table's key that `rsn_stop` and `rsn_removedDefKeys` remove. -/
def copyKey (r : RsnT) (i : Index) : SecurityKey := { r.keys i with keyIndex := BitVec.ofNat 32 i }

/-- One round of the loop of `rsn_stop`. -/
def stopKey (r : RsnT) (i : Index) : RsnT :=
  if r.wepDefaultKeys i then r else r.removeKey (r.copyKey i)

/-- `rsn_stop`. -/
def stop (r : RsnT) : RsnT :=
  { (List.finRange 4).foldl stopKey r with defaultKeysOn := true }

end RsnT

/-- What is asked of the module. `defaultKeysOn` is what `rsn_start` and the other parameters make
of the flag. -/
inductive Op
  | setKey (k : SecurityKey)
  | removeKey (k : SecurityKey)
  | setDefaultKeyId (keyId : BitVec 8)
  | addKeyParam (env : Env) (key : OsKey)
  | removeKeyParam (env : Env) (key : OsKey)
  | setKeyParam (k : SecurityKey)
  | defaultKeysOn (on : Bool)
  | stop

def step (r : RsnT) : Op → Option RsnT
  | .setKey k => some (r.setKey k).2
  | .removeKey k => some (r.removeKey k)
  | .setDefaultKeyId keyId => some (r.setDefaultKeyId keyId)
  | .addKeyParam env key => some (r.addKeyParam env key)
  | .removeKeyParam env key => some (r.removeKeyParam env key)
  | .setKeyParam k => some (r.setKeyParam k)
  | .defaultKeysOn on => some { r with defaultKeysOn := on }
  | .stop => some r.stop

end ArchosGpl.Wlan.Rsn
