import Jmap2Telegram.Store.Json

/-!
# The state file

`state.enc` is the JSON of the data, encrypted under the master key: a nonce and then the
ciphertext. `encrypt`, `decrypt` and `Store.openState` are the source's; what they call in other
crates (`serde_json`, `aes_gcm`), and the Unicode case mapping of `std`, are the fields of
`Externals`, whose contract is `Externals.Lawful`.

* `decrypt_seal`: what was written reads back, with every missing parent slot named.
* `Externals.concrete`: an instance whose text layer is `serde_json`'s compact form.

The master key is written once, synced, before anything is stored, and is never written again, so
it is a constant here.
-/

namespace Jmap2Telegram

/-- `KEY_LEN`. -/
abbrev keyLen : ℕ := 32

/-- `NONCE_LEN`. -/
abbrev nonceLen : ℕ := 12

/-- The length of the authentication tag AES-GCM appends. -/
abbrev tagLen : ℕ := 16

/-- The master key. -/
abbrev Key := Vector UInt8 keyLen

/-- A nonce of one encryption. -/
abbrev Nonce := Vector UInt8 nonceLen

/-- The functions of other crates the store calls. -/
structure Externals where
  /-- `str::to_lowercase`. -/
  toLowercase : String → String
  /-- `serde_json::to_vec`, from the JSON value on. -/
  toVec : Json → List UInt8
  /-- `serde_json::from_slice`, up to the JSON value. -/
  fromSlice : List UInt8 → Option Json
  /-- `Aes256Gcm::encrypt`, when it succeeds. -/
  aesEncrypt : Key → Nonce → List UInt8 → List UInt8
  /-- `Aes256Gcm::decrypt`. -/
  aesDecrypt : Key → Nonce → List UInt8 → Option (List UInt8)

/-- What the store relies on: JSON text reads back, and decryption under the same key and nonce
inverts encryption. -/
structure Externals.Lawful (lib : Externals) : Prop where
  fromSlice_toVec : ∀ data : StoreData,
    lib.fromSlice (lib.toVec data.serialize) = some data.serialize
  aesDecrypt_aesEncrypt : ∀ key nonce plaintext,
    lib.aesDecrypt key nonce (lib.aesEncrypt key nonce plaintext) = some plaintext

/-- `encrypt`, with the nonce it draws. -/
def encrypt (lib : Externals) (key : Key) (nonce : Nonce) (plaintext : List UInt8) : List UInt8 :=
  nonce.toList ++ lib.aesEncrypt key nonce plaintext

/-- `decrypt`. -/
def decrypt (lib : Externals) (key : Key) (data : List UInt8) : Option StoreData :=
  if h : data.length < nonceLen then
    none
  else do
    let nonce : Nonce := ⟨(data.take nonceLen).toArray, by simp; omega⟩
    let plaintext ← lib.aesDecrypt key nonce (data.drop nonceLen)
    let value ← lib.fromSlice plaintext
    StoreData.deserialize value

/-- The bytes `persist` writes for the data. -/
def StoreData.seal (lib : Externals) (key : Key) (nonce : Nonce) (data : StoreData) :
    List UInt8 :=
  encrypt lib key nonce (lib.toVec data.serialize)

/-- The data `Store::open` starts from, given what it finds at `state.enc`. -/
def Store.openState (lib : Externals) (key : Key) : Option (List UInt8) → Option StoreData
  | some ciphertext => decrypt lib key ciphertext
  | none => some .empty

section

variable {lib : Externals} {key : Key}

/-- The file is cut again where the nonce ends. -/
theorem decrypt_encrypt_eq (nonce : Nonce) (plaintext : List UInt8) :
    decrypt lib key (encrypt lib key nonce plaintext) =
      (lib.aesDecrypt key nonce (lib.aesEncrypt key nonce plaintext)).bind fun plaintext =>
        (lib.fromSlice plaintext).bind StoreData.deserialize := by
  have hlen : nonce.toList.length = nonceLen := nonce.size_toArray
  have hsize : ¬(encrypt lib key nonce plaintext).length < nonceLen := by
    simp only [encrypt, List.length_append, hlen]
    omega
  have htake : (encrypt lib key nonce plaintext).take nonceLen = nonce.toList := by
    rw [encrypt, List.take_left' hlen]
  have hdrop : (encrypt lib key nonce plaintext).drop nonceLen
      = lib.aesEncrypt key nonce plaintext := by
    rw [encrypt, List.drop_left' hlen]
  simp only [decrypt, dif_neg hsize, htake, hdrop, Vector.toArray_toList]
  rfl

/-- Reading the file back returns the data with its missing parents named. -/
theorem decrypt_seal (hlib : lib.Lawful) (nonce : Nonce) (data : StoreData) :
    decrypt lib key (data.seal lib key nonce) = some data.nameParents := by
  rw [StoreData.seal, decrypt_encrypt_eq, hlib.aesDecrypt_aesEncrypt, Option.bind_some,
    hlib.fromSlice_toVec, Option.bind_some, StoreData.deserialize_serialize]

theorem openState_seal (hlib : lib.Lawful) (nonce : Nonce) (data : StoreData) :
    Store.openState lib key (some (data.seal lib key nonce)) = some data.nameParents :=
  decrypt_seal hlib nonce data

/-- Data that was opened has no missing parent slot. -/
theorem nameParents_of_openState {file : Option (List UInt8)} {data : StoreData}
    (h : Store.openState lib key file = some data) : data.nameParents = data := by
  cases file with
  | none =>
    cases h
    exact congrArg StoreData.mk (Map.map_eq_self fun k v hk => by simp [StoreData.empty] at hk)
  | some ciphertext =>
    simp only [Store.openState, decrypt] at h
    split at h
    · cases h
    · simp only [Option.bind_eq_bind, Option.bind_eq_some_iff] at h
      obtain ⟨_, -, v, -, hdata⟩ := h
      exact StoreData.nameParents_of_deserialize hdata

end

/-! ### A concrete instance -/

namespace Externals

/-- The authentication tag of the stand-in cipher: half of the key. -/
def concreteTag (key : Key) : List UInt8 := key.toList.take tagLen

/-- `serde_json`'s compact text in UTF-8, and a stand-in for the cipher: the plaintext followed by
a tag that depends on the key, so that a wrong key is noticed. -/
def concrete : Externals where
  toLowercase := String.toLower
  toVec v := (String.ofList v.print).toByteArray.data.toList
  fromSlice bytes := (String.fromUTF8? ⟨bytes.toArray⟩).bind fun text => Json.parse text.toList
  aesEncrypt key _ plaintext := plaintext ++ concreteTag key
  aesDecrypt key _ ciphertext :=
    let length := ciphertext.length - tagLen
    if ciphertext.drop length = concreteTag key then some (ciphertext.take length) else none

theorem fromUTF8?_toByteArray (s : String) :
    String.fromUTF8? ⟨s.toByteArray.data⟩ = some s := by
  rw [String.fromUTF8?, dif_pos s.isValidUTF8]
  rfl

theorem fromSlice_toVec_concrete (v : Json) : concrete.fromSlice (concrete.toVec v) = some v := by
  simp only [concrete, Array.toArray_toList, fromUTF8?_toByteArray, Option.bind_some,
    String.toList_ofList, Json.parse_print]

theorem lawful_concrete : concrete.Lawful where
  fromSlice_toVec data := fromSlice_toVec_concrete data.serialize
  aesDecrypt_aesEncrypt key nonce plaintext := by
    have htag : (concreteTag key).length = tagLen := by
      rw [concreteTag, List.length_take, Vector.length_toList]
      rfl
    have hlen : (plaintext ++ concreteTag key).length - tagLen = plaintext.length := by
      rw [List.length_append, htag, Nat.add_sub_cancel]
    simp only [concrete, hlen, List.drop_left, List.take_left, if_true]

end Externals

end Jmap2Telegram
