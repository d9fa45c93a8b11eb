import Mathlib.Algebra.Group.Int.Defs
import Jmap2Telegram.Json.Text
import Jmap2Telegram.Store.Account

/-!
# The state file's JSON

What `serde` derives and what `store.rs` writes by hand for the state file, on JSON values: the
text level is `serde_json`'s (see `Store/Codec.lean`). Writing is derived and always produces the
unified format. Reading a chat record goes through the untagged `AccountVersion`, which tries the
unified format and then the legacy one, and rewrites a missing parent slot to `"default"`.

`deserialize_serialize` is the layer's contract: reading back what was written succeeds, by the
unified path, and returns the data with every missing parent named (`StoreData.nameParents`).

Reading covers objects; serde also reads a struct from an array, which is never written.
-/

namespace Jmap2Telegram

open Json

namespace Serde

/-! ### Writing -/

/-- `Option<T>`: `null` or the value. -/
def ofOption {α : Type} (f : α → Json) : Option α → Json
  | none => null
  | some a => f a

/-- A map, whose keys are written as strings. A `HashMap` is written in no fixed order and read back
to the same map whatever the order; here it is the key order. -/
def ofMap {κ α : Type} [Ord κ] [Std.TransOrd κ] (key : κ → String) (f : α → Json)
    (m : Map κ α) : Json :=
  obj (m.toList.map fun entry => (key entry.1, f entry.2))

/-- A chat id as an object key, in decimal. -/
def ofChatId (chatId : ChatId) : String := chatId.toInt.repr

/-- A thread id. -/
def ofThreadId (id : ThreadId) : Json := num id.toInt

end Serde

open Serde

/-- `Serialize for AccountSlot`. -/
def AccountSlot.serialize (slot : AccountSlot) : Json :=
  obj [("slot_id", str slot.slotId), ("server_url", str slot.serverUrl),
    ("token", str slot.token), ("email", str slot.email),
    ("last_state", ofOption str slot.lastState), ("thread_id", ofOption ofThreadId slot.threadId)]

/-- `Serialize for SharedAccount`. -/
def SharedAccount.serialize (shared : SharedAccount) : Json :=
  obj [("name", str shared.name), ("last_state", ofOption str shared.lastState),
    ("parent_slot", ofOption str shared.parentSlot),
    ("thread_id", ofOption ofThreadId shared.threadId)]

/-- `Serialize for Account`: always the unified format. -/
def Account.serialize (account : Account) : Json :=
  obj [("language", ofOption str account.language),
    ("shared_accounts", ofMap id SharedAccount.serialize account.sharedAccounts),
    ("accounts", ofMap id AccountSlot.serialize account.accounts),
    ("muted", arr (account.muted.map str)),
    ("threads_enabled", ofOption bool account.threadsEnabled)]

/-- `Serialize for StoreData`. -/
def StoreData.serialize (data : StoreData) : Json :=
  obj [("accounts", ofMap ofChatId Account.serialize data.accounts)]

/-! ### Reading -/

namespace Serde

/-- Look a field up by name; `none` when the object names it twice. -/
def field (fields : List (String × Json)) (name : String) : Option (Option Json) :=
  match fields.filter fun entry => entry.1 == name with
  | [] => some none
  | [entry] => some (some entry.2)
  | _ => none

/-- A required field. -/
def required {α : Type} (fields : List (String × Json)) (name : String)
    (f : Json → Option α) : Option α :=
  (field fields name).bind fun v => v.bind f

/-- A field with `#[serde(default)]`, or an `Option` that may be missing. -/
def defaulted {α : Type} (fields : List (String × Json)) (name : String) (default : α)
    (f : Json → Option α) : Option α :=
  (field fields name).bind fun
    | none => some default
    | some v => f v

/-- `String`. -/
def toStr : Json → Option String
  | str s => some s
  | _ => none

/-- `bool`. -/
def toBool : Json → Option Bool
  | .bool b => some b
  | _ => none

/-- `i32`, range-checked. -/
def toThreadId : Json → Option ThreadId
  | num n => if -2 ^ 31 ≤ n ∧ n < 2 ^ 31 then some (Int32.ofInt n) else none
  | _ => none

/-- `Option<T>`. -/
def toOption {α : Type} (f : Json → Option α) : Json → Option (Option α)
  | null => some none
  | v => (f v).map some

/-- `Vec<String>`. -/
def toStrings : Json → Option (List String)
  | arr items => items.mapM toStr
  | _ => none

/-- A map from its entries: a key that comes twice keeps its last value. -/
def toMap {κ α : Type} [Ord κ] (key : String → Option κ) (f : Json → Option α) :
    Json → Option (Map κ α)
  | obj fields => do
    let entries ← fields.mapM fun entry => do
      let k ← key entry.1
      let v ← f entry.2
      some (k, v)
    some (.ofList entries)
  | _ => none

/-- `i64` as an object key: canonical decimal, range-checked. -/
def toChatId (key : String) : Option ChatId :=
  key.toInt?.bind fun n =>
    if n.repr = key ∧ -2 ^ 63 ≤ n ∧ n < 2 ^ 63 then some (Int64.ofInt n) else none

end Serde

/-- `Deserialize for AccountSlot`. -/
def AccountSlot.deserialize : Json → Option AccountSlot
  | obj fields => do
    let slotId ← required fields "slot_id" toStr
    let serverUrl ← required fields "server_url" toStr
    let token ← required fields "token" toStr
    let email ← required fields "email" toStr
    let lastState ← defaulted fields "last_state" none (toOption toStr)
    let threadId ← defaulted fields "thread_id" none (toOption toThreadId)
    some ⟨slotId, serverUrl, token, email, lastState, threadId⟩
  | _ => none

/-- `Deserialize for SharedAccount`. -/
def SharedAccount.deserialize : Json → Option SharedAccount
  | obj fields => do
    let name ← required fields "name" toStr
    let lastState ← defaulted fields "last_state" none (toOption toStr)
    let parentSlot ← defaulted fields "parent_slot" none (toOption toStr)
    let threadId ← defaulted fields "thread_id" none (toOption toThreadId)
    some ⟨name, lastState, parentSlot, threadId⟩
  | _ => none

/-- `LegacyAccountSlotHelper`. -/
structure LegacyAccountSlotHelper where
  serverUrl : String
  token : String
  email : String
  lastState : Option String

/-- `Deserialize for LegacyAccountSlotHelper`. -/
def LegacyAccountSlotHelper.deserialize : Json → Option LegacyAccountSlotHelper
  | obj fields => do
    let serverUrl ← required fields "server_url" toStr
    let token ← required fields "token" toStr
    let email ← required fields "email" toStr
    let lastState ← defaulted fields "last_state" none (toOption toStr)
    some ⟨serverUrl, token, email, lastState⟩
  | _ => none

/-- The two formats a chat record may be stored in. -/
inductive AccountVersion where
  | unified (accounts : Map String AccountSlot) (language : Option String)
      (sharedAccounts : Map String SharedAccount) (muted : List String)
      (threadsEnabled : Option Bool)
  | legacy (serverUrl token email : String) (lastState language : Option String)
      (sharedAccounts : Map String SharedAccount)
      (extraAccounts : Map String LegacyAccountSlotHelper) (muted : List String)
      (threadsEnabled : Option Bool)

/-- The unified variant of `Deserialize for AccountVersion`. -/
def AccountVersion.deserializeUnified (fields : List (String × Json)) : Option AccountVersion := do
  let accounts ← required fields "accounts" (toMap some AccountSlot.deserialize)
  let language ← defaulted fields "language" none (toOption toStr)
  let sharedAccounts ← defaulted fields "shared_accounts" ∅ (toMap some SharedAccount.deserialize)
  let muted ← defaulted fields "muted" [] toStrings
  let threadsEnabled ← defaulted fields "threads_enabled" none (toOption toBool)
  some (.unified accounts language sharedAccounts muted threadsEnabled)

/-- The legacy variant of `Deserialize for AccountVersion`. -/
def AccountVersion.deserializeLegacy (fields : List (String × Json)) : Option AccountVersion := do
  let serverUrl ← required fields "server_url" toStr
  let token ← required fields "token" toStr
  let email ← required fields "email" toStr
  let lastState ← defaulted fields "last_state" none (toOption toStr)
  let language ← defaulted fields "language" none (toOption toStr)
  let sharedAccounts ← defaulted fields "shared_accounts" ∅ (toMap some SharedAccount.deserialize)
  let extraAccounts ← defaulted fields "extra_accounts" ∅
    (toMap some LegacyAccountSlotHelper.deserialize)
  let muted ← defaulted fields "muted" [] toStrings
  let threadsEnabled ← defaulted fields "threads_enabled" none (toOption toBool)
  some (.legacy serverUrl token email lastState language sharedAccounts extraAccounts muted
    threadsEnabled)

/-- `Deserialize for AccountVersion`: untagged, so the first variant that reads wins. -/
def AccountVersion.deserialize : Json → Option AccountVersion
  | obj fields => (deserializeUnified fields).orElse fun _ => deserializeLegacy fields
  | _ => none

/-- A missing parent slot is read as `"default"`. -/
def SharedAccount.nameParent (shared : SharedAccount) : SharedAccount :=
  { shared with parentSlot := some (shared.parentSlot.getD "default") }

/-- `Deserialize for Account`, from the version that was read. -/
def Account.ofVersion : AccountVersion → Account
  | .unified accounts language sharedAccounts muted threadsEnabled =>
    { language, sharedAccounts := sharedAccounts.map fun _ shared => shared.nameParent,
      accounts, muted, threadsEnabled }
  | .legacy serverUrl token email lastState language sharedAccounts extraAccounts muted
      threadsEnabled =>
    { language, sharedAccounts := sharedAccounts.map fun _ shared => shared.nameParent,
      accounts := extraAccounts.foldl
        (fun accounts extraId extra => accounts.insert extraId
          ⟨extraId, extra.serverUrl, extra.token, extra.email, extra.lastState, none⟩)
        ((∅ : Map String AccountSlot).insert "default"
          ⟨"default", serverUrl, token, email, lastState, none⟩)
      muted, threadsEnabled }

/-- `Deserialize for Account`. -/
def Account.deserialize (v : Json) : Option Account :=
  (AccountVersion.deserialize v).map Account.ofVersion

/-- `Deserialize for StoreData`. -/
def StoreData.deserialize : Json → Option StoreData
  | obj fields => do
    let accounts ← required fields "accounts" (toMap toChatId Account.deserialize)
    some ⟨accounts⟩
  | _ => none

/-! ### The round trip -/

/-- Every missing parent slot of the record read as `"default"`. -/
def Account.nameParents (account : Account) : Account :=
  { account with sharedAccounts := account.sharedAccounts.map fun _ shared => shared.nameParent }

/-- What reading back leaves of the data: every missing parent slot becomes `"default"`. -/
def StoreData.nameParents (data : StoreData) : StoreData :=
  ⟨data.accounts.map fun _ account => account.nameParents⟩

namespace Serde

variable {α β : Type}

private theorem mapM_eq_some_map {f : α → Option β} {g : α → β} {l : List α}
    (h : ∀ a ∈ l, f a = some (g a)) : l.mapM f = some (l.map g) := by
  induction l with
  | nil => rfl
  | cons a l ih =>
    have ha : f a = some (g a) := h a List.mem_cons_self
    have hl : l.mapM f = some (l.map g) := ih fun b hb => h b (List.mem_cons_of_mem a hb)
    simp [ha, hl]

/-- An optional value reads back, provided no value is written as `null`. -/
theorem toOption_ofOption {f : Json → Option α} {g : α → Json} (h : ∀ a, f (g a) = some a)
    (hnull : ∀ a, g a ≠ null) (o : Option α) : toOption f (ofOption g o) = some o := by
  cases o with
  | none => rfl
  | some a =>
    have ha := hnull a
    have hf := h a
    cases hg : g a <;> simp_all [ofOption, toOption]

@[simp]
theorem toStr_str (s : String) : toStr (str s) = some s := rfl

@[simp]
theorem toBool_bool (b : Bool) : toBool (.bool b) = some b := rfl

@[simp]
theorem toOption_ofOption_str (o : Option String) : toOption toStr (ofOption str o) = some o :=
  toOption_ofOption toStr_str (by simp) o

@[simp]
theorem toOption_ofOption_bool (o : Option Bool) : toOption toBool (ofOption bool o) = some o :=
  toOption_ofOption toBool_bool (by simp) o

@[simp]
theorem toThreadId_ofThreadId (id : ThreadId) : toThreadId (ofThreadId id) = some id := by
  have hlo : -2 ^ 31 ≤ id.toInt := Int32.le_toInt id
  have hhi : id.toInt < 2 ^ 31 := Int32.toInt_lt id
  simp only [ofThreadId, toThreadId, if_pos (And.intro hlo hhi), Int32.ofInt_toInt]

@[simp]
theorem toOption_ofOption_threadId (o : Option ThreadId) :
    toOption toThreadId (ofOption ofThreadId o) = some o :=
  toOption_ofOption toThreadId_ofThreadId (by simp [ofThreadId]) o

@[simp]
theorem toStrings_arr (l : List String) : toStrings (arr (l.map str)) = some l := by
  simp only [toStrings, List.mapM_map]
  exact (mapM_eq_some_map fun _ _ => rfl).trans (congrArg some (List.map_id l))

/-- A chat id reads back from its decimal form. -/
@[simp]
theorem toChatId_ofChatId (chatId : ChatId) : toChatId (ofChatId chatId) = some chatId := by
  have hlo : -2 ^ 63 ≤ chatId.toInt := Int64.le_toInt chatId
  have hhi : chatId.toInt < 2 ^ 63 := Int64.toInt_lt chatId
  have hread : chatId.toInt.repr.toInt? = some chatId.toInt := Int.toInt?_repr _
  simp only [ofChatId, toChatId, hread, Option.bind_some, true_and, if_pos (And.intro hlo hhi),
    Int64.ofInt_toInt]

/-- A map reads back as its values do. -/
theorem toMap_ofMap {κ : Type} [Ord κ] [Std.TransOrd κ] [Std.LawfulEqOrd κ]
    {ofKey : κ → String} {toKey : String → Option κ} (hkey : ∀ k, toKey (ofKey k) = some k)
    {f : Json → Option β} {g : α → Json} {r : α → β} (h : ∀ a, f (g a) = some (r a))
    (m : Map κ α) : toMap toKey f (ofMap ofKey g m) = some (m.map fun _ a => r a) := by
  have hentries : (m.toList.map fun entry => (ofKey entry.1, g entry.2)).mapM (fun entry => do
        let k ← toKey entry.1
        let v ← f entry.2
        some (k, v))
      = some (m.toList.map fun entry => (entry.1, r entry.2)) := by
    rw [List.mapM_map]
    refine mapM_eq_some_map fun entry _ => ?_
    simp [hkey, h]
  have hrebuild := Map.ofList_toList (m.map fun _ a => r a)
  rw [Std.ExtTreeMap.toList_map] at hrebuild
  simp only [toMap, ofMap, hentries]
  exact congrArg some hrebuild

private theorem exists_of_mem_mapM {f : α → Option β} {l : List α} {l' : List β}
    (h : l.mapM f = some l') {b : β} (hb : b ∈ l') : ∃ a ∈ l, f a = some b := by
  induction l generalizing l' with
  | nil =>
    cases h
    cases hb
  | cons a l ih =>
    simp only [List.mapM_cons, Option.bind_eq_bind, Option.bind_eq_some_iff] at h
    obtain ⟨b', hb', l'', hl'', hcons⟩ := h
    cases hcons
    rcases List.mem_cons.mp hb with rfl | hb
    · exact ⟨a, List.mem_cons_self, hb'⟩
    · obtain ⟨a', ha', hf⟩ := ih hl'' hb
      exact ⟨a', List.mem_cons_of_mem a ha', hf⟩

/-- Every value of a map that was read was read by the value's reader. -/
theorem exists_of_toMap {κ : Type} [Ord κ] [Std.TransOrd κ] [Std.LawfulEqOrd κ]
    {toKey : String → Option κ} {f : Json → Option β} {v : Json} {m : Map κ β}
    (h : toMap toKey f v = some m) {k : κ} {b : β} (hk : m[k]? = some b) :
    ∃ v', f v' = some b := by
  unfold toMap at h
  split at h
  · simp only [Option.bind_eq_bind, Option.bind_eq_some_iff] at h
    obtain ⟨entries, hentries, hm⟩ := h
    cases hm
    obtain ⟨entry, -, hentry⟩ := exists_of_mem_mapM hentries (Map.mem_of_getElem?_ofList hk)
    simp only [Option.bind_eq_some_iff] at hentry
    obtain ⟨_, -, b', hb', heq⟩ := hentry
    cases heq
    exact ⟨_, hb'⟩
  · cases h

end Serde

/-- A slot reads back as it was written. -/
theorem AccountSlot.deserialize_serialize (slot : AccountSlot) :
    AccountSlot.deserialize slot.serialize = some slot := by
  simp [deserialize, serialize, required, defaulted, field]

/-- A shared account reads back as it was written. -/
theorem SharedAccount.deserialize_serialize (shared : SharedAccount) :
    SharedAccount.deserialize shared.serialize = some shared := by
  simp [deserialize, serialize, required, defaulted, field]

/-- A chat record reads back by the unified path, with its missing parents named. -/
theorem Account.deserialize_serialize (account : Account) :
    Account.deserialize account.serialize = some account.nameParents := by
  have some_id (k : String) : some (id k) = some k := rfl
  have haccounts := toMap_ofMap some_id AccountSlot.deserialize_serialize account.accounts
  have hshared :=
    toMap_ofMap some_id SharedAccount.deserialize_serialize account.sharedAccounts
  simp [deserialize, serialize, AccountVersion.deserialize, AccountVersion.deserializeUnified,
    required, defaulted, field, haccounts, hshared, ofVersion, nameParents]

/-- **Main result.** Reading back what was written succeeds, and returns the data with every
missing parent slot named. -/
theorem StoreData.deserialize_serialize (data : StoreData) :
    StoreData.deserialize data.serialize = some data.nameParents := by
  have haccounts := toMap_ofMap toChatId_ofChatId Account.deserialize_serialize data.accounts
  simp [deserialize, serialize, required, field, haccounts, nameParents]

/-! ### What was read names its parents -/

@[simp]
theorem SharedAccount.nameParent_nameParent (shared : SharedAccount) :
    shared.nameParent.nameParent = shared.nameParent := rfl

/-- A shared account that names its parent is left alone. -/
theorem SharedAccount.nameParent_eq_self {shared : SharedAccount}
    (h : shared.parentSlot.isSome) : shared.nameParent = shared := by
  obtain ⟨name, lastState, parentSlot, threadId⟩ := shared
  cases parentSlot with
  | none => cases h
  | some parent => rfl

theorem Account.nameParents_ofVersion (version : AccountVersion) :
    (Account.ofVersion version).nameParents = Account.ofVersion version := by
  cases version <;> simp [ofVersion, nameParents]

/-- Data that was read has no missing parent slot. -/
theorem StoreData.nameParents_of_deserialize {v : Json} {data : StoreData}
    (h : StoreData.deserialize v = some data) : data.nameParents = data := by
  unfold deserialize at h
  split at h
  case h_2 => cases h
  case h_1 fields =>
    simp only [required, Option.bind_eq_bind, Option.bind_eq_some_iff] at h
    obtain ⟨accounts, ⟨_, -, _, -, haccounts⟩, hdata⟩ := h
    cases hdata
    refine congrArg StoreData.mk (Map.map_eq_self fun chatId account hk => ?_)
    obtain ⟨v', hv'⟩ := exists_of_toMap haccounts hk
    obtain ⟨version, -, rfl⟩ := Option.map_eq_some_iff.mp hv'
    exact Account.nameParents_ofVersion version

end Jmap2Telegram
