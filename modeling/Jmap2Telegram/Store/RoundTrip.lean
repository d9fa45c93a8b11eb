import Jmap2Telegram.Store.Durability

/-!
# The state file reads back

What `serde` may write for the data: a `HashMap` comes out in any order of its entries. Whatever the
orders, and whatever the key and the nonce, the file reads back as the data, provided every shared
account names its parent slot; every record is read as the unified format.

* `Account.Writes.deserialize`: a record is read as the unified format, field by field.
* `StoreData.Writes.deserialize`: the data reads back.
* `decrypt_encrypt`: so does the file.
-/

namespace Jmap2Telegram

open Json Serde

namespace Serde

variable {κ α : Type} [Ord κ] [Std.TransOrd κ]

/-- What may be written for a `HashMap`: its entries in some order, each value as `writes` says. -/
def WritesMap (key : κ → String) (writes : α → Json → Prop) (m : Map κ α) (v : Json) : Prop :=
  ∃ entries fields, v = obj fields ∧ entries.Perm m.toList ∧
    List.Forall₂ (fun entry field => field.1 = key entry.1 ∧ writes entry.2 field.2) entries fields

variable {key : κ → String} {writes : α → Json → Prop} {m : Map κ α} {v : Json}

/-- The key order is one of the orders. -/
theorem writesMap_ofMap {f : α → Json} (h : ∀ a, writes a (f a)) :
    WritesMap key writes m (ofMap key f m) := by
  refine ⟨m.toList, _, rfl, .refl _, ?_⟩
  induction m.toList with
  | nil => exact .nil
  | cons entry entries ih => exact .cons ⟨rfl, h entry.2⟩ ih

variable [Std.LawfulEqOrd κ]

/-- A map reads back as its values do, in whatever order it was written. -/
theorem toMap_of_writesMap {toKey : String → Option κ} (hkey : ∀ k, toKey (key k) = some k)
    {f : Json → Option α} (hm : WritesMap key writes m v)
    (h : ∀ (k : κ) (a : α), m[k]? = some a → ∀ w, writes a w → f w = some a) :
    toMap toKey f v = some m := by
  obtain ⟨entries, fields, rfl, hperm, hfields⟩ := hm
  have hstored : ∀ entry ∈ entries, m[entry.1]? = some entry.2 := fun entry hentry =>
    Std.ExtTreeMap.mem_toList_iff_getElem?_eq_some.mp (hperm.mem_iff.mp hentry)
  -- every entry reads back by itself
  have hread : fields.mapM (fun entry => do
        let k ← toKey entry.1
        let w ← f entry.2
        some (k, w)) = some entries := by
    clear hperm
    induction hfields with
    | nil => rfl
    | @cons entry field entries fields hentry _ ih =>
      have hvalue : f field.2 = some entry.2 :=
        h entry.1 entry.2 (hstored entry List.mem_cons_self) field.2 hentry.2
      have hrest := ih fun other hother => hstored other (List.mem_cons_of_mem entry hother)
      simp only [Option.bind_eq_bind] at hrest
      simp [hentry.1, hkey, hvalue, hrest]
  simp only [toMap, hread]
  exact congrArg some (Map.ofList_of_perm hperm)

end Serde

/-! ### What may be written -/

/-- What may be written for a record. -/
def Account.Writes (account : Account) (v : Json) : Prop :=
  ∃ shared, WritesMap id (fun shared v => v = SharedAccount.serialize shared)
      account.sharedAccounts shared ∧
    v = obj [("language", ofOption str account.language), ("shared_accounts", shared),
      ("accounts", ofMap id AccountSlot.serialize account.accounts),
      ("muted", arr (account.muted.map str)),
      ("threads_enabled", ofOption bool account.threadsEnabled)]

/-- What may be written for the data. -/
def StoreData.Writes (data : StoreData) (v : Json) : Prop :=
  ∃ accounts, WritesMap ofChatId Account.Writes data.accounts accounts ∧
    v = obj [("accounts", accounts)]

/-- Every record of a written state file is read as the unified format. -/
def ReadsUnified (v : Json) : Prop :=
  ∃ fields, v = obj [("accounts", obj fields)] ∧ ∀ field ∈ fields,
    ∃ accounts language sharedAccounts muted threadsEnabled,
      AccountVersion.deserialize field.2 =
        some (.unified accounts language sharedAccounts muted threadsEnabled)

theorem Account.writes_serialize (account : Account) : account.Writes account.serialize :=
  ⟨_, writesMap_ofMap fun _ => rfl, rfl⟩

theorem StoreData.writes_serialize (data : StoreData) : data.Writes data.serialize :=
  ⟨_, writesMap_ofMap Account.writes_serialize, rfl⟩

/-! ### Reading it -/

section

variable {account : Account} {data : StoreData} {v : Json}

/-- A record is read as the unified format, with all its fields. -/
theorem Account.Writes.deserializeVersion (h : account.Writes v) :
    AccountVersion.deserialize v = some (.unified account.accounts account.language
      account.sharedAccounts account.muted account.threadsEnabled) := by
  obtain ⟨shared, hshared, rfl⟩ := h
  have some_id (k : String) : some (id k) = some k := rfl
  have haccounts : toMap some AccountSlot.deserialize
      (ofMap id AccountSlot.serialize account.accounts) = some account.accounts :=
    toMap_of_writesMap some_id (writesMap_ofMap fun _ => rfl) fun _ slot _ w hw =>
      hw ▸ AccountSlot.deserialize_serialize slot
  have hread : toMap some SharedAccount.deserialize shared = some account.sharedAccounts :=
    toMap_of_writesMap some_id hshared fun _ entry _ w hw =>
      hw ▸ SharedAccount.deserialize_serialize entry
  simp [AccountVersion.deserialize, AccountVersion.deserializeUnified, required, defaulted, field,
    haccounts, hread]

/-- A record whose shared accounts name their parents reads back. -/
theorem Account.Writes.deserialize (h : account.Writes v) (hparents : account.NamesParents) :
    Account.deserialize v = some account := by
  rw [Account.deserialize, h.deserializeVersion, Option.map_some, Account.ofVersion]
  exact congrArg some (Account.nameParents_eq_self hparents)

/-- The data reads back. -/
theorem StoreData.Writes.deserialize (h : data.Writes v) (hparents : data.NamesParents) :
    StoreData.deserialize v = some data := by
  obtain ⟨accounts, haccounts, rfl⟩ := h
  have hread : toMap toChatId Account.deserialize accounts = some data.accounts :=
    toMap_of_writesMap toChatId_ofChatId haccounts fun chatId account hc w hw =>
      hw.deserialize (hparents chatId account hc)
  simp [StoreData.deserialize, required, field, hread]

theorem StoreData.Writes.readsUnified (h : data.Writes v) : ReadsUnified v := by
  obtain ⟨_, ⟨entries, fields, rfl, -, hfields⟩, rfl⟩ := h
  refine ⟨fields, rfl, ?_⟩
  induction hfields with
  | nil => simp
  | cons hentry _ ih =>
    rintro field (_ | ⟨_, hfield⟩)
    · exact ⟨_, _, _, _, _, hentry.2.deserializeVersion⟩
    · exact ih field hfield

variable {lib : Externals}

/-- **The state file reads back** as the data it was written from, whatever the order of its maps,
the key and the nonce, and every record is read as the unified format. -/
theorem decrypt_encrypt
    (hjson : ∀ (data : StoreData) (v : Json), data.Writes v →
      lib.fromSlice (lib.toVec v) = some v)
    (haes : ∀ key nonce plaintext,
      lib.aesDecrypt key nonce (lib.aesEncrypt key nonce plaintext) = some plaintext)
    (hparents : data.NamesParents) (hv : data.Writes v) (key : Key) (nonce : Nonce) :
    decrypt lib key (encrypt lib key nonce (lib.toVec v)) = some data ∧ ReadsUnified v := by
  have hdecrypt : decrypt lib key (encrypt lib key nonce (lib.toVec v)) =
      StoreData.deserialize v := by
    rw [decrypt_encrypt_eq, haes, Option.bind_some, hjson data v hv, Option.bind_some]
  rw [hdecrypt]
  exact ⟨hv.deserialize hparents, hv.readsUnified⟩

end

/-- A record with a slot, a shared account under it, a language, a filter and a topic. -/
def sharingAccount : Account :=
  { language := some "fr"
    sharedAccounts := (∅ : Map String SharedAccount).insert "team"
      ⟨"Team", some "s7", some "default", some 12⟩
    accounts := (∅ : Map String AccountSlot).insert "default" sampleSlot
    muted := ["newsletter"]
    threadsEnabled := some true }

/-- Chat 1 with that record. -/
def sharingData : StoreData := ⟨(∅ : Map ChatId Account).insert 1 sharingAccount⟩

theorem namesParents_sharingData : sharingData.NamesParents := by
  intro c account hc a shared ha
  rw [sharingData, Map.getElem?_insert] at hc
  split at hc
  · cases hc
    rw [sharingAccount, Map.getElem?_insert] at ha
    split at ha
    · cases ha
      rfl
    · simp at ha
  · simp at hc

/-- The main result for that record. -/
theorem decrypt_encrypt_sharingData :
    decrypt .concrete sampleKey (encrypt .concrete sampleKey sampleNonce
        (Externals.concrete.toVec sharingData.serialize)) = some sharingData ∧
      ReadsUnified sharingData.serialize :=
  decrypt_encrypt (fun _ v _ => Externals.fromSlice_toVec_concrete v)
    Externals.lawful_concrete.aesDecrypt_aesEncrypt namesParents_sharingData
    sharingData.writes_serialize sampleKey sampleNonce

end Jmap2Telegram
