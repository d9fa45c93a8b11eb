import Jmap2Telegram.State.Contents

/-!
# Edits in place

Most operations neither add nor remove a mailbox: they move a cursor, store a topic, or change the
language, the threads or the muted terms of a chat. Such an edit keeps the ids and the credentials
of the slots and the parents of the shared accounts, and with them the invariant of the store.

* `editedTo_apply`: what these operations do.
* `EditedTo.holds_iff`, `EditedTo.wellFormed`: what an edit keeps.
-/

namespace Jmap2Telegram

/-- The operations that edit records in place. -/
def Op.edits : Op → Bool
  | .updateState _ _ | .updateAccountState _ _ _ | .setAccountThreadId _ _ _
  | .setSharedAccountThreadId _ _ _ | .setThreadsEnabled _ _ | .setLanguage _ _
  | .updateSharedAccountState _ _ _ | .mute _ _ | .unmute _ _ => true
  | _ => false

/-! ### One record -/

/-- What an edit keeps of a slot: its id, its server and its token. -/
def AccountSlot.connection (slot : AccountSlot) : String × String × String :=
  (slot.slotId, slot.serverUrl, slot.token)

namespace Account

/-- A record after an edit: the same slots with the same credentials, the same shared accounts under
the same parents. -/
structure EditedTo (account account' : Account) : Prop where
  minKey : account'.accounts.minKey? = account.accounts.minKey?
  slots : ∀ s : String, account'.accounts[s]?.map AccountSlot.connection =
    account.accounts[s]?.map AccountSlot.connection
  shared : ∀ a : String, account'.sharedAccounts[a]?.map SharedAccount.parentSlot =
    account.sharedAccounts[a]?.map SharedAccount.parentSlot

variable (account : Account)

/-- A change of a slot that keeps its connection is an edit. -/
theorem editedTo_modifySlot (slotId : String) {f : AccountSlot → AccountSlot}
    (hf : ∀ slot, (f slot).connection = slot.connection) :
    account.EditedTo (account.modifySlot slotId f) where
  minKey := Std.ExtTreeMap.minKey?_modify_eq_minKey?
  slots _ := Map.map_getElem?_modify hf
  shared _ := rfl

/-- So is one of the primary slot. -/
theorem editedTo_modifyPrimarySlot {f : AccountSlot → AccountSlot}
    (hf : ∀ slot, (f slot).connection = slot.connection) :
    account.EditedTo (account.modifyPrimarySlot f) := by
  rw [modifyPrimarySlot]
  split
  · exact account.editedTo_modifySlot _ hf
  · exact ⟨rfl, fun s => rfl, fun a => rfl⟩

/-- So is a change of a shared account that keeps its parent. -/
theorem editedTo_modifyShared (accountId : String) {f : SharedAccount → SharedAccount}
    (hf : ∀ shared, (f shared).parentSlot = shared.parentSlot) :
    account.EditedTo (account.modifyShared accountId f) where
  minKey := rfl
  slots _ := rfl
  shared _ := Map.map_getElem?_modify hf

variable {account}

/-- An edit keeps which slot is the first one. -/
theorem EditedTo.primarySlot {account' : Account} (h : account.EditedTo account') :
    account'.primarySlot.map AccountSlot.connection =
      account.primarySlot.map AccountSlot.connection := by
  rw [primarySlot_eq, primarySlot_eq, h.minKey]
  rcases account.accounts.minKey? with - | slotId
  · rfl
  · exact h.slots slotId

end Account

/-! ### The store -/

namespace StoreData

/-- The data after an edit. -/
structure EditedTo (data data' : StoreData) : Prop where
  slots : ∀ (c : ChatId) (s : String), (data'.slot? c s).map AccountSlot.connection =
    (data.slot? c s).map AccountSlot.connection
  primary : ∀ c : ChatId,
    (data'.accounts[c]?.bind Account.primarySlot).map AccountSlot.connection =
      (data.accounts[c]?.bind Account.primarySlot).map AccountSlot.connection
  shared : ∀ (c : ChatId) (a : String), (data'.shared? c a).map SharedAccount.parentSlot =
    (data.shared? c a).map SharedAccount.parentSlot

variable {lib : Externals} {data data' : StoreData} {chatId c : ChatId} {m : Mailbox} {op : Op}

theorem EditedTo.refl (data : StoreData) : data.EditedTo data :=
  ⟨fun _ _ => rfl, fun _ => rfl, fun _ _ => rfl⟩

/-- Editing the record of a chat. -/
theorem editedTo_modify {f : Account → Account}
    (hf : ∀ account : Account, account.EditedTo (f account)) :
    data.EditedTo (data.modify chatId f) where
  slots c s := by
    rw [slot?, slot?, getElem?_modify]
    split
    · rcases data.accounts[c]? with - | account
      · rfl
      · exact (hf account).slots s
    · rfl
  primary c := by
    rw [getElem?_modify]
    split
    · rcases data.accounts[c]? with - | account
      · rfl
      · exact (hf account).primarySlot
    · rfl
  shared c a := by
    rw [shared?, shared?, getElem?_modify]
    split
    · rcases data.accounts[c]? with - | account
      · rfl
      · exact (hf account).shared a
    · rfl

/-- **An operation that edits in place** keeps the mailboxes. -/
theorem editedTo_apply (lib : Externals) (data : StoreData) (h : op.edits = true) :
    data.EditedTo (op.apply lib data) := by
  have hsection := sectionEdit lib op data
  rw [Op.apply]
  generalize op.lockedSection lib data = result at hsection ⊢
  cases hsection with
  | same => exact .refl data
  | edited _ f r hedit =>
    refine editedTo_modify fun account => ?_
    cases hedit with
    | updateState => exact account.editedTo_modifyPrimarySlot fun _ => rfl
    | updateAccountState | setAccountThreadId =>
      exact account.editedTo_modifySlot _ fun _ => rfl
    | setSharedAccountThreadId | updateSharedAccountState =>
      exact account.editedTo_modifyShared _ fun _ => rfl
    | setThreadsEnabled | setLanguage | mute | unmute => exact ⟨rfl, fun _ => rfl, fun _ => rfl⟩
    -- the other operations add or remove something
    | setSharedAccount | removeSharedAccount | addExtraAccount => cases h
  | set | addAccount | removeAccount | remove => cases h

/-! ### What an edit keeps -/

/-- An edit adds no slot and removes none. -/
theorem EditedTo.isSome_slot? (h : data.EditedTo data') (c : ChatId) (s : String) :
    (data'.slot? c s).isSome = (data.slot? c s).isSome := by
  rw [← Option.isSome_map (f := AccountSlot.connection), h.slots, Option.isSome_map]

theorem EditedTo.isSome_shared? (h : data.EditedTo data') (c : ChatId) (a : String) :
    (data'.shared? c a).isSome = (data.shared? c a).isSome := by
  rw [← Option.isSome_map (f := SharedAccount.parentSlot), h.shared, Option.isSome_map]

/-- An edit keeps the mailboxes. -/
theorem EditedTo.holds_iff (h : data.EditedTo data') : data'.Holds c m ↔ data.Holds c m := by
  cases m with
  | account s => rw [Holds, Holds, h.isSome_slot?]
  | shared a => rw [Holds, Holds, h.isSome_shared?]

/-- An edit keeps the invariant of the store. -/
theorem EditedTo.wellFormed (h : data.EditedTo data') (hdata : data.WellFormed) :
    data'.WellFormed := by
  refine hdata.of_lookups (fun c s slot hs => ?_) (fun c a shared ha => ?_)
    fun c a shared p _ _ hp => ?_
  · have hslot := h.slots c s
    rw [hs, Option.map_some, eq_comm, Option.map_eq_some_iff] at hslot
    obtain ⟨slot', hslot', hid⟩ := hslot
    exact ⟨slot', hslot', (congrArg Prod.fst hid).symm⟩
  · have hshared := h.shared c a
    rw [ha, Option.map_some, eq_comm, Option.map_eq_some_iff] at hshared
    obtain ⟨shared', hshared', hparent⟩ := hshared
    exact ⟨shared', hshared', hparent.symm⟩
  · rwa [h.isSome_slot?]

end StoreData

end Jmap2Telegram
