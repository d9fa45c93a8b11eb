import Jmap2Telegram.Store.Codec
import Jmap2Telegram.Transition.Execution

/-!
# The store's operations

Every operation of `Store` takes the write lock on the data for one section, and then returns or
runs `persist`. A section is a function from the data to the data and a `Next` saying what the call
does after it; `remove_account` alone has a second section, which deletes a chat's record when the
first left it without slots. `Op.section` dispatches on the call.

`Store.exec` runs a whole call by itself: its sections, then `persist`, which may fail. The calls of
several tasks interleaved are in `Store/Interleave.lean`.
-/

namespace Jmap2Telegram

/-- What a successful call returns. -/
inductive Ret where
  | unit
  | bool (b : Bool)
  | slotId (id : String)
  | slotId? (id : Option String)
  deriving DecidableEq

/-- What a call does once its first section has run. -/
inductive Next where
  /-- Return without writing the file. -/
  | ret (r : Ret)
  /-- Run `persist`, then return. -/
  | persist (r : Ret)
  /-- Take the lock again and delete the chat's record, then `persist` and return. -/
  | removeChat (chatId : ChatId) (r : Ret)
  deriving DecidableEq

/-! ### Editing the data -/

/-- The first connected slot, edited in place (`primary_slot_mut`). -/
def Account.modifyPrimarySlot (account : Account) (f : AccountSlot → AccountSlot) : Account :=
  match account.accounts.keys.head? with
  | some slotId => { account with accounts := account.accounts.modify slotId f }
  | none => account

/-- A slot, edited in place. -/
def Account.modifySlot (account : Account) (slotId : String) (f : AccountSlot → AccountSlot) :
    Account :=
  { account with accounts := account.accounts.modify slotId f }

/-- A shared account, edited in place. -/
def Account.modifyShared (account : Account) (accountId : String)
    (f : SharedAccount → SharedAccount) : Account :=
  { account with sharedAccounts := account.sharedAccounts.modify accountId f }

namespace StoreData

/-- A chat's record, edited in place. -/
def modify (data : StoreData) (chatId : ChatId) (f : Account → Account) : StoreData :=
  ⟨data.accounts.modify chatId f⟩

/-- Delete a chat's record. -/
def erase (data : StoreData) (chatId : ChatId) : StoreData := ⟨data.accounts.erase chatId⟩

/-- A slot of a chat. -/
def slot? (data : StoreData) (chatId : ChatId) (slotId : String) : Option AccountSlot :=
  data.accounts[chatId]?.bind fun account => account.accounts[slotId]?

/-- A shared account of a chat. -/
def shared? (data : StoreData) (chatId : ChatId) (accountId : String) : Option SharedAccount :=
  data.accounts[chatId]?.bind fun account => account.sharedAccounts[accountId]?

end StoreData

/-! ### The sections -/

namespace Store

/-- `set`. -/
def set (chatId : ChatId) (account : Account) (data : StoreData) : StoreData × Next :=
  (⟨data.accounts.insert chatId account⟩, .persist .unit)

/-- `update_state`. -/
def updateState (chatId : ChatId) (state : String) (data : StoreData) : StoreData × Next :=
  match data.accounts[chatId]? with
  | some _ =>
    (data.modify chatId fun account =>
      account.modifyPrimarySlot fun slot => { slot with lastState := some state },
      .persist .unit)
  | none => (data, .ret .unit)

/-- The slot id `add_account` stores under: the slot's own, or a generated one when it is empty. -/
def slotIdFor (slot : AccountSlot) (generated : GeneratedSlotId) : String :=
  if slot.slotId.isEmpty then generated.val else slot.slotId

/-- `add_account`, with the id `generate_slot_id` would draw. -/
def addAccount (chatId : ChatId) (slot : AccountSlot) (generated : GeneratedSlotId)
    (data : StoreData) : StoreData × Next :=
  let slotId := slotIdFor slot generated
  let slot := { slot with slotId := slotId }
  let account := data.accounts[chatId]?.getD .empty
  (⟨data.accounts.insert chatId
    { account with accounts := account.accounts.insert slotId slot }⟩,
    .persist (.slotId slotId))

/-- `remove_account`, its first section. -/
def removeAccount (chatId : ChatId) (slotId : String) (data : StoreData) : StoreData × Next :=
  match data.accounts[chatId]? with
  | some account =>
    if slotId ∈ account.accounts then
      let account := { account with
        accounts := account.accounts.erase slotId
        sharedAccounts := account.sharedAccounts.filter fun _ shared => !shared.isChildOf slotId }
      (⟨data.accounts.insert chatId account⟩,
        if account.accounts.isEmpty then .removeChat chatId (.bool true) else .persist (.bool true))
    else (data, .ret (.bool false))
  | none => (data, .ret (.bool false))

/-- `update_account_state`. -/
def updateAccountState (chatId : ChatId) (slotId state : String) (data : StoreData) :
    StoreData × Next :=
  match data.slot? chatId slotId with
  | some _ =>
    (data.modify chatId fun account =>
      account.modifySlot slotId fun slot => { slot with lastState := some state },
      .persist .unit)
  | none => (data, .ret .unit)

/-- `set_account_thread_id`. -/
def setAccountThreadId (chatId : ChatId) (slotId : String) (threadId : Option ThreadId)
    (data : StoreData) : StoreData × Next :=
  match data.slot? chatId slotId with
  | some _ =>
    (data.modify chatId fun account =>
      account.modifySlot slotId fun slot => { slot with threadId := threadId },
      .persist (.bool true))
  | none => (data, .ret (.bool false))

/-- `set_shared_account_thread_id`. -/
def setSharedAccountThreadId (chatId : ChatId) (accountId : String) (threadId : Option ThreadId)
    (data : StoreData) : StoreData × Next :=
  match data.shared? chatId accountId with
  | some _ =>
    (data.modify chatId fun account =>
      account.modifyShared accountId fun shared => { shared with threadId := threadId },
      .persist (.bool true))
  | none => (data, .ret (.bool false))

/-- `set_threads_enabled`. -/
def setThreadsEnabled (chatId : ChatId) (enabled : Option Bool) (data : StoreData) :
    StoreData × Next :=
  match data.accounts[chatId]? with
  | some _ =>
    (data.modify chatId fun account => { account with threadsEnabled := enabled },
      .persist (.bool true))
  | none => (data, .ret (.bool false))

/-- `set_language`. -/
def setLanguage (chatId : ChatId) (language : String) (data : StoreData) : StoreData × Next :=
  match data.accounts[chatId]? with
  | some _ =>
    (data.modify chatId fun account => { account with language := some language },
      .persist (.bool true))
  | none => (data, .ret (.bool false))

/-- `set_shared_account`. -/
def setSharedAccount (chatId : ChatId) (accountId name : String)
    (lastState parentSlot : Option String) (data : StoreData) : StoreData × Next :=
  match data.accounts[chatId]? with
  | some _ =>
    (data.modify chatId fun account =>
      { account with
        sharedAccounts := account.sharedAccounts.insert accountId
          ⟨name, lastState, parentSlot, none⟩ },
      .persist .unit)
  | none => (data, .ret .unit)

/-- `remove_shared_account`. -/
def removeSharedAccount (chatId : ChatId) (accountId : String) (data : StoreData) :
    StoreData × Next :=
  match data.shared? chatId accountId with
  | some _ =>
    (data.modify chatId fun account =>
      { account with sharedAccounts := account.sharedAccounts.erase accountId },
      .persist (.bool true))
  | none => (data, .ret (.bool false))

/-- `update_shared_account_state`. -/
def updateSharedAccountState (chatId : ChatId) (accountId state : String) (data : StoreData) :
    StoreData × Next :=
  match data.shared? chatId accountId with
  | some _ =>
    (data.modify chatId fun account =>
      account.modifyShared accountId fun shared => { shared with lastState := some state },
      .persist .unit)
  | none => (data, .ret .unit)

/-- `add_extra_account`: like `add_account`, for a chat that has a record. -/
def addExtraAccount (chatId : ChatId) (account : AccountSlot) (generated : GeneratedSlotId)
    (data : StoreData) : StoreData × Next :=
  let slotId := slotIdFor account generated
  match data.accounts[chatId]? with
  | some _ =>
    let slot := { account with slotId := slotId }
    (data.modify chatId fun account =>
      { account with accounts := account.accounts.insert slotId slot },
      .persist (.slotId? (some slotId)))
  | none => (data, .ret (.slotId? none))

/-- `mute`. -/
def mute (lib : Externals) (chatId : ChatId) (term : String) (data : StoreData) :
    StoreData × Next :=
  let term := lib.toLowercase (Str.trim term)
  match data.accounts[chatId]? with
  | some account =>
    if term ∈ account.muted then (data, .ret (.bool false))
    else
      (data.modify chatId fun account => { account with muted := account.muted ++ [term] },
        .persist (.bool true))
  | none => (data, .ret (.bool false))

/-- `unmute`. -/
def unmute (lib : Externals) (chatId : ChatId) (term : String) (data : StoreData) :
    StoreData × Next :=
  let term := lib.toLowercase (Str.trim term)
  match data.accounts[chatId]? with
  | some account =>
    let muted := account.muted.filter fun m => m != term
    if muted.length = account.muted.length then (data, .ret (.bool false))
    else
      (data.modify chatId fun account => { account with muted := muted }, .persist (.bool true))
  | none => (data, .ret (.bool false))

/-- `remove`. -/
def remove (chatId : ChatId) (data : StoreData) : StoreData × Next :=
  if chatId ∈ data.accounts then (data.erase chatId, .persist (.bool true))
  else (data, .ret (.bool false))

end Store

/-- A call of a store operation. `remove_extra_account` and `update_extra_account_state` are
`removeAccount` and `updateAccountState`. -/
inductive Op where
  | set (chatId : ChatId) (account : Account)
  | updateState (chatId : ChatId) (state : String)
  | addAccount (chatId : ChatId) (slot : AccountSlot) (generated : GeneratedSlotId)
  | removeAccount (chatId : ChatId) (slotId : String)
  | updateAccountState (chatId : ChatId) (slotId state : String)
  | setAccountThreadId (chatId : ChatId) (slotId : String) (threadId : Option ThreadId)
  | setSharedAccountThreadId (chatId : ChatId) (accountId : String) (threadId : Option ThreadId)
  | setThreadsEnabled (chatId : ChatId) (enabled : Option Bool)
  | setLanguage (chatId : ChatId) (language : String)
  | setSharedAccount (chatId : ChatId) (accountId name : String)
      (lastState parentSlot : Option String)
  | removeSharedAccount (chatId : ChatId) (accountId : String)
  | updateSharedAccountState (chatId : ChatId) (accountId state : String)
  | addExtraAccount (chatId : ChatId) (account : AccountSlot) (generated : GeneratedSlotId)
  | mute (chatId : ChatId) (term : String)
  | unmute (chatId : ChatId) (term : String)
  | remove (chatId : ChatId)

namespace Op

/-- What a call does to the data in its first locked section, and what it does next. -/
def lockedSection (lib : Externals) : Op → StoreData → StoreData × Next
  | set chatId account => Store.set chatId account
  | updateState chatId state => Store.updateState chatId state
  | addAccount chatId slot generated => Store.addAccount chatId slot generated
  | removeAccount chatId slotId => Store.removeAccount chatId slotId
  | updateAccountState chatId slotId state => Store.updateAccountState chatId slotId state
  | setAccountThreadId chatId slotId threadId => Store.setAccountThreadId chatId slotId threadId
  | setSharedAccountThreadId chatId accountId threadId =>
    Store.setSharedAccountThreadId chatId accountId threadId
  | setThreadsEnabled chatId enabled => Store.setThreadsEnabled chatId enabled
  | setLanguage chatId language => Store.setLanguage chatId language
  | setSharedAccount chatId accountId name lastState parentSlot =>
    Store.setSharedAccount chatId accountId name lastState parentSlot
  | removeSharedAccount chatId accountId => Store.removeSharedAccount chatId accountId
  | updateSharedAccountState chatId accountId state =>
    Store.updateSharedAccountState chatId accountId state
  | addExtraAccount chatId account generated => Store.addExtraAccount chatId account generated
  | mute chatId term => Store.mute lib chatId term
  | unmute chatId term => Store.unmute lib chatId term
  | remove chatId => Store.remove chatId

/-- The chat a call is about. -/
def chatId : Op → ChatId
  | set c _ | updateState c _ | addAccount c _ _ | removeAccount c _ | updateAccountState c _ _
  | setAccountThreadId c _ _ | setSharedAccountThreadId c _ _ | setThreadsEnabled c _
  | setLanguage c _ | setSharedAccount c _ _ _ _ | removeSharedAccount c _
  | updateSharedAccountState c _ _ | addExtraAccount c _ _ | mute c _ | unmute c _ | remove c => c

/-- Whether a call stores a record for its chat whatever was there before. -/
def connects : Op → Bool
  | set _ _ | addAccount _ _ _ => true
  | _ => false

end Op

/-! ### What a section may change -/

@[simp]
theorem StoreData.mem_modify {data : StoreData} {chatId c : ChatId} {f : Account → Account} :
    c ∈ (data.modify chatId f).accounts ↔ c ∈ data.accounts :=
  Std.ExtTreeMap.mem_modify

@[simp]
theorem StoreData.mem_erase {data : StoreData} {chatId c : ChatId} :
    c ∈ (data.erase chatId).accounts ↔ c ≠ chatId ∧ c ∈ data.accounts := by
  rw [erase, Std.ExtTreeMap.mem_erase, ne_eq, Std.LawfulEqOrd.compare_eq_iff_eq, eq_comm, ne_eq]

/-- Editing the record of a chat that has one stores the edited record. -/
theorem StoreData.modify_eq_insert {data : StoreData} {chatId : ChatId} {account : Account}
    (h : data.accounts[chatId]? = some account) (f : Account → Account) :
    data.modify chatId f = ⟨data.accounts.insert chatId (f account)⟩ := by
  refine congrArg StoreData.mk (Std.ExtTreeMap.ext_getElem? fun c => ?_)
  rw [Std.ExtTreeMap.getElem?_modify, Std.ExtTreeMap.getElem?_insert, h]
  rfl

private theorem account_of_slot? {data : StoreData} {chatId : ChatId} {slotId : String}
    {slot : AccountSlot} (h : data.slot? chatId slotId = some slot) :
    ∃ account, data.accounts[chatId]? = some account := by
  obtain ⟨account, haccount, -⟩ := Option.bind_eq_some_iff.mp h
  exact ⟨account, haccount⟩

private theorem account_of_shared? {data : StoreData} {chatId : ChatId} {accountId : String}
    {shared : SharedAccount} (h : data.shared? chatId accountId = some shared) :
    ∃ account, data.accounts[chatId]? = some account := by
  obtain ⟨account, haccount, -⟩ := Option.bind_eq_some_iff.mp h
  exact ⟨account, haccount⟩

/-- What the operations that edit the record of a chat make of it. -/
inductive Op.Edits : Op → (Account → Account) → Prop where
  | updateState (chatId : ChatId) (state : String) :
    Edits (.updateState chatId state) fun account =>
      account.modifyPrimarySlot fun slot => { slot with lastState := some state }
  | updateAccountState (chatId : ChatId) (slotId state : String) :
    Edits (.updateAccountState chatId slotId state) fun account =>
      account.modifySlot slotId fun slot => { slot with lastState := some state }
  | setAccountThreadId (chatId : ChatId) (slotId : String) (threadId : Option ThreadId) :
    Edits (.setAccountThreadId chatId slotId threadId) fun account =>
      account.modifySlot slotId fun slot => { slot with threadId := threadId }
  | setSharedAccountThreadId (chatId : ChatId) (accountId : String) (threadId : Option ThreadId) :
    Edits (.setSharedAccountThreadId chatId accountId threadId) fun account =>
      account.modifyShared accountId fun shared => { shared with threadId := threadId }
  | updateSharedAccountState (chatId : ChatId) (accountId state : String) :
    Edits (.updateSharedAccountState chatId accountId state) fun account =>
      account.modifyShared accountId fun shared => { shared with lastState := some state }
  | setThreadsEnabled (chatId : ChatId) (enabled : Option Bool) :
    Edits (.setThreadsEnabled chatId enabled) fun account =>
      { account with threadsEnabled := enabled }
  | setLanguage (chatId : ChatId) (language : String) :
    Edits (.setLanguage chatId language) fun account => { account with language := some language }
  | mute (chatId : ChatId) (term muted : String) :
    Edits (.mute chatId term) fun account => { account with muted := account.muted ++ [muted] }
  | unmute (chatId : ChatId) (term : String) (muted : List String) :
    Edits (.unmute chatId term) fun account => { account with muted := muted }
  | setSharedAccount (chatId : ChatId) (accountId name : String)
    (lastState parentSlot : Option String) :
    Edits (.setSharedAccount chatId accountId name lastState parentSlot) fun account =>
      { account with
        sharedAccounts := account.sharedAccounts.insert accountId
          ⟨name, lastState, parentSlot, none⟩ }
  | removeSharedAccount (chatId : ChatId) (accountId : String) :
    Edits (.removeSharedAccount chatId accountId) fun account =>
      { account with sharedAccounts := account.sharedAccounts.erase accountId }
  | addExtraAccount (chatId : ChatId) (slot : AccountSlot) (generated : GeneratedSlotId) :
    Edits (.addExtraAccount chatId slot generated) fun account =>
      { account with
        accounts := account.accounts.insert (Store.slotIdFor slot generated)
          { slot with slotId := Store.slotIdFor slot generated } }

/-- A section changes nothing, or edits the record its chat has, or is one of four that store or
take away a whole record. -/
inductive SectionEdit (data : StoreData) : Op → StoreData × Next → Prop where
  | same (op : Op) (r : Ret) : SectionEdit data op (data, .ret r)
  | edited (op : Op) (f : Account → Account) (r : Ret) (hedit : op.Edits f) (account : Account)
    (haccount : data.accounts[op.chatId]? = some account) :
    SectionEdit data op (data.modify op.chatId f, .persist r)
  | set (chatId : ChatId) (account : Account) :
    SectionEdit data (.set chatId account) (Store.set chatId account data)
  | addAccount (chatId : ChatId) (slot : AccountSlot) (generated : GeneratedSlotId) :
    SectionEdit data (.addAccount chatId slot generated)
      (Store.addAccount chatId slot generated data)
  | removeAccount (chatId : ChatId) (slotId : String) :
    SectionEdit data (.removeAccount chatId slotId) (Store.removeAccount chatId slotId data)
  | remove (chatId : ChatId) : SectionEdit data (.remove chatId) (Store.remove chatId data)

/-- Every section is one of those. -/
theorem sectionEdit (lib : Externals) (op : Op) (data : StoreData) :
    SectionEdit data op (op.lockedSection lib data) := by
  cases op with
  | set chatId account => exact .set chatId account
  | addAccount chatId slot generated => exact .addAccount chatId slot generated
  | removeAccount chatId slotId => exact .removeAccount chatId slotId
  | remove chatId => exact .remove chatId
  -- these look the record up and edit it
  | updateState chatId state | setThreadsEnabled chatId enabled | setLanguage chatId language
  | setSharedAccount chatId accountId name lastState parentSlot
  | addExtraAccount chatId account generated =>
    simp only [Op.lockedSection, Store.updateState, Store.setThreadsEnabled, Store.setLanguage,
      Store.setSharedAccount, Store.addExtraAccount]
    split
    case h_1 account haccount => exact .edited _ _ _ (by constructor) account haccount
    case h_2 => exact .same _ _
  | updateAccountState chatId slotId state | setAccountThreadId chatId slotId threadId =>
    simp only [Op.lockedSection, Store.updateAccountState, Store.setAccountThreadId]
    split
    case h_1 slot hslot =>
      obtain ⟨account, haccount⟩ := account_of_slot? hslot
      exact .edited _ _ _ (by constructor) account haccount
    case h_2 => exact .same _ _
  | setSharedAccountThreadId chatId accountId threadId | removeSharedAccount chatId accountId
  | updateSharedAccountState chatId accountId state =>
    simp only [Op.lockedSection, Store.setSharedAccountThreadId, Store.removeSharedAccount,
      Store.updateSharedAccountState]
    split
    case h_1 shared hshared =>
      obtain ⟨account, haccount⟩ := account_of_shared? hshared
      exact .edited _ _ _ (by constructor) account haccount
    case h_2 => exact .same _ _
  -- muting a muted term, or unmuting another one, persists nothing
  | mute chatId term | unmute chatId term =>
    simp only [Op.lockedSection, Store.mute, Store.unmute]
    split
    case h_2 => exact .same _ _
    case h_1 account haccount =>
      split
      · exact .same _ _
      · exact .edited _ _ _ (by constructor) account haccount

/-- All a section can do: return and change nothing; store a record for its chat, which it creates
only if it connects an account; empty the record and come back to delete it; or delete it. -/
inductive SectionEffect (op : Op) (data : StoreData) : StoreData × Next → Prop where
  | ret (r : Ret) : SectionEffect op data (data, .ret r)
  | store (account : Account) (r : Ret) (h : op.connects = true ∨ op.chatId ∈ data.accounts) :
    SectionEffect op data (⟨data.accounts.insert op.chatId account⟩, .persist r)
  | emptied (account : Account) (r : Ret) (h : op.chatId ∈ data.accounts)
    (hempty : account.accounts.isEmpty = true) :
    SectionEffect op data (⟨data.accounts.insert op.chatId account⟩, .removeChat op.chatId r)
  | delete (r : Ret) (h : op.chatId ∈ data.accounts) :
    SectionEffect op data (data.erase op.chatId, .persist r)

/-- Every section does one of those. -/
theorem sectionEffect (lib : Externals) (op : Op) (data : StoreData) :
    SectionEffect op data (op.lockedSection lib data) := by
  have hedit := sectionEdit lib op data
  generalize op.lockedSection lib data = result at hedit ⊢
  cases hedit with
  | same => exact .ret _
  | edited _ f r hedit account haccount =>
    rw [StoreData.modify_eq_insert haccount]
    exact .store _ r (.inr (Map.mem_of_getElem? haccount))
  | set chatId account => exact .store account _ (.inl rfl)
  | addAccount chatId slot generated => exact .store _ _ (.inl rfl)
  | removeAccount chatId slotId =>
    rw [Store.removeAccount]
    split
    case h_2 => exact .ret _
    case h_1 account haccount =>
      have hmem : chatId ∈ data.accounts := Map.mem_of_getElem? haccount
      split
      case isFalse => exact .ret _
      case isTrue =>
        dsimp only
        split
        case isTrue hempty => exact .emptied _ _ hmem hempty
        case isFalse => exact .store _ _ (.inr hmem)
  | remove chatId =>
    rw [Store.remove]
    split
    case isTrue hmem => exact .delete _ hmem
    case isFalse => exact .ret _

/-- A call that returns after its section has not changed the data. -/
theorem lockedSection_of_ret {lib : Externals} {op : Op} {data : StoreData} {r : Ret}
    (h : (op.lockedSection lib data).2 = .ret r) : (op.lockedSection lib data).1 = data := by
  have heffect := sectionEffect lib op data
  generalize op.lockedSection lib data = result at heffect h ⊢
  cases heffect with
  | ret => rfl
  | store | emptied | delete => cases h

/-- A chat without a record still has none after a section that does not connect it. -/
theorem lockedSection_absent {lib : Externals} {op : Op} {data : StoreData} {c : ChatId}
    (hop : op.connects = true → op.chatId ≠ c) (hc : c ∉ data.accounts) :
    c ∉ (op.lockedSection lib data).1.accounts := by
  have heffect := sectionEffect lib op data
  generalize op.lockedSection lib data = result at heffect ⊢
  cases heffect with
  | ret => exact hc
  | store account r h =>
    have hne : op.chatId ≠ c := h.elim hop fun hmem heq => hc (heq ▸ hmem)
    simp [hne, hc]
  | emptied account r h =>
    have hne : op.chatId ≠ c := fun heq => hc (heq ▸ h)
    simp [hne, hc]
  | delete => simp [hc]

/-- Only `remove_account` comes back for a second section, on its own chat. -/
theorem chatId_of_removeChat {lib : Externals} {op : Op} {data : StoreData} {c : ChatId} {r : Ret}
    (h : (op.lockedSection lib data).2 = .removeChat c r) : c = op.chatId := by
  have heffect := sectionEffect lib op data
  generalize op.lockedSection lib data = result at heffect h
  cases heffect with
  | emptied =>
    cases h
    rfl
  | ret | store | delete => cases h

/-! ### A whole call -/

/-- The data once all the sections of a call have run. -/
def Op.apply (lib : Externals) (op : Op) (data : StoreData) : StoreData :=
  match op.lockedSection lib data with
  | (data, .removeChat chatId _) => data.erase chatId
  | (data, _) => data

/-- A chat without a record still has none after a call that does not connect it. -/
theorem Op.apply_absent {lib : Externals} {op : Op} {data : StoreData} {c : ChatId}
    (hop : op.connects = true → op.chatId ≠ c) (hc : c ∉ data.accounts) :
    c ∉ (op.apply lib data).accounts := by
  have habsent : c ∉ (op.lockedSection lib data).1.accounts := lockedSection_absent hop hc
  unfold apply
  split
  · next heq =>
    rw [heq] at habsent
    simp [habsent]
  · next heq =>
    rw [heq] at habsent
    exact habsent

/-- How a `persist` ends: the file is written under a fresh nonce, or some step before the rename
fails (the encryption, the temporary file, its permissions, the rename) and the file stays. -/
inductive Persist where
  | written (nonce : Nonce)
  | failed

/-- A call, and how the `persist` it may run ends. -/
structure Call where
  op : Op
  persist : Persist

/-- The data in memory and the contents of `state.enc`. -/
structure StoreState where
  data : StoreData
  stateEnc : Option (List UInt8)

namespace Store

/-- `persist`, then return `r`; `none` is an error. -/
def persist (lib : Externals) (key : Key) (outcome : Persist) (r : Ret) (s : StoreState) :
    StoreState × Option Ret :=
  match outcome with
  | .written nonce => ({ s with stateEnc := some (s.data.seal lib key nonce) }, some r)
  | .failed => (s, none)

/-- A whole call: its sections, then `persist` unless it returned before. -/
def exec (lib : Externals) (key : Key) (call : Call) (s : StoreState) : StoreState × Option Ret :=
  let (data, next) := call.op.lockedSection lib s.data
  match next with
  | .ret r => ({ s with data := data }, some r)
  | .persist r => persist lib key call.persist r { s with data := data }
  | .removeChat chatId r => persist lib key call.persist r { s with data := data.erase chatId }

/-- One call after another. -/
def step (lib : Externals) (key : Key) (s : StoreState) (call : Call) : Option StoreState :=
  some (exec lib key call s).1

/-- All a whole call can do: return with nothing changed; write what it left in memory and return
`Ok`; or fail to write, with memory changed and the file as it was. -/
inductive ExecEffect (lib : Externals) (key : Key) (call : Call) (s : StoreState) :
    StoreState × Option Ret → Prop where
  | ret (r : Ret) : ExecEffect lib key call s (s, some r)
  | written (nonce : Nonce) (r : Ret) :
    ExecEffect lib key call s
      (⟨call.op.apply lib s.data, some ((call.op.apply lib s.data).seal lib key nonce)⟩, some r)
  | failed (h : call.persist = .failed) :
    ExecEffect lib key call s (⟨call.op.apply lib s.data, s.stateEnc⟩, none)

/-- Every call does one of those. -/
theorem execEffect (lib : Externals) (key : Key) (call : Call) (s : StoreState) :
    ExecEffect lib key call s (exec lib key call s) := by
  have hret : ∀ r, (call.op.lockedSection lib s.data).2 = .ret r →
      (call.op.lockedSection lib s.data).1 = s.data := fun _ => lockedSection_of_ret
  cases hsection : call.op.lockedSection lib s.data with
  | mk data next =>
    rw [hsection] at hret
    -- what the sections make of the data
    have happly : call.op.apply lib s.data = match (data, next) with
      | (data, .removeChat chatId _) => data.erase chatId
      | (data, _) => data := by rw [Op.apply, hsection]
    simp only [exec, hsection]
    cases next with
    | ret r =>
      have hdata : data = s.data := hret r rfl
      subst hdata
      exact .ret r
    | persist r | removeChat chatId r =>
      simp only at happly
      simp only [persist, ← happly]
      cases hp : call.persist with
      | written nonce => exact .written nonce r
      | failed => exact .failed hp

/-- After a call, memory holds what its sections make of the data. -/
theorem data_exec (lib : Externals) (key : Key) (call : Call) (s : StoreState) :
    (exec lib key call s).1.data = call.op.apply lib s.data := by
  simp only [exec, Op.apply]
  rcases call.op.lockedSection lib s.data with ⟨data, next⟩
  cases next with
  | ret r => rfl
  | persist r | removeChat chatId r => cases hp : call.persist <;> rfl

/-- After a call, the file is as it was, or holds what memory holds. -/
theorem stateEnc_exec (lib : Externals) (key : Key) (call : Call) (s : StoreState) :
    (exec lib key call s).1.stateEnc = s.stateEnc ∨
      ∃ nonce, (exec lib key call s).1.stateEnc =
        some ((exec lib key call s).1.data.seal lib key nonce) := by
  have heffect := execEffect lib key call s
  generalize exec lib key call s = result at heffect ⊢
  cases heffect with
  | ret r => exact .inl rfl
  | written nonce r => exact .inr ⟨nonce, rfl⟩
  | failed => exact .inl rfl

end Store

/-! ### Sample values -/

/-- A key, a nonce, a generated id and two slots to run the store with. -/
def sampleKey : Key := Vector.replicate keyLen 0

def sampleNonce : Nonce := Vector.replicate nonceLen 0

def sampleSlotId : GeneratedSlotId := ⟨"k3x9d0qa", by decide, by decide⟩

def sampleSlot : AccountSlot :=
  ⟨"default", "https://jmap.example.org/session", "s3cr3t-token", "a@b.c", none, none⟩

def otherSlot : AccountSlot :=
  ⟨"", "https://jmap.other.example/session", "other-token", "b@b.c", none, none⟩

/-- Chat 1, connected through its default slot only. -/
def oneSlotData : StoreData := ⟨(∅ : Map ChatId Account).insert 1
  { Account.empty with accounts := (∅ : Map String AccountSlot).insert "default" sampleSlot }⟩

end Jmap2Telegram
