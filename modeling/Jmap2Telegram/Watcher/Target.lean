import Jmap2Telegram.Store.Operations

/-!
# Watch targets

A watcher follows one mailbox: the chat's own, one of its shared accounts, or one of its account
slots. `WatchTarget` says which, and gives everything that depends on it: where its cursor is read
and written, when the watcher stops, its key in the health registry, and the topic its
notifications go to (`topics.rs`).

* `cursor_updateState`: what is written to the cursor is read from it.
* `cursor_clearThread`: clearing the topic leaves the cursor.
-/

namespace Jmap2Telegram

/-- Which JMAP account a watcher is following. -/
inductive WatchTarget where
  | primary
  | shared (accountId label : String)
  | extra (slotId label : String)
  | account (slotId label : String)
  deriving DecidableEq

/-! ### The configuration the topics read -/

/-- `ThreadedModeConfig`. -/
inductive ThreadedModeConfig where
  | auto
  | enabled
  | disabled
  deriving DecidableEq

/-- `SharedThreadModeConfig`. -/
inductive SharedThreadModeConfig where
  | parent
  | dedicated
  deriving DecidableEq

/-- The part of the configuration the topics read. -/
structure Config where
  telegramThreadedMode : ThreadedModeConfig
  telegramSharedThreadMode : SharedThreadModeConfig

/-- `is_threaded_mode_enabled`. -/
def isThreadedModeEnabled (config : Config) (account : Option Account) : Bool :=
  match account.bind Account.threadsEnabled with
  | some userOverride => userOverride
  | none =>
    match config.telegramThreadedMode with
    | .disabled => false
    | .enabled | .auto => true

namespace WatchTarget

/-! ### The cursor -/

/-- `since_state`. -/
def sinceState (account : Account) : WatchTarget → Option String
  | primary => account.lastState
  | shared accountId _ => account.sharedAccounts[accountId]?.bind SharedAccount.lastState
  | extra slotId _ | WatchTarget.account slotId _ =>
    account.accounts[slotId]?.bind AccountSlot.lastState

/-- `still_active`. -/
def stillActive (account : Account) : WatchTarget → Bool
  | primary => !account.accounts.isEmpty
  | shared accountId _ => account.sharedAccounts.contains accountId
  | extra slotId _ | WatchTarget.account slotId _ => account.accounts.contains slotId

/-- The store operation `update_state` calls. -/
def updateState (chatId : ChatId) (newState : String) : WatchTarget → Op
  | primary => .updateState chatId newState
  | shared accountId _ => .updateSharedAccountState chatId accountId newState
  | extra slotId _ | account slotId _ => .updateAccountState chatId slotId newState

/-- The store operation that forgets a topic the user deleted. -/
def clearThread (chatId : ChatId) : WatchTarget → Op
  | primary => .setAccountThreadId chatId "default" none
  | shared accountId _ => .setSharedAccountThreadId chatId accountId none
  | extra slotId _ | account slotId _ => .setAccountThreadId chatId slotId none

/-! ### Names -/

/-- `account_id`. -/
def accountId : WatchTarget → Option String
  | primary => none
  | shared accountId _ => some accountId
  | extra slotId _ | account slotId _ => some slotId

/-- `label`. -/
def label : WatchTarget → Option String
  | primary => none
  | shared _ label | extra _ label | account _ label => some label

/-- `self_address`: the address the watched account writes from. -/
def selfAddress (account : Account) : WatchTarget → String
  | primary => account.email
  | shared accountId _ => (account.sharedAccounts[accountId]?.map SharedAccount.name).getD ""
  | extra slotId _ | WatchTarget.account slotId _ =>
    (account.accounts[slotId]?.map AccountSlot.email).getD ""

/-! ### The topic -/

/-- `target_thread_id`. -/
def threadId (config : Config) (account : Account) (target : WatchTarget) : Option ThreadId :=
  if isThreadedModeEnabled config (some account) then
    match target with
    | primary => account.primarySlot.bind AccountSlot.threadId
    | extra slotId _ | WatchTarget.account slotId _ =>
      account.accounts[slotId]?.bind AccountSlot.threadId
    | shared accountId _ =>
      if config.telegramSharedThreadMode = .dedicated then
        account.sharedAccounts[accountId]?.bind SharedAccount.threadId
      else
        (account.sharedAccounts[accountId]?.bind account.resolveParentSlot).bind
          AccountSlot.threadId
  else none

end WatchTarget

/-! ### Reading a cursor from the data -/

/-- The cursor of a chat's target. -/
def StoreData.cursor (data : StoreData) (chatId : ChatId) (target : WatchTarget) :
    Option String :=
  data.accounts[chatId]?.bind fun account => target.sinceState account

namespace Account

variable {account : Account}

/-- The primary slot is the one with the least id. -/
theorem primarySlot_eq :
    account.primarySlot = account.accounts.minKey?.bind fun slotId => account.accounts[slotId]? :=
  Map.head?_values account.accounts

/-- Editing the primary slot edits the slot that `primarySlot` returns. -/
theorem primarySlot_modifyPrimarySlot (f : AccountSlot → AccountSlot) :
    (account.modifyPrimarySlot f).primarySlot = account.primarySlot.map f := by
  rw [primarySlot_eq, primarySlot_eq, modifyPrimarySlot, ← Std.ExtTreeMap.minKey?_eq_head?_keys]
  rcases hmin : account.accounts.minKey? with - | slotId
  · simp only [hmin, Option.bind_none, Option.map_none]
  · simp only [Std.ExtTreeMap.minKey?_modify_eq_minKey?, hmin, Option.bind_some,
      Std.ExtTreeMap.getElem?_modify_self]

/-- Editing a slot without changing its cursor leaves every slot's cursor. -/
theorem bind_lastState_modify {slotId : String} {f : AccountSlot → AccountSlot}
    (hf : ∀ slot, (f slot).lastState = slot.lastState) (key : String) :
    (account.accounts.modify slotId f)[key]?.bind AccountSlot.lastState =
      account.accounts[key]?.bind AccountSlot.lastState := by
  rw [Map.getElem?_modify]
  split
  · rcases account.accounts[key]? with - | slot
    · rfl
    · exact hf slot
  · rfl

/-- Editing a slot without changing its cursor leaves the primary cursor. -/
theorem lastState_modifySlot {slotId : String} {f : AccountSlot → AccountSlot}
    (hf : ∀ slot, (f slot).lastState = slot.lastState) :
    (account.modifySlot slotId f).lastState = account.lastState := by
  rw [lastState, lastState, primarySlot_eq, primarySlot_eq, modifySlot,
    Std.ExtTreeMap.minKey?_modify_eq_minKey?]
  rcases account.accounts.minKey? with - | key
  · rfl
  · exact bind_lastState_modify hf key

end Account

section

variable {lib : Externals} {data : StoreData} {chatId : ChatId} {target : WatchTarget}

theorem cursor_modify (f : Account → Account) :
    (data.modify chatId f).cursor chatId target =
      data.accounts[chatId]?.bind fun account => target.sinceState (f account) := by
  rw [StoreData.cursor, StoreData.modify, Std.ExtTreeMap.getElem?_modify_self, Option.bind_map]
  rfl

/-- What is written to the cursor is read from it. -/
theorem cursor_updateState {state : String} (h : data.cursor chatId target = some state)
    (newState : String) :
    ((target.updateState chatId newState).apply lib data).cursor chatId target = some newState := by
  obtain ⟨account, haccount, hsince⟩ := Option.bind_eq_some_iff.mp h
  cases target with
  | primary =>
    obtain ⟨slot, hslot, -⟩ := Option.bind_eq_some_iff.mp hsince
    simp only [WatchTarget.updateState, Op.apply, Op.lockedSection, Store.updateState, haccount,
      cursor_modify, Option.bind_some, WatchTarget.sinceState, Account.lastState,
      Account.primarySlot_modifyPrimarySlot, hslot, Option.map_some]
  | shared accountId label =>
    obtain ⟨shared, hshared, -⟩ := Option.bind_eq_some_iff.mp hsince
    simp only [WatchTarget.updateState, Op.apply, Op.lockedSection,
      Store.updateSharedAccountState, StoreData.shared?, haccount, cursor_modify,
      Option.bind_some, WatchTarget.sinceState, Account.modifyShared,
      Std.ExtTreeMap.getElem?_modify_self, hshared, Option.map_some]
  | extra slotId label | account slotId label =>
    obtain ⟨slot, hslot, -⟩ := Option.bind_eq_some_iff.mp hsince
    simp only [WatchTarget.updateState, Op.apply, Op.lockedSection, Store.updateAccountState,
      StoreData.slot?, haccount, cursor_modify, Option.bind_some, WatchTarget.sinceState,
      Account.modifySlot, Std.ExtTreeMap.getElem?_modify_self, hslot, Option.map_some]

/-- Forgetting the topic leaves the cursor. -/
theorem cursor_clearThread :
    ((target.clearThread chatId).apply lib data).cursor chatId target
      = data.cursor chatId target := by
  cases target with
  | primary =>
    simp only [WatchTarget.clearThread, Op.apply, Op.lockedSection, Store.setAccountThreadId]
    rcases data.slot? chatId "default" with - | slot
    · rfl
    · simp only [cursor_modify, WatchTarget.sinceState]
      exact congrArg _ (funext fun account => Account.lastState_modifySlot fun _ => rfl)
  -- each target forgets the topic in its own place, away from the cursor
  | shared accountId label =>
    simp only [WatchTarget.clearThread, Op.apply, Op.lockedSection,
      Store.setSharedAccountThreadId]
    rcases data.shared? chatId accountId with - | shared
    · rfl
    · simp only [cursor_modify, WatchTarget.sinceState, Account.modifyShared,
        Std.ExtTreeMap.getElem?_modify_self, Option.bind_map]
      rfl
  | extra slotId label | account slotId label =>
    simp only [WatchTarget.clearThread, Op.apply, Op.lockedSection, Store.setAccountThreadId]
    rcases data.slot? chatId slotId with - | slot
    · rfl
    · simp only [cursor_modify, WatchTarget.sinceState, Account.modifySlot]
      refine congrArg _ (funext fun account => ?_)
      rw [Account.bind_lastState_modify]
      · rfl
      · exact fun _ => rfl

/-- Naming the missing parent slots leaves the cursor. -/
theorem cursor_nameParents : data.nameParents.cursor chatId target = data.cursor chatId target := by
  rw [StoreData.cursor, StoreData.nameParents, Std.ExtTreeMap.getElem?_map, Option.bind_map]
  refine congrArg _ (funext fun account => ?_)
  cases target with
  | primary | extra slotId label | account slotId label => rfl
  | shared accountId label =>
    simp only [Function.comp_apply, WatchTarget.sinceState, Account.nameParents,
      Std.ExtTreeMap.getElem?_map, Option.bind_map]
    rfl

end

end Jmap2Telegram
