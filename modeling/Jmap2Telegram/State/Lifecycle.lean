import Jmap2Telegram.State.AppState

/-!
# Adopting and forgetting mailboxes

The common tail of every way to connect a mailbox (`accounts.rs`) caches the client, registers and
starts a watcher, and makes sure of a topic; the `forget*` functions (`state.rs`) undo it for one
shared account, for a slot and the shared accounts under it, or for a whole chat. Each is run here
by itself, without other tasks in between; `Resume/Tasks.lean` interleaves their steps.

* `client?_forgetMailbox`, `watcher?_forgetMailbox`, `health_forgetMailbox`: what is left after a
  mailbox is forgotten.
-/

namespace Jmap2Telegram

/-- The shared accounts of a record that are authorized under a slot, by id. -/
def Account.childIds (account : Account) (slotId : String) : List String :=
  (account.sharedAccounts.toList.filter fun entry => entry.2.isChildOf slotId).map Prod.fst

namespace AppState

variable (config : Config) (lib : Externals) (app : AppState) (chatId : ChatId)

/-- A store operation. What it leaves in memory does not depend on whether its write succeeds. -/
def call (op : Op) : AppState := { app with data := op.apply lib app.data }

/-! ### Topics -/

/-- `ensure_slot_topic`, with the topic Telegram creates, if it does. -/
def ensureSlotTopic (slotId : String) (created : Option ThreadId) : AppState :=
  match app.data.accounts[chatId]? with
  | none => app
  | some account =>
    if !isThreadedModeEnabled config (some account) then app
    else
      match account.accounts[slotId]? with
      | none => app
      | some slot =>
        match slot.threadId, created with
        | none, some threadId => app.call lib (.setAccountThreadId chatId slotId (some threadId))
        | _, _ => app

/-- `ensure_shared_topic`, with the topic Telegram creates, if it does. -/
def ensureSharedTopic (accountId : String) (created : Option ThreadId) : AppState :=
  if config.telegramSharedThreadMode ≠ .dedicated then app
  else
    match app.data.accounts[chatId]? with
    | none => app
    | some account =>
      if !isThreadedModeEnabled config (some account) then app
      else
        match account.sharedAccounts[accountId]? with
        | none => app
        | some shared =>
          match shared.threadId, created with
          | none, some threadId =>
            app.call lib (.setSharedAccountThreadId chatId accountId (some threadId))
          | _, _ => app

/-- The topic of a mailbox. -/
def ensureTopic (created : Option ThreadId) : Mailbox → AppState
  | .account slotId => app.ensureSlotTopic config lib chatId slotId created
  | .shared accountId => app.ensureSharedTopic config lib chatId accountId created

/-! ### Adopting -/

/-- The start of a mailbox's watcher: its health entry. -/
def register (mailbox : Mailbox) : AppState :=
  { app with health := app.health.register (mailbox.healthKey chatId) }

/-- `adopt_account` and `adopt_shared`: nothing happens to a mailbox that has a watcher. -/
def adopt (mailbox : Mailbox) (client : Client) (created : Option ThreadId) : AppState :=
  if (app.watcher? chatId mailbox).isSome then app
  else
    ((((app.insertClient chatId client mailbox).register chatId mailbox).insertWatcher chatId
      client mailbox)).ensureTopic config lib chatId created mailbox

/-! ### Forgetting -/

/-- Drop a mailbox's health entry, its client and its watcher. -/
def forgetMailbox (mailbox : Mailbox) : AppState :=
  ({ app with health := app.health.deregister (mailbox.healthKey chatId) }.removeClient chatId
    mailbox).removeWatcher chatId mailbox

/-- `forget_shared`. -/
def forgetShared (accountId : String) : AppState := app.forgetMailbox chatId (.shared accountId)

/-- `forget_account`: the slot, and the shared accounts the store has under it. -/
def forgetAccount (slotId : String) : AppState :=
  let app := app.forgetMailbox chatId (.account slotId)
  match app.data.accounts[chatId]? with
  | none => app
  | some account => (account.childIds slotId).foldl (fun app id => app.forgetShared chatId id) app

/-- `forget`: everything of a chat. -/
def forget : AppState :=
  let app := { app with
    pendingUndo := app.pendingUndo.erase chatId
    health := app.health.deregisterChat chatId }
  (((app.removeAccountClients chatId).removeAccountWatchers chatId).removeSharedClients
    chatId).removeSharedWatchers chatId

/-! ### What is left -/

section

variable (mailbox : Mailbox) (created : Option ThreadId)

/-- Making sure of a topic changes the store only. -/
theorem ensureTopic_eq : ∃ data, app.ensureTopic config lib chatId created mailbox =
    { app with data := data } := by
  cases mailbox with
  | account slotId =>
    simp only [ensureTopic, ensureSlotTopic]
    repeat' split
    all_goals first | exact ⟨_, rfl⟩
  | shared accountId =>
    simp only [ensureTopic, ensureSharedTopic]
    repeat' split
    all_goals first | exact ⟨_, rfl⟩

end

section

variable {config lib app chatId} {c : ChatId} {m mailbox : Mailbox} {op : Op}

@[simp]
theorem client?_call : (app.call lib op).client? c m = app.client? c m :=
  client?_withData (op.apply lib app.data)

@[simp]
theorem watcher?_call : (app.call lib op).watcher? c m = app.watcher? c m :=
  watcher?_withData (op.apply lib app.data)

/-- A forgotten mailbox has no client, and the others keep theirs. -/
theorem client?_forgetMailbox : (app.forgetMailbox chatId mailbox).client? c m =
    if chatId = c ∧ mailbox = m then none else app.client? c m := by
  rw [forgetMailbox, client?_removeWatcher, client?_removeClient, client?_withHealth]

/-- A forgotten mailbox has no watcher, and the others keep theirs. -/
theorem watcher?_forgetMailbox : (app.forgetMailbox chatId mailbox).watcher? c m =
    if chatId = c ∧ mailbox = m then none else app.watcher? c m := by
  rw [forgetMailbox, watcher?_removeWatcher, watcher?_removeClient, watcher?_withHealth]

/-- A forgotten mailbox has no health entry, and the other keys keep theirs. -/
theorem health_forgetMailbox : (app.forgetMailbox chatId mailbox).health =
    app.health.deregister (mailbox.healthKey chatId) := by
  rw [forgetMailbox, health_removeWatcher, health_removeClient]

end

end AppState

end Jmap2Telegram
