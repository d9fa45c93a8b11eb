import Jmap2Telegram.Watcher.Target

/-!
# The shared state

`AppState` (`state.rs`) and the health registry (`health.rs`): the store's data, the live JMAP
clients and watchers of every connected slot and of every opted-in shared account, the registry of
watcher states, and the pending undos. A `Mailbox` of a chat is a slot or a shared account; each
kind has its own pair of maps in the source, and `client?`, `watcher?` read the pair a mailbox
belongs to.

* `healthKey_injective`: different mailboxes have different keys in the health registry.
-/

namespace Jmap2Telegram

/-- A JMAP client: the server and the token it was connected with, and the account it selects when
it is a shared one. -/
structure Client where
  serverUrl : String
  token : String
  accountId : Option String
  deriving DecidableEq

/-- One of a chat's mailboxes: a connected slot, or an opted-in shared account. -/
inductive Mailbox where
  | account (slotId : String)
  | shared (accountId : String)
  deriving DecidableEq

/-- The mailbox a target watches. -/
def WatchTarget.mailbox : WatchTarget → Mailbox
  | primary => .account "default"
  | shared accountId _ => .shared accountId
  | extra slotId _ | account slotId _ => .account slotId

/-! ### The health registry -/

/-- `WatcherStatus`; instants are numbers. -/
structure WatcherStatus where
  connected : Bool
  lastActivity : Option ℕ
  deriving DecidableEq

/-- The live watchers, by health key. -/
abbrev Health := Map String WatcherStatus

namespace Health

/-- `register`. -/
def register (health : Health) (key : String) : Health := health.insert key ⟨false, none⟩

/-- `deregister`. -/
def deregister (health : Health) (key : String) : Health := health.erase key

/-- The start of every health key of a chat. -/
def chatPrefix (chatId : ChatId) : String := Serde.ofChatId chatId ++ "/"

/-- `deregister_chat`. -/
def deregisterChat (health : Health) (chatId : ChatId) : Health :=
  health.filter fun key _ => !(chatPrefix chatId).toList.isPrefixOf key.toList

/-- `set_connected`, which leaves a key that is not registered alone. -/
def setConnected (health : Health) (key : String) (connected : Bool) : Health :=
  health.modify key fun status => { status with connected := connected }

/-- `touch`, which leaves a key that is not registered alone, too. -/
def touch (health : Health) (key : String) (now : ℕ) : Health :=
  health.modify key fun status => { status with lastActivity := some now }

end Health

/-- `account_health_key`. -/
def accountHealthKey (chatId : ChatId) (slotId : String) : String :=
  if slotId = "default" ∨ slotId = "primary" then Health.chatPrefix chatId ++ "primary"
  else Health.chatPrefix chatId ++ "extra-" ++ slotId

/-- `shared_health_key`. -/
def sharedHealthKey (chatId : ChatId) (accountId : String) : String :=
  Health.chatPrefix chatId ++ "shared-" ++ accountId

/-- The health key of a mailbox's watcher (`WatchTarget::health_key`). -/
def Mailbox.healthKey (chatId : ChatId) : Mailbox → String
  | account slotId => accountHealthKey chatId slotId
  | shared accountId => sharedHealthKey chatId accountId

/-! ### The state -/

/-- `PendingUndo`; instants are numbers. -/
structure PendingUndo where
  accountId : Option String
  emailId : String
  restoreMailboxIds : List String
  expiresAt : ℕ

/-- `AppState`, without its configuration and its counters. A watcher's handle is the client it
works with. -/
structure AppState where
  data : StoreData
  health : Health
  accountClients : Map (ChatId × String) Client
  accountWatchers : Map (ChatId × String) Client
  sharedClients : Map (ChatId × String) Client
  sharedWatchers : Map (ChatId × String) Client
  pendingUndo : Map ChatId PendingUndo

namespace AppState

/-- `AppState::new`, over a store with the given data. -/
def new (data : StoreData) : AppState := ⟨data, ∅, ∅, ∅, ∅, ∅, ∅⟩

variable (app : AppState) (chatId : ChatId)

/-- The live client of a mailbox. -/
def client? : Mailbox → Option Client
  | .account slotId => app.accountClients[(chatId, slotId)]?
  | .shared accountId => app.sharedClients[(chatId, accountId)]?

/-- The running watcher of a mailbox. -/
def watcher? : Mailbox → Option Client
  | .account slotId => app.accountWatchers[(chatId, slotId)]?
  | .shared accountId => app.sharedWatchers[(chatId, accountId)]?

/-- Cache a client. -/
def insertClient (client : Client) : Mailbox → AppState
  | .account slotId =>
    { app with accountClients := app.accountClients.insert (chatId, slotId) client }
  | .shared accountId =>
    { app with sharedClients := app.sharedClients.insert (chatId, accountId) client }

/-- Drop a cached client. -/
def removeClient : Mailbox → AppState
  | .account slotId => { app with accountClients := app.accountClients.erase (chatId, slotId) }
  | .shared accountId => { app with sharedClients := app.sharedClients.erase (chatId, accountId) }

/-- Keep the handle of a watcher. -/
def insertWatcher (client : Client) : Mailbox → AppState
  | .account slotId =>
    { app with accountWatchers := app.accountWatchers.insert (chatId, slotId) client }
  | .shared accountId =>
    { app with sharedWatchers := app.sharedWatchers.insert (chatId, accountId) client }

/-- Remove the handle of a watcher and abort it. -/
def removeWatcher : Mailbox → AppState
  | .account slotId => { app with accountWatchers := app.accountWatchers.erase (chatId, slotId) }
  | .shared accountId => { app with sharedWatchers := app.sharedWatchers.erase (chatId, accountId) }

/-- Drop the clients of a chat's slots, the first half of `forget_all_for_chat` for accounts. -/
def removeAccountClients : AppState :=
  { app with accountClients := app.accountClients.filter fun key _ => key.1 != chatId }

/-- Abort the watchers of a chat's slots. -/
def removeAccountWatchers : AppState :=
  { app with accountWatchers := app.accountWatchers.filter fun key _ => key.1 != chatId }

/-- Drop the clients of a chat's shared accounts. -/
def removeSharedClients : AppState :=
  { app with sharedClients := app.sharedClients.filter fun key _ => key.1 != chatId }

/-- Abort the watchers of a chat's shared accounts. -/
def removeSharedWatchers : AppState :=
  { app with sharedWatchers := app.sharedWatchers.filter fun key _ => key.1 != chatId }

/-! ### Lookups after an update -/

variable {app : AppState} {chatId c : ChatId} {mailbox m : Mailbox} {client : Client}

/-- A client that is cached is found, and the others stay. -/
theorem client?_insertClient :
    (app.insertClient chatId client mailbox).client? c m =
      if chatId = c ∧ mailbox = m then some client else app.client? c m := by
  cases mailbox <;> cases m <;> simp [insertClient, client?, Map.getElem?_insert]

theorem client?_removeClient :
    (app.removeClient chatId mailbox).client? c m =
      if chatId = c ∧ mailbox = m then none else app.client? c m := by
  cases mailbox <;> cases m <;> simp [removeClient, client?, Map.getElem?_erase]

theorem watcher?_insertWatcher :
    (app.insertWatcher chatId client mailbox).watcher? c m =
      if chatId = c ∧ mailbox = m then some client else app.watcher? c m := by
  cases mailbox <;> cases m <;> simp [insertWatcher, watcher?, Map.getElem?_insert]

theorem watcher?_removeWatcher :
    (app.removeWatcher chatId mailbox).watcher? c m =
      if chatId = c ∧ mailbox = m then none else app.watcher? c m := by
  cases mailbox <;> cases m <;> simp [removeWatcher, watcher?, Map.getElem?_erase]

@[simp]
theorem client?_insertWatcher :
    (app.insertWatcher chatId client mailbox).client? c m = app.client? c m := by
  cases mailbox <;> cases m <;> rfl

@[simp]
theorem client?_removeWatcher :
    (app.removeWatcher chatId mailbox).client? c m = app.client? c m := by
  cases mailbox <;> cases m <;> rfl

@[simp]
theorem watcher?_insertClient :
    (app.insertClient chatId client mailbox).watcher? c m = app.watcher? c m := by
  cases mailbox <;> cases m <;> rfl

@[simp]
theorem watcher?_removeClient :
    (app.removeClient chatId mailbox).watcher? c m = app.watcher? c m := by
  cases mailbox <;> cases m <;> rfl

@[simp]
theorem client?_withData (data : StoreData) :
    client? { app with data := data } c m = app.client? c m := by
  cases m <;> rfl

@[simp]
theorem client?_withHealth (health : Health) :
    client? { app with health := health } c m = app.client? c m := by
  cases m <;> rfl

@[simp]
theorem watcher?_withData (data : StoreData) :
    watcher? { app with data := data } c m = app.watcher? c m := by
  cases m <;> rfl

@[simp]
theorem watcher?_withHealth (health : Health) :
    watcher? { app with health := health } c m = app.watcher? c m := by
  cases m <;> rfl

@[simp]
theorem data_insertClient : (app.insertClient chatId client mailbox).data = app.data := by
  cases mailbox <;> rfl

@[simp]
theorem data_removeClient : (app.removeClient chatId mailbox).data = app.data := by
  cases mailbox <;> rfl

@[simp]
theorem data_insertWatcher : (app.insertWatcher chatId client mailbox).data = app.data := by
  cases mailbox <;> rfl

@[simp]
theorem data_removeWatcher : (app.removeWatcher chatId mailbox).data = app.data := by
  cases mailbox <;> rfl

@[simp]
theorem health_insertClient : (app.insertClient chatId client mailbox).health = app.health := by
  cases mailbox <;> rfl

@[simp]
theorem health_removeClient : (app.removeClient chatId mailbox).health = app.health := by
  cases mailbox <;> rfl

@[simp]
theorem health_insertWatcher : (app.insertWatcher chatId client mailbox).health = app.health := by
  cases mailbox <;> rfl

@[simp]
theorem health_removeWatcher : (app.removeWatcher chatId mailbox).health = app.health := by
  cases mailbox <;> rfl

@[simp]
theorem pendingUndo_insertClient :
    (app.insertClient chatId client mailbox).pendingUndo = app.pendingUndo := by
  cases mailbox <;> rfl

@[simp]
theorem pendingUndo_removeClient :
    (app.removeClient chatId mailbox).pendingUndo = app.pendingUndo := by
  cases mailbox <;> rfl

@[simp]
theorem pendingUndo_insertWatcher :
    (app.insertWatcher chatId client mailbox).pendingUndo = app.pendingUndo := by
  cases mailbox <;> rfl

@[simp]
theorem pendingUndo_removeWatcher :
    (app.removeWatcher chatId mailbox).pendingUndo = app.pendingUndo := by
  cases mailbox <;> rfl

end AppState

/-! ### Health keys -/

/-- No chat id has a slash, so it ends where the key goes on. -/
theorem not_mem_ofChatId (chatId : ChatId) : '/' ∉ (Serde.ofChatId chatId).toList := by
  have hdigits : ∀ n, '/' ∉ Nat.toDigits 10 n := fun n h =>
    absurd (Nat.isDigit_of_mem_toDigits (by decide) (by decide) h) (by decide)
  rw [Serde.ofChatId]
  cases chatId.toInt with
  | ofNat n => simp [Int.repr, Nat.repr, hdigits]
  | negSucc n => simp [Int.repr, Nat.repr, hdigits]

/-- What stands before the first slash of a chat's keys is the chat. -/
theorem takeWhile_chatPrefix (chatId : ChatId) (cs : List Char) :
    ((Health.chatPrefix chatId).toList ++ cs).takeWhile (fun c => c != '/') =
      (Serde.ofChatId chatId).toList := by
  have hall : ∀ c ∈ (Serde.ofChatId chatId).toList, (c != '/') = true := by
    intro c hc
    rw [bne_iff_ne]
    rintro rfl
    exact not_mem_ofChatId chatId hc
  rw [Health.chatPrefix, String.toList_append, List.append_assoc,
    List.takeWhile_append_of_pos hall]
  simp

/-- Different chats are written differently. -/
theorem ofChatId_injective : Function.Injective Serde.ofChatId := fun c c' h => by
  have hread := Serde.toChatId_ofChatId c
  rw [h, Serde.toChatId_ofChatId] at hread
  exact (Option.some.inj hread).symm

/-- Keys with the prefix of a chat are no keys of another. -/
theorem chatPrefix_append_inj {c c' : ChatId} {xs ys : List Char}
    (h : (Health.chatPrefix c).toList ++ xs = (Health.chatPrefix c').toList ++ ys) :
    c = c' ∧ xs = ys := by
  have hchat : c = c' := by
    have htake := takeWhile_chatPrefix c xs
    rw [h, takeWhile_chatPrefix] at htake
    exact (ofChatId_injective (String.toList_injective htake)).symm
  subst hchat
  exact ⟨rfl, List.append_cancel_left h⟩

namespace Mailbox

/-- The part of a health key after the chat. -/
def keySuffix : Mailbox → String
  | account slotId =>
    if slotId = "default" ∨ slotId = "primary" then "primary" else "extra-" ++ slotId
  | shared accountId => "shared-" ++ accountId

/-- A health key is the chat's prefix and a suffix that depends on the mailbox only. -/
theorem toList_healthKey (chatId : ChatId) (mailbox : Mailbox) :
    (mailbox.healthKey chatId).toList =
      (Health.chatPrefix chatId).toList ++ mailbox.keySuffix.toList := by
  cases mailbox with
  | account slotId =>
    simp only [healthKey, accountHealthKey, keySuffix]
    split <;> simp [String.toList_append]
  | shared accountId => simp [healthKey, sharedHealthKey, keySuffix, String.toList_append]

/-- Different mailboxes have different keys, as long as no slot is named `primary`. -/
theorem keySuffix_injective {m m' : Mailbox} (hm : m ≠ account "primary")
    (hm' : m' ≠ account "primary") (h : m.keySuffix = m'.keySuffix) : m = m' := by
  have hslot : ∀ {slotId}, account slotId ≠ account "primary" →
      (slotId = "default" ∨ slotId = "primary" ↔ slotId = "default") := fun hne =>
    or_iff_left fun heq => hne (congrArg account heq)
  have hcancel : ∀ {start s s' : String}, start ++ s = start ++ s' → s = s' := fun heq => by
    have hlist := congrArg String.toList heq
    rw [String.toList_append, String.toList_append] at hlist
    exact String.toList_injective (List.append_cancel_left hlist)
  have hhead := congrArg (fun s => s.toList.head?) h
  -- `primary`, `extra-` and `shared-` begin with different letters
  cases m with
  | account slotId =>
    cases m' with
    | account slotId' =>
      simp only [keySuffix, hslot hm, hslot hm'] at h hhead
      split at h <;> split at h
      case isTrue.isTrue hs hs' => rw [hs, hs']
      case isTrue.isFalse hs hs' => simp [hs, hs'] at hhead
      case isFalse.isTrue hs hs' => simp [hs, hs'] at hhead
      case isFalse.isFalse => rw [hcancel h]
    | shared accountId =>
      simp only [keySuffix] at hhead
      split at hhead <;> simp at hhead
  | shared accountId =>
    cases m' with
    | account slotId =>
      simp only [keySuffix] at hhead
      split at hhead <;> simp at hhead
    | shared accountId' =>
      rw [hcancel (show "shared-" ++ accountId = "shared-" ++ accountId' from h)]

/-- Different mailboxes have different keys; a slot is never called `"primary"`. -/
theorem healthKey_injective {c c' : ChatId} {m m' : Mailbox} (hm : m ≠ account "primary")
    (hm' : m' ≠ account "primary") (h : m.healthKey c = m'.healthKey c') : c = c' ∧ m = m' := by
  have hlist := congrArg String.toList h
  rw [toList_healthKey, toList_healthKey] at hlist
  obtain ⟨hchat, hsuffix⟩ := chatPrefix_append_inj hlist
  exact ⟨hchat, keySuffix_injective hm hm' (String.toList_injective hsuffix)⟩

end Mailbox

/-- The sweep drops the keys of the chat's mailboxes and no other's. -/
theorem mem_deregisterChat {health : Health} {chatId c : ChatId} {m : Mailbox} :
    m.healthKey c ∈ health.deregisterChat chatId ↔ c ≠ chatId ∧ m.healthKey c ∈ health := by
  have hprefix : (Health.chatPrefix chatId).toList.isPrefixOf (m.healthKey c).toList = true ↔
      c = chatId := by
    rw [List.isPrefixOf_iff_prefix, Mailbox.toList_healthKey]
    refine ⟨fun ⟨ys, hys⟩ => (chatPrefix_append_inj hys).1.symm, ?_⟩
    rintro rfl
    exact List.prefix_append _ _
  rw [Health.deregisterChat, Map.mem_filter_key, and_comm, Bool.not_eq_true', ne_eq, ← hprefix,
    Bool.not_eq_true]

end Jmap2Telegram
