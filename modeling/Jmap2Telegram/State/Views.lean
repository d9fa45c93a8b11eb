import Jmap2Telegram.State.Clients
import Jmap2Telegram.State.Lifecycle
import Jmap2Telegram.Store.Failure

/-!
# What a chat has

The chats share the store, the caches of clients, the handles of watchers, the pending undos and the
health registry. The view of a chat is its part of all of them, and every access of `state.rs` and
`health.rs` names a chat and leaves the views of the others: the maps are keyed by the chat, and the
registry by strings that begin with the chat's id and a slash, which no id contains.

* `Health.ofChat_congr`: what the entries of a chat are read from.
* `view_congr`: what the view of a chat is read from.
* `view_adopt`, `view_forget`, `view_forgetAccount`, `view_ensureTopic`: what is done to the
  mailboxes of a chat leaves the views of the others.
-/

namespace Jmap2Telegram

/-! ### The entries of a chat -/

namespace Health

/-- The key is one of the chat's. -/
def isKeyOf (chatId : ChatId) (key : String) : Bool :=
  (chatPrefix chatId).toList.isPrefixOf key.toList

/-- The entries of a chat, under any of its keys. -/
def ofChat (health : Health) (chatId : ChatId) : Health :=
  health.filter fun key _ => isKeyOf chatId key

variable {health health' : Health} {chatId c : ChatId} {key : String} {m : Mailbox}

/-- A key is of one chat only. -/
theorem eq_of_isKeyOf (h : isKeyOf chatId key = true) (hc : isKeyOf c key = true) : chatId = c := by
  rw [isKeyOf, List.isPrefixOf_iff_prefix] at h hc
  obtain ⟨xs, hxs⟩ := h
  obtain ⟨ys, hys⟩ := hc
  exact (chatPrefix_append_inj (hxs.trans hys.symm)).1

/-- The keys of a chat's mailboxes are keys of the chat, whatever their ids are. -/
theorem isKeyOf_healthKey (chatId : ChatId) (m : Mailbox) :
    isKeyOf chatId (m.healthKey chatId) = true := by
  rw [isKeyOf, List.isPrefixOf_iff_prefix, Mailbox.toList_healthKey]
  exact List.prefix_append _ _

/-- The entries of a chat are read from the registry under its keys. -/
theorem ofChat_congr (h : ∀ key, isKeyOf c key = true → health'[key]? = health[key]?) :
    health'.ofChat c = health.ofChat c := by
  refine Std.ExtTreeMap.ext_getElem? fun key => ?_
  rw [ofChat, ofChat, Map.getElem?_filter_key, Map.getElem?_filter_key]
  split
  case isTrue hkey => exact h key hkey
  case isFalse => rfl

/-- The entry of a mailbox is one of its chat. -/
theorem getElem?_ofChat : (health.ofChat chatId)[m.healthKey chatId]? =
    health[m.healthKey chatId]? := by
  rw [ofChat, Map.getElem?_filter_key, if_pos (isKeyOf_healthKey chatId m)]

section

variable (hne : chatId ≠ c)
include hne

/-- A key of one chat is none of another's. -/
theorem ne_of_isKeyOf (hkey : isKeyOf c key = true) : m.healthKey chatId ≠ key := by
  rintro rfl
  exact hne (eq_of_isKeyOf (isKeyOf_healthKey chatId m) hkey)

/-- Registering a mailbox of one chat leaves the entries of another. -/
theorem ofChat_register : (health.register (m.healthKey chatId)).ofChat c = health.ofChat c := by
  refine ofChat_congr fun key hkey => ?_
  rw [register, Map.getElem?_insert, if_neg (ne_of_isKeyOf hne hkey)]

theorem ofChat_deregister :
    (health.deregister (m.healthKey chatId)).ofChat c = health.ofChat c := by
  refine ofChat_congr fun key hkey => ?_
  rw [deregister, Map.getElem?_erase, if_neg (ne_of_isKeyOf hne hkey)]

/-- Updating the entry of a mailbox leaves those of the other chats. -/
theorem ofChat_modify (f : WatcherStatus → WatcherStatus) :
    ofChat (health.modify (m.healthKey chatId) f) c = health.ofChat c := by
  refine ofChat_congr fun key hkey => ?_
  rw [Map.getElem?_modify, if_neg (ne_of_isKeyOf hne hkey)]

/-- So does deregistering a chat, whose prefix is none of another's keys. -/
theorem ofChat_deregisterChat : (health.deregisterChat chatId).ofChat c = health.ofChat c := by
  refine ofChat_congr fun key hkey => ?_
  rw [deregisterChat, Map.getElem?_filter_key, if_pos]
  rw [Bool.not_eq_true', ← Bool.not_eq_true]
  intro hswept
  exact hne (eq_of_isKeyOf hswept hkey)

end

end Health

/-! ### The view of a chat -/

/-- A chat's record, clients, watchers, pending undo and health entries. -/
structure ChatView where
  record : Option Account
  clients : Mailbox → Option Client
  watchers : Mailbox → Option Client
  pendingUndo : Option PendingUndo
  health : Health

namespace AppState

/-- The view of a chat. -/
def view (app : AppState) (chatId : ChatId) : ChatView where
  record := app.data.accounts[chatId]?
  clients := app.client? chatId
  watchers := app.watcher? chatId
  pendingUndo := app.pendingUndo[chatId]?
  health := app.health.ofChat chatId

variable {config : Config} {lib : Externals} {app app' : AppState} {chatId c : ChatId}
  {m mailbox : Mailbox} {client : Client} {created : Option ThreadId} {op : Op} {slotId : String}

/-- What the view of a chat is read from. -/
theorem view_congr (hrecord : app'.data.accounts[c]? = app.data.accounts[c]?)
    (hclients : ∀ m, app'.client? c m = app.client? c m)
    (hwatchers : ∀ m, app'.watcher? c m = app.watcher? c m)
    (hundo : app'.pendingUndo[c]? = app.pendingUndo[c]?)
    (hhealth : app'.health.ofChat c = app.health.ofChat c) : app'.view c = app.view c := by
  rw [view, view, hrecord, hundo, hhealth, funext hclients, funext hwatchers]

/-- A change of the store alone. -/
theorem view_withData {data : StoreData} (h : data.accounts[c]? = app.data.accounts[c]?) :
    view { app with data := data } c = app.view c :=
  view_congr h (fun _ => client?_withData data) (fun _ => watcher?_withData data) rfl rfl

/-- A change of the registry alone. -/
theorem view_withHealth {health : Health} (h : health.ofChat c = app.health.ofChat c) :
    view { app with health := health } c = app.view c :=
  view_congr rfl (fun _ => client?_withHealth health) (fun _ => watcher?_withHealth health) rfl h

/-- A change of the pending undos alone. -/
theorem view_withUndo {pendingUndo : Map ChatId PendingUndo}
    (h : pendingUndo[c]? = app.pendingUndo[c]?) :
    view { app with pendingUndo := pendingUndo } c = app.view c :=
  view_congr rfl (fun m => by cases m <;> rfl) (fun m => by cases m <;> rfl) h rfl

/-! ### One access -/

section

variable (hne : chatId ≠ c)
include hne

/-- Caching a client of one chat leaves another's view. -/
theorem view_insertClient : (app.insertClient chatId client m).view c = app.view c := by
  refine view_congr (by rw [data_insertClient]) (fun m' => ?_) (fun _ => watcher?_insertClient)
    (by cases m <;> rfl) (by rw [health_insertClient])
  rw [client?_insertClient, if_neg fun h => hne h.1]

theorem view_removeClient : (app.removeClient chatId m).view c = app.view c := by
  refine view_congr (by rw [data_removeClient]) (fun m' => ?_) (fun _ => watcher?_removeClient)
    (by cases m <;> rfl) (by rw [health_removeClient])
  rw [client?_removeClient, if_neg fun h => hne h.1]

theorem view_insertWatcher : (app.insertWatcher chatId client m).view c = app.view c := by
  refine view_congr (by rw [data_insertWatcher]) (fun _ => client?_insertWatcher) (fun m' => ?_)
    (by cases m <;> rfl) (by rw [health_insertWatcher])
  rw [watcher?_insertWatcher, if_neg fun h => hne h.1]

theorem view_removeWatcher : (app.removeWatcher chatId m).view c = app.view c := by
  refine view_congr (by rw [data_removeWatcher]) (fun _ => client?_removeWatcher) (fun m' => ?_)
    (by cases m <;> rfl) (by rw [health_removeWatcher])
  rw [watcher?_removeWatcher, if_neg fun h => hne h.1]

/-- Sweeping a map leaves the entries of the other chats. -/
theorem getElem?_sweep {map : Map (ChatId × String) Client} (id : String) :
    (map.filter fun key _ => key.1 != chatId)[(c, id)]? = map[(c, id)]? := by
  rw [Map.getElem?_filter_key, if_pos (bne_iff_ne.mpr hne.symm)]

theorem view_removeAccountClients : (app.removeAccountClients chatId).view c = app.view c := by
  refine view_congr rfl (fun m => ?_) (fun m => by cases m <;> rfl) rfl rfl
  cases m with
  | account slotId => exact getElem?_sweep hne slotId
  | shared accountId => rfl

theorem view_removeAccountWatchers : (app.removeAccountWatchers chatId).view c = app.view c := by
  refine view_congr rfl (fun m => by cases m <;> rfl) (fun m => ?_) rfl rfl
  cases m with
  | account slotId => exact getElem?_sweep hne slotId
  | shared accountId => rfl

theorem view_removeSharedClients : (app.removeSharedClients chatId).view c = app.view c := by
  refine view_congr rfl (fun m => ?_) (fun m => by cases m <;> rfl) rfl rfl
  cases m with
  | account slotId => rfl
  | shared accountId => exact getElem?_sweep hne accountId

theorem view_removeSharedWatchers : (app.removeSharedWatchers chatId).view c = app.view c := by
  refine view_congr rfl (fun m => by cases m <;> rfl) (fun m => ?_) rfl rfl
  cases m with
  | account slotId => rfl
  | shared accountId => exact getElem?_sweep hne accountId

theorem view_register : (app.register chatId m).view c = app.view c :=
  view_withHealth (Health.ofChat_register hne)

theorem view_deregister :
    view { app with health := app.health.deregister (m.healthKey chatId) } c = app.view c :=
  view_withHealth (Health.ofChat_deregister hne)

theorem view_deregisterChat :
    view { app with health := app.health.deregisterChat chatId } c = app.view c :=
  view_withHealth (Health.ofChat_deregisterChat hne)

theorem view_dropUndo :
    view { app with pendingUndo := app.pendingUndo.erase chatId } c = app.view c :=
  view_withUndo (Map.getElem?_erase.trans (if_neg hne))

theorem view_insertUndo (pending : PendingUndo) :
    view { app with pendingUndo := app.pendingUndo.insert chatId pending } c = app.view c :=
  view_withUndo (Map.getElem?_insert.trans (if_neg hne))

end

/-- A store operation leaves the views of the chats it is not about. -/
theorem view_call (hop : op.chatId ≠ c) : (app.call lib op).view c = app.view c :=
  view_withData (Op.apply_of_ne hop.symm)

/-! ### Mailboxes -/

section

variable (hne : chatId ≠ c)
include hne

theorem view_ensureTopic : (app.ensureTopic config lib chatId created m).view c = app.view c := by
  cases m with
  | account slotId =>
    simp only [ensureTopic, ensureSlotTopic]
    repeat' split
    all_goals first | rfl | exact view_call hne
  | shared accountId =>
    simp only [ensureTopic, ensureSharedTopic]
    repeat' split
    all_goals first | rfl | exact view_call hne

theorem view_adopt : (app.adopt config lib chatId m client created).view c = app.view c := by
  rw [adopt]
  split
  · rfl
  · rw [view_ensureTopic hne, view_insertWatcher hne, view_register hne, view_insertClient hne]

theorem view_forgetMailbox : (app.forgetMailbox chatId m).view c = app.view c := by
  rw [forgetMailbox, view_removeWatcher hne, view_removeClient hne, view_deregister hne]

theorem view_forgetShared {accountId : String} :
    (app.forgetShared chatId accountId).view c = app.view c := view_forgetMailbox hne

theorem view_forgetAccount : (app.forgetAccount chatId slotId).view c = app.view c := by
  have hfold : ∀ (ids : List String) (app : AppState),
      (ids.foldl (fun app id => app.forgetShared chatId id) app).view c = app.view c := by
    intro ids
    induction ids with
    | nil => exact fun _ => rfl
    | cons id ids ih => exact fun app => (ih _).trans (view_forgetShared hne)
  rw [forgetAccount]
  split
  · exact view_forgetMailbox hne
  · exact (hfold _ _).trans (view_forgetMailbox hne)

/-- Forgetting a chat leaves the views of the others. -/
theorem view_forget : (app.forget chatId).view c = app.view c := by
  rw [forget, view_removeSharedWatchers hne, view_removeSharedClients hne,
    view_removeAccountWatchers hne, view_removeAccountClients hne]
  exact (view_withHealth (Health.ofChat_deregisterChat hne)).trans (view_dropUndo hne)

/-- Looking a client up leaves the views of the other chats. -/
theorem view_of_cachesAtMost (h : app.CachesAtMost chatId m client app') :
    app'.view c = app.view c := by
  obtain rfl | rfl := h
  · rfl
  · exact view_insertClient hne

end

end AppState

end Jmap2Telegram
