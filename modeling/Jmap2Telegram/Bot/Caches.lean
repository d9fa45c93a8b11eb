import Jmap2Telegram.Bot.Watched
import Jmap2Telegram.Resume.Tasks
import Jmap2Telegram.State.Clients
import Jmap2Telegram.State.Edits
import Jmap2Telegram.Store.Durability

/-!
# The cached clients

What the bot does to the caches of clients while it runs: its commands adopt and forget mailboxes,
a tap or a search connects a client that is not cached, a restart starts with empty caches and boot
resume adopts what the store holds. Each is run here to its end before the next one.

* `client?_forgetAccount`, `client?_adopt`: the caches after each operation.
* `Cached.exec`: a command leaves the clients of stored mailboxes only.
* `Consistent.step`, `consistent_of_reachable`: so does every run.
-/

namespace Jmap2Telegram

open Transition

/-- The JMAP account the client of a mailbox is switched to; a slot's client keeps its own. -/
def Mailbox.selects : Mailbox → Option String
  | account _ => none
  | shared accountId => some accountId

namespace AppState

/-- The live client of a mailbox. -/
def clientOf (app : AppState) (reaches : Client → Bool) (chatId : ChatId) : Mailbox → Resolution
  | .account slotId => app.clientForAccount reaches chatId slotId
  | .shared accountId => app.clientForShared reaches chatId accountId

/-- Every cached client is that of a mailbox in the store, switched to the mailbox's account. -/
def Cached (app : AppState) : Prop :=
  ∀ (c : ChatId) (m : Mailbox) (client : Client), app.client? c m = some client →
    app.data.Holds c m ∧ client.accountId = m.selects

end AppState

/-- What happens to the bot. -/
inductive BotEvent where
  | command (command : Command)
  /-- A handler looks a client up. -/
  | lookup (reaches : Client → Bool) (chatId : ChatId) (m : Mailbox)
  /-- A watcher or another command edits a record in place. -/
  | edit (op : Op)
  /-- The bot restarts with what the state file holds. -/
  | restart
  /-- Boot resume adopts one of a chat's targets. -/
  | resume (chatId : ChatId) (k : ℕ) (created : Option ThreadId)

/-- One event after another; a lookup that fails changes nothing. -/
def BotEvent.step (config : Config) (lib : Externals) (app : AppState) : BotEvent → Option AppState
  | .command cmd => some (app.exec config lib cmd)
  | .lookup reaches chatId m =>
    match app.clientOf reaches chatId m with
    | .live _ _ app => some app
    | .missing | .err => none
  | .edit op => if op.edits then some (app.call lib op) else none
  | .restart => some (.new app.data.nameParents)
  | .resume chatId k created =>
    (app.data.accounts[chatId]?.bind fun account => (persistedTargets account)[k]?).map fun t =>
      app.adopt config lib chatId t.mailbox t.client created

namespace AppState

variable {config : Config} {lib : Externals} {app app' : AppState} {chatId c : ChatId}
  {m mailbox : Mailbox} {client : Client} {created : Option ThreadId} {slotId : String}

/-! ### The caches after an operation -/

/-- Forgetting a slot drops its client and those of the shared accounts under it. -/
theorem client?_forgetAccount : (app.forgetAccount chatId slotId).client? c m = some client ↔
    app.client? c m = some client ∧ ¬(chatId = c ∧ app.data.Under chatId slotId m) :=
  lookup_forgetAccount fun _ _ _ => client?_forgetMailbox

/-- Forgetting a chat drops its clients. -/
theorem client?_forget :
    (app.forget chatId).client? c m = if chatId = c then none else app.client? c m := by
  by_cases hc : chatId = c
  · cases m <;>
      simp only [client?, AppState.forget, removeAccountClients, removeAccountWatchers,
        removeSharedClients, removeSharedWatchers, Map.getElem?_filter_key, hc, bne_self_eq_false,
        Bool.false_eq_true, if_false, if_true]
  · have hkey : (c != chatId) = true := bne_iff_ne.mpr fun heq => hc heq.symm
    cases m <;>
      simp only [client?, AppState.forget, removeAccountClients, removeAccountWatchers,
        removeSharedClients, removeSharedWatchers, Map.getElem?_filter_key, hkey, if_true,
        if_neg hc]

/-- A client that is cached after an adopt was cached before, or is the adopted one. -/
theorem client?_adopt {cached : Client}
    (h : (app.adopt config lib chatId mailbox client created).client? c m = some cached) :
    app.client? c m = some cached ∨ chatId = c ∧ mailbox = m ∧ client = cached := by
  rw [adopt] at h
  split at h
  · exact .inl h
  · obtain ⟨data, heq⟩ := ensureTopic_eq config lib (((app.insertClient chatId client
      mailbox).register chatId mailbox).insertWatcher chatId client mailbox) chatId mailbox created
    rw [heq, client?_withData, client?_insertWatcher, register, client?_withHealth,
      client?_insertClient] at h
    split at h
    case isTrue hkey =>
      cases h
      exact .inr ⟨hkey.1, hkey.2, rfl⟩
    case isFalse => exact .inl h

/-! ### Lookups -/

/-- A lookup finds a client in the cache, or it connects one with the credentials the store has, and
caches it. -/
theorem clientOf_cases {reaches : Client → Bool}
    (h : app.clientOf reaches chatId mailbox = .live m client app') :
    app.client? chatId mailbox = some client ∧ app' = app ∨
      client.accountId = mailbox.selects ∧ app' = app.insertClient chatId client mailbox ∧
        app.data.Holds chatId mailbox := by
  -- the two lookups differ in where the store has the credentials
  cases mailbox with
  | account slotId =>
    obtain ⟨rfl, hcached | ⟨slot, hslot, rfl, -, happ⟩⟩ := clientForAccount_live h
    · exact .inl hcached
    · refine .inr ⟨rfl, happ, ?_⟩
      rw [StoreData.Holds, hslot]
      rfl
  | shared accountId =>
    obtain ⟨rfl, hcached | ⟨slot, hslot, rfl, -, happ⟩⟩ := clientForShared_live h
    · exact .inl hcached
    · refine .inr ⟨rfl, happ, ?_⟩
      obtain ⟨account, haccount, hslot⟩ := Option.bind_eq_some_iff.mp hslot
      obtain ⟨shared, hshared, -⟩ := Option.bind_eq_some_iff.mp hslot
      rw [StoreData.Holds, StoreData.shared?, haccount, Option.bind_some, hshared]
      rfl

/-- A looked up client is switched to its mailbox's account. -/
theorem Cached.accountId_of_live (h : app.Cached) {reaches : Client → Bool}
    (hlive : app.clientOf reaches chatId mailbox = .live m client app') :
    client.accountId = mailbox.selects := by
  obtain ⟨hcached, -⟩ | ⟨hselects, -, -⟩ := clientOf_cases hlive
  · exact (h chatId mailbox client hcached).2
  · exact hselects

/-! ### What leaves the clients of stored mailboxes only -/

/-- At the start no client is cached. -/
theorem cached_new (data : StoreData) : (new data).Cached := by
  intro c m client h
  cases m <;> simp [new, client?] at h

/-- An operation that takes no mailbox away. -/
theorem Cached.call (h : app.Cached) {op : Op}
    (hop : ∀ c m, app.data.Holds c m → (op.apply lib app.data).Holds c m) :
    (app.call lib op).Cached := by
  intro c m client hclient
  rw [client?_call] at hclient
  obtain ⟨hholds, hselects⟩ := h c m client hclient
  exact ⟨hop c m hholds, hselects⟩

/-- The client of a stored mailbox. -/
theorem Cached.adopt (h : app.Cached) (hholds : app.data.Holds chatId mailbox)
    (hselects : client.accountId = mailbox.selects) :
    (app.adopt config lib chatId mailbox client created).Cached := by
  intro c m cached hcached
  rw [holds_adopt]
  obtain hbefore | ⟨rfl, rfl, rfl⟩ := client?_adopt hcached
  · exact h c m cached hbefore
  · exact ⟨hholds, hselects⟩

/-- A client cached for a mailbox that the store holds. -/
theorem Cached.insertClient (h : app.Cached) (hholds : app.data.Holds chatId mailbox)
    (hselects : client.accountId = mailbox.selects) :
    (app.insertClient chatId client mailbox).Cached := by
  intro c m cached hcached
  rw [data_insertClient]
  rw [client?_insertClient] at hcached
  split at hcached
  case isTrue hkey =>
    obtain ⟨rfl, rfl⟩ := hkey
    cases hcached
    exact ⟨hholds, hselects⟩
  case isFalse => exact h c m cached hcached

/-- Forgetting a slot, whatever the store holds then. -/
theorem Cached.forgetAccount (h : app.Cached) (slotId : String) :
    (app.forgetAccount chatId slotId).Cached := by
  intro c m client hclient
  rw [data_forgetAccount]
  exact h c m client (client?_forgetAccount.mp hclient).1

theorem Cached.logoutAll (h : app.Cached) : (app.logoutAll lib chatId).Cached := by
  intro c m client hclient
  rw [AppState.logoutAll, client?_call, client?_forget] at hclient
  split at hclient
  · cases hclient
  case isFalse hne =>
    obtain ⟨hholds, hselects⟩ := h c m client hclient
    refine ⟨?_, hselects⟩
    rw [AppState.logoutAll, data_call, data_forget]
    exact StoreData.holds_remove.mpr ⟨hholds, hne⟩

theorem Cached.cmdLogin (h : app.Cached) {serverUrl token lang : String} {answers : Answers} :
    (app.cmdLogin config lib chatId serverUrl token lang answers).Cached := by
  rw [AppState.cmdLogin]
  refine (((h.call ?_).call ?_).forgetAccount _).adopt ?_ rfl
  · exact fun c m hm => StoreData.holds_addAccount.mpr (.inl hm)
  · exact fun c m hm => StoreData.holds_setLanguage.mpr hm
  · rw [data_forgetAccount, data_call, StoreData.holds_setLanguage, data_call,
      StoreData.holds_addAccount]
    exact .inr ⟨rfl, rfl⟩

/-- A toggle caches one for an account it adds, and drops that of one it removes. -/
theorem Cached.toggleSharedAccount (h : app.Cached) {accountId : String}
    {parentSlot : Option String} {answers : Answers} :
    (app.toggleSharedAccount config lib chatId accountId parentSlot answers).Cached := by
  rw [AppState.toggleSharedAccount]
  split
  · exact h
  case _ account haccount =>
    -- an account that is in the store is turned off
    split
    · intro c m client hclient
      rw [client?_call, forgetShared, client?_forgetMailbox] at hclient
      split at hclient
      · cases hclient
      case isFalse hne =>
        obtain ⟨hholds, hselects⟩ := h c m client hclient
        refine ⟨?_, hselects⟩
        rw [data_call, data_forgetShared]
        exact StoreData.holds_removeSharedAccount.mpr ⟨hholds, hne⟩
    · split
      · exact h
      -- one that is not is turned on, if there is a slot to go under
      case _ serverUrl token slotId hparent =>
        have hsome : (app.data.accounts[chatId]?).isSome := by rw [haccount]; rfl
        refine (h.call ?_).adopt ?_ rfl
        · exact fun c m hm => (StoreData.holds_setSharedAccount hsome).mpr (.inl hm)
        · rw [data_call, StoreData.holds_setSharedAccount hsome]
          exact .inr ⟨rfl, rfl⟩

/-- Disconnecting a slot forgets the mailboxes that the store drops. -/
theorem Cached.disconnectAccount (hwf : app.data.WellFormed) (h : app.Cached) :
    (app.disconnectAccount lib chatId slotId).Cached := by
  intro c m client hclient
  rw [AppState.disconnectAccount, client?_call] at hclient
  obtain ⟨hbefore, hkept⟩ := client?_forgetAccount.mp hclient
  obtain ⟨hholds, hselects⟩ := h c m client hbefore
  refine ⟨?_, hselects⟩
  rw [AppState.disconnectAccount, data_call, data_forgetAccount]
  exact (StoreData.holds_removeAccount hwf.parents).mpr ⟨hholds, hkept⟩

/-- **A command** leaves the clients of stored mailboxes only. -/
theorem Cached.exec (hwf : app.data.WellFormed) (h : app.Cached) (command : Command) :
    (app.exec config lib command).Cached := by
  cases command with
  | login chatId serverUrl token lang answers => exact h.cmdLogin
  | comptes chatId args answers =>
    rw [AppState.exec]
    obtain heq | ⟨serverUrl, token, heq⟩ := app.cmdComptes_cases config lib chatId args answers
    · rwa [heq]
    · rw [heq]
      refine (h.call ?_).adopt ?_ rfl
      · exact fun c m hm => StoreData.holds_addAccount.mpr (.inl hm)
      · rw [data_call, StoreData.holds_addAccount]
        exact .inr ⟨rfl, rfl⟩
  | toggleSharedAccount chatId accountId parentSlot answers => exact h.toggleSharedAccount
  | disconnectAccount chatId slotId => exact h.disconnectAccount hwf
  | logout chatId =>
    rw [AppState.exec, cmdLogout]
    split
    · exact h
    · split
      · exact h.logoutAll
      · exact h
  | logoutAll chatId => exact h.logoutAll

end AppState

/-! ### The ids of the slots -/

/-- No slot has a colon in its id. -/
def StoreData.PlainIds (data : StoreData) : Prop :=
  ∀ (c : ChatId) (s : String), data.Holds c (.account s) → ':' ∉ s.toList

/-- No id that is generated has a colon. -/
theorem GeneratedSlotId.not_mem_colon (generated : GeneratedSlotId) :
    ':' ∉ generated.val.toList := fun h =>
  absurd (generated.mem_alphabet ':' h) (by decide)

/-- A logout names no new mailbox. -/
theorem StoreData.PlainIds.logoutAll {lib : Externals} {app : AppState} {chatId : ChatId}
    (h : app.data.PlainIds) : (app.logoutAll lib chatId).data.PlainIds := by
  intro c s hs
  rw [AppState.logoutAll, AppState.data_call, AppState.data_forget] at hs
  exact h c s (StoreData.holds_remove.mp hs).1

/-- A command connects slots under plain ids. -/
theorem StoreData.PlainIds.exec {config : Config} {lib : Externals} {app : AppState}
    (hwf : app.data.WellFormed) (h : app.data.PlainIds) (command : Command) :
    (app.exec config lib command).data.PlainIds := by
  cases command with
  | login chatId serverUrl token lang answers =>
    intro c s hs
    obtain hs | ⟨rfl, heq⟩ := AppState.holds_cmdLogin.mp hs
    · exact h c s hs
    · cases heq
      -- the id a login stores under: `"default"`, a generated one, or one the chat has
      obtain heq | heq | hstored := AppState.savedSlotId_origin chatId answers hwf
      · rw [heq]
        decide
      · rw [heq]
        exact answers.generated.not_mem_colon
      · exact h chatId _ hstored
  | comptes chatId args answers =>
    rw [AppState.exec]
    obtain heq | ⟨serverUrl, token, heq⟩ := app.cmdComptes_cases config lib chatId args answers
    · rwa [heq]
    · intro c s hs
      rw [heq, AppState.holds_adopt, AppState.data_call, StoreData.holds_addAccount] at hs
      obtain hs | ⟨-, hid⟩ := hs
      · exact h c s hs
      · cases hid
        exact answers.generated.not_mem_colon
  | toggleSharedAccount chatId accountId parentSlot answers =>
    intro c s hs
    rw [AppState.exec, AppState.toggleSharedAccount] at hs
    split at hs
    · exact h c s hs
    case _ account haccount =>
      split at hs
      · rw [AppState.data_call, AppState.data_forgetShared] at hs
        exact h c s (StoreData.holds_removeSharedAccount.mp hs).1
      · split at hs
        · exact h c s hs
        · have hsome : (app.data.accounts[chatId]?).isSome := by rw [haccount]; rfl
          rw [AppState.holds_adopt, AppState.data_call,
            StoreData.holds_setSharedAccount hsome] at hs
          -- what is added is a shared account, not a slot
          obtain hs | ⟨-, hne⟩ := hs
          · exact h c s hs
          · cases hne
  | disconnectAccount chatId slotId =>
    intro c s hs
    rw [AppState.exec, AppState.disconnectAccount, AppState.data_call,
      AppState.data_forgetAccount] at hs
    exact h c s ((StoreData.holds_removeAccount hwf.parents).mp hs).1
  | logout chatId =>
    rw [AppState.exec, AppState.cmdLogout]
    split
    · exact h
    · split
      · exact h.logoutAll
      · exact h
  | logoutAll chatId => exact h.logoutAll

/-! ### Every run -/

/-- Every shared account of well-formed data names its parent, so reading the data back changes
nothing. -/
theorem StoreData.WellFormed.nameParents_eq {data : StoreData} (h : data.WellFormed) :
    data.nameParents = data := by
  refine StoreData.nameParents_eq_self fun c account haccount a shared hshared => ?_
  have hlookup : data.shared? c a = some shared := by
    rw [StoreData.shared?, haccount]
    exact hshared
  obtain ⟨p, hp, -⟩ := h.parents c a shared hlookup
  rw [hp]
  rfl

/-- The targets of boot resume are mailboxes of the store, with their own clients. -/
theorem holds_of_mem_persistedTargets {data : StoreData} {chatId : ChatId} {account : Account}
    {t : ResumeTarget} (haccount : data.accounts[chatId]? = some account)
    (ht : t ∈ persistedTargets account) :
    data.Holds chatId t.mailbox ∧ t.client.accountId = t.mailbox.selects := by
  rw [persistedTargets, List.mem_append] at ht
  obtain ht | ht := ht
  · obtain ⟨⟨s, slot⟩, hentry, rfl⟩ := List.mem_map.mp ht
    have hslot : account.accounts[s]? = some slot :=
      Std.ExtTreeMap.mem_toList_iff_getElem?_eq_some.mp hentry
    refine ⟨?_, rfl⟩
    change (data.slot? chatId s).isSome
    rw [StoreData.slot?, haccount, Option.bind_some, hslot]
    rfl
  · obtain ⟨⟨a, shared⟩, hentry, ht⟩ := List.mem_filterMap.mp ht
    obtain ⟨slot, -, rfl⟩ := Option.map_eq_some_iff.mp ht
    have hshared : account.sharedAccounts[a]? = some shared :=
      Std.ExtTreeMap.mem_toList_iff_getElem?_eq_some.mp hentry
    refine ⟨?_, rfl⟩
    change (data.shared? chatId a).isSome
    rw [StoreData.shared?, haccount, Option.bind_some, hshared]
    rfl

/-- What every reachable state satisfies. -/
structure AppState.Consistent (app : AppState) : Prop where
  wellFormed : app.data.WellFormed
  plainIds : app.data.PlainIds
  cached : app.Cached

namespace AppState

variable {config : Config} {lib : Externals} {app app' : AppState}

theorem consistent_new_empty : (new .empty).Consistent where
  wellFormed := StoreData.wellFormed_empty
  plainIds c s h := by simp [new, StoreData.Holds, StoreData.slot?, StoreData.empty] at h
  cached := cached_new .empty

/-- Every event keeps the invariant. -/
theorem Consistent.step (h : app.Consistent) {event : BotEvent}
    (hstep : event.step config lib app = some app') : app'.Consistent := by
  cases event with
  | command command =>
    cases hstep
    exact ⟨wellFormed_exec h.wellFormed command, h.plainIds.exec h.wellFormed command,
      h.cached.exec h.wellFormed command⟩
  | lookup reaches chatId m =>
    rw [BotEvent.step] at hstep
    split at hstep
    case h_1 mailbox client looked hlive =>
      cases hstep
      -- a hit leaves the state alone, a miss caches the client of a stored mailbox
      obtain ⟨-, rfl⟩ | ⟨hselects, rfl, hholds⟩ := clientOf_cases hlive
      · exact h
      · refine ⟨?_, ?_, h.cached.insertClient hholds hselects⟩
        · rw [data_insertClient]
          exact h.wellFormed
        · rw [data_insertClient]
          exact h.plainIds
    · cases hstep
    · cases hstep
  | edit op =>
    rw [BotEvent.step] at hstep
    split at hstep
    case isTrue hedits =>
      cases hstep
      have hedited := StoreData.editedTo_apply lib app.data hedits
      exact ⟨hedited.wellFormed h.wellFormed,
        fun c s hs => h.plainIds c s (hedited.holds_iff.mp hs),
        h.cached.call fun c m hm => hedited.holds_iff.mpr hm⟩
    case isFalse => cases hstep
  | restart =>
    cases hstep
    -- the caches start empty, and what is read from disk names its parents already
    refine ⟨?_, ?_, cached_new _⟩
    · change app.data.nameParents.WellFormed
      rw [h.wellFormed.nameParents_eq]
      exact h.wellFormed
    · change app.data.nameParents.PlainIds
      rw [h.wellFormed.nameParents_eq]
      exact h.plainIds
  | resume chatId k created =>
    obtain ⟨t, htarget, rfl⟩ := Option.map_eq_some_iff.mp hstep
    obtain ⟨account, haccount, ht⟩ := Option.bind_eq_some_iff.mp htarget
    obtain ⟨hholds, hselects⟩ :=
      holds_of_mem_persistedTargets haccount (List.mem_of_getElem? ht)
    exact ⟨wellFormed_adopt h.wellFormed, fun c s hs => h.plainIds c s (holds_adopt.mp hs),
      h.cached.adopt hholds hselects⟩

/-- **Every reachable state** caches the clients of stored mailboxes only. -/
theorem consistent_of_reachable (h : Reachable (BotEvent.step config lib) (new .empty) app) :
    app.Consistent := by
  obtain ⟨events, hrun⟩ := h
  exact run_induction Consistent (fun _ _ _ h hstep => h.step hstep) consistent_new_empty hrun

end AppState

end Jmap2Telegram
