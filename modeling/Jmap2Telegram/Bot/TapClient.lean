import Jmap2Telegram.Bot.Pending
import Jmap2Telegram.State.Edits

/-!
# The client of a tap

A button carries the account id it was made with, or none, and each tap on it looks the client up
anew, by what the chat's record and the cached clients say then. Without an id that is the client of
the first slot.

* `AppState.namedClient?`: the client an account id leads to.
* `exists_callbackClient_iff`: which client the lookup finds.
* `sameClients_messageHandler`, `sameClients_callbackHandler`: what neither connects nor disconnects
  a mailbox keeps where each account id leads.
-/

namespace Jmap2Telegram

/-- A command that connects or disconnects mailboxes; `/accounts` without arguments lists them. -/
def BotCommand.changesAccounts : BotCommand → Bool
  | .login _ _ | .logout => true
  | .accounts args => !(Str.trim args).isEmpty
  | _ => false

/-- A tap that connects or disconnects mailboxes. -/
def Tap.changesAccounts : Tap → Bool
  | .toggleShared _ _ | .disconnect _ | .logoutAll => true
  | _ => false

namespace AppState

variable (app : AppState) (chatId : ChatId)

/-- Whether a shared account has a client, or can get one. -/
def resolvesShared (accountId : String) : Bool :=
  (app.client? chatId (.shared accountId)).isSome || (app.parentSlot? chatId accountId).isSome

/-- The mailbox whose client a tap with an account id asks for: the shared account of that id, or
else the slot of that id; without an id the first slot. Which credentials a slot has may change
while it keeps its id. -/
def namedMailbox? : Option String → Option Mailbox
  | some acc => some (if app.resolvesShared chatId acc then .shared acc else .account acc)
  | none => (app.data.accounts[chatId]?.bind Account.primarySlot).map fun slot =>
    .account slot.slotId

/-- The client an account id leads to, whether its server can be reached or not. -/
def namedClient? (accountId : Option String) : Option Client :=
  (app.namedMailbox? chatId accountId).bind (app.mailboxClient? chatId)

/-- A tap with an account id finds a client: that of the mailbox is cached, or its server can be
reached. -/
def CanTap (reaches : Client → Bool) (accountId : Option String) : Prop :=
  ∃ m client, app.namedMailbox? chatId accountId = some m ∧ app.Finds reaches chatId m client

/-- Two states in which every mailbox of a chat has the same client, and the first slot is the
same. -/
structure SameClients (app' : AppState) : Prop where
  clients : ∀ m, app'.mailboxClient? chatId m = app.mailboxClient? chatId m
  primary : (app'.data.accounts[chatId]?.bind Account.primarySlot).map AccountSlot.slotId =
    (app.data.accounts[chatId]?.bind Account.primarySlot).map AccountSlot.slotId

variable {app chatId} {app' app'' : AppState} {reaches : Client → Bool}
  {accountId : Option String} {m : Mailbox} {client c : Client} {slotId acc emailId : String}

/-! ### What a lookup finds -/

/-- A shared account has a client exactly when one is cached or can be made from its record. -/
theorem isSome_mailboxClient?_shared :
    (app.mailboxClient? chatId (.shared acc)).isSome = app.resolvesShared chatId acc := by
  rw [mailboxClient?, storedClient?, resolvesShared, Option.isSome_or, Option.isSome_map]

/-- **A tap finds** the client of the mailbox its account id stands for. -/
theorem exists_callbackClient_iff :
    (∃ app', app.callbackClient reaches chatId accountId = .live m client app') ↔
      app.namedMailbox? chatId accountId = some m ∧ app.Finds reaches chatId m client := by
  cases accountId with
  | none =>
    rw [callbackClient, clientFor, namedMailbox?]
    rcases app.data.accounts[chatId]?.bind Account.primarySlot with - | slot
    · simp
    · rw [Option.map_some, Option.some_inj, eq_comm]
      exact exists_clientForAccount_iff
  | some acc =>
    rw [callbackClient, namedMailbox?, Option.some_inj, eq_comm]
    cases hresolves : app.resolvesShared chatId acc with
    | true =>
      rw [if_pos rfl, ← exists_clientForShared_iff]
      split
      case h_1 hshared => simp [hshared]
      case h_2 hshared =>
        obtain ⟨hcached, hparent⟩ := (clientForShared_eq_missing_iff reaches).mp hshared
        rw [resolvesShared, hcached, hparent] at hresolves
        cases hresolves
      case h_3 hshared => simp [hshared]
    | false =>
      rw [resolvesShared, Bool.or_eq_false_iff, Option.isSome_eq_false_iff,
        Option.isSome_eq_false_iff, Option.isNone_iff_eq_none, Option.isNone_iff_eq_none]
        at hresolves
      rw [if_neg Bool.false_ne_true, (clientForShared_eq_missing_iff reaches).mpr hresolves]
      exact exists_clientForAccount_iff

/-- A client that is found is that of the mailbox. -/
theorem namedMailbox?_of_live
    (h : app.callbackClient reaches chatId accountId = .live m client app') :
    app.namedMailbox? chatId accountId = some m :=
  (exists_callbackClient_iff.mp ⟨app', h⟩).1

/-- It is the mailbox's client. -/
theorem mailboxClient?_of_live
    (h : app.callbackClient reaches chatId accountId = .live m client app') :
    app.mailboxClient? chatId m = some client :=
  (exists_callbackClient_iff.mp ⟨app', h⟩).2.mailboxClient?

/-- A client that is found is the one the account id leads to. -/
theorem namedClient?_of_live
    (h : app.callbackClient reaches chatId accountId = .live m client app') :
    app.namedClient? chatId accountId = some client := by
  rw [namedClient?, namedMailbox?_of_live h, Option.bind_some, mailboxClient?_of_live h]

/-! ### States with the same clients -/

namespace SameClients

theorem refl (app : AppState) : app.SameClients chatId app := ⟨fun _ => rfl, rfl⟩

theorem trans (h : app.SameClients chatId app') (h' : app'.SameClients chatId app'') :
    app.SameClients chatId app'' :=
  ⟨fun m => (h'.clients m).trans (h.clients m), h'.primary.trans h.primary⟩

/-- In such states an account id stands for the same mailbox. -/
theorem namedMailbox? (h : app.SameClients chatId app') :
    app'.namedMailbox? chatId accountId = app.namedMailbox? chatId accountId := by
  cases accountId with
  | none =>
    have hprimary := congrArg (Option.map Mailbox.account) h.primary
    rwa [Option.map_map, Option.map_map] at hprimary
  | some acc =>
    rw [AppState.namedMailbox?, AppState.namedMailbox?, ← isSome_mailboxClient?_shared,
      ← isSome_mailboxClient?_shared, h.clients]

/-- And it leads to the same client. -/
theorem namedClient? (h : app.SameClients chatId app') :
    app'.namedClient? chatId accountId = app.namedClient? chatId accountId := by
  rw [AppState.namedClient?, AppState.namedClient?, h.namedMailbox?]
  exact Option.bind_congr fun m _ => h.clients m

end SameClients

/-- Caching a mailbox's client keeps the clients. -/
theorem sameClients_insertClient (h : app.mailboxClient? chatId m = some client) :
    app.SameClients chatId (app.insertClient chatId client m) where
  clients _ := mailboxClient?_insertClient h
  primary := by rw [data_insertClient]

/-- Caching a client that would have been found anyway changes none. -/
theorem sameClients_of_cachesAtMost (h : app.mailboxClient? chatId m = some client)
    (hcaches : app.CachesAtMost chatId m client app') : app.SameClients chatId app' := by
  obtain rfl | rfl := hcaches
  · exact .refl app'
  · exact sameClients_insertClient h

/-- Leaving or taking a pending undo keeps the clients. -/
theorem sameClients_withUndo (pendingUndo : Map ChatId PendingUndo) :
    app.SameClients chatId { app with pendingUndo := pendingUndo } where
  clients m := by cases m <;> rfl
  primary := rfl

/-- The client of a slot is made of what an edit keeps of it. -/
private theorem map_client_of_connection {old new : Option AccountSlot}
    (h : new.map AccountSlot.connection = old.map AccountSlot.connection)
    (selects : Option String) :
    new.map (fun slot => (⟨slot.serverUrl, slot.token, selects⟩ : Client)) =
      old.map fun slot => ⟨slot.serverUrl, slot.token, selects⟩ := by
  have hclient := congrArg (Option.map fun x => (⟨x.2.1, x.2.2, selects⟩ : Client)) h
  rwa [Option.map_map, Option.map_map] at hclient

/-- The slot a shared account connects through, by its parent. -/
theorem parentSlot?_eq : app.parentSlot? chatId acc =
    (app.data.shared? chatId acc).bind fun shared =>
      match shared.parentSlot with
      | some slotId => app.data.slot? chatId slotId
      | none => app.data.accounts[chatId]?.bind Account.primarySlot := by
  rw [parentSlot?, StoreData.shared?]
  simp only [StoreData.slot?]
  rcases app.data.accounts[chatId]? with - | account
  · rfl
  · simp only [Option.bind_some]
    rfl

/-- Editing records in place keeps the clients. -/
theorem sameClients_withData {data : StoreData} (h : app.data.EditedTo data) :
    app.SameClients chatId { app with data := data } where
  clients m := by
    rw [mailboxClient?, mailboxClient?, client?_withData]
    congr 1
    cases m with
    | account slotId => exact map_client_of_connection (h.slots chatId slotId) none
    | shared acc =>
      refine map_client_of_connection ?_ (some acc)
      rw [parentSlot?_eq, parentSlot?_eq]
      change Option.map _ ((data.shared? chatId acc).bind _) = _
      have hparent := h.shared chatId acc
      rcases hshared : app.data.shared? chatId acc with - | shared <;> rw [hshared] at hparent
      · rw [Option.map_eq_none_iff.mp hparent]
        rfl
      · obtain ⟨shared', hshared', hparent⟩ := Option.map_eq_some_iff.mp hparent
        rw [hshared', Option.bind_some, Option.bind_some, hparent]
        split
        · exact h.slots chatId _
        · exact h.primary chatId
  primary := by
    have hid := congrArg (Option.map Prod.fst) (h.primary chatId)
    rwa [Option.map_map, Option.map_map] at hid

/-! ### The inputs that keep them -/

variable {config : Config} {lib : Externals} {created : Option ThreadId} {env : TapEnv}

/-- A store call that edits a record in place leaves the clients. -/
theorem sameClients_call {op : Op} (h : op.edits = true) :
    app.SameClients chatId (app.call lib op) :=
  sameClients_withData (StoreData.editedTo_apply lib app.data h)

/-- Making sure of a topic at most stores the topic. -/
theorem sameClients_ensureTopic :
    app.SameClients chatId (app.ensureTopic config lib chatId created m) := by
  obtain ⟨data, happ⟩ := ensureTopic_eq config lib app chatId m created
  have hdata := data_ensureTopic config lib app chatId m created
  rw [happ] at hdata ⊢
  refine sameClients_withData ?_
  obtain hsame | ⟨slotId, topic, hset⟩ | ⟨acc, topic, hset⟩ := hdata
  · rw [show data = app.data from hsame]
    exact .refl app.data
  · rw [show data = _ from hset]
    exact StoreData.editedTo_apply lib app.data rfl
  · rw [show data = _ from hset]
    exact StoreData.editedTo_apply lib app.data rfl

theorem sameClients_syncAllTopics (answers : SyncAnswers) :
    app.SameClients chatId (app.syncAllTopics config lib chatId answers) :=
  syncAllTopics_induction (app.SameClients chatId)
    (fun _ _ _ hsame => hsame.trans sameClients_ensureTopic) (.refl app) answers

theorem sameClients_enableThreads (answers : SyncAnswers) :
    app.SameClients chatId (app.enableThreads config lib chatId answers) :=
  (sameClients_call rfl).trans (sameClients_syncAllTopics answers)

theorem sameClients_cmdRechercher {o : SearchOutcomes} {threadId : Option ThreadId}
    {query : String} : app.SameClients chatId (app.cmdRechercher chatId o threadId query).1 := by
  have hcache : ∀ (app' : AppState) m client app'', app.SameClients chatId app' →
      app'.mailboxClient? chatId m = some client → app'.CachesAtMost chatId m client app'' →
      app.SameClients chatId app'' :=
    fun _ _ _ _ hsame hclient hcaches =>
      hsame.trans (sameClients_of_cachesAtMost hclient hcaches)
  exact cmdRechercher_induction hcache (.refl app) threadId query

theorem sameClients_performTriageAction {triage : TriageAction} :
    app.SameClients chatId
      (app.performTriageAction env chatId accountId emailId triage).app := by
  have heffect := triageEffect env app chatId accountId emailId triage
  generalize app.performTriageAction env chatId accountId emailId triage = handled at heffect ⊢
  cases heffect with
  | unread | unmoved | unanswered => exact .refl app
  | undoable => exact sameClients_withUndo _

/-- A tap that acts on an email caches its client, and leaves or takes an undo. -/
theorem sameClients_act {action : String} :
    app.SameClients chatId (app.act env chatId accountId emailId action).app := by
  rw [act]
  split
  case h_1 hlive =>
    refine (sameClients_of_cachesAtMost (mailboxClient?_of_live hlive)
      (cachesAtMost_callbackClient hlive)).trans ?_
    split_ifs
    · exact sameClients_performTriageAction
    · exact sameClients_performTriageAction
    · exact sameClients_performTriageAction
    · rw [app_undo]
      exact sameClients_withUndo _
    · exact .refl _
  case h_2 => exact .refl app
  case h_3 => exact .refl app

/-- **A command that neither connects nor disconnects a mailbox** keeps the clients. -/
theorem sameClients_messageHandler {command : BotCommand} (h : command.changesAccounts = false)
    (threadId : Option ThreadId) (lang : Locale) (answers : HandlerAnswers) :
    app.SameClients chatId
      (app.messageHandler config lib chatId threadId lang answers command) := by
  rw [messageHandler.eq_def]
  cases command with
  | start | help | status | shared => exact .refl app
  | login | logout => cases h
  | accounts args =>
    have hempty : (Str.trim args).isEmpty = true := by
      simpa [BotCommand.changesAccounts] using h
    simp only [cmdComptes, hempty, if_true]
    exact .refl app
  | mute term =>
    simp only [cmdMute]
    split
    · exact .refl app
    · exact sameClients_call rfl
  | unmute term =>
    simp only [cmdUnmute]
    split
    · exact .refl app
    · exact sameClients_call rfl
  | search query => exact sameClients_cmdRechercher
  | threads arg =>
    simp only [cmdThreads]
    split
    · exact .refl app
    · split_ifs
      · exact sameClients_enableThreads answers.sync
      · exact sameClients_call rfl
      · exact .refl app
  | lang requested =>
    simp only [cmdLang]
    split
    · exact .refl app
    · split
      · exact .refl app
      · exact sameClients_call rfl

/-- **So does a tap.** -/
theorem sameClients_callbackHandler {data : String}
    (h : (Tap.ofData data).changesAccounts = false) (answers : HandlerAnswers) :
    app.SameClients chatId (app.callbackHandler config lib chatId env answers data) := by
  rw [callbackHandler]
  cases htap : Tap.ofData data with
  | answer | redraw accountId emailId alreadyRead expanded | alreadyRead => exact .refl app
  | toggleShared | disconnect | logoutAll =>
    rw [htap] at h
    cases h
  | threads choice =>
    dsimp only
    split_ifs
    · exact sameClients_enableThreads answers.sync
    · exact sameClients_call rfl
    · exact sameClients_syncAllTopics answers.sync
    · exact .refl app
  | act action accountId emailId => exact sameClients_act

end AppState

end Jmap2Telegram
