import Jmap2Telegram.Bot.Handlers
import Jmap2Telegram.State.Views
import Jmap2Telegram.Transition.Isolation
import Jmap2Telegram.Watcher.Sync

/-!
# Tenants

The chats of one bot do not trust each other, and share all of its maps. Whatever runs for a chat
changes that chat's part of them at most: a command or a tap from one end to the other, the steps of
the chat's tasks in any order, of boot resume or of a command that is interrupted, and the steps of
the chat's watchers.

* `view_messageHandler`, `view_callbackHandler`, `view_run_tasks`, `view_syncStep`: each of these
  leaves the views of the other chats.
* `isolated_step`: the chats are isolated.
* `view_of_run`: so they are along a run.
-/

namespace Jmap2Telegram

open Transition

namespace AppState

variable {config : Config} {lib : Externals} {app app' : AppState} {chatId c : ChatId}

/-! ### Commands -/

section

variable (hne : chatId ≠ c)
include hne

/-- Giving the mailboxes of a chat their topics leaves another chat's view. -/
theorem view_syncAllTopics (answers : SyncAnswers) :
    (app.syncAllTopics config lib chatId answers).view c = app.view c :=
  syncAllTopics_induction (fun app' => app'.view c = app.view c)
    (fun _ _ _ hsame => (view_ensureTopic hne).trans hsame) rfl answers

theorem view_enableThreads (answers : SyncAnswers) :
    (app.enableThreads config lib chatId answers).view c = app.view c :=
  calc (app.enableThreads config lib chatId answers).view c
      = (app.call lib (.setThreadsEnabled chatId (some true))).view c :=
        view_syncAllTopics hne answers
    _ = app.view c := view_call hne

theorem view_disableThreads : (app.disableThreads lib chatId).view c = app.view c := view_call hne

theorem view_cmdThreads (arg : String) (answers : SyncAnswers) :
    (app.cmdThreads config lib chatId arg answers).view c = app.view c := by
  rw [cmdThreads]
  split
  · rfl
  · dsimp only
    split_ifs
    · exact view_enableThreads hne answers
    · exact view_disableThreads hne
    · rfl

theorem view_cmdLang (requested : String) :
    (app.cmdLang lib chatId requested).view c = app.view c := by
  rw [cmdLang]
  split
  · rfl
  · split
    · rfl
    · exact view_call hne

theorem view_cmdMute (term : String) : (app.cmdMute lib chatId term).view c = app.view c := by
  rw [cmdMute]
  split
  · rfl
  · exact view_call hne

theorem view_cmdUnmute (term : String) :
    (app.cmdUnmute lib chatId term).view c = app.view c := by
  rw [cmdUnmute]
  split
  · rfl
  · exact view_call hne

theorem view_cmdLogin (serverUrl token lang : String) (answers : Answers) :
    (app.cmdLogin config lib chatId serverUrl token lang answers).view c = app.view c := by
  rw [cmdLogin]
  rw [view_adopt hne, view_forgetAccount hne]
  exact Eq.trans (view_call hne) (view_call hne)

theorem view_cmdComptes (args : String) (answers : Answers) :
    (app.cmdComptes config lib chatId args answers).view c = app.view c := by
  obtain h | ⟨serverUrl, token, h⟩ := cmdComptes_cases config lib app chatId args answers
  · rw [h]
  · rw [h, view_adopt hne]
    exact view_call hne

theorem view_toggleSharedAccount (accountId : String) (parentSlot : Option String)
    (answers : Answers) :
    (app.toggleSharedAccount config lib chatId accountId parentSlot answers).view c =
      app.view c := by
  rw [toggleSharedAccount]
  split
  · rfl
  · split
    · exact Eq.trans (view_call hne) (view_forgetShared hne)
    · split
      · rfl
      · exact Eq.trans (view_adopt hne) (view_call hne)

theorem view_disconnectAccount (slotId : String) :
    (app.disconnectAccount lib chatId slotId).view c = app.view c :=
  calc (app.disconnectAccount lib chatId slotId).view c
      = (app.forgetAccount chatId slotId).view c := view_call hne
    _ = app.view c := view_forgetAccount hne

/-- A logout stops the watchers of its own chat only. -/
theorem view_logoutAll : (app.logoutAll lib chatId).view c = app.view c :=
  calc (app.logoutAll lib chatId).view c
      = (app.forget chatId).view c := view_call hne
    _ = app.view c := view_forget hne

theorem view_cmdLogout : (app.cmdLogout lib chatId).view c = app.view c := by
  rw [cmdLogout]
  split
  · rfl
  · split
    · exact view_logoutAll hne
    · rfl

/-- A search caches clients of its own chat only. -/
theorem view_cmdRechercher {o : SearchOutcomes} {threadId : Option ThreadId} {query : String} :
    (app.cmdRechercher chatId o threadId query).1.view c = app.view c := by
  have hcache : ∀ (app' : AppState) m client app'', app'.view c = app.view c →
      app'.mailboxClient? chatId m = some client → app'.CachesAtMost chatId m client app'' →
      app''.view c = app.view c :=
    fun _ _ _ _ hsame _ hcaches => (view_of_cachesAtMost hne hcaches).trans hsame
  exact cmdRechercher_induction hcache rfl threadId query

/-! ### Taps -/

theorem view_performTriageAction (env : TapEnv) (accountId : Option String) (emailId : String)
    (action : TriageAction) :
    (app.performTriageAction env chatId accountId emailId action).app.view c = app.view c := by
  have heffect := triageEffect env app chatId accountId emailId action
  generalize app.performTriageAction env chatId accountId emailId action = handled at heffect ⊢
  cases heffect with
  | unread | unmoved | unanswered => rfl
  | undoable => exact view_insertUndo hne _

theorem view_undo (env : TapEnv) (accountId : Option String) (emailId : String) :
    (app.undo env chatId accountId emailId).app.view c = app.view c := by
  rw [app_undo]
  exact view_dropUndo hne

theorem view_act (env : TapEnv) (accountId : Option String) (emailId action : String) :
    (app.act env chatId accountId emailId action).app.view c = app.view c := by
  rw [act]
  split
  case h_1 hclient =>
    have hsame := view_of_cachesAtMost hne (cachesAtMost_callbackClient hclient)
    split_ifs
    · exact (view_performTriageAction hne env accountId emailId _).trans hsame
    · exact (view_performTriageAction hne env accountId emailId _).trans hsame
    · exact (view_performTriageAction hne env accountId emailId _).trans hsame
    · exact (view_undo hne env accountId emailId).trans hsame
    · exact hsame
  case h_2 => rfl
  case h_3 => rfl

/-! ### The handlers -/

/-- A command leaves the views of the other chats. -/
theorem view_messageHandler (threadId : Option ThreadId) (lang : Locale) (answers : HandlerAnswers)
    (command : BotCommand) :
    (app.messageHandler config lib chatId threadId lang answers command).view c = app.view c := by
  rw [messageHandler.eq_def]
  cases command with
  | start | help | status | shared => rfl
  | login serverUrl token => exact view_cmdLogin hne serverUrl token lang.name answers.connection
  | logout => exact view_cmdLogout hne
  | accounts args => exact view_cmdComptes hne args answers.connection
  | mute term => exact view_cmdMute hne term
  | unmute term => exact view_cmdUnmute hne term
  | search query => exact view_cmdRechercher hne
  | threads arg => exact view_cmdThreads hne arg answers.sync
  | lang requested => exact view_cmdLang hne requested

/-- A tap leaves the views of the other chats. -/
theorem view_callbackHandler (env : TapEnv) (answers : HandlerAnswers) (data : String) :
    (app.callbackHandler config lib chatId env answers data).view c = app.view c := by
  rw [callbackHandler]
  cases Tap.ofData data with
  | answer | redraw accountId emailId alreadyRead expanded | alreadyRead => rfl
  | toggleShared accountId parentSlot =>
    exact view_toggleSharedAccount hne accountId parentSlot answers.connection
  | disconnect slotId => exact view_disconnectAccount hne slotId
  | threads choice =>
    dsimp only
    split_ifs
    · exact view_enableThreads hne answers.sync
    · exact view_disableThreads hne
    · exact view_syncAllTopics hne answers.sync
    · rfl
  | logoutAll => exact view_logoutAll hne
  | act action accountId emailId => exact view_act hne env accountId emailId action

end

end AppState

/-! ### Tasks -/

/-- Whose chat an instruction is about is said by its task, but for the calls of the store. -/
def Instr.ownedBy (chatId : ChatId) : Instr → Bool
  | call op => op.chatId = chatId
  | eraseChat c => c = chatId
  | _ => true

/-- The tasks run instructions of the chat. -/
def Instr.OwnedTasks (chatId : ChatId) (tasks : List (List Instr)) : Prop :=
  ∀ program ∈ tasks, ∀ instr ∈ program, instr.ownedBy chatId = true

instance (chatId : ChatId) (tasks : List (List Instr)) :
    Decidable (Instr.OwnedTasks chatId tasks) :=
  inferInstanceAs (Decidable (∀ program ∈ tasks, ∀ instr ∈ program, instr.ownedBy chatId = true))

section

variable {config : Config} {lib : Externals} {app : AppState} {chatId c : ChatId} {answer : Answer}
  {instr : Instr}

/-- The task of a chat runs instructions of the chat only. -/
theorem ownedBy_exec (h : instr.ownedBy chatId = true) :
    ∀ i ∈ (instr.exec config lib chatId answer app).2, i.ownedBy chatId = true := by
  have hforget : ∀ m, ∀ i ∈ Instr.forget m, i.ownedBy chatId = true := by
    intro m i hi
    simp only [Instr.forget, List.mem_cons, List.not_mem_nil, or_false] at hi
    rcases hi with rfl | rfl | rfl <;> rfl
  intro i hi
  cases instr with
  | call op =>
    have heffect := sectionEffect lib op app.data
    simp only [Instr.exec] at hi
    generalize op.lockedSection lib app.data = result at hi heffect
    cases heffect with
    | ret r | store account r hconnects | delete r hmem => cases hi
    | emptied account r hmem hempty =>
      obtain rfl := List.mem_singleton.mp hi
      exact h
  | forgetChildren slotId =>
    obtain ⟨id, -, hid⟩ := List.mem_flatMap.mp hi
    exact hforget _ i hid
  | storeCheck t | slotAdopted t | awaitConnect t | ensureTopic m =>
    simp only [Instr.exec] at hi
    split at hi <;> simp only [List.mem_singleton, List.not_mem_nil] at hi <;> subst hi <;> rfl
  | lockWatchers m client =>
    simp only [Instr.exec] at hi
    split at hi
    · cases hi
    · simp only [Instr.adopt, List.mem_cons, List.not_mem_nil, or_false] at hi
      rcases hi with rfl | rfl | rfl | rfl | rfl <;> rfl
  | connect t =>
    obtain rfl := List.mem_singleton.mp hi
    rfl
  | _ => cases hi

/-- An instruction of a chat's task leaves the views of the other chats. -/
theorem view_exec (hne : chatId ≠ c) (h : instr.ownedBy chatId = true) :
    (instr.exec config lib chatId answer app).1.view c = app.view c := by
  cases instr with
  | call op =>
    have hop : op.chatId ≠ c := by
      rw [of_decide_eq_true h]
      exact hne
    refine AppState.view_withData ?_
    have heffect := sectionEffect lib op app.data
    generalize op.lockedSection lib app.data = result at heffect
    cases heffect with
    | ret r => rfl
    | store account r hconnects => exact Map.getElem?_insert.trans (if_neg hop)
    | emptied account r hmem hempty => exact Map.getElem?_insert.trans (if_neg hop)
    | delete r hmem => exact Map.getElem?_erase.trans (if_neg hop)
  | eraseChat c' =>
    obtain rfl := of_decide_eq_true h
    exact AppState.view_withData (Map.getElem?_erase.trans (if_neg hne))
  | storeCheck t =>
    simp only [Instr.exec]
    split
    · rfl
    · exact AppState.view_deregister hne
  | insertClient m client => exact AppState.view_insertClient hne
  | spawn m => exact AppState.view_register hne
  | insertWatcher m client => exact AppState.view_insertWatcher hne
  | setTopic m =>
    simp only [Instr.exec, AppState.setTopic]
    split
    · rfl
    · exact AppState.view_call hne
    · exact AppState.view_call hne
  | dropUndo => exact AppState.view_dropUndo hne
  | deregisterChat => exact AppState.view_deregisterChat hne
  | removeAccountClients => exact AppState.view_removeAccountClients hne
  | removeAccountWatchers => exact AppState.view_removeAccountWatchers hne
  | removeSharedClients => exact AppState.view_removeSharedClients hne
  | removeSharedWatchers => exact AppState.view_removeSharedWatchers hne
  | deregister m => exact AppState.view_deregister hne
  | removeClient m => exact AppState.view_removeClient hne
  | removeWatcher m => exact AppState.view_removeWatcher hne
  | slotAdopted t | connect t | awaitConnect t | lockWatchers m client | ensureTopic m
  | unlockWatchers m | forgetChildren slotId => rfl

/-- The tasks of a chat, in any order and however far they come, leave the views of the others. -/
theorem view_run_tasks (hne : chatId ≠ c) {s s' : System AppState Instr} {steps : List (ℕ × Answer)}
    (htasks : Instr.OwnedTasks chatId s.tasks)
    (hrun : run (Resume.step config lib chatId) s steps = some s') :
    s'.state.view c = s.state.view c := by
  have hinv : Instr.OwnedTasks chatId s'.tasks ∧ s'.state.view c = s.state.view c := by
    refine run_induction (fun t => Instr.OwnedTasks chatId t.tasks ∧
      t.state.view c = s.state.view c) ?_ ⟨htasks, rfl⟩ hrun
    rintro t ⟨i, answer⟩ t' ⟨howned, hview⟩ hstep
    obtain ⟨instr, rest, htask, -, rfl⟩ := System.step_eq_some_iff.mp hstep
    have hprogram := howned _ (List.mem_of_getElem? htask)
    have hinstr := hprogram instr List.mem_cons_self
    refine ⟨fun program hmem => ?_, (view_exec hne hinstr).trans hview⟩
    obtain hold | rfl := List.mem_or_eq_of_mem_set hmem
    · exact howned program hold
    · intro j hj
      rcases List.mem_append.mp hj with hj | hj
      · exact ownedBy_exec hinstr j hj
      · exact hprogram j (List.mem_cons_of_mem _ hj)
  exact hinv.2

end

/-! ### Watchers -/

namespace SyncEvent

/-- The watcher takes the step itself. -/
def own : SyncEvent → Bool
  | restart | other _ => false
  | _ => true

/-- The fetch of a round ends with the step. -/
def endsFetch (e : SyncEvent) (after : Phase) : Bool :=
  match e, after with
  | changes _, .delivering _ _ _ | mailboxes _, .delivering _ _ _ | get _, .delivering _ _ _ => true
  | _, _ => false

end SyncEvent

/-- A step of `sync_and_notify` over the bot's store, where the watcher stands at `s`; the health
registry is told the time when a fetch has ended. -/
def AppState.syncStep (app : AppState) (w : Watcher) (s : SyncState) (e : SyncEvent) (now : ℕ) :
    Option AppState :=
  if e.own then
    (w.step { s with store := { s.store with data := app.data } } e).map fun s' =>
      let app := { app with data := s'.store.data }
      if e.endsFetch s'.phase then
        { app with health := app.health.touch (w.target.mailbox.healthKey w.chatId) now }
      else app
  else none

section

variable {w : Watcher} {s s' : SyncState} {e : SyncEvent} {app app' : AppState} {c : ChatId}
  {now : ℕ}

/-- A sync writes to the record of its own chat. -/
theorem WatchTarget.chatId_updateState (target : WatchTarget) (chatId : ChatId) (state : String) :
    (target.updateState chatId state).chatId = chatId := by
  cases target <;> rfl

theorem WatchTarget.chatId_clearThread (target : WatchTarget) (chatId : ChatId) :
    (target.clearThread chatId).chatId = chatId := by
  cases target <;> rfl

/-- A watcher writes the record of its own chat only. -/
theorem record_step (hown : e.own = true) (hne : w.chatId ≠ c) (h : w.step s e = some s') :
    s'.store.data.accounts[c]? = s.store.data.accounts[c]? := by
  have hexec : ∀ {op : Op} {persist : Persist}, op.chatId = w.chatId →
      (w.exec s op persist).data.accounts[c]? = s.store.data.accounts[c]? := by
    intro op persist hop
    rw [Watcher.exec, Store.data_exec]
    exact Op.apply_of_ne (hop ▸ hne.symm)
  cases Watcher.stepEffect h with
  | sync | noBaseline | noChanges | nothingCreated | created | noMailboxes | mailboxes | notFetched
  | fetched | pass | sent | sendFailed | resend | finishUnchanged => rfl
  | baseline | finish => exact hexec (w.target.chatId_updateState w.chatId _)
  | threadNotFound => exact hexec (w.target.chatId_clearThread w.chatId)
  | restart | other => cases hown

/-- A step of a watcher leaves the views of the other chats. -/
theorem view_syncStep (hne : w.chatId ≠ c) (h : app.syncStep w s e now = some app') :
    app'.view c = app.view c := by
  rw [AppState.syncStep] at h
  split at h
  case isFalse => cases h
  case isTrue hown =>
    obtain ⟨s', hs', rfl⟩ := Option.map_eq_some_iff.mp h
    have hdata : AppState.view { app with data := s'.store.data } c = app.view c :=
      AppState.view_withData (record_step hown hne hs')
    dsimp only
    split
    · exact (AppState.view_withHealth (Health.ofChat_modify hne _)).trans hdata
    · exact hdata

end

/-! ### All that happens -/

/-- `register_persisted_targets`. -/
def AppState.registerPersistedTargets (app : AppState) (chatId : ChatId)
    (targets : List ResumeTarget) : AppState :=
  targets.foldl (fun app t => app.register chatId t.mailbox) app

/-- What runs for a chat. -/
inductive TenantEvent where
  /-- A command, called in a topic or in the root chat. -/
  | message (chatId : ChatId) (threadId : Option ThreadId) (lang : Locale)
      (answers : HandlerAnswers) (command : BotCommand)
  /-- A tap on a button with the data. -/
  | tap (chatId : ChatId) (env : TapEnv) (answers : HandlerAnswers) (data : String)
  /-- Boot resume starts for the record of the chat. -/
  | bootResume (chatId : ChatId) (account : Account)
  /-- Tasks of the chat, of boot resume and of commands, take steps in some order. -/
  | tasks (chatId : ChatId) (programs : List (List Instr)) (steps : List (ℕ × Answer))
  /-- A watcher of the chat takes a step of `sync_and_notify`. -/
  | sync (w : Watcher) (s : SyncState) (e : SyncEvent) (now : ℕ)
  /-- The connection of a watcher opens or breaks. -/
  | connection (chatId : ChatId) (target : WatchTarget) (connected : Bool)
  /-- A watcher finds its mailbox gone and ends. -/
  | stopped (chatId : ChatId) (target : WatchTarget)

namespace TenantEvent

/-- The chat it runs for. -/
def chatId : TenantEvent → ChatId
  | message chatId .. | tap chatId .. | bootResume chatId _ | tasks chatId .. | connection chatId ..
  | stopped chatId _ => chatId
  | sync w .. => w.chatId

/-- What an event does to the state of the bot. -/
def step (config : Config) (lib : Externals) (app : AppState) : TenantEvent → Option AppState
  | message chatId threadId lang answers command =>
    some (app.messageHandler config lib chatId threadId lang answers command)
  | tap chatId env answers data => some (app.callbackHandler config lib chatId env answers data)
  | bootResume chatId account =>
    some (app.registerPersistedTargets chatId (persistedTargets account))
  | tasks chatId programs steps =>
    if Instr.OwnedTasks chatId programs then
      (run (Resume.step config lib chatId) ⟨app, programs⟩ steps).map System.state
    else none
  | sync w s e now => app.syncStep w s e now
  | connection chatId target connected =>
    some { app with
      health := app.health.setConnected (target.mailbox.healthKey chatId) connected }
  | stopped chatId target =>
    some { app with health := app.health.deregister (target.mailbox.healthKey chatId) }

end TenantEvent

section

variable {config : Config} {lib : Externals} {app app' : AppState} {chatId c : ChatId}

/-- Boot registers a chat's targets under keys of that chat. -/
theorem view_registerPersistedTargets (hne : chatId ≠ c) (targets : List ResumeTarget) :
    (app.registerPersistedTargets chatId targets).view c = app.view c := by
  rw [AppState.registerPersistedTargets]
  induction targets generalizing app with
  | nil => rfl
  | cons t targets ih => exact ih.trans (AppState.view_register hne)

/-- **The chats are isolated**: whatever runs for one of them changes its own view at most. -/
theorem isolated_step :
    Isolated (TenantEvent.step config lib) TenantEvent.chatId AppState.view := by
  intro app e app' hstep c hne
  cases e with
  | message chatId threadId lang answers command =>
    cases hstep
    exact AppState.view_messageHandler hne threadId lang answers command
  | tap chatId env answers data =>
    cases hstep
    exact AppState.view_callbackHandler hne env answers data
  | bootResume chatId account =>
    cases hstep
    exact view_registerPersistedTargets hne _
  | tasks chatId programs steps =>
    simp only [TenantEvent.step] at hstep
    split at hstep
    case isTrue howned =>
      obtain ⟨t, hrun, rfl⟩ := Option.map_eq_some_iff.mp hstep
      have hchat : chatId ≠ c := hne
      exact view_run_tasks hchat howned hrun
    case isFalse => cases hstep
  | sync w s e now => exact view_syncStep hne hstep
  | connection chatId target connected =>
    cases hstep
    exact AppState.view_withHealth (Health.ofChat_modify hne _)
  | stopped chatId target =>
    cases hstep
    exact AppState.view_deregister hne

/-- **Tenants cannot affect each other**: whatever happens for other chats, and in whatever order, a
chat's record, its cached clients, its watchers, its pending undo and its entries in the health
registry stay, among them those of its mailboxes, whatever ids these have. -/
theorem view_of_run {es : List TenantEvent} (hes : ∀ e ∈ es, e.chatId ≠ c)
    (hrun : run (TenantEvent.step config lib) app es = some app') :
    app'.view c = app.view c ∧
      ∀ m : Mailbox, app'.health[m.healthKey c]? = app.health[m.healthKey c]? := by
  have hview : app'.view c = app.view c := isolated_step.run hes hrun
  refine ⟨hview, fun m => ?_⟩
  have hhealth : app'.health.ofChat c = app.health.ofChat c := congrArg ChatView.health hview
  rw [← Health.getElem?_ofChat, hhealth, Health.getElem?_ofChat]

end

/-! ### Chats 4 and 42 -/

/-- Both chats are connected, and the watchers of their first mailboxes are registered. -/
def twoChats : AppState :=
  let account := { Account.empty with
    accounts := (∅ : Map String AccountSlot).insert "default" sampleSlot }
  let app := AppState.new ⟨((∅ : Map ChatId Account).insert 4 account).insert 42 account⟩
  (app.register 4 (.account "default")).register 42 (.account "default")

/-- Nothing outside answers. -/
def noAnswers : HandlerAnswers where
  connection := ⟨"", "", "", sampleSlotId, none⟩
  sync := ⟨fun _ => none, []⟩
  search := ⟨fun _ => none, fun _ => .ok []⟩

/-- The state after a tap with which chat 4 logs out of everything. -/
def afterLogout : AppState :=
  twoChats.callbackHandler ⟨.auto, .parent⟩ .concrete 4 lateEnv noAnswers "logout:all"

/-- The main result for that tap. -/
theorem view_of_run_afterLogout : afterLogout.view 42 = twoChats.view 42 ∧
    ∀ m : Mailbox, afterLogout.health[m.healthKey 42]? = twoChats.health[m.healthKey 42]? := by
  have hes : ∀ e ∈ [TenantEvent.tap 4 lateEnv noAnswers "logout:all"], e.chatId ≠ 42 := by
    intro e he
    obtain rfl := List.mem_singleton.mp he
    decide
  have hrun : run (TenantEvent.step ⟨.auto, .parent⟩ .concrete) twoChats
      [TenantEvent.tap 4 lateEnv noAnswers "logout:all"] = some afterLogout := rfl
  exact view_of_run hes hrun

end Jmap2Telegram
