import Jmap2Telegram.Bot.Handlers
import Jmap2Telegram.Bot.Undo

/-!
# The pending undo under every handler

Triage and undo are not the only handlers that run while an undo is pending. The others leave it,
or drop it when the chat logs out of everything; in particular it survives that accounts are added
and disconnected.

* `dropsUndoAtMost_messageHandler`, `dropsUndoAtMost_callbackHandler`: the commands, and the taps
  that act on no email.
-/

namespace Jmap2Telegram

namespace AppState

variable {config : Config} {lib : Externals} {app app' : AppState} {chatId c : ChatId}
  {mailbox : Mailbox} {client : Client} {created : Option ThreadId} {accountId : Option String}
  {emailId : String}

/-! ### The steps of a command -/

/-- A store call leaves the pending undos. -/
theorem pendingUndo_call {op : Op} : (app.call lib op).pendingUndo = app.pendingUndo := rfl

theorem pendingUndo_ensureTopic :
    (app.ensureTopic config lib chatId created mailbox).pendingUndo = app.pendingUndo := by
  obtain ⟨data, h⟩ := ensureTopic_eq config lib app chatId mailbox created
  rw [h]

theorem pendingUndo_adopt :
    (app.adopt config lib chatId mailbox client created).pendingUndo = app.pendingUndo := by
  rw [adopt]
  split
  · rfl
  · rw [pendingUndo_ensureTopic, pendingUndo_insertWatcher, register]
    exact pendingUndo_insertClient

theorem pendingUndo_forgetMailbox :
    (app.forgetMailbox chatId mailbox).pendingUndo = app.pendingUndo := by
  rw [forgetMailbox, pendingUndo_removeWatcher, pendingUndo_removeClient]

theorem pendingUndo_forgetAccount (slotId : String) :
    (app.forgetAccount chatId slotId).pendingUndo = app.pendingUndo := by
  have hshared : ∀ (ids : List String) (app : AppState),
      (ids.foldl (fun app id => app.forgetShared chatId id) app).pendingUndo =
        app.pendingUndo := by
    intro ids app
    exact List.foldlRecOn (motive := fun app' : AppState => app'.pendingUndo = app.pendingUndo)
      ids _ rfl fun app' hsame id _ => pendingUndo_forgetMailbox.trans hsame
  rw [forgetAccount_eq, hshared, pendingUndo_forgetMailbox]

theorem pendingUndo_syncAllTopics (answers : SyncAnswers) :
    (app.syncAllTopics config lib chatId answers).pendingUndo = app.pendingUndo :=
  syncAllTopics_induction (fun app' => app'.pendingUndo = app.pendingUndo)
    (fun _ _ _ hsame => pendingUndo_ensureTopic.trans hsame) rfl answers

theorem pendingUndo_enableThreads (answers : SyncAnswers) :
    (app.enableThreads config lib chatId answers).pendingUndo = app.pendingUndo :=
  (pendingUndo_syncAllTopics answers).trans pendingUndo_call

theorem pendingUndo_cmdComptes (args : String) (answers : Answers) :
    (app.cmdComptes config lib chatId args answers).pendingUndo = app.pendingUndo := by
  obtain h | ⟨serverUrl, token, h⟩ := cmdComptes_cases config lib app chatId args answers
  · rw [h]
  · rw [h, pendingUndo_adopt, pendingUndo_call]

theorem pendingUndo_toggleSharedAccount (account : String) (parentSlot : Option String)
    (answers : Answers) :
    (app.toggleSharedAccount config lib chatId account parentSlot answers).pendingUndo =
      app.pendingUndo := by
  rw [toggleSharedAccount]
  split
  · rfl
  · split
    · exact pendingUndo_forgetMailbox
    · split
      · rfl
      · exact pendingUndo_adopt

theorem pendingUndo_disconnectAccount (slotId : String) :
    (app.disconnectAccount lib chatId slotId).pendingUndo = app.pendingUndo :=
  pendingUndo_forgetAccount slotId

/-- Only a logout drops one, the chat's own. -/
theorem pendingUndo_logoutAll :
    (app.logoutAll lib chatId).pendingUndo = app.pendingUndo.erase chatId := rfl

/-- A search caches clients and leaves the pending undos. -/
theorem pendingUndo_cmdRechercher {o : SearchOutcomes} {threadId : Option ThreadId}
    {query : String} :
    (app.cmdRechercher chatId o threadId query).1.pendingUndo = app.pendingUndo := by
  have hcache : ∀ (app' : AppState) m client app'', app'.pendingUndo = app.pendingUndo →
      app'.mailboxClient? chatId m = some client → app'.CachesAtMost chatId m client app'' →
      app''.pendingUndo = app.pendingUndo := by
    rintro app' m client app'' hsame - (rfl | rfl)
    · exact hsame
    · exact pendingUndo_insertClient.trans hsame
  exact cmdRechercher_induction hcache rfl threadId query

/-! ### The handlers -/

/-- The pending undos are left, but that the chat's may be dropped. -/
def DropsUndoAtMost (app : AppState) (chatId : ChatId) (app' : AppState) : Prop :=
  app'.pendingUndo = app.pendingUndo ∨ app'.pendingUndo = app.pendingUndo.erase chatId

/-- A command leaves the pending undo, or drops it. -/
theorem dropsUndoAtMost_messageHandler (threadId : Option ThreadId) (lang : Locale)
    (answers : HandlerAnswers) (command : BotCommand) :
    app.DropsUndoAtMost chatId
      (app.messageHandler config lib chatId threadId lang answers command) := by
  rw [messageHandler.eq_def]
  cases command with
  | start | help | status | shared => exact .inl rfl
  | login serverUrl token =>
    exact .inl (pendingUndo_adopt.trans (pendingUndo_forgetAccount _))
  | logout =>
    simp only [cmdLogout]
    split
    · exact .inl rfl
    · split
      · exact .inr rfl
      · exact .inl rfl
  | accounts args => exact .inl (pendingUndo_cmdComptes args answers.connection)
  | mute term =>
    simp only [cmdMute]
    split <;> exact .inl rfl
  | unmute term =>
    simp only [cmdUnmute]
    split <;> exact .inl rfl
  | search query => exact .inl pendingUndo_cmdRechercher
  | threads arg =>
    simp only [cmdThreads]
    split
    · exact .inl rfl
    · split_ifs
      · exact .inl (pendingUndo_enableThreads answers.sync)
      · exact .inl rfl
      · exact .inl rfl
  | lang requested =>
    simp only [cmdLang]
    split
    · exact .inl rfl
    · split <;> exact .inl rfl

/-- So does a tap, unless it acts on an email. -/
theorem dropsUndoAtMost_callbackHandler {env : TapEnv} {answers : HandlerAnswers} {data : String}
    (hact : ∀ action accountId emailId, Tap.ofData data ≠ .act action accountId emailId) :
    app.DropsUndoAtMost chatId (app.callbackHandler config lib chatId env answers data) := by
  rw [callbackHandler]
  cases htap : Tap.ofData data with
  | answer | redraw accountId emailId alreadyRead expanded | alreadyRead => exact .inl rfl
  | toggleShared accountId parentSlot =>
    exact .inl (pendingUndo_toggleSharedAccount accountId parentSlot answers.connection)
  | disconnect slotId => exact .inl (pendingUndo_disconnectAccount slotId)
  | threads choice =>
    dsimp only
    split_ifs
    · exact .inl (pendingUndo_enableThreads answers.sync)
    · exact .inl rfl
    · exact .inl (pendingUndo_syncAllTopics answers.sync)
    · exact .inl rfl
  | logoutAll => exact .inr pendingUndo_logoutAll
  | act action accountId emailId => exact absurd htap (hact action accountId emailId)

end AppState

end Jmap2Telegram
