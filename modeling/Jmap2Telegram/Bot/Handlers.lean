import Jmap2Telegram.Bot.SearchHits
import Jmap2Telegram.Bot.Triage
import Jmap2Telegram.Topics.Forum

/-!
# The two handlers

`message_handler` and `callback_handler` of `bot.rs`, from a parsed command or the data of a tap to
the state they leave. What the handlers send is left out, except where they wait for it; each runs
to its end here, with what the outside answers in its `HandlerAnswers`. A handler that an error ends
early is a program of `Resume/Commands.lean` that is not run to its end.

* `messageHandler`, `callbackHandler`: the handlers.
-/

namespace Jmap2Telegram

/-- `Command`: what a message can ask for. -/
inductive BotCommand where
  | start
  | login (serverUrl token : String)
  | logout
  | status
  | shared
  | accounts (args : String)
  | mute (term : String)
  | unmute (term : String)
  | search (query : String)
  | threads (arg : String)
  | lang (requested : String)
  | help

/-- What the outside answers while a handler runs: a connection, a synchronization of topics, or the
queries of a search. -/
structure HandlerAnswers where
  connection : Answers
  sync : SyncAnswers
  search : SearchOutcomes

namespace AppState

variable (config : Config) (lib : Externals) (app : AppState) (chatId : ChatId)

/-- `cmd_lang`. -/
def cmdLang (requested : String) : AppState :=
  let requested := Str.trim requested
  if requested.isEmpty then app
  else
    match I18n.canonical requested with
    | none => app
    | some targetLang => app.call lib (.setLanguage chatId targetLang.name)

/-- `cmd_mute`. -/
def cmdMute (term : String) : AppState :=
  let term := Str.trim term
  if term.isEmpty then app else app.call lib (.mute chatId term)

/-- `cmd_unmute`. -/
def cmdUnmute (term : String) : AppState :=
  let term := Str.trim term
  if term.isEmpty then app else app.call lib (.unmute chatId term)

/-- Turn the topics of a chat on. -/
def enableThreads (answers : SyncAnswers) : AppState :=
  (app.call lib (.setThreadsEnabled chatId (some true))).syncAllTopics config lib chatId answers

/-- Turn the topics of a chat off. -/
def disableThreads : AppState := app.call lib (.setThreadsEnabled chatId (some false))

/-- `cmd_threads`. -/
def cmdThreads (arg : String) (answers : SyncAnswers) : AppState :=
  match app.data.accounts[chatId]? with
  | none => app
  | some _ =>
    let trimmed := lib.toLowercase (Str.trim arg)
    if trimmed ∈ ["on", "enable", "activer"] then app.enableThreads config lib chatId answers
    else if trimmed ∈ ["off", "disable", "desactiver"] then app.disableThreads lib chatId
    else app

/-- `message_handler`, for a command called in a topic or in the root chat. The commands that only
show something leave the state alone. -/
def messageHandler (threadId : Option ThreadId) (lang : Locale) (answers : HandlerAnswers) :
    BotCommand → AppState
  | .start | .help | .status | .shared => app
  | .login serverUrl token =>
    app.cmdLogin config lib chatId serverUrl token lang.name answers.connection
  | .logout => app.cmdLogout lib chatId
  | .accounts args => app.cmdComptes config lib chatId args answers.connection
  | .mute term => app.cmdMute lib chatId term
  | .unmute term => app.cmdUnmute lib chatId term
  | .search query => (app.cmdRechercher chatId answers.search threadId query).1
  | .threads arg => app.cmdThreads config lib chatId arg answers.sync
  | .lang requested => app.cmdLang lib chatId requested

/-- `callback_handler`. -/
def callbackHandler (env : TapEnv) (answers : HandlerAnswers) (data : String) : AppState :=
  match Tap.ofData data with
  | .answer => app
  | .toggleShared accountId parentSlot =>
    app.toggleSharedAccount config lib chatId accountId parentSlot answers.connection
  | .disconnect slotId => app.disconnectAccount lib chatId slotId
  | .threads choice =>
    if choice = "on" then app.enableThreads config lib chatId answers.sync
    else if choice = "off" then app.disableThreads lib chatId
    else if choice = "sync" then app.syncAllTopics config lib chatId answers.sync
    else app
  | .logoutAll => app.logoutAll lib chatId
  | .redraw _ _ _ _ | .alreadyRead => app
  | .act action accountId emailId => (app.act env chatId accountId emailId action).app

end AppState

end Jmap2Telegram
