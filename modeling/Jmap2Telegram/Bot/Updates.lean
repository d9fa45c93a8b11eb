import Jmap2Telegram.Bot.Preferences
import Jmap2Telegram.Startup.Settings

/-!
# Updates

What `message_handler` and `callback_handler` look at before they run a command or a tap: whether
the chat is private and authorized, and which language it is served in. A run of the bot is a
sequence of updates, each handled to its end, between which boot resume and the watchers of any chat
take their steps.

* `turned_away`: updates that are not admitted leave no trace, and a chat that the environment does
  not spell is never changed by an update.
* `lang_sticks`: after `/lang`, a chat is served in the language it chose, until it chooses again or
  loses its record.
-/

namespace Jmap2Telegram

open Transition

/-! ### The two handlers, from the update on -/

/-- A message, as far as it is looked at. Its text may be missing, and may be no command. -/
structure Message where
  chatId : ChatId
  isPrivate : Bool
  languageCode : Option String
  threadId : Option ThreadId
  text : Option (Option BotCommand)

/-- A tap on a button: the chat of its message, and whether that is private, if Telegram still has
the message; the language of the user, and the data of the button. -/
structure CallbackQuery where
  message : Option (ChatId × Bool)
  languageCode : Option String
  data : Option String

/-- What the sender of an update is told before anything is looked up for it. -/
inductive Reply where
  | nothing
  | unauthorized (lang : Locale)
  | unknownCommand (lang : Locale)
  /-- The tap is acknowledged, without a text. -/
  | acknowledged
  /-- The command or the tap is carried out, in a language. -/
  | served (lang : Locale)
  deriving DecidableEq

namespace AppState

variable {Tz : Type} (s : Settings Tz) (lib : Externals) (app : AppState)

/-- `language_for`. -/
def languageFor (chatId : ChatId) (telegramLanguageCode : Option String) : Locale :=
  I18n.resolve (app.data.accounts[chatId]?.bind Account.language) telegramLanguageCode
    s.defaultLanguage

/-- `message_handler`. -/
def handleMessage (msg : Message) (answers : HandlerAnswers) : Reply × AppState :=
  let lang := app.languageFor s msg.chatId msg.languageCode
  if !msg.isPrivate then (.nothing, app)
  else if msg.chatId ∉ s.authorizedChatIds then (.unauthorized lang, app)
  else
    match msg.text with
    | none => (.nothing, app)
    | some none => (.unknownCommand lang, app)
    | some (some command) =>
      (.served lang, app.messageHandler s.toConfig lib msg.chatId msg.threadId lang answers command)

/-- `callback_handler`. -/
def handleCallbackQuery (q : CallbackQuery) (env : TapEnv) (answers : HandlerAnswers) :
    Reply × AppState :=
  match q.message with
  | none => (.acknowledged, app)
  | some (chatId, isPrivate) =>
    let lang := app.languageFor s chatId q.languageCode
    if !isPrivate || chatId ∉ s.authorizedChatIds then (.acknowledged, app)
    else
      match q.data with
      | none => (.acknowledged, app)
      | some data => (.served lang, app.callbackHandler s.toConfig lib chatId env answers data)

end AppState

/-- What happens to the bot: an update, with what the outside answers to its handler, or something
that boot resume or a watcher does. -/
inductive UpdateEvent where
  | message (msg : Message) (answers : HandlerAnswers)
  | callbackQuery (q : CallbackQuery) (env : TapEnv) (answers : HandlerAnswers)
  | background (e : TenantEvent)

/-- What is no command and no tap. The tasks of boot resume call no operation of the store. -/
def TenantEvent.isBackground : TenantEvent → Bool
  | message .. | tap .. => false
  | tasks _ programs _ => programs.all fun program => program.all Instr.callsNothing
  | bootResume .. | sync .. | connection .. | stopped .. => true

namespace UpdateEvent

variable {Tz : Type} (s : Settings Tz) (lib : Externals)

/-- What an event does to the state of the bot. -/
def step (app : AppState) : UpdateEvent → Option AppState
  | message msg answers => some (app.handleMessage s lib msg answers).2
  | callbackQuery q env answers => some (app.handleCallbackQuery s lib q env answers).2
  | background e => if e.isBackground then e.step s.toConfig lib app else none

/-- What the sender of an update is told, in a state. -/
def reply (app : AppState) : UpdateEvent → Option Reply
  | message msg answers => some (app.handleMessage s lib msg answers).1
  | callbackQuery q env answers => some (app.handleCallbackQuery s lib q env answers).1
  | background _ => none

/-- The chat an event is about, if that is known. -/
def chatId? : UpdateEvent → Option ChatId
  | message msg _ => some msg.chatId
  | callbackQuery q _ _ => q.message.map Prod.fst
  | background e => some e.chatId

/-- An update from a private chat that is authorized, with something to carry out; or no update. -/
def admitted : UpdateEvent → Bool
  | message msg _ => msg.isPrivate && decide (msg.chatId ∈ s.authorizedChatIds) &&
      msg.text.join.isSome
  | callbackQuery q _ _ => q.data.isSome &&
      q.message.any fun chat => chat.2 && decide (chat.1 ∈ s.authorizedChatIds)
  | background _ => true

/-- An event that is no update. -/
def isBackground : UpdateEvent → Bool
  | background _ => true
  | _ => false

/-- The command of a chat that an event carries out. -/
def command? (c : ChatId) : UpdateEvent → Option BotCommand
  | message msg _ =>
    if msg.chatId = c ∧ msg.isPrivate = true ∧ c ∈ s.authorizedChatIds then msg.text.join else none
  | _ => none

/-- A `/lang` of a chat that is carried out and names another language. One without an argument, or
with one that names none, only shows the languages. -/
def AsksOtherLang (c : ChatId) (lang : Locale) (e : UpdateEvent) : Prop :=
  ∃ requested other, e.command? s c = some (.lang requested) ∧
    I18n.canonical (Str.trim requested) = some other ∧ other ≠ lang

end UpdateEvent

/-! ### Who is let in -/

section

variable {Tz : Type} {s : Settings Tz} {lib : Externals} {app app' : AppState} {c : ChatId}
  {e : UpdateEvent}

/-- An update that is not admitted does nothing, and is not served. -/
theorem step_of_not_admitted (h : e.admitted s = false) :
    UpdateEvent.step s lib app e = some app ∧
      ∀ lang, UpdateEvent.reply s lib app e ≠ some (.served lang) := by
  cases e with
  | background e => cases h
  | message msg answers =>
    obtain ⟨chatId, isPrivate, languageCode, threadId, text⟩ := msg
    simp only [UpdateEvent.step, UpdateEvent.reply, AppState.handleMessage]
    split_ifs with hprivate hauthorized
    case pos => exact ⟨rfl, by simp⟩
    -- a private chat that is authorized has sent no command
    case pos =>
      rcases text with - | - | command
      · exact ⟨rfl, by simp⟩
      · exact ⟨rfl, by simp⟩
      · simp_all [UpdateEvent.admitted]
    case neg => exact ⟨rfl, by simp⟩
  | callbackQuery q env answers =>
    obtain ⟨message, languageCode, data⟩ := q
    rcases message with - | ⟨chatId, isPrivate⟩
    · exact ⟨rfl, by simp [UpdateEvent.reply, AppState.handleCallbackQuery]⟩
    · simp only [UpdateEvent.step, UpdateEvent.reply, AppState.handleCallbackQuery]
      split_ifs with hrefused
      · exact ⟨rfl, by simp⟩
      · rcases data with - | data
        · exact ⟨rfl, by simp⟩
        · simp_all [UpdateEvent.admitted]

/-- Without the updates that are not admitted, a run ends in the same state. -/
theorem run_filter_admitted {es : List UpdateEvent}
    (hrun : run (UpdateEvent.step s lib) app es = some app') :
    run (UpdateEvent.step s lib) app (es.filter (UpdateEvent.admitted s)) = some app' := by
  induction es generalizing app with
  | nil => exact hrun
  | cons e es ih =>
    rw [run_cons, Option.bind_eq_some_iff] at hrun
    obtain ⟨m, hm, hrest⟩ := hrun
    cases hadmitted : e.admitted s with
    | true => rw [List.filter_cons_of_pos hadmitted, run_cons, hm, Option.bind_some, ih hrest]
    | false =>
      rw [(step_of_not_admitted hadmitted).1] at hm
      cases hm
      rw [List.filter_cons_of_neg (by rw [hadmitted]; exact Bool.false_ne_true), ih hrest]

/-- An event of another chat leaves the view of a chat. -/
theorem view_step (hstep : UpdateEvent.step s lib app e = some app') (hc : e.chatId? ≠ some c) :
    app'.view c = app.view c := by
  cases e with
  | background e =>
    simp only [UpdateEvent.step] at hstep
    split at hstep
    case isFalse => cases hstep
    case isTrue => exact isolated_step app e app' hstep c fun heq => hc (congrArg some heq)
  | message msg answers =>
    cases hstep
    have hne : msg.chatId ≠ c := fun heq => hc (congrArg some heq)
    rw [AppState.handleMessage]
    split_ifs
    · rfl
    · split
      · rfl
      · rfl
      · exact AppState.view_messageHandler hne _ _ answers _
    · rfl
  | callbackQuery q env answers =>
    cases hstep
    rw [AppState.handleCallbackQuery]
    split
    case h_1 => rfl
    case h_2 chatId isPrivate hmessage =>
      have hne : chatId ≠ c := fun heq => hc (by
        rw [UpdateEvent.chatId?, hmessage, Option.map_some, heq])
      dsimp only
      split_ifs
      · rfl
      · split
        · rfl
        · exact AppState.view_callbackHandler hne env answers _

/-- An event leaves the view of a chat that is not authorized, but for boot resume and the watchers
of the chat itself. -/
theorem view_step_of_unauthorized (hstep : UpdateEvent.step s lib app e = some app')
    (hc : c ∉ s.authorizedChatIds) (hbackground : e.isBackground = true → e.chatId? ≠ some c) :
    app'.view c = app.view c := by
  cases hadmitted : e.admitted s with
  | false =>
    rw [(step_of_not_admitted hadmitted).1] at hstep
    cases hstep
    rfl
  | true =>
    refine view_step hstep fun heq => ?_
    cases e with
    | background e => exact hbackground rfl heq
    | message msg answers =>
      simp only [UpdateEvent.admitted, Bool.and_eq_true, decide_eq_true_eq] at hadmitted
      exact hc (Option.some.inj heq ▸ hadmitted.1.2)
    | callbackQuery q env answers =>
      simp only [UpdateEvent.admitted, Bool.and_eq_true, Option.any_eq_true,
        decide_eq_true_eq] at hadmitted
      obtain ⟨-, chat, hchat, -, hmem⟩ := hadmitted
      rw [UpdateEvent.chatId?, hchat] at heq
      exact hc (Option.some.inj heq ▸ hmem)

/-- **Who is turned away leaves no trace.** In every run of a bot that starts in an environment, the
updates that are not admitted can be left out, and none of them is served; and a chat that no piece
of `AUTHORIZED_CHAT_IDS` spells keeps its record, its clients, its watchers, its pending undo and
its health entries whatever updates come, from it or from others. -/
theorem turned_away {tzs : TimeZones} {env : EnvVars} {s : Settings tzs.Tz} {raw : String}
    (hparse : Settings.parse tzs env = .ok s) (hraw : env.rawIds = some raw) {es : List UpdateEvent}
    (hrun : run (UpdateEvent.step s lib) app es = some app') :
    run (UpdateEvent.step s lib) app (es.filter (UpdateEvent.admitted s)) = some app' ∧
      (∀ e ∈ es, e.admitted s = false → ∀ app lang,
        UpdateEvent.reply s lib app e ≠ some (.served lang)) ∧
      ∀ c, (∀ piece ∈ raw.toList.splitOn ',', ¬Str.Spells (Str.trimChars piece) c) →
        (∀ e ∈ es, e.isBackground = true → e.chatId? ≠ some c) → app'.view c = app.view c := by
  refine ⟨run_filter_admitted hrun, fun e _ he app lang => (step_of_not_admitted he).2 lang, ?_⟩
  intro c hspells hbackground
  have hc : c ∉ s.authorizedChatIds := fun hmem => by
    obtain ⟨piece, hpiece, hspelled⟩ := (Settings.mem_authorizedChatIds hparse hraw c).mp hmem
    exact hspells piece hpiece hspelled
  clear hparse
  induction es generalizing app with
  | nil =>
    cases hrun
    rfl
  | cons e es ih =>
    rw [run_cons, Option.bind_eq_some_iff] at hrun
    obtain ⟨m, hm, hrest⟩ := hrun
    rw [ih hrest fun e' he' => hbackground e' (List.mem_cons_of_mem _ he')]
    exact view_step_of_unauthorized hm hc (hbackground e List.mem_cons_self)

/-! ### The language a chat has chosen -/

theorem canonical_name (lang : Locale) : I18n.canonical lang.name = some lang := by
  cases lang <;> decide

/-- A chat whose record has a language is served in it, whatever its user's client says. -/
theorem languageFor_of_language? {lang : Locale}
    (h : app.data.language? c = some (some lang.name)) (code : Option String) :
    app.languageFor s c code = lang := by
  have hstored : app.data.accounts[c]?.bind Account.language = some lang.name := by
    rw [StoreData.language?] at h
    cases haccount : app.data.accounts[c]? with
    | none => rw [haccount] at h; cases h
    | some account =>
      rw [haccount] at h
      exact Option.some.inj h
  rw [AppState.languageFor, hstored, I18n.resolve, Option.bind_some, canonical_name]
  rfl

/-- A command of a chat that an event carries out runs to its end. -/
theorem step_of_command? {command : BotCommand} (hcommand : e.command? s c = some command)
    (hstep : UpdateEvent.step s lib app e = some app') : ∃ threadId code answers,
      app' = app.messageHandler s.toConfig lib c threadId (app.languageFor s c code) answers
        command := by
  cases e with
  | message msg answers =>
    obtain ⟨chatId, isPrivate, languageCode, threadId, text⟩ := msg
    simp only [UpdateEvent.command?] at hcommand
    split at hcommand
    case isFalse => cases hcommand
    case isTrue hc =>
      obtain ⟨rfl, rfl, hauthorized⟩ := hc
      cases hstep
      rcases text with - | - | command'
      · cases hcommand
      · cases hcommand
      · cases hcommand
        exact ⟨threadId, languageCode, answers, by simp [AppState.handleMessage, hauthorized]⟩
  | callbackQuery | background => cases hcommand

/-- One event keeps the preferences of a chat, unless it is a command of the chat that writes
them. -/
theorem keepsPreferences_step (hstep : UpdateEvent.step s lib app e = some app')
    (hwrites : ∀ command, e.command? s c = some command → command.writesPreferences = false) :
    app.KeepsPreferences c app' := by
  cases e with
  | background e =>
    simp only [UpdateEvent.step] at hstep
    split at hstep
    case isFalse => cases hstep
    case isTrue hbackground =>
      cases e with
      | message | tap => cases hbackground
      | bootResume chatId account =>
        cases hstep
        exact .of_data (data_registerPersistedTargets _)
      | connection | stopped =>
        cases hstep
        exact .of_data rfl
      | sync w t e now => exact keepsPreferences_syncStep hstep
      | tasks chatId programs steps =>
        simp only [TenantEvent.step] at hstep
        split at hstep
        case isFalse => cases hstep
        case isTrue =>
          obtain ⟨t, hrun, rfl⟩ := Option.map_eq_some_iff.mp hstep
          refine keepsPreferences_run_tasks (fun program hprogram i hi => ?_) hrun
          exact List.all_eq_true.mp (List.all_eq_true.mp hbackground program hprogram) i hi
  | message msg answers =>
    obtain ⟨chatId, isPrivate, languageCode, threadId, text⟩ := msg
    cases hstep
    simp only [AppState.handleMessage]
    split_ifs with hprivate hauthorized
    case pos => exact .of_data rfl
    case neg => exact .of_data rfl
    rcases text with - | - | command
    · exact .of_data rfl
    · exact .of_data rfl
    · refine AppState.keepsPreferences_messageHandler threadId _ answers fun hc => hwrites _ ?_
      rw [Bool.not_eq_true, Bool.not_eq_false'] at hprivate
      subst hc
      exact if_pos ⟨rfl, hprivate, hauthorized⟩
  | callbackQuery q env answers =>
    cases hstep
    rw [AppState.handleCallbackQuery]
    split
    · exact .of_data rfl
    · dsimp only
      split_ifs
      · exact .of_data rfl
      · split
        · exact .of_data rfl
        · exact AppState.keepsPreferences_callbackHandler env answers _

/-- One event, other than a `/lang` of the chat for another, keeps the language the chat has, or
takes its record away. A login stores the language the chat has already. -/
theorem language?_step (hstep : UpdateEvent.step s lib app e = some app') {lang : Locale}
    (h : app.data.language? c = some (some lang.name)) (hlang : ¬e.AsksOtherLang s c lang) :
    app'.data.language? c = some (some lang.name) ∨ app'.data.language? c = none := by
  have hkeeps : app.KeepsPreferences c app' → app'.data.language? c = some (some lang.name) ∨
      app'.data.language? c = none := fun hkeeps => by
    have hmap := hkeeps.map Prod.fst
    rw [← StoreData.language?_eq, ← StoreData.language?_eq] at hmap
    exact hmap.imp_left fun hsame => hsame.trans h
  by_cases hwrites : ∀ command, e.command? s c = some command → command.writesPreferences = false
  · exact hkeeps (keepsPreferences_step hstep hwrites)
  simp only [not_forall] at hwrites
  obtain ⟨command, hcommand, hcommandWrites⟩ := hwrites
  obtain ⟨threadId, code, answers, rfl⟩ := step_of_command? hcommand hstep
  cases command with
  | lang requested =>
    refine .inl (Eq.trans ?_ h)
    rw [AppState.messageHandler, StoreData.language?_eq, AppState.preferences?_cmdLang, if_pos rfl]
    rcases hcanonical : I18n.canonical (Str.trim requested) with - | other
    · exact (StoreData.language?_eq _ _).symm
    · obtain rfl : other = lang := by
        by_contra hother
        exact hlang ⟨requested, other, hcommand, hcanonical, hother⟩
      -- it names the language the chat has
      rw [StoreData.language?_eq] at h ⊢
      obtain ⟨p, hp, hfst⟩ := Option.map_eq_some_iff.mp h
      rw [hp]
      exact congrArg some hfst.symm
  | login serverUrl token =>
    rw [languageFor_of_language? h, StoreData.language?_eq]
    exact AppState.preferences?_cmdLogin.map Prod.fst
  | mute term =>
    refine .inl (Eq.trans ?_ h)
    rw [AppState.messageHandler, StoreData.language?_eq, AppState.preferences?_cmdMute]
    split
    · rw [Option.map_map, StoreData.language?_eq]
      rfl
    · exact (StoreData.language?_eq _ _).symm
  | unmute term =>
    refine .inl (Eq.trans ?_ h)
    rw [AppState.messageHandler, StoreData.language?_eq, AppState.preferences?_cmdUnmute]
    split
    · rw [Option.map_map, StoreData.language?_eq]
      rfl
    · exact (StoreData.language?_eq _ _).symm
  | _ => exact absurd rfl hcommandWrites

/-- **A chosen language sticks.** After a `/lang` of an authorized chat with a record, the chat is
served in the language it named, and its watchers write in it, in every state of every run in which
it keeps a record and asks for no other: whatever language its user's client reports, and whatever
logins, boot resumes and other chats there are. -/
theorem lang_sticks {msg : Message} {answers : HandlerAnswers} {requested : String} {lang : Locale}
    (hprivate : msg.isPrivate = true) (hauthorized : msg.chatId ∈ s.authorizedChatIds)
    (htext : msg.text = some (some (.lang requested)))
    (hlang : I18n.canonical (Str.trim requested) = some lang)
    (hrecord : msg.chatId ∈ app.data.accounts)
    (x : Execution (UpdateEvent.step s lib) (app.handleMessage s lib msg answers).2)
    (hkeeps : ∀ k ≤ x.events.length, msg.chatId ∈ (x.state k).data.accounts)
    (hlast : ∀ e ∈ x.events, ¬e.AsksOtherLang s msg.chatId lang) {k : ℕ}
    (hk : k ≤ x.events.length) :
    (∀ code, (x.state k).languageFor s msg.chatId code = lang) ∧
      (x.state k).data.languageFor msg.chatId s.defaultLanguage = lang := by
  have hstored : ∀ k ≤ x.events.length,
      (x.state k).data.language? msg.chatId = some (some lang.name) := by
    intro k hk
    induction k with
    | zero =>
      rw [x.state_zero, AppState.handleMessage]
      simp only [hprivate, hauthorized, htext, Bool.not_true, Bool.false_eq_true, not_true_eq_false,
        if_false, AppState.messageHandler]
      rw [StoreData.language?_eq, AppState.preferences?_cmdLang, if_pos rfl, hlang,
        StoreData.preferences?, Std.ExtTreeMap.getElem?_eq_some_getElem hrecord]
      rfl
    | succ k ih =>
      have hgone : (x.state (k + 1)).data.language? msg.chatId ≠ none := by
        rw [StoreData.language?, Std.ExtTreeMap.getElem?_eq_some_getElem (hkeeps _ hk)]
        exact Option.some_ne_none _
      have hasks := hlast _ (List.getElem_mem (Nat.lt_of_succ_le hk))
      exact (language?_step (x.state_succ hk) (ih (by omega)) hasks).resolve_right hgone
  exact ⟨languageFor_of_language? (hstored k hk), languageFor_of_language? (hstored k hk) none⟩

end

/-! ### Chat 4 is authorized, chat 42 is not -/

/-- The configuration of a bot for chat 4. -/
def forChat4 : Settings Unit where
  telegramToken := "tok"
  authorizedChatIds := [(4 : ChatId)].toFinset
  dataDir := "/data"
  allowPrivateJmapHosts := false
  timezone := ()
  defaultLanguage := "en"
  telegramThreadedMode := .auto
  telegramThreadStrategy := .account
  telegramSharedThreadMode := .parent

/-- Both chats tap the button that logs out of everything. -/
def logouts : List UpdateEvent :=
  [.callbackQuery ⟨some (42, true), none, some "logout:all"⟩ lateEnv noAnswers,
    .callbackQuery ⟨some (4, true), none, some "logout:all"⟩ lateEnv noAnswers]

/-- The main result for these taps. -/
theorem turned_away_logouts :
    run (UpdateEvent.step forChat4 .concrete) twoChats
        (logouts.filter (UpdateEvent.admitted forChat4)) = some afterLogout ∧
      (∀ e ∈ logouts, e.admitted forChat4 = false → ∀ app lang,
        UpdateEvent.reply forChat4 .concrete app e ≠ some (.served lang)) ∧
      ∀ c, (∀ piece ∈ "4".toList.splitOn ',', ¬Str.Spells (Str.trimChars piece) c) →
        (∀ e ∈ logouts, e.isBackground = true → e.chatId? ≠ some c) →
          afterLogout.view c = twoChats.view c := by
  have hparse : Settings.parse Settings.utcOnly (Settings.minimal "tok" "4" none) = .ok forChat4 :=
    rfl
  exact turned_away hparse rfl rfl

/-- Chat 4 logs in again from a client in German. -/
def relogin4 : UpdateEvent :=
  .message ⟨4, true, some "de", none, some (some (.login "https://jmap.example" "token"))⟩ noAnswers

/-- Chat 4 asks for a language, or which there are. -/
def lang4 (requested : String) : UpdateEvent :=
  .message ⟨4, true, some "de", none, some (some (.lang requested))⟩ noAnswers

/-- After it has asked for French. -/
def frenchRun : Execution (UpdateEvent.step forChat4 .concrete)
    (twoChats.handleMessage forChat4 .concrete
      ⟨4, true, some "en", none, some (some (.lang "FR"))⟩ noAnswers).2 where
  events := [relogin4, lang4 "", lang4 "fr"]
  enabled := rfl

/-- The main result for that login, a `/lang` that shows the languages, and one for French again. -/
theorem lang_sticks_frenchRun :
    (∀ code, (frenchRun.state 3).languageFor forChat4 4 code = .fr) ∧
      (frenchRun.state 3).data.languageFor 4 "en" = .fr := by
  have hkeeps : ∀ k ≤ frenchRun.events.length, 4 ∈ (frenchRun.state k).data.accounts := by
    decide +kernel
  have hlast : ∀ e ∈ frenchRun.events, ¬e.AsksOtherLang forChat4 4 .fr := by
    intro e he ⟨requested, other, hcommand, hcanonical, hother⟩
    simp only [frenchRun, List.mem_cons, List.not_mem_nil, or_false] at he
    rcases he with rfl | rfl | rfl
    · cases hcommand
    · obtain rfl := BotCommand.lang.inj (Option.some.inj hcommand)
      have hnone : I18n.canonical (Str.trim "") = none := by decide
      cases hnone.symm.trans hcanonical
    · obtain rfl := BotCommand.lang.inj (Option.some.inj hcommand)
      have hfrench : I18n.canonical (Str.trim "fr") = some .fr := by decide
      exact hother (Option.some.inj (hcanonical.symm.trans hfrench))
  exact lang_sticks rfl (by decide) rfl (by decide) (by decide +kernel) frenchRun hkeeps hlast
    (Nat.le_refl 3)

end Jmap2Telegram
