import Jmap2Telegram.Bot.Tenants
import Jmap2Telegram.State.Preferences

/-!
# Preferences under every handler

A chat is served in the language of its record, and its watchers keep to the filters there. `/lang`
and `/login` write the language, `/mute` and `/unmute` the filters; every other handler, the tasks
of boot resume and the watchers keep both, or take the record away.

* `keepsPreferences_messageHandler`, `keepsPreferences_callbackHandler`,
  `keepsPreferences_syncStep`, `keepsPreferences_run_tasks`: these.
* `preferences?_cmdLang`, `preferences?_cmdLogin`, `preferences?_cmdMute`, `preferences?_cmdUnmute`:
  the four that write.
-/

namespace Jmap2Telegram

open Transition

/-- The commands that write a preference. -/
def BotCommand.writesPreferences : BotCommand → Bool
  | login _ _ | mute _ | unmute _ | lang _ => true
  | _ => false

namespace AppState

/-- The preferences of a chat stay, or its record goes. -/
def KeepsPreferences (app : AppState) (c : ChatId) (app' : AppState) : Prop :=
  StaysOrGoes (app.data.preferences? c) (app'.data.preferences? c)

variable {config : Config} {lib : Externals} {app app' app'' : AppState} {chatId c : ChatId}

theorem KeepsPreferences.of_data (h : app'.data = app.data) : app.KeepsPreferences c app' :=
  .inl (by rw [h])

theorem KeepsPreferences.trans (h : app.KeepsPreferences c app')
    (h' : app'.KeepsPreferences c app'') : app.KeepsPreferences c app'' :=
  StaysOrGoes.trans h h'

/-- A store call that leaves the preferences keeps them. -/
theorem keepsPreferences_call (op : Op) (hop : op.LeavesPreferences c) :
    app.KeepsPreferences c (app.call lib op) :=
  staysOrGoes_apply hop

theorem keepsPreferences_ensureTopic {created : Option ThreadId} {m : Mailbox} :
    app.KeepsPreferences c (app.ensureTopic config lib chatId created m) := by
  obtain h | ⟨s, t, h⟩ | ⟨a, t, h⟩ := data_ensureTopic config lib app chatId m created
  · exact .of_data h
  · rw [KeepsPreferences, h]
    exact staysOrGoes_apply trivial
  · rw [KeepsPreferences, h]
    exact staysOrGoes_apply trivial

/-- Adopting a mailbox keeps them: it writes a topic at most. -/
theorem keepsPreferences_adopt {m : Mailbox} {client : Client} {created : Option ThreadId} :
    app.KeepsPreferences c (app.adopt config lib chatId m client created) := by
  obtain h | ⟨s, t, h⟩ | ⟨a, t, h⟩ := data_adopt config lib app chatId m client created
  · exact .of_data h
  · rw [KeepsPreferences, h]
    exact staysOrGoes_apply trivial
  · rw [KeepsPreferences, h]
    exact staysOrGoes_apply trivial

/-! ### The handlers that keep it -/

theorem keepsPreferences_syncAllTopics (answers : SyncAnswers) :
    app.KeepsPreferences c (app.syncAllTopics config lib chatId answers) :=
  syncAllTopics_induction (fun app' => app.KeepsPreferences c app')
    (fun _ _ _ h => h.trans keepsPreferences_ensureTopic) (.of_data rfl) answers

theorem keepsPreferences_enableThreads (answers : SyncAnswers) :
    app.KeepsPreferences c (app.enableThreads config lib chatId answers) :=
  (keepsPreferences_call (.setThreadsEnabled chatId (some true)) trivial).trans
    (keepsPreferences_syncAllTopics answers)

theorem keepsPreferences_cmdThreads (arg : String) (answers : SyncAnswers) :
    app.KeepsPreferences c (app.cmdThreads config lib chatId arg answers) := by
  rw [cmdThreads]
  split
  · exact .of_data rfl
  · dsimp only
    split_ifs
    · exact keepsPreferences_enableThreads answers
    · exact keepsPreferences_call _ trivial
    · exact .of_data rfl

/-- `/accounts` connects a slot only in a record that is there. -/
theorem keepsPreferences_cmdComptes (args : String) (answers : Answers) :
    app.KeepsPreferences c (app.cmdComptes config lib chatId args answers) := by
  rw [cmdComptes]
  split
  · exact .of_data rfl
  · split
    case h_1 account _ _ haccount _ =>
      split
      · exact .of_data rfl
      · refine KeepsPreferences.trans ?_ keepsPreferences_adopt
        by_cases hc : chatId = c
        case neg => exact keepsPreferences_call _ hc
        subst hc
        refine .inl ?_
        rw [data_call, preferences?_apply_addAccount, StoreData.preferences?, haccount]
        rfl
    case h_2 => exact .of_data rfl

theorem keepsPreferences_toggleSharedAccount (accountId : String) (parentSlot : Option String)
    (answers : Answers) :
    app.KeepsPreferences c
      (app.toggleSharedAccount config lib chatId accountId parentSlot answers) := by
  rw [toggleSharedAccount]
  split
  · exact .of_data rfl
  · split
    · exact (KeepsPreferences.of_data data_forgetShared).trans (keepsPreferences_call _ trivial)
    · split
      · exact .of_data rfl
      · exact (keepsPreferences_call (.setSharedAccount _ _ _ _ _) trivial).trans
          keepsPreferences_adopt

theorem keepsPreferences_disconnectAccount (slotId : String) :
    app.KeepsPreferences c (app.disconnectAccount lib chatId slotId) :=
  (KeepsPreferences.of_data data_forgetAccount).trans (keepsPreferences_call _ trivial)

theorem keepsPreferences_logoutAll : app.KeepsPreferences c (app.logoutAll lib chatId) :=
  (KeepsPreferences.of_data data_forget).trans (keepsPreferences_call _ trivial)

/-- A logout keeps them or takes the record with it. -/
theorem keepsPreferences_cmdLogout : app.KeepsPreferences c (app.cmdLogout lib chatId) := by
  rw [cmdLogout]
  split
  · exact .of_data rfl
  · split
    · exact keepsPreferences_logoutAll
    · exact .of_data rfl

/-- Caching a client leaves the store. -/
theorem data_of_cachesAtMost {m : Mailbox} {client : Client}
    (h : app.CachesAtMost chatId m client app') : app'.data = app.data := by
  obtain rfl | rfl := h
  · rfl
  · exact data_insertClient

theorem data_cmdRechercher {o : SearchOutcomes} {threadId : Option ThreadId} {query : String} :
    (app.cmdRechercher chatId o threadId query).1.data = app.data := by
  have hcache : ∀ (app' : AppState) m client app'', app'.data = app.data →
      app'.mailboxClient? chatId m = some client → app'.CachesAtMost chatId m client app'' →
      app''.data = app.data :=
    fun _ _ _ _ hsame _ hcaches => (data_of_cachesAtMost hcaches).trans hsame
  exact cmdRechercher_induction hcache rfl threadId query

theorem data_performTriageAction (env : TapEnv) (accountId : Option String) (emailId : String)
    (action : TriageAction) :
    (app.performTriageAction env chatId accountId emailId action).app.data = app.data := by
  have heffect := triageEffect env app chatId accountId emailId action
  generalize app.performTriageAction env chatId accountId emailId action = handled at heffect ⊢
  cases heffect <;> rfl

theorem data_act (env : TapEnv) (accountId : Option String) (emailId action : String) :
    (app.act env chatId accountId emailId action).app.data = app.data := by
  rw [act]
  split
  case h_1 hclient =>
    have hsame := data_of_cachesAtMost (cachesAtMost_callbackClient hclient)
    split_ifs
    · exact (data_performTriageAction env accountId emailId _).trans hsame
    · exact (data_performTriageAction env accountId emailId _).trans hsame
    · exact (data_performTriageAction env accountId emailId _).trans hsame
    · rw [app_undo]
      exact hsame
    · exact hsame
  case h_2 => rfl
  case h_3 => rfl

/-! ### The handlers that write it -/

/-- `/lang` stores what its argument names, in a record that is there. -/
theorem preferences?_cmdLang {requested : String} :
    (app.cmdLang lib chatId requested).data.preferences? c =
      if chatId = c then
        match I18n.canonical (Str.trim requested) with
        | some lang => (app.data.preferences? c).map fun p => (some lang.name, p.2)
        | none => app.data.preferences? c
      else app.data.preferences? c := by
  have hblank : ∀ s : String, s.isEmpty = true → I18n.canonical s = none := by
    intro s hs
    rw [String.isEmpty_iff.mp hs]
    decide
  rw [cmdLang]
  split
  case isTrue hempty => rw [hblank _ hempty, ite_self]
  case isFalse =>
    cases I18n.canonical (Str.trim requested) with
    | none => rw [ite_self]
    | some lang => exact preferences?_apply_setLanguage

/-- A login stores the language it is answered in. -/
theorem preferences?_cmdLogin {serverUrl token lang : String} {answers : Answers} :
    StaysOrGoes (some (some lang, ((app.data.preferences? chatId).getD (none, [])).2))
      ((app.cmdLogin config lib chatId serverUrl token lang answers).data.preferences? chatId) := by
  rw [cmdLogin]
  refine keepsPreferences_adopt.imp_left fun hsame => hsame.trans ?_
  rw [data_forgetAccount, data_call, preferences?_apply_setLanguage, if_pos rfl, data_call,
    preferences?_apply_addAccount, Option.map_some]

/-- `/mute` adds the trimmed term to the filters of its chat, if it is not empty. -/
theorem preferences?_cmdMute {term : String} :
    (app.cmdMute lib chatId term).data.preferences? c =
      if chatId = c ∧ (Str.trim term).isEmpty = false then
        (app.data.preferences? c).map fun p => (p.1, muted p.2 (muteTerm lib (Str.trim term)))
      else app.data.preferences? c := by
  rw [cmdMute]
  split
  case isTrue hempty => simp [hempty]
  case isFalse hterm => simp [hterm, preferences?_apply_mute]

/-- `/unmute` takes it out of them. -/
theorem preferences?_cmdUnmute {term : String} :
    (app.cmdUnmute lib chatId term).data.preferences? c =
      if chatId = c ∧ (Str.trim term).isEmpty = false then
        (app.data.preferences? c).map fun p => (p.1, unmuted p.2 (muteTerm lib (Str.trim term)))
      else app.data.preferences? c := by
  rw [cmdUnmute]
  split
  case isTrue hempty => simp [hempty]
  case isFalse hterm => simp [hterm, preferences?_apply_unmute]

/-! ### The handlers -/

/-- The other commands keep the preferences. -/
theorem keepsPreferences_messageHandler (threadId : Option ThreadId) (lang : Locale)
    (answers : HandlerAnswers) {command : BotCommand}
    (hwrites : chatId = c → command.writesPreferences = false) :
    app.KeepsPreferences c
      (app.messageHandler config lib chatId threadId lang answers command) := by
  have hother : command.writesPreferences = true → app.KeepsPreferences c
      (app.messageHandler config lib chatId threadId lang answers command) := fun hcommand => by
    have hc : chatId ≠ c := fun hc => by
      rw [hwrites hc] at hcommand
      cases hcommand
    exact .inl (StoreData.preferences?_of_getElem? (congrArg ChatView.record
      (view_messageHandler hc threadId lang answers command)))
  cases command with
  | login | mute | unmute | lang => exact hother rfl
  | start | help | status | shared => exact .of_data rfl
  | logout => exact keepsPreferences_cmdLogout
  | accounts args =>
    rw [messageHandler]
    exact keepsPreferences_cmdComptes args answers.connection
  | search query =>
    rw [messageHandler]
    exact .of_data data_cmdRechercher
  | threads arg => exact keepsPreferences_cmdThreads arg answers.sync

/-- Every tap keeps the preferences. -/
theorem keepsPreferences_callbackHandler (env : TapEnv) (answers : HandlerAnswers) (data : String) :
    app.KeepsPreferences c (app.callbackHandler config lib chatId env answers data) := by
  rw [callbackHandler]
  cases Tap.ofData data with
  | answer | redraw accountId emailId alreadyRead expanded | alreadyRead => exact .of_data rfl
  | toggleShared accountId parentSlot =>
    exact keepsPreferences_toggleSharedAccount accountId parentSlot answers.connection
  | disconnect slotId => exact keepsPreferences_disconnectAccount slotId
  | threads choice =>
    dsimp only
    split_ifs
    · exact keepsPreferences_enableThreads answers.sync
    · exact keepsPreferences_call _ trivial
    · exact keepsPreferences_syncAllTopics answers.sync
    · exact .of_data rfl
  | logoutAll => exact keepsPreferences_logoutAll
  | act action accountId emailId => exact .of_data (data_act env accountId emailId action)

end AppState

/-! ### Boot resume and the watchers -/

/-- An instruction that is no call of the store; boot resume runs no other. -/
def Instr.callsNothing : Instr → Bool
  | call _ | eraseChat _ => false
  | _ => true

section

variable {config : Config} {lib : Externals} {app app' : AppState} {chatId c : ChatId}
  {answer : Answer} {instr : Instr}

theorem Instr.callsNothing_of_mem_forget {m : Mailbox} {i : Instr} (h : i ∈ Instr.forget m) :
    i.callsNothing = true := by
  simp only [Instr.forget, List.mem_cons, List.not_mem_nil, or_false] at h
  rcases h with rfl | rfl | rfl <;> rfl

/-- Such an instruction leads to such instructions. -/
theorem callsNothing_exec (h : instr.callsNothing = true) :
    ∀ i ∈ (instr.exec config lib chatId answer app).2, i.callsNothing = true := by
  intro i hi
  cases instr with
  | call | eraseChat => cases h
  | forgetChildren slotId =>
    obtain ⟨id, -, hid⟩ := List.mem_flatMap.mp hi
    exact Instr.callsNothing_of_mem_forget hid
  | storeCheck t | slotAdopted t | awaitConnect t | ensureTopic m =>
    simp only [Instr.exec] at hi
    split at hi <;> simp only [List.mem_singleton, List.not_mem_nil] at hi <;> subst hi <;> rfl
  | lockWatchers m client =>
    simp only [Instr.exec] at hi
    split at hi
    · cases hi
    · simp only [Instr.adopt, List.mem_cons, List.not_mem_nil, or_false] at hi
      rcases hi with rfl | rfl | rfl | rfl | rfl <;> rfl
  | connect t =>
    obtain rfl := List.mem_singleton.mp hi
    rfl
  | _ => cases hi

/-- An instruction that calls nothing keeps them. -/
theorem keepsPreferences_exec (h : instr.callsNothing = true) :
    app.KeepsPreferences c (instr.exec config lib chatId answer app).1 := by
  cases instr with
  | call | eraseChat => cases h
  | storeCheck t =>
    simp only [Instr.exec]
    split <;> exact .of_data rfl
  | setTopic m =>
    simp only [Instr.exec, AppState.setTopic]
    split
    · exact .of_data rfl
    · exact AppState.keepsPreferences_call _ trivial
    · exact AppState.keepsPreferences_call _ trivial
  | insertClient m client => exact .of_data AppState.data_insertClient
  | insertWatcher m client => exact .of_data AppState.data_insertWatcher
  | removeClient m => exact .of_data AppState.data_removeClient
  | removeWatcher m => exact .of_data AppState.data_removeWatcher
  | _ => exact .of_data rfl

/-- Tasks that call no operation of the store, in any order and however far they come. -/
theorem keepsPreferences_run_tasks {s s' : System AppState Instr} {steps : List (ℕ × Answer)}
    (htasks : ∀ program ∈ s.tasks, ∀ i ∈ program, i.callsNothing = true)
    (hrun : run (Resume.step config lib chatId) s steps = some s') :
    s.state.KeepsPreferences c s'.state := by
  have hinv : (∀ program ∈ s'.tasks, ∀ i ∈ program, i.callsNothing = true) ∧
      s.state.KeepsPreferences c s'.state := by
    refine run_induction (fun t => (∀ program ∈ t.tasks, ∀ i ∈ program, i.callsNothing = true) ∧
      s.state.KeepsPreferences c t.state) ?_ ⟨htasks, .of_data rfl⟩ hrun
    rintro t ⟨i, answer⟩ t' ⟨hcalls, hkeeps⟩ hstep
    obtain ⟨instr, rest, htask, -, rfl⟩ := System.step_eq_some_iff.mp hstep
    have hprogram := hcalls _ (List.mem_of_getElem? htask)
    have hinstr := hprogram instr List.mem_cons_self
    refine ⟨fun program hmem => ?_, hkeeps.trans (keepsPreferences_exec hinstr)⟩
    obtain hold | rfl := List.mem_or_eq_of_mem_set hmem
    · exact hcalls program hold
    · intro j hj
      rcases List.mem_append.mp hj with hj | hj
      · exact callsNothing_exec hinstr j hj
      · exact hprogram j (List.mem_cons_of_mem _ hj)
  exact hinv.2

/-- Registering the targets of a record leaves the store. -/
theorem data_registerPersistedTargets (targets : List ResumeTarget) :
    (app.registerPersistedTargets chatId targets).data = app.data := by
  rw [AppState.registerPersistedTargets]
  induction targets generalizing app with
  | nil => rfl
  | cons t targets ih => exact ih

/-- Saving the state of a sync leaves them. -/
theorem WatchTarget.leavesPreferences_updateState (target : WatchTarget) (state : String) :
    (target.updateState chatId state).LeavesPreferences c := by
  cases target <;> exact trivial

theorem WatchTarget.leavesPreferences_clearThread (target : WatchTarget) :
    (target.clearThread chatId).LeavesPreferences c := by
  cases target <;> exact trivial

/-- A step of a watcher. -/
theorem keepsPreferences_syncStep {w : Watcher} {s : SyncState} {e : SyncEvent} {now : ℕ}
    (h : app.syncStep w s e now = some app') : app.KeepsPreferences c app' := by
  have hexec : ∀ (s : SyncState) (op : Op) (persist : Persist), op.LeavesPreferences c →
      StaysOrGoes (s.store.data.preferences? c) ((w.exec s op persist).data.preferences? c) := by
    intro s op persist hop
    rw [Watcher.exec, Store.data_exec]
    exact staysOrGoes_apply hop
  rw [AppState.syncStep] at h
  split at h
  case isFalse => cases h
  case isTrue hown =>
    obtain ⟨s', hs', rfl⟩ := Option.map_eq_some_iff.mp h
    have hdata : StaysOrGoes (app.data.preferences? c) (s'.store.data.preferences? c) := by
      cases Watcher.stepEffect hs' with
      | baseline | finish => exact hexec _ _ _ (w.target.leavesPreferences_updateState _)
      | threadNotFound => exact hexec _ _ _ w.target.leavesPreferences_clearThread
      | restart | other => cases hown
      | _ => exact .refl _
    dsimp only
    split <;> exact hdata

end

end Jmap2Telegram
