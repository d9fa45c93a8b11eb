import Jmap2Telegram.Resume.Commands
import Jmap2Telegram.State.Contents
import Jmap2Telegram.Transition.Handles

/-!
# Forum topics

How `topics.rs` names a topic, and when it asks Telegram for one. `Threaded` is the state of the bot
together with one chat's topics as Telegram has them: the ids it gave out, and those of the topics
that exist. The functions that create topics are partial here. They give `none` when Telegram does
not create a topic it is asked for, or gives it an id it used before, which it never does.

* `app_ensureTopic`, `app_syncAllTopics`: on the bot's own state they are the functions that the
  commands call.
* `exact_ensureTopic_iff`, `isSome_recorded_syncAllTopics`: what they leave of the topics.
-/

namespace Jmap2Telegram

open Transition

/-! ### What a topic is called -/

/-- `ThreadStrategyConfig`. -/
inductive ThreadStrategyConfig where
  | account
  | server
  deriving DecidableEq

/-- The configuration with what only the names of topics depend on. -/
structure TopicConfig extends Config where
  telegramThreadStrategy : ThreadStrategyConfig

/-- `TOPIC_COLORS`. -/
def topicColors : List UInt32 := [7322096, 16766590, 13338331, 9367192, 16749490, 16478047]

/-- The hash `pick_topic_color` computes. -/
def topicHash (seed : String) : UInt32 :=
  seed.toUTF8.toList.foldl (fun hash byte => hash * 33 + byte.toUInt32) 5381

/-- `pick_topic_color`. -/
def pickTopicColor (seed : String) : UInt32 :=
  topicColors.getD ((topicHash seed).toNat % topicColors.length) 0

/-- `format_topic_name`. -/
def formatTopicName (raw : String) : String :=
  let trimmed := Str.trim raw
  if trimmed.toList.length ≤ 128 then trimmed else String.ofList (trimmed.toList.take 128)

/-- The host of a server in the name of its topic, `hostStr` being `Url::parse` and `host_str`; a
URL without a host stands for itself. -/
def serverHost (hostStr : String → Option String) (serverUrl : String) : String :=
  (hostStr serverUrl).getD serverUrl

/-- `slot_topic_name`. -/
def slotTopicName (hostStr : String → Option String) (strategy : ThreadStrategyConfig)
    (email serverUrl : String) : String :=
  match strategy with
  | .server => formatTopicName ("🌐 " ++ serverHost hostStr serverUrl)
  | .account => formatTopicName ("📧 " ++ email)

/-- `shared_topic_name`. -/
def sharedTopicName (name : String) : String := formatTopicName ("👥 " ++ name)

theorem length_formatTopicName_le (raw : String) : (formatTopicName raw).toList.length ≤ 128 := by
  rw [formatTopicName]
  split
  case isTrue h => exact h
  case isFalse => simp

theorem pickTopicColor_mem (seed : String) : pickTopicColor seed ∈ topicColors := by
  have hlt : (topicHash seed).toNat % topicColors.length < topicColors.length :=
    Nat.mod_lt _ (by decide)
  rw [pickTopicColor, List.getD_eq_getElem?_getD, List.getElem?_eq_getElem hlt, Option.getD_some]
  exact List.getElem_mem hlt

theorem length_slotTopicName_le (hostStr : String → Option String)
    (strategy : ThreadStrategyConfig) (email serverUrl : String) :
    (slotTopicName hostStr strategy email serverUrl).toList.length ≤ 128 := by
  cases strategy with
  | server =>
    rw [slotTopicName]
    exact length_formatTopicName_le ("🌐 " ++ serverHost hostStr serverUrl)
  | account =>
    rw [slotTopicName]
    exact length_formatTopicName_le ("📧 " ++ email)

theorem length_sharedTopicName_le (name : String) : (sharedTopicName name).toList.length ≤ 128 := by
  rw [sharedTopicName]
  exact length_formatTopicName_le ("👥 " ++ name)

/-- What `create_forum_topic` is asked for. -/
structure TopicRequest where
  name : String
  color : UInt32
  length_name_le : name.toList.length ≤ 128
  color_mem : color ∈ topicColors

/-- The topic asked for a slot. -/
def AccountSlot.topicRequest (hostStr : String → Option String) (strategy : ThreadStrategyConfig)
    (slot : AccountSlot) : TopicRequest where
  name := slotTopicName hostStr strategy slot.email slot.serverUrl
  color := pickTopicColor slot.email
  length_name_le := length_slotTopicName_le hostStr strategy slot.email slot.serverUrl
  color_mem := pickTopicColor_mem slot.email

/-- The topic asked for a shared account. -/
def SharedAccount.topicRequest (shared : SharedAccount) : TopicRequest where
  name := sharedTopicName shared.name
  color := pickTopicColor shared.name
  length_name_le := length_sharedTopicName_le shared.name
  color_mem := pickTopicColor_mem shared.name

/-- The topic asked for a mailbox of a record. -/
def Account.topicRequest (hostStr : String → Option String) (strategy : ThreadStrategyConfig)
    (account : Account) : Mailbox → Option TopicRequest
  | .account slotId => account.accounts[slotId]?.map (AccountSlot.topicRequest hostStr strategy)
  | .shared accountId => account.sharedAccounts[accountId]?.map SharedAccount.topicRequest

/-! ### The topic of a mailbox -/

/-- The topic the store has for a mailbox. -/
def StoreData.topic? (data : StoreData) (c : ChatId) : Mailbox → Option ThreadId
  | .account slotId => (data.slot? c slotId).bind AccountSlot.threadId
  | .shared accountId => (data.shared? c accountId).bind SharedAccount.threadId

/-- Whether a mailbox of a record is to have a topic. -/
def Account.wantsTopic (config : Config) (account : Account) : Mailbox → Bool
  | .account slotId =>
    isThreadedModeEnabled config (some account) && account.accounts.contains slotId
  | .shared accountId =>
    config.telegramSharedThreadMode = .dedicated && isThreadedModeEnabled config (some account) &&
      account.sharedAccounts.contains accountId

section

variable {config : Config} {lib : Externals} {app : AppState} {chatId : ChatId} {m m' : Mailbox}
  {account : Account} {t : ThreadId}

/-- A topic is asked for a mailbox that is to have one and has none. -/
theorem needsTopic_iff (haccount : app.data.accounts[chatId]? = some account) :
    app.needsTopic config chatId m = true ↔
      account.wantsTopic config m = true ∧ app.data.topic? chatId m = none := by
  cases m with
  | account slotId =>
    rw [AppState.needsTopic, haccount, Account.wantsTopic, StoreData.topic?, StoreData.slot?,
      haccount, Option.bind_some]
    rcases hslot : account.accounts[slotId]? with - | slot <;>
      simp [hslot, ← Std.ExtTreeMap.isSome_getElem?_eq_contains]
  | shared accountId =>
    rw [AppState.needsTopic, haccount, Account.wantsTopic, StoreData.topic?, StoreData.shared?,
      haccount, Option.bind_some]
    rcases hshared : account.sharedAccounts[accountId]? with - | shared <;>
      simp [hshared, ← Std.ExtTreeMap.isSome_getElem?_eq_contains, and_assoc]

theorem holds_of_wantsTopic (haccount : app.data.accounts[chatId]? = some account)
    (h : account.wantsTopic config m = true) : app.data.Holds chatId m := by
  cases m with
  | account slotId =>
    rw [Account.wantsTopic, Bool.and_eq_true] at h
    rw [StoreData.Holds, StoreData.slot?, haccount, Option.bind_some,
      Std.ExtTreeMap.isSome_getElem?_eq_contains]
    exact h.2
  | shared accountId =>
    rw [Account.wantsTopic, Bool.and_eq_true] at h
    rw [StoreData.Holds, StoreData.shared?, haccount, Option.bind_some,
      Std.ExtTreeMap.isSome_getElem?_eq_contains]
    exact h.2

/-- Storing the topic of a mailbox that is in the store. -/
theorem topic?_setTopic (hholds : app.data.Holds chatId m) :
    (app.setTopic lib chatId (some t) m).data.topic? chatId m' =
      if m = m' then some t else app.data.topic? chatId m' := by
  cases m with
  | account slotId =>
    obtain ⟨slot, hslot⟩ := Option.isSome_iff_exists.mp hholds
    cases m' with
    | account s =>
      rw [AppState.setTopic, AppState.call, StoreData.topic?, StoreData.topic?,
        StoreData.slot?_setAccountThreadId]
      simp only [true_and, Mailbox.account.injEq]
      split
      case isTrue h =>
        rw [← h, hslot]
        rfl
      case isFalse => rfl
    | shared a =>
      rw [AppState.setTopic, AppState.call, StoreData.topic?, StoreData.topic?,
        StoreData.shared?_setAccountThreadId, if_neg (by simp)]
  | shared accountId =>
    obtain ⟨shared, hshared⟩ := Option.isSome_iff_exists.mp hholds
    cases m' with
    | account s =>
      rw [AppState.setTopic, AppState.call, StoreData.topic?, StoreData.topic?,
        StoreData.slot?_setSharedAccountThreadId, if_neg (by simp)]
    | shared a =>
      rw [AppState.setTopic, AppState.call, StoreData.topic?, StoreData.topic?,
        StoreData.shared?_setSharedAccountThreadId]
      simp only [true_and, Mailbox.shared.injEq]
      split
      case isTrue h =>
        rw [← h, hshared]
        rfl
      case isFalse => rfl

/-- Storing a topic leaves which mailboxes are to have one. -/
theorem wantsTopic_setTopic (haccount : app.data.accounts[chatId]? = some account)
    (created : Option ThreadId) :
    ∃ account', (app.setTopic lib chatId created m).data.accounts[chatId]? = some account' ∧
      ∀ m', account'.wantsTopic config m' = account.wantsTopic config m' := by
  have hmodify : ∀ f : Account → Account, (∀ m',
      (f account).wantsTopic config m' = account.wantsTopic config m') →
      ∃ account', (app.data.modify chatId f).accounts[chatId]? = some account' ∧
        ∀ m', account'.wantsTopic config m' = account.wantsTopic config m' := by
    intro f hf
    refine ⟨f account, ?_, hf⟩
    rw [StoreData.getElem?_modify, if_pos rfl, haccount, Option.map_some]
  rcases created with - | t
  · exact ⟨account, haccount, fun _ => rfl⟩
  · cases m with
    | account slotId =>
      simp only [AppState.setTopic, AppState.call, Op.apply, Op.lockedSection,
        Store.setAccountThreadId]
      rcases app.data.slot? chatId slotId with - | slot
      · exact ⟨account, haccount, fun _ => rfl⟩
      · refine hmodify _ fun m' => ?_
        cases m' <;>
          simp [Account.wantsTopic, Account.modifySlot, isThreadedModeEnabled,
            Std.ExtTreeMap.contains_modify]
    | shared accountId =>
      simp only [AppState.setTopic, AppState.call, Op.apply, Op.lockedSection,
        Store.setSharedAccountThreadId]
      rcases app.data.shared? chatId accountId with - | shared
      · exact ⟨account, haccount, fun _ => rfl⟩
      · refine hmodify _ fun m' => ?_
        cases m' <;>
          simp [Account.wantsTopic, Account.modifyShared, isThreadedModeEnabled,
            Std.ExtTreeMap.contains_modify]

end

/-! ### The forum of a chat -/

/-- The state of the bot, the topics of one chat, and what was asked for each topic. -/
structure Threaded where
  app : AppState
  forum : Handles ThreadId
  requests : List (ThreadId × TopicRequest)

/-- What is up to the outside in a synchronization: the topic Telegram creates for each mailbox, and
the order in which the hash map of shared accounts is iterated. -/
structure SyncAnswers where
  created : Mailbox → Option ThreadId
  order : List String

/-- The mailboxes `sync_all_topics` goes through. -/
def Account.syncedMailboxes (config : Config) (account : Account) (answers : SyncAnswers) :
    List Mailbox :=
  account.accounts.keys.map .account ++
    if config.telegramSharedThreadMode = .dedicated then
      (Answer.inOrder ⟨true, none, answers.order⟩ account.sharedAccounts.keys).map .shared
    else []

/-- `sync_all_topics`, on the state alone. -/
def AppState.syncAllTopics (config : Config) (lib : Externals) (app : AppState) (chatId : ChatId)
    (answers : SyncAnswers) : AppState :=
  match app.data.accounts[chatId]? with
  | none => app
  | some account => (account.syncedMailboxes config answers).foldl
    (fun app m => app.ensureTopic config lib chatId (answers.created m) m) app

/-- What every call of `ensure_*_topic` preserves of the state holds after a synchronization. -/
theorem AppState.syncAllTopics_induction {config : Config} {lib : Externals} {app : AppState}
    {chatId : ChatId} (Inv : AppState → Prop)
    (hstep : ∀ app created m, Inv app → Inv (app.ensureTopic config lib chatId created m))
    (h : Inv app) (answers : SyncAnswers) : Inv (app.syncAllTopics config lib chatId answers) := by
  rw [syncAllTopics]
  split
  · exact h
  · exact List.foldlRecOn _ _ h fun app happ m _ => hstep app (answers.created m) m happ

namespace Threaded

section

variable (config : TopicConfig) (hostStr : String → Option String) (lib : Externals)
  (chatId : ChatId) (w : Threaded)

/-- The topics the store has for the chat's mailboxes. -/
def recorded : Mailbox → Option ThreadId := w.app.data.topic? chatId

/-- `ensure_slot_topic` and `ensure_shared_topic`. -/
def ensureTopic (created : Option ThreadId) (m : Mailbox) : Option Threaded :=
  if w.app.needsTopic config.toConfig chatId m then do
    let account ← w.app.data.accounts[chatId]?
    let request ← account.topicRequest hostStr config.telegramThreadStrategy m
    let threadId ← created
    let forum ← w.forum.create? threadId
    some ⟨w.app.setTopic lib chatId (some threadId) m, forum, w.requests ++ [(threadId, request)]⟩
  else some w

/-- `sync_all_topics`. -/
def syncAllTopics (answers : SyncAnswers) : Option Threaded :=
  match w.app.data.accounts[chatId]? with
  | none => some w
  | some account =>
    run (fun w m => w.ensureTopic config hostStr lib chatId (answers.created m) m) w
      (account.syncedMailboxes config.toConfig answers)

end

/-! ### One topic -/

section

variable {config : TopicConfig} {hostStr : String → Option String} {lib : Externals}
  {chatId : ChatId} {w w' : Threaded} {created : Option ThreadId} {m : Mailbox}

/-- All `ensure_*_topic` can do: nothing for a mailbox that needs no topic, and else create one and
store it. -/
theorem ensureTopic_cases (h : w.ensureTopic config hostStr lib chatId created m = some w') :
    w.app.needsTopic config.toConfig chatId m = false ∧ w' = w ∨
      ∃ account request threadId forum, w.app.needsTopic config.toConfig chatId m = true ∧
        w.app.data.accounts[chatId]? = some account ∧
        account.topicRequest hostStr config.telegramThreadStrategy m = some request ∧
        created = some threadId ∧ w.forum.create? threadId = some forum ∧
        w' = ⟨w.app.setTopic lib chatId (some threadId) m, forum,
          w.requests ++ [(threadId, request)]⟩ := by
  rw [ensureTopic] at h
  split at h
  case isTrue hneeds =>
    simp only [Option.bind_eq_bind, Option.bind_eq_some_iff, Option.some.injEq] at h
    obtain ⟨account, haccount, request, hrequest, threadId, hcreated, forum, hforum, rfl⟩ := h
    exact .inr ⟨account, request, threadId, forum, hneeds, haccount, hrequest, hcreated, hforum,
      rfl⟩
  case isFalse hneeds =>
    cases h
    exact .inl ⟨Bool.eq_false_iff.mpr hneeds, rfl⟩

/-- On the bot's state it is what the commands call. -/
theorem app_ensureTopic (h : w.ensureTopic config hostStr lib chatId created m = some w') :
    w'.app = w.app.ensureTopic config.toConfig lib chatId created m := by
  rw [ensureTopic_eq_setTopic]
  obtain ⟨hneeds, rfl⟩ | ⟨account, request, threadId, forum, hneeds, -, -, rfl, -, rfl⟩ :=
    ensureTopic_cases h
  · rw [if_neg (by simp [hneeds])]
  · rw [if_pos hneeds]

/-- It changes the record of no topic, or it creates one for a mailbox that has none. -/
theorem recorded_ensureTopic (h : w.ensureTopic config hostStr lib chatId created m = some w') :
    w'.recorded chatId = w.recorded chatId ∧ w'.forum = w.forum ∨
      ∃ t, w.recorded chatId m = none ∧ w.forum.create? t = some w'.forum ∧
        ∀ m', w'.recorded chatId m' = if m = m' then some t else w.recorded chatId m' := by
  obtain ⟨-, rfl⟩ | ⟨account, request, t, forum, hneeds, haccount, -, -, hforum, rfl⟩ :=
    ensureTopic_cases h
  · exact .inl ⟨rfl, rfl⟩
  · obtain ⟨hwants, hnone⟩ := (needsTopic_iff haccount).mp hneeds
    exact .inr ⟨t, hnone, hforum, fun m' => topic?_setTopic (holds_of_wantsTopic haccount hwants)⟩

theorem Recorded.ensureTopic (hr : w.forum.Recorded (w.recorded chatId))
    (h : w.ensureTopic config hostStr lib chatId created m = some w') :
    w'.forum.Recorded (w'.recorded chatId) := by
  obtain ⟨hsame, hforum⟩ | ⟨t, -, hcreate, hrecorded⟩ := recorded_ensureTopic h
  · rwa [hsame, hforum]
  · exact hr.create hcreate hrecorded

/-- No topic is orphaned by it. -/
theorem exact_ensureTopic_iff (hr : w.forum.Recorded (w.recorded chatId))
    (h : w.ensureTopic config hostStr lib chatId created m = some w') :
    w'.forum.Exact (w'.recorded chatId) ↔ w.forum.Exact (w.recorded chatId) := by
  obtain ⟨hsame, hforum⟩ | ⟨t, hnone, hcreate, hrecorded⟩ := recorded_ensureTopic h
  · rw [hsame, hforum]
  · exact hr.exact_create_iff hnone hcreate hrecorded

/-- A topic that is recorded stays, and the mailbox has one afterwards if it is to have one. Which
mailboxes are to have one stays. -/
theorem isSome_recorded_ensureTopic {account : Account}
    (haccount : w.app.data.accounts[chatId]? = some account)
    (h : w.ensureTopic config hostStr lib chatId created m = some w') :
    (∃ account', w'.app.data.accounts[chatId]? = some account' ∧
        ∀ m', account'.wantsTopic config.toConfig m' = account.wantsTopic config.toConfig m') ∧
      (∀ m', (w.recorded chatId m').isSome → (w'.recorded chatId m').isSome) ∧
      (account.wantsTopic config.toConfig m = true → (w'.recorded chatId m).isSome) := by
  obtain ⟨hneeds, rfl⟩ | ⟨_, _, t, _, hneeds, -, -, -, -, rfl⟩ := ensureTopic_cases h
  · refine ⟨⟨account, haccount, fun _ => rfl⟩, fun _ hsome => hsome, fun hwants => ?_⟩
    rw [Option.isSome_iff_ne_none]
    intro hnone
    exact Bool.eq_false_iff.mp hneeds ((needsTopic_iff haccount).mpr ⟨hwants, hnone⟩)
  · obtain ⟨hwants, hnone⟩ := (needsTopic_iff haccount).mp hneeds
    have hrecorded : ∀ m', (w.app.setTopic lib chatId (some t) m).data.topic? chatId m' =
        if m = m' then some t else w.recorded chatId m' :=
      fun m' => topic?_setTopic (holds_of_wantsTopic haccount hwants)
    refine ⟨wantsTopic_setTopic haccount (some t), fun m' hsome => ?_, fun _ => ?_⟩
    · rw [recorded, hrecorded]
      split
      · rfl
      · exact hsome
    · rw [recorded, hrecorded, if_pos rfl]
      rfl

end

/-! ### A synchronization -/

section

variable {config : TopicConfig} {hostStr : String → Option String} {lib : Externals}
  {chatId : ChatId} {w w' : Threaded} {answers : SyncAnswers} {account : Account}

/-- What every call of `ensure_*_topic` preserves holds after a synchronization. -/
theorem syncAllTopics_induction (Inv : Threaded → Prop)
    (hstep : ∀ w w' created m, Inv w →
      w.ensureTopic config hostStr lib chatId created m = some w' → Inv w')
    (hw : Inv w) (h : w.syncAllTopics config hostStr lib chatId answers = some w') : Inv w' := by
  rw [syncAllTopics] at h
  split at h
  · cases h
    exact hw
  · exact run_induction Inv (fun w m w' hinv hens => hstep w w' _ m hinv hens) hw h

/-- On the bot's state it is the same as on its own. -/
theorem app_syncAllTopics (h : w.syncAllTopics config hostStr lib chatId answers = some w') :
    w'.app = w.app.syncAllTopics config.toConfig lib chatId answers := by
  rw [syncAllTopics] at h
  rw [AppState.syncAllTopics]
  rcases haccount : w.app.data.accounts[chatId]? with - | account
  · rw [haccount] at h
    cases h
    rfl
  · rw [haccount] at h
    dsimp only at h ⊢
    clear haccount
    generalize account.syncedMailboxes config.toConfig answers = ms at h ⊢
    induction ms generalizing w with
    | nil =>
      cases h
      rfl
    | cons m ms ih =>
      rw [run_cons, Option.bind_eq_some_iff] at h
      obtain ⟨w₁, hfirst, hrest⟩ := h
      rw [ih hrest, app_ensureTopic hfirst, List.foldl_cons]

/-- One call after another: no mailbox loses its topic, and each that is to have one gets one. -/
theorem isSome_recorded_run {ms : List Mailbox} {m : Mailbox}
    (haccount : w.app.data.accounts[chatId]? = some account)
    (h : run (fun w m => w.ensureTopic config hostStr lib chatId (answers.created m) m) w ms =
      some w')
    (hm : (w.recorded chatId m).isSome ∨
      m ∈ ms ∧ account.wantsTopic config.toConfig m = true) :
    (w'.recorded chatId m).isSome := by
  induction ms generalizing w account with
  | nil =>
    cases h
    exact hm.resolve_right fun hmem => List.not_mem_nil hmem.1
  | cons m₁ ms ih =>
    rw [run_cons, Option.bind_eq_some_iff] at h
    obtain ⟨w₁, hfirst, hrest⟩ := h
    obtain ⟨⟨account', haccount', hsame⟩, hkeeps, hgets⟩ :=
      isSome_recorded_ensureTopic haccount hfirst
    refine ih haccount' hrest ?_
    obtain hsome | ⟨hmem, hwants⟩ := hm
    · exact .inl (hkeeps m hsome)
    · obtain rfl | hmem := List.mem_cons.mp hmem
      · exact .inl (hgets hwants)
      · exact .inr ⟨hmem, (hsame m).trans hwants⟩

/-- After a synchronization every mailbox it goes through that is to have a topic has one. -/
theorem isSome_recorded_syncAllTopics (haccount : w.app.data.accounts[chatId]? = some account)
    (h : w.syncAllTopics config hostStr lib chatId answers = some w') {m : Mailbox}
    (hmem : m ∈ account.syncedMailboxes config.toConfig answers)
    (hwants : account.wantsTopic config.toConfig m = true) : (w'.recorded chatId m).isSome := by
  rw [syncAllTopics, haccount] at h
  exact isSome_recorded_run haccount h (.inr ⟨hmem, hwants⟩)

end

end Threaded

/-- What `url` reads from the URL of the sample slot. -/
def sampleHostStr (serverUrl : String) : Option String :=
  if serverUrl = sampleSlot.serverUrl then some "jmap.example.org" else none

end Jmap2Telegram
