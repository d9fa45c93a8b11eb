import Jmap2Telegram.Topics.Forum

/-!
# Orphaned topics

The commands of a chat together with the topics they create and delete. A topic is orphaned when it
exists and no slot or shared account of the chat's record has its id: nothing will ever delete it.
A login stores a slot without a topic over the one it repeats, and a disconnection deletes the topic
of the slot but not those of the shared accounts that go with it; everything else the commands drop
they delete.

* `step_effect`: what a command gives up and deletes, before it makes sure of topics.
* `noOrphans_step_iff`: it orphans no topic exactly when it drops no topic in one of the two ways.
* `noOrphans_iff`: so it is along a run.
-/

namespace Jmap2Telegram

open Transition

/-! ### The topics an operation leaves -/

section

variable {lib : Externals} {data : StoreData} {chatId : ChatId} {m : Mailbox}

/-- A slot that is stored without a topic hides the topic of the one it replaces. -/
theorem topic?_addAccount {slot : AccountSlot} {generated : GeneratedSlotId}
    (hslot : slot.threadId = none) :
    ((Op.addAccount chatId slot generated).apply lib data).topic? chatId m =
      if .account (Store.slotIdFor slot generated) = m then none else data.topic? chatId m := by
  cases m with
  | account s =>
    rw [StoreData.topic?, StoreData.topic?, StoreData.slot?_addAccount]
    simp only [true_and, Mailbox.account.injEq]
    split
    · rw [Option.bind_some, hslot]
    · rfl
  | shared a =>
    rw [StoreData.topic?, StoreData.topic?, StoreData.shared?_addAccount, if_neg (by simp)]

theorem topic?_setLanguage {language : String} :
    ((Op.setLanguage chatId language).apply lib data).topic? chatId m = data.topic? chatId m := by
  cases m with
  | account s => rw [StoreData.topic?, StoreData.topic?, StoreData.slot?_setLanguage]
  | shared a => rw [StoreData.topic?, StoreData.topic?, StoreData.shared?_setLanguage]

theorem topic?_setThreadsEnabled {enabled : Option Bool} :
    ((Op.setThreadsEnabled chatId enabled).apply lib data).topic? chatId m =
      data.topic? chatId m := by
  cases m with
  | account s => rw [StoreData.topic?, StoreData.topic?, StoreData.slot?_setThreadsEnabled]
  | shared a => rw [StoreData.topic?, StoreData.topic?, StoreData.shared?_setThreadsEnabled]

/-- A shared account is turned on without a topic. -/
theorem topic?_setSharedAccount {accountId name : String} {lastState parentSlot : Option String}
    (h : (data.accounts[chatId]?).isSome) :
    ((Op.setSharedAccount chatId accountId name lastState parentSlot).apply lib data).topic? chatId
        m = if .shared accountId = m then none else data.topic? chatId m := by
  cases m with
  | account s =>
    rw [StoreData.topic?, StoreData.topic?, StoreData.slot?_setSharedAccount, if_neg (by simp)]
  | shared a =>
    rw [StoreData.topic?, StoreData.topic?, StoreData.shared?_setSharedAccount h]
    simp only [true_and, Mailbox.shared.injEq]
    split <;> rfl

theorem topic?_removeSharedAccount {accountId : String} :
    ((Op.removeSharedAccount chatId accountId).apply lib data).topic? chatId m =
      if .shared accountId = m then none else data.topic? chatId m := by
  cases m with
  | account s =>
    rw [StoreData.topic?, StoreData.topic?, StoreData.slot?_removeSharedAccount,
      if_neg (by simp)]
  | shared a =>
    rw [StoreData.topic?, StoreData.topic?, StoreData.shared?_removeSharedAccount]
    simp only [true_and, Mailbox.shared.injEq]
    split <;> rfl

theorem topic?_remove : ((Op.remove chatId).apply lib data).topic? chatId m = none := by
  cases m with
  | account s => rw [StoreData.topic?, StoreData.slot?_remove, if_pos rfl, Option.bind_none]
  | shared a => rw [StoreData.topic?, StoreData.shared?_remove, if_pos rfl, Option.bind_none]

/-- The mailboxes that go with a slot: itself, the shared accounts under it, and every shared
account when it is the only slot. -/
def Account.GoesWith (account : Account) (slotId : String) : Mailbox → Prop
  | .account s => s = slotId
  | .shared a => ∃ shared, account.sharedAccounts[a]? = some shared ∧
    (shared.isChildOf slotId = true ∨ (account.accounts.erase slotId).isEmpty = true)

/-- Removing a slot that is not there changes no topic. -/
theorem topic?_removeAccount_of_slot?_eq_none {slotId : String}
    (hslot : data.slot? chatId slotId = none) :
    ((Op.removeAccount chatId slotId).apply lib data).topic? chatId m = data.topic? chatId m := by
  have hrecord : ((Op.removeAccount chatId slotId).apply lib data).accounts[chatId]? =
      data.accounts[chatId]? := by
    rw [StoreData.getElem?_removeAccount, if_pos rfl]
    rcases haccount : data.accounts[chatId]? with - | account
    · rfl
    · rw [StoreData.slot?, haccount, Option.bind_some] at hslot
      rw [Option.bind_some, if_neg fun hmem => by
        simp [Std.ExtTreeMap.getElem?_eq_some_getElem hmem] at hslot]
  cases m with
  | account s => rw [StoreData.topic?, StoreData.topic?, StoreData.slot?, StoreData.slot?, hrecord]
  | shared a =>
    rw [StoreData.topic?, StoreData.topic?, StoreData.shared?, StoreData.shared?, hrecord]

/-- Removing a slot takes the topics of what goes with it out of the record. -/
theorem topic?_removeAccount {slotId : String} {account : Account}
    (haccount : data.accounts[chatId]? = some account) (hslot : slotId ∈ account.accounts) :
    (account.GoesWith slotId m →
        ((Op.removeAccount chatId slotId).apply lib data).topic? chatId m = none) ∧
      (¬account.GoesWith slotId m →
        ((Op.removeAccount chatId slotId).apply lib data).topic? chatId m =
          data.topic? chatId m) := by
  cases m with
  | account s =>
    rw [StoreData.topic?, StoreData.topic?, StoreData.slot?_removeAccount]
    constructor
    · rintro rfl
      rw [if_pos ⟨rfl, rfl⟩, Option.bind_none]
    · intro hne
      rw [if_neg fun h => hne h.2.symm]
  | shared a =>
    rw [StoreData.topic?, StoreData.topic?, StoreData.shared?, StoreData.shared?,
      StoreData.getElem?_removeAccount, if_pos rfl, haccount, Option.bind_some, Option.bind_some,
      if_pos hslot, Account.GoesWith]
    split
    case isTrue hempty =>
      refine ⟨fun _ => rfl, fun hstays => ?_⟩
      rcases hshared : account.sharedAccounts[a]? with - | shared
      · rfl
      · exact absurd ⟨shared, hshared, .inr hempty⟩ hstays
    case isFalse hempty =>
      rw [Option.bind_some, StoreData.withoutSlot]
      dsimp only
      rcases hshared : account.sharedAccounts[a]? with - | shared
      · simp [Std.ExtTreeMap.getElem?_filter, hshared]
      · cases hchild : shared.isChildOf slotId <;>
          simp [Std.ExtTreeMap.getElem?_filter, hshared, hchild, hempty, Option.filter_some]

end

/-! ### The commands, with their topics -/

/-- The chat of a command. -/
def Command.chatId : Command → ChatId
  | login c _ _ _ _ | comptes c _ _ | toggleSharedAccount c _ _ _ | disconnectAccount c _ | logout c
  | logoutAll c => c

/-- Whether `/accounts` gets as far as storing a slot. -/
def AppState.connects (app : AppState) (chatId : ChatId) (args email : String) : Bool :=
  (Str.splitOnce Str.isWhitespace (Str.trim args)).isSome &&
    app.data.accounts[chatId]?.any fun account => !account.containsEmail email

/-- What is run for a chat: a command that connects or disconnects mailboxes, `/threads on` or its
button, `/threads off` or its button, and the button that synchronizes. -/
inductive ThreadedCommand where
  | command (command : Command)
  | threadsOn (answers : SyncAnswers)
  | threadsOff
  | threadsSync (answers : SyncAnswers)

namespace Threaded

section

variable (config : TopicConfig) (hostStr : String → Option String) (lib : Externals)
  (chatId : ChatId) (w : Threaded)

/-- `delete_topic`, for each of the ids that is there. -/
def deleteTopics (threadIds : List (Option ThreadId)) : Threaded :=
  { w with forum := w.forum.deleteAll (threadIds.filterMap id) }

/-- `adopt_account` and `adopt_shared`. -/
def adopt (m : Mailbox) (client : Client) (created : Option ThreadId) : Option Threaded :=
  if (w.app.watcher? chatId m).isSome then some w
  else
    { w with
      app := ((w.app.insertClient chatId client m).register chatId m).insertWatcher chatId client
        m }.ensureTopic config hostStr lib chatId created m

/-- `cmd_login`. -/
def cmdLogin (serverUrl token lang : String) (answers : Answers) : Option Threaded :=
  let slot : AccountSlot := ⟨w.app.loginSlot chatId answers.email, serverUrl, token, answers.email,
    some answers.state, none⟩
  let savedSlotId := Store.slotIdFor slot answers.generated
  let app := w.app.call lib (.addAccount chatId slot answers.generated)
  let app := app.call lib (.setLanguage chatId lang)
  let app := app.forgetAccount chatId savedSlotId
  { w with app := app }.adopt config hostStr lib chatId (.account savedSlotId)
    ⟨serverUrl, token, none⟩ answers.created

/-- `cmd_comptes`. -/
def cmdComptes (args : String) (answers : Answers) : Option Threaded :=
  let args := Str.trim args
  if args.isEmpty then some w
  else
    match w.app.data.accounts[chatId]?, Str.splitOnce Str.isWhitespace args with
    | some account, some (serverUrl, token) =>
      if account.containsEmail answers.email then some w
      else
        let slot : AccountSlot :=
          ⟨"", Str.trim serverUrl, Str.trim token, answers.email, some answers.state, none⟩
        let slotId := Store.slotIdFor slot answers.generated
        let app := w.app.call lib (.addAccount chatId slot answers.generated)
        { w with app := app }.adopt config hostStr lib chatId (.account slotId)
          ⟨Str.trim serverUrl, Str.trim token, none⟩ answers.created
    | _, _ => some w

/-- `toggle_shared_account`. -/
def toggleSharedAccount (accountId : String) (parentSlot : Option String) (answers : Answers) :
    Option Threaded :=
  match w.app.data.accounts[chatId]? with
  | none => some w
  | some account =>
    match account.sharedAccounts[accountId]? with
    | some shared =>
      let w := w.deleteTopics [shared.threadId]
      some { w with app :=
        (w.app.forgetShared chatId accountId).call lib (.removeSharedAccount chatId accountId) }
    | none =>
      match AppState.parentFor account parentSlot with
      | none => some w
      | some (serverUrl, token, parentSlotToSave) =>
        let app := w.app.call lib (.setSharedAccount chatId accountId answers.name
          (some answers.state) (some parentSlotToSave))
        { w with app := app }.adopt config hostStr lib chatId (.shared accountId)
          ⟨serverUrl, token, some accountId⟩ answers.created

/-- `disconnect_account`. -/
def disconnectAccount (slotId : String) : Threaded :=
  let w := match w.app.data.slot? chatId slotId with
    | some slot => w.deleteTopics [slot.threadId]
    | none => w
  { w with app := w.app.disconnectAccount lib chatId slotId }

/-- The button that logs a chat out of everything. -/
def logoutAll : Threaded :=
  let w := match w.app.data.accounts[chatId]? with
    | some account =>
      (w.deleteTopics (account.accounts.values.map AccountSlot.threadId)).deleteTopics
      (account.sharedAccounts.values.map SharedAccount.threadId)
    | none => w
  { w with app := w.app.logoutAll lib chatId }

/-- `cmd_logout`. -/
def cmdLogout : Threaded :=
  match w.app.data.accounts[chatId]? with
  | none => w
  | some account => if account.accounts.size ≤ 1 then w.logoutAll lib chatId else w

/-- Run a command to its end. -/
def exec : Command → Option Threaded
  | .login _ serverUrl token lang answers =>
    w.cmdLogin config hostStr lib chatId serverUrl token lang answers
  | .comptes _ args answers => w.cmdComptes config hostStr lib chatId args answers
  | .toggleSharedAccount _ accountId parentSlot answers =>
    w.toggleSharedAccount config hostStr lib chatId accountId parentSlot answers
  | .disconnectAccount _ slotId => some (w.disconnectAccount lib chatId slotId)
  | .logout _ => some (w.cmdLogout lib chatId)
  | .logoutAll _ => some (w.logoutAll lib chatId)

/-- One command of the chat after another. -/
def step : ThreadedCommand → Option Threaded
  | .command command =>
    if command.chatId = chatId then w.exec config hostStr lib chatId command else none
  | .threadsOn answers =>
    { w with app := w.app.call lib (.setThreadsEnabled chatId (some true)) }.syncAllTopics config
      hostStr lib chatId answers
  | .threadsOff => some { w with app := w.app.call lib (.setThreadsEnabled chatId (some false)) }
  | .threadsSync answers => w.syncAllTopics config hostStr lib chatId answers

end

/-! ### On the bot's state -/

section

variable {config : TopicConfig} {hostStr : String → Option String} {lib : Externals}
  {chatId : ChatId} {w w' : Threaded} {created : Option ThreadId} {m : Mailbox} {client : Client}

theorem app_adopt (h : w.adopt config hostStr lib chatId m client created = some w') :
    w'.app = w.app.adopt config.toConfig lib chatId m client created := by
  rw [adopt] at h
  rw [AppState.adopt]
  split at h
  case isTrue hwatched =>
    cases h
    rw [if_pos hwatched]
  case isFalse hfree => rw [if_neg hfree, app_ensureTopic h]

/-- `/accounts` does nothing, or it stores a slot under a generated id and adopts it. -/
theorem cmdComptes_cases {args : String} {answers : Answers}
    (h : w.cmdComptes config hostStr lib chatId args answers = some w') :
    w.app.connects chatId args answers.email = false ∧ w' = w ∧
        w.app.cmdComptes config.toConfig lib chatId args answers = w.app ∨
      w.app.connects chatId args answers.email = true ∧ ∃ (slot : AccountSlot) (client : Client),
        slot.slotId = "" ∧ slot.threadId = none ∧
        { w with app := w.app.call lib (.addAccount chatId slot answers.generated) }.adopt config
          hostStr lib chatId (.account (Store.slotIdFor slot answers.generated)) client
          answers.created = some w' ∧
        w.app.cmdComptes config.toConfig lib chatId args answers =
          (w.app.call lib (.addAccount chatId slot answers.generated)).adopt config.toConfig lib
            chatId (.account (Store.slotIdFor slot answers.generated)) client answers.created := by
  rw [cmdComptes] at h
  rw [AppState.cmdComptes, AppState.connects]
  dsimp only at h ⊢
  by_cases hempty : (Str.trim args).isEmpty = true
  · rw [if_pos hempty] at h
    cases h
    have hsplit : Str.splitOnce Str.isWhitespace (Str.trim args) = none :=
      Str.splitOnce_eq_none (by simp [String.isEmpty_iff.mp hempty])
    exact .inl ⟨by rw [hsplit]; rfl, rfl, if_pos hempty⟩
  · rw [if_neg hempty] at h ⊢
    rcases haccount : w.app.data.accounts[chatId]? with - | account
    · rw [haccount] at h
      cases h
      exact .inl ⟨by simp, rfl, rfl⟩
    · rcases hsplit : Str.splitOnce Str.isWhitespace (Str.trim args) with - | ⟨serverUrl, token⟩
      · rw [haccount, hsplit] at h
        cases h
        exact .inl ⟨rfl, rfl, rfl⟩
      · rw [haccount, hsplit] at h
        dsimp only at h ⊢
        by_cases hconnected : account.containsEmail answers.email = true
        · rw [if_pos hconnected] at h ⊢
          cases h
          exact .inl ⟨by simp [hconnected], rfl, rfl⟩
        · rw [if_neg hconnected] at h ⊢
          exact .inr ⟨by simp [hconnected], _, _, rfl, rfl, h, rfl⟩

/-- The toggle turns an account off with its topic, does nothing, or turns it on and adopts it. -/
theorem toggleSharedAccount_cases {accountId : String} {parentSlot : Option String}
    {answers : Answers}
    (h : w.toggleSharedAccount config hostStr lib chatId accountId parentSlot answers = some w') :
    (∃ shared, w.app.data.shared? chatId accountId = some shared ∧
        w' = ⟨(w.app.forgetShared chatId accountId).call lib
            (.removeSharedAccount chatId accountId),
          (w.deleteTopics [shared.threadId]).forum, w.requests⟩ ∧
        w.app.toggleSharedAccount config.toConfig lib chatId accountId parentSlot answers =
          (w.app.forgetShared chatId accountId).call lib (.removeSharedAccount chatId accountId)) ∨
      w' = w ∧
        w.app.toggleSharedAccount config.toConfig lib chatId accountId parentSlot answers = w.app ∨
      w.app.data.shared? chatId accountId = none ∧ ∃ op client,
        (∃ name lastState parent, op = Op.setSharedAccount chatId accountId name lastState parent) ∧
        w.app.data.accounts[chatId]?.isSome ∧
        { w with app := w.app.call lib op }.adopt config hostStr lib chatId (.shared accountId)
          client answers.created = some w' ∧
        w.app.toggleSharedAccount config.toConfig lib chatId accountId parentSlot answers =
          (w.app.call lib op).adopt config.toConfig lib chatId (.shared accountId) client
            answers.created := by
  rw [toggleSharedAccount] at h
  rw [AppState.toggleSharedAccount, StoreData.shared?]
  rcases haccount : w.app.data.accounts[chatId]? with - | account
  · rw [haccount] at h
    cases h
    exact .inr (.inl ⟨rfl, rfl⟩)
  · rw [haccount] at h
    dsimp only at h ⊢
    rw [Option.bind_some]
    rcases hshared : account.sharedAccounts[accountId]? with - | shared
    · have hmem : accountId ∉ account.sharedAccounts := fun hmem => by
        simp [Std.ExtTreeMap.getElem?_eq_some_getElem hmem] at hshared
      rw [hshared] at h
      rw [if_neg hmem]
      dsimp only at h
      rcases hparent : AppState.parentFor account parentSlot with - | ⟨serverUrl, token, parent⟩
      · rw [hparent] at h
        cases h
        exact .inr (.inl ⟨rfl, rfl⟩)
      · rw [hparent] at h
        exact .inr (.inr ⟨rfl, _, _, ⟨_, _, _, rfl⟩, rfl, h, rfl⟩)
    · rw [hshared] at h
      cases h
      exact .inl ⟨shared, rfl, rfl, if_pos (Map.mem_of_getElem? hshared)⟩

theorem app_disconnectAccount {slotId : String} :
    (w.disconnectAccount lib chatId slotId).app = w.app.disconnectAccount lib chatId slotId := by
  rw [disconnectAccount]
  rcases w.app.data.slot? chatId slotId with - | slot <;> rfl

theorem app_logoutAll : (w.logoutAll lib chatId).app = w.app.logoutAll lib chatId := by
  rw [logoutAll]
  rcases w.app.data.accounts[chatId]? with - | account <;> rfl

/-- On the bot's state a command does what it does without its topics. -/
theorem app_exec {command : Command} (hchat : command.chatId = chatId)
    (h : w.exec config hostStr lib chatId command = some w') :
    w'.app = w.app.exec config.toConfig lib command := by
  cases command with
  | login c serverUrl token lang answers =>
    obtain rfl : c = chatId := hchat
    exact app_adopt h
  | comptes c args answers =>
    obtain rfl : c = chatId := hchat
    rw [exec] at h
    rw [AppState.exec]
    obtain ⟨-, rfl, hsame⟩ | ⟨-, slot, client, -, -, hadopt, hsame⟩ := cmdComptes_cases h
    · exact hsame.symm
    · rw [hsame, app_adopt hadopt]
  | toggleSharedAccount c accountId parentSlot answers =>
    obtain rfl : c = chatId := hchat
    rw [AppState.exec]
    obtain ⟨shared, -, rfl, hsame⟩ | ⟨rfl, hsame⟩ | ⟨-, op, client, -, -, hadopt, hsame⟩ :=
      toggleSharedAccount_cases h
    · exact hsame.symm
    · exact hsame.symm
    · rw [hsame, app_adopt hadopt]
  | disconnectAccount c slotId =>
    obtain rfl : c = chatId := hchat
    cases h
    exact app_disconnectAccount
  | logout c =>
    obtain rfl : c = chatId := hchat
    cases h
    rw [cmdLogout, AppState.exec, AppState.cmdLogout]
    rcases w.app.data.accounts[c]? with - | account
    · rfl
    · dsimp only
      split
      · exact app_logoutAll
      · rfl
  | logoutAll c =>
    obtain rfl : c = chatId := hchat
    cases h
    exact app_logoutAll

end

/-! ### What a command gives up -/

/-- A command does not drop a topic that it leaves to exist. A login must not be stored over a slot
with a topic, and a slot that is disconnected must not take a shared account with a topic along. -/
def KeepsTopics (chatId : ChatId) (w : Threaded) : ThreadedCommand → Prop
  | .command (.login _ _ _ _ answers) =>
    w.recorded chatId (.account (w.app.savedSlotId chatId answers)) = none
  | .command (.comptes _ args answers) => w.app.connects chatId args answers.email = true →
    w.recorded chatId (.account answers.generated.val) = none
  | .command (.disconnectAccount _ slotId) => ∀ account a,
    w.app.data.accounts[chatId]? = some account → slotId ∈ account.accounts →
    account.GoesWith slotId (.shared a) → w.recorded chatId (.shared a) = none
  | _ => True

/-- Records are given up and topics deleted. -/
structure GivesUp (chatId : ChatId) (w w₁ : Threaded) (deleted : List ThreadId) : Prop where
  forum : w₁.forum = w.forum.deleteAll deleted
  recorded : ∀ m, w₁.recorded chatId m = none ∨ w₁.recorded chatId m = w.recorded chatId m

/-- The topics deleted are those whose record is given up. -/
def Balanced (chatId : ChatId) (w w₁ : Threaded) (deleted : List ThreadId) : Prop :=
  ∀ m t, w.recorded chatId m = some t → (t ∈ deleted ↔ w₁.recorded chatId m = none)

/-- Topics are made sure of, one after another. -/
abbrev Ensures (config : TopicConfig) (hostStr : String → Option String) (lib : Externals)
    (chatId : ChatId) : Threaded → Threaded → Prop :=
  Reachable fun w (e : Option ThreadId × Mailbox) =>
    w.ensureTopic config hostStr lib chatId e.1 e.2

section

variable {config : TopicConfig} {hostStr : String → Option String} {lib : Externals}
  {chatId : ChatId} {w w₁ w' : Threaded} {deleted : List ThreadId} {m : Mailbox}

theorem forum_deleteTopics_singleton (threadId : Option ThreadId) :
    (w.deleteTopics [threadId]).forum = w.forum.deleteAll threadId.toList := by
  cases threadId <;> rfl

theorem ensures_refl : Ensures config hostStr lib chatId w w := ⟨[], rfl⟩

theorem ensures_adopt {client : Client} {created : Option ThreadId}
    (h : w.adopt config hostStr lib chatId m client created = some w') :
    ∃ w₁, w₁.forum = w.forum ∧ w₁.recorded chatId = w.recorded chatId ∧
      Ensures config hostStr lib chatId w₁ w' := by
  rw [adopt] at h
  split at h
  · cases h
    exact ⟨w, rfl, rfl, ensures_refl⟩
  · refine ⟨⟨((w.app.insertClient chatId client m).register chatId m).insertWatcher chatId client m,
      w.forum, w.requests⟩, rfl, ?_, Reachable.single (e := (created, m)) h⟩
    funext m'
    rw [recorded, recorded, AppState.data_insertWatcher, AppState.register,
      AppState.data_insertClient]

theorem ensures_syncAllTopics {answers : SyncAnswers}
    (h : w.syncAllTopics config hostStr lib chatId answers = some w') :
    Ensures config hostStr lib chatId w w' :=
  syncAllTopics_induction (Ensures config hostStr lib chatId w)
    (fun _ _ created m hv hensure => hv.trans (Reachable.single (e := (created, m)) hensure))
    ensures_refl h

/-- Nothing is given up. -/
theorem balanced_same (hsame : w₁.recorded chatId = w.recorded chatId) :
    w.Balanced chatId w₁ [] := by
  intro m t ht
  rw [hsame, ht]
  simp

/-- A record is overwritten, and nothing is deleted. -/
theorem balanced_overwrite_iff
    (hover : ∀ m', w₁.recorded chatId m' = if m = m' then none else w.recorded chatId m') :
    w.Balanced chatId w₁ [] ↔ w.recorded chatId m = none := by
  constructor
  · intro hbalanced
    by_contra hsome
    obtain ⟨t, ht⟩ := Option.ne_none_iff_exists'.mp hsome
    exact List.not_mem_nil ((hbalanced m t ht).mpr (by rw [hover, if_pos rfl]))
  · intro hnone m' t ht
    rw [hover, if_neg fun heq => by simp [← heq, hnone] at ht, ht]
    simp

/-- A mailbox is dropped together with its topic. -/
theorem balanced_delete (hr : w.forum.Recorded (w.recorded chatId))
    (hover : ∀ m', w₁.recorded chatId m' = if m = m' then none else w.recorded chatId m') :
    w.Balanced chatId w₁ (w.recorded chatId m).toList := by
  intro m' t ht
  rw [Option.mem_toList, hover]
  constructor
  · intro hm
    rw [if_pos (hr.unique m m' t hm ht)]
  · intro hnone
    split at hnone
    case isTrue heq => rwa [heq]
    case isFalse => simp [ht] at hnone

/-- What a command gives up and deletes, before it makes sure of topics: it keeps the topics in
balance exactly when it does not drop one that it leaves to exist. -/
def StepEffect (config : TopicConfig) (hostStr : String → Option String) (lib : Externals)
    (chatId : ChatId) (w : Threaded) (command : ThreadedCommand) (w' : Threaded) : Prop :=
  ∃ w₁ deleted, w.GivesUp chatId w₁ deleted ∧ Ensures config hostStr lib chatId w₁ w' ∧
    (w.Balanced chatId w₁ deleted ↔ w.KeepsTopics chatId command)

/-- A command that only makes sure of topics. -/
theorem StepEffect.of_same {command : ThreadedCommand}
    (hensures : Ensures config hostStr lib chatId w₁ w') (hkeeps : w.KeepsTopics chatId command)
    (hforum : w₁.forum = w.forum) (hsame : w₁.recorded chatId = w.recorded chatId) :
    StepEffect config hostStr lib chatId w command w' :=
  ⟨w₁, [], ⟨hforum, fun m => .inr (congrFun hsame m)⟩, hensures,
    iff_of_true (balanced_same hsame) hkeeps⟩

/-- A command that stores a mailbox without a topic, and adopts it. -/
theorem StepEffect.of_overwrite {command : ThreadedCommand} {client : Client}
    {created : Option ThreadId} (h : w₁.adopt config hostStr lib chatId m client created = some w')
    (hforum : w₁.forum = w.forum)
    (hover : ∀ m', w₁.recorded chatId m' = if m = m' then none else w.recorded chatId m')
    (hkeeps : w.KeepsTopics chatId command ↔ w.recorded chatId m = none) :
    StepEffect config hostStr lib chatId w command w' := by
  obtain ⟨w₂, hforum₂, hsame, hensures⟩ := ensures_adopt h
  have hover₂ : ∀ m', w₂.recorded chatId m' =
      if m = m' then none else w.recorded chatId m' := by
    intro m'
    rw [hsame, hover]
  refine ⟨w₂, [], ⟨hforum₂.trans hforum, fun m' => ?_⟩, hensures,
    (balanced_overwrite_iff hover₂).trans hkeeps.symm⟩
  rw [hover₂]
  split
  · exact .inl rfl
  · exact .inr rfl

/-! ### Command by command -/

theorem stepEffect_login {c : ChatId} {serverUrl token lang : String} {answers : Answers}
    (h : w.cmdLogin config hostStr lib chatId serverUrl token lang answers = some w') :
    StepEffect config hostStr lib chatId w (.command (.login c serverUrl token lang answers))
      w' := by
  refine .of_overwrite h rfl (fun m' => ?_) Iff.rfl
  rw [recorded, AppState.data_forgetAccount, AppState.data_call, AppState.data_call,
    topic?_setLanguage, topic?_addAccount rfl]
  rfl

theorem stepEffect_comptes {c : ChatId} {args : String} {answers : Answers}
    (h : w.cmdComptes config hostStr lib chatId args answers = some w') :
    StepEffect config hostStr lib chatId w (.command (.comptes c args answers)) w' := by
  obtain ⟨hidle, rfl, -⟩ | ⟨hconnects, slot, client, hslotId, hthread, hadopt, -⟩ :=
    cmdComptes_cases h
  · exact .of_same ensures_refl (by simp [KeepsTopics, hidle]) rfl rfl
  · have hgenerated : Store.slotIdFor slot answers.generated = answers.generated.val := by
      rw [Store.slotIdFor, hslotId]
      exact if_pos rfl
    refine .of_overwrite hadopt rfl (fun m' => ?_) ?_
    · rw [recorded, AppState.data_call, topic?_addAccount hthread]
      rfl
    · rw [KeepsTopics, hgenerated]
      exact forall_prop_of_true hconnects

theorem stepEffect_toggle {c : ChatId} {accountId : String} {parentSlot : Option String}
    {answers : Answers} (hr : w.forum.Recorded (w.recorded chatId))
    (h : w.toggleSharedAccount config hostStr lib chatId accountId parentSlot answers = some w') :
    StepEffect config hostStr lib chatId w
      (.command (.toggleSharedAccount c accountId parentSlot answers)) w' := by
  obtain ⟨shared, hshared, rfl, -⟩ | ⟨rfl, -⟩ | ⟨hoff, op, client, ⟨name, lastState, parent, rfl⟩,
    haccount, hadopt, -⟩ := toggleSharedAccount_cases h
  · -- turned off, with its topic
    have htopic : w.recorded chatId (.shared accountId) = shared.threadId := by
      rw [recorded, StoreData.topic?, hshared, Option.bind_some]
    have hover : ∀ m', Threaded.recorded chatId
        ⟨(w.app.forgetShared chatId accountId).call lib (.removeSharedAccount chatId accountId),
          (w.deleteTopics [shared.threadId]).forum, w.requests⟩ m' =
        if .shared accountId = m' then none else w.recorded chatId m' := by
      intro m'
      rw [recorded, AppState.data_call, AppState.data_forgetShared, topic?_removeSharedAccount]
      rfl
    refine ⟨_, (w.recorded chatId (.shared accountId)).toList, ⟨?_, fun m' => ?_⟩, ensures_refl,
      iff_of_true (balanced_delete hr hover) trivial⟩
    · rw [htopic]
      exact forum_deleteTopics_singleton shared.threadId
    · rw [hover]
      split
      · exact .inl rfl
      · exact .inr rfl
  · exact .of_same ensures_refl trivial rfl rfl
  · -- turned on, which has no topic yet
    have hnone : w.recorded chatId (.shared accountId) = none := by
      rw [recorded, StoreData.topic?, hoff, Option.bind_none]
    refine .of_overwrite hadopt rfl (fun m' => ?_) (iff_of_true trivial hnone)
    rw [recorded, AppState.data_call, topic?_setSharedAccount haccount]
    rfl

theorem stepEffect_disconnect {c : ChatId} {slotId : String}
    (hr : w.forum.Recorded (w.recorded chatId)) :
    StepEffect config hostStr lib chatId w (.command (.disconnectAccount c slotId))
      (w.disconnectAccount lib chatId slotId) := by
  have hafter : ∀ m', (w.disconnectAccount lib chatId slotId).recorded chatId m' =
      ((Op.removeAccount chatId slotId).apply lib w.app.data).topic? chatId m' := by
    intro m'
    rw [recorded, app_disconnectAccount, AppState.disconnectAccount, AppState.data_call,
      AppState.data_forgetAccount]
  rcases hslot : w.app.data.slot? chatId slotId with - | slot
  · -- no such slot: nothing happens to the topics
    refine .of_same ensures_refl (fun account a haccount hmem => ?_)
      (by rw [disconnectAccount, hslot])
      (funext fun m' => (hafter m').trans (topic?_removeAccount_of_slot?_eq_none hslot))
    rw [StoreData.slot?, haccount, Option.bind_some, Std.ExtTreeMap.getElem?_eq_some_getElem hmem]
      at hslot
    cases hslot
  · obtain ⟨account, haccount, hget⟩ := Option.bind_eq_some_iff.mp hslot
    have hmem : slotId ∈ account.accounts := Map.mem_of_getElem? hget
    have htopic : w.recorded chatId (.account slotId) = slot.threadId := by
      rw [recorded, StoreData.topic?, hslot, Option.bind_some]
    have hgone : ∀ m', account.GoesWith slotId m' →
        (w.disconnectAccount lib chatId slotId).recorded chatId m' = none := fun m' hm' =>
      (hafter m').trans ((topic?_removeAccount haccount hmem).1 hm')
    have hstays : ∀ m', ¬account.GoesWith slotId m' →
        (w.disconnectAccount lib chatId slotId).recorded chatId m' = w.recorded chatId m' :=
      fun m' hm' => (hafter m').trans ((topic?_removeAccount haccount hmem).2 hm')
    refine ⟨_, slot.threadId.toList, ⟨?_, fun m' => ?_⟩, ensures_refl, ?_⟩
    · rw [disconnectAccount, hslot]
      exact forum_deleteTopics_singleton slot.threadId
    · by_cases hm' : account.GoesWith slotId m'
      · exact .inl (hgone m' hm')
      · exact .inr (hstays m' hm')
    rw [← htopic]
    constructor
    · -- the one topic deleted is not that of a shared account
      intro hbalanced account' a haccount' _ hgoes
      obtain rfl : account = account' := Option.some.inj (haccount.symm.trans haccount')
      by_contra hsome
      obtain ⟨t, ht⟩ := Option.ne_none_iff_exists'.mp hsome
      have hdeleted := (hbalanced (.shared a) t ht).mpr (hgone _ hgoes)
      have hsame := hr.unique _ _ t (Option.mem_toList.mp hdeleted) ht
      cases hsame
    · intro hkeeps m' t ht
      rw [Option.mem_toList]
      constructor
      · intro hdeleted
        obtain rfl := hr.unique _ _ t hdeleted ht
        exact hgone _ rfl
      · intro hnone
        by_cases hm' : account.GoesWith slotId m'
        · cases m' with
          | account s =>
            obtain rfl : s = slotId := hm'
            exact ht
          | shared a => simp [hkeeps account a haccount hmem hm'] at ht
        · simp [← hstays m' hm', hnone] at ht

/-- Logging a chat out deletes every topic of its record, and the record. -/
theorem stepEffect_logoutAll {command : ThreadedCommand} (hkeeps : w.KeepsTopics chatId command) :
    StepEffect config hostStr lib chatId w command (w.logoutAll lib chatId) := by
  have hafter : ∀ m', (w.logoutAll lib chatId).recorded chatId m' = none := by
    intro m'
    rw [recorded, app_logoutAll, AppState.logoutAll, AppState.data_call, AppState.data_forget,
      topic?_remove]
  rcases haccount : w.app.data.accounts[chatId]? with - | account
  · refine .of_same ensures_refl hkeeps (by rw [logoutAll, haccount]) (funext fun m' => ?_)
    rw [hafter, recorded]
    cases m' with
    | account s =>
      rw [StoreData.topic?, StoreData.slot?, haccount, Option.bind_none, Option.bind_none]
    | shared a =>
      rw [StoreData.topic?, StoreData.shared?, haccount, Option.bind_none, Option.bind_none]
  · refine ⟨_, (account.accounts.values.map AccountSlot.threadId).filterMap id ++
      (account.sharedAccounts.values.map SharedAccount.threadId).filterMap id,
      ⟨?_, fun m' => .inl (hafter m')⟩, ensures_refl, iff_of_true (fun m' t ht => ?_) hkeeps⟩
    · rw [Handles.deleteAll_append, logoutAll, haccount]
      rfl
    · refine iff_of_true ?_ (hafter m')
      rw [List.mem_append]
      cases m' with
      | account s =>
        rw [recorded, StoreData.topic?, StoreData.slot?, haccount, Option.bind_some] at ht
        obtain ⟨slot, hslot, hthread⟩ := Option.bind_eq_some_iff.mp ht
        refine .inl (List.mem_filterMap.mpr ⟨some t, List.mem_map.mpr ⟨slot, ?_, hthread⟩, rfl⟩)
        exact List.mem_map.mpr ⟨(s, slot), Std.ExtTreeMap.mem_toList_iff_getElem?_eq_some.mpr hslot,
          rfl⟩
      | shared a =>
        rw [recorded, StoreData.topic?, StoreData.shared?, haccount, Option.bind_some] at ht
        obtain ⟨shared, hshared, hthread⟩ := Option.bind_eq_some_iff.mp ht
        refine .inr (List.mem_filterMap.mpr ⟨some t, List.mem_map.mpr ⟨shared, ?_, hthread⟩, rfl⟩)
        exact List.mem_map.mpr
          ⟨(a, shared), Std.ExtTreeMap.mem_toList_iff_getElem?_eq_some.mpr hshared, rfl⟩

/-- **What a command does to the topics.** -/
theorem step_effect {command : ThreadedCommand} (hr : w.forum.Recorded (w.recorded chatId))
    (h : w.step config hostStr lib chatId command = some w') :
    StepEffect config hostStr lib chatId w command w' := by
  have hthreads : ∀ enabled, Threaded.recorded chatId
      ⟨w.app.call lib (.setThreadsEnabled chatId enabled), w.forum, w.requests⟩ =
        w.recorded chatId := by
    intro enabled
    funext m'
    rw [recorded, AppState.data_call, topic?_setThreadsEnabled]
    rfl
  cases command with
  | command command =>
    rw [step] at h
    split at h
    case isFalse => cases h
    case isTrue =>
      cases command with
      | login c serverUrl token lang answers => exact stepEffect_login h
      | comptes c args answers => exact stepEffect_comptes h
      | toggleSharedAccount c accountId parentSlot answers => exact stepEffect_toggle hr h
      | disconnectAccount c slotId =>
        cases h
        exact stepEffect_disconnect hr
      | logout c =>
        cases h
        rw [cmdLogout]
        rcases w.app.data.accounts[chatId]? with - | account
        · exact .of_same ensures_refl trivial rfl rfl
        · dsimp only
          split
          · exact stepEffect_logoutAll trivial
          · exact .of_same ensures_refl trivial rfl rfl
      | logoutAll c =>
        cases h
        exact stepEffect_logoutAll trivial
  | threadsOn answers =>
    exact .of_same (ensures_syncAllTopics h) trivial rfl (hthreads (some true))
  | threadsOff =>
    cases h
    exact .of_same ensures_refl trivial rfl (hthreads (some false))
  | threadsSync answers => exact .of_same (ensures_syncAllTopics h) trivial rfl rfl

/-! ### Along a run -/

/-- The topics that exist are those the chat's record has. -/
def NoOrphans (chatId : ChatId) (w : Threaded) : Prop := w.forum.Exact (w.recorded chatId)

theorem Recorded.ensures (hensures : Ensures config hostStr lib chatId w w')
    (hr : w.forum.Recorded (w.recorded chatId)) : w'.forum.Recorded (w'.recorded chatId) := by
  obtain ⟨es, hes⟩ := hensures
  exact run_induction (fun v => v.forum.Recorded (v.recorded chatId))
    (fun v e v' hv hstep => Recorded.ensureTopic hv hstep) hr hes

/-- Making sure of topics orphans none. -/
theorem noOrphans_ensures_iff (hensures : Ensures config hostStr lib chatId w w')
    (hr : w.forum.Recorded (w.recorded chatId)) :
    w'.NoOrphans chatId ↔ w.NoOrphans chatId := by
  obtain ⟨es, hes⟩ := hensures
  refine (run_induction (fun v => v.forum.Recorded (v.recorded chatId) ∧
    (v.NoOrphans chatId ↔ w.NoOrphans chatId)) ?_ ⟨hr, Iff.rfl⟩ hes).2
  rintro v e v' ⟨hv, hiff⟩ hstep
  exact ⟨Recorded.ensureTopic hv hstep, (exact_ensureTopic_iff hv hstep).trans hiff⟩

/-- Every recorded topic was created, and is recorded once. -/
theorem Recorded.step {command : ThreadedCommand} (hr : w.forum.Recorded (w.recorded chatId))
    (h : w.step config hostStr lib chatId command = some w') :
    w'.forum.Recorded (w'.recorded chatId) := by
  obtain ⟨w₁, deleted, hgives, hensures, -⟩ := step_effect hr h
  refine Recorded.ensures hensures ?_
  rw [hgives.forum]
  exact hr.forget hgives.recorded

/-- **A command orphans no topic** if and only if it does not drop one that it leaves to exist. -/
theorem noOrphans_step_iff {command : ThreadedCommand}
    (hr : w.forum.Recorded (w.recorded chatId)) (he : w.NoOrphans chatId)
    (h : w.step config hostStr lib chatId command = some w') :
    w'.NoOrphans chatId ↔ w.KeepsTopics chatId command := by
  obtain ⟨w₁, deleted, hgives, hensures, hbalanced⟩ := step_effect hr h
  have hr₁ : w₁.forum.Recorded (w₁.recorded chatId) := by
    rw [hgives.forum]
    exact hr.forget hgives.recorded
  rw [noOrphans_ensures_iff hensures hr₁, ← hbalanced, NoOrphans, hgives.forum,
    Handles.exact_forget_iff hr he hgives.recorded]
  rfl

theorem recorded_of_no_account (hstart : w.app.data.accounts[chatId]? = none) (m : Mailbox) :
    w.recorded chatId m = none := by
  rw [recorded]
  cases m with
  | account s => rw [StoreData.topic?, StoreData.slot?, hstart, Option.bind_none, Option.bind_none]
  | shared a => rw [StoreData.topic?, StoreData.shared?, hstart, Option.bind_none, Option.bind_none]

variable (x : Execution (step config hostStr lib chatId) w)

theorem recorded_state (hstart : w.app.data.accounts[chatId]? = none) {k : ℕ}
    (hk : k ≤ x.events.length) : (x.state k).forum.Recorded ((x.state k).recorded chatId) :=
  x.induction (fun _ v => v.forum.Recorded (v.recorded chatId))
    (Handles.recorded_none (recorded_of_no_account hstart))
    (fun _ _ hr hstep => Recorded.step hr hstep) hk

/-- **No topic is orphaned** in a run of commands, from a chat that is not connected on, if and only
if no command drops a topic that it leaves to exist. -/
theorem noOrphans_iff (hstart : w.app.data.accounts[chatId]? = none) (hlive : w.forum.live = ∅) :
    (∀ k ≤ x.events.length, (x.state k).NoOrphans chatId) ↔
      ∀ k (hk : k < x.events.length), (x.state k).KeepsTopics chatId x.events[k] := by
  constructor
  · intro hall k hk
    exact (noOrphans_step_iff (recorded_state x hstart hk.le) (hall k hk.le)
      (x.state_succ hk)).mp (hall (k + 1) hk)
  · intro hkeeps k hk
    refine x.induction (fun _ v => v.NoOrphans chatId) (fun t => ?_) (fun k hk he hstep => ?_) hk
    · simp [hlive, recorded_of_no_account hstart]
    · exact (noOrphans_step_iff (recorded_state x hstart hk.le) he hstep).mpr (hkeeps k hk)

end

end Threaded

/-! ### A login that is repeated -/

/-- What a login to the sample account meets; Telegram creates a topic. -/
def loginAnswers (created : ThreadId) : Answers :=
  ⟨"a@b.c", "", "s1", sampleSlotId, some created⟩

/-- The same login twice. -/
def repeatedLogin : List ThreadedCommand :=
  [.command (.login 1 sampleSlot.serverUrl sampleSlot.token "en" (loginAnswers 10)),
    .command (.login 1 sampleSlot.serverUrl sampleSlot.token "en" (loginAnswers 11))]

/-- Before the first command of any chat. -/
def Threaded.start : Threaded := ⟨.new .empty, .empty, []⟩

/-- A deployment with one topic per account. -/
def accountConfig : TopicConfig := ⟨⟨.auto, .parent⟩, .account⟩

/-- The run of the two logins. -/
def repeatedLoginRun :
    Execution (Threaded.step accountConfig sampleHostStr .concrete 1) Threaded.start :=
  ⟨repeatedLogin, by decide⟩

/-- The first topic still exists after the second login, and nothing records it. -/
theorem not_forall_noOrphans :
    ¬∀ (config : TopicConfig) (hostStr : String → Option String) (lib : Externals)
      (chatId : ChatId) (w : Threaded), w.app.data.accounts[chatId]? = none → w.forum.live = ∅ →
      ∀ (x : Execution (Threaded.step config hostStr lib chatId) w) (k : ℕ),
        k ≤ x.events.length → (x.state k).NoOrphans chatId := by
  intro hall
  have hrun := hall accountConfig sampleHostStr .concrete 1 .start rfl rfl repeatedLoginRun
  have hfirst := hrun 1 (by decide)
  have hsecond := hrun 2 (by decide)
  have hkeeps := (Threaded.noOrphans_step_iff
    (Threaded.recorded_state repeatedLoginRun rfl (show 1 ≤ 2 by decide)) hfirst
    (repeatedLoginRun.state_succ (show 1 < 2 by decide))).mp hsecond
  have htopic : (repeatedLoginRun.state 1).recorded 1 (.account
      ((repeatedLoginRun.state 1).app.savedSlotId 1 (loginAnswers 11))) = some 10 := by decide
  exact Option.some_ne_none _ (htopic.symm.trans hkeeps)

/-- The main result for the two logins. -/
theorem noOrphans_iff_repeatedLogin :
    (∀ k ≤ repeatedLoginRun.events.length, (repeatedLoginRun.state k).NoOrphans 1) ↔
      ∀ k (hk : k < repeatedLoginRun.events.length),
        (repeatedLoginRun.state k).KeepsTopics 1 repeatedLoginRun.events[k] :=
  Threaded.noOrphans_iff repeatedLoginRun rfl rfl

end Jmap2Telegram
