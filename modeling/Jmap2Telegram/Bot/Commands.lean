import Jmap2Telegram.State.Tracking

/-!
# Commands that connect and disconnect mailboxes

The commands of `bot.rs` that change which mailboxes a chat has: `/login`, `/accounts` (`/comptes`
in the source), the toggle of a shared account, the disconnection of a slot, and `/logout`. Each is
run here to its end by itself, with every call to a JMAP server, to Telegram and to the disk
succeeding; what the outside answers is in its `Answers`.

* `savedSlotId_origin`: where the id a login stores its slot under comes from.
-/

namespace Jmap2Telegram

/-- What the outside answers while a command runs: the address, the name and the state of the
mailbox it connects to, the id `generate_slot_id` draws, and the topic Telegram creates, if it
does. -/
structure Answers where
  email : String
  name : String
  state : String
  generated : GeneratedSlotId
  created : Option ThreadId

/-- A command of a chat. -/
inductive Command where
  | login (chatId : ChatId) (serverUrl token lang : String) (answers : Answers)
  | comptes (chatId : ChatId) (args : String) (answers : Answers)
  | toggleSharedAccount (chatId : ChatId) (accountId : String) (parentSlot : Option String)
      (answers : Answers)
  | disconnectAccount (chatId : ChatId) (slotId : String)
  | logout (chatId : ChatId)
  | logoutAll (chatId : ChatId)

namespace AppState

variable (config : Config) (lib : Externals) (app : AppState) (chatId : ChatId)

/-- The slot `cmd_login` submits: the one that has the address, `"default"` for a chat without a
record, and else a new one, which `add_account` names. -/
def loginSlot (email : String) : String :=
  let existingSlot := app.data.accounts[chatId]?.bind fun account =>
    (account.accounts.values.find? fun slot => Str.eqIgnoreAsciiCase slot.email email).map
      AccountSlot.slotId
  existingSlot.getD (if app.data.accounts[chatId]?.isNone then "default" else "")

/-- The slot a login is saved under. -/
def savedSlotId (answers : Answers) : String :=
  Store.slotIdFor ⟨app.loginSlot chatId answers.email, "", "", "", none, none⟩ answers.generated

/-- `cmd_login`. -/
def cmdLogin (serverUrl token lang : String) (answers : Answers) : AppState :=
  let slot : AccountSlot :=
    ⟨app.loginSlot chatId answers.email, serverUrl, token, answers.email, some answers.state, none⟩
  let savedSlotId := Store.slotIdFor slot answers.generated
  let app := app.call lib (.addAccount chatId slot answers.generated)
  let app := app.call lib (.setLanguage chatId lang)
  let app := app.forgetAccount chatId savedSlotId
  app.adopt config lib chatId (.account savedSlotId) ⟨serverUrl, token, none⟩ answers.created

/-- `cmd_comptes`. -/
def cmdComptes (args : String) (answers : Answers) : AppState :=
  let args := Str.trim args
  if args.isEmpty then app
  else
    match app.data.accounts[chatId]?, Str.splitOnce Str.isWhitespace args with
    | some account, some (serverUrl, token) =>
      if account.containsEmail answers.email then app
      else
        let slot : AccountSlot :=
          ⟨"", Str.trim serverUrl, Str.trim token, answers.email, some answers.state, none⟩
        let slotId := Store.slotIdFor slot answers.generated
        let app := app.call lib (.addAccount chatId slot answers.generated)
        app.adopt config lib chatId (.account slotId) ⟨Str.trim serverUrl, Str.trim token, none⟩
          answers.created
    | _, _ => app

/-- The server, the token and the slot id a shared account is turned on with: those of the slot its
button names, or of the primary one. -/
def parentFor (account : Account) : Option String → Option (String × String × String)
  | some slot => account.accounts[slot]?.map fun extra => (extra.serverUrl, extra.token, slot)
  | none => account.primarySlot.map fun primary =>
    (primary.serverUrl, primary.token, primary.slotId)

/-- `toggle_shared_account`. -/
def toggleSharedAccount (accountId : String) (parentSlot : Option String) (answers : Answers) :
    AppState :=
  match app.data.accounts[chatId]? with
  | none => app
  | some account =>
    if accountId ∈ account.sharedAccounts then
      (app.forgetShared chatId accountId).call lib (.removeSharedAccount chatId accountId)
    else
      match parentFor account parentSlot with
      | none => app
      | some (serverUrl, token, parentSlotToSave) =>
        let app := app.call lib (.setSharedAccount chatId accountId answers.name
          (some answers.state) (some parentSlotToSave))
        app.adopt config lib chatId (.shared accountId) ⟨serverUrl, token, some accountId⟩
          answers.created

/-- `disconnect_account`. -/
def disconnectAccount (slotId : String) : AppState :=
  (app.forgetAccount chatId slotId).call lib (.removeAccount chatId slotId)

/-- The button that logs a chat out of everything. -/
def logoutAll : AppState := (app.forget chatId).call lib (.remove chatId)

/-- `cmd_logout`: a chat with several slots is asked which to disconnect. -/
def cmdLogout : AppState :=
  match app.data.accounts[chatId]? with
  | none => app
  | some account => if account.accounts.size ≤ 1 then app.logoutAll lib chatId else app

/-- Run a command to its end. -/
def exec : Command → AppState
  | .login chatId serverUrl token lang answers =>
    app.cmdLogin config lib chatId serverUrl token lang answers
  | .comptes chatId args answers => app.cmdComptes config lib chatId args answers
  | .toggleSharedAccount chatId accountId parentSlot answers =>
    app.toggleSharedAccount config lib chatId accountId parentSlot answers
  | .disconnectAccount chatId slotId => app.disconnectAccount lib chatId slotId
  | .logout chatId => app.cmdLogout lib chatId
  | .logoutAll chatId => app.logoutAll lib chatId

/-- Run commands one after another. -/
def execAll (commands : List Command) : AppState :=
  commands.foldl (fun app command => app.exec config lib command) app

/-! ### What the steps of a command do to the store -/

section

variable {config lib app chatId} {c : ChatId} {m mailbox : Mailbox} {client : Client}
  {created : Option ThreadId} {slotId : String}

@[simp]
theorem data_call {op : Op} : (app.call lib op).data = op.apply lib app.data := rfl

@[simp]
theorem data_forgetMailbox : (app.forgetMailbox chatId mailbox).data = app.data := by
  rw [forgetMailbox, data_removeWatcher, data_removeClient]

@[simp]
theorem data_forgetShared {accountId : String} :
    (app.forgetShared chatId accountId).data = app.data := data_forgetMailbox

/-- Forgetting shared accounts leaves the store. -/
theorem data_forgetShared_foldl (ids : List String) :
    (ids.foldl (fun app id => app.forgetShared chatId id) app).data = app.data := by
  induction ids generalizing app with
  | nil => rfl
  | cons id ids ih => exact ih.trans data_forgetShared

@[simp]
theorem data_forgetAccount : (app.forgetAccount chatId slotId).data = app.data := by
  rw [forgetAccount]
  rcases (app.forgetMailbox chatId (.account slotId)).data.accounts[chatId]? with - | account
  · exact data_forgetMailbox
  · exact (data_forgetShared_foldl _).trans data_forgetMailbox

@[simp]
theorem data_forget : (app.forget chatId).data = app.data := rfl

variable (config lib app chatId mailbox client created)

/-- Making sure of a topic at most stores the topic. -/
theorem data_ensureTopic :
    (app.ensureTopic config lib chatId created mailbox).data = app.data ∨
      (∃ s t, (app.ensureTopic config lib chatId created mailbox).data =
        (Op.setAccountThreadId chatId s t).apply lib app.data) ∨
      ∃ a t, (app.ensureTopic config lib chatId created mailbox).data =
        (Op.setSharedAccountThreadId chatId a t).apply lib app.data := by
  cases mailbox with
  | account slotId =>
    simp only [ensureTopic, ensureSlotTopic]
    repeat' split
    all_goals first | exact .inl rfl | exact .inr (.inl ⟨_, _, rfl⟩)
  | shared accountId =>
    simp only [ensureTopic, ensureSharedTopic]
    repeat' split
    all_goals first | exact .inl rfl | exact .inr (.inr ⟨_, _, rfl⟩)

/-- Adopting a mailbox at most stores its topic. -/
theorem data_adopt :
    (app.adopt config lib chatId mailbox client created).data = app.data ∨
      (∃ s t, (app.adopt config lib chatId mailbox client created).data =
        (Op.setAccountThreadId chatId s t).apply lib app.data) ∨
      ∃ a t, (app.adopt config lib chatId mailbox client created).data =
        (Op.setSharedAccountThreadId chatId a t).apply lib app.data := by
  rw [adopt]
  split
  · exact .inl rfl
  · have hdata : (((app.insertClient chatId client mailbox).register chatId mailbox).insertWatcher
        chatId client mailbox).data = app.data := by
      rw [data_insertWatcher]
      exact data_insertClient
    have h := data_ensureTopic config lib (((app.insertClient chatId client mailbox).register
      chatId mailbox).insertWatcher chatId client mailbox) chatId mailbox created
    rwa [hdata] at h

variable {config lib app chatId mailbox client created}

/-- Recording a slot's topic leaves the mailboxes the store holds. -/
theorem holds_setAccountThreadId {data : StoreData} {t : Option ThreadId} :
    ((Op.setAccountThreadId chatId slotId t).apply lib data).Holds c m ↔ data.Holds c m := by
  cases m with
  | account s =>
    simp only [StoreData.Holds, StoreData.slot?_setAccountThreadId]
    split <;> simp
  | shared a => simp only [StoreData.Holds, StoreData.shared?_setAccountThreadId]

/-- So does recording a shared account's. -/
theorem holds_setSharedAccountThreadId {data : StoreData} {a : String} {t : Option ThreadId} :
    ((Op.setSharedAccountThreadId chatId a t).apply lib data).Holds c m ↔ data.Holds c m := by
  cases m with
  | account s => simp only [StoreData.Holds, StoreData.slot?_setSharedAccountThreadId]
  | shared a =>
    simp only [StoreData.Holds, StoreData.shared?_setSharedAccountThreadId]
    split <;> simp

/-- Adopting a mailbox leaves the mailboxes in the store. -/
theorem holds_adopt :
    (app.adopt config lib chatId mailbox client created).data.Holds c m ↔ app.data.Holds c m := by
  obtain h | ⟨s, t, h⟩ | ⟨a, t, h⟩ := data_adopt config lib app chatId mailbox
    client created
  · rw [h]
  · rw [h, holds_setAccountThreadId]
  · rw [h, holds_setSharedAccountThreadId]

/-- Adopting a mailbox keeps the store well formed: it writes a topic at most. -/
theorem wellFormed_adopt (h : app.data.WellFormed) :
    (app.adopt config lib chatId mailbox client created).data.WellFormed := by
  obtain heq | ⟨s, t, heq⟩ | ⟨a, t, heq⟩ := data_adopt config lib app chatId mailbox
    client created
  · rwa [heq]
  · rw [heq]
    exact h.setAccountThreadId
  · rw [heq]
    exact h.setSharedAccountThreadId

end

/-- `/accounts` does nothing, or it connects a slot under a generated id. -/
theorem cmdComptes_cases (args : String) (answers : Answers) :
    app.cmdComptes config lib chatId args answers = app ∨
      ∃ serverUrl token, app.cmdComptes config lib chatId args answers =
        (app.call lib (.addAccount chatId
          ⟨"", serverUrl, token, answers.email, some answers.state, none⟩ answers.generated)).adopt
          config lib chatId (.account (Store.slotIdFor
            ⟨"", serverUrl, token, answers.email, some answers.state, none⟩ answers.generated))
          ⟨serverUrl, token, none⟩ answers.created := by
  rw [cmdComptes]
  split
  · exact .inl rfl
  · split
    · split
      · exact .inl rfl
      · exact .inr ⟨_, _, rfl⟩
    · exact .inl rfl

/-! ### The slot of a login -/

section

variable {app} {answers : Answers}

/-- The slot `add_account` writes to is the one `cmd_login` reads back. -/
theorem slotIdFor_eq_savedSlotId {serverUrl token : String} :
    Store.slotIdFor ⟨app.loginSlot chatId answers.email, serverUrl, token, answers.email,
      some answers.state, none⟩ answers.generated = app.savedSlotId chatId answers := rfl

/-- A login is saved under `"default"`, under a generated id, or under a slot of the chat. -/
theorem savedSlotId_origin (answers : Answers) (h : app.data.WellFormed) :
    app.savedSlotId chatId answers = "default" ∨
      app.savedSlotId chatId answers = answers.generated.val ∨
      (app.data.slot? chatId (app.savedSlotId chatId answers)).isSome := by
  have hlogin : app.loginSlot chatId answers.email = "default" ∨
      app.loginSlot chatId answers.email = "" ∨
      (app.data.slot? chatId (app.loginSlot chatId answers.email)).isSome := by
    rw [loginSlot]
    rcases haccount : app.data.accounts[chatId]? with - | account
    · exact .inl rfl
    · rw [Option.bind_some]
      rcases hfind : account.accounts.values.find? (fun slot =>
        Str.eqIgnoreAsciiCase slot.email answers.email) with - | slot
      · exact .inr (.inl (by rw [hfind]; rfl))
      · -- the slot is stored under its own id
        obtain ⟨⟨s, slot'⟩, hmem, rfl⟩ := List.mem_map.mp (List.mem_of_find?_eq_some hfind)
        have hslot : app.data.slot? chatId s = some slot' := by
          rw [StoreData.slot?, haccount]
          exact Std.ExtTreeMap.mem_toList_iff_getElem?_eq_some.mp hmem
        rw [hfind, Option.map_some, Option.getD_some]
        dsimp only
        rw [h.keyed chatId s slot' hslot, hslot]
        exact .inr (.inr rfl)
  -- the store draws an id only when the login submits none
  rw [savedSlotId, Store.slotIdFor]
  split
  case isTrue => exact .inr (.inl rfl)
  case isFalse hne =>
    obtain h | h | h := hlogin
    · exact .inl h
    · exact absurd (String.isEmpty_iff.mpr h) hne
    · exact .inr (.inr h)

/-- A login writes to the default slot or to one with a generated id. -/
theorem savedSlotId_cases (answers : Answers) (h : app.data.WellFormed) :
    app.savedSlotId chatId answers = "default" ∨
      (app.savedSlotId chatId answers).toList.length = 8 := by
  obtain hdefault | hgenerated | hstored := savedSlotId_origin chatId answers h
  · exact .inl hdefault
  · exact .inr (by rw [hgenerated, answers.generated.length_eq])
  · exact h.slotIds chatId _ hstored

end

end AppState

end Jmap2Telegram
