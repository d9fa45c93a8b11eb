import Jmap2Telegram.Bot.Commands
import Jmap2Telegram.Resume.Tasks

/-!
# The commands as programs

The programs of the commands that run next to the resume tasks of a chat: logging out,
disconnecting a slot, turning a shared account off, and logging in.

* `runs_logout`, `runs_disconnect`, `runs_toggleOff`, `runs_login`: run without interruption, they
  are the commands of `Bot/Commands.lean`.
-/

namespace Jmap2Telegram

open Transition

variable (chatId : ChatId)

/-- `forget`, and then `remove`: the end of `cmd_logout`. -/
def logoutProgram : List Instr :=
  [.dropUndo, .deregisterChat, .removeAccountClients, .removeAccountWatchers, .removeSharedClients,
    .removeSharedWatchers, .call (.remove chatId)]

/-- `forget_account`. -/
def forgetAccountProgram (slotId : String) : List Instr :=
  Instr.forget (.account slotId) ++ [.forgetChildren slotId]

/-- `disconnect_account`. -/
def disconnectProgram (slotId : String) : List Instr :=
  forgetAccountProgram slotId ++ [.call (.removeAccount chatId slotId)]

/-- `toggle_shared_account`, for an account that is on. -/
def toggleOffProgram (accountId : String) : List Instr :=
  Instr.forget (.shared accountId) ++ [.call (.removeSharedAccount chatId accountId)]

/-- `cmd_login` from `add_account` on. -/
def loginProgram (slot : AccountSlot) (generated : GeneratedSlotId) (lang : String) : List Instr :=
  let savedSlotId := Store.slotIdFor slot generated
  [.call (.addAccount chatId slot generated), .call (.setLanguage chatId lang)] ++
    forgetAccountProgram savedSlotId ++
    [.lockWatchers (.account savedSlotId) ⟨slot.serverUrl, slot.token, none⟩]

/-! ### Without interruption -/

section

variable {config : Config} {lib : Externals} {chatId : ChatId} {app : AppState}

/-- An answer for instructions that do not look at it. -/
def noAnswer : Answer := ⟨false, none, []⟩

/-- A store operation, with both its sections. -/
theorem runs_call (op : Op) :
    Runs (Instr.exec config lib chatId) [.call op] app (app.call lib op) := by
  refine .cons noAnswer ?_
  rw [Instr.exec, List.append_nil, AppState.call, Op.apply]
  rcases op.lockedSection lib app.data with ⟨data, - | - | ⟨c, r⟩⟩
  · exact .nil _
  · exact .nil _
  · exact .cons noAnswer (.nil _)

/-- `forget_mailbox` runs its program. -/
theorem runs_forget (m : Mailbox) :
    Runs (Instr.exec config lib chatId) (Instr.forget m) app (app.forgetMailbox chatId m) :=
  .cons noAnswer (.cons noAnswer (.cons noAnswer (.nil _)))

theorem runs_forgetShared_foldl (ids : List String) :
    Runs (Instr.exec config lib chatId) (ids.flatMap fun id => Instr.forget (.shared id)) app
      (ids.foldl (fun app id => app.forgetShared chatId id) app) := by
  induction ids generalizing app with
  | nil => exact .nil _
  | cons id ids ih => exact (runs_forget (.shared id)).append ih

/-- `forget_account` does, with the shared accounts under the slot in the order of the map. -/
theorem runs_forgetAccount (slotId : String) :
    Runs (Instr.exec config lib chatId) (forgetAccountProgram slotId) app
      (app.forgetAccount chatId slotId) := by
  rw [AppState.forgetAccount_eq]
  refine (runs_forget (.account slotId)).append (.cons noAnswer ?_)
  have hnil : ∀ ids, noAnswer.inOrder ids = ids := fun ids => by
    rw [Answer.inOrder]
    split
    case isTrue h => exact (List.nil_perm.mp h).symm
    case isFalse => rfl
  rw [List.append_nil, Instr.exec, AppState.data_forgetMailbox, hnil]
  exact runs_forgetShared_foldl _

/-- `ensure_*_topic`, cut at the call to Telegram. -/
theorem ensureTopic_eq_setTopic (m : Mailbox) (created : Option ThreadId) :
    app.ensureTopic config lib chatId created m =
      if app.needsTopic config chatId m then app.setTopic lib chatId created m else app := by
  cases m with
  | account slotId =>
    simp only [AppState.ensureTopic, AppState.ensureSlotTopic, AppState.needsTopic]
    obtain haccount | ⟨account, haccount⟩ := Option.eq_none_or_eq_some app.data.accounts[chatId]?
    · simp only [haccount, Bool.false_eq_true, if_false]
    · simp only [haccount]
      by_cases henabled : isThreadedModeEnabled config (some account) = true
      -- a topic is created for a slot that is there and has none
      · obtain hslot | ⟨⟨_, _, _, _, _, - | _⟩, hslot⟩ :=
          Option.eq_none_or_eq_some account.accounts[slotId]? <;> cases created <;>
          simp [henabled, hslot, AppState.setTopic]
      · simp [henabled]
  | shared accountId =>
    simp only [AppState.ensureTopic, AppState.ensureSharedTopic, AppState.needsTopic]
    obtain haccount | ⟨account, haccount⟩ := Option.eq_none_or_eq_some app.data.accounts[chatId]?
    · simp [haccount]
    · simp only [haccount]
      by_cases hmode : config.telegramSharedThreadMode = .dedicated
      -- a shared account needs a topic only in dedicated mode
      · by_cases henabled : isThreadedModeEnabled config (some account) = true
        · obtain hshared | ⟨⟨_, _, _, - | _⟩, hshared⟩ :=
            Option.eq_none_or_eq_some account.sharedAccounts[accountId]? <;> cases created <;>
            simp [hmode, henabled, hshared, AppState.setTopic]
        · simp [henabled]
      · simp [hmode]

/-- `ensure_*_topic` does, under the lock that was taken before. -/
theorem runs_ensureTopic (m : Mailbox) (created : Option ThreadId) :
    Runs (Instr.exec config lib chatId) [.ensureTopic m, .unlockWatchers m] app
      (app.ensureTopic config lib chatId created m) := by
  rw [ensureTopic_eq_setTopic]
  refine .cons noAnswer ?_
  rw [Instr.exec]
  split
  · exact .cons (⟨true, created, []⟩ : Answer) (.cons noAnswer (.nil _))
  · exact .cons noAnswer (.nil _)

/-- `adopt_*`, with the topic Telegram creates, if it does. -/
theorem runs_adopt (m : Mailbox) (client : Client) (created : Option ThreadId) :
    Runs (Instr.exec config lib chatId) [.lockWatchers m client] app
      (app.adopt config lib chatId m client created) := by
  refine .cons noAnswer ?_
  rw [Instr.exec, AppState.adopt]
  by_cases hsome : (app.watcher? chatId m).isSome = true
  · rw [if_pos hsome, if_pos hsome]
    exact .nil _
  · rw [if_neg hsome, if_neg hsome]
    exact .cons noAnswer (.cons noAnswer (.cons noAnswer (runs_ensureTopic m created)))

/-- A logout runs its program to the end. -/
theorem runs_logout : Runs (Instr.exec config lib chatId) (logoutProgram chatId) app
    (app.logoutAll lib chatId) := by
  refine .cons noAnswer (.cons noAnswer (.cons noAnswer (.cons noAnswer (.cons noAnswer
    (.cons noAnswer ?_)))))
  exact runs_call (.remove chatId)

/-- So does a disconnect. -/
theorem runs_disconnect (slotId : String) :
    Runs (Instr.exec config lib chatId) (disconnectProgram chatId slotId) app
      (app.disconnectAccount lib chatId slotId) :=
  (runs_forgetAccount slotId).append (runs_call _)

/-- So does a toggle of a shared account that is on. -/
theorem runs_toggleOff (accountId : String) :
    Runs (Instr.exec config lib chatId) (toggleOffProgram chatId accountId) app
      ((app.forgetShared chatId accountId).call lib (.removeSharedAccount chatId accountId)) :=
  (runs_forget (.shared accountId)).append (runs_call _)

/-- So does a login, from the slot it saves on. -/
theorem runs_login (serverUrl token lang : String) (answers : Answers) :
    Runs (Instr.exec config lib chatId)
      (loginProgram chatId ⟨app.loginSlot chatId answers.email, serverUrl, token, answers.email,
        some answers.state, none⟩ answers.generated lang)
      app (app.cmdLogin config lib chatId serverUrl token lang answers) :=
  (((runs_call _).append (runs_call _)).append (runs_forgetAccount _)).append (runs_adopt _ _ _)

end

end Jmap2Telegram
