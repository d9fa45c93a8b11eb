import Jmap2Telegram.Bot.Caches
import Jmap2Telegram.Bot.Search

/-!
# The buttons under a notification

`sync_and_notify` draws the keyboard of a notification with the account id of the watch target: the
id of a slot, or the id the server chose for a shared account. On a tap, `callback_handler` looks
the id up as a shared account's first. The two kinds of ids are kept in separate maps, but a server
may well have an account called `"default"`.

* `callbackClient_account`, `not_callbackClient_account`: whose client the handler resolves the id
  of a slot to.
* `reaches_iff`: the buttons reach the account that was notified if and only if it is a shared
  account, or no shared account of the chat has the id of its slot, or the ids are too long for the
  buttons to be drawn.
-/

namespace Jmap2Telegram

open Transition

/-- A tap acts on the email with the client of the target, whenever the target has one: a slot's
own, or the client switched to the shared account. A tap that only draws another keyboard keeps the
ids. -/
def Tap.Reaches (app : AppState) (chatId : ChatId) (target : WatchTarget) (emailId : String) :
    Tap → Prop
  | act _ accountId email => email = emailId ∧
    ∀ (reaches : Client → Bool) (client : Client) (app' : AppState),
      app.clientOf reaches chatId target.mailbox = .live target.mailbox client app' →
      app.callbackClient reaches chatId accountId = .live target.mailbox client app' ∧
        client.accountId = target.mailbox.selects
  | redraw accountId email _ _ => email = emailId ∧ accountId = target.accountId
  | alreadyRead => True
  | _ => False

section

variable {app : AppState} {reaches : Client → Bool} {chatId : ChatId} {target : WatchTarget}
  {id emailId : String} {lang : Locale}

/-- Every target but the unnamed one carries the id of its mailbox. -/
theorem mailbox_of_accountId (hid : target.accountId = some id) :
    target.mailbox = .account id ∨ target.mailbox = .shared id := by
  cases target with
  | primary => cases hid
  | shared accountId label =>
    cases hid
    exact .inr rfl
  | extra slotId label | account slotId label =>
    cases hid
    exact .inl rfl

/-! ### Whose client an id stands for -/

/-- The id of a shared account that has a client stands for it. -/
theorem callbackClient_shared {client : Client} {app' : AppState}
    (h : app.clientOf reaches chatId (.shared id) = .live (.shared id) client app') :
    app.callbackClient reaches chatId (some id) = .live (.shared id) client app' := by
  rw [AppState.clientOf] at h
  rw [AppState.callbackClient, h]

/-- The id of a slot stands for the slot if no shared account of the chat has it. -/
theorem callbackClient_account (h : app.Cached) (hnone : app.data.shared? chatId id = none) :
    app.callbackClient reaches chatId (some id) = app.clientOf reaches chatId (.account id) := by
  have hmissing : app.clientForShared reaches chatId id = .missing := by
    refine (AppState.clientForShared_eq_missing_iff reaches).mpr ⟨?_, ?_⟩
    · rw [Option.eq_none_iff_forall_ne_some]
      intro client hclient
      have hholds := (h chatId (.shared id) client hclient).1
      rw [StoreData.Holds, hnone] at hholds
      cases hholds
    · rw [AppState.parentSlot?]
      rw [StoreData.shared?] at hnone
      rcases haccount : app.data.accounts[chatId]? with - | account
      · rfl
      · rw [haccount, Option.bind_some] at hnone
        rw [Option.bind_some, hnone, Option.bind_none]
  rw [AppState.callbackClient, hmissing, AppState.clientOf]

/-- A shared account in the store hides the slot of its id. -/
theorem not_callbackClient_account (hwf : app.data.WellFormed)
    (hsome : (app.data.shared? chatId id).isSome) {client : Client} {app' : AppState} :
    app.callbackClient reaches chatId (some id) ≠ .live (.account id) client app' := by
  obtain ⟨shared, hshared⟩ := Option.isSome_iff_exists.mp hsome
  obtain ⟨p, hp, hparent⟩ := hwf.parents chatId id shared hshared
  obtain ⟨slot, hslot⟩ := Option.isSome_iff_exists.mp hparent
  -- its parent is connected, so the lookup as a shared account does not miss
  have hstored : app.parentSlot? chatId id = some slot := by
    obtain ⟨account, haccount, hshared⟩ := Option.bind_eq_some_iff.mp hshared
    rw [StoreData.slot?, haccount, Option.bind_some] at hslot
    rw [AppState.parentSlot?, haccount, Option.bind_some, hshared, Option.bind_some,
      Account.resolveParentSlot, hp]
    exact hslot
  have hfound : app.clientForShared reaches chatId id ≠ .missing := by
    rw [Ne, AppState.clientForShared_eq_missing_iff, hstored]
    exact fun h => Option.some_ne_none slot h.2
  intro hlive
  rw [AppState.callbackClient] at hlive
  -- and only a miss falls back to the slot
  rcases heq : app.clientForShared reaches chatId id with - | - | ⟨mailbox, client', app''⟩
  · rw [heq] at hlive
    cases hlive
  · exact hfound heq
  · rw [heq] at hlive
    obtain rfl := AppState.mailbox_clientForShared heq
    cases hlive

/-- The handler reads back the ids of a notification's button, whatever the email's id is. -/
theorem ofData_notification {action : Char} (haction : action ∈ messageActions)
    (hid : target.accountId = some id) (hplain : ':' ∉ id.toList) :
    Tap.ofData (actionCallbackData action target.accountId emailId) =
      .ofAction action target.accountId emailId := by
  refine ofData_actionCallbackData haction (fun id' h => ?_) fun hnone => ?_
  · cases hid.symm.trans h
    exact hplain
  · cases hid.symm.trans hnone

/-! ### Reaching the target -/

/-- The client that an id without a colon stands for is the target's, unless a shared account hides
the slot. -/
theorem reaches_of_not_hidden (h : app.Consistent) (hid : target.accountId = some id)
    (hplain : ':' ∉ id.toList)
    (hseen : target.mailbox = .account id → app.data.shared? chatId id = none) {button : Button}
    (hbutton : MessageButton emailId target.accountId lang button) :
    (Tap.ofData button.callbackData).Reaches app chatId target emailId := by
  have hclient : ∀ (reaches : Client → Bool) (client : Client) (app' : AppState),
      app.clientOf reaches chatId target.mailbox = .live target.mailbox client app' →
      app.callbackClient reaches chatId target.accountId = .live target.mailbox client app' ∧
        client.accountId = target.mailbox.selects := by
    intro reaches client app' hlive
    refine ⟨?_, h.cached.accountId_of_live hlive⟩
    rw [hid]
    obtain hmailbox | hmailbox := mailbox_of_accountId hid
    · rw [callbackClient_account h.cached (hseen hmailbox), ← hmailbox]
      exact hlive
    · rw [hmailbox] at hlive ⊢
      exact callbackClient_shared hlive
  obtain ⟨action, haction, hdata⟩ := hbutton.exists_action
  rw [hdata, ofData_notification haction hid hplain]
  exact Tap.forall_ofAction (fun _ _ => ⟨rfl, rfl⟩) trivial (fun _ => ⟨rfl, hclient⟩) action

/-- A hidden slot is not reached by the buttons that are drawn. -/
theorem not_hidden_of_reaches (h : app.Consistent) (hid : target.accountId = some id)
    (hplain : ':' ∉ id.toList) (hholds : app.data.Holds chatId target.mailbox)
    (hfits : ¬(actionCallbackData 'd' target.accountId emailId).utf8ByteSize >
      telegramCallbackDataMaxLen)
    (hreaches : ∀ button, MessageButton emailId target.accountId lang button →
      (Tap.ofData button.callbackData).Reaches app chatId target emailId)
    (hmailbox : target.mailbox = .account id) : app.data.shared? chatId id = none := by
  by_contra hne
  rw [hmailbox, StoreData.Holds] at hholds
  obtain ⟨slot, hslot⟩ := Option.isSome_iff_exists.mp hholds
  -- every server can be reached, so the slot has a client
  have hexists : ∃ client app', app.clientForAccount (fun _ => true) chatId id =
      .live (.account id) client app' := AppState.exists_clientForAccount hslot (.inr rfl)
  obtain ⟨client, app', hlive⟩ := hexists
  have harchive := hreaches _ (messageButton_archive lang hfits)
  dsimp only at harchive
  rw [ofData_notification (by decide) hid hplain] at harchive
  have hreached := (harchive.2 (fun _ => true) client app' (by rw [hmailbox]; exact hlive)).1
  rw [hid, hmailbox] at hreached
  exact not_callbackClient_account h.wellFormed (Option.isSome_iff_ne_none.mpr hne) hreached

end

/-- **The buttons under a notification reach the account that was notified**, in every reachable
state, if and only if it is a shared account, or no shared account of the chat has the id of its
slot, or the ids are too long for the buttons to be drawn. -/
theorem reaches_iff {config : Config} {lib : Externals} {app : AppState} {chatId : ChatId}
    {target : WatchTarget} {id : String} (emailId : String) (lang : Locale)
    (hreachable : Reachable (BotEvent.step config lib) (.new .empty) app)
    (hid : target.accountId = some id) (hholds : app.data.Holds chatId target.mailbox)
    (hplain : target.mailbox = .shared id → ':' ∉ id.toList) :
    (∀ button, MessageButton emailId target.accountId lang button →
        (Tap.ofData button.callbackData).Reaches app chatId target emailId) ↔
      (actionCallbackData 'd' target.accountId emailId).utf8ByteSize >
          telegramCallbackDataMaxLen ∨
        (target.mailbox = .account id → app.data.shared? chatId id = none) := by
  have h := AppState.consistent_of_reachable hreachable
  have hcolon : ':' ∉ id.toList := by
    obtain hmailbox | hmailbox := mailbox_of_accountId hid
    · rw [hmailbox] at hholds
      exact h.plainIds chatId id hholds
    · exact hplain hmailbox
  -- the archive button is drawn whenever its data fit, and stands for the others
  constructor
  · intro hreaches
    by_cases hlong : (actionCallbackData 'd' target.accountId emailId).utf8ByteSize >
        telegramCallbackDataMaxLen
    · exact .inl hlong
    · exact .inr (not_hidden_of_reaches h hid hcolon hholds hlong hreaches)
  · rintro (hlong | hseen) button hbutton
    · exact absurd hbutton (not_messageButton hlong)
    · exact reaches_of_not_hidden h hid hcolon hseen hbutton

/-! ### A server with an account called `"default"` -/

/-- Chat 1 connects an address and turns on a shared account. -/
def sharingEvents (accountId : String) : List BotEvent :=
  [.command loginCommand, .command (.toggleSharedAccount 1 accountId none sampleAnswers)]

def sharingApp (accountId : String) : AppState :=
  ((AppState.new .empty).exec sampleConfig .concrete loginCommand).exec sampleConfig .concrete
    (.toggleSharedAccount 1 accountId none sampleAnswers)

theorem reachable_sharingApp (accountId : String) :
    Reachable (BotEvent.step sampleConfig .concrete) (.new .empty) (sharingApp accountId) :=
  ⟨sharingEvents accountId, rfl⟩

/-- The buttons under a notification of slot `"default"` act on the shared account of that id. -/
theorem not_reaches_defaultShared :
    Reachable (BotEvent.step sampleConfig .concrete) (.new .empty) (sharingApp "default") ∧
      (sharingApp "default").data.Holds 1 (.account "default") ∧
      ¬∀ button, MessageButton "M1" (WatchTarget.account "default" "a@b.c").accountId .en button →
        (Tap.ofData button.callbackData).Reaches (sharingApp "default") 1
          (.account "default" "a@b.c") "M1" := by
  have hholds : (sharingApp "default").data.Holds 1 (.account "default") :=
    show ((sharingApp "default").data.slot? 1 "default").isSome = true by decide
  refine ⟨reachable_sharingApp "default", hholds, fun h => ?_⟩
  have hnone := not_hidden_of_reaches
    (AppState.consistent_of_reachable (reachable_sharingApp "default")) rfl (by decide) hholds
    (by decide) h rfl
  exact absurd hnone (by decide)

/-- The main result for a shared account of another id. -/
theorem reaches_iff_teamShared :
    (∀ button, MessageButton "M1" (WatchTarget.account "default" "a@b.c").accountId .en button →
        (Tap.ofData button.callbackData).Reaches (sharingApp "team") 1
          (.account "default" "a@b.c") "M1") ↔
      (actionCallbackData 'd' (WatchTarget.account "default" "a@b.c").accountId
          "M1").utf8ByteSize > telegramCallbackDataMaxLen ∨
        ((WatchTarget.account "default" "a@b.c").mailbox = .account "default" →
          (sharingApp "team").data.shared? 1 "default" = none) :=
  reaches_iff "M1" .en (reachable_sharingApp "team") rfl
    (show ((sharingApp "team").data.slot? 1 "default").isSome = true by decide) nofun

end Jmap2Telegram
