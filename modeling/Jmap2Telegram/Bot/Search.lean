import Jmap2Telegram.Bot.Keyboard
import Jmap2Telegram.Watcher.Target

/-!
# The buttons under a search result

`/search` (`/rechercher` in the source) draws each result with the action keyboard of a
notification. The account the buttons carry is left out for slot `"default"` and is the slot's id
otherwise; on a tap, a missing account is read as the chat's primary slot, and an id as a shared
account's first.

* `actsOn_iff`: the buttons act on the slot the result came from if and only if these two readings
  find that slot, or the buttons do not fit and are not drawn.
-/

namespace Jmap2Telegram

/-- The account the buttons under a result carry, by the slot it was found in. -/
def btnAccountId (slotId : String) : Option String :=
  if slotId = "default" then none else some slotId

/-- The keyboard `cmd_rechercher` draws under a result. -/
def resultKeyboard (slot : AccountSlot) (emailId : String) (lang : Locale) : Keyboard :=
  notificationKeyboard emailId (btnAccountId slot.slotId) false false lang

/-- A button of one of the keyboards that are drawn under a message, from the first one on: its
menu folded or unfolded, read or unread, or the offer to undo. -/
def MessageButton (emailId : String) (accountId : Option String) (lang : Locale)
    (button : Button) : Prop :=
  (∃ alreadyRead expanded,
    button ∈ (notificationKeyboard emailId accountId alreadyRead expanded lang).flatten) ∨
    button ∈ (undoKeyboard emailId accountId lang).flatten

/-- The buttons under a result are among them. -/
theorem messageButton_of_mem_resultKeyboard {slot : AccountSlot} {emailId : String}
    {lang : Locale} {button : Button}
    (h : button ∈ (resultKeyboard slot emailId lang).flatten) :
    MessageButton emailId (btnAccountId slot.slotId) lang button :=
  .inl ⟨false, false, h⟩

namespace Tap

/-- The tap acts on the email with the client of the slot and of no other mailbox, or it only draws
another keyboard under the same message, or says that the email is read. -/
def ActsOn (app : AppState) (reaches : Client → Bool) (chatId : ChatId) (slotId emailId : String) :
    Tap → Prop
  | act _ accountId email => email = emailId ∧
    ∃ client app', app.callbackClient reaches chatId accountId = .live (.account slotId) client app'
  | redraw accountId email _ _ => email = emailId ∧ accountId = btnAccountId slotId
  | alreadyRead => True
  | _ => False

end Tap

/-- The slot is the one that the buttons of its results are read as: `"default"` is the primary
slot, and there is no shared account of another slot's id, cached or stored with a connected
parent. -/
def AppState.ReadsBack (app : AppState) (chatId : ChatId) (slotId : String) : Prop :=
  if slotId = "default" then
    ∀ s, (app.data.slot? chatId s).isSome → (compare "default" s).isLE
  else
    app.client? chatId (.shared slotId) = none ∧ app.parentSlot? chatId slotId = none

/-! ### The keyboards fit together -/

section

variable {emailId : String} {accountId : Option String} {lang : Locale} {button : Button}

/-- The letter of an action is one byte. -/
theorem utf8ByteSize_actionCallbackData {action action' : Char}
    (h : action.utf8Size = action'.utf8Size) :
    (actionCallbackData action accountId emailId).utf8ByteSize =
      (actionCallbackData action' accountId emailId).utf8ByteSize := by
  cases accountId <;> simp [actionCallbackData, h]

/-- Every button under a message carries one of the letters, the account and the email. -/
theorem MessageButton.exists_action (h : MessageButton emailId accountId lang button) :
    ∃ action ∈ messageActions,
      button.callbackData = actionCallbackData action accountId emailId := by
  obtain ⟨alreadyRead, expanded, h⟩ | h := h
  · exact exists_of_mem_notificationKeyboard h
  · rw [undoKeyboard] at h
    split at h
    · cases h
    · rw [List.flatten_cons, List.flatten_nil, List.append_nil, List.mem_singleton] at h
      rw [h]
      exact ⟨'u', by decide, rfl⟩

/-- No button is drawn when the ids are too long. -/
theorem not_messageButton
    (h : (actionCallbackData 'd' accountId emailId).utf8ByteSize > telegramCallbackDataMaxLen) :
    ¬MessageButton emailId accountId lang button := by
  rintro (⟨alreadyRead, expanded, hmem⟩ | hmem)
  · rw [notificationKeyboard, if_pos h] at hmem
    cases hmem
  · rw [undoKeyboard, if_pos] at hmem
    · cases hmem
    · rwa [utf8ByteSize_actionCallbackData (show 'u'.utf8Size = 'd'.utf8Size from rfl)]

/-- Else there is a button that archives. -/
theorem messageButton_archive (lang : Locale)
    (h : ¬(actionCallbackData 'd' accountId emailId).utf8ByteSize > telegramCallbackDataMaxLen) :
    MessageButton emailId accountId lang
      ⟨Buttons.archive lang, actionCallbackData 'a' accountId emailId⟩ := by
  refine .inl ⟨false, false, ?_⟩
  rw [notificationKeyboard, if_neg h]
  exact List.mem_flatten.mpr ⟨_, List.mem_singleton_self _, List.mem_cons_self⟩

end

/-! ### Which client a tap finds -/

section

variable {app : AppState} {reaches : Client → Bool} {chatId : ChatId} {slotId : String}
  {slot : AccountSlot}

/-- A connected slot is primary if its id is the least. -/
theorem primarySlot_eq_iff {account : Account}
    (haccount : app.data.accounts[chatId]? = some account)
    (hkeyed : ∀ s slot, app.data.slot? chatId s = some slot → slot.slotId = s)
    (hslot : app.data.slot? chatId slotId = some slot) :
    (∃ primary, account.primarySlot = some primary ∧ primary.slotId = slotId) ↔
      ∀ s, (app.data.slot? chatId s).isSome → (compare slotId s).isLE := by
  have hstored : ∀ s, app.data.slot? chatId s = account.accounts[s]? := fun s => by
    rw [StoreData.slot?, haccount, Option.bind_some]
  have hmem : ∀ s, (app.data.slot? chatId s).isSome ↔ s ∈ account.accounts := fun s => by
    rw [hstored, Std.ExtTreeMap.isSome_getElem?_iff_mem]
  simp only [hmem]
  -- the primary slot is the one under the least key
  rw [Account.primarySlot_eq]
  constructor
  · rintro ⟨primary, hprimary, hid⟩
    obtain ⟨key, hkey, hget⟩ := Option.bind_eq_some_iff.mp hprimary
    have heq : key = slotId := by rw [← hid, hkeyed key primary ((hstored key).trans hget)]
    rw [heq] at hkey
    exact (Std.ExtTreeMap.minKey?_eq_some_iff_mem_and_forall.mp hkey).2
  · intro hleast
    have hmin : account.accounts.minKey? = some slotId :=
      Std.ExtTreeMap.minKey?_eq_some_iff_mem_and_forall.mpr
        ⟨(hmem slotId).mp (by simp [hslot]), hleast⟩
    rw [hmin, Option.bind_some, ← hstored, hslot]
    exact ⟨slot, rfl, hkeyed slotId slot hslot⟩

/-- A tap under a result finds the client of the result's slot exactly when the slot reads back. -/
theorem callbackClient_iff
    (hkeyed : ∀ s slot, app.data.slot? chatId s = some slot → slot.slotId = s)
    (hslot : app.data.slot? chatId slotId = some slot)
    (hreach : (app.client? chatId (.account slotId)).isSome ∨
      reaches ⟨slot.serverUrl, slot.token, none⟩ = true) :
    (∃ client app', app.callbackClient reaches chatId (btnAccountId slotId) =
      .live (.account slotId) client app') ↔ app.ReadsBack chatId slotId := by
  rw [btnAccountId, AppState.ReadsBack]
  split
  -- a button without an id finds the primary slot
  case isTrue hdefault =>
    subst hdefault
    obtain ⟨account, haccount, -⟩ := Option.bind_eq_some_iff.mp hslot
    rw [← primarySlot_eq_iff haccount hkeyed hslot]
    rw [AppState.callbackClient, AppState.clientFor, haccount, Option.bind_some]
    constructor
    · rintro ⟨client, app', hlive⟩
      split at hlive
      · cases hlive
      case _ primary hprimary =>
        have hid := AppState.mailbox_clientForAccount hlive
        exact ⟨primary, hprimary, (Mailbox.account.inj hid).symm⟩
    · rintro ⟨primary, hprimary, hid⟩
      rw [hprimary]
      dsimp only
      rw [hid]
      exact AppState.exists_clientForAccount hslot hreach
  -- a button with one finds the slot unless a shared account has the id
  case isFalse =>
    rw [← AppState.clientForShared_eq_missing_iff reaches, AppState.callbackClient]
    rcases hshared : app.clientForShared reaches chatId slotId with - | - | ⟨mailbox, client, app'⟩
    · simp
    · simpa using AppState.exists_clientForAccount hslot hreach
    · obtain rfl := AppState.mailbox_clientForShared hshared
      simp

end

section

variable {app : AppState} {reaches : Client → Bool} {chatId : ChatId} {slotId emailId : String}
  {slot : AccountSlot} {lang : Locale}
  (hkeyed : ∀ s slot, app.data.slot? chatId s = some slot → slot.slotId = s)
  (hslot : app.data.slot? chatId slotId = some slot)
  (hreach : (app.client? chatId (.account slotId)).isSome ∨
    reaches ⟨slot.serverUrl, slot.token, none⟩ = true)
  (hid : ':' ∉ slotId.toList) (hemail : ':' ∉ emailId.toList)
include hkeyed hslot hreach hid hemail

omit hkeyed hslot hreach in
/-- What a tap on a button of a result does, read back from the button's letter. -/
theorem ofData_result {action : Char} (haction : action ∈ messageActions) :
    Tap.ofData (actionCallbackData action (btnAccountId slotId) emailId) =
      .ofAction action (btnAccountId slotId) emailId := by
  refine ofData_actionCallbackData haction (fun id h => ?_) fun _ => hemail
  rw [btnAccountId] at h
  split at h
  · cases h
  · cases h
    exact hid

/-- Drawn buttons act on the result's slot only if it reads back. -/
theorem readsBack_of_actsOn
    (hfits : ¬(actionCallbackData 'd' (btnAccountId slotId) emailId).utf8ByteSize >
      telegramCallbackDataMaxLen)
    (h : ∀ button, MessageButton emailId (btnAccountId slotId) lang button →
      (Tap.ofData button.callbackData).ActsOn app reaches chatId slotId emailId) :
    app.ReadsBack chatId slotId := by
  have harchive := h _ (messageButton_archive lang hfits)
  dsimp only at harchive
  rw [ofData_result hid hemail (by decide)] at harchive
  exact (callbackClient_iff hkeyed hslot hreach).mp harchive.2

/-- If the slot reads back, then every button acts on it. -/
theorem actsOn_of_readsBack (h : app.ReadsBack chatId slotId) {button : Button}
    (hbutton : MessageButton emailId (btnAccountId slotId) lang button) :
    (Tap.ofData button.callbackData).ActsOn app reaches chatId slotId emailId := by
  obtain ⟨action, haction, hdata⟩ := hbutton.exists_action
  have hclient := (callbackClient_iff hkeyed hslot hreach).mpr h
  rw [hdata, ofData_result hid hemail haction]
  exact Tap.forall_ofAction (fun _ _ => ⟨rfl, rfl⟩) trivial (fun _ => ⟨rfl, hclient⟩) action

end

/-- **The buttons under a search result act on the mailbox it came from** if and only if the slot of
the result reads back from them, or its ids are too long for the buttons to be drawn. -/
theorem actsOn_iff {app : AppState} {reaches : Client → Bool} {chatId : ChatId}
    {slotId emailId : String} {slot : AccountSlot} {lang : Locale}
    (hkeyed : ∀ s slot, app.data.slot? chatId s = some slot → slot.slotId = s)
    (hslot : app.data.slot? chatId slotId = some slot)
    (hreach : (app.client? chatId (.account slotId)).isSome ∨
      reaches ⟨slot.serverUrl, slot.token, none⟩ = true)
    (hid : ':' ∉ slotId.toList) (hemail : ':' ∉ emailId.toList) :
    (∀ button, MessageButton emailId (btnAccountId slot.slotId) lang button →
        (Tap.ofData button.callbackData).ActsOn app reaches chatId slotId emailId) ↔
      (actionCallbackData 'd' (btnAccountId slotId) emailId).utf8ByteSize >
          telegramCallbackDataMaxLen ∨
        app.ReadsBack chatId slotId := by
  rw [hkeyed slotId slot hslot]
  constructor
  · intro h
    by_cases hlong : (actionCallbackData 'd' (btnAccountId slotId) emailId).utf8ByteSize >
        telegramCallbackDataMaxLen
    · exact .inl hlong
    · exact .inr (readsBack_of_actsOn hkeyed hslot hreach hid hemail hlong h)
  · rintro (hlong | hback) button hbutton
    · exact absurd hbutton (not_messageButton hlong)
    · exact actsOn_of_readsBack hkeyed hslot hreach hid hemail hback hbutton

/-! ### Two slots -/

/-- A slot whose generated id sorts before `"default"`. -/
def earlySlot : AccountSlot :=
  ⟨"abc12345", "https://jmap.other.example/session", "other-token", "b@b.c", none, none⟩

/-- Chat 1, connected through its default slot and through the early one. -/
def twoSlotData : StoreData := ⟨(∅ : Map ChatId Account).insert 1
  { Account.empty with accounts :=
    ((∅ : Map String AccountSlot).insert "default" sampleSlot).insert "abc12345" earlySlot }⟩

theorem slot?_twoSlotData {s : String} {slot : AccountSlot}
    (h : twoSlotData.slot? 1 s = some slot) : slot.slotId = s := by
  rw [StoreData.slot?, twoSlotData, Map.getElem?_insert, if_pos rfl, Option.bind_some,
    Map.getElem?_insert, Map.getElem?_insert] at h
  split_ifs at h with hearly hdefault
  · cases h
    exact hearly
  · cases h
    exact hdefault
  · simp at h

theorem slot?_twoSlotData_default : twoSlotData.slot? 1 "default" = some sampleSlot := by decide

/-- The buttons under a message found in slot `"default"` act on the other slot. -/
theorem not_actsOn_twoSlotData :
    ¬∀ button, MessageButton "M1" (btnAccountId sampleSlot.slotId) .en button →
      (Tap.ofData button.callbackData).ActsOn (.new twoSlotData) (fun _ => true) 1 "default"
        "M1" := by
  intro h
  have hback := readsBack_of_actsOn (fun s slot => slot?_twoSlotData) slot?_twoSlotData_default
    (.inr rfl) (by decide) (by decide) (by decide) h
  exact absurd (hback "abc12345" (by decide)) (by decide)

/-- The main result for a message of the other slot. -/
theorem actsOn_iff_earlySlot :
    (∀ button, MessageButton "M1" (btnAccountId earlySlot.slotId) .en button →
        (Tap.ofData button.callbackData).ActsOn (.new twoSlotData) (fun _ => true) 1 "abc12345"
          "M1") ↔
      (actionCallbackData 'd' (btnAccountId "abc12345") "M1").utf8ByteSize >
          telegramCallbackDataMaxLen ∨
        (AppState.new twoSlotData).ReadsBack 1 "abc12345" :=
  actsOn_iff (fun s slot => slot?_twoSlotData) (by decide) (.inr rfl) (by decide) (by decide)

end Jmap2Telegram
