import Jmap2Telegram.Bot.Commands
import Jmap2Telegram.Bot.Search

/-!
# The menu of shared accounts

`/shared` (`/partages` in the source) lists the shared accounts every connected slot gives access
to, one button each; a tap turns one on or off. A button carries the id of the account and the slot
it was listed from, `"default"` being left out; the record, the registries and the marks of the menu
know an account by its id alone.

* `ofData_sharedCallbackData`: the handler reads back what a button was given, but for a slot `"p"`.
* `togglesUnder_iff`: a tap turns an account on under the slot it was listed from if and only if
  that slot is named by the button, or is the first one.
* `turnedOff_of_tap`: a tap on any button of an enabled account turns the account off, and changes
  nothing else.
-/

namespace Jmap2Telegram

/-! ### The menu -/

/-- `SharedAccountItem`. -/
structure SharedAccountItem where
  id : String
  name : String
  parentSlot : Option String

/-- The ids and names `list_shared_accounts` finds through a slot; `none` when its server cannot be
reached. -/
abbrev SharedLists := String → AccountSlot → Option (List (String × String))

/-- What `discover_all_shared_accounts` lists from one slot. -/
def discoverFrom (found : SharedLists) (slotId : String) (slot : AccountSlot) :
    List SharedAccountItem :=
  match found slotId slot with
  | some shared =>
    let parentSlot := if slotId = "default" then none else some slotId
    shared.map fun (id, name) => ⟨id, name, parentSlot⟩
  | none => []

/-- `discover_all_shared_accounts`, and whether any server could be reached. The slots come in the
order of their addresses. -/
def discoverAllSharedAccounts (found : SharedLists) (account : Account) :
    List SharedAccountItem × Bool :=
  let slots := account.accounts.toList.mergeSort fun a b => (compare a.2.email b.2.email).isLE
  (slots.flatMap fun (slotId, slot) => discoverFrom found slotId slot,
    slots.any fun (slotId, slot) => (found slotId slot).isSome)

/-- The data of a button of the menu. -/
def sharedCallbackData (parentSlot : Option String) (id : String) : String :=
  match parentSlot with
  | none => "s:" ++ id
  | some slot => "s:" ++ slot ++ ":" ++ id

/-- The mark of a button: whether the account of that id is enabled. -/
def sharedMark (enabled : List String) (id : String) : String :=
  if id ∈ enabled then "🔔" else "🔕"

/-- The button of an item, unless its data is too long. -/
def sharedAccountButton (enabled : List String) (item : SharedAccountItem) : Option Button :=
  let callback := sharedCallbackData item.parentSlot item.id
  if callback.utf8ByteSize > telegramCallbackDataMaxLen then none
  else some ⟨sharedMark enabled item.id ++ " " ++ item.name, callback⟩

/-- `shared_accounts_keyboard`. -/
def sharedAccountsKeyboard (accounts : List SharedAccountItem) (enabled : List String) : Keyboard :=
  accounts.filterMap fun item => (sharedAccountButton enabled item).map fun button => [button]

/-- The menu of a record, as it is drawn first and again after every tap. -/
def partagesKeyboard (found : SharedLists) (account : Account) : Keyboard :=
  sharedAccountsKeyboard (discoverAllSharedAccounts found account).1 account.sharedAccounts.keys

/-- The client `toggle_shared_account` connects, for an account that is not enabled. -/
def toggleClient (account : Account) (accountId : String) (parentSlot : Option String) :
    Option Client :=
  if accountId ∈ account.sharedAccounts then none
  else (AppState.parentFor account parentSlot).map fun (serverUrl, token, _) =>
    ⟨serverUrl, token, some accountId⟩

/-- A tap on a button of the menu. -/
def AppState.tapShared (config : Config) (lib : Externals) (app : AppState) (chatId : ChatId)
    (data : String) (answers : Answers) : AppState :=
  match Tap.ofData data with
  | .toggleShared accountId parentSlot =>
    app.toggleSharedAccount config lib chatId accountId parentSlot answers
  | _ => app

/-! ### The buttons there are -/

section

variable {found : SharedLists} {account : Account} {slotId : String} {slot : AccountSlot}
  {item : SharedAccountItem} {enabled : List String} {button : Button}

/-- Every slot's shared accounts are in the list. -/
theorem mem_discoverAllSharedAccounts (hslot : account.accounts[slotId]? = some slot)
    (hitem : item ∈ discoverFrom found slotId slot) :
    item ∈ (discoverAllSharedAccounts found account).1 :=
  List.mem_flatMap.mpr ⟨(slotId, slot), List.mem_mergeSort.mpr
    (Std.ExtTreeMap.mem_toList_iff_getElem?_eq_some.mpr hslot), hitem⟩

/-- The menu has the buttons of the items. -/
theorem mem_sharedAccountsKeyboard {accounts : List SharedAccountItem} {row : List Button} :
    row ∈ sharedAccountsKeyboard accounts enabled ↔
      ∃ item ∈ accounts, ∃ button, sharedAccountButton enabled item = some button ∧
        row = [button] := by
  simp only [sharedAccountsKeyboard, List.mem_filterMap, Option.map_eq_some_iff]
  grind

/-- An item names the slot it was listed from, unless that is `"default"`. -/
theorem parentSlot_of_mem_discoverFrom (hitem : item ∈ discoverFrom found slotId slot) :
    item.parentSlot = if slotId = "default" then none else some slotId := by
  rw [discoverFrom] at hitem
  split at hitem
  · obtain ⟨entry, -, rfl⟩ := List.mem_map.mp hitem
    rfl
  · cases hitem

/-- A button carries the data of its item, which fits, and shows whether its account is enabled. -/
theorem sharedAccountButton_eq_some_iff : sharedAccountButton enabled item = some button ↔
    ¬(sharedCallbackData item.parentSlot item.id).utf8ByteSize > telegramCallbackDataMaxLen ∧
      button = ⟨sharedMark enabled item.id ++ " " ++ item.name,
        sharedCallbackData item.parentSlot item.id⟩ := by
  rw [sharedAccountButton]
  split
  case isTrue h => simp [h]
  case isFalse h => simp [h, eq_comm]

end

/-! ### What the handler reads -/

/-- A button of the menu has the shape of a button under a message. -/
theorem sharedCallbackData_eq (parentSlot : Option String) (id : String) :
    sharedCallbackData parentSlot id = actionCallbackData 's' parentSlot id := by
  cases parentSlot with
  | none => rfl
  | some slot =>
    rw [sharedCallbackData, actionCallbackData, ← String.toList_inj]
    simp [String.toList_append]

/-- **The handler reads back what a button of the menu was given**, for ids without a colon. A slot
`"p"` is taken for the mark of the primary slot. -/
theorem ofData_sharedCallbackData {parentSlot : Option String} {id : String}
    (hslot : ∀ slot ∈ parentSlot, ':' ∉ slot.toList) (hid : ':' ∉ id.toList) :
    Tap.ofData (sharedCallbackData parentSlot id) =
      .toggleShared id (if parentSlot = some "p" then none else parentSlot) := by
  rw [sharedCallbackData_eq, Tap.ofData, splitn_actionCallbackData (by decide) hslot fun _ => hid]
  cases parentSlot with
  | none => rfl
  | some slot =>
    simp only [Option.some.injEq]
    rfl

/-! ### Turning an account on -/

section

variable {config : Config} {lib : Externals} {app : AppState} {chatId : ChatId} {account : Account}
  {accountId : String} {parentSlot : Option String} {answers : Answers}

/-- The slot a shared account is turned on under is the one it is stored under. -/
theorem shared?_toggleSharedAccount (haccount : app.data.accounts[chatId]? = some account)
    (hoff : accountId ∉ account.sharedAccounts) {serverUrl token p : String}
    (hparent : AppState.parentFor account parentSlot = some (serverUrl, token, p)) :
    ∃ shared, (app.toggleSharedAccount config lib chatId accountId parentSlot answers).data.shared?
      chatId accountId = some shared ∧ shared.parentSlot = some p := by
  have hstored : ((Op.setSharedAccount chatId accountId answers.name (some answers.state)
      (some p)).apply lib app.data).shared? chatId accountId =
        some ⟨answers.name, some answers.state, some p, none⟩ := by
    rw [StoreData.shared?_setSharedAccount (by rw [haccount]; rfl), if_pos ⟨rfl, rfl⟩]
  simp only [AppState.toggleSharedAccount, haccount, if_neg hoff, hparent]
  -- adopting the account at most gives it, or another mailbox, a topic
  obtain h | ⟨s, t, h⟩ | ⟨a, t, h⟩ := AppState.data_adopt config lib
    (app.call lib (.setSharedAccount chatId accountId answers.name (some answers.state) (some p)))
    chatId (.shared accountId) ⟨serverUrl, token, some accountId⟩ answers.created
  · exact ⟨_, by rw [h]; exact hstored, rfl⟩
  · exact ⟨_, by rw [h, StoreData.shared?_setAccountThreadId]; exact hstored, rfl⟩
  · rw [h, StoreData.shared?_setSharedAccountThreadId, AppState.data_call, hstored]
    split
    · exact ⟨_, rfl, rfl⟩
    · exact ⟨_, rfl, rfl⟩

variable (config lib app chatId answers) in
/-- The tap turns the shared account on with the slot's server and token, and stores it under the
slot. -/
def TogglesUnder (accountId slotId : String) (slot : AccountSlot) (tap : Tap) : Prop :=
  ∃ parentSlot, tap = .toggleShared accountId parentSlot ∧
    app.data.accounts[chatId]?.bind (fun account => toggleClient account accountId parentSlot) =
      some ⟨slot.serverUrl, slot.token, some accountId⟩ ∧
    ∃ shared, (app.toggleSharedAccount config lib chatId accountId parentSlot answers).data.shared?
      chatId accountId = some shared ∧ shared.parentSlot = some slotId

/-- A tap turns an account on under the slot whose credentials and id the handler finds. -/
theorem togglesUnder_toggleShared (haccount : app.data.accounts[chatId]? = some account)
    (hoff : accountId ∉ account.sharedAccounts) {slotId : String} {slot : AccountSlot} :
    TogglesUnder config lib app chatId answers accountId slotId slot
        (.toggleShared accountId parentSlot) ↔
      AppState.parentFor account parentSlot = some (slot.serverUrl, slot.token, slotId) := by
  constructor
  · rintro ⟨parentSlot', htap, hclient, shared, hshared, hparent⟩
    cases htap
    rw [haccount, Option.bind_some, toggleClient, if_neg hoff, Option.map_eq_some_iff] at hclient
    obtain ⟨⟨serverUrl, token, p⟩, hfor, heq⟩ := hclient
    cases heq
    have hstored : ∃ shared, (app.toggleSharedAccount config lib chatId accountId parentSlot
        answers).data.shared? chatId accountId = some shared ∧ shared.parentSlot = some p :=
      shared?_toggleSharedAccount haccount hoff hfor
    obtain ⟨shared', hshared', hp⟩ := hstored
    cases hshared.symm.trans hshared'
    cases hp.symm.trans hparent
    exact hfor
  · intro hfor
    refine ⟨parentSlot, rfl, ?_, shared?_toggleSharedAccount haccount hoff hfor⟩
    rw [haccount, Option.bind_some, toggleClient, if_neg hoff, hfor, Option.map_some]

end

/-- The slot is the one that a button listed from it is read as: it is named by the button and not
taken for the mark of the primary slot, or the first slot of the record has its id, its server and
its token. -/
def Account.NamedByButton (account : Account) (slotId : String) (slot : AccountSlot) : Prop :=
  slotId ≠ "default" ∧ slotId ≠ "p" ∨
    ∃ primary, account.primarySlot = some primary ∧ primary.slotId = slotId ∧
      primary.serverUrl = slot.serverUrl ∧ primary.token = slot.token

section

variable {app : AppState} {chatId : ChatId} {account : Account} {found : SharedLists}
  {slotId : String} {slot : AccountSlot} {item : SharedAccountItem}

/-- The slot a button is read as. -/
theorem parentFor_iff (hslot : account.accounts[slotId]? = some slot) :
    AppState.parentFor account (if (if slotId = "default" then none else some slotId) = some "p"
        then none else if slotId = "default" then none else some slotId) =
      some (slot.serverUrl, slot.token, slotId) ↔ account.NamedByButton slotId slot := by
  have hprimary : AppState.parentFor account none = some (slot.serverUrl, slot.token, slotId) ↔
      ∃ primary, account.primarySlot = some primary ∧ primary.slotId = slotId ∧
        primary.serverUrl = slot.serverUrl ∧ primary.token = slot.token := by
    simp only [AppState.parentFor, Option.map_eq_some_iff, Prod.mk.injEq]
    refine exists_congr fun primary => and_congr_right fun _ => ?_
    tauto
  rw [Account.NamedByButton]
  rw [← hprimary]
  by_cases hdefault : slotId = "default"
  · simp [hdefault]
  · by_cases hp : slotId = "p"
    · simp [hp]
    · simp [hdefault, hp, AppState.parentFor, hslot]

variable {config : Config} {lib : Externals} {answers : Answers}
  (haccount : app.data.accounts[chatId]? = some account)
  (hslot : account.accounts[slotId]? = some slot) (hitem : item ∈ discoverFrom found slotId slot)
  (hcolon : ':' ∉ slotId.toList) (hid : ':' ∉ item.id.toList)
include hitem hcolon hid

/-- What the handler reads from the button of an item. -/
theorem ofData_item : Tap.ofData (sharedCallbackData item.parentSlot item.id) =
    .toggleShared item.id (if item.parentSlot = some "p" then none else item.parentSlot) := by
  refine ofData_sharedCallbackData (fun s hs => ?_) hid
  rw [parentSlot_of_mem_discoverFrom hitem] at hs
  split at hs
  · cases hs
  · cases hs
    exact hcolon

include haccount hslot

/-- A tap on the button of an item uses the item's slot exactly when the handler reads it back. -/
theorem togglesUnder_item (hoff : item.id ∉ account.sharedAccounts) :
    TogglesUnder config lib app chatId answers item.id slotId slot
        (Tap.ofData (sharedCallbackData item.parentSlot item.id)) ↔
      account.NamedByButton slotId slot := by
  rw [ofData_item hitem hcolon hid, togglesUnder_toggleShared haccount hoff,
    parentSlot_of_mem_discoverFrom hitem]
  exact parentFor_iff hslot

/-- **A button of the menu uses the slot it was listed from** if and only if the handler reads that
slot back from it, or the button is too long to be drawn. -/
theorem togglesUnder_iff (hoff : item.id ∉ account.sharedAccounts) :
    (∀ button, sharedAccountButton account.sharedAccounts.keys item = some button →
        TogglesUnder config lib app chatId answers item.id slotId slot
          (Tap.ofData button.callbackData)) ↔
      (sharedCallbackData item.parentSlot item.id).utf8ByteSize > telegramCallbackDataMaxLen ∨
        account.NamedByButton slotId slot := by
  have htoggle : TogglesUnder config lib app chatId answers item.id slotId slot
      (Tap.ofData (sharedCallbackData item.parentSlot item.id)) ↔
        account.NamedByButton slotId slot :=
    togglesUnder_item haccount hslot hitem hcolon hid hoff
  rw [← htoggle]
  constructor
  · intro h
    by_cases hlong : (sharedCallbackData item.parentSlot item.id).utf8ByteSize >
        telegramCallbackDataMaxLen
    · exact .inl hlong
    · have hdrawn := h _ (sharedAccountButton_eq_some_iff.mpr ⟨hlong, rfl⟩)
      exact .inr hdrawn
  · rintro (hlong | h) button hbutton
    · exact absurd hlong (sharedAccountButton_eq_some_iff.mp hbutton).1
    · rw [(sharedAccountButton_eq_some_iff.mp hbutton).2]
      exact h

end

/-! ### Turning an account off -/

/-- A shared account of a chat is off: it is gone from the store and from every registry, and
everything else is as it was. -/
structure TurnedOff (app app' : AppState) (chatId : ChatId) (accountId : String) : Prop where
  shared : app'.data.shared? chatId accountId = none
  client : app'.client? chatId (.shared accountId) = none
  watcher : app'.watcher? chatId (.shared accountId) = none
  health : sharedHealthKey chatId accountId ∉ app'.health
  slots : ∀ c s, app'.data.slot? c s = app.data.slot? c s
  otherShared : ∀ c a, ¬(chatId = c ∧ accountId = a) → app'.data.shared? c a = app.data.shared? c a
  otherClients : ∀ c m, ¬(chatId = c ∧ .shared accountId = m) → app'.client? c m = app.client? c m
  otherWatchers : ∀ c m, ¬(chatId = c ∧ .shared accountId = m) →
    app'.watcher? c m = app.watcher? c m
  otherHealth : ∀ key, sharedHealthKey chatId accountId ≠ key → app'.health[key]? = app.health[key]?

section

variable {config : Config} {lib : Externals} {app : AppState} {chatId : ChatId} {account : Account}
  {accountId : String} {parentSlot : Option String} {answers : Answers}

/-- Toggling an enabled account turns it off, whatever slot the button names. -/
theorem turnedOff_toggleSharedAccount (haccount : app.data.accounts[chatId]? = some account)
    (hon : accountId ∈ account.sharedAccounts) :
    TurnedOff app (app.toggleSharedAccount config lib chatId accountId parentSlot answers) chatId
      accountId := by
  simp only [AppState.toggleSharedAccount, haccount, if_pos hon]
  constructor
  · rw [AppState.data_call, StoreData.shared?_removeSharedAccount, if_pos ⟨rfl, rfl⟩]
  · rw [AppState.client?_call, AppState.forgetShared, AppState.client?_forgetMailbox,
      if_pos ⟨rfl, rfl⟩]
  · rw [AppState.watcher?_call, AppState.forgetShared, AppState.watcher?_forgetMailbox,
      if_pos ⟨rfl, rfl⟩]
  · rw [AppState.call, AppState.forgetShared, AppState.health_forgetMailbox]
    simp [Health.deregister, Mailbox.healthKey]
  · intro c s
    rw [AppState.data_call, StoreData.slot?_removeSharedAccount, AppState.data_forgetShared]
  · intro c a hne
    rw [AppState.data_call, StoreData.shared?_removeSharedAccount, if_neg hne,
      AppState.data_forgetShared]
  · intro c m hne
    rw [AppState.client?_call, AppState.forgetShared, AppState.client?_forgetMailbox, if_neg hne]
  · intro c m hne
    rw [AppState.watcher?_call, AppState.forgetShared, AppState.watcher?_forgetMailbox,
      if_neg hne]
  · intro key hne
    rw [AppState.call, AppState.forgetShared, AppState.health_forgetMailbox, Mailbox.healthKey,
      Health.deregister, Map.getElem?_erase, if_neg hne]

/-- The record without an account shows every button of that id as off. -/
theorem label_of_not_mem {item : SharedAccountItem} {button : Button}
    (hoff : item.id ∉ account.sharedAccounts)
    (hbutton : sharedAccountButton account.sharedAccounts.keys item = some button) :
    button.label = "🔕" ++ " " ++ item.name := by
  rw [(sharedAccountButton_eq_some_iff.mp hbutton).2, sharedMark, if_neg]
  rwa [Std.ExtTreeMap.mem_keys]

/-- **A tap on any button of an enabled account turns the account off**, whichever slot the button
was listed from, and changes nothing else; the menu then shows every button of that id as off. -/
theorem turnedOff_of_tap {found : SharedLists} {slotId : String} {slot : AccountSlot}
    {item : SharedAccountItem} {button : Button}
    (haccount : app.data.accounts[chatId]? = some account)
    (hslot : account.accounts[slotId]? = some slot) (hitem : item ∈ discoverFrom found slotId slot)
    (hcolon : ':' ∉ slotId.toList) (hid : ':' ∉ item.id.toList)
    (hon : item.id ∈ account.sharedAccounts)
    (hbutton : sharedAccountButton account.sharedAccounts.keys item = some button) :
    [button] ∈ partagesKeyboard found account ∧
      TurnedOff app (app.tapShared config lib chatId button.callbackData answers) chatId item.id ∧
      ∃ account', (app.tapShared config lib chatId button.callbackData answers).data.accounts[
          chatId]? = some account' ∧
        ∀ item' button', item'.id = item.id →
          sharedAccountButton account'.sharedAccounts.keys item' = some button' →
            button'.label = "🔕" ++ " " ++ item'.name := by
  have htap : app.tapShared config lib chatId button.callbackData answers =
      app.toggleSharedAccount config lib chatId item.id
        (if item.parentSlot = some "p" then none else item.parentSlot) answers := by
    rw [AppState.tapShared, (sharedAccountButton_eq_some_iff.mp hbutton).2,
      ofData_item hitem hcolon hid]
  rw [htap]
  refine ⟨?_, turnedOff_toggleSharedAccount haccount hon, ?_⟩
  · exact mem_sharedAccountsKeyboard.mpr
      ⟨item, mem_discoverAllSharedAccounts hslot hitem, button, hbutton, rfl⟩
  · -- the record is still there, without the account
    have hrecord : (app.toggleSharedAccount config lib chatId item.id
        (if item.parentSlot = some "p" then none else item.parentSlot) answers).data.accounts[
          chatId]? =
        some { account with sharedAccounts := account.sharedAccounts.erase item.id } := by
      simp only [AppState.toggleSharedAccount, haccount, if_pos hon, AppState.data_call,
        AppState.data_forgetShared, Op.apply, Op.lockedSection, Store.removeSharedAccount]
      obtain ⟨shared, hshared⟩ := Map.mem_iff_exists.mp hon
      rw [StoreData.shared?, haccount, Option.bind_some, hshared, StoreData.getElem?_modify,
        if_pos rfl, haccount, Option.map_some]
    refine ⟨_, hrecord, fun item' button' hsame hbutton' => label_of_not_mem ?_ hbutton'⟩
    simp [hsame]

end

/-! ### Two slots with a shared account each -/

/-- The record of chat 1 connected through two slots. -/
def twoSlotAccount : Account :=
  { Account.empty with accounts :=
    ((∅ : Map String AccountSlot).insert "default" sampleSlot).insert "abc12345" earlySlot }

/-- Every server lists one shared account. -/
def teamEverywhere : SharedLists := fun _ _ => some [("team", "Team")]

def teamAnswers : Answers := ⟨"a@b.c", "Team", "s1", sampleSlotId, none⟩

/-- The shared account listed from slot `"default"` is turned on under the other slot. -/
theorem not_togglesUnder_twoSlotAccount :
    ¬∀ button, sharedAccountButton twoSlotAccount.sharedAccounts.keys ⟨"team", "Team", none⟩ =
        some button →
      TogglesUnder ⟨.auto, .parent⟩ .concrete (.new twoSlotData) 1 teamAnswers "team" "default"
        sampleSlot (Tap.ofData button.callbackData) := by
  intro h
  have hitem : ⟨"team", "Team", none⟩ ∈ discoverFrom teamEverywhere "default" sampleSlot :=
    List.mem_singleton_self _
  have htoggle := h _ (sharedAccountButton_eq_some_iff.mpr ⟨by decide, rfl⟩)
  obtain ⟨hne, -⟩ | ⟨primary, hprimary, hid, -⟩ := (togglesUnder_item
    (show (AppState.new twoSlotData).data.accounts[(1 : ChatId)]? = some twoSlotAccount by decide)
    (show twoSlotAccount.accounts["default"]? = some sampleSlot by decide) hitem (by decide)
    (by decide) (by decide)).mp htoggle
  · exact hne rfl
  · have hearly : twoSlotAccount.primarySlot = some earlySlot := by decide
    cases hearly.symm.trans hprimary
    exact absurd hid (by decide)

/-- The main result for the shared account listed from the other slot. -/
theorem togglesUnder_iff_earlySlot :
    (∀ button, sharedAccountButton twoSlotAccount.sharedAccounts.keys
          ⟨"team", "Team", some "abc12345"⟩ = some button →
        TogglesUnder ⟨.auto, .parent⟩ .concrete (.new twoSlotData) 1 teamAnswers "team"
          "abc12345" earlySlot (Tap.ofData button.callbackData)) ↔
      (sharedCallbackData (some "abc12345") "team").utf8ByteSize > telegramCallbackDataMaxLen ∨
        twoSlotAccount.NamedByButton "abc12345" earlySlot := by
  have hitem : ⟨"team", "Team", some "abc12345"⟩ ∈
      discoverFrom teamEverywhere "abc12345" earlySlot := List.mem_singleton_self _
  exact togglesUnder_iff
    (show (AppState.new twoSlotData).data.accounts[(1 : ChatId)]? = some twoSlotAccount by decide)
    (show twoSlotAccount.accounts["abc12345"]? = some earlySlot by decide) hitem (by decide)
    (by decide) (by decide)

/-- The record with the shared account of the first server on. -/
def teamAccount : Account :=
  { twoSlotAccount with sharedAccounts :=
    (∅ : Map String SharedAccount).insert "team" ⟨"Team", some "s7", some "default", none⟩ }

/-- Chat 1 with that record, and the watcher of the account. -/
def teamApp : AppState :=
  (AppState.new ⟨(∅ : Map ChatId Account).insert 1 teamAccount⟩).insertWatcher 1
    ⟨"https://jmap.example.org/session", "s3cr3t-token", some "team"⟩ (.shared "team")

/-- A tap leaves a shared account as it is: its entry in the store, with its cursor and its parent
slot, and its watcher. -/
def LeavesShared (app app' : AppState) (chatId : ChatId) (accountId : String) : Prop :=
  app'.data.shared? chatId accountId = app.data.shared? chatId accountId ∧
    app'.watcher? chatId (.shared accountId) = app.watcher? chatId (.shared accountId)

/-- The account of the same id on the second server has a button that turns the first one's off. -/
theorem not_leavesShared_teamApp :
    ¬∀ button, sharedAccountButton teamAccount.sharedAccounts.keys
        ⟨"team", "Team", some "abc12345"⟩ = some button →
      LeavesShared teamApp
        (teamApp.tapShared ⟨.auto, .parent⟩ .concrete 1 button.callbackData teamAnswers) 1
        "team" := by
  intro h
  have hitem : ⟨"team", "Team", some "abc12345"⟩ ∈
      discoverFrom teamEverywhere "abc12345" earlySlot := List.mem_singleton_self _
  obtain ⟨hsame, -⟩ := h _ (sharedAccountButton_eq_some_iff.mpr ⟨by decide, rfl⟩)
  rw [AppState.tapShared, ofData_item hitem (by decide) (by decide)] at hsame
  dsimp only at hsame
  rw [(turnedOff_toggleSharedAccount
    (show teamApp.data.accounts[(1 : ChatId)]? = some teamAccount by decide) (by decide)).shared]
    at hsame
  exact absurd hsame (by decide)

/-- The main result for that button. -/
theorem turnedOff_of_tap_teamApp :
    [⟨sharedMark teamAccount.sharedAccounts.keys "team" ++ " " ++ "Team",
        sharedCallbackData (some "abc12345") "team"⟩] ∈
          partagesKeyboard teamEverywhere teamAccount ∧
      TurnedOff teamApp (teamApp.tapShared ⟨.auto, .parent⟩ .concrete 1
        (sharedCallbackData (some "abc12345") "team") teamAnswers) 1 "team" ∧
      ∃ account', (teamApp.tapShared ⟨.auto, .parent⟩ .concrete 1
          (sharedCallbackData (some "abc12345") "team") teamAnswers).data.accounts[(1 : ChatId)]? =
            some account' ∧
        ∀ item' button', item'.id = "team" →
          sharedAccountButton account'.sharedAccounts.keys item' = some button' →
            button'.label = "🔕" ++ " " ++ item'.name := by
  have hitem : ⟨"team", "Team", some "abc12345"⟩ ∈
      discoverFrom teamEverywhere "abc12345" earlySlot := List.mem_singleton_self _
  exact turnedOff_of_tap
    (show teamApp.data.accounts[(1 : ChatId)]? = some teamAccount by decide)
    (show teamAccount.accounts["abc12345"]? = some earlySlot by decide) hitem (by decide)
    (by decide) (by decide) (sharedAccountButton_eq_some_iff.mpr ⟨by decide, rfl⟩)

end Jmap2Telegram
