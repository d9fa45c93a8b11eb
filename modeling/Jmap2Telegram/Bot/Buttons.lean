import Jmap2Telegram.Bot.Sharing

/-!
# What the buttons carry

The keyboards that `format.rs` builds and the handler in `bot.rs` that reads their data back, for
all of them together: the two layouts under a notification, the offer to undo, and the menu of
shared accounts. The data of a button has a letter, at most one id in the middle, and an id at the
end.

* `draws_notificationKeyboard`, `draws_undoKeyboard`: a keyboard under a message has all of its
  buttons, or none when one of them would be too long.
* `asks_of_callbackData`: what the handler reads from a button under a message.
* `readsBack_buttons`: every button fits, and asks for what it was drawn for.
-/

namespace Jmap2Telegram

/-! ### What is drawn and what is read -/

/-- The letters of a notification's keyboard, from row to row. -/
def notificationActions (alreadyRead expanded : Bool) : List Char :=
  if expanded then
    ['f', if alreadyRead then 'n' else 'r', 'a', 'j', 'd', if alreadyRead then 'C' else 'c']
  else ['a', 'd', if alreadyRead then 'E' else 'e']

/-- Telegram takes the button's data. -/
def Button.Fits (button : Button) : Prop :=
  button.callbackData.utf8ByteSize ≤ telegramCallbackDataMaxLen

/-- A keyboard has one button for each of the letters, or none, and none when a button of it would
not fit. -/
structure Keyboard.Draws (keyboard : Keyboard) (actions : List Char) (accountId : Option String)
    (emailId : String) : Prop where
  eq_nil_iff : keyboard = [] ↔ ∃ action ∈ actions,
    (actionCallbackData action accountId emailId).utf8ByteSize > telegramCallbackDataMaxLen
  buttons : keyboard ≠ [] → keyboard.flatten.map Button.callbackData =
    actions.map fun action => actionCallbackData action accountId emailId

/-- A button under a message fits, is cut into its letter, its account and its email, and is read as
what its letter stands for. -/
structure Button.Asks (button : Button) (action : Char) (accountId : Option String)
    (emailId : String) : Prop where
  fits : button.Fits
  parts : Str.splitn (fun c => c == ':') 3 button.callbackData =
    String.singleton action :: (accountId.toList ++ [emailId])
  tap : Tap.ofData button.callbackData = .ofAction action accountId emailId

/-- The ids of an item of the menu can be told apart again in the data of its button. -/
def SharedAccountItem.Separable (item : SharedAccountItem) : Prop :=
  ':' ∉ item.id.toList ∧ ∀ slot ∈ item.parentSlot, ':' ∉ slot.toList ∧ slot ≠ "p"

/-- The bytes the button of an item needs: its letter, and its ids behind a colon each. -/
def SharedAccountItem.dataSize (item : SharedAccountItem) : ℕ :=
  match item.parentSlot with
  | none => 1 + (1 + item.id.utf8ByteSize)
  | some slot => 1 + (1 + slot.utf8ByteSize) + (1 + item.id.utf8ByteSize)

/-- What is drawn of an item: nothing exactly when its button would not fit, and else a button that
is read as the item's own toggle, under the slot the item names. -/
structure SharedAccountItem.Draws (item : SharedAccountItem) (drawn : Option Button) : Prop where
  eq_none_iff : drawn = none ↔ telegramCallbackDataMaxLen < item.dataSize
  fits : ∀ button ∈ drawn, button.Fits
  tap : item.Separable → ∀ button ∈ drawn,
    Tap.ofData button.callbackData = .toggleShared item.id item.parentSlot

/-! ### Under a message -/

section

variable {emailId : String} {accountId : Option String} {alreadyRead expanded : Bool}
  {lang : Locale} {button : Button} {action : Char} {actions : List Char} {keyboard : Keyboard}

/-- The actions on a keyboard are among those of a message. -/
theorem subset_messageActions (alreadyRead expanded : Bool) :
    notificationActions alreadyRead expanded ⊆ messageActions := by
  revert alreadyRead expanded
  decide

/-- The letters of a keyboard need one byte each, so that the buttons are all of one length. -/
theorem utf8Size_of_mem_messageActions (haction : action ∈ messageActions) :
    action.utf8Size = 'd'.utf8Size := by
  revert action
  decide

/-- A keyboard that tests one letter's length tests that of all its buttons. -/
theorem draws_of_test (hactions : actions ⊆ messageActions) (haction : action ∈ actions)
    (hne : keyboard ≠ [])
    (hbuttons : keyboard.flatten.map Button.callbackData =
      actions.map fun action => actionCallbackData action accountId emailId) :
    Keyboard.Draws
      (if (actionCallbackData action accountId emailId).utf8ByteSize > telegramCallbackDataMaxLen
        then [] else keyboard) actions accountId emailId := by
  have hsize : ∀ action' ∈ actions, (actionCallbackData action' accountId emailId).utf8ByteSize =
      (actionCallbackData action accountId emailId).utf8ByteSize := by
    intro action' haction'
    have h := utf8Size_of_mem_messageActions (hactions haction)
    have h' := utf8Size_of_mem_messageActions (hactions haction')
    exact utf8ByteSize_actionCallbackData (h'.trans h.symm)
  constructor
  · constructor
    · intro hempty
      refine ⟨action, haction, ?_⟩
      by_contra hfits
      rw [if_neg hfits] at hempty
      exact hne hempty
    · rintro ⟨action', haction', hlong⟩
      rw [hsize action' haction'] at hlong
      exact if_pos hlong
  · intro hdrawn
    split
    case isTrue hlong => exact absurd (if_pos hlong) hdrawn
    case isFalse => exact hbuttons

/-- **A notification's keyboard is empty exactly when a button of it would be too long.** -/
theorem draws_notificationKeyboard :
    (notificationKeyboard emailId accountId alreadyRead expanded lang).Draws
      (notificationActions alreadyRead expanded) accountId emailId := by
  have hmem : 'd' ∈ notificationActions alreadyRead expanded := by
    revert alreadyRead expanded
    decide
  rw [notificationKeyboard]
  refine draws_of_test (subset_messageActions alreadyRead expanded) hmem ?_ ?_
  · cases expanded <;> simp
  · cases expanded <;> cases alreadyRead <;> rfl

/-- **The offer to undo is not made exactly when its button would be too long.** -/
theorem draws_undoKeyboard :
    (undoKeyboard emailId accountId lang).Draws ['u'] accountId emailId :=
  draws_of_test (by decide) (List.mem_singleton_self _) (by simp) rfl

/-- The buttons of a keyboard that draws letters carry those letters, and fit. -/
theorem Keyboard.Draws.exists_action (h : keyboard.Draws actions accountId emailId)
    (hbutton : button ∈ keyboard.flatten) :
    ∃ action ∈ actions, button.callbackData = actionCallbackData action accountId emailId ∧
      button.Fits := by
  have hne : keyboard ≠ [] := by
    rintro rfl
    cases hbutton
  have hmem := List.mem_map_of_mem (f := Button.callbackData) hbutton
  rw [h.buttons hne] at hmem
  obtain ⟨action, haction, hdata⟩ := List.mem_map.mp hmem
  refine ⟨action, haction, hdata.symm, ?_⟩
  rw [Button.Fits, ← hdata]
  by_contra hlong
  exact hne (h.eq_nil_iff.mpr ⟨action, haction, Nat.lt_of_not_le hlong⟩)

/-- What the handler reads from a button under a message. -/
theorem asks_of_callbackData (haction : action ∈ messageActions)
    (hid : ∀ id ∈ accountId, ':' ∉ id.toList) (hemail : accountId = none → ':' ∉ emailId.toList)
    (hdata : button.callbackData = actionCallbackData action accountId emailId)
    (hfits : button.Fits) : button.Asks action accountId emailId where
  fits := hfits
  parts := by
    have hcolon : action ≠ ':' := by
      rintro rfl
      exact absurd haction (by decide)
    rw [hdata]
    exact splitn_actionCallbackData hcolon hid hemail
  tap := by
    rw [hdata]
    exact ofData_actionCallbackData haction hid hemail

/-- The buttons of a keyboard that draws letters ask for what the letters stand for. -/
theorem Keyboard.Draws.asks (h : keyboard.Draws actions accountId emailId)
    (hactions : actions ⊆ messageActions) (hid : ∀ id ∈ accountId, ':' ∉ id.toList)
    (hemail : accountId = none → ':' ∉ emailId.toList) (hbutton : button ∈ keyboard.flatten) :
    ∃ action ∈ actions, button.Asks action accountId emailId := by
  obtain ⟨action, haction, hdata, hfits⟩ := h.exists_action hbutton
  exact ⟨action, haction, asks_of_callbackData (hactions haction) hid hemail hdata hfits⟩

end

/-! ### The menu of shared accounts -/

section

variable {accounts : List SharedAccountItem} {enabled : List String} {item : SharedAccountItem}
  {button : Button}

/-- A tap on the button of an item asks for that item, under the slot it names. -/
theorem ofData_separable (h : item.Separable)
    (hbutton : sharedAccountButton enabled item = some button) :
    Tap.ofData button.callbackData = .toggleShared item.id item.parentSlot := by
  obtain ⟨-, rfl⟩ := sharedAccountButton_eq_some_iff.mp hbutton
  have hslot : item.parentSlot ≠ some "p" := by
    intro hp
    exact (h.2 "p" hp).2 rfl
  dsimp only
  rw [ofData_sharedCallbackData (fun slot hmem => (h.2 slot hmem).1) h.1, if_neg hslot]

/-- A button that is drawn fits. -/
theorem fits_sharedAccountButton (hbutton : sharedAccountButton enabled item = some button) :
    button.Fits := by
  obtain ⟨hfits, rfl⟩ := sharedAccountButton_eq_some_iff.mp hbutton
  exact Nat.le_of_not_lt hfits

theorem utf8ByteSize_sharedCallbackData (item : SharedAccountItem) :
    (sharedCallbackData item.parentSlot item.id).utf8ByteSize = item.dataSize := by
  have hletter : "s:".utf8ByteSize = 2 := rfl
  have hcolon : ":".utf8ByteSize = 1 := rfl
  rcases item with ⟨id, name, - | slot⟩
  · simp only [sharedCallbackData, SharedAccountItem.dataSize, String.utf8ByteSize_append]
    omega
  · simp only [sharedCallbackData, SharedAccountItem.dataSize, String.utf8ByteSize_append]
    omega

/-- **An item has its button in the menu exactly when it fits**, and the button asks for it. -/
theorem draws_sharedAccountButton (enabled : List String) (item : SharedAccountItem) :
    item.Draws (sharedAccountButton enabled item) where
  eq_none_iff := by
    rw [sharedAccountButton, ← utf8ByteSize_sharedCallbackData]
    split
    case isTrue hlong => exact iff_of_true rfl hlong
    case isFalse hfits => exact iff_of_false (Option.some_ne_none _) hfits
  fits _ hbutton := fits_sharedAccountButton hbutton
  tap hseparable _ hbutton := ofData_separable hseparable hbutton

end

/-! ### All buttons -/

/-- **Button data survives the round trip**: a keyboard under a message is drawn in whole or, if a
button of it would be too long, not at all; the menu of shared accounts has one row for each item
whose button is not too long; and every button there is fits, and is read back as what it was drawn
for. -/
theorem readsBack_buttons :
    (∀ (emailId : String) (accountId : Option String) (alreadyRead expanded : Bool) (lang : Locale),
      (notificationKeyboard emailId accountId alreadyRead expanded lang).Draws
          (notificationActions alreadyRead expanded) accountId emailId ∧
        (undoKeyboard emailId accountId lang).Draws ['u'] accountId emailId ∧
        ((∀ id ∈ accountId, ':' ∉ id.toList) → (accountId = none → ':' ∉ emailId.toList) →
          (∀ button ∈ (notificationKeyboard emailId accountId alreadyRead expanded lang).flatten,
            ∃ action ∈ notificationActions alreadyRead expanded,
              button.Asks action accountId emailId) ∧
          ∀ button ∈ (undoKeyboard emailId accountId lang).flatten,
            button.Asks 'u' accountId emailId)) ∧
    ∀ (accounts : List SharedAccountItem) (enabled : List String),
      sharedAccountsKeyboard accounts enabled =
          accounts.filterMap (fun item => (sharedAccountButton enabled item).map fun b => [b]) ∧
        ∀ item : SharedAccountItem, item.Draws (sharedAccountButton enabled item) := by
  constructor
  · intro emailId accountId alreadyRead expanded lang
    refine ⟨draws_notificationKeyboard, draws_undoKeyboard, fun hid hemail => ⟨?_, ?_⟩⟩
    · intro button hbutton
      exact draws_notificationKeyboard.asks (subset_messageActions alreadyRead expanded) hid hemail
        hbutton
    · intro button hbutton
      obtain ⟨action, haction, hasks⟩ := draws_undoKeyboard.asks (by decide) hid hemail hbutton
      obtain rfl := List.mem_singleton.mp haction
      exact hasks
  · intro accounts enabled
    exact ⟨rfl, draws_sharedAccountButton enabled⟩

end Jmap2Telegram
