import Jmap2Telegram.I18n
import Jmap2Telegram.State.Clients

/-!
# Buttons and taps

The keyboards under a notification or a search result (`format.rs`), and what `callback_handler`
(`bot.rs`) makes of the data a tapped button carries: most taps act on an email, through the client
of the mailbox the data names.

* `ofData_actionCallbackData`: the handler reads back what a button was given.
* `exists_of_mem_notificationKeyboard`: the buttons a notification has.
-/

namespace Jmap2Telegram

/-! ### The keyboards -/

/-- `TELEGRAM_CALLBACK_DATA_MAX_LEN`, in bytes. -/
def telegramCallbackDataMaxLen : ℕ := 64

/-- `action_callback_data`. -/
def actionCallbackData (action : Char) (accountId : Option String) (emailId : String) : String :=
  match accountId with
  | some id => String.singleton action ++ String.singleton ':' ++
      (id ++ String.singleton ':' ++ emailId)
  | none => String.singleton action ++ String.singleton ':' ++ emailId

/-- An inline button: its text and the data a tap on it sends. -/
structure Button where
  label : String
  callbackData : String

/-- The rows of a keyboard. -/
abbrev Keyboard := List (List Button)

/-- `notification_keyboard`. -/
def notificationKeyboard (emailId : String) (accountId : Option String)
    (alreadyRead expanded : Bool) (lang : Locale) : Keyboard :=
  if (actionCallbackData 'd' accountId emailId).utf8ByteSize > telegramCallbackDataMaxLen then []
  else
    let btn (label : Locale → String) (action : Char) : Button :=
      ⟨label lang, actionCallbackData action accountId emailId⟩
    if expanded then
      let readButton := if alreadyRead then btn Buttons.readDone 'n' else btn Buttons.read 'r'
      -- the case of the letter carries the read state across the toggle
      let collapse := if alreadyRead then 'C' else 'c'
      [[btn Buttons.readAll 'f', readButton], [btn Buttons.archive 'a', btn Buttons.spam 'j'],
        [btn Buttons.delete 'd', btn Buttons.less collapse]]
    else
      let expand := if alreadyRead then 'E' else 'e'
      [[btn Buttons.archive 'a', btn Buttons.delete 'd', btn Buttons.more expand]]

/-- `undo_keyboard`. -/
def undoKeyboard (emailId : String) (accountId : Option String) (lang : Locale) : Keyboard :=
  if (actionCallbackData 'u' accountId emailId).utf8ByteSize > telegramCallbackDataMaxLen then []
  else [[⟨Buttons.undo lang, actionCallbackData 'u' accountId emailId⟩]]

/-! ### Taps -/

/-- What `callback_handler` does with a tap: answer it without doing anything, pass it on to a
command, draw the keyboard again, or act on an email with the client of a mailbox. -/
inductive Tap where
  | answer
  | toggleShared (accountId : String) (parentSlot : Option String)
  | disconnect (slotId : String)
  | threads (choice : String)
  | logoutAll
  | redraw (accountId : Option String) (emailId : String) (alreadyRead expanded : Bool)
  | alreadyRead
  | act (action : String) (accountId : Option String) (emailId : String)
  deriving DecidableEq

/-- How `callback_handler` reads the data of a tap. -/
def Tap.ofData (data : String) : Tap :=
  match Str.splitn (fun c => c == ':') 3 data with
  | action :: second :: rest =>
    let third := rest.head?
    if action = "s" then
      match third with
      | some id => .toggleShared id (if second = "p" then none else some second)
      | none => .toggleShared second none
    else if action = "x" then .disconnect second
    else if action = "th" then .threads second
    else if action = "logout" ∧ second = "all" then .logoutAll
    else
      let accountId := if third.isSome then some second else none
      let emailId := third.getD second
      -- pure presentation, before any client is resolved
      if action = "e" then .redraw accountId emailId false true
      else if action = "E" then .redraw accountId emailId true true
      else if action = "c" then .redraw accountId emailId false false
      else if action = "C" then .redraw accountId emailId true false
      else if action = "n" then .alreadyRead
      else .act action accountId emailId
  | _ => .answer

/-- The client a tap acts with: that of the shared account of the id it carries, or else of the slot
of that id, and of the primary slot if it carries none. -/
def AppState.callbackClient (app : AppState) (reaches : Client → Bool) (chatId : ChatId) :
    Option String → Resolution
  | some acc =>
    match app.clientForShared reaches chatId acc with
    | .live mailbox client app => .live mailbox client app
    | .missing => app.clientForAccount reaches chatId acc
    | .err => .err
  | none => app.clientFor reaches chatId

/-- A tap's lookup caches a client at most. -/
theorem AppState.cachesAtMost_callbackClient {app app' : AppState} {reaches : Client → Bool}
    {chatId : ChatId} {accountId : Option String} {m : Mailbox} {client : Client}
    (h : app.callbackClient reaches chatId accountId = .live m client app') :
    app.CachesAtMost chatId m client app' := by
  cases accountId with
  | none => exact cachesAtMost_clientFor h
  | some acc =>
    rw [callbackClient] at h
    split at h
    case h_1 hshared =>
      cases h
      exact cachesAtMost_clientForShared hshared
    case h_2 => exact cachesAtMost_clientForAccount h
    case h_3 => cases h

/-! ### What the handler reads -/

section

variable {action : Char} {accountId : Option String} {emailId : String}

/-- The parts of a button's data, for an account id without a colon; the last part is not cut, so
the id of the email may have colons if it is the third. -/
theorem splitn_actionCallbackData (haction : action ≠ ':') (hid : ∀ id ∈ accountId, ':' ∉ id.toList)
    (hemail : accountId = none → ':' ∉ emailId.toList) :
    Str.splitn (fun c => c == ':') 3 (actionCallbackData action accountId emailId) =
      String.singleton action :: (accountId.toList ++ [emailId]) := by
  have hcolon : ∀ {s : String}, ':' ∉ s.toList → ∀ c ∈ s.toList, (c == ':') = false := by
    intro s hs c hc
    rw [beq_eq_false_iff_ne]
    rintro rfl
    exact hs hc
  have hhead : ∀ c ∈ (String.singleton action).toList, (c == ':') = false :=
    hcolon (by simpa [eq_comm] using haction)
  cases accountId with
  | none =>
    rw [actionCallbackData, Str.splitn_append hhead rfl,
      Str.splitn_of_forall (hcolon (hemail rfl))]
    rfl
  | some id =>
    rw [actionCallbackData, Str.splitn_append hhead rfl,
      Str.splitn_append (hcolon (hid id rfl)) rfl]
    rfl

/-- The letters of the buttons that act through a client. -/
def clientActions : List Char := ['a', 'd', 'f', 'j', 'r', 'u']

/-- The letters of all buttons under a message. -/
def messageActions : List Char := clientActions ++ ['e', 'E', 'c', 'C', 'n']

/-- What the handler makes of a button's letter. -/
def Tap.ofAction (action : Char) (accountId : Option String) (emailId : String) : Tap :=
  if action = 'e' then .redraw accountId emailId false true
  else if action = 'E' then .redraw accountId emailId true true
  else if action = 'c' then .redraw accountId emailId false false
  else if action = 'C' then .redraw accountId emailId true false
  else if action = 'n' then .alreadyRead
  else .act (String.singleton action) accountId emailId

/-- What holds of folding, unfolding, the inert button and of acting holds of every letter. -/
theorem Tap.forall_ofAction {P : Tap → Prop}
    (hredraw : ∀ read expanded, P (.redraw accountId emailId read expanded))
    (hread : P .alreadyRead) (hact : ∀ letter, P (.act letter accountId emailId)) (action : Char) :
    P (.ofAction action accountId emailId) := by
  rw [Tap.ofAction]
  split_ifs
  · exact hredraw _ _
  · exact hredraw _ _
  · exact hredraw _ _
  · exact hredraw _ _
  · exact hread
  · exact hact _

/-- **The handler reads back what a button was given**, for an account id without a colon. -/
theorem ofData_actionCallbackData (haction : action ∈ messageActions)
    (hid : ∀ id ∈ accountId, ':' ∉ id.toList) (hemail : accountId = none → ':' ∉ emailId.toList) :
    Tap.ofData (actionCallbackData action accountId emailId) =
      .ofAction action accountId emailId := by
  have hne : action ≠ ':' := by
    rintro rfl
    exact absurd haction (by decide)
  rw [Tap.ofData, splitn_actionCallbackData hne hid hemail]
  -- no letter of a button reads as one of the other kinds of tap
  have hletters : ∀ action ∈ messageActions, String.singleton action ≠ "s" ∧
      String.singleton action ≠ "x" ∧ String.singleton action ≠ "th" ∧
      String.singleton action ≠ "logout" := by decide
  have hcase : ∀ d : Char, String.singleton action = String.singleton d ↔ action = d := fun d =>
    ⟨fun h => by simpa using congrArg String.toList h, congrArg _⟩
  obtain ⟨hs, hx, hth, hlogout⟩ := hletters action haction
  cases accountId with
  | none =>
    simp only [Option.toList_none, List.nil_append, List.head?_nil, hs, hx, hth, hlogout, if_false,
      false_and, Option.isSome_none, Bool.false_eq_true, Option.getD_none, Tap.ofAction,
      ← hcase]
    rfl
  | some id =>
    simp only [Option.toList_some, List.cons_append, List.nil_append, List.head?_cons, hs, hx, hth,
      hlogout, if_false, false_and, Option.isSome_some, if_true, Option.getD_some, Tap.ofAction,
      ← hcase]
    rfl

/-! ### The buttons there are -/

/-- Every button under a message carries one of the letters, the account and the email. -/
theorem exists_of_mem_notificationKeyboard {alreadyRead expanded : Bool} {lang : Locale}
    {button : Button}
    (h : button ∈ (notificationKeyboard emailId accountId alreadyRead expanded lang).flatten) :
    ∃ action ∈ messageActions,
      button.callbackData = actionCallbackData action accountId emailId := by
  rw [notificationKeyboard] at h
  split at h
  · cases h
  -- four keyboards, each with its own buttons
  · cases expanded <;> cases alreadyRead <;>
      simp only [if_true, if_false, Bool.false_eq_true, List.flatten_cons, List.flatten_nil,
        List.append_nil, List.cons_append, List.nil_append, List.mem_cons, List.not_mem_nil,
        or_false] at h
    all_goals
      rcases h with rfl | rfl | rfl | rfl | rfl | rfl <;> exact ⟨_, by decide, rfl⟩

end

end Jmap2Telegram
