import Jmap2Telegram.Bot.Buttons
import Jmap2Telegram.Bot.UndoTarget

/-!
# The read state of a menu

Nothing but the keyboard under a message remembers that the email was marked as read: the letter
that folds or unfolds the menu does, and the read button of the unfolded one. Runs of taps on the
buttons that a message shows, with every answer to a tap accepted by Telegram and the mail server
free to fail. The offer to undo has no room for the read state, and an undo draws the menu of an
unread email.

* `menuEffect`: all that a tap can do to the keyboard.
* `exists_plainIds`: the ids in the data of a button, as the handler reads them.
* `remembersRead_iff`: when the menus of a run tell whether the email was marked as read.
-/

namespace Jmap2Telegram

open Transition

/-! ### The keyboard after a tap -/

/-- Whether `mark_read` succeeds. -/
def MailAccount.markRead (mail : MailAccount) (calls : Calls) (emailId : String) : Bool :=
  calls.set && decide (emailId ∈ mail.mailboxIds)

namespace AppState

variable (env : TapEnv) (app : AppState) (chatId : ChatId) (lang : Locale) (keyboard : Keyboard)

/-- The keyboard under a message after a tap that acts on its email: another one is drawn once the
email was marked as read, moved or put back and the answer to the tap was accepted. -/
def actKeyboard (action : String) (accountId : Option String) (emailId : String) : Keyboard :=
  match app.callbackClient env.reaches chatId accountId with
  | .live _ _ _ =>
    if action = "r" then
      if env.mail.markRead env.calls emailId = true ∧ env.calls.answer = true then
        notificationKeyboard emailId accountId true true lang
      else keyboard
    else
      let handled := app.act env chatId accountId emailId action
      match handled.metric, handled.ok with
      | some (.triage true), true => undoKeyboard emailId accountId lang
      | some .undoRestored, true => notificationKeyboard emailId accountId false false lang
      | _, _ => keyboard
  | .missing | .err => keyboard

/-- The keyboard under a message after a tap on one of its buttons. -/
def tapKeyboard : Tap → Keyboard
  | .redraw accountId emailId alreadyRead expanded =>
    notificationKeyboard emailId accountId alreadyRead expanded lang
  | .act action accountId emailId =>
    app.actKeyboard env chatId lang keyboard action accountId emailId
  -- the inert button; no button under a message asks for anything else
  | _ => keyboard

/-- A tap on a button with the data marks an email as read. -/
def MarksRead (data : String) : Prop :=
  ∃ accountId emailId m client app', Tap.ofData data = .act "r" accountId emailId ∧
    app.callbackClient env.reaches chatId accountId = .live m client app' ∧
    env.mail.markRead env.calls emailId = true

/-- A tap on a button with the data puts an email back. -/
def PutsBack (data : String) : Prop :=
  ∃ client emailId ids, app.RestoreCall env chatId data client emailId ids ∧
    (env.mail.setMailboxes env.calls emailId ids).2 = true

end AppState

/-! ### Runs of taps -/

/-- A tap on a button that a message shows: which one, the language of the user, and what it meets
besides the mail account. -/
structure MenuTap where
  index : ℕ
  lang : Locale
  reaches : Client → Bool
  calls : Calls
  now : ℕ

/-- The state of the bot, the mail account, and the keyboard under a message. -/
structure MenuState where
  app : AppState
  mail : MailAccount
  keyboard : Keyboard

namespace MenuState

variable (chatId : ChatId) (s : MenuState) (tap : MenuTap)

/-- What a tap meets. -/
def env : TapEnv := ⟨tap.reaches, s.mail, tap.calls, tap.now⟩

/-- The button that is tapped. -/
def button? : Option Button := s.keyboard.flatten[tap.index]?

/-- The state after a tap on a button with the data. -/
def after (data : String) : MenuState :=
  let keyboard := s.app.tapKeyboard (s.env tap) chatId tap.lang s.keyboard (Tap.ofData data)
  match Tap.ofData data with
  | .act action accountId emailId =>
    let handled := s.app.act (s.env tap) chatId accountId emailId action
    ⟨handled.app, handled.mail, keyboard⟩
  | _ => ⟨s.app, s.mail, keyboard⟩

/-- One tap after another on the buttons the message shows; every answer is accepted. -/
def step : Option MenuState :=
  if tap.calls.answer then (s.button? tap).map fun button => s.after chatId tap button.callbackData
  else none

/-- The tap marks the email as read. -/
def MarksRead : Prop :=
  ∃ button, s.button? tap = some button ∧ s.app.MarksRead (s.env tap) chatId button.callbackData

/-- The tap puts the email back. -/
def PutsBack : Prop :=
  ∃ button, s.button? tap = some button ∧ s.app.PutsBack (s.env tap) chatId button.callbackData

end MenuState

/-- A run of taps on the buttons under a message. -/
abbrev MenuRun (chatId : ChatId) (start : MenuState) := Execution (MenuState.step chatId) start

/-- The read state that the letter of a button carries. -/
def readOf : Char → Option Bool
  | 'E' | 'C' | 'n' => some true
  | 'e' | 'c' | 'r' => some false
  | _ => none

/-- The read state that a button carries. -/
def Button.readState? (button : Button) : Option Bool :=
  button.callbackData.toList.head?.bind readOf

section

variable {chatId : ChatId} {start : MenuState} (x : MenuRun chatId start)

/-- One of the first taps marked the email as read. -/
def ReadBefore (k : ℕ) : Prop :=
  ∃ i, ∃ hi : i < x.events.length, i < k ∧ (x.state i).MarksRead chatId x.events[i]

/-- The buttons that carry a read state say that the email is read exactly when a tap has marked it
as read. -/
def RemembersRead : Prop :=
  ∀ k ≤ x.events.length, ∀ button ∈ (x.state k).keyboard.flatten, ∀ read,
    button.readState? = some read → (read = true ↔ ReadBefore x k)

/-- No tap puts the email back after a tap has marked it as read. -/
def PutsBackUnread : Prop :=
  ∀ k (hk : k < x.events.length), (x.state k).PutsBack chatId x.events[k] → ¬ReadBefore x k

end

/-! ### What a tap does to the keyboard -/

/-- All that a tap can do to the keyboard: leave it, fold or unfold it with the read state of its
letter, draw the unfolded menu of a read email, make the offer to undo, or draw the folded menu of
an unread email. -/
inductive MenuEffect (action : Char) (accountId : Option String) (emailId : String) (lang : Locale)
    (keyboard : Keyboard) (marks back : Prop) : Keyboard → Prop where
  | kept (hmarks : ¬marks) (hback : ¬back) :
    MenuEffect action accountId emailId lang keyboard marks back keyboard
  | toggled (read expanded : Bool) (hread : readOf action = some read) (hmarks : ¬marks)
    (hback : ¬back) :
    MenuEffect action accountId emailId lang keyboard marks back
      (notificationKeyboard emailId accountId read expanded lang)
  | markedRead (hmarks : marks) (hback : ¬back) :
    MenuEffect action accountId emailId lang keyboard marks back
      (notificationKeyboard emailId accountId true true lang)
  | triaged (hmarks : ¬marks) (hback : ¬back) :
    MenuEffect action accountId emailId lang keyboard marks back
      (undoKeyboard emailId accountId lang)
  | putBack (hmarks : ¬marks) (hback : back) :
    MenuEffect action accountId emailId lang keyboard marks back
      (notificationKeyboard emailId accountId false false lang)

section

variable {env : TapEnv} {app : AppState} {chatId : ChatId} {accountId : Option String}
  {emailId letter data : String} {lang : Locale} {keyboard : Keyboard} {action : Char}

/-- Only a tap on the undo button counts an undo. -/
theorem eq_undo_of_metric_act
    (h : (app.act env chatId accountId emailId letter).metric = some .undoRestored) :
    letter = "u" := by
  have htriage : ∀ {app : AppState} {triage},
      (app.performTriageAction env chatId accountId emailId triage).metric ≠
        some .undoRestored := by
    intro app triage
    have heffect := triageEffect env app chatId accountId emailId triage
    generalize app.performTriageAction env chatId accountId emailId triage = handled at heffect ⊢
    cases heffect <;> simp
  rw [AppState.act] at h
  split at h
  · split_ifs at h with ha hj hd hu
    · exact absurd h htriage
    · exact absurd h htriage
    · exact absurd h htriage
    · exact hu
  · cases h
  · cases h

/-- A tap that acts on the email marks it as read. -/
theorem marksRead_iff (hdata : Tap.ofData data = .act letter accountId emailId) :
    app.MarksRead env chatId data ↔ letter = "r" ∧
      (∃ m client app', app.callbackClient env.reaches chatId accountId = .live m client app') ∧
      env.mail.markRead env.calls emailId = true := by
  constructor
  · rintro ⟨account, email, m, client, app', hread, hlive, hmarked⟩
    obtain ⟨rfl, rfl, rfl⟩ := Tap.act.inj (hdata.symm.trans hread)
    exact ⟨rfl, ⟨m, client, app', hlive⟩, hmarked⟩
  · rintro ⟨rfl, ⟨m, client, app', hlive⟩, hmarked⟩
    exact ⟨accountId, emailId, m, client, app', hdata, hlive, hmarked⟩

/-- A tap that acts on the email puts it back. -/
theorem putsBack_iff (hdata : Tap.ofData data = .act letter accountId emailId) :
    app.PutsBack env chatId data ↔ letter = "u" ∧
      (∃ m client app', app.callbackClient env.reaches chatId accountId = .live m client app') ∧
      ∃ p, app.pendingUndo[chatId]? = some p ∧ p.isExpired env.now = false ∧
        p.accountId = accountId ∧ p.emailId = emailId ∧
        (env.mail.setMailboxes env.calls emailId p.restoreMailboxIds).2 = true := by
  constructor
  · rintro ⟨client, email, ids, ⟨account, m, app', p, hundo, hlive, hp, hexpired, haccount, hemail,
      rfl⟩, hset⟩
    obtain ⟨rfl, rfl, rfl⟩ := Tap.act.inj (hdata.symm.trans hundo)
    exact ⟨rfl, ⟨m, client, app', hlive⟩, p, hp, hexpired, haccount, hemail, hset⟩
  · rintro ⟨rfl, ⟨m, client, app', hlive⟩, p, hp, hexpired, haccount, hemail, hset⟩
    exact ⟨client, emailId, p.restoreMailboxIds, ⟨accountId, m, app', p, hdata, hlive, hp, hexpired,
      haccount, hemail, rfl⟩, hset⟩

/-- What a tap that acts on the email does to the keyboard. -/
theorem menuEffect_act (hdata : Tap.ofData data = .act letter accountId emailId)
    (hanswer : env.calls.answer = true) :
    MenuEffect action accountId emailId lang keyboard (app.MarksRead env chatId data)
      (app.PutsBack env chatId data)
      (app.actKeyboard env chatId lang keyboard letter accountId emailId) := by
  rw [marksRead_iff hdata, putsBack_iff hdata]
  rw [AppState.actKeyboard]
  rcases hlive : app.callbackClient env.reaches chatId accountId with - | - | ⟨m, client, app'⟩
  -- nothing happens without a client
  · exact .kept (by simp) (by simp)
  · exact .kept (by simp) (by simp)
  have hfound : ∃ m' client' app'', Resolution.live m client app' = .live m' client' app'' :=
    ⟨m, client, app', rfl⟩
  dsimp only
  split
  case isTrue hletter =>
    subst hletter
    split
    case isTrue hmarked => exact .markedRead ⟨rfl, hfound, hmarked.1⟩ (by simp)
    case isFalse hmarked =>
      exact .kept (fun hmarks => hmarked ⟨hmarks.2.2, hanswer⟩) (by simp)
  case isFalse hletter =>
    have hmarks : ∀ {p : Prop}, ¬(letter = "r" ∧ p) := fun hmarks => hletter hmarks.1
    have heffect : ActEffect env letter accountId emailId
        (∃ m client app', app.callbackClient env.reaches chatId accountId = .live m client app')
        app.pendingUndo[chatId]? (app.act env chatId accountId emailId letter).metric
        (app.act env chatId accountId emailId letter).app.pendingUndo[chatId]? := actEffect hanswer
    rw [hlive] at heffect
    rw [ok_act, hanswer]
    -- the keyboard goes by what the handler counts
    generalize hmetric : (app.act env chatId accountId emailId letter).metric = metric at heffect ⊢
    generalize (app.act env chatId accountId emailId letter).app.pendingUndo[chatId]? = after
      at heffect
    generalize app.pendingUndo[chatId]? = pending at heffect ⊢
    cases heffect with
    | kept _ htriage hundo hkept =>
      split
      · exact absurd rfl htriage
      · exact absurd rfl hundo
      · exact .kept hmarks fun hback => hkept ⟨hback.1, hback.2.1⟩
    | triaged ids hundo => exact .triaged hmarks fun hback => hundo hback.1
    | restored p hp hexpired haccount hemail hset =>
      exact .putBack hmarks
        ⟨eq_undo_of_metric_act hmetric, hfound, p, hp, hexpired, haccount, hemail, hset⟩
    | lost _ hcounted hlost hundo =>
      have hback : ¬∃ p, pending = some p ∧ p.isExpired env.now = false ∧
          p.accountId = accountId ∧ p.emailId = emailId ∧
          (env.mail.setMailboxes env.calls emailId p.restoreMailboxIds).2 = true := by
        rintro ⟨p, hp, hexpired, hmatch⟩
        exact hlost p hp hexpired hmatch
      obtain rfl | rfl := hcounted
      · exact .kept hmarks fun h => hback h.2.2
      · exact .kept hmarks fun h => hback h.2.2

/-- **All that a tap can do to the keyboard.** -/
theorem menuEffect (hdata : Tap.ofData data = .ofAction action accountId emailId)
    (hanswer : env.calls.answer = true) :
    MenuEffect action accountId emailId lang keyboard (app.MarksRead env chatId data)
      (app.PutsBack env chatId data)
      (app.tapKeyboard env chatId lang keyboard (Tap.ofData data)) := by
  rw [Tap.ofAction] at hdata
  have hnot : ∀ {tap}, Tap.ofData data = tap →
      (∀ letter account email, tap ≠ .act letter account email) →
      ¬app.MarksRead env chatId data ∧ ¬app.PutsBack env chatId data := by
    rintro tap hdata hne
    constructor
    · rintro ⟨account, email, -, -, -, hread, -⟩
      exact hne _ _ _ (hdata.symm.trans hread)
    · rintro ⟨m, email, ids, ⟨account, client, app', p, hundo, -⟩, -⟩
      exact hne _ _ _ (hdata.symm.trans hundo)
  have hredraw : ∀ {read expanded}, Tap.ofData data = .redraw accountId emailId read expanded →
      readOf action = some read →
      MenuEffect action accountId emailId lang keyboard (app.MarksRead env chatId data)
        (app.PutsBack env chatId data)
        (app.tapKeyboard env chatId lang keyboard (Tap.ofData data)) := by
    intro read expanded hdata hread
    obtain ⟨hmarks, hback⟩ := hnot hdata (by simp)
    rw [hdata]
    exact .toggled read expanded hread hmarks hback
  split_ifs at hdata with he hE hc hC hn
  · exact hredraw hdata (by rw [he]; rfl)
  · exact hredraw hdata (by rw [hE]; rfl)
  · exact hredraw hdata (by rw [hc]; rfl)
  · exact hredraw hdata (by rw [hC]; rfl)
  · obtain ⟨hmarks, hback⟩ := hnot hdata (by simp)
    rw [hdata]
    exact .kept hmarks hback
  · have heffect : MenuEffect action accountId emailId lang keyboard (app.MarksRead env chatId data)
        (app.PutsBack env chatId data)
        (app.actKeyboard env chatId lang keyboard (String.singleton action) accountId emailId) :=
      menuEffect_act hdata hanswer
    rw [hdata]
    exact heffect

end

/-! ### The keyboards of a run -/

section

variable {accountId account : Option String} {emailId email : String} {read expanded : Bool}
  {lang : Locale} {keyboard : Keyboard} {button : Button} {action : Char}

/-- **The ids that the handler reads from a button** are those up to and after the first colon; they
make the same data as the ids the button was drawn with. -/
theorem exists_plainIds (accountId : Option String) (emailId : String) :
    ∃ account email, (∀ id ∈ account, ':' ∉ id.toList) ∧ (account = none → ':' ∉ email.toList) ∧
      ∀ action, actionCallbackData action account email =
        actionCallbackData action accountId emailId := by
  obtain ⟨rest, hrest⟩ : ∃ rest, ∀ action, actionCallbackData action accountId emailId =
      String.singleton action ++ String.singleton ':' ++ rest := by
    cases accountId with
    | none => exact ⟨emailId, fun action => rfl⟩
    | some id => exact ⟨id ++ String.singleton ':' ++ emailId, fun action => rfl⟩
  by_cases hcolon : ':' ∈ rest.toList
  · obtain ⟨before, after, hsplit, hbefore⟩ := List.eq_append_cons_of_mem hcolon
    refine ⟨some (String.ofList before), String.ofList after, ?_, by simp, fun action => ?_⟩
    · intro id hid
      rw [← Option.some.inj hid, String.toList_ofList]
      exact hbefore
    · rw [hrest, actionCallbackData]
      congr 1
      apply String.toList_injective
      simp [hsplit]
  · exact ⟨none, rest, by simp, fun _ => hcolon, fun action => (hrest action).symm⟩

/-- A keyboard depends on the data of its buttons alone. -/
theorem notificationKeyboard_congr (h : ∀ action, actionCallbackData action account email =
    actionCallbackData action accountId emailId) :
    notificationKeyboard email account read expanded lang =
      notificationKeyboard emailId accountId read expanded lang := by
  simp only [notificationKeyboard, h]

/-- The menu of the email, folded or unfolded, with the read state, or the offer to undo. -/
def Keyboard.IsMenu (keyboard : Keyboard) (accountId : Option String) (emailId : String)
    (read : Bool) : Prop :=
  (∃ expanded lang, keyboard = notificationKeyboard emailId accountId read expanded lang) ∨
    ∃ lang, keyboard = undoKeyboard emailId accountId lang

theorem readState?_of_callbackData
    (h : button.callbackData = actionCallbackData action accountId emailId) :
    button.readState? = readOf action := by
  rw [Button.readState?, h]
  cases accountId <;> simp [actionCallbackData]

/-- Every button under a message fits, and carries no other read state than that of the menu. -/
theorem Keyboard.IsMenu.exists_action (h : keyboard.IsMenu accountId emailId read)
    (hbutton : button ∈ keyboard.flatten) :
    ∃ action ∈ messageActions, button.callbackData = actionCallbackData action accountId emailId ∧
      button.Fits ∧ ∀ r, readOf action = some r → r = read := by
  have hcarried : ∀ (read expanded : Bool), ∀ action ∈ notificationActions read expanded,
      ∀ r, readOf action = some r → r = read := by decide
  obtain ⟨expanded, lang, rfl⟩ | ⟨lang, rfl⟩ := h
  · obtain ⟨action, haction, hdata, hfits⟩ := draws_notificationKeyboard.exists_action hbutton
    exact ⟨action, subset_messageActions _ _ haction, hdata, hfits, hcarried _ _ action haction⟩
  · obtain ⟨action, haction, hdata, hfits⟩ := draws_undoKeyboard.exists_action hbutton
    obtain rfl := List.mem_singleton.mp haction
    exact ⟨'u', by decide, hdata, hfits, nofun⟩

/-- Where a button fits, a folded menu has a button that carries its read state. -/
theorem exists_readState?
    (hdata : button.callbackData = actionCallbackData action accountId emailId)
    (haction : action ∈ messageActions) (hfits : button.Fits) :
    ∃ b ∈ (notificationKeyboard emailId accountId read false lang).flatten,
      b.readState? = some read := by
  have hshort : ¬(actionCallbackData 'd' accountId emailId).utf8ByteSize >
      telegramCallbackDataMaxLen := by
    rw [← utf8ByteSize_actionCallbackData (utf8Size_of_mem_messageActions haction), ← hdata]
    exact Nat.not_lt_of_le hfits
  refine ⟨⟨Buttons.more lang, actionCallbackData (if read then 'E' else 'e') accountId emailId⟩,
    ?_, ?_⟩
  · rw [notificationKeyboard, if_neg hshort]
    simp
  · rw [readState?_of_callbackData rfl]
    cases read <;> rfl

end

section

variable {chatId : ChatId} {s s' : MenuState} {tap : MenuTap} {accountId : Option String}
  {emailId : String} {read : Bool}

/-- What a tap on a button of a menu does: it keeps the read state, it marks the email as read and
says so, or it puts the email back and says that it is unread. -/
theorem MenuState.step_cases (hid : ∀ id ∈ accountId, ':' ∉ id.toList)
    (hemail : accountId = none → ':' ∉ emailId.toList)
    (hmenu : s.keyboard.IsMenu accountId emailId read) (h : s.step chatId tap = some s') :
    (¬s.MarksRead chatId tap ∧ ¬s.PutsBack chatId tap ∧
        s'.keyboard.IsMenu accountId emailId read) ∨
      (s.MarksRead chatId tap ∧ ¬s.PutsBack chatId tap ∧
        s'.keyboard.IsMenu accountId emailId true) ∨
      (¬s.MarksRead chatId tap ∧ s.PutsBack chatId tap ∧
        s'.keyboard.IsMenu accountId emailId false ∧
        ∃ button ∈ s'.keyboard.flatten, button.readState? = some false) := by
  rw [step] at h
  split at h
  case isFalse => cases h
  case isTrue hanswer =>
    obtain ⟨button, hbutton, rfl⟩ := Option.map_eq_some_iff.mp h
    obtain ⟨action, haction, hdata, hfits, hcarried⟩ :=
      hmenu.exists_action (List.mem_of_getElem? hbutton)
    have htap : Tap.ofData button.callbackData = .ofAction action accountId emailId := by
      rw [hdata]
      exact ofData_actionCallbackData haction hid hemail
    have hmarks : s.MarksRead chatId tap ↔
        s.app.MarksRead (s.env tap) chatId button.callbackData := by
      rw [MarksRead, hbutton]
      simp
    have hback : s.PutsBack chatId tap ↔
        s.app.PutsBack (s.env tap) chatId button.callbackData := by
      rw [PutsBack, hbutton]
      simp
    have hkeyboard : (s.after chatId tap button.callbackData).keyboard =
        s.app.tapKeyboard (s.env tap) chatId tap.lang s.keyboard
          (Tap.ofData button.callbackData) := by
      rw [after]
      split <;> rfl
    rw [hmarks, hback, hkeyboard]
    have heffect : MenuEffect action accountId emailId tap.lang s.keyboard
        (s.app.MarksRead (s.env tap) chatId button.callbackData)
        (s.app.PutsBack (s.env tap) chatId button.callbackData)
        (s.app.tapKeyboard (s.env tap) chatId tap.lang s.keyboard
          (Tap.ofData button.callbackData)) := menuEffect htap hanswer
    generalize s.app.tapKeyboard (s.env tap) chatId tap.lang s.keyboard
      (Tap.ofData button.callbackData) = keyboard at heffect ⊢
    cases heffect with
    | kept hmarks hback => exact .inl ⟨hmarks, hback, hmenu⟩
    | toggled r expanded hr hmarks hback =>
      obtain rfl := hcarried r hr
      exact .inl ⟨hmarks, hback, .inl ⟨expanded, tap.lang, rfl⟩⟩
    | markedRead hmarks hback => exact .inr (.inl ⟨hmarks, hback, .inl ⟨true, tap.lang, rfl⟩⟩)
    | triaged hmarks hback => exact .inl ⟨hmarks, hback, .inr ⟨tap.lang, rfl⟩⟩
    | putBack hmarks hback =>
      exact .inr (.inr ⟨hmarks, hback, .inl ⟨false, tap.lang, rfl⟩,
        exists_readState? hdata haction hfits⟩)

end

/-! ### What the menus of a run say -/

section

variable {chatId : ChatId} {app : AppState} {mail : MailAccount} {accountId : Option String}
  {emailId : String} {lang : Locale}

section

variable {start : MenuState} (x : MenuRun chatId start)

theorem not_readBefore_zero : ¬ReadBefore x 0 := by
  rintro ⟨i, hi, hi0, -⟩
  exact Nat.not_lt_zero i hi0

theorem readBefore_succ {k : ℕ} (hk : k < x.events.length) :
    ReadBefore x (k + 1) ↔ ReadBefore x k ∨ (x.state k).MarksRead chatId x.events[k] := by
  constructor
  · rintro ⟨i, hi, hik, hmarks⟩
    obtain hlt | rfl := Nat.lt_succ_iff_lt_or_eq.mp hik
    · exact .inl ⟨i, hi, hlt, hmarks⟩
    · exact .inr hmarks
  · rintro (⟨i, hi, hik, hmarks⟩ | hmarks)
    · exact ⟨i, hi, Nat.lt_succ_of_lt hik, hmarks⟩
    · exact ⟨k, hk, k.lt_succ_self, hmarks⟩

variable (hid : ∀ id ∈ accountId, ':' ∉ id.toList)
  (hemail : accountId = none → ':' ∉ emailId.toList)
  (hstart : start.keyboard.IsMenu accountId emailId false)
include hid hemail hstart

/-- The message shows the menu of its email throughout. -/
theorem exists_isMenu {k : ℕ} (hk : k ≤ x.events.length) :
    ∃ read, (x.state k).keyboard.IsMenu accountId emailId read := by
  refine x.induction (fun _ s => ∃ read, s.keyboard.IsMenu accountId emailId read) ⟨false, hstart⟩
    (fun k hk ih hstep => ?_) hk
  obtain ⟨read, hmenu⟩ := ih
  obtain ⟨-, -, hmenu⟩ | ⟨-, -, hmenu⟩ | ⟨-, -, hmenu, -⟩ :=
    MenuState.step_cases hid hemail hmenu hstep
  · exact ⟨read, hmenu⟩
  · exact ⟨true, hmenu⟩
  · exact ⟨false, hmenu⟩

/-- Where no tap puts the email back after one that marked it as read, the menu of the message has
the read state. -/
theorem isMenu_of_putsBackUnread (h : PutsBackUnread x) {k : ℕ} (hk : k ≤ x.events.length) :
    ∃ read, (x.state k).keyboard.IsMenu accountId emailId read ∧
      (read = true ↔ ReadBefore x k) := by
  refine x.induction (fun k s => ∃ read, s.keyboard.IsMenu accountId emailId read ∧
    (read = true ↔ ReadBefore x k)) ⟨false, hstart, ?_⟩ (fun k hk ih hstep => ?_) hk
  · exact iff_of_false Bool.false_ne_true (not_readBefore_zero x)
  obtain ⟨read, hmenu, hread⟩ := ih
  obtain ⟨hmarks, -, hmenu⟩ | ⟨hmarks, -, hmenu⟩ | ⟨hmarks, hback, hmenu, -⟩ :=
    MenuState.step_cases hid hemail hmenu hstep
  · exact ⟨read, hmenu, by rw [readBefore_succ x hk, or_iff_left hmarks, hread]⟩
  · exact ⟨true, hmenu, iff_of_true rfl ((readBefore_succ x hk).mpr (.inr hmarks))⟩
  · refine ⟨false, hmenu, iff_of_false Bool.false_ne_true ?_⟩
    rw [readBefore_succ x hk, or_iff_left hmarks]
    exact h k hk hback

/-- If the menus tell whether the email was marked as read, then no tap puts it back after that. -/
theorem putsBackUnread_of_remembersRead (h : RemembersRead x) : PutsBackUnread x := by
  intro k hk hback hread
  obtain ⟨read, hmenu⟩ := exists_isMenu x hid hemail hstart (Nat.le_of_lt hk)
  obtain ⟨-, hnot, -⟩ | ⟨-, hnot, -⟩ | ⟨-, -, -, button, hbutton, hunread⟩ :=
    MenuState.step_cases hid hemail hmenu (x.state_succ hk)
  · exact hnot hback
  · exact hnot hback
  · -- the menu that was drawn then says that the email is unread
    have hafter : ReadBefore x (k + 1) := (readBefore_succ x hk).mpr (.inl hread)
    exact Bool.false_ne_true ((h (k + 1) hk button hbutton false hunread).mpr hafter)

/-- If no tap puts the email back after one that marked it as read, then the menus tell whether it
was. -/
theorem remembersRead_of_putsBackUnread (h : PutsBackUnread x) : RemembersRead x := by
  intro k hk button hbutton r hr
  obtain ⟨read, hmenu, hread⟩ := isMenu_of_putsBackUnread x hid hemail hstart h hk
  obtain ⟨action, -, hdata, -, hcarried⟩ := hmenu.exists_action hbutton
  rw [readState?_of_callbackData hdata] at hr
  rw [hcarried r hr, hread]

end

/-- **The menu remembers that an email was marked as read** if and only if, in the run, no tap puts
the email back after a tap has marked it as read. -/
theorem remembersRead_iff {app : AppState} {mail : MailAccount} {accountId : Option String}
    {emailId : String} {lang : Locale}
    (x : MenuRun chatId ⟨app, mail, notificationKeyboard emailId accountId false false lang⟩) :
    RemembersRead x ↔ PutsBackUnread x := by
  obtain ⟨account, email, hid, hemail, hdata⟩ := exists_plainIds accountId emailId
  have hstart : (notificationKeyboard emailId accountId false false lang).IsMenu account email
      false := .inl ⟨false, lang, (notificationKeyboard_congr hdata).symm⟩
  exact ⟨putsBackUnread_of_remembersRead x hid hemail hstart,
    remembersRead_of_putsBackUnread x hid hemail hstart⟩

end

/-! ### An undo after a read -/

/-- All calls succeed. -/
private def promptTap (index : ℕ) : MenuTap :=
  ⟨index, .en, fun _ => true, ⟨true, true, true, true⟩, 0⟩

/-- The menu is unfolded, the email is marked as read and archived, and that is undone. -/
def readThenUndone :
    MenuRun 1 ⟨.new oneSlotData, inboxMail, notificationKeyboard "M1" none false false .en⟩ where
  events := [promptTap 2, promptTap 1, promptTap 2, promptTap 0]
  enabled := by decide

/-- The menu then says that the email is unread. -/
theorem not_remembersRead_readThenUndone : ¬RemembersRead readThenUndone := by
  intro h
  obtain ⟨m, client, app', hlive⟩ : ∃ m client app',
      (readThenUndone.state 1).app.callbackClient (fun _ => true) 1 none = .live m client app' :=
    ⟨_, _, _, rfl⟩
  have hmarks : ReadBefore readThenUndone 4 :=
    ⟨1, by decide, by decide, ⟨Buttons.read .en, "r:M1"⟩, rfl, none, "M1", m, client, app',
      by decide, hlive, by decide⟩
  have hdrawn : ⟨Buttons.more .en, "e:M1"⟩ ∈ (readThenUndone.state 4).keyboard.flatten :=
    List.mem_of_getElem? (i := 2) rfl
  exact Bool.false_ne_true ((h 4 (by decide) _ hdrawn false (by decide)).mpr hmarks)

end Jmap2Telegram
