import Jmap2Telegram.Bot.Keyboard
import Jmap2Telegram.State.Lifecycle

/-!
# Triage and undo

A tap on a notification archives an email, marks it as spam or deletes it: the handler reads the
mailboxes the email is in, moves it, answers the tap, and leaves a pending undo for the chat, one at
a time. A tap on the undo button takes the pending undo and, if it is for the same email and has not
expired, puts the email back. The answer to a tap is sent to Telegram, which may refuse it; the
handler then ends with an error at once.

* `triageEffect`: all that a triage can leave.
* `holdsUndo_iff`: after a move that succeeded the undo is pending if and only if Telegram accepted
  the answer, or the same undo was pending already.
-/

namespace Jmap2Telegram

/-! ### The mail server -/

/-- `TriageAction`. -/
inductive TriageAction where
  | archive
  | junk
  | delete
  deriving DecidableEq

/-- An account on a mail server: the mailboxes of each email, and the mailbox with the role that an
action moves to. -/
structure MailAccount where
  mailboxIds : Map String (List String)
  withRole : TriageAction → Option String

/-- What the calls of a handler come to: whether the server carries out each kind of request, and
whether Telegram accepts the answer to the tap. The edit of the message is best effort. -/
structure Calls where
  get : Bool
  query : Bool
  set : Bool
  answer : Bool

namespace MailAccount

variable (mail : MailAccount) (calls : Calls) (emailId : String)

/-- `mailbox_ids_of`. -/
def mailboxIdsOf : Option (List String) := if calls.get then mail.mailboxIds[emailId]? else none

/-- `email_set_mailboxes`, and whether it succeeds. -/
def setMailboxes (ids : List String) : MailAccount × Bool :=
  if calls.set ∧ emailId ∈ mail.mailboxIds then
    ({ mail with mailboxIds := mail.mailboxIds.insert emailId ids }, true)
  else (mail, false)

/-- `archive`, `junk` and `delete`, and whether they succeed. -/
def move (action : TriageAction) : MailAccount × Bool :=
  match if calls.query then mail.withRole action else none with
  | some mailboxId => mail.setMailboxes calls emailId [mailboxId]
  | none => (mail, false)

end MailAccount

/-! ### The handlers -/

/-- `UNDO_WINDOW`, in nanoseconds. -/
def undoWindow : ℕ := 30 * 10 ^ 9

/-- `is_expired`. -/
def PendingUndo.isExpired (pending : PendingUndo) (now : ℕ) : Bool := pending.expiresAt ≤ now

/-- What a handler counts: the labels of `triage_actions_total` and `undo_total`. -/
inductive Metric where
  | triage (ok : Bool)
  | undoRestored
  | undoError
  | undoExpired
  deriving DecidableEq

/-- What a handler leaves: the state, the mail account, what it counted, and whether it ends with
`Ok`. -/
structure Handled where
  app : AppState
  mail : MailAccount
  metric : Option Metric
  ok : Bool

/-- What a tap meets: the servers that can be reached, the mail account behind the client, what the
calls come to, and the time. -/
structure TapEnv where
  reaches : Client → Bool
  mail : MailAccount
  calls : Calls
  now : ℕ

namespace AppState

variable (env : TapEnv) (app : AppState) (chatId : ChatId) (accountId : Option String)
  (emailId : String)

/-- `perform_triage_action`. -/
def performTriageAction (action : TriageAction) : Handled :=
  match env.mail.mailboxIdsOf env.calls emailId with
  | none => ⟨app, env.mail, none, env.calls.answer⟩
  | some restoreMailboxIds =>
    match env.mail.move env.calls emailId action with
    | (mail, true) =>
      -- `answer_callback_query(..).await?`: a refused answer ends the handler here
      if env.calls.answer then
        let pending : PendingUndo := ⟨accountId, emailId, restoreMailboxIds, env.now + undoWindow⟩
        ⟨{ app with pendingUndo := app.pendingUndo.insert chatId pending }, mail,
          some (.triage true), true⟩
      else ⟨app, mail, some (.triage true), false⟩
    | (mail, false) => ⟨app, mail, some (.triage false), env.calls.answer⟩

/-- The `"u"` branch of `callback_handler`: the pending undo is taken out before it is compared with
the tapped email. -/
def undo : Handled :=
  let pending := app.pendingUndo[chatId]?
  let app := { app with pendingUndo := app.pendingUndo.erase chatId }
  match pending with
  | some p =>
    if p.isExpired env.now = false ∧ p.accountId = accountId ∧ p.emailId = emailId then
      match env.mail.setMailboxes env.calls emailId p.restoreMailboxIds with
      | (mail, true) => ⟨app, mail, some .undoRestored, env.calls.answer⟩
      | (mail, false) => ⟨app, mail, some .undoError, env.calls.answer⟩
    else ⟨app, env.mail, some .undoExpired, env.calls.answer⟩
  | none => ⟨app, env.mail, some .undoExpired, env.calls.answer⟩

/-- What `callback_handler` does with a tap that acts on an email. Marking as read (`"r"`) and
reading in full (`"f"`) leave the state alone. -/
def act (action : String) : Handled :=
  match app.callbackClient env.reaches chatId accountId with
  | .live _ _ app =>
    if action = "a" then app.performTriageAction env chatId accountId emailId .archive
    else if action = "j" then app.performTriageAction env chatId accountId emailId .junk
    else if action = "d" then app.performTriageAction env chatId accountId emailId .delete
    else if action = "u" then app.undo env chatId accountId emailId
    else ⟨app, env.mail, none, env.calls.answer⟩
  | .missing | .err => ⟨app, env.mail, none, env.calls.answer⟩

/-- The chat's pending undo is for the email of the account, and puts it back into the mailboxes. -/
def HoldsUndo (restoreMailboxIds : List String) : Prop :=
  ∃ pending, app.pendingUndo[chatId]? = some pending ∧ pending.accountId = accountId ∧
    pending.emailId = emailId ∧ pending.restoreMailboxIds = restoreMailboxIds

end AppState

/-! ### What the handlers leave -/

/-- All that a triage can leave: nothing, when the mailboxes of the email are not read or it is not
moved; the move alone, when the answer to the tap is refused; or the move and its undo. -/
inductive TriageEffect (env : TapEnv) (app : AppState) (chatId : ChatId)
    (accountId : Option String) (emailId : String) (action : TriageAction) : Handled → Prop where
  | unread (hids : env.mail.mailboxIdsOf env.calls emailId = none) :
    TriageEffect env app chatId accountId emailId action ⟨app, env.mail, none, env.calls.answer⟩
  | unmoved (mail : MailAccount) (hmove : env.mail.move env.calls emailId action = (mail, false)) :
    TriageEffect env app chatId accountId emailId action
      ⟨app, mail, some (.triage false), env.calls.answer⟩
  | unanswered (mail : MailAccount)
    (hmove : env.mail.move env.calls emailId action = (mail, true))
    (hanswer : env.calls.answer = false) :
    TriageEffect env app chatId accountId emailId action ⟨app, mail, some (.triage true), false⟩
  | undoable (ids : List String) (mail : MailAccount)
    (hids : env.mail.mailboxIdsOf env.calls emailId = some ids)
    (hmove : env.mail.move env.calls emailId action = (mail, true))
    (hanswer : env.calls.answer = true) :
    TriageEffect env app chatId accountId emailId action
      ⟨{ app with pendingUndo :=
          app.pendingUndo.insert chatId ⟨accountId, emailId, ids, env.now + undoWindow⟩ }, mail,
        some (.triage true), true⟩

section

variable (env : TapEnv) (app : AppState) (chatId : ChatId) (accountId : Option String)
  (emailId : String)

/-- **All that a triage can leave.** -/
theorem triageEffect (action : TriageAction) :
    TriageEffect env app chatId accountId emailId action
      (app.performTriageAction env chatId accountId emailId action) := by
  rw [AppState.performTriageAction]
  split
  case h_1 hids => exact .unread hids
  case h_2 ids hids =>
    split
    case h_1 mail hmove =>
      split
      case isTrue hanswer => exact .undoable ids mail hids hmove hanswer
      case isFalse hanswer => exact .unanswered mail hmove (Bool.eq_false_iff.mpr hanswer)
    case h_2 mail hmove => exact .unmoved mail hmove

/-- The undo button takes the pending undo out, and leaves the rest of the state. -/
theorem app_undo : (app.undo env chatId accountId emailId).app =
    { app with pendingUndo := app.pendingUndo.erase chatId } := by
  rw [AppState.undo]
  repeat' split
  all_goals rfl

theorem ok_undo : (app.undo env chatId accountId emailId).ok = env.calls.answer := by
  rw [AppState.undo]
  repeat' split
  all_goals rfl

theorem ok_performTriageAction (action : TriageAction) :
    (app.performTriageAction env chatId accountId emailId action).ok = env.calls.answer := by
  have heffect := triageEffect env app chatId accountId emailId action
  generalize app.performTriageAction env chatId accountId emailId action = handled at heffect ⊢
  cases heffect with
  | unread | unmoved => rfl
  | unanswered _ _ hanswer | undoable _ _ _ _ hanswer => exact hanswer.symm

/-- A handler ends with `Ok` exactly when the answer to the tap is accepted. -/
theorem ok_act (action : String) :
    (app.act env chatId accountId emailId action).ok = env.calls.answer := by
  rw [AppState.act]
  split
  case h_1 =>
    split_ifs
    · exact ok_performTriageAction ..
    · exact ok_performTriageAction ..
    · exact ok_performTriageAction ..
    · exact ok_undo ..
    · rfl
  case h_2 => rfl
  case h_3 => rfl

end

/-! ### After a triage -/

section

variable {env : TapEnv} {app : AppState} {chatId : ChatId} {accountId : Option String}
  {emailId : String} {action : TriageAction} {ids : List String}

/-- A move that succeeded leaves the undo pending if the answer to the tap was accepted, and the
pending undo alone if not. -/
theorem pendingUndo_performTriageAction
    (hids : env.mail.mailboxIdsOf env.calls emailId = some ids)
    (hmove : (env.mail.move env.calls emailId action).2 = true) :
    (app.performTriageAction env chatId accountId emailId action).app.pendingUndo =
      if env.calls.answer then
        app.pendingUndo.insert chatId ⟨accountId, emailId, ids, env.now + undoWindow⟩
      else app.pendingUndo := by
  rw [AppState.performTriageAction, hids]
  rcases hmoved : env.mail.move env.calls emailId action with ⟨mail, moved⟩
  rw [hmoved] at hmove
  subst hmove
  dsimp only
  split <;> rfl

/-- **A successful triage is undoable** if and only if Telegram accepted the answer to the tap, or
the same undo was pending before: the email goes back to the mailboxes it was in just before. -/
theorem holdsUndo_iff (hget : env.calls.get = true)
    (hids : env.mail.mailboxIds[emailId]? = some ids)
    (hmove : (env.mail.move env.calls emailId action).2 = true) :
    (app.performTriageAction env chatId accountId emailId action).app.HoldsUndo chatId accountId
        emailId ids ↔
      env.calls.answer = true ∨ app.HoldsUndo chatId accountId emailId ids := by
  have hread : env.mail.mailboxIdsOf env.calls emailId = some ids := by
    rw [MailAccount.mailboxIdsOf, if_pos hget, hids]
  rw [AppState.HoldsUndo, pendingUndo_performTriageAction hread hmove]
  split
  case isTrue hanswer =>
    refine iff_of_true ⟨⟨accountId, emailId, ids, env.now + undoWindow⟩, ?_, rfl, rfl, rfl⟩
      (.inl hanswer)
    rw [Map.getElem?_insert, if_pos rfl]
  case isFalse hanswer => exact (or_iff_right hanswer).symm

end

/-- An email in the inbox, on a server with an archive. -/
def inboxMail : MailAccount where
  mailboxIds := (∅ : Map String (List String)).insert "M1" ["inbox"]
  withRole _ := some "archive"

/-- The server carries out every request, and Telegram refuses the answer, as it does when it comes
too late. -/
def lateEnv : TapEnv := ⟨fun _ => true, inboxMail, ⟨true, true, true, false⟩, 0⟩

/-- The email is moved, and there is nothing to undo. -/
theorem not_holdsUndo_lateEnv :
    (inboxMail.move lateEnv.calls "M1" .archive).2 = true ∧
      ¬((AppState.new .empty).performTriageAction lateEnv 1 none "M1" .archive).app.HoldsUndo 1 none
        "M1" ["inbox"] := by
  refine ⟨by decide, ?_⟩
  rintro ⟨pending, hpending, -⟩
  have hids : lateEnv.mail.mailboxIdsOf lateEnv.calls "M1" = some ["inbox"] := by decide
  rw [pendingUndo_performTriageAction hids (by decide)] at hpending
  simp [lateEnv, AppState.new] at hpending

/-- The main result when the answer is accepted. -/
theorem holdsUndo_iff_inboxMail :
    ((AppState.new .empty).performTriageAction
        ⟨fun _ => true, inboxMail, ⟨true, true, true, true⟩, 0⟩ 1 none "M1" .archive).app.HoldsUndo
          1 none "M1" ["inbox"] ↔
      true = true ∨ (AppState.new .empty).HoldsUndo 1 none "M1" ["inbox"] :=
  holdsUndo_iff rfl (by decide) (by decide)

end Jmap2Telegram
