import Mathlib.Data.List.Infix
import Jmap2Telegram.Format.Notification
import Jmap2Telegram.Watcher.Target

/-!
# What is worth a notification

The messages a sync fetches (`jmap.rs`), and the two questions the watcher asks of each: is it the
user's own output (`skip_reason`), and is it muted (`is_muted`)?
-/

namespace Jmap2Telegram

/-- A mailbox's role. -/
inductive Role where
  | archive
  | drafts
  | inbox
  | junk
  | sent
  | trash
  | other (name : String)
  | none
  deriving DecidableEq

/-- A message as `Email/get` returns it; an address is a name and the address proper. -/
structure Email where
  subject : Option String
  sender : Option (List (Option String × String))
  preview : Option String
  receivedAt : Option Int64
  attachments : Option (List (Option String × ℕ))
  mailboxIds : List String
  keywords : List String

/-- A message the account gained. -/
structure ChangedEmail where
  summary : EmailSummary
  mailboxRoles : List Role
  keywords : List String

/-- What `fetch_changed_emails` makes of a message, given the roles of the account's mailboxes. -/
def changedEmail (roles : Map String Role) (id : String) (email : Email) : ChangedEmail where
  summary :=
    { id := id
      subject := email.subject.getD ""
      fromName := (email.sender.bind List.head?).bind Prod.fst
      fromAddr := (email.sender.bind List.head?).map Prod.snd
      preview := email.preview.getD ""
      receivedAt := email.receivedAt
      attachments := (email.attachments.getD []).map fun a => (a.1.getD "", a.2) }
  mailboxRoles := email.mailboxIds.filterMap fun mailboxId => roles[mailboxId]?
  keywords := email.keywords

/-- `SkipReason`. -/
inductive SkipReason where
  | draft
  | sent
  | ownMessage
  deriving DecidableEq

/-- `skip_reason`. -/
def skipReason (changed : ChangedEmail) (selfAddress : String) : Option SkipReason :=
  if .drafts ∈ changed.mailboxRoles ∨ "$draft" ∈ changed.keywords then some .draft
  else if .sent ∈ changed.mailboxRoles then some .sent
  else if !selfAddress.isEmpty &&
      changed.summary.fromAddr.any fun sender => Str.eqIgnoreAsciiCase sender selfAddress then
    some .ownMessage
  else none

/-- `is_muted`: whether a muted term stands in the subject, the sender's name or address. -/
def isMuted (lib : Externals) (summary : EmailSummary) (muted : List String) : Bool :=
  if muted.isEmpty then false
  else
    let haystack := lib.toLowercase summary.subject ++ " " ++
      lib.toLowercase (summary.fromName.getD "") ++ " " ++
      lib.toLowercase (summary.fromAddr.getD "")
    muted.any fun term => decide (term.toList <:+: haystack.toList)

/-- `language_for`, without a message to detect a language from. -/
def StoreData.languageFor (data : StoreData) (chatId : ChatId) (defaultLanguage : String) :
    Locale :=
  I18n.resolve (data.accounts[chatId]?.bind Account.language) none defaultLanguage

end Jmap2Telegram
