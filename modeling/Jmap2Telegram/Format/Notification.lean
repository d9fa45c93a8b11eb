import Jmap2Telegram.ForStd.Float
import Jmap2Telegram.I18n

/-!
# The notification's text

`format.rs`, from the mail's metadata to the MarkdownV2 source of the notification: every field is
bounded, then escaped, then put into the locale's template, where `t!` substitutes each value once.
`chrono`'s rendering of a timestamp in a time zone is a parameter.
-/

namespace Jmap2Telegram

/-! ### Bounding and escaping -/

/-- `TELEGRAM_MAX_MESSAGE_LEN`, in UTF-16 code units. -/
def telegramMaxMessageLen : ℕ := 4096

/-- `FIELD_LIMIT`. -/
def fieldLimit : ℕ := 300

/-- `PREVIEW_LIMIT`. -/
def previewLimit : ℕ := 400

/-- `truncate`: the first `limit` characters and an ellipsis, or the text if it is no longer. -/
def truncate (input : String) (limit : ℕ) : String :=
  if limit < input.toList.length then String.ofList (input.toList.take limit) ++ "…" else input

/-- The characters `escape_markdown` puts a backslash before. -/
def needsEscape (c : Char) : Bool :=
  c == '_' || c == '*' || c == '[' || c == ']' || c == '(' || c == ')' || c == '~' ||
    c == '\x60' || c == '>' || c == '#' || c == '+' || c == '-' || c == '=' || c == '|' ||
    c == '\x7b' || c == '\x7d' || c == '.' || c == '!' || c == '\\'

/-- `escape_markdown`. -/
def escapeMarkdown (input : String) : String :=
  String.ofList (input.toList.flatMap fun c => if needsEscape c then ['\\', c] else [c])

/-- `escape_markdown_url`. -/
def escapeMarkdownUrl (input : String) : String :=
  String.ofList
    (input.toList.flatMap fun c => if c == ')' || c == '\\' then ['\\', c] else [c])

/-- `mailto_url`: the address without white space and control characters. -/
def mailtoUrl (addr : String) : String :=
  String.ofList (addr.toList.filter fun c => !Str.isWhitespace c && !Str.isControl c)

/-- `blockquote`: each line behind a `>`. -/
def blockquote (escaped : String) : String :=
  "\n".intercalate ((Str.lines escaped.toList).map fun line => ">" ++ String.ofList line)

/-! ### The fields -/

/-- The metadata a notification is made of; an attachment is its name and its size in bytes. -/
structure EmailSummary where
  id : String
  subject : String
  fromName : Option String
  fromAddr : Option String
  preview : String
  receivedAt : Option Int64
  attachments : List (String × ℕ)

/-- `human_size`. -/
def humanSize (bytes : ℕ) (lang : Locale) : String :=
  let kb := 1024
  let mb := kb * 1024
  let bytes := F64.ofNat bytes
  if mb ≤ bytes then Notif.unitMb lang (F64.fixed1 bytes mb)
  else if kb ≤ bytes then Notif.unitKb lang (F64.fixed0 bytes kb)
  else Notif.unitB lang bytes.repr

/-- The text the sender is shown as, next to an address already bounded. -/
def fromDisplay (name : Option String) (addr : String) : String :=
  match name with
  | some name => if name.isEmpty then addr else truncate name fieldLimit ++ " <" ++ addr ++ ">"
  | none => addr

/-- `from_field`: a `mailto:` link, or plain text when no address is left to link to. -/
def fromField (name addr : Option String) (lang : Locale) : String :=
  match addr.map fun a => truncate a fieldLimit with
  | none => escapeMarkdown (Notif.unknownSender lang)
  | some addr =>
    let display := fromDisplay name addr
    let url := mailtoUrl addr
    if url.isEmpty then escapeMarkdown display
    else "[" ++ escapeMarkdown display ++ "](mailto:" ++ escapeMarkdownUrl url ++ ")"

/-- `MAX_SHOWN`. -/
def maxShown : ℕ := 5

/-- The name an attachment is shown under. -/
def attachmentName (name : String) (lang : Locale) : String :=
  if (Str.trim name).isEmpty then Notif.emptyAttachmentName lang else truncate name fieldLimit

/-- One attachment in the list, escaped. -/
def attachmentItem (attachment : String × ℕ) (lang : Locale) : String :=
  escapeMarkdown (attachmentName attachment.1 lang) ++ " \\(" ++
    escapeMarkdown (humanSize attachment.2 lang) ++ "\\)"

/-- `attachments_field`. -/
def attachmentsField (attachments : List (String × ℕ)) (lang : Locale) : String :=
  if attachments.isEmpty then ""
  else
    let shown := ", ".intercalate ((attachments.take maxShown).map fun a => attachmentItem a lang)
    let extra := attachments.length - maxShown
    let suffix :=
      if 0 < extra then " " ++ escapeMarkdown (Notif.attachmentsMore lang extra) else ""
    Notif.attachments lang (shown ++ suffix) ++ "\n"

/-! ### The notification -/

section

variable {Tz : Type} (formatTimestamp : Tz → Int64 → Option String)

/-- The time of reception as it is shown; nothing when it is missing or out of range. -/
def receivedText (summary : EmailSummary) (tz : Tz) : String :=
  (summary.receivedAt.bind (formatTimestamp tz)).getD ""

/-- The subject as it is shown. -/
def subjectText (summary : EmailSummary) (lang : Locale) : String :=
  let subject := truncate (Str.trim summary.subject) fieldLimit
  if subject.isEmpty then Notif.noSubject lang else subject

/-- The preview as it is shown. -/
def previewText (summary : EmailSummary) : String :=
  truncate (Str.trim summary.preview) previewLimit

/-- The line naming the mailbox, for a mail that is not in the chat's own. -/
def mailboxLine (accountLabel : Option String) (lang : Locale) : String :=
  match accountLabel with
  | some label => Notif.mailbox lang (escapeMarkdown (truncate label fieldLimit)) ++ "\n"
  | none => ""

/-- `notification_text`. -/
def notificationText (summary : EmailSummary) (tz : Tz) (accountLabel : Option String)
    (lang : Locale) : String :=
  let sender := fromField summary.fromName summary.fromAddr lang
  let received := receivedText formatTimestamp summary tz
  let preview := blockquote (escapeMarkdown (previewText summary))
  Notif.title lang ++ "\n\n" ++ mailboxLine accountLabel lang ++
    Notif.sender lang sender ++ "\n" ++
    Notif.subject lang (escapeMarkdown (subjectText summary lang)) ++ "\n" ++
    Notif.received lang (escapeMarkdown received) ++ "\n" ++
    attachmentsField summary.attachments lang ++ "\n" ++ preview

end

end Jmap2Telegram
