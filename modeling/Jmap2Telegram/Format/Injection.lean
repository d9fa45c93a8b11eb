import Jmap2Telegram.Format.Notification
import Jmap2Telegram.Markdown.Reader

/-!
# No formatting injection

What a reader finds in the notification's text. `notificationTokens` says it: the locale's labels in
bold, at most one link, one quote mark for each line of the preview, and every field as literal
characters. No field of the mail can add a mark of its own, nor make the message unreadable.
-/

namespace Jmap2Telegram

open MarkdownV2

/-! ### What is meant -/

/-- The words the locale prints in bold, with what stands before them. -/
structure Label where
  icon : String
  word : String

namespace Label

def title : Locale → Label
  | .en => ⟨"📧 ", "New message"⟩
  | .fr => ⟨"📧 ", "Nouveau message"⟩

def mailbox : Locale → Label
  | .en => ⟨"", "Mailbox:"⟩
  | .fr => ⟨"", "Boîte :"⟩

def sender : Locale → Label
  | .en => ⟨"", "From:"⟩
  | .fr => ⟨"", "De :"⟩

def subject : Locale → Label
  | .en => ⟨"", "Subject:"⟩
  | .fr => ⟨"", "Objet :"⟩

def received : Locale → Label
  | .en => ⟨"", "Received:"⟩
  | .fr => ⟨"", "Reçu :"⟩

def attachments : Locale → Label
  | .en => ⟨"📎 ", "Attachments:"⟩
  | .fr => ⟨"📎 ", "Pièces jointes :"⟩

/-- The MarkdownV2 source of a label. -/
def source (label : Label) : List Char :=
  label.icon.toList ++ '*' :: (label.word.toList ++ ['*'])

/-- The tokens of a label: its words between two bold marks. -/
def tokens (label : Label) : List Token :=
  label.icon.toList.map .char ++ .bold :: (label.word.toList.map .char ++ [.bold])

/-- No character of the label is reserved. -/
def Plain (label : Label) : Prop :=
  (∀ c ∈ label.icon.toList, c ∉ reservedChars) ∧ ∀ c ∈ label.word.toList, c ∉ reservedChars

instance (label : Label) : Decidable label.Plain := inferInstanceAs (Decidable (_ ∧ _))

/-- A label of plain characters is read as its tokens. -/
theorem Plain.reads {label : Label} (h : label.Plain) : Reads label.source label.tokens :=
  (reads_plain h.1).append (reads_bold h.2)

end Label

/-- Literal text. -/
def lit (s : String) : List Token := s.toList.map .char

/-- The sanitized address: neither white space nor control characters are left in it. -/
def sanitizedAddress (addr : String) : List Char :=
  addr.toList.filter fun c => !(Str.isWhitespace c || Str.isControl c)

/-- Where the sender's link leads: `mailto:` and the sanitized address. -/
def senderTarget (addr : String) : List Char :=
  "mailto:".toList ++ sanitizedAddress addr

/-- The sender: a link to the sanitized address when there is one, else literal text. -/
def senderTokens (name addr : Option String) (lang : Locale) : List Token :=
  match addr.map fun a => truncate a fieldLimit with
  | none => lit (Notif.unknownSender lang)
  | some addr =>
    if sanitizedAddress addr = [] then lit (fromDisplay name addr)
    else .linkOpen :: (lit (fromDisplay name addr) ++ [.linkClose (senderTarget addr)])

/-- One attachment as it is shown. -/
def attachmentText (attachment : String × ℕ) (lang : Locale) : String :=
  attachmentName attachment.1 lang ++ " (" ++ humanSize attachment.2 lang ++ ")"

/-- The attachments as they are shown. -/
def attachmentsText (attachments : List (String × ℕ)) (lang : Locale) : String :=
  ", ".intercalate ((attachments.take maxShown).map fun a => attachmentText a lang) ++
    if 0 < attachments.length - maxShown then
      " " ++ Notif.attachmentsMore lang (attachments.length - maxShown)
    else ""

/-- The line naming the mailbox. -/
def mailboxTokens (accountLabel : Option String) (lang : Locale) : List Token :=
  match accountLabel with
  | some label => (Label.mailbox lang).tokens ++ lit (" " ++ truncate label fieldLimit ++ "\n")
  | none => []

/-- The line naming the attachments. -/
def attachmentsTokens (attachments : List (String × ℕ)) (lang : Locale) : List Token :=
  if attachments.isEmpty then []
  else (Label.attachments lang).tokens ++ lit (" " ++ attachmentsText attachments lang ++ "\n")

/-- The whole notification. -/
def notificationTokens {Tz : Type} (formatTimestamp : Tz → Int64 → Option String)
    (summary : EmailSummary) (tz : Tz) (accountLabel : Option String) (lang : Locale) :
    List Token :=
  (Label.title lang).tokens ++ lit "\n\n" ++ mailboxTokens accountLabel lang ++
    (Label.sender lang).tokens ++ lit " " ++
      senderTokens summary.fromName summary.fromAddr lang ++ lit "\n" ++
    (Label.subject lang).tokens ++ lit (" " ++ subjectText summary lang ++ "\n") ++
    (Label.received lang).tokens ++
      lit (" " ++ receivedText formatTimestamp summary tz ++ "\n") ++
    attachmentsTokens summary.attachments lang ++ lit "\n" ++
    quoteTokens (Str.lines (previewText summary).toList)

/-! ### Escaped text -/

/-- The source escapes exactly the reserved characters. -/
theorem needsEscape_eq (c : Char) : needsEscape c = decide (c ∈ reservedChars) := by
  simp [needsEscape, reservedChars, Bool.or_assoc, beq_eq_decide]

@[simp]
theorem toList_escapeMarkdown (s : String) : (escapeMarkdown s).toList = escape s.toList := by
  simp [escapeMarkdown, escape, escapeWith, needsEscape_eq]

@[simp]
theorem toList_escapeMarkdownUrl (s : String) :
    (escapeMarkdownUrl s).toList = escapeUrl s.toList := by
  simp [escapeMarkdownUrl, escapeUrl, escapeWith]

@[simp]
theorem toList_blockquote (s : String) :
    (blockquote (escapeMarkdown s)).toList =
      ['\n'].intercalate ((Str.lines s.toList).map fun l => '>' :: escape l) := by
  simp [blockquote, lines_escape, Function.comp_def]

/-! ### The locale's templates -/

namespace Notif

theorem toList_title (lang : Locale) : (title lang).toList = (Label.title lang).source := by
  cases lang <;> decide

/-- A label, a blank and what comes after them. -/
theorem toList_heading {heading value : String} {label : Label}
    (h : heading.toList = label.source ++ [' ']) :
    (heading ++ value).toList = label.source ++ [' '] ++ value.toList := by
  rw [String.toList_append, h]

theorem toList_mailbox (lang : Locale) (label : String) :
    (mailbox lang label).toList = (Label.mailbox lang).source ++ [' '] ++ label.toList := by
  cases lang <;> exact toList_heading (by decide)

theorem toList_sender (lang : Locale) (value : String) :
    (sender lang value).toList = (Label.sender lang).source ++ [' '] ++ value.toList := by
  cases lang <;> exact toList_heading (by decide)

theorem toList_subject (lang : Locale) (value : String) :
    (subject lang value).toList = (Label.subject lang).source ++ [' '] ++ value.toList := by
  cases lang <;> exact toList_heading (by decide)

theorem toList_received (lang : Locale) (value : String) :
    (received lang value).toList = (Label.received lang).source ++ [' '] ++ value.toList := by
  cases lang <;> exact toList_heading (by decide)

theorem toList_attachments (lang : Locale) (value : String) :
    (attachments lang value).toList = (Label.attachments lang).source ++ [' '] ++ value.toList := by
  cases lang <;> exact toList_heading (by decide)

end Notif

/-! ### The lines of the notification -/

/-- A label, then text on the same line. -/
theorem Label.Plain.emits_line {label : Label} (h : label.Plain) {cs : List Char}
    {ts : List Token} (hcs : Reads cs ts) (b : Bool) :
    Emits b true (label.source ++ [' '] ++ cs ++ ['\n'])
      (label.tokens ++ [.char ' '] ++ ts ++ [.char '\n']) := by
  have hblank : Reads [' '] [.char ' '] := reads_plain (by decide)
  have hline := ((h.reads.append hblank).append hcs).newline b
  simpa using hline

/-- The line of the mailbox, or nothing. -/
theorem emits_mailboxLine (accountLabel : Option String) (lang : Locale) :
    Emits true true (mailboxLine accountLabel lang).toList (mailboxTokens accountLabel lang) := by
  rcases accountLabel with - | label
  · exact .nil true
  · have hplain : (Label.mailbox lang).Plain := by cases lang <;> decide
    have hline := hplain.emits_line (reads_escape (truncate label fieldLimit).toList) true
    simpa [mailboxLine, mailboxTokens, Notif.toList_mailbox, lit] using hline

/-- What is left to link to is the sanitized address. -/
@[simp]
theorem toList_mailtoUrl (addr : String) : (mailtoUrl addr).toList = sanitizedAddress addr := by
  rw [mailtoUrl, String.toList_ofList, sanitizedAddress]
  exact List.filter_congr fun c _ => (Bool.not_or _ _).symm

/-- There is a link if something is left of the address. -/
theorem isEmpty_mailtoUrl (addr : String) :
    (mailtoUrl addr).isEmpty = decide (sanitizedAddress addr = []) := by
  rw [Str.isEmpty_eq_isEmpty_toList, toList_mailtoUrl, Bool.eq_iff_iff, decide_eq_true_iff]
  exact List.isEmpty_iff

/-- The scheme has nothing to escape, so the target is escaped as a whole. -/
theorem escapeUrl_senderTarget (addr : String) :
    escapeUrl (senderTarget addr) = "mailto:".toList ++ escapeUrl (sanitizedAddress addr) := by
  have hscheme : escapeUrl "mailto:".toList = "mailto:".toList := by decide
  have happend : escapeUrl (senderTarget addr) =
      escapeUrl "mailto:".toList ++ escapeUrl (sanitizedAddress addr) :=
    escapeWith_append
  rw [happend, hscheme]

/-- The sender: a link with the address, or escaped text. -/
theorem reads_fromField (name addr : Option String) (lang : Locale) :
    Reads (fromField name addr lang).toList (senderTokens name addr lang) := by
  rw [fromField, senderTokens]
  rcases addr.map (fun a => truncate a fieldLimit) with - | addr'
  · simpa [lit] using reads_escape (Notif.unknownSender lang).toList
  · dsimp only
    rw [isEmpty_mailtoUrl]
    by_cases haddr : sanitizedAddress addr' = []
    · simpa [haddr, lit] using reads_escape (fromDisplay name addr').toList
    · have hlink := reads_link (fromDisplay name addr').toList (senderTarget addr')
      rw [escapeUrl_senderTarget] at hlink
      simpa [haddr, lit] using hlink

/-- One attachment is escaped in two parts, which is the same as escaping it whole. -/
theorem toList_attachmentItem (attachment : String × ℕ) (lang : Locale) :
    (attachmentItem attachment lang).toList = escape (attachmentText attachment lang).toList := by
  have hopen : escape " (".toList = " \\(".toList := by decide
  have hclose : escape ")".toList = "\\)".toList := by decide
  simp only [attachmentItem, attachmentText, String.toList_append, toList_escapeMarkdown]
  rw [← hopen, ← hclose]
  simp only [escape, escapeWith_append]

/-- Texts escaped one by one and joined are the joined text escaped. -/
theorem toList_intercalate_escape {sep : String} (hsep : escape sep.toList = sep.toList)
    {α : Type} {shown escaped : α → String}
    (h : ∀ a, (escaped a).toList = escape (shown a).toList) (l : List α) :
    (sep.intercalate (l.map escaped)).toList = escape (sep.intercalate (l.map shown)).toList := by
  have hjoin : escape (sep.toList.intercalate (l.map fun a => (shown a).toList)) = _ :=
    escapeWith_intercalate sep.toList _
  rw [← escape, hsep, List.map_map] at hjoin
  rw [String.toList_intercalate, String.toList_intercalate, List.map_map, List.map_map]
  simpa only [Function.comp_def, h] using hjoin.symm

/-- The list of attachments is escaped part by part, which is the same as escaping it whole. -/
theorem toList_attachmentsField {attachments : List (String × ℕ)} (h : attachments ≠ [])
    (lang : Locale) :
    (attachmentsField attachments lang).toList =
      (Label.attachments lang).source ++ [' '] ++
        escape (attachmentsText attachments lang).toList ++ ['\n'] := by
  have hsep : escape ", ".toList = ", ".toList := by decide
  have hshown := toList_intercalate_escape hsep (fun a => toList_attachmentItem a lang)
    (attachments.take maxShown)
  have hempty : attachments.isEmpty = false := by simpa using h
  have hgap : escape " ".toList = " ".toList := by decide
  have hfeed : "\n".toList = ['\n'] := rfl
  rw [attachmentsField, attachmentsText, hempty, if_neg Bool.false_ne_true]
  simp only [String.toList_append, Notif.toList_attachments, hshown, hfeed]
  split
  · simp only [String.toList_append, toList_escapeMarkdown, escape, escapeWith_append] at hgap ⊢
    rw [hgap]
  · simp only [String.toList_empty, List.append_nil, List.append_assoc]

/-- The line of the attachments, or nothing. -/
theorem emits_attachmentsField (attachments : List (String × ℕ)) (lang : Locale) :
    Emits true true (attachmentsField attachments lang).toList
      (attachmentsTokens attachments lang) := by
  by_cases h : attachments = []
  · subst h
    exact .nil true
  · have hplain : (Label.attachments lang).Plain := by cases lang <;> decide
    have hline := hplain.emits_line (reads_escape (attachmentsText attachments lang).toList) true
    rw [toList_attachmentsField h]
    simpa [attachmentsTokens, h, lit] using hline

/-- The whole text is read as it is meant. -/
theorem read_notificationText {Tz : Type} (formatTimestamp : Tz → Int64 → Option String)
    (summary : EmailSummary) (tz : Tz) (accountLabel : Option String) (lang : Locale) :
    read (notificationText formatTimestamp summary tz accountLabel lang).toList =
      some (notificationTokens formatTimestamp summary tz accountLabel lang) := by
  have htitle : (Label.title lang).Plain := by cases lang <;> decide
  have hsender : (Label.sender lang).Plain := by cases lang <;> decide
  have hsubject : (Label.subject lang).Plain := by cases lang <;> decide
  have hreceived : (Label.received lang).Plain := by cases lang <;> decide
  have hfeed : Emits true true ['\n'] [.char '\n'] := Reads.nil.newline true
  obtain ⟨b, hquotes⟩ := emits_quotes (Str.lines (previewText summary).toList)
  have hall := ((((((htitle.reads.newline true).append hfeed).append
    (emits_mailboxLine accountLabel lang)).append
    (hsender.emits_line (reads_fromField summary.fromName summary.fromAddr lang) true)).append
    (hsubject.emits_line (reads_escape (subjectText summary lang).toList) true)).append
    (hreceived.emits_line
      (reads_escape (receivedText formatTimestamp summary tz).toList) true)).append
    (emits_attachmentsField summary.attachments lang) |>.append hfeed |>.append hquotes
  refine read_of_emits b ?_
  simpa [notificationText, notificationTokens, Notif.toList_title, Notif.toList_sender,
    Notif.toList_subject, Notif.toList_received, lit] using hall

/-! ### The marks -/

/-- The preview never ends in a line feed: it is trimmed, and an ellipsis ends it if it is cut. -/
theorem getLast?_previewText (summary : EmailSummary) :
    (previewText summary).toList.getLast? ≠ some '\n' := by
  rw [previewText, truncate]
  split
  · simp
  · rw [Str.toList_trim]
    intro h
    exact absurd (Str.getLast?_trimChars h) (by decide)

end Jmap2Telegram
