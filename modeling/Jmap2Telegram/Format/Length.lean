import Jmap2Telegram.Format.Injection

/-!
# The length of a notification

The fields are bounded in characters, the message in UTF-16 code units, and the attachments are up
to five more bounded fields. `notificationUnits` adds up what each field costs; a notification fits
Telegram's limit exactly when that sum does, and it need not.
-/

namespace Jmap2Telegram

open MarkdownV2 Str

/-- The text a reader sees has at most `telegramMaxMessageLen` code units. -/
def FitsTelegram (text : String) : Prop :=
  ∃ ts, read text.toList = some ts ∧ utf16Len (visible ts) ≤ telegramMaxMessageLen

/-! ### What each field costs -/

/-- A field cut after `limit` characters, with an ellipsis if it is cut. -/
def cappedUnits (limit : ℕ) (cs : List Char) : ℕ :=
  utf16Len (cs.take limit) + if limit < cs.length then 1 else 0

/-- The locale's own text in a mail's notification: title, three labels, and line feeds. -/
def templateUnits : Locale → ℕ
  | .en => 45
  | .fr => 44

/-- The line naming the mailbox. -/
def mailboxUnits (accountLabel : Option String) (lang : Locale) : ℕ :=
  match accountLabel, lang with
  | none, _ => 0
  | some label, .en => 10 + cappedUnits fieldLimit label.toList
  | some label, .fr => 9 + cappedUnits fieldLimit label.toList

/-- The sender: the address, and the name before it when there is one. -/
def senderUnits (name addr : Option String) (lang : Locale) : ℕ :=
  match addr, lang with
  | none, .en => 16
  | none, .fr => 20
  | some addr, _ =>
    (match name with
      | some name => if name.isEmpty then 0 else cappedUnits fieldLimit name.toList + 3
      | none => 0) + cappedUnits fieldLimit addr.toList

/-- The subject, or its placeholder. -/
def subjectUnits (subject : String) : ℕ :=
  if (trimChars subject.toList).isEmpty then 12
  else cappedUnits fieldLimit (trimChars subject.toList)

/-- The preview, each `\r\n` read as one line feed. -/
def previewUnits (preview : String) : ℕ :=
  let cs := trimChars preview.toList
  utf16Len (crlfToLf (cs.take previewLimit)) + if previewLimit < cs.length then 1 else 0

/-- The placeholder of an attachment without a name. -/
def noNameUnits : Locale → ℕ
  | .en => 9
  | .fr => 10

/-- One attachment: its name or placeholder, and its size in parentheses. -/
def attachmentUnits (lang : Locale) (attachment : String × ℕ) : ℕ :=
  (if (trimChars attachment.1.toList).isEmpty then noNameUnits lang
    else cappedUnits fieldLimit attachment.1.toList) +
    3 + utf16Len (humanSize attachment.2 lang).toList

/-- How many more attachments there are, after a blank. -/
def moreUnits (extra : ℕ) : Locale → ℕ
  | .en => 9 + utf16Len extra.repr.toList
  | .fr => 11 + utf16Len extra.repr.toList

/-- The label of the attachments, the blank after it and the end of the line. -/
def attachmentsLabelUnits : Locale → ℕ
  | .en => 17
  | .fr => 21

/-- The line naming the attachments: the first ones, two characters between them, and how many
more there are. -/
def attachmentsUnits (attachments : List (String × ℕ)) (lang : Locale) : ℕ :=
  if attachments.isEmpty then 0
  else
    attachmentsLabelUnits lang +
    ((attachments.take maxShown).map (attachmentUnits lang)).sum +
    2 * (min maxShown attachments.length - 1) +
    if 0 < attachments.length - maxShown then moreUnits (attachments.length - maxShown) lang
    else 0

/-- What the whole notification costs. -/
def notificationUnits {Tz : Type} (formatTimestamp : Tz → Int64 → Option String)
    (summary : EmailSummary) (tz : Tz) (accountLabel : Option String) (lang : Locale) : ℕ :=
  templateUnits lang + mailboxUnits accountLabel lang +
    senderUnits summary.fromName summary.fromAddr lang + subjectUnits summary.subject +
    utf16Len (receivedText formatTimestamp summary tz).toList +
    attachmentsUnits summary.attachments lang + previewUnits summary.preview

/-! ### The cost is the length -/

/-- A truncated field has the units of its first characters and of an ellipsis. -/
theorem utf16Len_truncate (s : String) (limit : ℕ) :
    utf16Len (truncate s limit).toList = cappedUnits limit s.toList := by
  rw [truncate, cappedUnits]
  split
  · rw [String.toList_append, String.toList_ofList, utf16Len_append]
    rfl
  · rw [List.take_of_length_le (by omega), Nat.add_zero]

theorem utf16Len_visible_lit (s : String) : utf16Len (visible (lit s)) = utf16Len s.toList := by
  rw [lit, visible_map_char]

theorem utf16Len_visible_label (label : Label) :
    utf16Len (visible label.tokens) = utf16Len label.icon.toList + utf16Len label.word.toList := by
  have hbold : ∀ ts, visible (.bold :: ts) = visible ts := fun _ => rfl
  rw [Label.tokens, visible_append, hbold, visible_append, visible_map_char, visible_map_char,
    utf16Len_append, utf16Len_append]
  rfl

theorem units_mailbox (accountLabel : Option String) (lang : Locale) :
    utf16Len (visible (mailboxTokens accountLabel lang)) = mailboxUnits accountLabel lang := by
  rcases accountLabel with - | label
  · rfl
  · rw [mailboxTokens, visible_append, utf16Len_append, utf16Len_visible_label,
      utf16Len_visible_lit, String.toList_append, String.toList_append, utf16Len_append,
      utf16Len_append, utf16Len_truncate]
    cases lang
    · have hword :
          utf16Len (Label.mailbox .en).icon.toList + utf16Len (Label.mailbox .en).word.toList
          = 8 := by decide
      have hgap : utf16Len " ".toList = 1 := by decide
      have hfeed : utf16Len "\n".toList = 1 := by decide
      simp only [mailboxUnits]
      omega
    · have hword :
          utf16Len (Label.mailbox .fr).icon.toList + utf16Len (Label.mailbox .fr).word.toList
          = 7 := by decide
      have hgap : utf16Len " ".toList = 1 := by decide
      have hfeed : utf16Len "\n".toList = 1 := by decide
      simp only [mailboxUnits]
      omega

theorem isEmpty_truncate (s : String) (limit : ℕ) :
    (truncate s limit).isEmpty = s.toList.isEmpty := by
  rw [isEmpty_eq_isEmpty_toList, truncate]
  split
  case isTrue h =>
    have hne : s.toList ≠ [] := List.ne_nil_of_length_pos (Nat.zero_lt_of_lt h)
    rw [String.toList_append, List.isEmpty_eq_false_iff.mpr hne, List.isEmpty_eq_false_iff]
    simp
  case isFalse h => rfl

/-- What a sender needs: the name, if there is one, and the address. -/
theorem units_fromDisplay (name : Option String) (addr : String) :
    utf16Len (fromDisplay name addr).toList =
      (match name with
        | some name => if name.isEmpty then 0 else cappedUnits fieldLimit name.toList + 3
        | none => 0) + utf16Len addr.toList := by
  rcases name with - | name
  · exact (Nat.zero_add _).symm
  · rw [fromDisplay]
    dsimp only
    split
    · exact (Nat.zero_add _).symm
    · have hopen : utf16Len " <".toList = 2 := by decide
      have hclose : utf16Len ">".toList = 1 := by decide
      simp only [String.toList_append, utf16Len_append, utf16Len_truncate]
      omega

/-- What the sender's line needs besides its label. -/
theorem units_sender (name addr : Option String) (lang : Locale) :
    utf16Len (visible (senderTokens name addr lang)) = senderUnits name addr lang := by
  rcases addr with - | addr
  · have hsender : utf16Len (Notif.unknownSender lang).toList = senderUnits name none lang := by
      cases lang <;> rfl
    rwa [← utf16Len_visible_lit] at hsender
  · have hunits : utf16Len (fromDisplay name (truncate addr fieldLimit)).toList
        = senderUnits name (some addr) lang := by
      rw [units_fromDisplay, utf16Len_truncate]
      cases lang <;> rfl
    rw [senderTokens, Option.map_some]
    dsimp only
    split
    · rw [utf16Len_visible_lit, hunits]
    · have hopen : ∀ ts, visible (.linkOpen :: ts) = visible ts := fun _ => rfl
      rw [hopen, visible_append, utf16Len_append, utf16Len_visible_lit, hunits]
      rfl

theorem units_subject (summary : EmailSummary) (lang : Locale) :
    utf16Len (subjectText summary lang).toList = subjectUnits summary.subject := by
  have hempty := isEmpty_truncate (trim summary.subject) fieldLimit
  rw [toList_trim] at hempty
  rw [subjectText, subjectUnits, hempty]
  split
  · cases lang <;> decide
  · rw [utf16Len_truncate, toList_trim]

/-- What the preview needs, once the reader has made each CRLF one line feed. -/
theorem units_preview (summary : EmailSummary) :
    utf16Len (crlfToLf (previewText summary).toList) = previewUnits summary.preview := by
  rw [previewText, truncate, previewUnits, toList_trim]
  split
  · have hdots : "…".toList = ['…'] := rfl
    rw [String.toList_append, String.toList_ofList, hdots, crlfToLf_concat _ (by decide),
      utf16Len_append]
    rfl
  · rw [List.take_of_length_le (by omega), toList_trim, Nat.add_zero]

theorem units_attachment (attachment : String × ℕ) (lang : Locale) :
    utf16Len (attachmentText attachment lang).toList = attachmentUnits lang attachment := by
  have hopen : utf16Len " (".toList = 2 := by decide
  have hclose : utf16Len ")".toList = 1 := by decide
  have hname : utf16Len (attachmentName attachment.1 lang).toList =
      if (trimChars attachment.1.toList).isEmpty then noNameUnits lang
      else cappedUnits fieldLimit attachment.1.toList := by
    rw [attachmentName, isEmpty_eq_isEmpty_toList, toList_trim]
    split
    · cases lang <;> decide
    · exact utf16Len_truncate attachment.1 fieldLimit
  simp only [attachmentText, attachmentUnits, String.toList_append, utf16Len_append, hname]
  omega

theorem units_more (extra : ℕ) (lang : Locale) :
    utf16Len (" " ++ Notif.attachmentsMore lang extra).toList = moreUnits extra lang := by
  cases lang
  · have hopen : utf16Len (" " ++ "(+").toList = 3 := by decide
    have hclose : utf16Len " more)".toList = 6 := by decide
    rw [Notif.attachmentsMore, moreUnits]
    simp only [String.toList_append, utf16Len_append] at hopen ⊢
    omega
  · have hopen : utf16Len (" " ++ "(+").toList = 3 := by decide
    have hclose : utf16Len " autres)".toList = 8 := by decide
    rw [Notif.attachmentsMore, moreUnits]
    simp only [String.toList_append, utf16Len_append] at hopen ⊢
    omega

/-- What the line of the attachments needs. -/
theorem units_attachments (attachments : List (String × ℕ)) (lang : Locale) :
    utf16Len (visible (attachmentsTokens attachments lang)) =
      attachmentsUnits attachments lang := by
  rw [attachmentsTokens, attachmentsUnits]
  split
  · rfl
  · have hgap : utf16Len " ".toList = 1 := by decide
    have hfeed : utf16Len "\n".toList = 1 := by decide
    have hsep : utf16Len ", ".toList = 2 := by decide
    have hshown : utf16Len (", ".intercalate
          ((attachments.take maxShown).map fun a => attachmentText a lang)).toList
        = ((attachments.take maxShown).map (attachmentUnits lang)).sum
          + 2 * (min maxShown attachments.length - 1) := by
      rw [String.toList_intercalate, utf16Len_intercalate, hsep]
      simp only [List.map_map, Function.comp_def, units_attachment, List.length_map,
        List.length_take, Nat.mul_comm]
    rw [visible_append, utf16Len_append, utf16Len_visible_label, utf16Len_visible_lit]
    simp only [attachmentsText, String.toList_append, utf16Len_append, hgap, hfeed, hshown]
    -- the label in both locales
    have hlabel : utf16Len (Label.attachments lang).icon.toList
        + utf16Len (Label.attachments lang).word.toList + 2 = attachmentsLabelUnits lang := by
      cases lang <;> decide
    split
    · rw [units_more]
      omega
    -- nothing is left out
    · have hempty : utf16Len "".toList = 0 := rfl
      omega

/-- The cost of a notification is the length of the text a reader sees. -/
theorem units_notification {Tz : Type} (formatTimestamp : Tz → Int64 → Option String)
    (summary : EmailSummary) (tz : Tz) (accountLabel : Option String) (lang : Locale) :
    utf16Len (visible (notificationTokens formatTimestamp summary tz accountLabel lang)) =
      notificationUnits formatTimestamp summary tz accountLabel lang := by
  have hpreview := units_preview summary
  rw [← intercalate_lines (getLast?_previewText summary), ← visible_quoteTokens] at hpreview
  simp only [notificationTokens, visible_append, utf16Len_append, utf16Len_visible_label,
    utf16Len_visible_lit, String.toList_append, units_mailbox, units_sender, units_subject,
    units_attachments, hpreview, notificationUnits]
  have hgap : utf16Len " ".toList = 1 := by decide
  have hfeed : utf16Len "\n".toList = 1 := by decide
  -- what the template adds to the fields differs by locale
  cases lang
  · have htitle : utf16Len (Label.title .en).icon.toList + utf16Len (Label.title .en).word.toList
        + utf16Len "\n\n".toList = 16 := by decide
    have hsender : utf16Len (Label.sender .en).icon.toList
        + utf16Len (Label.sender .en).word.toList = 5 := by decide
    have hsubject : utf16Len (Label.subject .en).icon.toList
        + utf16Len (Label.subject .en).word.toList = 8 := by decide
    have hreceived : utf16Len (Label.received .en).icon.toList
        + utf16Len (Label.received .en).word.toList = 9 := by decide
    simp only [templateUnits]
    omega
  · have htitle : utf16Len (Label.title .fr).icon.toList + utf16Len (Label.title .fr).word.toList
        + utf16Len "\n\n".toList = 20 := by decide
    have hsender : utf16Len (Label.sender .fr).icon.toList
        + utf16Len (Label.sender .fr).word.toList = 4 := by decide
    have hsubject : utf16Len (Label.subject .fr).icon.toList
        + utf16Len (Label.subject .fr).word.toList = 7 := by decide
    have hreceived : utf16Len (Label.received .fr).icon.toList
        + utf16Len (Label.received .fr).word.toList = 6 := by decide
    simp only [templateUnits]
    omega

/-- A message that is read as some tokens fits if what they show does. -/
theorem fitsTelegram_of_read {text : String} {ts : List Token} (h : read text.toList = some ts) :
    FitsTelegram text ↔ utf16Len (visible ts) ≤ telegramMaxMessageLen := by
  refine ⟨?_, fun hle => ⟨ts, h, hle⟩⟩
  rintro ⟨us, hus, hle⟩
  rwa [Option.some.inj (hus.symm.trans h)] at hle

/-- **When a notification fits.** For every mail, label, time zone and locale, the text a reader
sees stays within Telegram's limit exactly when the costs of its fields add up to at most it. -/
theorem fitsTelegram_iff {Tz : Type} (formatTimestamp : Tz → Int64 → Option String)
    (summary : EmailSummary) (tz : Tz) (accountLabel : Option String) (lang : Locale) :
    FitsTelegram (notificationText formatTimestamp summary tz accountLabel lang) ↔
      notificationUnits formatTimestamp summary tz accountLabel lang ≤ 4096 := by
  rw [fitsTelegram_of_read (read_notificationText formatTimestamp summary tz accountLabel lang),
    units_notification]
  rfl

section

variable {n : ℕ} {c : Char}

/-- A field of one character over and over, below its limit. -/
theorem cappedUnits_replicate (h : n ≤ fieldLimit) (c : Char) :
    cappedUnits fieldLimit (List.replicate n c) = n * lenUtf16 c := by
  have hlen : ¬fieldLimit < (List.replicate n c).length := by
    rw [List.length_replicate]
    omega
  rw [cappedUnits, if_neg hlen, List.take_of_length_le (Nat.le_of_not_lt hlen),
    utf16Len_replicate, Nat.add_zero]

theorem trimChars_replicate (hc : isWhitespace c = false) :
    trimChars (List.replicate n c) = List.replicate n c :=
  trimChars_of_forall fun _ hd => (List.eq_of_mem_replicate hd).symm ▸ hc

end

/-- A name of `n` astral characters, two code units each. -/
def astralName (n : ℕ) : String := String.ofList (List.replicate n '😀')

/-- A mail whose subject, sender's name and five attachment names are `n` astral characters. -/
def astralSummary (n : ℕ) : EmailSummary where
  id := "m1"
  subject := astralName n
  fromName := some (astralName n)
  fromAddr := some "a@b.c"
  preview := ""
  receivedAt := none
  attachments := List.replicate 5 (astralName n, 0)

/-- A name of astral characters needs two units for each. -/
theorem units_astralName {n : ℕ} (h : n ≤ fieldLimit) :
    cappedUnits fieldLimit (astralName n).toList = 2 * n := by
  rw [astralName, String.toList_ofList, cappedUnits_replicate h, Nat.mul_comm]
  rfl

/-- The seven fields of `astralSummary` cost fourteen code units for each character. -/
theorem notificationUnits_astralSummary {n : ℕ} (hpos : 0 < n) (h : n ≤ fieldLimit) :
    14 * n ≤ notificationUnits (fun (_ : Unit) _ => none) (astralSummary n) () none .en := by
  have htrim : trimChars (astralName n).toList = (astralName n).toList := by
    rw [astralName, String.toList_ofList]
    exact trimChars_replicate (by decide)
  have hempty : (astralName n).toList.isEmpty = false := by
    rw [astralName, String.toList_ofList, List.isEmpty_eq_false_iff]
    exact List.ne_nil_of_length_pos (by rwa [List.length_replicate])
  have hsubject : subjectUnits (astralName n) = 2 * n := by
    rw [subjectUnits, htrim, hempty, if_neg Bool.false_ne_true, units_astralName h]
  have hsender : 2 * n ≤ senderUnits (some (astralName n)) (some "a@b.c") .en := by
    simp only [senderUnits, isEmpty_eq_isEmpty_toList, hempty, Bool.false_eq_true, if_false,
      units_astralName h]
    omega
  have hattachment : 2 * n ≤ attachmentUnits .en (astralName n, 0) := by
    simp only [attachmentUnits, htrim, hempty, Bool.false_eq_true, if_false, units_astralName h]
    omega
  have hattachments : 10 * n ≤ attachmentsUnits (List.replicate 5 (astralName n, 0)) .en := by
    have htake : (List.replicate 5 (astralName n, 0)).take maxShown
        = List.replicate 5 (astralName n, 0) := rfl
    have hsome : (List.replicate 5 (astralName n, 0)).isEmpty = false := rfl
    rw [attachmentsUnits, hsome, if_neg Bool.false_ne_true, htake, List.map_replicate,
      List.sum_replicate_nat]
    omega
  simp only [notificationUnits, astralSummary, hsubject]
  omega

/-- With 300 astral characters in each field, the notification does not fit. -/
theorem not_fitsTelegram_astralSummary :
    ¬FitsTelegram
      (notificationText (fun (_ : Unit) _ => none) (astralSummary 300) () none .en) := by
  have hunits := notificationUnits_astralSummary (n := 300) (by decide) (by decide)
  rw [fitsTelegram_of_read (read_notificationText _ (astralSummary 300) () none .en),
    units_notification, telegramMaxMessageLen]
  omega

end Jmap2Telegram
