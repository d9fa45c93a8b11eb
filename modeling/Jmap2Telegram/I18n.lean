import Jmap2Telegram.ForStd.Str

/-!
# Languages

`i18n.rs` and the tables of the two shipped locales, as far as the modelled code reads them: how a
chat's locale is resolved, and the texts of the notifications and of their buttons.
-/

namespace Jmap2Telegram

/-- The shipped locales. -/
inductive Locale where
  | en
  | fr
  deriving DecidableEq

/-- The name of a locale, as it is stored. -/
def Locale.name : Locale → String
  | en => "en"
  | fr => "fr"

/-! ### Resolution -/

namespace I18n

/-- `SUPPORTED`, in its order. -/
def supported : List (String × Locale) := [("en", .en), ("fr", .fr)]

/-- `canonical`: an exact locale string, up to ASCII case. -/
def canonical (locale : String) : Option Locale :=
  (supported.find? fun entry => Str.eqIgnoreAsciiCase entry.1 locale).map Prod.snd

/-- `detect`: a Telegram `language_code`, by its primary subtag. -/
def detect (code : String) : Option Locale :=
  canonical (String.ofList (code.toList.takeWhile fun c => c != '-' && c != '_'))

/-- `resolve`: the stored preference, then the message's language, then the operator's default,
then English. -/
def resolve (stored detected : Option String) (defaultLanguage : String) : Locale :=
  (((stored.bind canonical).or (detected.bind detect)).or (canonical defaultLanguage)).getD .en

end I18n

/-! ### The locale tables -/

namespace Notif

def title : Locale → String
  | .en => "📧 *New message*"
  | .fr => "📧 *Nouveau message*"

def mailbox (lang : Locale) (label : String) : String :=
  match lang with
  | .en => "*Mailbox:* " ++ label
  | .fr => "*Boîte :* " ++ label

def sender (lang : Locale) (value : String) : String :=
  match lang with
  | .en => "*From:* " ++ value
  | .fr => "*De :* " ++ value

def subject (lang : Locale) (value : String) : String :=
  match lang with
  | .en => "*Subject:* " ++ value
  | .fr => "*Objet :* " ++ value

def received (lang : Locale) (value : String) : String :=
  match lang with
  | .en => "*Received:* " ++ value
  | .fr => "*Reçu :* " ++ value

def attachments (lang : Locale) (value : String) : String :=
  match lang with
  | .en => "📎 *Attachments:* " ++ value
  | .fr => "📎 *Pièces jointes :* " ++ value

def attachmentsMore (lang : Locale) (count : ℕ) : String :=
  match lang with
  | .en => "(+" ++ count.repr ++ " more)"
  | .fr => "(+" ++ count.repr ++ " autres)"

def unknownSender : Locale → String
  | .en => "(unknown sender)"
  | .fr => "(expéditeur inconnu)"

def noSubject : Locale → String
  | .en => "(no subject)"
  | .fr => "(sans objet)"

def emptyMessage : Locale → String
  | .en => "(empty message)"
  | .fr => "(message vide)"

def emptyAttachmentName : Locale → String
  | .en => "(no name)"
  | .fr => "(sans nom)"

def unitB (lang : Locale) (value : String) : String :=
  match lang with
  | .en => value ++ " B"
  | .fr => value ++ " o"

def unitKb (lang : Locale) (value : String) : String :=
  match lang with
  | .en => value ++ " KB"
  | .fr => value ++ " Ko"

def unitMb (lang : Locale) (value : String) : String :=
  match lang with
  | .en => value ++ " MB"
  | .fr => value ++ " Mo"

end Notif

namespace Bot

def fullTextPartial (lang : Locale) (count : ℕ) (listing : String) : String :=
  match lang with
  | .en => "⚠️ " ++ count.repr ++ " part(s) of the message could not be sent (" ++ listing ++
      "). Retry « Read all » to read everything again."
  | .fr => "⚠️ " ++ count.repr ++ " partie(s) du message n'ont pas pu être envoyées (" ++ listing ++
      "). Réessaie « Lire tout » pour tout relire."

end Bot

namespace Buttons

def readAll : Locale → String
  | .en => "📖 Read all"
  | .fr => "📖 Lire tout"

def read : Locale → String
  | .en => "✅ Read"
  | .fr => "✅ Lu"

def readDone : Locale → String
  | .en => "✔️ Read"
  | .fr => "✔️ Lu"

def archive : Locale → String
  | .en => "📥 Archive"
  | .fr => "📥 Archiver"

def spam : Locale → String
  | .en => "🚫 Spam"
  | .fr => "🚫 Spam"

def delete : Locale → String
  | .en => "🗑 Delete"
  | .fr => "🗑 Supprimer"

def more : Locale → String
  | .en => "⋯ More"
  | .fr => "⋯ Plus"

def less : Locale → String
  | .en => "⌃ Less"
  | .fr => "⌃ Moins"

def undo : Locale → String
  | .en => "↩️ Undo"
  | .fr => "↩️ Annuler"

end Buttons

end Jmap2Telegram
