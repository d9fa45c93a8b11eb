import Jmap2Telegram.ForStd.Str
import Jmap2Telegram.ForStd.TreeMap

/-!
# The chat record

The data model of `store.rs`: a chat holds an `Account`, which holds its connected account slots
(keyed by slot id, in key order: a `BTreeMap` in the source), its opted-in shared mailboxes (a
`HashMap`, keyed by the JMAP account id the server chose), its language, its mute filters and its
topic preference. `StoreData` maps chats to records and is what `state.enc` holds.
-/

namespace Jmap2Telegram

/-- A Telegram chat id (`i64`). -/
abbrev ChatId := Int64

/-- The id of a forum topic (`i32`). -/
abbrev ThreadId := Int32

/-- A single JMAP account slot connected to a chat. -/
structure AccountSlot where
  slotId : String
  serverUrl : String
  token : String
  email : String
  lastState : Option String
  threadId : Option ThreadId
  deriving DecidableEq

/-- A shared JMAP account the chat has opted into; presence in `Account.sharedAccounts` is the
opt-in. -/
structure SharedAccount where
  name : String
  lastState : Option String
  parentSlot : Option String
  threadId : Option ThreadId
  deriving DecidableEq

/-- Whether a shared account is authorized under `slotId`; `none` indicates `"default"`. -/
def SharedAccount.isChildOf (shared : SharedAccount) (slotId : String) : Bool :=
  match shared.parentSlot with
  | some parent => parent == slotId
  | none => slotId == "default"

/-- The characters `generate_slot_id` draws from. -/
def slotAlphabet : List Char := "abcdefghijklmnopqrstuvwxyz0123456789".toList

/-- What `generate_slot_id` may return: eight characters of the alphabet. -/
structure GeneratedSlotId where
  val : String
  length_eq : val.toList.length = 8
  mem_alphabet : ∀ c ∈ val.toList, c ∈ slotAlphabet

/-- An authorized chat's full persistent state. -/
structure Account where
  language : Option String
  sharedAccounts : Map String SharedAccount
  accounts : Map String AccountSlot
  muted : List String
  threadsEnabled : Option Bool
  deriving DecidableEq

namespace Account

/-- The record `add_account` starts a chat with. -/
def empty : Account := ⟨none, ∅, ∅, [], none⟩

/-- The first connected account slot, in key order. -/
def primarySlot (account : Account) : Option AccountSlot := account.accounts.values.head?

/-- Primary email address, or the empty string if no accounts are connected. -/
def email (account : Account) : String := (account.primarySlot.map AccountSlot.email).getD ""

/-- Primary sync cursor. -/
def lastState (account : Account) : Option String :=
  account.primarySlot.bind AccountSlot.lastState

/-- Whether an email is already connected in any account slot, up to ASCII case. -/
def containsEmail (account : Account) (email : String) : Bool :=
  account.accounts.values.any fun slot => Str.eqIgnoreAsciiCase slot.email email

/-- The parent account slot of a shared mailbox. -/
def resolveParentSlot (account : Account) (shared : SharedAccount) : Option AccountSlot :=
  match shared.parentSlot with
  | some slot => account.accounts[slot]?
  | none => account.primarySlot

end Account

/-- What the state file holds: Telegram chat id to connected JMAP accounts. -/
structure StoreData where
  accounts : Map ChatId Account
  deriving DecidableEq

/-- `StoreData::default`. -/
def StoreData.empty : StoreData := ⟨∅⟩

end Jmap2Telegram
