import Jmap2Telegram.State.Tracking

/-!
# The shared accounts of a slot

`store.rs` says twice which slot a shared account belongs to. `resolve_parent_slot` finds its
credentials: a recorded parent is looked up, and without one it is the first slot. `is_child_of`
decides what goes with a slot that is disconnected: without a recorded parent it is the slot called
`"default"`. And with the last slot of a chat the whole record goes.

* `Account.parentKey?`, `Account.resolveParentSlot_eq`: the slot `resolve_parent_slot` returns.
* `StoreData.DropsItsOwn`: a disconnect takes the shared accounts that resolve to its slot.
* `StoreData.SaysOnce`: the records where it does.
-/

namespace Jmap2Telegram

/-- Where `resolve_parent_slot` finds the slot it returns a reference to. -/
def Account.parentKey? (account : Account) (shared : SharedAccount) : Option String :=
  match shared.parentSlot with
  | some slot => if slot ∈ account.accounts then some slot else none
  | none => account.accounts.minKey?

/-- `resolve_parent_slot` finds the slot `parentKey?` names. -/
theorem Account.resolveParentSlot_eq {account : Account} {shared : SharedAccount} :
    account.resolveParentSlot shared =
      (account.parentKey? shared).bind fun slotId => account.accounts[slotId]? := by
  rw [resolveParentSlot, parentKey?]
  rcases shared.parentSlot with - | slot
  · exact primarySlot_eq
  · by_cases hslot : slot ∈ account.accounts
    · simp only [if_pos hslot, Option.bind_some]
    · simp only [if_neg hslot, Option.bind_none, Std.ExtTreeMap.getElem?_eq_none hslot]

/-- A shared account of a chat for which `resolve_parent_slot` returns the slot. -/
def StoreData.ResolvesTo (data : StoreData) (chatId : ChatId) (slotId accountId : String) : Prop :=
  ∃ account ∈ data.accounts[chatId]?, ∃ shared ∈ account.sharedAccounts[accountId]?,
    account.parentKey? shared = some slotId

/-- A disconnect takes the shared accounts that resolve to its slot: `remove_account` deletes these
from the chat's record, and `forget_account` before it stops their watchers and the slot's. -/
structure StoreData.DropsItsOwn (lib : Externals) (data : StoreData) (chatId : ChatId)
    (slotId : String) : Prop where
  removed : ∀ c a shared,
    ((Op.removeAccount chatId slotId).apply lib data).shared? c a = some shared ↔
      data.shared? c a = some shared ∧ ¬(chatId = c ∧ data.ResolvesTo chatId slotId a)
  stopped : ∀ app : AppState, app.data = data → ∀ c m watcher,
    (app.forgetAccount chatId slotId).watcher? c m = some watcher ↔
      app.watcher? c m = some watcher ∧
        ¬(chatId = c ∧ (m = .account slotId ∨ ∃ a, m = .shared a ∧ data.ResolvesTo chatId slotId a))

/-- The records on which the two meanings of a parent agree about a slot. -/
structure Account.SaysOnce (account : Account) (slotId : String) : Prop where
  /-- Without a recorded parent, a shared account is under the first slot, and under `"default"`. -/
  unnamed : ∀ (a : String) (shared : SharedAccount), account.sharedAccounts[a]? = some shared →
    shared.parentSlot = none → (slotId = "default" ↔ account.accounts.minKey? = some slotId)
  /-- With the last slot go all shared accounts, those with another recorded parent, too. -/
  last : (account.accounts.erase slotId).isEmpty = true →
    ∀ (a : String) (shared : SharedAccount) (parent : String),
      account.sharedAccounts[a]? = some shared → shared.parentSlot = some parent → parent = slotId

variable {lib : Externals} {data : StoreData} {account : Account} {shared : SharedAccount}
  {chatId c : ChatId} {slotId a : String}

/-- `is_child_of` takes an account without a parent for one of the default slot. -/
theorem SharedAccount.isChildOf_iff : shared.isChildOf slotId = true ↔
    shared.parentSlot = some slotId ∨ shared.parentSlot = none ∧ slotId = "default" := by
  rw [isChildOf]
  rcases shared.parentSlot with - | parent <;> simp

/-- `resolve_parent_slot` takes it for one of the first slot. -/
theorem Account.parentKey?_eq_iff (hslot : slotId ∈ account.accounts) :
    account.parentKey? shared = some slotId ↔ shared.parentSlot = some slotId ∨
      shared.parentSlot = none ∧ account.accounts.minKey? = some slotId := by
  rw [parentKey?]
  rcases shared.parentSlot with - | parent
  · simp
  · by_cases hparent : parent ∈ account.accounts
    · simp [hparent]
    · have hne : parent ≠ slotId := fun heq => hparent (heq ▸ hslot)
      simp [hparent, hne]

/-- A slot that is the only one is the first one. -/
theorem Account.minKey?_eq_of_isEmpty_erase (hslot : slotId ∈ account.accounts)
    (hlast : (account.accounts.erase slotId).isEmpty = true) :
    account.accounts.minKey? = some slotId := by
  refine Std.ExtTreeMap.minKey?_eq_some_iff_mem_and_forall.mpr ⟨hslot, fun key hkey => ?_⟩
  have hgone : key ∉ account.accounts.erase slotId := Map.isEmpty_iff_forall_not_mem.mp hlast key
  rw [Std.ExtTreeMap.mem_erase, not_and] at hgone
  have heq : compare slotId key = .eq := by
    by_contra hne
    exact hgone hne hkey
  simp [heq]

section

variable (haccount : data.accounts[chatId]? = some account)
include haccount

/-- The shared accounts that resolve to a slot, by their entries. -/
theorem StoreData.resolvesTo_iff : data.ResolvesTo chatId slotId a ↔
    ∃ shared, account.sharedAccounts[a]? = some shared ∧
      account.parentKey? shared = some slotId := by
  simp [ResolvesTo, haccount]

/-- What a disconnect leaves of the shared accounts, whatever their parents are. -/
theorem StoreData.shared?_removeAccount_eq_some (hslot : slotId ∈ account.accounts) :
    ((Op.removeAccount chatId slotId).apply lib data).shared? c a = some shared ↔
      data.shared? c a = some shared ∧ ¬(chatId = c ∧
        ((account.accounts.erase slotId).isEmpty = true ∨ shared.isChildOf slotId = true)) := by
  rw [shared?, getElem?_removeAccount]
  by_cases hc : chatId = c
  · subst hc
    rw [if_pos rfl, shared?, haccount, Option.bind_some, Option.bind_some, if_pos hslot]
    by_cases hlast : (account.accounts.erase slotId).isEmpty = true
    · simp [hlast]
    · rw [if_neg hlast, Option.bind_some, withoutSlot, Map.getElem?_filter_eq_some]
      simp [hlast]
  · rw [if_neg hc, shared?, and_iff_left fun h => hc h.1]

/-- A disconnect that takes its own finds one meaning of a parent: what `forget_account` makes of an
account without a recorded parent, and the last slot's disconnect of the others. -/
theorem StoreData.DropsItsOwn.saysOnce (h : data.DropsItsOwn lib chatId slotId)
    (hslot : slotId ∈ account.accounts) : account.SaysOnce slotId where
  unnamed a shared hshared hparent := by
    -- a watcher of the shared account shows whether it is forgotten
    let watched := (AppState.new data).insertWatcher chatId ⟨"", "", none⟩ (.shared a)
    have hwatched : watched.watcher? chatId (.shared a) = some ⟨"", "", none⟩ := by
      rw [AppState.watcher?_insertWatcher, if_pos ⟨rfl, rfl⟩]
    have hdata : watched.data = data := AppState.data_insertWatcher
    have hstop := h.stopped watched hdata chatId (.shared a) ⟨"", "", none⟩
    rw [AppState.watcher?_forgetAccount, hdata, and_iff_right hwatched, and_iff_right hwatched,
      not_iff_not, and_iff_right rfl, and_iff_right rfl, StoreData.Under,
      StoreData.mem_childIds] at hstop
    simpa [StoreData.shared?, haccount, hshared, StoreData.resolvesTo_iff haccount, hparent,
      SharedAccount.isChildOf_iff, Account.parentKey?_eq_iff hslot] using hstop
  last hlast a shared parent hshared hparent := by
    have hgone := h.removed chatId a shared
    rw [StoreData.shared?_removeAccount_eq_some haccount hslot] at hgone
    simpa [StoreData.shared?, haccount, hshared, StoreData.resolvesTo_iff haccount, hparent,
      hlast, Account.parentKey?_eq_iff hslot] using hgone

/-- Where the two meanings of a parent agree, a disconnect takes its own. -/
theorem Account.SaysOnce.dropsItsOwn (h : account.SaysOnce slotId)
    (hslot : slotId ∈ account.accounts) : data.DropsItsOwn lib chatId slotId := by
  have hagree : ∀ {a : String} {shared : SharedAccount}, account.sharedAccounts[a]? = some shared →
      (shared.isChildOf slotId = true ↔ account.parentKey? shared = some slotId) := by
    intro a shared hshared
    rw [SharedAccount.isChildOf_iff, Account.parentKey?_eq_iff hslot]
    exact or_congr_right (and_congr_right (h.unnamed a shared hshared))
  constructor
  · intro c a shared
    rw [StoreData.shared?_removeAccount_eq_some haccount hslot]
    refine and_congr_right fun hshared => not_congr (and_congr_right ?_)
    rintro rfl
    rw [StoreData.shared?, haccount, Option.bind_some] at hshared
    -- what goes with the last slot resolves to it
    have hlast : (account.accounts.erase slotId).isEmpty = true →
        account.parentKey? shared = some slotId := by
      intro hlast
      rw [Account.parentKey?_eq_iff hslot]
      rcases hparent : shared.parentSlot with - | parent
      · exact .inr ⟨rfl, Account.minKey?_eq_of_isEmpty_erase hslot hlast⟩
      · exact .inl (congrArg some (h.last hlast a shared parent hshared hparent))
    rw [hagree hshared, or_iff_right_of_imp hlast, StoreData.resolvesTo_iff haccount, hshared]
    simp
  · rintro app rfl c m watcher
    have hunder : ∀ a, a ∈ app.data.childIds chatId slotId ↔
        app.data.ResolvesTo chatId slotId a := by
      intro a
      rw [StoreData.mem_childIds, StoreData.resolvesTo_iff haccount, StoreData.shared?, haccount,
        Option.bind_some]
      exact exists_congr fun shared => and_congr_right hagree
    rw [AppState.watcher?_forgetAccount]
    refine and_congr_right fun _ => not_congr (and_congr_right fun _ => ?_)
    cases m with
    | account s => simp [StoreData.Under]
    | shared a => simp [StoreData.Under, hunder]

/-- **A disconnect takes exactly the shared accounts that resolve to its slot** on the records where
the two meanings of a parent agree, and on no others. -/
theorem dropsItsOwn_iff (hslot : slotId ∈ account.accounts) :
    data.DropsItsOwn lib chatId slotId ↔ account.SaysOnce slotId :=
  ⟨fun h => h.saysOnce haccount hslot, fun h => h.dropsItsOwn haccount hslot⟩

end

/-- A record with two slots, and a shared mailbox without a recorded parent. -/
private def unnamedParent : Account :=
  { Account.empty with
    accounts := (∅ : Map String AccountSlot).insert "default" ⟨"default", "", "", "", none, none⟩
      |>.insert "aaaa1111" ⟨"aaaa1111", "", "", "", none, none⟩
    sharedAccounts := (∅ : Map String SharedAccount).insert "team" ⟨"team", none, none, none⟩ }

private theorem minKey?_unnamedParent : unnamedParent.accounts.minKey? = some "aaaa1111" := by
  refine Std.ExtTreeMap.minKey?_eq_some_iff_mem_and_forall.mpr ⟨by simp [unnamedParent], ?_⟩
  intro key hkey
  have hkeys : key = "aaaa1111" ∨ key = "default" := by
    simpa [unnamedParent, Std.ExtTreeMap.mem_insert, @eq_comm _ key] using hkey
  obtain rfl | rfl := hkeys <;> decide

theorem dropsItsOwn_iff_unnamedParent :
    (StoreData.mk ((∅ : Map ChatId Account).insert 7 unnamedParent)).DropsItsOwn .concrete 7
      "aaaa1111" ↔ unnamedParent.SaysOnce "aaaa1111" :=
  dropsItsOwn_iff (by simp) (by simp [unnamedParent])

/-- The mailbox resolves to `"aaaa1111"`, and it goes with `"default"`. -/
theorem not_forall_dropsItsOwn : ¬∀ (lib : Externals) (data : StoreData) (account : Account)
    (chatId : ChatId) (slotId : String), data.accounts[chatId]? = some account →
      slotId ∈ account.accounts → data.DropsItsOwn lib chatId slotId := by
  intro h
  let data : StoreData := ⟨(∅ : Map ChatId Account).insert 7 unnamedParent⟩
  have haccount : data.accounts[(7 : ChatId)]? = some unnamedParent := by simp [data]
  have hslot : "default" ∈ unnamedParent.accounts := by simp [unnamedParent]
  have honce : unnamedParent.SaysOnce "default" :=
    (h .concrete data unnamedParent 7 "default" haccount hslot).saysOnce haccount hslot
  have hfirst : unnamedParent.accounts.minKey? = some "default" :=
    (honce.unnamed "team" ⟨"team", none, none, none⟩ (by simp [unnamedParent]) rfl).mp rfl
  rw [minKey?_unnamedParent] at hfirst
  exact absurd hfirst (by decide)

end Jmap2Telegram
