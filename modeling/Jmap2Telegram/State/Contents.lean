import Jmap2Telegram.State.Lifecycle

/-!
# What the store holds

What the operations the commands call do to the slots and the shared accounts, lookup by lookup, and
the invariant of the data they leave: every slot is stored under its own id, that id is `"default"`
or was generated, and every shared account names a parent slot that is connected.

* `slot?_addAccount`, `shared?_removeAccount`, …: one lemma for each lookup after each operation.
* `WellFormed`: the invariant, and `WellFormed.addAccount`, …: its preservation.
-/

namespace Jmap2Telegram

namespace StoreData

variable {lib : Externals} {data : StoreData} {chatId c : ChatId} {slotId s accountId a : String}

/-- Whether a mailbox of a chat is in the store. -/
def Holds (data : StoreData) (c : ChatId) : Mailbox → Prop
  | .account slotId => (data.slot? c slotId).isSome
  | .shared accountId => (data.shared? c accountId).isSome

/-- Every shared account names a parent slot that is connected. -/
def ParentsConnected (data : StoreData) : Prop :=
  ∀ c a shared, data.shared? c a = some shared →
    ∃ p, shared.parentSlot = some p ∧ (data.slot? c p).isSome

/-- Every slot is stored under its own id, which is `"default"` or was generated, and every shared
account names a connected parent. -/
structure WellFormed (data : StoreData) : Prop where
  keyed : ∀ c s slot, data.slot? c s = some slot → slot.slotId = s
  slotIds : ∀ c s, (data.slot? c s).isSome → s = "default" ∨ s.toList.length = 8
  parents : data.ParentsConnected

/-! ### Lookups after an operation -/

/-- A change of one record leaves the others. -/
theorem getElem?_modify {f : Account → Account} :
    (data.modify chatId f).accounts[c]? =
      if chatId = c then data.accounts[c]?.map f else data.accounts[c]? := by
  rw [modify, Map.getElem?_modify]

/-- Editing records without touching their slots. -/
theorem slot?_modify {f : Account → Account}
    (hf : ∀ account, (f account).accounts = account.accounts) :
    (data.modify chatId f).slot? c s = data.slot? c s := by
  rw [slot?, slot?, getElem?_modify]
  split
  · rw [Option.bind_map]
    exact congrArg _ (funext fun account => by rw [Function.comp_apply, hf])
  · rfl

/-- Editing records without touching their shared accounts. -/
theorem shared?_modify {f : Account → Account}
    (hf : ∀ account, (f account).sharedAccounts = account.sharedAccounts) :
    (data.modify chatId f).shared? c a = data.shared? c a := by
  rw [shared?, shared?, getElem?_modify]
  split
  · rw [Option.bind_map]
    exact congrArg _ (funext fun account => by rw [Function.comp_apply, hf])
  · rfl

/-- A change of one slot leaves the others. -/
theorem slot?_modifySlot {f : AccountSlot → AccountSlot} :
    (data.modify chatId fun account => account.modifySlot slotId f).slot? c s =
      if chatId = c ∧ slotId = s then (data.slot? c s).map f else data.slot? c s := by
  rw [slot?, slot?, getElem?_modify]
  by_cases hc : chatId = c
  · rcases data.accounts[c]? with - | account
    · simp
    · simp only [hc, if_true, Option.map_some, Option.bind_some, Account.modifySlot,
        Map.getElem?_modify, true_and]
  · simp [hc]

/-- A change of one shared account leaves the others. -/
theorem shared?_modifyShared {f : SharedAccount → SharedAccount} :
    (data.modify chatId fun account => account.modifyShared accountId f).shared? c a =
      if chatId = c ∧ accountId = a then (data.shared? c a).map f else data.shared? c a := by
  rw [shared?, shared?, getElem?_modify]
  by_cases hc : chatId = c
  · rcases data.accounts[c]? with - | account
    · simp
    · simp only [hc, if_true, Option.map_some, Option.bind_some, Account.modifyShared,
        Map.getElem?_modify, true_and]
  · simp [hc]

/-- `add_account` puts its slot under the id it has chosen. -/
theorem slot?_addAccount {slot : AccountSlot} {generated : GeneratedSlotId} :
    ((Op.addAccount chatId slot generated).apply lib data).slot? c s =
      if chatId = c ∧ Store.slotIdFor slot generated = s then
        some { slot with slotId := Store.slotIdFor slot generated }
      else data.slot? c s := by
  simp only [Op.apply, Op.lockedSection, Store.addAccount, slot?, Map.getElem?_insert]
  by_cases hc : chatId = c
  · subst hc
    rcases data.accounts[chatId]? with - | account <;>
      simp [Map.getElem?_insert, Account.empty]
  · simp [hc]

theorem shared?_addAccount {slot : AccountSlot} {generated : GeneratedSlotId} :
    ((Op.addAccount chatId slot generated).apply lib data).shared? c a = data.shared? c a := by
  simp only [Op.apply, Op.lockedSection, Store.addAccount, shared?, Map.getElem?_insert]
  by_cases hc : chatId = c
  · subst hc
    rcases data.accounts[chatId]? with - | account <;> simp [Account.empty]
  · simp [hc]

theorem slot?_setLanguage {language : String} :
    ((Op.setLanguage chatId language).apply lib data).slot? c s = data.slot? c s := by
  simp only [Op.apply, Op.lockedSection, Store.setLanguage]
  rcases data.accounts[chatId]? with - | account
  · rfl
  · exact slot?_modify fun _ => rfl

theorem shared?_setLanguage {language : String} :
    ((Op.setLanguage chatId language).apply lib data).shared? c a = data.shared? c a := by
  simp only [Op.apply, Op.lockedSection, Store.setLanguage]
  rcases data.accounts[chatId]? with - | account
  · rfl
  · exact shared?_modify fun _ => rfl

theorem slot?_setThreadsEnabled {enabled : Option Bool} :
    ((Op.setThreadsEnabled chatId enabled).apply lib data).slot? c s = data.slot? c s := by
  simp only [Op.apply, Op.lockedSection, Store.setThreadsEnabled]
  rcases data.accounts[chatId]? with - | account
  · rfl
  · exact slot?_modify fun _ => rfl

theorem shared?_setThreadsEnabled {enabled : Option Bool} :
    ((Op.setThreadsEnabled chatId enabled).apply lib data).shared? c a = data.shared? c a := by
  simp only [Op.apply, Op.lockedSection, Store.setThreadsEnabled]
  rcases data.accounts[chatId]? with - | account
  · rfl
  · exact shared?_modify fun _ => rfl

/-- Giving a slot a topic changes nothing else of it. -/
theorem slot?_setAccountThreadId {threadId : Option ThreadId} :
    ((Op.setAccountThreadId chatId slotId threadId).apply lib data).slot? c s =
      if chatId = c ∧ slotId = s then
        (data.slot? c s).map fun slot => { slot with threadId := threadId }
      else data.slot? c s := by
  simp only [Op.apply, Op.lockedSection, Store.setAccountThreadId]
  rcases hslot : data.slot? chatId slotId with - | slot
  · change data.slot? c s = _
    split
    case isTrue h =>
      obtain ⟨rfl, rfl⟩ := h
      rw [hslot, Option.map_none]
    case isFalse => rfl
  · exact slot?_modifySlot

theorem shared?_setAccountThreadId {threadId : Option ThreadId} :
    ((Op.setAccountThreadId chatId slotId threadId).apply lib data).shared? c a =
      data.shared? c a := by
  simp only [Op.apply, Op.lockedSection, Store.setAccountThreadId]
  rcases data.slot? chatId slotId with - | slot
  · rfl
  · exact shared?_modify fun _ => rfl

theorem slot?_setSharedAccountThreadId {threadId : Option ThreadId} :
    ((Op.setSharedAccountThreadId chatId accountId threadId).apply lib data).slot? c s =
      data.slot? c s := by
  simp only [Op.apply, Op.lockedSection, Store.setSharedAccountThreadId]
  rcases data.shared? chatId accountId with - | shared
  · rfl
  · exact slot?_modify fun _ => rfl

/-- Giving a shared account a topic changes nothing else of it. -/
theorem shared?_setSharedAccountThreadId {threadId : Option ThreadId} :
    ((Op.setSharedAccountThreadId chatId accountId threadId).apply lib data).shared? c a =
      if chatId = c ∧ accountId = a then
        (data.shared? c a).map fun shared => { shared with threadId := threadId }
      else data.shared? c a := by
  simp only [Op.apply, Op.lockedSection, Store.setSharedAccountThreadId]
  rcases hshared : data.shared? chatId accountId with - | shared
  · change data.shared? c a = _
    split
    case isTrue h =>
      obtain ⟨rfl, rfl⟩ := h
      rw [hshared, Option.map_none]
    case isFalse => rfl
  · exact shared?_modifyShared

theorem slot?_setSharedAccount {name : String} {lastState parentSlot : Option String} :
    ((Op.setSharedAccount chatId accountId name lastState parentSlot).apply lib data).slot? c s =
      data.slot? c s := by
  simp only [Op.apply, Op.lockedSection, Store.setSharedAccount]
  rcases data.accounts[chatId]? with - | account
  · rfl
  · exact slot?_modify fun _ => rfl

/-- `set_shared_account` puts its entry in place of the one that was there. -/
theorem shared?_setSharedAccount {name : String} {lastState parentSlot : Option String}
    (h : (data.accounts[chatId]?).isSome) :
    ((Op.setSharedAccount chatId accountId name lastState parentSlot).apply lib data).shared? c a =
      if chatId = c ∧ accountId = a then some ⟨name, lastState, parentSlot, none⟩
      else data.shared? c a := by
  obtain ⟨account, haccount⟩ := Option.isSome_iff_exists.mp h
  simp only [Op.apply, Op.lockedSection, Store.setSharedAccount, haccount]
  rw [shared?, shared?, getElem?_modify]
  by_cases hc : chatId = c
  · subst hc
    simp [haccount, Map.getElem?_insert]
  · simp [hc]

theorem slot?_removeSharedAccount :
    ((Op.removeSharedAccount chatId accountId).apply lib data).slot? c s = data.slot? c s := by
  simp only [Op.apply, Op.lockedSection, Store.removeSharedAccount]
  rcases data.shared? chatId accountId with - | shared
  · rfl
  · exact slot?_modify fun _ => rfl

theorem shared?_removeSharedAccount :
    ((Op.removeSharedAccount chatId accountId).apply lib data).shared? c a =
      if chatId = c ∧ accountId = a then none else data.shared? c a := by
  simp only [Op.apply, Op.lockedSection, Store.removeSharedAccount]
  rcases hshared : data.shared? chatId accountId with - | shared
  · change data.shared? c a = _
    split
    case isTrue h =>
      obtain ⟨rfl, rfl⟩ := h
      exact hshared
    case isFalse => rfl
  · rw [shared?, shared?, getElem?_modify]
    by_cases hc : chatId = c
    · rcases data.accounts[c]? with - | account
      · simp
      · simp [hc, Map.getElem?_erase]
    · simp [hc]

theorem getElem?_remove :
    ((Op.remove chatId).apply lib data).accounts[c]? =
      if chatId = c then none else data.accounts[c]? := by
  simp only [Op.apply, Op.lockedSection, Store.remove]
  by_cases h : chatId ∈ data.accounts
  · simp only [if_pos h, erase, Map.getElem?_erase]
  · simp only [if_neg h]
    split
    case isTrue hc =>
      subst hc
      exact Std.ExtTreeMap.getElem?_eq_none h
    case isFalse => rfl

theorem slot?_remove :
    ((Op.remove chatId).apply lib data).slot? c s =
      if chatId = c then none else data.slot? c s := by
  rw [slot?, getElem?_remove]
  split <;> rfl

theorem shared?_remove :
    ((Op.remove chatId).apply lib data).shared? c a =
      if chatId = c then none else data.shared? c a := by
  rw [shared?, getElem?_remove]
  split <;> rfl

/-- A record without one of its slots and the shared accounts under it. -/
def withoutSlot (account : Account) (slotId : String) : Account :=
  { account with
    accounts := account.accounts.erase slotId
    sharedAccounts := account.sharedAccounts.filter fun _ shared => !shared.isChildOf slotId }

/-- Removing a slot deletes the record with its last slot, and else edits it. -/
theorem getElem?_removeAccount :
    ((Op.removeAccount chatId slotId).apply lib data).accounts[c]? =
      if chatId = c then
        data.accounts[c]?.bind fun account =>
          if slotId ∈ account.accounts then
            if (account.accounts.erase slotId).isEmpty then none
            else some (withoutSlot account slotId)
          else some account
      else data.accounts[c]? := by
  simp only [Op.apply, Op.lockedSection, Store.removeAccount]
  rcases haccount : data.accounts[chatId]? with - | account
  · change data.accounts[c]? = _
    split
    case isTrue hc =>
      subst hc
      rw [haccount, Option.bind_none]
    case isFalse => rfl
  · dsimp only
    by_cases hmem : slotId ∈ account.accounts
    · rw [if_pos hmem]
      by_cases hempty : (account.accounts.erase slotId).isEmpty = true
      -- its last slot: the second section deletes the record
      · rw [if_pos hempty]
        simp only [erase, Map.getElem?_erase, Map.getElem?_insert]
        split
        case isTrue hc =>
          subst hc
          rw [haccount, Option.bind_some, if_pos hmem, if_pos hempty]
        case isFalse => rfl
      · rw [if_neg hempty]
        simp only [Map.getElem?_insert]
        split
        case isTrue hc =>
          subst hc
          rw [haccount, Option.bind_some, if_pos hmem, if_neg hempty]
          rfl
        case isFalse => rfl
    · rw [if_neg hmem]
      change data.accounts[c]? = _
      split
      case isTrue hc =>
        subst hc
        rw [haccount, Option.bind_some, if_neg hmem]
      case isFalse => rfl

/-- The slots a record is left with, whether it is deleted or not. -/
theorem slot?_removeAccount :
    ((Op.removeAccount chatId slotId).apply lib data).slot? c s =
      if chatId = c ∧ slotId = s then none else data.slot? c s := by
  rw [slot?, getElem?_removeAccount]
  by_cases hc : chatId = c
  · rw [if_pos hc, slot?]
    rcases data.accounts[c]? with - | account
    · simp
    · simp only [Option.bind_some, hc, true_and]
      rw [← Map.getElem?_erase]
      by_cases hmem : slotId ∈ account.accounts
      · by_cases hempty : (account.accounts.erase slotId).isEmpty = true
        -- the record goes with its only slot
        · rw [if_pos hmem, if_pos hempty, Option.bind_none,
            Std.ExtTreeMap.getElem?_eq_none (Map.isEmpty_iff_forall_not_mem.mp hempty s)]
        · rw [if_pos hmem, if_neg hempty]
          rfl
      · rw [if_neg hmem, Option.bind_some, Map.getElem?_erase]
        split
        case isTrue hs =>
          subst hs
          exact Std.ExtTreeMap.getElem?_eq_none hmem
        case isFalse => rfl
  · rw [if_neg hc, if_neg fun h => hc h.1, slot?]

/-- The shared accounts a record is left with: none under the slot, and the others stay, since a
record that is deleted had none. -/
theorem shared?_removeAccount (hparents : data.ParentsConnected) :
    ((Op.removeAccount chatId slotId).apply lib data).shared? c a =
      if chatId = c then (data.shared? c a).filter fun shared => !shared.isChildOf slotId
      else data.shared? c a := by
  rw [shared?, getElem?_removeAccount]
  by_cases hc : chatId = c
  · rw [if_pos hc, if_pos hc]
    rcases haccount : data.accounts[c]? with - | account
    · simp [shared?, haccount]
    · have hparent : ∀ shared, account.sharedAccounts[a]? = some shared →
          ∃ p ∈ account.accounts, shared.isChildOf slotId = (p == slotId) := by
        intro shared hshared
        obtain ⟨p, hp, hslot⟩ := hparents c a shared (by rw [shared?, haccount]; exact hshared)
        rw [slot?, haccount, Option.bind_some, Std.ExtTreeMap.isSome_getElem?_iff_mem] at hslot
        exact ⟨p, hslot, by simp [SharedAccount.isChildOf, hp]⟩
      simp only [shared?, haccount, Option.bind_some]
      by_cases hmem : slotId ∈ account.accounts
      · by_cases hempty : (account.accounts.erase slotId).isEmpty = true
        · -- no shared account is left, as its parent slot would be left too
          rw [if_pos hmem, if_pos hempty, Option.bind_none, eq_comm, Option.filter_eq_none_iff]
          intro shared hshared
          obtain ⟨p, hp, hchild⟩ := hparent shared hshared
          have hlast := Map.isEmpty_iff_forall_not_mem.mp hempty p
          rw [Std.ExtTreeMap.mem_erase, ne_eq, Std.LawfulEqOrd.compare_eq_iff_eq] at hlast
          have hp' : p = slotId := by
            by_contra hne
            exact hlast ⟨fun heq => hne heq.symm, hp⟩
          simp [hchild, hp']
        · rw [if_pos hmem, if_neg hempty, Option.bind_some, withoutSlot,
            Std.ExtTreeMap.getElem?_filter']
      · -- no shared account is under a slot that is not there
        rw [if_neg hmem, Option.bind_some]
        rcases hshared : account.sharedAccounts[a]? with - | shared
        · rfl
        · obtain ⟨p, hp, hchild⟩ := hparent shared hshared
          have hne : p ≠ slotId := fun heq => hmem (heq ▸ hp)
          exact (Option.filter_eq_some_iff.mpr ⟨rfl, by simp [hchild, hne]⟩).symm
  · rw [if_neg hc, if_neg hc, shared?]

/-! ### The invariant -/

/-- The empty store is well formed. -/
theorem wellFormed_empty : WellFormed .empty where
  keyed c s slot h := by simp [slot?, empty] at h
  slotIds c s h := by simp [slot?, empty] at h
  parents c a shared h := by simp [shared?, empty] at h

/-- An edit that keeps the ids of the slots and the parents of the shared accounts keeps the
invariant. -/
theorem WellFormed.of_lookups {data' : StoreData} (h : data.WellFormed)
    (hslot : ∀ c s slot, data'.slot? c s = some slot →
      ∃ slot', data.slot? c s = some slot' ∧ slot.slotId = slot'.slotId)
    (hshared : ∀ c a shared, data'.shared? c a = some shared →
      ∃ shared', data.shared? c a = some shared' ∧ shared.parentSlot = shared'.parentSlot)
    (hkept : ∀ c a shared p, data'.shared? c a = some shared → shared.parentSlot = some p →
      (data.slot? c p).isSome → (data'.slot? c p).isSome) :
    data'.WellFormed where
  keyed c s slot hs := by
    obtain ⟨slot', hs', hid⟩ := hslot c s slot hs
    exact hid.trans (h.keyed c s slot' hs')
  slotIds c s hs := by
    obtain ⟨slot, hs⟩ := Option.isSome_iff_exists.mp hs
    obtain ⟨slot', hs', -⟩ := hslot c s slot hs
    exact h.slotIds c s (by simp [hs'])
  parents c a shared ha := by
    obtain ⟨shared', ha', hp⟩ := hshared c a shared ha
    obtain ⟨p, hparent, hp'⟩ := h.parents c a shared' ha'
    exact ⟨p, hp.trans hparent, hkept c a shared p ha (hp.trans hparent) hp'⟩

section

variable (h : data.WellFormed)
include h

/-- `add_account` keeps it so: it writes to the default slot or to a generated id. -/
theorem WellFormed.addAccount {slot : AccountSlot} {generated : GeneratedSlotId}
    (hid : Store.slotIdFor slot generated = "default" ∨
      (Store.slotIdFor slot generated).toList.length = 8) :
    WellFormed ((Op.addAccount chatId slot generated).apply lib data) where
  keyed c s slot' hs := by
    rw [slot?_addAccount] at hs
    split at hs
    case isTrue heq =>
      cases hs
      exact heq.2
    case isFalse => exact h.keyed c s slot' hs
  slotIds c s hs := by
    rw [slot?_addAccount] at hs
    split at hs
    case isTrue heq => exact heq.2 ▸ hid
    case isFalse => exact h.slotIds c s hs
  parents c a shared ha := by
    rw [shared?_addAccount] at ha
    obtain ⟨p, hp, hslot⟩ := h.parents c a shared ha
    refine ⟨p, hp, ?_⟩
    -- storing a slot keeps the parents connected
    rw [slot?_addAccount]
    split
    · rfl
    · exact hslot

theorem WellFormed.setLanguage {language : String} :
    WellFormed ((Op.setLanguage chatId language).apply lib data) := by
  refine h.of_lookups (fun c s slot hs => ?_) (fun c a shared ha => ?_)
    fun c a shared p _ _ hp => ?_
  · rw [slot?_setLanguage] at hs
    exact ⟨slot, hs, rfl⟩
  · rw [shared?_setLanguage] at ha
    exact ⟨shared, ha, rfl⟩
  · rwa [slot?_setLanguage]

theorem WellFormed.setAccountThreadId {threadId : Option ThreadId} :
    WellFormed ((Op.setAccountThreadId chatId slotId threadId).apply lib data) := by
  refine h.of_lookups (fun c s slot hs => ?_) (fun c a shared ha => ?_)
    fun c a shared p _ _ hp => ?_
  · rw [slot?_setAccountThreadId] at hs
    split at hs
    · obtain ⟨slot', hs', rfl⟩ := Option.map_eq_some_iff.mp hs
      exact ⟨slot', hs', rfl⟩
    · exact ⟨slot, hs, rfl⟩
  · rw [shared?_setAccountThreadId] at ha
    exact ⟨shared, ha, rfl⟩
  · rw [slot?_setAccountThreadId]
    split
    · rwa [Option.isSome_map]
    · exact hp

theorem WellFormed.setSharedAccountThreadId {threadId : Option ThreadId} :
    WellFormed ((Op.setSharedAccountThreadId chatId accountId threadId).apply lib data) := by
  refine h.of_lookups (fun c s slot hs => ?_) (fun c a shared ha => ?_)
    fun c a shared p _ _ hp => ?_
  · rw [slot?_setSharedAccountThreadId] at hs
    exact ⟨slot, hs, rfl⟩
  · rw [shared?_setSharedAccountThreadId] at ha
    split at ha
    · obtain ⟨shared', ha', rfl⟩ := Option.map_eq_some_iff.mp ha
      exact ⟨shared', ha', rfl⟩
    · exact ⟨shared, ha, rfl⟩
  · rwa [slot?_setSharedAccountThreadId]

/-- So does `set_shared_account`, for a parent that is there. -/
theorem WellFormed.setSharedAccount {name parent : String} {lastState : Option String}
    (hparent : (data.slot? chatId parent).isSome) :
    WellFormed ((Op.setSharedAccount chatId accountId name lastState (some parent)).apply lib
      data) where
  keyed c s slot hs := by
    rw [slot?_setSharedAccount] at hs
    exact h.keyed c s slot hs
  slotIds c s hs := by
    rw [slot?_setSharedAccount] at hs
    exact h.slotIds c s hs
  parents c a shared ha := by
    simp only [slot?_setSharedAccount]
    obtain ⟨slot, hslot⟩ := Option.isSome_iff_exists.mp hparent
    obtain ⟨account, haccount, -⟩ := Option.bind_eq_some_iff.mp hslot
    rw [shared?_setSharedAccount (by simp [haccount])] at ha
    split at ha
    case isTrue heq =>
      cases ha
      exact ⟨parent, rfl, heq.1 ▸ hparent⟩
    case isFalse => exact h.parents c a shared ha

theorem WellFormed.removeSharedAccount :
    WellFormed ((Op.removeSharedAccount chatId accountId).apply lib data) := by
  refine h.of_lookups (fun c s slot hs => ?_) (fun c a shared ha => ?_)
    fun c a shared p _ _ hp => ?_
  · rw [slot?_removeSharedAccount] at hs
    exact ⟨slot, hs, rfl⟩
  · rw [shared?_removeSharedAccount] at ha
    split at ha
    · cases ha
    · exact ⟨shared, ha, rfl⟩
  · rwa [slot?_removeSharedAccount]

theorem WellFormed.remove : WellFormed ((Op.remove chatId).apply lib data) := by
  refine h.of_lookups (fun c s slot hs => ?_) (fun c a shared ha => ?_)
    fun c a shared p ha _ hp => ?_
  · rw [slot?_remove] at hs
    split at hs
    · cases hs
    · exact ⟨slot, hs, rfl⟩
  · rw [shared?_remove] at ha
    split at ha
    · cases ha
    · exact ⟨shared, ha, rfl⟩
  · rw [shared?_remove] at ha
    rw [slot?_remove]
    split at ha
    · cases ha
    case isFalse hc => rwa [if_neg hc]

/-- So does `remove_account`: the shared accounts under the slot go with it. -/
theorem WellFormed.removeAccount :
    WellFormed ((Op.removeAccount chatId slotId).apply lib data) := by
  refine h.of_lookups (fun c s slot hs => ?_) (fun c a shared ha => ?_)
    fun c a shared p ha hparent hp => ?_
  · rw [slot?_removeAccount] at hs
    split at hs
    · cases hs
    · exact ⟨slot, hs, rfl⟩
  · rw [shared?_removeAccount h.parents] at ha
    split at ha
    · exact ⟨shared, (Option.filter_eq_some_iff.mp ha).1, rfl⟩
    · exact ⟨shared, ha, rfl⟩
  · rw [shared?_removeAccount h.parents] at ha
    rw [slot?_removeAccount]
    split
    case isTrue heq =>
      -- an account whose parent is the slot does not stay
      rw [if_pos heq.1] at ha
      have hother := (Option.filter_eq_some_iff.mp ha).2
      simp [SharedAccount.isChildOf, hparent, heq.2] at hother
    case isFalse => exact hp

end

end StoreData

end Jmap2Telegram
