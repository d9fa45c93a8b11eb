import Jmap2Telegram.State.Contents

/-!
# The records of the store

The representation invariant of a chat's record, for every sequence of store operations called the
way the handlers call them: a login is submitted under the id of the slot that has the address, or
under a new id for an address that is not connected, and a shared account is stored under a
connected slot.

* `Account.Valid`: the invariant of one record; `Account.Valid.edit`, `Account.Valid.insertSlot`,
  `Account.Valid.withoutSlot`: what keeps it.
* `StoreData.Valid.apply`: every operation called that way keeps it, in every record.
-/

namespace Jmap2Telegram

open Transition

/-! ### The invariant of a record -/

namespace Account

/-- A chat has a slot; every slot is stored under its own id; no two slots have the same address up
to ASCII case; and every shared account names a parent slot that is connected. -/
structure Valid (account : Account) : Prop where
  nonempty : ∃ s, s ∈ account.accounts
  named : "" ∉ account.accounts
  keyed : ∀ {s : String} {slot : AccountSlot}, account.accounts[s]? = some slot → slot.slotId = s
  emails : ∀ {s s' : String} {slot slot' : AccountSlot}, account.accounts[s]? = some slot →
    account.accounts[s']? = some slot' →
    Str.eqIgnoreAsciiCase slot.email slot'.email = true → s = s'
  parents : ∀ {a : String} {shared : SharedAccount}, account.sharedAccounts[a]? = some shared →
    ∃ p ∈ account.accounts, shared.parentSlot = some p

section

variable {account account' : Account}

/-- An edit that keeps the id and the address of every slot, and after which every shared account
still names a connected slot. -/
theorem Valid.edit (h : account.Valid)
    (hslots : ∀ s : String, account'.accounts[s]?.map (fun slot => (slot.slotId, slot.email)) =
      account.accounts[s]?.map fun slot => (slot.slotId, slot.email))
    (hshared : ∀ (a : String) (shared : SharedAccount), account'.sharedAccounts[a]? = some shared →
      ∃ p ∈ account.accounts, shared.parentSlot = some p) :
    account'.Valid := by
  have hmem : ∀ s, s ∈ account'.accounts ↔ s ∈ account.accounts := by
    intro s
    have hs := congrArg Option.isSome (hslots s)
    rwa [Option.isSome_map, Option.isSome_map, Bool.eq_iff_iff,
      Std.ExtTreeMap.isSome_getElem?_iff_mem, Std.ExtTreeMap.isSome_getElem?_iff_mem] at hs
  have hslot : ∀ {s : String} {slot : AccountSlot}, account'.accounts[s]? = some slot →
      ∃ slot', account.accounts[s]? = some slot' ∧ slot'.slotId = slot.slotId ∧
        slot'.email = slot.email := by
    intro s slot hs
    have heq := hslots s
    rw [hs, Option.map_some, eq_comm, Option.map_eq_some_iff] at heq
    obtain ⟨slot', hslot', heq⟩ := heq
    rw [Prod.mk.injEq] at heq
    exact ⟨slot', hslot', heq⟩
  -- every slot has its old id and its old address
  constructor
  · obtain ⟨s, hs⟩ := h.nonempty
    exact ⟨s, (hmem s).mpr hs⟩
  · exact fun hs => h.named ((hmem "").mp hs)
  · intro s slot hs
    obtain ⟨slot', hslot', hid, -⟩ := hslot hs
    rw [← hid, h.keyed hslot']
  · intro s s' slot slot' hs hs' hemail
    obtain ⟨old, hold, -, hmail⟩ := hslot hs
    obtain ⟨old', hold', -, hmail'⟩ := hslot hs'
    rw [← hmail, ← hmail'] at hemail
    exact h.emails hold hold' hemail
  · intro a shared ha
    obtain ⟨p, hp, hparent⟩ := hshared a shared ha
    exact ⟨p, (hmem p).mpr hp, hparent⟩

/-- An edit in place of a slot that keeps its id and its address. -/
theorem Valid.modifySlot (h : account.Valid) (slotId : String) {f : AccountSlot → AccountSlot}
    (hf : ∀ slot, (f slot).slotId = slot.slotId ∧ (f slot).email = slot.email) :
    (account.modifySlot slotId f).Valid := by
  refine h.edit (fun s => Map.map_getElem?_modify fun slot => ?_) fun a shared ha => h.parents ha
  rw [(hf slot).1, (hf slot).2]

theorem Valid.modifyPrimarySlot (h : account.Valid) {f : AccountSlot → AccountSlot}
    (hf : ∀ slot, (f slot).slotId = slot.slotId ∧ (f slot).email = slot.email) :
    (account.modifyPrimarySlot f).Valid := by
  rw [Account.modifyPrimarySlot]
  split
  · exact h.modifySlot _ hf
  · exact h

/-- An edit in place of a shared account that keeps its parent slot. -/
theorem Valid.modifyShared (h : account.Valid) (accountId : String)
    {f : SharedAccount → SharedAccount} (hf : ∀ shared, (f shared).parentSlot = shared.parentSlot) :
    (account.modifyShared accountId f).Valid := by
  refine h.edit (fun s => rfl) fun a shared ha => ?_
  rw [Account.modifyShared, Std.ExtTreeMap.getElem?_modify] at ha
  split at ha
  · obtain ⟨shared', hshared', rfl⟩ := Option.map_eq_some_iff.mp ha
    rw [hf]
    exact h.parents hshared'
  · exact h.parents ha

/-- A shared account stored under a connected slot. -/
theorem Valid.insertShared (h : account.Valid) (accountId : String) {shared : SharedAccount}
    {p : String} (hp : p ∈ account.accounts) (hparent : shared.parentSlot = some p) :
    Valid { account with sharedAccounts := account.sharedAccounts.insert accountId shared } := by
  refine h.edit (fun s => rfl) fun a shared' ha => ?_
  rw [Map.getElem?_insert] at ha
  split at ha
  · cases ha
    exact ⟨p, hp, hparent⟩
  · exact h.parents ha

theorem Valid.eraseShared (h : account.Valid) (accountId : String) :
    Valid { account with sharedAccounts := account.sharedAccounts.erase accountId } := by
  refine h.edit (fun s => rfl) fun a shared ha => ?_
  rw [Map.getElem?_erase] at ha
  split at ha
  · cases ha
  · exact h.parents ha

/-- A slot stored under its own id, which no other slot with its address has. -/
theorem Valid.insertSlot (h : account.Valid) (slot : AccountSlot) (hne : slot.slotId ≠ "")
    (hemail : ∀ {s : String} {other : AccountSlot}, account.accounts[s]? = some other →
      Str.eqIgnoreAsciiCase other.email slot.email = true → s = slot.slotId) :
    Valid { account with accounts := account.accounts.insert slot.slotId slot } := by
  have hlookup : ∀ {s : String} {other : AccountSlot},
      (account.accounts.insert slot.slotId slot)[s]? = some other →
      slot.slotId = s ∧ other = slot ∨ slot.slotId ≠ s ∧ account.accounts[s]? = some other := by
    intro s other hs
    rw [Map.getElem?_insert] at hs
    split at hs
    case isTrue heq =>
      cases hs
      exact .inl ⟨heq, rfl⟩
    case isFalse hne => exact .inr ⟨hne, hs⟩
  constructor
  · exact ⟨slot.slotId, by simp⟩
  · have hnamed := h.named
    simp [hne, hnamed]
  · intro s other hs
    obtain ⟨rfl, rfl⟩ | ⟨-, hold⟩ := hlookup hs
    · rfl
    · exact h.keyed hold
  -- two slots with one address: if one is the new one, so is the other
  · intro s s' other other' hs hs' heq
    obtain ⟨rfl, rfl⟩ | ⟨-, hold⟩ := hlookup hs
    · obtain ⟨rfl, rfl⟩ | ⟨-, hold'⟩ := hlookup hs'
      · rfl
      · rw [Str.eqIgnoreAsciiCase_comm] at heq
        exact (hemail hold' heq).symm
    · obtain ⟨rfl, rfl⟩ | ⟨-, hold'⟩ := hlookup hs'
      · exact hemail hold heq
      · exact h.emails hold hold' heq
  · intro a shared ha
    obtain ⟨p, hp, hparent⟩ := h.parents ha
    exact ⟨p, by simp [hp], hparent⟩

/-- A slot removed with the shared accounts under it, from a record that has another one. -/
theorem Valid.withoutSlot (h : account.Valid) {slotId : String}
    (hrest : (account.accounts.erase slotId).isEmpty = false) :
    (StoreData.withoutSlot account slotId).Valid := by
  have hlookup : ∀ {s : String} {slot : AccountSlot},
      (account.accounts.erase slotId)[s]? = some slot → account.accounts[s]? = some slot := by
    intro s slot hs
    rw [Map.getElem?_erase] at hs
    split at hs
    · cases hs
    · exact hs
  constructor
  · rw [← Bool.not_eq_true, Map.isEmpty_iff_forall_not_mem, not_forall] at hrest
    obtain ⟨s, hs⟩ := hrest
    exact ⟨s, not_not.mp hs⟩
  · intro hs
    exact h.named (Std.ExtTreeMap.mem_of_mem_erase hs)
  · exact fun hs => h.keyed (hlookup hs)
  · exact fun hs hs' => h.emails (hlookup hs) (hlookup hs')
  · intro a shared ha
    obtain ⟨ha, hother⟩ := Map.getElem?_filter_eq_some.mp ha
    obtain ⟨p, hp, hparent⟩ := h.parents ha
    -- a shared account that stays is not under the slot, so its parent stays too
    have hne : p ≠ slotId := by
      rintro rfl
      simp [SharedAccount.isChildOf, hparent] at hother
    refine ⟨p, ?_, hparent⟩
    simp [StoreData.withoutSlot, Ne.symm hne, hp]

end

end Account

/-! ### Calls the way the handlers make them -/

/-- A slot the way a login submits it: under the id of a slot that has the address up to ASCII case,
under `"default"` for a chat without a record, or under an id the chat does not use, for an address
the chat does not have. -/
def StoreData.Submits (data : StoreData) (chatId : ChatId) (slot : AccountSlot)
    (generated : GeneratedSlotId) : Prop :=
  (∃ s held, data.slot? chatId s = some held ∧
    Str.eqIgnoreAsciiCase held.email slot.email = true ∧ slot.slotId = held.slotId) ∨
  (data.accounts[chatId]? = none ∧ slot.slotId = "default") ∨
  (data.slot? chatId (Store.slotIdFor slot generated) = none ∧
    ∀ s held, data.slot? chatId s = some held →
      Str.eqIgnoreAsciiCase held.email slot.email = false)

/-- The way the handlers call the operations. None of them calls `set`. -/
def Op.Handled (data : StoreData) : Op → Prop
  | .set _ _ => False
  | .addAccount chatId slot generated | .addExtraAccount chatId slot generated =>
    data.Submits chatId slot generated
  | .setSharedAccount chatId _ _ _ parentSlot =>
    ∃ p, parentSlot = some p ∧ (data.slot? chatId p).isSome
  | _ => True

namespace StoreData

/-- Every record of the store is valid. -/
def Valid (data : StoreData) : Prop :=
  ∀ (c : ChatId) (account : Account), data.accounts[c]? = some account → account.Valid

variable {lib : Externals} {data : StoreData} {chatId : ChatId}

theorem valid_empty : StoreData.empty.Valid := by
  intro c account h
  simp [empty] at h

theorem Valid.insert (h : data.Valid) {account : Account} (haccount : account.Valid) :
    Valid ⟨data.accounts.insert chatId account⟩ := by
  intro c account' hc
  rw [Map.getElem?_insert] at hc
  split at hc
  · cases hc
    exact haccount
  · exact h c account' hc

/-- An edit of a record that keeps it valid. -/
theorem Valid.modify (h : data.Valid) {f : Account → Account}
    (hf : ∀ account, data.accounts[chatId]? = some account → account.Valid → (f account).Valid) :
    (data.modify chatId f).Valid := by
  intro c account hc
  rw [getElem?_modify] at hc
  split at hc
  case isTrue heq =>
    subst heq
    obtain ⟨old, hold, rfl⟩ := Option.map_eq_some_iff.mp hc
    exact hf old hold (h chatId old hold)
  case isFalse => exact h c account hc

theorem slotIdFor_ne_empty {slot : AccountSlot} {generated : GeneratedSlotId} :
    Store.slotIdFor slot generated ≠ "" := by
  rw [Store.slotIdFor]
  split
  · intro heq
    have hlength := generated.length_eq
    rw [heq] at hlength
    cases hlength
  case isFalse hne => exact fun heq => hne (String.isEmpty_iff.mpr heq)

/-- The id a submitted slot is stored under is the id of every slot of the chat with its address. -/
theorem eq_slotIdFor_of_submits (h : data.Valid) {slot : AccountSlot} {generated : GeneratedSlotId}
    (hslot : data.Submits chatId slot generated) {account : Account}
    (haccount : data.accounts[chatId]? = some account) {s : String} {other : AccountSlot}
    (hother : account.accounts[s]? = some other)
    (hemail : Str.eqIgnoreAsciiCase other.email slot.email = true) :
    s = Store.slotIdFor slot generated := by
  have hlookup : ∀ s, data.slot? chatId s = account.accounts[s]? := fun s => by
    rw [slot?, haccount, Option.bind_some]
  obtain ⟨s', held, hheld, hmail, hid⟩ | ⟨hnone, -⟩ | ⟨-, hfresh⟩ := hslot
  · -- the slot with the address is the one whose id is submitted, and that id is not empty
    rw [hlookup] at hheld
    have hs : s = s' := (h chatId account haccount).emails hother hheld
      (Str.eqIgnoreAsciiCase_trans hemail (by rwa [Str.eqIgnoreAsciiCase_comm]))
    have hid' : slot.slotId = s := by rw [hid, (h chatId account haccount).keyed hheld, hs]
    have hne : ¬slot.slotId.isEmpty = true := by
      intro hempty
      rw [hid', String.isEmpty_iff] at hempty
      subst hempty
      exact (h chatId account haccount).named (Map.mem_of_getElem? hother)
    rw [Store.slotIdFor, if_neg hne, hid']
  -- the chat has a record
  · cases haccount.symm.trans hnone
  -- no slot of the chat has the address
  · rw [hfresh s other ((hlookup s).trans hother)] at hemail
    cases hemail

theorem valid_insertSlot_empty (slot : AccountSlot) (hne : slot.slotId ≠ "") :
    Account.Valid { Account.empty with
      accounts := Account.empty.accounts.insert slot.slotId slot } := by
  have hlookup : ∀ {s : String} {other : AccountSlot},
      ((∅ : Map String AccountSlot).insert slot.slotId slot)[s]? = some other →
        slot.slotId = s ∧ slot = other := by
    intro s other hs
    rw [Map.getElem?_insert] at hs
    split at hs
    case isTrue heq => exact ⟨heq, Option.some.inj hs⟩
    case isFalse => simp at hs
  constructor
  · exact ⟨slot.slotId, by simp⟩
  · simp [Account.empty, hne]
  · intro s other hs
    obtain ⟨rfl, rfl⟩ := hlookup hs
    rfl
  · intro s s' other other' hs hs' _
    rw [← (hlookup hs).1, ← (hlookup hs').1]
  · intro a shared ha
    simp [Account.empty] at ha

/-- **Every operation called the way the handlers call it keeps every record valid.** -/
theorem Valid.apply (h : data.Valid) {op : Op} (hop : op.Handled data) :
    (op.apply lib data).Valid := by
  have hsection := sectionEdit lib op data
  rw [Op.apply]
  generalize op.lockedSection lib data = result at hsection ⊢
  cases hsection with
  | same => exact h
  | set chatId account => exact hop.elim
  | addAccount chatId slot generated =>
    rw [Store.addAccount]
    rcases haccount : data.accounts[chatId]? with - | account
    · exact h.insert (valid_insertSlot_empty
        { slot with slotId := Store.slotIdFor slot generated } slotIdFor_ne_empty)
    · exact h.insert ((h chatId account haccount).insertSlot
        { slot with slotId := Store.slotIdFor slot generated } slotIdFor_ne_empty
        fun hother hemail => eq_slotIdFor_of_submits h hop haccount hother hemail)
  | removeAccount chatId slotId =>
    change ((Op.removeAccount chatId slotId).apply lib data).Valid
    intro c account hc
    rw [getElem?_removeAccount] at hc
    split at hc
    -- the record is there only if a slot is left
    · obtain ⟨old, hold, hc⟩ := Option.bind_eq_some_iff.mp hc
      split_ifs at hc with hmem hempty
      · cases hc
        exact (h c old hold).withoutSlot (Bool.eq_false_iff.mpr hempty)
      · cases hc
        exact h c account hold
    · exact h c account hc
  | remove chatId =>
    change ((Op.remove chatId).apply lib data).Valid
    intro c account hc
    rw [getElem?_remove] at hc
    split at hc
    · cases hc
    · exact h c account hc
  | edited _ f r hedit =>
    refine h.modify fun account haccount hvalid => ?_
    cases hedit with
    | addExtraAccount chatId slot generated =>
      exact hvalid.insertSlot { slot with slotId := Store.slotIdFor slot generated }
        slotIdFor_ne_empty
        fun hother hemail => eq_slotIdFor_of_submits h hop haccount hother hemail
    | setSharedAccount chatId accountId name lastState parentSlot =>
      obtain ⟨p, rfl, hp⟩ := hop
      have hrecord : data.accounts[chatId]? = some account := haccount
      have hslot : p ∈ account.accounts := by
        rwa [slot?, hrecord, Option.bind_some, Std.ExtTreeMap.isSome_getElem?_iff_mem] at hp
      exact hvalid.insertShared accountId hslot rfl
    | updateState => exact hvalid.modifyPrimarySlot fun _ => ⟨rfl, rfl⟩
    | updateAccountState | setAccountThreadId => exact hvalid.modifySlot _ fun _ => ⟨rfl, rfl⟩
    | setSharedAccountThreadId | updateSharedAccountState =>
      exact hvalid.modifyShared _ fun _ => rfl
    | removeSharedAccount => exact hvalid.eraseShared _
    | setThreadsEnabled | setLanguage | mute | unmute =>
      exact hvalid.edit (fun _ => rfl) fun _ _ => hvalid.parents

end StoreData

end Jmap2Telegram
