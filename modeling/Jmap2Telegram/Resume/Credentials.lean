import Jmap2Telegram.Resume.Drops
import Jmap2Telegram.Store.Durability

/-!
# The credentials the store has

The server and the token the store has for a mailbox, and what changes them: nothing but storing a
slot, as every shared account that was read from disk names the slot it is under.

* `credentials_congr`: the credentials of a mailbox depend on those of the slots and on the parents.
* `sameCredentials_advances`: a step of a resume task leaves all credentials.
* `credentials_addAccount_self`, `credentials_addAccount_of_under`,
  `credentials_addAccount_of_not_under`: storing a slot changes those of the slot and of what is
  under it, and no others.
-/

namespace Jmap2Telegram

/-- The server and the token the store has for a mailbox; a shared account has those of its parent
slot. -/
def StoreData.credentials (data : StoreData) (chatId : ChatId) : Mailbox → Option (String × String)
  | .account slotId => (data.slot? chatId slotId).map fun slot => (slot.serverUrl, slot.token)
  | .shared accountId => data.accounts[chatId]?.bind fun account =>
    (account.sharedAccounts[accountId]?.bind account.resolveParentSlot).map
      fun slot => (slot.serverUrl, slot.token)

/-- The client was connected with the credentials the store has for the mailbox. -/
def Client.Fresh (data : StoreData) (chatId : ChatId) (m : Mailbox) (client : Client) : Prop :=
  data.credentials chatId m = some (client.serverUrl, client.token)

/-- The resume task connects with the credentials the store has for its mailbox. -/
def ResumeTarget.Fresh (data : StoreData) (chatId : ChatId) (t : ResumeTarget) : Prop :=
  data.credentials chatId t.mailbox = some (t.serverUrl, t.token)

/-- Every shared account of a chat names its parent slot, as in data that was read from disk. -/
def StoreData.NamesParentsOf (data : StoreData) (chatId : ChatId) : Prop :=
  ∀ a shared, data.shared? chatId a = some shared → shared.parentSlot.isSome

section

variable {data data' : StoreData} {chatId : ChatId} {lib : Externals} {slotId : String}
  {m : Mailbox}

theorem StoreData.NamesParents.namesParentsOf (h : data.NamesParents) :
    data.NamesParentsOf chatId := by
  intro a shared hshared
  obtain ⟨account, haccount, hshared⟩ := Option.bind_eq_some_iff.mp hshared
  exact h chatId account haccount a shared hshared

/-- A shared account has its parent slot's credentials. -/
theorem credentials_shared {a p : String} {shared : SharedAccount}
    (h : data.shared? chatId a = some shared) (hp : shared.parentSlot = some p) :
    data.credentials chatId (.shared a) = data.credentials chatId (.account p) := by
  obtain ⟨account, haccount, hshared⟩ := Option.bind_eq_some_iff.mp h
  simp only [StoreData.credentials, StoreData.slot?, haccount, Option.bind_some, hshared,
    Account.resolveParentSlot, hp]

/-- A shared account that the store does not have has no credentials. -/
theorem credentials_shared_eq_none {a : String} (h : data.shared? chatId a = none) :
    data.credentials chatId (.shared a) = none := by
  rw [StoreData.shared?] at h
  rw [StoreData.credentials]
  rcases haccount : data.accounts[chatId]? with - | account
  · rfl
  · rw [haccount, Option.bind_some] at h
    rw [Option.bind_some, h]
    rfl

/-- What is under a slot has its credentials. -/
theorem credentials_of_under (hnamed : data.NamesParentsOf chatId)
    (h : data.Under chatId slotId m) :
    data.credentials chatId m = data.credentials chatId (.account slotId) := by
  cases m with
  | account s =>
    obtain rfl : s = slotId := h
    rfl
  | shared a =>
    obtain ⟨shared, hshared, hchild⟩ := StoreData.mem_childIds.mp h
    obtain ⟨p, hp⟩ := Option.isSome_iff_exists.mp (hnamed a shared hshared)
    rw [SharedAccount.isChildOf, hp] at hchild
    rw [credentials_shared hshared (hp.trans (congrArg some (beq_iff_eq.mp hchild)))]

/-- The parents of the shared accounts are the same. -/
def SameParents (chatId : ChatId) (data data' : StoreData) : Prop :=
  ∀ a, (data'.shared? chatId a).map SharedAccount.parentSlot =
    (data.shared? chatId a).map SharedAccount.parentSlot

/-- Parents stay named. -/
theorem SameParents.namesParentsOf (h : SameParents chatId data data')
    (hnamed : data.NamesParentsOf chatId) : data'.NamesParentsOf chatId := by
  intro a shared' hshared'
  have heq := h a
  rw [hshared'] at heq
  obtain ⟨shared, hshared, hparent⟩ := Option.map_eq_some_iff.mp heq.symm
  rw [← hparent]
  exact hnamed a shared hshared

theorem SameParents.under_iff (h : SameParents chatId data data') :
    data'.Under chatId slotId m ↔ data.Under chatId slotId m := by
  cases m with
  | account s => rfl
  | shared a => exact mem_childIds_congr (h a)

/-- What a mailbox's credentials are depends on those of the slots and on the parents. -/
theorem credentials_congr (hparents : SameParents chatId data data')
    (hnamed : data.NamesParentsOf chatId)
    (hslots : ∀ s, m = .account s ∨ (∃ a shared, m = .shared a ∧
      data.shared? chatId a = some shared ∧ shared.parentSlot = some s) →
      data'.credentials chatId (.account s) = data.credentials chatId (.account s)) :
    data'.credentials chatId m = data.credentials chatId m := by
  cases m with
  | account s => exact hslots s (.inl rfl)
  | shared a =>
    have heq := hparents a
    rcases hshared : data.shared? chatId a with - | shared
    · rw [hshared, Option.map_none, Option.map_eq_none_iff] at heq
      rw [credentials_shared_eq_none hshared, credentials_shared_eq_none heq]
    · rw [hshared] at heq
      obtain ⟨shared', hshared', hparent⟩ := Option.map_eq_some_iff.mp heq
      obtain ⟨p, hp⟩ := Option.isSome_iff_exists.mp (hnamed a shared hshared)
      rw [credentials_shared hshared hp, credentials_shared hshared' (hparent.trans hp)]
      exact hslots p (.inr ⟨a, shared, rfl, hshared, hp⟩)

/-- The store has the same credentials for every mailbox, and the same shared accounts under every
slot. -/
structure SameCredentials (chatId : ChatId) (data data' : StoreData) : Prop where
  parents : SameParents chatId data data'
  slots : ∀ s, data'.credentials chatId (.account s) = data.credentials chatId (.account s)

theorem SameCredentials.refl (data : StoreData) : SameCredentials chatId data data :=
  ⟨fun _ => rfl, fun _ => rfl⟩

/-- Every mailbox has the credentials it had. -/
theorem SameCredentials.credentials_eq (h : SameCredentials chatId data data')
    (hnamed : data.NamesParentsOf chatId) (m : Mailbox) :
    data'.credentials chatId m = data.credentials chatId m :=
  credentials_congr h.parents hnamed fun s _ => h.slots s

/-- A client stays fresh or outdated. -/
theorem SameCredentials.client_fresh_iff (h : SameCredentials chatId data data')
    (hnamed : data.NamesParentsOf chatId) {client : Client} :
    client.Fresh data' chatId m ↔ client.Fresh data chatId m := by
  rw [Client.Fresh, h.credentials_eq hnamed, Client.Fresh]

theorem SameCredentials.target_fresh_iff (h : SameCredentials chatId data data')
    (hnamed : data.NamesParentsOf chatId) {t : ResumeTarget} :
    t.Fresh data' chatId ↔ t.Fresh data chatId := by
  rw [ResumeTarget.Fresh, h.credentials_eq hnamed, ResumeTarget.Fresh]

/-- The drops to come are the same. -/
theorem SameCredentials.pendingDrops_eq (h : SameCredentials chatId data data') (m : Mailbox)
    (program : List Instr) :
    pendingDrops data' chatId m program = pendingDrops data chatId m program := by
  refine congrArg program.flatMap (funext fun instr => ?_)
  cases instr with
  | forgetChildren slotId =>
    cases m with
    | account slot => rfl
    | shared a => simp only [Instr.drops, mem_childIds_congr (h.parents a)]
  | _ => rfl

/-- A change of language leaves the credentials. -/
theorem sameCredentials_setLanguage (lang : String) :
    SameCredentials chatId data ((Op.setLanguage chatId lang).lockedSection lib data).1 := by
  have hone : ((Op.setLanguage chatId lang).lockedSection lib data).1 =
      (Op.setLanguage chatId lang).apply lib data := by
    simp only [Op.apply, Op.lockedSection, Store.setLanguage]
    rcases data.accounts[chatId]? with - | account <;> rfl
  rw [hone]
  exact ⟨fun a => by rw [StoreData.shared?_setLanguage],
    fun s => by rw [StoreData.credentials, StoreData.credentials, StoreData.slot?_setLanguage]⟩

theorem sameCredentials_advances {t : ResumeTarget} {app app' : AppState}
    {phase phase' : ResumePhase} (h : Advances lib chatId t app phase app' phase') :
    SameCredentials chatId app.data app'.data := by
  cases h with
  | setTopic created => exact ⟨fun a => shared?_setTopic, fun s => slot?_setTopic⟩
  | insertClient =>
    rw [AppState.data_insertClient]
    exact .refl _
  | insertWatcher =>
    rw [AppState.data_insertWatcher]
    exact .refl _
  | _ => exact .refl _

/-! ### Storing a slot -/

variable (lib) {slot : AccountSlot} {generated : GeneratedSlotId}

theorem sameParents_addAccount :
    SameParents chatId data ((Op.addAccount chatId slot generated).lockedSection lib data).1 :=
  fun a => by
    have hshared : ((Op.addAccount chatId slot generated).apply lib data).shared? chatId a =
        data.shared? chatId a := StoreData.shared?_addAccount
    exact congrArg (Option.map _) hshared

/-- The slot has the credentials it was stored with. -/
theorem credentials_addAccount_self :
    ((Op.addAccount chatId slot generated).lockedSection lib data).1.credentials chatId
      (.account (Store.slotIdFor slot generated)) = some (slot.serverUrl, slot.token) := by
  have hslot : ((Op.addAccount chatId slot generated).apply lib data).slot? chatId
      (Store.slotIdFor slot generated) = _ := StoreData.slot?_addAccount
  rw [if_pos ⟨rfl, rfl⟩] at hslot
  exact congrArg (Option.map _) hslot

/-- What is not under the slot has the credentials it had. -/
theorem credentials_addAccount_of_not_under (hnamed : data.NamesParentsOf chatId)
    (h : ¬data.Under chatId (Store.slotIdFor slot generated) m) :
    ((Op.addAccount chatId slot generated).lockedSection lib data).1.credentials chatId m =
      data.credentials chatId m := by
  refine credentials_congr (sameParents_addAccount lib) hnamed fun s hs => ?_
  have hslot : ((Op.addAccount chatId slot generated).apply lib data).slot? chatId s = _ :=
    StoreData.slot?_addAccount
  rw [if_neg] at hslot
  · exact congrArg (Option.map _) hslot
  · rintro ⟨-, rfl⟩
    obtain rfl | ⟨a, shared, rfl, hshared, hp⟩ := hs
    · exact h rfl
    · refine h (StoreData.mem_childIds.mpr ⟨shared, hshared, ?_⟩)
      rw [SharedAccount.isChildOf, hp]
      exact beq_self_eq_true _

/-- What is under the slot has those the slot was stored with. -/
theorem credentials_addAccount_of_under (hnamed : data.NamesParentsOf chatId)
    (h : data.Under chatId (Store.slotIdFor slot generated) m) :
    ((Op.addAccount chatId slot generated).lockedSection lib data).1.credentials chatId m =
      some (slot.serverUrl, slot.token) := by
  have hparents : SameParents chatId data
    ((Op.addAccount chatId slot generated).lockedSection lib data).1 := sameParents_addAccount lib
  rw [credentials_of_under (hparents.namesParentsOf hnamed) (hparents.under_iff.mpr h),
    credentials_addAccount_self]

end

end Jmap2Telegram
