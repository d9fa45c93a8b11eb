import Jmap2Telegram.Bot.TapClient
import Jmap2Telegram.State.Disconnect

/-!
# What changes the client of a tap

A command or a tap that connects or disconnects mailboxes is about one slot and the shared accounts
under it, about one shared account, or about the whole chat. The client of a button's account id may
hang on these; if it does not, the id leads to the same client afterwards.

* `AppState.HangsOn`, `AppState.TapHangsOn`: the clients that are made with a slot's credentials, or
  dropped with it.
* `BotCommand.Touches`, `Tap.Touches`: whether an input is about what an account id hangs on.
* `namedClient?_messageHandler`, `namedClient?_callbackHandler`: if not, it keeps the id's client.
-/

namespace Jmap2Telegram

/-! ### The first slot of a record -/

namespace Account

variable {account : Account} {slotId first : String}

/-- The first slot stays so when a later one is written. -/
theorem primarySlot_insert (slot : AccountSlot) (hfirst : account.accounts.minKey? = some first)
    (hlater : ¬(compare slotId first).isLE = true) :
    primarySlot { account with accounts := account.accounts.insert slotId slot } =
      account.primarySlot := by
  have hne : ¬slotId = first := by
    rintro rfl
    exact hlater (by simp)
  rw [primarySlot_eq, primarySlot_eq]
  simp only [Std.ExtTreeMap.minKey?_insert, hfirst, Option.elim_some, if_neg hlater,
    Option.bind_some, Map.getElem?_insert, if_neg hne]

/-- Or when a later one is removed. -/
theorem primarySlot_withoutSlot (hfirst : account.accounts.minKey? = some first)
    (hlater : ¬(compare slotId first).isLE = true) :
    (StoreData.withoutSlot account slotId).primarySlot = account.primarySlot := by
  have hne : ¬slotId = first := by
    rintro rfl
    exact hlater (by simp)
  have hmin : (account.accounts.erase slotId).minKey? = some first := by
    rw [← hfirst]
    refine Std.ExtTreeMap.minKey?_erase_eq_of_not_compare_eq_minKey? fun hkm heq => ?_
    rw [hfirst] at hkm
    obtain rfl := Option.some.inj hkm
    exact hne (Std.LawfulEqOrd.compare_eq_iff_eq.mp heq)
  rw [primarySlot_eq, primarySlot_eq]
  simp only [StoreData.withoutSlot, hmin, hfirst, Option.bind_some, Map.getElem?_erase, if_neg hne]

end Account

namespace AppState

variable (app : AppState) (chatId : ChatId)

/-- No slot of the chat comes before one of this id. -/
def ComesFirst (slotId : String) : Prop :=
  ∀ account ∈ app.data.accounts[chatId]?, ∀ first ∈ account.accounts.minKey?,
    (compare slotId first).isLE = true

/-- A mailbox's client is made with the credentials of a slot, or is dropped with it: the slot
itself, the shared accounts under it, and those without a recorded parent, if it comes first. -/
def HangsOn (slotId : String) (m : Mailbox) : Prop :=
  app.data.Under chatId slotId m ∨
    app.ComesFirst chatId slotId ∧ ∃ acc, m = .shared acc ∧
      ∃ shared ∈ app.data.shared? chatId acc, shared.parentSlot = none

/-- The client an account id leads to hangs on a slot. Without an id, that is the client of the
first slot. -/
def TapHangsOn (slotId : String) : Option String → Prop
  | none => app.ComesFirst chatId slotId ∨
    app.namedMailbox? chatId none = some (.account slotId)
  | some acc => app.HangsOn chatId slotId (.account acc) ∨ app.HangsOn chatId slotId (.shared acc)

/-- Two states in which every mailbox but one has the same client, and the first slot is the
same. -/
structure SameClientsBut (mailbox : Mailbox) (app' : AppState) : Prop where
  clients : ∀ m, m ≠ mailbox → app'.mailboxClient? chatId m = app.mailboxClient? chatId m
  primary : (app'.data.accounts[chatId]?.bind Account.primarySlot).map AccountSlot.slotId =
    (app.data.accounts[chatId]?.bind Account.primarySlot).map AccountSlot.slotId

/-- Two states between which a slot changes, and what hangs on it. -/
structure ChangesSlot (slotId : String) (app' : AppState) : Prop where
  clients : ∀ m, ¬app.HangsOn chatId slotId m →
    app'.mailboxClient? chatId m = app.mailboxClient? chatId m
  primary : ¬app.ComesFirst chatId slotId →
    (app'.data.accounts[chatId]?.bind Account.primarySlot).map AccountSlot.slotId =
      (app.data.accounts[chatId]?.bind Account.primarySlot).map AccountSlot.slotId

variable {app chatId} {app' app'' : AppState} {config : Config} {lib : Externals}
  {id : Option String} {m mailbox : Mailbox} {client : Client} {created : Option ThreadId}
  {slotId acc : String}

/-! ### What an account id leads to then -/

/-- An id leads to the same client if the shared account and the slot of that id have the same. -/
theorem namedClient?_congr_some (hshared : app'.mailboxClient? chatId (.shared acc) =
      app.mailboxClient? chatId (.shared acc))
    (haccount : app'.mailboxClient? chatId (.account acc) =
      app.mailboxClient? chatId (.account acc)) :
    app'.namedClient? chatId (some acc) = app.namedClient? chatId (some acc) := by
  simp only [namedClient?, namedMailbox?, Option.bind_some, ← isSome_mailboxClient?_shared, hshared]
  split
  · exact hshared
  · exact haccount

/-- Without an id, if the first slot is the same and has the same. -/
theorem namedClient?_congr_none
    (hprimary : (app'.data.accounts[chatId]?.bind Account.primarySlot).map AccountSlot.slotId =
      (app.data.accounts[chatId]?.bind Account.primarySlot).map AccountSlot.slotId)
    (hclients : ∀ s, app.namedMailbox? chatId none = some (.account s) →
      app'.mailboxClient? chatId (.account s) = app.mailboxClient? chatId (.account s)) :
    app'.namedClient? chatId none = app.namedClient? chatId none := by
  have hmailbox : app'.namedMailbox? chatId none = app.namedMailbox? chatId none := by
    have h := congrArg (Option.map Mailbox.account) hprimary
    rwa [Option.map_map, Option.map_map] at h
  rw [namedClient?, namedClient?, hmailbox]
  refine Option.bind_congr fun m hm => ?_
  obtain ⟨slot, -, rfl⟩ := Option.map_eq_some_iff.mp hm
  exact hclients slot.slotId hm

/-- What is about another mailbox keeps the client. -/
theorem SameClientsBut.namedClient? (h : app.SameClientsBut chatId (.shared acc) app')
    (hid : id ≠ some acc) : app'.namedClient? chatId id = app.namedClient? chatId id := by
  cases id with
  | none => exact namedClient?_congr_none h.primary fun s _ => h.clients _ Mailbox.noConfusion
  | some acc' =>
    refine namedClient?_congr_some (h.clients _ fun heq => hid ?_) (h.clients _ Mailbox.noConfusion)
    rw [Mailbox.shared.inj heq]

/-- What is about a slot keeps the client of an id that does not hang on it. -/
theorem ChangesSlot.namedClient? (h : app.ChangesSlot chatId slotId app')
    (hid : ¬app.TapHangsOn chatId slotId id) :
    app'.namedClient? chatId id = app.namedClient? chatId id := by
  cases id with
  | none =>
    obtain ⟨hlater, hother⟩ := not_or.mp hid
    refine namedClient?_congr_none (h.primary hlater) fun s hs => h.clients _ ?_
    rintro (hunder | ⟨hcomes, -⟩)
    · exact hother (by rw [hs, show s = slotId from hunder])
    · exact hlater hcomes
  | some acc =>
    obtain ⟨haccount, hshared⟩ := not_or.mp hid
    exact namedClient?_congr_some (h.clients _ hshared) (h.clients _ haccount)

/-! ### Adopting a mailbox -/

theorem SameClients.but (h : app.SameClients chatId app') :
    app.SameClientsBut chatId mailbox app' :=
  ⟨fun m _ => h.clients m, h.primary⟩

theorem SameClientsBut.trans (h : app.SameClientsBut chatId mailbox app')
    (h' : app'.SameClientsBut chatId mailbox app'') : app.SameClientsBut chatId mailbox app'' :=
  ⟨fun m hm => (h'.clients m hm).trans (h.clients m hm), h'.primary.trans h.primary⟩

/-- Adopting a mailbox is about its own client. -/
theorem sameClientsBut_adopt :
    app.SameClientsBut chatId mailbox
      (app.adopt config lib chatId mailbox client created) := by
  rw [adopt]
  split
  case isTrue => exact (SameClients.refl app).but
  case isFalse =>
    refine SameClientsBut.trans ⟨fun m hm => ?_, ?_⟩ sameClients_ensureTopic.but
    · rw [mailboxClient?, mailboxClient?, client?_insertWatcher, register, client?_withHealth,
        client?_insertClient, if_neg fun heq => hm heq.2.symm]
      congr 1
      cases m <;> simp only [storedClient?, parentSlot?, data_insertWatcher, data_insertClient]
    · simp only [data_insertWatcher, register, data_insertClient]

theorem ChangesSlot.trans_but (h : app.ChangesSlot chatId slotId app')
    (h' : app'.SameClientsBut chatId (.account slotId) app'') :
    app.ChangesSlot chatId slotId app'' where
  clients m hm := (h'.clients m fun heq => hm (.inl (by rw [heq]; rfl))).trans (h.clients m hm)
  primary hlater := h'.primary.trans (h.primary hlater)

/-! ### What the commands are about -/

/-- A client is the same if it is cached so and the store has the same for the mailbox. -/
theorem mailboxClient?_congr (hcached : app'.client? chatId m = app.client? chatId m)
    (hstored : app'.storedClient? chatId m = app.storedClient? chatId m) :
    app'.mailboxClient? chatId m = app.mailboxClient? chatId m := by
  rw [mailboxClient?, mailboxClient?, hcached, hstored]

/-- A shared account connects through the same slot if its entry is the same and so is that slot. -/
theorem parentSlot?_congr (hshared : app'.data.shared? chatId acc = app.data.shared? chatId acc)
    (hparent : ∀ shared ∈ app.data.shared? chatId acc, ∀ p, shared.parentSlot = some p →
      app'.data.slot? chatId p = app.data.slot? chatId p)
    (hfirst : ∀ shared ∈ app.data.shared? chatId acc, shared.parentSlot = none →
      app'.data.accounts[chatId]?.bind Account.primarySlot =
        app.data.accounts[chatId]?.bind Account.primarySlot) :
    app'.parentSlot? chatId acc = app.parentSlot? chatId acc := by
  rw [parentSlot?_eq, parentSlot?_eq, hshared]
  refine Option.bind_congr fun shared hsome => ?_
  split
  case h_1 p hp => exact hparent shared hsome p hp
  case h_2 hp => exact hfirst shared hsome hp

/-- A slot that does not come first has another before it. -/
theorem exists_first_of_not_comesFirst (h : ¬app.ComesFirst chatId slotId) :
    ∃ account first, app.data.accounts[chatId]? = some account ∧
      account.accounts.minKey? = some first ∧ ¬(compare slotId first).isLE = true := by
  simp only [ComesFirst, not_forall] at h
  obtain ⟨account, haccount, first, hfirst, hlater⟩ := h
  exact ⟨account, first, haccount, hfirst, hlater⟩

/-- Writing a later slot leaves the first one. -/
theorem primarySlot_addAccount {slot : AccountSlot} {generated : GeneratedSlotId}
    (h : ¬app.ComesFirst chatId (Store.slotIdFor slot generated)) :
    (app.call lib (.addAccount chatId slot generated)).data.accounts[chatId]?.bind
        Account.primarySlot = app.data.accounts[chatId]?.bind Account.primarySlot := by
  obtain ⟨account, first, haccount, hfirst, hlater⟩ := exists_first_of_not_comesFirst h
  rw [call, Op.apply, Op.lockedSection, Store.addAccount]
  simp only [haccount, Option.getD_some, Map.getElem?_insert, if_true, Option.bind_some]
  exact Account.primarySlot_insert _ hfirst hlater

/-- `add_account` is about the slot it writes. -/
theorem changesSlot_addAccount {slot : AccountSlot} {generated : GeneratedSlotId} :
    app.ChangesSlot chatId (Store.slotIdFor slot generated)
      (app.call lib (.addAccount chatId slot generated)) where
  clients m hm := by
    refine mailboxClient?_congr client?_call ?_
    obtain ⟨hunder, hfirst⟩ := not_or.mp hm
    cases m with
    | account s =>
      rw [storedClient?, storedClient?, call, StoreData.slot?_addAccount,
        if_neg fun heq => hunder heq.2.symm]
    | shared acc =>
      have hparent : (app.call lib (.addAccount chatId slot generated)).parentSlot? chatId acc =
          app.parentSlot? chatId acc := by
        have hentry : (app.call lib (.addAccount chatId slot generated)).data.shared? chatId acc =
            app.data.shared? chatId acc := by rw [call, StoreData.shared?_addAccount]
        refine parentSlot?_congr hentry (fun shared hshared p hp => ?_)
          fun shared hshared hp => ?_
        · rw [call, StoreData.slot?_addAccount, if_neg]
          rintro ⟨-, heq⟩
          refine hunder (StoreData.mem_childIds.mpr ⟨shared, hshared, ?_⟩)
          exact SharedAccount.isChildOf_iff.mpr (.inl (heq ▸ hp))
        · exact primarySlot_addAccount fun hcomes =>
            hfirst ⟨hcomes, acc, rfl, shared, hshared, hp⟩
      rw [storedClient?, storedClient?, hparent]
  primary hlater := by rw [primarySlot_addAccount hlater]

/-- `forget_account` drops the clients of its slot and of what is under it. -/
theorem mailboxClient?_forgetAccount (h : ¬app.data.Under chatId slotId m) :
    (app.forgetAccount chatId slotId).mailboxClient? chatId m = app.mailboxClient? chatId m := by
  refine mailboxClient?_congr (Option.ext fun client => ?_) ?_
  · rw [lookup_forgetAccount fun _ _ _ => client?_forgetMailbox, and_iff_left]
    exact fun hunder => h hunder.2
  · cases m <;> simp only [storedClient?, parentSlot?, data_forgetAccount]

/-- A login is about the slot it is saved under. -/
theorem changesSlot_cmdLogin {serverUrl token lang : String} {answers : Answers} :
    app.ChangesSlot chatId (app.savedSlotId chatId answers)
      (app.cmdLogin config lib chatId serverUrl token lang answers) := by
  obtain ⟨slot, hslot⟩ : ∃ slot : AccountSlot, slot = ⟨app.loginSlot chatId answers.email,
      serverUrl, token, answers.email, some answers.state, none⟩ := ⟨_, rfl⟩
  have hsaved : Store.slotIdFor slot answers.generated = app.savedSlotId chatId answers :=
    hslot ▸ slotIdFor_eq_savedSlotId chatId
  obtain ⟨added, hadded⟩ : ∃ added, added = app.call lib (.addAccount chatId slot
      answers.generated) := ⟨_, rfl⟩
  have hchanges : app.ChangesSlot chatId (Store.slotIdFor slot answers.generated) added :=
    hadded ▸ changesSlot_addAccount
  have hsame : added.SameClients chatId (added.call lib (.setLanguage chatId lang)) :=
    sameClients_call rfl
  have hunder : ∀ s m, (added.call lib (.setLanguage chatId lang)).data.Under chatId s m →
      app.data.Under chatId s m := by
    intro s m h
    cases m with
    | account s' => exact h
    | shared acc =>
      rw [StoreData.Under, StoreData.mem_childIds] at h ⊢
      rwa [call, StoreData.shared?_setLanguage, hadded, call, StoreData.shared?_addAccount] at h
  simp only [cmdLogin, ← hslot, ← hadded, ← hsaved]
  refine ChangesSlot.trans_but ⟨fun m hm => ?_, fun hlater => ?_⟩ sameClientsBut_adopt
  · exact (mailboxClient?_forgetAccount fun h => hm (.inl (hunder _ m h))).trans
      ((hsame.clients m).trans (hchanges.clients m hm))
  · rw [data_forgetAccount]
    exact hsame.primary.trans (hchanges.primary hlater)

/-- `/accounts` is about the slot it adds. -/
theorem changesSlot_cmdComptes {args : String} {answers : Answers} :
    app.ChangesSlot chatId answers.generated.val
      (app.cmdComptes config lib chatId args answers) := by
  obtain hsame | ⟨serverUrl, token, hadds⟩ := app.cmdComptes_cases config lib chatId args answers
  · rw [hsame]
    exact ⟨fun _ _ => rfl, fun _ => rfl⟩
  · have hgenerated : Store.slotIdFor ⟨"", serverUrl, token, answers.email, some answers.state,
        none⟩ answers.generated = answers.generated.val := rfl
    rw [hadds, ← hgenerated]
    exact changesSlot_addAccount.trans_but sameClientsBut_adopt

/-- Removing a later slot leaves the first one. -/
theorem primarySlot_removeAccount (h : ¬app.ComesFirst chatId slotId) :
    ((Op.removeAccount chatId slotId).apply lib app.data).accounts[chatId]?.bind
        Account.primarySlot = app.data.accounts[chatId]?.bind Account.primarySlot := by
  obtain ⟨account, first, haccount, hfirst, hlater⟩ := exists_first_of_not_comesFirst h
  rw [StoreData.getElem?_removeAccount, if_pos rfl, haccount, Option.bind_some]
  by_cases hslot : slotId ∈ account.accounts
  · have hleft : (account.accounts.erase slotId).isEmpty = false := by
      refine Bool.eq_false_iff.mpr fun hempty => hlater ?_
      rw [Account.minKey?_eq_of_isEmpty_erase hslot hempty] at hfirst
      obtain rfl := Option.some.inj hfirst
      simp
    rw [if_pos hslot, hleft, if_neg Bool.false_ne_true]
    exact Account.primarySlot_withoutSlot hfirst hlater
  · rw [if_neg hslot]

/-- In a record with one slot, no shared account connects but through that slot. -/
theorem parentSlot?_eq_none_of_last {account : Account}
    (haccount : app.data.accounts[chatId]? = some account) (hslot : slotId ∈ account.accounts)
    (hlast : (account.accounts.erase slotId).isEmpty = true)
    (h : ¬app.HangsOn chatId slotId (.shared acc)) : app.parentSlot? chatId acc = none := by
  obtain ⟨hunder, hfirst⟩ := not_or.mp h
  have hmin := Account.minKey?_eq_of_isEmpty_erase hslot hlast
  rw [parentSlot?, haccount, Option.bind_some]
  rcases hshared : account.sharedAccounts[acc]? with - | shared
  · rfl
  have hentry : app.data.shared? chatId acc = some shared := by
    rw [StoreData.shared?, haccount, Option.bind_some, hshared]
  rw [Option.bind_some, Account.resolveParentSlot_eq]
  rcases hparent : shared.parentSlot with - | p
  · have hcomes : app.ComesFirst chatId slotId := by
      intro account' haccount' first hkey
      obtain rfl := Option.some.inj (haccount.symm.trans haccount')
      obtain rfl := Option.some.inj (hmin.symm.trans hkey)
      simp
    exact absurd ⟨hcomes, acc, rfl, shared, hentry, hparent⟩ hfirst
  · have hne : p ≠ slotId := by
      rintro rfl
      exact hunder (StoreData.mem_childIds.mpr
        ⟨shared, hentry, SharedAccount.isChildOf_iff.mpr (.inl hparent)⟩)
    have hgone : p ∉ account.accounts := fun hmem =>
      Map.isEmpty_iff_forall_not_mem.mp hlast p (Std.ExtTreeMap.mem_erase.mpr
        ⟨fun heq => hne (Std.LawfulEqOrd.compare_eq_iff_eq.mp heq).symm, hmem⟩)
    simp only [Account.parentKey?, hparent, if_neg hgone, Option.bind_none]

/-- Removing a slot leaves where the other shared accounts connect. -/
theorem parentSlot?_removeAccount (h : ¬app.HangsOn chatId slotId (.shared acc)) :
    (app.call lib (.removeAccount chatId slotId)).parentSlot? chatId acc =
      app.parentSlot? chatId acc := by
  obtain ⟨hunder, hfirst⟩ := not_or.mp h
  rcases haccount : app.data.accounts[chatId]? with - | account
  · rw [parentSlot?, parentSlot?, call, StoreData.getElem?_removeAccount, if_pos rfl, haccount]
    rfl
  · by_cases hslot : slotId ∈ account.accounts
    · by_cases hlast : (account.accounts.erase slotId).isEmpty = true
      · -- the record goes with its only slot
        rw [parentSlot?_eq_none_of_last haccount hslot hlast h, parentSlot?, call,
          StoreData.getElem?_removeAccount, if_pos rfl, haccount, Option.bind_some, if_pos hslot,
          if_pos hlast, Option.bind_none]
      · have hentry : (app.call lib (.removeAccount chatId slotId)).data.shared? chatId acc =
            app.data.shared? chatId acc := by
          refine Option.ext fun shared => ?_
          rw [call, StoreData.shared?_removeAccount_eq_some haccount hslot, and_iff_left_iff_imp]
          rintro hshared ⟨-, hempty | hchild⟩
          · exact hlast hempty
          · exact hunder (StoreData.mem_childIds.mpr ⟨shared, hshared, hchild⟩)
        refine parentSlot?_congr hentry (fun shared hshared p hp => ?_)
          fun shared hshared hp => ?_
        · rw [call, StoreData.slot?_removeAccount, if_neg]
          rintro ⟨-, rfl⟩
          exact hunder (StoreData.mem_childIds.mpr
            ⟨shared, hshared, SharedAccount.isChildOf_iff.mpr (.inl hp)⟩)
        · exact primarySlot_removeAccount fun hcomes =>
            hfirst ⟨hcomes, acc, rfl, shared, hshared, hp⟩
    · rw [parentSlot?, parentSlot?, call, StoreData.getElem?_removeAccount, if_pos rfl, haccount,
        Option.bind_some, if_neg hslot]

/-- A disconnect is about its slot. -/
theorem changesSlot_disconnectAccount :
    app.ChangesSlot chatId slotId (app.disconnectAccount lib chatId slotId) where
  clients m hm := by
    have hforget : (app.forgetAccount chatId slotId).data = app.data := data_forgetAccount
    refine (mailboxClient?_congr client?_call ?_).trans
      (mailboxClient?_forgetAccount fun h => hm (.inl h))
    cases m with
    | account s =>
      rw [storedClient?, storedClient?, call, StoreData.slot?_removeAccount,
        if_neg fun heq => hm (.inl heq.2.symm)]
    | shared acc =>
      have hparent : ((app.forgetAccount chatId slotId).call lib
          (.removeAccount chatId slotId)).parentSlot? chatId acc = app.parentSlot? chatId acc := by
        rw [← parentSlot?_removeAccount hm, parentSlot?, parentSlot?, call, call, hforget]
      rw [storedClient?, storedClient?, hparent, parentSlot?, parentSlot?, hforget]
  primary hlater := by
    rw [disconnectAccount, call, data_forgetAccount, primarySlot_removeAccount hlater]

/-- An edit of the shared accounts of a record leaves its first slot. -/
theorem primarySlot_modify {data : StoreData} {f : Account → Account} {c : ChatId}
    (hf : ∀ account, (f account).accounts = account.accounts) :
    (data.modify chatId f).accounts[c]?.bind Account.primarySlot =
      data.accounts[c]?.bind Account.primarySlot := by
  rw [StoreData.getElem?_modify]
  split
  · rw [Option.bind_map]
    exact congrArg _ (funext fun account => by
      rw [Function.comp_apply, Account.primarySlot, Account.primarySlot, hf])
  · rfl

/-- A change of one entry of the shared accounts. -/
theorem sameClientsBut_withData {data : StoreData}
    (hslots : ∀ s, data.slot? chatId s = app.data.slot? chatId s)
    (hshared : ∀ a, a ≠ acc → data.shared? chatId a = app.data.shared? chatId a)
    (hprimary : data.accounts[chatId]?.bind Account.primarySlot =
      app.data.accounts[chatId]?.bind Account.primarySlot) :
    app.SameClientsBut chatId (.shared acc) { app with data := data } where
  clients m hm := by
    refine mailboxClient?_congr (client?_withData data) ?_
    cases m with
    | account s => rw [storedClient?, storedClient?, hslots]
    | shared a =>
      have hparent : AppState.parentSlot? { app with data := data } chatId a =
          app.parentSlot? chatId a :=
        parentSlot?_congr (hshared a fun heq => hm (by rw [heq])) (fun _ _ p _ => hslots p)
          fun _ _ _ => hprimary
      rw [storedClient?, storedClient?, hparent]
  primary := by rw [hprimary]

/-- A toggle is about its shared account. -/
theorem sameClientsBut_toggleSharedAccount {parentSlot : Option String} {answers : Answers} :
    app.SameClientsBut chatId (.shared acc)
      (app.toggleSharedAccount config lib chatId acc parentSlot answers) := by
  rw [toggleSharedAccount]
  split
  case h_1 => exact (SameClients.refl app).but
  case h_2 account haccount =>
    split
    case isTrue hon =>
      -- it is turned off
      have hforget : app.SameClientsBut chatId (.shared acc) (app.forgetShared chatId acc) := by
        refine ⟨fun m hm => mailboxClient?_congr ?_ ?_, by rw [data_forgetShared]⟩
        · rw [forgetShared, client?_forgetMailbox, if_neg fun heq => hm heq.2.symm]
        · cases m <;> simp only [storedClient?, parentSlot?, data_forgetShared]
      refine hforget.trans (sameClientsBut_withData (fun s => ?_) (fun a ha => ?_) ?_)
      · rw [StoreData.slot?_removeSharedAccount]
      · rw [StoreData.shared?_removeSharedAccount, if_neg fun heq => ha heq.2.symm]
      · simp only [Op.apply, Op.lockedSection, Store.removeSharedAccount]
        rcases (app.forgetShared chatId acc).data.shared? chatId acc with - | shared
        · rfl
        · exact primarySlot_modify fun _ => rfl
    case isFalse hoff =>
      split
      case h_1 => exact (SameClients.refl app).but
      case h_2 serverUrl token parent hparent =>
        refine SameClientsBut.trans (sameClientsBut_withData (fun s => ?_) (fun a ha => ?_) ?_)
          sameClientsBut_adopt
        · rw [StoreData.slot?_setSharedAccount]
        · rw [StoreData.shared?_setSharedAccount (by rw [haccount]; rfl),
            if_neg fun heq => ha heq.2.symm]
        · simp only [Op.apply, Op.lockedSection, Store.setSharedAccount, haccount]
          refine Eq.trans (primarySlot_modify ?_) (by rw [haccount])
          exact fun _ => rfl

end AppState

/-! ### Inputs -/

/-- A command is about what an account id hangs on: the slot a login is saved under, the slot
`/accounts` adds, or everything, for a logout. -/
def BotCommand.Touches (app : AppState) (chatId : ChatId) (answers : HandlerAnswers)
    (id : Option String) : BotCommand → Prop
  | .login _ _ => app.TapHangsOn chatId (app.savedSlotId chatId answers.connection) id
  | .accounts args => (Str.trim args).isEmpty = false ∧
    app.TapHangsOn chatId answers.connection.generated.val id
  | .logout => True
  | _ => False

/-- A tap is about what an account id hangs on: the shared account it toggles, the slot it
disconnects, or everything. -/
def Tap.Touches (app : AppState) (chatId : ChatId) (id : Option String) : Tap → Prop
  | .toggleShared acc _ => id = some acc
  | .disconnect slotId => app.TapHangsOn chatId slotId id
  | .logoutAll => True
  | _ => False

namespace AppState

variable {app : AppState} {chatId : ChatId} {config : Config} {lib : Externals} {env : TapEnv}
  {id : Option String}

/-- **A command about other mailboxes** keeps the client an account id leads to. -/
theorem namedClient?_messageHandler {command : BotCommand} {answers : HandlerAnswers}
    (h : ¬command.Touches app chatId answers id) (threadId : Option ThreadId) (lang : Locale) :
    (app.messageHandler config lib chatId threadId lang answers command).namedClient? chatId id =
      app.namedClient? chatId id := by
  cases command with
  | login serverUrl token =>
    rw [messageHandler]
    exact changesSlot_cmdLogin.namedClient? h
  | logout => exact absurd trivial h
  | accounts args =>
    cases hempty : (Str.trim args).isEmpty with
    | true => exact (sameClients_messageHandler (by simp [BotCommand.changesAccounts, hempty])
        threadId lang answers).namedClient?
    | false =>
      rw [messageHandler]
      exact changesSlot_cmdComptes.namedClient? fun hangs => h ⟨hempty, hangs⟩
  | start | help | status | shared | mute | unmute | search | threads | lang =>
    exact (sameClients_messageHandler rfl threadId lang answers).namedClient?

/-- **So does a tap** about other mailboxes. -/
theorem namedClient?_callbackHandler {data : String}
    (h : ¬(Tap.ofData data).Touches app chatId id) (answers : HandlerAnswers) :
    (app.callbackHandler config lib chatId env answers data).namedClient? chatId id =
      app.namedClient? chatId id := by
  by_cases hchanges : (Tap.ofData data).changesAccounts = true
  case neg =>
    exact (sameClients_callbackHandler (Bool.eq_false_iff.mpr hchanges) answers).namedClient?
  case pos =>
    rw [callbackHandler]
    cases htap : Tap.ofData data with
    | toggleShared acc parentSlot =>
      rw [htap] at h
      exact sameClientsBut_toggleSharedAccount.namedClient? h
    | disconnect slotId =>
      rw [htap] at h
      exact changesSlot_disconnectAccount.namedClient? h
    | logoutAll =>
      rw [htap] at h
      exact absurd trivial h
    | answer | threads | redraw | alreadyRead | act => cases htap ▸ hchanges

end AppState

end Jmap2Telegram
