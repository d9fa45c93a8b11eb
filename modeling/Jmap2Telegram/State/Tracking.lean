import Jmap2Telegram.State.Contents

/-!
# What is watched

`AppState.Synced` is the agreement of the store with the three registries in memory: the watchers of
slots, the watchers of shared accounts, and the health registry. It is proved through `Tracks`,
which compares the registries with any set of mailboxes: adopting a mailbox adds it to the set that
is tracked, and each `forget*` takes out the mailboxes it is about.

* `Tracks.adopt`, `Tracks.forgetMailbox`, `Tracks.forgetAccount`, `Tracks.forget`.
* `synced_iff_tracks`: the store and the registries agree when what is tracked is what is stored.
-/

namespace Jmap2Telegram

/-- The shared accounts of a chat that are authorized under a slot, by id. -/
def StoreData.childIds (data : StoreData) (chatId : ChatId) (slotId : String) : List String :=
  match data.accounts[chatId]? with
  | some account => account.childIds slotId
  | none => []

/-- The shared accounts `is_child_of` puts under a slot. -/
theorem StoreData.mem_childIds {data : StoreData} {chatId : ChatId} {slotId accountId : String} :
    accountId ∈ data.childIds chatId slotId ↔
      ∃ shared, data.shared? chatId accountId = some shared ∧ shared.isChildOf slotId = true := by
  rw [childIds, shared?]
  rcases data.accounts[chatId]? with - | account
  · simp
  · simp only [Option.bind_some, Account.childIds, List.mem_map, List.mem_filter, Prod.exists,
      exists_and_right, exists_eq_right, Std.ExtTreeMap.mem_toList_iff_getElem?_eq_some]

/-- A slot of a chat and the shared accounts under it. -/
def StoreData.Under (data : StoreData) (chatId : ChatId) (slotId : String) : Mailbox → Prop
  | .account s => s = slotId
  | .shared a => a ∈ data.childIds chatId slotId

namespace AppState

variable {config : Config} {lib : Externals} {app : AppState} {chatId c : ChatId}
  {mailbox m : Mailbox} {client : Client} {created : Option ThreadId} {slotId : String}
  {P Q : ChatId → Mailbox → Prop}

/-- The running watchers and the health entries are those of the mailboxes in `P`. -/
structure Tracks (app : AppState) (P : ChatId → Mailbox → Prop) : Prop where
  watchers : ∀ c m, (app.watcher? c m).isSome ↔ P c m
  health : ∀ key, key ∈ app.health ↔ ∃ c m, P c m ∧ m.healthKey c = key

/-- The store and the registries agree: the watchers are those of the slots and of the shared
accounts in the store, and the health registry has their keys and no others. -/
structure Synced (app : AppState) : Prop where
  accounts : ∀ c s, (c, s) ∈ app.accountWatchers ↔ (app.data.slot? c s).isSome
  shared : ∀ c a, (c, a) ∈ app.sharedWatchers ↔ (app.data.shared? c a).isSome
  health : ∀ key, key ∈ app.health ↔
    (∃ c s, (app.data.slot? c s).isSome ∧ accountHealthKey c s = key) ∨
      ∃ c a, (app.data.shared? c a).isSome ∧ sharedHealthKey c a = key

/-- The bot is synced if its watchers track what the store holds. -/
theorem synced_iff_tracks : app.Synced ↔ app.Tracks app.data.Holds := by
  have hkeys : ∀ key, (∃ c m, app.data.Holds c m ∧ m.healthKey c = key) ↔
      (∃ c s, (app.data.slot? c s).isSome ∧ accountHealthKey c s = key) ∨
        ∃ c a, (app.data.shared? c a).isSome ∧ sharedHealthKey c a = key := by
    refine fun key => ⟨fun ⟨c, m, hm, hkey⟩ => ?_, fun h => ?_⟩
    · cases m with
      | account s => exact .inl ⟨c, s, hm, hkey⟩
      | shared a => exact .inr ⟨c, a, hm, hkey⟩
    · obtain ⟨c, s, hs, hkey⟩ | ⟨c, a, ha, hkey⟩ := h
      · exact ⟨c, .account s, hs, hkey⟩
      · exact ⟨c, .shared a, ha, hkey⟩
  refine ⟨fun h => ⟨fun c m => ?_, fun key => (h.health key).trans (hkeys key).symm⟩,
    fun h => ⟨fun c s => ?_, fun c a => ?_, fun key => (h.health key).trans (hkeys key)⟩⟩
  · cases m with
    | account s => exact Std.ExtTreeMap.isSome_getElem?_iff_mem.trans (h.accounts c s)
    | shared a => exact Std.ExtTreeMap.isSome_getElem?_iff_mem.trans (h.shared c a)
  · exact Std.ExtTreeMap.isSome_getElem?_iff_mem.symm.trans (h.watchers c (.account s))
  · exact Std.ExtTreeMap.isSome_getElem?_iff_mem.symm.trans (h.watchers c (.shared a))

/-! ### Comparing what is tracked -/

theorem Tracks.congr (h : app.Tracks P) (heq : ∀ c m, P c m ↔ Q c m) : app.Tracks Q := by
  obtain rfl : P = Q := funext fun c => funext fun m => propext (heq c m)
  exact h

/-- Only one set of mailboxes is tracked. -/
theorem Tracks.unique (h : app.Tracks P) (h' : app.Tracks Q) : P c m ↔ Q c m :=
  (h.watchers c m).symm.trans (h'.watchers c m)

/-- The store is no part of what is tracked. -/
theorem Tracks.withData (h : app.Tracks P) (data : StoreData) :
    Tracks { app with data := data } P where
  watchers c m := by rw [watcher?_withData, h.watchers c m]
  health := h.health

/-- A new bot watches nothing. -/
theorem tracks_new (data : StoreData) : (new data).Tracks fun _ _ => False where
  watchers c m := by cases m <;> simp [watcher?, new]
  health key := by simp [new]

/-! ### After each operation -/

/-- Forgetting a chat drops the watchers of its mailboxes and no others. -/
theorem watcher?_forget :
    (app.forget chatId).watcher? c m = if chatId = c then none else app.watcher? c m := by
  by_cases hc : chatId = c
  · cases m <;>
      simp only [watcher?, AppState.forget, removeAccountClients, removeAccountWatchers,
        removeSharedClients, removeSharedWatchers, Map.getElem?_filter_key, hc, bne_self_eq_false,
        Bool.false_eq_true, if_false, if_true]
  · have hkey : (c != chatId) = true := bne_iff_ne.mpr fun heq => hc heq.symm
    cases m <;>
      simp only [watcher?, AppState.forget, removeAccountClients, removeAccountWatchers,
        removeSharedClients, removeSharedWatchers, Map.getElem?_filter_key, hkey, if_true,
        if_neg hc]

/-- Forgetting a slot is forgetting its mailbox, and then those of the shared accounts under it. -/
theorem forgetAccount_eq : app.forgetAccount chatId slotId =
    (app.data.childIds chatId slotId).foldl (fun app id => app.forgetShared chatId id)
      (app.forgetMailbox chatId (.account slotId)) := by
  rw [AppState.forgetAccount, StoreData.childIds, AppState.forgetMailbox, data_removeWatcher,
    data_removeClient]
  rcases app.data.accounts[chatId]? with - | account <;> rfl

section

variable {look : AppState → ChatId → Mailbox → Option Client}
  (hlook : ∀ (app : AppState) (chatId : ChatId) (mailbox : Mailbox) {c : ChatId} {m : Mailbox},
    look (app.forgetMailbox chatId mailbox) c m =
      if chatId = c ∧ mailbox = m then none else look app c m)
include hlook

/-- Forgetting shared accounts one after another, in a registry that forgets one mailbox at a
time. -/
theorem lookup_forgetShared_foldl (ids : List String) :
    look (ids.foldl (fun app id => app.forgetShared chatId id) app) c m =
      if chatId = c ∧ ∃ id ∈ ids, Mailbox.shared id = m then none else look app c m := by
  induction ids generalizing app with
  | nil => simp
  | cons id ids ih =>
    rw [List.foldl_cons, ih, forgetShared, hlook]
    by_cases hlater : chatId = c ∧ ∃ id ∈ ids, Mailbox.shared id = m
    · rw [if_pos hlater, if_pos ⟨hlater.1, by simp [hlater.2]⟩]
    · rw [if_neg hlater]
      refine if_congr ?_ rfl rfl
      rw [List.exists_mem_cons_iff]
      refine ⟨fun h => ⟨h.1, .inl h.2⟩, fun h => ⟨h.1, h.2.resolve_right fun hids => ?_⟩⟩
      exact hlater ⟨h.1, hids⟩

/-- Forgetting a slot takes it and the shared accounts under it out of the registry. -/
theorem lookup_forgetAccount : look (app.forgetAccount chatId slotId) c m = some client ↔
    look app c m = some client ∧ ¬(chatId = c ∧ app.data.Under chatId slotId m) := by
  rw [forgetAccount_eq, lookup_forgetShared_foldl hlook, hlook]
  cases m with
  | account s =>
    rw [if_neg (by simp), StoreData.Under]
    by_cases hslot : chatId = c ∧ Mailbox.account slotId = .account s
    · rw [if_pos hslot]
      exact iff_of_false (Option.some_ne_none client ∘ Eq.symm) fun h =>
        h.2 ⟨hslot.1, (Mailbox.account.inj hslot.2).symm⟩
    · rw [if_neg hslot, and_iff_left fun h => hslot ⟨h.1, congrArg _ h.2.symm⟩]
  | shared a =>
    rw [StoreData.Under, if_neg (c := chatId = c ∧ Mailbox.account slotId = .shared a) (by simp)]
    by_cases hunder : chatId = c ∧ a ∈ app.data.childIds chatId slotId
    · rw [if_pos (by simpa using hunder)]
      exact iff_of_false (Option.some_ne_none client ∘ Eq.symm) fun h => h.2 hunder
    · rw [if_neg (by simpa using hunder), and_iff_left hunder]

end

/-- Forgetting a slot stops its watcher and those of the shared accounts under it. -/
theorem watcher?_forgetAccount : (app.forgetAccount chatId slotId).watcher? c m = some client ↔
    app.watcher? c m = some client ∧ ¬(chatId = c ∧ app.data.Under chatId slotId m) :=
  lookup_forgetAccount fun _ _ _ => watcher?_forgetMailbox

section

variable (chatId) (hP : ∀ c, ¬P c (.account "primary")) (h : app.Tracks P)
include hP h

/-- A health entry of a mailbox that can be stored is there when the mailbox is tracked. -/
theorem Tracks.mem_health_iff (hm : m ≠ .account "primary") :
    m.healthKey c ∈ app.health ↔ P c m := by
  refine (h.health _).trans ⟨fun ⟨c', m', hm', hkey⟩ => ?_, fun hm' => ⟨c, m, hm', rfl⟩⟩
  obtain ⟨rfl, rfl⟩ := Mailbox.healthKey_injective (fun heq => hP c' (heq ▸ hm')) hm hkey
  exact hm'

/-- After `forget_mailbox` that mailbox is not watched any more. -/
theorem Tracks.forgetMailbox (hmailbox : mailbox ≠ .account "primary") :
    (app.forgetMailbox chatId mailbox).Tracks fun c m => P c m ∧ ¬(chatId = c ∧ mailbox = m) where
  watchers c m := by
    rw [AppState.forgetMailbox, watcher?_removeWatcher, watcher?_removeClient]
    split
    case isTrue heq => simp [heq]
    case isFalse hne =>
      rw [watcher?_withHealth, h.watchers c m]
      exact (and_iff_left hne).symm
  health key := by
    rw [AppState.forgetMailbox, health_removeWatcher, health_removeClient, Health.deregister,
      Std.ExtTreeMap.mem_erase, h.health key, ne_eq, Std.LawfulEqOrd.compare_eq_iff_eq]
    constructor
    · rintro ⟨hne, c, m, hm, hkey⟩
      refine ⟨c, m, ⟨hm, ?_⟩, hkey⟩
      rintro ⟨hc, heq⟩
      exact hne (by rw [hc, heq, hkey])
    · rintro ⟨c, m, ⟨hm, hne⟩, hkey⟩
      refine ⟨fun heq => hne ?_, c, m, hm, hkey⟩
      exact Mailbox.healthKey_injective hmailbox (fun h' => hP c (h' ▸ hm)) (heq.trans hkey.symm)

/-- Forgetting shared accounts one after another. -/
theorem Tracks.forgetShared_foldl (ids : List String) :
    (ids.foldl (fun app id => app.forgetShared chatId id) app).Tracks fun c m =>
      P c m ∧ ¬(chatId = c ∧ ∃ id ∈ ids, Mailbox.shared id = m) := by
  induction ids generalizing app P with
  | nil => exact h.congr fun c m => by simp
  | cons id ids ih =>
    have hone : (app.forgetMailbox chatId (.shared id)).Tracks _ :=
      h.forgetMailbox chatId hP (by simp)
    refine (ih (fun c hc => hP c hc.1) hone).congr fun c m => ?_
    rw [List.exists_mem_cons_iff, and_assoc, ← not_or, ← and_or_left]

/-- Forgetting a slot forgets the shared accounts the store has under it. -/
theorem Tracks.forgetAccount (hslot : slotId ≠ "primary") :
    (app.forgetAccount chatId slotId).Tracks fun c m =>
      P c m ∧ ¬(chatId = c ∧ app.data.Under chatId slotId m) := by
  have hone : (app.forgetMailbox chatId (.account slotId)).Tracks _ :=
    h.forgetMailbox chatId hP (by simpa)
  rw [forgetAccount_eq]
  refine (hone.forgetShared_foldl chatId (fun c hc => hP c hc.1) _).congr fun c m => ?_
  cases m with
  | account s =>
    simp only [StoreData.Under, Mailbox.account.injEq, reduceCtorEq, and_false, exists_false,
      not_false_eq_true, and_true, eq_comm]
  | shared a =>
    simp only [StoreData.Under, reduceCtorEq, and_false, not_false_eq_true, and_true,
      Mailbox.shared.injEq, exists_eq_right]

/-- No slot is called `"primary"`, but a slot of that name shares its key with `"default"`. -/
theorem Tracks.forgetMailbox_primary (hdefault : ¬P chatId (.account "default")) :
    (app.forgetMailbox chatId (.account "primary")).Tracks P where
  watchers c m := by
    rw [AppState.forgetMailbox, watcher?_removeWatcher, watcher?_removeClient]
    split
    case isTrue heq =>
      obtain ⟨rfl, rfl⟩ := heq
      simp [hP]
    case isFalse => rw [watcher?_withHealth, h.watchers c m]
  health key := by
    have hnot : accountHealthKey chatId "default" ∉ app.health := fun hmem =>
      hdefault ((h.mem_health_iff hP (m := .account "default") (by simp)).mp hmem)
    rw [AppState.forgetMailbox, health_removeWatcher, health_removeClient, Health.deregister,
      Std.ExtTreeMap.mem_erase, ← h.health key, ne_eq, Std.LawfulEqOrd.compare_eq_iff_eq,
      and_iff_right_iff_imp]
    rintro hmem rfl
    exact hnot hmem

omit hP in
/-- After `forget` none of the chat is. -/
theorem Tracks.forget : (app.forget chatId).Tracks fun c m => P c m ∧ chatId ≠ c where
  watchers c m := by
    rw [watcher?_forget, ← h.watchers c m]
    split
    case isTrue hc => simp [hc]
    case isFalse hc => exact (and_iff_left hc).symm
  health key := by
    have hkept : key ∈ (app.forget chatId).health ↔
        key ∈ app.health.deregisterChat chatId := Iff.rfl
    rw [hkept]
    constructor
    · intro hmem
      obtain ⟨c, m, hm, rfl⟩ := (h.health key).mp
        (Map.mem_filter_key.mp hmem).1
      exact ⟨c, m, ⟨hm, (mem_deregisterChat.mp hmem).1.symm⟩, rfl⟩
    · rintro ⟨c, m, ⟨hm, hne⟩, rfl⟩
      exact mem_deregisterChat.mpr ⟨hne.symm, (h.health _).mpr ⟨c, m, hm, rfl⟩⟩

variable (config lib mailbox client created) in
omit hP in
/-- Adopting a mailbox adds it, if it was not watched. -/
theorem Tracks.adopt :
    (app.adopt config lib chatId mailbox client created).Tracks fun c m =>
      P c m ∨ chatId = c ∧ mailbox = m := by
  by_cases hsome : (app.watcher? chatId mailbox).isSome = true
  · rw [AppState.adopt, if_pos hsome]
    refine h.congr fun c m => (or_iff_left_of_imp ?_).symm
    rintro ⟨rfl, rfl⟩
    exact (h.watchers _ _).mp hsome
  · rw [AppState.adopt, if_neg hsome]
    have hstored : (((app.insertClient chatId client mailbox).register chatId mailbox).insertWatcher
        chatId client mailbox).Tracks fun c m => P c m ∨ chatId = c ∧ mailbox = m := by
      refine ⟨fun c m => ?_, fun key => ?_⟩
      · rw [watcher?_insertWatcher]
        have hkept : (((app.insertClient chatId client mailbox).register chatId mailbox).watcher?
            c m).isSome ↔ P c m := by
          have hsame : (app.insertClient chatId client mailbox).watcher? c m = app.watcher? c m :=
            watcher?_insertClient
          rw [← h.watchers c m, ← hsame]
          cases m <;> exact Iff.rfl
        split
        case isTrue heq => simp [heq]
        case isFalse hne =>
          rw [hkept]
          exact (or_iff_left hne).symm
      · rw [health_insertWatcher, AppState.register, Health.register, Std.ExtTreeMap.mem_insert,
          health_insertClient, h.health key, Std.LawfulEqOrd.compare_eq_iff_eq]
        constructor
        · rintro (rfl | ⟨c, m, hm, hkey⟩)
          · exact ⟨chatId, mailbox, .inr ⟨rfl, rfl⟩, rfl⟩
          · exact ⟨c, m, .inl hm, hkey⟩
        · rintro ⟨c, m, hm | ⟨rfl, rfl⟩, hkey⟩
          · exact .inr ⟨c, m, hm, hkey⟩
          · exact .inl hkey
    -- the topic changes the store only
    obtain ⟨data, heq⟩ := ensureTopic_eq config lib (((app.insertClient chatId client
      mailbox).register chatId mailbox).insertWatcher chatId client mailbox) chatId mailbox created
    rw [heq]
    exact hstored.withData data

end

end AppState

end Jmap2Telegram
