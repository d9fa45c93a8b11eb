import Jmap2Telegram.Topics.Forum

/-!
# Topics under the server strategy

With `TELEGRAM_THREAD_STRATEGY=server` the deployment promises one topic per server, but the
strategy only decides what a topic is called: a synchronization creates a topic for each slot.

* `topic_injective`: after a synchronization different slots have different topics.
* `onePerServer_iff`: so there is one topic per server exactly when no two slots have the same
  server.
-/

namespace Jmap2Telegram

open Transition

/-- Two slots of a chat have the same topic if and only if their servers have the same host. -/
def StoreData.OneTopicPerServer (hostStr : String → Option String) (data : StoreData)
    (chatId : ChatId) : Prop :=
  ∀ s s' slot slot', data.slot? chatId s = some slot → data.slot? chatId s' = some slot' →
    (slot.threadId = slot'.threadId ↔
      serverHost hostStr slot.serverUrl = serverHost hostStr slot'.serverUrl)

/-- No two slots of a record are on the same host. -/
def Account.DistinctHosts (hostStr : String → Option String) (account : Account) : Prop :=
  ∀ (s s' : String) (slot slot' : AccountSlot), account.accounts[s]? = some slot →
    account.accounts[s']? = some slot' →
    serverHost hostStr slot.serverUrl = serverHost hostStr slot'.serverUrl → s = s'

namespace Threaded

variable {config : TopicConfig} {hostStr : String → Option String} {lib : Externals}
  {chatId : ChatId} {w w' : Threaded} {answers : SyncAnswers} {account : Account}

/-- A synchronization leaves the servers of the slots. -/
theorem serverUrl_syncAllTopics (h : w.syncAllTopics config hostStr lib chatId answers = some w')
    (s : String) :
    (w'.app.data.slot? chatId s).map AccountSlot.serverUrl =
      (w.app.data.slot? chatId s).map AccountSlot.serverUrl := by
  refine syncAllTopics_induction (fun v => (v.app.data.slot? chatId s).map AccountSlot.serverUrl =
    (w.app.data.slot? chatId s).map AccountSlot.serverUrl) ?_ rfl h
  intro v v' created m hv hensure
  obtain ⟨-, rfl⟩ | ⟨_, _, t, _, -, -, -, -, -, rfl⟩ := ensureTopic_cases hensure
  · exact hv
  · have hcredentials : ((v.app.setTopic lib chatId (some t) m).data.slot? chatId s).map
        (fun slot => (slot.serverUrl, slot.token)) =
        (v.app.data.slot? chatId s).map fun slot => (slot.serverUrl, slot.token) := slot?_setTopic
    have hslot := congrArg (Option.map Prod.fst) hcredentials
    rw [Option.map_map, Option.map_map] at hslot
    exact hslot.trans hv

/-- Each slot of a chat whose topics are on gets a topic. -/
theorem isSome_topic_account (haccount : w.app.data.accounts[chatId]? = some account)
    (hthreads : isThreadedModeEnabled config.toConfig (some account) = true)
    (h : w.syncAllTopics config hostStr lib chatId answers = some w') {s : String}
    (hs : s ∈ account.accounts) : (w'.recorded chatId (.account s)).isSome := by
  refine isSome_recorded_syncAllTopics haccount h ?_ ?_
  · rw [Account.syncedMailboxes, List.mem_append, List.mem_map]
    exact .inl ⟨s, Std.ExtTreeMap.mem_keys.mpr hs, rfl⟩
  · rw [Account.wantsTopic, hthreads, Bool.true_and]
    exact hs

/-- Different slots get different topics, if no topic is recorded at first. -/
theorem topic_injective (haccount : w.app.data.accounts[chatId]? = some account)
    (hthreads : isThreadedModeEnabled config.toConfig (some account) = true)
    (hnone : ∀ m, w.recorded chatId m = none)
    (h : w.syncAllTopics config hostStr lib chatId answers = some w') {s s' : String}
    {slot slot' : AccountSlot} (hs : s ∈ account.accounts)
    (hslot : w'.app.data.slot? chatId s = some slot)
    (hslot' : w'.app.data.slot? chatId s' = some slot') (heq : slot.threadId = slot'.threadId) :
    s = s' := by
  have hrecorded : w'.forum.Recorded (w'.recorded chatId) :=
    syncAllTopics_induction (fun v => v.forum.Recorded (v.recorded chatId))
      (fun _ _ _ _ hr hensure => Recorded.ensureTopic hr hensure)
      (Handles.recorded_none hnone) h
  obtain ⟨t, ht⟩ := Option.isSome_iff_exists.mp (isSome_topic_account haccount hthreads h hs)
  have ht' : w'.recorded chatId (.account s') = some t := by
    rw [← ht, recorded, StoreData.topic?, StoreData.topic?, hslot, hslot']
    exact heq.symm
  exact Mailbox.account.inj (hrecorded.unique _ _ t ht ht')

/-- **One topic per server** is what a synchronization leaves if and only if the chat has at most
one slot on each server, whatever the strategy. -/
theorem onePerServer_iff (haccount : w.app.data.accounts[chatId]? = some account)
    (hthreads : isThreadedModeEnabled config.toConfig (some account) = true)
    (hnone : ∀ m, w.recorded chatId m = none)
    (h : w.syncAllTopics config hostStr lib chatId answers = some w') :
    w'.app.data.OneTopicPerServer hostStr chatId ↔ account.DistinctHosts hostStr := by
  -- the slots before and after, with their servers
  have hafter : ∀ s slot, account.accounts[s]? = some slot →
      ∃ slot', w'.app.data.slot? chatId s = some slot' ∧ slot'.serverUrl = slot.serverUrl := by
    intro s slot hslot
    have hurl := serverUrl_syncAllTopics h s
    rw [StoreData.slot?, StoreData.slot?, haccount, Option.bind_some, hslot] at hurl
    exact Option.map_eq_some_iff.mp hurl
  have hbefore : ∀ s slot', w'.app.data.slot? chatId s = some slot' →
      ∃ slot, account.accounts[s]? = some slot ∧ slot.serverUrl = slot'.serverUrl := by
    intro s slot' hslot'
    have hurl := serverUrl_syncAllTopics h s
    rw [hslot', StoreData.slot?, haccount, Option.bind_some] at hurl
    exact Option.map_eq_some_iff.mp hurl.symm
  constructor
  · intro hone s s' slot slot' hslot hslot' hhost
    obtain ⟨after, hafter₁, hurl⟩ := hafter s slot hslot
    obtain ⟨after', hafter₂, hurl'⟩ := hafter s' slot' hslot'
    have hthread := (hone s s' after after' hafter₁ hafter₂).mpr (by rw [hurl, hurl', hhost])
    exact topic_injective haccount hthreads hnone h (Map.mem_of_getElem? hslot) hafter₁ hafter₂
      hthread
  · intro hdistinct s s' slot slot' hslot hslot'
    obtain ⟨before, hbefore₁, hurl⟩ := hbefore s slot hslot
    obtain ⟨before', hbefore₂, hurl'⟩ := hbefore s' slot' hslot'
    have hsame : s = s' → slot = slot' := by
      rintro rfl
      exact Option.some.inj (hslot.symm.trans hslot')
    constructor
    · intro hthread
      rw [hsame (topic_injective haccount hthreads hnone h (Map.mem_of_getElem? hbefore₁) hslot
        hslot' hthread)]
    · intro hhost
      rw [hsame (hdistinct s s' before before' hbefore₁ hbefore₂ (by rw [hurl, hurl', hhost]))]

end Threaded

/-! ### Two slots on one server -/

/-- Two slots on one server. -/
def oneServerAccount : Account := { Account.empty with
  accounts := ((∅ : Map String AccountSlot).insert "default" sampleSlot).insert "k3x9d0qa"
    { sampleSlot with slotId := "k3x9d0qa", token := "other-token", email := "b@b.c" } }

/-- A chat with the record, before it has topics. -/
def oneServerChat : Threaded :=
  ⟨.new ⟨(∅ : Map ChatId Account).insert 1 oneServerAccount⟩, .empty, []⟩

/-- A deployment with one topic per server. -/
def serverConfig : TopicConfig := ⟨⟨.auto, .parent⟩, .server⟩

/-- Telegram creates both topics. -/
def twoTopics : SyncAnswers where
  created
    | .account "default" => some 10
    | _ => some 11
  order := []

theorem exists_syncAllTopics_oneServerChat :
    ∃ w', oneServerChat.syncAllTopics serverConfig sampleHostStr .concrete 1 twoTopics = some w' :=
  Option.isSome_iff_exists.mp (by decide)

theorem account_oneServerChat :
    oneServerChat.app.data.accounts[(1 : ChatId)]? = some oneServerAccount :=
  Std.ExtTreeMap.getElem?_insert_self

theorem recorded_oneServerChat (m : Mailbox) : oneServerChat.recorded 1 m = none := by
  rw [Threaded.recorded]
  cases m with
  | account s =>
    rw [StoreData.topic?, StoreData.slot?, account_oneServerChat, Option.bind_some,
      oneServerAccount, Map.getElem?_insert, Map.getElem?_insert]
    split
    · rfl
    · split
      · rfl
      · simp
  | shared a =>
    rw [StoreData.topic?, StoreData.shared?, account_oneServerChat, Option.bind_some]
    simp [oneServerAccount, Account.empty]

/-- The two slots get a topic each. -/
theorem not_forall_onePerServer :
    ¬∀ (config : TopicConfig) (hostStr : String → Option String) (lib : Externals)
      (chatId : ChatId) (w w' : Threaded) (answers : SyncAnswers) (account : Account),
      config.telegramThreadStrategy = .server → w.app.data.accounts[chatId]? = some account →
      isThreadedModeEnabled config.toConfig (some account) = true →
      (∀ m, w.recorded chatId m = none) →
      w.syncAllTopics config hostStr lib chatId answers = some w' →
      w'.app.data.OneTopicPerServer hostStr chatId := by
  intro hall
  obtain ⟨w', hsync⟩ := exists_syncAllTopics_oneServerChat
  have hone := hall serverConfig sampleHostStr .concrete 1 oneServerChat w' twoTopics
    oneServerAccount rfl account_oneServerChat rfl recorded_oneServerChat hsync
  have hslot : ∀ s, oneServerAccount.accounts[s]?.map AccountSlot.serverUrl =
      some sampleSlot.serverUrl → ∃ slot, w'.app.data.slot? 1 s = some slot ∧
        slot.serverUrl = sampleSlot.serverUrl := by
    intro s hs
    have hurl := Threaded.serverUrl_syncAllTopics hsync s
    rw [StoreData.slot?, StoreData.slot?, account_oneServerChat, Option.bind_some, hs] at hurl
    exact Option.map_eq_some_iff.mp hurl
  obtain ⟨slot, hdefault, hurl⟩ := hslot "default" (by decide)
  obtain ⟨slot', hother, hurl'⟩ := hslot "k3x9d0qa" (by decide)
  have hthread := (hone "default" "k3x9d0qa" slot slot' hdefault hother).mpr (by rw [hurl, hurl'])
  have hsame := Threaded.topic_injective account_oneServerChat rfl recorded_oneServerChat hsync
    (show "default" ∈ oneServerAccount.accounts by decide) hdefault hother hthread
  exact absurd hsame (by decide)

/-- The main result for them. -/
theorem onePerServer_iff_oneServerChat :
    ∃ w', oneServerChat.syncAllTopics serverConfig sampleHostStr .concrete 1 twoTopics = some w' ∧
      (w'.app.data.OneTopicPerServer sampleHostStr 1 ↔
        oneServerAccount.DistinctHosts sampleHostStr) := by
  obtain ⟨w', hsync⟩ := exists_syncAllTopics_oneServerChat
  exact ⟨w', hsync,
    Threaded.onePerServer_iff account_oneServerChat rfl recorded_oneServerChat hsync⟩

end Jmap2Telegram
