import Jmap2Telegram.State.Contents
import Jmap2Telegram.Watcher.Fallback

/-!
# Forgetting a topic that is gone

When Telegram says that the topic of a message is gone, `sync_and_notify` clears a thread id, in a
`match` of its own. `target_thread_id` reads one through a resolver: the slot's own, that of the
primary slot, that of the shared account, or that of the slot the shared account is under.

* `getElem?_clearThread`: what is cleared, as an edit of the record.
* `forgetsTopic_iff`: the topic that is gone is forgotten exactly when it was read where it is
  cleared.
-/

namespace Jmap2Telegram

open Transition

/-- The topic a record has for a mailbox. -/
def Account.topic? (account : Account) : Mailbox → Option ThreadId
  | .account slotId => account.accounts[slotId]?.bind AccountSlot.threadId
  | .shared accountId => account.sharedAccounts[accountId]?.bind SharedAccount.threadId

namespace WatchTarget

/-- The record without the thread id that is cleared for a target. -/
def clearIn (account : Account) : WatchTarget → Account
  | primary => account.modifySlot "default" fun slot => { slot with threadId := none }
  | shared accountId _ =>
    account.modifyShared accountId fun shared => { shared with threadId := none }
  | extra slotId _ | WatchTarget.account slotId _ =>
    account.modifySlot slotId fun slot => { slot with threadId := none }

/-- The topic `t` that was read from the record is not read any more, and no other was cleared. -/
structure ForgetsTopic (config : Config) (target : WatchTarget) (t : ThreadId)
    (account account' : Account) : Prop where
  forgotten : target.threadId config account' ≠ some t
  others : ∀ m, account'.topic? m = account.topic? m ∨ account.topic? m = some t

/-- The thread id a target is read from is the one that is cleared for it. -/
def ReadsWhatItClears (config : Config) (account : Account) : WatchTarget → Prop
  | primary => account.accounts.minKey? = some "default"
  | shared _ _ => config.telegramSharedThreadMode = .dedicated
  | extra _ _ | WatchTarget.account _ _ => True

end WatchTarget

/-! ### What is cleared -/

section

variable {lib : Externals} {data : StoreData} {chatId : ChatId} {account : Account}

/-- Clearing the thread id of a slot that may be there. -/
theorem getElem?_setAccountThreadId (haccount : data.accounts[chatId]? = some account)
    (slotId : String) :
    ((Op.setAccountThreadId chatId slotId none).apply lib data).accounts[chatId]? =
      some (account.modifySlot slotId fun slot => { slot with threadId := none }) := by
  simp only [Op.apply, Op.lockedSection, Store.setAccountThreadId]
  rcases hslot : data.slot? chatId slotId with - | slot
  · -- there is nothing to clear
    rw [StoreData.slot?, haccount, Option.bind_some] at hslot
    have hsame : account.accounts.modify slotId (fun slot => { slot with threadId := none }) =
        account.accounts := by
      refine Std.ExtTreeMap.ext_getElem? fun s => ?_
      rw [Std.ExtTreeMap.getElem?_modify]
      split
      case isTrue h =>
        rw [← Std.LawfulEqOrd.eq_of_compare h, hslot]
        rfl
      case isFalse => rfl
    rw [Account.modifySlot, hsame]
    exact haccount
  · change (data.modify chatId _).accounts[chatId]? = _
    rw [StoreData.getElem?_modify, if_pos rfl, haccount, Option.map_some]

/-- Clearing the thread id of a shared account that may be there. -/
theorem getElem?_setSharedAccountThreadId (haccount : data.accounts[chatId]? = some account)
    (accountId : String) :
    ((Op.setSharedAccountThreadId chatId accountId none).apply lib data).accounts[chatId]? =
      some (account.modifyShared accountId fun shared => { shared with threadId := none }) := by
  simp only [Op.apply, Op.lockedSection, Store.setSharedAccountThreadId]
  rcases hshared : data.shared? chatId accountId with - | shared
  · rw [StoreData.shared?, haccount, Option.bind_some] at hshared
    have hsame : account.sharedAccounts.modify accountId
        (fun shared => { shared with threadId := none }) = account.sharedAccounts := by
      refine Std.ExtTreeMap.ext_getElem? fun a => ?_
      rw [Std.ExtTreeMap.getElem?_modify]
      split
      case isTrue h =>
        rw [← Std.LawfulEqOrd.eq_of_compare h, hshared]
        rfl
      case isFalse => rfl
    rw [Account.modifyShared, hsame]
    exact haccount
  · change (data.modify chatId _).accounts[chatId]? = _
    rw [StoreData.getElem?_modify, if_pos rfl, haccount, Option.map_some]

/-- **What is cleared**, as an edit of the record. -/
theorem getElem?_clearThread (haccount : data.accounts[chatId]? = some account)
    (target : WatchTarget) :
    ((target.clearThread chatId).apply lib data).accounts[chatId]? =
      some (target.clearIn account) := by
  cases target with
  | primary => exact getElem?_setAccountThreadId haccount "default"
  | shared accountId label => exact getElem?_setSharedAccountThreadId haccount accountId
  | extra slotId label | account slotId label => exact getElem?_setAccountThreadId haccount slotId

end

/-! ### Where it is read -/

section

variable {config : Config} {account : Account} {t : ThreadId}

namespace Account

/-- Clearing the topic of a slot clears that one. -/
theorem topic?_modifySlot (slotId : String) (m : Mailbox) :
    (account.modifySlot slotId fun slot => { slot with threadId := none }).topic? m =
      if m = .account slotId then none else account.topic? m := by
  cases m with
  | shared accountId => rfl
  | account slotId' =>
    simp only [topic?, modifySlot, Map.getElem?_modify, Mailbox.account.injEq,
      eq_comm (a := slotId)]
    split
    · rcases account.accounts[slotId']? with - | slot <;> rfl
    · rfl

/-- Clearing the topic of a shared account clears that one. -/
theorem topic?_modifyShared (accountId : String) (m : Mailbox) :
    (account.modifyShared accountId fun shared => { shared with threadId := none }).topic? m =
      if m = .shared accountId then none else account.topic? m := by
  cases m with
  | account slotId => rfl
  | shared accountId' =>
    simp only [topic?, modifyShared, Map.getElem?_modify, Mailbox.shared.injEq,
      eq_comm (a := accountId)]
    split
    · rcases account.sharedAccounts[accountId']? with - | shared <;> rfl
    · rfl

/-- Clearing the topic of a shared account leaves the slots it is under. -/
theorem bind_resolveParentSlot_modifyShared (accountId : String) :
    ((account.modifyShared accountId fun shared => { shared with threadId := none }).sharedAccounts[
        accountId]?).bind account.resolveParentSlot =
      account.sharedAccounts[accountId]?.bind account.resolveParentSlot := by
  rw [modifyShared, Std.ExtTreeMap.getElem?_modify_self, Option.bind_map]
  rfl

end Account

namespace WatchTarget

/-- The topic of a mailbox is cleared alone, and the target is read from it. -/
theorem forgetsTopic_of_topic? {target : WatchTarget} {m : Mailbox} {account' : Account}
    (hread : account.topic? m = some t)
    (hclear : ∀ m', account'.topic? m' = if m' = m then none else account.topic? m')
    (hthread : ∀ t', target.threadId config account' = some t' → account'.topic? m = some t') :
    ForgetsTopic config target t account account' where
  forgotten hstill := by
    have hnone := hthread t hstill
    rw [hclear, if_pos rfl] at hnone
    cases hnone
  others m' := by
    rw [hclear]
    by_cases hm : m' = m
    · rw [hm]
      exact .inr hread
    · rw [if_neg hm]
      exact .inl rfl

/-- A topic is only read in a chat with topics. -/
theorem threaded_of_threadId {target : WatchTarget}
    (hread : target.threadId config account = some t) :
    isThreadedModeEnabled config (some account) = true := by
  by_contra hoff
  simp only [threadId, if_neg hoff, reduceCtorEq] at hread

/-- A slot's own topic is forgotten. -/
theorem forgetsTopic_modifySlot {target : WatchTarget} {slotId : String}
    (hslot : ∀ account', isThreadedModeEnabled config (some account') = true →
      account'.accounts.minKey? = account.accounts.minKey? →
      target.threadId config account' = account'.topic? (.account slotId))
    (hread : target.threadId config account = some t) :
    ForgetsTopic config target t account
      (account.modifySlot slotId fun slot => { slot with threadId := none }) := by
  have hmode := threaded_of_threadId hread
  have hkey : (account.modifySlot slotId fun slot =>
      { slot with threadId := none }).accounts.minKey? = account.accounts.minKey? :=
    Std.ExtTreeMap.minKey?_modify_eq_minKey?
  refine forgetsTopic_of_topic? ((hslot account hmode rfl).symm.trans hread)
    (account.topic?_modifySlot slotId) fun t' ht' => ?_
  exact (hslot _ (threaded_of_threadId ht') hkey).symm.trans ht'

/-- The primary slot's topic is forgotten when that slot is the one that is cleared. -/
theorem forgetsTopic_primary_iff (hread : primary.threadId config account = some t) :
    ForgetsTopic config primary t account (primary.clearIn account) ↔
      account.accounts.minKey? = some "default" := by
  have hmode := threaded_of_threadId hread
  constructor
  · intro hforgets
    by_contra hmin
    -- another slot is the primary one, and keeps its topic
    have hslot : (primary.clearIn account).primarySlot = account.primarySlot := by
      simp only [Account.primarySlot_eq, clearIn, Account.modifySlot,
        Std.ExtTreeMap.minKey?_modify_eq_minKey?]
      rcases hkey : account.accounts.minKey? with - | slotId
      · rfl
      · have hne : "default" ≠ slotId := by
          intro heq
          exact hmin (heq ▸ hkey)
        rw [Option.bind_some, Option.bind_some, Map.getElem?_modify, if_neg hne]
    have hstill : primary.threadId config (primary.clearIn account) =
        primary.threadId config account := by
      simp only [threadId, hslot]
      rfl
    exact hforgets.forgotten (hstill.trans hread)
  · intro hmin
    refine forgetsTopic_modifySlot (fun account' hmode' hmin' => ?_) hread
    simp only [threadId, if_pos hmode', Account.primarySlot_eq, hmin', hmin, Option.bind_some,
      Account.topic?]

/-- A shared account's topic is forgotten when it has one of its own. -/
theorem forgetsTopic_shared_iff {accountId label : String}
    (hread : (shared accountId label).threadId config account = some t) :
    ForgetsTopic config (shared accountId label) t account
        ((shared accountId label).clearIn account) ↔
      config.telegramSharedThreadMode = .dedicated := by
  have hmode := threaded_of_threadId hread
  constructor
  · intro hforgets
    by_contra hparent
    -- the topic is that of the slot it is under, which keeps it
    have hstill : (shared accountId label).threadId config
        ((shared accountId label).clearIn account) =
          (shared accountId label).threadId config account := by
      have hslot := account.bind_resolveParentSlot_modifyShared accountId
      simp only [threadId, if_neg hparent]
      exact congrArg (fun slot : Option AccountSlot =>
        if isThreadedModeEnabled config (some account) then slot.bind AccountSlot.threadId
        else none) hslot
    exact hforgets.forgotten (hstill.trans hread)
  · intro hdedicated
    have hshared : ∀ account', isThreadedModeEnabled config (some account') = true →
        (shared accountId label).threadId config account' =
          account'.topic? (.shared accountId) := by
      intro account' hmode'
      simp only [threadId, if_pos hmode', if_pos hdedicated, Account.topic?]
    refine forgetsTopic_of_topic? ((hshared account hmode).symm.trans hread)
      (account.topic?_modifyShared accountId) fun t' ht' => ?_
    exact (hshared _ (threaded_of_threadId ht')).symm.trans ht'

/-- Clearing forgets the topic of a target exactly when it is read where it is cleared. -/
theorem forgetsTopic_clearIn_iff {target : WatchTarget}
    (hread : target.threadId config account = some t) :
    ForgetsTopic config target t account (target.clearIn account) ↔
      target.ReadsWhatItClears config account := by
  cases target with
  | primary => exact forgetsTopic_primary_iff hread
  | shared accountId label => exact forgetsTopic_shared_iff hread
  | extra slotId label | account slotId label =>
    refine iff_of_true (forgetsTopic_modifySlot (fun account' hmode' _ => ?_) hread) trivial
    simp only [threadId, if_pos hmode', Account.topic?]

end WatchTarget

end

/-! ### The loop -/

/-- **A dead topic is forgotten where it was found** if and only if it was read where it is cleared:
the message goes to the topic and then to the root chat, and the record the store has afterwards is
without the topic that is gone. -/
theorem forgetsTopic_iff {w : Watcher} {s : SyncState} {round : Round} {email : ChangedEmail}
    {changed : List Item} {newState : String} {account : Account} {t : ThreadId}
    (hphase : s.phase = .delivering round (.found email :: changed) newState)
    (hverdict : w.verdict round (.found email) = none)
    (hpicked : w.target.threadId w.config round.account = some t)
    (hrecord : s.store.data.accounts[w.chatId]? = some account)
    (hread : w.target.threadId w.config account = some t) (persist : Persist) (ok : Bool) :
    ∃ s' account' notice,
      run w.step s [.send .threadNotFound persist, .resend ok] = some s' ∧
        notice.threadId = some t ∧
        s'.notices = s.notices ++ [notice, { notice with threadId := none }] ∧
        s'.store.data.accounts[w.chatId]? = some account' ∧
        (w.target.ForgetsTopic w.config t account account' ↔
          w.target.ReadsWhatItClears w.config account) := by
  refine ⟨_, w.target.clearIn account, _, Watcher.run_threadNotFound hphase hverdict, hpicked,
    List.append_assoc _ _ _, ?_, WatchTarget.forgetsTopic_clearIn_iff hread⟩
  change (w.exec s (w.target.clearThread w.chatId) persist).data.accounts[w.chatId]? = _
  rw [Watcher.exec, Store.data_exec]
  exact getElem?_clearThread hrecord w.target

/-! ### A shared mailbox in its parent's topic -/

/-- The watcher of a shared mailbox, in a chat whose shared mailboxes have no topic of their own. -/
def parentWatcher : Watcher := { sampleWatcher with target := .shared "team" "Team" }

/-- The record with a topic, and a shared mailbox under its slot. -/
def parentAccount : Account := { topicAccount with
  sharedAccounts := (∅ : Map String SharedAccount).insert "team"
    { name := "Team", lastState := none, parentSlot := some "default", threadId := none } }

/-- A new message of the shared mailbox, at the head of the loop. -/
def parentState : SyncState where
  store := ⟨⟨(∅ : Map ChatId Account).insert 1 parentAccount⟩, none⟩
  phase := .delivering ⟨parentAccount, ""⟩ (notAForumBatch.map Prod.fst) "x"
  notices := []
  handled := []

/-- The topic stays. -/
theorem not_forall_forgetsTopic :
    ¬∀ (w : Watcher) (s s' : SyncState) (round : Round) (email : ChangedEmail)
      (changed : List Item) (newState : String) (account account' : Account) (t : ThreadId)
      (persist : Persist) (ok : Bool),
      s.phase = .delivering round (.found email :: changed) newState →
      w.verdict round (.found email) = none →
      w.target.threadId w.config round.account = some t →
      s.store.data.accounts[w.chatId]? = some account →
      w.target.threadId w.config account = some t →
      run w.step s [.send .threadNotFound persist, .resend ok] = some s' →
      s'.store.data.accounts[w.chatId]? = some account' →
      w.target.ForgetsTopic w.config t account account' := by
  intro hall
  have hread : parentWatcher.target.threadId parentWatcher.config parentAccount = some 10 := by
    decide
  have hforgets := hall parentWatcher parentState _ _ _ _ _ parentAccount
    (parentWatcher.target.clearIn parentAccount) 10 .failed true rfl rfl hread rfl hread
    (Watcher.run_threadNotFound rfl rfl) rfl
  have hreads := (WatchTarget.forgetsTopic_clearIn_iff hread).mp hforgets
  cases hreads

/-- The main result for it. -/
theorem forgetsTopic_iff_parentState :
    ∃ s' account' notice,
      run parentWatcher.step parentState [.send .threadNotFound .failed, .resend true] = some s' ∧
        notice.threadId = some 10 ∧
        s'.notices = parentState.notices ++ [notice, { notice with threadId := none }] ∧
        s'.store.data.accounts[parentWatcher.chatId]? = some account' ∧
        (parentWatcher.target.ForgetsTopic parentWatcher.config 10 parentAccount account' ↔
          parentWatcher.target.ReadsWhatItClears parentWatcher.config parentAccount) :=
  have hphase : parentState.phase =
      .delivering ⟨parentAccount, ""⟩ (notAForumBatch.map Prod.fst) "x" := rfl
  forgetsTopic_iff hphase rfl (by decide) rfl (by decide) .failed true

end Jmap2Telegram
