import Jmap2Telegram.Resume.Commands

/-!
# What a program has still to drop

The `forget*` functions drop three things of a mailbox, in this order: its health entry, its client
and its watcher, the last one under the lock. `pendingDrops` lists what a program has still to drop
of a mailbox, and runs along with it.

* `exec_forgets`: an instruction of `forget*` drops the first thing that is pending, or nothing.
* `pendingDrops_of_advances`: a step of a resume task changes nothing about what is pending.
-/

namespace Jmap2Telegram

/-- The three things a mailbox leaves in memory. -/
inductive Drop where
  | health
  | client
  | watcher
  deriving DecidableEq

/-- What an instruction will drop of a mailbox, itself or through what it runs next. -/
def Instr.drops (data : StoreData) (chatId : ChatId) (m : Mailbox) : Instr → List Drop
  | deregister m' => if m'.healthKey chatId = m.healthKey chatId then [.health] else []
  | removeClient m' => if m' = m then [.client] else []
  | removeWatcher m' => if m' = m then [.watcher] else []
  | deregisterChat => [.health]
  | removeAccountClients => if m.watchers = .account then [.client] else []
  | removeAccountWatchers => if m.watchers = .account then [.watcher] else []
  | removeSharedClients => if m.watchers = .shared then [.client] else []
  | removeSharedWatchers => if m.watchers = .shared then [.watcher] else []
  | forgetChildren slotId =>
    match m with
    | .shared accountId =>
      if accountId ∈ data.childIds chatId slotId then [.health, .client, .watcher] else []
    | .account _ => []
  | _ => []

/-- What a program has still to drop of a mailbox, in order. -/
def pendingDrops (data : StoreData) (chatId : ChatId) (m : Mailbox) (program : List Instr) :
    List Drop :=
  program.flatMap (Instr.drops data chatId m)

/-- The instructions of `forget*`, which change the registries only. -/
def Instr.Forgets : Instr → Prop
  | dropUndo | deregisterChat | removeAccountClients | removeAccountWatchers | removeSharedClients
  | removeSharedWatchers | deregister _ | removeClient _ | removeWatcher _ | forgetChildren _ =>
    True
  | _ => False

/-- What a teardown has still to drop of the target, in this order. -/
abbrev allDrops : List Drop := [.health, .client, .watcher]

section

variable {data : StoreData} {chatId : ChatId} {m : Mailbox}

/-- A shared account is under a slot once. -/
theorem nodup_childIds (slotId : String) : (data.childIds chatId slotId).Nodup := by
  rw [StoreData.childIds]
  rcases data.accounts[chatId]? with - | account
  · exact List.nodup_nil
  · refine List.pairwise_map.mpr (List.Pairwise.filter _ ?_)
    refine account.sharedAccounts.distinct_keys_toList.imp fun hne heq => hne ?_
    exact Std.LawfulEqOrd.compare_eq_iff_eq.mpr heq

/-- The health keys of a slot and of a shared account differ. -/
theorem healthKey_account_ne_shared (chatId : ChatId) (slotId accountId : String) :
    Mailbox.healthKey chatId (.account slotId) ≠ Mailbox.healthKey chatId (.shared accountId) := by
  intro h
  have hlist := congrArg String.toList h
  rw [Mailbox.toList_healthKey, Mailbox.toList_healthKey] at hlist
  have hhead := congrArg List.head? (chatPrefix_append_inj hlist).2
  simp only [Mailbox.keySuffix] at hhead
  split at hhead <;> simp at hhead

/-- Shared accounts have different health keys. -/
theorem healthKey_shared_inj {a b : String} :
    Mailbox.healthKey chatId (.shared a) = Mailbox.healthKey chatId (.shared b) ↔ a = b := by
  refine ⟨fun h => ?_, fun h => by rw [h]⟩
  exact Mailbox.shared.inj (Mailbox.healthKey_injective (by simp) (by simp) h).2

/-- What forgetting a shared account drops of a mailbox. -/
theorem pendingDrops_forget_shared (data : StoreData) (chatId : ChatId) (m : Mailbox)
    (id : String) :
    pendingDrops data chatId m (Instr.forget (.shared id)) =
      if .shared id = m then [.health, .client, .watcher] else [] := by
  cases m with
  | account slotId =>
    have hne := (healthKey_account_ne_shared chatId slotId id).symm
    simp [pendingDrops, Instr.forget, Instr.drops, hne]
  | shared accountId =>
    simp only [pendingDrops, Instr.forget, Instr.drops, healthKey_shared_inj, Mailbox.shared.injEq,
      List.flatMap_cons, List.flatMap_nil]
    split <;> rfl

/-- Forgetting the shared accounts under a slot forgets a mailbox if it is one of them. -/
theorem pendingDrops_children (ids : List String) (hids : ids.Nodup) :
    pendingDrops data chatId m (ids.flatMap fun id => Instr.forget (.shared id)) =
      match m with
      | .shared accountId => if accountId ∈ ids then [.health, .client, .watcher] else []
      | .account _ => [] := by
  induction ids with
  | nil => cases m <;> simp [pendingDrops]
  | cons id ids ih =>
    have hrest := ih (List.nodup_cons.mp hids).2
    have hone := pendingDrops_forget_shared data chatId m id
    rw [List.flatMap_cons, pendingDrops, List.flatMap_append, ← pendingDrops, ← pendingDrops, hone,
      hrest]
    cases m with
    | account slotId => simp
    | shared accountId =>
      have hid := (List.nodup_cons.mp hids).1
      by_cases heq : id = accountId
      · subst heq
        simp [hid]
      · simp [heq, Ne.symm heq]

/-- Forgetting a slot has everything to drop of the slot and of what is under it. -/
theorem pendingDrops_forgetAccount {slotId : String} (h : data.Under chatId slotId m) :
    pendingDrops data chatId m (forgetAccountProgram slotId) = allDrops := by
  cases m with
  | account s =>
    obtain rfl : s = slotId := h
    simp [pendingDrops, forgetAccountProgram, Instr.forget, Instr.drops]
  | shared a =>
    have hchild : a ∈ data.childIds chatId slotId := h
    have hne := healthKey_account_ne_shared chatId slotId a
    simp [pendingDrops, forgetAccountProgram, Instr.forget, Instr.drops, hne, hchild]

/-- The program of `forget_account` only forgets. -/
theorem forgets_forgetAccount {slotId : String} : ∀ i ∈ forgetAccountProgram slotId, i.Forgets := by
  simp [forgetAccountProgram, Instr.forget, Instr.Forgets]

/-- The drops of two programs in a row. -/
theorem pendingDrops_append (data : StoreData) (chatId : ChatId) (m : Mailbox) (p q : List Instr) :
    pendingDrops data chatId m (p ++ q) =
      pendingDrops data chatId m p ++ pendingDrops data chatId m q :=
  List.flatMap_append

/-- A resume task drops nothing. -/
@[simp]
theorem pendingDrops_program (data : StoreData) (chatId : ChatId) (m : Mailbox) (t : ResumeTarget)
    (phase : ResumePhase) : pendingDrops data chatId m (phase.program t) = [] := by
  cases phase <;> rfl

theorem forgets_forget {m' : Mailbox} : ∀ i ∈ Instr.forget m', i.Forgets := by
  simp [Instr.forget, Instr.Forgets]

end

/-! ### A step -/

section

variable {config : Config} {lib : Externals} {chatId : ChatId} {m : Mailbox} {app app' : AppState}
  {instr : Instr} {answer : Answer}

/-- What a step of a program does to what a mailbox has in memory: it drops one thing, or
nothing. -/
structure Dropped (chatId : ChatId) (m : Mailbox) (app app' : AppState) (d : Option Drop) :
    Prop where
  client : app'.client? chatId m = if d = some .client then none else app.client? chatId m
  watcher : app'.watcher? chatId m = if d = some .watcher then none else app.watcher? chatId m
  health : m.healthKey chatId ∈ app'.health ↔
    d ≠ some .health ∧ m.healthKey chatId ∈ app.health

/-- Changes elsewhere. -/
theorem Dropped.nothing (hclient : app'.client? chatId m = app.client? chatId m)
    (hwatcher : app'.watcher? chatId m = app.watcher? chatId m)
    (hhealth : m.healthKey chatId ∈ app'.health ↔ m.healthKey chatId ∈ app.health) :
    Dropped chatId m app app' none :=
  ⟨by simpa using hclient, by simpa using hwatcher, by simpa using hhealth⟩

/-- Nothing is dropped if nothing changes. -/
theorem dropped_refl : Dropped chatId m app app none := .nothing rfl rfl Iff.rfl

/-- Dropping one thing under a condition. -/
theorem Dropped.of_ite {p : Prop} [Decidable p] {x : Drop}
    (hclient : app'.client? chatId m =
      if p ∧ x = .client then none else app.client? chatId m)
    (hwatcher : app'.watcher? chatId m =
      if p ∧ x = .watcher then none else app.watcher? chatId m)
    (hhealth : m.healthKey chatId ∈ app'.health ↔
      ¬(p ∧ x = .health) ∧ m.healthKey chatId ∈ app.health) :
    Dropped chatId m app app' (if p then some x else none) := by
  by_cases hp : p
  · simp only [hp, true_and] at hclient hwatcher hhealth
    rw [if_pos hp]
    exact ⟨by simpa using hclient, by simpa using hwatcher, by simpa using hhealth⟩
  · simp only [hp, false_and, if_false, not_false_eq_true, true_and] at hclient hwatcher hhealth
    rw [if_neg hp]
    exact .nothing hclient hwatcher hhealth

theorem toList_ite {p : Prop} [Decidable p] (d : Drop) :
    (if p then [d] else []) = (if p then some d else none).toList ++ [] := by
  split <;> rfl

/-- What is pending and is not dropped stays pending. -/
theorem mem_of_dropped {x : Drop} {d : Option Drop} {pending pending' : List Drop}
    (hpending : pending = d.toList ++ pending') (hx : x ∈ pending) (hd : d ≠ some x) :
    x ∈ pending' := by
  rw [hpending, List.mem_append, Option.mem_toList] at hx
  exact hx.resolve_left fun h => hd h

variable (config lib chatId m app answer)

/-- An instruction of `forget*` drops what it is about. -/
theorem exec_forgets (h : instr.Forgets) :
    (instr.exec config lib chatId answer app).1.data = app.data ∧
      (∀ i ∈ (instr.exec config lib chatId answer app).2, i.Forgets) ∧
      ∃ d : Option Drop, instr.drops app.data chatId m =
          d.toList ++ pendingDrops app.data chatId m (instr.exec config lib chatId answer app).2 ∧
        Dropped chatId m app (instr.exec config lib chatId answer app).1 d ∧
        (d = some .watcher → instr.locks = some m.watchers) := by
  have hnone : ∀ i ∈ ([] : List Instr), i.Forgets := by simp
  cases instr with
  | dropUndo => exact ⟨rfl, hnone, none, rfl, .nothing rfl rfl Iff.rfl, by simp⟩
  | deregisterChat =>
    refine ⟨rfl, hnone, some .health, rfl, ⟨rfl, rfl, ?_⟩, by simp⟩
    refine iff_of_false (fun hmem => ?_) fun hmem => hmem.1 rfl
    exact (mem_deregisterChat.mp hmem).1 rfl
  -- a whole map at once: the mailboxes of the other map keep theirs
  | removeAccountClients =>
    refine ⟨rfl, hnone, _, toList_ite .client, .of_ite ?_ ?_ ?_, ?_⟩
    · cases m <;> simp [Instr.exec, AppState.removeAccountClients, AppState.client?,
        Mailbox.watchers]
    · cases m <;> simp [Instr.exec, AppState.removeAccountClients, AppState.watcher?]
    · simp [Instr.exec, AppState.removeAccountClients]
    · split <;> simp
  | removeAccountWatchers =>
    refine ⟨rfl, hnone, _, toList_ite .watcher, .of_ite ?_ ?_ ?_, ?_⟩
    · cases m <;> simp [Instr.exec, AppState.removeAccountWatchers, AppState.client?]
    · cases m <;> simp [Instr.exec, AppState.removeAccountWatchers, AppState.watcher?,
        Mailbox.watchers]
    · simp [Instr.exec, AppState.removeAccountWatchers]
    · split
      case isTrue hm => simp [Instr.locks, hm]
      case isFalse => simp
  | removeSharedClients =>
    refine ⟨rfl, hnone, _, toList_ite .client, .of_ite ?_ ?_ ?_, ?_⟩
    · cases m <;> simp [Instr.exec, AppState.removeSharedClients, AppState.client?,
        Mailbox.watchers]
    · cases m <;> simp [Instr.exec, AppState.removeSharedClients, AppState.watcher?]
    · simp [Instr.exec, AppState.removeSharedClients]
    · split <;> simp
  | removeSharedWatchers =>
    refine ⟨rfl, hnone, _, toList_ite .watcher, .of_ite ?_ ?_ ?_, ?_⟩
    · cases m <;> simp [Instr.exec, AppState.removeSharedWatchers, AppState.client?]
    · cases m <;> simp [Instr.exec, AppState.removeSharedWatchers, AppState.watcher?,
        Mailbox.watchers]
    · simp [Instr.exec, AppState.removeSharedWatchers]
    · split
      case isTrue hm => simp [Instr.locks, hm]
      case isFalse => simp
  -- one key: only its own mailbox loses anything
  | deregister m' =>
    refine ⟨rfl, hnone, _, toList_ite .health, .of_ite ?_ ?_ ?_, ?_⟩
    · simp [Instr.exec]
    · simp [Instr.exec]
    · simp [Instr.exec, Health.deregister, Std.ExtTreeMap.mem_erase]
    · split <;> simp
  | removeClient m' =>
    refine ⟨AppState.data_removeClient, hnone, _, toList_ite .client, .of_ite ?_ ?_ ?_, ?_⟩
    · simp [Instr.exec, AppState.client?_removeClient]
    · simp [Instr.exec]
    · simp [Instr.exec]
    · split <;> simp
  | removeWatcher m' =>
    refine ⟨AppState.data_removeWatcher, hnone, _, toList_ite .watcher, .of_ite ?_ ?_ ?_, ?_⟩
    · simp [Instr.exec]
    · simp [Instr.exec, AppState.watcher?_removeWatcher]
    · simp [Instr.exec]
    · split
      case isTrue hm => simp [Instr.locks, hm]
      case isFalse => simp
  | forgetChildren slotId =>
    refine ⟨rfl, fun i hi => ?_, none, ?_, dropped_refl, by simp⟩
    · obtain ⟨id, -, hi⟩ := List.mem_flatMap.mp hi
      exact forgets_forget i hi
    -- the order the children come in does not matter: each is listed once
    · have hperm := answer.inOrder_perm (app.data.childIds chatId slotId)
      rw [Option.toList_none, List.nil_append, Instr.exec,
        pendingDrops_children _ (hperm.nodup_iff.mpr (nodup_childIds slotId))]
      cases m with
      | account s => rfl
      | shared a => simp only [Instr.drops, hperm.mem_iff]
  | _ => exact h.elim

variable {config lib chatId m app answer}

/-- A step of a resume task leaves what a program has to drop. -/
theorem pendingDrops_of_advances {t : ResumeTarget} {phase phase' : ResumePhase}
    (h : Advances lib chatId t app phase app' phase') (m : Mailbox)
    (program : List Instr) :
    pendingDrops app'.data chatId m program = pendingDrops app.data chatId m program := by
  have hchildren : ∀ slotId a, a ∈ app'.data.childIds chatId slotId ↔
      a ∈ app.data.childIds chatId slotId := by
    intro slotId a
    cases h with
    | setTopic created => exact mem_childIds_congr shared?_setTopic
    | insertClient | insertWatcher => simp
    | _ => rfl
  refine congrArg program.flatMap (funext fun instr => ?_)
  cases instr with
  | forgetChildren slotId =>
    cases m with
    | account slot => rfl
    | shared a => simp only [Instr.drops, hchildren]
  | _ => rfl

end

end Jmap2Telegram
