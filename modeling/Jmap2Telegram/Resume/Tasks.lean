import Jmap2Telegram.State.Tracking
import Jmap2Telegram.Transition.Programs

/-!
# The steps of the tasks at boot

Boot resume runs one background task per persisted mailbox of a chat (`resume_target_with` in
`accounts.rs`), next to the commands of the chat. Here each is a program of atomic instructions, cut
where the source awaits or takes a lock, and `step` interleaves them. `adopt_*` holds the write lock
on the watchers of a kind from its check to its end; every other lock is held within one
instruction.

* `ResumePhase.program`: what a resume task has still to do, by where it is.
* `Advances`, `exec_program`: what each of its steps does.
-/

namespace Jmap2Telegram

open Transition

/-- `ResumeTarget`: what boot resumes, and the credentials the store had for it. -/
structure ResumeTarget where
  target : WatchTarget
  serverUrl : String
  token : String

namespace ResumeTarget

/-- The mailbox that is resumed. -/
def mailbox (t : ResumeTarget) : Mailbox := t.target.mailbox

/-- The client `connect_target` connects. -/
def client (t : ResumeTarget) : Client :=
  ⟨t.serverUrl, t.token,
    match t.target with
    | .shared accountId _ => some accountId
    | _ => none⟩

end ResumeTarget

/-- `persisted_targets`. -/
def persistedTargets (account : Account) : List ResumeTarget :=
  (account.accounts.toList.map fun (slotId, slot) =>
    ⟨.account slotId slot.email, slot.serverUrl, slot.token⟩) ++
  account.sharedAccounts.toList.filterMap fun (accountId, shared) =>
    (account.resolveParentSlot shared).map fun slot =>
      ⟨.shared accountId shared.name, slot.serverUrl, slot.token⟩

/-! ### Instructions -/

/-- The two maps of watchers, each behind a lock. -/
inductive Watchers where
  | account
  | shared
  deriving DecidableEq

/-- The map a mailbox's watcher is in. -/
def Mailbox.watchers : Mailbox → Watchers
  | account _ => .account
  | shared _ => .shared

/-- What a task does in one go. -/
inductive Instr where
  /-- The head of the resume loop: is the target still in the store? -/
  | storeCheck (t : ResumeTarget)
  /-- `slot_adopted`. -/
  | slotAdopted (t : ResumeTarget)
  /-- Start to connect. -/
  | connect (t : ResumeTarget)
  /-- The end of a connect. -/
  | awaitConnect (t : ResumeTarget)
  /-- The start of `adopt_*`: take the lock and look for a watcher. -/
  | lockWatchers (m : Mailbox) (client : Client)
  | insertClient (m : Mailbox) (client : Client)
  /-- `watcher::spawn`. -/
  | spawn (m : Mailbox)
  | insertWatcher (m : Mailbox) (client : Client)
  /-- `ensure_*_topic`, up to the call to Telegram. -/
  | ensureTopic (m : Mailbox)
  /-- The end of the call to Telegram. -/
  | setTopic (m : Mailbox)
  /-- The end of `adopt_*`. -/
  | unlockWatchers (m : Mailbox)
  | dropUndo
  | deregisterChat
  | removeAccountClients
  | removeAccountWatchers
  | removeSharedClients
  | removeSharedWatchers
  | deregister (m : Mailbox)
  | removeClient (m : Mailbox)
  | removeWatcher (m : Mailbox)
  /-- The second half of `forget_account`: forget the shared accounts the store has under a slot. -/
  | forgetChildren (slotId : String)
  /-- The first section of a store operation. -/
  | call (op : Op)
  /-- The second section of `remove_account`. -/
  | eraseChat (chatId : ChatId)

/-- What is up to the outside: whether a connect succeeds, the topic Telegram creates, if it does,
and the order in which a hash map of shared accounts is iterated. -/
structure Answer where
  connected : Bool
  created : Option ThreadId
  order : List String

namespace Instr

/-- The lock an instruction has to take. -/
def locks : Instr → Option Watchers
  | slotAdopted t => some t.mailbox.watchers
  | lockWatchers m _ | removeWatcher m => some m.watchers
  | removeAccountWatchers => some .account
  | removeSharedWatchers => some .shared
  | _ => none

/-- The lock an instruction releases. -/
def unlocks : Instr → Option Watchers
  | unlockWatchers m => some m.watchers
  | _ => none

/-- An instruction that needs a lock waits for the task that has still to release it. -/
def blocked (tasks : List (List Instr)) (instr : Instr) : Bool :=
  instr.locks.any fun watchers =>
    tasks.any fun program => program.any fun i => i.unlocks == some watchers

/-- The calls of one `forget_shared`. -/
def forget (m : Mailbox) : List Instr := [deregister m, removeClient m, removeWatcher m]

/-- What `adopt_*` does under the lock. -/
def adopt (m : Mailbox) (client : Client) : List Instr :=
  [insertClient m client, spawn m, insertWatcher m client, ensureTopic m, unlockWatchers m]

end Instr

/-- Ids in the order of a hash map's iteration, if it is an order of them. -/
def Answer.inOrder (answer : Answer) (ids : List String) : List String :=
  if answer.order.Perm ids then answer.order else ids

theorem Answer.inOrder_perm (answer : Answer) (ids : List String) :
    (answer.inOrder ids).Perm ids := by
  rw [inOrder]
  split
  case isTrue h => exact h
  case isFalse => exact .refl _

/-- Whether `ensure_*_topic` asks Telegram for a topic. -/
def AppState.needsTopic (app : AppState) (config : Config) (chatId : ChatId) (m : Mailbox) : Bool :=
  match app.data.accounts[chatId]? with
  | none => false
  | some account =>
    match m with
    | .account slotId => isThreadedModeEnabled config (some account) &&
        account.accounts[slotId]?.any fun slot => slot.threadId.isNone
    | .shared accountId => config.telegramSharedThreadMode = .dedicated &&
        isThreadedModeEnabled config (some account) &&
        account.sharedAccounts[accountId]?.any fun shared => shared.threadId.isNone

/-- Store the topic of a mailbox. -/
def AppState.setTopic (lib : Externals) (app : AppState) (chatId : ChatId)
    (created : Option ThreadId)
    (m : Mailbox) : AppState :=
  match created, m with
  | none, _ => app
  | some threadId, .account slotId =>
    app.call lib (.setAccountThreadId chatId slotId (some threadId))
  | some threadId, .shared accountId =>
    app.call lib (.setSharedAccountThreadId chatId accountId (some threadId))

section

variable (config : Config) (lib : Externals) (chatId : ChatId)

/-- What an instruction does, and what its task runs next, before the rest of its program. -/
def Instr.exec (answer : Answer) (instr : Instr) (app : AppState) : AppState × List Instr :=
  match instr with
  | storeCheck t =>
    if app.data.accounts[chatId]?.any t.target.stillActive then (app, [slotAdopted t])
    else ({ app with health := app.health.deregister (t.mailbox.healthKey chatId) }, [])
  | slotAdopted t => (app, if (app.watcher? chatId t.mailbox).isSome then [] else [connect t])
  | connect t => (app, [awaitConnect t])
  | awaitConnect t =>
    (app, if answer.connected then [lockWatchers t.mailbox t.client] else [storeCheck t])
  | lockWatchers m client =>
    (app, if (app.watcher? chatId m).isSome then [] else adopt m client)
  | insertClient m client => (app.insertClient chatId client m, [])
  | spawn m => (app.register chatId m, [])
  | insertWatcher m client => (app.insertWatcher chatId client m, [])
  | ensureTopic m => (app, if app.needsTopic config chatId m then [setTopic m] else [])
  | setTopic m => (app.setTopic lib chatId answer.created m, [])
  | unlockWatchers _ => (app, [])
  | dropUndo => ({ app with pendingUndo := app.pendingUndo.erase chatId }, [])
  | deregisterChat => ({ app with health := app.health.deregisterChat chatId }, [])
  | removeAccountClients => (app.removeAccountClients chatId, [])
  | removeAccountWatchers => (app.removeAccountWatchers chatId, [])
  | removeSharedClients => (app.removeSharedClients chatId, [])
  | removeSharedWatchers => (app.removeSharedWatchers chatId, [])
  | deregister m => ({ app with health := app.health.deregister (m.healthKey chatId) }, [])
  | removeClient m => (app.removeClient chatId m, [])
  | removeWatcher m => (app.removeWatcher chatId m, [])
  | forgetChildren slotId =>
    (app, (answer.inOrder (app.data.childIds chatId slotId)).flatMap fun id => forget (.shared id))
  | call op =>
    ({ app with data := (op.lockedSection lib app.data).1 },
      match (op.lockedSection lib app.data).2 with
      | .removeChat chatId _ => [eraseChat chatId]
      | _ => [])
  | eraseChat chatId => ({ app with data := app.data.erase chatId }, [])

/-- A step of one of a chat's tasks. -/
abbrev Resume.step := System.step Instr.blocked (Instr.exec config lib chatId)

end

/-! ### Storing a topic -/

section

variable {lib : Externals} {chatId c : ChatId} {app : AppState} {created : Option ThreadId}
  {m : Mailbox}

/-- Storing a topic changes the store only. -/
theorem setTopic_eq (lib : Externals) (chatId : ChatId) (app : AppState)
    (created : Option ThreadId) (m : Mailbox) :
    ∃ data, app.setTopic lib chatId created m = { app with data := data } := by
  rcases created with - | threadId
  · exact ⟨_, rfl⟩
  · cases m <;> exact ⟨_, rfl⟩

/-- Storing a topic leaves the credentials of the slots. -/
theorem slot?_setTopic {s : String} :
    ((app.setTopic lib chatId created m).data.slot? c s).map
        (fun slot => (slot.serverUrl, slot.token)) =
      (app.data.slot? c s).map fun slot => (slot.serverUrl, slot.token) := by
  rcases created with - | threadId
  · rfl
  · cases m with
    | account slotId =>
      rw [AppState.setTopic, AppState.call, StoreData.slot?_setAccountThreadId]
      split
      · rw [Option.map_map]
        rfl
      · rfl
    | shared accountId =>
      rw [AppState.setTopic, AppState.call, StoreData.slot?_setSharedAccountThreadId]

/-- It leaves the parents of the shared accounts. -/
theorem shared?_setTopic {a : String} :
    ((app.setTopic lib chatId created m).data.shared? c a).map SharedAccount.parentSlot =
      (app.data.shared? c a).map SharedAccount.parentSlot := by
  rcases created with - | threadId
  · rfl
  · cases m with
    | account slotId =>
      rw [AppState.setTopic, AppState.call, StoreData.shared?_setAccountThreadId]
    | shared accountId =>
      rw [AppState.setTopic, AppState.call, StoreData.shared?_setSharedAccountThreadId]
      split
      · rw [Option.map_map]
        rfl
      · rfl

/-- Which shared accounts are under a slot depends on their parents only. -/
theorem mem_childIds_congr {data data' : StoreData} {slotId a : String}
    (h : (data'.shared? c a).map SharedAccount.parentSlot =
      (data.shared? c a).map SharedAccount.parentSlot) :
    a ∈ data'.childIds c slotId ↔ a ∈ data.childIds c slotId := by
  have hparent : ∀ d : StoreData, (∃ shared, d.shared? c a = some shared ∧
      shared.isChildOf slotId = true) ↔
      ∃ p, (d.shared? c a).map SharedAccount.parentSlot = some p ∧ slotId = p.getD "default" := by
    intro d
    rcases d.shared? c a with - | ⟨_, _, - | p, _⟩
    · simp
    · simp [SharedAccount.isChildOf]
    · simp [SharedAccount.isChildOf, eq_comm (a := p)]
  rw [StoreData.mem_childIds, StoreData.mem_childIds, hparent, hparent, h]

end

/-! ### The resume task -/

/-- Where a resume task is. -/
inductive ResumePhase where
  | check
  | adopted
  | connect
  | await
  | lock
  | insertClient
  | spawn
  | insertWatcher
  | ensureTopic
  | setTopic
  | unlock
  | done
  deriving DecidableEq

namespace ResumePhase

/-- What a resume task has still to do. -/
def program (t : ResumeTarget) : ResumePhase → List Instr
  | check => [.storeCheck t]
  | adopted => [.slotAdopted t]
  | connect => [.connect t]
  | await => [.awaitConnect t]
  | lock => [.lockWatchers t.mailbox t.client]
  | insertClient => Instr.adopt t.mailbox t.client
  | spawn => (Instr.adopt t.mailbox t.client).drop 1
  | insertWatcher => (Instr.adopt t.mailbox t.client).drop 2
  | ensureTopic => (Instr.adopt t.mailbox t.client).drop 3
  | setTopic => [.setTopic t.mailbox, .unlockWatchers t.mailbox]
  | unlock => [.unlockWatchers t.mailbox]
  | done => []

/-- Whether the task holds the lock. -/
def locked : ResumePhase → Bool
  | insertClient | spawn | insertWatcher | ensureTopic | setTopic | unlock => true
  | _ => false

theorem program_injective (t : ResumeTarget) : Function.Injective (program t) := by
  intro p q h
  cases p <;> cases q <;> first | rfl | (simp [program, Instr.adopt] at h)

/-- The task has the lock still to release exactly when it holds it. -/
theorem any_unlocks (t : ResumeTarget) (phase : ResumePhase) (watchers : Watchers) :
    ((phase.program t).any fun i => i.unlocks == some watchers) =
      (phase.locked && t.mailbox.watchers == watchers) := by
  cases phase <;> simp [program, locked, Instr.adopt, Instr.unlocks]

end ResumePhase

/-- A step of a resume task: the state after it, and where it leaves the task. -/
inductive Advances (lib : Externals) (chatId : ChatId) (t : ResumeTarget) (app : AppState) :
    ResumePhase → AppState → ResumePhase → Prop where
  | giveUp (h : ¬app.data.accounts[chatId]?.any t.target.stillActive = true) :
    Advances lib chatId t app .check
      { app with health := app.health.deregister (t.mailbox.healthKey chatId) } .done
  | check (h : app.data.accounts[chatId]?.any t.target.stillActive = true) :
    Advances lib chatId t app .check app .adopted
  | taken (h : (app.watcher? chatId t.mailbox).isSome) :
    Advances lib chatId t app .adopted app .done
  | free (h : app.watcher? chatId t.mailbox = none) :
    Advances lib chatId t app .adopted app .connect
  | connect : Advances lib chatId t app .connect app .await
  | connected : Advances lib chatId t app .await app .lock
  | refused : Advances lib chatId t app .await app .check
  | lost (h : (app.watcher? chatId t.mailbox).isSome) : Advances lib chatId t app .lock app .done
  | locked (h : app.watcher? chatId t.mailbox = none) :
    Advances lib chatId t app .lock app .insertClient
  | insertClient :
    Advances lib chatId t app .insertClient (app.insertClient chatId t.client t.mailbox) .spawn
  | spawn : Advances lib chatId t app .spawn (app.register chatId t.mailbox) .insertWatcher
  | insertWatcher :
    Advances lib chatId t app .insertWatcher (app.insertWatcher chatId t.client t.mailbox)
      .ensureTopic
  | hasTopic : Advances lib chatId t app .ensureTopic app .unlock
  | needsTopic : Advances lib chatId t app .ensureTopic app .setTopic
  | setTopic (created : Option ThreadId) :
    Advances lib chatId t app .setTopic (app.setTopic lib chatId created t.mailbox) .unlock
  | unlock : Advances lib chatId t app .unlock app .done

/-- The next instruction of a resume task takes it on. -/
theorem exec_program (config : Config) (lib : Externals) (chatId : ChatId) {t : ResumeTarget}
    {phase : ResumePhase} {instr : Instr} {rest : List Instr} (h : phase.program t = instr :: rest)
    (answer : Answer) (app : AppState) :
    ∃ phase', (instr.exec config lib chatId answer app).2 ++ rest = phase'.program t ∧
      Advances lib chatId t app phase (instr.exec config lib chatId answer app).1 phase' := by
  cases phase with
  | check =>
    cases h
    rw [Instr.exec]
    split
    case isTrue hactive => exact ⟨.adopted, rfl, .check hactive⟩
    case isFalse hgone => exact ⟨.done, rfl, .giveUp hgone⟩
  | adopted =>
    cases h
    rw [Instr.exec]
    by_cases hsome : (app.watcher? chatId t.mailbox).isSome = true
    · rw [if_pos hsome]
      exact ⟨.done, rfl, .taken hsome⟩
    · rw [if_neg hsome]
      exact ⟨.connect, rfl, .free (Option.not_isSome_iff_eq_none.mp hsome)⟩
  | connect =>
    cases h
    exact ⟨.await, rfl, .connect⟩
  -- the answer says whether the server could be reached; if not, the task waits and checks again
  | await =>
    cases h
    rw [Instr.exec]
    by_cases hconnected : answer.connected = true
    · rw [if_pos hconnected]
      exact ⟨.lock, rfl, .connected⟩
    · rw [if_neg hconnected]
      exact ⟨.check, rfl, .refused⟩
  -- under the lock, the watcher is looked up a second time
  | lock =>
    cases h
    rw [Instr.exec]
    by_cases hsome : (app.watcher? chatId t.mailbox).isSome = true
    · rw [if_pos hsome]
      exact ⟨.done, rfl, .lost hsome⟩
    · rw [if_neg hsome]
      exact ⟨.insertClient, rfl, .locked (Option.not_isSome_iff_eq_none.mp hsome)⟩
  | insertClient =>
    cases h
    exact ⟨.spawn, rfl, .insertClient⟩
  | spawn =>
    cases h
    exact ⟨.insertWatcher, rfl, .spawn⟩
  | insertWatcher =>
    cases h
    exact ⟨.ensureTopic, rfl, .insertWatcher⟩
  | ensureTopic =>
    cases h
    rw [Instr.exec]
    by_cases hneeds : app.needsTopic config chatId t.mailbox = true
    · rw [if_pos hneeds]
      exact ⟨.setTopic, rfl, .needsTopic⟩
    · rw [if_neg hneeds]
      exact ⟨.unlock, rfl, .hasTopic⟩
  | setTopic =>
    cases h
    exact ⟨.unlock, rfl, .setTopic answer.created⟩
  | unlock =>
    cases h
    exact ⟨.done, rfl, .unlock⟩
  | done => cases h

section

variable {lib : Externals} {chatId : ChatId} {t : ResumeTarget} {app app' : AppState}
  {phase phase' : ResumePhase}

/-- A resume task caches its own client, and no other. -/
theorem Advances.client?_eq (h : Advances lib chatId t app phase app' phase') (m : Mailbox) :
    app'.client? chatId m =
      if phase = .insertClient ∧ t.mailbox = m then some t.client else app.client? chatId m := by
  cases h with
  | insertClient => simp [AppState.client?_insertClient]
  | setTopic created =>
    obtain ⟨data, heq⟩ := setTopic_eq lib chatId app created t.mailbox
    simp [heq]
  | spawn => simp [AppState.register]
  | _ => simp

/-- It starts its own watcher, and no other. -/
theorem Advances.watcher?_eq (h : Advances lib chatId t app phase app' phase') (m : Mailbox) :
    app'.watcher? chatId m =
      if phase = .insertWatcher ∧ t.mailbox = m then some t.client else app.watcher? chatId m := by
  cases h with
  | insertWatcher => simp [AppState.watcher?_insertWatcher]
  | setTopic created =>
    obtain ⟨data, heq⟩ := setTopic_eq lib chatId app created t.mailbox
    simp [heq]
  | spawn => simp [AppState.register]
  | _ => simp

/-- It leaves the client and the watcher of another mailbox. -/
theorem Advances.client?_of_ne (h : Advances lib chatId t app phase app' phase') {m : Mailbox}
    (hm : t.mailbox ≠ m) : app'.client? chatId m = app.client? chatId m := by
  rw [h.client?_eq, if_neg fun heq => hm heq.2]

theorem Advances.watcher?_of_ne (h : Advances lib chatId t app phase app' phase') {m : Mailbox}
    (hm : t.mailbox ≠ m) : app'.watcher? chatId m = app.watcher? chatId m := by
  rw [h.watcher?_eq, if_neg fun heq => hm heq.2]

end

end Jmap2Telegram
