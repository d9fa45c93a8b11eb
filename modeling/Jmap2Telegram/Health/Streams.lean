import Jmap2Telegram.Bot.Tenants
import Jmap2Telegram.Resume.OneWatcher
import Jmap2Telegram.Transition.Brackets

/-!
# Streams and their entries

Each watcher keeps a stream of events open, and writes to the entry of the health registry that has
the key of its mailbox whether it is open and when the last sync was. The tasks that adopt and
forget mailboxes add the entry and drop it; a forget drops it before it stops the watcher. All of
them run at once.

* `Streams.step`: one event.
* `forgetting`: a task is between the two, and `expands_exec`, how it gets there.
* `entryEffect_exec`: what an instruction makes of the entry of a mailbox.
* `Spawned.live_of_exec`, `Spawned.live_exec`: what it makes of the live watchers.
-/

namespace Jmap2Telegram

open Transition

/-! ### Watchers and their entries -/

/-- `update`, which leaves a key that is not registered alone. -/
def Health.update (health : Health) (key : String) (f : WatcherStatus → WatcherStatus) : Health :=
  health.modify key f

/-- What an entry starts with. -/
def WatcherStatus.initial : WatcherStatus := ⟨false, none⟩

/-- The bot, and for each of its watchers whether its stream is open and when it was last synced. -/
structure Streams where
  watching : Watching
  status : ℕ → WatcherStatus

/-- What happens. -/
inductive StreamEvent where
  /-- A task takes a step, or a watcher finishes. -/
  | watch (e : WatchEvent)
  /-- The stream of a watcher is opened. -/
  | opens (id : ℕ)
  /-- It could not be opened, or was closed: `run_once` returns an error. -/
  | drops (id : ℕ)
  /-- A sync came to its end. -/
  | synced (id : ℕ) (now : ℕ)

namespace Streams

/-- What the page says of a mailbox. -/
def row? (s : Streams) (c : ChatId) (m : Mailbox) : Option WatcherStatus :=
  s.watching.state.app.health[m.healthKey c]?

/-- The watcher of a mailbox has changed its status, and the entry with its key. -/
def reported (s : Streams) (id : ℕ) (t : ChatId × Mailbox) (f : WatcherStatus → WatcherStatus) :
    Streams :=
  let app := s.watching.state.app
  let health := app.health.update (t.2.healthKey t.1) f
  { watching :=
      { s.watching with state := { s.watching.state with app := { app with health := health } } }
    status := Function.update s.status id (f (s.status id)) }

/-- A live watcher changes its status. -/
def report (s : Streams) (id : ℕ) (f : WatcherStatus → WatcherStatus) : Option Streams :=
  s.watching.state.live[id]?.map fun t => s.reported id t f

/-- One event. -/
def step (config : Config) (lib : Externals) (s : Streams) : StreamEvent → Option Streams
  | .watch e => (s.watching.step config lib e).map fun watching => { s with watching := watching }
  | .opens id => s.report id fun status => { status with connected := true }
  | .drops id => s.report id fun status => { status with connected := false }
  | .synced id now => s.report id fun status => { status with lastActivity := some now }

end Streams

/-! ### What runs for a chat -/

/-- A resume task, or a handler from its first change on. -/
inductive ChatTask where
  | resume (t : ResumeTarget)
  /-- `cmd_login`. -/
  | login (slot : AccountSlot) (generated : GeneratedSlotId) (lang : String)
  /-- `cmd_comptes`. -/
  | comptes (slot : AccountSlot) (generated : GeneratedSlotId)
  /-- `toggle_shared_account`, for an account that is off. -/
  | toggleOn (accountId name state serverUrl token parentSlot : String)
  /-- `toggle_shared_account`, for an account that is on. -/
  | toggleOff (accountId : String)
  /-- `disconnect_account`. -/
  | disconnect (slotId : String)
  /-- The button that logs out of everything, or `cmd_logout`. -/
  | logout
  /-- A handler that only edits the store. -/
  | store (op : Op)

namespace ChatTask

/-- What it does. -/
def program (chatId : ChatId) : ChatTask → List Instr
  | resume t => ResumePhase.check.program t
  | login slot generated lang => loginProgram chatId slot generated lang
  | comptes slot generated =>
    [.call (.addAccount chatId slot generated),
      .lockWatchers (.account (Store.slotIdFor slot generated)) ⟨slot.serverUrl, slot.token, none⟩]
  | toggleOn accountId name state serverUrl token parentSlot =>
    [.call (.setSharedAccount chatId accountId name (some state) (some parentSlot)),
      .lockWatchers (.shared accountId) ⟨serverUrl, token, some accountId⟩]
  | toggleOff accountId => toggleOffProgram chatId accountId
  | disconnect slotId => disconnectProgram chatId slotId
  | logout => logoutProgram chatId
  | store op => [.call op]

/-- The mailbox it names. -/
def mailbox? : ChatTask → Option Mailbox
  | resume t => some t.mailbox
  | login slot generated _ | comptes slot generated =>
    some (.account (Store.slotIdFor slot generated))
  | toggleOn accountId _ _ _ _ _ | toggleOff accountId => some (.shared accountId)
  | disconnect slotId => some (.account slotId)
  | logout | store _ => none

end ChatTask

section

variable {config : Config} {lib : Externals} {app : AppState} {chatId : ChatId} {answers : Answers}

/-- `cmd_comptes` does nothing, or runs its program to the end. -/
theorem runs_comptes (args : String) :
    app.cmdComptes config lib chatId args answers = app ∨
      ∃ slot, Runs (Instr.exec config lib chatId)
        ((ChatTask.comptes slot answers.generated).program chatId) app
        (app.cmdComptes config lib chatId args answers) := by
  refine (AppState.cmdComptes_cases config lib app chatId args answers).imp_right ?_
  rintro ⟨serverUrl, token, heq⟩
  rw [heq]
  exact ⟨_, (runs_call _).append (runs_adopt _ _ _)⟩

/-- `toggle_shared_account` does nothing, or runs one of its programs to the end. -/
theorem runs_toggle (accountId : String) (parentSlot : Option String) :
    app.toggleSharedAccount config lib chatId accountId parentSlot answers = app ∨
      ∃ task : ChatTask, task.mailbox? = some (.shared accountId) ∧
        Runs (Instr.exec config lib chatId) (task.program chatId) app
          (app.toggleSharedAccount config lib chatId accountId parentSlot answers) := by
  rw [AppState.toggleSharedAccount]
  split
  case h_1 => exact .inl rfl
  case h_2 account haccount =>
    split
    case isTrue => exact .inr ⟨.toggleOff accountId, rfl, runs_toggleOff accountId⟩
    case isFalse =>
      split
      case h_1 => exact .inl rfl
      case h_2 serverUrl token parent hparent =>
        exact .inr ⟨.toggleOn accountId answers.name answers.state serverUrl token parent, rfl,
          (runs_call _).append (runs_adopt _ _ _)⟩

end

/-- `spawn_boot_resume`, for each of the records. -/
def bootTasks (data : StoreData) : List (ChatId × ChatTask) :=
  data.accounts.toList.flatMap fun (c, account) =>
    (persistedTargets account).map fun t => (c, .resume t)

/-- The bot when boot has registered all targets and the tasks can start. -/
def Streams.boot (data : StoreData) (tasks : List (ChatId × ChatTask)) : Streams where
  watching :=
    { state :=
        { Spawned.boot data with
          app := data.accounts.toList.foldl
            (fun app r => app.registerPersistedTargets r.1 (persistedTargets r.2))
            (AppState.new data) }
      tasks := (bootTasks data ++ tasks).map fun t => (t.2.program t.1).map (Prod.mk t.1) }
  status _ := .initial

/-! ### Forgetting a mailbox -/

/-- The mailboxes whose entries an instruction of a forget drops. -/
def Instr.Deregisters : Instr → Mailbox → Prop
  | deregister m, m' => m = m'
  | deregisterChat, _ => True
  | _, _ => False

/-- A forget of a mailbox, from the instruction that drops the entry to the one that stops the
watcher. -/
def forgetting (c : ChatId) (m : Mailbox) : Bracket (ChatId × Instr) where
  opens i := i.1 = c ∧ i.2.Deregisters m
  closes i := i.1 = c ∧ i.2.StopsWatcher m
  brings i := ∃ slotId, i.2 = .forgetChildren slotId

section

variable {config : Config} {lib : Externals} {c c' : ChatId} {m : Mailbox}

/-- The second half of `forget_account` expands to forgets, each complete. -/
theorem expands_forgetAll (ids : List String) (slotId : String) :
    (forgetting c m).Expands (c', .forgetChildren slotId)
      ((ids.flatMap fun id => Instr.forget (.shared id)).map (Prod.mk c')) where
  not_within := by
    induction ids with
    | nil => exact id
    | cons id ids ih =>
      rintro (⟨-, hcloses⟩ | ⟨hopens, ⟨-, hcloses⟩ | ⟨-, ⟨hc, hcloses⟩ | ⟨-, hrest⟩⟩⟩)
      · exact hcloses
      · exact hcloses
      · exact hopens ⟨hc, hcloses⟩
      · exact ih hrest
  tidy rest hrest := by
    induction ids with
    | nil => exact hrest
    | cons id ids ih =>
      refine ⟨fun hopens => .inr ⟨fun h => h.2, .inl hopens⟩, fun hbrings => ?_,
        fun hopens => hopens.2.elim, fun hbrings => ?_, fun hopens => hopens.2.elim,
        fun hbrings => ?_, ih⟩
      · obtain ⟨_, heq⟩ := hbrings
        cases heq
      · obtain ⟨_, heq⟩ := hbrings
        cases heq
      · obtain ⟨_, heq⟩ := hbrings
        cases heq
  opens _ _ _ := ⟨slotId, rfl⟩

/-- No other instruction expands to a part of a forget. -/
theorem expands_exec (s : Spawned) (answer : Answer) (i : ChatId × Instr) :
    (forgetting c m).Expands i (s.exec config lib answer i).2 := by
  obtain ⟨c', instr⟩ := i
  have hnone : ∀ new : List Instr, (∀ j ∈ new, (∀ m, ¬j.Deregisters m) ∧ (∀ m, ¬j.StopsWatcher m) ∧
      ∀ slotId, j ≠ .forgetChildren slotId) →
      (forgetting c m).Expands (c', instr) (new.map (Prod.mk c')) := by
    intro new h
    refine .of_forall fun j hj => ?_
    obtain ⟨instr', hinstr', rfl⟩ := List.mem_map.mp hj
    obtain ⟨hopens, hcloses, hbrings⟩ := h instr' hinstr'
    exact ⟨fun h => hopens m h.2, fun h => hcloses m h.2, fun ⟨slotId, h⟩ => hbrings slotId h⟩
  rw [Spawned.exec]
  cases instr with
  | forgetChildren slotId => exact expands_forgetAll _ slotId
  | storeCheck t =>
    refine hnone _ ?_
    rw [Instr.exec]
    split <;> simp [Instr.Deregisters, Instr.StopsWatcher]
  | slotAdopted t | awaitConnect t | ensureTopic m' =>
    refine hnone _ ?_
    rw [Instr.exec]
    dsimp only
    split <;> simp [Instr.Deregisters, Instr.StopsWatcher]
  | lockWatchers m' client =>
    refine hnone _ ?_
    rw [Instr.exec]
    dsimp only
    split <;> simp [Instr.adopt, Instr.Deregisters, Instr.StopsWatcher]
  | call op =>
    refine hnone _ ?_
    rw [Instr.exec]
    dsimp only
    split <;> simp [Instr.Deregisters, Instr.StopsWatcher]
  | _ => exact hnone _ (by simp [Instr.exec, Instr.Deregisters, Instr.StopsWatcher])

end

/-! ### What an instruction does -/

/-- The mailbox an instruction names. -/
def Instr.mailbox? : Instr → Option Mailbox
  | storeCheck t | slotAdopted t | connect t | awaitConnect t => some t.mailbox
  | lockWatchers m _ | insertClient m _ | spawn m | insertWatcher m _ | ensureTopic m | setTopic m
  | unlockWatchers m | deregister m | removeClient m | removeWatcher m => some m
  | _ => none

/-- A resume task drops the entry of a mailbox that the store does not have any more. -/
def Instr.GivesUp (instr : Instr) (app : AppState) (c : ChatId) (m : Mailbox) : Prop :=
  ∃ t, instr = .storeCheck t ∧ t.mailbox = m ∧
    ¬app.data.accounts[c]?.any t.target.stillActive = true

/-- What an instruction of a chat makes of the entry of a mailbox. -/
inductive EntryEffect (app : AppState) (c' : ChatId) (instr : Instr) (c : ChatId) (m : Mailbox) :
    Option WatcherStatus → Prop where
  | added (hc : c' = c) (h : instr = .spawn m) :
    EntryEffect app c' instr c m (some .initial)
  | dropped (h : (forgetting c m).opens (c', instr)) : EntryEffect app c' instr c m none
  | givenUp (hc : c' = c) (h : instr.GivesUp app c m) : EntryEffect app c' instr c m none
  | kept (h : ¬(forgetting c m).opens (c', instr)) (hspawn : (c', instr) ≠ (c, .spawn m)) :
    EntryEffect app c' instr c m app.health[m.healthKey c]?

section

variable {config : Config} {lib : Externals} {c c' : ChatId} {m m' : Mailbox} {app : AppState}
  {instr : Instr}

/-- An instruction adds, drops or leaves the entry of a mailbox. -/
theorem entryEffect_exec (hm : m ≠ .account "primary") (answer : Answer)
    (hplain : instr.mailbox? ≠ some (.account "primary")) :
    EntryEffect app c' instr c m
      (instr.exec config lib c' answer app).1.health[m.healthKey c]? := by
  have hkey : ∀ {m'}, instr.mailbox? = some m' → ¬(c' = c ∧ m' = m) →
      m'.healthKey c' ≠ m.healthKey c := fun hmailbox hne heq =>
    hne (Mailbox.healthKey_injective (fun h => hplain (h ▸ hmailbox)) hm heq)
  cases instr with
  | storeCheck t =>
    rw [Instr.exec]
    split
    case isTrue => exact .kept (fun h => h.2) fun heq => by (cases heq)
    case isFalse hgone =>
      rw [Health.deregister, Map.getElem?_erase]
      split
      case isTrue heq =>
        obtain ⟨rfl, rfl⟩ : c' = c ∧ t.mailbox = m := by
          by_contra hne
          exact hkey rfl hne heq
        exact .givenUp rfl ⟨t, rfl, rfl, hgone⟩
      case isFalse => exact .kept (fun h => h.2) fun heq => by (cases heq)
  | spawn m' =>
    rw [Instr.exec, AppState.register, Health.register, Map.getElem?_insert]
    split
    case isTrue heq =>
      obtain ⟨rfl, rfl⟩ : c' = c ∧ m' = m := by
        by_contra hne
        exact hkey rfl hne heq
      exact .added rfl rfl
    case isFalse hne =>
      refine .kept (fun h => h.2) fun heq => hne ?_
      cases heq
      rfl
  | deregister m' =>
    rw [Instr.exec, Health.deregister, Map.getElem?_erase]
    split
    case isTrue heq =>
      refine .dropped ?_
      by_contra hne
      exact hkey rfl hne heq
    case isFalse hne =>
      refine .kept ?_ fun heq => by (cases heq)
      rintro ⟨rfl, rfl⟩
      exact hne rfl
  | deregisterChat =>
    by_cases hc : c' = c
    · have hgone : m.healthKey c ∉ app.health.deregisterChat c' := fun h =>
        (mem_deregisterChat.mp h).1 hc.symm
      rw [Instr.exec, Std.ExtTreeMap.getElem?_eq_none hgone]
      exact .dropped ⟨hc, trivial⟩
    · have hother : Health.isKeyOf c' (m.healthKey c) = false :=
        Bool.eq_false_iff.mpr fun h =>
          hc (Health.eq_of_isKeyOf h (Health.isKeyOf_healthKey c m))
      have hkept : (app.health.deregisterChat c')[m.healthKey c]? =
          app.health[m.healthKey c]? := by
        change (app.health.filter fun key _ => !Health.isKeyOf c' key)[m.healthKey c]? = _
        rw [Map.getElem?_filter_key, hother]
        rfl
      rw [Instr.exec, hkept]
      exact .kept (fun h => hc h.1) fun heq => by (cases heq)
  -- the other instructions leave the registry alone
  | insertClient m' client =>
    rw [Instr.exec, AppState.health_insertClient]
    exact .kept (fun h => h.2) fun heq => by (cases heq)
  | insertWatcher m' client =>
    rw [Instr.exec, AppState.health_insertWatcher]
    exact .kept (fun h => h.2) fun heq => by (cases heq)
  | removeClient m' =>
    rw [Instr.exec, AppState.health_removeClient]
    exact .kept (fun h => h.2) fun heq => by (cases heq)
  | removeWatcher m' =>
    rw [Instr.exec, AppState.health_removeWatcher]
    exact .kept (fun h => h.2) fun heq => by (cases heq)
  | setTopic m' =>
    obtain ⟨data, heq⟩ := setTopic_eq lib c' app answer.created m'
    rw [Instr.exec, heq]
    exact .kept (fun h => h.2) fun heq => by (cases heq)
  | _ => exact .kept (fun h => h.2) fun heq => by (cases heq)

/-- An instruction names no mailbox that its task has not named, but for shared ones. -/
theorem mailbox?_of_mem_exec (answer : Answer) (hplain : instr.mailbox? ≠ some (.account "primary"))
    {j : Instr} (hj : j ∈ (instr.exec config lib c' answer app).2) :
    j.mailbox? ≠ some (.account "primary") := by
  cases instr with
  | storeCheck t =>
    rw [Instr.exec] at hj
    split at hj
    · cases List.mem_singleton.mp hj
      exact hplain
    · cases hj
  | slotAdopted t =>
    rw [Instr.exec] at hj
    dsimp only at hj
    split at hj
    · cases hj
    · cases List.mem_singleton.mp hj
      exact hplain
  | awaitConnect t =>
    rw [Instr.exec] at hj
    dsimp only at hj
    split at hj
    · cases List.mem_singleton.mp hj
      exact hplain
    · cases List.mem_singleton.mp hj
      exact hplain
  | ensureTopic m' =>
    rw [Instr.exec] at hj
    dsimp only at hj
    split at hj
    · cases List.mem_singleton.mp hj
      exact hplain
    · cases hj
  | lockWatchers m' client =>
    rw [Instr.exec] at hj
    dsimp only at hj
    split at hj
    · cases hj
    · simp only [Instr.adopt, List.mem_cons, List.not_mem_nil, or_false] at hj
      rcases hj with rfl | rfl | rfl | rfl | rfl <;> exact hplain
  | connect t =>
    cases List.mem_singleton.mp hj
    exact hplain
  | forgetChildren slotId =>
    rw [Instr.exec, List.mem_flatMap] at hj
    obtain ⟨id, -, hj⟩ := hj
    simp only [Instr.forget, List.mem_cons, List.not_mem_nil, or_false] at hj
    rcases hj with rfl | rfl | rfl <;> simp [Instr.mailbox?]
  | call op =>
    rw [Instr.exec] at hj
    dsimp only at hj
    split at hj
    · cases List.mem_singleton.mp hj
      simp [Instr.mailbox?]
    · cases hj
  | _ => cases hj

end

/-! ### Live watchers -/

/-- A handle is of the watcher of one mailbox. -/
structure Spawned.Apart (s : Spawned) : Prop where
  lt : ∀ (c : ChatId) (m : Mailbox) (id : ℕ), s.handle? c m = some id → id < s.next
  inj : ∀ (c c' : ChatId) (m m' : Mailbox) (id : ℕ), s.handle? c m = some id →
    s.handle? c' m' = some id → c = c' ∧ m = m'

/-- Every key of the two maps is that of a mailbox. -/
theorem exists_mailbox (watchers : Watchers) (id : String) :
    ∃ m : Mailbox, m.watchers = watchers ∧ m.id = id := by
  cases watchers with
  | account => exact ⟨.account id, rfl, rfl⟩
  | shared => exact ⟨.shared id, rfl, rfl⟩

section

variable {config : Config} {lib : Externals} {s : Spawned} {c c' : ChatId} {m : Mailbox}
  {instr : Instr} {answer : Answer} {id : ℕ}

/-- A new watcher has an id of its own. -/
theorem Spawned.Apart.spawn (h : s.Apart) : (s.spawn c m).Apart where
  lt c' m' id hid := by
    change id < s.next + 1
    rw [Spawned.handle?_spawn] at hid
    split at hid
    · cases hid
      exact Nat.lt_succ_self _
    · exact Nat.lt_succ_of_lt (h.lt c' m' id hid)
  inj c₁ c₂ m₁ m₂ id hid hid' := by
    rw [Spawned.handle?_spawn] at hid hid'
    split at hid
    case isTrue heq =>
      obtain ⟨rfl, rfl⟩ := heq
      cases hid
      split at hid'
      case isTrue heq' => exact heq'
      case isFalse => exact absurd (h.lt c₂ m₂ _ hid') (lt_irrefl _)
    case isFalse =>
      split at hid'
      case isTrue heq' =>
        cases hid'
        exact absurd (h.lt c₁ m₁ _ hid) (lt_irrefl _)
      case isFalse => exact h.inj c₁ c₂ m₁ m₂ id hid hid'

theorem Spawned.Apart.abort (h : s.Apart) (watchers : Watchers) (p : ChatId × String → Bool) :
    (s.abort watchers p).Apart := by
  have hold : ∀ {c m id}, (s.abort watchers p).handle? c m = some id → s.handle? c m = some id := by
    intro c m id hid
    rw [Spawned.handle?_abort] at hid
    split at hid
    · cases hid
    · exact hid
  exact ⟨fun c m id hid => h.lt c m id (hold hid),
    fun c c' m m' id hid hid' => h.inj c c' m m' id (hold hid) (hold hid')⟩

/-- What an instruction does to the handles and the watchers. -/
theorem Spawned.exec_cases (config : Config) (lib : Externals) (s : Spawned) (answer : Answer)
    (c : ChatId) (instr : Instr) :
    (∃ m client, instr = .insertWatcher m client ∧
      (s.exec config lib answer (c, instr)).1 =
        { s.spawn c m with app := (instr.exec config lib c answer s.app).1 }) ∨
    (∃ watchers p, (∀ c' m, m.watchers = watchers → p (c', m.id) = true →
        c' = c ∧ instr.StopsWatcher m) ∧
      (s.exec config lib answer (c, instr)).1 =
        { s.abort watchers p with app := (instr.exec config lib c answer s.app).1 }) ∨
    (s.exec config lib answer (c, instr)).1 =
      { s with app := (instr.exec config lib c answer s.app).1 } := by
  cases instr with
  | insertWatcher m client => exact .inl ⟨m, client, rfl, rfl⟩
  | removeWatcher m =>
    refine .inr (.inl ⟨m.watchers, fun key => key == (c, m.id), fun c' m' hw hp => ?_, rfl⟩)
    rw [beq_iff_eq, Prod.mk.injEq] at hp
    exact ⟨hp.1, Mailbox.eq_iff.mpr ⟨hw.symm, hp.2.symm⟩⟩
  | removeAccountWatchers =>
    exact .inr (.inl ⟨.account, fun key => key.1 == c,
      fun c' m' hw hp => ⟨beq_iff_eq.mp hp, hw⟩, rfl⟩)
  | removeSharedWatchers =>
    exact .inr (.inl ⟨.shared, fun key => key.1 == c,
      fun c' m' hw hp => ⟨beq_iff_eq.mp hp, hw⟩, rfl⟩)
  | _ => exact .inr (.inr rfl)

/-- Every instruction keeps them apart. -/
theorem Spawned.Apart.exec (h : s.Apart) (i : ChatId × Instr) :
    (s.exec config lib answer i).1.Apart := by
  rcases s.exec_cases config lib answer i.1 i.2 with ⟨m, client, -, heq⟩ |
    ⟨watchers, p, -, heq⟩ | heq
  · rw [heq]
    exact ⟨h.spawn.lt, h.spawn.inj⟩
  · rw [heq]
    exact ⟨(h.abort watchers p).lt, (h.abort watchers p).inj⟩
  · rw [heq]
    exact ⟨h.lt, h.inj⟩

/-- A watcher that is live after an instruction was live before, or is started by it. -/
theorem Spawned.live_of_exec
    (h : (s.exec config lib answer (c', instr)).1.live[id]? = some (c, m)) :
    s.live[id]? = some (c, m) ∨
      c' = c ∧ id = s.next ∧ ∃ client, instr = .insertWatcher m client := by
  rcases s.exec_cases config lib answer c' instr with ⟨m', client, rfl, heq⟩ |
    ⟨watchers, p, -, heq⟩ | heq
  · rw [heq] at h
    change (s.spawn c' m').live[id]? = _ at h
    rw [Spawned.live_spawn] at h
    split at h
    case isTrue hid =>
      cases h
      exact .inr ⟨rfl, hid.symm, client, rfl⟩
    case isFalse => exact .inl h
  · rw [heq] at h
    exact .inl (Spawned.live_abort.mp h).1
  · rw [heq] at h
    exact .inl h

/-- A live watcher stays live, unless the instruction stops it. -/
theorem Spawned.live_exec (hagrees : s.Agrees) (hapart : s.Apart)
    (h : s.live[id]? = some (c, m)) (hstops : ¬(forgetting c m).closes (c', instr)) :
    (s.exec config lib answer (c', instr)).1.live[id]? = some (c, m) := by
  rcases s.exec_cases config lib answer c' instr with ⟨m', client, rfl, heq⟩ |
    ⟨watchers, p, hp, heq⟩ | heq
  · rw [heq]
    change (s.spawn c' m').live[id]? = _
    rw [Spawned.live_spawn, if_neg (hagrees.fresh id _ h).ne', h]
  · rw [heq]
    refine Spawned.live_abort.mpr ⟨h, fun key hkey => ?_⟩
    -- the only handle of the watcher is the one of its mailbox
    obtain ⟨m', hw, hid⟩ := exists_mailbox watchers key.2
    have hhandle : s.handle? key.1 m' = some id := by
      rw [Spawned.handle?, hw, hid]
      exact hkey
    obtain ⟨hc, rfl⟩ := hapart.inj _ _ _ _ _ (hagrees.stored id c m h) hhandle
    rw [Bool.eq_false_iff]
    intro hremoved
    obtain ⟨hc', hstopped⟩ := hp key.1 m hw (by rw [hid]; exact hremoved)
    exact hstops ⟨hc'.symm.trans hc.symm, hstopped⟩
  · rw [heq]
    exact h

end

end Jmap2Telegram
