import Jmap2Telegram.Resume.Tasks

/-!
# Spawned watchers

The watchers themselves, next to the maps of their handles: `tokio::spawn` starts a task and returns
a handle, which `adopt_*` stores under the key of the mailbox; removing a handle aborts its task,
and a task may finish by itself, its handle staying where it is. A `Spawned` state counts the tasks
that were spawned, so that a handle says which task it is of; the tasks of any number of chats run
the programs of `Resume/Tasks.lean` over it.

* `handle?_spawn`, `handle?_abort`: the handles after a spawn and after an abort.
* `live_spawn`, `live_abort`: the live watchers.
-/

namespace Jmap2Telegram

open Transition

/-- The key of a mailbox in the maps of its kind. -/
def Mailbox.id : Mailbox → String
  | account slotId => slotId
  | shared accountId => accountId

/-- A mailbox is its map and its id there. -/
theorem Mailbox.eq_iff {m m' : Mailbox} : m = m' ↔ m.watchers = m'.watchers ∧ m.id = m'.id := by
  cases m <;> cases m' <;> simp [watchers, Mailbox.id]

/-- The state of the bot, the task each stored handle is of, and the watchers that were spawned and
neither aborted nor finished, with the mailbox each follows. -/
structure Spawned where
  app : AppState
  handles : Watchers → Map (ChatId × String) ℕ
  live : Map ℕ (ChatId × Mailbox)
  next : ℕ

namespace Spawned

/-- The state at boot, over a store with the given data. -/
def boot (data : StoreData) : Spawned := ⟨AppState.new data, fun _ => ∅, ∅, 0⟩

/-- The handle stored for a mailbox. -/
def handle? (s : Spawned) (c : ChatId) (m : Mailbox) : Option ℕ :=
  (s.handles m.watchers)[(c, m.id)]?

/-- `tokio::spawn`, and the insertion of the handle: there is no `await` between them. A handle that
is overwritten is dropped, which does not abort its task. -/
def spawn (s : Spawned) (c : ChatId) (m : Mailbox) : Spawned :=
  { s with
    handles := Function.update s.handles m.watchers
      ((s.handles m.watchers).insert (c, m.id) s.next)
    live := s.live.insert s.next (c, m)
    next := s.next + 1 }

/-- Remove the handles under some keys of a map, and abort their tasks. -/
def abort (s : Spawned) (watchers : Watchers) (p : ChatId × String → Bool) : Spawned :=
  { s with
    handles := Function.update s.handles watchers ((s.handles watchers).filter fun key _ => !p key)
    live := s.live.filter fun id _ =>
      !(s.handles watchers).toList.any fun entry => p entry.1 && entry.2 == id }

/-- A watcher finishes: it removes its health entry, and its handle stays. -/
def finish (s : Spawned) (id : ℕ) (t : ChatId × Mailbox) : Spawned :=
  { s with
    app := { s.app with health := s.app.health.deregister (t.2.healthKey t.1) }
    live := s.live.erase id }

variable (config : Config) (lib : Externals)

/-- An instruction of a task of a chat, with what it does to the watchers. -/
def exec (answer : Answer) (i : ChatId × Instr) (s : Spawned) : Spawned × List (ChatId × Instr) :=
  let s' := match i.2 with
    | .insertWatcher m _ => s.spawn i.1 m
    | .removeWatcher m => s.abort m.watchers fun key => key == (i.1, m.id)
    | .removeAccountWatchers => s.abort .account fun key => key.1 == i.1
    | .removeSharedWatchers => s.abort .shared fun key => key.1 == i.1
    | _ => s
  ({ s' with app := (i.2.exec config lib i.1 answer s.app).1 },
    (i.2.exec config lib i.1 answer s.app).2.map (Prod.mk i.1))

/-- The locks are those of the maps, which all chats share. -/
def blocked (tasks : List (List (ChatId × Instr))) (i : ChatId × Instr) : Bool :=
  Instr.blocked (tasks.map fun program => program.map Prod.snd) i.2

end Spawned

/-- What happens: a task takes a step, or a watcher finishes. -/
inductive WatchEvent where
  | step (i : ℕ) (answer : Answer)
  | finish (id : ℕ)

/-- The tasks of all chats over the state. -/
abbrev Watching := System Spawned (ChatId × Instr)

/-- One event after another. -/
def Watching.step (config : Config) (lib : Externals) (w : Watching) : WatchEvent → Option Watching
  | .step i answer => System.step Spawned.blocked (Spawned.exec config lib) w (i, answer)
  | .finish id => w.state.live[id]?.map fun t => { w with state := w.state.finish id t }

/-! ### Handles and watchers -/

namespace Spawned

variable {s : Spawned} {c c' : ChatId} {m m' : Mailbox} {watchers : Watchers}
  {p : ChatId × String → Bool} {id : ℕ} {t : ChatId × Mailbox}

/-- Spawning a watcher sets its handle. -/
theorem handle?_spawn : (s.spawn c m).handle? c' m' =
    if c = c' ∧ m = m' then some s.next else s.handle? c' m' := by
  simp only [handle?, spawn, Mailbox.eq_iff]
  by_cases hw : m.watchers = m'.watchers
  · rw [← hw, Function.update_self, Map.getElem?_insert]
    simp
  · rw [Function.update_of_ne (Ne.symm hw), if_neg fun h => hw h.2.1]

/-- Aborting watchers drops their handles. -/
theorem handle?_abort : (s.abort watchers p).handle? c m =
    if m.watchers = watchers ∧ p (c, m.id) = true then none else s.handle? c m := by
  simp only [handle?, abort]
  by_cases hw : m.watchers = watchers
  · rw [hw, Function.update_self, Map.getElem?_filter_key]
    cases p (c, m.id) <;> simp
  · rw [Function.update_of_ne hw, if_neg fun h => hw h.1]

/-- A new watcher is live. -/
theorem live_spawn : (s.spawn c m).live[id]? =
    if s.next = id then some (c, m) else s.live[id]? := by
  rw [spawn, Map.getElem?_insert]

/-- An abort ends the tasks whose handles it removes, and no others. -/
theorem live_abort : (s.abort watchers p).live[id]? = some t ↔
    s.live[id]? = some t ∧ ∀ key, (s.handles watchers)[key]? = some id → p key = false := by
  rw [abort, Map.getElem?_filter_eq_some, Bool.not_eq_true', ← Bool.not_eq_true,
    List.any_eq_true]
  refine and_congr_right fun _ => ⟨fun h key hkey => ?_, ?_⟩
  · by_contra hp
    refine h ⟨(key, id), Std.ExtTreeMap.mem_toList_iff_getElem?_eq_some.mpr hkey, ?_⟩
    simpa using hp
  · rintro h ⟨⟨key, id'⟩, hentry, hp⟩
    rw [Bool.and_eq_true, beq_iff_eq] at hp
    obtain ⟨hp, rfl⟩ := hp
    rw [h key (Std.ExtTreeMap.mem_toList_iff_getElem?_eq_some.mp hentry)] at hp
    cases hp

end Spawned

/-! ### The maps of the source -/

namespace AppState

variable {app : AppState} {chatId c : ChatId} {m : Mailbox}

theorem watcher?_removeAccountWatchers : (app.removeAccountWatchers chatId).watcher? c m =
    if m.watchers = .account ∧ c = chatId then none else app.watcher? c m := by
  cases m with
  | account slotId =>
    rw [removeAccountWatchers, watcher?, watcher?, Map.getElem?_filter_key]
    by_cases hc : c = chatId <;> simp [hc, Mailbox.watchers]
  | shared accountId => rw [if_neg (by simp [Mailbox.watchers])]; rfl

theorem watcher?_removeSharedWatchers : (app.removeSharedWatchers chatId).watcher? c m =
    if m.watchers = .shared ∧ c = chatId then none else app.watcher? c m := by
  cases m with
  | account slotId => rw [if_neg (by simp [Mailbox.watchers])]; rfl
  | shared accountId =>
    rw [removeSharedWatchers, watcher?, watcher?, Map.getElem?_filter_key]
    by_cases hc : c = chatId <;> simp [hc, Mailbox.watchers]

end AppState

end Jmap2Telegram
