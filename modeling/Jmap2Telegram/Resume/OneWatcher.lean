import Jmap2Telegram.Resume.Commands
import Jmap2Telegram.Resume.Spawned
import Jmap2Telegram.Transition.Locks

/-!
# One watcher for each mailbox

From the boot on, any number of tasks of any number of chats may adopt and forget mailboxes in any
interleaving. `adopt_*` looks for a watcher, starts one and stores its handle under one write lock,
so every live watcher has its handle stored under its own key: no mailbox has two, and the next
forget finds it.

* `Entry`: the instructions a task may start with, outside `adopt_*`.
* `InTask.step`: what a task has still to do is again the rest of an `adopt_*` and of what it
  started with.
* `Agrees`: the handles, the maps of the source and the live watchers agree; `Agrees.spawn`,
  `Agrees.abort` keep it.
* `Guarded.step`, `handle_of_live`: the invariant of every run, and what it says.
-/

namespace Jmap2Telegram

open Transition

namespace Instr

/-- The instructions outside of `adopt_*`, up to its check. -/
def Entry : Instr → Prop
  | insertClient _ _ | spawn _ | insertWatcher _ _ | ensureTopic _ | setTopic _
  | unlockWatchers _ => False
  | _ => True

instance : DecidablePred Entry := fun instr =>
  match instr with
  | insertClient _ _ | spawn _ | insertWatcher _ _ | ensureTopic _ | setTopic _
  | unlockWatchers _ => .isFalse id
  | storeCheck _ | slotAdopted _ | connect _ | awaitConnect _ | lockWatchers _ _ | dropUndo
  | deregisterChat | removeAccountClients | removeAccountWatchers | removeSharedClients
  | removeSharedWatchers | deregister _ | removeClient _ | removeWatcher _ | forgetChildren _
  | call _ | eraseChat _ => .isTrue trivial

/-- The mailbox whose watcher an `adopt_*` is about to start, as it comes to the instruction. -/
def starts : Instr → Option Mailbox
  | insertClient m _ | spawn m | insertWatcher m _ => some m
  | _ => none

/-- The watchers an instruction removes from the maps and aborts. -/
def StopsWatcher : Instr → Mailbox → Prop
  | removeWatcher m, m' => m = m'
  | removeAccountWatchers, m' => m'.watchers = .account
  | removeSharedWatchers, m' => m'.watchers = .shared
  | _, _ => False

end Instr

/-! ### What a task has still to do -/

/-- Where a task is between taking the lock and releasing it. -/
inductive AdoptPhase where
  | insertClient
  | spawn
  | insertWatcher
  | ensureTopic
  | setTopic
  | unlock

/-- The rest of `adopt_*`. -/
def AdoptPhase.program (m : Mailbox) (client : Client) : AdoptPhase → List Instr
  | insertClient => Instr.adopt m client
  | spawn => (Instr.adopt m client).drop 1
  | insertWatcher => (Instr.adopt m client).drop 2
  | ensureTopic => (Instr.adopt m client).drop 3
  | setTopic => [.setTopic m, .unlockWatchers m]
  | unlock => [.unlockWatchers m]

/-- A task is outside of `adopt_*`, or between its lock and its end. -/
inductive InTask : List (ChatId × Instr) → Prop where
  | idle {program : List (ChatId × Instr)} (h : ∀ i ∈ program, i.2.Entry) : InTask program
  | adopting (phase : AdoptPhase) (c : ChatId) (m : Mailbox) (client : Client)
    {rest : List (ChatId × Instr)} (h : ∀ i ∈ rest, i.2.Entry) :
    InTask ((phase.program m client).map (Prod.mk c) ++ rest)

/-- A task of a chat has found no watcher of a mailbox and is about to start one. -/
def Starts (c : ChatId) (m : Mailbox) (program : List (ChatId × Instr)) : Prop :=
  ∃ instr rest, program = (c, instr) :: rest ∧ instr.starts = some m

/-- The lock of a map is held by the tasks that have still to release it. -/
abbrev HoldsWatchers (watchers : Watchers) (program : List (ChatId × Instr)) : Prop :=
  Holds (fun i : ChatId × Instr => i.2.unlocks) watchers program

/-- An instruction at which a program may start starts no watcher. -/
theorem Instr.Entry.starts {instr : Instr} (h : instr.Entry) : instr.starts = none := by
  cases instr <;> first | rfl | exact h.elim

theorem Instr.Entry.unlocks {instr : Instr} (h : instr.Entry) : instr.unlocks = none := by
  cases instr <;> first | rfl | exact h.elim

theorem Instr.StopsWatcher.starts {instr : Instr} {m : Mailbox} (h : instr.StopsWatcher m) :
    instr.starts = none := by
  cases instr <;> first | rfl | exact False.elim h

section

variable {s : Spawned} {c : ChatId} {m : Mailbox} {i : ChatId × Instr} {instr : Instr}
  {program rest : List (ChatId × Instr)}

theorem starts_cons {c' : ChatId} : Starts c m ((c', instr) :: rest) ↔
    c' = c ∧ instr.starts = some m := by
  constructor
  · rintro ⟨instr', rest', heq, hstarts⟩
    cases heq
    exact ⟨rfl, hstarts⟩
  · rintro ⟨rfl, hstarts⟩
    exact ⟨instr, rest, rfl, hstarts⟩

/-- Nor does such a program. -/
theorem not_starts_of_entry (h : ∀ i ∈ program, i.2.Entry) : ¬Starts c m program := by
  rintro ⟨instr, rest, rfl, hstarts⟩
  have hentry : instr.Entry := h _ List.mem_cons_self
  rw [hentry.starts] at hstarts
  cases hstarts

/-- A task that is about to start a watcher holds the lock of its map. -/
theorem InTask.holdsWatchers (h : InTask program) (hstarts : Starts c m program) :
    HoldsWatchers m.watchers program := by
  cases h with
  | idle h => exact (not_starts_of_entry h hstarts).elim
  | adopting phase c' m' client h =>
    obtain ⟨instr, rest, heq, hstarts⟩ := hstarts
    have hm : m' = m := by
      cases phase <;> cases heq <;> first | exact Option.some.inj hstarts | cases hstarts
    subst hm
    refine ⟨(c', .unlockWatchers m'), ?_, rfl⟩
    cases phase <;> simp [AdoptPhase.program, Instr.adopt]

/-- Outside of `adopt_*`, only the check of `adopt_*` leads into it. -/
theorem Instr.Entry.exec (h : instr.Entry) (config : Config) (lib : Externals) (chatId : ChatId)
    (answer : Answer) (app : AppState) :
    (∀ i ∈ (instr.exec config lib chatId answer app).2, i.Entry) ∨
      ∃ m client, instr = .lockWatchers m client ∧ app.watcher? chatId m = none ∧
        instr.exec config lib chatId answer app = (app, Instr.adopt m client) := by
  -- most instructions add none, or only ones that are not of `adopt_*`
  cases instr with
  | lockWatchers m client =>
    rw [Instr.exec]
    cases hw : app.watcher? chatId m with
    | none => exact .inr ⟨m, client, rfl, hw, rfl⟩
    | some w => exact .inl fun i hi => by cases hi
  | storeCheck t =>
    left
    rw [Instr.exec]
    split
    · simp [Instr.Entry]
    · simp
  | slotAdopted t =>
    left
    rw [Instr.exec]
    split
    · simp
    · simp [Instr.Entry]
  | awaitConnect t =>
    left
    rw [Instr.exec]
    split
    · simp [Instr.Entry]
    · simp [Instr.Entry]
  | forgetChildren slotId =>
    left
    intro i hi
    rw [Instr.exec, List.mem_flatMap] at hi
    obtain ⟨id, -, hi⟩ := hi
    simp only [Instr.forget, List.mem_cons, List.not_mem_nil, or_false] at hi
    rcases hi with rfl | rfl | rfl
    · trivial
    · trivial
    · trivial
  | call op =>
    left
    rw [Instr.exec]
    split
    · simp [Instr.Entry]
    · simp
  | connect t => exact .inl fun i hi => by cases List.mem_singleton.mp hi; trivial
  | insertClient | spawn | insertWatcher | ensureTopic | setTopic | unlockWatchers => exact h.elim
  | _ => exact .inl fun i hi => by cases hi

/-- A step leaves a task in its place, and starts no watcher that is there already. -/
theorem InTask.step (h : InTask (i :: rest)) (config : Config) (lib : Externals) (answer : Answer)
    (hfree : ∀ c m, Starts c m (i :: rest) → s.app.watcher? c m = none) :
    InTask ((s.exec config lib answer i).2 ++ rest) ∧
      ∀ c m, Starts c m ((s.exec config lib answer i).2 ++ rest) →
        (s.exec config lib answer i).1.app.watcher? c m = none := by
  generalize hprogram : i :: rest = program at h
  cases h with
  | idle h =>
    subst hprogram
    have hentry : i.2.Entry := h i List.mem_cons_self
    have hrest : ∀ j ∈ rest, j.2.Entry := fun j hj => h j (List.mem_cons_of_mem _ hj)
    rcases hentry.exec config lib i.1 answer s.app with hnext | ⟨m, client, -, hnone, hexec⟩
    · have hall : ∀ j ∈ (s.exec config lib answer i).2 ++ rest, j.2.Entry := by
        intro j hj
        rcases List.mem_append.mp hj with hj | hj
        · obtain ⟨instr, hinstr, rfl⟩ := List.mem_map.mp hj
          exact hnext instr hinstr
        · exact hrest j hj
      exact ⟨.idle hall, fun c m hstarts => (not_starts_of_entry hall hstarts).elim⟩
    -- the check of `adopt_*` found no watcher
    · rw [Spawned.exec, hexec]
      refine ⟨.adopting .insertClient i.1 m client hrest, fun c' m' hstarts => ?_⟩
      change s.app.watcher? c' m' = none
      obtain ⟨rfl, hm⟩ := starts_cons.mp hstarts
      cases hm
      exact hnone
  | adopting phase c m client h =>
    cases phase with
    | insertClient =>
      cases hprogram
      refine ⟨.adopting .spawn c m client h, fun c' m' hstarts => ?_⟩
      obtain ⟨rfl, hm⟩ := starts_cons.mp hstarts
      cases hm
      rw [Spawned.exec, Instr.exec, AppState.watcher?_insertClient]
      exact hfree c m ⟨_, _, rfl, rfl⟩
    | spawn =>
      cases hprogram
      refine ⟨.adopting .insertWatcher c m client h, fun c' m' hstarts => ?_⟩
      obtain ⟨rfl, hm⟩ := starts_cons.mp hstarts
      cases hm
      exact hfree c m ⟨_, _, rfl, rfl⟩
    -- from here on the watcher is started, and the task starts no other
    | insertWatcher =>
      cases hprogram
      refine ⟨.adopting .ensureTopic c m client h, fun c' m' hstarts => ?_⟩
      obtain ⟨rfl, hm⟩ := starts_cons.mp hstarts
      cases hm
    | ensureTopic =>
      cases hprogram
      rw [Spawned.exec, Instr.exec]
      dsimp only
      split
      · refine ⟨.adopting .setTopic c m client h, fun c' m' hstarts => ?_⟩
        obtain ⟨rfl, hm⟩ := starts_cons.mp hstarts
        cases hm
      · refine ⟨.adopting .unlock c m client h, fun c' m' hstarts => ?_⟩
        obtain ⟨rfl, hm⟩ := starts_cons.mp hstarts
        cases hm
    | setTopic =>
      cases hprogram
      refine ⟨.adopting .unlock c m client h, fun c' m' hstarts => ?_⟩
      obtain ⟨rfl, hm⟩ := starts_cons.mp hstarts
      cases hm
    | unlock =>
      cases hprogram
      exact ⟨.idle h, fun c' m' hstarts => (not_starts_of_entry h hstarts).elim⟩

end

/-! ### Handles and live watchers -/

/-- The handles and the live watchers agree: each live watcher is the one whose handle is stored
under its key, and the handles are those of the maps of the source. -/
structure Spawned.Agrees (s : Spawned) : Prop where
  stored : ∀ (id : ℕ) (c : ChatId) (m : Mailbox), s.live[id]? = some (c, m) →
    s.handle? c m = some id
  watched : ∀ (c : ChatId) (m : Mailbox), (s.handle? c m).isSome = (s.app.watcher? c m).isSome
  fresh : ∀ (id : ℕ) (t : ChatId × Mailbox), s.live[id]? = some t → id < s.next

namespace Spawned

variable {s : Spawned} {c : ChatId} {m : Mailbox} {app : AppState}

/-- At boot there are no watchers. -/
theorem agrees_boot (data : StoreData) : (boot data).Agrees where
  stored id c m h := by simp [boot] at h
  watched c m := by cases m <;> simp [boot, handle?, AppState.new, AppState.watcher?]
  fresh id t h := by simp [boot] at h

/-- An adopted mailbox had no watcher, so the handle that is stored overwrites none. -/
theorem Agrees.spawn (h : s.Agrees) (hnone : s.app.watcher? c m = none) (client : Client) :
    Agrees { s.spawn c m with app := s.app.insertWatcher c client m } where
  stored id c' m' hlive := by
    change (s.spawn c m).live[id]? = _ at hlive
    change (s.spawn c m).handle? c' m' = _
    rw [handle?_spawn]
    rw [live_spawn] at hlive
    split at hlive
    case isTrue hid =>
      cases hlive
      rw [if_pos ⟨rfl, rfl⟩, hid]
    case isFalse =>
      -- a live watcher of this mailbox would have a handle, but there is none
      have hstored := h.stored id c' m' hlive
      rw [if_neg, hstored]
      rintro ⟨rfl, rfl⟩
      have hwatched := h.watched c m
      rw [hstored, hnone] at hwatched
      cases hwatched
  watched c' m' := by
    change ((s.spawn c m).handle? c' m').isSome = _
    rw [handle?_spawn, AppState.watcher?_insertWatcher]
    split
    · rfl
    · exact h.watched c' m'
  fresh id t hlive := by
    change (s.spawn c m).live[id]? = _ at hlive
    change id < s.next + 1
    rw [live_spawn] at hlive
    split at hlive
    case isTrue hid => omega
    case isFalse =>
      have := h.fresh id t hlive
      omega

/-- The handles that are removed are those of the watchers that are aborted. -/
theorem Agrees.abort (h : s.Agrees) {watchers : Watchers} {p : ChatId × String → Bool}
    (happ : ∀ (c : ChatId) (m : Mailbox), app.watcher? c m =
      if m.watchers = watchers ∧ p (c, m.id) = true then none else s.app.watcher? c m) :
    Agrees { s.abort watchers p with app := app } where
  stored id c m hlive := by
    change (s.abort watchers p).live[id]? = _ at hlive
    change (s.abort watchers p).handle? c m = _
    obtain ⟨hlive, hkeys⟩ := live_abort.mp hlive
    have hstored := h.stored id c m hlive
    rw [handle?_abort, if_neg, hstored]
    rintro ⟨rfl, hp⟩
    rw [hkeys (c, m.id) hstored] at hp
    cases hp
  watched c m := by
    change ((s.abort watchers p).handle? c m).isSome = _
    rw [handle?_abort, happ]
    split
    · rfl
    · exact h.watched c m
  fresh id t hlive := h.fresh id t (live_abort.mp hlive).1

/-- What leaves the watchers alone. -/
theorem Agrees.congr (h : s.Agrees) (happ : ∀ (c : ChatId) (m : Mailbox),
    app.watcher? c m = s.app.watcher? c m) : Agrees { s with app := app } where
  stored := h.stored
  watched c m := (h.watched c m).trans (congrArg Option.isSome (happ c m)).symm
  fresh := h.fresh

/-- A watcher that finishes leaves its handle behind. -/
theorem Agrees.finish (h : s.Agrees) (id : ℕ) (t : ChatId × Mailbox) : (s.finish id t).Agrees where
  stored id' c m hlive := by
    rw [Spawned.finish, Map.getElem?_erase] at hlive
    split at hlive
    · cases hlive
    · exact h.stored id' c m hlive
  watched c m := by
    rw [Spawned.finish, AppState.watcher?_withHealth]
    exact h.watched c m
  fresh id' t' hlive := by
    rw [Spawned.finish, Map.getElem?_erase] at hlive
    split at hlive
    · cases hlive
    · exact h.fresh id' t' hlive

end Spawned

/-- What an instruction of a chat does to the watchers. -/
inductive Effect (s : Spawned) (c : ChatId) (instr : Instr) : Spawned → Prop where
  | start (m : Mailbox) (client : Client) (h : instr.starts = some m) :
    Effect s c instr { s.spawn c m with app := s.app.insertWatcher c client m }
  | stop (watchers : Watchers) (p : ChatId × String → Bool) (app : AppState)
    (hstops : ∀ m, instr.StopsWatcher m → m.watchers = watchers ∧ p (c, m.id) = true)
    (happ : ∀ (c : ChatId) (m : Mailbox), app.watcher? c m =
      if m.watchers = watchers ∧ p (c, m.id) = true then none else s.app.watcher? c m) :
    Effect s c instr { s.abort watchers p with app := app }
  | quiet (app : AppState) (hstops : ∀ m, ¬instr.StopsWatcher m)
    (happ : ∀ (c : ChatId) (m : Mailbox), app.watcher? c m = s.app.watcher? c m) :
    Effect s c instr { s with app := app }

section

variable {s s' : Spawned} {c c' : ChatId} {m : Mailbox} {instr : Instr}

/-- What an instruction of a chat does to the watchers. -/
theorem Spawned.exec_effect (config : Config) (lib : Externals) (s : Spawned) (answer : Answer)
    (c : ChatId) (instr : Instr) :
    Effect s c instr (s.exec config lib answer (c, instr)).1 := by
  cases instr with
  | insertWatcher m client => exact .start m client rfl
  | removeWatcher m =>
    refine .stop m.watchers (fun key => key == (c, m.id)) _ ?_ fun c' m' => ?_
    · rintro m' rfl
      exact ⟨rfl, beq_self_eq_true _⟩
    · have hkey : (c = c' ∧ m = m') ↔
          m'.watchers = m.watchers ∧ ((c', m'.id) == (c, m.id)) = true := by
        rw [Mailbox.eq_iff, beq_iff_eq, Prod.mk.injEq]
        exact ⟨fun ⟨hc, hw, hm⟩ => ⟨hw.symm, hc.symm, hm.symm⟩,
          fun ⟨hw, hc, hm⟩ => ⟨hc.symm, hw.symm, hm.symm⟩⟩
      rw [Instr.exec, AppState.watcher?_removeWatcher]
      simp only [hkey]
  | removeAccountWatchers =>
    refine .stop .account (fun key => key.1 == c) _ (fun m' h => ⟨h, beq_self_eq_true _⟩)
      fun c' m' => ?_
    rw [Instr.exec, AppState.watcher?_removeAccountWatchers]
    simp only [beq_iff_eq]
  | removeSharedWatchers =>
    refine .stop .shared (fun key => key.1 == c) _ (fun m' h => ⟨h, beq_self_eq_true _⟩)
      fun c' m' => ?_
    rw [Instr.exec, AppState.watcher?_removeSharedWatchers]
    simp only [beq_iff_eq]
  -- the other instructions keep all watchers
  | storeCheck t =>
    refine .quiet _ (fun m h => h) fun c' m' => ?_
    rw [Instr.exec]
    split
    · rfl
    · exact AppState.watcher?_withHealth _
  | insertClient m client =>
    exact .quiet _ (fun m h => h) fun c' m' => AppState.watcher?_insertClient
  | removeClient m => exact .quiet _ (fun m h => h) fun c' m' => AppState.watcher?_removeClient
  | setTopic m =>
    refine .quiet _ (fun m h => h) fun c' m' => ?_
    obtain ⟨data, heq⟩ := setTopic_eq lib c s.app answer.created m
    rw [Instr.exec, heq, AppState.watcher?_withData]
  | spawn m => exact .quiet _ (fun m h => h) fun c' m' => AppState.watcher?_withHealth _
  | deregister m => exact .quiet _ (fun m h => h) fun c' m' => AppState.watcher?_withHealth _
  | deregisterChat => exact .quiet _ (fun m h => h) fun c' m' => AppState.watcher?_withHealth _
  | call op => exact .quiet _ (fun m h => h) fun c' m' => AppState.watcher?_withData _
  | eraseChat chatId => exact .quiet _ (fun m h => h) fun c' m' => AppState.watcher?_withData _
  | dropUndo | removeAccountClients | removeSharedClients =>
    exact .quiet _ (fun m h => h) fun c' m' => by cases m' <;> rfl
  | slotAdopted t | connect t | awaitConnect t | lockWatchers m client | ensureTopic m
  | unlockWatchers m | forgetChildren slotId =>
    exact .quiet _ (fun m h => h) fun c' m' => rfl

/-- An instruction keeps handles and watchers in agreement. -/
theorem Effect.agrees (h : Effect s c instr s') (hagrees : s.Agrees)
    (hfree : ∀ m, instr.starts = some m → s.app.watcher? c m = none) : s'.Agrees := by
  cases h with
  | start m client hstarts => exact hagrees.spawn (hfree m hstarts) client
  | stop watchers p app hstops happ => exact hagrees.abort happ
  | quiet app hstops happ => exact hagrees.congr happ

/-- A mailbox without a watcher gets one from an instruction that starts it, of its own chat. -/
theorem Effect.watcher?_eq_none (h : Effect s c instr s') (hnone : s.app.watcher? c' m = none)
    (hother : c = c' → instr.starts ≠ some m) : s'.app.watcher? c' m = none := by
  cases h with
  | start m' client hstarts =>
    change (s.app.insertWatcher c client m').watcher? c' m = none
    rw [AppState.watcher?_insertWatcher, if_neg, hnone]
    rintro ⟨hc, rfl⟩
    exact hother hc hstarts
  | stop watchers p app hstops happ =>
    change app.watcher? c' m = none
    rw [happ, hnone, ite_self]
  | quiet app hstops happ => exact (happ c' m).trans hnone

/-- After a watcher is stopped, no live watcher follows its mailbox. -/
theorem Effect.not_live (h : Effect s c instr s') (hagrees : s.Agrees)
    (hstops : instr.StopsWatcher m) (id : ℕ) : s'.live[id]? ≠ some (c, m) := by
  cases h with
  | start m' client hstarts =>
    rw [hstops.starts] at hstarts
    cases hstarts
  | stop watchers p app hall happ =>
    intro hlive
    change (s.abort watchers p).live[id]? = _ at hlive
    obtain ⟨hbefore, hkeys⟩ := Spawned.live_abort.mp hlive
    obtain ⟨rfl, hp⟩ := hall m hstops
    rw [hkeys (c, m.id) (hagrees.stored id c m hbefore)] at hp
    cases hp
  | quiet app hnone happ => exact (hnone m hstops).elim

end

/-! ### Every run -/

/-- What every reachable state satisfies. -/
structure Guarded (w : Watching) : Prop where
  agrees : w.state.Agrees
  inTask : ∀ program ∈ w.tasks, InTask program
  exclusive : Exclusive (fun i : ChatId × Instr => i.2.unlocks) w.tasks
  unwatched : ∀ program ∈ w.tasks, ∀ (c : ChatId) (m : Mailbox), Starts c m program →
    w.state.app.watcher? c m = none

/-- The instructions outside of `adopt_*` hold no lock. -/
theorem guarded_boot {tasks : List (List (ChatId × Instr))} (data : StoreData)
    (h : ∀ program ∈ tasks, ∀ i ∈ program, i.2.Entry) :
    Guarded ⟨Spawned.boot data, tasks⟩ where
  agrees := Spawned.agrees_boot data
  inTask program hprogram := .idle (h program hprogram)
  exclusive := .of_forall fun program hprogram i hi => (h program hprogram i hi).unlocks
  unwatched program hprogram _ _ hstarts :=
    (not_starts_of_entry (h program hprogram) hstarts).elim

section

variable {config : Config} {lib : Externals} {w w' : Watching}

/-- Only the check of `adopt_*` brings the release of a lock into a program. -/
theorem locks_of_holds {answer : Answer} {i : ChatId × Instr} {s : Spawned} {watchers : Watchers}
    (h : HoldsWatchers watchers (s.exec config lib answer i).2) : i.2.locks = some watchers := by
  obtain ⟨j, hj, hunlocks⟩ := h
  obtain ⟨instr, hinstr, rfl⟩ := List.mem_map.mp hj
  by_cases hentry : i.2.Entry
  · rcases hentry.exec config lib i.1 answer s.app with hnext | ⟨m, client, heq, -, hexec⟩
    · dsimp only at hunlocks
      rw [(hnext instr hinstr).unlocks] at hunlocks
      cases hunlocks
    · rw [hexec] at hinstr
      rw [heq]
      simp only [Instr.adopt, List.mem_cons, List.not_mem_nil, or_false] at hinstr
      rcases hinstr with rfl | rfl | rfl | rfl | rfl <;> cases hunlocks
      rfl
  -- inside `adopt_*` no instruction brings the release
  · obtain ⟨c, instr'⟩ := i
    cases instr' with
    | ensureTopic m =>
      rw [Instr.exec] at hinstr
      dsimp only at hinstr
      split at hinstr
      · cases List.mem_singleton.mp hinstr
        cases hunlocks
      · cases hinstr
    | insertClient | spawn | insertWatcher | setTopic | unlockWatchers => cases hinstr
    | _ => exact (hentry trivial).elim

/-- An instruction that takes a lock waits for every task that holds it. -/
theorem not_holds_of_not_blocked {tasks : List (List (ChatId × Instr))} {i : ChatId × Instr}
    {watchers : Watchers} (hlocks : i.2.locks = some watchers)
    (hfree : Spawned.blocked tasks i = false) {program : List (ChatId × Instr)}
    (hprogram : program ∈ tasks) : ¬HoldsWatchers watchers program := by
  rintro ⟨j, hj, hunlocks⟩
  rw [Spawned.blocked, Instr.blocked, hlocks, Option.any_some, ← Bool.not_eq_true,
    List.any_eq_true] at hfree
  refine hfree ⟨program.map Prod.snd, List.mem_map_of_mem hprogram, ?_⟩
  rw [List.any_map, List.any_eq_true]
  exact ⟨j, hj, beq_iff_eq.mpr hunlocks⟩

/-- The step of a task keeps the invariant. -/
theorem Guarded.step_task (h : Guarded w) {e : ℕ × Answer}
    (hstep : System.step Spawned.blocked (Spawned.exec config lib) w e = some w') :
    Guarded w' := by
  have hwaits : ∀ (i : ChatId × Instr) (l : Watchers), i.2.locks = some l →
      Spawned.blocked w.tasks i = false → ∀ p ∈ w.tasks, ¬HoldsWatchers l p :=
    fun i l hlocks hfree p hp => not_holds_of_not_blocked hlocks hfree hp
  have hexclusive := h.exclusive.step hwaits (fun _ _ _ _ => locks_of_holds) hstep
  obtain ⟨⟨c, instr⟩, rest, htask, -, rfl⟩ := System.step_eq_some_iff.mp hstep
  have hmem : (c, instr) :: rest ∈ w.tasks := List.mem_of_getElem? htask
  have hfree : ∀ m, instr.starts = some m → w.state.app.watcher? c m = none := fun m hstarts =>
    h.unwatched _ hmem c m (starts_cons.mpr ⟨rfl, hstarts⟩)
  have heffect := w.state.exec_effect config lib e.2 c instr
  obtain ⟨hinTask, hunwatched⟩ := (h.inTask _ hmem).step config lib e.2 (h.unwatched _ hmem)
  refine ⟨heffect.agrees h.agrees hfree, fun program hprogram => ?_, hexclusive,
    fun program hprogram c' m hstarts => ?_⟩
  · rcases List.mem_or_eq_of_mem_set hprogram with hold | rfl
    · exact h.inTask program hold
    · exact hinTask
  · obtain ⟨j, hj⟩ := List.getElem?_of_mem hprogram
    dsimp only at hj
    rcases eq_or_ne e.1 j with rfl | hne
    · rw [List.getElem?_set_self', htask] at hj
      cases hj
      exact hunwatched c' m hstarts
    · rw [List.getElem?_set_ne hne] at hj
      -- another task that is about to start this watcher would hold the same lock
      refine heffect.watcher?_eq_none
        (h.unwatched program (List.mem_of_getElem? hj) c' m hstarts) ?_
      rintro rfl hsame
      have hself : Starts c m ((c, instr) :: rest) := starts_cons.mpr ⟨rfl, hsame⟩
      exact hne (h.exclusive m.watchers e.1 j _ _ htask hj
        ((h.inTask _ hmem).holdsWatchers hself)
        ((h.inTask _ (List.mem_of_getElem? hj)).holdsWatchers hstarts))

/-- Every event keeps the invariant. -/
theorem Guarded.step (h : Guarded w) {event : WatchEvent}
    (hstep : Watching.step config lib w event = some w') : Guarded w' := by
  cases event with
  | step i answer => exact h.step_task hstep
  | finish id =>
    rw [Watching.step, Option.map_eq_some_iff] at hstep
    obtain ⟨t, -, rfl⟩ := hstep
    refine ⟨h.agrees.finish id t, h.inTask, h.exclusive, fun program hprogram c m hstarts => ?_⟩
    rw [Spawned.finish, AppState.watcher?_withHealth]
    exact h.unwatched program hprogram c m hstarts

/-- The invariant holds after every run from the boot. -/
theorem guarded_run {tasks : List (List (ChatId × Instr))} {data : StoreData}
    (htasks : ∀ program ∈ tasks, ∀ i ∈ program, i.2.Entry) {events : List WatchEvent}
    (hrun : run (Watching.step config lib) ⟨Spawned.boot data, tasks⟩ events = some w) :
    Guarded w :=
  run_induction Guarded (fun _ _ _ h hstep => h.step hstep) (guarded_boot data htasks) hrun

/-- Stopping a watcher leaves no live one of its mailbox. -/
theorem Guarded.not_live (h : Guarded w) {i : ℕ} {answer : Answer} {c : ChatId} {m : Mailbox}
    {instr : Instr} {rest : List (ChatId × Instr)} (htask : w.tasks[i]? = some ((c, instr) :: rest))
    (hstops : instr.StopsWatcher m)
    (hstep : Watching.step config lib w (.step i answer) = some w') (id : ℕ) :
    w'.state.live[id]? ≠ some (c, m) := by
  obtain ⟨instr', rest', htask', -, rfl⟩ := System.step_eq_some_iff.mp hstep
  cases htask.symm.trans htask'
  exact (w.state.exec_effect config lib answer c instr).not_live h.agrees hstops id

/-- **At most one live watcher for each mailbox**, in every run from the boot: its handle is stored
under its own key, and the next forget stops it. -/
theorem handle_of_live (config : Config) (lib : Externals) (data : StoreData)
    (tasks : List (List (ChatId × Instr))) (events : List WatchEvent) (w : Watching)
    (htasks : ∀ program ∈ tasks, ∀ i ∈ program, i.2.Entry)
    (hrun : run (Watching.step config lib) ⟨Spawned.boot data, tasks⟩ events = some w) :
    (∀ (id : ℕ) (c : ChatId) (m : Mailbox), w.state.live[id]? = some (c, m) →
      w.state.handle? c m = some id) ∧
    (∀ (id id' : ℕ) (t : ChatId × Mailbox), w.state.live[id]? = some t →
      w.state.live[id']? = some t → id = id') ∧
    ∀ (i : ℕ) (answer : Answer) (c : ChatId) (instr : Instr) (rest : List (ChatId × Instr))
      (m : Mailbox) (w' : Watching), w.tasks[i]? = some ((c, instr) :: rest) →
      instr.StopsWatcher m → Watching.step config lib w (.step i answer) = some w' →
      ∀ id : ℕ, w'.state.live[id]? ≠ some (c, m) := by
  have h := guarded_run htasks hrun
  refine ⟨h.agrees.stored, fun id id' t hlive hlive' => ?_,
    fun i answer c instr rest m w' htask hstops hstep => h.not_live htask hstops hstep⟩
  exact Option.some.inj ((h.agrees.stored id t.1 t.2 hlive).symm.trans
    (h.agrees.stored id' t.1 t.2 hlive'))

end

/-- A login and a boot resume that adopt the same slot, and a logout. -/
def twoAdopts : List (List (ChatId × Instr)) :=
  [[(1, .lockWatchers (.account "default") ⟨"https://mail", "token", none⟩)],
    [(1, .lockWatchers (.account "default") ⟨"https://mail", "token", none⟩)],
    (Instr.forget (.account "default")).map (Prod.mk 1)]

/-- The first adopt runs to its end, and the second finds its watcher. -/
def secondAdopt : Execution (Watching.step ⟨.auto, .parent⟩ Externals.concrete)
    ⟨Spawned.boot oneSlotData, twoAdopts⟩ :=
  ⟨[.step 0 noAnswer, .step 0 noAnswer, .step 0 noAnswer, .step 0 noAnswer, .step 0 noAnswer,
    .step 0 noAnswer, .step 0 noAnswer, .step 1 noAnswer], by decide⟩

theorem handle_of_live_secondAdopt :
    secondAdopt.final.state.live[0]? = some (1, .account "default") ∧
      secondAdopt.final.state.handle? 1 (.account "default") = some 0 := by
  have hlive : secondAdopt.final.state.live[0]? = some (1, .account "default") := by decide
  exact ⟨hlive, (handle_of_live _ _ _ _ _ _ (by decide) secondAdopt.run_events).1 0 1 _ hlive⟩

end Jmap2Telegram
