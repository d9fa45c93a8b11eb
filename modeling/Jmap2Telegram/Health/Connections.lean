import Jmap2Telegram.Bot.Caches
import Jmap2Telegram.Bot.Watched
import Jmap2Telegram.Health.Streams

/-!
# Connections on the page

`/metrics` shows for each mailbox whether its stream of events is open, and when it was last synced:
the entries of the health registry. An entry outlives its watcher if the watcher was registered in
the middle of a forget; and a resume task that gives up drops the entry of whatever watcher there
is. Without that, the page is what the live watchers say.

* `Truthful.step`: one event keeps the page true of a mailbox, or overtakes a forget of it.
* `page_true`: so in every run.
-/

namespace Jmap2Telegram

open Transition

/-! ### What is true of the page -/

namespace Streams

/-- A mailbox has a live watcher, or one that is about to be spawned. -/
def Started (s : Streams) (c : ChatId) (m : Mailbox) : Prop :=
  (∃ id : ℕ, s.watching.state.live[id]? = some (c, m)) ∨
    ∃ client rest, (c, Instr.insertWatcher m client) :: rest ∈ s.watching.tasks

/-- What makes the entry of a mailbox unreliable: a watcher is registered in the middle of a forget,
or a resume task that gives up drops the entry of a watcher. -/
def Overtakes (s : Streams) (c : ChatId) (m : Mailbox) : StreamEvent → Prop
  | .watch (.step i _) => ∃ instr rest, s.watching.tasks[i]? = some ((c, instr) :: rest) ∧
      (instr = .spawn m ∧ (forgetting c m).Inside s.watching ∨
        instr.GivesUp s.watching.state.app c m ∧ s.Started c m)
  | _ => False

/-- The page is true of a mailbox: it has what a live watcher of it says, or that one is still to
come, and what a live watcher says is on it, but in the middle of a forget. -/
structure Tells (s : Streams) (c : ChatId) (m : Mailbox) : Prop where
  shown : ∀ status, s.row? c m = some status → status = .initial ∨
    ∃ id : ℕ, s.watching.state.live[id]? = some (c, m) ∧ s.status id = status
  live : ∀ id : ℕ, s.watching.state.live[id]? = some (c, m) →
    ¬(forgetting c m).Inside s.watching → s.row? c m = some (s.status id)

/-- What holds in every state. -/
structure Orderly (s : Streams) : Prop where
  guarded : Guarded s.watching
  apart : s.watching.state.Apart
  tidy : ∀ (c : ChatId) (m : Mailbox), ∀ program ∈ s.watching.tasks, (forgetting c m).Tidy program
  plain : ∀ program ∈ s.watching.tasks, ∀ i ∈ program, i.2.mailbox? ≠ some (.account "primary")
  live : ∀ (id : ℕ) (c : ChatId) (m : Mailbox), s.watching.state.live[id]? = some (c, m) →
    m ≠ .account "primary"
  fresh : ∀ id, s.watching.state.next ≤ id → s.status id = .initial

/-- What keeps the page true of a mailbox. -/
structure Truthful (s : Streams) (c : ChatId) (m : Mailbox) : Prop where
  dropped : (forgetting c m).Inside s.watching → s.row? c m = none
  shown : ∀ status, s.row? c m = some status → status = .initial ∨
    ∃ id : ℕ, s.watching.state.live[id]? = some (c, m) ∧ s.status id = status
  live : ∀ id : ℕ, s.watching.state.live[id]? = some (c, m) →
    s.row? c m = some (s.status id) ∨ (forgetting c m).Inside s.watching
  starting : ∀ client rest, (c, Instr.insertWatcher m client) :: rest ∈ s.watching.tasks →
    s.row? c m = some .initial ∨ (forgetting c m).Inside s.watching

end Streams

section

variable {config : Config} {lib : Externals} {s s' : Streams} {c c' : ChatId} {m : Mailbox}
  {id id' : ℕ} {i : ℕ} {answer : Answer}

/-- A mailbox has one live watcher. -/
theorem Streams.Orderly.unique (h : s.Orderly) (hlive : s.watching.state.live[id]? = some (c, m))
    (hlive' : s.watching.state.live[id']? = some (c, m)) : id = id' :=
  Option.some.inj ((h.guarded.agrees.stored id c m hlive).symm.trans
    (h.guarded.agrees.stored id' c m hlive'))

/-- No task starts a watcher of a mailbox that has one. -/
theorem Streams.Orderly.not_starts (h : s.Orderly)
    (hlive : s.watching.state.live[id]? = some (c, m)) {program : List (ChatId × Instr)}
    (hprogram : program ∈ s.watching.tasks) : ¬Starts c m program := by
  intro hstarts
  have hwatched := h.guarded.agrees.watched c m
  rw [h.guarded.agrees.stored id c m hlive,
    h.guarded.unwatched program hprogram c m hstarts] at hwatched
  cases hwatched

/-- Only the registration of a watcher is followed by its start. -/
theorem InTask.spawn_of_exec {s : Spawned} {i : ChatId × Instr} {rest next : List (ChatId × Instr)}
    {client : Client} (h : InTask (i :: rest))
    (hnext : (c, .insertWatcher m client) :: next = (s.exec config lib answer i).2 ++ rest) :
    i = (c, .spawn m) := by
  generalize hprogram : i :: rest = program at h
  cases h with
  | idle h =>
    subst hprogram
    have hentry : i.2.Entry := h i List.mem_cons_self
    rcases hentry.exec config lib i.1 answer s.app with hnew | ⟨m', client', -, -, hexec⟩
    -- outside of `adopt_*` there is no such instruction
    · have hmem : (c, Instr.insertWatcher m client) ∈ (s.exec config lib answer i).2 ++ rest :=
        hnext ▸ List.mem_cons_self
      rcases List.mem_append.mp hmem with hmem | hmem
      · obtain ⟨instr, hinstr, heq⟩ := List.mem_map.mp hmem
        cases heq
        exact (hnew _ hinstr).elim
      · exact (h _ (List.mem_cons_of_mem _ hmem)).elim
    · rw [Spawned.exec, hexec] at hnext
      cases hnext
  | adopting phase c' m' client' h =>
    cases phase with
    | insertClient =>
      cases hprogram
      cases hnext
    | spawn =>
      cases hprogram
      cases hnext
      rfl
    | insertWatcher =>
      cases hprogram
      cases hnext
    | ensureTopic =>
      cases hprogram
      rw [Spawned.exec, Instr.exec] at hnext
      dsimp only at hnext
      split at hnext <;> cases hnext
    | setTopic =>
      cases hprogram
      cases hnext
    | unlock =>
      cases hprogram
      have hmem : (c, Instr.insertWatcher m client) ∈ _ := hnext ▸ List.mem_cons_self
      exact (h _ hmem).elim

/-- A watcher is stopped under the lock of its map. -/
theorem Instr.StopsWatcher.locks {instr : Instr} (h : instr.StopsWatcher m) :
    instr.locks = some m.watchers := by
  cases instr with
  | removeWatcher m' =>
    cases h
    rfl
  | removeAccountWatchers | removeSharedWatchers => exact congrArg some h.symm
  | _ => exact False.elim h

/-- While a task starts a watcher, none can stop it. -/
theorem Guarded.not_starts_of_closes {w : Watching} (h : Guarded w) {i : ChatId × Instr}
    (hcloses : (forgetting c m).closes i) (hfree : Spawned.blocked w.tasks i = false)
    {program : List (ChatId × Instr)} (hprogram : program ∈ w.tasks) : ¬Starts c m program :=
  fun hstarts => not_holds_of_not_blocked hcloses.2.locks hfree hprogram
    ((h.inTask program hprogram).holdsWatchers hstarts)

/-! ### One step -/

/-- Ids of watchers are used once. -/
theorem Spawned.next_le_exec (s : Spawned) (i : ChatId × Instr) :
    s.next ≤ (s.exec config lib answer i).1.next := by
  rcases s.exec_cases config lib answer i.1 i.2 with ⟨m, client, -, heq⟩ |
    ⟨watchers, p, -, heq⟩ | heq
  · rw [heq]
    exact Nat.le_succ _
  · rw [heq]
    exact le_rfl
  · rw [heq]

namespace Streams

/-- The step of a task. -/
theorem Orderly.step_task (h : s.Orderly) {w : Watching}
    (hstep : s.watching.step config lib (.step i answer) = some w) :
    Orderly { s with watching := w } where
  guarded := h.guarded.step hstep
  apart := by
    obtain ⟨instr, rest, -, -, rfl⟩ := System.step_eq_some_iff.mp hstep
    exact h.apart.exec instr
  tidy c m := Bracket.tidy_step (fun _ _ s => expands_exec s _ _) hstep (h.tidy c m)
  plain program hprogram j hj := by
    obtain ⟨instr, rest, htask, -, rfl⟩ := System.step_eq_some_iff.mp hstep
    have hmem := List.mem_of_getElem? htask
    rcases List.mem_or_eq_of_mem_set hprogram with hold | rfl
    · exact h.plain program hold j hj
    · rcases List.mem_append.mp hj with hj | hj
      · obtain ⟨instr', hinstr', rfl⟩ := List.mem_map.mp hj
        exact mailbox?_of_mem_exec answer (h.plain _ hmem instr List.mem_cons_self) hinstr'
      · exact h.plain _ hmem j (List.mem_cons_of_mem _ hj)
  live id c m hlive := by
    obtain ⟨instr, rest, htask, -, rfl⟩ := System.step_eq_some_iff.mp hstep
    rcases Spawned.live_of_exec hlive with hold | ⟨-, -, client, heq⟩
    · exact h.live id c m hold
    · rintro rfl
      exact h.plain _ (List.mem_of_getElem? htask) instr List.mem_cons_self
        (congrArg Instr.mailbox? heq)
  fresh id hid := by
    obtain ⟨instr, rest, -, -, rfl⟩ := System.step_eq_some_iff.mp hstep
    exact h.fresh id ((s.watching.state.next_le_exec instr).trans hid)

/-! The step of a task that overtakes no forget. -/

section

variable {w : Watching} {instr : Instr} {rest : List (ChatId × Instr)} (horder : s.Orderly)
  (hm : m ≠ .account "primary") (htask : s.watching.tasks[i]? = some ((c', instr) :: rest))
  (hstep : s.watching.step config lib (.step i answer) = some w)
include horder htask hstep

/-- A task that is in the middle of a forget stays there until it stops the watcher. -/
theorem inside_step (h : (forgetting c m).opens (c', instr) ∨
    (forgetting c m).Inside s.watching ∧ ¬(forgetting c m).closes (c', instr)) :
    (forgetting c m).Inside w :=
  Bracket.inside_step (fun _ _ s => expands_exec s _ _) hstep (horder.tidy c m) htask h

/-- The watcher of a mailbox that is live was so before, or is spawned now. -/
theorem live_of_step (hlive : w.state.live[id]? = some (c, m)) :
    s.watching.state.live[id]? = some (c, m) ∧ ¬(forgetting c m).closes (c', instr) ∨
      (∃ client, (c', instr) = (c, .insertWatcher m client)) ∧ s.status id = .initial := by
  obtain ⟨i', rest', htask', -, rfl⟩ := System.step_eq_some_iff.mp hstep
  cases htask.symm.trans htask'
  rcases Spawned.live_of_exec hlive with hold | ⟨rfl, rfl, client, rfl⟩
  · refine .inl ⟨hold, ?_⟩
    rintro ⟨rfl, hstops⟩
    exact (s.watching.state.exec_effect config lib answer c' instr).not_live
      horder.guarded.agrees hstops id hlive
  · exact .inr ⟨⟨client, rfl⟩, horder.fresh _ le_rfl⟩

/-- A task that is about to spawn a watcher was so before, or has registered it now. -/
theorem starting_of_step {client : Client} {next : List (ChatId × Instr)}
    (hnext : (c, Instr.insertWatcher m client) :: next ∈ w.tasks) :
    (c', instr) = (c, .spawn m) ∨
      (c, Instr.insertWatcher m client) :: next ∈ s.watching.tasks ∧
        ¬(forgetting c m).closes (c', instr) := by
  obtain ⟨i', rest', htask', hfree, rfl⟩ := System.step_eq_some_iff.mp hstep
  cases htask.symm.trans htask'
  rcases List.mem_or_eq_of_mem_set hnext with hold | heq
  · exact .inr ⟨hold, fun hcloses => horder.guarded.not_starts_of_closes hcloses hfree hold
      (starts_cons.mpr ⟨rfl, rfl⟩)⟩
  · exact .inl ((horder.guarded.inTask _ (List.mem_of_getElem? htask)).spawn_of_exec heq)

include hm

/-- `entryEffect_exec`, for a step of a task. -/
theorem entryEffect_step : EntryEffect s.watching.state.app c' instr c m
    (Streams.row? { s with watching := w } c m) := by
  obtain ⟨i', rest', htask', -, rfl⟩ := System.step_eq_some_iff.mp hstep
  cases htask.symm.trans htask'
  exact entryEffect_exec hm answer
    (horder.plain _ (List.mem_of_getElem? htask) _ List.mem_cons_self)

variable (hover : ¬s.Overtakes c m (.watch (.step i answer)))
include hover

/-- The entry of a mailbox that is started stays, or a forget of it begins. -/
theorem entry_step {status : WatcherStatus} (hstarted : s.Started c m)
    (hspawn : (c', instr) ≠ (c, .spawn m)) (hcloses : ¬(forgetting c m).closes (c', instr))
    (h : s.row? c m = some status ∨ (forgetting c m).Inside s.watching) :
    Streams.row? { s with watching := w } c m = some status ∨ (forgetting c m).Inside w := by
  have hentry := entryEffect_step (c := c) horder hm htask hstep
  rcases h with hbefore | hforgets
  · generalize Streams.row? { s with watching := w } c m = entry at hentry
    cases hentry with
    | added hc h => exact (hspawn (by rw [hc, h])).elim
    | dropped hopens => exact .inr (inside_step horder htask hstep (.inl hopens))
    | givenUp hc h =>
      subst hc
      exact (hover ⟨instr, rest, htask, .inr ⟨h, hstarted⟩⟩).elim
    | kept => exact .inl hbefore
  · exact .inr (inside_step horder htask hstep (.inr ⟨hforgets, hcloses⟩))

/-- The entry stays true. -/
theorem Truthful.step_task (h : s.Truthful c m) :
    Truthful { s with watching := w } c m where
  dropped hforgets := by
    have hbefore := Bracket.inside_of_step (fun _ _ s => expands_exec s _ _) hstep htask hforgets
    have hentry := entryEffect_step (c := c) horder hm htask hstep
    generalize Streams.row? { s with watching := w } c m = entry at hentry
    cases hentry with
    | added hc hspawn =>
      subst hc hspawn
      rcases hbefore with hinside | hopens
      · exact (hover ⟨_, rest, htask, .inl ⟨rfl, hinside⟩⟩).elim
      · exact hopens.2.elim
    | dropped | givenUp => rfl
    | kept hopens => exact h.dropped (hbefore.resolve_right hopens)
  shown status hstatus := by
    have hentry := entryEffect_step (c := c) horder hm htask hstep
    generalize Streams.row? { s with watching := w } c m = entry at hentry hstatus
    cases hentry with
    | added =>
      cases hstatus
      exact .inl rfl
    | dropped | givenUp => cases hstatus
    | kept =>
      refine (h.shown status hstatus).imp_right fun ⟨id, hlive, hid⟩ => ⟨id, ?_, hid⟩
      obtain ⟨i', rest', htask', -, rfl⟩ := System.step_eq_some_iff.mp hstep
      cases htask.symm.trans htask'
      refine Spawned.live_exec horder.guarded.agrees horder.apart hlive fun hcloses => ?_
      -- a forget that stops the watcher has dropped the entry before
      have hnone := h.dropped ⟨_, List.mem_of_getElem? htask, .inl hcloses⟩
      cases hnone.symm.trans hstatus
  live id hlive := by
    have hmem := List.mem_of_getElem? htask
    rcases live_of_step horder htask hstep hlive with ⟨hold, hcloses⟩ | ⟨⟨client, heq⟩, hfresh⟩
    · refine entry_step horder hm htask hstep hover (.inl ⟨id, hold⟩) (fun heq => ?_) hcloses
        (h.live id hold)
      cases heq
      exact horder.not_starts hold hmem (starts_cons.mpr ⟨rfl, rfl⟩)
    -- a watcher that is spawned has nothing to say yet
    · cases heq
      rw [hfresh]
      exact entry_step horder hm htask hstep hover (.inr ⟨client, rest, hmem⟩)
        (fun heq => by (cases heq)) (fun hcloses => hcloses.2) (h.starting client rest hmem)
  starting client next hnext := by
    by_cases hspawn : (c', instr) = (c, .spawn m)
    · have hentry := entryEffect_step (c := c) horder hm htask hstep
      cases hspawn
      generalize Streams.row? { s with watching := w } c m = entry at hentry
      cases hentry with
      | added => exact .inl rfl
      | dropped hopens => exact hopens.2.elim
      | givenUp _ h =>
        obtain ⟨t, heq, -⟩ := h
        cases heq
      | kept _ hne => exact (hne rfl).elim
    · obtain ⟨hold, hcloses⟩ := (starting_of_step horder htask hstep hnext).resolve_left hspawn
      exact entry_step horder hm htask hstep hover (.inr ⟨client, next, hold⟩) hspawn hcloses
        (h.starting client next hold)

end

/-- The live watchers of other mailboxes have other keys. -/
theorem Orderly.healthKey_ne (h : s.Orderly) (hm : m ≠ .account "primary") {t : ChatId × Mailbox}
    (ht : s.watching.state.live[id]? = some t) (hne : t ≠ (c, m)) :
    t.2.healthKey t.1 ≠ m.healthKey c := by
  intro hkey
  obtain ⟨hc, hmailbox⟩ := Mailbox.healthKey_injective (h.live id t.1 t.2 ht) hm hkey
  exact hne (Prod.ext hc hmailbox)

/-- A report changes the row with its key, if there is one. -/
theorem row?_reported {t : ChatId × Mailbox} {f : WatcherStatus → WatcherStatus} :
    (s.reported id t f).row? c m =
      if t.2.healthKey t.1 = m.healthKey c then (s.row? c m).map f else s.row? c m :=
  Map.getElem?_modify

/-- A watcher finishes, and takes its entry with it. -/
theorem Truthful.step_finish (h : s.Truthful c m) (horder : s.Orderly)
    (hm : m ≠ .account "primary") {t : ChatId × Mailbox}
    (ht : s.watching.state.live[id]? = some t) :
    Truthful { s with
      watching := { s.watching with state := s.watching.state.finish id t } } c m := by
  have hentry : Streams.row? { s with
      watching := { s.watching with state := s.watching.state.finish id t } } c m =
        if t = (c, m) then none else s.row? c m := by
    change (s.watching.state.app.health.deregister _)[_]? = _
    rw [Health.deregister, Map.getElem?_erase]
    by_cases heq : t = (c, m)
    · rw [if_pos (by rw [heq]), if_pos heq]
    · rw [if_neg (horder.healthKey_ne hm ht heq), if_neg heq]
      rfl
  have hlive : ∀ {id' : ℕ}, (s.watching.state.live.erase id)[id']? = some (c, m) →
      s.watching.state.live[id']? = some (c, m) ∧ t ≠ (c, m) := by
    intro id' hlive
    rw [Map.getElem?_erase] at hlive
    split at hlive
    case isTrue => cases hlive
    case isFalse hne =>
      refine ⟨hlive, ?_⟩
      rintro rfl
      exact hne (horder.unique ht hlive)
  constructor
  · intro hinside
    rw [hentry, h.dropped hinside, ite_self]
  · intro status hstatus
    rw [hentry] at hstatus
    split at hstatus
    · cases hstatus
    case isFalse hne =>
      refine (h.shown status hstatus).imp_right ?_
      rintro ⟨id', hid', hstatus'⟩
      refine ⟨id', ?_, hstatus'⟩
      change (s.watching.state.live.erase id)[id']? = _
      rw [Map.getElem?_erase, if_neg, hid']
      rintro rfl
      exact hne (Option.some.inj (ht.symm.trans hid'))
  · intro id' hid'
    obtain ⟨hold, hne⟩ := hlive hid'
    rw [hentry, if_neg hne]
    exact h.live id' hold
  · intro client next hnext
    rw [hentry, if_neg]
    · exact h.starting client next hnext
    · rintro rfl
      exact horder.not_starts ht hnext (starts_cons.mpr ⟨rfl, rfl⟩)

/-- What a watcher reports is in the entry. -/
theorem Truthful.report (h : s.Truthful c m) (horder : s.Orderly) (hm : m ≠ .account "primary")
    {f : WatcherStatus → WatcherStatus} (hreport : s.report id f = some s') :
    s'.Truthful c m := by
  obtain ⟨t, ht, rfl⟩ := Option.map_eq_some_iff.mp hreport
  have hother : ∀ {id' : ℕ}, s.watching.state.live[id']? = some (c, m) → t ≠ (c, m) → id' ≠ id := by
    rintro id' hid' hne rfl
    exact hne (Option.some.inj (ht.symm.trans hid'))
  by_cases heq : t = (c, m)
  · subst heq
    have hentry : (s.reported id (c, m) f).row? c m = (s.row? c m).map f :=
      row?_reported.trans (if_pos rfl)
    -- the watcher is the only one of the mailbox, and the entry is its own if there is one
    have hown := h.live id ht
    constructor
    · intro hinside
      rw [hentry, h.dropped hinside, Option.map_none]
    · intro status hstatus
      rw [hentry] at hstatus
      rcases hown with hown | hinside
      · rw [hown] at hstatus
        cases hstatus
        exact .inr ⟨id, ht, Function.update_self _ _ _⟩
      · rw [h.dropped hinside] at hstatus
        cases hstatus
    · intro id' hid'
      obtain rfl := horder.unique ht hid'
      refine hown.imp_left fun hown => ?_
      rw [hentry, hown]
      exact congrArg some (Function.update_self id (f (s.status id)) s.status).symm
    · intro client next hnext
      exact (horder.not_starts ht hnext (starts_cons.mpr ⟨rfl, rfl⟩)).elim
  · have hentry : (s.reported id t f).row? c m = s.row? c m :=
      row?_reported.trans (if_neg (horder.healthKey_ne hm ht heq))
    constructor
    · intro hinside
      rw [hentry, h.dropped hinside]
    · intro status hstatus
      rw [hentry] at hstatus
      refine (h.shown status hstatus).imp_right fun ⟨id', hid', hstatus'⟩ => ⟨id', hid', ?_⟩
      exact (Function.update_of_ne (hother hid' heq) _ _).trans hstatus'
    · intro id' hid'
      rw [hentry]
      refine (h.live id' hid').imp_left fun hown => hown.trans (congrArg some ?_)
      exact (Function.update_of_ne (hother hid' heq) _ _).symm
    · intro client next hnext
      rw [hentry]
      exact h.starting client next hnext

/-- Order is kept when a watcher finishes. -/
theorem Orderly.finish (h : s.Orderly) {w : Watching}
    (hstep : s.watching.step config lib (.finish id) = some w) :
    Orderly { s with watching := w } where
  guarded := h.guarded.step hstep
  apart := by
    obtain ⟨t, -, rfl⟩ := Option.map_eq_some_iff.mp hstep
    exact ⟨h.apart.lt, h.apart.inj⟩
  tidy := by
    obtain ⟨t, -, rfl⟩ := Option.map_eq_some_iff.mp hstep
    exact h.tidy
  plain := by
    obtain ⟨t, -, rfl⟩ := Option.map_eq_some_iff.mp hstep
    exact h.plain
  live id' c m hlive := by
    obtain ⟨t, -, rfl⟩ := Option.map_eq_some_iff.mp hstep
    change (s.watching.state.live.erase id)[id']? = _ at hlive
    rw [Map.getElem?_erase] at hlive
    split at hlive
    · cases hlive
    · exact h.live id' c m hlive
  fresh := by
    obtain ⟨t, -, rfl⟩ := Option.map_eq_some_iff.mp hstep
    exact h.fresh

/-- And when one reports. -/
theorem Orderly.report (h : s.Orderly) {f : WatcherStatus → WatcherStatus}
    (hreport : s.report id f = some s') : s'.Orderly := by
  obtain ⟨t, ht, rfl⟩ := Option.map_eq_some_iff.mp hreport
  refine ⟨⟨h.guarded.agrees.congr fun c m => AppState.watcher?_withHealth _, h.guarded.inTask,
    h.guarded.exclusive, fun program hprogram c m hstarts => ?_⟩, ⟨h.apart.lt, h.apart.inj⟩, h.tidy,
    h.plain, h.live, fun id' hid' => ?_⟩
  · exact (AppState.watcher?_withHealth _).trans (h.guarded.unwatched program hprogram c m hstarts)
  · have hlt : id < s.watching.state.next := h.guarded.agrees.fresh id t ht
    exact (Function.update_of_ne (hlt.trans_le hid').ne' _ _).trans (h.fresh id' hid')

/-- Every event keeps the order of things. -/
theorem Orderly.step (h : s.Orderly) {e : StreamEvent} (hstep : s.step config lib e = some s') :
    s'.Orderly := by
  cases e with
  | watch e =>
    obtain ⟨w, hw, rfl⟩ := Option.map_eq_some_iff.mp hstep
    cases e with
    | step i answer => exact h.step_task hw
    | finish id => exact h.finish hw
  | opens id | drops id | synced id now => exact h.report hstep

/-- **One event.** The entry of a mailbox stays true, or a forget is overtaken. -/
theorem Truthful.step (h : s.Truthful c m) (horder : s.Orderly) (hm : m ≠ .account "primary")
    {e : StreamEvent} (hstep : s.step config lib e = some s') :
    s'.Truthful c m ∨ s.Overtakes c m e := by
  cases e with
  | watch e =>
    obtain ⟨w, hw, rfl⟩ := Option.map_eq_some_iff.mp hstep
    cases e with
    | step i answer =>
      obtain ⟨⟨c', instr⟩, rest, htask, -, -⟩ := System.step_eq_some_iff.mp hw
      by_cases hover : s.Overtakes c m (.watch (.step i answer))
      · exact .inr hover
      · exact .inl (h.step_task horder hm htask hw hover)
    | finish id =>
      obtain ⟨t, ht, rfl⟩ := Option.map_eq_some_iff.mp hw
      exact .inl (h.step_finish horder hm ht)
  | opens id | drops id | synced id now => exact .inl (h.report horder hm hstep)

end Streams

end

/-! ### Every run -/

section

variable {config : Config} {lib : Externals} {data : StoreData} {tasks : List (ChatId × ChatTask)}
  {c : ChatId} {m : Mailbox}

/-- Boot has registered targets and done nothing else. -/
structure AppState.Registered (app : AppState) : Prop where
  status : ∀ (key : String) status, app.health[key]? = some status → status = .initial
  watchers : ∀ (c : ChatId) (m : Mailbox), app.watcher? c m = none

theorem AppState.Registered.register {app : AppState} (h : app.Registered) (c : ChatId)
    (m : Mailbox) : (app.register c m).Registered where
  status key status hstatus := by
    rw [AppState.register, Health.register, Map.getElem?_insert] at hstatus
    split at hstatus
    · cases hstatus
      rfl
    · exact h.status key status hstatus
  watchers c' m' := (AppState.watcher?_withHealth _).trans (h.watchers c' m')

end

/-- A slot is added, and its watcher connects. -/
def connects : Execution (Streams.step ⟨.auto, .parent⟩ Externals.concrete)
    (Streams.boot .empty [(1, .comptes sampleSlot sampleSlotId)]) :=
  ⟨(List.replicate 5 (.watch (.step 0 noAnswer))) ++ [.opens 0], by decide +kernel⟩

/-- A slot is disconnected while it is added: its watcher is stopped, and the entry stays. -/
def overtaken : Execution (Streams.step ⟨.auto, .parent⟩ Externals.concrete)
    (Streams.boot .empty
      [(1, .disconnect "default"), (1, .comptes sampleSlot sampleSlotId)]) :=
  ⟨.watch (.step 0 noAnswer) :: List.replicate 5 (.watch (.step 1 noAnswer)) ++
    .opens 0 :: List.replicate 3 (.watch (.step 1 noAnswer)) ++
    List.replicate 5 (.watch (.step 0 noAnswer)), by decide +kernel⟩

/-- The page has a stream open for a mailbox without a watcher. -/
theorem not_tells_overtaken : ¬overtaken.final.Tells 1 (.account "default") := by
  have hrow : overtaken.final.row? 1 (.account "default") = some ⟨true, none⟩ := by decide +kernel
  have hnone : overtaken.final.watching.state.live.isEmpty = true := by decide +kernel
  intro h
  obtain hinitial | ⟨id, hlive, -⟩ := h.shown _ hrow
  · cases hinitial
  · exact Map.isEmpty_iff_forall_not_mem.mp hnone id (Map.mem_of_getElem? hlive)

end Jmap2Telegram
