import Jmap2Telegram.Resume.Freshness
import Jmap2Telegram.Resume.Targets
import Jmap2Telegram.Resume.Teardown

/-!
# Coming back after a restart

The resume tasks of a chat by themselves, from a restart on, in any order and with any connects
failing. None of them finds its target gone or taken, so each runs until it has started its watcher.

* `Resuming`: where the tasks are, and what each of them has done so far.
* `Resuming.step`, `Resuming.progress`: a step leads on, and there is always one.
* `boot_resumes`: once connects stop failing, boot ends, and everything the store has is watched.
-/

namespace Jmap2Telegram

open Transition

/-! ### One task -/

namespace ResumePhase

/-- Whether `adopt_*` has cached the client. -/
def cached : ResumePhase → Bool
  | spawn | insertWatcher => true
  | phase => phase.watching

/-- How many steps a task has left, if its connect succeeds. -/
def stepsLeft : ResumePhase → ℕ
  | check => 11
  | adopted => 10
  | connect => 9
  | await => 8
  | lock => 7
  | insertClient => 6
  | spawn => 5
  | insertWatcher => 4
  | ensureTopic => 3
  | setTopic => 2
  | unlock => 1
  | done => 0

theorem stepsLeft_le (phase : ResumePhase) : phase.stepsLeft ≤ 11 := by
  cases phase <;> decide

/-- The task that holds the lock needs no other. -/
theorem locks_of_locked {t : ResumeTarget} {phase : ResumePhase} (h : phase.locked = true) :
    ∃ instr rest, phase.program t = instr :: rest ∧ instr.locks = none := by
  cases phase with
  | insertClient | spawn | insertWatcher | ensureTopic | setTopic | unlock =>
    exact ⟨_, _, rfl, rfl⟩
  | check | adopted | connect | await | lock | done => cases h

end ResumePhase

/-- The step is a connect that fails. -/
def Refused (s : System AppState Instr) (e : ℕ × Answer) : Prop :=
  (∃ t rest, s.tasks[e.1]? = some (.awaitConnect t :: rest)) ∧ e.2.connected = false

section

variable {config : Config} {lib : Externals} {chatId : ChatId} {app app' : AppState}
  {t : ResumeTarget} {phase phase' : ResumePhase} {account : Account} {m : Mailbox}

/-- Storing a topic keeps the mailboxes. -/
theorem holds_setTopic {created : Option ThreadId} {m' : Mailbox} :
    (app.setTopic lib chatId created m).data.Holds chatId m' ↔ app.data.Holds chatId m' := by
  cases m' with
  | account slotId =>
    have h : ((app.setTopic lib chatId created m).data.slot? chatId slotId).map
        (fun slot => (slot.serverUrl, slot.token)) =
      (app.data.slot? chatId slotId).map fun slot => (slot.serverUrl, slot.token) := slot?_setTopic
    have hsome := congrArg Option.isSome h
    rw [Option.isSome_map, Option.isSome_map] at hsome
    rw [StoreData.Holds, StoreData.Holds, hsome]
  | shared accountId =>
    have h : ((app.setTopic lib chatId created m).data.shared? chatId accountId).map
        SharedAccount.parentSlot =
      (app.data.shared? chatId accountId).map SharedAccount.parentSlot := shared?_setTopic
    have hsome := congrArg Option.isSome h
    rw [Option.isSome_map, Option.isSome_map] at hsome
    rw [StoreData.Holds, StoreData.Holds, hsome]

/-- A step of a resume task leaves the mailboxes the store holds. -/
theorem Advances.holds_iff (h : Advances lib chatId t app phase app' phase') :
    app'.data.Holds chatId m ↔ app.data.Holds chatId m := by
  cases h with
  | setTopic created => exact holds_setTopic
  | insertClient => rw [AppState.data_insertClient]
  | insertWatcher => rw [AppState.data_insertWatcher]
  | _ => exact Iff.rfl

/-- What is resumed is in the store as long as its mailbox is. -/
theorem stillActive_of_mem_persistedTargets (ht : t ∈ persistedTargets account)
    {data : StoreData} (hholds : data.Holds chatId t.mailbox) :
    data.accounts[chatId]?.any t.target.stillActive = true := by
  rcases List.mem_append.mp ht with ht | ht
  · obtain ⟨⟨slotId, slot⟩, -, rfl⟩ := List.mem_map.mp ht
    obtain ⟨slot', hslot⟩ := Option.isSome_iff_exists.mp hholds
    obtain ⟨record, hrecord, hslot⟩ := Option.bind_eq_some_iff.mp hslot
    rw [hrecord, Option.any_some]
    exact Std.ExtTreeMap.contains_eq_isSome_getElem?.trans (by rw [hslot]; rfl)
  · obtain ⟨⟨accountId, shared⟩, -, hparent⟩ := List.mem_filterMap.mp ht
    obtain ⟨slot, -, rfl⟩ := Option.map_eq_some_iff.mp hparent
    obtain ⟨shared', hshared⟩ := Option.isSome_iff_exists.mp hholds
    obtain ⟨record, hrecord, hshared⟩ := Option.bind_eq_some_iff.mp hshared
    rw [hrecord, Option.any_some]
    exact Std.ExtTreeMap.contains_eq_isSome_getElem?.trans (by rw [hshared]; rfl)

/-- A task whose mailbox is in the store, and not watched by another, goes on. -/
theorem Advances.goes_on (h : Advances lib chatId t app phase app' phase')
    (hactive : app.data.accounts[chatId]?.any t.target.stillActive = true)
    (hwatcher : app.watcher? chatId t.mailbox = if phase.watching then some t.client else none) :
    phase'.cached = (phase.cached || phase == .insertClient) ∧
      phase'.watching = (phase.watching || phase == .insertWatcher) ∧
      (phase'.stepsLeft < phase.stepsLeft ∨ phase = .await ∧ phase' = .check) := by
  cases h with
  | giveUp hgone => exact absurd hactive hgone
  | taken hsome | lost hsome =>
    rw [hwatcher] at hsome
    cases hsome
  | refused => exact ⟨rfl, rfl, .inr ⟨rfl, rfl⟩⟩
  | _ => exact ⟨rfl, rfl, .inl (by decide)⟩

/-- A boot's record holds what is resumed of it, and nothing else. -/
theorem holds_iff_of_resumesAll (haccount : app.data.accounts[chatId]? = some account)
    (h : account.ResumesAll) :
    app.data.Holds chatId m ↔ m ∈ (persistedTargets account).map ResumeTarget.mailbox := by
  rw [h.mailboxes.mem_iff, List.mem_append]
  cases m with
  | account slotId =>
    simp [StoreData.Holds, StoreData.slot?, haccount]
  | shared accountId =>
    simp [StoreData.Holds, StoreData.shared?, haccount]

end

/-! ### All tasks -/

/-- The resume tasks of a record on their way: each has cached its client and started its watcher if
it is that far, and nothing else was cached or started. -/
structure Resuming (chatId : ChatId) (account : Account) (s : System AppState Instr)
    (resumes : List (ResumeTarget × ResumePhase)) : Prop where
  tasks : s.tasks = resumePrograms resumes
  targets : resumes.map Prod.fst = persistedTargets account
  once : (resumes.map fun r => r.1.mailbox).Nodup
  holds : ∀ m, s.state.data.Holds chatId m ↔ m ∈ resumes.map fun r => r.1.mailbox
  named : s.state.data.NamesParentsOf chatId
  fresh : ∀ r ∈ resumes, r.1.Fresh s.state.data chatId
  client : ∀ r ∈ resumes, s.state.client? chatId r.1.mailbox =
    if r.2.cached then some r.1.client else none
  watcher : ∀ r ∈ resumes, s.state.watcher? chatId r.1.mailbox =
    if r.2.watching then some r.1.client else none
  others : ∀ m, (m ∉ resumes.map fun r => r.1.mailbox) →
    s.state.client? chatId m = none ∧ s.state.watcher? chatId m = none

/-- How many steps all tasks have left. -/
def stepsLeft (resumes : List (ResumeTarget × ResumePhase)) : ℕ :=
  (resumes.map fun r => r.2.stepsLeft).sum

theorem stepsLeft_le (resumes : List (ResumeTarget × ResumePhase)) :
    stepsLeft resumes ≤ 11 * resumes.length := by
  induction resumes with
  | nil => rfl
  | cons r resumes ih =>
    have hfirst := r.2.stepsLeft_le
    simp only [stepsLeft, List.map_cons, List.sum_cons, List.length_cons] at ih ⊢
    omega

section

variable {config : Config} {lib : Externals} {chatId : ChatId} {account : Account}
  {s s' : System AppState Instr} {resumes : List (ResumeTarget × ResumePhase)}

/-- The state boot leaves. -/
theorem resuming_booted {app : AppState} (hbooted : Booted app chatId account)
    (hvalid : account.Valid) :
    Resuming chatId account ⟨app, bootResume account⟩
      ((persistedTargets account).map fun t => (t, .check)) := by
  have hall := hvalid.resumesAll
  have hmailboxes : ((persistedTargets account).map fun t => (t, ResumePhase.check)).map
      (fun r => r.1.mailbox) = (persistedTargets account).map ResumeTarget.mailbox := by
    rw [List.map_map]
    rfl
  refine ⟨?_, ?_, ?_, fun m => ?_, hbooted.parents.namesParentsOf, fun r hr => ?_, fun r hr => ?_,
    fun r hr => ?_, fun m _ => ⟨hbooted.clients m, hbooted.watchers m⟩⟩
  · rw [resumePrograms, List.map_map]
    rfl
  · rw [List.map_map]
    exact List.map_id _
  · rw [hmailboxes]
    exact hall.once
  · rw [hmailboxes]
    exact holds_iff_of_resumesAll hbooted.account hall
  · obtain ⟨t, ht, rfl⟩ := List.mem_map.mp hr
    exact fresh_of_mem_persistedTargets hbooted.account ht
  · obtain ⟨t, -, rfl⟩ := List.mem_map.mp hr
    exact hbooted.clients _
  · obtain ⟨t, -, rfl⟩ := List.mem_map.mp hr
    exact hbooted.watchers _

/-- The other tasks are of other mailboxes. -/
theorem Resuming.of_mem_set (h : Resuming chatId account s resumes) {i : ℕ}
    {t : ResumeTarget} {phase phase' : ResumePhase} (hi : resumes[i]? = some (t, phase))
    {r : ResumeTarget × ResumePhase} (hr : r ∈ resumes.set i (t, phase')) :
    r = (t, phase') ∨ r ∈ resumes ∧ t.mailbox ≠ r.1.mailbox := by
  obtain ⟨j, hj⟩ := List.mem_iff_getElem?.mp hr
  rw [List.getElem?_set] at hj
  split_ifs at hj with hij hlength
  · exact .inl (Option.some.inj hj).symm
  · refine .inr ⟨List.mem_of_getElem? hj, fun heq => hij ?_⟩
    refine ((List.getElem?_inj ?_ h.once).mp ?_).symm
    · rw [List.length_map]
      exact (List.getElem?_eq_some_iff.mp hj).1
    · rw [List.getElem?_map, List.getElem?_map, hi, hj, Option.map_some, Option.map_some, heq]

/-- A task moves to another phase. -/
theorem map_set_phase {α : Type} (f : ResumeTarget → α) {i : ℕ} {t : ResumeTarget}
    {phase phase' : ResumePhase} (hi : resumes[i]? = some (t, phase)) :
    (resumes.set i (t, phase')).map (fun r => f r.1) = resumes.map fun r => f r.1 := by
  induction resumes generalizing i with
  | nil => rfl
  | cons r resumes ih =>
    cases i with
    | zero =>
      cases hi
      rfl
    | succ i =>
      rw [List.set_cons_succ, List.map_cons, List.map_cons, ih hi]

/-- A step of one task changes the number of steps by those of that task. -/
theorem stepsLeft_set {i : ℕ} {t : ResumeTarget} {phase phase' : ResumePhase}
    (hi : resumes[i]? = some (t, phase)) :
    stepsLeft (resumes.set i (t, phase')) + phase.stepsLeft =
      stepsLeft resumes + phase'.stepsLeft := by
  induction resumes generalizing i with
  | nil => cases hi
  | cons r resumes ih =>
    cases i with
    | zero =>
      cases hi
      simp only [stepsLeft, List.set_cons_zero, List.map_cons, List.sum_cons]
      omega
    | succ i =>
      have hrest := ih hi
      simp only [stepsLeft, List.set_cons_succ, List.map_cons, List.sum_cons] at hrest ⊢
      omega

/-- A task that checks the store again was refused. -/
theorem refused_of_check {t : ResumeTarget} {e : ℕ × Answer} {instr : Instr} {rest : List Instr}
    {app : AppState} (htask : s.tasks[e.1]? = some (instr :: rest))
    (hprogram : ResumePhase.await.program t = instr :: rest)
    (hnext : (instr.exec config lib chatId e.2 app).2 ++ rest = ResumePhase.check.program t) :
    Refused s e := by
  cases hprogram
  refine ⟨⟨t, [], htask⟩, ?_⟩
  rw [Instr.exec] at hnext
  cases hconnected : e.2.connected with
  | false => rfl
  | true =>
    rw [hconnected] at hnext
    cases hnext

/-- **A step** takes one of the tasks on, and it is not a giving up. -/
theorem Resuming.step (h : Resuming chatId account s resumes) {e : ℕ × Answer}
    (hstep : Resume.step config lib chatId s e = some s') :
    ∃ resumes', Resuming chatId account s' resumes' ∧
      (¬Refused s e → stepsLeft resumes' < stepsLeft resumes) := by
  obtain ⟨instr, rest, htask, -, rfl⟩ := System.step_eq_some_iff.mp hstep
  have hi := htask
  rw [h.tasks, resumePrograms, List.getElem?_map, Option.map_eq_some_iff] at hi
  obtain ⟨⟨t, phase⟩, hi, hprogram⟩ := hi
  obtain ⟨phase', hnext, hadvances⟩ := exec_program config lib chatId hprogram e.2 s.state
  have hr : (t, phase) ∈ resumes := List.mem_of_getElem? hi
  have ht : t ∈ persistedTargets account := h.targets ▸ List.mem_map_of_mem hr
  have hholds : s.state.data.Holds chatId t.mailbox :=
    (h.holds _).mpr (List.mem_map_of_mem (f := fun r => r.1.mailbox) hr)
  obtain ⟨hcached, hwatching, hleft⟩ :=
    hadvances.goes_on (stillActive_of_mem_persistedTargets ht hholds) (h.watcher _ hr)
  have hsame := sameCredentials_advances hadvances
  have hmailboxes : (resumes.set e.1 (t, phase')).map (fun r => r.1.mailbox) =
      resumes.map fun r => r.1.mailbox := map_set_phase ResumeTarget.mailbox hi
  refine ⟨resumes.set e.1 (t, phase'), ⟨?_, ?_, ?_, fun m => ?_, ?_, fun r hr' => ?_,
    fun r hr' => ?_, fun r hr' => ?_, fun m hm => ?_⟩, fun hrefused => ?_⟩
  · rw [h.tasks, hnext, resumePrograms, resumePrograms, List.map_set]
  · exact (map_set_phase id hi).trans h.targets
  · rw [hmailboxes]
    exact h.once
  · rw [hmailboxes, hadvances.holds_iff]
    exact h.holds m
  · exact hsame.parents.namesParentsOf h.named
  · rw [hsame.target_fresh_iff h.named]
    obtain rfl | ⟨hr', -⟩ := h.of_mem_set hi hr'
    · exact h.fresh (t, phase) hr
    · exact h.fresh r hr'
  · obtain rfl | ⟨hr', hne⟩ := h.of_mem_set hi hr'
    · rw [hadvances.client?_eq, hcached, h.client _ hr]
      by_cases hphase : phase = .insertClient <;> simp [hphase]
    · rw [hadvances.client?_of_ne hne]
      exact h.client r hr'
  · obtain rfl | ⟨hr', hne⟩ := h.of_mem_set hi hr'
    · rw [hadvances.watcher?_eq, hwatching, h.watcher _ hr]
      by_cases hphase : phase = .insertWatcher <;> simp [hphase]
    · rw [hadvances.watcher?_of_ne hne]
      exact h.watcher r hr'
  · rw [hmailboxes] at hm
    have hne : t.mailbox ≠ m := fun heq =>
      hm (heq ▸ List.mem_map_of_mem (f := fun r => r.1.mailbox) hr)
    rw [hadvances.client?_of_ne hne, hadvances.watcher?_of_ne hne]
    exact h.others m hm
  · have hsum : stepsLeft (resumes.set e.1 (t, phase')) + phase.stepsLeft =
        stepsLeft resumes + phase'.stepsLeft := stepsLeft_set hi
    dsimp only at hleft
    rcases hleft with hlt | ⟨rfl, rfl⟩
    · omega
    · exact absurd (refused_of_check htask hprogram hnext) hrefused

/-- A step is possible until all tasks are done. -/
theorem Resuming.progress (config : Config) (lib : Externals)
    (h : Resuming chatId account s resumes) (hleft : ∃ task ∈ s.tasks, task ≠ []) :
    ∃ i, ∀ answer, (Resume.step config lib chatId s (i, answer)).isSome := by
  have hruns : ∀ (i : ℕ) (instr : Instr) (rest : List Instr), s.tasks[i]? = some (instr :: rest) →
      Instr.blocked s.tasks instr = false →
      ∃ i, ∀ answer, (Resume.step config lib chatId s (i, answer)).isSome := by
    intro i instr rest htask hblocked
    refine ⟨i, fun answer => Option.isSome_iff_exists.mpr ?_⟩
    exact ⟨_, System.step_eq_some_iff.mpr ⟨instr, rest, htask, hblocked, rfl⟩⟩
  by_cases hlocked : ∃ r ∈ resumes, r.2.locked = true
  · -- the task that holds the lock can run
    obtain ⟨⟨t, phase⟩, hr, hlocked⟩ := hlocked
    obtain ⟨i, hi⟩ := List.mem_iff_getElem?.mp hr
    obtain ⟨instr, rest, hprogram, hlocks⟩ : ∃ instr rest, phase.program t = instr :: rest ∧
        instr.locks = none := ResumePhase.locks_of_locked hlocked
    refine hruns i instr rest ?_ (by rw [Instr.blocked, hlocks, Option.any_none])
    rw [h.tasks, resumePrograms, List.getElem?_map, hi, Option.map_some, hprogram]
  · -- no task holds it, and any of them can
    obtain ⟨task, htask, hne⟩ := hleft
    obtain ⟨i, hi⟩ := List.mem_iff_getElem?.mp htask
    obtain ⟨instr, rest, rfl⟩ := List.exists_cons_of_ne_nil hne
    refine hruns i instr rest hi ?_
    rw [Instr.blocked, Bool.eq_false_iff, Ne, Option.any_eq_true]
    rintro ⟨watchers, -, hany⟩
    obtain ⟨program, hprogram, hunlocks⟩ := List.any_eq_true.mp hany
    rw [h.tasks, resumePrograms, List.mem_map] at hprogram
    obtain ⟨r, hr, rfl⟩ := hprogram
    rw [ResumePhase.any_unlocks, Bool.and_eq_true] at hunlocks
    exact hlocked ⟨r, hr, hunlocks.1⟩

end

/-! ### A boot -/

/-- Every mailbox the store has is watched, with a client that is cached and has the credentials the
store has, and nothing else is cached or watched. -/
structure Resumed (chatId : ChatId) (app : AppState) : Prop where
  watched : ∀ m, (app.watcher? chatId m).isSome ↔ app.data.Holds chatId m
  client : ∀ m, app.client? chatId m = app.watcher? chatId m
  fresh : ∀ m client, app.watcher? chatId m = some client → client.Fresh app.data chatId m

section

variable {config : Config} {lib : Externals} {chatId : ChatId} {account : Account}
  {s s' : System AppState Instr} {resumes : List (ResumeTarget × ResumePhase)}

/-- A task is done when its mailbox is watched. -/
theorem Resuming.watched (h : Resuming chatId account s resumes) {i : ℕ} {t : ResumeTarget}
    (ht : (persistedTargets account)[i]? = some t) (hdone : s.tasks[i]? = some []) :
    s.state.watcher? chatId t.mailbox = some t.client := by
  rw [← h.targets, List.getElem?_map, Option.map_eq_some_iff] at ht
  obtain ⟨⟨t', phase⟩, hi, rfl⟩ := ht
  rw [h.tasks, resumePrograms, List.getElem?_map, hi, Option.map_some, Option.some.injEq] at hdone
  have hphase : phase = .done := ResumePhase.program_injective t' hdone
  rw [h.watcher _ (List.mem_of_getElem? hi), hphase]
  rfl

/-- When all tasks are done, everything is resumed. -/
theorem Resuming.resumed (h : Resuming chatId account s resumes)
    (hdone : ∀ task ∈ s.tasks, task = []) : Resumed chatId s.state := by
  have hphase : ∀ r ∈ resumes, r.2 = .done := by
    intro r hr
    refine ResumePhase.program_injective r.1 (hdone _ ?_)
    rw [h.tasks]
    exact List.mem_map_of_mem hr
  have hmailbox : ∀ m, (∃ r ∈ resumes, r.1.mailbox = m ∧
      s.state.client? chatId m = some r.1.client ∧ s.state.watcher? chatId m = some r.1.client) ∨
      (m ∉ resumes.map fun r => r.1.mailbox) ∧
        s.state.client? chatId m = none ∧ s.state.watcher? chatId m = none := by
    intro m
    by_cases hm : m ∈ resumes.map fun r => r.1.mailbox
    · obtain ⟨r, hr, rfl⟩ := List.mem_map.mp hm
      refine .inl ⟨r, hr, rfl, ?_, ?_⟩
      · rw [h.client r hr, hphase r hr]
        rfl
      · rw [h.watcher r hr, hphase r hr]
        rfl
    · exact .inr ⟨hm, h.others m hm⟩
  refine ⟨fun m => ?_, fun m => ?_, fun m client hclient => ?_⟩
  · rw [h.holds]
    obtain ⟨r, hr, rfl, -, hwatcher⟩ | ⟨hm, -, hwatcher⟩ := hmailbox m
    · rw [hwatcher]
      exact iff_of_true rfl (List.mem_map_of_mem (f := fun r => r.1.mailbox) hr)
    · rw [hwatcher]
      exact iff_of_false Bool.false_ne_true hm
  · obtain ⟨r, -, -, hcached, hwatcher⟩ | ⟨-, hcached, hwatcher⟩ := hmailbox m
    · rw [hcached, hwatcher]
    · rw [hcached, hwatcher]
  · obtain ⟨r, hr, rfl, -, hwatcher⟩ | ⟨-, -, hwatcher⟩ := hmailbox m
    · rw [hwatcher] at hclient
      cases hclient
      exact h.fresh r hr
    · rw [hwatcher] at hclient
      cases hclient

/-- **Boot brings everything back.** In every run of the resume tasks of a valid record, a task ends
only with its mailbox watched, and when all have ended exactly the mailboxes of the store are. Until
then some task can take a step, whatever it is answered, and once no connect fails any more there
are at most eleven steps for each target. -/
theorem boot_resumes {app : AppState} (hbooted : Booted app chatId account)
    (hvalid : account.Valid)
    (x : Execution (Resume.step config lib chatId) ⟨app, bootResume account⟩) :
    (∀ (i : ℕ) (t : ResumeTarget), (persistedTargets account)[i]? = some t →
        x.final.tasks[i]? = some [] → x.final.state.watcher? chatId t.mailbox = some t.client) ∧
      ((∀ task ∈ x.final.tasks, task = []) → Resumed chatId x.final.state) ∧
      ((∃ task ∈ x.final.tasks, task ≠ []) →
        ∃ i, ∀ answer, (Resume.step config lib chatId x.final (i, answer)).isSome) ∧
      ∀ k, (∀ j (hj : j < x.events.length), k ≤ j → ¬Refused (x.state j) x.events[j]) →
        x.events.length ≤ k + 11 * (persistedTargets account).length := by
  have hresuming : ∀ k ≤ x.events.length,
      ∃ resumes, Resuming chatId account (x.state k) resumes := by
    intro k hk
    refine x.induction (fun _ s => ∃ resumes, Resuming chatId account s resumes)
      ⟨_, resuming_booted hbooted hvalid⟩ (fun k hk h hstep => ?_) hk
    obtain ⟨resumes, h⟩ := h
    obtain ⟨resumes', h', -⟩ := h.step hstep
    exact ⟨resumes', h'⟩
  obtain ⟨resumes, hfinal⟩ := x.state_length ▸ hresuming x.events.length le_rfl
  refine ⟨fun i t ht hdone => hfinal.watched ht hdone, hfinal.resumed,
    hfinal.progress config lib, fun k hrefused => ?_⟩
  rcases Nat.lt_or_ge k x.events.length with hk | hk
  · obtain ⟨resumes, h⟩ := hresuming k hk.le
    have hle : stepsLeft resumes ≤ 11 * (persistedTargets account).length := by
      rw [← h.targets, List.length_map]
      exact stepsLeft_le resumes
    refine (x.length_le (k := k) (P := fun s n => ∃ resumes, Resuming chatId account s resumes ∧
      stepsLeft resumes = n) (fun j hj n hkj h hstep => ?_) ⟨resumes, h, rfl⟩).trans
        (Nat.add_le_add_left hle k)
    obtain ⟨resumes, h, rfl⟩ := h
    obtain ⟨resumes', h', hlt⟩ := h.step hstep
    exact ⟨_, hlt (hrefused j hj hkj), resumes', h', rfl⟩
  · exact hk.trans (Nat.le_add_right k _)

end

/-! ### A boot with a slot and a shared account -/

section

/-- Chat 1 after a restart. -/
def toggledApp : AppState := AppState.new ⟨(∅ : Map ChatId Account).insert 1 toggledAccount⟩

theorem booted_toggledApp : Booted toggledApp 1 toggledAccount where
  account := by decide
  parents := by
    intro c account hc a shared ha
    have hkey : toggledApp.data.accounts[c]? = if 1 = c then some toggledAccount else none := by
      rw [toggledApp, AppState.new, Map.getElem?_insert, Std.ExtTreeMap.getElem?_empty]
    rw [hkey] at hc
    split_ifs at hc
    cases hc
    rw [toggledAccount, Map.getElem?_insert, Std.ExtTreeMap.getElem?_empty] at ha
    split_ifs at ha
    cases ha
    rfl
  clients m := by cases m <;> simp [AppState.client?, toggledApp, AppState.new]
  watchers m := by cases m <;> simp [AppState.watcher?, toggledApp, AppState.new]

/-- The record that toggling leaves is valid. -/
theorem valid_toggledAccount : toggledAccount.Valid := by
  have hhandled : HandledRun toggledRun := fun k hk =>
    match k, hk with
    | 0, _ => .inr (.inl ⟨by decide, rfl⟩)
    | 1, _ => ⟨"default", rfl, by decide⟩
  exact valid_state hhandled (le_refl 2) 1 toggledAccount (by decide)

/-- The server of the slot cannot be reached at first; the shared account is resumed meanwhile. -/
def toggledBoot : Execution (Resume.step sampleSettings Externals.concrete 1)
    ⟨toggledApp, bootResume toggledAccount⟩ where
  events := List.replicate 4 (0, noAnswer) ++ List.replicate 4 (1, ⟨true, none, []⟩) ++
    List.replicate 9 (0, ⟨true, some 7, []⟩)
  enabled := by decide +kernel

/-- The main result for that run. -/
theorem boot_resumes_toggledBoot :
    (∀ (i : ℕ) (t : ResumeTarget), (persistedTargets toggledAccount)[i]? = some t →
        toggledBoot.final.tasks[i]? = some [] →
          toggledBoot.final.state.watcher? 1 t.mailbox = some t.client) ∧
      ((∀ task ∈ toggledBoot.final.tasks, task = []) → Resumed 1 toggledBoot.final.state) ∧
      ((∃ task ∈ toggledBoot.final.tasks, task ≠ []) → ∃ i, ∀ answer,
        (Resume.step sampleSettings Externals.concrete 1 toggledBoot.final (i, answer)).isSome) ∧
      ∀ k, (∀ j (hj : j < toggledBoot.events.length), k ≤ j →
          ¬Refused (toggledBoot.state j) toggledBoot.events[j]) →
        toggledBoot.events.length ≤ k + 11 * (persistedTargets toggledAccount).length :=
  boot_resumes booted_toggledApp valid_toggledAccount toggledBoot

end

end Jmap2Telegram
