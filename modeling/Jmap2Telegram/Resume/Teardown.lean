import Jmap2Telegram.Resume.Drops

/-!
# Tearing down a mailbox that boot is resuming

A resume task next to a command that tears its target down. What the teardown has still to drop of
the target, its health entry, then its client, then its watcher, is `pendingDrops`; whatever a
resume task hands over while the health entry is pending is dropped with it, and what it hands over
later stays.

* `Clean`, `Leaked`: what holds as long as nothing was handed over too late, and once something was.
* `nothingLeft_iff`: nothing is left if and only if nothing is handed over too late.
-/

namespace Jmap2Telegram

open Transition

/-- A command that tears a mailbox of a chat down, and its program. -/
inductive Teardown (data : StoreData) (chatId : ChatId) : Mailbox → List Instr → Prop where
  | logout (m : Mailbox) : Teardown data chatId m (logoutProgram chatId)
  | disconnect (slotId : String) :
    Teardown data chatId (.account slotId) (disconnectProgram chatId slotId)
  | disconnectParent {accountId slotId : String} (h : accountId ∈ data.childIds chatId slotId) :
    Teardown data chatId (.shared accountId) (disconnectProgram chatId slotId)
  | toggleOff (accountId : String) :
    Teardown data chatId (.shared accountId) (toggleOffProgram chatId accountId)

/-- No client, no watcher and no health entry of a mailbox. -/
def AppState.NothingLeft (app : AppState) (chatId : ChatId) (m : Mailbox) : Prop :=
  app.client? chatId m = none ∧ app.watcher? chatId m = none ∧ m.healthKey chatId ∉ app.health

/-! ### What is still to be dropped -/

/-- The instructions that remove a mailbox from the store. -/
def Instr.Removes : Instr → Prop
  | call _ | eraseChat _ => True
  | _ => False

/-- A teardown forgets first, and then removes from the store. -/
def TearsDown (program : List Instr) : Prop :=
  ∃ forgets removes, program = forgets ++ removes ∧ (∀ i ∈ forgets, i.Forgets) ∧
    ∀ i ∈ removes, i.Removes

section

variable {data : StoreData} {chatId : ChatId} {m : Mailbox}

/-- At its start, a teardown has the health entry, the client and the watcher to drop. -/
theorem Teardown.pendingDrops_eq {program : List Instr} (h : Teardown data chatId m program) :
    pendingDrops data chatId m program = allDrops := by
  cases h with
  | logout m => cases m <;> rfl
  | disconnect slotId =>
    have hunder : data.Under chatId slotId (.account slotId) := rfl
    rw [disconnectProgram, pendingDrops_append, pendingDrops_forgetAccount hunder]
    rfl
  | @disconnectParent accountId slotId hchild =>
    have hunder : data.Under chatId slotId (.shared accountId) := hchild
    rw [disconnectProgram, pendingDrops_append, pendingDrops_forgetAccount hunder]
    rfl
  | toggleOff accountId => simp [pendingDrops, toggleOffProgram, Instr.forget, Instr.drops]

theorem Teardown.tearsDown {program : List Instr} (h : Teardown data chatId m program) :
    TearsDown program := by
  cases h with
  | logout m =>
    exact ⟨(logoutProgram chatId).dropLast, [.call (.remove chatId)], rfl,
      by simp [logoutProgram, Instr.Forgets], by simp [Instr.Removes]⟩
  | disconnect slotId | disconnectParent hchild =>
    exact ⟨forgetAccountProgram _, _, rfl, forgets_forgetAccount, by simp [Instr.Removes]⟩
  | toggleOff accountId =>
    exact ⟨Instr.forget _, _, rfl, forgets_forget, by simp [Instr.Removes]⟩

end

/-! ### A step of the teardown -/

section

variable {config : Config} {lib : Externals} {chatId : ChatId} {m : Mailbox} {app app' : AppState}
  {program rest : List Instr} {instr : Instr} {answer : Answer}

variable (config lib chatId m app answer)

/-- An instruction that removes from the store drops nothing from memory. -/
theorem exec_removes (h : instr.Removes) :
    (∀ i ∈ (instr.exec config lib chatId answer app).2, i.Removes) ∧
      Dropped chatId m app (instr.exec config lib chatId answer app).1 none := by
  cases instr with
  | call op =>
    refine ⟨?_, .nothing (by cases m <;> rfl) (by cases m <;> rfl) Iff.rfl⟩
    rw [Instr.exec]
    split
    · simp [Instr.Removes]
    · simp
  | eraseChat c =>
    exact ⟨by simp [Instr.exec], .nothing (by cases m <;> rfl) (by cases m <;> rfl) Iff.rfl⟩
  | _ => exact h.elim

variable {config lib chatId m app answer}

/-- Removing from the store drops nothing the bot keeps of a mailbox. -/
theorem pendingDrops_removes {data : StoreData} (h : ∀ i ∈ program, i.Removes) :
    pendingDrops data chatId m program = [] := by
  refine List.flatMap_eq_nil_iff.mpr fun i hi => ?_
  have hremoves := h i hi
  cases i <;> first | rfl | exact hremoves.elim

variable (config lib chatId m app answer) in
/-- **A step of the teardown** drops the first thing that is pending, or nothing. -/
theorem TearsDown.step (h : TearsDown (instr :: rest)) :
    TearsDown ((instr.exec config lib chatId answer app).2 ++ rest) ∧
      ∃ d : Option Drop, pendingDrops app.data chatId m (instr :: rest) =
          d.toList ++ pendingDrops (instr.exec config lib chatId answer app).1.data chatId m
            ((instr.exec config lib chatId answer app).2 ++ rest) ∧
        Dropped chatId m app (instr.exec config lib chatId answer app).1 d ∧
        (d = some .watcher → instr.locks = some m.watchers) := by
  obtain ⟨forgets, removes, heq, hforgets, hremoves⟩ := h
  rcases forgets with - | ⟨first, forgets⟩
  · -- only the removal from the store is left
    rw [List.nil_append] at heq
    have hall : ∀ i ∈ instr :: rest, i.Removes := by rwa [heq]
    obtain ⟨hnext, hdropped⟩ := exec_removes config lib chatId m app answer
      (hall instr List.mem_cons_self)
    have hafter : ∀ i ∈ (instr.exec config lib chatId answer app).2 ++ rest, i.Removes := by
      intro i hi
      rcases List.mem_append.mp hi with hi | hi
      · exact hnext i hi
      · exact hall i (List.mem_cons_of_mem _ hi)
    refine ⟨⟨[], _, rfl, by simp, hafter⟩, none, ?_, hdropped, by simp⟩
    rw [pendingDrops_removes hall, pendingDrops_removes hafter]
    rfl
  -- an instruction of `forget*`
  · obtain ⟨rfl, rfl⟩ := List.cons.inj heq
    obtain ⟨hdata, hnext, d, hd, hdropped, hlocks⟩ := exec_forgets config lib chatId m app answer
      (hforgets instr List.mem_cons_self)
    refine ⟨⟨(instr.exec config lib chatId answer app).2 ++ forgets, removes,
      (List.append_assoc ..).symm, fun i hi => ?_, hremoves⟩, d, ?_, hdropped, hlocks⟩
    · rcases List.mem_append.mp hi with hi | hi
      · exact hnext i hi
      · exact hforgets i (List.mem_cons_of_mem _ hi)
    · rw [hdata, pendingDrops_append, pendingDrops, List.flatMap_cons, hd, List.append_assoc]
      rfl

end

/-! ### The race -/

section

variable {config : Config} {lib : Externals} {chatId : ChatId} {t : ResumeTarget}
  {s s' : System AppState Instr} {e : ℕ × Answer} {phase phase' : ResumePhase}
  {program : List Instr} {app app' : AppState} {pending : List Drop}

/-- A teardown and the resume task of its target, wherever each of them is. -/
structure Race (chatId : ChatId) (t : ResumeTarget) (s : System AppState Instr)
    (phase : ResumePhase) (program : List Instr) : Prop where
  tasks : s.tasks = [program, phase.program t]
  tearsDown : TearsDown program
  suffix : pendingDrops s.state.data chatId t.mailbox program <:+ allDrops

/-- **A step of the race** is one of the teardown, which drops the first thing that is pending or
nothing, or one of the resume task. -/
theorem Race.step (h : Race chatId t s phase program)
    (hstep : Resume.step config lib chatId s e = some s') :
    (e.1 = 0 ∧ ∃ program' d, Race chatId t s' phase program' ∧
      pendingDrops s.state.data chatId t.mailbox program =
        d.toList ++ pendingDrops s'.state.data chatId t.mailbox program' ∧
      Dropped chatId t.mailbox s.state s'.state d ∧
      (d = some .watcher → phase.locked = false)) ∨
    (e.1 = 1 ∧ ∃ phase', Race chatId t s' phase' program ∧
      Advances lib chatId t s.state phase s'.state phase' ∧
      pendingDrops s'.state.data chatId t.mailbox program =
        pendingDrops s.state.data chatId t.mailbox program) := by
  obtain ⟨instr, rest, htask, hblocked, rfl⟩ := System.step_eq_some_iff.mp hstep
  rw [h.tasks] at htask hblocked
  -- the teardown is task 0, the resume task is task 1
  rcases hi : e.1 with - | - | i
  · refine .inl ⟨rfl, ?_⟩
    rw [hi] at htask
    obtain rfl : program = instr :: rest := by simpa using htask
    obtain ⟨htears, d, hpending, hdropped, hlocks⟩ :=
      h.tearsDown.step config lib chatId t.mailbox s.state e.2
    refine ⟨_, d, ⟨?_, htears, ?_⟩, hpending, hdropped, fun hd => ?_⟩
    · rw [h.tasks]
      rfl
    · exact (hpending ▸ List.suffix_append _ _).trans h.suffix
    · -- the watcher is dropped under the lock, which is free
      have hfree := hblocked
      simp only [Instr.blocked, hlocks hd, Option.any_some, List.any_cons, List.any_nil,
        ResumePhase.any_unlocks, Bool.or_eq_false_iff, beq_self_eq_true, Bool.and_true] at hfree
      exact hfree.2.1
  · refine .inr ⟨rfl, ?_⟩
    rw [hi] at htask
    have hprogram : phase.program t = instr :: rest := by simpa using htask
    obtain ⟨phase', hnext, hadvances⟩ := exec_program config lib chatId hprogram e.2 s.state
    have hpending := pendingDrops_of_advances hadvances t.mailbox program
    refine ⟨phase', ⟨?_, h.tearsDown, ?_⟩, hadvances, hpending⟩
    · rw [h.tasks, ← hnext]
      rfl
    · rw [hpending]
      exact h.suffix
  · rw [hi] at htask
    simp at htask

/-- As long as nothing was handed over too late, whatever there is will be dropped: between the
insertion of the client and the start of the watcher alone, the client may stay. -/
structure Clean (chatId : ChatId) (m : Mailbox) (app : AppState) (phase : ResumePhase)
    (pending : List Drop) : Prop where
  client : (app.client? chatId m).isSome → .client ∈ pending ∨ phase = .spawn
  watcher : (app.watcher? chatId m).isSome → .watcher ∈ pending
  health : m.healthKey chatId ∈ app.health → .health ∈ pending
  handed : phase = .insertWatcher ∨ phase = .ensureTopic ∨ phase = .setTopic ∨ phase = .unlock →
    .watcher ∈ pending

/-- Once something was handed over too late, its health entry stays. -/
structure Leaked (chatId : ChatId) (m : Mailbox) (app : AppState) (phase : ResumePhase)
    (pending : List Drop) : Prop where
  handed : phase = .insertWatcher ∨ phase = .ensureTopic ∨ phase = .setTopic ∨ phase = .unlock ∨
    phase = .done
  pending : .health ∉ pending
  health : m.healthKey chatId ∈ app.health

/-- With the health entry, everything is still to be dropped. -/
theorem eq_allDrops (hsuffix : pending <:+ allDrops) (h : .health ∈ pending) :
    pending = allDrops := by
  obtain ⟨dropped, heq⟩ := hsuffix
  rcases dropped with - | ⟨d, dropped⟩
  · exact heq
  · -- the health entry comes first, so it would be pending twice
    have htail : dropped ++ pending = [.client, .watcher] := (List.cons.inj heq).2
    have hmem : Drop.health ∈ [Drop.client, Drop.watcher] :=
      htail ▸ List.mem_append_right dropped h
    exact absurd hmem (by decide)

/-- A step of the teardown keeps things clean. -/
theorem Clean.teardown {d : Option Drop} {pending' : List Drop} {m : Mailbox}
    (h : Clean chatId m app phase pending) (hpending : pending = d.toList ++ pending')
    (hdropped : Dropped chatId m app app' d) (hlocked : d = some .watcher → phase.locked = false) :
    Clean chatId m app' phase pending' where
  client hsome := by
    rw [hdropped.client] at hsome
    split at hsome
    · cases hsome
    case isFalse hd =>
      exact (h.client hsome).imp_left fun hmem => mem_of_dropped hpending hmem hd
  watcher hsome := by
    rw [hdropped.watcher] at hsome
    split at hsome
    · cases hsome
    case isFalse hd => exact mem_of_dropped hpending (h.watcher hsome) hd
  health hmem := by
    obtain ⟨hd, hmem⟩ := hdropped.health.mp hmem
    exact mem_of_dropped hpending (h.health hmem) hd
  handed hphase := by
    refine mem_of_dropped hpending (h.handed hphase) fun hd => ?_
    have hfree := hlocked hd
    rcases hphase with rfl | rfl | rfl | rfl <;> cases hfree

/-- A step of the resume task keeps things clean, if it hands over in time. -/
theorem Clean.advance (h : Clean chatId t.mailbox app phase pending)
    (hsuffix : pending <:+ allDrops) (hadvances : Advances lib chatId t app phase app' phase')
    (hintime : phase = .spawn → .health ∈ pending) :
    Clean chatId t.mailbox app' phase' pending := by
  cases hadvances with
  -- the mailbox is gone from the store: the task takes its health entry back
  | giveUp =>
    refine ⟨fun hsome => .inl ((h.client ?_).resolve_right (by simp)), fun hsome => h.watcher ?_,
      fun hmem => ?_, by simp⟩
    · rwa [AppState.client?_withHealth] at hsome
    · rwa [AppState.watcher?_withHealth] at hsome
    · rw [Health.deregister, Std.ExtTreeMap.mem_erase] at hmem
      exact absurd (Std.LawfulEqOrd.compare_eq_iff_eq.mpr rfl) hmem.1
  | check | taken | free | connect | connected | refused | lost | locked =>
    exact ⟨fun hsome => .inl ((h.client hsome).resolve_right (by simp)), h.watcher, h.health,
      by simp⟩
  | insertClient =>
    refine ⟨fun _ => .inr rfl, fun hsome => h.watcher ?_, fun hmem => h.health ?_, by simp⟩
    · rwa [AppState.watcher?_insertClient] at hsome
    · rwa [AppState.health_insertClient] at hmem
  | spawn =>
    -- everything is still to be dropped, whatever is there
    have hall : pending = allDrops := eq_allDrops hsuffix (hintime rfl)
    rw [hall]
    exact ⟨fun _ => .inl (by decide), fun _ => by decide, fun _ => by decide, fun _ => by decide⟩
  | insertWatcher =>
    have hwatcher := h.handed (.inl rfl)
    refine ⟨fun hsome => .inl ((h.client ?_).resolve_right (by simp)), fun _ => hwatcher,
      fun hmem => h.health ?_, fun _ => hwatcher⟩
    · rwa [AppState.client?_insertWatcher] at hsome
    · rwa [AppState.health_insertWatcher] at hmem
  | hasTopic | needsTopic =>
    exact ⟨fun hsome => .inl ((h.client hsome).resolve_right (by simp)), h.watcher, h.health,
      fun _ => h.handed (.inr (.inl rfl))⟩
  -- only the store changes
  | setTopic created =>
    obtain ⟨data, heq⟩ := setTopic_eq lib chatId app created t.mailbox
    rw [heq]
    refine ⟨fun hsome => .inl ((h.client ?_).resolve_right (by simp)), fun hsome => h.watcher ?_,
      h.health, fun _ => h.handed (.inr (.inr (.inl rfl)))⟩
    · rwa [AppState.client?_withData] at hsome
    · rwa [AppState.watcher?_withData] at hsome
  | unlock =>
    exact ⟨fun hsome => .inl ((h.client hsome).resolve_right (by simp)), h.watcher, h.health,
      by simp⟩

/-- Handing over when the health entry is dropped already leaks it. -/
theorem leaked_of_spawn (hadvances : Advances lib chatId t app .spawn app' phase')
    (hpending : .health ∉ pending) : Leaked chatId t.mailbox app' phase' pending := by
  cases hadvances
  refine ⟨.inl rfl, hpending, ?_⟩
  rw [AppState.register, Health.register, Std.ExtTreeMap.mem_insert]
  exact .inl (Std.LawfulEqOrd.compare_eq_iff_eq.mpr rfl)

/-- What has leaked stays. -/
theorem Leaked.teardown {d : Option Drop} {pending' : List Drop} {m : Mailbox}
    (h : Leaked chatId m app phase pending) (hpending : pending = d.toList ++ pending')
    (hdropped : Dropped chatId m app app' d) : Leaked chatId m app' phase pending' := by
  subst hpending
  refine ⟨h.handed, fun hmem => h.pending (List.mem_append_right _ hmem),
    hdropped.health.mpr ⟨?_, h.health⟩⟩
  rintro rfl
  exact h.pending (List.mem_append_left _ (List.mem_singleton_self _))

/-- What is leaked stays so while the task goes on. -/
theorem Leaked.advance (h : Leaked chatId t.mailbox app phase pending)
    (hadvances : Advances lib chatId t app phase app' phase') :
    Leaked chatId t.mailbox app' phase' pending := by
  obtain ⟨hhanded, hpending, hhealth⟩ := h
  cases hadvances with
  | giveUp | check | taken | free | connect | connected | refused | lost | locked | insertClient
  | spawn => simp at hhanded
  | insertWatcher => exact ⟨by simp, hpending, by rwa [AppState.health_insertWatcher]⟩
  | hasTopic | needsTopic | unlock => exact ⟨by simp, hpending, hhealth⟩
  | setTopic created =>
    obtain ⟨data, heq⟩ := setTopic_eq lib chatId app created t.mailbox
    rw [heq]
    exact ⟨by simp, hpending, hhealth⟩

end

/-! ### Runs -/

/-- The resume task hands its client over: it registers the watcher's health entry. -/
def HandsOver (m : Mailbox) (s : System AppState Instr) (e : ℕ × Answer) : Prop :=
  e.1 = 1 ∧ ∃ rest, s.tasks[1]? = some (.spawn m :: rest)

/-- The teardown has still to drop the health entry of the mailbox. -/
def DeregisterPending (chatId : ChatId) (m : Mailbox) (s : System AppState Instr) : Prop :=
  ∃ program, s.tasks[0]? = some program ∧ Drop.health ∈ pendingDrops s.state.data chatId m program

section

variable {config : Config} {lib : Externals} {chatId : ChatId} {t : ResumeTarget}
  {s s' start : System AppState Instr} {e : ℕ × Answer} {phase : ResumePhase}
  {program : List Instr}

/-- The task hands over when it spawns. -/
theorem Race.handsOver_iff (h : Race chatId t s phase program) :
    HandsOver t.mailbox s e ↔ e.1 = 1 ∧ phase = .spawn := by
  rw [HandsOver, h.tasks]
  refine and_congr_right fun _ => ?_
  cases phase <;> simp [ResumePhase.program, Instr.adopt]

theorem Race.deregisterPending_iff (h : Race chatId t s phase program) :
    DeregisterPending chatId t.mailbox s ↔
      Drop.health ∈ pendingDrops s.state.data chatId t.mailbox program := by
  rw [DeregisterPending, h.tasks]
  simp

/-- The race with everything in memory on its way out. -/
def CleanRace (chatId : ChatId) (t : ResumeTarget) (s : System AppState Instr) : Prop :=
  ∃ phase program, Race chatId t s phase program ∧
    Clean chatId t.mailbox s.state phase (pendingDrops s.state.data chatId t.mailbox program)

/-- The race with something in memory that stays. -/
def LeakedRace (chatId : ChatId) (t : ResumeTarget) (s : System AppState Instr) : Prop :=
  ∃ phase program, Race chatId t s phase program ∧
    Leaked chatId t.mailbox s.state phase (pendingDrops s.state.data chatId t.mailbox program)

theorem CleanRace.step (h : CleanRace chatId t s)
    (hstep : Resume.step config lib chatId s e = some s')
    (hintime : HandsOver t.mailbox s e → DeregisterPending chatId t.mailbox s) :
    CleanRace chatId t s' := by
  obtain ⟨phase, program, hrace, hclean⟩ := h
  obtain ⟨-, program', d, hrace', hpending, hdropped, hlocked⟩ |
    ⟨he, phase', hrace', hadvances, hpending⟩ := hrace.step hstep
  · exact ⟨phase, program', hrace', hclean.teardown hpending hdropped hlocked⟩
  · refine ⟨phase', program, hrace', ?_⟩
    rw [hpending]
    refine hclean.advance hrace.suffix hadvances fun hphase => ?_
    exact hrace.deregisterPending_iff.mp (hintime (hrace.handsOver_iff.mpr ⟨he, hphase⟩))

theorem CleanRace.leaks (h : CleanRace chatId t s)
    (hstep : Resume.step config lib chatId s e = some s') (hhands : HandsOver t.mailbox s e)
    (hlate : ¬DeregisterPending chatId t.mailbox s) : LeakedRace chatId t s' := by
  obtain ⟨phase, program, hrace, -⟩ := h
  obtain ⟨he, rfl⟩ := hrace.handsOver_iff.mp hhands
  obtain ⟨he', -⟩ | ⟨-, phase', hrace', hadvances, hpending⟩ := hrace.step hstep
  · omega
  · refine ⟨phase', program, hrace', ?_⟩
    rw [hpending]
    exact leaked_of_spawn hadvances fun hmem => hlate (hrace.deregisterPending_iff.mpr hmem)

theorem LeakedRace.step (h : LeakedRace chatId t s)
    (hstep : Resume.step config lib chatId s e = some s') : LeakedRace chatId t s' := by
  obtain ⟨phase, program, hrace, hleaked⟩ := h
  obtain ⟨-, program', d, hrace', hpending, hdropped, -⟩ |
    ⟨-, phase', hrace', hadvances, hpending⟩ := hrace.step hstep
  · exact ⟨phase, program', hrace', hleaked.teardown hpending hdropped⟩
  · refine ⟨phase', program, hrace', ?_⟩
    rw [hpending]
    exact hleaked.advance hadvances

/-- Once both have finished, a clean race has left nothing. -/
theorem CleanRace.nothingLeft (h : CleanRace chatId t s) (hdone : ∀ task ∈ s.tasks, task = []) :
    s.state.NothingLeft chatId t.mailbox := by
  obtain ⟨phase, program, hrace, hclean⟩ := h
  have hprogram : program = [] := hdone program (by simp [hrace.tasks])
  have hphase : phase = .done := by
    refine ResumePhase.program_injective t ?_
    exact hdone _ (by simp [hrace.tasks])
  subst hprogram hphase
  refine ⟨?_, ?_, fun hmem => ?_⟩
  · by_contra hne
    have hmem := hclean.client (Option.isSome_iff_ne_none.mpr hne)
    simp [pendingDrops] at hmem
  · by_contra hne
    have hmem := hclean.watcher (Option.isSome_iff_ne_none.mpr hne)
    simp [pendingDrops] at hmem
  · have hmem := hclean.health hmem
    simp [pendingDrops] at hmem

theorem LeakedRace.not_nothingLeft (h : LeakedRace chatId t s) :
    ¬s.state.NothingLeft chatId t.mailbox := by
  obtain ⟨phase, program, -, hleaked⟩ := h
  exact fun hnothing => hnothing.2.2 hleaked.health

/-- The resume task hands over at the `k`-th step of a run, and too late. -/
def LateAt (x : Execution (Resume.step config lib chatId) start) (m : Mailbox) (k : ℕ) : Prop :=
  ∃ hk : k < x.events.length, HandsOver m (x.state k) x.events[k] ∧
    ¬DeregisterPending chatId m (x.state k)

/-- After every prefix of a run, the race is clean, or it has leaked if something was handed over
too late. -/
theorem race_state (x : Execution (Resume.step config lib chatId) start)
    (hstart : CleanRace chatId t start) {k : ℕ} (hk : k ≤ x.events.length) :
    ((∀ j < k, ¬LateAt x t.mailbox j) → CleanRace chatId t (x.state k)) ∧
      ((∃ j < k, LateAt x t.mailbox j) → LeakedRace chatId t (x.state k)) := by
  induction k with
  | zero =>
    rw [x.state_zero]
    exact ⟨fun _ => hstart, fun ⟨j, hj, _⟩ => absurd hj (Nat.not_lt_zero j)⟩
  | succ k ih =>
    obtain ⟨hclean, hleaked⟩ := ih (Nat.le_of_succ_le hk)
    have hstep := x.state_succ hk
    constructor
    · intro hnone
      refine (hclean fun j hj => hnone j (Nat.lt_succ_of_lt hj)).step hstep fun hhands => ?_
      by_contra hlate
      exact hnone k (Nat.lt_succ_self k) ⟨hk, hhands, hlate⟩
    · rintro ⟨j, hj, hlate⟩
      by_cases hbefore : ∃ j < k, LateAt x t.mailbox j
      · exact (hleaked hbefore).step hstep
      · -- the first time something is handed over too late
        have hnone : ∀ i < k, ¬LateAt x t.mailbox i := fun i hi hl => hbefore ⟨i, hi, hl⟩
        obtain rfl : j = k := by
          by_contra hne
          exact hnone j (by omega) hlate
        obtain ⟨hj', hhands, hpending⟩ := hlate
        exact (hclean hnone).leaks hstep hhands hpending

/-- At the start of the race nothing is dropped yet. -/
theorem cleanRace_start {app : AppState} (h : Teardown app.data chatId t.mailbox program) :
    CleanRace chatId t ⟨app, [program, [.storeCheck t]]⟩ := by
  refine ⟨.check, program, ⟨rfl, h.tearsDown, ?_⟩, ?_⟩
  · exact ⟨[], by rw [h.pendingDrops_eq, List.nil_append]⟩
  · rw [h.pendingDrops_eq]
    exact ⟨fun _ => .inl (by decide), fun _ => by decide, fun _ => by decide, by simp⟩

end

/-- **Tearing down leaves nothing behind**, in a run of a teardown and the resume task of its target
to the end of both, if and only if the resume task never hands its client over when the teardown has
dropped the target's health entry already. -/
theorem nothingLeft_iff {config : Config} {lib : Externals} {chatId : ChatId} {app : AppState}
    {t : ResumeTarget} {program : List Instr}
    (hteardown : Teardown app.data chatId t.mailbox program)
    (x : Execution (Resume.step config lib chatId) ⟨app, [program, [.storeCheck t]]⟩)
    (hdone : ∀ task ∈ x.final.tasks, task = []) :
    x.final.state.NothingLeft chatId t.mailbox ↔
      ∀ k (hk : k < x.events.length), HandsOver t.mailbox (x.state k) x.events[k] →
        DeregisterPending chatId t.mailbox (x.state k) := by
  obtain ⟨hclean, hleaked⟩ := race_state x (cleanRace_start hteardown) le_rfl
  rw [x.state_length] at hclean hleaked
  constructor
  · intro hnothing k hk hhands
    by_contra hlate
    exact (hleaked ⟨k, hk, hk, hhands, hlate⟩).not_nothingLeft hnothing
  · intro hintime
    refine (hclean fun j _ ⟨hj, hhands, hlate⟩ => ?_).nothingLeft hdone
    exact hlate (hintime j hj hhands)

/-! ### Logging out during a connect -/

section

/-- Chat 1 after a restart: its one target is registered. -/
def bootedApp : AppState := (AppState.new oneSlotData).register 1 (.account "default")

def defaultTarget : ResumeTarget :=
  ⟨.account "default" "a@b.c", "https://jmap.example.org/session", "s3cr3t-token"⟩

def sampleSettings : Config := ⟨.auto, .parent⟩

/-- A step of the logout, and one of the resume task. -/
def logoutStep : ℕ × Answer := (0, noAnswer)

def resumeStep : ℕ × Answer := (1, ⟨true, none, []⟩)

/-- The logout runs before the resume task looks at the store. -/
def logoutFirst : Execution (Resume.step sampleSettings Externals.concrete 1)
    ⟨bootedApp, [logoutProgram 1, [.storeCheck defaultTarget]]⟩ where
  events := List.replicate 7 logoutStep ++ [resumeStep]
  enabled := by decide

/-- The logout runs while the resume task connects. -/
def logoutDuringConnect : Execution (Resume.step sampleSettings Externals.concrete 1)
    ⟨bootedApp, [logoutProgram 1, [.storeCheck defaultTarget]]⟩ where
  events := List.replicate 3 resumeStep ++ List.replicate 7 logoutStep ++
    List.replicate 7 resumeStep
  enabled := by decide

/-- The main result for that run. -/
theorem nothingLeft_iff_logoutFirst :
    logoutFirst.final.state.NothingLeft 1 defaultTarget.mailbox ↔
      ∀ k (hk : k < logoutFirst.events.length),
        HandsOver defaultTarget.mailbox (logoutFirst.state k) logoutFirst.events[k] →
          DeregisterPending 1 defaultTarget.mailbox (logoutFirst.state k) :=
  nothingLeft_iff (.logout _) logoutFirst (by
    have htasks : logoutFirst.final.tasks = [[], []] := rfl
    simp [htasks])

/-- A logout during a connect leaves the client that is connected afterwards, though both tasks
have run to their end. -/
theorem not_nothingLeft_logoutDuringConnect :
    Teardown bootedApp.data 1 defaultTarget.mailbox (logoutProgram 1) ∧
      (∀ task ∈ logoutDuringConnect.final.tasks, task = []) ∧
      ¬logoutDuringConnect.final.state.NothingLeft 1 defaultTarget.mailbox := by
  have htasks : logoutDuringConnect.final.tasks = [[], []] := rfl
  refine ⟨.logout _, by simp [htasks], fun h => ?_⟩
  have hclient :
      (logoutDuringConnect.final.state.client? 1 defaultTarget.mailbox).isSome = true := by
    decide
  rw [h.1] at hclient
  cases hclient

end

end Jmap2Telegram
