import Jmap2Telegram.Resume.Freshness
import Jmap2Telegram.Resume.Teardown

/-!
# Outdated credentials that stay

What a step leaves that is not in time: a connect with outdated credentials that is sure to come, or
an outdated client or watcher that nobody will drop.

* `Leaks.next`: it stays.
* `keepsToStore_iff`: a run keeps to the credentials of the store if and only if all its steps are
  in time.
-/

namespace Jmap2Telegram

open Transition

/-- Something outdated that will be used, or that will be left. -/
inductive Leaks (chatId : ChatId) (login : ResumeTarget) (stage : Relogin) : Prop where
  /-- A resume task is about to connect with outdated credentials. -/
  | connecting (t : ResumeTarget) (ht : (t, ResumePhase.connect) ∈ stage.resumes)
    (houtdated : ¬t.Fresh stage.app.data chatId) : Leaks chatId login stage
  /-- The client of a mailbox that the login does not connect is outdated, and not to be dropped. -/
  | client (m : Mailbox) (c : Client) (hm : m ≠ login.mailbox)
    (htargets : ∀ r ∈ stage.resumes, r.1.mailbox = m → ¬r.1.Fresh stage.app.data chatId)
    (hpending : .client ∉ stage.pending chatId m) (hc : stage.app.client? chatId m = some c)
    (houtdated : ¬c.Fresh stage.app.data chatId m) : Leaks chatId login stage
  /-- A resume task is about to start a watcher that is not to be dropped. -/
  | adopting (t : ResumeTarget) (phase : ResumePhase) (ht : (t, phase) ∈ stage.resumes)
    (hphase : phase = .insertClient ∨ phase = .spawn ∨ phase = .insertWatcher)
    (htargets : ∀ r ∈ stage.resumes, r.1.mailbox = t.mailbox → ¬r.1.Fresh stage.app.data chatId)
    (hpending : .watcher ∉ stage.pending chatId t.mailbox)
    (hlogin : t.mailbox = login.mailbox → stage.phase = .lock ∨ stage.phase = .done) :
    Leaks chatId login stage
  /-- A watcher is outdated, and not to be dropped. -/
  | watcher (m : Mailbox) (c : Client)
    (htargets : ∀ r ∈ stage.resumes, r.1.mailbox = m → ¬r.1.Fresh stage.app.data chatId)
    (hpending : .watcher ∉ stage.pending chatId m)
    (hlogin : m = login.mailbox → stage.phase = .lock ∨ stage.phase = .done)
    (hc : stage.app.watcher? chatId m = some c) (houtdated : ¬c.Fresh stage.app.data chatId m) :
    Leaks chatId login stage

section

variable {config : Config} {lib : Externals} {chatId : ChatId} {login t : ResumeTarget}
  {stage stage' : Relogin} {mover : Option (ResumeTarget × ResumePhase)} {m : Mailbox}
  {r : ResumeTarget × ResumePhase} {x : Drop} {phase : ResumePhase}

/-! ### What a step leaves -/

theorem Relogin.Next.mem_of_mem_pending (h : stage.Next lib chatId login mover stage')
    (hx : x ∈ stage'.pending chatId m) : x ∈ stage.pending chatId m := by
  cases h with
  | forgets hsame hdrops =>
    obtain ⟨d, hpending, -⟩ := hdrops m
    rw [Relogin.pending, hpending]
    exact List.mem_append_right _ hx
  | login => exact hx
  | resume hi hadvances =>
    rw [Relogin.pending] at hx ⊢
    rwa [pendingDrops_of_advances hadvances] at hx

/-- The resume tasks keep their targets. -/
theorem Relogin.Next.exists_target (h : stage.Next lib chatId login mover stage')
    (hr : r ∈ stage'.resumes) : ∃ r' ∈ stage.resumes, r.1 = r'.1 := by
  cases h with
  | forgets | login => exact ⟨r, hr, rfl⟩
  | resume hi =>
    rcases List.mem_or_eq_of_mem_set hr with hr | rfl
    · exact ⟨r, hr, rfl⟩
    · exact ⟨_, List.mem_of_getElem? hi, rfl⟩

/-- The tasks that do not take the step stay where they are. -/
theorem Relogin.Next.mem_resumes (h : stage.Next lib chatId login mover stage')
    (hr : r ∈ stage.resumes) (hne : mover ≠ some r) : r ∈ stage'.resumes := by
  cases h with
  | forgets | login => exact hr
  | @resume app app' forgets phase resumes i t before after hi =>
    obtain ⟨j, hj⟩ := List.getElem?_of_mem hr
    have hij : i ≠ j := by
      rintro rfl
      rw [hi] at hj
      exact hne hj
    have hj' : (resumes.set i (t, after))[j]? = some r := (List.getElem?_set_ne hij).trans hj
    exact List.mem_of_getElem? hj'

/-- Credentials that are outdated stay so. -/
theorem Relogin.Next.outdated_targets (h : stage.Next lib chatId login mover stage')
    (hnamed : stage.app.data.NamesParentsOf chatId)
    (htargets : ∀ r ∈ stage.resumes, r.1.mailbox = m → ¬r.1.Fresh stage.app.data chatId) :
    ∀ r ∈ stage'.resumes, r.1.mailbox = m → ¬r.1.Fresh stage'.app.data chatId := by
  intro r hr hm hfresh
  obtain ⟨r', hr', heq⟩ := h.exists_target hr
  rw [h.sameCredentials.target_fresh_iff hnamed] at hfresh
  rw [heq] at hm hfresh
  exact htargets r' hr' hm hfresh

theorem Relogin.Next.outdated_client (h : stage.Next lib chatId login mover stage')
    (hnamed : stage.app.data.NamesParentsOf chatId) {c : Client}
    (hc : ¬c.Fresh stage.app.data chatId m) : ¬c.Fresh stage'.app.data chatId m := by
  rwa [h.sameCredentials.client_fresh_iff hnamed]

/-- What is not to be dropped is not dropped. -/
theorem not_dropped {d : Option Drop} {pending pending' : List Drop}
    (hpending : pending = d.toList ++ pending') (hx : x ∉ pending) : d ≠ some x := by
  rintro rfl
  exact hx (hpending ▸ List.mem_append_left _ (List.mem_singleton_self _))

/-- An outdated client that is not to be dropped stays. -/
theorem Leaks.client_next (hnext : stage.Next lib chatId login mover stage')
    (hnamed : stage.app.data.NamesParentsOf chatId) (c : Client) (hm : m ≠ login.mailbox)
    (htargets : ∀ r ∈ stage.resumes, r.1.mailbox = m → ¬r.1.Fresh stage.app.data chatId)
    (hpending : .client ∉ stage.pending chatId m) (hc : stage.app.client? chatId m = some c)
    (houtdated : ¬c.Fresh stage.app.data chatId m) : Leaks chatId login stage' := by
  have htargets' := hnext.outdated_targets hnamed htargets
  have hpending' : .client ∉ stage'.pending chatId m := fun h =>
    hpending (hnext.mem_of_mem_pending h)
  have houtdated' := hnext.outdated_client hnamed houtdated
  cases hnext with
  -- `forget*` drops only what is pending
  | forgets hsame hdrops =>
    obtain ⟨d, hd, hdropped, -⟩ := hdrops m
    refine .client m c hm htargets' hpending' ?_ houtdated'
    rw [hdropped.client, if_neg (not_dropped hd hpending)]
    exact hc
  -- the login replaces the client of its own mailbox only
  | login hadvances =>
    refine .client m c hm htargets' hpending' ?_ houtdated'
    rw [hadvances.client?_of_ne (Ne.symm hm)]
    exact hc
  | @resume app app' forgets phase resumes i t before after hi hadvances =>
    by_cases heq : before = .insertClient ∧ t.mailbox = m
    · -- another client of the same resume task
      obtain ⟨hbefore, rfl⟩ := heq
      have houtdated' : ¬t.client.Fresh app'.data chatId t.mailbox := by
        rw [(sameCredentials_advances hadvances).client_fresh_iff hnamed]
        exact htargets _ (List.mem_of_getElem? hi) rfl
      refine .client t.mailbox t.client hm htargets' hpending' ?_ houtdated'
      rw [hadvances.client?_eq, if_pos ⟨hbefore, rfl⟩]
    · refine .client m c hm htargets' hpending' ?_ houtdated'
      rw [hadvances.client?_eq, if_neg heq]
      exact hc

/-- An outdated watcher that is not to be dropped stays. -/
theorem Leaks.watcher_next (hnext : stage.Next lib chatId login mover stage')
    (hnamed : stage.app.data.NamesParentsOf chatId) (c : Client)
    (htargets : ∀ r ∈ stage.resumes, r.1.mailbox = m → ¬r.1.Fresh stage.app.data chatId)
    (hpending : .watcher ∉ stage.pending chatId m)
    (hlogin : m = login.mailbox → stage.phase = .lock ∨ stage.phase = .done)
    (hc : stage.app.watcher? chatId m = some c) (houtdated : ¬c.Fresh stage.app.data chatId m) :
    Leaks chatId login stage' := by
  have htargets' := hnext.outdated_targets hnamed htargets
  have hpending' : .watcher ∉ stage'.pending chatId m := fun h =>
    hpending (hnext.mem_of_mem_pending h)
  have houtdated' := hnext.outdated_client hnamed houtdated
  cases hnext with
  | forgets hsame hdrops =>
    obtain ⟨d, hd, hdropped, -⟩ := hdrops m
    refine .watcher m c htargets' hpending' hlogin ?_ houtdated'
    rw [hdropped.watcher, if_neg (not_dropped hd hpending)]
    exact hc
  | login hadvances =>
    by_cases hm : m = login.mailbox
    · subst hm
      -- the login finds the watcher under the lock and gives up, or it is done
      obtain rfl | rfl := hlogin rfl
      · cases hadvances with
        | lost => exact .watcher _ c htargets' hpending' (fun _ => .inr rfl) hc houtdated'
        | locked hnone =>
          rw [hnone] at hc
          cases hc
      · cases hadvances
    · refine .watcher m c htargets' hpending' (fun h => absurd h hm) ?_ houtdated'
      rw [hadvances.watcher?_of_ne (Ne.symm hm)]
      exact hc
  | @resume app app' forgets phase resumes i t before after hi hadvances =>
    by_cases heq : before = .insertWatcher ∧ t.mailbox = m
    -- another watcher, just as outdated, takes its place
    · obtain ⟨hbefore, rfl⟩ := heq
      have houtdated' : ¬t.client.Fresh app'.data chatId t.mailbox := by
        rw [(sameCredentials_advances hadvances).client_fresh_iff hnamed]
        exact htargets _ (List.mem_of_getElem? hi) rfl
      refine .watcher t.mailbox t.client htargets' hpending' hlogin ?_ houtdated'
      rw [hadvances.watcher?_eq, if_pos ⟨hbefore, rfl⟩]
    · refine .watcher m c htargets' hpending' hlogin ?_ houtdated'
      rw [hadvances.watcher?_eq, if_neg heq]
      exact hc

/-- A resume task that has the lock starts its watcher. -/
theorem Leaks.adopting_next (hnext : stage.Next lib chatId login mover stage')
    (hnamed : stage.app.data.NamesParentsOf chatId) (ht : (t, phase) ∈ stage.resumes)
    (hphase : phase = .insertClient ∨ phase = .spawn ∨ phase = .insertWatcher)
    (htargets : ∀ r ∈ stage.resumes, r.1.mailbox = t.mailbox → ¬r.1.Fresh stage.app.data chatId)
    (hpending : .watcher ∉ stage.pending chatId t.mailbox)
    (hlogin : t.mailbox = login.mailbox → stage.phase = .lock ∨ stage.phase = .done) :
    Leaks chatId login stage' := by
  have htargets' := hnext.outdated_targets hnamed htargets
  have hpending' : .watcher ∉ stage'.pending chatId t.mailbox := fun h =>
    hpending (hnext.mem_of_mem_pending h)
  -- the task itself moves, or something else does and it stays as it is
  by_cases hmover : mover = some (t, phase)
  · subst hmover
    have hsame := hnext.sameCredentials
    have houtdated : ¬t.client.Fresh stage'.app.data chatId t.mailbox := by
      rw [hsame.client_fresh_iff hnamed]
      exact htargets _ ht rfl
    cases hnext with
    | @resume app app' forgets _ resumes i _ _ after hi hadvances =>
      have hlength : i < resumes.length := (List.getElem?_eq_some_iff.mp hi).1
      have hnew : (t, after) ∈ resumes.set i (t, after) := List.mem_set hlength _
      obtain rfl | rfl | rfl := hphase
      · cases hadvances with
        | insertClient => exact .adopting t _ hnew (.inr (.inl rfl)) htargets' hpending' hlogin
      · cases hadvances with
        | spawn => exact .adopting t _ hnew (.inr (.inr rfl)) htargets' hpending' hlogin
      · refine .watcher t.mailbox t.client htargets' hpending' hlogin ?_ houtdated
        rw [hadvances.watcher?_eq, if_pos ⟨rfl, rfl⟩]
  · have hmem := hnext.mem_resumes ht hmover
    refine .adopting t phase hmem hphase htargets' hpending' fun hm => ?_
    cases hnext with
    | forgets | resume => exact hlogin hm
    | login hadvances hfree =>
      obtain rfl | rfl := hlogin hm
      · -- the login waits for the lock
        have hlocked := hfree rfl _ ht hm
        obtain rfl | rfl | rfl := hphase <;> cases hlocked
      · cases hadvances

/-- **What leaks stays**, unless it is used. -/
theorem Leaks.next (h : Leaks chatId login stage) (hnext : stage.Next lib chatId login mover stage')
    (hnamed : stage.app.data.NamesParentsOf chatId)
    (hconnects : ∀ t, mover = some (t, .connect) → t.Fresh stage.app.data chatId) :
    Leaks chatId login stage' := by
  cases h with
  | connecting t ht houtdated =>
    refine .connecting t (hnext.mem_resumes ht fun hmover => houtdated (hconnects t hmover)) ?_
    rwa [hnext.sameCredentials.target_fresh_iff hnamed]
  | client m c hm htargets hpending hc houtdated =>
    exact client_next hnext hnamed c hm htargets hpending hc houtdated
  | adopting t phase ht hphase htargets hpending hlogin =>
    exact adopting_next hnext hnamed ht hphase htargets hpending hlogin
  | watcher m c htargets hpending hlogin hc houtdated =>
    exact watcher_next hnext hnamed c htargets hpending hlogin hc houtdated

end

/-! ### What a step leaves that is not in time -/

section

variable {config : Config} {lib : Externals} {chatId : ChatId} {slot : AccountSlot}
  {generated : GeneratedSlotId} {language : String} {s s' start : System AppState Instr}
  {e : ℕ × Answer} {stage : Relogin} {resumes : List (ResumeTarget × ResumePhase)}

/-- A login among resume tasks, and something that leaks. -/
def Leaky (chatId : ChatId) (login : ResumeTarget) (s : System AppState Instr) : Prop :=
  ∃ stage, LoggingIn chatId login stage s ∧ stage.app.data.NamesParentsOf chatId ∧
    Leaks chatId login stage

theorem Leaky.step {login : ResumeTarget} (h : Leaky chatId login s)
    (hstep : Resume.step config lib chatId s e = some s')
    (hconnects : ∀ t, Connects t s e → t.Fresh s.state.data chatId) : Leaky chatId login s' := by
  obtain ⟨stage, hstages, hnamed, hleaks⟩ := h
  obtain ⟨mover, stage', instr, rest, hstages', hnext, htask, hruns⟩ := hstages.step hstep
  refine ⟨stage', hstages', hnext.sameCredentials.parents.namesParentsOf hnamed,
    hleaks.next hnext hnamed fun t hmover => ?_⟩
  subst hmover
  cases hruns with
  | resume _ hprogram =>
    obtain ⟨rfl, -⟩ := List.cons.inj hprogram
    rw [← hstages.state]
    exact hconnects t ⟨rest, htask⟩

/-- Before the login has stored its slot, a step is in time unless something leaks after it. -/
theorem inTime_before (htasks : s.tasks = loginProgram chatId slot generated language ::
      resumePrograms resumes) (hnamed : s.state.data.NamesParentsOf chatId)
    (hfresh : ∀ m, FreshAt chatId m s.state resumes)
    (hstep : Resume.step config lib chatId s e = some s')
    (hnot : ¬Leaky chatId (loginTarget slot generated) s') : InTime chatId s e := by
  obtain ⟨rest, htask, hstages⟩ | ⟨i, t, before, after, instr, rest, hi, hprogram, htask, -⟩ :=
    before_step htasks hstep
  · refine ⟨fun slot' generated' rest' htask' hother t ht hunder => hnot ?_,
      fun t rest' htask' => ?_,
      fun m client rest' htask' => ?_, fun a client rest' htask' => ?_⟩
    -- the login stores its slot: a task that connects next would leak
    · rw [htask] at htask'
      cases htask'
      rw [htasks, List.mem_cons, resumePrograms, List.mem_map] at ht
      obtain hlogin | ⟨r, hr, hprogram⟩ := ht
      · cases hlogin
      · obtain ⟨hphase, rfl⟩ := program_eq_connect hprogram
        refine ⟨_, hstages, (sameParents_addAccount lib).namesParentsOf hnamed,
          .connecting r.1 (hphase ▸ hr) ?_⟩
        exact not_fresh_start lib hnamed ((hfresh _).targets r hr rfl) hunder hother
    · rw [htask] at htask'
      cases htask'
    · rw [htask] at htask'
      cases htask'
    · rw [htask] at htask'
      cases htask'
  · -- all resume tasks are fresh
    have ht := (hfresh t.mailbox).targets _ (List.mem_of_getElem? hi) rfl
    refine ⟨fun slot' generated' rest' htask' => ?_, fun t' rest' htask' houtdated => ?_,
      fun m client rest' htask' houtdated => ?_, fun a client rest' htask' houtdated => ?_⟩
    · rw [htask] at htask'
      cases htask'
      exact absurd hprogram (program_ne_call _)
    · rw [htask] at htask'
      cases htask'
      obtain ⟨-, rfl⟩ := program_eq_slotAdopted hprogram
      exact absurd ht houtdated
    · rw [htask] at htask'
      cases htask'
      obtain ⟨-, rfl, rfl⟩ := program_eq_lockWatchers hprogram
      exact absurd ht houtdated
    · rw [htask] at htask'
      cases htask'
      obtain ⟨-, hm, rfl⟩ := program_eq_insertClient hprogram
      rw [hm] at houtdated
      exact absurd ht houtdated

/-- An outdated resume task that looks for a watcher sees one, unless it is about to connect
next. -/
theorem leaky_of_adopted {login t : ResumeTarget} {stage' : Relogin}
    (hstages : LoggingIn chatId login stage' s') (hnamed : stage.app.data.NamesParentsOf chatId)
    (hnext : stage.Next lib chatId login (some (t, .adopted)) stage')
    (houtdated : ¬t.Fresh stage.app.data chatId)
    (hnone : stage.app.watcher? chatId t.mailbox = none) :
    Leaky chatId login s' := by
  have hsame := hnext.sameCredentials
  refine ⟨stage', hstages, hsame.parents.namesParentsOf hnamed, ?_⟩
  have houtdated' : ¬t.Fresh stage'.app.data chatId := by
    rwa [hsame.target_fresh_iff hnamed]
  cases hnext with
  | resume hi hadvances =>
    cases hadvances with
    | taken hsome =>
      rw [hnone] at hsome
      cases hsome
    | free => exact .connecting t (List.mem_set (List.getElem?_eq_some_iff.mp hi).1 _) houtdated'

/-- An outdated resume task that takes the lock leaves a watcher that will be dropped, unless it
leaks. -/
theorem leaky_of_lock {login t : ResumeTarget} {stage' : Relogin}
    (hstages : LoggingIn chatId login stage' s') (hsettling : Settling chatId login stage)
    (hnext : stage.Next lib chatId login (some (t, .lock)) stage')
    (houtdated : ¬t.Fresh stage.app.data chatId)
    (hnone : stage.app.watcher? chatId t.mailbox = none)
    (hpending : .watcher ∉ stage.pending chatId t.mailbox) : Leaky chatId login s' := by
  have hsame := hnext.sameCredentials
  refine ⟨stage', hstages, hsame.parents.namesParentsOf hsettling.named, ?_⟩
  have hpending' : .watcher ∉ stage'.pending chatId t.mailbox := fun h =>
    hpending (hnext.mem_of_mem_pending h)
  have hall := fun h => hnext.outdated_targets (m := t.mailbox) hsettling.named h
  cases hnext with
  | @resume app app' forgets phase resumes i _ _ after hi hadvances hfree =>
    have hmem : (t, after) ∈ resumes.set i (t, after) :=
      List.mem_set (List.getElem?_eq_some_iff.mp hi).1 _
    cases hadvances with
    | lost hsome =>
      rw [hnone] at hsome
      cases hsome
    | locked =>
      obtain hfresh | hout | htaken := hsettling.mailboxes t.mailbox
      · exact absurd (hfresh.targets _ (List.mem_of_getElem? hi) rfl) houtdated
      · refine .adopting t _ hmem (.inl rfl) (hall fun r hr hm => (hout.targets r hr hm).1)
          hpending'
          fun hm => (hout.login hm).imp_right fun hinsert => ?_
        -- the login does not have the lock
        have hfree := hfree (.inl rfl) hm
        dsimp only at hinsert
        rw [hinsert] at hfree
        cases hfree
      · -- nor has it taken the mailbox
        have hfree := hfree (.inl rfl) htaken.mailbox
        obtain hspawn | hwatcher | ⟨-, hsome⟩ := htaken.held
        · dsimp only at hspawn
          rw [hspawn] at hfree
          cases hfree
        · dsimp only at hwatcher
          rw [hwatcher] at hfree
          cases hfree
        · rw [hnone] at hsome
          cases hsome

/-- An outdated resume task of a shared account leaves a client that will be dropped, unless it
leaks. -/
theorem leaky_of_insertClient {login t : ResumeTarget} {stage' : Relogin}
    (hstages : LoggingIn chatId login stage' s') (hsettling : Settling chatId login stage)
    (hnext : stage.Next lib chatId login (some (t, .insertClient)) stage')
    (houtdated : ¬t.Fresh stage.app.data chatId) (hm : t.mailbox ≠ login.mailbox)
    (hpending : .client ∉ stage.pending chatId t.mailbox) : Leaky chatId login s' := by
  have hsame := hnext.sameCredentials
  refine ⟨stage', hstages, hsame.parents.namesParentsOf hsettling.named, ?_⟩
  have hpending' : .client ∉ stage'.pending chatId t.mailbox := fun h =>
    hpending (hnext.mem_of_mem_pending h)
  have hall := fun h => hnext.outdated_targets (m := t.mailbox) hsettling.named h
  have hclient : ¬t.client.Fresh stage'.app.data chatId t.mailbox := by
    rw [hsame.client_fresh_iff hsettling.named]
    exact houtdated
  cases hnext with
  | resume hi hadvances =>
    obtain hfresh | hout | htaken := hsettling.mailboxes t.mailbox
    · exact absurd (hfresh.targets _ (List.mem_of_getElem? hi) rfl) houtdated
    · refine .client t.mailbox t.client hm (hall fun r hr hm => (hout.targets r hr hm).1)
        hpending' ?_
        hclient
      rw [hadvances.client?_eq, if_pos ⟨rfl, rfl⟩]
    · exact absurd htaken.mailbox hm

/-- From `add_account` on, a step is in time unless something leaks after it. -/
theorem inTime_after (hstages : LoggingIn chatId (loginTarget slot generated) stage s)
    (hsettling : Settling chatId (loginTarget slot generated) stage)
    (hstep : Resume.step config lib chatId s e = some s')
    (hnot : ¬Leaky chatId (loginTarget slot generated) s') : InTime chatId s e := by
  obtain ⟨mover, stage', instr, rest, hstages', hnext, htask, hruns⟩ := hstages.step hstep
  have hlogin := hsettling.fresh
  refine ⟨fun slot' generated' rest' htask' => ?_, fun t rest' htask' houtdated => ?_,
    fun m client rest' htask' houtdated => ?_, fun a client rest' htask' houtdated => ?_⟩ <;>
    rw [htask] at htask' <;> cases htask'
  -- no slot is stored twice
  · cases hruns with
    | forgets hbetween => exact absurd hbetween (Instr.not_between id nofun)
    | login hprogram | resume _ hprogram => exact absurd hprogram (program_ne_call _)
  -- a resume task looks for a watcher
  · rw [hstages.state] at houtdated ⊢
    cases hruns with
    | forgets hbetween => exact absurd hbetween (Instr.not_between id nofun)
    | login hprogram =>
      obtain ⟨-, rfl⟩ := program_eq_slotAdopted hprogram
      exact absurd hlogin houtdated
    | @resume _ _ r hr hprogram =>
      obtain ⟨r, phase⟩ := r
      obtain ⟨rfl, rfl⟩ := program_eq_slotAdopted hprogram
      by_contra hsome
      exact hnot (leaky_of_adopted hstages' hsettling.named hnext houtdated
        (Option.not_isSome_iff_eq_none.mp hsome))
  -- it takes the lock
  · rw [hstages.loginDrops_eq]
    rw [hstages.state] at houtdated ⊢
    cases hruns with
    | forgets hbetween => exact absurd hbetween (Instr.not_between id nofun)
    | login hprogram =>
      obtain ⟨-, rfl, rfl⟩ := program_eq_lockWatchers hprogram
      exact absurd hlogin houtdated
    | @resume _ _ r hr hprogram =>
      obtain ⟨r, phase⟩ := r
      obtain ⟨rfl, rfl, rfl⟩ := program_eq_lockWatchers hprogram
      by_contra hlate
      obtain ⟨hsome, hpending⟩ := not_or.mp hlate
      exact hnot (leaky_of_lock hstages' hsettling hnext houtdated
        (Option.not_isSome_iff_eq_none.mp hsome) hpending)
  -- it caches the client of a shared account
  · rw [hstages.loginDrops_eq]
    rw [hstages.state] at houtdated
    cases hruns with
    | forgets hbetween => exact absurd hbetween (Instr.not_between id nofun)
    | login hprogram =>
      obtain ⟨-, hm, -⟩ := program_eq_insertClient hprogram
      cases hm
    | @resume _ _ r hr hprogram =>
      obtain ⟨r, phase⟩ := r
      obtain ⟨rfl, hm, rfl⟩ := program_eq_insertClient hprogram
      by_contra hpending
      dsimp only at hm
      rw [hm] at houtdated hpending
      refine hnot (leaky_of_insertClient hstages' hsettling hnext houtdated ?_ hpending)
      rw [← hm]
      exact nofun

/-- What has leaked is not gone when all tasks have finished. -/
theorem Leaky.not_fresh_final {login : ResumeTarget} (h : Leaky chatId login s)
    (hdone : ∀ task ∈ s.tasks, task = []) :
    (∃ m c, s.state.client? chatId m = some c ∧ ¬c.Fresh s.state.data chatId m) ∨
      ∃ m c, s.state.watcher? chatId m = some c ∧ ¬c.Fresh s.state.data chatId m := by
  obtain ⟨stage, hstages, -, hleaks⟩ := h
  have hphase : ∀ {t phase}, (t, phase) ∈ stage.resumes → phase = .done := by
    intro t phase ht
    refine ResumePhase.program_injective t (hdone _ ?_)
    rw [hstages.tasks]
    exact List.mem_cons_of_mem _ (List.mem_map_of_mem ht)
  rw [hstages.state]
  cases hleaks with
  | connecting t ht => cases hphase ht
  | client m c _ _ _ hc houtdated => exact .inl ⟨m, c, hc, houtdated⟩
  | adopting t phase ht hadopts =>
    obtain rfl := hphase ht
    obtain h | h | h := hadopts <;> cases h
  | watcher m c _ _ _ hc houtdated => exact .inr ⟨m, c, hc, houtdated⟩

end

/-! ### Runs -/

section

variable {config : Config} {lib : Externals} {chatId : ChatId} {app : AppState} {account : Account}
  {slot : AccountSlot} {generated : GeneratedSlotId} {language : String}
  (x : Execution (Resume.step config lib chatId)
    ⟨app, loginProgram chatId slot generated language :: bootResume account⟩)

/-- As long as all steps are in time, nothing is used or left that is outdated. -/
theorem sound_state (hboot : Booted app chatId account) {k : ℕ} (hk : k ≤ x.events.length)
    (hintime : ∀ j (hj : j < x.events.length), j < k → InTime chatId (x.state j) x.events[j]) :
    Sound lib chatId slot generated language (x.state k) := by
  induction k with
  | zero =>
    rw [x.state_zero]
    exact sound_start lib language hboot
  | succ k ih =>
    have hbefore := ih (Nat.le_of_succ_le hk) fun j hj hjk => hintime j hj (Nat.lt_succ_of_lt hjk)
    exact hbefore.step (x.state_succ hk) (hintime k hk (Nat.lt_succ_self k))

theorem keepsToStore_of_inTime (hboot : Booted app chatId account)
    (hintime : ∀ k (hk : k < x.events.length), InTime chatId (x.state k) x.events[k]) :
    KeepsToStore x := by
  have hsound : ∀ {k}, k ≤ x.events.length →
      Sound lib chatId slot generated language (x.state k) :=
    fun hk => sound_state x hboot hk fun j hj _ => hintime j hj
  have hfinal := hsound le_rfl
  rw [x.state_length] at hfinal
  refine ⟨fun k hk t hconnects => ?_, fun hdone m => (hfinal.final hdone m).1,
    fun hdone m => (hfinal.final hdone m).2⟩
  exact (hsound hk.le).connects (x.state_succ hk) hconnects

/-- Once something leaks, it does so until the end. -/
theorem leaky_final (hkeeps : KeepsToStore x) {login : ResumeTarget} {k : ℕ}
    (hk : k ≤ x.events.length) (hleaky : Leaky chatId login (x.state k)) :
    Leaky chatId login x.final := by
  have hstart : k ≤ 0 → Leaky chatId login _ := fun h => by
    obtain rfl : k = 0 := Nat.le_zero.mp h
    rwa [x.state_zero] at hleaky
  have hafter := x.induction (fun j s => k ≤ j → Leaky chatId login s) hstart
    (fun j hj hbefore hstep hkj => by
      rcases Nat.lt_or_eq_of_le hkj with hlt | rfl
      · exact (hbefore (Nat.le_of_lt_succ hlt)).step hstep (hkeeps.connects j hj)
      · exact hleaky)
    le_rfl hk
  rwa [x.state_length] at hafter

/-- In a run to its end that keeps to the store, every step is in time: what the first late step
leaves would still be there. -/
theorem inTime_of_keepsToStore (hboot : Booted app chatId account)
    (hdone : ∀ task ∈ x.final.tasks, task = []) (hkeeps : KeepsToStore x) {k : ℕ}
    (hk : k < x.events.length) : InTime chatId (x.state k) x.events[k] := by
  induction k using Nat.strong_induction_on with
  | _ k ih =>
    have hstep := x.state_succ hk
    have hnot : ¬Leaky chatId (loginTarget slot generated) (x.state (k + 1)) := by
      intro hleaky
      obtain ⟨m, c, hc, houtdated⟩ | ⟨m, c, hc, houtdated⟩ :=
        (leaky_final x hkeeps hk hleaky).not_fresh_final hdone
      · exact houtdated (hkeeps.clients hdone m c hc)
      · exact houtdated (hkeeps.watchers hdone m c hc)
    have hsound := sound_state x hboot hk.le fun j hj hjk => ih j hjk hj
    cases hsound with
    | before resumes htasks hnamed hfresh =>
      exact inTime_before htasks hnamed hfresh hstep hnot
    | after stage hstages hsettling => exact inTime_after hstages hsettling hstep hnot

/-- **Resuming with the stored credentials.** A run of a login next to the resume tasks of its chat
keeps to the credentials of the store if all its steps are in time, and a run to the end of all
tasks does so only if they are. -/
theorem keepsToStore_iff (hboot : Booted app chatId account) :
    ((∀ k (hk : k < x.events.length), InTime chatId (x.state k) x.events[k]) → KeepsToStore x) ∧
      ((∀ task ∈ x.final.tasks, task = []) → KeepsToStore x →
        ∀ k (hk : k < x.events.length), InTime chatId (x.state k) x.events[k]) :=
  ⟨keepsToStore_of_inTime x hboot,
    fun hdone hkeeps _ hk => inTime_of_keepsToStore x hboot hdone hkeeps hk⟩

end

/-! ### A login during the retries -/

section

/-- What the store has for chat 1. -/
def bootedAccount : Account := oneSlotData.accounts[(1 : ChatId)]?.getD .empty

theorem booted_bootedApp : Booted bootedApp 1 bootedAccount where
  account := by decide
  parents := namesParents_oneSlotData
  clients m := by cases m <;> simp [AppState.client?, bootedApp, AppState.register, AppState.new]
  watchers m := by cases m <;> simp [AppState.watcher?, bootedApp, AppState.register, AppState.new]

/-- The slot, with a new token. -/
def renewedSlot : AccountSlot :=
  ⟨"default", "https://jmap.example.org/session", "n3w-token", "a@b.c", none, none⟩

/-- A step of the login. -/
def loginStep : ℕ × Answer := (0, noAnswer)

/-- The login runs to its end before the resume task looks at the store. -/
def loginFirst : Execution (Resume.step sampleSettings Externals.concrete 1)
    ⟨bootedApp, loginProgram 1 renewedSlot sampleSlotId "en" :: bootResume bootedAccount⟩ where
  events := List.replicate 13 loginStep ++ List.replicate 2 resumeStep
  enabled := by decide

/-- The main result for that run. -/
theorem keepsToStore_iff_loginFirst :
    ((∀ k (hk : k < loginFirst.events.length), InTime 1 (loginFirst.state k) loginFirst.events[k]) →
        KeepsToStore loginFirst) ∧
      ((∀ task ∈ loginFirst.final.tasks, task = []) → KeepsToStore loginFirst →
        ∀ k (hk : k < loginFirst.events.length),
          InTime 1 (loginFirst.state k) loginFirst.events[k]) :=
  keepsToStore_iff loginFirst booted_bootedApp

/-- The resume task has looked at the store when the login stores a new token and forgets the slot;
it then connects with the old token, and is adopted before the login gets to `adopt_account`. -/
def loginDuringRetry : Execution (Resume.step sampleSettings Externals.concrete 1)
    ⟨bootedApp, loginProgram 1 renewedSlot sampleSlotId "en" :: bootResume bootedAccount⟩ where
  events :=
    [resumeStep] ++ List.replicate 6 loginStep ++ List.replicate 10 resumeStep ++ [loginStep]
  enabled := by decide

/-- A resume task connects with the token that was replaced, and its client is left when both tasks
have run to their end. -/
theorem not_keepsToStore_loginDuringRetry :
    Booted bootedApp 1 bootedAccount ∧ (∀ task ∈ loginDuringRetry.final.tasks, task = []) ∧
      ¬KeepsToStore loginDuringRetry := by
  have htasks : loginDuringRetry.final.tasks = [[], []] := rfl
  have hclient : loginDuringRetry.final.state.client? 1 defaultTarget.mailbox =
      some defaultTarget.client := by decide
  have hstored : loginDuringRetry.final.state.data.credentials 1 defaultTarget.mailbox =
      some ("https://jmap.example.org/session", "n3w-token") := by decide
  refine ⟨booted_bootedApp, by simp [htasks], fun h => ?_⟩
  have hfresh := h.clients (by simp [htasks]) _ _ hclient
  rw [Client.Fresh, hstored] at hfresh
  exact absurd hfresh (by decide)

end

end Jmap2Telegram
