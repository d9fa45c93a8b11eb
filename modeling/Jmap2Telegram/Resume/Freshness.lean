import Jmap2Telegram.Resume.Relogin

/-!
# Resuming with the stored credentials

The runs of a login next to the resume tasks of its chat, from a restart on.

* `InTime`: what a step meets that leaves nothing outdated behind.
* `Sound`: every mailbox is fresh, outdated but still to be dropped or replaced, or taken over.
* `Sound.step`, `Sound.connects`, `Sound.final`: that holds in a run whose steps are in time, only
  fresh credentials are used in it, and nothing outdated is left at its end.
-/

namespace Jmap2Telegram

open Transition

/-! ### Runs -/

/-- A step starts to connect. -/
def Connects (t : ResumeTarget) (s : System AppState Instr) (e : ℕ × Answer) : Prop :=
  ∃ rest, s.tasks[e.1]? = some (.connect t :: rest)

/-- Every connect attempt of a run has the server and the token the store has for its mailbox, and
so has every client and every watcher that is left when all tasks have finished. -/
structure KeepsToStore {config : Config} {lib : Externals} {chatId : ChatId}
    {start : System AppState Instr} (x : Execution (Resume.step config lib chatId) start) :
    Prop where
  connects : ∀ k (hk : k < x.events.length) t, Connects t (x.state k) x.events[k] →
    t.Fresh (x.state k).state.data chatId
  clients : (∀ task ∈ x.final.tasks, task = []) → ∀ m c,
    x.final.state.client? chatId m = some c → c.Fresh x.final.state.data chatId m
  watchers : (∀ task ∈ x.final.tasks, task = []) → ∀ m c,
    x.final.state.watcher? chatId m = some c → c.Fresh x.final.state.data chatId m

/-- What the login, which is the first task, has still to drop of a mailbox. -/
def loginDrops (chatId : ChatId) (m : Mailbox) (s : System AppState Instr) : List Drop :=
  pendingDrops s.state.data chatId m (s.tasks.headD [])

/-- What a step meets that leaves nothing outdated behind. -/
structure InTime (chatId : ChatId) (s : System AppState Instr) (e : ℕ × Answer) : Prop where
  /-- When other credentials are stored for a slot, nothing under it is about to connect. -/
  addAccount : ∀ slot generated rest,
    s.tasks[e.1]? = some (.call (.addAccount chatId slot generated) :: rest) →
    s.state.data.credentials chatId (.account (Store.slotIdFor slot generated)) ≠
      some (slot.serverUrl, slot.token) →
    ∀ t, [.connect t] ∈ s.tasks →
      ¬s.state.data.Under chatId (Store.slotIdFor slot generated) t.mailbox
  /-- A resume task with outdated credentials sees a watcher before it connects. -/
  slotAdopted : ∀ t rest, s.tasks[e.1]? = some (.slotAdopted t :: rest) →
    ¬t.Fresh s.state.data chatId → (s.state.watcher? chatId t.mailbox).isSome
  /-- One that has connected sees a watcher, or the login has still to drop a watcher. -/
  lockWatchers : ∀ m client rest, s.tasks[e.1]? = some (.lockWatchers m client :: rest) →
    ¬client.Fresh s.state.data chatId m →
      (s.state.watcher? chatId m).isSome ∨ .watcher ∈ loginDrops chatId m s
  /-- When one caches a client of a shared account, the login has still to drop a client. -/
  insertClient : ∀ a client rest, s.tasks[e.1]? = some (.insertClient (.shared a) client :: rest) →
    ¬client.Fresh s.state.data chatId (.shared a) → .client ∈ loginDrops chatId (.shared a) s

/-! ### The instructions of a resume task -/

section

variable {t t' : ResumeTarget} {phase : ResumePhase} {rest : List Instr} {m : Mailbox}
  {client : Client}

theorem program_eq_connect (h : phase.program t = .connect t' :: rest) :
    phase = .connect ∧ t' = t := by
  cases phase <;> simp [ResumePhase.program, Instr.adopt] at h ⊢
  exact h.1.symm

theorem program_eq_slotAdopted (h : phase.program t = .slotAdopted t' :: rest) :
    phase = .adopted ∧ t' = t := by
  cases phase <;> simp [ResumePhase.program, Instr.adopt] at h ⊢
  exact h.1.symm

/-- A resume task that locks the watchers is about to adopt its own target. -/
theorem program_eq_lockWatchers (h : phase.program t = .lockWatchers m client :: rest) :
    phase = .lock ∧ m = t.mailbox ∧ client = t.client := by
  cases phase <;> simp [ResumePhase.program, Instr.adopt] at h ⊢
  exact ⟨h.1.1.symm, h.1.2.symm⟩

theorem program_eq_insertClient (h : phase.program t = .insertClient m client :: rest) :
    phase = .insertClient ∧ m = t.mailbox ∧ client = t.client := by
  cases phase <;> simp [ResumePhase.program, Instr.adopt] at h ⊢
  exact ⟨h.1.1.symm, h.1.2.symm⟩

/-- A resume task makes no store call by itself. -/
theorem program_ne_call (op : Op) : phase.program t ≠ .call op :: rest := by
  cases phase <;> simp [ResumePhase.program, Instr.adopt]

end

/-! ### Storing the slot -/

section

variable {config : Config} {lib : Externals} {chatId : ChatId} {slot : AccountSlot}
  {generated : GeneratedSlotId} {language : String} {s s' : System AppState Instr} {e : ℕ × Answer}
  {resumes : List (ResumeTarget × ResumePhase)} {app : AppState} {m : Mailbox}

/-- The stage of a login that has just stored its slot. -/
def Relogin.start (lib : Externals) (chatId : ChatId) (slot : AccountSlot)
    (generated : GeneratedSlotId) (language : String) (app : AppState)
    (resumes : List (ResumeTarget × ResumePhase)) : Relogin where
  app := { app with data := ((Op.addAccount chatId slot generated).lockedSection lib app.data).1 }
  forgets := .call (.setLanguage chatId language) ::
    forgetAccountProgram (Store.slotIdFor slot generated)
  phase := .lock
  resumes := resumes

/-- **A step before the login has stored its slot** is that of storing it, or one of a resume
task. -/
theorem before_step (htasks : s.tasks = loginProgram chatId slot generated language ::
      resumePrograms resumes) (hstep : Resume.step config lib chatId s e = some s') :
    (∃ rest, s.tasks[e.1]? = some (.call (.addAccount chatId slot generated) :: rest) ∧
      LoggingIn chatId (loginTarget slot generated)
        (.start lib chatId slot generated language s.state resumes) s') ∨
    ∃ i t before after instr rest, resumes[i]? = some (t, before) ∧
      before.program t = instr :: rest ∧ s.tasks[e.1]? = some (instr :: rest) ∧
      Advances lib chatId t s.state before s'.state after ∧
      s'.tasks = loginProgram chatId slot generated language ::
        resumePrograms (resumes.set i (t, after)) := by
  obtain ⟨instr, rest, hprogram, htask, happ, htasks', -⟩ |
    ⟨i, t, before, after, instr, rest, hi, hprogram, htask, hadvances, htasks', -⟩ :=
    resuming_step htasks hstep
  · obtain ⟨rfl, rfl⟩ := List.cons.inj hprogram
    refine .inl ⟨_, htask, happ, ?_, fun i hi => ?_, fun _ => rfl⟩
    · rw [htasks']
      rfl
    · rcases List.mem_cons.mp hi with rfl | hi
      · exact .inr ⟨language, rfl⟩
      · exact .inl (forgets_forgetAccount i hi)
  · exact .inr ⟨i, t, before, after, instr, rest, hi, hprogram, htask, hadvances, htasks'⟩

/-- Storing a slot with the credentials it had leaves every mailbox fresh. -/
theorem FreshAt.addAccount (h : FreshAt chatId m app resumes)
    (hsame :
      ((Op.addAccount chatId slot generated).lockedSection lib app.data).1.credentials chatId m =
      app.data.credentials chatId m) :
    FreshAt chatId m (Relogin.start lib chatId slot generated language app resumes).app resumes :=
  h.of_dropped hsame (d := none)
    (.nothing (by simp [Relogin.start]) (by simp [Relogin.start]) Iff.rfl)

/-- At its start a login has everything to drop that is under its slot. -/
theorem pending_start (lib : Externals) (language : String)
    (resumes : List (ResumeTarget × ResumePhase))
    (h : app.data.Under chatId (Store.slotIdFor slot generated) m) :
    (Relogin.start lib chatId slot generated language app resumes).pending chatId m = allDrops := by
  have hparents : SameParents chatId app.data
    ((Op.addAccount chatId slot generated).lockedSection lib app.data).1 :=
  sameParents_addAccount lib
  rw [Relogin.pending]
  exact pendingDrops_forgetAccount (hparents.under_iff.mpr h)

/-- Storing other credentials for a slot leaves the resume tasks of what is under it outdated. -/
theorem not_fresh_start (lib : Externals) {t : ResumeTarget}
    (hnamed : app.data.NamesParentsOf chatId) (ht : t.Fresh app.data chatId)
    (hunder : app.data.Under chatId (Store.slotIdFor slot generated) t.mailbox)
    (hother : app.data.credentials chatId (.account (Store.slotIdFor slot generated)) ≠
      some (slot.serverUrl, slot.token)) :
    ¬t.Fresh ((Op.addAccount chatId slot generated).lockedSection lib app.data).1 chatId := by
  intro hfresh
  rw [ResumeTarget.Fresh, credentials_of_under hnamed hunder] at ht
  rw [ResumeTarget.Fresh, credentials_addAccount_of_under lib hnamed hunder] at hfresh
  exact hother (ht.trans hfresh.symm)

/-- Storing other credentials for a slot makes what is under it outdated. -/
theorem FreshAt.outdated (h : FreshAt chatId m app resumes)
    (hnamed : app.data.NamesParentsOf chatId)
    (hunder : app.data.Under chatId (Store.slotIdFor slot generated) m)
    (hother : app.data.credentials chatId (.account (Store.slotIdFor slot generated)) ≠
      some (slot.serverUrl, slot.token))
    (hidle : ∀ r ∈ resumes, r.1.mailbox = m → r.2 ≠ .connect) :
    OutdatedAt chatId (loginTarget slot generated) m
      (.start lib chatId slot generated language app resumes) := by
  -- everything of the mailbox has still to be dropped
  have hpending := pending_start lib language resumes hunder
  refine ⟨?_, fun _ => .inr ?_, fun _ => ?_, fun _ => .inl rfl,
    fun r hr hm => ⟨?_, hidle r hr hm, ?_⟩⟩
  · cases m with
    | account s => exact .inl (congrArg Mailbox.account hunder)
    | shared a => exact .inr ⟨a, rfl⟩
  · rw [hpending]
    simp
  · rw [hpending]
    simp
  · subst hm
    exact not_fresh_start lib hnamed (h.targets r hr rfl) hunder hother
  · intro _
    rw [hpending]
    simp

end

/-! ### Every state of a run -/

section

variable {config : Config} {lib : Externals} {chatId : ChatId} {slot : AccountSlot}
  {generated : GeneratedSlotId} {language : String} {s s' : System AppState Instr} {e : ℕ × Answer}
  {resumes : List (ResumeTarget × ResumePhase)} {app : AppState} {account : Account} {m : Mailbox}
  {login : ResumeTarget} {stage stage' : Relogin} {mover : Option (ResumeTarget × ResumePhase)}
  {t : ResumeTarget}

/-- The condition of every mailbox, from `add_account` on. -/
structure Settling (chatId : ChatId) (login : ResumeTarget) (stage : Relogin) : Prop where
  named : stage.app.data.NamesParentsOf chatId
  fresh : login.Fresh stage.app.data chatId
  mailboxes : ∀ m, FreshAt chatId m stage.app stage.resumes ∨ OutdatedAt chatId login m stage ∨
    TakenAt chatId login m stage

/-- The condition of every mailbox in a run whose steps so far were in time. -/
inductive Sound (lib : Externals) (chatId : ChatId) (slot : AccountSlot)
    (generated : GeneratedSlotId) (language : String) (s : System AppState Instr) : Prop where
  | before (resumes : List (ResumeTarget × ResumePhase))
    (tasks : s.tasks = loginProgram chatId slot generated language :: resumePrograms resumes)
    (named : s.state.data.NamesParentsOf chatId)
    (fresh : ∀ m, FreshAt chatId m s.state resumes) : Sound lib chatId slot generated language s
  | after (stage : Relogin) (stages : LoggingIn chatId (loginTarget slot generated) stage s)
    (settling : Settling chatId (loginTarget slot generated) stage) :
    Sound lib chatId slot generated language s

/-- Boot resumes every mailbox with the credentials the store has. -/
theorem fresh_of_mem_persistedTargets (haccount : app.data.accounts[chatId]? = some account)
    (ht : t ∈ persistedTargets account) : t.Fresh app.data chatId := by
  rcases List.mem_append.mp ht with ht | ht
  · obtain ⟨⟨slotId, slot⟩, hslot, rfl⟩ := List.mem_map.mp ht
    rw [Std.ExtTreeMap.mem_toList_iff_getElem?_eq_some] at hslot
    simp only [ResumeTarget.Fresh, ResumeTarget.mailbox, WatchTarget.mailbox, StoreData.credentials,
      StoreData.slot?, haccount, Option.bind_some, hslot, Option.map_some]
  · obtain ⟨⟨accountId, shared⟩, hshared, hparent⟩ := List.mem_filterMap.mp ht
    obtain ⟨slot, hslot, rfl⟩ := Option.map_eq_some_iff.mp hparent
    rw [Std.ExtTreeMap.mem_toList_iff_getElem?_eq_some] at hshared
    simp only [ResumeTarget.Fresh, ResumeTarget.mailbox, WatchTarget.mailbox, StoreData.credentials,
      haccount, Option.bind_some, hshared, hslot, Option.map_some]

/-- A run starts with nothing outdated. -/
theorem sound_start (lib : Externals) (language : String) (h : Booted app chatId account) :
    Sound lib chatId slot generated language
      ⟨app, loginProgram chatId slot generated language :: bootResume account⟩ := by
  refine .before ((persistedTargets account).map fun t => (t, .check)) ?_ h.parents.namesParentsOf
    fun m => ⟨fun c hc => ?_, fun c hc => ?_, fun r hr _ => ?_⟩
  · rw [resumePrograms, List.map_map]
    rfl
  · rw [h.clients] at hc
    cases hc
  · rw [h.watchers] at hc
    cases hc
  · obtain ⟨t, ht, rfl⟩ := List.mem_map.mp hr
    exact fresh_of_mem_persistedTargets h.account ht

/-- The login has saved its slot; what it does next leaves the credentials. -/
theorem Relogin.Next.sameCredentials (h : stage.Next lib chatId login mover stage') :
    SameCredentials chatId stage.app.data stage'.app.data := by
  cases h with
  | forgets hsame => exact hsame
  | login hadvances | resume _ hadvances => exact sameCredentials_advances hadvances

/-- Every mailbox stays in one of its conditions. -/
theorem Settling.next (h : Settling chatId login stage)
    (hnext : stage.Next lib chatId login mover stage')
    (htimely : ∀ r, mover = some r → ¬r.1.Fresh stage.app.data chatId → Timely chatId stage r) :
    Settling chatId login stage' := by
  have hsame := hnext.sameCredentials
  refine ⟨hsame.parents.namesParentsOf h.named, ?_, fun m => ?_⟩
  · rw [hsame.target_fresh_iff h.named]
    exact h.fresh
  · obtain hfresh | houtdated | htaken := h.mailboxes m
    · exact .inl (hfresh.next h.named h.fresh hnext)
    · refine .inr (houtdated.next h.named h.fresh hnext ?_)
      rintro r rfl hm
      refine htimely r rfl ?_
      cases hnext with
      | resume hi => exact (houtdated.targets _ (List.mem_of_getElem? hi) hm).1
    · exact .inr (.inr (htaken.next h.named h.fresh hnext))

/-- What the login still drops depends on its stage. -/
theorem LoggingIn.loginDrops_eq (h : LoggingIn chatId login stage s) :
    loginDrops chatId m s = stage.pending chatId m := by
  rw [loginDrops, h.state, h.tasks, Relogin.tasks, List.headD_cons, pendingDrops_append,
    pendingDrops_program, List.append_nil, Relogin.pending]

/-- A step in time is a timely one of an outdated resume task. -/
theorem InTime.timely (h : InTime chatId s e) (hstages : LoggingIn chatId login stage s)
    {r : ResumeTarget × ResumePhase} {instr : Instr} {rest : List Instr}
    (htask : s.tasks[e.1]? = some (instr :: rest)) (hruns : stage.Runs chatId login (some r) instr)
    (hr : ¬r.1.Fresh stage.app.data chatId) : Timely chatId stage r := by
  obtain ⟨t, phase⟩ := r
  cases hruns with
  | resume _ hprogram =>
    rw [← hstages.state] at hr
    -- in each phase, the step is the instruction that `InTime` is about
    refine ⟨?_, ?_, ?_⟩
    · rintro rfl
      obtain ⟨rfl, -⟩ := List.cons.inj hprogram
      rw [← hstages.state]
      exact h.slotAdopted t rest htask hr
    · rintro rfl
      obtain ⟨rfl, -⟩ := List.cons.inj hprogram
      rw [← hstages.state, ← hstages.loginDrops_eq]
      exact h.lockWatchers t.mailbox t.client rest htask hr
    · rintro rfl a hm
      obtain ⟨rfl, -⟩ := List.cons.inj hprogram
      rw [← hstages.loginDrops_eq, hm]
      dsimp only at hm
      rw [hm] at htask
      refine h.insertClient a t.client rest htask ?_
      rw [← hm]
      exact hr

/-- The condition of every mailbox after `add_account`. -/
theorem settling_start (lib : Externals) (language : String)
    (hnamed : app.data.NamesParentsOf chatId) (hfresh : ∀ m, FreshAt chatId m app resumes)
    (hidle : app.data.credentials chatId (.account (Store.slotIdFor slot generated)) ≠
      some (slot.serverUrl, slot.token) → ∀ r ∈ resumes, r.2 = .connect →
      ¬app.data.Under chatId (Store.slotIdFor slot generated) r.1.mailbox) :
    Settling chatId (loginTarget slot generated)
      (.start lib chatId slot generated language app resumes) := by
  refine ⟨(sameParents_addAccount lib).namesParentsOf hnamed, credentials_addAccount_self lib,
    fun m => ?_⟩
  by_cases hunder : app.data.Under chatId (Store.slotIdFor slot generated) m
  · by_cases hother : app.data.credentials chatId (.account (Store.slotIdFor slot generated)) =
        some (slot.serverUrl, slot.token)
    · refine .inl ((hfresh m).addAccount ?_)
      rw [credentials_addAccount_of_under lib hnamed hunder, credentials_of_under hnamed hunder,
        hother]
    · refine .inr (.inl ((hfresh m).outdated hnamed hunder hother fun r hr hm hconnect => ?_))
      exact hidle hother r hr hconnect (hm ▸ hunder)
  · exact .inl ((hfresh m).addAccount (credentials_addAccount_of_not_under lib hnamed hunder))

/-- **The step lemma.** -/
theorem Sound.step (h : Sound lib chatId slot generated language s)
    (hstep : Resume.step config lib chatId s e = some s') (hintime : InTime chatId s e) :
    Sound lib chatId slot generated language s' := by
  cases h with
  | before resumes htasks hnamed hfresh =>
    -- the login stores the slot, or a resume task goes on
    obtain ⟨rest, htask, hstages⟩ |
      ⟨i, t, before, after, instr, rest, hi, -, -, hadvances, htasks'⟩ := before_step htasks hstep
    · refine .after _ hstages
        (settling_start lib language hnamed hfresh fun hother r hr hconnect => ?_)
      refine hintime.addAccount slot generated rest htask hother r.1 ?_
      have hr' : r.2.program r.1 ∈ s.tasks := by
        rw [htasks]
        exact List.mem_cons_of_mem _ (List.mem_map_of_mem hr)
      rwa [hconnect] at hr'
    · refine .before _ htasks' ?_ fun m => ?_
      · exact (sameCredentials_advances hadvances).parents.namesParentsOf hnamed
      · have ht := List.mem_of_getElem? hi
        refine (hfresh m).of_advances hnamed hadvances ((hfresh m).targets _ ht) fun r hr => ?_
        rcases List.mem_or_eq_of_mem_set hr with hr | rfl
        · exact ⟨r, hr, rfl⟩
        · exact ⟨_, ht, rfl⟩
  | after stage hstages hsettling =>
    obtain ⟨mover, stage', instr, rest, hstages', hnext, htask, hruns⟩ := hstages.step hstep
    refine .after stage' hstages' (hsettling.next hnext ?_)
    rintro r rfl hr
    exact hintime.timely hstages htask hruns hr

/-- In such a state, only fresh credentials are used. -/
theorem Sound.connects (h : Sound lib chatId slot generated language s)
    (hstep : Resume.step config lib chatId s e = some s') (hconnects : Connects t s e) :
    t.Fresh s.state.data chatId := by
  obtain ⟨rest, hconnects⟩ := hconnects
  cases h with
  | before resumes htasks hnamed hfresh =>
    obtain ⟨rest', htask, -⟩ | ⟨i, t', before, after, instr, rest', hi, hprogram, htask, -⟩ :=
      before_step htasks hstep
    · rw [hconnects] at htask
      cases htask
    · rw [hconnects] at htask
      obtain ⟨rfl, rfl⟩ := List.cons.inj (Option.some.inj htask)
      obtain ⟨-, rfl⟩ := program_eq_connect hprogram
      exact (hfresh _).targets _ (List.mem_of_getElem? hi) rfl
  | after stage hstages hsettling =>
    obtain ⟨mover, stage', instr, rest', -, -, htask, hruns⟩ := hstages.step hstep
    rw [hconnects] at htask
    obtain ⟨rfl, rfl⟩ := List.cons.inj (Option.some.inj htask)
    rw [hstages.state]
    -- the connecting task is the login or a resume task; `forget*` does not connect
    cases hruns with
    | forgets hbetween => exact absurd hbetween (Instr.not_between id nofun)
    | login hprogram =>
      obtain ⟨-, rfl⟩ := program_eq_connect hprogram
      exact hsettling.fresh
    | @resume _ _ r hr hprogram =>
      obtain ⟨hphase, rfl⟩ := program_eq_connect hprogram
      obtain hfresh | houtdated | htaken := hsettling.mailboxes r.1.mailbox
      · exact hfresh.targets r hr rfl
      · exact absurd hphase (houtdated.targets r hr rfl).2.1
      · exact absurd hphase (htaken.targets r hr rfl).1

/-- Once all tasks have finished, nothing outdated is left. -/
theorem Sound.final (h : Sound lib chatId slot generated language s)
    (hdone : ∀ task ∈ s.tasks, task = []) (m : Mailbox) :
    (∀ c, s.state.client? chatId m = some c → c.Fresh s.state.data chatId m) ∧
      ∀ c, s.state.watcher? chatId m = some c → c.Fresh s.state.data chatId m := by
  cases h with
  | before resumes htasks =>
    -- the login has not even started
    have hnil := hdone (loginProgram chatId slot generated language) (by simp [htasks])
    cases hnil
  | after stage hstages hsettling =>
    have hprogram : stage.forgets ++ stage.phase.program (loginTarget slot generated) = [] :=
      hdone _ (by rw [hstages.tasks]; exact List.mem_cons_self)
    obtain ⟨hforgets, hphase⟩ := List.append_eq_nil_iff.mp hprogram
    obtain hphase : stage.phase = .done := ResumePhase.program_injective _ hphase
    rw [hstages.state]
    obtain hfresh | houtdated | htaken := hsettling.mailboxes m
    · exact ⟨hfresh.client, hfresh.watcher⟩
    -- an outdated mailbox has drops pending, but the login has none left
    · have hpending : stage.pending chatId m = [] := by
        rw [Relogin.pending, hforgets]
        rfl
      have hne : m ≠ (loginTarget slot generated).mailbox := fun hm => by
        obtain hlock | hinsert := houtdated.login hm
        · rw [hphase] at hlock
          cases hlock
        · rw [hphase] at hinsert
          cases hinsert
      refine ⟨fun c hc => ?_, fun c hc => ?_⟩
      · have hmem := (houtdated.client (Option.isSome_of_eq_some hc)).resolve_left hne
        rw [hpending] at hmem
        cases hmem
      · have hmem := houtdated.watcher (Option.isSome_of_eq_some hc)
        rw [hpending] at hmem
        cases hmem
    · exact ⟨htaken.client, htaken.watcher⟩

end

end Jmap2Telegram
