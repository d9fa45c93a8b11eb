import Jmap2Telegram.Resume.Credentials

/-!
# Logging in while boot is resuming

The resume tasks of a chat, each with the credentials the store had for its mailbox at boot, next to
a login that stores new credentials for one of the chat's slots. From `add_account` on, a `Relogin`
says where all of them are, and a mailbox is in one of three conditions: nothing outdated can come
of it (`FreshAt`), what is outdated is still to be dropped or to be replaced (`OutdatedAt`), or the
login has replaced it (`TakenAt`).

* `Relogin.Next`: a step is one of the login's `forget_account`, of its `adopt_account`, or of a
  resume task.
* `InTime`: what a step meets that leaves nothing outdated behind.
-/

namespace Jmap2Telegram

open Transition

/-! ### The tasks -/

/-- The resume tasks boot starts for a chat. -/
def bootResume (account : Account) : List (List Instr) :=
  (persistedTargets account).map ResumePhase.check.program

/-- A chat right after a restart: its record was read from disk, and nothing runs for it yet. -/
structure Booted (app : AppState) (chatId : ChatId) (account : Account) : Prop where
  account : app.data.accounts[chatId]? = some account
  parents : app.data.NamesParents
  clients : ∀ m, app.client? chatId m = none
  watchers : ∀ m, app.watcher? chatId m = none

/-- What a login connects: its `adopt_account` is the one of a resume task. -/
def loginTarget (slot : AccountSlot) (generated : GeneratedSlotId) : ResumeTarget :=
  ⟨.account (Store.slotIdFor slot generated) slot.email, slot.serverUrl, slot.token⟩

/-- The programs of resume tasks. -/
def resumePrograms (resumes : List (ResumeTarget × ResumePhase)) : List (List Instr) :=
  resumes.map fun r => r.2.program r.1

section

variable {config : Config} {lib : Externals} {chatId : ChatId} {s s' : System AppState Instr}
  {e : ℕ × Answer} {program : List Instr} {resumes : List (ResumeTarget × ResumePhase)}

/-- **A step** is one of the task next to the resume tasks, or one of a resume task. -/
theorem resuming_step (htasks : s.tasks = program :: resumePrograms resumes)
    (hstep : Resume.step config lib chatId s e = some s') :
    (∃ instr rest, program = instr :: rest ∧ s.tasks[e.1]? = some (instr :: rest) ∧
      s'.state = (instr.exec config lib chatId e.2 s.state).1 ∧
      s'.tasks = ((instr.exec config lib chatId e.2 s.state).2 ++ rest) :: resumePrograms resumes ∧
      ∀ r ∈ resumes, r.2.locked = true → instr.locks ≠ some r.1.mailbox.watchers) ∨
    ∃ i t phase phase' instr rest, resumes[i]? = some (t, phase) ∧
      phase.program t = instr :: rest ∧ s.tasks[e.1]? = some (instr :: rest) ∧
      Advances lib chatId t s.state phase s'.state phase' ∧
      s'.tasks = program :: resumePrograms (resumes.set i (t, phase')) ∧
      ∀ j ∈ program, instr.locks = some t.mailbox.watchers →
        j.unlocks ≠ some t.mailbox.watchers := by
  obtain ⟨instr, rest, htask, hblocked, rfl⟩ := System.step_eq_some_iff.mp hstep
  have hfree : ∀ w, instr.locks = some w → ∀ p ∈ s.tasks, ∀ j ∈ p, j.unlocks ≠ some w := by
    intro w hw p hp j hj hunlocks
    rw [Instr.blocked, hw, Option.any_some, List.any_eq_false] at hblocked
    refine hblocked p hp (List.any_eq_true.mpr ⟨j, hj, ?_⟩)
    rw [hunlocks]
    exact beq_self_eq_true _
  -- the first task is the program, the others are the resume tasks
  rcases hi : e.1 with - | i
  · refine .inl ⟨instr, rest, ?_, by rw [← hi, htask], rfl, ?_, fun r hr hlocked hlocks => ?_⟩
    · rw [htasks, hi] at htask
      exact Option.some.inj htask
    · rw [htasks]
      rfl
    · -- the task that holds the lock has still to release it
      have hunlocks := ResumePhase.any_unlocks r.1 r.2 r.1.mailbox.watchers
      rw [hlocked, beq_self_eq_true, Bool.and_true, List.any_eq_true] at hunlocks
      obtain ⟨j, hj, hunlocks⟩ := hunlocks
      refine hfree _ hlocks _ ?_ j hj (beq_iff_eq.mp hunlocks)
      rw [htasks]
      exact List.mem_cons_of_mem _ (List.mem_map_of_mem hr)
  · have htask' := htask
    rw [htasks, hi, List.getElem?_cons_succ, resumePrograms, List.getElem?_map,
      Option.map_eq_some_iff] at htask'
    obtain ⟨⟨t, phase⟩, ht, hprogram⟩ := htask'
    obtain ⟨phase', hnext, hadvances⟩ := exec_program config lib chatId hprogram e.2 s.state
    refine .inr ⟨i, t, phase, phase', instr, rest, ht, hprogram, by rw [← hi, htask], hadvances, ?_,
      fun j hj hlocks => hfree _ hlocks program ?_ j hj⟩
    · rw [htasks, hnext, resumePrograms, resumePrograms, List.map_set]
      rfl
    · rw [htasks]
      exact List.mem_cons_self

end

/-! ### The stages of a login -/

/-- Where a login and the resume tasks are, from `add_account` on: the login runs `forgets`, and is
then where `phase` says in `adopt_account`. -/
structure Relogin where
  app : AppState
  forgets : List Instr
  phase : ResumePhase
  resumes : List (ResumeTarget × ResumePhase)

namespace Relogin

/-- What the tasks have still to do. -/
def tasks (login : ResumeTarget) (stage : Relogin) : List (List Instr) :=
  (stage.forgets ++ stage.phase.program login) :: resumePrograms stage.resumes

/-- What the login has still to drop of a mailbox. -/
def pending (chatId : ChatId) (m : Mailbox) (stage : Relogin) : List Drop :=
  pendingDrops stage.app.data chatId m stage.forgets

/-- A step from `add_account` on, and the resume task that takes it, if it is one. -/
inductive Next (lib : Externals) (chatId : ChatId) (login : ResumeTarget) :
    Relogin → Option (ResumeTarget × ResumePhase) → Relogin → Prop where
  | forgets {app app' : AppState} {forgets forgets' : List Instr}
    {resumes : List (ResumeTarget × ResumePhase)} (h : SameCredentials chatId app.data app'.data)
    (hdrops : ∀ m, ∃ d : Option Drop, pendingDrops app.data chatId m forgets =
        d.toList ++ pendingDrops app'.data chatId m forgets' ∧ Dropped chatId m app app' d ∧
      (d = some .watcher → ∀ r ∈ resumes, r.1.mailbox = m → r.2.locked = false)) :
    Next lib chatId login ⟨app, forgets, .lock, resumes⟩ none ⟨app', forgets', .lock, resumes⟩
  | login {app app' : AppState} {phase phase' : ResumePhase}
    {resumes : List (ResumeTarget × ResumePhase)}
    (h : Advances lib chatId login app phase app' phase')
    (hfree : phase = .lock → ∀ r ∈ resumes, r.1.mailbox = login.mailbox → r.2.locked = false) :
    Next lib chatId login ⟨app, [], phase, resumes⟩ none ⟨app', [], phase', resumes⟩
  | resume {app app' : AppState} {forgets : List Instr} {phase : ResumePhase}
    {resumes : List (ResumeTarget × ResumePhase)} {i : ℕ} {t : ResumeTarget}
    {before after : ResumePhase} (hi : resumes[i]? = some (t, before))
    (h : Advances lib chatId t app before app' after)
    (hfree : before = .lock ∨ before = .adopted → t.mailbox = login.mailbox →
      phase.locked = false) :
    Next lib chatId login ⟨app, forgets, phase, resumes⟩ (some (t, before))
      ⟨app', forgets, phase, resumes.set i (t, after)⟩

end Relogin

/-! ### One mailbox -/

/-- Whether `adopt_*` has started the watcher. -/
def ResumePhase.watching : ResumePhase → Bool
  | ensureTopic | setTopic | unlock | done => true
  | _ => false

/-- Nothing outdated can come of a mailbox: its client, its watcher and its resume task have the
credentials the store has. -/
structure FreshAt (chatId : ChatId) (m : Mailbox) (app : AppState)
    (resumes : List (ResumeTarget × ResumePhase)) : Prop where
  client : ∀ c, app.client? chatId m = some c → c.Fresh app.data chatId m
  watcher : ∀ c, app.watcher? chatId m = some c → c.Fresh app.data chatId m
  targets : ∀ r ∈ resumes, r.1.mailbox = m → r.1.Fresh app.data chatId

/-- The login has still to drop or to replace what a mailbox has. -/
structure OutdatedAt (chatId : ChatId) (login : ResumeTarget) (m : Mailbox) (stage : Relogin) :
    Prop where
  kind : m = login.mailbox ∨ ∃ a, m = .shared a
  client : (stage.app.client? chatId m).isSome →
    m = login.mailbox ∨ .client ∈ stage.pending chatId m
  watcher : (stage.app.watcher? chatId m).isSome → .watcher ∈ stage.pending chatId m
  login : m = login.mailbox → stage.phase = .lock ∨ stage.phase = .insertClient
  targets : ∀ r ∈ stage.resumes, r.1.mailbox = m → ¬r.1.Fresh stage.app.data chatId ∧
    r.2 ≠ .connect ∧ (r.2.locked = true → .watcher ∈ stage.pending chatId m)

/-- The login has replaced what its mailbox has, and keeps the resume task out: by the lock, and
then by its watcher. -/
structure TakenAt (chatId : ChatId) (login : ResumeTarget) (m : Mailbox) (stage : Relogin) :
    Prop where
  mailbox : m = login.mailbox
  client : ∀ c, stage.app.client? chatId m = some c → c.Fresh stage.app.data chatId m
  watcher : ∀ c, stage.app.watcher? chatId m = some c → c.Fresh stage.app.data chatId m
  held : stage.phase = .spawn ∨ stage.phase = .insertWatcher ∨
    stage.phase.watching = true ∧ (stage.app.watcher? chatId m).isSome
  targets : ∀ r ∈ stage.resumes, r.1.mailbox = m → r.2 ≠ .connect ∧ r.2.locked = false

/-- What an outdated resume task meets that leaves nothing outdated behind: a watcher when it looks
for one before it connects, a watcher or one that is still to be dropped when it has connected, and
a client that is still to be dropped when it caches one for a shared account. -/
structure Timely (chatId : ChatId) (stage : Relogin) (r : ResumeTarget × ResumePhase) : Prop where
  adopted : r.2 = .adopted → (stage.app.watcher? chatId r.1.mailbox).isSome
  lock : r.2 = .lock → (stage.app.watcher? chatId r.1.mailbox).isSome ∨
    .watcher ∈ stage.pending chatId r.1.mailbox
  insertClient : r.2 = .insertClient → ∀ a, r.1.mailbox = .shared a →
    .client ∈ stage.pending chatId r.1.mailbox

section

variable {lib : Externals} {chatId : ChatId} {m : Mailbox} {app app' : AppState}
  {t login : ResumeTarget} {phase phase' : ResumePhase} {stage stage' : Relogin}
  {resumes resumes' : List (ResumeTarget × ResumePhase)}
  {mover : Option (ResumeTarget × ResumePhase)}

/-- A step of the resume task of one mailbox leaves the resume tasks of the others. -/
theorem forall_set {i : ℕ} {P : ResumeTarget × ResumePhase → Prop}
    (h : ∀ r ∈ resumes, r.1.mailbox = m → P r) (hP : t.mailbox = m → P (t, phase)) :
    ∀ r ∈ resumes.set i (t, phase), r.1.mailbox = m → P r := by
  intro r hr hm
  rcases List.mem_or_eq_of_mem_set hr with hr | rfl
  · exact h r hr hm
  · exact hP hm

/-- A task that caches a client does it with the credentials it read. -/
theorem Advances.fresh_client (hadvances : Advances lib chatId t app phase app' phase')
    (hnamed : app.data.NamesParentsOf chatId)
    (ht : phase = .insertClient ∧ t.mailbox = m → t.Fresh app.data chatId)
    (h : ∀ c, app.client? chatId m = some c → c.Fresh app.data chatId m) (c : Client)
    (hc : app'.client? chatId m = some c) : c.Fresh app'.data chatId m := by
  rw [(sameCredentials_advances hadvances).client_fresh_iff hnamed]
  rw [hadvances.client?_eq] at hc
  split at hc
  case isTrue heq =>
    cases hc
    exact heq.2 ▸ ht heq
  case isFalse => exact h c hc

/-- So does one that starts a watcher. -/
theorem Advances.fresh_watcher (hadvances : Advances lib chatId t app phase app' phase')
    (hnamed : app.data.NamesParentsOf chatId)
    (ht : phase = .insertWatcher ∧ t.mailbox = m → t.Fresh app.data chatId)
    (h : ∀ c, app.watcher? chatId m = some c → c.Fresh app.data chatId m) (c : Client)
    (hc : app'.watcher? chatId m = some c) : c.Fresh app'.data chatId m := by
  rw [(sameCredentials_advances hadvances).client_fresh_iff hnamed]
  rw [hadvances.watcher?_eq] at hc
  split at hc
  case isTrue heq =>
    cases hc
    exact heq.2 ▸ ht heq
  case isFalse => exact h c hc

theorem FreshAt.of_advances (h : FreshAt chatId m app resumes)
    (hnamed : app.data.NamesParentsOf chatId)
    (hadvances : Advances lib chatId t app phase app' phase')
    (ht : t.mailbox = m → t.Fresh app.data chatId)
    (hresumes : ∀ r ∈ resumes', ∃ r' ∈ resumes, r.1 = r'.1) : FreshAt chatId m app' resumes' := by
  refine ⟨hadvances.fresh_client hnamed (fun heq => ht heq.2) h.client,
    hadvances.fresh_watcher hnamed (fun heq => ht heq.2) h.watcher, fun r hr hm => ?_⟩
  obtain ⟨r', hr', heq⟩ := hresumes r hr
  rw [(sameCredentials_advances hadvances).target_fresh_iff hnamed]
  rw [heq] at hm ⊢
  exact h.targets r' hr' hm

theorem FreshAt.of_dropped (h : FreshAt chatId m app resumes) {d : Option Drop}
    (hsame : app'.data.credentials chatId m = app.data.credentials chatId m)
    (hdropped : Dropped chatId m app app' d) : FreshAt chatId m app' resumes := by
  refine ⟨fun c hc => ?_, fun c hc => ?_, fun r hr hm => ?_⟩
  · rw [hdropped.client] at hc
    rw [Client.Fresh, hsame]
    exact h.client c (Option.ite_none_left_eq_some.mp hc).2
  · rw [hdropped.watcher] at hc
    rw [Client.Fresh, hsame]
    exact h.watcher c (Option.ite_none_left_eq_some.mp hc).2
  · rw [ResumeTarget.Fresh, hm, hsame, ← hm]
    exact h.targets r hr hm

/-- A mailbox stays fresh. -/
theorem FreshAt.next (h : FreshAt chatId m stage.app stage.resumes)
    (hnamed : stage.app.data.NamesParentsOf chatId) (hlogin : login.Fresh stage.app.data chatId)
    (hnext : Relogin.Next lib chatId login stage mover stage') :
    FreshAt chatId m stage'.app stage'.resumes := by
  cases hnext with
  | forgets hsame hdrops =>
    obtain ⟨d, -, hdropped, -⟩ := hdrops m
    exact h.of_dropped (hsame.credentials_eq hnamed m) hdropped
  | login hadvances =>
    exact h.of_advances hnamed hadvances (fun _ => hlogin) fun r hr => ⟨r, hr, rfl⟩
  | resume hi hadvances =>
    have ht := List.mem_of_getElem? hi
    refine h.of_advances hnamed hadvances (h.targets _ ht) fun r hr => ?_
    rcases List.mem_or_eq_of_mem_set hr with hr | rfl
    · exact ⟨r, hr, rfl⟩
    · exact ⟨_, ht, rfl⟩

/-- What is outdated is dropped, or the login replaces it. -/
theorem OutdatedAt.next (h : OutdatedAt chatId login m stage)
    (hnamed : stage.app.data.NamesParentsOf chatId) (hlogin : login.Fresh stage.app.data chatId)
    (hnext : Relogin.Next lib chatId login stage mover stage')
    (htimely : ∀ r, mover = some r → r.1.mailbox = m → Timely chatId stage r) :
    OutdatedAt chatId login m stage' ∨ TakenAt chatId login m stage' := by
  cases hnext with
  | @forgets app app' forgets forgets' resumes hsame hdrops =>
    obtain ⟨d, hpending, hdropped, hlocked⟩ := hdrops m
    refine .inl ⟨h.kind, fun hsome => ?_, fun hsome => ?_, h.login, fun r hr hm => ?_⟩
    · rw [hdropped.client] at hsome
      split at hsome
      · cases hsome
      case isFalse hd =>
        exact (h.client hsome).imp_right fun hmem => mem_of_dropped hpending hmem hd
    · rw [hdropped.watcher] at hsome
      split at hsome
      · cases hsome
      case isFalse hd => exact mem_of_dropped hpending (h.watcher hsome) hd
    · obtain ⟨hfresh, hidle, hpend⟩ := h.targets r hr hm
      refine ⟨fun hfresh' => hfresh ((hsame.target_fresh_iff hnamed).mp hfresh'), hidle,
        fun hlock => ?_⟩
      -- the watcher is not dropped while the task has the lock
      refine mem_of_dropped hpending (hpend hlock) fun hd => ?_
      rw [hlocked hd r hr hm] at hlock
      cases hlock
  | @login app app' phase phase' resumes hadvances hfree =>
    have hsame := sameCredentials_advances hadvances
    have htargets : ∀ r ∈ resumes, r.1.mailbox = m → ¬r.1.Fresh app'.data chatId ∧
        r.2 ≠ .connect ∧ (r.2.locked = true → Drop.watcher ∈ []) := by
      intro r hr hm
      rw [hsame.target_fresh_iff hnamed]
      exact h.targets r hr hm
    have hnone : app.watcher? chatId m = none := by
      rw [← Option.not_isSome_iff_eq_none]
      exact fun hsome => List.not_mem_nil (h.watcher hsome)
    -- once nothing is pending, the login may replace the client of its own mailbox
    by_cases hm : m = login.mailbox
    · subst hm
      obtain rfl | rfl := h.login rfl
      · cases hadvances with
        | lost hsome =>
          rw [hnone] at hsome
          cases hsome
        | locked _ => exact .inl ⟨h.kind, h.client, h.watcher, fun _ => .inr rfl, htargets⟩
      · cases hadvances with
        | insertClient =>
          refine .inr ⟨rfl, fun c hc => ?_, fun c hc => ?_, .inl rfl, fun r hr hm => ?_⟩
          · rw [AppState.client?_insertClient, if_pos ⟨rfl, rfl⟩] at hc
            cases hc
            rw [Client.Fresh, AppState.data_insertClient]
            exact hlogin
          · rw [AppState.watcher?_insertClient, hnone] at hc
            cases hc
          · obtain ⟨-, hidle, hlock⟩ := htargets r hr hm
            exact ⟨hidle, Bool.eq_false_iff.mpr fun hl => List.not_mem_nil (hlock hl)⟩
    · refine .inl ⟨h.kind, fun hsome => ?_, fun hsome => ?_, fun hm' => absurd hm' hm, htargets⟩
      · rw [hadvances.client?_of_ne (Ne.symm hm)] at hsome
        exact h.client hsome
      · rw [hadvances.watcher?_of_ne (Ne.symm hm)] at hsome
        exact h.watcher hsome
  | @resume app app' forgets phase resumes i t before after hi hadvances hfree =>
    have hsame := sameCredentials_advances hadvances
    have hpending := pendingDrops_of_advances hadvances m forgets
    have ht := List.mem_of_getElem? hi
    refine .inl ⟨h.kind, fun hsome => ?_, fun hsome => ?_, h.login,
      forall_set (fun r hr hm => ?_) fun hm => ?_⟩
    · rw [Relogin.pending, hpending]
      rw [hadvances.client?_eq] at hsome
      split at hsome
      case isFalse => exact h.client hsome
      case isTrue heq =>
        -- a client that is cached in time has its drop still pending
        obtain ⟨hbefore, hm⟩ := heq
        refine h.kind.imp_right fun hshared => ?_
        obtain ⟨a, ha⟩ := hshared
        have hdrop := (htimely _ rfl hm).insertClient hbefore a (hm.trans ha)
        rwa [hm] at hdrop
    · rw [Relogin.pending, hpending]
      rw [hadvances.watcher?_eq] at hsome
      split at hsome
      case isFalse => exact h.watcher hsome
      case isTrue heq =>
        obtain ⟨rfl, hm⟩ := heq
        exact (h.targets _ ht hm).2.2 rfl
    · rw [Relogin.pending, hpending, hsame.target_fresh_iff hnamed]
      exact h.targets r hr hm
    · obtain ⟨hfresh, hidle, hlock⟩ := h.targets _ ht hm
      have htimely := htimely _ rfl hm
      rw [Relogin.pending, hpending, hsame.target_fresh_iff hnamed]
      refine ⟨hfresh, ?_, ?_⟩
      -- a task that found no watcher would connect next, which is not in time
      · cases hadvances with
        | free hnone =>
          have hsome := htimely.adopted rfl
          rw [hnone] at hsome
          cases hsome
        | _ => simp
      · cases hadvances with
        | locked hnone =>
          intro _
          refine hm ▸ (htimely.lock rfl).resolve_left fun hsome => ?_
          rw [hnone] at hsome
          cases hsome
        | insertClient | spawn | insertWatcher | hasTopic | needsTopic | setTopic =>
          exact fun _ => hlock rfl
        | _ => simp [ResumePhase.locked]

/-- What the login has replaced stays. -/
theorem TakenAt.next (h : TakenAt chatId login m stage)
    (hnamed : stage.app.data.NamesParentsOf chatId) (hlogin : login.Fresh stage.app.data chatId)
    (hnext : Relogin.Next lib chatId login stage mover stage') : TakenAt chatId login m stage' := by
  obtain ⟨rfl, hclient, hwatcher, hheld, htargets⟩ := h
  cases hnext with
  -- by then the login is past `forget*`
  | forgets => simp [ResumePhase.watching] at hheld
  | @login app app' phase phase' resumes hadvances hfree =>
    refine ⟨rfl, hadvances.fresh_client hnamed (fun _ => hlogin) hclient,
      hadvances.fresh_watcher hnamed (fun _ => hlogin) hwatcher, ?_, htargets⟩
    cases hadvances with
    -- the lock is held from before the watcher is started until it is there
    | spawn => exact .inr (.inl rfl)
    | insertWatcher =>
      refine .inr (.inr ⟨rfl, ?_⟩)
      simp [AppState.watcher?_insertWatcher]
    | setTopic created =>
      obtain ⟨data, heq⟩ := setTopic_eq lib chatId app created login.mailbox
      simpa [ResumePhase.watching, heq] using hheld
    | hasTopic | needsTopic | unlock => simpa [ResumePhase.watching] using hheld
    | _ => simp [ResumePhase.watching] at hheld
  | @resume app app' forgets phase resumes i t before after hi hadvances hfree =>
    have ht := htargets _ (List.mem_of_getElem? hi)
    -- nobody takes the lock before there is a watcher
    have hsome : before = .lock ∨ before = .adopted → t.mailbox = login.mailbox →
        (app.watcher? chatId t.mailbox).isSome := by
      intro hbefore hm
      have hphase := hfree hbefore hm
      rw [hm]
      obtain rfl | rfl | ⟨-, hsome⟩ := hheld
      · cases hphase
      · cases hphase
      · exact hsome
    have hother : ∀ {p : ResumePhase}, p.locked = true →
        ¬(before = p ∧ t.mailbox = login.mailbox) := by
      rintro p hp ⟨rfl, hm⟩
      rw [(ht hm).2] at hp
      cases hp
    refine ⟨rfl, hadvances.fresh_client hnamed (fun heq => absurd heq (hother rfl)) hclient,
      hadvances.fresh_watcher hnamed (fun heq => absurd heq (hother rfl)) hwatcher, ?_,
      forall_set htargets fun hm => ?_⟩
    · rw [hadvances.watcher?_eq, if_neg (hother rfl)]
      exact hheld
    · obtain ⟨hidle, hlock⟩ := ht hm
      cases hadvances with
      | free hnone | locked hnone =>
        have hsome := hsome (by simp) hm
        rw [hnone] at hsome
        cases hsome
      | insertClient | spawn | insertWatcher | hasTopic | needsTopic | setTopic | unlock =>
        cases hlock
      | _ => simp [ResumePhase.locked]

end

/-! ### A step of the login -/

/-- The instructions of a login between `add_account` and `adopt_account`. -/
def Instr.Between (chatId : ChatId) (instr : Instr) : Prop :=
  instr.Forgets ∨ ∃ language, instr = .call (.setLanguage chatId language)

section

variable {config : Config} {lib : Externals} {chatId : ChatId} {instr : Instr}

theorem Instr.not_between (hforgets : ¬instr.Forgets)
    (hcall : ∀ language, instr ≠ .call (.setLanguage chatId language)) :
    ¬instr.Between chatId := by
  rintro (h | ⟨language, heq⟩)
  · exact hforgets h
  · exact hcall language heq

/-- An instruction between `add_account` and `adopt_account` leaves all credentials, and drops what
it is about. -/
theorem exec_between (config : Config) (lib : Externals) (h : instr.Between chatId)
    (answer : Answer)
    (app : AppState) :
    SameCredentials chatId app.data (instr.exec config lib chatId answer app).1.data ∧
      (∀ i ∈ (instr.exec config lib chatId answer app).2, i.Between chatId) ∧
      ∀ m, ∃ d : Option Drop, instr.drops app.data chatId m =
          d.toList ++ pendingDrops app.data chatId m (instr.exec config lib chatId answer app).2 ∧
        Dropped chatId m app (instr.exec config lib chatId answer app).1 d ∧
        (d = some .watcher → instr.locks = some m.watchers) := by
  obtain hforgets | ⟨language, rfl⟩ := h
  · obtain ⟨hdata, hnext, -⟩ := exec_forgets config lib chatId (.account "") app answer hforgets
    refine ⟨?_, fun i hi => .inl (hnext i hi), fun m => ?_⟩
    · rw [hdata]
      exact .refl _
    · obtain ⟨-, -, hdrops⟩ := exec_forgets config lib chatId m app answer hforgets
      exact hdrops
  -- `set_language` changes neither credentials nor caches
  · have hnext : ((Instr.call (.setLanguage chatId language)).exec config lib chatId answer app).2 =
        [] := by
      simp only [Instr.exec, Op.lockedSection, Store.setLanguage]
      rcases app.data.accounts[chatId]? with - | account <;> rfl
    rw [hnext]
    refine ⟨sameCredentials_setLanguage language, by simp, fun m => ⟨none, rfl, ?_, by simp⟩⟩
    exact .nothing (by simp [Instr.exec]) (by simp [Instr.exec]) Iff.rfl

end

/-- A system is at a stage of a login. -/
structure LoggingIn (chatId : ChatId) (login : ResumeTarget) (stage : Relogin)
    (s : System AppState Instr) : Prop where
  state : s.state = stage.app
  tasks : s.tasks = stage.tasks login
  forgets : ∀ i ∈ stage.forgets, i.Between chatId
  lock : stage.forgets ≠ [] → stage.phase = .lock

/-- The next instruction of a task of a login, or of a resume task. -/
inductive Relogin.Runs (chatId : ChatId) (login : ResumeTarget) (stage : Relogin) :
    Option (ResumeTarget × ResumePhase) → Instr → Prop where
  | forgets {instr : Instr} (h : instr.Between chatId) : Runs chatId login stage none instr
  | login {instr : Instr} {rest : List Instr} (h : stage.phase.program login = instr :: rest) :
    Runs chatId login stage none instr
  | resume {instr : Instr} {rest : List Instr} {r : ResumeTarget × ResumePhase}
    (hr : r ∈ stage.resumes) (h : r.2.program r.1 = instr :: rest) :
    Runs chatId login stage (some r) instr

section

variable {config : Config} {lib : Externals} {chatId : ChatId} {login : ResumeTarget}
  {stage : Relogin} {s s' : System AppState Instr} {e : ℕ × Answer}

/-- **A step of a login among resume tasks** takes it to the next stage. -/
theorem LoggingIn.step (h : LoggingIn chatId login stage s)
    (hstep : Resume.step config lib chatId s e = some s') :
    ∃ mover stage' instr rest, LoggingIn chatId login stage' s' ∧
      stage.Next lib chatId login mover stage' ∧ s.tasks[e.1]? = some (instr :: rest) ∧
      stage.Runs chatId login mover instr := by
  obtain ⟨app, forgets, phase, resumes⟩ := stage
  obtain ⟨hstate, htasks, hforgets, hlock⟩ := h
  dsimp only at hstate hforgets hlock
  obtain ⟨instr, rest, hprogram, htask, happ, htasks', hfree⟩ |
    ⟨i, t, before, after, instr, rest, hi, hprogram, htask, hadvances, htasks', hfree⟩ :=
    resuming_step htasks hstep
  · dsimp only at hprogram htasks' hfree
    rcases forgets with - | ⟨first, forgets⟩
    · -- the login is in `adopt_account`
      obtain ⟨phase', hnext, hadvances⟩ := exec_program config lib chatId hprogram e.2 s.state
      refine ⟨none, ⟨s'.state, [], phase', resumes⟩, instr, rest, ⟨rfl, ?_, by simp, by simp⟩,
        .login ?_ ?_, htask, .login hprogram⟩
      · rw [htasks', hnext]
        rfl
      · rwa [happ, ← hstate]
      · rintro rfl r hr hm
        obtain ⟨rfl, rfl⟩ := List.cons.inj hprogram
        by_contra hlocked
        refine hfree r hr (eq_true_of_ne_false hlocked) ?_
        rw [Instr.locks, hm]
    -- the login is between `add_account` and `adopt_account`
    · obtain ⟨rfl, rfl⟩ := List.cons.inj hprogram
      obtain rfl := hlock (List.cons_ne_nil _ _)
      have hbetween := hforgets first List.mem_cons_self
      obtain ⟨hsame, hnext, hdrops⟩ := exec_between config lib hbetween e.2 app
      rw [hstate] at happ htasks'
      refine ⟨none, ⟨s'.state, (first.exec config lib chatId e.2 app).2 ++ forgets, .lock, resumes⟩,
        first, _, ⟨rfl, ?_, fun i hi => ?_, fun _ => rfl⟩, .forgets ?_ fun m => ?_, htask,
        .forgets hbetween⟩
      · rw [htasks', Relogin.tasks]
        exact congrArg (fun p => p :: resumePrograms resumes) (List.append_assoc _ _ _).symm
      · rcases List.mem_append.mp hi with hi | hi
        · exact hnext i hi
        · exact hforgets i (List.mem_cons_of_mem _ hi)
      · rwa [happ]
      · obtain ⟨d, hd, hdropped, hlocks⟩ := hdrops m
        rw [happ]
        refine ⟨d, ?_, hdropped, fun hwatcher r hr hm => ?_⟩
        · rw [hsame.pendingDrops_eq, pendingDrops_append, ← List.append_assoc, ← hd]
          rfl
        · by_contra hlocked
          refine hfree r hr (eq_true_of_ne_false hlocked) ?_
          rw [hm]
          exact hlocks hwatcher
  · dsimp only at hi htasks' hfree
    refine ⟨some (t, before), ⟨s'.state, forgets, phase, resumes.set i (t, after)⟩, instr, rest,
      ⟨rfl, htasks', hforgets, hlock⟩, .resume hi (hstate ▸ hadvances) fun hbefore hm => ?_, htask,
      .resume (List.mem_of_getElem? hi) hprogram⟩
    by_contra hlocked
    -- the login has still to release the lock
    have hunlocks := ResumePhase.any_unlocks login phase login.mailbox.watchers
    rw [eq_true_of_ne_false hlocked, beq_self_eq_true, Bool.and_true, List.any_eq_true] at hunlocks
    obtain ⟨j, hj, hunlocks⟩ := hunlocks
    refine hfree j (List.mem_append_right _ hj) ?_ (hm ▸ beq_iff_eq.mp hunlocks)
    obtain rfl | rfl := hbefore
    · obtain ⟨rfl, rfl⟩ := List.cons.inj hprogram
      rfl
    · obtain ⟨rfl, rfl⟩ := List.cons.inj hprogram
      rfl

end

end Jmap2Telegram
