import Jmap2Telegram.Watcher.Delivery

/-!
# Catching up

A sync asks for fifty changes and does not look whether the server has more, so what is left waits
for the next one. The server is free to answer with fewer. How far a watcher gets is then a matter
of the rounds it finishes: each moves the cursor by what the server answered, and a round that
fails moves it by nothing.

* `Serves`: the server answers with so many changes, or with all there are.
* `catches_up`: so many rounds are enough to handle all there was.
-/

namespace Jmap2Telegram.Watcher

open Transition

variable {w : Watcher}

/-- Where the round in progress will leave the cursor. -/
def goal : Phase → Option String
  | .idle | .baseline | .changes _ => none
  | .mailboxes _ _ newState | .fetching _ _ _ _ newState | .delivering _ _ newState
  | .resending _ _ _ newState => some newState

/-- When the watcher asks what is new, the server answers with at least `m` changes, or with all up
to the `N`-th, or it fails. -/
def Serves (w : Watcher) (m N : ℕ) (s : SyncState) : SyncEvent → Prop
  | .changes (some n) => ∀ q, w.cursor s = some (w.log.stateAt q) → min m (N - q) ≤ n
  | _ => True

/-- The rounds that were finished. -/
def finishedRounds (es : List SyncEvent) : ℕ :=
  es.countP fun
    | .finish _ => true
    | _ => false

/-- The cursor is at the `q`-th change, and the round in progress, if it has its answer, will move
it by `m` changes at least, or up to the `N`-th. -/
structure Due (w : Watcher) (m N q : ℕ) (s : SyncState) : Prop where
  cursor : w.cursor s = some (w.log.stateAt q)
  tracks : ∃ done, Tracks w q done s.phase
  goal : ∀ newState, goal s.phase = some newState →
    ∃ n, newState = w.log.stateAt (q + n) ∧ min m (N - q) ≤ n

section

variable {m N q : ℕ} {s s' : SyncState}

theorem StartsAt.due {p : ℕ} (h : StartsAt w p s) : Due w m N p s where
  cursor := h.cursor
  tracks := ⟨[], h.phase ▸ .idle⟩
  goal newState hgoal := by
    rw [h.phase] at hgoal
    cases hgoal

theorem goal_fetch (round : Round) (roles : Map String Role) (todo : List String)
    (changed : List Item) (newState : String) :
    goal (fetch round roles todo changed newState) = some newState := by
  rw [fetch]
  split <;> rfl

/-- A step that leaves the cursor, and with it the round in progress or what was answered to it. -/
theorem Due.stay (h : Due w m N q s) {done : List String} (hprogress : Progress w q done s s')
    (hcursor : w.cursor s' = w.cursor s)
    (hgoal : ∀ newState, Watcher.goal s'.phase = some newState →
      Watcher.goal s.phase = some newState ∨
        ∃ n, newState = w.log.stateAt (q + n) ∧ min m (N - q) ≤ n) : Due w m N q s' where
  cursor := hcursor.trans h.cursor
  tracks := by
    cases hprogress with
    | stay _ htracks | handle _ _ _ htracks => exact ⟨_, htracks⟩
    | advance _ _ _ hphase => exact ⟨[], hphase ▸ .idle⟩
  goal newState hnew := (hgoal newState hnew).elim (h.goal newState) id

/-- A step never takes the cursor back, and finishing a round takes it on. -/
theorem Due.step (h : Due w m N q s) {e : SyncEvent} (he : e ≠ .restart)
    (hserves : Serves w m N s e) (hstep : w.step s e = some s') :
    ∃ q', Due w m N q' s' ∧ q ≤ q' ∧ ∀ persist, e = .finish persist → min N (q + m) ≤ q' := by
  obtain ⟨done, htracks⟩ := h.tracks
  have hprogress := progress_step he h.cursor htracks hstep
  have hanswered : ∀ {round : Round} {count : Option ℕ} {created : List String}
      {newState : String}, e = .changes count → s.phase = .changes round →
      (count.bind fun n => w.log.changes round.since n) = some (created, newState) →
      ∃ n, newState = w.log.stateAt (q + n) ∧ min m (N - q) ≤ n := by
    rintro round count created newState rfl hphase hanswer
    rw [hphase] at htracks
    cases htracks with
    | changes hsince =>
      obtain ⟨n, rfl, hn⟩ := Option.bind_eq_some_iff.mp hanswer
      rw [hsince, ChangeLog.changes_stateAt] at hn
      cases hn
      exact ⟨n, rfl, hserves q h.cursor⟩
  have hstay : ∀ {s₁ : SyncState}, s' = s₁ → w.cursor s₁ = w.cursor s →
      (∀ newState, Watcher.goal s₁.phase = some newState →
        Watcher.goal s.phase = some newState ∨
          ∃ n, newState = w.log.stateAt (q + n) ∧ min m (N - q) ≤ n) →
      (∀ persist, e ≠ .finish persist) →
      ∃ q', Due w m N q' s' ∧ q ≤ q' ∧ ∀ persist, e = .finish persist → min N (q + m) ≤ q' := by
    rintro _ rfl hcursor hgoal hfinish
    exact ⟨q, h.stay hprogress hcursor hgoal, le_rfl,
      fun persist heq => absurd heq (hfinish persist)⟩
  have heffect := stepEffect hstep
  cases heffect with
  | sync hphase =>
    refine hstay rfl rfl (fun newState hnew => ?_) (by simp)
    obtain ⟨account, haccount, hsince⟩ := Option.bind_eq_some_iff.mp h.cursor
    have hstart : w.start s = .changes ⟨account, w.log.stateAt q⟩ := by
      simp only [start, haccount, hsince]
    rw [hstart] at hnew
    cases hnew
  | noBaseline hphase | baseline hphase =>
    rw [hphase] at htracks
    cases htracks
  | nothingCreated hphase hanswer | created hphase hanswer =>
    refine hstay rfl rfl (fun newState hnew => .inr ?_) (by simp)
    cases hnew
    exact hanswered rfl hphase hanswer
  | noChanges | noMailboxes | notFetched =>
    exact hstay rfl rfl (fun newState hnew => by cases hnew) (by simp)
  | mailboxes hphase | fetched hphase =>
    refine hstay rfl rfl (fun newState hnew => .inl ?_) (by simp)
    rw [goal_fetch] at hnew
    rw [hphase]
    exact hnew
  | pass hphase | sent hphase | sendFailed hphase | resend hphase =>
    refine hstay rfl rfl (fun newState hnew => .inl ?_) (by simp)
    rw [hphase]
    exact hnew
  | threadNotFound hphase =>
    refine hstay rfl (cursor_exec_clearThread s _) (fun newState hnew => .inl ?_) (by simp)
    rw [hphase]
    exact hnew
  | finishUnchanged hphase hsame =>
    -- the round was about nothing: all there is has been seen
    rw [hphase] at htracks
    obtain ⟨n, -, hstate, hsince⟩ := done_of_delivering htracks
    obtain ⟨n', hstate', hle⟩ := h.goal _ (by rw [hphase]; rfl)
    have hn' : n' = 0 := by
      have hat := w.log.stateAt_injective (hstate'.symm.trans (hsame.trans hsince))
      omega
    refine ⟨q, h.stay hprogress rfl fun newState hnew => by (cases hnew), le_rfl, fun _ _ => ?_⟩
    omega
  | @finish round newState persist hphase hmoved =>
    obtain ⟨n, rfl, hle⟩ := h.goal newState (by rw [hphase]; rfl)
    have hidle : Due w m N (q + n)
        { s with
          phase := .idle
          store := w.exec s (w.target.updateState w.chatId (w.log.stateAt (q + n))) persist } :=
      ⟨cursor_exec_updateState h.cursor _ _, ⟨[], .idle⟩, fun _ hnew => by (cases hnew)⟩
    refine ⟨q + n, hidle, Nat.le_add_right q n, fun _ _ => ?_⟩
    omega
  | restart => exact absurd rfl he
  | other call hsame => exact hstay rfl hsame (fun newState hnew => .inl hnew) (by simp)

/-- The cursor after some steps. -/
theorem due_state {p : ℕ} (hstart : StartsAt w p s) (x : Execution w.step s)
    (hrestart : ∀ e ∈ x.events, e ≠ .restart)
    (hserves : ∀ k (hk : k < x.events.length), Serves w m N (x.state k) x.events[k])
    {k : ℕ} (hk : k ≤ x.events.length) :
    ∃ q, Due w m N q (x.state k) ∧ min N (p + m * finishedRounds (x.events.take k)) ≤ q := by
  refine x.induction (fun k s => ∃ q, Due w m N q s ∧
    min N (p + m * finishedRounds (x.events.take k)) ≤ q) ⟨p, hstart.due, ?_⟩
    (fun k hk hdue hstep => ?_) hk
  · exact min_le_right _ _
  · obtain ⟨q, hdue, hle⟩ := hdue
    obtain ⟨q', hdue', hmono, hfinish⟩ :=
      hdue.step (hrestart _ (List.getElem_mem hk)) (hserves k hk) hstep
    refine ⟨q', hdue', ?_⟩
    rw [List.take_succ_eq_append_getElem hk, finishedRounds, List.countP_append,
      ← finishedRounds, List.countP_singleton]
    split
    case h_1 persist heq =>
      have hnext := hfinish persist heq
      rw [if_pos rfl, Nat.mul_add, Nat.mul_one]
      omega
    case h_2 => exact hle.trans hmono

/-- No event takes the cursor back, and one that finishes a round takes it on by `m`, or to `N`. -/
def MovesOn (w : Watcher) (m N : ℕ) (e : SyncEvent) (s s' : SyncState) : Prop :=
  ∃ q q', w.cursor s = some (w.log.stateAt q) ∧ w.cursor s' = some (w.log.stateAt q') ∧ q ≤ q' ∧
    ∀ persist, e = .finish persist → min N (q + m) ≤ q'

/-- **Catching up.** Run a watcher from a stored cursor at the `p`-th change, without a restart and
with any failures, on a server that answers with at least `m` changes at a time as long as it has
any up to the `N`-th. Each finished round takes the cursor on by as much, and so many rounds later
all that was created up to there is handled. -/
theorem catches_up (hlib : w.lib.Lawful) {p : ℕ} (hstart : StartsAt w p s)
    (x : Execution w.step s) (hrestart : ∀ e ∈ x.events, e ≠ .restart)
    (hserves : ∀ k (hk : k < x.events.length), Serves w m N (x.state k) x.events[k]) :
    (∀ k (hk : k < x.events.length),
      MovesOn w m N x.events[k] (x.state k) (x.state (k + 1))) ∧
    ∃ q, w.cursor x.final = some (w.log.stateAt q) ∧
      min N (p + m * finishedRounds x.events) ≤ q ∧
      (N ≤ p + m * finishedRounds x.events → ∀ i, p ≤ i → i < N → ∀ id,
        w.log.created i = some id → id ∈ x.final.handledIds) := by
  refine ⟨fun k hk => ?_, ?_⟩
  · obtain ⟨q, hdue, -⟩ := due_state hstart x hrestart hserves hk.le
    obtain ⟨q', hdue', hmono, hfinish⟩ :=
      hdue.step (hrestart _ (List.getElem_mem hk)) (hserves k hk) (x.state_succ hk)
    exact ⟨q, q', hdue.cursor, hdue'.cursor, hmono, hfinish⟩
  obtain ⟨q, hdue, hle⟩ := due_state hstart x hrestart hserves le_rfl
  rw [x.state_length] at hdue
  rw [List.take_length] at hle
  refine ⟨q, hdue.cursor, hle, fun hrounds i hp hi id hid => ?_⟩
  obtain ⟨q', done, hcovers⟩ := hstart.covers.run hlib x.run_events
  have hq : q' = q :=
    w.log.stateAt_injective (Option.some.inj (hcovers.cursor.symm.trans hdue.cursor))
  refine hcovers.passed i hp ?_ id hid
  omega

end

/-- Two rounds of one message each, with a failed one between them. -/
def slowRun : Execution sampleWatcher.step cursorState where
  events := [.sync, .changes (some 1), .mailboxes (some ∅), .get (some none), .pass,
    .finish (.written sampleNonce), .sync, .changes none, .sync, .changes (some 1),
    .mailboxes (some ∅), .get (some none), .pass, .finish .failed]
  enabled := rfl

/-- The main result at that run. -/
theorem catches_up_slowRun :
    (∀ k (hk : k < slowRun.events.length),
      MovesOn sampleWatcher 1 2 slowRun.events[k] (slowRun.state k) (slowRun.state (k + 1))) ∧
    ∃ q, sampleWatcher.cursor slowRun.final = some (sampleWatcher.log.stateAt q) ∧
      min 2 (0 + 1 * finishedRounds slowRun.events) ≤ q ∧
      (2 ≤ 0 + 1 * finishedRounds slowRun.events → ∀ i, 0 ≤ i → i < 2 → ∀ id,
        sampleWatcher.log.created i = some id → id ∈ slowRun.final.handledIds) := by
  refine catches_up Externals.lawful_concrete startsAt_cursorState slowRun (fun e he => ?_)
    fun k hk => ?_
  · rintro rfl
    simp [slowRun] at he
  · have hmem := List.getElem_mem hk
    cases hevent : slowRun.events[k] with
    | changes count =>
      cases count with
      | none => trivial
      | some n =>
        rw [hevent] at hmem
        have hn : n = 1 := by simpa [slowRun] using hmem
        rw [hn]
        exact fun _ _ => min_le_left 1 _
    | _ => trivial

end Jmap2Telegram.Watcher
