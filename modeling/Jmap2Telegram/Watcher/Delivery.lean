import Jmap2Telegram.Watcher.Answers

/-!
# Every new mail is handled once

`Tracks q done phase` ties a watcher's phase to the server's log: the round in progress started at
the `q`-th change, its batch is a stretch of the log from there, and the messages `done` of it are
handled. `Progress` says what one step does to the cursor and to what is handled, and the two run
results follow from it: without a restart the messages handled are the log's, in its order and each
once; with restarts, none that the cursor has passed is left out. What is recorded of each of them
is true.
-/

namespace Jmap2Telegram

open Transition

variable {w : Watcher}

/-- The ids of the messages handled, in order. -/
def SyncState.handledIds (s : SyncState) : List String := s.handled.map Prod.fst

/-- The ids of the messages sent for what was handled, once for each send. -/
def SyncState.sentIds (s : SyncState) : List String :=
  s.handled.flatMap fun h => List.replicate h.2.sends h.1

/-- The message that was sent to a topic that is gone and is not sent to the chat yet. -/
def Phase.inFlight : Phase → List String
  | .resending _ notice _ _ => [notice.id]
  | _ => []

namespace Watcher

/-- The round in progress started at the `q`-th change of the log, and has handled `done` of the
stretch it fetched. -/
inductive Tracks (w : Watcher) (q : ℕ) : List String → Phase → Prop where
  | idle : Tracks w q [] .idle
  | changes {round : Round} (hsince : round.since = w.log.stateAt q) :
    Tracks w q [] (.changes round)
  | mailboxes {round : Round} (hsince : round.since = w.log.stateAt q) (n : ℕ) :
    Tracks w q [] (.mailboxes round (w.log.between q n) (w.log.stateAt (q + n)))
  | fetching {round : Round} (hsince : round.since = w.log.stateAt q) (n : ℕ)
    {roles : Map String Role} {todo : List String} {changed : List Item}
    (hbatch : changed.map Item.id ++ todo = w.log.between q n) :
    Tracks w q [] (.fetching round roles todo changed (w.log.stateAt (q + n)))
  | delivering {round : Round} (hsince : round.since = w.log.stateAt q) (n : ℕ)
    {done : List String} {changed : List Item}
    (hbatch : done ++ changed.map Item.id = w.log.between q n) :
    Tracks w q done (.delivering round changed (w.log.stateAt (q + n)))
  | resending {round : Round} (hsince : round.since = w.log.stateAt q) (n : ℕ)
    {done : List String} {notice : Notice} {changed : List Item}
    (hbatch : done ++ notice.id :: changed.map Item.id = w.log.between q n) :
    Tracks w q done (.resending round notice changed (w.log.stateAt (q + n)))

/-- What the round has handled is the beginning of a stretch of the log. -/
theorem Tracks.done_prefix {q : ℕ} {done : List String} {phase : Phase}
    (h : Tracks w q done phase) : ∃ n, done <+: w.log.between q n := by
  cases h with
  | idle | changes | mailboxes | fetching => exact ⟨0, List.nil_prefix⟩
  | delivering hsince n hbatch | resending hsince n hbatch =>
    exact ⟨n, hbatch ▸ List.prefix_append _ _⟩

/-- The cursor on disk, as the next start of the process reads it. -/
def durableCursor (w : Watcher) (s : SyncState) : Option String :=
  (Store.openState w.lib w.key s.store.stateEnc).bind fun data => data.cursor w.chatId w.target

/-- All a step but a restart can do while the cursor is at the `q`-th change and the part `done` of
the round's batch is handled. -/
inductive Progress (w : Watcher) (q : ℕ) (done : List String) (s s' : SyncState) : Prop where
  /-- Nothing more is handled: the round starts, goes on or ends, or a topic turns out to be
  gone. -/
  | stay (hcursor : w.cursor s' = w.cursor s) (htracks : Tracks w q done s'.phase)
    (hhandled : s'.handled = s.handled)
    (hnotices : ∀ sent, s.notices.map Notice.id = sent ++ s.phase.inFlight →
      s'.notices.map Notice.id = sent ++ s'.phase.inFlight)
  /-- The next message of the batch is handled. -/
  | handle (id : String) (outcome : Outcome) (hcursor : w.cursor s' = w.cursor s)
    (htracks : Tracks w q (done ++ [id]) s'.phase)
    (hhandled : s'.handled = s.handled ++ [(id, outcome)])
    (hnotices : ∀ sent, s.notices.map Notice.id = sent ++ s.phase.inFlight →
      s'.notices.map Notice.id = sent ++ List.replicate outcome.sends id)
    (hflight : s'.phase.inFlight = [])
  /-- The whole batch is handled, and the cursor moves past it. -/
  | advance (n : ℕ) (hdone : done = w.log.between q n)
    (hcursor : w.cursor s' = some (w.log.stateAt (q + n))) (hphase : s'.phase = .idle)
    (hhandled : s'.handled = s.handled)
    (hnotices : s'.notices = s.notices) (hflight : s.phase.inFlight = [])

section

variable {q : ℕ} {done : List String} {s s' : SyncState}

/-- A step that ends the round, or leaves everything but the phase, and has nothing in flight. -/
theorem Progress.ofPhase {phase : Phase} (htracks : Tracks w q done phase)
    (hbefore : s.phase.inFlight = []) (hafter : phase.inFlight = []) :
    Progress w q done s { s with phase := phase } :=
  .stay rfl htracks rfl fun sent h => by rw [h, hbefore, hafter]

/-- An outcome costs as many messages as Telegram gave answers. -/
theorem sends_eq_length_results (outcome : Outcome) : outcome.sends = outcome.results.length := by
  cases outcome <;> rfl

/-- What the loop passes over costs no message. -/
theorem sends_of_verdict {round : Round} {item : Item} {outcome : Outcome}
    (h : w.verdict round item = some outcome) : outcome.sends = 0 := by
  rw [sends_eq_length_results, results_of_verdict h]
  rfl

/-- Forgetting a topic leaves the cursor, whether the write succeeds or not. -/
theorem cursor_exec_clearThread (s : SyncState) (persist : Persist) :
    (w.exec s (w.target.clearThread w.chatId) persist).data.cursor w.chatId w.target
      = w.cursor s := by
  rw [exec, Store.data_exec, cursor_clearThread, cursor]

/-- Storing a cursor moves it, whether the write succeeds or not. -/
theorem cursor_exec_updateState {state : String} (h : w.cursor s = some state)
    (newState : String) (persist : Persist) :
    (w.exec s (w.target.updateState w.chatId newState) persist).data.cursor w.chatId w.target
      = some newState := by
  rw [exec, Store.data_exec, cursor_updateState h]

theorem progress_sync (hcursor : w.cursor s = some (w.log.stateAt q))
    (htracks : Tracks w q done s.phase) (hphase : s.phase = .idle) :
    Progress w q done s { s with phase := w.start s } := by
  obtain ⟨account, haccount, hsince⟩ := Option.bind_eq_some_iff.mp hcursor
  have hstart : w.start s = .changes ⟨account, w.log.stateAt q⟩ := by
    simp only [start, haccount, hsince]
  have hflight : s.phase.inFlight = [] := by rw [hphase]; rfl
  rw [hphase] at htracks
  cases htracks
  rw [hstart]
  exact .ofPhase (.changes rfl) hflight rfl

/-- What `Email/changes` answers is a stretch of the log, from where the round started. -/
theorem batch_of_changes {round : Round} {count : Option ℕ} (htracks : Tracks w q done s.phase)
    (hphase : s.phase = .changes round) {created : List String} {newState : String}
    (hanswer : (count.bind fun n => w.log.changes round.since n) = some (created, newState)) :
    done = [] ∧ round.since = w.log.stateAt q ∧
      ∃ n, created = w.log.between q n ∧ newState = w.log.stateAt (q + n) := by
  rw [hphase] at htracks
  cases htracks with
  | changes hsince =>
    obtain ⟨n, -, hn⟩ := Option.bind_eq_some_iff.mp hanswer
    rw [hsince, ChangeLog.changes_stateAt] at hn
    cases hn
    exact ⟨rfl, hsince, n, rfl, rfl⟩

/-- Going on with a fetch keeps track of the log. -/
theorem tracks_fetch {round : Round} (hsince : round.since = w.log.stateAt q) (n : ℕ)
    {roles : Map String Role} {todo : List String} {changed : List Item}
    (hbatch : changed.map Item.id ++ todo = w.log.between q n) :
    Tracks w q [] (fetch round roles todo changed (w.log.stateAt (q + n))) := by
  rw [fetch]
  split
  case isTrue hempty =>
    rw [List.isEmpty_iff.mp hempty, List.append_nil] at hbatch
    exact .delivering hsince n hbatch
  case isFalse => exact .fetching hsince n hbatch

theorem inFlight_fetch (round : Round) (roles : Map String Role) (todo : List String)
    (changed : List Item) (newState : String) :
    (fetch round roles todo changed newState).inFlight = [] := by
  rw [fetch]
  split <;> rfl

theorem progress_get {round : Round} {roles : Map String Role} {id : String} {todo : List String}
    {changed : List Item} {newState : String} (htracks : Tracks w q done s.phase)
    (hphase : s.phase = .fetching round roles (id :: todo) changed newState)
    (found : Option Email) :
    Progress w q done s
      { s with
        phase := fetch round roles todo (changed ++ [.ofAnswer roles id found]) newState } := by
  have hflight : s.phase.inFlight = [] := by rw [hphase]; rfl
  rw [hphase] at htracks
  cases htracks with
  | fetching hsince n hbatch =>
    refine .ofPhase (tracks_fetch hsince n ?_) hflight (inFlight_fetch ..)
    rw [← hbatch]
    simp

/-- The message at the head of the loop is handled, with the sends its outcome says. -/
theorem progress_head {round : Round} {item : Item} {changed : List Item} {newState : String}
    (htracks : Tracks w q done s.phase)
    (hphase : s.phase = .delivering round (item :: changed) newState) (outcome : Outcome)
    {sent : List Notice} (hsent : sent.map Notice.id = List.replicate outcome.sends item.id) :
    Progress w q done s
      { s with
        phase := .delivering round changed newState
        notices := s.notices ++ sent
        handled := s.handled ++ [(item.id, outcome)] } := by
  have hflight : s.phase.inFlight = [] := by rw [hphase]; rfl
  rw [hphase] at htracks
  cases htracks with
  | delivering hsince n hbatch =>
    have hrest : (done ++ [item.id]) ++ changed.map Item.id = w.log.between q n := by
      rw [← hbatch, List.append_assoc]
      rfl
    refine .handle item.id outcome rfl (.delivering hsince n hrest) rfl (fun before hbefore => ?_)
      rfl
    rw [List.map_append, hbefore, hflight, List.append_nil, hsent]

theorem progress_pass {round : Round} {item : Item} {changed : List Item} {newState : String}
    (htracks : Tracks w q done s.phase)
    (hphase : s.phase = .delivering round (item :: changed) newState) {outcome : Outcome}
    (houtcome : w.verdict round item = some outcome) :
    Progress w q done s
      { s with
        phase := .delivering round changed newState
        handled := s.handled ++ [(item.id, outcome)] } := by
  have hsends : outcome.sends = 0 := sends_of_verdict houtcome
  have hhead := progress_head htracks hphase outcome
    (show ([] : List Notice).map Notice.id = _ by rw [hsends]; rfl)
  rwa [List.append_nil] at hhead

theorem progress_threadNotFound {round : Round} {email : ChangedEmail} {changed : List Item}
    {newState : String} (htracks : Tracks w q done s.phase)
    (hphase : s.phase = .delivering round (.found email :: changed) newState)
    (threadId : Option ThreadId) (persist : Persist) :
    Progress w q done s
      { s with
        phase := .resending round (w.notice s email threadId) changed newState
        notices := s.notices ++ [w.notice s email threadId]
        store := w.exec s (w.target.clearThread w.chatId) persist } := by
  have hflight : s.phase.inFlight = [] := by rw [hphase]; rfl
  rw [hphase] at htracks
  cases htracks with
  | delivering hsince n hbatch =>
    refine .stay ?_ (.resending hsince n hbatch) rfl fun sent hsent => ?_
    · exact cursor_exec_clearThread s persist
    · rw [List.map_append, hsent, hflight, List.append_nil]
      rfl

theorem progress_resend {round : Round} {notice : Notice} {changed : List Item}
    {newState : String} (htracks : Tracks w q done s.phase)
    (hphase : s.phase = .resending round notice changed newState) (ok : Bool) :
    Progress w q done s
      { s with
        phase := .delivering round changed newState
        notices := s.notices ++ [{ notice with threadId := none }]
        handled := s.handled ++ [(notice.id, .retried ok)] } := by
  have hflight : s.phase.inFlight = [notice.id] := by rw [hphase]; rfl
  rw [hphase] at htracks
  cases htracks with
  | resending hsince n hbatch =>
    refine .handle notice.id (.retried ok) rfl (.delivering hsince n ?_) rfl
      (fun sent hsent => ?_) rfl
    · rw [← hbatch, List.append_assoc]
      rfl
    · simp [hsent, hflight, Outcome.sends]

/-- The loop is at its end: the batch is handled. -/
theorem done_of_delivering {round : Round} {newState : String}
    (htracks : Tracks w q done (.delivering round [] newState)) :
    ∃ n, done = w.log.between q n ∧ newState = w.log.stateAt (q + n) ∧
      round.since = w.log.stateAt q := by
  cases htracks with
  | delivering hsince n hbatch =>
    rw [List.map_nil, List.append_nil] at hbatch
    exact ⟨n, hbatch, rfl, hsince⟩

theorem progress_finishUnchanged {round : Round} {newState : String}
    (htracks : Tracks w q done s.phase) (hphase : s.phase = .delivering round [] newState)
    (hsame : newState = round.since) : Progress w q done s { s with phase := .idle } := by
  have hflight : s.phase.inFlight = [] := by rw [hphase]; rfl
  rw [hphase] at htracks
  obtain ⟨n, hdone, hstate, hsince⟩ := done_of_delivering htracks
  -- the state after the batch is the round's own: the batch is empty
  rw [hstate, hsince] at hsame
  have hn : n = 0 := by
    have := w.log.stateAt_injective hsame
    omega
  subst hn
  rw [ChangeLog.between_zero] at hdone
  subst hdone
  exact .ofPhase .idle hflight rfl

theorem progress_finish {round : Round} {newState : String}
    (hcursor : w.cursor s = some (w.log.stateAt q)) (htracks : Tracks w q done s.phase)
    (hphase : s.phase = .delivering round [] newState) (persist : Persist) :
    Progress w q done s
      { s with
        phase := .idle, store := w.exec s (w.target.updateState w.chatId newState) persist } := by
  have hflight : s.phase.inFlight = [] := by rw [hphase]; rfl
  rw [hphase] at htracks
  obtain ⟨n, hdone, hstate, -⟩ := done_of_delivering htracks
  rw [hstate]
  exact .advance n hdone (cursor_exec_updateState hcursor _ _) rfl rfl rfl hflight

/-- Every step but a restart does one of those. -/
theorem progress_step {e : SyncEvent} (he : e ≠ .restart)
    (hcursor : w.cursor s = some (w.log.stateAt q)) (htracks : Tracks w q done s.phase)
    (h : w.step s e = some s') : Progress w q done s s' := by
  cases stepEffect h with
  | sync hphase => exact progress_sync hcursor htracks hphase
  | noBaseline hphase | baseline hphase =>
    -- a watcher with a cursor never looks for a baseline
    rw [hphase] at htracks
    cases htracks
  | nothingCreated hphase hanswer =>
    have hflight : s.phase.inFlight = [] := by rw [hphase]; rfl
    obtain ⟨rfl, hsince, n, hcreated, rfl⟩ := batch_of_changes htracks hphase hanswer
    exact .ofPhase (.delivering hsince n hcreated) hflight rfl
  | created hphase hanswer =>
    have hflight : s.phase.inFlight = [] := by rw [hphase]; rfl
    obtain ⟨rfl, hsince, n, rfl, rfl⟩ := batch_of_changes htracks hphase hanswer
    exact .ofPhase (.mailboxes hsince n) hflight rfl
  | noChanges hphase | noMailboxes hphase | notFetched hphase =>
    -- a call failed, and the round is given up
    have hflight : s.phase.inFlight = [] := by rw [hphase]; rfl
    rw [hphase] at htracks
    cases htracks
    exact .ofPhase .idle hflight rfl
  | mailboxes hphase =>
    have hflight : s.phase.inFlight = [] := by rw [hphase]; rfl
    rw [hphase] at htracks
    cases htracks with
    | mailboxes hsince n => exact .ofPhase (tracks_fetch hsince n rfl) hflight (inFlight_fetch ..)
  | fetched hphase found => exact progress_get htracks hphase found
  | pass hphase houtcome => exact progress_pass htracks hphase houtcome
  | sent hphase | sendFailed hphase => exact progress_head htracks hphase _ rfl
  | threadNotFound hphase => exact progress_threadNotFound htracks hphase _ _
  | resend hphase ok => exact progress_resend htracks hphase ok
  | finishUnchanged hphase hsame => exact progress_finishUnchanged htracks hphase hsame
  | finish hphase => exact progress_finish hcursor htracks hphase _
  | restart => exact absurd rfl he
  | other call hsame => exact .stay hsame htracks rfl fun _ hsent => hsent

/-! ### The cursor on disk -/

/-- A restart reads the cursor from disk and gives up the round. -/
theorem step_restart (h : w.step s .restart = some s') :
    w.cursor s' = w.durableCursor s ∧ s'.phase = .idle ∧ s'.handled = s.handled ∧
      s'.store.stateEnc = s.store.stateEnc := by
  obtain ⟨data, hdata, rfl⟩ := Option.map_eq_some_iff.mp h
  refine ⟨?_, rfl, rfl, rfl⟩
  rw [durableCursor, hdata]
  rfl

/-- A step leaves the store alone, calls one of its operations, or reads it again from disk. -/
theorem store_step {e : SyncEvent} (h : w.step s e = some s') :
    s'.store.stateEnc = s.store.stateEnc ∨
      ∃ call, s'.store = (Store.exec w.lib w.key call s.store).1 := by
  cases stepEffect h with
  | sync | noBaseline | noChanges | nothingCreated | created | noMailboxes | mailboxes | notFetched
  | fetched | pass | sent | sendFailed | resend | finishUnchanged | restart => exact .inl rfl
  | baseline | threadNotFound | finish => exact .inr ⟨_, rfl⟩
  | other call => exact .inr ⟨call, rfl⟩

/-- A step leaves the cursor on disk, or brings it up to the one in memory. -/
theorem durableCursor_step (hlib : w.lib.Lawful) {e : SyncEvent} (h : w.step s e = some s') :
    w.durableCursor s' = w.durableCursor s ∨ w.durableCursor s' = w.cursor s' := by
  have hsame : s'.store.stateEnc = s.store.stateEnc → w.durableCursor s' = w.durableCursor s :=
    fun heq => by rw [durableCursor, heq, durableCursor]
  rcases store_step h with heq | ⟨call, hcall⟩
  · exact .inl (hsame heq)
  · rcases Store.stateEnc_exec w.lib w.key call s.store with heq | ⟨nonce, hseal⟩
    · exact .inl (hsame (by rw [hcall, heq]))
    · refine .inr ?_
      rw [← hcall] at hseal
      rw [durableCursor, hseal, openState_seal hlib, Option.bind_some, cursor_nameParents, cursor]

end

/-! ### Runs -/

/-- The watcher is about to start, with nothing handled: its cursor is at the `p`-th change of the
log, and the one on disk is there or behind. -/
structure StartsAt (w : Watcher) (p : ℕ) (s : SyncState) : Prop where
  phase : s.phase = .idle
  handled : s.handled = []
  notices : s.notices = []
  cursor : w.cursor s = some (w.log.stateAt p)
  durable : ∃ d ≤ p, w.durableCursor s = some (w.log.stateAt d)

/-- What holds in every state of every run: the cursor is at a change `q`, the one on disk there or
behind, the round in progress keeps track of the log, and everything created between the start and
`q`, and in the part `done` of the round, is handled. -/
structure Covers (w : Watcher) (p q : ℕ) (done : List String) (s : SyncState) : Prop where
  cursor : w.cursor s = some (w.log.stateAt q)
  durable : ∃ d ≤ q, w.durableCursor s = some (w.log.stateAt d)
  tracks : Tracks w q done s.phase
  passed : ∀ i, p ≤ i → i < q → ∀ id, w.log.created i = some id → id ∈ s.handledIds
  batch : ∀ id ∈ done, id ∈ s.handledIds

/-- What holds in every state of a run without restarts: moreover what is handled is exactly what
was created between the start and the cursor and then the part `done` of the round, in order, and
what was sent is what those outcomes cost and the message in flight. -/
structure Exact (w : Watcher) (p q : ℕ) (done : List String) (s : SyncState) : Prop where
  cursor : w.cursor s = some (w.log.stateAt q)
  tracks : Tracks w q done s.phase
  le : p ≤ q
  handled : s.handledIds = w.log.between p (q - p) ++ done
  sent : s.notices.map Notice.id = s.sentIds ++ s.phase.inFlight

theorem StartsAt.covers {p : ℕ} {s : SyncState} (h : StartsAt w p s) : Covers w p p [] s where
  cursor := h.cursor
  durable := h.durable
  tracks := h.phase ▸ .idle
  passed i hp hq := absurd hq (Nat.not_lt.mpr hp)
  batch := by simp

theorem StartsAt.exact {p : ℕ} {s : SyncState} (h : StartsAt w p s) : Exact w p p [] s where
  cursor := h.cursor
  tracks := h.phase ▸ .idle
  le := Nat.le_refl p
  handled := by rw [SyncState.handledIds, h.handled, Nat.sub_self]; rfl
  sent := by rw [h.notices, SyncState.sentIds, h.handled, h.phase]; rfl

section

variable {p q : ℕ} {done : List String} {s s' : SyncState} {e : SyncEvent}

theorem Exact.step (h : Exact w p q done s) (he : e ≠ .restart) (hstep : w.step s e = some s') :
    ∃ q' done', Exact w p q' done' s' := by
  have hsent := h.sent
  cases progress_step he h.cursor h.tracks hstep with
  | stay hcursor htracks hhandled hnotices =>
    refine ⟨q, done, hcursor.trans h.cursor, htracks, h.le, ?_, ?_⟩
    · rw [SyncState.handledIds, hhandled]
      exact h.handled
    · rw [SyncState.sentIds, hhandled]
      exact hnotices _ hsent
  | handle id outcome hcursor htracks hhandled hnotices hflight =>
    refine ⟨q, done ++ [id], hcursor.trans h.cursor, htracks, h.le, ?_, ?_⟩
    · rw [SyncState.handledIds, hhandled, List.map_append, ← SyncState.handledIds, h.handled,
        List.append_assoc]
      rfl
    · rw [hnotices _ hsent, hflight, SyncState.sentIds, SyncState.sentIds, hhandled,
        List.flatMap_append]
      simp
  | advance n hdone hcursor hphase hhandled hnotices hflight =>
    have hle := h.le
    refine ⟨q + n, [], hcursor, hphase ▸ .idle, by omega, ?_, ?_⟩
    · have hsplit : q + n - p = (q - p) + n := by omega
      have hplace : p + (q - p) = q := by omega
      rw [SyncState.handledIds, hhandled, ← SyncState.handledIds, h.handled, hdone, hsplit,
        ChangeLog.between_add, hplace, List.append_nil]
    · rw [hnotices, hsent, hflight, SyncState.sentIds, SyncState.sentIds, hhandled, hphase]
      rfl

theorem Covers.step (hlib : w.lib.Lawful) (h : Covers w p q done s)
    (hstep : w.step s e = some s') : ∃ q' done', Covers w p q' done' s' := by
  obtain ⟨d, hd, hdurable⟩ := h.durable
  -- whatever the step does, the cursor on disk does not get ahead of the one in memory
  have hbehind : ∀ q', q ≤ q' → w.cursor s' = some (w.log.stateAt q') →
      ∃ d ≤ q', w.durableCursor s' = some (w.log.stateAt d) := by
    intro q' hq' hcursor
    rcases durableCursor_step hlib hstep with hsame | hmemory
    · exact ⟨d, hd.trans hq', hsame.trans hdurable⟩
    · exact ⟨q', Nat.le_refl q', hmemory.trans hcursor⟩
  rcases eq_or_ne e .restart with rfl | he
  · obtain ⟨hcursor, hphase, hhandled, henc⟩ := step_restart hstep
    have hkept : s'.handledIds = s.handledIds := congrArg (List.map Prod.fst) hhandled
    refine ⟨d, [], hcursor.trans hdurable, ⟨d, Nat.le_refl d, ?_⟩, hphase ▸ .idle, ?_, by simp⟩
    · rw [← hdurable, durableCursor, henc, durableCursor]
    · intro i hp hi id hid
      rw [hkept]
      exact h.passed i hp (Nat.lt_of_lt_of_le hi hd) id hid
  · cases progress_step he h.cursor h.tracks hstep with
    | stay hcursor htracks hhandled hnotices =>
      have hkept : s'.handledIds = s.handledIds := congrArg (List.map Prod.fst) hhandled
      have hcursor' := hcursor.trans h.cursor
      exact ⟨q, done, hcursor', hbehind q (Nat.le_refl q) hcursor', htracks, hkept ▸ h.passed,
        hkept ▸ h.batch⟩
    | handle id outcome hcursor htracks hhandled hnotices hflight =>
      have hmore : s'.handledIds = s.handledIds ++ [id] := by
        rw [SyncState.handledIds, hhandled, List.map_append]
        rfl
      have hcursor' := hcursor.trans h.cursor
      refine ⟨q, done ++ [id], hcursor', hbehind q (Nat.le_refl q) hcursor', htracks, ?_, ?_⟩
      · intro i hp hi a ha
        rw [hmore]
        exact List.mem_append_left _ (h.passed i hp hi a ha)
      · intro a ha
        rw [hmore]
        rcases List.mem_append.mp ha with ha | ha
        · exact List.mem_append_left _ (h.batch a ha)
        · exact List.mem_append_right _ ha
    | advance n hdone hcursor hphase hhandled hnotices hflight =>
      have hkept : s'.handledIds = s.handledIds := congrArg (List.map Prod.fst) hhandled
      refine ⟨q + n, [], hcursor, hbehind (q + n) (Nat.le_add_right q n) hcursor, hphase ▸ .idle,
        ?_, by simp⟩
      intro i hp hi id hid
      rw [hkept]
      rcases Nat.lt_or_ge i q with hlt | hge
      · exact h.passed i hp hlt id hid
      · -- the entry is in the stretch the round fetched, all of which is handled
        exact h.batch id (hdone ▸ w.log.mem_between.mpr ⟨i, hge, hi, hid⟩)

/-- What a run without restarts has handled is a stretch of the log. -/
theorem Exact.handled_prefix (h : Exact w p q done s) :
    ∃ n, s.handledIds <+: w.log.between p n := by
  obtain ⟨n, hprefix⟩ := h.tracks.done_prefix
  have hplace : p + (q - p) = q := Nat.add_sub_cancel' h.le
  refine ⟨q - p + n, ?_⟩
  rw [h.handled, ChangeLog.between_add, hplace]
  exact (List.prefix_append_right_inj _).mpr hprefix

theorem Covers.run (hlib : w.lib.Lawful) (h : Covers w p q done s) {es : List SyncEvent}
    (hrun : Transition.run w.step s es = some s') : ∃ q' done', Covers w p q' done' s' :=
  run_induction (fun s => ∃ q done, Covers w p q done s)
    (fun _ _ _ ⟨_, _, hinv⟩ hstep => hinv.step hlib hstep) ⟨q, done, h⟩ hrun

theorem Exact.run (h : Exact w p q done s) {es : List SyncEvent}
    (hes : ∀ e ∈ es, e ≠ .restart) (hrun : Transition.run w.step s es = some s') :
    ∃ q' done', Exact w p q' done' s' := by
  induction es generalizing s q done with
  | nil =>
    cases hrun
    exact ⟨q, done, h⟩
  | cons e es ih =>
    obtain ⟨t, ht, hrun⟩ := Option.bind_eq_some_iff.mp hrun
    obtain ⟨q', done', h'⟩ := h.step (hes e List.mem_cons_self) ht
    exact ih h' (fun f hf => hes f (List.mem_cons_of_mem e hf)) hrun

end

/-- After the steps `es`, none of them a restart, the messages handled are a stretch of those
created from the `p`-th change on, in log order and each once; they cover all up to the `q`-th, and
between rounds they are exactly these; each was sent as often as its outcome says, and Telegram's
answers are those the outcomes stand for. -/
structure HandledOnce (w : Watcher) (p q : ℕ) (es : List SyncEvent) (t : SyncState) : Prop where
  le : p ≤ q
  passed : w.log.between p (q - p) <+: t.handledIds
  stretch : ∃ n, t.handledIds <+: w.log.between p n
  idle : t.phase = .idle → t.handledIds = w.log.between p (q - p)
  nodup : (∀ i j id, w.log.created i = some id → w.log.created j = some id → i = j) →
    t.handledIds.Nodup
  sent : t.notices.map Notice.id = t.sentIds ++ t.phase.inFlight
  results : es.filterMap SyncEvent.result =
    t.handled.flatMap (fun h => h.2.results) ++ t.phase.refused

theorem Exact.handledOnce {p q : ℕ} {done : List String} {t : SyncState} {es : List SyncEvent}
    (h : Exact w p q done t)
    (hresults : es.filterMap SyncEvent.result =
      t.handled.flatMap (fun h => h.2.results) ++ t.phase.refused) :
    HandledOnce w p q es t where
  le := h.le
  passed := h.handled ▸ List.prefix_append _ _
  stretch := h.handled_prefix
  idle hphase := by
    have htracks := h.tracks
    rw [hphase] at htracks
    cases htracks
    rw [h.handled, List.append_nil]
  nodup hcreated := by
    obtain ⟨n, hprefix⟩ := h.handled_prefix
    exact hprefix.sublist.nodup (w.log.nodup_between hcreated p n)
  sent := h.sent
  results := hresults

/-- **Each new mail is handled exactly once.** Run a watcher from a stored cursor at the `p`-th
change of the log, with any failures. Its cursor is always at some change `q` of the log. Without a
restart every message created between the two is handled exactly once and in order; with restarts,
each of them is handled. And every outcome that is recorded is true of the message it is recorded
for: gone as `Email/get` answered, skipped or muted for what it holds, and else sent. -/
theorem handled_exactly_once (hlib : w.lib.Lawful) {p : ℕ} {s : SyncState}
    (hstart : StartsAt w p s) (x : Execution w.step s) :
    ∃ q, w.cursor x.final = some (w.log.stateAt q) ∧
      ((∀ e ∈ x.events, e ≠ .restart) → HandledOnce w p q x.events x.final) ∧
      (∀ i, p ≤ i → i < q → ∀ id, w.log.created i = some id → id ∈ x.final.handledIds) ∧
      ∀ k (hk : k < x.events.length),
        Honest w (told x k) x.events[k] (x.state k) (x.state (k + 1)) := by
  obtain ⟨q, done, hcovers⟩ := hstart.covers.run hlib x.run_events
  refine ⟨q, hcovers.cursor, fun hes => ?_, hcovers.passed,
    fun k hk => honest_state hstart.phase x hk⟩
  obtain ⟨q', done', hexact⟩ := hstart.exact.run hes x.run_events
  have hq : q' = q :=
    w.log.stateAt_injective (Option.some.inj (hexact.cursor.symm.trans hcovers.cursor))
  have hresults := results_run hes x.run_events
  rw [hstart.handled, hstart.phase] at hresults
  exact hq ▸ hexact.handledOnce hresults.symm

end Watcher

/-! ### A run -/

/-- A log whose every change creates a message, with its place in unary as the state. -/
def unaryLog : ChangeLog String where
  created n := some n.repr
  stateAt n := String.ofList (List.replicate n 'x')
  position state := some state.length
  position_stateAt n := by simp

/-- A watcher of chat 1's default slot. -/
def sampleWatcher : Watcher where
  Tz := Unit
  lib := .concrete
  key := sampleKey
  config := ⟨.auto, .parent⟩
  formatTimestamp _ _ := none
  timezone := ()
  defaultLanguage := "en"
  chatId := 1
  target := .account "default" "a@b.c"
  log := unaryLog

/-- Chat 1 with a cursor at the start of the log, in memory, a topic, and a muted word. -/
def cursorData : StoreData :=
  let slot := { sampleSlot with lastState := some "", threadId := some 7 }
  ⟨(∅ : Map ChatId Account).insert 1
    { Account.empty with
      accounts := (∅ : Map String AccountSlot).insert "default" slot, muted := ["sale"] }⟩

/-- The same in memory and on disk, and the watcher about to start. -/
def cursorState : SyncState :=
  ⟨⟨cursorData, some (cursorData.seal .concrete sampleKey sampleNonce)⟩, .idle, [], []⟩

theorem startsAt_cursorState : Watcher.StartsAt sampleWatcher 0 cursorState where
  phase := rfl
  handled := rfl
  notices := rfl
  cursor := by decide
  durable := by
    refine ⟨0, le_rfl, ?_⟩
    have hopen : Store.openState sampleWatcher.lib sampleWatcher.key cursorState.store.stateEnc
        = some cursorData.nameParents := openState_seal Externals.lawful_concrete sampleNonce _
    rw [Watcher.durableCursor, hopen, Option.bind_some, cursor_nameParents]
    decide

/-- A message with a subject and a keyword. -/
def sampleEmail (subject : String) (keywords : List String) : Email :=
  ⟨some subject, none, none, none, none, [], keywords⟩

/-- A round fails at its first message. The next one finds it gone, passes over a draft and a muted
message, sends the fourth, and of the fifth learns that its topic is gone; it cannot be sent to the
chat either. -/
def mixedRun : Execution sampleWatcher.step cursorState where
  events := [.sync, .changes (some 5), .mailboxes (some ∅), .get none,
    .sync, .changes (some 5), .mailboxes (some ∅), .get (some none),
    .get (some (some (sampleEmail "Plan" ["$draft"]))),
    .get (some (some (sampleEmail "Big SALE" []))), .get (some (some (sampleEmail "Hello" []))),
    .get (some (some (sampleEmail "Minutes" []))), .pass, .pass, .pass, .send .ok .failed,
    .send .threadNotFound .failed, .resend false, .finish (.written sampleNonce)]
  enabled := by decide +kernel

/-- The main result at that run. -/
theorem handled_exactly_once_mixedRun :
    (∃ q, sampleWatcher.cursor mixedRun.final = some (unaryLog.stateAt q) ∧
      ((∀ e ∈ mixedRun.events, e ≠ .restart) →
        Watcher.HandledOnce sampleWatcher 0 q mixedRun.events mixedRun.final) ∧
      (∀ i, 0 ≤ i → i < q → ∀ id, unaryLog.created i = some id → id ∈ mixedRun.final.handledIds) ∧
      ∀ k (hk : k < mixedRun.events.length),
        Watcher.Honest sampleWatcher (Watcher.told mixedRun k) mixedRun.events[k]
          (mixedRun.state k) (mixedRun.state (k + 1))) ∧
    sampleWatcher.cursor mixedRun.final = some "xxxxx" ∧
    mixedRun.final.handled = [("0", .gone), ("1", .skipped .draft), ("2", .muted),
      ("3", .delivered), ("4", .retried false)] :=
  ⟨Watcher.handled_exactly_once Externals.lawful_concrete startsAt_cursorState mixedRun,
    by decide +kernel, by decide +kernel⟩

end Jmap2Telegram
