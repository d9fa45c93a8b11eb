import Jmap2Telegram.Bot.Tenants
import Jmap2Telegram.Health.Page
import Mathlib.Algebra.BigOperators.Group.Finset.Piecewise
import Mathlib.Data.Set.Card

/-!
# What the counters count

All tasks of the bot count in one registry: the watchers, a sync and what became of each message;
the handlers, what became of a tap; the connection loops, their reconnects. A process starts with an
empty registry, and any number of watchers take their steps in any order between the calls of the
others.

* `notifications_counted`: every message a watcher is done with is in one series, once, or was gone
  or muted, so the series and these add up to all of them.
* `series_bounded`: the registry never has more than 28 series.
-/

namespace Jmap2Telegram

open Transition

/-! ### The labels -/

/-- `WatchTarget::kind`. -/
def WatchTarget.kind : WatchTarget → String
  | primary => "primary"
  | shared _ _ => "shared"
  | extra _ _ | account _ _ => "extra"

/-- `SkipReason::label`. -/
def SkipReason.label : SkipReason → String
  | draft => "draft"
  | sent => "sent"
  | ownMessage => "own"

/-- `TriageAction::metric_label`. -/
def TriageAction.metricLabel : TriageAction → String
  | archive => "archive"
  | junk => "junk"
  | delete => "delete"

/-- The reasons have different labels. -/
theorem SkipReason.label_injective : Function.Injective label := by
  intro a b h
  cases a <;> cases b <;> first | rfl | exact absurd h (by decide)

deriving instance DecidableEq for Metrics.Counted, Metrics.Call

/-- Two events that count in the same series are the same. -/
theorem Metrics.Counted.ext_increment {a b : Metrics.Counted}
    (hname : a.increment.name = b.increment.name)
    (hlabels : a.increment.labels = b.increment.labels) : a = b := by
  cases a <;> cases b <;>
    simp_all [increment, Metrics.notificationDelivered, Metrics.notificationSendError,
      Metrics.notificationSkipped, Metrics.triageAction, Metrics.markRead, Metrics.undo,
      Metrics.watcherReconnect, Metrics.watcherSync]

/-- The increments of an event's series are the calls that report the event. -/
theorem Metrics.increments_eq_count (calls : List Metrics.Call) (event : Metrics.Counted) :
    Metrics.increments calls event.increment.name event.increment.labels =
      calls.count (.count event) := by
  rw [Metrics.increments, List.count_eq_countP]
  refine List.countP_congr fun call _ => ?_
  cases call with
  | count other =>
    simp only [decide_eq_true_eq, beq_iff_eq, Metrics.Call.count.injEq]
    constructor
    · intro h
      exact Metrics.Counted.ext_increment h.1 h.2
    · rintro rfl
      exact ⟨rfl, rfl⟩
  | setAccounts n | setPendingUndos n => simp

/-! ### What a watcher counts -/

/-- The event a message counts as, for a watcher of a kind. -/
def Outcome.counted (kind : String) : Outcome → Option Metrics.Counted
  | gone | muted => none
  | skipped reason => some (.notificationSkipped kind reason.label)
  | delivered | retried true => some (.notificationDelivered kind)
  | failed | retried false => some (.notificationSendError kind)

/-- What `sync_and_notify` counts about messages in a step from `s`. -/
def Watcher.countsNotifications (w : Watcher) (s : SyncState) : SyncEvent → List Metrics.Counted
  | .pass =>
    match s.phase with
    | .delivering round (.found email :: _) _ =>
      match skipReason email (w.target.selfAddress round.account) with
      | some reason => [.notificationSkipped w.target.kind reason.label]
      | none => []
    | _ => []
  | .send .ok _ | .resend true => [.notificationDelivered w.target.kind]
  | .send .failed _ | .resend false => [.notificationSendError w.target.kind]
  | _ => []

/-- What it counts in a step from `s` to `s'`: the sync, once the fetch has ended. -/
def Watcher.counts (w : Watcher) (s : SyncState) (e : SyncEvent) (s' : SyncState) :
    List Metrics.Counted :=
  (if e.endsFetch s'.phase then [.watcherSync] else []) ++ w.countsNotifications s e

/-- A step counts the messages it is done with. -/
theorem Watcher.countsNotifications_step {w : Watcher} {s s' : SyncState} {e : SyncEvent}
    (h : w.step s e = some s') :
    ∃ done, s'.handled = s.handled ++ done ∧
      w.countsNotifications s e = done.filterMap fun d => d.2.counted w.target.kind := by
  cases stepEffect h with
  | sync | noBaseline | baseline | noChanges | nothingCreated | created | noMailboxes | mailboxes
  | notFetched | fetched | finishUnchanged | finish | restart | other | threadNotFound =>
    exact ⟨[], (List.append_nil _).symm, rfl⟩
  | @pass round item changed newState outcome hphase houtcome =>
    refine ⟨[(item.id, outcome)], rfl, ?_⟩
    rw [countsNotifications, hphase]
    cases item with
    | gone id =>
      cases houtcome
      rfl
    | found email =>
      simp only [verdict] at houtcome
      split at houtcome
      case h_1 reason hreason =>
        cases houtcome
        simp [hreason, Outcome.counted]
      case h_2 hreason =>
        split at houtcome <;> cases houtcome
        simp [hreason, Outcome.counted]
  | sent => exact ⟨_, rfl, rfl⟩
  | sendFailed => exact ⟨_, rfl, rfl⟩
  | resend hphase ok =>
    refine ⟨_, rfl, ?_⟩
    cases ok <;> rfl

/-! ### A process -/

/-- What an undo counts as. -/
inductive UndoReport where
  | restored
  | error
  | expired

/-- The label of the count. -/
def UndoReport.outcome : UndoReport → String
  | restored => "restored"
  | error => "error"
  | expired => "expired"

/-- What the other tasks tell the registry: the handlers about a tap, the connection loops about a
reconnect, and both handlers and boot the sizes behind the gauges. -/
inductive Report where
  | triage (action : TriageAction) (ok : Bool)
  | markRead (ok : Bool)
  | undo (report : UndoReport)
  | reconnect
  | accounts (n : ℕ)
  | pendingUndos (n : ℕ)

/-- The label of a request to the mail server. -/
def outcomeLabel (ok : Bool) : String := if ok then "ok" else "error"

/-- The call a task makes to report it. -/
def Report.call : Report → Metrics.Call
  | triage action ok => .count (.triageAction action.metricLabel (outcomeLabel ok))
  | markRead ok => .count (.markRead (outcomeLabel ok))
  | undo report => .count (.undo report.outcome)
  | reconnect => .count .watcherReconnect
  | accounts n => .setAccounts n
  | pendingUndos n => .setPendingUndos n

/-- A process: its store, its registry, and where each watcher is that runs at some time in it. A
watcher that has not been started, or was stopped, takes no step. -/
structure Process (ι : Type) where
  store : StoreState
  metrics : Metrics
  watchers : ι → SyncState

/-- One step of a process. -/
inductive ProcessEvent (ι : Type) where
  /-- A watcher takes a step of its own. -/
  | sync (i : ι) (e : SyncEvent)
  /-- Some other task calls a store operation. -/
  | exec (call : Call)
  | report (report : Report)
  /-- The process ends, and another starts from the state file. -/
  | restart (now : ℕ)

namespace Process

variable {ι : Type} [DecidableEq ι] (ws : ι → Watcher) (lib : Externals) (key : Key)

/-- A process at its start. -/
def boot (store : StoreState) (now : ℕ) : Process ι where
  store := store
  metrics := .new now
  watchers _ := ⟨store, .idle, [], []⟩

/-- Where a watcher is, over the store all tasks share. -/
def watcher (p : Process ι) (i : ι) : SyncState := { p.watchers i with store := p.store }

/-- One step. -/
def step (p : Process ι) : ProcessEvent ι → Option (Process ι)
  | .sync i e =>
    if e.own then
      ((ws i).step (p.watcher i) e).map fun s' =>
        { store := s'.store
          metrics := p.metrics.run (((ws i).counts (p.watcher i) e s').map .count)
          watchers := Function.update p.watchers i s' }
    else none
  | .exec call => some { p with store := (Store.exec lib key call p.store).1 }
  | .report report => some { p with metrics := p.metrics.apply report.call }
  | .restart now =>
    (Store.openState lib key p.store.stateEnc).map fun data =>
      boot { p.store with data := data } now

/-- The number a scrape shows in the series of an event, where a series that is not there counts as
0. -/
def number (p : Process ι) (event : Metrics.Counted) : ℕ :=
  (p.metrics.sample? event.increment.name (renderLabels event.increment.labels)).getD 0

/-- The number of messages the watchers of a kind are done with, of those whose outcome is one
of some. -/
def handled [Fintype ι] (p : Process ι) (kind : String) (which : Outcome → Bool) : ℕ :=
  ∑ i, if (ws i).target.kind = kind then (p.watchers i).handled.countP fun d => which d.2 else 0

end Process

/-! ### The invariant -/

/-- The event is about a message. -/
def Metrics.Counted.ofMessage : Metrics.Counted → Bool
  | notificationDelivered _ | notificationSendError _ | notificationSkipped _ _ => true
  | _ => false

/-- Every event a process reports. -/
def reportable : List Metrics.Counted :=
  let kinds := ["primary", "shared", "extra"]
  kinds.map .notificationDelivered ++ kinds.map .notificationSendError ++
    (kinds.flatMap fun kind =>
      [SkipReason.draft, .sent, .ownMessage].map fun reason =>
        .notificationSkipped kind reason.label) ++
    ([TriageAction.archive, .junk, .delete].flatMap fun action =>
      [true, false].map fun ok => .triageAction action.metricLabel (outcomeLabel ok)) ++
    ([true, false].map fun ok => .markRead (outcomeLabel ok)) ++
    ([UndoReport.restored, .error, .expired].map fun report => .undo report.outcome) ++
    [.watcherReconnect, .watcherSync]

example : reportable.length = 28 := rfl

/-- The series a call counts in: its family and its labels. -/
def Metrics.Counted.series (event : Metrics.Counted) : Prometheus.Name × String :=
  (event.increment.name, renderLabels event.increment.labels)

/-- The series a registry has. -/
def Metrics.series (m : Metrics) : Set (Prometheus.Name × String) :=
  {series | (m.sample? series.1 series.2).isSome}

/-- There are three kinds of targets. -/
theorem kind_mem (target : WatchTarget) : target.kind ∈ ["primary", "shared", "extra"] := by
  cases target <;> simp [WatchTarget.kind]

/-- A task reports an event of the table. -/
theorem Report.reportable_of_call {report : Report} {event : Metrics.Counted}
    (h : report.call = .count event) : event ∈ reportable := by
  cases report with
  | triage action ok => cases h; cases action <;> cases ok <;> decide
  | markRead ok => cases h; cases ok <;> decide
  | undo report => cases h; cases report <;> decide
  | reconnect => cases h; decide
  | accounts n | pendingUndos n => cases h

theorem Report.ofMessage_of_call {report : Report} {event : Metrics.Counted}
    (h : report.call = .count event) : event.ofMessage = false := by
  cases report <;> cases h <;> rfl

theorem Outcome.reportable_of_counted {target : WatchTarget} {outcome : Outcome}
    {event : Metrics.Counted} (h : outcome.counted target.kind = some event) :
    event ∈ reportable := by
  have hkind := kind_mem target
  generalize target.kind = kind at h hkind
  simp only [List.mem_cons, List.not_mem_nil, or_false] at hkind
  cases outcome with
  | gone | muted => cases h
  | skipped reason =>
    cases h
    obtain rfl | rfl | rfl := hkind <;> cases reason <;> decide
  | delivered | failed =>
    cases h
    obtain rfl | rfl | rfl := hkind <;> decide
  | retried ok =>
    cases ok <;> cases h <;> obtain rfl | rfl | rfl := hkind <;> decide

namespace Process

variable {ι : Type} [Fintype ι] {ws : ι → Watcher} {lib : Externals} {key : Key}
  {p p' : Process ι} {calls : List Metrics.Call}

/-- The number of messages the watchers are done with that count as an event. -/
def counted (ws : ι → Watcher) (p : Process ι) (event : Metrics.Counted) : ℕ :=
  ∑ i, (p.watchers i).handled.countP fun d => d.2.counted (ws i).target.kind == some event

/-- The registry comes from calls that report the messages the watchers are done with, once, and
otherwise only what a process reports. -/
structure Tallied (ws : ι → Watcher) (p : Process ι) (calls : List Metrics.Call) : Prop where
  metrics : ∃ now, p.metrics = (Metrics.new now).run calls
  count : ∀ event, event.ofMessage = true → calls.count (.count event) = p.counted ws event
  reportable : ∀ event, .count event ∈ calls → event ∈ reportable

/-- At boot nothing was counted. -/
theorem tallied_boot (store : StoreState) (now : ℕ) : Tallied ws (boot store now) [] where
  metrics := ⟨now, rfl⟩
  count event _ := by simp [counted, boot]
  reportable event h := by cases h

/-- A call of some other task. -/
theorem Tallied.report (h : Tallied ws p calls) (report : Report) :
    Tallied ws { p with metrics := p.metrics.apply report.call } (calls ++ [report.call]) := by
  refine ⟨?_, fun event hevent => ?_, fun event hevent => ?_⟩
  · obtain ⟨now, hnow⟩ := h.metrics
    exact ⟨now, by rw [hnow, Metrics.run, Metrics.run, List.foldl_append]; rfl⟩
  · have hne : report.call ≠ .count event := fun heq => by
      rw [Report.ofMessage_of_call heq] at hevent
      cases hevent
    rw [List.count_append, h.count event hevent, List.count_singleton]
    simp [hne, counted]
  · rcases List.mem_append.mp hevent with hmem | hmem
    · exact h.reportable event hmem
    · exact Report.reportable_of_call (List.mem_singleton.mp hmem).symm

/-- A scrape shows how often an event was reported. -/
theorem Tallied.number (h : Tallied ws p calls) (event : Metrics.Counted) :
    p.number event = calls.count (.count event) := by
  obtain ⟨now, hnow⟩ := h.metrics
  rw [Process.number, hnow, (Metrics.counts_run now calls).sample, Metrics.increments_eq_count]
  split_ifs with hzero
  · exact hzero.symm
  · rfl

/-- The messages that count as an event are those of a kind with some outcomes. -/
theorem counted_eq_handled {event : Metrics.Counted} {kind : String} {which : Outcome → Bool}
    (h : ∀ (k : String) (outcome : Outcome),
      outcome.counted k = some event ↔ k = kind ∧ which outcome = true) :
    p.counted ws event = p.handled ws kind which := by
  refine Finset.sum_congr rfl fun i _ => ?_
  split_ifs with hkind
  · refine List.countP_congr fun d _ => ?_
    rw [beq_iff_eq, h]
    simp [hkind]
  · refine List.countP_eq_zero.mpr fun d _ hd => hkind ?_
    exact ((h _ _).mp (beq_iff_eq.mp hd)).1

variable [DecidableEq ι]

/-- A watcher that is done with more messages adds those. -/
theorem counted_update {i : ι} {s : SyncState} {done : List (String × Outcome)}
    (hhandled : s.handled = (p.watchers i).handled ++ done) (store : StoreState)
    (metrics : Metrics) (event : Metrics.Counted) :
    counted ws ⟨store, metrics, Function.update p.watchers i s⟩ event =
      p.counted ws event +
        (done.filterMap fun d => d.2.counted (ws i).target.kind).count event := by
  simp only [counted]
  rw [Finset.sum_congr rfl fun j _ => Function.apply_update
      (fun j (s : SyncState) =>
        s.handled.countP fun d => d.2.counted (ws j).target.kind == some event)
      p.watchers i s j,
    Finset.sum_update_of_mem (Finset.mem_univ i), hhandled, List.countP_append,
    ← Finset.add_sum_erase _ _ (Finset.mem_univ i), List.count_filterMap,
    Finset.sdiff_singleton_eq_erase]
  omega

/-- A step of a watcher. -/
theorem Tallied.sync (h : Tallied ws p calls) {i : ι} {e : SyncEvent} {s : SyncState}
    (hs : (ws i).step (p.watcher i) e = some s) :
    Tallied ws
      ⟨s.store, p.metrics.run (((ws i).counts (p.watcher i) e s).map .count),
        Function.update p.watchers i s⟩
      (calls ++ ((ws i).counts (p.watcher i) e s).map .count) := by
  obtain ⟨done, hhandled, hcounts⟩ := Watcher.countsNotifications_step hs
  refine ⟨?_, fun event hevent => ?_, fun event hevent => ?_⟩
  · obtain ⟨now, hnow⟩ := h.metrics
    exact ⟨now, by rw [hnow, Metrics.run, Metrics.run, Metrics.run, List.foldl_append]⟩
  · have hne : Metrics.Counted.watcherSync ≠ event := by
      rintro rfl
      cases hevent
    have hsync : (if e.endsFetch s.phase then [Metrics.Counted.watcherSync] else []).count event
        = 0 := by
      split
      · exact List.count_eq_zero.mpr fun hmem => hne (List.mem_singleton.mp hmem).symm
      · rfl
    rw [counted_update hhandled, List.count_append, h.count event hevent,
      List.count_map_of_injective _ _ (fun _ _ => Metrics.Call.count.inj), Watcher.counts,
      List.count_append, hsync, Nat.zero_add, hcounts]
  · rcases List.mem_append.mp hevent with hmem | hmem
    · exact h.reportable event hmem
    · obtain ⟨event', hmem', hevent'⟩ := List.mem_map.mp hmem
      cases hevent'
      rcases List.mem_append.mp hmem' with hmem | hmem
      · split at hmem
        · rw [List.mem_singleton.mp hmem]
          decide
        · cases hmem
      · rw [hcounts] at hmem
        obtain ⟨d, -, hd⟩ := List.mem_filterMap.mp hmem
        exact Outcome.reportable_of_counted hd

/-- One step. -/
theorem Tallied.step (h : Tallied ws p calls) {e : ProcessEvent ι}
    (hstep : step ws lib key p e = some p') : ∃ calls', Tallied ws p' calls' := by
  cases e with
  | sync i e =>
    rw [Process.step] at hstep
    split at hstep
    case isFalse => cases hstep
    case isTrue =>
      obtain ⟨s, hs, rfl⟩ := Option.map_eq_some_iff.mp hstep
      exact ⟨_, h.sync hs⟩
  | exec call =>
    cases hstep
    exact ⟨calls, h.metrics, h.count, h.reportable⟩
  | report report =>
    cases hstep
    exact ⟨_, h.report report⟩
  | restart now =>
    obtain ⟨data, -, rfl⟩ := Option.map_eq_some_iff.mp hstep
    exact ⟨[], tallied_boot _ now⟩

/-- A run. -/
theorem exists_tallied {store : StoreState} {now : ℕ}
    (x : Execution (step ws lib key) (boot store now)) : ∃ calls, Tallied ws x.final calls :=
  run_induction (fun p => ∃ calls, Tallied ws p calls)
    (fun _ _ _ h hstep => h.elim fun _ h => h.step hstep) ⟨[], tallied_boot store now⟩ x.run_events

end Process

/-! ### What a scrape shows -/

namespace Outcome

/-- The message is in the chat. -/
def arrived : Outcome → Bool
  | delivered | retried true => true
  | _ => false

/-- It could not be sent. -/
def lost : Outcome → Bool
  | failed | retried false => true
  | _ => false

/-- It was skipped for a reason. -/
def skippedFor (reason : SkipReason) (outcome : Outcome) : Bool := outcome == skipped reason

/-- No series has it. -/
def uncounted : Outcome → Bool
  | gone | muted => true
  | _ => false

/-- A delivery is counted for a message that arrived. -/
theorem counted_eq_delivered {k kind : String} {outcome : Outcome} :
    outcome.counted k = some (.notificationDelivered kind) ↔ k = kind ∧ outcome.arrived = true := by
  cases outcome with
  | retried ok => cases ok <;> simp [counted, arrived]
  | _ => simp [counted, arrived]

theorem counted_eq_sendError {k kind : String} {outcome : Outcome} :
    outcome.counted k = some (.notificationSendError kind) ↔ k = kind ∧ outcome.lost = true := by
  cases outcome with
  | retried ok => cases ok <;> simp [counted, lost]
  | _ => simp [counted, lost]

theorem counted_eq_skipped {k kind : String} {reason : SkipReason} {outcome : Outcome} :
    outcome.counted k = some (.notificationSkipped kind reason.label) ↔
      k = kind ∧ outcome.skippedFor reason = true := by
  cases outcome with
  | skipped other => simp [counted, skippedFor, SkipReason.label_injective.eq_iff]
  | retried ok => cases ok <;> simp [counted, skippedFor]
  | _ => simp [counted, skippedFor]

/-- Every outcome is of one sort. -/
theorem sorts (outcome : Outcome) :
    (if outcome.arrived then 1 else 0) + (if outcome.lost then 1 else 0) +
        ((if outcome.skippedFor .draft then 1 else 0) +
          (if outcome.skippedFor .sent then 1 else 0) +
          (if outcome.skippedFor .ownMessage then 1 else 0)) +
        (if outcome.uncounted then 1 else 0) = 1 := by
  cases outcome with
  | skipped reason => cases reason <;> rfl
  | retried ok => cases ok <;> rfl
  | _ => rfl

/-- Every message a watcher is done with arrived, was lost, was skipped or is not counted. -/
theorem countP_sorts (done : List (String × Outcome)) :
    done.countP (fun d => d.2.arrived) + done.countP (fun d => d.2.lost) +
        (done.countP (fun d => d.2.skippedFor .draft) +
          done.countP (fun d => d.2.skippedFor .sent) +
          done.countP fun d => d.2.skippedFor .ownMessage) +
        done.countP (fun d => d.2.uncounted) =
      done.countP fun _ => true := by
  induction done with
  | nil => rfl
  | cons d done ih =>
    have hd := sorts d.2
    rw [List.countP_cons, List.countP_cons, List.countP_cons, List.countP_cons, List.countP_cons,
      List.countP_cons, List.countP_cons, if_pos rfl]
    omega

end Outcome

section

variable {ι : Type} [Fintype ι] [DecidableEq ι] {ws : ι → Watcher} {lib : Externals} {key : Key}
  {store : StoreState} {now : ℕ}

/-- **Counted once**: in every run of a process. -/
theorem notifications_counted
    (x : Execution (Process.step ws lib key) (Process.boot store now)) (kind : String) :
    x.final.number (.notificationDelivered kind) = x.final.handled ws kind Outcome.arrived ∧
      x.final.number (.notificationSendError kind) = x.final.handled ws kind Outcome.lost ∧
      (∀ reason : SkipReason, x.final.number (.notificationSkipped kind reason.label) =
        x.final.handled ws kind (Outcome.skippedFor reason)) ∧
      x.final.number (.notificationDelivered kind) + x.final.number (.notificationSendError kind) +
          (x.final.number (.notificationSkipped kind "draft") +
            x.final.number (.notificationSkipped kind "sent") +
            x.final.number (.notificationSkipped kind "own")) +
          x.final.handled ws kind Outcome.uncounted =
        x.final.handled ws kind fun _ => true := by
  obtain ⟨calls, h⟩ := Process.exists_tallied x
  have hnumber : ∀ (event : Metrics.Counted) {which : Outcome → Bool}, event.ofMessage = true →
      (∀ (k : String) (outcome : Outcome),
        outcome.counted k = some event ↔ k = kind ∧ which outcome = true) →
      x.final.number event = x.final.handled ws kind which := by
    intro event which hevent hwhich
    rw [h.number, h.count event hevent, Process.counted_eq_handled hwhich]
  have hdelivered := hnumber (.notificationDelivered kind) rfl
    fun _ _ => Outcome.counted_eq_delivered
  have herrors := hnumber (.notificationSendError kind) rfl
    fun _ _ => Outcome.counted_eq_sendError
  have hskipped : ∀ reason : SkipReason, x.final.number (.notificationSkipped kind reason.label) =
      x.final.handled ws kind (Outcome.skippedFor reason) := fun reason =>
    hnumber _ rfl fun _ _ => Outcome.counted_eq_skipped
  refine ⟨hdelivered, herrors, hskipped, ?_⟩
  have hdraft := hskipped .draft
  have hsent := hskipped .sent
  have hown := hskipped .ownMessage
  simp only [SkipReason.label] at hdraft hsent hown
  rw [hdelivered, herrors, hdraft, hsent, hown]
  simp only [Process.handled, ← Finset.sum_add_distrib]
  refine Finset.sum_congr rfl fun i _ => ?_
  split_ifs
  · exact Outcome.countP_sorts _
  · rfl

/-- A sample of a run belongs to an event of the table. -/
theorem Process.reportable_of_sample
    (x : Execution (Process.step ws lib key) (Process.boot store now)) {name : Prometheus.Name}
    {text : String} {n : ℕ} (h : x.final.metrics.sample? name text = some n) :
    ∃ event ∈ reportable, event.series = (name, text) := by
  obtain ⟨calls, htallied⟩ := Process.exists_tallied x
  obtain ⟨start, hmetrics⟩ := htallied.metrics
  rw [hmetrics] at h
  have hcounts := Metrics.counts_run start calls
  have hfamily := h
  rw [Metrics.sample?, Option.bind_eq_some_iff] at hfamily
  obtain ⟨family, hfamily, hn⟩ := hfamily
  obtain ⟨labels, rfl⟩ := hcounts.rendered name family text hfamily (Map.mem_of_getElem? hn)
  have hpos : Metrics.increments calls name labels ≠ 0 := fun hzero => by
    rw [hcounts.sample, if_pos hzero] at h
    cases h
  obtain ⟨call, hcall, hevent⟩ := List.countP_pos_iff.mp (Nat.pos_of_ne_zero hpos)
  cases call with
  | count event =>
    obtain ⟨hname, hlabels⟩ := of_decide_eq_true hevent
    exact ⟨event, htallied.reportable event hcall, by rw [Metrics.Counted.series, hname, hlabels]⟩
  | setAccounts n | setPendingUndos n => cases hevent

/-- **Bounded**: whatever mail arrives and whoever writes to the bot, in every run. -/
theorem series_bounded (x : Execution (Process.step ws lib key) (Process.boot store now)) :
    x.final.metrics.series ⊆ {series | ∃ event ∈ reportable, event.series = series} ∧
      x.final.metrics.series.encard ≤ 28 := by
  have hsub : x.final.metrics.series ⊆ {series | ∃ event ∈ reportable, event.series = series} := by
    intro series hseries
    obtain ⟨n, hn⟩ := Option.isSome_iff_exists.mp hseries
    exact Process.reportable_of_sample x hn
  have hset : {series | ∃ event ∈ reportable, event.series = series} =
      ((reportable.map Metrics.Counted.series).toFinset : Set (Prometheus.Name × String)) := by
    ext series
    simp
  refine ⟨hsub, (Set.encard_le_encard hsub).trans ?_⟩
  rw [hset, Set.encard_coe_eq_coe_finsetCard]
  have hcard := List.toFinset_card_le (reportable.map Metrics.Counted.series)
  rw [List.length_map] at hcard
  exact_mod_cast hcard

end

end Jmap2Telegram
