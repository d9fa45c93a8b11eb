import Mathlib.Data.List.DropRight
import Jmap2Telegram.Transition.Execution

/-!
# Notices about the connection

The reconnect loop of a watcher (`watcher::spawn`): it opens an event stream, works until the stream
drops, waits, and tries again. After five failures in a row to open a stream the chat is told that
the connection is broken; that it is back is only told when the stream that opened drops again.

* `counts_state`: what the loop counts are the failures since a stream was last open.
* `answered_throughout_iff`: in a run, no open stream meets a notice that the connection is broken
  if and only if no stream opens after five failures in a row of which the fifth was told.
-/

namespace Jmap2Telegram

open Transition

namespace Reconnect

/-- `INITIAL_BACKOFF`, in seconds. -/
def initialBackoff : ℕ := 2

/-- `MAX_BACKOFF`, in seconds. -/
def maxBackoff : ℕ := 300

/-- `next_backoff`. -/
def nextBackoff (current : ℕ) : ℕ := min (current * 2) maxBackoff

/-- `FAILURE_NOTIFY_THRESHOLD`. -/
def failureNotifyThreshold : ℕ := 5

/-- A notice about the connection. -/
inductive Notice where
  | broken
  | recovered
  deriving DecidableEq

/-- The variables of the loop, whether it has not returned, and the notices the chat was sent.
`connected` is the flag `run_once` sets when the stream opens; between that and its return the
event loop is running. -/
structure Loop where
  backoff : ℕ
  consecutiveConnectFailures : ℕ
  notifiedBroken : Bool
  connected : Bool
  running : Bool
  notices : List Notice
  deriving DecidableEq

/-- The loop at its start. -/
def Loop.start : Loop := ⟨initialBackoff, 0, false, false, true, []⟩

/-- What happens to a watcher: an attempt to open the stream fails; the stream opens; it drops; or
the event loop stops because the mailbox was disconnected. `sent` says whether a notice, if one is
due, is sent: the chat is still in the store, and Telegram accepts the message. -/
inductive Event where
  | fails (sent : Bool)
  | opens
  | drops (sent : Bool)
  | stops
  deriving DecidableEq

namespace Loop

variable (s : Loop)

/-- `notify`. -/
def notify (notice : Notice) (sent : Bool) : Loop :=
  if sent then { s with notices := s.notices ++ [notice] } else s

/-- What the loop does when `run_once` returns an error. -/
def onError (sent : Bool) : Loop :=
  if s.connected then
    let s := { s with consecutiveConnectFailures := 0, backoff := initialBackoff }
    if s.notifiedBroken then { s with notifiedBroken := false }.notify .recovered sent else s
  else
    let s := { s with consecutiveConnectFailures := s.consecutiveConnectFailures + 1 }
    if s.consecutiveConnectFailures ≥ failureNotifyThreshold ∧ s.notifiedBroken = false then
      { s with notifiedBroken := true }.notify .broken sent
    else s

/-- The wait, and the head of the loop. -/
def again : Loop := { s with backoff := nextBackoff s.backoff, connected := false }

/-- One event after another. -/
def step (e : Event) : Option Loop :=
  match e with
  | .fails sent => if s.running ∧ ¬s.connected then some (s.onError sent).again else none
  | .opens => if s.running ∧ ¬s.connected then some { s with connected := true } else none
  | .drops sent => if s.running ∧ s.connected then some (s.onError sent).again else none
  | .stops => if s.running ∧ s.connected then some { s with running := false } else none

/-- The stream is open and its event loop is running. -/
def IsOpen : Prop := s.running = true ∧ s.connected = true

end Loop

/-- A run of a watcher. -/
abbrev WatcherRun := Execution Loop.step Loop.start

/-- Every notice that the connection is broken was followed by one that it is back. -/
def Answered (notices : List Notice) : Prop :=
  ∀ i : ℕ, notices[i]? = some .broken → ∃ j, i < j ∧ notices[j]? = some .recovered

/-- An attempt to open the stream that failed. -/
def Event.isFailure : Event → Bool
  | fails _ => true
  | _ => false

/-- The failures at the end of a list of events. -/
def lastFailures (events : List Event) : List Event := events.rtakeWhile Event.isFailure

/-- The chat was told of the fifth failure in a row, the last of which are the last events. -/
def ToldBroken (events : List Event) : Prop := (lastFailures events)[4]? = some (.fails true)

/-! ### Notices -/

/-- A notice that was sent last is not answered. -/
theorem not_answered_concat_broken (notices : List Notice) :
    ¬Answered (notices ++ [.broken]) := by
  intro h
  obtain ⟨j, hj, hlookup⟩ := h notices.length (by simp)
  rw [List.getElem?_eq_none (by simp; omega)] at hlookup
  cases hlookup

theorem answered_of_not_mem {notices : List Notice} (h : .broken ∉ notices) : Answered notices :=
  fun _ hi => absurd (List.mem_of_getElem? hi) h

/-! ### Failures in a row -/

section

variable {events : List Event} {e : Event}

theorem lastFailures_concat_fails (sent : Bool) :
    lastFailures (events ++ [.fails sent]) = lastFailures events ++ [.fails sent] :=
  List.rtakeWhile_concat_pos _ _ _ rfl

theorem lastFailures_concat_of_not (h : e.isFailure = false) :
    lastFailures (events ++ [e]) = [] :=
  List.rtakeWhile_concat_neg _ _ _ (by simp [h])

/-- The fifth failure in a row is told, or a later one leaves that as it is. -/
theorem toldBroken_concat_fails (sent : Bool) : ToldBroken (events ++ [.fails sent]) ↔
    (lastFailures events).length = 4 ∧ sent = true ∨
      4 < (lastFailures events).length ∧ ToldBroken events := by
  rw [ToldBroken, ToldBroken, lastFailures_concat_fails]
  obtain hlt | heq | hgt := Nat.lt_trichotomy (lastFailures events).length 4
  · rw [List.getElem?_eq_none (by simp; omega)]
    simp only [reduceCtorEq, false_iff]
    omega
  · rw [List.getElem?_append_right heq.le, heq]
    simp
  · rw [List.getElem?_append_left hgt]
    simp only [hgt, true_and]
    exact (or_iff_right (by omega)).symm

end

/-! ### One event -/

section

variable {s s' : Loop} {sent : Bool}

theorem step_fails (h : s.step (.fails sent) = some s') :
    s.connected = false ∧ s' = (s.onError sent).again := by
  rw [Loop.step] at h
  split at h
  case isTrue henabled =>
    cases h
    exact ⟨Bool.eq_false_iff.mpr henabled.2, rfl⟩
  case isFalse => cases h

theorem step_opens (h : s.step .opens = some s') :
    s.running = true ∧ s.connected = false ∧ s' = { s with connected := true } := by
  rw [Loop.step] at h
  split at h
  case isTrue henabled =>
    cases h
    exact ⟨henabled.1, Bool.eq_false_iff.mpr henabled.2, rfl⟩
  case isFalse => cases h

theorem step_drops (h : s.step (.drops sent) = some s') :
    s.connected = true ∧ s' = (s.onError sent).again := by
  rw [Loop.step] at h
  split at h
  case isTrue henabled =>
    cases h
    exact ⟨henabled.2, rfl⟩
  case isFalse => cases h

theorem step_stops (h : s.step .stops = some s') :
    s.connected = true ∧ s' = { s with running := false } := by
  rw [Loop.step] at h
  split at h
  case isTrue henabled =>
    cases h
    exact ⟨henabled.2, rfl⟩
  case isFalse => cases h

/-- A stream that drops starts the count again, and is announced as back if it had been announced as
broken. -/
theorem onError_connected (sent : Bool) (h : s.connected = true) :
    (s.onError sent).consecutiveConnectFailures = 0 ∧ (s.onError sent).notifiedBroken = false ∧
      (.broken ∈ (s.onError sent).notices → .broken ∈ s.notices) := by
  rw [Loop.onError, if_pos h]
  cases hnotified : s.notifiedBroken with
  | false => exact ⟨rfl, rfl, id⟩
  | true =>
    cases sent with
    | false => exact ⟨rfl, rfl, id⟩
    | true => exact ⟨rfl, rfl, by simp [Loop.notify]⟩

/-- A failure to open is counted; the fifth in a row is told. -/
theorem onError_not_connected (sent : Bool) (h : s.connected = false) :
    (s.onError sent).consecutiveConnectFailures = s.consecutiveConnectFailures + 1 ∧
      (s.onError sent).notifiedBroken =
        (s.notifiedBroken || decide (failureNotifyThreshold ≤ s.consecutiveConnectFailures + 1)) ∧
      (s.onError sent).notices =
        if failureNotifyThreshold ≤ s.consecutiveConnectFailures + 1 ∧
            s.notifiedBroken = false ∧ sent = true then
          s.notices ++ [.broken]
        else s.notices := by
  rw [Loop.onError, if_neg (Bool.eq_false_iff.mp h)]
  dsimp only
  split
  case isTrue hdue =>
    cases sent with
    | false => simp [Loop.notify, hdue]
    | true => simp [Loop.notify, hdue]
  case isFalse hdue =>
    refine ⟨rfl, ?_, ?_⟩
    · cases hnotified : s.notifiedBroken with
      | true => simp
      | false =>
        have hlt : ¬failureNotifyThreshold ≤ s.consecutiveConnectFailures + 1 := fun hle =>
          hdue ⟨hle, hnotified⟩
        simp [hlt]
    · rw [if_neg fun hall => hdue ⟨hall.1, hall.2.1⟩]

end

/-! ### Runs -/

/-- What the variables of the loop say of the events so far, while no stream is open. -/
structure Counts (events : List Event) (s : Loop) : Prop where
  count : s.consecutiveConnectFailures = (lastFailures events).length
  notified : s.notifiedBroken = decide (failureNotifyThreshold ≤ (lastFailures events).length)
  told : ToldBroken events → s.notices.getLast? = some .broken

section

variable (x : WatcherRun)

/-- While no stream is open, the loop counts the failures since one was last open. -/
theorem counts_state {k : ℕ} (hk : k ≤ x.events.length) :
    (x.state k).connected = false → Counts (x.events.take k) (x.state k) := by
  refine x.induction (fun k s => s.connected = false → Counts (x.events.take k) s)
    (fun _ => ⟨rfl, rfl, fun h => by cases h⟩) (fun k hk ih hstep hconnected => ?_) hk
  rw [List.take_succ_eq_append_getElem hk]
  rcases hevent : x.events[k] with sent | - | sent | -
  · rw [hevent] at hstep
    obtain ⟨hclosed, hafter⟩ := step_fails hstep
    obtain ⟨hcount, hnotified, hnotices⟩ := onError_not_connected sent hclosed
    obtain ⟨ihcount, ihnotified, ihtold⟩ := ih hclosed
    rw [hafter]
    constructor
    · rw [lastFailures_concat_fails, List.length_append, ← ihcount]
      exact hcount
    · rw [lastFailures_concat_fails, List.length_append, ← ihcount]
      refine hnotified.trans ?_
      rw [ihnotified, ← ihcount, List.length_singleton, ← Bool.decide_or]
      exact decide_eq_decide.mpr (by omega)
    · rw [toldBroken_concat_fails, ← ihcount]
      change _ → (x.state k |>.onError sent).notices.getLast? = _
      rw [hnotices]
      rintro (⟨hfour, hsent⟩ | ⟨hmore, htold⟩)
      · -- the fifth failure, which is told
        have hnew : (x.state k).notifiedBroken = false := by
          rw [ihnotified, ← ihcount, hfour]
          rfl
        rw [if_pos ⟨by rw [hfour]; rfl, hnew, hsent⟩, List.getLast?_concat]
      -- a later one, of which the chat was told before
      · have hold : (x.state k).notifiedBroken = true := by
          rw [ihnotified, ← ihcount]
          exact decide_eq_true hmore
        rw [if_neg (by simp [hold])]
        exact ihtold htold
  · rw [hevent] at hstep
    -- a stream is open
    obtain ⟨-, -, hafter⟩ := step_opens hstep
    rw [hafter] at hconnected
    cases hconnected
  · rw [hevent] at hstep
    obtain ⟨hopen, hafter⟩ := step_drops hstep
    -- a stream that drops starts the count again
    obtain ⟨hcount, hnotified, -⟩ := onError_connected sent hopen
    have hnone : lastFailures (x.events.take k ++ [.drops sent]) = [] :=
      lastFailures_concat_of_not rfl
    rw [hafter]
    refine ⟨by rw [hnone]; exact hcount, by rw [hnone]; exact hnotified, fun htold => ?_⟩
    rw [ToldBroken, hnone] at htold
    cases htold
  · rw [hevent] at hstep
    obtain ⟨hopen, hafter⟩ := step_stops hstep
    rw [hafter] at hconnected
    cases hopen.symm.trans hconnected

/-- No stream opens after five failures in a row of which the chat was told. -/
def OpensUntold : Prop :=
  ∀ k (hk : k < x.events.length), x.events[k] = .opens → ¬ToldBroken (x.events.take k)

/-- Then the chat was told of a broken connection only if it still is. -/
theorem toldBroken_of_mem (h : OpensUntold x) {k : ℕ} (hk : k ≤ x.events.length) :
    .broken ∈ (x.state k).notices →
      (x.state k).connected = false ∧ ToldBroken (x.events.take k) := by
  refine x.induction (fun k s => .broken ∈ s.notices →
    s.connected = false ∧ ToldBroken (x.events.take k)) (fun hmem => by cases hmem)
    (fun k hk ih hstep hmem => ?_) hk
  rw [List.take_succ_eq_append_getElem hk]
  rcases hevent : x.events[k] with sent | - | sent | -
  · rw [hevent] at hstep
    obtain ⟨hclosed, hafter⟩ := step_fails hstep
    obtain ⟨-, -, hnotices⟩ := onError_not_connected sent hclosed
    obtain ⟨hcount, hnotified, -⟩ := counts_state x hk.le hclosed
    rw [hafter] at hmem ⊢
    refine ⟨rfl, (toldBroken_concat_fails sent).mpr ?_⟩
    change .broken ∈ ((x.state k).onError sent).notices at hmem
    rw [hnotices] at hmem
    split at hmem
    case isTrue hdue =>
      -- the fifth failure in a row, told right now
      refine .inl ⟨?_, hdue.2.2⟩
      rw [hcount] at hdue
      have hnew : ¬failureNotifyThreshold ≤ (lastFailures (x.events.take k)).length :=
        of_decide_eq_false (hnotified.symm.trans hdue.2.1)
      have hfive : failureNotifyThreshold = 5 := rfl
      omega
    case isFalse =>
      have htold := (ih hmem).2
      exact .inr ⟨(List.getElem?_eq_some_iff.mp htold).1, htold⟩
  · rw [hevent] at hstep
    obtain ⟨-, -, hafter⟩ := step_opens hstep
    rw [hafter] at hmem
    -- the chat would have been told before this stream opened
    exact absurd (ih hmem).2 (h k hk hevent)
  · rw [hevent] at hstep
    obtain ⟨hopen, hafter⟩ := step_drops hstep
    rw [hafter] at hmem
    have hbefore := (ih ((onError_connected sent hopen).2.2 hmem)).1
    cases hopen.symm.trans hbefore
  · rw [hevent] at hstep
    obtain ⟨hopen, hafter⟩ := step_stops hstep
    rw [hafter] at hmem
    cases hopen.symm.trans (ih hmem).1

/-- **No open stream meets a notice that the connection is broken** if and only if, in the run, no
stream opens after five failures in a row of which the fifth was told to the chat. -/
theorem answered_throughout_iff :
    (∀ k ≤ x.events.length, (x.state k).IsOpen → Answered (x.state k).notices) ↔
      OpensUntold x := by
  constructor
  · intro h k hk hevent htold
    have hstep := x.state_succ hk
    rw [hevent] at hstep
    obtain ⟨hrunning, hclosed, hafter⟩ := step_opens hstep
    have hlast := (counts_state x hk.le hclosed).told htold
    have hanswered := h (k + 1) hk (by rw [hafter]; exact ⟨hrunning, rfl⟩)
    rw [hafter] at hanswered
    obtain ⟨notices, hnotices⟩ := List.getLast?_eq_some_iff.mp hlast
    rw [hnotices] at hanswered
    exact not_answered_concat_broken notices hanswered
  · intro h k hk hopen
    refine answered_of_not_mem fun hmem => ?_
    cases hopen.2.symm.trans (toldBroken_of_mem x h hk hmem).1

end

/-! ### A server that comes back -/

/-- Five attempts fail, and the next one succeeds. -/
def comebackRun : WatcherRun where
  events := [.fails true, .fails true, .fails true, .fails true, .fails true, .opens]
  enabled := by decide

/-- The stream is open, and the chat was last told that the connection is broken. -/
theorem not_answered_comebackRun :
    ¬∀ k ≤ comebackRun.events.length,
      (comebackRun.state k).IsOpen → Answered (comebackRun.state k).notices := by
  intro h
  have hnotices : (comebackRun.state 6).notices = [] ++ [.broken] := rfl
  have hanswered := h 6 (le_refl 6) ⟨rfl, rfl⟩
  rw [hnotices] at hanswered
  exact not_answered_concat_broken [] hanswered

end Reconnect

end Jmap2Telegram
