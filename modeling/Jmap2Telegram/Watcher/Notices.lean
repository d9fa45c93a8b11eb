import Mathlib.Algebra.Group.Nat.Defs
import Jmap2Telegram.Watcher.Reconnect

/-!
# The notices of a watcher, attempt by attempt

The reconnect loop again, with a whole attempt as one step: the stream cannot be opened, it opens
and drops later, or it opens and the event loop stops for good. What the loop decides to tell the
chat depends on its three variables, whether or not a notice then goes through.

* `Tracks.attempt`: what the variables say of the attempts so far.
* `notices_alternate`: the notices alternate, a broken connection is told at the fifth failure in a
  row, and that it is back after an attempt that opened the stream.
-/

namespace Jmap2Telegram

open Transition

namespace Reconnect

/-- What an attempt comes to. -/
inductive Outcome where
  | failed
  | dropped
  | stopped
  deriving DecidableEq

/-- An attempt, and whether a notice goes through if one is decided on. -/
structure Attempt where
  outcome : Outcome
  sent : Bool

/-- What happens in an attempt. -/
def Attempt.events (a : Attempt) : List Event :=
  match a.outcome with
  | .failed => [.fails a.sent]
  | .dropped => [.opens, .drops a.sent]
  | .stopped => [.opens, .stops]

namespace Loop

variable (s : Loop)

/-- One attempt after another. -/
def attempt (a : Attempt) : Option Loop := run step s a.events

/-- The notice the loop decides to send when an attempt ends. -/
def decides : Outcome → Option Notice
  | .failed =>
    if s.consecutiveConnectFailures + 1 ≥ failureNotifyThreshold ∧ s.notifiedBroken = false then
      some .broken
    else none
  | .dropped => if s.notifiedBroken then some .recovered else none
  | .stopped => none

end Loop

/-- A run of a watcher, from one attempt to the next. -/
abbrev AttemptRun := Execution Loop.attempt Loop.start

/-- The failures at the end of a list of attempts. -/
def failuresInRow (attempts : List Attempt) : ℕ :=
  (attempts.rtakeWhile fun a => a.outcome = .failed).length

/-- The notices alternate, beginning with a broken connection. -/
def Alternate (notices : List Notice) : Prop :=
  ∀ i notice, notices[i]? = some notice → notice = if i % 2 = 0 then .broken else .recovered

theorem Alternate.concat {notices : List Notice} (h : Alternate notices) {notice : Notice}
    (hnotice : notice = if notices.length % 2 = 0 then .broken else .recovered) :
    Alternate (notices ++ [notice]) := by
  intro i n hi
  rcases Nat.lt_trichotomy i notices.length with hlt | heq | hgt
  · rw [List.getElem?_append_left hlt] at hi
    exact h i n hi
  · rw [heq, List.getElem?_concat_length] at hi
    rw [heq, ← Option.some.inj hi]
    exact hnotice
  · rw [List.getElem?_eq_none (by simp; omega)] at hi
    cases hi

/-! ### One attempt -/

section

variable {s s' : Loop} {a : Attempt} {attempts : List Attempt}

theorem failuresInRow_concat (attempts : List Attempt) (a : Attempt) :
    failuresInRow (attempts ++ [a]) =
      if a.outcome = .failed then failuresInRow attempts + 1 else 0 := by
  rw [failuresInRow, failuresInRow]
  split
  case isTrue h => rw [List.rtakeWhile_concat_pos _ _ _ (by simpa using h), List.length_append,
    List.length_singleton]
  case isFalse h => rw [List.rtakeWhile_concat_neg _ _ _ (by simpa using h), List.length_nil]

/-- All that an attempt does to the variables, but for the wait. Only an attempt that stops for good
leaves the stream open. -/
structure Attempted (s : Loop) (a : Attempt) (s' : Loop) : Prop where
  closed : s.connected = false
  stopped : a.outcome = .stopped → s'.connected = true
  count : a.outcome ≠ .stopped → s'.consecutiveConnectFailures =
    if a.outcome = .failed then s.consecutiveConnectFailures + 1 else 0
  notified : a.outcome ≠ .stopped → s'.notifiedBroken = (decide (a.outcome = .failed) &&
    (s.notifiedBroken || decide (failureNotifyThreshold ≤ s.consecutiveConnectFailures + 1)))
  notices : s'.notices = s.notices ++ if a.sent then (s.decides a.outcome).toList else []

/-- The notices after a failure to open the stream. -/
theorem notices_onError_failed (sent : Bool) (h : s.connected = false) :
    (s.onError sent).notices = s.notices ++ if sent then (s.decides .failed).toList else [] := by
  have hnotices := (onError_not_connected sent h).2.2
  rw [hnotices, Loop.decides]
  by_cases hdue : s.consecutiveConnectFailures + 1 ≥ failureNotifyThreshold ∧
      s.notifiedBroken = false
  · rw [if_pos hdue]
    cases sent <;> simp [hdue.1, hdue.2]
  · rw [if_neg hdue, if_neg fun h => hdue ⟨h.1, h.2.1⟩]
    cases sent <;> simp

/-- The notices after a stream that was open dropped. -/
theorem notices_onError_dropped (sent : Bool) (h : s.connected = true) :
    (s.onError sent).notices = s.notices ++ if sent then (s.decides .dropped).toList else [] := by
  rw [Loop.onError, if_pos h, Loop.decides]
  cases hnotified : s.notifiedBroken <;> cases sent <;> simp [Loop.notify]

theorem attempted_failed {sent : Bool} (h : s.attempt ⟨.failed, sent⟩ = some s') :
    Attempted s ⟨.failed, sent⟩ s' := by
  have hstep : s.step (.fails sent) = some s' := by
    simpa [Loop.attempt, Attempt.events] using h
  obtain ⟨hclosed, rfl⟩ := step_fails hstep
  obtain ⟨hcount, hnotified, -⟩ := onError_not_connected sent hclosed
  exact ⟨hclosed, by simp, fun _ => hcount, fun _ => hnotified,
    notices_onError_failed sent hclosed⟩

theorem attempted_dropped {sent : Bool} (h : s.attempt ⟨.dropped, sent⟩ = some s') :
    Attempted s ⟨.dropped, sent⟩ s' := by
  obtain ⟨m, hopens, hdrops⟩ : ∃ m, s.step .opens = some m ∧ m.step (.drops sent) = some s' := by
    simpa [Loop.attempt, Attempt.events, Option.bind_eq_some_iff] using h
  obtain ⟨-, hclosed, rfl⟩ := step_opens hopens
  obtain ⟨hopen, rfl⟩ := step_drops hdrops
  obtain ⟨hcount, hnotified, -⟩ := onError_connected sent hopen
  exact ⟨hclosed, by simp, fun _ => hcount, fun _ => hnotified,
    notices_onError_dropped sent hopen⟩

theorem attempted_stopped {sent : Bool} (h : s.attempt ⟨.stopped, sent⟩ = some s') :
    Attempted s ⟨.stopped, sent⟩ s' := by
  obtain ⟨m, hopens, hstops⟩ : ∃ m, s.step .opens = some m ∧ m.step .stops = some s' := by
    simpa [Loop.attempt, Attempt.events, Option.bind_eq_some_iff] using h
  obtain ⟨-, hclosed, rfl⟩ := step_opens hopens
  obtain ⟨hopen, rfl⟩ := step_stops hstops
  refine ⟨hclosed, fun _ => hopen, fun h => absurd rfl h, fun h => absurd rfl h, ?_⟩
  cases sent <;> simp [Loop.decides]

/-- **All that an attempt does.** -/
theorem attempted (h : s.attempt a = some s') : Attempted s a s' := by
  obtain ⟨outcome, sent⟩ := a
  cases outcome with
  | failed => exact attempted_failed h
  | dropped => exact attempted_dropped h
  | stopped => exact attempted_stopped h

/-! ### What the variables say -/

/-- What the variables of the loop say of the attempts so far, unless it has stopped. -/
structure Tracks (attempts : List Attempt) (s : Loop) : Prop where
  count : s.consecutiveConnectFailures = failuresInRow attempts
  notified : s.notifiedBroken = decide (failureNotifyThreshold ≤ failuresInRow attempts)

theorem Tracks.attempt (htracks : Tracks attempts s) (h : Attempted s a s')
    (hgoes : a.outcome ≠ .stopped) : Tracks (attempts ++ [a]) s' := by
  have hcount := h.count hgoes
  have hnotified := h.notified hgoes
  rw [htracks.count] at hcount hnotified
  rw [htracks.notified] at hnotified
  refine ⟨hcount.trans (failuresInRow_concat attempts a).symm, ?_⟩
  rw [hnotified, failuresInRow_concat]
  by_cases hfailed : a.outcome = .failed
  · rw [if_pos hfailed, decide_eq_true hfailed, Bool.true_and, ← Bool.decide_or]
    exact decide_eq_decide.mpr (by omega)
  · rw [if_neg hfailed, decide_eq_false hfailed, Bool.false_and]
    rfl

/-- A broken connection is told at the fifth failure in a row. -/
theorem Tracks.decides_broken_iff (h : Tracks attempts s) :
    s.decides a.outcome = some .broken ↔
      failuresInRow (attempts ++ [a]) = failureNotifyThreshold := by
  have hthreshold : failureNotifyThreshold = 5 := rfl
  rw [failuresInRow_concat]
  rcases houtcome : a.outcome with - | - | -
  · have hnotified := h.notified
    rw [Loop.decides, h.count, hnotified, if_pos rfl]
    simp only [ge_iff_le, decide_eq_false_iff_not, ite_eq_left_iff, reduceCtorEq, imp_false,
      not_not]
    omega
  · simp [Loop.decides, hthreshold]
  · simp [Loop.decides, hthreshold]

/-- That the connection is back is told when a stream drops, if a broken one was told. -/
theorem decides_recovered_iff {o : Outcome} :
    s.decides o = some .recovered ↔ o = .dropped ∧ s.notifiedBroken = true := by
  cases o with
  | failed => simp [Loop.decides]
  | dropped => simp [Loop.decides]
  | stopped => simp [Loop.decides]

theorem decides_broken {o : Outcome} (h : s.decides o = some .broken) :
    o = .failed ∧ s.notifiedBroken = false ∧
      failureNotifyThreshold ≤ s.consecutiveConnectFailures + 1 := by
  cases o with
  | failed =>
    rw [Loop.decides] at h
    split at h
    case isTrue hdue => exact ⟨rfl, hdue.2, hdue.1⟩
    case isFalse => cases h
  | dropped => simp [Loop.decides] at h
  | stopped => simp [Loop.decides] at h

/-- The notices go on alternating, and there is an odd number of them while the last thing that was
told is a broken connection. -/
theorem Attempted.alternate (h : Attempted s a s') {notices : List Notice}
    (hnotices : Alternate notices) (hparity : s.notifiedBroken = decide (notices.length % 2 = 1)) :
    Alternate (notices ++ (s.decides a.outcome).toList) ∧ (a.outcome ≠ .stopped →
      s'.notifiedBroken =
        decide ((notices ++ (s.decides a.outcome).toList).length % 2 = 1)) := by
  have hnotified := h.notified
  obtain ⟨outcome, sent⟩ := a
  rcases outcome with - | - | -
  · have hafter := hnotified (by simp)
    rw [decide_eq_true rfl, Bool.true_and] at hafter
    rw [Loop.decides]
    split
    case isTrue hdue =>
      -- nothing was told since the connection was last back
      have heven : ¬notices.length % 2 = 1 := of_decide_eq_false (hparity.symm.trans hdue.2)
      refine ⟨hnotices.concat (by rw [if_pos (by omega)]), fun _ => ?_⟩
      rw [hafter, decide_eq_true hdue.1, Bool.or_true]
      simp
      omega
    case isFalse hdue =>
      rw [Option.toList_none, List.append_nil, ← hparity, hafter]
      refine ⟨hnotices, fun _ => ?_⟩
      cases hbefore : s.notifiedBroken with
      | true => rfl
      | false =>
        rw [Bool.false_or, decide_eq_false fun hcount => hdue ⟨hcount, hbefore⟩]
  · have hafter := hnotified (by simp)
    rw [Loop.decides]
    cases hbefore : s.notifiedBroken with
    | true =>
      have hodd : notices.length % 2 = 1 := of_decide_eq_true (hparity.symm.trans hbefore)
      refine ⟨hnotices.concat (by rw [if_neg (by omega)]), fun _ => ?_⟩
      rw [hafter]
      simp
      omega
    | false =>
      rw [hbefore] at hparity
      simp only [Bool.false_eq_true, if_false, Option.toList_none, List.append_nil]
      exact ⟨hnotices, fun _ => by rw [hafter, ← hparity]; rfl⟩
  · rw [Loop.decides, Option.toList_none, List.append_nil]
    exact ⟨hnotices, fun h => absurd rfl h⟩

end

/-! ### Runs -/

section

variable (x : AttemptRun)

/-- The notices decided on in the first attempts of a run. -/
def decided (k : ℕ) : List Notice :=
  (List.range k).flatMap fun i =>
    (x.events[i]?.bind fun a => (x.state i).decides a.outcome).toList

theorem decided_succ {k : ℕ} (hk : k < x.events.length) :
    decided x (k + 1) = decided x k ++ ((x.state k).decides x.events[k].outcome).toList := by
  rw [decided, List.range_succ, List.flatMap_append, decided, List.flatMap_singleton,
    List.getElem?_eq_getElem hk, Option.bind_some]

/-- The notices sent in the first attempts of a run: those decided on that go through. -/
def delivered (k : ℕ) : List Notice :=
  (List.range k).flatMap fun i =>
    (x.events[i]?.bind fun a => if a.sent then (x.state i).decides a.outcome else none).toList

/-- What the chat was sent is what the loop decided on, as far as it goes through. -/
theorem notices_state {k : ℕ} (hk : k ≤ x.events.length) :
    (x.state k).notices = delivered x k := by
  refine x.induction (fun k s => s.notices = delivered x k) rfl (fun k hk ih hstep => ?_) hk
  rw [(attempted hstep).notices, ih, delivered, delivered, List.range_succ, List.flatMap_append,
    List.flatMap_singleton, List.getElem?_eq_getElem hk, Option.bind_some]
  split <;> rfl

theorem tracks_state {k : ℕ} (hk : k ≤ x.events.length) :
    (x.state k).connected = false → Tracks (x.events.take k) (x.state k) := by
  refine x.induction (fun k s => s.connected = false → Tracks (x.events.take k) s)
    (fun _ => ⟨rfl, rfl⟩) (fun k hk ih hstep hclosed => ?_) hk
  have hattempted := attempted hstep
  have hgoes : x.events[k].outcome ≠ .stopped := fun hstopped => by
    have hopen := hattempted.stopped hstopped
    rw [hopen] at hclosed
    cases hclosed
  rw [List.take_succ_eq_append_getElem hk]
  exact (ih hattempted.closed).attempt hattempted hgoes

/-- An attempt finds the variables that the attempts before it left. -/
theorem tracks_of_lt {k : ℕ} (hk : k < x.events.length) :
    Tracks (x.events.take k) (x.state k) :=
  tracks_state x hk.le (attempted (x.state_succ hk)).closed

/-- The notices alternate, and there is an odd number of them while a broken connection is the last
thing that was told. -/
theorem alternate_decided {k : ℕ} (hk : k ≤ x.events.length) :
    Alternate (decided x k) ∧ ((x.state k).connected = false →
      (x.state k).notifiedBroken = decide ((decided x k).length % 2 = 1)) := by
  refine x.induction (fun k s => Alternate (decided x k) ∧ (s.connected = false →
    s.notifiedBroken = decide ((decided x k).length % 2 = 1)))
    ⟨fun i n hi => by simp [decided] at hi, fun _ => rfl⟩ (fun k hk ih hstep => ?_) hk
  have hattempted := attempted hstep
  obtain ⟨halternate, hparity⟩ := hattempted.alternate ih.1 (ih.2 hattempted.closed)
  rw [decided_succ x hk]
  refine ⟨halternate, fun hclosed => hparity fun hstopped => ?_⟩
  have hopen := hattempted.stopped hstopped
  rw [hopen] at hclosed
  cases hclosed

/-- While no stream drops, a broken connection that was told stays told. -/
theorem notified_of_lt {i m : ℕ} (him : i < m) (hm : m < x.events.length)
    (hi : (x.state (i + 1)).notifiedBroken = true)
    (hdrops : ∀ j (hj : j < x.events.length), i < j → j < m → x.events[j].outcome ≠ .dropped) :
    (x.state m).notifiedBroken = true := by
  induction m, him using Nat.le_induction with
  | base => exact hi
  | succ m him ih =>
    have hbefore := ih (by omega) fun j hj hij hjm => hdrops j hj hij (by omega)
    have hnext := attempted (x.state_succ hm)
    have hattempted := attempted (x.state_succ (show m < x.events.length by omega))
    have hgoes : x.events[m].outcome ≠ .stopped := fun hstopped => by
      have hopen := hattempted.stopped hstopped
      rw [hnext.closed] at hopen
      cases hopen
    have hfailed : x.events[m].outcome = .failed := by
      have hdropped := hdrops m (by omega) (by omega) (by omega)
      rcases houtcome : x.events[m].outcome with - | - | -
      · rfl
      · exact absurd houtcome hdropped
      · exact absurd houtcome hgoes
    rw [hattempted.notified hgoes, hfailed, hbefore]
    rfl

/-- **Outage notices alternate.** In every run the notices the loop decides to send alternate,
beginning with a broken connection, and are what it sends, as far as they go through; a broken
connection is told exactly at the fifth failure in a row; between two such notices a stream opened
and dropped; and that the connection is back is told only after an attempt that opened the
stream. -/
theorem notices_alternate :
    (∀ k ≤ x.events.length, Alternate (decided x k) ∧ (x.state k).notices = delivered x k) ∧
    (∀ k (hk : k < x.events.length), (x.state k).decides x.events[k].outcome = some .broken ↔
      failuresInRow (x.events.take (k + 1)) = failureNotifyThreshold) ∧
    (∀ i k (hi : i < x.events.length) (hk : k < x.events.length), i < k →
      (x.state i).decides x.events[i].outcome = some .broken →
      (x.state k).decides x.events[k].outcome = some .broken →
      ∃ j, ∃ hj : j < x.events.length, i < j ∧ j < k ∧ x.events[j].outcome = .dropped) ∧
    ∀ k (hk : k < x.events.length), (x.state k).decides x.events[k].outcome = some .recovered →
      x.events[k].outcome = .dropped := by
  refine ⟨fun k hk => ⟨(alternate_decided x hk).1, notices_state x hk⟩, fun k hk => ?_,
    fun i k hi hk hik hbroken hagain => ?_,
    fun k hk h => (decides_recovered_iff.mp h).1⟩
  · rw [List.take_succ_eq_append_getElem hk]
    exact (tracks_of_lt x hk).decides_broken_iff
  · by_contra hnone
    obtain ⟨hfailed, -, hcount⟩ := decides_broken hbroken
    have htold : (x.state (i + 1)).notifiedBroken = true := by
      rw [(attempted (x.state_succ hi)).notified (by simp [hfailed]), hfailed,
        decide_eq_true hcount, Bool.or_true]
      rfl
    have hstill := notified_of_lt x hik hk htold fun j hj hij hjk hdropped =>
      hnone ⟨j, hj, hij, hjk, hdropped⟩
    rw [(decides_broken hagain).2.1] at hstill
    cases hstill

end

/-! ### The counter's width -/

section

variable {s : Loop} {attempts : List Attempt}

/-- The variables with the count as the machine keeps it, in 32 bits. -/
def Loop.wrapped (s : Loop) : Loop :=
  { s with consecutiveConnectFailures := s.consecutiveConnectFailures % 2 ^ 32 }

/-- A count that has started again is one that was told before. -/
theorem Tracks.due_wrapped_iff (h : Tracks attempts s) :
    s.wrapped.consecutiveConnectFailures + 1 ≥ failureNotifyThreshold ∧
        s.wrapped.notifiedBroken = false ↔
      s.consecutiveConnectFailures + 1 ≥ failureNotifyThreshold ∧ s.notifiedBroken = false := by
  have hthreshold : failureNotifyThreshold = 5 := rfl
  have hnotified : s.wrapped.notifiedBroken = s.notifiedBroken := rfl
  rw [hnotified]
  refine and_congr_left fun hnew => ?_
  have hcount := of_decide_eq_false (h.notified.symm.trans hnew)
  rw [← h.count, not_le, hthreshold] at hcount
  rw [Loop.wrapped, Nat.mod_eq_of_lt (by omega)]

/-- **The counter's width does not matter**: what the loop decides is the same when the count starts
again after `2 ^ 32` failures. -/
theorem Tracks.decides_wrapped (h : Tracks attempts s) (o : Outcome) :
    s.wrapped.decides o = s.decides o := by
  cases o with
  | failed => exact if_congr h.due_wrapped_iff rfl rfl
  | dropped => rfl
  | stopped => rfl

/-- Nor does it for the variables an error leaves. -/
theorem Tracks.onError_wrapped (h : Tracks attempts s) (sent : Bool) :
    (s.wrapped.onError sent).wrapped = (s.onError sent).wrapped := by
  have hdue := h.due_wrapped_iff
  cases hconnected : s.connected with
  | true =>
    -- the count starts again anyway
    rw [Loop.onError, Loop.onError, if_pos hconnected, if_pos (show s.wrapped.connected = true from
      hconnected)]
    rfl
  | false =>
    have hclosed : ¬s.connected = true := Bool.eq_false_iff.mp hconnected
    rw [Loop.onError, Loop.onError, if_neg hclosed, if_neg (show ¬s.wrapped.connected = true from
      hclosed)]
    dsimp only
    by_cases htold : s.consecutiveConnectFailures + 1 ≥ failureNotifyThreshold ∧
        s.notifiedBroken = false
    · rw [if_pos htold, if_pos (hdue.mpr htold)]
      cases sent <;> simp [Loop.notify, Loop.wrapped]
    · rw [if_neg htold, if_neg fun h => htold (hdue.mp h)]
      simp [Loop.wrapped]

end

end Reconnect

end Jmap2Telegram
