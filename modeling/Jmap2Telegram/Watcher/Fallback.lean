import Mathlib.Data.List.Forall2
import Jmap2Telegram.Watcher.Delivery

/-!
# Falling back to the root chat

How `sync_and_notify` takes an answer of Telegram: an error is only told by its text. A message
whose topic is gone is sent once more, to the root chat; every other error costs the message, also
the errors that `ensure_*_topic` takes for a chat without topics.

* `run_loopEvents`: the loop over a batch, as a run of the watcher.
* `allDelivered_iff`: topic trouble costs no message exactly when every error it shows in says that
  the topic is gone.
-/

namespace Jmap2Telegram

open Transition

/-- Whether the text of an error has one of the phrases, in any case. -/
def errorMentions (lib : Externals) (phrases : List String) (err : String) : Bool :=
  phrases.any fun phrase => decide (phrase.toList <:+: (lib.toLowercase err).toList)

/-- `is_not_a_forum_error`, of the error's text. -/
def isNotAForumError (lib : Externals) (err : String) : Bool :=
  errorMentions lib ["not a forum", "chat does not support topics", "topics are not enabled"] err

/-- `is_thread_not_found_error`, of the error's text. -/
def isThreadNotFoundError (lib : Externals) (err : String) : Bool :=
  errorMentions lib ["message thread not found", "thread not found", "topic_deleted"] err

/-- How the loop takes an answer, given the text of the error if it is one. -/
def SendResult.ofAnswer (lib : Externals) : Option String → SendResult
  | none => .ok
  | some err => if isThreadNotFoundError lib err then .threadNotFound else .failed

/-- What Telegram answers about a message: the error its first send ends with, if it does, and the
error of the second; and how the writes go that the store may run in between. -/
structure SendAnswers where
  first : Option String
  fallback : Option String
  persist : Persist

namespace Outcome

/-- Whether `notification_delivered` counts the message. -/
def delivers : Outcome → Bool
  | delivered | retried true => true
  | _ => false

/-- Whether `notification_send_error` counts it. -/
def sendError : Outcome → Bool
  | failed | retried false => true
  | _ => false

end Outcome

namespace Watcher

variable (w : Watcher) (round : Round)

/-- What becomes of a message. -/
def outcome (item : Item) (answers : SendAnswers) : Outcome :=
  match w.verdict round item with
  | some outcome => outcome
  | none =>
    match SendResult.ofAnswer w.lib answers.first with
    | .ok => .delivered
    | .failed => .failed
    | .threadNotFound => .retried answers.fallback.isNone

/-- The steps of the loop for a message. -/
def itemEvents (item : Item) (answers : SendAnswers) : List SyncEvent :=
  if (w.verdict round item).isSome then [.pass]
  else
    match SendResult.ofAnswer w.lib answers.first with
    | .threadNotFound =>
      [.send .threadNotFound answers.persist, .resend answers.fallback.isNone]
    | result => [.send result answers.persist]

/-- The steps of the loop. -/
def loopEvents (batch : List (Item × SendAnswers)) : List SyncEvent :=
  batch.flatMap fun (item, answers) => w.itemEvents round item answers

section

variable {w round} {s : SyncState} {item : Item} {answers : SendAnswers} {changed : List Item}
  {newState : String} {batch : List (Item × SendAnswers)}

/-- A message that is gone is passed over. -/
theorem exists_found_of_verdict (h : w.verdict round item = none) :
    ∃ email, item = .found email := by
  cases item with
  | gone id => cases h
  | found email => exact ⟨email, rfl⟩

/-- A message that is sent and does not find its topic gone is through. -/
theorem step_send {email : ChangedEmail} {result : SendResult} (persist : Persist)
    (hphase : s.phase = .delivering round (.found email :: changed) newState)
    (hverdict : w.verdict round (.found email) = none) (hresult : result ≠ .threadNotFound) :
    ∃ s', w.step s (.send result persist) = some s' ∧
      s'.phase = .delivering round changed newState ∧
      s'.handled = s.handled ++
        [(email.summary.id, if result = .ok then .delivered else .failed)] := by
  obtain ⟨s', hs'⟩ : ∃ s', w.step s (.send result persist) = some s' := by
    refine Option.isSome_iff_exists.mp ?_
    cases result <;> simp [step, hphase, hverdict]
  refine ⟨s', hs', ?_⟩
  cases stepEffect hs' with
  | sent hphase' =>
    cases hphase.symm.trans hphase'
    exact ⟨rfl, rfl⟩
  | sendFailed hphase' =>
    cases hphase.symm.trans hphase'
    exact ⟨rfl, rfl⟩
  | threadNotFound => exact absurd rfl hresult

/-- A message that finds its topic gone clears a thread id, and is sent again to the root chat. -/
theorem run_threadNotFound {email : ChangedEmail} {persist : Persist} {ok : Bool}
    (hphase : s.phase = .delivering round (.found email :: changed) newState)
    (hverdict : w.verdict round (.found email) = none) :
    run w.step s [.send .threadNotFound persist, .resend ok] =
      let notice := w.notice s email (w.target.threadId w.config round.account)
      some { s with
        phase := .delivering round changed newState
        store := w.exec s (w.target.clearThread w.chatId) persist
        notices := s.notices ++ [notice] ++ [{ notice with threadId := none }]
        handled := s.handled ++ [(email.summary.id, .retried ok)] } := by
  obtain ⟨s₁, hs₁⟩ : ∃ s₁, w.step s (.send .threadNotFound persist) = some s₁ :=
    Option.isSome_iff_exists.mp (by simp [step, hphase, hverdict])
  rw [run_cons, hs₁, Option.bind_some]
  cases stepEffect hs₁ with
  | threadNotFound hphase' =>
    cases hphase.symm.trans hphase'
    rfl

/-- A message that finds its topic gone is sent again. -/
theorem run_resend {email : ChangedEmail} {persist : Persist} {ok : Bool}
    (hphase : s.phase = .delivering round (.found email :: changed) newState)
    (hverdict : w.verdict round (.found email) = none) :
    ∃ s', run w.step s [.send .threadNotFound persist, .resend ok] = some s' ∧
      s'.phase = .delivering round changed newState ∧
      s'.handled = s.handled ++ [(email.summary.id, .retried ok)] :=
  ⟨_, run_threadNotFound hphase hverdict, rfl, rfl⟩

/-- The loop takes a message on. -/
theorem run_itemEvents (answers : SendAnswers)
    (hphase : s.phase = .delivering round (item :: changed) newState) :
    ∃ s', run w.step s (w.itemEvents round item answers) = some s' ∧
      s'.phase = .delivering round changed newState ∧
      s'.handled = s.handled ++ [(item.id, w.outcome round item answers)] := by
  rw [itemEvents, outcome]
  rcases hverdict : w.verdict round item with - | outcome
  · obtain ⟨email, rfl⟩ := exists_found_of_verdict hverdict
    rw [if_neg (by simp)]
    rcases SendResult.ofAnswer w.lib answers.first with - | - | -
    · obtain ⟨s', hs', hafter⟩ := step_send answers.persist hphase hverdict
        (show SendResult.ok ≠ .threadNotFound by decide)
      exact ⟨s', by rw [run_cons, hs']; rfl, hafter⟩
    · exact run_resend hphase hverdict
    · obtain ⟨s', hs', hafter⟩ := step_send answers.persist hphase hverdict
        (show SendResult.failed ≠ .threadNotFound by decide)
      exact ⟨s', by rw [run_cons, hs']; rfl, hafter⟩
  · rw [if_pos (by simp)]
    obtain ⟨s', hs'⟩ : ∃ s', w.step s .pass = some s' :=
      Option.isSome_iff_exists.mp (by simp [step, hphase, hverdict])
    refine ⟨s', by rw [run_cons, hs']; rfl, ?_⟩
    cases stepEffect hs' with
    | pass hphase' houtcome =>
      cases hphase.symm.trans hphase'
      cases hverdict.symm.trans houtcome
      exact ⟨rfl, rfl⟩

/-- **The loop** goes through the whole batch, whatever Telegram answers. -/
theorem run_loopEvents (hphase : s.phase = .delivering round (batch.map Prod.fst) newState) :
    ∃ s', run w.step s (w.loopEvents round batch) = some s' ∧
      s'.phase = .delivering round [] newState ∧
      s'.handled = s.handled ++
        batch.map fun p => (p.1.id, w.outcome round p.1 p.2) := by
  induction batch generalizing s with
  | nil => exact ⟨s, rfl, hphase, (List.append_nil _).symm⟩
  | cons p batch ih =>
    obtain ⟨s₁, hfirst, hphase₁, hhandled₁⟩ := run_itemEvents p.2 hphase
    obtain ⟨s', hrest, hphase', hhandled'⟩ := ih hphase₁
    refine ⟨s', run_trans hfirst hrest, hphase', ?_⟩
    rw [hhandled', hhandled₁, List.append_assoc]
    rfl

/-- Telegram refuses messages to the topic only, with errors that the bot knows to be trouble with
topics, and takes every message to the root chat. -/
def OnlyTopicTrouble (w : Watcher) (round : Round) (batch : List (Item × SendAnswers)) : Prop :=
  ∀ p ∈ batch, p.2.fallback = none ∧ ∀ err, p.2.first = some err →
    (w.target.threadId w.config round.account).isSome ∧
      (isThreadNotFoundError w.lib err = true ∨ isNotAForumError w.lib err = true)

/-- Between two states the batch was handled, every message of it that is neither skipped nor muted
was delivered and counted so, and none was counted as an error. -/
def AllDelivered (w : Watcher) (round : Round) (batch : List (Item × SendAnswers))
    (s s' : SyncState) : Prop :=
  ∃ handled, s'.handled = s.handled ++ handled ∧
    List.Forall₂ (fun (p : Item × SendAnswers) (h : String × Outcome) =>
      h.1 = p.1.id ∧ h.2.sendError = false ∧
        (w.verdict round p.1 = none → h.2.delivers = true)) batch handled

/-- What the loop passes over is no error. -/
theorem sendError_of_verdict {outcome : Outcome} (h : w.verdict round item = some outcome) :
    outcome.sendError = false := by
  have hsends := sends_of_verdict h
  cases outcome <;> first | rfl | cases hsends

/-- A message is delivered if its send succeeds, or fails because the topic is gone. -/
theorem outcome_delivers_iff (hfallback : answers.fallback = none) :
    (w.outcome round item answers).sendError = false ∧
        (w.verdict round item = none → (w.outcome round item answers).delivers = true) ↔
      (w.verdict round item = none → ∀ err, answers.first = some err →
        isThreadNotFoundError w.lib err = true) := by
  rw [outcome]
  rcases hverdict : w.verdict round item with - | outcome
  · simp only [forall_const]
    rcases answers.first with - | err
    · simp [SendResult.ofAnswer, Outcome.sendError, Outcome.delivers]
    · rcases hgone : isThreadNotFoundError w.lib err with - | -
      · simp [SendResult.ofAnswer, hgone, Outcome.sendError, Outcome.delivers]
      · simp [SendResult.ofAnswer, hgone, Outcome.sendError, Outcome.delivers, hfallback]
  · simp [sendError_of_verdict hverdict]

/-- The rest of `sync_and_notify`, from the head of its loop on, whatever Telegram answers. -/
theorem run_batch (hphase : s.phase = .delivering round (batch.map Prod.fst) newState)
    (persist : Persist) :
    ∃ s', run w.step s (w.loopEvents round batch ++ [.finish persist]) = some s' ∧
      s'.phase = .idle ∧
      s'.handled = s.handled ++ batch.map fun p => (p.1.id, w.outcome round p.1 p.2) := by
  obtain ⟨s₁, hloop, hphase₁, hhandled₁⟩ := run_loopEvents hphase
  obtain ⟨s', hs'⟩ : ∃ s', w.step s₁ (.finish persist) = some s' := by
    refine Option.isSome_iff_exists.mp ?_
    rw [step, hphase₁]
    dsimp only
    split <;> rfl
  refine ⟨s', run_trans hloop (by rw [run_cons, hs']; rfl), ?_⟩
  cases stepEffect hs' with
  | finishUnchanged => exact ⟨rfl, hhandled₁⟩
  | finish => exact ⟨rfl, hhandled₁⟩

/-- The messages delivered, by what Telegram answered. -/
theorem allDelivered_of_handled {s' : SyncState} (htelegram : w.OnlyTopicTrouble round batch)
    (hhandled : s'.handled = s.handled ++
      batch.map fun p => (p.1.id, w.outcome round p.1 p.2)) :
    w.AllDelivered round batch s s' ↔ ∀ p ∈ batch, w.verdict round p.1 = none →
      ∀ err, p.2.first = some err → isThreadNotFoundError w.lib err = true := by
  have hall : w.AllDelivered round batch s s' ↔ ∀ p ∈ batch,
      (w.outcome round p.1 p.2).sendError = false ∧
        (w.verdict round p.1 = none → (w.outcome round p.1 p.2).delivers = true) := by
    constructor
    · rintro ⟨handled, heq, hforall⟩
      rw [hhandled, List.append_cancel_left_eq] at heq
      rw [← heq, List.forall₂_map_right_iff, List.forall₂_same] at hforall
      exact fun p hp => (hforall p hp).2
    · intro hdelivered
      refine ⟨_, hhandled, ?_⟩
      rw [List.forall₂_map_right_iff, List.forall₂_same]
      exact fun p hp => ⟨rfl, hdelivered p hp⟩
  rw [hall]
  exact forall₂_congr fun p hp => outcome_delivers_iff (htelegram p hp).1

/-- **Topic trouble costs no message** if and only if every error it shows in says that the topic is
gone. -/
theorem allDelivered_iff (hphase : s.phase = .delivering round (batch.map Prod.fst) newState)
    (htelegram : w.OnlyTopicTrouble round batch) (persist : Persist) :
    ∃ s', run w.step s (w.loopEvents round batch ++ [.finish persist]) = some s' ∧
      s'.phase = .idle ∧
      (w.AllDelivered round batch s s' ↔
        ∀ p ∈ batch, w.verdict round p.1 = none → ∀ err, p.2.first = some err →
          isThreadNotFoundError w.lib err = true) := by
  obtain ⟨s', hrun, hphase', hhandled⟩ := run_batch hphase persist
  exact ⟨s', hrun, hphase', allDelivered_of_handled htelegram hhandled⟩

end

end Watcher

/-! ### Threaded Mode is switched off -/

/-- The record of the sample slot, with a topic. -/
def topicAccount : Account := { Account.empty with
  accounts := (∅ : Map String AccountSlot).insert "default"
    { sampleSlot with threadId := some 10 } }

/-- A new message, and the answer of a chat whose topics were switched off. -/
def notAForumBatch : List (Item × SendAnswers) :=
  [(.found ⟨⟨"M1", "Invoice", none, none, "", none, []⟩, [.inbox], []⟩,
    ⟨some "bad request: the chat is not a forum", none, .failed⟩)]

/-- A round about that message, at the head of its loop. -/
def notAForumState : SyncState :=
  ⟨⟨cursorData, none⟩, .delivering ⟨topicAccount, ""⟩ (notAForumBatch.map Prod.fst) "x", [], []⟩

theorem onlyTopicTrouble_notAForumBatch :
    sampleWatcher.OnlyTopicTrouble ⟨topicAccount, ""⟩ notAForumBatch := by
  intro p hp
  obtain rfl := List.mem_singleton.mp hp
  refine ⟨rfl, fun err herr => ⟨by decide, .inr ?_⟩⟩
  cases herr
  decide +kernel

/-- The message is lost. -/
theorem not_forall_allDelivered :
    ¬∀ (w : Watcher) (round : Round) (batch : List (Item × SendAnswers)) (s s' : SyncState)
      (newState : String) (persist : Persist),
      s.phase = .delivering round (batch.map Prod.fst) newState → w.OnlyTopicTrouble round batch →
      run w.step s (w.loopEvents round batch ++ [.finish persist]) = some s' →
      w.AllDelivered round batch s s' := by
  intro hall
  have hphase : notAForumState.phase =
      .delivering ⟨topicAccount, ""⟩ (notAForumBatch.map Prod.fst) "x" := rfl
  obtain ⟨s', hrun, -, hhandled⟩ := Watcher.run_batch (w := sampleWatcher) hphase .failed
  have hdelivered := hall _ _ _ _ s' _ _ rfl onlyTopicTrouble_notAForumBatch hrun
  have hgone := (Watcher.allDelivered_of_handled onlyTopicTrouble_notAForumBatch hhandled).mp
    hdelivered _ (List.mem_singleton_self _) rfl _ rfl
  have hother : isThreadNotFoundError sampleWatcher.lib
      "bad request: the chat is not a forum" = false := by decide +kernel
  exact Bool.false_ne_true (hother.symm.trans hgone)

/-- A draft, a new message whose topic was deleted, and one more. -/
def deletedTopicBatch : List (Item × SendAnswers) :=
  [(.found ⟨⟨"M1", "Offer", none, none, "", none, []⟩, [.drafts], []⟩, ⟨none, none, .failed⟩),
    (.found ⟨⟨"M2", "Invoice", none, none, "", none, []⟩, [.inbox], []⟩,
      ⟨some "bad request: message thread not found", none, .failed⟩),
    (.found ⟨⟨"M3", "Reminder", none, none, "", none, []⟩, [.inbox], []⟩, ⟨none, none, .failed⟩)]

/-- A round about them, at the head of its loop. -/
def deletedTopicState : SyncState :=
  ⟨⟨cursorData, none⟩, .delivering ⟨topicAccount, ""⟩ (deletedTopicBatch.map Prod.fst) "x", [], []⟩

/-- The draft is skipped, and the others are delivered. -/
theorem allDelivered_deletedTopicBatch :
    ∃ s', run sampleWatcher.step deletedTopicState
        (sampleWatcher.loopEvents ⟨topicAccount, ""⟩ deletedTopicBatch ++ [.finish .failed]) =
          some s' ∧
      s'.phase = .idle ∧
      sampleWatcher.AllDelivered ⟨topicAccount, ""⟩ deletedTopicBatch deletedTopicState s' := by
  have hgone : ∀ p ∈ deletedTopicBatch, p.2.fallback = none ∧ ∀ err, p.2.first = some err →
      isThreadNotFoundError sampleWatcher.lib err = true := by
    intro p hp
    simp only [deletedTopicBatch, List.mem_cons, List.not_mem_nil, or_false] at hp
    rcases hp with rfl | rfl | rfl
    · exact ⟨rfl, fun err herr => by cases herr⟩
    · refine ⟨rfl, fun err herr => ?_⟩
      cases herr
      decide +kernel
    · exact ⟨rfl, fun err herr => by cases herr⟩
  have htelegram : sampleWatcher.OnlyTopicTrouble ⟨topicAccount, ""⟩ deletedTopicBatch :=
    fun p hp => ⟨(hgone p hp).1, fun err herr => ⟨by decide, .inl ((hgone p hp).2 err herr)⟩⟩
  have hphase : deletedTopicState.phase =
      .delivering ⟨topicAccount, ""⟩ (deletedTopicBatch.map Prod.fst) "x" := rfl
  obtain ⟨s', hrun, hidle, hiff⟩ := Watcher.allDelivered_iff hphase htelegram .failed
  exact ⟨s', hrun, hidle, hiff.mpr fun p hp _ => (hgone p hp).2⟩

end Jmap2Telegram
