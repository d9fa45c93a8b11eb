import Jmap2Telegram.Transition.Execution
import Jmap2Telegram.Watcher.Sync

/-!
# What a watcher records is true

What a watcher was told in the round in progress: the chat's record at its start, the mailboxes'
roles, and the messages it asked for with the answers. Every outcome it records is about the next of
these messages and true of it, and every message it sends is that one's notification.

* `Outcome.TrueOf`: what an outcome says of the message fetched.
* `Honest`: what one step records and sends, compared with what the watcher was told.
* `honest_state`: every step of every run is honest, restarts included.
* `results_run`: the answers Telegram gave are those the outcomes stand for.
-/

namespace Jmap2Telegram

open Transition

/-! ### What the watcher is told -/

/-- A message a round asked `Email/get` for: the record and the roles it is judged by, and the
answer. -/
structure Fetched where
  account : Account
  roles : Map String Role
  id : String
  answer : Option Email

namespace Fetched

/-- The message as the loop sees it. -/
def email (f : Fetched) : Option ChangedEmail := f.answer.map (changedEmail f.roles f.id)

/-- The message was found, and is neither the user's own output nor muted. -/
structure News (w : Watcher) (f : Fetched) (email : ChangedEmail) : Prop where
  found : f.email = some email
  notSkipped : skipReason email (w.target.selfAddress f.account) = none
  notMuted : isMuted w.lib email.summary f.account.muted = false

/-- The item a message is in the batch. -/
def item (f : Fetched) : Item := .ofAnswer f.roles f.id f.answer

end Fetched

/-- What an outcome says of the message. -/
def Outcome.TrueOf (w : Watcher) (f : Fetched) : Outcome → Prop
  | gone => f.answer = none
  | skipped reason =>
    ∃ email, f.email = some email ∧ skipReason email (w.target.selfAddress f.account) = some reason
  | muted =>
    ∃ email, f.email = some email ∧ skipReason email (w.target.selfAddress f.account) = none ∧
      isMuted w.lib email.summary f.account.muted = true
  | delivered | failed | retried _ => ∃ email, f.News w email

/-- How Telegram answered the messages an outcome cost. -/
def Outcome.results : Outcome → List SendResult
  | gone | skipped _ | muted => []
  | delivered => [.ok]
  | failed => [.failed]
  | retried ok => [.threadNotFound, if ok then .ok else .failed]

/-- A text announces a message: it is the notification of what was found, in some language. -/
def Notice.Announces (w : Watcher) (f : Fetched) (notice : Notice) : Prop :=
  notice.id = f.id ∧ ∃ email lang, f.News w email ∧
    notice.text =
      notificationText w.formatTimestamp email.summary w.timezone w.target.label lang

/-- The id `Email/get` is asked about. -/
def Phase.asked : Phase → Option String
  | .fetching _ _ (id :: _) _ _ => some id
  | _ => none

/-- The message that was sent to a topic that is gone, by Telegram's answer. -/
def Phase.refused : Phase → List SendResult
  | .resending .. => [.threadNotFound]
  | _ => []

namespace SyncEvent

/-- Telegram's answer. -/
def result : SyncEvent → Option SendResult
  | send result _ => some result
  | resend ok => some (if ok then .ok else .failed)
  | _ => none

/-- The outcomes an event can end in. -/
def Gives : SyncEvent → Outcome → Prop
  | pass, .gone | pass, .skipped _ | pass, .muted => True
  | send .ok _, .delivered | send .failed _, .failed => True
  | resend ok, .retried ok' => ok = ok'
  | _, _ => False

/-- The topic a message goes to: the second attempt goes to the chat. -/
def topic (w : Watcher) (f : Fetched) : SyncEvent → Option ThreadId
  | resend _ => none
  | _ => w.target.threadId w.config f.account

end SyncEvent

/-- What a watcher was told in its round, and how many messages were handled before the round. -/
structure Told where
  account : Option Account
  roles : Map String Role
  answers : List Fetched
  before : ℕ

namespace Told

/-- Nothing, before the first round. -/
def nothing : Told := ⟨none, ∅, [], 0⟩

/-- A round starts with the record it reads; then it hears of the roles, and of one message after
the other. -/
def note (w : Watcher) (s : SyncState) (told : Told) : SyncEvent → Told
  | .sync => ⟨s.store.data.accounts[w.chatId]?, ∅, [], s.handled.length⟩
  | .mailboxes (some roles) => { told with roles := roles }
  | .get (some answer) =>
    match told.account, s.phase.asked with
    | some account, some id =>
      { told with answers := told.answers ++ [⟨account, told.roles, id, answer⟩] }
    | _, _ => told
  | _ => told

/-- The first message that is not handled yet. -/
def next (told : Told) (s : SyncState) : Option Fetched :=
  told.answers[s.handled.length - told.before]?

end Told

namespace Watcher

variable {w : Watcher}

/-- What the watcher was told in the round in progress after `k` steps. -/
def told {s : SyncState} (x : Execution w.step s) : ℕ → Told
  | 0 => .nothing
  | k + 1 =>
    match x.events[k]? with
    | some e => (told x k).note w (x.state k) e
    | none => told x k

/-- What a step records is true of the next message, and what it sends is that message's
notification. -/
structure Honest (w : Watcher) (told : Told) (e : SyncEvent) (s s' : SyncState) : Prop where
  handled : s'.handled = s.handled ∨
    ∃ f outcome, told.next s = some f ∧ s'.handled = s.handled ++ [(f.id, outcome)] ∧
      outcome.TrueOf w f ∧ e.Gives outcome
  notices : (e.result = none ∧ s'.notices = s.notices) ∨
    ∃ f notice result, told.next s = some f ∧ e.result = some result ∧
      s'.notices = s.notices ++ [notice] ∧ notice.Announces w f ∧ notice.threadId = e.topic w f

/-! ### The invariant -/

/-- The phase holds what the watcher was told: the batch, from the first message not handled yet. -/
inductive Informed (w : Watcher) (told : Told) (handled : ℕ) : Phase → Prop where
  | idle : Informed w told handled .idle
  | baseline : Informed w told handled .baseline
  | changes {round : Round} (haccount : told.account = some round.account)
    (hanswers : told.answers = []) (hbefore : told.before = handled) :
    Informed w told handled (.changes round)
  | mailboxes {round : Round} {created : List String} {newState : String}
    (haccount : told.account = some round.account)
    (hanswers : told.answers = []) (hbefore : told.before = handled) :
    Informed w told handled (.mailboxes round created newState)
  | fetching {round : Round} {todo : List String} {newState : String}
    (haccount : told.account = some round.account)
    (hanswers : ∀ f ∈ told.answers, f.account = round.account) (hbefore : told.before = handled) :
    Informed w told handled
      (.fetching round told.roles todo (told.answers.map Fetched.item) newState)
  | delivering {round : Round} {newState : String}
    (hanswers : ∀ f ∈ told.answers, f.account = round.account) (hbefore : told.before ≤ handled) :
    Informed w told handled (.delivering round
      ((told.answers.drop (handled - told.before)).map Fetched.item) newState)
  | resending {round : Round} {newState : String} {f : Fetched} {rest : List Fetched}
    {notice : Notice} (hanswers : ∀ f ∈ told.answers, f.account = round.account)
    (hbefore : told.before ≤ handled)
    (hrest : told.answers.drop (handled - told.before) = f :: rest)
    (hnotice : notice.Announces w f) :
    Informed w told handled (.resending round notice (rest.map Fetched.item) newState)

section

variable {told : Told} {s s' : SyncState} {e : SyncEvent} {round : Round} {f : Fetched}
  {rest : List Fetched} {outcome : Outcome} {email : ChangedEmail} {handled : ℕ}

/-- What the loop decides without sending anything is true of the message. -/
theorem trueOf_of_verdict (haccount : f.account = round.account)
    (h : w.verdict round f.item = some outcome) :
    outcome.TrueOf w f ∧ SyncEvent.pass.Gives outcome := by
  rcases f with ⟨account, roles, id, - | answer⟩
  · cases h
    exact ⟨rfl, trivial⟩
  · dsimp only at haccount
    subst haccount
    simp only [verdict, Fetched.item, Item.ofAnswer] at h
    split at h
    case h_1 reason hreason =>
      cases h
      exact ⟨⟨_, rfl, hreason⟩, trivial⟩
    case h_2 hreason =>
      split at h <;> cases h
      case isTrue hmuted => exact ⟨⟨_, rfl, hreason, hmuted⟩, trivial⟩

/-- What the loop sends was found, and is neither the user's own output nor muted. -/
theorem news_of_verdict (haccount : f.account = round.account) (hitem : f.item = .found email)
    (h : w.verdict round (.found email) = none) :
    f.News w email ∧ email.summary.id = f.id := by
  rcases f with ⟨account, roles, id, - | answer⟩
  · cases hitem
  · dsimp only at haccount
    subst haccount
    cases hitem
    simp only [verdict] at h
    split at h
    case h_1 => cases h
    case h_2 hreason =>
      split at h <;> cases h
      case isFalse hmuted => exact ⟨⟨rfl, hreason, eq_false_of_ne_true hmuted⟩, rfl⟩

theorem announces_notice (hnews : f.News w email) (hid : email.summary.id = f.id)
    (threadId : Option ThreadId) : (w.notice s email threadId).Announces w f :=
  ⟨hid, email, s.store.data.languageFor w.chatId w.defaultLanguage, hnews, rfl⟩

/-- The message at the head of the loop is the next of those the watcher was told of. -/
theorem next_of_drop
    (hrest : told.answers.drop (s.handled.length - told.before) = f :: rest) :
    told.next s = some f ∧ f ∈ told.answers := by
  have hnext : told.next s = some f := by
    rw [Told.next, ← List.head?_drop, hrest]
    rfl
  exact ⟨hnext, List.mem_of_getElem? hnext⟩

/-- Once it is handled, those behind it are left. -/
theorem Informed.next (hanswers : ∀ f ∈ told.answers, f.account = round.account)
    (hbefore : told.before ≤ handled)
    (hrest : told.answers.drop (handled - told.before) = f :: rest) (newState : String) :
    Informed w told (handled + 1) (.delivering round (rest.map Fetched.item) newState) := by
  have hstep : handled + 1 - told.before = handled - told.before + 1 := by omega
  have hdrop : rest = told.answers.drop (handled + 1 - told.before) := by
    rw [hstep, ← List.drop_drop, hrest]
    rfl
  rw [hdrop]
  exact .delivering hanswers (Nat.le_succ_of_le hbefore)

/-- A round starts with the record the store has. -/
theorem informed_start (s : SyncState) :
    Informed w (told.note w s .sync) s.handled.length (w.start s) := by
  rw [start]
  rcases haccount : s.store.data.accounts[w.chatId]? with - | account
  · exact .idle
  · dsimp only
    split
    · exact .baseline
    · exact .changes haccount rfl rfl

/-- Going on with a fetch keeps what was told. -/
theorem informed_fetch {todo : List String} {newState : String}
    (haccount : told.account = some round.account)
    (hanswers : ∀ f ∈ told.answers, f.account = round.account) (hbefore : told.before = handled) :
    Informed w told handled
      (fetch round told.roles todo (told.answers.map Fetched.item) newState) := by
  rw [fetch]
  split
  · have hnone : handled - told.before = 0 := by omega
    have hall : Informed w told handled (.delivering round _ newState) :=
      .delivering hanswers hbefore.le
    rwa [hnone, List.drop_zero] at hall
  · exact .fetching haccount hanswers hbefore

/-- A step that records nothing and sends nothing. -/
theorem Honest.quiet (hresult : e.result = none) (hhandled : s'.handled = s.handled)
    (hnotices : s'.notices = s.notices) : Honest w told e s s' :=
  ⟨.inl hhandled, .inl ⟨hresult, hnotices⟩⟩

/-- A step that sends the notification of a message, and records what becomes of it. -/
theorem Honest.send {notice : Notice} {result : SendResult} (hnext : told.next s = some f)
    (hnews : f.News w email) (hannounces : notice.Announces w f)
    (hresult : e.result = some result) (hnotices : s'.notices = s.notices ++ [notice])
    (htopic : notice.threadId = e.topic w f)
    (hhandled : s'.handled = s.handled ∨
      ∃ outcome, s'.handled = s.handled ++ [(f.id, outcome)] ∧ outcome.results ≠ [] ∧
        e.Gives outcome) : Honest w told e s s' where
  handled := by
    refine hhandled.imp id ?_
    rintro ⟨outcome, hhandled, hsends, hgives⟩
    refine ⟨f, outcome, hnext, hhandled, ?_, hgives⟩
    cases outcome with
    | gone | skipped | muted => exact absurd rfl hsends
    | delivered | failed | retried => exact ⟨email, hnews⟩
  notices := .inr ⟨f, notice, result, hnext, hresult, hnotices, hannounces, htopic⟩

/-- The head of the loop is the next message the watcher was told of. -/
theorem Informed.head {item : Item} {changed : List Item} {newState : String}
    (h : Informed w told s.handled.length (.delivering round (item :: changed) newState)) :
    ∃ f rest, told.next s = some f ∧ f.account = round.account ∧ f.item = item ∧
      told.answers.drop (s.handled.length - told.before) = f :: rest ∧
      changed = rest.map Fetched.item ∧ told.before ≤ s.handled.length ∧
      ∀ g ∈ told.answers, g.account = round.account := by
  generalize hphase : Phase.delivering round (item :: changed) newState = phase at h
  cases h with
  | delivering hanswers hbefore =>
    injection hphase with hround hchanged hstate
    subst hround
    obtain ⟨f, rest, hrest, hitem, hchanged⟩ := List.map_eq_cons_iff.mp hchanged.symm
    obtain ⟨hnext, hmem⟩ := next_of_drop hrest
    exact ⟨f, rest, hnext, hanswers f hmem, hitem, hrest, hchanged.symm, hbefore, hanswers⟩
  | idle | baseline | changes | mailboxes | fetching | resending => cases hphase

/-! ### One step -/

/-- `Email/changes` answers that nothing was created. -/
theorem informed_nothingCreated {newState : String}
    (h : Informed w told handled (.changes round)) :
    Informed w told handled (.delivering round [] newState) := by
  cases h with
  | changes haccount hanswers hbefore =>
    have hall : Informed w told handled (.delivering round _ newState) :=
      .delivering (by simp [hanswers]) hbefore.le
    rwa [hanswers, List.drop_nil, List.map_nil] at hall

/-- `Email/changes` answers what was created. -/
theorem informed_created {created : List String} {newState : String}
    (h : Informed w told handled (.changes round)) :
    Informed w told handled (.mailboxes round created newState) := by
  cases h with
  | changes haccount hanswers hbefore => exact .mailboxes haccount hanswers hbefore

/-- `Mailbox/get` answers the roles. -/
theorem informed_mailboxes {created : List String} {newState : String} {roles : Map String Role}
    (h : Informed w told s.handled.length (.mailboxes round created newState)) :
    Informed w (told.note w s (.mailboxes (some roles))) s.handled.length
      (fetch round roles created [] newState) := by
  cases h with
  | mailboxes haccount hanswers hbefore =>
    have hnone : told.answers.map Fetched.item = [] := by rw [hanswers]; rfl
    have hfetch : Informed w { told with roles := roles } s.handled.length
        (fetch round roles created (told.answers.map Fetched.item) newState) :=
      informed_fetch haccount (by simp [hanswers]) hbefore
    rwa [hnone] at hfetch

/-- `Email/get` answers about one message more. -/
theorem informed_get {roles : Map String Role} {id : String} {todo : List String}
    {changed : List Item} {newState : String}
    (hphase : s.phase = .fetching round roles (id :: todo) changed newState)
    (h : Informed w told s.handled.length s.phase) (found : Option Email) :
    Informed w (told.note w s (.get (some found))) s.handled.length
      (fetch round roles todo (changed ++ [.ofAnswer roles id found]) newState) := by
  have hasked : s.phase.asked = some id := by rw [hphase]; rfl
  rw [hphase] at h
  cases h with
  | fetching haccount hanswers hbefore =>
    have hnote : told.note w s (.get (some found)) = { told with
        answers := told.answers ++ [⟨round.account, told.roles, id, found⟩] } := by
      simp only [Told.note, haccount, hasked]
    have hfetch : ∀ answers : List Fetched, (∀ f ∈ answers, f.account = round.account) →
        Informed w { told with answers := answers } s.handled.length
          (fetch round told.roles todo (answers.map Fetched.item) newState) :=
      fun answers hall => informed_fetch haccount hall hbefore
    rw [hnote]
    have hfetch := hfetch (told.answers ++ [⟨round.account, told.roles, id, found⟩]) fun f hf => by
      rcases List.mem_append.mp hf with hf | hf
      · exact hanswers f hf
      · rw [List.mem_singleton.mp hf]
    rwa [List.map_append] at hfetch

/-- The loop passes over a message. -/
theorem informed_pass {item : Item} {changed : List Item} {newState : String}
    (h : Informed w told s.handled.length (.delivering round (item :: changed) newState))
    (houtcome : w.verdict round item = some outcome) :
    Informed w told (s.handled.length + 1) (.delivering round changed newState) ∧
      ∃ f, told.next s = some f ∧ item.id = f.id ∧ outcome.TrueOf w f ∧
        SyncEvent.pass.Gives outcome := by
  obtain ⟨f, rest, hnext, haccount, rfl, hrest, rfl, hbefore, hanswers⟩ := h.head
  exact ⟨.next hanswers hbefore hrest newState, f, hnext, Item.id_ofAnswer _ _ _,
    trueOf_of_verdict haccount houtcome⟩

/-- The loop sends the notification of a message. -/
theorem informed_send {changed : List Item} {newState : String}
    (h : Informed w told s.handled.length (.delivering round (.found email :: changed) newState))
    (hverdict : w.verdict round (.found email) = none) :
    Informed w told (s.handled.length + 1) (.delivering round changed newState) ∧
      ∃ f, told.next s = some f ∧ f.News w email ∧ email.summary.id = f.id ∧
        f.account = round.account ∧ ∀ notice : Notice, notice.Announces w f →
          Informed w told s.handled.length (.resending round notice changed newState) := by
  obtain ⟨f, rest, hnext, haccount, hitem, hrest, rfl, hbefore, hanswers⟩ := h.head
  obtain ⟨hnews, hid⟩ := news_of_verdict haccount hitem hverdict
  exact ⟨.next hanswers hbefore hrest newState, f, hnext, hnews, hid, haccount,
    fun notice hnotice => .resending hanswers hbefore hrest hnotice⟩

/-- The loop sends a message once more, to the chat. -/
theorem informed_resend {notice : Notice} {changed : List Item} {newState : String}
    (h : Informed w told s.handled.length (.resending round notice changed newState)) :
    Informed w told (s.handled.length + 1) (.delivering round changed newState) ∧
      ∃ f, told.next s = some f ∧ notice.Announces w f := by
  generalize hphase : Phase.resending round notice changed newState = phase at h
  cases h with
  | resending hanswers hbefore hrest hnotice =>
    cases hphase
    obtain ⟨hnext, -⟩ := next_of_drop hrest
    exact ⟨.next hanswers hbefore hrest newState, _, hnext, hnotice⟩
  | idle | baseline | changes | mailboxes | fetching | delivering => cases hphase

/-- **A step is honest**, and what the phase holds is what the watcher was told. -/
theorem honest_step (hinf : Informed w told s.handled.length s.phase)
    (h : w.step s e = some s') :
    Informed w (told.note w s e) s'.handled.length s'.phase ∧ Honest w told e s s' := by
  cases stepEffect h with
  | sync => exact ⟨informed_start s, .quiet rfl rfl rfl⟩
  | noBaseline | baseline | noChanges | noMailboxes | notFetched | finishUnchanged | finish
  | restart => exact ⟨.idle, .quiet rfl rfl rfl⟩
  | nothingCreated hphase =>
    rw [hphase] at hinf
    exact ⟨informed_nothingCreated hinf, .quiet rfl rfl rfl⟩
  | created hphase =>
    rw [hphase] at hinf
    exact ⟨informed_created hinf, .quiet rfl rfl rfl⟩
  | mailboxes hphase =>
    rw [hphase] at hinf
    exact ⟨informed_mailboxes hinf, .quiet rfl rfl rfl⟩
  | fetched hphase found => exact ⟨informed_get hphase hinf found, .quiet rfl rfl rfl⟩
  | pass hphase houtcome =>
    rw [hphase] at hinf
    obtain ⟨hinf, f, hnext, hid, htrue, hgives⟩ := informed_pass hinf houtcome
    rw [List.length_append]
    exact ⟨hinf, .inr ⟨f, _, hnext, by rw [hid], htrue, hgives⟩, .inl ⟨rfl, rfl⟩⟩
  | sent hphase hverdict =>
    rw [hphase] at hinf
    obtain ⟨hinf, f, hnext, hnews, hid, haccount, -⟩ := informed_send hinf hverdict
    rw [List.length_append]
    exact ⟨hinf, .send hnext hnews (announces_notice hnews hid _) rfl rfl
      (congrArg (w.target.threadId w.config) haccount.symm)
      (.inr ⟨.delivered, by rw [hid], by simp [Outcome.results], trivial⟩)⟩
  | sendFailed hphase hverdict =>
    rw [hphase] at hinf
    obtain ⟨hinf, f, hnext, hnews, hid, haccount, -⟩ := informed_send hinf hverdict
    rw [List.length_append]
    exact ⟨hinf, .send hnext hnews (announces_notice hnews hid _) rfl rfl
      (congrArg (w.target.threadId w.config) haccount.symm)
      (.inr ⟨.failed, by rw [hid], by simp [Outcome.results], trivial⟩)⟩
  | threadNotFound hphase hverdict =>
    rw [hphase] at hinf
    obtain ⟨-, f, hnext, hnews, hid, haccount, hresending⟩ := informed_send hinf hverdict
    exact ⟨hresending _ (announces_notice hnews hid _),
      .send hnext hnews (announces_notice hnews hid _) rfl rfl
        (congrArg (w.target.threadId w.config) haccount.symm) (.inl rfl)⟩
  | resend hphase ok =>
    rw [hphase] at hinf
    obtain ⟨hinf, f, hnext, hid, email, lang, hnews, htext⟩ := informed_resend hinf
    rw [List.length_append]
    have hannounces : Notice.Announces w f ⟨_, _, none⟩ := ⟨hid, email, lang, hnews, htext⟩
    exact ⟨hinf, .send hnext hnews hannounces rfl rfl rfl
      (.inr ⟨.retried ok, by rw [hid], by simp [Outcome.results], rfl⟩)⟩
  | other => exact ⟨hinf, .quiet rfl rfl rfl⟩

/-- **Every step of every run is honest**, restarts included. -/
theorem honest_state (hphase : s.phase = .idle) (x : Execution w.step s) {k : ℕ}
    (hk : k < x.events.length) :
    Honest w (Watcher.told x k) x.events[k] (x.state k) (x.state (k + 1)) := by
  have hinf : Informed w (Watcher.told x k) (x.state k).handled.length (x.state k).phase := by
    refine x.induction (fun k s => Informed w (Watcher.told x k) s.handled.length s.phase)
      (hphase ▸ .idle) (fun j hj hinf hstep => ?_) hk.le
    rw [Watcher.told, List.getElem?_eq_getElem hj]
    exact (honest_step hinf hstep).1
  exact (honest_step hinf (x.state_succ hk)).2

/-! ### Telegram's answers -/

/-- What the loop passes over costs no message. -/
theorem results_of_verdict {item : Item} (h : w.verdict round item = some outcome) :
    outcome.results = [] := by
  cases item with
  | gone id =>
    cases h
    rfl
  | found email =>
    simp only [verdict] at h
    split at h
    case h_1 =>
      cases h
      rfl
    case h_2 =>
      split at h <;> cases h
      rfl

/-- The answers a step adds are those of the outcome it records, or of the message in flight. -/
theorem results_step (he : e ≠ .restart) (h : w.step s e = some s') :
    s'.handled.flatMap (fun h => h.2.results) ++ s'.phase.refused =
      s.handled.flatMap (fun h => h.2.results) ++ s.phase.refused ++ e.result.toList := by
  have hfetch : ∀ {round : Round} {roles : Map String Role} {todo : List String}
      {changed : List Item} {newState : String},
      (fetch round roles todo changed newState).refused = [] := by
    intros
    rw [fetch]
    split <;> rfl
  have hstart : (w.start s).refused = [] := by
    rw [start]
    split
    · rfl
    · split <;> rfl
  cases stepEffect h with
  | sync hphase =>
    dsimp only
    rw [hstart, hphase]
    simp [Phase.refused, SyncEvent.result]
  | noBaseline hphase | baseline hphase | noChanges hphase | nothingCreated hphase
  | created hphase | noMailboxes hphase | notFetched hphase | finishUnchanged hphase
  | finish hphase =>
    rw [hphase]
    simp [Phase.refused, SyncEvent.result]
  | mailboxes hphase | fetched hphase =>
    dsimp only
    rw [hfetch, hphase]
    simp [Phase.refused, SyncEvent.result]
  | pass hphase houtcome =>
    have hnone := results_of_verdict houtcome
    rw [hphase]
    simp [hnone, Phase.refused, SyncEvent.result]
  | sent hphase | sendFailed hphase | threadNotFound hphase | resend hphase =>
    rw [hphase]
    simp [Phase.refused, SyncEvent.result, Outcome.results]
  | restart => exact absurd rfl he
  | other => simp [SyncEvent.result]

/-- **Telegram's answers** in a run without restarts are those of the outcomes recorded, in their
order, and then of the message in flight. -/
theorem results_run {es : List SyncEvent} (hes : ∀ e ∈ es, e ≠ .restart)
    (hrun : Transition.run w.step s es = some s') :
    s'.handled.flatMap (fun h => h.2.results) ++ s'.phase.refused =
      s.handled.flatMap (fun h => h.2.results) ++ s.phase.refused ++
        es.filterMap SyncEvent.result := by
  induction es generalizing s with
  | nil =>
    cases hrun
    exact (List.append_nil _).symm
  | cons e es ih =>
    obtain ⟨t, ht, hrun⟩ := Option.bind_eq_some_iff.mp hrun
    rw [ih (fun f hf => hes f (List.mem_cons_of_mem e hf)) hrun,
      results_step (hes e List.mem_cons_self) ht, List.append_assoc, List.filterMap_cons]
    cases e.result <;> rfl

end

end Watcher

end Jmap2Telegram
