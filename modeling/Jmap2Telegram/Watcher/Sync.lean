import Jmap2Telegram.Transition.ChangeLog
import Jmap2Telegram.Watcher.News

/-!
# A watcher's sync

`sync_and_notify`, one outside call at a time. A round reads the cursor, asks `Email/changes` what
was created since, then for the mailboxes' roles and for each message, and any of these may fail
and end the round; then it goes through the messages, passing over those that are gone, skipped or
muted and sending the others, and last it stores the new cursor, in memory and, if the write
succeeds, on disk. The process may restart at any point, from what is on disk.

* `Watcher.step`: the machine.
* `stepEffect`: all one step can do.
-/

namespace Jmap2Telegram

/-- How Telegram answers a message. -/
inductive SendResult where
  | ok
  | threadNotFound
  | failed
  deriving DecidableEq

/-- What became of a message. -/
inductive Outcome where
  /-- `Email/get` did not find it. -/
  | gone
  | skipped (reason : SkipReason)
  | muted
  /-- Sent, to its topic or to the chat. -/
  | delivered
  /-- Its one send failed. -/
  | failed
  /-- Its topic was gone, so it was sent once more, to the chat; `ok` says whether that worked. -/
  | retried (ok : Bool)
  deriving DecidableEq

/-- How many messages an outcome cost. -/
def Outcome.sends : Outcome → ℕ
  | gone | skipped _ | muted => 0
  | delivered | failed => 1
  | retried _ => 2

/-- A message sent: the mail it is about, its text, and the topic it went to. -/
structure Notice where
  id : String
  text : String
  threadId : Option ThreadId

/-- What a round reads at its start: the chat's record and the cursor. -/
structure Round where
  account : Account
  since : String

/-- A message of a batch, or the id of one that is gone. The source drops those at once, and here
they stay in their place until the loop reaches them. -/
inductive Item where
  | gone (id : String)
  | found (email : ChangedEmail)

/-- The id of a message, found or not. -/
def Item.id : Item → String
  | gone id => id
  | found email => email.summary.id

/-- What `Email/get` answers about an id. -/
def Item.ofAnswer (roles : Map String Role) (id : String) : Option Email → Item
  | none => gone id
  | some email => found (changedEmail roles id email)

@[simp]
theorem Item.id_ofAnswer (roles : Map String Role) (id : String) (answer : Option Email) :
    (ofAnswer roles id answer).id = id := by
  cases answer <;> rfl

/-- Where a watcher is. -/
inductive Phase where
  | idle
  /-- No cursor yet: waiting for the account's current state. -/
  | baseline
  /-- Waiting for `Email/changes`. -/
  | changes (round : Round)
  /-- Waiting for `Mailbox/get`. -/
  | mailboxes (round : Round) (created : List String) (newState : String)
  /-- Waiting for `Email/get`, about the first of `todo`. -/
  | fetching (round : Round) (roles : Map String Role) (todo : List String) (changed : List Item)
      (newState : String)
  /-- At the head of the loop, with `changed` to go. -/
  | delivering (round : Round) (changed : List Item) (newState : String)
  /-- The topic `notice` went to is gone; about to send it to the chat. -/
  | resending (round : Round) (notice : Notice) (changed : List Item) (newState : String)

/-- The store, where the watcher is, and what it did so far. -/
structure SyncState where
  store : StoreState
  phase : Phase
  handled : List (String × Outcome)
  notices : List Notice

/-- One step of a watcher, with the answer of the outside call it makes. -/
inductive SyncEvent where
  /-- A wake-up: `sync_and_notify` is called. -/
  | sync
  | baseline (answer : Option String) (persist : Persist)
  /-- `Email/changes` answers with the next `count` changes, or fails. -/
  | changes (count : Option ℕ)
  | mailboxes (answer : Option (Map String Role))
  | get (answer : Option (Option Email))
  /-- The loop goes over a message it does not send. -/
  | pass
  | send (result : SendResult) (persist : Persist)
  | resend (ok : Bool)
  /-- The loop ends and the cursor is stored. -/
  | finish (persist : Persist)
  /-- The process ends, and starts again from the state file. -/
  | restart
  /-- Some other task calls a store operation that leaves this watcher's cursor alone. -/
  | other (call : Call)

/-- A watcher: what it follows, and what it calls. -/
structure Watcher where
  {Tz : Type}
  lib : Externals
  key : Key
  config : Config
  formatTimestamp : Tz → Int64 → Option String
  timezone : Tz
  defaultLanguage : String
  chatId : ChatId
  target : WatchTarget
  log : ChangeLog String

namespace Watcher

variable (w : Watcher)

/-- The cursor in memory. -/
def cursor (s : SyncState) : Option String := s.store.data.cursor w.chatId w.target

/-- What the loop decides about a message without sending anything. -/
def verdict (round : Round) : Item → Option Outcome
  | .gone _ => some .gone
  | .found email =>
    match skipReason email (w.target.selfAddress round.account) with
    | some reason => some (.skipped reason)
    | none => if isMuted w.lib email.summary round.account.muted then some .muted else none

/-- The notification of a message, to a topic or to the chat; its text is in the language the chat
has now. -/
def notice (s : SyncState) (email : ChangedEmail) (threadId : Option ThreadId) : Notice where
  id := email.summary.id
  text := notificationText w.formatTimestamp email.summary w.timezone w.target.label
    (s.store.data.languageFor w.chatId w.defaultLanguage)
  threadId := threadId

/-- The store after a call. -/
def exec (s : SyncState) (op : Op) (persist : Persist) : StoreState :=
  (Store.exec w.lib w.key ⟨op, persist⟩ s.store).1

/-- The start of a round: the record and the cursor are read. -/
def start (s : SyncState) : Phase :=
  match s.store.data.accounts[w.chatId]? with
  | none => .idle
  | some account =>
    match w.target.sinceState account with
    | none => .baseline
    | some since => .changes ⟨account, since⟩

/-- The next step of a fetch: another message, or the loop. -/
def fetch (round : Round) (roles : Map String Role) (todo : List String) (changed : List Item)
    (newState : String) : Phase :=
  if todo.isEmpty then .delivering round changed newState
  else .fetching round roles todo changed newState

/-- One step. -/
def step (s : SyncState) : SyncEvent → Option SyncState
  | .sync =>
    match s.phase with
    | .idle => some { s with phase := w.start s }
    | _ => none
  | .baseline answer persist =>
    match s.phase, answer with
    | .baseline, none => some { s with phase := .idle }
    | .baseline, some fresh =>
      some { s with
        phase := .idle, store := w.exec s (w.target.updateState w.chatId fresh) persist }
    | _, _ => none
  | .changes count =>
    match s.phase with
    | .changes round =>
      match count.bind fun n => w.log.changes round.since n with
      | none => some { s with phase := .idle }
      | some (created, newState) =>
        if created.isEmpty then some { s with phase := .delivering round [] newState }
        else some { s with phase := .mailboxes round created newState }
    | _ => none
  | .mailboxes answer =>
    match s.phase, answer with
    | .mailboxes _ _ _, none => some { s with phase := .idle }
    | .mailboxes round created newState, some roles =>
      some { s with phase := fetch round roles created [] newState }
    | _, _ => none
  | .get answer =>
    match s.phase, answer with
    | .fetching _ _ (_ :: _) _ _, none => some { s with phase := .idle }
    | .fetching round roles (id :: todo) changed newState, some found =>
      some { s with
        phase := fetch round roles todo (changed ++ [.ofAnswer roles id found]) newState }
    | _, _ => none
  | .pass =>
    match s.phase with
    | .delivering round (item :: changed) newState =>
      (w.verdict round item).map fun outcome =>
        { s with
          phase := .delivering round changed newState
          handled := s.handled ++ [(item.id, outcome)] }
    | _ => none
  | .send result persist =>
    match s.phase with
    | .delivering round (.found email :: changed) newState =>
      if (w.verdict round (.found email)).isSome then none
      else
        let notice := w.notice s email (w.target.threadId w.config round.account)
        match result with
        | .ok =>
          some { s with
            phase := .delivering round changed newState
            notices := s.notices ++ [notice]
            handled := s.handled ++ [(notice.id, .delivered)] }
        | .failed =>
          some { s with
            phase := .delivering round changed newState
            notices := s.notices ++ [notice]
            handled := s.handled ++ [(notice.id, .failed)] }
        | .threadNotFound =>
          some { s with
            phase := .resending round notice changed newState
            notices := s.notices ++ [notice]
            store := w.exec s (w.target.clearThread w.chatId) persist }
    | _ => none
  | .resend ok =>
    match s.phase with
    | .resending round notice changed newState =>
      some { s with
        phase := .delivering round changed newState
        notices := s.notices ++ [{ notice with threadId := none }]
        handled := s.handled ++ [(notice.id, .retried ok)] }
    | _ => none
  | .finish persist =>
    match s.phase with
    | .delivering round [] newState =>
      if newState = round.since then some { s with phase := .idle }
      else
        some { s with
          phase := .idle, store := w.exec s (w.target.updateState w.chatId newState) persist }
    | _ => none
  | .restart =>
    (Store.openState w.lib w.key s.store.stateEnc).map fun data =>
      { s with phase := .idle, store := { s.store with data := data } }
  | .other call =>
    let store := (Store.exec w.lib w.key call s.store).1
    if store.data.cursor w.chatId w.target = w.cursor s then some { s with store := store }
    else none

/-- All a step can do, with what it waits for: one case for each way through `step`. -/
inductive StepEffect (w : Watcher) (s : SyncState) : SyncEvent → SyncState → Prop where
  | sync (hphase : s.phase = .idle) : StepEffect w s .sync { s with phase := w.start s }
  | noBaseline {persist : Persist} (hphase : s.phase = .baseline) :
    StepEffect w s (.baseline none persist) { s with phase := .idle }
  | baseline {fresh : String} {persist : Persist} (hphase : s.phase = .baseline) :
    StepEffect w s (.baseline (some fresh) persist)
      { s with
        phase := .idle, store := w.exec s (w.target.updateState w.chatId fresh) persist }
  | noChanges {round : Round} {count : Option ℕ} (hphase : s.phase = .changes round) :
    StepEffect w s (.changes count) { s with phase := .idle }
  | nothingCreated {round : Round} {count : Option ℕ} {newState : String}
    (hphase : s.phase = .changes round)
    (hanswer : (count.bind fun n => w.log.changes round.since n) = some ([], newState)) :
    StepEffect w s (.changes count) { s with phase := .delivering round [] newState }
  | created {round : Round} {count : Option ℕ} {created : List String} {newState : String}
    (hphase : s.phase = .changes round)
    (hanswer : (count.bind fun n => w.log.changes round.since n) = some (created, newState)) :
    StepEffect w s (.changes count) { s with phase := .mailboxes round created newState }
  | noMailboxes {round : Round} {created : List String} {newState : String}
    (hphase : s.phase = .mailboxes round created newState) :
    StepEffect w s (.mailboxes none) { s with phase := .idle }
  | mailboxes {round : Round} {created : List String} {newState : String}
    {roles : Map String Role} (hphase : s.phase = .mailboxes round created newState) :
    StepEffect w s (.mailboxes (some roles))
      { s with phase := fetch round roles created [] newState }
  | notFetched {round : Round} {roles : Map String Role} {id : String} {todo : List String}
    {changed : List Item} {newState : String}
    (hphase : s.phase = .fetching round roles (id :: todo) changed newState) :
    StepEffect w s (.get none) { s with phase := .idle }
  | fetched {round : Round} {roles : Map String Role} {id : String} {todo : List String}
    {changed : List Item} {newState : String}
    (hphase : s.phase = .fetching round roles (id :: todo) changed newState)
    (found : Option Email) :
    StepEffect w s (.get (some found))
      { s with
        phase := fetch round roles todo (changed ++ [.ofAnswer roles id found]) newState }
  | pass {round : Round} {item : Item} {changed : List Item} {newState : String}
    {outcome : Outcome} (hphase : s.phase = .delivering round (item :: changed) newState)
    (houtcome : w.verdict round item = some outcome) :
    StepEffect w s .pass
      { s with
        phase := .delivering round changed newState
        handled := s.handled ++ [(item.id, outcome)] }
  | sent {round : Round} {email : ChangedEmail} {changed : List Item} {newState : String}
    {persist : Persist} (hphase : s.phase = .delivering round (.found email :: changed) newState)
    (hverdict : w.verdict round (.found email) = none) :
    StepEffect w s (.send .ok persist)
      { s with
        phase := .delivering round changed newState
        notices := s.notices ++ [w.notice s email (w.target.threadId w.config round.account)]
        handled := s.handled ++ [(email.summary.id, .delivered)] }
  | sendFailed {round : Round} {email : ChangedEmail} {changed : List Item} {newState : String}
    {persist : Persist} (hphase : s.phase = .delivering round (.found email :: changed) newState)
    (hverdict : w.verdict round (.found email) = none) :
    StepEffect w s (.send .failed persist)
      { s with
        phase := .delivering round changed newState
        notices := s.notices ++ [w.notice s email (w.target.threadId w.config round.account)]
        handled := s.handled ++ [(email.summary.id, .failed)] }
  | threadNotFound {round : Round} {email : ChangedEmail} {changed : List Item}
    {newState : String} {persist : Persist}
    (hphase : s.phase = .delivering round (.found email :: changed) newState)
    (hverdict : w.verdict round (.found email) = none) :
    StepEffect w s (.send .threadNotFound persist)
      { s with
        phase := .resending round
          (w.notice s email (w.target.threadId w.config round.account)) changed newState
        notices := s.notices ++ [w.notice s email (w.target.threadId w.config round.account)]
        store := w.exec s (w.target.clearThread w.chatId) persist }
  | resend {round : Round} {notice : Notice} {changed : List Item} {newState : String}
    (hphase : s.phase = .resending round notice changed newState) (ok : Bool) :
    StepEffect w s (.resend ok)
      { s with
        phase := .delivering round changed newState
        notices := s.notices ++ [{ notice with threadId := none }]
        handled := s.handled ++ [(notice.id, .retried ok)] }
  | finishUnchanged {round : Round} {newState : String} {persist : Persist}
    (hphase : s.phase = .delivering round [] newState) (hsame : newState = round.since) :
    StepEffect w s (.finish persist) { s with phase := .idle }
  | finish {round : Round} {newState : String} {persist : Persist}
    (hphase : s.phase = .delivering round [] newState) (hmoved : newState ≠ round.since) :
    StepEffect w s (.finish persist)
      { s with
        phase := .idle, store := w.exec s (w.target.updateState w.chatId newState) persist }
  | restart {data : StoreData}
    (hdata : Store.openState w.lib w.key s.store.stateEnc = some data) :
    StepEffect w s .restart { s with phase := .idle, store := { s.store with data := data } }
  | other (call : Call)
    (hsame : (Store.exec w.lib w.key call s.store).1.data.cursor w.chatId w.target
      = w.cursor s) :
    StepEffect w s (.other call) { s with store := (Store.exec w.lib w.key call s.store).1 }

/-- Every step does one of those. -/
theorem stepEffect {w : Watcher} {s s' : SyncState} {e : SyncEvent} (h : w.step s e = some s') :
    StepEffect w s e s' := by
  unfold step at h
  split at h
  case h_1 =>
    split at h <;> cases h
    case h_1 hphase => exact .sync hphase
  case h_2 =>
    split at h <;> cases h
    case h_1 hphase => exact .noBaseline hphase
    case h_2 hphase => exact .baseline hphase
  case h_3 =>
    split at h
    case h_2 => cases h
    case h_1 round hphase =>
      split at h
      case h_1 =>
        cases h
        exact .noChanges hphase
      case h_2 created newState hanswer =>
        split at h <;> cases h
        case isTrue hempty =>
          rw [List.isEmpty_iff.mp hempty] at hanswer
          exact .nothingCreated hphase hanswer
        case isFalse => exact .created hphase hanswer
  case h_4 =>
    split at h <;> cases h
    case h_1 hphase => exact .noMailboxes hphase
    case h_2 hphase => exact .mailboxes hphase
  case h_5 =>
    split at h <;> cases h
    case h_1 hphase => exact .notFetched hphase
    case h_2 found hphase => exact .fetched hphase found
  case h_6 =>
    split at h
    case h_2 => cases h
    case h_1 hphase =>
      obtain ⟨outcome, houtcome, rfl⟩ := Option.map_eq_some_iff.mp h
      exact .pass hphase houtcome
  case h_7 result persist =>
    split at h
    case h_2 => cases h
    case h_1 hphase =>
      split at h
      case isTrue => cases h
      case isFalse hnone =>
        have hverdict := Option.not_isSome_iff_eq_none.mp hnone
        cases result with
        | ok =>
          cases h
          exact .sent hphase hverdict
        | failed =>
          cases h
          exact .sendFailed hphase hverdict
        | threadNotFound =>
          cases h
          exact .threadNotFound hphase hverdict
  case h_8 ok =>
    split at h <;> cases h
    case h_1 hphase => exact .resend hphase ok
  case h_9 =>
    split at h
    case h_2 => cases h
    case h_1 hphase =>
      split at h <;> cases h
      case isTrue hsame => exact .finishUnchanged hphase hsame
      case isFalse hmoved => exact .finish hphase hmoved
  case h_10 =>
    obtain ⟨data, hdata, rfl⟩ := Option.map_eq_some_iff.mp h
    exact .restart hdata
  case h_11 call =>
    dsimp only at h
    split at h <;> cases h
    case isTrue hsame => exact .other call hsame

end Watcher

end Jmap2Telegram
