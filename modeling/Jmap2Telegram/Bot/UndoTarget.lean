import Jmap2Telegram.Bot.ClientChanges

/-!
# Where an undo puts an email back

A pending undo keeps the account id of the button that left it, and the undo button resolves the id
again: without an id, to whichever slot is the first one then. Runs of commands and of taps in one
chat, with accounts coming and going between a triage and its undo. Which account a client works on
is the server's affair; a function `accountOf` of the client stands for it.

* `AppState.TakesSnapshot`, `AppState.RestoreCall`: what a triage leaves, and the calls an undo
  makes.
* `LeftBy`: the triage that left the pending undo.
* `goesBack_iff`: an undo goes back to where its triage was, exactly when accounts that come and go
  in between leave the account id with a client of the same account.
-/

namespace Jmap2Telegram

open Transition

namespace AppState

variable {env : TapEnv} {app app' : AppState} {chatId : ChatId} {accountId id : Option String}
  {emailId acc : String} {m : Mailbox} {client : Client} {reaches : Client → Bool}

/-! ### Snapshots and calls -/

/-- The action of a triage button. -/
def triageOf (action : String) : Option TriageAction :=
  if action = "a" then some .archive
  else if action = "j" then some .junk
  else if action = "d" then some .delete
  else none

/-- A tap triages an email through a client, and leaves the mailboxes the email was in as a pending
undo. -/
def TakesSnapshot (app : AppState) (env : TapEnv) (chatId : ChatId) (data : String)
    (client : Client) (p : PendingUndo) : Prop :=
  ∃ action triage m app', Tap.ofData data = .act action p.accountId p.emailId ∧
    triageOf action = some triage ∧
    app.callbackClient env.reaches chatId p.accountId = .live m client app' ∧
    env.mail.mailboxIdsOf env.calls p.emailId = some p.restoreMailboxIds ∧
    (env.mail.move env.calls p.emailId triage).2 = true ∧ env.calls.answer = true ∧
    p.expiresAt = env.now + undoWindow

/-- A tap has an email put back through a client, into the given mailboxes. -/
def RestoreCall (app : AppState) (env : TapEnv) (chatId : ChatId) (data : String)
    (client : Client) (emailId : String) (ids : List String) : Prop :=
  ∃ accountId m app' p, Tap.ofData data = .act "u" accountId emailId ∧
    app.callbackClient env.reaches chatId accountId = .live m client app' ∧
    app.pendingUndo[chatId]? = some p ∧ p.isExpired env.now = false ∧ p.accountId = accountId ∧
    p.emailId = emailId ∧ p.restoreMailboxIds = ids

/-- A tap on an undo button that finds a client. -/
theorem act_undo (hlive : app.callbackClient env.reaches chatId accountId = .live m client app') :
    app.act env chatId accountId emailId "u" = app'.undo env chatId accountId emailId := by
  rw [act, hlive]
  rfl

/-- A tap on a triage button that finds a client. -/
theorem act_triage {action : String} {triage : TriageAction}
    (htriage : triageOf action = some triage)
    (hlive : app.callbackClient env.reaches chatId accountId = .live m client app') :
    app.act env chatId accountId emailId action =
      app'.performTriageAction env chatId accountId emailId triage := by
  rw [act, hlive]
  rw [triageOf] at htriage
  split_ifs at htriage with ha hj hd <;> cases htriage
  · rw [ha]
    rfl
  · rw [hj]
    rfl
  · rw [hd]
    rfl

/-- What the undo button does at the mail server is what the call does. -/
theorem mail_act_of_restoreCall {data : String} {ids : List String}
    (h : app.RestoreCall env chatId data client emailId ids) :
    ∃ accountId, Tap.ofData data = .act "u" accountId emailId ∧
      (app.act env chatId accountId emailId "u").mail =
        (env.mail.setMailboxes env.calls emailId ids).1 := by
  obtain ⟨accountId, m, app', p, htap, hlive, hp, hexpired, haccount, hemail, rfl⟩ := h
  refine ⟨accountId, htap, ?_⟩
  rw [← pendingUndo_callbackClient hlive] at hp
  rw [act_undo hlive]
  simp only [undo, hp, hexpired, haccount, hemail, and_self, if_true]
  rcases env.mail.setMailboxes env.calls emailId p.restoreMailboxIds with ⟨mail, _ | _⟩ <;> rfl

/-- Without the call, it does nothing there. -/
theorem mail_act_of_not_restoreCall {data : String}
    (htap : Tap.ofData data = .act "u" accountId emailId)
    (h : ∀ client ids, ¬app.RestoreCall env chatId data client emailId ids) :
    (app.act env chatId accountId emailId "u").mail = env.mail := by
  rcases hlive : app.callbackClient env.reaches chatId accountId with - | - | ⟨m, client, app'⟩
  · rw [act, hlive]
  · rw [act, hlive]
  · have hpending := pendingUndo_callbackClient hlive
    rw [act_undo hlive]
    simp only [undo, hpending]
    split
    case h_1 p hp =>
      split
      case isTrue hmatch =>
        exact absurd ⟨accountId, m, app', p, htap, hlive, hp, hmatch.1, hmatch.2.1,
          hmatch.2.2, rfl⟩ (h client p.restoreMailboxIds)
      case isFalse => rfl
    case h_2 => rfl

/-- A triage leaves the pending undos, or it leaves its own with the mailboxes it read. -/
theorem pendingUndo_performTriageAction_cases (app : AppState) (triage : TriageAction) :
    (app.performTriageAction env chatId accountId emailId triage).app.pendingUndo =
        app.pendingUndo ∨
      ∃ ids, env.mail.mailboxIdsOf env.calls emailId = some ids ∧
        (env.mail.move env.calls emailId triage).2 = true ∧ env.calls.answer = true ∧
        (app.performTriageAction env chatId accountId emailId triage).app.pendingUndo =
          app.pendingUndo.insert chatId ⟨accountId, emailId, ids, env.now + undoWindow⟩ := by
  have heffect := triageEffect env app chatId accountId emailId triage
  generalize app.performTriageAction env chatId accountId emailId triage = handled at heffect ⊢
  cases heffect with
  | unread | unmoved | unanswered => exact .inl rfl
  | undoable ids mail hids hmove hanswer => exact .inr ⟨ids, hids, by rw [hmove], hanswer, rfl⟩

/-- An undo that is pending after a tap on an email was pending before, or the tap left it. -/
theorem pending_act {action data : String} {p : PendingUndo}
    (htap : Tap.ofData data = .act action accountId emailId)
    (hp : (app.act env chatId accountId emailId action).app.pendingUndo[chatId]? = some p) :
    app.pendingUndo[chatId]? = some p ∨
      ∃ client, app.TakesSnapshot env chatId data client p := by
  rcases hlive : app.callbackClient env.reaches chatId accountId with - | - | ⟨m, client, app'⟩
  · rw [act, hlive] at hp
    exact .inl hp
  · rw [act, hlive] at hp
    exact .inl hp
  · have hpending := pendingUndo_callbackClient hlive
    rcases htriage : triageOf action with - | triage
    · -- an undo takes the pending one away, and nothing else touches it
      rw [triageOf] at htriage
      split_ifs at htriage with ha hj hd
      rw [act, hlive] at hp
      simp only [if_neg ha, if_neg hj, if_neg hd] at hp
      split at hp
      case isTrue =>
        rw [app_undo, Map.getElem?_erase, if_pos rfl] at hp
        cases hp
      case isFalse =>
        rw [hpending] at hp
        exact .inl hp
    · rw [act_triage htriage hlive] at hp
      obtain hsame | ⟨ids, hids, hmove, hanswer, hinsert⟩ :=
        pendingUndo_performTriageAction_cases app' triage
      · rw [hsame, hpending] at hp
        exact .inl hp
      · rw [hinsert, Map.getElem?_insert, if_pos rfl] at hp
        cases hp
        exact .inr ⟨client, action, triage, m, app', htap, htriage, hlive, hids, hmove, hanswer,
          rfl⟩

section

variable {data : String} {p : PendingUndo}

/-- The snapshot that a tap takes is pending after it. -/
theorem TakesSnapshot.pending {config : Config} {lib : Externals} {answers : HandlerAnswers}
    (h : app.TakesSnapshot env chatId data client p) :
    (app.callbackHandler config lib chatId env answers data).pendingUndo[chatId]? = some p := by
  obtain ⟨accountId, emailId, ids, expiresAt⟩ := p
  obtain ⟨action, triage, m, app', htap, htriage, hlive, hids, hmove, hanswer, rfl⟩ := h
  rw [callbackHandler, htap]
  dsimp only
  rw [act_triage htriage hlive, pendingUndo_performTriageAction hids hmove, if_pos hanswer,
    Map.getElem?_insert, if_pos rfl]

/-- It is taken through the client that its account id leads to. -/
theorem TakesSnapshot.namedClient? (h : app.TakesSnapshot env chatId data client p) :
    app.namedClient? chatId p.accountId = some client := by
  obtain ⟨action, triage, m, app', -, -, hlive, -⟩ := h
  exact namedClient?_of_live hlive

/-- A tap that takes a snapshot acts on an email, and keeps where account ids lead. -/
theorem TakesSnapshot.not_touches (h : app.TakesSnapshot env chatId data client p) :
    ¬(Tap.ofData data).Touches app chatId id := by
  obtain ⟨action, triage, m, app', htap, -⟩ := h
  rw [htap]
  exact not_false

/-- What is put back goes through the client that the account id of the pending undo leads to. -/
theorem RestoreCall.pending {ids : List String}
    (h : app.RestoreCall env chatId data client emailId ids) :
    ∃ p, app.pendingUndo[chatId]? = some p ∧ p.emailId = emailId ∧ p.restoreMailboxIds = ids ∧
      Tap.ofData data = .act "u" p.accountId p.emailId ∧ env.now < p.expiresAt ∧
      app.CanTap chatId env.reaches p.accountId ∧
      app.namedClient? chatId p.accountId = some client := by
  obtain ⟨accountId, m, app', p, htap, hlive, hp, hexpired, rfl, rfl, rfl⟩ := h
  rw [PendingUndo.isExpired, decide_eq_false_iff_not, not_le] at hexpired
  have hfinds := exists_callbackClient_iff.mp ⟨app', hlive⟩
  exact ⟨p, hp, rfl, rfl, htap, hexpired, ⟨m, client, hfinds⟩, namedClient?_of_live hlive⟩

/-- A tap on the button of a pending undo that is in time and finds a client has the email put
back. -/
theorem exists_restoreCall (hp : app.pendingUndo[chatId]? = some p)
    (htap : Tap.ofData data = .act "u" p.accountId p.emailId) (htime : env.now < p.expiresAt)
    (hclient : app.CanTap chatId env.reaches p.accountId) :
    ∃ client, app.namedClient? chatId p.accountId = some client ∧
      app.RestoreCall env chatId data client p.emailId p.restoreMailboxIds := by
  obtain ⟨m, client, hfinds⟩ := hclient
  obtain ⟨app', hlive⟩ := exists_callbackClient_iff.mpr hfinds
  have hexpired : p.isExpired env.now = false := by
    rw [PendingUndo.isExpired, decide_eq_false_iff_not, not_le]
    exact htime
  exact ⟨client, namedClient?_of_live hlive, p.accountId, m, app', p, htap, hlive, hp, hexpired,
    rfl, rfl, rfl⟩

end

end AppState

/-! ### Runs -/

/-- What a chat sends: a command, or a tap on a button. -/
inductive ChatInput where
  | message (threadId : Option ThreadId) (lang : Locale) (answers : HandlerAnswers)
      (command : BotCommand)
  | tap (env : TapEnv) (answers : HandlerAnswers) (data : String)

namespace ChatInput

variable (config : Config) (lib : Externals) (chatId : ChatId) (app : AppState)

/-- The state after an input is handled. -/
def after : ChatInput → AppState
  | message threadId lang answers command =>
    app.messageHandler config lib chatId threadId lang answers command
  | tap env answers data => app.callbackHandler config lib chatId env answers data

/-- One input after another. -/
def step (input : ChatInput) : Option AppState := some (input.after config lib chatId app)

/-- An input connects or disconnects what the client of an account id hangs on. -/
def Touches (id : Option String) : ChatInput → Prop
  | message _ _ answers command => command.Touches app chatId answers id
  | tap _ _ data => (Tap.ofData data).Touches app chatId id

variable {config lib chatId app} {input : ChatInput} {p : PendingUndo} {id : Option String}

/-- Every other input keeps where the id leads. -/
theorem namedClient?_after (h : ¬input.Touches chatId app id) :
    (input.after config lib chatId app).namedClient? chatId id = app.namedClient? chatId id := by
  cases input with
  | message threadId lang answers command =>
    exact AppState.namedClient?_messageHandler h threadId lang
  | tap env answers data => exact AppState.namedClient?_callbackHandler h answers

/-- A pending undo was pending before an input, or the input left it. -/
theorem pending_after (hp : (input.after config lib chatId app).pendingUndo[chatId]? = some p) :
    app.pendingUndo[chatId]? = some p ∨ ∃ env answers data client,
      input = .tap env answers data ∧ app.TakesSnapshot env chatId data client p := by
  have hdrops : ∀ {app'}, app.DropsUndoAtMost chatId app' →
      app'.pendingUndo[chatId]? = some p → app.pendingUndo[chatId]? = some p := by
    rintro app' (hsame | herase) hp
    · rwa [hsame] at hp
    · rw [herase, Map.getElem?_erase, if_pos rfl] at hp
      cases hp
  cases input with
  | message threadId lang answers command =>
    exact .inl (hdrops (AppState.dropsUndoAtMost_messageHandler threadId lang answers command) hp)
  | tap env answers data =>
    by_cases hact : ∃ action accountId emailId, Tap.ofData data = .act action accountId emailId
    · obtain ⟨action, accountId, emailId, htap⟩ := hact
      rw [after, AppState.callbackHandler, htap] at hp
      obtain hbefore | ⟨client, hsnapshot⟩ := AppState.pending_act htap hp
      · exact .inl hbefore
      · exact .inr ⟨env, answers, data, client, rfl, hsnapshot⟩
    · refine .inl (hdrops (AppState.dropsUndoAtMost_callbackHandler ?_) hp)
      intro action accountId emailId htap
      exact hact ⟨action, accountId, emailId, htap⟩

end ChatInput

/-- A run of a chat's inputs. -/
abbrev InputRun (config : Config) (lib : Externals) (chatId : ChatId) (start : AppState) :=
  Execution (fun app input => ChatInput.step config lib chatId app input) start

section

variable {config : Config} {lib : Externals} {chatId : ChatId} {start : AppState}
  (x : InputRun config lib chatId start)

/-- Input `i` is a triage through a client, at a time, and leaves a pending undo. -/
def SnapshotAt (i : ℕ) (client : Client) (time : ℕ) (p : PendingUndo) : Prop :=
  ∃ env answers data, x.events[i]? = some (.tap env answers data) ∧ env.now = time ∧
    (x.state i).TakesSnapshot env chatId data client p

/-- The undo that is pending when input `j` comes was left by the triage that is input `i`, and no
later one left another. -/
structure LeftBy (i j : ℕ) (client : Client) (time : ℕ) (p : PendingUndo) : Prop where
  lt : i < j
  taken : SnapshotAt x i client time p
  pending : ∀ k, i < k → k ≤ j → (x.state k).pendingUndo[chatId]? = some p
  last : ∀ k, i < k → k < j → ∀ client' time' p', ¬SnapshotAt x k client' time' p'

variable {α : Type*} (accountOf : Client → α)

/-- Every email that is put back goes, through a client of the same account, into the mailboxes that
the triage which left the undo found it in, less than the window after that triage. -/
def GoesBack : Prop :=
  ∀ j env answers data client emailId ids, x.events[j]? = some (.tap env answers data) →
    (x.state j).RestoreCall env chatId data client emailId ids →
    ∃ i client' time p, LeftBy x i j client' time p ∧ accountOf client' = accountOf client ∧
      p.emailId = emailId ∧ p.restoreMailboxIds = ids ∧ env.now < time + undoWindow

/-- When an input between a triage and a tap on its undo button, that is in time and finds a client,
connects or disconnects what the account id of the button hangs on, then the id leads to the same
account before the tap as before the triage. -/
def KeepsAccounts : Prop :=
  ∀ i j client time p, LeftBy x i j client time p →
    ∀ env answers data, x.events[j]? = some (.tap env answers data) →
      Tap.ofData data = .act "u" p.accountId p.emailId → env.now < p.expiresAt →
      (x.state j).CanTap chatId env.reaches p.accountId →
      (∃ k input, i < k ∧ k < j ∧ x.events[k]? = some input ∧
        input.Touches chatId (x.state k) p.accountId) →
      ((x.state j).namedClient? chatId p.accountId).map accountOf =
        ((x.state i).namedClient? chatId p.accountId).map accountOf

variable {x accountOf} {i j k : ℕ} {client : Client} {time : ℕ} {p : PendingUndo}

theorem after_eq_state (hk : k < x.events.length) :
    x.events[k].after config lib chatId (x.state k) = x.state (k + 1) :=
  Option.some.inj (x.state_succ hk)

/-- The input that takes a snapshot takes one only, through one client. -/
theorem SnapshotAt.unique {client' : Client} {time' : ℕ} {p' : PendingUndo}
    (h : SnapshotAt x i client time p) (h' : SnapshotAt x i client' time' p') :
    client = client' ∧ time = time' := by
  obtain ⟨env, answers, data, hevent, rfl, action, triage, m, app, htap, -, hlive, -⟩ := h
  obtain ⟨env', answers', data', hevent', rfl, action', triage', m', app', htap', -, hlive', -⟩ :=
    h'
  obtain ⟨rfl, -, rfl⟩ := ChatInput.tap.inj (Option.some.inj (hevent.symm.trans hevent'))
  obtain ⟨-, haccount, -⟩ := Tap.act.inj (htap.symm.trans htap')
  rw [haccount, hlive'] at hlive
  obtain ⟨-, hclient, -⟩ := Resolution.live.inj hlive
  exact ⟨hclient.symm, rfl⟩

/-- One triage left the undo that is pending. -/
theorem LeftBy.unique {i' : ℕ} {client' : Client} {time' : ℕ} {p' : PendingUndo}
    (h : LeftBy x i j client time p) (h' : LeftBy x i' j client' time' p') :
    client = client' ∧ time = time' := by
  obtain hlt | rfl | hlt := Nat.lt_trichotomy i i'
  · exact absurd h'.taken (h.last i' hlt h'.lt client' time' p')
  · exact h.taken.unique h'.taken
  · exact absurd h.taken (h'.last i hlt h.lt client time p)

/-- A snapshot is pending after the input that takes it. -/
theorem SnapshotAt.pending (h : SnapshotAt x k client time p) :
    (x.state (k + 1)).pendingUndo[chatId]? = some p := by
  obtain ⟨env, answers, data, hevent, -, hsnapshot⟩ := h
  obtain ⟨hk, hevent⟩ := List.getElem?_eq_some_iff.mp hevent
  rw [← after_eq_state hk, hevent]
  exact hsnapshot.pending

/-- **A pending undo was left by a triage** of the run, when none is pending at its start. -/
theorem exists_leftBy (hstart : start.pendingUndo[chatId]? = none) (hk : k ≤ x.events.length)
    (hp : (x.state k).pendingUndo[chatId]? = some p) :
    ∃ i client time, LeftBy x i k client time p := by
  induction k with
  | zero =>
    rw [x.state_zero, hstart] at hp
    cases hp
  | succ k ih =>
    by_cases htaken : ∃ client time p', SnapshotAt x k client time p'
    · -- the last input left it
      obtain ⟨client, time, p', htaken⟩ := htaken
      obtain rfl : p' = p := Option.some.inj (htaken.pending.symm.trans hp)
      refine ⟨k, client, time, k.lt_succ_self, htaken, fun k' hlt hle => ?_, fun k' hlt hlt' => ?_⟩
      · obtain rfl : k' = k + 1 := Nat.le_antisymm hle hlt
        exact hp
      · exact absurd hlt (Nat.not_lt.mpr (Nat.le_of_lt_succ hlt'))
    · -- it was pending already
      have hbefore : (x.state k).pendingUndo[chatId]? = some p := by
        have hafter := hp
        rw [← after_eq_state hk] at hafter
        obtain hbefore | ⟨env, answers, data, client, hevent, hsnapshot⟩ :=
          ChatInput.pending_after hafter
        · exact hbefore
        · refine absurd ⟨client, env.now, p, env, answers, data, ?_, rfl, hsnapshot⟩ htaken
          rw [List.getElem?_eq_getElem hk, hevent]
      obtain ⟨i, client, time, hleft⟩ := ih (Nat.le_of_succ_le hk) hbefore
      refine ⟨i, client, time, Nat.lt_succ_of_lt hleft.lt, hleft.taken, fun k' hlt hle => ?_,
        fun k' hlt hlt' client' time' p' htaken' => ?_⟩
      · obtain rfl | hlt' := Nat.eq_or_lt_of_le hle
        · exact hp
        · exact hleft.pending k' hlt (Nat.le_of_lt_succ hlt')
      · obtain rfl | hlt' := Nat.eq_or_lt_of_le (Nat.le_of_lt_succ hlt')
        · exact htaken ⟨client', time', p', htaken'⟩
        · exact hleft.last k' hlt hlt' client' time' p' htaken'

/-- Inputs about other mailboxes keep where an account id leads. -/
theorem namedClient?_between {id : Option String} (hij : i ≤ j) (hj : j ≤ x.events.length)
    (hothers : ∀ k input, i ≤ k → k < j → x.events[k]? = some input →
      ¬input.Touches chatId (x.state k) id) :
    (x.state j).namedClient? chatId id = (x.state i).namedClient? chatId id := by
  induction j, hij using Nat.le_induction with
  | base => rfl
  | succ j hij ih =>
    have hbefore := ih (Nat.le_of_succ_le hj) fun k input hik hkj =>
      hothers k input hik (Nat.lt_succ_of_lt hkj)
    have hother : ¬x.events[j].Touches chatId (x.state j) id :=
      hothers j x.events[j] hij j.lt_succ_self (List.getElem?_eq_getElem hj)
    rw [← after_eq_state hj]
    exact (ChatInput.namedClient?_after hother).trans hbefore

/-- Without an input about what it hangs on, the account id still leads to the client of the
triage. -/
theorem LeftBy.namedClient? (h : LeftBy x i j client time p) (hj : j ≤ x.events.length)
    (hothers : ¬∃ k input, i < k ∧ k < j ∧ x.events[k]? = some input ∧
      input.Touches chatId (x.state k) p.accountId) :
    (x.state j).namedClient? chatId p.accountId = some client := by
  obtain ⟨env, answers, data, hevent, -, hsnapshot⟩ := h.taken
  rw [← hsnapshot.namedClient?]
  refine namedClient?_between h.lt.le hj fun k input hik hkj hinput htouches => ?_
  obtain rfl | hlt := Nat.eq_or_lt_of_le hik
  · rw [hevent] at hinput
    cases hinput
    exact hsnapshot.not_touches htouches
  · exact hothers ⟨k, input, hlt, hkj, hinput, htouches⟩

variable (accountOf) in
/-- **An undo goes back to where its triage was** exactly when what comes and goes in between leaves
its account id with a client of the same account. -/
theorem goesBack_iff (hstart : start.pendingUndo[chatId]? = none) :
    GoesBack x accountOf ↔ KeepsAccounts x accountOf := by
  constructor
  · intro h i j client time p hleft env answers data hevent htap htime hclient _
    obtain ⟨client', hnamed, hcall⟩ :=
      AppState.exists_restoreCall (hleft.pending j hleft.lt le_rfl) htap htime hclient
    obtain ⟨i', client'', time', p', hleft', haccount, -⟩ := h j env answers data _ _ _ hevent hcall
    obtain ⟨env', answers', data', -, -, hsnapshot⟩ := hleft.taken
    rw [hnamed, hsnapshot.namedClient?, Option.map_some, Option.map_some, ← haccount,
      (hleft.unique hleft').1]
  · intro h j env answers data client emailId ids hevent hcall
    obtain ⟨p, hp, rfl, rfl, htap, htime, hclient, hnamed⟩ := hcall.pending
    have hj : j ≤ x.events.length := (List.getElem?_eq_some_iff.mp hevent).1.le
    obtain ⟨i, client', time, hleft⟩ := exists_leftBy hstart hj hp
    refine ⟨i, client', time, p, hleft, ?_, rfl, rfl, ?_⟩
    · by_cases htouched : ∃ k input, i < k ∧ k < j ∧ x.events[k]? = some input ∧
          input.Touches chatId (x.state k) p.accountId
      · have haccount := h i j client' time p hleft env answers data hevent htap htime hclient
          htouched
        obtain ⟨env', answers', data', -, -, hsnapshot⟩ := hleft.taken
        rw [hnamed, hsnapshot.namedClient?, Option.map_some, Option.map_some] at haccount
        exact (Option.some.inj haccount).symm
      · -- the inputs were about other mailboxes, and the id leads to the same client
        have hsame := hleft.namedClient? hj htouched
        rw [hnamed] at hsame
        rw [Option.some.inj hsame]
    · obtain ⟨env', answers', data', -, rfl, hsnapshot⟩ := hleft.taken
      obtain ⟨-, -, -, -, -, -, -, -, -, -, hexpires⟩ := hsnapshot
      rwa [hexpires] at htime

end

/-! ### A slot that comes first -/

/-- A second mailbox is connected, under an id that comes before `"default"`. -/
private def secondMailbox : HandlerAnswers where
  connection := ⟨"second@example.org", "", "s2", ⟨"aaaa1111", by decide, by decide⟩, none⟩
  sync := ⟨fun _ => none, []⟩
  search := ⟨fun _ => none, fun _ => .ok []⟩

/-- An email of the first mailbox is archived; a second one is connected; then the undo button is
tapped. -/
def secondMailboxRun : InputRun ⟨.auto, .parent⟩ .concrete 1 (.new oneSlotData) where
  events := [.tap promptEnv secondMailbox "a:M1",
    .message none .en secondMailbox (.accounts "https://jmap.example token"),
    .tap promptEnv secondMailbox "u:M1"]
  enabled := rfl

/-- The email is looked for in the account of the second token. -/
theorem not_goesBack_secondMailboxRun : ¬GoesBack secondMailboxRun Client.token := by
  intro h
  have hcall : (secondMailboxRun.state 2).RestoreCall promptEnv 1 "u:M1"
      ⟨"https://jmap.example", "token", none⟩ "M1" ["inbox"] :=
    ⟨none, .account "aaaa1111", secondMailboxRun.state 2, ⟨none, "M1", ["inbox"], undoWindow⟩,
      by decide, rfl, rfl, by decide, rfl, rfl, rfl⟩
  obtain ⟨i, client, time, p, hleft, htoken, -⟩ :=
    h 2 promptEnv secondMailbox "u:M1" _ "M1" ["inbox"] rfl hcall
  obtain ⟨env, answers, data, hevent, -, hsnapshot⟩ := hleft.taken
  obtain rfl | rfl : i = 0 ∨ i = 1 := by
    have hlt := hleft.lt
    omega
  · -- the triage was through the slot that was the first one then
    obtain ⟨rfl, -, rfl⟩ := ChatInput.tap.inj (Option.some.inj hevent)
    have hnamed := hsnapshot.namedClient?
    obtain ⟨action, triage, m, app', htap, -⟩ := hsnapshot
    have hread : Tap.ofData "a:M1" = .act "a" none "M1" := by decide
    obtain ⟨-, haccount, -⟩ := Tap.act.inj (hread.symm.trans htap)
    rw [← haccount] at hnamed
    have hfirst : (secondMailboxRun.state 0).namedClient? 1 none =
        some ⟨sampleSlot.serverUrl, sampleSlot.token, none⟩ := by decide
    rw [hfirst] at hnamed
    obtain rfl := Option.some.inj hnamed
    exact absurd htoken (by decide)
  · cases hevent

/-- The second mailbox is disconnected again before the undo button is tapped. -/
def disconnectedAgainRun : InputRun ⟨.auto, .parent⟩ .concrete 1 (.new oneSlotData) where
  events := [.tap promptEnv secondMailbox "a:M1",
    .message none .en secondMailbox (.accounts "https://jmap.example token"),
    .tap promptEnv secondMailbox "x:aaaa1111",
    .tap promptEnv secondMailbox "u:M1"]
  enabled := rfl

/-- The email goes back. -/
theorem goesBack_disconnectedAgainRun : GoesBack disconnectedAgainRun Client.token := by
  refine (goesBack_iff Client.token rfl).mpr
    fun i j client time p hleft env answers data hevent htap _ _ _ => ?_
  have hlt := hleft.lt
  obtain ⟨hj, -⟩ := List.getElem?_eq_some_iff.mp hevent
  have hlength : disconnectedAgainRun.events.length = 4 := rfl
  obtain rfl | rfl | rfl : j = 1 ∨ j = 2 ∨ j = 3 := by omega
  · cases hevent
  · obtain ⟨-, -, rfl⟩ := ChatInput.tap.inj (Option.some.inj hevent)
    have hread : Tap.ofData "x:aaaa1111" = .disconnect "aaaa1111" := by decide
    cases hread.symm.trans htap
  · obtain ⟨-, -, rfl⟩ := ChatInput.tap.inj (Option.some.inj hevent)
    have hread : Tap.ofData "u:M1" = .act "u" none "M1" := by decide
    obtain ⟨-, haccount, -⟩ := Tap.act.inj (hread.symm.trans htap)
    rw [← haccount]
    obtain rfl | rfl | rfl : i = 0 ∨ i = 1 ∨ i = 2 := by omega
    · decide
    · obtain ⟨_, _, _, hevent, -⟩ := hleft.taken
      cases hevent
    · -- disconnecting takes no snapshot
      obtain ⟨_, _, _, hevent, -, hsnapshot⟩ := hleft.taken
      obtain ⟨-, -, rfl⟩ := ChatInput.tap.inj (Option.some.inj hevent)
      have hread : Tap.ofData "x:aaaa1111" = .disconnect "aaaa1111" := by decide
      obtain ⟨action, triage, m, app', htap, -⟩ := hsnapshot
      cases hread.symm.trans htap

end Jmap2Telegram
