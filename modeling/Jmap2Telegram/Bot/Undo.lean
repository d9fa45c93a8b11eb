import Jmap2Telegram.Bot.Commands
import Jmap2Telegram.Bot.Triage
import Jmap2Telegram.Transition.Execution

/-!
# How long an undo is pending

Runs of taps in one chat, with every answer to a tap accepted by Telegram and the mail server free
to fail. A triage that succeeds leaves an undo pending; it should stay until it is used, replaced,
expired, or the chat logs out. The undo button takes the pending undo out before it looks whether it
is the tapped email's and before it asks the server, so a tap that comes to nothing loses it.

* `actEffect`: all that a tap can do to the pending undo.
* `exists_triage_of_pending`: a pending undo was left by a triage, and nothing has ended it since.
* `staysPending_iff`: in a run, every undo stays pending until it ends if and only if every tap on
  an undo button that meets a pending undo restores it.
-/

namespace Jmap2Telegram

open Transition

/-! ### The runs -/

/-- What happens in the chat: a tap that acts on an email, or a logout. -/
inductive ChatEvent where
  | tap (env : TapEnv) (action : String) (accountId : Option String) (emailId : String)
  | logout (now : ℕ)

/-- The time of an event. -/
def ChatEvent.now : ChatEvent → ℕ
  | tap env _ _ _ => env.now
  | logout now => now

/-- The state of the bot, and the time. -/
structure ChatState where
  app : AppState
  now : ℕ

namespace ChatState

variable (lib : Externals) (chatId : ChatId)

/-- The state after an event. -/
def after (s : ChatState) : ChatEvent → AppState
  | .tap env action accountId emailId => (s.app.act env chatId accountId emailId action).app
  | .logout _ => s.app.logoutAll lib chatId

/-- One event after another, in the order of time; every answer to a tap is accepted. -/
def step (s : ChatState) (e : ChatEvent) : Option ChatState :=
  match e with
  | .tap env _ _ _ =>
    if s.now ≤ env.now ∧ env.calls.answer = true then some ⟨s.after lib chatId e, env.now⟩ else none
  | .logout now => if s.now ≤ now then some ⟨s.after lib chatId e, now⟩ else none

/-- What the handler of an event counts. -/
def metric (s : ChatState) : ChatEvent → Option Metric
  | .tap env action accountId emailId => (s.app.act env chatId accountId emailId action).metric
  | .logout _ => none

/-- The pending undo of the chat. -/
def pending? (s : ChatState) : Option PendingUndo := s.app.pendingUndo[chatId]?

end ChatState

/-- A run of events in a chat. -/
abbrev ChatRun (lib : Externals) (chatId : ChatId) (start : ChatState) :=
  Execution (ChatState.step lib chatId) start

/-- The event is a tap on a button for the email of the account. -/
def ChatEvent.IsFor (accountId : Option String) (emailId : String) : ChatEvent → Prop
  | tap _ _ account email => account = accountId ∧ email = emailId
  | logout _ => False

namespace ChatState

variable (chatId : ChatId) (s : ChatState) (e : ChatEvent)

/-- The event triages the email of the account. -/
def Triages (accountId : Option String) (emailId : String) : Prop :=
  e.IsFor accountId emailId ∧ s.metric chatId e = some (.triage true)

/-- The event ends the undo of the email: it undoes it, it triages another email or the same again,
or it logs the chat out. -/
def Ends (accountId : Option String) (emailId : String) : Prop :=
  (e.IsFor accountId emailId ∧ s.metric chatId e = some .undoRestored) ∨
    s.metric chatId e = some (.triage true) ∨ ∃ now, e = .logout now

/-- A tap on an undo button, whose account has a client, that meets a pending undo that has not
expired is for the same email, and the server puts the email back. -/
def RestoresPending : Prop :=
  match e with
  | .tap env action accountId emailId =>
    action = "u" → ∀ m client app p,
      s.app.callbackClient env.reaches chatId accountId = .live m client app →
      s.pending? chatId = some p → p.isExpired env.now = false →
        p.accountId = accountId ∧ p.emailId = emailId ∧
          (env.mail.setMailboxes env.calls emailId p.restoreMailboxIds).2 = true
  | .logout _ => True

end ChatState

section

variable {lib : Externals} {chatId : ChatId} {start : ChatState} (x : ChatRun lib chatId start)

/-- From the triage of an email on, until an event ends its undo or its window is over, the undo of
the email is pending, and expires when its window is over. -/
def StaysPending : Prop :=
  ∀ (accountId : Option String) (emailId : String) (i j : ℕ) (hi : i < x.events.length),
    (x.state i).Triages chatId x.events[i] accountId emailId → i < j → j ≤ x.events.length →
    (∀ k (hk : k < x.events.length), i < k → k < j →
      ¬(x.state k).Ends chatId x.events[k] accountId emailId) →
    (x.state j).now < x.events[i].now + undoWindow →
    ∃ p, (x.state j).pending? chatId = some p ∧ p.accountId = accountId ∧ p.emailId = emailId ∧
      p.expiresAt = x.events[i].now + undoWindow

end

/-! ### What a tap does to the pending undo -/

/-- All that a tap can do to the pending undo of its chat: leave it, replace it by that of its own
email, or take it out, to restore it or not. -/
inductive ActEffect (env : TapEnv) (action : String) (accountId : Option String) (emailId : String)
    (live : Prop) (pending : Option PendingUndo) : Option Metric → Option PendingUndo → Prop where
  | kept (metric : Option Metric) (htriage : metric ≠ some (.triage true))
    (hundo : metric ≠ some .undoRestored) (hlive : ¬(action = "u" ∧ live)) :
    ActEffect env action accountId emailId live pending metric pending
  | triaged (ids : List String) (hundo : action ≠ "u") :
    ActEffect env action accountId emailId live pending (some (.triage true))
      (some ⟨accountId, emailId, ids, env.now + undoWindow⟩)
  | restored (p : PendingUndo) (hp : pending = some p) (hexpired : p.isExpired env.now = false)
    (haccount : p.accountId = accountId) (hemail : p.emailId = emailId)
    (hset : (env.mail.setMailboxes env.calls emailId p.restoreMailboxIds).2 = true) :
    ActEffect env action accountId emailId live pending (some .undoRestored) none
  | lost (metric : Option Metric) (hmetric : metric = some .undoError ∨ metric = some .undoExpired)
    (hp : ∀ p, pending = some p → p.isExpired env.now = false →
      ¬(p.accountId = accountId ∧ p.emailId = emailId ∧
        (env.mail.setMailboxes env.calls emailId p.restoreMailboxIds).2 = true))
    (hundo : action = "u") (hlive : live) :
    ActEffect env action accountId emailId live pending metric none

section

variable {env : TapEnv} {app : AppState} {chatId : ChatId} {accountId : Option String}
  {emailId action : String}

/-- Looking a client up leaves the pending undos. -/
theorem pendingUndo_callbackClient {reaches : Client → Bool} {m : Mailbox} {client : Client}
    {app' : AppState} (h : app.callbackClient reaches chatId accountId = .live m client app') :
    app'.pendingUndo = app.pendingUndo := by
  obtain rfl | rfl := AppState.cachesAtMost_callbackClient h
  · rfl
  · cases m <;> rfl

/-- A triage moves the email and leaves its undo pending, or it leaves everything alone. -/
theorem performTriageAction_cases (app : AppState) (hanswer : env.calls.answer = true)
    (triage : TriageAction) :
    ((app.performTriageAction env chatId accountId emailId triage).metric ≠ some (.triage true) ∧
      (app.performTriageAction env chatId accountId emailId triage).metric ≠ some .undoRestored ∧
      (app.performTriageAction env chatId accountId emailId triage).app.pendingUndo =
        app.pendingUndo) ∨
    ∃ ids, (app.performTriageAction env chatId accountId emailId triage).metric =
        some (.triage true) ∧
      (app.performTriageAction env chatId accountId emailId triage).app.pendingUndo =
        app.pendingUndo.insert chatId ⟨accountId, emailId, ids, env.now + undoWindow⟩ := by
  have heffect := triageEffect env app chatId accountId emailId triage
  generalize app.performTriageAction env chatId accountId emailId triage = handled at heffect ⊢
  cases heffect with
  | unread | unmoved => exact .inl ⟨by simp, by simp, rfl⟩
  | unanswered _ _ hrefused =>
    rw [hanswer] at hrefused
    cases hrefused
  | undoable ids => exact .inr ⟨ids, rfl, rfl⟩

/-- **All that a tap can do to the pending undo.** -/
theorem actEffect (hanswer : env.calls.answer = true) :
    ActEffect env action accountId emailId
      (∃ m client app', app.callbackClient env.reaches chatId accountId = .live m client app')
      app.pendingUndo[chatId]? (app.act env chatId accountId emailId action).metric
      (app.act env chatId accountId emailId action).app.pendingUndo[chatId]? := by
  rw [AppState.act]
  rcases hclient : app.callbackClient env.reaches chatId accountId with - | - | ⟨m, client, app'⟩
  · exact .kept none (by simp) (by simp) (by simp)
  · exact .kept none (by simp) (by simp) (by simp)
  · dsimp only
    rw [← pendingUndo_callbackClient hclient]
    -- the three triage actions differ in the mailbox they move the email to
    have htriage : ∀ triage, action ≠ "u" → ActEffect env action accountId emailId
        (∃ m' client' app'', Resolution.live m client app' = .live m' client' app'')
        app'.pendingUndo[chatId]?
        (app'.performTriageAction env chatId accountId emailId triage).metric
        (app'.performTriageAction env chatId accountId emailId
          triage).app.pendingUndo[chatId]? := by
      intro triage hne
      obtain ⟨hmetric, hmetric', hsame⟩ | ⟨ids, hmetric, hpending⟩ :=
        performTriageAction_cases app' hanswer triage
      · rw [hsame]
        exact .kept _ hmetric hmetric' fun h => hne h.1
      · rw [hmetric, hpending, Map.getElem?_insert, if_pos rfl]
        exact .triaged ids hne
    split_ifs with ha hj hd hu
    · exact htriage .archive (by rw [ha]; decide)
    · exact htriage .junk (by rw [hj]; decide)
    · exact htriage .delete (by rw [hd]; decide)
    -- the handler takes the pending undo before it looks at it, so it is gone in every case
    · rw [app_undo, Map.getElem?_erase, if_pos rfl]
      rw [AppState.undo]
      rcases hp : app'.pendingUndo[chatId]? with - | p
      · -- there was none
        exact .lost _ (.inr rfl) (fun p hp => by cases hp) hu ⟨m, client, app', rfl⟩
      · dsimp only
        split
        case isTrue hmatch =>
          obtain ⟨hexpired, haccount, hemail⟩ := hmatch
          rcases hset : env.mail.setMailboxes env.calls emailId p.restoreMailboxIds with
            ⟨mail, done⟩
          cases done with
          | true => exact .restored p rfl hexpired haccount hemail (by rw [hset])
          | false =>
            -- the server did not put the email back
            refine .lost _ (.inl rfl) ?_ hu ⟨m, client, app', rfl⟩
            rintro p' hp' - ⟨-, -, hdone⟩
            cases hp'
            rw [hset] at hdone
            cases hdone
        case isFalse hmatch =>
          -- it has expired, or is for another email
          refine .lost _ (.inr rfl) ?_ hu ⟨m, client, app', rfl⟩
          rintro p' hp' hexpired ⟨haccount, hemail, -⟩
          cases hp'
          exact hmatch ⟨hexpired, haccount, hemail⟩
    · exact .kept none (by simp) (by simp) fun h => hu h.1

end

/-! ### One event -/

section

variable {lib : Externals} {chatId : ChatId} {s s' : ChatState} {e : ChatEvent}

theorem ChatState.step_eq_some (h : s.step lib chatId e = some s') :
    s' = ⟨s.after lib chatId e, e.now⟩ ∧ s.now ≤ e.now ∧
      ∀ env action accountId emailId, e = .tap env action accountId emailId →
        env.calls.answer = true := by
  cases e with
  | tap env action accountId emailId =>
    rw [ChatState.step] at h
    split at h
    case isTrue henabled =>
      cases h
      refine ⟨rfl, henabled.1, fun _ _ _ _ heq => ?_⟩
      cases heq
      exact henabled.2
    case isFalse => cases h
  | logout now =>
    rw [ChatState.step] at h
    split at h
    case isTrue henabled =>
      cases h
      exact ⟨rfl, henabled, fun _ _ _ _ heq => by cases heq⟩
    case isFalse => cases h

/-- What a tap of a run does to the pending undo. -/
theorem ChatState.tapEffect {env : TapEnv} {action : String} {accountId : Option String}
    {emailId : String} (h : s.step lib chatId (.tap env action accountId emailId) = some s') :
    ActEffect env action accountId emailId
      (∃ m client app', s.app.callbackClient env.reaches chatId accountId = .live m client app')
      (s.pending? chatId) (s.metric chatId (.tap env action accountId emailId))
      (s'.pending? chatId) := by
  obtain ⟨rfl, -, hanswer⟩ := ChatState.step_eq_some h
  exact actEffect (hanswer _ _ _ _ rfl)

/-- A logout leaves no undo. -/
theorem ChatState.pending?_logout {now : ℕ} (h : s.step lib chatId (.logout now) = some s') :
    s'.pending? chatId = none := by
  obtain ⟨rfl, -, -⟩ := ChatState.step_eq_some h
  have herase : (s.app.logoutAll lib chatId).pendingUndo = s.app.pendingUndo.erase chatId := rfl
  rw [ChatState.pending?, ChatState.after, herase, Map.getElem?_erase, if_pos rfl]

/-- A triage that succeeds leaves its undo pending for the whole window. -/
theorem ChatState.pending?_triages (h : s.step lib chatId e = some s')
    {accountId : Option String} {emailId : String}
    (htriage : s.Triages chatId e accountId emailId) :
    ∃ p, s'.pending? chatId = some p ∧ p.accountId = accountId ∧ p.emailId = emailId ∧
      p.expiresAt = e.now + undoWindow := by
  obtain ⟨hfor, hmetric⟩ := htriage
  cases e with
  | logout now => exact hfor.elim
  | tap env action account email =>
    obtain ⟨rfl, rfl⟩ := hfor
    have heffect := ChatState.tapEffect h
    rw [hmetric] at heffect
    generalize s'.pending? chatId = pending at heffect
    cases heffect with
    | kept _ hne => exact absurd rfl hne
    | triaged ids => exact ⟨_, rfl, rfl, rfl, rfl⟩
    | lost _ hlost => obtain hlost | hlost := hlost <;> cases hlost

/-- A pending undo survives an event that does not end it, if every pending undo that is asked for
is restored. -/
theorem ChatState.pending?_of_not_ends (h : s.step lib chatId e = some s')
    (hrestores : s.RestoresPending chatId e) {p : PendingUndo} (hp : s.pending? chatId = some p)
    (hexpired : p.isExpired e.now = false)
    (hends : ¬s.Ends chatId e p.accountId p.emailId) : s'.pending? chatId = some p := by
  cases e with
  | logout now => exact absurd (.inr (.inr ⟨now, rfl⟩)) hends
  | tap env action accountId emailId =>
    have heffect := ChatState.tapEffect h
    rw [hp] at heffect
    generalize hmetric : s.metric chatId (.tap env action accountId emailId) = metric at heffect
    generalize s'.pending? chatId = pending at heffect
    cases heffect with
    | kept => rfl
    | triaged => exact absurd (.inr (.inl hmetric)) hends
    | restored p' hp' _ haccount hemail =>
      cases hp'
      exact absurd (.inl ⟨⟨haccount.symm, hemail.symm⟩, hmetric⟩) hends
    | lost _ _ hlost hundo hlive =>
      obtain ⟨m, client, app', hlive⟩ := hlive
      exact absurd (hrestores hundo m client app' p hlive hp hexpired) (hlost p rfl hexpired)

end

/-! ### Runs -/

section

variable {lib : Externals} {chatId : ChatId} {start : ChatState} (x : ChatRun lib chatId start)

/-- Every tap on an undo button that meets a pending undo restores it. -/
def RestoresThroughout : Prop :=
  ∀ k (hk : k < x.events.length), (x.state k).RestoresPending chatId x.events[k]

/-- If every tap on an undo button that meets a pending undo restores it, then undos stay pending
until they end. -/
theorem staysPending_of_restores (h : RestoresThroughout x) : StaysPending x := by
  intro accountId emailId i j hi htriage hij hj hends hwindow
  -- along the run from the triage on
  induction j, hij using Nat.le_induction with
  | base => exact ChatState.pending?_triages (x.state_succ hi) htriage
  | succ j hij ih =>
    have hstep := x.state_succ (Nat.lt_of_succ_le hj)
    obtain ⟨hafter, hnow, -⟩ := ChatState.step_eq_some hstep
    rw [hafter] at hwindow
    obtain ⟨p, hp, rfl, rfl, hexpires⟩ := ih (Nat.le_of_succ_le hj)
      (fun k hk hik hkj => hends k hk hik (Nat.lt_succ_of_lt hkj))
      (Nat.lt_of_le_of_lt hnow hwindow)
    refine ⟨p, ?_, rfl, rfl, hexpires⟩
    refine ChatState.pending?_of_not_ends hstep (h j _) hp ?_
      (hends j (Nat.lt_of_succ_le hj) hij j.lt_succ_self)
    rw [PendingUndo.isExpired, decide_eq_false_iff_not, hexpires]
    exact Nat.not_le_of_lt hwindow

/-- A pending undo was left by a triage of its email, and nothing has ended it since. -/
theorem exists_triage_of_pending (hstart : start.pending? chatId = none) {k : ℕ}
    (hk : k ≤ x.events.length) {p : PendingUndo} (hp : (x.state k).pending? chatId = some p) :
    ∃ i, ∃ hi : i < x.events.length, i < k ∧
      (x.state i).Triages chatId x.events[i] p.accountId p.emailId ∧
      p.expiresAt = x.events[i].now + undoWindow ∧
      ∀ k' (hk' : k' < x.events.length), i < k' → k' < k →
        ¬(x.state k').Ends chatId x.events[k'] p.accountId p.emailId := by
  revert p
  refine x.induction (fun k s => ∀ {p : PendingUndo}, s.pending? chatId = some p →
    ∃ i, ∃ hi : i < x.events.length, i < k ∧
      (x.state i).Triages chatId x.events[i] p.accountId p.emailId ∧
      p.expiresAt = x.events[i].now + undoWindow ∧
      ∀ k' (hk' : k' < x.events.length), i < k' → k' < k →
        ¬(x.state k').Ends chatId x.events[k'] p.accountId p.emailId)
    (fun hp => by rw [hstart] at hp; cases hp) (fun k hk ih hstep p hp => ?_) hk
  rcases hevent : x.events[k] with ⟨env, action, accountId, emailId⟩ | now
  · rw [hevent] at hstep
    have heffect := ChatState.tapEffect hstep
    rw [hp] at heffect
    generalize hmetric : (x.state k).metric chatId (.tap env action accountId emailId) = metric
      at heffect
    generalize hpending : (x.state k).pending? chatId = pending at heffect
    cases heffect with
    | kept _ htriage hundo =>
      -- the undo was pending before
      obtain ⟨i, hi, hik, htriages, hexpires, hends⟩ := ih hpending
      refine ⟨i, hi, Nat.lt_succ_of_lt hik, htriages, hexpires, fun k' hk' hik' hk'k => ?_⟩
      obtain hlt | rfl := Nat.lt_succ_iff_lt_or_eq.mp hk'k
      · exact hends k' hk' hik' hlt
      · rw [hevent]
        rintro (⟨-, hrestored⟩ | htriaged | ⟨now, hlogout⟩)
        · exact hundo (hmetric.symm.trans hrestored)
        · exact htriage (hmetric.symm.trans htriaged)
        · cases hlogout
    -- this tap left it
    | triaged ids =>
      refine ⟨k, hk, k.lt_succ_self, ?_, ?_, fun k' _ hk' hk'' => ?_⟩
      · rw [hevent]
        exact ⟨⟨rfl, rfl⟩, hmetric⟩
      · rw [hevent]
        rfl
      · omega
  -- a logout leaves none
  · rw [hevent] at hstep
    rw [ChatState.pending?_logout hstep] at hp
    cases hp

/-- **An undo is not wasted** if and only if, in the run, every tap on an undo button that meets a
pending undo is for its email, and the server puts the email back. -/
theorem staysPending_iff (hstart : start.pending? chatId = none) :
    StaysPending x ↔ RestoresThroughout x := by
  refine ⟨fun h k hk => ?_, staysPending_of_restores x⟩
  have hstep := x.state_succ hk
  rcases hevent : x.events[k] with ⟨env, action, accountId, emailId⟩ | now
  case logout => trivial
  case tap =>
    intro haction m client app' p hlive hp hexpired
    have hstep' := hstep
    rw [hevent] at hstep'
    have heffect := ChatState.tapEffect hstep'
    rw [hp] at heffect
    generalize hmetric : (x.state k).metric chatId (.tap env action accountId emailId) = metric
      at heffect
    generalize hpending : (x.state (k + 1)).pending? chatId = pending at heffect
    cases heffect with
    | kept _ _ _ hkept => exact absurd ⟨haction, m, client, app', hlive⟩ hkept
    | triaged _ hne => exact absurd haction hne
    | restored p' hp' _ haccount hemail hset =>
      cases hp'
      exact ⟨haccount, hemail, hset⟩
    | lost _ hlost =>
      -- the undo that was lost had been left by a triage, and had not ended
      obtain ⟨i, hi, hik, htriages, hexpires, hends⟩ :=
        exists_triage_of_pending x hstart (Nat.le_of_lt hk) hp
      have hend : ¬(x.state k).Ends chatId x.events[k] p.accountId p.emailId := by
        rw [hevent]
        rintro (⟨-, hrestored⟩ | htriaged | ⟨now, hlogout⟩)
        · rw [hmetric.symm.trans hrestored] at hlost
          obtain hlost | hlost := hlost <;> cases hlost
        · rw [hmetric.symm.trans htriaged] at hlost
          obtain hlost | hlost := hlost <;> cases hlost
        · cases hlogout
      have hends' : ∀ k' (hk' : k' < x.events.length), i < k' → k' < k + 1 →
          ¬(x.state k').Ends chatId x.events[k'] p.accountId p.emailId := by
        intro k' hk' hik' hk'k
        obtain hlt | rfl := Nat.lt_succ_iff_lt_or_eq.mp hk'k
        · exact hends k' hk' hik' hlt
        · exact hend
      have hwindow : (x.state (k + 1)).now < x.events[i].now + undoWindow := by
        rw [(ChatState.step_eq_some hstep').1, ← hexpires]
        rw [PendingUndo.isExpired, decide_eq_false_iff_not] at hexpired
        exact Nat.lt_of_not_le hexpired
      obtain ⟨p', hp', -⟩ := h p.accountId p.emailId i (k + 1) hi htriages
        (Nat.lt_succ_of_lt hik) hk hends' hwindow
      rw [hpending] at hp'
      cases hp'

end

/-! ### A tap on an old button -/

section

/-- Everything can be reached, and the email is in the inbox. -/
def promptEnv : TapEnv := ⟨fun _ => true, inboxMail, ⟨true, true, true, true⟩, 0⟩

/-- An email is archived; then the undo button of another one, still on the screen, is tapped. -/
def oldButtonRun : ChatRun .concrete 1 ⟨.new oneSlotData, 0⟩ where
  events := [.tap promptEnv "a" none "M1", .tap promptEnv "u" none "M0"]
  enabled := by decide

/-- The undo of the email that was archived is gone. -/
theorem not_staysPending_oldButtonRun : ¬StaysPending oldButtonRun := by
  intro h
  have hends : ∀ k (hk : k < oldButtonRun.events.length), 0 < k → k < 2 →
      ¬(oldButtonRun.state k).Ends 1 oldButtonRun.events[k] none "M1" := by
    rintro k hk h0 h2
    obtain rfl : k = 1 := by omega
    rintro (⟨⟨-, hemail⟩, -⟩ | htriage | ⟨now, hlogout⟩)
    · exact absurd hemail (by decide)
    · have hexpired : (oldButtonRun.state 1).metric 1 (.tap promptEnv "u" none "M0") =
          some .undoExpired := by decide
      cases hexpired.symm.trans htriage
    · cases hlogout
  obtain ⟨p, hp, -⟩ := h none "M1" 0 2 (by decide) ⟨⟨rfl, rfl⟩, by decide⟩ (by decide)
    (le_refl 2) hends (by decide)
  have hnone : (oldButtonRun.state 2).pending? 1 = none := rfl
  rw [hnone] at hp
  cases hp

/-- The email is archived, and its own undo button is tapped. -/
def ownButtonRun : ChatRun .concrete 1 ⟨.new oneSlotData, 0⟩ where
  events := [.tap promptEnv "a" none "M1", .tap promptEnv "u" none "M1"]
  enabled := by decide

/-- The main result for that run. -/
theorem staysPending_iff_ownButtonRun :
    StaysPending ownButtonRun ↔ RestoresThroughout ownButtonRun :=
  staysPending_iff ownButtonRun rfl

end

end Jmap2Telegram
