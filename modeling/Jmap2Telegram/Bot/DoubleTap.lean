import Jmap2Telegram.Bot.UndoTarget

/-!
# Tapping twice

A triage button that is tapped several times before its handler has drawn the undo button: each tap
reads the mailboxes of the email anew, moves it, and puts its own snapshot into the one pending undo
of the chat. All calls to the mail server succeed here, and Telegram accepts the answers to some of
the taps.

* `TapReady.tapped`: what one tap does to the email and to the pending undo.
* `TapReady.foldl_tapped`: the undo that is pending after any number of further taps.
* `undone_iff`: when an undo after that puts the email back.
-/

namespace Jmap2Telegram

namespace AppState

variable {env : TapEnv} {app app' : AppState} {chatId : ChatId} {accountId : Option String}
  {emailId : String} {m : Mailbox} {client : Client} {reaches : Client → Bool}

/-! ### The client stays -/

/-- A client that is found is cached after that. -/
theorem client?_callbackClient
    (h : app.callbackClient reaches chatId accountId = .live m client app') :
    app'.client? chatId m = some client := by
  have haccount : ∀ {slotId}, app.clientForAccount reaches chatId slotId = .live m client app' →
      app'.client? chatId m = some client := by
    intro slotId h
    obtain ⟨rfl, ⟨hcached, rfl⟩ | ⟨slot, -, -, -, rfl⟩⟩ := clientForAccount_live h
    · exact hcached
    · rw [client?_insertClient, if_pos ⟨rfl, rfl⟩]
  cases accountId with
  | none =>
    simp only [callbackClient, clientFor] at h
    split at h
    · cases h
    · exact haccount h
  | some acc =>
    simp only [callbackClient] at h
    split at h
    case h_1 hshared =>
      cases h
      obtain ⟨rfl, ⟨hcached, rfl⟩ | ⟨slot, -, -, -, rfl⟩⟩ := clientForShared_live hshared
      · exact hcached
      · rw [client?_insertClient, if_pos ⟨rfl, rfl⟩]
    case h_2 => exact haccount h
    case h_3 => cases h

/-- A cached client is found. -/
theorem exists_live_of_client? (hnamed : app.namedMailbox? chatId accountId = some m)
    (hclient : app.client? chatId m = some client) :
    app.callbackClient reaches chatId accountId = .live m client app := by
  cases accountId with
  | none =>
    obtain ⟨slot, hslot, rfl⟩ := Option.map_eq_some_iff.mp hnamed
    simp only [callbackClient, clientFor, hslot, clientForAccount, hclient]
  | some acc =>
    have hm := Option.some.inj hnamed
    rcases hresolves : app.resolvesShared chatId acc with - | -
    · rw [hresolves, if_neg Bool.false_ne_true] at hm
      subst hm
      rw [resolvesShared, Bool.or_eq_false_iff, Option.isSome_eq_false_iff,
        Option.isSome_eq_false_iff, Option.isNone_iff_eq_none, Option.isNone_iff_eq_none]
        at hresolves
      have hmissing : app.clientForShared reaches chatId acc = .missing :=
        (clientForShared_eq_missing_iff reaches).mpr hresolves
      simp only [callbackClient, hmissing, clientForAccount, hclient]
    · rw [hresolves, if_pos rfl] at hm
      subst hm
      simp only [callbackClient, clientForShared, hclient]

theorem client?_performTriageAction {triage : TriageAction} :
    (app.performTriageAction env chatId accountId emailId triage).app.client? chatId m =
      app.client? chatId m := by
  have heffect := triageEffect env app chatId accountId emailId triage
  generalize app.performTriageAction env chatId accountId emailId triage = handled at heffect ⊢
  cases heffect with
  | unread | unmoved | unanswered => rfl
  | undoable => cases m <;> rfl

/-- A triage leaves the mail account its move leaves. -/
theorem mail_performTriageAction {triage : TriageAction} {ids : List String} {mail : MailAccount}
    (hids : env.mail.mailboxIdsOf env.calls emailId = some ids)
    (hmove : env.mail.move env.calls emailId triage = (mail, true)) :
    (app.performTriageAction env chatId accountId emailId triage).mail = mail := by
  rw [performTriageAction, hids]
  dsimp only
  rw [hmove]
  dsimp only
  split <;> rfl

/-- After a triage that found a client, the next tap finds it again. -/
theorem callbackClient_act_triage {action : String} {triage : TriageAction}
    (htriage : triageOf action = some triage)
    (h : app.callbackClient reaches chatId accountId = .live m client app')
    (hreaches : env.reaches = reaches) :
    let after := (app.act env chatId accountId emailId action).app
    after.callbackClient reaches chatId accountId = .live m client after := by
  subst hreaches
  refine exists_live_of_client? ?_ ?_
  · rw [sameClients_act.namedMailbox?, namedMailbox?_of_live h]
  · rw [act_triage htriage h, client?_performTriageAction, client?_callbackClient h]

end AppState

/-! ### One tap -/

/-- A tap that all calls to the mail server succeed for: whether Telegram accepts its answer, and
its time. -/
structure PlainTap where
  answered : Bool
  now : ℕ

/-- What the tap meets. -/
def PlainTap.env (tap : PlainTap) (reaches : Client → Bool) (mail : MailAccount) : TapEnv :=
  ⟨reaches, mail, ⟨true, true, true, tap.answered⟩, tap.now⟩

section

variable (reaches : Client → Bool) (chatId : ChatId) (accountId : Option String)
  (emailId action : String)

/-- Handle a tap on a button for the email. -/
def handleTap (w : AppState × MailAccount) (tap : PlainTap) : AppState × MailAccount :=
  let handled := w.1.act (tap.env reaches w.2) chatId accountId emailId action
  (handled.app, handled.mail)

/-- Handle taps on one triage button, and then a tap on the undo button. -/
def tapAndUndo (w : AppState × MailAccount) (taps : List PlainTap) (undo : PlainTap) :
    AppState × MailAccount :=
  handleTap reaches chatId accountId emailId "u"
    (taps.foldl (handleTap reaches chatId accountId emailId action) w) undo

/-- The email is in the given mailboxes of the account of the buttons, which has a mailbox for the
action. -/
structure TapReady (triage : TriageAction) (target : String) (ids : List String)
    (w : AppState × MailAccount) : Prop where
  live : ∃ m client app', w.1.callbackClient reaches chatId accountId = .live m client app'
  mailboxIds : w.2.mailboxIds[emailId]? = some ids
  withRole : w.2.withRole triage = some target

end

namespace TapReady

variable {reaches : Client → Bool} {chatId : ChatId} {accountId : Option String}
  {emailId action target : String} {triage : TriageAction} {ids : List String}
  {w : AppState × MailAccount}

/-- **A triage tap** moves the email, and puts its own snapshot in the place of the pending undo if
its answer is accepted. -/
theorem tapped (h : TapReady reaches chatId accountId emailId triage target ids w)
    (htriage : AppState.triageOf action = some triage) (tap : PlainTap) :
    let w' := handleTap reaches chatId accountId emailId action w tap
    TapReady reaches chatId accountId emailId triage target [target] w' ∧
      w'.1.pendingUndo[chatId]? =
        if tap.answered then some ⟨accountId, emailId, ids, tap.now + undoWindow⟩
        else w.1.pendingUndo[chatId]? := by
  obtain ⟨app, mail⟩ := w
  obtain ⟨⟨m, client, app', hlive⟩, hids, hrole⟩ := h
  dsimp only at hlive hids hrole
  have hread : mail.mailboxIdsOf (tap.env reaches mail).calls emailId = some ids := by
    rw [MailAccount.mailboxIdsOf, PlainTap.env, if_pos rfl, hids]
  have hmove : mail.move (tap.env reaches mail).calls emailId triage =
      ({ mail with mailboxIds := mail.mailboxIds.insert emailId [target] }, true) := by
    have hmem : emailId ∈ mail.mailboxIds := Map.mem_of_getElem? hids
    rw [MailAccount.move, PlainTap.env, if_pos rfl, hrole]
    dsimp only
    rw [MailAccount.setMailboxes, if_pos ⟨rfl, hmem⟩]
  have hact : app.act (tap.env reaches mail) chatId accountId emailId action =
      app'.performTriageAction (tap.env reaches mail) chatId accountId emailId triage :=
    AppState.act_triage htriage hlive
  have hmail : (app.act (tap.env reaches mail) chatId accountId emailId action).mail =
      { mail with mailboxIds := mail.mailboxIds.insert emailId [target] } := by
    rw [hact]
    exact AppState.mail_performTriageAction hread hmove
  refine ⟨⟨⟨m, client, _, AppState.callbackClient_act_triage htriage hlive rfl⟩, ?_, ?_⟩, ?_⟩
  · simp only [handleTap, hmail]
    rw [Map.getElem?_insert, if_pos rfl]
  · simp only [handleTap, hmail, hrole]
  · have hpending :
        (app.act (tap.env reaches mail) chatId accountId emailId action).app.pendingUndo =
        if tap.answered then
          app'.pendingUndo.insert chatId ⟨accountId, emailId, ids, tap.now + undoWindow⟩
        else app'.pendingUndo := by
      rw [hact]
      exact pendingUndo_performTriageAction hread (congrArg Prod.snd hmove)
    simp only [handleTap, hpending, pendingUndo_callbackClient hlive]
    split
    · rw [Map.getElem?_insert, if_pos rfl]
    · rfl

/-- **Further taps** leave the email where it is, and the undo of one of them pending if an answer
is accepted: it has the email go back to where the first tap moved it. -/
theorem foldl_tapped (h : TapReady reaches chatId accountId emailId triage target [target] w)
    (htriage : AppState.triageOf action = some triage) (taps : List PlainTap) :
    let w' := taps.foldl (handleTap reaches chatId accountId emailId action) w
    TapReady reaches chatId accountId emailId triage target [target] w' ∧
      ((∀ tap ∈ taps, tap.answered = false) ∧
          w'.1.pendingUndo[chatId]? = w.1.pendingUndo[chatId]? ∨
        ∃ tap ∈ taps, tap.answered = true ∧ w'.1.pendingUndo[chatId]? =
          some ⟨accountId, emailId, [target], tap.now + undoWindow⟩) := by
  induction taps generalizing w with
  | nil => exact ⟨h, .inl ⟨List.forall_mem_nil _, rfl⟩⟩
  | cons tap taps ih =>
    obtain ⟨hready, hpending⟩ := h.tapped htriage tap
    obtain ⟨hready', hrest⟩ := ih hready
    refine ⟨hready', ?_⟩
    obtain ⟨hnone, hsame⟩ | ⟨tap', htap', hanswered, hlast⟩ := hrest
    · -- the undo is that of this tap, if its answer is accepted
      by_cases hanswered : tap.answered = true
      · rw [if_pos hanswered] at hpending
        exact .inr ⟨tap, List.mem_cons_self, hanswered, hsame.trans hpending⟩
      · rw [if_neg hanswered] at hpending
        exact .inl ⟨List.forall_mem_cons.mpr ⟨Bool.eq_false_iff.mpr hanswered, hnone⟩,
          hsame.trans hpending⟩
    · exact .inr ⟨tap', List.mem_cons_of_mem tap htap', hanswered, hlast⟩

/-- **An undo** in the window puts the email back. -/
theorem undone (h : TapReady reaches chatId accountId emailId triage target ids w) {tap : PlainTap}
    {restore : List String} {expires : ℕ}
    (hp : w.1.pendingUndo[chatId]? = some ⟨accountId, emailId, restore, expires⟩)
    (hwindow : tap.now < expires) :
    (handleTap reaches chatId accountId emailId "u" w tap).2.mailboxIds[emailId]? =
      some restore := by
  obtain ⟨app, mail⟩ := w
  obtain ⟨⟨m, client, app', hlive⟩, hids, -⟩ := h
  dsimp only at hlive hids hp
  rw [← pendingUndo_callbackClient hlive] at hp
  have hexpired : (PendingUndo.mk accountId emailId restore expires).isExpired tap.now = false := by
    rw [PendingUndo.isExpired, decide_eq_false_iff_not]
    exact Nat.not_le_of_lt hwindow
  have hset : mail.setMailboxes (tap.env reaches mail).calls emailId restore =
      ({ mail with mailboxIds := mail.mailboxIds.insert emailId restore }, true) := by
    rw [MailAccount.setMailboxes, PlainTap.env, if_pos ⟨rfl, Map.mem_of_getElem? hids⟩]
  have hact : app.act (tap.env reaches mail) chatId accountId emailId "u" =
      app'.undo (tap.env reaches mail) chatId accountId emailId := AppState.act_undo hlive
  have hmail : (app'.undo (tap.env reaches mail) chatId accountId emailId).mail =
      { mail with mailboxIds := mail.mailboxIds.insert emailId restore } := by
    rw [AppState.undo, hp]
    dsimp only
    rw [if_pos ⟨hexpired, rfl, rfl⟩]
    simp only [PlainTap.env] at hset ⊢
    rw [hset]
  simp only [handleTap, hact, hmail]
  rw [Map.getElem?_insert, if_pos rfl]

end TapReady

/-! ### The undo after the taps -/

section

variable (reaches : Client → Bool) (chatId : ChatId) (accountId : Option String)
  (emailId action : String)

/-- The undo puts the email back into the mailboxes it was in before the first tap. -/
def UndoesAll (w : AppState × MailAccount) (taps : List PlainTap) (undo : PlainTap) : Prop :=
  ∃ ids ids', w.2.mailboxIds[emailId]? = some ids ∧
    (tapAndUndo reaches chatId accountId emailId action w taps undo).2.mailboxIds[emailId]? =
      some ids' ∧ ∀ id, id ∈ ids' ↔ id ∈ ids

end

section

variable {reaches : Client → Bool} {chatId : ChatId} {accountId : Option String}
  {emailId action target : String} {triage : TriageAction} {ids : List String}
  {w : AppState × MailAccount} {taps : List PlainTap} {undo : PlainTap}

/-- **A double tap does not defeat the undo** of an email that was in the target mailbox alone, or
when Telegram accepts no answer but the first; else it does. -/
theorem undoesAll_iff (htriage : AppState.triageOf action = some triage)
    (h : TapReady reaches chatId accountId emailId triage target ids w)
    (hshown : ∃ tap ∈ taps, tap.answered = true)
    (hwindow : ∀ tap ∈ taps, undo.now < tap.now + undoWindow) :
    UndoesAll reaches chatId accountId emailId action w taps undo ↔
      (∀ id, id ∈ ids ↔ id = target) ∨ ∀ tap ∈ taps.tail, tap.answered = false := by
  rcases taps with - | ⟨first, rest⟩
  · obtain ⟨tap, htap, -⟩ := hshown
    cases htap
  obtain ⟨hready, hpending⟩ := h.tapped htriage first
  obtain ⟨hready', hrest⟩ := hready.foldl_tapped htriage rest
  -- where the undo puts the email
  have hback : ∀ {restore tap}, tap ∈ first :: rest →
      ((first :: rest).foldl (handleTap reaches chatId accountId emailId action) w).1.pendingUndo[
        chatId]? = some ⟨accountId, emailId, restore, tap.now + undoWindow⟩ →
      (tapAndUndo reaches chatId accountId emailId action w (first :: rest) undo).2.mailboxIds[
        emailId]? = some restore := fun htap hp => hready'.undone hp (hwindow _ htap)
  have hiff : ∀ {restore}, (tapAndUndo reaches chatId accountId emailId action w (first :: rest)
      undo).2.mailboxIds[emailId]? = some restore →
      (UndoesAll reaches chatId accountId emailId action w (first :: rest) undo ↔
        ∀ id, id ∈ restore ↔ id ∈ ids) := by
    intro restore hrestore
    rw [UndoesAll, h.mailboxIds, hrestore]
    simp
  obtain ⟨hnone, hsame⟩ | ⟨tap, htap, hanswered, hlast⟩ := hrest
  · have hfirst : first.answered = true := by
      obtain ⟨tap, htap, hanswered⟩ := hshown
      obtain rfl | htap := List.mem_cons.mp htap
      · exact hanswered
      · rw [hnone tap htap] at hanswered
        cases hanswered
    rw [if_pos hfirst] at hpending
    rw [hiff (hback List.mem_cons_self (hsame.trans hpending))]
    exact iff_of_true (fun id => Iff.rfl) (.inr hnone)
  · rw [hiff (hback (List.mem_cons_of_mem first htap) hlast)]
    have hnot : ¬∀ tap ∈ (first :: rest).tail, tap.answered = false := fun hnone => by
      rw [hnone tap htap] at hanswered
      cases hanswered
    rw [or_iff_left hnot]
    refine forall_congr' fun id => ?_
    rw [List.mem_singleton]
    exact Iff.comm

end

/-! ### An email in the inbox -/

private def inboxWorld : AppState × MailAccount := (.new oneSlotData, inboxMail)

private def prompt (now : ℕ) : PlainTap := ⟨true, now⟩

private theorem tapReady_inboxWorld :
    TapReady (fun _ => true) 1 none "M1" .archive "archive" ["inbox"] inboxWorld where
  live := ⟨_, _, _, rfl⟩
  mailboxIds := by decide
  withRole := rfl

/-- After two taps the undo leaves the email in the archive. -/
theorem not_forall_undoesAll : ¬∀ (reaches : Client → Bool) (chatId : ChatId)
    (accountId : Option String) (emailId action target : String) (triage : TriageAction)
    (ids : List String) (w : AppState × MailAccount) (taps : List PlainTap) (undo : PlainTap),
    AppState.triageOf action = some triage →
      TapReady reaches chatId accountId emailId triage target ids w → taps ≠ [] →
      (∀ tap ∈ undo :: taps, tap.answered = true) →
      (∀ tap ∈ taps, undo.now < tap.now + undoWindow) →
      UndoesAll reaches chatId accountId emailId action w taps undo := by
  intro h
  obtain ⟨ids, ids', hids, hids', hsame⟩ := h (fun _ => true) 1 none "M1" "a" "archive" .archive
    ["inbox"] inboxWorld [prompt 0, prompt 1] (prompt 2) (by decide) tapReady_inboxWorld (by simp)
    (by simp [prompt]) (by simp [prompt, undoWindow])
  have hbefore : inboxWorld.2.mailboxIds["M1"]? = some ["inbox"] := by decide
  have hafter : (tapAndUndo (fun _ => true) 1 none "M1" "a" inboxWorld [prompt 0, prompt 1]
      (prompt 2)).2.mailboxIds["M1"]? = some ["archive"] := by decide
  obtain rfl := Option.some.inj (hbefore.symm.trans hids)
  obtain rfl := Option.some.inj (hafter.symm.trans hids')
  exact absurd ((hsame "archive").mp (by simp)) (by simp)

/-- After two taps of which Telegram accepts the first only, it puts the email back. -/
theorem undoesAll_iff_inboxWorld :
    UndoesAll (fun _ => true) 1 none "M1" "a" inboxWorld [prompt 0, ⟨false, 1⟩] (prompt 2) :=
  (undoesAll_iff (by decide) tapReady_inboxWorld (by simp [prompt])
    (by simp [prompt, undoWindow])).mpr (.inr (by simp))

end Jmap2Telegram
