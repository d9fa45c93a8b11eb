import Jmap2Telegram.State.AppState

/-!
# Looking up a live client

The `client_for*` methods of `AppState`: a mailbox's client is taken from the cache, or connected
with the credentials the store has for the mailbox and cached. The result says whose cache entry the
client is.

* `exists_clientForAccount`: a connected slot has a client once its server can be reached.
* `clientForAccount_live`, `clientForShared_live`: where a client that is found comes from, and what
  the lookup leaves.
* `exists_clientForAccount_iff`, `exists_clientForShared_iff`: which client is found.
-/

namespace Jmap2Telegram

/-- What a lookup comes to: the server cannot be reached (`Err`), there is no such mailbox
(`Ok(None)`), or a client, with the mailbox whose cache entry it is. -/
inductive Resolution where
  | err
  | missing
  | live (mailbox : Mailbox) (client : Client) (app : AppState)

namespace AppState

variable (app : AppState) (reaches : Client → Bool) (chatId : ChatId)

/-- Connect and cache, `reaches` being the servers and tokens a connection succeeds with. -/
def connectAndCache (mailbox : Mailbox) (client : Client) : Resolution :=
  if reaches client then .live mailbox client (app.insertClient chatId client mailbox) else .err

/-- `client_for_account`. -/
def clientForAccount (slotId : String) : Resolution :=
  match app.client? chatId (.account slotId) with
  | some client => .live (.account slotId) client app
  | none =>
    match app.data.slot? chatId slotId with
    | none => .missing
    | some slot =>
      app.connectAndCache reaches chatId (.account slotId) ⟨slot.serverUrl, slot.token, none⟩

/-- `client_for`: the primary slot's client. -/
def clientFor : Resolution :=
  match app.data.accounts[chatId]?.bind Account.primarySlot with
  | none => .missing
  | some slot => app.clientForAccount reaches chatId slot.slotId

/-- The slot a shared account of a chat connects through. -/
def parentSlot? (accountId : String) : Option AccountSlot :=
  app.data.accounts[chatId]?.bind fun account =>
    account.sharedAccounts[accountId]?.bind account.resolveParentSlot

/-- `client_for_shared`. -/
def clientForShared (accountId : String) : Resolution :=
  match app.client? chatId (.shared accountId) with
  | some client => .live (.shared accountId) client app
  | none =>
    match app.parentSlot? chatId accountId with
    | none => .missing
    | some slot =>
      app.connectAndCache reaches chatId (.shared accountId)
        ⟨slot.serverUrl, slot.token, some accountId⟩

/-- The client that the credentials stored for a mailbox make. -/
def storedClient? : Mailbox → Option Client
  | .account slotId => (app.data.slot? chatId slotId).map fun slot =>
    ⟨slot.serverUrl, slot.token, none⟩
  | .shared accountId => (app.parentSlot? chatId accountId).map fun slot =>
    ⟨slot.serverUrl, slot.token, some accountId⟩

/-- The client of a mailbox: the cached one, or else the one that would be connected. -/
def mailboxClient? (m : Mailbox) : Option Client :=
  (app.client? chatId m).or (app.storedClient? chatId m)

/-- A lookup finds a client of a mailbox: it is cached, or it is connected with the credentials that
are stored. -/
def Finds (m : Mailbox) (client : Client) : Prop :=
  app.client? chatId m = some client ∨
    app.client? chatId m = none ∧ app.storedClient? chatId m = some client ∧ reaches client = true

/-! ### Whose client it is -/

section

variable {app reaches chatId} {mailbox m : Mailbox} {client c : Client} {app' : AppState}

theorem connectAndCache_live
    (h : app.connectAndCache reaches chatId mailbox client = .live m c app') :
    m = mailbox ∧ c = client ∧ reaches client = true ∧
      app' = app.insertClient chatId client mailbox := by
  rw [connectAndCache] at h
  split at h
  case isTrue hreaches =>
    cases h
    exact ⟨rfl, rfl, hreaches, rfl⟩
  case isFalse => cases h

/-- A client looked up as a slot's is that slot's: it was cached, or it is connected with the slot's
credentials and cached. -/
theorem clientForAccount_live {slotId : String}
    (h : app.clientForAccount reaches chatId slotId = .live m c app') :
    m = .account slotId ∧
      (app.client? chatId (.account slotId) = some c ∧ app' = app ∨
        ∃ slot, app.data.slot? chatId slotId = some slot ∧
          c = ⟨slot.serverUrl, slot.token, none⟩ ∧ reaches c = true ∧
          app' = app.insertClient chatId c (.account slotId)) := by
  rw [clientForAccount] at h
  split at h
  case h_1 hcached =>
    cases h
    exact ⟨rfl, .inl ⟨hcached, rfl⟩⟩
  case h_2 =>
    split at h
    · cases h
    case h_2 slot hslot =>
      obtain ⟨rfl, rfl, hreaches, rfl⟩ := connectAndCache_live h
      exact ⟨rfl, .inr ⟨slot, hslot, rfl, hreaches, rfl⟩⟩

/-- A client looked up as a shared account's is that shared account's: it was cached, or it is
connected with the credentials of the slot the account is under and cached. -/
theorem clientForShared_live {accountId : String}
    (h : app.clientForShared reaches chatId accountId = .live m c app') :
    m = .shared accountId ∧
      (app.client? chatId (.shared accountId) = some c ∧ app' = app ∨
        ∃ slot, app.parentSlot? chatId accountId = some slot ∧
          c = ⟨slot.serverUrl, slot.token, some accountId⟩ ∧ reaches c = true ∧
          app' = app.insertClient chatId c (.shared accountId)) := by
  rw [clientForShared] at h
  split at h
  case h_1 hcached =>
    cases h
    exact ⟨rfl, .inl ⟨hcached, rfl⟩⟩
  case h_2 =>
    split at h
    · cases h
    case h_2 slot hslot =>
      obtain ⟨rfl, rfl, hreaches, rfl⟩ := connectAndCache_live h
      exact ⟨rfl, .inr ⟨slot, hslot, rfl, hreaches, rfl⟩⟩

/-- A client looked up as a slot's is that slot's. -/
theorem mailbox_clientForAccount {slotId : String}
    (h : app.clientForAccount reaches chatId slotId = .live m c app') : m = .account slotId :=
  (clientForAccount_live h).1

/-- A client looked up as a shared account's is that shared account's. -/
theorem mailbox_clientForShared {accountId : String}
    (h : app.clientForShared reaches chatId accountId = .live m c app') :
    m = .shared accountId :=
  (clientForShared_live h).1

/-- A lookup leaves the state, but that the client it finds is cached. -/
def CachesAtMost (app : AppState) (chatId : ChatId) (m : Mailbox) (client : Client)
    (app' : AppState) : Prop :=
  app' = app ∨ app' = app.insertClient chatId client m

theorem cachesAtMost_clientForAccount {slotId : String}
    (h : app.clientForAccount reaches chatId slotId = .live m c app') :
    app.CachesAtMost chatId m c app' := by
  obtain ⟨rfl, ⟨-, hsame⟩ | ⟨slot, -, -, -, hinsert⟩⟩ := clientForAccount_live h
  · exact .inl hsame
  · exact .inr hinsert

theorem cachesAtMost_clientFor (h : app.clientFor reaches chatId = .live m c app') :
    app.CachesAtMost chatId m c app' := by
  rw [clientFor] at h
  split at h
  · cases h
  · exact cachesAtMost_clientForAccount h

theorem cachesAtMost_clientForShared {accountId : String}
    (h : app.clientForShared reaches chatId accountId = .live m c app') :
    app.CachesAtMost chatId m c app' := by
  obtain ⟨rfl, ⟨-, hsame⟩ | ⟨slot, -, -, -, hinsert⟩⟩ := clientForShared_live h
  · exact .inl hsame
  · exact .inr hinsert

/-- A slot's lookup finds a client when the slot's is cached or can be connected. -/
theorem exists_clientForAccount_iff {slotId : String} :
    (∃ app', app.clientForAccount reaches chatId slotId = .live m c app') ↔
      m = .account slotId ∧ app.Finds reaches chatId m c := by
  constructor
  · rintro ⟨app', h⟩
    rw [clientForAccount] at h
    split at h
    case h_1 hcached =>
      cases h
      exact ⟨rfl, .inl hcached⟩
    case h_2 hcached =>
      split at h
      · cases h
      case h_2 slot hslot =>
        obtain ⟨rfl, rfl, hreaches, -⟩ := connectAndCache_live h
        exact ⟨rfl, .inr ⟨hcached, by rw [storedClient?, hslot, Option.map_some], hreaches⟩⟩
  · rintro ⟨rfl, hcached | ⟨hcached, hstored, hreaches⟩⟩
    · exact ⟨app, by rw [clientForAccount, hcached]⟩
    · obtain ⟨slot, hslot, rfl⟩ := Option.map_eq_some_iff.mp hstored
      simp only [clientForAccount, hcached, hslot, connectAndCache, hreaches, if_true]
      exact ⟨_, rfl⟩

/-- So does a shared account's. -/
theorem exists_clientForShared_iff {accountId : String} :
    (∃ app', app.clientForShared reaches chatId accountId = .live m c app') ↔
      m = .shared accountId ∧ app.Finds reaches chatId m c := by
  constructor
  · rintro ⟨app', h⟩
    rw [clientForShared] at h
    split at h
    case h_1 hcached =>
      cases h
      exact ⟨rfl, .inl hcached⟩
    case h_2 hcached =>
      split at h
      · cases h
      case h_2 slot hslot =>
        obtain ⟨rfl, rfl, hreaches, -⟩ := connectAndCache_live h
        exact ⟨rfl, .inr ⟨hcached, by rw [storedClient?, hslot, Option.map_some], hreaches⟩⟩
  · rintro ⟨rfl, hcached | ⟨hcached, hstored, hreaches⟩⟩
    · exact ⟨app, by rw [clientForShared, hcached]⟩
    · obtain ⟨slot, hslot, rfl⟩ := Option.map_eq_some_iff.mp hstored
      simp only [clientForShared, hcached, hslot, connectAndCache, hreaches, if_true]
      exact ⟨_, rfl⟩

/-- What is found is the mailbox's client. -/
theorem Finds.mailboxClient? (h : app.Finds reaches chatId m c) :
    app.mailboxClient? chatId m = some c := by
  obtain hcached | ⟨hcached, hstored, -⟩ := h
  · rw [AppState.mailboxClient?, hcached, Option.some_or]
  · rw [AppState.mailboxClient?, hcached, Option.none_or, hstored]

/-- The client that a slot's lookup finds is that of the mailbox. -/
theorem mailboxClient?_of_clientForAccount {slotId : String}
    (h : app.clientForAccount reaches chatId slotId = .live m c app') :
    app.mailboxClient? chatId m = some c :=
  (exists_clientForAccount_iff.mp ⟨app', h⟩).2.mailboxClient?

/-- A mailbox's client may be cached without changing any mailbox's. -/
theorem mailboxClient?_insertClient (h : app.mailboxClient? chatId m = some c) :
    (app.insertClient chatId c m).mailboxClient? chatId mailbox =
      app.mailboxClient? chatId mailbox := by
  have hstored : (app.insertClient chatId c m).storedClient? chatId mailbox =
      app.storedClient? chatId mailbox := by
    cases mailbox with
    | account slotId => rw [storedClient?, storedClient?, data_insertClient]
    | shared accountId =>
      rw [storedClient?, storedClient?, parentSlot?, parentSlot?, data_insertClient]
  rw [mailboxClient?, client?_insertClient, hstored]
  split
  case isTrue heq => rw [← heq.2, h, Option.some_or]
  case isFalse => rfl

/-- A connected slot has a client, if one is cached or its server can be reached. -/
theorem exists_clientForAccount {slotId : String} {slot : AccountSlot}
    (hslot : app.data.slot? chatId slotId = some slot)
    (hreach : (app.client? chatId (.account slotId)).isSome ∨
      reaches ⟨slot.serverUrl, slot.token, none⟩ = true) :
    ∃ client app', app.clientForAccount reaches chatId slotId =
      .live (.account slotId) client app' := by
  rw [clientForAccount]
  split
  · exact ⟨_, _, rfl⟩
  case _ hcached =>
    rw [hcached] at hreach
    have hreach := hreach.resolve_left Bool.false_ne_true
    rw [hslot]
    dsimp only
    rw [connectAndCache, if_pos hreach]
    exact ⟨_, _, rfl⟩

/-- There is no shared account to look up when none is cached and none is stored with a connected
parent slot. -/
theorem clientForShared_eq_missing_iff (reaches : Client → Bool) {accountId : String} :
    app.clientForShared reaches chatId accountId = .missing ↔
      app.client? chatId (.shared accountId) = none ∧ app.parentSlot? chatId accountId = none := by
  rw [clientForShared]
  rcases app.client? chatId (.shared accountId) with - | client
  · rcases app.parentSlot? chatId accountId with - | slot
    · simp
    · simp only [connectAndCache, reduceCtorEq, and_false, iff_false]
      split <;> simp
  · simp

end

end AppState

end Jmap2Telegram
