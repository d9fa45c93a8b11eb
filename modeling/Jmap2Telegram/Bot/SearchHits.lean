import Jmap2Telegram.Bot.Search
import Jmap2Telegram.Format.Notification
import Jmap2Telegram.State.Clients

/-!
# The results of a search

`cmd_rechercher` first looks the clients of all the chat's slots up, and stops when one of them
cannot be connected; only then does it pick the slot of the topic it was called in, or search
through all of them and tolerate those whose query fails.

* `hits_root`, `report_topic`: what a search reports when every client can be had.
* `reports_iff`: when it reports the hits of every account that answers, and when a search in a
  topic depends on that topic's account alone.
-/

namespace Jmap2Telegram

/-- What becomes of a search, slot by slot: the error its client cannot be connected with, if it is
one, and the hits of the query or the error of the query, as they are shown to the user. -/
structure SearchOutcomes where
  connectError : String → Option String
  search : String → Except String (List EmailSummary)

/-- A hit, with the slot it was found in. -/
structure Hit where
  slotId : String
  email : String
  summary : EmailSummary

/-- What `cmd_rechercher` sends. -/
inductive SearchReport where
  | usage
  | noAccount
  | connectionError (error : String)
  | searchError (error : String)
  | noResult (query : String)
  | results (query : String) (multipleAccounts : Bool) (hits : List Hit)

namespace SearchReport

/-- The hits that are reported. -/
def hits : SearchReport → List Hit
  | results _ _ hits => hits
  | _ => []

theorem hits_usage : usage.hits = [] := rfl

theorem hits_connectionError (error : String) : (connectionError error).hits = [] := rfl

/-- The messages below the count of the results: the text and the keyboard of each. -/
def messages {Tz : Type} (formatTimestamp : Tz → Int64 → Option String) (tz : Tz) (lang : Locale) :
    SearchReport → List (String × Keyboard)
  | results _ multipleAccounts hits => hits.map fun hit =>
    (notificationText formatTimestamp hit.summary tz
        (if multipleAccounts then some hit.email else none) lang,
      notificationKeyboard hit.summary.id (btnAccountId hit.slotId) false false lang)
  | _ => []

end SearchReport

namespace SearchOutcomes

variable (o : SearchOutcomes)

/-- The hits in a slot. -/
def hitsIn (slot : AccountSlot) : List Hit :=
  match o.search slot.slotId with
  | .ok results => results.map fun summary => ⟨slot.slotId, slot.email, summary⟩
  | .error _ => []

/-- The last error of a query. -/
def lastErr (slots : List AccountSlot) : Option String :=
  slots.foldl (fun lastErr slot =>
    match o.search slot.slotId with
    | .ok _ => lastErr
    | .error e => some e) none

/-- The end of `cmd_rechercher`: the queries, and what is sent. -/
def report (query : String) (slots : List AccountSlot) : SearchReport :=
  let allResults := slots.flatMap o.hitsIn
  if allResults.isEmpty then
    match o.lastErr slots with
    | some e => if slots.length = 1 then .searchError e else .noResult query
    | none => .noResult query
  else .results query (1 < slots.length) allResults

/-- The outcomes of a slot are the same. -/
structure AgreesOn (o o' : SearchOutcomes) (slotId : String) : Prop where
  connectError : o.connectError slotId = o'.connectError slotId
  search : o.search slotId = o'.search slotId

variable {o} {o' : SearchOutcomes}

/-- The report about one slot depends on its query alone. -/
theorem AgreesOn.report_eq {slotId : String} (h : o.AgreesOn o' slotId) (query : String)
    (slot : AccountSlot) (hslot : slot.slotId = slotId) :
    o.report query [slot] = o'.report query [slot] := by
  have hsearch : o.search slot.slotId = o'.search slot.slotId := by rw [hslot, h.search]
  simp only [report, List.flatMap_cons, List.flatMap_nil, hitsIn, lastErr, List.foldl_cons,
    List.foldl_nil, hsearch]

end SearchOutcomes

/-- A search that could connect does not answer with a connection error. -/
theorem connectionError_ne_report {o : SearchOutcomes} {e query : String}
    {slots : List AccountSlot} : SearchReport.connectionError e ≠ o.report query slots := by
  rw [SearchOutcomes.report]
  split
  · rcases o.lastErr slots with - | e'
    · simp
    · dsimp only
      split <;> simp
  · simp

/-- The slot whose topic a search is called in. -/
def Account.topicSlot (account : Account) (threadId : ThreadId) : Option AccountSlot :=
  account.accounts.values.find? fun slot => slot.threadId = some threadId

namespace AppState

variable (app : AppState) (chatId : ChatId) (o : SearchOutcomes)

/-- The client of a slot, as the outcomes have it. -/
def searchClient (slotId : String) : Resolution :=
  app.clientForAccount (fun _ => (o.connectError slotId).isNone) chatId slotId

/-- The loop of `all_clients_for_chat`. -/
def collectClients : AppState → List (String × AccountSlot) →
    AppState × Except String (List (AccountSlot × Client))
  | app, [] => (app, .ok [])
  | app, (slotId, slot) :: slots =>
    match app.searchClient chatId o slotId with
    | .err => (app, .error ((o.connectError slotId).getD ""))
    | .missing => collectClients app slots
    | .live _ client app =>
      match collectClients app slots with
      | (app, .ok clients) => (app, .ok ((slot, client) :: clients))
      | (app, .error e) => (app, .error e)

/-- `all_clients_for_chat`. -/
def allClientsForChat : AppState × Except String (List (AccountSlot × Client)) :=
  match app.data.accounts[chatId]? with
  | none => (app, .ok [])
  | some account => collectClients chatId o app account.accounts.toList

/-- The clients a search goes through: in a topic that of the topic's slot, when there is one. -/
def searchedClients (threadId : Option ThreadId) (allClients : List (AccountSlot × Client)) :
    AppState × List (AccountSlot × Client) :=
  match threadId.bind fun tid =>
      app.data.accounts[chatId]?.bind fun account => account.topicSlot tid with
  | none => (app, allClients)
  | some matchedSlot =>
    match app.searchClient chatId o matchedSlot.slotId with
    | .live _ client app => (app, [(matchedSlot, client)])
    | .missing | .err => (app, allClients)

/-- `cmd_rechercher`, called in a topic or in the root chat. -/
def cmdRechercher (threadId : Option ThreadId) (query : String) : AppState × SearchReport :=
  let query := Str.trim query
  if query.isEmpty then (app, .usage)
  else
    match app.allClientsForChat chatId o with
    | (app, .ok allClients) =>
      if allClients.isEmpty then (app, .noAccount)
      else
        let (app, clients) := app.searchedClients chatId o threadId allClients
        (app, o.report query (clients.map Prod.fst))
    | (app, .error e) => (app, .connectionError e)

/-! ### What a search leaves -/

section

variable {app : AppState} {chatId : ChatId} {o : SearchOutcomes} {Inv : AppState → Prop}
  (hcache : ∀ app m client app', Inv app → app.mailboxClient? chatId m = some client →
    app.CachesAtMost chatId m client app' → Inv app')
include hcache

/-- Collecting the clients keeps what caching one of them keeps. -/
theorem collectClients_induction (h : Inv app) (slots : List (String × AccountSlot)) :
    Inv (collectClients chatId o app slots).1 := by
  induction slots generalizing app with
  | nil => exact h
  | cons p slots ih =>
    obtain ⟨slotId, slot⟩ := p
    rw [collectClients]
    rcases hclient : app.searchClient chatId o slotId with - | - | ⟨m, client, app₁⟩
    · exact h
    · exact ih h
    · have hrest : Inv (collectClients chatId o app₁ slots).1 :=
        ih (hcache app m client app₁ h (mailboxClient?_of_clientForAccount hclient)
          (cachesAtMost_clientForAccount hclient))
      dsimp only
      rcases hcollect : collectClients chatId o app₁ slots with ⟨app₂, e | clients⟩ <;>
        rw [hcollect] at hrest <;> exact hrest

/-- So does looking up the account of the topic alone. -/
theorem searchedClients_induction (h : Inv app) (threadId : Option ThreadId)
    (allClients : List (AccountSlot × Client)) :
    Inv (app.searchedClients chatId o threadId allClients).1 := by
  rw [searchedClients]
  split
  · exact h
  · split
    case h_1 hclient =>
      exact hcache _ _ _ _ h (mailboxClient?_of_clientForAccount hclient)
        (cachesAtMost_clientForAccount hclient)
    case h_2 => exact h
    case h_3 => exact h

/-- **What is preserved when a mailbox's client is cached holds after a search.** -/
theorem cmdRechercher_induction (h : Inv app) (threadId : Option ThreadId) (query : String) :
    Inv (app.cmdRechercher chatId o threadId query).1 := by
  have hall : Inv (app.allClientsForChat chatId o).1 := by
    rw [allClientsForChat]
    split
    · exact h
    · exact collectClients_induction hcache h _
  rw [cmdRechercher]
  dsimp only
  split
  · exact h
  · rcases hclients : app.allClientsForChat chatId o with ⟨app₁, e | allClients⟩ <;>
      rw [hclients] at hall
    · exact hall
    · dsimp only
      split
      · exact hall
      · exact searchedClients_induction hcache hall threadId allClients

end

/-! ### Which clients can be had -/

/-- A slot's client is cached, or can be connected. -/
def Resolves (slotId : String) : Bool :=
  (app.client? chatId (.account slotId)).isSome || (o.connectError slotId).isNone

section

variable {app app' : AppState} {chatId : ChatId} {o : SearchOutcomes} {slotId s : String}
  {slot : AccountSlot} {m : Mailbox} {client : Client}

/-- The client of a connected slot is found or connected exactly when it can be had. -/
theorem searchClient_cases (hslot : app.data.slot? chatId slotId = some slot) :
    app.Resolves chatId o slotId = true ∧
        (∃ m client app', app.searchClient chatId o slotId = .live m client app') ∨
      app.Resolves chatId o slotId = false ∧ app.searchClient chatId o slotId = .err := by
  rw [searchClient, clientForAccount, Resolves]
  rcases app.client? chatId (.account slotId) with - | client
  · rw [hslot]
    dsimp only
    rw [connectAndCache]
    rcases o.connectError slotId with - | e
    · exact .inl ⟨rfl, _, _, _, rfl⟩
    · exact .inr ⟨rfl, rfl⟩
  · exact .inl ⟨rfl, _, _, _, rfl⟩

/-- Looking a client up at most caches it. -/
theorem searchClient_live (h : app.searchClient chatId o slotId = .live m client app') :
    app'.data = app.data ∧
      (∀ s, (app'.client? chatId (.account s)).isSome ↔
        (app.client? chatId (.account s)).isSome ∨ s = slotId) ∧
      app.Resolves chatId o slotId = true := by
  rw [Resolves, Bool.or_eq_true]
  obtain ⟨rfl, ⟨hcached, rfl⟩ | ⟨_, -, -, hconnect, rfl⟩⟩ := clientForAccount_live h
  · refine ⟨rfl, fun s => ?_, .inl (by rw [hcached]; rfl)⟩
    rw [or_iff_left_of_imp]
    rintro rfl
    rw [hcached]
    rfl
  · refine ⟨data_insertClient, fun s => ?_, .inr hconnect⟩
    rw [client?_insertClient]
    split
    case isTrue hs => exact iff_of_true rfl (.inr (Mailbox.account.inj hs.2).symm)
    case isFalse hs => exact (or_iff_left fun heq => hs ⟨rfl, congrArg _ heq.symm⟩).symm

/-- What can be had stays so when a client is looked up. -/
theorem resolves_searchClient (h : app.searchClient chatId o slotId = .live m client app') :
    app'.Resolves chatId o s = app.Resolves chatId o s := by
  obtain ⟨-, hcached, hresolves⟩ := searchClient_live h
  rw [Bool.eq_iff_iff, Resolves, Bool.or_eq_true, hcached, Resolves, Bool.or_eq_true]
  constructor
  · rintro ((hs | rfl) | hs)
    · exact .inl hs
    · rwa [Resolves, Bool.or_eq_true] at hresolves
    · exact .inr hs
  · rintro (hs | hs)
    · exact .inl (.inl hs)
    · exact .inr hs

/-- All the loop of `all_clients_for_chat` can do: every client can be had and is cached afterwards,
or the first that cannot be had ends the loop. -/
theorem collectClients_cases {slots : List (String × AccountSlot)}
    (hslots : ∀ p ∈ slots, app.data.slot? chatId p.1 = some p.2) :
    (∀ p ∈ slots, app.Resolves chatId o p.1 = true) ∧
        (∃ app' clients, collectClients chatId o app slots = (app', .ok clients) ∧
          clients.map Prod.fst = slots.map Prod.snd ∧ app'.data = app.data ∧
          ∀ s, (app'.client? chatId (.account s)).isSome ↔
            (app.client? chatId (.account s)).isSome ∨ s ∈ slots.map Prod.fst) ∨
      (∃ p ∈ slots, app.Resolves chatId o p.1 = false) ∧
        ∃ app' e, collectClients chatId o app slots = (app', .error e) := by
  induction slots generalizing app with
  | nil => exact .inl ⟨by simp, app, [], rfl, rfl, rfl, by simp⟩
  | cons p slots ih =>
    obtain ⟨slotId, slot⟩ := p
    obtain ⟨hslot, hrest⟩ := List.forall_mem_cons.mp hslots
    rw [collectClients]
    obtain ⟨hresolves, m, client, app₁, hlive⟩ | ⟨hfails, herr⟩ := searchClient_cases (o := o) hslot
    · obtain ⟨hdata, hcached, -⟩ := searchClient_live hlive
      have hrest₁ : ∀ p ∈ slots, app₁.data.slot? chatId p.1 = some p.2 := by
        intro p hp
        rw [hdata]
        exact hrest p hp
      rw [hlive]
      dsimp only
      obtain ⟨hall, app', clients, hcollect, hfst, hdata', hcached'⟩ | ⟨⟨p, hp, hfails⟩, app', e,
        hcollect⟩ := ih hrest₁
      · refine .inl ⟨List.forall_mem_cons.mpr ⟨hresolves, fun p hp => ?_⟩, app',
          (slot, client) :: clients, by rw [hcollect], ?_, hdata'.trans hdata, fun s => ?_⟩
        · rw [← resolves_searchClient hlive]
          exact hall p hp
        · rw [List.map_cons, List.map_cons, hfst]
        · rw [hcached', hcached, List.map_cons, List.mem_cons, or_assoc]
      · refine .inr ⟨⟨p, List.mem_cons_of_mem _ hp, ?_⟩, app', e, by rw [hcollect]⟩
        rwa [← resolves_searchClient hlive]
    · rw [herr]
      exact .inr ⟨⟨(slotId, slot), List.mem_cons_self, hfails⟩, _, _, rfl⟩

end

/-! ### What is reported -/

/-- The hits of the slots whose client can be had and whose query succeeds, in slot order. -/
def reachableHits (account : Account) : List Hit :=
  account.accounts.toList.flatMap fun (slotId, slot) =>
    if app.Resolves chatId o slotId then o.hitsIn slot else []

section

variable {app : AppState} {chatId : ChatId} {o o' : SearchOutcomes} {account : Account}
  {threadId : Option ThreadId} {query : String}

/-- A property of the slots in order is one of the slots. -/
theorem forall_mem_toList {P : String → Prop} :
    (∀ p ∈ account.accounts.toList, P p.1) ↔ ∀ s ∈ account.accounts, P s := by
  constructor
  · intro h s hs
    obtain ⟨slot, hslot⟩ := Map.mem_iff_exists.mp hs
    exact h (s, slot) (Std.ExtTreeMap.mem_toList_iff_getElem?_eq_some.mpr hslot)
  · rintro h ⟨s, slot⟩ hp
    exact h s (Map.mem_of_getElem? (Std.ExtTreeMap.mem_toList_iff_getElem?_eq_some.mp hp))

/-- The two ways `all_clients_for_chat` ends for a chat that has a record. -/
theorem allClientsForChat_cases (haccount : app.data.accounts[chatId]? = some account)
    (o : SearchOutcomes) :
    (∀ s ∈ account.accounts, app.Resolves chatId o s = true) ∧
        (∃ app' clients, app.allClientsForChat chatId o = (app', .ok clients) ∧
          clients.map Prod.fst = account.accounts.values ∧ app'.data = app.data ∧
          ∀ s ∈ account.accounts, (app'.client? chatId (.account s)).isSome) ∨
      (∃ s ∈ account.accounts, app.Resolves chatId o s = false) ∧
        ∃ app' e, app.allClientsForChat chatId o = (app', .error e) := by
  have hslots : ∀ p ∈ account.accounts.toList, app.data.slot? chatId p.1 = some p.2 := by
    intro p hp
    rw [StoreData.slot?, haccount, Option.bind_some]
    exact Std.ExtTreeMap.mem_toList_iff_getElem?_eq_some.mp hp
  rw [allClientsForChat, haccount]
  obtain ⟨hall, app', clients, hcollect, hfst, hdata, hcached⟩ | ⟨⟨p, hp, hfails⟩, hcollect⟩ :=
    collectClients_cases (o := o) hslots
  · refine .inl ⟨forall_mem_toList.mp hall, app', clients, hcollect, hfst, hdata,
      forall_mem_toList.mp fun p hp => (hcached p.1).mpr (.inr (List.mem_map_of_mem hp))⟩
  · exact .inr ⟨⟨p.1, Map.mem_of_getElem? (Std.ExtTreeMap.mem_toList_iff_getElem?_eq_some.mp hp),
      hfails⟩, hcollect⟩

/-- A search without a query. -/
theorem report_usage (hblank : (Str.trim query).isEmpty = true) :
    (app.cmdRechercher chatId o threadId query).2 = .usage := by
  rw [cmdRechercher]
  dsimp only
  rw [if_pos hblank]

/-- **One client that cannot be had ends the search**, wherever it was called. -/
theorem report_connectionError (threadId : Option ThreadId)
    (haccount : app.data.accounts[chatId]? = some account)
    (hquery : (Str.trim query).isEmpty = false) {s : String} (hs : s ∈ account.accounts)
    (hfails : app.Resolves chatId o s = false) :
    ∃ e, (app.cmdRechercher chatId o threadId query).2 = .connectionError e := by
  obtain ⟨hall, -⟩ | ⟨-, app', e, hclients⟩ := allClientsForChat_cases haccount o
  · simp [hall s hs] at hfails
  · refine ⟨e, ?_⟩
    rw [cmdRechercher]
    dsimp only
    rw [if_neg (by simp [hquery]), hclients]

/-- A search in the root chat, when every client can be had. -/
theorem hits_root (haccount : app.data.accounts[chatId]? = some account)
    (hquery : (Str.trim query).isEmpty = false)
    (hall : ∀ s ∈ account.accounts, app.Resolves chatId o s = true) :
    (app.cmdRechercher chatId o none query).2.hits = account.accounts.values.flatMap o.hitsIn := by
  obtain ⟨-, app', clients, hclients, hfst, -⟩ | ⟨⟨s, hs, hfails⟩, -⟩ :=
    allClientsForChat_cases haccount o
  · rw [cmdRechercher]
    dsimp only
    rw [if_neg (by simp [hquery]), hclients]
    dsimp only
    split
    case isTrue hempty =>
      rw [← hfst, List.isEmpty_iff.mp hempty]
      rfl
    case isFalse =>
      rw [searchedClients, Option.bind_none]
      dsimp only
      rw [hfst, SearchOutcomes.report]
      split
      case isTrue hempty =>
        rw [List.isEmpty_iff.mp hempty]
        rcases o.lastErr account.accounts.values with - | e
        · rfl
        · dsimp only
          split <;> rfl
      case isFalse => rfl
  · simp [hall s hs] at hfails

/-- A search in the topic of a slot, when every client can be had. -/
theorem report_topic (haccount : app.data.accounts[chatId]? = some account)
    (hquery : (Str.trim query).isEmpty = false)
    (hall : ∀ s ∈ account.accounts, app.Resolves chatId o s = true) {tid : ThreadId}
    {slot : AccountSlot} (htopic : account.topicSlot tid = some slot)
    (hslot : slot.slotId ∈ account.accounts) :
    (app.cmdRechercher chatId o (some tid) query).2 = o.report (Str.trim query) [slot] := by
  obtain ⟨-, app', clients, hclients, hfst, hdata, hcached⟩ | ⟨⟨s, hs, hfails⟩, -⟩ :=
    allClientsForChat_cases haccount o
  · obtain ⟨client, hclient⟩ := Option.isSome_iff_exists.mp (hcached slot.slotId hslot)
    have hnonempty : clients.isEmpty = false := by
      rw [Bool.eq_false_iff, ne_eq, List.isEmpty_iff]
      rintro rfl
      have hmem := List.mem_of_find?_eq_some htopic
      rw [← hfst] at hmem
      exact List.not_mem_nil hmem
    rw [cmdRechercher]
    dsimp only
    rw [if_neg (by simp [hquery]), hclients]
    dsimp only
    rw [if_neg (by simp [hnonempty]), searchedClients, Option.bind_some, hdata, haccount,
      Option.bind_some, htopic]
    dsimp only
    rw [searchClient, clientForAccount, hclient]
    rfl
  · simp [hall s hs] at hfails

variable (app chatId account query) in
/-- The hits are those of every account that answers. -/
theorem hits_root_iff (haccount : app.data.accounts[chatId]? = some account) (o : SearchOutcomes) :
    (app.cmdRechercher chatId o none query).2.hits = app.reachableHits chatId o account ↔
      (Str.trim query).isEmpty = false ∧
          (∀ s ∈ account.accounts, app.Resolves chatId o s = true) ∨
        app.reachableHits chatId o account = [] := by
  have hreachable : (∀ s ∈ account.accounts, app.Resolves chatId o s = true) →
      app.reachableHits chatId o account = account.accounts.values.flatMap o.hitsIn := by
    intro hall
    rw [reachableHits, Map.values, List.flatMap_map]
    refine List.flatMap_congr ?_
    rintro ⟨slotId, slot⟩ hp
    exact if_pos (forall_mem_toList.mpr hall (slotId, slot) hp)
  by_cases hblank : (Str.trim query).isEmpty = true
  · rw [report_usage hblank, SearchReport.hits_usage, eq_comm, hblank]
    simp
  · rw [Bool.not_eq_true] at hblank
    by_cases hall : ∀ s ∈ account.accounts, app.Resolves chatId o s = true
    · rw [hits_root haccount hblank hall, hreachable hall]
      exact iff_of_true rfl (.inl ⟨hblank, hall⟩)
    · obtain ⟨s, hs⟩ := not_forall.mp hall
      obtain ⟨hs, hfails⟩ := Classical.not_imp.mp hs
      obtain ⟨e, herror⟩ := report_connectionError none haccount hblank hs
        (Bool.not_eq_true _ ▸ hfails)
      rw [herror, SearchReport.hits_connectionError, eq_comm]
      simp only [hall, and_false, false_or]

/-- The report of a search in a slot's topic depends on that slot's outcomes alone. -/
theorem report_topic_iff (haccount : app.data.accounts[chatId]? = some account) {tid : ThreadId}
    {slot : AccountSlot} (htopic : account.topicSlot tid = some slot)
    (hslot : slot.slotId ∈ account.accounts)
    (hresolves : app.Resolves chatId o slot.slotId = true) :
    (∀ o' : SearchOutcomes, o'.AgreesOn o slot.slotId →
        (app.cmdRechercher chatId o' (some tid) query).2 =
          (app.cmdRechercher chatId o (some tid) query).2) ↔
      (Str.trim query).isEmpty = true ∨
        ∀ s ∈ account.accounts, s ≠ slot.slotId → (app.client? chatId (.account s)).isSome := by
  have hagrees : ∀ o' : SearchOutcomes, o'.AgreesOn o slot.slotId →
      app.Resolves chatId o' slot.slotId = true := by
    intro o' h
    rwa [Resolves, h.connectError, ← Resolves]
  constructor
  · intro hsame
    by_contra hcond
    rw [not_or] at hcond
    obtain ⟨hblank, hcached⟩ := hcond
    rw [Bool.not_eq_true] at hblank
    push Not at hcached
    obtain ⟨s, hs, hne, huncached⟩ := hcached
    -- in one run the other slot cannot be connected, in the other all can
    let failing : SearchOutcomes :=
      ⟨fun t => if t = slot.slotId then o.connectError t else some "", o.search⟩
    let working : SearchOutcomes :=
      ⟨fun t => if t = slot.slotId then o.connectError t else none, o.search⟩
    have hfailing : failing.AgreesOn o slot.slotId := ⟨if_pos rfl, rfl⟩
    have hworking : working.AgreesOn o slot.slotId := ⟨if_pos rfl, rfl⟩
    have hfails : app.Resolves chatId failing s = false := by
      simp [Resolves, failing, hne, huncached]
    have hworks : ∀ t ∈ account.accounts, app.Resolves chatId working t = true := by
      intro t ht
      by_cases heq : t = slot.slotId
      · rw [heq]
        exact hagrees working hworking
      · simp [Resolves, working, heq]
    obtain ⟨e, herror⟩ := report_connectionError (some tid) haccount hblank hs hfails
    have hreport := report_topic haccount hblank hworks htopic hslot
    have heq := (hsame failing hfailing).trans (hsame working hworking).symm
    rw [herror, hreport] at heq
    exact connectionError_ne_report heq
  · rintro (hblank | hcached) o' ho'
    · rw [report_usage hblank, report_usage hblank]
    · by_cases hblank : (Str.trim query).isEmpty = true
      · rw [report_usage hblank, report_usage hblank]
      · rw [Bool.not_eq_true] at hblank
        have hall : ∀ o' : SearchOutcomes, o'.AgreesOn o slot.slotId →
            ∀ s ∈ account.accounts, app.Resolves chatId o' s = true := by
          intro o' ho' s hs
          by_cases heq : s = slot.slotId
          · rw [heq]
            exact hagrees o' ho'
          · rw [Resolves, hcached s hs heq, Bool.true_or]
        rw [report_topic haccount hblank (hall o' ho') htopic hslot,
          report_topic haccount hblank (hall o ⟨rfl, rfl⟩) htopic hslot]
        exact ho'.report_eq _ slot rfl

end

/-- **Which searches an unreachable account hides the hits of.** -/
theorem reports_iff (app : AppState) (chatId : ChatId) (account : Account) (query : String)
    (haccount : app.data.accounts[chatId]? = some account) :
    (∀ o : SearchOutcomes,
        (app.cmdRechercher chatId o none query).2.hits = app.reachableHits chatId o account ↔
          (Str.trim query).isEmpty = false ∧
              (∀ s ∈ account.accounts, app.Resolves chatId o s = true) ∨
            app.reachableHits chatId o account = []) ∧
      ∀ (o : SearchOutcomes) (tid : ThreadId) (slot : AccountSlot),
        account.topicSlot tid = some slot → slot.slotId ∈ account.accounts →
        app.Resolves chatId o slot.slotId = true →
        ((∀ o' : SearchOutcomes, o'.AgreesOn o slot.slotId →
            (app.cmdRechercher chatId o' (some tid) query).2 =
              (app.cmdRechercher chatId o (some tid) query).2) ↔
          (Str.trim query).isEmpty = true ∨
            ∀ s ∈ account.accounts, s ≠ slot.slotId →
              (app.client? chatId (.account s)).isSome) :=
  ⟨fun o => hits_root_iff app chatId account query haccount o,
    fun _ _ _ htopic hslot hresolves => report_topic_iff haccount htopic hslot hresolves⟩

end AppState

/-! ### A chat with an unreachable account -/

/-- Two accounts on two servers. -/
def twoServerAccount : Account := { Account.empty with
  accounts := ((∅ : Map String AccountSlot).insert "default" sampleSlot).insert "k3x9d0qa"
    { otherSlot with slotId := "k3x9d0qa" } }

/-- A chat with both, before a client is cached. -/
def twoServerChat : AppState := .new ⟨(∅ : Map ChatId Account).insert 1 twoServerAccount⟩

/-- The second server is down, and the first has a hit. -/
def halfReachable : SearchOutcomes where
  connectError slotId := if slotId = "k3x9d0qa" then some "connection refused" else none
  search slotId :=
    if slotId = "default" then .ok [⟨"M1", "Invoice", none, none, "", none, []⟩] else .ok []

theorem account_twoServerChat :
    twoServerChat.data.accounts[(1 : ChatId)]? = some twoServerAccount :=
  Std.ExtTreeMap.getElem?_insert_self

/-- The hit of the account that answers is not reported. -/
theorem not_forall_reports :
    ¬∀ (app : AppState) (chatId : ChatId) (account : Account) (query : String),
      app.data.accounts[chatId]? = some account → (Str.trim query).isEmpty = false →
      (∀ o : SearchOutcomes,
        (app.cmdRechercher chatId o none query).2.hits = app.reachableHits chatId o account) ∧
      ∀ (o o' : SearchOutcomes) (tid : ThreadId) (slot : AccountSlot),
        account.topicSlot tid = some slot → slot.slotId ∈ account.accounts →
        app.Resolves chatId o slot.slotId = true → o'.AgreesOn o slot.slotId →
        (app.cmdRechercher chatId o' (some tid) query).2 =
          (app.cmdRechercher chatId o (some tid) query).2 := by
  intro hall
  have hhits := (hall twoServerChat 1 twoServerAccount "invoice" account_twoServerChat
    (by decide)).1 halfReachable
  obtain ⟨-, hresolves⟩ | hnone := (AppState.hits_root_iff twoServerChat 1 twoServerAccount
    "invoice" account_twoServerChat halfReachable).mp hhits
  · exact absurd (hresolves "k3x9d0qa" (by decide)) (by decide)
  · have hsome :
        (twoServerChat.reachableHits 1 halfReachable twoServerAccount).isEmpty = false := by decide
    simp [hnone] at hsome

/-- The main result for the two accounts. -/
theorem reports_iff_twoServerChat :
    (∀ o : SearchOutcomes,
        (twoServerChat.cmdRechercher 1 o none "invoice").2.hits =
            twoServerChat.reachableHits 1 o twoServerAccount ↔
          (Str.trim "invoice").isEmpty = false ∧
              (∀ s ∈ twoServerAccount.accounts, twoServerChat.Resolves 1 o s = true) ∨
            twoServerChat.reachableHits 1 o twoServerAccount = []) ∧
      ∀ (o : SearchOutcomes) (tid : ThreadId) (slot : AccountSlot),
        twoServerAccount.topicSlot tid = some slot → slot.slotId ∈ twoServerAccount.accounts →
        twoServerChat.Resolves 1 o slot.slotId = true →
        ((∀ o' : SearchOutcomes, o'.AgreesOn o slot.slotId →
            (twoServerChat.cmdRechercher 1 o' (some tid) "invoice").2 =
              (twoServerChat.cmdRechercher 1 o (some tid) "invoice").2) ↔
          (Str.trim "invoice").isEmpty = true ∨
            ∀ s ∈ twoServerAccount.accounts, s ≠ slot.slotId →
              (twoServerChat.client? 1 (.account s)).isSome) :=
  AppState.reports_iff twoServerChat 1 twoServerAccount "invoice" account_twoServerChat

end Jmap2Telegram
