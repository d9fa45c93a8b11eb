import Jmap2Telegram.Watcher.News

/-!
# Searching an account

`search` (`jmap.rs`) makes two calls: an `Email/query` that sorts the messages with a text by date
of receipt, and an `Email/get` for the ids it returns. Only the first of them promises an order: the
answer to an `Email/get` is a list of objects in any order, without those that are gone by then.

* `SearchedAccount.Serves`: what a server promises about the two calls.
* `SearchServer.Sorted`: a search whose results are in the order of the query.
* `sorted_iff`: it is one when the server happens to list the objects in that order.
-/

namespace Jmap2Telegram

/-- `SEARCH_RESULT_LIMIT`. -/
def searchResultLimit : ℕ := 10

/-- An `Email/query` for the messages with a text, sorted by date of receipt. -/
structure EmailQuery where
  text : String
  descending : Bool
  limit : ℕ

/-- What a server answers to the calls of a search, if it does: the ids the query returns, and the
objects it lists for given ids, an object's id and its properties. -/
structure SearchServer where
  queryEmail : EmailQuery → Option (List String)
  getEmail : List String → Option (List (Option String × Email))

/-- The summary `search` makes of an object. -/
def EmailSummary.ofEmail (id : String) (email : Email) : EmailSummary where
  id := id
  subject := email.subject.getD ""
  fromName := (email.sender.bind List.head?).bind Prod.fst
  fromAddr := (email.sender.bind List.head?).map Prod.snd
  preview := email.preview.getD ""
  receivedAt := email.receivedAt
  attachments := (email.attachments.getD []).map fun a => (a.1.getD "", a.2)

/-- `search`; an error names the call that failed. -/
def SearchServer.search (server : SearchServer) (query : String) :
    Except String (List EmailSummary) :=
  match server.queryEmail ⟨query, true, searchResultLimit⟩ with
  | none => .error "Email/query"
  | some ids =>
    if ids.isEmpty then .ok []
    else
      match server.getEmail ids with
      | none => .error "Email/get (search)"
      | some list => .ok (list.filterMap fun object =>
          object.1.map fun id => .ofEmail id object.2)

/-! ### The server -/

/-- The messages of an account when the query is answered, and those that are left of them when the
objects are fetched. A message keeps its date of receipt. -/
structure SearchedAccount where
  messages : Map String Email
  found : Map String Email
  kept : ∀ (id : String) (email : Email), found[id]? = some email →
    messages[id]?.bind Email.receivedAt = email.receivedAt

namespace SearchedAccount

variable (account : SearchedAccount)

/-- The date of receipt of a message. -/
def receivedAt (id : String) : Option Int64 := account.messages[id]?.bind Email.receivedAt

/-- The objects of the given messages, without those that are gone. -/
def objects (ids : List String) : List (Option String × Email) :=
  ids.filterMap fun id => account.found[id]?.map fun email => (some id, email)

/-- The summaries of the given messages, without those that are gone. -/
def summaries (ids : List String) : List EmailSummary :=
  ids.filterMap fun id => account.found[id]?.map fun email => .ofEmail id email

/-- What a server promises: a query returns an id once, and sorted as asked; the objects of given
ids are listed in any order. -/
structure Serves (server : SearchServer) : Prop where
  nodup : ∀ query ids, server.queryEmail query = some ids → ids.Nodup
  sorted : ∀ query ids, server.queryEmail query = some ids → query.descending = true →
    ids.Pairwise fun id id' => ∀ t ∈ account.receivedAt id, ∀ t' ∈ account.receivedAt id', t' ≤ t
  lists : ∀ ids list, server.getEmail ids = some list → ids.Nodup → list.Perm (account.objects ids)

end SearchedAccount

/-- The results of a search are the messages that are found, in the order of the ids of the query
and each once; so they come newest first. -/
structure SearchServer.Sorted (server : SearchServer) (account : SearchedAccount) (query : String)
    (ids : List String) : Prop where
  result : server.search query = .ok (account.summaries ids)
  nodup : ((account.summaries ids).map EmailSummary.id).Nodup
  newestFirst : (account.summaries ids).Pairwise fun summary summary' =>
    ∀ t ∈ summary.receivedAt, ∀ t' ∈ summary'.receivedAt, t' ≤ t

variable {account : SearchedAccount} {server : SearchServer} {query : String} {ids : List String}
  {list : List (Option String × Email)}

namespace SearchedAccount

theorem mem_objects {object : Option String × Email} : object ∈ account.objects ids ↔
    ∃ id ∈ ids, account.found[id]? = some object.2 ∧ object.1 = some id := by
  simp only [objects, List.mem_filterMap, Option.map_eq_some_iff]
  refine exists_congr fun id => and_congr_right fun _ => ⟨?_, ?_⟩
  · rintro ⟨email, hfound, rfl⟩
    exact ⟨hfound, rfl⟩
  · rintro ⟨hfound, hid⟩
    exact ⟨object.2, hfound, by rw [← hid]⟩

/-- The summaries are made of the objects. -/
theorem filterMap_objects : (account.objects ids).filterMap (fun object =>
    object.1.map fun id => .ofEmail id object.2) = account.summaries ids := by
  rw [objects, summaries, List.filterMap_filterMap]
  refine List.filterMap_congr fun id _ => ?_
  rcases account.found[id]? with - | email <;> rfl

/-- The ids of the summaries are ids of the query, in their order. -/
theorem map_id_summaries : (account.summaries ids).map EmailSummary.id =
    ids.filter fun id => (account.found[id]?).isSome := by
  rw [summaries, List.map_filterMap, ← List.filterMap_eq_filter]
  refine List.filterMap_congr fun id _ => ?_
  rcases hfound : account.found[id]? with - | email
  · simp only [Option.guard, hfound, Option.map_none, Option.isSome_none, Bool.false_eq_true,
      if_false]
  · simp only [Option.guard, hfound, Option.map_some, Option.isSome_some, if_true,
      EmailSummary.ofEmail]

/-- What is in the summaries is in the query, and in no other order: each once, and newest first. -/
theorem Serves.pairwise_summaries (h : account.Serves server) {text : String}
    (hids : server.queryEmail ⟨text, true, searchResultLimit⟩ = some ids) :
    (account.summaries ids).Pairwise fun summary summary' =>
      ∀ t ∈ summary.receivedAt, ∀ t' ∈ summary'.receivedAt, t' ≤ t := by
  rw [summaries, List.pairwise_filterMap]
  refine (h.sorted _ ids hids rfl).imp fun hsorted summary hsummary summary' hsummary' => ?_
  obtain ⟨email, hemail, rfl⟩ := Option.map_eq_some_iff.mp hsummary
  obtain ⟨email', hemail', rfl⟩ := Option.map_eq_some_iff.mp hsummary'
  rw [receivedAt, receivedAt, account.kept _ email hemail, account.kept _ email' hemail'] at hsorted
  exact hsorted

/-- Objects of an account that have the same ids are the same. -/
theorem eq_objects_of_map_fst (hperm : list.Perm (account.objects ids))
    (hfst : list.map Prod.fst = (account.objects ids).map Prod.fst) :
    list = account.objects ids := by
  let rebuild (key : Option String) : Option (Option String × Email) :=
    key.bind fun id => account.found[id]?.map fun email => (key, email)
  have hrebuild : ∀ object ∈ account.objects ids, rebuild object.1 = some object := by
    rintro ⟨key, email⟩ hobject
    obtain ⟨id, -, hfound, rfl⟩ := mem_objects.mp hobject
    simp only [rebuild, Option.bind_some, hfound, Option.map_some]
  have hmap : ∀ objects : List (Option String × Email), (∀ o ∈ objects, o ∈ account.objects ids) →
      objects.map some = (objects.map Prod.fst).map rebuild := by
    intro objects hsub
    rw [List.map_map]
    exact List.map_congr_left fun object hobject => (hrebuild object (hsub object hobject)).symm
  refine List.map_injective_iff.mpr (fun _ _ => Option.some.inj) ?_
  rw [hmap list fun o ho => hperm.mem_iff.mp ho, hmap _ fun o ho => ho, hfst]

end SearchedAccount

namespace SearchServer

/-- What `search` returns when both calls are answered. -/
theorem search_eq (hserves : account.Serves server)
    (hids : server.queryEmail ⟨query, true, searchResultLimit⟩ = some ids)
    (hlist : server.getEmail ids = some list) : server.search query =
      .ok (list.filterMap fun object => object.1.map fun id => .ofEmail id object.2) := by
  rw [search, hids]
  rcases ids with - | ⟨id, ids⟩
  · -- no objects are fetched, and there would be none
    have hnil : list = [] := (hserves.lists [] list hlist .nil).eq_nil
    rw [hnil]
    rfl
  · simp only [List.isEmpty_cons, Bool.false_eq_true, if_false, hlist]

/-- The results are in the order of the query when the server lists the objects in that order. -/
theorem sorted_of_map_fst (hserves : account.Serves server)
    (hids : server.queryEmail ⟨query, true, searchResultLimit⟩ = some ids)
    (hlist : server.getEmail ids = some list)
    (hfst : list.map Prod.fst = (account.objects ids).map Prod.fst) :
    server.Sorted account query ids where
  result := by
    have hnodup : ids.Nodup := hserves.nodup _ ids hids
    rw [search_eq hserves hids hlist,
      SearchedAccount.eq_objects_of_map_fst (hserves.lists ids list hlist hnodup) hfst,
      SearchedAccount.filterMap_objects]
  nodup := by
    rw [SearchedAccount.map_id_summaries]
    exact (hserves.nodup _ ids hids).filter _
  newestFirst := hserves.pairwise_summaries hids

/-- Results in the order of the query were listed in that order. -/
theorem Sorted.map_fst (h : server.Sorted account query ids) (hserves : account.Serves server)
    (hids : server.queryEmail ⟨query, true, searchResultLimit⟩ = some ids)
    (hlist : server.getEmail ids = some list) :
    list.map Prod.fst = (account.objects ids).map Prod.fst := by
  have hperm : list.Perm (account.objects ids) :=
    hserves.lists ids list hlist (hserves.nodup _ ids hids)
  -- every object that is listed has an id, so its summary tells which
  have hsome : ∀ objects : List (Option String × Email), (∀ o ∈ objects, o ∈ account.objects ids) →
      objects.map Prod.fst = ((objects.filterMap fun object =>
        object.1.map fun id => EmailSummary.ofEmail id object.2).map fun s => some s.id) := by
    intro objects hsub
    rw [List.map_filterMap, ← List.filterMap_eq_map]
    refine List.filterMap_congr fun object hobject => ?_
    obtain ⟨id, -, -, hid⟩ := SearchedAccount.mem_objects.mp (hsub object hobject)
    rw [Function.comp_apply, hid]
    rfl
  have hresult : list.filterMap _ = account.summaries ids :=
    Except.ok.inj ((search_eq hserves hids hlist).symm.trans h.result)
  rw [hsome list fun o ho => hperm.mem_iff.mp ho, hsome _ fun o ho => ho, hresult,
    SearchedAccount.filterMap_objects]

/-- **Search results come newest first** exactly when the server lists the objects it was asked for
in the order it was asked for them. -/
theorem sorted_iff (hserves : account.Serves server)
    (hids : server.queryEmail ⟨query, true, searchResultLimit⟩ = some ids)
    (hlist : server.getEmail ids = some list) :
    server.Sorted account query ids ↔
      list.map Prod.fst = (account.objects ids).map Prod.fst :=
  ⟨fun h => h.map_fst hserves hids hlist, sorted_of_map_fst hserves hids hlist⟩

end SearchServer

/-! ### Two messages -/

private def bareEmail (receivedAt : Int64) : Email :=
  ⟨none, none, none, some receivedAt, none, [], []⟩

/-- An account with a newer and an older message. -/
private def twoMails : SearchedAccount where
  messages := ((∅ : Map String Email).insert "new" (bareEmail 2)).insert "old" (bareEmail 1)
  found := ((∅ : Map String Email).insert "new" (bareEmail 2)).insert "old" (bareEmail 1)
  kept id email h := by rw [h, Option.bind_some]

private theorem objects_twoMails : twoMails.objects ["new", "old"] =
    [(some "new", bareEmail 2), (some "old", bareEmail 1)] := by
  simp [SearchedAccount.objects, twoMails, Std.ExtTreeMap.getElem?_insert]

/-- A server that finds both messages, and lists them in the order it has them in. -/
private def twoMailsServer (list : List (Option String × Email)) : SearchServer where
  queryEmail _ := some ["new", "old"]
  getEmail ids := if ids = ["new", "old"] then some list else none

private theorem serves_twoMails {list : List (Option String × Email)}
    (hlist : list.Perm [(some "new", bareEmail 2), (some "old", bareEmail 1)]) :
    twoMails.Serves (twoMailsServer list) where
  nodup query ids h := by
    cases h
    decide
  sorted query ids h _ := by
    cases h
    simp [SearchedAccount.receivedAt, twoMails, Std.ExtTreeMap.getElem?_insert, bareEmail]
  lists ids list' h _ := by
    simp only [twoMailsServer] at h
    split at h
    case isTrue hids =>
      cases h
      rw [hids, objects_twoMails]
      exact hlist
    case isFalse => cases h

theorem sorted_iff_twoMails :
    (twoMailsServer [(some "new", bareEmail 2), (some "old", bareEmail 1)]).Sorted twoMails ""
      ["new", "old"] ↔ [some "new", some "old"] = (twoMails.objects ["new", "old"]).map Prod.fst :=
  SearchServer.sorted_iff (serves_twoMails (.refl _)) rfl rfl

/-- The older message comes first, when the server lists it first. -/
theorem not_forall_sorted : ¬∀ (account : SearchedAccount) (server : SearchServer) (query : String)
    (ids : List String) (list : List (Option String × Email)), account.Serves server →
      server.queryEmail ⟨query, true, searchResultLimit⟩ = some ids →
      server.getEmail ids = some list → server.Sorted account query ids := by
  intro h
  have hserves : twoMails.Serves (twoMailsServer [(some "old", bareEmail 1),
      (some "new", bareEmail 2)]) := serves_twoMails (.swap _ _ _)
  have horder := (h twoMails _ "" ["new", "old"] _ hserves rfl rfl).map_fst hserves rfl rfl
  rw [objects_twoMails] at horder
  exact absurd horder (by decide)

end Jmap2Telegram
