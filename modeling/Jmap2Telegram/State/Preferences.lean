import Jmap2Telegram.State.Edits
import Jmap2Telegram.Store.Failure
import Jmap2Telegram.Watcher.Filters

/-!
# What a chat prefers

The record of a chat has the language the chat is served in, once it is chosen, and the filters of
the chat. Of the operations of the store only `set_language`, `mute` and `unmute` change them; the
others keep them or take the record away.

* `staysOrGoes_apply`: the other operations.
* `preferences?_apply_setLanguage`, `preferences?_apply_mute`, `preferences?_apply_unmute`: these.
* `preferences?_apply_addAccount`: connecting.
-/

namespace Jmap2Telegram

/-- A value that may be absent stays as it was, or goes. -/
def StaysOrGoes {α : Type*} (before after : Option α) : Prop := after = before ∨ after = none

section

variable {α : Type*} {x y z : Option α}

theorem StaysOrGoes.refl (x : Option α) : StaysOrGoes x x := .inl rfl

/-- What stays or goes twice stays or goes. -/
theorem StaysOrGoes.trans (h : StaysOrGoes x y) (h' : StaysOrGoes y z) : StaysOrGoes x z := by
  rcases h' with rfl | rfl
  · exact h
  · exact .inr rfl

theorem StaysOrGoes.map {β : Type*} (f : α → β) (h : StaysOrGoes x y) :
    StaysOrGoes (x.map f) (y.map f) := by
  rcases h with rfl | rfl
  · exact .inl rfl
  · exact .inr rfl

end

/-- The language in the record of a chat, if the chat has a record. -/
def StoreData.language? (data : StoreData) (chatId : ChatId) : Option (Option String) :=
  data.accounts[chatId]?.map Account.language

/-- The language and the filters in a record. -/
def Account.preferences (account : Account) : Option String × List String :=
  (account.language, account.muted)

/-- The language and the filters of a chat, if it has a record. -/
def StoreData.preferences? (data : StoreData) (chatId : ChatId) :
    Option (Option String × List String) :=
  data.accounts[chatId]?.map Account.preferences

/-- The filters when a term is muted. -/
def muted (filters : List String) (term : String) : List String :=
  if term ∈ filters then filters else filters ++ [term]

/-- The filters when a term is unmuted. -/
def unmuted (filters : List String) (term : String) : List String :=
  filters.filter fun m => m != term

section

variable {lib : Externals} {data : StoreData} {chatId c : ChatId} {op : Op}

/-- The operations that write no preference of a chat. -/
def Op.LeavesPreferences (c : ChatId) : Op → Prop
  | .set chatId _ | .addAccount chatId _ _ | .setLanguage chatId _ | .mute chatId _
  | .unmute chatId _ => chatId ≠ c
  | _ => True

/-- The language is one of the preferences. -/
theorem StoreData.language?_eq (data : StoreData) (c : ChatId) :
    data.language? c = (data.preferences? c).map Prod.fst := by
  rw [language?, preferences?, Option.map_map]
  rfl

theorem StoreData.filters_eq (data : StoreData) (c : ChatId) :
    data.filters c = ((data.preferences? c).map Prod.snd).getD [] := by
  rw [filters, preferences?, Option.map_map]
  rfl

theorem StoreData.preferences?_of_getElem? {data' : StoreData}
    (h : data'.accounts[c]? = data.accounts[c]?) : data'.preferences? c = data.preferences? c := by
  rw [preferences?, preferences?, h]

/-- Editing the record of a chat. -/
theorem StoreData.preferences?_modify {f : Account → Account}
    (hf : chatId = c → ∀ account, (f account).preferences = account.preferences) :
    (data.modify chatId f).preferences? c = data.preferences? c := by
  rw [preferences?, preferences?, getElem?_modify]
  split
  case isTrue heq =>
    rw [Option.map_map, show Account.preferences ∘ f = Account.preferences from funext (hf heq)]
  case isFalse => rfl

/-- A call that leaves the preferences leaves those of its own chat. -/
theorem Op.Edits.preferences {f : Account → Account} (h : op.Edits f)
    (hop : op.LeavesPreferences c) (hc : op.chatId = c) (account : Account) :
    (f account).preferences = account.preferences := by
  cases h with
  | setLanguage | mute | unmute => exact absurd hc hop
  | updateState chatId state =>
    unfold Account.modifyPrimarySlot
    dsimp only
    split <;> rfl
  | _ => rfl

/-- **The other operations** keep the preferences of a chat, or take its record away. -/
theorem staysOrGoes_apply (hop : op.LeavesPreferences c) :
    StaysOrGoes (data.preferences? c) ((op.apply lib data).preferences? c) := by
  by_cases hc : op.chatId = c
  case neg => exact .inl (StoreData.preferences?_of_getElem? (Op.apply_of_ne (Ne.symm hc)))
  have hsection := sectionEdit lib op data
  rw [Op.apply]
  generalize op.lockedSection lib data = result at hsection ⊢
  cases hsection with
  | same => exact .refl _
  | edited _ f r hedit =>
    exact .inl (StoreData.preferences?_modify fun _ => hedit.preferences hop hc)
  | set | addAccount => exact absurd hc hop
  | removeAccount chatId slotId =>
    change StaysOrGoes _ (((Op.removeAccount chatId slotId).apply lib data).preferences? c)
    obtain rfl : chatId = c := hc
    rw [StoreData.preferences?, StoreData.preferences?, StoreData.getElem?_removeAccount,
      if_pos rfl]
    cases data.accounts[chatId]? with
    | none => exact .refl _
    | some account =>
      rw [Option.bind_some]
      split_ifs
      · exact .inr rfl
      · exact .refl _
      · exact .refl _
  | remove chatId =>
    change StaysOrGoes _ (((Op.remove chatId).apply lib data).preferences? c)
    obtain rfl : chatId = c := hc
    rw [StoreData.preferences?, StoreData.preferences?, StoreData.getElem?_remove, if_pos rfl]
    exact .inr rfl

/-- Storing a language, in a record that is there. -/
theorem preferences?_apply_setLanguage {language : String} :
    ((Op.setLanguage chatId language).apply lib data).preferences? c =
      if chatId = c then (data.preferences? c).map fun p => (some language, p.2)
      else data.preferences? c := by
  split
  case isFalse hne => exact StoreData.preferences?_of_getElem? (Op.apply_of_ne (Ne.symm hne))
  case isTrue heq =>
    subst heq
    rw [Op.apply, Op.lockedSection, Store.setLanguage]
    cases haccount : data.accounts[chatId]? with
    | none => simp [StoreData.preferences?, haccount]
    | some account =>
      simp [StoreData.preferences?, StoreData.getElem?_modify, haccount, Account.preferences]

/-- Muting a term, in a record that is there. -/
theorem preferences?_apply_mute {term : String} :
    ((Op.mute chatId term).apply lib data).preferences? c =
      if chatId = c then (data.preferences? c).map fun p => (p.1, muted p.2 (muteTerm lib term))
      else data.preferences? c := by
  split
  case isFalse hne => exact StoreData.preferences?_of_getElem? (Op.apply_of_ne (Ne.symm hne))
  case isTrue heq =>
    subst heq
    rw [Op.apply, Op.lockedSection, Store.mute]
    cases haccount : data.accounts[chatId]? with
    | none => simp [StoreData.preferences?, haccount]
    | some account =>
      have hterm : lib.toLowercase (Str.trim term) = muteTerm lib term := rfl
      by_cases hmem : muteTerm lib term ∈ account.muted
      · simp [StoreData.preferences?, haccount, Account.preferences, muted, hterm, hmem]
      · simp [StoreData.preferences?, StoreData.getElem?_modify, haccount, Account.preferences,
          muted, hterm, hmem]

/-- Unmuting a term, in a record that is there. -/
theorem preferences?_apply_unmute {term : String} :
    ((Op.unmute chatId term).apply lib data).preferences? c =
      if chatId = c then (data.preferences? c).map fun p => (p.1, unmuted p.2 (muteTerm lib term))
      else data.preferences? c := by
  split
  case isFalse hne => exact StoreData.preferences?_of_getElem? (Op.apply_of_ne (Ne.symm hne))
  case isTrue heq =>
    subst heq
    rw [Op.apply, Op.lockedSection, Store.unmute]
    cases haccount : data.accounts[chatId]? with
    | none => simp [StoreData.preferences?, haccount]
    | some account =>
      have hterm : lib.toLowercase (Str.trim term) = muteTerm lib term := rfl
      simp only [hterm]
      by_cases hlength : (account.muted.filter fun m => m != muteTerm lib term).length =
          account.muted.length
      · have hsame := List.filter_sublist.eq_of_length hlength
        simp [StoreData.preferences?, haccount, Account.preferences, unmuted, hsame]
      · simp [StoreData.preferences?, StoreData.getElem?_modify, haccount, Account.preferences,
          unmuted, hlength]

/-- Connecting a slot, in a record without preferences if there was no record. -/
theorem preferences?_apply_addAccount {slot : AccountSlot} {generated : GeneratedSlotId} :
    ((Op.addAccount chatId slot generated).apply lib data).preferences? chatId =
      some ((data.preferences? chatId).getD (none, [])) := by
  rw [Op.apply, Op.lockedSection, Store.addAccount]
  simp only [StoreData.preferences?, Map.getElem?_insert]
  cases data.accounts[chatId]? <;> simp [Account.empty, Account.preferences]

end

end Jmap2Telegram
