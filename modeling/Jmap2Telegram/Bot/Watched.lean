import Jmap2Telegram.Bot.Commands

/-!
# Every mailbox of the store is watched

Which commands keep the store and the registries in agreement. Every command tears down and rebuilds
what it changes, with one exception: `/login` forgets the slot it is about to adopt again together
with the shared accounts under it, and adopts the slot only, so these shared accounts stay in the
store without a client, a watcher or a health entry.

* `synced_exec_iff`: a command keeps the agreement if and only if it `KeepsWatched`.
* `synced_throughout_iff`: so a run of commands does, after each of them.
-/

namespace Jmap2Telegram

namespace StoreData

variable {lib : Externals} {data : StoreData} {chatId c : ChatId} {m : Mailbox}
  {slotId accountId : String}

/-! ### The mailboxes after an operation -/

/-- `add_account` adds the mailbox of its slot. -/
theorem holds_addAccount {slot : AccountSlot} {generated : GeneratedSlotId} :
    ((Op.addAccount chatId slot generated).apply lib data).Holds c m ↔
      data.Holds c m ∨ chatId = c ∧ .account (Store.slotIdFor slot generated) = m := by
  cases m with
  | account s =>
    simp only [Holds, slot?_addAccount, Mailbox.account.injEq]
    split
    case isTrue h => simp [h]
    case isFalse h => exact (or_iff_left h).symm
  | shared a => simp [Holds, shared?_addAccount]

theorem holds_setLanguage {language : String} :
    ((Op.setLanguage chatId language).apply lib data).Holds c m ↔ data.Holds c m := by
  cases m with
  | account s => rw [Holds, Holds, slot?_setLanguage]
  | shared a => rw [Holds, Holds, shared?_setLanguage]

/-- `set_shared_account` adds the shared mailbox, if the chat has a record. -/
theorem holds_setSharedAccount {name : String} {lastState parentSlot : Option String}
    (h : (data.accounts[chatId]?).isSome) :
    ((Op.setSharedAccount chatId accountId name lastState parentSlot).apply lib data).Holds c m ↔
      data.Holds c m ∨ chatId = c ∧ .shared accountId = m := by
  cases m with
  | account s => simp [Holds, slot?_setSharedAccount]
  | shared a =>
    simp only [Holds, shared?_setSharedAccount h, Mailbox.shared.injEq]
    split
    case isTrue h => simp [h]
    case isFalse h => exact (or_iff_left h).symm

/-- `remove_shared_account` removes that mailbox and no other. -/
theorem holds_removeSharedAccount :
    ((Op.removeSharedAccount chatId accountId).apply lib data).Holds c m ↔
      data.Holds c m ∧ ¬(chatId = c ∧ .shared accountId = m) := by
  cases m with
  | account s => simp [Holds, slot?_removeSharedAccount]
  | shared a =>
    simp only [Holds, shared?_removeSharedAccount, Mailbox.shared.injEq]
    split
    case isTrue h => simp [h]
    case isFalse h => exact (and_iff_left h).symm

theorem holds_remove :
    ((Op.remove chatId).apply lib data).Holds c m ↔ data.Holds c m ∧ chatId ≠ c := by
  cases m with
  | account s =>
    simp only [Holds, slot?_remove]
    split
    case isTrue h => simp [h]
    case isFalse h => exact (and_iff_left h).symm
  | shared a =>
    simp only [Holds, shared?_remove]
    split
    case isTrue h => simp [h]
    case isFalse h => exact (and_iff_left h).symm

/-- `remove_account` removes the slot and what is under it. -/
theorem holds_removeAccount (hparents : data.ParentsConnected) :
    ((Op.removeAccount chatId slotId).apply lib data).Holds c m ↔
      data.Holds c m ∧ ¬(chatId = c ∧ data.Under chatId slotId m) := by
  cases m with
  | account s =>
    simp only [Holds, slot?_removeAccount, Under]
    split
    case isTrue h => simp [h]
    case isFalse h => exact (and_iff_left fun hc => h ⟨hc.1, hc.2.symm⟩).symm
  | shared a =>
    simp only [Holds, shared?_removeAccount hparents, Under]
    split
    case isTrue hc =>
      subst hc
      rw [mem_childIds]
      rcases data.shared? chatId a with - | shared
      · simp
      · simp only [Option.isSome_filter, Option.any_some, Option.isSome_some, Option.some.injEq,
          exists_eq_left', true_and, Bool.not_eq_true', Bool.not_eq_true]
    case isFalse hc => simp [hc]

/-- A command that stores a slot leaves the shared accounts under each slot. -/
theorem childIds_congr {data' : StoreData}
    (h : ∀ a, data'.shared? chatId a = data.shared? chatId a) {a : String} :
    a ∈ data'.childIds chatId slotId ↔ a ∈ data.childIds chatId slotId := by
  rw [mem_childIds, mem_childIds, h]

/-- A slot that is not connected has no shared accounts under it. -/
theorem childIds_eq_nil (hparents : data.ParentsConnected) (h : data.slot? chatId slotId = none) :
    data.childIds chatId slotId = [] := by
  refine List.eq_nil_iff_forall_not_mem.mpr fun a ha => ?_
  obtain ⟨shared, hshared, hchild⟩ := mem_childIds.mp ha
  obtain ⟨p, hp, hslot⟩ := hparents chatId a shared hshared
  have heq : p = slotId := by simpa [SharedAccount.isChildOf, hp] using hchild
  rw [heq, h] at hslot
  cases hslot

/-- No slot is called `"primary"`. -/
theorem WellFormed.slot?_primary (h : data.WellFormed) : data.slot? c "primary" = none := by
  by_contra hne
  rcases h.slotIds c "primary" (Option.isSome_iff_ne_none.mpr hne) with heq | hlen
  · exact absurd heq (by decide)
  · exact absurd hlen (by decide)

/-- No slot of a well-formed store is named `primary`. -/
theorem WellFormed.not_holds_primary (h : data.WellFormed) (c : ChatId) :
    ¬data.Holds c (.account "primary") := by
  rw [Holds, h.slot?_primary]
  exact Bool.false_ne_true

end StoreData

namespace AppState

variable {config : Config} {lib : Externals} {app : AppState} {chatId : ChatId}

/-- The slot a shared account is turned on under is in the store, with the credentials that are
used. -/
theorem slot?_of_parentFor (h : app.data.WellFormed) {account : Account}
    (haccount : app.data.accounts[chatId]? = some account) {parentSlot : Option String}
    {serverUrl token slotId : String}
    (hparent : parentFor account parentSlot = some (serverUrl, token, slotId)) :
    ∃ slot, app.data.slot? chatId slotId = some slot ∧ slot.serverUrl = serverUrl ∧
      slot.token = token := by
  cases parentSlot with
  | some s =>
    obtain ⟨slot, hslot, heq⟩ := Option.map_eq_some_iff.mp hparent
    cases heq
    exact ⟨slot, by rw [StoreData.slot?, haccount]; exact hslot, rfl, rfl⟩
  | none =>
    obtain ⟨slot, hslot, heq⟩ := Option.map_eq_some_iff.mp hparent
    cases heq
    -- the menu names no slot: the primary one, which is stored under its own id
    rw [Account.primarySlot_eq] at hslot
    obtain ⟨s, -, hs⟩ := Option.bind_eq_some_iff.mp hslot
    have hstored : app.data.slot? chatId s = some slot := by
      rw [StoreData.slot?, haccount]
      exact hs
    rw [h.keyed chatId s slot hstored]
    exact ⟨slot, hstored, rfl, rfl⟩

/-! ### The invariant of the store -/

theorem wellFormed_logoutAll (h : app.data.WellFormed) :
    (app.logoutAll lib chatId).data.WellFormed := h.remove

/-- A command keeps the invariant of the store. -/
theorem wellFormed_exec (h : app.data.WellFormed) (command : Command) :
    (app.exec config lib command).data.WellFormed := by
  cases command with
  | login chatId serverUrl token lang answers =>
    rw [exec, cmdLogin]
    refine wellFormed_adopt ?_
    rw [data_forgetAccount, data_call, data_call]
    refine StoreData.WellFormed.setLanguage (h.addAccount ?_)
    rw [slotIdFor_eq_savedSlotId]
    exact savedSlotId_cases chatId answers h
  | comptes chatId args answers =>
    rw [exec]
    obtain heq | ⟨serverUrl, token, heq⟩ := app.cmdComptes_cases config lib chatId args answers
    · rwa [heq]
    · rw [heq]
      refine wellFormed_adopt ?_
      rw [data_call]
      exact h.addAccount (.inr answers.generated.length_eq)
  | toggleSharedAccount chatId accountId parentSlot answers =>
    simp only [exec, toggleSharedAccount]
    split
    · exact h
    · split
      · exact StoreData.WellFormed.removeSharedAccount (by rwa [data_forgetShared])
      · split
        · exact h
        case _ account haccount _ _ serverUrl token slotId hparent =>
          -- the slot the account goes under is connected
          obtain ⟨slot, hslot, -⟩ := slot?_of_parentFor h haccount hparent
          exact wellFormed_adopt (h.setSharedAccount (by simp [hslot]))
  | disconnectAccount chatId slotId =>
    have hdata : (app.forgetAccount chatId slotId).data.WellFormed := by rwa [data_forgetAccount]
    exact hdata.removeAccount
  | logout chatId =>
    simp only [exec, cmdLogout]
    repeat' split
    all_goals first | exact h | exact wellFormed_logoutAll h
  | logoutAll chatId => exact wellFormed_logoutAll h

/-- A login adds the slot it is saved under. -/
theorem holds_cmdLogin {c : ChatId} {m : Mailbox} {serverUrl token lang : String}
    {answers : Answers} :
    (app.cmdLogin config lib chatId serverUrl token lang answers).data.Holds c m ↔
      app.data.Holds c m ∨ chatId = c ∧ .account (app.savedSlotId chatId answers) = m := by
  rw [cmdLogin, holds_adopt, data_forgetAccount, data_call, StoreData.holds_setLanguage,
    data_call, StoreData.holds_addAccount]
  rfl

/-! ### One command -/

/-- The commands that leave every mailbox of the store watched: a login must not be saved under a
slot that has shared accounts under it, and a disconnection must not name the slot `"primary"`,
which is no slot but shares its health key with `"default"`. -/
def KeepsWatched (app : AppState) : Command → Prop
  | .login chatId _ _ _ answers => app.data.childIds chatId (app.savedSlotId chatId answers) = []
  | .disconnectAccount chatId slotId =>
    slotId = "primary" → app.data.slot? chatId "default" = none
  | _ => True

section

variable (hwf : app.data.WellFormed) (h : app.Synced)
include hwf h

omit hwf in
/-- Connecting one more slot. -/
theorem Synced.addSlot {slot : AccountSlot} {generated : GeneratedSlotId} {client : Client}
    {created : Option ThreadId} :
    ((app.call lib (.addAccount chatId slot generated)).adopt config lib chatId
      (.account (Store.slotIdFor slot generated)) client created).Synced := by
  rw [synced_iff_tracks] at h ⊢
  refine ((h.withData _).adopt config lib chatId _ _ _).congr fun c m => ?_
  rw [holds_adopt, data_call, StoreData.holds_addAccount]

omit hwf in
theorem Synced.logoutAll : (app.logoutAll lib chatId).Synced := by
  rw [synced_iff_tracks] at h ⊢
  exact ((h.forget chatId).withData _).congr fun c m => StoreData.holds_remove.symm

/-- After a login the slot it is saved under is watched, and the shared accounts under it are
not. -/
theorem synced_cmdLogin_iff {serverUrl token lang : String} {answers : Answers} :
    (app.cmdLogin config lib chatId serverUrl token lang answers).Synced ↔
      app.data.childIds chatId (app.savedSlotId chatId answers) = [] := by
  rw [synced_iff_tracks] at h
  set s := app.savedSlotId chatId answers with hs
  have hslot : s ≠ "primary" := by
    rintro heq
    rcases savedSlotId_cases chatId answers hwf with hd | hlen
    · exact absurd (heq.symm.trans hd) (by decide)
    · rw [← hs, heq] at hlen
      exact absurd hlen (by decide)
  -- the shared accounts under the slot, before and after it is stored again
  have hunder : ∀ a, a ∈ (((app.call lib (.addAccount chatId ⟨app.loginSlot chatId answers.email,
      serverUrl, token, answers.email, some answers.state, none⟩ answers.generated)).call lib
      (.setLanguage chatId lang)).data.childIds chatId s) ↔ a ∈ app.data.childIds chatId s := by
    refine fun a => StoreData.childIds_congr fun a => ?_
    rw [data_call, StoreData.shared?_setLanguage, data_call, StoreData.shared?_addAccount]
  have htracks := ((h.withData ((app.call lib (.addAccount chatId ⟨app.loginSlot chatId
    answers.email, serverUrl, token, answers.email, some answers.state, none⟩
    answers.generated)).call lib (.setLanguage chatId lang)).data).forgetAccount chatId
    hwf.not_holds_primary hslot).adopt config lib chatId (.account s) ⟨serverUrl, token, none⟩
    answers.created
  have hholds : ∀ c m,
      (app.cmdLogin config lib chatId serverUrl token lang answers).data.Holds c m ↔
      app.data.Holds c m ∨ chatId = c ∧ .account s = m := fun c m => holds_cmdLogin
  rw [synced_iff_tracks]
  constructor
  · intro hafter
    refine List.eq_nil_iff_forall_not_mem.mpr fun a ha => ?_
    obtain ⟨shared, hshared, -⟩ := StoreData.mem_childIds.mp ha
    -- the shared account is in the store, and nothing watches it
    have hstored : app.data.Holds chatId (.shared a) := by
      rw [StoreData.Holds, hshared]
      rfl
    obtain ⟨-, hnot⟩ | ⟨-, heq⟩ := (htracks.unique hafter).mpr ((hholds _ _).mpr (.inl hstored))
    · exact hnot ⟨rfl, (hunder a).mpr ha⟩
    · cases heq
  · intro hnil
    refine htracks.congr fun c m => ?_
    rw [hholds]
    have hnone : ∀ a, a ∉ app.data.childIds chatId s := fun a ha => by
      rw [hnil] at ha
      cases ha
    constructor
    · rintro (⟨hm, -⟩ | hm)
      · exact .inl hm
      · exact .inr hm
    · rintro (hm | hm)
      · by_cases hunder' : chatId = c ∧ (.account s = m)
        · exact .inr hunder'
        · refine .inl ⟨hm, ?_⟩
          rintro ⟨hc, hu⟩
          cases m with
          | account s' => exact hunder' ⟨hc, congrArg Mailbox.account (Eq.symm hu)⟩
          | shared a => exact hnone a ((hunder a).mp hu)
      · exact .inr hm

/-- A toggle of a shared account keeps watchers and mailboxes together. -/
theorem synced_toggleSharedAccount {accountId : String} {parentSlot : Option String}
    {answers : Answers} :
    (app.toggleSharedAccount config lib chatId accountId parentSlot answers).Synced := by
  have htracks := synced_iff_tracks.mp h
  rw [toggleSharedAccount]
  split
  · exact h
  case _ account haccount =>
    split
    · rw [synced_iff_tracks]
      have hforget : (app.forgetMailbox chatId (.shared accountId)).Tracks _ :=
        htracks.forgetMailbox chatId hwf.not_holds_primary (by simp)
      refine (hforget.withData _).congr fun c m => ?_
      rw [data_call, data_forgetShared, StoreData.holds_removeSharedAccount]
    · split
      · exact h
      · rw [synced_iff_tracks]
        refine ((htracks.withData _).adopt config lib chatId _ _ _).congr fun c m => ?_
        rw [holds_adopt]
        exact (StoreData.holds_setSharedAccount (by simp [haccount])).symm

/-- A disconnect does, unless it is of a slot `primary` and there is a default slot. -/
theorem synced_disconnectAccount_iff {slotId : String} :
    (app.disconnectAccount lib chatId slotId).Synced ↔
      (slotId = "primary" → app.data.slot? chatId "default" = none) := by
  have htracks := synced_iff_tracks.mp h
  by_cases hprimary : slotId = "primary"
  · subst hprimary
    -- nothing is under the slot, and only the health entry it shares with `"default"` is at stake
    have hnil : app.data.childIds chatId "primary" = [] :=
      StoreData.childIds_eq_nil hwf.parents hwf.slot?_primary
    have heq : app.forgetAccount chatId "primary" =
        app.forgetMailbox chatId (.account "primary") := by
      rw [forgetAccount_eq, hnil, List.foldl_nil]
    have hholds : ∀ c m, (app.disconnectAccount lib chatId "primary").data.Holds c m ↔
        app.data.Holds c m := by
      intro c m
      rw [disconnectAccount, data_call, data_forgetAccount,
        StoreData.holds_removeAccount hwf.parents]
      refine and_iff_left_of_imp fun hm ⟨hc, hu⟩ => ?_
      cases m with
      | account s => exact hwf.not_holds_primary c (hu ▸ hm)
      | shared a =>
        rw [StoreData.Under, hnil] at hu
        cases hu
    rw [synced_iff_tracks]
    refine Iff.trans ?_ (forall_prop_of_true rfl).symm
    constructor
    · intro hafter
      by_contra hsome
      have hdefault : app.data.Holds chatId (.account "default") :=
        Option.isSome_iff_ne_none.mpr hsome
      have hmem := (hafter.health (accountHealthKey chatId "default")).mpr
        ⟨chatId, .account "default", (hholds _ _).mpr hdefault, rfl⟩
      rw [disconnectAccount, heq] at hmem
      change accountHealthKey chatId "default" ∈
        (app.forgetMailbox chatId (.account "primary")).health at hmem
      rw [forgetMailbox, health_removeWatcher, health_removeClient, Health.deregister,
        Std.ExtTreeMap.mem_erase] at hmem
      -- the slot `"default"` has lost its health entry
      exact hmem.1 (Std.LawfulEqOrd.compare_eq_iff_eq.mpr rfl)
    · intro hnone
      refine Tracks.congr ?_ fun c m => (hholds c m).symm
      rw [disconnectAccount, heq]
      refine (htracks.forgetMailbox_primary chatId hwf.not_holds_primary ?_).withData _
      rw [StoreData.Holds, hnone]
      exact Bool.false_ne_true
  -- any other slot is forgotten with what the store has under it
  · simp only [hprimary, false_implies, iff_true]
    rw [synced_iff_tracks]
    have hforget := htracks.forgetAccount chatId hwf.not_holds_primary hprimary
    refine (hforget.withData _).congr fun c m => ?_
    rw [disconnectAccount, data_call, data_forgetAccount]
    exact (StoreData.holds_removeAccount hwf.parents).symm

/-- **One command.** The agreement is kept by the commands that keep every mailbox watched, and
broken by the others. -/
theorem synced_exec_iff (command : Command) :
    (app.exec config lib command).Synced ↔ app.KeepsWatched command := by
  cases command with
  | login chatId serverUrl token lang answers => exact synced_cmdLogin_iff hwf h
  | comptes chatId args answers =>
    rw [exec]
    obtain heq | ⟨serverUrl, token, heq⟩ := app.cmdComptes_cases config lib chatId args answers
    · rw [heq]
      exact iff_of_true h trivial
    · rw [heq]
      exact iff_of_true h.addSlot trivial
  | toggleSharedAccount chatId accountId parentSlot answers =>
    exact iff_of_true (synced_toggleSharedAccount hwf h) trivial
  | disconnectAccount chatId slotId => exact synced_disconnectAccount_iff hwf h
  | logout chatId =>
    refine iff_of_true ?_ trivial
    rw [exec, cmdLogout]
    repeat' split
    all_goals first | exact h | exact h.logoutAll
  | logoutAll chatId => exact iff_of_true h.logoutAll trivial

end

/-! ### Runs of commands -/

theorem execAll_take_succ {commands : List Command} {k : ℕ} (hk : k < commands.length) :
    app.execAll config lib (commands.take (k + 1)) =
      (app.execAll config lib (commands.take k)).exec config lib commands[k] := by
  rw [execAll, execAll, List.take_succ_eq_append_getElem hk, List.foldl_concat]

/-- Every run of commands keeps the store well formed. -/
theorem wellFormed_execAll (h : app.data.WellFormed) (commands : List Command) :
    (app.execAll config lib commands).data.WellFormed := by
  induction commands generalizing app with
  | nil => exact h
  | cons command commands ih => exact ih (wellFormed_exec h command)

/-- The empty bot watches nothing and holds nothing. -/
theorem synced_new_empty : (new .empty).Synced := by
  rw [synced_iff_tracks]
  refine (tracks_new .empty).congr fun c m => ?_
  cases m <;> simp [StoreData.Holds, StoreData.slot?, StoreData.shared?, StoreData.empty, new]

end AppState

open AppState in
/-- **Every mailbox of the store is watched.** In a run of commands from the empty state, the store
and the registries agree after each command if and only if no login of the run is saved under a slot
that has shared accounts under it then, and no disconnection names `"primary"` while `"default"` is
connected. -/
theorem synced_throughout_iff (config : Config) (lib : Externals) (commands : List Command) :
    (∀ k ≤ commands.length, ((new .empty).execAll config lib (commands.take k)).Synced) ↔
      ∀ k (hk : k < commands.length),
        ((new .empty).execAll config lib (commands.take k)).KeepsWatched commands[k] := by
  have hwf : ∀ k, ((new .empty).execAll config lib (commands.take k)).data.WellFormed := fun k =>
    wellFormed_execAll StoreData.wellFormed_empty _
  constructor
  · intro h k hk
    have hnext := h (k + 1) hk
    rw [execAll_take_succ hk] at hnext
    exact (synced_exec_iff (hwf k) (h k hk.le) _).mp hnext
  · intro h k hk
    induction k with
    | zero => exact synced_new_empty
    | succ k ih =>
      rw [execAll_take_succ hk]
      exact (synced_exec_iff (hwf k) (ih (Nat.le_of_succ_le hk)) _).mpr (h k hk)

/-! ### Logging in again -/

def sampleConfig : Config := ⟨.auto, .parent⟩

def sampleAnswers : Answers := ⟨"a@b.c", "Team", "s0", sampleSlotId, none⟩

/-- Chat 1 connects an address. -/
def loginCommand : Command :=
  .login 1 "https://jmap.example.org/session" "s3cr3t-token" "en" sampleAnswers

/-- It turns a shared account on. -/
def enableCommand : Command := .toggleSharedAccount 1 "team" none sampleAnswers

/-- Logging in again with the address of a slot leaves the shared account under it unwatched. -/
theorem not_synced_reloginRun :
    ¬((AppState.new .empty).execAll sampleConfig Externals.concrete
      [loginCommand, enableCommand, loginCommand]).Synced := by
  intro h
  rw [AppState.execAll, List.foldl_cons, List.foldl_cons, List.foldl_cons, List.foldl_nil] at h
  have hfirst : ((AppState.new .empty).exec sampleConfig Externals.concrete loginCommand).Synced :=
    (AppState.synced_exec_iff StoreData.wellFormed_empty AppState.synced_new_empty _).mpr
      (show StoreData.childIds _ _ _ = [] by decide)
  have hfirst' : ((AppState.new .empty).exec sampleConfig Externals.concrete
      loginCommand).data.WellFormed := AppState.wellFormed_exec StoreData.wellFormed_empty _
  have hsecond : (((AppState.new .empty).exec sampleConfig Externals.concrete loginCommand).exec
      sampleConfig Externals.concrete enableCommand).Synced :=
    (AppState.synced_exec_iff hfirst' hfirst _).mpr trivial
  have hsecond' : (((AppState.new .empty).exec sampleConfig Externals.concrete loginCommand).exec
      sampleConfig Externals.concrete enableCommand).data.WellFormed :=
    AppState.wellFormed_exec hfirst' _
  have hlast := (AppState.synced_exec_iff hsecond' hsecond loginCommand).mp h
  exact absurd hlast (show StoreData.childIds _ _ _ ≠ [] by decide)

end Jmap2Telegram
