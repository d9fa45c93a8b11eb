import Jmap2Telegram.State.Contents
import Jmap2Telegram.Store.Interleave

/-!
# Writes that come late

Watchers, topic creation and handlers may write to a chat by its id after the chat was erased.
Only `set` and `add_account` store a record for a chat that has none; every other operation edits
the record it finds. `GrowsBy` says what that means for the data: each record was there, and holds
nothing that was not there but the mailbox the call puts.

* `growsBy_lockedSection`: the section of a call that does not connect.
* `Kept`: what a run of such calls does to the data, and `kept_state`, by induction along the run.
* `late_writes`: in every interleaving an erased chat stays erased, and every mailbox that appears
  was put into a chat that had a record.
-/

namespace Jmap2Telegram

open Transition

/-- A mailbox is in a chat's record. -/
def Account.Has (account : Account) : Mailbox → Prop
  | .account slotId => slotId ∈ account.accounts
  | .shared accountId => accountId ∈ account.sharedAccounts

/-- The mailbox a call puts into a chat's record, whatever was in it. -/
def Op.Puts : Op → ChatId → Mailbox → Prop
  | .addExtraAccount chatId account generated, c, mailbox =>
    chatId = c ∧ mailbox = .account (Store.slotIdFor account generated)
  | .setSharedAccount chatId accountId _ _ _, c, mailbox =>
    chatId = c ∧ mailbox = .shared accountId
  | _, _, _ => False

namespace StoreData

/-- Every record of `data'` is one of `data`, edited, and has no mailbox that was not put. -/
def GrowsBy (puts : ChatId → Mailbox → Prop) (data data' : StoreData) : Prop :=
  ∀ c account', data'.accounts[c]? = some account' → ∃ account, data.accounts[c]? = some account ∧
    ∀ mailbox, account'.Has mailbox → account.Has mailbox ∨ puts c mailbox

variable {puts : ChatId → Mailbox → Prop} {data data' : StoreData} {chatId c : ChatId}
  {mailbox : Mailbox}

/-- What the store holds, by the record. -/
theorem holds_iff :
    data.Holds c mailbox ↔ ∃ account, data.accounts[c]? = some account ∧ account.Has mailbox := by
  cases mailbox with
  | account slotId =>
    simp only [Holds, slot?, Account.Has, Option.isSome_bind, Option.any_eq_true,
      Std.ExtTreeMap.isSome_getElem?_iff_mem]
  | shared accountId =>
    simp only [Holds, shared?, Account.Has, Option.isSome_bind, Option.any_eq_true,
      Std.ExtTreeMap.isSome_getElem?_iff_mem]

namespace GrowsBy

theorem refl : GrowsBy puts data data := fun _ account h => ⟨account, h, fun _ => .inl⟩

/-- A chat without a record gets none. -/
theorem not_mem (h : GrowsBy puts data data') (hc : c ∉ data.accounts) : c ∉ data'.accounts := by
  intro hmem
  obtain ⟨account', haccount'⟩ := Option.isSome_iff_exists.mp
    (Std.ExtTreeMap.isSome_getElem?_iff_mem.mpr hmem)
  obtain ⟨account, haccount, -⟩ := h c account' haccount'
  exact hc (Map.mem_of_getElem? haccount)

/-- A mailbox that is there was there, or was put into a record that was. -/
theorem holds (h : GrowsBy puts data data') (hholds : data'.Holds c mailbox) :
    data.Holds c mailbox ∨ puts c mailbox ∧ c ∈ data.accounts := by
  obtain ⟨account', haccount', hmailbox⟩ := holds_iff.mp hholds
  obtain ⟨account, haccount, hkeeps⟩ := h c account' haccount'
  rcases hkeeps mailbox hmailbox with hbefore | hput
  · exact .inl (holds_iff.mpr ⟨account, haccount, hbefore⟩)
  · exact .inr ⟨hput, Map.mem_of_getElem? haccount⟩

/-- A record edited in place. -/
theorem modify {f : Account → Account}
    (hf : ∀ account mailbox, (f account).Has mailbox → account.Has mailbox ∨ puts chatId mailbox) :
    GrowsBy puts data (data.modify chatId f) := by
  intro c account' h
  rw [getElem?_modify] at h
  split at h
  case isTrue hc =>
    subst hc
    obtain ⟨account, haccount, rfl⟩ := Option.map_eq_some_iff.mp h
    exact ⟨account, haccount, hf account⟩
  case isFalse => exact ⟨account', h, fun _ => .inl⟩

/-- A record taken away. -/
theorem erase : GrowsBy puts data (data.erase chatId) := by
  intro c account' h
  rw [StoreData.erase, Map.getElem?_erase] at h
  split at h
  · cases h
  · exact ⟨account', h, fun _ => .inl⟩

end GrowsBy

end StoreData

/-! ### One section -/

section

variable {account : Account} {slotId accountId : String} {mailbox : Mailbox}

/-- Editing a slot in place adds none. -/
theorem Account.has_modifySlot {f : AccountSlot → AccountSlot} :
    (account.modifySlot slotId f).Has mailbox ↔ account.Has mailbox := by
  cases mailbox with
  | account s => exact Std.ExtTreeMap.mem_modify
  | shared a => exact Iff.rfl

/-- A change of a shared account adds no mailbox and removes none. -/
theorem Account.has_modifyShared {f : SharedAccount → SharedAccount} :
    (account.modifyShared accountId f).Has mailbox ↔ account.Has mailbox := by
  cases mailbox with
  | account s => exact Iff.rfl
  | shared a => exact Std.ExtTreeMap.mem_modify

theorem Account.has_modifyPrimarySlot {f : AccountSlot → AccountSlot} :
    (account.modifyPrimarySlot f).Has mailbox ↔ account.Has mailbox := by
  rw [modifyPrimarySlot]
  split
  case h_1 => exact has_modifySlot
  case h_2 => exact Iff.rfl

/-- A record that differs in neither its slots nor its shared accounts. -/
theorem Account.has_congr {account' : Account} (haccounts : account'.accounts = account.accounts)
    (hshared : account'.sharedAccounts = account.sharedAccounts) :
    account'.Has mailbox ↔ account.Has mailbox := by
  cases mailbox <;> simp only [Has, haccounts, hshared]

/-- What is left without a slot was there with it. -/
theorem Account.has_of_withoutSlot (h : (StoreData.withoutSlot account slotId).Has mailbox) :
    account.Has mailbox := by
  cases mailbox with
  | account s => exact Std.ExtTreeMap.mem_of_mem_erase h
  | shared a => exact Std.ExtTreeMap.mem_of_mem_filter h

end

private theorem mem_of_mem_insert {α : Type} {m : Map String α} {k k' : String} {v : α}
    (h : k' ∈ m.insert k v) : k = k' ∨ k' ∈ m := by
  rwa [Std.ExtTreeMap.mem_insert, Std.LawfulEqOrd.compare_eq_iff_eq] at h

/-- The section of a call that does not connect edits a record that is there, or takes it away. -/
theorem growsBy_lockedSection (lib : Externals) {op : Op} (hop : op.connects = false)
    (data : StoreData) : data.GrowsBy op.Puts (op.lockedSection lib data).1 := by
  have hsection := sectionEdit lib op data
  generalize op.lockedSection lib data = result at hsection ⊢
  cases hsection with
  | same => exact .refl
  | set | addAccount => cases hop
  | removeAccount chatId slotId =>
    rw [Store.removeAccount]
    split
    case h_2 => exact .refl
    case h_1 account haccount =>
      split
      case isFalse => exact .refl
      case isTrue =>
        have hedit := StoreData.modify_eq_insert haccount (StoreData.withoutSlot · slotId)
        refine (congrArg (data.GrowsBy _) hedit).mp ?_
        exact .modify fun _ _ h => .inl (Account.has_of_withoutSlot h)
  | remove chatId =>
    rw [Store.remove]
    split
    · exact .erase
    · exact .refl
  | edited _ f r hedit =>
    refine .modify fun account mailbox h => ?_
    cases hedit with
    -- these edit a field that is no mailbox, or what is there
    | setThreadsEnabled | setLanguage | mute | unmute =>
      exact .inl ((Account.has_congr rfl rfl).mp h)
    | updateState => exact .inl (Account.has_modifyPrimarySlot.mp h)
    | updateAccountState | setAccountThreadId => exact .inl (Account.has_modifySlot.mp h)
    | setSharedAccountThreadId | updateSharedAccountState =>
      exact .inl (Account.has_modifyShared.mp h)
    | removeSharedAccount chatId accountId =>
      cases mailbox with
      | account s => exact .inl h
      | shared a => exact .inl (Std.ExtTreeMap.mem_of_mem_erase h)
    -- and these two put a mailbox
    | setSharedAccount chatId accountId name lastState parentSlot =>
      cases mailbox with
      | account s => exact .inl h
      | shared a =>
        rcases mem_of_mem_insert h with rfl | h
        · exact .inr ⟨rfl, rfl⟩
        · exact .inl h
    | addExtraAccount chatId slot generated =>
      cases mailbox with
      | shared a => exact .inl h
      | account s =>
        rcases mem_of_mem_insert h with rfl | h
        · exact .inr ⟨rfl, rfl⟩
        · exact .inl h

/-! ### A run -/

/-- The calls that are still to run do not connect. -/
def World.NoneConnects (w : World) : Prop :=
  ∀ (i : ℕ) (op : Op), w.calls[i]? = some (.pending op) → op.connects = false

/-- Calls that do not connect, before they run. -/
theorem noneConnects_init {ops : List Op} (hops : ∀ op ∈ ops, op.connects = false)
    (data : StoreData) (disk : Disk) : (World.init data disk ops).NoneConnects := by
  intro i op hi
  simp only [World.init, List.getElem?_map, Option.map_eq_some_iff, Pc.pending.injEq] at hi
  obtain ⟨op', hop', rfl⟩ := hi
  exact hops _ (List.mem_of_getElem? hop')

section

variable {lib : Externals} {key : Key} {w w' : World} {i : ℕ} {action : Action}

/-- No step makes a call connect. -/
theorem World.NoneConnects.step (hw : w.NoneConnects)
    (h : World.StepEffect lib key w i action w') : w'.NoneConnects :=
  fun j op hj => hw j op (h.pending_of hj)

/-- A step leaves the data, takes a record away, or is the first section of a call. -/
theorem World.StepEffect.growsBy (hw : w.NoneConnects)
    (h : World.StepEffect lib key w i action w') :
    w.data.GrowsBy (fun c mailbox => ∃ op, w.calls[i]? = some (.pending op) ∧ op.Puts c mailbox)
      w'.data := by
  cases h with
  | @lockedSection op data next hpc hsection =>
    have hgrows := growsBy_lockedSection lib (hw i op hpc) w.data
    rw [hsection] at hgrows
    intro c account' haccount'
    obtain ⟨account, haccount, hkeeps⟩ := hgrows c account' haccount'
    exact ⟨account, haccount, fun mailbox h => (hkeeps mailbox h).imp_right fun h => ⟨op, hpc, h⟩⟩
  | removeChat => exact .erase
  | lock | snapshot | create | write | sync | setPermissions | rename | syncDir | fail =>
    exact .refl

end

section

variable {lib : Externals} {key : Key} {start : World}
  (x : Execution (World.step lib key) start)

/-- The `j`-th step is the section of a call that puts the mailbox into the chat's record, which is
there at that moment. -/
def PutAt (j : ℕ) (c : ChatId) (mailbox : Mailbox) : Prop :=
  ∃ (hj : j < x.events.length) (op : Op),
    (x.state j).calls[x.events[j].call]? = some (.pending op) ∧ op.Puts c mailbox ∧
      c ∈ (x.state j).data.accounts

/-- What a run up to the moment `k` leaves: no record but for chats that had one, and no mailbox but
for those that were there and those put into a record since, each there from then on. -/
structure Kept (k : ℕ) : Prop where
  chats : ∀ c, c ∉ start.data.accounts → c ∉ (x.state k).data.accounts
  mailboxes : ∀ c mailbox, (x.state k).data.Holds c mailbox → ¬start.data.Holds c mailbox →
    ∃ j < k, PutAt x j c mailbox ∧ ∀ i, j < i → i ≤ k → (x.state i).data.Holds c mailbox

variable {x}

/-- So it is at every moment of a run. -/
theorem noneConnects_state (hstart : start.NoneConnects) {k : ℕ} (hk : k ≤ x.events.length) :
    (x.state k).NoneConnects :=
  x.induction (fun _ w => w.NoneConnects) hstart (fun _ _ ih h => ih.step (stepEffect h)) hk

/-- What the records keep, they keep for one more step. -/
theorem Kept.succ {k : ℕ} (hk : k < x.events.length) (hcalls : (x.state k).NoneConnects)
    (h : Kept x k) : Kept x (k + 1) := by
  have hgrows := (stepEffect (x.state_succ hk)).growsBy hcalls
  refine ⟨fun c hc => hgrows.not_mem (h.chats c hc), fun c mailbox hholds hstart => ?_⟩
  by_cases hbefore : (x.state k).data.Holds c mailbox
  -- it was there, and stays there
  · obtain ⟨j, hj, hput, hsince⟩ := h.mailboxes c mailbox hbefore hstart
    refine ⟨j, hj.trans k.lt_succ_self, hput, fun i hji hik => ?_⟩
    rcases Nat.le_succ_iff.mp hik with hik | rfl
    · exact hsince i hji hik
    · exact hholds
  -- it appears with this step
  · rcases hgrows.holds hholds with hholds' | ⟨⟨op, hpc, hputs⟩, hmem⟩
    · exact absurd hholds' hbefore
    · refine ⟨k, k.lt_succ_self, ⟨hk, op, hpc, hputs, hmem⟩, fun i hki hik => ?_⟩
      rwa [Nat.le_antisymm hik hki]

/-- So they keep it along the run. -/
theorem kept_state (hstart : start.NoneConnects) {k : ℕ} (hk : k ≤ x.events.length) :
    Kept x k := by
  induction k with
  | zero =>
    refine ⟨fun c hc => by rwa [x.state_zero], fun c mailbox hholds hnot => absurd ?_ hnot⟩
    rwa [x.state_zero] at hholds
  | succ k ih =>
    have hk' : k ≤ x.events.length := Nat.le_of_succ_le hk
    exact (ih hk').succ hk (noneConnects_state hstart hk')

end

/-- **Main result.** Whatever the store holds, and however the sections of calls that do not connect
interleave with each other and with the removals among them: a chat without a record at the start
has none at any moment, and a mailbox that was not there at the start was put by
`set_shared_account` or `add_extra_account` into a chat that had a record at that moment, and is
there ever since. -/
theorem late_writes {lib : Externals} {key : Key} {data : StoreData} {disk : Disk} {ops : List Op}
    (hops : ∀ op ∈ ops, op.connects = false)
    (x : Execution (World.step lib key) (World.init data disk ops)) {k : ℕ}
    (hk : k ≤ x.events.length) : Kept x k :=
  kept_state (noneConnects_init hops data disk) hk

/-- Chat 1 is erased, and a slot is added to it afterwards. -/
def lateAdditionRun : Execution (World.step Externals.concrete sampleKey) (World.init oneSlotData
    ⟨none, none⟩ [.remove 1, .addExtraAccount 1 otherSlot sampleSlotId]) where
  events := [⟨0, .advance⟩, ⟨1, .advance⟩]
  enabled := rfl

/-- The main result at that run. -/
theorem kept_lateAdditionRun : Kept lateAdditionRun 2 :=
  late_writes (by simp [Op.connects]) lateAdditionRun (by decide)

end Jmap2Telegram
