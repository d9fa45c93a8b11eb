import Mathlib.Data.List.Nodup
import Jmap2Telegram.Resume.Tasks
import Jmap2Telegram.State.Records
import Jmap2Telegram.Store.Erasure

/-!
# What boot resumes

`persisted_targets` skips a shared account whose parent slot it cannot find. In a valid record there
is none, so boot resumes every mailbox of the store once, with the credentials of the slot it
belongs to.

* `Account.Valid.resumesAll`: a valid record is resumed in full.
* `valid_and_resumesAll`: every record of every reachable store is valid, and so resumed in full.
-/

namespace Jmap2Telegram

open Transition

/-- What boot resumes of a record: every slot with its own credentials, every shared account with
those of the slot it names as its parent, each of them once, and nothing else. -/
structure Account.ResumesAll (account : Account) : Prop where
  mailboxes : ((persistedTargets account).map ResumeTarget.mailbox).Perm
    (account.accounts.keys.map .account ++ account.sharedAccounts.keys.map .shared)
  once : ((persistedTargets account).map ResumeTarget.mailbox).Nodup
  slots : ∀ (s : String) (slot : AccountSlot), account.accounts[s]? = some slot →
    ⟨.account s slot.email, slot.serverUrl, slot.token⟩ ∈ persistedTargets account
  shared : ∀ (a : String) (shared : SharedAccount), account.sharedAccounts[a]? = some shared →
    ∃ p slot, shared.parentSlot = some p ∧ account.accounts[p]? = some slot ∧
      ⟨.shared a shared.name, slot.serverUrl, slot.token⟩ ∈ persistedTargets account

section

variable {account : Account}

/-- The parent slot of a shared account of a valid record is found. -/
theorem Account.Valid.exists_parent (h : account.Valid) {a : String} {shared : SharedAccount}
    (ha : account.sharedAccounts[a]? = some shared) :
    ∃ p slot, shared.parentSlot = some p ∧ account.accounts[p]? = some slot ∧
      account.resolveParentSlot shared = some slot := by
  obtain ⟨p, hp, hparent⟩ := h.parents ha
  obtain ⟨slot, hslot⟩ := Map.mem_iff_exists.mp hp
  exact ⟨p, slot, hparent, hslot, by rw [Account.resolveParentSlot, hparent]; exact hslot⟩

/-- No shared account of a valid record is skipped. -/
theorem Account.Valid.map_mailbox (h : account.Valid) :
    (persistedTargets account).map ResumeTarget.mailbox =
      account.accounts.keys.map .account ++ account.sharedAccounts.keys.map .shared := by
  have hshared : ∀ entry ∈ account.sharedAccounts.toList,
      ((account.resolveParentSlot entry.2).map fun slot : AccountSlot =>
        (⟨.shared entry.1 entry.2.name, slot.serverUrl, slot.token⟩ : ResumeTarget)).map
          ResumeTarget.mailbox = some (.shared entry.1) := by
    intro entry hentry
    obtain ⟨p, slot, -, -, hslot⟩ :=
      h.exists_parent (Std.ExtTreeMap.mem_toList_iff_getElem?_eq_some.mp hentry)
    rw [hslot]
    rfl
  rw [persistedTargets, List.map_append, List.map_map, List.map_filterMap,
    List.filterMap_congr hshared, ← Std.ExtTreeMap.map_fst_toList_eq_keys,
    ← Std.ExtTreeMap.map_fst_toList_eq_keys, List.map_map, List.map_map]
  congr 1
  rw [List.filterMap_eq_map']
  rfl

/-- The keys of a map are different, and so are the mailboxes they name. -/
theorem nodup_mailboxes : (account.accounts.keys.map Mailbox.account ++
    account.sharedAccounts.keys.map Mailbox.shared).Nodup := by
  refine List.Nodup.append ?_ ?_ ?_
  · exact Std.ExtTreeMap.nodup_keys.map fun s s' h => Mailbox.account.inj h
  · exact Std.ExtTreeMap.nodup_keys.map fun a a' h => Mailbox.shared.inj h
  · intro m hm hm'
    obtain ⟨s, -, rfl⟩ := List.mem_map.mp hm
    obtain ⟨a, -, ha⟩ := List.mem_map.mp hm'
    cases ha

/-- **A valid record is resumed in full.** -/
theorem Account.Valid.resumesAll (h : account.Valid) : account.ResumesAll where
  mailboxes := by rw [h.map_mailbox]
  once := by
    rw [h.map_mailbox]
    exact nodup_mailboxes
  slots s slot hs := by
    rw [persistedTargets, List.mem_append]
    exact .inl (List.mem_map.mpr
      ⟨(s, slot), Std.ExtTreeMap.mem_toList_iff_getElem?_eq_some.mpr hs, rfl⟩)
  shared a shared ha := by
    obtain ⟨p, slot, hparent, hslot, hresolve⟩ := h.exists_parent ha
    refine ⟨p, slot, hparent, hslot, ?_⟩
    rw [persistedTargets, List.mem_append]
    refine .inr (List.mem_filterMap.mpr
      ⟨(a, shared), Std.ExtTreeMap.mem_toList_iff_getElem?_eq_some.mpr ha, ?_⟩)
    dsimp only
    rw [hresolve, Option.map_some]

end

/-! ### Reachable stores -/

section

variable {lib : Externals} {key : Key} {stateEnc : Option (List UInt8)}

/-- Every call of the run is made the way the handlers make it. -/
def HandledRun (x : StoreRun lib key ⟨.empty, stateEnc⟩) : Prop :=
  ∀ k (hk : k < x.events.length), x.events[k].op.Handled (x.state k).data

/-- A run keeps every record valid, whether its writes succeed or not. -/
theorem valid_state {x : StoreRun lib key ⟨.empty, stateEnc⟩} (hx : HandledRun x) {k : ℕ}
    (hk : k ≤ x.events.length) : (x.state k).data.Valid := by
  refine x.induction (fun _ s => s.data.Valid) StoreData.valid_empty (fun k hk h hstep => ?_) hk
  rw [Store.step, Option.some.injEq] at hstep
  rw [← hstep, Store.data_exec]
  exact h.apply (hx k hk)

/-- **Every record of every reachable store is valid and resumed in full.** -/
theorem valid_and_resumesAll {x : StoreRun lib key ⟨.empty, stateEnc⟩} (hx : HandledRun x) {k : ℕ}
    (hk : k ≤ x.events.length) {c : ChatId} {account : Account}
    (hc : (x.state k).data.accounts[c]? = some account) :
    account.Valid ∧ account.ResumesAll :=
  have hvalid := valid_state hx hk c account hc
  ⟨hvalid, hvalid.resumesAll⟩

end

/-- `/login`, and a shared account turned on under the slot, whose write fails. -/
def toggledRun : StoreRun Externals.concrete sampleKey ⟨.empty, none⟩ where
  events := [
    ⟨.addAccount 1 sampleSlot sampleSlotId, .written sampleNonce⟩,
    ⟨.setSharedAccount 1 "team" "Team" (some "s1") (some "default"), .failed⟩]
  enabled := rfl

/-- The record the two calls leave. -/
def toggledAccount : Account :=
  { Account.empty with
    accounts := (∅ : Map String AccountSlot).insert "default" sampleSlot
    sharedAccounts := (∅ : Map String SharedAccount).insert "team"
      ⟨"Team", some "s1", some "default", none⟩ }

/-- The main result after the second call. -/
theorem valid_and_resumesAll_toggledRun : toggledAccount.Valid ∧ toggledAccount.ResumesAll := by
  have hhandled : HandledRun toggledRun := fun k hk =>
    match k, hk with
    | 0, _ => .inr (.inl ⟨by decide, rfl⟩)
    | 1, _ => ⟨"default", rfl, by decide⟩
  have hc : (toggledRun.state 2).data.accounts[(1 : ChatId)]? = some toggledAccount := by decide
  exact valid_and_resumesAll hhandled (le_refl 2) hc

end Jmap2Telegram
