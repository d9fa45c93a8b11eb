import Jmap2Telegram.Store.Operations

/-!
# Erasure

`remove` promises that once it returns nothing about the chat remains on disk. It decides by memory
alone whether there is anything to write, so the promise rests on the memory and the file agreeing
about the chat. A removal whose `persist` failed leaves the record in the file only; the next
`remove` then finds nothing in memory, writes nothing, and returns `Ok(false)`.

* `erased_iff`: in a run, the promise holds exactly when no `remove` meets that disagreement.
* `erased_of_written`: in particular it holds in every run whose writes all succeed.
-/

namespace Jmap2Telegram

open Transition

variable {lib : Externals} {key : Key}

/-- A run of whole calls on one store. -/
abbrev StoreRun (lib : Externals) (key : Key) (start : StoreState) :=
  Execution (Store.step lib key) start

/-- The store as `Store::open` makes it from the file. -/
def StoreState.Opened (lib : Externals) (key : Key) (s : StoreState) : Prop :=
  Store.openState lib key s.stateEnc = some s.data

/-- Reopening the store brings a record of the chat back. -/
def StoreState.FileHolds (lib : Externals) (key : Key) (s : StoreState) (chatId : ChatId) : Prop :=
  ∃ data, Store.openState lib key s.stateEnc = some data ∧ chatId ∈ data.accounts

/-- Reopening the store succeeds and finds no record of the chat. -/
def StoreState.Forgot (lib : Externals) (key : Key) (s : StoreState) (chatId : ChatId) : Prop :=
  ∃ data, Store.openState lib key s.stateEnc = some data ∧ chatId ∉ data.accounts

section

variable {start : StoreState} (x : StoreRun lib key start)

/-- What `remove` promises over a run: from a `remove` that returned `Ok` on, as long as no call
connects the chat again, reopening the store finds no record of it. -/
def Erased : Prop :=
  ∀ (chatId : ChatId) (i : ℕ) (hi : i < x.events.length) (r : Ret),
    x.events[i].op = .remove chatId →
    (Store.exec lib key x.events[i] (x.state i)).2 = some r →
    ∀ j, i < j → j ≤ x.events.length →
      (∀ k (hk : k < x.events.length), i < k → k < j →
        x.events[k].op.connects = true → x.events[k].op.chatId ≠ chatId) →
      (x.state j).Forgot lib key chatId

/-- No `remove` meets a chat whose record is gone from memory but still in the file. -/
def RemovesInStep : Prop :=
  ∀ (chatId : ChatId) (i : ℕ) (hi : i < x.events.length), x.events[i].op = .remove chatId →
    ¬(chatId ∉ (x.state i).data.accounts ∧ (x.state i).FileHolds lib key chatId)

end

theorem StoreState.Forgot.not_fileHolds {s : StoreState} {chatId : ChatId}
    (h : s.Forgot lib key chatId) : ¬s.FileHolds lib key chatId := by
  rintro ⟨data, hdata, hmem⟩
  obtain ⟨data', hdata', hmem'⟩ := h
  cases hdata.symm.trans hdata'
  exact hmem' hmem

/-- A file that opens either holds the chat or forgot it. -/
theorem StoreState.forgot_of_not_fileHolds {s : StoreState} {chatId : ChatId}
    (hopen : ∃ data, Store.openState lib key s.stateEnc = some data)
    (h : ¬s.FileHolds lib key chatId) : s.Forgot lib key chatId := by
  obtain ⟨data, hdata⟩ := hopen
  exact ⟨data, hdata, fun hmem => h ⟨data, hdata, hmem⟩⟩

/-! ### One call -/

section

variable {s : StoreState} {call : Call} {chatId : ChatId}

/-- After every call the file still opens. -/
theorem openState_exec (hlib : lib.Lawful)
    (h : ∃ data, Store.openState lib key s.stateEnc = some data) :
    ∃ data, Store.openState lib key (Store.exec lib key call s).1.stateEnc = some data := by
  have heffect := Store.execEffect lib key call s
  generalize Store.exec lib key call s = result at heffect ⊢
  cases heffect with
  | ret | failed => exact h
  | written nonce => exact ⟨_, openState_seal hlib nonce _⟩

theorem mem_nameParents {data : StoreData} {c : ChatId} :
    c ∈ data.nameParents.accounts ↔ c ∈ data.accounts :=
  Std.ExtTreeMap.mem_map

/-- Once a chat is gone from memory and file, a call that does not connect it keeps it gone from
both. -/
theorem forgot_exec (hlib : lib.Lawful)
    (hop : call.op.connects = true → call.op.chatId ≠ chatId)
    (hmem : chatId ∉ s.data.accounts) (hfile : s.Forgot lib key chatId) :
    chatId ∉ (Store.exec lib key call s).1.data.accounts ∧
      (Store.exec lib key call s).1.Forgot lib key chatId := by
  have habsent : chatId ∉ (call.op.apply lib s.data).accounts := Op.apply_absent hop hmem
  have heffect := Store.execEffect lib key call s
  generalize Store.exec lib key call s = result at heffect ⊢
  cases heffect with
  | ret => exact ⟨hmem, hfile⟩
  | failed => exact ⟨habsent, hfile⟩
  | written nonce =>
    exact ⟨habsent, _, openState_seal hlib nonce _, mem_nameParents.not.mpr habsent⟩

/-- A `remove` that finds the chat in memory and returns `Ok` removes it from memory and file. -/
theorem forgot_exec_remove (hlib : lib.Lawful) {r : Ret} (hop : call.op = .remove chatId)
    (hmem : chatId ∈ s.data.accounts) (hok : (Store.exec lib key call s).2 = some r) :
    chatId ∉ (Store.exec lib key call s).1.data.accounts ∧
      (Store.exec lib key call s).1.Forgot lib key chatId := by
  have hgone : chatId ∉ (s.data.erase chatId).accounts := by simp
  simp only [Store.exec, hop, Op.lockedSection, Store.remove, if_pos hmem] at hok ⊢
  cases hp : call.persist with
  | failed => simp [Store.persist, hp] at hok
  | written nonce =>
    exact ⟨hgone, _, openState_seal hlib nonce _, mem_nameParents.not.mpr hgone⟩

/-- A `remove` whose write fails takes the chat from memory only. -/
theorem exec_remove_failed (hop : call.op = .remove chatId) (hp : call.persist = .failed) :
    chatId ∉ (Store.exec lib key call s).1.data.accounts ∧
      (Store.exec lib key call s).1.stateEnc = s.stateEnc := by
  by_cases hmem : chatId ∈ s.data.accounts
  · simp [Store.exec, Store.persist, hop, hp, Op.lockedSection, Store.remove, hmem]
  · simp [Store.exec, hop, Op.lockedSection, Store.remove, hmem]

/-- A `remove` that does not find the chat in memory returns `Ok` with nothing changed. -/
theorem exec_remove_of_not_mem (hop : call.op = .remove chatId)
    (hmem : chatId ∉ s.data.accounts) :
    Store.exec lib key call s = (s, some (.bool false)) := by
  simp [Store.exec, hop, Op.lockedSection, Store.remove, hmem]

end

/-! ### Runs -/

section

variable {start : StoreState} (x : StoreRun lib key start)

theorem state_succ_exec {k : ℕ} (hk : k < x.events.length) :
    x.state (k + 1) = (Store.exec lib key x.events[k] (x.state k)).1 :=
  (Option.some.inj (x.state_succ hk)).symm

/-- In every run the file opens at every moment. -/
theorem openState_state (hlib : lib.Lawful) (hstart : start.Opened lib key) {k : ℕ}
    (hk : k ≤ x.events.length) :
    ∃ data, Store.openState lib key (x.state k).stateEnc = some data := by
  refine x.induction (fun _ s => ∃ data, Store.openState lib key s.stateEnc = some data)
    ⟨_, hstart⟩ (fun k hk ih _ => ?_) hk
  rw [state_succ_exec x hk]
  exact openState_exec hlib ih

/-- Once a chat is gone from memory and file, it stays gone until a call connects it. -/
theorem forgot_of_le (hlib : lib.Lawful) {chatId : ChatId} {i j : ℕ} (hij : i ≤ j)
    (hj : j ≤ x.events.length) (hmem : chatId ∉ (x.state i).data.accounts)
    (hfile : (x.state i).Forgot lib key chatId)
    (hops : ∀ k (hk : k < x.events.length), i ≤ k → k < j →
      x.events[k].op.connects = true → x.events[k].op.chatId ≠ chatId) :
    chatId ∉ (x.state j).data.accounts ∧ (x.state j).Forgot lib key chatId := by
  induction j, hij using Nat.le_induction with
  | base => exact ⟨hmem, hfile⟩
  | succ j hij ih =>
    obtain ⟨hmem', hfile'⟩ := ih (by omega) fun k hk hik hkj => hops k hk hik (by omega)
    rw [state_succ_exec x hj]
    exact forgot_exec hlib (hops j hj hij (by omega)) hmem' hfile'

/-- If no `remove` meets the disagreement, the promise holds. -/
theorem erased_of_removesInStep (hlib : lib.Lawful) (hstart : start.Opened lib key)
    (hx : RemovesInStep x) : Erased x := by
  intro chatId i hi r hop hok j hij hj hops
  suffices hnext : chatId ∉ (x.state (i + 1)).data.accounts ∧
      (x.state (i + 1)).Forgot lib key chatId from
    (forgot_of_le x hlib hij hj hnext.1 hnext.2 fun k hk hik => hops k hk (by omega)).2
  rw [state_succ_exec x hi]
  by_cases hmem : chatId ∈ (x.state i).data.accounts
  · exact forgot_exec_remove hlib hop hmem hok
  · have hopen := openState_state x hlib hstart (Nat.le_of_lt hi)
    rw [exec_remove_of_not_mem hop hmem]
    exact ⟨hmem, StoreState.forgot_of_not_fileHolds hopen fun hfile =>
      hx chatId i hi hop ⟨hmem, hfile⟩⟩

/-- A `remove` that meets the disagreement returns `Ok` and leaves the record in the file. -/
theorem not_erased_of_fileHolds {chatId : ChatId} {i : ℕ} (hi : i < x.events.length)
    (hop : x.events[i].op = .remove chatId) (hmem : chatId ∉ (x.state i).data.accounts)
    (hfile : (x.state i).FileHolds lib key chatId) : ¬Erased x := by
  intro hx
  have hexec : Store.exec lib key x.events[i] (x.state i) = (x.state i, some (.bool false)) :=
    exec_remove_of_not_mem hop hmem
  have hstate := state_succ_exec x hi
  rw [hexec] at hstate
  have hforgot := hx chatId i hi _ hop (by rw [hexec]) (i + 1) (by omega) hi
    fun k _ hik hki => by omega
  rw [hstate] at hforgot
  exact hforgot.not_fileHolds hfile

/-- **Main result.** The promise of `remove` holds over a run exactly when no `remove` meets a chat
whose record is gone from memory but still in the file. -/
theorem erased_iff (hlib : lib.Lawful) (hstart : start.Opened lib key) :
    Erased x ↔ RemovesInStep x :=
  ⟨fun hx _ _ hi hop ⟨hmem, hfile⟩ => not_erased_of_fileHolds x hi hop hmem hfile hx,
    erased_of_removesInStep x hlib hstart⟩

/-- While every write succeeds, a chat that has no record in memory has none in the file. -/
theorem forgot_of_written (hlib : lib.Lawful) (hstart : start.Opened lib key)
    (hwritten : ∀ call ∈ x.events, call.persist ≠ .failed) {k : ℕ} (hk : k ≤ x.events.length)
    {chatId : ChatId} (hmem : chatId ∉ (x.state k).data.accounts) :
    (x.state k).Forgot lib key chatId := by
  refine x.induction
    (fun _ s => ∀ c, c ∉ s.data.accounts → s.Forgot lib key c)
    (fun c hc => ⟨_, hstart, hc⟩) (fun k hk ih _ => ?_) hk chatId hmem
  rw [state_succ_exec x hk]
  have heffect := Store.execEffect lib key x.events[k] (x.state k)
  generalize Store.exec lib key x.events[k] (x.state k) = result at heffect ⊢
  cases heffect with
  | ret => exact ih
  | failed h => exact absurd h (hwritten _ (List.getElem_mem hk))
  | written nonce =>
    exact fun c hc => ⟨_, openState_seal hlib nonce _, mem_nameParents.not.mpr hc⟩

/-- In a run whose writes all succeed, `remove` keeps its promise. -/
theorem erased_of_written (hlib : lib.Lawful) (hstart : start.Opened lib key)
    (hwritten : ∀ call ∈ x.events, call.persist ≠ .failed) : Erased x :=
  erased_of_removesInStep x hlib hstart fun _ _ hi _ ⟨hmem, hfile⟩ =>
    (forgot_of_written x hlib hstart hwritten (Nat.le_of_lt hi) hmem).not_fileHolds hfile

end

/-! ### The retry after a failed write -/

section

/-- `/login`, a `/logout` whose write fails, and the `/logout` sent again. -/
def retryRun : StoreRun Externals.concrete sampleKey ⟨.empty, none⟩ where
  events := [
    ⟨.addAccount 1 sampleSlot sampleSlotId, .written sampleNonce⟩,
    ⟨.remove 1, .failed⟩,
    ⟨.remove 1, .failed⟩]
  enabled := rfl

/-- The second `/logout` returns `Ok` and the credentials stay in the file. -/
theorem not_erased_retryRun : ¬Erased retryRun := by
  have h1 := state_succ_exec retryRun (show 0 < 3 by decide)
  have h2 := state_succ_exec retryRun (show 1 < 3 by decide)
  rw [retryRun.state_zero] at h1
  have hfile1 : (retryRun.state 1).FileHolds .concrete sampleKey 1 := by
    rw [h1]
    exact ⟨_, openState_seal Externals.lawful_concrete sampleNonce _,
      mem_nameParents.mpr (by simp)⟩
  obtain ⟨hmem2, hsame⟩ : 1 ∉ (retryRun.state 2).data.accounts ∧
      (retryRun.state 2).stateEnc = (retryRun.state 1).stateEnc := by
    rw [h2]
    exact exec_remove_failed rfl rfl
  have hfile2 : (retryRun.state 2).FileHolds .concrete sampleKey 1 := by
    rwa [StoreState.FileHolds, hsame]
  exact not_erased_of_fileHolds retryRun (show 2 < 3 by decide) rfl hmem2 hfile2

/-- The main result at a run that keeps the promise: the same calls, all written. -/
def writtenRun : StoreRun Externals.concrete sampleKey ⟨.empty, none⟩ where
  events := [
    ⟨.addAccount 1 sampleSlot sampleSlotId, .written sampleNonce⟩,
    ⟨.remove 1, .written sampleNonce⟩,
    ⟨.remove 1, .failed⟩]
  enabled := rfl

theorem erased_iff_writtenRun : Erased writtenRun ↔ RemovesInStep writtenRun :=
  erased_iff writtenRun Externals.lawful_concrete rfl

end

end Jmap2Telegram
