import Jmap2Telegram.Store.Interleave

/-!
# A removal and an addition overlapping

`remove_account` decides in its first section whether the chat has slots left and deletes the whole
record in its second. An `add_account` between the two is deleted with it.

* `keepsAdded_iff`: an overlapping `add_account(t)` and `remove_account(s)` that both return `Ok`
  always leave `t` connected exactly when `s` was not the chat's only slot.
-/

namespace Jmap2Telegram

open Transition

variable {lib : Externals} {key : Key}

/-- The chat is connected through `slotId` and nothing else. -/
def StoreData.OnlySlot (data : StoreData) (chatId : ChatId) (slotId : String) : Prop :=
  ∃ account, data.accounts[chatId]? = some account ∧
    ∀ u, u ∈ account.accounts ↔ u = slotId

/-- A slot of the chat is connected. -/
def StoreData.Connected (data : StoreData) (chatId : ChatId) (slotId : String) : Prop :=
  (data.slot? chatId slotId).isSome

/-- The two calls interleaved: `remove_account(chat, s)` and `add_account(chat, slot)`. -/
abbrev OverlapRun (lib : Externals) (key : Key) (data : StoreData) (disk : Disk) (chatId : ChatId)
    (s : String) (slot : AccountSlot) (generated : GeneratedSlotId) :=
  Execution (World.step lib key)
    (World.init data disk [.removeAccount chatId s, .addAccount chatId slot generated])

/-- However the two calls interleave, when both have returned `Ok` the added slot is connected. -/
def KeepsAdded (lib : Externals) (key : Key) (data : StoreData) (disk : Disk) (chatId : ChatId)
    (s : String) (slot : AccountSlot) (generated : GeneratedSlotId) : Prop :=
  ∀ (x : OverlapRun lib key data disk chatId s slot generated) (r r' : Ret),
    x.final.calls = [.returned (some r), .returned (some r')] →
    x.final.data.Connected chatId (Store.slotIdFor slot generated)

/-! ### The sections -/

section

variable {data : StoreData} {chatId : ChatId} {s t : String} {slot : AccountSlot}
  {generated : GeneratedSlotId}

theorem connected_iff :
    data.Connected chatId t ↔ ∃ account, data.accounts[chatId]? = some account ∧
      t ∈ account.accounts := by
  unfold StoreData.Connected StoreData.slot?
  cases data.accounts[chatId]? with
  | none => simp
  | some account => simp

/-- `add_account` connects its slot. -/
theorem connected_addAccount :
    (Store.addAccount chatId slot generated data).1.Connected chatId
      (Store.slotIdFor slot generated) :=
  connected_iff.mpr ⟨_, Std.ExtTreeMap.getElem?_insert_self, by simp⟩

/-- `remove_account` leaves the other slots of the chat connected. -/
theorem connected_removeAccount (hne : t ≠ s) (h : data.Connected chatId t) :
    (Store.removeAccount chatId s data).1.Connected chatId t := by
  obtain ⟨account, haccount, hmem⟩ := connected_iff.mp h
  simp only [Store.removeAccount, haccount]
  split
  case isFalse => exact h
  case isTrue =>
    refine connected_iff.mpr ⟨_, Std.ExtTreeMap.getElem?_insert_self, ?_⟩
    simp [hmem, hne.symm]

/-- With another slot connected, `s` is not the only one. -/
theorem not_onlySlot_of_connected (hne : t ≠ s) (h : data.Connected chatId t) :
    ¬data.OnlySlot chatId s := by
  rintro ⟨account, haccount, honly⟩
  obtain ⟨account', haccount', hmem⟩ := connected_iff.mp h
  cases haccount.symm.trans haccount'
  exact hne ((honly t).mp hmem)

private theorem isEmpty_erase_iff {account : Account} (hs : s ∈ account.accounts) :
    (account.accounts.erase s).isEmpty = true ↔ ∀ u, u ∈ account.accounts ↔ u = s := by
  simp only [Map.isEmpty_iff_forall_not_mem, Std.ExtTreeMap.mem_erase, ne_eq,
    Std.LawfulEqOrd.compare_eq_iff_eq, not_and]
  constructor
  · exact fun h u => ⟨fun hu => by_contra fun hne => h u (Ne.symm hne) hu, fun hu => hu ▸ hs⟩
  · exact fun h u hne hu => hne ((h u).mp hu).symm

/-- `remove_account` comes back to delete the record exactly when the slot was the only one. -/
theorem removeAccount_next :
    (∃ c r, (Store.removeAccount chatId s data).2 = .removeChat c r) ↔
      data.OnlySlot chatId s := by
  unfold Store.removeAccount StoreData.OnlySlot
  cases data.accounts[chatId]? with
  | none => simp
  | some account =>
    by_cases hs : s ∈ account.accounts
    · by_cases hempty : (account.accounts.erase s).isEmpty = true
      · have honly := (isEmpty_erase_iff hs).mp hempty
        simp [hs, hempty, honly]
      · have honly := (isEmpty_erase_iff hs).not.mp hempty
        simp [hs, hempty, honly]
    · have honly : ¬∀ u, u ∈ account.accounts ↔ u = s := fun h => hs ((h s).mpr rfl)
      simp [hs, honly]

end

/-! ### Every run, when the slot is not the only one -/

section

variable {data : StoreData} {disk : Disk} {chatId : ChatId} {s : String} {slot : AccountSlot}
  {generated : GeneratedSlotId}

/-- What holds at every moment while the removal can not come back: it is pending, with `s` not the
only slot, or past its sections; the addition is pending, or past its sections with its slot
connected. -/
def OverlapInv (chatId : ChatId) (s : String) (slot : AccountSlot) (generated : GeneratedSlotId)
    (w : World) : Prop :=
  ∃ p q : Pc, w.calls = [p, q] ∧
    ((p = .pending (.removeAccount chatId s) ∧ ¬w.data.OnlySlot chatId s) ∨ p.IsPast) ∧
    (q = .pending (.addAccount chatId slot generated) ∨
      (q.IsPast ∧ w.data.Connected chatId (Store.slotIdFor slot generated)))

theorem overlapInv_step (hne : Store.slotIdFor slot generated ≠ s) {w w' : World} {e : Event}
    (hw : OverlapInv chatId s slot generated w) (h : w.step lib key e = some w') :
    OverlapInv chatId s slot generated w' := by
  have heffect := stepEffect h
  generalize e.call = i, e.action = action at heffect
  obtain ⟨p, q, hcalls, hp, hq⟩ := hw
  rcases i with - | - | i
  case zero =>
    have hpc : w.calls[0]? = some p := by rw [hcalls]; rfl
    rcases hp with ⟨rfl, honly⟩ | hpast
    · -- the first section of the removal: it does not come back
      cases heffect.of_pending hpc
      have hpast : (Store.removeAccount chatId s w.data).2.pc.IsPast :=
        Next.isPast_pc fun c r hnext => honly (removeAccount_next.mp ⟨c, r, hnext⟩)
      refine ⟨_, q, by simp [World.goto, hcalls, Op.lockedSection], Or.inr hpast, ?_⟩
      exact hq.imp_right fun h => ⟨h.1, connected_removeAccount hne h.2⟩
    · obtain ⟨hdata, p', hcalls', hpast'⟩ := heffect.of_isPast hpc hpast
      exact ⟨p', q, by simp [hcalls', hcalls], Or.inr hpast', by rwa [hdata]⟩
  case succ.zero =>
    have hpc : w.calls[1]? = some q := by rw [hcalls]; rfl
    rcases hq with rfl | ⟨hpast, hconn⟩
    · -- the section of the addition: from now on `s` is not the only slot
      cases heffect.of_pending hpc
      have hpast : (Store.addAccount chatId slot generated w.data).2.pc.IsPast := trivial
      have hconn : (Store.addAccount chatId slot generated w.data).1.Connected chatId
        (Store.slotIdFor slot generated) := connected_addAccount
      refine ⟨p, _, by simp [World.goto, hcalls, Op.lockedSection], ?_, Or.inr ⟨hpast, hconn⟩⟩
      exact hp.imp_left fun h => ⟨h.1, not_onlySlot_of_connected hne hconn⟩
    · obtain ⟨hdata, q', hcalls', hpast'⟩ := heffect.of_isPast hpc hpast
      exact ⟨p, q', by simp [hcalls', hcalls], by rwa [hdata], Or.inr ⟨hpast', by rwa [hdata]⟩⟩
  case succ.succ =>
    have hlt := heffect.lt_length
    exact absurd hlt (by simp [hcalls])

/-- When `s` is not the chat's only slot, the added slot is always connected in the end. -/
theorem keepsAdded_of_not_onlySlot (hne : Store.slotIdFor slot generated ≠ s)
    (honly : ¬data.OnlySlot chatId s) :
    KeepsAdded lib key data disk chatId s slot generated := by
  intro x r r' hfinal
  have hinit : OverlapInv chatId s slot generated
      (World.init data disk [.removeAccount chatId s, .addAccount chatId slot generated]) :=
    ⟨_, _, rfl, Or.inl ⟨rfl, honly⟩, Or.inl rfl⟩
  obtain ⟨p, q, hcalls, -, hq⟩ :=
    run_induction _ (fun w e w' hw h => overlapInv_step hne hw h) hinit x.run_events
  rw [hfinal] at hcalls
  cases hcalls
  rcases hq with hq | ⟨-, hconn⟩
  · cases hq
  · exact hconn

/-! ### The lost slot, when it is -/

/-- The removal finds the record empty, the addition puts its slot there, the removal deletes the
record; then both persist. -/
def lostEvents (nonce : Nonce) : List Event :=
  [⟨0, .advance⟩, ⟨1, .advance⟩, ⟨0, .advance⟩] ++ persistEvents 0 nonce ++ persistEvents 1 nonce

variable (lib key disk slot generated) in
theorem run_lostEvents (nonce : Nonce) (honly : data.OnlySlot chatId s) :
    ∃ w r r', run (World.step lib key)
        (World.init data disk [.removeAccount chatId s, .addAccount chatId slot generated])
        (lostEvents nonce) = some w ∧
      w.calls = [.returned (some r), .returned (some r')] ∧ chatId ∉ w.data.accounts := by
  obtain ⟨c, r, hnext⟩ := removeAccount_next.mpr honly
  have hc : c = chatId :=
    chatId_of_removeChat
      (show (Op.lockedSection lib (.removeAccount chatId s) data).2 = _ from hnext)
  subst hc
  have hsections : run (World.step lib key)
      (World.init data disk [.removeAccount c s, .addAccount c slot generated])
      [⟨0, .advance⟩, ⟨1, .advance⟩, ⟨0, .advance⟩] = some
        ⟨((Store.addAccount c slot generated (Store.removeAccount c s data).1).1).erase c, disk,
          none, [.persist .lock r, .persist .lock (.slotId (Store.slotIdFor slot generated))]⟩ := by
    simp [World.step, World.init, World.goto, Op.lockedSection, hnext, Next.pc, Store.addAccount]
  have hrun := run_trans hsections (run_persistEvents (i := 0) nonce rfl rfl)
  have hrun' := run_trans hrun (run_persistEvents (i := 1) nonce rfl rfl)
  exact ⟨_, _, _, hrun', rfl, by simp⟩

/-- When `s` is the chat's only slot, the interleaving that puts the addition between the two
sections of the removal loses it. -/
theorem not_keepsAdded_of_onlySlot (honly : data.OnlySlot chatId s) :
    ¬KeepsAdded lib key data disk chatId s slot generated := by
  obtain ⟨w, r, r', hrun, hcalls, hgone⟩ :=
    run_lostEvents lib key disk slot generated (Vector.replicate nonceLen 0) honly
  intro hkeeps
  have hconn := hkeeps ⟨_, by rw [hrun]; rfl⟩ r r' (by simp [Execution.final, hrun, hcalls])
  obtain ⟨account, haccount, -⟩ := connected_iff.mp hconn
  simp only [Execution.final, hrun, Option.get_some] at haccount
  exact hgone (Map.mem_of_getElem? haccount)

/-- **Main result.** An overlapping addition is kept by every interleaving exactly when the removed
slot was not the chat's only one. -/
theorem keepsAdded_iff (hne : Store.slotIdFor slot generated ≠ s) :
    KeepsAdded lib key data disk chatId s slot generated ↔ ¬data.OnlySlot chatId s :=
  ⟨fun hkeeps honly => not_keepsAdded_of_onlySlot honly hkeeps, keepsAdded_of_not_onlySlot hne⟩

end

/-! ### A chat with one slot -/

section

theorem onlySlot_oneSlotData : oneSlotData.OnlySlot 1 "default" := by
  refine ⟨_, Std.ExtTreeMap.getElem?_insert_self, fun u => ?_⟩
  simp [eq_comm (a := u)]

/-- Disconnecting the only slot while a second account logs in loses the second account. -/
theorem not_keepsAdded_oneSlotData :
    ¬KeepsAdded Externals.concrete sampleKey oneSlotData ⟨none, none⟩ 1 "default" otherSlot
      sampleSlotId :=
  not_keepsAdded_of_onlySlot onlySlot_oneSlotData

/-- The main result at that state. -/
theorem keepsAdded_iff_oneSlotData :
    KeepsAdded Externals.concrete sampleKey oneSlotData ⟨none, none⟩ 1 "default" otherSlot
      sampleSlotId ↔ ¬oneSlotData.OnlySlot 1 "default" :=
  keepsAdded_iff (by decide)

end

end Jmap2Telegram
