import Jmap2Telegram.Store.Durability

/-!
# Failed writes

Every operation changes memory in a section of its own and runs `persist` afterwards; nothing is
rolled back when `persist` fails. A call that returns an error, at whatever stage, has left the
file and the other chats' records as they were, and its own chat's record as a call that goes
through leaves it.

* `Op.apply_of_ne`: an operation changes the record of its own chat only.
* `Progress.step`: what a call by itself has done, by where it stands.
* `data_of_failed`: what is left when it fails.
-/

namespace Jmap2Telegram

open Transition

variable {lib : Externals} {key : Key}

/-! ### Other chats -/

/-- An operation changes the record of its own chat only. -/
theorem Op.apply_of_ne {op : Op} {data : StoreData} {c : ChatId} (hc : c ≠ op.chatId) :
    (op.apply lib data).accounts[c]? = data.accounts[c]? := by
  have heffect := sectionEffect lib op data
  rw [apply]
  generalize op.lockedSection lib data = result at heffect
  cases heffect with
  | ret => rfl
  | store account r h => exact Map.getElem?_insert.trans (if_neg hc.symm)
  | emptied account r h hempty =>
    dsimp only [StoreData.erase]
    rw [Map.getElem?_erase, if_neg hc.symm, Map.getElem?_insert, if_neg hc.symm]
  | delete r h => exact Map.getElem?_erase.trans (if_neg hc.symm)

/-! ### A call by itself -/

/-- A call, run without the others moving, returns: `none` is an error. -/
def World.Returns (lib : Externals) (key : Key) (w : World) (i : ℕ) (result : Option Ret)
    (w' : World) : Prop :=
  ∃ actions : List Action, run (World.step lib key) w (actions.map (Event.mk i)) = some w' ∧
    w'.calls[i]? = some (.returned result)

/-- Where the rename has not happened. -/
def Pc.Unwritten : Pc → Prop
  | .persist .syncDir _ | .returned (some _) => False
  | _ => True

/-- What a call by itself has done so far: its sections change memory, and the file stays until the
rename. -/
structure Progress (lib : Externals) (op : Op) (start w : World) (pc : Pc) : Prop where
  data : match pc with
    | .pending op' => op' = op ∧ w.data = start.data
    | .removeChat c _ => w.data.erase c = op.apply lib start.data
    | _ => w.data = op.apply lib start.data
  stateEnc : pc.Unwritten → w.disk.stateEnc = start.disk.stateEnc

variable {start w w' w'' : World} {i : ℕ} {op : Op} {pc : Pc} {action : Action}
  {actions : List Action}

/-- The first section takes a call to where its change is in memory, or about to be. -/
theorem progress_next {data : StoreData} {next : Next}
    (hsection : op.lockedSection lib start.data = (data, next))
    (hdata : w.data = data) (hstateEnc : w.disk.stateEnc = start.disk.stateEnc) :
    Progress lib op start w next.pc := by
  refine ⟨?_, fun _ => hstateEnc⟩
  cases next with
  | ret r | persist r =>
    dsimp only [Next.pc]
    rw [Op.apply, hsection, hdata]
  | removeChat c r =>
    dsimp only [Next.pc]
    rw [Op.apply, hsection, hdata]

theorem progress_start : Progress lib op w w (.pending op) where
  data := ⟨rfl, rfl⟩
  stateEnc _ := rfl

/-- One step of a call by itself. -/
theorem Progress.step (h : Progress lib op start w pc) (hpc : w.calls[i]? = some pc)
    (hstep : w.step lib key ⟨i, action⟩ = some w') :
    ∃ pc', w'.calls[i]? = some pc' ∧ Progress lib op start w' pc' := by
  have heffect := stepEffect hstep
  dsimp only at heffect
  cases heffect with
  | lockedSection hpc' hsection =>
    cases hpc.symm.trans hpc'
    obtain ⟨⟨rfl, hdata⟩, hstateEnc⟩ := h
    rw [hdata] at hsection
    exact ⟨_, World.calls_goto_self hpc, progress_next hsection rfl (hstateEnc trivial)⟩
  | removeChat hpc' =>
    cases hpc.symm.trans hpc'
    exact ⟨_, World.calls_goto_self hpc, h.data, fun _ => h.stateEnc trivial⟩
  | lock hpc' | snapshot hpc' | create hpc' | write hpc' | sync hpc' | setPermissions hpc' =>
    cases hpc.symm.trans hpc'
    exact ⟨_, World.calls_goto_self hpc, h.data, fun _ => h.stateEnc trivial⟩
  | rename hpc' =>
    cases hpc.symm.trans hpc'
    exact ⟨_, World.calls_goto_self hpc, h.data, False.elim⟩
  | syncDir hpc' =>
    cases hpc.symm.trans hpc'
    exact ⟨_, World.calls_leave_self hpc, h.data, False.elim⟩
  | @fail r stage hpc' hfail leftover =>
    cases hpc.symm.trans hpc'
    refine ⟨_, World.calls_leave_self hpc, h.data, fun _ => h.stateEnc ?_⟩
    -- syncing the directory, the only stage after the rename, does not fail
    cases stage <;> trivial

/-- A run of one call. -/
theorem Progress.run (h : Progress lib op start w pc) (hpc : w.calls[i]? = some pc)
    (hrun : run (World.step lib key) w (actions.map (Event.mk i)) = some w') :
    ∃ pc', w'.calls[i]? = some pc' ∧ Progress lib op start w' pc' := by
  induction actions generalizing w pc with
  | nil =>
    cases hrun
    exact ⟨pc, hpc, h⟩
  | cons action actions ih =>
    rw [List.map_cons, run_cons, Option.bind_eq_some_iff] at hrun
    obtain ⟨m, hm, hrun⟩ := hrun
    obtain ⟨pc', hpc', h'⟩ := h.step hpc hm
    exact ih h' hpc' hrun

/-- Whatever a call returns, its change is in memory. -/
theorem data_of_returns (hpending : w.calls[i]? = some (.pending op)) {result : Option Ret}
    (h : w.Returns lib key i result w') : w'.data = op.apply lib w.data := by
  obtain ⟨actions, hrun, hreturned⟩ := h
  obtain ⟨pc, hpc, hprogress⟩ := progress_start.run hpending hrun
  cases hpc.symm.trans hreturned
  exact hprogress.data

/-- A call that fails leaves the file as it was. -/
theorem stateEnc_of_failed (hpending : w.calls[i]? = some (.pending op))
    (h : w.Returns lib key i none w') : w'.disk.stateEnc = w.disk.stateEnc := by
  obtain ⟨actions, hrun, hreturned⟩ := h
  have hstart : Progress lib op w w (.pending op) := progress_start
  obtain ⟨pc, hpc, hprogress⟩ := hstart.run hpending hrun
  cases hpc.symm.trans hreturned
  exact hprogress.stateEnc trivial

/-- A call about to start that fails changes nothing: memory and the file stay as they were. -/
def World.FailsCleanly (lib : Externals) (key : Key) (w : World) (i : ℕ) : Prop :=
  ∀ w' : World, w.Returns lib key i none w' → w'.disk.stateEnc = w.disk.stateEnc ∧
    ∀ c : ChatId, w'.data.accounts[c]? = w.data.accounts[c]?

/-- **Main result.** A call whose `persist` fails, at whatever stage, leaves the file and the
records of the other chats as they were; its own chat has the record that a call which goes through
leaves. -/
theorem data_of_failed (hpending : w.calls[i]? = some (.pending op))
    (herr : w.Returns lib key i none w') :
    w'.disk.stateEnc = w.disk.stateEnc ∧
      (∀ c, c ≠ op.chatId → w'.data.accounts[c]? = w.data.accounts[c]?) ∧
      ∀ r w'', w.Returns lib key i (some r) w'' → w''.data = w'.data := by
  have hdata := data_of_returns hpending herr
  refine ⟨stateEnc_of_failed hpending herr, fun c hc => ?_, fun r w'' hok => ?_⟩
  · rw [hdata]
    exact Op.apply_of_ne hc
  · rw [hdata, data_of_returns hpending hok]

/-! ### A language that is not written -/

/-- Chat 1 sets its language. -/
def languageCall : World := World.init oneSlotData oneSlotDisk [.setLanguage 1 "fr"]

/-- The disk is full when the temporary file is written. -/
theorem returns_languageCall :
    ∃ w', languageCall.Returns Externals.concrete sampleKey 0 none w' ∧
      w'.data.accounts[(1 : ChatId)]? ≠ languageCall.data.accounts[(1 : ChatId)]? := by
  refine ⟨_, ⟨[.advance, .advance, .encrypt sampleNonce, .advance, .fail (some [])], rfl, rfl⟩, ?_⟩
  decide

theorem not_failsCleanly_languageCall :
    ¬languageCall.FailsCleanly Externals.concrete sampleKey 0 := by
  obtain ⟨w', hreturns, hne⟩ := returns_languageCall
  exact fun h => hne ((h w' hreturns).2 1)

theorem data_of_failed_languageCall :
    ∃ w', languageCall.Returns Externals.concrete sampleKey 0 none w' ∧
      w'.disk.stateEnc = oneSlotDisk.stateEnc := by
  obtain ⟨w', hreturns, -⟩ := returns_languageCall
  exact ⟨w', hreturns, (data_of_failed rfl hreturns).1⟩

end Jmap2Telegram
