import Jmap2Telegram.Store.Operations

/-!
# Calls interleaved

Several tasks call the store at once. A step of the machine is one section of one call under the
write lock, or one stage of its `persist`: taking `persist_lock`, the snapshot (with its
encryption), and each file operation from creating the temporary file to syncing the directory.
Any stage from the snapshot to the rename may fail.

`World` is the data, the two files, who holds `persist_lock`, and where each call stands. The calls
are all there from the start; a task that calls twice is a run that takes the second call's first
step after the first has returned.

* `stepEffect`: all one step can do.
* `lockHeld_state`: whoever is past taking `persist_lock` holds it.
* `run_alone`: a call run by itself does what `Store.exec` says.
-/

namespace Jmap2Telegram

open Transition

/-- A file: its bytes, and whether they are on stable storage (`sync_all`). -/
structure File where
  bytes : List UInt8
  synced : Bool
  deriving DecidableEq

/-- The data directory: the temporary file and the state file. -/
structure Disk where
  tmp : Option File
  stateEnc : Option File
  deriving DecidableEq

/-- What `persist` does next. -/
inductive Stage where
  | lock
  | snapshot
  | create (ciphertext : List UInt8)
  | write (ciphertext : List UInt8)
  | sync
  | setPermissions
  | rename
  | syncDir
  deriving DecidableEq

/-- Where a call stands; a call that returned `none` returned an error. -/
inductive Pc where
  | pending (op : Op)
  | removeChat (chatId : ChatId) (r : Ret)
  | persist (stage : Stage) (r : Ret)
  | returned (result : Option Ret)

/-- Where a call goes from its first section. -/
def Next.pc : Next → Pc
  | .ret r => .returned (some r)
  | .persist r => .persist .lock r
  | .removeChat chatId r => .removeChat chatId r

/-- A call never leaves its first section past taking `persist_lock`. -/
theorem Next.stage_eq_lock {next : Next} {stage : Stage} {r : Ret}
    (h : next.pc = .persist stage r) : stage = .lock := by
  cases next with
  | ret | removeChat => cases h
  | persist r' =>
    cases h
    rfl

/-- The whole system. -/
structure World where
  data : StoreData
  disk : Disk
  /-- The call that holds `persist_lock`. -/
  persistLock : Option ℕ
  calls : List Pc

/-- How a call moves: its next section or stage goes through, the snapshot is taken and encrypted
under a nonce, or a stage fails and leaves something at the temporary path. -/
inductive Action where
  | advance
  | encrypt (nonce : Nonce)
  | fail (leftover : Option (List UInt8))

/-- One call moves. -/
structure Event where
  call : ℕ
  action : Action

namespace World

/-- All calls pending, on a store and a directory. -/
def init (data : StoreData) (disk : Disk) (ops : List Op) : World :=
  ⟨data, disk, none, ops.map .pending⟩

/-- A call moves on. -/
def goto (w : World) (i : ℕ) (pc : Pc) : World := { w with calls := w.calls.set i pc }

/-- A call releases `persist_lock` and returns. -/
def leave (w : World) (i : ℕ) (result : Option Ret) : World :=
  { w with persistLock := none, calls := w.calls.set i (.returned result) }

/-- Something else at the temporary path. -/
def setTmp (w : World) (tmp : Option File) : World := { w with disk := { w.disk with tmp := tmp } }

end World

/-- The stages whose failure makes `persist` return an error. Waiting for the lock does not fail,
and failing to sync the directory is only logged. -/
def Stage.mayFail : Stage → Bool
  | lock | syncDir => false
  | _ => true

/-- One stage of call `i`'s `persist`. -/
def World.persistStep (lib : Externals) (key : Key) (w : World) (i : ℕ) (stage : Stage) (r : Ret)
    (action : Action) : Option World :=
  match stage, action with
  | .lock, .advance =>
    if w.persistLock = none then
      some ({ w with persistLock := some i }.goto i (.persist .snapshot r))
    else none
  | .snapshot, .encrypt nonce =>
    some (w.goto i (.persist (.create (w.data.seal lib key nonce)) r))
  | .create ciphertext, .advance =>
    some ((w.setTmp (some ⟨[], false⟩)).goto i (.persist (.write ciphertext) r))
  | .write ciphertext, .advance =>
    some ((w.setTmp (some ⟨ciphertext, false⟩)).goto i (.persist .sync r))
  | .sync, .advance =>
    w.disk.tmp.map fun f =>
      (w.setTmp (some { f with synced := true })).goto i (.persist .setPermissions r)
  | .setPermissions, .advance => some (w.goto i (.persist .rename r))
  | .rename, .advance =>
    w.disk.tmp.map fun f => { w with disk := ⟨none, some f⟩ }.goto i (.persist .syncDir r)
  | .syncDir, .advance => some (w.leave i (some r))
  | stage, .fail leftover =>
    if stage.mayFail then some ((w.setTmp (leftover.map (⟨·, false⟩))).leave i none) else none
  | _, _ => none

/-- One step of the system. -/
def World.step (lib : Externals) (key : Key) (w : World) (e : Event) : Option World :=
  match w.calls[e.call]?, e.action with
  | some (.pending op), .advance =>
    let (data, next) := op.lockedSection lib w.data
    some ({ w with data := data }.goto e.call next.pc)
  | some (.removeChat chatId r), .advance =>
    some ({ w with data := w.data.erase chatId }.goto e.call (.persist .lock r))
  | some (.persist stage r), action => w.persistStep lib key e.call stage r action
  | _, _ => none

namespace World

variable {w : World} {i j : ℕ} {pc pc' : Pc} {result : Option Ret} {tmp : Option File}

@[simp]
theorem goto_data : (w.goto i pc).data = w.data := rfl

@[simp]
theorem goto_disk : (w.goto i pc).disk = w.disk := rfl

@[simp]
theorem goto_persistLock : (w.goto i pc).persistLock = w.persistLock := rfl

@[simp]
theorem leave_data : (w.leave i result).data = w.data := rfl

@[simp]
theorem leave_disk : (w.leave i result).disk = w.disk := rfl

@[simp]
theorem leave_persistLock : (w.leave i result).persistLock = none := rfl

@[simp]
theorem setTmp_data : (w.setTmp tmp).data = w.data := rfl

@[simp]
theorem setTmp_disk : (w.setTmp tmp).disk = ⟨tmp, w.disk.stateEnc⟩ := rfl

@[simp]
theorem setTmp_persistLock : (w.setTmp tmp).persistLock = w.persistLock := rfl

@[simp]
theorem setTmp_calls : (w.setTmp tmp).calls = w.calls := rfl

theorem calls_goto_self (h : w.calls[i]? = some pc) : (w.goto i pc').calls[i]? = some pc' := by
  obtain ⟨hi, -⟩ := List.getElem?_eq_some_iff.mp h
  exact List.getElem?_set_self hi

theorem calls_leave_self (h : w.calls[i]? = some pc) :
    (w.leave i result).calls[i]? = some (.returned result) := by
  obtain ⟨hi, -⟩ := List.getElem?_eq_some_iff.mp h
  exact List.getElem?_set_self hi

end World

/-! ### All a step can do -/

/-- All one step of call `i` can do, with the state of that call before it. -/
inductive World.StepEffect (lib : Externals) (key : Key) (w : World) (i : ℕ) :
    Action → World → Prop where
  | lockedSection {op : Op} {data : StoreData} {next : Next}
    (hpc : w.calls[i]? = some (.pending op))
    (hsection : op.lockedSection lib w.data = (data, next)) :
    StepEffect lib key w i .advance ({ w with data := data }.goto i next.pc)
  | removeChat {chatId : ChatId} {r : Ret} (hpc : w.calls[i]? = some (.removeChat chatId r)) :
    StepEffect lib key w i .advance
      ({ w with data := w.data.erase chatId }.goto i (.persist .lock r))
  | lock {r : Ret} (hpc : w.calls[i]? = some (.persist .lock r)) (hfree : w.persistLock = none) :
    StepEffect lib key w i .advance
      ({ w with persistLock := some i }.goto i (.persist .snapshot r))
  | snapshot {r : Ret} (hpc : w.calls[i]? = some (.persist .snapshot r)) (nonce : Nonce) :
    StepEffect lib key w i (.encrypt nonce)
      (w.goto i (.persist (.create (w.data.seal lib key nonce)) r))
  | create {r : Ret} {ciphertext : List UInt8}
    (hpc : w.calls[i]? = some (.persist (.create ciphertext) r)) :
    StepEffect lib key w i .advance
      ((w.setTmp (some ⟨[], false⟩)).goto i (.persist (.write ciphertext) r))
  | write {r : Ret} {ciphertext : List UInt8}
    (hpc : w.calls[i]? = some (.persist (.write ciphertext) r)) :
    StepEffect lib key w i .advance
      ((w.setTmp (some ⟨ciphertext, false⟩)).goto i (.persist .sync r))
  | sync {r : Ret} {f : File} (hpc : w.calls[i]? = some (.persist .sync r))
    (htmp : w.disk.tmp = some f) :
    StepEffect lib key w i .advance
      ((w.setTmp (some { f with synced := true })).goto i (.persist .setPermissions r))
  | setPermissions {r : Ret} (hpc : w.calls[i]? = some (.persist .setPermissions r)) :
    StepEffect lib key w i .advance (w.goto i (.persist .rename r))
  | rename {r : Ret} {f : File} (hpc : w.calls[i]? = some (.persist .rename r))
    (htmp : w.disk.tmp = some f) :
    StepEffect lib key w i .advance
      ({ w with disk := ⟨none, some f⟩ }.goto i (.persist .syncDir r))
  | syncDir {r : Ret} (hpc : w.calls[i]? = some (.persist .syncDir r)) :
    StepEffect lib key w i .advance (w.leave i (some r))
  | fail {r : Ret} {stage : Stage} (hpc : w.calls[i]? = some (.persist stage r))
    (hfail : stage.mayFail = true) (leftover : Option (List UInt8)) :
    StepEffect lib key w i (.fail leftover) ((w.setTmp (leftover.map (⟨·, false⟩))).leave i none)

variable {lib : Externals} {key : Key}

private theorem persistStepEffect {w w' : World} {i : ℕ} {stage : Stage} {r : Ret}
    {action : Action} (hpc : w.calls[i]? = some (.persist stage r))
    (h : w.persistStep lib key i stage r action = some w') :
    World.StepEffect lib key w i action w' := by
  unfold World.persistStep at h
  split at h
  case h_1 =>
    split at h
    case isTrue hfree =>
      cases h
      exact .lock hpc hfree
    case isFalse => cases h
  case h_2 nonce =>
    cases h
    exact .snapshot hpc nonce
  case h_3 =>
    cases h
    exact .create hpc
  case h_4 =>
    cases h
    exact .write hpc
  case h_5 =>
    obtain ⟨f, htmp, rfl⟩ := Option.map_eq_some_iff.mp h
    exact .sync hpc htmp
  case h_6 =>
    cases h
    exact .setPermissions hpc
  case h_7 =>
    obtain ⟨f, htmp, rfl⟩ := Option.map_eq_some_iff.mp h
    exact .rename hpc htmp
  case h_8 =>
    cases h
    exact .syncDir hpc
  case h_9 leftover =>
    split at h
    case isTrue hfail =>
      cases h
      exact .fail hpc hfail leftover
    case isFalse => cases h
  case h_10 => cases h

/-- Every step does one of those. -/
theorem stepEffect {w w' : World} {e : Event} (h : w.step lib key e = some w') :
    World.StepEffect lib key w e.call e.action w' := by
  obtain ⟨i, action⟩ := e
  unfold World.step at h
  dsimp only at h ⊢
  split at h
  case h_1 hpc =>
    cases h
    exact .lockedSection hpc rfl
  case h_2 hpc =>
    cases h
    exact .removeChat hpc
  case h_3 hpc => exact persistStepEffect hpc h
  case h_4 => cases h

/-- Only a call of the system takes a step. -/
theorem World.StepEffect.lt_length {w w' : World} {i : ℕ} {action : Action}
    (h : World.StepEffect lib key w i action w') : i < w.calls.length := by
  cases h with
  | lockedSection hpc | removeChat hpc | lock hpc | snapshot hpc | create hpc | write hpc
  | sync hpc | setPermissions hpc | rename hpc | syncDir hpc | fail hpc =>
    exact (List.getElem?_eq_some_iff.mp hpc).1

/-- The call is past its sections: it persists, or has returned. -/
def Pc.IsPast : Pc → Prop
  | .persist _ _ | .returned _ => True
  | .pending _ | .removeChat _ _ => False

theorem Next.isPast_pc {next : Next} (h : ∀ chatId r, next ≠ .removeChat chatId r) :
    next.pc.IsPast := by
  cases next with
  | ret | persist => trivial
  | removeChat chatId r => exact absurd rfl (h chatId r)

/-- A pending call can only run its first section. -/
theorem World.StepEffect.of_pending {w w' : World} {i : ℕ} {action : Action} {op : Op}
    (h : World.StepEffect lib key w i action w') (hpc : w.calls[i]? = some (.pending op)) :
    w' = { w with data := (op.lockedSection lib w.data).1 }.goto i
      (op.lockedSection lib w.data).2.pc := by
  cases h with
  | lockedSection hpc' hsection =>
    cases hpc'.symm.trans hpc
    rw [hsection]
  | removeChat hpc' | lock hpc' | snapshot hpc' | create hpc' | write hpc' | sync hpc'
  | setPermissions hpc' | rename hpc' | syncDir hpc' | fail hpc' => cases hpc'.symm.trans hpc

/-- A call past its sections leaves the data alone and stays past them. -/
theorem World.StepEffect.of_isPast {w w' : World} {i : ℕ} {action : Action} {pc : Pc}
    (h : World.StepEffect lib key w i action w') (hpc : w.calls[i]? = some pc) (hpast : pc.IsPast) :
    w'.data = w.data ∧ ∃ pc' : Pc, w'.calls = w.calls.set i pc' ∧ pc'.IsPast := by
  cases h with
  | lockedSection hpc' | removeChat hpc' =>
    cases hpc'.symm.trans hpc
    exact hpast.elim
  | lock | snapshot | create | write | sync | setPermissions | rename | syncDir | fail =>
    exact ⟨rfl, _, rfl, trivial⟩

/-! ### The lock -/

/-- A call past taking `persist_lock` and not yet returned holds it. -/
def World.LockHeld (w : World) : Prop :=
  ∀ (i : ℕ) (stage : Stage) (r : Ret), w.calls[i]? = some (.persist stage r) → stage ≠ .lock →
    w.persistLock = some i

theorem lockHeld_init (data : StoreData) (disk : Disk) (ops : List Op) :
    (World.init data disk ops).LockHeld := by
  intro i stage r h
  simp [World.init] at h

/-- A step of one call leaves the others where they stand. -/
theorem World.StepEffect.calls_of_ne {w w' : World} {i j : ℕ} {action : Action}
    (h : World.StepEffect lib key w i action w') (hij : i ≠ j) :
    w'.calls[j]? = w.calls[j]? := by
  cases h <;> exact List.getElem?_set_ne hij

/-- Where a call stands after it was moved. -/
theorem pc_of_set {calls : List Pc} {i : ℕ} {pc pc' pc'' : Pc} (h : calls[i]? = some pc)
    (h' : (calls.set i pc')[i]? = some pc'') : pc'' = pc' := by
  obtain ⟨hi, -⟩ := List.getElem?_eq_some_iff.mp h
  rw [List.getElem?_set_self hi] at h'
  exact (Option.some.inj h').symm

/-- No call becomes pending: one that is still to run has not moved. -/
theorem World.StepEffect.pending_of {w w' : World} {i j : ℕ} {action : Action} {op : Op}
    (h : World.StepEffect lib key w i action w') (hj : w'.calls[j]? = some (.pending op)) :
    w.calls[j]? = some (.pending op) := by
  by_cases hij : i = j
  · subst hij
    cases h with
    | @lockedSection op data next hpc hsection => cases next <;> cases pc_of_set hpc hj
    | removeChat hpc | lock hpc | snapshot hpc | create hpc | write hpc | sync hpc
    | setPermissions hpc | rename hpc | syncDir hpc | fail hpc => cases pc_of_set hpc hj
  · rwa [h.calls_of_ne hij] at hj

/-- The lock stays with who holds it. -/
theorem lockHeld_step {w w' : World} {e : Event} (hw : w.LockHeld)
    (h : w.step lib key e = some w') : w'.LockHeld := by
  intro j stage r hj hstage
  have heffect := stepEffect h
  generalize e.call = i, e.action = action at heffect
  -- the call that moves, or another one
  by_cases hij : i = j
  · subst hij
    cases heffect with
    | lockedSection hpc =>
      exact absurd (Next.stage_eq_lock (pc_of_set hpc hj).symm) hstage
    | _ => grind [World.goto, World.leave, World.setTmp, World.LockHeld]
  · rw [heffect.calls_of_ne hij] at hj
    have hheld := hw j stage r hj hstage
    cases heffect with
    | lock hpc hfree =>
      rw [hfree] at hheld
      cases hheld
    -- whoever releases the lock is the one who holds it
    | @syncDir r' hpc =>
      have hi := hw i .syncDir r' hpc (by decide)
      exact absurd (Option.some.inj (hi.symm.trans hheld)) hij
    | @fail r' stage' hpc hfail =>
      have hi := hw i stage' r' hpc (by rintro rfl; cases hfail)
      exact absurd (Option.some.inj (hi.symm.trans hheld)) hij
    | _ => exact hheld

/-- **Mutual exclusion.** In every run at most one call is past taking `persist_lock`. -/
theorem lockHeld_state {data : StoreData} {disk : Disk} {ops : List Op}
    (x : Execution (World.step lib key) (World.init data disk ops)) {k : ℕ}
    (hk : k ≤ x.events.length) : (x.state k).LockHeld :=
  x.induction (fun _ w => w.LockHeld) (lockHeld_init data disk ops)
    (fun _ _ ih h => lockHeld_step ih h) hk

/-! ### A call by itself -/

/-- The events of a `persist` that goes through. -/
def persistEvents (i : ℕ) (nonce : Nonce) : List Event :=
  [⟨i, .advance⟩, ⟨i, .encrypt nonce⟩, ⟨i, .advance⟩, ⟨i, .advance⟩, ⟨i, .advance⟩, ⟨i, .advance⟩,
    ⟨i, .advance⟩, ⟨i, .advance⟩]

/-- A call that is about to persist, with the lock free, can be run to its end: it returns `Ok`, and
the file holds the data. -/
theorem run_persistEvents {w : World} {i : ℕ} {r : Ret} (nonce : Nonce)
    (hpc : w.calls[i]? = some (.persist .lock r)) (hfree : w.persistLock = none) :
    run (World.step lib key) w (persistEvents i nonce) = some
      { w with
        disk := ⟨none, some ⟨w.data.seal lib key nonce, true⟩⟩
        calls := w.calls.set i (.returned (some r)) } := by
  obtain ⟨hi, hget⟩ := List.getElem?_eq_some_iff.mp hpc
  simp [persistEvents, World.step, World.persistStep, World.goto, World.leave, World.setTmp, hget,
    hfree, hi]

/-- What a whole-call view keeps of the world. -/
def World.storeState (w : World) : StoreState := ⟨w.data, w.disk.stateEnc.map File.bytes⟩

variable (lib key) in
/-- From the point where it is about to persist, a call run by itself does what `Store.persist`
says. -/
theorem run_persist_alone {w : World} {i : ℕ} {r : Ret} (outcome : Persist)
    (hpc : w.calls[i]? = some (.persist .lock r)) (hfree : w.persistLock = none) :
    ∃ w', Reachable (World.step lib key) w w' ∧
      (w'.storeState, w'.calls, w'.persistLock) =
        let (s, result) := Store.persist lib key outcome r w.storeState
        (s, w.calls.set i (.returned result), none) := by
  cases outcome with
  | written nonce =>
    refine ⟨_, ⟨_, run_persistEvents nonce hpc hfree⟩, ?_⟩
    simp [World.storeState, Store.persist, hfree]
  | failed =>
    obtain ⟨hi, hget⟩ := List.getElem?_eq_some_iff.mp hpc
    refine ⟨(w.setTmp none).leave i none, ⟨[⟨i, .advance⟩, ⟨i, .fail none⟩], ?_⟩, ?_⟩
    · simp [World.step, World.persistStep, World.goto, World.leave, World.setTmp, hget, hfree, hi,
        Stage.mayFail]
    · simp [World.storeState, Store.persist, World.leave, World.setTmp]

/-- **A call by itself.** From a state with the lock free, a pending call can be run to its end,
and what it leaves is what `Store.exec` says. -/
theorem run_alone {w : World} {i : ℕ} {call : Call}
    (hpc : w.calls[i]? = some (.pending call.op)) (hfree : w.persistLock = none) :
    ∃ w', Reachable (World.step lib key) w w' ∧
      (w'.storeState, w'.calls, w'.persistLock) =
        let (s, result) := Store.exec lib key call w.storeState
        (s, w.calls.set i (.returned result), none) := by
  obtain ⟨hi, hget⟩ := List.getElem?_eq_some_iff.mp hpc
  cases hsection : call.op.lockedSection lib w.data with
  | mk data next =>
    have hfirst : w.step lib key ⟨i, .advance⟩
        = some ({ w with data := data }.goto i next.pc) := by
      simp [World.step, hget, hi, hsection]
    cases next with
    | ret r =>
      refine ⟨_, Reachable.single hfirst, ?_⟩
      simp [Store.exec, World.storeState, World.goto, Next.pc, hsection, hfree]
    | persist r =>
      have hpc' : ({ w with data := data }.goto i (.persist .lock r)).calls[i]?
          = some (.persist .lock r) := by simp [World.goto, hi]
      obtain ⟨w', hrun, heq⟩ := run_persist_alone lib key call.persist hpc' hfree
      refine ⟨w', (Reachable.single hfirst).trans hrun, ?_⟩
      rw [heq]
      simp [Store.exec, World.storeState, World.goto, hsection]
    -- the second section deletes the record
    | removeChat chatId r =>
      have hsecond : ({ w with data := data }.goto i (.removeChat chatId r)).step lib key
          ⟨i, .advance⟩ =
            some ({ w with data := data.erase chatId }.goto i (.persist .lock r)) := by
        simp [World.step, World.goto, hi]
      have hpc' : ({ w with data := data.erase chatId }.goto i (.persist .lock r)).calls[i]?
          = some (.persist .lock r) := by simp [World.goto, hi]
      obtain ⟨w', hrun, heq⟩ := run_persist_alone lib key call.persist hpc' hfree
      refine ⟨w', ((Reachable.single hfirst).trans (Reachable.single hsecond)).trans hrun, ?_⟩
      rw [heq]
      simp [Store.exec, World.storeState, World.goto, hsection]

end Jmap2Telegram
