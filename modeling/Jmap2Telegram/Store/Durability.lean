import Jmap2Telegram.Store.Interleave

/-!
# Durable linearizability

However many calls interleave and wherever the process dies, what `Store::open` then finds in
`state.enc` is the data as it was in memory at one moment of the run. The moment only moves forward,
and every mutation whose call had returned `Ok` comes before it.

The witness is computed along the run: `Moments.snap` is when the current snapshot was taken, and
the rename makes it `Moments.file`, the moment the file shows. `PersistInv` ties the two to the
temporary file, the state file and where each call stands.

Reading a record back names its missing parent slots `"default"`, so the data comes back through
`StoreData.nameParents`; where every call names the parents it stores this changes nothing.

* `durablyLinearizable_nameParents`: for every run.
* `durablyLinearizable_id`: for every run whose calls name their parents.
-/

namespace Jmap2Telegram

open Transition

variable {lib : Externals} {key : Key}

/-! ### Crashes -/

/-- What a crash may leave of the state file: a synced file is left as it is, one that is not may
hold anything. The rename is atomic and durable, so the name refers to the file renamed last. -/
def Disk.Recovers (disk : Disk) (found : Option (List UInt8)) : Prop :=
  match disk.stateEnc with
  | none => found = none
  | some f => ∃ bytes, found = some bytes ∧ (f.synced = true → bytes = f.bytes)

/-- The store was opened on this directory, whose state file is on stable storage. -/
structure Disk.Opened (lib : Externals) (key : Key) (disk : Disk) (data : StoreData) : Prop where
  synced : ∀ f, disk.stateEnc = some f → f.synced = true
  opened : Store.openState lib key (disk.stateEnc.map File.bytes) = some data

/-- A run of interleaved calls. -/
abbrev WorldRun (lib : Externals) (key : Key) (data : StoreData) (disk : Disk) (ops : List Op) :=
  Execution (World.step lib key) (World.init data disk ops)

section

variable {data : StoreData} {disk : Disk} {ops : List Op} (x : WorldRun lib key data disk ops)

/-- Step `l` changed the data in memory. -/
def Mutates (l : ℕ) : Prop := (x.state (l + 1)).data ≠ (x.state l).data

/-- After `k` steps the call of step `l` has returned `Ok`. -/
def Acknowledged (k l : ℕ) : Prop :=
  ∃ (hl : l < x.events.length) (r : Ret),
    (x.state k).calls[x.events[l].call]? = some (.returned (some r))

/-- Durable linearizability, where a crash shows the data through `view`: each moment `k` of the
run has a moment `m k`, never later and never going back, such that a crash at `k` is recovered to
the data of `m k`, and the mutations acknowledged at `k` come before `m k`. -/
def DurablyLinearizable (view : StoreData → StoreData) : Prop :=
  ∃ m : ℕ → ℕ, ∀ k ≤ x.events.length,
    m k ≤ k ∧ (∀ j ≤ k, m j ≤ m k) ∧
    (∀ found, (x.state k).disk.Recovers found →
      Store.openState lib key found = some (view (x.state (m k)).data)) ∧
    ∀ l < k, Mutates x l → Acknowledged x k l → l < m k

end

/-! ### The moments -/

/-- The moment the state file shows, and the moment of the last snapshot. -/
structure Moments where
  file : ℕ
  snap : ℕ

/-- A snapshot at moment `k` is the last one; a rename makes the file show the last one. -/
def Moments.next (k : ℕ) (w : World) (e : Event) (m : Moments) : Moments :=
  match w.calls[e.call]?, e.action with
  | some (.persist .snapshot _), .encrypt _ => { m with snap := k }
  | some (.persist .rename _), .advance => { m with file := m.snap }
  | _, _ => m

/-- The file never shows more than the last snapshot, which is never in the future. -/
def Moments.Ordered (m : Moments) (k : ℕ) : Prop := m.file ≤ m.snap ∧ m.snap ≤ k

theorem Moments.ordered_next {m : Moments} {k : ℕ} (h : m.Ordered k) (w : World) (e : Event) :
    (m.next k w e).Ordered (k + 1) := by
  obtain ⟨hfile, hsnap⟩ := h
  unfold next Ordered
  split <;> grind

theorem Moments.le_next {m : Moments} {k : ℕ} (h : m.Ordered k) (w : World) (e : Event) :
    m.file ≤ (m.next k w e).file ∧ m.snap ≤ (m.next k w e).snap := by
  obtain ⟨hfile, hsnap⟩ := h
  unfold next
  split <;> grind

/-- What a `persist` at a stage has secured, when its snapshot shows `data`. -/
def Stage.Secured (lib : Externals) (key : Key) (data : StoreData) (tmp : Option File) :
    Stage → Prop
  | .create ciphertext | .write ciphertext => ∃ nonce, ciphertext = data.seal lib key nonce
  | .sync => ∃ nonce, tmp = some ⟨data.seal lib key nonce, false⟩
  | .setPermissions | .rename => ∃ nonce, tmp = some ⟨data.seal lib key nonce, true⟩
  | .lock | .snapshot | .syncDir => True

/-- How far a mutation of step `l` has come, by where its call stands. -/
def Moments.Covers (m : Moments) (l : ℕ) : Pc → Prop
  | .pending _ => False
  | .removeChat _ _ | .persist .lock _ | .persist .snapshot _ | .returned none => True
  | .persist (.create _) _ | .persist (.write _) _ | .persist .sync _ | .persist .setPermissions _
  | .persist .rename _ => l < m.snap
  | .persist .syncDir _ | .returned (some _) => l < m.file

theorem Moments.Covers.mono {m m' : Moments} {l : ℕ} {pc : Pc} (h : m.Covers l pc)
    (hfile : m.file ≤ m'.file) (hsnap : m.snap ≤ m'.snap) : m'.Covers l pc := by
  unfold Covers at h
  split at h
  case h_1 => exact h.elim
  case h_2 | h_3 | h_4 | h_5 => trivial
  case h_6 | h_7 | h_8 | h_9 | h_10 => exact lt_of_lt_of_le h hsnap
  case h_11 | h_12 => exact lt_of_lt_of_le h hfile

/-! ### One step -/

section

variable {w w' : World} {i : ℕ} {action : Action} {m : Moments} {k : ℕ}
  (view : ℕ → StoreData)

/-- A step leaves the state file alone, or renames a secured snapshot onto it. -/
theorem stateEnc_step (heffect : World.StepEffect lib key w i action w')
    (hsecured : ∀ (stage : Stage) (r : Ret), w.calls[i]? = some (.persist stage r) →
      stage.Secured lib key (view m.snap) w.disk.tmp) :
    (w'.disk.stateEnc = w.disk.stateEnc ∧ (m.next k w ⟨i, action⟩).file = m.file) ∨
      ∃ nonce, w'.disk.stateEnc = some ⟨(view m.snap).seal lib key nonce, true⟩ ∧
        (m.next k w ⟨i, action⟩).file = m.snap := by
  cases heffect with
  | rename hpc htmp =>
    obtain ⟨nonce, hnonce⟩ := hsecured _ _ hpc
    exact Or.inr ⟨nonce, htmp.symm.trans hnonce, by simp [Moments.next, hpc]⟩
  | lockedSection hpc | removeChat hpc | lock hpc | snapshot hpc | create hpc | write hpc
  | sync hpc | setPermissions hpc | syncDir hpc | fail hpc =>
    exact Or.inl ⟨rfl, by simp [Moments.next, hpc]⟩

/-- A step keeps what every `persist` has secured: only the holder of the lock touches the
temporary file or takes a snapshot. -/
theorem secured_step (heffect : World.StepEffect lib key w i action w') (hlock : w.LockHeld)
    (hview : view k = w.data)
    (hsecured : ∀ (j : ℕ) (stage : Stage) (r : Ret), w.calls[j]? = some (.persist stage r) →
      stage.Secured lib key (view m.snap) w.disk.tmp)
    (j : ℕ) (stage : Stage) (r : Ret) (hj : w'.calls[j]? = some (.persist stage r)) :
    stage.Secured lib key (view (m.next k w ⟨i, action⟩).snap) w'.disk.tmp := by
  by_cases hij : i = j
  · subst hij
    -- the call itself goes on with its `persist`
    cases heffect with
    | lockedSection hpc =>
      obtain rfl := Next.stage_eq_lock (pc_of_set hpc hj).symm
      trivial
    | removeChat hpc | lock hpc | rename hpc =>
      cases pc_of_set hpc hj
      trivial
    | snapshot hpc nonce =>
      cases pc_of_set hpc hj
      have hsnap : (m.next k w ⟨i, .encrypt nonce⟩).snap = k := by simp [Moments.next, hpc]
      rw [hsnap, hview]
      exact ⟨nonce, rfl⟩
    | create hpc =>
      cases pc_of_set hpc hj
      obtain ⟨nonce, hnonce⟩ := hsecured i _ _ hpc
      exact ⟨nonce, by simpa [Moments.next, hpc] using hnonce⟩
    | write hpc =>
      cases pc_of_set hpc hj
      obtain ⟨nonce, rfl⟩ := hsecured i _ _ hpc
      exact ⟨nonce, by simp [Moments.next, hpc]⟩
    | sync hpc htmp =>
      cases pc_of_set hpc hj
      obtain ⟨nonce, hnonce⟩ := hsecured i _ _ hpc
      cases htmp.symm.trans hnonce
      exact ⟨nonce, by simp [Moments.next, hpc]⟩
    | setPermissions hpc =>
      cases pc_of_set hpc hj
      obtain ⟨nonce, hnonce⟩ := hsecured i _ _ hpc
      exact ⟨nonce, by simpa [Moments.next, hpc] using hnonce⟩
    | syncDir hpc | fail hpc => cases pc_of_set hpc hj
  · rw [heffect.calls_of_ne hij] at hj
    have hold := hsecured j stage r hj
    by_cases hstage : stage = .lock
    · subst hstage
      trivial
    · -- `j` holds the lock, so call `i` can only be in one of its sections
      have hheld := hlock j stage r hj hstage
      have hother : ∀ stage' r', w.calls[i]? = some (.persist stage' r') → stage' ≠ .lock → False :=
        fun stage' r' hpc hstage' =>
          hij (Option.some.inj ((hlock i stage' r' hpc hstage').symm.trans hheld))
      cases heffect with
      | lockedSection hpc | removeChat hpc => simpa [Moments.next, hpc] using hold
      | lock hpc hfree => cases hfree.symm.trans hheld
      | snapshot hpc | create hpc | write hpc | sync hpc | setPermissions hpc | rename hpc
      | syncDir hpc => exact (hother _ _ hpc (by simp)).elim
      | fail hpc hfail => exact (hother _ _ hpc (by rintro rfl; cases hfail)).elim

/-- A step carries a mutation's cover along with its call. -/
theorem covers_step (heffect : World.StepEffect lib key w i action w') {l : ℕ} (hl : l < k)
    {pc pc' : Pc} (hpc : w.calls[i]? = some pc) (hcovers : m.Covers l pc)
    (hpc' : w'.calls[i]? = some pc') : (m.next k w ⟨i, action⟩).Covers l pc' := by
  cases heffect with
  | lockedSection h =>
    cases h.symm.trans hpc
    exact hcovers.elim
  | removeChat h | lock h | fail h =>
    cases pc_of_set h hpc'
    trivial
  -- the snapshot is taken now, after the mutation
  | snapshot h nonce =>
    cases pc_of_set h hpc'
    have hsnap : (m.next k w ⟨i, .encrypt nonce⟩).snap = k := by simp [Moments.next, h]
    exact hl.trans_eq hsnap.symm
  | rename h =>
    cases pc_of_set h hpc'
    cases h.symm.trans hpc
    have hfile : (m.next k w ⟨i, .advance⟩).file = m.snap := by simp [Moments.next, h]
    exact lt_of_lt_of_eq hcovers hfile.symm
  | create h | write h | sync h | setPermissions h | syncDir h =>
    cases pc_of_set h hpc'
    cases h.symm.trans hpc
    have hsame : m.next k w ⟨i, .advance⟩ = m := by simp [Moments.next, h]
    rw [hsame]
    exact hcovers

/-- A step that changes the data is a section, and leaves its call covered whatever the moments. -/
theorem covers_of_mutates (heffect : World.StepEffect lib key w i action w')
    (hdata : w'.data ≠ w.data) {pc' : Pc} (hpc' : w'.calls[i]? = some pc') (m : Moments) (l : ℕ) :
    m.Covers l pc' := by
  cases heffect with
  | @lockedSection op data next hpc hsection =>
    obtain rfl := pc_of_set hpc hpc'
    cases next with
    | ret r =>
      have hsame := lockedSection_of_ret (congrArg Prod.snd hsection)
      rw [hsection] at hsame
      exact absurd hsame hdata
    | persist r | removeChat c r => trivial
  | removeChat hpc =>
    cases pc_of_set hpc hpc'
    trivial
  | lock | snapshot | create | write | sync | setPermissions | rename | syncDir | fail =>
    exact absurd rfl hdata

end

section

variable {data : StoreData} {disk : Disk} {ops : List Op} (x : WorldRun lib key data disk ops)

/-- The moments along a run. -/
def moments : ℕ → Moments
  | 0 => ⟨0, 0⟩
  | k + 1 =>
    if hk : k < x.events.length then (moments k).next k (x.state k) x.events[k] else moments k

theorem moments_succ {k : ℕ} (hk : k < x.events.length) :
    moments x (k + 1) = (moments x k).next k (x.state k) x.events[k] := by
  rw [moments, dif_pos hk]

/-- What ties the moments to the files and to where each call stands, after `k` steps. -/
structure PersistInv (k : ℕ) : Prop where
  ordered : (moments x k).Ordered k
  recovers : ∀ found, (x.state k).disk.Recovers found →
    Store.openState lib key found = some (x.state (moments x k).file).data.nameParents
  secured : ∀ (i : ℕ) (stage : Stage) (r : Ret),
    (x.state k).calls[i]? = some (.persist stage r) →
    stage.Secured lib key (x.state (moments x k).snap).data (x.state k).disk.tmp
  covers : ∀ (l : ℕ) (hl : l < x.events.length) (pc : Pc), l < k → Mutates x l →
    (x.state k).calls[x.events[l].call]? = some pc → (moments x k).Covers l pc

theorem persistInv_zero (hopen : disk.Opened lib key data) : PersistInv x 0 where
  ordered := ⟨le_rfl, le_rfl⟩
  recovers found hfound := by
    obtain ⟨hsynced, hopened⟩ := hopen
    have hfile : found = disk.stateEnc.map File.bytes := by
      rw [x.state_zero] at hfound
      unfold Disk.Recovers World.init at hfound
      cases hdisk : disk.stateEnc with
      | none => simpa [hdisk] using hfound
      | some f =>
        simp only [hdisk] at hfound
        obtain ⟨bytes, rfl, hbytes⟩ := hfound
        rw [hbytes (hsynced f hdisk)]
        rfl
    rw [hfile, hopened, moments, x.state_zero]
    exact congrArg some (nameParents_of_openState hopened).symm
  secured i stage r h := by
    rw [x.state_zero] at h
    simp [World.init] at h
  covers l hl pc h := absurd h (Nat.not_lt_zero l)

/-- One step keeps the invariant. -/
theorem persistInv_succ (hlib : lib.Lawful) {k : ℕ} (hk : k < x.events.length)
    (h : PersistInv x k) : PersistInv x (k + 1) := by
  have heffect := stepEffect (x.state_succ hk)
  have hmoments := moments_succ x hk
  have hlock := lockHeld_state x (Nat.le_of_lt hk)
  have hle := Moments.le_next h.ordered (x.state k) x.events[k]
  refine ⟨?_, ?_, ?_, ?_⟩
  · rw [hmoments]
    exact Moments.ordered_next h.ordered _ _
  · intro found hfound
    rw [hmoments]
    -- the file stays, or a snapshot is renamed onto it
    rcases stateEnc_step (fun k => (x.state k).data) heffect (h.secured _)
      with ⟨hdisk, hfile⟩ | ⟨nonce, hdisk, hfile⟩
    · rw [hfile]
      refine h.recovers found ?_
      unfold Disk.Recovers at hfound ⊢
      rwa [hdisk] at hfound
    · rw [hfile]
      unfold Disk.Recovers at hfound
      rw [hdisk] at hfound
      obtain ⟨bytes, rfl, hbytes⟩ := hfound
      rw [hbytes rfl]
      exact openState_seal hlib nonce _
  · intro i stage r hi
    rw [hmoments]
    exact secured_step (fun k => (x.state k).data) heffect hlock rfl h.secured i stage r hi
  · intro l hl pc hlk hmut hpc
    rw [hmoments]
    -- a mutation from before the step, or the step itself
    rcases Nat.lt_succ_iff_lt_or_eq.mp hlk with hlk | rfl
    · by_cases hcall : x.events[k].call = x.events[l].call
      · rw [← hcall] at hpc
        obtain ⟨pc₀, hpc₀⟩ : ∃ pc₀, (x.state k).calls[x.events[k].call]? = some pc₀ :=
          ⟨_, List.getElem?_eq_getElem heffect.lt_length⟩
        exact covers_step heffect hlk hpc₀ (h.covers l hl pc₀ hlk hmut (hcall ▸ hpc₀)) hpc
      · rw [heffect.calls_of_ne hcall] at hpc
        exact (h.covers l hl pc hlk hmut hpc).mono hle.1 hle.2
    · exact covers_of_mutates heffect hmut hpc _ _

theorem persistInv (hlib : lib.Lawful) (hopen : disk.Opened lib key data) {k : ℕ}
    (hk : k ≤ x.events.length) : PersistInv x k := by
  induction k with
  | zero => exact persistInv_zero x hopen
  | succ k ih => exact persistInv_succ x hlib hk (ih (Nat.le_of_succ_le hk))

/-- The file never goes back to an older snapshot. -/
theorem moments_file_mono (hlib : lib.Lawful) (hopen : disk.Opened lib key data) {j k : ℕ}
    (hjk : j ≤ k) (hk : k ≤ x.events.length) : (moments x j).file ≤ (moments x k).file := by
  induction k, hjk using Nat.le_induction with
  | base => exact le_rfl
  | succ k _ ih =>
    have hordered := (persistInv x hlib hopen (Nat.le_of_succ_le hk)).ordered
    refine (ih (Nat.le_of_succ_le hk)).trans ?_
    rw [moments_succ x hk]
    exact (Moments.le_next hordered _ _).1

/-- **Main result.** Every run is durably linearizable, up to the naming of missing parents. -/
theorem durablyLinearizable_nameParents (hlib : lib.Lawful) (hopen : disk.Opened lib key data) :
    DurablyLinearizable x StoreData.nameParents := by
  refine ⟨fun k => (moments x k).file, fun k hk => ?_⟩
  have hinv := persistInv x hlib hopen hk
  refine ⟨hinv.ordered.1.trans hinv.ordered.2,
    fun j hj => moments_file_mono x hlib hopen hj hk, hinv.recovers, ?_⟩
  rintro l hlk hmut ⟨hl, r, hpc⟩
  exact hinv.covers l hl _ hlk hmut hpc

end

/-! ### Named parents -/

/-- Every shared account of the record names its parent slot. -/
def Account.NamesParents (account : Account) : Prop :=
  ∀ (accountId : String) (shared : SharedAccount),
    account.sharedAccounts[accountId]? = some shared → shared.parentSlot.isSome

/-- Every shared account of the data names its parent slot. -/
def StoreData.NamesParents (data : StoreData) : Prop :=
  ∀ (chatId : ChatId) (account : Account), data.accounts[chatId]? = some account →
    account.NamesParents

/-- The call names the parent slot of every shared account it stores. -/
def Op.NamesParents : Op → Prop
  | .set _ account => account.NamesParents
  | .setSharedAccount _ _ _ _ parentSlot => parentSlot.isSome
  | _ => True

section

variable {data : StoreData} {account : Account} {chatId : ChatId}

theorem Account.nameParents_eq_self (h : account.NamesParents) : account.nameParents = account := by
  have hshared := Map.map_eq_self fun accountId shared hs =>
    SharedAccount.nameParent_eq_self (h accountId shared hs)
  rw [Account.nameParents, hshared]

theorem StoreData.nameParents_eq_self (h : data.NamesParents) : data.nameParents = data :=
  congrArg StoreData.mk (Map.map_eq_self fun chatId account ha =>
    Account.nameParents_eq_self (h chatId account ha))

theorem StoreData.namesParents_nameParents (data : StoreData) : data.nameParents.NamesParents := by
  intro chatId account ha accountId shared hs
  rw [StoreData.nameParents, Std.ExtTreeMap.getElem?_map, Option.map_eq_some_iff] at ha
  obtain ⟨account', -, rfl⟩ := ha
  rw [Account.nameParents, Std.ExtTreeMap.getElem?_map, Option.map_eq_some_iff] at hs
  obtain ⟨shared', -, rfl⟩ := hs
  rfl

theorem StoreData.NamesParents.insert (h : data.NamesParents) (ha : account.NamesParents) :
    (StoreData.mk (data.accounts.insert chatId account)).NamesParents := by
  intro c account' hc
  rw [Std.ExtTreeMap.getElem?_insert] at hc
  split at hc
  · cases hc
    exact ha
  · exact h c account' hc

theorem StoreData.NamesParents.modify (h : data.NamesParents) {f : Account → Account}
    (hf : ∀ account, account.NamesParents → (f account).NamesParents) :
    (data.modify chatId f).NamesParents := by
  intro c account' hc
  rw [StoreData.modify, Map.getElem?_modify] at hc
  split at hc
  · obtain ⟨account, haccount, rfl⟩ := Option.map_eq_some_iff.mp hc
    exact hf account (h c account haccount)
  · exact h c account' hc

theorem StoreData.NamesParents.erase (h : data.NamesParents) :
    (data.erase chatId).NamesParents := by
  intro c account' hc
  rw [StoreData.erase, Std.ExtTreeMap.getElem?_erase] at hc
  split at hc
  · cases hc
  · exact h c account' hc

theorem Account.NamesParents.modifyShared (h : account.NamesParents) {accountId : String}
    {f : SharedAccount → SharedAccount} (hf : ∀ shared, (f shared).parentSlot = shared.parentSlot) :
    (account.modifyShared accountId f).NamesParents := by
  intro id shared' hid
  rw [Account.modifyShared, Map.getElem?_modify] at hid
  split at hid
  · obtain ⟨shared, hshared, rfl⟩ := Option.map_eq_some_iff.mp hid
    rw [hf]
    exact h id shared hshared
  · exact h id shared' hid

theorem Account.NamesParents.modifyPrimarySlot (h : account.NamesParents)
    (f : AccountSlot → AccountSlot) : (account.modifyPrimarySlot f).NamesParents := by
  unfold Account.modifyPrimarySlot
  split <;> exact h

/-- A call that names its parents leaves data whose parents are named. -/
theorem namesParents_lockedSection {op : Op} (hop : op.NamesParents) (h : data.NamesParents) :
    (op.lockedSection lib data).1.NamesParents := by
  have hsection := sectionEdit lib op data
  generalize op.lockedSection lib data = result at hsection ⊢
  cases hsection with
  | same => exact h
  | set chatId account => exact h.insert hop
  | addAccount chatId slot generated =>
    refine h.insert fun accountId shared hshared => ?_
    cases haccount : data.accounts[chatId]? with
    | none => simp [haccount, Account.empty] at hshared
    | some account =>
      rw [haccount] at hshared
      exact h chatId account haccount accountId shared hshared
  | removeAccount chatId slotId =>
    rw [Store.removeAccount]
    split
    case h_2 => exact h
    case h_1 account haccount =>
      split
      case isFalse => exact h
      case isTrue =>
        exact h.insert fun accountId shared hshared =>
          h chatId account haccount accountId shared (Map.getElem?_filter_eq_some.mp hshared).1
  | remove chatId =>
    rw [Store.remove]
    split
    · exact h.erase
    · exact h
  | edited _ f r hedit =>
    refine h.modify fun account haccount => ?_
    cases hedit with
    | setSharedAccount chatId accountId name lastState parentSlot =>
      intro id shared hid
      rw [Std.ExtTreeMap.getElem?_insert] at hid
      split at hid
      · cases hid
        exact hop
      · exact haccount id shared hid
    | removeSharedAccount chatId accountId =>
      intro id shared hid
      rw [Std.ExtTreeMap.getElem?_erase] at hid
      split at hid
      · cases hid
      · exact haccount id shared hid
    -- edits in place keep the parents
    | setSharedAccountThreadId | updateSharedAccountState =>
      exact haccount.modifyShared fun _ => rfl
    | updateState => exact haccount.modifyPrimarySlot _
    | updateAccountState | setAccountThreadId | setThreadsEnabled | setLanguage | addExtraAccount
    | mute | unmute => exact haccount

end

section

variable {data : StoreData} {disk : Disk} {ops : List Op} (x : WorldRun lib key data disk ops)

/-- What keeps the parents named along a run: the data names them, and so does every call that is
still to run. -/
def World.NamesParents (w : World) : Prop :=
  w.data.NamesParents ∧ ∀ (i : ℕ) (op : Op), w.calls[i]? = some (.pending op) → op.NamesParents

theorem namesParents_step {w w' : World} {e : Event} (hw : w.NamesParents)
    (h : w.step lib key e = some w') : w'.NamesParents := by
  have heffect := stepEffect h
  generalize e.call = i, e.action = action at heffect
  obtain ⟨hdata, hcalls⟩ := hw
  refine ⟨?_, fun j op hj => ?_⟩
  · cases heffect with
    | @lockedSection op data next hpc hsection =>
      have hnames : (op.lockedSection lib w.data).1.NamesParents :=
        namesParents_lockedSection (hcalls i op hpc) hdata
      rwa [hsection] at hnames
    | removeChat => exact hdata.erase
    | lock | snapshot | create | write | sync | setPermissions | rename | syncDir | fail =>
      exact hdata
  -- calls that are still to run have not changed
  · exact hcalls j op (heffect.pending_of hj)

theorem namesParents_state (hopen : disk.Opened lib key data) (hops : ∀ op ∈ ops, op.NamesParents)
    {k : ℕ} (hk : k ≤ x.events.length) : (x.state k).data.NamesParents := by
  refine (x.induction (fun _ w => w.NamesParents) ⟨?_, fun i op hi => ?_⟩
    (fun _ _ ih h => namesParents_step ih h) hk).1
  · have hdata := StoreData.namesParents_nameParents data
    rwa [nameParents_of_openState hopen.opened] at hdata
  · simp only [World.init, List.getElem?_map, Option.map_eq_some_iff, Pc.pending.injEq] at hi
    obtain ⟨op', hop', rfl⟩ := hi
    exact hops _ (List.mem_of_getElem? hop')

/-- A run whose calls name their parents is durably linearizable with nothing renamed. -/
theorem durablyLinearizable_id (hlib : lib.Lawful) (hopen : disk.Opened lib key data)
    (hops : ∀ op ∈ ops, op.NamesParents) : DurablyLinearizable x id := by
  obtain ⟨m, hm⟩ := durablyLinearizable_nameParents x hlib hopen
  refine ⟨m, fun k hk => ?_⟩
  obtain ⟨hle, hmono, hrecovers, hacked⟩ := hm k hk
  refine ⟨hle, hmono, fun found hfound => ?_, hacked⟩
  rw [hrecovers found hfound,
    StoreData.nameParents_eq_self (namesParents_state x hopen hops (hle.trans hk))]
  rfl

/-- **Durable linearizability.** Every run is durably linearizable up to the naming of missing
parents, and exactly so when its calls name the parents they store. -/
theorem durable_linearizability (hlib : lib.Lawful) (hopen : disk.Opened lib key data) :
    DurablyLinearizable x StoreData.nameParents ∧
      ((∀ op ∈ ops, op.NamesParents) → DurablyLinearizable x id) :=
  ⟨durablyLinearizable_nameParents x hlib hopen, durablyLinearizable_id x hlib hopen⟩

end

/-! ### A missing parent -/

section

/-- The directory whose state file holds `oneSlotData`. -/
def oneSlotDisk : Disk := ⟨none, some ⟨oneSlotData.seal .concrete sampleKey sampleNonce, true⟩⟩

theorem namesParents_oneSlotData : oneSlotData.NamesParents := by
  intro chatId account ha accountId shared hs
  rw [oneSlotData, Std.ExtTreeMap.getElem?_insert] at ha
  split at ha
  · cases ha
    simp [Account.empty] at hs
  · simp at ha

theorem opened_oneSlotDisk : oneSlotDisk.Opened .concrete sampleKey oneSlotData where
  synced f hf := by
    cases hf
    rfl
  opened := by
    refine (openState_seal Externals.lawful_concrete sampleNonce oneSlotData).trans ?_
    rw [StoreData.nameParents_eq_self namesParents_oneSlotData]

/-- A shared mailbox stored without a parent slot, and persisted. -/
def missingParentOp : Op := .setSharedAccount 1 "acc7" "team@b.c" none none

def missingParentRun :
    WorldRun Externals.concrete sampleKey oneSlotData oneSlotDisk [missingParentOp] where
  events := ⟨0, .advance⟩ :: persistEvents 0 sampleNonce
  enabled := rfl

/-- The parent slot chat 1's shared mailbox names. -/
def namedParent (data : StoreData) : Option String :=
  (data.shared? 1 "acc7").bind SharedAccount.parentSlot

theorem namedParent_missingParentOp (data : StoreData) (h : namedParent data = none) :
    namedParent (missingParentOp.lockedSection .concrete data).1 = none := by
  simp only [missingParentOp, Op.lockedSection, Store.setSharedAccount]
  split
  case h_2 => exact h
  case h_1 account haccount =>
    simp [namedParent, StoreData.shared?, StoreData.modify, haccount]

/-- At no moment of the run does the mailbox have a parent in memory. -/
theorem namedParent_missingParentRun {k : ℕ} (hk : k ≤ missingParentRun.events.length) :
    namedParent (missingParentRun.state k).data = none := by
  refine (missingParentRun.induction
    (fun _ w => namedParent w.data = none ∧
      ((w.calls = [.pending missingParentOp]) ∨ ∃ pc, w.calls = [pc] ∧ pc.IsPast))
    ⟨by decide, Or.inl rfl⟩ (fun k hk hinv hstep => ?_) hk).1
  have heffect := stepEffect hstep
  obtain ⟨hnone, hcalls⟩ := hinv
  generalize missingParentRun.state k = w, missingParentRun.state (k + 1) = w',
    missingParentRun.events[k].call = i at heffect hnone hcalls
  have hi : i = 0 := by
    have hlt := heffect.lt_length
    rcases hcalls with hcalls | ⟨pc, hcalls, -⟩ <;> simpa [hcalls] using hlt
  subst hi
  -- the one call runs its section, which leaves the parent out, and then only persists
  rcases hcalls with hcalls | ⟨pc, hcalls, hpast⟩
  · have hpc : w.calls[0]? = some (.pending missingParentOp) := by rw [hcalls]; rfl
    cases heffect.of_pending hpc
    refine ⟨namedParent_missingParentOp _ hnone,
      Or.inr ⟨(missingParentOp.lockedSection .concrete w.data).2.pc, by simp [World.goto, hcalls],
        Next.isPast_pc fun c r hnext => ?_⟩⟩
    simp only [missingParentOp, Op.lockedSection, Store.setSharedAccount] at hnext
    split at hnext <;> cases hnext
  · have hpc : w.calls[0]? = some pc := by rw [hcalls]; rfl
    obtain ⟨hdata, pc', hcalls', hpast'⟩ := heffect.of_isPast hpc hpast
    exact ⟨by rwa [hdata], Or.inr ⟨pc', by simp [hcalls', hcalls], hpast'⟩⟩

/-- Reopening that store gives the mailbox a parent it had at no moment in memory. -/
theorem not_durablyLinearizable_missingParentRun : ¬DurablyLinearizable missingParentRun id := by
  rintro ⟨m, hm⟩
  obtain ⟨hle, -, hrecovers, -⟩ := hm missingParentRun.events.length le_rfl
  have hsection : run (World.step .concrete sampleKey)
      (World.init oneSlotData oneSlotDisk [missingParentOp]) [⟨0, .advance⟩] =
        some ({ World.init oneSlotData oneSlotDisk [missingParentOp] with
          data := (missingParentOp.lockedSection .concrete oneSlotData).1 }.goto 0
            (.persist .lock .unit)) := rfl
  have hrun := run_trans hsection (run_persistEvents (i := 0) (r := .unit) sampleNonce rfl rfl)
  have hfinal := Option.some.inj (missingParentRun.run_events.symm.trans hrun)
  have hdisk : (missingParentRun.state missingParentRun.events.length).disk.stateEnc =
      some ⟨(missingParentOp.lockedSection .concrete oneSlotData).1.seal .concrete sampleKey
        sampleNonce, true⟩ := by
    rw [missingParentRun.state_length, hfinal]
    rfl
  have hfound := hrecovers (some _) (by
    rw [Disk.Recovers, hdisk]
    exact ⟨_, rfl, fun _ => rfl⟩)
  rw [openState_seal Externals.lawful_concrete, Option.some.injEq] at hfound
  have hnone := namedParent_missingParentRun hle
  change namedParent (id _) = none at hnone
  rw [← hfound] at hnone
  revert hnone
  decide

/-- The main result at that run: up to the name of the parent it is durably linearizable. -/
theorem durable_linearizability_missingParentRun :
    DurablyLinearizable missingParentRun StoreData.nameParents ∧
      ((∀ op ∈ [missingParentOp], op.NamesParents) → DurablyLinearizable missingParentRun id) :=
  durable_linearizability missingParentRun Externals.lawful_concrete opened_oneSlotDisk

end

end Jmap2Telegram
