import Jmap2Telegram.Health.Metrics
import Jmap2Telegram.State.AppState
import Jmap2Telegram.Store.Operations
import Jmap2Telegram.Transition.Gauge

/-!
# The gauges of the bot

`/metrics` shows how many undo slots are open and how many chats have a record. Each is a number the
handlers store after they changed what it counts (`refresh_undo_gauge`, `refresh_accounts_gauge`).
The handlers run concurrently; here each is the program of what it does to the two maps and their
gauges, cut where another handler can come between.

`refresh_undo_gauge` holds the read lock of the map until the gauge is set. `refresh_accounts_gauge`
counts first, and sets the gauge when the lock is released.

* `pendingUndos_near`: the gauge of undo slots is off by no more than the handlers that have still
  to refresh it.
* `accounts_near`: so is the gauge of accounts while no two handlers refresh it at once, but for the
  refreshes that are dropped, by a failing write or by an `/accounts` that makes a record.
* `overlapping_logins`: two handlers that refresh it at once can leave it short.
-/

namespace Jmap2Telegram

open Transition

/-- The state of the bot, and what `/metrics` shows of it. -/
structure Gauged where
  app : AppState
  metrics : Metrics

/-- What follows a store operation in its handler. -/
inductive AfterCall where
  | nothing
  | login (chatId : ChatId) (lang : String)
  | disconnect
  | logout

/-- The store operations of the handlers: those that add or remove the record of a chat, and any of
those that edit it. -/
inductive StoreCall where
  | login (chatId : ChatId) (slot : AccountSlot) (generated : GeneratedSlotId) (lang : String)
  | comptes (chatId : ChatId) (slot : AccountSlot) (generated : GeneratedSlotId)
  | disconnect (chatId : ChatId) (slotId : String)
  | logout (chatId : ChatId)
  | edit (op : Op) (h : ∃ f, op.Edits f)

/-- What a handler does in one go. -/
inductive GaugeInstr where
  | insertUndo (chatId : ChatId) (pending : PendingUndo)
  | removeUndo (chatId : ChatId)
  /-- `refresh_undo_gauge`, up to the length of the map. -/
  | readPendingUndo
  /-- The end of `refresh_undo_gauge`, which releases the lock. -/
  | setPendingUndos (n : ℕ)
  /-- The first section of a store operation. -/
  | call (c : StoreCall)
  /-- The second section of `remove_account`. -/
  | eraseChat (chatId : ChatId)
  /-- `persist`, with what is returned if it succeeds. -/
  | persist (after : AfterCall) (r : Ret)
  /-- `refresh_accounts_gauge`, up to `count`. -/
  | countAccounts
  /-- The end of `refresh_accounts_gauge`. -/
  | setAccounts (n : ℕ)

namespace StoreCall

/-- The operation that is called. -/
def op : StoreCall → Op
  | login chatId slot generated _ | comptes chatId slot generated =>
    .addAccount chatId slot generated
  | disconnect chatId slotId => .removeAccount chatId slotId
  | logout chatId => .remove chatId
  | edit op _ => op

/-- What follows it. -/
def after : StoreCall → AfterCall
  | login chatId _ _ lang => .login chatId lang
  | disconnect _ _ => .disconnect
  | logout _ => .logout
  | comptes _ _ _ | edit _ _ => .nothing

end StoreCall

namespace AfterCall

/-- Whether the gauge of accounts is refreshed after the operation returned; `none` is an error. -/
def refreshes : AfterCall → Option Ret → Bool
  | nothing, _ => false
  | login _ _, result => result.isSome
  | disconnect, result => result == some (.bool true)
  | logout, _ => true

/-- What the handler does after the operation returned: a login stores its language before. -/
def program (after : AfterCall) (result : Option Ret) : List GaugeInstr :=
  if after.refreshes result then
    match after with
    | login chatId lang =>
      [.call (.edit (.setLanguage chatId lang) ⟨_, .setLanguage chatId lang⟩), .countAccounts]
    | nothing | disconnect | logout => [.countAccounts]
  else []

end AfterCall

namespace GaugeInstr

variable (lib : Externals)

/-- What an instruction does, and what its handler runs next; the answer says whether a write to the
disk succeeds. -/
def exec (written : Bool) (instr : GaugeInstr) (s : Gauged) : Gauged × List GaugeInstr :=
  match instr with
  | insertUndo chatId pending =>
    ({ s with app := { s.app with pendingUndo := s.app.pendingUndo.insert chatId pending } },
      [readPendingUndo])
  | removeUndo chatId =>
    ({ s with app := { s.app with pendingUndo := s.app.pendingUndo.erase chatId } },
      [readPendingUndo])
  | readPendingUndo => (s, [setPendingUndos s.app.pendingUndo.size])
  | setPendingUndos n => ({ s with metrics := s.metrics.apply (.setPendingUndos n) }, [])
  | call c =>
    ({ s with app := { s.app with data := (c.op.lockedSection lib s.app.data).1 } },
      match (c.op.lockedSection lib s.app.data).2 with
      | .ret r => c.after.program (some r)
      | .persist r => [persist c.after r]
      | .removeChat chatId _ => [eraseChat chatId])
  | eraseChat chatId =>
    ({ s with app := { s.app with data := s.app.data.erase chatId } },
      [persist .disconnect (.bool true)])
  | persist after r => (s, after.program (if written then some r else none))
  | countAccounts => (s, [setAccounts s.app.data.accounts.size])
  | setAccounts n => ({ s with metrics := s.metrics.apply (.setAccounts n) }, [])

/-- Who changes the map of undo slots waits for those who hold its read lock. -/
def blocked (tasks : List (List GaugeInstr)) : GaugeInstr → Bool
  | insertUndo _ _ | removeUndo _ =>
    tasks.any fun program => program.any fun i =>
      match i with
      | setPendingUndos _ => true
      | _ => false
  | _ => false

/-- One step of the handlers. -/
abbrev step := System.step blocked (exec lib)

end GaugeInstr

/-- The handlers that change what the gauges count. -/
inductive GaugeHandler where
  /-- `perform_triage_action`, once the message is moved and the tap is answered. -/
  | triage (chatId : ChatId) (pending : PendingUndo)
  /-- The tap on an undo button. -/
  | undo (chatId : ChatId)
  /-- `cmd_login`, once it is connected. -/
  | login (chatId : ChatId) (slot : AccountSlot) (generated : GeneratedSlotId) (lang : String)
  /-- `cmd_comptes`, once it is connected. -/
  | comptes (chatId : ChatId) (slot : AccountSlot) (generated : GeneratedSlotId)
  /-- `disconnect_account`. -/
  | disconnect (chatId : ChatId) (slotId : String)
  /-- `cmd_logout`, or the button that logs out of everything: `forget`, then `remove`. -/
  | logout (chatId : ChatId)
  /-- A handler that edits the record of a chat. -/
  | edit (op : Op) (h : ∃ f, op.Edits f)

/-- What a handler does to the maps and their gauges. -/
def GaugeHandler.program : GaugeHandler → List GaugeInstr
  | triage chatId pending => [.insertUndo chatId pending]
  | undo chatId => [.removeUndo chatId]
  | login chatId slot generated lang => [.call (.login chatId slot generated lang)]
  | comptes chatId slot generated => [.call (.comptes chatId slot generated)]
  | disconnect chatId slotId => [.call (.disconnect chatId slotId)]
  | logout chatId => [.removeUndo chatId, .call (.logout chatId)]
  | edit op h => [.call (.edit op h)]

/-- Handlers that start at once. -/
def GaugeHandler.start (app : AppState) (metrics : Metrics) (handlers : List GaugeHandler) :
    System Gauged GaugeInstr :=
  ⟨⟨app, metrics⟩, handlers.map GaugeHandler.program⟩

/-! ### Undo slots -/

/-- The gauge of undo slots. -/
def undoGauge : Gauge Gauged GaugeInstr Bool where
  actual s := s.app.pendingUndo.size
  shown s := s.metrics.pendingUndos
  owed
    | .readPendingUndo | .setPendingUndos _ => true
    | _ => false
  shows?
    | .setPendingUndos n => some n
    | _ => none
  drops _ _ _ := false

section

variable {lib : Externals} {app : AppState} {metrics : Metrics}

/-- The handlers start with a change of one of the maps. -/
theorem GaugeHandler.mem_program {handler : GaugeHandler} {i : GaugeInstr}
    (hi : i ∈ handler.program) :
    (∃ chatId pending, i = .insertUndo chatId pending) ∨ (∃ chatId, i = .removeUndo chatId) ∨
      ∃ c, i = .call c := by
  cases handler with
  | triage chatId pending => exact .inl ⟨_, _, List.mem_singleton.mp hi⟩
  | undo chatId => exact .inr (.inl ⟨_, List.mem_singleton.mp hi⟩)
  | logout chatId =>
    rcases List.mem_cons.mp hi with rfl | hi
    · exact .inr (.inl ⟨_, rfl⟩)
    · exact .inr (.inr ⟨_, List.mem_singleton.mp hi⟩)
  | login | comptes | disconnect | edit => exact .inr (.inr ⟨_, List.mem_singleton.mp hi⟩)

/-- What follows a store operation: at most another one, and a refresh of the gauge of accounts. -/
theorem mem_program {after : AfterCall} {result : Option Ret} {i : GaugeInstr}
    (hi : i ∈ after.program result) : (∃ c, i = .call c) ∨ i = .countAccounts := by
  unfold AfterCall.program at hi
  split at hi
  case isFalse => cases hi
  case isTrue =>
    cases after with
    | login chatId lang =>
      rcases List.mem_cons.mp hi with rfl | hi
      · exact .inl ⟨_, rfl⟩
      · exact .inr (List.mem_singleton.mp hi)
    | nothing | disconnect | logout => exact .inr (List.mem_singleton.mp hi)

/-- What a store operation brings: what follows it, or its second half. -/
theorem mem_exec_call {written : Bool} {c : StoreCall} {s : Gauged} {i : GaugeInstr}
    (hi : i ∈ (GaugeInstr.exec lib written (.call c) s).2) :
    (∃ c, i = .call c) ∨ i = .countAccounts ∨ (∃ r, i = .persist c.after r) ∨
      ∃ chatId, i = .eraseChat chatId := by
  simp only [GaugeInstr.exec] at hi
  split at hi
  · exact (mem_program hi).imp_right .inl
  · exact .inr (.inr (.inl ⟨_, List.mem_singleton.mp hi⟩))
  · exact .inr (.inr (.inr ⟨_, List.mem_singleton.mp hi⟩))

/-- The handlers refresh the gauge of undo slots as they should. -/
theorem refreshed_undoGauge : undoGauge.Refreshed (GaugeInstr.exec lib) where
  owed_of_shows i n hn := by
    cases i with
    | setPendingUndos => rfl
    | _ => cases hn
  shows written i s n hn := by
    cases i with
    | setPendingUndos m =>
      cases hn
      exact ⟨rfl, rfl⟩
    | _ => cases hn
  waits written i s howed hshows := by
    cases i with
    | readPendingUndo => exact ⟨rfl, rfl, Nat.le_refl 1⟩
    | setPendingUndos => cases hshows
    | _ => cases howed
  changes written i s howed := by
    cases i with
    | readPendingUndo | setPendingUndos => cases howed
    | insertUndo chatId pending =>
      exact ⟨rfl, Std.ExtTreeMap.size_insert_le,
        Std.ExtTreeMap.size_le_size_insert.trans (Nat.le_add_right _ _)⟩
    | removeUndo chatId =>
      exact ⟨rfl, Std.ExtTreeMap.size_erase_le.trans (Nat.le_add_right _ _),
        Std.ExtTreeMap.size_le_size_erase⟩
    | _ => exact ⟨rfl, Nat.le_add_right _ _, Nat.le_add_right _ _⟩
  reads written i s j hj n hn := by
    cases i with
    | readPendingUndo =>
      obtain rfl := List.mem_singleton.mp hj
      cases hn
      rfl
    | insertUndo | removeUndo | eraseChat | countAccounts =>
      obtain rfl := List.mem_singleton.mp hj
      cases hn
    | setPendingUndos | setAccounts => cases hj
    | call c =>
      rcases mem_exec_call hj with ⟨c, rfl⟩ | rfl | ⟨r, rfl⟩ | ⟨chatId, rfl⟩ <;> cases hn
    | persist after r =>
      rcases mem_program hj with ⟨c, rfl⟩ | rfl <;> cases hn

/-- At the start the gauge of the undos is exact. -/
theorem near_undoGauge_start (handlers : List GaugeHandler)
    (hshown : metrics.pendingUndos = app.pendingUndo.size) :
    undoGauge.Near (GaugeHandler.start app metrics handlers) 0 := by
  have hg : undoGauge.Refreshed (GaugeInstr.exec .concrete) := refreshed_undoGauge
  refine Gauge.near_start hg hshown ?_
  intro p hp i hi
  obtain ⟨handler, -, rfl⟩ := List.mem_map.mp hp
  rcases handler.mem_program hi with ⟨chatId, pending, rfl⟩ | ⟨chatId, rfl⟩ | ⟨c, rfl⟩ <;> rfl

/-- The lock keeps the map as it is while the gauge is about to be set. -/
theorem quiet_undoGauge {s s' : System Gauged GaugeInstr} {e : ℕ × Bool}
    (hstep : GaugeInstr.step lib s e = some s')
    (hchanged : undoGauge.actual s'.state ≠ undoGauge.actual s.state) : undoGauge.Quiet s := by
  obtain ⟨instr, rest, -, hfree, rfl⟩ := System.step_eq_some_iff.mp hstep
  have hnone : GaugeInstr.blocked s.tasks (.removeUndo 0) = false → undoGauge.Quiet s := by
    intro hfree p hp i hi
    have hany := List.any_eq_false.mp (Bool.eq_false_iff.mpr (List.any_eq_false.mp hfree p hp)) i hi
    cases i with
    | setPendingUndos => exact absurd rfl hany
    | _ => rfl
  cases instr with
  | insertUndo | removeUndo => exact hnone hfree
  | _ => exact absurd rfl hchanged

/-- **The gauge of undo slots never drifts.** However the handlers of any number of chats
interleave, it is off by no more than the refreshes the handlers have still to run; so it is exact
whenever none of them is between a change and its refresh, and in the end. -/
theorem pendingUndos_near (handlers : List GaugeHandler)
    (hshown : metrics.pendingUndos = app.pendingUndo.size)
    (x : Execution (GaugeInstr.step lib) (GaugeHandler.start app metrics handlers)) {k : ℕ}
    (hk : k ≤ x.events.length) :
    let s := x.state k
    s.state.metrics.pendingUndos ≤ s.state.app.pendingUndo.size + undoGauge.owing s ∧
      s.state.app.pendingUndo.size ≤ s.state.metrics.pendingUndos + undoGauge.owing s ∧
      (undoGauge.owing s = 0 → s.state.metrics.pendingUndos = s.state.app.pendingUndo.size) := by
  have hnear := Gauge.near_execution refreshed_undoGauge
    (near_undoGauge_start handlers hshown) x (fun k hk => quiet_undoGauge (x.state_succ hk)) hk
  rw [Gauge.droppedIn_eq_zero fun _ _ _ => rfl] at hnear
  exact ⟨hnear.shown_le, hnear.actual_le, hnear.exact⟩

end

/-! ### Accounts -/

/-- The gauge of accounts. A refresh is dropped in two ways: the write before it fails, or the
record is made by `/accounts`, which never refreshes the gauge. (It expects a record, and makes one
when the chat logs out while it connects.) -/
def recordGauge : Gauge Gauged GaugeInstr Bool where
  actual s := s.app.data.accounts.size
  shown s := s.metrics.accounts
  owed
    | .persist after r => after.refreshes (some r)
    | .countAccounts | .setAccounts _ => true
    | _ => false
  shows?
    | .setAccounts n => some n
    | _ => none
  drops written instr s :=
    match instr with
    | .persist after r =>
      after.refreshes (some r) && !after.refreshes (if written then some r else none)
    | .call (.comptes chatId _ _) => chatId ∉ s.app.data.accounts
    | _ => false

section

variable {lib : Externals} {app : AppState} {metrics : Metrics}

/-- A handler owes a refresh if its call changed the number of records. -/
theorem countP_program {after : AfterCall} {result : Option Ret} :
    (after.program result).countP recordGauge.owed = (after.refreshes result).toNat := by
  unfold AfterCall.program
  split
  case isTrue hrefreshes =>
    rw [hrefreshes]
    cases after <;> rfl
  case isFalse hrefreshes =>
    rw [Bool.eq_false_iff.mpr hrefreshes]
    rfl

/-- An operation that edits a record leaves their number. -/
theorem size_lockedSection_of_edits {op : Op} (h : ∃ f, op.Edits f) (data : StoreData) :
    (op.lockedSection lib data).1.accounts.size = data.accounts.size := by
  obtain ⟨f, hf⟩ := h
  have hedit := sectionEdit lib op data
  generalize op.lockedSection lib data = result at hedit ⊢
  cases hedit with
  | same => rfl
  | edited => exact Std.ExtTreeMap.size_modify
  | set | addAccount | removeAccount | remove => cases hf

/-- Replacing a record leaves their number. -/
theorem size_insert_of_mem {data : StoreData} {chatId : ChatId} {account : Account}
    (h : chatId ∈ data.accounts) :
    (data.accounts.insert chatId account).size = data.accounts.size := by
  rw [Std.ExtTreeMap.size_insert, if_pos (Std.ExtTreeMap.contains_iff_mem.mpr h)]

/-- The first section of `remove_account` leaves the record. -/
theorem size_removeAccount {data : StoreData} {chatId : ChatId} {slotId : String} :
    (Store.removeAccount chatId slotId data).1.accounts.size = data.accounts.size := by
  rw [Store.removeAccount]
  split
  case h_1 account haccount =>
    split
    · exact size_insert_of_mem (Map.mem_of_getElem? haccount)
    · rfl
  case h_2 => rfl

/-- A logout takes a record away at most, and refreshes the gauge. -/
theorem size_call_logout (lib : Externals) (written : Bool) (s : Gauged) (chatId : ChatId) :
    let result := GaugeInstr.exec lib written (.call (.logout chatId)) s
    recordGauge.actual result.1 ≤ recordGauge.actual s ∧
      recordGauge.actual s ≤ recordGauge.actual result.1 + 1 ∧
      result.2.countP recordGauge.owed = 1 := by
  simp only [GaugeInstr.exec, StoreCall.op, Op.lockedSection, Store.remove]
  split
  case isTrue => exact ⟨Std.ExtTreeMap.size_erase_le, Std.ExtTreeMap.size_le_size_erase, rfl⟩
  case isFalse => exact ⟨Nat.le_refl _, Nat.le_add_right _ _, rfl⟩

/-- The handlers refresh the gauge of accounts as they should, but for what they drop. -/
theorem refreshed_recordGauge : recordGauge.Refreshed (GaugeInstr.exec lib) where
  owed_of_shows i n hn := by
    cases i with
    | setAccounts => rfl
    | _ => cases hn
  shows written i s n hn := by
    cases i with
    | setAccounts m =>
      cases hn
      exact ⟨rfl, rfl⟩
    | _ => cases hn
  waits written i s howed hshows := by
    cases i with
    | countAccounts => exact ⟨rfl, rfl, Nat.le_refl 1⟩
    | setAccounts => cases hshows
    | persist after r =>
      refine ⟨rfl, rfl, ?_⟩
      have hdue : after.refreshes (some r) = true := howed
      have hcount : ∀ b : Bool, 1 ≤ b.toNat + (!b).toNat := by decide
      have hdrops : recordGauge.drops written (.persist after r) s =
          !after.refreshes (if written then some r else none) := by simp [recordGauge, hdue]
      rw [hdrops, GaugeInstr.exec, countP_program]
      exact hcount _
    | _ => cases howed
  changes written i s howed := by
    cases i with
    | countAccounts | setAccounts => cases howed
    | call c =>
      refine ⟨rfl, ?_⟩
      cases c with
      | edit op h =>
        have hsize : recordGauge.actual (GaugeInstr.exec lib written (.call (.edit op h)) s).1 =
            recordGauge.actual s := size_lockedSection_of_edits h s.app.data
        omega
      | login chatId slot generated lang =>
        exact ⟨Std.ExtTreeMap.size_insert_le,
          Std.ExtTreeMap.size_le_size_insert.trans (Nat.le_add_right _ _)⟩
      | comptes chatId slot generated =>
        refine ⟨?_, Std.ExtTreeMap.size_le_size_insert.trans (Nat.le_add_right _ _)⟩
        have hdrops : recordGauge.drops written (.call (.comptes chatId slot generated)) s =
            decide (chatId ∉ s.app.data.accounts) := rfl
        rw [hdrops]
        by_cases hmem : chatId ∈ s.app.data.accounts
        · exact (size_insert_of_mem hmem).le.trans (Nat.le_add_right _ _)
        · rw [decide_eq_true hmem]
          exact Std.ExtTreeMap.size_insert_le
      | disconnect chatId slotId =>
        have hsize : recordGauge.actual
            (GaugeInstr.exec lib written (.call (.disconnect chatId slotId)) s).1 =
              recordGauge.actual s := size_removeAccount
        omega
      | logout chatId =>
        obtain ⟨hle, hge, howes⟩ := size_call_logout lib written s chatId
        omega
    | eraseChat chatId =>
      exact ⟨rfl, Std.ExtTreeMap.size_erase_le.trans (Nat.le_add_right _ _),
        Std.ExtTreeMap.size_le_size_erase⟩
    | _ => exact ⟨rfl, Nat.le_add_right _ _, Nat.le_add_right _ _⟩
  reads written i s j hj n hn := by
    cases i with
    | countAccounts =>
      obtain rfl := List.mem_singleton.mp hj
      cases hn
      rfl
    | insertUndo | removeUndo | eraseChat | readPendingUndo =>
      obtain rfl := List.mem_singleton.mp hj
      cases hn
    | setPendingUndos | setAccounts => cases hj
    | call c =>
      rcases mem_exec_call hj with ⟨c, rfl⟩ | rfl | ⟨r, rfl⟩ | ⟨chatId, rfl⟩ <;> cases hn
    | persist after r =>
      rcases mem_program hj with ⟨c, rfl⟩ | rfl <;> cases hn

/-- At the start the gauge of the records is exact. -/
theorem near_recordGauge_start (handlers : List GaugeHandler)
    (hshown : metrics.accounts = app.data.accounts.size) :
    recordGauge.Near (GaugeHandler.start app metrics handlers) 0 := by
  have hg : recordGauge.Refreshed (GaugeInstr.exec .concrete) := refreshed_recordGauge
  refine Gauge.near_start hg hshown ?_
  intro p hp i hi
  obtain ⟨handler, -, rfl⟩ := List.mem_map.mp hp
  rcases handler.mem_program hi with ⟨chatId, pending, rfl⟩ | ⟨chatId, rfl⟩ | ⟨c, rfl⟩ <;> rfl

/-- **The gauge of accounts** is off by no more than the refreshes that are owed and those that were
dropped, by a failing write or by an `/accounts` that makes the record, as long as no handler adds
or removes a record while another is about to set the gauge. -/
theorem accounts_near (handlers : List GaugeHandler)
    (hshown : metrics.accounts = app.data.accounts.size)
    (x : Execution (GaugeInstr.step lib) (GaugeHandler.start app metrics handlers))
    (halone : ∀ k < x.events.length, (x.state (k + 1)).state.app.data.accounts.size ≠
      (x.state k).state.app.data.accounts.size → recordGauge.Quiet (x.state k)) {k : ℕ}
    (hk : k ≤ x.events.length) :
    let s := x.state k
    s.state.metrics.accounts ≤
        s.state.app.data.accounts.size + recordGauge.owing s + recordGauge.droppedIn x k ∧
      s.state.app.data.accounts.size ≤
        s.state.metrics.accounts + recordGauge.owing s + recordGauge.droppedIn x k ∧
      (recordGauge.owing s = 0 → recordGauge.droppedIn x k = 0 →
        s.state.metrics.accounts = s.state.app.data.accounts.size) := by
  have hnear := Gauge.near_execution refreshed_recordGauge
    (near_recordGauge_start handlers hshown) x halone hk
  refine ⟨hnear.shown_le, hnear.actual_le, fun howing hdropped => ?_⟩
  rw [hdropped] at hnear
  exact hnear.exact howing

/-- What the handlers of a login do before they count, for a chat without a record. -/
def loggedIn (data : StoreData) (chatId : ChatId) (slot : AccountSlot)
    (generated : GeneratedSlotId) (lang : String) : StoreData :=
  (Store.addAccount chatId slot generated data).1.modify chatId fun account =>
    { account with language := some lang }

/-- A first login adds a record. -/
theorem size_loggedIn {data : StoreData} {chatId : ChatId} (h : chatId ∉ data.accounts)
    (slot : AccountSlot) (generated : GeneratedSlotId) (lang : String) :
    (loggedIn data chatId slot generated lang).accounts.size = data.accounts.size + 1 := by
  rw [loggedIn, StoreData.modify, Std.ExtTreeMap.size_modify, Store.addAccount,
    Std.ExtTreeMap.size_insert, if_neg (Std.ExtTreeMap.contains_iff_mem.not.mpr h)]

/-- A task that nothing blocks takes its next step. -/
theorem step_of_task {s : System Gauged GaugeInstr} {i : ℕ} {instr : GaugeInstr}
    {rest : List GaugeInstr} (h : s.tasks[i]? = some (instr :: rest))
    (hfree : GaugeInstr.blocked s.tasks instr = false) (written : Bool) :
    GaugeInstr.step lib s (i, written) = some ⟨(GaugeInstr.exec lib written instr s.state).1,
      s.tasks.set i ((GaugeInstr.exec lib written instr s.state).2 ++ rest)⟩ :=
  System.step_eq_some_iff.mpr ⟨instr, rest, h, hfree, rfl⟩

/-- A login up to its refresh. -/
theorem run_login {tasks : List (List GaugeInstr)} {i : ℕ} {chatId : ChatId} {slot : AccountSlot}
    {generated : GeneratedSlotId} {lang : String}
    (h : tasks[i]? = some [.call (.login chatId slot generated lang)]) :
    run (GaugeInstr.step lib) ⟨⟨app, metrics⟩, tasks⟩ (List.replicate 4 (i, true)) =
      some ⟨⟨{ app with data := loggedIn app.data chatId slot generated lang }, metrics⟩,
        tasks.set i [.countAccounts]⟩ := by
  have hget : ∀ p, (tasks.set i p)[i]? = some p := fun p => by
    rw [List.getElem?_set_self', h]
    rfl
  -- the record is there when the language is stored
  have hlanguage : Op.lockedSection lib (.setLanguage chatId lang)
      (Store.addAccount chatId slot generated app.data).1 =
        (loggedIn app.data chatId slot generated lang, .persist (.bool true)) := by
    rw [Op.lockedSection, Store.setLanguage, Store.addAccount, Map.getElem?_insert, if_pos rfl]
    rfl
  let added : Gauged :=
    ⟨{ app with data := (Store.addAccount chatId slot generated app.data).1 }, metrics⟩
  let stored : Gauged :=
    ⟨{ app with data := loggedIn app.data chatId slot generated lang }, metrics⟩
  have hadd : GaugeInstr.step lib ⟨⟨app, metrics⟩, tasks⟩ (i, true) = some ⟨added, tasks.set i
      [.persist (.login chatId lang) (.slotId (Store.slotIdFor slot generated))]⟩ := by
    rw [step_of_task h rfl]
    rfl
  have hwritten : GaugeInstr.step lib ⟨added, tasks.set i
      [.persist (.login chatId lang) (.slotId (Store.slotIdFor slot generated))]⟩ (i, true) =
        some ⟨added, tasks.set i ((AfterCall.login chatId lang).program (some .unit))⟩ := by
    rw [step_of_task (hget _) rfl, List.set_set]
    rfl
  have hstore : GaugeInstr.step lib ⟨added, tasks.set i
      ((AfterCall.login chatId lang).program (some .unit))⟩ (i, true) =
        some ⟨stored, tasks.set i [.persist .nothing (.bool true), .countAccounts]⟩ := by
    rw [step_of_task (hget _) rfl, List.set_set]
    simp only [GaugeInstr.exec, StoreCall.op, added, hlanguage]
    rfl
  have hstored : GaugeInstr.step lib ⟨stored, tasks.set i
      [.persist .nothing (.bool true), .countAccounts]⟩ (i, true) =
        some ⟨stored, tasks.set i [.countAccounts]⟩ := by
    rw [step_of_task (hget _) rfl, List.set_set]
    rfl
  simp only [List.replicate, run_cons, run_nil, Option.bind_some, hadd, hwritten, hstore, hstored]
  rfl

/-- **A refresh can be lost.** In any state, when two chats log in at once and the second of them
has no record, every write can go through and both handlers end with the gauge one short: the first
counts, the second logs in and shows its count, and then the first shows what it had counted. -/
theorem overlapping_logins {c c' : ChatId} (hne : c ≠ c') (hc' : c' ∉ app.data.accounts)
    (slot slot' : AccountSlot) (generated generated' : GeneratedSlotId) (lang lang' : String) :
    ∃ events s, run (GaugeInstr.step lib) (GaugeHandler.start app metrics
        [.login c slot generated lang, .login c' slot' generated' lang']) events = some s ∧
      (∀ e ∈ events, e.2 = true) ∧ s.tasks = [[], []] ∧
      s.state.metrics.accounts + 1 = s.state.app.data.accounts.size := by
  let data := loggedIn app.data c slot generated lang
  let data' := loggedIn data c' slot' generated' lang'
  have hmem : c' ∉ data.accounts := by
    simpa [data, loggedIn, Store.addAccount, hne] using hc'
  have hfirst : run (GaugeInstr.step lib) ⟨⟨app, metrics⟩,
      [[.call (.login c slot generated lang)], [.call (.login c' slot' generated' lang')]]⟩
        (List.replicate 4 (0, true)) = some ⟨⟨{ app with data := data }, metrics⟩,
          [[.countAccounts], [.call (.login c' slot' generated' lang')]]⟩ := run_login rfl
  have hcount : run (GaugeInstr.step lib) ⟨⟨{ app with data := data }, metrics⟩,
      [[.countAccounts], [.call (.login c' slot' generated' lang')]]⟩ [(0, true)] =
        some ⟨⟨{ app with data := data }, metrics⟩,
          [[.setAccounts data.accounts.size], [.call (.login c' slot' generated' lang')]]⟩ := rfl
  have hsecond : run (GaugeInstr.step lib) ⟨⟨{ app with data := data }, metrics⟩,
      [[.setAccounts data.accounts.size], [.call (.login c' slot' generated' lang')]]⟩
        (List.replicate 4 (1, true)) = some ⟨⟨{ app with data := data' }, metrics⟩,
          [[.setAccounts data.accounts.size], [.countAccounts]]⟩ := run_login rfl
  have hshow : run (GaugeInstr.step lib) ⟨⟨{ app with data := data' }, metrics⟩,
      [[.setAccounts data.accounts.size], [.countAccounts]]⟩ [(1, true), (1, true), (0, true)] =
        some ⟨⟨{ app with data := data' }, { metrics with accounts := data.accounts.size }⟩,
          [[], []]⟩ := rfl
  refine ⟨_, _, run_trans (run_trans (run_trans hfirst hcount) hsecond) hshow, ?_, rfl, ?_⟩
  · decide
  · exact (size_loggedIn hmem slot' generated' lang').symm

end

/-! ### A bot without records -/

/-- A triage in chat 1. -/
def triageRun : Execution (GaugeInstr.step .concrete)
    (GaugeHandler.start (.new ⟨∅⟩) (.new 0) [.triage 1 ⟨none, "m1", ["inbox"], 0⟩]) where
  events := List.replicate 3 (0, true)
  enabled := rfl

/-- The main result for a triage, before the gauge is set. -/
theorem pendingUndos_near_triageRun :
    let s := triageRun.state 2
    s.state.metrics.pendingUndos ≤ s.state.app.pendingUndo.size + undoGauge.owing s ∧
      s.state.app.pendingUndo.size ≤ s.state.metrics.pendingUndos + undoGauge.owing s ∧
      (undoGauge.owing s = 0 → s.state.metrics.pendingUndos = s.state.app.pendingUndo.size) :=
  pendingUndos_near _ rfl triageRun (by decide)

/-- A login of chat 1. -/
def firstLogin : Execution (GaugeInstr.step .concrete)
    (GaugeHandler.start (.new ⟨∅⟩) (.new 0) [.login 1 sampleSlot sampleSlotId "en"]) where
  events := List.replicate 6 (0, true)
  enabled := rfl

/-- The main result for a login to its end. -/
theorem accounts_near_firstLogin :
    let s := firstLogin.state 6
    s.state.metrics.accounts ≤
        s.state.app.data.accounts.size + recordGauge.owing s + recordGauge.droppedIn firstLogin 6 ∧
      s.state.app.data.accounts.size ≤
        s.state.metrics.accounts + recordGauge.owing s + recordGauge.droppedIn firstLogin 6 ∧
      (recordGauge.owing s = 0 → recordGauge.droppedIn firstLogin 6 = 0 →
        s.state.metrics.accounts = s.state.app.data.accounts.size) := by
  refine accounts_near _ rfl firstLogin (fun k hk hchanged => ?_) (by decide)
  have hsix : k < 6 := hk
  -- the number of records changes in the first step only
  obtain _ | k := k
  · intro p hp i hi
    obtain rfl := List.mem_singleton.mp hp
    obtain rfl := List.mem_singleton.mp hi
    rfl
  · refine absurd ?_ hchanged
    have hcases : k = 0 ∨ k = 1 ∨ k = 2 ∨ k = 3 ∨ k = 4 := by omega
    rcases hcases with rfl | rfl | rfl | rfl | rfl <;> rfl

/-- The main result for chats 1 and 2. -/
theorem overlapping_logins_empty :
    ∃ events s, run (GaugeInstr.step .concrete) (GaugeHandler.start (.new ⟨∅⟩) (.new 0)
        [.login 1 sampleSlot sampleSlotId "en", .login 2 otherSlot sampleSlotId "fr"]) events =
          some s ∧
      (∀ e ∈ events, e.2 = true) ∧ s.tasks = [[], []] ∧
      s.state.metrics.accounts + 1 = s.state.app.data.accounts.size :=
  overlapping_logins (by decide) (by simp [AppState.new]) _ _ _ _ _ _

end Jmap2Telegram
