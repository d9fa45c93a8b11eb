import Jmap2Telegram.Transition.Programs

/-!
# Gauges

Tasks change a number, and a gauge shows it. An instruction that changes the number leaves its task
a refresh to run: to read the number, and then to show what it read. What was read is shown as it
was read, whatever happens in between; and a task may drop the refresh it owes.

* `Gauge.Near.step`: the gauge is off by no more than the refreshes the tasks still owe and those
  that were dropped, as long as the number does not change between a read and its show.
* `Gauge.near_execution`: so it is along an execution.
* `Gauge.Near.exact`: when nothing is owed and none was dropped, the gauge is exact.
-/

namespace Transition

universe u v w

/-- A number, the gauge that shows it, and what the instructions of the tasks have to do with it. -/
structure Gauge (σ : Type u) (ι : Type v) (α : Type w) where
  actual : σ → ℕ
  shown : σ → ℕ
  /-- The instruction refreshes the gauge, or leads to one that does. -/
  owed : ι → Bool
  /-- The number that the instruction shows, read before. -/
  shows? : ι → Option ℕ
  /-- With this answer the instruction leads to no refresh where one is due. -/
  drops : α → ι → σ → Bool

namespace Gauge

variable {σ : Type u} {ι : Type v} {α : Type w} (g : Gauge σ ι α)

/-- The instructions refresh the gauge as they should. -/
structure Refreshed (exec : α → ι → σ → σ × List ι) : Prop where
  owed_of_shows : ∀ i n, g.shows? i = some n → g.owed i = true
  shows : ∀ a i s n, g.shows? i = some n →
    g.shown (exec a i s).1 = n ∧ g.actual (exec a i s).1 = g.actual s
  /-- What is owed is passed on. -/
  waits : ∀ a i s, g.owed i = true → g.shows? i = none →
    g.shown (exec a i s).1 = g.shown s ∧ g.actual (exec a i s).1 = g.actual s ∧
      1 ≤ (exec a i s).2.countP g.owed + (g.drops a i s).toNat
  /-- What changes the number owes a refresh for it. -/
  changes : ∀ a i s, g.owed i = false →
    g.shown (exec a i s).1 = g.shown s ∧
      g.actual (exec a i s).1 ≤
        g.actual s + ((exec a i s).2.countP g.owed + (g.drops a i s).toNat) ∧
      g.actual s ≤
        g.actual (exec a i s).1 + ((exec a i s).2.countP g.owed + (g.drops a i s).toNat)
  /-- What is read is the number. -/
  reads : ∀ a i s, ∀ j ∈ (exec a i s).2, ∀ n, g.shows? j = some n → n = g.actual (exec a i s).1

/-- The refreshes that the tasks have still to run. -/
def owing (s : System σ ι) : ℕ := s.tasks.flatten.countP g.owed

/-- An event drops a refresh. -/
def dropsAt (s : System σ ι) (e : ℕ × α) : Bool :=
  match s.tasks[e.1]? with
  | some (instr :: _) => g.drops e.2 instr s.state
  | _ => false

/-- No task has read the number and not shown it yet. -/
def Quiet (s : System σ ι) : Prop := ∀ p ∈ s.tasks, ∀ i ∈ p, g.shows? i = none

/-- The gauge is off by no more than the refreshes that are owed, and so many that were dropped. -/
structure Near (s : System σ ι) (dropped : ℕ) : Prop where
  reads : ∀ p ∈ s.tasks, ∀ i ∈ p, ∀ n, g.shows? i = some n → n = g.actual s.state
  shown_le : g.shown s.state ≤ g.actual s.state + g.owing s + dropped
  actual_le : g.actual s.state ≤ g.shown s.state + g.owing s + dropped

variable {g} {blocked : List (List ι) → ι → Bool} {exec : α → ι → σ → σ × List ι}
  {s s' : System σ ι} {e : ℕ × α} {dropped : ℕ}

/-- What one task has still to run, put in the place of what it had. -/
theorem countP_flatten_set {f : ι → Bool} {tasks : List (List ι)} {i : ℕ} {p q : List ι}
    (h : tasks[i]? = some p) :
    (tasks.set i q).flatten.countP f + p.countP f = tasks.flatten.countP f + q.countP f := by
  induction tasks generalizing i with
  | nil => cases h
  | cons task tasks ih =>
    cases i with
    | zero =>
      rw [List.getElem?_cons_zero, Option.some.injEq] at h
      subst h
      simp only [List.set_cons_zero, List.flatten_cons, List.countP_append]
      omega
    | succ i =>
      rw [List.getElem?_cons_succ] at h
      have hrest := ih h
      simp only [List.set_cons_succ, List.flatten_cons, List.countP_append]
      omega

/-- **One step.** A gauge stays near its number, unless the number changes while a task has still to
show what it read. -/
theorem Near.step (hg : g.Refreshed exec) (h : g.Near s dropped)
    (hstep : System.step blocked exec s e = some s')
    (hquiet : g.actual s'.state ≠ g.actual s.state → g.Quiet s) :
    g.Near s' (dropped + (g.dropsAt s e).toNat) := by
  obtain ⟨instr, rest, htask, -, rfl⟩ := System.step_eq_some_iff.mp hstep
  have hmem : instr :: rest ∈ s.tasks := List.mem_of_getElem? htask
  have hcount : g.owing ⟨(exec e.2 instr s.state).1,
        s.tasks.set e.1 ((exec e.2 instr s.state).2 ++ rest)⟩ + (if g.owed instr then 1 else 0) =
      g.owing s + (exec e.2 instr s.state).2.countP g.owed := by
    have hset := countP_flatten_set (f := g.owed) (q := (exec e.2 instr s.state).2 ++ rest) htask
    rw [List.countP_cons, List.countP_append] at hset
    simp only [owing]
    omega
  have hdrops : g.dropsAt s e = g.drops e.2 instr s.state := by rw [dropsAt, htask]
  rw [hdrops]
  have hreads : ∀ p ∈ s.tasks.set e.1 ((exec e.2 instr s.state).2 ++ rest), ∀ i ∈ p, ∀ n,
      g.shows? i = some n → n = g.actual (exec e.2 instr s.state).1 := by
    -- what was read before is still the number, or there was nothing to show
    have hold : ∀ p ∈ s.tasks, ∀ i ∈ p, ∀ n, g.shows? i = some n →
        n = g.actual (exec e.2 instr s.state).1 := by
      intro p hp i hi n hn
      by_cases hsame : g.actual (exec e.2 instr s.state).1 = g.actual s.state
      · exact hsame ▸ h.reads p hp i hi n hn
      · have hnone := hquiet hsame p hp i hi
        rw [hn] at hnone
        cases hnone
    intro p hp i hi n hn
    rcases List.mem_or_eq_of_mem_set hp with hp | rfl
    · exact hold p hp i hi n hn
    · rcases List.mem_append.mp hi with hi | hi
      · exact hg.reads _ _ _ i hi n hn
      · exact hold _ hmem i (List.mem_cons_of_mem _ hi) n hn
  have hle := h.shown_le
  have hge := h.actual_le
  cases hshows : g.shows? instr with
  | some n =>
    -- the gauge shows the number
    have hn : n = g.actual s.state := h.reads _ hmem instr List.mem_cons_self n hshows
    obtain ⟨hshown, hactual⟩ := hg.shows e.2 instr s.state n hshows
    exact ⟨hreads, by dsimp only; omega, by dsimp only; omega⟩
  | none =>
    cases howed : g.owed instr with
    | true =>
      obtain ⟨hshown, hactual, hpassed⟩ := hg.waits e.2 instr s.state howed hshows
      rw [howed, if_pos rfl] at hcount
      exact ⟨hreads, by dsimp only; omega, by dsimp only; omega⟩
    | false =>
      obtain ⟨hshown, hup, hdown⟩ := hg.changes e.2 instr s.state howed
      rw [howed, if_neg Bool.false_ne_true] at hcount
      exact ⟨hreads, by dsimp only; omega, by dsimp only; omega⟩

/-- When nothing is owed and nothing was dropped, the gauge shows the number. -/
theorem Near.exact (h : g.Near s 0) (howing : g.owing s = 0) :
    g.shown s.state = g.actual s.state := by
  have hle := h.shown_le
  have hge := h.actual_le
  omega

/-- Tasks that owe nothing yet, under a gauge that shows its number. -/
theorem near_start (hg : g.Refreshed exec) (hshown : g.shown s.state = g.actual s.state)
    (hnone : ∀ p ∈ s.tasks, ∀ i ∈ p, g.owed i = false) : g.Near s 0 where
  reads p hp i hi n hn := by
    have howed : g.owed i = true := hg.owed_of_shows i n hn
    rw [hnone p hp i hi] at howed
    cases howed
  shown_le := by omega
  actual_le := by omega

/-! ### Executions -/

section

variable {start : System σ ι}

/-- The refreshes that the first events drop. -/
def droppedIn (g : Gauge σ ι α) (x : Execution (System.step blocked exec) start) (k : ℕ) : ℕ :=
  (List.range k).countP fun j => x.events[j]?.any (g.dropsAt (x.state j))

/-- Nothing is dropped where nothing can be. -/
theorem droppedIn_eq_zero (h : ∀ a i s, g.drops a i s = false)
    (x : Execution (System.step blocked exec) start) (k : ℕ) : g.droppedIn x k = 0 := by
  rw [droppedIn, List.countP_eq_zero]
  intro j _ hany
  obtain ⟨e, -, he⟩ := Option.any_eq_true _ _ |>.mp hany
  rw [dropsAt] at he
  split at he
  · rw [h] at he
    cases he
  · cases he

/-- **Along an execution** in which the number never changes between a read and its show, the gauge
is off by no more than the refreshes that are owed, and those that were dropped. -/
theorem near_execution (hg : g.Refreshed exec) (hstart : g.Near start 0)
    (x : Execution (System.step blocked exec) start)
    (hquiet : ∀ k < x.events.length,
      g.actual (x.state (k + 1)).state ≠ g.actual (x.state k).state → g.Quiet (x.state k))
    {k : ℕ} (hk : k ≤ x.events.length) : g.Near (x.state k) (g.droppedIn x k) := by
  refine x.induction (fun k s => g.Near s (g.droppedIn x k)) hstart ?_ hk
  intro k hk hnear hstep
  have hcount : g.droppedIn x (k + 1) =
      g.droppedIn x k + (g.dropsAt (x.state k) x.events[k]).toNat := by
    rw [droppedIn, List.range_succ, List.countP_append, ← droppedIn, List.countP_singleton,
      List.getElem?_eq_getElem hk, Option.any_some]
    cases g.dropsAt (x.state k) x.events[k] <;> rfl
  rw [hcount]
  exact hnear.step hg hstep (hquiet k hk)

end

end Gauge

end Transition
