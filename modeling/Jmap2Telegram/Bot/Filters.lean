import Jmap2Telegram.Bot.Updates

/-!
# The filters a chat asks for

`/mute` adds a term to the filters of a chat and `/unmute` takes it out, in any spelling that is
stored alike. Nothing else changes them as long as the chat has a record: no login, no account that
comes or goes, no sync, and no other chat. So a term is a filter if and only if the chat has last
asked for it.

* `filters_step`: one event.
* `mem_foldl_ask`: of several requests for a term the last one counts.
* `filters_asked`: so in every run, and what it mutes.
-/

namespace Jmap2Telegram

open Transition

/-- What a chat asks for: a term, as it is stored, that is to be a filter, or not to be one. -/
def UpdateEvent.filterAsk {Tz : Type} (s : Settings Tz) (lib : Externals) (c : ChatId)
    (e : UpdateEvent) : Option (String × Bool) :=
  match e.command? s c with
  | some (.mute term) =>
    if (Str.trim term).isEmpty then none else some (muteTerm lib (Str.trim term), true)
  | some (.unmute term) =>
    if (Str.trim term).isEmpty then none else some (muteTerm lib (Str.trim term), false)
  | _ => none

/-- The filters after a request. -/
def ask (filters : List String) : String × Bool → List String
  | (term, true) => muted filters term
  | (term, false) => unmuted filters term

/-- What the last request for a term was, if there was one. -/
def lastAsk (asks : List (String × Bool)) (term : String) : Option Bool :=
  (asks.reverse.find? fun a => a.1 == term).map Prod.snd

/-- The term was last asked to be a filter, or it was one before the chat asked for anything. -/
def Asked (filters : List String) (asks : List (String × Bool)) (term : String) : Prop :=
  ((lastAsk asks term).map (· = true)).getD (term ∈ filters)

/-! ### Requests -/

section

variable {filters : List String} {asks : List (String × Bool)} {term : String}

theorem lastAsk_concat {a : String × Bool} :
    lastAsk (asks ++ [a]) term = if a.1 = term then some a.2 else lastAsk asks term := by
  rw [lastAsk, List.reverse_concat, List.find?_cons]
  by_cases h : a.1 = term
  · simp [h]
  · rw [if_neg h, beq_false_of_ne h]
    rfl

theorem mem_ask {a : String × Bool} :
    term ∈ ask filters a ↔ if a.1 = term then a.2 = true else term ∈ filters := by
  obtain ⟨t, add⟩ := a
  cases add with
  | true =>
    by_cases h : t = term
    · subst h
      by_cases hmem : t ∈ filters <;> simp [ask, muted, hmem]
    · by_cases hmem : t ∈ filters <;> simp [ask, muted, hmem, h, Ne.symm h]
  | false =>
    by_cases h : t = term
    · simp [ask, unmuted, h]
    · simp [ask, unmuted, h, Ne.symm h]

/-- **The last request counts.** -/
theorem mem_foldl_ask : term ∈ asks.foldl ask filters ↔ Asked filters asks term := by
  induction asks using List.reverseRecOn with
  | nil => rfl
  | append_singleton asks a ih =>
    rw [List.foldl_concat, mem_ask, Asked, lastAsk_concat, ih]
    split <;> rfl

/-- No filter is there twice. -/
theorem nodup_foldl_ask (h : filters.Nodup) : (asks.foldl ask filters).Nodup := by
  refine List.foldlRecOn (motive := List.Nodup) asks ask h fun filters h a _ => ?_
  obtain ⟨t, add⟩ := a
  cases add with
  | true =>
    simp only [ask, muted]
    split
    · exact h
    case isFalse hmem =>
      refine List.nodup_append.mpr ⟨h, List.nodup_singleton t, fun u hu v hv => ?_⟩
      rw [List.mem_singleton.mp hv]
      rintro rfl
      exact hmem hu
  | false => exact h.filter _

end

/-! ### Every run -/

section

variable {Tz : Type} {s : Settings Tz} {lib : Externals} {app app' : AppState} {c : ChatId}
  {e : UpdateEvent}

theorem preferences?_ne_none (h : c ∈ app.data.accounts) : app.data.preferences? c ≠ none := by
  rw [StoreData.preferences?, Std.ExtTreeMap.getElem?_eq_some_getElem h]
  exact Option.some_ne_none _

/-- **One event** does to the filters of a chat with a record what the chat asks for. -/
theorem filters_step (hstep : UpdateEvent.step s lib app e = some app')
    (hbefore : c ∈ app.data.accounts) (hafter : c ∈ app'.data.accounts) :
    app'.data.filters c =
      ((e.filterAsk s lib c).map (ask (app.data.filters c))).getD (app.data.filters c) := by
  have hkept : (∀ command, e.command? s c = some command → command.writesPreferences = false) →
      app'.data.filters c = app.data.filters c := fun hwrites => by
    have hkeeps := keepsPreferences_step hstep hwrites
    rw [StoreData.filters_eq, StoreData.filters_eq,
      hkeeps.resolve_right (preferences?_ne_none hafter)]
  cases hcommand : e.command? s c with
  | none =>
    rw [UpdateEvent.filterAsk, hcommand]
    exact hkept fun command h => by (rw [hcommand] at h; cases h)
  | some command =>
    obtain ⟨threadId, code, answers, happ⟩ := step_of_command? hcommand hstep
    obtain ⟨p, hp⟩ := Option.ne_none_iff_exists'.mp (preferences?_ne_none hbefore)
    rw [UpdateEvent.filterAsk, hcommand]
    cases command with
    | mute term =>
      rw [happ, AppState.messageHandler, StoreData.filters_eq, AppState.preferences?_cmdMute, hp,
        StoreData.filters_eq, hp]
      dsimp only
      cases (Str.trim term).isEmpty
      · rw [if_pos ⟨rfl, rfl⟩]
        rfl
      · rw [if_neg fun h => by (cases h.2)]
        rfl
    | unmute term =>
      rw [happ, AppState.messageHandler, StoreData.filters_eq, AppState.preferences?_cmdUnmute, hp,
        StoreData.filters_eq, hp]
      dsimp only
      cases (Str.trim term).isEmpty
      · rw [if_pos ⟨rfl, rfl⟩]
        rfl
      · rw [if_neg fun h => by (cases h.2)]
        rfl
    | lang requested =>
      rw [happ, AppState.messageHandler, StoreData.filters_eq, AppState.preferences?_cmdLang, hp,
        StoreData.filters_eq, hp, if_pos rfl]
      split <;> rfl
    | login serverUrl token =>
      have hgone := preferences?_ne_none hafter
      rw [happ, AppState.messageHandler] at hgone ⊢
      rw [StoreData.filters_eq, AppState.preferences?_cmdLogin.resolve_right hgone, hp,
        StoreData.filters_eq, hp]
      rfl
    | _ =>
      refine hkept fun command h => ?_
      rw [hcommand] at h
      cases h
      rfl

/-- The filters after a run. -/
theorem filters_state (x : Execution (UpdateEvent.step s lib) app)
    (hkeeps : ∀ k ≤ x.events.length, c ∈ (x.state k).data.accounts) {k : ℕ}
    (hk : k ≤ x.events.length) : (x.state k).data.filters c =
      ((x.events.take k).filterMap (UpdateEvent.filterAsk s lib c)).foldl ask
        (app.data.filters c) := by
  induction k with
  | zero => rw [x.state_zero, List.take_zero, List.filterMap_nil, List.foldl_nil]
  | succ k ih =>
    have hlt : k < x.events.length := hk
    rw [filters_step (x.state_succ hlt) (hkeeps k hlt.le) (hkeeps (k + 1) hk), ih hlt.le,
      List.take_succ_eq_append_getElem hlt, List.filterMap_append, List.foldl_append,
      List.filterMap_cons, List.filterMap_nil]
    cases UpdateEvent.filterAsk s lib c x.events[k] <;> rfl

/-- **What a chat asked for is muted.** In every run in which a chat keeps its record, whatever else
happens to it and to the others: its filters are what it last asked for, each of them once if they
were so at the start, and a message is muted exactly if one of these terms stands in it. -/
theorem filters_asked (x : Execution (UpdateEvent.step s lib) app)
    (hkeeps : ∀ k ≤ x.events.length, c ∈ (x.state k).data.accounts) {k : ℕ}
    (hk : k ≤ x.events.length) :
    let asks := (x.events.take k).filterMap (UpdateEvent.filterAsk s lib c)
    let filters := (x.state k).data.filters c
    (∀ term, term ∈ filters ↔ Asked (app.data.filters c) asks term) ∧
      ((app.data.filters c).Nodup → filters.Nodup) ∧
      ∀ summary, isMuted lib summary filters = true ↔
        ∃ term, Asked (app.data.filters c) asks term ∧
          (Names lib summary term ∨ Straddles lib summary term) := by
  have hfilters := filters_state x hkeeps hk
  have hmem : ∀ term, term ∈ (x.state k).data.filters c ↔ Asked (app.data.filters c)
      ((x.events.take k).filterMap (UpdateEvent.filterAsk s lib c)) term := fun term => by
    rw [hfilters, mem_foldl_ask]
  refine ⟨hmem, fun hnodup => ?_, fun summary => ?_⟩
  · rw [hfilters]
    exact nodup_foldl_ask hnodup
  · rw [isMuted_iff]
    simp only [hmem]

end

/-- Chat 4 mutes a term and unmutes it in another spelling. -/
def mutesRun : Execution (UpdateEvent.step forChat4 .concrete) twoChats where
  events :=
    [.message ⟨4, true, none, none, some (some (.mute "A"))⟩ noAnswers,
      .message ⟨4, true, none, none, some (some (.unmute " a"))⟩ noAnswers]
  enabled := rfl

/-- The main result for these commands. -/
theorem filters_asked_mutesRun :
    (∀ term, term ∈ (mutesRun.state 2).data.filters 4 ↔
      Asked (twoChats.data.filters 4) [("a", true), ("a", false)] term) ∧
      ((mutesRun.state 2).data.filters 4).Nodup := by
  have hkeeps : ∀ k ≤ mutesRun.events.length, 4 ∈ (mutesRun.state k).data.accounts := by
    decide +kernel
  have hasks : (mutesRun.events.take 2).filterMap (UpdateEvent.filterAsk forChat4 .concrete 4) =
      [("a", true), ("a", false)] := by
    decide +kernel
  obtain ⟨hmem, hnodup, -⟩ := filters_asked mutesRun hkeeps (Nat.le_refl 2)
  rw [hasks] at hmem
  exact ⟨hmem, hnodup (by decide +kernel)⟩

end Jmap2Telegram
