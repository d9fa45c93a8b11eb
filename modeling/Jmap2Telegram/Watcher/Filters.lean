import Jmap2Telegram.State.Contents
import Jmap2Telegram.Watcher.News

/-!
# What a filter mutes

`mute` stores a term trimmed and in lower case. `is_muted` looks for it in one text: the subject,
the sender's name and the sender's address in lower case, with a blank between each two. A term
with a blank inside may therefore also match where one of the three ends and the next begins.

* `isMuted_iff`: a filter list mutes a message that one of its terms names or straddles.
* `not_straddles_of_forall`: a term without a blank straddles nothing.
* `filterExact_iff`: a filter matches what it names, and nothing else, unless it straddles.
-/

namespace Jmap2Telegram

/-- What the store keeps of a term: trimmed, in lower case. -/
def muteTerm (lib : Externals) (term : String) : String := lib.toLowercase (Str.trim term)

/-- The filters of a chat. -/
def StoreData.filters (data : StoreData) (chatId : ChatId) : List String :=
  (data.accounts[chatId]?.map Account.muted).getD []

section

variable {lib : Externals} {summary : EmailSummary} {term : String} {muted : List String}

/-- The texts a filter is about: the subject, the sender's name and address, in lower case. -/
def filteredTexts (lib : Externals) (summary : EmailSummary) : List String :=
  [lib.toLowercase summary.subject, lib.toLowercase (summary.fromName.getD ""),
    lib.toLowercase (summary.fromAddr.getD "")]

/-- The term stands in one of these texts. -/
def Names (lib : Externals) (summary : EmailSummary) (term : String) : Prop :=
  ∃ text ∈ filteredTexts lib summary, term.toList <:+: text.toList

/-- The term is the end of one text, a blank, and the beginning of what follows: of the name and the
address after the subject, of the address after the name. -/
def Straddles (lib : Externals) (summary : EmailSummary) (term : String) : Prop :=
  ∃ x y, term.toList = x ++ ' ' :: y ∧
    ((x <:+ (lib.toLowercase summary.subject).toList ∧
        y <+: (lib.toLowercase (summary.fromName.getD "")).toList ++
          ' ' :: (lib.toLowercase (summary.fromAddr.getD "")).toList) ∨
      (x <:+ (lib.toLowercase (summary.fromName.getD "")).toList ∧
        y <+: (lib.toLowercase (summary.fromAddr.getD "")).toList))

/-! ### Where a term is found -/

/-- What stands in the text is named or straddles. -/
theorem infix_haystack_iff :
    term.toList <:+: (lib.toLowercase summary.subject ++ " " ++
        lib.toLowercase (summary.fromName.getD "") ++ " " ++
        lib.toLowercase (summary.fromAddr.getD "")).toList ↔
      Names lib summary term ∨ Straddles lib summary term := by
  have hblank : " ".toList = [' '] := rfl
  simp only [String.toList_append, hblank, List.append_assoc, List.cons_append, List.nil_append,
    Str.infix_append_cons_iff, Names, filteredTexts, List.mem_cons, List.not_mem_nil, or_false,
    exists_eq_or_imp, exists_eq_left, Straddles]
  constructor
  · rintro (hsubject | (hname | haddr | ⟨x, y, hterm, hx, hy⟩) | ⟨x, y, hterm, hx, hy⟩)
    · exact .inl (.inl hsubject)
    · exact .inl (.inr (.inl hname))
    · exact .inl (.inr (.inr haddr))
    · exact .inr ⟨x, y, hterm, .inr ⟨hx, hy⟩⟩
    · exact .inr ⟨x, y, hterm, .inl ⟨hx, hy⟩⟩
  · rintro ((hsubject | hname | haddr) | ⟨x, y, hterm, ⟨hx, hy⟩ | ⟨hx, hy⟩⟩)
    · exact .inl hsubject
    · exact .inr (.inl (.inl hname))
    · exact .inr (.inl (.inr (.inl haddr)))
    · exact .inr (.inr ⟨x, y, hterm, hx, hy⟩)
    · exact .inr (.inl (.inr (.inr ⟨x, y, hterm, hx, hy⟩)))

/-- A filter list mutes a message that one of its terms names or straddles. -/
theorem isMuted_iff :
    isMuted lib summary muted = true ↔
      ∃ term ∈ muted, Names lib summary term ∨ Straddles lib summary term := by
  cases muted with
  | nil => simp [isMuted]
  | cons t ts =>
    simp only [isMuted, List.isEmpty_cons, Bool.false_eq_true, if_false, List.any_eq_true,
      decide_eq_true_eq, infix_haystack_iff]

/-- A term without a blank straddles nothing. -/
theorem not_straddles_of_forall (h : ∀ c ∈ term.toList, c ≠ ' ') :
    ¬Straddles lib summary term := by
  rintro ⟨x, y, hterm, -⟩
  exact h ' ' (hterm ▸ by simp) rfl

end

/-! ### Muting and unmuting -/

section

variable {lib : Externals} {data : StoreData} {chatId : ChatId} {account : Account}

/-- The first filter of a chat. -/
theorem filters_mute (haccount : data.accounts[chatId]? = some account)
    (hmuted : account.muted = []) (t : String) :
    ((Op.mute chatId t).apply lib data).filters chatId = [muteTerm lib t] := by
  simp only [Op.apply, Op.lockedSection, Store.mute, haccount, hmuted, List.not_mem_nil, if_false,
    StoreData.filters, StoreData.getElem?_modify, if_true, Option.map_some, Option.getD_some,
    List.nil_append]
  rfl

/-- After a term is unmuted no filter is it, and the others are as they were. -/
theorem filters_unmute (t : String) :
    ((Op.unmute chatId t).apply lib data).filters chatId =
      (data.filters chatId).filter fun m => m != muteTerm lib t := by
  have hterm : lib.toLowercase (Str.trim t) = muteTerm lib t := rfl
  rcases haccount : data.accounts[chatId]? with - | account
  · simp [Op.apply, Op.lockedSection, Store.unmute, StoreData.filters, haccount]
  · simp only [Op.apply, Op.lockedSection, Store.unmute, haccount, hterm]
    by_cases hlength : (account.muted.filter fun m => m != muteTerm lib t).length =
        account.muted.length
    · have hsame := List.filter_sublist.eq_of_length hlength
      simp only [if_pos hlength, StoreData.filters, haccount, Option.map_some, Option.getD_some]
      exact hsame.symm
    · simp only [if_neg hlength, StoreData.filters, StoreData.getElem?_modify, if_true, haccount,
        Option.map_some, Option.getD_some]

/-- A filter matches exactly what it names: muting a term mutes the messages that have it in one of
their texts, and unmuting it, in any spelling that is stored alike, leaves none muted. -/
def FilterExact (lib : Externals) (data : StoreData) (chatId : ChatId) (t : String)
    (summary : EmailSummary) : Prop :=
  (isMuted lib summary (((Op.mute chatId t).apply lib data).filters chatId) = true ↔
      Names lib summary (muteTerm lib t)) ∧
    ∀ t', muteTerm lib t' = muteTerm lib t → ∀ other : EmailSummary,
      isMuted lib other (((Op.unmute chatId t').apply lib
        ((Op.mute chatId t).apply lib data)).filters chatId) = false

/-- After a first filter the messages muted are those the term names or straddles. -/
theorem isMuted_mute_iff (haccount : data.accounts[chatId]? = some account)
    (hmuted : account.muted = []) (t : String) (summary : EmailSummary) :
    isMuted lib summary (((Op.mute chatId t).apply lib data).filters chatId) = true ↔
      Names lib summary (muteTerm lib t) ∨ Straddles lib summary (muteTerm lib t) := by
  rw [filters_mute haccount hmuted, isMuted_iff]
  simp only [List.mem_singleton, exists_eq_left]

/-- After the first filter is removed again nothing is muted. -/
theorem isMuted_unmute (haccount : data.accounts[chatId]? = some account)
    (hmuted : account.muted = []) {t t' : String} (ht' : muteTerm lib t' = muteTerm lib t)
    (other : EmailSummary) :
    isMuted lib other (((Op.unmute chatId t').apply lib
      ((Op.mute chatId t).apply lib data)).filters chatId) = false := by
  rw [filters_unmute, filters_mute haccount hmuted, ht']
  simp [isMuted]

/-- **Main result.** A filter matches exactly what it names, unless it straddles two texts of a
message and stands in none. -/
theorem filterExact_iff (haccount : data.accounts[chatId]? = some account)
    (hmuted : account.muted = []) (t : String) (summary : EmailSummary) :
    FilterExact lib data chatId t summary ↔
      Names lib summary (muteTerm lib t) ∨ ¬Straddles lib summary (muteTerm lib t) := by
  have hunmute : ∀ t', muteTerm lib t' = muteTerm lib t → ∀ other : EmailSummary,
      isMuted lib other (((Op.unmute chatId t').apply lib
        ((Op.mute chatId t).apply lib data)).filters chatId) = false :=
    fun _ ht' other => isMuted_unmute haccount hmuted ht' other
  rw [FilterExact, and_iff_left hunmute, isMuted_mute_iff haccount hmuted]
  by_cases hnames : Names lib summary (muteTerm lib t) <;> simp [hnames]

end

/-! ### A message between whose texts a term stands -/

/-- A message on the news, from a paper. -/
def newsSummary : EmailSummary :=
  ⟨"m1", "Weekly news", some "Paper Ltd", some "desk@a.b", "", none, []⟩

theorem straddles_newsSummary : Straddles .concrete newsSummary (muteTerm .concrete "News Paper") :=
  ⟨"news".toList, "paper".toList, by decide +kernel, .inl ⟨by decide +kernel, by decide +kernel⟩⟩

theorem not_names_newsSummary : ¬Names .concrete newsSummary (muteTerm .concrete "News Paper") := by
  unfold Names filteredTexts
  decide +kernel

theorem getElem?_oneSlotData : oneSlotData.accounts[(1 : ChatId)]? = some
    { Account.empty with accounts := (∅ : Map String AccountSlot).insert "default" sampleSlot } :=
  Std.ExtTreeMap.getElem?_insert_self

/-- A filter of two words mutes a message neither whose subject nor whose sender has them. -/
theorem not_filterExact_newsSummary :
    Str.trim "News Paper" ≠ "" ∧
      ¬FilterExact .concrete oneSlotData 1 "News Paper" newsSummary := by
  refine ⟨by decide +kernel, fun h => not_names_newsSummary (h.1.mp ?_)⟩
  exact (isMuted_mute_iff getElem?_oneSlotData rfl _ _).mpr (.inr straddles_newsSummary)

/-- The main result at a filter of one word, whose subject has it. -/
theorem filterExact_iff_newsSummary :
    FilterExact .concrete oneSlotData 1 "NEWS" newsSummary ↔
      Names .concrete newsSummary (muteTerm .concrete "NEWS") ∨
        ¬Straddles .concrete newsSummary (muteTerm .concrete "NEWS") :=
  filterExact_iff getElem?_oneSlotData rfl _ _

end Jmap2Telegram
