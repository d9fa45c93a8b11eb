import Jmap2Telegram.Prune.Protected

/-!
# The images a release may need

Rule 2 means to keep the image of the commit `main` is on and the images of the released commits. It
takes the tags of a version, joined by blanks, for one tag: the image of such a commit is kept for
it if it has no second tag.

* `mem_staleTags`: rule 2 selects what it decides to delete on a turn of its loop.
* `mem_commitsTsv`: the lines it goes through are those of the versions with `sha-*` tags only.
* `candidatesKept_iff`: when no image of such a commit is selected.
-/

namespace Jmap2Telegram.Prune

open Shell

namespace Run

variable {r : Run}

/-! ### The turns of the loop over `commits.tsv` -/

/-- What is left of the input after the turn of a line. -/
def afterTurn (r : Run) (line : CommitLine) (stdin : List CommitLine) : List CommitLine :=
  if startsWith "sha-" line.tag then (r.grepReleased (dropPrefix "sha-" line.tag) stdin).2
  else stdin

/-- A turn reads lines from the list and puts none back. -/
theorem length_afterTurn_le (r : Run) (line : CommitLine) (stdin : List CommitLine) :
    (r.afterTurn line stdin).length ≤ stdin.length := by
  unfold afterTurn
  split
  · exact r.length_grepReleased_le _ _
  · exact le_rfl

theorem mem_of_mem_afterTurn {line line' : CommitLine} {stdin : List CommitLine}
    (h : line' ∈ r.afterTurn line stdin) : line' ∈ stdin := by
  rw [afterTurn, grepReleased] at h
  split at h
  · split at h
    · exact List.mem_of_mem_drop h
    · exact h
  · exact h

/-- The lines that get a turn, each with the lines behind it. -/
def turns (r : Run) : List CommitLine → List (CommitLine × List CommitLine)
  | [] => []
  | line :: stdin => (line, stdin) :: turns r (r.afterTurn line stdin)
termination_by lines => lines.length
decreasing_by exact Nat.lt_succ_of_le (r.length_afterTurn_le _ _)

/-- A turn on which a version is selected. -/
structure Deletes (r : Run) (line : CommitLine) (stdin : List CommitLine) : Prop where
  sha : startsWith "sha-" line.tag = true
  unreleased : (r.grepReleased (dropPrefix "sha-" line.tag) stdin).1 = false
  not_head : ¬(r.headSha ≠ "" ∧ dropPrefix "sha-" line.tag = r.headSha)
  old : ¬r.ageCutoff < line.created

/-- What rule 2 selects on the turn of a line, and after it. -/
theorem mem_staleTags_cons {line : CommitLine} {stdin : List CommitLine} {id : ℕ} :
    id ∈ r.staleTags (line :: stdin) ↔
      (r.Deletes line stdin ∧ line.id = id) ∨ id ∈ r.staleTags (r.afterTurn line stdin) := by
  rw [staleTags, afterTurn]
  rcases hsha : startsWith "sha-" line.tag with - | -
  · have hkept : ¬r.Deletes line stdin := fun h => absurd h.sha (by simp [hsha])
    simp [hkept]
  · simp only [Bool.not_true, Bool.false_eq_true, if_false, if_true]
    split
    next hfound =>
      have hkept : ¬r.Deletes line stdin := fun h => absurd h.unreleased (by simp [hfound])
      simp [hkept]
    next hfound =>
      split
      next hhead =>
        have hkept : ¬r.Deletes line stdin := fun h => h.not_head hhead
        simp [hkept]
      next hhead =>
        split
        next hyoung =>
          have hkept : ¬r.Deletes line stdin := fun h => h.old hyoung
          simp [hkept]
        next hold =>
          have hdeleted : r.Deletes line stdin :=
            ⟨hsha, Bool.eq_false_iff.mpr hfound, hhead, hold⟩
          simp [hdeleted, eq_comm]

/-- Rule 2 selects what it decides to delete on a turn of its loop. -/
theorem mem_staleTags {lines : List CommitLine} {id : ℕ} :
    id ∈ r.staleTags lines ↔
      ∃ line stdin, (line, stdin) ∈ r.turns lines ∧ r.Deletes line stdin ∧ line.id = id := by
  fun_induction turns r lines with
  | case1 => simp [staleTags]
  | case2 line stdin ih =>
    rw [mem_staleTags_cons, ih]
    constructor
    · rintro (h | ⟨line', stdin', hturn, h⟩)
      · exact ⟨line, stdin, List.mem_cons_self, h⟩
      · exact ⟨line', stdin', List.mem_cons_of_mem _ hturn, h⟩
    · rintro ⟨line', stdin', hturn, h⟩
      rcases List.mem_cons.mp hturn with heq | hturn
      · obtain ⟨rfl, rfl⟩ := Prod.mk.injEq .. ▸ heq
        exact .inl h
      · exact .inr ⟨line', stdin', hturn, h⟩

/-- A line that gets a turn is a line of the file. -/
theorem mem_of_mem_turns {lines : List CommitLine} {line : CommitLine} {stdin : List CommitLine}
    (h : (line, stdin) ∈ r.turns lines) : line ∈ lines := by
  fun_induction turns r lines with
  | case1 => exact absurd h List.not_mem_nil
  | case2 line' stdin' ih =>
    rcases List.mem_cons.mp h with heq | h
    · exact List.mem_cons.mpr (.inl (congrArg Prod.fst heq))
    · refine List.mem_cons_of_mem _ (mem_of_mem_afterTurn (ih h))

end Run

variable {r : Run} {version : Version} {commit : String}

/-! ### The field of the tags -/

/-- The line of a version in `commits.tsv`. -/
def Version.commitLine (version : Version) : CommitLine :=
  ⟨version.createdAt, version.id, version.field⟩

/-- All tags of the version are `sha-*`, and it has one. -/
def Version.ShaOnly (version : Version) : Prop :=
  version.tags ≠ [] ∧ ∀ tag ∈ version.tags, startsWith "sha-" tag.text = true

instance : DecidablePred Version.ShaOnly :=
  fun version => inferInstanceAs (Decidable (version.tags ≠ [] ∧ _))

/-- The version carries the per-commit tag of this commit. -/
def Version.Carries (version : Version) (commit : String) : Prop :=
  ∃ tag ∈ version.tags, tag.text = "sha-" ++ commit

/-- `awk` finds the tags in their field. -/
theorem Version.words_field (version : Version) :
    words version.field = version.tags.map Tag.text := by
  refine words_intercalate (by simpa using fun tag _ => tag.ne_empty) ?_
  simp only [List.forall_mem_map]
  intro tag _ c hc
  by_contra hblank
  rw [Bool.not_eq_false, isBlank, Bool.or_eq_true, Bool.or_eq_true, beq_iff_eq, beq_iff_eq,
    beq_iff_eq] at hblank
  have hplain := tag.plain c hc
  rcases hblank with (rfl | rfl) | rfl <;> exact absurd hplain (by decide)

/-- After a first tag `sha-*`, a second one leaves a blank in the field. -/
theorem Version.blank_mem_field {tag tag' : Tag} {tags : List Tag}
    (htags : version.tags = tag :: tag' :: tags) (hsha : startsWith "sha-" tag.text = true) :
    ' ' ∈ (dropPrefix "sha-" version.field).toList := by
  obtain ⟨first, hfirst⟩ := startsWith_iff.mp hsha
  have hfield : version.field =
      "sha-" ++ (first ++ " " ++ " ".intercalate ((tag' :: tags).map Tag.text)) := by
    rw [Version.field, htags, List.map_cons, hfirst, ← String.toList_inj]
    simp [String.toList_intercalate]
  rw [hfield, dropPrefix_append]
  simp

/-- A version with `sha-*` tags only has a field of that form. -/
theorem Version.ShaOnly.exists_field (h : version.ShaOnly) :
    ∃ commits, version.field = "sha-" ++ commits := by
  obtain ⟨hne, hsha⟩ := h
  rcases htags : version.tags with - | ⟨tag, tags⟩
  · exact absurd htags hne
  · obtain ⟨first, hfirst⟩ := startsWith_iff.mp (hsha tag (htags ▸ List.mem_cons_self))
    rw [Version.field, htags, List.map_cons, hfirst]
    rcases tags with - | ⟨tag', tags⟩
    · exact ⟨first, by simp⟩
    · exact ⟨first ++ (" " ++ " ".intercalate ((tag' :: tags).map Tag.text)), by
        simp [← String.toList_inj, String.toList_intercalate]⟩

namespace Run

/-! ### What rule 2 selects of the inventory -/

/-- `commits.tsv` has the versions all of whose tags are `sha-*`. -/
theorem commitsTsv_eq (r : Run) :
    r.commitsTsv = sortReverse CommitLine.text
      ((r.inventory.versions.filter fun version => version.ShaOnly).map Version.commitLine) := by
  rw [commitsTsv, listVersions, List.filterMap_map, ← List.filterMap_eq_map, List.filterMap_filter]
  refine congrArg _ (List.filterMap_congr fun version _ => ?_)
  have hany : ((words version.field).any fun tag => !startsWith "sha-" tag) = true ↔
      ¬∀ tag ∈ version.tags, startsWith "sha-" tag.text = true := by
    rw [Version.words_field, List.any_map, List.any_eq_true]
    simp
  simp only [Function.comp_apply, Version.line, Version.field_eq_empty, hany]
  by_cases htags : version.tags = []
  · simp [htags, Version.ShaOnly]
  · by_cases hsha : ∀ tag ∈ version.tags, startsWith "sha-" tag.text = true
    · have honly : version.ShaOnly := ⟨htags, hsha⟩
      rw [if_neg htags, if_neg (not_not.mpr hsha), if_pos (decide_eq_true honly)]
      rfl
    · simp [htags, hsha, Version.ShaOnly]

/-- The list has a line for each version with nothing but a commit tag. -/
theorem mem_commitsTsv {line : CommitLine} :
    line ∈ r.commitsTsv ↔
      ∃ version ∈ r.inventory.versions, version.ShaOnly ∧ version.commitLine = line := by
  rw [commitsTsv_eq, mem_sortReverse]
  simp [and_assoc]

/-- What rule 2 selects is selected on a turn of its own line. -/
theorem id_mem_staleTags (hversion : version ∈ r.inventory.versions) :
    version.id ∈ r.staleTags r.commitsTsv ↔
      ∃ stdin, (version.commitLine, stdin) ∈ r.turns r.commitsTsv ∧
        r.Deletes version.commitLine stdin := by
  rw [mem_staleTags]
  constructor
  · rintro ⟨line, stdin, hturn, hdeletes, hid⟩
    obtain ⟨version', hversion', -, rfl⟩ := mem_commitsTsv.mp (mem_of_mem_turns hturn)
    obtain rfl := r.inventory.eq_of_id_eq hversion' hversion hid
    exact ⟨stdin, hturn, hdeletes⟩
  · rintro ⟨stdin, hturn, hdeletes⟩
    exact ⟨_, stdin, hturn, hdeletes, rfl⟩

/-- Rule 1 selects no version with a tag. -/
theorem id_not_mem_orphans (hversion : version ∈ r.inventory.versions) (htags : version.tags ≠ [])
    (protectedTxt : List Digest) : version.id ∉ r.orphans protectedTxt := by
  intro h
  obtain ⟨version', hversion', hid, htags', -⟩ := mem_orphans.mp h
  obtain rfl := r.inventory.eq_of_id_eq hversion' hversion hid
  exact htags htags'

/-! ### The commits whose images are kept -/

/-- The commit `main` is on, and the released ones. -/
def Kept (r : Run) (commit : String) : Prop :=
  (r.headSha ≠ "" ∧ commit = r.headSha) ∨ ∃ c ∈ r.released, c.text = commit

/-- The line of the version gets no turn, or gets one on which `grep` takes its field for options
and succeeds. -/
def Skipped (r : Run) (version : Version) : Prop :=
  ∀ stdin, (version.commitLine, stdin) ∈ r.turns r.commitsTsv →
    startsWith "-" (dropPrefix "sha-" version.field) = true ∧
      (r.grepOptions (dropPrefix "sha-" version.field) stdin).1 = true

/-- Why a version that carries the tag of such a commit is kept. -/
inductive Spared (r : Run) (version : Version) : Prop
  | otherTag (tag : Tag) (htag : tag ∈ version.tags) (hother : startsWith "sha-" tag.text = false)
  | oneTag (commit : String) (hkept : r.Kept commit) (hfield : version.field = "sha-" ++ commit)
  | young (hyoung : r.ageCutoff < version.createdAt)
  | skipped (hskipped : r.Skipped version)

/-- A commit is never taken for options. -/
theorem startsWith_dash_commit (c : Commit) : startsWith "-" c.text = false := by
  rw [Bool.eq_false_iff]
  intro h
  obtain ⟨t, ht⟩ := startsWith_iff.mp h
  exact absurd (c.plain '-' (by simp [ht])) (by decide)

/-- A released commit is found in the list of them. -/
theorem grepX_released {pattern : String} (h : ∃ c ∈ r.released, c.text = pattern) :
    grepX pattern r.releasedTxt = true := by
  obtain ⟨c, hc, rfl⟩ := h
  exact grepX_of_mem (List.mem_map_of_mem ((mem_sortUnique _).mpr hc))

/-- What has a blank is not the name of a released commit. -/
theorem not_grepX_released {pattern : String} (h : ' ' ∈ pattern.toList) :
    grepX pattern r.releasedTxt = false := by
  refine not_grepX h (by decide) fun line hline hblank => ?_
  obtain ⟨c, -, rfl⟩ := List.mem_map.mp hline
  exact absurd (c.plain ' ' hblank) (by decide)

/-- A version the script spares is not deleted on its turn. -/
theorem not_deletes_of_spared (hversion : version ∈ r.inventory.versions) (h : r.Spared version)
    {stdin : List CommitLine} (hturn : (version.commitLine, stdin) ∈ r.turns r.commitsTsv) :
    ¬r.Deletes version.commitLine stdin := by
  intro hdeletes
  cases h with
  | otherTag tag htag hother =>
    obtain ⟨version', hversion', hsha, hline⟩ := mem_commitsTsv.mp (mem_of_mem_turns hturn)
    obtain rfl := r.inventory.eq_of_id_eq hversion' hversion (congrArg CommitLine.id hline)
    exact absurd (hsha.2 tag htag) (by simp [hother])
  | oneTag commit hkept hfield =>
    have hcommit : dropPrefix "sha-" version.commitLine.tag = commit := by
      rw [Version.commitLine, hfield, dropPrefix_append]
    rcases hkept with hhead | hreleased
    · exact hdeletes.not_head ⟨hhead.1, hcommit.trans hhead.2⟩
    · have hfound := hdeletes.unreleased
      obtain ⟨c, hc, hceq⟩ := hreleased
      rw [hcommit, ← hceq, grepReleased, startsWith_dash_commit] at hfound
      exact absurd hfound (by simp [grepX_released ⟨c, hc, rfl⟩])
  | young hyoung => exact hdeletes.old hyoung
  | skipped hskipped =>
    obtain ⟨hoptions, hfound⟩ := hskipped stdin hturn
    have hnot := hdeletes.unreleased
    rw [Version.commitLine, grepReleased, if_pos hoptions, hfound] at hnot
    exact absurd hnot (by simp)

/-- A version with a tag of such a commit that rule 2 does not select is spared. -/
theorem spared_of_not_deletes (hkept : r.Kept commit) (hcarries : version.Carries commit)
    (h : ∀ stdin, (version.commitLine, stdin) ∈ r.turns r.commitsTsv →
      ¬r.Deletes version.commitLine stdin) : r.Spared version := by
  by_contra hnot
  refine hnot (.skipped fun stdin hturn => ?_)
  have hsha : ∀ tag ∈ version.tags, startsWith "sha-" tag.text = true := by
    intro tag htag
    by_contra hother
    exact hnot (.otherTag tag htag (Bool.eq_false_iff.mpr hother))
  obtain ⟨tag, htag, htext⟩ := hcarries
  have honly : version.ShaOnly := ⟨List.ne_nil_of_mem htag, hsha⟩
  obtain ⟨commits, hfield⟩ := honly.exists_field
  have hdrop : dropPrefix "sha-" version.field = commits := by rw [hfield, dropPrefix_append]
  have hfound : (r.grepReleased commits stdin).1 = true := by
    by_contra hunreleased
    refine h stdin hturn ⟨?_, ?_, ?_, fun hyoung => hnot (.young hyoung)⟩
    · rw [Version.commitLine, hfield]
      exact startsWith_append _ _
    · rw [Version.commitLine, hdrop]
      exact Bool.eq_false_iff.mpr hunreleased
    · rw [Version.commitLine, hdrop]
      rintro ⟨hne, rfl⟩
      exact hnot (.oneTag r.headSha (.inl ⟨hne, rfl⟩) hfield)
  rw [hdrop]
  rw [grepReleased] at hfound
  split at hfound
  next hoptions => exact ⟨hoptions, hfound⟩
  next =>
    -- one tag would be that of the commit, and a second one leaves a blank
    rcases htags : version.tags with - | ⟨first, - | ⟨second, tags⟩⟩
    · exact absurd htags honly.1
    · rw [htags, List.mem_singleton] at htag
      subst htag
      have hone : version.field = "sha-" ++ commit := by
        rw [Version.field, htags, List.map_singleton, htext]
        simp
      exact absurd (.oneTag commit hkept hone) hnot
    · have hblank := Version.blank_mem_field htags (hsha first (htags ▸ List.mem_cons_self))
      rw [hdrop] at hblank
      rw [not_grepX_released hblank] at hfound
      exact absurd hfound (by simp)

/-- No version with the tag of a commit whose image is to be kept is selected, by either rule. -/
def CandidatesKept (r : Run) : Prop :=
  ∀ version ∈ r.inventory.versions, ∀ commit, r.Kept commit → version.Carries commit →
    ∀ fuel deletions, r.deleteTsv fuel = some deletions → version.id ∉ deletions

/-- **Main result.** The versions with the tag of such a commit are kept, if and only if each of
them has a tag of another form, has no second tag, is young or is skipped. -/
theorem candidatesKept_iff (r : Run) :
    r.CandidatesKept ↔ ∀ version ∈ r.inventory.versions, ∀ commit, r.Kept commit →
      version.Carries commit → r.Spared version := by
  refine forall₂_congr fun version hversion => forall₂_congr fun commit hkept =>
    forall_congr' fun hcarries => ?_
  have htags : version.tags ≠ [] := by
    obtain ⟨tag, htag, -⟩ := hcarries
    exact List.ne_nil_of_mem htag
  constructor
  · intro h
    obtain ⟨protectedTxt, hprotected⟩ := r.exists_protectedDigests
    have hnot := h _ _ (by rw [deleteTsv, hprotected, Option.map_some])
    rw [List.mem_append, not_or, id_mem_staleTags hversion] at hnot
    exact spared_of_not_deletes hkept hcarries fun stdin hturn hdeletes =>
      hnot.2 ⟨stdin, hturn, hdeletes⟩
  · intro h fuel deletions hdeletions
    obtain ⟨protectedTxt, -, rfl⟩ := Option.map_eq_some_iff.mp hdeletions
    rw [List.mem_append, not_or, id_mem_staleTags hversion]
    refine ⟨id_not_mem_orphans hversion htags protectedTxt, ?_⟩
    rintro ⟨stdin, hturn, hdeletes⟩
    exact not_deletes_of_spared hversion h hturn hdeletes

end Run

/-! ### An image of two commits -/

/-- A build that came out as the one before it: the commit `main` is on, `sha-5e`, and an older one
share a version. -/
def sharedVersion : Version :=
  ⟨1, indexDigest, "2026-01-01T00:00:00Z",
    [⟨"sha-5e", by decide, by decide⟩, ⟨"sha-3c", by decide, by decide⟩]⟩

def sharedImageRun : Run where
  inventory := ⟨[sharedVersion], by decide⟩
  graph := ⟨[], fun _ => [], fun _ _ hb => absurd hb List.not_mem_nil⟩
  inspectFails _ := false
  released := []
  headSha := "5e"
  cutoff := "2026-04-01T00:00:00Z"
  ageCutoff := "2026-03-02T00:00:00Z"
  grepOptions _ _ := (false, 0)

/-- Rule 2 selects the image of the commit `main` is on. -/
theorem not_candidatesKept_sharedImageRun : ¬sharedImageRun.CandidatesKept := by
  intro h
  obtain ⟨protectedTxt, hprotected⟩ := sharedImageRun.exists_protectedDigests
  have hversion : sharedVersion ∈ sharedImageRun.inventory.versions := List.mem_singleton_self _
  have hcommits : sharedImageRun.commitsTsv = [sharedVersion.commitLine] := by
    rw [Run.commitsTsv_eq, sortReverse]
    exact List.mergeSort_singleton _
  have hturn : (sharedVersion.commitLine, []) ∈ sharedImageRun.turns sharedImageRun.commitsTsv := by
    rw [hcommits, Run.turns]
    exact List.mem_cons_self
  have hstale : sharedVersion.id ∈ sharedImageRun.staleTags sharedImageRun.commitsTsv :=
    (Run.id_mem_staleTags hversion).mpr ⟨[], hturn,
      ⟨by decide +kernel, by decide +kernel, by decide +kernel, by decide +kernel⟩⟩
  refine h sharedVersion hversion "5e" (.inl ⟨by decide, rfl⟩) ⟨_, List.mem_cons_self, rfl⟩ _ _
    (by rw [Run.deleteTsv, hprotected, Option.map_some]) ?_
  exact List.mem_append_right _ hstale

end Jmap2Telegram.Prune
